import TradingSdk.Core.Wire

namespace TradingSdk

open Serde

abbrev PositionEpoch := UInt64
abbrev ClientTriggerGroupId := UInt64
abbrev ClientTriggerId := UInt64
abbrev TriggerSlippageBps := UInt32
abbrev TriggerConfigVersion := UInt64
abbrev TriggerMarkMaxAgeMs := UInt64
abbrev TriggerFutureSkewMs := UInt64
abbrev TriggerBracketLimit := UInt64

def maxTriggerSlippageBps : UInt32 := 9999

inductive TriggerValidationError where
  | zeroPositionEpoch
  | emptyBracket
  | zeroTriggerPrice
  | invalidSlippage
  | zeroClientGroupId
  | zeroClientTriggerId
  | duplicateClientTriggerId
  | enabledConfigMissingBound
  deriving DecidableEq

structure TriggerLimb where
  triggerPrice : UInt64
  maxSlippageBps : TriggerSlippageBps
  clientTriggerId : Option ClientTriggerId
  deriving DecidableEq

def TriggerLimb.schema : Schema TriggerLimb := .struct
  (.req "trigger_price" .u64 <| .req "max_slippage_bps" .u32 <|
   .req "client_trigger_id" (.option .u64) <| .nil)
  ⟨fun (triggerPrice, maxSlippageBps, clientTriggerId, ()) =>
    { triggerPrice, maxSlippageBps, clientTriggerId },
   fun x => (x.triggerPrice, x.maxSlippageBps, x.clientTriggerId, ()),
   fun _ => rfl, fun _ => rfl⟩

structure SetPositionTriggers where
  market : MarketId
  owner : Address
  expectedPositionEpoch : PositionEpoch
  stopLoss : Option TriggerLimb
  takeProfit : Option TriggerLimb
  clientGroupId : Option ClientTriggerGroupId
  deriving DecidableEq

def SetPositionTriggers.schema : Schema SetPositionTriggers := .struct
  (.req "market" .u32 <| .req "owner" Address.schema <| .req "expected_position_epoch" .u64 <|
   .req "stop_loss" (.option TriggerLimb.schema) <|
   .req "take_profit" (.option TriggerLimb.schema) <| .req "client_group_id" (.option .u64) <| .nil)
  ⟨fun (market, owner, expectedPositionEpoch, stopLoss, takeProfit, clientGroupId, ()) =>
    { market, owner, expectedPositionEpoch, stopLoss, takeProfit, clientGroupId },
   fun x => (x.market, x.owner, x.expectedPositionEpoch, x.stopLoss, x.takeProfit, x.clientGroupId,
     ()),
   fun _ => rfl, fun _ => rfl⟩

structure CancelPositionTriggers where
  market : MarketId
  owner : Address
  expectedPositionEpoch : PositionEpoch
  deriving DecidableEq

def CancelPositionTriggers.schema : Schema CancelPositionTriggers := .struct
  (.req "market" .u32 <| .req "owner" Address.schema <| .req "expected_position_epoch" .u64 <| .nil)
  ⟨fun (market, owner, expectedPositionEpoch, ()) => { market, owner, expectedPositionEpoch },
   fun x => (x.market, x.owner, x.expectedPositionEpoch, ()),
   fun _ => rfl, fun _ => rfl⟩

structure SetTriggerMarketConfig where
  market : MarketId
  expectedCurrentVersion : Option TriggerConfigVersion
  enabled : Bool
  maxTriggerSlippageBps : TriggerSlippageBps
  maxMarkAgeMs : TriggerMarkMaxAgeMs
  maxFuturePublishSkewMs : TriggerFutureSkewMs
  maxActiveBrackets : TriggerBracketLimit
  deriving DecidableEq

def SetTriggerMarketConfig.schema : Schema SetTriggerMarketConfig := .struct
  (.req "market" .u32 <| .req "expected_current_version" (.option .u64) <| .req "enabled" .bool <|
   .req "max_trigger_slippage_bps" .u32 <| .req "max_mark_age_ms" .u64 <|
   .req "max_future_publish_skew_ms" .u64 <| .req "max_active_brackets" .u64 <| .nil)
  ⟨fun (market, expectedCurrentVersion, enabled, maxTriggerSlippageBps, maxMarkAgeMs,
     maxFuturePublishSkewMs, maxActiveBrackets, ()) =>
    { market, expectedCurrentVersion, enabled, maxTriggerSlippageBps, maxMarkAgeMs,
      maxFuturePublishSkewMs, maxActiveBrackets },
   fun x => (x.market, x.expectedCurrentVersion, x.enabled, x.maxTriggerSlippageBps, x.maxMarkAgeMs,
     x.maxFuturePublishSkewMs, x.maxActiveBrackets, ()),
   fun _ => rfl, fun _ => rfl⟩

def TriggerLimb.validateFields (limb : TriggerLimb) : Except TriggerValidationError Unit :=
  if limb.triggerPrice = 0 then .error .zeroTriggerPrice
  else if ¬(1 ≤ limb.maxSlippageBps ∧ limb.maxSlippageBps ≤ maxTriggerSlippageBps) then
    .error .invalidSlippage
  else if limb.clientTriggerId = some 0 then .error .zeroClientTriggerId
  else .ok ()

/-- A bracket may not use one client identifier for both of its limbs. -/
def duplicateClientTriggerId : Option TriggerLimb → Option TriggerLimb → Bool
  | some stop, some take =>
    stop.clientTriggerId.isSome && decide (stop.clientTriggerId = take.clientTriggerId)
  | _, _ => false

def validateOptionalLimb : Option TriggerLimb → Except TriggerValidationError Unit
  | none => .ok ()
  | some limb => limb.validateFields

def SetPositionTriggers.validateFields (x : SetPositionTriggers) :
    Except TriggerValidationError Unit :=
  if x.expectedPositionEpoch = 0 then .error .zeroPositionEpoch
  else if x.stopLoss.isNone && x.takeProfit.isNone then .error .emptyBracket
  else if x.clientGroupId = some 0 then .error .zeroClientGroupId
  else do
    validateOptionalLimb x.stopLoss
    validateOptionalLimb x.takeProfit
    if duplicateClientTriggerId x.stopLoss x.takeProfit then .error .duplicateClientTriggerId
    else .ok ()

def CancelPositionTriggers.validateFields (x : CancelPositionTriggers) :
    Except TriggerValidationError Unit :=
  if x.expectedPositionEpoch = 0 then .error .zeroPositionEpoch else .ok ()

def SetTriggerMarketConfig.validateFields (x : SetTriggerMarketConfig) :
    Except TriggerValidationError Unit :=
  if x.maxTriggerSlippageBps > TradingSdk.maxTriggerSlippageBps then .error .invalidSlippage
  else if x.enabled ∧ (x.maxTriggerSlippageBps = 0 ∨ x.maxMarkAgeMs = 0 ∨
      x.maxFuturePublishSkewMs = 0 ∨ x.maxActiveBrackets = 0) then
    .error .enabledConfigMissingBound
  else .ok ()

theorem TriggerLimb.validateFields_eq_ok {limb : TriggerLimb} :
    limb.validateFields = .ok () ↔ limb.triggerPrice ≠ 0 ∧
      (1 ≤ limb.maxSlippageBps ∧ limb.maxSlippageBps ≤ maxTriggerSlippageBps) ∧
      limb.clientTriggerId ≠ some 0 := by
  rw [TriggerLimb.validateFields]
  split_ifs <;> simp_all

/-- Both limbs have an identifier, and it is the same one. -/
theorem duplicateClientTriggerId_eq_true {stop take : Option TriggerLimb} :
    duplicateClientTriggerId stop take = true ↔ ∃ id,
      stop.bind TriggerLimb.clientTriggerId = some id ∧
        take.bind TriggerLimb.clientTriggerId = some id := by
  cases stop with
  | none => simp [duplicateClientTriggerId]
  | some stop =>
    cases take with
    | none => simp [duplicateClientTriggerId]
    | some take =>
      simp only [duplicateClientTriggerId, Option.bind_some, Bool.and_eq_true, decide_eq_true_eq]
      constructor
      · intro h
        obtain ⟨id, hid⟩ := Option.isSome_iff_exists.mp h.1
        exact ⟨id, hid, h.2 ▸ hid⟩
      · intro h
        obtain ⟨id, hstop, htake⟩ := h
        exact ⟨Option.isSome_iff_exists.mpr ⟨id, hstop⟩, hstop.trans htake.symm⟩

theorem SetPositionTriggers.validateFields_eq_ok {x : SetPositionTriggers} :
    x.validateFields = .ok () ↔ x.expectedPositionEpoch ≠ 0 ∧
      (x.stopLoss.isNone && x.takeProfit.isNone) = false ∧ x.clientGroupId ≠ some 0 ∧
      validateOptionalLimb x.stopLoss = .ok () ∧ validateOptionalLimb x.takeProfit = .ok () ∧
      duplicateClientTriggerId x.stopLoss x.takeProfit = false := by
  rw [SetPositionTriggers.validateFields]
  by_cases hepoch : x.expectedPositionEpoch = 0
  · simp [hepoch]
  rw [if_neg hepoch, and_iff_right hepoch]
  cases hempty : x.stopLoss.isNone && x.takeProfit.isNone with
  | true => simp
  | false =>
    rw [if_neg Bool.false_ne_true, and_iff_right rfl]
    by_cases hgroup : x.clientGroupId = some 0
    · simp [hgroup]
    rw [if_neg hgroup, and_iff_right hgroup]
    cases validateOptionalLimb x.stopLoss with
    | error e => simp [bind, Except.bind]
    | ok u =>
      cases validateOptionalLimb x.takeProfit with
      | error e => simp [bind, Except.bind]
      | ok u => simp [bind, Except.bind]

theorem CancelPositionTriggers.validateFields_eq_ok {x : CancelPositionTriggers} :
    x.validateFields = .ok () ↔ x.expectedPositionEpoch ≠ 0 := by
  rw [CancelPositionTriggers.validateFields]
  split_ifs with h <;> simp [h]

theorem SetTriggerMarketConfig.validateFields_eq_ok {x : SetTriggerMarketConfig} :
    x.validateFields = .ok () ↔ x.maxTriggerSlippageBps ≤ TradingSdk.maxTriggerSlippageBps ∧
      ¬ (x.enabled = true ∧ (x.maxTriggerSlippageBps = 0 ∨ x.maxMarkAgeMs = 0 ∨
        x.maxFuturePublishSkewMs = 0 ∨ x.maxActiveBrackets = 0)) := by
  rw [SetTriggerMarketConfig.validateFields]
  split_ifs with h1 h2 <;> simp_all

/-- The clients compute whether an enabled configuration leaves a bound at zero. -/
theorem SetTriggerMarketConfig.missingBound_eq_false {x : SetTriggerMarketConfig} :
    (x.enabled && (decide (x.maxTriggerSlippageBps = 0) || decide (x.maxMarkAgeMs = 0) ||
      decide (x.maxFuturePublishSkewMs = 0) || decide (x.maxActiveBrackets = 0))) = false ↔
      ¬ (x.enabled = true ∧ (x.maxTriggerSlippageBps = 0 ∨ x.maxMarkAgeMs = 0 ∨
        x.maxFuturePublishSkewMs = 0 ∨ x.maxActiveBrackets = 0)) := by
  rw [← Bool.not_eq_true, Bool.and_eq_true]
  simp only [Bool.or_eq_true, decide_eq_true_eq, or_assoc]

end TradingSdk
