import TradingSdk.Js.TriggerFields
import TradingSdk.Json.Value
import TradingSdk.TriggerState.Checks

namespace TradingSdk.TriggerState.TypeScript

open Js Serde

def u64Max : Nat := 2^64 - 1

def u32Max : Nat := 2^32 - 1

def fail (message : String) : JsError := .error ("trigger decode: " ++ message)

def reject {α : Type} (message : String) : Except JsError α := .error (fail message)

/-- `if (!condition) throw`. -/
abbrev require (condition : Prop) [Decidable condition] (message : String) : Except JsError Unit :=
  check fail condition message

abbrev tuple : Value → String → Nat → Except JsError Value := checkTuple fail

/-- `/^\d+$/`. -/
def isDigits (s : String) : Bool := !s.isEmpty && s.toList.all Char.isDigit

/-- `BigInt(value)` of a text of digits. -/
def digitsValue (s : String) : Nat := Json.ofDecimal (s.toList.map fun c => c.toNat - 48)

/-- What `uint` reads out of a bigint, a text of digits or a safe integer. -/
def readUint : Value → Option Nat
  | .wide n => if 0 ≤ n ∧ n ≤ u64Max then some n.toNat else none
  | .str s => if isDigits s ∧ digitsValue s ≤ u64Max then some (digitsValue s) else none
  | .short n => if 0 ≤ n.1 then some n.1.toNat else none
  | .float (some q) => if q.den = 1 ∧ 0 ≤ q ∧ q < 2^53 then some q.num.toNat else none
  | _ => none

def uint (value : Value) (name : String) : Except JsError Nat :=
  match readUint value with
  | some n => .ok n
  | none => reject s!"{name} is not an exact u64"

def uint32 (value : Value) (name : String) : Except JsError Nat := do
  let n ← uint value name
  require (n ≤ u32Max) s!"{name} exceeds u32"
  return n

/-- An integer of one byte among the numbers. -/
def readByte : Value → Option UInt8
  | .short n => if 0 ≤ n.1 ∧ n.1 ≤ 255 then some (UInt8.ofNat n.1.toNat) else none
  | .float (some q) =>
    if q.den = 1 ∧ 0 ≤ q ∧ q ≤ 255 then some (UInt8.ofNat q.num.toNat) else none
  | _ => none

def bytes20 (value : Value) (name : String) : Except JsError Bytes :=
  match value with
  | .bin bytes =>
    if bytes.length = 20 then .ok bytes else reject s!"{name} must be exactly 20 bytes"
  | .arr items =>
    match items.mapM readByte with
    | none => reject s!"{name} contains a non-byte value"
    | some bytes =>
      if bytes.length = 20 then .ok bytes else reject s!"{name} must be exactly 20 bytes"
  | _ => reject s!"{name} must be exactly 20 bytes"

def exactEnum {α : Type} (members : List (String × α)) (value : Value) (name : String) :
    Except JsError α :=
  match memberOf members value with
  | some a => .ok a
  | none => reject s!"unknown {name}"

def evaluationRow (value : Value) : Except JsError TriggerEvaluation := do
  let row ← tuple value "TriggerEvaluation" 7
  let requestedQuantity ← uint (row.slot 3) "evaluation.requested_quantity"
  let filledQuantity ← uint (row.slot 4) "evaluation.filled_quantity"
  let residualQuantity ← uint (row.slot 5) "evaluation.residual_quantity"
  require (filledQuantity + residualQuantity = requestedQuantity)
    "evaluation quantities do not conserve"
  let height ← uint (row.slot 0) "evaluation.height"
  let frozenMark ← uint (row.slot 1) "evaluation.frozen_mark"
  let limitPrice ← nullable (uint · "evaluation.limit_price") (row.slot 2)
  let reason ← nullable (exactEnum TriggerOutcomeReason.members · "TriggerOutcomeReason")
    (row.slot 6)
  return ⟨height, frozenMark, limitPrice, requestedQuantity, filledQuantity, residualQuantity, reason⟩

def decodeEvaluation : Value → Except JsError (Option TriggerEvaluation) := nullable evaluationRow

def limbRow (value : Value) : Except JsError StoredTriggerLimb := do
  let row ← tuple value "StoredTriggerLimb" 7
  let limbId ← uint (row.slot 0) "limb_id"
  let triggerPrice ← uint (row.slot 2) "trigger_price"
  require (¬ (limbId = 0 ∨ triggerPrice = 0)) "limb id and trigger price must be non-zero"
  let maxSlippageBps ← uint32 (row.slot 3) "max_slippage_bps"
  require (¬ (maxSlippageBps < 1 ∨ 9999 < maxSlippageBps)) "limb slippage is outside 1..=9999"
  let clientTriggerId ← nullable (uint · "client_trigger_id") (row.slot 4)
  require (clientTriggerId ≠ some 0) "client trigger id must be non-zero"
  let kind ← exactEnum TriggerKind.members (row.slot 1) "TriggerKind"
  let state ← exactEnum TriggerLimbState.members (row.slot 5) "TriggerLimbState"
  let lastEvaluation ← decodeEvaluation (row.slot 6)
  return { limbId, kind, triggerPrice, maxSlippageBps, clientTriggerId, state, lastEvaluation }

def decodeStoredLimb : Value → Except JsError (Option StoredTriggerLimb) := nullable limbRow

/-- The argument of `validateSetTriggerMarketConfig`. -/
def policy (config : TriggerMarketConfig) : JsVal :=
  .object [("market", .number 0), ("expectedCurrentVersion", .null),
    ("enabled", .bool config.enabled),
    ("maxTriggerSlippageBps", .number config.maxTriggerSlippageBps),
    ("maxMarkAgeMs", .bigint config.maxMarkAgeMs),
    ("maxFuturePublishSkewMs", .bigint config.maxFuturePublishSkewMs),
    ("maxActiveBrackets", .bigint config.maxActiveBrackets)]

def configRow (value : Value) : Except JsError TriggerMarketConfig := do
  let row ← tuple value "TriggerMarketConfig" 6
  let enabled ← checkBoolean fail (row.slot 1) "config.enabled"
  let version ← uint (row.slot 0) "config.version"
  require (version ≠ 0) "config version is zero"
  let maxTriggerSlippageBps ← uint32 (row.slot 2) "config.max_trigger_slippage_bps"
  let maxMarkAgeMs ← uint (row.slot 3) "config.max_mark_age_ms"
  let maxFuturePublishSkewMs ← uint (row.slot 4) "config.max_future_publish_skew_ms"
  let maxActiveBrackets ← uint (row.slot 5) "config.max_active_brackets"
  let config : TriggerMarketConfig := ⟨version, enabled, maxTriggerSlippageBps, maxMarkAgeMs,
    maxFuturePublishSkewMs, maxActiveBrackets⟩
  validateSetTriggerMarketConfig (policy config)
  return config

def decodeConfig : Value → Except JsError (Option TriggerMarketConfig) := nullable configRow

/-- The decoder of the market configurations. -/
def decoder : Decoder JsError := ⟨fail, uint, uint32, configRow⟩

abbrev decodeTriggerMarketConfigInfos : Value → Except JsError (List TriggerMarketConfigInfo) :=
  decoder.decodeTriggerMarketConfigInfos

/-- `value.Deferred` of an object. -/
def readDeferred : Value → Option Value
  | .map entries => Value.get "Deferred" entries
  | _ => none

abbrev decodeAvailability : Value → Except JsError TriggerEffectiveAvailability :=
  checkAvailability fail readDeferred
    (exactEnum TriggerOutcomeReason.members · "TriggerOutcomeReason")

def decodeBracket (value : Value) : Except JsError PositionTriggerBracket := do
  let row ← tuple value "PositionTriggerBracket" 10
  let positionSide ← exactEnum positionSides (row.slot 4) "position side"
  let groupId ← uint (row.slot 0) "group_id"
  let positionEpoch ← uint (row.slot 3) "position_epoch"
  let acceptedHeight ← uint (row.slot 5) "accepted_height"
  let activeFromHeight ← uint (row.slot 6) "active_from_height"
  require (¬ (groupId = 0 ∨ positionEpoch = 0 ∨ acceptedHeight = 0))
    "bracket ids/heights must be non-zero"
  require (activeFromHeight = acceptedHeight + 1) "invalid active_from_height"
  let stopLoss ← decodeStoredLimb (row.slot 8)
  let takeProfit ← decodeStoredLimb (row.slot 9)
  require (¬ (stopLoss.isNone ∧ takeProfit.isNone)) "bracket has no limbs"
  require (∀ limb ∈ stopLoss, limb.kind = .stopLoss) "stopLoss has wrong kind"
  require (∀ limb ∈ takeProfit, limb.kind = .takeProfit) "takeProfit has wrong kind"
  require (∀ stop ∈ stopLoss, ∀ take ∈ takeProfit, stop.clashes take = false)
    "bracket has duplicate limb identity"
  let clientGroupId ← nullable (uint · "client_group_id") (row.slot 7)
  require (clientGroupId ≠ some 0) "client group id must be non-zero"
  let owner ← bytes20 (row.slot 1) "owner"
  let market ← uint32 (row.slot 2) "market"
  return ⟨groupId, owner, market, positionEpoch, positionSide, acceptedHeight, activeFromHeight,
    clientGroupId, stopLoss, takeProfit⟩

def infoRow (entry : Value) : Except JsError PositionTriggerInfo := do
  let row ← tuple entry "PositionTriggerInfo" 3
  let bracket ← decodeBracket (row.slot 0)
  let marketConfig ← decodeConfig (row.slot 1)
  let availability ← decodeAvailability (row.slot 2)
  return { bracket, marketConfig, availability }

def decodePositionTriggerInfos (value : Value) : Except JsError (List PositionTriggerInfo) :=
  if value.isArray then value.items.mapM infoRow
  else reject "response is not an array"

def readOwner : Value → Option Bytes
  | .bin bytes => if bytes.length = 20 then some bytes else none
  | .arr items =>
    (items.mapM readByte).bind fun bytes => if bytes.length = 20 then some bytes else none
  | _ => none

def reading : Reading := ⟨readUint, readOwner, readDeferred⟩

theorem uint_ok_iff {v : Value} {name : String} {n : Nat} :
    uint v name = .ok n ↔ reading.IsUint v n := by
  rw [uint, Reading.IsUint]
  show _ ↔ readUint v = some n
  cases readUint v <;> simp [reject]

theorem uint32_ok_iff {v : Value} {name : String} {n : Nat} :
    uint32 v name = .ok n ↔ reading.IsUint v n ∧ n < 2^32 := by
  simp only [uint32, bind_ok_iff, uint_ok_iff, check_ok_iff, pure_ok_iff]
  constructor
  · intro h
    obtain ⟨m, hm, _, hle, rfl⟩ := h
    exact ⟨hm, Nat.lt_of_le_pred (by norm_num) hle⟩
  · intro h
    obtain ⟨hn, hlt⟩ := h
    exact ⟨n, hn, (), Nat.le_pred_of_lt hlt, rfl⟩

theorem exactEnum_ok_iff {α : Type} {members : List (String × α)} {v : Value} {name : String}
    {a : α} : exactEnum members v name = .ok a ↔ memberOf members v = some a := by
  rw [exactEnum]
  cases memberOf members v <;> simp [reject]

theorem evaluationRow_ok_iff {v : Value} {e : TriggerEvaluation} :
    evaluationRow v = .ok e ↔ reading.IsEvaluation v e := by
  simp only [evaluationRow, bind_ok_iff, checkTuple_ok_iff, uint_ok_iff, check_ok_iff,
    nullable_ok_iff, exactEnum_ok_iff, pure_ok_iff]
  constructor
  · intro h
    obtain ⟨_, ⟨htuple, rfl⟩, requested, hrequested, filled, hfilled, residual, hresidual, _,
      hconserves, height, hheight, mark, hmark, limit, hlimit, reason, hreason, rfl⟩ := h
    exact ⟨htuple, hheight, hmark, hlimit, hrequested, hfilled, hresidual, hconserves, hreason⟩
  · intro h
    exact ⟨v, ⟨h.tuple, rfl⟩, _, h.requestedQuantity, _, h.filledQuantity, _, h.residualQuantity,
      (), h.conserves, _, h.height, _, h.frozenMark, _, h.limitPrice, _, h.reason, rfl⟩

theorem limbRow_ok_iff {v : Value} {l : StoredTriggerLimb} :
    limbRow v = .ok l ↔ reading.IsLimb v l := by
  simp only [limbRow, decodeEvaluation, bind_ok_iff, checkTuple_ok_iff, uint_ok_iff, uint32_ok_iff,
    check_ok_iff, nullable_ok_iff, exactEnum_ok_iff, evaluationRow_ok_iff, pure_ok_iff]
  constructor
  · intro h
    obtain ⟨_, ⟨htuple, rfl⟩, limbId, hlimbId, price, hprice, _, hnonzero, slippage, ⟨hslippage,
      -⟩, _, hbounds, clientId, hclientId, _, hnonzeroId, kind, hkind, state, hstate,
      evaluation, hevaluation, rfl⟩ := h
    have hrange : 1 ≤ slippage ∧ slippage ≤ 9999 := by omega
    exact ⟨htuple, hlimbId, hkind, hprice, hslippage, hclientId, hstate, hevaluation, hnonzero,
      hrange, hnonzeroId⟩
  · intro h
    have hbounds := h.slippage
    exact ⟨v, ⟨h.tuple, rfl⟩, _, h.limbId, _, h.triggerPrice, (), h.nonzero, _,
      ⟨h.maxSlippageBps, by omega⟩, (), by omega, _, h.clientTriggerId, (), h.nonzeroId, _, h.kind,
      _, h.state, _, h.lastEvaluation, rfl⟩

theorem isUint_le {v : Value} {n : Nat} (h : reading.IsUint v n) : n ≤ u64Max := by
  replace h : readUint v = some n := h
  cases v with
  | wide m =>
    simp only [readUint] at h
    split_ifs at h with hm
    obtain rfl := Option.some.inj h
    omega
  | str s =>
    simp only [readUint] at h
    split_ifs at h with hs
    exact Option.some.inj h ▸ hs.2
  | short m =>
    have hlt := m.2.2
    simp only [readUint] at h
    split_ifs at h
    obtain rfl := Option.some.inj h
    rw [u64Max]
    omega
  | float value =>
    cases value with
    | none => cases h
    | some q =>
      simp only [readUint] at h
      split_ifs at h with hq
      obtain rfl := Option.some.inj h
      have hnum : (q.num : ℚ) = q := Rat.coe_int_num_of_den_eq_one hq.1
      have hlt : (q.num : ℚ) < 2^53 := hnum ▸ hq.2.2
      have hlt' : q.num < 2^53 := by exact_mod_cast hlt
      rw [u64Max]
      omega
  | _ => cases h

/-- The validator of the action checks the bounds of the stored configuration too. -/
theorem policy_ok_iff {c : TriggerMarketConfig} (hage : c.maxMarkAgeMs ≤ u64Max)
    (hskew : c.maxFuturePublishSkewMs ≤ u64Max) (hbrackets : c.maxActiveBrackets ≤ u64Max) :
    validateSetTriggerMarketConfig (policy c) = .ok () ↔ c.maxTriggerSlippageBps ≤ 9999 ∧
      ¬ (c.enabled ∧ (c.maxTriggerSlippageBps = 0 ∨ c.maxMarkAgeMs = 0 ∨
        c.maxFuturePublishSkewMs = 0 ∨ c.maxActiveBrackets = 0)) := by
  rw [u64Max] at hage hskew hbrackets
  have hmarket : (policy c).get "market" = .number 0 := rfl
  have hcurrent : (policy c).get "expectedCurrentVersion" = .null := rfl
  have henabled : (policy c).get "enabled" = .bool c.enabled := rfl
  have hslippage : (policy c).get "maxTriggerSlippageBps" = .number c.maxTriggerSlippageBps := rfl
  have hages : (policy c).get "maxMarkAgeMs" = .bigint c.maxMarkAgeMs := rfl
  have hskews : (policy c).get "maxFuturePublishSkewMs" = .bigint c.maxFuturePublishSkewMs := rfl
  have hactive : (policy c).get "maxActiveBrackets" = .bigint c.maxActiveBrackets := rfl
  rw [validateSetTriggerMarketConfig_eq_ok, hmarket, hcurrent, henabled, hslippage, hages, hskews,
    hactive]
  cases c.enabled with
  | false =>
    simp [isIntegerIn, isBoolean, isU64, JsVal.isNullish, JsVal.isTruthy]
    omega
  | true =>
    simp [isIntegerIn, isBoolean, isU64, isZero, JsVal.isNullish, JsVal.isTruthy]
    omega

theorem configRow_ok_iff {v : Value} {c : TriggerMarketConfig} :
    configRow v = .ok c ↔ reading.IsConfig v c := by
  simp only [configRow, bind_ok_iff, checkTuple_ok_iff, uint_ok_iff, uint32_ok_iff, check_ok_iff,
    checkBoolean_ok_iff, pure_ok_iff]
  constructor
  · intro h
    obtain ⟨_, ⟨htuple, rfl⟩, enabled, henabled, version, hversion, _, hnonzero, slippage,
      ⟨hslippage, -⟩, age, hage, skew, hskew, brackets, hbrackets, _, hpolicy, rfl⟩ := h
    obtain ⟨hrange, hbounds⟩ := (@policy_ok_iff ⟨version, enabled, slippage, age, skew, brackets⟩
      (isUint_le hage) (isUint_le hskew) (isUint_le hbrackets)).mp hpolicy
    exact ⟨htuple, hversion, henabled, hslippage, hage, hskew, hbrackets, hnonzero, hrange, hbounds⟩
  · intro h
    have hpolicy := (policy_ok_iff (isUint_le h.maxMarkAgeMs)
      (isUint_le h.maxFuturePublishSkewMs) (isUint_le h.maxActiveBrackets)).mpr
      ⟨h.slippage, h.bounds⟩
    have hlt : c.maxTriggerSlippageBps < 2^32 := lt_of_le_of_lt h.slippage (by norm_num)
    exact ⟨v, ⟨h.tuple, rfl⟩, _, h.enabled, _, h.version, (), h.nonzero, _,
      ⟨h.maxTriggerSlippageBps, hlt⟩, _, h.maxMarkAgeMs, _, h.maxFuturePublishSkewMs, _,
      h.maxActiveBrackets, (), hpolicy, rfl⟩

theorem decoder_takes : decoder.Takes reading where
  uint _ _ _ := uint_ok_iff
  uint32 _ _ _ := uint32_ok_iff
  configRow _ _ := configRow_ok_iff

theorem decodeTriggerMarketConfigInfos_ok_iff {v : Value} {is : List TriggerMarketConfigInfo} :
    decodeTriggerMarketConfigInfos v = .ok is ↔
      v.isArray = true ∧ reading.IsRegistry (-1) v.items is :=
  Decoder.decodeTriggerMarketConfigInfos_ok_iff decoder_takes

theorem decodeAvailability_ok_iff {v : Value} {a : TriggerEffectiveAvailability} :
    decodeAvailability v = .ok a ↔ reading.IsAvailability v a :=
  checkAvailability_ok_iff (R := reading) fun _ _ => exactEnum_ok_iff

theorem bytes20_ok_iff {v : Value} {name : String} {bytes : Bytes} :
    bytes20 v name = .ok bytes ↔ reading.owner v = some bytes := by
  show _ ↔ readOwner v = some bytes
  cases v with
  | bin bs =>
    rw [bytes20, readOwner]
    split_ifs <;> simp [reject]
  | arr items =>
    rw [bytes20, readOwner]
    cases items.mapM readByte with
    | none => simp [reject]
    | some bs =>
      simp only [Option.bind_some]
      split_ifs <;> simp [reject]
  | _ => simp [bytes20, readOwner, reject]

theorem decodeBracket_ok_iff {v : Value} {b : PositionTriggerBracket} :
    decodeBracket v = .ok b ↔ reading.IsBracket v b := by
  simp only [decodeBracket, decodeStoredLimb, bind_ok_iff, checkTuple_ok_iff, uint_ok_iff,
    uint32_ok_iff, check_ok_iff, nullable_ok_iff, exactEnum_ok_iff, limbRow_ok_iff,
    bytes20_ok_iff, pure_ok_iff]
  constructor
  · intro h
    obtain ⟨_, ⟨htuple, rfl⟩, side, hside, groupId, hgroupId, epoch, hepoch, accepted,
      haccepted, active, hactive, _, hnonzero, _, hnext, stop, hstop, take, htake, _, hnonempty,
      _, hstopKind, _, htakeKind, _, hdistinct, clientId, hclientId, _, hnonzeroId, owner,
      howner, market, ⟨hmarket, hbound⟩, rfl⟩ := h
    exact ⟨htuple, hgroupId, howner, hmarket, hepoch, hside, haccepted, hactive, hclientId, hstop,
      htake, hbound, hnonzero, hnext, hnonempty, hstopKind, htakeKind, hdistinct, hnonzeroId⟩
  · intro h
    exact ⟨v, ⟨h.tuple, rfl⟩, _, h.positionSide, _, h.groupId, _, h.positionEpoch, _,
      h.acceptedHeight, _, h.activeFromHeight, (), h.nonzero, (), h.next, _, h.stopLoss, _,
      h.takeProfit, (), h.nonempty, (), h.stopKind, (), h.takeKind, (), h.distinct, _,
      h.clientGroupId, (), h.nonzeroId, _, h.owner, _, ⟨h.market, h.marketBound⟩, rfl⟩

theorem infoRow_ok_iff {v : Value} {i : PositionTriggerInfo} :
    infoRow v = .ok i ↔ reading.IsInfo v i := by
  simp only [infoRow, decodeConfig, bind_ok_iff, checkTuple_ok_iff, nullable_ok_iff, configRow_ok_iff,
    decodeBracket_ok_iff, decodeAvailability_ok_iff, pure_ok_iff]
  constructor
  · intro h
    obtain ⟨_, ⟨htuple, rfl⟩, bracket, hbracket, config, hconfig, availability, havailability,
      rfl⟩ := h
    exact ⟨htuple, hbracket, hconfig, havailability⟩
  · intro h
    exact ⟨v, ⟨h.tuple, rfl⟩, _, h.bracket, _, h.marketConfig, _, h.availability, rfl⟩

theorem decodePositionTriggerInfos_ok_iff {v : Value} {is : List PositionTriggerInfo} :
    decodePositionTriggerInfos v = .ok is ↔
      v.isArray = true ∧ List.Forall₂ reading.IsInfo v.items is := by
  rw [decodePositionTriggerInfos]
  split_ifs with h
  · simp only [h, true_and, mapM_ok_iff, infoRow_ok_iff]
  · simp [reject, h]

end TradingSdk.TriggerState.TypeScript
