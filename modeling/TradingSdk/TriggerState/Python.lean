import TradingSdk.TriggerState.Checks

namespace TradingSdk.TriggerState.Python

open Serde

/-- `ProofTradingSdkError`, or what the interpreter raises. -/
inductive DecodeError where
  | sdkError (message : String)
  | typeError
  | valueError
  deriving DecidableEq

def u64Max : Nat := 2^64 - 1

def u32Max : Nat := 2^32 - 1

/-- `_error`. -/
def fail (message : String) : DecodeError := .sdkError ("trigger decode: " ++ message)

def reject {α : Type} (message : String) : Except DecodeError α := .error (fail message)

/-- `if not condition: raise`. -/
abbrev require (condition : Prop) [Decidable condition] (message : String) :
    Except DecodeError Unit :=
  check fail condition message

/-- `_trigger_tuple` and `_tuple`. -/
abbrev tuple : Value → String → Nat → Except DecodeError Value := checkTuple fail

/-- An `int` that is no `bool`, within its range. -/
def readUint (maximum : Nat) : Value → Option Nat
  | .short n => if 0 ≤ n.1 ∧ n.1 ≤ maximum then some n.1.toNat else none
  | .wide n => if 0 ≤ n ∧ n ≤ maximum then some n.toNat else none
  | _ => none

/-- `_trigger_uint` and `_uint`. -/
def uint (maximum : Nat) (value : Value) (name : String) : Except DecodeError Nat :=
  match readUint maximum value with
  | some n => .ok n
  | none => reject s!"{name} is not an exact unsigned integer"

/-- `value in members`: a list or a dictionary has no hash. -/
def member {α : Type} (members : List (String × α)) (value : Value) (name : String) :
    Except DecodeError α :=
  match value with
  | .arr _ => .error .typeError
  | .map _ => .error .typeError
  | _ =>
    match memberOf members value with
    | some a => .ok a
    | none => reject s!"unknown {name}"

/-- An element of `bytes(v)`, where a `bool` is an `int`. -/
def byte : Value → Except DecodeError UInt8
  | .bool b => .ok (if b then 1 else 0)
  | .short n => if 0 ≤ n.1 ∧ n.1 ≤ 255 then .ok (UInt8.ofNat n.1.toNat) else .error .valueError
  | .wide n => if 0 ≤ n ∧ n ≤ 255 then .ok (UInt8.ofNat n.toNat) else .error .valueError
  | _ => .error .typeError

/-- `_to_bytes`. -/
def toBytes : Value → Except DecodeError Bytes
  | .bin bytes => .ok bytes
  | .arr items => items.mapM byte
  | _ => .ok []

/-- `_decode_trigger_evaluation` of a value that is not `None`. -/
def evaluationRow (value : Value) : Except DecodeError TriggerEvaluation := do
  let row ← tuple value "TriggerEvaluation" 7
  let reason ← nullable (member TriggerOutcomeReason.members · "TriggerOutcomeReason") (row.slot 6)
  let requested ← uint u64Max (row.slot 3) "evaluation.requested_quantity"
  let filled ← uint u64Max (row.slot 4) "evaluation.filled_quantity"
  let residual ← uint u64Max (row.slot 5) "evaluation.residual_quantity"
  require (filled + residual = requested) "evaluation quantities do not conserve"
  let height ← uint u64Max (row.slot 0) "evaluation.height"
  let frozenMark ← uint u64Max (row.slot 1) "evaluation.frozen_mark"
  let limitPrice ← nullable (uint u64Max · "evaluation.limit_price") (row.slot 2)
  return ⟨height, frozenMark, limitPrice, requested, filled, residual, reason⟩

/-- `_decode_trigger_limb` of a value that is not `None`. -/
def limbRow (value : Value) : Except DecodeError StoredTriggerLimb := do
  let row ← tuple value "StoredTriggerLimb" 7
  let kind ← member TriggerKind.members (row.slot 1) "TriggerKind"
  let state ← member TriggerLimbState.members (row.slot 5) "TriggerLimbState"
  let limbId ← uint u64Max (row.slot 0) "limb_id"
  let triggerPrice ← uint u64Max (row.slot 2) "trigger_price"
  let maxSlippageBps ← uint u32Max (row.slot 3) "max_slippage_bps"
  let clientTriggerId ← nullable (uint u64Max · "client_trigger_id") (row.slot 4)
  require (¬ (limbId = 0 ∨ triggerPrice = 0)) "limb id and trigger price must be non-zero"
  require (1 ≤ maxSlippageBps ∧ maxSlippageBps ≤ 9999) "limb slippage is outside 1..=9999"
  require (clientTriggerId ≠ some 0) "client trigger id must be non-zero"
  let lastEvaluation ← nullable evaluationRow (row.slot 6)
  return ⟨limbId, kind, triggerPrice, maxSlippageBps, clientTriggerId, state, lastEvaluation⟩

/-- The configuration inside `_decode_trigger_info`. -/
def infoConfig (value : Value) : Except DecodeError TriggerMarketConfig := do
  let cfg ← tuple value "TriggerMarketConfig" 6
  let enabled ← checkBoolean fail (cfg.slot 1) "config.enabled"
  let version ← uint u64Max (cfg.slot 0) "config.version"
  let maxSlippage ← uint u32Max (cfg.slot 2) "config.max_trigger_slippage_bps"
  let maxMarkAgeMs ← uint u64Max (cfg.slot 3) "config.max_mark_age_ms"
  let maxFuturePublishSkewMs ← uint u64Max (cfg.slot 4) "config.max_future_publish_skew_ms"
  let maxActiveBrackets ← uint u64Max (cfg.slot 5) "config.max_active_brackets"
  require (version ≠ 0) "config version is zero"
  require (maxSlippage ≤ 9999) "config slippage exceeds 9999"
  require (¬ (enabled ∧ (maxSlippage = 0 ∨ maxMarkAgeMs = 0 ∨ maxFuturePublishSkewMs = 0 ∨
    maxActiveBrackets = 0))) "enabled config has a zero bound"
  return ⟨version, enabled, maxSlippage, maxMarkAgeMs, maxFuturePublishSkewMs, maxActiveBrackets⟩

/-- `row[2]["Deferred"]` of a dictionary with no other key. -/
def readDeferred : Value → Option Value
  | .map entries =>
    if entries.all fun (k, _) => match k with
        | .str s => s = "Deferred"
        | _ => false
    then Value.get "Deferred" entries else none
  | _ => none

abbrev infoAvailability : Value → Except DecodeError TriggerEffectiveAvailability :=
  checkAvailability fail readDeferred
    (member TriggerOutcomeReason.members · "deferred TriggerOutcomeReason")

/-- `bracket[4] not in ("Buy", "Sell")`, which asks for no hash. -/
def side (value : Value) : Except DecodeError Side :=
  match memberOf positionSides value with
  | some side => .ok side
  | none => reject "unknown position side"

/-- `_decode_trigger_info`. -/
def decodeTriggerInfo (value : Value) : Except DecodeError PositionTriggerInfo := do
  let row ← tuple value "PositionTriggerInfo" 3
  let bracket ← tuple (row.slot 0) "PositionTriggerBracket" 10
  let config ← nullable infoConfig (row.slot 1)
  let availability ← infoAvailability (row.slot 2)
  let positionSide ← side (bracket.slot 4)
  let stopLoss ← nullable limbRow (bracket.slot 8)
  let takeProfit ← nullable limbRow (bracket.slot 9)
  require (¬ (stopLoss.isNone ∧ takeProfit.isNone)) "bracket has no limbs"
  require (∀ limb ∈ stopLoss, limb.kind = .stopLoss) "stop_loss has wrong kind"
  require (∀ limb ∈ takeProfit, limb.kind = .takeProfit) "take_profit has wrong kind"
  require (∀ stop ∈ stopLoss, ∀ take ∈ takeProfit, stop.clashes take = false)
    "bracket has duplicate limb identity"
  let groupId ← uint u64Max (bracket.slot 0) "group_id"
  let positionEpoch ← uint u64Max (bracket.slot 3) "position_epoch"
  let acceptedHeight ← uint u64Max (bracket.slot 5) "accepted_height"
  let activeFromHeight ← uint u64Max (bracket.slot 6) "active_from_height"
  let clientGroupId ← nullable (uint u64Max · "client_group_id") (bracket.slot 7)
  require (¬ (groupId = 0 ∨ positionEpoch = 0 ∨ acceptedHeight = 0))
    "bracket ids/heights must be non-zero"
  require (clientGroupId ≠ some 0) "client group id must be non-zero"
  require (activeFromHeight = acceptedHeight + 1) "invalid active_from_height"
  let owner ← toBytes (bracket.slot 1)
  require (owner.length = 20) "owner must be exactly 20 bytes"
  let market ← uint u32Max (bracket.slot 2) "market"
  return ⟨⟨groupId, owner, market, positionEpoch, positionSide, acceptedHeight, activeFromHeight,
    clientGroupId, stopLoss, takeProfit⟩, config, availability⟩

/-- What `position_triggers` makes of the response. -/
def positionTriggers (raw : Value) : Except DecodeError (List PositionTriggerInfo) :=
  if raw.isArray then raw.items.mapM decodeTriggerInfo else reject "response is not an array"

/-- `_decode_config` of a value that is not `None`. -/
def configRow (value : Value) : Except DecodeError TriggerMarketConfig := do
  let row ← tuple value "TriggerMarketConfig" 6
  let version ← uint u64Max (row.slot 0) "config.version"
  require (version ≠ 0) "config version is zero"
  let enabled ← checkBoolean fail (row.slot 1) "config.enabled"
  let maxSlippage ← uint u32Max (row.slot 2) "config.max_trigger_slippage_bps"
  require (maxSlippage ≤ 9999) "config slippage exceeds 9999"
  let maxMarkAgeMs ← uint u64Max (row.slot 3) "config.max_mark_age_ms"
  let maxFuturePublishSkewMs ← uint u64Max (row.slot 4) "config.max_future_publish_skew_ms"
  let maxActiveBrackets ← uint u64Max (row.slot 5) "config.max_active_brackets"
  require (¬ (enabled ∧ (maxSlippage = 0 ∨ maxMarkAgeMs = 0 ∨ maxFuturePublishSkewMs = 0 ∨
    maxActiveBrackets = 0))) "enabled config has a zero bound"
  return ⟨version, enabled, maxSlippage, maxMarkAgeMs, maxFuturePublishSkewMs, maxActiveBrackets⟩

/-- The decoder of the market configurations. -/
def decoder : Decoder DecodeError := ⟨fail, uint u64Max, uint u32Max, configRow⟩

abbrev decodeTriggerMarketConfigInfos : Value → Except DecodeError (List TriggerMarketConfigInfo) :=
  decoder.decodeTriggerMarketConfigInfos

def readOwner (value : Value) : Option Bytes :=
  match toBytes value with
  | .ok bytes => if bytes.length = 20 then some bytes else none
  | .error _ => none

def reading : Reading := ⟨readUint u64Max, readOwner, readDeferred⟩

theorem uint_ok_iff {v : Value} {name : String} {n : Nat} :
    uint u64Max v name = .ok n ↔ reading.IsUint v n := by
  rw [uint, Reading.IsUint]
  show _ ↔ readUint u64Max v = some n
  cases readUint u64Max v <;> simp [reject]

theorem readUint_short {maximum n : Nat} {m : ShortInt} :
    readUint maximum (.short m) = some n ↔ m.1 = n ∧ n ≤ maximum := by
  rw [readUint]
  split_ifs with h
  · rw [Option.some_inj]
    omega
  · simp only [false_iff]
    omega

theorem readUint_wide {maximum n : Nat} {m : Int} :
    readUint maximum (.wide m) = some n ↔ m = n ∧ n ≤ maximum := by
  rw [readUint]
  split_ifs with h
  · rw [Option.some_inj]
    omega
  · simp only [false_iff]
    omega

/-- A narrower maximum reads the same integers below it. -/
theorem uint32_ok_iff {v : Value} {name : String} {n : Nat} :
    uint u32Max v name = .ok n ↔ reading.IsUint v n ∧ n < 2^32 := by
  have hread : readUint u32Max v = some n ↔ readUint u64Max v = some n ∧ n < 2^32 := by
    cases v with
    | short m =>
      rw [readUint_short, readUint_short, u32Max, u64Max]
      omega
    | wide m =>
      rw [readUint_wide, readUint_wide, u32Max, u64Max]
      omega
    | _ => simp [readUint]
  rw [uint, Reading.IsUint]
  show _ ↔ readUint u64Max v = some n ∧ n < 2^32
  rw [← hread]
  cases readUint u32Max v <;> simp [reject]

theorem member_ok_iff {α : Type} {members : List (String × α)} {v : Value} {name : String} {a : α} :
    member members v name = .ok a ↔ memberOf members v = some a := by
  cases v with
  | str s =>
    simp only [member]
    cases memberOf members (.str s) <;> simp [reject]
  | _ => simp [member, memberOf, reject]

theorem side_ok_iff {v : Value} {s : Side} : side v = .ok s ↔ memberOf positionSides v = some s := by
  rw [side]
  cases memberOf positionSides v <;> simp [reject]

theorem toBytes_ok_iff {v : Value} {bytes : Bytes} :
    toBytes v = .ok bytes ∧ bytes.length = 20 ↔ reading.owner v = some bytes := by
  show _ ↔ readOwner v = some bytes
  rw [readOwner]
  cases toBytes v with
  | error e => simp
  | ok bs =>
    simp only [Except.ok.injEq, Option.ite_none_right_eq_some, Option.some.injEq]
    constructor
    · intro h
      obtain ⟨rfl, hlength⟩ := h
      exact ⟨hlength, rfl⟩
    · intro h
      obtain ⟨hlength, rfl⟩ := h
      exact ⟨rfl, hlength⟩

theorem evaluationRow_ok_iff {v : Value} {e : TriggerEvaluation} :
    evaluationRow v = .ok e ↔ reading.IsEvaluation v e := by
  simp only [evaluationRow, bind_ok_iff, checkTuple_ok_iff, uint_ok_iff, check_ok_iff,
    nullable_ok_iff, member_ok_iff, pure_ok_iff]
  constructor
  · intro h
    obtain ⟨_, ⟨htuple, rfl⟩, reason, hreason, requested, hrequested, filled, hfilled, residual,
      hresidual, _, hconserves, height, hheight, mark, hmark, limit, hlimit, rfl⟩ := h
    exact ⟨htuple, hheight, hmark, hlimit, hrequested, hfilled, hresidual, hconserves, hreason⟩
  · intro h
    exact ⟨v, ⟨h.tuple, rfl⟩, _, h.reason, _, h.requestedQuantity, _, h.filledQuantity, _,
      h.residualQuantity, (), h.conserves, _, h.height, _, h.frozenMark, _, h.limitPrice, rfl⟩

theorem limbRow_ok_iff {v : Value} {l : StoredTriggerLimb} :
    limbRow v = .ok l ↔ reading.IsLimb v l := by
  simp only [limbRow, bind_ok_iff, checkTuple_ok_iff, uint_ok_iff, uint32_ok_iff, check_ok_iff,
    nullable_ok_iff, member_ok_iff, evaluationRow_ok_iff, pure_ok_iff]
  constructor
  · intro h
    obtain ⟨_, ⟨htuple, rfl⟩, kind, hkind, state, hstate, limbId, hlimbId, price, hprice,
      slippage, ⟨hslippage, -⟩, clientId, hclientId, _, hnonzero, _, hrange, _, hnonzeroId,
      evaluation, hevaluation, rfl⟩ := h
    exact ⟨htuple, hlimbId, hkind, hprice, hslippage, hclientId, hstate, hevaluation, hnonzero,
      hrange, hnonzeroId⟩
  · intro h
    have hbound : l.maxSlippageBps < 2^32 := lt_of_le_of_lt h.slippage.2 (by norm_num)
    exact ⟨v, ⟨h.tuple, rfl⟩, _, h.kind, _, h.state, _, h.limbId, _, h.triggerPrice, _,
      ⟨h.maxSlippageBps, hbound⟩, _, h.clientTriggerId, (), h.nonzero, (), h.slippage, (),
      h.nonzeroId, _, h.lastEvaluation, rfl⟩

theorem infoConfig_ok_iff {v : Value} {c : TriggerMarketConfig} :
    infoConfig v = .ok c ↔ reading.IsConfig v c := by
  simp only [infoConfig, bind_ok_iff, checkTuple_ok_iff, uint_ok_iff, uint32_ok_iff, check_ok_iff,
    checkBoolean_ok_iff, pure_ok_iff]
  constructor
  · intro h
    obtain ⟨_, ⟨htuple, rfl⟩, enabled, henabled, version, hversion, slippage, ⟨hslippage, -⟩,
      age, hage, skew, hskew, brackets, hbrackets, _, hnonzero, _, hrange, _, hbounds, rfl⟩ := h
    exact ⟨htuple, hversion, henabled, hslippage, hage, hskew, hbrackets, hnonzero, hrange, hbounds⟩
  · intro h
    have hbound : c.maxTriggerSlippageBps < 2^32 := lt_of_le_of_lt h.slippage (by norm_num)
    exact ⟨v, ⟨h.tuple, rfl⟩, _, h.enabled, _, h.version, _, ⟨h.maxTriggerSlippageBps, hbound⟩, _,
      h.maxMarkAgeMs, _, h.maxFuturePublishSkewMs, _, h.maxActiveBrackets, (), h.nonzero, (),
      h.slippage, (), h.bounds, rfl⟩

theorem infoAvailability_ok_iff {v : Value} {a : TriggerEffectiveAvailability} :
    infoAvailability v = .ok a ↔ reading.IsAvailability v a :=
  checkAvailability_ok_iff (R := reading) fun _ _ => member_ok_iff

theorem decodeTriggerInfo_ok_iff {v : Value} {i : PositionTriggerInfo} :
    decodeTriggerInfo v = .ok i ↔ reading.IsInfo v i := by
  simp only [decodeTriggerInfo, bind_ok_iff, checkTuple_ok_iff, uint_ok_iff, uint32_ok_iff,
    check_ok_iff, nullable_ok_iff, infoConfig_ok_iff, infoAvailability_ok_iff, side_ok_iff,
    limbRow_ok_iff, pure_ok_iff]
  constructor
  · intro h
    obtain ⟨_, ⟨htuple, rfl⟩, _, ⟨hbracket, rfl⟩, config, hconfig, availability, havailability,
      side, hside, stop, hstop, take, htake, _, hnonempty, _, hstopKind, _, htakeKind, _,
      hdistinct, groupId, hgroupId, epoch, hepoch, accepted, haccepted, active, hactive,
      clientId, hclientId, _, hnonzero, _, hnonzeroId, _, hnext, owner, howner, _, hlength,
      market, ⟨hmarket, hbound⟩, rfl⟩ := h
    have howner := toBytes_ok_iff.mp ⟨howner, hlength⟩
    exact ⟨htuple, ⟨hbracket, hgroupId, howner, hmarket, hepoch, hside, haccepted, hactive,
      hclientId, hstop, htake, hbound, hnonzero, hnext, hnonempty, hstopKind, htakeKind, hdistinct,
      hnonzeroId⟩, hconfig, havailability⟩
  · intro h
    have hb := h.bracket
    obtain ⟨howner, hlength⟩ := toBytes_ok_iff.mpr hb.owner
    exact ⟨v, ⟨h.tuple, rfl⟩, _, ⟨hb.tuple, rfl⟩, _, h.marketConfig, _, h.availability, _,
      hb.positionSide, _, hb.stopLoss, _, hb.takeProfit, (), hb.nonempty, (), hb.stopKind, (),
      hb.takeKind, (), hb.distinct, _, hb.groupId, _, hb.positionEpoch, _, hb.acceptedHeight, _,
      hb.activeFromHeight, _, hb.clientGroupId, (), hb.nonzero, (), hb.nonzeroId, (), hb.next, _,
      howner, (), hlength, _, ⟨hb.market, hb.marketBound⟩, rfl⟩

theorem positionTriggers_ok_iff {v : Value} {is : List PositionTriggerInfo} :
    positionTriggers v = .ok is ↔
      v.isArray = true ∧ List.Forall₂ reading.IsInfo v.items is := by
  rw [positionTriggers]
  split_ifs with h
  · simp only [h, true_and, mapM_ok_iff, decodeTriggerInfo_ok_iff]
  · simp [reject, h]

theorem configRow_ok_iff {v : Value} {c : TriggerMarketConfig} :
    configRow v = .ok c ↔ reading.IsConfig v c := by
  simp only [configRow, bind_ok_iff, checkTuple_ok_iff, uint_ok_iff, uint32_ok_iff, check_ok_iff,
    checkBoolean_ok_iff, pure_ok_iff]
  constructor
  · intro h
    obtain ⟨_, ⟨htuple, rfl⟩, version, hversion, _, hnonzero, enabled, henabled, slippage,
      ⟨hslippage, -⟩, _, hrange, age, hage, skew, hskew, brackets, hbrackets, _, hbounds, rfl⟩ := h
    exact ⟨htuple, hversion, henabled, hslippage, hage, hskew, hbrackets, hnonzero, hrange, hbounds⟩
  · intro h
    have hbound : c.maxTriggerSlippageBps < 2^32 := lt_of_le_of_lt h.slippage (by norm_num)
    exact ⟨v, ⟨h.tuple, rfl⟩, _, h.version, (), h.nonzero, _, h.enabled, _,
      ⟨h.maxTriggerSlippageBps, hbound⟩, (), h.slippage, _, h.maxMarkAgeMs, _,
      h.maxFuturePublishSkewMs, _, h.maxActiveBrackets, (), h.bounds, rfl⟩

theorem decoder_takes : decoder.Takes reading where
  uint _ _ _ := uint_ok_iff
  uint32 _ _ _ := uint32_ok_iff
  configRow _ _ := configRow_ok_iff

theorem decodeTriggerMarketConfigInfos_ok_iff {v : Value} {is : List TriggerMarketConfigInfo} :
    decodeTriggerMarketConfigInfos v = .ok is ↔
      v.isArray = true ∧ reading.IsRegistry (-1) v.items is :=
  Decoder.decodeTriggerMarketConfigInfos_ok_iff decoder_takes

end TradingSdk.TriggerState.Python
