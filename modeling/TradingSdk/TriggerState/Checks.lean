import TradingSdk.TriggerState.Spec

namespace TradingSdk.TriggerState

section Checks

variable {ε : Type} (fail : String → ε)

def checkTuple (value : Value) (name : String) (size : Nat) : Except ε Value :=
  if value.IsTuple size then .ok value
  else .error (fail s!"{name} must be exactly a {size}-field tuple")

def checkBoolean (value : Value) (name : String) : Except ε Bool :=
  match value with
  | .bool b => .ok b
  | _ => .error (fail s!"{name} is not boolean")

def checkPresent {α : Type} (value : Option α) (message : String) : Except ε α :=
  match value with
  | some a => .ok a
  | none => .error (fail message)

/-- A text of its own for each plain availability, and an object for a deferred one. -/
def checkAvailability (readDeferred : Value → Option Value)
    (readReason : Value → Except ε TriggerOutcomeReason) (value : Value) :
    Except ε TriggerEffectiveAvailability :=
  match memberOf SimpleAvailability.members value with
  | some kind => .ok (.simple kind)
  | none =>
    match readDeferred value with
    | some reason => (readReason reason).map .deferred
    | none => .error (fail "unknown TriggerEffectiveAvailability")

end Checks

/-- What each language writes in its own way in front of the market configurations. -/
structure Decoder (ε : Type) where
  fail : String → ε
  uint : Value → String → Except ε Nat
  uint32 : Value → String → Except ε Nat
  configRow : Value → Except ε TriggerMarketConfig

namespace Decoder

variable {ε : Type} (d : Decoder ε)

def pendingRow (current : Option TriggerMarketConfig) (value : Value) :
    Except ε PendingTriggerMarketConfig := do
  let row ← checkTuple d.fail value "PendingTriggerMarketConfig" 3
  let read ← nullable d.configRow (row.slot 0)
  let config ← checkPresent d.fail read "pending config is null"
  let acceptedHeight ← d.uint (row.slot 1) "pending.accepted_height"
  let effectiveHeight ← d.uint (row.slot 2) "pending.effective_height"
  check d.fail (¬ (acceptedHeight = 0 ∨ acceptedHeight = 2^64 - 1 ∨
    effectiveHeight ≠ acceptedHeight + 1)) "invalid pending effective height"
  let expectedVersion := current.elim 1 fun c => c.version + 1
  check d.fail (config.version = expectedVersion) "pending config version is not next"
  return { config, acceptedHeight, effectiveHeight }

def decodeConfigState (value : Value) : Except ε TriggerMarketConfigState := do
  let row ← checkTuple d.fail value "TriggerMarketConfigState" 2
  let current ← nullable d.configRow (row.slot 0)
  let pending ← nullable (d.pendingRow current) (row.slot 1)
  check d.fail (¬ (current.isNone ∧ pending.isNone)) "empty trigger market config state"
  return { current, pending }

/-- The rows from one on, in the order of their markets. -/
def configInfos (previousMarket : Int) : List Value → Except ε (List TriggerMarketConfigInfo)
  | [] => .ok []
  | entry :: entries => do
    let row ← checkTuple d.fail entry "TriggerMarketConfigInfo" 2
    let market ← d.uint32 (row.slot 0) "market"
    check d.fail (¬ (market : Int) ≤ previousMarket)
      "market configs are not strictly market-sorted"
    let state ← d.decodeConfigState (row.slot 1)
    let infos ← configInfos market entries
    return { market, state } :: infos

def decodeTriggerMarketConfigInfos (value : Value) : Except ε (List TriggerMarketConfigInfo) :=
  if value.isArray then d.configInfos (-1) value.items
  else .error (d.fail "market configs response is not an array")

/-- The checks of a decoder take what `R` reads. -/
structure Takes (R : Reading) : Prop where
  uint : ∀ v name n, d.uint v name = .ok n ↔ R.IsUint v n
  uint32 : ∀ v name n, d.uint32 v name = .ok n ↔ R.IsUint v n ∧ n < 2^32
  configRow : ∀ v c, d.configRow v = .ok c ↔ R.IsConfig v c

end Decoder

section Lemmas

variable {ε : Type} {fail : String → ε}

theorem checkTuple_ok_iff {v row : Value} {name : String} {size : Nat} :
    checkTuple fail v name size = .ok row ↔ v.IsTuple size ∧ row = v := by
  rw [checkTuple]
  split_ifs with h <;> simp [h, eq_comm]

theorem checkBoolean_ok_iff {v : Value} {name : String} {b : Bool} :
    checkBoolean fail v name = .ok b ↔ v = .bool b := by
  cases v <;> simp [checkBoolean]

theorem checkPresent_ok_iff {α : Type} {value : Option α} {message : String} {a : α} :
    checkPresent fail value message = .ok a ↔ value = some a := by
  cases value <;> simp [checkPresent]

theorem checkAvailability_ok_iff {R : Reading} {readReason : Value → Except ε TriggerOutcomeReason}
    (hreason : ∀ v r, readReason v = .ok r ↔ memberOf TriggerOutcomeReason.members v = some r)
    {v : Value} {a : TriggerEffectiveAvailability} :
    checkAvailability fail R.deferred readReason v = .ok a ↔ R.IsAvailability v a := by
  rw [checkAvailability]
  cases hsimple : memberOf SimpleAvailability.members v with
  | some kind => cases a <;> simp [Reading.IsAvailability, hsimple]
  | none =>
    cases hdeferred : R.deferred v with
    | none => cases a <;> simp [Reading.IsAvailability, hsimple, hdeferred]
    | some w =>
      cases hread : readReason w with
      | error e =>
        have hnone : ∀ r, memberOf TriggerOutcomeReason.members w ≠ some r := by
          intro r hr
          rw [(hreason w r).mpr hr] at hread
          cases hread
        cases a <;> simp [Reading.IsAvailability, hsimple, hdeferred, hread, hnone, Except.map]
      | ok r =>
        have hsome := (hreason w r).mp hread
        cases a <;> simp [Reading.IsAvailability, hsimple, hdeferred, hread, hsome, Except.map]

namespace Decoder

variable {d : Decoder ε} {R : Reading} (hd : d.Takes R)
include hd

theorem pendingRow_ok_iff {current : Option TriggerMarketConfig} {v : Value}
    {p : PendingTriggerMarketConfig} :
    d.pendingRow current v = .ok p ↔ R.IsPending current v p := by
  simp only [pendingRow, bind_ok_iff, checkTuple_ok_iff, hd.uint, check_ok_iff, nullable_ok_iff,
    checkPresent_ok_iff, hd.configRow, pure_ok_iff]
  constructor
  · intro h
    obtain ⟨_, ⟨htuple, rfl⟩, _, hconfig, config, rfl, accepted, haccepted, effective,
      heffective, _, hnext, _, hversion, rfl⟩ := h
    exact ⟨htuple, hconfig.2, haccepted, heffective, hnext, hversion⟩
  · intro h
    exact ⟨v, ⟨h.tuple, rfl⟩, some p.config, ⟨h.config.tuple.isNil, h.config⟩, _, rfl, _,
      h.acceptedHeight, _, h.effectiveHeight, (), h.next, (), h.version, rfl⟩

theorem decodeConfigState_ok_iff {v : Value} {s : TriggerMarketConfigState} :
    d.decodeConfigState v = .ok s ↔ R.IsState v s := by
  simp only [decodeConfigState, bind_ok_iff, checkTuple_ok_iff, check_ok_iff, nullable_ok_iff,
    hd.configRow, pendingRow_ok_iff hd, pure_ok_iff]
  constructor
  · intro h
    obtain ⟨_, ⟨htuple, rfl⟩, current, hcurrent, pending, hpending, _, hnonempty, rfl⟩ := h
    exact ⟨htuple, hcurrent, hpending, hnonempty⟩
  · intro h
    exact ⟨v, ⟨h.tuple, rfl⟩, _, h.current, _, h.pending, (), h.nonempty, rfl⟩

theorem configInfos_ok_iff {previousMarket : Int} {vs : List Value}
    {is : List TriggerMarketConfigInfo} :
    d.configInfos previousMarket vs = .ok is ↔ R.IsRegistry previousMarket vs is := by
  induction vs generalizing previousMarket is with
  | nil =>
    rw [configInfos]
    cases is <;> simp [Reading.IsRegistry]
  | cons v vs ih =>
    simp only [configInfos, bind_ok_iff, checkTuple_ok_iff, hd.uint32, check_ok_iff,
      decodeConfigState_ok_iff hd, ih, pure_ok_iff]
    constructor
    · intro h
      obtain ⟨_, ⟨htuple, rfl⟩, market, ⟨hmarket, hbound⟩, _, horder, state, hstate, rest,
        hrest, rfl⟩ := h
      exact ⟨⟨htuple, hmarket, hbound, hstate⟩, horder, hrest⟩
    · intro h
      cases is with
      | nil => cases h
      | cons i is =>
        obtain ⟨hrow, horder, hrest⟩ := h
        exact ⟨v, ⟨hrow.tuple, rfl⟩, _, ⟨hrow.market, hrow.marketBound⟩, (), horder, _, hrow.state,
          _, hrest, rfl⟩

theorem decodeTriggerMarketConfigInfos_ok_iff {v : Value} {is : List TriggerMarketConfigInfo} :
    d.decodeTriggerMarketConfigInfos v = .ok is ↔ v.isArray = true ∧ R.IsRegistry (-1) v.items is := by
  rw [decodeTriggerMarketConfigInfos]
  split_ifs with h
  · simp only [h, true_and, configInfos_ok_iff hd]
  · simp [h]

end Decoder

end Lemmas

end TradingSdk.TriggerState
