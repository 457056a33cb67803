import TradingSdk.Lib.Except
import TradingSdk.TriggerState.Value

namespace TradingSdk.TriggerState

open Serde

/-- How a decoder reads the slots of those three kinds. -/
structure Reading where
  uint : Value → Option Nat
  owner : Value → Option Bytes
  deferred : Value → Option Value

/-- A slot that is nil exactly when the field is absent. -/
def IsNullable {α : Type} (P : Value → α → Prop) (v : Value) : Option α → Prop
  | none => v.isNil = true
  | some a => v.isNil = false ∧ P v a

theorem nullable_ok_iff {ε α : Type} {f : Value → Except ε α} {v : Value} {r : Option α} :
    nullable f v = .ok r ↔ IsNullable (fun v a => f v = .ok a) v r := by
  rw [nullable]
  cases h : v.isNil with
  | true => cases r <;> simp [IsNullable, h]
  | false =>
    cases hf : f v with
    | error e => cases r <;> simp [IsNullable, h, hf, Except.map]
    | ok a => cases r <;> simp [IsNullable, h, hf, Except.map]

namespace Reading

variable (R : Reading)

def IsUint (v : Value) (n : Nat) : Prop := R.uint v = some n

structure IsEvaluation (v : Value) (e : TriggerEvaluation) : Prop where
  tuple : v.IsTuple 7
  height : R.IsUint (v.slot 0) e.height
  frozenMark : R.IsUint (v.slot 1) e.frozenMark
  limitPrice : IsNullable R.IsUint (v.slot 2) e.limitPrice
  requestedQuantity : R.IsUint (v.slot 3) e.requestedQuantity
  filledQuantity : R.IsUint (v.slot 4) e.filledQuantity
  residualQuantity : R.IsUint (v.slot 5) e.residualQuantity
  conserves : e.filledQuantity + e.residualQuantity = e.requestedQuantity
  reason : IsNullable (fun v a => memberOf TriggerOutcomeReason.members v = some a) (v.slot 6)
    e.reason

structure IsLimb (v : Value) (l : StoredTriggerLimb) : Prop where
  tuple : v.IsTuple 7
  limbId : R.IsUint (v.slot 0) l.limbId
  kind : memberOf TriggerKind.members (v.slot 1) = some l.kind
  triggerPrice : R.IsUint (v.slot 2) l.triggerPrice
  maxSlippageBps : R.IsUint (v.slot 3) l.maxSlippageBps
  clientTriggerId : IsNullable R.IsUint (v.slot 4) l.clientTriggerId
  state : memberOf TriggerLimbState.members (v.slot 5) = some l.state
  lastEvaluation : IsNullable R.IsEvaluation (v.slot 6) l.lastEvaluation
  nonzero : ¬ (l.limbId = 0 ∨ l.triggerPrice = 0)
  slippage : 1 ≤ l.maxSlippageBps ∧ l.maxSlippageBps ≤ 9999
  nonzeroId : l.clientTriggerId ≠ some 0

structure IsConfig (v : Value) (c : TriggerMarketConfig) : Prop where
  tuple : v.IsTuple 6
  version : R.IsUint (v.slot 0) c.version
  enabled : v.slot 1 = .bool c.enabled
  maxTriggerSlippageBps : R.IsUint (v.slot 2) c.maxTriggerSlippageBps
  maxMarkAgeMs : R.IsUint (v.slot 3) c.maxMarkAgeMs
  maxFuturePublishSkewMs : R.IsUint (v.slot 4) c.maxFuturePublishSkewMs
  maxActiveBrackets : R.IsUint (v.slot 5) c.maxActiveBrackets
  nonzero : c.version ≠ 0
  slippage : c.maxTriggerSlippageBps ≤ 9999
  bounds : ¬ (c.enabled ∧ (c.maxTriggerSlippageBps = 0 ∨ c.maxMarkAgeMs = 0 ∨
    c.maxFuturePublishSkewMs = 0 ∨ c.maxActiveBrackets = 0))

/-- The next configuration, which takes effect one height after its acceptance. -/
structure IsPending (current : Option TriggerMarketConfig) (v : Value)
    (p : PendingTriggerMarketConfig) : Prop where
  tuple : v.IsTuple 3
  config : R.IsConfig (v.slot 0) p.config
  acceptedHeight : R.IsUint (v.slot 1) p.acceptedHeight
  effectiveHeight : R.IsUint (v.slot 2) p.effectiveHeight
  next : ¬ (p.acceptedHeight = 0 ∨ p.acceptedHeight = 2^64 - 1 ∨
    p.effectiveHeight ≠ p.acceptedHeight + 1)
  version : p.config.version = current.elim 1 fun c => c.version + 1

structure IsState (v : Value) (s : TriggerMarketConfigState) : Prop where
  tuple : v.IsTuple 2
  current : IsNullable R.IsConfig (v.slot 0) s.current
  pending : IsNullable (R.IsPending s.current) (v.slot 1) s.pending
  nonempty : ¬ (s.current.isNone ∧ s.pending.isNone)

structure IsConfigInfo (v : Value) (i : TriggerMarketConfigInfo) : Prop where
  tuple : v.IsTuple 2
  market : R.IsUint (v.slot 0) i.market
  marketBound : i.market < 2^32
  state : R.IsState (v.slot 1) i.state

/-- Rows in strict order of their markets, all after one. -/
def IsRegistry (previousMarket : Int) : List Value → List TriggerMarketConfigInfo → Prop
  | [], [] => True
  | v :: vs, i :: is => R.IsConfigInfo v i ∧ ¬ (i.market : Int) ≤ previousMarket ∧
      IsRegistry i.market vs is
  | _, _ => False

def IsAvailability (v : Value) : TriggerEffectiveAvailability → Prop
  | .simple kind => memberOf SimpleAvailability.members v = some kind
  | .deferred reason => memberOf SimpleAvailability.members v = none ∧
      ∃ w, R.deferred v = some w ∧ memberOf TriggerOutcomeReason.members w = some reason

structure IsBracket (v : Value) (b : PositionTriggerBracket) : Prop where
  tuple : v.IsTuple 10
  groupId : R.IsUint (v.slot 0) b.groupId
  owner : R.owner (v.slot 1) = some b.owner
  market : R.IsUint (v.slot 2) b.market
  positionEpoch : R.IsUint (v.slot 3) b.positionEpoch
  positionSide : memberOf positionSides (v.slot 4) = some b.positionSide
  acceptedHeight : R.IsUint (v.slot 5) b.acceptedHeight
  activeFromHeight : R.IsUint (v.slot 6) b.activeFromHeight
  clientGroupId : IsNullable R.IsUint (v.slot 7) b.clientGroupId
  stopLoss : IsNullable R.IsLimb (v.slot 8) b.stopLoss
  takeProfit : IsNullable R.IsLimb (v.slot 9) b.takeProfit
  marketBound : b.market < 2^32
  nonzero : ¬ (b.groupId = 0 ∨ b.positionEpoch = 0 ∨ b.acceptedHeight = 0)
  next : b.activeFromHeight = b.acceptedHeight + 1
  nonempty : ¬ (b.stopLoss.isNone ∧ b.takeProfit.isNone)
  stopKind : ∀ limb ∈ b.stopLoss, limb.kind = .stopLoss
  takeKind : ∀ limb ∈ b.takeProfit, limb.kind = .takeProfit
  distinct : ∀ stop ∈ b.stopLoss, ∀ take ∈ b.takeProfit, stop.clashes take = false
  nonzeroId : b.clientGroupId ≠ some 0

structure IsInfo (v : Value) (i : PositionTriggerInfo) : Prop where
  tuple : v.IsTuple 3
  bracket : R.IsBracket (v.slot 0) i.bracket
  marketConfig : IsNullable R.IsConfig (v.slot 1) i.marketConfig
  availability : R.IsAvailability (v.slot 2) i.availability

end Reading

/-- On the values of a kind, and so on their parts, whatever `R` reads `R'` reads the same way. -/
structure Reading.Within (P : Value → Prop) (R R' : Reading) : Prop where
  nil : P .nil
  part : ∀ items item, P (.arr items) → item ∈ items → P item
  uint : ∀ v n, P v → R.uint v = some n → R'.uint v = some n
  deferred : ∀ v w, P v → R.deferred v = some w → R'.deferred v = some w

theorem IsNullable.mono {α : Type} {P Q : Value → α → Prop} {v : Value} {a : Option α}
    (h : IsNullable P v a) (hpq : ∀ a, P v a → Q v a) : IsNullable Q v a := by
  cases a with
  | none => exact h
  | some a => exact ⟨h.1, hpq a h.2⟩

section Mono

variable {P : Value → Prop} {R R' : Reading} (hw : R.Within P R')
include hw

theorem Reading.Within.slot {v : Value} (hv : P v) (i : Nat) : P (v.slot i) := by
  cases v with
  | arr items =>
    rw [Value.slot, List.getD_eq_getElem?_getD]
    cases h : (Value.arr items).items[i]? with
    | none => exact hw.nil
    | some item => exact hw.part items item hv (List.mem_of_getElem? h)
  | _ => exact hw.nil

theorem Reading.IsEvaluation.mono {v : Value} {e : TriggerEvaluation} (hv : P v)
    (h : R.IsEvaluation v e) : R'.IsEvaluation v e where
  tuple := h.tuple
  height := hw.uint _ _ (hw.slot hv 0) h.height
  frozenMark := hw.uint _ _ (hw.slot hv 1) h.frozenMark
  limitPrice := h.limitPrice.mono fun n => hw.uint _ n (hw.slot hv 2)
  requestedQuantity := hw.uint _ _ (hw.slot hv 3) h.requestedQuantity
  filledQuantity := hw.uint _ _ (hw.slot hv 4) h.filledQuantity
  residualQuantity := hw.uint _ _ (hw.slot hv 5) h.residualQuantity
  conserves := h.conserves
  reason := h.reason

theorem Reading.IsLimb.mono {v : Value} {l : StoredTriggerLimb} (hv : P v) (h : R.IsLimb v l) :
    R'.IsLimb v l where
  tuple := h.tuple
  limbId := hw.uint _ _ (hw.slot hv 0) h.limbId
  kind := h.kind
  triggerPrice := hw.uint _ _ (hw.slot hv 2) h.triggerPrice
  maxSlippageBps := hw.uint _ _ (hw.slot hv 3) h.maxSlippageBps
  clientTriggerId := h.clientTriggerId.mono fun n => hw.uint _ n (hw.slot hv 4)
  state := h.state
  lastEvaluation := h.lastEvaluation.mono fun _ => Reading.IsEvaluation.mono hw (hw.slot hv 6)
  nonzero := h.nonzero
  slippage := h.slippage
  nonzeroId := h.nonzeroId

theorem Reading.IsConfig.mono {v : Value} {c : TriggerMarketConfig} (hv : P v)
    (h : R.IsConfig v c) : R'.IsConfig v c where
  tuple := h.tuple
  version := hw.uint _ _ (hw.slot hv 0) h.version
  enabled := h.enabled
  maxTriggerSlippageBps := hw.uint _ _ (hw.slot hv 2) h.maxTriggerSlippageBps
  maxMarkAgeMs := hw.uint _ _ (hw.slot hv 3) h.maxMarkAgeMs
  maxFuturePublishSkewMs := hw.uint _ _ (hw.slot hv 4) h.maxFuturePublishSkewMs
  maxActiveBrackets := hw.uint _ _ (hw.slot hv 5) h.maxActiveBrackets
  nonzero := h.nonzero
  slippage := h.slippage
  bounds := h.bounds

theorem Reading.IsPending.mono {current : Option TriggerMarketConfig} {v : Value}
    {p : PendingTriggerMarketConfig} (hv : P v) (h : R.IsPending current v p) :
    R'.IsPending current v p where
  tuple := h.tuple
  config := h.config.mono hw (hw.slot hv 0)
  acceptedHeight := hw.uint _ _ (hw.slot hv 1) h.acceptedHeight
  effectiveHeight := hw.uint _ _ (hw.slot hv 2) h.effectiveHeight
  next := h.next
  version := h.version

theorem Reading.IsState.mono {v : Value} {s : TriggerMarketConfigState} (hv : P v)
    (h : R.IsState v s) : R'.IsState v s where
  tuple := h.tuple
  current := h.current.mono fun _ => Reading.IsConfig.mono hw (hw.slot hv 0)
  pending := h.pending.mono fun _ => Reading.IsPending.mono hw (hw.slot hv 1)
  nonempty := h.nonempty

theorem Reading.IsConfigInfo.mono {v : Value} {i : TriggerMarketConfigInfo} (hv : P v)
    (h : R.IsConfigInfo v i) : R'.IsConfigInfo v i where
  tuple := h.tuple
  market := hw.uint _ _ (hw.slot hv 0) h.market
  marketBound := h.marketBound
  state := h.state.mono hw (hw.slot hv 1)

theorem Reading.IsRegistry.mono {previousMarket : Int} {vs : List Value}
    {is : List TriggerMarketConfigInfo} (hv : ∀ v ∈ vs, P v) (h : R.IsRegistry previousMarket vs is) :
    R'.IsRegistry previousMarket vs is := by
  induction vs generalizing previousMarket is with
  | nil =>
    cases is with
    | nil => trivial
    | cons i is => exact h
  | cons v vs ih =>
    cases is with
    | nil => exact h
    | cons i is =>
      obtain ⟨hrow, horder, hrest⟩ := h
      have hhead := hrow.mono hw (hv v (List.mem_cons_self ..))
      exact ⟨hhead, horder, ih (fun w hm => hv w (List.mem_cons_of_mem _ hm)) hrest⟩

theorem Reading.IsAvailability.mono {v : Value} {a : TriggerEffectiveAvailability} (hv : P v)
    (h : R.IsAvailability v a) : R'.IsAvailability v a := by
  cases a with
  | simple kind => exact h
  | deferred reason =>
    obtain ⟨hsimple, w, hdeferred, hreason⟩ := h
    exact ⟨hsimple, w, hw.deferred v w hv hdeferred, hreason⟩

theorem Reading.IsBracket.mono {v : Value} {b : PositionTriggerBracket} (hv : P v)
    (howner : R'.owner (v.slot 1) = some b.owner) (h : R.IsBracket v b) : R'.IsBracket v b where
  tuple := h.tuple
  groupId := hw.uint _ _ (hw.slot hv 0) h.groupId
  owner := howner
  market := hw.uint _ _ (hw.slot hv 2) h.market
  positionEpoch := hw.uint _ _ (hw.slot hv 3) h.positionEpoch
  positionSide := h.positionSide
  acceptedHeight := hw.uint _ _ (hw.slot hv 5) h.acceptedHeight
  activeFromHeight := hw.uint _ _ (hw.slot hv 6) h.activeFromHeight
  clientGroupId := h.clientGroupId.mono fun n => hw.uint _ n (hw.slot hv 7)
  stopLoss := h.stopLoss.mono fun _ => Reading.IsLimb.mono hw (hw.slot hv 8)
  takeProfit := h.takeProfit.mono fun _ => Reading.IsLimb.mono hw (hw.slot hv 9)
  marketBound := h.marketBound
  nonzero := h.nonzero
  next := h.next
  nonempty := h.nonempty
  stopKind := h.stopKind
  takeKind := h.takeKind
  distinct := h.distinct
  nonzeroId := h.nonzeroId

/-- The owner is asked for where it stands. -/
theorem Reading.IsInfo.mono {v : Value} {i : PositionTriggerInfo} (hv : P v)
    (howner : ∀ b, R.owner ((v.slot 0).slot 1) = some b → R'.owner ((v.slot 0).slot 1) = some b)
    (h : R.IsInfo v i) : R'.IsInfo v i where
  tuple := h.tuple
  bracket := h.bracket.mono hw (hw.slot hv 0) (howner _ h.bracket.owner)
  marketConfig := h.marketConfig.mono fun _ => Reading.IsConfig.mono hw (hw.slot hv 1)
  availability := h.availability.mono hw (hw.slot hv 2)

end Mono

end TradingSdk.TriggerState
