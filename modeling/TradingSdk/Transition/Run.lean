import Mathlib.Data.List.Basic

namespace TradingSdk.Transition

variable {σ ε : Type}

/-- The state after a sequence of events, each of which may be disabled where it occurs. -/
def run (step : σ → ε → Option σ) : σ → List ε → Option σ
  | s, [] => some s
  | s, e :: es => (step s e).bind fun s' => run step s' es

theorem run_cons_eq_some {step : σ → ε → Option σ} {s s' : σ} {e : ε} {es : List ε} :
    run step s (e :: es) = some s' ↔ ∃ t, step s e = some t ∧ run step t es = some s' := by
  simp [run, Option.bind_eq_some_iff]

/-- What every enabled step keeps, every run keeps. -/
theorem run_invariant {step : σ → ε → Option σ} (Inv : σ → Prop)
    (hstep : ∀ s e s', step s e = some s' → Inv s → Inv s') {s s' : σ} {es : List ε}
    (hrun : run step s es = some s') (hs : Inv s) : Inv s' := by
  induction es generalizing s with
  | nil => exact Option.some.inj hrun ▸ hs
  | cons e es ih =>
    obtain ⟨t, hst, htail⟩ := run_cons_eq_some.mp hrun
    exact ih htail (hstep s e t hst hs)

/-- A condition on every step that a run takes. -/
def everyStep (step : σ → ε → Option σ) (Q : σ → ε → Prop) : σ → List ε → Prop
  | _, [] => True
  | s, e :: es => Q s e ∧ ∀ t, step s e = some t → everyStep step Q t es

/-- A property of every state that a run passes. -/
def everyState (step : σ → ε → Option σ) (P : σ → Prop) : σ → List ε → Prop
  | s, [] => P s
  | s, e :: es => P s ∧ ∀ t, step s e = some t → everyState step P t es

/-- When a step keeps a property exactly under a condition, a run has the property throughout
exactly when each of its steps meets the condition. The invariant may rest on the property. -/
theorem everyState_iff_everyStep {step : σ → ε → Option σ} (Inv : σ → Prop) {P : σ → Prop}
    {Q : σ → ε → Prop} (hinv : ∀ s e t, step s e = some t → Inv s → P s → P t → Inv t)
    (hstep : ∀ s e t, step s e = some t → Inv s → P s → (P t ↔ Q s e)) {s s' : σ} {es : List ε}
    (hrun : run step s es = some s') (hs : Inv s) (hP : P s) :
    everyState step P s es ↔ everyStep step Q s es := by
  induction es generalizing s with
  | nil => exact iff_of_true hP trivial
  | cons e es ih =>
    obtain ⟨t, hst, htail⟩ := run_cons_eq_some.mp hrun
    have hiff : P t ↔ Q s e := hstep s e t hst hs hP
    have htail' : P t → (everyState step P t es ↔ everyStep step Q t es) := by
      intro hPt
      exact ih htail (hinv s e t hst hs hP hPt) hPt
    rw [everyState, everyStep]
    constructor
    · rintro ⟨-, hall⟩
      have hPt : P t := by
        have hnext := hall t hst
        cases es with
        | nil => exact hnext
        | cons _ _ => exact hnext.1
      refine ⟨hiff.mp hPt, fun u hu => ?_⟩
      obtain rfl : t = u := Option.some.inj (hst.symm.trans hu)
      exact (htail' hPt).mp (hall t hst)
    · rintro ⟨hQ, hall⟩
      refine ⟨hP, fun u hu => ?_⟩
      obtain rfl : t = u := Option.some.inj (hst.symm.trans hu)
      exact (htail' (hiff.mpr hQ)).mpr (hall t hst)

/-- The outputs of a stepper that feeds each of its outputs into the next call. -/
def outputs {α β : Type} (step : α → β → α) : α → List β → List α
  | _, [] => []
  | last, x :: xs => step last x :: outputs step (step last x) xs

end TradingSdk.Transition
