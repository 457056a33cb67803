import Mathlib.Data.List.Induction
import TradingSdk.Transition.Run

namespace TradingSdk.Transition

variable {σ ε : Type}

theorem run_append {step : σ → ε → Option σ} (s : σ) (es es' : List ε) :
    run step s (es ++ es') = (run step s es).bind fun t => run step t es' := by
  induction es generalizing s with
  | nil => rfl
  | cons e es ih =>
    rw [List.cons_append, run, run, Option.bind_assoc]
    congr 1
    funext t
    exact ih t

/-- What every enabled step keeps of a state and the events that led to it holds after every run,
of all of its events. -/
theorem run_history {step : σ → ε → Option σ} (P : List ε → σ → Prop) {s₀ : σ} (hinit : P [] s₀)
    (hstep : ∀ es s e t, P es s → step s e = some t → P (es ++ [e]) t) {s : σ} {es : List ε}
    (hrun : run step s₀ es = some s) : P es s := by
  induction es using List.reverseRecOn generalizing s with
  | nil => exact Option.some.inj hrun ▸ hinit
  | append_singleton es e ih =>
    rw [run_append] at hrun
    obtain ⟨t, ht, hlast⟩ := Option.bind_eq_some_iff.mp hrun
    obtain ⟨u, hu, hnil⟩ := run_cons_eq_some.mp hlast
    exact Option.some.inj hnil ▸ hstep es t e u (ih ht) hu

theorem outputs_append {α β : Type} (step : α → β → α) (last : α) (xs ys : List β) :
    outputs step last (xs ++ ys) =
      outputs step last xs ++ outputs step (xs.foldl step last) ys := by
  induction xs generalizing last with
  | nil => rfl
  | cons x xs ih => rw [List.cons_append, outputs, ih, List.foldl_cons]; rfl

end TradingSdk.Transition
