import Mathlib.Data.List.Basic

namespace TradingSdk

section Replace

variable {α : Type} (find : List α → Option (List α × Nat))

/-- `find` gives what stands for the match at the front, and the length of the match. The first
`skip` elements belong to a match that is already replaced. -/
def replaceFrom : Nat → List α → List α
  | _, [] => []
  | skip + 1, _ :: cs => replaceFrom skip cs
  | 0, c :: cs =>
    match find (c :: cs) with
    | none => c :: replaceFrom 0 cs
    | some (new, length) => new ++ replaceFrom (length - 1) cs

def replaceAll (cs : List α) : List α := replaceFrom find 0 cs

variable {find}

theorem replaceFrom_eq_drop (skip : Nat) (cs : List α) :
    replaceFrom find skip cs = replaceAll find (cs.drop skip) := by
  induction cs generalizing skip with
  | nil => simp [replaceAll, replaceFrom]
  | cons c cs ih =>
    cases skip with
    | zero => rfl
    | succ skip =>
      rw [replaceFrom, List.drop_succ_cons]
      exact ih skip

theorem replaceAll_cons {c : α} {cs : List α} (h : find (c :: cs) = none) :
    replaceAll find (c :: cs) = c :: replaceAll find cs := by
  rw [replaceAll, replaceFrom, h]
  rfl

/-- A match is replaced, and the search goes on behind it. -/
theorem replaceAll_match {cs new rest : List α} {c : α} {matched : List α}
    (hcs : cs = c :: (matched ++ rest)) (h : find cs = some (new, matched.length + 1)) :
    replaceAll find cs = new ++ replaceAll find rest := by
  rw [hcs] at h ⊢
  rw [replaceAll, replaceFrom, h]
  simp only [Nat.add_sub_cancel]
  rw [replaceFrom_eq_drop, List.drop_left]

/-- Where no match begins nothing changes. -/
theorem replaceAll_append {front : List α} (h : ∀ c ∈ front, ∀ cs, find (c :: cs) = none)
    (rest : List α) : replaceAll find (front ++ rest) = front ++ replaceAll find rest := by
  induction front with
  | nil => rfl
  | cons c front ih =>
    have hc : find (c :: (front ++ rest)) = none := h c List.mem_cons_self _
    rw [List.cons_append, replaceAll_cons hc, List.cons_append]
    rw [ih fun c hmem => h c (List.mem_cons_of_mem _ hmem)]

end Replace

end TradingSdk
