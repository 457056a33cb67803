import Mathlib.Data.List.Forall2

namespace TradingSdk

variable {ε α β : Type}

theorem mem_of_lookup [BEq α] [LawfulBEq α] {entries : List (α × β)} {key : α} {value : β}
    (h : entries.lookup key = some value) : (key, value) ∈ entries := by
  obtain ⟨before, after, heq, -⟩ := List.lookup_eq_some_iff.mp h
  simp [heq]

theorem lookup_of_mem [BEq α] [LawfulBEq α] {entries : List (α × β)} {key : α} {value : β}
    (hnodup : (entries.map Prod.fst).Nodup) (h : (key, value) ∈ entries) :
    entries.lookup key = some value := by
  induction entries with
  | nil => cases h
  | cons e entries ih =>
    obtain ⟨hfresh, hrest⟩ := List.nodup_cons.mp hnodup
    rw [List.lookup_cons]
    obtain heq | hmem := List.mem_cons.mp h
    · rw [← heq, beq_self_eq_true]
    · have hne : (key == e.1) = false := beq_false_of_ne fun heq =>
        hfresh (heq ▸ List.mem_map_of_mem (f := Prod.fst) hmem)
      rw [hne]
      exact ih hrest hmem

theorem lookup_isSome_iff_mem [BEq α] [LawfulBEq α] {entries : List (α × β)} {key : α} :
    (entries.lookup key).isSome = true ↔ key ∈ entries.map Prod.fst := by
  rw [List.lookup_isSome_iff, List.mem_map]
  refine exists_congr fun e => and_congr_right fun _ => ?_
  rw [beq_iff_eq, eq_comm]

theorem exists_related_of_mem {P : α → β → Prop} {as : List α} {bs : List β}
    (h : List.Forall₂ P as bs) {a : α} (ha : a ∈ as) : ∃ b ∈ bs, P a b := by
  induction h with
  | nil => cases ha
  | cons hab _ ih =>
    rcases List.mem_cons.mp ha with rfl | hrest
    · exact ⟨_, List.mem_cons_self, hab⟩
    · obtain ⟨b, hb, hP⟩ := ih hrest
      exact ⟨b, List.mem_cons_of_mem _ hb, hP⟩

theorem bind_ok_iff {x : Except ε α} {f : α → Except ε β} {b : β} :
    (x >>= f) = .ok b ↔ ∃ a, x = .ok a ∧ f a = .ok b := by
  cases x with
  | error e => simp [bind, Except.bind]
  | ok a => simp [bind, Except.bind]

theorem pure_ok_iff {a b : α} : (pure a : Except ε α) = .ok b ↔ a = b :=
  Except.ok.injEq a b ▸ Iff.rfl

theorem mapM_ok_iff {f : α → Except ε β} {as : List α} {bs : List β} :
    as.mapM f = .ok bs ↔ List.Forall₂ (fun a b => f a = .ok b) as bs := by
  induction as generalizing bs with
  | nil => rw [List.mapM_nil, pure_ok_iff, List.forall₂_nil_left_iff, eq_comm]
  | cons a as ih =>
    simp only [List.mapM_cons, bind_ok_iff, pure_ok_iff, ih, List.forall₂_cons_left_iff]
    constructor
    · rintro ⟨b, hb, bs', hbs, rfl⟩
      exact ⟨b, bs', hb, hbs, rfl⟩
    · rintro ⟨b, bs', hb, hbs, rfl⟩
      exact ⟨b, hb, bs', hbs, rfl⟩

/-- A result for each element is a result for the list. -/
theorem exists_mapM_ok {f : α → Except ε β} {as : List α} (h : ∀ a ∈ as, ∃ b, f a = .ok b) :
    ∃ bs, as.mapM f = .ok bs := by
  induction as with
  | nil => exact ⟨[], rfl⟩
  | cons a as ih =>
    obtain ⟨b, hb⟩ := h a List.mem_cons_self
    obtain ⟨bs, hbs⟩ := ih fun a ha => h a (List.mem_cons_of_mem _ ha)
    refine ⟨b :: bs, ?_⟩
    rw [List.mapM_cons, hb, hbs]
    rfl

/-- A check run over a list. -/
theorem forM_ok_iff {f : α → Except ε PUnit} {as : List α} {u : PUnit} :
    forM as f = .ok u ↔ ∀ a ∈ as, f a = .ok () := by
  induction as with
  | nil => simp [pure_ok_iff]
  | cons a as ih =>
    simp only [List.forM_cons, bind_ok_iff, ih, List.forall_mem_cons]
    constructor
    · rintro ⟨_, ha, has⟩
      exact ⟨ha, has⟩
    · rintro ⟨ha, has⟩
      exact ⟨(), ha, has⟩

/-- A condition that a reader insists on, with the error that it makes of a message. -/
def check (fail : String → ε) (condition : Prop) [Decidable condition] (message : String) :
    Except ε Unit :=
  if condition then .ok () else .error (fail message)

theorem check_ok_iff {fail : String → ε} {condition : Prop} [Decidable condition]
    {message : String} {u : Unit} : check fail condition message = .ok u ↔ condition := by
  rw [check]
  split_ifs with h <;> simp [h]

theorem exists_error {x : Except ε α} (h : ∀ a, x ≠ .ok a) : ∃ e, x = .error e := by
  cases x with
  | error e => exact ⟨e, rfl⟩
  | ok a => exact absurd rfl (h a)

/-- Two computations, each with errors of its own, that succeed on the same results. -/
theorem toOption_eq_iff {ε' : Type} {x : Except ε α} {y : Except ε' α} :
    x.toOption = y.toOption ↔ ∀ a, x = .ok a ↔ y = .ok a := by
  cases x with
  | error e =>
    cases y with
    | error e' => simp [Except.toOption]
    | ok b => simp [Except.toOption]
  | ok a =>
    cases y with
    | error e' => simp [Except.toOption]
    | ok b =>
      simp only [Except.toOption, Option.some_inj, Except.ok.injEq]
      exact ⟨fun h c => by rw [h], fun h => ((h a).mp rfl).symm⟩

theorem optionMapM_ok_iff {f : α → Except ε β} {a : Option α} {b : Option β} :
    a.mapM f = .ok b ↔ Option.Rel (fun x y => f x = .ok y) a b := by
  constructor
  · intro h
    cases a with
    | none =>
      obtain rfl : none = b := by simpa [pure_ok_iff] using h
      exact .none
    | some x =>
      cases hx : f x with
      | error e => simp [Functor.map, Except.map, hx] at h
      | ok y =>
        obtain rfl : some y = b := by simpa [Functor.map, Except.map, hx] using h
        exact .some hx
  · intro h
    cases h with
    | none => rfl
    | some hx => simp [Functor.map, Except.map, hx]

theorem optionRel_iff {r s : α → β → Prop} {a : Option α} {b : Option β}
    (h : ∀ x y, r x y ↔ s x y) : Option.Rel r a b ↔ Option.Rel s a b := by
  have heq : r = s := funext fun x => funext fun y => propext (h x y)
  rw [heq]

end TradingSdk
