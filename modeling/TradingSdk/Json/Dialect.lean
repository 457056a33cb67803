import TradingSdk.Json.Parse

namespace TradingSdk.Json

/-- The dialect of ECMA-404: no constants, and integers of any length. -/
def Dialect.standard : Dialect := ⟨false, none⟩

/-- The dialect of Python: three constants, and integers of at most 4300 digits. -/
def Dialect.python : Dialect := ⟨true, some 4300⟩

/-- What the standard dialect makes of a text that another one read as `y`: a refusal where a
constant occurs or the other found no value, and else the same. Where the other gave up on the
digits of an integer nothing is said. -/
def Narrows {α : Type} (dirty : α → Bool) (x : Parsed α) : Parsed α → Prop
  | .ok (a, rest) => x = if dirty a then .error .malformed else .ok (a, rest)
  | .error .malformed => x = .error .malformed
  | .error .tooManyDigits => True

section Narrows

variable {α β : Type} {dirty : α → Bool} {dirty' : β → Bool}

theorem Narrows.refl {x : Parsed α} (h : ∀ a, dirty a = false) : Narrows dirty x x := by
  match x with
  | .ok (a, rest) => simp [Narrows, h a]
  | .error .malformed => rfl
  | .error .tooManyDigits => trivial

theorem Narrows.andThen {x y : Parsed α} {f g : α → List Char → Parsed β}
    (h : Narrows dirty x y)
    (hclean : ∀ a rest, dirty a = false → Narrows dirty' (f a rest) (g a rest))
    (hdirty : ∀ a rest, dirty a = true → Narrows dirty' (.error .malformed) (g a rest)) :
    Narrows dirty' (x.andThen f) (y.andThen g) := by
  match y with
  | .ok (a, rest) =>
    rw [Narrows] at h
    cases ha : dirty a with
    | false =>
      rw [h, ha]
      exact hclean a rest ha
    | true =>
      rw [h, ha]
      exact hdirty a rest ha
  | .error .malformed =>
    rw [Narrows] at h
    rw [h]
    rfl
  | .error .tooManyDigits => trivial

theorem Narrows.as {x y : Parsed α} {f : α → β} (h : Narrows dirty x y)
    (hf : ∀ a, dirty' (f a) = dirty a) : Narrows dirty' (x.as f) (y.as f) := by
  apply h.andThen
  · intro a rest ha
    simp [Narrows, hf, ha]
  · intro a rest ha
    simp [Narrows, hf, ha]

/-- A constant already read spoils whatever follows. -/
theorem narrows_of_dirty {y : Parsed α} {f : α → β} (hf : ∀ a, dirty' (f a) = true) :
    Narrows dirty' (.error .malformed) (y.as f) := by
  match y with
  | .ok (a, rest) => simp [Parsed.as, Parsed.andThen, Narrows, hf]
  | .error .malformed => rfl
  | .error .tooManyDigits => trivial

end Narrows

variable (d : Dialect)

theorem parseNumber_narrows (negative : Bool) (cs : List Char) :
    Narrows (fun _ => false) (parseNumber .standard negative cs) (parseNumber d negative cs) := by
  rw [parseNumber, parseNumber]
  split
  · rfl
  · rfl
  · simp only [Dialect.standard, Option.any_none, Bool.false_eq_true, and_false, if_false]
    split_ifs
    · trivial
    · rfl

theorem parseConstant_narrows (c : Constant) (word : String) (cs : List Char) :
    Narrows Value.hasConstant (parseConstant .standard c word cs) (parseConstant d c word cs) := by
  have hstandard : parseConstant .standard c word cs = .error .malformed := rfl
  rw [hstandard, parseConstant]
  split <;> rfl

theorem parseWord_narrows {v : Value} (hv : v.hasConstant = false) (word : String)
    (cs : List Char) : Narrows Value.hasConstant (parseWord v word cs) (parseWord v word cs) := by
  rw [parseWord]
  split
  · simp [Narrows, hv]
  · rfl

theorem number_narrows (negative : Bool) (cs : List Char) :
    Narrows Value.hasConstant ((parseNumber .standard negative cs).as .number)
      ((parseNumber d negative cs).as .number) :=
  (parseNumber_narrows d negative cs).as fun _ => rfl

theorem parseScalar_narrows (c : Char) (cs : List Char) :
    Narrows Value.hasConstant (parseScalar .standard c cs) (parseScalar d c cs) := by
  simp only [parseScalar]
  split_ifs
  · exact parseWord_narrows (by rw [Value.hasConstant] <;> simp) _ _
  · exact parseWord_narrows (by rw [Value.hasConstant] <;> simp) _ _
  · exact parseWord_narrows (by rw [Value.hasConstant] <;> simp) _ _
  · exact parseConstant_narrows d _ _ _
  · exact parseConstant_narrows d _ _ _
  · exact parseConstant_narrows d _ _ _
  · exact number_narrows d _ _
  · exact number_narrows d _ _

/-- What the induction on the fuel carries. -/
structure NarrowsWithin (fuel : Nat) : Prop where
  value : ∀ cs, Narrows Value.hasConstant (parseValue .standard fuel cs) (parseValue d fuel cs)
  items : ∀ cs, Narrows itemsHaveConstant (parseItems .standard fuel cs) (parseItems d fuel cs)
  members : ∀ cs, Narrows membersHaveConstant (parseMembers .standard fuel cs)
    (parseMembers d fuel cs)

variable {d}

theorem parseValue_narrows {fuel : Nat} (ih : NarrowsWithin d fuel) (cs : List Char) :
    Narrows Value.hasConstant (parseValue .standard (fuel + 1) cs)
      (parseValue d (fuel + 1) cs) := by
  cases cs with
  | nil =>
    rw [parseValue, parseValue]
    rfl
  | cons c cs =>
    have hread : Narrows (fun _ => false) (parseString cs) (parseString cs) :=
      Narrows.refl fun _ => rfl
    have hstring : Narrows Value.hasConstant ((parseString cs).as .string)
        ((parseString cs).as .string) := hread.as fun _ => rfl
    rw [parseValue, parseValue]
    split_ifs
    · exact hstring
    · rfl
    · exact (ih.items _).as fun _ => by rw [Value.hasConstant]
    · rfl
    · exact (ih.members _).as fun _ => by rw [Value.hasConstant]
    · exact parseScalar_narrows d c cs

theorem parseItems_narrows {fuel : Nat} (ih : NarrowsWithin d fuel) (cs : List Char) :
    Narrows itemsHaveConstant (parseItems .standard (fuel + 1) cs)
      (parseItems d (fuel + 1) cs) := by
  rw [parseItems, parseItems]
  refine (ih.value cs).andThen (fun v rest hv => ?_) fun v rest hv => ?_
  · split
    · exact (ih.items _).as fun vs => by simp [itemsHaveConstant, hv]
    · simp [Narrows, itemsHaveConstant, hv]
    · rfl
  · split
    · exact narrows_of_dirty fun vs => by simp [itemsHaveConstant, hv]
    · simp [Narrows, itemsHaveConstant, hv]
    · rfl

theorem parseMembers_narrows {fuel : Nat} (ih : NarrowsWithin d fuel) (cs : List Char) :
    Narrows membersHaveConstant (parseMembers .standard (fuel + 1) cs)
      (parseMembers d (fuel + 1) cs) := by
  cases cs with
  | nil =>
    rw [parseMembers, parseMembers]
    rfl
  | cons quote cs =>
    have hname : Narrows (fun _ => false) (parseString cs) (parseString cs) :=
      Narrows.refl fun _ => rfl
    rw [parseMembers, parseMembers]
    split_ifs
    · rfl
    · refine hname.andThen (fun name rest _ => ?_) fun _ _ h => absurd h Bool.false_ne_true
      split
      · refine (ih.value _).andThen (fun v rest hv => ?_) fun v rest hv => ?_
        · split
          · exact (ih.members _).as fun members => by simp [membersHaveConstant, hv]
          · simp [Narrows, membersHaveConstant, hv]
          · rfl
        · split
          · exact narrows_of_dirty fun members => by simp [membersHaveConstant, hv]
          · simp [Narrows, membersHaveConstant, hv]
          · rfl
      · rfl

theorem narrowsWithin (d : Dialect) (fuel : Nat) : NarrowsWithin d fuel := by
  induction fuel with
  | zero =>
    refine ⟨fun cs => ?_, fun cs => ?_, fun cs => ?_⟩
    · rw [parseValue, parseValue]
      rfl
    · rw [parseItems, parseItems]
      rfl
    · rw [parseMembers, parseMembers]
      rfl
  | succ fuel ih => exact ⟨parseValue_narrows ih, parseItems_narrows ih, parseMembers_narrows ih⟩

/-- The standard reading of a text that another dialect read. -/
theorem parse_standard {d : Dialect} {cs : List Char} {v : Value} (h : parse d cs = .ok v) :
    parse .standard cs = if v.hasConstant then .error .malformed else .ok v := by
  have hnarrows := (narrowsWithin d (2 * cs.length + 1)).value (skipSpace cs)
  rw [parse] at h ⊢
  cases hd : parseValue d (2 * cs.length + 1) (skipSpace cs) with
  | error e =>
    rw [hd] at h
    cases h
  | ok result =>
    obtain ⟨v', rest⟩ := result
    rw [hd] at h hnarrows
    simp only at h
    split_ifs at h with hrest
    obtain rfl := Except.ok.inj h
    rw [Narrows] at hnarrows
    rw [hnarrows]
    cases v'.hasConstant
    · exact if_pos hrest
    · rfl

theorem parse_standard_malformed {d : Dialect} {cs : List Char}
    (h : parse d cs = .error .malformed) : parse .standard cs = .error .malformed := by
  have hnarrows := (narrowsWithin d (2 * cs.length + 1)).value (skipSpace cs)
  rw [parse] at h ⊢
  cases hd : parseValue d (2 * cs.length + 1) (skipSpace cs) with
  | error e =>
    rw [hd] at h hnarrows
    obtain rfl := Except.error.inj h
    rw [Narrows] at hnarrows
    rw [hnarrows]
  | ok result =>
    obtain ⟨v, rest⟩ := result
    rw [hd] at h hnarrows
    simp only at h
    split_ifs at h with hrest
    rw [Narrows] at hnarrows
    rw [hnarrows]
    cases v.hasConstant
    · exact if_neg hrest
    · rfl

end TradingSdk.Json
