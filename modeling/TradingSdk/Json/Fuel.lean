import TradingSdk.Json.Parse

namespace TradingSdk.Json

/-- A reader that takes at least `n` characters off the text. -/
def Consumes {α : Type} (n : Nat) (cs : List Char) (x : Parsed α) : Prop :=
  ∀ a rest, x = .ok (a, rest) → rest.length + n ≤ cs.length

section Consumes

variable {α β : Type} {n : Nat} {cs : List Char}

theorem Consumes.andThen {x : Parsed α} {f : α → List Char → Parsed β}
    (h : ∀ a rest, x = .ok (a, rest) → Consumes n cs (f a rest)) :
    Consumes n cs (x.andThen f) := by
  cases x with
  | error e =>
    intro b rest hb
    cases hb
  | ok result => exact h result.1 result.2 rfl

theorem Consumes.as {x : Parsed α} (h : Consumes n cs x) (f : α → β) : Consumes n cs (x.as f) :=
  Consumes.andThen fun a rest hx b rest' hb => by
    obtain ⟨rfl, rfl⟩ := Prod.mk.inj (Except.ok.inj hb)
    exact h a rest hx

theorem Consumes.trans {x : Parsed α} {k m : Nat} {front : List Char}
    (h : Consumes k front x) (hle : front.length + m ≤ cs.length) (hn : n ≤ k + m) :
    Consumes n cs x := by
  intro a rest hx
  have hrest := h a rest hx
  omega

theorem consumes_ok {a : α} {rest : List Char} (h : rest.length + n ≤ cs.length) :
    Consumes n cs (.ok (a, rest)) := by
  intro b rest' hb
  obtain ⟨rfl, rfl⟩ := Prod.mk.inj (Except.ok.inj hb)
  exact h

theorem consumes_error {e : Failure} : Consumes n cs (.error e : Parsed α) := by
  intro a rest h
  cases h

end Consumes

theorem skipSpace_length (cs : List Char) : (skipSpace cs).length ≤ cs.length := by
  induction cs with
  | nil => exact le_rfl
  | cons c cs ih =>
    rw [skipSpace]
    split_ifs
    · exact ih.trans (Nat.le_succ _)
    · exact le_rfl

theorem takeDigits_length (cs : List Char) :
    (takeDigits cs).1.length + (takeDigits cs).2.length = cs.length := by
  induction cs with
  | nil => rfl
  | cons c cs ih =>
    rw [takeDigits]
    split
    · simp
    · simp only [List.length_cons]
      omega

theorem takeFraction_length (cs : List Char) : (takeFraction cs).2.length ≤ cs.length := by
  rw [takeFraction.eq_def]
  split
  · next cs =>
    have h := takeDigits_length cs
    split
    · exact le_rfl
    · next heq =>
      rw [heq] at h
      simp only [List.length_cons] at h ⊢
      omega
  · exact le_rfl

theorem takeSign_length (cs : List Char) : (takeSign cs).2.length ≤ cs.length := by
  rw [takeSign.eq_def]
  split <;> simp

theorem takeExponent_length (cs : List Char) : (takeExponent cs).2.length ≤ cs.length := by
  cases cs with
  | nil => exact le_rfl
  | cons e cs =>
    have h := takeDigits_length (takeSign cs).2
    have hsign := takeSign_length cs
    rw [takeExponent]
    split_ifs
    · split
      · exact le_rfl
      · next heq =>
        rw [heq] at h
        simp only [List.length_cons] at h ⊢
        omega
    · exact le_rfl

theorem withUnit_eq_some {unit : Option Nat} {more : Option (List Nat × List Char)}
    {units : List Nat} {rest : List Char} (h : withUnit unit more = some (units, rest)) :
    ∃ u tail, unit = some u ∧ more = some (tail, rest) ∧ units = u :: tail := by
  obtain ⟨u, hu, hmore⟩ := Option.bind_eq_some_iff.mp h
  obtain ⟨⟨tail, rest'⟩, htail, heq⟩ := Option.map_eq_some_iff.mp hmore
  obtain ⟨hunits, rfl⟩ := Prod.mk.inj heq
  exact ⟨u, tail, hu, htail, hunits.symm⟩

theorem stringUnits_length (cs : List Char) : ∀ units rest,
    stringUnits cs = some (units, rest) → rest.length + 1 ≤ cs.length := by
  induction cs using stringUnits.induct with
  | case1 =>
    intro units rest h
    cases h
  | case2 tail =>
    intro units rest h
    rw [stringUnits] at h
    obtain ⟨-, rfl⟩ := Prod.mk.inj (Option.some.inj h)
    exact le_rfl
  | case3 a b c d tail ih =>
    intro units rest h
    rw [stringUnits] at h
    obtain ⟨-, more, -, hmore, -⟩ := withUnit_eq_some h
    have hrest := ih _ _ hmore
    simp only [List.length_cons]
    omega
  | case4 e tail hne ih =>
    intro units rest h
    rw [stringUnits.eq_4 e tail hne] at h
    obtain ⟨-, more, -, hmore, -⟩ := withUnit_eq_some h
    have hrest := ih _ _ hmore
    simp only [List.length_cons]
    omega
  | case5 c tail hquote hu he ih =>
    intro units rest h
    rw [stringUnits.eq_5 c tail hquote hu he] at h
    obtain ⟨-, more, -, hmore, -⟩ := withUnit_eq_some h
    have hrest := ih _ _ hmore
    simp only [List.length_cons]
    omega

theorem parseString_consumes (cs : List Char) : Consumes 1 cs (parseString cs) := by
  rw [parseString]
  split
  · exact consumes_error
  · next heq => exact consumes_ok (stringUnits_length cs _ _ heq)

theorem parseNumber_consumes (d : Dialect) (negative : Bool) (cs : List Char) :
    Consumes 1 cs (parseNumber d negative cs) := by
  have hdigits := takeDigits_length cs
  rw [parseNumber]
  split
  · exact consumes_error
  · exact consumes_error
  · next digits rest hne _ heq =>
    have hfraction := takeFraction_length rest
    have hexponent := takeExponent_length (takeFraction rest).2
    have hpos : 0 < digits.length := List.length_pos_iff.mpr hne
    rw [heq] at hdigits
    simp only
    split_ifs
    · exact consumes_error
    · apply consumes_ok
      simp only at hdigits
      omega

theorem dropWord_length (word : List Char) (cs : List Char) : ∀ rest,
    dropWord word cs = some rest → rest.length ≤ cs.length := by
  induction word, cs using dropWord.induct with
  | case1 cs =>
    intro rest h
    exact (Option.some.inj h).symm ▸ le_rfl
  | case2 w ws =>
    intro rest h
    cases h
  | case3 w ws cs ih =>
    intro rest h
    rw [dropWord, if_pos rfl] at h
    exact (ih rest h).trans (Nat.le_succ _)
  | case4 w ws c cs hne =>
    intro rest h
    rw [dropWord, if_neg hne] at h
    cases h

theorem parseWord_consumes (v : Value) (word : String) (cs : List Char) :
    Consumes 0 cs (parseWord v word cs) := by
  rw [parseWord]
  split
  · next heq => exact consumes_ok (dropWord_length _ _ _ heq)
  · exact consumes_error

theorem parseConstant_consumes (d : Dialect) (c : Constant) (word : String) (cs : List Char) :
    Consumes 0 cs (parseConstant d c word cs) := by
  rw [parseConstant]
  split
  · next heq => exact consumes_ok (dropWord_length _ _ _ heq)
  · exact consumes_error

theorem parseScalar_consumes (d : Dialect) (c : Char) (cs : List Char) :
    Consumes 1 (c :: cs) (parseScalar d c cs) := by
  have hcons : cs.length + 1 ≤ (c :: cs).length := le_rfl
  simp only [parseScalar]
  split_ifs
  · exact (parseWord_consumes _ _ cs).trans hcons le_rfl
  · exact (parseWord_consumes _ _ cs).trans hcons le_rfl
  · exact (parseWord_consumes _ _ cs).trans hcons le_rfl
  · exact (parseConstant_consumes d _ _ cs).trans hcons le_rfl
  · exact (parseConstant_consumes d _ _ cs).trans hcons le_rfl
  · exact (parseConstant_consumes d _ _ cs).trans hcons le_rfl
  · exact ((parseNumber_consumes d _ cs).as _).trans (m := 0) (Nat.le_succ _) le_rfl
  · exact (parseNumber_consumes d _ _).as _

/-- Where a reader ends, and that it ends there with a step more to spare. -/
structure Settled (d : Dialect) (fuel : Nat) : Prop where
  value_consumes : ∀ cs, Consumes 1 cs (parseValue d fuel cs)
  items_consumes : ∀ cs, Consumes 1 cs (parseItems d fuel cs)
  members_consumes : ∀ cs, Consumes 1 cs (parseMembers d fuel cs)
  value : ∀ cs, 2 * cs.length + 1 ≤ fuel → parseValue d (fuel + 1) cs = parseValue d fuel cs
  items : ∀ cs, 2 * cs.length + 2 ≤ fuel → parseItems d (fuel + 1) cs = parseItems d fuel cs
  members : ∀ cs, 2 * cs.length + 2 ≤ fuel →
    parseMembers d (fuel + 1) cs = parseMembers d fuel cs

theorem andThen_congr {α β : Type} {x : Parsed α} {f g : α → List Char → Parsed β}
    (h : ∀ a rest, x = .ok (a, rest) → f a rest = g a rest) : x.andThen f = x.andThen g := by
  cases x with
  | error e => rfl
  | ok result => exact h result.1 result.2 rfl

theorem skipSpace_eq_cons {cs rest : List Char} {c : Char} (h : skipSpace cs = c :: rest) :
    rest.length + 1 ≤ cs.length := by
  have hle := skipSpace_length cs
  rw [h] at hle
  exact hle

variable {d : Dialect} {fuel : Nat}

theorem parseValue_consumes (ih : Settled d fuel) (cs : List Char) :
    Consumes 1 cs (parseValue d (fuel + 1) cs) := by
  cases cs with
  | nil =>
    rw [parseValue]
    exact consumes_error
  | cons c cs =>
    have hspace := skipSpace_length cs
    have hle : cs.length + 0 ≤ (c :: cs).length := Nat.le_succ _
    have hskip : (skipSpace cs).length + 0 ≤ (c :: cs).length := hspace.trans hle
    have htail : (skipSpace cs).tail.length + 1 ≤ (c :: cs).length := by
      simp only [List.length_tail, List.length_cons]
      omega
    rw [parseValue]
    split_ifs
    · exact ((parseString_consumes cs).as _).trans hle le_rfl
    · exact consumes_ok htail
    · exact ((ih.items_consumes _).as _).trans hskip le_rfl
    · exact consumes_ok htail
    · exact ((ih.members_consumes _).as _).trans hskip le_rfl
    · exact parseScalar_consumes d c cs

theorem parseItems_consumes (ih : Settled d fuel) (cs : List Char) :
    Consumes 1 cs (parseItems d (fuel + 1) cs) := by
  rw [parseItems]
  refine Consumes.andThen fun v rest hv => ?_
  have hrest := ih.value_consumes cs v rest hv
  split
  · next more heq =>
    have hmore := skipSpace_eq_cons heq
    have hskip := skipSpace_length more
    exact ((ih.items_consumes _).as _).trans (m := 0) (by omega) le_rfl
  · next more heq =>
    have hmore := skipSpace_eq_cons heq
    exact consumes_ok (by omega)
  · exact consumes_error

theorem parseMembers_consumes (ih : Settled d fuel) (cs : List Char) :
    Consumes 1 cs (parseMembers d (fuel + 1) cs) := by
  cases cs with
  | nil =>
    rw [parseMembers]
    exact consumes_error
  | cons quote cs =>
    rw [parseMembers]
    split_ifs
    · exact consumes_error
    · refine Consumes.andThen fun name rest hname => ?_
      have hrest := parseString_consumes cs name rest hname
      have hlen : (quote :: cs).length = cs.length + 1 := rfl
      split
      · next value heq =>
        have hvalue := skipSpace_eq_cons heq
        have hspace := skipSpace_length value
        refine Consumes.andThen fun v rest hv => ?_
        have hrest := ih.value_consumes _ v rest hv
        split
        · next more heq =>
          have hmore := skipSpace_eq_cons heq
          have hskip := skipSpace_length more
          exact ((ih.members_consumes _).as _).trans (m := 0) (by omega) le_rfl
        · next more heq =>
          have hmore := skipSpace_eq_cons heq
          exact consumes_ok (by omega)
        · exact consumes_error
      · exact consumes_error

theorem parseValue_settled (ih : Settled d fuel) (cs : List Char)
    (h : 2 * cs.length + 1 ≤ fuel + 1) :
    parseValue d (fuel + 1 + 1) cs = parseValue d (fuel + 1) cs := by
  cases cs with
  | nil => rw [parseValue, parseValue]
  | cons c cs =>
    have hspace := skipSpace_length cs
    rw [List.length_cons] at h
    rw [parseValue, parseValue, ih.items _ (by omega), ih.members _ (by omega)]

theorem parseItems_settled (ih : Settled d fuel) (cs : List Char)
    (h : 2 * cs.length + 2 ≤ fuel + 1) :
    parseItems d (fuel + 1 + 1) cs = parseItems d (fuel + 1) cs := by
  rw [parseItems, parseItems, ih.value cs (by omega)]
  refine andThen_congr fun v rest hv => ?_
  have hrest := ih.value_consumes cs v rest hv
  split
  · next more heq =>
    have hmore := skipSpace_eq_cons heq
    have hskip := skipSpace_length more
    rw [ih.items _ (by omega)]
  · rfl
  · rfl

theorem parseMembers_settled (ih : Settled d fuel) (cs : List Char)
    (h : 2 * cs.length + 2 ≤ fuel + 1) :
    parseMembers d (fuel + 1 + 1) cs = parseMembers d (fuel + 1) cs := by
  cases cs with
  | nil => rw [parseMembers, parseMembers]
  | cons quote cs =>
    rw [List.length_cons] at h
    rw [parseMembers, parseMembers]
    split_ifs
    · rfl
    · refine andThen_congr fun name rest hname => ?_
      have hrest := parseString_consumes cs name rest hname
      split
      · next value heq =>
        have hvalue := skipSpace_eq_cons heq
        have hspace := skipSpace_length value
        rw [ih.value _ (by omega)]
        refine andThen_congr fun v rest hv => ?_
        have hrest := ih.value_consumes _ v rest hv
        split
        · next more heq =>
          have hmore := skipSpace_eq_cons heq
          have hskip := skipSpace_length more
          rw [ih.members _ (by omega)]
        · rfl
        · rfl
      · rfl

theorem settled (d : Dialect) (fuel : Nat) : Settled d fuel := by
  induction fuel with
  | zero =>
    have hvalue : ∀ cs, parseValue d 0 cs = .error .malformed := fun cs => by rw [parseValue]
    have hitems : ∀ cs, parseItems d 0 cs = .error .malformed := fun cs => by rw [parseItems]
    have hmembers : ∀ cs, parseMembers d 0 cs = .error .malformed :=
      fun cs => by rw [parseMembers]
    refine ⟨fun cs => ?_, fun cs => ?_, fun cs => ?_, fun cs h => ?_, fun cs h => ?_,
      fun cs h => ?_⟩
    · exact hvalue cs ▸ consumes_error
    · exact hitems cs ▸ consumes_error
    · exact hmembers cs ▸ consumes_error
    all_goals omega
  | succ fuel ih =>
    exact ⟨parseValue_consumes ih, parseItems_consumes ih, parseMembers_consumes ih,
      parseValue_settled ih, parseItems_settled ih, parseMembers_settled ih⟩

/-- No text needs more fuel than `parse` gives it. -/
theorem parseValue_fuel (d : Dialect) (cs : List Char) (extra : Nat) :
    parseValue d (2 * cs.length + 1 + extra) (skipSpace cs) =
      parseValue d (2 * cs.length + 1) (skipSpace cs) := by
  have hspace := skipSpace_length cs
  induction extra with
  | zero => rfl
  | succ extra ih => rw [← ih, ← Nat.add_assoc, (settled d _).value _ (by omega)]

end TradingSdk.Json
