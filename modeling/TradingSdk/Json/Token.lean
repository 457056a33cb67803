import TradingSdk.Json.Dialect
import TradingSdk.Json.Fuel

namespace TradingSdk.Json

/-- White space of any length. -/
abbrev Space := { cs : List Char // ∀ c ∈ cs, isSpace c = true }

/-- What may stand behind a value: white space, and then a separator or the end. -/
def Ends (rest : List Char) : Prop :=
  skipSpace rest = [] ∨ ∃ c cs, skipSpace rest = c :: cs ∧ (c = ',' ∨ c = ']' ∨ c = '}')

theorem cases_of_isSpace {c : Char} (h : isSpace c = true) :
    c = ' ' ∨ c = '\t' ∨ c = '\n' ∨ c = '\r' := by
  simpa [isSpace, or_assoc] using h

theorem skipSpace_cons {c : Char} (h : isSpace c = false) (cs : List Char) :
    skipSpace (c :: cs) = c :: cs := by
  rw [skipSpace, h]
  rfl

theorem skipSpace_append {space : List Char} (h : ∀ c ∈ space, isSpace c = true)
    (rest : List Char) : skipSpace (space ++ rest) = skipSpace rest := by
  induction space with
  | nil => rfl
  | cons c space ih =>
    have hc : isSpace c = true := h c List.mem_cons_self
    rw [List.cons_append, skipSpace, if_pos hc]
    exact ih fun c hmem => h c (List.mem_cons_of_mem _ hmem)

/-- The white space in front of a text. -/
theorem exists_space (cs : List Char) : ∃ space : Space, cs = space.1 ++ skipSpace cs := by
  induction cs with
  | nil => exact ⟨⟨[], by simp⟩, rfl⟩
  | cons c cs ih =>
    by_cases hc : isSpace c = true
    · obtain ⟨space, hspace⟩ := ih
      refine ⟨⟨c :: space.1, ?_⟩, ?_⟩
      · intro c' hmem
        obtain rfl | hmem := List.mem_cons.mp hmem
        · exact hc
        · exact space.2 c' hmem
      · rw [skipSpace, if_pos hc, List.cons_append, ← hspace]
    · refine ⟨⟨[], by simp⟩, ?_⟩
      rw [skipSpace_cons (Bool.eq_false_of_not_eq_true hc)]
      rfl

theorem ends_separator {c : Char} (hc : c = ',' ∨ c = ']' ∨ c = '}') (space : Space)
    (rest : List Char) : Ends (space.1 ++ c :: rest) := by
  have hspace : isSpace c = false := by
    obtain rfl | rfl | rfl := hc
    all_goals decide
  refine .inr ⟨c, rest, ?_, hc⟩
  rw [skipSpace_append space.2, skipSpace_cons hspace]

theorem ends_space (space : Space) : Ends space.1 := by
  have h := skipSpace_append space.2 []
  rw [List.append_nil] at h
  exact .inl h

/-- What stands behind a value begins with none of the characters that a value holds. -/
theorem Ends.head {c : Char} {cs : List Char} (h : Ends (c :: cs)) :
    isSpace c = true ∨ c = ',' ∨ c = ']' ∨ c = '}' := by
  by_cases hc : isSpace c = true
  · exact .inl hc
  · have hskip := skipSpace_cons (Bool.eq_false_of_not_eq_true hc) cs
    obtain hnil | ⟨c', cs', heq, hc'⟩ := h
    · rw [hskip] at hnil
      cases hnil
    · rw [hskip] at heq
      obtain ⟨rfl, -⟩ := List.cons.inj heq
      exact .inr hc'

abbrev Digit := Fin 10

def Digit.char (d : Digit) : Char := Char.ofNat (48 + d.1)

abbrev Digits := { ds : List Digit // ds ≠ [] }

/-- The characters of a list of digits. -/
def digitChars (ds : List Digit) : List Char := ds.map Digit.char

def digitValues (ds : List Digit) : List Nat := ds.map Fin.val

structure ExponentToken where
  letter : { c : Char // c = 'e' ∨ c = 'E' }
  sign : Option { c : Char // c = '-' ∨ c = '+' }
  digits : Digits

structure NumberToken where
  negative : Bool
  integer : Digits
  fraction : Option Digits
  exponent : Option ExponentToken
  /-- A zero in front is the only digit before the point. -/
  noLeadingZero : ∀ d ds, integer.1 ≠ 0 :: d :: ds

def ExponentToken.text (e : ExponentToken) : List Char :=
  e.letter.1 :: (e.sign.elim [] (fun s => [s.1]) ++ digitChars e.digits.1)

def ExponentToken.value (e : ExponentToken) : Bool × List Nat :=
  (e.sign.elim false fun s => s.1 = '-', digitValues e.digits.1)

namespace NumberToken

def number (n : NumberToken) : Number :=
  ⟨n.negative, digitValues n.integer.1, n.fraction.map fun f => digitValues f.1,
    n.exponent.map ExponentToken.value⟩

/-- The sign and the digits before the point. -/
def front (n : NumberToken) : List Char :=
  (if n.negative then ['-'] else []) ++ digitChars n.integer.1

def fractionText (n : NumberToken) : List Char :=
  n.fraction.elim [] fun f => '.' :: digitChars f.1

/-- The fraction and the exponent. -/
def back (n : NumberToken) : List Char := n.fractionText ++ n.exponent.elim [] ExponentToken.text

def text (n : NumberToken) : List Char := n.front ++ n.back

def isInteger (n : NumberToken) : Bool := n.fraction.isNone && n.exponent.isNone

end NumberToken

theorem digit_char (d : Digit) : digit d.char = some d.1 := by
  revert d
  decide

theorem exists_digit {c : Char} {d : Nat} (h : digit c = some d) :
    ∃ d' : Digit, d'.1 = d ∧ d'.char = c := by
  rw [digit] at h
  split_ifs at h with hc
  obtain rfl := Option.some.inj h
  refine ⟨⟨c.toNat - 48, by omega⟩, rfl, ?_⟩
  have hnat : 48 + (c.toNat - 48) = c.toNat := by omega
  rw [Digit.char, hnat, Char.ofNat_toNat]

/-- A text that does not go on with another digit. -/
def NoDigit (rest : List Char) : Prop := ∀ c ∈ rest.head?, digit c = none

theorem takeDigits_of_noDigit {rest : List Char} (h : NoDigit rest) :
    takeDigits rest = ([], rest) := by
  cases rest with
  | nil => rfl
  | cons c cs =>
    have hc : digit c = none := h c rfl
    rw [takeDigits, hc]

theorem takeDigits_append (ds : List Digit) {rest : List Char} (h : NoDigit rest) :
    takeDigits (digitChars ds ++ rest) = (digitValues ds, rest) := by
  induction ds with
  | nil => exact takeDigits_of_noDigit h
  | cons d ds ih =>
    show takeDigits (d.char :: (digitChars ds ++ rest)) = _
    rw [takeDigits, digit_char, ih]
    rfl

theorem exists_digits (cs : List Char) : ∃ ds : List Digit,
    digitValues ds = (takeDigits cs).1 ∧ cs = digitChars ds ++ (takeDigits cs).2 := by
  induction cs with
  | nil => exact ⟨[], rfl, rfl⟩
  | cons c cs ih =>
    cases hc : digit c with
    | none =>
      refine ⟨[], ?_, ?_⟩
      · rw [takeDigits, hc]
        rfl
      · rw [takeDigits, hc]
        rfl
    | some d =>
      obtain ⟨ds, hvalues, hchars⟩ := ih
      obtain ⟨d', hd, hchar⟩ := exists_digit hc
      refine ⟨d' :: ds, ?_, ?_⟩
      · rw [takeDigits, hc, ← hvalues, ← hd]
        rfl
      · rw [takeDigits, hc]
        show c :: cs = d'.char :: (digitChars ds ++ (takeDigits cs).2)
        rw [← hchars, hchar]

theorem digitValues_eq_nil {ds : List Digit} : digitValues ds = [] ↔ ds = [] := List.map_eq_nil_iff

theorem exists_digits_of_ne {cs rest : List Char} {values : List Nat}
    (h : takeDigits cs = (values, rest)) (hne : values ≠ []) :
    ∃ ds : Digits, digitValues ds.1 = values ∧ cs = digitChars ds.1 ++ rest := by
  obtain ⟨ds, hvalues, hchars⟩ := exists_digits cs
  rw [h] at hvalues hchars
  have hds : ds ≠ [] := fun hnil => hne (hvalues.symm.trans (digitValues_eq_nil.mpr hnil))
  exact ⟨⟨ds, hds⟩, hvalues, hchars⟩

/-- What may stand behind a number. -/
def NoNumber (rest : List Char) : Prop :=
  ∀ c ∈ rest.head?, digit c = none ∧ c ≠ '.' ∧ c ≠ 'e' ∧ c ≠ 'E'

theorem Ends.noNumber {rest : List Char} (h : Ends rest) : NoNumber rest := by
  cases rest with
  | nil =>
    intro c hc
    cases hc
  | cons c cs =>
    intro c' hc'
    obtain rfl := Option.some.inj hc'
    obtain hspace | rfl | rfl | rfl := h.head
    · obtain rfl | rfl | rfl | rfl := cases_of_isSpace hspace
      all_goals decide
    all_goals decide

theorem NoNumber.noDigit {rest : List Char} (h : NoNumber rest) : NoDigit rest :=
  fun c hc => (h c hc).1

theorem takeFraction_of_ne {rest : List Char} (h : ∀ c ∈ rest.head?, c ≠ '.') :
    takeFraction rest = (none, rest) := by
  cases rest with
  | nil => rfl
  | cons c cs =>
    have hc : c ≠ '.' := h c rfl
    rw [takeFraction]
    intro cs' heq
    exact hc (List.cons.inj heq).1

theorem takeFraction_append (f : Digits) {rest : List Char} (h : NoDigit rest) :
    takeFraction ('.' :: (digitChars f.1 ++ rest)) = (some (digitValues f.1), rest) := by
  have hne : digitValues f.1 ≠ [] := fun hnil => f.2 (digitValues_eq_nil.mp hnil)
  rw [takeFraction, takeDigits_append f.1 h]
  cases hvalues : digitValues f.1 with
  | nil => exact absurd hvalues hne
  | cons d ds => rfl

theorem exists_fraction (cs : List Char) : ∃ f : Option Digits,
    f.map (fun f => digitValues f.1) = (takeFraction cs).1 ∧
      cs = f.elim [] (fun f => '.' :: digitChars f.1) ++ (takeFraction cs).2 := by
  rw [takeFraction.eq_def]
  split
  · next cs =>
    split
    · exact ⟨none, rfl, rfl⟩
    · next digits rest hne heq =>
      obtain ⟨ds, hvalues, hchars⟩ := exists_digits_of_ne heq hne
      exact ⟨some ds, congrArg some hvalues, congrArg ('.' :: ·) hchars⟩
  · exact ⟨none, rfl, rfl⟩

theorem takeSign_of_ne {rest : List Char} (h : ∀ c ∈ rest.head?, c ≠ '-' ∧ c ≠ '+') :
    takeSign rest = (false, rest) := by
  cases rest with
  | nil => rfl
  | cons c cs =>
    obtain ⟨hminus, hplus⟩ := h c rfl
    rw [takeSign.eq_def]
    split
    · next heq => exact absurd (List.cons.inj heq).1 hminus
    · next heq => exact absurd (List.cons.inj heq).1 hplus
    · rfl

theorem head?_digitChars {ds : List Digit} (hne : ds ≠ []) {rest : List Char} {c : Char}
    (h : c ∈ (digitChars ds ++ rest).head?) : ∃ d : Digit, c = d.char := by
  cases ds with
  | nil => exact absurd rfl hne
  | cons d ds => exact ⟨d, (Option.some.inj h).symm⟩

theorem Digit.char_ne (d : Digit) : d.char ∉ ['-', '+', '.', 'e', 'E', '"', '[', '{', 'n', 't', 'f',
    'N', 'I', ' ', '\t', '\n', '\r', ',', ']', '}', ':'] := by
  revert d
  decide

theorem takeExponent_of_ne {rest : List Char} (h : ∀ c ∈ rest.head?, c ≠ 'e' ∧ c ≠ 'E') :
    takeExponent rest = (none, rest) := by
  cases rest with
  | nil => rfl
  | cons c cs =>
    have hc := h c rfl
    rw [takeExponent, if_neg (not_or.mpr hc)]

/-- The sign of an exponent, with a digit behind it. -/
theorem takeSign_append (sign : Option { c : Char // c = '-' ∨ c = '+' }) (ds : Digits)
    (rest : List Char) :
    takeSign (sign.elim [] (fun s => [s.1]) ++ (digitChars ds.1 ++ rest)) =
      (sign.elim false fun s => s.1 = '-', digitChars ds.1 ++ rest) := by
  match sign with
  | none =>
    apply takeSign_of_ne
    intro c hc
    obtain ⟨d, rfl⟩ := head?_digitChars ds.2 hc
    have hne := d.char_ne
    simp only [List.mem_cons, not_or] at hne
    exact ⟨hne.1, hne.2.1⟩
  | some ⟨c, hc⟩ =>
    obtain rfl | rfl := hc
    · rfl
    · rfl

theorem takeExponent_append (e : ExponentToken) {rest : List Char} (h : NoDigit rest) :
    takeExponent (e.text ++ rest) = (some e.value, rest) := by
  have hne : digitValues e.digits.1 ≠ [] := fun hnil => e.digits.2 (digitValues_eq_nil.mp hnil)
  have htext : e.text ++ rest = e.letter.1 ::
      (e.sign.elim [] (fun s => [s.1]) ++ (digitChars e.digits.1 ++ rest)) := by
    simp [ExponentToken.text]
  rw [htext, takeExponent, if_pos e.letter.2, takeSign_append]
  rw [takeDigits_append e.digits.1 h, ExponentToken.value]
  cases hvalues : digitValues e.digits.1 with
  | nil => exact absurd hvalues hne
  | cons d ds => rfl

theorem exists_sign (cs : List Char) : ∃ sign : Option { c : Char // c = '-' ∨ c = '+' },
    (sign.elim false fun s => s.1 = '-') = (takeSign cs).1 ∧
      cs = sign.elim [] (fun s => [s.1]) ++ (takeSign cs).2 := by
  rw [takeSign.eq_def]
  split
  · exact ⟨some ⟨'-', .inl rfl⟩, rfl, rfl⟩
  · exact ⟨some ⟨'+', .inr rfl⟩, rfl, rfl⟩
  · exact ⟨none, rfl, rfl⟩

theorem exists_exponent (cs : List Char) : ∃ e : Option ExponentToken,
    e.map ExponentToken.value = (takeExponent cs).1 ∧
      cs = e.elim [] ExponentToken.text ++ (takeExponent cs).2 := by
  cases cs with
  | nil => exact ⟨none, rfl, rfl⟩
  | cons c cs =>
    rw [takeExponent]
    split_ifs with hletter
    · obtain ⟨sign, hsign, hcs⟩ := exists_sign cs
      split
      · exact ⟨none, rfl, rfl⟩
      · next digits rest hne heq =>
        obtain ⟨ds, hvalues, hchars⟩ := exists_digits_of_ne heq hne
        refine ⟨some ⟨⟨c, hletter⟩, sign, ds⟩, ?_, ?_⟩
        · exact congrArg some (Prod.ext hsign hvalues)
        · rw [hchars] at hcs
          simpa [ExponentToken.text] using hcs
    · exact ⟨none, rfl, rfl⟩

theorem parseNumber_eq {negative : Bool} {cs rest : List Char} {digits : List Nat}
    (h : takeDigits cs = (digits, rest)) (hne : digits ≠ [])
    (hzero : ∀ d ds, digits ≠ 0 :: d :: ds) :
    parseNumber .standard negative cs =
      .ok (⟨negative, digits, (takeFraction rest).1, (takeExponent (takeFraction rest).2).1⟩,
        (takeExponent (takeFraction rest).2).2) := by
  rw [parseNumber, h]
  split
  · next heq => exact absurd (Prod.mk.inj heq).1 hne
  · next heq => exact absurd (Prod.mk.inj heq).1 (hzero _ _)
  · next heq =>
    obtain ⟨rfl, rfl⟩ := Prod.mk.inj heq
    simp only [Dialect.standard, Option.any_none, Bool.false_eq_true, and_false, if_false]

theorem digitValues_noLeadingZero {ds : List Digit} :
    (∀ d more, ds ≠ 0 :: d :: more) ↔ ∀ d more, digitValues ds ≠ 0 :: d :: more := by
  match ds with
  | [] => simp [digitValues]
  | [d] => simp [digitValues]
  | d :: d' :: ds =>
    have hval : digitValues (d :: d' :: ds) = d.1 :: d'.1 :: digitValues ds := rfl
    rw [hval]
    constructor
    · intro h d'' more heq
      have hd : d = 0 := Fin.ext (List.cons.inj heq).1
      exact h d' ds (by rw [hd])
    · intro h d'' more heq
      have hd : d.1 = 0 := congrArg Fin.val (List.cons.inj heq).1
      exact h d'.1 (digitValues ds) (by rw [hd])

theorem NumberToken.isInteger_number (n : NumberToken) : n.number.isInteger = n.isInteger := by
  simp [NumberToken.isInteger, NumberToken.number, Number.isInteger]

/-- What stands behind the digits of a number that is no integer. -/
theorem NumberToken.back_cases (n : NumberToken) :
    n.isInteger = true ∧ n.back = [] ∨
      n.isInteger = false ∧ ∃ c cs, n.back = c :: cs ∧ (c = '.' ∨ c = 'e' ∨ c = 'E') := by
  cases hfraction : n.fraction with
  | some f =>
    refine .inr ⟨?_, '.', digitChars f.1 ++ n.exponent.elim [] ExponentToken.text, ?_, .inl rfl⟩
    · simp [NumberToken.isInteger, hfraction]
    · simp [NumberToken.back, NumberToken.fractionText, hfraction]
  | none =>
    cases hexponent : n.exponent with
    | some e =>
      refine .inr ⟨?_, e.letter.1, e.text.tail, ?_, .inr e.letter.2⟩
      · simp [NumberToken.isInteger, hexponent]
      · simp [NumberToken.back, NumberToken.fractionText, hfraction, hexponent,
          ExponentToken.text]
    | none =>
      refine .inl ⟨?_, ?_⟩
      · simp [NumberToken.isInteger, hfraction, hexponent]
      · simp [NumberToken.back, NumberToken.fractionText, hfraction, hexponent]

theorem NumberToken.noDigit_back (n : NumberToken) {rest : List Char} (h : NoNumber rest) :
    NoDigit (n.back ++ rest) := by
  obtain ⟨-, hback⟩ | ⟨-, c, cs, hback, hc⟩ := n.back_cases
  · rw [hback]
    exact h.noDigit
  · rw [hback]
    intro c' hc'
    obtain rfl := Option.some.inj hc'
    obtain rfl | rfl | rfl := hc
    all_goals decide

/-- The fraction and the exponent are read up to their end. -/
theorem parseNumber_append (n : NumberToken) {rest : List Char} (h : NoNumber rest) :
    parseNumber .standard n.negative (digitChars n.integer.1 ++ (n.back ++ rest)) =
      .ok (n.number, rest) := by
  have hexponent : takeExponent (n.exponent.elim [] ExponentToken.text ++ rest) =
      (n.exponent.map ExponentToken.value, rest) := by
    cases n.exponent with
    | none => exact takeExponent_of_ne fun c hc => (h c hc).2.2
    | some e => exact takeExponent_append e h.noDigit
  have hhead : ∀ c ∈ (n.exponent.elim [] ExponentToken.text ++ rest).head?,
      digit c = none ∧ c ≠ '.' := by
    intro c hc
    cases hexp : n.exponent with
    | none =>
      rw [hexp] at hc
      exact ⟨(h c hc).1, (h c hc).2.1⟩
    | some e =>
      rw [hexp] at hc
      obtain rfl := Option.some.inj hc
      obtain ⟨c, rfl | rfl⟩ := e.letter
      · decide
      · decide
  have hfraction :
      takeFraction (n.fractionText ++ (n.exponent.elim [] ExponentToken.text ++ rest)) =
        (n.fraction.map (fun f => digitValues f.1),
          n.exponent.elim [] ExponentToken.text ++ rest) := by
    rw [NumberToken.fractionText]
    cases n.fraction with
    | none => exact takeFraction_of_ne fun c hc => (hhead c hc).2
    | some f => exact takeFraction_append f fun c hc => (hhead c hc).1
  have hne : digitValues n.integer.1 ≠ [] := fun hnil => n.integer.2 (digitValues_eq_nil.mp hnil)
  have hzero := digitValues_noLeadingZero.mp n.noLeadingZero
  rw [parseNumber_eq (takeDigits_append _ (n.noDigit_back h)) hne hzero]
  rw [NumberToken.back, List.append_assoc, hfraction, hexponent]
  rfl

theorem exists_number {negative : Bool} {cs rest : List Char} {v : Number}
    (h : parseNumber .standard negative cs = .ok (v, rest)) :
    ∃ n : NumberToken, n.negative = negative ∧ n.number = v ∧
      cs = digitChars n.integer.1 ++ (n.back ++ rest) := by
  obtain ⟨⟨digits, more⟩, hdigits⟩ : ∃ taken, takeDigits cs = taken := ⟨_, rfl⟩
  have hne : digits ≠ [] := by
    intro hnil
    rw [parseNumber, hdigits, hnil] at h
    cases h
  have hzero : ∀ d ds, digits ≠ 0 :: d :: ds := by
    intro d ds heq
    rw [parseNumber, hdigits, heq] at h
    cases h
  obtain ⟨ds, hvalues, hchars⟩ := exists_digits_of_ne hdigits hne
  obtain ⟨fraction, hfraction, hfractionChars⟩ := exists_fraction more
  obtain ⟨exponent, hexponent, hexponentChars⟩ := exists_exponent (takeFraction more).2
  rw [parseNumber_eq hdigits hne hzero] at h
  obtain ⟨rfl, rfl⟩ := Prod.mk.inj (Except.ok.inj h)
  have hlead : ∀ d more, ds.1 ≠ 0 :: d :: more :=
    digitValues_noLeadingZero.mpr (hvalues ▸ hzero)
  refine ⟨⟨negative, ds, fraction, exponent, hlead⟩, rfl, ?_, ?_⟩
  · rw [NumberToken.number, hvalues, hfraction, hexponent]
  · rw [NumberToken.back, NumberToken.fractionText, List.append_assoc, ← hexponentChars,
      ← hfractionChars, ← hchars]

/-- A character that stands for itself, or an escape. -/
inductive StringItem where
  | plain (c : { c : Char // c ≠ '"' ∧ c ≠ '\\' ∧ 32 ≤ c.toNat })
  | escaped (c : { c : Char // (escape c).isSome = true })
  | unicode (cs : { cs : Char × Char × Char × Char //
      (hex4 cs.1 cs.2.1 cs.2.2.1 cs.2.2.2).isSome = true })

namespace StringItem

def text : StringItem → List Char
  | .plain c => [c.1]
  | .escaped c => ['\\', c.1]
  | .unicode ⟨(a, b, c, d), _⟩ => ['\\', 'u', a, b, c, d]

def unit : StringItem → Nat
  | .plain c => c.1.toNat
  | .escaped c => (escape c.1).get c.2
  | .unicode cs => (hex4 cs.1.1 cs.1.2.1 cs.1.2.2.1 cs.1.2.2.2).get cs.2

end StringItem

/-- The texts that need no escape. -/
def IsPlain (name : List Char) : Prop := ∀ c ∈ name, c ≠ '"' ∧ c ≠ '\\' ∧ 32 ≤ c.toNat

instance (name : List Char) : Decidable (IsPlain name) := List.decidableBAll _ name

structure StringToken where
  items : List StringItem

namespace StringToken

/-- What stands between the quotes. -/
def text (s : StringToken) : List Char := s.items.flatMap StringItem.text

/-- The code units. -/
def units (s : StringToken) : List Nat := s.items.map StringItem.unit

def value (s : StringToken) : Text := joinSurrogates s.units

/-- The string whose characters all stand for themselves. -/
def plain (name : List Char) (h : IsPlain name) : StringToken :=
  ⟨name.attach.map fun c => .plain ⟨c.1, h c.1 c.2⟩⟩

end StringToken

theorem StringToken.text_cons (item : StringItem) (items : List StringItem) :
    StringToken.text ⟨item :: items⟩ = item.text ++ StringToken.text ⟨items⟩ := rfl

theorem StringToken.units_cons (item : StringItem) (items : List StringItem) :
    StringToken.units ⟨item :: items⟩ = item.unit :: StringToken.units ⟨items⟩ := rfl

/-- Units below the surrogates are code points as they stand. -/
theorem joinSurrogates_of_lt {units : List Nat} (h : ∀ u ∈ units, u < 0xd800) :
    joinSurrogates units = units := by
  induction units using joinSurrogates.induct with
  | case1 high low rest hsurrogates ih =>
    have hhigh := h high List.mem_cons_self
    simp [isHighSurrogate, isLowSurrogate] at hsurrogates
    omega
  | case2 high low rest hsurrogates ih =>
    rw [joinSurrogates, if_neg hsurrogates]
    rw [ih fun u hu => h u (List.mem_cons_of_mem _ hu)]
  | case3 short hshort => rw [joinSurrogates.eq_2 short hshort]

/-- What is no surrogate is still there. -/
theorem mem_joinSurrogates {units : List Nat} {u : Nat} (hu : u ∈ units) (h : u < 0xd800) :
    u ∈ joinSurrogates units := by
  induction units using joinSurrogates.induct with
  | case1 high low rest hsurrogates ih =>
    rw [joinSurrogates, if_pos hsurrogates]
    simp [isHighSurrogate, isLowSurrogate] at hsurrogates
    have hhigh : u ≠ high := by omega
    have hlow : u ≠ low := by omega
    simp only [List.mem_cons, hhigh, hlow, false_or] at hu
    exact List.mem_cons_of_mem _ (ih hu)
  | case2 high low rest hsurrogates ih =>
    rw [joinSurrogates, if_neg hsurrogates]
    obtain rfl | hu := List.mem_cons.mp hu
    · exact List.mem_cons_self
    · exact List.mem_cons_of_mem _ (ih hu)
  | case3 short hshort =>
    rw [joinSurrogates.eq_2 short hshort]
    exact hu

theorem StringToken.text_plain {name : List Char} (h : IsPlain name) :
    (plain name h).text = name := by
  rw [StringToken.text, plain, List.flatMap_map]
  show name.attach.flatMap (fun c => [c.1]) = name
  rw [← List.map_eq_flatMap, List.attach_map_subtype_val]

theorem StringToken.units_plain {name : List Char} (h : IsPlain name) :
    (plain name h).units = name.map Char.toNat := by
  rw [StringToken.units, plain, List.map_map]
  show name.attach.map (fun c => c.1.toNat) = _
  exact List.attach_map_val

theorem stringUnits_item (item : StringItem) (rest : List Char) :
    stringUnits (item.text ++ rest) = withUnit (some item.unit) (stringUnits rest) := by
  match item with
  | .plain ⟨c, hquote, hslash, hlow⟩ =>
    have hlow' : ¬ c.toNat < 32 := Nat.not_lt.mpr hlow
    show stringUnits (c :: rest) = _
    rw [stringUnits.eq_5 c rest (by simp [hquote]) (by simp [hslash]) (by simp [hslash])]
    rw [if_neg hlow']
    rfl
  | .escaped ⟨e, he⟩ =>
    have hu : e ≠ 'u' := by
      intro heq
      rw [heq] at he
      revert he
      decide
    show stringUnits ('\\' :: e :: rest) = _
    rw [stringUnits.eq_4 e rest (by simp [hu])]
    show withUnit (escape e) _ = withUnit (some ((escape e).get he)) _
    rw [Option.some_get]
  | .unicode ⟨(a, b, c, d), h⟩ =>
    show stringUnits ('\\' :: 'u' :: a :: b :: c :: d :: rest) = _
    rw [stringUnits]
    show withUnit (hex4 a b c d) _ = withUnit (some ((hex4 a b c d).get h)) _
    rw [Option.some_get]

theorem stringUnits_append (s : StringToken) (rest : List Char) :
    stringUnits (s.text ++ '"' :: rest) = some (s.units, rest) := by
  obtain ⟨items⟩ := s
  induction items with
  | nil => rfl
  | cons item items ih =>
    rw [StringToken.text_cons, List.append_assoc, stringUnits_item, ih]
    rfl

theorem parseString_append (s : StringToken) (rest : List Char) :
    parseString (s.text ++ '"' :: rest) = .ok (s.value, rest) := by
  rw [parseString, stringUnits_append]
  rfl

/-- One more item in front of a string that is read. -/
theorem exists_string_cons (item : StringItem) {cs rest : List Char} {tail : List Nat}
    (h : ∃ s : StringToken, s.units = tail ∧ cs = s.text ++ '"' :: rest) :
    ∃ s : StringToken, s.units = item.unit :: tail ∧ item.text ++ cs = s.text ++ '"' :: rest := by
  obtain ⟨s, hunits, htext⟩ := h
  refine ⟨⟨item :: s.items⟩, ?_, ?_⟩
  · rw [← hunits]
    rfl
  · rw [htext, ← List.append_assoc]
    rfl

theorem exists_string (cs : List Char) : ∀ units rest, stringUnits cs = some (units, rest) →
    ∃ s : StringToken, s.units = units ∧ cs = s.text ++ '"' :: rest := by
  induction cs using stringUnits.induct with
  | case1 =>
    intro units rest h
    cases h
  | case2 tail =>
    intro units rest h
    rw [stringUnits] at h
    obtain ⟨rfl, rfl⟩ := Prod.mk.inj (Option.some.inj h)
    exact ⟨⟨[]⟩, rfl, rfl⟩
  | case3 a b c d tail ih =>
    intro units rest h
    rw [stringUnits] at h
    obtain ⟨u, more, hu, hmore, rfl⟩ := withUnit_eq_some h
    have hsome : (hex4 a b c d).isSome = true := by rw [hu]; rfl
    have hunit : StringItem.unit (.unicode ⟨(a, b, c, d), hsome⟩) = u := by
      simp [StringItem.unit, hu]
    have hcons := exists_string_cons (.unicode ⟨(a, b, c, d), hsome⟩) (ih _ _ hmore)
    rw [hunit] at hcons
    exact hcons
  | case4 e tail hne ih =>
    intro units rest h
    rw [stringUnits.eq_4 e tail hne] at h
    obtain ⟨u, more, hu, hmore, rfl⟩ := withUnit_eq_some h
    have hsome : (escape e).isSome = true := by rw [hu]; rfl
    have hunit : StringItem.unit (.escaped ⟨e, hsome⟩) = u := by
      simp [StringItem.unit, hu]
    have hcons := exists_string_cons (.escaped ⟨e, hsome⟩) (ih _ _ hmore)
    rw [hunit] at hcons
    exact hcons
  | case5 c tail hquote hu he ih =>
    intro units rest h
    rw [stringUnits.eq_5 c tail hquote hu he] at h
    obtain ⟨u, more, hunit, hmore, rfl⟩ := withUnit_eq_some h
    have hlow : 32 ≤ c.toNat ∧ c.toNat = u := by
      split_ifs at hunit with hlow
      exact ⟨Nat.not_lt.mp hlow, Option.some.inj hunit⟩
    have hslash : c ≠ '\\' := by
      intro heq
      cases tail with
      | nil => cases hmore
      | cons e tail => exact he e tail heq rfl
    have hcons := exists_string_cons (.plain ⟨c, hquote, hslash, hlow.1⟩) (ih _ _ hmore)
    rw [← hlow.2]
    exact hcons

end TradingSdk.Json
