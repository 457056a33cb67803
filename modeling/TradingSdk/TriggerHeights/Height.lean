import TradingSdk.TriggerHeights.Rewrite
import TradingSdk.TriggerHeights.TypeScript

namespace TradingSdk.TriggerHeights

open Js Json

/-- A height as it is written: what stands between the quotes of its name, and an integer literal. -/
structure Height where
  name : StringToken
  literal : NumberToken
  integer : literal.isInteger = true

/-- The value of the literal. -/
def Height.value (h : Height) : Int := h.literal.number.toInt

/-- Behind a name without escapes a literal has no sign. A name with escapes is not found, and the
literal behind it goes through a double. -/
structure Height.IsReadable (h : Height) (name : List Char) : Prop where
  unsigned : h.name.text = name → h.literal.negative = false
  safe : h.name.text ≠ name → h.value < 2^53

theorem readUint_number {n : Number} (h : n.isInteger = true) :
    readUint (some (.number n)) =
      if 0 ≤ n.toInt ∧ n.toInt < 2^53 then some n.toInt.toNat else none := by
  have hrat := Number.toRat_of_isInteger h
  by_cases hrange : 0 ≤ n.toInt ∧ n.toInt < 2^53
  · have hdouble := Number.toDouble_of_isInteger h hrange.1 hrange.2
    have hlow : (0 : ℚ) ≤ n.toInt := by exact_mod_cast hrange.1
    have hhigh : (n.toInt : ℚ) < 2^53 := by exact_mod_cast hrange.2
    rw [if_pos hrange, readUint, hdouble]
    simp [hlow, hhigh]
  · rw [if_neg hrange, readUint, Number.toDouble, hrat]
    cases hdouble : Double.ofRat n.toInt with
    | infinite negative => rfl
    | finite r =>
      apply if_neg
      intro hr
      by_cases hneg : n.toInt < 0
      · have hnonpos := Double.ofRat_nonpos (by exact_mod_cast hneg) hdouble
        have hzero : r = 0 := le_antisymm hnonpos hr.2.1
        rw [hzero] at hdouble
        refine Double.ofRat_ne_zero ?_ hdouble
        exact_mod_cast Int.one_le_abs hneg.ne
      · have hbig : 2^53 ≤ n.toInt := by omega
        have hround := Double.le_ofRat (by exact_mod_cast hbig) hdouble
        exact absurd hr.2.2 (not_lt.mpr hround)

theorem toNat_char (d : Digit) : d.char.toNat = 48 + d.1 := by
  revert d
  decide

theorem readUint_front (n : NumberToken) :
    readUint (some (.string (n.front.map Char.toNat))) =
      if n.negative = false ∧ ofDecimal (digitValues n.integer.1) ≤ u64Max
      then some (ofDecimal (digitValues n.integer.1)) else none := by
  have hvalues : ((digitChars n.integer.1).map Char.toNat).map (fun c => c - 48) =
      digitValues n.integer.1 := by
    rw [digitChars, digitValues, List.map_map, List.map_map]
    apply List.map_congr_left
    intro d _
    show d.char.toNat - 48 = d.1
    rw [toNat_char]
    omega
  have hdigits : ((digitChars n.integer.1).map Char.toNat).all
      (fun c => 48 ≤ c && c ≤ 57) = true := by
    rw [digitChars, List.map_map, List.all_map, List.all_eq_true]
    intro d _
    have hchar := toNat_char d
    have hlt := d.2
    simp only [Function.comp_apply, Bool.and_eq_true, decide_eq_true_eq]
    omega
  have hne : (digitChars n.integer.1).map Char.toNat ≠ [] := by
    intro hnil
    exact n.integer.2 (List.map_eq_nil_iff.mp (List.map_eq_nil_iff.mp hnil))
  cases hnegative : n.negative with
  | true =>
    have hfront : n.front = '-' :: digitChars n.integer.1 := by
      simp [NumberToken.front, hnegative]
    rw [hfront, readUint]
    simp
  | false =>
    have hfront : n.front = digitChars n.integer.1 := by
      simp [NumberToken.front, hnegative]
    rw [hfront, readUint]
    simp only [hvalues, hdigits, hne, ne_eq, not_false_eq_true, true_and]

/-- A string without escapes stands for its own characters. -/
theorem units_of_plain {s : StringToken} (h : IsPlain s.text) : s.units = s.text.map Char.toNat := by
  obtain ⟨items⟩ := s
  induction items with
  | nil => rfl
  | cons item items ih =>
    rw [StringToken.text_cons] at h
    rw [StringToken.text_cons, StringToken.units_cons]
    have hitems := ih fun c hc => h c (List.mem_append_right _ hc)
    match item with
    | .plain c => exact congrArg (c.1.toNat :: ·) hitems
    | .escaped c => exact absurd rfl (h '\\' List.mem_cons_self).2.1
    | .unicode ⟨(a, b, c, d), hhex⟩ => exact absurd rfl (h '\\' List.mem_cons_self).2.1

theorem quote_mem_units {items : List StringItem} (h : itemsGuarded items = true) :
    34 ∈ StringToken.units ⟨items⟩ := by
  induction items with
  | nil => cases h
  | cons item items ih =>
    rw [StringToken.units_cons, List.mem_cons]
    match item with
    | .plain c => exact .inr (ih h)
    | .unicode cs => exact .inr (ih h)
    | .escaped ⟨e, he⟩ =>
      rw [itemsGuarded, Bool.or_eq_true, Bool.and_eq_true, decide_eq_true_eq] at h
      obtain ⟨rfl, -⟩ | h := h
      · exact .inl rfl
      · exact .inr (ih h)

theorem char_map_injective : Function.Injective (List.map Char.toNat) :=
  List.map_injective_iff.mpr fun c c' h => by
    rw [← Char.ofNat_toNat c, h, Char.ofNat_toNat]

/-- Of the keys for a height, the pattern finds those without escapes. -/
theorem guarded_iff {s : StringToken} {name : String} (hvalue : s.value = text name)
    (hname : name.toList = finalizedHeight ∨ name.toList = admissionHeight) :
    guarded s = true ↔ s.text = name.toList := by
  have hplain : IsPlain name.toList := by
    obtain heq | heq := hname
    · exact heq ▸ finalizedHeight_plain
    · exact heq ▸ admissionHeight_plain
  constructor
  · intro hguarded
    rw [guarded, Bool.or_eq_true] at hguarded
    obtain hs | hitems := hguarded
    · have hlow : ∀ u ∈ s.text.map Char.toNat, u < 0xd800 := by
        obtain heq | heq := text_of_isName hs
        · rw [heq]
          decide
        · rw [heq]
          decide
      rw [StringToken.value, units_of_plain (plain_of_isName hs), joinSurrogates_of_lt hlow]
        at hvalue
      exact char_map_injective hvalue
    · have hquote : 34 ∈ s.value := mem_joinSurrogates (quote_mem_units hitems) (by norm_num)
      rw [hvalue, text] at hquote
      obtain ⟨c, hc, hcode⟩ := List.mem_map.mp hquote
      have hchar : c = '"' := by
        rw [← Char.ofNat_toNat c, hcode]
      exact absurd hchar (hplain c hc).1
  · intro htext
    have hs : isName s = true := by
      rw [isName, htext]
      simpa using hname
    rw [guarded, hs]
    rfl

theorem readUint_height (h : Height) {name : String} (hvalue : h.name.value = text name)
    (hname : name.toList = finalizedHeight ∨ name.toList = admissionHeight) (height : Nat) :
    readUint (some (protectTree (guarded h.name) (.leaf (.number h.literal))).value) = some height ↔
      h.value = height ∧ height ≤ u64Max ∧ h.IsReadable name.toList := by
  have hguarded := guarded_iff hvalue hname
  cases hkey : guarded h.name with
  | true =>
    have htext := hguarded.mp hkey
    show readUint (some (.string (h.literal.front.map Char.toNat))) = some height ↔ _
    rw [readUint_front]
    cases hnegative : h.literal.negative with
    | true =>
      constructor
      · intro heq
        simp at heq
      · intro hread
        have hunsigned := hread.2.2.unsigned htext
        rw [hnegative] at hunsigned
        cases hunsigned
    | false =>
      have hint : h.value = ofDecimal (digitValues h.literal.integer.1) := by
        simp [Height.value, Number.toInt, NumberToken.number, hnegative]
      rw [hint]
      constructor
      · intro heq
        split_ifs at heq with hrange
        obtain rfl := Option.some.inj heq
        exact ⟨rfl, hrange.2, fun _ => hnegative, fun hne => absurd htext hne⟩
      · intro hread
        obtain ⟨heq, hmax, -⟩ := hread
        obtain rfl : ofDecimal (digitValues h.literal.integer.1) = height := by exact_mod_cast heq
        rw [if_pos ⟨rfl, hmax⟩]
  | false =>
    have htext : h.name.text ≠ name.toList := by
      intro heq
      rw [hguarded.mpr heq] at hkey
      cases hkey
    show readUint (some (.number h.literal.number)) = some height ↔ _
    rw [readUint_number (h.literal.isInteger_number.trans h.integer)]
    show (if 0 ≤ h.value ∧ h.value < 2^53 then some h.value.toNat else none) = some height ↔ _
    constructor
    · intro heq
      split_ifs at heq with hrange
      obtain rfl := Option.some.inj heq
      have hmax : h.value.toNat ≤ u64Max := by
        rw [u64Max, TriggerState.TypeScript.u64Max]
        omega
      exact ⟨(Int.toNat_of_nonneg hrange.1).symm, hmax, fun heq => absurd heq htext,
        fun _ => hrange.2⟩
    · intro hread
      obtain ⟨heq, -, hreadable⟩ := hread
      have hsafe := hreadable.safe htext
      rw [if_pos ⟨by omega, hsafe⟩, heq]
      rfl

end TradingSdk.TriggerHeights
