import TradingSdk.TriggerHeights.Protect

namespace TradingSdk.TriggerHeights

open Json

/-- A scalar as it was, or a number with quotes around what stands before its point. -/
inductive Protected where
  | kept (s : Scalar)
  | quoted (n : NumberToken)

namespace Protected

def text : Protected → List Char
  | .kept s => s.text
  | .quoted n => '"' :: (n.front ++ '"' :: n.back)

def value : Protected → Value
  | .kept s => s.value
  | .quoted n => .string (n.front.map Char.toNat)

def excess : Protected → List Char
  | .kept _ => []
  | .quoted n => n.back

end Protected

theorem front_chars (n : NumberToken) : ∀ c ∈ n.front, c = '-' ∨ ∃ d : Digit, c = d.char := by
  intro c hc
  rw [NumberToken.front, List.mem_append] at hc
  obtain hc | hc := hc
  · split_ifs at hc
    · exact .inl (List.mem_singleton.mp hc)
    · cases hc
  · obtain ⟨d, -, rfl⟩ := List.mem_map.mp hc
    exact .inr ⟨d, rfl⟩

theorem front_plain (n : NumberToken) : IsPlain n.front := by
  intro c hc
  have hall : ∀ d : Digit, d.char ≠ '"' ∧ d.char ≠ '\\' ∧ 32 ≤ d.char.toNat := by decide
  obtain rfl | ⟨d, rfl⟩ := front_chars n c hc
  · decide
  · exact hall d

theorem parseValue_quoted (n : NumberToken) (fuel : Nat) (rest : List Char) :
    parseValue .standard (fuel + 1) ('"' :: (n.front ++ '"' :: rest)) =
      .ok (.string (n.front.map Char.toNat), rest) := by
  have hread := parseValue_string (.plain n.front (front_plain n)) fuel rest
  have hlow : ∀ u ∈ n.front.map Char.toNat, u < 0xd800 := by
    intro u hu
    obtain ⟨c, hc, rfl⟩ := List.mem_map.mp hu
    have hall : ∀ d : Digit, d.char.toNat < 0xd800 := by decide
    obtain rfl | ⟨d, rfl⟩ := front_chars n c hc
    · decide
    · exact hall d
  rw [StringToken.text_plain, StringToken.value, StringToken.units_plain,
    joinSurrogates_of_lt hlow] at hread
  exact hread

instance : Leaf Protected where
  text := Protected.text
  value := Protected.value
  excess := Protected.excess
  starts a := by
    match a with
    | .kept s => exact Leaf.starts s
    | .quoted n => exact ⟨'"', _, rfl, by decide, by decide⟩
  reads a fuel rest h := by
    match a with
    | .kept s => exact parseValue_scalar s fuel h
    | .quoted n =>
      simp only [Protected.text, List.cons_append, List.append_assoc]
      exact parseValue_quoted n fuel (n.back ++ rest)
  spills a c cs h := by
    match a with
    | .kept s => cases h
    | .quoted n =>
      obtain ⟨-, hback⟩ | ⟨-, c', cs', hback, hc⟩ := n.back_cases
      · rw [Protected.excess, hback] at h
        cases h
      · rw [Protected.excess, hback] at h
        obtain ⟨rfl, -⟩ := List.cons.inj h
        obtain rfl | rfl | rfl := hc
        all_goals decide

mutual
/-- The tree behind a key that the pattern finds, or behind none. -/
def protectTree (key : Bool) : SyntaxTree Scalar → SyntaxTree Protected
  | .leaf (.number n) => .leaf (if key then .quoted n else .kept (.number n))
  | .leaf .null => .leaf (.kept .null)
  | .leaf (.bool b) => .leaf (.kept (.bool b))
  | .leaf (.string s) => .leaf (.kept (.string s))
  | .emptyArray space => .emptyArray space
  | .array items => .array (protectItems items)
  | .emptyObject space => .emptyObject space
  | .object entries => .object (protectEntries entries)
def protectItems : Items Scalar → Items Protected
  | .last before item after => .last before (protectTree false item) after
  | .cons before item after more =>
    .cons before (protectTree false item) after (protectItems more)
def protectEntries : Entries Scalar → Entries Protected
  | .last key value after => .last key (protectTree (guarded key.name) value) after
  | .cons key value after more =>
    .cons key (protectTree (guarded key.name) value) after (protectEntries more)
end

mutual
/-- Whether a number behind a key that the pattern finds goes on behind its digits. -/
def splitsTree (key : Bool) : SyntaxTree Scalar → Bool
  | .leaf (.number n) => key && !n.isInteger
  | .leaf .null => false
  | .leaf (.bool _) => false
  | .leaf (.string _) => false
  | .emptyArray _ => false
  | .array items => splitsItems items
  | .emptyObject _ => false
  | .object entries => splitsEntries entries
def splitsItems : Items Scalar → Bool
  | .last _ item _ => splitsTree false item
  | .cons _ item _ more => splitsTree false item || splitsItems more
def splitsEntries : Entries Scalar → Bool
  | .last key value _ => splitsTree (guarded key.name) value
  | .cons key value _ more => splitsTree (guarded key.name) value || splitsEntries more
end

theorem isDigit_char (d : Digit) : isDigit d.char = true := by
  revert d
  decide

theorem digitsAt_append (ds : Digits) {rest : List Char} (h : NoDigit rest) :
    digitsAt (digitChars ds.1 ++ rest) = some (digitChars ds.1) := by
  have hdigits : ∀ c ∈ digitChars ds.1, isDigit c = true := by
    intro c hc
    obtain ⟨d, -, rfl⟩ := List.mem_map.mp hc
    exact isDigit_char d
  have hrest : rest.takeWhile isDigit = [] := by
    cases rest with
    | nil => rfl
    | cons c cs =>
      have hc : digit c = none := h c rfl
      exact List.takeWhile_cons_of_neg (by simp [isDigit, hc])
  have hne : digitChars ds.1 ≠ [] := fun hnil => ds.2 (List.map_eq_nil_iff.mp hnil)
  rw [digitsAt, List.takeWhile_append_of_pos hdigits, hrest, List.append_nil, if_neg hne]

theorem literalAt_digits {cs : List Char} (h : ∀ c ∈ cs.head?, c ≠ '-') :
    literalAt cs = digitsAt cs := by
  rw [literalAt.eq_def]
  split
  · exact absurd rfl (h '-' rfl)
  · rfl

theorem literalAt_number (n : NumberToken) {rest : List Char} (h : NoNumber rest) :
    literalAt (n.text ++ rest) = some n.front := by
  have hdigits := digitsAt_append n.integer (n.noDigit_back h)
  cases hnegative : n.negative with
  | true =>
    have htext : n.text ++ rest = '-' :: (digitChars n.integer.1 ++ (n.back ++ rest)) := by
      simp [NumberToken.text, NumberToken.front, hnegative]
    rw [htext, literalAt, hdigits, NumberToken.front, hnegative]
    rfl
  | false =>
    have htext : n.text ++ rest = digitChars n.integer.1 ++ (n.back ++ rest) := by
      simp [NumberToken.text, NumberToken.front, hnegative]
    have hhead : ∀ c ∈ (digitChars n.integer.1 ++ (n.back ++ rest)).head?, c ≠ '-' := by
      intro c hc
      obtain ⟨d, rfl⟩ := head?_digitChars n.integer.2 hc
      have hne := d.char_ne
      simp only [List.mem_cons, not_or] at hne
      exact hne.1
    rw [htext, literalAt_digits hhead, hdigits, NumberToken.front, hnegative]
    rfl

theorem protectLiteral_of_head {c : Char} {cs : List Char} (hminus : c ≠ '-')
    (hdigit : isDigit c = false) : protectLiteral (c :: cs) = protect (c :: cs) := by
  have hnone : digitsAt (c :: cs) = none := by
    rw [digitsAt, List.takeWhile_cons_of_neg (by simp [hdigit])]
    rfl
  have hliteral : literalAt (c :: cs) = none := by
    rw [literalAt_digits, hnone]
    intro c' hc'
    exact (Option.some.inj hc') ▸ hminus
  rw [protectLiteral, hliteral]

/-- The first character of a tree that is no number. -/
theorem head_of_not_number {t : SyntaxTree Scalar} (h : ∀ n, t ≠ .leaf (.number n)) :
    ∃ c cs, t.text = c :: cs ∧ isJsSpace c = false ∧ c ≠ '-' ∧ isDigit c = false := by
  match t with
  | .leaf .null => exact ⟨'n', _, rfl, by decide, by decide, by decide⟩
  | .leaf (.bool true) => exact ⟨'t', _, rfl, by decide, by decide, by decide⟩
  | .leaf (.bool false) => exact ⟨'f', _, rfl, by decide, by decide, by decide⟩
  | .leaf (.number n) => exact absurd rfl (h n)
  | .leaf (.string s) => exact ⟨'"', _, rfl, by decide, by decide, by decide⟩
  | .emptyArray space => exact ⟨'[', _, rfl, by decide, by decide, by decide⟩
  | .array items => exact ⟨'[', _, rfl, by decide, by decide, by decide⟩
  | .emptyObject space => exact ⟨'{', _, rfl, by decide, by decide, by decide⟩
  | .object entries => exact ⟨'{', _, rfl, by decide, by decide, by decide⟩

theorem head_number (n : NumberToken) : ∃ c cs, n.text = c :: cs ∧ isJsSpace c = false := by
  obtain ⟨c, cs, htext, ⟨-, rfl, -⟩ | ⟨-, ⟨d, rfl⟩, -⟩⟩ := n.head
  · exact ⟨'-', cs, htext, by decide⟩
  · have hall : ∀ d : Digit, isJsSpace d.char = false := by decide
    exact ⟨d.char, cs, htext, hall d⟩

theorem head_tree (t : SyntaxTree Scalar) : ∃ c cs, t.text = c :: cs ∧ isJsSpace c = false := by
  by_cases hnumber : ∃ n, t = .leaf (.number n)
  · obtain ⟨n, rfl⟩ := hnumber
    exact head_number n
  · obtain ⟨c, cs, htext, hjs, -⟩ := head_of_not_number (not_exists.mp hnumber)
    exact ⟨c, cs, htext, hjs⟩

/-- What becomes of the text of a value behind a key. -/
def protectAt (key : Bool) (cs : List Char) : List Char :=
  if key then protectLiteral cs else protect cs

theorem protectAt_of_not_number {t : SyntaxTree Scalar} (h : ∀ n, t ≠ .leaf (.number n))
    (key : Bool) (rest : List Char) : protectAt key (t.text ++ rest) = protect (t.text ++ rest) := by
  obtain ⟨c, cs, htext, -, hminus, hdigit⟩ := head_of_not_number h
  cases key with
  | true =>
    rw [htext]
    exact protectLiteral_of_head hminus hdigit
  | false => rfl

theorem quote_notMem_digits (ds : List Digit) : '"' ∉ digitChars ds := by
  intro hquote
  obtain ⟨d, -, hd⟩ := List.mem_map.mp hquote
  have hne := d.char_ne
  rw [hd] at hne
  exact absurd hne (by decide)

theorem quote_notMem_exponent (e : ExponentToken) : '"' ∉ e.text := by
  obtain ⟨⟨letter, hletter⟩, sign, ds⟩ := e
  have hdigits := quote_notMem_digits ds.1
  have hne : '"' ≠ letter := by
    obtain rfl | rfl := hletter
    all_goals decide
  match sign with
  | none => simp [ExponentToken.text, hne, hdigits]
  | some ⟨c, hc⟩ =>
    have hsign : '"' ≠ c := by
      obtain rfl | rfl := hc
      all_goals decide
    simp [ExponentToken.text, hne, hsign, hdigits]

theorem quote_notMem_back (n : NumberToken) : '"' ∉ n.back := by
  have hfraction : '"' ∉ n.fractionText := by
    rw [NumberToken.fractionText]
    cases n.fraction with
    | none => exact List.not_mem_nil
    | some f => simp [quote_notMem_digits f.1]
  have hexponent : '"' ∉ n.exponent.elim [] ExponentToken.text := by
    cases n.exponent with
    | none => exact List.not_mem_nil
    | some e => exact quote_notMem_exponent e
  rw [NumberToken.back, List.mem_append]
  exact not_or.mpr ⟨hfraction, hexponent⟩

theorem quote_notMem_front (n : NumberToken) : '"' ∉ n.front :=
  fun hquote => (front_plain n _ hquote).1 rfl

theorem protectAt_number (n : NumberToken) (key : Bool) {rest : List Char} (h : Ends rest) :
    protectAt key (n.text ++ rest) =
      (protectTree key (.leaf (.number n))).text ++ protect rest := by
  have hback := protect_append (quote_notMem_back n) rest
  cases key with
  | true =>
    have hdrop : (n.text ++ rest).drop n.front.length = n.back ++ rest := by
      rw [NumberToken.text, List.append_assoc, List.drop_left]
    show protectLiteral (n.text ++ rest) = '"' :: (n.front ++ '"' :: n.back) ++ protect rest
    rw [protectLiteral, literalAt_number n h.noNumber]
    simp only [hdrop, hback]
    simp
  | false =>
    show protect (n.text ++ rest) = n.text ++ protect rest
    rw [NumberToken.text, List.append_assoc, protect_append (quote_notMem_front n), hback,
      List.append_assoc]

theorem ne_of_isSpace {c : Char} (h : isSpace c = true) : c ≠ '"' ∧ c ≠ 'f' ∧ c ≠ 'a' := by
  obtain rfl | rfl | rfl | rfl := cases_of_isSpace h
  all_goals decide

theorem quote_notMem_space (space : Space) : '"' ∉ space.1 :=
  fun hquote => (ne_of_isSpace (space.2 _ hquote)).1 rfl

/-- Brackets with nothing but white space between them stay as they are. -/
theorem protect_brackets {opening closing : Char} (hopening : opening ≠ '"')
    (hclosing : closing ≠ '"') (space : Space) (rest : List Char) :
    protect (opening :: (space.1 ++ [closing]) ++ rest) =
      opening :: (space.1 ++ [closing]) ++ protect rest := by
  simp only [List.cons_append, List.append_assoc, List.nil_append]
  rw [protect_cons hopening, protect_append (quote_notMem_space space), protect_cons hclosing]

theorem nameAt_colon (space : Space) (cs : List Char) : nameAt (space.1 ++ ':' :: cs) = none := by
  apply nameAt_of_head
  intro c hc
  obtain ⟨chars, hchars⟩ := space
  cases chars with
  | nil =>
    obtain rfl := Option.some.inj hc
    decide
  | cons first chars =>
    obtain rfl := Option.some.inj hc
    exact (ne_of_isSpace (hchars _ List.mem_cons_self)).2

theorem nameAt_ends {rest : List Char} (h : Ends rest) : nameAt rest = none := by
  apply nameAt_of_head
  intro c hc
  cases rest with
  | nil => cases hc
  | cons first cs =>
    obtain rfl := Option.some.inj hc
    obtain hspace | rfl | rfl | rfl := h.head
    · exact (ne_of_isSpace hspace).2
    all_goals decide

/-- A key stays as it is, and decides what becomes of a number behind it. -/
theorem protect_key (key : KeyToken) (t : SyntaxTree Scalar) (rest : List Char) :
    protect (key.text ++ (t.text ++ rest)) =
      key.text ++ protectAt (guarded key.name) (t.text ++ rest) := by
  obtain ⟨c, cs, htext, hjs⟩ := head_tree t
  have hseparator := separatorAt_key key.beforeColon key.afterColon hjs (cs ++ rest)
  have hname := nameAt_colon key.beforeColon (key.afterColon.1 ++ c :: (cs ++ rest))
  have hquotes : '"' ∉ key.beforeColon.1 ++ ':' :: key.afterColon.1 := by
    simp [quote_notMem_space key.beforeColon, quote_notMem_space key.afterColon]
  simp only [KeyToken.text, List.append_assoc, List.cons_append, htext]
  rw [protect_append (quote_notMem_space key.before), protect_string key.name hname]
  cases hguarded : guarded key.name with
  | true =>
    rw [if_pos rfl, protectBehind, hseparator]
    simp [protectAt]
  | false =>
    have hplain := protect_append hquotes (c :: (cs ++ rest))
    simp only [List.append_assoc, List.cons_append] at hplain
    rw [if_neg Bool.false_ne_true, hplain]
    rfl

mutual
/-- The replacement keeps the tree and all white space. -/
theorem protectAt_tree : (t : SyntaxTree Scalar) → (key : Bool) → (rest : List Char) → Ends rest →
    protectAt key (t.text ++ rest) = (protectTree key t).text ++ protect rest
  | .leaf (.number n), key, rest, h => protectAt_number n key h
  | .leaf .null, key, rest, _ => by
    have hquotes : '"' ∉ "null".toList := by decide
    rw [protectAt_of_not_number (by simp)]
    exact protect_append hquotes rest
  | .leaf (.bool true), key, rest, _ => by
    have hquotes : '"' ∉ "true".toList := by decide
    rw [protectAt_of_not_number (by simp)]
    exact protect_append hquotes rest
  | .leaf (.bool false), key, rest, _ => by
    have hquotes : '"' ∉ "false".toList := by decide
    rw [protectAt_of_not_number (by simp)]
    exact protect_append hquotes rest
  | .leaf (.string s), key, rest, h => by
    rw [protectAt_of_not_number (by simp)]
    have hbehind : protectBehind rest = protect rest := by
      rw [protectBehind, separatorAt_ends h]
    have hstring := protect_string s (nameAt_ends h)
    rw [hbehind, ite_self] at hstring
    show protect ('"' :: (s.text ++ ['"']) ++ rest) = '"' :: (s.text ++ ['"']) ++ protect rest
    simp only [List.cons_append, List.append_assoc, List.nil_append]
    exact hstring
  | .emptyArray space, key, rest, _ => by
    rw [protectAt_of_not_number (by simp)]
    exact protect_brackets (by decide) (by decide) space rest
  | .array items, key, rest, _ => by
    rw [protectAt_of_not_number (by simp)]
    show protect ('[' :: (items.text ++ rest)) = _
    rw [protect_cons (by decide), protect_itemsText items rest]
    rfl
  | .emptyObject space, key, rest, _ => by
    rw [protectAt_of_not_number (by simp)]
    exact protect_brackets (by decide) (by decide) space rest
  | .object entries, key, rest, _ => by
    rw [protectAt_of_not_number (by simp)]
    show protect ('{' :: (entries.text ++ rest)) = _
    rw [protect_cons (by decide), protect_entriesText entries rest]
    rfl
theorem protect_itemsText : (items : Items Scalar) → (rest : List Char) →
    protect (items.text ++ rest) = (protectItems items).text ++ protect rest
  | .last before item after, rest => by
    have hends := ends_separator (.inr (.inl rfl)) after rest
    have hitem := protectAt_tree item false (after.1 ++ ']' :: rest) hends
    simp only [Items.text, protectItems, List.append_assoc, List.cons_append, List.nil_append]
    rw [protect_append (quote_notMem_space before)]
    show before.1 ++ protectAt false _ = _
    rw [hitem, protect_append (quote_notMem_space after), protect_cons (by decide)]
  | .cons before item after more, rest => by
    have hends := ends_separator (.inl rfl) after (more.text ++ rest)
    have hitem := protectAt_tree item false (after.1 ++ ',' :: (more.text ++ rest)) hends
    have hmore := protect_itemsText more rest
    simp only [Items.text, protectItems, List.append_assoc, List.cons_append]
    rw [protect_append (quote_notMem_space before)]
    show before.1 ++ protectAt false _ = _
    rw [hitem, protect_append (quote_notMem_space after), protect_cons (by decide), hmore]
theorem protect_entriesText : (entries : Entries Scalar) → (rest : List Char) →
    protect (entries.text ++ rest) = (protectEntries entries).text ++ protect rest
  | .last key value after, rest => by
    have hends := ends_separator (.inr (.inr rfl)) after rest
    have hvalue := protectAt_tree value (guarded key.name) (after.1 ++ '}' :: rest) hends
    simp only [Entries.text, protectEntries, List.append_assoc, List.cons_append, List.nil_append]
    rw [protect_key, hvalue, protect_append (quote_notMem_space after), protect_cons (by decide)]
  | .cons key value after more, rest => by
    have hends := ends_separator (.inl rfl) after (more.text ++ rest)
    have hvalue := protectAt_tree value (guarded key.name) (after.1 ++ ',' :: (more.text ++ rest))
      hends
    have hmore := protect_entriesText more rest
    simp only [Entries.text, protectEntries, List.append_assoc, List.cons_append]
    rw [protect_key, hvalue, protect_append (quote_notMem_space after), protect_cons (by decide),
      hmore]
end

mutual
/-- A tree is spoilt by the numbers that go on behind their digits, and by nothing else. -/
theorem spoilt_protectTree : (key : Bool) → (t : SyntaxTree Scalar) →
    (protectTree key t).spoilt = splitsTree key t
  | key, .leaf (.number n) => by
    cases key with
    | false => rfl
    | true =>
      show (false || !n.back.isEmpty) = (true && !n.isInteger)
      obtain ⟨hinteger, hback⟩ | ⟨hinteger, c, cs, hback, -⟩ := n.back_cases
      · rw [hinteger, hback]
        rfl
      · rw [hinteger, hback]
        rfl
  | _, .leaf .null => rfl
  | _, .leaf (.bool _) => rfl
  | _, .leaf (.string _) => rfl
  | _, .emptyArray _ => rfl
  | _, .array items => by
    show (_ || false) = _
    rw [Bool.or_false]
    exact broken_protectItems items
  | _, .emptyObject _ => rfl
  | _, .object entries => by
    show (_ || false) = _
    rw [Bool.or_false]
    exact broken_protectEntries entries
theorem broken_protectItems : (items : Items Scalar) →
    (protectItems items).broken = splitsItems items
  | .last _ item _ => spoilt_protectTree false item
  | .cons _ item _ more =>
    congrArg₂ (· || ·) (spoilt_protectTree false item) (broken_protectItems more)
theorem broken_protectEntries : (entries : Entries Scalar) →
    (protectEntries entries).broken = splitsEntries entries
  | .last key value _ => spoilt_protectTree (guarded key.name) value
  | .cons key value _ more =>
    congrArg₂ (· || ·) (spoilt_protectTree (guarded key.name) value) (broken_protectEntries more)
end

/-- `JSON.parse(protectedText)` for a JSON text. -/
theorem parse_protect (doc : Document Scalar) :
    parse .standard (protect doc.text) =
      if splitsTree false doc.tree then .error .malformed
      else .ok (protectTree false doc.tree).value := by
  have hafter : protect doc.after.1 = doc.after.1 := by
    have h := protect_append (quote_notMem_space doc.after) []
    simpa [protect, replaceAll, replaceFrom] using h
  have htree := protectAt_tree doc.tree false doc.after.1 (ends_space doc.after)
  have htext : protect doc.text =
      Document.text ⟨doc.before, protectTree false doc.tree, doc.after⟩ := by
    rw [Document.text, protect_append (quote_notMem_space doc.before)]
    show doc.before.1 ++ protectAt false _ = _
    rw [htree, hafter]
    rfl
  rw [htext, parse_document, spoilt_protectTree]

end TradingSdk.TriggerHeights
