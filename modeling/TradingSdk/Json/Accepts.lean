import TradingSdk.Json.Grammar

namespace TradingSdk.Json

/-- A value that holds no others. -/
inductive Scalar where
  | null
  | bool (b : Bool)
  | number (n : NumberToken)
  | string (s : StringToken)

namespace Scalar

def text : Scalar → List Char
  | .null => "null".toList
  | .bool true => "true".toList
  | .bool false => "false".toList
  | .number n => n.text
  | .string s => '"' :: (s.text ++ ['"'])

def value : Scalar → Value
  | .null => .null
  | .bool b => .bool b
  | .number n => .number n.number
  | .string s => .string s.value

end Scalar

theorem dropWord_eq_some {word cs rest : List Char} :
    dropWord word cs = some rest ↔ cs = word ++ rest := by
  induction word generalizing cs with
  | nil => simp [dropWord]
  | cons w word ih =>
    cases cs with
    | nil => simp [dropWord]
    | cons c cs =>
      rw [dropWord, List.cons_append, List.cons.injEq]
      by_cases hc : w = c
      · rw [if_pos hc, ih]
        exact ⟨fun h => ⟨hc.symm, h⟩, fun h => h.2⟩
      · rw [if_neg hc]
        exact ⟨fun h => absurd h (Option.some_ne_none rest).symm, fun h => absurd h.1.symm hc⟩

/-- The front of a number is a sign or a digit. -/
theorem NumberToken.head (n : NumberToken) : ∃ c cs, n.text = c :: cs ∧
    (n.negative = true ∧ c = '-' ∧ cs = digitChars n.integer.1 ++ n.back ∨
      n.negative = false ∧ (∃ d : Digit, c = d.char) ∧
        n.text = digitChars n.integer.1 ++ n.back) := by
  have htext : n.text = (if n.negative then ['-'] else []) ++
      (digitChars n.integer.1 ++ n.back) := by
    rw [NumberToken.text, NumberToken.front, List.append_assoc]
  cases hnegative : n.negative with
  | true =>
    rw [hnegative] at htext
    exact ⟨'-', _, htext, .inl ⟨rfl, rfl, rfl⟩⟩
  | false =>
    rw [hnegative] at htext
    cases hinteger : n.integer.1 with
    | nil => exact absurd hinteger n.integer.2
    | cons d ds =>
      rw [hinteger] at htext
      exact ⟨d.char, _, htext, .inr ⟨rfl, ⟨d, rfl⟩, htext⟩⟩

theorem parseValue_number (n : NumberToken) (fuel : Nat) {rest : List Char} (h : NoNumber rest) :
    parseValue .standard (fuel + 1) (n.text ++ rest) = .ok (.number n.number, rest) := by
  have hread := parseNumber_append n h
  obtain ⟨c, cs, htext, ⟨hnegative, rfl, rfl⟩ | ⟨hnegative, ⟨d, rfl⟩, hdigits⟩⟩ := n.head
  · have hhead : (digitChars n.integer.1 ++ (n.back ++ rest)).head? ≠ some 'I' := by
      intro heq
      obtain ⟨d, hd⟩ := head?_digitChars n.integer.2 (c := 'I') heq
      have hne := d.char_ne
      rw [← hd] at hne
      revert hne
      decide
    rw [hnegative] at hread
    rw [htext, List.cons_append, List.append_assoc, parseValue]
    generalize digitChars n.integer.1 ++ (n.back ++ rest) = tail at hhead hread ⊢
    simp [parseScalar, hhead, hread, Parsed.as, Parsed.andThen]
  · have hne := d.char_ne
    simp only [List.mem_cons, not_or] at hne
    have hcons : d.char :: (cs ++ rest) = digitChars n.integer.1 ++ (n.back ++ rest) := by
      rw [← List.cons_append, ← htext, hdigits, List.append_assoc]
    rw [hnegative] at hread
    rw [htext, List.cons_append, parseValue]
    simp [parseScalar, hne, hcons, hread, Parsed.as, Parsed.andThen]

theorem parseValue_string (s : StringToken) (fuel : Nat) (rest : List Char) :
    parseValue .standard (fuel + 1) ('"' :: (s.text ++ '"' :: rest)) =
      .ok (.string s.value, rest) := by
  rw [parseValue, if_pos rfl, parseString_append]
  rfl

theorem parseValue_scalar (s : Scalar) (fuel : Nat) {rest : List Char} (h : Ends rest) :
    parseValue .standard (fuel + 1) (s.text ++ rest) = .ok (s.value, rest) := by
  match s with
  | .null => rfl
  | .bool true => rfl
  | .bool false => rfl
  | .number n => exact parseValue_number n fuel h.noNumber
  | .string s =>
    simp only [Scalar.text, List.cons_append, List.append_assoc, List.nil_append]
    exact parseValue_string s fuel rest

instance : Leaf Scalar where
  text := Scalar.text
  value := Scalar.value
  excess _ := []
  starts s := by
    match s with
    | .null => exact ⟨'n', _, rfl, by decide, by decide⟩
    | .bool true => exact ⟨'t', _, rfl, by decide, by decide⟩
    | .bool false => exact ⟨'f', _, rfl, by decide, by decide⟩
    | .number n =>
      obtain ⟨c, cs, htext, ⟨-, rfl, -⟩ | ⟨-, ⟨d, rfl⟩, -⟩⟩ := n.head
      · exact ⟨'-', cs, htext, by decide, by decide⟩
      · refine ⟨d.char, cs, htext, ?_⟩
        have hall : ∀ d : Digit, isSpace d.char = false ∧ d.char ≠ ']' := by decide
        exact hall d
    | .string s => exact ⟨'"', _, rfl, by decide, by decide⟩
  reads s fuel rest h := parseValue_scalar s fuel h
  spills s c cs h := by cases h

theorem andThen_eq_ok {α β : Type} {x : Parsed α} {f : α → List Char → Parsed β} {b : β}
    {rest : List Char} (h : x.andThen f = .ok (b, rest)) :
    ∃ a more, x = .ok (a, more) ∧ f a more = .ok (b, rest) := by
  cases x with
  | error e => cases h
  | ok result => exact ⟨result.1, result.2, rfl, h⟩

theorem as_eq_ok {α β : Type} {x : Parsed α} {f : α → β} {b : β} {rest : List Char}
    (h : x.as f = .ok (b, rest)) : ∃ a, x = .ok (a, rest) ∧ f a = b := by
  obtain ⟨a, more, hx, heq⟩ := andThen_eq_ok h
  obtain ⟨hb, rfl⟩ := Prod.mk.inj (Except.ok.inj heq)
  exact ⟨a, hx, hb⟩

theorem parseWord_eq_ok {v v' : Value} {word : String} {cs rest : List Char}
    (h : parseWord v word cs = .ok (v', rest)) : v = v' ∧ cs = word.toList ++ rest := by
  rw [parseWord] at h
  cases hword : dropWord word.toList cs with
  | none =>
    rw [hword] at h
    cases h
  | some more =>
    rw [hword] at h
    obtain ⟨hv, rfl⟩ := Prod.mk.inj (Except.ok.inj h)
    exact ⟨hv, dropWord_eq_some.mp hword⟩

theorem parseConstant_standard (c : Constant) (word : String) (cs : List Char) :
    parseConstant .standard c word cs = .error .malformed := rfl

theorem parseScalar_eq_ok {c : Char} {cs rest : List Char} {v : Value}
    (h : parseScalar .standard c cs = .ok (v, rest)) :
    ∃ s : Scalar, s.value = v ∧ c :: cs = s.text ++ rest := by
  simp only [parseScalar, parseConstant_standard] at h
  split_ifs at h with hn ht hf hN hI hminus hinfinity
  · obtain ⟨rfl, rfl⟩ := parseWord_eq_ok h
    exact ⟨.null, rfl, by rw [hn]; rfl⟩
  · obtain ⟨rfl, rfl⟩ := parseWord_eq_ok h
    exact ⟨.bool true, rfl, by rw [ht]; rfl⟩
  · obtain ⟨rfl, rfl⟩ := parseWord_eq_ok h
    exact ⟨.bool false, rfl, by rw [hf]; rfl⟩
  · obtain ⟨number, hnumber, rfl⟩ := as_eq_ok h
    obtain ⟨n, hnegative, rfl, hcs⟩ := exists_number hnumber
    refine ⟨.number n, rfl, ?_⟩
    rw [Scalar.text, NumberToken.text, NumberToken.front, hnegative, hminus, hcs]
    simp
  · obtain ⟨number, hnumber, rfl⟩ := as_eq_ok h
    obtain ⟨n, hnegative, rfl, hcs⟩ := exists_number hnumber
    refine ⟨.number n, rfl, ?_⟩
    rw [Scalar.text, NumberToken.text, NumberToken.front, hnegative, hcs]
    simp

theorem exists_parseString {cs rest : List Char} {value : Text}
    (h : parseString cs = .ok (value, rest)) :
    ∃ s : StringToken, s.value = value ∧ cs = s.text ++ '"' :: rest := by
  rw [parseString] at h
  cases hunits : stringUnits cs with
  | none =>
    rw [hunits] at h
    cases h
  | some result =>
    rw [hunits] at h
    obtain ⟨rfl, rfl⟩ := Prod.mk.inj (Except.ok.inj h)
    obtain ⟨s, hs, hcs⟩ := exists_string cs result.1 result.2 hunits
    exact ⟨s, congrArg joinSurrogates hs, hcs⟩

/-- What the induction on the fuel carries. The white space in front belongs to the first item. -/
structure Accepts (fuel : Nat) : Prop where
  value : ∀ cs v rest, parseValue .standard fuel cs = .ok (v, rest) →
    ∃ t : SyntaxTree Scalar, t.value = v ∧ cs = t.text ++ rest
  items : ∀ cs vs rest, parseItems .standard fuel (skipSpace cs) = .ok (vs, rest) →
    ∃ items : Items Scalar, items.values = vs ∧ cs = items.text ++ rest
  members : ∀ cs members rest, parseMembers .standard fuel (skipSpace cs) = .ok (members, rest) →
    ∃ entries : Entries Scalar, entries.values = members ∧ cs = entries.text ++ rest

section Accepts

variable {fuel : Nat}

theorem exists_bracket {cs rest : List Char} {c : Char} (h : skipSpace cs = c :: rest) :
    ∃ space : Space, cs = space.1 ++ c :: rest := by
  obtain ⟨space, hspace⟩ := exists_space cs
  rw [h] at hspace
  exact ⟨space, hspace⟩

theorem head?_tail {cs : List Char} {c : Char} (h : cs.head? = some c) : cs = c :: cs.tail := by
  cases cs with
  | nil => cases h
  | cons c' cs =>
    obtain rfl := Option.some.inj h
    rfl

theorem Accepts.parseValue (ih : Accepts fuel) {cs rest : List Char} {v : Value}
    (h : parseValue .standard (fuel + 1) cs = .ok (v, rest)) :
    ∃ t : SyntaxTree Scalar, t.value = v ∧ cs = t.text ++ rest := by
  cases cs with
  | nil =>
    rw [Json.parseValue] at h
    cases h
  | cons c cs =>
    rw [Json.parseValue] at h
    split_ifs at h with hquote hbracket hempty hbrace hempty
    · obtain ⟨value, hstring, rfl⟩ := as_eq_ok h
      obtain ⟨s, rfl, hcs⟩ := exists_parseString hstring
      refine ⟨.leaf (.string s), rfl, ?_⟩
      show c :: cs = '"' :: (s.text ++ ['"']) ++ rest
      rw [hquote, hcs]
      simp
    · obtain ⟨rfl, hrest⟩ := Prod.mk.inj (Except.ok.inj h)
      obtain ⟨space, hcs⟩ := exists_bracket (head?_tail hempty)
      refine ⟨.emptyArray space, rfl, ?_⟩
      rw [hbracket, hcs, hrest]
      simp [SyntaxTree.text]
    · obtain ⟨vs, hvs, rfl⟩ := as_eq_ok h
      obtain ⟨items, rfl, rfl⟩ := ih.items _ _ _ hvs
      refine ⟨.array items, rfl, ?_⟩
      rw [hbracket]
      rfl
    · obtain ⟨rfl, hrest⟩ := Prod.mk.inj (Except.ok.inj h)
      obtain ⟨space, hcs⟩ := exists_bracket (head?_tail hempty)
      refine ⟨.emptyObject space, rfl, ?_⟩
      rw [hbrace, hcs, hrest]
      simp [SyntaxTree.text]
    · obtain ⟨members, hmembers, rfl⟩ := as_eq_ok h
      obtain ⟨entries, rfl, rfl⟩ := ih.members _ _ _ hmembers
      refine ⟨.object entries, rfl, ?_⟩
      rw [hbrace]
      rfl
    · obtain ⟨s, rfl, htext⟩ := parseScalar_eq_ok h
      exact ⟨.leaf s, rfl, htext⟩

theorem Accepts.parseItems (ih : Accepts fuel) {cs rest : List Char} {vs : List Value}
    (h : parseItems .standard (fuel + 1) (skipSpace cs) = .ok (vs, rest)) :
    ∃ items : Items Scalar, items.values = vs ∧ cs = items.text ++ rest := by
  obtain ⟨before, hbefore⟩ := exists_space cs
  rw [Json.parseItems] at h
  obtain ⟨v, behind, hvalue, h⟩ := andThen_eq_ok h
  obtain ⟨t, rfl, ht⟩ := ih.value _ _ _ hvalue
  rw [ht] at hbefore
  split at h
  · next more heq =>
    obtain ⟨after, hafter⟩ := exists_bracket heq
    obtain ⟨vs, hvs, rfl⟩ := as_eq_ok h
    obtain ⟨items, rfl, hitems⟩ := ih.items _ _ _ hvs
    refine ⟨.cons before t after items, rfl, ?_⟩
    rw [hbefore, hafter, hitems]
    simp [Items.text]
  · next more heq =>
    obtain ⟨after, hafter⟩ := exists_bracket heq
    obtain ⟨rfl, rfl⟩ := Prod.mk.inj (Except.ok.inj h)
    refine ⟨.last before t after, rfl, ?_⟩
    rw [hbefore, hafter]
    simp [Items.text]
  · cases h

theorem Accepts.parseMembers (ih : Accepts fuel) {cs rest : List Char} {members : Members}
    (h : parseMembers .standard (fuel + 1) (skipSpace cs) = .ok (members, rest)) :
    ∃ entries : Entries Scalar, entries.values = members ∧ cs = entries.text ++ rest := by
  obtain ⟨before, hbefore⟩ := exists_space cs
  cases hskip : skipSpace cs with
  | nil =>
    rw [hskip, Json.parseMembers] at h
    cases h
  | cons quote name =>
    rw [hskip, Json.parseMembers] at h
    split_ifs at h with hquote
    obtain ⟨key, behindName, hstring, h⟩ := andThen_eq_ok h
    obtain ⟨s, rfl, hname⟩ := exists_parseString hstring
    split at h
    · next value hcolon =>
      obtain ⟨beforeColon, hbeforeColon⟩ := exists_bracket hcolon
      obtain ⟨afterColon, hafterColon⟩ := exists_space value
      obtain ⟨v, behind, hvalue, h⟩ := andThen_eq_ok h
      obtain ⟨t, rfl, ht⟩ := ih.value _ _ _ hvalue
      have hcs : cs = KeyToken.text ⟨before, s, beforeColon, afterColon⟩ ++ (t.text ++ behind) := by
        rw [hbefore, hskip, not_not.mp hquote, hname, hbeforeColon, hafterColon, ht]
        simp [KeyToken.text]
      split at h
      · next more heq =>
        obtain ⟨after, hafter⟩ := exists_bracket heq
        obtain ⟨members, hmembers, rfl⟩ := as_eq_ok h
        obtain ⟨entries, rfl, hentries⟩ := ih.members _ _ _ hmembers
        refine ⟨.cons ⟨before, s, beforeColon, afterColon⟩ t after entries, rfl, ?_⟩
        rw [hcs, hafter, hentries]
        simp [Entries.text]
      · next more heq =>
        obtain ⟨after, hafter⟩ := exists_bracket heq
        obtain ⟨rfl, rfl⟩ := Prod.mk.inj (Except.ok.inj h)
        refine ⟨.last ⟨before, s, beforeColon, afterColon⟩ t after, rfl, ?_⟩
        rw [hcs, hafter]
        simp [Entries.text]
      · cases h
    · cases h

theorem accepts (fuel : Nat) : Accepts fuel := by
  induction fuel with
  | zero =>
    refine ⟨fun cs v rest h => ?_, fun cs vs rest h => ?_, fun cs members rest h => ?_⟩
    · rw [parseValue] at h
      cases h
    · rw [parseItems] at h
      cases h
    · rw [parseMembers] at h
      cases h
  | succ fuel ih =>
    exact ⟨fun _ _ _ => ih.parseValue, fun _ _ _ => ih.parseItems, fun _ _ _ => ih.parseMembers⟩

end Accepts

structure Document (α : Type) where
  before : Space
  tree : SyntaxTree α
  after : Space

section Document

variable {α : Type} [Leaf α]

def Document.text (doc : Document α) : List Char :=
  doc.before.1 ++ (doc.tree.text ++ doc.after.1)

theorem parse_document (doc : Document α) :
    parse .standard doc.text =
      if doc.tree.spoilt then .error .malformed else .ok doc.tree.value := by
  have hskip : skipSpace doc.text = doc.tree.text ++ doc.after.1 := by
    rw [Document.text, skipSpace_append doc.before.2, SyntaxTree.skipSpace_text]
  have hlength : (doc.tree.text ++ doc.after.1).length ≤ doc.text.length := by
    rw [← hskip]
    exact skipSpace_length _
  have hvalue := doc.tree.parseValue_text (2 * doc.text.length + 1) doc.after.1
    (ends_space doc.after) (by omega)
  have hafter : skipSpace doc.after.1 = [] := by
    have h := skipSpace_append doc.after.2 []
    rwa [List.append_nil] at h
  rw [parse, hskip, hvalue]
  cases hbroken : doc.tree.broken with
  | true =>
    rw [SyntaxTree.spoilt, hbroken]
    rfl
  | false =>
    cases hexcess : doc.tree.excess with
    | nil =>
      rw [SyntaxTree.spoilt, hbroken, hexcess]
      exact if_pos hafter
    | cons c cs =>
      rw [SyntaxTree.spoilt, hbroken, hexcess]
      apply if_neg
      rw [List.cons_append, skipSpace_cons (SyntaxTree.spills hexcess).1]
      exact List.cons_ne_nil _ _

end Document

theorem SyntaxTree.excess_scalar (t : SyntaxTree Scalar) : t.excess = [] := by
  cases t with
  | leaf s => rfl
  | emptyArray _ => rfl
  | array _ => rfl
  | emptyObject _ => rfl
  | object _ => rfl

mutual
theorem SyntaxTree.broken_scalar : (t : SyntaxTree Scalar) → t.broken = false
  | .leaf _ => rfl
  | .emptyArray _ => rfl
  | .array items => items.broken_scalar
  | .emptyObject _ => rfl
  | .object entries => entries.broken_scalar
theorem Items.broken_scalar : (items : Items Scalar) → items.broken = false
  | .last _ item _ => by rw [Items.broken, item.broken_scalar, item.excess_scalar]; rfl
  | .cons _ item _ more => by
    rw [Items.broken, item.broken_scalar, item.excess_scalar, more.broken_scalar]
    rfl
theorem Entries.broken_scalar : (entries : Entries Scalar) → entries.broken = false
  | .last _ value _ => by rw [Entries.broken, value.broken_scalar, value.excess_scalar]; rfl
  | .cons _ value _ more => by
    rw [Entries.broken, value.broken_scalar, value.excess_scalar, more.broken_scalar]
    rfl
end

/-- What `JSON.parse` accepts, and what it returns. -/
theorem parse_ok_iff {cs : List Char} {v : Value} :
    parse .standard cs = .ok v ↔ ∃ doc : Document Scalar, doc.text = cs ∧ doc.tree.value = v := by
  constructor
  · intro h
    rw [parse] at h
    cases hvalue : parseValue .standard (2 * cs.length + 1) (skipSpace cs) with
    | error e =>
      rw [hvalue] at h
      cases h
    | ok result =>
      rw [hvalue] at h
      simp only at h
      split_ifs at h with hafter
      obtain ⟨before, hbefore⟩ := exists_space cs
      obtain ⟨after, hspace⟩ := exists_space result.2
      obtain ⟨t, ht, htext⟩ := (accepts _).value _ _ _ hvalue
      refine ⟨⟨before, t, after⟩, ?_, ht.trans (Except.ok.inj h)⟩
      rw [hafter, List.append_nil] at hspace
      rw [Document.text, ← hspace, ← htext, ← hbefore]
  · intro h
    obtain ⟨doc, rfl, rfl⟩ := h
    rw [parse_document, SyntaxTree.spoilt, doc.tree.broken_scalar, doc.tree.excess_scalar]
    rfl

end TradingSdk.Json
