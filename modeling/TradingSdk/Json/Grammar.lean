import TradingSdk.Json.Token

namespace TradingSdk.Json

/-- The name of a member, with the white space around it and around the colon. -/
structure KeyToken where
  before : Space
  name : StringToken
  beforeColon : Space
  afterColon : Space

mutual
/-- The grammar of ECMA-404 as trees that keep every character of the text, over the values that hold
no others. -/
inductive SyntaxTree (α : Type) where
  | leaf (a : α)
  | emptyArray (space : Space)
  | array (items : Items α)
  | emptyObject (space : Space)
  | object (entries : Entries α)
/-- The items of an array, each with the white space around it. -/
inductive Items (α : Type) where
  | last (before : Space) (item : SyntaxTree α) (after : Space)
  | cons (before : Space) (item : SyntaxTree α) (after : Space) (more : Items α)
/-- The members of an object. -/
inductive Entries (α : Type) where
  | last (key : KeyToken) (value : SyntaxTree α) (after : Space)
  | cons (key : KeyToken) (value : SyntaxTree α) (after : Space) (more : Entries α)
end

/-- How a leaf is written and what the reader makes of it. A text that only begins with a value has
an excess behind it. -/
class Leaf (α : Type) where
  text : α → List Char
  value : α → Value
  excess : α → List Char
  starts : ∀ a, ∃ c cs, text a = c :: cs ∧ isSpace c = false ∧ c ≠ ']'
  reads : ∀ a fuel rest, Ends rest →
    parseValue .standard (fuel + 1) (text a ++ rest) = .ok (value a, excess a ++ rest)
  spills : ∀ a c cs, excess a = c :: cs → isSpace c = false ∧ c ≠ ',' ∧ c ≠ ']' ∧ c ≠ '}'

def KeyToken.text (key : KeyToken) : List Char :=
  key.before.1 ++ '"' :: (key.name.text ++ '"' :: (key.beforeColon.1 ++ ':' :: key.afterColon.1))

section Text

variable {α : Type} [Leaf α]

mutual
def SyntaxTree.text : SyntaxTree α → List Char
  | .leaf a => Leaf.text a
  | .emptyArray space => '[' :: (space.1 ++ [']'])
  | .array items => '[' :: items.text
  | .emptyObject space => '{' :: (space.1 ++ ['}'])
  | .object entries => '{' :: entries.text
def Items.text : Items α → List Char
  | .last before item after => before.1 ++ (item.text ++ (after.1 ++ [']']))
  | .cons before item after more => before.1 ++ (item.text ++ (after.1 ++ ',' :: more.text))
def Entries.text : Entries α → List Char
  | .last key value after => key.text ++ (value.text ++ (after.1 ++ ['}']))
  | .cons key value after more => key.text ++ (value.text ++ (after.1 ++ ',' :: more.text))
end

mutual
def SyntaxTree.value : SyntaxTree α → Value
  | .leaf a => Leaf.value a
  | .emptyArray _ => .array []
  | .array items => .array items.values
  | .emptyObject _ => .object []
  | .object entries => .object entries.values
def Items.values : Items α → List Value
  | .last _ item _ => [item.value]
  | .cons _ item _ more => item.value :: more.values
def Entries.values : Entries α → Members
  | .last key value _ => [(key.name.value, value.value)]
  | .cons key value _ more => (key.name.value, value.value) :: more.values
end

def SyntaxTree.excess : SyntaxTree α → List Char
  | .leaf a => Leaf.excess a
  | _ => []

mutual
/-- Whether some value within has an excess behind it. -/
def SyntaxTree.broken : SyntaxTree α → Bool
  | .array items => items.broken
  | .object entries => entries.broken
  | _ => false
def Items.broken : Items α → Bool
  | .last _ item _ => item.broken || !item.excess.isEmpty
  | .cons _ item _ more => item.broken || !item.excess.isEmpty || more.broken
def Entries.broken : Entries α → Bool
  | .last _ value _ => value.broken || !value.excess.isEmpty
  | .cons _ value _ more => value.broken || !value.excess.isEmpty || more.broken
end

/-- A value with an excess within or behind it. -/
abbrev SyntaxTree.spoilt (t : SyntaxTree α) : Bool := t.broken || !t.excess.isEmpty

theorem SyntaxTree.starts (t : SyntaxTree α) :
    ∃ c cs, t.text = c :: cs ∧ isSpace c = false ∧ c ≠ ']' := by
  cases t with
  | leaf a => exact Leaf.starts a
  | emptyArray _ => exact ⟨'[', _, rfl, by decide, by decide⟩
  | array _ => exact ⟨'[', _, rfl, by decide, by decide⟩
  | emptyObject _ => exact ⟨'{', _, rfl, by decide, by decide⟩
  | object _ => exact ⟨'{', _, rfl, by decide, by decide⟩

theorem SyntaxTree.skipSpace_text (t : SyntaxTree α) (rest : List Char) :
    skipSpace (t.text ++ rest) = t.text ++ rest := by
  obtain ⟨c, cs, htext, hspace, -⟩ := t.starts
  rw [htext]
  exact skipSpace_cons hspace _

theorem SyntaxTree.spills {t : SyntaxTree α} {c : Char} {cs : List Char} (h : t.excess = c :: cs) :
    isSpace c = false ∧ c ≠ ',' ∧ c ≠ ']' ∧ c ≠ '}' := by
  cases t with
  | leaf a => exact Leaf.spills a c cs h
  | emptyArray _ => cases h
  | array _ => cases h
  | emptyObject _ => cases h
  | object _ => cases h

/-- A value does not begin with the bracket that ends an array. -/
theorem SyntaxTree.head_ne (t : SyntaxTree α) (rest : List Char) :
    (t.text ++ rest).head? ≠ some ']' := by
  obtain ⟨c, cs, htext, -, hne⟩ := t.starts
  rw [htext]
  intro heq
  exact hne (Option.some.inj heq)

theorem Items.head_ne (items : Items α) (rest : List Char) :
    (skipSpace (items.text ++ rest)).head? ≠ some ']' := by
  cases items with
  | last before item after =>
    rw [Items.text, List.append_assoc, skipSpace_append before.2, List.append_assoc,
      SyntaxTree.skipSpace_text]
    exact item.head_ne _
  | cons before item after more =>
    rw [Items.text, List.append_assoc, skipSpace_append before.2, List.append_assoc,
      SyntaxTree.skipSpace_text]
    exact item.head_ne _

/-- The reader goes on behind a value only when nothing within or behind it is in the way. -/
theorem SyntaxTree.andThen_of_reads {β : Type} {t : SyntaxTree α} {x : Parsed Value}
    {rest : List Char} {f : Value → List Char → Parsed β}
    (hx : x = if t.broken then .error .malformed else .ok (t.value, t.excess ++ rest))
    (hf : ∀ c cs, isSpace c = false ∧ c ≠ ',' ∧ c ≠ ']' ∧ c ≠ '}' →
      f t.value (c :: cs) = .error .malformed) :
    x.andThen f = if t.spoilt then .error .malformed else f t.value rest := by
  rw [hx]
  cases hbroken : t.broken with
  | true =>
    rw [SyntaxTree.spoilt, hbroken]
    rfl
  | false =>
    cases hexcess : t.excess with
    | nil =>
      rw [SyntaxTree.spoilt, hbroken, hexcess]
      rfl
    | cons c cs =>
      rw [SyntaxTree.spoilt, hbroken, hexcess]
      exact hf c (cs ++ rest) (SyntaxTree.spills hexcess)

theorem KeyToken.skipSpace_text (key : KeyToken) (rest : List Char) :
    skipSpace (key.text ++ rest) = '"' :: (key.name.text ++ '"' ::
      (key.beforeColon.1 ++ ':' :: (key.afterColon.1 ++ rest))) := by
  have hquote : isSpace '"' = false := by decide
  simp only [KeyToken.text, List.append_assoc, List.cons_append]
  rw [skipSpace_append key.before.2, skipSpace_cons hquote]

theorem Entries.head_ne (entries : Entries α) (rest : List Char) :
    (skipSpace (entries.text ++ rest)).head? ≠ some '}' := by
  cases entries with
  | last key value after =>
    rw [Entries.text, List.append_assoc, KeyToken.skipSpace_text]
    simp
  | cons key value after more =>
    rw [Entries.text, List.append_assoc, KeyToken.skipSpace_text]
    simp

theorem skipSpace_separator {c : Char} (hc : isSpace c = false) (space : Space)
    (rest : List Char) : skipSpace (space.1 ++ c :: rest) = c :: rest := by
  rw [skipSpace_append space.2, skipSpace_cons hc]

theorem andThen_ok {β γ : Type} (b : β) (rest : List Char) (f : β → List Char → Parsed γ) :
    Parsed.andThen (.ok (b, rest)) f = f b rest := rfl

/-- What the reader does behind a value in an array, by the separator there. -/
theorem parseItems_tree {fuel : Nat} {t : SyntaxTree α} {rest more : List Char}
    {result : Parsed (List Value)}
    (hvalue : parseValue .standard fuel (t.text ++ rest) =
      if t.broken then .error .malformed else .ok (t.value, t.excess ++ rest))
    (hrest : skipSpace rest = ',' :: more ∧
        (parseItems .standard fuel (skipSpace more)).as (fun vs => t.value :: vs) = result ∨
      skipSpace rest = ']' :: more ∧ .ok ([t.value], more) = result) :
    parseItems .standard (fuel + 1) (t.text ++ rest) =
      if t.spoilt then .error .malformed else result := by
  rw [parseItems, SyntaxTree.andThen_of_reads hvalue]
  · obtain ⟨hcomma, rfl⟩ | ⟨hbracket, rfl⟩ := hrest
    · rw [hcomma]
      rfl
    · rw [hbracket]
      rfl
  · intro c cs hc
    rw [skipSpace_cons hc.1]
    split
    · next heq => exact absurd (List.cons.inj heq).1 hc.2.1
    · next heq => exact absurd (List.cons.inj heq).1 hc.2.2.1
    · rfl

/-- What the reader does behind a value in an object. -/
theorem parseMembers_tree {fuel : Nat} {key : KeyToken} {t : SyntaxTree α} {rest more : List Char}
    {result : Parsed Members}
    (hvalue : parseValue .standard fuel (t.text ++ rest) =
      if t.broken then .error .malformed else .ok (t.value, t.excess ++ rest))
    (hrest : skipSpace rest = ',' :: more ∧
        (parseMembers .standard fuel (skipSpace more)).as
          (fun members => (key.name.value, t.value) :: members) = result ∨
      skipSpace rest = '}' :: more ∧ .ok ([(key.name.value, t.value)], more) = result) :
    parseMembers .standard (fuel + 1) (skipSpace (key.text ++ (t.text ++ rest))) =
      if t.spoilt then .error .malformed else result := by
  have hcolon := skipSpace_separator (c := ':') (by decide) key.beforeColon
    (key.afterColon.1 ++ (t.text ++ rest))
  rw [KeyToken.skipSpace_text, parseMembers, if_neg (not_not.mpr rfl), parseString_append]
  rw [andThen_ok, hcolon]
  simp only
  rw [skipSpace_append key.afterColon.2, SyntaxTree.skipSpace_text,
    SyntaxTree.andThen_of_reads hvalue]
  · obtain ⟨hcomma, rfl⟩ | ⟨hbrace, rfl⟩ := hrest
    · rw [hcomma]
      rfl
    · rw [hbrace]
      rfl
  · intro c cs hc
    rw [skipSpace_cons hc.1]
    split
    · next heq => exact absurd (List.cons.inj heq).1 hc.2.1
    · next heq => exact absurd (List.cons.inj heq).1 hc.2.2.2
    · rfl

/-- Two readers in a row, each with something that may be in its way. -/
theorem unless_or {β γ : Type} (first second : Bool) {f : β → γ} {b : β} {rest : List Char} :
    (if first then .error .malformed
      else Parsed.as (if second then .error .malformed else .ok (b, rest)) f) =
      if first || second then .error .malformed else .ok (f b, rest) := by
  cases first with
  | true => rfl
  | false =>
    cases second with
    | true => rfl
    | false => rfl

mutual
/-- A tree is read to its end, unless something within is in the way. -/
theorem SyntaxTree.parseValue_text : (t : SyntaxTree α) → (fuel : Nat) → (rest : List Char) →
    Ends rest → 2 * (t.text ++ rest).length + 1 ≤ fuel →
    parseValue .standard fuel (t.text ++ rest) =
      if t.broken then .error .malformed else .ok (t.value, t.excess ++ rest)
  | .leaf a, fuel, rest, hrest, hfuel => by
    obtain ⟨fuel, rfl⟩ := Nat.exists_eq_add_one_of_ne_zero (n := fuel) (by omega)
    exact Leaf.reads a fuel rest hrest
  | .emptyArray space, fuel, rest, hrest, hfuel => by
    obtain ⟨fuel, rfl⟩ := Nat.exists_eq_add_one_of_ne_zero (n := fuel) (by omega)
    have hskip := skipSpace_separator (c := ']') (by decide) space rest
    simp only [SyntaxTree.text, List.cons_append, List.append_assoc, List.nil_append]
    rw [parseValue, if_neg (by decide), if_pos rfl, hskip]
    rfl
  | .array items, fuel, rest, hrest, hfuel => by
    obtain ⟨fuel, rfl⟩ := Nat.exists_eq_add_one_of_ne_zero (n := fuel) (by omega)
    have hitems := items.parseItems_text fuel rest (by
      simp only [SyntaxTree.text, List.cons_append, List.length_cons] at hfuel
      omega)
    have hhead : (skipSpace (items.text ++ rest)).head? ≠ some ']' := items.head_ne rest
    simp only [SyntaxTree.text, List.cons_append]
    rw [parseValue, if_neg (by decide), if_pos rfl, if_neg hhead, hitems]
    exact unless_or false items.broken
  | .emptyObject space, fuel, rest, hrest, hfuel => by
    obtain ⟨fuel, rfl⟩ := Nat.exists_eq_add_one_of_ne_zero (n := fuel) (by omega)
    have hskip := skipSpace_separator (c := '}') (by decide) space rest
    simp only [SyntaxTree.text, List.cons_append, List.append_assoc, List.nil_append]
    rw [parseValue, if_neg (by decide), if_neg (by decide), if_pos rfl, hskip]
    rfl
  | .object entries, fuel, rest, hrest, hfuel => by
    obtain ⟨fuel, rfl⟩ := Nat.exists_eq_add_one_of_ne_zero (n := fuel) (by omega)
    have hentries := entries.parseMembers_text fuel rest (by
      simp only [SyntaxTree.text, List.cons_append, List.length_cons] at hfuel
      omega)
    have hhead : (skipSpace (entries.text ++ rest)).head? ≠ some '}' := entries.head_ne rest
    simp only [SyntaxTree.text, List.cons_append]
    rw [parseValue, if_neg (by decide), if_neg (by decide), if_pos rfl, if_neg hhead, hentries]
    exact unless_or false entries.broken
theorem Items.parseItems_text : (items : Items α) → (fuel : Nat) → (rest : List Char) →
    2 * (items.text ++ rest).length + 2 ≤ fuel →
    parseItems .standard fuel (skipSpace (items.text ++ rest)) =
      if items.broken then .error .malformed else .ok (items.values, rest)
  | .last before item after, fuel, rest, hfuel => by
    obtain ⟨fuel, rfl⟩ := Nat.exists_eq_add_one_of_ne_zero (n := fuel) (by omega)
    have hends := ends_separator (.inr (.inl rfl)) after rest
    have hvalue := item.parseValue_text fuel (after.1 ++ ']' :: rest) hends (by
      simp only [Items.text, List.length_append, List.length_cons] at hfuel ⊢
      omega)
    simp only [Items.text, List.append_assoc, List.cons_append, List.nil_append]
    rw [skipSpace_append before.2, SyntaxTree.skipSpace_text]
    exact parseItems_tree hvalue (.inr ⟨skipSpace_separator (by decide) after rest, rfl⟩)
  | .cons before item after more, fuel, rest, hfuel => by
    obtain ⟨fuel, rfl⟩ := Nat.exists_eq_add_one_of_ne_zero (n := fuel) (by omega)
    have hends := ends_separator (.inl rfl) after (more.text ++ rest)
    have hvalue := item.parseValue_text fuel (after.1 ++ ',' :: (more.text ++ rest)) hends (by
      simp only [Items.text, List.length_append, List.length_cons] at hfuel ⊢
      omega)
    have hmore := more.parseItems_text fuel rest (by
      simp only [Items.text, List.length_append, List.length_cons] at hfuel ⊢
      omega)
    simp only [Items.text, List.append_assoc, List.cons_append]
    have hcomma := skipSpace_separator (c := ',') (by decide) after (more.text ++ rest)
    rw [skipSpace_append before.2, SyntaxTree.skipSpace_text,
      parseItems_tree hvalue (.inl ⟨hcomma, rfl⟩), hmore]
    exact unless_or item.spoilt more.broken
theorem Entries.parseMembers_text : (entries : Entries α) → (fuel : Nat) → (rest : List Char) →
    2 * (entries.text ++ rest).length + 2 ≤ fuel →
    parseMembers .standard fuel (skipSpace (entries.text ++ rest)) =
      if entries.broken then .error .malformed else .ok (entries.values, rest)
  | .last key value after, fuel, rest, hfuel => by
    obtain ⟨fuel, rfl⟩ := Nat.exists_eq_add_one_of_ne_zero (n := fuel) (by omega)
    have hends := ends_separator (.inr (.inr rfl)) after rest
    have hvalue := value.parseValue_text fuel (after.1 ++ '}' :: rest) hends (by
      simp only [Entries.text, List.length_append, List.length_cons] at hfuel ⊢
      omega)
    simp only [Entries.text, List.append_assoc, List.cons_append, List.nil_append]
    exact parseMembers_tree hvalue (.inr ⟨skipSpace_separator (by decide) after rest, rfl⟩)
  | .cons key value after more, fuel, rest, hfuel => by
    obtain ⟨fuel, rfl⟩ := Nat.exists_eq_add_one_of_ne_zero (n := fuel) (by omega)
    have hends := ends_separator (.inl rfl) after (more.text ++ rest)
    have hvalue := value.parseValue_text fuel (after.1 ++ ',' :: (more.text ++ rest)) hends (by
      simp only [Entries.text, List.length_append, List.length_cons] at hfuel ⊢
      omega)
    have hmore := more.parseMembers_text fuel rest (by
      simp only [Entries.text, List.length_append, List.length_cons] at hfuel ⊢
      omega)
    simp only [Entries.text, List.append_assoc, List.cons_append]
    have hcomma := skipSpace_separator (c := ',') (by decide) after (more.text ++ rest)
    rw [parseMembers_tree hvalue (.inl ⟨hcomma, rfl⟩), hmore]
    exact unless_or value.spoilt more.broken
end

def Entries.list : Entries α → List (StringToken × SyntaxTree α)
  | .last key value _ => [(key.name, value)]
  | .cons key value _ more => (key.name, value) :: more.list

/-- The member of a name. The last one of several counts. -/
def Entries.find (entries : Entries α) (name : String) : Option (StringToken × SyntaxTree α) :=
  entries.list.reverse.find? fun member => member.1.value = Json.text name

theorem lookup_map_value (name : Text) (members : List (StringToken × SyntaxTree α)) :
    (members.map fun member => (member.1.value, member.2.value)).lookup name =
      (members.find? fun member => member.1.value = name).map fun member => member.2.value := by
  induction members with
  | nil => rfl
  | cons member members ih =>
    rw [List.map_cons, List.lookup_cons, List.find?_cons]
    by_cases hname : member.1.value = name
    · simp [hname]
    · have hne : (name == member.1.value) = false := beq_false_of_ne fun heq => hname heq.symm
      simp [hname, hne, ih]

theorem Entries.get_values (entries : Entries α) (name : String) :
    Members.get entries.values name = (entries.find name).map fun member => member.2.value := by
  have hvalues : ∀ entries : Entries α, entries.values =
      entries.list.map fun member => (member.1.value, member.2.value) := by
    intro entries
    induction entries using Entries.list.induct with
    | case1 key value after => rfl
    | case2 key value after more ih =>
      rw [Entries.values, Entries.list, ih]
      rfl
  rw [Members.get, hvalues, ← List.map_reverse, lookup_map_value]
  rfl

end Text

end TradingSdk.Json
