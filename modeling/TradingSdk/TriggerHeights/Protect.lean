import Mathlib.Data.List.TakeWhile
import TradingSdk.Client.Gateway
import TradingSdk.Json.Accepts
import TradingSdk.Lib.Replace

namespace TradingSdk.TriggerHeights

open Json

def finalizedHeight : List Char := "finalized_height".toList

def admissionHeight : List Char := "admission_height".toList

/-- `\d`. -/
def isDigit (c : Char) : Bool := (digit c).isSome

/-- `\s`. -/
def isJsSpace (c : Char) : Bool := Client.isJsSpace c.toNat

/-- `(?:finalized_height|admission_height)"`, and what follows. -/
def nameAt (cs : List Char) : Option (List Char × List Char) :=
  match dropWord (finalizedHeight ++ ['"']) cs with
  | some rest => some (finalizedHeight ++ ['"'], rest)
  | none =>
    (dropWord (admissionHeight ++ ['"']) cs).map fun rest => (admissionHeight ++ ['"'], rest)

/-- `\s*:\s*`, and what follows. -/
def separatorAt (cs : List Char) : Option (List Char × List Char) :=
  match cs.dropWhile isJsSpace with
  | ':' :: rest => some (cs.takeWhile isJsSpace ++ ':' :: rest.takeWhile isJsSpace,
      rest.dropWhile isJsSpace)
  | _ => none

/-- `\d+`. -/
def digitsAt (cs : List Char) : Option (List Char) :=
  if cs.takeWhile isDigit = [] then none else some (cs.takeWhile isDigit)

/-- `-?\d+`. -/
def literalAt : List Char → Option (List Char)
  | '-' :: cs => (digitsAt cs).map fun digits => '-' :: digits
  | cs => digitsAt cs

/-- The two groups of the match at the front. -/
def matchHeight : List Char → Option (List Char × List Char)
  | '"' :: cs => do
    let (name, cs) ← nameAt cs
    let (separator, cs) ← separatorAt cs
    let literal ← literalAt cs
    return ('"' :: (name ++ separator), literal)
  | _ => none

/-- `$1"$2"`, and the length of the match. -/
def replaceHeight (cs : List Char) : Option (List Char × Nat) :=
  (matchHeight cs).map fun (key, literal) =>
    (key ++ '"' :: (literal ++ ['"']), key.length + literal.length)

/-- `protectedText`. -/
def protect (text : List Char) : List Char := replaceAll replaceHeight text

theorem replaceHeight_of_ne {c : Char} (hc : c ≠ '"') (cs : List Char) :
    replaceHeight (c :: cs) = none := by
  rw [replaceHeight, matchHeight]
  · rfl
  · intro cs' heq
    exact hc (List.cons.inj heq).1

theorem protect_cons {c : Char} (hc : c ≠ '"') (cs : List Char) :
    protect (c :: cs) = c :: protect cs := replaceAll_cons (replaceHeight_of_ne hc cs)

/-- A match begins with a quote. -/
theorem protect_append {front : List Char} (h : '"' ∉ front) (rest : List Char) :
    protect (front ++ rest) = front ++ protect rest := by
  apply replaceAll_append
  intro c hc cs
  exact replaceHeight_of_ne (fun heq => h (heq ▸ hc)) cs

theorem finalizedHeight_plain : IsPlain finalizedHeight := by decide

theorem admissionHeight_plain : IsPlain admissionHeight := by decide

/-- A plain name that ends at the first quote is the whole string. -/
theorem text_eq_of_append_eq {name : List Char} (hname : IsPlain name) {s : StringToken}
    {rest rest' : List Char} (h : s.text ++ '"' :: rest = name ++ '"' :: rest') :
    s.text = name ∧ rest = rest' := by
  obtain ⟨items⟩ := s
  induction items generalizing name with
  | nil =>
    cases name with
    | nil => exact ⟨rfl, (List.cons.inj h).2⟩
    | cons c name => exact absurd (List.cons.inj h).1.symm (hname c List.mem_cons_self).1
  | cons item items ih =>
    rw [StringToken.text_cons, List.append_assoc] at h
    cases name with
    | nil =>
      match item with
      | .plain c => exact absurd (List.cons.inj h).1 c.2.1
      | .escaped c => exact absurd (List.cons.inj h).1 (by decide)
      | .unicode ⟨(a, b, c, d), hhex⟩ => exact absurd (List.cons.inj h).1 (by decide)
    | cons n name =>
      have hn := (hname n List.mem_cons_self).2.1
      match item with
      | .plain c =>
        obtain ⟨hc, hrest⟩ := List.cons.inj h
        obtain ⟨heq, hrest⟩ := ih (fun c hmem => hname c (List.mem_cons_of_mem _ hmem)) hrest
        refine ⟨?_, hrest⟩
        rw [StringToken.text_cons, heq, ← hc]
        rfl
      | .escaped c => exact absurd (List.cons.inj h).1.symm hn
      | .unicode ⟨(a, b, c, d), hhex⟩ => exact absurd (List.cons.inj h).1.symm hn

theorem dropWord_name {name : List Char} (hname : IsPlain name) (s : StringToken)
    (rest : List Char) : dropWord (name ++ ['"']) (s.text ++ '"' :: rest) =
      if s.text = name then some rest else none := by
  by_cases heq : s.text = name
  · rw [if_pos heq, dropWord_eq_some, heq, List.append_assoc]
    rfl
  · rw [if_neg heq]
    apply Option.eq_none_iff_forall_ne_some.mpr
    intro rest' h
    rw [dropWord_eq_some, List.append_assoc] at h
    exact heq (text_eq_of_append_eq hname h).1

/-- One of the two names, written without escapes. -/
def isName (s : StringToken) : Bool := s.text = finalizedHeight || s.text = admissionHeight

theorem nameAt_string (s : StringToken) (rest : List Char) :
    nameAt (s.text ++ '"' :: rest) = if isName s then some (s.text ++ ['"'], rest) else none := by
  rw [nameAt, dropWord_name finalizedHeight_plain, dropWord_name admissionHeight_plain, isName]
  by_cases hfinalized : s.text = finalizedHeight
  · simp [hfinalized]
  · by_cases hadmission : s.text = admissionHeight
    · have hne : admissionHeight ≠ finalizedHeight := by decide
      simp [hadmission, hne]
    · simp [hfinalized, hadmission]

/-- Whether an escaped quote and one of the two names end the string. -/
def itemsGuarded : List StringItem → Bool
  | [] => false
  | .escaped c :: items => (c.1 = '"' && isName ⟨items⟩) || itemsGuarded items
  | .plain _ :: items => itemsGuarded items
  | .unicode _ :: items => itemsGuarded items

/-- The keys that the pattern finds. It takes an escaped quote for an opening one. -/
def guarded (s : StringToken) : Bool := isName s || itemsGuarded s.items

theorem text_of_isName {s : StringToken} (h : isName s = true) :
    s.text = finalizedHeight ∨ s.text = admissionHeight := by
  simpa [isName] using h

theorem plain_of_isName {s : StringToken} (h : isName s = true) : IsPlain s.text := by
  obtain heq | heq := text_of_isName h
  · exact heq ▸ finalizedHeight_plain
  · exact heq ▸ admissionHeight_plain

theorem separatorAt_eq {cs separator rest : List Char}
    (h : separatorAt cs = some (separator, rest)) :
    cs = separator ++ rest ∧ '"' ∉ separator := by
  have hspace : ∀ cs : List Char, '"' ∉ cs.takeWhile isJsSpace := by
    intro cs hquote
    have hjs := List.mem_takeWhile_imp hquote
    revert hjs
    decide
  rw [separatorAt] at h
  split at h
  · next more heq =>
    obtain ⟨rfl, rfl⟩ := Prod.mk.inj (Option.some.inj h)
    constructor
    · rw [List.append_assoc, List.cons_append, List.takeWhile_append_dropWhile, ← heq,
        List.takeWhile_append_dropWhile]
    · intro hquote
      obtain hquote | hquote := List.mem_append.mp hquote
      · exact hspace cs hquote
      · obtain hcolon | hquote := List.mem_cons.mp hquote
        · exact absurd hcolon (by decide)
        · exact hspace more hquote
  · cases h

theorem digitsAt_eq {cs digits : List Char} (h : digitsAt cs = some digits) :
    cs = digits ++ cs.drop digits.length := by
  rw [digitsAt] at h
  split_ifs at h
  obtain rfl := Option.some.inj h
  have hprefix : cs.takeWhile isDigit <+: cs := List.takeWhile_prefix isDigit
  exact (List.prefix_iff_eq_append.mp hprefix).symm

theorem literalAt_eq {cs literal : List Char} (h : literalAt cs = some literal) :
    cs = literal ++ cs.drop literal.length := by
  rw [literalAt.eq_def] at h
  split at h
  · next cs =>
    obtain ⟨digits, hdigits, rfl⟩ := Option.map_eq_some_iff.mp h
    exact congrArg ('-' :: ·) (digitsAt_eq hdigits)
  · exact digitsAt_eq h

/-- What becomes of the text where a literal may stand behind a guarded key. -/
def protectLiteral (cs : List Char) : List Char :=
  match literalAt cs with
  | none => protect cs
  | some literal => '"' :: (literal ++ '"' :: protect (cs.drop literal.length))

/-- What becomes of the text behind the closing quote of a guarded key. -/
def protectBehind (cs : List Char) : List Char :=
  match separatorAt cs with
  | none => protect cs
  | some (separator, rest) => separator ++ protectLiteral rest

/-- The text behind a name that no literal follows stays as it is. -/
theorem protectBehind_of_none {cs : List Char}
    (h : (separatorAt cs).bind (fun (_, rest) => literalAt rest) = none) :
    protectBehind cs = protect cs := by
  rw [protectBehind]
  cases hseparator : separatorAt cs with
  | none => rfl
  | some parts =>
    obtain ⟨separator, rest⟩ := parts
    rw [hseparator] at h
    have hliteral : literalAt rest = none := h
    obtain ⟨hcs, hquotes⟩ := separatorAt_eq hseparator
    show separator ++ protectLiteral rest = _
    rw [protectLiteral, hliteral, hcs, protect_append hquotes]

theorem protect_name {s : StringToken} (hname : isName s = true) {rest : List Char}
    (hrest : nameAt rest = none) :
    protect ('"' :: (s.text ++ '"' :: rest)) = '"' :: (s.text ++ '"' :: protectBehind rest) := by
  have hat : nameAt (s.text ++ '"' :: rest) = some (s.text ++ ['"'], rest) := by
    rw [nameAt_string, if_pos hname]
  have hclosing : protect ('"' :: rest) = '"' :: protect rest := by
    apply replaceAll_cons
    rw [replaceHeight, matchHeight, hrest]
    rfl
  cases hfound : (separatorAt rest).bind (fun (_, rest) => literalAt rest) with
  | none =>
    have hnone : replaceHeight ('"' :: (s.text ++ '"' :: rest)) = none := by
      rw [replaceHeight, matchHeight, hat]
      cases hseparator : separatorAt rest with
      | none => simp [hseparator]
      | some parts =>
        rw [hseparator] at hfound
        have hliteral : literalAt parts.2 = none := hfound
        simp [hseparator, hliteral]
    have hquotes : '"' ∉ s.text := fun hquote => (plain_of_isName hname _ hquote).1 rfl
    rw [protectBehind_of_none hfound, ← hclosing, ← protect_append hquotes]
    exact replaceAll_cons hnone
  | some literal =>
    obtain ⟨⟨separator, more⟩, hseparator, hliteral⟩ := Option.bind_eq_some_iff.mp hfound
    obtain ⟨hcs, -⟩ := separatorAt_eq hseparator
    have hmore := literalAt_eq hliteral
    have hfind : replaceHeight ('"' :: (s.text ++ '"' :: rest)) =
        some ('"' :: (s.text ++ '"' :: (separator ++ '"' :: (literal ++ ['"']))),
          (s.text ++ '"' :: (separator ++ literal)).length + 1) := by
      rw [replaceHeight, matchHeight, hat]
      simp [hseparator, hliteral]
      omega
    have hmatched : '"' :: (s.text ++ '"' :: rest) =
        '"' :: ((s.text ++ '"' :: (separator ++ literal)) ++ more.drop literal.length) := by
      rw [hcs]
      nth_rewrite 1 [hmore]
      simp
    have hreplaced := replaceAll_match hmatched hfind
    rw [protectBehind, hseparator]
    simp only [protectLiteral, hliteral]
    rw [protect, hreplaced]
    simp [protect]

/-- An opening quote that begins no name, and one inside a string. -/
theorem protect_quote {s : StringToken} (hname : isName s = false) (rest : List Char) :
    protect ('"' :: (s.text ++ '"' :: rest)) = '"' :: protect (s.text ++ '"' :: rest) := by
  apply replaceAll_cons
  rw [replaceHeight, matchHeight, nameAt_string, hname]
  rfl

theorem hexDigit_ne {c : Char} (h : (hexDigit c).isSome = true) : c ≠ '"' := by
  intro heq
  rw [heq] at h
  revert h
  decide

theorem hex4_ne {a b c d : Char} (h : (hex4 a b c d).isSome = true) :
    a ≠ '"' ∧ b ≠ '"' ∧ c ≠ '"' ∧ d ≠ '"' := by
  rw [hex4] at h
  simp only [Option.bind_eq_bind, Option.isSome_bind, Option.any_eq_true, Option.pure_def] at h
  obtain ⟨va, ha, vb, hb, vc, hc, vd, hd, -⟩ := h
  exact ⟨hexDigit_ne (Option.isSome_of_mem ha), hexDigit_ne (Option.isSome_of_mem hb),
    hexDigit_ne (Option.isSome_of_mem hc), hexDigit_ne (Option.isSome_of_mem hd)⟩

/-- The rest of a string from one of its items on. -/
theorem protect_items (items : List StringItem) {rest : List Char} (hrest : nameAt rest = none) :
    protect (StringToken.text ⟨items⟩ ++ '"' :: rest) = StringToken.text ⟨items⟩ ++
      '"' :: (if itemsGuarded items then protectBehind rest else protect rest) := by
  induction items with
  | nil =>
    have hclosing : replaceHeight ('"' :: rest) = none := by
      rw [replaceHeight, matchHeight, hrest]
      rfl
    exact replaceAll_cons hclosing
  | cons item items ih =>
    rw [StringToken.text_cons, List.append_assoc, List.append_assoc]
    match item with
    | .plain c =>
      have hquotes : '"' ∉ (StringItem.plain c).text :=
        fun hquote => c.2.1 (List.mem_singleton.mp hquote).symm
      rw [protect_append hquotes, ih]
      rfl
    | .unicode ⟨(a, b, c, d), hhex⟩ =>
      obtain ⟨ha, hb, hc, hd⟩ := hex4_ne hhex
      have hquotes : '"' ∉ (StringItem.unicode ⟨(a, b, c, d), hhex⟩).text := by
        simp [StringItem.text, ha.symm, hb.symm, hc.symm, hd.symm]
      rw [protect_append hquotes, ih]
      rfl
    | .escaped ⟨e, he⟩ =>
      show protect ('\\' :: e :: (StringToken.text ⟨items⟩ ++ '"' :: rest)) = '\\' :: e :: _
      rw [protect_cons (by decide)]
      by_cases hquote : e = '"'
      · subst hquote
        rw [itemsGuarded]
        cases hname : isName ⟨items⟩ with
        | true =>
          rw [protect_name hname hrest]
          simp
        | false =>
          rw [protect_quote hname, ih]
          simp
      · rw [protect_cons hquote, ih, itemsGuarded]
        simp [hquote]

/-- A string between its quotes stays as it is. What becomes of the text behind it depends on the
string. -/
theorem protect_string (s : StringToken) {rest : List Char} (hrest : nameAt rest = none) :
    protect ('"' :: (s.text ++ '"' :: rest)) =
      '"' :: (s.text ++ '"' :: (if guarded s then protectBehind rest else protect rest)) := by
  cases hname : isName s with
  | true =>
    rw [protect_name hname hrest, guarded, hname]
    rfl
  | false =>
    rw [protect_quote hname, guarded, hname]
    exact congrArg ('"' :: ·) (protect_items s.items hrest)

theorem isJsSpace_of_isSpace {c : Char} (h : isSpace c = true) : isJsSpace c = true := by
  obtain rfl | rfl | rfl | rfl := cases_of_isSpace h
  all_goals decide

theorem dropWhile_space (space : Space) (rest : List Char) :
    (space.1 ++ rest).dropWhile isJsSpace = rest.dropWhile isJsSpace :=
  List.dropWhile_append_of_pos fun c hc => isJsSpace_of_isSpace (space.2 c hc)

theorem takeWhile_space (space : Space) (rest : List Char) :
    (space.1 ++ rest).takeWhile isJsSpace = space.1 ++ rest.takeWhile isJsSpace :=
  List.takeWhile_append_of_pos fun c hc => isJsSpace_of_isSpace (space.2 c hc)

/-- The separator ends where no more white space follows. -/
theorem separatorAt_key (beforeColon afterColon : Space) {c : Char} (hc : isJsSpace c = false)
    (cs : List Char) :
    separatorAt (beforeColon.1 ++ ':' :: (afterColon.1 ++ c :: cs)) =
      some (beforeColon.1 ++ ':' :: afterColon.1, c :: cs) := by
  have hcolon : isJsSpace ':' = false := by decide
  have htake : (afterColon.1 ++ c :: cs).takeWhile isJsSpace = afterColon.1 := by
    rw [takeWhile_space, List.takeWhile_cons_of_neg (by simp [hc]), List.append_nil]
  have hdrop : (afterColon.1 ++ c :: cs).dropWhile isJsSpace = c :: cs := by
    rw [dropWhile_space, List.dropWhile_cons_of_neg (by simp [hc])]
  rw [separatorAt, dropWhile_space, List.dropWhile_cons_of_neg (by simp [hcolon])]
  simp only
  rw [takeWhile_space, List.takeWhile_cons_of_neg (by simp [hcolon]), htake, hdrop,
    List.append_nil]

/-- No colon stands behind a value. -/
theorem separatorAt_ends {rest : List Char} (h : Ends rest) : separatorAt rest = none := by
  have hdrop : rest.dropWhile isJsSpace = skipSpace rest := by
    obtain ⟨space, hspace⟩ := exists_space rest
    nth_rewrite 1 [hspace]
    rw [dropWhile_space]
    obtain hnil | ⟨c, cs, hcons, hc⟩ := h
    · rw [hnil]
      rfl
    · have hjs : isJsSpace c = false := by
        obtain rfl | rfl | rfl := hc
        all_goals decide
      rw [hcons, List.dropWhile_cons_of_neg (by simp [hjs])]
  rw [separatorAt, hdrop]
  obtain hnil | ⟨c, cs, hcons, hc⟩ := h
  · rw [hnil]
  · rw [hcons]
    split
    · next heq =>
      have hcolon : c = ':' := (List.cons.inj heq).1
      have hnone : ¬ (':' = ',' ∨ ':' = ']' ∨ ':' = '}') := by decide
      rw [hcolon] at hc
      exact absurd hc hnone
    · rfl

/-- No name begins with a character that may follow a string. -/
theorem nameAt_of_head {rest : List Char} (h : ∀ c ∈ rest.head?, c ≠ 'f' ∧ c ≠ 'a') :
    nameAt rest = none := by
  cases rest with
  | nil => decide
  | cons c cs =>
    obtain ⟨hf, ha⟩ := h c rfl
    have hf' : 'f' ≠ c := fun heq => hf heq.symm
    have ha' : 'a' ≠ c := fun heq => ha heq.symm
    have hfinalized : finalizedHeight = 'f' :: finalizedHeight.tail := by decide
    have hadmission : admissionHeight = 'a' :: admissionHeight.tail := by decide
    rw [nameAt, hfinalized, hadmission, List.cons_append, List.cons_append, dropWord, dropWord,
      if_neg hf', if_neg ha']
    rfl

end TradingSdk.TriggerHeights
