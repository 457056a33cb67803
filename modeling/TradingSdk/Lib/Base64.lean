import Mathlib.Data.List.Basic
import Mathlib.Tactic.NormNum

namespace TradingSdk.Base64

/-- The letter of six bits. -/
def letter (n : Nat) : Char :=
  Char.ofNat (if n < 26 then n + 65 else if n < 52 then n + 71 else if n < 62 then n - 4
    else if n = 62 then 43 else 47)

/-- The six bits of a letter. -/
def sextet (c : Char) : Option Nat :=
  if 'A' ≤ c ∧ c ≤ 'Z' then some (c.toNat - 65)
  else if 'a' ≤ c ∧ c ≤ 'z' then some (c.toNat - 71)
  else if '0' ≤ c ∧ c ≤ '9' then some (c.toNat + 4)
  else if c = '+' then some 62
  else if c = '/' then some 63
  else none

theorem sextet_letter (n : Nat) (h : n < 64) : sextet (letter n) = some n := by
  revert n
  decide

/-- Three bytes become four letters; one or two bytes left over are padded. -/
def encode : List UInt8 → List Char
  | [] => []
  | [a] => [letter (a.toNat / 4), letter (a.toNat * 16 % 64), '=', '=']
  | [a, b] =>
    [letter (a.toNat / 4), letter ((a.toNat * 256 + b.toNat) / 16 % 64),
      letter (b.toNat * 4 % 64), '=']
  | a :: b :: c :: rest =>
    letter (a.toNat / 4) :: letter ((a.toNat * 256 + b.toNat) / 16 % 64) ::
      letter ((b.toNat * 256 + c.toNat) / 64 % 64) :: letter (c.toNat % 64) :: encode rest

/-- The bytes of a run of letters. Bits left over are dropped, a single letter is no byte. -/
def bytes : List Nat → Option (List UInt8)
  | [] => some []
  | [_] => none
  | [s, t] => some [UInt8.ofNat (s * 4 + t / 16)]
  | [s, t, u] => some [UInt8.ofNat (s * 4 + t / 16), UInt8.ofNat (t * 16 + u / 4)]
  | s :: t :: u :: v :: rest =>
    (bytes rest).map ([UInt8.ofNat (s * 4 + t / 16), UInt8.ofNat (t * 16 + u / 4),
      UInt8.ofNat (u * 64 + v)] ++ ·)

/-- ASCII whitespace. -/
def isBlank (c : Char) : Bool :=
  c = '\t' || c = '\n' || c = Char.ofNat 12 || c = '\r' || c = ' '

/-- A sign of padding comes off the end. -/
def dropPad (cs : List Char) : List Char := if cs.getLast? = some '=' then cs.dropLast else cs

/-- The forgiving decoder of web browsers: blanks are skipped and padding may be missing. -/
def atob (cs : List Char) : Option (List UInt8) :=
  let dense := cs.filter fun c => !isBlank c
  let letters := if dense.length % 4 = 0 then dropPad (dropPad dense) else dense
  (letters.mapM sextet).bind bytes

/-- The decoder of Python: other characters are skipped, and a complete padding ends the text. The
letters of an open group wait in `quad`. -/
def a2bBase64 (quad : List Nat) (pads : Nat) : List Char → Option (List UInt8)
  | [] => if quad.isEmpty then some [] else none
  | c :: cs =>
    if c = '=' then
      if 2 ≤ quad.length ∧ 4 ≤ quad.length + (pads + 1) then bytes quad
      else a2bBase64 quad (if 2 ≤ quad.length then pads + 1 else pads) cs
    else
      match sextet c with
      | none => a2bBase64 quad pads cs
      | some v =>
        match quad with
        | [s, t, u] => do
          let rest ← a2bBase64 [] 0 cs
          let group ← bytes [s, t, u, v]
          return group ++ rest
        | _ => a2bBase64 (quad ++ [v]) 0 cs

theorem letter_ne_pad {n : Nat} (h : n < 64) : letter n ≠ '=' := by
  intro heq
  have hsome := sextet_letter n h
  rw [heq] at hsome
  cases hsome

theorem isBlank_letter (n : Nat) (h : n < 64) : isBlank (letter n) = false := by
  revert n
  decide

theorem byte_of_sextets (a : UInt8) {s t : Nat} (hs : s = a.toNat / 4)
    (ht : t / 16 = a.toNat % 4) : UInt8.ofNat (s * 4 + t / 16) = a := by
  have hsum : s * 4 + t / 16 = a.toNat := by omega
  rw [hsum, UInt8.ofNat_toNat]

theorem second_of_sextets (b : UInt8) {t u : Nat} (ht : t % 16 = b.toNat / 16)
    (hu : u / 4 = b.toNat % 16) : UInt8.ofNat (t * 16 + u / 4) = b := by
  have hsum : (t * 16 + u / 4) % 256 = b.toNat := by omega
  apply UInt8.toNat_inj.mp
  rw [UInt8.toNat_ofNat', hsum]

theorem third_of_sextets (c : UInt8) {u v : Nat} (hu : u % 4 = c.toNat / 64)
    (hv : v = c.toNat % 64) : UInt8.ofNat (u * 64 + v) = c := by
  have hsum : (u * 64 + v) % 256 = c.toNat := by omega
  apply UInt8.toNat_inj.mp
  rw [UInt8.toNat_ofNat', hsum]

theorem bytes_one (a : UInt8) : bytes [a.toNat / 4, a.toNat * 16 % 64] = some [a] := by
  rw [bytes, byte_of_sextets a rfl (by omega)]

theorem bytes_two (a b : UInt8) : bytes [a.toNat / 4, (a.toNat * 256 + b.toNat) / 16 % 64,
    b.toNat * 4 % 64] = some [a, b] := by
  have hb := b.toNat_lt
  rw [bytes, byte_of_sextets a rfl (by omega), second_of_sextets b (by omega) (by omega)]

theorem bytes_three (a b c : UInt8) (rest : List Nat) :
    bytes (a.toNat / 4 :: (a.toNat * 256 + b.toNat) / 16 % 64 ::
      (b.toNat * 256 + c.toNat) / 64 % 64 :: c.toNat % 64 :: rest) =
        (bytes rest).map ([a, b, c] ++ ·) := by
  have hb := b.toNat_lt
  have hc := c.toNat_lt
  rw [bytes, byte_of_sextets a rfl (by omega), second_of_sextets b (by omega) (by omega),
    third_of_sextets c (by omega) rfl]

/-- A text is letters and a padding that fills the last group. -/
structure Spells (cs : List Char) (letters : List Nat) (pads : Nat) (bs : List UInt8) : Prop where
  text : cs = letters.map letter ++ List.replicate pads '='
  sextets : ∀ s ∈ letters, s < 64
  value : bytes letters = some bs
  short : pads ≤ 2
  full : (letters.length + pads) % 4 = 0

theorem encode_spells (bs : List UInt8) : ∃ letters pads, Spells (encode bs) letters pads bs := by
  induction bs using encode.induct with
  | case1 => exact ⟨[], 0, rfl, by simp, rfl, by omega, rfl⟩
  | case2 a =>
    have ha := a.toNat_lt
    refine ⟨[a.toNat / 4, a.toNat * 16 % 64], 2, rfl, ?_, bytes_one a, by omega, by simp⟩
    simp only [List.mem_cons, List.not_mem_nil, or_false]
    omega
  | case3 a b =>
    have ha := a.toNat_lt
    refine ⟨_, 1, rfl, ?_, bytes_two a b, by omega, by simp⟩
    simp only [List.mem_cons, List.not_mem_nil, or_false]
    omega
  | case4 a b c rest ih =>
    have ha := a.toNat_lt
    obtain ⟨letters, pads, htext, hsextets, hvalue, hshort, hfull⟩ := ih
    refine ⟨a.toNat / 4 :: (a.toNat * 256 + b.toNat) / 16 % 64 ::
      (b.toNat * 256 + c.toNat) / 64 % 64 :: c.toNat % 64 :: letters, pads, ?_, ?_, ?_, hshort, ?_⟩
    · rw [encode, htext]
      rfl
    · simp only [List.mem_cons]
      rintro s (rfl | rfl | rfl | rfl | hs)
      · omega
      · omega
      · omega
      · omega
      · exact hsextets s hs
    · rw [bytes_three, hvalue]
      rfl
    · simp only [List.length_cons]
      omega

theorem mapM_sextet {letters : List Nat} (h : ∀ s ∈ letters, s < 64) :
    (letters.map letter).mapM sextet = some letters := by
  induction letters with
  | nil => rfl
  | cons s letters ih =>
    have hrest : ∀ t ∈ letters, t < 64 := fun t ht => h t (List.mem_cons_of_mem _ ht)
    rw [List.map_cons, List.mapM_cons, sextet_letter s (h s List.mem_cons_self), ih hrest]
    rfl

theorem dropPad_pad (cs : List Char) : dropPad (cs ++ ['=']) = cs := by
  rw [dropPad, List.getLast?_concat, if_pos rfl, List.dropLast_concat]

theorem dropPad_letters {letters : List Nat} (h : ∀ s ∈ letters, s < 64) :
    dropPad (letters.map letter) = letters.map letter := by
  rw [dropPad, if_neg]
  intro heq
  obtain ⟨s, hs, hpad⟩ := List.mem_map.mp (List.mem_of_getLast? heq)
  exact letter_ne_pad (h s hs) hpad

theorem dropPad_spelled {letters : List Nat} {pads : Nat} (h : ∀ s ∈ letters, s < 64)
    (hp : pads ≤ 2) :
    dropPad (dropPad (letters.map letter ++ List.replicate pads '=')) = letters.map letter := by
  obtain rfl | rfl | rfl : pads = 0 ∨ pads = 1 ∨ pads = 2 := by omega
  · rw [List.replicate_zero, List.append_nil, dropPad_letters h, dropPad_letters h]
  · rw [List.replicate_one, dropPad_pad, dropPad_letters h]
  · rw [List.replicate_succ', ← List.append_assoc, dropPad_pad, List.replicate_one, dropPad_pad]

theorem atob_encode (bs : List UInt8) : atob (encode bs) = some bs := by
  obtain ⟨letters, pads, htext, hsextets, hvalue, hshort, hfull⟩ := encode_spells bs
  have hdense : (encode bs).filter (fun c => !isBlank c) = encode bs := by
    rw [List.filter_eq_self]
    intro c hc
    rw [htext, List.mem_append] at hc
    obtain hc | hc := hc
    · obtain ⟨s, hs, rfl⟩ := List.mem_map.mp hc
      rw [isBlank_letter s (hsextets s hs)]
      rfl
    · rw [List.eq_of_mem_replicate hc]
      rfl
  have hlen : (encode bs).length % 4 = 0 := by
    rw [htext, List.length_append, List.length_map, List.length_replicate]
    exact hfull
  simp only [atob, hdense, if_pos hlen]
  rw [htext, dropPad_spelled hsextets hshort, mapM_sextet hsextets]
  exact hvalue

/-- A letter joins an open group. -/
theorem a2bBase64_letter (quad : List Nat) (pads : Nat) {s : Nat} (h : s < 64) (cs : List Char)
    (hquad : quad.length < 3) :
    a2bBase64 quad pads (letter s :: cs) = a2bBase64 (quad ++ [s]) 0 cs := by
  rw [a2bBase64, if_neg (letter_ne_pad h), sextet_letter s h]
  match quad with
  | [] => rfl
  | [_] => rfl
  | [_, _] => rfl
  | _ :: _ :: _ :: _ =>
    simp only [List.length_cons] at hquad
    omega

/-- The fourth letter closes it. -/
theorem a2bBase64_fourth (s t u : Nat) (pads : Nat) {v : Nat} (h : v < 64) (cs : List Char) :
    a2bBase64 [s, t, u] pads (letter v :: cs) = (a2bBase64 [] 0 cs).bind fun rest =>
      (bytes [s, t, u, v]).bind fun group => some (group ++ rest) := by
  rw [a2bBase64, if_neg (letter_ne_pad h), sextet_letter v h]
  rfl

theorem a2bBase64_encode (bs : List UInt8) : a2bBase64 [] 0 (encode bs) = some bs := by
  induction bs using encode.induct with
  | case1 => rfl
  | case2 a =>
    have ha := a.toNat_lt
    rw [encode, a2bBase64_letter _ _ (by omega) _ (by simp), List.nil_append,
      a2bBase64_letter _ _ (by omega) _ (by simp)]
    exact bytes_one a
  | case3 a b =>
    have ha := a.toNat_lt
    rw [encode, a2bBase64_letter _ _ (by omega) _ (by simp), List.nil_append,
      a2bBase64_letter _ _ (by omega) _ (by simp), a2bBase64_letter _ _ (by omega) _ (by simp)]
    exact bytes_two a b
  | case4 a b c rest ih =>
    have ha := a.toNat_lt
    rw [encode, a2bBase64_letter _ _ (by omega) _ (by simp), List.nil_append,
      a2bBase64_letter _ _ (by omega) _ (by simp), a2bBase64_letter _ _ (by omega) _ (by simp)]
    show a2bBase64 [_, _, _] 0 _ = _
    rw [a2bBase64_fourth _ _ _ _ (by omega), ih, Option.bind_some, bytes_three]
    rfl

end TradingSdk.Base64
