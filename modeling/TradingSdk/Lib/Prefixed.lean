import TradingSdk.Msgpack.BigEndian

namespace TradingSdk

open Msgpack

/-- The low 16 bits of a number, as a `u16` cast leaves them. -/
def le16 (n : Nat) : List UInt8 := [UInt8.ofNat n, UInt8.ofNat (n / 256)]

def readLe16 : List UInt8 → Option (Nat × List UInt8)
  | lo :: hi :: rest => some (lo.toNat + 256 * hi.toNat, rest)
  | _ => none

theorem readLe16_le16 (n : Nat) (rest : List UInt8) :
    readLe16 (le16 n ++ rest) = some (n % 2^16, rest) := by
  have hlo : (UInt8.ofNat n).toNat = n % 256 := UInt8.toNat_ofNat'
  have hhi : (UInt8.ofNat (n / 256)).toNat = n / 256 % 256 := UInt8.toNat_ofNat'
  have hsum : n % 256 + 256 * (n / 256 % 256) = n % 2^16 := by omega
  show some ((UInt8.ofNat n).toNat + 256 * (UInt8.ofNat (n / 256)).toNat, rest) = _
  rw [hlo, hhi, hsum]

theorem readLe16_lt {bs rest : List UInt8} {n : Nat} (h : readLe16 bs = some (n, rest)) :
    n < 2^16 := by
  match bs, h with
  | lo :: hi :: rest, h =>
    obtain ⟨rfl, -⟩ := Prod.mk.inj (Option.some.inj h)
    have hlo := lo.toNat_lt
    have hhi := hi.toNat_lt
    omega

/-- Bytes behind their length. -/
def prefixed (bs : List UInt8) : List UInt8 := le16 bs.length ++ bs

def readPrefixed (bs : List UInt8) : Option (List UInt8 × List UInt8) :=
  (readLe16 bs).bind fun (n, rest) => takeBytes n rest

/-- What the length can announce is read back. -/
theorem readPrefixed_prefixed {bs : List UInt8} (h : bs.length < 2^16) (rest : List UInt8) :
    readPrefixed (prefixed bs ++ rest) = some (bs, rest) := by
  rw [prefixed, List.append_assoc, readPrefixed, readLe16_le16, Nat.mod_eq_of_lt h]
  exact takeBytes_append bs rest

/-- Nothing longer is ever read. -/
theorem readPrefixed_lt {bs front rest : List UInt8} (h : readPrefixed bs = some (front, rest)) :
    front.length < 2^16 := by
  obtain ⟨⟨n, rest'⟩, hn, htake⟩ := Option.bind_eq_some_iff.mp h
  rw [(takeBytes_eq_some htake).2]
  exact readLe16_lt hn

section Sequence

variable {α β : Type} {read : List UInt8 → Option (β × List UInt8)}

/-- So many values. -/
def readCount (read : List UInt8 → Option (β × List UInt8)) :
    Nat → List UInt8 → Option (List β × List UInt8)
  | 0, bs => some ([], bs)
  | n + 1, bs => do
    let (b, bs) ← read bs
    let (rest, bs) ← readCount read n bs
    return (b :: rest, bs)

/-- Values until the bytes end, within so many steps. -/
def readAll (read : List UInt8 → Option (β × List UInt8)) : Nat → List UInt8 → Option (List β)
  | _, [] => some []
  | 0, _ :: _ => none
  | n + 1, x :: xs => do
    let (b, bs) ← read (x :: xs)
    let rest ← readAll read n bs
    return b :: rest

variable {write : α → List UInt8} {f : α → β}

/-- A reader that inverts the writer in front of any bytes inverts it on lists. -/
theorem readCount_flatMap {as : List α}
    (h : ∀ a ∈ as, ∀ rest, read (write a ++ rest) = some (f a, rest)) (rest : List UInt8) :
    readCount read as.length (as.flatMap write ++ rest) = some (as.map f, rest) := by
  induction as with
  | nil => rfl
  | cons a as ih =>
    have htail := ih fun a' ha' => h a' (List.mem_cons_of_mem _ ha')
    rw [List.flatMap_cons, List.append_assoc, List.length_cons, readCount,
      h a List.mem_cons_self]
    simp only [Option.bind_eq_bind, Option.bind_some, htail]
    rfl

theorem readAll_flatMap {as : List α} (hne : ∀ a ∈ as, write a ≠ [])
    (h : ∀ a ∈ as, ∀ rest, read (write a ++ rest) = some (f a, rest)) {fuel : Nat}
    (hfuel : as.length ≤ fuel) : readAll read fuel (as.flatMap write) = some (as.map f) := by
  induction as generalizing fuel with
  | nil => cases fuel <;> rfl
  | cons a as ih =>
    obtain ⟨b, bs, hb⟩ := List.exists_cons_of_ne_nil (hne a List.mem_cons_self)
    cases fuel with
    | zero => cases hfuel
    | succ fuel =>
      have htail := ih (fun a' ha' => hne a' (List.mem_cons_of_mem _ ha'))
        (fun a' ha' => h a' (List.mem_cons_of_mem _ ha')) (Nat.le_of_succ_le_succ hfuel)
      have hhead := h a List.mem_cons_self (as.flatMap write)
      rw [hb, List.cons_append] at hhead
      rw [List.flatMap_cons, hb, List.cons_append, readAll, hhead]
      simp only [Option.bind_eq_bind, Option.bind_some, htail]
      rfl

/-- What holds of every value that is read holds of all of them. -/
theorem forall_of_readCount {P : β → Prop} (h : ∀ bs b rest, read bs = some (b, rest) → P b) {n : Nat}
    {bs rest : List UInt8} {as : List β} (hread : readCount read n bs = some (as, rest)) :
    ∀ a ∈ as, P a := by
  induction n generalizing bs rest as with
  | zero =>
    obtain ⟨rfl, -⟩ := Prod.mk.inj (Option.some.inj hread)
    simp
  | succ n ih =>
    rw [readCount] at hread
    obtain ⟨⟨b, bs'⟩, hb, hread⟩ := Option.bind_eq_some_iff.mp hread
    obtain ⟨⟨as', bs''⟩, has, hread⟩ := Option.bind_eq_some_iff.mp hread
    obtain ⟨rfl, -⟩ := Prod.mk.inj (Option.some.inj hread)
    exact List.forall_mem_cons.mpr ⟨h _ _ _ hb, ih has⟩

theorem forall_of_readAll {P : β → Prop} (h : ∀ bs b rest, read bs = some (b, rest) → P b) {n : Nat}
    {bs : List UInt8} {as : List β} (hread : readAll read n bs = some as) : ∀ a ∈ as, P a := by
  induction n generalizing bs as with
  | zero =>
    cases bs with
    | nil =>
      obtain rfl := Option.some.inj hread
      simp
    | cons => cases hread
  | succ n ih =>
    cases bs with
    | nil =>
      obtain rfl := Option.some.inj hread
      simp
    | cons x xs =>
      rw [readAll] at hread
      obtain ⟨⟨b, bs'⟩, hb, hread⟩ := Option.bind_eq_some_iff.mp hread
      obtain ⟨as', has, hread⟩ := Option.bind_eq_some_iff.mp hread
      obtain rfl := Option.some.inj hread
      exact List.forall_mem_cons.mpr ⟨h _ _ _ hb, ih has⟩

end Sequence

end TradingSdk
