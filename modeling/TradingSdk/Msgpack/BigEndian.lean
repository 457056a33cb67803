import Mathlib.Data.Nat.ModEq
import Mathlib.Tactic.Ring
import Mathlib.Tactic.Linarith

namespace TradingSdk.Msgpack

/-- The low `k` bytes of `n`, most significant byte first. -/
def beBytes : Nat → Nat → List UInt8
  | 0, _ => []
  | k + 1, n => UInt8.ofNat (n / 256^k) :: beBytes k n

/-- The number that a byte list spells, most significant byte first. -/
def beNat : List UInt8 → Nat
  | [] => 0
  | b :: bs => b.toNat * 256^bs.length + beNat bs

@[simp] theorem beBytes_length (k n : Nat) : (beBytes k n).length = k := by
  induction k with
  | zero => rfl
  | succ k ih => simp [beBytes, ih]

theorem beNat_lt (bs : List UInt8) : beNat bs < 256^bs.length := by
  induction bs with
  | nil => simp [beNat]
  | cons b bs ih =>
    have hb : b.toNat + 1 ≤ 256 := b.toNat_lt
    have hm := Nat.mul_le_mul_right (256^bs.length) hb
    simp only [beNat, List.length_cons, pow_succ]
    linarith

/-- Writing keeps exactly the low `8k` bits. -/
theorem beNat_beBytes_mod (k n : Nat) : beNat (beBytes k n) = n % 256^k := by
  induction k with
  | zero => simp [beBytes, beNat, Nat.mod_one]
  | succ k ih =>
    have byte : (UInt8.ofNat (n / 256^k)).toNat = n / 256^k % 256 := UInt8.toNat_ofNat'
    rw [beBytes, beNat, beBytes_length, ih, byte, pow_succ, Nat.mod_mul]
    ring

theorem beNat_beBytes (k n : Nat) (h : n < 256^k) : beNat (beBytes k n) = n := by
  rw [beNat_beBytes_mod, Nat.mod_eq_of_lt h]

theorem beBytes_inj (k m n : Nat) (hm : m < 256^k) (hn : n < 256^k)
    (h : beBytes k m = beBytes k n) : m = n := by
  rw [← beNat_beBytes k m hm, ← beNat_beBytes k n hn, h]

/-- Byte lists of one length are told apart by their numbers. -/
theorem beNat_inj {bs cs : List UInt8} (hlen : bs.length = cs.length)
    (h : beNat bs = beNat cs) : bs = cs := by
  induction bs generalizing cs with
  | nil => exact (List.length_eq_zero_iff.mp hlen.symm).symm
  | cons b bs ih =>
    cases cs with
    | nil => cases hlen
    | cons c cs =>
      have hlen' : bs.length = cs.length := Nat.succ.inj hlen
      have hb := beNat_lt bs
      have hc := beNat_lt cs
      have hpos : 0 < 256^cs.length := Nat.pow_pos (by norm_num)
      rw [hlen'] at hb
      rw [beNat, beNat, hlen', Nat.mul_comm, Nat.mul_comm c.toNat] at h
      have hdiv := congrArg (· / 256^cs.length) h
      have hmod := congrArg (· % 256^cs.length) h
      simp only [Nat.mul_add_div hpos, Nat.div_eq_of_lt hb, Nat.div_eq_of_lt hc, Nat.add_zero] at hdiv
      simp only [Nat.mul_add_mod, Nat.mod_eq_of_lt hb, Nat.mod_eq_of_lt hc] at hmod
      rw [UInt8.toNat_inj.mp hdiv, ih hlen' hmod]

/-- Reading a field and writing it again changes nothing. -/
theorem beBytes_beNat (bs : List UInt8) : beBytes bs.length (beNat bs) = bs :=
  beNat_inj (beBytes_length _ _) (beNat_beBytes _ _ (beNat_lt bs))

/-- A field in front determines its number and what follows it. -/
theorem beBytes_append_inj {k m n : Nat} {rest rest' : List UInt8} (hm : m < 256^k)
    (hn : n < 256^k) (h : beBytes k m ++ rest = beBytes k n ++ rest') : m = n ∧ rest = rest' := by
  obtain ⟨hfield, hrest⟩ := List.append_inj h (by simp)
  exact ⟨beBytes_inj k m n hm hn hfield, hrest⟩

/-- Split `k` bytes off the front. -/
def takeBytes (k : Nat) (bs : List UInt8) : Option (List UInt8 × List UInt8) :=
  if k ≤ bs.length then some (bs.take k, bs.drop k) else none

theorem takeBytes_append (bs rest : List UInt8) :
    takeBytes bs.length (bs ++ rest) = some (bs, rest) := by
  simp [takeBytes]

theorem takeBytes_append' (k : Nat) (bs rest : List UInt8) (h : bs.length = k) :
    takeBytes k (bs ++ rest) = some (bs, rest) := by
  rw [← h, takeBytes_append]

theorem takeBytes_eq_some {k : Nat} {bs front rest : List UInt8}
    (h : takeBytes k bs = some (front, rest)) : bs = front ++ rest ∧ front.length = k := by
  unfold takeBytes at h
  split at h
  · next hk =>
    obtain ⟨rfl, rfl⟩ := Prod.mk.inj (Option.some.inj h)
    exact ⟨(List.take_append_drop k bs).symm, by simp [hk]⟩
  · cases h

/-- Read a `k`-byte big-endian number off the front. -/
def takeNat (k : Nat) (bs : List UInt8) : Option (Nat × List UInt8) :=
  (takeBytes k bs).map fun (front, rest) => (beNat front, rest)

theorem takeNat_eq_some {k n : Nat} {bs rest : List UInt8} (h : takeNat k bs = some (n, rest)) :
    bs = beBytes k n ++ rest := by
  obtain ⟨⟨front, rest'⟩, hfront, hpair⟩ := Option.map_eq_some_iff.mp h
  obtain ⟨rfl, rfl⟩ := Prod.mk.inj hpair
  obtain ⟨rfl, rfl⟩ := takeBytes_eq_some hfront
  rw [beBytes_beNat]

theorem takeNat_beBytes (k n : Nat) (rest : List UInt8) (h : n < 256^k) :
    takeNat k (beBytes k n ++ rest) = some (n, rest) := by
  simp [takeNat, takeBytes_append' k _ rest (beBytes_length k n), beNat_beBytes k n h]

end TradingSdk.Msgpack
