import Mathlib.Data.Int.Log
import Mathlib.Data.Rat.Floor

namespace TradingSdk.Json

/-- A binary64 number other than NaN. The two zeros are one value here. -/
inductive Double where
  | finite (q : ℚ)
  | infinite (negative : Bool)
  deriving DecidableEq

/-- The nearest integer, ties to even. -/
def roundEven (q : ℚ) : ℤ :=
  let low := ⌊q⌋
  let rest := q - low
  if rest < 1/2 then low
  else if 1/2 < rest then low + 1
  else if low % 2 = 0 then low
  else low + 1

/-- The exponent of the last place: 53 significant bits, and nothing below the least subnormal. -/
def lastPlace (q : ℚ) : ℤ := max (Int.log 2 q - 52) (-1074)

/-- Round to nearest, ties to even. From 2^1024 on the result is infinite. -/
def Double.ofRat (q : ℚ) : Double :=
  let place : ℚ := 2^(lastPlace |q|)
  let rounded := roundEven (|q| / place) * place
  if 2^1024 ≤ rounded then .infinite (decide (q < 0))
  else .finite (if q < 0 then -rounded else rounded)

theorem roundEven_intCast (z : ℤ) : roundEven z = z := by
  simp [roundEven]

theorem le_roundEven {n : ℤ} {q : ℚ} (h : (n : ℚ) ≤ q) : n ≤ roundEven q := by
  have hfloor : n ≤ ⌊q⌋ := Int.le_floor.mpr h
  simp only [roundEven]
  split_ifs <;> omega

theorem two_zpow_pos (e : ℤ) : (0 : ℚ) < 2^e := zpow_pos (by norm_num) e

theorem rounded_nonneg (q : ℚ) :
    (0 : ℚ) ≤ roundEven (|q| / 2^(lastPlace |q|)) * 2^(lastPlace |q|) := by
  have hround : 0 ≤ roundEven (|q| / 2^(lastPlace |q|)) := by
    apply le_roundEven
    rw [Int.cast_zero]
    exact div_nonneg (abs_nonneg q) (two_zpow_pos _).le
  exact mul_nonneg (by exact_mod_cast hround) (two_zpow_pos _).le

theorem Double.ofRat_nonneg {q r : ℚ} (hq : 0 ≤ q) (h : Double.ofRat q = .finite r) : 0 ≤ r := by
  simp only [Double.ofRat] at h
  split_ifs at h with hbig hneg
  · exact absurd hneg (not_lt.mpr hq)
  · rw [← Double.finite.inj h]
    exact rounded_nonneg q

theorem Double.ofRat_nonpos {q r : ℚ} (hq : q < 0) (h : Double.ofRat q = .finite r) : r ≤ 0 := by
  simp only [Double.ofRat] at h
  rw [if_pos hq] at h
  split_ifs at h with hbig
  rw [← Double.finite.inj h]
  exact neg_nonpos.mpr (rounded_nonneg q)

/-- A number that is whole in its last place is not rounded. -/
theorem Double.ofRat_of_whole {q : ℚ} {m : ℤ} (hm : |q| = m * 2^(lastPlace |q|))
    (hq : |q| < 2^1024) : Double.ofRat q = .finite q := by
  have hquot : |q| / 2^(lastPlace |q|) = m := by
    rw [div_eq_iff (two_zpow_pos _).ne']
    exact hm
  have hround : (roundEven (|q| / 2^(lastPlace |q|)) : ℚ) * 2^(lastPlace |q|) = |q| := by
    rw [hquot, roundEven_intCast, ← hm]
  simp only [Double.ofRat, hround]
  rw [if_neg (not_le.mpr hq)]
  congr 1
  split_ifs with hneg
  · rw [abs_of_neg hneg, neg_neg]
  · exact abs_of_nonneg (not_lt.mp hneg)

theorem lastPlace_nonpos {n : ℕ} (h : n < 2^53) : lastPlace n ≤ 0 := by
  have hlog : Nat.log 2 n ≤ 52 := Nat.lt_succ_iff.mp (Nat.log_lt_of_lt_pow' (by norm_num) h)
  rw [lastPlace, Int.log_natCast]
  omega

/-- The integers of 53 bits are doubles. -/
theorem Double.ofRat_natCast {n : ℕ} (h : n < 2^53) : Double.ofRat n = .finite n := by
  obtain ⟨k, hk⟩ := Int.eq_ofNat_of_zero_le (neg_nonneg.mpr (lastPlace_nonpos h))
  have hplace : lastPlace (n : ℚ) = -(k : ℤ) := by omega
  have habs : |(n : ℚ)| = n := abs_of_nonneg (Nat.cast_nonneg n)
  have hbound : (n : ℚ) < 2^1024 := by
    have hcast : (n : ℚ) < 2^53 := by exact_mod_cast h
    exact hcast.trans (pow_lt_pow_right₀ (by norm_num) (by norm_num))
  apply Double.ofRat_of_whole (m := n * 2^k)
  · rw [habs, hplace, zpow_neg, zpow_natCast]
    push_cast
    rw [mul_assoc, mul_inv_cancel₀ (by positivity), mul_one]
  · rwa [habs]

/-- No number from 2^53 on is rounded below it. -/
theorem Double.le_ofRat {q r : ℚ} (hq : 2^53 ≤ q) (h : Double.ofRat q = .finite r) : 2^53 ≤ r := by
  have hpos : 0 < q := lt_of_lt_of_le (by norm_num) hq
  have habs : |q| = q := abs_of_pos hpos
  have hlog : 53 ≤ Int.log 2 q := by
    rw [← Int.zpow_le_iff_le_log (by norm_num) hpos]
    exact_mod_cast hq
  have hlast : lastPlace |q| = Int.log 2 q - 52 := by
    rw [lastPlace, habs]
    omega
  have hplace : (2 : ℚ)^52 * 2^(lastPlace |q|) = 2^(Int.log 2 q) := by
    rw [hlast, zpow_sub₀ (by norm_num), mul_div_assoc']
    exact mul_div_cancel_left₀ _ (by norm_num)
  have hround : 2^52 ≤ roundEven (|q| / 2^(lastPlace |q|)) := by
    apply le_roundEven
    have hcast : ((2^52 : ℤ) : ℚ) = 2^52 := by norm_num
    rw [le_div_iff₀ (two_zpow_pos _), hcast, hplace, habs]
    exact Int.zpow_log_le_self (by norm_num) hpos
  have hvalue : (2 : ℚ)^53 ≤ roundEven (|q| / 2^(lastPlace |q|)) * 2^(lastPlace |q|) := by
    calc (2 : ℚ)^53 ≤ 2^(Int.log 2 q) := by
          exact_mod_cast zpow_le_zpow_right₀ (by norm_num : (1 : ℚ) ≤ 2) hlog
      _ = 2^52 * 2^(lastPlace |q|) := hplace.symm
      _ ≤ roundEven (|q| / 2^(lastPlace |q|)) * 2^(lastPlace |q|) := by
          apply mul_le_mul_of_nonneg_right _ (two_zpow_pos _).le
          exact_mod_cast hround
  simp only [Double.ofRat] at h
  rw [if_neg (not_lt.mpr hpos.le)] at h
  split_ifs at h
  rw [← Double.finite.inj h]
  exact hvalue

/-- No number from 1 on rounds to zero. -/
theorem Double.ofRat_ne_zero {q : ℚ} (h : 1 ≤ |q|) : Double.ofRat q ≠ .finite 0 := by
  have hpos : 0 < |q| := lt_of_lt_of_le one_pos h
  have hlog : 0 ≤ Int.log 2 |q| := by
    rw [← Int.zpow_le_iff_le_log (by norm_num) hpos]
    simpa using h
  have hlast : lastPlace |q| ≤ Int.log 2 |q| := by
    rw [lastPlace]
    omega
  have hplace : (2 : ℚ)^(lastPlace |q|) ≤ |q| :=
    (zpow_le_zpow_right₀ (by norm_num) hlast).trans (Int.zpow_log_le_self (by norm_num) hpos)
  have hround : 1 ≤ roundEven (|q| / 2^(lastPlace |q|)) := by
    apply le_roundEven
    rw [Int.cast_one, le_div_iff₀ (two_zpow_pos _), one_mul]
    exact hplace
  have hvalue : (0 : ℚ) < roundEven (|q| / 2^(lastPlace |q|)) * 2^(lastPlace |q|) :=
    mul_pos (by exact_mod_cast hround) (two_zpow_pos _)
  simp only [Double.ofRat]
  split_ifs with hbig hneg
  · simp
  · simp only [ne_eq, Double.finite.injEq]
    linarith
  · simp only [ne_eq, Double.finite.injEq]
    exact hvalue.ne'

end TradingSdk.Json
