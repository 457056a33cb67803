import Mathlib.Data.Nat.Digits.Lemmas
import TradingSdk.Json.Value

namespace TradingSdk.Json

theorem decimal_of_lt {n : Nat} (h : n < 10) : decimal n = [n] := by
  rw [decimal]
  split_ifs with hzero
  · rw [hzero]
  · rw [Nat.digits_of_lt 10 n hzero h]
    rfl

theorem decimal_of_ge {n : Nat} (h : 10 ≤ n) : decimal n = decimal (n / 10) ++ [n % 10] := by
  have hdiv : n / 10 ≠ 0 := by omega
  rw [decimal, if_neg (by omega), decimal, if_neg hdiv, Nat.digits_def' (by omega) (by omega),
    List.reverse_cons]

theorem decimal_lt (n : Nat) : ∀ d ∈ decimal n, d < 10 := by
  intro d hd
  rw [decimal] at hd
  split_ifs at hd with hzero
  · rw [List.mem_singleton.mp hd]
    norm_num
  · exact Nat.digits_lt_base (by norm_num) (List.mem_reverse.mp hd)

theorem decimal_ne_nil (n : Nat) : decimal n ≠ [] := by
  by_cases h : n < 10
  · rw [decimal_of_lt h]
    exact List.cons_ne_nil _ _
  · rw [decimal_of_ge (by omega)]
    simp

theorem length_decimal_le {n k : Nat} (hk : 0 < k) (h : n < 10^k) : (decimal n).length ≤ k := by
  rw [decimal]
  split_ifs with hzero
  · exact hk
  · rw [List.length_reverse]
    exact (Nat.digits_length_le_iff (by norm_num) n).mpr h

theorem text_append (s t : String) : text (s ++ t) = text s ++ text t := by
  rw [text, String.toList_append, List.map_append]
  rfl

/-- A natural number as it is displayed. -/
theorem text_repr (n : Nat) : text n.repr = (decimal n).map (48 + ·) := by
  induction n using Nat.strong_induction_on with
  | _ n ih =>
    by_cases h : n < 10
    · have hdigit : ∀ d, d < 10 → text d.repr = [48 + d] := by decide
      rw [decimal_of_lt h, hdigit n h]
      rfl
    · have hge : 10 ≤ n := by omega
      rw [Nat.repr_eq_repr_append_repr hge, text_append, decimal_of_ge hge, ih (n / 10) (by omega),
        ih (n % 10) (by omega), List.map_append, decimal_of_lt (n := n % 10) (by omega)]

end TradingSdk.Json
