import Mathlib
import TradingSdk.Lib.Except

namespace TradingSdk.Js

def fieldOverrides : List (String × String) :=
  [("min30dVolumeMicroUsdc", "min_30d_volume_micro_usdc")]

def isLowerOrDigit (c : Char) : Bool := c.isLower || c.isDigit

def camelStep (c : Char) : List Char := if c.isUpper then ['_', c.toLower] else [c.toLower]

def camelToSnake (key : String) : String := String.ofList (key.toList.flatMap camelStep)

/-- The Rust name of a TypeScript field. -/
def toSnake (key : String) : String := (fieldOverrides.lookup key).getD (camelToSnake key)

def snakeToCamelChars : List Char → List Char
  | [] => []
  | [c] => [c]
  | c :: d :: rest =>
    if c = '_' ∧ isLowerOrDigit d then d.toUpper :: snakeToCamelChars rest
    else c :: snakeToCamelChars (d :: rest)

/-- The TypeScript name of a Rust field. -/
def snakeToCamel (key : String) : String :=
  ((fieldOverrides.map Prod.swap).lookup key).getD (String.ofList (snakeToCamelChars key.toList))

example : toSnake "maxFundingRateBps" = "max_funding_rate_bps" := by decide
example : snakeToCamel "min_30d_volume_micro_usdc" = "min30dVolumeMicroUsdc" := by decide

theorem isLower_iff {c : Char} : c.isLower = true ↔ 97 ≤ c.toNat ∧ c.toNat ≤ 122 := by
  simp [Char.isLower, UInt32.le_iff_toNat_le, ← Char.toNat_val]

theorem isUpper_iff {c : Char} : c.isUpper = true ↔ 65 ≤ c.toNat ∧ c.toNat ≤ 90 := by
  simp [Char.isUpper, UInt32.le_iff_toNat_le, ← Char.toNat_val]

theorem isDigit_iff {c : Char} : c.isDigit = true ↔ 48 ≤ c.toNat ∧ c.toNat ≤ 57 := by
  simp [Char.isDigit, UInt32.le_iff_toNat_le, ← Char.toNat_val]

theorem toLower_of_not_isUpper {c : Char} (h : ¬ c.isUpper = true) : c.toLower = c := by
  have hn : ¬ (c.val ≥ 'A'.val ∧ c.val ≤ 'Z'.val) := by
    simpa [Char.isUpper] using h
  rw [Char.toLower, dif_neg hn]

theorem not_isUpper_of_isLowerOrDigit {c : Char} (h : isLowerOrDigit c = true) :
    ¬ c.isUpper = true := by
  rw [isLowerOrDigit, Bool.or_eq_true, isLower_iff, isDigit_iff] at h
  rw [isUpper_iff]
  omega

theorem toUpper_ofNat : ∀ n < 26, (Char.ofNat (97 + n)).toUpper.isUpper = true ∧
    (Char.ofNat (97 + n)).toUpper.toLower = Char.ofNat (97 + n) := by
  decide

theorem toUpper_of_isLower {c : Char} (h : c.isLower = true) :
    c.toUpper.isUpper = true ∧ c.toUpper.toLower = c := by
  have hb := isLower_iff.mp h
  have hc : c = Char.ofNat (97 + (c.toNat - 97)) := by
    rw [Nat.add_sub_cancel' hb.1, Char.ofNat_toNat]
  rw [hc]
  exact toUpper_ofNat (c.toNat - 97) (by omega)

theorem camelStep_of_isLowerOrDigit {c : Char} (h : isLowerOrDigit c = true) : camelStep c = [c] := by
  have hu := not_isUpper_of_isLowerOrDigit h
  rw [camelStep, if_neg hu, toLower_of_not_isUpper hu]

theorem camelStep_toUpper {c : Char} (h : c.isLower = true) : camelStep c.toUpper = ['_', c] := by
  obtain ⟨hu, hl⟩ := toUpper_of_isLower h
  rw [camelStep, if_pos hu, hl]

/-- Lower-case letters and digits, with a letter after every underscore. -/
def isSnakeChars : List Char → Bool
  | [] => true
  | [c] => isLowerOrDigit c
  | c :: d :: rest =>
    if c = '_' then d.isLower && isSnakeChars rest
    else isLowerOrDigit c && isSnakeChars (d :: rest)

theorem flatMap_snakeToCamelChars (l : List Char) (h : isSnakeChars l = true) :
    (snakeToCamelChars l).flatMap camelStep = l := by
  induction l using snakeToCamelChars.induct with
  | case1 => rfl
  | case2 c =>
    rw [isSnakeChars] at h
    simp [snakeToCamelChars, camelStep_of_isLowerOrDigit h]
  | case3 c d rest hc ih =>
    obtain ⟨rfl, hd⟩ := hc
    simp only [isSnakeChars, if_true, Bool.and_eq_true] at h
    rw [snakeToCamelChars, if_pos ⟨rfl, hd⟩, List.flatMap_cons, camelStep_toUpper h.1, ih h.2]
    rfl
  | case4 c d rest hc ih =>
    have hne : ¬ c = '_' := by
      rintro rfl
      simp only [isSnakeChars, if_true, Bool.and_eq_true] at h
      exact hc ⟨rfl, by simp [isLowerOrDigit, h.1]⟩
    simp only [isSnakeChars, if_neg hne, Bool.and_eq_true] at h
    rw [snakeToCamelChars, if_neg hc, List.flatMap_cons, camelStep_of_isLowerOrDigit h.1, ih h.2]
    rfl

/-- A Rust field name that the renaming to TypeScript and back preserves. -/
def nameOk (name : String) : Bool :=
  ((fieldOverrides.map Prod.swap).lookup name).isSome ||
    isSnakeChars name.toList && (fieldOverrides.lookup (snakeToCamel name)).isNone

theorem toSnake_override : ∀ p ∈ fieldOverrides, toSnake p.1 = p.2 := by decide

theorem toSnake_snakeToCamel {name : String} (h : nameOk name = true) :
    toSnake (snakeToCamel name) = name := by
  rw [nameOk, Bool.or_eq_true] at h
  cases hl : (fieldOverrides.map Prod.swap).lookup name with
  | some camel =>
    obtain ⟨p, hp, hswap⟩ := List.mem_map.mp (mem_of_lookup hl)
    obtain ⟨rfl, rfl⟩ := Prod.mk.inj hswap
    rw [snakeToCamel, hl]
    exact toSnake_override p hp
  | none =>
    rw [hl] at h
    simp only [Option.isSome_none, Bool.false_eq_true, false_or, Bool.and_eq_true,
      Option.isNone_iff_eq_none] at h
    have hcamel : snakeToCamel name = String.ofList (snakeToCamelChars name.toList) := by
      rw [snakeToCamel, hl, Option.getD_none]
    rw [toSnake, h.2, Option.getD_none, hcamel, camelToSnake, String.toList_ofList,
      flatMap_snakeToCamelChars _ h.1, String.ofList_toList]

end TradingSdk.Js
