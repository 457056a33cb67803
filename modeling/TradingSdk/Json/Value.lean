import Mathlib.Data.Nat.Digits.Defs
import TradingSdk.Json.Double

namespace TradingSdk.Json

/-- Code points. A text out of a JSON escape may hold lone surrogates. -/
abbrev Text := List Nat

def text (s : String) : Text := s.toList.map Char.toNat

def ofDecimal (digits : List Nat) : Nat := digits.foldl (fun n d => 10 * n + d) 0

/-- A number as it is written. The exponent comes with its sign. -/
structure Number where
  negative : Bool
  digits : List Nat
  fraction : Option (List Nat)
  exponent : Option (Bool × List Nat)
  deriving DecidableEq

def Number.isInteger (n : Number) : Bool := n.fraction.isNone && n.exponent.isNone

/-- The value of an integer literal. -/
def Number.toInt (n : Number) : Int :=
  if n.negative then -(ofDecimal n.digits : Int) else ofDecimal n.digits

def Number.toRat (n : Number) : ℚ :=
  let fraction := n.fraction.getD []
  let scale : Int := match n.exponent with
    | none => 0
    | some (false, digits) => ofDecimal digits
    | some (true, digits) => -(ofDecimal digits : Int)
  let magnitude : ℚ := ofDecimal (n.digits ++ fraction) * (10 : ℚ)^(scale - fraction.length)
  if n.negative then -magnitude else magnitude

/-- The double a number literal stands for. -/
def Number.toDouble (n : Number) : Double := .ofRat n.toRat

theorem Number.toRat_of_isInteger {n : Number} (h : n.isInteger = true) : n.toRat = n.toInt := by
  obtain ⟨negative, digits, fraction, exponent⟩ := n
  rw [isInteger, Bool.and_eq_true, Option.isNone_iff_eq_none, Option.isNone_iff_eq_none] at h
  obtain ⟨rfl, rfl⟩ := h
  cases negative <;> simp [toRat, toInt]

theorem Number.toDouble_of_isInteger {n : Number} (h : n.isInteger = true) (hlo : 0 ≤ n.toInt)
    (hhi : n.toInt < 2^53) : n.toDouble = .finite n.toInt := by
  obtain ⟨k, hk⟩ := Int.eq_ofNat_of_zero_le hlo
  rw [hk] at hhi ⊢
  rw [toDouble, toRat_of_isInteger h, hk]
  exact Double.ofRat_natCast (by exact_mod_cast hhi)

theorem Number.toDouble_ne_zero {n : Number} (h : n.isInteger = true) (hne : n.toInt ≠ 0) :
    n.toDouble ≠ .finite 0 := by
  apply Double.ofRat_ne_zero
  rw [toRat_of_isInteger h]
  exact_mod_cast Int.one_le_abs hne

/-- The decimal digits of a number, the first one in front. -/
def decimal (n : Nat) : List Nat := if n = 0 then [0] else (Nat.digits 10 n).reverse

theorem ofDecimal_reverse (digits : List Nat) :
    ofDecimal digits.reverse = Nat.ofDigits 10 digits := by
  induction digits with
  | nil => rfl
  | cons d digits ih =>
    have hfold : ofDecimal (d :: digits).reverse = 10 * ofDecimal digits.reverse + d := by
      simp [ofDecimal]
    rw [hfold, ih, Nat.ofDigits_cons, Nat.add_comm]

theorem ofDecimal_decimal (n : Nat) : ofDecimal (decimal n) = n := by
  rw [decimal]
  split_ifs with hzero
  · rw [hzero]
    rfl
  · rw [ofDecimal_reverse, Nat.ofDigits_digits]

/-- An integer as it is written. -/
def Number.ofInt (n : Int) : Number := ⟨decide (n < 0), decimal n.natAbs, none, none⟩

theorem Number.isInteger_ofInt (n : Int) : (Number.ofInt n).isInteger = true := rfl

theorem Number.toInt_ofInt (n : Int) : (Number.ofInt n).toInt = n := by
  simp only [toInt, ofInt, ofDecimal_decimal, decide_eq_true_eq]
  split_ifs <;> omega

theorem Number.toDouble_ofInt (n : Int) : (Number.ofInt n).toDouble = .ofRat n := by
  rw [toDouble, toRat_of_isInteger (isInteger_ofInt n), toInt_ofInt]

/-- The constants that some readers admit as numbers. -/
inductive Constant where
  | nan
  | infinity
  | negativeInfinity
  deriving DecidableEq

/-- A JSON value as written: members in order, also those that a later one of the same name
replaces. -/
inductive Value where
  | null
  | bool (b : Bool)
  | number (n : Number)
  | constant (c : Constant)
  | string (s : Text)
  | array (items : List Value)
  | object (members : List (Text × Value))

mutual
/-- Whether a constant occurs anywhere, a replaced member included. -/
def Value.hasConstant : Value → Bool
  | .constant _ => true
  | .array items => itemsHaveConstant items
  | .object members => membersHaveConstant members
  | _ => false
def itemsHaveConstant : List Value → Bool
  | [] => false
  | v :: vs => v.hasConstant || itemsHaveConstant vs
def membersHaveConstant : List (Text × Value) → Bool
  | [] => false
  | (_, v) :: rest => v.hasConstant || membersHaveConstant rest
end

abbrev Members := List (Text × Value)

/-- The value under a name. The last one of several counts. -/
def Members.get (members : Members) (name : String) : Option Value :=
  List.lookup (text name) members.reverse

/-- `json?.name` of a value that came out of JSON. -/
def Value.get (v : Value) (name : String) : Option Value :=
  match v with
  | .object members => Members.get members name
  | _ => none

end TradingSdk.Json
