import TradingSdk.TriggerState.TypeScript
import TradingSdk.TriggerHeights.Protect

namespace TradingSdk.TriggerHeights

open Js Json

structure TriggerStatus where
  finalizedHeight : Nat
  admissionHeight : Nat
  actionsActive : Bool
  deriving DecidableEq

def u64Max : Nat := TriggerState.TypeScript.u64Max

/-- What `uint` reads out of a value that `JSON.parse` returns: a text of digits or a safe
integer. -/
def readUint : Option Value → Option Nat
  | some (.string s) =>
    let n := ofDecimal (s.map fun c => c - 48)
    if s ≠ [] ∧ s.all (fun c => 48 ≤ c && c ≤ 57) = true ∧ n ≤ u64Max then some n else none
  | some (.number n) =>
    match n.toDouble with
    | .finite q => if q.den = 1 ∧ 0 ≤ q ∧ q < 2^53 then some q.num.toNat else none
    | .infinite _ => none
  | _ => none

def uint (value : Option Value) (name : String) : Except JsError Nat :=
  match readUint value with
  | some n => .ok n
  | none => TriggerState.TypeScript.reject s!"{name} is not an exact u64"

def reject {α : Type} (message : String) : Except JsError α :=
  .error (.error ("trigger status decode: " ++ message))

/-- `typeof value === "boolean"`. -/
def readBoolean : Option Value → Option Bool
  | some (.bool b) => some b
  | _ => none

/-- The members of the object. -/
def decodeRow (row : Members) : Except JsError TriggerStatus :=
  match readBoolean (row.get "actions_active") with
  | none => reject "actions_active is not boolean"
  | some actionsActive => do
    let finalizedHeight ← uint (row.get "finalized_height") "finalized_height"
    let admissionHeight ← uint (row.get "admission_height") "admission_height"
    if admissionHeight ≠ finalizedHeight + 1 then reject "admission height is not next height"
    else return { finalizedHeight, admissionHeight, actionsActive }

def decodeTriggerStatusJson (text : List Char) : Except JsError TriggerStatus :=
  match parse .standard (protect text) with
  | .error _ => reject "malformed JSON"
  | .ok (.object row) => decodeRow row
  | .ok _ => reject "expected an object"

theorem uint_ok_iff {value : Option Value} {name : String} {n : Nat} :
    uint value name = .ok n ↔ readUint value = some n := by
  rw [uint]
  cases readUint value with
  | none => simp [TriggerState.TypeScript.reject]
  | some m => simp

theorem decodeRow_ok_iff {row : Members} {status : TriggerStatus} :
    decodeRow row = .ok status ↔
      readBoolean (row.get "actions_active") = some status.actionsActive ∧
        readUint (row.get "finalized_height") = some status.finalizedHeight ∧
        readUint (row.get "admission_height") = some status.admissionHeight ∧
        status.admissionHeight = status.finalizedHeight + 1 := by
  rw [decodeRow]
  cases hactive : readBoolean (row.get "actions_active") with
  | none => simp [reject]
  | some active =>
    simp only [bind_ok_iff, uint_ok_iff, Option.some_inj]
    constructor
    · intro h
      obtain ⟨finalized, hfinalized, admission, hadmission, h⟩ := h
      split_ifs at h with hnext
      · cases h
      · obtain rfl := pure_ok_iff.mp h
        exact ⟨rfl, hfinalized, hadmission, not_not.mp hnext⟩
    · intro h
      obtain ⟨rfl, hfinalized, hadmission, hnext⟩ := h
      refine ⟨_, hfinalized, _, hadmission, ?_⟩
      rw [if_neg (not_not.mpr hnext)]
      rfl

end TradingSdk.TriggerHeights
