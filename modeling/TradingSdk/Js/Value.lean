import Mathlib.Data.List.Nodup
import TradingSdk.Serde.Schema

namespace TradingSdk.Js

open Serde

/-- A JavaScript value as plain data. Numbers are the integers among the doubles, strings are well
formed, and objects list their own entries. -/
inductive JsVal where
  | undefined
  | null
  | bool (b : Bool)
  | number (n : Int)
  | bigint (n : Int)
  | string (s : String)
  | uint8Array (bytes : Bytes)
  | array (items : List JsVal)
  | object (entries : List (String × JsVal))

/-- `value === null || value === undefined`. -/
def JsVal.isNullish : JsVal → Bool
  | .undefined => true
  | .null => true
  | _ => false

def JsVal.isTruthy : JsVal → Bool
  | .undefined => false
  | .null => false
  | .bool b => b
  | .number n => n ≠ 0
  | .bigint n => n ≠ 0
  | .string s => s ≠ ""
  | _ => true

/-- Assignment to a key replaces its value in place, or appends an entry. -/
def assign (key : String) (value : JsVal) : List (String × JsVal) → List (String × JsVal)
  | [] => [(key, value)]
  | (k, v) :: rest => if k = key then (k, value) :: rest else (k, v) :: assign key value rest

/-- Property access on a value that is not nullish. -/
def JsVal.get (v : JsVal) (key : String) : JsVal :=
  match v with
  | .object entries => (entries.lookup key).getD .undefined
  | _ => .undefined

theorem lookup_cons_ite (key k : String) (v : JsVal) (rest : List (String × JsVal)) :
    ((k, v) :: rest).lookup key = if key = k then some v else rest.lookup key := by
  by_cases h : key = k
  · simp [h]
  · simp [List.lookup_cons, beq_false_of_ne h, h]

theorem lookup_assign (key key' : String) (value : JsVal) (entries : List (String × JsVal)) :
    (assign key value entries).lookup key' =
      if key' = key then some value else entries.lookup key' := by
  induction entries with
  | nil => simp [assign, lookup_cons_ite]
  | cons e rest ih =>
    obtain ⟨k, v⟩ := e
    by_cases hk : k = key
    · subst hk
      by_cases hk' : key' = k <;> simp [assign, lookup_cons_ite, hk']
    · by_cases hk' : key' = k
      · subst hk'
        simp [assign, hk]
      · simp [assign, lookup_cons_ite, hk, hk', ih]

theorem lookup_eq_none {key : String} {entries : List (String × JsVal)}
    (h : key ∉ entries.map Prod.fst) : entries.lookup key = none := by
  rw [List.lookup_eq_none_iff]
  intro e he
  have hne : key ≠ e.1 := fun heq => h (heq ▸ List.mem_map_of_mem he)
  simpa using hne

end TradingSdk.Js
