import TradingSdk.Js.Adapter

namespace TradingSdk.Js

open Serde

abbrev Entries := List (String × JsVal)

def Entries.keys (entries : Entries) : List String := entries.map Prod.fst

/-- A key that the renaming to Rust and back preserves. -/
def CamelKey (key : String) : Prop := snakeToCamel (toSnake key) = key

/-- Keys that every JavaScript object inherits. -/
def inheritedKeys : List String :=
  ["constructor", "toString", "valueOf", "hasOwnProperty", "isPrototypeOf", "toLocaleString",
   "propertyIsEnumerable"]

def JsVal.isString : JsVal → Bool
  | .string _ => true
  | _ => false

mutual
/-- What the TypeScript interfaces promise of every action: at each level distinct field names of
their own spelling, and a text under `kind`. -/
def JsVal.Shaped : JsVal → Prop
  | .array items => ShapedItems items
  | .object entries => (Entries.keys entries).Nodup ∧ ShapedEntries entries
  | .undefined => True
  | .null => True
  | .bool _ => True
  | .number _ => True
  | .bigint _ => True
  | .string _ => True
  | .uint8Array _ => True
def ShapedItems : List JsVal → Prop
  | [] => True
  | v :: vs => v.Shaped ∧ ShapedItems vs
def ShapedEntries : List (String × JsVal) → Prop
  | [] => True
  | (k, v) :: rest => (CamelKey k ∧ k ∉ inheritedKeys ∧ (k = "kind" → v.isString = true)) ∧
      v.Shaped ∧ ShapedEntries rest
end

instance (key : String) : Decidable (CamelKey key) := inferInstanceAs (Decidable (_ = _))

/-- A key that is its own and means no more than a field. -/
def fieldKeyOk (key : String) : Bool := !inheritedKeys.contains key && key != "kind"

theorem shaped_field {k : String} (hcamel : CamelKey k) (h : fieldKeyOk k = true) (v : JsVal) :
    CamelKey k ∧ k ∉ inheritedKeys ∧ (k = "kind" → v.isString = true) := by
  simp only [fieldKeyOk, Bool.and_eq_true, Bool.not_eq_true', bne_iff_ne] at h
  exact ⟨hcamel, by simpa using h.1, fun hk => absurd hk h.2⟩

theorem shaped_kind (s : String) :
    CamelKey "kind" ∧ "kind" ∉ inheritedKeys ∧ ("kind" = "kind" → (JsVal.string s).isString = true) :=
  ⟨by decide, by decide, fun _ => rfl⟩

theorem toSnake_inj {k k' : String} (h : CamelKey k) (h' : CamelKey k')
    (heq : toSnake k = toSnake k') : k = k' := by
  rw [CamelKey] at h h'
  rw [← h, ← h', heq]

theorem camelKey_snakeToCamel {name : String} (h : nameOk name = true) :
    CamelKey (snakeToCamel name) := by
  rw [CamelKey, toSnake_snakeToCamel h]

theorem ShapedEntries.camelKey {entries : Entries} (h : ShapedEntries entries) :
    ∀ k ∈ entries.keys, CamelKey k := by
  induction entries with
  | nil => simp [Entries.keys]
  | cons e rest ih =>
    obtain ⟨k, v⟩ := e
    intro k' hk'
    obtain rfl | hrest := List.mem_cons.mp hk'
    · exact h.1.1
    · exact ih h.2.2 k' hrest

/-- What the conversion of an object leaves under the Rust name of a key. -/
inductive Converted (key : String) (before kept after : Option JsVal) : Prop
  | missing (h : before = none) (ha : after = kept)
  | dropped (v : JsVal) (h : before = some v) (hn : v.isNullish = true) (ha : after = kept)
  | converted (v w : JsVal) (h : before = some v) (hn : v.isNullish = false)
      (hw : convertValue key v = .ok w) (ha : after = some w)

/-- Distinct fields never meet under one Rust name, so each finds its own conversion. -/
theorem convertEntries_lookup {out entries result : Entries}
    (h : convertEntries out entries = .ok result) (hnodup : entries.keys.Nodup)
    (hcamel : ∀ k ∈ entries.keys, CamelKey k) {key : String} (hkey : CamelKey key) :
    Converted key (entries.lookup key) (out.lookup (toSnake key))
      (result.lookup (toSnake key)) := by
  induction entries generalizing out with
  | nil =>
    obtain rfl := Except.ok.inj h
    exact .missing rfl rfl
  | cons e rest ih =>
    obtain ⟨k, v⟩ := e
    obtain ⟨hfresh, hnodup⟩ := List.nodup_cons.mp hnodup
    have hcamelRest : ∀ k ∈ Entries.keys rest, CamelKey k := fun k' hk' =>
      hcamel k' (List.mem_cons_of_mem _ hk')
    have hk : CamelKey k := hcamel k List.mem_cons_self
    have hrestNone : rest.lookup k = none := lookup_eq_none hfresh
    rw [convertEntries] at h
    rw [lookup_cons_ite]
    cases hnull : v.isNullish with
    | true =>
      rw [if_pos hnull] at h
      have htail := ih h hnodup hcamelRest
      by_cases heq : key = k
      · subst heq
        rw [if_pos rfl]
        rw [hrestNone] at htail
        cases htail with
        | missing _ ha => exact .dropped v rfl hnull ha
        | dropped _ h => cases h
        | converted _ _ h => cases h
      · rw [if_neg heq]
        exact htail
    | false =>
      rw [hnull, if_neg Bool.false_ne_true] at h
      cases hw : convertValue k v with
      | error e =>
        rw [hw] at h
        cases h
      | ok w =>
        rw [hw] at h
        have htail := ih h hnodup hcamelRest
        rw [lookup_assign] at htail
        by_cases heq : key = k
        · subst heq
          rw [if_pos rfl]
          rw [if_pos rfl, hrestNone] at htail
          cases htail with
          | missing _ ha => exact .converted v w rfl hnull hw ha
          | dropped _ h => cases h
          | converted _ _ h => cases h
        · have hs : ¬ toSnake key = toSnake k := fun hs => heq (toSnake_inj hkey hk hs)
          rw [if_neg heq]
          rw [if_neg hs] at htail
          exact htail

/-- An object converts as soon as each of its fields does. -/
theorem convertEntries_ok {out entries : Entries}
    (h : ∀ k v, (k, v) ∈ entries → v.isNullish = true ∨ ∃ w, convertValue k v = .ok w) :
    ∃ result, convertEntries out entries = .ok result := by
  induction entries generalizing out with
  | nil => exact ⟨out, rfl⟩
  | cons e rest ih =>
    obtain ⟨k, v⟩ := e
    have hrest := fun k' v' hmem => h k' v' (List.mem_cons_of_mem _ hmem)
    obtain hnull | ⟨w, hw⟩ := h k v List.mem_cons_self
    · obtain ⟨result, hresult⟩ : ∃ result, convertEntries out rest = .ok result := ih hrest
      exact ⟨result, by rw [convertEntries, if_pos hnull, hresult]⟩
    · cases hnull : v.isNullish with
      | true =>
        obtain ⟨result, hresult⟩ : ∃ result, convertEntries out rest = .ok result := ih hrest
        exact ⟨result, by rw [convertEntries, if_pos hnull, hresult]⟩
      | false =>
        obtain ⟨result, hresult⟩ : ∃ result,
            convertEntries (assign (toSnake k) w out) rest = .ok result := ih hrest
        refine ⟨result, ?_⟩
        rw [convertEntries, hnull, if_neg Bool.false_ne_true, hw]
        exact hresult

end TradingSdk.Js
