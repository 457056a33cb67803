import TradingSdk.Js.Shape

namespace TradingSdk.Js

open Serde

/-- A TypeScript value under a key stands for a Rust value: the core reads that value from what
the adapter makes of it. -/
def Denotes (key : String) {α : Type} (s : Schema α) (v : JsVal) (a : α) : Prop :=
  v.isNullish = false ∧ ∃ w, convertValue key v = .ok w ∧ s.ofJs w = some a

/-- A missing or nullish field stands for the value of an absent one. -/
def FieldDenotes (key : String) {α : Type} (s : Schema α) (dflt : Option α) :
    Option JsVal → α → Prop
  | none, a => (dflt <|> s.absent) = some a
  | some v, a => v.isNullish = true ∧ (dflt <|> s.absent) = some a ∨ Denotes key s v a

/-- The fields of an object stand for the fields of a struct. -/
def DenotesFields : {α : Type} → Fields α → Entries → α → Prop
  | _, .nil, _, _ => True
  | _, .cons name s dflt fs, entries, (a, b) =>
    FieldDenotes (snakeToCamel name) s dflt (entries.lookup (snakeToCamel name)) a ∧
      DenotesFields fs entries b

def namesOk {α : Type} (fs : Fields α) : Prop := ∀ name ∈ fs.names, nameOk name = true

theorem namesOk.tail {α β : Type} {name : String} {s : Schema α} {dflt : Option α} {fs : Fields β}
    (h : namesOk (.cons name s dflt fs)) : namesOk fs :=
  fun n hn => h n (List.mem_cons_of_mem _ hn)

theorem namesOk.head {α β : Type} {name : String} {s : Schema α} {dflt : Option α} {fs : Fields β}
    (h : namesOk (.cons name s dflt fs)) : nameOk name = true :=
  h name List.mem_cons_self

/-- Entries under other keys do not matter. -/
theorem DenotesFields.congr : {α : Type} → (fs : Fields α) → {entries entries' : Entries} →
    {a : α} → (∀ name ∈ fs.names, entries.lookup (snakeToCamel name) =
      entries'.lookup (snakeToCamel name)) → DenotesFields fs entries a → DenotesFields fs entries' a
  | _, .nil, _, _, _, _, _ => trivial
  | _, .cons _ _ _ fs, _, _, (_, _), heq, h => by
    obtain ⟨hhead, htail⟩ := h
    refine ⟨heq _ List.mem_cons_self ▸ hhead, ?_⟩
    exact DenotesFields.congr fs (fun n hn => heq n (List.mem_cons_of_mem _ hn)) htail

/-- Each denoting entry converts. -/
theorem DenotesFields.converts : {α : Type} → (fs : Fields α) → {entries : Entries} → {a : α} →
    DenotesFields fs entries a → ∀ name ∈ fs.names, ∀ v, entries.lookup (snakeToCamel name) = some v →
      v.isNullish = true ∨ ∃ w, convertValue (snakeToCamel name) v = .ok w
  | _, .nil, _, _, _, _, hname, _, _ => by cases hname
  | _, .cons name _ _ fs, _, (_, _), h, name', hname, v, hv => by
    obtain ⟨hhead, htail⟩ := h
    obtain rfl | hrest := List.mem_cons.mp hname
    · rw [hv] at hhead
      obtain ⟨hnull, _⟩ | ⟨_, w, hw, _⟩ := hhead
      · exact .inl hnull
      · exact .inr ⟨w, hw⟩
    · exact DenotesFields.converts fs htail name' hrest v hv

/-- What is left of a field reads as a value exactly when the field stands for that value. -/
theorem Converted.fieldValue_iff {key : String} {α : Type} {s : Schema α} {dflt : Option α}
    {before after : Option JsVal} (h : Converted key before none after) (a : α) :
    fieldValue (dflt <|> s.absent) s.ofJs after = some a ↔ FieldDenotes key s dflt before a := by
  cases h with
  | missing hv hr =>
    subst hv hr
    exact Iff.rfl
  | dropped v hv hn hr =>
    subst hv hr
    constructor
    · intro hread
      exact .inl ⟨hn, hread⟩
    · rintro (⟨_, hread⟩ | ⟨hfalse, _⟩)
      · exact hread
      · rw [hn] at hfalse
        cases hfalse
  | converted v w hv hn hw hr =>
    subst hv hr
    constructor
    · intro hread
      exact .inr ⟨hn, w, hw, hread⟩
    · rintro (⟨htrue, _⟩ | ⟨_, w', hw', hread⟩)
      · rw [hn] at htrue
        cases htrue
      · rw [hw] at hw'
        exact Except.ok.inj hw' ▸ hread

/-- Once converted, the fields read as a struct exactly when they stand for it. -/
theorem DenotesFields.iff_reads : {α : Type} → (fs : Fields α) → {entries result : Entries} →
    (a : α) → convertEntries [] entries = .ok result → entries.keys.Nodup →
    (∀ k ∈ entries.keys, CamelKey k) → namesOk fs →
    (DenotesFields fs entries a ↔ fs.Reads result a)
  | _, .nil, _, _, (), _, _, _, _ => Iff.rfl
  | _, .cons name s dflt fs, entries, result, (a, b), hresult, hnodup, hcamel, hnames => by
    have htail := DenotesFields.iff_reads fs b hresult hnodup hcamel hnames.tail
    have hconv := convertEntries_lookup hresult hnodup hcamel (camelKey_snakeToCamel hnames.head)
    rw [toSnake_snakeToCamel hnames.head] at hconv
    have hhead : fieldValue (dflt <|> s.absent) s.ofJs (result.lookup name) = some a ↔
        FieldDenotes (snakeToCamel name) s dflt (entries.lookup (snakeToCamel name)) a :=
      hconv.fieldValue_iff a
    rw [DenotesFields, Fields.Reads, htail, hhead]

/-- An object whose keys are the fields of a struct and whose fields stand for its values. -/
theorem denotes_object {α : Type} {fs : Fields α} {entries : Entries} {a : α}
    (hnodup : entries.keys.Nodup) (hkeys : ∀ k ∈ entries.keys, k ∈ fs.names.map snakeToCamel)
    (hnames : namesOk fs) (h : DenotesFields fs entries a) :
    ∃ result, convertEntries [] entries = .ok result ∧ fs.Reads result a := by
  have hconv : ∀ k v, (k, v) ∈ entries → v.isNullish = true ∨ ∃ w, convertValue k v = .ok w := by
    intro k v hmem
    obtain ⟨name, hname, rfl⟩ := List.mem_map.mp (hkeys k (List.mem_map_of_mem hmem))
    exact DenotesFields.converts fs h name hname v (lookup_of_mem hnodup hmem)
  obtain ⟨result, hresult⟩ : ∃ result, convertEntries [] entries = .ok result :=
    convertEntries_ok hconv
  refine ⟨result, hresult, (DenotesFields.iff_reads fs a hresult hnodup ?_ hnames).mp h⟩
  intro k hk
  obtain ⟨name, hname, rfl⟩ := List.mem_map.mp (hkeys k hk)
  exact camelKey_snakeToCamel (hnames name hname)

/-- Keys whose values the adapter does not pass through by shape alone. -/
def specialKeys : List String :=
  ["oracleSource", "action", "newMembers", "signatures", "markSourceMode", "side", "timeInForce",
   "outcome"]

def plainKey (key : String) : Bool := !specialKeys.contains key

theorem plainKey_ne {key special : String} (h : plainKey key = true) (hs : special ∈ specialKeys) :
    key ≠ special := by
  rintro rfl
  simp [plainKey, hs] at h

theorem plainKey_enum {key : String} (h : plainKey key = true) :
    numericEnumFields.lookup key = none := by
  have h1 : key ≠ "side" := plainKey_ne h (by decide)
  have h2 : key ≠ "timeInForce" := plainKey_ne h (by decide)
  have h3 : key ≠ "outcome" := plainKey_ne h (by decide)
  simp [numericEnumFields, List.lookup_cons, beq_false_of_ne h1, beq_false_of_ne h2,
    beq_false_of_ne h3]

theorem convertNumber_plain {key : String} (h : plainKey key = true) (n : Int) :
    convertNumber key n = .ok (.number n) := by
  rw [convertNumber, if_neg (plainKey_ne h (by decide)), plainKey_enum h]

theorem fromWasmString_plain {key : String} (h : plainKey key = true) (s : String) :
    fromWasmString key s = .ok (.string s) := by
  rw [fromWasmString, if_neg (plainKey_ne h (by decide)), plainKey_enum h]

/-- Values without parts pass through both conversions under an ordinary key. -/
theorem convertScalar_plain {key : String} (h : plainKey key = true) (v : JsVal) :
    convertScalar key v = .ok v := by
  unfold convertScalar
  rw [if_neg (plainKey_ne h (by decide)), if_neg (plainKey_ne h (by decide))]
  cases v with
  | number n => exact convertNumber_plain h n
  | _ => rfl

/-- Values without parts. -/
def JsVal.isLeaf : JsVal → Bool
  | .array _ => false
  | .object _ => false
  | _ => true

theorem shaped_of_isLeaf {v : JsVal} (hv : v.isLeaf = true) : v.Shaped := by
  cases v with
  | array items => cases hv
  | object entries => cases hv
  | _ => trivial

theorem convertValue_leaf {key : String} (h : plainKey key = true) {v : JsVal}
    (hv : v.isLeaf = true) : convertValue key v = .ok v := by
  have hscalar : convertValue key v = convertScalar key v := by
    cases v with
    | array items => cases hv
    | object entries => cases hv
    | _ => rw [convertValue]
  rw [hscalar, convertScalar_plain h]

theorem Denotes.of_leaf {key : String} (h : plainKey key = true) {α : Type} {s : Schema α}
    {v : JsVal} {a : α} (hv : v.isLeaf = true) (hn : v.isNullish = false)
    (hread : s.ofJs v = some a) : Denotes key s v a :=
  ⟨hn, v, convertValue_leaf h hv, hread⟩

theorem denotes_u32 {key : String} (h : plainKey key = true) (n : UInt32) :
    Denotes key .u32 (.number n.toNat) n :=
  .of_leaf h rfl rfl (ofJs_u32 n)

theorem denotes_u64 {key : String} (h : plainKey key = true) (n : UInt64) :
    Denotes key .u64 (.bigint n.toNat) n :=
  .of_leaf h rfl rfl (ofJs_u64 n)

theorem denotes_u8 {key : String} (h : plainKey key = true) (n : UInt8) :
    Denotes key .u8 (.number n.toNat) n :=
  .of_leaf h rfl rfl (readJsByte_number n)

theorem denotes_i16 {key : String} (h : plainKey key = true) (n : Int16) :
    Denotes key .i16 (.number n.toInt) n :=
  .of_leaf h rfl rfl (ofJs_i16 n)

theorem denotes_bool {key : String} (h : plainKey key = true) (b : Bool) :
    Denotes key .bool (.bool b) b :=
  .of_leaf h rfl rfl rfl

theorem denotes_string {key : String} (h : plainKey key = true) (s : String) :
    Denotes key .string (.string s) s :=
  .of_leaf h rfl rfl rfl

theorem denotes_fixedBytes {key : String} {n : Nat} (form : ByteForm) (h : plainKey key = true)
    (bs : FixedBytes n) : Denotes key (.fixedBytes n form) (.uint8Array bs.1) bs :=
  .of_leaf h rfl rfl (ofJs_fixedBytes form bs)

theorem denotes_byteVec {key : String} (form : ByteForm) (h : plainKey key = true) (bs : Bytes) :
    Denotes key (.byteVec form) (.uint8Array bs) bs :=
  .of_leaf h rfl rfl (ofJs_byteVec form bs)

theorem denotes_option {key : String} {α : Type} {s : Schema α} {v : JsVal} {a : α}
    (hs : s.nullable = false) (h : Denotes key s v a) : Denotes key (.option s) v (some a) := by
  obtain ⟨hn, w, hconv, hread⟩ := h
  refine ⟨hn, w, hconv, ?_⟩
  rw [Schema.ofJs, s.isNullish_of_ofJs hs hread, if_neg Bool.false_ne_true, hread]
  rfl

end TradingSdk.Js
