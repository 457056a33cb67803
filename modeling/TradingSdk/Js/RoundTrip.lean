import TradingSdk.Js.Denotes

namespace TradingSdk.Serde

open Js

/-- A Rust value arrives in TypeScript as a value that, when the client accepts it, stands for
it. -/
def RoundTrips (valid : Prop) (key : String) {α : Type} (s : Schema α) (a : α) : Prop :=
  ∃ t, fromWasmValue key (s.toJs a) = .ok t ∧ t.Shaped ∧
    (valid → Denotes key s t a ∨ t.isNullish = true ∧ s.absent = some a)

/-- The same for an element of an array under the conversion of its elements. -/
def ItemTrips (valid : Prop) (fromItem : JsVal → Except JsError JsVal) {α : Type} (s : Schema α)
    (a : α) : Prop :=
  ∃ t, fromItem (s.toJs a) = .ok t ∧ t.Shaped ∧
    (valid → ∃ w, convertItem t = .ok w ∧ s.ofJs w = some a)

/-- The same for the fields of a struct. -/
structure FieldsTrip (valid : Prop) {α : Type} (fs : Fields α) (a : α) (entries : Entries) :
    Prop where
  decodes : ∀ out : Entries, (∀ name ∈ fs.names, snakeToCamel name ∉ out.keys) →
    fromWasmEntries out (fs.toEntries a) = .ok (out ++ entries)
  keys_eq : entries.keys = fs.names.map snakeToCamel
  shaped : ShapedEntries entries
  denotes : valid → DenotesFields fs entries a

/-- Elements that arrive as arrays of numbers. -/
def Schema.isNumbers : {α : Type} → Schema α → Bool
  | _, .fixedBytes _ form => !form.humanScalar
  | _, .byteVec form => !form.humanScalar
  | _, _ => false

def byteKeyOk (key : String) (form : ByteForm) : Bool :=
  plainKey key && (form.humanScalar || byteFields.contains key)

def byteListKey (key : String) : Bool := key == "newMembers" || key == "signatures"

def Schema.isAbsentOr : {α : Type} → Schema α → Option α → Bool
  | _, .option _, some (some _) => false
  | _, _, _ => true

mutual
/-- Whether the adapter, which goes by field names, treats each field as its type requires.
Enumerations are left to their own lemmas. -/
def Schema.adapts : {α : Type} → Schema α → String → Bool
  | _, .u8, key => plainKey key
  | _, .u32, key => plainKey key
  | _, .u64, key => plainKey key
  | _, .i16, key => plainKey key
  | _, .bool, key => plainKey key
  | _, .string, key => plainKey key
  | _, .fixedBytes _ form, key => byteKeyOk key form
  | _, .byteVec form, key => byteKeyOk key form
  | _, .option s, key => !s.nullable && s.adapts key
  | _, .vec s, key =>
    if byteListKey key then s.isNumbers
    else plainKey key && !byteFields.contains key && s.adaptsItem
  | _, .struct fs _, key => plainKey key && fs.adapts
  | _, .enum _ _, _ => true
def Schema.adaptsItem : {α : Type} → Schema α → Bool
  | _, .u8 => false
  | _, .u32 => false
  | _, .u64 => false
  | _, .i16 => false
  | _, .bool => false
  | _, .string => false
  | _, .fixedBytes _ _ => false
  | _, .byteVec _ => false
  | _, .option _ => false
  | _, .vec _ => false
  | _, .struct fs _ => fs.adapts
  | _, .enum _ _ => false
def Fields.adapts : {α : Type} → Fields α → Bool
  | _, .nil => true
  | _, .cons name s dflt fs =>
    (nameOk name && fieldKeyOk (snakeToCamel name) && s.isAbsentOr dflt) &&
      s.adapts (snakeToCamel name) && fs.adapts
end

mutual
/-- Every enumeration inside a value round-trips. -/
def Schema.EnumsTrip (valid : Prop) : {α : Type} → Schema α → String → α → Prop
  | _, .option s, key, a => ∀ x, a = some x → s.EnumsTrip valid key x
  | _, .vec s, key, as => ∀ a ∈ as, s.EnumsTrip valid key a
  | _, .struct fs e, _, a => fs.EnumsTrip valid (e.symm a)
  | _, .enum vs e, key, a => RoundTrips valid key (.enum vs e) a
  | _, .u8, _, _ => True
  | _, .u32, _, _ => True
  | _, .u64, _, _ => True
  | _, .i16, _, _ => True
  | _, .bool, _, _ => True
  | _, .string, _, _ => True
  | _, .fixedBytes _ _, _, _ => True
  | _, .byteVec _, _, _ => True
def Fields.EnumsTrip (valid : Prop) : {α : Type} → Fields α → α → Prop
  | _, .nil, _ => True
  | _, .cons name s _ fs, (a, b) => s.EnumsTrip valid (snakeToCamel name) a ∧ fs.EnumsTrip valid b
end

mutual
/-- No enumeration anywhere inside. -/
def Schema.enumFree : {α : Type} → Schema α → Bool
  | _, .option s => s.enumFree
  | _, .vec s => s.enumFree
  | _, .struct fs _ => fs.enumFree
  | _, .enum _ _ => false
  | _, _ => true
def Fields.enumFree : {α : Type} → Fields α → Bool
  | _, .nil => true
  | _, .cons _ s _ fs => s.enumFree && fs.enumFree
end

variable {valid : Prop}

mutual
theorem Schema.enumsTrip : {α : Type} → (s : Schema α) → {key : String} → (a : α) →
    s.enumFree = true → s.EnumsTrip valid key a
  | _, .option s, _, _, h => fun x _ => Schema.enumsTrip s x h
  | _, .vec s, _, _, h => fun a _ => Schema.enumsTrip s a h
  | _, .struct fs e, _, a, h => Fields.enumsTrip fs (e.symm a) h
  | _, .enum _ _, _, _, h => by cases h
  | _, .u8, _, _, _ => trivial
  | _, .u32, _, _, _ => trivial
  | _, .u64, _, _, _ => trivial
  | _, .i16, _, _, _ => trivial
  | _, .bool, _, _, _ => trivial
  | _, .string, _, _, _ => trivial
  | _, .fixedBytes _ _, _, _, _ => trivial
  | _, .byteVec _, _, _, _ => trivial
theorem Fields.enumsTrip : {α : Type} → (fs : Fields α) → (a : α) → fs.enumFree = true →
    fs.EnumsTrip valid a
  | _, .nil, _, _ => trivial
  | _, .cons _ s _ fs, (a, b), h =>
    have ⟨hs, hfs⟩ := Bool.and_eq_true_iff.mp h
    ⟨Schema.enumsTrip s a hs, Fields.enumsTrip fs b hfs⟩
end

theorem mapM_toUint8 (bs : Bytes) : (byteNumbers bs).mapM toUint8 = .ok bs := by
  induction bs with
  | nil => rfl
  | cons b bs ih =>
    have hb : toUint8 (.number b.toNat) = .ok b := by
      have h := b.toNat_lt
      have hmod : ((b.toNat : Int) % 256).toNat = b.toNat := by omega
      rw [toUint8, hmod, UInt8.ofNat_toNat]
    rw [byteNumbers] at ih
    rw [byteNumbers, List.map_cons, List.mapM_cons, hb, ih]
    rfl

theorem fromWasmItems_eq (items : List JsVal) : fromWasmItems items = items.mapM fromWasmItem := by
  induction items with
  | nil => rfl
  | cons v vs ih => rw [fromWasmItems, List.mapM_cons, ih]

theorem itemTrips_numbers {α : Type} {s : Schema α} (h : s.isNumbers = true) (a : α) :
    ItemTrips valid toByteArray s a := by
  cases s with
  | fixedBytes n form =>
    have hform : form.humanScalar = false := by simpa [Schema.isNumbers] using h
    refine ⟨.uint8Array a.1, ?_, trivial, fun _ => ⟨_, rfl, ofJs_fixedBytes form a⟩⟩
    rw [Schema.toJs, ByteForm.toJs, hform, if_neg Bool.false_ne_true, toByteArray, mapM_toUint8]
    rfl
  | byteVec form =>
    have hform : form.humanScalar = false := by simpa [Schema.isNumbers] using h
    refine ⟨.uint8Array a, ?_, trivial, fun _ => ⟨_, rfl, ofJs_byteVec form a⟩⟩
    rw [Schema.toJs, ByteForm.toJs, hform, if_neg Bool.false_ne_true, toByteArray, mapM_toUint8]
    rfl
  | _ => cases h

theorem items_trip {fromItem : JsVal → Except JsError JsVal} {α : Type} {s : Schema α}
    {as : List α} (h : ∀ a ∈ as, ItemTrips valid fromItem s a) :
    ∃ ts, (as.map s.toJs).mapM fromItem = .ok ts ∧ ShapedItems ts ∧
      (valid → ∃ ws, convertItems ts = .ok ws ∧ ws.mapM s.ofJs = some as) := by
  induction as with
  | nil => exact ⟨[], rfl, trivial, fun _ => ⟨[], rfl, rfl⟩⟩
  | cons a as ih =>
    obtain ⟨t, hfrom, hshape, hback⟩ := h a List.mem_cons_self
    obtain ⟨ts, hfroms, hshapes, hbacks⟩ := ih fun b hb => h b (List.mem_cons_of_mem _ hb)
    refine ⟨t :: ts, ?_, ⟨hshape, hshapes⟩, fun hv => ?_⟩
    · rw [List.map_cons, List.mapM_cons, hfrom, hfroms]
      rfl
    · obtain ⟨w, hconv, hread⟩ := hback hv
      obtain ⟨ws, hconvs, hreads⟩ := hbacks hv
      refine ⟨w :: ws, ?_, ?_⟩
      · rw [convertItems, hconv, hconvs]
        rfl
      · rw [List.mapM_cons, hread, hreads]
        rfl

theorem byteListKey_iff {key : String} :
    byteListKey key = true ↔ key = "newMembers" ∨ key = "signatures" := by
  simp [byteListKey]

/-- How an array is converted depends on its key alone. -/
theorem fromWasmValue_array {key : String} (ho : key ≠ "oracleSource") (ha : key ≠ "action")
    (items : List JsVal) : fromWasmValue key (.array items) =
      if byteListKey key then (items.mapM toByteArray).map .array
      else if byteFields.contains key then byteField key items
      else (items.mapM fromWasmItem).map .array := by
  rw [fromWasmValue, if_neg ho, if_neg ha, fromWasmItems_eq]
  by_cases hlist : byteListKey key = true
  · rw [if_pos hlist, if_pos (byteListKey_iff.mp hlist)]
  · rw [if_neg hlist, if_neg (hlist ∘ byteListKey_iff.mpr)]

theorem fromWasmValue_object {key : String} (ho : key ≠ "oracleSource") (ha : key ≠ "action")
    (entries : Entries) : fromWasmValue key (.object entries) = fromWasmItem (.object entries) := by
  rw [fromWasmValue, if_neg ho, if_neg ha, fromWasmItem]

/-- An array under a key converts element by element. -/
theorem convertValue_array {key : String} (ho : key ≠ "oracleSource") (ha : key ≠ "action")
    (items : List JsVal) : convertValue key (.array items) = (convertItems items).map .array := by
  rw [convertValue, if_neg ho, if_neg ha]

/-- An array whose elements stand for those of a vector stands for the vector. -/
theorem denotes_array {key : String} (ho : key ≠ "oracleSource") (ha : key ≠ "action") {α : Type}
    {s : Schema α} {ts ws : List JsVal} {as : List α} (hconv : convertItems ts = .ok ws)
    (hread : ws.mapM s.ofJs = some as) : Denotes key (.vec s) (.array ts) as := by
  refine ⟨rfl, .array ws, ?_, hread⟩
  rw [convertValue_array ho ha, hconv]
  rfl

theorem roundTrips_numbers {key : String} {α : Type} {s : Schema α} (hkey : byteListKey key = true)
    (hs : s.isNumbers = true) (as : List α) : RoundTrips valid key (.vec s) as := by
  have ho : key ≠ "oracleSource" := by rintro rfl; exact absurd hkey (by decide)
  have ha : key ≠ "action" := by rintro rfl; exact absurd hkey (by decide)
  have hitems : ∀ a ∈ as, ItemTrips valid toByteArray s a := fun a _ => itemTrips_numbers hs a
  obtain ⟨ts, hfrom, hshape, hback⟩ := items_trip hitems
  refine ⟨.array ts, ?_, hshape, fun hv => ?_⟩
  · refine (fromWasmValue_array ho ha (as.map s.toJs)).trans ?_
    rw [if_pos hkey, hfrom]
    rfl
  · obtain ⟨ws, hconv, hread⟩ := hback hv
    exact .inl (denotes_array ho ha hconv hread)

theorem roundTrips_objects {key : String} {α : Type} {s : Schema α} (hlist : byteListKey key = false)
    (hplain : plainKey key = true) (hbytes : byteFields.contains key = false) {as : List α}
    (h : ∀ a ∈ as, ItemTrips valid fromWasmItem s a) : RoundTrips valid key (.vec s) as := by
  have ho : key ≠ "oracleSource" := plainKey_ne hplain (by decide)
  have ha : key ≠ "action" := plainKey_ne hplain (by decide)
  obtain ⟨ts, hfrom, hshape, hback⟩ := items_trip h
  refine ⟨.array ts, ?_, hshape, fun hv => ?_⟩
  · refine (fromWasmValue_array ho ha (as.map s.toJs)).trans ?_
    rw [hlist, if_neg Bool.false_ne_true, hbytes, if_neg Bool.false_ne_true, hfrom]
    rfl
  · obtain ⟨ws, hconv, hread⟩ := hback hv
    exact .inl (denotes_array ho ha hconv hread)

theorem fromWasmValue_leaf {key : String} (h : plainKey key = true) {v : JsVal}
    (hv : v.isLeaf = true) (hn : v.isNullish = false) : fromWasmValue key v = .ok v := by
  have ho : key ≠ "oracleSource" := plainKey_ne h (by decide)
  cases v with
  | array items => cases hv
  | object entries => cases hv
  | undefined => cases hn
  | null => cases hn
  | uint8Array bs => rw [fromWasmValue]
  | string s => rw [fromWasmValue, if_neg ho, fromWasmString_plain h]
  | bool b => rw [fromWasmValue, if_neg ho]
  | number n => rw [fromWasmValue, if_neg ho]
  | bigint n => rw [fromWasmValue, if_neg ho]

theorem byteKeyOk_plain {key : String} {form : ByteForm} (h : byteKeyOk key form = true) :
    plainKey key = true :=
  (Bool.and_eq_true_iff.mp h).1

/-- Byte scalars pass, and a named byte field is rebuilt from its numbers. -/
theorem fromWasmValue_bytes {key : String} {form : ByteForm} (h : byteKeyOk key form = true)
    (bs : Bytes) : fromWasmValue key (form.toJs bs) = .ok (.uint8Array bs) := by
  have hplain := byteKeyOk_plain h
  cases hform : form.humanScalar with
  | true =>
    rw [ByteForm.toJs, if_pos hform]
    exact fromWasmValue_leaf hplain rfl rfl
  | false =>
    have hkey : byteFields.contains key = true := by
      rw [byteKeyOk, hplain, hform] at h
      exact h
    have hlist : ¬ byteListKey key = true := by
      rw [byteListKey_iff]
      rintro (rfl | rfl)
      · exact absurd hplain (by decide)
      · exact absurd hplain (by decide)
    rw [ByteForm.toJs, hform, if_neg Bool.false_ne_true,
      fromWasmValue_array (plainKey_ne hplain (by decide)) (plainKey_ne hplain (by decide)),
      if_neg hlist, if_pos hkey, byteField, mapM_byteNumbers]

theorem assign_fresh {key : String} {entries : Entries} (h : key ∉ entries.keys) (v : JsVal) :
    assign key v entries = entries ++ [(key, v)] := by
  induction entries with
  | nil => rfl
  | cons e rest ih =>
    obtain ⟨k, w⟩ := e
    rw [Entries.keys, List.map_cons, List.mem_cons, not_or] at h
    rw [assign, if_neg (Ne.symm h.1), ih h.2]
    rfl

theorem snakeToCamel_inj {name name' : String} (h : nameOk name = true) (h' : nameOk name' = true)
    (heq : snakeToCamel name = snakeToCamel name') : name = name' := by
  rw [← toSnake_snakeToCamel h, ← toSnake_snakeToCamel h', heq]

theorem Fields.namesOk_of_adapts : {α : Type} → (fs : Fields α) → fs.adapts = true → namesOk fs
  | _, .nil, _ => by
    intro name hname
    cases hname
  | _, .cons _ _ _ fs, h => by
    simp only [Fields.adapts, Bool.and_eq_true] at h
    intro name hname
    obtain rfl | hrest := List.mem_cons.mp hname
    · exact h.1.1.1.1
    · exact Fields.namesOk_of_adapts fs h.2 name hrest

theorem fieldDenotes_of_roundTrips {key : String} {α : Type} {s : Schema α} {dflt : Option α}
    {a : α} {t : JsVal} (hdflt : s.isAbsentOr dflt = true)
    (h : Denotes key s t a ∨ t.isNullish = true ∧ s.absent = some a) :
    FieldDenotes key s dflt (some t) a := by
  obtain hd | ⟨hn, habs⟩ := h
  · exact .inr hd
  · refine .inl ⟨hn, ?_⟩
    cases s with
    | option s =>
      obtain rfl := Option.some.inj habs
      match dflt with
      | none => rfl
      | some none => rfl
      | some (some _) => cases hdflt
    | _ => cases habs

/-- One field in front of the others. -/
theorem FieldsTrip.cons {name : String} {α β : Type} {s : Schema α} {dflt : Option α}
    {fs : Fields β} {a : α} {b : β} {t : JsVal} {entries : Entries}
    (hnames : namesOk (.cons name s dflt fs)) (hnodup : (Fields.cons name s dflt fs).names.Nodup)
    (hkey : fieldKeyOk (snakeToCamel name) = true)
    (hfrom : fromWasmValue (snakeToCamel name) (s.toJs a) = .ok t) (hshape : t.Shaped)
    (hhead : valid → FieldDenotes (snakeToCamel name) s dflt (some t) a)
    (htail : FieldsTrip valid fs b entries) :
    FieldsTrip valid (.cons name s dflt fs) (a, b) ((snakeToCamel name, t) :: entries) := by
  obtain ⟨hfresh, hnodup⟩ := List.nodup_cons.mp hnodup
  have hne : ∀ name' ∈ fs.names, snakeToCamel name' ≠ snakeToCamel name := by
    intro name' hname' heq
    have hnm := snakeToCamel_inj (hnames.tail name' hname') hnames.head heq
    exact hfresh (hnm ▸ hname')
  constructor
  · intro out hout
    have hhere : snakeToCamel name ∉ out.keys := hout name List.mem_cons_self
    rw [Fields.toEntries, fromWasmEntries, hfrom]
    show fromWasmEntries (assign (snakeToCamel name) t out) (fs.toEntries b) = _
    rw [assign_fresh hhere, htail.decodes, List.append_assoc]
    · rfl
    · intro name' hname' hmem
      rw [Entries.keys, List.map_append, List.mem_append] at hmem
      obtain hmem | hmem := hmem
      · exact hout name' (List.mem_cons_of_mem _ hname') hmem
      · exact hne name' hname' (List.mem_singleton.mp hmem)
  · rw [Entries.keys, List.map_cons, Fields.names, List.map_cons]
    exact congrArg _ htail.keys_eq
  · exact ⟨shaped_field (camelKey_snakeToCamel hnames.head) hkey t, hshape, htail.shaped⟩
  · intro hv
    refine ⟨?_, (htail.denotes hv).congr fs ?_⟩
    · rw [lookup_cons_ite, if_pos rfl]
      exact hhead hv
    · intro name' hname'
      rw [lookup_cons_ite, if_neg (hne name' hname')]

/-- The fields of a struct as an object, from the core to TypeScript and back. -/
theorem FieldsTrip.object {α : Type} {fs : Fields α} {a : α} {entries : Entries}
    (h : FieldsTrip valid fs a entries) (hnames : namesOk fs) (hnodup : fs.names.Nodup) :
    fromWasmEntries [] (fs.toEntries a) = .ok entries ∧ (JsVal.object entries).Shaped ∧
      (valid → ∃ result, convertEntries [] entries = .ok result ∧ fs.Reads result a) := by
  have hkeys : entries.keys.Nodup := by
    rw [h.keys_eq]
    exact hnodup.map_on fun n hn n' hn' => snakeToCamel_inj (hnames n hn) (hnames n' hn')
  refine ⟨?_, ⟨hkeys, h.shaped⟩, fun hv => denotes_object hkeys ?_ hnames (h.denotes hv)⟩
  · simpa using h.decodes [] (by simp [Entries.keys])
  · intro k hk
    rw [h.keys_eq] at hk
    exact hk

theorem toJs_object {α : Type} {s : Schema α} (hs : s.adaptsItem = true) (a : α) :
    ∃ entries, s.toJs a = .object entries := by
  cases s with
  | struct fs e => exact ⟨_, by rw [Schema.toJs]⟩
  | _ => cases hs

theorem roundTrips_option {key : String} {α : Type} {s : Schema α} {a : α}
    (hs : s.nullable = false) (h : RoundTrips valid key s a) :
    RoundTrips valid key (.option s) (some a) := by
  obtain ⟨t, hfrom, hshape, hd⟩ := h
  refine ⟨t, hfrom, hshape, fun hv => .inl ?_⟩
  obtain hd | ⟨_, habs⟩ := hd hv
  · exact denotes_option hs hd
  · cases s with
    | option _ => cases hs
    | _ => cases habs

theorem roundTrips_none {key : String} {α : Type} (s : Schema α) :
    RoundTrips valid key (.option s) none := by
  refine ⟨absentValue key, fromWasmValue.eq_def .., ?_, fun _ => .inr ⟨?_, rfl⟩⟩ <;>
  · unfold absentValue
    split <;> trivial

theorem roundTrips_of_denotes {key : String} {α : Type} {s : Schema α} {a : α} {t : JsVal}
    (hfrom : fromWasmValue key (s.toJs a) = .ok t) (hshape : t.Shaped) (hd : Denotes key s t a) :
    RoundTrips valid key s a :=
  ⟨t, hfrom, hshape, fun _ => .inl hd⟩

theorem roundTrips_of_leaf {key : String} (h : plainKey key = true) {α : Type} {s : Schema α}
    {a : α} (hv : (s.toJs a).isLeaf = true) (hn : (s.toJs a).isNullish = false)
    (hd : Denotes key s (s.toJs a) a) : RoundTrips valid key s a :=
  roundTrips_of_denotes (fromWasmValue_leaf h hv hn) (shaped_of_isLeaf hv) hd

mutual
theorem Schema.roundTrips : {α : Type} → (s : Schema α) → {key : String} → {a : α} →
    s.lawful = true → s.adapts key = true → s.EnumsTrip valid key a → RoundTrips valid key s a
  | _, .u8, _, a, _, h, _ => roundTrips_of_leaf h rfl rfl (denotes_u8 h a)
  | _, .u32, _, a, _, h, _ => roundTrips_of_leaf h rfl rfl (denotes_u32 h a)
  | _, .u64, _, a, _, h, _ => roundTrips_of_leaf h rfl rfl (denotes_u64 h a)
  | _, .i16, _, a, _, h, _ => roundTrips_of_leaf h rfl rfl (denotes_i16 h a)
  | _, .bool, _, a, _, h, _ => roundTrips_of_leaf h rfl rfl (denotes_bool h a)
  | _, .string, _, a, _, h, _ => roundTrips_of_leaf h rfl rfl (denotes_string h a)
  | _, .fixedBytes _ form, _, a, _, h, _ =>
    roundTrips_of_denotes (fromWasmValue_bytes h a.1) trivial
      (denotes_fixedBytes form (byteKeyOk_plain h) a)
  | _, .byteVec form, _, a, _, h, _ =>
    roundTrips_of_denotes (fromWasmValue_bytes h a) trivial
      (denotes_byteVec form (byteKeyOk_plain h) a)
  | _, .option s, _, none, _, _, _ => roundTrips_none s
  | _, .option s, _, some x, hl, h, he => by
    simp only [Schema.lawful, Schema.adapts, Bool.and_eq_true, Bool.not_eq_true'] at hl h
    exact roundTrips_option h.1 (Schema.roundTrips s hl.2 h.2 (he x rfl))
  | _, .vec s, key, as, hl, h, he => by
    rw [Schema.adapts] at h
    cases hlist : byteListKey key with
    | true =>
      rw [if_pos hlist] at h
      exact roundTrips_numbers hlist h as
    | false =>
      rw [hlist, if_neg Bool.false_ne_true] at h
      simp only [Bool.and_eq_true, Bool.not_eq_true'] at h
      exact roundTrips_objects hlist h.1.1 h.1.2 fun a ha => Schema.itemTrips s hl h.2 (he a ha)
  | _, .struct fs e, key, a, hl, h, he => by
    simp only [Schema.lawful, Schema.adapts, Bool.and_eq_true, decide_eq_true_eq] at hl h
    obtain ⟨entries, htrip⟩ := Fields.trip fs hl.1 hl.2 h.2 he
    obtain ⟨hfrom, hshape, hback⟩ := htrip.object (Fields.namesOk_of_adapts fs h.2) hl.1
    have ho : key ≠ "oracleSource" := plainKey_ne h.1 (by decide)
    have ha : key ≠ "action" := plainKey_ne h.1 (by decide)
    refine ⟨.object entries, ?_, hshape, fun hv => ?_⟩
    · refine (fromWasmValue_object ho ha (fs.toEntries (e.symm a))).trans ?_
      rw [fromWasmItem, hfrom]
      rfl
    · obtain ⟨result, hconv, hread⟩ := hback hv
      refine .inl ⟨rfl, .object result, ?_, ?_⟩
      · rw [convertValue, if_neg ho, if_neg ha, hconv]
        rfl
      · exact ofJs_struct_eq_some.mpr hread
  | _, .enum _ _, _, _, _, _, he => he
theorem Schema.itemTrips : {α : Type} → (s : Schema α) → {key : String} → {a : α} →
    s.lawful = true → s.adaptsItem = true → s.EnumsTrip valid key a →
    ItemTrips valid fromWasmItem s a
  | _, .struct fs e, _, a, hl, h, he => by
    simp only [Schema.lawful, Bool.and_eq_true, decide_eq_true_eq] at hl
    rw [Schema.adaptsItem] at h
    obtain ⟨entries, htrip⟩ := Fields.trip fs hl.1 hl.2 h he
    obtain ⟨hfrom, hshape, hback⟩ := htrip.object (Fields.namesOk_of_adapts fs h) hl.1
    refine ⟨.object entries, ?_, hshape, fun hv => ?_⟩
    · rw [Schema.toJs, fromWasmItem, hfrom]
      rfl
    · obtain ⟨result, hconv, hread⟩ := hback hv
      refine ⟨.object result, ?_, ?_⟩
      · rw [convertItem, hconv]
        rfl
      · exact ofJs_struct_eq_some.mpr hread
theorem Fields.trip : {α : Type} → (fs : Fields α) → {a : α} → fs.names.Nodup →
    fs.lawful = true → fs.adapts = true → fs.EnumsTrip valid a →
    ∃ entries, FieldsTrip valid fs a entries
  | _, .nil, (), _, _, _, _ =>
    ⟨[], fun out _ => by rw [Fields.toEntries, fromWasmEntries, List.append_nil], rfl, trivial,
      fun _ => trivial⟩
  | _, .cons name s dflt fs, (a, b), hnodup, hl, h, he => by
    have hnames := Fields.namesOk_of_adapts _ h
    simp only [Fields.lawful, Fields.adapts, Bool.and_eq_true] at hl h
    obtain ⟨⟨⟨⟨_, hkey⟩, hdflt⟩, hs⟩, hfs⟩ := h
    obtain ⟨t, hfrom, hshape, hd⟩ := Schema.roundTrips s hl.1 hs he.1
    obtain ⟨entries, htail⟩ := Fields.trip fs (List.nodup_cons.mp hnodup).2 hl.2 hfs he.2
    exact ⟨_, FieldsTrip.cons hnames hnodup hkey hfrom hshape
      (fun hv => fieldDenotes_of_roundTrips hdflt (hd hv)) htail⟩
end

end TradingSdk.Serde
