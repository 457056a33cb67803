import TradingSdk.Js.Value
import TradingSdk.Serde.Rmp

namespace TradingSdk.Serde

open Js

def byteNumbers (bs : Bytes) : List JsVal := bs.map fun b => .number b.toNat

def ByteForm.toJs (form : ByteForm) (bs : Bytes) : JsVal :=
  if form.humanScalar then .uint8Array bs else .array (byteNumbers bs)

/-- A variant without payload is its name, any other an object with one key. -/
def taggedJs (name : String) : Option JsVal → JsVal
  | none => .string name
  | some payload => .object [(name, payload)]

mutual
/-- The same implementations through `serde_wasm_bindgen`, a human-readable format whose 64-bit integers
are configured to be bigints. -/
def Schema.toJs : {α : Type} → Schema α → α → JsVal
  | _, .u8, n => .number n.toNat
  | _, .u32, n => .number n.toNat
  | _, .u64, n => .bigint n.toNat
  | _, .i16, n => .number n.toInt
  | _, .bool, b => .bool b
  | _, .string, s => .string s
  | _, .fixedBytes _ form, bs => form.toJs bs.1
  | _, .byteVec form, bs => form.toJs bs
  | _, .option _, none => .undefined
  | _, .option s, some a => s.toJs a
  | _, .vec s, as => .array (as.map s.toJs)
  | _, .struct fs e, a => .object (fs.toEntries (e.symm a))
  | _, .enum vs e, a => taggedJs (vs.tagOf (e.symm a)) (vs.payloadJs (e.symm a))
def Fields.toEntries : {α : Type} → Fields α → α → List (String × JsVal)
  | _, .nil, _ => []
  | _, .cons name s _ fs, (a, b) => (name, s.toJs a) :: fs.toEntries b
def Variants.payloadJs : {α : Type} → Variants α → α → Option JsVal
  | _, .unit _ _, .inl _ => none
  | _, .unit _ vs, .inr b => vs.payloadJs b
  | _, .newtype _ s _, .inl a => some (s.toJs a)
  | _, .newtype _ _ vs, .inr b => vs.payloadJs b
  | _, .struct _ fs _, .inl a => some (.object (fs.toEntries a))
  | _, .struct _ _ vs, .inr b => vs.payloadJs b
end

/-- `Number.isSafeInteger`. -/
def isSafeInteger (n : Int) : Bool := decide (-2^53 < n ∧ n < 2^53)

/-- A number in range; wider types also take bigints. -/
def readJsInt (lo hi : Int) (big : Bool) : JsVal → Option Int
  | .number n => if isSafeInteger n ∧ lo ≤ n ∧ n < hi then some n else none
  | .bigint n => if big ∧ lo ≤ n ∧ n < hi then some n else none
  | _ => none

def readJsByte (v : JsVal) : Option UInt8 :=
  (readJsInt 0 (2^8) false v).map fun n => UInt8.ofNat n.toNat

/-- The elements that an iterable value yields. -/
def jsItems : JsVal → Option (List JsVal)
  | .array items => some items
  | .uint8Array bs => some (byteNumbers bs)
  | _ => none

/-- What a byte visitor receives through `deserialize_any`. -/
def ByteForm.ofJs (form : ByteForm) : JsVal → Option Bytes
  | .array items => items.mapM readJsByte
  | .uint8Array bs => some bs
  | .string s => if form.readsStr then some (utf8 s) else none
  | _ => none

/-- A derived array takes the first `n` elements and leaves surplus ones unread. -/
def readJsTuple (n : Nat) (v : JsVal) : Option Bytes :=
  (jsItems v).bind fun items => (items.take n).mapM readJsByte

def exactly (n : Nat) (bs : Bytes) : Option (FixedBytes n) :=
  if h : bs.length = n then some ⟨bs, h⟩ else none

/-- An object gives its own entries; the keys of other objects never name a field. -/
def jsEntries : JsVal → Option (List (String × JsVal))
  | .object entries => some entries
  | .array _ => some []
  | .uint8Array _ => some []
  | _ => none

/-- A string stands for a variant without payload, an object with one key for any other. -/
def jsTag : JsVal → Option (String × JsVal)
  | .string name => some (name, .undefined)
  | .object [(name, payload)] => some (name, payload)
  | _ => none

def readJsBool : JsVal → Option Bool
  | .bool b => some b
  | _ => none

def readJsString : JsVal → Option String
  | .string s => some s
  | _ => none

/-- A field that is present is read, one that is missing has the value of an absent one. -/
def fieldValue {α : Type} (absent : Option α) (read : JsVal → Option α) : Option JsVal → Option α
  | none => absent
  | some v => read v

mutual
def Schema.ofJs : {α : Type} → Schema α → JsVal → Option α
  | _, .u8, v => readJsByte v
  | _, .u32, v => (readJsInt 0 (2^32) false v).map fun n => UInt32.ofNat n.toNat
  | _, .u64, v => (readJsInt 0 (2^64) true v).map fun n => UInt64.ofNat n.toNat
  | _, .i16, v => (readJsInt (-2^15) (2^15) false v).map Int16.ofInt
  | _, .bool, v => readJsBool v
  | _, .string, v => readJsString v
  | _, .fixedBytes n form, v =>
    (if form.readsScalar then form.ofJs v else readJsTuple n v).bind (exactly n)
  | _, .byteVec form, v =>
    if form.readsScalar then form.ofJs v else (jsItems v).bind fun items => items.mapM readJsByte
  | _, .option s, v => if v.isNullish then some none else (s.ofJs v).map some
  | _, .vec s, v => (jsItems v).bind fun items => items.mapM s.ofJs
  | _, .struct fs e, v => ((jsEntries v).bind fs.ofEntriesJs).map e
  | _, .enum vs e, v => ((jsTag v).bind fun tagged => vs.selectJs tagged.1 tagged.2).map e
/-- Fields are looked up by their declared names; other keys are ignored. -/
def Fields.ofEntriesJs : {α : Type} → Fields α → List (String × JsVal) → Option α
  | _, .nil, _ => some ()
  | _, .cons name s dflt fs, entries =>
    (fieldValue (dflt <|> s.absent) s.ofJs (entries.lookup name)).bind fun a =>
      (fs.ofEntriesJs entries).map fun b => (a, b)
def Variants.selectJs : {α : Type} → Variants α → String → JsVal → Option α
  | _, .nil, _, _ => none
  | _, .unit name vs, tag, payload =>
    if tag = name then if payload.isNullish then some (.inl ()) else none
    else (vs.selectJs tag payload).map .inr
  | _, .newtype name s vs, tag, payload =>
    if tag = name then (s.ofJs payload).map .inl else (vs.selectJs tag payload).map .inr
  | _, .struct name fs vs, tag, payload =>
    if tag = name then ((jsEntries payload).bind fs.ofEntriesJs).map .inl
    else (vs.selectJs tag payload).map .inr
end

/-- Each field reads its own value. -/
def Fields.Reads : {α : Type} → Fields α → List (String × JsVal) → α → Prop
  | _, .nil, _, _ => True
  | _, .cons name s dflt fs, entries, (a, b) =>
    fieldValue (dflt <|> s.absent) s.ofJs (entries.lookup name) = some a ∧ fs.Reads entries b

theorem Fields.ofEntriesJs_eq_some : {α : Type} → (fs : Fields α) →
    {entries : List (String × JsVal)} → {a : α} →
    (fs.ofEntriesJs entries = some a ↔ fs.Reads entries a)
  | _, .nil, _, () => ⟨fun _ => trivial, fun _ => rfl⟩
  | _, .cons name s dflt fs, entries, (a, b) => by
    rw [Fields.ofEntriesJs, Fields.Reads, ← Fields.ofEntriesJs_eq_some fs,
      Option.bind_eq_some_iff]
    constructor
    · rintro ⟨a', ha, hb⟩
      obtain ⟨b', hb', heq⟩ := Option.map_eq_some_iff.mp hb
      obtain ⟨rfl, rfl⟩ := Prod.mk.inj heq
      exact ⟨ha, hb'⟩
    · rintro ⟨ha, hb⟩
      exact ⟨a, ha, by rw [hb]; rfl⟩

theorem ofJs_struct_eq_some {τ α : Type} {fs : Fields τ} {e : τ ≃ α}
    {entries : List (String × JsVal)} {a : α} :
    (Schema.struct fs e).ofJs (.object entries) = some a ↔ fs.Reads entries (e.symm a) := by
  rw [Schema.ofJs, jsEntries, Option.bind_some, Option.map_eq_some_iff]
  constructor
  · rintro ⟨b, hb, rfl⟩
    rw [e.symm_apply_apply]
    exact (Fields.ofEntriesJs_eq_some fs).mp hb
  · intro h
    exact ⟨e.symm a, (Fields.ofEntriesJs_eq_some fs).mpr h, e.apply_symm_apply a⟩

/-- `serde_wasm_bindgen` inside the WASM build of the core: faithful conversions in both
directions, and a limit on byte vectors that a 32-bit address space imposes. -/
structure WasmSerde where
  capacity : Nat
  toValue : {α : Type} → Schema α → α → Except String JsVal
  fromValue : {α : Type} → Schema α → JsVal → Except String α
  capacity_lt : capacity < 2^32
  toValue_eq : ∀ {α : Type} (s : Schema α) (a : α), toValue s a = .ok (s.toJs a)
  fromValue_eq_ok : ∀ {α : Type} (s : Schema α) (v : JsVal) (a : α),
    fromValue s v = .ok a ↔ s.ofJs v = some a

def WasmSerde.reference : WasmSerde where
  capacity := 2^31 - 1
  toValue s a := .ok (s.toJs a)
  fromValue s v := match s.ofJs v with
    | some a => .ok a
    | none => .error "invalid type"
  capacity_lt := by norm_num
  toValue_eq _ _ := rfl
  fromValue_eq_ok s v a := by cases s.ofJs v <;> simp

theorem JsVal.eq_of_isNullish {v : JsVal} (h : v.isNullish = true) : v = .undefined ∨ v = .null := by
  cases v with
  | undefined => exact .inl rfl
  | null => exact .inr rfl
  | _ => cases h

/-- Only options read a nullish value. -/
theorem Schema.ofJs_of_isNullish {α : Type} (s : Schema α) {v : JsVal} (hs : s.nullable = false)
    (hv : v.isNullish = true) : s.ofJs v = none := by
  have hnull := JsVal.eq_of_isNullish hv
  cases s with
  | option s => cases hs
  | fixedBytes n form =>
    rw [Schema.ofJs]
    obtain rfl | rfl := hnull <;> cases form.readsScalar <;> rfl
  | byteVec form =>
    rw [Schema.ofJs]
    obtain rfl | rfl := hnull <;> cases form.readsScalar <;> rfl
  | _ => obtain rfl | rfl := hnull <;> rfl

theorem Schema.isNullish_of_ofJs {α : Type} (s : Schema α) {v : JsVal} {a : α}
    (hs : s.nullable = false) (h : s.ofJs v = some a) : v.isNullish = false := by
  by_contra hv
  rw [s.ofJs_of_isNullish hs (eq_true_of_ne_false hv)] at h
  cases h

theorem readJsInt_number {lo hi n : Int} (big : Bool) (hlo : lo ≤ n) (hhi : n < hi)
    (hs : isSafeInteger n = true) : readJsInt lo hi big (.number n) = some n :=
  if_pos ⟨hs, hlo, hhi⟩

theorem readJsInt_bigint {lo hi n : Int} (hlo : lo ≤ n) (hhi : n < hi) :
    readJsInt lo hi true (.bigint n) = some n :=
  if_pos ⟨rfl, hlo, hhi⟩

theorem isSafeInteger_of_bound {n : Int} (hlo : -2^32 ≤ n) (hhi : n < 2^32) :
    isSafeInteger n = true := by
  simp only [isSafeInteger, decide_eq_true_eq]
  omega

@[simp] theorem readJsByte_number (b : UInt8) : readJsByte (.number b.toNat) = some b := by
  have h := b.toNat_lt
  rw [readJsByte, readJsInt_number false (by omega) (by omega)
    (isSafeInteger_of_bound (by omega) (by omega))]
  simp

@[simp] theorem mapM_byteNumbers (bs : Bytes) : (byteNumbers bs).mapM readJsByte = some bs := by
  induction bs with
  | nil => rfl
  | cons b bs ih =>
    rw [byteNumbers, List.map_cons, List.mapM_cons, readJsByte_number]
    rw [byteNumbers] at ih
    simp [ih]

theorem ofJs_u32 (n : UInt32) : Schema.u32.ofJs (.number n.toNat) = some n := by
  have h := n.toNat_lt
  rw [Schema.ofJs, readJsInt_number false (by omega) (by omega)
    (isSafeInteger_of_bound (by omega) (by omega))]
  simp

theorem ofJs_u64 (n : UInt64) : Schema.u64.ofJs (.bigint n.toNat) = some n := by
  have h := n.toNat_lt
  rw [Schema.ofJs, readJsInt_bigint (by omega) (by omega)]
  simp

theorem ofJs_i16 (n : Int16) : Schema.i16.ofJs (.number n.toInt) = some n := by
  have hlo := n.le_toInt
  have hhi := n.toInt_lt
  rw [Schema.ofJs, readJsInt_number false hlo hhi
    (isSafeInteger_of_bound (by omega) (by omega))]
  simp

theorem ofJs_fixedBytes {n : Nat} (form : ByteForm) (bs : FixedBytes n) :
    (Schema.fixedBytes n form).ofJs (.uint8Array bs.1) = some bs := by
  have htake : (byteNumbers bs.1).take n = byteNumbers bs.1 :=
    List.take_of_length_le (by simp [byteNumbers, bs.2])
  by_cases hr : form.readsScalar = true
  · simp [Schema.ofJs, hr, ByteForm.ofJs, exactly, bs.2]
  · simp [Schema.ofJs, hr, readJsTuple, jsItems, htake, exactly, bs.2]

theorem ofJs_byteVec (form : ByteForm) (bs : Bytes) :
    (Schema.byteVec form).ofJs (.uint8Array bs) = some bs := by
  by_cases hr : form.readsScalar = true <;> simp [Schema.ofJs, hr, ByteForm.ofJs, jsItems]

theorem jsTag_taggedJs (name : String) (payload : Option JsVal) :
    jsTag (taggedJs name payload) = some (name, payload.getD .undefined) := by
  cases payload <;> rfl

theorem ofJs_byteForm (n : Nat) (form : ByteForm) (bs : FixedBytes n) :
    (Schema.fixedBytes n form).ofJs (form.toJs bs.1) = some bs := by
  cases hform : form.humanScalar with
  | true =>
    rw [ByteForm.toJs, if_pos hform]
    exact ofJs_fixedBytes form bs
  | false =>
    have htake : (byteNumbers bs.1).take n = byteNumbers bs.1 :=
      List.take_of_length_le (by simp [byteNumbers, bs.2])
    rw [ByteForm.toJs, hform, if_neg Bool.false_ne_true]
    by_cases hr : form.readsScalar = true
    · simp [Schema.ofJs, hr, ByteForm.ofJs, exactly, bs.2]
    · simp [Schema.ofJs, hr, readJsTuple, jsItems, htake, exactly, bs.2]

theorem ofJs_byteVecForm (form : ByteForm) (bs : Bytes) :
    (Schema.byteVec form).ofJs (form.toJs bs) = some bs := by
  cases hform : form.humanScalar with
  | true =>
    rw [ByteForm.toJs, if_pos hform]
    exact ofJs_byteVec form bs
  | false =>
    rw [ByteForm.toJs, hform, if_neg Bool.false_ne_true]
    by_cases hr : form.readsScalar = true <;> simp [Schema.ofJs, hr, ByteForm.ofJs, jsItems]

/-- An entry under another name does not matter. -/
theorem Fields.ofEntriesJs_cons : {α : Type} → (fs : Fields α) → {name : String} → {v : JsVal} →
    {entries : List (String × JsVal)} → name ∉ fs.names →
    fs.ofEntriesJs ((name, v) :: entries) = fs.ofEntriesJs entries
  | _, .nil, _, _, _, _ => rfl
  | _, .cons name' s dflt fs, _, _, _, h => by
    rw [Fields.names, List.mem_cons, not_or] at h
    rw [Fields.ofEntriesJs, Fields.ofEntriesJs, lookup_cons_ite, if_neg (Ne.symm h.1),
      Fields.ofEntriesJs_cons fs h.2]

mutual
/-- Whatever the core hands over, it reads back. -/
theorem Schema.ofJs_toJs : {α : Type} → (s : Schema α) → (a : α) → s.lawful = true →
    s.ofJs (s.toJs a) = some a
  | _, .u8, n, _ => readJsByte_number n
  | _, .u32, n, _ => ofJs_u32 n
  | _, .u64, n, _ => ofJs_u64 n
  | _, .i16, n, _ => ofJs_i16 n
  | _, .bool, _, _ => rfl
  | _, .string, _, _ => rfl
  | _, .fixedBytes n form, bs, _ => ofJs_byteForm n form bs
  | _, .byteVec form, bs, _ => ofJs_byteVecForm form bs
  | _, .option _, none, _ => rfl
  | _, .option s, some a, h => by
    simp only [Schema.lawful, Bool.and_eq_true, Bool.not_eq_true'] at h
    have hs := Schema.ofJs_toJs s a h.2
    rw [Schema.toJs, Schema.ofJs, s.isNullish_of_ofJs h.1 hs, if_neg Bool.false_ne_true, hs]
    rfl
  | _, .vec s, as, h => by
    rw [Schema.toJs, Schema.ofJs, jsItems, Option.bind_some]
    exact mapM_map_of_inverse (fun a => Schema.ofJs_toJs s a h) as
  | _, .struct fs e, a, h => by
    simp only [Schema.lawful, Bool.and_eq_true, decide_eq_true_eq] at h
    rw [Schema.toJs, Schema.ofJs, jsEntries, Option.bind_some,
      Fields.ofEntriesJs_toEntries fs (e.symm a) h.1 h.2, Option.map_some, e.apply_symm_apply]
  | _, .enum vs e, a, h => by
    simp only [Schema.lawful, Bool.and_eq_true, decide_eq_true_eq] at h
    rw [Schema.toJs, Schema.ofJs, jsTag_taggedJs, Option.bind_some,
      Variants.selectJs_payloadJs vs (e.symm a) h.1 h.2, Option.map_some, e.apply_symm_apply]
theorem Fields.ofEntriesJs_toEntries : {α : Type} → (fs : Fields α) → (a : α) →
    fs.names.Nodup → fs.lawful = true → fs.ofEntriesJs (fs.toEntries a) = some a
  | _, .nil, _, _, _ => rfl
  | _, .cons name s dflt fs, (a, b), hn, h => by
    obtain ⟨hname, hrest⟩ := List.nodup_cons.mp hn
    simp only [Fields.lawful, Bool.and_eq_true] at h
    rw [Fields.toEntries, Fields.ofEntriesJs, lookup_cons_ite, if_pos rfl, fieldValue,
      Schema.ofJs_toJs s a h.1, Option.bind_some, Fields.ofEntriesJs_cons fs hname,
      Fields.ofEntriesJs_toEntries fs b hrest h.2]
    rfl
theorem Variants.selectJs_payloadJs : {α : Type} → (vs : Variants α) → (a : α) →
    vs.names.Nodup → vs.lawful = true →
    vs.selectJs (vs.tagOf a) ((vs.payloadJs a).getD .undefined) = some a
  | _, .unit name vs, .inl (), _, _ => by
    rw [Variants.selectJs, Variants.tagOf, Variants.payloadJs, if_pos rfl]
    rfl
  | _, .unit name vs, .inr b, hn, h => by
    obtain ⟨-, hrest⟩ := List.nodup_cons.mp hn
    have hne : vs.tagOf b ≠ name := Variants.tagOf_ne hn b
    rw [Variants.selectJs, Variants.tagOf, Variants.payloadJs, if_neg hne,
      Variants.selectJs_payloadJs vs b hrest h]
    rfl
  | _, .newtype name s vs, .inl a, _, h => by
    simp only [Variants.lawful, Bool.and_eq_true] at h
    rw [Variants.selectJs, Variants.tagOf, Variants.payloadJs, if_pos rfl, Option.getD_some,
      Schema.ofJs_toJs s a h.1]
    rfl
  | _, .newtype name s vs, .inr b, hn, h => by
    obtain ⟨-, hrest⟩ := List.nodup_cons.mp hn
    have hne : vs.tagOf b ≠ name := Variants.tagOf_ne hn b
    simp only [Variants.lawful, Bool.and_eq_true] at h
    rw [Variants.selectJs, Variants.tagOf, Variants.payloadJs, if_neg hne,
      Variants.selectJs_payloadJs vs b hrest h.2]
    rfl
  | _, .struct name fs vs, .inl a, _, h => by
    simp only [Variants.lawful, Bool.and_eq_true, decide_eq_true_eq] at h
    rw [Variants.selectJs, Variants.tagOf, Variants.payloadJs, if_pos rfl, Option.getD_some,
      jsEntries, Option.bind_some, Fields.ofEntriesJs_toEntries fs a h.1.1 h.1.2]
    rfl
  | _, .struct name fs vs, .inr b, hn, h => by
    obtain ⟨-, hrest⟩ := List.nodup_cons.mp hn
    have hne : vs.tagOf b ≠ name := Variants.tagOf_ne hn b
    simp only [Variants.lawful, Bool.and_eq_true] at h
    rw [Variants.selectJs, Variants.tagOf, Variants.payloadJs, if_neg hne,
      Variants.selectJs_payloadJs vs b hrest h.2]
    rfl
end

end TradingSdk.Serde
