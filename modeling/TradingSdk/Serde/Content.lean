import TradingSdk.Serde.Rmp

namespace TradingSdk.Serde

/-- A value of a human-readable self-describing format, of which `pythonize` is the one that the Python
binding uses. Maps have string keys. -/
inductive Content where
  | null
  | bool (b : Bool)
  | int (n : Int)
  | str (s : String)
  | bytes (bs : Bytes)
  | seq (items : List Content)
  | map (entries : List (String × Content))

namespace Content

def isNull : Content → Bool
  | .null => true
  | _ => false

def ofBytes (bs : Bytes) : List Content := bs.map fun b => .int b.toNat

end Content

def ByteForm.toContent (form : ByteForm) (bs : Bytes) : Content :=
  if form.humanScalar then .bytes bs else .seq (Content.ofBytes bs)

/-- A variant without payload is its name, any other a map from its name to the payload. -/
def taggedContent (name : String) : Option Content → Content
  | none => .str name
  | some payload => .map [(name, payload)]

mutual
def Schema.toContent : {α : Type} → Schema α → α → Content
  | _, .u8, n => .int n.toNat
  | _, .u32, n => .int n.toNat
  | _, .u64, n => .int n.toNat
  | _, .i16, n => .int n.toInt
  | _, .bool, b => .bool b
  | _, .string, s => .str s
  | _, .fixedBytes _ form, bs => form.toContent bs.1
  | _, .byteVec form, bs => form.toContent bs
  | _, .option _, none => .null
  | _, .option s, some a => s.toContent a
  | _, .vec s, as => .seq (as.map s.toContent)
  | _, .struct fs e, a => .map (fs.toContents (e.symm a))
  | _, .enum vs e, a => taggedContent (vs.tagOf (e.symm a)) (vs.payloadContent (e.symm a))
def Fields.toContents : {α : Type} → Fields α → α → List (String × Content)
  | _, .nil, _ => []
  | _, .cons name s _ fs, (a, b) => (name, s.toContent a) :: fs.toContents b
def Variants.payloadContent : {α : Type} → Variants α → α → Option Content
  | _, .unit _ _, .inl _ => none
  | _, .unit _ vs, .inr b => vs.payloadContent b
  | _, .newtype _ s _, .inl a => some (s.toContent a)
  | _, .newtype _ _ vs, .inr b => vs.payloadContent b
  | _, .struct _ fs _, .inl a => some (.map (fs.toContents a))
  | _, .struct _ _ vs, .inr b => vs.payloadContent b
end

def Content.readInt (lo hi : Int) : Content → Option Int
  | .int n => if lo ≤ n ∧ n < hi then some n else none
  | _ => none

def Content.readByte (v : Content) : Option UInt8 :=
  (v.readInt 0 (2^8)).map fun n => UInt8.ofNat n.toNat

def Content.readBool : Content → Option Bool
  | .bool b => some b
  | _ => none

def Content.readStr : Content → Option String
  | .str s => some s
  | _ => none

/-- The elements that a sequence visitor receives. -/
def Content.items : Content → Option (List Content)
  | .seq items => some items
  | .bytes bs => some (ofBytes bs)
  | _ => none

def Content.entries : Content → Option (List (String × Content))
  | .map entries => some entries
  | _ => none

/-- What a byte visitor receives. One without `visit_bytes` gets a byte scalar as a sequence. -/
def ByteForm.ofContent (form : ByteForm) : Content → Option Bytes
  | .seq items => items.mapM Content.readByte
  | .bytes bs => some bs
  | .str s => if form.readsStr then some (utf8 s) else none
  | _ => none

/-- A string stands for a variant without payload, a map with one entry for any other. -/
def Content.untag : Content → Option (String × Option Content)
  | .str name => some (name, none)
  | .map [(name, payload)] => some (name, some payload)
  | _ => none

/-- A field that is present is read, one that is missing has its default. -/
def readField {α : Type} (absent : Option α) (read : Content → Option α) :
    Option Content → Option α
  | none => absent
  | some v => read v

mutual
def Schema.ofContent : {α : Type} → Schema α → Content → Option α
  | _, .u8, v => v.readByte
  | _, .u32, v => (v.readInt 0 (2^32)).map fun n => UInt32.ofNat n.toNat
  | _, .u64, v => (v.readInt 0 (2^64)).map fun n => UInt64.ofNat n.toNat
  | _, .i16, v => (v.readInt (-2^15) (2^15)).map Int16.ofInt
  | _, .bool, v => v.readBool
  | _, .string, v => v.readStr
  | _, .fixedBytes n form, v =>
    (form.ofContent v).bind fun bs => if h : bs.length = n then some ⟨bs, h⟩ else none
  | _, .byteVec form, v => form.ofContent v
  | _, .option s, v => if v.isNull then some none else (s.ofContent v).map some
  | _, .vec s, v => v.items.bind fun items => items.mapM s.ofContent
  | _, .struct fs e, v => (v.entries.bind fs.ofContents).map e
  | _, .enum vs e, v => (v.untag.bind fun tagged => vs.selectContent tagged.1 tagged.2).map e
/-- Fields are looked up by their names; other keys are ignored. -/
def Fields.ofContents : {α : Type} → Fields α → List (String × Content) → Option α
  | _, .nil, _ => some ()
  | _, .cons name s dflt fs, entries =>
    (readField (dflt <|> s.absent) s.ofContent (entries.lookup name)).bind fun a =>
      (fs.ofContents entries).map fun b => (a, b)
def Variants.selectContent : {α : Type} → Variants α → String → Option Content → Option α
  | _, .nil, _, _ => none
  | _, .unit name vs, tag, payload =>
    if tag = name then if payload.all Content.isNull then some (.inl ()) else none
    else (vs.selectContent tag payload).map .inr
  | _, .newtype name s vs, tag, payload =>
    if tag = name then (payload.bind s.ofContent).map .inl
    else (vs.selectContent tag payload).map .inr
  | _, .struct name fs vs, tag, payload =>
    if tag = name then (payload.bind fun v => v.entries.bind fs.ofContents).map .inl
    else (vs.selectContent tag payload).map .inr
end

theorem Content.readInt_int {lo hi n : Int} (hlo : lo ≤ n) (hhi : n < hi) :
    (Content.int n).readInt lo hi = some n :=
  if_pos ⟨hlo, hhi⟩

@[simp] theorem Content.readByte_int (b : UInt8) : (Content.int b.toNat).readByte = some b := by
  have hb := b.toNat_lt
  rw [readByte, readInt_int (by omega) (by omega)]
  simp

theorem Content.mapM_ofBytes (bs : Bytes) : (ofBytes bs).mapM readByte = some bs :=
  mapM_map_of_inverse readByte_int bs

theorem ofContent_u32 (n : UInt32) : Schema.u32.ofContent (.int n.toNat) = some n := by
  have hn := n.toNat_lt
  rw [Schema.ofContent, Content.readInt_int (by omega) (by omega)]
  simp

theorem ofContent_u64 (n : UInt64) : Schema.u64.ofContent (.int n.toNat) = some n := by
  have hn := n.toNat_lt
  rw [Schema.ofContent, Content.readInt_int (by omega) (by omega)]
  simp

theorem ofContent_i16 (n : Int16) : Schema.i16.ofContent (.int n.toInt) = some n := by
  have hlo := n.le_toInt
  have hhi := n.toInt_lt
  rw [Schema.ofContent, Content.readInt_int hlo hhi]
  simp

theorem ByteForm.ofContent_toContent (form : ByteForm) (bs : Bytes) :
    form.ofContent (form.toContent bs) = some bs := by
  rw [toContent]
  split_ifs
  · rfl
  · exact Content.mapM_ofBytes bs

theorem Content.untag_taggedContent (name : String) (payload : Option Content) :
    (taggedContent name payload).untag = some (name, payload) := by
  cases payload <;> rfl

theorem isNull_toContent : {α : Type} → (s : Schema α) → (a : α) → s.nullable = false →
    (s.toContent a).isNull = false
  | _, .u8, _, _ => rfl
  | _, .u32, _, _ => rfl
  | _, .u64, _, _ => rfl
  | _, .i16, _, _ => rfl
  | _, .bool, _, _ => rfl
  | _, .string, _, _ => rfl
  | _, .fixedBytes _ form, bs, _ => by
    rw [Schema.toContent, ByteForm.toContent]
    split_ifs <;> rfl
  | _, .byteVec form, bs, _ => by
    rw [Schema.toContent, ByteForm.toContent]
    split_ifs <;> rfl
  | _, .option _, _, h => by cases h
  | _, .vec _, _, _ => rfl
  | _, .struct _ _, _, _ => rfl
  | _, .enum vs e, a, _ => by
    rw [Schema.toContent]
    cases vs.payloadContent (e.symm a) <;> rfl

theorem lookup_cons_of_ne {name key : String} {v : Content} {entries : List (String × Content)}
    (h : name ≠ key) : ((key, v) :: entries).lookup name = entries.lookup name := by
  simp [List.lookup_cons, beq_false_of_ne h]

/-- An entry under another name does not matter. -/
theorem Fields.ofContents_cons : {α : Type} → (fs : Fields α) → {name : String} → {v : Content} →
    {entries : List (String × Content)} → name ∉ fs.names →
    fs.ofContents ((name, v) :: entries) = fs.ofContents entries
  | _, .nil, _, _, _, _ => rfl
  | _, .cons name' s dflt fs, _, _, _, h => by
    rw [Fields.names, List.mem_cons, not_or] at h
    rw [Fields.ofContents, Fields.ofContents, lookup_cons_of_ne (Ne.symm h.1),
      Fields.ofContents_cons fs h.2]

mutual
/-- Whatever is serialized is read back. -/
theorem Schema.ofContent_toContent : {α : Type} → (s : Schema α) → (a : α) → s.lawful = true →
    s.ofContent (s.toContent a) = some a
  | _, .u8, n, _ => Content.readByte_int n
  | _, .u32, n, _ => ofContent_u32 n
  | _, .u64, n, _ => ofContent_u64 n
  | _, .i16, n, _ => ofContent_i16 n
  | _, .bool, _, _ => rfl
  | _, .string, _, _ => rfl
  | _, .fixedBytes n form, bs, _ => by
    rw [Schema.toContent, Schema.ofContent, form.ofContent_toContent]
    simp [bs.2]
  | _, .byteVec form, bs, _ => by
    rw [Schema.toContent, Schema.ofContent, form.ofContent_toContent]
  | _, .option _, none, _ => rfl
  | _, .option s, some a, h => by
    simp only [Schema.lawful, Bool.and_eq_true, Bool.not_eq_true'] at h
    rw [Schema.toContent, Schema.ofContent, isNull_toContent s a h.1, if_neg Bool.false_ne_true,
      Schema.ofContent_toContent s a h.2, Option.map_some]
  | _, .vec s, as, h => by
    rw [Schema.toContent, Schema.ofContent, Content.items, Option.bind_some]
    exact mapM_map_of_inverse (fun a => Schema.ofContent_toContent s a h) as
  | _, .struct fs e, a, h => by
    simp only [Schema.lawful, Bool.and_eq_true, decide_eq_true_eq] at h
    rw [Schema.toContent, Schema.ofContent, Content.entries, Option.bind_some,
      Fields.ofContents_toContents fs (e.symm a) h.1 h.2, Option.map_some, e.apply_symm_apply]
  | _, .enum vs e, a, h => by
    simp only [Schema.lawful, Bool.and_eq_true, decide_eq_true_eq] at h
    rw [Schema.toContent, Schema.ofContent, Content.untag_taggedContent, Option.bind_some,
      Variants.selectContent_payloadContent vs (e.symm a) h.1 h.2, Option.map_some,
      e.apply_symm_apply]
theorem Fields.ofContents_toContents : {α : Type} → (fs : Fields α) → (a : α) →
    fs.names.Nodup → fs.lawful = true → fs.ofContents (fs.toContents a) = some a
  | _, .nil, _, _, _ => rfl
  | _, .cons name s dflt fs, (a, b), hn, h => by
    obtain ⟨hname, hrest⟩ := List.nodup_cons.mp hn
    simp only [Fields.lawful, Bool.and_eq_true] at h
    rw [Fields.toContents, Fields.ofContents, List.lookup_cons_self, readField,
      Schema.ofContent_toContent s a h.1, Option.bind_some, Fields.ofContents_cons fs hname,
      Fields.ofContents_toContents fs b hrest h.2, Option.map_some]
/-- A variant of another name passes the value on. -/
theorem Variants.selectContent_payloadContent : {α : Type} → (vs : Variants α) → (a : α) →
    vs.names.Nodup → vs.lawful = true →
    vs.selectContent (vs.tagOf a) (vs.payloadContent a) = some a
  | _, .unit name vs, .inl (), _, _ => by
    rw [Variants.selectContent, Variants.tagOf, Variants.payloadContent, if_pos rfl]
    rfl
  | _, .unit name vs, .inr b, hn, h => by
    obtain ⟨-, hrest⟩ := List.nodup_cons.mp hn
    have hne : vs.tagOf b ≠ name := Variants.tagOf_ne hn b
    rw [Variants.selectContent, Variants.tagOf, Variants.payloadContent, if_neg hne,
      Variants.selectContent_payloadContent vs b hrest h, Option.map_some]
  | _, .newtype name s vs, .inl a, _, h => by
    simp only [Variants.lawful, Bool.and_eq_true] at h
    rw [Variants.selectContent, Variants.tagOf, Variants.payloadContent, if_pos rfl,
      Option.bind_some, Schema.ofContent_toContent s a h.1, Option.map_some]
  | _, .newtype name s vs, .inr b, hn, h => by
    obtain ⟨-, hrest⟩ := List.nodup_cons.mp hn
    have hne : vs.tagOf b ≠ name := Variants.tagOf_ne hn b
    simp only [Variants.lawful, Bool.and_eq_true] at h
    rw [Variants.selectContent, Variants.tagOf, Variants.payloadContent, if_neg hne,
      Variants.selectContent_payloadContent vs b hrest h.2, Option.map_some]
  | _, .struct name fs vs, .inl a, _, h => by
    simp only [Variants.lawful, Bool.and_eq_true, decide_eq_true_eq] at h
    rw [Variants.selectContent, Variants.tagOf, Variants.payloadContent, if_pos rfl,
      Option.bind_some, Content.entries, Option.bind_some,
      Fields.ofContents_toContents fs a h.1.1 h.1.2, Option.map_some]
  | _, .struct name fs vs, .inr b, hn, h => by
    obtain ⟨-, hrest⟩ := List.nodup_cons.mp hn
    have hne : vs.tagOf b ≠ name := Variants.tagOf_ne hn b
    simp only [Variants.lawful, Bool.and_eq_true] at h
    rw [Variants.selectContent, Variants.tagOf, Variants.payloadContent, if_neg hne,
      Variants.selectContent_payloadContent vs b hrest h.2, Option.map_some]
end

/-- A serializer and a deserializer for such a format, as the code relies on them. -/
structure ContentSerde where
  toContent : {α : Type} → Schema α → α → Except String Content
  fromContent : {α : Type} → Schema α → Content → Except String α
  toContent_eq : ∀ {α : Type} (s : Schema α) (a : α), toContent s a = .ok (s.toContent a)
  fromContent_ok : ∀ {α : Type} (s : Schema α) (v : Content) (a : α), s.ofContent v = some a →
    fromContent s v = .ok a

def ContentSerde.reference : ContentSerde where
  toContent s a := .ok (s.toContent a)
  fromContent s v := match s.ofContent v with
    | some a => .ok a
    | none => .error "invalid type"
  toContent_eq _ _ := rfl
  fromContent_ok s v a h := by simp only [h]

end TradingSdk.Serde
