import TradingSdk.Serde.Schema
import TradingSdk.Msgpack.Wire

namespace TradingSdk.Serde

open Msgpack

def byteItems (bs : Bytes) : List Msg := bs.map fun b => .int b.toNat

def ByteForm.toMsg (form : ByteForm) (bs : Bytes) : Msg :=
  if form.wireScalar then .bin bs else .arr (byteItems bs)

/-- A variant without payload is its name, any other a map from its name to the payload. -/
def taggedMsg (name : String) : Option Msg → Msg
  | none => .str (utf8 name)
  | some payload => .map [(.str (utf8 name), payload)]

mutual
def Schema.toMsg : {α : Type} → Schema α → α → Msg
  | _, .u8, n => .int n.toNat
  | _, .u32, n => .int n.toNat
  | _, .u64, n => .int n.toNat
  | _, .i16, n => .int n.toInt
  | _, .bool, b => .bool b
  | _, .string, s => .str (utf8 s)
  | _, .fixedBytes _ form, bs => form.toMsg bs.1
  | _, .byteVec form, bs => form.toMsg bs
  | _, .option _, none => .nil
  | _, .option s, some a => s.toMsg a
  | _, .vec s, as => .arr (as.map s.toMsg)
  | _, .struct fs e, a => .arr (fs.toMsgs (e.symm a))
  | _, .enum vs e, a => taggedMsg (vs.tagOf (e.symm a)) (vs.payload (e.symm a))
def Fields.toMsgs : {α : Type} → Fields α → α → List Msg
  | _, .nil, _ => []
  | _, .cons _ s _ fs, (a, b) => s.toMsg a :: fs.toMsgs b
def Variants.payload : {α : Type} → Variants α → α → Option Msg
  | _, .unit _ _, .inl _ => none
  | _, .unit _ vs, .inr b => vs.payload b
  | _, .newtype _ s _, .inl a => some (s.toMsg a)
  | _, .newtype _ _ vs, .inr b => vs.payload b
  | _, .struct _ fs _, .inl a => some (.arr (fs.toMsgs a))
  | _, .struct _ _ vs, .inr b => vs.payload b
end

def readUInt (bound : Nat) : Msg → Option Nat
  | .int n => if 0 ≤ n ∧ n < bound then some n.toNat else none
  | .signed n => if n < bound then some n else none
  | _ => none

def readByte (m : Msg) : Option UInt8 := (readUInt (2^8) m).map UInt8.ofNat

/-- What a deserializer makes of a `bin` where the type has no `visit_bytes`: whether a `Vec` gets it
as a sequence, and what becomes of a bare array of `n` bytes. Both are left to its version. -/
structure BinForms where
  binAsSeq : Bool
  arrayOfBin : (n : Nat) → Bytes → Option (FixedBytes n)

/-- A bare array takes a `bin` of its length. -/
def BinForms.reference : BinForms where
  binAsSeq := true
  arrayOfBin n bs := if h : bs.length = n then some ⟨bs, h⟩ else none

def fixedBytesOf (n : Nat) (bs : Bytes) : Option (FixedBytes n) :=
  if h : bs.length = n then some ⟨bs, h⟩ else none

/-- What a byte visitor receives: the elements of an array, the content of a `bin`, and of a `str`
when the visitor takes strings or the content is not a string at all. Without `visit_bytes` a `bin`
arrives as a sequence or as an error, depending on the deserializer's version. -/
def ByteForm.ofMsg (form : ByteForm) (binAsSeq : Bool) : Msg → Option Bytes
  | .arr items => items.mapM readByte
  | .bin bs => if form.readsScalar || binAsSeq then some bs else none
  | .str bs =>
    match ofUtf8 bs with
    | some _ => if form.readsStr then some bs else none
    | none => if form.readsScalar then some bs else none
  | _ => none

def ByteForm.fixedOfMsg (form : ByteForm) (forms : BinForms) (n : Nat) : Msg → Option (FixedBytes n)
  | .bin bs => if form.readsScalar then fixedBytesOf n bs else forms.arrayOfBin n bs
  | m => (form.ofMsg forms.binAsSeq m).bind (fixedBytesOf n)

/-- A variant or field identifier: by name or by position. A position is no signed integer. -/
inductive Ident where
  | name (bytes : Bytes)
  | index (n : Nat)

def Ident.ofMsg : Msg → Option Ident
  | .str bs => some (.name bs)
  | .bin bs => some (.name bs)
  | .int n => if 0 ≤ n then some (.index n.toNat) else none
  | _ => none

def Ident.selects (id : Ident) (name : String) (i : Nat) : Bool :=
  match id with
  | .name bs => decide (bs = utf8 name)
  | .index n => decide (n = i)

/-- The entries of a map whose key names the field. -/
def entriesOf (name : String) (i : Nat) (entries : List (Ident × Msg)) : List Msg :=
  (entries.filter fun entry => entry.1.selects name i).map Prod.snd

def readEntryKeys (entries : List (Msg × Msg)) : Option (List (Ident × Msg)) :=
  entries.mapM fun entry => (Ident.ofMsg entry.1).map fun id => (id, entry.2)

/-- The variant identifier of an enum value, with its payload unless the variant stands alone. -/
def untag : Msg → Option (Ident × Option Msg)
  | .map [(key, payload)] => (Ident.ofMsg key).map fun id => (id, some payload)
  | .map _ => none
  | m => (Ident.ofMsg m).map fun id => (id, none)

def readI16 : Msg → Option Int16
  | .int n => if -2^15 ≤ n ∧ n < 2^15 then some (Int16.ofInt n) else none
  | .signed n => if n < 2^15 then some (Int16.ofInt n) else none
  | _ => none

def readBool : Msg → Option Bool
  | .bool b => some b
  | _ => none

def readString : Msg → Option String
  | .str bs => ofUtf8 bs
  | .bin bs => ofUtf8 bs
  | _ => none

/-- The elements that a sequence visitor receives. -/
def seqItems (binAsSeq : Bool) : Msg → Option (List Msg)
  | .arr items => some items
  | .bin bs => if binAsSeq then some (byteItems bs) else none
  | _ => none

def isNil : Msg → Bool
  | .nil => true
  | _ => false

/-- A struct body is offered either by position or by key. -/
def structBody {α : Type} (ofSeq : List Msg → Option α) (ofEntries : List (Ident × Msg) → Option α) :
    Msg → Option α
  | .arr items => ofSeq items
  | .map entries => (readEntryKeys entries).bind ofEntries
  | _ => none

mutual
def Schema.ofMsg (forms : BinForms) : {α : Type} → Schema α → Msg → Option α
  | _, .u8, m => readByte m
  | _, .u32, m => (readUInt (2^32) m).map UInt32.ofNat
  | _, .u64, m => (readUInt (2^64) m).map UInt64.ofNat
  | _, .i16, m => readI16 m
  | _, .bool, m => readBool m
  | _, .string, m => readString m
  | _, .fixedBytes n form, m => form.fixedOfMsg forms n m
  | _, .byteVec form, m => form.ofMsg forms.binAsSeq m
  | _, .option s, m => if isNil m then some none else (s.ofMsg forms m).map some
  | _, .vec s, m => (seqItems forms.binAsSeq m).bind fun items => items.mapM (s.ofMsg forms)
  | _, .struct fs e, m => (structBody (fs.ofSeq forms) (fs.ofEntries forms 0) m).map e
  | _, .enum vs e, m => ((untag m).bind fun tagged =>
      vs.select forms 0 tagged.1 tagged.2).map e
/-- A struct offered as a sequence: missing elements take their defaults, surplus ones are a
length error. -/
def Fields.ofSeq (forms : BinForms) : {α : Type} → Fields α → List Msg → Option α
  | _, .nil, [] => some ()
  | _, .nil, _ :: _ => none
  | _, .cons _ s _ fs, m :: ms => do
    let a ← s.ofMsg forms m
    let b ← fs.ofSeq forms ms
    return (a, b)
  | _, .cons _ _ dflt fs, [] => do
    let a ← dflt
    let b ← fs.ofSeq forms []
    return (a, b)
/-- A struct offered as a map: unknown keys are ignored, a repeated one is an error. -/
def Fields.ofEntries (forms : BinForms) :
    {α : Type} → Fields α → Nat → List (Ident × Msg) → Option α
  | _, .nil, _, _ => some ()
  | _, .cons name s dflt fs, i, entries => do
    let a ← match entriesOf name i entries with
      | [] => dflt <|> s.absent
      | [m] => s.ofMsg forms m
      | _ => none
    let b ← fs.ofEntries forms (i + 1) entries
    return (a, b)
def Variants.select (forms : BinForms) :
    {α : Type} → Variants α → Nat → Ident → Option Msg → Option α
  | _, .nil, _, _, _ => none
  | _, .unit name vs, i, id, payload =>
    if id.selects name i then if payload.all isNil then some (.inl ()) else none
    else (vs.select forms (i + 1) id payload).map .inr
  | _, .newtype name s vs, i, id, payload =>
    if id.selects name i then (payload.bind (s.ofMsg forms)).map .inl
    else (vs.select forms (i + 1) id payload).map .inr
  | _, .struct name fs vs, i, id, payload =>
    if id.selects name i then
      (payload.bind (structBody (fs.ofSeq forms) (fs.ofEntries forms 0))).map .inl
    else (vs.select forms (i + 1) id payload).map .inr
end

theorem mapM_map_of_inverse {α β : Type} {f : α → β} {g : β → Option α}
    (h : ∀ a, g (f a) = some a) (as : List α) : (as.map f).mapM g = some as := by
  induction as with
  | nil => rfl
  | cons a as ih => simp [List.mapM_cons, h, ih]

theorem mem_of_mapM {α β : Type} {f : α → Option β} {as : List α} {bs : List β}
    (h : as.mapM f = some bs) {b : β} (hb : b ∈ bs) : ∃ a ∈ as, f a = some b := by
  induction as generalizing bs with
  | nil =>
    obtain rfl := Option.some.inj h
    cases hb
  | cons a as ih =>
    rw [List.mapM_cons] at h
    obtain ⟨b', hb', h⟩ := Option.bind_eq_some_iff.mp h
    obtain ⟨bs', hbs, h⟩ := Option.bind_eq_some_iff.mp h
    obtain rfl := Option.some.inj h
    obtain rfl | hb := List.mem_cons.mp hb
    · exact ⟨a, List.mem_cons_self, hb'⟩
    · obtain ⟨a', ha', hf⟩ := ih hbs hb
      exact ⟨a', List.mem_cons_of_mem a ha', hf⟩

theorem mapM_isSome_iff {α β : Type} {f : α → Option β} {as : List α} :
    (as.mapM f).isSome = true ↔ ∀ a ∈ as, (f a).isSome = true := by
  induction as with
  | nil => simp
  | cons a as ih =>
    rw [List.forall_mem_cons, ← ih, List.mapM_cons]
    cases f a with
    | none => simp
    | some b => cases as.mapM f <;> simp

theorem mapM_eq_none {α β : Type} {f : α → Option β} {as : List α} {a : α} (ha : a ∈ as)
    (h : f a = none) : as.mapM f = none := by
  rw [← Option.not_isSome_iff_eq_none, mapM_isSome_iff]
  intro hall
  have hsome := hall a ha
  rw [h] at hsome
  cases hsome

theorem mapM_congr {α β : Type} {f g : α → Option β} {as : List α} (h : ∀ a ∈ as, f a = g a) :
    as.mapM f = as.mapM g := by
  induction as with
  | nil => rfl
  | cons a as ih =>
    rw [List.mapM_cons, List.mapM_cons, h a List.mem_cons_self,
      ih fun a' ha' => h a' (List.mem_cons_of_mem _ ha')]

theorem length_of_mapM {α β : Type} {f : α → Option β} {as : List α} {bs : List β}
    (h : as.mapM f = some bs) : bs.length = as.length := by
  induction as generalizing bs with
  | nil =>
    obtain rfl := Option.some.inj h
    rfl
  | cons a as ih =>
    rw [List.mapM_cons] at h
    obtain ⟨b, -, h⟩ := Option.bind_eq_some_iff.mp h
    obtain ⟨bs', hbs, h⟩ := Option.bind_eq_some_iff.mp h
    obtain rfl := Option.some.inj h
    rw [List.length_cons, List.length_cons, ih hbs]

theorem readUInt_int (bound n : Nat) (h : n < bound) : readUInt bound (.int n) = some n := by
  simp [readUInt, h]

@[simp] theorem readByte_int (b : UInt8) : readByte (.int b.toNat) = some b := by
  simp [readByte, readUInt_int _ _ b.toNat_lt]

theorem readUInt_eq_some {bound k : Nat} {n : Int} :
    readUInt bound (.int n) = some k ↔ n = k ∧ k < bound := by
  rw [readUInt]
  split_ifs with h
  · rw [Option.some_inj]
    omega
  · simp only [false_iff]
    omega

theorem readByte_eq_some {n : Int} {b : UInt8} : readByte (.int n) = some b ↔ n = b.toNat := by
  have hb := b.toNat_lt
  rw [readByte, Option.map_eq_some_iff]
  constructor
  · intro h
    obtain ⟨k, hk, rfl⟩ := h
    obtain ⟨rfl, hlt⟩ := readUInt_eq_some.mp hk
    rw [UInt8.toNat_ofNat_of_lt' hlt]
  · rintro rfl
    exact ⟨b.toNat, readUInt_eq_some.mpr ⟨rfl, hb⟩, UInt8.ofNat_toNat⟩

theorem ByteForm.ofMsg_toMsg (form : ByteForm) (binAsSeq : Bool) (bs : Bytes)
    (h : form.readsBack = true) : form.ofMsg binAsSeq (form.toMsg bs) = some bs := by
  unfold ByteForm.toMsg
  split_ifs with hw
  · have hr : form.readsScalar = true := by simpa [ByteForm.readsBack, hw] using h
    simp [ByteForm.ofMsg, hr]
  · simp only [ByteForm.ofMsg, byteItems]
    exact mapM_map_of_inverse readByte_int bs

theorem fixedBytesOf_self {n : Nat} (bs : FixedBytes n) : fixedBytesOf n bs.1 = some bs := by
  rw [fixedBytesOf, dif_pos bs.2]

theorem ByteForm.fixedOfMsg_toMsg (form : ByteForm) (c : BinForms) {n : Nat} (bs : FixedBytes n)
    (h : form.readsBack = true) : form.fixedOfMsg c n (form.toMsg bs.1) = some bs := by
  have hread := form.ofMsg_toMsg c.binAsSeq bs.1 h
  unfold ByteForm.toMsg at hread ⊢
  split_ifs at hread ⊢ with hw
  · have hr : form.readsScalar = true := by simpa [ByteForm.readsBack, hw] using h
    rw [ByteForm.fixedOfMsg, if_pos hr, fixedBytesOf_self]
  · rw [ByteForm.fixedOfMsg, hread, Option.bind_some, fixedBytesOf_self]
    simp

/-- The payload form of a variant never hides its name. -/
theorem untag_taggedMsg (name : String) (payload : Option Msg) :
    untag (taggedMsg name payload) = some (.name (utf8 name), payload) := by
  cases payload <;> rfl

theorem selects_name (name name' : String) (i : Nat) :
    (Ident.name (utf8 name)).selects name' i = decide (name = name') := by
  have h : utf8 name = utf8 name' ↔ name = name' := ⟨utf8_inj, congrArg utf8⟩
  simp [Ident.selects, h]

theorem isNil_taggedMsg (name : String) (payload : Option Msg) :
    isNil (taggedMsg name payload) = false := by
  cases payload <;> rfl

theorem ByteForm.isNil_toMsg (form : ByteForm) (bs : Bytes) : isNil (form.toMsg bs) = false := by
  unfold ByteForm.toMsg
  split_ifs <;> rfl

theorem Schema.isNil_toMsg : {α : Type} → (s : Schema α) → (a : α) → s.nullable = false →
    isNil (s.toMsg a) = false
  | _, .u8, _, _ => rfl
  | _, .u32, _, _ => rfl
  | _, .u64, _, _ => rfl
  | _, .i16, _, _ => rfl
  | _, .bool, _, _ => rfl
  | _, .string, _, _ => rfl
  | _, .fixedBytes _ form, bs, _ => form.isNil_toMsg bs.1
  | _, .byteVec form, bs, _ => form.isNil_toMsg bs
  | _, .option _, _, h => by cases h
  | _, .vec _, _, _ => rfl
  | _, .struct _ _, _, _ => rfl
  | _, .enum _ _, _, _ => isNil_taggedMsg _ _

mutual
theorem Schema.ofMsg_toMsg (c : BinForms) : {α : Type} → (s : Schema α) → (a : α) →
    s.lawful = true → s.ofMsg c (s.toMsg a) = some a
  | _, .u8, n, _ => by simp [Schema.toMsg, Schema.ofMsg]
  | _, .u32, n, _ => by simp [Schema.toMsg, Schema.ofMsg, readUInt_int _ _ n.toNat_lt]
  | _, .u64, n, _ => by simp [Schema.toMsg, Schema.ofMsg, readUInt_int _ _ n.toNat_lt]
  | _, .i16, n, _ => by
    have hlo := n.le_toInt
    have hhi := n.toInt_lt
    simp only [Schema.toMsg, Schema.ofMsg, readI16]
    rw [if_pos ⟨hlo, hhi⟩, Int16.ofInt_toInt]
  | _, .bool, _, _ => rfl
  | _, .string, s, _ => by simp [Schema.toMsg, Schema.ofMsg, readString]
  | _, .fixedBytes n form, bs, h => by
    simpa only [Schema.toMsg, Schema.ofMsg] using form.fixedOfMsg_toMsg c bs h
  | _, .byteVec form, bs, h => by
    simpa only [Schema.toMsg, Schema.ofMsg] using form.ofMsg_toMsg c.binAsSeq bs h
  | _, .option s, none, _ => rfl
  | _, .option s, some a, h => by
    simp only [Schema.lawful, Bool.and_eq_true, Bool.not_eq_true'] at h
    have hs := Schema.ofMsg_toMsg c s a h.2
    simp [Schema.toMsg, Schema.ofMsg, s.isNil_toMsg a h.1, hs]
  | _, .vec s, as, h => by
    simp only [Schema.toMsg, Schema.ofMsg, seqItems, Option.bind_some]
    exact mapM_map_of_inverse (fun a => Schema.ofMsg_toMsg c s a h) as
  | _, .struct fs e, a, h => by
    simp only [Schema.lawful, Bool.and_eq_true] at h
    simp [Schema.toMsg, Schema.ofMsg, structBody, Fields.ofSeq_toMsgs c fs (e.symm a) h.2]
  | _, .enum vs e, a, h => by
    simp only [Schema.lawful, Bool.and_eq_true, decide_eq_true_eq] at h
    simp only [Schema.toMsg, Schema.ofMsg, untag_taggedMsg, Option.bind_some]
    rw [Variants.select_payload c vs 0 (e.symm a) h.1 h.2, Option.map_some, Equiv.apply_symm_apply]
theorem Fields.ofSeq_toMsgs (c : BinForms) : {α : Type} → (fs : Fields α) → (a : α) →
    fs.lawful = true → fs.ofSeq c (fs.toMsgs a) = some a
  | _, .nil, _, _ => rfl
  | _, .cons _ s _ fs, (a, b), h => by
    simp only [Fields.lawful, Bool.and_eq_true] at h
    simp [Fields.toMsgs, Fields.ofSeq, Schema.ofMsg_toMsg c s a h.1, Fields.ofSeq_toMsgs c fs b h.2]
/-- The variant whose name heads the list wins only for its own values, since names are distinct. -/
theorem Variants.select_payload (c : BinForms) : {α : Type} → (vs : Variants α) → (i : Nat) → (a : α) →
    vs.names.Nodup → vs.lawful = true →
    vs.select c i (.name (utf8 (vs.tagOf a))) (vs.payload a) = some a
  | _, .unit name vs, i, .inl _, _, _ => by
    simp [Variants.select, Variants.tagOf, Variants.payload, selects_name]
  | _, .unit name vs, i, .inr b, hn, h => by
    obtain ⟨-, hrest⟩ := List.nodup_cons.mp hn
    have hne : vs.tagOf b ≠ name := Variants.tagOf_ne hn b
    simp only [Variants.lawful] at h
    simp [Variants.select, Variants.tagOf, Variants.payload, selects_name, hne,
      Variants.select_payload c vs (i + 1) b hrest h]
  | _, .newtype name s vs, i, .inl a, _, h => by
    simp only [Variants.lawful, Bool.and_eq_true] at h
    simp [Variants.select, Variants.tagOf, Variants.payload, selects_name,
      Schema.ofMsg_toMsg c s a h.1]
  | _, .newtype name s vs, i, .inr b, hn, h => by
    obtain ⟨-, hrest⟩ := List.nodup_cons.mp hn
    have hne : vs.tagOf b ≠ name := Variants.tagOf_ne hn b
    simp only [Variants.lawful, Bool.and_eq_true] at h
    simp [Variants.select, Variants.tagOf, Variants.payload, selects_name, hne,
      Variants.select_payload c vs (i + 1) b hrest h.2]
  | _, .struct name fs vs, i, .inl a, _, h => by
    simp only [Variants.lawful, Bool.and_eq_true] at h
    simp [Variants.select, Variants.tagOf, Variants.payload, selects_name, structBody,
      Fields.ofSeq_toMsgs c fs a h.1.2]
  | _, .struct name fs vs, i, .inr b, hn, h => by
    obtain ⟨-, hrest⟩ := List.nodup_cons.mp hn
    have hne : vs.tagOf b ≠ name := Variants.tagOf_ne hn b
    simp only [Variants.lawful, Bool.and_eq_true] at h
    simp [Variants.select, Variants.tagOf, Variants.payload, selects_name, hne,
      Variants.select_payload c vs (i + 1) b hrest h.2]
end

theorem Schema.toMsg_inj {α : Type} {s : Schema α} (hs : s.lawful = true) {a b : α}
    (h : s.toMsg a = s.toMsg b) : a = b := by
  have hab : some a = some b := by
    rw [← Schema.ofMsg_toMsg .reference s a hs, ← Schema.ofMsg_toMsg .reference s b hs, h]
  exact Option.some.inj hab

theorem intsFitItems_of_forall {items : List Msg} (h : ∀ m ∈ items, m.IntsFit) :
    IntsFitItems items := by
  induction items with
  | nil => trivial
  | cons m ms ih =>
    exact ⟨h m List.mem_cons_self, ih fun x hx => h x (List.mem_cons_of_mem m hx)⟩

theorem ByteForm.toMsg_intsFit (form : ByteForm) (bs : Bytes) : (form.toMsg bs).IntsFit := by
  unfold ByteForm.toMsg
  split_ifs
  · trivial
  · apply intsFitItems_of_forall
    intro m hm
    obtain ⟨b, _, rfl⟩ := List.mem_map.mp hm
    have hb := b.toNat_lt
    simp only [Msg.IntsFit]
    omega

theorem taggedMsg_intsFit (name : String) {payload : Option Msg}
    (h : ∀ m ∈ payload, m.IntsFit) : (taggedMsg name payload).IntsFit := by
  cases payload with
  | none => trivial
  | some m => exact ⟨trivial, h m rfl, trivial⟩

mutual
theorem Schema.toMsg_intsFit : {α : Type} → (s : Schema α) → (a : α) → (s.toMsg a).IntsFit
  | _, .u8, n => by
    have h := n.toNat_lt
    simp only [Schema.toMsg, Msg.IntsFit]
    omega
  | _, .u32, n => by
    have h := n.toNat_lt
    simp only [Schema.toMsg, Msg.IntsFit]
    omega
  | _, .u64, n => by
    have h := n.toNat_lt
    simp only [Schema.toMsg, Msg.IntsFit]
    omega
  | _, .i16, n => by
    have hlo := n.le_toInt
    have hhi := n.toInt_lt
    simp only [Schema.toMsg, Msg.IntsFit]
    omega
  | _, .bool, _ => trivial
  | _, .string, _ => trivial
  | _, .fixedBytes _ form, bs => by simpa only [Schema.toMsg] using form.toMsg_intsFit bs.1
  | _, .byteVec form, bs => by simpa only [Schema.toMsg] using form.toMsg_intsFit bs
  | _, .option _, none => trivial
  | _, .option s, some a => by simpa only [Schema.toMsg] using Schema.toMsg_intsFit s a
  | _, .vec s, as => by
    simp only [Schema.toMsg, Msg.IntsFit]
    apply intsFitItems_of_forall
    intro m hm
    obtain ⟨a, _, rfl⟩ := List.mem_map.mp hm
    exact Schema.toMsg_intsFit s a
  | _, .struct fs e, a => by
    simpa only [Schema.toMsg, Msg.IntsFit] using Fields.toMsgs_intsFit fs (e.symm a)
  | _, .enum vs e, a => by
    simp only [Schema.toMsg]
    exact taggedMsg_intsFit _ (Variants.payload_intsFit vs (e.symm a))
theorem Fields.toMsgs_intsFit : {α : Type} → (fs : Fields α) → (a : α) →
    IntsFitItems (fs.toMsgs a)
  | _, .nil, _ => trivial
  | _, .cons _ s _ fs, (a, b) => ⟨Schema.toMsg_intsFit s a, Fields.toMsgs_intsFit fs b⟩
theorem Variants.payload_intsFit : {α : Type} → (vs : Variants α) → (a : α) →
    ∀ m ∈ vs.payload a, m.IntsFit
  | _, .unit _ _, .inl _ => by simp [Variants.payload]
  | _, .unit _ vs, .inr b => by simpa only [Variants.payload] using Variants.payload_intsFit vs b
  | _, .newtype _ s _, .inl a => by
    simpa [Variants.payload] using Schema.toMsg_intsFit s a
  | _, .newtype _ _ vs, .inr b => by
    simpa only [Variants.payload] using Variants.payload_intsFit vs b
  | _, .struct _ fs _, .inl a => by
    simpa [Variants.payload, Msg.IntsFit] using Fields.toMsgs_intsFit fs a
  | _, .struct _ _ vs, .inr b => by
    simpa only [Variants.payload] using Variants.payload_intsFit vs b
end

mutual
/-- How deep the compact form of a type nests at most. -/
def Schema.depth : {α : Type} → Schema α → Nat
  | _, .fixedBytes _ _ => 1
  | _, .byteVec _ => 1
  | _, .option s => s.depth
  | _, .vec s => s.depth + 1
  | _, .struct fs _ => fs.depth + 1
  | _, .enum vs _ => vs.depth + 1
  | _, _ => 0
def Fields.depth : {α : Type} → Fields α → Nat
  | _, .nil => 0
  | _, .cons _ s _ fs => max s.depth fs.depth
def Variants.depth : {α : Type} → Variants α → Nat
  | _, .nil => 0
  | _, .unit _ vs => vs.depth
  | _, .newtype _ s vs => max s.depth vs.depth
  | _, .struct _ fs vs => max (fs.depth + 1) vs.depth
end

theorem depthItems_le {k : Nat} {items : List Msg} (h : ∀ item ∈ items, item.depth ≤ k) :
    depthItems items ≤ k := by
  induction items with
  | nil => exact Nat.zero_le k
  | cons m ms ih =>
    have htail := ih fun item hitem => h item (List.mem_cons_of_mem _ hitem)
    exact max_le (h m List.mem_cons_self) htail

theorem depth_le_depthItems {items : List Msg} {m : Msg} (h : m ∈ items) :
    m.depth ≤ depthItems items := by
  induction items with
  | nil => cases h
  | cons m' ms ih =>
    obtain rfl | hmem := List.mem_cons.mp h
    · exact le_max_left _ _
    · exact (ih hmem).trans (le_max_right _ _)

theorem ByteForm.toMsg_depth (form : ByteForm) (bs : Bytes) : (form.toMsg bs).depth ≤ 1 := by
  unfold ByteForm.toMsg
  split_ifs
  · exact Nat.zero_le 1
  · apply Nat.succ_le_succ
    apply depthItems_le
    intro m hm
    obtain ⟨b, -, rfl⟩ := List.mem_map.mp hm
    exact Nat.le_refl 0

theorem taggedMsg_depth (name : String) {payload : Option Msg} {k : Nat}
    (h : ∀ m ∈ payload, m.depth ≤ k) : (taggedMsg name payload).depth ≤ k + 1 := by
  cases payload with
  | none => exact Nat.zero_le _
  | some m =>
    have hm := h m rfl
    simp only [taggedMsg, Msg.depth, depthEntries]
    omega

mutual
theorem Schema.toMsg_depth : {α : Type} → (s : Schema α) → (a : α) → (s.toMsg a).depth ≤ s.depth
  | _, .u8, _ => Nat.le_refl 0
  | _, .u32, _ => Nat.le_refl 0
  | _, .u64, _ => Nat.le_refl 0
  | _, .i16, _ => Nat.le_refl 0
  | _, .bool, _ => Nat.le_refl 0
  | _, .string, _ => Nat.le_refl 0
  | _, .fixedBytes _ form, bs => form.toMsg_depth bs.1
  | _, .byteVec form, bs => form.toMsg_depth bs
  | _, .option _, none => Nat.zero_le _
  | _, .option s, some a => Schema.toMsg_depth s a
  | _, .vec s, as => by
    apply Nat.succ_le_succ
    apply depthItems_le
    intro m hm
    obtain ⟨a, -, rfl⟩ := List.mem_map.mp hm
    exact Schema.toMsg_depth s a
  | _, .struct fs e, a => Nat.succ_le_succ (Fields.toMsgs_depth fs (e.symm a))
  | _, .enum vs e, a => taggedMsg_depth _ (Variants.payload_depth vs (e.symm a))
theorem Fields.toMsgs_depth : {α : Type} → (fs : Fields α) → (a : α) →
    depthItems (fs.toMsgs a) ≤ fs.depth
  | _, .nil, _ => Nat.le_refl 0
  | _, .cons _ s _ fs, (a, b) => max_le_max (Schema.toMsg_depth s a) (Fields.toMsgs_depth fs b)
theorem Variants.payload_depth : {α : Type} → (vs : Variants α) → (a : α) →
    ∀ m ∈ vs.payload a, m.depth ≤ vs.depth
  | _, .unit _ _, .inl _ => by simp [Variants.payload]
  | _, .unit _ vs, .inr b => Variants.payload_depth vs b
  | _, .newtype _ s vs, .inl a => by
    intro m hm
    obtain rfl := Option.some.inj hm
    exact (Schema.toMsg_depth s a).trans (le_max_left _ _)
  | _, .newtype _ s vs, .inr b => by
    intro m hm
    exact (Variants.payload_depth vs b m hm).trans (le_max_right _ _)
  | _, .struct _ fs vs, .inl a => by
    intro m hm
    obtain rfl := Option.some.inj hm
    exact (Nat.succ_le_succ (Fields.toMsgs_depth fs a)).trans (le_max_left _ _)
  | _, .struct _ fs vs, .inr b => by
    intro m hm
    exact (Variants.payload_depth vs b m hm).trans (le_max_right _ _)
end

/-- `rmp_serde` as the code relies on it. `to_vec` writes the compact form of a value; `from_slice`
reads one value off the front of its input, gives it to the visitor of the type and leaves what
follows unread; it gives up on values that are nested 1024 levels deep. Nothing is said about input
that begins with no value in the format's range. -/
structure RmpSerde extends BinForms where
  toVec : {α : Type} → Schema α → α → Except String Bytes
  fromSlice : {α : Type} → Schema α → Bytes → Except String α
  toVec_compact : ∀ {α : Type} (s : Schema α) (a : α), toVec s a = .ok (s.toMsg a).encode
  fromSlice_ok : ∀ {α : Type} (s : Schema α) (m : Msg) (rest : Bytes) (a : α), m.Fits →
    m.depth < 1024 → s.ofMsg toBinForms m = some a → fromSlice s (m.encode ++ rest) = .ok a
  fromSlice_error : ∀ {α : Type} (s : Schema α) (m : Msg) (rest : Bytes), m.Fits →
    s.ofMsg toBinForms m = none → ∃ e, fromSlice s (m.encode ++ rest) = .error e

/-- The decoder of this library behind the interface. -/
def RmpSerde.reference : RmpSerde where
  toBinForms := .reference
  toVec s a := .ok (s.toMsg a).encode
  fromSlice s bs :=
    match decodeWire bs with
    | none => .error "IO error while reading marker"
    | some (w, _) =>
      match s.ofMsg .reference w.offer with
      | none => .error "wrong msgpack marker"
      | some a => .ok a
  toVec_compact _ _ := rfl
  fromSlice_ok s m rest a hm _ h := by
    obtain ⟨w, hw, hoffer⟩ := decodeWire_encode m hm rest
    simp [hw, hoffer, h]
  fromSlice_error s m rest hm h := by
    obtain ⟨w, hw, hoffer⟩ := decodeWire_encode m hm rest
    exact ⟨"wrong msgpack marker", by simp [hw, hoffer, h]⟩

/-- What a deserializer makes of bytes, its limit on nesting apart. -/
def Reads (forms : BinForms) {α : Type} (s : Schema α) (bytes : Bytes) (a : α) : Prop :=
  ∃ w rest, decodeWire bytes = some (w, rest) ∧ s.ofMsg forms w.offer = some a

namespace RmpSerde

/-- What the code relies on where its input is not of its own making: whatever `from_slice` accepts
begins with a value, in any of its forms, that the type reads. -/
def Sound (rmp : RmpSerde) : Prop :=
  ∀ {α : Type} (s : Schema α) (bytes : Bytes) (a : α), rmp.fromSlice s bytes = .ok a →
    Reads rmp.toBinForms s bytes a

/-- The other way round: `from_slice` accepts what begins with such a value, nested less than 1024
levels deep. -/
def Complete (rmp : RmpSerde) : Prop :=
  ∀ {α : Type} (s : Schema α) (bytes : Bytes) (w : Wire) (rest : Bytes) (a : α),
    decodeWire bytes = some (w, rest) → w.offer.depth < 1024 →
    s.ofMsg rmp.toBinForms w.offer = some a → rmp.fromSlice s bytes = .ok a

end RmpSerde

section Bytes

variable {rmp : RmpSerde}

theorem RmpSerde.fromSlice_iff (hsound : rmp.Sound) (hcomplete : rmp.Complete) {α : Type}
    (s : Schema α) {bytes : Bytes} {a : α}
    (hdepth : ∀ w rest, decodeWire bytes = some (w, rest) →
      s.ofMsg rmp.toBinForms w.offer = some a → w.offer.depth < 1024) :
    rmp.fromSlice s bytes = .ok a ↔ Reads rmp.toBinForms s bytes a := by
  constructor
  · exact hsound s bytes a
  · intro h
    obtain ⟨w, rest, hw, hread⟩ := h
    exact hcomplete s bytes w rest a hw (hdepth w rest hw hread) hread

theorem reads_front {forms : BinForms} {α : Type} {s : Schema α} {bytes rest : Bytes} {w : Wire}
    (hw : decodeWire bytes = some (w, rest)) (a : α) :
    Reads forms s bytes a ↔ s.ofMsg forms w.offer = some a := by
  constructor
  · intro h
    obtain ⟨w', rest', hw', hread⟩ := h
    rw [hw] at hw'
    obtain ⟨rfl, -⟩ := Prod.mk.inj (Option.some.inj hw')
    exact hread
  · intro hread
    exact ⟨w, rest, hw, hread⟩

/-- Two types accept the same bytes with the same values exactly if they read the value at their
front alike, where neither accepts deep nesting. -/
theorem RmpSerde.fromSlice_agree_iff (hsound : rmp.Sound) (hcomplete : rmp.Complete) {α : Type}
    {s t : Schema α} (hs : ∀ m a, s.ofMsg rmp.toBinForms m = some a → m.depth < 1024)
    (ht : ∀ m a, t.ofMsg rmp.toBinForms m = some a → m.depth < 1024) (bytes : Bytes) :
    (∀ a, rmp.fromSlice s bytes = .ok a ↔ rmp.fromSlice t bytes = .ok a) ↔
      ∀ w rest, decodeWire bytes = some (w, rest) →
        s.ofMsg rmp.toBinForms w.offer = t.ofMsg rmp.toBinForms w.offer := by
  have hsIff (a : α) : rmp.fromSlice s bytes = .ok a ↔ Reads rmp.toBinForms s bytes a :=
    RmpSerde.fromSlice_iff hsound hcomplete s fun w _ _ h => hs w.offer a h
  have htIff (a : α) : rmp.fromSlice t bytes = .ok a ↔ Reads rmp.toBinForms t bytes a :=
    RmpSerde.fromSlice_iff hsound hcomplete t fun w _ _ h => ht w.offer a h
  simp only [hsIff, htIff]
  constructor
  · intro h w rest hw
    apply Option.ext
    intro a
    rw [← reads_front hw, ← reads_front hw]
    exact h a
  · intro h a
    constructor
    · intro h
      obtain ⟨w, rest, hw, hread⟩ := h
      exact ⟨w, rest, hw, h w rest hw ▸ hread⟩
    · intro h
      obtain ⟨w, rest, hw, hread⟩ := h
      exact ⟨w, rest, hw, (h w rest hw).symm ▸ hread⟩

end Bytes

theorem RmpSerde.reference_sound : RmpSerde.reference.Sound := by
  intro α s bytes a h
  simp only [RmpSerde.reference] at h
  split at h
  · cases h
  · next w rest hw =>
    split at h
    · cases h
    · next a' ha =>
      obtain rfl := Except.ok.inj h
      exact ⟨w, rest, hw, ha⟩

theorem RmpSerde.reference_complete : RmpSerde.reference.Complete := by
  intro α s bytes w rest a hw _ ha
  have hread : s.ofMsg BinForms.reference w.offer = some a := ha
  simp only [RmpSerde.reference, hw, hread]

namespace RmpSerde

variable (rmp : RmpSerde) {α : Type}

/-- Reading stops where the value ends, so a value is recovered in front of any bytes. -/
theorem fromSlice_toMsg {s : Schema α} (hs : s.lawful = true) (hdepth : s.depth < 1024) (a : α)
    (rest : Bytes) (h : (s.toMsg a).Fits) :
    rmp.fromSlice s ((s.toMsg a).encode ++ rest) = .ok a :=
  rmp.fromSlice_ok s _ rest a h ((s.toMsg_depth a).trans_lt hdepth) (s.ofMsg_toMsg _ a hs)

end RmpSerde

end TradingSdk.Serde
