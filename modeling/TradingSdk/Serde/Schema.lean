import Mathlib.Logic.Equiv.Defs
import TradingSdk.Msgpack.Decode

namespace TradingSdk.Serde

open Msgpack

abbrev Bytes := List UInt8

/-- An array of exactly `n` bytes. -/
abbrev FixedBytes (n : Nat) := { bytes : Bytes // bytes.length = n }

def utf8 (s : String) : Bytes := s.toByteArray.data.toList

def ofUtf8 (bs : Bytes) : Option String := String.fromUTF8? ⟨bs.toArray⟩

@[simp] theorem ofUtf8_utf8 (s : String) : ofUtf8 (utf8 s) = some s := by
  have h : (⟨(utf8 s).toArray⟩ : ByteArray) = s.toByteArray := by simp [utf8]
  rw [ofUtf8, h, String.fromUTF8?, dif_pos s.isValidUTF8]
  rfl

theorem utf8_inj {s t : String} (h : utf8 s = utf8 t) : s = t := by
  have hs : some s = some t := by rw [← ofUtf8_utf8 s, ← ofUtf8_utf8 t, h]
  exact Option.some.inj hs

theorem utf8_ofList (l : List Char) : utf8 (String.ofList l) = l.flatMap String.utf8EncodeChar := by
  simp [utf8, List.utf8Encode]

theorem utf8_append (s t : String) : utf8 (s ++ t) = utf8 s ++ utf8 t := by
  simp [utf8]

/-- How one byte field serializes and which forms its visitor accepts besides a sequence of
bytes: a byte scalar for binary formats, for human-readable ones, `visit_bytes`, `visit_str`. -/
structure ByteForm where
  wireScalar : Bool
  humanScalar : Bool
  readsScalar : Bool
  readsStr : Bool

/-- A form that writes scalars also reads them. -/
def ByteForm.readsBack (form : ByteForm) : Bool :=
  form.readsScalar || (!form.wireScalar && !form.humanScalar)

mutual
/-- The `Serialize` and `Deserialize` implementations of a Rust type, as data: what the derive macros
and the field attributes generate. -/
inductive Schema : Type → Type 1
  | u8 : Schema UInt8
  | u32 : Schema UInt32
  | u64 : Schema UInt64
  | i16 : Schema Int16
  | bool : Schema Bool
  | string : Schema String
  | fixedBytes (n : Nat) (form : ByteForm) : Schema (FixedBytes n)
  | byteVec (form : ByteForm) : Schema Bytes
  | option {α : Type} (s : Schema α) : Schema (Option α)
  | vec {α : Type} (s : Schema α) : Schema (List α)
  | struct {τ α : Type} (fs : Fields τ) (e : τ ≃ α) : Schema α
  | enum {τ α : Type} (vs : Variants τ) (e : τ ≃ α) : Schema α
/-- A struct body in declaration order, which is the order on the wire, with the `#[serde(default)]`
value of each field that has one. -/
inductive Fields : Type → Type 1
  | nil : Fields Unit
  | cons {α β : Type} (name : String) (s : Schema α) (dflt : Option α) (fs : Fields β) :
      Fields (α × β)
/-- An enum body. -/
inductive Variants : Type → Type 1
  | nil : Variants Empty
  | unit {β : Type} (name : String) (vs : Variants β) : Variants (Unit ⊕ β)
  | newtype {α β : Type} (name : String) (s : Schema α) (vs : Variants β) : Variants (α ⊕ β)
  | struct {α β : Type} (name : String) (fs : Fields α) (vs : Variants β) : Variants (α ⊕ β)
end

/-- A required field. -/
abbrev Fields.req {α β : Type} (name : String) (s : Schema α) (fs : Fields β) : Fields (α × β) :=
  .cons name s none fs

/-- A field with `#[serde(default)]`. -/
abbrev Fields.dflt {α β : Type} (name : String) (s : Schema α) (d : α) (fs : Fields β) :
    Fields (α × β) :=
  .cons name s (some d) fs

def Fields.names : {α : Type} → Fields α → List String
  | _, .nil => []
  | _, .cons name _ _ fs => name :: fs.names

def Variants.names : {α : Type} → Variants α → List String
  | _, .nil => []
  | _, .unit name vs => name :: vs.names
  | _, .newtype name _ vs => name :: vs.names
  | _, .struct name _ vs => name :: vs.names

/-- The name of a value's variant. -/
def Variants.tagOf : {α : Type} → Variants α → α → String
  | _, .unit name _, .inl _ => name
  | _, .unit _ vs, .inr b => vs.tagOf b
  | _, .newtype name _ _, .inl _ => name
  | _, .newtype _ _ vs, .inr b => vs.tagOf b
  | _, .struct name _ _, .inl _ => name
  | _, .struct _ _ vs, .inr b => vs.tagOf b

theorem Variants.tagOf_mem : {α : Type} → (vs : Variants α) → (a : α) → vs.tagOf a ∈ vs.names
  | _, .unit _ _, .inl _ => List.mem_cons_self
  | _, .unit _ vs, .inr b => List.mem_cons_of_mem _ (vs.tagOf_mem b)
  | _, .newtype _ _ _, .inl _ => List.mem_cons_self
  | _, .newtype _ _ vs, .inr b => List.mem_cons_of_mem _ (vs.tagOf_mem b)
  | _, .struct _ _ _, .inl _ => List.mem_cons_self
  | _, .struct _ _ vs, .inr b => List.mem_cons_of_mem _ (vs.tagOf_mem b)

theorem Variants.tagOf_ne {α : Type} {vs : Variants α} {name : String}
    (h : (name :: vs.names).Nodup) (a : α) : vs.tagOf a ≠ name := by
  intro heq
  exact (List.nodup_cons.mp h).1 (heq ▸ vs.tagOf_mem a)

/-- The value that a missing key stands for when the field has no default: `None` for an option. -/
def Schema.absent : {α : Type} → Schema α → Option α
  | _, .option _ => some none
  | _, _ => none

/-- Options are transparent, so an option of an option has two values with one encoding. -/
def Schema.nullable : {α : Type} → Schema α → Bool
  | _, .option _ => true
  | _, _ => false

mutual
/-- No option of an option, distinct names inside every struct and enum, and a visitor for every
byte scalar that is written. -/
def Schema.lawful : {α : Type} → Schema α → Bool
  | _, .fixedBytes _ form => form.readsBack
  | _, .byteVec form => form.readsBack
  | _, .option s => !s.nullable && s.lawful
  | _, .vec s => s.lawful
  | _, .struct fs _ => decide fs.names.Nodup && fs.lawful
  | _, .enum vs _ => decide vs.names.Nodup && vs.lawful
  | _, _ => true
def Fields.lawful : {α : Type} → Fields α → Bool
  | _, .nil => true
  | _, .cons _ s _ fs => s.lawful && fs.lawful
def Variants.lawful : {α : Type} → Variants α → Bool
  | _, .nil => true
  | _, .unit _ vs => vs.lawful
  | _, .newtype _ s vs => s.lawful && vs.lawful
  | _, .struct _ fs vs => decide fs.names.Nodup && fs.lawful && vs.lawful
end

end TradingSdk.Serde
