import TradingSdk.Js.Shape

namespace TradingSdk.Serde

open Js

/-- The members of the numeric enums, and the numbers of `markSourceMode`. -/
def enumMembers : List (String × List (String × Int)) :=
  [("side", [("Buy", 1), ("Sell", 2)]),
   ("timeInForce", [("Gtc", 0), ("Ioc", 1), ("Fok", 2)]),
   ("outcome", [("Yes", 1), ("No", 2), ("Void", 3)]),
   ("markSourceMode", [("OracleOnly", 0), ("Median", 1)])]

/-- A variant without payload: a member of the field's numeric enum, or else its name. -/
def enumMember (key name : String) : JsVal :=
  match (enumMembers.lookup key).bind fun members => members.lookup name with
  | some n => .number n
  | none => .string name

mutual
/-- A TypeScript value of the type that its field declares holds a Rust value. -/
def Schema.Typed : {α : Type} → Schema α → String → JsVal → α → Prop
  | _, .u8, _, v, n => v = .number n.toNat
  | _, .u32, _, v, n => v = .number n.toNat
  | _, .u64, _, v, n => v = .bigint n.toNat
  | _, .i16, _, v, n => v = .number n.toInt
  | _, .bool, _, v, b => v = .bool b
  | _, .string, _, v, s => v = .string s
  | _, .fixedBytes _ _, _, v, bs => v = .uint8Array bs.1
  | _, .byteVec _, _, v, bs => v = .uint8Array bs
  | _, .option s, key, v, a => ∃ x, a = some x ∧ s.Typed key v x
  | _, .vec s, key, v, as => ∃ items, v = .array items ∧
      List.Forall₂ (fun w a => s.Typed key w a) items as
  | _, .struct fs e, _, v, a => ∃ entries : Entries, v = .object entries ∧ entries.keys.Nodup ∧
      (∀ k ∈ entries.keys, k ∈ fs.names.map snakeToCamel) ∧ fs.Typed entries (e.symm a)
  | _, .enum vs e, key, v, a =>
    if key = "oracleSource" then ∃ entries, v = .object entries ∧
      entries.lookup "kind" = some (.string (vs.tagOf (e.symm a))) ∧ vs.Typed entries (e.symm a)
    else v = enumMember key (vs.tagOf (e.symm a))
/-- A field that is missing or nullish stands for the value of an absent one. -/
def Fields.Typed : {α : Type} → Fields α → Entries → α → Prop
  | _, .nil, _, _ => True
  | _, .cons name s dflt fs, entries, (a, b) =>
    (match entries.lookup (snakeToCamel name) with
      | none => (dflt <|> s.absent) = some a
      | some v => v.isNullish = true ∧ (dflt <|> s.absent) = some a ∨
          s.Typed (snakeToCamel name) v a) ∧ fs.Typed entries b
/-- The fields next to `kind` in a tagged union. -/
def Variants.Typed : {α : Type} → Variants α → Entries → α → Prop
  | _, .unit _ _, _, .inl _ => True
  | _, .unit _ vs, entries, .inr b => vs.Typed entries b
  | _, .newtype _ _ _, _, .inl _ => False
  | _, .newtype _ _ vs, entries, .inr b => vs.Typed entries b
  | _, .struct _ fs _, entries, .inl a => fs.Typed entries a
  | _, .struct _ _ vs, entries, .inr b => vs.Typed entries b
end

end TradingSdk.Serde

namespace TradingSdk

open Serde Js

/-- A field that has no default is there. -/
theorem get_of_typed {α β : Type} {name : String} {s : Schema α} {fs : Fields β} {entries : Entries}
    {a : α} {b : β} (habsent : s.absent = none)
    (h : (Fields.cons name s none fs).Typed entries (a, b)) :
    s.Typed (snakeToCamel name) ((JsVal.object entries).get (snakeToCamel name)) a := by
  have hhead := h.1
  rw [JsVal.get]
  cases hv : entries.lookup (snakeToCamel name) with
  | none =>
    rw [hv] at hhead
    rw [habsent] at hhead
    cases hhead
  | some v =>
    rw [hv] at hhead
    obtain ⟨-, hnull⟩ | ht := hhead
    · rw [habsent] at hnull
      cases hnull
    · exact ht

/-- An optional field is nullish for none. -/
theorem option_of_typed {α β : Type} {name : String} {s : Schema α} {fs : Fields β}
    {entries : Entries} {a : Option α} {b : β}
    (h : (Fields.cons name (.option s) none fs).Typed entries (a, b)) :
    ((JsVal.object entries).get (snakeToCamel name)).isNullish = true ∧ a = none ∨
      ∃ x, a = some x ∧
        s.Typed (snakeToCamel name) ((JsVal.object entries).get (snakeToCamel name)) x := by
  have hhead := h.1
  rw [JsVal.get]
  cases hv : entries.lookup (snakeToCamel name) with
  | none =>
    rw [hv] at hhead
    exact .inl ⟨rfl, (Option.some.inj hhead).symm⟩
  | some v =>
    rw [hv] at hhead
    obtain ⟨hnull, hnone⟩ | ht := hhead
    · exact .inl ⟨hnull, (Option.some.inj hnone).symm⟩
    · exact .inr ht

end TradingSdk
