import TradingSdk.Js.Serde

namespace TradingSdk.Js

open Serde Msgpack

/-- Integers of the 64-bit forms become bigints, all shorter ones numbers. -/
def jsInt (n : Int) : JsVal := if -2^31 ≤ n ∧ n < 2^32 then .number n else .bigint n

mutual
/-- The JavaScript value of a MessagePack value, where the client relies on one: maps are enum
variants, with a single entry under a text. -/
def jsOfMsg : Msg → Option JsVal
  | .nil => some .null
  | .bool b => some (.bool b)
  | .int n => some (jsInt n)
  | .str bytes => (ofUtf8 bytes).map .string
  | .bin bytes => some (.uint8Array bytes)
  | .arr items => (jsOfMsgs items).map .array
  | .map [(.str key, v)] => (ofUtf8 key).bind fun k => (jsOfMsg v).map fun w => .object [(k, w)]
  | _ => none
def jsOfMsgs : List Msg → Option (List JsVal)
  | [] => some []
  | m :: ms => (jsOfMsg m).bind fun v => (jsOfMsgs ms).map fun vs => v :: vs
end

/-- The decoder as the client relies on it: it reads one value and rejects input that goes on. -/
structure MsgpackDecoder where
  decode : Bytes → Except String JsVal
  decode_encode : ∀ (m : Msg) (v : JsVal), m.Fits → jsOfMsg m = some v → decode m.encode = .ok v
  decode_extra : ∀ (m : Msg) (rest : Bytes), m.Fits → rest ≠ [] →
    ∃ e, decode (m.encode ++ rest) = .error e

/-- The decoder of this library behind the interface. -/
def MsgpackDecoder.reference : MsgpackDecoder where
  decode bs :=
    match Msgpack.decode bs with
    | some (m, []) =>
      match jsOfMsg m with
      | some v => .ok v
      | none => .error "unsupported value"
    | some (_, _ :: _) => .error "Extra bytes found"
    | none => .error "Insufficient data"
  decode_encode m v hm hv := by
    have h := Msgpack.decode_encode m hm []
    rw [List.append_nil] at h
    simp only [h, hv]
  decode_extra m rest hm hrest := by
    obtain ⟨b, bs, rfl⟩ := List.exists_cons_of_ne_nil hrest
    exact ⟨"Extra bytes found", by simp only [Msgpack.decode_encode m hm (b :: bs)]⟩

@[simp] theorem jsOfMsg_int (n : Int) : jsOfMsg (.int n) = some (jsInt n) := by rw [jsOfMsg]

@[simp] theorem jsOfMsg_utf8 (s : String) : jsOfMsg (.str (utf8 s)) = some (.string s) := by
  rw [jsOfMsg, ofUtf8_utf8]
  rfl

theorem jsInt_u8 (n : UInt8) : jsInt n.toNat = .number n.toNat := by
  have h := n.toNat_lt
  exact if_pos (by omega)

theorem jsOfMsgs_byteItems (bs : Bytes) : jsOfMsgs (byteItems bs) = some (byteNumbers bs) := by
  induction bs with
  | nil => rfl
  | cons b bs ih =>
    rw [byteItems, List.map_cons, jsOfMsgs, jsOfMsg_int, jsInt_u8]
    rw [byteItems] at ih
    rw [ih]
    rfl

/-- Byte fields that travel as sequences arrive as arrays of numbers. -/
@[simp] theorem jsOfMsg_byteForm {form : ByteForm} (h : form.wireScalar = false) (bs : Bytes) :
    jsOfMsg (form.toMsg bs) = some (.array (byteNumbers bs)) := by
  rw [ByteForm.toMsg, h, if_neg Bool.false_ne_true, jsOfMsg, jsOfMsgs_byteItems]
  rfl

end TradingSdk.Js
