import TradingSdk.Core.Canonical
import TradingSdk.Js.Codec
import TradingSdk.Lib.Except
import TradingSdk.Msgpack.Wire

namespace TradingSdk.Js

open Serde Msgpack

/-- The marker of a 64-bit integer, whatever its value. -/
def IsWide (marker : UInt8) : Prop := marker = 0xcf ∨ marker = 0xd3

instance (marker : UInt8) : Decidable (IsWide marker) :=
  inferInstanceAs (Decidable (marker = 0xcf ∨ marker = 0xd3))

mutual
/-- The JavaScript value of a value in its form, unless a float, a map, an extension or a text that
is not UTF-8 is part of it. -/
def jsOfWire : Wire → Option JsVal
  | .leaf _ .nil => some .null
  | .leaf _ (.bool b) => some (.bool b)
  | .leaf marker (.int n) => some (if IsWide marker then .bigint n else .number n)
  | .leaf _ (.str bytes) => (ofUtf8 bytes).map .string
  | .leaf _ (.bin bytes) => some (.uint8Array bytes)
  | .arr items => (jsOfWires items).map .array
  | _ => none
def jsOfWires : List Wire → Option (List JsVal)
  | [] => some []
  | w :: ws => (jsOfWire w).bind fun v => (jsOfWires ws).map fun vs => v :: vs
end

/-- The decoder as `decodeTx` relies on it: one whole value, and nothing else, is read. -/
structure WireDecoder where
  decode : Bytes → Except String JsVal
  decode_value : ∀ (bytes : Bytes) (w : Wire) (v : JsVal), decodeWire bytes = some (w, []) →
    jsOfWire w = some v → decode bytes = .ok v
  decode_extra : ∀ (bytes : Bytes) (w : Wire) (rest : Bytes), decodeWire bytes = some (w, rest) →
    rest ≠ [] → ∃ e, decode bytes = .error e
  decode_missing : ∀ bytes : Bytes, decodeWire bytes = none → ∃ e, decode bytes = .error e

def WireDecoder.reference : WireDecoder where
  decode bytes :=
    match decodeWire bytes with
    | some (w, []) =>
      match jsOfWire w with
      | some v => .ok v
      | none => .error "unsupported value"
    | some (_, _ :: _) => .error "Extra bytes found"
    | none => .error "Insufficient data"
  decode_value bytes w v hw hv := by simp only [hw, hv]
  decode_extra bytes w rest hw hrest := by
    obtain ⟨b, bs, rfl⟩ := List.exists_cons_of_ne_nil hrest
    exact ⟨"Extra bytes found", by simp only [hw]⟩
  decode_missing bytes h := ⟨"Insufficient data", by simp only [h]⟩

/-- How the generated bindings convert their arguments: a number is cut to the width of the
parameter, a bigint is none, and bytes are copied from an array of bytes. -/
structure WasmGlue where
  u8 : JsVal → Except JsError UInt8
  bytes : JsVal → Except JsError Bytes
  u8_number : ∀ n, u8 (.number n) = .ok (UInt8.ofNat (n % 2^8).toNat)
  u8_bigint : ∀ n, ∃ e, u8 (.bigint n) = .error e
  bytes_uint8Array : ∀ bs, bytes (.uint8Array bs) = .ok bs
  bytes_undefined : ∃ e, bytes .undefined = .error e

def WasmGlue.reference : WasmGlue where
  u8
    | .number n => .ok (UInt8.ofNat (n % 2^8).toNat)
    | .bool b => .ok (if b then 1 else 0)
    | .null => .ok 0
    | .undefined => .ok 0
    | _ => .error (.error "Cannot convert the value to a number")
  bytes
    | .uint8Array bs => .ok bs
    | _ => .error (.error "Cannot read properties of the value")
  u8_number _ := rfl
  u8_bigint _ := ⟨_, rfl⟩
  bytes_uint8Array _ := rfl
  bytes_undefined := ⟨_, rfl⟩

/-- `envelope[i]`. -/
def JsVal.index (i : Nat) : JsVal → Except JsError JsVal
  | .undefined => .error (.error "Cannot read properties of undefined")
  | .null => .error (.error "Cannot read properties of null")
  | .string s => .ok ((charValues s)[i]?.getD .undefined)
  | .uint8Array bs => .ok ((byteNumbers bs)[i]?.getD .undefined)
  | .array items => .ok (items[i]?.getD .undefined)
  | .object entries => .ok ((entries.lookup (toString i)).getD .undefined)
  | _ => .ok .undefined

def JsVal.typeOf : JsVal → String
  | .undefined => "undefined"
  | .bool _ => "boolean"
  | .number _ => "number"
  | .bigint _ => "bigint"
  | .string _ => "string"
  | _ => "object"

def Envelope.toBigInt : JsVal → Except JsError Int
  | .bigint n => .ok n
  | .number n => .ok n
  | v => .error (.error s!"expected number/bigint, got {v.typeOf}: {v.toText}")

/-- `ACTION_TYPE_NAMES[actionType]`: the key is the text of the value. -/
def actionTypeName : JsVal → Option ActionKind
  | .number n => ActionKind.all.find? fun kind => (kind.actionType.toNat : Int) = n
  | v => ActionKind.all.find? fun kind => toString kind.actionType.toNat = v.toText

/-- `version === ENVELOPE_VERSION`. -/
def JsVal.isEnvelopeVersion : JsVal → Bool
  | .number n => n = envelopeVersion.toNat
  | _ => false

structure TsDecodedTx where
  action : TsAction
  seq : Int
  version : JsVal
  pubkey : JsVal
  signature : JsVal

section DecodeTx

variable (rmp : RmpSerde) (wasm : WasmSerde) (glue : WasmGlue) (decoder : WireDecoder)

/-- `fromWasmFields` of what `decode_payload` returns for these arguments. -/
def decodeFields (actionType payloadBytes : JsVal) : Except JsError TsAction := do
  let bytes ← glue.bytes payloadBytes
  let byte ← glue.u8 actionType
  let fields ← wasmDecodePayload rmp wasm byte bytes
  match actionTypeName actionType with
  | some kind => fromWasmFields kind fields
  | none => .error (.error s!"unknown action_type: {actionType.toText}")

def readEnvelope (envelope : JsVal) : Except JsError TsDecodedTx := do
  let version ← envelope.index 0
  if version.isEnvelopeVersion then
    let actionType ← envelope.index 1
    let seq ← (envelope.index 2).bind Envelope.toBigInt
    let payloadBytes ← envelope.index 3
    let action ← decodeFields rmp wasm glue actionType payloadBytes
    let pubkey ← envelope.index 4
    let signature ← envelope.index 5
    return { action, seq, version, pubkey, signature }
  else .error (.error s!"unsupported version: {version.toText}")

def decodeTx (bytes : Bytes) : Except JsError TsDecodedTx :=
  match decoder.decode bytes with
  | .ok envelope => readEnvelope rmp wasm glue envelope
  | .error e => .error (.error e)

end DecodeTx

/-- One transaction on both sides: the action is the TypeScript form of the core's. -/
structure SameTx (core : TradingSdk.DecodedTx) (js : TsDecodedTx) : Prop where
  action : fromWasmFields core.action.kind
    (core.action.kind.schema.toJs core.action.payload) = .ok js.action
  seq : js.seq = core.seq.toNat
  version : js.version = .number envelopeVersion.toNat
  pubkey : js.pubkey = .uint8Array core.auth.pubkey.1
  signature : js.signature = .uint8Array core.auth.signature.1

/-- Both decoders fail, or both return one transaction. -/
def Agree : Except ExecError TradingSdk.DecodedTx → Except JsError TsDecodedTx → Prop
  | .error _, .error _ => True
  | .ok core, .ok js => SameTx core js
  | _, _ => False

/-- What cannot be taken for an envelope: a value without elements, or an array that ends before
the payload or does not begin with the version. -/
def IsForeign : Wire → Prop
  | .leaf _ (.bin _) => False
  | .leaf _ _ => True
  | .arr items => items.length < 4 ∨ items.head?.map Wire.value ≠ some (.int envelopeVersion.toNat)
  | .map _ => False

/-- An action type that is no bigint and has no other text than that of a number. -/
def IsTypeSlot : Wire → Prop
  | .leaf marker (.int _) => ¬ IsWide marker
  | .leaf _ .nil => True
  | .leaf _ (.bool _) => True
  | _ => False

/-- A sequence number is not negative. -/
def IsSeqSlot : Wire → Prop
  | .leaf _ (.int n) => 0 ≤ n
  | _ => True

/-- Six elements, byte strings where they belong and of the length that they need. -/
inductive IsPositional (capacity : Nat) : Wire → Prop
  | mk (versionMarker payloadMarker pubkeyMarker signatureMarker : UInt8) (actionType seq : Wire)
      (payload : Bytes) (pubkey : FixedBytes 32) (signature : FixedBytes 64) :
      ¬ IsWide versionMarker → IsTypeSlot actionType → IsSeqSlot seq →
      payload.length ≤ capacity →
      IsPositional capacity (.arr [.leaf versionMarker (.int envelopeVersion.toNat), actionType,
        seq, .leaf payloadMarker (.bin payload), .leaf pubkeyMarker (.bin pubkey.1),
        .leaf signatureMarker (.bin signature.1)])

/-- Bytes that hold no value, that begin with a foreign one, or that are a positional envelope. -/
def Comparable (capacity : Nat) (bytes : Bytes) : Prop :=
  decodeWire bytes = none ∨ ∃ w rest v, decodeWire bytes = some (w, rest) ∧ jsOfWire w = some v ∧
    (IsForeign w ∨ rest = [] ∧ IsPositional capacity w)

theorem length_jsOfWires {ws : List Wire} {vs : List JsVal} (h : jsOfWires ws = some vs) :
    vs.length = ws.length := by
  induction ws generalizing vs with
  | nil =>
    obtain rfl := Option.some.inj h
    rfl
  | cons w ws ih =>
    obtain ⟨v, -, h⟩ := Option.bind_eq_some_iff.mp h
    obtain ⟨vs', hvs, rfl⟩ := Option.map_eq_some_iff.mp h
    rw [List.length_cons, List.length_cons, ih hvs]

theorem getElem_jsOfWires {ws : List Wire} {vs : List JsVal} (h : jsOfWires ws = some vs)
    (i : Nat) : vs[i]? = ws[i]?.bind jsOfWire := by
  induction ws generalizing vs i with
  | nil =>
    obtain rfl := Option.some.inj h
    rfl
  | cons w ws ih =>
    obtain ⟨v, hv, h⟩ := Option.bind_eq_some_iff.mp h
    obtain ⟨vs', hvs, rfl⟩ := Option.map_eq_some_iff.mp h
    cases i with
    | zero => exact hv.symm
    | succ i => exact ih hvs i

theorem jsOfWires_item {ws : List Wire} {vs : List JsVal} (h : jsOfWires ws = some vs) {i : Nat}
    {w : Wire} (hw : ws[i]? = some w) : ∃ v, jsOfWire w = some v := by
  have hlt : i < vs.length := by
    rw [length_jsOfWires h]
    exact (List.getElem?_eq_some_iff.mp hw).1
  have hget := getElem_jsOfWires h i
  rw [hw, List.getElem?_eq_getElem hlt] at hget
  exact ⟨_, hget.symm⟩

/-- Only the integer 2 in a form of at most 32 bits passes the check of the version. -/
theorem isEnvelopeVersion_jsOfWire {w : Wire} {v : JsVal} (h : jsOfWire w = some v)
    (hv : v.isEnvelopeVersion = true) : w.value = .int envelopeVersion.toNat := by
  cases w with
  | map entries => cases h
  | arr items =>
    obtain ⟨vs, -, rfl⟩ := Option.map_eq_some_iff.mp h
    cases hv
  | leaf marker m =>
    cases m with
    | int n =>
      obtain rfl := Option.some.inj h
      split_ifs at hv
      · cases hv
      · simp only [JsVal.isEnvelopeVersion, decide_eq_true_eq] at hv
        rw [Wire.value, hv]
    | str bytes =>
      obtain ⟨s, -, rfl⟩ := Option.map_eq_some_iff.mp h
      cases hv
    | nil | bool b | bin bytes =>
      obtain rfl := Option.some.inj h
      cases hv
    | _ => cases h

theorem isEnvelopeVersion_char (s : String) (i : Nat) :
    ((charValues s)[i]?.getD .undefined).isEnvelopeVersion = false := by
  rw [charValues, List.getElem?_map]
  cases s.toList[i]? <;> rfl

section Agreement

variable (rmp : RmpSerde) (wasm : WasmSerde) (glue : WasmGlue) (decoder : WireDecoder)

theorem readEnvelope_unsupported {envelope version : JsVal} (h : envelope.index 0 = .ok version)
    (hv : version.isEnvelopeVersion = false) :
    ∃ e, readEnvelope rmp wasm glue envelope = .error e := by
  refine ⟨.error s!"unsupported version: {version.toText}", ?_⟩
  rw [readEnvelope, h]
  show (if version.isEnvelopeVersion then _ else _) = _
  rw [hv]
  rfl

theorem readEnvelope_array {vs : List JsVal}
    (hv : (vs[0]?.getD JsVal.undefined).isEnvelopeVersion = true) :
    readEnvelope rmp wasm glue (.array vs) =
      (Envelope.toBigInt (vs[2]?.getD .undefined)).bind fun seq =>
        (decodeFields rmp wasm glue (vs[1]?.getD .undefined) (vs[3]?.getD .undefined)).map
          fun action => ⟨action, seq, vs[0]?.getD .undefined, vs[4]?.getD .undefined,
            vs[5]?.getD .undefined⟩ := by
  rw [readEnvelope]
  show (if (vs[0]?.getD JsVal.undefined).isEnvelopeVersion then _ else _) = _
  rw [if_pos hv]
  show (Envelope.toBigInt (vs[2]?.getD .undefined)).bind _ = _
  cases Envelope.toBigInt (vs[2]?.getD .undefined) with
  | error e => rfl
  | ok seq =>
    show (decodeFields rmp wasm glue (vs[1]?.getD .undefined) (vs[3]?.getD .undefined)).bind _ = _
    cases decodeFields rmp wasm glue (vs[1]?.getD .undefined) (vs[3]?.getD .undefined) <;> rfl

/-- Without a payload the bindings have nothing to copy. -/
theorem readEnvelope_noPayload {vs : List JsVal} (h : vs.length < 4) :
    ∃ e, readEnvelope rmp wasm glue (.array vs) = .error e := by
  cases hv : (vs[0]?.getD JsVal.undefined).isEnvelopeVersion with
  | false => exact readEnvelope_unsupported rmp wasm glue rfl hv
  | true =>
    have hnone : vs[3]? = none := List.getElem?_eq_none (by omega)
    obtain ⟨e, he⟩ := glue.bytes_undefined
    rw [readEnvelope_array rmp wasm glue hv, hnone]
    cases Envelope.toBigInt (vs[2]?.getD .undefined) with
    | error e => exact ⟨e, rfl⟩
    | ok seq =>
      refine ⟨e, ?_⟩
      simp only [Except.bind, decodeFields, Option.getD_none, he, bind]
      rfl

theorem readEnvelope_foreign {w : Wire} {v : JsVal} (hw : IsForeign w) (hv : jsOfWire w = some v) :
    ∃ e, readEnvelope rmp wasm glue v = .error e := by
  cases w with
  | map entries => cases hw
  | arr items =>
    obtain ⟨vs, hvs, rfl⟩ := Option.map_eq_some_iff.mp hv
    obtain hshort | hhead := hw
    · exact readEnvelope_noPayload rmp wasm glue (length_jsOfWires hvs ▸ hshort)
    · apply readEnvelope_unsupported rmp wasm glue rfl
      cases items with
      | nil =>
        obtain rfl := Option.some.inj hvs
        rfl
      | cons first rest =>
        obtain ⟨v, hfirst, hvs⟩ := Option.bind_eq_some_iff.mp hvs
        obtain ⟨vs', -, rfl⟩ := Option.map_eq_some_iff.mp hvs
        show v.isEnvelopeVersion = false
        by_contra hversion
        have hvalue := isEnvelopeVersion_jsOfWire hfirst (by simpa using hversion)
        exact hhead (congrArg some hvalue)
  | leaf marker m =>
    cases m with
    | nil =>
      obtain rfl := Option.some.inj hv
      exact ⟨_, rfl⟩
    | bool b =>
      obtain rfl := Option.some.inj hv
      exact readEnvelope_unsupported rmp wasm glue rfl rfl
    | int n =>
      obtain rfl := Option.some.inj hv
      split_ifs
      · exact readEnvelope_unsupported rmp wasm glue rfl rfl
      · exact readEnvelope_unsupported rmp wasm glue rfl rfl
    | str bytes =>
      obtain ⟨s, -, rfl⟩ := Option.map_eq_some_iff.mp hv
      exact readEnvelope_unsupported rmp wasm glue rfl (isEnvelopeVersion_char s 0)
    | bin bytes => cases hw
    | _ => cases hv

/-- An unsigned type reads an integer in whatever form it is written. -/
theorem readUInt_offer (bound : Nat) (w : Wire) : readUInt bound w.offer = readUInt bound w.value := by
  cases w with
  | leaf marker m =>
    cases m with
    | int n =>
      rw [Wire.offer, Wire.value, leafOffer]
      split_ifs with h
      · simp only [readUInt, h.1, true_and, Int.toNat_lt h.1]
      · rfl
    | _ => rfl
  | _ => rfl

theorem readByte_offer (w : Wire) : readByte w.offer = readByte w.value := by
  rw [readByte, readByte, readUInt_offer]

theorem u64_offer (forms : BinForms) (w : Wire) :
    Schema.u64.ofMsg forms w.offer = Schema.u64.ofMsg forms w.value := by
  rw [Schema.ofMsg, Schema.ofMsg, readUInt_offer]

theorem readByte_inv {w : Wire} {v : JsVal} {b : UInt8} (hv : jsOfWire w = some v)
    (h : readByte w.offer = some b) : w.value = .int b.toNat := by
  rw [readByte_offer] at h
  cases w with
  | leaf marker m =>
    cases m with
    | int n => rw [Wire.value, readByte_eq_some.mp h]
    | signed n => cases hv
    | _ => cases h
  | _ => cases h

/-- The core reads an envelope out of the elements of an array. -/
theorem envelope_items {forms : BinForms} {w : Wire} {v : JsVal} {x : WireTxEnvelope}
    (hv : jsOfWire w = some v) (h : WireTxEnvelope.schema.ofMsg forms w.offer = some x) :
    ∃ items, w = .arr items ∧ 4 ≤ items.length ∧
      (∃ w₁, items[0]? = some w₁ ∧ w₁.value = .int x.version.toNat) ∧
      ∃ w₂, items[1]? = some w₂ ∧ w₂.value = .int x.actionType.toNat := by
  obtain ⟨⟨version, actionType, seq, payload, pubkey, signature, u⟩, hparts, rfl⟩ :=
    Option.map_eq_some_iff.mp h
  cases w with
  | map entries => cases hv
  | leaf marker m =>
    cases m with
    | arr items => cases hv
    | map entries => cases hv
    | int n =>
      rw [Wire.offer, leafOffer] at hparts
      split_ifs at hparts <;> cases hparts
    | _ => cases hparts
  | arr items =>
    obtain ⟨m₁, ms₁, hitems, hversion, hparts⟩ := ofSeq_req hparts
    obtain ⟨m₂, ms₂, rfl, htype, hparts⟩ := ofSeq_req hparts
    obtain ⟨m₃, ms₃, rfl, -, hparts⟩ := ofSeq_req hparts
    obtain ⟨m₄, ms₄, rfl, -, -⟩ := ofSeq_req hparts
    rw [itemOffers_eq_map] at hitems
    obtain ⟨vs, hvs, -⟩ := Option.map_eq_some_iff.mp hv
    have hbyte {i : Nat} {m : Msg} {b : UInt8} (hm : (items.map Wire.offer)[i]? = some m)
        (hb : readByte m = some b) : ∃ w, items[i]? = some w ∧ w.value = .int b.toNat := by
      rw [List.getElem?_map] at hm
      obtain ⟨w, hw, rfl⟩ := Option.map_eq_some_iff.mp hm
      obtain ⟨v, hv⟩ := jsOfWires_item hvs hw
      exact ⟨w, hw, readByte_inv hv hb⟩
    refine ⟨items, rfl, ?_, ?_, ?_⟩
    · have hlength := congrArg List.length hitems
      simp only [List.length_map, List.length_cons] at hlength
      omega
    · exact hbyte (by rw [hitems]; rfl) hversion
    · exact hbyte (by rw [hitems]; rfl) htype

/-- The core takes no envelope out of a foreign value. -/
theorem not_isForeign_of_ofMsg {w : Wire} {v : JsVal} {x : WireTxEnvelope}
    (hv : jsOfWire w = some v) (hversion : x.version = envelopeVersion)
    (h : WireTxEnvelope.schema.ofMsg rmp.toBinForms w.offer = some x) : ¬ IsForeign w := by
  obtain ⟨items, rfl, hlength, ⟨w₁, hfirst, hvalue⟩, -⟩ := envelope_items hv h
  rintro (hshort | hhead)
  · omega
  · apply hhead
    rw [List.head?_eq_getElem?, hfirst, Option.map_some, hvalue, hversion]

theorem actionTypeName_byte (byte : UInt8) :
    actionTypeName (.number byte.toNat) = ActionKind.ofActionType byte := by
  rw [actionTypeName, ActionKind.ofActionType]
  congr 1
  funext kind
  have hiff : (kind.actionType.toNat : Int) = byte.toNat ↔ kind.actionType = byte := by
    rw [Int.ofNat_inj, UInt8.toNat_inj]
  exact decide_eq_decide.mpr hiff

/-- A number that no byte has names nothing. -/
theorem actionTypeName_eq_none {n : Int} (h : ¬ (0 ≤ n ∧ n < 2^8)) :
    actionTypeName (.number n) = none := by
  rw [actionTypeName, List.find?_eq_none]
  intro kind _ heq
  have hkind : (kind.actionType.toNat : Int) = n := by simpa using heq
  have hbyte := kind.actionType.toNat_lt
  omega

theorem decodeFields_unknown {actionType : JsVal} (payloadBytes : JsVal)
    (h : actionTypeName actionType = none) :
    ∃ e, decodeFields rmp wasm glue actionType payloadBytes = .error e := by
  cases hd : decodeFields rmp wasm glue actionType payloadBytes with
  | error e => exact ⟨e, rfl⟩
  | ok action =>
    obtain ⟨bytes, -, hd⟩ := bind_eq_ok hd
    obtain ⟨byte, -, hd⟩ := bind_eq_ok hd
    obtain ⟨fields, -, hd⟩ := bind_eq_ok hd
    rw [h] at hd
    cases hd

theorem decodeAction_kind {byte : UInt8} {payload : Bytes} {action : Action}
    (h : decodeAction rmp byte payload = .ok action) :
    ActionKind.ofActionType byte = some action.kind := by
  rw [decodeAction] at h
  cases hk : ActionKind.ofActionType byte with
  | none =>
    rw [hk] at h
    cases h
  | some kind =>
    rw [hk] at h
    cases hx : rmp.fromSlice kind.schema payload with
    | error e =>
      simp only [hx, mapErr] at h
      cases h
    | ok x =>
      simp only [hx, mapErr] at h
      obtain rfl : Action.mk kind x = action := Except.ok.inj h
      rfl

/-- Both sides decode the payload with the same code. -/
theorem decodeFields_byte (byte : UInt8) {payload : Bytes} (h : payload.length ≤ wasm.capacity) :
    decodeFields rmp wasm glue (.number byte.toNat) (.uint8Array payload) =
      (liftCore (decodeAction rmp byte payload)).bind fun action =>
        fromWasmFields action.kind (action.kind.schema.toJs action.payload) := by
  have hbyte := byte.toNat_lt
  have hcut : UInt8.ofNat (((byte.toNat : Int) % 2^8).toNat) = byte := by
    rw [Int.emod_eq_of_lt (by omega) (by omega), Int.toNat_natCast, UInt8.ofNat_toNat]
  rw [decodeFields, glue.bytes_uint8Array]
  show (glue.u8 _).bind _ = _
  rw [glue.u8_number, hcut]
  show (wasmDecodePayload rmp wasm byte payload).bind _ = _
  rw [wasmDecodePayload, if_pos h, actionTypeName_byte]
  cases hd : decodeAction rmp byte payload with
  | error e => rfl
  | ok action =>
    show (liftCore (mapErr _ (wasm.toValue action.kind.schema action.payload))).bind _ = _
    rw [wasm.toValue_eq, decodeAction_kind rmp hd]
    rfl

variable {rmp}

/-- What the core accepts begins with an envelope of its parts. -/
theorem decodeTx_sound (hsound : rmp.Sound) {bytes : Bytes} {tx : TradingSdk.DecodedTx}
    (h : TradingSdk.decodeTx rmp bytes = .ok tx) :
    ∃ w rest, decodeWire bytes = some (w, rest) ∧
      WireTxEnvelope.schema.ofMsg rmp.toBinForms w.offer = some ⟨envelopeVersion,
        tx.auth.actionType, tx.seq, tx.auth.payload, tx.auth.pubkey, tx.auth.signature⟩ ∧
      decodeAction rmp tx.auth.actionType tx.auth.payload = .ok tx.action := by
  obtain ⟨hraw, haction⟩ := decodeTx_eq_ok.mp h
  obtain ⟨w, rest, hw, hx⟩ := hsound _ _ _ (decodeTxRaw_ok hraw).1
  exact ⟨w, rest, hw, hx, haction⟩

theorem decodeTx_complete (hcomplete : rmp.Complete) {bytes rest : Bytes} {w : Wire}
    {tx : TradingSdk.DecodedTx} (hw : decodeWire bytes = some (w, rest)) (hdepth : w.offer.depth < 1024)
    (hx : WireTxEnvelope.schema.ofMsg rmp.toBinForms w.offer = some ⟨envelopeVersion,
      tx.auth.actionType, tx.seq, tx.auth.payload, tx.auth.pubkey, tx.auth.signature⟩)
    (haction : decodeAction rmp tx.auth.actionType tx.auth.payload = .ok tx.action) :
    TradingSdk.decodeTx rmp bytes = .ok tx := by
  have hread := hcomplete _ _ _ _ _ hw hdepth hx
  have hempty : bytes.isEmpty = false := by
    cases bytes with
    | nil => cases hw
    | cons b bs => rfl
  apply decodeTx_eq_ok.mpr ⟨?_, haction⟩
  rw [decodeTxRaw, hempty, hread]
  rfl

/-- An action type is a byte on both sides or on neither. -/
theorem typeSlot_cases {w : Wire} {t : JsVal} (hw : IsTypeSlot w) (ht : jsOfWire w = some t) :
    (∃ marker, ∃ byte : UInt8, w = .leaf marker (.int byte.toNat) ∧ t = .number byte.toNat) ∨
      actionTypeName t = none ∧ readByte w.value = none := by
  cases w with
  | arr items => cases hw
  | map entries => cases hw
  | leaf marker m =>
    cases m with
    | nil =>
      obtain rfl := Option.some.inj ht
      exact .inr ⟨by decide +kernel, rfl⟩
    | bool b =>
      obtain rfl := Option.some.inj ht
      cases b
      · exact .inr ⟨by decide +kernel, rfl⟩
      · exact .inr ⟨by decide +kernel, rfl⟩
    | int n =>
      obtain rfl := Option.some.inj ht
      rw [if_neg hw]
      by_cases hn : 0 ≤ n ∧ n < 2^8
      · have hlt : n.toNat < 2^8 := by omega
        have hbyte : ((UInt8.ofNat n.toNat).toNat : Int) = n := by
          rw [UInt8.toNat_ofNat_of_lt' hlt]
          omega
        refine .inl ⟨marker, UInt8.ofNat n.toNat, ?_, ?_⟩
        · rw [hbyte]
        · rw [hbyte]
      · refine .inr ⟨actionTypeName_eq_none hn, ?_⟩
        rw [Wire.value, readByte, readUInt, if_neg (by exact_mod_cast hn), Option.map_none]
    | _ => cases hw

/-- A sequence number has 64 bits on both sides or is none on either. -/
theorem seqSlot_cases {w : Wire} {v : JsVal} (forms : BinForms) (hw : IsSeqSlot w)
    (hfits : w.value.Fits) (hv : jsOfWire w = some v) :
    (∃ marker, ∃ n : UInt64, w = .leaf marker (.int n.toNat) ∧
        Envelope.toBigInt v = .ok n.toNat) ∨
      (∃ e, Envelope.toBigInt v = .error e) ∧ Schema.u64.ofMsg forms w.value = none := by
  cases w with
  | arr items =>
    obtain ⟨vs, -, rfl⟩ := Option.map_eq_some_iff.mp hv
    exact .inr ⟨⟨_, rfl⟩, rfl⟩
  | map entries => cases hv
  | leaf marker m =>
    cases m with
    | int n =>
      obtain rfl := Option.some.inj hv
      have hn : ((UInt64.ofNat n.toNat).toNat : Int) = n := by
        have hge : 0 ≤ n := hw
        have hlt : n < 2^64 := hfits.2
        have hlt' : n.toNat < 2^64 := by omega
        rw [UInt64.toNat_ofNat_of_lt' hlt']
        omega
      refine .inl ⟨marker, UInt64.ofNat n.toNat, ?_, ?_⟩
      · rw [hn]
      · rw [hn]
        split_ifs <;> rfl
    | str bytes =>
      obtain ⟨s, -, rfl⟩ := Option.map_eq_some_iff.mp hv
      exact .inr ⟨⟨_, rfl⟩, rfl⟩
    | nil | bool b | bin bytes =>
      obtain rfl := Option.some.inj hv
      exact .inr ⟨⟨_, rfl⟩, rfl⟩
    | _ => cases hv

theorem agree_of_errors {core : Except ExecError TradingSdk.DecodedTx}
    {js : Except JsError TsDecodedTx} (hcore : ∀ tx, core ≠ .ok tx) (hjs : ∃ e, js = .error e) :
    Agree core js := by
  obtain ⟨e, rfl⟩ := exists_error hcore
  obtain ⟨e', rfl⟩ := hjs
  trivial

/-- What the core reads out of six elements. -/
theorem decodeTx_elements (hsound : rmp.Sound) {bytes rest : Bytes} {mv mp mk ms : UInt8}
    {version : Int} {actionType seq : Wire} {payload pubkey signature : Bytes}
    (hw : decodeWire bytes = some (.arr [.leaf mv (.int version), actionType, seq,
      .leaf mp (.bin payload), .leaf mk (.bin pubkey), .leaf ms (.bin signature)], rest))
    {tx : TradingSdk.DecodedTx} (htx : TradingSdk.decodeTx rmp bytes = .ok tx) :
    readByte actionType.value = some tx.auth.actionType ∧
      Schema.u64.ofMsg rmp.toBinForms seq.value = some tx.seq ∧ payload = tx.auth.payload ∧
      decodeAction rmp tx.auth.actionType tx.auth.payload = .ok tx.action := by
  obtain ⟨w', rest', hw', hx, haction⟩ := decodeTx_sound hsound htx
  obtain ⟨rfl, rfl⟩ := Prod.mk.inj (Option.some.inj (hw.symm.trans hw'))
  rw [← readByte_offer, ← u64_offer]
  obtain ⟨-, htype, hseq, hpayload, -⟩ := WireTxEnvelope.ofMsg_arr.mp hx
  exact ⟨htype, hseq, hpayload, haction⟩

/-- What the client reads out of six elements. -/
theorem readEnvelope_elements (t s : JsVal) (payload pubkey signature : Bytes) :
    readEnvelope rmp wasm glue (.array [.number envelopeVersion.toNat, t, s, .uint8Array payload,
      .uint8Array pubkey, .uint8Array signature]) =
      (Envelope.toBigInt s).bind fun seq =>
        (decodeFields rmp wasm glue t (.uint8Array payload)).map fun action =>
          ⟨action, seq, .number envelopeVersion.toNat, .uint8Array pubkey, .uint8Array signature⟩ :=
  readEnvelope_array rmp wasm glue rfl

/-- A positional envelope is accepted exactly when its integers are in range and its payload is
one of the action type. -/
theorem decodeTx_positional (hsound : rmp.Sound) (hcomplete : rmp.Complete) {bytes : Bytes} {w : Wire} {v : JsVal}
    (hw : decodeWire bytes = some (w, [])) (hv : jsOfWire w = some v)
    (hpos : IsPositional wasm.capacity w) :
    Agree (TradingSdk.decodeTx rmp bytes) (readEnvelope rmp wasm glue v) := by
  obtain ⟨mv, mp, mk, ms, actionType, seq, payload, pubkey, signature, hmv, htype, hseq, hlen⟩ :=
    hpos
  have hfits := decode_fits (decode_of_decodeWire hw)
  obtain ⟨t, s, ht, hs, rfl⟩ : ∃ t s, jsOfWire actionType = some t ∧ jsOfWire seq = some s ∧
      v = .array [.number envelopeVersion.toNat, t, s, .uint8Array payload, .uint8Array pubkey.1,
        .uint8Array signature.1] := by
    simp [jsOfWire, jsOfWires, hmv, Option.bind_eq_some_iff] at hv
    obtain ⟨t, ht, s, hs, rfl⟩ := hv
    exact ⟨t, s, ht, hs, rfl⟩
  rw [readEnvelope_elements]
  obtain ⟨mn, n, rfl, hn⟩ | ⟨⟨e, he⟩, hnone⟩ :=
    seqSlot_cases rmp.toBinForms hseq (fitsItems_iff.mp hfits.2 _ (by simp [itemValues])) hs
  case inr =>
    apply agree_of_errors
    · intro tx htx
      have hsome := (decodeTx_elements hsound hw htx).2.1
      rw [hnone] at hsome
      cases hsome
    · rw [he]
      exact ⟨e, rfl⟩
  rw [hn]
  obtain ⟨mb, byte, rfl, rfl⟩ | ⟨hname, hnone⟩ := typeSlot_cases htype ht
  case inr =>
    apply agree_of_errors
    · intro tx htx
      have hsome := (decodeTx_elements hsound hw htx).1
      rw [hnone] at hsome
      cases hsome
    · obtain ⟨e, he⟩ := decodeFields_unknown rmp wasm glue (.uint8Array payload) hname
      rw [he]
      exact ⟨e, rfl⟩
  rw [decodeFields_byte rmp wasm glue byte hlen]
  cases haction : decodeAction rmp byte payload with
  | error e =>
    apply agree_of_errors
    · intro tx htx
      obtain ⟨hbyte, -, hpayload, hok⟩ := decodeTx_elements hsound hw htx
      rw [Wire.value, readByte_int] at hbyte
      rw [← Option.some.inj hbyte, ← hpayload, haction] at hok
      cases hok
    · exact ⟨_, rfl⟩
  | ok action =>
    obtain ⟨entries, hfields, -⟩ := action.fromWasmFields_toJs
    have haccepts : TradingSdk.decodeTx rmp bytes =
        .ok ⟨action, n, ⟨pubkey, signature, byte, payload⟩⟩ := by
      apply decodeTx_complete hcomplete hw _ _ haction
      · rw [Wire.offer_depth]
        simp [Wire.value, itemValues, Msg.depth, depthItems]
      · simp only [Wire.offer, itemOffers]
        apply WireTxEnvelope.ofMsg_arr.mpr
        refine ⟨?_, ?_, ?_, rfl, rfl, rfl⟩
        · exact (readByte_offer (.leaf mv _)).trans (readByte_int _)
        · exact (readByte_offer (.leaf mb _)).trans (readByte_int _)
        · exact (u64_offer _ (.leaf mn _)).trans (u64_eq_some.mpr rfl)
    simp only [haccepts, liftCore, Except.bind, hfields, Except.map]
    exact ⟨hfields, rfl, rfl, rfl, rfl⟩

end Agreement

/-- A cancellation under a header, with the bytes of some elements left open. -/
def envelopeBytes (header : UInt8) (version seq pubkey rest : Bytes) : Bytes :=
  header :: (version ++ (2 :: (seq ++ ([0xc4, 25] ++ sampleCancel.payloadMsg.encode ++
    ([0xc4, UInt8.ofNat pubkey.length] ++ pubkey) ++ ([0xc4, 64] ++ List.replicate 64 0) ++ rest))))

def envelopeWire (version seq : Wire) (pubkey : Bytes) (rest : List Wire) : Wire :=
  .arr ([version, .leaf 2 (.int 2), seq, .leaf 0xc4 (.bin sampleCancel.payloadMsg.encode),
    .leaf 0xc4 (.bin pubkey), .leaf 0xc4 (.bin (List.replicate 64 0))] ++ rest)

theorem decodeAction_sampleCancel :
    decodeAction .reference 2 sampleCancel.payloadMsg.encode = .ok sampleCancel := by
  have h := decodeAction_encode .reference sampleCancel [] (sampleCancel.payloadMsg_fits (by decide))
  rwa [List.append_nil] at h

/-- The core looks at the value in front alone. -/
theorem decodeTx_core_sampleCancel {bytes rest : Bytes} {marker : UInt8}
    (h : decodeWire bytes = some (envelopeWire (.leaf marker (.int 2)) (.leaf 1 (.int 1))
      (List.replicate 32 0) [], rest)) :
    TradingSdk.decodeTx .reference bytes = .ok ⟨sampleCancel, 1, ⟨⟨List.replicate 32 0, rfl⟩,
      ⟨List.replicate 64 0, rfl⟩, 2, sampleCancel.payloadMsg.encode⟩⟩ := by
  apply decodeTx_complete RmpSerde.reference_complete h _ _ decodeAction_sampleCancel
  · rw [Wire.offer_depth]
    simp [envelopeWire, Wire.value, itemValues, Msg.depth, depthItems]
  · apply WireTxEnvelope.ofMsg_arr.mpr
    refine ⟨?_, rfl, rfl, rfl, rfl, rfl⟩
    exact (readByte_offer (.leaf marker _)).trans rfl

/-- The client looks at the first four elements, and passes on whatever the next two are. -/
theorem readEnvelope_sampleCancel {seq : JsVal} {n : Int} (rest : List JsVal)
    (hseq : Envelope.toBigInt seq = .ok n) :
    ∃ r, readEnvelope .reference .reference .reference (.array (.number 2 :: .number 2 :: seq ::
      .uint8Array sampleCancel.payloadMsg.encode :: rest)) = .ok r := by
  obtain ⟨entries, hfields, -⟩ := sampleCancel.fromWasmFields_toJs
  have hlen : sampleCancel.payloadMsg.encode.length ≤ WasmSerde.reference.capacity := by decide
  have hdecode : decodeFields .reference .reference .reference (.number 2)
      (.uint8Array sampleCancel.payloadMsg.encode) =
      .ok ⟨sampleCancel.kind, .object entries⟩ := by
    have h := decodeFields_byte .reference .reference .reference 2 hlen
    rw [decodeAction_sampleCancel] at h
    exact h.trans hfields
  refine ⟨⟨⟨sampleCancel.kind, .object entries⟩, n, .number 2, rest[0]?.getD .undefined,
    rest[1]?.getD .undefined⟩, ?_⟩
  rw [readEnvelope_array .reference .reference .reference rfl]
  simp only [List.getElem?_cons_succ, List.getElem?_cons_zero, Option.getD_some, hseq, Except.bind,
    hdecode]
  rfl

theorem not_agree_of_core {bytes : Bytes} {tx : TradingSdk.DecodedTx}
    (hcore : TradingSdk.decodeTx .reference bytes = .ok tx)
    (hclient : ∃ e, decodeTx .reference .reference .reference .reference bytes = .error e) :
    ¬ Agree (TradingSdk.decodeTx .reference bytes)
      (decodeTx .reference .reference .reference .reference bytes) := by
  obtain ⟨e, he⟩ := hclient
  rw [hcore, he]
  exact not_false

theorem not_agree_of_client {bytes : Bytes} {seq : JsVal} {n : Int} {rest : List JsVal} {w : Wire}
    (hw : decodeWire bytes = some (w, []))
    (hv : jsOfWire w = some (.array (.number 2 :: .number 2 :: seq ::
      .uint8Array sampleCancel.payloadMsg.encode :: rest)))
    (hseq : Envelope.toBigInt seq = .ok n)
    (hnone : WireTxEnvelope.schema.ofMsg .reference w.offer = none) :
    ¬ Agree (TradingSdk.decodeTx .reference bytes)
      (decodeTx .reference .reference .reference .reference bytes) := by
  have hcore : ∃ e, TradingSdk.decodeTx .reference bytes = .error e := by
    apply exists_error
    intro tx htx
    obtain ⟨w', rest', hw', hx, -⟩ := decodeTx_sound RmpSerde.reference_sound htx
    obtain ⟨rfl, rfl⟩ := Prod.mk.inj (Option.some.inj (hw.symm.trans hw'))
    have hcontra := hnone.symm.trans hx
    cases hcontra
  obtain ⟨e, he⟩ := hcore
  obtain ⟨r, hr⟩ := readEnvelope_sampleCancel rest hseq
  rw [he, decodeTx, WireDecoder.reference.decode_value bytes w _ hw hv]
  simp only [hr]
  exact not_false

end TradingSdk.Js
