import TradingSdk.Core.Truncation
import TradingSdk.Js.Envelope

namespace TradingSdk.Js

open Serde Msgpack

/-- The member of `KNOWN_ACTION_TYPES` that a number or `Number` of a bigint is. -/
def knownActionType : JsVal → Option ActionKind
  | .number n => ActionKind.all.find? fun kind => (kind.actionType.toNat : Int) = n
  | .bigint n => ActionKind.all.find? fun kind => (kind.actionType.toNat : Int) = n
  | _ => none

/-- `peekActionType`. What throws is caught. -/
def peekActionType (decoder : WireDecoder) (bytes : Bytes) : Option ActionKind :=
  match decoder.decode bytes with
  | .ok envelope => (envelope.index 1).toOption.bind knownActionType
  | .error _ => none

/-- The second element is this type: of an array, or of a byte string, which has numbers too. -/
def TypeAt (kind : ActionKind) : Wire → Prop
  | .arr items => ∃ marker, items[1]? = some (.leaf marker (.int kind.actionType.toNat))
  | .leaf _ (.bin bytes) => bytes[1]? = some kind.actionType
  | _ => False

section Peek

variable {decoder : WireDecoder} {bytes : Bytes}

theorem find_actionType {n : Int} {kind : ActionKind} :
    ActionKind.all.find? (fun kind => (kind.actionType.toNat : Int) = n) = some kind ↔
      n = kind.actionType.toNat := by
  constructor
  · intro h
    have hsame := List.find?_some h
    exact (of_decide_eq_true hsame).symm
  · rintro rfl
    exact (actionTypeName_byte kind.actionType).trans kind.ofActionType_actionType

theorem knownActionType_jsOfWire {w : Wire} {v : JsVal} (h : jsOfWire w = some v)
    {kind : ActionKind} : knownActionType v = some kind ↔
      ∃ marker, w = .leaf marker (.int kind.actionType.toNat) := by
  cases w with
  | map entries => cases h
  | arr items =>
    obtain ⟨vs, -, rfl⟩ := Option.map_eq_some_iff.mp h
    simp [knownActionType]
  | leaf marker m =>
    cases m with
    | int n =>
      obtain rfl := Option.some.inj h
      have hknown : knownActionType (if IsWide marker then .bigint n else .number n) = some kind ↔
          n = kind.actionType.toNat := by
        split_ifs
        · exact find_actionType
        · exact find_actionType
      rw [hknown]
      simp
    | str bytes =>
      obtain ⟨s, -, rfl⟩ := Option.map_eq_some_iff.mp h
      simp [knownActionType]
    | nil | bool b | bin bytes =>
      obtain rfl := Option.some.inj h
      simp [knownActionType]
    | _ => cases h

/-- A character is no action type. -/
theorem knownActionType_char (s : String) (i : Nat) :
    knownActionType ((charValues s)[i]?.getD .undefined) = none := by
  rw [charValues, List.getElem?_map]
  cases s.toList[i]? <;> rfl

theorem peekActionType_eq_some_iff {w : Wire} {v : JsVal}
    (hw : decodeWire bytes = some (w, [])) (hv : jsOfWire w = some v) {kind : ActionKind} :
    peekActionType decoder bytes = some kind ↔ TypeAt kind w := by
  rw [peekActionType, decoder.decode_value bytes w v hw hv]
  cases w with
  | map entries => cases hv
  | arr items =>
    obtain ⟨vs, hvs, rfl⟩ := Option.map_eq_some_iff.mp hv
    show knownActionType (vs[1]?.getD .undefined) = some kind ↔ _
    rw [getElem_jsOfWires hvs, TypeAt]
    cases hitem : items[1]? with
    | none => simp [knownActionType]
    | some w =>
      obtain ⟨v, hv⟩ := jsOfWires_item hvs hitem
      rw [Option.bind_some, hv, Option.getD_some, knownActionType_jsOfWire hv]
      simp
  | leaf marker m =>
    cases m with
    | nil =>
      obtain rfl := Option.some.inj hv
      simp [JsVal.index, TypeAt, Except.toOption]
    | bool b =>
      obtain rfl := Option.some.inj hv
      simp [JsVal.index, TypeAt, Except.toOption, knownActionType]
    | int n =>
      obtain rfl := Option.some.inj hv
      split_ifs <;> simp [JsVal.index, TypeAt, Except.toOption, knownActionType]
    | str text =>
      obtain ⟨s, -, rfl⟩ := Option.map_eq_some_iff.mp hv
      show knownActionType ((charValues s)[1]?.getD .undefined) = some kind ↔ False
      simp [knownActionType_char]
    | bin bs =>
      obtain rfl := Option.some.inj hv
      show knownActionType ((byteNumbers bs)[1]?.getD .undefined) = some kind ↔ bs[1]? = some _
      rw [byteNumbers, List.getElem?_map]
      cases bs[1]? with
      | none => simp [knownActionType]
      | some b =>
        show ActionKind.all.find? (fun kind => (kind.actionType.toNat : Int) = b.toNat) = some kind ↔ _
        rw [find_actionType, Int.ofNat_inj, UInt8.toNat_inj, Option.some_inj]
    | _ => cases hv

/-- What is no single whole value has no action type. -/
theorem peekActionType_none (h : ∀ w, decodeWire bytes ≠ some (w, [])) :
    peekActionType decoder bytes = none := by
  have herror : ∃ e, decoder.decode bytes = .error e := by
    cases hw : decodeWire bytes with
    | none => exact decoder.decode_missing bytes hw
    | some found =>
      obtain ⟨w, rest⟩ := found
      refine decoder.decode_extra bytes w rest hw ?_
      rintro rfl
      exact h w hw
  obtain ⟨e, he⟩ := herror
  rw [peekActionType, he]

/-- The type is where the core finds it. -/
theorem typeAt_of_ofMsg {forms : BinForms} {w : Wire} {v : JsVal} {x : WireTxEnvelope}
    (hv : jsOfWire w = some v) (h : WireTxEnvelope.schema.ofMsg forms w.offer = some x) :
    ∃ items marker, w = .arr items ∧ items[1]? = some (.leaf marker (.int x.actionType.toNat)) := by
  obtain ⟨items, rfl, -, -, w, hw, hvalue⟩ := envelope_items hv h
  cases w with
  | arr _ => cases hvalue
  | map _ => cases hvalue
  | leaf marker m =>
    obtain rfl : m = _ := hvalue
    exact ⟨items, marker, rfl, hw⟩

variable {rmp : RmpSerde}

/-- The core's peek, without the types that the SDK does not know. -/
theorem peekActionType_core (hsound : rmp.Sound) {w : Wire} {v : JsVal}
    (hw : decodeWire bytes = some (w, [])) (hv : jsOfWire w = some v) {byte : UInt8}
    (h : TradingSdk.peekActionType rmp bytes = some byte) :
    peekActionType decoder bytes = ActionKind.ofActionType byte := by
  obtain ⟨x, hx, rfl⟩ : ∃ x, rmp.fromSlice WireTxEnvelope.schema bytes = .ok x ∧
      x.actionType = byte := by
    rw [TradingSdk.peekActionType] at h
    cases hx : rmp.fromSlice WireTxEnvelope.schema bytes with
    | error e =>
      rw [hx] at h
      cases h
    | ok x =>
      rw [hx] at h
      exact ⟨x, rfl, Option.some.inj h⟩
  obtain ⟨w', rest, hw', hmsg⟩ := hsound _ _ _ hx
  obtain ⟨rfl, rfl⟩ := Prod.mk.inj (Option.some.inj (hw.symm.trans hw'))
  obtain ⟨items, marker, rfl, hitem⟩ := typeAt_of_ofMsg hv hmsg
  have hname := actionTypeName_byte x.actionType
  ext kind
  rw [peekActionType_eq_some_iff hw hv, ← hname, actionTypeName, find_actionType, TypeAt, hitem]
  simp

/-- A transaction that the client reads has the type in front, when that is an integer. -/
theorem typeAt_of_decodeTx (wasm : WasmSerde) (glue : WasmGlue) {items : List Wire} {marker : UInt8}
    {n : Int} {v : JsVal} {js : TsDecodedTx} (hw : decodeWire bytes = some (.arr items, []))
    (hv : jsOfWire (.arr items) = some v) (hitem : items[1]? = some (.leaf marker (.int n)))
    (h : decodeTx rmp wasm glue decoder bytes = .ok js) : n = js.action.type.actionType.toNat := by
  obtain ⟨vs, hvs, rfl⟩ := Option.map_eq_some_iff.mp hv
  simp only [decodeTx, decoder.decode_value bytes _ _ hw hv] at h
  cases hversion : (vs[0]?.getD JsVal.undefined).isEnvelopeVersion with
  | false =>
    have hfirst : (JsVal.array vs).index 0 = .ok (vs[0]?.getD .undefined) := rfl
    obtain ⟨e, he⟩ := readEnvelope_unsupported rmp wasm glue hfirst hversion
    rw [he] at h
    cases h
  | true =>
    have hslot : vs[1]? = some (if IsWide marker then .bigint n else .number n) := by
      rw [getElem_jsOfWires hvs, hitem]
      rfl
    rw [readEnvelope_array rmp wasm glue hversion, hslot] at h
    obtain ⟨seq, -, h⟩ := bind_eq_ok h
    obtain ⟨action, haction, rfl⟩ := map_eq_ok h
    obtain ⟨payload, -, haction⟩ := bind_eq_ok haction
    obtain ⟨byte, hbyte, haction⟩ := bind_eq_ok haction
    obtain ⟨fields, -, haction⟩ := bind_eq_ok haction
    rw [Option.getD_some] at hbyte haction
    split_ifs at hbyte haction with hwide
    · obtain ⟨e, he⟩ := glue.u8_bigint n
      rw [he] at hbyte
      cases hbyte
    · cases hname : actionTypeName (.number n) with
      | none =>
        rw [hname] at haction
        cases haction
      | some kind =>
        rw [hname] at haction
        obtain ⟨entries, -, haction⟩ := bind_eq_ok haction
        obtain rfl := Except.ok.inj haction
        exact find_actionType.mp hname

end Peek

end TradingSdk.Js
