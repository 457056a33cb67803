import TradingSdk.Core.RoundTrip
import TradingSdk.Serde.Content

namespace TradingSdk

open Serde Msgpack

section DynBridge

variable (rmp : RmpSerde) (dyn : ContentSerde)

/-- `encode_payload_dyn`. -/
def encodePayloadDyn (actionType : UInt8) (fields : Content) : Except ExecError Bytes :=
  match ActionKind.ofActionType actionType with
  | some kind => do
    let value ← mapErr .decodeError (dyn.fromContent kind.schema fields)
    encodePayload rmp ⟨kind, value⟩
  | none => .error (unknownActionType actionType)

/-- `decode_payload_dyn`. -/
def decodePayloadDyn (actionType : UInt8) (payload : Bytes) : Except ExecError Content :=
  match ActionKind.ofActionType actionType with
  | some kind => do
    let value ← mapErr .decodeError (rmp.fromSlice kind.schema payload)
    mapErr .internalError (dyn.toContent kind.schema value)
  | none => .error (unknownActionType actionType)

/-- Fields that the type of a kind reads are encoded as the value that they stand for. -/
theorem encodePayloadDyn_of_ofContent {kind : ActionKind} {fields : Content} {x : kind.Payload}
    (h : kind.schema.ofContent fields = some x) :
    encodePayloadDyn rmp dyn kind.actionType fields = .ok (Action.mk kind x).payloadMsg.encode := by
  have hread := dyn.fromContent_ok kind.schema fields x h
  simp only [encodePayloadDyn, ActionKind.ofActionType_actionType, hread, mapErr]
  exact encodePayload_eq rmp ⟨kind, x⟩

/-- The fields of a payload that fits its headers give back its bytes. -/
theorem decodePayloadDyn_roundTrip (action : Action) (payload : Bytes)
    (h : encodePayload rmp action = .ok payload) (hfits : action.payloadMsg.Fits) :
    decodePayloadDyn rmp dyn action.actionType payload =
      .ok (action.kind.schema.toContent action.payload) ∧
    encodePayloadDyn rmp dyn action.actionType (action.kind.schema.toContent action.payload) =
      .ok payload := by
  rw [encodePayload_eq] at h
  obtain rfl := Except.ok.inj h
  have hlawful := action.kind.schema_lawful
  constructor
  · have hread := rmp.fromSlice_toMsg hlawful action.kind.schema_shallow action.payload [] hfits
    rw [List.append_nil] at hread
    simp only [decodePayloadDyn, Action.actionType, ActionKind.ofActionType_actionType,
      Action.payloadMsg]
    rw [hread]
    simp only [mapErr, dyn.toContent_eq]
    rfl
  · exact encodePayloadDyn_of_ofContent rmp dyn (Schema.ofContent_toContent _ _ hlawful)

end DynBridge

theorem decodePayloadDyn_roundTrip_sampleCancel :
    decodePayloadDyn .reference .reference 2 sampleCancel.payloadMsg.encode =
      .ok (.map [("order_id", .int 7), ("owner", .bytes (List.replicate 20 0))]) ∧
    encodePayloadDyn .reference .reference 2
      (.map [("order_id", .int 7), ("owner", .bytes (List.replicate 20 0))]) =
      .ok sampleCancel.payloadMsg.encode :=
  decodePayloadDyn_roundTrip .reference .reference sampleCancel _ (encodePayload_eq _ _)
    (sampleCancel.payloadMsg_fits (by decide))

/-- What a decoder finds in the payload of a failure whose reason has 2^32 letters: the header
announces an empty text, and a letter follows in the place of the address. -/
def misreadFailure : Msg := .arr [.int 0, .str [], .int 97]

theorem misreadFailure_ofMsg (c : BinForms) :
    ActionKind.failWithdrawal.schema.ofMsg c misreadFailure = none := rfl

theorem misreadFailure_fits : misreadFailure.Fits := by
  refine ⟨by decide, ⟨by decide, by decide⟩, ?_, ⟨by decide, by decide⟩, trivial⟩
  show ([] : Bytes).length < 2^32
  decide

theorem encode_longFailure (n : Nat) (hn : n = 2^32) :
    ∃ rest, (longFailure n).payloadMsg.encode = misreadFailure.encode ++ rest := by
  have hheader : strHeader n = [0xa0] := by
    rw [hn]
    decide
  have hletters : List.replicate n (97 : UInt8) = 97 :: List.replicate (n - 1) 97 := by
    rw [← List.replicate_succ]
    congr 1
    omega
  have hmisread : misreadFailure.encode = [0x93, 0, 0xa0, 97] := by decide
  refine ⟨List.replicate (n - 1) 97 ++ ([0xdc, 0, 20] ++ List.replicate 20 0), ?_⟩
  rw [longFailure_encode, hheader, hmisread, hletters]
  rfl

/-- A text of 2^32 letters has no header of its length. -/
theorem decodePayloadDyn_longFailure :
    ∃ payload e, encodePayload .reference (longFailure (2^32)) = .ok payload ∧
      decodePayloadDyn .reference .reference (longFailure (2^32)).actionType payload =
        .error e := by
  obtain ⟨rest, hrest⟩ := encode_longFailure (2^32) rfl
  obtain ⟨e, he⟩ := RmpSerde.reference.fromSlice_error ActionKind.failWithdrawal.schema misreadFailure rest
    misreadFailure_fits (misreadFailure_ofMsg _)
  refine ⟨misreadFailure.encode ++ rest, .decodeError e, ?_, ?_⟩
  · rw [encodePayload_eq, hrest]
  · have hkind : ActionKind.ofActionType (longFailure (2^32)).actionType =
        some .failWithdrawal := rfl
    rw [decodePayloadDyn, hkind]
    simp only [he, mapErr]
    rfl

end TradingSdk
