import TradingSdk.Core.Crypto
import TradingSdk.Js.Actions

namespace TradingSdk.Js

open Serde Msgpack

section Codec

variable (rmp : RmpSerde) (wasm : WasmSerde)

/-- `encode_payload` of the WASM binding. The bytes must fit its memory. -/
def wasmEncodePayload (actionType : UInt8) (fields : JsVal) : Except JsError Bytes :=
  match ActionKind.ofActionType actionType with
  | none => .error (.core (unknownActionType actionType))
  | some kind => do
    let value ← liftCore (mapErr .decodeError (wasm.fromValue kind.schema fields))
    let payload ← liftCore (encodePayload rmp ⟨kind, value⟩)
    if payload.length ≤ wasm.capacity then return payload else .error .trap

/-- `decode_payload` of the WASM binding. -/
def wasmDecodePayload (actionType : UInt8) (payload : Bytes) : Except JsError JsVal :=
  if payload.length ≤ wasm.capacity then do
    let action ← liftCore (decodeAction rmp actionType payload)
    liftCore (mapErr .internalError (wasm.toValue action.kind.schema action.payload))
  else .error .trap

def encodePayloadBytes (action : TsAction) : Except JsError Bytes := do
  let (actionType, fields) ← toWasmFields action
  wasmEncodePayload rmp wasm actionType fields

def signingMessage (chainId : Bytes) (actionType : UInt8) (seq : Int) (payload : Bytes) :
    Except JsError Bytes :=
  if chainId.length = 32 then
    .ok (domainPrefix ++ (chainId ++ (actionType :: (bigIntBytes seq ++ payload))))
  else .error (.error s!"chain_id must be 32 bytes, got {chainId.length}")

/-- `decodeError` is what the decoding threw, present exactly when `action` is absent. -/
structure DecodedSigningMessage where
  chainId : Bytes
  actionType : UInt8
  actionName : Option String
  seq : UInt64
  payloadBytes : Bytes
  action : Option TsAction
  decodeError : Option JsError

def headerLen : Nat := domainPrefix.length + 32 + 1 + 8

/-- The action of a payload, when encoding it again gives back the same bytes. -/
def decodeCanonical (kind : ActionKind) (payload : Bytes) : Except JsError TsAction := do
  let fields ← wasmDecodePayload rmp wasm kind.actionType payload
  let decodedAction ← fromWasmFields kind fields
  let canonicalPayloadBytes ← encodePayloadBytes rmp wasm decodedAction
  if canonicalPayloadBytes = payload then return decodedAction
  else .error (.error "payload is not the canonical representation this SDK can safely display")

/-- The hexadecimal digits of a byte, at least two of them. -/
def hexByte (b : UInt8) : String :=
  let digits := Nat.toDigits 16 b.toNat
  String.ofList (List.replicate (2 - digits.length) '0' ++ digits)

def decodeReview (actionType : UInt8) (payload : Bytes) : Except JsError TsAction :=
  match ActionKind.ofActionType actionType with
  | none => .error (.error
      ("unknown action type 0x" ++ hexByte actionType ++ " — not in this SDK build"))
  | some kind => decodeCanonical rmp wasm kind payload

def decodeSigningMessage (msg : Bytes) : Except JsError DecodedSigningMessage :=
  if msg.length < headerLen then
    .error (.error (s!"not a Proof v3 signing message: {msg.length} bytes is shorter than " ++
      s!"the {headerLen}-byte fixed header"))
  else if msg.take 16 ≠ domainPrefix then
    .error (.error ("not a Proof v3 signing message: missing the \"ProofExchange-v3\" " ++
      "domain prefix"))
  else
    let actionType := (msg.drop 48).headD 0
    let payloadBytes := msg.drop 57
    let review := decodeReview rmp wasm actionType payloadBytes
    .ok {
      chainId := (msg.drop 16).take 32
      actionType := actionType
      actionName := (ActionKind.ofActionType actionType).map ActionKind.name
      seq := UInt64.ofNat (beNat ((msg.drop 49).take 8))
      payloadBytes := payloadBytes
      action := review.toOption
      decodeError := match review with
        | .ok _ => none
        | .error e => some e }

theorem wasmEncodePayload_eq (kind : ActionKind) (fields : JsVal) (x : kind.Payload)
    (h : kind.schema.ofJs fields = some x) :
    wasmEncodePayload rmp wasm kind.actionType fields =
      if (Action.mk kind x).payloadMsg.encode.length ≤ wasm.capacity then
        .ok (Action.mk kind x).payloadMsg.encode
      else .error .trap := by
  have hread := (wasm.fromValue_eq_ok kind.schema fields x).mpr h
  rw [wasmEncodePayload, ActionKind.ofActionType_actionType]
  simp only [hread, mapErr, encodePayload_eq]
  rfl

/-- Bytes come out only for an object that the core can read, and they fit its memory. -/
theorem wasmEncodePayload_ok {kind : ActionKind} {fields : JsVal} {payload : Bytes}
    (h : wasmEncodePayload rmp wasm kind.actionType fields = .ok payload) :
    ∃ x : kind.Payload, kind.schema.ofJs fields = some x ∧
      payload = (Action.mk kind x).payloadMsg.encode ∧ payload.length ≤ wasm.capacity := by
  cases hread : kind.schema.ofJs fields with
  | none =>
    rw [wasmEncodePayload, ActionKind.ofActionType_actionType] at h
    cases hv : wasm.fromValue kind.schema fields with
    | ok x =>
      rw [(wasm.fromValue_eq_ok kind.schema fields x).mp hv] at hread
      cases hread
    | error e =>
      simp only [hv, mapErr, liftCore] at h
      cases h
  | some x =>
    rw [wasmEncodePayload_eq rmp wasm kind fields x hread] at h
    split_ifs at h with hlen
    obtain rfl := Except.ok.inj h
    exact ⟨x, rfl, rfl, hlen⟩

theorem encodePayloadBytes_eq (action : TsAction) :
    encodePayloadBytes rmp wasm action = (validateAction action).bind fun _ =>
      (convertObject action.data).bind fun fields =>
        wasmEncodePayload rmp wasm action.type.actionType
          (.object (withOpenInterest action.type fields)) := by
  rw [encodePayloadBytes, toWasmFields]
  cases validateAction action with
  | error e => rfl
  | ok u => cases convertObject action.data <;> rfl

end Codec

/-- A field under `action` that the client accepts holds a valid governance action. -/
theorem fieldsValid_of_action {entries : Entries} {action : AdminAction}
    (hshape : ShapedEntries entries)
    (hd : FieldDenotes "action" AdminAction.schema none (entries.lookup "action") action) :
    action.FieldsValid := by
  cases hl : entries.lookup "action" with
  | none =>
    rw [hl] at hd
    cases hd
  | some v =>
    rw [hl] at hd
    obtain ⟨_, habsent⟩ | ⟨_, w, hconv, hread⟩ := hd
    · cases habsent
    · rw [convertValue_action] at hconv
      exact fieldsValid_of_governanceItem (shaped_of_lookup hshape hl) hconv hread

/-- What the client accepts is valid in the core. -/
theorem fieldsValid_of_accepted {kind : ActionKind} {entries result : Entries} {x : kind.Payload}
    (hshape : (JsVal.object entries).Shaped)
    (hvalid : validateAction ⟨kind, .object entries⟩ = .ok ())
    (hconv : convertEntries [] entries = .ok result)
    (hread : kind.schema.ofJs (.object (withOpenInterest kind result)) = some x) :
    (Action.mk kind x).FieldsValid := by
  have hsame : kind ≠ .createMarket → DenotesObject kind.schema entries x := by
    intro hk
    rw [withOpenInterest, if_neg fun hc => hk hc.1] at hread
    exact denotesObject_of_ofJs kind.schema_adapts hshape hconv hread
  cases kind
  case setPositionTriggers =>
    exact validateFields_of_validateSetPositionTriggers (hsame (by decide)) hshape.2 hvalid
  case cancelPositionTriggers =>
    exact validateFields_of_validateCancelPositionTriggers (hsame (by decide)) hvalid
  case proposeAdminAction =>
    exact fieldsValid_of_action hshape.2 (hsame (by decide)).2.2.1
  case approveAdminAction =>
    exact fieldsValid_of_action hshape.2 (hsame (by decide)).2.2.2.2.2.2.2.2.1
  all_goals trivial

section Review

variable (rmp : RmpSerde) (wasm : WasmSerde)

theorem encodePayloadBytes_ok {action : TsAction} {payload : Bytes} (hshape : action.Shaped)
    (h : encodePayloadBytes rmp wasm action = .ok payload) :
    ∃ x : action.type.Payload, payload = (Action.mk action.type x).payloadMsg.encode ∧
      payload.length ≤ wasm.capacity ∧ (Action.mk action.type x).FieldsValid := by
  obtain ⟨entries, hdata, hshape⟩ := hshape
  rw [encodePayloadBytes_eq] at h
  obtain ⟨_, hvalid, h⟩ := bind_eq_ok h
  obtain ⟨result, hconv, h⟩ := bind_eq_ok h
  obtain ⟨x, hread, hp, hlen⟩ := wasmEncodePayload_ok rmp wasm h
  rw [hdata, convertObject] at hconv
  have haction : action = ⟨action.type, .object entries⟩ := by rw [← hdata]
  rw [haction] at hvalid
  exact ⟨x, hp, hlen, fieldsValid_of_accepted hshape hvalid hconv hread⟩

/-- A valid action that fits the memory is shown and encodes back to its bytes. -/
theorem decodeCanonical_encode {action : Action} (hvalid : action.FieldsValid)
    (hlen : action.payloadMsg.encode.length ≤ wasm.capacity) :
    ∃ entries, decodeCanonical rmp wasm action.kind action.payloadMsg.encode =
        .ok ⟨action.kind, .object entries⟩ := by
  obtain ⟨entries, hfields, hitem, hshape, hback⟩ := action.fromWasmFields_toJs
  obtain ⟨result, hconv, hread⟩ := hback hvalid
  have hlt : action.payloadMsg.encode.length < 2^32 := lt_of_le_of_lt hlen wasm.capacity_lt
  have hdecode : wasmDecodePayload rmp wasm action.kind.actionType action.payloadMsg.encode =
      .ok (action.kind.schema.toJs action.payload) := by
    have haction := decodeAction_encode rmp action [] (action.payloadMsg_fits hlt)
    rw [List.append_nil] at haction
    rw [wasmDecodePayload, if_pos hlen]
    show (liftCore (decodeAction rmp action.actionType action.payloadMsg.encode)).bind _ = _
    rw [haction]
    show liftCore (mapErr _ (wasm.toValue action.kind.schema action.payload)) = _
    rw [wasm.toValue_eq]
    rfl
  have hencode : encodePayloadBytes rmp wasm ⟨action.kind, .object entries⟩ =
      .ok action.payloadMsg.encode := by
    rw [encodePayloadBytes_eq, action.validateAction_of_fieldsValid hvalid hitem]
    show (convertEntries [] entries).bind _ = _
    rw [hconv]
    show wasmEncodePayload rmp wasm action.kind.actionType
      (.object (withOpenInterest action.kind result)) = _
    rw [wasmEncodePayload_eq rmp wasm action.kind _ action.payload (ofJs_withOpenInterest hread),
      if_pos hlen]
  refine ⟨entries, ?_⟩
  rw [decodeCanonical, hdecode]
  show (fromWasmFields action.kind (action.kind.schema.toJs action.payload)).bind _ = _
  rw [hfields]
  show (encodePayloadBytes rmp wasm ⟨action.kind, .object entries⟩).bind _ = _
  rw [hencode]
  exact if_pos rfl

theorem wasmDecodePayload_ok {kind : ActionKind} {payload : Bytes} {fields : JsVal}
    (h : wasmDecodePayload rmp wasm kind.actionType payload = .ok fields) :
    ∃ x : kind.Payload, fields = kind.schema.toJs x := by
  rw [wasmDecodePayload] at h
  split_ifs at h
  obtain ⟨action, haction, h⟩ := bind_eq_ok h
  rw [decodeAction, ActionKind.ofActionType_actionType] at haction
  cases hx : rmp.fromSlice kind.schema payload with
  | error e =>
    simp only [hx, mapErr] at haction
    cases haction
  | ok x =>
    simp only [hx, mapErr] at haction
    obtain rfl : Action.mk kind x = action := Except.ok.inj haction
    rw [wasm.toValue_eq] at h
    exact ⟨x, (Except.ok.inj h).symm⟩

/-- A shown action is well shaped and encodes to the reviewed bytes. -/
theorem decodeCanonical_ok {kind : ActionKind} {payload : Bytes} {action : TsAction}
    (h : decodeCanonical rmp wasm kind payload = .ok action) :
    action.type = kind ∧ action.Shaped ∧ encodePayloadBytes rmp wasm action = .ok payload := by
  obtain ⟨fields, hdecode, h⟩ := bind_eq_ok h
  obtain ⟨decoded, hfields, h⟩ := bind_eq_ok h
  obtain ⟨canonical, hencode, h⟩ := bind_eq_ok h
  split_ifs at h with hcanonical
  obtain rfl := Except.ok.inj h
  obtain ⟨x, rfl⟩ := wasmDecodePayload_ok rmp wasm hdecode
  obtain ⟨entries, hfrom, -, hshape, -⟩ := (Action.mk kind x).fromWasmFields_toJs
  obtain rfl := Except.ok.inj (hfrom.symm.trans hfields)
  exact ⟨rfl, ⟨entries, rfl, hshape⟩, hcanonical ▸ hencode⟩

theorem bigIntBytes_u64 (seq : UInt64) : bigIntBytes seq.toNat = beBytes 8 seq.toNat := by
  have h := seq.toNat_lt
  have hmod : ((seq.toNat : Int) % 2^64).toNat = seq.toNat := by omega
  rw [bigIntBytes, hmod]

theorem signingMessage_ok {chainId payload msg : Bytes} {actionType : UInt8} {seq : UInt64}
    (h : signingMessage chainId actionType seq.toNat payload = .ok msg) : chainId.length = 32 ∧
      msg = domainPrefix ++ (chainId ++ (actionType :: (beBytes 8 seq.toNat ++ payload))) := by
  rw [signingMessage] at h
  split_ifs at h with hlen
  rw [bigIntBytes_u64] at h
  exact ⟨hlen, (Except.ok.inj h).symm⟩

/-- The parts of a message are where the review looks for them. -/
theorem decodeSigningMessage_signingMessage {chainId payload msg : Bytes} {actionType : UInt8}
    {seq : UInt64} (h : signingMessage chainId actionType seq.toNat payload = .ok msg) :
    ∃ r, decodeSigningMessage rmp wasm msg = .ok r ∧
      r.action = (decodeReview rmp wasm actionType payload).toOption := by
  obtain ⟨hchain, hmsg⟩ := signingMessage_ok h
  have hdomain : domainPrefix.length = 16 := by decide
  have h16 : msg.drop 16 = chainId ++ (actionType :: (beBytes 8 seq.toNat ++ payload)) := by
    rw [hmsg, List.drop_left' hdomain]
  have h48 : msg.drop 48 = actionType :: (beBytes 8 seq.toNat ++ payload) := by
    rw [show 48 = 16 + 32 from rfl, ← List.drop_drop, h16, List.drop_left' hchain]
  have h57 : msg.drop 57 = payload := by
    rw [show 57 = 48 + (1 + 8) from rfl, ← List.drop_drop, h48, Nat.add_comm, List.drop_succ_cons,
      List.drop_left' (beBytes_length _ _)]
  have hlen : ¬ msg.length < headerLen := by
    rw [hmsg, headerLen]
    simp only [List.length_append, List.length_cons, beBytes_length, hchain]
    omega
  have htake : msg.take 16 = domainPrefix := by rw [hmsg, List.take_left' hdomain]
  rw [decodeSigningMessage, if_neg hlen, if_neg (not_not.mpr htake)]
  refine ⟨_, rfl, ?_⟩
  simp only [h48, h57, List.headD_cons]

/-- Whatever is reviewed is the message of its parts. -/
theorem signingMessage_of_review {msg : Bytes} {r : DecodedSigningMessage}
    (h : decodeSigningMessage rmp wasm msg = .ok r) :
    signingMessage r.chainId r.actionType r.seq.toNat r.payloadBytes = .ok msg ∧
      r.action = (decodeReview rmp wasm r.actionType r.payloadBytes).toOption := by
  rw [decodeSigningMessage] at h
  split_ifs at h with hlen htake
  obtain rfl := Except.ok.inj h
  have hdomain : domainPrefix.length = 16 := by decide
  have hlen : 57 ≤ msg.length := by
    rw [headerLen, hdomain] at hlen
    omega
  have hseq : ((msg.drop 49).take 8).length = 8 := by simp; omega
  have hbytes : beBytes 8 (UInt64.ofNat (beNat ((msg.drop 49).take 8))).toNat =
      (msg.drop 49).take 8 := by
    have hlt := beNat_lt ((msg.drop 49).take 8)
    have hround := beBytes_beNat ((msg.drop 49).take 8)
    rw [hseq] at hlt hround
    rw [UInt64.toNat_ofNat_of_lt' hlt, hround]
  have h57 : (msg.drop 49).take 8 ++ msg.drop 57 = msg.drop 49 := by
    rw [show 57 = 49 + 8 from rfl, ← List.drop_drop, List.take_append_drop]
  have h48 : (msg.drop 48).headD 0 :: msg.drop 49 = msg.drop 48 := by
    rw [List.drop_eq_getElem_cons (by omega : 48 < msg.length)]
    rfl
  have h16 : (msg.drop 16).take 32 ++ msg.drop 48 = msg.drop 16 := by
    rw [show 48 = 16 + 32 from rfl, ← List.drop_drop, List.take_append_drop]
  refine ⟨?_, rfl⟩
  rw [signingMessage, if_pos (by simp; omega), bigIntBytes_u64, hbytes, h57, h48, h16,
    ← not_not.mp htake, List.take_append_drop]

theorem decodeReview_ok {actionType : UInt8} {payload : Bytes} {action : TsAction}
    (h : decodeReview rmp wasm actionType payload = .ok action) :
    action.type.actionType = actionType ∧ action.Shaped ∧
      encodePayloadBytes rmp wasm action = .ok payload := by
  rw [decodeReview] at h
  cases hk : ActionKind.ofActionType actionType with
  | none =>
    rw [hk] at h
    cases h
  | some kind =>
    rw [hk] at h
    obtain ⟨rfl, hshape, hencode⟩ := decodeCanonical_ok rmp wasm h
    have hbyte := List.find?_some hk
    exact ⟨by simpa using hbyte, hshape, hencode⟩

end Review

end TradingSdk.Js
