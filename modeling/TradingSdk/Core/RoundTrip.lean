import TradingSdk.Core.Codec

namespace TradingSdk

open Serde Msgpack

section RoundTrip

variable (rmp : RmpSerde)

@[simp] theorem encodePayload_eq (action : Action) :
    encodePayload rmp action = .ok action.payloadMsg.encode := by
  simp [encodePayload, rmp.toVec_compact, mapErr, Action.payloadMsg]

theorem Action.payloadMsg_fits (action : Action) (h : action.payloadMsg.encode.length < 2^32) :
    action.payloadMsg.Fits :=
  fits_of_encode_lt _ (action.kind.schema.toMsg_intsFit action.payload) h

/-- A payload is read back in front of any bytes. -/
theorem decodeAction_encode (action : Action) (rest : Bytes) (h : action.payloadMsg.Fits) :
    decodeAction rmp action.actionType (action.payloadMsg.encode ++ rest) = .ok action := by
  have hread := rmp.fromSlice_toMsg action.kind.schema_lawful action.kind.schema_shallow
    action.payload rest h
  simp only [decodeAction, Action.actionType, ActionKind.ofActionType_actionType]
  rw [Action.payloadMsg, hread]
  rfl

/-- The envelope bounds nothing but its payload. -/
theorem WireTxEnvelope.toMsg_fits (x : WireTxEnvelope) (h : x.payload.length < 2^32) :
    (WireTxEnvelope.schema.toMsg x).Fits := by
  have hseq := x.seq.toNat_lt
  have hty := x.actionType.toNat_lt
  have hver := x.version.toNat_lt
  have hkey := x.pubkey.2
  have hsig := x.signature.2
  simp [WireTxEnvelope.schema, Schema.toMsg, Fields.toMsgs, Msg.Fits, FitsItems, ByteForm.toMsg,
    serdeBytes]
  omega

theorem WireTxEnvelope.schema_lawful : WireTxEnvelope.schema.lawful = true := by decide

theorem encodeSignedTx_eq (action : Action) (seq : UInt64) (pubkey : FixedBytes 32)
    (signature : FixedBytes 64) :
    encodeSignedTx rmp action seq pubkey signature = .ok (WireTxEnvelope.schema.toMsg
      ⟨envelopeVersion, action.actionType, seq, action.payloadMsg.encode, pubkey,
        signature⟩).encode := by
  simp only [encodeSignedTx, encodePayload_eq, rmp.toVec_compact, mapErr]
  rfl

theorem decodeTx_of_encode (action : Action) (seq : UInt64) (pubkey : FixedBytes 32)
    (signature : FixedBytes 64) (h : action.payloadMsg.encode.length < 2^32) :
    decodeTx rmp (WireTxEnvelope.schema.toMsg
      ⟨envelopeVersion, action.actionType, seq, action.payloadMsg.encode, pubkey,
        signature⟩).encode =
      .ok ⟨action, seq, ⟨pubkey, signature, action.actionType, action.payloadMsg.encode⟩⟩ := by
  set x : WireTxEnvelope :=
    ⟨envelopeVersion, action.actionType, seq, action.payloadMsg.encode, pubkey, signature⟩ with hx
  have hpos := encode_length_pos (WireTxEnvelope.schema.toMsg x)
  have hempty : (WireTxEnvelope.schema.toMsg x).encode.isEmpty = false := by
    simpa using List.ne_nil_of_length_pos hpos
  have hread : rmp.fromSlice WireTxEnvelope.schema (WireTxEnvelope.schema.toMsg x).encode = .ok x := by
    have hfront := rmp.fromSlice_toMsg WireTxEnvelope.schema_lawful (by decide) x [] (x.toMsg_fits h)
    rwa [List.append_nil] at hfront
  have haction : decodeAction rmp x.actionType x.payload = .ok action := by
    simpa using decodeAction_encode rmp action [] (action.payloadMsg_fits h)
  have hversion : supportedEnvelopeVersions.contains x.version = true := rfl
  simp only [decodeTx, hempty, hread, mapErr, Bool.false_eq_true, if_false]
  simp only [bind, Except.bind, hversion, if_true, haction, pure, Except.pure]
  rfl

/-- A signed envelope decodes to what went into it, and no two calls produce one envelope. -/
theorem decodeTx_encodeSignedTx (action : Action) (seq : UInt64) (pubkey : FixedBytes 32)
    (signature : FixedBytes 64) (payload : Bytes)
    (hpayload : encodePayload rmp action = .ok payload) (hlen : payload.length < 2^32) :
    (∃ bytes, encodeSignedTx rmp action seq pubkey signature = .ok bytes ∧
      decodeTx rmp bytes = .ok ⟨action, seq, ⟨pubkey, signature, action.actionType, payload⟩⟩) ∧
    ∀ action' seq' pubkey' signature' payload', encodePayload rmp action' = .ok payload' →
      payload'.length < 2^32 →
      encodeSignedTx rmp action' seq' pubkey' signature' =
        encodeSignedTx rmp action seq pubkey signature →
      action' = action ∧ seq' = seq ∧ pubkey' = pubkey ∧ signature' = signature := by
  rw [encodePayload_eq] at hpayload
  obtain rfl := Except.ok.inj hpayload
  have hdecode := decodeTx_of_encode rmp action seq pubkey signature hlen
  refine ⟨⟨_, encodeSignedTx_eq rmp action seq pubkey signature, hdecode⟩, ?_⟩
  intro action' seq' pubkey' signature' payload' hpayload' hlen' heq
  rw [encodePayload_eq] at hpayload'
  obtain rfl := Except.ok.inj hpayload'
  rw [encodeSignedTx_eq, encodeSignedTx_eq] at heq
  rw [← Except.ok.inj heq, decodeTx_of_encode rmp action' seq' pubkey' signature' hlen'] at hdecode
  have htx := Except.ok.inj hdecode
  simp only [DecodedTx.mk.injEq, TxAuth.mk.injEq] at htx
  exact ⟨htx.1, htx.2.1, htx.2.2.1, htx.2.2.2.1⟩

end RoundTrip

def sampleCancel : Action := ⟨.cancelOrder, ⟨7, Address.default⟩⟩

theorem decodeTx_encodeSignedTx_sampleCancel :
    ∃ bytes, encodeSignedTx .reference sampleCancel 1 ⟨List.replicate 32 0, rfl⟩
      ⟨List.replicate 64 0, rfl⟩ = .ok bytes ∧
    decodeTx .reference bytes = .ok ⟨sampleCancel, 1, ⟨List.replicate 32 0, rfl⟩,
      ⟨List.replicate 64 0, rfl⟩, 2, sampleCancel.payloadMsg.encode⟩ :=
  (decodeTx_encodeSignedTx .reference sampleCancel 1 ⟨List.replicate 32 0, rfl⟩
    ⟨List.replicate 64 0, rfl⟩ _ (encodePayload_eq _ _) (by decide)).1

/-- A text of `n` equal one-byte characters. -/
def repeatA (n : Nat) : String := String.ofList (List.replicate n 'a')

theorem utf8_repeatA (n : Nat) : utf8 (repeatA n) = List.replicate n 97 := by
  rw [repeatA, utf8_ofList]
  induction n with
  | zero => rfl
  | succ n ih => rw [List.replicate_succ, List.flatMap_cons, ih]; rfl

/-- A withdrawal failure whose reason has `n` letters. -/
def longFailure (n : Nat) : Action := ⟨.failWithdrawal, ⟨0, repeatA n, Address.default⟩⟩

theorem longFailure_encode (n : Nat) :
    (longFailure n).payloadMsg.encode =
      [0x93, 0] ++ (strHeader n ++ List.replicate n 97) ++ ([0xdc, 0, 20] ++ List.replicate 20 0) := by
  have hs : (longFailure n).payloadMsg = .arr [.int 0, .str (List.replicate n 97),
      .arr (List.replicate 20 (.int 0))] := by
    rw [← utf8_repeatA n]
    rfl
  have ha : (Msg.arr (List.replicate 20 (.int 0))).encode = [0xdc, 0, 20] ++ List.replicate 20 0 := by
    decide
  have h0 : (Msg.int 0).encode = [0] := by decide
  have h3 : arrHeader 3 = [0x93] := by decide
  rw [hs, Msg.encode]
  simp only [encodeItems, ha, h0, Msg.encode.eq_7, List.length_replicate, List.length_cons, List.length_nil,
    Nat.reduceAdd, h3, List.append_nil, List.cons_append, List.nil_append, List.append_assoc]

/-- The first 29 bytes of that payload, the length that its header announces. -/
def longFailureFront : Bytes := [0x93, 0, 0xdb, 0xff, 0xff, 0xff, 0xff] ++ List.replicate 22 97

/-- What a decoder finds in the envelope: a short payload followed by letters. -/
def misreadEnvelope : Msg :=
  .arr [.int 2, .int 11, .int 0, .bin longFailureFront, .int 97, .int 97]

theorem misreadEnvelope_ofMsg (c : BinForms) :
    WireTxEnvelope.schema.ofMsg c misreadEnvelope = none := rfl

theorem misreadEnvelope_fits : misreadEnvelope.Fits := by
  refine ⟨by decide, ⟨by decide, by decide⟩, ⟨by decide, by decide⟩, ⟨by decide, by decide⟩, ?_,
    ⟨by decide, by decide⟩, ⟨by decide, by decide⟩, trivial⟩
  show longFailureFront.length < 2^32
  decide

theorem envelope_longFailure (n : Nat) (hn : n + 1 = 2^32) (pubkey : FixedBytes 32)
    (signature : FixedBytes 64) : ∃ rest,
    (WireTxEnvelope.schema.toMsg ⟨envelopeVersion, (longFailure n).actionType, 0,
      (longFailure n).payloadMsg.encode, pubkey, signature⟩).encode =
      misreadEnvelope.encode ++ rest := by
  have hheader : strHeader n = [0xdb, 0xff, 0xff, 0xff, 0xff] := by
    have hn' : n = 4294967295 := by omega
    rw [hn']
    decide
  have hlen : (longFailure n).payloadMsg.encode.length = 2^32 + 29 := by
    rw [longFailure_encode, hheader]
    simp only [List.length_append, List.length_cons, List.length_nil, List.length_replicate]
    omega
  have hbin : binHeader (longFailure n).payloadMsg.encode.length = [0xc4, 29] := by
    rw [hlen]
    decide
  have hsplit : List.replicate n (97 : UInt8) =
      List.replicate 22 97 ++ ([97, 97] ++ List.replicate (n - 24) 97) := by
    have h2 : ([97, 97] : Bytes) = List.replicate 2 97 := rfl
    have hsum : 22 + (2 + (n - 24)) = n := by omega
    rw [h2, List.replicate_append_replicate, List.replicate_append_replicate, hsum]
  have hfront : misreadEnvelope.encode =
      [0x96, 2, 11, 0] ++ ([0xc4, 29] ++ (longFailureFront ++ [97, 97])) := by decide
  refine ⟨List.replicate (n - 24) 97 ++ ([0xdc, 0, 20] ++ List.replicate 20 0) ++
    encodeItems [.bin pubkey.1, .bin signature.1], ?_⟩
  have htoMsg : (WireTxEnvelope.schema.toMsg ⟨envelopeVersion, (longFailure n).actionType, 0,
      (longFailure n).payloadMsg.encode, pubkey, signature⟩) =
      .arr [.int 2, .int 11, .int 0, .bin (longFailure n).payloadMsg.encode, .bin pubkey.1,
        .bin signature.1] := rfl
  have h6 : arrHeader 6 = [0x96] := by decide
  have h2 : (Msg.int 2).encode = [2] := by decide
  have h11 : (Msg.int 11).encode = [11] := by decide
  have h0 : (Msg.int 0).encode = [0] := by decide
  rw [htoMsg, hfront, Msg.encode, encodeItems, encodeItems, encodeItems, encodeItems, h2, h11, h0, Msg.encode.eq_8,
    hbin, longFailure_encode, hheader, hsplit]
  simp only [List.length_cons, List.length_nil, Nat.reduceAdd, h6, longFailureFront,
    List.append_assoc, List.cons_append, List.nil_append]

/-- Bytes that begin with such an envelope are rejected. -/
theorem decodeTx_misreadEnvelope (rmp : RmpSerde) (rest : Bytes) :
    ∃ e, decodeTx rmp (misreadEnvelope.encode ++ rest) = .error e := by
  obtain ⟨e, he⟩ := rmp.fromSlice_error WireTxEnvelope.schema misreadEnvelope rest
    misreadEnvelope_fits (misreadEnvelope_ofMsg _)
  refine ⟨.decodeError e, ?_⟩
  have hne := List.ne_nil_of_length_pos (encode_length_pos misreadEnvelope)
  have hempty : (misreadEnvelope.encode ++ rest).isEmpty = false :=
    List.isEmpty_eq_false_iff.mpr (List.append_ne_nil_of_left_ne_nil hne rest)
  simp only [decodeTx, hempty, he, mapErr]
  rfl

/-- The reason is shorter than 2^32 bytes, the payload is not: its header announces 29 bytes. -/
theorem decodeTx_longFailure :
    (utf8 (repeatA 4294967295)).length < 2^32 ∧
    ∀ (rmp : RmpSerde) (pubkey : FixedBytes 32) (signature : FixedBytes 64), ∃ bytes e,
      encodeSignedTx rmp (longFailure 4294967295) 0 pubkey signature = .ok bytes ∧
      decodeTx rmp bytes = .error e := by
  refine ⟨by rw [utf8_repeatA, List.length_replicate]; norm_num, ?_⟩
  intro rmp pubkey signature
  obtain ⟨rest, hrest⟩ := envelope_longFailure 4294967295 (by norm_num) pubkey signature
  obtain ⟨e, he⟩ := decodeTx_misreadEnvelope rmp rest
  refine ⟨_, e, encodeSignedTx_eq rmp _ 0 pubkey signature, ?_⟩
  rw [hrest, he]

end TradingSdk
