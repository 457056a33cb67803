import TradingSdk.Core.Canonical

namespace TradingSdk

open Serde Msgpack

def peekActionType (rmp : RmpSerde) (bytes : Bytes) : Option UInt8 :=
  (rmp.fromSlice WireTxEnvelope.schema bytes).toOption.map fun envelope => envelope.actionType

def peekSeq (rmp : RmpSerde) (bytes : Bytes) : Option UInt64 := do
  let envelope ← (rmp.fromSlice WireTxEnvelope.schema bytes).toOption
  return envelope.seq

section Truncation

variable {rmp : RmpSerde}

/-- Every reader of transactions starts with the envelope. -/
theorem readers_of_error {bytes : Bytes} {e : String}
    (h : rmp.fromSlice WireTxEnvelope.schema bytes = .error e) :
    (∃ e, decodeTx rmp bytes = .error e) ∧ (∃ e, decodeTxRaw rmp bytes = .error e) ∧
      peekActionType rmp bytes = none ∧ peekSeq rmp bytes = none := by
  rw [decodeTx, decodeTxRaw, peekActionType, peekSeq, h]
  refine ⟨?_, ?_, rfl, rfl⟩
  · split
    · exact ⟨_, rfl⟩
    · exact ⟨.decodeError e, rfl⟩
  · split
    · exact ⟨_, rfl⟩
    · exact ⟨.decodeError e, rfl⟩

/-- The envelope is no longer there when anything is cut off its end. -/
theorem fromSlice_prefix (hsound : rmp.Sound) {x : WireTxEnvelope}
    (hx : x.payload.length < 2^32) {p : Bytes} (hp : p <+: (WireTxEnvelope.schema.toMsg x).encode)
    (hne : p ≠ (WireTxEnvelope.schema.toMsg x).encode) :
    ∃ e, rmp.fromSlice WireTxEnvelope.schema p = .error e := by
  obtain ⟨more, hmore⟩ := hp
  have hcut : more ≠ [] := by
    rintro rfl
    exact hne (by rw [← hmore, List.append_nil])
  cases hread : rmp.fromSlice WireTxEnvelope.schema p with
  | error e => exact ⟨e, rfl⟩
  | ok y =>
    obtain ⟨w, rest, hw, -⟩ := hsound _ p y hread
    have hdecode := decode_of_decodeWire hw
    rw [decode_prefix_none (x.toMsg_fits hx) hmore hcut] at hdecode
    cases hdecode

/-- No reader accepts a truncated transaction, and on the whole of it all of them agree. -/
theorem truncated_tx_rejected (hsound : rmp.Sound) (action : Action) (seq : UInt64)
    (pubkey : FixedBytes 32) (signature : FixedBytes 64) (payload : Bytes)
    (hpayload : encodePayload rmp action = .ok payload) (hlen : payload.length < 2^32) :
    ∃ bytes, encodeSignedTx rmp action seq pubkey signature = .ok bytes ∧
      (∀ p, p <+: bytes → p ≠ bytes →
        (∃ e, decodeTx rmp p = .error e) ∧ (∃ e, decodeTxRaw rmp p = .error e) ∧
          peekActionType rmp p = none ∧ peekSeq rmp p = none) ∧
      ∃ tx, decodeTx rmp bytes = .ok tx ∧ tx.auth.actionType = action.actionType ∧ tx.seq = seq ∧
        peekActionType rmp bytes = some tx.auth.actionType ∧ peekSeq rmp bytes = some tx.seq := by
  rw [encodePayload_eq] at hpayload
  obtain rfl := Except.ok.inj hpayload
  refine ⟨_, encodeSignedTx_eq rmp action seq pubkey signature, ?_, ?_⟩
  · intro p hp hne
    obtain ⟨e, he⟩ := fromSlice_prefix hsound hlen hp hne
    exact readers_of_error he
  · have hdecode := decodeTx_of_encode rmp action seq pubkey signature hlen
    have hread := (decodeTxRaw_ok (decodeTx_eq_ok.mp hdecode).1).1
    refine ⟨_, hdecode, rfl, rfl, ?_, ?_⟩
    · rw [peekActionType, hread]
      rfl
    · rw [peekSeq, hread]
      rfl

theorem truncated_tx_rejected_sampleCancel : ∃ bytes, encodeSignedTx .reference sampleCancel 1
      ⟨List.replicate 32 0, rfl⟩ ⟨List.replicate 64 0, rfl⟩ = .ok bytes ∧
    peekSeq .reference bytes = some 1 ∧ peekSeq .reference bytes.dropLast = none := by
  obtain ⟨bytes, hencode, hcut, tx, -, -, hseq, -, hpeek⟩ := truncated_tx_rejected
    RmpSerde.reference_sound sampleCancel 1 ⟨List.replicate 32 0, rfl⟩
    ⟨List.replicate 64 0, rfl⟩ _ (encodePayload_eq _ _) (by decide)
  refine ⟨bytes, hencode, by rw [hpeek, hseq], ?_⟩
  have hbytes := encodeSignedTx_eq .reference sampleCancel 1 ⟨List.replicate 32 0, rfl⟩
    ⟨List.replicate 64 0, rfl⟩
  rw [hencode] at hbytes
  have hpos : 0 < bytes.length := by
    rw [Except.ok.inj hbytes]
    exact encode_length_pos _
  refine (hcut _ (List.dropLast_prefix _) ?_).2.2.2
  intro h
  have hlength := congrArg List.length h
  rw [List.length_dropLast] at hlength
  omega

end Truncation

/-- A signature inside of which an envelope can end, with `k` more zeros. -/
def hidingSignature (k : Nat) : SolanaSignature :=
  ([0xc4, 32] ++ List.replicate 31 0 ++ [0xdc, 0, 64] ++ List.replicate 64 0) ++ List.replicate k 0

def hidingConfirmation (k : Nat) : Action :=
  ⟨.confirmWithdrawal, ⟨0, hidingSignature k, Address.default⟩⟩

theorem encodeItems_zeros (k : Nat) :
    encodeItems (List.replicate k (.int 0)) = List.replicate k 0 := by
  have h0 : (Msg.int 0).encode = [0] := by decide
  induction k with
  | zero => rfl
  | succ k ih => rw [List.replicate_succ, encodeItems, h0, ih, List.replicate_succ]; rfl

/-- The bytes of the payload after the marker of its first large byte. -/
def hiddenEnd : Bytes :=
  [0xc4, 32] ++ List.replicate 31 0 ++ [0xcc, 0xdc, 0, 64] ++ List.replicate 64 0

theorem hidingConfirmation_encode (k : Nat) : (hidingConfirmation k).payloadMsg.encode =
    [0x93, 0] ++ arrHeader (100 + k) ++ [0xcc] ++ (hiddenEnd ++
      (List.replicate k 0 ++ ([0xdc, 0, 20] ++ List.replicate 20 0))) := by
  have hitems : byteItems (hidingSignature k) = byteItems (hidingSignature 0) ++
      List.replicate k (.int 0) := by
    simp [byteItems, hidingSignature]
  have hlen : (byteItems (hidingSignature k)).length = 100 + k := by
    simp [byteItems, hidingSignature]
    omega
  have hmsg : (hidingConfirmation k).payloadMsg = .arr [.int 0,
    .arr (byteItems (hidingSignature k)), .arr (List.replicate 20 (.int 0))] := rfl
  have hfront : encodeItems (byteItems (hidingSignature 0)) = [0xcc] ++ hiddenEnd := by decide
  have hsigner : (Msg.arr (List.replicate 20 (.int 0))).encode =
      [0xdc, 0, 20] ++ List.replicate 20 0 := by decide
  have h0 : (Msg.int 0).encode = [0] := by decide
  have h3 : arrHeader 3 = [0x93] := by decide
  have hsig : (Msg.arr (byteItems (hidingSignature k))).encode =
      arrHeader (100 + k) ++ ([0xcc] ++ hiddenEnd ++ List.replicate k 0) := by
    rw [Msg.encode, hlen, hitems, encodeItems_append, hfront, encodeItems_zeros]
  rw [hmsg, Msg.encode]
  simp only [encodeItems, hsigner, h0, hsig, List.length_cons, List.length_nil, Nat.reduceAdd, h3,
    List.append_nil, List.append_assoc, List.cons_append, List.nil_append]

theorem hiddenKey_length : (List.replicate 31 (0 : UInt8) ++ [0xcc]).length = 32 := rfl

/-- The envelope that is read: eight bytes of payload, then the key and the signature out of it. -/
def hiddenEnvelope : WireTxEnvelope :=
  ⟨envelopeVersion, 10, 0, [0x93, 0, 0xdd, 0xff, 0xff, 0xff, 0xe8, 0xcc],
    ⟨List.replicate 31 0 ++ [0xcc], hiddenKey_length⟩, sampleRaw.signature⟩

def hiddenMsg : Msg :=
  .arr [.int 2, .int 10, .int 0, .bin hiddenEnvelope.payload, .bin hiddenEnvelope.pubkey.1,
    .arr (List.replicate 64 (.int 0))]

theorem hiddenMsg_ofMsg (c : BinForms) :
    WireTxEnvelope.schema.ofMsg c hiddenMsg = some hiddenEnvelope := rfl

theorem hiddenMsg_fits : hiddenMsg.Fits := by
  apply fits_of_encode_lt
  · refine ⟨by simp [Msg.IntsFit], by simp [Msg.IntsFit], by simp [Msg.IntsFit], trivial, trivial,
      ?_, trivial⟩
    apply intsFitItems_of_forall
    intro m hm
    rw [List.eq_of_mem_replicate hm]
    simp [Msg.IntsFit]
  · decide

theorem hiddenMsg_shallow : hiddenMsg.depth < 1024 := by
  have hsignature : depthItems (List.replicate 64 (Msg.int 0)) ≤ 0 := by
    apply depthItems_le
    intro m hm
    rw [List.eq_of_mem_replicate hm]
    exact Nat.le_refl 0
  simp only [hiddenMsg, Msg.depth, depthItems]
  omega

theorem fromSlice_hiddenMsg (rmp : RmpSerde) :
    rmp.fromSlice WireTxEnvelope.schema hiddenMsg.encode = .ok hiddenEnvelope := by
  have hread := rmp.fromSlice_ok WireTxEnvelope.schema hiddenMsg [] hiddenEnvelope hiddenMsg_fits
    hiddenMsg_shallow (hiddenMsg_ofMsg _)
  rwa [List.append_nil] at hread

theorem envelope_hidingConfirmation (k : Nat) (hk : k + 124 = 2^32) (pubkey : FixedBytes 32)
    (signature : FixedBytes 64) : ∃ rest, rest ≠ [] ∧
    (WireTxEnvelope.schema.toMsg ⟨envelopeVersion, (hidingConfirmation k).actionType, 0,
      (hidingConfirmation k).payloadMsg.encode, pubkey, signature⟩).encode =
      hiddenMsg.encode ++ rest := by
  have hheader : arrHeader (100 + k) = [0xdd, 0xff, 0xff, 0xff, 0xe8] := by
    have hk' : 100 + k = 4294967272 := by omega
    rw [hk']
    decide
  have hlen : (hidingConfirmation k).payloadMsg.encode.length = 2^32 + 8 := by
    rw [hidingConfirmation_encode, hheader]
    simp only [hiddenEnd, List.length_append, List.length_cons, List.length_nil,
      List.length_replicate]
    omega
  have hbin : binHeader (hidingConfirmation k).payloadMsg.encode.length = [0xc4, 8] := by
    rw [hlen]
    decide
  have hfront : hiddenMsg.encode =
      [0x96, 2, 10, 0] ++ ([0xc4, 8] ++ (hiddenEnvelope.payload ++ hiddenEnd)) := by decide
  refine ⟨List.replicate k 0 ++ ([0xdc, 0, 20] ++ List.replicate 20 0) ++
    encodeItems [.bin pubkey.1, .bin signature.1], by simp, ?_⟩
  have htoMsg : (WireTxEnvelope.schema.toMsg ⟨envelopeVersion, (hidingConfirmation k).actionType,
      0, (hidingConfirmation k).payloadMsg.encode, pubkey, signature⟩) =
      .arr [.int 2, .int 10, .int 0, .bin (hidingConfirmation k).payloadMsg.encode, .bin pubkey.1,
        .bin signature.1] := rfl
  have h6 : arrHeader 6 = [0x96] := by decide
  have h2 : (Msg.int 2).encode = [2] := by decide
  have h10 : (Msg.int 10).encode = [10] := by decide
  have h0 : (Msg.int 0).encode = [0] := by decide
  rw [htoMsg, hfront, Msg.encode, encodeItems, encodeItems, encodeItems, encodeItems, h2, h10, h0,
    Msg.encode.eq_8, hbin, hidingConfirmation_encode, hheader]
  simp only [List.length_cons, List.length_nil, Nat.reduceAdd, h6, hiddenEnvelope,
    List.append_assoc, List.cons_append, List.nil_append]

/-- The raw decoder and the two peeks accept this transaction with its end cut off. -/
theorem truncated_hidingConfirmation_accepted : ¬ ∀ (action : Action) (seq : UInt64)
    (pubkey : FixedBytes 32) (signature : FixedBytes 64) (bytes p : Bytes),
    encodeSignedTx .reference action seq pubkey signature = .ok bytes → p <+: bytes → p ≠ bytes →
      (∃ e, decodeTxRaw .reference p = .error e) ∧ peekActionType .reference p = none ∧
        peekSeq .reference p = none := by
  intro hall
  have hkey : (List.replicate 32 (0 : UInt8)).length = 32 := rfl
  have hsig : (List.replicate 64 (0 : UInt8)).length = 64 := rfl
  obtain ⟨rest, hrest, hencode⟩ := envelope_hidingConfirmation 4294967172 (by norm_num) ⟨_, hkey⟩ ⟨_, hsig⟩
  have hread := fromSlice_hiddenMsg .reference
  have hbytes := (encodeSignedTx_eq .reference (hidingConfirmation 4294967172) 0 ⟨_, hkey⟩
    ⟨_, hsig⟩).trans (congrArg Except.ok hencode)
  have hne : hiddenMsg.encode ≠ hiddenMsg.encode ++ rest := by
    intro h
    exact hrest (List.self_eq_append_right.mp h)
  obtain ⟨-, -, hpeek⟩ := hall _ _ _ _ _ _ hbytes (List.prefix_append _ _) hne
  rw [peekSeq, hread] at hpeek
  cases hpeek

end TradingSdk
