import TradingSdk.Core.ContentHash

namespace TradingSdk

open Serde Msgpack

/-- The domain separator of transaction signatures. -/
def domainPrefix : Bytes := utf8 "ProofExchange-v3"

def signingMessage (chainId : FixedBytes 32) (actionType : UInt8) (seq : UInt64)
    (payload : Bytes) : Bytes :=
  domainPrefix ++ (chainId.1 ++ (actionType :: (beBytes 8 seq.toNat ++ payload)))

def accountEventsPrefix : Bytes := utf8 "ProofExchange-account-events-v1"

/-- What `DataView.setBigInt64` and `setBigUint64` store: the low 64 bits, big-endian. -/
def bigIntBytes (n : Int) : Bytes := beBytes 8 (n % 2^64).toNat

/-- The byte string that a client signs to open its account-events stream. -/
def accountWsAuthMessage (chainId : FixedBytes 32) (ownerHex : String) (afterId timestampMs : Int) :
    Bytes :=
  accountEventsPrefix ++ (chainId.1 ++ (utf8 ownerHex ++
    (bigIntBytes afterId ++ bigIntBytes timestampMs)))

@[simp] theorem bigIntBytes_length (n : Int) : (bigIntBytes n).length = 8 := beBytes_length _ _

theorem bigIntBytes_inj {m n : Int} (h : bigIntBytes m = bigIntBytes n) : m % 2^64 = n % 2^64 := by
  have hm : (m % 2^64).toNat < 256^8 := by omega
  have hn : (n % 2^64).toNat < 256^8 := by omega
  have heq := beBytes_inj 8 _ _ hm hn h
  omega

theorem signingMessage_inj {chainId chainId' : FixedBytes 32} {actionType actionType' : UInt8}
    {seq seq' : UInt64} {payload payload' : Bytes}
    (h : signingMessage chainId actionType seq payload =
      signingMessage chainId' actionType' seq' payload') :
    chainId = chainId' ∧ actionType = actionType' ∧ seq = seq' ∧ payload = payload' := by
  have hbody := List.append_cancel_left h
  obtain ⟨hchain, hbody⟩ := List.append_inj hbody (by rw [chainId.2, chainId'.2])
  obtain ⟨htype, hbody⟩ := List.cons.inj hbody
  obtain ⟨hseq, hpayload⟩ := beBytes_append_inj seq.toNat_lt seq'.toNat_lt hbody
  exact ⟨Subtype.ext hchain, htype, UInt64.toNat_inj.mp hseq, hpayload⟩

/-- The two domains differ inside the shorter one, so no message carries both. -/
theorem signingMessage_ne_accountWsAuthMessage (chainId chainId' : FixedBytes 32)
    (actionType : UInt8) (seq : UInt64) (payload : Bytes) (ownerHex : String)
    (afterId timestampMs : Int) :
    signingMessage chainId actionType seq payload ≠
      accountWsAuthMessage chainId' ownerHex afterId timestampMs := by
  intro h
  have hfront := congrArg (List.take 16) h
  have hsign : (signingMessage chainId actionType seq payload).take 16 = domainPrefix :=
    List.take_left' (by decide)
  have hauth : (accountWsAuthMessage chainId' ownerHex afterId timestampMs).take 16 =
      accountEventsPrefix.take 16 := by
    rw [accountWsAuthMessage, List.take_append_of_le_length (by decide)]
  rw [hsign, hauth] at hfront
  exact absurd hfront (by decide)

/-- The owner needs no length prefix: everything around it has one width. -/
theorem accountWsAuthMessage_inj {chainId chainId' : FixedBytes 32} {ownerHex ownerHex' : String}
    {afterId afterId' : Int64} {timestampMs timestampMs' : UInt64}
    (h : accountWsAuthMessage chainId ownerHex afterId.toInt timestampMs.toNat =
      accountWsAuthMessage chainId' ownerHex' afterId'.toInt timestampMs'.toNat) :
    chainId = chainId' ∧ ownerHex = ownerHex' ∧ afterId = afterId' ∧
      timestampMs = timestampMs' := by
  have hbody := List.append_cancel_left h
  obtain ⟨hchain, hbody⟩ := List.append_inj hbody (by rw [chainId.2, chainId'.2])
  obtain ⟨howner, hbody⟩ := List.append_inj' hbody (by simp)
  obtain ⟨hafter, hstamp⟩ := List.append_inj hbody (by simp)
  have hafter' := bigIntBytes_inj hafter
  have hstamp' := bigIntBytes_inj hstamp
  refine ⟨Subtype.ext hchain, utf8_inj howner, ?_, ?_⟩
  · have hlo := afterId.le_toInt
    have hhi := afterId.toInt_lt
    have hlo' := afterId'.le_toInt
    have hhi' := afterId'.toInt_lt
    apply Int64.toInt_inj.mp
    omega
  · have hlt := timestampMs.toNat_lt
    have hlt' := timestampMs'.toNat_lt
    apply UInt64.toNat_inj.mp
    omega

/-- A signed message names one chain, one action and one position, and its purpose. -/
theorem signature_binds_context (rmp : RmpSerde) :
    (∀ (chainId chainId' : FixedBytes 32) (action action' : Action) (seq seq' : UInt64)
      (payload payload' : Bytes), encodePayload rmp action = .ok payload →
      encodePayload rmp action' = .ok payload' → action.payloadMsg.Fits → action'.payloadMsg.Fits →
      signingMessage chainId action.actionType seq payload =
        signingMessage chainId' action'.actionType seq' payload' →
      chainId = chainId' ∧ action = action' ∧ seq = seq') ∧
    (∀ chainId actionType seq payload chainId' ownerHex afterId timestampMs,
      signingMessage chainId actionType seq payload ≠
        accountWsAuthMessage chainId' ownerHex afterId timestampMs) ∧
    ∀ (chainId chainId' : FixedBytes 32) (ownerHex ownerHex' : String) (afterId afterId' : Int64)
      (timestampMs timestampMs' : UInt64),
      accountWsAuthMessage chainId ownerHex afterId.toInt timestampMs.toNat =
        accountWsAuthMessage chainId' ownerHex' afterId'.toInt timestampMs'.toNat →
      chainId = chainId' ∧ ownerHex = ownerHex' ∧ afterId = afterId' ∧
        timestampMs = timestampMs' := by
  refine ⟨?_, ?_, fun _ _ _ _ _ _ _ _ h => accountWsAuthMessage_inj h⟩
  · intro chainId chainId' action action' seq seq' payload payload' hp hp' hfits hfits' h
    rw [encodePayload_eq] at hp hp'
    obtain rfl := Except.ok.inj hp
    obtain rfl := Except.ok.inj hp'
    obtain ⟨hchain, htype, hseq, hpayload⟩ := signingMessage_inj h
    have hread := decodeAction_encode rmp action [] hfits
    rw [hpayload, htype, decodeAction_encode rmp action' [] hfits'] at hread
    exact ⟨hchain, (Except.ok.inj hread).symm, hseq⟩
  · intro chainId actionType seq payload chainId' ownerHex afterId timestampMs
    exact signingMessage_ne_accountWsAuthMessage chainId chainId' actionType seq payload ownerHex
      afterId timestampMs

theorem signature_binds_context_sample :
    signingMessage ⟨List.replicate 32 1, rfl⟩ sampleCancel.actionType 1
        sampleCancel.payloadMsg.encode ≠
      signingMessage ⟨List.replicate 32 2, rfl⟩ sampleCancel.actionType 1
        sampleCancel.payloadMsg.encode ∧
    accountWsAuthMessage ⟨List.replicate 32 1, rfl⟩ "ab" (Int64.toInt (-1)) (UInt64.toNat 5) ≠
      accountWsAuthMessage ⟨List.replicate 32 1, rfl⟩ "abc" (Int64.toInt (-1)) (UInt64.toNat 5) := by
  constructor
  · intro h
    have hbound := (signature_binds_context .reference).1 _ _ sampleCancel sampleCancel _ _ _ _
      (encodePayload_eq _ _) (encodePayload_eq _ _) (sampleCancel.payloadMsg_fits (by decide))
      (sampleCancel.payloadMsg_fits (by decide)) h
    exact absurd hbound.1 (by decide)
  · intro h
    have hbound := (signature_binds_context .reference).2.2 _ _ _ _ _ _ _ _ h
    exact absurd hbound.2.1 (by decide)

/-- An impact market with the given texts at its end. -/
def impactMarket (description rules : String) : Action :=
  ⟨.createImpactMarket, ⟨0, 0, 0, "", 0, 0, 0, 0, 0, 0, 0, 0, Address.default, none, description,
    rules⟩⟩

/-- The items of that payload before the two texts. -/
def impactMarketFront : List Msg :=
  List.replicate 3 (.int 0) ++ [.str []] ++ List.replicate 8 (.int 0) ++
    [Address.schema.toMsg Address.default, .nil]

theorem impactMarket_encode (description rules : String) :
    (impactMarket description rules).payloadMsg.encode =
      arrHeader 16 ++ (encodeItems impactMarketFront ++
        ((strHeader (utf8 description).length ++ utf8 description) ++
          (strHeader (utf8 rules).length ++ utf8 rules))) := by
  have hmsg : (impactMarket description rules).payloadMsg =
      .arr (impactMarketFront ++ [.str (utf8 description), .str (utf8 rules)]) := rfl
  have hlen : (impactMarketFront ++ [Msg.str (utf8 description), .str (utf8 rules)]).length = 16 := rfl
  rw [hmsg, Msg.encode, hlen, encodeItems_append]
  simp only [encodeItems, Msg.encode, List.append_nil]

/-- A letter whose UTF-8 form is the header of a text of 128 bytes. -/
def headerLetter : String := "ـ"

theorem utf8_headerLetter : utf8 headerLetter = strHeader 128 := by decide

/-- Text of 2^32 bytes has the header of the empty one, so the boundary between two texts moves. -/
theorem impactMarket_collision (n : Nat) (hn : n + 2 = 2^32) :
    (impactMarket (headerLetter ++ repeatA n) (repeatA 128)).payloadMsg.encode =
      (impactMarket "" (repeatA n ++ (headerLetter ++ repeatA 128))).payloadMsg.encode := by
  have hempty : utf8 "" = [] := by decide
  have hletter : (strHeader 128).length = 2 := by decide
  have hfull : strHeader (2 + n) = strHeader 0 := by
    have h : 2 + n = 2^32 := by omega
    rw [h]
    decide
  have hrules : strHeader (n + (2 + 128)) = strHeader 128 := by
    have h : n + (2 + 128) = 2^32 + 128 := by omega
    rw [h]
    decide
  rw [impactMarket_encode, impactMarket_encode]
  simp only [utf8_append, utf8_headerLetter, utf8_repeatA, hempty, List.length_append, hletter,
    List.length_replicate, List.length_nil, hfull, hrules, List.append_assoc, List.nil_append]

theorem signingMessage_collision :
    impactMarket (headerLetter ++ repeatA 4294967294) (repeatA 128) ≠
      impactMarket "" (repeatA 4294967294 ++ (headerLetter ++ repeatA 128)) ∧
    ∀ (rmp : RmpSerde) (chainId : FixedBytes 32) (seq : UInt64), ∃ payload payload',
      encodePayload rmp (impactMarket (headerLetter ++ repeatA 4294967294) (repeatA 128)) =
        .ok payload ∧
      encodePayload rmp
        (impactMarket "" (repeatA 4294967294 ++ (headerLetter ++ repeatA 128))) = .ok payload' ∧
      signingMessage chainId ActionKind.createImpactMarket.actionType seq payload =
        signingMessage chainId ActionKind.createImpactMarket.actionType seq payload' := by
  constructor
  · intro h
    simp only [impactMarket, Action.mk.injEq, heq_eq_eq, true_and,
      CreateImpactMarket.mk.injEq] at h
    have hutf := congrArg utf8 h.1
    rw [utf8_append, utf8_headerLetter] at hutf
    have hlen := congrArg List.length hutf
    have hletter : (strHeader 128).length = 2 := by decide
    have hempty : (utf8 "").length = 0 := by decide
    rw [List.length_append] at hlen
    omega
  · intro rmp chainId seq
    refine ⟨_, _, encodePayload_eq _ _, encodePayload_eq _ _, ?_⟩
    rw [impactMarket_collision 4294967294 (by norm_num)]

end TradingSdk
