import TradingSdk.Core.Canonical
import TradingSdk.Core.Crypto

namespace TradingSdk

open Serde Msgpack

/-- `ed25519_dalek`: keys come from seeds and signatures depend on nothing but seed and message. -/
structure Ed25519 where
  verifyingKey : FixedBytes 32 → FixedBytes 32
  sign : FixedBytes 32 → Bytes → FixedBytes 64
  /-- `VerifyingKey::from_bytes` succeeds. -/
  isKey : FixedBytes 32 → Bool
  verifyStrict : FixedBytes 32 → Bytes → FixedBytes 64 → Bool

/-- What a seed signs verifies under its key. -/
structure Ed25519.Correct (ed : Ed25519) : Prop where
  isKey_verifyingKey : ∀ seed, ed.isKey (ed.verifyingKey seed) = true
  verifyStrict_sign : ∀ seed msg, ed.verifyStrict (ed.verifyingKey seed) msg (ed.sign seed msg) = true

/-- `ExecError::InvalidSignature`. -/
inductive SignatureError where
  | invalidSignature
  deriving DecidableEq

def verifySignature (ed : Ed25519) (chainId pubkey : FixedBytes 32) (signature : FixedBytes 64)
    (actionType : UInt8) (seq : UInt64) (payload : Bytes) : Except SignatureError Unit :=
  if ed.isKey pubkey then
    let msg := signingMessage chainId actionType seq payload
    if ed.verifyStrict pubkey msg signature then .ok () else .error .invalidSignature
  else .error .invalidSignature

def signAndEncodeWithChain (rmp : RmpSerde) (ed : Ed25519) (chainId : FixedBytes 32)
    (action : Action) (seq : UInt64) (signingKey : FixedBytes 32) : Except ExecError Bytes := do
  let payload ← encodePayload rmp action
  let msg := signingMessage chainId action.actionType seq payload
  let signature := ed.sign signingKey msg
  let pubkey := ed.verifyingKey signingKey
  mapErr .internalError (rmp.toVec WireTxEnvelope.schema
    ⟨envelopeVersion, action.actionType, seq, payload, pubkey, signature⟩)

def signAndEncodePayload (rmp : RmpSerde) (ed : Ed25519) (chainId : FixedBytes 32)
    (actionType : UInt8) (payload : Bytes) (seq : UInt64) (signingKey : FixedBytes 32) :
    Except ExecError Bytes :=
  let msg := signingMessage chainId actionType seq payload
  let signature := ed.sign signingKey msg
  let pubkey := ed.verifyingKey signingKey
  mapErr .internalError (rmp.toVec WireTxEnvelope.schema
    ⟨envelopeVersion, actionType, seq, payload, pubkey, signature⟩)

inductive SignerError where
  | backend (message : String)
  | invalidSignatureLength (length : Nat)
  deriving DecidableEq

/-- A signing backend, which never shows its key. -/
structure Signer where
  publicKey : FixedBytes 32
  trySign : Bytes → Except SignerError (FixedBytes 64)

/-- The key lives in memory. -/
def LocalSigner.fromBytes (ed : Ed25519) (seed : FixedBytes 32) : Signer :=
  ⟨ed.verifyingKey seed, fun msg => .ok (ed.sign seed msg)⟩

/-- A backend that holds the key of a seed. -/
structure Signer.Holds (signer : Signer) (ed : Ed25519) (seed : FixedBytes 32) : Prop where
  publicKey : signer.publicKey = ed.verifyingKey seed
  trySign : ∀ msg, signer.trySign msg = .ok (ed.sign seed msg)

theorem LocalSigner.holds (ed : Ed25519) (seed : FixedBytes 32) :
    (LocalSigner.fromBytes ed seed).Holds ed seed := ⟨rfl, fun _ => rfl⟩

namespace Python

/-- A `ValueError`: with a text of its own, or with that of an error of the codec or the signer. -/
inductive SigningError where
  | value (message : String)
  | exec (e : ExecError)
  | signer (e : SignerError)

def SigningError.mapErr {α : Type} : Except ExecError α → Except SigningError α
  | .ok a => .ok a
  | .error e => .error (.exec e)

def SigningError.mapSignerErr {α : Type} : Except SignerError α → Except SigningError α
  | .ok a => .ok a
  | .error e => .error (.signer e)

/-- `try_into` for an array of `n` bytes. -/
def tryInto (n : Nat) (name : String) (bytes : Bytes) : Except SigningError (FixedBytes n) :=
  if h : bytes.length = n then .ok ⟨bytes, h⟩
  else .error (.value s!"{name} must be exactly {n} bytes")

structure SigningHandle where
  signer : Signer

def SigningHandle.signAndEncode (handle : SigningHandle) (rmp : RmpSerde) (chainId : Bytes)
    (actionType : UInt8) (actionPayload : Bytes) (seq : UInt64) : Except SigningError Bytes := do
  let chainId ← tryInto 32 "chain_id" chainId
  let msg := signingMessage chainId actionType seq actionPayload
  let signature ← SigningError.mapSignerErr (handle.signer.trySign msg)
  let pubkey := handle.signer.publicKey
  SigningError.mapErr (encodeSignedTxRaw rmp actionType actionPayload seq pubkey signature)

def signAndEncode (rmp : RmpSerde) (ed : Ed25519) (chainId : Bytes) (actionType : UInt8)
    (actionPayload : Bytes) (seq : UInt64) (secretKey : Bytes) : Except SigningError Bytes := do
  let chainId ← tryInto 32 "chain_id" chainId
  let signingKey ← tryInto 32 "secret_key" secretKey
  SigningError.mapErr (signAndEncodePayload rmp ed chainId actionType actionPayload seq signingKey)

def encodeSignedTx (rmp : RmpSerde) (actionType : UInt8) (actionPayload : Bytes) (seq : UInt64)
    (pubkey signature : Bytes) : Except SigningError Bytes := do
  let pubkey ← tryInto 32 "pubkey" pubkey
  let signature ← tryInto 64 "signature" signature
  SigningError.mapErr (encodeSignedTxRaw rmp actionType actionPayload seq pubkey signature)

@[simp] theorem tryInto_fixed {n : Nat} (name : String) (bytes : FixedBytes n) :
    tryInto n name bytes.1 = .ok bytes := by
  rw [tryInto, dif_pos bytes.2]

end Python

section Paths

variable (rmp : RmpSerde) (ed : Ed25519) (seed chainId : FixedBytes 32) (action : Action)
  (seq : UInt64)

/-- The envelope that a seed signs. -/
def signedEnvelope : WireTxEnvelope :=
  ⟨envelopeVersion, action.actionType, seq, action.payloadMsg.encode, ed.verifyingKey seed,
    ed.sign seed (signingMessage chainId action.actionType seq action.payloadMsg.encode)⟩

def signedBytes : Bytes :=
  (WireTxEnvelope.schema.toMsg (signedEnvelope ed seed chainId action seq)).encode

theorem signAndEncodeWithChain_eq : signAndEncodeWithChain rmp ed chainId action seq seed =
    .ok (signedBytes ed seed chainId action seq) := by
  rw [signAndEncodeWithChain, encodePayload_eq]
  exact encodeSignedTxRaw_eq rmp _ _ seq _ _

theorem signAndEncodePayload_eq :
    signAndEncodePayload rmp ed chainId action.actionType action.payloadMsg.encode seq seed =
      .ok (signedBytes ed seed chainId action seq) :=
  encodeSignedTxRaw_eq rmp _ _ seq _ _

theorem Python.signAndEncode_eq :
    Python.signAndEncode rmp ed chainId.1 action.actionType action.payloadMsg.encode seq seed.1 =
      .ok (signedBytes ed seed chainId action seq) := by
  rw [Python.signAndEncode, tryInto_fixed, tryInto_fixed]
  exact congrArg Python.SigningError.mapErr (signAndEncodePayload_eq rmp ed seed chainId action seq)

theorem Python.SigningHandle.signAndEncode_eq {signer : Signer} (h : signer.Holds ed seed) :
    (SigningHandle.mk signer).signAndEncode rmp chainId.1 action.actionType
      action.payloadMsg.encode seq = .ok (signedBytes ed seed chainId action seq) := by
  simp only [SigningHandle.signAndEncode, tryInto_fixed, h.publicKey, bind, Except.bind, h.trySign,
    SigningError.mapSignerErr]
  exact congrArg Python.SigningError.mapErr (encodeSignedTxRaw_eq rmp _ _ seq _ _)

theorem verifySignature_sign {ed : Ed25519} (hed : ed.Correct) (actionType : UInt8)
    (payload : Bytes) :
    verifySignature ed chainId (ed.verifyingKey seed)
      (ed.sign seed (signingMessage chainId actionType seq payload)) actionType seq payload =
        .ok () := by
  rw [verifySignature, if_pos (hed.isKey_verifyingKey seed), if_pos (hed.verifyStrict_sign seed _)]

/-- What the core reads in a transaction that a seed signed, with a payload below 2^32 bytes. -/
theorem decodeTx_signedBytes (hed : ed.Correct) (hlen : action.payloadMsg.encode.length < 2^32) :
    ∃ tx, decodeTx rmp (signedBytes ed seed chainId action seq) = .ok tx ∧ tx.action = action ∧
      tx.seq = seq ∧ tx.auth.payload = action.payloadMsg.encode ∧
      tx.auth.pubkey = ed.verifyingKey seed ∧
      verifySignature ed chainId tx.auth.pubkey tx.auth.signature tx.auth.actionType tx.seq
        tx.auth.payload = .ok () := by
  have hdecode := decodeTx_of_encode rmp action seq (ed.verifyingKey seed)
    (ed.sign seed (signingMessage chainId action.actionType seq action.payloadMsg.encode)) hlen
  exact ⟨_, hdecode, rfl, rfl, rfl, rfl, verifySignature_sign seed chainId seq hed _ _⟩

/-- One seed, one envelope, whichever way it is signed; what a decoder finds in it verifies. -/
theorem signing_paths_agree (hed : ed.Correct) : ∃ payload bytes,
    encodePayload rmp action = .ok payload ∧
    signAndEncodeWithChain rmp ed chainId action seq seed = .ok bytes ∧
    signAndEncodePayload rmp ed chainId action.actionType payload seq seed = .ok bytes ∧
    Python.signAndEncode rmp ed chainId.1 action.actionType payload seq seed.1 = .ok bytes ∧
    (∀ signer : Signer, signer.Holds ed seed → (Python.SigningHandle.mk signer).signAndEncode rmp
      chainId.1 action.actionType payload seq = .ok bytes) ∧
    encodeSignedTx rmp action seq (ed.verifyingKey seed)
      (ed.sign seed (signingMessage chainId action.actionType seq payload)) = .ok bytes ∧
    (payload.length < 2^32 → ∃ tx, decodeTx rmp bytes = .ok tx ∧ tx.action = action ∧
      tx.seq = seq ∧ verifySignature ed chainId tx.auth.pubkey tx.auth.signature
        tx.auth.actionType tx.seq tx.auth.payload = .ok ()) := by
  refine ⟨action.payloadMsg.encode, signedBytes ed seed chainId action seq, encodePayload_eq rmp action,
    signAndEncodeWithChain_eq rmp ed seed chainId action seq,
    signAndEncodePayload_eq rmp ed seed chainId action seq,
    Python.signAndEncode_eq rmp ed seed chainId action seq,
    fun _ h => Python.SigningHandle.signAndEncode_eq rmp ed seed chainId action seq h,
    encodeSignedTx_eq rmp action seq _ _, ?_⟩
  intro hlen
  have hdecode := decodeTx_of_encode rmp action seq (ed.verifyingKey seed)
    (ed.sign seed (signingMessage chainId action.actionType seq action.payloadMsg.encode)) hlen
  exact ⟨_, hdecode, rfl, rfl, verifySignature_sign seed chainId seq hed _ _⟩

end Paths

def sampleSeed : FixedBytes 32 := ⟨List.replicate 32 0x42, rfl⟩

def sampleKey : FixedBytes 32 := ⟨
  [33, 82, 248, 209, 155, 121, 29, 36, 69, 50, 66, 225, 95, 46, 171, 108, 183, 207, 250, 123, 106, 94,
   211, 0, 151, 150, 14, 6, 152, 129, 219, 18], rfl⟩

/-- The signature of the sample cancellation at position 1 of the unbound chain. -/
def sampleSignature : FixedBytes 64 := ⟨
  [246, 159, 11, 155, 182, 239, 32, 16, 161, 69, 114, 230, 220, 254, 246, 63, 147, 231, 183, 247, 207,
   29, 163, 33, 221, 98, 123, 16, 144, 120, 235, 83, 39, 54, 102, 198, 129, 160, 26, 251, 245, 101, 122,
   130, 168, 173, 95, 195, 98, 54, 186, 32, 55, 48, 57, 52, 159, 107, 26, 150, 164, 223, 136, 3], rfl⟩

/-- Ed25519 at the sample seed and message. -/
def Ed25519.sample : Ed25519 where
  verifyingKey _ := sampleKey
  sign _ _ := sampleSignature
  isKey pubkey := pubkey = sampleKey
  verifyStrict pubkey _ signature := pubkey = sampleKey ∧ signature = sampleSignature

theorem Ed25519.sample_correct : Ed25519.sample.Correct where
  isKey_verifyingKey _ := by simp [Ed25519.sample]
  verifyStrict_sign _ _ := by simp [Ed25519.sample]

def unboundChainId : FixedBytes 32 := ⟨List.replicate 32 0, sampleKey_length⟩

/-- The message of a cancellation on the unbound chain. -/
def cancelMessage (orderId : UInt64) (owner : Address) (seq : UInt64) : Bytes :=
  signingMessage unboundChainId ActionKind.cancelOrder.actionType seq
    (Action.mk .cancelOrder ⟨orderId, owner⟩).payloadMsg.encode

/-- Ed25519 at the sample seed and at the messages of a table, each with its signature. -/
def Ed25519.sampleTable (table : List (Bytes × FixedBytes 64)) : Ed25519 where
  verifyingKey _ := sampleKey
  sign _ msg := (table.lookup msg).getD sampleSignature
  isKey pubkey := pubkey = sampleKey
  verifyStrict pubkey msg signature :=
    pubkey = sampleKey ∧ signature = (table.lookup msg).getD sampleSignature

theorem Ed25519.sampleTable_correct (table : List (Bytes × FixedBytes 64)) :
    (Ed25519.sampleTable table).Correct where
  isKey_verifyingKey _ := by simp [Ed25519.sampleTable]
  verifyStrict_sign _ _ := by simp [Ed25519.sampleTable]

theorem signing_paths_agree_sampleCancel : ∃ bytes,
    signAndEncodeWithChain .reference .sample unboundChainId sampleCancel 1 sampleSeed = .ok bytes ∧
    ∃ tx, decodeTx .reference bytes = .ok tx ∧ tx.action = sampleCancel ∧
      verifySignature .sample unboundChainId tx.auth.pubkey tx.auth.signature tx.auth.actionType
        tx.seq tx.auth.payload = .ok () := by
  obtain ⟨payload, bytes, hpayload, hsigned, -, -, -, -, hdecode⟩ := signing_paths_agree .reference .sample
    sampleSeed unboundChainId sampleCancel 1 Ed25519.sample_correct
  rw [encodePayload_eq] at hpayload
  obtain rfl := Except.ok.inj hpayload
  obtain ⟨tx, htx, haction, -, hverify⟩ := hdecode (by decide)
  exact ⟨bytes, hsigned, tx, htx, haction, hverify⟩

/-- A payload of 2^32 bytes or more is signed and never read again. -/
theorem signed_longFailure_undecodable : ¬ ∀ (seed chainId : FixedBytes 32) (action : Action)
    (seq : UInt64) (bytes : Bytes),
    signAndEncodeWithChain .reference .sample chainId action seq seed = .ok bytes →
    ∃ tx, decodeTx .reference bytes = .ok tx ∧ verifySignature .sample chainId tx.auth.pubkey
      tx.auth.signature tx.auth.actionType tx.seq tx.auth.payload = .ok () := by
  intro hall
  obtain ⟨rest, hrest⟩ := envelope_longFailure 4294967295 (by norm_num) sampleKey sampleSignature
  obtain ⟨e, he⟩ := decodeTx_misreadEnvelope .reference rest
  obtain ⟨tx, htx, -⟩ := hall sampleSeed unboundChainId (longFailure 4294967295) 0 _
    (signAndEncodeWithChain_eq _ _ _ _ _ _)
  have hbytes : signedBytes .sample sampleSeed unboundChainId (longFailure 4294967295) 0 =
      misreadEnvelope.encode ++ rest := hrest
  rw [hbytes, he] at htx
  cases htx

end TradingSdk
