import TradingSdk.Core.Signing
import TradingSdk.Js.Codec

namespace TradingSdk.Js

open Serde Msgpack

/-- `try_into` of the WASM binding. -/
def wasmBytes (n : Nat) (what : String) (bytes : Bytes) : Except JsError (FixedBytes n) :=
  if h : bytes.length = n then .ok ⟨bytes, h⟩
  else .error (.error s!"{what} must be exactly {n} bytes")

section Signing

variable (rmp : RmpSerde) (wasm : WasmSerde) (ed : Ed25519)

/-- A byte vector that the binding hands back has to fit its memory. -/
def wasmReturn (result : Except ExecError Bytes) : Except JsError Bytes := do
  let bytes ← liftCore result
  if bytes.length ≤ wasm.capacity then return bytes else .error .trap

/-- `sign_and_encode` of the WASM binding. A bigint crosses into it modulo 2^64. -/
def wasmSignAndEncode (chainId : Bytes) (actionType : UInt8) (payload : Bytes) (seq : Int)
    (secretKey : Bytes) : Except JsError Bytes := do
  let chainId ← wasmBytes 32 "chain_id" chainId
  let signingKey ← wasmBytes 32 "secret_key" secretKey
  wasmReturn wasm
    (signAndEncodePayload rmp ed chainId actionType payload (UInt64.ofInt seq) signingKey)

/-- `encode_signed_tx` of the WASM binding. -/
def wasmEncodeSignedTx (actionType : UInt8) (payload : Bytes) (seq : Int)
    (pubkey signature : Bytes) : Except JsError Bytes := do
  let pubkey ← wasmBytes 32 "pubkey" pubkey
  let signature ← wasmBytes 64 "signature" signature
  wasmReturn wasm
    (encodeSignedTxRaw rmp actionType payload (UInt64.ofInt seq) pubkey signature)

def signAndEncode (chainId : Bytes) (action : TsAction) (seq : Int) (privateKey : Bytes) :
    Except JsError Bytes := do
  let (actionType, fields) ← toWasmFields action
  let payload ← wasmEncodePayload rmp wasm actionType fields
  wasmSignAndEncode rmp wasm ed chainId actionType payload seq privateKey

def encodeSignedTx (action : TsAction) (seq : Int) (pubkey signature : Bytes) :
    Except JsError Bytes := do
  let (actionType, fields) ← toWasmFields action
  let payload ← wasmEncodePayload rmp wasm actionType fields
  wasmEncodeSignedTx rmp wasm actionType payload seq pubkey signature

@[simp] theorem wasmBytes_fixed {n : Nat} (what : String) (bytes : FixedBytes n) :
    wasmBytes n what bytes.1 = .ok bytes := by
  rw [wasmBytes, dif_pos bytes.2]

theorem wasmBytes_eq_ok {n : Nat} {what : String} {bytes : Bytes} {fixed : FixedBytes n}
    (h : wasmBytes n what bytes = .ok fixed) : bytes = fixed.1 := by
  rw [wasmBytes] at h
  split_ifs at h with hlen
  exact congrArg Subtype.val (Except.ok.inj h)

theorem toWasmFields_type {action : TsAction} {actionType : UInt8} {fields : JsVal}
    (h : toWasmFields action = .ok (actionType, fields)) :
    actionType = action.type.actionType := by
  obtain ⟨_, -, h⟩ := bind_eq_ok h
  obtain ⟨_, -, h⟩ := bind_eq_ok h
  exact (Prod.mk.inj (Except.ok.inj h)).1.symm

/-- A signed transaction is that of the payload that the client encodes, under a key and a chain id
of the right size. -/
theorem signAndEncode_eq_ok {chainId privateKey bytes : Bytes} {action : TsAction} {seq : Int}
    (h : signAndEncode rmp wasm ed chainId action seq privateKey = .ok bytes) :
    ∃ (chain seed : FixedBytes 32) (x : action.type.Payload), chainId = chain.1 ∧
      privateKey = seed.1 ∧
      encodePayloadBytes rmp wasm action = .ok (Action.mk action.type x).payloadMsg.encode ∧
      (Action.mk action.type x).payloadMsg.encode.length < 2^32 ∧
      bytes = signedBytes ed seed chain ⟨action.type, x⟩ (UInt64.ofInt seq) := by
  obtain ⟨⟨actionType, fields⟩, hfields, h⟩ := bind_eq_ok h
  obtain ⟨payload, hpayload, h⟩ := bind_eq_ok h
  obtain ⟨chain, hchain, h⟩ := bind_eq_ok h
  obtain ⟨seed, hseed, h⟩ := bind_eq_ok h
  obtain ⟨signed, hsigned, h⟩ := bind_eq_ok h
  obtain rfl : actionType = action.type.actionType := toWasmFields_type hfields
  have hencode : encodePayloadBytes rmp wasm action = .ok payload := by
    rw [encodePayloadBytes, hfields]
    exact hpayload
  obtain ⟨x, -, rfl, hlen⟩ := wasmEncodePayload_ok rmp wasm hpayload
  have hcore : signAndEncodePayload rmp ed chain action.type.actionType
      (Action.mk action.type x).payloadMsg.encode (UInt64.ofInt seq) seed =
        .ok (signedBytes ed seed chain ⟨action.type, x⟩ (UInt64.ofInt seq)) :=
    signAndEncodePayload_eq rmp ed seed chain ⟨action.type, x⟩ (UInt64.ofInt seq)
  rw [hcore] at hsigned
  obtain rfl := Except.ok.inj hsigned
  split_ifs at h
  exact ⟨chain, seed, x, wasmBytes_eq_ok hchain, wasmBytes_eq_ok hseed, hencode,
    lt_of_le_of_lt hlen wasm.capacity_lt, (Except.ok.inj h).symm⟩

/-- Signing in two steps, outside of the client, gives the bytes of `signAndEncode`. -/
theorem encodeSignedTx_external (seed chainId : FixedBytes 32) (action : TsAction) (seq : Int) :
    signAndEncode rmp wasm ed chainId.1 action seq seed.1 = (do
      let payload ← encodePayloadBytes rmp wasm action
      let msg ← signingMessage chainId.1 action.type.actionType seq payload
      encodeSignedTx rmp wasm action seq (ed.verifyingKey seed).1 (ed.sign seed msg).1) := by
  have hseq : bigIntBytes seq = beBytes 8 (UInt64.ofInt seq).toNat := by
    have hlt : (seq % 2^64).toNat < 2^64 := by omega
    rw [bigIntBytes, UInt64.ofInt, UInt64.toNat_ofNat_of_lt' hlt]
  have hmsg : ∀ payload, signingMessage chainId.1 action.type.actionType seq payload =
      .ok (TradingSdk.signingMessage chainId action.type.actionType (UInt64.ofInt seq) payload) := by
    intro payload
    rw [signingMessage, if_pos chainId.2, hseq]
    rfl
  rw [encodePayloadBytes, signAndEncode]
  cases hfields : toWasmFields action with
  | error e => rfl
  | ok pair =>
    obtain ⟨actionType, fields⟩ := pair
    obtain rfl : actionType = action.type.actionType := toWasmFields_type hfields
    show (wasmEncodePayload rmp wasm action.type.actionType fields).bind _ =
      (wasmEncodePayload rmp wasm action.type.actionType fields).bind _
    cases hpayload : wasmEncodePayload rmp wasm action.type.actionType fields with
    | error e => rfl
    | ok payload =>
      show wasmSignAndEncode rmp wasm ed chainId.1 action.type.actionType payload seq seed.1 =
        (signingMessage chainId.1 action.type.actionType seq payload).bind fun msg =>
          encodeSignedTx rmp wasm action seq (ed.verifyingKey seed).1 (ed.sign seed msg).1
      rw [hmsg]
      show _ = encodeSignedTx rmp wasm action seq _ _
      simp only [encodeSignedTx, hfields, bind, Except.bind, hpayload, wasmEncodeSignedTx,
        wasmSignAndEncode, wasmBytes_fixed]
      rfl

end Signing

end TradingSdk.Js
