import TradingSdk.Client.Nonce
import TradingSdk.Core.Signing
import TradingSdk.Lib.Except
import TradingSdk.Python.Actions

namespace TradingSdk.Python

open Transition Serde Msgpack

/-- The fields of an `ExchangeClient` that signing reads. -/
structure ClientKeys where
  chainId : Bytes
  secretKey : Option Bytes
  keyHandle : Option SigningHandle

/-- A `CodecError`, which wraps a `ValueError`, a `SigningError`, or an `OverflowError` that
escapes. -/
inductive SignActionError where
  | codec (e : SigningError)
  | signing (message : String)
  | overflow

def codecError {α : Type} : Except SigningError α → Except SignActionError α
  | .ok a => .ok a
  | .error e => .error (.codec e)

/-- A Python integer as an argument of type `u64`. -/
def toU64 (seq : Int) : Except SignActionError UInt64 :=
  if 0 ≤ seq ∧ seq < 2^64 then .ok (UInt64.ofNat seq.toNat) else .error .overflow

/-- `sign_and_encode_action` once it has its nonce. The handle goes before the key. -/
def ClientKeys.signAndEncodeAction (client : ClientKeys) (rmp : RmpSerde) (ed : Ed25519)
    (actionType : UInt8) (actionPayload : Bytes) (seq : Int) : Except SignActionError Bytes :=
  match client.keyHandle with
  | some handle => do
    let seq ← toU64 seq
    codecError (handle.signAndEncode rmp client.chainId actionType actionPayload seq)
  | none =>
    match client.secretKey with
    | some secretKey => do
      let seq ← toU64 seq
      codecError (signAndEncode rmp ed client.chainId actionType actionPayload seq secretKey)
    | none => .error (.signing "no signing key set (pass secret_key or key_handle)")

/-- The handle of a client holds the key of some seed. -/
def ClientKeys.HandleHolds (client : ClientKeys) (ed : Ed25519) : Prop :=
  ∀ handle ∈ client.keyHandle, ∃ seed, handle.signer.Holds ed seed

theorem toU64_eq_ok {seq : Int} {n : UInt64} (h : toU64 seq = .ok n) : (n.toNat : Int) = seq := by
  rw [toU64] at h
  split_ifs at h with hrange
  obtain rfl := Except.ok.inj h
  have hlt : seq.toNat < 2^64 := by omega
  rw [UInt64.toNat_ofNat_of_lt' hlt, Int.toNat_of_nonneg hrange.1]

theorem codecError_eq_ok {α : Type} {x : Except SigningError α} {a : α}
    (h : codecError x = .ok a) : x = .ok a := by
  cases x with
  | ok b => exact congrArg _ (Except.ok.inj h)
  | error e => cases h

theorem tryInto_eq_ok {n : Nat} {name : String} {bytes : Bytes} {fixed : FixedBytes n}
    (h : tryInto n name bytes = .ok fixed) : bytes = fixed.1 := by
  rw [tryInto] at h
  split_ifs at h
  exact congrArg Subtype.val (Except.ok.inj h)

/-- Whatever the custody of the key, the bytes are those of one seed and of the client's chain. -/
theorem ClientKeys.signAndEncodeAction_eq_ok {client : ClientKeys} {rmp : RmpSerde} {ed : Ed25519}
    (hholds : client.HandleHolds ed) {action : Action} {seq : Int} {bytes : Bytes}
    (h : client.signAndEncodeAction rmp ed action.actionType action.payloadMsg.encode seq =
      .ok bytes) :
    ∃ (chain seed : FixedBytes 32) (n : UInt64), client.chainId = chain.1 ∧ (n.toNat : Int) = seq ∧
      bytes = signedBytes ed seed chain action n := by
  rw [signAndEncodeAction] at h
  split at h
  · next handle hhandle =>
    obtain ⟨seed, hseed⟩ := hholds handle hhandle
    obtain ⟨n, hn, h⟩ := bind_ok_iff.mp h
    replace h := codecError_eq_ok h
    obtain ⟨chain, hchain⟩ : ∃ chain : FixedBytes 32, client.chainId = chain.1 := by
      obtain ⟨chain, hchain, -⟩ := bind_ok_iff.mp h
      exact ⟨chain, tryInto_eq_ok hchain⟩
    have heq := SigningHandle.signAndEncode_eq rmp ed seed chain action n hseed
    rw [hchain] at h
    exact ⟨chain, seed, n, hchain, toU64_eq_ok hn, Except.ok.inj (h.symm.trans heq)⟩
  · split at h
    · next secretKey _ =>
      obtain ⟨n, hn, h⟩ := bind_ok_iff.mp h
      replace h := codecError_eq_ok h
      obtain ⟨chain, hchain, hrest⟩ := bind_ok_iff.mp h
      obtain ⟨seed, hseed, -⟩ := bind_ok_iff.mp hrest
      obtain hchain := tryInto_eq_ok hchain
      have heq := signAndEncode_eq rmp ed seed chain action n
      rw [hchain, tryInto_eq_ok hseed] at h
      exact ⟨chain, seed, n, hchain, toU64_eq_ok hn, Except.ok.inj (h.symm.trans heq)⟩
    · cases h

theorem liftNative_eq_ok {α : Type} {x : Except ExecError α} {a : α}
    (h : liftNative x = .ok a) : x = .ok a := by
  cases x with
  | ok b => exact congrArg _ (Except.ok.inj h)
  | error e => cases h

/-- A typed action is encoded as the payload of some action of the core. -/
theorem encodeAction_eq_ok {rmp : RmpSerde} {dyn : ContentSerde} {action : PyAction}
    {actionType : UInt8} {payload : Bytes}
    (h : encodeAction rmp dyn action = .ok (actionType, payload)) :
    ∃ core : Action, actionType = core.actionType ∧ payload = core.payloadMsg.encode := by
  obtain ⟨byte, -, h⟩ := bind_ok_iff.mp h
  obtain ⟨encoded, hencoded, h⟩ := bind_ok_iff.mp h
  obtain ⟨rfl, rfl⟩ := Prod.mk.inj (Except.ok.inj h)
  rw [encodePayloadDyn] at hencoded
  split at hencoded
  · next kind hkind =>
    have hbyte : kind.actionType = byte := by simpa using List.find?_some hkind
    obtain ⟨x, -, hpayload⟩ := bind_ok_iff.mp (liftNative_eq_ok hencoded)
    rw [encodePayload_eq] at hpayload
    exact ⟨⟨kind, x⟩, hbyte.symm, (Except.ok.inj hpayload).symm⟩
  · cases hencoded

/-- A call of `sign_action` between its clock reading and the lock. -/
structure SignCall where
  action : PyAction
  actionType : UInt8
  payload : Bytes

/-- A signed envelope, with the clock value and the nonce of its call. -/
structure SignedAction (Thread : Type) where
  thread : Thread
  call : SignCall
  now : Int
  seq : Int
  bytes : Bytes

/-- The allocation behind a signed envelope. -/
def SignedAction.allocation {Thread : Type} (tx : SignedAction Thread) : Allocation Thread :=
  ⟨tx.thread, tx.now, tx.seq⟩

structure Signers (Thread : Type) where
  allocator : NonceAllocator Thread
  pending : Thread → Option SignCall
  signed : List (SignedAction Thread)

/-- A thread encodes its action and reads the clock; later it takes the lock and signs. -/
inductive SignStep (Thread : Type) where
  | signAction (thread : Thread) (action : PyAction) (now : Int)
  | update (thread : Thread)

namespace Signers

variable {Thread : Type}

def init : Signers Thread := ⟨.init, fun _ => none, []⟩

variable [DecidableEq Thread]

section Step

variable (rmp : RmpSerde) (dyn : ContentSerde) (ed : Ed25519) (client : ClientKeys)

/-- The rest of a call once the allocator has moved on. A nonce is gone even when signing raises. -/
def sign (s : Signers Thread) (thread : Thread) (call : SignCall) (now : Int)
    (allocator : NonceAllocator Thread) : Signers Thread :=
  let pending := Function.update s.pending thread none
  match client.signAndEncodeAction rmp ed call.actionType call.payload allocator.last with
  | .error _ => ⟨allocator, pending, s.signed⟩
  | .ok bytes => ⟨allocator, pending, s.signed ++ [⟨thread, call, now, allocator.last, bytes⟩]⟩

def step (s : Signers Thread) : SignStep Thread → Option (Signers Thread)
  | .signAction thread action now =>
    match encodeAction rmp dyn action with
    | .error _ => some s
    | .ok (actionType, payload) =>
      (s.allocator.step (.readClock thread now)).map fun allocator =>
        { s with
          allocator := allocator
          pending := Function.update s.pending thread (some ⟨action, actionType, payload⟩) }
  | .update thread =>
    match s.pending thread, s.allocator.reading thread with
    | some call, some now =>
      (s.allocator.step (.update thread)).map (s.sign rmp ed client thread call now)
    | _, _ => none

variable {rmp dyn ed client}

/-- Every call in flight is encoded, and what is signed follows the allocator. -/
structure Inv (rmp : RmpSerde) (dyn : ContentSerde) (ed : Ed25519) (client : ClientKeys)
    (s : Signers Thread) : Prop where
  allocator : s.allocator.Inv
  pending : ∀ thread call, s.pending thread = some call →
    encodeAction rmp dyn call.action = .ok (call.actionType, call.payload)
  signed : ∀ tx ∈ s.signed,
    encodeAction rmp dyn tx.call.action = .ok (tx.call.actionType, tx.call.payload) ∧
      client.signAndEncodeAction rmp ed tx.call.actionType tx.call.payload tx.seq = .ok tx.bytes
  order : (s.signed.map SignedAction.allocation).Sublist s.allocator.returned

omit [DecidableEq Thread] in
theorem inv_init : Inv rmp dyn ed client (init : Signers Thread) := by
  refine ⟨NonceAllocator.inv_init, ?_, ?_, List.nil_sublist _⟩
  · intro thread call hcall
    cases hcall
  · intro tx htx
    exact absurd htx List.not_mem_nil

/-- Only the thread of a step changes what it has in flight. -/
theorem pending_update {s : Signers Thread} (hi : Inv rmp dyn ed client s) (thread : Thread)
    {c : Option SignCall}
    (hc : ∀ call ∈ c, encodeAction rmp dyn call.action = .ok (call.actionType, call.payload)) :
    ∀ other call, Function.update s.pending thread c other = some call →
      encodeAction rmp dyn call.action = .ok (call.actionType, call.payload) := by
  intro other call hcall
  rw [Function.update_apply] at hcall
  split_ifs at hcall
  · exact hc call hcall
  · exact hi.pending other call hcall

theorem inv_step (s : Signers Thread) (e : SignStep Thread) (s' : Signers Thread)
    (h : s.step rmp dyn ed client e = some s') (hi : Inv rmp dyn ed client s) :
    Inv rmp dyn ed client s' := by
  cases e with
  | signAction thread action now =>
    rw [step] at h
    split at h
    · exact Option.some.inj h ▸ hi
    · next actionType payload hencode =>
      obtain ⟨allocator, hallocator, rfl⟩ := Option.map_eq_some_iff.mp h
      have hinv := NonceAllocator.inv_step _ _ _ hallocator hi.allocator
      refine ⟨hinv, pending_update hi thread (by simpa using hencode), hi.signed, ?_⟩
      obtain ⟨-, hreturned⟩ | ⟨_, _, hupdate, -⟩ := NonceAllocator.step_cases hallocator
      · exact hreturned ▸ hi.order
      · cases hupdate
  | update thread =>
    rw [step] at h
    split at h
    · next call now hcall hnow =>
      obtain ⟨allocator, hallocator, rfl⟩ := Option.map_eq_some_iff.mp h
      have hinv := NonceAllocator.inv_step _ _ _ hallocator hi.allocator
      have hpending := pending_update hi thread (c := none) (by simp)
      have hreturned : allocator.returned =
          s.allocator.returned ++ [⟨thread, now, allocator.last⟩] := by
        simp only [NonceAllocator.step, hnow] at hallocator
        obtain rfl := Option.some.inj hallocator
        rfl
      have hkept : (s.signed.map SignedAction.allocation).Sublist allocator.returned := by
        rw [hreturned]
        exact hi.order.trans (List.sublist_append_left _ _)
      rw [sign]
      split
      · exact ⟨hinv, hpending, hi.signed, hkept⟩
      · next bytes hbytes =>
        refine ⟨hinv, hpending, ?_, ?_⟩
        · intro tx htx
          obtain hold | hnew := List.mem_append.mp htx
          · exact hi.signed tx hold
          · obtain rfl := List.mem_singleton.mp hnew
            exact ⟨hi.pending thread call hcall, hbytes⟩
        · rw [List.map_append, hreturned]
          exact hi.order.append (List.Sublist.refl _)
    · cases h

/-- Whatever the interleaving of the threads and their clocks: signed envelopes carry nonces that
increase in the order of the lock and are no older than their call; each decodes to an action that
encodes as the submitted one and verifies on the client's chain; and no two are the same. -/
theorem signAction_run (hed : ed.Correct) (hholds : client.HandleHolds ed)
    {events : List (SignStep Thread)} {s : Signers Thread}
    (h : run (step rmp dyn ed client) init events = some s) :
    (s.signed.map SignedAction.seq).Pairwise (· < ·) ∧
    (∀ tx ∈ s.signed, tx.now ≤ tx.seq ∧ (tx.call.payload.length < 2^32 →
      ∃ (chain : FixedBytes 32) (found : DecodedTx), client.chainId = chain.1 ∧
        decodeTx rmp tx.bytes = .ok found ∧ (found.seq.toNat : Int) = tx.seq ∧
        encodeAction rmp dyn tx.call.action =
          .ok (found.action.actionType, found.action.payloadMsg.encode) ∧
        verifySignature ed chain found.auth.pubkey found.auth.signature found.auth.actionType
          found.seq found.auth.payload = .ok ())) ∧
    ((∀ tx ∈ s.signed, tx.call.payload.length < 2^32) →
      (s.signed.map SignedAction.bytes).Nodup) := by
  have hi : Inv rmp dyn ed client s := run_invariant _ inv_step h inv_init
  have hseqs : (s.signed.map SignedAction.seq).Pairwise (· < ·) := by
    have hsub := hi.order.map Allocation.nonce
    rw [List.map_map] at hsub
    exact hi.allocator.ordered.sublist hsub
  have hread : ∀ tx ∈ s.signed, tx.now ≤ tx.seq ∧ (tx.call.payload.length < 2^32 →
      ∃ (chain : FixedBytes 32) (found : DecodedTx), client.chainId = chain.1 ∧
        decodeTx rmp tx.bytes = .ok found ∧ (found.seq.toNat : Int) = tx.seq ∧
        encodeAction rmp dyn tx.call.action =
          .ok (found.action.actionType, found.action.payloadMsg.encode) ∧
        verifySignature ed chain found.auth.pubkey found.auth.signature found.auth.actionType
          found.seq found.auth.payload = .ok ()) := by
    intro tx htx
    refine ⟨?_, ?_⟩
    · exact hi.allocator.fresh tx.allocation (hi.order.subset (List.mem_map_of_mem htx))
    · intro hlen
      obtain ⟨hencode, hbytes⟩ := hi.signed tx htx
      obtain ⟨core, htype, hpayload⟩ := encodeAction_eq_ok hencode
      rw [htype, hpayload] at hbytes
      obtain ⟨chain, seed, n, hchain, hn, hsigned⟩ :=
        ClientKeys.signAndEncodeAction_eq_ok hholds hbytes
      obtain ⟨found, hfound, haction, hseq, -, -, hverify⟩ :=
        decodeTx_signedBytes rmp ed seed chain core n hed (hpayload ▸ hlen)
      refine ⟨chain, found, hchain, hsigned ▸ hfound, hseq ▸ hn, ?_, hverify⟩
      rw [hencode, haction, htype, hpayload]
  refine ⟨hseqs, hread, ?_⟩
  intro hshort
  rw [List.Nodup, List.pairwise_map]
  refine (List.pairwise_map.mp hseqs).imp_of_mem ?_
  intro tx tx' htx htx' hlt heq
  obtain ⟨_, found, -, hfound, hseq, -⟩ := (hread tx htx).2 (hshort tx htx)
  obtain ⟨_, found', -, hfound', hseq', -⟩ := (hread tx' htx').2 (hshort tx' htx')
  rw [heq, hfound'] at hfound
  obtain rfl := Except.ok.inj hfound
  exact (ne_of_lt hlt) (hseq.symm.trans hseq')

end Step

def sampleSigner : Ed25519 := .sampleTable
  [(cancelMessage 7 Address.default 10, ⟨
    [115, 136, 185, 100, 161, 13, 212, 186, 121, 146, 62, 162, 229, 140, 1, 146, 96, 130,
     248, 152, 92, 191, 163, 158, 9, 145, 227, 150, 73, 211, 112, 224, 199, 200, 187, 34,
     204, 170, 87, 251, 12, 209, 151, 117, 176, 232, 147, 141, 71, 130, 196, 14, 56, 217,
     236, 215, 97, 188, 219, 153, 31, 192, 207, 4], rfl⟩),
   (cancelMessage 8 Address.default 9, ⟨
    [52, 147, 130, 163, 146, 97, 183, 42, 44, 80, 234, 68, 137, 148, 90, 224, 135, 9, 195,
     44, 44, 193, 208, 114, 203, 87, 56, 8, 124, 110, 230, 27, 174, 45, 116, 249, 81, 226,
     148, 136, 103, 33, 173, 157, 182, 200, 146, 228, 16, 251, 173, 247, 97, 186, 178, 136,
     158, 151, 125, 159, 57, 36, 59, 6], rfl⟩)]

/-- A client that holds its key in Python. -/
def sampleClient : ClientKeys := ⟨unboundChainId.1, some sampleSeed.1, none⟩

/-- Two threads read the clock in one order and sign in the other. -/
def overtaken : List (SignStep Nat) :=
  [.signAction 0 ⟨cancelOrder, [("order_id", .int 7), ("owner", .bytes (List.replicate 20 0))]⟩ 5,
    .signAction 1 ⟨cancelOrder, [("order_id", .int 8), ("owner", .bytes (List.replicate 20 0))]⟩ 9,
    .update 1, .update 0]

theorem signAction_run_overtaken : ∃ s, run (step .reference .reference sampleSigner sampleClient) init
      overtaken = some s ∧ s.signed.map SignedAction.seq = [9, 10] ∧
    (s.signed.map SignedAction.bytes).Nodup := by
  have hrun : (run (step .reference .reference sampleSigner sampleClient) init overtaken).any (fun s =>
      s.signed.map SignedAction.seq = [9, 10] ∧
        ∀ tx ∈ s.signed, tx.call.payload.length < 2^32) = true := by decide +kernel
  obtain ⟨s, hs, hsigned⟩ := (Option.any_eq_true _ _).mp hrun
  obtain ⟨hseqs, hshort⟩ := of_decide_eq_true hsigned
  have hholds : sampleClient.HandleHolds sampleSigner := by
    intro handle hhandle
    cases hhandle
  exact ⟨s, hs, hseqs, (signAction_run (Ed25519.sampleTable_correct _) hholds hs).2.2 hshort⟩

end Signers

end TradingSdk.Python
