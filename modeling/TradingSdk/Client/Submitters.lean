import TradingSdk.Client.Builders
import TradingSdk.Client.ChainBinding
import TradingSdk.Client.Nonce
import TradingSdk.Js.Signing
import TradingSdk.Transition.History

namespace TradingSdk.Client

open Transition Js Serde

/-- The fields that `setPrivateKey` fills. -/
structure LoadedKey where
  privateKey : Option Bytes
  publicKey : Option (FixedBytes 32)
  address : Option Address

/-- The call throws for a key of another length, when the key itself is already in place. -/
def LoadedKey.setPrivateKey (ed : Ed25519) (pubkeyToOwner : FixedBytes 32 → Address)
    (loaded : LoadedKey) (key : Bytes) : LoadedKey :=
  if h : key.length = 32 then
    let publicKey := ed.verifyingKey ⟨key, h⟩
    ⟨some key, some publicKey, some (pubkeyToOwner publicKey)⟩
  else { loaded with privateKey := some key }

/-- What a call asks for: the builder that it went through, if any, and the action, beside the key
that the client held when the call was made. -/
structure SubmitRequest where
  builder : Option Builder
  action : TsAction
  loaded : LoadedKey

/-- Signed bytes on their way to the gateway: `now` is the clock at the nonce, `key` what signed. -/
structure Broadcast (Caller : Type) where
  caller : Caller
  request : SubmitRequest
  chainId : FixedBytes 32
  now : Int
  seq : Int
  key : Bytes
  bytes : Bytes

/-- One call of `submitTx`. `rejected` is the rejection of the chain id or of the codec. -/
inductive Submission where
  | idle
  | resolving (request : SubmitRequest)
  | broadcast
  | threw (e : JsError)
  | rejected

/-- The key, the chain id and the last nonce of one client, its calls and what they sent. `readings`
are the clock values that `nextTimestampNonce` has used. -/
structure Submitters (Caller : Type) where
  loaded : LoadedKey
  binding : ChainBinding Caller (FixedBytes 32)
  lastTimestampNonce : Int
  readings : List Int
  submission : Caller → Submission
  sent : List (Broadcast Caller)

/-- What happens between two awaits: a key is set, a call starts, something happens to the chain id
or the codec, and a call goes on where it awaited them, at some reading of the clock. -/
inductive SubmitEvent (Caller : Type) where
  | setPrivateKey (key : Bytes)
  | submitTx (caller : Caller) (action : TsAction)
  | build (caller : Caller) (builder : Builder)
  | binding (e : BindingEvent Caller (FixedBytes 32))
  | resume (caller : Caller) (now : Int)

namespace Submitters

variable {Caller : Type}

def init (chainId : Option (FixedBytes 32)) : Submitters Caller :=
  ⟨⟨none, none, none⟩, .init chainId, 0, [], fun _ => .idle, []⟩

variable [DecidableEq Caller]

def setSubmission (s : Submitters Caller) (caller : Caller) (c : Submission) :
    Submitters Caller :=
  { s with submission := Function.update s.submission caller c }

theorem submission_setSubmission (s : Submitters Caller) (caller other : Caller) (c : Submission) :
    (s.setSubmission caller c).submission other = if other = caller then c else s.submission other :=
  Function.update_apply ..

section Step

variable (rmp : RmpSerde) (wasm : WasmSerde) (ed : Ed25519)
  (pubkeyToOwner : FixedBytes 32 → Address) (allowUnbound : Bool) (unbound : FixedBytes 32)

/-- `broadcastSigned` up to its first await. -/
def start (s : Submitters Caller) (caller : Caller) (builder : Option Builder)
    (action : TsAction) : Option (Submitters Caller) :=
  match s.loaded.privateKey with
  | none => some (s.setSubmission caller (.threw (.error "No private key set")))
  | some _ =>
    (s.binding.step allowUnbound unbound (.resolveChainId caller)).map fun binding =>
      { s.setSubmission caller (.resolving ⟨builder, action, s.loaded⟩) with binding := binding }

/-- `broadcastSigned` from there to the broadcast. A nonce is gone even when signing throws. -/
def sign (s : Submitters Caller) (caller : Caller) (request : SubmitRequest) (chainId : FixedBytes 32)
    (key : Bytes) (now : Int) : Submitters Caller :=
  let seq := nextTimestampNonce s.lastTimestampNonce now
  let burned := { s with lastTimestampNonce := seq, readings := s.readings ++ [now] }
  match signAndEncode rmp wasm ed chainId.1 request.action seq key with
  | .error e => burned.setSubmission caller (.threw e)
  | .ok bytes =>
    { burned.setSubmission caller .broadcast with
      sent := s.sent ++ [⟨caller, request, chainId, now, seq, key, bytes⟩] }

def step (s : Submitters Caller) : SubmitEvent Caller → Option (Submitters Caller)
  | .setPrivateKey key => some { s with loaded := s.loaded.setPrivateKey ed pubkeyToOwner key }
  | .submitTx caller action =>
    match s.submission caller with
    | .idle => s.start allowUnbound unbound caller none action
    | _ => none
  | .build caller builder =>
    match s.submission caller with
    | .idle =>
      match builder.action s.loaded.address with
      | .error e => some (s.setSubmission caller (.threw e))
      | .ok action => s.start allowUnbound unbound caller (some builder) action
    | _ => none
  | .binding e => (s.binding.step allowUnbound unbound e).map fun binding =>
      { s with binding := binding }
  | .resume caller now =>
    match s.submission caller, s.binding.call caller, s.loaded.privateKey with
    | .resolving request, .bound chainId, some key =>
      some (s.sign rmp wasm ed caller request chainId key now)
    | .resolving _, .failed, _ => some (s.setSubmission caller .rejected)
    | _, _, _ => none

variable {rmp wasm ed pubkeyToOwner allowUnbound unbound}

/-- Everything that a step can do. -/
inductive Steps (s : Submitters Caller) : Submitters Caller → Prop
  | loads (key : Bytes) :
      Steps s { s with loaded := s.loaded.setPrivateKey ed pubkeyToOwner key }
  | ends (caller : Caller) (c : Submission) (hcall : s.submission caller ≠ .broadcast)
      (hc : c = .rejected ∨ ∃ e, c = .threw e) : Steps s (s.setSubmission caller c)
  | starts (caller : Caller) (request : SubmitRequest) (key : Bytes) (binding : ChainBinding Caller _)
      (hidle : s.submission caller = .idle) (hkey : s.loaded.privateKey = some key)
      (hloaded : request.loaded = s.loaded)
      (hbuilder : ∀ b ∈ request.builder, b.action s.loaded.address = .ok request.action)
      (hbinding : s.binding.step allowUnbound unbound (.resolveChainId caller) = some binding) :
      Steps s { s.setSubmission caller (.resolving request) with binding := binding }
  | binds (e : BindingEvent Caller (FixedBytes 32)) (binding : ChainBinding Caller _)
      (hbinding : s.binding.step allowUnbound unbound e = some binding) :
      Steps s { s with binding := binding }
  | burns (caller : Caller) (now : Int) (e : JsError) (hcall : s.submission caller ≠ .broadcast) :
      Steps s ({ s with
        lastTimestampNonce := nextTimestampNonce s.lastTimestampNonce now
        readings := s.readings ++ [now] }.setSubmission caller (.threw e))
  | sends (tx : Broadcast Caller) (hcall : s.submission tx.caller = .resolving tx.request)
      (hbound : s.binding.call tx.caller = .bound tx.chainId)
      (hseq : tx.seq = nextTimestampNonce s.lastTimestampNonce tx.now)
      (hbytes : signAndEncode rmp wasm ed tx.chainId.1 tx.request.action tx.seq tx.key =
        .ok tx.bytes) :
      Steps s { { s with
        lastTimestampNonce := tx.seq
        readings := s.readings ++ [tx.now] }.setSubmission tx.caller .broadcast with
        sent := s.sent ++ [tx] }

theorem steps_of_start {s s' : Submitters Caller} {caller : Caller} {builder : Option Builder}
    {action : TsAction} (hidle : s.submission caller = .idle)
    (hbuilder : ∀ b ∈ builder, b.action s.loaded.address = .ok action)
    (h : s.start allowUnbound unbound caller builder action = some s') :
    @Steps _ _ rmp wasm ed pubkeyToOwner allowUnbound unbound s s' := by
  rw [start] at h
  split at h
  · obtain rfl := Option.some.inj h
    exact .ends caller _ (by simp [hidle]) (.inr ⟨_, rfl⟩)
  · next key hkey =>
    obtain ⟨binding, hbinding, rfl⟩ := Option.map_eq_some_iff.mp h
    exact .starts caller ⟨builder, action, s.loaded⟩ key binding hidle hkey rfl hbuilder hbinding

theorem steps_of_step {s s' : Submitters Caller} {e : SubmitEvent Caller}
    (h : s.step rmp wasm ed pubkeyToOwner allowUnbound unbound e = some s') :
    @Steps _ _ rmp wasm ed pubkeyToOwner allowUnbound unbound s s' := by
  cases e with
  | setPrivateKey key => exact Option.some.inj h ▸ .loads key
  | submitTx caller action =>
    rw [step] at h
    split at h
    · next hidle => exact steps_of_start hidle (by simp) h
    · cases h
  | build caller builder =>
    rw [step] at h
    split at h
    · next hidle =>
      split at h
      · exact Option.some.inj h ▸ .ends caller _ (by simp [hidle]) (.inr ⟨_, rfl⟩)
      · next action haction => exact steps_of_start hidle (by simpa using haction) h
    · cases h
  | binding e =>
    obtain ⟨binding, hbinding, rfl⟩ := Option.map_eq_some_iff.mp h
    exact .binds e binding hbinding
  | resume caller now =>
    rw [step] at h
    split at h
    · next request chainId key hcall hbound hkey =>
      obtain rfl := Option.some.inj h
      rw [sign]
      split
      · next e _ => exact .burns caller now e (by simp [hcall])
      · next bytes hbytes =>
        exact .sends ⟨caller, request, chainId, now, _, key, bytes⟩ hcall hbound rfl hbytes
    · next request hcall _ =>
      exact Option.some.inj h ▸ .ends caller _ (by simp [hcall]) (.inl rfl)
    · cases h

/-- The address is that of the key, whenever the key is one. -/
def LoadedKey.Consistent (ed : Ed25519) (pubkeyToOwner : FixedBytes 32 → Address)
    (loaded : LoadedKey) : Prop :=
  ∀ seed : FixedBytes 32, loaded.privateKey = some seed.1 →
    loaded.address = some (pubkeyToOwner (ed.verifyingKey seed))

theorem LoadedKey.consistent_setPrivateKey (loaded : LoadedKey) (key : Bytes) :
    Consistent ed pubkeyToOwner (loaded.setPrivateKey ed pubkeyToOwner key) := by
  intro seed hseed
  rw [LoadedKey.setPrivateKey] at hseed ⊢
  split_ifs at hseed ⊢ with hlen
  · obtain rfl := Option.some.inj hseed
    rfl
  · obtain rfl := Option.some.inj hseed
    exact absurd seed.2 hlen

omit [DecidableEq Caller] in
theorem LoadedKey.privateKey_setPrivateKey (loaded : LoadedKey) (key : Bytes) :
    (loaded.setPrivateKey ed pubkeyToOwner key).privateKey ≠ none := by
  rw [LoadedKey.setPrivateKey]
  split_ifs <;> simp

/-- A request was made under a consistent key, and by its builder. -/
structure SubmitRequest.Made (ed : Ed25519) (pubkeyToOwner : FixedBytes 32 → Address)
    (request : SubmitRequest) : Prop where
  consistent : LoadedKey.Consistent ed pubkeyToOwner request.loaded
  built : ∀ b ∈ request.builder, b.action request.loaded.address = .ok request.action

/-- A transaction that was sent: under the chain id of the client, by a call that is over. -/
structure Sent (rmp : RmpSerde) (wasm : WasmSerde) (ed : Ed25519)
    (pubkeyToOwner : FixedBytes 32 → Address) (s : Submitters Caller) (tx : Broadcast Caller) :
    Prop where
  made : SubmitRequest.Made ed pubkeyToOwner tx.request
  chainId : s.binding.chainId = some tx.chainId
  closed : s.submission tx.caller = .broadcast
  bytes : signAndEncode rmp wasm ed tx.chainId.1 tx.request.action tx.seq tx.key = .ok tx.bytes
  clock : tx.now ∈ s.readings ∧ tx.now ≤ tx.seq ∧ tx.seq ≤ tx.now + 60000

/-- Whatever the client has sent, it signed once, in the order of its nonces. -/
structure Inv (rmp : RmpSerde) (wasm : WasmSerde) (ed : Ed25519)
    (pubkeyToOwner : FixedBytes 32 → Address) (s : Submitters Caller) : Prop where
  binding : s.binding.Inv
  loaded : LoadedKey.Consistent ed pubkeyToOwner s.loaded
  asked : ∀ caller request, s.submission caller = .resolving request →
    s.loaded.privateKey ≠ none ∧ SubmitRequest.Made ed pubkeyToOwner request
  sent : ∀ tx ∈ s.sent, s.Sent rmp wasm ed pubkeyToOwner tx
  once : (s.sent.map Broadcast.caller).Nodup
  last : s.lastTimestampNonce = s.readings.foldl nextTimestampNonce 0
  order : (s.sent.map Broadcast.seq).Sublist (outputs nextTimestampNonce 0 s.readings)

omit [DecidableEq Caller] in
theorem inv_init (chainId : Option (FixedBytes 32)) :
    Inv rmp wasm ed pubkeyToOwner (init chainId : Submitters Caller) := by
  refine ⟨ChainBinding.inv_init chainId, ?_, ?_, ?_, List.nodup_nil, rfl, List.nil_sublist _⟩
  · intro seed hseed
    cases hseed
  · intro caller request hcall
    cases hcall
  · intro tx htx
    exact absurd htx List.not_mem_nil

/-- What was sent stays sent while its call is left alone. -/
theorem Sent.setSubmission {s : Submitters Caller} {tx : Broadcast Caller}
    (h : s.Sent rmp wasm ed pubkeyToOwner tx) {caller : Caller} (c : Submission)
    (hcaller : s.submission caller ≠ .broadcast) :
    (s.setSubmission caller c).Sent rmp wasm ed pubkeyToOwner tx := by
  refine ⟨h.made, h.chainId, ?_, h.bytes, h.clock⟩
  rw [submission_setSubmission, if_neg]
  · exact h.closed
  · rintro rfl
    exact hcaller h.closed

theorem Inv.setSubmission {s : Submitters Caller} (hi : Inv rmp wasm ed pubkeyToOwner s)
    {caller : Caller} (c : Submission) (hcaller : s.submission caller ≠ .broadcast)
    (hc : ∀ request, c = .resolving request →
      s.loaded.privateKey ≠ none ∧ SubmitRequest.Made ed pubkeyToOwner request) :
    Inv rmp wasm ed pubkeyToOwner (s.setSubmission caller c) := by
  refine ⟨hi.binding, hi.loaded, ?_, ?_, hi.once, hi.last, hi.order⟩
  · intro other request ho
    rw [submission_setSubmission] at ho
    split_ifs at ho
    · exact hc request ho
    · exact hi.asked other request ho
  · intro tx htx
    exact (hi.sent tx htx).setSubmission c hcaller

/-- The chain id and the codec come and go without touching what was sent. -/
theorem Inv.bind {s : Submitters Caller} (hi : Inv rmp wasm ed pubkeyToOwner s)
    {e : BindingEvent Caller (FixedBytes 32)} {binding : ChainBinding Caller (FixedBytes 32)}
    (h : s.binding.step allowUnbound unbound e = some binding) :
    Inv rmp wasm ed pubkeyToOwner { s with binding := binding } := by
  have hsteps := ChainBinding.steps_of_step h
  refine ⟨ChainBinding.inv_steps hi.binding hsteps, hi.loaded, hi.asked, ?_, hi.once, hi.last,
    hi.order⟩
  intro tx htx
  have hsent := hi.sent tx htx
  exact ⟨hsent.made, ChainBinding.chainId_of_steps hi.binding hsteps hsent.chainId, hsent.closed,
    hsent.bytes, hsent.clock⟩

omit [DecidableEq Caller] in
/-- A nonce is taken, whatever becomes of it. -/
theorem Inv.allocate {s : Submitters Caller} (hi : Inv rmp wasm ed pubkeyToOwner s) (now : Int) :
    Inv rmp wasm ed pubkeyToOwner { s with
      lastTimestampNonce := nextTimestampNonce s.lastTimestampNonce now
      readings := s.readings ++ [now] } := by
  refine ⟨hi.binding, hi.loaded, hi.asked, ?_, hi.once, ?_, ?_⟩
  · intro tx htx
    have hsent := hi.sent tx htx
    exact ⟨hsent.made, hsent.chainId, hsent.closed, hsent.bytes,
      List.mem_append_left _ hsent.clock.1, hsent.clock.2⟩
  · show nextTimestampNonce s.lastTimestampNonce now = _
    rw [List.foldl_append, ← hi.last]
    rfl
  · rw [outputs_append]
    exact hi.order.trans (List.sublist_append_left _ _)

theorem inv_steps {s s' : Submitters Caller} (hi : Inv rmp wasm ed pubkeyToOwner s)
    (h : @Steps _ _ rmp wasm ed pubkeyToOwner allowUnbound unbound s s') :
    Inv rmp wasm ed pubkeyToOwner s' := by
  cases h with
  | loads key =>
    refine ⟨hi.binding, LoadedKey.consistent_setPrivateKey _ _, ?_, ?_, hi.once, hi.last,
      hi.order⟩
    · intro caller request hcall
      exact ⟨LoadedKey.privateKey_setPrivateKey _ _, (hi.asked caller request hcall).2⟩
    intro tx htx
    have hsent := hi.sent tx htx
    exact ⟨hsent.made, hsent.chainId, hsent.closed, hsent.bytes, hsent.clock⟩
  | ends caller c hcall hc =>
    refine hi.setSubmission c hcall ?_
    rintro request rfl
    obtain hc | ⟨e, hc⟩ := hc <;> cases hc
  | starts caller request key binding hidle hkey hloaded hbuilder hbinding =>
    have hnot : s.submission caller ≠ .broadcast := by simp [hidle]
    have hstarted := hi.setSubmission (.resolving request) hnot (by
      intro other ho
      obtain rfl := Submission.resolving.inj ho
      exact ⟨by simp [hkey], hloaded ▸ hi.loaded, hloaded ▸ hbuilder⟩)
    exact hstarted.bind hbinding
  | binds e binding hbinding => exact hi.bind hbinding
  | burns caller now e hcall => exact (hi.allocate now).setSubmission (.threw e) hcall (by simp)
  | sends tx hcall hbound hseq hbytes =>
    have hopen : s.submission tx.caller ≠ .broadcast := by simp [hcall]
    have hallocated := hi.allocate tx.now
    rw [← hseq] at hallocated
    have hdone := hallocated.setSubmission .broadcast hopen (by simp)
    have hnew : tx.caller ∉ s.sent.map Broadcast.caller := by
      intro hmem
      obtain ⟨other, hother, heq⟩ := List.mem_map.mp hmem
      exact hopen (heq ▸ (hi.sent other hother).closed)
    refine ⟨hdone.binding, hdone.loaded, hdone.asked, ?_, ?_, hdone.last, ?_⟩
    · intro other hother
      obtain hold | rfl := List.mem_append.mp hother |>.imp_right List.mem_singleton.mp
      · have hsent := hdone.sent other hold
        exact ⟨hsent.made, hsent.chainId, hsent.closed, hsent.bytes, hsent.clock⟩
      · refine ⟨(hi.asked _ _ hcall).2, hi.binding.bound _ _ hbound, ?_, hbytes, ?_⟩
        · exact Function.update_self ..
        · rw [hseq, nextTimestampNonce_eq, nonceStep]
          exact ⟨List.mem_append_right _ (List.mem_singleton_self _), by omega, by omega⟩
    · rw [List.map_append, List.nodup_append]
      refine ⟨hi.once, List.nodup_singleton _, ?_⟩
      intro a ha b hb
      obtain rfl := List.mem_singleton.mp hb
      rintro rfl
      exact hnew ha
    · show (s.sent ++ [tx] |>.map Broadcast.seq).Sublist
        (outputs nextTimestampNonce 0 (s.readings ++ [tx.now]))
      rw [List.map_append, outputs_append, ← hi.last]
      refine hi.order.append ?_
      rw [outputs, outputs, ← hseq]
      exact List.Sublist.refl _

theorem inv_run {s : Submitters Caller} {chainId : Option (FixedBytes 32)}
    {events : List (SubmitEvent Caller)}
    (h : run (step rmp wasm ed pubkeyToOwner allowUnbound unbound) (init chainId) events =
      some s) : Inv rmp wasm ed pubkeyToOwner s :=
  run_invariant _ (fun _ _ _ hstep hi => inv_steps hi (steps_of_step hstep)) h (inv_init chainId)

/-- What the core finds in a transaction. -/
structure Carries (rmp : RmpSerde) (wasm : WasmSerde) (ed : Ed25519) (tx : Broadcast Caller)
    (found : DecodedTx) : Prop where
  kind : found.action.kind = tx.request.action.type
  payload : encodePayloadBytes rmp wasm tx.request.action = .ok found.auth.payload
  encoded : found.auth.payload = found.action.payloadMsg.encode
  fits : found.auth.payload.length < 2^32
  seq : found.seq = UInt64.ofInt tx.seq
  signer : ∃ seed : FixedBytes 32, tx.key = seed.1 ∧ found.auth.pubkey = ed.verifyingKey seed
  verifies : verifySignature ed tx.chainId found.auth.pubkey found.auth.signature
    found.auth.actionType found.seq found.auth.payload = .ok ()

omit [DecidableEq Caller] in
theorem Sent.carries {s : Submitters Caller} {tx : Broadcast Caller} (hed : ed.Correct)
    (h : s.Sent rmp wasm ed pubkeyToOwner tx) :
    ∃ found, decodeTx rmp tx.bytes = .ok found ∧ Carries rmp wasm ed tx found := by
  obtain ⟨chain, seed, x, hchain, hkey, hpayload, hlen, hbytes⟩ :=
    signAndEncode_eq_ok rmp wasm ed h.bytes
  obtain rfl := Subtype.ext hchain
  obtain ⟨found, hfound, haction, hseq, hpay, hpubkey, hverify⟩ :=
    decodeTx_signedBytes rmp ed seed tx.chainId ⟨tx.request.action.type, x⟩
      (UInt64.ofInt tx.seq) hed hlen
  refine ⟨found, hbytes ▸ hfound, ?_, hpay ▸ hpayload, ?_, hpay ▸ hlen, hseq,
    ⟨seed, hkey, hpubkey⟩, hverify⟩
  · rw [haction]
  · rw [hpay, haction]

/-- The last moment that a `Date` can hold. -/
def maxTime : Int := 8640000000000000

omit [DecidableEq Caller] in
/-- Nonces near a clock are `u64` values of their own. -/
theorem Sent.seq_lt {s : Submitters Caller} {tx : Broadcast Caller}
    (h : s.Sent rmp wasm ed pubkeyToOwner tx)
    (hclock : ∀ now ∈ s.readings, 0 ≤ now ∧ now ≤ maxTime) : 0 ≤ tx.seq ∧ tx.seq < 2^64 := by
  obtain ⟨hmem, hlo, hhi⟩ := h.clock
  obtain ⟨hnow, hmax⟩ := hclock tx.now hmem
  rw [maxTime] at hmax
  omega

theorem toNat_ofInt {n : Int} (hlo : 0 ≤ n) (hhi : n < 2^64) :
    ((UInt64.ofInt n).toNat : Int) = n := by
  have hmod : n % 2^64 = n := Int.emod_eq_of_lt hlo hhi
  have hlt : n.toNat < 2^64 := by omega
  rw [UInt64.ofInt, hmod, UInt64.toNat_ofNat_of_lt' hlt, Int.toNat_of_nonneg hlo]

omit [DecidableEq Caller] in
/-- One text carries one nonce. -/
theorem Sent.seq_eq {s : Submitters Caller} {tx tx' : Broadcast Caller} (hed : ed.Correct)
    (h : s.Sent rmp wasm ed pubkeyToOwner tx) (h' : s.Sent rmp wasm ed pubkeyToOwner tx')
    (hclock : ∀ now ∈ s.readings, 0 ≤ now ∧ now ≤ maxTime) (heq : tx.bytes = tx'.bytes) :
    tx.seq = tx'.seq := by
  obtain ⟨found, hfound, hcarries⟩ := h.carries hed
  obtain ⟨found', hfound', hcarries'⟩ := h'.carries hed
  rw [heq, hfound'] at hfound
  obtain rfl := Except.ok.inj hfound
  have hseq : UInt64.ofInt tx.seq = UInt64.ofInt tx'.seq := hcarries.seq.symm.trans hcarries'.seq
  obtain ⟨hlo, hhi⟩ := h.seq_lt hclock
  obtain ⟨hlo', hhi'⟩ := h'.seq_lt hclock
  rw [← toNat_ofInt hlo hhi, ← toNat_ofInt hlo' hhi', hseq]

/-- Whatever the order of the calls, keys, fetches and clock readings: every transaction carries the
chain id that the client is bound to, decodes to the action that was submitted and verifies under
the key that signed it; a call broadcasts once; no text goes out twice while the clock keeps up; and
a call that has its chain id can always go on. -/
theorem broadcastSigned_run (hed : ed.Correct) {chainId : Option (FixedBytes 32)}
    {events : List (SubmitEvent Caller)} {s : Submitters Caller}
    (h : run (step rmp wasm ed pubkeyToOwner allowUnbound unbound) (init chainId) events =
      some s) :
    (∀ tx ∈ s.sent, s.binding.chainId = some tx.chainId ∧
      ∃ found, decodeTx rmp tx.bytes = .ok found ∧ Carries rmp wasm ed tx found) ∧
    (s.sent.map Broadcast.caller).Nodup ∧
    ((∀ now ∈ s.readings, 0 ≤ now ∧ now ≤ maxTime) → WithinDrift 0 s.readings →
      (s.sent.map Broadcast.seq).Pairwise (· < ·) ∧ (s.sent.map Broadcast.bytes).Nodup) ∧
    ∀ caller request bound now, s.submission caller = .resolving request →
      s.binding.call caller = .bound bound →
      s.step rmp wasm ed pubkeyToOwner allowUnbound unbound (.resume caller now) ≠ none := by
  have hi : Inv rmp wasm ed pubkeyToOwner s := inv_run h
  refine ⟨?_, hi.once, ?_, ?_⟩
  · intro tx htx
    exact ⟨(hi.sent tx htx).chainId, (hi.sent tx htx).carries hed⟩
  · intro hclock hdrift
    have hchain := (outputs_increasing_iff_withinDrift 0 s.readings).mpr hdrift
    have hall := (List.pairwise_cons.mp (List.isChain_iff_pairwise.mp hchain)).2
    have hseqs : (s.sent.map Broadcast.seq).Pairwise (· < ·) := hall.sublist hi.order
    refine ⟨hseqs, ?_⟩
    rw [List.Nodup, List.pairwise_map]
    refine (List.pairwise_map.mp hseqs).imp_of_mem ?_
    intro tx tx' htx htx' hlt heq
    exact (ne_of_lt hlt) ((hi.sent tx htx).seq_eq hed (hi.sent tx' htx') hclock heq)
  · intro caller request bound now hcall hbound
    obtain ⟨key, hkey⟩ := Option.ne_none_iff_exists'.mp (hi.asked caller request hcall).1
    simp only [step, hcall, hbound, hkey]
    exact Option.some_ne_none _

/-- What a builder sends acts for the address that was loaded when it was called. That is the
address of its signature, unless another key came in between. -/
theorem builder_owner (hed : ed.Correct) {chainId : Option (FixedBytes 32)}
    {events : List (SubmitEvent Caller)} {s : Submitters Caller}
    (h : run (step rmp wasm ed pubkeyToOwner allowUnbound unbound) (init chainId) events = some s)
    {tx : Broadcast Caller} (htx : tx ∈ s.sent) {b : Builder} (hb : b ∈ tx.request.builder)
    (hgiven : b.delegatedOwner.isNullish = true) (hshape : tx.request.action.Shaped) :
    ∃ found owner, decodeTx rmp tx.bytes = .ok found ∧ found.action.owner = some owner ∧
      tx.request.loaded.address = some owner ∧
      (tx.request.loaded.privateKey = some tx.key → owner = pubkeyToOwner found.auth.pubkey) := by
  have hsent := (inv_run h).sent tx htx
  obtain ⟨owner, howner, howned⟩ := Builder.ownedBy (hsent.made.built b hb) hgiven
  obtain ⟨found, hfound, hcarries⟩ := hsent.carries hed
  obtain ⟨x, hpayload, hx⟩ := howned.encode hshape hcarries.payload
  have haction : found.action = ⟨tx.request.action.type, x⟩ := by
    have hread := decodeAction_encode rmp found.action []
      (found.action.payloadMsg_fits (hcarries.encoded ▸ hcarries.fits))
    have hread' := decodeAction_encode rmp ⟨tx.request.action.type, x⟩ []
      (Action.payloadMsg_fits _ (hpayload ▸ hcarries.fits))
    rw [← hcarries.encoded, Action.actionType, hcarries.kind] at hread
    rw [← hpayload, Action.actionType] at hread'
    exact Except.ok.inj (hread.symm.trans hread')
  refine ⟨found, owner, hfound, haction ▸ hx, howner, ?_⟩
  intro hkey
  obtain ⟨seed, hseed, hpubkey⟩ := hcarries.signer
  have hloaded := hsent.made.consistent seed (hseed ▸ hkey)
  rw [howner] at hloaded
  exact hpubkey ▸ Option.some.inj hloaded

end Step

/-- The last 20 bytes of the Keccak-256 hash of the sample key. -/
def sampleAddress : Address := ⟨
  [64, 190, 83, 167, 145, 143, 39, 42, 135, 44, 250, 217, 123, 102, 80, 106, 74, 153, 214, 23], rfl⟩

/-- `pubkey_to_owner` at the sample key. -/
def sampleOwner (_ : FixedBytes 32) : Address := sampleAddress

def sampleSigner : Ed25519 := .sampleTable
  [(cancelMessage 7 sampleAddress 1000, ⟨
    [166, 130, 65, 205, 36, 20, 26, 143, 229, 173, 105, 138, 173, 90, 179, 1, 108, 13, 20,
     189, 229, 254, 218, 52, 117, 40, 37, 154, 71, 214, 105, 248, 138, 89, 80, 203, 160, 94,
     15, 94, 245, 82, 142, 53, 70, 244, 10, 116, 211, 219, 124, 213, 24, 233, 93, 30, 147,
     203, 84, 84, 62, 104, 128, 9], rfl⟩),
   (cancelMessage 8 sampleAddress 1000, ⟨
    [26, 219, 40, 254, 132, 162, 44, 217, 232, 12, 232, 187, 247, 5, 235, 122, 226, 156,
     166, 172, 7, 68, 132, 59, 189, 59, 210, 221, 139, 95, 128, 157, 80, 114, 133, 64, 21,
     11, 226, 19, 233, 149, 124, 162, 118, 112, 39, 251, 150, 196, 73, 253, 206, 86, 8, 218,
     131, 122, 206, 170, 0, 147, 219, 14], rfl⟩),
   (cancelMessage 7 sampleAddress 1001, ⟨
    [197, 250, 73, 82, 236, 246, 97, 247, 119, 114, 187, 232, 219, 129, 201, 164, 75, 78,
     160, 97, 195, 191, 80, 202, 50, 173, 242, 42, 12, 71, 211, 164, 227, 119, 137, 63, 248,
     154, 78, 176, 50, 41, 166, 6, 221, 120, 182, 236, 3, 100, 154, 58, 46, 62, 182, 224,
     117, 224, 232, 172, 103, 5, 254, 12], rfl⟩)]

/-- A builder and a plain call resolve together and sign within one millisecond. -/
def cancelledTwice : List (SubmitEvent Nat) :=
  [.setPrivateKey sampleSeed.1, .build 0 (.cancelOrder (.bigint 7)),
    .submitTx 1 ⟨.cancelOrder, .object [("orderId", .bigint 8),
      ("owner", .uint8Array (sampleOwner sampleKey).1)]⟩,
    .binding (.resume 1), .binding (.resume 0), .resume 1 1000, .resume 0 1000]

theorem broadcastSigned_run_cancelledTwice : ∃ s, run (step .reference .reference sampleSigner
      sampleOwner false unboundChainId) (init (some unboundChainId)) cancelledTwice = some s ∧
    s.sent.map Broadcast.caller = [1, 0] ∧ s.sent.map Broadcast.seq = [1000, 1001] ∧
    (s.sent.map Broadcast.bytes).Nodup := by
  have hrun : (run (step .reference .reference sampleSigner sampleOwner false unboundChainId)
      (init (some unboundChainId)) cancelledTwice).any (fun s =>
        s.sent.map Broadcast.caller = [1, 0] ∧ s.sent.map Broadcast.seq = [1000, 1001] ∧
          s.readings = [1000, 1000]) = true := by decide +kernel
  obtain ⟨s, hs, hsent⟩ := (Option.any_eq_true _ _).mp hrun
  obtain ⟨hcallers, hseqs, hreadings⟩ := of_decide_eq_true hsent
  have hclock : ∀ now ∈ s.readings, 0 ≤ now ∧ now ≤ maxTime := by
    rw [hreadings]
    decide
  have hdrift : WithinDrift 0 s.readings := by
    rw [hreadings]
    exact ⟨by decide, by decide, trivial⟩
  exact ⟨s, hs, hcallers, hseqs,
    ((broadcastSigned_run (Ed25519.sampleTable_correct _) hs).2.2.1 hclock hdrift).2⟩

def cancelled : List (SubmitEvent Nat) :=
  [.setPrivateKey sampleSeed.1, .build 0 (.cancelOrder (.bigint 7)), .binding (.resume 0),
    .resume 0 1000]

def cancelRequest : SubmitRequest where
  builder := some (.cancelOrder (.bigint 7))
  action := ⟨.cancelOrder, .object [("orderId", .bigint 7),
    ("owner", .uint8Array (sampleOwner sampleKey).1)]⟩
  loaded := ⟨some sampleSeed.1, some sampleKey, some (sampleOwner sampleKey)⟩

theorem builder_owner_cancelled : ∃ bytes found, signAndEncode .reference .reference sampleSigner
      unboundChainId.1 cancelRequest.action 1000 sampleSeed.1 = .ok bytes ∧
    decodeTx .reference bytes = .ok found ∧
    found.action.owner = some (sampleOwner found.auth.pubkey) := by
  obtain ⟨s, hnone, hlast, hrun⟩ : ∃ s : Submitters Nat, s.sent = [] ∧
      s.lastTimestampNonce = 0 ∧
      run (step .reference .reference sampleSigner sampleOwner false unboundChainId)
        (init (some unboundChainId)) cancelled = some (s.sign .reference .reference sampleSigner 0
          cancelRequest unboundChainId sampleSeed.1 1000) := ⟨_, rfl, rfl, rfl⟩
  have hsome : (signAndEncode .reference .reference sampleSigner unboundChainId.1 cancelRequest.action
      1000 sampleSeed.1).toOption.isSome = true := by decide +kernel
  obtain ⟨bytes, hbytes⟩ : ∃ bytes, signAndEncode .reference .reference sampleSigner unboundChainId.1
      cancelRequest.action 1000 sampleSeed.1 = .ok bytes := by
    cases hsigned : signAndEncode .reference .reference sampleSigner unboundChainId.1
        cancelRequest.action 1000 sampleSeed.1 with
    | error e =>
      rw [hsigned] at hsome
      cases hsome
    | ok bytes => exact ⟨bytes, rfl⟩
  have hseq : nextTimestampNonce s.lastTimestampNonce 1000 = 1000 := by
    rw [hlast]
    decide
  have hshape : cancelRequest.action.Shaped :=
    ⟨_, rfl, by decide, shaped_field (by decide) (by decide) _, trivial,
      shaped_field (by decide) (by decide) _, trivial, trivial⟩
  simp only [sign, hseq, hbytes, hnone] at hrun
  obtain ⟨found, owner, hfound, howner, -, hsame⟩ := builder_owner (Ed25519.sampleTable_correct _) hrun
    (List.mem_singleton_self _) rfl rfl hshape
  exact ⟨bytes, found, hbytes, hfound, hsame rfl ▸ howner⟩

end Submitters

end TradingSdk.Client
