import TradingSdk.Client.Gateway

namespace TradingSdk.Client

open Json Serde

/-- The part of a client's state that delivery is about. A running verifier is listed by the hash
it polls. -/
structure ExchangeClient where
  autoVerifyDelivery : Bool
  pendingVerifies : List Value

/-- What one poll of `/tx` brings before the deadline. A poll that failed and a transaction that
is not indexed yet both bring nothing. -/
inductive Poll where
  | nothing
  | executed (code : Double) (height log events : Option Value)

def isFinalResult (r : TxResult) : Bool :=
  r.height.isSome || r.outcome = .engine || r.outcome = .transport

def ExchangeClient.spawnDeliveryVerifier (client : ExchangeClient) (txHash : Value) :
    ExchangeClient :=
  { client with pendingVerifies := client.pendingVerifies ++ [txHash] }

/-- The polling loop of `awaitCommit`. A result that cannot be classified counts as a failed
poll. -/
def pollCommit (txHash : Value) : List Poll → TxResult
  | [] => txTimeout txHash (some (.string (text "submitTxCommit: timed out polling /tx after 9s")))
  | .nothing :: polls => pollCommit txHash polls
  | .executed code height log events :: polls =>
    match txFromEngineCode code { hash := some txHash, height, log, events } with
    | .ok r => r
    | .error _ => pollCommit txHash polls

def awaitCommit (sync : TxResult) (polls : List Poll) : Except ClientError TxResult :=
  if isFinalResult sync then .ok sync
  else if !sync.ok && sync.outcome ≠ .timeout then .ok sync
  else if !isTruthy (some sync.hash) then .error (.error "submitTx returned no tx hash")
  else .ok (pollCommit sync.hash polls)

section Submit

variable (sha256 : Bytes → ContentHash)

/-- The wire bytes that the loaded key signed go out. -/
def broadcastSigned (signed : Option Bytes) (res : Response) : Except ClientError TxResult :=
  match signed with
  | none => .error (.error "No private key set")
  | some txBytes => submitViaGateway sha256 res txBytes

def ExchangeClient.verifyDelivery (client : ExchangeClient) (r : TxResult) : ExchangeClient :=
  if client.autoVerifyDelivery && isTruthy (some r.hash) && !isFinalResult r then
    client.spawnDeliveryVerifier r.hash
  else client

def submitTx (client : ExchangeClient) (signed : Option Bytes) (res : Response) :
    Except ClientError (TxResult × ExchangeClient) :=
  (broadcastSigned sha256 signed res).map fun r => (r, client.verifyDelivery r)

def submitSignedTx (client : ExchangeClient) (txBytes : Bytes) (res : Response) :
    Except ClientError (TxResult × ExchangeClient) :=
  (submitViaGateway sha256 res txBytes).map fun r => (r, client.verifyDelivery r)

def submitTxCommit (signed : Option Bytes) (res : Response) (polls : List Poll) :
    Except ClientError TxResult :=
  (broadcastSigned sha256 signed res).bind fun sync => awaitCommit sync polls

def submitSignedTxCommit (txBytes : Bytes) (res : Response) (polls : List Poll) :
    Except ClientError TxResult :=
  (submitViaGateway sha256 res txBytes).bind fun sync => awaitCommit sync polls

def hasNumber (v : Option Value) : Prop := ∃ n, v = some (.number n)

/-- An engine rejection, an execution in a block, or nothing that could be reconciled. -/
def FinalAnswer (b : GatewayBody) : Prop :=
  match b.member "code" with
  | some (.number code) => code.toDouble ≠ .finite 0 ∨ hasNumber (b.member "height")
  | _ => isText (b.member "status") "ok" = false ∧ isTruthy (b.member "txHash") = false

/-- The submission is followed up by hash: `submitTx` leaves a verifier behind unless the caller
opted out of verifying, and `submitTxCommit` reports what polling brings. -/
def Reconciled (client : ExchangeClient) (txBytes : Bytes) (res : Response) : Prop :=
  ∃ r, submitTx sha256 client (some txBytes) res =
      .ok (r, if client.autoVerifyDelivery then client.spawnDeliveryVerifier r.hash else client) ∧
    (r.hash = .string (computeCometTxHash sha256 txBytes) ∨
      (readGatewayBody res.body).member "txHash" = some r.hash) ∧
    ∀ polls, submitTxCommit sha256 (some txBytes) res polls = .ok (pollCommit r.hash polls)

/-- A success whose height is there without being a number, or whose hash is there without being
one. -/
def PhantomAnswer (b : GatewayBody) : Prop :=
  match b.member "code" with
  | some (.number code) =>
    code.toDouble = .finite 0 ∧ ¬ hasNumber (b.member "height") ∧
      (b.member "height" ≠ none ∨
        isNullish (b.member "txHash") = false ∧ isTruthy (b.member "txHash") = false)
  | _ => False

theorem computeCometTxHash_ne_nil (txBytes : Bytes) : computeCometTxHash sha256 txBytes ≠ [] := by
  have hlen : (computeCometTxHash sha256 txBytes).length = 64 := by
    simp [computeCometTxHash, hexDigits, List.length_flatMap, (sha256 txBytes).2]
  rintro h
  rw [h] at hlen
  cases hlen

/-- A result that is not final and names a hash is followed up by that hash. -/
theorem reconciled_of_open (client : ExchangeClient) {txBytes : Bytes} {res : Response}
    {r : TxResult} (hres : submitViaGateway sha256 res txBytes = .ok r)
    (hfinal : isFinalResult r = false) (hopen : r.ok = true ∨ r.outcome = .timeout)
    (htruthy : isTruthy (some r.hash) = true)
    (hhash : r.hash = .string (computeCometTxHash sha256 txBytes) ∨
      (readGatewayBody res.body).member "txHash" = some r.hash) :
    Reconciled sha256 client txBytes res := by
  refine ⟨r, ?_, hhash, fun polls => ?_⟩
  · rw [submitTx, broadcastSigned, hres, Except.map, ExchangeClient.verifyDelivery, hfinal, htruthy,
      Bool.and_true, Bool.not_false, Bool.and_true]
  · have hwaits : ¬ ((!r.ok && r.outcome ≠ .timeout) = true) := by
      rcases hopen with hok | htimeout
      · simp [hok]
      · simp [htimeout]
    rw [submitTxCommit, broadcastSigned, hres, Except.bind, awaitCommit, if_neg (by simp [hfinal]),
      if_neg hwaits, if_neg (by simp [htruthy])]

/-- What is reported without polling is not followed up. -/
theorem not_reconciled_of_commit {client : ExchangeClient} {txBytes : Bytes} {res : Response}
    {sync : TxResult} (hres : submitViaGateway sha256 res txBytes = .ok sync)
    (hcommit : awaitCommit sync [] ≠ .ok (pollCommit sync.hash [])) :
    ¬ Reconciled sha256 client txBytes res := by
  rintro ⟨r, hsubmit, -, hpolls⟩
  rw [submitTx, broadcastSigned, hres, Except.map] at hsubmit
  obtain ⟨rfl, -⟩ := Prod.mk.inj (Except.ok.inj hsubmit)
  have hnone := hpolls []
  rw [submitTxCommit, broadcastSigned, hres] at hnone
  exact hcommit hnone

theorem computedHash_truthy (txBytes : Bytes) :
    isTruthy (some (.string (computeCometTxHash sha256 txBytes))) = true := by
  have hne := computeCometTxHash_ne_nil sha256 txBytes
  simpa [isTruthy] using hne

/-- The success that a code of zero stands for. -/
def zeroResult (b : GatewayBody) (txBytes : Bytes) : TxResult :=
  txOk { hash := coalesce (b.member "txHash") (some (.string (computeCometTxHash sha256 txBytes))),
         height := b.member "height",
         log := coalesce (b.member "log") (b.member "error"), events := b.member "events" }

theorem gatewayAnswer_zero {b : GatewayBody} {code : Number}
    (hcode : b.member "code" = some (.number code)) (hzero : code.toDouble = .finite 0)
    (txBytes : Bytes) : gatewayAnswer sha256 b txBytes = .ok (zeroResult sha256 b txBytes) := by
  rw [gatewayAnswer, hcode]
  exact if_pos hzero

theorem zeroResult_hash (b : GatewayBody) (txBytes : Bytes) :
    (zeroResult sha256 b txBytes).hash =
      if isNullish (b.member "txHash") then .string (computeCometTxHash sha256 txBytes)
      else (b.member "txHash").getD (.string []) := by
  simp only [zeroResult, txOk, TxResultBody.hashOrEmpty, coalesce]
  split_ifs
  · contradiction
  · rfl
  · rfl

theorem zeroResult_hash_truthy (b : GatewayBody) (txBytes : Bytes) :
    isTruthy (some (zeroResult sha256 b txBytes).hash) =
      (isNullish (b.member "txHash") || isTruthy (b.member "txHash")) := by
  rw [zeroResult_hash]
  cases hnull : isNullish (b.member "txHash") with
  | true => exact computedHash_truthy sha256 txBytes
  | false =>
    cases hmember : b.member "txHash" with
    | none =>
      rw [hmember] at hnull
      cases hnull
    | some hash => rfl

/-- A code of zero is followed up without a height and with a usable hash. -/
theorem zero_reconciled_iff (client : ExchangeClient) {txBytes : Bytes} {res : Response}
    (hok : res.isOk = true) {code : Number}
    (hcode : (readGatewayBody res.body).member "code" = some (.number code))
    (hzero : code.toDouble = .finite 0) :
    Reconciled sha256 client txBytes res ↔
      (readGatewayBody res.body).member "height" = none ∧
        (isNullish ((readGatewayBody res.body).member "txHash") ||
          isTruthy ((readGatewayBody res.body).member "txHash")) = true := by
  have hres := (submitViaGateway_of_isOk sha256 hok txBytes).trans
    (gatewayAnswer_zero sha256 hcode hzero txBytes)
  rw [← zeroResult_hash_truthy sha256 _ txBytes]
  constructor
  · intro h
    by_contra hcontra
    refine not_reconciled_of_commit sha256 hres ?_ h
    cases hheight : (readGatewayBody res.body).member "height" with
    | some height =>
      have hfinal : isFinalResult (zeroResult sha256 (readGatewayBody res.body) txBytes) = true := by
        simp [isFinalResult, zeroResult, txOk, hheight]
      rw [awaitCommit, if_pos hfinal]
      intro heq
      have hflag := congrArg TxResult.ok (Except.ok.inj heq)
      cases hflag
    | none =>
      have hfinal : isFinalResult (zeroResult sha256 (readGatewayBody res.body) txBytes) = false := by
        simp [isFinalResult, zeroResult, txOk, hheight]
      have hfalsy : isTruthy (some (zeroResult sha256 (readGatewayBody res.body) txBytes).hash) =
          false := by
        simpa [hheight] using hcontra
      have hsync : (zeroResult sha256 (readGatewayBody res.body) txBytes).ok = true := rfl
      rw [awaitCommit, if_neg (by simp [hfinal]), if_neg (by simp [hsync]),
        if_pos (by simp [hfalsy])]
      intro heq
      cases heq
  · rintro ⟨hheight, htruthy⟩
    have hfinal : isFinalResult (zeroResult sha256 (readGatewayBody res.body) txBytes) = false := by
      simp [isFinalResult, zeroResult, txOk, hheight]
    refine reconciled_of_open sha256 client hres hfinal (.inl rfl) htruthy ?_
    rw [zeroResult_hash]
    split_ifs with hnull
    · exact .inl rfl
    · cases hmember : (readGatewayBody res.body).member "txHash" with
      | none =>
        rw [hmember] at hnull
        exact absurd rfl hnull
      | some hash => exact .inr rfl

/-- Without a numeric code, an acknowledgement and a hash are followed up. -/
theorem codeless_reconciled (client : ExchangeClient) {txBytes : Bytes} {res : Response}
    (hok : res.isOk = true)
    (hcode : ¬ hasNumber ((readGatewayBody res.body).member "code"))
    (hanswer : isText ((readGatewayBody res.body).member "status") "ok" = true ∨
      isTruthy ((readGatewayBody res.body).member "txHash") = true) :
    Reconciled sha256 client txBytes res := by
  have hres := submitViaGateway_of_isOk sha256 hok txBytes
  rw [gatewayAnswer] at hres
  split at hres
  · next code heq => exact absurd ⟨code, heq⟩ hcode
  · split_ifs at hres with hstatus hhash
    · exact reconciled_of_open sha256 client hres rfl (.inl rfl) (computedHash_truthy sha256 txBytes)
        (.inl rfl)
    · cases hmember : (readGatewayBody res.body).member "txHash" with
      | none =>
        rw [hmember] at hhash
        cases hhash
      | some hash =>
        rw [hmember] at hres hhash
        exact reconciled_of_open sha256 client hres rfl (.inr rfl) hhash (.inr hmember)
    · simp [hstatus, hhash] at hanswer

/-- Every 2xx answer that is not final is followed up, the phantoms apart. -/
theorem noPhantomFinality_iff (client : ExchangeClient) (txBytes : Bytes) (res : Response) :
    (res.isOk = true → ¬ FinalAnswer (readGatewayBody res.body) →
        Reconciled sha256 client txBytes res) ↔
      ¬ (res.isOk = true ∧ PhantomAnswer (readGatewayBody res.body)) := by
  rw [FinalAnswer, PhantomAnswer]
  split
  · next code hcode =>
    by_cases hzero : code.toDouble = .finite 0
    · constructor
      · rintro h ⟨hok, -, hheight, hphantom⟩
        have hreconciled := h hok (by simp [hzero, hheight])
        rw [zero_reconciled_iff sha256 client hok hcode hzero] at hreconciled
        obtain ⟨hnone, hhash⟩ := hreconciled
        rcases hphantom with hsome | ⟨hnull, hfalsy⟩
        · exact hsome hnone
        · simp [hnull, hfalsy] at hhash
      · intro h hok hfinal
        rw [zero_reconciled_iff sha256 client hok hcode hzero]
        simp only [hzero, ne_eq, not_true, false_or] at hfinal
        simp only [hok, hzero, hfinal, not_false_eq_true, true_and, not_or, not_and, not_not] at h
        obtain ⟨hnone, hhash⟩ := h
        refine ⟨hnone, ?_⟩
        cases hnull : isNullish ((readGatewayBody res.body).member "txHash") with
        | true => rfl
        | false => simpa using hhash hnull
    · exact ⟨fun _ h => hzero h.2.1, fun _ _ h => absurd (.inl hzero) h⟩
  · next hcode =>
    refine ⟨fun _ h => h.2, fun _ hok hfinal => ?_⟩
    refine codeless_reconciled sha256 client hok (fun ⟨code, h⟩ => hcode code h) ?_
    by_contra hnone
    simp only [not_or, Bool.not_eq_true] at hnone
    exact hfinal hnone

end Submit

/-- A null height passes for one. -/
theorem nullHeight_not_reconciled :
    ∃ res : Response, res = ⟨200, "OK", "\x7b\"code\":0,\"height\":null\x7d"⟩ ∧
      res.isOk = true ∧ ¬ FinalAnswer (readGatewayBody res.body) ∧
      ∀ (sha256 : Bytes → ContentHash) (client : ExchangeClient) (txBytes : Bytes),
        ¬ Reconciled sha256 client txBytes res := by
  set res : Response := ⟨200, "OK", "\x7b\"code\":0,\"height\":null\x7d"⟩
  have hcode : (match (readGatewayBody res.body).member "code" with
      | some (.number n) => decide (n = ⟨false, [0], none, none⟩)
      | _ => false) = true := by decide +kernel
  have hsome : ((readGatewayBody res.body).member "height").isSome = true := by decide +kernel
  have hnull : isNullish ((readGatewayBody res.body).member "height") = true := by decide +kernel
  split at hcode
  · next n heq =>
    obtain rfl := of_decide_eq_true hcode
    have hzero : Number.toDouble ⟨false, [0], none, none⟩ = .finite 0 :=
      Number.toDouble_of_isInteger rfl le_rfl (by decide)
    have hheight : ¬ hasNumber ((readGatewayBody res.body).member "height") := by
      rintro ⟨m, hm⟩
      rw [hm] at hnull
      cases hnull
    refine ⟨res, rfl, rfl, ?_, fun sha256 client txBytes => ?_⟩
    · rw [FinalAnswer, heq]
      exact fun h => h.elim (fun h => h hzero) hheight
    · rw [zero_reconciled_iff sha256 client rfl heq hzero]
      rintro ⟨hnone, -⟩
      rw [hnone] at hsome
      cases hsome
  · cases hcode

end TradingSdk.Client
