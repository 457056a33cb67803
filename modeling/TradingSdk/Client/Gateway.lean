import TradingSdk.Client.TxResult
import TradingSdk.Core.Governance

namespace TradingSdk.Client

open Json Serde

/-- The digits in front of a text and what follows them. -/
def spanDigits (digitValue : Nat → Option Nat) : Text → List Nat × Text
  | [] => ([], [])
  | c :: cs =>
    match digitValue c with
    | none => ([], c :: cs)
    | some d => (d :: (spanDigits digitValue cs).1, (spanDigits digitValue cs).2)

/-- The digits that `^(\d+):\s` finds, for a notion of digit and of white space. -/
def leadingDigits (digitValue : Nat → Option Nat) (isSpace : Nat → Bool) (s : Text) :
    Option (List Nat) :=
  match spanDigits digitValue s with
  | ([], _) => none
  | (digits, colon :: space :: _) => if colon = 58 ∧ isSpace space then some digits else none
  | _ => none

def asciiDigit (c : Nat) : Option Nat := if 48 ≤ c ∧ c ≤ 57 then some (c - 48) else none

/-- `\s` of an ECMAScript pattern. -/
def isJsSpace (c : Nat) : Bool :=
  (9 ≤ c && c ≤ 13) || c = 32 || c = 0xa0 || c = 0x1680 || (0x2000 ≤ c && c ≤ 0x200a) ||
    c = 0x2028 || c = 0x2029 || c = 0x202f || c = 0x205f || c = 0x3000 || c = 0xfeff

/-- `parseLeadingErrorCode`. Digits beyond the range of the doubles are no code. -/
def parseLeadingErrorCode (s : Text) : Option Double :=
  match (leadingDigits asciiDigit isJsSpace s).map fun digits => Double.ofRat (ofDecimal digits) with
  | some (.finite q) => some (.finite q)
  | _ => none

/-- What the transport delivers. -/
structure Response where
  status : Nat
  statusText : String
  body : String

def Response.isOk (res : Response) : Bool := 200 ≤ res.status && res.status ≤ 299

structure GatewayBody where
  json : Option Value := none
  error : Option Text := none
  raw : Option Text := none

/-- `JSON.parse`. -/
def jsonParse (raw : String) : Option Value := (parse .standard raw.toList).toOption

/-- The `error` member of an object, when it is a string. -/
def errorText (json : Value) : Option Text :=
  match json.get "error" with
  | some (.string s) => some s
  | _ => none

def readGatewayBody (raw : String) : GatewayBody :=
  if raw = "" then {}
  else match jsonParse raw with
    | some json => { json := some json, error := errorText json, raw := some (text raw) }
    | none => { raw := some (text raw) }

def GatewayBody.member (b : GatewayBody) (name : String) : Option Value :=
  b.json.bind fun json => json.get name

/-- The message of an answer without code and hash. The member is used as it is, not the text
that `readGatewayBody` made sure of. -/
def GatewayBody.errMsg (b : GatewayBody) : Option Value :=
  coalesce (b.member "error") (some (.string (b.raw.getD (text "unknown gateway error"))))

def hexDigits (b : UInt8) : Text :=
  [text "0123456789ABCDEF" |>.getD (b.toNat / 16) 0, text "0123456789ABCDEF" |>.getD (b.toNat % 16) 0]

section Submit

variable (sha256 : Bytes → ContentHash)

def computeCometTxHash (txBytes : Bytes) : Text := (sha256 txBytes).1.flatMap hexDigits

/-- The 2xx half of `submitViaGateway`. -/
def gatewayAnswer (b : GatewayBody) (txBytes : Bytes) : Except ClientError TxResult :=
  let txHash := computeCometTxHash sha256 txBytes
  match b.member "code" with
  | some (.number code) =>
    txFromEngineCode code.toDouble
      { hash := coalesce (b.member "txHash") (some (.string txHash)), height := b.member "height",
        log := coalesce (b.member "log") (b.member "error"), events := b.member "events" }
  | _ =>
    if isText (b.member "status") "ok" then .ok (txOk { hash := some (.string txHash) })
    else if isTruthy (b.member "txHash") then
      .ok (txTimeout ((b.member "txHash").getD .null) (coalesce (b.member "error")
        (some (.string (text "gateway returned no on-chain result; reconcile by hash")))))
    else match b.errMsg with
      | some (.string errMsg) =>
        txEngineError ((parseLeadingErrorCode errMsg).getD (.finite 1))
          { log := some (.string errMsg) }
      | _ => .error .typeError

/-- `submitViaGateway` from the response on. -/
def submitViaGateway (res : Response) (txBytes : Bytes) : Except ClientError TxResult :=
  let gatewayBody := readGatewayBody res.body
  if res.status = 401 then
    .ok (txTransportError 401
      (gatewayBody.error.getD (text "unauthorized: invalid or missing X-Api-Key")))
  else if res.status = 429 then
    .ok (txTransportError 429
      ((gatewayBody.error.or gatewayBody.raw).getD (text "rate limited by gateway")))
  else if res.status = 413 then
    .ok (txTransportError 413 ((gatewayBody.error.or gatewayBody.raw).getD
      (text "request body exceeds max size (default 8192 bytes)")))
  else if 500 ≤ res.status then
    let error := gatewayBody.error.getD []
    let raw := gatewayBody.raw.getD []
    let answered := text s!"gateway error: {res.status} {res.statusText}"
    .ok (txTransportError 500
      (if error ≠ [] then text "gateway error: " ++ error
      else if raw ≠ [] then answered ++ text ": " ++ raw
      else answered))
  else if res.isOk = false then
    .ok (txTransportError 1 ((gatewayBody.error.or gatewayBody.raw).getD
      (text s!"gateway returned HTTP {res.status} {res.statusText}")))
  else gatewayAnswer sha256 gatewayBody txBytes

theorem submitViaGateway_of_isOk {res : Response} (h : res.isOk = true) (txBytes : Bytes) :
    submitViaGateway sha256 res txBytes =
      gatewayAnswer sha256 (readGatewayBody res.body) txBytes := by
  have hrange : 200 ≤ res.status ∧ res.status ≤ 299 := by
    simpa [Response.isOk] using h
  simp only [submitViaGateway]
  rw [if_neg (by omega), if_neg (by omega), if_neg (by omega), if_neg (by omega),
    if_neg (by simp [h])]

/-- Whatever is not 2xx is a transport failure under a code of its own. -/
theorem submitViaGateway_of_not_isOk {res : Response} (h : res.isOk = false) (txBytes : Bytes) :
    ∃ code log, code ≠ 0 ∧
      submitViaGateway sha256 res txBytes = .ok (txTransportError code log) := by
  simp only [submitViaGateway]
  split_ifs
  · exact ⟨401, _, by decide, rfl⟩
  · exact ⟨429, _, by decide, rfl⟩
  · exact ⟨413, _, by decide, rfl⟩
  · exact ⟨500, _, by decide, rfl⟩
  · exact ⟨500, _, by decide, rfl⟩
  · exact ⟨500, _, by decide, rfl⟩
  · exact ⟨1, _, by decide, rfl⟩

theorem gatewayAnswer_ok_iff {b : GatewayBody} {txBytes : Bytes} {r : TxResult}
    (h : gatewayAnswer sha256 b txBytes = .ok r) : r.ok = true ↔ r.outcome = .ok := by
  rw [gatewayAnswer] at h
  split at h
  · exact txFromEngineCode_ok_iff h
  · split_ifs at h
    · obtain rfl := Except.ok.inj h
      exact (txOk_coherent _).ok_iff
    · obtain rfl := Except.ok.inj h
      simp [txTimeout]
    · split at h
      · exact txEngineError_ok_iff h
      · cases h

/-- Whatever the gateway answers, the two tags of success go together. -/
theorem submitViaGateway_ok_iff {res : Response} {txBytes : Bytes} {r : TxResult}
    (h : submitViaGateway sha256 res txBytes = .ok r) : r.ok = true ↔ r.outcome = .ok := by
  cases hok : res.isOk with
  | false =>
    obtain ⟨code, log, hcode, hresult⟩ := submitViaGateway_of_not_isOk sha256 hok txBytes
    rw [h] at hresult
    obtain rfl := Except.ok.inj hresult
    exact (txTransportError_coherent hcode log).ok_iff
  | true =>
    rw [submitViaGateway_of_isOk sha256 hok] at h
    exact gatewayAnswer_ok_iff sha256 h

theorem parseLeadingErrorCode_nonneg {s : Text} {q : ℚ}
    (h : parseLeadingErrorCode s = some (.finite q)) : 0 ≤ q := by
  rw [parseLeadingErrorCode] at h
  split at h
  · next r heq =>
    obtain ⟨digits, -, hdigits⟩ := Option.map_eq_some_iff.mp heq
    obtain rfl := Double.finite.inj (Option.some.inj h)
    exact Double.ofRat_nonneg (Nat.cast_nonneg _) hdigits
  · cases h

/-- The kinds of 2xx bodies that the client reports as its result type documents. -/
def CoherentAnswer (b : GatewayBody) : Prop :=
  match b.member "code" with
  | some (.number code) =>
    code.toDouble ≠ .finite (-1) ∧ (code.toDouble = .finite 50 →
      isOptionalText (coalesce (b.member "log") (b.member "error")) = true)
  | _ =>
    if isText (b.member "status") "ok" then True
    else if isTruthy (b.member "txHash") then ∃ hash, b.member "txHash" = some (.string hash)
    else ∃ s, b.errMsg = some (.string s) ∧ parseLeadingErrorCode s ≠ some (.finite 0)

theorem truthy_text_iff {v : Option Value} (h : isTruthy v = true) :
    (∃ s, v.getD .null = .string s ∧ s ≠ []) ↔ ∃ s, v = some (.string s) := by
  match v with
  | none => cases h
  | some w =>
    constructor
    · rintro ⟨s, hs, -⟩
      exact ⟨s, congrArg some hs⟩
    · rintro ⟨s, hs⟩
      obtain rfl := Option.some.inj hs
      refine ⟨s, rfl, ?_⟩
      rintro rfl
      cases h

/-- The code of the error text is not that of a timeout, and 50 comes with text. -/
theorem errorCode_coherent_iff (errMsg : Text) :
    (∃ r, txEngineError ((parseLeadingErrorCode errMsg).getD (.finite 1))
        { log := some (.string errMsg) } = .ok r ∧ r.Coherent) ↔
      parseLeadingErrorCode errMsg ≠ some (.finite 0) := by
  rw [txEngineError_coherent_iff]
  cases hcode : parseLeadingErrorCode errMsg with
  | none =>
    have hzero : Double.finite 1 ≠ .finite 0 := by simp
    have hminus : Double.finite 1 ≠ .finite (-1) := by
      rw [ne_eq, Double.finite.injEq]
      norm_num
    exact ⟨fun _ => by simp, fun _ => ⟨hzero, hminus, fun _ => rfl⟩⟩
  | some code =>
    have hminus : code ≠ .finite (-1) := by
      rintro rfl
      exact absurd (parseLeadingErrorCode_nonneg hcode) (by norm_num)
    have hsome : some code ≠ some (.finite 0) ↔ code ≠ .finite 0 := by simp
    rw [hsome, Option.getD_some]
    exact ⟨fun h => h.1, fun h => ⟨h, hminus, fun _ => rfl⟩⟩

theorem gatewayAnswer_coherent_iff (b : GatewayBody) (txBytes : Bytes) :
    (∃ r, gatewayAnswer sha256 b txBytes = .ok r ∧ r.Coherent) ↔ CoherentAnswer b := by
  rw [gatewayAnswer, CoherentAnswer]
  split
  · exact txFromEngineCode_coherent_iff _ _
  · split_ifs with hstatus hhash
    · exact ⟨fun _ => trivial, fun _ => ⟨_, rfl, txOk_coherent _⟩⟩
    · simp only [Except.ok.injEq, exists_eq_left', txTimeout_coherent_iff]
      exact truthy_text_iff hhash
    · split
      · next errMsg heq =>
        rw [errorCode_coherent_iff]
        constructor
        · exact fun h => ⟨errMsg, heq, h⟩
        · rintro ⟨s, hs, h⟩
          rw [heq] at hs
          obtain rfl := Value.string.inj (Option.some.inj hs)
          exact h
      · next hne =>
        constructor
        · rintro ⟨r, h, -⟩
          cases h
        · rintro ⟨s, hs, -⟩
          exact absurd hs (hne s)

/-- A result comes back with the tags its type documents exactly for these responses. -/
theorem submitViaGateway_coherent_iff (res : Response) (txBytes : Bytes) :
    (∃ r, submitViaGateway sha256 res txBytes = .ok r ∧ r.Coherent) ↔
      res.isOk = false ∨ CoherentAnswer (readGatewayBody res.body) := by
  cases hok : res.isOk with
  | false =>
    obtain ⟨code, log, hcode, hresult⟩ := submitViaGateway_of_not_isOk sha256 hok txBytes
    exact ⟨fun _ => .inl rfl, fun _ => ⟨_, hresult, txTransportError_coherent hcode log⟩⟩
  | true =>
    rw [submitViaGateway_of_isOk sha256 hok, gatewayAnswer_coherent_iff]
    exact ⟨.inr, fun h => h.resolve_left Bool.noConfusion⟩

end Submit

/-- An error member that is an object has no `match`. -/
theorem submitViaGateway_throws :
    ∃ res : Response, res = ⟨200, "OK", "\x7b\"error\":\x7b\x7d\x7d"⟩ ∧
      ∀ (sha256 : Bytes → ContentHash) (txBytes : Bytes),
        ¬ ∃ r, submitViaGateway sha256 res txBytes = .ok r ∧ r.Coherent := by
  refine ⟨_, rfl, fun sha256 txBytes => ?_⟩
  set res : Response := ⟨200, "OK", "\x7b\"error\":\x7b\x7d\x7d"⟩
  have hcode : ((readGatewayBody res.body).member "code").isNone = true := by decide +kernel
  have hstatus : isText ((readGatewayBody res.body).member "status") "ok" = false := by
    decide +kernel
  have hhash : isTruthy ((readGatewayBody res.body).member "txHash") = false := by
    decide +kernel
  have herror : isOptionalText (readGatewayBody res.body).errMsg = false := by decide +kernel
  rw [Option.isNone_iff_eq_none] at hcode
  rw [submitViaGateway_of_isOk sha256 (by decide), gatewayAnswer_coherent_iff, CoherentAnswer,
    hcode]
  simp only [hstatus, hhash, Bool.false_eq_true, if_false]
  rintro ⟨s, hs, -⟩
  rw [hs] at herror
  cases herror

end TradingSdk.Client
