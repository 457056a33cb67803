import TradingSdk.Json.Dialect

namespace TradingSdk.Client

open Json

/-- What a call of the TypeScript client throws: an `Error` of its own, or a `TypeError` for a
method that the value does not have. -/
inductive ClientError where
  | error (message : String)
  | typeError
  deriving DecidableEq

/-- `value === null || value === undefined` for a member that may be absent. -/
def isNullish : Option Value → Bool
  | none => true
  | some .null => true
  | _ => false

/-- `a ?? b`. -/
def coalesce (a b : Option Value) : Option Value := if isNullish a then b else a

/-- JavaScript truthiness. `JSON.parse` yields no constants. -/
def isTruthy : Option Value → Bool
  | none => false
  | some .null => false
  | some (.bool b) => b
  | some (.number n) => n.toDouble ≠ .finite 0
  | some (.constant _) => true
  | some (.string s) => !s.isEmpty
  | some (.array _) => true
  | some (.object _) => true

def isText (v : Option Value) (s : String) : Bool :=
  match v with
  | some (.string t) => t = text s
  | _ => false

theorem isText_iff {v : Option Value} {s : String} :
    isText v s = true ↔ v = some (.string (text s)) := by
  match v with
  | none => simp [isText]
  | some w => cases w <;> simp [isText]

/-- Absent, null or a string: what a caller of a string method with `?.` is safe with. -/
def isOptionalText : Option Value → Bool
  | none => true
  | some .null => true
  | some (.string _) => true
  | _ => false

structure ExecErrorInfo where
  name : String
  description : String
  deriving DecidableEq

def openInterestLimitExceeded : ExecErrorInfo where
  name := "OpenInterestLimitExceeded"
  description := "fill would push aggregate market open interest past MarketConfig.maxOpenInterest"

def slippageExceeded : ExecErrorInfo where
  name := "SlippageExceeded"
  description :=
    "atomic basket aggregate slippage exceeded the submitted maxSlippageBps budget"

def ambiguousCode50 : ExecErrorInfo where
  name := "AmbiguousCode50"
  description :=
    "during the rolling upgrade, engine code 50 may mean legacy OpenInterestLimitExceeded or " ++
      "current SlippageExceeded; a canonical non-empty DeliverTx log is required to classify it " ++
      "safely"

def openInterestLogPrefix : String := "open interest limit exceeded on market "

def slippageLogPrefix : String := "atomic basket aggregate slippage "

def errorTable : List (Nat × ExecErrorInfo) :=
  [(1, ⟨"DecodeError", "transaction decode error"⟩),
   (2, ⟨"OrderNotFound", "order not found"⟩),
   (3, ⟨"NotOwner", "not the owner of the order"⟩),
   (4, ⟨"UnauthorizedOracle", "unauthorized oracle signer"⟩),
   (5, ⟨"Overflow", "arithmetic overflow"⟩),
   (6, ⟨"InvalidPrice", "invalid price"⟩),
   (7, ⟨"InvalidQuantity", "invalid quantity"⟩),
   (8, ⟨"InvalidSide", "invalid side"⟩),
   (9, ⟨"UnknownMarket", "unknown market"⟩),
   (10, ⟨"StateCorruption", "engine state corruption"⟩),
   (11, ⟨"InsufficientBalance", "insufficient balance"⟩),
   (12, ⟨"InsufficientMargin", "post-trade equity below initial margin requirement"⟩),
   (13, ⟨"UnauthorizedRelayer", "unauthorized relayer signer"⟩),
   (14, ⟨"WithdrawalNotFound", "withdrawal not found"⟩),
   (15, ⟨"WithdrawalAlreadyProcessed", "withdrawal already processed"⟩),
   (16, ⟨"DuplicateDeposit", "duplicate deposit signature (replay protection)"⟩),
   (17, ⟨"InvalidSignature", "invalid Ed25519 signature"⟩),
   (18, ⟨"SignatureRequired", "signed (V2) envelope required"⟩),
   (19, ⟨"AgentNotAuthorized", "signer is not the owner or an authorized agent"⟩),
   (20, ⟨"AgentCannotWithdraw", "agent wallets cannot perform withdrawals"⟩),
   (21, ⟨"InvalidNonce",
     "timestamp nonce failed replay-window validation — sign a fresh envelope"⟩),
   (22, ⟨"MarketAlreadyExists", "market already exists"⟩),
   (23, ⟨"InvalidMarketConfig", "invalid market configuration"⟩),
   (24, ⟨"ImpactMarketAlreadyExists", "impact market already exists"⟩),
   (25, ⟨"ImpactMarketNotFound", "impact market not found"⟩),
   (26, ⟨"MarketClosedForTrading",
     "order on a CP/binary book whose parent impact market is resolved or voided"⟩),
   (27, ⟨"BinaryPriceOutOfRange",
     "prediction-binary order price outside the [0, 1_000_000] (= $1) range"⟩),
   (28, ⟨"InvalidResolution", "ResolveEvent rejected — invalid outcome for current state"⟩),
   (29, ⟨"PositionLimitExceeded",
     "fill would push the taker's net position past MarketConfig.max_position_size"⟩),
   (30, ⟨"OracleTimestampNotMonotonic",
     "OracleUpdate publish_time_ms must be strictly greater than the last accepted update " ++
      "(audit B3)"⟩),
   (31, ⟨"TooManyActiveImpactMarkets",
     "account would touch more impact markets than the scenario margin engine can enumerate " ++
      "(cap = 4)"⟩),
   (32, ⟨"SettlementPriceMismatch",
     "net-delta margin grouping found legs of the same group with disagreeing settle prices " ++
      "(upstream data corruption)"⟩),
   (33, ⟨"OracleNotApplicable",
     "OracleUpdate targets a market kind that doesn't take oracle prices (impact-family " ++
      "children mark off the book)"⟩),
   (34, ⟨"PostOnlyWouldCross",
     "post-only order would have crossed the book — rejected to preserve maker semantics"⟩),
   (35, ⟨"ReduceOnlyWouldIncrease",
     "reduce-only order would have increased the position rather than reducing it"⟩),
   (36, ⟨"TestActionRejected",
     "test/admin action rejected (unauthorized signer or engine not configured to accept them)"⟩),
   (37, ⟨"StaleOracle",
     "oracle for this market is older than MarketConfig.mark_price_max_oracle_age_ms; order " ++
      "placement, margin, and liquidation refuse to use a stale oracle (BE-33)"⟩),
   (38, ⟨"UserLeverageBelowMarketIm",
     "SetUserMarketLeverage rejected: user_im_bps below market.im_bps. The engine only allows " ++
      "users to deleverage (more margin), never the other direction (BE-16)"⟩),
   (39, ⟨"TickSizeViolation",
     "PlaceOrder price is not a multiple of MarketConfig.tickSize (BE-48)"⟩),
   (40, ⟨"LotSizeViolation",
     "PlaceOrder/MarketOrder quantity is not a multiple of MarketConfig.lotSize (BE-48)"⟩),
   (41, ⟨"OracleStaleNotElapsed",
     "fallback oracle signer published before the primary's staleness window elapsed (BE-50)"⟩),
   (42, ⟨"FeeBpsOutOfRange", "fee bps value outside the [0, 10_000] basis-point range"⟩),
   (43, ⟨"FeeOverrideStaleSeq",
     "fee override rejected — seq not strictly greater than last accepted"⟩),
   (44, ⟨"ClientOrderIdNotFound",
     "cancel-by-client-order-id rejected because no active resting order exists for that " ++
      "owner/clientOrderId pair"⟩),
   (45, ⟨"DuplicateClientOrderId",
     "place order rejected because an active resting order already uses that " ++
      "owner/clientOrderId pair"⟩),
   (46, ⟨"InvalidClientOrderId",
     "clientOrderId 0 is reserved for absent IDs in exchange events; submit a positive 64-bit " ++
      "value"⟩),
   (47, ⟨"FillOrKillWouldNotFill",
     "FOK place order rejected because visible crossing liquidity could not fill the whole " ++
      "order immediately"⟩),
   (48, ⟨"InvalidCancelReplaceTarget",
     "cancel-replace rejected because exactly one of cancelOrderId or cancelClientOrderId must " ++
      "be supplied"⟩),
   (49, ⟨"AmendBelowFilled",
     "amended total quantity is below the quantity already filled while the order rested"⟩),
   (51, openInterestLimitExceeded),
   (52, ⟨"AdminGovernanceInactive",
     "admin governance action submitted while no admin signer registry exists on this chain; " ++
      "multisig administration is inactive and every governance path fails closed"⟩),
   (53, ⟨"NotAdminSigner",
     "tx signer does not match the action's declared proposer/approver/rejecter/signer field, " ++
      "or is not a member of the current admin signer registry"⟩),
   (255, ⟨"InternalError", "unexpected runtime failure"⟩)]

/-- `log?.startsWith(..)`. -/
def logStartsWith (log : Option Value) (word : String) : Except ClientError Bool :=
  match log with
  | none => .ok false
  | some .null => .ok false
  | some (.string s) => .ok ((text word).isPrefixOf s)
  | _ => .error .typeError

/-- The entry of the table for a code. Code 50 is ambiguous without its log. -/
def decodeExecError (code : Double) (log : Option Value) :
    Except ClientError (Option ExecErrorInfo) :=
  if code = .finite 0 then .ok none
  else if code = .finite 50 then
    (logStartsWith log openInterestLogPrefix).bind fun openInterest =>
    if openInterest then .ok (some openInterestLimitExceeded)
    else (logStartsWith log slippageLogPrefix).bind fun slippage =>
      .ok (some (if slippage then slippageExceeded else ambiguousCode50))
  else .ok ((errorTable.find? fun entry => Double.finite entry.1 = code).map Prod.snd)

theorem logStartsWith_isOk (log : Option Value) (word : String) :
    (∃ b, logStartsWith log word = .ok b) ↔ isOptionalText log = true := by
  match log with
  | none => exact ⟨fun _ => rfl, fun _ => ⟨_, rfl⟩⟩
  | some v => cases v <;> simp [logStartsWith, isOptionalText]

theorem decodeExecError_isOk (code : Double) (log : Option Value) :
    (∃ info, decodeExecError code log = .ok info) ↔
      (code = .finite 50 → isOptionalText log = true) := by
  rw [decodeExecError]
  split_ifs with hzero hfifty
  · subst hzero
    exact ⟨fun _ h => absurd (Double.finite.inj h) (by norm_num), fun _ => ⟨_, rfl⟩⟩
  · constructor
    · rintro ⟨info, h⟩ -
      cases hlog : logStartsWith log openInterestLogPrefix with
      | error e =>
        rw [hlog] at h
        cases h
      | ok b => exact (logStartsWith_isOk _ _).mp ⟨b, hlog⟩
    · intro h
      obtain ⟨b, hopen⟩ := (logStartsWith_isOk log openInterestLogPrefix).mpr (h hfifty)
      obtain ⟨b', hslippage⟩ := (logStartsWith_isOk log slippageLogPrefix).mpr (h hfifty)
      rw [hopen, hslippage]
      cases b
      · exact ⟨_, rfl⟩
      · exact ⟨_, rfl⟩
  · exact ⟨fun _ h => absurd h hfifty, fun _ => ⟨_, rfl⟩⟩

inductive TxOutcome where
  | ok
  | engine
  | transport
  | timeout
  deriving DecidableEq

/-- The result of a submission. Members that the client copies from JSON are untyped. -/
structure TxResult where
  ok : Bool
  outcome : TxOutcome
  code : Double
  error : Option ExecErrorInfo
  hash : Value
  height : Option Value
  log : Option Value
  events : Option Value

structure TxResultBody where
  hash : Option Value := none
  height : Option Value := none
  log : Option Value := none
  events : Option Value := none

/-- `body.hash ?? ""`. -/
def TxResultBody.hashOrEmpty (body : TxResultBody) : Value :=
  if isNullish body.hash then .string [] else body.hash.getD (.string [])

def txOk (body : TxResultBody) : TxResult where
  ok := true
  outcome := .ok
  code := .finite 0
  error := none
  hash := body.hashOrEmpty
  height := body.height
  log := body.log
  events := body.events

def txEngineError (code : Double) (body : TxResultBody) : Except ClientError TxResult :=
  (decodeExecError code body.log).map fun error =>
    { ok := false, outcome := .engine, code, error, hash := body.hashOrEmpty,
      height := body.height, log := body.log, events := body.events }

def txTransportError (code : Nat) (log : Text) : TxResult where
  ok := false
  outcome := .transport
  code := .finite code
  error := none
  hash := .string []
  height := none
  log := some (.string log)
  events := none

def txTimeout (hash : Value) (log : Option Value) : TxResult where
  ok := false
  outcome := .timeout
  code := .finite (-1)
  error := none
  hash
  height := none
  log
  events := none

def txFromEngineCode (code : Double) (body : TxResultBody) : Except ClientError TxResult :=
  if code = .finite 0 then .ok (txOk body) else txEngineError code body

/-- What the documentation of the result type promises of its tags. -/
structure TxResult.Coherent (r : TxResult) : Prop where
  ok_iff : r.ok = true ↔ r.outcome = .ok
  code_zero : r.outcome = .ok ↔ r.code = .finite 0
  timeout_iff : r.outcome = .timeout ↔ r.code = .finite (-1)
  timeout_hash : r.outcome = .timeout → ∃ s, r.hash = .string s ∧ s ≠ []
  error_engine : r.error ≠ none → r.outcome = .engine
  engine_code : r.outcome = .engine → r.code ≠ .finite 0 ∧ r.code ≠ .finite (-1)

theorem txOk_coherent (body : TxResultBody) : (txOk body).Coherent := by
  constructor <;> simp [txOk]

theorem txTransportError_coherent {code : Nat} (h : code ≠ 0) (log : Text) :
    (txTransportError code log).Coherent := by
  have hne : (code : ℚ) ≠ -1 := by
    have hnonneg : (0 : ℚ) ≤ code := Nat.cast_nonneg code
    linarith
  constructor <;> simp [txTransportError, h, hne]

theorem txTimeout_coherent_iff (hash : Value) (log : Option Value) :
    (txTimeout hash log).Coherent ↔ ∃ s, hash = .string s ∧ s ≠ [] := by
  refine ⟨fun h => h.timeout_hash rfl, fun h => ?_⟩
  constructor <;> simp [txTimeout, h]

theorem txEngineError_ok_iff {code : Double} {body : TxResultBody} {r : TxResult}
    (h : txEngineError code body = .ok r) : r.ok = true ↔ r.outcome = .ok := by
  rw [txEngineError] at h
  cases hdecode : decodeExecError code body.log with
  | error e =>
    rw [hdecode] at h
    cases h
  | ok info =>
    rw [hdecode] at h
    obtain rfl := Except.ok.inj h
    simp

/-- Code 50 needs a log that is text, and an engine error with the code of another outcome is
incoherent. -/
theorem txEngineError_coherent_iff (code : Double) (body : TxResultBody) :
    (∃ r, txEngineError code body = .ok r ∧ r.Coherent) ↔
      code ≠ .finite 0 ∧ code ≠ .finite (-1) ∧
        (code = .finite 50 → isOptionalText body.log = true) := by
  constructor
  · rintro ⟨r, hr, hcoherent⟩
    rw [txEngineError] at hr
    cases hdecode : decodeExecError code body.log with
    | error e =>
      rw [hdecode] at hr
      cases hr
    | ok info =>
      rw [hdecode] at hr
      obtain rfl := Except.ok.inj hr
      obtain ⟨hzero, hminus⟩ := hcoherent.engine_code rfl
      exact ⟨hzero, hminus, (decodeExecError_isOk code body.log).mp ⟨info, hdecode⟩⟩
  · rintro ⟨hzero, hminus, hlog⟩
    obtain ⟨info, hdecode⟩ := (decodeExecError_isOk code body.log).mpr hlog
    rw [txEngineError, hdecode]
    refine ⟨_, rfl, ?_⟩
    constructor <;> simp [hzero, hminus]

theorem txFromEngineCode_ok_iff {code : Double} {body : TxResultBody} {r : TxResult}
    (h : txFromEngineCode code body = .ok r) : r.ok = true ↔ r.outcome = .ok := by
  rw [txFromEngineCode] at h
  split_ifs at h
  · obtain rfl := Except.ok.inj h
    exact (txOk_coherent body).ok_iff
  · exact txEngineError_ok_iff h

theorem txFromEngineCode_coherent_iff (code : Double) (body : TxResultBody) :
    (∃ r, txFromEngineCode code body = .ok r ∧ r.Coherent) ↔
      code ≠ .finite (-1) ∧ (code = .finite 50 → isOptionalText body.log = true) := by
  rw [txFromEngineCode]
  split_ifs with hzero
  · subst hzero
    have hminus : Double.finite 0 ≠ .finite (-1) := by simp
    have hfifty : Double.finite 0 ≠ .finite 50 := by simp
    exact ⟨fun _ => ⟨hminus, fun h => absurd h hfifty⟩, fun _ => ⟨_, rfl, txOk_coherent body⟩⟩
  · rw [txEngineError_coherent_iff]
    exact and_iff_right hzero

end TradingSdk.Client
