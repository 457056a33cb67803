import Mathlib.Data.List.Nodup
import TradingSdk.Errors.ExecError

namespace TradingSdk.Errors

open Display (display)

/-- A row of the manifest. The four nonce errors share one. -/
inductive ErrorKind where
  | decodeError
  | orderNotFound
  | notOwner
  | unauthorizedOracle
  | overflow
  | invalidPrice
  | invalidQuantity
  | invalidSide
  | unknownMarket
  | stateCorruption
  | insufficientBalance
  | insufficientMargin
  | unauthorizedRelayer
  | withdrawalNotFound
  | withdrawalAlreadyProcessed
  | duplicateDeposit
  | invalidSignature
  | signatureRequired
  | agentNotAuthorized
  | agentCannotWithdraw
  | invalidNonce
  | marketAlreadyExists
  | invalidMarketConfig
  | impactMarketAlreadyExists
  | impactMarketNotFound
  | marketClosedForTrading
  | binaryPriceOutOfRange
  | invalidResolution
  | positionLimitExceeded
  | oracleTimestampNotMonotonic
  | tooManyActiveImpactMarkets
  | settlementPriceMismatch
  | oracleNotApplicable
  | postOnlyWouldCross
  | reduceOnlyWouldIncrease
  | testActionRejected
  | staleOracle
  | userLeverageBelowMarketIm
  | tickSizeViolation
  | lotSizeViolation
  | oracleStaleNotElapsed
  | feeBpsOutOfRange
  | feeOverrideStaleSeq
  | clientOrderIdNotFound
  | duplicateClientOrderId
  | invalidClientOrderId
  | fillOrKillWouldNotFill
  | invalidCancelReplaceTarget
  | amendBelowFilled
  | slippageExceeded
  | openInterestLimitExceeded
  | adminGovernanceInactive
  | notAdminSigner
  | internalError
  deriving DecidableEq

def ErrorKind.code : ErrorKind → UInt32
  | .decodeError => 1
  | .orderNotFound => 2
  | .notOwner => 3
  | .unauthorizedOracle => 4
  | .overflow => 5
  | .invalidPrice => 6
  | .invalidQuantity => 7
  | .invalidSide => 8
  | .unknownMarket => 9
  | .stateCorruption => 10
  | .insufficientBalance => 11
  | .insufficientMargin => 12
  | .unauthorizedRelayer => 13
  | .withdrawalNotFound => 14
  | .withdrawalAlreadyProcessed => 15
  | .duplicateDeposit => 16
  | .invalidSignature => 17
  | .signatureRequired => 18
  | .agentNotAuthorized => 19
  | .agentCannotWithdraw => 20
  | .invalidNonce => 21
  | .marketAlreadyExists => 22
  | .invalidMarketConfig => 23
  | .impactMarketAlreadyExists => 24
  | .impactMarketNotFound => 25
  | .marketClosedForTrading => 26
  | .binaryPriceOutOfRange => 27
  | .invalidResolution => 28
  | .positionLimitExceeded => 29
  | .oracleTimestampNotMonotonic => 30
  | .tooManyActiveImpactMarkets => 31
  | .settlementPriceMismatch => 32
  | .oracleNotApplicable => 33
  | .postOnlyWouldCross => 34
  | .reduceOnlyWouldIncrease => 35
  | .testActionRejected => 36
  | .staleOracle => 37
  | .userLeverageBelowMarketIm => 38
  | .tickSizeViolation => 39
  | .lotSizeViolation => 40
  | .oracleStaleNotElapsed => 41
  | .feeBpsOutOfRange => 42
  | .feeOverrideStaleSeq => 43
  | .clientOrderIdNotFound => 44
  | .duplicateClientOrderId => 45
  | .invalidClientOrderId => 46
  | .fillOrKillWouldNotFill => 47
  | .invalidCancelReplaceTarget => 48
  | .amendBelowFilled => 49
  | .slippageExceeded => 50
  | .openInterestLimitExceeded => 51
  | .adminGovernanceInactive => 52
  | .notAdminSigner => 53
  | .internalError => 255

def ErrorKind.name : ErrorKind → String
  | .decodeError => "DecodeError"
  | .orderNotFound => "OrderNotFound"
  | .notOwner => "NotOwner"
  | .unauthorizedOracle => "UnauthorizedOracle"
  | .overflow => "Overflow"
  | .invalidPrice => "InvalidPrice"
  | .invalidQuantity => "InvalidQuantity"
  | .invalidSide => "InvalidSide"
  | .unknownMarket => "UnknownMarket"
  | .stateCorruption => "StateCorruption"
  | .insufficientBalance => "InsufficientBalance"
  | .insufficientMargin => "InsufficientMargin"
  | .unauthorizedRelayer => "UnauthorizedRelayer"
  | .withdrawalNotFound => "WithdrawalNotFound"
  | .withdrawalAlreadyProcessed => "WithdrawalAlreadyProcessed"
  | .duplicateDeposit => "DuplicateDeposit"
  | .invalidSignature => "InvalidSignature"
  | .signatureRequired => "SignatureRequired"
  | .agentNotAuthorized => "AgentNotAuthorized"
  | .agentCannotWithdraw => "AgentCannotWithdraw"
  | .invalidNonce => "InvalidNonce"
  | .marketAlreadyExists => "MarketAlreadyExists"
  | .invalidMarketConfig => "InvalidMarketConfig"
  | .impactMarketAlreadyExists => "ImpactMarketAlreadyExists"
  | .impactMarketNotFound => "ImpactMarketNotFound"
  | .marketClosedForTrading => "MarketClosedForTrading"
  | .binaryPriceOutOfRange => "BinaryPriceOutOfRange"
  | .invalidResolution => "InvalidResolution"
  | .positionLimitExceeded => "PositionLimitExceeded"
  | .oracleTimestampNotMonotonic => "OracleTimestampNotMonotonic"
  | .tooManyActiveImpactMarkets => "TooManyActiveImpactMarkets"
  | .settlementPriceMismatch => "SettlementPriceMismatch"
  | .oracleNotApplicable => "OracleNotApplicable"
  | .postOnlyWouldCross => "PostOnlyWouldCross"
  | .reduceOnlyWouldIncrease => "ReduceOnlyWouldIncrease"
  | .testActionRejected => "TestActionRejected"
  | .staleOracle => "StaleOracle"
  | .userLeverageBelowMarketIm => "UserLeverageBelowMarketIm"
  | .tickSizeViolation => "TickSizeViolation"
  | .lotSizeViolation => "LotSizeViolation"
  | .oracleStaleNotElapsed => "OracleStaleNotElapsed"
  | .feeBpsOutOfRange => "FeeBpsOutOfRange"
  | .feeOverrideStaleSeq => "FeeOverrideStaleSeq"
  | .clientOrderIdNotFound => "ClientOrderIdNotFound"
  | .duplicateClientOrderId => "DuplicateClientOrderId"
  | .invalidClientOrderId => "InvalidClientOrderId"
  | .fillOrKillWouldNotFill => "FillOrKillWouldNotFill"
  | .invalidCancelReplaceTarget => "InvalidCancelReplaceTarget"
  | .amendBelowFilled => "AmendBelowFilled"
  | .slippageExceeded => "SlippageExceeded"
  | .openInterestLimitExceeded => "OpenInterestLimitExceeded"
  | .adminGovernanceInactive => "AdminGovernanceInactive"
  | .notAdminSigner => "NotAdminSigner"
  | .internalError => "InternalError"

def errorKinds : List ErrorKind :=
  [.decodeError, .orderNotFound, .notOwner, .unauthorizedOracle, .overflow, .invalidPrice,
   .invalidQuantity, .invalidSide, .unknownMarket, .stateCorruption, .insufficientBalance,
   .insufficientMargin, .unauthorizedRelayer, .withdrawalNotFound, .withdrawalAlreadyProcessed,
   .duplicateDeposit, .invalidSignature, .signatureRequired, .agentNotAuthorized,
   .agentCannotWithdraw, .invalidNonce, .marketAlreadyExists, .invalidMarketConfig,
   .impactMarketAlreadyExists, .impactMarketNotFound, .marketClosedForTrading,
   .binaryPriceOutOfRange, .invalidResolution, .positionLimitExceeded,
   .oracleTimestampNotMonotonic, .tooManyActiveImpactMarkets, .settlementPriceMismatch,
   .oracleNotApplicable, .postOnlyWouldCross, .reduceOnlyWouldIncrease, .testActionRejected,
   .staleOracle, .userLeverageBelowMarketIm, .tickSizeViolation, .lotSizeViolation,
   .oracleStaleNotElapsed, .feeBpsOutOfRange, .feeOverrideStaleSeq, .clientOrderIdNotFound,
   .duplicateClientOrderId, .invalidClientOrderId, .fillOrKillWouldNotFill,
   .invalidCancelReplaceTarget, .amendBelowFilled, .slippageExceeded, .openInterestLimitExceeded,
   .adminGovernanceInactive, .notAdminSigner, .internalError]

/-- Engines of both generations use code 50, so that a code alone says nothing about it. -/
inductive DecodedExecErrorKind where
  | known (kind : ErrorKind)
  | slippageExceeded
  | legacyOpenInterestLimitExceeded
  | ambiguousCode50
  deriving DecidableEq

def DecodedExecErrorKind.code : DecodedExecErrorKind → UInt32
  | .known kind => kind.code
  | .slippageExceeded | .legacyOpenInterestLimitExceeded | .ambiguousCode50 => 50

def DecodedExecErrorKind.name : DecodedExecErrorKind → String
  | .known kind => kind.name
  | .slippageExceeded => "SlippageExceeded"
  | .legacyOpenInterestLimitExceeded => "OpenInterestLimitExceeded"
  | .ambiguousCode50 => "AmbiguousCode50"

/-- `str::starts_with`. -/
def startsWith (s word : String) : Bool := word.toList.isPrefixOf s.toList

/-- How the log of an error with code 50 is read. -/
def decodeCode50 : Option String → DecodedExecErrorKind
  | none => .ambiguousCode50
  | some log =>
    if startsWith log "open interest limit exceeded on market " then
      .legacyOpenInterestLimitExceeded
    else if startsWith log "atomic basket aggregate slippage " then .slippageExceeded
    else .ambiguousCode50

def decodeExecErrorKind (code : UInt32) (log : Option String) : Option DecodedExecErrorKind :=
  if code = 0 then none
  else if code = 50 then some (decodeCode50 log)
  else (errorKinds.find? fun kind => kind.code = code).map .known

/-- The row under which an error is listed. -/
def ExecError.kind : ExecError → ErrorKind
  | .decodeError _ => .decodeError
  | .orderNotFound _ => .orderNotFound
  | .notOwner _ => .notOwner
  | .unauthorizedOracle => .unauthorizedOracle
  | .overflow => .overflow
  | .invalidPrice => .invalidPrice
  | .invalidQuantity => .invalidQuantity
  | .invalidSide => .invalidSide
  | .unknownMarket _ => .unknownMarket
  | .insufficientBalance => .insufficientBalance
  | .insufficientMargin => .insufficientMargin
  | .stateCorruption _ => .stateCorruption
  | .internalError _ => .internalError
  | .unauthorizedRelayer => .unauthorizedRelayer
  | .withdrawalNotFound _ => .withdrawalNotFound
  | .withdrawalAlreadyProcessed _ => .withdrawalAlreadyProcessed
  | .duplicateDeposit => .duplicateDeposit
  | .invalidSignature => .invalidSignature
  | .signatureRequired => .signatureRequired
  | .agentNotAuthorized => .agentNotAuthorized
  | .agentCannotWithdraw => .agentCannotWithdraw
  | .nonceTooOld .. | .nonceTooFarFuture .. | .nonceReplay .. | .nonceBelowOldest .. => .invalidNonce
  | .marketAlreadyExists _ => .marketAlreadyExists
  | .invalidMarketConfig _ => .invalidMarketConfig
  | .impactMarketAlreadyExists _ => .impactMarketAlreadyExists
  | .impactMarketNotFound _ => .impactMarketNotFound
  | .marketClosedForTrading _ => .marketClosedForTrading
  | .binaryPriceOutOfRange => .binaryPriceOutOfRange
  | .invalidResolution _ => .invalidResolution
  | .positionLimitExceeded .. => .positionLimitExceeded
  | .oracleTimestampNotMonotonic .. => .oracleTimestampNotMonotonic
  | .tooManyActiveImpactMarkets .. => .tooManyActiveImpactMarkets
  | .settlementPriceMismatch .. => .settlementPriceMismatch
  | .oracleNotApplicable _ => .oracleNotApplicable
  | .postOnlyWouldCross => .postOnlyWouldCross
  | .reduceOnlyWouldIncrease => .reduceOnlyWouldIncrease
  | .testActionRejected _ => .testActionRejected
  | .feeBpsOutOfRange _ => .feeBpsOutOfRange
  | .feeOverrideStaleSeq .. => .feeOverrideStaleSeq
  | .tickSizeViolation .. => .tickSizeViolation
  | .lotSizeViolation .. => .lotSizeViolation
  | .oracleStaleNotElapsed .. => .oracleStaleNotElapsed
  | .staleOracle .. => .staleOracle
  | .userLeverageBelowMarketIm .. => .userLeverageBelowMarketIm
  | .clientOrderIdNotFound _ => .clientOrderIdNotFound
  | .duplicateClientOrderId _ => .duplicateClientOrderId
  | .invalidClientOrderId _ => .invalidClientOrderId
  | .fillOrKillWouldNotFill .. => .fillOrKillWouldNotFill
  | .invalidCancelReplaceTarget => .invalidCancelReplaceTarget
  | .amendBelowFilled .. => .amendBelowFilled
  | .slippageExceeded .. => .slippageExceeded
  | .openInterestLimitExceeded .. => .openInterestLimitExceeded
  | .adminGovernanceInactive => .adminGovernanceInactive
  | .notAdminSigner => .notAdminSigner

theorem ExecError.code_kind (e : ExecError) : e.kind.code = e.code := by
  cases e <;> rfl

theorem ErrorKind.mem_errorKinds (kind : ErrorKind) : kind ∈ errorKinds := by
  cases kind <;> decide

theorem ErrorKind.code_injective : Function.Injective ErrorKind.code := by
  have hnodup : (errorKinds.map ErrorKind.code).Nodup := by decide
  intro a b h
  exact List.inj_on_of_nodup_map hnodup a.mem_errorKinds b.mem_errorKinds h

/-- The first row of a code is its only one. -/
theorem find_code (kind : ErrorKind) :
    errorKinds.find? (fun other => other.code = kind.code) = some kind := by
  cases h : errorKinds.find? (fun other => other.code = kind.code) with
  | none =>
    have hnone := List.find?_eq_none.mp h kind kind.mem_errorKinds
    simp at hnone
  | some other =>
    have hcode : other.code = kind.code := by simpa using List.find?_some h
    rw [ErrorKind.code_injective hcode]

theorem ErrorKind.code_ne_zero (kind : ErrorKind) : kind.code ≠ 0 := by
  cases kind <;> decide

theorem exists_kind {code : UInt32} (hlo : 1 ≤ code.toNat) (hhi : code.toNat ≤ 53) :
    ∃ kind : ErrorKind, kind.code = code := by
  have hall : ∀ n, 1 ≤ n → n ≤ 53 → ∃ kind ∈ errorKinds, kind.code.toNat = n := by decide
  obtain ⟨kind, -, hkind⟩ := hall code.toNat hlo hhi
  exact ⟨kind, UInt32.toNat_inj.mp hkind⟩

theorem ErrorKind.code_range (kind : ErrorKind) :
    1 ≤ kind.code.toNat ∧ kind.code.toNat ≤ 53 ∨ kind.code = 255 := by
  cases kind <;> decide

/-- The codes without a row are zero and those beyond 53 other than the last one. -/
theorem find_code_eq_none_iff (code : UInt32) :
    errorKinds.find? (fun kind => kind.code = code) = none ↔
      code = 0 ∨ 53 < code.toNat ∧ code ≠ 255 := by
  constructor
  · intro h
    have hne : ∀ kind : ErrorKind, kind.code ≠ code := by
      intro kind
      simpa using List.find?_eq_none.mp h kind kind.mem_errorKinds
    by_cases hhi : code.toNat ≤ 53
    · by_cases hlo : 1 ≤ code.toNat
      · obtain ⟨kind, hkind⟩ := exists_kind hlo hhi
        exact absurd hkind (hne kind)
      · left
        apply UInt32.toNat_inj.mp
        simp
        omega
    · exact .inr ⟨by omega, (hne .internalError).symm⟩
  · intro h
    rw [List.find?_eq_none]
    intro kind _ hkind
    have hcode : kind.code = code := by simpa using hkind
    obtain hzero | ⟨hhi, hlast⟩ := h
    · exact kind.code_ne_zero (hcode.trans hzero)
    · obtain hrange | hrange := kind.code_range
      · rw [hcode] at hrange
        omega
      · exact hlast (hcode.symm.trans hrange)

theorem decodeExecErrorKind_eq_none_iff (code : UInt32) (log : Option String) :
    decodeExecErrorKind code log = none ↔ code = 0 ∨ 53 < code.toNat ∧ code ≠ 255 := by
  rw [decodeExecErrorKind]
  split_ifs with hzero hfifty
  · simp [hzero]
  · subst hfifty
    simp
  · rw [Option.map_eq_none_iff, find_code_eq_none_iff]

/-- The code is never lost. -/
theorem decodeExecErrorKind_code {code : UInt32} {log : Option String} {d : DecodedExecErrorKind}
    (h : decodeExecErrorKind code log = some d) : d.code = code := by
  rw [decodeExecErrorKind] at h
  split_ifs at h with hzero hfifty
  · obtain rfl := Option.some.inj h
    have hcode50 : ∀ log, (decodeCode50 log).code = 50 := by
      intro log
      unfold decodeCode50
      split
      · rfl
      · split_ifs <;> rfl
    exact (hcode50 log).trans hfifty.symm
  · obtain ⟨kind, hkind, rfl⟩ := Option.map_eq_some_iff.mp h
    have hcode := List.find?_some hkind
    exact of_decide_eq_true hcode

theorem decodeExecErrorKind_of_kind (kind : ErrorKind) (h : kind ≠ .slippageExceeded)
    (log : Option String) : decodeExecErrorKind kind.code log = some (.known kind) := by
  have hfifty : kind.code ≠ 50 := by
    intro hcode
    exact h (ErrorKind.code_injective (hcode.trans (rfl : 50 = ErrorKind.code .slippageExceeded)))
  rw [decodeExecErrorKind, if_neg kind.code_ne_zero, if_neg hfifty, find_code]
  rfl

end TradingSdk.Errors
