import TradingSdk.Abci.Event

namespace TradingSdk.Errors

open Serde
open Display (display)

def binaryPriceMax : UInt64 := 1000000

inductive StateError where
  | decodeFailure (key : Bytes) (typeName message : String)
  | encodeFailure (key : Bytes) (typeName message : String)
  | missingRequiredKey (key : Bytes) (name : String)
  | invalidKeyLayout (key : Bytes) (message : String)
  | arithmeticInvariantViolation (name message : String)

def hexDigit (n : Nat) : Char := "0123456789abcdef".toList.getD n '0'

def formatKey (key : Bytes) : String :=
  String.ofList (key.flatMap fun byte => [hexDigit (byte.toNat / 16), hexDigit (byte.toNat % 16)])

instance : Display StateError where
  display
    | .decodeFailure key typeName message =>
      "failed to decode " ++ typeName ++ " at key 0x" ++ formatKey key ++ ": " ++ message
    | .encodeFailure key typeName message =>
      "failed to encode " ++ typeName ++ " at key 0x" ++ formatKey key ++ ": " ++ message
    | .missingRequiredKey key name =>
      "missing required state " ++ name ++ " at key 0x" ++ formatKey key
    | .invalidKeyLayout key message =>
      "invalid key layout at 0x" ++ formatKey key ++ ": " ++ message
    | .arithmeticInvariantViolation name message =>
      "arithmetic invariant violated for " ++ name ++ ": " ++ message

/-- What the engine refuses a transaction with. -/
inductive ExecError where
  | decodeError (msg : String)
  | orderNotFound (id : OrderId)
  | notOwner (id : OrderId)
  | unauthorizedOracle
  | overflow
  | invalidPrice
  | invalidQuantity
  | invalidSide
  | unknownMarket (id : MarketId)
  | insufficientBalance
  | insufficientMargin
  | stateCorruption (msg : String)
  | internalError (msg : String)
  | unauthorizedRelayer
  | withdrawalNotFound (id : UInt64)
  | withdrawalAlreadyProcessed (id : UInt64)
  | duplicateDeposit
  | invalidSignature
  | signatureRequired
  | agentNotAuthorized
  | agentCannotWithdraw
  | nonceTooOld (minAccepted got : UInt64)
  | nonceTooFarFuture (maxAccepted got : UInt64)
  | nonceReplay (nonce : UInt64)
  | nonceBelowOldest (oldest got : UInt64)
  | marketAlreadyExists (id : MarketId)
  | invalidMarketConfig (msg : String)
  | impactMarketAlreadyExists (id : ImpactMarketId)
  | impactMarketNotFound (id : ImpactMarketId)
  | marketClosedForTrading (id : MarketId)
  | binaryPriceOutOfRange
  | invalidResolution (msg : String)
  | positionLimitExceeded (market : MarketId) (limit wouldBe : UInt64)
  | oracleTimestampNotMonotonic (market : MarketId) (stored submitted : UInt64)
  | tooManyActiveImpactMarkets (current max : UInt32)
  | settlementPriceMismatch (market : MarketId) (expected got : UInt64)
  | oracleNotApplicable (market : MarketId)
  | postOnlyWouldCross
  | reduceOnlyWouldIncrease
  | testActionRejected (msg : String)
  | feeBpsOutOfRange (bps : UInt32)
  | feeOverrideStaleSeq (cmdSeq storedSeq : UInt64)
  | tickSizeViolation (market : MarketId) (tickSize price : UInt64)
  | lotSizeViolation (market : MarketId) (lotSize quantity : UInt64)
  | oracleStaleNotElapsed (market : MarketId) (lastPublishMs blockTimeMs stalenessMs : Milliseconds)
  | staleOracle (market : MarketId) (publishTimeMs blockTimeMs maxStalenessMs : Milliseconds)
  | userLeverageBelowMarketIm (market : MarketId) (userImBps marketImBps : UInt32)
  | clientOrderIdNotFound (clientOrderId : UInt64)
  | duplicateClientOrderId (clientOrderId : UInt64)
  | invalidClientOrderId (clientOrderId : UInt64)
  | fillOrKillWouldNotFill (requested available : UInt64)
  | invalidCancelReplaceTarget
  | amendBelowFilled (orderId : OrderId) (filledQuantity requestedQuantity : UInt64)
  | slippageExceeded (aggregateBps maxSlippageBps : UInt32)
  | openInterestLimitExceeded (market : MarketId) (limit wouldBe : UInt64)
  | adminGovernanceInactive
  | notAdminSigner

def ExecError.code : ExecError → UInt32
  | .decodeError _ => 1
  | .orderNotFound _ => 2
  | .notOwner _ => 3
  | .unauthorizedOracle => 4
  | .overflow => 5
  | .invalidPrice => 6
  | .invalidQuantity => 7
  | .invalidSide => 8
  | .unknownMarket _ => 9
  | .insufficientBalance => 11
  | .insufficientMargin => 12
  | .stateCorruption _ => 10
  | .unauthorizedRelayer => 13
  | .withdrawalNotFound _ => 14
  | .withdrawalAlreadyProcessed _ => 15
  | .duplicateDeposit => 16
  | .invalidSignature => 17
  | .signatureRequired => 18
  | .agentNotAuthorized => 19
  | .agentCannotWithdraw => 20
  | .nonceTooOld .. | .nonceTooFarFuture .. | .nonceReplay .. | .nonceBelowOldest .. => 21
  | .marketAlreadyExists _ => 22
  | .invalidMarketConfig _ => 23
  | .impactMarketAlreadyExists _ => 24
  | .impactMarketNotFound _ => 25
  | .marketClosedForTrading _ => 26
  | .binaryPriceOutOfRange => 27
  | .invalidResolution _ => 28
  | .positionLimitExceeded .. => 29
  | .oracleTimestampNotMonotonic .. => 30
  | .tooManyActiveImpactMarkets .. => 31
  | .settlementPriceMismatch .. => 32
  | .oracleNotApplicable .. => 33
  | .postOnlyWouldCross => 34
  | .reduceOnlyWouldIncrease => 35
  | .testActionRejected _ => 36
  | .staleOracle .. => 37
  | .userLeverageBelowMarketIm .. => 38
  | .tickSizeViolation .. => 39
  | .lotSizeViolation .. => 40
  | .oracleStaleNotElapsed .. => 41
  | .feeBpsOutOfRange .. => 42
  | .feeOverrideStaleSeq .. => 43
  | .clientOrderIdNotFound .. => 44
  | .duplicateClientOrderId .. => 45
  | .invalidClientOrderId .. => 46
  | .fillOrKillWouldNotFill .. => 47
  | .invalidCancelReplaceTarget => 48
  | .amendBelowFilled .. => 49
  | .slippageExceeded .. => 50
  | .openInterestLimitExceeded .. => 51
  | .adminGovernanceInactive => 52
  | .notAdminSigner => 53
  | .internalError _ => 255

instance : Display ExecError where
  display
    | .decodeError msg => "decode error: " ++ msg
    | .orderNotFound id => "order not found: " ++ display id
    | .notOwner id => "not owner of order: " ++ display id
    | .unauthorizedOracle => "unauthorized oracle signer"
    | .overflow => "arithmetic overflow"
    | .invalidPrice => "invalid price"
    | .invalidQuantity => "invalid quantity"
    | .invalidSide => "invalid side"
    | .unknownMarket id => "unknown market: " ++ display id
    | .insufficientBalance => "insufficient balance"
    | .insufficientMargin => "insufficient margin"
    | .stateCorruption msg => "state corruption: " ++ msg
    | .unauthorizedRelayer => "unauthorized relayer signer"
    | .withdrawalNotFound id => "withdrawal not found: " ++ display id
    | .withdrawalAlreadyProcessed id => "withdrawal already processed: " ++ display id
    | .duplicateDeposit => "duplicate deposit signature"
    | .invalidSignature => "invalid Ed25519 signature"
    | .signatureRequired => "signed transaction required"
    | .agentNotAuthorized => "signer is not owner or authorized agent"
    | .agentCannotWithdraw => "agent wallets cannot perform withdrawals"
    | .nonceTooOld minAccepted got =>
      "nonce too old: minimum accepted " ++ display minAccepted ++ ", got " ++ display got
    | .nonceTooFarFuture maxAccepted got =>
      "nonce too far in future: maximum accepted " ++ display maxAccepted ++ ", got " ++ display got
    | .nonceReplay nonce => "nonce replay: " ++ display nonce
    | .nonceBelowOldest oldest got =>
      "nonce below retained oldest: oldest " ++ display oldest ++ ", got " ++ display got
    | .marketAlreadyExists id => "market already exists: " ++ display id
    | .invalidMarketConfig msg => "invalid market config: " ++ msg
    | .impactMarketAlreadyExists id => "impact market already exists: " ++ display id
    | .impactMarketNotFound id => "impact market not found: " ++ display id
    | .marketClosedForTrading id => "market closed for trading: " ++ display id
    | .binaryPriceOutOfRange =>
      "prediction-binary price must be in [0, " ++ display binaryPriceMax ++ "]"
    | .invalidResolution msg => "invalid resolution: " ++ msg
    | .positionLimitExceeded market limit wouldBe =>
      "position limit exceeded on market " ++ display market ++ ": would be " ++ display wouldBe ++
        ", cap " ++ display limit
    | .oracleTimestampNotMonotonic market stored submitted =>
      "oracle publish_time_ms not strictly monotonic on market " ++ display market ++ ": stored " ++
        display stored ++ ", submitted " ++ display submitted ++ " (submitted must be > stored)"
    | .tooManyActiveImpactMarkets current max =>
      "too many active impact markets in basket: current " ++ display current ++ ", cap " ++
        display max
    | .settlementPriceMismatch market expected got =>
      "settle price disagreement on market " ++ display market ++ ": expected " ++
        display expected ++ " (group key), got " ++ display got
    | .oracleNotApplicable market =>
      "oracle update rejected for market " ++ display market ++ ": impact-family markets mark " ++
        "off the book directly and have no oracle layer (post 2026-04-26 redesign)"
    | .postOnlyWouldCross => "post-only order would cross the book on placement; rejected"
    | .reduceOnlyWouldIncrease =>
      "reduce-only order rejected: would increase exposure (same-side as position) or no " ++
        "position to reduce"
    | .testActionRejected msg => "test action rejected: " ++ msg
    | .feeBpsOutOfRange bps =>
      "fee out of range: " ++ display bps ++ " bps (must be in [0, 10_000])"
    | .feeOverrideStaleSeq cmdSeq storedSeq =>
      "stale fee override seq: cmd seq " ++ display cmdSeq ++ " <= stored seq " ++
        display storedSeq ++ " (replay or out-of-order tx)"
    | .tickSizeViolation market tickSize price =>
      "tick size violation on market " ++ display market ++ ": price " ++ display price ++
        " not a multiple of tick_size " ++ display tickSize
    | .lotSizeViolation market lotSize quantity =>
      "lot size violation on market " ++ display market ++ ": quantity " ++ display quantity ++
        " not a multiple of lot_size " ++ display lotSize
    | .oracleStaleNotElapsed market lastPublishMs blockTimeMs stalenessMs =>
      "oracle update from fallback signer rejected on market " ++ display market ++
        ": primary's last_publish_ms " ++ display lastPublishMs ++ " is too recent (block_time " ++
        display blockTimeMs ++ " - last_publish < staleness_ms " ++ display stalenessMs ++ ")"
    | .staleOracle market publishTimeMs blockTimeMs maxStalenessMs =>
      "oracle stale on market " ++ display market ++ ": last publish_time " ++
        display publishTimeMs ++ "ms, block time " ++ display blockTimeMs ++ "ms (age " ++
        (blockTimeMs.toNat - publishTimeMs.toNat).repr ++ "ms > cap " ++ display maxStalenessMs ++
        "ms)"
    | .userLeverageBelowMarketIm market userImBps marketImBps =>
      "user_im_bps " ++ display userImBps ++ " below market " ++ display market ++ "'s im_bps " ++
        display marketImBps ++ "; only deleveraging (user_im >= market_im) is allowed"
    | .clientOrderIdNotFound clientOrderId =>
      "client order id not found: " ++ display clientOrderId
    | .duplicateClientOrderId clientOrderId =>
      "duplicate active client order id: " ++ display clientOrderId
    | .invalidClientOrderId clientOrderId => "invalid client order id: " ++ display clientOrderId
    | .fillOrKillWouldNotFill requested available =>
      "fill-or-kill would not fully fill: requested " ++ display requested ++ ", available " ++
        display available
    | .invalidCancelReplaceTarget => "cancel-replace requires exactly one cancel target"
    | .amendBelowFilled orderId filledQuantity requestedQuantity =>
      "amend quantity below filled for order " ++ display orderId ++ ": requested total " ++
        display requestedQuantity ++ ", filled " ++ display filledQuantity
    | .slippageExceeded aggregateBps maxSlippageBps =>
      "atomic basket aggregate slippage " ++ display aggregateBps ++ " bps exceeds budget " ++
        display maxSlippageBps ++ " bps"
    | .openInterestLimitExceeded market limit wouldBe =>
      "open interest limit exceeded on market " ++ display market ++ ": would be " ++
        display wouldBe ++ ", cap " ++ display limit
    | .adminGovernanceInactive => "admin governance inactive: no signer registry exists"
    | .notAdminSigner => "not an authorized admin signer"
    | .internalError msg => "internal error: " ++ msg

/-- `From<StateError>`. -/
def ExecError.ofStateError : StateError → ExecError
  | .arithmeticInvariantViolation .. => .overflow
  | other => .stateCorruption (display other)

end TradingSdk.Errors
