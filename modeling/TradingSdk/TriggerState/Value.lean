import Mathlib.Data.Rat.Defs
import TradingSdk.Core.Orders

namespace TradingSdk.TriggerState

open Serde

/-- The value of an integer form of at most 32 bits. -/
abbrev ShortInt := { n : Int // -2^31 ≤ n ∧ n < 2^32 }

/-- The TypeScript library returns a bigint for the integer forms of 64 bits and a number for the
shorter ones, Python the same integer for both. A float that is not finite has no value. -/
inductive Value where
  | nil
  | bool (b : Bool)
  | short (n : ShortInt)
  | wide (n : Int)
  | float (value : Option ℚ)
  | str (s : String)
  | bin (bytes : Bytes)
  | arr (items : List Value)
  | map (entries : List (Value × Value))
  | ext (tag : UInt8) (bytes : Bytes)

namespace Value

def items : Value → List Value
  | .arr items => items
  | _ => []

/-- `row[i]` of a tuple. -/
def slot (row : Value) (i : Nat) : Value := row.items.getD i .nil

def isArray : Value → Bool
  | .arr _ => true
  | _ => false

/-- An array of exactly so many elements. -/
def IsTuple (v : Value) (size : Nat) : Prop := v.isArray = true ∧ v.items.length = size

instance (v : Value) (size : Nat) : Decidable (v.IsTuple size) :=
  inferInstanceAs (Decidable (_ ∧ _))

/-- `value == null` and `value is None`. -/
def isNil : Value → Bool
  | .nil => true
  | _ => false

theorem IsTuple.isNil {v : Value} {size : Nat} (h : v.IsTuple size) : v.isNil = false := by
  cases v with
  | nil => cases h.1
  | _ => rfl

/-- The value under a text key of a map. The last of several counts. -/
def get (key : String) (entries : List (Value × Value)) : Option Value :=
  (entries.reverse.find? fun (k, _) => match k with
    | .str s => s = key
    | _ => false).map Prod.snd

end Value

/-- A value that is absent when it is nil. -/
def nullable {ε α : Type} (f : Value → Except ε α) (value : Value) : Except ε (Option α) :=
  if value.isNil then .ok none else (f value).map some

/-- Membership of a text in a set of names. -/
def memberOf {α : Type} (members : List (String × α)) : Value → Option α
  | .str s => members.lookup s
  | _ => none

inductive TriggerKind where
  | stopLoss | takeProfit
  deriving DecidableEq

/-- `KINDS`, and `_TRIGGER_KINDS` in Python. -/
def TriggerKind.members : List (String × TriggerKind) :=
  [("StopLoss", .stopLoss), ("TakeProfit", .takeProfit)]

inductive TriggerLimbState where
  | armed | filled | partiallyFilled | noFill | rejected | cancelled | invalidated
  deriving DecidableEq

/-- `STATES`, and `_TRIGGER_LIMB_STATES` in Python. -/
def TriggerLimbState.members : List (String × TriggerLimbState) :=
  [("Armed", .armed), ("Filled", .filled), ("Partial", .partiallyFilled), ("NoFill", .noFill),
   ("Rejected", .rejected), ("Cancelled", .cancelled), ("Invalidated", .invalidated)]

inductive TriggerOutcomeReason where
  | positionClosed | positionEpochChanged | positionSideChanged | belowMaintenance
  | indeterminateAccount | marketDisabled | markUnavailable | markStale | markFutureDated
  | noEligibleLiquidity | selfTradePrevention | workLimitReached | executionRejected
  deriving DecidableEq

/-- `REASONS`, and `_TRIGGER_REASONS` in Python. -/
def TriggerOutcomeReason.members : List (String × TriggerOutcomeReason) :=
  [("PositionClosed", .positionClosed), ("PositionEpochChanged", .positionEpochChanged),
   ("PositionSideChanged", .positionSideChanged), ("BelowMaintenance", .belowMaintenance),
   ("IndeterminateAccount", .indeterminateAccount), ("MarketDisabled", .marketDisabled),
   ("MarkUnavailable", .markUnavailable), ("MarkStale", .markStale),
   ("MarkFutureDated", .markFutureDated), ("NoEligibleLiquidity", .noEligibleLiquidity),
   ("SelfTradePrevention", .selfTradePrevention), ("WorkLimitReached", .workLimitReached),
   ("ExecutionRejected", .executionRejected)]

inductive SimpleAvailability where
  | available | triggerActionsInactive | pendingActivation | migrationIncomplete
  | configurationMissing | marketDisabled
  deriving DecidableEq

/-- `simple`, and `_TRIGGER_SIMPLE_AVAILABILITY` in Python. -/
def SimpleAvailability.members : List (String × SimpleAvailability) :=
  [("Available", .available), ("TriggerActionsInactive", .triggerActionsInactive),
   ("PendingActivation", .pendingActivation), ("MigrationIncomplete", .migrationIncomplete),
   ("ConfigurationMissing", .configurationMissing), ("MarketDisabled", .marketDisabled)]

def positionSides : List (String × Side) := [("Buy", .buy), ("Sell", .sell)]

structure TriggerEvaluation where
  height : Nat
  frozenMark : Nat
  limitPrice : Option Nat
  requestedQuantity : Nat
  filledQuantity : Nat
  residualQuantity : Nat
  reason : Option TriggerOutcomeReason

structure StoredTriggerLimb where
  limbId : Nat
  kind : TriggerKind
  triggerPrice : Nat
  maxSlippageBps : Nat
  clientTriggerId : Option Nat
  state : TriggerLimbState
  lastEvaluation : Option TriggerEvaluation

structure TriggerMarketConfig where
  version : Nat
  enabled : Bool
  maxTriggerSlippageBps : Nat
  maxMarkAgeMs : Nat
  maxFuturePublishSkewMs : Nat
  maxActiveBrackets : Nat

structure PendingTriggerMarketConfig where
  config : TriggerMarketConfig
  acceptedHeight : Nat
  effectiveHeight : Nat

structure TriggerMarketConfigState where
  current : Option TriggerMarketConfig
  pending : Option PendingTriggerMarketConfig

structure TriggerMarketConfigInfo where
  market : Nat
  state : TriggerMarketConfigState

inductive TriggerEffectiveAvailability where
  | simple (kind : SimpleAvailability)
  | deferred (reason : TriggerOutcomeReason)

structure PositionTriggerBracket where
  groupId : Nat
  owner : Bytes
  market : Nat
  positionEpoch : Nat
  positionSide : Side
  acceptedHeight : Nat
  activeFromHeight : Nat
  clientGroupId : Option Nat
  stopLoss : Option StoredTriggerLimb
  takeProfit : Option StoredTriggerLimb

structure PositionTriggerInfo where
  bracket : PositionTriggerBracket
  marketConfig : Option TriggerMarketConfig
  availability : TriggerEffectiveAvailability

/-- Two limbs of one bracket under one identity. -/
def StoredTriggerLimb.clashes (stopLoss takeProfit : StoredTriggerLimb) : Bool :=
  stopLoss.limbId = takeProfit.limbId ||
    (stopLoss.clientTriggerId.isSome && stopLoss.clientTriggerId = takeProfit.clientTriggerId)

end TradingSdk.TriggerState
