import TradingSdk.Json.Value
import TradingSdk.Lib.Except

namespace TradingSdk.TriggerHistory

open Json

/-- Whether a text is in a list, under a name that every module shares. -/
instance decidableMemText (t : Text) (ts : List Text) : Decidable (t ∈ ts) :=
  List.instDecidableMemOfLawfulBEq t ts

def isDigit (c : Nat) : Bool := 48 ≤ c && c ≤ 57

/-- `^(?:0|[1-9][0-9]*)$`. -/
def isUint : Text → Bool
  | [48] => true
  | c :: rest => 49 ≤ c && c ≤ 57 && rest.all isDigit
  | [] => false

/-- The value of a text of digits. -/
def decimalValue (t : Text) : Nat := ofDecimal (t.map fun c => c - 48)

/-- `^(?:0|-?[1-9][0-9]*)$`. -/
def isInt : Text → Bool
  | 45 :: rest => isUint rest && rest != [48]
  | t => isUint t

def intValue : Text → Int
  | 45 :: rest => -(decimalValue rest : Int)
  | t => decimalValue t

def u64Max : Nat := 2^64 - 1
def u32Max : Nat := 2^32 - 1
def i32Max : Nat := 2^31 - 1

/-- An unsigned number that both SDKs keep as its text. -/
structure IsUnsigned (maximum : Nat) (nonzero : Bool) (t : Text) : Prop where
  decimal : isUint t = true
  range : ¬ (maximum < decimalValue t ∨ nonzero = true ∧ decimalValue t = 0)

structure IsSigned (t : Text) : Prop where
  decimal : isInt t = true
  range : ¬ (intValue t < -2^63 ∨ 2^63 - 1 < intValue t)

/-- `^[0-9a-f]{40}$`. -/
def isOwner (t : Text) : Bool :=
  t.length == 40 && t.all fun c => isDigit c || (97 ≤ c && c ≤ 102)

/-- Lower case of the ASCII letters. No other letter becomes a hexadecimal digit. -/
def lower (t : Text) : Text := t.map fun c => if 65 ≤ c ∧ c ≤ 90 then c + 32 else c

def hasPrefix : Text → Bool
  | 48 :: 120 :: _ => true
  | _ => false

/-- `value.removeprefix("0x")`. -/
def removePrefix : Text → Text
  | 48 :: 120 :: rest => rest
  | t => t

/-- The lower-case digits of an owner that may be written with a prefix and in any case. -/
def canonicalHex (t : Text) : Option Text :=
  if isOwner (lower (removePrefix t)) then some (lower (removePrefix t)) else none

/-- The members of an object once it is parsed, each name once. -/
abbrev Record := List (Text × Value)

/-- The last of several members of one name counts. -/
def effective : Members → Record
  | [] => []
  | (k, v) :: rest => if k ∈ rest.map Prod.fst then effective rest else (k, v) :: effective rest

def fieldsOf : Value → Option Record
  | .object members => some (effective members)
  | _ => none

def Record.get (row : Record) (name : String) : Option Value := row.lookup (text name)

def keysOf (row : Record) : List Text := row.map Prod.fst

/-- A payload: every value is a text. -/
abbrev Payload := List (Text × Text)

def Payload.get (payload : Payload) (key : String) : Option Text := payload.lookup (text key)

/-- A member as it is handed to a check of untyped values. -/
def Payload.value (payload : Payload) (key : String) : Option Value :=
  (payload.get key).map .string

/-- The value of a member that holds a number. -/
def Payload.amount (payload : Payload) (key : String) : Nat :=
  ((payload.get key).map decimalValue).getD 0

def stringMember : Text × Value → Option (Text × Text)
  | (k, .string s) => some (k, s)
  | _ => none

inductive EventType where
  | positionTriggersSet
  | positionTriggersCancelled
  | positionTriggersInvalidated
  | positionTriggerActivated
  | positionTriggerExecuted
  | positionTriggerDeferred
  | triggerMarketDeferred
  | triggerMarketResumed
  deriving DecidableEq

/-- `OWNER_EVENT_TYPES`, and `_OWNER_TYPES` in Python. -/
def ownerEventTypes : List (Text × EventType) :=
  [(text "position_triggers_set", .positionTriggersSet),
   (text "position_triggers_cancelled", .positionTriggersCancelled),
   (text "position_triggers_invalidated", .positionTriggersInvalidated),
   (text "position_trigger_activated", .positionTriggerActivated),
   (text "position_trigger_executed", .positionTriggerExecuted),
   (text "position_trigger_deferred", .positionTriggerDeferred)]

/-- `MARKET_EVENT_TYPES`, and `_MARKET_TYPES` in Python. -/
def marketEventTypes : List (Text × EventType) :=
  [(text "trigger_market_deferred", .triggerMarketDeferred),
   (text "trigger_market_resumed", .triggerMarketResumed)]

inductive Scope where
  | owner | market
  deriving DecidableEq

def Scope.name : Scope → String
  | .owner => "owner"
  | .market => "market"

def Scope.eventTypes : Scope → List (Text × EventType)
  | .owner => ownerEventTypes
  | .market => marketEventTypes

def EventType.isOwner : EventType → Bool
  | .triggerMarketDeferred => false
  | .triggerMarketResumed => false
  | _ => true

/-- `TRIGGER_REASONS`, and `_REASONS` in Python. -/
def triggerReasons : List Text :=
  [text "position_closed", text "position_epoch_changed", text "position_side_changed",
   text "below_maintenance", text "indeterminate_account", text "market_disabled",
   text "mark_unavailable", text "mark_stale", text "mark_future_dated",
   text "no_eligible_liquidity", text "self_trade_prevention", text "work_limit_reached",
   text "execution_rejected"]

def executionResults : List Text :=
  [text "filled", text "partial", text "no_fill", text "rejected", text "invalidated"]

def executionStopReasons : List Text :=
  [text "no_eligible_liquidity", text "self_trade_prevention", text "work_limit_reached"]

def positionInvalidationReasons : List Text :=
  [text "position_closed", text "position_epoch_changed", text "position_side_changed"]

def accountDeferredReasons : List Text := [text "below_maintenance", text "indeterminate_account"]

def marketDeferredReasons : List Text :=
  [text "market_disabled", text "mark_unavailable", text "mark_stale", text "mark_future_dated"]

def limbKinds : List Text := [text "stop_loss", text "take_profit"]

def eventKeys : List Text :=
  [text "event_key", text "block_height", text "execution_ordinal", text "event_ordinal",
   text "block_time", text "event_type", text "owner", text "market", text "payload"]

/-- The payload members that each file requires to be unsigned, by type. -/
def EventType.unsignedKeys : EventType → List String
  | .positionTriggersSet => ["client_group_id", "stop_limb_id", "stop_client_trigger_id",
      "take_profit_limb_id", "take_profit_client_trigger_id", "accepted_height",
      "active_from_height", "replaced_group_id"]
  | .positionTriggerActivated => ["limb_id", "client_group_id", "client_trigger_id",
      "trigger_price", "frozen_mark", "limit_price", "requested_quantity", "execution_order_id"]
  | .positionTriggerExecuted => ["limb_id", "client_group_id", "client_trigger_id",
      "trigger_price", "frozen_mark", "limit_price", "requested_quantity", "filled_quantity",
      "residual_quantity", "execution_order_id"]
  | .positionTriggerDeferred => ["limb_id", "client_group_id", "client_trigger_id",
      "trigger_price", "frozen_mark", "requested_quantity"]
  | _ => []

/-- Which quantities and reason go with the result of an execution. -/
def IsOutcome (result reason : Text) (requested filled residual : Nat) : Prop :=
  result = text "filled" ∧ filled = requested ∧ residual = 0 ∧ reason = [] ∨
  result = text "partial" ∧ 0 < filled ∧ 0 < residual ∧ reason ∈ executionStopReasons ∨
  result = text "no_fill" ∧ filled = 0 ∧ 0 < residual ∧ reason ∈ executionStopReasons ∨
  result = text "rejected" ∧ filled = 0 ∧ 0 < residual ∧ reason = text "execution_rejected" ∨
  result = text "invalidated" ∧ filled = 0 ∧ 0 < residual ∧ reason ∈ positionInvalidationReasons

instance (result reason : Text) (requested filled residual : Nat) :
    Decidable (IsOutcome result reason requested filled residual) :=
  inferInstanceAs (Decidable (_ ∨ _ ∨ _ ∨ _ ∨ _))

structure Event where
  eventKey : Text
  blockHeight : Text
  executionOrdinal : Text
  eventOrdinal : Text
  blockTime : Text
  eventType : EventType
  owner : Option Text
  market : Text
  payload : Payload

structure Page where
  events : List Event
  nextCursor : Text

/-- `${blockHeight}:${executionOrdinal}:${eventOrdinal}`. -/
def canonicalKey (blockHeight executionOrdinal eventOrdinal : Text) : Text :=
  blockHeight ++ 58 :: (executionOrdinal ++ 58 :: eventOrdinal)

/-- A chain coordinate, the newer one greater. -/
def Event.coordinate (event : Event) : Nat × Nat × Nat :=
  (decimalValue event.blockHeight, decimalValue event.executionOrdinal,
    decimalValue event.eventOrdinal)

end TradingSdk.TriggerHistory
