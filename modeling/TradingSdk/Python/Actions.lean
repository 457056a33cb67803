import TradingSdk.Core.DynBridge
import TradingSdk.Python.Native

namespace TradingSdk.Python

open Serde

/-- What a call of the Python SDK raises: an exception of its own, or an error of the core. -/
inductive PyError where
  | attributeError (message : String)
  | typeError (message : String)
  | valueError (message : String)
  | core (e : ExecError)

/-- The attributes of an instance. An instance of `TriggerLimb` or `AtomicBasketLeg` inside another
is the map of its own attributes. -/
abbrev Attrs := List (String × Content)

/-- An attribute of an instance, which has all those of its class. -/
def attr (self : Attrs) (name : String) : Content := (self.lookup name).getD .null

/-- A dictionary with one entry for each of these attributes, under its own name. -/
def entries (keys : List String) (self : Attrs) : List (String × Content) :=
  keys.map fun key => (key, attr self key)

/-- An annotation of the dataclasses. The interpreter does not enforce them. -/
inductive TypeHint where
  | int
  | str
  | bool
  | bytes
  | any
  | dict
  | triggerLimb
  | atomicBasketLeg
  | optional (t : TypeHint)
  | list (t : TypeHint)

structure Attribute where
  name : String
  type : TypeHint
  default : Option Content

/-- A dataclass of the action builders. -/
structure Builder where
  actionName : String
  attributes : List Attribute
  postInit : Attrs → Except PyError Unit
  fields : Attrs → List (String × Content)

/-- The value that the generated `__init__` stores in an attribute, if it has one. -/
def Attribute.value (a : Attribute) (kwargs : Attrs) : Option Content :=
  kwargs.lookup a.name <|> a.default

/-- The attributes that the generated `__init__` stores. -/
def initialise (attributes : List Attribute) (kwargs : Attrs) : Attrs :=
  attributes.map fun a => (a.name, (a.value kwargs).getD .null)

/-- An instance built from keyword arguments. -/
def Builder.construct (cls : Builder) (kwargs : Attrs) : Except PyError Attrs := do
  if !(kwargs.all fun e => (cls.attributes.map Attribute.name).contains e.1) then
    throw (.typeError "__init__() got an unexpected keyword argument")
  if !(cls.attributes.all fun a => (a.value kwargs).isSome) then
    throw (.typeError "__init__() missing a required positional argument")
  cls.postInit (initialise cls.attributes kwargs)
  return initialise cls.attributes kwargs

/-- A class without `__post_init__` whose `fields` lists attributes under their own names. -/
def Builder.plain (actionName : String) (attributes : List Attribute) (keys : List String) :
    Builder where
  actionName := actionName
  attributes := attributes
  postInit _ := .ok ()
  fields := entries keys

def placeOrder : Builder := .plain "PlaceOrder"
  [⟨"market", .int, none⟩, ⟨"owner", .bytes, none⟩, ⟨"side", .str, none⟩, ⟨"price", .int, none⟩,
   ⟨"quantity", .int, none⟩, ⟨"client_order_id", .optional .int, some .null⟩,
   ⟨"post_only", .bool, some (.bool false)⟩, ⟨"reduce_only", .bool, some (.bool false)⟩,
   ⟨"time_in_force", .str, some (.str "Gtc")⟩]
  ["market", "owner", "side", "price", "quantity", "client_order_id", "post_only", "reduce_only",
   "time_in_force"]

def marketOrder : Builder := .plain "MarketOrder"
  [⟨"market", .int, none⟩, ⟨"owner", .bytes, none⟩, ⟨"side", .str, none⟩, ⟨"quantity", .int, none⟩,
   ⟨"client_order_id", .optional .int, some .null⟩]
  ["market", "owner", "side", "quantity", "client_order_id"]

def cancelOrder : Builder := .plain "CancelOrder"
  [⟨"order_id", .int, none⟩, ⟨"owner", .bytes, none⟩]
  ["order_id", "owner"]

def cancelClientOrder : Builder := .plain "CancelClientOrder"
  [⟨"owner", .bytes, none⟩, ⟨"client_order_id", .int, none⟩]
  ["owner", "client_order_id"]

def cancelAllOrders : Builder := .plain "CancelAllOrders"
  [⟨"owner", .bytes, none⟩, ⟨"market", .optional .int, some .null⟩]
  ["owner", "market"]

def cancelReplaceOrder : Builder := .plain "CancelReplaceOrder"
  [⟨"owner", .bytes, none⟩, ⟨"market", .int, none⟩, ⟨"side", .str, none⟩, ⟨"price", .int, none⟩,
   ⟨"quantity", .int, none⟩, ⟨"cancel_order_id", .optional .int, some .null⟩,
   ⟨"cancel_client_order_id", .optional .int, some .null⟩,
   ⟨"client_order_id", .optional .int, some .null⟩, ⟨"post_only", .bool, some (.bool false)⟩,
   ⟨"reduce_only", .bool, some (.bool false)⟩, ⟨"time_in_force", .str, some (.str "Gtc")⟩]
  ["owner", "cancel_order_id", "cancel_client_order_id", "market", "side", "price", "quantity",
   "client_order_id", "post_only", "reduce_only", "time_in_force"]

def amendOrder : Builder := .plain "AmendOrder"
  [⟨"owner", .bytes, none⟩, ⟨"order_id", .int, none⟩, ⟨"new_price", .optional .int, some .null⟩,
   ⟨"new_quantity", .optional .int, some .null⟩]
  ["owner", "order_id", "new_price", "new_quantity"]

def closePosition : Builder := .plain "ClosePosition"
  [⟨"market", .int, none⟩, ⟨"owner", .bytes, none⟩]
  ["market", "owner"]

def setUserMarketLeverage : Builder := .plain "SetUserMarketLeverage"
  [⟨"owner", .bytes, none⟩, ⟨"market", .int, none⟩, ⟨"user_im_bps", .int, none⟩]
  ["owner", "market", "user_im_bps"]

def approveAgent : Builder := .plain "ApproveAgent"
  [⟨"owner", .bytes, none⟩, ⟨"agent_pubkey", .bytes, none⟩]
  ["owner", "agent_pubkey"]

def revokeAgent : Builder := .plain "RevokeAgent"
  [⟨"owner", .bytes, none⟩, ⟨"agent_pubkey", .bytes, none⟩]
  ["owner", "agent_pubkey"]

/-- `as_wire` of a nested instance. -/
def asWire (keys : List String) : Content → Content
  | .map self => .map (entries keys self)
  | v => v

def AtomicBasketLeg.attributes : List Attribute :=
  [⟨"market", .int, none⟩, ⟨"side", .str, none⟩, ⟨"price", .int, none⟩, ⟨"quantity", .int, none⟩,
   ⟨"client_order_id", .optional .int, some .null⟩, ⟨"reduce_only", .bool, some (.bool false)⟩]

def AtomicBasketLeg.asWire : Content → Content :=
  Python.asWire ["market", "side", "price", "quantity", "client_order_id", "reduce_only"]

/-- `[leg.as_wire() for leg in legs]`. -/
def legsAsWire : Content → Content
  | .seq legs => .seq (legs.map AtomicBasketLeg.asWire)
  | v => v

def atomicBasketOrder : Builder where
  actionName := "AtomicBasketOrder"
  attributes := [⟨"owner", .bytes, none⟩, ⟨"legs", .list .atomicBasketLeg, none⟩,
    ⟨"max_slippage_bps", .int, some (.int 0)⟩]
  postInit _ := .ok ()
  fields self := [("owner", attr self "owner"), ("legs", legsAsWire (attr self "legs")),
    ("max_slippage_bps", attr self "max_slippage_bps")]

def u64Max : Nat := 2^64 - 1
def u32Max : Nat := 2^32 - 1
def maxTriggerSlippageBps : Nat := 9999

/-- `_trigger_uint`. -/
def triggerUint (name : String) (value : Content) (maximum : Nat) (nonzero : Bool) :
    Except PyError Unit :=
  match value with
  | .int n =>
    if n < 0 ∨ n > maximum then
      .error (.valueError s!"{name} must be an unsigned integer <= {maximum}")
    else if nonzero ∧ n = 0 then .error (.valueError s!"{name} must be non-zero")
    else .ok ()
  | _ => .error (.valueError s!"{name} must be an unsigned integer <= {maximum}")

def raiseIf (condition : Bool) (message : String) : Except PyError Unit :=
  if condition then .error (.valueError message) else .ok ()

/-- A check that `None` skips. -/
def unlessNone (value : Content) (check : Content → Except PyError Unit) : Except PyError Unit :=
  if value.isNull then .ok () else check value

def TriggerLimb.attributes : List Attribute :=
  [⟨"trigger_price", .int, none⟩, ⟨"max_slippage_bps", .int, none⟩,
   ⟨"client_trigger_id", .optional .int, some .null⟩]

def TriggerLimb.postInit (self : Attrs) : Except PyError Unit := do
  triggerUint "trigger_price" (attr self "trigger_price") u64Max true
  triggerUint "max_slippage_bps" (attr self "max_slippage_bps") maxTriggerSlippageBps true
  unlessNone (attr self "client_trigger_id") fun id =>
    triggerUint "client_trigger_id" id u64Max true

def TriggerLimb.asWire : Content → Content :=
  Python.asWire ["trigger_price", "max_slippage_bps", "client_trigger_id"]

def checkOwner (owner : Content) : Except PyError Unit :=
  match owner with
  | .bytes bs =>
    if bs.length = 20 then .ok () else .error (.valueError "owner must be exactly 20 bytes")
  | _ => .error (.valueError "owner must be exactly 20 bytes")

/-- The identifier of a limb, `None` when there is no limb. -/
def limbId : Content → Content
  | .map limb => attr limb "client_trigger_id"
  | _ => .null

/-- `a == b` on integers. -/
def sameInt : Content → Content → Bool
  | .int m, .int n => m == n
  | _, _ => false

def setPositionTriggers : Builder where
  actionName := "SetPositionTriggers"
  attributes := [⟨"market", .int, none⟩, ⟨"owner", .bytes, none⟩,
    ⟨"expected_position_epoch", .int, none⟩, ⟨"stop_loss", .optional .triggerLimb, some .null⟩,
    ⟨"take_profit", .optional .triggerLimb, some .null⟩,
    ⟨"client_group_id", .optional .int, some .null⟩]
  postInit self := do
    triggerUint "market" (attr self "market") u32Max false
    checkOwner (attr self "owner")
    triggerUint "expected_position_epoch" (attr self "expected_position_epoch") u64Max true
    raiseIf ((attr self "stop_loss").isNull && (attr self "take_profit").isNull)
      "at least one of stop_loss or take_profit is required"
    unlessNone (attr self "client_group_id") fun id => triggerUint "client_group_id" id u64Max true
    raiseIf (sameInt (limbId (attr self "stop_loss")) (limbId (attr self "take_profit")))
      "stop_loss and take_profit client_trigger_id values must differ"
  fields self := [("market", attr self "market"), ("owner", attr self "owner"),
    ("expected_position_epoch", attr self "expected_position_epoch"),
    ("stop_loss", TriggerLimb.asWire (attr self "stop_loss")),
    ("take_profit", TriggerLimb.asWire (attr self "take_profit")),
    ("client_group_id", attr self "client_group_id")]

def cancelPositionTriggers : Builder where
  actionName := "CancelPositionTriggers"
  attributes := [⟨"market", .int, none⟩, ⟨"owner", .bytes, none⟩,
    ⟨"expected_position_epoch", .int, none⟩]
  postInit self := do
    triggerUint "market" (attr self "market") u32Max false
    checkOwner (attr self "owner")
    triggerUint "expected_position_epoch" (attr self "expected_position_epoch") u64Max true
  fields := entries ["market", "owner", "expected_position_epoch"]

def createImpactMarket : Builder := .plain "CreateImpactMarket"
  [⟨"impact_market_id", .int, none⟩, ⟨"underlying_market", .int, none⟩,
   ⟨"child_market_base", .int, none⟩, ⟨"question", .str, none⟩, ⟨"deadline_ms", .int, none⟩,
   ⟨"resolution_window_ms", .int, none⟩, ⟨"im_bps", .int, none⟩, ⟨"mm_bps", .int, none⟩,
   ⟨"taker_fee_bps", .int, none⟩, ⟨"maker_fee_bps", .int, none⟩,
   ⟨"funding_interval_ms", .int, none⟩, ⟨"max_funding_rate_bps", .int, none⟩,
   ⟨"signer", .bytes, none⟩, ⟨"oracle_source", .any, some .null⟩,
   ⟨"description", .str, some (.str "")⟩, ⟨"rules", .str, some (.str "")⟩]
  ["impact_market_id", "underlying_market", "child_market_base", "question", "deadline_ms",
   "resolution_window_ms", "im_bps", "mm_bps", "taker_fee_bps", "maker_fee_bps",
   "funding_interval_ms", "max_funding_rate_bps", "signer", "oracle_source", "description", "rules"]

def updateMarketFees : Builder := .plain "UpdateMarketFees"
  [⟨"market", .int, none⟩, ⟨"signer", .bytes, none⟩,
   ⟨"taker_fee_bps", .optional .int, some .null⟩, ⟨"maker_fee_bps", .optional .int, some .null⟩,
   ⟨"max_funding_rate_bps", .optional .int, some .null⟩,
   ⟨"funding_interval_ms", .optional .int, some .null⟩,
   ⟨"max_position_size", .optional .int, some .null⟩,
   ⟨"default_ttl_ms", .optional .int, some .null⟩,
   ⟨"net_delta_margin", .optional .bool, some .null⟩, ⟨"tick_size", .optional .int, some .null⟩,
   ⟨"lot_size", .optional .int, some .null⟩,
   ⟨"primary_oracle_signer", .optional .bytes, some .null⟩,
   ⟨"oracle_staleness_ms", .optional .int, some .null⟩,
   ⟨"mark_source_mode", .optional .int, some .null⟩,
   ⟨"max_mark_spread_bps", .optional .int, some .null⟩,
   ⟨"cex_composite_staleness_ms", .optional .int, some .null⟩,
   ⟨"partial_liquidation_enabled", .optional .bool, some .null⟩,
   ⟨"fee_tiers", .optional (.list .dict), some .null⟩, ⟨"im_bps", .optional .int, some .null⟩,
   ⟨"mm_bps", .optional .int, some .null⟩, ⟨"max_open_interest", .optional .int, some .null⟩]
  ["market", "signer", "taker_fee_bps", "maker_fee_bps", "max_funding_rate_bps",
   "funding_interval_ms", "max_position_size", "default_ttl_ms", "net_delta_margin", "tick_size",
   "lot_size", "primary_oracle_signer", "oracle_staleness_ms", "mark_source_mode",
   "max_mark_spread_bps", "cex_composite_staleness_ms", "partial_liquidation_enabled", "fee_tiers",
   "im_bps", "mm_bps", "max_open_interest"]

def oracleUpdateComposite : Builder := .plain "OracleUpdateComposite"
  [⟨"market", .int, none⟩, ⟨"price", .int, none⟩, ⟨"signer", .bytes, none⟩,
   ⟨"publish_time_ms", .int, none⟩, ⟨"n_sources", .int, some (.int 0)⟩]
  ["market", "price", "n_sources", "signer", "publish_time_ms"]

def deposit : Builder := .plain "Deposit"
  [⟨"owner", .bytes, none⟩, ⟨"amount", .int, none⟩, ⟨"signer", .bytes, none⟩]
  ["owner", "amount", "signer"]

def withdraw : Builder := .plain "Withdraw"
  [⟨"owner", .bytes, none⟩, ⟨"amount", .int, none⟩, ⟨"signer", .bytes, none⟩]
  ["owner", "amount", "signer"]

def withdrawRequest : Builder := .plain "WithdrawRequest"
  [⟨"owner", .bytes, none⟩, ⟨"amount", .int, none⟩, ⟨"solana_destination", .bytes, none⟩]
  ["owner", "amount", "solana_destination"]

def confirmDeposit : Builder := .plain "ConfirmDeposit"
  [⟨"owner", .bytes, none⟩, ⟨"amount", .int, none⟩, ⟨"solana_tx_sig", .bytes, none⟩,
   ⟨"signer", .bytes, none⟩]
  ["owner", "amount", "solana_tx_sig", "signer"]

def confirmWithdrawal : Builder := .plain "ConfirmWithdrawal"
  [⟨"withdrawal_id", .int, none⟩, ⟨"solana_tx_sig", .bytes, none⟩, ⟨"signer", .bytes, none⟩]
  ["withdrawal_id", "solana_tx_sig", "signer"]

def failWithdrawal : Builder := .plain "FailWithdrawal"
  [⟨"withdrawal_id", .int, none⟩, ⟨"reason", .str, none⟩, ⟨"signer", .bytes, none⟩]
  ["withdrawal_id", "reason", "signer"]

/-- The typed builder of a kind. Kinds without one go through `RawAction`. -/
def typedBuilder : ActionKind → Option Builder
  | .placeOrder => some placeOrder
  | .cancelOrder => some cancelOrder
  | .cancelClientOrder => some cancelClientOrder
  | .cancelAllOrders => some cancelAllOrders
  | .cancelReplaceOrder => some cancelReplaceOrder
  | .oracleUpdateComposite => some oracleUpdateComposite
  | .marketOrder => some marketOrder
  | .deposit => some deposit
  | .withdraw => some withdraw
  | .withdrawRequest => some withdrawRequest
  | .confirmDeposit => some confirmDeposit
  | .confirmWithdrawal => some confirmWithdrawal
  | .failWithdrawal => some failWithdrawal
  | .approveAgent => some approveAgent
  | .revokeAgent => some revokeAgent
  | .createImpactMarket => some createImpactMarket
  | .updateMarketFees => some updateMarketFees
  | .setUserMarketLeverage => some setUserMarketLeverage
  | .closePosition => some closePosition
  | .amendOrder => some amendOrder
  | .atomicBasketOrder => some atomicBasketOrder
  | .setPositionTriggers => some setPositionTriggers
  | .cancelPositionTriggers => some cancelPositionTriggers
  | _ => none

/-- An instance of a builder. -/
structure PyAction where
  cls : Builder
  self : Attrs

/-- `ActionType[name]`: the codes that the core lists under their names. -/
def actionTypeOf (name : String) : Except PyError UInt8 :=
  match ActionKind.all.find? fun kind => kind.name = name with
  | some kind => .ok kind.actionType
  | none => .error (.attributeError ("_ActionTypeMap object has no attribute " ++ name))

def liftNative {α : Type} : Except ExecError α → Except PyError α
  | .ok a => .ok a
  | .error e => .error (.core e)

def encodeAction (rmp : RmpSerde) (dyn : ContentSerde) (action : PyAction) :
    Except PyError (UInt8 × Bytes) := do
  let actionType ← actionTypeOf action.cls.actionName
  let payload ← liftNative
    (encodePayloadDyn rmp dyn actionType (.map (action.cls.fields action.self)))
  return (actionType, payload)

end TradingSdk.Python
