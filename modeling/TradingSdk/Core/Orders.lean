import TradingSdk.Core.Wire

namespace TradingSdk

open Serde

inductive Side where
  | buy | sell
  deriving DecidableEq

def Side.schema : Schema Side := .enum
  (.unit "Buy" <| .unit "Sell" .nil)
  ⟨fun | .inl () => .buy | .inr (.inl ()) => .sell,
   fun | .buy => .inl () | .sell => .inr (.inl ()),
   fun x => by rcases x with _ | _ | x <;> first | rfl | exact x.elim,
   fun x => by cases x <;> rfl⟩

inductive TimeInForce where
  | gtc | ioc | fok
  deriving DecidableEq

def TimeInForce.schema : Schema TimeInForce := .enum
  (.unit "Gtc" <| .unit "Ioc" <| .unit "Fok" .nil)
  ⟨fun | .inl () => .gtc | .inr (.inl ()) => .ioc | .inr (.inr (.inl ())) => .fok,
   fun | .gtc => .inl () | .ioc => .inr (.inl ()) | .fok => .inr (.inr (.inl ())),
   fun x => by rcases x with _ | _ | _ | x <;> first | rfl | exact x.elim,
   fun x => by cases x <;> rfl⟩

structure PlaceOrder where
  market : MarketId
  owner : Address
  side : Side
  price : UInt64
  quantity : UInt64
  clientOrderId : Option UInt64
  postOnly : Bool
  reduceOnly : Bool
  timeInForce : TimeInForce
  deriving DecidableEq

def PlaceOrder.schema : Schema PlaceOrder := .struct
  (.req "market" .u32 <| .req "owner" Address.schema <| .req "side" Side.schema <|
   .req "price" .u64 <| .req "quantity" .u64 <| .req "client_order_id" (.option .u64) <|
   .dflt "post_only" .bool false <| .dflt "reduce_only" .bool false <|
   .dflt "time_in_force" TimeInForce.schema .gtc <| .nil)
  ⟨fun (market, owner, side, price, quantity, clientOrderId, postOnly, reduceOnly, timeInForce,
     ()) =>
    { market, owner, side, price, quantity, clientOrderId, postOnly, reduceOnly, timeInForce },
   fun x => (x.market, x.owner, x.side, x.price, x.quantity, x.clientOrderId, x.postOnly,
     x.reduceOnly, x.timeInForce, ()),
   fun _ => rfl, fun _ => rfl⟩

structure CancelOrder where
  orderId : OrderId
  owner : Address
  deriving DecidableEq

def CancelOrder.schema : Schema CancelOrder := .struct
  (.req "order_id" .u64 <| .req "owner" Address.schema <| .nil)
  ⟨fun (orderId, owner, ()) => { orderId, owner },
   fun x => (x.orderId, x.owner, ()),
   fun _ => rfl, fun _ => rfl⟩

structure CancelClientOrder where
  owner : Address
  clientOrderId : UInt64
  deriving DecidableEq

def CancelClientOrder.schema : Schema CancelClientOrder := .struct
  (.req "owner" Address.schema <| .req "client_order_id" .u64 <| .nil)
  ⟨fun (owner, clientOrderId, ()) => { owner, clientOrderId },
   fun x => (x.owner, x.clientOrderId, ()),
   fun _ => rfl, fun _ => rfl⟩

structure CancelAllOrders where
  owner : Address
  market : Option MarketId
  deriving DecidableEq

def CancelAllOrders.schema : Schema CancelAllOrders := .struct
  (.req "owner" Address.schema <| .dflt "market" (.option .u32) none <| .nil)
  ⟨fun (owner, market, ()) => { owner, market },
   fun x => (x.owner, x.market, ()),
   fun _ => rfl, fun _ => rfl⟩

structure CancelReplaceOrder where
  owner : Address
  cancelOrderId : Option OrderId
  cancelClientOrderId : Option UInt64
  market : MarketId
  side : Side
  price : UInt64
  quantity : UInt64
  clientOrderId : Option UInt64
  postOnly : Bool
  reduceOnly : Bool
  timeInForce : TimeInForce
  deriving DecidableEq

def CancelReplaceOrder.schema : Schema CancelReplaceOrder := .struct
  (.req "owner" Address.schema <| .dflt "cancel_order_id" (.option .u64) none <|
   .dflt "cancel_client_order_id" (.option .u64) none <| .req "market" .u32 <|
   .req "side" Side.schema <| .req "price" .u64 <| .req "quantity" .u64 <|
   .req "client_order_id" (.option .u64) <| .dflt "post_only" .bool false <|
   .dflt "reduce_only" .bool false <| .dflt "time_in_force" TimeInForce.schema .gtc <| .nil)
  ⟨fun (owner, cancelOrderId, cancelClientOrderId, market, side, price, quantity, clientOrderId,
     postOnly, reduceOnly, timeInForce, ()) =>
    { owner, cancelOrderId, cancelClientOrderId, market, side, price, quantity, clientOrderId,
      postOnly, reduceOnly, timeInForce },
   fun x => (x.owner, x.cancelOrderId, x.cancelClientOrderId, x.market, x.side, x.price, x.quantity,
     x.clientOrderId, x.postOnly, x.reduceOnly, x.timeInForce, ()),
   fun _ => rfl, fun _ => rfl⟩

structure AmendOrder where
  owner : Address
  orderId : OrderId
  newPrice : Option UInt64
  newQuantity : Option UInt64
  deriving DecidableEq

def AmendOrder.schema : Schema AmendOrder := .struct
  (.req "owner" Address.schema <| .req "order_id" .u64 <| .dflt "new_price" (.option .u64) none <|
   .dflt "new_quantity" (.option .u64) none <| .nil)
  ⟨fun (owner, orderId, newPrice, newQuantity, ()) => { owner, orderId, newPrice, newQuantity },
   fun x => (x.owner, x.orderId, x.newPrice, x.newQuantity, ()),
   fun _ => rfl, fun _ => rfl⟩

structure MarketOrder where
  market : MarketId
  owner : Address
  side : Side
  quantity : UInt64
  clientOrderId : Option UInt64
  deriving DecidableEq

def MarketOrder.schema : Schema MarketOrder := .struct
  (.req "market" .u32 <| .req "owner" Address.schema <| .req "side" Side.schema <|
   .req "quantity" .u64 <| .req "client_order_id" (.option .u64) <| .nil)
  ⟨fun (market, owner, side, quantity, clientOrderId, ()) =>
    { market, owner, side, quantity, clientOrderId },
   fun x => (x.market, x.owner, x.side, x.quantity, x.clientOrderId, ()),
   fun _ => rfl, fun _ => rfl⟩

structure SetUserMarketLeverage where
  owner : Address
  market : MarketId
  userImBps : UInt32
  deriving DecidableEq

def SetUserMarketLeverage.schema : Schema SetUserMarketLeverage := .struct
  (.req "owner" Address.schema <| .req "market" .u32 <| .req "user_im_bps" .u32 <| .nil)
  ⟨fun (owner, market, userImBps, ()) => { owner, market, userImBps },
   fun x => (x.owner, x.market, x.userImBps, ()),
   fun _ => rfl, fun _ => rfl⟩

structure ClosePosition where
  market : MarketId
  owner : Address
  deriving DecidableEq

def ClosePosition.schema : Schema ClosePosition := .struct
  (.req "market" .u32 <| .req "owner" Address.schema <| .nil)
  ⟨fun (market, owner, ()) => { market, owner },
   fun x => (x.market, x.owner, ()),
   fun _ => rfl, fun _ => rfl⟩

structure AtomicBasketLeg where
  market : MarketId
  side : Side
  price : UInt64
  quantity : UInt64
  clientOrderId : Option UInt64
  reduceOnly : Bool
  deriving DecidableEq

def AtomicBasketLeg.schema : Schema AtomicBasketLeg := .struct
  (.req "market" .u32 <| .req "side" Side.schema <| .req "price" .u64 <| .req "quantity" .u64 <|
   .req "client_order_id" (.option .u64) <| .dflt "reduce_only" .bool false <| .nil)
  ⟨fun (market, side, price, quantity, clientOrderId, reduceOnly, ()) =>
    { market, side, price, quantity, clientOrderId, reduceOnly },
   fun x => (x.market, x.side, x.price, x.quantity, x.clientOrderId, x.reduceOnly, ()),
   fun _ => rfl, fun _ => rfl⟩

structure AtomicBasketOrder where
  owner : Address
  legs : List AtomicBasketLeg
  maxSlippageBps : UInt32
  deriving DecidableEq

def AtomicBasketOrder.schema : Schema AtomicBasketOrder := .struct
  (.req "owner" Address.schema <| .req "legs" (.vec AtomicBasketLeg.schema) <|
   .dflt "max_slippage_bps" .u32 0 <| .nil)
  ⟨fun (owner, legs, maxSlippageBps, ()) => { owner, legs, maxSlippageBps },
   fun x => (x.owner, x.legs, x.maxSlippageBps, ()),
   fun _ => rfl, fun _ => rfl⟩

structure ApproveAgent where
  owner : Address
  agentPubkey : Pubkey
  deriving DecidableEq

def ApproveAgent.schema : Schema ApproveAgent := .struct
  (.req "owner" Address.schema <| .req "agent_pubkey" Pubkey.schema <| .nil)
  ⟨fun (owner, agentPubkey, ()) => { owner, agentPubkey },
   fun x => (x.owner, x.agentPubkey, ()),
   fun _ => rfl, fun _ => rfl⟩

structure RevokeAgent where
  owner : Address
  agentPubkey : Pubkey
  deriving DecidableEq

def RevokeAgent.schema : Schema RevokeAgent := .struct
  (.req "owner" Address.schema <| .req "agent_pubkey" Pubkey.schema <| .nil)
  ⟨fun (owner, agentPubkey, ()) => { owner, agentPubkey },
   fun x => (x.owner, x.agentPubkey, ()),
   fun _ => rfl, fun _ => rfl⟩

end TradingSdk
