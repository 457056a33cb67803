import TradingSdk.Core.Orders
import TradingSdk.Core.Bridge
import TradingSdk.Core.Governance

namespace TradingSdk

open Serde Msgpack

inductive ActionKind where
  | placeOrder
  | cancelOrder
  | cancelClientOrder
  | cancelAllOrders
  | cancelReplaceOrder
  | oracleUpdate
  | oracleUpdateComposite
  | marketOrder
  | deposit
  | withdraw
  | createMarket
  | withdrawRequest
  | confirmDeposit
  | confirmWithdrawal
  | failWithdrawal
  | approveAgent
  | revokeAgent
  | createImpactMarket
  | resolveEvent
  | updateMarketFees
  | setUserMarketLeverage
  | closePosition
  | amendOrder
  | atomicBasketOrder
  | proposeAdminAction
  | approveAdminAction
  | rejectAdminAction
  | emergencyAdminAction
  | confirmWithdrawalReceipt
  | failWithdrawalReceipt
  | authorizeWithdrawal
  | setPositionTriggers
  | cancelPositionTriggers
  deriving DecidableEq

namespace ActionKind

/-- All kinds, in the order of the dispatch table. -/
def all : List ActionKind :=
  [.placeOrder, .cancelOrder, .cancelClientOrder, .cancelAllOrders, .cancelReplaceOrder,
   .oracleUpdate, .oracleUpdateComposite, .marketOrder, .deposit, .withdraw, .createMarket,
   .withdrawRequest, .confirmDeposit, .confirmWithdrawal, .failWithdrawal, .approveAgent,
   .revokeAgent, .createImpactMarket, .resolveEvent, .updateMarketFees, .setUserMarketLeverage,
   .closePosition, .amendOrder, .atomicBasketOrder, .proposeAdminAction, .approveAdminAction,
   .rejectAdminAction, .emergencyAdminAction, .confirmWithdrawalReceipt, .failWithdrawalReceipt,
   .authorizeWithdrawal, .setPositionTriggers, .cancelPositionTriggers]

/-- `ACTION_TYPE`. -/
def actionType : ActionKind → UInt8
  | .placeOrder => 0x01
  | .cancelOrder => 0x02
  | .cancelClientOrder => 0x18
  | .cancelAllOrders => 0x19
  | .cancelReplaceOrder => 0x1A
  | .oracleUpdate => 0x03
  | .oracleUpdateComposite => 0x14
  | .marketOrder => 0x04
  | .deposit => 0x05
  | .withdraw => 0x06
  | .createMarket => 0x07
  | .withdrawRequest => 0x08
  | .confirmDeposit => 0x09
  | .confirmWithdrawal => 0x0A
  | .failWithdrawal => 0x0B
  | .approveAgent => 0x0C
  | .revokeAgent => 0x0D
  | .createImpactMarket => 0x0E
  | .resolveEvent => 0x0F
  | .updateMarketFees => 0x10
  | .setUserMarketLeverage => 0x16
  | .closePosition => 0x17
  | .amendOrder => 0x1B
  | .atomicBasketOrder => 0x1C
  | .proposeAdminAction => 0x1E
  | .approveAdminAction => 0x1F
  | .rejectAdminAction => 0x20
  | .emergencyAdminAction => 0x21
  | .confirmWithdrawalReceipt => 0x22
  | .failWithdrawalReceipt => 0x23
  | .authorizeWithdrawal => 0x24
  | .setPositionTriggers => 0x25
  | .cancelPositionTriggers => 0x26

def name : ActionKind → String
  | .placeOrder => "PlaceOrder"
  | .cancelOrder => "CancelOrder"
  | .cancelClientOrder => "CancelClientOrder"
  | .cancelAllOrders => "CancelAllOrders"
  | .cancelReplaceOrder => "CancelReplaceOrder"
  | .oracleUpdate => "OracleUpdate"
  | .oracleUpdateComposite => "OracleUpdateComposite"
  | .marketOrder => "MarketOrder"
  | .deposit => "Deposit"
  | .withdraw => "Withdraw"
  | .createMarket => "CreateMarket"
  | .withdrawRequest => "WithdrawRequest"
  | .confirmDeposit => "ConfirmDeposit"
  | .confirmWithdrawal => "ConfirmWithdrawal"
  | .failWithdrawal => "FailWithdrawal"
  | .approveAgent => "ApproveAgent"
  | .revokeAgent => "RevokeAgent"
  | .createImpactMarket => "CreateImpactMarket"
  | .resolveEvent => "ResolveEvent"
  | .updateMarketFees => "UpdateMarketFees"
  | .setUserMarketLeverage => "SetUserMarketLeverage"
  | .closePosition => "ClosePosition"
  | .amendOrder => "AmendOrder"
  | .atomicBasketOrder => "AtomicBasketOrder"
  | .proposeAdminAction => "ProposeAdminAction"
  | .approveAdminAction => "ApproveAdminAction"
  | .rejectAdminAction => "RejectAdminAction"
  | .emergencyAdminAction => "EmergencyAdminAction"
  | .confirmWithdrawalReceipt => "ConfirmWithdrawalReceipt"
  | .failWithdrawalReceipt => "FailWithdrawalReceipt"
  | .authorizeWithdrawal => "AuthorizeWithdrawal"
  | .setPositionTriggers => "SetPositionTriggers"
  | .cancelPositionTriggers => "CancelPositionTriggers"

abbrev Payload : ActionKind → Type
  | .placeOrder => PlaceOrder
  | .cancelOrder => CancelOrder
  | .cancelClientOrder => CancelClientOrder
  | .cancelAllOrders => CancelAllOrders
  | .cancelReplaceOrder => CancelReplaceOrder
  | .oracleUpdate => OracleUpdate
  | .oracleUpdateComposite => OracleUpdateComposite
  | .marketOrder => MarketOrder
  | .deposit => Deposit
  | .withdraw => Withdraw
  | .createMarket => CreateMarket
  | .withdrawRequest => WithdrawRequest
  | .confirmDeposit => ConfirmDeposit
  | .confirmWithdrawal => ConfirmWithdrawal
  | .failWithdrawal => FailWithdrawal
  | .approveAgent => ApproveAgent
  | .revokeAgent => RevokeAgent
  | .createImpactMarket => CreateImpactMarket
  | .resolveEvent => ResolveEvent
  | .updateMarketFees => UpdateMarketFees
  | .setUserMarketLeverage => SetUserMarketLeverage
  | .closePosition => ClosePosition
  | .amendOrder => AmendOrder
  | .atomicBasketOrder => AtomicBasketOrder
  | .proposeAdminAction => ProposeAdminAction
  | .approveAdminAction => ApproveAdminAction
  | .rejectAdminAction => RejectAdminAction
  | .emergencyAdminAction => EmergencyAdminAction
  | .confirmWithdrawalReceipt => ConfirmWithdrawalReceipt
  | .failWithdrawalReceipt => FailWithdrawalReceipt
  | .authorizeWithdrawal => AuthorizeWithdrawal
  | .setPositionTriggers => SetPositionTriggers
  | .cancelPositionTriggers => CancelPositionTriggers

def schema : (kind : ActionKind) → Schema kind.Payload
  | .placeOrder => PlaceOrder.schema
  | .cancelOrder => CancelOrder.schema
  | .cancelClientOrder => CancelClientOrder.schema
  | .cancelAllOrders => CancelAllOrders.schema
  | .cancelReplaceOrder => CancelReplaceOrder.schema
  | .oracleUpdate => OracleUpdate.schema
  | .oracleUpdateComposite => OracleUpdateComposite.schema
  | .marketOrder => MarketOrder.schema
  | .deposit => Deposit.schema
  | .withdraw => Withdraw.schema
  | .createMarket => CreateMarket.schema
  | .withdrawRequest => WithdrawRequest.schema
  | .confirmDeposit => ConfirmDeposit.schema
  | .confirmWithdrawal => ConfirmWithdrawal.schema
  | .failWithdrawal => FailWithdrawal.schema
  | .approveAgent => ApproveAgent.schema
  | .revokeAgent => RevokeAgent.schema
  | .createImpactMarket => CreateImpactMarket.schema
  | .resolveEvent => ResolveEvent.schema
  | .updateMarketFees => UpdateMarketFees.schema
  | .setUserMarketLeverage => SetUserMarketLeverage.schema
  | .closePosition => ClosePosition.schema
  | .amendOrder => AmendOrder.schema
  | .atomicBasketOrder => AtomicBasketOrder.schema
  | .proposeAdminAction => ProposeAdminAction.schema
  | .approveAdminAction => ApproveAdminAction.schema
  | .rejectAdminAction => RejectAdminAction.schema
  | .emergencyAdminAction => EmergencyAdminAction.schema
  | .confirmWithdrawalReceipt => ConfirmWithdrawalReceipt.schema
  | .failWithdrawalReceipt => FailWithdrawalReceipt.schema
  | .authorizeWithdrawal => AuthorizeWithdrawal.schema
  | .setPositionTriggers => SetPositionTriggers.schema
  | .cancelPositionTriggers => CancelPositionTriggers.schema

/-- The arm of the dispatch table for a byte. -/
def ofActionType (byte : UInt8) : Option ActionKind := all.find? fun kind => kind.actionType = byte

/-- No two kinds share a byte. -/
@[simp] theorem ofActionType_actionType (kind : ActionKind) :
    ofActionType kind.actionType = some kind := by
  cases kind <;> rfl

theorem schema_lawful (kind : ActionKind) : kind.schema.lawful = true := by
  cases kind <;> decide

theorem schema_shallow (kind : ActionKind) : kind.schema.depth < 1024 := by
  cases kind <;> decide

end ActionKind

/-- The top-level transaction action: one variant for each payload type. -/
structure Action where
  kind : ActionKind
  payload : kind.Payload

def Action.actionType (action : Action) : UInt8 := action.kind.actionType

/-- The MessagePack value that a payload is written as. -/
def Action.payloadMsg (action : Action) : Msg := action.kind.schema.toMsg action.payload

def encodePayload (rmp : RmpSerde) (action : Action) : Except ExecError Bytes :=
  mapErr .internalError (rmp.toVec action.kind.schema action.payload)

def unknownActionType (byte : UInt8) : ExecError :=
  .decodeError ("unknown action_type: 0x" ++ String.ofList (Nat.toDigits 16 byte.toNat))

def decodeAction (rmp : RmpSerde) (actionType : UInt8) (payload : Bytes) :
    Except ExecError Action :=
  match ActionKind.ofActionType actionType with
  | some kind => (mapErr .decodeError (rmp.fromSlice kind.schema payload)).map (Action.mk kind)
  | none => .error (unknownActionType actionType)

def envelopeVersion : UInt8 := 2

def supportedEnvelopeVersions : List UInt8 := [envelopeVersion]

structure WireTxEnvelope where
  version : UInt8
  actionType : UInt8
  seq : UInt64
  payload : Bytes
  pubkey : FixedBytes 32
  signature : FixedBytes 64

/-- The byte fields always travel as `bin`. -/
def WireTxEnvelope.schema : Schema WireTxEnvelope := .struct
  (.req "version" .u8 <| .req "action_type" .u8 <| .req "seq" .u64 <|
   .req "payload" (.byteVec serdeBytes) <| .req "pubkey" (.fixedBytes 32 serdeBytes) <|
   .req "signature" (.fixedBytes 64 serdeBytes) <| .nil)
  ⟨fun (version, actionType, seq, payload, pubkey, signature, ()) =>
    { version, actionType, seq, payload, pubkey, signature },
   fun x => (x.version, x.actionType, x.seq, x.payload, x.pubkey, x.signature, ()),
   fun _ => rfl, fun _ => rfl⟩

structure TxAuth where
  pubkey : FixedBytes 32
  signature : FixedBytes 64
  actionType : UInt8
  payload : Bytes

structure DecodedTx where
  action : Action
  seq : UInt64
  auth : TxAuth

def unsupportedVersion (version : UInt8) : ExecError :=
  .decodeError (s!"unsupported envelope version: {version.toNat} (supported: " ++
    s!"{supportedEnvelopeVersions.map UInt8.toNat})")

def decodeTx (rmp : RmpSerde) (bytes : Bytes) : Except ExecError DecodedTx :=
  if bytes.isEmpty then .error (.decodeError "empty tx")
  else do
    let envelope ← mapErr .decodeError (rmp.fromSlice WireTxEnvelope.schema bytes)
    if supportedEnvelopeVersions.contains envelope.version then
      let action ← decodeAction rmp envelope.actionType envelope.payload
      return ⟨action, envelope.seq,
        ⟨envelope.pubkey, envelope.signature, envelope.actionType, envelope.payload⟩⟩
    else .error (unsupportedVersion envelope.version)

def encodeSignedTx (rmp : RmpSerde) (action : Action) (seq : UInt64) (pubkey : FixedBytes 32)
    (signature : FixedBytes 64) : Except ExecError Bytes := do
  let payload ← encodePayload rmp action
  mapErr .internalError (rmp.toVec WireTxEnvelope.schema
    ⟨envelopeVersion, action.actionType, seq, payload, pubkey, signature⟩)

end TradingSdk
