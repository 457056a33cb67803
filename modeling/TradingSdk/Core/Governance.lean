import TradingSdk.Core.Markets
import TradingSdk.Core.Triggers

namespace TradingSdk

open Serde Msgpack

abbrev ProposalId := UInt64
abbrev RegistryVersion := UInt64
abbrev SignatureThreshold := UInt32

/-- An admin signer: a bare array with derived implementations, unlike `Address`. -/
abbrev SignerAddress := FixedBytes 20
abbrev ContentHash := FixedBytes 32

def SignerAddress.schema : Schema SignerAddress := .fixedBytes 20 bareBytes
def ContentHash.schema : Schema ContentHash := .fixedBytes 32 bareBytes

structure UpdateAdminSignerRegistry where
  newThreshold : SignatureThreshold
  newMembers : List SignerAddress
  deriving DecidableEq

def UpdateAdminSignerRegistry.schema : Schema UpdateAdminSignerRegistry := .struct
  (.req "new_threshold" .u32 <| .req "new_members" (.vec SignerAddress.schema) <| .nil)
  ⟨fun (newThreshold, newMembers, ()) => { newThreshold, newMembers },
   fun x => (x.newThreshold, x.newMembers, ()),
   fun _ => rfl, fun _ => rfl⟩

/-- The market creations that a batch may carry; a batch never nests. -/
inductive AdminBatchItem where
  | createMarket (x : CreateMarket)
  | createImpactMarket (x : CreateImpactMarket)
  deriving DecidableEq

def AdminBatchItem.schema : Schema AdminBatchItem := .enum
  (.newtype "CreateMarket" CreateMarket.schema <|
   .newtype "CreateImpactMarket" CreateImpactMarket.schema .nil)
  ⟨fun | .inl x => .createMarket x | .inr (.inl x) => .createImpactMarket x,
   fun | .createMarket x => .inl x | .createImpactMarket x => .inr (.inl x),
   fun x => by rcases x with _ | _ | x <;> first | rfl | exact x.elim,
   fun x => by cases x <;> rfl⟩

/-- The closed set of operations executable through the multisig. -/
inductive AdminAction where
  | createMarket (x : CreateMarket)
  | updateAdminSignerRegistry (x : UpdateAdminSignerRegistry)
  | createImpactMarket (x : CreateImpactMarket)
  | batch (items : List AdminBatchItem)
  | setTriggerMarketConfig (x : SetTriggerMarketConfig)
  deriving DecidableEq

def AdminAction.schema : Schema AdminAction := .enum
  (.newtype "CreateMarket" CreateMarket.schema <|
   .newtype "UpdateAdminSignerRegistry" UpdateAdminSignerRegistry.schema <|
   .newtype "CreateImpactMarket" CreateImpactMarket.schema <|
   .newtype "Batch" (.vec AdminBatchItem.schema) <|
   .newtype "SetTriggerMarketConfig" SetTriggerMarketConfig.schema .nil)
  ⟨fun | .inl x => .createMarket x
       | .inr (.inl x) => .updateAdminSignerRegistry x
       | .inr (.inr (.inl x)) => .createImpactMarket x
       | .inr (.inr (.inr (.inl items))) => .batch items
       | .inr (.inr (.inr (.inr (.inl x)))) => .setTriggerMarketConfig x,
   fun | .createMarket x => .inl x
       | .updateAdminSignerRegistry x => .inr (.inl x)
       | .createImpactMarket x => .inr (.inr (.inl x))
       | .batch items => .inr (.inr (.inr (.inl items)))
       | .setTriggerMarketConfig x => .inr (.inr (.inr (.inr (.inl x)))),
   fun x => by rcases x with _ | _ | _ | _ | _ | x <;> first | rfl | exact x.elim,
   fun x => by cases x <;> rfl⟩

/-- The discriminant that the content hash commits to. -/
def AdminAction.actionTag : AdminAction → UInt8
  | .createMarket _ => 1
  | .updateAdminSignerRegistry _ => 2
  | .createImpactMarket _ => 3
  | .batch _ => 4
  | .setTriggerMarketConfig _ => 5

/-- Immediate loss-reducing actions that one signer may take. -/
inductive EmergencyAction where
  | pauseMarket (marketId : MarketId)
  | haltTrading
  | setReduceOnly (marketId : MarketId)
  deriving DecidableEq

def EmergencyAction.schema : Schema EmergencyAction := .enum
  (.struct "PauseMarket" (.req "market_id" .u32 .nil) <|
   .struct "HaltTrading" .nil <|
   .struct "SetReduceOnly" (.req "market_id" .u32 .nil) .nil)
  ⟨fun | .inl (marketId, ()) => .pauseMarket marketId
       | .inr (.inl ()) => .haltTrading
       | .inr (.inr (.inl (marketId, ()))) => .setReduceOnly marketId,
   fun | .pauseMarket marketId => .inl (marketId, ())
       | .haltTrading => .inr (.inl ())
       | .setReduceOnly marketId => .inr (.inr (.inl (marketId, ()))),
   fun x => by rcases x with _ | _ | _ | x <;> first | rfl | exact x.elim,
   fun x => by cases x <;> rfl⟩

structure ProposeAdminAction where
  proposer : SignerAddress
  registryVersion : RegistryVersion
  action : AdminAction
  deriving DecidableEq

def ProposeAdminAction.schema : Schema ProposeAdminAction := .struct
  (.req "proposer" SignerAddress.schema <| .req "registry_version" .u64 <|
   .req "action" AdminAction.schema <| .nil)
  ⟨fun (proposer, registryVersion, action, ()) => { proposer, registryVersion, action },
   fun x => (x.proposer, x.registryVersion, x.action, ()),
   fun _ => rfl, fun _ => rfl⟩

/-- An approval carries the whole proposal, never an identifier and a hash alone. -/
structure ApproveAdminAction where
  approver : SignerAddress
  proposalId : ProposalId
  registryVersion : RegistryVersion
  threshold : SignatureThreshold
  proposer : SignerAddress
  createdHeight : UInt64
  createdMs : UInt64
  expiryMs : UInt64
  action : AdminAction
  contentHash : ContentHash
  deriving DecidableEq

def ApproveAdminAction.schema : Schema ApproveAdminAction := .struct
  (.req "approver" SignerAddress.schema <| .req "proposal_id" .u64 <|
   .req "registry_version" .u64 <| .req "threshold" .u32 <| .req "proposer" SignerAddress.schema <|
   .req "created_height" .u64 <| .req "created_ms" .u64 <| .req "expiry_ms" .u64 <|
   .req "action" AdminAction.schema <| .req "content_hash" ContentHash.schema <| .nil)
  ⟨fun (approver, proposalId, registryVersion, threshold, proposer, createdHeight, createdMs,
     expiryMs, action, contentHash, ()) =>
    { approver, proposalId, registryVersion, threshold, proposer, createdHeight, createdMs,
      expiryMs, action, contentHash },
   fun x => (x.approver, x.proposalId, x.registryVersion, x.threshold, x.proposer, x.createdHeight,
     x.createdMs, x.expiryMs, x.action, x.contentHash, ()),
   fun _ => rfl, fun _ => rfl⟩

structure RejectAdminAction where
  rejecter : SignerAddress
  proposalId : ProposalId
  contentHash : ContentHash
  deriving DecidableEq

def RejectAdminAction.schema : Schema RejectAdminAction := .struct
  (.req "rejecter" SignerAddress.schema <| .req "proposal_id" .u64 <|
   .req "content_hash" ContentHash.schema <| .nil)
  ⟨fun (rejecter, proposalId, contentHash, ()) => { rejecter, proposalId, contentHash },
   fun x => (x.rejecter, x.proposalId, x.contentHash, ()),
   fun _ => rfl, fun _ => rfl⟩

structure EmergencyAdminAction where
  signer : SignerAddress
  action : EmergencyAction
  deriving DecidableEq

def EmergencyAdminAction.schema : Schema EmergencyAdminAction := .struct
  (.req "signer" SignerAddress.schema <| .req "action" EmergencyAction.schema <| .nil)
  ⟨fun (signer, action, ()) => { signer, action },
   fun x => (x.signer, x.action, ()),
   fun _ => rfl, fun _ => rfl⟩

end TradingSdk
