import TradingSdk.Core.ContentHash

namespace TradingSdk

open Serde Msgpack

inductive ExpiryReason where
  | ttl | registryChanged
  deriving DecidableEq

/-- A terminal status carries what the engine committed with it. -/
inductive ProposalStatus where
  | pending
  | executed
  | failed (code : UInt32)
  | rejected (signer : SignerAddress)
  | expired (reason : ExpiryReason)
  deriving DecidableEq

/-- A proposal for display and for verification offline. Its tag is the one of its action. -/
structure ProposalDisplayInfo where
  proposalId : ProposalId
  statusStored : ProposalStatus
  statusEffective : ProposalStatus
  registryVersion : RegistryVersion
  threshold : SignatureThreshold
  proposer : SignerAddress
  approvals : List SignerAddress
  rejections : List SignerAddress
  createdHeight : UInt64
  createdMs : UInt64
  expiryMs : UInt64
  action : AdminAction
  actionCanonicalBytes : Bytes
  contentHash : ContentHash
  deriving DecidableEq

structure ProposalPage where
  proposals : List ProposalDisplayInfo
  nextCursor : Option UInt64
  deriving DecidableEq

structure AdminSignerRegistry where
  version : RegistryVersion
  threshold : SignatureThreshold
  members : List SignerAddress
  deriving DecidableEq

def ExpiryReason.name : ExpiryReason → String
  | .ttl => "Ttl"
  | .registryChanged => "RegistryChanged"

def variantMsg (name : String) (payload : Msg) : Msg := .map [(.str (utf8 name), payload)]

def signersMsg (signers : List SignerAddress) : Msg := .arr (signers.map SignerAddress.schema.toMsg)

def ProposalStatus.toMsg : ProposalStatus → Msg
  | .pending => .str (utf8 "Pending")
  | .executed => .str (utf8 "Executed")
  | .failed code => variantMsg "Failed" (.arr [.int code.toNat])
  | .rejected signer => variantMsg "Rejected" (.arr [SignerAddress.schema.toMsg signer])
  | .expired reason => variantMsg "Expired" (.arr [.str (utf8 reason.name)])

def ProposalDisplayInfo.toMsg (x : ProposalDisplayInfo) : Msg := .arr
  [.int x.proposalId.toNat, x.statusStored.toMsg, x.statusEffective.toMsg,
   .int x.registryVersion.toNat, .int x.threshold.toNat, SignerAddress.schema.toMsg x.proposer,
   signersMsg x.approvals, signersMsg x.rejections, .int x.createdHeight.toNat,
   .int x.createdMs.toNat, .int x.expiryMs.toNat, .int x.action.actionTag.toNat, x.action.msg,
   .arr (byteItems x.actionCanonicalBytes), ContentHash.schema.toMsg x.contentHash]

def ProposalPage.toMsg (x : ProposalPage) : Msg := .arr
  [.arr (x.proposals.map ProposalDisplayInfo.toMsg), (Schema.option Schema.u64).toMsg x.nextCursor]

def AdminSignerRegistry.toMsg (x : AdminSignerRegistry) : Msg := .arr
  [.int x.version.toNat, .int x.threshold.toNat, signersMsg x.members]

/-- The one-field envelope of the registry: no registry is a nil in it. -/
def registryInfoMsg : Option AdminSignerRegistry → Msg
  | none => .arr [.nil]
  | some registry => .arr [registry.toMsg]

end TradingSdk
