import TradingSdk.Core.Wire

namespace TradingSdk

open Serde

structure Deposit where
  owner : Address
  amount : UInt64
  signer : Address
  deriving DecidableEq

def Deposit.schema : Schema Deposit := .struct
  (.req "owner" Address.schema <| .req "amount" .u64 <|
   .dflt "signer" Address.schema Address.default <| .nil)
  ⟨fun (owner, amount, signer, ()) => { owner, amount, signer },
   fun x => (x.owner, x.amount, x.signer, ()),
   fun _ => rfl, fun _ => rfl⟩

structure Withdraw where
  owner : Address
  amount : UInt64
  signer : Address
  deriving DecidableEq

def Withdraw.schema : Schema Withdraw := .struct
  (.req "owner" Address.schema <| .req "amount" .u64 <|
   .dflt "signer" Address.schema Address.default <| .nil)
  ⟨fun (owner, amount, signer, ()) => { owner, amount, signer },
   fun x => (x.owner, x.amount, x.signer, ()),
   fun _ => rfl, fun _ => rfl⟩

structure WithdrawRequest where
  owner : Address
  amount : UInt64
  solanaDestination : Pubkey
  deriving DecidableEq

def WithdrawRequest.schema : Schema WithdrawRequest := .struct
  (.req "owner" Address.schema <| .req "amount" .u64 <| .req "solana_destination" Pubkey.schema <|
   .nil)
  ⟨fun (owner, amount, solanaDestination, ()) => { owner, amount, solanaDestination },
   fun x => (x.owner, x.amount, x.solanaDestination, ()),
   fun _ => rfl, fun _ => rfl⟩

structure ConfirmDeposit where
  owner : Address
  amount : UInt64
  solanaTxSig : SolanaSignature
  signer : Address
  deriving DecidableEq

def ConfirmDeposit.schema : Schema ConfirmDeposit := .struct
  (.req "owner" Address.schema <| .req "amount" .u64 <|
   .req "solana_tx_sig" SolanaSignature.schema <| .req "signer" Address.schema <| .nil)
  ⟨fun (owner, amount, solanaTxSig, signer, ()) => { owner, amount, solanaTxSig, signer },
   fun x => (x.owner, x.amount, x.solanaTxSig, x.signer, ()),
   fun _ => rfl, fun _ => rfl⟩

structure ConfirmWithdrawal where
  withdrawalId : UInt64
  solanaTxSig : SolanaSignature
  signer : Address
  deriving DecidableEq

def ConfirmWithdrawal.schema : Schema ConfirmWithdrawal := .struct
  (.req "withdrawal_id" .u64 <| .req "solana_tx_sig" SolanaSignature.schema <|
   .req "signer" Address.schema <| .nil)
  ⟨fun (withdrawalId, solanaTxSig, signer, ()) => { withdrawalId, solanaTxSig, signer },
   fun x => (x.withdrawalId, x.solanaTxSig, x.signer, ()),
   fun _ => rfl, fun _ => rfl⟩

structure FailWithdrawal where
  withdrawalId : UInt64
  reason : String
  signer : Address
  deriving DecidableEq

def FailWithdrawal.schema : Schema FailWithdrawal := .struct
  (.req "withdrawal_id" .u64 <| .req "reason" .string <| .req "signer" Address.schema <| .nil)
  ⟨fun (withdrawalId, reason, signer, ()) => { withdrawalId, reason, signer },
   fun x => (x.withdrawalId, x.reason, x.signer, ()),
   fun _ => rfl, fun _ => rfl⟩

/-- The wire mirror of the frozen bridge receipt; every field is signed. -/
structure BridgeWithdrawalReceipt where
  deploymentId : Pubkey
  authorizationDigest : Pubkey
  withdrawalId : UInt64
  terminalState : UInt8
  vaultTier : UInt8
  proofOwner : Address
  destinationOwner : Pubkey
  destinationTokenAcct : Pubkey
  amountMicroUsdc : UInt64
  feeMicroUsdc : UInt64
  authorizationSignerEpoch : UInt64
  solanaTxSignature : SolanaSignature
  finalizedSlot : UInt64
  finalizedBlockhash : Pubkey
  receiptQuorumKind : UInt8
  receiptAuthorityEpoch : UInt64
  deriving DecidableEq

def BridgeWithdrawalReceipt.schema : Schema BridgeWithdrawalReceipt := .struct
  (.req "deployment_id" Pubkey.schema <| .req "authorization_digest" Pubkey.schema <|
   .req "withdrawal_id" .u64 <| .req "terminal_state" .u8 <| .req "vault_tier" .u8 <|
   .req "proof_owner" Address.schema <| .req "destination_owner" Pubkey.schema <|
   .req "destination_token_acct" Pubkey.schema <| .req "amount_micro_usdc" .u64 <|
   .req "fee_micro_usdc" .u64 <| .req "authorization_signer_epoch" .u64 <|
   .req "solana_tx_signature" SolanaSignature.schema <| .req "finalized_slot" .u64 <|
   .req "finalized_blockhash" Pubkey.schema <| .req "receipt_quorum_kind" .u8 <|
   .req "receipt_authority_epoch" .u64 <| .nil)
  ⟨fun (deploymentId, authorizationDigest, withdrawalId, terminalState, vaultTier, proofOwner,
     destinationOwner, destinationTokenAcct, amountMicroUsdc, feeMicroUsdc,
     authorizationSignerEpoch, solanaTxSignature, finalizedSlot, finalizedBlockhash,
     receiptQuorumKind, receiptAuthorityEpoch, ()) =>
    { deploymentId, authorizationDigest, withdrawalId, terminalState, vaultTier, proofOwner,
      destinationOwner, destinationTokenAcct, amountMicroUsdc, feeMicroUsdc,
      authorizationSignerEpoch, solanaTxSignature, finalizedSlot, finalizedBlockhash,
      receiptQuorumKind, receiptAuthorityEpoch },
   fun x => (x.deploymentId, x.authorizationDigest, x.withdrawalId, x.terminalState, x.vaultTier,
     x.proofOwner, x.destinationOwner, x.destinationTokenAcct, x.amountMicroUsdc, x.feeMicroUsdc,
     x.authorizationSignerEpoch, x.solanaTxSignature, x.finalizedSlot, x.finalizedBlockhash,
     x.receiptQuorumKind, x.receiptAuthorityEpoch, ()),
   fun _ => rfl, fun _ => rfl⟩

structure OperatorReceiptProof where
  signerBitmap : Bytes
  signatures : List Bytes
  deriving DecidableEq

def OperatorReceiptProof.schema : Schema OperatorReceiptProof := .struct
  (.req "signer_bitmap" hintCappedBytes <| .req "signatures" hintCappedByteSeqs <| .nil)
  ⟨fun (signerBitmap, signatures, ()) => { signerBitmap, signatures },
   fun x => (x.signerBitmap, x.signatures, ()),
   fun _ => rfl, fun _ => rfl⟩

structure ConfirmWithdrawalReceipt where
  receipt : BridgeWithdrawalReceipt
  proof : OperatorReceiptProof
  deriving DecidableEq

def ConfirmWithdrawalReceipt.schema : Schema ConfirmWithdrawalReceipt := .struct
  (.req "receipt" BridgeWithdrawalReceipt.schema <| .req "proof" OperatorReceiptProof.schema <|
   .nil)
  ⟨fun (receipt, proof, ()) => { receipt, proof },
   fun x => (x.receipt, x.proof, ()),
   fun _ => rfl, fun _ => rfl⟩

structure FailWithdrawalReceipt where
  receipt : BridgeWithdrawalReceipt
  proof : OperatorReceiptProof
  deriving DecidableEq

def FailWithdrawalReceipt.schema : Schema FailWithdrawalReceipt := .struct
  (.req "receipt" BridgeWithdrawalReceipt.schema <| .req "proof" OperatorReceiptProof.schema <|
   .nil)
  ⟨fun (receipt, proof, ()) => { receipt, proof },
   fun x => (x.receipt, x.proof, ()),
   fun _ => rfl, fun _ => rfl⟩

structure AuthorizeWithdrawal where
  authorization : Bytes
  proof : OperatorReceiptProof
  deriving DecidableEq

def AuthorizeWithdrawal.schema : Schema AuthorizeWithdrawal := .struct
  (.req "authorization" hintCappedBytes <| .req "proof" OperatorReceiptProof.schema <| .nil)
  ⟨fun (authorization, proof, ()) => { authorization, proof },
   fun x => (x.authorization, x.proof, ()),
   fun _ => rfl, fun _ => rfl⟩

end TradingSdk
