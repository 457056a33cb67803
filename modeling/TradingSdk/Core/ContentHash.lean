import TradingSdk.Core.RoundTrip

namespace TradingSdk

open Serde Msgpack

def adminProposalHashDomain : Bytes := utf8 "PROOF_ADMIN_PROPOSAL_V1"

/-- The immutable context of a proposal, all of it covered by the content hash. -/
structure ProposalContext where
  chainId : FixedBytes 32
  proposalId : ProposalId
  registryVersion : RegistryVersion
  threshold : SignatureThreshold
  proposer : SignerAddress
  createdHeight : UInt64
  createdMs : UInt64
  expiryMs : UInt64
  action : AdminAction
  deriving DecidableEq

def canonicalAdminActionBytes (rmp : RmpSerde) (action : AdminAction) : Except ExecError Bytes :=
  mapErr .decodeError (rmp.toVec AdminAction.schema action)

/-- The fixed-width fields between the domain and the action, in hashing order. -/
def ProposalContext.header (x : ProposalContext) : Bytes :=
  x.chainId.1 ++ (beBytes 8 x.proposalId.toNat ++ (beBytes 8 x.registryVersion.toNat ++
    (beBytes 4 x.threshold.toNat ++ (x.proposer.1 ++ (beBytes 8 x.createdHeight.toNat ++
      (beBytes 8 x.createdMs.toNat ++ (beBytes 8 x.expiryMs.toNat ++ [x.action.actionTag])))))))

/-- The byte string that `admin_proposal_content_hash` feeds to the hash. -/
def contentHashPreimage (rmp : RmpSerde) (x : ProposalContext) : Except ExecError Bytes := do
  let actionBytes ← canonicalAdminActionBytes rmp x.action
  if actionBytes.length < 2^32 then
    return adminProposalHashDomain ++ (x.header ++ (beBytes 4 actionBytes.length ++ actionBytes))
  else .error .overflow

def adminProposalContentHash (rmp : RmpSerde) (sha256 : Bytes → ContentHash)
    (x : ProposalContext) : Except ExecError ContentHash :=
  (contentHashPreimage rmp x).map sha256

section Preimage

variable (rmp : RmpSerde)

/-- The canonical MessagePack value of an action. -/
def AdminAction.msg (action : AdminAction) : Msg := AdminAction.schema.toMsg action

theorem AdminAction.schema_lawful : AdminAction.schema.lawful = true := by decide

theorem canonicalAdminActionBytes_eq (action : AdminAction) :
    canonicalAdminActionBytes rmp action = .ok action.msg.encode := by
  simp [canonicalAdminActionBytes, rmp.toVec_compact, mapErr, AdminAction.msg]

theorem contentHashPreimage_eq (x : ProposalContext) :
    contentHashPreimage rmp x =
      if x.action.msg.encode.length < 2^32 then
        .ok (adminProposalHashDomain ++ (x.header ++
          (beBytes 4 x.action.msg.encode.length ++ x.action.msg.encode)))
      else .error .overflow := by
  rw [contentHashPreimage, canonicalAdminActionBytes_eq]
  rfl

theorem contentHashPreimage_ok {x : ProposalContext} {preimage : Bytes}
    (h : contentHashPreimage rmp x = .ok preimage) :
    x.action.msg.encode.length < 2^32 ∧ preimage = adminProposalHashDomain ++ (x.header ++
      (beBytes 4 x.action.msg.encode.length ++ x.action.msg.encode)) := by
  rw [contentHashPreimage_eq] at h
  split_ifs at h with hlen
  exact ⟨hlen, (Except.ok.inj h).symm⟩

theorem AdminAction.msg_inj {a b : AdminAction} (ha : a.msg.encode.length < 2^32)
    (h : a.msg.encode = b.msg.encode) : a = b := by
  apply Schema.toMsg_inj AdminAction.schema_lawful
  apply encode_inj (fits_of_encode_lt _ (AdminAction.schema.toMsg_intsFit a) ha)
    (fits_of_encode_lt _ (AdminAction.schema.toMsg_intsFit b) _) h
  exact h ▸ ha

theorem ProposalContext.header_length (x : ProposalContext) : x.header.length = 97 := by
  simp [ProposalContext.header, x.chainId.2, x.proposer.2]

private theorem u64_field {m n : UInt64} {rest rest' : Bytes}
    (h : beBytes 8 m.toNat ++ rest = beBytes 8 n.toNat ++ rest') : m = n ∧ rest = rest' := by
  obtain ⟨hn, hrest⟩ := beBytes_append_inj m.toNat_lt n.toNat_lt h
  exact ⟨UInt64.toNat_inj.mp hn, hrest⟩

private theorem fixed_field {k : Nat} {xs ys : FixedBytes k} {rest rest' : Bytes}
    (h : xs.1 ++ rest = ys.1 ++ rest') : xs = ys ∧ rest = rest' := by
  obtain ⟨hxs, hrest⟩ := List.append_inj h (by rw [xs.2, ys.2])
  exact ⟨Subtype.ext hxs, hrest⟩

/-- Every header field has one width, so the header determines all of them. -/
theorem ProposalContext.header_inj {x y : ProposalContext} (h : x.header = y.header) :
    x.chainId = y.chainId ∧ x.proposalId = y.proposalId ∧
    x.registryVersion = y.registryVersion ∧ x.threshold = y.threshold ∧
    x.proposer = y.proposer ∧ x.createdHeight = y.createdHeight ∧ x.createdMs = y.createdMs ∧
    x.expiryMs = y.expiryMs := by
  obtain ⟨hchain, h⟩ := fixed_field h
  obtain ⟨hproposal, h⟩ := u64_field h
  obtain ⟨hregistry, h⟩ := u64_field h
  obtain ⟨hthreshold, h⟩ := beBytes_append_inj x.threshold.toNat_lt y.threshold.toNat_lt h
  obtain ⟨hproposer, h⟩ := fixed_field h
  obtain ⟨hheight, h⟩ := u64_field h
  obtain ⟨hcreated, h⟩ := u64_field h
  obtain ⟨hexpiry, _⟩ := u64_field h
  exact ⟨hchain, hproposal, hregistry, UInt32.toNat_inj.mp hthreshold, hproposer, hheight,
    hcreated, hexpiry⟩

/-- One preimage belongs to one context, and an action that its length prefix could not measure
has no preimage at all. -/
theorem contentHashPreimage_binds :
    (∀ (x y : ProposalContext) (preimage : Bytes), contentHashPreimage rmp x = .ok preimage →
      contentHashPreimage rmp y = .ok preimage → x = y) ∧
    ∀ (sha256 : Bytes → ContentHash) (x : ProposalContext) (actionBytes : Bytes),
      canonicalAdminActionBytes rmp x.action = .ok actionBytes → 2^32 ≤ actionBytes.length →
      adminProposalContentHash rmp sha256 x = .error .overflow := by
  constructor
  · intro x y preimage hx hy
    obtain ⟨hlen, hxp⟩ := contentHashPreimage_ok rmp hx
    obtain ⟨hlen', hyp⟩ := contentHashPreimage_ok rmp hy
    rw [hxp] at hyp
    have hbody := List.append_cancel_left hyp
    obtain ⟨hheader, hbody⟩ := List.append_inj hbody (by rw [x.header_length, y.header_length])
    obtain ⟨_, hbytes⟩ := beBytes_append_inj hlen hlen' hbody
    have haction : x.action = y.action := AdminAction.msg_inj hlen hbytes
    obtain ⟨h1, h2, h3, h4, h5, h6, h7, h8⟩ := ProposalContext.header_inj hheader
    cases x
    cases y
    simp_all
  · intro sha256 x actionBytes hbytes hlen
    rw [canonicalAdminActionBytes_eq] at hbytes
    obtain rfl := Except.ok.inj hbytes
    rw [adminProposalContentHash, contentHashPreimage_eq, if_neg (by omega)]
    rfl

end Preimage

/-- A market creation whose ticker has `n` letters. -/
def longTicker (n : Nat) : AdminAction :=
  .createMarket { CreateMarket.default with ticker := repeatA n }

theorem longTicker_length (n : Nat) : n ≤ (longTicker n).msg.encode.length := by
  have hmsg : (longTicker n).msg = .map [(.str (utf8 "CreateMarket"), .arr [.int 0, .int 500,
      .int 250, .int 5, .int 2, Address.schema.toMsg Address.default, .int 60000, .int 3000,
      .int 0, .int 0, .str (utf8 (repeatA n)), .int 0])] := rfl
  rw [hmsg]
  simp only [Msg.encode, encodeEntries, encodeItems, List.length_append, utf8_repeatA,
    List.length_replicate]
  omega

def sampleContext (proposalId : ProposalId) (action : AdminAction) : ProposalContext where
  chainId := ⟨List.replicate 32 0, rfl⟩
  proposalId := proposalId
  registryVersion := 1
  threshold := 2
  proposer := ⟨List.replicate 20 7, rfl⟩
  createdHeight := 10
  createdMs := 1000
  expiryMs := 2000
  action := action

theorem contentHashPreimage_binds_sample :
    contentHashPreimage .reference (sampleContext 1 (.createMarket CreateMarket.default)) ≠
      contentHashPreimage .reference (sampleContext 2 (.createMarket CreateMarket.default)) ∧
    adminProposalContentHash .reference (fun _ => ⟨List.replicate 32 0, rfl⟩)
      (sampleContext 1 (longTicker (2^32))) = .error .overflow := by
  have hlen : (sampleContext 1 (.createMarket CreateMarket.default)).action.msg.encode.length
      < 2^32 := by decide
  have hfirst := contentHashPreimage_eq .reference
    (sampleContext 1 (.createMarket CreateMarket.default))
  rw [if_pos hlen] at hfirst
  constructor
  · intro heq
    have hxy := (contentHashPreimage_binds .reference).1 _ _ _ hfirst (heq ▸ hfirst)
    have hid : (1 : ProposalId) = 2 := congrArg ProposalContext.proposalId hxy
    exact absurd hid (by decide)
  · exact (contentHashPreimage_binds .reference).2 _ _ _ (canonicalAdminActionBytes_eq _ _)
      (longTicker_length _)

end TradingSdk
