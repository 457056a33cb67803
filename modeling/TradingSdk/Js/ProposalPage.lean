import TradingSdk.Js.GovernanceTyped

namespace TradingSdk

open Serde Msgpack Js

def ProposalStatus.toTs : ProposalStatus → JsVal
  | .pending => .object [("kind", .string "Pending")]
  | .executed => .object [("kind", .string "Executed")]
  | .failed code => .object [("kind", .string "Failed"), ("code", .number code.toNat)]
  | .rejected signer => .object [("kind", .string "Rejected"), ("by", .uint8Array signer.1)]
  | .expired reason => .object [("kind", .string "Expired"), ("reason", .string reason.name)]

def ProposalDisplayInfo.toTs (x : ProposalDisplayInfo) : JsVal := .object
  [("proposalId", .bigint x.proposalId.toNat), ("statusStored", x.statusStored.toTs),
   ("statusEffective", x.statusEffective.toTs), ("registryVersion", .bigint x.registryVersion.toNat),
   ("threshold", .number x.threshold.toNat), ("proposer", .uint8Array x.proposer.1),
   ("approvals", signersTs x.approvals), ("rejections", signersTs x.rejections),
   ("createdHeight", .bigint x.createdHeight.toNat), ("createdMs", .bigint x.createdMs.toNat),
   ("expiryMs", .bigint x.expiryMs.toNat), ("actionTag", .number x.action.actionTag.toNat),
   ("action", x.action.toTs), ("actionCanonicalBytes", .uint8Array x.actionCanonicalBytes),
   ("contentHash", .uint8Array x.contentHash.1)]

def ProposalPage.toTs (x : ProposalPage) : JsVal := .object
  [("proposals", .array (x.proposals.map ProposalDisplayInfo.toTs)),
   ("nextCursor", optionalBigint x.nextCursor)]

/-- The registry, or `null` where none is seeded. -/
def registryTs : Option AdminSignerRegistry → JsVal
  | none => .null
  | some x => .object [("version", .bigint x.version.toNat), ("threshold", .number x.threshold.toNat),
    ("members", signersTs x.members)]

theorem isText_eq_true_iff {v : JsVal} {text : String} : v.isText text = true ↔ v = .string text := by
  cases v <;> simp [JsVal.isText]

theorem decodeStatusVariant_shows (value : JsVal) (field : String) :
    Shows ProposalStatus.toTs (decodeStatusVariant value field) := by
  intro w h
  rw [decodeStatusVariant] at h
  obtain ⟨⟨name, payload⟩, -, h⟩ := bind_ok_iff.mp h
  simp only at h
  split_ifs at h with hfailed hrejected hexpired
  · simp only [bind_ok_iff, pure_ok_iff] at h
    obtain ⟨fields, -, code, hcode, rfl⟩ := h
    obtain ⟨code, rfl⟩ := toU32_shows _ hcode
    exact ⟨.failed code, rfl⟩
  · simp only [bind_ok_iff, pure_ok_iff] at h
    obtain ⟨fields, -, signer, hsigner, rfl⟩ := h
    obtain ⟨signer, rfl⟩ := toBytes_shows 20 _ hsigner
    exact ⟨.rejected signer, rfl⟩
  · obtain ⟨fields, -, h⟩ := bind_ok_iff.mp h
    split_ifs at h with hreason
    · obtain rfl := Except.ok.inj h
      obtain hreason | hreason := Bool.or_eq_true_iff.mp hreason
      · rw [isText_eq_true_iff.mp hreason]
        exact ⟨.expired .ttl, rfl⟩
      · rw [isText_eq_true_iff.mp hreason]
        exact ⟨.expired .registryChanged, rfl⟩
    · cases h
  · cases h

theorem decodeProposalStatus_shows (value : JsVal) (field : String) :
    Shows ProposalStatus.toTs (decodeProposalStatus value field) := by
  cases value with
  | string s =>
    intro w h
    rw [decodeProposalStatus] at h
    split_ifs at h with hpending hexecuted
    · exact ⟨.pending, (Except.ok.inj h).symm⟩
    · exact ⟨.executed, (Except.ok.inj h).symm⟩
    · cases h
  | _ => exact decodeStatusVariant_shows _ field

theorem expectedActionTag_toTs (action : AdminAction) :
    expectedActionTag action.toTs = action.actionTag.toNat := by
  cases action <;> rfl

theorem decodeProposalDisplayInfo_shows (raw : JsVal) (at_ : String) :
    Shows ProposalDisplayInfo.toTs (decodeProposalDisplayInfo raw at_) := by
  intro w h
  rw [decodeProposalDisplayInfo] at h
  obtain ⟨_, -, h⟩ := bind_ok_iff.mp h
  obtain ⟨fields, -, h⟩ := bind_ok_iff.mp h
  obtain ⟨actionTag, -, h⟩ := bind_ok_iff.mp h
  obtain ⟨action, haction, h⟩ := bind_ok_iff.mp h
  obtain ⟨action, rfl⟩ := decodeAdminAction_shows _ _ _ haction
  by_cases htag : actionTag = expectedActionTag action.toTs
  · rw [if_neg (not_not.mpr htag)] at h
    rw [expectedActionTag_toTs] at htag
    simp only [bind_ok_iff, pure_ok_iff] at h
    obtain ⟨proposalId, h0, stored, h1, effective, h2, registryVersion, h3, threshold, h4, proposer,
      h5, approvals, h6, rejections, h7, createdHeight, h8, createdMs, h9, expiryMs, h10, canonical,
      h13, contentHash, h14, rfl⟩ := h
    obtain ⟨proposalId, rfl⟩ := toU64_shows _ h0
    obtain ⟨stored, rfl⟩ := decodeProposalStatus_shows _ _ _ h1
    obtain ⟨effective, rfl⟩ := decodeProposalStatus_shows _ _ _ h2
    obtain ⟨registryVersion, rfl⟩ := toU64_shows _ h3
    obtain ⟨threshold, rfl⟩ := toU32_shows _ h4
    obtain ⟨proposer, rfl⟩ := toBytes_shows 20 _ h5
    obtain ⟨approvals, rfl⟩ := toAddresses_shows _ h6
    obtain ⟨rejections, rfl⟩ := toAddresses_shows _ h7
    obtain ⟨createdHeight, rfl⟩ := toU64_shows _ h8
    obtain ⟨createdMs, rfl⟩ := toU64_shows _ h9
    obtain ⟨expiryMs, rfl⟩ := toU64_shows _ h10
    obtain ⟨canonical, rfl⟩ := toByteSequence_shows _ h13
    obtain ⟨contentHash, rfl⟩ := toBytes_shows 32 _ h14
    rw [htag]
    exact ⟨⟨proposalId, stored, effective, registryVersion, threshold, proposer, approvals,
      rejections, createdHeight, createdMs, expiryMs, action, canonical, contentHash⟩, rfl⟩
  · rw [if_pos htag] at h
    cases h

theorem decodeProposalPage_shows (raw : JsVal) :
    Shows ProposalPage.toTs (decodeProposalPage raw) := by
  intro w h
  simp only [decodeProposalPage, bind_ok_iff, pure_ok_iff] at h
  obtain ⟨fields, -, items, -, proposals, hproposals, nextCursor, hcursor, rfl⟩ := h
  have hrow (v : JsVal) (i : Nat) : Shows ProposalDisplayInfo.toTs (do
      let row ← toArray v s!"proposalPage.items[{i}]"
      decodeProposalDisplayInfo (.array row) s!"proposal[{i}]") := by
    intro w h
    obtain ⟨row, -, h⟩ := bind_ok_iff.mp h
    exact decodeProposalDisplayInfo_shows _ _ w h
  obtain ⟨proposals, rfl⟩ := mapIndexed_shows hrow hproposals
  obtain ⟨nextCursor, rfl⟩ := optionalU64_shows _ hcursor
  exact ⟨⟨proposals, nextCursor⟩, rfl⟩

theorem decodeAdminSignerRegistryInfo_shows (raw : JsVal) :
    Shows registryTs (decodeAdminSignerRegistryInfo raw) := by
  intro w h
  rw [decodeAdminSignerRegistryInfo] at h
  obtain ⟨fields, -, h⟩ := bind_ok_iff.mp h
  rw [decodeAdminSignerRegistry] at h
  split_ifs at h with hnull
  · exact ⟨none, (Except.ok.inj h).symm⟩
  · simp only [bind_ok_iff, pure_ok_iff] at h
    obtain ⟨row, -, version, h0, threshold, h1, members, h2, rfl⟩ := h
    obtain ⟨version, rfl⟩ := toU64_shows _ h0
    obtain ⟨threshold, rfl⟩ := toU32_shows _ h1
    obtain ⟨members, rfl⟩ := toAddresses_shows _ h2
    exact ⟨some ⟨version, threshold, members⟩, rfl⟩

theorem AdminBatchItem.arrives (item : AdminBatchItem) : ∃ v,
    jsOfMsg (AdminBatchItem.schema.toMsg item) = some v ∧
      ∀ field, decodeBatchItem v field = .ok item.toTs := by
  cases item with
  | createMarket x =>
    refine ⟨_, jsOfMsg_variant "CreateMarket" x.jsOfMsg_toMsg, fun field => ?_⟩
    rw [decodeBatchItem_variant, if_pos rfl, x.decode_slots]
    rfl
  | createImpactMarket x =>
    obtain ⟨source, hsource, hdecode⟩ := decodeOracleSource_toMsg x.oracleSource
    refine ⟨_, jsOfMsg_variant "CreateImpactMarket" (x.jsOfMsg_toMsg hsource), fun field => ?_⟩
    rw [decodeBatchItem_variant, if_neg (by decide), if_pos rfl, x.decode_slots hdecode]
    rfl

theorem batch_arrives (items : List AdminBatchItem) : ∃ vs,
    jsOfMsgs (items.map AdminBatchItem.schema.toMsg) = some vs ∧
      ∀ (field : Nat → String) i, mapIndexed (fun item i => decodeBatchItem item (field i)) i vs =
        .ok (items.map AdminBatchItem.toTs) := by
  induction items with
  | nil => exact ⟨[], rfl, fun _ _ => rfl⟩
  | cons item items ih =>
    obtain ⟨v, hv, hdecode⟩ := item.arrives
    obtain ⟨vs, hvs, hrest⟩ := ih
    refine ⟨v :: vs, ?_, fun field i => ?_⟩
    · rw [List.map_cons, jsOfMsgs, hv, hvs]
      rfl
    · rw [mapIndexed, hdecode, hrest]
      rfl

theorem AdminAction.arrives (action : AdminAction) : ∃ v, jsOfMsg action.msg = some v ∧
    ∀ field, decodeAdminAction v field = .ok action.toTs := by
  cases action with
  | createMarket x =>
    refine ⟨_, jsOfMsg_variant "CreateMarket" x.jsOfMsg_toMsg, fun field => ?_⟩
    rw [decodeAdminAction_variant, if_pos rfl, x.decode_slots]
    rfl
  | updateAdminSignerRegistry x =>
    refine ⟨_, jsOfMsg_variant "UpdateAdminSignerRegistry" x.jsOfMsg_toMsg, fun field => ?_⟩
    rw [decodeAdminAction_variant, if_neg (by decide), if_pos rfl, x.decode_slots]
    rfl
  | createImpactMarket x =>
    obtain ⟨source, hsource, hdecode⟩ := decodeOracleSource_toMsg x.oracleSource
    refine ⟨_, jsOfMsg_variant "CreateImpactMarket" (x.jsOfMsg_toMsg hsource), fun field => ?_⟩
    rw [decodeAdminAction_variant, if_neg (by decide), if_neg (by decide), if_pos rfl,
      x.decode_slots hdecode]
    rfl
  | batch items =>
    obtain ⟨vs, hvs, hdecode⟩ := batch_arrives items
    refine ⟨_, jsOfMsg_variant "Batch" (jsOfMsg_arr hvs), fun field => ?_⟩
    rw [decodeAdminAction_variant, if_neg (by decide), if_neg (by decide), if_neg (by decide),
      if_pos rfl, toArray, bind_ok, hdecode fun i => s!"{field}.batch[{i}]"]
    rfl
  | setTriggerMarketConfig x =>
    refine ⟨_, jsOfMsg_variant "SetTriggerMarketConfig" x.jsOfMsg_toMsg, fun field => ?_⟩
    rw [decodeAdminAction_variant, if_neg (by decide), if_neg (by decide), if_neg (by decide),
      if_neg (by decide), if_pos rfl, x.decode_slots]
    rfl

theorem jsOfMsg_signer {n : Nat} (bs : FixedBytes n) :
    jsOfMsg ((Schema.fixedBytes n bareBytes).toMsg bs) = some (.array (byteNumbers bs.1)) :=
  jsOfMsg_byteForm rfl _

theorem decodeStatusVariant_object (name : String) (payload : JsVal) (field : String) :
    decodeProposalStatus (.object [(name, payload)]) field =
      if name = "Failed" then (toTuple payload s!"{field}.{name}" 1).bind fun fields =>
        (toU32 (slot fields 0) s!"{field}.Failed.code").bind fun code =>
        .ok (.object [("kind", .string "Failed"), ("code", code)])
      else if name = "Rejected" then (toTuple payload s!"{field}.{name}" 1).bind fun fields =>
        (toBytes (slot fields 0) s!"{field}.Rejected.by" 20).bind fun signer =>
        .ok (.object [("kind", .string "Rejected"), ("by", signer)])
      else if name = "Expired" then (toTuple payload s!"{field}.{name}" 1).bind fun fields =>
        if (slot fields 0).isText "Ttl" || (slot fields 0).isText "RegistryChanged" then
          .ok (.object [("kind", .string "Expired"), ("reason", slot fields 0)])
        else governanceError s!"{field} has unknown ExpiryReason \"{(slot fields 0).toText}\""
      else unknownVariant field "ProposalStatus" name := rfl

theorem ProposalStatus.arrives (status : ProposalStatus) : ∃ v, jsOfMsg status.toMsg = some v ∧
    ∀ field, decodeProposalStatus v field = .ok status.toTs := by
  have hone (v : JsVal) (field : String) : toTuple (.array [v]) field 1 = .ok [v] := toTuple_array rfl
  have hpayload {m : Msg} {v : JsVal} (name : String) (hv : jsOfMsg m = some v) :
      jsOfMsg (variantMsg name (.arr [m])) = some (.object [(name, .array [v])]) := by
    apply jsOfMsg_variant
    apply jsOfMsg_arr
    simp only [jsOfMsgs, hv, Option.bind_some, Option.map_some]
  cases status with
  | pending =>
    refine ⟨_, jsOfMsg_utf8 "Pending", fun field => ?_⟩
    rw [decodeProposalStatus, if_pos rfl, ProposalStatus.toTs]
  | executed =>
    refine ⟨_, jsOfMsg_utf8 "Executed", fun field => ?_⟩
    rw [decodeProposalStatus, if_neg (by decide), if_pos rfl, ProposalStatus.toTs]
  | failed code =>
    refine ⟨_, hpayload "Failed" (jsOfMsg_int _), fun field => ?_⟩
    rw [decodeStatusVariant_object, if_pos rfl, hone, bind_ok, slot_zero, toU32_jsInt, bind_ok,
      ProposalStatus.toTs]
  | rejected signer =>
    refine ⟨_, hpayload "Rejected" (jsOfMsg_signer signer), fun field => ?_⟩
    rw [decodeStatusVariant_object, if_neg (by decide), if_pos rfl, hone, bind_ok, slot_zero,
      toBytes_numbers, bind_ok, ProposalStatus.toTs]
  | expired reason =>
    refine ⟨_, hpayload "Expired" (jsOfMsg_utf8 reason.name), fun field => ?_⟩
    rw [decodeStatusVariant_object, if_neg (by decide), if_neg (by decide), if_pos rfl, hone, bind_ok,
      slot_zero]
    cases reason <;> rfl

theorem jsOfMsg_signersMsg (signers : List SignerAddress) :
    jsOfMsg (signersMsg signers) = some (.array (signers.map fun m => .array (byteNumbers m.1))) :=
  jsOfMsg_arr (jsOfMsgs_members signers)

theorem toAddresses_members (signers : List SignerAddress) (field : String) :
    toAddresses (.array (signers.map fun m => .array (byteNumbers m.1))) field =
      .ok (signersTs signers) := by
  have hmembers := mapIndexed_members signers (fun i => s!"{field}[{i}]") 0
  show (mapIndexed (fun m i => toBytes m s!"{field}[{i}]" 20) 0 _).bind _ = _
  rw [hmembers]
  rfl

theorem toByteSequence_numbers (bs : Bytes) (field : String) :
    toByteSequence (.array (byteNumbers bs)) field = .ok (.uint8Array bs) := by
  rw [toByteSequence, toByteItems_numbers]
  rfl

theorem decodeProposalDisplayInfo_array
    (v0 v1 v2 v3 v4 v5 v6 v7 v8 v9 v10 v11 v12 v13 v14 : JsVal) (at_ : String) :
    decodeProposalDisplayInfo
        (.array [v0, v1, v2, v3, v4, v5, v6, v7, v8, v9, v10, v11, v12, v13, v14]) at_ =
      (toUnsignedBigInt v11 s!"{at_}.actionTag" (2^8 - 1)).bind fun actionTag =>
      (decodeAdminAction v12 s!"{at_}.action").bind fun action =>
      if actionTag ≠ expectedActionTag action then
        governanceError
          (s!"{at_}.actionTag {actionTag} does not match {kindOf action} tag " ++
            ToString.toString (expectedActionTag action))
      else
      (toU64 v0 s!"{at_}.proposalId").bind fun proposalId =>
      (decodeProposalStatus v1 s!"{at_}.statusStored").bind fun statusStored =>
      (decodeProposalStatus v2 s!"{at_}.statusEffective").bind fun statusEffective =>
      (toU64 v3 s!"{at_}.registryVersion").bind fun registryVersion =>
      (toU32 v4 s!"{at_}.threshold").bind fun threshold =>
      (toBytes v5 s!"{at_}.proposer" 20).bind fun proposer =>
      (toAddresses v6 s!"{at_}.approvals").bind fun approvals =>
      (toAddresses v7 s!"{at_}.rejections").bind fun rejections =>
      (toU64 v8 s!"{at_}.createdHeight").bind fun createdHeight =>
      (toU64 v9 s!"{at_}.createdMs").bind fun createdMs =>
      (toU64 v10 s!"{at_}.expiryMs").bind fun expiryMs =>
      (toByteSequence v13 s!"{at_}.actionCanonicalBytes").bind fun actionCanonicalBytes =>
      (toBytes v14 s!"{at_}.contentHash" 32).bind fun contentHash =>
      .ok (.object [("proposalId", proposalId), ("statusStored", statusStored),
        ("statusEffective", statusEffective), ("registryVersion", registryVersion),
        ("threshold", threshold), ("proposer", proposer), ("approvals", approvals),
        ("rejections", rejections), ("createdHeight", createdHeight), ("createdMs", createdMs),
        ("expiryMs", expiryMs), ("actionTag", .number actionTag), ("action", action),
        ("actionCanonicalBytes", actionCanonicalBytes), ("contentHash", contentHash)]) := rfl

theorem ProposalDisplayInfo.arrives (x : ProposalDisplayInfo) : ∃ row,
    jsOfMsg x.toMsg = some (.array row) ∧
      ∀ at_, decodeProposalDisplayInfo (.array row) at_ = .ok x.toTs := by
  obtain ⟨stored, hstored, hdecodeStored⟩ := x.statusStored.arrives
  obtain ⟨effective, heffective, hdecodeEffective⟩ := x.statusEffective.arrives
  obtain ⟨action, haction, hdecodeAction⟩ := x.action.arrives
  have hcanonical : jsOfMsg (.arr (byteItems x.actionCanonicalBytes)) =
      some (.array (byteNumbers x.actionCanonicalBytes)) := jsOfMsg_arr (jsOfMsgs_byteItems _)
  have hproposer : jsOfMsg (SignerAddress.schema.toMsg x.proposer) =
      some (.array (byteNumbers x.proposer.1)) := jsOfMsg_signer x.proposer
  have hhash : jsOfMsg (ContentHash.schema.toMsg x.contentHash) =
      some (.array (byteNumbers x.contentHash.1)) := jsOfMsg_signer x.contentHash
  have htag (at_ : String) : toUnsignedBigInt (jsInt x.action.actionTag.toNat) at_ (2^8 - 1) =
      .ok x.action.actionTag.toNat := by
    have h := x.action.actionTag.toNat_lt
    exact toUnsignedBigInt_jsInt at_ (by omega) (by omega)
  refine ⟨[jsInt x.proposalId.toNat, stored, effective, jsInt x.registryVersion.toNat,
    jsInt x.threshold.toNat, .array (byteNumbers x.proposer.1),
    .array (x.approvals.map fun m => .array (byteNumbers m.1)),
    .array (x.rejections.map fun m => .array (byteNumbers m.1)), jsInt x.createdHeight.toNat,
    jsInt x.createdMs.toNat, jsInt x.expiryMs.toNat, jsInt x.action.actionTag.toNat, action,
    .array (byteNumbers x.actionCanonicalBytes), .array (byteNumbers x.contentHash.1)], ?_,
    fun at_ => ?_⟩
  · rw [ProposalDisplayInfo.toMsg]
    apply jsOfMsg_arr
    simp only [jsOfMsgs, jsOfMsg_int, hstored, heffective, hproposer, jsOfMsg_signersMsg, haction,
      hcanonical, hhash, Option.bind_some, Option.map_some]
  · rw [decodeProposalDisplayInfo_array, htag, bind_ok, hdecodeAction, bind_ok, expectedActionTag_toTs,
      if_neg (not_not.mpr rfl)]
    simp only [toU64_jsInt, toU32_jsInt, hdecodeStored, hdecodeEffective, toBytes_numbers,
      toAddresses_members, toByteSequence_numbers, bind_ok]
    rw [ProposalDisplayInfo.toTs]

theorem proposals_arrive (proposals : List ProposalDisplayInfo) : ∃ vs,
    jsOfMsgs (proposals.map ProposalDisplayInfo.toMsg) = some vs ∧
      ∀ i, mapIndexed (fun proposal i => do
        let row ← toArray proposal s!"proposalPage.items[{i}]"
        decodeProposalDisplayInfo (.array row) s!"proposal[{i}]") i vs =
          .ok (proposals.map ProposalDisplayInfo.toTs) := by
  induction proposals with
  | nil => exact ⟨[], rfl, fun _ => rfl⟩
  | cons x xs ih =>
    obtain ⟨row, hrow, hdecode⟩ := x.arrives
    obtain ⟨vs, hvs, hrest⟩ := ih
    refine ⟨.array row :: vs, ?_, fun i => ?_⟩
    · rw [List.map_cons, jsOfMsgs, hrow, hvs]
      rfl
    · rw [mapIndexed, hrest]
      show (decodeProposalDisplayInfo (.array row) s!"proposal[{i}]").bind _ = _
      rw [hdecode]
      rfl

theorem decodeProposalPage_array (items : List JsVal) (cursor : JsVal) :
    decodeProposalPage (.array [.array items, cursor]) =
      (mapIndexed (fun proposal i => do
        let row ← toArray proposal s!"proposalPage.items[{i}]"
        decodeProposalDisplayInfo (.array row) s!"proposal[{i}]") 0 items).bind fun proposals =>
      (decodeNextCursor cursor).bind fun nextCursor =>
      .ok (.object [("proposals", .array proposals), ("nextCursor", nextCursor)]) := rfl

theorem ProposalPage.arrives (page : ProposalPage) : ∃ v, jsOfMsg page.toMsg = some v ∧
    decodeProposalPage v = .ok page.toTs := by
  obtain ⟨vs, hvs, hdecode⟩ := proposals_arrive page.proposals
  have hcursor : decodeNextCursor (optionalJsInt page.nextCursor) =
      .ok (optionalBigint page.nextCursor) := toU64_optionalJsInt page.nextCursor _
  refine ⟨.array [.array vs, optionalJsInt page.nextCursor], ?_, ?_⟩
  · rw [ProposalPage.toMsg]
    apply jsOfMsg_arr
    simp only [jsOfMsgs, jsOfMsg_arr hvs, jsOfMsg_optionalJsInt, Option.bind_some, Option.map_some]
  · rw [decodeProposalPage_array, hdecode, bind_ok, hcursor, bind_ok, ProposalPage.toTs]

theorem decodeAdminSignerRegistryInfo_array (v0 v1 v2 : JsVal) :
    decodeAdminSignerRegistryInfo (.array [.array [v0, v1, v2]]) =
      (toU64 v0 "registry.version").bind fun version =>
      (toU32 v1 "registry.threshold").bind fun threshold =>
      (toAddresses v2 "registry.members").bind fun members =>
      .ok (.object [("version", version), ("threshold", threshold), ("members", members)]) := rfl

theorem registry_arrives (registry : Option AdminSignerRegistry) : ∃ v,
    jsOfMsg (registryInfoMsg registry) = some v ∧
      decodeAdminSignerRegistryInfo v = .ok (registryTs registry) := by
  cases registry with
  | none => exact ⟨.array [.null], rfl, rfl⟩
  | some x =>
    have hrow : jsOfMsg x.toMsg = some (.array [jsInt x.version.toNat, jsInt x.threshold.toNat,
        .array (x.members.map fun m => .array (byteNumbers m.1))]) := by
      rw [AdminSignerRegistry.toMsg]
      apply jsOfMsg_arr
      simp only [jsOfMsgs, jsOfMsg_int, jsOfMsg_signersMsg, Option.bind_some, Option.map_some]
    have hinfo : jsOfMsgs [x.toMsg] = some [.array [jsInt x.version.toNat, jsInt x.threshold.toNat,
        .array (x.members.map fun m => .array (byteNumbers m.1))]] := by
      rw [jsOfMsgs, hrow]
      rfl
    refine ⟨_, jsOfMsg_arr hinfo, ?_⟩
    rw [decodeAdminSignerRegistryInfo_array, toU64_jsInt, bind_ok, toU32_jsInt, bind_ok,
      toAddresses_members, bind_ok, registryTs]

end TradingSdk
