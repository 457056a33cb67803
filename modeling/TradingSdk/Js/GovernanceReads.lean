import TradingSdk.Js.ProposalPage

namespace TradingSdk

open Serde Msgpack Js

/-- A read is exact: all that it returns shows a typed value, it returns every typed value that the
engine sends, and no two of them look the same. -/
structure ReadsExactly {α : Type} (decoder : MsgpackDecoder) (decode : JsVal → Except JsError JsVal)
    (toMsg : α → Msg) (toTs : α → JsVal) : Prop where
  typed : ∀ v, Shows toTs (decode v)
  complete : ∀ a, (toMsg a).Fits →
    ∃ v, decoder.decode (toMsg a).encode = .ok v ∧ decode v = .ok (toTs a)
  distinct : ∀ a b, toTs a = toTs b → a = b

theorem Reviews.payload {α : Type} {s : Schema α} {decode : JsVal → Except JsError JsVal} {x : α}
    {v t : JsVal} (h : Reviews s decode x) (harrives : jsOfMsg (s.toMsg x) = some v)
    (hdecode : decode v = .ok t) : ∃ w, governancePayload t = .ok w ∧ s.ofJs w = some x := by
  obtain ⟨v', t', w, harrives', hdecode', hpayload, hread⟩ := h
  obtain rfl := Option.some.inj (harrives.symm.trans harrives')
  obtain rfl := Except.ok.inj (hdecode.symm.trans hdecode')
  exact ⟨w, hpayload, hread⟩

/-- What converts back to its value stands for no other. -/
theorem eq_of_payload {α : Type} {s : Schema α} {t : JsVal} {x y : α}
    (hx : ∃ w, governancePayload t = .ok w ∧ s.ofJs w = some x)
    (hy : ∃ w, governancePayload t = .ok w ∧ s.ofJs w = some y) : x = y := by
  obtain ⟨w, hw, hx⟩ := hx
  obtain ⟨w', hw', hy⟩ := hy
  obtain rfl := Except.ok.inj (hw.symm.trans hw')
  exact Option.some.inj (hx.symm.trans hy)

theorem CreateMarket.toTs_inj {x y : CreateMarket} (h : x.toTs = y.toTs) : x = y := by
  have hx := x.reviews.payload x.jsOfMsg_toMsg x.decode_slots
  have hy := y.reviews.payload y.jsOfMsg_toMsg y.decode_slots
  exact eq_of_payload (h ▸ hx) hy

theorem CreateImpactMarket.payload (x : CreateImpactMarket) :
    ∃ w, governancePayload (.object x.allEntries) = .ok w ∧
      CreateImpactMarket.schema.ofJs w = some x := by
  obtain ⟨source, hsource, hdecode⟩ := decodeOracleSource_toMsg x.oracleSource
  exact x.reviews.payload (x.jsOfMsg_toMsg hsource) (x.decode_slots hdecode)

theorem CreateImpactMarket.allEntries_inj {x y : CreateImpactMarket}
    (h : JsVal.object x.allEntries = .object y.allEntries) : x = y :=
  eq_of_payload (h ▸ x.payload) y.payload

theorem UpdateAdminSignerRegistry.entries_inj {x y : UpdateAdminSignerRegistry}
    (h : JsVal.object x.entries = .object y.entries) : x = y := by
  have hx := x.reviews.payload x.jsOfMsg_toMsg x.decode_slots
  have hy := y.reviews.payload y.jsOfMsg_toMsg y.decode_slots
  exact eq_of_payload (h ▸ hx) hy

theorem SetTriggerMarketConfig.toTs_inj {x y : SetTriggerMarketConfig} (h : x.toTs = y.toTs) :
    x = y :=
  eq_of_payload (h ▸ x.converts) y.converts

theorem governanceTs_inj {kind kind' : String} {value value' : JsVal}
    (h : governanceTs kind value = governanceTs kind' value') : kind = kind' ∧ value = value' := by
  simpa [governanceTs] using h

/-- Tagged values of different kinds differ. -/
theorem governanceTs_ne {kind kind' : String} {value value' : JsVal} (hne : kind ≠ kind') :
    governanceTs kind value ≠ governanceTs kind' value' :=
  fun h => hne (governanceTs_inj h).1

theorem AdminBatchItem.toTs_inj {a b : AdminBatchItem} (h : a.toTs = b.toTs) : a = b := by
  match a, b with
  | .createMarket x, .createMarket y => rw [CreateMarket.toTs_inj (governanceTs_inj h).2]
  | .createImpactMarket x, .createImpactMarket y =>
    rw [CreateImpactMarket.allEntries_inj (governanceTs_inj h).2]
  | .createMarket x, .createImpactMarket y => exact absurd h (governanceTs_ne (by decide))
  | .createImpactMarket x, .createMarket y => exact absurd h (governanceTs_ne (by decide))

/-- The kind under which an action is shown. -/
def AdminAction.kind : AdminAction → String
  | .createMarket _ => "CreateMarket"
  | .updateAdminSignerRegistry _ => "UpdateAdminSignerRegistry"
  | .createImpactMarket _ => "CreateImpactMarket"
  | .batch _ => "Batch"
  | .setTriggerMarketConfig _ => "SetTriggerMarketConfig"

theorem AdminAction.kind_eq {a b : AdminAction} (h : a.toTs = b.toTs) : a.kind = b.kind := by
  have hkind (a : AdminAction) : ∃ value, a.toTs = governanceTs a.kind value := by
    cases a <;> exact ⟨_, rfl⟩
  obtain ⟨v, hv⟩ := hkind a
  obtain ⟨w, hw⟩ := hkind b
  exact (governanceTs_inj (hv.symm.trans (h.trans hw))).1

theorem AdminAction.toTs_inj {a b : AdminAction} (h : a.toTs = b.toTs) : a = b := by
  have hkind : a.kind = b.kind := AdminAction.kind_eq h
  cases a with
  | createMarket x =>
    cases b with
    | createMarket y => rw [CreateMarket.toTs_inj (governanceTs_inj h).2]
    | _ => exact absurd hkind (ne_of_beq_false rfl)
  | updateAdminSignerRegistry x =>
    cases b with
    | updateAdminSignerRegistry y =>
      rw [UpdateAdminSignerRegistry.entries_inj (governanceTs_inj h).2]
    | _ => exact absurd hkind (ne_of_beq_false rfl)
  | createImpactMarket x =>
    cases b with
    | createImpactMarket y => rw [CreateImpactMarket.allEntries_inj (governanceTs_inj h).2]
    | _ => exact absurd hkind (ne_of_beq_false rfl)
  | batch items =>
    cases b with
    | batch items' =>
      have hitems : items.map AdminBatchItem.toTs = items'.map AdminBatchItem.toTs :=
        JsVal.array.inj (governanceTs_inj h).2
      rw [List.map_injective_iff.mpr (fun _ _ => AdminBatchItem.toTs_inj) hitems]
    | _ => exact absurd hkind (ne_of_beq_false rfl)
  | setTriggerMarketConfig x =>
    cases b with
    | setTriggerMarketConfig y => rw [SetTriggerMarketConfig.toTs_inj (governanceTs_inj h).2]
    | _ => exact absurd hkind (ne_of_beq_false rfl)

theorem ExpiryReason.name_inj {a b : ExpiryReason} (h : a.name = b.name) : a = b := by
  cases a <;> cases b <;> first | rfl | exact absurd h (by decide)

theorem ProposalStatus.toTs_inj {a b : ProposalStatus} (h : a.toTs = b.toTs) : a = b := by
  cases a <;> cases b <;>
    simp_all [ProposalStatus.toTs, Subtype.ext_iff, UInt32.toNat_inj]
  exact ExpiryReason.name_inj h

theorem signersTs_inj {as bs : List SignerAddress} (h : signersTs as = signersTs bs) : as = bs := by
  have hmap := JsVal.array.inj h
  exact List.map_injective_iff.mpr (fun _ _ h => Subtype.ext (JsVal.uint8Array.inj h)) hmap

theorem ProposalDisplayInfo.toTs_inj {x y : ProposalDisplayInfo} (h : x.toTs = y.toTs) : x = y := by
  cases x
  cases y
  simp only [ProposalDisplayInfo.toTs, JsVal.object.injEq, List.cons.injEq, Prod.mk.injEq, true_and,
    and_true, JsVal.bigint.injEq, JsVal.number.injEq, JsVal.uint8Array.injEq, Int.natCast_inj,
    UInt64.toNat_inj, UInt32.toNat_inj] at h
  obtain ⟨h0, h1, h2, h3, h4, h5, h6, h7, h8, h9, h10, -, h12, h13, h14⟩ := h
  rw [ProposalDisplayInfo.mk.injEq]
  exact ⟨h0, ProposalStatus.toTs_inj h1, ProposalStatus.toTs_inj h2, h3, h4, Subtype.ext h5,
    signersTs_inj h6, signersTs_inj h7, h8, h9, h10, AdminAction.toTs_inj h12, h13, Subtype.ext h14⟩

theorem optionalBigint_inj {m n : Option UInt64} (h : optionalBigint m = optionalBigint n) :
    m = n := by
  cases m <;> cases n <;> simp_all [optionalBigint, UInt64.toNat_inj]

theorem ProposalPage.toTs_inj {p q : ProposalPage} (h : p.toTs = q.toTs) : p = q := by
  cases p
  cases q
  simp only [ProposalPage.toTs, JsVal.object.injEq, List.cons.injEq, Prod.mk.injEq, true_and,
    and_true, JsVal.array.injEq] at h
  rw [ProposalPage.mk.injEq]
  exact ⟨List.map_injective_iff.mpr (fun _ _ => ProposalDisplayInfo.toTs_inj) h.1,
    optionalBigint_inj h.2⟩

theorem registryTs_inj {a b : Option AdminSignerRegistry} (h : registryTs a = registryTs b) :
    a = b := by
  match a, b with
  | none, none => rfl
  | none, some y => cases h
  | some x, none => cases h
  | some x, some y =>
    cases x
    cases y
    simp only [registryTs, JsVal.object.injEq, List.cons.injEq, Prod.mk.injEq, true_and, and_true,
      JsVal.bigint.injEq, JsVal.number.injEq, Int.natCast_inj, UInt64.toNat_inj,
      UInt32.toNat_inj] at h
    rw [h.1, h.2.1, signersTs_inj h.2.2]

/-- The context that the content hash of a proposal covers, on a chain. -/
def ProposalDisplayInfo.context (x : ProposalDisplayInfo) (chainId : FixedBytes 32) :
    ProposalContext where
  chainId := chainId
  proposalId := x.proposalId
  registryVersion := x.registryVersion
  threshold := x.threshold
  proposer := x.proposer
  createdHeight := x.createdHeight
  createdMs := x.createdMs
  expiryMs := x.expiryMs
  action := x.action

/-- An action as it is shown converts back to itself. -/
theorem AdminAction.converts {action : AdminAction} (h : action.FieldsValid) :
    ∃ w, governanceItem action.toTs = .ok w ∧ AdminAction.schema.ofJs w = some action := by
  obtain ⟨v, harrives, hdecode⟩ := action.arrives
  obtain ⟨v', kind, value, w, hreview, -⟩ := action.reviews h
  obtain rfl := Option.some.inj (harrives.symm.trans hreview.arrives)
  have hshown := (hdecode "action").symm.trans (hreview.decodes "action")
  exact ⟨w, Except.ok.inj hshown ▸ hreview.converts, hreview.reads⟩

/-- The adapter refuses an action that the core would refuse. -/
theorem AdminAction.refuses {action : AdminAction} (h : ¬ action.FieldsValid) :
    ∃ e, governanceItem action.toTs = .error e := by
  cases action with
  | setTriggerMarketConfig x =>
    have hvalidate : ∃ e, validateSetTriggerMarketConfig x.toTs = .error e :=
      exists_error fun u hu => h ((SetTriggerMarketConfig.validate_iff (x.typed_toTs "data")).mp hu)
    obtain ⟨e, he⟩ := hvalidate
    refine ⟨e, ?_⟩
    rw [AdminAction.toTs, governanceTs, governanceItem, governanceVariant_eq]
    show (validateSetTriggerMarketConfig x.toTs).bind _ = _
    rw [he]
    rfl
  | _ => exact absurd trivial h

section Approval

variable (rmp : RmpSerde) (wasm : WasmSerde) (sha256 : Bytes → ContentHash)

/-- The hash over what a page shows of a proposal is the hash of the proposal. -/
theorem ProposalDisplayInfo.hash_shown (x : ProposalDisplayInfo) (chainId : FixedBytes 32)
    (h : x.action.FieldsValid) (hfit : x.action.msg.encode.length ≤ wasm.capacity) :
    tsAdminProposalContentHash rmp wasm sha256 ((x.context chainId).toTs x.action.toTs) =
      liftCore (adminProposalContentHash rmp sha256 (x.context chainId)) := by
  obtain ⟨w, hconv, hread⟩ := AdminAction.converts h
  have hpreimage := contentHashPreimage_eq rmp (x.context chainId)
  have hlen : (x.context chainId).action.msg.encode.length < 2^32 :=
    lt_of_le_of_lt hfit wasm.capacity_lt
  rw [if_pos hlen] at hpreimage
  rw [tsContentHash_eq rmp wasm sha256 (x.context chainId) hconv hread hfit,
    adminProposalContentHash, hpreimage]
  rfl

theorem ProposalDisplayInfo.hash_refused (x : ProposalDisplayInfo) (chainId : FixedBytes 32)
    (h : ¬ x.action.FieldsValid) : ∃ e,
    tsAdminProposalContentHash rmp wasm sha256 ((x.context chainId).toTs x.action.toTs) =
      .error e := by
  obtain ⟨e, he⟩ := AdminAction.refuses h
  refine ⟨e, ?_⟩
  rw [tsAdminProposalContentHash, governanceActionToWasm, ProposalContext.toTs, he]
  rfl

/-- Pages of proposals and the signer registry are read exactly. A page's rows are the proposals
that their content hashes cover, and no hash comes out of an action that the core refuses. -/
theorem governance_reads_exact (decoder : MsgpackDecoder) :
    ReadsExactly decoder decodeProposalPage ProposalPage.toMsg ProposalPage.toTs ∧
    ReadsExactly decoder decodeAdminSignerRegistryInfo registryInfoMsg registryTs ∧
    ∀ v w, decodeProposalPage v = .ok w → ∃ page : ProposalPage, w = page.toTs ∧
      ∀ x ∈ page.proposals, ∀ chainId,
        (x.action.FieldsValid → x.action.msg.encode.length ≤ wasm.capacity →
          tsAdminProposalContentHash rmp wasm sha256 ((x.context chainId).toTs x.action.toTs) =
            liftCore (adminProposalContentHash rmp sha256 (x.context chainId))) ∧
        (¬ x.action.FieldsValid → ∃ e,
          tsAdminProposalContentHash rmp wasm sha256 ((x.context chainId).toTs x.action.toTs) =
            .error e) := by
  refine ⟨⟨decodeProposalPage_shows, fun page hfits => ?_, fun _ _ => ProposalPage.toTs_inj⟩,
    ⟨decodeAdminSignerRegistryInfo_shows, fun registry hfits => ?_, fun _ _ => registryTs_inj⟩,
    fun v w h => ?_⟩
  · obtain ⟨v, harrives, hdecode⟩ := page.arrives
    exact ⟨v, decoder.decode_encode _ _ hfits harrives, hdecode⟩
  · obtain ⟨v, harrives, hdecode⟩ := registry_arrives registry
    exact ⟨v, decoder.decode_encode _ _ hfits harrives, hdecode⟩
  · obtain ⟨page, rfl⟩ := decodeProposalPage_shows v w h
    exact ⟨page, rfl, fun x _ chainId => ⟨x.hash_shown rmp wasm sha256 chainId,
      x.hash_refused rmp wasm sha256 chainId⟩⟩

end Approval

def sampleSigner : SignerAddress := ⟨List.replicate 20 1, rfl⟩

/-- A page with one proposal that has lapsed since its status was stored. -/
def sampleProposalPage : ProposalPage :=
  ⟨[⟨1, .pending, .expired .ttl, 1, 2, sampleSigner, [sampleSigner], [], 5, 6, 7,
    .createMarket CreateMarket.default, [], ⟨List.replicate 32 3, rfl⟩⟩], some 2⟩

theorem sampleProposalPage_fits : sampleProposalPage.toMsg.Fits := by
  have haction : (AdminAction.createMarket CreateMarket.default).msg.Fits :=
    fits_of_encode_lt _ (AdminAction.schema.toMsg_intsFit _) (by decide)
  have hpending : (utf8 "Pending").length = 7 := by decide +kernel
  have hexpired : (utf8 "Expired").length = 7 := by decide +kernel
  have hreason : (utf8 ExpiryReason.ttl.name).length = 3 := by decide +kernel
  have htag : (AdminAction.createMarket CreateMarket.default).actionTag.toNat < 2^64 := by decide
  simp [sampleProposalPage, sampleSigner, ProposalPage.toMsg, ProposalDisplayInfo.toMsg,
    ProposalStatus.toMsg, variantMsg, signersMsg, SignerAddress.schema, ContentHash.schema,
    Schema.toMsg, ByteForm.toMsg, bareBytes, byteItems, Msg.Fits, FitsItems, FitsEntries, haction,
    hpending, hexpired, hreason]
  exact htag

theorem governance_reads_exact_sample : ∃ v,
    MsgpackDecoder.reference.decode sampleProposalPage.toMsg.encode = .ok v ∧
    decodeProposalPage v = .ok sampleProposalPage.toTs := by
  exact (governance_reads_exact .reference .reference (fun _ => ⟨List.replicate 32 0, rfl⟩)
    .reference).1.complete sampleProposalPage sampleProposalPage_fits

end TradingSdk
