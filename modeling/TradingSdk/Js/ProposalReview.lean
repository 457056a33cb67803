import TradingSdk.Js.GovernanceSlots

namespace TradingSdk

open Serde Msgpack Js

/-- The decoder shows the fields of a struct, and the adapter gives them back. -/
def Reviews {α : Type} (s : Schema α) (decode : JsVal → Except JsError JsVal) (x : α) : Prop :=
  ∃ v t w, jsOfMsg (s.toMsg x) = some v ∧ decode v = .ok t ∧ governancePayload t = .ok w ∧
    s.ofJs w = some x

theorem CreateMarket.reviews (x : CreateMarket) :
    Reviews CreateMarket.schema decodeCreateMarket x := by
  have htrips : ItemTrips True fromWasmItem CreateMarket.schema x := x.itemTrips
  obtain ⟨t, hfrom, -, hback⟩ := htrips
  obtain ⟨w, hconv, hread⟩ := hback trivial
  obtain rfl := Except.ok.inj (x.fromWasmItem_toJs.symm.trans hfrom)
  exact ⟨_, _, w, x.jsOfMsg_toMsg, x.decode_slots, hconv, hread⟩

theorem SetTriggerMarketConfig.converts (x : SetTriggerMarketConfig) :
    ∃ w, governancePayload x.toTs = .ok w ∧ SetTriggerMarketConfig.schema.ofJs w = some x := by
  have htrips : ItemTrips True fromWasmItem SetTriggerMarketConfig.schema x := x.itemTrips
  obtain ⟨t, hfrom, -, hback⟩ := htrips
  obtain rfl := Except.ok.inj (x.fromWasmItem_toJs.symm.trans hfrom)
  exact hback trivial

theorem CreateImpactMarket.reviews (x : CreateImpactMarket) :
    Reviews CreateImpactMarket.schema decodeCreateImpactMarket x := by
  obtain ⟨source, hsource, hdecode⟩ := decodeOracleSource_toMsg x.oracleSource
  have hkeys := x.allEntries_keys
  obtain ⟨hnodup, hmem⟩ := CreateImpactMarket.keys_ok x.oracleSource.isSome
  obtain ⟨w, hconv, hread⟩ := convertItem_of_denotes CreateImpactMarket.schema_adapts
    (hkeys ▸ hnodup) (hkeys ▸ hmem) x.denotes_allEntries
  exact ⟨_, _, w, x.jsOfMsg_toMsg hsource, x.decode_slots hdecode, hconv, hread⟩

theorem UpdateAdminSignerRegistry.reviews (x : UpdateAdminSignerRegistry) :
    Reviews UpdateAdminSignerRegistry.schema decodeUpdateRegistry x := by
  have hnodup : x.entries.keys.Nodup := by
    show ["newThreshold", "newMembers"].Nodup
    decide
  have hmem : ∀ k ∈ x.entries.keys, k ∈ fieldKeys UpdateAdminSignerRegistry.schema := by
    show ∀ k ∈ ["newThreshold", "newMembers"], k ∈ fieldKeys UpdateAdminSignerRegistry.schema
    decide
  obtain ⟨w, hconv, hread⟩ :=
    convertItem_of_denotes UpdateAdminSignerRegistry.schema_adapts hnodup hmem x.denotes_entries
  exact ⟨_, _, w, x.jsOfMsg_toMsg, x.decode_slots, hconv, hread⟩

/-- The same for a governance enum under the kind of its variant. -/
structure KindReviews {α : Type} (g : Schema α) (decode : JsVal → String → Except JsError JsVal)
    (a : α) (v : JsVal) (kind : String) (value w : JsVal) : Prop where
  arrives : jsOfMsg (g.toMsg a) = some v
  decodes : ∀ field, decode v field = .ok (governanceTs kind value)
  converts : governanceItem (governanceTs kind value) = .ok w
  reads : g.ofJs w = some a

theorem decodeBatchItem_variant (name : String) (payload : JsVal) (field : String) :
    decodeBatchItem (.object [(name, payload)]) field =
      if name = "CreateMarket" then tagged "CreateMarket" (decodeCreateMarket payload)
      else if name = "CreateImpactMarket" then
        tagged "CreateImpactMarket" (decodeCreateImpactMarket payload)
      else unknownVariant field "AdminBatchItem" name := rfl

theorem decodeAdminAction_variant (name : String) (payload : JsVal) (field : String) :
    decodeAdminAction (.object [(name, payload)]) field =
      if name = "CreateMarket" then tagged "CreateMarket" (decodeCreateMarket payload)
      else if name = "UpdateAdminSignerRegistry" then
        tagged "UpdateAdminSignerRegistry" (decodeUpdateRegistry payload)
      else if name = "CreateImpactMarket" then
        tagged "CreateImpactMarket" (decodeCreateImpactMarket payload)
      else if name = "Batch" then
        tagged "Batch" ((toArray payload s!"{field}.batch").bind fun items =>
          (mapIndexed (fun item i => decodeBatchItem item s!"{field}.batch[{i}]") 0 items).bind
            fun decoded => .ok (.array decoded))
      else if name = "SetTriggerMarketConfig" then
        tagged "SetTriggerMarketConfig" (decodeSetTriggerMarketConfig payload)
      else unknownVariant field "AdminAction" name := rfl

theorem AdminBatchItem.reviews (item : AdminBatchItem) :
    ∃ v kind value w, KindReviews AdminBatchItem.schema decodeBatchItem item v kind value w := by
  cases item with
  | createMarket x =>
    obtain ⟨v, t, w, harrive, hdecode, hconv, hread⟩ := x.reviews
    refine ⟨_, "CreateMarket", t, _, jsOfMsg_variant "CreateMarket" harrive, fun field => ?_,
      governanceItem_governanceTs (fun hk => absurd hk (by decide)) hconv, ?_⟩
    · rw [decodeBatchItem_variant, if_pos rfl, hdecode]
      rfl
    · simp [AdminBatchItem.schema, Schema.ofJs, jsTag, Variants.selectJs, hread]
  | createImpactMarket x =>
    obtain ⟨v, t, w, harrive, hdecode, hconv, hread⟩ := x.reviews
    refine ⟨_, "CreateImpactMarket", t, _, jsOfMsg_variant "CreateImpactMarket" harrive,
      fun field => ?_, governanceItem_governanceTs (fun hk => absurd hk (by decide)) hconv, ?_⟩
    · rw [decodeBatchItem_variant, if_neg (by decide), if_pos rfl, hdecode]
      rfl
    · simp [AdminBatchItem.schema, Schema.ofJs, jsTag, Variants.selectJs, hread]

theorem batch_reviews (items : List AdminBatchItem) :
    ∃ vs ts ws, jsOfMsgs (items.map AdminBatchItem.schema.toMsg) = some vs ∧
      (∀ field : Nat → String, ∀ i,
        mapIndexed (fun item i => decodeBatchItem item (field i)) i vs = .ok ts) ∧
      governanceItems ts = .ok ws ∧ ws.mapM AdminBatchItem.schema.ofJs = some items := by
  induction items with
  | nil => exact ⟨[], [], [], rfl, fun _ _ => rfl, rfl, rfl⟩
  | cons item items ih =>
    obtain ⟨v, kind, value, w, hitem⟩ := item.reviews
    obtain ⟨vs, ts, ws, harrive, hdecode, hconv, hread⟩ := ih
    refine ⟨v :: vs, governanceTs kind value :: ts, w :: ws, ?_, fun field i => ?_, ?_, ?_⟩
    · rw [List.map_cons, jsOfMsgs, hitem.arrives, harrive]
      rfl
    · rw [mapIndexed, hitem.decodes, hdecode]
      rfl
    · rw [governanceItems, hitem.converts, hconv]
      rfl
    · rw [List.mapM_cons, hitem.reads, hread]
      rfl

theorem AdminAction.reviews (action : AdminAction) (h : action.FieldsValid) :
    ∃ v kind value w, KindReviews AdminAction.schema decodeAdminAction action v kind value w ∧
      actionTagByKind.lookup kind = some action.actionTag := by
  cases action with
  | createMarket x =>
    obtain ⟨v, t, w, harrive, hdecode, hconv, hread⟩ := x.reviews
    refine ⟨_, "CreateMarket", t, _, ⟨jsOfMsg_variant "CreateMarket" harrive, fun field => ?_,
      governanceItem_governanceTs (fun hk => absurd hk (by decide)) hconv, ?_⟩, rfl⟩
    · rw [decodeAdminAction_variant, if_pos rfl, hdecode]
      rfl
    · simp [AdminAction.schema, Schema.ofJs, jsTag, Variants.selectJs, hread]
  | updateAdminSignerRegistry x =>
    obtain ⟨v, t, w, harrive, hdecode, hconv, hread⟩ := x.reviews
    refine ⟨_, "UpdateAdminSignerRegistry", t, _,
      ⟨jsOfMsg_variant "UpdateAdminSignerRegistry" harrive, fun field => ?_,
      governanceItem_governanceTs (fun hk => absurd hk (by decide)) hconv, ?_⟩, rfl⟩
    · rw [decodeAdminAction_variant, if_neg (by decide), if_pos rfl, hdecode]
      rfl
    · simp [AdminAction.schema, Schema.ofJs, jsTag, Variants.selectJs, hread]
  | createImpactMarket x =>
    obtain ⟨v, t, w, harrive, hdecode, hconv, hread⟩ := x.reviews
    refine ⟨_, "CreateImpactMarket", t, _,
      ⟨jsOfMsg_variant "CreateImpactMarket" harrive, fun field => ?_,
      governanceItem_governanceTs (fun hk => absurd hk (by decide)) hconv, ?_⟩, rfl⟩
    · rw [decodeAdminAction_variant, if_neg (by decide), if_neg (by decide), if_pos rfl, hdecode]
      rfl
    · simp [AdminAction.schema, Schema.ofJs, jsTag, Variants.selectJs, hread]
  | batch items =>
    obtain ⟨vs, ts, ws, harrive, hdecode, hconv, hread⟩ := batch_reviews items
    have hpayload : governancePayload (.array ts) = .ok (.array ws) := by
      rw [governancePayload, hconv]
      rfl
    refine ⟨_, "Batch", .array ts, _, ⟨jsOfMsg_variant "Batch" (jsOfMsg_arr harrive),
      fun field => ?_, governanceItem_governanceTs (fun hk => absurd hk (by decide)) hpayload, ?_⟩,
      rfl⟩
    · rw [decodeAdminAction_variant, if_neg (by decide), if_neg (by decide), if_neg (by decide),
        if_pos rfl, toArray, bind_ok, hdecode fun i => s!"{field}.batch[{i}]"]
      rfl
    · simp [AdminAction.schema, Schema.ofJs, jsTag, Variants.selectJs, jsItems, hread]
  | setTriggerMarketConfig x =>
    obtain ⟨w, hconv, hread⟩ := x.converts
    refine ⟨_, "SetTriggerMarketConfig", x.toTs, _,
      ⟨jsOfMsg_variant "SetTriggerMarketConfig" x.jsOfMsg_toMsg, fun field => ?_,
      governanceItem_governanceTs (fun _ => x.validate_toTs h) hconv, ?_⟩, rfl⟩
    · rw [decodeAdminAction_variant, if_neg (by decide), if_neg (by decide), if_neg (by decide),
        if_neg (by decide), if_pos rfl, x.decode_slots]
      rfl
    · simp [AdminAction.schema, Schema.ofJs, jsTag, Variants.selectJs, hread]

/-- The immutable context of a proposal as TypeScript holds it. -/
structure AdminProposalContext where
  chainId : Bytes
  proposalId : UInt64
  registryVersion : UInt64
  threshold : UInt32
  proposer : Bytes
  createdHeight : UInt64
  createdMs : UInt64
  expiryMs : UInt64
  action : JsVal

section Hash

variable (rmp : RmpSerde) (wasm : WasmSerde) (sha256 : Bytes → ContentHash)

/-- `admin_proposal_content_hash` of the WASM binding. The bytes of the action must fit its
memory. -/
def wasmContentHash (x : AdminProposalContext) (actionJs : JsVal) : Except JsError ContentHash :=
  match exactly 32 x.chainId, exactly 20 x.proposer with
  | none, _ => .error (.error "chain_id must be exactly 32 bytes")
  | some _, none => .error (.error "proposer must be exactly 20 bytes")
  | some chainId, some proposer =>
    match wasm.fromValue AdminAction.schema actionJs with
    | .error e => .error (.error s!"invalid AdminAction: {e}")
    | .ok action => do
      let actionBytes ← liftCore (canonicalAdminActionBytes rmp action)
      if wasm.capacity < actionBytes.length then .error .trap
      else liftCore (adminProposalContentHash rmp sha256 ⟨chainId, x.proposalId, x.registryVersion,
        x.threshold, proposer, x.createdHeight, x.createdMs, x.expiryMs, action⟩)

/-- `adminProposalContentHash` of the TypeScript SDK. -/
def tsAdminProposalContentHash (x : AdminProposalContext) : Except JsError ContentHash :=
  (governanceActionToWasm x.action).bind fun actionJs => wasmContentHash rmp wasm sha256 x actionJs

/-- A proposal as a client holds it once it decoded the action. -/
def ProposalContext.toTs (x : ProposalContext) (action : JsVal) : AdminProposalContext where
  chainId := x.chainId.1
  proposalId := x.proposalId
  registryVersion := x.registryVersion
  threshold := x.threshold
  proposer := x.proposer.1
  createdHeight := x.createdHeight
  createdMs := x.createdMs
  expiryMs := x.expiryMs
  action := action

/-- The preimage of the content hash with the stored bytes of the action in it. -/
def storedPreimage (x : ProposalContext) (actionBytes : Bytes) : Bytes :=
  adminProposalHashDomain ++ (x.header ++ (beBytes 4 actionBytes.length ++ actionBytes))

theorem exactly_val {n : Nat} (bs : FixedBytes n) : exactly n bs.1 = some bs := dif_pos bs.2

theorem tsContentHash_eq (x : ProposalContext) {t w : JsVal} (hconv : governanceItem t = .ok w)
    (hread : AdminAction.schema.ofJs w = some x.action)
    (hfit : x.action.msg.encode.length ≤ wasm.capacity) :
    tsAdminProposalContentHash rmp wasm sha256 (x.toTs t) =
      .ok (sha256 (storedPreimage x x.action.msg.encode)) := by
  have hvalue := (wasm.fromValue_eq_ok AdminAction.schema w x.action).mpr hread
  have hpreimage := contentHashPreimage_eq rmp x
  rw [if_pos (lt_of_le_of_lt hfit wasm.capacity_lt)] at hpreimage
  have hhash : adminProposalContentHash rmp sha256 x =
      .ok (sha256 (storedPreimage x x.action.msg.encode)) := by
    rw [adminProposalContentHash, hpreimage]
    rfl
  rw [tsAdminProposalContentHash, governanceActionToWasm, ProposalContext.toTs, hconv, bind_ok,
    wasmContentHash]
  simp only [exactly_val, hvalue, canonicalAdminActionBytes_eq]
  rw [← liftCore_ok, ← hhash]
  exact if_neg (not_lt.mpr hfit)

/-- What an approver sees is what is hashed. -/
theorem decodeAdminAction_canonical (decoder : MsgpackDecoder) (x : ProposalContext)
    (actionBytes : Bytes) (hbytes : canonicalAdminActionBytes rmp x.action = .ok actionBytes)
    (hvalid : x.action.FieldsValid) (hlen : actionBytes.length < 2^32) :
    ∃ v kind value, decoder.decode actionBytes = .ok v ∧
      decodeAdminAction v "action" = .ok (governanceTs kind value) ∧
      actionTagByKind.lookup kind = some x.action.actionTag ∧
      (∃ w, governanceActionToWasm (governanceTs kind value) = .ok w ∧
        ∃ action, wasm.fromValue AdminAction.schema w = .ok action ∧
          canonicalAdminActionBytes rmp action = .ok actionBytes) ∧
      (actionBytes.length ≤ wasm.capacity →
        tsAdminProposalContentHash rmp wasm sha256 (x.toTs (governanceTs kind value)) =
          .ok (sha256 (storedPreimage x actionBytes))) := by
  have hcanonical := canonicalAdminActionBytes_eq rmp x.action
  rw [hcanonical] at hbytes
  obtain rfl := Except.ok.inj hbytes
  obtain ⟨v, kind, value, w, hreview, htag⟩ := x.action.reviews hvalid
  have hfits := fits_of_encode_lt _ (AdminAction.schema.toMsg_intsFit x.action) hlen
  refine ⟨v, kind, value, decoder.decode_encode _ v hfits hreview.arrives,
    hreview.decodes "action", htag, ⟨w, hreview.converts, x.action, ?_, hcanonical⟩, ?_⟩
  · exact (wasm.fromValue_eq_ok _ _ _).mpr hreview.reads
  · exact tsContentHash_eq rmp wasm sha256 x hreview.converts hreview.reads

end Hash

theorem decodeAdminAction_canonical_sample : ∃ v kind value,
    MsgpackDecoder.reference.decode (AdminAction.createMarket CreateMarket.default).msg.encode =
      .ok v ∧
    decodeAdminAction v "action" = .ok (governanceTs kind value) ∧
    actionTagByKind.lookup kind = some 1 := by
  obtain ⟨v, kind, value, hdecode, hshow, htag, -⟩ :=
    decodeAdminAction_canonical .reference .reference (fun _ => ⟨List.replicate 32 0, rfl⟩)
      .reference (sampleContext 1 (.createMarket CreateMarket.default)) _
      (canonicalAdminActionBytes_eq _ _) trivial (by decide)
  exact ⟨v, kind, value, hdecode, hshow, htag⟩

/-- The slots of `longTicker` in front of the ticker. -/
def tickerFront : List Msg :=
  [.int 0, .int 500, .int 250, .int 5, .int 2, Address.schema.toMsg Address.default, .int 60000,
   .int 3000, .int 0, .int 0]

/-- What a decoder finds in front of the letters: an empty ticker and a letter as the cap. -/
def misreadMarket : Msg :=
  .map [(.str (utf8 "CreateMarket"), .arr (tickerFront ++ [.str [], .int 97]))]

theorem misreadMarket_fits : misreadMarket.Fits := by
  have hkey : (utf8 "CreateMarket").length < 2^32 := by decide
  refine ⟨by decide, hkey, ⟨by decide, ?_⟩, trivial⟩
  simp [tickerFront, FitsItems, Msg.Fits, Address.schema, Schema.toMsg, ByteForm.toMsg,
    newtypeBytes, Address.default, byteItems]

theorem encode_variant (key v : Msg) :
    (Msg.map [(key, v)]).encode = mapHeader 1 ++ (key.encode ++ v.encode) := by
  simp [Msg.encode, encodeEntries]

theorem encode_arr (items : List Msg) :
    (Msg.arr items).encode = arrHeader items.length ++ encodeItems items := by
  rw [Msg.encode]

/-- The header of a ticker of 2^32 letters announces none of them. -/
theorem encode_longTicker (k : Nat) (hk : k + 1 = 2^32) :
    (longTicker (k + 1)).msg.encode =
      misreadMarket.encode ++ (List.replicate k 97 ++ [0]) := by
  have hmsg : (longTicker (k + 1)).msg = .map [(.str (utf8 "CreateMarket"),
      .arr (tickerFront ++ [.str (utf8 (repeatA (k + 1))), .int 0]))] := rfl
  have hstr : (Msg.str (utf8 (repeatA (k + 1)))).encode = [0xa0] ++ (97 :: List.replicate k 97) := by
    have hheader : strHeader (k + 1) = [0xa0] := by
      rw [hk]
      decide
    rw [Msg.encode, utf8_repeatA, List.length_replicate, hheader, List.replicate_succ]
  have h0 : (Msg.int 0).encode = [0] := by decide
  have h97 : (Msg.int 97).encode = [97] := by decide
  have hempty : (Msg.str []).encode = [0xa0] := by decide
  have hlen : ∀ m n : Msg, (tickerFront ++ [m, n]).length = 12 := fun _ _ => rfl
  rw [hmsg, misreadMarket, encode_variant, encode_variant, encode_arr, encode_arr, hlen, hlen,
    encodeItems_append, encodeItems_append]
  simp only [encodeItems, hstr, h0, h97, hempty, List.append_nil, List.append_assoc,
    List.cons_append, List.nil_append]

/-- The ticker is longer than its header can say: the canonical bytes do not decode at all. -/
theorem decodeAdminAction_longTicker :
    (longTicker (2^32)).FieldsValid ∧ ∀ (rmp : RmpSerde) (decoder : MsgpackDecoder),
      ∃ actionBytes e, canonicalAdminActionBytes rmp (longTicker (2^32)) = .ok actionBytes ∧
        decoder.decode actionBytes = .error e := by
  refine ⟨trivial, fun rmp decoder => ?_⟩
  have hk : 4294967295 + 1 = 2^32 := by norm_num
  obtain ⟨e, he⟩ := decoder.decode_extra misreadMarket (List.replicate 4294967295 97 ++ [0])
    misreadMarket_fits (List.append_ne_nil_of_right_ne_nil _ (List.cons_ne_nil _ _))
  rw [← encode_longTicker 4294967295 hk] at he
  exact ⟨_, e, hk ▸ canonicalAdminActionBytes_eq rmp _, he⟩

end TradingSdk
