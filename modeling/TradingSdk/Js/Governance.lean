import TradingSdk.Js.TriggerTypes

namespace TradingSdk

open Serde Js

variable {valid : Prop}

theorem Side.roundTrips (a : Side) : RoundTrips valid (snakeToCamel "side") Side.schema a := by
  cases a <;> exact roundTrips_of_denotes (t := .number _) rfl trivial ⟨rfl, _, rfl, rfl⟩

theorem TimeInForce.roundTrips (a : TimeInForce) :
    RoundTrips valid (snakeToCamel "time_in_force") TimeInForce.schema a := by
  cases a <;> exact roundTrips_of_denotes (t := .number _) rfl trivial ⟨rfl, _, rfl, rfl⟩

theorem Outcome.roundTrips (a : Outcome) : RoundTrips valid (snakeToCamel "outcome") Outcome.schema a := by
  cases a <;> exact roundTrips_of_denotes (t := .number _) rfl trivial ⟨rfl, _, rfl, rfl⟩

theorem MarkSourceMode.roundTrips (a : MarkSourceMode) :
    RoundTrips valid (snakeToCamel "mark_source_mode") MarkSourceMode.schema a := by
  cases a <;> exact roundTrips_of_denotes (t := .number _) rfl trivial ⟨rfl, _, rfl, rfl⟩

def EventOracleSource.toTs : EventOracleSource → JsVal
  | .underlyingPriceVsStrike strikePrice comparison =>
    .object [("kind", .string "UnderlyingPriceVsStrike"), ("strikePrice", .bigint strikePrice.toNat),
      ("comparison", PriceComparison.schema.toJs comparison)]
  | .marketOracle market strikePrice comparison =>
    .object [("kind", .string "MarketOracle"), ("market", .number market.toNat),
      ("strikePrice", .bigint strikePrice.toNat),
      ("comparison", PriceComparison.schema.toJs comparison)]
  | .relayerAttested => .object [("kind", .string "RelayerAttested")]

theorem EventOracleSource.toWasm_toTs (a : EventOracleSource) :
    eventOracleSourceToWasm a.toTs = EventOracleSource.schema.toJs a := by
  cases a <;> rfl

theorem EventOracleSource.fromWasm_toJs (a : EventOracleSource) :
    fromWasmValue "oracleSource" (EventOracleSource.schema.toJs a) = .ok a.toTs := by
  cases a <;> rfl

theorem EventOracleSource.denotes_toTs (a : EventOracleSource) :
    Denotes "oracleSource" EventOracleSource.schema a.toTs a := by
  have hread := EventOracleSource.schema.ofJs_toJs a (by decide)
  rw [← a.toWasm_toTs] at hread
  refine ⟨by cases a <;> rfl, _, ?_, hread⟩
  cases a <;> rfl

theorem EventOracleSource.shaped_toTs (a : EventOracleSource) : a.toTs.Shaped := by
  have hcomparison : ∀ c, (PriceComparison.schema.toJs c).Shaped := by rintro (_ | _ | _ | _) <;> trivial
  cases a with
  | underlyingPriceVsStrike strikePrice comparison =>
    refine ⟨?_, shaped_kind _, trivial, shaped_field (by decide) (by decide) _, trivial,
      shaped_field (by decide) (by decide) _, hcomparison _, trivial⟩
    show ["kind", "strikePrice", "comparison"].Nodup
    decide
  | marketOracle market strikePrice comparison =>
    refine ⟨?_, shaped_kind _, trivial, shaped_field (by decide) (by decide) _, trivial,
      shaped_field (by decide) (by decide) _, trivial, shaped_field (by decide) (by decide) _,
      hcomparison _, trivial⟩
    show ["kind", "market", "strikePrice", "comparison"].Nodup
    decide
  | relayerAttested => exact ⟨List.nodup_singleton _, shaped_kind _, trivial, trivial⟩

theorem EventOracleSource.roundTrips (a : EventOracleSource) :
    RoundTrips valid (snakeToCamel "oracle_source") EventOracleSource.schema a :=
  roundTrips_of_denotes a.fromWasm_toJs a.shaped_toTs a.denotes_toTs

/-- A governance action as TypeScript has it. -/
def governanceTs (kind : String) (value : JsVal) : JsVal :=
  .object [("kind", .string kind), ("value", value)]

theorem shaped_governanceTs {kind : String} {value : JsVal} (h : value.Shaped) :
    (governanceTs kind value).Shaped := by
  refine ⟨?_, shaped_kind _, trivial, shaped_field (by decide) (by decide) _, h, trivial⟩
  show ["kind", "value"].Nodup
  decide

theorem governanceVariant_eq (entries : Entries) (payload : Except JsError JsVal) :
    governanceVariant entries payload =
      (if ((JsVal.object entries).get "kind").isText "SetTriggerMarketConfig" then
        validateSetTriggerMarketConfig ((JsVal.object entries).get "value")
        else .ok ()).bind fun _ =>
          payload.map fun p => .object [(((JsVal.object entries).get "kind").toText, p)] := by
  rw [governanceVariant]
  cases ((JsVal.object entries).get "kind").isText "SetTriggerMarketConfig" with
  | false => cases payload <;> rfl
  | true => cases validateSetTriggerMarketConfig ((JsVal.object entries).get "value") <;>
      cases payload <;> rfl

theorem governanceItem_governanceTs {kind : String} {value w : JsVal}
    (hvalid : kind = "SetTriggerMarketConfig" → validateSetTriggerMarketConfig value = .ok ())
    (hw : governancePayload value = .ok w) :
    governanceItem (governanceTs kind value) = .ok (.object [(kind, w)]) := by
  have hpayload : governanceValue [("kind", .string kind), ("value", value)] = .ok w := by
    rw [governanceValue, if_neg (by decide), governanceValue, if_pos rfl, hw]
  rw [governanceTs, governanceItem, governanceVariant_eq, hpayload]
  show (if (kind == "SetTriggerMarketConfig") = true then validateSetTriggerMarketConfig value
    else .ok ()).bind (fun _ => .ok (JsVal.object [(kind, w)])) = .ok (.object [(kind, w)])
  by_cases hk : kind = "SetTriggerMarketConfig"
  · rw [if_pos (beq_iff_eq.mpr hk), hvalid hk]
    rfl
  · rw [if_neg (by simpa using hk)]
    rfl

/-- A governance action with a struct as payload. -/
theorem governance_struct {α : Type} {s : Schema α} {x : α} {t : JsVal} (kind : String)
    (hs : s.adaptsItem = true) (hfrom : fromWasmItem (s.toJs x) = .ok t) :
    governanceFromItem (.object [(kind, s.toJs x)]) = .ok (governanceTs kind t) ∧
      governancePayload t = convertItem t := by
  cases s with
  | struct fs e =>
    rw [Schema.toJs] at hfrom ⊢
    rw [fromWasmItem] at hfrom
    obtain ⟨entries, hentries, rfl⟩ := map_eq_ok hfrom
    constructor
    · rw [governanceFromItem, governanceFromEntries, governanceFromPayload, hentries]
      rfl
    · rw [governancePayload, convertItem]
  | _ => cases hs

theorem CreateMarket.schema_adapts : CreateMarket.schema.adaptsItem = true := by decide +kernel
theorem CreateImpactMarket.schema_adapts : CreateImpactMarket.schema.adaptsItem = true := by
  decide +kernel
theorem UpdateAdminSignerRegistry.schema_adapts :
    UpdateAdminSignerRegistry.schema.adaptsItem = true := by decide +kernel
theorem SetTriggerMarketConfig.schema_adapts : SetTriggerMarketConfig.schema.adaptsItem = true := by
  decide +kernel

section Schemas

variable (x : CreateMarket) (y : CreateImpactMarket) (r : UpdateAdminSignerRegistry)
  (c : SetTriggerMarketConfig)

theorem CreateMarket.itemTrips : ItemTrips valid fromWasmItem CreateMarket.schema x := by
  have henums : CreateMarket.schema.EnumsTrip valid "value" x := Schema.enumsTrip _ x (by rfl)
  exact CreateMarket.schema.itemTrips (by decide) CreateMarket.schema_adapts henums

theorem CreateImpactMarket.enumsTrip {key : String} :
    CreateImpactMarket.schema.EnumsTrip valid key y := by
  have hsource : ∀ s, EventOracleSource.schema.EnumsTrip valid (snakeToCamel "oracle_source") s :=
    EventOracleSource.roundTrips
  simp [CreateImpactMarket.schema, Address.schema, Schema.EnumsTrip, Fields.EnumsTrip, hsource]

theorem CreateImpactMarket.itemTrips : ItemTrips valid fromWasmItem CreateImpactMarket.schema y :=
  have henums : CreateImpactMarket.schema.EnumsTrip valid "value" y := y.enumsTrip
  CreateImpactMarket.schema.itemTrips (by decide) CreateImpactMarket.schema_adapts henums

theorem UpdateAdminSignerRegistry.itemTrips :
    ItemTrips valid fromWasmItem UpdateAdminSignerRegistry.schema r := by
  have henums : UpdateAdminSignerRegistry.schema.EnumsTrip valid "value" r :=
    Schema.enumsTrip _ r (by rfl)
  exact UpdateAdminSignerRegistry.schema.itemTrips (by decide) UpdateAdminSignerRegistry.schema_adapts
    henums

theorem SetTriggerMarketConfig.itemTrips :
    ItemTrips valid fromWasmItem SetTriggerMarketConfig.schema c := by
  have henums : SetTriggerMarketConfig.schema.EnumsTrip valid "value" c :=
    Schema.enumsTrip _ c (by rfl)
  exact SetTriggerMarketConfig.schema.itemTrips (by decide) SetTriggerMarketConfig.schema_adapts
    henums

end Schemas

/-- A governance enum arrives in TypeScript and, when the client accepts it, returns. -/
def GovernanceTrips (valid : Prop) {α : Type} (s : Schema α) (a : α) : Prop :=
  ∃ t, governanceFromItem (s.toJs a) = .ok t ∧ t.Shaped ∧
    (valid → ∃ w, governanceItem t = .ok w ∧ s.ofJs w = some a)

theorem governanceTrips_struct {α β : Type} {s : Schema α} {g : Schema β} {x : α} {a : β}
    (kind : String) (hs : s.adaptsItem = true) (h : ItemTrips valid fromWasmItem s x)
    (htoJs : g.toJs a = .object [(kind, s.toJs x)])
    (hofJs : ∀ w, s.ofJs w = some x → g.ofJs (.object [(kind, w)]) = some a)
    (hvalid : valid → kind = "SetTriggerMarketConfig" →
      ∀ t, fromWasmItem (s.toJs x) = .ok t → validateSetTriggerMarketConfig t = .ok ()) :
    GovernanceTrips valid g a := by
  obtain ⟨t, hfrom, hshape, hback⟩ := h
  obtain ⟨hts, hpayload⟩ := governance_struct kind hs hfrom
  refine ⟨_, htoJs ▸ hts, shaped_governanceTs hshape, fun hv => ?_⟩
  obtain ⟨w, hconv, hread⟩ := hback hv
  exact ⟨_, governanceItem_governanceTs (fun hk => hvalid hv hk t hfrom) (hpayload.trans hconv),
    hofJs w hread⟩

theorem AdminBatchItem.trips (item : AdminBatchItem) :
    GovernanceTrips valid AdminBatchItem.schema item := by
  cases item with
  | createMarket x =>
    refine governanceTrips_struct "CreateMarket" CreateMarket.schema_adapts x.itemTrips rfl ?_
      (fun _ hk => absurd hk (by decide))
    intro w hw
    simp [AdminBatchItem.schema, Schema.ofJs, jsTag, Variants.selectJs, hw]
  | createImpactMarket y =>
    refine governanceTrips_struct "CreateImpactMarket" CreateImpactMarket.schema_adapts y.itemTrips rfl ?_
      (fun _ hk => absurd hk (by decide))
    intro w hw
    simp [AdminBatchItem.schema, Schema.ofJs, jsTag, Variants.selectJs, hw]

theorem batch_trips (items : List AdminBatchItem) :
    ∃ ts ws, governanceFromItems (items.map AdminBatchItem.schema.toJs) = .ok ts ∧ ShapedItems ts ∧
      governanceItems ts = .ok ws ∧ ws.mapM AdminBatchItem.schema.ofJs = some items := by
  induction items with
  | nil => exact ⟨[], [], rfl, trivial, rfl, rfl⟩
  | cons item items ih =>
    have htrips : GovernanceTrips True AdminBatchItem.schema item := item.trips
    obtain ⟨t, hfrom, hshape, hback⟩ := htrips
    obtain ⟨w, hconv, hread⟩ := hback trivial
    obtain ⟨ts, ws, hfroms, hshapes, hconvs, hreads⟩ := ih
    refine ⟨t :: ts, w :: ws, ?_, ⟨hshape, hshapes⟩, ?_, ?_⟩
    · rw [List.map_cons, governanceFromItems, hfrom, hfroms]
      rfl
    · rw [governanceItems, hconv, hconvs]
      rfl
    · rw [List.mapM_cons, hread, hreads]
      rfl

/-- What the client requires of a governance action before it encodes it. -/
def AdminAction.FieldsValid : AdminAction → Prop
  | .setTriggerMarketConfig x => x.validateFields = .ok ()
  | _ => True

theorem AdminAction.trips (action : AdminAction) (h : valid → action.FieldsValid) :
    GovernanceTrips valid AdminAction.schema action := by
  cases action with
  | createMarket x =>
    refine governanceTrips_struct "CreateMarket" CreateMarket.schema_adapts x.itemTrips rfl ?_
      (fun _ hk => absurd hk (by decide))
    intro w hw
    simp [AdminAction.schema, Schema.ofJs, jsTag, Variants.selectJs, hw]
  | updateAdminSignerRegistry r =>
    refine governanceTrips_struct "UpdateAdminSignerRegistry"
      UpdateAdminSignerRegistry.schema_adapts r.itemTrips rfl ?_ (fun _ hk => absurd hk (by decide))
    intro w hw
    simp [AdminAction.schema, Schema.ofJs, jsTag, Variants.selectJs, hw]
  | createImpactMarket y =>
    refine governanceTrips_struct "CreateImpactMarket" CreateImpactMarket.schema_adapts y.itemTrips rfl ?_
      (fun _ hk => absurd hk (by decide))
    intro w hw
    simp [AdminAction.schema, Schema.ofJs, jsTag, Variants.selectJs, hw]
  | batch items =>
    obtain ⟨ts, ws, hfrom, hshape, hconv, hread⟩ := batch_trips items
    refine ⟨governanceTs "Batch" (.array ts), ?_, shaped_governanceTs hshape, fun _ =>
      ⟨.object [("Batch", .array ws)],
        governanceItem_governanceTs (fun hk => absurd hk (by decide)) ?_, ?_⟩⟩
    · show governanceFromEntries [("Batch", .array (items.map AdminBatchItem.schema.toJs))] = _
      rw [governanceFromEntries, governanceFromPayload, hfrom]
      rfl
    · rw [governancePayload, hconv]
      rfl
    · simp [AdminAction.schema, Schema.ofJs, jsTag, Variants.selectJs, jsItems, hread]
  | setTriggerMarketConfig c =>
    refine governanceTrips_struct "SetTriggerMarketConfig" SetTriggerMarketConfig.schema_adapts
      c.itemTrips rfl ?_ ?_
    · intro w hw
      simp [AdminAction.schema, Schema.ofJs, jsTag, Variants.selectJs, hw]
    · intro hv _ t ht
      rw [c.fromWasmItem_toJs] at ht
      exact Except.ok.inj ht ▸ c.validate_toTs (h hv)

theorem EmergencyAction.trips (action : EmergencyAction) :
    GovernanceTrips valid EmergencyAction.schema action := by
  have hread := EmergencyAction.schema.ofJs_toJs action (by decide)
  cases action with
  | pauseMarket marketId =>
    refine ⟨governanceTs "PauseMarket" (.object [("marketId", .number marketId.toNat)]), rfl,
      shaped_governanceTs ⟨List.nodup_singleton _, shaped_field (by decide) (by decide) _, trivial,
        trivial⟩, fun _ =>
      ⟨_, governanceItem_governanceTs (fun hk => absurd hk (by decide)) rfl, hread⟩⟩
  | haltTrading =>
    refine ⟨governanceTs "HaltTrading" (.object []), rfl,
      shaped_governanceTs ⟨List.nodup_nil, trivial⟩, fun _ =>
      ⟨_, governanceItem_governanceTs (fun hk => absurd hk (by decide)) rfl, hread⟩⟩
  | setReduceOnly marketId =>
    refine ⟨governanceTs "SetReduceOnly" (.object [("marketId", .number marketId.toNat)]), rfl,
      shaped_governanceTs ⟨List.nodup_singleton _, shaped_field (by decide) (by decide) _, trivial,
        trivial⟩, fun _ =>
      ⟨_, governanceItem_governanceTs (fun hk => absurd hk (by decide)) rfl, hread⟩⟩

/-- Under `action` an object converts as a governance enum. -/
theorem convertValue_action (v : JsVal) : convertValue "action" v = governanceItem v := by
  have ho : "action" ≠ "oracleSource" := by decide
  cases v with
  | array items => rw [convertValue, if_neg ho, if_pos rfl, governanceItem]
  | object entries => rw [convertValue, if_neg ho, if_pos rfl, governanceItem]
  | _ => rfl

theorem roundTrips_action {α : Type} {s : Schema α} {a : α} (hs : s.nullable = false)
    {entries : Entries} (htoJs : s.toJs a = .object entries) (h : GovernanceTrips valid s a) :
    RoundTrips valid (snakeToCamel "action") s a := by
  obtain ⟨t, hfrom, hshape, hback⟩ := h
  have hkey : snakeToCamel "action" = "action" := by decide
  rw [hkey]
  refine ⟨t, ?_, hshape, fun hv => ?_⟩
  · rw [htoJs, governanceFromItem] at hfrom
    rw [htoJs, fromWasmValue, if_neg (by decide), if_pos rfl, hfrom]
  · obtain ⟨w, hconv, hread⟩ := hback hv
    refine .inl ⟨?_, w, (convertValue_action t).trans hconv, hread⟩
    have hw := s.isNullish_of_ofJs hs hread
    cases t with
    | undefined =>
      obtain rfl := Except.ok.inj hconv
      exact hw
    | null =>
      obtain rfl := Except.ok.inj hconv
      exact hw
    | _ => rfl

theorem AdminAction.roundTrips (action : AdminAction) (h : valid → action.FieldsValid) :
    RoundTrips valid (snakeToCamel "action") AdminAction.schema action := by
  cases action <;> exact roundTrips_action rfl rfl (AdminAction.trips _ h)

theorem EmergencyAction.roundTrips (action : EmergencyAction) :
    RoundTrips valid (snakeToCamel "action") EmergencyAction.schema action := by
  cases action <;> exact roundTrips_action rfl rfl (EmergencyAction.trips _)

theorem governanceValue_eq (entries : Entries) :
    governanceValue entries = match entries.lookup "value" with
      | none => .ok (.object [])
      | some v => governancePayload v := by
  induction entries with
  | nil => rfl
  | cons e rest ih =>
    obtain ⟨k, v⟩ := e
    rw [governanceValue, lookup_cons_ite]
    by_cases hk : k = "value"
    · rw [if_pos hk, if_pos hk.symm]
    · rw [if_neg hk, if_neg (Ne.symm hk), ih]

/-- Only the tag of a trigger configuration reads as one. -/
theorem setTriggerMarketConfig_of_ofJs {tag : String} {w : JsVal} {x : SetTriggerMarketConfig}
    (h : AdminAction.schema.ofJs (.object [(tag, w)]) = some (.setTriggerMarketConfig x)) :
    tag = "SetTriggerMarketConfig" ∧ SetTriggerMarketConfig.schema.ofJs w = some x := by
  rw [AdminAction.schema, Schema.ofJs, jsTag, Option.bind_some, Option.map_eq_some_iff] at h
  obtain ⟨b, hb, he⟩ := h
  obtain rfl : b = .inr (.inr (.inr (.inr (.inl x)))) := by
    rcases b with _ | _ | _ | _ | _ | b
    · cases he
    · cases he
    · cases he
    · cases he
    · cases he
      rfl
    · exact b.elim
  simp only [Variants.selectJs] at hb
  split_ifs at hb with h1 h2 h3 h4 h5
  · simp at hb
  · simp at hb
  · simp at hb
  · simp at hb
  · exact ⟨h5, by simpa using hb⟩
  · simp at hb

theorem kind_of_toText {entries : Entries} (hshape : ShapedEntries entries) {text : String}
    (htext : text ≠ "undefined") (h : ((JsVal.object entries).get "kind").toText = text) :
    ((JsVal.object entries).get "kind").isText text = true := by
  have hkind : ∀ v, entries.lookup "kind" = some v → v.isString = true := by
    intro v hv
    induction entries with
    | nil => cases hv
    | cons e rest ih =>
      obtain ⟨k, w⟩ := e
      rw [lookup_cons_ite] at hv
      by_cases hk : "kind" = k
      · rw [if_pos hk] at hv
        exact Option.some.inj hv ▸ hshape.1.2.2 hk.symm
      · rw [if_neg hk] at hv
        exact ih hshape.2.2 (by simpa [JsVal.get, lookup_cons_ite, hk] using h) hv
  rw [JsVal.get] at h ⊢
  cases hl : entries.lookup "kind" with
  | none =>
    rw [hl] at h
    exact absurd h.symm htext
  | some v =>
    rw [hl] at h
    have hs := hkind v hl
    cases v with
    | string s => exact beq_iff_eq.mpr h
    | _ => cases hs

theorem value_object_of_validate {entries : Entries}
    (h : validateSetTriggerMarketConfig ((JsVal.object entries).get "value") = .ok ()) :
    ∃ fields, entries.lookup "value" = some (.object fields) := by
  obtain ⟨n, hn, _⟩ := isIntegerIn_iff.mp (validateSetTriggerMarketConfig_eq_ok.mp h).1
  have hget : (JsVal.object entries).get "value" = (entries.lookup "value").getD .undefined := rfl
  rw [hget] at hn
  cases hl : entries.lookup "value" with
  | none =>
    rw [hl] at hn
    cases hn
  | some v =>
    rw [hl] at hn
    cases v with
    | object fields => exact ⟨fields, rfl⟩
    | _ => cases hn

/-- A trigger configuration that passed the client's validation is valid in the core. -/
theorem fieldsValid_of_governanceItem {v w : JsVal} {action : AdminAction} (hshape : v.Shaped)
    (hconv : governanceItem v = .ok w) (hread : AdminAction.schema.ofJs w = some action) :
    action.FieldsValid := by
  cases action with
  | setTriggerMarketConfig x =>
    cases v with
    | object entries =>
      rw [governanceItem, governanceVariant_eq] at hconv
      obtain ⟨u, hvalid, hconv⟩ := bind_eq_ok hconv
      obtain ⟨p, hp, rfl⟩ := map_eq_ok hconv
      obtain ⟨htag, hx⟩ := setTriggerMarketConfig_of_ofJs hread
      rw [if_pos (kind_of_toText hshape.2 (by decide) htag)] at hvalid
      obtain ⟨fields, hfields⟩ := value_object_of_validate hvalid
      rw [governanceValue_eq, hfields] at hp
      obtain ⟨result, hresult, rfl⟩ := map_eq_ok hp
      rw [JsVal.get, hfields, Option.getD_some] at hvalid
      exact validateFields_of_validateSetTriggerMarketConfig
        (denotesObject_of_ofJs SetTriggerMarketConfig.schema_adapts
          (shaped_of_lookup hshape.2 hfields) hresult hx)
        hvalid
    | _ =>
      obtain rfl := Except.ok.inj hconv
      cases hread
  | _ => trivial

end TradingSdk
