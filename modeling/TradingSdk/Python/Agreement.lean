import TradingSdk.Js.Typed
import TradingSdk.Python.Encode

namespace TradingSdk.Python

open Serde Js

theorem pass_eq_ok {x y : Except PyError Unit} :
    (do x; y) = .ok () ↔ x = .ok () ∧ y = .ok () := by
  cases x with
  | error e => simp [bind, Except.bind]
  | ok u => simp [bind, Except.bind]

theorem raiseIf_eq_ok {condition : Bool} {message : String} :
    raiseIf condition message = .ok () ↔ condition = false := by
  cases condition <;> simp [raiseIf]

theorem triggerUint_nonzero {name : String} {v : Content} {maximum : Nat}
    (h : triggerUint name v maximum true = .ok ()) : ∃ n, v = .int n ∧ 0 < n ∧ n ≤ maximum := by
  cases v with
  | int n =>
    rw [triggerUint] at h
    split_ifs at h with hrange hzero
    refine ⟨n, rfl, ?_, ?_⟩
    · have hne : n ≠ 0 := fun h0 => hzero ⟨rfl, h0⟩
      omega
    · omega
  | _ => cases h

theorem unlessNone_eq_ok {v : Content} {check : Content → Except PyError Unit} :
    unlessNone v check = .ok () ↔ v.isNull = true ∨ check v = .ok () := by
  rw [unlessNone]
  split_ifs with hnull <;> simp [hnull]

theorem toNat_of_ofContent_u64 {n : Int} {a : UInt64} (h : Schema.u64.ofContent (.int n) = some a) :
    (a.toNat : Int) = n := by
  rw [Schema.ofContent, Content.readInt] at h
  split_ifs at h with hr
  · obtain rfl := Option.some.inj h
    rw [UInt64.toNat_ofNat']
    omega
  · cases h

theorem toNat_of_ofContent_u32 {n : Int} {a : UInt32} (h : Schema.u32.ofContent (.int n) = some a) :
    (a.toNat : Int) = n := by
  rw [Schema.ofContent, Content.readInt] at h
  split_ifs at h with hr
  · obtain rfl := Option.some.inj h
    rw [UInt32.toNat_ofNat']
    omega
  · cases h

/-- A nonzero integer is never read as zero. -/
theorem ne_zero_of_triggerUint {name : String} {v : Content} {maximum : Nat} {a : UInt64}
    (h : triggerUint name v maximum true = .ok ()) (hread : Schema.u64.ofContent v = some a) :
    a ≠ 0 := by
  obtain ⟨n, rfl, hpos, -⟩ := triggerUint_nonzero h
  have hn := toNat_of_ofContent_u64 hread
  rintro rfl
  rw [UInt64.toNat_zero] at hn
  omega

theorem ne_some_zero_of_triggerUint {name : String} {v : Content} {a : Option UInt64}
    (h : unlessNone v (fun id => triggerUint name id u64Max true) = .ok ())
    (hread : (Schema.option .u64).ofContent v = some a) : a ≠ some 0 := by
  obtain hnull | hcheck := unlessNone_eq_ok.mp h
  · rw [Schema.ofContent, if_pos hnull] at hread
    obtain rfl := Option.some.inj hread
    exact (Option.some_ne_none 0).symm
  · obtain ⟨n, rfl, -, -⟩ := triggerUint_nonzero hcheck
    obtain ⟨x, hx, rfl⟩ := Option.map_eq_some_iff.mp hread
    intro hzero
    exact ne_zero_of_triggerUint hcheck hx (Option.some.inj hzero)

theorem ofContents_cons_eq_some {α β : Type} {name : String} {s : Schema α} {dflt : Option α}
    {fs : Fields β} {dict : List (String × Content)} {v : Content} {a : α} {b : β}
    (hv : dict.lookup name = some v) (h : (Fields.cons name s dflt fs).ofContents dict = some (a, b)) :
    s.ofContent v = some a ∧ fs.ofContents dict = some b := by
  rw [Fields.ofContents, hv, readField, Option.bind_eq_some_iff] at h
  obtain ⟨a', ha, hb⟩ := h
  obtain ⟨b', hb', heq⟩ := Option.map_eq_some_iff.mp hb
  obtain ⟨rfl, rfl⟩ := Prod.mk.inj heq
  exact ⟨ha, hb'⟩

theorem lookup_of_names {keys : List String} {self : Attrs} {name : String} (hnodup : keys.Nodup)
    (h : self.map Prod.fst = keys) (hname : name ∈ keys) :
    self.lookup name = some (attr self name) := by
  have hentry := @lookup_entries _ self _ hname
  rwa [entries_of_names hnodup h] at hentry

/-- The fields of a limb instance read as those of the limb. -/
theorem limb_reads {self : Attrs} {limb : TriggerLimb}
    (hnames : self.map Prod.fst = TriggerLimb.attributes.map Attribute.name)
    (h : TriggerLimb.schema.ofContent (.map self) = some limb) :
    Schema.u64.ofContent (attr self "trigger_price") = some limb.triggerPrice ∧
      Schema.u32.ofContent (attr self "max_slippage_bps") = some limb.maxSlippageBps ∧
      (Schema.option .u64).ofContent (attr self "client_trigger_id") =
        some limb.clientTriggerId := by
  have hlookup : ∀ name ∈ TriggerLimb.attributes.map Attribute.name,
      self.lookup name = some (attr self name) := fun name hname =>
    lookup_of_names (by decide) hnames hname
  obtain ⟨⟨price, bps, id, _⟩, hread, rfl⟩ := Option.map_eq_some_iff.mp h
  obtain ⟨hprice, hread⟩ := ofContents_cons_eq_some (hlookup "trigger_price" (by decide)) hread
  obtain ⟨hbps, hread⟩ := ofContents_cons_eq_some (hlookup "max_slippage_bps" (by decide)) hread
  obtain ⟨hid, -⟩ := ofContents_cons_eq_some (hlookup "client_trigger_id" (by decide)) hread
  exact ⟨hprice, hbps, hid⟩

theorem limb_valid {self : Attrs} {limb : TriggerLimb}
    (hnames : self.map Prod.fst = TriggerLimb.attributes.map Attribute.name)
    (hpost : TriggerLimb.postInit self = .ok ())
    (h : TriggerLimb.schema.ofContent (.map self) = some limb) : limb.validateFields = .ok () := by
  obtain ⟨hprice, hbps, hid⟩ := limb_reads hnames h
  rw [TriggerLimb.postInit, pass_eq_ok, pass_eq_ok] at hpost
  obtain ⟨hpostPrice, hpostBps, hpostId⟩ := hpost
  refine TriggerLimb.validateFields_eq_ok.mpr ⟨ne_zero_of_triggerUint hpostPrice hprice, ?_,
    ne_some_zero_of_triggerUint hpostId hid⟩
  obtain ⟨n, hn, hpos, hmax⟩ := triggerUint_nonzero hpostBps
  rw [hn] at hbps
  have hnat := toNat_of_ofContent_u32 hbps
  have hlimit : TradingSdk.maxTriggerSlippageBps.toNat = 9999 := rfl
  rw [maxTriggerSlippageBps] at hmax
  rw [UInt32.le_iff_toNat_le, UInt32.le_iff_toNat_le, UInt32.toNat_one, hlimit]
  omega

/-- An optional limb is valid, and is there exactly when its attribute is not `None`. -/
theorem optionalLimb_valid {v : Content} {limb : Option TriggerLimb}
    (hadmits : (TypeHint.optional .triggerLimb).Admits v)
    (h : (Schema.option TriggerLimb.schema).ofContent v = some limb) :
    validateOptionalLimb limb = .ok () ∧ v.isNull = limb.isNone ∧
      (Schema.option .u64).ofContent (limbId v) = some (limb.bind TriggerLimb.clientTriggerId) := by
  obtain rfl | ⟨self, rfl, hnames, hpost⟩ := hadmits
  · obtain rfl := Option.some.inj h
    exact ⟨rfl, rfl, rfl⟩
  · obtain ⟨limb, hread, rfl⟩ := Option.map_eq_some_iff.mp h
    exact ⟨limb_valid hnames hpost hread, rfl, (limb_reads hnames hread).2.2⟩

theorem int_of_ofContent {v : Content} {n : UInt64}
    (h : (Schema.option .u64).ofContent v = some (some n)) : v = .int n.toNat := by
  cases v with
  | int m =>
    obtain ⟨x, hx, heq⟩ := Option.map_eq_some_iff.mp h
    obtain rfl := Option.some.inj heq
    rw [toNat_of_ofContent_u64 hx]
  | null => cases Option.some.inj h
  | _ => cases h

/-- Distinct integers are read as distinct identifiers. -/
theorem duplicateClientTriggerId_of_sameInt {v w : Content} {stop take : Option TriggerLimb}
    (hstop : (Schema.option .u64).ofContent v = some (stop.bind TriggerLimb.clientTriggerId))
    (htake : (Schema.option .u64).ofContent w = some (take.bind TriggerLimb.clientTriggerId))
    (h : sameInt v w = false) : duplicateClientTriggerId stop take = false := by
  cases hs : stop with
  | none => rfl
  | some stop =>
    cases ht : take with
    | none => rfl
    | some take =>
      rw [hs, Option.bind_some] at hstop
      rw [ht, Option.bind_some] at htake
      rw [duplicateClientTriggerId, Bool.and_eq_false_iff, decide_eq_false_iff_not]
      by_contra hdup
      rw [not_or, Bool.not_eq_false, not_not] at hdup
      obtain ⟨hsome, heq⟩ := hdup
      obtain ⟨n, hn⟩ := Option.isSome_iff_exists.mp hsome
      rw [hn] at hstop
      rw [← heq, hn] at htake
      rw [int_of_ofContent hstop, int_of_ofContent htake, sameInt, beq_self_eq_true] at h
      cases h

/-- What an instance of `SetPositionTriggers` checks, its payload satisfies. -/
theorem setPositionTriggers_valid {kwargs self : Attrs} {x : SetPositionTriggers}
    (hself : setPositionTriggers.construct kwargs = .ok self)
    (h : Given setPositionTriggers SetPositionTriggers.schema kwargs x) :
    x.validateFields = .ok () := by
  obtain ⟨rfl, hpost, hvalues⟩ := construct_eq_ok hself
  obtain ⟨-, -, hepoch, hstop, htake, hgroup, -⟩ := h
  have hadmitsStop := hstop.admits (t := ⟨"stop_loss", .optional .triggerLimb, some .null⟩) rfl
    (.inl rfl)
  have hadmitsTake := htake.admits (t := ⟨"take_profit", .optional .triggerLimb, some .null⟩) rfl
    (.inl rfl)
  have hepoch := hepoch.ofContent (t := ⟨"expected_position_epoch", .int, none⟩) rfl
    (hvalues _ (by simp [setPositionTriggers])) (fun d hd => by cases hd) (.inl rfl) rfl
  have hstop := hstop.ofContent (t := ⟨"stop_loss", .optional .triggerLimb, some .null⟩) rfl
    (hvalues _ (by simp [setPositionTriggers])) (fun d hd => by cases hd; rfl) (.inl rfl) rfl
  have htake := htake.ofContent (t := ⟨"take_profit", .optional .triggerLimb, some .null⟩) rfl
    (hvalues _ (by simp [setPositionTriggers])) (fun d hd => by cases hd; rfl) (.inl rfl) rfl
  have hgroup := hgroup.ofContent (t := ⟨"client_group_id", .optional .int, some .null⟩) rfl
    (hvalues _ (by simp [setPositionTriggers])) (fun d hd => by cases hd; rfl) (.inl rfl) rfl
  obtain ⟨hvalidStop, hnullStop, hidStop⟩ := optionalLimb_valid hadmitsStop hstop
  obtain ⟨hvalidTake, hnullTake, hidTake⟩ := optionalLimb_valid hadmitsTake htake
  simp only [setPositionTriggers, pass_eq_ok] at hpost
  obtain ⟨-, -, hpostEpoch, hpostLimbs, hpostGroup, hpostIds⟩ := hpost
  have hempty := raiseIf_eq_ok.mp hpostLimbs
  refine SetPositionTriggers.validateFields_eq_ok.mpr
    ⟨ne_zero_of_triggerUint hpostEpoch hepoch, ?_, ne_some_zero_of_triggerUint hpostGroup hgroup,
      hvalidStop, hvalidTake,
      duplicateClientTriggerId_of_sameInt hidStop hidTake (raiseIf_eq_ok.mp hpostIds)⟩
  exact (congrArg₂ and hnullStop hnullTake).symm.trans hempty

theorem cancelPositionTriggers_valid {kwargs self : Attrs} {x : CancelPositionTriggers}
    (hself : cancelPositionTriggers.construct kwargs = .ok self)
    (h : Given cancelPositionTriggers CancelPositionTriggers.schema kwargs x) :
    x.validateFields = .ok () := by
  obtain ⟨rfl, hpost, hvalues⟩ := construct_eq_ok hself
  obtain ⟨-, -, hepoch, -⟩ := h
  have hepoch := hepoch.ofContent (t := ⟨"expected_position_epoch", .int, none⟩) rfl
    (hvalues _ (by simp [cancelPositionTriggers])) (fun d hd => by cases hd) (.inl rfl) rfl
  simp only [cancelPositionTriggers, pass_eq_ok] at hpost
  exact CancelPositionTriggers.validateFields_eq_ok.mpr
    (ne_zero_of_triggerUint hpost.2.2 hepoch)

/-- A typed builder holds no action that the client would refuse to encode. -/
theorem fieldsValid_of_construct {kind : ActionKind} {cls : Builder} {kwargs self : Attrs}
    {x : kind.Payload} (h : typedBuilder kind = some cls) (hself : cls.construct kwargs = .ok self)
    (hgiven : Given cls kind.schema kwargs x) : (Action.mk kind x).FieldsValid := by
  cases kind <;> cases h
  case setPositionTriggers => exact setPositionTriggers_valid hself hgiven
  case cancelPositionTriggers => exact cancelPositionTriggers_valid hself hgiven
  all_goals trivial

theorem enumsDenote_of_typedBuilder {kind : ActionKind} {cls : Builder}
    (h : typedBuilder kind = some cls) : kind.schema.EnumsDenote "data" := by
  cases kind <;> cases h
  case placeOrder =>
    simp [ActionKind.schema, PlaceOrder.schema, Address.schema, Schema.EnumsDenote,
      Fields.EnumsDenote]
  case cancelReplaceOrder =>
    simp [ActionKind.schema, CancelReplaceOrder.schema, Address.schema, Schema.EnumsDenote,
      Fields.EnumsDenote]
  case marketOrder =>
    simp [ActionKind.schema, MarketOrder.schema, Address.schema, Schema.EnumsDenote,
      Fields.EnumsDenote]
  case atomicBasketOrder =>
    simp [ActionKind.schema, AtomicBasketOrder.schema, AtomicBasketLeg.schema, Address.schema,
      Schema.EnumsDenote, Fields.EnumsDenote]
  case createImpactMarket =>
    simp [ActionKind.schema, CreateImpactMarket.schema, Address.schema, Schema.EnumsDenote,
      Fields.EnumsDenote]
  case updateMarketFees =>
    simp [ActionKind.schema, UpdateMarketFees.schema, FeeTier.schema, Address.schema,
      Schema.EnumsDenote, Fields.EnumsDenote]
  all_goals exact Schema.enumsDenote _ rfl

/-- Both encoders return the encoding of a payload that a builder and an action hold exactly when
it sets no mark source mode and fits the memory of the WASM build. -/
theorem encodeAction_agrees_iff (rmp : RmpSerde) (dyn : ContentSerde) (wasm : WasmSerde)
    (hdyn : dyn.NamesVariants) {kind : ActionKind} {cls : Builder} {kwargs self : Attrs}
    {data : JsVal} {x : kind.Payload} (hcls : typedBuilder kind = some cls)
    (hself : cls.construct kwargs = .ok self) (hgiven : Given cls kind.schema kwargs x)
    (htyped : kind.schema.Typed "data" data x) :
    (encodeAction rmp dyn ⟨cls, self⟩ =
        .ok (kind.actionType, (Action.mk kind x).payloadMsg.encode) ∧
      encodePayloadBytes rmp wasm ⟨kind, data⟩ = .ok (Action.mk kind x).payloadMsg.encode) ↔
    markSourceMode ⟨kind, x⟩ = none ∧
      (Action.mk kind x).payloadMsg.encode.length ≤ wasm.capacity := by
  have hts := encodePayloadBytes_of_typed rmp wasm (enumsDenote_of_typedBuilder hcls) htyped
    (fieldsValid_of_construct hcls hself hgiven)
  constructor
  · intro h
    obtain ⟨hpython, htypescript⟩ := h
    constructor
    · cases hmode : markSourceMode ⟨kind, x⟩ with
      | none => rfl
      | some mode =>
        obtain ⟨e, he⟩ := encodeAction_mode rmp dyn hdyn hcls hself hgiven hmode
        rw [he] at hpython
        cases hpython
    · rw [hts] at htypescript
      split_ifs at htypescript with hlen
      exact hlen
  · intro h
    obtain ⟨hmode, hlen⟩ := h
    rw [if_pos hlen] at hts
    exact ⟨encodeAction_eq rmp dyn hcls hself hgiven hmode, hts⟩

def noOwner : Bytes := List.replicate 20 0

theorem encodeAction_agrees_iff_sampleCancel :
    encodeAction .reference .reference
        ⟨cancelOrder, [("order_id", .int 7), ("owner", .bytes noOwner)]⟩ =
        .ok (2, sampleCancel.payloadMsg.encode) ∧
      encodePayloadBytes .reference .reference
        ⟨.cancelOrder, .object [("orderId", .bigint 7), ("owner", .uint8Array noOwner)]⟩ =
        .ok sampleCancel.payloadMsg.encode :=
  (@encodeAction_agrees_iff .reference .reference .reference
    ContentSerde.reference_namesVariants .cancelOrder cancelOrder
    [("order_id", .int 7), ("owner", .bytes noOwner)] _
    (.object [("orderId", .bigint 7), ("owner", .uint8Array noOwner)]) sampleCancel.payload rfl rfl
    ⟨⟨fun _ ht => by cases ht; exact ⟨7, rfl⟩, .inl rfl⟩,
      ⟨fun _ ht => by cases ht; exact ⟨noOwner, rfl⟩, .inl rfl⟩, trivial⟩
    ⟨_, rfl, by decide, by decide, .inr rfl, .inr rfl, trivial⟩).mpr ⟨rfl, by decide⟩

/-- An update that switches the mark price of market 1 to the median. -/
def medianFees : UpdateMarketFees where
  market := 1
  signer := Address.default
  takerFeeBps := none
  makerFeeBps := none
  maxFundingRateBps := none
  fundingIntervalMs := none
  maxPositionSize := none
  defaultTtlMs := none
  netDeltaMargin := none
  tickSize := none
  lotSize := none
  primaryOracleSigner := none
  oracleStalenessMs := none
  markSourceMode := some .median
  maxMarkSpreadBps := none
  cexCompositeStalenessMs := none
  partialLiquidationEnabled := none
  feeTiers := none
  imBps := none
  mmBps := none
  maxOpenInterest := none

def medianKwargs : Attrs :=
  [("market", .int 1), ("signer", .bytes noOwner), ("mark_source_mode", .int 1)]

def medianData : JsVal :=
  .object [("market", .number 1), ("signer", .uint8Array noOwner), ("markSourceMode", .number 1)]

theorem medianKwargs_given :
    Given updateMarketFees UpdateMarketFees.schema medianKwargs medianFees := by
  refine ⟨⟨fun _ ht => by cases ht; exact ⟨1, rfl⟩, .inl rfl⟩,
    ⟨fun _ ht => by cases ht; exact ⟨noOwner, rfl⟩, .inl rfl⟩,
    rfl, rfl, rfl, rfl, rfl, rfl, rfl, rfl, rfl, rfl, rfl, ?_, rfl, rfl, rfl, rfl, rfl, rfl, rfl,
    trivial⟩
  exact ⟨fun _ ht => by cases ht; exact .inr ⟨1, rfl⟩, .inr ⟨rfl, rfl⟩⟩

theorem medianData_typed : UpdateMarketFees.schema.Typed "data" medianData medianFees := by
  refine ⟨_, rfl, by decide, by decide, .inr rfl, .inr rfl, rfl, rfl, rfl, rfl, rfl, rfl, rfl, rfl,
    rfl, rfl, rfl, ?_, rfl, rfl, rfl, rfl, rfl, rfl, rfl, trivial⟩
  exact .inr ⟨.median, rfl, rfl⟩

/-- The documented mark source mode of the Python builder is refused, that of TypeScript is not. -/
theorem encodeAction_markSourceMode : ∃ self, updateMarketFees.construct medianKwargs = .ok self ∧
    Given updateMarketFees UpdateMarketFees.schema medianKwargs medianFees ∧
    UpdateMarketFees.schema.Typed "data" medianData medianFees ∧
    (∃ e, encodeAction .reference .reference ⟨updateMarketFees, self⟩ = .error e) ∧
    encodePayloadBytes .reference .reference ⟨.updateMarketFees, medianData⟩ =
      .ok (Action.mk .updateMarketFees medianFees).payloadMsg.encode := by
  refine ⟨_, rfl, medianKwargs_given, medianData_typed, ?_, ?_⟩
  · exact @encodeAction_mode .reference .reference .updateMarketFees _ _ _ medianFees _
      ContentSerde.reference_namesVariants rfl rfl medianKwargs_given rfl
  · have henums := @enumsDenote_of_typedBuilder .updateMarketFees _ rfl
    have hencode := encodePayloadBytes_of_typed .reference .reference henums medianData_typed trivial
    rw [if_pos (by decide)] at hencode
    exact hencode

end TradingSdk.Python
