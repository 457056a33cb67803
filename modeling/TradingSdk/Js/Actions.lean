import TradingSdk.Core.Codec
import TradingSdk.Js.Governance

namespace TradingSdk

open Serde Js

/-- What the client requires of an action before it encodes it. -/
def Action.FieldsValid : Action → Prop
  | ⟨.setPositionTriggers, x⟩ => SetPositionTriggers.validateFields x = .ok ()
  | ⟨.cancelPositionTriggers, x⟩ => CancelPositionTriggers.validateFields x = .ok ()
  | ⟨.proposeAdminAction, x⟩ => AdminAction.FieldsValid (ProposeAdminAction.action x)
  | ⟨.approveAdminAction, x⟩ => AdminAction.FieldsValid (ApproveAdminAction.action x)
  | _ => True

theorem ActionKind.schema_adapts (kind : ActionKind) : kind.schema.adaptsItem = true := by
  cases kind <;> decide +kernel

section Enums

variable {valid : Prop} {key : String}

@[simp] theorem Side.enumsTrip (a : Side) :
    Side.schema.EnumsTrip valid (snakeToCamel "side") a := a.roundTrips
@[simp] theorem TimeInForce.enumsTrip (a : TimeInForce) :
    TimeInForce.schema.EnumsTrip valid (snakeToCamel "time_in_force") a := a.roundTrips
@[simp] theorem Outcome.enumsTrip (a : Outcome) :
    Outcome.schema.EnumsTrip valid (snakeToCamel "outcome") a := a.roundTrips
@[simp] theorem MarkSourceMode.enumsTrip (a : MarkSourceMode) :
    MarkSourceMode.schema.EnumsTrip valid (snakeToCamel "mark_source_mode") a := a.roundTrips
@[simp] theorem EmergencyAction.enumsTrip (a : EmergencyAction) :
    EmergencyAction.schema.EnumsTrip valid (snakeToCamel "action") a := a.roundTrips
theorem AdminAction.enumsTrip (a : AdminAction) (h : valid → a.FieldsValid) :
    AdminAction.schema.EnumsTrip valid (snakeToCamel "action") a := a.roundTrips h

theorem PlaceOrder.enumsTrip (x : PlaceOrder) : PlaceOrder.schema.EnumsTrip valid key x := by
  simp [PlaceOrder.schema, Address.schema, Schema.EnumsTrip, Fields.EnumsTrip]

theorem CancelReplaceOrder.enumsTrip (x : CancelReplaceOrder) :
    CancelReplaceOrder.schema.EnumsTrip valid key x := by
  simp [CancelReplaceOrder.schema, Address.schema, Schema.EnumsTrip, Fields.EnumsTrip]

theorem MarketOrder.enumsTrip (x : MarketOrder) : MarketOrder.schema.EnumsTrip valid key x := by
  simp [MarketOrder.schema, Address.schema, Schema.EnumsTrip, Fields.EnumsTrip]

theorem AtomicBasketOrder.enumsTrip (x : AtomicBasketOrder) :
    AtomicBasketOrder.schema.EnumsTrip valid key x := by
  simp [AtomicBasketOrder.schema, AtomicBasketLeg.schema, Address.schema, Schema.EnumsTrip,
    Fields.EnumsTrip]

theorem ResolveEvent.enumsTrip (x : ResolveEvent) : ResolveEvent.schema.EnumsTrip valid key x := by
  simp [ResolveEvent.schema, Address.schema, Schema.EnumsTrip, Fields.EnumsTrip]

theorem UpdateMarketFees.enumsTrip (x : UpdateMarketFees) :
    UpdateMarketFees.schema.EnumsTrip valid key x := by
  simp [UpdateMarketFees.schema, FeeTier.schema, Address.schema, Schema.EnumsTrip, Fields.EnumsTrip]

theorem EmergencyAdminAction.enumsTrip (x : EmergencyAdminAction) :
    EmergencyAdminAction.schema.EnumsTrip valid key x := by
  simp [EmergencyAdminAction.schema, SignerAddress.schema, Schema.EnumsTrip, Fields.EnumsTrip]

theorem ProposeAdminAction.enumsTrip (x : ProposeAdminAction) (h : valid → x.action.FieldsValid) :
    ProposeAdminAction.schema.EnumsTrip valid key x := by
  have haction := x.action.enumsTrip h
  simp [ProposeAdminAction.schema, SignerAddress.schema, Schema.EnumsTrip, Fields.EnumsTrip,
    haction]

theorem ApproveAdminAction.enumsTrip (x : ApproveAdminAction) (h : valid → x.action.FieldsValid) :
    ApproveAdminAction.schema.EnumsTrip valid key x := by
  have haction := x.action.enumsTrip h
  simp [ApproveAdminAction.schema, SignerAddress.schema, ContentHash.schema, Schema.EnumsTrip,
    Fields.EnumsTrip, haction]

end Enums

theorem Action.enumsTrip (action : Action) :
    action.kind.schema.EnumsTrip action.FieldsValid "data" action.payload := by
  obtain ⟨kind, x⟩ := action
  cases kind
  case placeOrder => exact PlaceOrder.enumsTrip x
  case cancelReplaceOrder => exact CancelReplaceOrder.enumsTrip x
  case marketOrder => exact MarketOrder.enumsTrip x
  case atomicBasketOrder => exact AtomicBasketOrder.enumsTrip x
  case createImpactMarket => exact CreateImpactMarket.enumsTrip x
  case resolveEvent => exact ResolveEvent.enumsTrip x
  case updateMarketFees => exact UpdateMarketFees.enumsTrip x
  case emergencyAdminAction => exact EmergencyAdminAction.enumsTrip x
  case proposeAdminAction => exact ProposeAdminAction.enumsTrip x id
  case approveAdminAction => exact ApproveAdminAction.enumsTrip x id
  all_goals exact Schema.enumsTrip _ x (by rfl)

/-- What the type `Action` promises: an object as data, shaped like its interface. -/
def Js.TsAction.Shaped (action : TsAction) : Prop :=
  ∃ entries, action.data = .object entries ∧ (JsVal.object entries).Shaped

theorem Action.fromWasmFields_toJs (action : Action) :
    ∃ entries, fromWasmFields action.kind (action.kind.schema.toJs action.payload) =
        .ok ⟨action.kind, .object entries⟩ ∧
      fromWasmItem (action.kind.schema.toJs action.payload) = .ok (.object entries) ∧
      (JsVal.object entries).Shaped ∧
      (action.FieldsValid → ∃ result, convertEntries [] entries = .ok result ∧
        action.kind.schema.ofJs (.object result) = some action.payload) := by
  obtain ⟨t, hfrom, hshape, hback⟩ := action.kind.schema.itemTrips action.kind.schema_lawful
    action.kind.schema_adapts action.enumsTrip
  obtain ⟨fields, hfields⟩ := toJs_object action.kind.schema_adapts action.payload
  have hitem := hfrom
  rw [hfields, fromWasmItem] at hfrom
  obtain ⟨entries, hentries, rfl⟩ := map_eq_ok hfrom
  refine ⟨entries, ?_, hitem, hshape, fun hv => ?_⟩
  · rw [hfields, fromWasmFields, fromWasmObject, hentries]
    rfl
  · obtain ⟨w, hconv, hread⟩ := hback hv
    rw [convertItem] at hconv
    obtain ⟨result, hresult, rfl⟩ := map_eq_ok hconv
    exact ⟨result, hresult, hread⟩

/-- A valid action passes the client's own validation. -/
theorem Action.validateAction_of_fieldsValid {action : Action} {t : JsVal}
    (h : action.FieldsValid)
    (hfrom : fromWasmItem (action.kind.schema.toJs action.payload) = .ok t) :
    validateAction ⟨action.kind, t⟩ = .ok () := by
  obtain ⟨kind, x⟩ := action
  cases kind
  case setPositionTriggers =>
    rw [ActionKind.schema, SetPositionTriggers.fromWasmItem_toJs] at hfrom
    exact Except.ok.inj hfrom ▸ SetPositionTriggers.validate_toTs h
  case cancelPositionTriggers =>
    rw [ActionKind.schema, CancelPositionTriggers.fromWasmItem_toJs] at hfrom
    exact Except.ok.inj hfrom ▸ CancelPositionTriggers.validate_toTs h
  all_goals rfl

/-- Spelling out the open-interest cap leaves the market creation as it is. -/
theorem CreateMarket.ofJs_assign {fields : Entries} {x : CreateMarket}
    (h : CreateMarket.schema.ofJs (.object fields) = some x)
    (hnull : ((fields.lookup "max_open_interest").getD .undefined).isNullish = true) :
    CreateMarket.schema.ofJs (.object (assign "max_open_interest" (.bigint 0) fields)) = some x := by
  have hrest : ∀ name, name ≠ "max_open_interest" →
      (assign "max_open_interest" (.bigint 0) fields).lookup name = fields.lookup name :=
    fun name hne => by rw [lookup_assign, if_neg hne]
  obtain ⟨h1, h2, h3, h4, h5, h6, h7, h8, h9, h10, h11, hcap, -⟩ := ofJs_struct_eq_some.mp h
  rw [← hrest _ (by decide)] at h1 h2 h3 h4 h5 h6 h7 h8 h9 h10 h11
  refine ofJs_struct_eq_some.mpr ⟨h1, h2, h3, h4, h5, h6, h7, h8, h9, h10, h11, ?_, trivial⟩
  · rw [lookup_assign, if_pos rfl]
    cases hl : fields.lookup "max_open_interest" with
    | none =>
      rw [hl] at hcap
      exact hcap
    | some v =>
      rw [hl] at hcap hnull
      have hn := Schema.u64.isNullish_of_ofJs rfl hcap
      rw [Option.getD_some, hn] at hnull
      cases hnull

theorem ofJs_withOpenInterest {kind : ActionKind} {fields : Entries} {x : kind.Payload}
    (h : kind.schema.ofJs (.object fields) = some x) :
    kind.schema.ofJs (.object (withOpenInterest kind fields)) = some x := by
  rw [withOpenInterest]
  split_ifs with hc
  · obtain ⟨rfl, hnull⟩ := hc
    exact CreateMarket.ofJs_assign h hnull
  · exact h

end TradingSdk
