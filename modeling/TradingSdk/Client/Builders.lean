import TradingSdk.Js.Codec

namespace TradingSdk

open Serde Js

/-- Whom an order, a cancellation, a close or a trigger bracket acts for. -/
def Action.owner : Action → Option Address
  | ⟨.placeOrder, x⟩ => some (PlaceOrder.owner x)
  | ⟨.marketOrder, x⟩ => some (MarketOrder.owner x)
  | ⟨.cancelOrder, x⟩ => some (CancelOrder.owner x)
  | ⟨.cancelClientOrder, x⟩ => some (CancelClientOrder.owner x)
  | ⟨.cancelAllOrders, x⟩ => some (CancelAllOrders.owner x)
  | ⟨.closePosition, x⟩ => some (ClosePosition.owner x)
  | ⟨.setPositionTriggers, x⟩ => some (SetPositionTriggers.owner x)
  | ⟨.cancelPositionTriggers, x⟩ => some (CancelPositionTriggers.owner x)
  | _ => none

namespace Client

/-- A call of a convenience builder, with its arguments. -/
inductive Builder where
  | placeOrder (params : Entries)
  | marketOrder (params : Entries)
  | cancelOrder (orderId : JsVal)
  | cancelClientOrder (clientOrderId : JsVal)
  | cancelAllOrders (market : JsVal)
  | closePosition (market : JsVal)
  | setPositionTriggers (params : Entries)
  | cancelPositionTriggers (market expectedPositionEpoch owner : JsVal)

/-- `a ?? b`. -/
def nullishOr (a b : JsVal) : JsVal := if a.isNullish then b else a

/-- The address of the loaded signer. -/
def requireOwner : Option Address → Except JsError JsVal
  | none => .error (.error
      "No signer key loaded — call setPrivateKey() before submitting actions")
  | some address => .ok (.uint8Array address.1)

/-- `owner ?? requireOwner()`. -/
def ownerOr (address : Option Address) (owner : JsVal) : Except JsError JsVal :=
  if owner.isNullish then requireOwner address else .ok owner

/-- The action that a builder hands to `submitTx`, or what it throws. -/
def Builder.action (address : Option Address) : Builder → Except JsError TsAction
  | .placeOrder params => do
    let owner ← requireOwner address
    return ⟨.placeOrder, .object (assign "owner" owner params)⟩
  | .marketOrder params => do
    let owner ← requireOwner address
    return ⟨.marketOrder, .object (assign "owner" owner params)⟩
  | .cancelOrder orderId => do
    let owner ← requireOwner address
    return ⟨.cancelOrder, .object [("orderId", orderId), ("owner", owner)]⟩
  | .cancelClientOrder clientOrderId => do
    let owner ← requireOwner address
    return ⟨.cancelClientOrder, .object [("clientOrderId", clientOrderId), ("owner", owner)]⟩
  | .cancelAllOrders market => do
    let owner ← requireOwner address
    return ⟨.cancelAllOrders, .object [("owner", owner), ("market", nullishOr market .null)]⟩
  | .closePosition market => do
    let owner ← requireOwner address
    return ⟨.closePosition, .object [("market", market), ("owner", owner)]⟩
  | .setPositionTriggers params => do
    let owner ← ownerOr address ((JsVal.object params).get "owner")
    let data := .object (assign "owner" owner params)
    validateSetPositionTriggers data
    return ⟨.setPositionTriggers, data⟩
  | .cancelPositionTriggers market expectedPositionEpoch owner => do
    let owner ← ownerOr address owner
    let data := .object [("market", market), ("owner", owner),
      ("expectedPositionEpoch", expectedPositionEpoch)]
    validateCancelPositionTriggers data
    return ⟨.cancelPositionTriggers, data⟩

/-- The owner that the caller names itself, which only the trigger builders take. -/
def Builder.delegatedOwner : Builder → JsVal
  | .setPositionTriggers params => (JsVal.object params).get "owner"
  | .cancelPositionTriggers _ _ owner => owner
  | _ => .undefined

/-- A builder that asks for the signer goes on with its address. -/
theorem requireOwner_bind {address : Option Address} {f : JsVal → Except JsError TsAction}
    {action : TsAction} (h : (requireOwner address).bind f = .ok action) :
    ∃ a, address = some a ∧ f (.uint8Array a.1) = .ok action := by
  cases address with
  | none => cases h
  | some a => exact ⟨a, rfl, h⟩

theorem ownerOr_bind {address : Option Address} {owner : JsVal}
    {f : JsVal → Except JsError TsAction} {action : TsAction} (hn : owner.isNullish = true)
    (h : (ownerOr address owner).bind f = .ok action) :
    ∃ a, address = some a ∧ f (.uint8Array a.1) = .ok action := by
  rw [ownerOr, if_pos hn] at h
  exact requireOwner_bind h

/-- A field of the action holds the address of the signer. -/
structure OwnedBy (a : Address) (action : TsAction) : Prop where
  kind : ∀ x : action.type.Payload, (Action.mk action.type x).owner ≠ none
  field : ∃ entries, action.data = .object entries ∧
    entries.lookup "owner" = some (.uint8Array a.1)

theorem Builder.ownedBy {address : Option Address} {b : Builder} {action : TsAction}
    (h : b.action address = .ok action) (hb : b.delegatedOwner.isNullish = true) :
    ∃ a, address = some a ∧ OwnedBy a action := by
  cases b with
  | placeOrder params =>
    obtain ⟨a, ha, h⟩ := requireOwner_bind h
    obtain rfl := Except.ok.inj h
    exact ⟨a, ha, fun _ => nofun, _, rfl, by rw [lookup_assign, if_pos rfl]⟩
  | marketOrder params =>
    obtain ⟨a, ha, h⟩ := requireOwner_bind h
    obtain rfl := Except.ok.inj h
    exact ⟨a, ha, fun _ => nofun, _, rfl, by rw [lookup_assign, if_pos rfl]⟩
  | cancelOrder orderId =>
    obtain ⟨a, ha, h⟩ := requireOwner_bind h
    obtain rfl := Except.ok.inj h
    exact ⟨a, ha, fun _ => nofun, _, rfl, rfl⟩
  | cancelClientOrder clientOrderId =>
    obtain ⟨a, ha, h⟩ := requireOwner_bind h
    obtain rfl := Except.ok.inj h
    exact ⟨a, ha, fun _ => nofun, _, rfl, rfl⟩
  | cancelAllOrders market =>
    obtain ⟨a, ha, h⟩ := requireOwner_bind h
    obtain rfl := Except.ok.inj h
    exact ⟨a, ha, fun _ => nofun, _, rfl, rfl⟩
  | closePosition market =>
    obtain ⟨a, ha, h⟩ := requireOwner_bind h
    obtain rfl := Except.ok.inj h
    exact ⟨a, ha, fun _ => nofun, _, rfl, rfl⟩
  | setPositionTriggers params =>
    obtain ⟨a, ha, h⟩ := ownerOr_bind hb h
    obtain ⟨_, -, h⟩ := bind_eq_ok h
    obtain rfl := Except.ok.inj h
    exact ⟨a, ha, fun _ => nofun, _, rfl, by rw [lookup_assign, if_pos rfl]⟩
  | cancelPositionTriggers market expectedPositionEpoch given =>
    obtain ⟨a, ha, h⟩ := ownerOr_bind hb h
    obtain ⟨_, -, h⟩ := bind_eq_ok h
    obtain rfl := Except.ok.inj h
    exact ⟨a, ha, fun _ => nofun, _, rfl, rfl⟩

/-- An owner field stands for its own bytes. -/
theorem owner_of_denotes {entries : Entries} {a owner : Address}
    (hl : entries.lookup "owner" = some (.uint8Array a.1))
    (hd : FieldDenotes "owner" Address.schema none (entries.lookup "owner") owner) : owner = a := by
  obtain ⟨hn, w, hw, hread⟩ : Denotes "owner" Address.schema (.uint8Array a.1) a :=
    denotes_fixedBytes _ (by decide) a
  rw [hl] at hd
  obtain ⟨hnull, -⟩ | ⟨-, w', hw', hread'⟩ := hd
  · rw [hn] at hnull
    cases hnull
  · rw [hw] at hw'
    obtain rfl := Except.ok.inj hw'
    exact Option.some.inj (hread'.symm.trans hread)

/-- The core reads the signer's address as the owner. -/
theorem OwnedBy.encode {rmp : RmpSerde} {wasm : WasmSerde} {a : Address} {action : TsAction}
    {payload : Bytes} (howned : OwnedBy a action) (hshape : action.Shaped)
    (h : encodePayloadBytes rmp wasm action = .ok payload) :
    ∃ x : action.type.Payload, payload = (Action.mk action.type x).payloadMsg.encode ∧
      (Action.mk action.type x).owner = some a := by
  obtain ⟨entries, hdata, hshape⟩ := hshape
  obtain ⟨hkind, entries', hdata', hl⟩ := howned
  obtain rfl : entries = entries' := JsVal.object.inj (hdata.symm.trans hdata')
  rw [encodePayloadBytes_eq] at h
  obtain ⟨_, -, h⟩ := bind_eq_ok h
  obtain ⟨result, hconv, h⟩ := bind_eq_ok h
  obtain ⟨x, hread, hp, -⟩ := wasmEncodePayload_ok rmp wasm h
  rw [hdata, convertObject] at hconv
  refine ⟨x, hp, ?_⟩
  obtain ⟨kind, data⟩ := action
  have hne : kind ≠ .createMarket := by
    rintro rfl
    exact hkind x rfl
  rw [withOpenInterest, if_neg fun hc => hne hc.1] at hread
  have hd : DenotesObject kind.schema entries x :=
    denotesObject_of_ofJs kind.schema_adapts hshape hconv hread
  have hsome := hkind x
  cases kind with
  | placeOrder => exact congrArg some (owner_of_denotes hl hd.2.1)
  | marketOrder => exact congrArg some (owner_of_denotes hl hd.2.1)
  | cancelOrder => exact congrArg some (owner_of_denotes hl hd.2.1)
  | cancelClientOrder => exact congrArg some (owner_of_denotes hl hd.1)
  | cancelAllOrders => exact congrArg some (owner_of_denotes hl hd.1)
  | closePosition => exact congrArg some (owner_of_denotes hl hd.2.1)
  | setPositionTriggers => exact congrArg some (owner_of_denotes hl hd.2.1)
  | cancelPositionTriggers => exact congrArg some (owner_of_denotes hl hd.2.1)
  | _ => exact absurd rfl hsome

end Client

end TradingSdk
