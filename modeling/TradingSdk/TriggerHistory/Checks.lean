import TradingSdk.TriggerHistory.Spec

namespace TradingSdk.TriggerHistory

open Json

section Checks

variable {ε : Type} (fail : String → ε)

/-- The keys of a parsed object are texts. -/
def checkObject (value : Value) (name : String) : Except ε Record :=
  match fieldsOf value with
  | some row => .ok row
  | none => .error (fail s!"{name} must be an object")

def checkString (value : Option Value) (name : String) (nonempty : Bool) : Except ε Text :=
  match value with
  | some (.string t) =>
    if nonempty ∧ t = [] then .error (fail s!"{name} must be a string") else .ok t
  | _ => .error (fail s!"{name} must be a string")

def checkUnsigned (value : Option Value) (name : String) (maximum : Nat) (nonzero : Bool) :
    Except ε Text := do
  let t ← checkString fail value name true
  check fail (isUint t = true) s!"{name} is not canonical unsigned decimal"
  check fail (¬ (maximum < decimalValue t ∨ nonzero = true ∧ decimalValue t = 0))
    s!"{name} is out of range"
  return t

/-- The members of a payload that are unsigned, one after the other. -/
def checkUnsignedKeys (payload : Payload) (keys : List String) : Except ε Unit :=
  forM keys fun key => do
    let _ ← checkUnsigned fail (payload.value key) s!"payload.{key}" u64Max false
    return ()

def checkPayload (value : Option Value) (message : String) : Except ε Payload := do
  let row ← checkObject fail (value.getD .null) "payload"
  match row.mapM stringMember with
  | some payload => .ok payload
  | none => .error (fail message)

def checkArray (value : Option Value) (name : String) : Except ε (List Value) :=
  match value with
  | some (.array items) => .ok items
  | _ => .error (fail s!"{name} must be an array")

/-- The owner of a row, where null stands for none. -/
def checkRowOwner (readOwner : Option Value → String → Except ε Text) (value : Option Value) :
    Except ε (Option Text) :=
  match value with
  | some .null => .ok none
  | value => (readOwner value "owner").map some

/-- What a payload says about the owner of its event. -/
def checkPayloadOwner (readOwner : Option Value → String → Except ε Text) (payload : Payload)
    (eventType : EventType) (eventOwner : Option Text) : Except ε Unit :=
  if eventType.isOwner then
    match eventOwner with
    | none => .error (fail "payload owner disagrees with event")
    | some o => do
      let t ← readOwner (payload.value "owner") "payload.owner"
      check fail (t = o) "payload owner disagrees with event"
      checkUnsignedKeys fail payload ["position_epoch", "group_id"]
  else check fail (payload.get "owner" = none) "shared market payload carries owner"

/-- The text of a route's market. -/
def checkMarket (refusal : ε) (value : Int) : Except ε Text :=
  if 0 ≤ value ∧ value ≤ i32Max then .ok (text (toString value)) else .error refusal

end Checks

/-- What each language writes in its own way in front of the events of a page. -/
structure Decoder (ε : Type) where
  fail : String → ε
  /-- The refusal of a payload with a member that is no text. -/
  notText : String
  exactKeys : Record → List Text → String → Except ε Unit
  signedI64 : Option Value → String → Except ε Text
  enum : Option Value → List Text → String → Except ε Text
  /-- The reason of an execution, which may be empty. -/
  executionReason : Option Value → Except ε Text
  readOwner : Option Value → String → Except ε Text
  newestFirst : List Event → Except ε Unit

namespace Decoder

variable {ε : Type} (d : Decoder ε)

/-- What is asked of the payload of one type of event. -/
def validateDetails (payload : Payload) (eventType : EventType) : Except ε Unit := do
  checkUnsignedKeys d.fail payload eventType.unsignedKeys
  match eventType with
  | .positionTriggersSet =>
    check d.fail (payload.amount "active_from_height" = payload.amount "accepted_height" + 1)
      "invalid active_from_height"
    check d.fail (¬ (payload.get "stop_limb_id" = some [48] ∧
      payload.get "take_profit_limb_id" = some [48])) "set event has no trigger limbs"
  | .positionTriggersCancelled => return ()
  | .positionTriggersInvalidated => return ()
  | .positionTriggerActivated =>
    let _ ← d.enum (payload.value "limb_kind") limbKinds "payload.limb_kind"
    return ()
  | .positionTriggerExecuted =>
    let _ ← d.enum (payload.value "limb_kind") limbKinds "payload.limb_kind"
    let result ← d.enum (payload.value "result") executionResults "payload.result"
    let _ ← d.signedI64 (payload.value "total_fee") "payload.total_fee"
    let reason ← d.executionReason (payload.value "reason")
    check d.fail (payload.amount "filled_quantity" + payload.amount "residual_quantity" =
      payload.amount "requested_quantity") "executed quantities do not conserve"
    check d.fail (IsOutcome result reason (payload.amount "requested_quantity")
      (payload.amount "filled_quantity") (payload.amount "residual_quantity"))
      "result, quantities, and reason disagree"
  | .positionTriggerDeferred =>
    let _ ← d.enum (payload.value "limb_kind") limbKinds "payload.limb_kind"
    let _ ← d.enum (payload.value "reason") accountDeferredReasons "payload.reason"
    return ()
  | .triggerMarketDeferred =>
    let _ ← d.enum (payload.value "reason") marketDeferredReasons "payload.reason"
    return ()
  | .triggerMarketResumed =>
    let _ ← d.enum (payload.value "previous_reason") marketDeferredReasons
      "payload.previous_reason"
    return ()

def validatePayload (payload : Payload) (eventType : EventType) (eventKey blockHeight
    executionOrdinal eventOrdinal market : Text) (eventOwner : Option Text) : Except ε Unit := do
  let _ ← checkUnsigned d.fail (payload.value "block_height") "payload.block_height" u64Max true
  let _ ← checkUnsigned d.fail (payload.value "execution_ordinal") "payload.execution_ordinal"
    u64Max false
  let _ ← checkUnsigned d.fail (payload.value "event_ordinal") "payload.event_ordinal" u32Max false
  let _ ← checkUnsigned d.fail (payload.value "market") "payload.market" i32Max false
  check d.fail (payload.get "event_key" = some eventKey ∧
    payload.get "block_height" = some blockHeight ∧
    payload.get "execution_ordinal" = some executionOrdinal ∧
    payload.get "event_ordinal" = some eventOrdinal ∧ payload.get "market" = some market)
    "payload identity disagrees with event"
  checkPayloadOwner d.fail d.readOwner payload eventType eventOwner
  d.validateDetails payload eventType

def decodeEvent (rfc3339 : Text → Bool) (scope : Scope) (expectedOwner expectedMarket : Option Text)
    (value : Value) : Except ε Event := do
  let row ← checkObject d.fail value "event"
  d.exactKeys row eventKeys "event"
  let eventKey ← checkString d.fail (row.get "event_key") "event_key" true
  let blockHeight ← checkUnsigned d.fail (row.get "block_height") "block_height" u64Max true
  let executionOrdinal ←
    checkUnsigned d.fail (row.get "execution_ordinal") "execution_ordinal" u64Max false
  let eventOrdinal ← checkUnsigned d.fail (row.get "event_ordinal") "event_ordinal" u32Max false
  check d.fail (eventKey = canonicalKey blockHeight executionOrdinal eventOrdinal)
    "event_key is not canonical"
  let blockTime ← checkString d.fail (row.get "block_time") "block_time" true
  check d.fail (rfc3339 blockTime = true) "block_time is not RFC3339"
  let type ← checkString d.fail (row.get "event_type") "event_type" true
  match scope.eventTypes.lookup type with
  | none => .error (d.fail s!"event type is invalid for {scope.name} history")
  | some eventType =>
    let eventOwner ← checkRowOwner d.readOwner (row.get "owner")
    check d.fail (¬ (scope = .owner ∧ (eventOwner = none ∨ eventOwner ≠ expectedOwner) ∨
      scope = .market ∧ eventOwner ≠ none)) "owner does not match route scope"
    let market ← checkUnsigned d.fail (row.get "market") "market" i32Max false
    check d.fail (expectedMarket = none ∨ some market = expectedMarket)
      "market does not match route scope"
    let payload ← checkPayload d.fail (row.get "payload") d.notText
    d.validatePayload payload eventType eventKey blockHeight executionOrdinal eventOrdinal market
      eventOwner
    return ⟨eventKey, blockHeight, executionOrdinal, eventOrdinal, blockTime, eventType, eventOwner,
      market, payload⟩

/-- The events of a page under a name, and its cursor. -/
def decodePage (rfc3339 : Text → Bool) (scope : Scope) (expectedOwner expectedMarket : Option Text)
    (key name : String) (value : Value) : Except ε Page := do
  let row ← checkObject d.fail value name
  d.exactKeys row [text key, text "next_cursor"] name
  let items ← checkArray d.fail (row.get key) key
  let events ← items.mapM (d.decodeEvent rfc3339 scope expectedOwner expectedMarket)
  d.newestFirst events
  let nextCursor ← checkString d.fail (row.get "next_cursor") "next_cursor" false
  return ⟨events, nextCursor⟩

/-- The checks of a decoder take what a page asks for, with owners as `R` reads them. -/
structure Takes (R : OwnerReading) : Prop where
  exactKeys : ∀ value row expected name u, fieldsOf value = some row → expected.Nodup →
    (d.exactKeys row expected name = .ok u ↔ (keysOf row).Perm expected)
  signedI64 : ∀ value name t, d.signedI64 value name = .ok t ↔
    value = some (.string t) ∧ IsSigned t
  enum : ∀ (payload : Payload) key allowed name t,
    d.enum (payload.value key) allowed name = .ok t ↔ IsOneOf payload key allowed t
  executionReason : ∀ (payload : Payload) t, d.executionReason (payload.value "reason") = .ok t ↔
    payload.get "reason" = some t ∧ ¬ (t ≠ [] ∧ t ∉ triggerReasons)
  readOwner : ∀ value name o, d.readOwner value name = .ok o ↔
    ∃ t, value = some (.string t) ∧ R.response t = some o
  newestFirst : ∀ events u, d.newestFirst events = .ok u ↔ NewestFirst events

end Decoder

section Lemmas

variable {ε : Type} {fail : String → ε}

theorem checkObject_ok_iff {value : Value} {name : String} {row : Record} :
    checkObject fail value name = .ok row ↔ fieldsOf value = some row := by
  rw [checkObject]
  cases fieldsOf value <;> simp

theorem checkString_ok_iff {value : Option Value} {name : String} {nonempty : Bool} {t : Text} :
    checkString fail value name nonempty = .ok t ↔
      value = some (.string t) ∧ ¬ (nonempty = true ∧ t = []) := by
  cases value with
  | none => simp [checkString]
  | some v =>
    cases v with
    | string s =>
      rw [checkString]
      split_ifs with h
      · simp only [Option.some_inj, Value.string.injEq, false_iff]
        intro h
        obtain ⟨rfl, hs⟩ := h
        exact hs h
      · simp only [Except.ok.injEq, Option.some_inj, Value.string.injEq]
        constructor
        · rintro rfl
          exact ⟨rfl, h⟩
        · exact And.left
    | _ => simp [checkString]

theorem checkUnsigned_ok_iff {value : Option Value} {name : String} {maximum : Nat}
    {nonzero : Bool} {t : Text} : checkUnsigned fail value name maximum nonzero = .ok t ↔
      value = some (.string t) ∧ IsUnsigned maximum nonzero t := by
  simp only [checkUnsigned, bind_ok_iff, checkString_ok_iff, check_ok_iff, pure_ok_iff]
  constructor
  · intro h
    obtain ⟨t, ⟨hvalue, -⟩, _, hdecimal, _, hrange, rfl⟩ := h
    exact ⟨hvalue, hdecimal, hrange⟩
  · intro h
    obtain ⟨hvalue, h⟩ := h
    exact ⟨t, ⟨hvalue, fun hnil => isUint_ne_nil h.decimal hnil.2⟩, (), h.decimal, (), h.range, rfl⟩

theorem checkUnsignedKeys_ok_iff {payload : Payload} {keys : List String} {u : Unit} :
    checkUnsignedKeys fail payload keys = .ok u ↔ ∀ key ∈ keys, IsUnsignedMember payload key := by
  simp only [checkUnsignedKeys, forM_ok_iff, bind_ok_iff, checkUnsigned_ok_iff, pure_ok_iff,
    Payload.value_eq_some_iff, and_true, IsUnsignedMember]

theorem checkPayload_ok_iff {value : Option Value} {message : String} {payload : Payload} :
    checkPayload fail value message = .ok payload ↔
      ∃ v fields, value = some v ∧ fieldsOf v = some fields ∧
        fields.mapM stringMember = some payload := by
  cases value with
  | none => simp [checkPayload, bind_ok_iff, checkObject_ok_iff, fieldsOf]
  | some v =>
    simp only [checkPayload, Option.getD_some, bind_ok_iff, checkObject_ok_iff]
    constructor
    · intro h
      obtain ⟨row, hrow, h⟩ := h
      cases hmap : row.mapM stringMember with
      | none => simp [hmap] at h
      | some p =>
        simp only [hmap, Except.ok.injEq] at h
        exact ⟨v, row, rfl, hrow, h ▸ hmap⟩
    · intro h
      obtain ⟨w, row, hv, hrow, hmap⟩ := h
      obtain rfl := Option.some.inj hv
      exact ⟨row, hrow, by rw [hmap]⟩

theorem checkArray_ok_iff {value : Option Value} {name : String} {items : List Value} :
    checkArray fail value name = .ok items ↔ value = some (.array items) := by
  cases value with
  | none => simp [checkArray]
  | some v => cases v <;> simp [checkArray]

theorem checkMarket_ok_iff {refusal : ε} {value : Int} {t : Text} :
    checkMarket refusal value = .ok t ↔ marketText value = some t := by
  rw [checkMarket, marketText]
  split_ifs <;> simp

theorem checkMarkets_ok_iff {refusal : ε} {market : Option Int} {expected : Option Text} :
    market.mapM (checkMarket refusal) = .ok expected ↔ market.mapM marketText = some expected := by
  cases market with
  | none => simp [pure_ok_iff]
  | some m =>
    rw [Option.mapM_some, Option.mapM_some, checkMarket, marketText]
    split_ifs <;> simp

section Owner

variable {R : OwnerReading} {readOwner : Option Value → String → Except ε Text}
  (hread : ∀ value name o, readOwner value name = .ok o ↔
    ∃ t, value = some (.string t) ∧ R.response t = some o)

include hread

theorem checkRowOwner_ok_iff {row : Record} {o : Option Text} :
    checkRowOwner readOwner (row.get "owner") = .ok o ↔ IsRowOwner R row o := by
  unfold checkRowOwner
  split
  · next h => cases o <;> simp [IsRowOwner, h]
  · next h =>
    cases howner : readOwner (row.get "owner") "owner" with
    | error e =>
      cases o with
      | none => simpa [IsRowOwner, Except.map] using h
      | some o => simp [IsRowOwner, Except.map, ← hread _ "owner", howner]
    | ok a =>
      cases o with
      | none => simpa [IsRowOwner, Except.map] using h
      | some o => simp [IsRowOwner, Except.map, ← hread _ "owner", howner]

theorem checkPayloadOwner_ok_iff {payload : Payload} {eventType : EventType} {o : Option Text}
    {u : Unit} : checkPayloadOwner fail readOwner payload eventType o = .ok u ↔
      HasOwner R payload eventType o := by
  unfold checkPayloadOwner HasOwner
  split_ifs with h
  · cases o with
    | none => simp
    | some o =>
      simp only [bind_ok_iff, hread, check_ok_iff, checkUnsignedKeys_ok_iff,
        Payload.value_eq_some_iff]
      constructor
      · intro h
        obtain ⟨o, ⟨t, ht, howner⟩, _, rfl, hkeys⟩ := h
        exact ⟨⟨t, o, ht, howner, rfl⟩, hkeys⟩
      · intro h
        obtain ⟨⟨t, o, ht, howner, ho⟩, hkeys⟩ := h
        exact ⟨o, ⟨t, ht, howner⟩, (), (Option.some.inj ho).symm, hkeys⟩
  · exact check_ok_iff

end Owner

namespace Decoder

variable {d : Decoder ε} {R : OwnerReading} (hd : d.Takes R)
include hd

theorem validateExecuted_ok_iff {payload : Payload} {u : Unit} :
    d.validateDetails payload .positionTriggerExecuted = .ok u ↔
      (∀ key ∈ EventType.positionTriggerExecuted.unsignedKeys, IsUnsignedMember payload key) ∧
        HasDetails payload .positionTriggerExecuted := by
  simp only [validateDetails, HasDetails, bind_ok_iff, checkUnsignedKeys_ok_iff, hd.enum,
    hd.signedI64, hd.executionReason, check_ok_iff, Payload.value_eq_some_iff]
  constructor
  · intro h
    obtain ⟨_, hkeys, kind, hkind, result, hresult, fee, hfee, reason, ⟨hreason, hknown⟩, _,
      hconserves, houtcome⟩ := h
    exact ⟨hkeys, ⟨kind, hkind⟩, result, reason, hresult, ⟨fee, hfee⟩, hreason, hknown, hconserves,
      houtcome⟩
  · intro h
    obtain ⟨hkeys, ⟨kind, hkind⟩, result, reason, h⟩ := h
    obtain ⟨fee, hfee⟩ := h.totalFee
    exact ⟨(), hkeys, kind, hkind, result, h.resultKnown, fee, hfee, reason,
      ⟨h.reasonText, h.reasonKnown⟩, (), h.conserves, h.outcome⟩

theorem validateDetails_ok_iff {payload : Payload} {eventType : EventType} {u : Unit} :
    d.validateDetails payload eventType = .ok u ↔
      (∀ key ∈ eventType.unsignedKeys, IsUnsignedMember payload key) ∧
        HasDetails payload eventType := by
  cases eventType with
  | positionTriggerExecuted => exact validateExecuted_ok_iff hd
  | positionTriggersSet =>
    simp only [validateDetails, HasDetails, bind_ok_iff, checkUnsignedKeys_ok_iff,
      check_ok_iff, exists_const]
  | positionTriggersCancelled | positionTriggersInvalidated =>
    simp only [validateDetails, HasDetails, bind_ok_iff, checkUnsignedKeys_ok_iff, pure_ok_iff,
      exists_const, and_true]
  | positionTriggerDeferred =>
    simp only [validateDetails, HasDetails, bind_ok_iff, checkUnsignedKeys_ok_iff, hd.enum,
      pure_ok_iff, exists_const, exists_and_right, and_true]
  | positionTriggerActivated | triggerMarketDeferred | triggerMarketResumed =>
    simp only [validateDetails, HasDetails, bind_ok_iff, checkUnsignedKeys_ok_iff, hd.enum,
      pure_ok_iff, exists_const, and_true]

/-- The coordinates of the payload are in range since they repeat those of the event. -/
theorem validatePayload_ok_iff {event : Event} {u : Unit}
    (hheight : IsUnsigned u64Max true event.blockHeight)
    (hexecution : IsUnsigned u64Max false event.executionOrdinal)
    (hordinal : IsUnsigned u32Max false event.eventOrdinal)
    (hmarket : IsUnsigned i32Max false event.market) :
    d.validatePayload event.payload event.eventType event.eventKey event.blockHeight
      event.executionOrdinal event.eventOrdinal event.market event.owner = .ok u ↔
      IsPayload R event := by
  simp only [validatePayload, bind_ok_iff, checkUnsigned_ok_iff, check_ok_iff,
    checkPayloadOwner_ok_iff hd.readOwner, validateDetails_ok_iff hd, Payload.value_eq_some_iff]
  constructor
  · intro h
    obtain ⟨height, -, execution, -, ordinal, -, market, -, _, hidentity, _, howner, hkeys,
      hdetails⟩ := h
    exact ⟨hidentity, howner, hkeys, hdetails⟩
  · intro h
    obtain ⟨-, hh, he, ho, hm⟩ := h.identity
    exact ⟨_, ⟨hh, hheight⟩, _, ⟨he, hexecution⟩, _, ⟨ho, hordinal⟩, _, ⟨hm, hmarket⟩, (),
      h.identity, (), h.owner, h.unsigned, h.details⟩

variable {rfc3339 : Text → Bool} {scope : Scope} {expectedOwner expectedMarket : Option Text}
  {value : Value}

theorem decodeEvent_ok_iff {event : Event} :
    d.decodeEvent rfc3339 scope expectedOwner expectedMarket value = .ok event ↔
      ∃ row, fieldsOf value = some row ∧
        IsEvent R rfc3339 scope expectedOwner expectedMarket row event := by
  simp only [decodeEvent, bind_ok_iff, checkObject_ok_iff, checkString_ok_iff,
    checkUnsigned_ok_iff, check_ok_iff, true_and]
  constructor
  · intro h
    obtain ⟨row, hrow, _, hkeys, key, ⟨hkey, -⟩, height, ⟨hheight, hheightRange⟩, execution,
      ⟨hexecution, hexecutionRange⟩, ordinal, ⟨hordinal, hordinalRange⟩, _, hcanonical, time,
      ⟨htime, htimeNe⟩, _, hvalid, type, ⟨htype, htypeNe⟩, h⟩ := h
    cases hlookup : scope.eventTypes.lookup type with
    | none => simp [hlookup] at h
    | some eventType =>
      simp only [hlookup, bind_ok_iff, checkRowOwner_ok_iff hd.readOwner, check_ok_iff,
        checkUnsigned_ok_iff, checkPayload_ok_iff, pure_ok_iff] at h
      obtain ⟨o, howner, _, hroute, market, ⟨hmarket, hmarketRange⟩, _, hexpected, payload,
        hpayload, _, hagrees, rfl⟩ := h
      have hperm := (hd.exactKeys _ _ _ _ _ hrow eventKeys_nodup).mp hkeys
      exact ⟨row, hrow, hperm, hkey, hheight, hheightRange, hexecution, hexecutionRange, hordinal,
        hordinalRange, hcanonical, htime, ⟨htimeNe, hvalid⟩, ⟨type, htype, htypeNe, hlookup⟩,
        howner, hroute, hmarket, hmarketRange, hexpected, hpayload,
        (@validatePayload_ok_iff _ _ _ hd ⟨key, height, execution, ordinal, time, eventType, o,
          market, payload⟩ _ hheightRange hexecutionRange hordinalRange hmarketRange).mp hagrees⟩
  · intro h
    obtain ⟨row, hrow, h⟩ := h
    obtain ⟨type, htype, htypeNe, hlookup⟩ := h.eventType
    have hkeyNe : event.eventKey ≠ [] := h.canonical ▸ canonicalKey_ne_nil _ _ _
    have hagrees := (validatePayload_ok_iff (u := ()) hd h.blockHeightRange
      h.executionOrdinalRange h.eventOrdinalRange h.marketRange).mpr h.agrees
    have hkeys := (hd.exactKeys _ _ _ "event" () hrow eventKeys_nodup).mpr h.keys
    refine ⟨row, hrow, (), hkeys, _, ⟨h.eventKey, hkeyNe⟩, _, ⟨h.blockHeight, h.blockHeightRange⟩,
      _, ⟨h.executionOrdinal, h.executionOrdinalRange⟩, _, ⟨h.eventOrdinal, h.eventOrdinalRange⟩,
      (), h.canonical, _, ⟨h.blockTime, h.blockTimeValid.1⟩, (), h.blockTimeValid.2, type,
      ⟨htype, htypeNe⟩, ?_⟩
    simp only [hlookup, bind_ok_iff, checkRowOwner_ok_iff hd.readOwner, check_ok_iff,
        checkUnsigned_ok_iff, checkPayload_ok_iff, pure_ok_iff]
    exact ⟨_, h.owner, (), h.route, _, ⟨h.market, h.marketRange⟩, (), h.expected, _, h.payload, (),
      hagrees, rfl⟩

theorem decodePage_ok_iff {key name : String} {page : Page}
    (hkey : [text key, text "next_cursor"].Nodup) :
    d.decodePage rfc3339 scope expectedOwner expectedMarket key name value = .ok page ↔
      ∃ row, fieldsOf value = some row ∧
        IsPage R rfc3339 scope expectedOwner expectedMarket key row page := by
  simp only [decodePage, bind_ok_iff, checkObject_ok_iff, checkArray_ok_iff, mapM_ok_iff,
    decodeEvent_ok_iff hd, hd.newestFirst, checkString_ok_iff, pure_ok_iff]
  constructor
  · intro h
    obtain ⟨row, hrow, _, hkeys, items, hitems, events, hevents, _, horder, cursor, ⟨hcursor,
      -⟩, rfl⟩ := h
    have hperm := (hd.exactKeys _ _ _ _ _ hrow hkey).mp hkeys
    exact ⟨row, hrow, hperm, ⟨items, hitems, hevents⟩, horder, hcursor⟩
  · intro h
    obtain ⟨row, hrow, h⟩ := h
    obtain ⟨items, hitems, hevents⟩ := h.events
    have hkeys := (hd.exactKeys _ _ _ name () hrow hkey).mpr h.keys
    exact ⟨row, hrow, (), hkeys, items, hitems, _, hevents, (), h.order, _,
      ⟨h.nextCursor, fun hnil => Bool.false_ne_true hnil.1⟩, rfl⟩

end Decoder

end Lemmas

end TradingSdk.TriggerHistory
