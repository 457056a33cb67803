import TradingSdk.TriggerHistory.Event

namespace TradingSdk.TriggerHistory

open Json

/-- The owner that a text stands for, in the route and in a response. -/
structure OwnerReading where
  route : Text → Option Text
  response : Text → Option Text

def IsUnsignedMember (payload : Payload) (key : String) : Prop :=
  ∃ t, payload.get key = some t ∧ IsUnsigned u64Max false t

def IsOneOf (payload : Payload) (key : String) (allowed : List Text) (t : Text) : Prop :=
  payload.get key = some t ∧ t ≠ [] ∧ t ∈ allowed

/-- An execution: its fee, and a result that its quantities and its reason agree with. -/
structure IsExecution (payload : Payload) (result reason : Text) : Prop where
  resultKnown : IsOneOf payload "result" executionResults result
  totalFee : ∃ t, payload.get "total_fee" = some t ∧ IsSigned t
  reasonText : payload.get "reason" = some reason
  reasonKnown : ¬ (reason ≠ [] ∧ reason ∉ triggerReasons)
  conserves : payload.amount "filled_quantity" + payload.amount "residual_quantity" =
    payload.amount "requested_quantity"
  outcome : IsOutcome result reason (payload.amount "requested_quantity")
    (payload.amount "filled_quantity") (payload.amount "residual_quantity")

/-- What the type of an event asks of its payload, beside the unsigned members. -/
def HasDetails (payload : Payload) : EventType → Prop
  | .positionTriggersSet =>
    payload.amount "active_from_height" = payload.amount "accepted_height" + 1 ∧
      ¬ (payload.get "stop_limb_id" = some [48] ∧ payload.get "take_profit_limb_id" = some [48])
  | .positionTriggersCancelled => True
  | .positionTriggersInvalidated => True
  | .positionTriggerActivated => ∃ t, IsOneOf payload "limb_kind" limbKinds t
  | .positionTriggerExecuted => (∃ t, IsOneOf payload "limb_kind" limbKinds t) ∧
      ∃ result reason, IsExecution payload result reason
  | .positionTriggerDeferred => (∃ t, IsOneOf payload "limb_kind" limbKinds t) ∧
      ∃ t, IsOneOf payload "reason" accountDeferredReasons t
  | .triggerMarketDeferred => ∃ t, IsOneOf payload "reason" marketDeferredReasons t
  | .triggerMarketResumed => ∃ t, IsOneOf payload "previous_reason" marketDeferredReasons t

/-- What stands under `owner` for an owner or for none. -/
def IsRowOwner (R : OwnerReading) (row : Record) : Option Text → Prop
  | none => row.get "owner" = some .null
  | some o => ∃ t, row.get "owner" = some (.string t) ∧ R.response t = some o

/-- The payload repeats the owner of its event, and carries none in a market's history. -/
def HasOwner (R : OwnerReading) (payload : Payload) (eventType : EventType)
    (owner : Option Text) : Prop :=
  if eventType.isOwner then
    (∃ t o, payload.get "owner" = some t ∧ R.response t = some o ∧ owner = some o) ∧
      ∀ key ∈ ["position_epoch", "group_id"], IsUnsignedMember payload key
  else payload.get "owner" = none

structure IsPayload (R : OwnerReading) (event : Event) : Prop where
  identity : event.payload.get "event_key" = some event.eventKey ∧
    event.payload.get "block_height" = some event.blockHeight ∧
    event.payload.get "execution_ordinal" = some event.executionOrdinal ∧
    event.payload.get "event_ordinal" = some event.eventOrdinal ∧
    event.payload.get "market" = some event.market
  owner : HasOwner R event.payload event.eventType event.owner
  unsigned : ∀ key ∈ event.eventType.unsignedKeys, IsUnsignedMember event.payload key
  details : HasDetails event.payload event.eventType

def IsTextMember (row : Record) (name : String) (t : Text) : Prop := row.get name = some (.string t)

section Page

variable (R : OwnerReading) (rfc3339 : Text → Bool)

structure IsEvent (scope : Scope) (expectedOwner expectedMarket : Option Text) (row : Record)
    (event : Event) : Prop where
  keys : (keysOf row).Perm eventKeys
  eventKey : IsTextMember row "event_key" event.eventKey
  blockHeight : IsTextMember row "block_height" event.blockHeight
  blockHeightRange : IsUnsigned u64Max true event.blockHeight
  executionOrdinal : IsTextMember row "execution_ordinal" event.executionOrdinal
  executionOrdinalRange : IsUnsigned u64Max false event.executionOrdinal
  eventOrdinal : IsTextMember row "event_ordinal" event.eventOrdinal
  eventOrdinalRange : IsUnsigned u32Max false event.eventOrdinal
  canonical : event.eventKey =
    canonicalKey event.blockHeight event.executionOrdinal event.eventOrdinal
  blockTime : IsTextMember row "block_time" event.blockTime
  blockTimeValid : event.blockTime ≠ [] ∧ rfc3339 event.blockTime = true
  eventType : ∃ t, IsTextMember row "event_type" t ∧ t ≠ [] ∧
    scope.eventTypes.lookup t = some event.eventType
  owner : IsRowOwner R row event.owner
  route : ¬ (scope = .owner ∧ (event.owner = none ∨ event.owner ≠ expectedOwner) ∨
    scope = .market ∧ event.owner ≠ none)
  market : IsTextMember row "market" event.market
  marketRange : IsUnsigned i32Max false event.market
  expected : expectedMarket = none ∨ some event.market = expectedMarket
  payload : ∃ v fields, row.get "payload" = some v ∧ fieldsOf v = some fields ∧
    fields.mapM stringMember = some event.payload
  agrees : IsPayload R event

/-- Strictly newest first by chain coordinate. -/
def NewestFirst (events : List Event) : Prop :=
  ∀ pair ∈ events.zip events.tail,
    pair.2.coordinate.1 < pair.1.coordinate.1 ∨
    pair.1.coordinate.1 = pair.2.coordinate.1 ∧ pair.2.coordinate.2.1 < pair.1.coordinate.2.1 ∨
    pair.1.coordinate.1 = pair.2.coordinate.1 ∧ pair.1.coordinate.2.1 = pair.2.coordinate.2.1 ∧
      pair.2.coordinate.2.2 < pair.1.coordinate.2.2

structure IsPage (scope : Scope) (expectedOwner expectedMarket : Option Text) (key : String)
    (row : Record) (page : Page) : Prop where
  keys : (keysOf row).Perm [text key, text "next_cursor"]
  events : ∃ items, row.get key = some (.array items) ∧
    List.Forall₂ (fun item event => ∃ fields, fieldsOf item = some fields ∧
      IsEvent R rfc3339 scope expectedOwner expectedMarket fields event) items page.events
  order : NewestFirst page.events
  nextCursor : IsTextMember row "next_cursor" page.nextCursor

/-- The text of a market that may be asked for. -/
def marketText (value : Int) : Option Text :=
  if 0 ≤ value ∧ value ≤ i32Max then some (text (toString value)) else none

def IsOwnerPage (route : Text) (market : Option Int) (value : Value) (page : Page) : Prop :=
  ∃ owner expected row, R.route route = some owner ∧ market.mapM marketText = some expected ∧
    fieldsOf value = some row ∧
    IsPage R rfc3339 .owner (some owner) expected "trigger_events" row page

def IsMarketPage (market : Int) (value : Value) (page : Page) : Prop :=
  ∃ expected row, marketText market = some expected ∧ fieldsOf value = some row ∧
    IsPage R rfc3339 .market none (some expected) "trigger_market_events" row page

end Page

/-- The types of a history are all about an owner, or all about a market. -/
theorem Scope.isOwner_of_lookup {scope : Scope} {t : Text} {eventType : EventType}
    (h : scope.eventTypes.lookup t = some eventType) :
    eventType.isOwner = decide (scope = .owner) := by
  have hmem := mem_of_lookup h
  cases scope with
  | owner =>
    have hall : ∀ p ∈ ownerEventTypes, p.2.isOwner = true := by decide
    exact hall _ hmem
  | market =>
    have hall : ∀ p ∈ marketEventTypes, p.2.isOwner = false := by decide
    exact hall _ hmem

theorem keysOf_effective_subset (members : Members) {k : Text} (h : k ∈ keysOf (effective members)) :
    k ∈ members.map Prod.fst := by
  induction members with
  | nil => cases h
  | cons member rest ih =>
    obtain ⟨k', v⟩ := member
    rw [effective] at h
    split_ifs at h with hmem
    · exact List.mem_cons_of_mem _ (ih h)
    · rcases List.mem_cons.mp h with rfl | hrest
      · exact List.mem_cons_self
      · exact List.mem_cons_of_mem _ (ih hrest)

theorem keysOf_effective_nodup (members : Members) : (keysOf (effective members)).Nodup := by
  induction members with
  | nil => exact List.nodup_nil
  | cons member rest ih =>
    obtain ⟨k, v⟩ := member
    rw [effective]
    split_ifs with hmem
    · exact ih
    · exact List.nodup_cons.mpr ⟨fun h => hmem (keysOf_effective_subset rest h), ih⟩

theorem keysOf_nodup {v : Value} {row : Record} (h : fieldsOf v = some row) :
    (keysOf row).Nodup := by
  cases v with
  | object members =>
    obtain rfl := Option.some.inj h
    exact keysOf_effective_nodup members
  | _ => cases h

theorem eventKeys_nodup : eventKeys.Nodup := by decide

theorem Payload.value_eq_some_iff {payload : Payload} {key : String} {t : Text} :
    payload.value key = some (.string t) ↔ payload.get key = some t := by
  simp [Payload.value]

theorem canonicalKey_ne_nil (blockHeight executionOrdinal eventOrdinal : Text) :
    canonicalKey blockHeight executionOrdinal eventOrdinal ≠ [] := by
  simp [canonicalKey]

theorem isUint_ne_nil {t : Text} (h : isUint t = true) : t ≠ [] := by
  rintro rfl
  cases h

theorem isInt_ne_nil {t : Text} (h : isInt t = true) : t ≠ [] := by
  rintro rfl
  cases h

theorem isOwner_ne_nil {t : Text} (h : isOwner t = true) : t ≠ [] := by
  rintro rfl
  cases h

end TradingSdk.TriggerHistory
