import TradingSdk.TriggerHistory.Python
import TradingSdk.TriggerHistory.TypeScript

namespace TradingSdk.TriggerHistory

open Json

/-- The texts under `owner` in a row and in its payload. -/
def OwnerText (row : Record) (t : Text) : Prop :=
  row.get "owner" = some (.string t) ∨
    ∃ v fields, row.get "payload" = some v ∧ fieldsOf v = some fields ∧
      fields.get "owner" = some (.string t)

def PageOwnerText (key : String) (page : Record) (t : Text) : Prop :=
  ∃ items item row, page.get key = some (.array items) ∧ item ∈ items ∧
    fieldsOf item = some row ∧ OwnerText row t

/-- The members of a payload are those of the object it was read from. -/
theorem fields_of_mapM {fields : Record} {payload : Payload}
    (h : fields.mapM stringMember = some payload) :
    fields = payload.map fun m => (m.1, Value.string m.2) := by
  induction fields generalizing payload with
  | nil =>
    obtain rfl := Option.some.inj h
    rfl
  | cons field rest ih =>
    obtain ⟨k, v⟩ := field
    simp only [List.mapM_cons, Option.bind_eq_bind, Option.bind_eq_some_iff] at h
    obtain ⟨member, hmember, payload', hrest, hpayload⟩ := h
    obtain rfl := Option.some.inj hpayload
    cases v with
    | string s =>
      obtain rfl := Option.some.inj hmember
      rw [List.map_cons, ← ih hrest]
    | _ => cases hmember

theorem lookup_payload {fields : Record} {payload : Payload}
    (h : fields.mapM stringMember = some payload) (k : Text) :
    fields.lookup k = (payload.lookup k).map Value.string := by
  rw [fields_of_mapM h]
  clear h
  induction payload with
  | nil => rfl
  | cons member payload ih =>
    rw [List.map_cons, List.lookup_cons, List.lookup_cons, ih]
    cases k == member.1 <;> rfl

section Transfer

variable {R R' : OwnerReading} {rfc3339 : Text → Bool} {scope : Scope}
  {expectedOwner expectedMarket : Option Text}

theorem IsEvent.transfer {row : Record} {event : Event}
    (h : IsEvent R rfc3339 scope expectedOwner expectedMarket row event)
    (hread : ∀ t o, OwnerText row t → R.response t = some o → R'.response t = some o) :
    IsEvent R' rfc3339 scope expectedOwner expectedMarket row event := by
  have howner : IsRowOwner R' row event.owner := by
    have hrow := h.owner
    cases ho : event.owner with
    | none => rwa [ho] at hrow
    | some o =>
      rw [ho] at hrow
      obtain ⟨t, ht, hto⟩ := hrow
      exact ⟨t, ht, hread t o (.inl ht) hto⟩
  have hpayload : HasOwner R' event.payload event.eventType event.owner := by
    have hpayload := h.agrees.owner
    unfold HasOwner at hpayload ⊢
    split_ifs at hpayload ⊢ with htype
    · obtain ⟨⟨t, o, ht, hto, ho⟩, hkeys⟩ := hpayload
      obtain ⟨v, fields, hv, hfields, hmap⟩ := h.payload
      have htext : fields.get "owner" = some (.string t) := by
        rw [Record.get, lookup_payload hmap]
        exact congrArg (Option.map Value.string) ht
      exact ⟨⟨t, o, ht, hread t o (.inr ⟨v, fields, hv, hfields, htext⟩) hto, ho⟩, hkeys⟩
    · exact hpayload
  exact ⟨h.keys, h.eventKey, h.blockHeight, h.blockHeightRange, h.executionOrdinal,
    h.executionOrdinalRange, h.eventOrdinal, h.eventOrdinalRange, h.canonical, h.blockTime,
    h.blockTimeValid, h.eventType, howner, h.route, h.market, h.marketRange, h.expected, h.payload,
    h.agrees.identity, hpayload, h.agrees.unsigned, h.agrees.details⟩

theorem IsPage.transfer {key : String} {row : Record} {page : Page}
    (h : IsPage R rfc3339 scope expectedOwner expectedMarket key row page)
    (hread : ∀ t o, PageOwnerText key row t → R.response t = some o → R'.response t = some o) :
    IsPage R' rfc3339 scope expectedOwner expectedMarket key row page := by
  obtain ⟨items, hitems, hevents⟩ := h.events
  have hmem := (List.forall₂_and_left items page.events).mpr ⟨fun item h => h, hevents⟩
  refine ⟨h.keys, ⟨items, hitems, hmem.imp ?_⟩, h.order, h.nextCursor⟩
  rintro item event ⟨hitem, fields, hfields, hevent⟩
  refine ⟨fields, hfields, hevent.transfer fun t o htext => hread t o ?_⟩
  exact ⟨items, item, fields, hitems, hitem, hfields, htext⟩

theorem IsPage.event_of_ownerText {key : String} {row : Record} {page : Page}
    (h : IsPage R rfc3339 scope expectedOwner expectedMarket key row page) {t : Text}
    (ht : PageOwnerText key row t) :
    ∃ fields event, OwnerText fields t ∧
      IsEvent R rfc3339 scope expectedOwner expectedMarket fields event := by
  obtain ⟨items, item, fields, hitems, hitem, hfields, htext⟩ := ht
  obtain ⟨items', hitems', hevents⟩ := h.events
  obtain rfl : items = items' := by
    have heq := hitems.symm.trans hitems'
    simpa using heq
  obtain ⟨event, -, fields', hfields', hevent⟩ := exists_related_of_mem hevents hitem
  obtain rfl : fields = fields' := Option.some.inj (hfields.symm.trans hfields')
  exact ⟨fields, event, htext, hevent⟩

/-- An event that carries an owner text carries its owner, once in the row or in the payload. -/
theorem IsEvent.response_of_ownerText {row : Record} {event : Event} {t : Text}
    (h : IsEvent R rfc3339 scope expectedOwner expectedMarket row event) (ht : OwnerText row t) :
    R.response t = event.owner ∧ (event.owner ≠ none ∨ event.eventType.isOwner = true) := by
  rcases ht with hrow | ⟨v, fields, hv, hfields, htext⟩
  · have howner := h.owner
    cases ho : event.owner with
    | none =>
      rw [ho, IsRowOwner, hrow] at howner
      cases howner
    | some o =>
      rw [ho] at howner
      obtain ⟨t', ht', hto⟩ := howner
      obtain rfl : t = t' := by
        have heq := hrow.symm.trans ht'
        simpa using heq
      exact ⟨hto, .inl (Option.some_ne_none o)⟩
  · obtain ⟨v', fields', hv', hfields', hmap⟩ := h.payload
    obtain rfl : v = v' := Option.some.inj (hv.symm.trans hv')
    obtain rfl : fields = fields' := Option.some.inj (hfields.symm.trans hfields')
    have hget : event.payload.get "owner" = some t := by
      rw [Record.get, lookup_payload hmap] at htext
      exact Payload.value_eq_some_iff.mp htext
    have howner := h.agrees.owner
    unfold HasOwner at howner
    split_ifs at howner with htype
    · obtain ⟨⟨t', o, ht', hto, ho⟩, -⟩ := howner
      obtain rfl : t = t' := Option.some.inj (hget.symm.trans ht')
      exact ⟨hto.trans ho.symm, .inr htype⟩
    · rw [howner] at hget
      cases hget

end Transfer

/-- The rows of a market's history carry no owner, so that its reading does not matter. -/
theorem isMarketPage_transfer (R R' : OwnerReading) {rfc3339 : Text → Bool} {market : Int}
    {value : Value} {page : Page} :
    IsMarketPage R rfc3339 market value page → IsMarketPage R' rfc3339 market value page := by
  rintro ⟨expected, row, hexpected, hrow, hpage⟩
  refine ⟨expected, row, hexpected, hrow, hpage.transfer fun t o ht _ => ?_⟩
  obtain ⟨fields, event, htext, hevent⟩ := hpage.event_of_ownerText ht
  have hnone : event.owner = none := by
    by_contra hne
    exact hevent.route (.inr ⟨rfl, hne⟩)
  obtain ⟨_, -, -, hlookup⟩ := hevent.eventType
  have htype := Scope.isOwner_of_lookup hlookup
  rcases (hevent.response_of_ownerText htext).2 with hsome | howner
  · exact absurd hnone hsome
  · rw [htype] at howner
    cases howner

/-- Every owner text is written in 40 lower-case digits, and that of the route has no prefix. -/
def CanonicalOwners (route : Text) (value : Value) : Prop :=
  hasPrefix route = false ∧
    ∀ row t, fieldsOf value = some row → PageOwnerText "trigger_events" row t → isOwner t = true

/-- A page in all but how its owners are written, in any case and with or without a prefix. -/
def IsPageUpToSpelling (rfc3339 : Text → Bool) (route : Text) (market : Option Int)
    (value : Value) : Prop :=
  ∃ page, IsOwnerPage ⟨canonicalHex, canonicalHex⟩ rfc3339 route market value page

theorem removePrefix_of_hasPrefix {t : Text} (h : hasPrefix t = false) : removePrefix t = t := by
  unfold removePrefix
  split
  · cases h
  · rfl

theorem hasPrefix_of_isOwner_lower {t : Text} (h : isOwner (lower t) = true) :
    hasPrefix t = false := by
  unfold hasPrefix
  split
  · simp [isOwner, lower, isDigit] at h
  · rfl

theorem lower_of_isOwner {t : Text} (h : isOwner t = true) : lower t = t := by
  rw [isOwner, Bool.and_eq_true, List.all_eq_true] at h
  refine List.map_congr_left (fun c hc => ?_) |>.trans (List.map_id t)
  have hdigit := h.2 c hc
  have hupper : ¬ (65 ≤ c ∧ c ≤ 90) := by
    simp [isDigit] at hdigit
    omega
  exact if_neg hupper

theorem canonicalHex_of_hasPrefix {t : Text} (h : hasPrefix t = false) :
    canonicalHex t = TypeScript.reading.route t := by
  rw [canonicalHex, removePrefix_of_hasPrefix h]
  rfl

theorem canonicalHex_of_isOwner {t : Text} (h : isOwner t = true) : canonicalHex t = some t := by
  have hlower := lower_of_isOwner h
  have hplain : hasPrefix t = false := hasPrefix_of_isOwner_lower (hlower.symm ▸ h)
  rw [canonicalHex, removePrefix_of_hasPrefix hplain, hlower, if_pos h]

section Owner

variable {rfc3339 : Text → Bool} {route : Text} {market : Option Int} {value : Value} {page : Page}

theorem isOwnerPage_of_strict (h : IsOwnerPage TypeScript.reading rfc3339 route market value page) :
    IsOwnerPage Python.reading rfc3339 route market value page := by
  obtain ⟨o, expected, row, hroute, hexpected, hrow, hpage⟩ := h
  have howner := (TypeScript.route_eq_some_iff.mp hroute).1
  have hroute' : Python.reading.route route = some o :=
    (canonicalHex_of_hasPrefix (hasPrefix_of_isOwner_lower howner)).trans hroute
  refine ⟨o, expected, row, hroute', hexpected, hrow, hpage.transfer fun t a _ hread => ?_⟩
  obtain ⟨ht, rfl⟩ := TypeScript.response_eq_some_iff.mp hread
  exact canonicalHex_of_isOwner ht

theorem canonicalOwners_of_strict
    (h : IsOwnerPage TypeScript.reading rfc3339 route market value page) :
    CanonicalOwners route value := by
  obtain ⟨o, expected, row, hroute, -, hrow, hpage⟩ := h
  refine ⟨hasPrefix_of_isOwner_lower (TypeScript.route_eq_some_iff.mp hroute).1, ?_⟩
  intro row' t hrow' ht
  obtain rfl : row = row' := Option.some.inj (hrow.symm.trans hrow')
  obtain ⟨fields, event, htext, hevent⟩ := hpage.event_of_ownerText ht
  have hresponse := (hevent.response_of_ownerText htext).1
  cases ho : event.owner with
  | none => exact absurd (.inl ⟨rfl, .inl ho⟩) hevent.route
  | some a => exact (TypeScript.response_eq_some_iff.mp (hresponse.trans ho)).1

theorem isOwnerPage_of_canonicalOwners (hcanonical : CanonicalOwners route value)
    (h : IsOwnerPage Python.reading rfc3339 route market value page) :
    IsOwnerPage TypeScript.reading rfc3339 route market value page := by
  obtain ⟨hplain, howners⟩ := hcanonical
  obtain ⟨o, expected, row, hroute, hexpected, hrow, hpage⟩ := h
  have hroute' : TypeScript.reading.route route = some o :=
    (canonicalHex_of_hasPrefix hplain).symm.trans hroute
  refine ⟨o, expected, row, hroute', hexpected, hrow, hpage.transfer fun t a ht hread => ?_⟩
  have howner := howners row t hrow ht
  have heq : t = a := Option.some.inj ((canonicalHex_of_isOwner howner).symm.trans hread)
  exact TypeScript.response_eq_some_iff.mpr ⟨howner, heq⟩

end Owner

/-- The decoders of the pages of an owner agree unless a page is right in everything but the
spelling of its owners. Those of the pages of a market agree always. -/
theorem pageDecoders_agree_iff (rfc3339 : Text → Bool) (value : Value) :
    (∀ route market,
      (TypeScript.decodePositionTriggerHistoryPage rfc3339 value route market).toOption =
        (Python.decodePositionTriggerHistoryPage rfc3339 value route market).toOption ↔
      (IsPageUpToSpelling rfc3339 route market value → CanonicalOwners route value)) ∧
    ∀ market,
      (TypeScript.decodeTriggerMarketHistoryPage rfc3339 value market).toOption =
        (Python.decodeTriggerMarketHistoryPage rfc3339 value market).toOption := by
  constructor
  · intro route market
    simp only [toOption_eq_iff, TypeScript.decodePositionTriggerHistoryPage_ok_iff,
      Python.decodePositionTriggerHistoryPage_ok_iff]
    constructor
    · rintro hagree ⟨page, hpage⟩
      exact canonicalOwners_of_strict ((hagree page).mpr hpage)
    · intro hcanonical page
      constructor
      · exact isOwnerPage_of_strict
      · intro hpage
        exact isOwnerPage_of_canonicalOwners (hcanonical ⟨page, hpage⟩) hpage
  · intro market
    simp only [toOption_eq_iff, TypeScript.decodeTriggerMarketHistoryPage_ok_iff,
      Python.decodeTriggerMarketHistoryPage_ok_iff]
    intro page
    exact ⟨isMarketPage_transfer _ _, isMarketPage_transfer _ _⟩

/-- The time of the event below. -/
def sampleTime (t : Text) : Bool := t == text "2026-07-01T00:00:00Z"

def sampleMember (name value : String) : Text × Value := (text name, .string (text value))

/-- A page with one event, whose owner is written in capitals. -/
def samplePage : Value :=
  .object [(text "trigger_events", .array [.object
    [sampleMember "event_key" "5:0:1", sampleMember "block_height" "5",
      sampleMember "execution_ordinal" "0", sampleMember "event_ordinal" "1",
      sampleMember "block_time" "2026-07-01T00:00:00Z",
      sampleMember "event_type" "position_triggers_cancelled",
      (text "owner", .string (List.replicate 40 65)), sampleMember "market" "7",
      (text "payload", .object
        [sampleMember "event_key" "5:0:1", sampleMember "block_height" "5",
          sampleMember "execution_ordinal" "0", sampleMember "event_ordinal" "1",
          sampleMember "market" "7", (text "owner", .string (List.replicate 40 65)),
          sampleMember "position_epoch" "1", sampleMember "group_id" "3"])]]),
    sampleMember "next_cursor" ""]

theorem pageDecoders_disagree :
    (TypeScript.decodePositionTriggerHistoryPage sampleTime samplePage (List.replicate 40 97)
      none).toOption ≠
    (Python.decodePositionTriggerHistoryPage sampleTime samplePage (List.replicate 40 97)
      none).toOption := by
  have hts : (TypeScript.decodePositionTriggerHistoryPage sampleTime samplePage
      (List.replicate 40 97) none).toOption.isSome = false := by decide +kernel
  have hpy : (Python.decodePositionTriggerHistoryPage sampleTime samplePage
      (List.replicate 40 97) none).toOption.isSome = true := by decide +kernel
  intro h
  rw [h, hpy] at hts
  cases hts

end TradingSdk.TriggerHistory
