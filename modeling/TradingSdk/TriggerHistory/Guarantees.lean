import Mathlib.Data.List.Chain
import Mathlib.Data.Prod.Lex
import TradingSdk.TriggerHistory.Agreement

namespace TradingSdk.TriggerHistory

open Json

/-- The digits of a number, without leading zeros. -/
def decimalText (n : Nat) : Text := (decimal n).map fun d => d + 48

theorem isDigit_iff {c : Nat} : isDigit c = true ↔ 48 ≤ c ∧ c ≤ 57 := by
  simp [isDigit]

/-- A canonical text is zero, or starts with a digit that is not. -/
theorem isUint_cases {t : Text} (h : isUint t = true) :
    t = [48] ∨ ∃ c rest, t = c :: rest ∧ 49 ≤ c ∧ ∀ d ∈ t, isDigit d = true := by
  unfold isUint at h
  split at h
  · exact .inl rfl
  · next _ c rest _ =>
    simp only [Bool.and_eq_true, decide_eq_true_eq, List.all_eq_true] at h
    obtain ⟨⟨hlo, hhi⟩, hrest⟩ := h
    refine .inr ⟨c, rest, rfl, hlo, ?_⟩
    intro d hd
    obtain rfl | hd := List.mem_cons.mp hd
    · exact isDigit_iff.mpr ⟨by omega, hhi⟩
    · exact hrest d hd
  · cases h

theorem isUint_digits {t : Text} (h : isUint t = true) : ∀ d ∈ t, isDigit d = true := by
  obtain rfl | ⟨c, rest, -, -, hdigits⟩ := isUint_cases h
  · simp [isDigit]
  · exact hdigits

/-- A canonical text is the text of its value. -/
theorem decimalText_decimalValue {t : Text} (h : isUint t = true) :
    decimalText (decimalValue t) = t := by
  obtain rfl | ⟨c, rest, rfl, hc, hdigits⟩ := isUint_cases h
  · rfl
  · have hvalue : decimalValue (c :: rest) =
        Nat.ofDigits 10 ((c :: rest).map fun c => c - 48).reverse := by
      rw [decimalValue, ← ofDecimal_reverse, List.reverse_reverse]
    have hlt : ∀ d ∈ ((c :: rest).map fun c => c - 48).reverse, d < 10 := by
      intro d hd
      obtain ⟨c', hc', rfl⟩ := List.mem_map.mp (List.mem_reverse.mp hd)
      have hrange := isDigit_iff.mp (hdigits c' hc')
      omega
    have hlast : ∀ hne : ((c :: rest).map fun c => c - 48).reverse ≠ [],
        ((c :: rest).map fun c => c - 48).reverse.getLast hne ≠ 0 := by
      intro hne
      rw [List.getLast_reverse]
      show c - 48 ≠ 0
      omega
    have hdig : Nat.digits 10 (decimalValue (c :: rest)) =
        ((c :: rest).map fun c => c - 48).reverse := by
      rw [hvalue]
      exact Nat.digits_ofDigits 10 (by norm_num) _ hlt hlast
    have hpos : decimalValue (c :: rest) ≠ 0 := by
      intro hzero
      rw [hzero, Nat.digits_zero] at hdig
      simp at hdig
    rw [decimalText, decimal, if_neg hpos, hdig, List.reverse_reverse, List.map_map]
    refine (List.map_congr_left fun c' hc' => ?_).trans (List.map_id _)
    have hrange := isDigit_iff.mp (hdigits c' hc')
    show c' - 48 + 48 = c'
    omega

/-- Block height, then execution ordinal, then event ordinal. -/
def Event.position (event : Event) : Nat ×ₗ Nat ×ₗ Nat :=
  toLex (event.coordinate.1, toLex event.coordinate.2)

theorem Event.position_lt_iff {older newer : Event} : older.position < newer.position ↔
    older.coordinate.1 < newer.coordinate.1 ∨
    newer.coordinate.1 = older.coordinate.1 ∧ older.coordinate.2.1 < newer.coordinate.2.1 ∨
    newer.coordinate.1 = older.coordinate.1 ∧ newer.coordinate.2.1 = older.coordinate.2.1 ∧
      older.coordinate.2.2 < newer.coordinate.2.2 := by
  have hsnd : toLex older.coordinate.2 < toLex newer.coordinate.2 ↔
      older.coordinate.2.1 < newer.coordinate.2.1 ∨
      older.coordinate.2.1 = newer.coordinate.2.1 ∧
        older.coordinate.2.2 < newer.coordinate.2.2 := Prod.Lex.toLex_lt_toLex
  rw [Event.position, Event.position, Prod.Lex.toLex_lt_toLex, hsnd]
  omega

theorem NewestFirst.tail {event : Event} {events : List Event} (h : NewestFirst (event :: events)) :
    NewestFirst events := by
  cases events with
  | nil => exact fun pair hpair => by cases hpair
  | cons next events => exact fun pair hpair => h pair (List.mem_cons_of_mem _ hpair)

/-- Each event is checked against its neighbour only; the order carries this to every pair. -/
theorem NewestFirst.pairwise {events : List Event} (h : NewestFirst events) :
    events.Pairwise fun newer older => older.position < newer.position := by
  have htrans : IsTrans Event fun newer older => older.position < newer.position :=
    ⟨fun _ _ _ hab hbc => hbc.trans hab⟩
  refine List.isChain_iff_pairwise.mp ?_
  induction events with
  | nil => exact .nil
  | cons newer events ih =>
    cases events with
    | nil => exact .singleton newer
    | cons older events =>
      exact .cons_cons (Event.position_lt_iff.mpr (h (newer, older) List.mem_cons_self)) (ih h.tail)

/-- The key of a position. -/
def keyText (position : Nat ×ₗ Nat ×ₗ Nat) : Text :=
  let (height, rest) := ofLex position
  let (execution, event) := ofLex rest
  canonicalKey (decimalText height) (decimalText execution) (decimalText event)

/-- The text in front of the first colon, and the text behind it. -/
def splitColon (t : Text) : Text × Text :=
  (t.takeWhile (· ≠ 58), (t.dropWhile (· ≠ 58)).tail)

/-- The position that a key names. -/
def keyPosition (key : Text) : Nat ×ₗ Nat ×ₗ Nat :=
  let (height, rest) := splitColon key
  let (execution, event) := splitColon rest
  toLex (decimalValue height, toLex (decimalValue execution, decimalValue event))

theorem splitColon_append {t rest : Text} (h : ∀ c ∈ t, isDigit c = true) :
    splitColon (t ++ 58 :: rest) = (t, rest) := by
  have hne : ∀ c ∈ t, decide (c ≠ 58) = true := by
    intro c hc
    have hrange := isDigit_iff.mp (h c hc)
    exact decide_eq_true (by omega)
  rw [splitColon, List.takeWhile_append_of_pos hne, List.dropWhile_append_of_pos hne]
  simp

theorem keyPosition_canonicalKey {height execution event : Text} (hheight : isUint height = true)
    (hexecution : isUint execution = true) :
    keyPosition (canonicalKey height execution event) =
      toLex (decimalValue height, toLex (decimalValue execution, decimalValue event)) := by
  simp only [keyPosition, canonicalKey, splitColon_append (isUint_digits hheight),
    splitColon_append (isUint_digits hexecution)]

/-- The payload repeats who and what its event is about. -/
structure Event.RepeatsIdentity (event : Event) : Prop where
  eventKey : event.payload.get "event_key" = some event.eventKey
  blockHeight : event.payload.get "block_height" = some event.blockHeight
  executionOrdinal : event.payload.get "execution_ordinal" = some event.executionOrdinal
  eventOrdinal : event.payload.get "event_ordinal" = some event.eventOrdinal
  market : event.payload.get "market" = some event.market
  owner : event.payload.get "owner" = event.owner

/-- The quantities of an execution, and a result and a reason that go with them. -/
structure ExecutionConserves (payload : Payload) (requested filled residual result reason : Text) :
    Prop where
  requestedQuantity : payload.get "requested_quantity" = some requested
  filledQuantity : payload.get "filled_quantity" = some filled
  residualQuantity : payload.get "residual_quantity" = some residual
  resultText : payload.get "result" = some result
  reasonText : payload.get "reason" = some reason
  conserves : decimalValue filled + decimalValue residual = decimalValue requested
  outcome : IsOutcome result reason (decimalValue requested) (decimalValue filled)
    (decimalValue residual)

structure PageGuarantees (key : String) (owner : Option Text) (market : Option Int) (value : Value)
    (page : Page) : Prop where
  order : page.events.Pairwise fun newer older => older.position < newer.position
  keysDistinct : (page.events.map Event.eventKey).Nodup
  keyCanonical : ∀ event ∈ page.events, event.eventKey = keyText event.position
  keyDetermines : ∀ event ∈ page.events, keyPosition event.eventKey = event.position
  owner : ∀ event ∈ page.events, event.owner = owner
  market : ∀ event ∈ page.events, ∀ m, market = some m → event.market = text (toString m)
  identity : ∀ event ∈ page.events, event.RepeatsIdentity
  execution : ∀ event ∈ page.events, event.eventType = .positionTriggerExecuted →
    ∃ requested filled residual result reason,
      ExecutionConserves event.payload requested filled residual result reason
  payloads : ∃ row items, fieldsOf value = some row ∧ row.get key = some (.array items) ∧
    List.Forall₂ (fun item event => ∃ fields v, fieldsOf item = some fields ∧
      fields.get "payload" = some v ∧
      fieldsOf v = some (event.payload.map fun m => (m.1, Value.string m.2))) items page.events

theorem IsUnsignedMember.get_eq {payload : Payload} {key : String}
    (h : IsUnsignedMember payload key) :
    ∃ t, payload.get key = some t ∧ payload.amount key = decimalValue t := by
  obtain ⟨t, ht, -⟩ := h
  refine ⟨t, ht, ?_⟩
  rw [Payload.amount, ht]
  rfl

section Event

variable {rfc3339 : Text → Bool} {scope : Scope} {expectedOwner expectedMarket : Option Text}
  {row : Record} {event : Event}

theorem IsEvent.eventKey_eq {R : OwnerReading}
    (h : IsEvent R rfc3339 scope expectedOwner expectedMarket row event) :
    event.eventKey = keyText event.position ∧ keyPosition event.eventKey = event.position := by
  have hkey := h.canonical
  constructor
  · rw [hkey]
    show _ = canonicalKey (decimalText (decimalValue event.blockHeight))
      (decimalText (decimalValue event.executionOrdinal))
      (decimalText (decimalValue event.eventOrdinal))
    rw [decimalText_decimalValue h.blockHeightRange.decimal,
      decimalText_decimalValue h.executionOrdinalRange.decimal,
      decimalText_decimalValue h.eventOrdinalRange.decimal]
  · rw [hkey, keyPosition_canonicalKey h.blockHeightRange.decimal h.executionOrdinalRange.decimal]
    rfl

theorem IsEvent.owner_eq {R : OwnerReading}
    (h : IsEvent R rfc3339 scope expectedOwner expectedMarket row event)
    (hscope : scope = .market → expectedOwner = none) : event.owner = expectedOwner := by
  have hroute := h.route
  rw [not_or, not_and_or, not_and_or] at hroute
  cases scope with
  | owner =>
    obtain ⟨habsurd | hroute, -⟩ := hroute
    · exact absurd rfl habsurd
    · exact not_not.mp (not_or.mp hroute).2
  | market =>
    obtain ⟨-, habsurd | hroute⟩ := hroute
    · exact absurd rfl habsurd
    · rw [hscope rfl]
      exact not_not.mp hroute

theorem IsEvent.repeatsIdentity
    (h : IsEvent TypeScript.reading rfc3339 scope expectedOwner expectedMarket row event) :
    event.RepeatsIdentity := by
  obtain ⟨hkey, hheight, hexecution, hevent, hmarket⟩ := h.agrees.identity
  refine ⟨hkey, hheight, hexecution, hevent, hmarket, ?_⟩
  obtain ⟨t, -, -, hlookup⟩ := h.eventType
  have htype := Scope.isOwner_of_lookup hlookup
  have howner := h.agrees.owner
  have hroute := h.route
  rw [HasOwner, htype] at howner
  cases scope with
  | owner =>
    obtain ⟨⟨t, o, ht, hread, ho⟩, -⟩ := howner
    obtain ⟨-, rfl⟩ := TypeScript.response_eq_some_iff.mp hread
    exact ht.trans ho.symm
  | market =>
    have hnone : event.owner = none := by
      by_contra hne
      exact hroute (.inr ⟨rfl, hne⟩)
    rw [hnone]
    exact howner

theorem IsEvent.executionConserves {R : OwnerReading}
    (h : IsEvent R rfc3339 scope expectedOwner expectedMarket row event)
    (htype : event.eventType = .positionTriggerExecuted) :
    ∃ requested filled residual result reason,
      ExecutionConserves event.payload requested filled residual result reason := by
  have hunsigned := h.agrees.unsigned
  have hdetails := h.agrees.details
  rw [htype] at hunsigned hdetails
  obtain ⟨requested, hrequested, hrequestedAmount⟩ :=
    (hunsigned "requested_quantity" (by decide)).get_eq
  obtain ⟨filled, hfilled, hfilledAmount⟩ := (hunsigned "filled_quantity" (by decide)).get_eq
  obtain ⟨residual, hresidual, hresidualAmount⟩ :=
    (hunsigned "residual_quantity" (by decide)).get_eq
  obtain ⟨-, result, reason, hexecution⟩ := hdetails
  have hconserves := hexecution.conserves
  have houtcome := hexecution.outcome
  rw [hrequestedAmount, hfilledAmount, hresidualAmount] at hconserves houtcome
  exact ⟨requested, filled, residual, result, reason, hrequested, hfilled, hresidual,
    hexecution.resultKnown.1, hexecution.reasonText, hconserves, houtcome⟩

end Event

section Page

variable {rfc3339 : Text → Bool} {scope : Scope} {expectedOwner expectedMarket : Option Text}
  {key : String} {row : Record} {page : Page}

/-- What each row gives its event, every event of the page has. -/
theorem IsPage.forall_events {R : OwnerReading} {P : Event → Prop}
    (h : IsPage R rfc3339 scope expectedOwner expectedMarket key row page)
    (hevent : ∀ fields event, IsEvent R rfc3339 scope expectedOwner expectedMarket fields event →
      P event) : ∀ event ∈ page.events, P event := by
  intro event he
  obtain ⟨items, -, hevents⟩ := h.events
  obtain ⟨item, -, fields, -, hfields⟩ := exists_related_of_mem hevents.flip he
  exact hevent fields event hfields

/-- A key names its position, so that no key stands on a page twice. -/
theorem IsPage.keys_nodup {R : OwnerReading}
    (h : IsPage R rfc3339 scope expectedOwner expectedMarket key row page) :
    (page.events.map Event.eventKey).Nodup := by
  have hposition := h.forall_events fun _ _ hevent => hevent.eventKey_eq.2
  rw [List.Nodup, List.pairwise_map]
  refine h.order.pairwise.imp_of_mem fun {newer older} hnewer holder hlt heq => ?_
  have hsame := hposition newer hnewer
  rw [heq, hposition older holder] at hsame
  exact hlt.ne hsame

theorem IsPage.guarantees {market : Option Int} {value : Value}
    (h : IsPage TypeScript.reading rfc3339 scope expectedOwner expectedMarket key row page)
    (hrow : fieldsOf value = some row) (hscope : scope = .market → expectedOwner = none)
    (hmarket : ∀ m, market = some m → expectedMarket = some (text (toString m))) :
    PageGuarantees key expectedOwner market value page where
  order := h.order.pairwise
  keysDistinct := h.keys_nodup
  keyCanonical := h.forall_events fun _ _ hevent => hevent.eventKey_eq.1
  keyDetermines := h.forall_events fun _ _ hevent => hevent.eventKey_eq.2
  owner := h.forall_events fun _ _ hevent => hevent.owner_eq hscope
  market := h.forall_events fun _ _ hevent m hm => by
    obtain hnone | hsome := hevent.expected
    · rw [hmarket m hm] at hnone
      cases hnone
    · exact Option.some.inj (hsome.trans (hmarket m hm))
  identity := h.forall_events fun _ _ hevent => hevent.repeatsIdentity
  execution := h.forall_events fun _ _ hevent => hevent.executionConserves
  payloads := by
    obtain ⟨items, hitems, hevents⟩ := h.events
    refine ⟨row, items, hrow, hitems, hevents.imp fun item event hitem => ?_⟩
    obtain ⟨fields, hfields, hevent⟩ := hitem
    obtain ⟨v, members, hv, hmembers, hmap⟩ := hevent.payload
    exact ⟨fields, v, hfields, hv, hmembers.trans (congrArg some (fields_of_mapM hmap))⟩

end Page

theorem marketText_eq_some {value : Int} {t : Text} (h : marketText value = some t) :
    t = text (toString value) := by
  rw [marketText] at h
  split_ifs at h
  exact (Option.some.inj h).symm

/-- What a decoder returns is in the order of the chain and within the scope of its route, and its
payloads are those of the response. -/
theorem decodedPages_guarantee (rfc3339 : Text → Bool) (value : Value) (page : Page) :
    (∀ route market,
      TypeScript.decodePositionTriggerHistoryPage rfc3339 value route market = .ok page →
      PageGuarantees "trigger_events" (some (lower route)) market value page) ∧
    ∀ market, TypeScript.decodeTriggerMarketHistoryPage rfc3339 value market = .ok page →
      PageGuarantees "trigger_market_events" none (some market) value page := by
  constructor
  · intro route market h
    obtain ⟨owner, expected, row, hroute, hexpected, hrow, hpage⟩ :=
      TypeScript.decodePositionTriggerHistoryPage_ok_iff.mp h
    obtain ⟨-, rfl⟩ := TypeScript.route_eq_some_iff.mp hroute
    refine hpage.guarantees hrow (fun h => by cases h) ?_
    intro m hm
    rw [hm, Option.mapM_some] at hexpected
    obtain ⟨t, ht, rfl⟩ := Option.map_eq_some_iff.mp hexpected
    exact congrArg some (marketText_eq_some ht)
  · intro market h
    obtain ⟨expected, row, hexpected, hrow, hpage⟩ :=
      TypeScript.decodeTriggerMarketHistoryPage_ok_iff.mp h
    refine hpage.guarantees hrow (fun _ => rfl) ?_
    intro m hm
    obtain rfl := Option.some.inj hm
    rw [marketText_eq_some hexpected]

/-- What a row and its payload say of one event in the history of an owner, on market 7. -/
def sampleRow (height event type : String) (details : Members) : Value :=
  let identity := [sampleMember "event_key" (height ++ ":0:" ++ event),
    sampleMember "block_height" height, sampleMember "execution_ordinal" "0",
    sampleMember "event_ordinal" event, sampleMember "market" "7",
    (text "owner", .string (List.replicate 40 97))]
  .object (identity ++ [sampleMember "block_time" "2026-07-01T00:00:00Z",
    sampleMember "event_type" type, (text "payload", .object (identity ++ details))])

/-- A stop loss that was filled in part, set in the block before. -/
def sampleHistory : Value :=
  .object [(text "trigger_events", .array
    [sampleRow "10" "2" "position_trigger_executed"
      [sampleMember "position_epoch" "1", sampleMember "group_id" "3",
        sampleMember "limb_id" "4", sampleMember "client_group_id" "0",
        sampleMember "client_trigger_id" "11", sampleMember "trigger_price" "95000",
        sampleMember "frozen_mark" "94990", sampleMember "limit_price" "94300",
        sampleMember "requested_quantity" "10", sampleMember "filled_quantity" "7",
        sampleMember "residual_quantity" "3", sampleMember "execution_order_id" "900",
        sampleMember "limb_kind" "stop_loss", sampleMember "result" "partial",
        sampleMember "total_fee" "-12", sampleMember "reason" "no_eligible_liquidity"],
     sampleRow "9" "1" "position_triggers_cancelled"
      [sampleMember "position_epoch" "1", sampleMember "group_id" "2"]]),
    sampleMember "next_cursor" "9:0:1"]

theorem decodedPages_guarantee_sample : ∃ page,
    TypeScript.decodePositionTriggerHistoryPage sampleTime sampleHistory (List.replicate 40 65)
      (some 7) = .ok page ∧
    PageGuarantees "trigger_events" (some (List.replicate 40 97)) (some 7) sampleHistory page := by
  have hok : (TypeScript.decodePositionTriggerHistoryPage sampleTime sampleHistory
      (List.replicate 40 65) (some 7)).toOption.isSome = true := by decide +kernel
  cases hpage : TypeScript.decodePositionTriggerHistoryPage sampleTime sampleHistory
      (List.replicate 40 65) (some 7) with
  | error e =>
    rw [hpage] at hok
    cases hok
  | ok page => exact ⟨page, rfl, (decodedPages_guarantee _ _ page).1 _ _ hpage⟩

end TradingSdk.TriggerHistory
