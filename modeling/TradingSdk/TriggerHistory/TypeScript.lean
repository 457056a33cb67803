import TradingSdk.TriggerHistory.Checks

namespace TradingSdk.TriggerHistory.TypeScript

open Json

def fail (message : String) : String := "trigger history decode: " ++ message

/-- `if (!condition) throw`. -/
abbrev require (condition : Prop) [Decidable condition] (message : String) : Except String Unit :=
  check fail condition message

/-- Two sorted lists of keys are equal when one is a rearrangement of the other. -/
def exactKeys (row : Record) (expected : List Text) (name : String) : Except String Unit :=
  require ((keysOf row).isPerm expected = true) s!"{name} has unexpected or missing fields"

abbrev string : Option Value → String → Bool → Except String Text := checkString fail

def signedI64 (value : Option Value) (name : String) : Except String Text := do
  let t ← string value name true
  require (isInt t = true) s!"{name} is not canonical signed decimal"
  require (¬ (intValue t < -2^63 ∨ 2^63 - 1 < intValue t)) s!"{name} is outside i64"
  return t

def owner (value : Option Value) (name : String) : Except String Text := do
  let t ← string value name true
  require (isOwner t = true) s!"{name} is not a canonical owner"
  return t

def enumString (value : Option Value) (allowed : List Text) (name : String) :
    Except String Text := do
  let t ← string value name true
  require (t ∈ allowed) s!"unknown {name}"
  return t

/-- `payload.reason` of an execution. -/
def executionReason (value : Option Value) : Except String Text := do
  let reason ← string value "payload.reason" false
  require (¬ (reason ≠ [] ∧ reason ∉ triggerReasons)) "unknown payload.reason"
  return reason

/-- `descending`. -/
def descending (previous current : Nat × Nat × Nat) : Prop :=
  current.1 < previous.1 ∨
  previous.1 = current.1 ∧ current.2.1 < previous.2.1 ∨
  previous.1 = current.1 ∧ previous.2.1 = current.2.1 ∧ current.2.2 < previous.2.2

instance (previous current : Nat × Nat × Nat) : Decidable (descending previous current) :=
  inferInstanceAs (Decidable (_ ∨ _ ∨ _))

def assertNewestFirst (events : List Event) : Except String Unit :=
  require (∀ pair ∈ events.zip events.tail, descending pair.1.coordinate pair.2.coordinate)
    "page is not strictly newest-first by chain coordinate"

/-- `validateTriggerHistoryMarket`, and the text of the market. -/
abbrev routeMarket : Int → Except String Text :=
  checkMarket "trigger history: market must be an integer in 0..=2147483647"

/-- The decoder of `trigger-history.ts`. -/
def decoder : Decoder String where
  fail := fail
  notText := "payload must remain a string"
  exactKeys := exactKeys
  signedI64 := signedI64
  enum := enumString
  executionReason := executionReason
  readOwner := owner
  newestFirst := assertNewestFirst

section Page

variable (rfc3339 : Text → Bool)

abbrev decodePage : Scope → Option Text → Option Text → String → String → Value →
    Except String Page :=
  decoder.decodePage rfc3339

def decodePositionTriggerHistoryPage (value : Value) (expectedOwner : Text)
    (expectedMarket : Option Int) : Except String Page := do
  let canonicalOwner ← owner (some (.string (lower expectedOwner))) "expected owner"
  let market ← expectedMarket.mapM routeMarket
  decodePage rfc3339 .owner (some canonicalOwner) market "trigger_events" "owner page" value

def decodeTriggerMarketHistoryPage (value : Value) (expectedMarket : Int) : Except String Page := do
  let market ← routeMarket expectedMarket
  decodePage rfc3339 .market none (some market) "trigger_market_events" "market page" value

end Page

/-- The owners that `trigger-history.ts` reads. -/
def reading : OwnerReading where
  route t := if isOwner (lower t) then some (lower t) else none
  response t := if isOwner t then some t else none

theorem exactKeys_ok_iff {row : Record} {expected : List Text} {name : String} {u : Unit} :
    exactKeys row expected name = .ok u ↔ (keysOf row).Perm expected := by
  rw [exactKeys, check_ok_iff, List.isPerm_iff]

theorem signedI64_ok_iff {value : Option Value} {name : String} {t : Text} :
    signedI64 value name = .ok t ↔ value = some (.string t) ∧ IsSigned t := by
  simp only [signedI64, bind_ok_iff, checkString_ok_iff, check_ok_iff, pure_ok_iff]
  constructor
  · intro h
    obtain ⟨t, ⟨hvalue, -⟩, _, hdecimal, _, hrange, rfl⟩ := h
    exact ⟨hvalue, hdecimal, hrange⟩
  · intro h
    obtain ⟨hvalue, h⟩ := h
    exact ⟨t, ⟨hvalue, fun hnil => isInt_ne_nil h.decimal hnil.2⟩, (), h.decimal, (), h.range, rfl⟩

theorem owner_ok_iff {value : Option Value} {name : String} {t : Text} :
    owner value name = .ok t ↔ value = some (.string t) ∧ isOwner t = true := by
  simp only [owner, bind_ok_iff, checkString_ok_iff, check_ok_iff, pure_ok_iff]
  constructor
  · intro h
    obtain ⟨t, ⟨hvalue, -⟩, _, howner, rfl⟩ := h
    exact ⟨hvalue, howner⟩
  · intro h
    obtain ⟨hvalue, howner⟩ := h
    exact ⟨t, ⟨hvalue, fun hnil => isOwner_ne_nil howner hnil.2⟩, (), howner, rfl⟩

theorem route_eq_some_iff {t o : Text} :
    reading.route t = some o ↔ isOwner (lower t) = true ∧ lower t = o := by
  show (if isOwner (lower t) then some (lower t) else none) = some o ↔ _
  split_ifs with h <;> simp [h]

theorem response_eq_some_iff {t o : Text} :
    reading.response t = some o ↔ isOwner t = true ∧ t = o := by
  show (if isOwner t then some t else none) = some o ↔ _
  split_ifs with h <;> simp [h]

theorem owner_reads (value : Option Value) (name : String) (o : Text) :
    owner value name = .ok o ↔ ∃ t, value = some (.string t) ∧ reading.response t = some o := by
  simp only [owner_ok_iff, response_eq_some_iff]
  constructor
  · intro h
    obtain ⟨hvalue, howner⟩ := h
    exact ⟨o, hvalue, howner, rfl⟩
  · intro h
    obtain ⟨_, hvalue, howner, rfl⟩ := h
    exact ⟨hvalue, howner⟩

theorem enumString_ok_iff {payload : Payload} {key name : String} {allowed : List Text}
    {t : Text} : enumString (payload.value key) allowed name = .ok t ↔
      IsOneOf payload key allowed t := by
  simp only [enumString, bind_ok_iff, checkString_ok_iff, check_ok_iff, pure_ok_iff,
    Payload.value_eq_some_iff, true_and]
  constructor
  · intro h
    obtain ⟨t, ⟨hvalue, hne⟩, _, hmem, rfl⟩ := h
    exact ⟨hvalue, hne, hmem⟩
  · intro h
    obtain ⟨hvalue, hne, hmem⟩ := h
    exact ⟨t, ⟨hvalue, hne⟩, (), hmem, rfl⟩

theorem executionReason_ok_iff {payload : Payload} {t : Text} :
    executionReason (payload.value "reason") = .ok t ↔
      payload.get "reason" = some t ∧ ¬ (t ≠ [] ∧ t ∉ triggerReasons) := by
  simp only [executionReason, bind_ok_iff, checkString_ok_iff, check_ok_iff, pure_ok_iff,
    Payload.value_eq_some_iff]
  constructor
  · intro h
    obtain ⟨t, ⟨hreason, -⟩, _, hknown, rfl⟩ := h
    exact ⟨hreason, hknown⟩
  · intro h
    obtain ⟨hreason, hknown⟩ := h
    exact ⟨t, ⟨hreason, fun hnil => Bool.false_ne_true hnil.1⟩, (), hknown, rfl⟩

theorem assertNewestFirst_ok_iff {events : List Event} {u : Unit} :
    assertNewestFirst events = .ok u ↔ NewestFirst events :=
  check_ok_iff

theorem decoder_takes : decoder.Takes reading where
  exactKeys _ _ _ _ _ _ _ := exactKeys_ok_iff
  signedI64 _ _ _ := signedI64_ok_iff
  enum _ _ _ _ _ := enumString_ok_iff
  executionReason _ _ := executionReason_ok_iff
  readOwner := owner_reads
  newestFirst _ _ := assertNewestFirst_ok_iff

section Page

variable {rfc3339 : Text → Bool}

theorem decodePositionTriggerHistoryPage_ok_iff {route : Text} {market : Option Int} {value : Value}
    {page : Page} :
    decodePositionTriggerHistoryPage rfc3339 value route market = .ok page ↔
      IsOwnerPage reading rfc3339 route market value page := by
  have hkey : [text "trigger_events", text "next_cursor"].Nodup := by decide
  simp only [decodePositionTriggerHistoryPage, bind_ok_iff, owner_ok_iff, checkMarkets_ok_iff,
    Decoder.decodePage_ok_iff decoder_takes hkey, IsOwnerPage, route_eq_some_iff, Option.some_inj, Value.string.injEq]
  constructor
  · intro h
    obtain ⟨_, ⟨rfl, howner⟩, expected, hexpected, row, hrow, hpage⟩ := h
    exact ⟨_, expected, row, ⟨howner, rfl⟩, hexpected, hrow, hpage⟩
  · intro h
    obtain ⟨_, expected, row, ⟨howner, rfl⟩, hexpected, hrow, hpage⟩ := h
    exact ⟨_, ⟨rfl, howner⟩, expected, hexpected, row, hrow, hpage⟩

theorem decodeTriggerMarketHistoryPage_ok_iff {market : Int} {value : Value} {page : Page} :
    decodeTriggerMarketHistoryPage rfc3339 value market = .ok page ↔
      IsMarketPage reading rfc3339 market value page := by
  have hkey : [text "trigger_market_events", text "next_cursor"].Nodup := by decide
  simp only [decodeTriggerMarketHistoryPage, bind_ok_iff, checkMarket_ok_iff, Decoder.decodePage_ok_iff decoder_takes hkey,
    IsMarketPage, exists_and_left]

end Page

end TradingSdk.TriggerHistory.TypeScript
