import TradingSdk.TriggerHistory.Checks

namespace TradingSdk.TriggerHistory.Python

open Json

/-- `ProofTradingSdkError`, or the `ValueError` that a wrong route raises. -/
inductive DecodeError where
  | sdkError (message : String)
  | valueError (message : String)
  deriving DecidableEq

/-- `_error`. -/
def fail (message : String) : DecodeError := .sdkError ("trigger history decode: " ++ message)

/-- `if not condition: raise`. -/
abbrev require (condition : Prop) [Decidable condition] (message : String) :
    Except DecodeError Unit :=
  check fail condition message

/-- Equality of two sets of keys. -/
def exactKeys (row : Record) (expected : List Text) (name : String) : Except DecodeError Unit :=
  require ((∀ key ∈ keysOf row, key ∈ expected) ∧ ∀ key ∈ expected, key ∈ keysOf row)
    s!"{name} has unexpected or missing fields"

abbrev string : Option Value → String → Bool → Except DecodeError Text := checkString fail

def signedI64 (value : Option Value) (name : String) : Except DecodeError Text := do
  let t ← string value name true
  require (isInt t = true ∧ -2^63 ≤ intValue t ∧ intValue t ≤ 2^63 - 1)
    s!"{name} is not canonical i64 decimal"
  return t

/-- `_enum`: with `empty`, the empty text is allowed beside the members. -/
def enum (value : Option Value) (allowed : List Text) (name : String) (empty : Bool) :
    Except DecodeError Text := do
  let t ← string value name !empty
  require (¬ (t ∉ allowed ∧ ¬ (empty = true ∧ t = []))) s!"unknown {name}"
  return t

def canonicalOwner (value : Option Value) : Except DecodeError Text :=
  match value with
  | some (.string t) =>
    if isOwner (lower (removePrefix t)) then .ok (lower (removePrefix t))
    else .error (.valueError "trigger history owner must be a 40-character hex address")
  | _ => .error (.valueError "trigger history owner must be bytes or hex")

/-- The owner of a response, read the way the owner of a route is. -/
def responseOwner (value : Option Value) (name : String) : Except DecodeError Text :=
  match canonicalOwner value with
  | .ok o => .ok o
  | .error (.valueError _) => .error (fail s!"{name} is not a canonical owner")
  | .error e => .error e

/-- `previous <= current` for two tuples. -/
def tupleLe (previous current : Nat × Nat × Nat) : Prop :=
  previous.1 < current.1 ∨ previous.1 = current.1 ∧
    (previous.2.1 < current.2.1 ∨ previous.2.1 = current.2.1 ∧ previous.2.2 ≤ current.2.2)

instance (previous current : Nat × Nat × Nat) : Decidable (tupleLe previous current) :=
  inferInstanceAs (Decidable (_ ∨ _))

def newestFirst (events : List Event) : Except DecodeError Unit :=
  let coordinates := events.map Event.coordinate
  require (¬ ∃ pair ∈ coordinates.zip coordinates.tail, tupleLe pair.1 pair.2)
    "page is not strictly newest-first by chain coordinate"

/-- `validate_market`, and the text of the market. -/
abbrev routeMarket : Int → Except DecodeError Text :=
  checkMarket (.valueError "trigger history market must be an integer in 0..=2147483647")

/-- The decoder of `trigger_history.py`. -/
def decoder : Decoder DecodeError where
  fail := fail
  notText := "every payload value must remain a string"
  exactKeys := exactKeys
  signedI64 := signedI64
  enum value allowed name := enum value allowed name false
  executionReason value := enum value triggerReasons "payload.reason" true
  readOwner := responseOwner
  newestFirst := newestFirst

section Page

variable (rfc3339 : Text → Bool)

abbrev decodePage : Scope → Option Text → Option Text → String → String → Value →
    Except DecodeError Page :=
  decoder.decodePage rfc3339

def decodePositionTriggerHistoryPage (value : Value) (expectedOwner : Text)
    (expectedMarket : Option Int) : Except DecodeError Page := do
  let owner ← canonicalOwner (some (.string expectedOwner))
  let market ← expectedMarket.mapM routeMarket
  decodePage rfc3339 .owner (some owner) market "trigger_events" "owner page" value

def decodeTriggerMarketHistoryPage (value : Value) (expectedMarket : Int) :
    Except DecodeError Page := do
  let market ← routeMarket expectedMarket
  decodePage rfc3339 .market none (some market) "trigger_market_events" "market page" value

end Page

/-- The owners that `trigger_history.py` reads. -/
def reading : OwnerReading where
  route := canonicalHex
  response := canonicalHex

/-- The keys of a parsed object are distinct, so that their set says it all. -/
theorem exactKeys_ok_iff {v : Value} {row : Record} (hrow : fieldsOf v = some row)
    {expected : List Text} (hexpected : expected.Nodup) {name : String} {u : Unit} :
    exactKeys row expected name = .ok u ↔ (keysOf row).Perm expected := by
  rw [exactKeys, check_ok_iff, List.perm_ext_iff_of_nodup (keysOf_nodup hrow) hexpected]
  constructor
  · rintro ⟨hknown, hpresent⟩ key
    exact ⟨hknown key, hpresent key⟩
  · intro h
    exact ⟨fun key => (h key).mp, fun key => (h key).mpr⟩

theorem signedI64_ok_iff {value : Option Value} {name : String} {t : Text} :
    signedI64 value name = .ok t ↔ value = some (.string t) ∧ IsSigned t := by
  simp only [signedI64, bind_ok_iff, checkString_ok_iff, check_ok_iff, pure_ok_iff]
  constructor
  · intro h
    obtain ⟨t, ⟨hvalue, -⟩, _, ⟨hdecimal, hlow, hhigh⟩, rfl⟩ := h
    exact ⟨hvalue, hdecimal, by omega⟩
  · intro h
    obtain ⟨hvalue, hdecimal, hrange⟩ := h
    exact ⟨t, ⟨hvalue, fun hnil => isInt_ne_nil hdecimal hnil.2⟩, (), ⟨hdecimal, by omega⟩, rfl⟩

theorem canonicalOwner_ok_iff {value : Option Value} {o : Text} :
    canonicalOwner value = .ok o ↔ ∃ t, value = some (.string t) ∧ canonicalHex t = some o := by
  cases value with
  | none => simp [canonicalOwner]
  | some v =>
    cases v with
    | string t =>
      simp only [canonicalOwner, canonicalHex, Option.some_inj, Value.string.injEq, exists_eq_left']
      split_ifs <;> simp
    | _ => simp [canonicalOwner]

theorem responseOwner_reads (value : Option Value) (name : String) (o : Text) :
    responseOwner value name = .ok o ↔
      ∃ t, value = some (.string t) ∧ reading.response t = some o := by
  refine Iff.trans ?_ canonicalOwner_ok_iff
  rw [responseOwner]
  cases canonicalOwner value with
  | ok a => rfl
  | error e => cases e <;> simp

theorem enum_ok_iff {payload : Payload} {key name : String} {allowed : List Text}
    {t : Text} : enum (payload.value key) allowed name false = .ok t ↔
      IsOneOf payload key allowed t := by
  simp only [enum, bind_ok_iff, checkString_ok_iff, check_ok_iff, pure_ok_iff,
    Payload.value_eq_some_iff]
  constructor
  · intro h
    obtain ⟨t, ⟨hvalue, hne⟩, _, hmem, rfl⟩ := h
    exact ⟨hvalue, by simpa using hne, by simpa using hmem⟩
  · intro h
    obtain ⟨hvalue, hne, hmem⟩ := h
    exact ⟨t, ⟨hvalue, by simpa using hne⟩, (), by simpa using hmem, rfl⟩

theorem enum_empty_ok_iff {payload : Payload} {key name : String} {allowed : List Text}
    {t : Text} : enum (payload.value key) allowed name true = .ok t ↔
      payload.get key = some t ∧ ¬ (t ≠ [] ∧ t ∉ allowed) := by
  simp only [enum, bind_ok_iff, checkString_ok_iff, check_ok_iff, pure_ok_iff,
    Payload.value_eq_some_iff]
  constructor
  · intro h
    obtain ⟨t, ⟨hvalue, -⟩, _, hmem, rfl⟩ := h
    exact ⟨hvalue, fun h => hmem ⟨h.2, fun hnil => h.1 hnil.2⟩⟩
  · intro h
    obtain ⟨hvalue, hmem⟩ := h
    exact ⟨t, ⟨hvalue, by simp⟩, (), fun h => hmem ⟨fun hnil => h.2 ⟨trivial, hnil⟩, h.1⟩, rfl⟩

/-- `<=` on tuples is the negation of what a page asks of two neighbours. -/
theorem not_tupleLe_iff {previous current : Nat × Nat × Nat} :
    ¬ tupleLe previous current ↔ current.1 < previous.1 ∨
      previous.1 = current.1 ∧ current.2.1 < previous.2.1 ∨
      previous.1 = current.1 ∧ previous.2.1 = current.2.1 ∧ current.2.2 < previous.2.2 := by
  rw [tupleLe]
  omega

theorem newestFirst_ok_iff {events : List Event} {u : Unit} :
    newestFirst events = .ok u ↔ NewestFirst events := by
  simp only [newestFirst, check_ok_iff, ← List.map_tail, List.zip_map]
  constructor
  · intro h pair hpair
    exact not_tupleLe_iff.mp fun hle => h ⟨_, List.mem_map_of_mem hpair, hle⟩
  · rintro h ⟨_, hmem, hle⟩
    obtain ⟨pair, hpair, rfl⟩ := List.mem_map.mp hmem
    exact not_tupleLe_iff.mpr (h pair hpair) hle

theorem decoder_takes : decoder.Takes reading where
  exactKeys _ _ _ _ _ hrow hexpected := exactKeys_ok_iff hrow hexpected
  signedI64 _ _ _ := signedI64_ok_iff
  enum _ _ _ _ _ := enum_ok_iff
  executionReason _ _ := enum_empty_ok_iff
  readOwner := responseOwner_reads
  newestFirst _ _ := newestFirst_ok_iff

section Page

variable {rfc3339 : Text → Bool}

theorem decodePositionTriggerHistoryPage_ok_iff {route : Text} {market : Option Int} {value : Value}
    {page : Page} :
    decodePositionTriggerHistoryPage rfc3339 value route market = .ok page ↔
      IsOwnerPage reading rfc3339 route market value page := by
  have hkey : [text "trigger_events", text "next_cursor"].Nodup := by decide
  have hroute : reading.route = canonicalHex := rfl
  simp only [decodePositionTriggerHistoryPage, bind_ok_iff, canonicalOwner_ok_iff,
    checkMarkets_ok_iff, Decoder.decodePage_ok_iff decoder_takes hkey, IsOwnerPage, hroute, Option.some_inj,
    Value.string.injEq, exists_eq_left', exists_and_left]

theorem decodeTriggerMarketHistoryPage_ok_iff {market : Int} {value : Value} {page : Page} :
    decodeTriggerMarketHistoryPage rfc3339 value market = .ok page ↔
      IsMarketPage reading rfc3339 market value page := by
  have hkey : [text "trigger_market_events", text "next_cursor"].Nodup := by decide
  simp only [decodeTriggerMarketHistoryPage, bind_ok_iff, checkMarket_ok_iff,
    Decoder.decodePage_ok_iff decoder_takes hkey, IsMarketPage, exists_and_left]

end Page

end TradingSdk.TriggerHistory.Python
