import TradingSdk.TriggerHistory.Agreement
import TradingSdk.Json.Double

namespace TradingSdk.TriggerHistory

open Json

/-- The filters of a request, over the times of a language. -/
structure HistoryFilters (Time : Type) where
  market : Option Int
  from_ : Option Time
  to_ : Option Time
  limit : Option Int
  cursor : Option Text

/-- The path of a request and the parameters behind it, before they are escaped. -/
structure HistoryRequest where
  path : Text
  params : List (Text × Text)
  deriving DecidableEq

def InI64 (n : Int) : Prop := -2^63 ≤ n ∧ n ≤ 2^63 - 1

instance (n : Int) : Decidable (InI64 n) := inferInstanceAs (Decidable (_ ∧ _))

/-- `^-?(?:0|[1-9][0-9]*)$`, where a zero may be negative. -/
def isEpoch : Text → Bool
  | 45 :: rest => isUint rest
  | t => isUint t

def negativeZero : Text := text "-0"

/-- A parameter that is set where there is a value for it. -/
def param (name : String) (value : Option Text) : List (Text × Text) :=
  (value.map fun t => (text name, t)).toList

section Checks

variable {ε : Type}

def checkLimit (refusal : ε) (limit : Int) : Except ε Text :=
  if 1 ≤ limit ∧ limit ≤ 1000 then .ok (text (toString limit)) else .error refusal

def checkCursor (refusal : ε) (cursor : Text) : Except ε Text :=
  if cursor = [] then .error refusal else .ok cursor

end Checks

namespace TypeScript

/-- `TriggerHistoryTime`. -/
inductive HistoryTime where
  | bigint (n : Int)
  | number (x : Double)
  | string (t : Text)

/-- The integer of a number that `Number.isSafeInteger` lets pass. -/
def safeInteger : Double → Option Int
  | .finite q => if q.den = 1 ∧ |q.num| ≤ 2^53 - 1 then some q.num else none
  | .infinite _ => none

section Requests

variable (rfc3339 : Text → Bool)

def filterTime (value : HistoryTime) (name : String) : Except String Text :=
  let outside := s!"trigger history: {name} epoch milliseconds are outside i64"
  match value with
  | .bigint n => if InI64 n then .ok (text (toString n)) else .error outside
  | .number x =>
    match safeInteger x with
    | some n => .ok (text (toString n))
    | none => .error s!"trigger history: {name} must be a safe epoch-millisecond integer"
  | .string t => do
    let t ← string (some (.string t)) name true
    if isEpoch t then
      if InI64 (intValue t) then return t else .error outside
    else
      require (rfc3339 t = true) s!"{name} is not RFC3339"
      return t

def commonParams (filters : HistoryFilters HistoryTime) : Except String (List (Text × Text)) := do
  let from_ ← filters.from_.mapM fun value => filterTime rfc3339 value "from"
  let to_ ← filters.to_.mapM fun value => filterTime rfc3339 value "to"
  let limit ← filters.limit.mapM
    (checkLimit "trigger history: limit must be an integer in 1..=1000")
  let cursor ← filters.cursor.mapM
    (checkCursor "trigger history: cursor must be a non-empty opaque string")
  return param "from" from_ ++ param "to" to_ ++ param "limit" limit ++ param "cursor" cursor

def positionTriggerHistorySearchParams (filters : HistoryFilters HistoryTime) :
    Except String (List (Text × Text)) := do
  let params ← commonParams rfc3339 filters
  let market ← filters.market.mapM routeMarket
  return params ++ param "market" market

/-- The request of `queryPositionTriggerHistory` for an address. -/
def positionHistoryRequest (hex : Text) (filters : HistoryFilters HistoryTime) :
    Except String HistoryRequest :=
  if hex = [] then .error "No address available"
  else if isOwner (lower hex) = false then
    .error "trigger history owner must be a 40-character hex address"
  else do
    let params ← positionTriggerHistorySearchParams rfc3339 filters
    return ⟨text "/v1/history/triggers/" ++ lower hex, params⟩

/-- The request of `queryTriggerMarketHistory`. -/
def marketHistoryRequest (market : Int) (filters : HistoryFilters HistoryTime) :
    Except String HistoryRequest := do
  let route ← routeMarket market
  let params ← commonParams rfc3339 filters
  return ⟨text "/v1/history/trigger-markets/" ++ route, params⟩

end Requests

end TypeScript

namespace Python

/-- `TriggerHistoryTime`. -/
inductive HistoryTime where
  | int (n : Int)
  | str (t : Text)

section Requests

variable (rfc3339 : Text → Bool)

def filterTime (value : HistoryTime) (name : String) : Except DecodeError Text :=
  let outside := DecodeError.valueError
    s!"trigger history {name} epoch milliseconds are outside i64"
  let malformed := DecodeError.valueError
    s!"trigger history {name} must be epoch milliseconds or RFC3339"
  match value with
  | .int n => if InI64 n then .ok (text (toString n)) else .error outside
  | .str t =>
    if t = [] then .error malformed
    else if isInt t then
      if InI64 (intValue t) then .ok t else .error outside
    else if rfc3339 t then .ok t
    else .error malformed

/-- `history_params`. The market is left out for the history of a market. -/
def historyParams (filters : HistoryFilters HistoryTime) (market : Option Int) :
    Except DecodeError (List (Text × Text)) := do
  let from_ ← filters.from_.mapM fun value => filterTime rfc3339 value "from"
  let to_ ← filters.to_.mapM fun value => filterTime rfc3339 value "to"
  let limit ← filters.limit.mapM
    (checkLimit (.valueError "trigger history limit must be an integer in 1..=1000"))
  let cursor ← filters.cursor.mapM
    (checkCursor (.valueError "trigger history cursor must be a non-empty opaque string"))
  let market ← market.mapM routeMarket
  return param "from" from_ ++ param "to" to_ ++ param "limit" limit ++ param "cursor" cursor ++
    param "market" market

/-- The request of `history_triggers` for an owner in hexadecimal digits. -/
def positionHistoryRequest (owner : Text) (filters : HistoryFilters HistoryTime) :
    Except DecodeError HistoryRequest := do
  let routeOwner ← canonicalOwner (some (.string owner))
  let params ← historyParams rfc3339 filters filters.market
  return ⟨text "/v1/history/triggers/" ++ routeOwner, params⟩

/-- The request of `history_trigger_markets`. -/
def marketHistoryRequest (market : Int) (filters : HistoryFilters HistoryTime) :
    Except DecodeError HistoryRequest := do
  let routeMarket ← routeMarket market
  let params ← historyParams rfc3339 filters none
  return ⟨text "/v1/history/trigger-markets/" ++ routeMarket, params⟩

end Requests

end Python

/-- One time in both languages. A whole number is an integer in either of two forms of TypeScript. -/
inductive SameTime : Python.HistoryTime → TypeScript.HistoryTime → Prop
  | bigint (n : Int) : SameTime (.int n) (.bigint n)
  | number (n : Int) : SameTime (.int n) (.number (.finite n))
  | string (t : Text) : SameTime (.str t) (.string t)

/-- A number that TypeScript takes for a whole one. -/
def TypeScript.HistoryTime.IsSafe : TypeScript.HistoryTime → Prop
  | .number x => safeInteger x ≠ none
  | _ => True

namespace HistoryFilters

def HasTime {Time : Type} (filters : HistoryFilters Time) (time : Time) : Prop :=
  filters.from_ = some time ∨ filters.to_ = some time

/-- The same filters in both languages. -/
structure Same (filters : HistoryFilters Python.HistoryTime)
    (filters' : HistoryFilters TypeScript.HistoryTime) : Prop where
  market : filters'.market = filters.market
  from_ : Option.Rel SameTime filters.from_ filters'.from_
  to_ : Option.Rel SameTime filters.to_ filters'.to_
  limit : filters'.limit = filters.limit
  cursor : filters'.cursor = filters.cursor

def IsSafe (filters : HistoryFilters TypeScript.HistoryTime) : Prop :=
  ∀ time, filters.HasTime time → time.IsSafe

end HistoryFilters

/-- What is sent for a text: epoch milliseconds in their range, or else a time of RFC 3339. -/
def SendsText (rfc3339 isNumeral : Text → Bool) (s t : Text) : Prop :=
  s = t ∧ t ≠ [] ∧
    (isNumeral t = true ∧ InI64 (intValue t) ∨ isNumeral t = false ∧ rfc3339 t = true)

def TypeScript.Sends (rfc3339 : Text → Bool) : TypeScript.HistoryTime → Text → Prop
  | .bigint n, t => InI64 n ∧ t = text (toString n)
  | .number x, t => ∃ n, safeInteger x = some n ∧ t = text (toString n)
  | .string s, t => SendsText rfc3339 isEpoch s t

def Python.Sends (rfc3339 : Text → Bool) : Python.HistoryTime → Text → Prop
  | .int n, t => InI64 n ∧ t = text (toString n)
  | .str s, t => SendsText rfc3339 isInt s t

def IsLimit (limit : Int) (t : Text) : Prop :=
  (1 ≤ limit ∧ limit ≤ 1000) ∧ t = text (toString limit)

def IsCursor (cursor t : Text) : Prop := cursor = t ∧ t ≠ []

section Spec

variable {Time : Type} (sends : Time → Text → Prop)

/-- Each parameter at most once, in this order, with what is sent for its filter. -/
def IsParams (filters : HistoryFilters Time) (market : Option Int)
    (params : List (Text × Text)) : Prop :=
  ∃ from_ to_ limit cursor route, Option.Rel sends filters.from_ from_ ∧
    Option.Rel sends filters.to_ to_ ∧ Option.Rel IsLimit filters.limit limit ∧
    Option.Rel IsCursor filters.cursor cursor ∧
    Option.Rel (fun value t => marketText value = some t) market route ∧
    params = param "from" from_ ++ param "to" to_ ++ param "limit" limit ++
      param "cursor" cursor ++ param "market" route

def IsOwnerRequest (owner : Text) (filters : HistoryFilters Time) (request : HistoryRequest) :
    Prop :=
  ∃ o params, canonicalHex owner = some o ∧ IsParams sends filters filters.market params ∧
    request = ⟨text "/v1/history/triggers/" ++ o, params⟩

def IsMarketRequest (market : Int) (filters : HistoryFilters Time) (request : HistoryRequest) :
    Prop :=
  ∃ route params, marketText market = some route ∧ IsParams sends filters none params ∧
    request = ⟨text "/v1/history/trigger-markets/" ++ route, params⟩

end Spec

section Checks

variable {ε : Type}

theorem checkLimit_ok_iff {refusal : ε} {limit : Int} {t : Text} :
    checkLimit refusal limit = .ok t ↔ IsLimit limit t := by
  rw [checkLimit, IsLimit]
  split_ifs with h
  · simp [h, eq_comm]
  · simp [h]

theorem checkCursor_ok_iff {refusal : ε} {cursor t : Text} :
    checkCursor refusal cursor = .ok t ↔ IsCursor cursor t := by
  rw [checkCursor, IsCursor]
  split_ifs with h
  · simp only [false_iff]
    intro h
    obtain ⟨rfl, hne⟩ := h
    exact hne h
  · rw [Except.ok.injEq]
    exact ⟨fun heq => ⟨heq, heq ▸ h⟩, And.left⟩

end Checks

namespace TypeScript

variable {rfc3339 : Text → Bool}

theorem filterTime_ok_iff {value : HistoryTime} {name : String} {t : Text} :
    filterTime rfc3339 value name = .ok t ↔ Sends rfc3339 value t := by
  cases value with
  | bigint n =>
    rw [filterTime, Sends]
    split_ifs with h
    · simp [h, eq_comm]
    · simp [h]
  | number x =>
    simp only [filterTime, Sends]
    cases safeInteger x with
    | none => simp
    | some n => simp [eq_comm]
  | string s =>
    simp only [filterTime, Sends, SendsText, bind_ok_iff, checkString_ok_iff]
    constructor
    · intro h
      obtain ⟨s', ⟨hs, hne⟩, h⟩ := h
      obtain rfl := Value.string.inj (Option.some.inj hs)
      have hnil : s ≠ [] := fun heq => hne ⟨trivial, heq⟩
      split_ifs at h with hepoch hrange
      · obtain rfl := Except.ok.inj h
        exact ⟨rfl, hnil, .inl ⟨hepoch, hrange⟩⟩
      · simp only [bind_ok_iff, check_ok_iff, pure_ok_iff] at h
        obtain ⟨_, hcalendar, rfl⟩ := h
        exact ⟨rfl, hnil, .inr ⟨Bool.eq_false_iff.mpr hepoch, hcalendar⟩⟩
    · intro h
      obtain ⟨rfl, hnil, h⟩ := h
      refine ⟨s, ⟨rfl, fun heq => hnil heq.2⟩, ?_⟩
      rcases h with ⟨hepoch, hrange⟩ | ⟨hepoch, hcalendar⟩
      · rw [if_pos hepoch, if_pos hrange]
        rfl
      · rw [if_neg (by simp [hepoch])]
        simp only [bind_ok_iff, check_ok_iff, pure_ok_iff]
        exact ⟨(), hcalendar, trivial⟩

theorem commonParams_ok_iff {filters : HistoryFilters HistoryTime} {params : List (Text × Text)} :
    commonParams rfc3339 filters = .ok params ↔ IsParams (Sends rfc3339) filters none params := by
  simp only [commonParams, bind_ok_iff, optionMapM_ok_iff, pure_ok_iff,
    optionRel_iff fun _ _ => filterTime_ok_iff, optionRel_iff fun _ _ => checkLimit_ok_iff,
    optionRel_iff fun _ _ => checkCursor_ok_iff]
  constructor
  · intro h
    obtain ⟨from_, hfrom, to_, hto, limit, hlimit, cursor, hcursor, rfl⟩ := h
    exact ⟨from_, to_, limit, cursor, none, hfrom, hto, hlimit, hcursor, .none, by simp [param]⟩
  · intro h
    obtain ⟨from_, to_, limit, cursor, _, hfrom, hto, hlimit, hcursor, ⟨⟩, rfl⟩ := h
    exact ⟨from_, hfrom, to_, hto, limit, hlimit, cursor, hcursor, by simp [param]⟩

theorem positionTriggerHistorySearchParams_ok_iff {filters : HistoryFilters HistoryTime}
    {params : List (Text × Text)} :
    positionTriggerHistorySearchParams rfc3339 filters = .ok params ↔
      IsParams (Sends rfc3339) filters filters.market params := by
  simp only [positionTriggerHistorySearchParams, bind_ok_iff, commonParams_ok_iff,
    optionMapM_ok_iff, optionRel_iff fun _ _ => checkMarket_ok_iff, pure_ok_iff]
  constructor
  · intro h
    obtain ⟨_, ⟨from_, to_, limit, cursor, _, hfrom, hto, hlimit, hcursor, ⟨⟩, rfl⟩, route,
      hroute, rfl⟩ := h
    exact ⟨from_, to_, limit, cursor, route, hfrom, hto, hlimit, hcursor, hroute, by simp [param]⟩
  · intro h
    obtain ⟨from_, to_, limit, cursor, route, hfrom, hto, hlimit, hcursor, hroute, rfl⟩ := h
    exact ⟨_, ⟨from_, to_, limit, cursor, none, hfrom, hto, hlimit, hcursor, .none, rfl⟩, route,
      hroute, by simp [param]⟩

theorem positionHistoryRequest_ok_iff {hex : Text} {filters : HistoryFilters HistoryTime}
    {request : HistoryRequest} : positionHistoryRequest rfc3339 hex filters = .ok request ↔
      hasPrefix hex = false ∧ IsOwnerRequest (Sends rfc3339) hex filters request := by
  rw [positionHistoryRequest]
  split_ifs with hnil howner
  · simp only [false_iff]
    intro h
    obtain ⟨-, o, params, ho, -⟩ := h
    have hnone : canonicalHex [] = none := by decide
    rw [hnil, hnone] at ho
    cases ho
  · simp only [false_iff]
    intro h
    obtain ⟨hplain, o, params, ho, -⟩ := h
    rw [canonicalHex_of_hasPrefix hplain, route_eq_some_iff] at ho
    simp [howner] at ho
  · have hlower : isOwner (lower hex) = true := by simpa using howner
    have hplain := hasPrefix_of_isOwner_lower hlower
    simp only [bind_ok_iff, positionTriggerHistorySearchParams_ok_iff, pure_ok_iff]
    constructor
    · intro h
      obtain ⟨params, hparams, rfl⟩ := h
      have ho : canonicalHex hex = some (lower hex) :=
        (canonicalHex_of_hasPrefix hplain).trans (route_eq_some_iff.mpr ⟨hlower, rfl⟩)
      exact ⟨hplain, lower hex, params, ho, hparams, rfl⟩
    · intro h
      obtain ⟨-, o, params, ho, hparams, rfl⟩ := h
      rw [canonicalHex_of_hasPrefix hplain, route_eq_some_iff] at ho
      obtain ⟨-, rfl⟩ := ho
      exact ⟨params, hparams, rfl⟩

theorem marketHistoryRequest_ok_iff {market : Int} {filters : HistoryFilters HistoryTime}
    {request : HistoryRequest} : marketHistoryRequest rfc3339 market filters = .ok request ↔
      IsMarketRequest (Sends rfc3339) market filters request := by
  simp only [marketHistoryRequest, IsMarketRequest, bind_ok_iff, checkMarket_ok_iff,
    commonParams_ok_iff, pure_ok_iff]
  constructor
  · intro h
    obtain ⟨route, hroute, params, hparams, rfl⟩ := h
    exact ⟨route, params, hroute, hparams, rfl⟩
  · intro h
    obtain ⟨route, params, hroute, hparams, rfl⟩ := h
    exact ⟨route, hroute, params, hparams, rfl⟩

end TypeScript

namespace Python

variable {rfc3339 : Text → Bool}

theorem filterTime_ok_iff {value : HistoryTime} {name : String} {t : Text} :
    filterTime rfc3339 value name = .ok t ↔ Sends rfc3339 value t := by
  cases value with
  | int n =>
    rw [filterTime, Sends]
    split_ifs with h
    · simp [h, eq_comm]
    · simp [h]
  | str s =>
    rw [filterTime, Sends, SendsText]
    split_ifs with hnil hint hrange hcalendar
    · simp only [false_iff]
      intro h
      obtain ⟨rfl, hne, -⟩ := h
      exact hne hnil
    · simp only [Except.ok.injEq]
      constructor
      · rintro rfl
        exact ⟨rfl, hnil, .inl ⟨hint, hrange⟩⟩
      · exact And.left
    · simp only [false_iff]
      intro h
      obtain ⟨rfl, -, h⟩ := h
      simp [hint, hrange] at h
    · simp only [Except.ok.injEq]
      constructor
      · rintro rfl
        exact ⟨rfl, hnil, .inr ⟨Bool.eq_false_iff.mpr hint, hcalendar⟩⟩
      · exact And.left
    · simp only [false_iff]
      intro h
      obtain ⟨rfl, -, h⟩ := h
      simp [hint, hcalendar] at h

theorem historyParams_ok_iff {filters : HistoryFilters HistoryTime} {market : Option Int}
    {params : List (Text × Text)} : historyParams rfc3339 filters market = .ok params ↔
      IsParams (Sends rfc3339) filters market params := by
  simp only [historyParams, bind_ok_iff, optionMapM_ok_iff, pure_ok_iff,
    optionRel_iff fun _ _ => filterTime_ok_iff, optionRel_iff fun _ _ => checkLimit_ok_iff,
    optionRel_iff fun _ _ => checkCursor_ok_iff, optionRel_iff fun _ _ => checkMarket_ok_iff]
  constructor
  · intro h
    obtain ⟨from_, hfrom, to_, hto, limit, hlimit, cursor, hcursor, route, hroute, rfl⟩ := h
    exact ⟨from_, to_, limit, cursor, route, hfrom, hto, hlimit, hcursor, hroute, rfl⟩
  · intro h
    obtain ⟨from_, to_, limit, cursor, route, hfrom, hto, hlimit, hcursor, hroute, rfl⟩ := h
    exact ⟨from_, hfrom, to_, hto, limit, hlimit, cursor, hcursor, route, hroute, rfl⟩

theorem positionHistoryRequest_ok_iff {owner : Text} {filters : HistoryFilters HistoryTime}
    {request : HistoryRequest} : positionHistoryRequest rfc3339 owner filters = .ok request ↔
      IsOwnerRequest (Sends rfc3339) owner filters request := by
  simp only [positionHistoryRequest, IsOwnerRequest, bind_ok_iff, canonicalOwner_ok_iff,
    historyParams_ok_iff, pure_ok_iff]
  constructor
  · intro h
    obtain ⟨o, ⟨t, ht, ho⟩, params, hparams, rfl⟩ := h
    obtain rfl := Value.string.inj (Option.some.inj ht)
    exact ⟨o, params, ho, hparams, rfl⟩
  · intro h
    obtain ⟨o, params, ho, hparams, rfl⟩ := h
    exact ⟨o, ⟨owner, rfl, ho⟩, params, hparams, rfl⟩

theorem marketHistoryRequest_ok_iff {market : Int} {filters : HistoryFilters HistoryTime}
    {request : HistoryRequest} : marketHistoryRequest rfc3339 market filters = .ok request ↔
      IsMarketRequest (Sends rfc3339) market filters request := by
  simp only [marketHistoryRequest, IsMarketRequest, bind_ok_iff, checkMarket_ok_iff,
    historyParams_ok_iff, pure_ok_iff]
  constructor
  · intro h
    obtain ⟨route, hroute, params, hparams, rfl⟩ := h
    exact ⟨route, params, hroute, hparams, rfl⟩
  · intro h
    obtain ⟨route, params, hroute, hparams, rfl⟩ := h
    exact ⟨route, hroute, params, hparams, rfl⟩

end Python

theorem isEpoch_eq_isInt {t : Text} (h : t ≠ negativeZero) : isEpoch t = isInt t := by
  by_cases hsign : ∃ rest, t = 45 :: rest
  · obtain ⟨rest, rfl⟩ := hsign
    have hrest : (rest != [48]) = true := bne_iff_ne.mpr fun heq => h (heq ▸ rfl)
    simp [isEpoch, isInt, hrest]
  · have hplain : ∀ rest, t = 45 :: rest → False := fun rest heq => hsign ⟨rest, heq⟩
    rw [isEpoch, isInt]
    · exact hplain
    · exact hplain

section Agreement

variable {ts py : Text → Bool}

/-- What TypeScript sends for a safe time is what Python sends, and Python refuses the zero of epoch
milliseconds with a sign. -/
theorem sends_iff {time : Python.HistoryTime} {time' : TypeScript.HistoryTime} {t : Text}
    (hsame : SameTime time time') (hzero : py negativeZero = false)
    (halike : ∀ s, time = .str s → isEpoch s = false → ts s = py s) :
    TypeScript.Sends ts time' t ∧ time ≠ .str negativeZero ↔
      Python.Sends py time t ∧ time'.IsSafe := by
  cases hsame with
  | bigint n => simp [TypeScript.Sends, Python.Sends, TypeScript.HistoryTime.IsSafe]
  | number n =>
    simp only [TypeScript.Sends, Python.Sends, TypeScript.HistoryTime.IsSafe,
      TypeScript.safeInteger, Rat.den_intCast, Rat.num_intCast, true_and, InI64]
    split_ifs with hsafe
    · have hrange := abs_le.mp hsafe
      simp only [Option.some.injEq, exists_eq_left', ne_eq, reduceCtorEq, not_false_eq_true,
        and_true]
      exact ⟨fun h => ⟨by omega, h⟩, And.right⟩
    · simp
  | string s =>
    simp only [TypeScript.Sends, Python.Sends, TypeScript.HistoryTime.IsSafe, SendsText, ne_eq,
      Python.HistoryTime.str.injEq, and_true]
    -- The two numerals differ in one text, which Python leaves to its calendar.
    by_cases hs : s = negativeZero
    · subst hs
      have hnumeral : isInt negativeZero = false := by decide
      constructor
      · intro h
        obtain ⟨-, hne⟩ := h
        exact absurd rfl hne
      · intro h
        obtain ⟨rfl, -, h⟩ := h
        simp [hnumeral, hzero] at h
    · have hcalendar : isInt t = false → s = t → (ts t = true ↔ py t = true) := by
        rintro hint rfl
        rw [halike s rfl ((isEpoch_eq_isInt hs).trans hint)]
      constructor
      · intro h
        obtain ⟨⟨rfl, hne, h⟩, -⟩ := h
        rw [isEpoch_eq_isInt hs] at h
        exact ⟨rfl, hne, h.imp_right fun ⟨hint, hts⟩ => ⟨hint, (hcalendar hint rfl).mp hts⟩⟩
      · intro h
        obtain ⟨rfl, hne, h⟩ := h
        refine ⟨⟨rfl, hne, ?_⟩, hs⟩
        rw [isEpoch_eq_isInt hs]
        exact h.imp_right fun ⟨hint, hpy⟩ => ⟨hint, (hcalendar hint rfl).mpr hpy⟩

theorem rel_sends_iff {time : Option Python.HistoryTime} {time' : Option TypeScript.HistoryTime}
    {t : Option Text} (hsame : Option.Rel SameTime time time') (hzero : py negativeZero = false)
    (halike : ∀ s, time = some (.str s) → isEpoch s = false → ts s = py s) :
    Option.Rel (TypeScript.Sends ts) time' t ∧ time ≠ some (.str negativeZero) ↔
      Option.Rel (Python.Sends py) time t ∧ ∀ u, time' = some u → u.IsSafe := by
  cases hsame with
  | none => cases t <;> simp
  | some hsame =>
    cases t with
    | none => simp
    | some t =>
      have hsends := @sends_iff ts py _ _ t hsame hzero fun s hs => halike s (hs ▸ rfl)
      simpa using hsends

theorem isParams_iff {filters : HistoryFilters Python.HistoryTime}
    {filters' : HistoryFilters TypeScript.HistoryTime} (hsame : filters.Same filters')
    {market : Option Int} {params : List (Text × Text)} (hzero : py negativeZero = false)
    (halike : ∀ s, filters.HasTime (.str s) → isEpoch s = false → ts s = py s) :
    IsParams (TypeScript.Sends ts) filters' market params ∧
        ¬ filters.HasTime (.str negativeZero) ↔
      IsParams (Python.Sends py) filters market params ∧ filters'.IsSafe := by
  have hfrom := fun t => @rel_sends_iff ts py _ _ t hsame.from_ hzero fun s hs => halike s (.inl hs)
  have hto := fun t => @rel_sends_iff ts py _ _ t hsame.to_ hzero fun s hs => halike s (.inr hs)
  have hsafe : filters'.IsSafe ↔ (∀ u, filters'.from_ = some u → u.IsSafe) ∧
      ∀ u, filters'.to_ = some u → u.IsSafe := by
    constructor
    · exact fun h => ⟨fun u hu => h u (.inl hu), fun u hu => h u (.inr hu)⟩
    · rintro ⟨hf, ht⟩ u (hu | hu)
      · exact hf u hu
      · exact ht u hu
  rw [hsafe, IsParams, IsParams, hsame.limit, hsame.cursor]
  constructor
  · intro h
    obtain ⟨⟨from_, to_, limit, cursor, route, hf, ht, hrest⟩, hplain⟩ := h
    obtain ⟨hnotFrom, hnotTo⟩ := not_or.mp hplain
    obtain ⟨hf, hsafeFrom⟩ := (hfrom from_).mp ⟨hf, hnotFrom⟩
    obtain ⟨ht, hsafeTo⟩ := (hto to_).mp ⟨ht, hnotTo⟩
    exact ⟨⟨from_, to_, limit, cursor, route, hf, ht, hrest⟩, hsafeFrom, hsafeTo⟩
  · intro h
    obtain ⟨⟨from_, to_, limit, cursor, route, hf, ht, hrest⟩, hsafeFrom, hsafeTo⟩ := h
    obtain ⟨hf, hnotFrom⟩ := (hfrom from_).mpr ⟨hf, hsafeFrom⟩
    obtain ⟨ht, hnotTo⟩ := (hto to_).mpr ⟨ht, hsafeTo⟩
    exact ⟨⟨from_, to_, limit, cursor, route, hf, ht, hrest⟩, not_or.mpr ⟨hnotFrom, hnotTo⟩⟩

/-- Both clients make exactly the requests of their filters, TypeScript those of owners without a
prefix. Where the filters are the same, these are the same requests, apart from numbers that are not
safe, which TypeScript refuses, and zeros with a sign, which Python refuses. -/
theorem requests_agree (owner : Text) (market : Int) (filters : HistoryFilters Python.HistoryTime)
    (filters' : HistoryFilters TypeScript.HistoryTime) (hzero : py negativeZero = false)
    (halike : ∀ s, filters.HasTime (.str s) → isEpoch s = false → ts s = py s)
    (request : HistoryRequest) :
    (Python.positionHistoryRequest py owner filters = .ok request ↔
      IsOwnerRequest (Python.Sends py) owner filters request) ∧
    (Python.marketHistoryRequest py market filters = .ok request ↔
      IsMarketRequest (Python.Sends py) market filters request) ∧
    (TypeScript.positionHistoryRequest ts owner filters' = .ok request ↔
      hasPrefix owner = false ∧ IsOwnerRequest (TypeScript.Sends ts) owner filters' request) ∧
    (TypeScript.marketHistoryRequest ts market filters' = .ok request ↔
      IsMarketRequest (TypeScript.Sends ts) market filters' request) ∧
    (filters.Same filters' →
      (TypeScript.positionHistoryRequest ts owner filters' = .ok request ∧
          ¬ filters.HasTime (.str negativeZero) ↔
        Python.positionHistoryRequest py owner filters = .ok request ∧ filters'.IsSafe ∧
          hasPrefix owner = false) ∧
      (TypeScript.marketHistoryRequest ts market filters' = .ok request ∧
          ¬ filters.HasTime (.str negativeZero) ↔
        Python.marketHistoryRequest py market filters = .ok request ∧ filters'.IsSafe)) := by
  refine ⟨Python.positionHistoryRequest_ok_iff, Python.marketHistoryRequest_ok_iff,
    TypeScript.positionHistoryRequest_ok_iff, TypeScript.marketHistoryRequest_ok_iff, ?_⟩
  intro hsame
  have hparams := fun route params => @isParams_iff ts py _ _ hsame route params hzero halike
  constructor
  · rw [TypeScript.positionHistoryRequest_ok_iff, Python.positionHistoryRequest_ok_iff,
      IsOwnerRequest, IsOwnerRequest, hsame.market]
    constructor
    · intro h
      obtain ⟨⟨hplain, o, params, ho, h, hrequest⟩, hnozero⟩ := h
      obtain ⟨h, hsafe⟩ := (hparams _ params).mp ⟨h, hnozero⟩
      exact ⟨⟨o, params, ho, h, hrequest⟩, hsafe, hplain⟩
    · intro h
      obtain ⟨⟨o, params, ho, h, hrequest⟩, hsafe, hplain⟩ := h
      obtain ⟨h, hnozero⟩ := (hparams _ params).mpr ⟨h, hsafe⟩
      exact ⟨⟨hplain, o, params, ho, h, hrequest⟩, hnozero⟩
  · rw [TypeScript.marketHistoryRequest_ok_iff, Python.marketHistoryRequest_ok_iff]
    constructor
    · intro h
      obtain ⟨⟨route, params, hroute, h, hrequest⟩, hnozero⟩ := h
      obtain ⟨h, hsafe⟩ := (hparams _ params).mp ⟨h, hnozero⟩
      exact ⟨⟨route, params, hroute, h, hrequest⟩, hsafe⟩
    · intro h
      obtain ⟨⟨route, params, hroute, h, hrequest⟩, hsafe⟩ := h
      obtain ⟨h, hnozero⟩ := (hparams _ params).mpr ⟨h, hsafe⟩
      exact ⟨⟨route, params, hroute, h, hrequest⟩, hnozero⟩

end Agreement

def sampleFilters : HistoryFilters Python.HistoryTime :=
  ⟨some 7, some (.str (text "2026-07-01T00:00:00Z")), some (.int (-12)), some 1000,
    some (text "c")⟩

/-- The same filters with a number for a time. -/
def sampleNumberFilters : HistoryFilters TypeScript.HistoryTime :=
  ⟨some 7, some (.string (text "2026-07-01T00:00:00Z")), some (.number (.finite (-12 : Int))),
    some 1000, some (text "c")⟩

def sampleRequest : HistoryRequest :=
  ⟨text "/v1/history/triggers/" ++ List.replicate 40 97,
    [(text "from", text "2026-07-01T00:00:00Z"), (text "to", text "-12"),
      (text "limit", text "1000"), (text "cursor", text "c"), (text "market", text "7")]⟩

theorem requests_agree_sample :
    TypeScript.positionHistoryRequest sampleTime (List.replicate 40 65) sampleNumberFilters =
      .ok sampleRequest := by
  have hagree := @requests_agree sampleTime sampleTime (List.replicate 40 65) 7 sampleFilters
    sampleNumberFilters (by decide) (fun _ _ _ => rfl) sampleRequest
  have hsame : sampleFilters.Same sampleNumberFilters :=
    ⟨rfl, .some (.string _), .some (.number (-12)), rfl, rfl⟩
  have hpython : Python.positionHistoryRequest sampleTime (List.replicate 40 65) sampleFilters =
      .ok sampleRequest := by decide
  have hsafe : sampleNumberFilters.IsSafe := by
    rintro time (h | h)
    · obtain rfl := Option.some.inj h
      trivial
    · obtain rfl := Option.some.inj h
      simp [TypeScript.HistoryTime.IsSafe, TypeScript.safeInteger]
  exact ((hagree.2.2.2.2 hsame).1.mpr ⟨hpython, hsafe, by decide⟩).1

end TradingSdk.TriggerHistory
