import TradingSdk.Core.ImpactMarkets
import TradingSdk.Js.GovernanceTyped
import TradingSdk.Reads.Envelope
import TradingSdk.Reads.Row

namespace TradingSdk.Reads

open Serde Msgpack Js Json Client

/-- The names that every object literal inherits. -/
def objectPrototype : List String :=
  ["constructor", "__defineGetter__", "__defineSetter__", "hasOwnProperty", "__lookupGetter__",
   "__lookupSetter__", "isPrototypeOf", "propertyIsEnumerable", "toString", "valueOf", "__proto__",
   "toLocaleString"]

/-- What `OUTCOMES` has under a name, its own or inherited. -/
inductive ShownOutcome where
  | outcome (o : Outcome)
  | inherited (name : String)
  deriving DecidableEq

/-- `OUTCOMES[payload]`. -/
def outcomes (payload : String) : Option ShownOutcome :=
  match [("Yes", Outcome.yes), ("No", .no), ("Void", .void)].lookup payload with
  | some o => some (.outcome o)
  | none => if objectPrototype.contains payload then some (.inherited payload) else none

inductive ShownStatus where
  | trading
  | preResolution
  | resolved (outcome : ShownOutcome)
  deriving DecidableEq

/-- An `ImpactMarketInfo` in TypeScript: its status, which may hold what is no data, and the other
fields. -/
structure ShownImpactMarket where
  fields : Entries
  status : ShownStatus

section Decoders

variable (stringify : JsVal → String)

/-- `stringify` is `JSON.stringify`, for the text of an error. -/
def decodeImpactStatus (value : JsVal) (field : String) : Except JsError ShownStatus :=
  match value with
  | .string "Trading" => .ok .trading
  | .string "PreResolution" => .ok .preResolution
  | .object _ | .uint8Array _ => do
    let (name, payload) ← variantOf value field
    if name ≠ "Resolved" then
      governanceError s!"{field} has unknown ImpactMarketStatus variant \"{name}\""
    else
      let outcome := match payload with
        | .string s => outcomes s
        | _ => none
      match outcome with
      | some o => return .resolved o
      | none => governanceError s!"{field} has unknown Outcome {stringify payload}"
  | _ => governanceError s!"{field} is not a known ImpactMarketStatus"

/-- The 12 slots that every engine sends. -/
def decodeImpactFront (raw : List JsVal) (f : String) : Except JsError ShownImpactMarket := do
  let impactMarketId ← toU32 (slot raw 0) s!"{f}.impactMarketId"
  let underlyingMarket ← toU32 (slot raw 1) s!"{f}.underlyingMarket"
  let cpyMarket ← toU32 (slot raw 2) s!"{f}.cpyMarket"
  let cpnMarket ← toU32 (slot raw 3) s!"{f}.cpnMarket"
  let ebyMarket ← toU32 (slot raw 4) s!"{f}.ebyMarket"
  let ebnMarket ← toU32 (slot raw 5) s!"{f}.ebnMarket"
  let question ← Js.toString (slot raw 6) s!"{f}.question"
  let deadlineMs ← toU64 (slot raw 7) s!"{f}.deadlineMs"
  let resolutionWindowMs ← toU64 (slot raw 8) s!"{f}.resolutionWindowMs"
  let status ← decodeImpactStatus stringify (slot raw 9) s!"{f}.status"
  let createdMs ← toU64 (slot raw 10) s!"{f}.createdMs"
  let resolvedMs ← toU64 (slot raw 11) s!"{f}.resolvedMs"
  return ⟨[("impactMarketId", impactMarketId), ("underlyingMarket", underlyingMarket),
    ("cpyMarket", cpyMarket), ("cpnMarket", cpnMarket), ("ebyMarket", ebyMarket),
    ("ebnMarket", ebnMarket), ("question", question), ("deadlineMs", deadlineMs),
    ("resolutionWindowMs", resolutionWindowMs), ("createdMs", createdMs),
    ("resolvedMs", resolvedMs)], status⟩

/-- A field of a later engine is left out where it is not served. -/
def served (name : String) (v : JsVal) : Entries := if v.isTruthy then [(name, v)] else []

def decodeImpactTrailers (raw : List JsVal) (f : String) : Except JsError Entries := do
  let oracleSource ← if 12 < raw.length then decodeOracleSource (slot raw 12) s!"{f}.oracleSource"
    else .ok .undefined
  let description ← if 13 < raw.length then
      (Js.toString (slot raw 13) s!"{f}.description").map fun v => [("description", v)]
    else .ok []
  let rules ← if 14 < raw.length then
      (Js.toString (slot raw 14) s!"{f}.rules").map fun v => [("rules", v)]
    else .ok []
  return served "oracleSource" oracleSource ++ description ++ rules

/-- How errors name a row. -/
def impactField : Option Nat → String
  | none => "impactMarket"
  | some i => s!"impactMarket[{i}]"

def decodeImpactMarketInfo (value : JsVal) (index : Option Nat) : Except JsError ShownImpactMarket := do
  let f := impactField index
  let raw ← toTupleBetween value f 12 15
  let info ← decodeImpactFront stringify raw f
  let trailers ← decodeImpactTrailers raw f
  return { info with fields := info.fields ++ trailers }

def decodeImpactMarkets (raw : List JsVal) : Except JsError (List ShownImpactMarket) :=
  (raw.mapIdx fun i r => decodeImpactMarketInfo stringify r (some i)).mapM id

def queryImpactMarkets (decoder : MsgpackDecoder) (res : Response) :
    Except ReadError (List ShownImpactMarket) := do
  let json ← fetchApiJson res
  match json.get "data" with
  | some (.string data) =>
    let bytes ← fromBase64 data
    let value ← msgpackDecode decoder bytes
    match value with
    | .array raw => (decodeImpactMarkets stringify raw).mapError .governance
    | _ => .error (.governance (.error "governance decode: impactMarkets is not an array"))
  | _ => .error (.governance (.error
      "governance decode: impact-markets response has no encoded-data envelope"))

end Decoders

/-- A status by the name of its outcome, which this client may not know. -/
inductive ServedStatus where
  | trading
  | preResolution
  | resolved (outcome : String)

/-- The slots from 12 on, as many as an engine sends. -/
inductive Trailers where
  | none
  | source (source : Option EventOracleSource)
  | description (source : Option EventOracleSource) (description : String)
  | rules (source : Option EventOracleSource) (description rules : String)

/-- The slots that every engine sends. -/
structure ImpactMarketSlots where
  impactMarketId : ImpactMarketId
  underlyingMarket : MarketId
  cpyMarket : MarketId
  cpnMarket : MarketId
  ebyMarket : MarketId
  ebnMarket : MarketId
  question : String
  deadlineMs : Milliseconds
  resolutionWindowMs : Milliseconds
  status : ServedStatus
  createdMs : Milliseconds
  resolvedMs : Milliseconds

structure ServedImpactMarket extends ImpactMarketSlots where
  trailers : Trailers

def ServedStatus.toMsg : ServedStatus → Msg
  | .trading => .str (utf8 "Trading")
  | .preResolution => .str (utf8 "PreResolution")
  | .resolved outcome => variantMsg "Resolved" (.str (utf8 outcome))

def Trailers.toMsgs : Trailers → List Msg
  | .none => []
  | .source s => [(Schema.option EventOracleSource.schema).toMsg s]
  | .description s d => [(Schema.option EventOracleSource.schema).toMsg s, .str (utf8 d)]
  | .rules s d r => [(Schema.option EventOracleSource.schema).toMsg s, .str (utf8 d), .str (utf8 r)]

def ImpactMarketSlots.toMsgs (x : ImpactMarketSlots) : List Msg :=
  [.int x.impactMarketId.toNat, .int x.underlyingMarket.toNat, .int x.cpyMarket.toNat,
   .int x.cpnMarket.toNat, .int x.ebyMarket.toNat, .int x.ebnMarket.toNat, .str (utf8 x.question),
   .int x.deadlineMs.toNat, .int x.resolutionWindowMs.toNat, x.status.toMsg,
   .int x.createdMs.toNat, .int x.resolvedMs.toNat]

def ServedImpactMarket.toMsg (x : ServedImpactMarket) : Msg :=
  .arr (x.toMsgs ++ x.trailers.toMsgs)

def ServedStatus.shown : ServedStatus → Option ShownStatus
  | .trading => some .trading
  | .preResolution => some .preResolution
  | .resolved outcome => (outcomes outcome).map .resolved

def sourceEntry : Option EventOracleSource → Entries
  | none => []
  | some source => [("oracleSource", source.toTs)]

def Trailers.entries : Trailers → Entries
  | .none => []
  | .source s => sourceEntry s
  | .description s d => sourceEntry s ++ [("description", .string d)]
  | .rules s d r => sourceEntry s ++ [("description", .string d), ("rules", .string r)]

def ImpactMarketSlots.entries (x : ImpactMarketSlots) : Entries :=
  [("impactMarketId", .number x.impactMarketId.toNat),
   ("underlyingMarket", .number x.underlyingMarket.toNat), ("cpyMarket", .number x.cpyMarket.toNat),
   ("cpnMarket", .number x.cpnMarket.toNat), ("ebyMarket", .number x.ebyMarket.toNat),
   ("ebnMarket", .number x.ebnMarket.toNat), ("question", .string x.question),
   ("deadlineMs", .bigint x.deadlineMs.toNat),
   ("resolutionWindowMs", .bigint x.resolutionWindowMs.toNat),
   ("createdMs", .bigint x.createdMs.toNat), ("resolvedMs", .bigint x.resolvedMs.toNat)]

/-- The row in TypeScript, where its status has a value there. -/
def ServedImpactMarket.shown (x : ServedImpactMarket) : Option ShownImpactMarket :=
  x.status.shown.map fun status => ⟨x.entries ++ x.trailers.entries, status⟩

section Exact

variable {stringify : JsVal → String}

theorem ok_bind {α β : Type} (a : α) (f : α → Except JsError β) : (Except.ok a >>= f) = f a := rfl

variable (stringify) in
theorem ServedStatus.arrives (x : ServedStatus) : ∃ v, jsOfMsg x.toMsg = some v ∧ ∀ field,
    (∀ shown, x.shown = some shown → decodeImpactStatus stringify v field = .ok shown) ∧
    (x.shown = none → ∃ e, decodeImpactStatus stringify v field = .error e) := by
  cases x with
  | trading => exact ⟨.string "Trading", jsOfMsg_utf8 _, fun _ => ⟨by rintro _ ⟨⟩; rfl, by rintro ⟨⟩⟩⟩
  | preResolution =>
    exact ⟨.string "PreResolution", jsOfMsg_utf8 _, fun _ => ⟨by rintro _ ⟨⟩; rfl, by rintro ⟨⟩⟩⟩
  | resolved outcome =>
    refine ⟨.object [("Resolved", .string outcome)], jsOfMsg_variant _ (jsOfMsg_utf8 _), fun field => ?_⟩
    have hdecode : decodeImpactStatus stringify (.object [("Resolved", .string outcome)]) field =
        match outcomes outcome with
        | some o => .ok (.resolved o)
        | none => governanceError s!"{field} has unknown Outcome {stringify (.string outcome)}" := rfl
    rw [hdecode, ServedStatus.shown]
    cases outcomes outcome with
    | none => exact ⟨by rintro _ ⟨⟩, fun _ => ⟨_, rfl⟩⟩
    | some o => exact ⟨by rintro _ ⟨⟩; rfl, by rintro ⟨⟩⟩

theorem served_source (source : Option EventOracleSource) :
    served "oracleSource" (optionalSource source) = sourceEntry source := by
  match source with
  | none => rfl
  | some (.underlyingPriceVsStrike _ _) => rfl
  | some (.marketOracle _ _ _) => rfl
  | some .relayerAttested => rfl

theorem Trailers.arrives (x : Trailers) : ∃ vs, x.toMsgs.mapM jsOfMsg = some vs ∧ vs.length ≤ 3 ∧
    ∀ front f, front.length = 12 → decodeImpactTrailers (front ++ vs) f = .ok x.entries := by
  have hslot : ∀ {front vs : List JsVal} (i : Nat), front.length = 12 →
      slot (front ++ vs) (12 + i) = slot vs i := by
    intro front vs i hlen
    rw [slot, slot, List.getD_append_right _ _ _ _ (by omega), hlen, Nat.add_sub_cancel_left]
  cases x with
  | none =>
    refine ⟨[], rfl, by simp, fun front f hlen => ?_⟩
    rw [decodeImpactTrailers]
    simp only [List.length_append, hlen]
    rfl
  | source source =>
    obtain ⟨v, hv, hdecode⟩ := decodeOracleSource_toMsg source
    refine ⟨[v], ?_, by simp, fun front f hlen => ?_⟩
    · rw [toMsgs, List.mapM_cons, hv]
      rfl
    · have hsource : slot (front ++ [v]) 12 = v := hslot 0 hlen
      rw [decodeImpactTrailers, hsource, hdecode]
      simp only [List.length_append, hlen]
      show Except.ok (served "oracleSource" (optionalSource source) ++ [] ++ []) = _
      rw [served_source, List.append_nil, List.append_nil]
      rfl
  | description source d =>
    obtain ⟨v, hv, hdecode⟩ := decodeOracleSource_toMsg source
    refine ⟨[v, .string d], ?_, by simp, fun front f hlen => ?_⟩
    · rw [toMsgs, List.mapM_cons, List.mapM_cons, hv, jsOfMsg_utf8]
      rfl
    · have hsource : slot (front ++ [v, .string d]) 12 = v := hslot 0 hlen
      have hdescription : slot (front ++ [v, .string d]) 13 = .string d := hslot 1 hlen
      rw [decodeImpactTrailers, hsource, hdecode, hdescription, toString_string]
      simp only [List.length_append, hlen]
      show Except.ok (served "oracleSource" (optionalSource source) ++ _ ++ []) = _
      rw [served_source, List.append_nil]
      rfl
  | rules source d r =>
    obtain ⟨v, hv, hdecode⟩ := decodeOracleSource_toMsg source
    refine ⟨[v, .string d, .string r], ?_, by simp, fun front f hlen => ?_⟩
    · rw [toMsgs, List.mapM_cons, List.mapM_cons, List.mapM_cons, hv, jsOfMsg_utf8, jsOfMsg_utf8]
      rfl
    · have hsource : slot (front ++ [v, .string d, .string r]) 12 = v := hslot 0 hlen
      have hdescription : slot (front ++ [v, .string d, .string r]) 13 = .string d := hslot 1 hlen
      have hrules : slot (front ++ [v, .string d, .string r]) 14 = .string r := hslot 2 hlen
      rw [decodeImpactTrailers, hsource, hdecode, hdescription, toString_string, hrules,
        toString_string]
      simp only [List.length_append, hlen]
      show Except.ok (served "oracleSource" (optionalSource source) ++ _ ++ _) = _
      rw [served_source, List.append_assoc]
      rfl

theorem toTupleBetween_array {items : List JsVal} {minLength maxLength : Nat}
    (h : minLength ≤ items.length ∧ items.length ≤ maxLength) (field : String) :
    toTupleBetween (.array items) field minLength maxLength = .ok items := by
  show (if items.length < minLength ∨ maxLength < items.length then _ else _) = _
  rw [if_neg (by omega)]
  rfl

/-- The first 12 slots, with `status` as it arrives. -/
def ImpactMarketSlots.front (x : ImpactMarketSlots) (status : JsVal) : List JsVal :=
  [jsInt x.impactMarketId.toNat, jsInt x.underlyingMarket.toNat, jsInt x.cpyMarket.toNat,
   jsInt x.cpnMarket.toNat, jsInt x.ebyMarket.toNat, jsInt x.ebnMarket.toNat, .string x.question,
   jsInt x.deadlineMs.toNat, jsInt x.resolutionWindowMs.toNat, status, jsInt x.createdMs.toNat,
   jsInt x.resolvedMs.toNat]

theorem ImpactMarketSlots.decode_front (x : ImpactMarketSlots) (status : JsVal) (rest : List JsVal)
    (f : String) : decodeImpactFront stringify (x.front status ++ rest) f =
      (decodeImpactStatus stringify status s!"{f}.status").map fun shown => ⟨x.entries, shown⟩ := by
  rw [decodeImpactFront]
  simp only [front, List.cons_append, slot, List.getD_cons_zero, List.getD_cons_succ, toU32_jsInt,
    toU64_jsInt, toString_string, ok_bind]
  cases decodeImpactStatus stringify status s!"{f}.status" <;> rfl

theorem decodeImpactMarketInfo_slots (x : ImpactMarketSlots) (status : JsVal) {rest : List JsVal}
    {entries : Entries} (hlen : rest.length ≤ 3)
    (htrailers : ∀ front f, front.length = 12 → decodeImpactTrailers (front ++ rest) f = .ok entries)
    (index : Option Nat) :
    decodeImpactMarketInfo stringify (.array (x.front status ++ rest)) index =
      (decodeImpactStatus stringify status s!"{impactField index}.status").map fun shown =>
        ⟨x.entries ++ entries, shown⟩ := by
  have hfront : (x.front status).length = 12 := rfl
  have htuple : toTupleBetween (.array (x.front status ++ rest)) (impactField index) 12 15 =
      .ok (x.front status ++ rest) :=
    toTupleBetween_array (by rw [List.length_append]; omega) _
  rw [decodeImpactMarketInfo, htuple, ok_bind, x.decode_front, htrailers _ _ hfront]
  generalize decodeImpactStatus stringify status s!"{impactField index}.status" = result
  cases result with
  | error e => rfl
  | ok shown => rfl

theorem ImpactMarketSlots.mapM_toMsgs (x : ImpactMarketSlots) {status : JsVal}
    (h : jsOfMsg x.status.toMsg = some status) : x.toMsgs.mapM jsOfMsg = some (x.front status) := by
  rw [toMsgs]
  simp only [List.mapM_cons, List.mapM_nil, jsOfMsg_int, jsOfMsg_utf8, h]
  rfl

variable (stringify) in
/-- What a row arrives as is read exactly where its status has a value in TypeScript. -/
theorem ServedImpactMarket.arrives (x : ServedImpactMarket) : ∃ v, jsOfMsg x.toMsg = some v ∧
    ∀ index, (∀ shown, x.shown = some shown → decodeImpactMarketInfo stringify v index = .ok shown) ∧
      (x.shown = none → ∃ e, decodeImpactMarketInfo stringify v index = .error e) := by
  obtain ⟨status, hstatus, hdecode⟩ := x.status.arrives stringify
  obtain ⟨rest, hrest, hlen, htrailers⟩ := x.trailers.arrives
  refine ⟨.array (x.front status ++ rest), ?_, fun index => ?_⟩
  · apply jsOfMsg_arr
    rw [jsOfMsgs_eq_mapM, mapM_append_of_some (x.mapM_toMsgs hstatus) hrest]
  · obtain ⟨hok, herr⟩ := hdecode s!"{impactField index}.status"
    rw [decodeImpactMarketInfo_slots x.toImpactMarketSlots status hlen htrailers, shown]
    constructor
    · intro shown hshown
      obtain ⟨s, hs, rfl⟩ := Option.map_eq_some_iff.mp hshown
      rw [hok s hs]
      rfl
    · intro hnone
      obtain ⟨e, he⟩ := herr (Option.map_eq_none_iff.mp hnone)
      exact ⟨e, by rw [he]; rfl⟩

theorem decodeImpactStatus_served {value : JsVal} {field : String} {shown : ShownStatus}
    (h : decodeImpactStatus stringify value field = .ok shown) :
    ∃ x : ServedStatus, x.shown = some shown := by
  have hvariant : ∀ {value : JsVal}, (variantOf value field >>= fun (name, payload) =>
      if name ≠ "Resolved" then
        governanceError s!"{field} has unknown ImpactMarketStatus variant \"{name}\""
      else
        match (match payload with
          | .string s => outcomes s
          | _ => none) with
        | some o => pure (ShownStatus.resolved o)
        | none => governanceError s!"{field} has unknown Outcome {stringify payload}") = .ok shown →
      ∃ x : ServedStatus, x.shown = some shown := by
    intro value h
    obtain ⟨⟨name, payload⟩, -, h⟩ := bind_ok_iff.mp h
    simp only at h
    split_ifs at h
    · cases h
    · split at h
      · next o ho =>
        split at ho
        · next s =>
          refine ⟨.resolved s, ?_⟩
          rw [ServedStatus.shown, ho]
          exact congrArg some (Except.ok.inj h)
        · cases ho
      · cases h
  rw [decodeImpactStatus.eq_def] at h
  split at h
  · exact ⟨.trading, congrArg some (Except.ok.inj h)⟩
  · exact ⟨.preResolution, congrArg some (Except.ok.inj h)⟩
  · exact hvariant h
  · exact hvariant h
  · cases h

theorem decodeImpactFront_served {raw : List JsVal} {f : String} {shown : ShownImpactMarket}
    (h : decodeImpactFront stringify raw f = .ok shown) :
    ∃ x : ImpactMarketSlots, ∃ status, x.status.shown = some status ∧ shown = ⟨x.entries, status⟩ := by
  simp only [decodeImpactFront, bind_ok_iff, pure_ok_iff] at h
  obtain ⟨impactMarketId, h0, underlyingMarket, h1, cpyMarket, h2, cpnMarket, h3, ebyMarket, h4,
    ebnMarket, h5, question, h6, deadlineMs, h7, resolutionWindowMs, h8, status, h9, createdMs, h10,
    resolvedMs, h11, rfl⟩ := h
  obtain ⟨impactMarketId, rfl⟩ := toU32_shows _ h0
  obtain ⟨underlyingMarket, rfl⟩ := toU32_shows _ h1
  obtain ⟨cpyMarket, rfl⟩ := toU32_shows _ h2
  obtain ⟨cpnMarket, rfl⟩ := toU32_shows _ h3
  obtain ⟨ebyMarket, rfl⟩ := toU32_shows _ h4
  obtain ⟨ebnMarket, rfl⟩ := toU32_shows _ h5
  obtain ⟨question, rfl⟩ := toString_shows _ h6
  obtain ⟨deadlineMs, rfl⟩ := toU64_shows _ h7
  obtain ⟨resolutionWindowMs, rfl⟩ := toU64_shows _ h8
  obtain ⟨createdMs, rfl⟩ := toU64_shows _ h10
  obtain ⟨resolvedMs, rfl⟩ := toU64_shows _ h11
  obtain ⟨served, hserved⟩ := decodeImpactStatus_served h9
  exact ⟨⟨impactMarketId, underlyingMarket, cpyMarket, cpnMarket, ebyMarket, ebnMarket, question,
    deadlineMs, resolutionWindowMs, served, createdMs, resolvedMs⟩, status, hserved, rfl⟩

/-- A text that is served under its name. -/
theorem text_served {value : JsVal} {field name : String} {entries : Entries}
    (h : (Js.toString value field).map (fun v => [(name, v)]) = .ok entries) :
    ∃ s, entries = [(name, .string s)] := by
  obtain ⟨v, hv, rfl⟩ := map_eq_ok h
  obtain ⟨s, rfl⟩ := toString_shows _ hv
  exact ⟨s, rfl⟩

theorem decodeImpactTrailers_served {raw : List JsVal} {f : String} {entries : Entries}
    (h : decodeImpactTrailers raw f = .ok entries) : ∃ x : Trailers, entries = x.entries := by
  simp only [decodeImpactTrailers, ite_bind, bind_ok_iff, pure_ok_iff] at h
  obtain ⟨source, hsource, description, hdescription, rules, hrules, rfl⟩ := h
  by_cases h12 : 12 < raw.length
  · rw [if_pos h12] at hsource
    obtain ⟨source, rfl⟩ := decodeOracleSource_shows _ _ _ hsource
    rw [served_source]
    by_cases h13 : 13 < raw.length
    · rw [if_pos h13] at hdescription
      obtain ⟨d, rfl⟩ := text_served hdescription
      by_cases h14 : 14 < raw.length
      · rw [if_pos h14] at hrules
        obtain ⟨r, rfl⟩ := text_served hrules
        exact ⟨.rules source d r, List.append_assoc _ _ _⟩
      · rw [if_neg h14] at hrules
        obtain rfl := Except.ok.inj hrules
        exact ⟨.description source d, List.append_nil _⟩
    · rw [if_neg h13] at hdescription
      rw [if_neg (by omega)] at hrules
      obtain rfl := Except.ok.inj hdescription
      obtain rfl := Except.ok.inj hrules
      exact ⟨.source source, by simp [Trailers.entries]⟩
  · rw [if_neg h12] at hsource
    rw [if_neg (by omega)] at hdescription hrules
    obtain rfl := Except.ok.inj hsource
    obtain rfl := Except.ok.inj hdescription
    obtain rfl := Except.ok.inj hrules
    exact ⟨.none, rfl⟩

theorem decodeImpactMarketInfo_served {value : JsVal} {index : Option Nat} {shown : ShownImpactMarket}
    (h : decodeImpactMarketInfo stringify value index = .ok shown) :
    ∃ x : ServedImpactMarket, x.shown = some shown := by
  simp only [decodeImpactMarketInfo, bind_ok_iff, pure_ok_iff] at h
  obtain ⟨raw, -, info, hinfo, trailers, htrailers, rfl⟩ := h
  obtain ⟨x, status, hstatus, rfl⟩ := decodeImpactFront_served hinfo
  obtain ⟨t, rfl⟩ := decodeImpactTrailers_served htrailers
  refine ⟨⟨x, t⟩, ?_⟩
  rw [ServedImpactMarket.shown, hstatus]
  rfl

variable (stringify) in
theorem mapIdx_arrives (rows : List ServedImpactMarket) : ∃ vs,
    (rows.map ServedImpactMarket.toMsg).mapM jsOfMsg = some vs ∧ ∀ index : Nat → Option Nat,
      (∀ shown, rows.mapM ServedImpactMarket.shown = some shown →
        (vs.mapIdx fun i v => decodeImpactMarketInfo stringify v (index i)).mapM id = .ok shown) ∧
      ((∃ x ∈ rows, x.shown = none) →
        ∃ e, (vs.mapIdx fun i v => decodeImpactMarketInfo stringify v (index i)).mapM id = .error e) := by
  induction rows with
  | nil => exact ⟨[], rfl, fun _ => ⟨by rintro _ ⟨⟩; rfl, by simp⟩⟩
  | cons x rows ih =>
    obtain ⟨v, hv, hdecode⟩ := x.arrives stringify
    obtain ⟨vs, hvs, hrows⟩ := ih
    refine ⟨v :: vs, ?_, fun index => ?_⟩
    · rw [List.map_cons, List.mapM_cons, hv, hvs]
      rfl
    · obtain ⟨hok, herr⟩ := hdecode (index 0)
      obtain ⟨hoks, herrs⟩ := hrows fun i => index (i + 1)
      rw [List.mapIdx_cons]
      constructor
      · intro shown hshown
        rw [List.mapM_cons] at hshown ⊢
        obtain ⟨s, hs, hshown⟩ := Option.bind_eq_some_iff.mp hshown
        obtain ⟨ss, hss, hshown⟩ := Option.bind_eq_some_iff.mp hshown
        obtain rfl := Option.some.inj hshown
        rw [id_eq, hok s hs, hoks ss hss]
        rfl
      · rintro ⟨y, hy, hnone⟩
        rw [List.mapM_cons, id_eq]
        cases hx : x.shown with
        | none =>
          obtain ⟨e, he⟩ := herr hx
          exact ⟨e, by rw [he]; rfl⟩
        | some s =>
          have hy' : y ∈ rows := by
            obtain rfl | hy := List.mem_cons.mp hy
            · rw [hx] at hnone
              cases hnone
            · exact hy
          obtain ⟨e, he⟩ := herrs ⟨y, hy', hnone⟩
          exact ⟨e, by rw [hok s hx, he]; rfl⟩

theorem mapIdx_served {vs : List JsVal} {index : Nat → Option Nat} {shown : List ShownImpactMarket}
    (h : (vs.mapIdx fun i v => decodeImpactMarketInfo stringify v (index i)).mapM id = .ok shown) :
    ∃ rows : List ServedImpactMarket, rows.mapM ServedImpactMarket.shown = some shown := by
  induction vs generalizing index shown with
  | nil =>
    obtain rfl := Except.ok.inj h
    exact ⟨[], rfl⟩
  | cons v vs ih =>
    rw [List.mapIdx_cons, List.mapM_cons] at h
    obtain ⟨s, hs, h⟩ := bind_ok_iff.mp h
    obtain ⟨ss, hss, h⟩ := bind_ok_iff.mp h
    obtain rfl := Except.ok.inj h
    obtain ⟨x, hx⟩ := decodeImpactMarketInfo_served hs
    obtain ⟨rows, hrows⟩ := ih hss
    refine ⟨x :: rows, ?_⟩
    rw [List.mapM_cons, hx, hrows]
    rfl

end Exact

def statusOf : ImpactMarketStatus → ServedStatus
  | .trading => .trading
  | .preResolution => .preResolution
  | .resolved outcome => .resolved outcome.name

/-- A record of the core is served with the slots that it has. -/
def servedOf (x : ImpactMarketInfo) : ServedImpactMarket :=
  ⟨⟨x.impactMarketId, x.underlyingMarket, x.cpyMarket, x.cpnMarket, x.ebyMarket, x.ebnMarket, x.question,
    x.deadlineMs, x.resolutionWindowMs, statusOf x.status, x.createdMs, x.resolvedMs⟩,
    .source x.oracleSource⟩

def shownStatusOf : ImpactMarketStatus → ShownStatus
  | .trading => .trading
  | .preResolution => .preResolution
  | .resolved outcome => .resolved (.outcome outcome)

theorem toMsg_statusOf (x : ImpactMarketStatus) : (statusOf x).toMsg = x.toMsg := by
  match x with
  | .trading => rfl
  | .preResolution => rfl
  | .resolved .yes => rfl
  | .resolved .no => rfl
  | .resolved .void => rfl

theorem toMsg_servedOf (x : ImpactMarketInfo) : (servedOf x).toMsg = x.toMsg := by
  have hslots : (servedOf x).toMsg = .arr ((servedOf x).toMsgs ++ (servedOf x).trailers.toMsgs) := rfl
  rw [hslots, ImpactMarketSlots.toMsgs, servedOf, toMsg_statusOf]
  rfl

theorem shown_statusOf (x : ImpactMarketStatus) : (statusOf x).shown = some (shownStatusOf x) := by
  match x with
  | .trading => rfl
  | .preResolution => rfl
  | .resolved .yes => rfl
  | .resolved .no => rfl
  | .resolved .void => rfl

def shownOf (x : ImpactMarketInfo) : ShownImpactMarket :=
  ⟨(servedOf x).entries ++ sourceEntry x.oracleSource, shownStatusOf x.status⟩

theorem shown_servedOf (x : ImpactMarketInfo) : (servedOf x).shown = some (shownOf x) := by
  have hstatus : (servedOf x).status = statusOf x.status := rfl
  rw [ServedImpactMarket.shown, hstatus, shown_statusOf]
  rfl

theorem outcomes_inherited (name : String) :
    outcomes name = some (.inherited name) ↔ name ∈ objectPrototype := by
  rw [outcomes]
  constructor
  · intro h
    split at h
    · cases h
    · split_ifs at h with hmem
      · exact List.contains_iff_mem.mp hmem
  · intro h
    have hfresh : ∀ n ∈ objectPrototype,
        [("Yes", Outcome.yes), ("No", .no), ("Void", .void)].lookup n = none := by decide
    rw [hfresh name h]
    exact if_pos (List.contains_iff_mem.mpr h)

/-- The outcomes are the three of the core, and the names that any object has. -/
theorem outcomes_isSome (name : String) : (outcomes name).isSome = true ↔
    (∃ o : Outcome, name = o.name) ∨ name ∈ objectPrototype := by
  constructor
  · intro h
    rw [outcomes] at h
    split at h
    · next o ho =>
      obtain ⟨before, after, heq, -⟩ := List.lookup_eq_some_iff.mp ho
      have hmem : (name, o) ∈ [("Yes", Outcome.yes), ("No", .no), ("Void", .void)] := by
        rw [heq]
        simp
      refine .inl ⟨o, ?_⟩
      simp only [List.mem_cons, Prod.mk.injEq, List.not_mem_nil, or_false] at hmem
      obtain ⟨rfl, rfl⟩ | ⟨rfl, rfl⟩ | ⟨rfl, rfl⟩ := hmem <;> rfl
    · split_ifs at h with hmem
      · exact .inr (List.contains_iff_mem.mp hmem)
      · cases h
  · rintro (⟨o, rfl⟩ | h)
    · cases o <;> rfl
    · rw [(outcomes_inherited name).mpr h]
      rfl

/-- The read of the impact markets is exact on whole lists, except that it takes a name that any
object has for an outcome. -/
structure ImpactMarketReads (stringify : JsVal → String) (decoder : MsgpackDecoder) : Prop where
  read : ∀ res (rows : List ServedImpactMarket) shown,
    Carries res (.arr (rows.map ServedImpactMarket.toMsg)) →
    rows.mapM ServedImpactMarket.shown = some shown →
    queryImpactMarkets stringify decoder res = .ok shown
  refused : ∀ res (rows : List ServedImpactMarket),
    Carries res (.arr (rows.map ServedImpactMarket.toMsg)) → (∃ x ∈ rows, x.shown = none) →
    Fails (queryImpactMarkets stringify decoder res)
  served : ∀ res shown, queryImpactMarkets stringify decoder res = .ok shown →
    ∃ rows : List ServedImpactMarket, rows.mapM ServedImpactMarket.shown = some shown
  records : ∀ res (xs : List ImpactMarketInfo), Carries res (.arr (xs.map ImpactMarketInfo.toMsg)) →
    queryImpactMarkets stringify decoder res = .ok (xs.map shownOf)
  outcome : ∀ name, (ServedStatus.resolved name).shown.isSome = true ↔
    (∃ o : Outcome, name = o.name) ∨ name ∈ objectPrototype
  reported : ∀ res, ReportsError res → Fails (queryImpactMarkets stringify decoder res)
  bare : ∀ res, Bare res → Fails (queryImpactMarkets stringify decoder res)

section Read

variable {stringify : JsVal → String} {decoder : MsgpackDecoder} {res : Response}

theorem queryImpactMarkets_array {msgs : List Msg} {vs : List JsVal} (h : Carries res (.arr msgs))
    (hvs : msgs.mapM jsOfMsg = some vs) : queryImpactMarkets stringify decoder res =
      (decodeImpactMarkets stringify vs).mapError .governance := by
  obtain ⟨hfits, members, hanswers, hdata⟩ := h
  have hmsg : jsOfMsg (.arr msgs) = some (.array vs) := by
    rw [jsOfMsg, jsOfMsgs_eq_mapM, hvs]
    rfl
  have hbytes : fromBase64 (envelopeText (.arr msgs)) = .ok (Msg.arr msgs).encode := by
    rw [fromBase64, envelopeText, chars_map, Base64.atob_encode]
    rfl
  rw [queryImpactMarkets, hanswers.fetched]
  show (match (Value.object members).get "data" with | some (.string data) => _ | _ => _) = _
  rw [hdata]
  show (fromBase64 (envelopeText (.arr msgs)) >>= fun bytes => msgpackDecode decoder bytes >>= _) = _
  rw [hbytes]
  show (msgpackDecode decoder (Msg.arr msgs).encode >>= _) = _
  rw [msgpackDecode, decoder.decode_encode _ _ hfits hmsg]
  rfl

theorem queryImpactMarkets_served {shown : List ShownImpactMarket}
    (h : queryImpactMarkets stringify decoder res = .ok shown) :
    ∃ rows : List ServedImpactMarket, rows.mapM ServedImpactMarket.shown = some shown := by
  rw [queryImpactMarkets] at h
  obtain ⟨json, -, h⟩ := bind_ok_iff.mp h
  split at h
  · obtain ⟨bytes, -, h⟩ := bind_ok_iff.mp h
    obtain ⟨value, -, h⟩ := bind_ok_iff.mp h
    split at h
    · next raw =>
      cases hdecode : decodeImpactMarkets stringify raw with
      | error e =>
        rw [hdecode] at h
        cases h
      | ok shown' =>
        rw [hdecode] at h
        obtain rfl := Except.ok.inj h
        exact mapIdx_served hdecode
    · cases h
  · cases h

theorem mapM_shown_servedOf (xs : List ImpactMarketInfo) :
    (xs.map servedOf).mapM ServedImpactMarket.shown = some (xs.map shownOf) := by
  induction xs with
  | nil => rfl
  | cons x xs ih =>
    rw [List.map_cons, List.mapM_cons, shown_servedOf, ih]
    rfl

/-- Every list of records is read and shown as it is, and a list with a row whose outcome has no value
is refused. The values are the three outcomes and, in spite of that, the names of `Object.prototype`. -/
theorem impactMarkets_read (stringify : JsVal → String) (decoder : MsgpackDecoder) :
    ImpactMarketReads stringify decoder := by
  have hread : ∀ res (rows : List ServedImpactMarket) shown,
      Carries res (.arr (rows.map ServedImpactMarket.toMsg)) →
      rows.mapM ServedImpactMarket.shown = some shown →
      queryImpactMarkets stringify decoder res = .ok shown := by
    intro res rows shown hcarries hshown
    obtain ⟨vs, hvs, hrows⟩ := mapIdx_arrives stringify rows
    rw [queryImpactMarkets_array hcarries hvs, decodeImpactMarkets, (hrows some).1 shown hshown]
    rfl
  constructor
  case read => exact hread
  case refused =>
    intro res rows hcarries hnone
    obtain ⟨vs, hvs, hrows⟩ := mapIdx_arrives stringify rows
    obtain ⟨e, he⟩ := (hrows some).2 hnone
    refine ⟨.governance e, ?_⟩
    rw [queryImpactMarkets_array hcarries hvs, decodeImpactMarkets, he]
    rfl
  case served =>
    intro res shown h
    exact queryImpactMarkets_served h
  case records =>
    intro res xs hcarries
    have hmsgs : (xs.map servedOf).map ServedImpactMarket.toMsg = xs.map ImpactMarketInfo.toMsg := by
      rw [List.map_map]
      exact List.map_congr_left fun x _ => toMsg_servedOf x
    exact hread res (xs.map servedOf) _ (hmsgs ▸ hcarries) (mapM_shown_servedOf xs)
  case outcome =>
    intro name
    rw [ServedStatus.shown, Option.isSome_map]
    exact outcomes_isSome name
  case reported =>
    intro res hreports
    obtain ⟨e, he⟩ := hreports.ts
    exact ⟨e, by rw [queryImpactMarkets, he]; rfl⟩
  case bare =>
    rintro res ⟨members, hanswers, hdata⟩
    refine ⟨.governance (.error
      "governance decode: impact-markets response has no encoded-data envelope"), ?_⟩
    rw [queryImpactMarkets, hanswers.fetched]
    show (match (Value.object members).get "data" with | some (.string data) => _ | _ => _) = _
    rw [hdata]

end Read

/-- A market with an outcome that is none. -/
def sampleImpactMarket : ServedImpactMarket :=
  ⟨⟨1, 2, 3, 4, 5, 6, "", 7, 8, .resolved "constructor", 9, 10⟩, .none⟩

theorem sampleImpactMarket_fits : (Msg.arr ([sampleImpactMarket].map ServedImpactMarket.toMsg)).Fits := by
  have hresolved : (utf8 "Resolved").length = 8 := by decide +kernel
  have hname : (utf8 "constructor").length = 11 := by decide +kernel
  have hquestion : (utf8 "").length = 0 := by decide +kernel
  simp [sampleImpactMarket, ServedImpactMarket.toMsg, ImpactMarketSlots.toMsgs, Trailers.toMsgs,
    ServedStatus.toMsg, variantMsg, Msg.Fits, FitsItems, FitsEntries, hresolved, hname, hquestion]

theorem sampleImpactMarket_text : envelopeText (.arr ([sampleImpactMarket].map ServedImpactMarket.toMsg)) =
    text "kZwBAgMEBQagBwiBqFJlc29sdmVkq2NvbnN0cnVjdG9yCQo=" := by
  decide +kernel

/-- It is shown with a function for its outcome. -/
theorem impactMarkets_read_inherited :
    let res : Response := ⟨200, "OK", "\x7b\"data\":" ++
      "\"kZwBAgMEBQagBwiBqFJlc29sdmVkq2NvbnN0cnVjdG9yCQo=\"\x7d"⟩
    queryImpactMarkets (fun _ => "") .reference res =
      .ok [⟨sampleImpactMarket.entries, .resolved (.inherited "constructor")⟩] := by
  intro res
  have hcarries : Carries res (.arr ([sampleImpactMarket].map ServedImpactMarket.toMsg)) :=
    carries_of_isEnvelope ⟨by decide, by decide⟩ (by decide +kernel) sampleImpactMarket_fits
      sampleImpactMarket_text
  have hshown : [sampleImpactMarket].mapM ServedImpactMarket.shown =
      some [⟨sampleImpactMarket.entries, .resolved (.inherited "constructor")⟩] := by
    have hname : outcomes "constructor" = some (.inherited "constructor") :=
      (outcomes_inherited _).mpr (by decide)
    rw [List.mapM_cons, ServedImpactMarket.shown, sampleImpactMarket, ServedStatus.shown, hname]
    rfl
  exact (impactMarkets_read (fun _ => "") .reference).read res [sampleImpactMarket] _ hcarries hshown

end TradingSdk.Reads
