import TradingSdk.Reads.Envelope
import TradingSdk.Reads.Row

namespace TradingSdk.Reads

open Serde Msgpack Js Json Client

def openOrderFields : List RowField :=
  [⟨"id", "id", .big⟩, ⟨"market", "market", .number⟩, ⟨"owner", "owner", .bytes⟩,
   ⟨"side", "side", .asIs⟩, ⟨"price", "price", .big⟩, ⟨"quantity", "quantity", .big⟩]

def adlQueueFields : List RowField :=
  [⟨"owner", "owner", .bytes⟩, ⟨"market", "market", .number⟩, ⟨"side", "side", .asIs⟩,
   ⟨"size", "size", .big⟩, ⟨"upnlNow", "upnl_now", .big⟩, ⟨"adlScore", "adl_score", .big⟩]

def withdrawalFields : List RowField :=
  [⟨"id", "id", .big⟩, ⟨"owner", "owner", .bytes⟩, ⟨"amount", "amount", .big⟩,
   ⟨"solanaDestination", "solana_destination", .bytes⟩, ⟨"status", "status", .asIs⟩,
   ⟨"requestHeight", "request_height", .big⟩]

def levelFields : List RowField :=
  [⟨"price", "price", .big⟩, ⟨"totalQty", "total_qty", .big⟩, ⟨"orderCount", "order_count", .number⟩]

section TypeScript

variable (decoder : MsgpackDecoder) (toText : Value → Text)

/-- `rows.map(row => ..)`. -/
def mapRows (fields : List RowField) (rows : List JsVal) : Except ReadError JsVal :=
  (orThrow .badRow (rows.mapM (readRowTs fields))).map .array

def queryOpenOrders (res : Response) : Except ReadError JsVal := do
  let json ← fetchApiJson res
  if !isTruthy (json.get "data") then return .array []
  else
    let bytes ← fromBase64 (dataText toText json)
    match decoder.decode bytes with
    | .ok (.array rows) => mapRows openOrderFields rows
    | _ => return .array []

/-- An error in the answer is an empty queue. -/
def queryAdlQueue (res : Response) : Except ReadError JsVal :=
  match jsonParse res.body with
  | none => .error .notJson
  | some .null => .error .typeError
  | some json =>
    if isTruthy (json.get "error") then .ok (.array [])
    else do
      let bytes ← fromBase64 (dataText toText json)
      match ← msgpackDecode decoder bytes with
      | .array rows => mapRows adlQueueFields rows
      | _ => return .array []

def queryWithdrawal (res : Response) : Except ReadError JsVal := do
  let json ← fetchApiJson res
  let raw ← decodeData decoder toText json
  match raw with
  | .null => return .null
  | row => orThrow .badRow (readRowTs withdrawalFields row)

/-- One side of the book, which has to be an array. -/
def levels (side : JsVal) : Except ReadError JsVal :=
  match side with
  | .array rows => mapRows levelFields rows
  | _ => .error .badRow

def queryOrderbook (res : Response) : Except ReadError JsVal := do
  let json ← fetchApiJson res
  let raw ← decodeData decoder toText json
  match raw with
  | .array sides =>
    let bids ← levels (slot sides 0)
    let asks ← levels (slot sides 1)
    return .object [("bids", bids), ("asks", asks)]
  | _ => .error .badRow

end TypeScript

section Python

variable (unpacker : Python.Unpacker)

/-- Rows that are tuples of `len` slots or more. -/
def listRows (fields : List RowField) (len : Nat) (rows : List Content) :
    Except ReadError Content :=
  (orThrow .badRow ((tuplesPy len rows).mapM (readRowPy fields))).map .seq

def openOrders (res : Response) : Except ReadError Content := do
  match ← readData unpacker true res with
  | .seq rows => listRows openOrderFields 6 rows
  | _ => return .seq []

def adlQueue (res : Response) : Except ReadError Content := do
  match ← readData unpacker false res with
  | .seq rows => listRows adlQueueFields 6 rows
  | _ => return .seq []

def withdrawalStatus (res : Response) : Except ReadError Content := do
  match ← readData unpacker true res with
  | .seq row =>
    if row.length < 6 then return .null
    else orThrow .badRow (readRowPy withdrawalFields row)
  | _ => return .null

/-- Nothing where the value is falsy, and only the tuples of what it iterates over. -/
def iterRows (fields : List RowField) (value : Content) : Except ReadError Content :=
  match value with
  | .seq rows => listRows fields 0 rows
  | .int n => if n = 0 then return .seq [] else .error .typeError
  | .bool b => if b then .error .typeError else return .seq []
  | _ => return .seq []

def orderbook (res : Response) : Except ReadError Content := do
  match ← readData unpacker false res with
  | .seq (bidRows :: askRows :: _) =>
    let bids ← iterRows levelFields bidRows
    let asks ← iterRows levelFields askRows
    return .map [("bids", bids), ("asks", asks)]
  | _ => return .map [("bids", .seq []), ("asks", .seq [])]

end Python

/-- Both clients answer, and with the same value. -/
def BothRead (ts : Except ReadError JsVal) (py : Except ReadError Content) (a : JsVal) (b : Content) :
    Prop := ts = .ok a ∧ py = .ok b ∧ SameValue a b

/-- The reads of a list of rows: on complete rows the clients agree, a row that is cut short is left
out by Python, and takes the whole list with it in TypeScript. -/
structure ListsAgree (fields : List RowField) (ts : Response → Except ReadError JsVal)
    (py : Response → Except ReadError Content) : Prop where
  whole : ∀ res msgs (rows : List (List Cell)), Carries res (.arr msgs) →
    List.Forall₂ (RowSent fields) msgs (rows.map some) →
    BothRead (ts res) (py res) (.array (rows.map (rowTs fields))) (.seq (rows.map (rowPy fields)))
  short : ∀ res msgs (shown : List (Option (List Cell))), Carries res (.arr msgs) →
    List.Forall₂ (RowSent fields) msgs shown → none ∈ shown → ts res = .error .badRow ∧
      py res = .ok (.seq ((shown.filterMap id).map (rowPy fields)))

/-- The reads of one row, which is nil for an unknown id. -/
structure RowsAgree (fields : List RowField) (ts : Response → Except ReadError JsVal)
    (py : Response → Except ReadError Content) : Prop where
  whole : ∀ res m (cells : List Cell), Carries res m → RowSent fields m (some cells) →
    BothRead (ts res) (py res) (rowTs fields cells) (rowPy fields cells)
  short : ∀ res m, Carries res m → RowSent fields m none →
    ts res = .error .badRow ∧ py res = .ok .null
  unknown : ∀ res, Carries res .nil → ts res = .ok .null ∧ py res = .ok .null

section Lists

variable {fields : List RowField} {msgs : List Msg} {shown : List (Option (List Cell))}

theorem mapM_id_map_some {α : Type} (as : List α) : (as.map some).mapM id = some as := by
  induction as with
  | nil => rfl
  | cons a as ih =>
    rw [List.map_cons, List.mapM_cons, ih]
    rfl

theorem mapM_id_of_none {α : Type} {as : List (Option α)} (h : none ∈ as) : as.mapM id = none := by
  induction as with
  | nil => cases h
  | cons a as ih =>
    rw [List.mapM_cons]
    rcases List.mem_cons.mp h with rfl | h
    · rfl
    · rw [ih h]
      cases a <;> rfl

theorem mapRows_sent (h : List.Forall₂ (RowSent fields) msgs shown)
    (hends : none ∈ shown → EndsBig fields) : ∃ rows, jsOfMsg (.arr msgs) = some (.array rows) ∧
      mapRows fields rows = (orThrow .badRow (shown.mapM id)).map fun cells =>
        .array (cells.map (rowTs fields)) := by
  obtain ⟨rows, hrows, hread⟩ := rows_ts h hends
  refine ⟨rows, ?_, ?_⟩
  · rw [jsOfMsg, jsOfMsgs_eq_mapM, hrows]
    rfl
  · rw [mapRows, hread]
    cases shown.mapM id <;> rfl

/-- In Python too, where every tuple counts as a row. -/
theorem listRows_all (h : List.Forall₂ (RowSent fields) msgs shown) :
    ∃ rows, Python.pyOfMsg (.arr msgs) = some (.seq rows) ∧
      listRows fields 0 rows = (orThrow .badRow (shown.mapM id)).map fun cells =>
        .seq (cells.map (rowPy fields)) := by
  obtain ⟨rows, hrows, hread⟩ := rows_py h
  refine ⟨rows, Python.pyOfMsg_arr hrows, ?_⟩
  rw [listRows, hread]
  cases shown.mapM id <;> rfl

theorem listRows_long (h : List.Forall₂ (RowSent fields) msgs shown) (hall : AllRequired fields) :
    ∃ rows, Python.pyOfMsg (.arr msgs) = some (.seq rows) ∧
      listRows fields fields.length rows = .ok (.seq ((shown.filterMap id).map (rowPy fields))) := by
  obtain ⟨rows, hrows, hread⟩ := longRows_py h hall
  refine ⟨rows, Python.pyOfMsg_arr hrows, ?_⟩
  rw [listRows, hread]
  rfl

/-- What the rows of an answer show is the same in both languages. -/
theorem same_rows (hnames : ∀ f ∈ fields, f.ts = snakeToCamel f.py) {rows : List (List Cell)}
    (h : List.Forall₂ (RowSent fields) msgs (rows.map some)) :
    SameItems (rows.map (rowTs fields)) (rows.map (rowPy fields)) := by
  induction rows generalizing msgs with
  | nil => trivial
  | cons cells rows ih =>
    cases h with
    | cons hrow hrest => exact ⟨hrow.same hnames, ih hrest⟩

/-- Two reads that find a list of rows agree on it. -/
theorem lists_agree {ts : Response → Except ReadError JsVal} {py : Response → Except ReadError Content}
    (hnames : ∀ f ∈ fields, f.ts = snakeToCamel f.py) (hends : EndsBig fields) (hall : AllRequired fields)
    (hts : ∀ res msgs rows, Carries res (.arr msgs) → jsOfMsg (.arr msgs) = some (.array rows) →
      ts res = mapRows fields rows)
    (hpy : ∀ res msgs rows, Carries res (.arr msgs) → Python.pyOfMsg (.arr msgs) = some (.seq rows) →
      py res = listRows fields fields.length rows) : ListsAgree fields ts py := by
  have hread : ∀ res msgs (shown : List (Option (List Cell))), Carries res (.arr msgs) →
      List.Forall₂ (RowSent fields) msgs shown →
      ts res = (orThrow .badRow (shown.mapM id)).map (fun cells => .array (cells.map (rowTs fields))) ∧
      py res = .ok (.seq ((shown.filterMap id).map (rowPy fields))) := by
    intro res msgs shown hcarries hsent
    obtain ⟨rows, hjs, hmapped⟩ := mapRows_sent hsent fun _ => hends
    obtain ⟨rows', hpyMsg, hlisted⟩ := listRows_long hsent hall
    exact ⟨(hts res msgs rows hcarries hjs).trans hmapped, (hpy res msgs rows' hcarries hpyMsg).trans hlisted⟩
  refine ⟨fun res msgs rows hcarries hsent => ?_, fun res msgs shown hcarries hsent hnone => ?_⟩
  · obtain ⟨htsRead, hpyRead⟩ := hread res msgs _ hcarries hsent
    rw [mapM_id_map_some] at htsRead
    rw [List.filterMap_map, Function.id_comp, List.filterMap_some] at hpyRead
    exact ⟨htsRead, hpyRead, same_rows hnames hsent⟩
  · obtain ⟨htsRead, hpyRead⟩ := hread res msgs shown hcarries hsent
    rw [mapM_id_of_none hnone] at htsRead
    exact ⟨htsRead, hpyRead⟩

end Lists

section Reads

variable {decoder : MsgpackDecoder} {toText : Value → Text} {unpacker : Python.Unpacker}
  {res : Response}

theorem queryOpenOrders_rows {msgs : List Msg} {rows : List JsVal} (h : Carries res (.arr msgs))
    (hrows : jsOfMsg (.arr msgs) = some (.array rows)) :
    queryOpenOrders decoder toText res = mapRows openOrderFields rows := by
  obtain ⟨members, hanswers, htruthy, hbytes, hdecode⟩ := h.ts decoder toText hrows
  rw [queryOpenOrders, hanswers.fetched]
  show (if !isTruthy ((Value.object members).get "data") then _ else _) = _
  rw [htruthy, if_neg (by decide), hbytes]
  show (match decoder.decode (Msg.arr msgs).encode with | .ok (.array rows) => _ | _ => _) = _
  rw [hdecode]

theorem queryAdlQueue_rows {msgs : List Msg} {rows : List JsVal} (h : Carries res (.arr msgs))
    (hrows : jsOfMsg (.arr msgs) = some (.array rows)) :
    queryAdlQueue decoder toText res = mapRows adlQueueFields rows := by
  obtain ⟨members, hanswers, -, hbytes, hdecode⟩ := h.ts decoder toText hrows
  rw [queryAdlQueue, hanswers.parsed]
  simp only [(isNullish_falsy hanswers.noError).1, Bool.false_eq_true, if_false, hbytes]
  show (msgpackDecode decoder (Msg.arr msgs).encode >>= fun raw => _) = _
  rw [msgpackDecode, hdecode]
  rfl

variable (decoder toText) in
/-- The value that the other reads decode. -/
theorem Carries.decodeData {m : Msg} (h : Carries res m) {v : JsVal} (hv : jsOfMsg m = some v) :
    ∃ json, fetchApiJson res = .ok json ∧ Reads.decodeData decoder toText json = .ok v := by
  obtain ⟨members, hanswers, -, hbytes, hdecode⟩ := h.ts decoder toText hv
  refine ⟨_, hanswers.fetched, ?_⟩
  rw [Reads.decodeData, hbytes]
  show msgpackDecode decoder m.encode = _
  rw [msgpackDecode, hdecode]
  rfl

theorem openOrders_rows {msgs : List Msg} {rows : List Content} (h : Carries res (.arr msgs))
    (hrows : Python.pyOfMsg (.arr msgs) = some (.seq rows)) :
    openOrders unpacker res = listRows openOrderFields 6 rows := by
  rw [openOrders, h.py unpacker true hrows]
  rfl

theorem adlQueue_rows {msgs : List Msg} {rows : List Content} (h : Carries res (.arr msgs))
    (hrows : Python.pyOfMsg (.arr msgs) = some (.seq rows)) :
    adlQueue unpacker res = listRows adlQueueFields 6 rows := by
  rw [adlQueue, h.py unpacker false hrows]
  rfl

theorem queryWithdrawal_row {m : Msg} {row : List JsVal} (h : Carries res m)
    (hrow : jsOfMsg m = some (.array row)) : queryWithdrawal decoder toText res =
      orThrow .badRow (readRowTs withdrawalFields (.array row)) := by
  obtain ⟨json, hfetched, hdecoded⟩ := h.decodeData decoder toText hrow
  rw [queryWithdrawal, hfetched]
  show (Reads.decodeData decoder toText json >>= fun raw => _) = _
  rw [hdecoded]
  rfl

theorem withdrawalStatus_row {m : Msg} {row : List Content} (h : Carries res m)
    (hrow : Python.pyOfMsg m = some (.seq row)) : withdrawalStatus unpacker res =
      if row.length < 6 then .ok .null else orThrow .badRow (readRowPy withdrawalFields row) := by
  rw [withdrawalStatus, h.py unpacker true hrow]
  rfl

theorem withdrawals_agree : RowsAgree withdrawalFields (queryWithdrawal decoder toText)
    (withdrawalStatus unpacker) := by
  have hnames : ∀ f ∈ withdrawalFields, f.ts = snakeToCamel f.py := by decide
  have hends : EndsBig withdrawalFields := ⟨withdrawalFields.take 5, _, [], rfl, rfl, by decide⟩
  have hall : AllRequired withdrawalFields := by decide
  refine ⟨fun res m cells hcarries hsent => ?_, fun res m hcarries hsent => ?_,
    fun res hcarries => ?_⟩
  · obtain ⟨row, hrow, hread⟩ := hsent.ts fun _ => hends
    obtain ⟨items, hitems, hreadPy, -⟩ := hsent.py
    have hlen : ¬ items.length < 6 := Nat.not_lt.mpr (length_of_readRowPy hall hreadPy)
    refine ⟨?_, ?_, hsent.same hnames⟩
    · rw [queryWithdrawal_row hcarries hrow, hread]
      rfl
    · rw [withdrawalStatus_row hcarries hitems, if_neg hlen, hreadPy]
      rfl
  · obtain ⟨row, hrow, hread⟩ := hsent.ts fun _ => hends
    obtain ⟨items, hitems, -, hshort⟩ := hsent.py
    have hlen : items.length < 6 := hshort rfl
    rw [queryWithdrawal_row hcarries hrow, hread, withdrawalStatus_row hcarries hitems, if_pos hlen]
    exact ⟨rfl, rfl⟩
  · obtain ⟨json, hfetched, hdecoded⟩ :=
      hcarries.decodeData decoder toText (show jsOfMsg .nil = some .null from rfl)
    constructor
    · rw [queryWithdrawal, hfetched]
      show (Reads.decodeData decoder toText json >>= fun raw => _) = _
      rw [hdecoded]
      rfl
    · rw [withdrawalStatus, hcarries.py unpacker true (v := .null) rfl]
      rfl

/-- A book as TypeScript shows it. -/
def bookTs (bids asks : List (List Cell)) : JsVal :=
  .object [("bids", .array (bids.map (rowTs levelFields))), ("asks", .array (asks.map (rowTs levelFields)))]

def bookPy (bids asks : List (List Cell)) : Content :=
  .map [("bids", .seq (bids.map (rowPy levelFields))), ("asks", .seq (asks.map (rowPy levelFields)))]

theorem levels_sent {msgs : List Msg} {rows : List (List Cell)}
    (h : List.Forall₂ (RowSent levelFields) msgs (rows.map some)) :
    (∃ side, jsOfMsg (.arr msgs) = some side ∧
      levels side = .ok (.array (rows.map (rowTs levelFields)))) ∧
    ∃ side, Python.pyOfMsg (.arr msgs) = some side ∧
      iterRows levelFields side = .ok (.seq (rows.map (rowPy levelFields))) := by
  have hall : none ∉ rows.map some := by simp
  obtain ⟨js, hjs, hmapped⟩ := mapRows_sent h fun hnone => absurd hnone hall
  obtain ⟨items, hitems, hlisted⟩ := listRows_all h
  rw [mapM_id_map_some] at hmapped hlisted
  exact ⟨⟨_, hjs, hmapped⟩, ⟨_, hitems, hlisted⟩⟩

theorem books_agree {bidMsgs askMsgs more : List Msg} {bids asks : List (List Cell)}
    (h : Carries res (.arr (.arr bidMsgs :: .arr askMsgs :: more))) (hmore : ∀ m ∈ more, Readable m)
    (hbids : List.Forall₂ (RowSent levelFields) bidMsgs (bids.map some))
    (hasks : List.Forall₂ (RowSent levelFields) askMsgs (asks.map some)) :
    BothRead (queryOrderbook decoder toText res) (orderbook unpacker res) (bookTs bids asks)
      (bookPy bids asks) := by
  have hnames : ∀ f ∈ levelFields, f.ts = snakeToCamel f.py := by decide
  obtain ⟨⟨bidTs, hbidTs, hbidLevels⟩, ⟨bidPy, hbidPy, hbidRows⟩⟩ := levels_sent hbids
  obtain ⟨⟨askTs, haskTs, haskLevels⟩, ⟨askPy, haskPy, haskRows⟩⟩ := levels_sent hasks
  obtain ⟨moreTs, hmoreTs⟩ := Option.isSome_iff_exists.mp
    (mapM_isSome_iff.mpr fun m hm => (hmore m hm).1)
  obtain ⟨morePy, hmorePy⟩ := Option.isSome_iff_exists.mp
    (mapM_isSome_iff.mpr fun m hm => (hmore m hm).2)
  have hts : jsOfMsg (.arr (.arr bidMsgs :: .arr askMsgs :: more)) =
      some (.array (bidTs :: askTs :: moreTs)) := by
    rw [jsOfMsg, jsOfMsgs_eq_mapM, List.mapM_cons, List.mapM_cons, hbidTs, haskTs, hmoreTs]
    rfl
  have hpy : Python.pyOfMsg (.arr (.arr bidMsgs :: .arr askMsgs :: more)) =
      some (.seq (bidPy :: askPy :: morePy)) := by
    refine Python.pyOfMsg_arr ?_
    rw [List.mapM_cons, List.mapM_cons, hbidPy, haskPy, hmorePy]
    rfl
  refine ⟨?_, ?_, ?_⟩
  · obtain ⟨json, hfetched, hdecoded⟩ := h.decodeData decoder toText hts
    rw [queryOrderbook, hfetched]
    show (Reads.decodeData decoder toText json >>= fun raw => _) = _
    rw [hdecoded]
    show (levels bidTs >>= fun bids => levels askTs >>= fun asks => _) = _
    rw [hbidLevels, haskLevels]
    rfl
  · rw [orderbook, h.py unpacker false hpy]
    show (iterRows levelFields bidPy >>= fun bids => iterRows levelFields askPy >>= fun asks => _) = _
    rw [hbidRows, haskRows]
    rfl
  · exact ⟨rfl, same_rows hnames hbids, rfl, same_rows hnames hasks, trivial⟩

/-- Only the queue swallows what the answer reports, and only in TypeScript. -/
theorem queryAdlQueue_error {members : Members} {s : Text} (hbody : jsonLoads res.body = .ok (.object members))
    (hstandard : (Value.object members).hasConstant = false) (hne : s ≠ [])
    (herror : (Value.object members).get "error" = some (.string s)) :
    queryAdlQueue decoder toText res = .ok (.array []) := by
  have htruthy : isTruthy (some (.string s)) = true := by
    cases s with
    | nil => exact absurd rfl hne
    | cons c cs => rfl
  rw [queryAdlQueue, jsonParse, parse_standard hbody, hstandard]
  show (if isTruthy ((Value.object members).get "error") then _ else _) = _
  rw [herror, htruthy, if_pos rfl]

theorem reported_ts (h : ReportsError res) : Fails (queryOpenOrders decoder toText res) ∧
    Fails (queryWithdrawal decoder toText res) ∧ Fails (queryOrderbook decoder toText res) := by
  obtain ⟨e, he⟩ := h.ts
  refine ⟨⟨e, ?_⟩, ⟨e, ?_⟩, ⟨e, ?_⟩⟩
  · rw [queryOpenOrders, he]
    rfl
  · rw [queryWithdrawal, he]
    rfl
  · rw [queryOrderbook, he]
    rfl

theorem reported_py (h : ReportsError res) : Fails (openOrders unpacker res) ∧
    Fails (withdrawalStatus unpacker res) ∧ Fails (adlQueue unpacker res) ∧
    Fails (orderbook unpacker res) := by
  obtain ⟨e, he⟩ := h.py unpacker true
  obtain ⟨e', he'⟩ := h.py unpacker false
  refine ⟨⟨e, ?_⟩, ⟨e, ?_⟩, ⟨e', ?_⟩, ⟨e', ?_⟩⟩
  · rw [openOrders, he]
    rfl
  · rw [withdrawalStatus, he]
    rfl
  · rw [adlQueue, he']
    rfl
  · rw [orderbook, he']
    rfl

theorem bare_ts (h : Bare res) : queryOpenOrders decoder toText res = .ok (.array []) ∧
    queryWithdrawal decoder toText res = .error .badBase64 ∧
    queryAdlQueue decoder toText res = .error .badBase64 ∧
    queryOrderbook decoder toText res = .error .badBase64 := by
  obtain ⟨members, hanswers, hdata, hbytes⟩ := h.ts toText
  have hdecoded : Reads.decodeData decoder toText (.object members) = .error .badBase64 := by
    rw [Reads.decodeData, hbytes]
    rfl
  refine ⟨?_, ?_, ?_, ?_⟩
  · rw [queryOpenOrders, hanswers.fetched]
    show (if !isTruthy ((Value.object members).get "data") then _ else _) = _
    rw [hdata]
    rfl
  · rw [queryWithdrawal, hanswers.fetched]
    show (Reads.decodeData decoder toText (.object members) >>= fun raw => _) = _
    rw [hdecoded]
    rfl
  · rw [queryAdlQueue, hanswers.parsed]
    simp only [(isNullish_falsy hanswers.noError).1, Bool.false_eq_true, if_false, hbytes]
    rfl
  · rw [queryOrderbook, hanswers.fetched]
    show (Reads.decodeData decoder toText (.object members) >>= fun raw => _) = _
    rw [hdecoded]
    rfl

theorem bare_py (h : Bare res) : openOrders unpacker res = .error .missingData ∧
    withdrawalStatus unpacker res = .error .missingData ∧ adlQueue unpacker res = .ok (.seq []) ∧
    orderbook unpacker res = .ok (bookPy [] []) := by
  refine ⟨?_, ?_, ?_, ?_⟩
  · rw [openOrders, h.py]
    rfl
  · rw [withdrawalStatus, h.py]
    rfl
  · rw [adlQueue, h.py]
    rfl
  · rw [orderbook, h.py]
    rfl

end Reads

/-- The reads of both clients, on every answer that carries rows, reports an error or has no data. -/
structure RowReads (decoder : MsgpackDecoder) (toText : Value → Text) (unpacker : Python.Unpacker) :
    Prop where
  orders : ListsAgree openOrderFields (queryOpenOrders decoder toText) (openOrders unpacker)
  queue : ListsAgree adlQueueFields (queryAdlQueue decoder toText) (adlQueue unpacker)
  withdrawal : RowsAgree withdrawalFields (queryWithdrawal decoder toText) (withdrawalStatus unpacker)
  book : ∀ res bidMsgs askMsgs more (bids asks : List (List Cell)),
    Carries res (.arr (.arr bidMsgs :: .arr askMsgs :: more)) → (∀ m ∈ more, Readable m) →
    List.Forall₂ (RowSent levelFields) bidMsgs (bids.map some) →
    List.Forall₂ (RowSent levelFields) askMsgs (asks.map some) →
    BothRead (queryOrderbook decoder toText res) (orderbook unpacker res) (bookTs bids asks)
      (bookPy bids asks)
  reported : ∀ res, ReportsError res → (Fails (queryOpenOrders decoder toText res) ∧
      Fails (queryWithdrawal decoder toText res) ∧ Fails (queryOrderbook decoder toText res)) ∧
    Fails (openOrders unpacker res) ∧ Fails (withdrawalStatus unpacker res) ∧
      Fails (adlQueue unpacker res) ∧ Fails (orderbook unpacker res)
  swallowed : ∀ res members s, jsonLoads res.body = .ok (.object members) →
    (Value.object members).hasConstant = false → s ≠ [] →
    (Value.object members).get "error" = some (.string s) →
    queryAdlQueue decoder toText res = .ok (.array [])
  bare : ∀ res, Bare res → (queryOpenOrders decoder toText res = .ok (.array []) ∧
      queryWithdrawal decoder toText res = .error .badBase64 ∧
      queryAdlQueue decoder toText res = .error .badBase64 ∧
      queryOrderbook decoder toText res = .error .badBase64) ∧
    openOrders unpacker res = .error .missingData ∧ withdrawalStatus unpacker res = .error .missingData ∧
      adlQueue unpacker res = .ok (.seq []) ∧ orderbook unpacker res = .ok (bookPy [] [])

def sampleOrder : List Cell :=
  [.int 7, .int 1, .bytes bareBytes (List.replicate 20 9), .text "Buy", .int 100, .int 5]

def sampleOrders : Msg := .arr [.arr ((sampleOrder.take 6).map Cell.toMsg ++ []), .arr ((sampleOrder.take 0).map Cell.toMsg)]

theorem sampleOrder_fits : RowFits openOrderFields sampleOrder := by
  have hmarket : Cell.Fits (.int 1) .number := ⟨by decide, by decide⟩
  exact .cons trivial (.cons hmarket (.cons trivial (.cons trivial (.cons trivial (.cons trivial .nil)))))

theorem sampleOrders_text : envelopeText sampleOrders =
    text "kpYHAdwAFAkJCQkJCQkJCQkJCQkJCQkJCQkJo0J1eWQFkA==" := by
  decide +kernel

theorem sampleOrders_fits : sampleOrders.Fits := by
  have hside : (utf8 "Buy").length = 3 := by decide +kernel
  simp [sampleOrders, sampleOrder, Cell.toMsg, ByteForm.toMsg, bareBytes, byteItems, Msg.Fits, FitsItems,
    hside]

end TradingSdk.Reads
