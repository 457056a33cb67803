import TradingSdk.Reads.Lists

namespace TradingSdk.Reads

open Serde Msgpack Js Json Client

def positionFields : List RowField :=
  [⟨"owner", "owner", .bytes⟩, ⟨"market", "market", .number⟩, ⟨"side", "side", .asIs⟩,
   ⟨"entryPrice", "entry_price", .big⟩, ⟨"size", "size", .big⟩,
   ⟨"lastFundingIndex", "last_funding_index", .bigOrZero⟩, ⟨"upnlNow", "upnl_now", .optBig⟩,
   ⟨"mmNow", "mm_now", .optBig⟩, ⟨"imNow", "im_now", .optBig⟩,
   ⟨"pnlIfFires", "pnl_if_fires", .optBig⟩, ⟨"pnlIfDies", "pnl_if_dies", .optBig⟩,
   ⟨"fundingSince", "funding_since", .optBig⟩, ⟨"adlScore", "adl_score", .optBig⟩,
   ⟨"positionEpoch", "position_epoch", .optBig⟩]

/-- The slots 2 to 5. -/
def marginFields : List RowField :=
  [⟨"equity", "equity", .bigOrZero⟩, ⟨"totalMm", "total_mm", .bigOrZero⟩,
   ⟨"totalIm", "total_im", .bigOrZero⟩, ⟨"marginRatioBps", "margin_ratio_bps", .bigOrZero⟩]

def scenarioFields : List RowField :=
  [⟨"impactMarketId", "impact_market_id", .number⟩, ⟨"branch", "branch", .asIs⟩]

section TypeScript

variable (decoder : MsgpackDecoder) (toText : Value → Text)

/-- `(value ?? []).map(..)`. -/
def mapRowsOrEmpty (fields : List RowField) : JsVal → Except ReadError JsVal
  | .array rows => mapRows fields rows
  | .undefined => .ok (.array [])
  | .null => .ok (.array [])
  | _ => .error .badRow

/-- A slot that older engines leave out stays `undefined`, and nil is read as the empty value. -/
def ifSent (read : JsVal → Except ReadError JsVal) (v : JsVal) : Except ReadError JsVal :=
  match v with
  | .undefined => .ok .undefined
  | v => read v

def bigOrZero (v : JsVal) : Except ReadError JsVal := orThrow .badRow (Column.bigOrZero.readTs v)

/-- The `AccountInfo` of a tuple. -/
def accountInfo (raw : List JsVal) : Except ReadError JsVal := do
  let balance ← orThrow .badRow (bigint (slot raw 0))
  let positions ← mapRowsOrEmpty positionFields (slot raw 1)
  let margin ← orThrow .badRow (readCellsTs marginFields (raw.drop 2))
  let bindingScenario ← ifSent (mapRowsOrEmpty scenarioFields) (slot raw 6)
  let feesAccrued ← ifSent bigOrZero (slot raw 7)
  let volume30dMicroUsdc ← ifSent bigOrZero (slot raw 8)
  return .object ([("balance", balance), ("positions", positions)] ++ margin ++
    [("bindingScenario", bindingScenario), ("feesAccrued", feesAccrued),
     ("volume30dMicroUsdc", volume30dMicroUsdc)])

def queryAccount (res : Response) : Except ReadError JsVal := do
  let json ← fetchApiJson res
  let raw ← decodeData decoder toText json
  match raw with
  | .array raw => accountInfo raw
  | _ => .error .badRow

end TypeScript

section Python

variable (unpacker : Python.Unpacker)

/-- `AccountState`. -/
def accountState (balances : List (String × Content)) (positions : Content)
    (margin raw : List (String × Content)) : Content :=
  .map [("balances", .map balances), ("positions", positions), ("open_orders", .seq []),
    ("margin", .map margin), ("raw", .map raw)]

/-- What is no tuple, or an empty one, is an account without anything in it. -/
def accountOf (raw : Content) : Except ReadError Content :=
  match raw with
  | .seq (balance :: rest) => do
    let positions ← (rest.head?.map (iterRows positionFields)).getD (.ok (.seq []))
    let usdc ← orThrow .badRow (Python.int balance)
    let margin ← orThrow .badRow (readCellsPy marginFields rest.tail)
    return accountState [("USDC", usdc)] positions margin [("tuple", .seq (balance :: rest))]
  | _ => return accountState [] (.seq []) [] []

def account (res : Response) : Except ReadError Content := do
  let raw ← readData unpacker true res
  accountOf raw

end Python

/-- Rows, or nil for none. -/
inductive RowsSent (fields : List RowField) : Msg → List (Option (List Cell)) → Prop where
  | nil : RowsSent fields .nil []
  | rows {msgs : List Msg} {shown : List (Option (List Cell))}
      (h : List.Forall₂ (RowSent fields) msgs shown) : RowsSent fields (.arr msgs) shown

/-- The slots from 6 on, which only newer engines send. -/
structure Later where
  bindingScenario : Option (List (List Cell))
  feesAccrued : Option Cell
  volume : Option Cell

/-- They are sent up to any of them, and all of them maybe with slots behind. -/
inductive LaterSent : List Msg → Later → Prop where
  | none : LaterSent [] ⟨none, none, none⟩
  | scenario {m : Msg} {rows : List (List Cell)} (h : RowsSent scenarioFields m (rows.map some)) :
      LaterSent [m] ⟨some rows, none, none⟩
  | fees {m : Msg} {rows : List (List Cell)} {fees : Cell}
      (h : RowsSent scenarioFields m (rows.map some)) (hfees : fees.Fits .bigOrZero) :
      LaterSent [m, fees.toMsg] ⟨some rows, some fees, none⟩
  | volume {m : Msg} {rows : List (List Cell)} {fees volume : Cell} {extra : List Msg}
      (h : RowsSent scenarioFields m (rows.map some)) (hfees : fees.Fits .bigOrZero)
      (hvolume : volume.Fits .bigOrZero) (hextra : ∀ m ∈ extra, Readable m) :
      LaterSent (m :: fees.toMsg :: volume.toMsg :: extra) ⟨some rows, some fees, some volume⟩

/-- An account. Of a position that is cut short nothing can be shown. -/
structure Account where
  balance : Int
  positions : List (Option (List Cell))
  margin : List Cell
  later : Later

inductive AccountSent : List Msg → Account → Prop where
  | balance (n : Int) :
      AccountSent [.int n] ⟨n, [], List.replicate 4 .nil, ⟨none, none, none⟩⟩
  | more (n : Int) {m : Msg} {positions : List (Option (List Cell))} {margin : List Cell} (k : Nat)
      {msgs : List Msg} {later : Later} (hpositions : RowsSent positionFields m positions)
      (hmargin : RowFits marginFields margin) (hnil : ∀ cell ∈ margin.drop k, cell = .nil)
      (hlater : LaterSent msgs later) (hfull : msgs ≠ [] → margin.length ≤ k) :
      AccountSent (.int n :: m :: (margin.take k).map Cell.toMsg ++ msgs) ⟨n, positions, margin, later⟩

def Later.toTs (x : Later) : Entries :=
  [("bindingScenario", Rendering.ts.optional (fun rows => .array (rows.map (rowTs scenarioFields)))
      x.bindingScenario),
    ("feesAccrued", Rendering.ts.optional (Cell.render Rendering.ts · .bigOrZero) x.feesAccrued),
    ("volume30dMicroUsdc", Rendering.ts.optional (Cell.render Rendering.ts · .bigOrZero) x.volume)]

/-- The account with the positions in `rows` as TypeScript shows it. -/
def Account.toTs (x : Account) (rows : List (List Cell)) : JsVal :=
  .object ([("balance", .bigint x.balance), ("positions", .array (rows.map (rowTs positionFields)))] ++
    rowEntries Rendering.ts RowField.ts marginFields x.margin ++ x.later.toTs)

/-- As Python shows it, which leaves the slots from 6 on in `raw`. -/
def Account.toPy (x : Account) (rows : List (List Cell)) (raw : List Content) : Content :=
  accountState [("USDC", .int x.balance)] (.seq (rows.map (rowPy positionFields)))
    (rowEntries Rendering.py RowField.py marginFields x.margin) [("tuple", .seq raw)]

section Slots

variable {fields : List RowField} {m : Msg} {shown : List (Option (List Cell))}

theorem RowsSent.ts (h : RowsSent fields m shown) (hends : none ∈ shown → EndsBig fields) : ∃ v,
    jsOfMsg m = some v ∧ v ≠ .undefined ∧ mapRowsOrEmpty fields v =
      (orThrow .badRow (shown.mapM id)).map fun cells => .array (cells.map (rowTs fields)) := by
  cases h with
  | nil => exact ⟨.null, rfl, by simp, rfl⟩
  | rows h =>
    obtain ⟨rows, hrows, hread⟩ := mapRows_sent h hends
    exact ⟨.array rows, hrows, by simp, hread⟩

theorem RowsSent.py (h : RowsSent fields m shown) : ∃ v, Python.pyOfMsg m = some v ∧
    iterRows fields v =
      (orThrow .badRow (shown.mapM id)).map fun cells => .seq (cells.map (rowPy fields)) := by
  cases h with
  | nil => exact ⟨.null, rfl, rfl⟩
  | rows h =>
    obtain ⟨rows, hrows, hread⟩ := listRows_all h
    exact ⟨.seq rows, hrows, hread⟩

/-- A slot that is sent does not look missing. -/
theorem jsOfMsg_ne_undefined (m : Msg) : jsOfMsg m ≠ some .undefined := by
  intro h
  rw [jsOfMsg.eq_def] at h
  split at h
  · cases h
  · cases h
  · next n =>
    rw [jsInt] at h
    split_ifs at h <;> cases h
  · obtain ⟨s, -, hs⟩ := Option.map_eq_some_iff.mp h
    cases hs
  · cases h
  · obtain ⟨items, -, hitems⟩ := Option.map_eq_some_iff.mp h
    cases hitems
  · obtain ⟨k, -, hk⟩ := Option.bind_eq_some_iff.mp h
    obtain ⟨w, -, hw⟩ := Option.map_eq_some_iff.mp hk
    cases hw
  · cases h

theorem ifSent_bigOrZero {cell : Cell} (h : cell.Fits .bigOrZero) : ∃ v, jsOfMsg cell.toMsg = some v ∧
    ifSent bigOrZero v = .ok (cell.render Rendering.ts .bigOrZero) := by
  obtain ⟨v, hv, hread⟩ := Cell.readTs h
  refine ⟨v, hv, ?_⟩
  have hsent : ifSent bigOrZero v = bigOrZero v := by
    rw [ifSent]
    rintro rfl
    exact jsOfMsg_ne_undefined _ hv
  rw [hsent, bigOrZero, hread]
  rfl

theorem ifSent_scenario {rows : List (List Cell)} (h : RowsSent scenarioFields m (rows.map some)) :
    ∃ v, jsOfMsg m = some v ∧ ifSent (mapRowsOrEmpty scenarioFields) v =
      .ok (.array (rows.map (rowTs scenarioFields))) := by
  obtain ⟨v, hv, hne, hread⟩ := h.ts fun hnone => absurd hnone (by simp)
  refine ⟨v, hv, ?_⟩
  have hsent : ifSent (mapRowsOrEmpty scenarioFields) v = mapRowsOrEmpty scenarioFields v := by
    rw [ifSent]
    exact hne
  rw [hsent, hread, mapM_id_map_some]
  rfl

theorem LaterSent.ts {msgs : List Msg} {later : Later} (h : LaterSent msgs later) : ∃ row,
    msgs.mapM jsOfMsg = some row ∧
    ifSent (mapRowsOrEmpty scenarioFields) (slot row 0) =
      .ok (Rendering.ts.optional (fun rows => .array (rows.map (rowTs scenarioFields)))
        later.bindingScenario) ∧
    ifSent bigOrZero (slot row 1) =
      .ok (Rendering.ts.optional (Cell.render Rendering.ts · .bigOrZero) later.feesAccrued) ∧
    ifSent bigOrZero (slot row 2) =
      .ok (Rendering.ts.optional (Cell.render Rendering.ts · .bigOrZero) later.volume) := by
  cases h with
  | none => exact ⟨[], rfl, rfl, rfl, rfl⟩
  | scenario hscenario =>
    obtain ⟨v, hv, hread⟩ := ifSent_scenario hscenario
    refine ⟨[v], ?_, hread, rfl, rfl⟩
    rw [List.mapM_cons, hv]
    rfl
  | fees hscenario hfees =>
    obtain ⟨v, hv, hread⟩ := ifSent_scenario hscenario
    obtain ⟨w, hw, hreadFees⟩ := ifSent_bigOrZero hfees
    refine ⟨[v, w], ?_, hread, hreadFees, rfl⟩
    rw [List.mapM_cons, List.mapM_cons, hv, hw]
    rfl
  | volume hscenario hfees hvolume hextra =>
    obtain ⟨v, hv, hread⟩ := ifSent_scenario hscenario
    obtain ⟨w, hw, hreadFees⟩ := ifSent_bigOrZero hfees
    obtain ⟨u, hu, hreadVolume⟩ := ifSent_bigOrZero hvolume
    obtain ⟨more, hmore⟩ := Option.isSome_iff_exists.mp
      (mapM_isSome_iff.mpr fun m hm => (hextra m hm).1)
    refine ⟨v :: w :: u :: more, ?_, hread, hreadFees, hreadVolume⟩
    rw [List.mapM_cons, List.mapM_cons, List.mapM_cons, hv, hw, hu, hmore]
    rfl

theorem LaterSent.py {msgs : List Msg} {later : Later} (h : LaterSent msgs later) :
    ∃ row, msgs.mapM Python.pyOfMsg = some row := by
  have hscenario : ∀ {m : Msg} {rows : List (List Cell)}, RowsSent scenarioFields m (rows.map some) →
      (Python.pyOfMsg m).isSome = true := by
    intro m rows h
    obtain ⟨v, hv, -⟩ := h.py
    exact Option.isSome_of_eq_some hv
  have hcell : ∀ {cell : Cell}, cell.Fits .bigOrZero → (Python.pyOfMsg cell.toMsg).isSome = true := by
    intro cell h
    obtain ⟨v, hv, -⟩ := Cell.readPy h
    exact Option.isSome_of_eq_some hv
  refine Option.isSome_iff_exists.mp (mapM_isSome_iff.mpr ?_)
  cases h with
  | none => simp
  | scenario h => simpa using hscenario h
  | fees h hfees => simpa using ⟨hscenario h, hcell hfees⟩
  | volume h hfees hvolume hextra =>
    simpa using ⟨hscenario h, hcell hfees, hcell hvolume, fun m hm => (hextra m hm).2⟩

/-- The slots behind the margin keep their places. -/
theorem slot_later {balance positions : JsVal} {margin later : List JsVal} {i : Nat}
    (hle : margin.length ≤ 4) (hfull : later ≠ [] → margin.length = 4) :
    slot (balance :: positions :: margin ++ later) (6 + i) = slot later i := by
  by_cases hlater : later = []
  · rw [hlater, List.append_nil, slot, slot, List.getD_eq_default _ _ (by simp; omega),
      List.getD_eq_default _ _ (Nat.zero_le _)]
  · have hlen := hfull hlater
    have hcons : (balance :: positions :: margin).length = 6 := by simp [hlen]
    rw [slot, slot, List.getD_append_right _ _ _ _ (by omega), hcons, Nat.add_sub_cancel_left]

theorem positionFields_endsBig : EndsBig positionFields :=
  ⟨positionFields.take 4, _, positionFields.drop 5, rfl, rfl, by decide⟩

theorem length_marginFields {margin : List Cell} (h : RowFits marginFields margin) :
    margin.length = 4 := h.length_eq.symm

theorem AccountSent.ts {msgs : List Msg} {a : Account} (h : AccountSent msgs a) : ∃ raw,
    jsOfMsg (.arr msgs) = some (.array raw) ∧
      accountInfo raw = (orThrow .badRow (a.positions.mapM id)).map a.toTs := by
  cases h with
  | balance n =>
    refine ⟨[jsInt n], by rw [jsOfMsg, jsOfMsgs_eq_mapM, List.mapM_cons, jsOfMsg_int]; rfl, ?_⟩
    have hbalance : orThrow .badRow (bigint (slot [jsInt n] 0)) = Except.ok (.bigint n) := by
      rw [slot, List.getD_cons_zero, bigint_jsInt]
      rfl
    rw [accountInfo, hbalance]
    rfl
  | @more n m positions margin k msgs later hpositions hmargin hnil hlater hfull =>
    obtain ⟨v, hv, -, hreadPositions⟩ := hpositions.ts fun _ => positionFields_endsBig
    obtain ⟨front, hfront, hreadMargin⟩ := readCellsTs_cells hmargin hnil
    obtain ⟨rest, hrest, hscenario, hfees, hvolume⟩ := hlater.ts
    have hmarginLen := length_marginFields hmargin
    have hfrontLen : front.length = min k 4 := by
      rw [length_of_mapM hfront, List.length_map, List.length_take, hmarginLen]
    have hmore : rest ≠ [] → margin.length ≤ k := by
      intro hne
      refine hfull fun hnone => hne ?_
      rw [hnone] at hrest
      exact (Option.some.inj hrest).symm
    have hlen : rest ≠ [] → front.length = 4 := by
      intro hne
      have hk := hmore hne
      omega
    refine ⟨jsInt n :: v :: front ++ rest, ?_, ?_⟩
    · rw [jsOfMsg, jsOfMsgs_eq_mapM, List.cons_append, List.cons_append, List.mapM_cons,
        List.mapM_cons, jsOfMsg_int, hv, mapM_append_of_some hfront hrest]
      rfl
    · have hbalance : orThrow .badRow (bigint (jsInt n)) = Except.ok (.bigint n) := by
        rw [bigint_jsInt]
        rfl
      have hslot : ∀ i, slot (jsInt n :: v :: front ++ rest) (6 + i) = slot rest i := fun i =>
        slot_later (by omega) hlen
      have hscenarioRead := (congrArg (ifSent (mapRowsOrEmpty scenarioFields)) (hslot 0)).trans hscenario
      have hfeesRead := (congrArg (ifSent bigOrZero) (hslot 1)).trans hfees
      have hvolumeRead := (congrArg (ifSent bigOrZero) (hslot 2)).trans hvolume
      have hmarginRead : orThrow .badRow
          (readCellsTs marginFields ((jsInt n :: v :: front ++ rest).drop 2)) =
          Except.ok (rowEntries Rendering.ts RowField.ts marginFields margin) :=
        congrArg (orThrow .badRow) (hreadMargin rest hmore)
      rw [accountInfo, hmarginRead, hscenarioRead, hfeesRead, hvolumeRead]
      show (orThrow .badRow (bigint (jsInt n)) >>= fun _ =>
        mapRowsOrEmpty positionFields v >>= fun _ => _) = _
      rw [hbalance, hreadPositions]
      cases positions.mapM id <;> rfl

theorem AccountSent.py {msgs : List Msg} {a : Account} (h : AccountSent msgs a) : ∃ raw,
    msgs.mapM Python.pyOfMsg = some raw ∧
      accountOf (.seq raw) = (orThrow .badRow (a.positions.mapM id)).map fun rows => a.toPy rows raw := by
  cases h with
  | balance n =>
    refine ⟨[.int n], by rw [List.mapM_cons, Python.pyOfMsg_int]; rfl, rfl⟩
  | @more n m positions margin k msgs later hpositions hmargin hnil hlater hfull =>
    obtain ⟨v, hv, hreadPositions⟩ := hpositions.py
    obtain ⟨front, hfront, hreadMargin⟩ := readCellsPy_cells hmargin hnil
    obtain ⟨rest, hrest⟩ := hlater.py
    have hmore : rest ≠ [] → margin.length ≤ k := by
      intro hne
      refine hfull fun hnone => hne ?_
      rw [hnone] at hrest
      exact (Option.some.inj hrest).symm
    refine ⟨.int n :: v :: front ++ rest, ?_, ?_⟩
    · rw [List.cons_append, List.cons_append, List.mapM_cons, List.mapM_cons, Python.pyOfMsg_int, hv,
        mapM_append_of_some hfront hrest]
      rfl
    · have hmarginRead : orThrow .badRow (readCellsPy marginFields (front ++ rest)) =
          Except.ok (rowEntries Rendering.py RowField.py marginFields margin) :=
        congrArg (orThrow .badRow) (hreadMargin rest hmore)
      show (iterRows positionFields v >>= fun positions =>
        orThrow .badRow (Python.int (.int n)) >>= fun usdc =>
        orThrow .badRow (readCellsPy marginFields (front ++ rest)) >>= fun margin => _) = _
      rw [hreadPositions, hmarginRead]
      cases positions.mapM id <;> rfl

end Slots

section Reads

variable {decoder : MsgpackDecoder} {toText : Value → Text} {unpacker : Python.Unpacker}
  {res : Response}

theorem queryAccount_tuple {m : Msg} {raw : List JsVal} (h : Carries res m)
    (hraw : jsOfMsg m = some (.array raw)) : queryAccount decoder toText res = accountInfo raw := by
  obtain ⟨json, hfetched, hdecoded⟩ := h.decodeData decoder toText hraw
  rw [queryAccount, hfetched]
  show (Reads.decodeData decoder toText json >>= fun raw => _) = _
  rw [hdecoded]
  rfl

theorem account_value {m : Msg} {raw : Content} (h : Carries res m)
    (hraw : Python.pyOfMsg m = some raw) : account unpacker res = accountOf raw := by
  rw [account, h.py unpacker true hraw]
  rfl

theorem same_margin {margin : List Cell} (h : RowFits marginFields margin) :
    SameFields (rowEntries Rendering.ts RowField.ts marginFields margin)
      (rowEntries Rendering.py RowField.py marginFields margin) :=
  rows_same (by decide) h

theorem AccountSent.margin {msgs : List Msg} {a : Account} (h : AccountSent msgs a) :
    RowFits marginFields a.margin := by
  cases h with
  | balance n => exact rowFits_absent (by decide)
  | more n k hpositions hmargin hnil hlater hfull => exact hmargin

theorem RowsSent.same {fields : List RowField} (hnames : ∀ f ∈ fields, f.ts = snakeToCamel f.py) {m : Msg}
    {rows : List (List Cell)} {shown : List (Option (List Cell))} (h : RowsSent fields m shown)
    (hshown : shown = rows.map some) :
    SameItems (rows.map (rowTs fields)) (rows.map (rowPy fields)) := by
  cases h with
  | nil =>
    rw [List.map_eq_nil_iff.mp hshown.symm]
    trivial
  | rows h => exact same_rows hnames (hshown ▸ h)

theorem eq_map_some {α : Type} {as : List (Option α)} {bs : List α} (h : as.mapM id = some bs) :
    as = bs.map some := by
  induction as generalizing bs with
  | nil =>
    obtain rfl := Option.some.inj h
    rfl
  | cons a as ih =>
    rw [List.mapM_cons] at h
    obtain ⟨b, hb, h⟩ := Option.bind_eq_some_iff.mp h
    obtain ⟨bs', hbs, h⟩ := Option.bind_eq_some_iff.mp h
    obtain rfl := Option.some.inj h
    rw [List.map_cons, ← ih hbs]
    exact congrArg (· :: as) hb

theorem AccountSent.positions {msgs : List Msg} {a : Account} (h : AccountSent msgs a)
    {rows : List (List Cell)} (hrows : a.positions.mapM id = some rows) :
    SameItems (rows.map (rowTs positionFields)) (rows.map (rowPy positionFields)) := by
  cases h with
  | balance n =>
    obtain rfl := Option.some.inj hrows
    trivial
  | more n k hpositions hmargin hnil hlater hfull =>
    exact hpositions.same (by decide) (eq_map_some hrows)

end Reads

/-- Both clients on an account. Python takes an owner without a tuple for an empty account. -/
structure AccountReads (decoder : MsgpackDecoder) (toText : Value → Text) (unpacker : Python.Unpacker) :
    Prop where
  shown : ∀ res msgs (a : Account) rows, Carries res (.arr msgs) → AccountSent msgs a →
    a.positions.mapM id = some rows →
    queryAccount decoder toText res = .ok (a.toTs rows) ∧
    (∃ raw, msgs.mapM Python.pyOfMsg = some raw ∧ account unpacker res = .ok (a.toPy rows raw)) ∧
    SameItems (rows.map (rowTs positionFields)) (rows.map (rowPy positionFields)) ∧
    SameFields (rowEntries Rendering.ts RowField.ts marginFields a.margin)
      (rowEntries Rendering.py RowField.py marginFields a.margin)
  cut : ∀ res msgs (a : Account), Carries res (.arr msgs) → AccountSent msgs a → none ∈ a.positions →
    queryAccount decoder toText res = .error .badRow ∧ account unpacker res = .error .badRow
  absent : ∀ res m, Carries res m → m = .nil ∨ m = .arr [] →
    queryAccount decoder toText res = .error .badRow ∧
      account unpacker res = .ok (accountState [] (.seq []) [] [])
  reported : ∀ res, ReportsError res →
    Fails (queryAccount decoder toText res) ∧ Fails (account unpacker res)
  bare : ∀ res, Bare res → queryAccount decoder toText res = .error .badBase64 ∧
    account unpacker res = .error .missingData

/-- A position of the oldest form. -/
def samplePosition : List Cell :=
  [.bytes bareBytes (List.replicate 20 9), .int 1, .text "Buy", .int 100, .int 5] ++
    List.replicate 9 .nil

def sampleAccount : Account :=
  ⟨70, [some samplePosition], List.replicate 4 .nil, ⟨none, none, none⟩⟩

def sampleSlots : List Msg :=
  .int 70 :: .arr [.arr ((samplePosition.take 5).map Cell.toMsg ++ [])] ::
    ((List.replicate 4 Cell.nil).take 0).map Cell.toMsg ++ []

theorem samplePosition_fits : RowFits positionFields samplePosition := by
  have hmarket : Cell.Fits (.int 1) .number := ⟨by decide, by decide⟩
  have hsent : RowFits (positionFields.take 5) (samplePosition.take 5) :=
    .cons trivial (.cons hmarket (.cons trivial (.cons trivial (.cons trivial .nil))))
  have habsent : RowFits (positionFields.drop 5) (List.replicate 9 .nil) :=
    rowFits_absent (by decide)
  exact List.rel_append hsent habsent

theorem sampleSlots_sent : AccountSent sampleSlots sampleAccount := by
  have hposition : List.Forall₂ (RowSent positionFields)
      [.arr ((samplePosition.take 5).map Cell.toMsg ++ [])] [some samplePosition] :=
    .cons (.whole samplePosition 5 [] samplePosition_fits (by simp [samplePosition]) (by simp)
      (by simp)) .nil
  have hmargin : RowFits marginFields (List.replicate 4 .nil) := rowFits_absent (by decide)
  exact .more 70 0 (.rows hposition) hmargin (by simp) .none (by simp)

theorem sampleSlots_text : envelopeText (.arr sampleSlots) =
    text "kkaRldwAFAkJCQkJCQkJCQkJCQkJCQkJCQkJAaNCdXlkBQ==" := by
  decide +kernel

theorem sampleSlots_fits : (Msg.arr sampleSlots).Fits := by
  have hside : (utf8 "Buy").length = 3 := by decide +kernel
  simp [sampleSlots, samplePosition, Cell.toMsg, ByteForm.toMsg, bareBytes, byteItems, Msg.Fits,
    FitsItems, hside]

end TradingSdk.Reads
