import TradingSdk.Markets.Agreement

namespace TradingSdk

open Serde Msgpack Js

/-- How a column is converted. -/
inductive Column where
  /-- `BigInt` and `int`. -/
  | big
  /-- `Number` and `int`. -/
  | number
  /-- `toBytes` and `_to_bytes`. -/
  | bytes
  /-- Taken over as it is. -/
  | asIs
  /-- As `big`, but zero where it is missing or nil. -/
  | bigOrZero
  /-- As `big`, but absent where it is missing or nil. -/
  | optBig
  deriving DecidableEq

/-- A row of an older version may end in front of the column. -/
def Column.optional : Column → Bool
  | .bigOrZero => true
  | .optBig => true
  | _ => false

/-- A column with the names of its field in TypeScript and in Python. -/
structure RowField where
  ts : String
  py : String
  column : Column

/-- The client's `toBytes`. -/
def Js.bytesOf (v : JsVal) : Option JsVal := (toByteArray v).toOption

/-- A `NaN` of `Number` counts as a failure. -/
def Column.readTs : Column → JsVal → Option JsVal
  | .big, v => bigint v
  | .number, v => Js.number v
  | .bytes, v => bytesOf v
  | .asIs, v => some v
  | .bigOrZero, v => if v.isNullish then some (.bigint 0) else bigint v
  | .optBig, v => Js.optBig v

def Python.int (v : Content) : Option Content := (Python.asInt v).map .int

/-- `slot` is missing where the row ends in front of it. -/
def Column.readPy (column : Column) (slot : Option Content) : Option Content :=
  match column with
  | .big => slot.bind Python.int
  | .number => slot.bind Python.int
  | .bytes => slot.bind Python.toBytes
  | .asIs => slot
  | .bigOrZero => ((slot.filter fun v => !v.isNull).map Python.int).getD (some (.int 0))
  | .optBig => ((slot.filter fun v => !v.isNull).map Python.int).getD (some .null)

/-- The fields of a row in TypeScript, where a missing slot is `undefined`. -/
def readCellsTs : List RowField → List JsVal → Option Entries
  | [], _ => some []
  | f :: fields, row => do
    let v ← f.column.readTs (row.headD .undefined)
    let rest ← readCellsTs fields row.tail
    return (f.ts, v) :: rest

/-- The fields of a row in Python. -/
def readCellsPy : List RowField → List Content → Option (List (String × Content))
  | [], _ => some []
  | f :: fields, row => do
    let v ← f.column.readPy row.head?
    let rest ← readCellsPy fields row.tail
    return (f.py, v) :: rest

/-- A row that is no array has no slots. -/
def readRowTs (fields : List RowField) : JsVal → Option JsVal
  | .array row => (readCellsTs fields row).map .object
  | _ => none

def readRowPy (fields : List RowField) (row : List Content) : Option Content :=
  (readCellsPy fields row).map .map

/-- Rows that are tuples of at least `len` slots. -/
def tuplesPy (len : Nat) (rows : List Content) : List (List Content) :=
  rows.filterMap fun row => match row with
    | .seq items => if len ≤ items.length then some items else none
    | _ => none

/-- A value in a slot. Bytes travel as an array of numbers or as a byte string. -/
inductive Cell where
  | int (n : Int)
  | bytes (form : ByteForm) (bs : Bytes)
  | text (s : String)
  | nil

def Cell.toMsg : Cell → Msg
  | .int n => .int n
  | .bytes form bs => form.toMsg bs
  | .text s => .str (utf8 s)
  | .nil => .nil

/-- The cell has the type of its column, and what becomes a double is exact. -/
def Cell.Fits : Cell → Column → Prop
  | .int n, .number => -2^31 ≤ n ∧ n < 2^53
  | .int _, .big => True
  | .int _, .bigOrZero => True
  | .int _, .optBig => True
  | .bytes _ _, .bytes => True
  | .text _, .asIs => True
  | .nil, column => column.optional = true
  | _, _ => False

/-- A cell as a language shows it. -/
def Cell.render {V : Type} (r : Rendering V) : Cell → Column → V
  | .int n, .number => r.number n
  | .int n, _ => r.bigint n
  | .bytes _ bs, _ => r.bytes bs
  | .text s, _ => r.string s
  | .nil, .bigOrZero => r.bigint 0
  | .nil, _ => r.absent

section Cells

variable {cell : Cell} {column : Column}

theorem number_jsInt_of_lt {n : Int} (hlo : -2^31 ≤ n) (hhi : n < 2^53) :
    Js.number (jsInt n) = some (.number n) := by
  by_cases h : n < 2^32
  · exact number_jsInt hlo h
  · obtain ⟨k, rfl⟩ := Int.eq_ofNat_of_zero_le (show 0 ≤ n by omega)
    have hround : Json.Double.ofRat ((k : Int) : ℚ) = .finite k := by
      have hk : k < 2^53 := by omega
      exact_mod_cast Json.Double.ofRat_natCast hk
    rw [jsInt, if_neg (by omega), Js.number, asNumber]
    simp only [hround]
    rfl

theorem bytesOf_numbers (bs : Bytes) : bytesOf (.array (byteNumbers bs)) = some (.uint8Array bs) := by
  rw [bytesOf, toByteArray, mapM_toUint8]
  rfl

theorem jsOfMsg_bytes (form : ByteForm) (bs : Bytes) : ∃ v, jsOfMsg (form.toMsg bs) = some v ∧
    bytesOf v = some (.uint8Array bs) := by
  cases hform : form.wireScalar with
  | true =>
    have hmsg : form.toMsg bs = .bin bs := by rw [ByteForm.toMsg, hform, if_pos rfl]
    refine ⟨.uint8Array bs, ?_, rfl⟩
    rw [hmsg, jsOfMsg]
  | false => exact ⟨_, jsOfMsg_byteForm hform bs, bytesOf_numbers bs⟩

theorem pyOfMsg_byteForm (form : ByteForm) (bs : Bytes) : ∃ v, Python.pyOfMsg (form.toMsg bs) = some v ∧
    Python.toBytes v = some (.bytes bs) := by
  cases hform : form.wireScalar with
  | true =>
    have hmsg : form.toMsg bs = .bin bs := by rw [ByteForm.toMsg, hform, if_pos rfl]
    refine ⟨.bytes bs, ?_, rfl⟩
    rw [hmsg, Python.pyOfMsg]
  | false =>
    have hmsg : form.toMsg bs = bareBytes.toMsg bs := by
      rw [ByteForm.toMsg, hform]
      rfl
    exact ⟨_, hmsg ▸ Python.pyOfMsg_bytes bs, Python.toBytes_numbers bs⟩

theorem isNullish_jsInt (n : Int) : (jsInt n).isNullish = false := by
  rw [jsInt]
  split_ifs <;> rfl

/-- The MessagePack decoder of TypeScript delivers the cell, and its column shows it. -/
theorem Cell.readTs (h : cell.Fits column) : ∃ v, jsOfMsg cell.toMsg = some v ∧
    column.readTs v = some (cell.render Rendering.ts column) := by
  match cell, column with
  | .int n, .big => exact ⟨_, jsOfMsg_int n, bigint_jsInt n⟩
  | .int n, .number => exact ⟨_, jsOfMsg_int n, number_jsInt_of_lt h.1 h.2⟩
  | .int n, .bigOrZero =>
    refine ⟨_, jsOfMsg_int n, ?_⟩
    rw [Column.readTs, isNullish_jsInt, if_neg Bool.false_ne_true, bigint_jsInt]
    rfl
  | .int n, .optBig =>
    refine ⟨_, jsOfMsg_int n, ?_⟩
    rw [Column.readTs, Js.optBig, Js.optionally, isNullish_jsInt, if_neg Bool.false_ne_true,
      bigint_jsInt]
    rfl
  | .bytes form bs, .bytes => exact jsOfMsg_bytes form bs
  | .text s, .asIs => exact ⟨_, jsOfMsg_utf8 s, rfl⟩
  | .nil, .bigOrZero => exact ⟨.null, rfl, rfl⟩
  | .nil, .optBig => exact ⟨.null, rfl, rfl⟩

theorem Cell.readPy (h : cell.Fits column) : ∃ v, Python.pyOfMsg cell.toMsg = some v ∧
    column.readPy (some v) = some (cell.render Rendering.py column) := by
  match cell, column with
  | .int n, .big => exact ⟨_, Python.pyOfMsg_int n, rfl⟩
  | .int n, .number => exact ⟨_, Python.pyOfMsg_int n, rfl⟩
  | .int n, .bigOrZero => exact ⟨_, Python.pyOfMsg_int n, rfl⟩
  | .int n, .optBig => exact ⟨_, Python.pyOfMsg_int n, rfl⟩
  | .bytes form bs, .bytes => exact pyOfMsg_byteForm form bs
  | .text s, .asIs => exact ⟨_, Python.pyOfMsg_utf8 s, rfl⟩
  | .nil, .bigOrZero => exact ⟨.null, rfl, rfl⟩
  | .nil, .optBig => exact ⟨.null, rfl, rfl⟩

/-- A slot that is missing shows as a nil. -/
theorem Cell.readTs_missing (h : Cell.nil.Fits column) :
    column.readTs .undefined = some (Cell.nil.render Rendering.ts column) := by
  match column with
  | .bigOrZero => rfl
  | .optBig => rfl

theorem Cell.readPy_missing (h : Cell.nil.Fits column) :
    column.readPy none = some (Cell.nil.render Rendering.py column) := by
  match column with
  | .bigOrZero => rfl
  | .optBig => rfl

/-- Both languages show the same value. -/
theorem Cell.same (h : cell.Fits column) :
    SameValue (cell.render Rendering.ts column) (cell.render Rendering.py column) := by
  match cell, column with
  | .int n, .big => rfl
  | .int n, .number => rfl
  | .int n, .bigOrZero => rfl
  | .int n, .optBig => rfl
  | .bytes form bs, .bytes => rfl
  | .text s, .asIs => rfl
  | .nil, .bigOrZero => rfl
  | .nil, .optBig => trivial

end Cells

/-- The cells of a row lie under their columns. -/
def RowFits (fields : List RowField) (cells : List Cell) : Prop :=
  List.Forall₂ (fun f cell => cell.Fits f.column) fields cells

theorem rowFits_absent {fields : List RowField} (h : ∀ f ∈ fields, f.column.optional = true) :
    RowFits fields (List.replicate fields.length .nil) := by
  induction fields with
  | nil => exact .nil
  | cons f fields ih =>
    have hfield : Cell.Fits .nil f.column := h f List.mem_cons_self
    exact .cons hfield (ih fun g hg => h g (List.mem_cons_of_mem _ hg))

def rowEntries {V : Type} (r : Rendering V) (name : RowField → String) (fields : List RowField)
    (cells : List Cell) : List (String × V) :=
  List.zipWith (fun f cell => (name f, cell.render r f.column)) fields cells

/-- A row as TypeScript shows it. -/
def rowTs (fields : List RowField) (cells : List Cell) : JsVal :=
  .object (rowEntries Rendering.ts RowField.ts fields cells)

/-- A row as Python shows it. -/
def rowPy (fields : List RowField) (cells : List Cell) : Content :=
  .map (rowEntries Rendering.py RowField.py fields cells)

/-- The last column that is not optional is a `BigInt`, which has no value for a missing slot. -/
def EndsBig (fields : List RowField) : Prop := ∃ front f rest, fields = front ++ f :: rest ∧
  f.column = .big ∧ ∀ g ∈ rest, g.column.optional = true

/-- No column is optional. -/
def AllRequired (fields : List RowField) : Prop := ∀ f ∈ fields, f.column.optional = false

instance (fields : List RowField) : Decidable (AllRequired fields) := List.decidableBAll _ fields

/-- Both decoders can read a value. -/
def Readable (m : Msg) : Prop := (jsOfMsg m).isSome = true ∧ (Python.pyOfMsg m).isSome = true

/-- A row as an engine may send it: complete up to optional slots at its end, maybe with slots of a
later version behind it, or cut short in front of a slot that is not optional. -/
inductive RowSent (fields : List RowField) : Msg → Option (List Cell) → Prop where
  | whole (cells : List Cell) (k : Nat) (extra : List Msg) (hfits : RowFits fields cells)
      (hnil : ∀ cell ∈ cells.drop k, cell = .nil) (hfull : extra ≠ [] → cells.length ≤ k)
      (hextra : ∀ m ∈ extra, Readable m) :
      RowSent fields (.arr ((cells.take k).map Cell.toMsg ++ extra)) (some cells)
  | short (cells : List Cell) (k : Nat) (hfits : RowFits fields cells)
      (hcut : ∃ f ∈ fields.drop k, f.column.optional = false) :
      RowSent fields (.arr ((cells.take k).map Cell.toMsg)) none

section Rows

variable {fields : List RowField} {cells : List Cell}

theorem readCellsTs_cells (h : RowFits fields cells) {k : Nat}
    (hnil : ∀ cell ∈ cells.drop k, cell = .nil) :
    ∃ row, ((cells.take k).map Cell.toMsg).mapM jsOfMsg = some row ∧
      ∀ more, (more ≠ [] → cells.length ≤ k) →
        readCellsTs fields (row ++ more) = some (rowEntries Rendering.ts RowField.ts fields cells) := by
  induction h generalizing k with
  | nil => exact ⟨[], by rw [List.take_nil]; rfl, fun _ _ => rfl⟩
  | @cons f cell fields cells hcell hrest ih =>
    cases k with
    | zero =>
      have hcellNil : cell = .nil := hnil cell List.mem_cons_self
      obtain ⟨row, hrow, hread⟩ := @ih 0 fun c hc => hnil c (List.mem_cons_of_mem _ hc)
      obtain rfl := Option.some.inj hrow
      refine ⟨[], rfl, fun more hmore => ?_⟩
      have hmoreNil : more = [] := by
        by_contra hne
        exact absurd (hmore hne) (by simp)
      have hrest : readCellsTs fields [] = _ := hread [] fun hne => absurd rfl hne
      rw [hcellNil] at hcell
      rw [hmoreNil, hcellNil, List.append_nil, readCellsTs, List.headD_nil, List.tail_nil,
        Cell.readTs_missing hcell, hrest]
      rfl
    | succ k =>
      obtain ⟨v, hv, hread⟩ := Cell.readTs hcell
      obtain ⟨row, hrow, hcells⟩ := ih hnil
      refine ⟨v :: row, ?_, fun more hmore => ?_⟩
      · rw [List.take_succ_cons, List.map_cons, List.mapM_cons, hv, hrow]
        rfl
      · have hfull : more ≠ [] → cells.length ≤ k := fun hne => Nat.le_of_succ_le_succ (hmore hne)
        rw [List.cons_append, readCellsTs, List.headD_cons, List.tail_cons, hread, hcells more hfull]
        rfl

theorem readCellsPy_cells (h : RowFits fields cells) {k : Nat}
    (hnil : ∀ cell ∈ cells.drop k, cell = .nil) :
    ∃ row, ((cells.take k).map Cell.toMsg).mapM Python.pyOfMsg = some row ∧
      ∀ more, (more ≠ [] → cells.length ≤ k) →
        readCellsPy fields (row ++ more) = some (rowEntries Rendering.py RowField.py fields cells) := by
  induction h generalizing k with
  | nil => exact ⟨[], by rw [List.take_nil]; rfl, fun _ _ => rfl⟩
  | @cons f cell fields cells hcell hrest ih =>
    cases k with
    | zero =>
      have hcellNil : cell = .nil := hnil cell List.mem_cons_self
      obtain ⟨row, hrow, hread⟩ := @ih 0 fun c hc => hnil c (List.mem_cons_of_mem _ hc)
      obtain rfl := Option.some.inj hrow
      refine ⟨[], rfl, fun more hmore => ?_⟩
      have hmoreNil : more = [] := by
        by_contra hne
        exact absurd (hmore hne) (by simp)
      have hrest : readCellsPy fields [] = _ := hread [] fun hne => absurd rfl hne
      rw [hcellNil] at hcell
      rw [hmoreNil, hcellNil, List.append_nil, readCellsPy, List.head?_nil, List.tail_nil,
        Cell.readPy_missing hcell, hrest]
      rfl
    | succ k =>
      obtain ⟨v, hv, hread⟩ := Cell.readPy hcell
      obtain ⟨row, hrow, hcells⟩ := ih hnil
      refine ⟨v :: row, ?_, fun more hmore => ?_⟩
      · rw [List.take_succ_cons, List.map_cons, List.mapM_cons, hv, hrow]
        rfl
      · have hfull : more ≠ [] → cells.length ≤ k := fun hne => Nat.le_of_succ_le_succ (hmore hne)
        rw [List.cons_append, readCellsPy, List.head?_cons, List.tail_cons, hread, hcells more hfull]
        rfl

/-- A `BigInt` column throws on a missing slot. -/
theorem readCellsTs_nil (h : ∃ f ∈ fields, f.column = .big) : readCellsTs fields [] = none := by
  induction fields with
  | nil =>
    obtain ⟨f, hf, -⟩ := h
    cases hf
  | cons f fields ih =>
    rw [readCellsTs, List.headD_nil, List.tail_nil]
    by_cases hf : f.column = .big
    · rw [hf]
      rfl
    · obtain ⟨g, hg, hbig⟩ := h
      rcases List.mem_cons.mp hg with rfl | hg
      · exact absurd hbig hf
      · rw [ih ⟨g, hg, hbig⟩]
        cases f.column.readTs .undefined <;> rfl

/-- A column that is not optional raises on a missing slot. -/
theorem readCellsPy_nil (h : ∃ f ∈ fields, f.column.optional = false) :
    readCellsPy fields [] = none := by
  induction fields with
  | nil =>
    obtain ⟨f, hf, -⟩ := h
    cases hf
  | cons f fields ih =>
    rw [readCellsPy, List.head?_nil, List.tail_nil]
    obtain ⟨g, hg, hrequired⟩ := h
    rcases List.mem_cons.mp hg with rfl | hg
    · have hnone : g.column.readPy none = none := by
        revert hrequired
        cases g.column <;> intro h <;> first | rfl | cases h
      rw [hnone]
      rfl
    · rw [ih ⟨g, hg, hrequired⟩]
      cases f.column.readPy none <;> rfl

/-- In front of a slot that is not optional a `BigInt` is missing as well. -/
theorem EndsBig.exists_big (h : EndsBig fields) {k : Nat}
    (hcut : ∃ f ∈ fields.drop k, f.column.optional = false) : ∃ f ∈ fields.drop k, f.column = .big := by
  obtain ⟨front, f, rest, rfl, hbig, hrest⟩ := h
  refine ⟨f, ?_, hbig⟩
  by_cases hk : k ≤ front.length
  · rw [List.drop_append_of_le_length hk]
    exact List.mem_append_right _ List.mem_cons_self
  · obtain ⟨g, hg, hrequired⟩ := hcut
    obtain ⟨j, rfl⟩ := Nat.exists_eq_add_of_lt (Nat.not_le.mp hk)
    have hdrop : (front ++ f :: rest).drop (front.length + j + 1) = rest.drop j := by
      rw [Nat.add_assoc, List.drop_length_add_append, List.drop_succ_cons]
    rw [hdrop] at hg
    have hoptional := hrest g (List.mem_of_mem_drop hg)
    exact absurd (hoptional.symm.trans hrequired) Bool.true_eq_false_eq_False

/-- A row cut short throws where a `BigInt` is missing. -/
theorem readCellsTs_short (h : RowFits fields cells) {k : Nat}
    (hcut : ∃ f ∈ fields.drop k, f.column = .big) :
    ∃ row, ((cells.take k).map Cell.toMsg).mapM jsOfMsg = some row ∧ readCellsTs fields row = none := by
  induction h generalizing k with
  | nil =>
    obtain ⟨f, hf, -⟩ := hcut
    rw [List.drop_nil] at hf
    cases hf
  | @cons g cell fields cells hcell hrest ih =>
    cases k with
    | zero => exact ⟨[], rfl, readCellsTs_nil hcut⟩
    | succ k =>
      obtain ⟨v, hv, -⟩ := Cell.readTs hcell
      obtain ⟨row, hrow, hnone⟩ := ih hcut
      refine ⟨v :: row, ?_, ?_⟩
      · rw [List.take_succ_cons, List.map_cons, List.mapM_cons, hv, hrow]
        rfl
      · rw [readCellsTs, List.headD_cons, List.tail_cons, hnone]
        cases g.column.readTs v <;> rfl

theorem readCellsPy_short (h : RowFits fields cells) {k : Nat}
    (hcut : ∃ f ∈ fields.drop k, f.column.optional = false) :
    ∃ row, ((cells.take k).map Cell.toMsg).mapM Python.pyOfMsg = some row ∧
      readCellsPy fields row = none := by
  induction h generalizing k with
  | nil =>
    obtain ⟨f, hf, -⟩ := hcut
    rw [List.drop_nil] at hf
    cases hf
  | @cons g cell fields cells hcell hrest ih =>
    cases k with
    | zero => exact ⟨[], rfl, readCellsPy_nil hcut⟩
    | succ k =>
      obtain ⟨v, hv, -⟩ := Cell.readPy hcell
      obtain ⟨row, hrow, hnone⟩ := ih hcut
      refine ⟨v :: row, ?_, ?_⟩
      · rw [List.take_succ_cons, List.map_cons, List.mapM_cons, hv, hrow]
        rfl
      · rw [readCellsPy, List.head?_cons, List.tail_cons, hnone]
        cases g.column.readPy (some v) <;> rfl

theorem length_of_mapM {α β : Type} {f : α → Option β} {as : List α} {bs : List β}
    (h : as.mapM f = some bs) : bs.length = as.length := by
  induction as generalizing bs with
  | nil =>
    obtain rfl := Option.some.inj h
    rfl
  | cons a as ih =>
    rw [List.mapM_cons] at h
    obtain ⟨b, -, h⟩ := Option.bind_eq_some_iff.mp h
    obtain ⟨bs', hbs, h⟩ := Option.bind_eq_some_iff.mp h
    obtain rfl := Option.some.inj h
    rw [List.length_cons, List.length_cons, ih hbs]

theorem mapM_append_of_some {α β : Type} {f : α → Option β} {as as' : List α} {bs bs' : List β}
    (h : as.mapM f = some bs) (h' : as'.mapM f = some bs') :
    (as ++ as').mapM f = some (bs ++ bs') := by
  rw [List.mapM_append, h, h']
  rfl

theorem RowSent.ts {m : Msg} {shown : Option (List Cell)} (h : RowSent fields m shown)
    (hends : shown = none → EndsBig fields) : ∃ row, jsOfMsg m = some (.array row) ∧
      readRowTs fields (.array row) = shown.map (rowTs fields) := by
  cases h with
  | whole cells k extra hfits hnil hfull hextra =>
    obtain ⟨row, hrow, hread⟩ := readCellsTs_cells hfits hnil
    obtain ⟨more, hmore⟩ := Option.isSome_iff_exists.mp
      (mapM_isSome_iff.mpr fun m hm => (hextra m hm).1)
    have hslots : more ≠ [] → cells.length ≤ k := by
      intro hne
      refine hfull fun hnone => hne ?_
      rw [hnone] at hmore
      exact (Option.some.inj hmore).symm
    refine ⟨row ++ more, ?_, ?_⟩
    · rw [jsOfMsg, jsOfMsgs_eq_mapM, mapM_append_of_some hrow hmore]
      rfl
    · rw [readRowTs, hread more hslots]
      rfl
  | short cells k hfits hcut =>
    obtain ⟨row, hrow, hread⟩ := readCellsTs_short hfits ((hends rfl).exists_big hcut)
    refine ⟨row, ?_, ?_⟩
    · rw [jsOfMsg, jsOfMsgs_eq_mapM, hrow]
      rfl
    · rw [readRowTs, hread]
      rfl

theorem RowSent.py {m : Msg} {shown : Option (List Cell)} (h : RowSent fields m shown) : ∃ items,
    Python.pyOfMsg m = some (.seq items) ∧ readRowPy fields items = shown.map (rowPy fields) ∧
      (shown = none → items.length < fields.length) := by
  cases h with
  | whole cells k extra hfits hnil hfull hextra =>
    obtain ⟨row, hrow, hread⟩ := readCellsPy_cells hfits hnil
    obtain ⟨more, hmore⟩ := Option.isSome_iff_exists.mp
      (mapM_isSome_iff.mpr fun m hm => (hextra m hm).2)
    have hslots : more ≠ [] → cells.length ≤ k := by
      intro hne
      refine hfull fun hnone => hne ?_
      rw [hnone] at hmore
      exact (Option.some.inj hmore).symm
    refine ⟨row ++ more, Python.pyOfMsg_arr (mapM_append_of_some hrow hmore), ?_, fun h => by cases h⟩
    rw [readRowPy, hread more hslots]
    rfl
  | short cells k hfits hcut =>
    obtain ⟨row, hrow, hread⟩ := readCellsPy_short hfits hcut
    refine ⟨row, Python.pyOfMsg_arr hrow, ?_, fun _ => ?_⟩
    · rw [readRowPy, hread]
      rfl
    · obtain ⟨f, hf, -⟩ := hcut
      have hk := List.length_pos_of_mem hf
      have hlen := length_of_mapM hrow
      rw [List.length_drop] at hk
      rw [List.length_map, List.length_take] at hlen
      omega

/-- Without optional columns the rows that Python can read are the long ones. -/
theorem readCellsPy_length (hall : AllRequired fields) {row : List Content} :
    (readCellsPy fields row).isSome = true → fields.length ≤ row.length := by
  induction fields generalizing row with
  | nil => exact fun _ => Nat.zero_le _
  | cons f fields ih =>
    intro h
    cases row with
    | nil =>
      rw [readCellsPy_nil ⟨f, List.mem_cons_self, hall f List.mem_cons_self⟩] at h
      cases h
    | cons v row =>
      rw [readCellsPy, List.tail_cons] at h
      have hrest : (readCellsPy fields row).isSome = true := by
        cases hread : readCellsPy fields row with
        | some entries => rfl
        | none =>
          rw [hread] at h
          cases hcell : f.column.readPy (v :: row).head? with
          | none =>
            rw [hcell] at h
            cases h
          | some w =>
            rw [hcell] at h
            cases h
      exact Nat.succ_le_succ (ih (fun g hg => hall g (List.mem_cons_of_mem _ hg)) hrest)

theorem length_of_readRowPy (hall : AllRequired fields) {row : List Content} {v : Content}
    (h : readRowPy fields row = some v) : fields.length ≤ row.length := by
  have hcells := Option.isSome_of_eq_some h
  rw [readRowPy, Option.isSome_map] at hcells
  exact readCellsPy_length hall hcells

/-- A list of rows in TypeScript: one that is cut short takes the whole list with it. -/
theorem rows_ts {msgs : List Msg} {shown : List (Option (List Cell))}
    (h : List.Forall₂ (RowSent fields) msgs shown) (hends : none ∈ shown → EndsBig fields) :
    ∃ rows, msgs.mapM jsOfMsg = some rows ∧
      rows.mapM (readRowTs fields) = (shown.mapM id).map (List.map (rowTs fields)) := by
  induction h with
  | nil => exact ⟨[], rfl, rfl⟩
  | @cons m cells msgs shown hrow hrest ih =>
    obtain ⟨row, hv, hread⟩ := hrow.ts fun h => hends (h ▸ List.mem_cons_self)
    obtain ⟨rows, hrows, hreads⟩ := ih fun h => hends (List.mem_cons_of_mem _ h)
    refine ⟨.array row :: rows, ?_, ?_⟩
    · rw [List.mapM_cons, hv, hrows]
      rfl
    · rw [List.mapM_cons, List.mapM_cons, hread, hreads]
      cases cells with
      | none => rfl
      | some cells => cases shown.mapM id <;> rfl

theorem tuplesPy_cons (len : Nat) (items : List Content) (rows : List Content) :
    tuplesPy len (.seq items :: rows) =
      if len ≤ items.length then items :: tuplesPy len rows else tuplesPy len rows := by
  by_cases h : len ≤ items.length <;> simp only [tuplesPy, List.filterMap_cons, h, if_true, if_false]

/-- So it does in Python where every tuple counts as a row. -/
theorem rows_py {msgs : List Msg} {shown : List (Option (List Cell))}
    (h : List.Forall₂ (RowSent fields) msgs shown) : ∃ rows, msgs.mapM Python.pyOfMsg = some rows ∧
      (tuplesPy 0 rows).mapM (readRowPy fields) = (shown.mapM id).map (List.map (rowPy fields)) := by
  induction h with
  | nil => exact ⟨[], rfl, rfl⟩
  | @cons m cells msgs shown hrow hrest ih =>
    obtain ⟨items, hitems, hread, -⟩ := hrow.py
    obtain ⟨rows, hrows, hreads⟩ := ih
    refine ⟨.seq items :: rows, ?_, ?_⟩
    · rw [List.mapM_cons, hitems, hrows]
      rfl
    · rw [tuplesPy_cons, if_pos (Nat.zero_le _), List.mapM_cons, List.mapM_cons, hread, hreads]
      cases cells with
      | none => rfl
      | some cells => cases shown.mapM id <;> rfl

/-- Where only long tuples count as rows, one that is cut short is left out. -/
theorem longRows_py {msgs : List Msg} {shown : List (Option (List Cell))}
    (h : List.Forall₂ (RowSent fields) msgs shown) (hall : AllRequired fields) :
    ∃ rows, msgs.mapM Python.pyOfMsg = some rows ∧
      (tuplesPy fields.length rows).mapM (readRowPy fields) =
        some ((shown.filterMap id).map (rowPy fields)) := by
  induction h with
  | nil => exact ⟨[], rfl, rfl⟩
  | @cons m cells msgs shown hrow hrest ih =>
    obtain ⟨items, hitems, hread, hshort⟩ := hrow.py
    obtain ⟨rows, hrows, hreads⟩ := ih
    refine ⟨.seq items :: rows, ?_, ?_⟩
    · rw [List.mapM_cons, hitems, hrows]
      rfl
    · rw [tuplesPy_cons]
      cases cells with
      | none =>
        rw [if_neg (Nat.not_le.mpr (hshort rfl)), hreads]
        rfl
      | some cells =>
        have hlen : fields.length ≤ items.length := length_of_readRowPy hall hread
        rw [if_pos hlen, List.mapM_cons, hread, hreads]
        rfl

/-- Both languages show the same fields, each under its own name. -/
theorem rows_same (hnames : ∀ f ∈ fields, f.ts = snakeToCamel f.py) (h : RowFits fields cells) :
    SameValue (rowTs fields cells) (rowPy fields cells) := by
  show SameFields _ _
  induction h with
  | nil => trivial
  | cons hcell hrest ih =>
    exact ⟨hnames _ List.mem_cons_self, Cell.same hcell,
      ih fun f hf => hnames f (List.mem_cons_of_mem _ hf)⟩

theorem RowSent.same (hnames : ∀ f ∈ fields, f.ts = snakeToCamel f.py) {m : Msg} {cells : List Cell}
    (h : RowSent fields m (some cells)) : SameValue (rowTs fields cells) (rowPy fields cells) := by
  cases h with
  | whole _ k extra hfits hnil hfull hextra => exact rows_same hnames hfits

end Rows

end TradingSdk
