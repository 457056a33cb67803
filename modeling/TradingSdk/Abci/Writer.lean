import TradingSdk.Abci.Event
import TradingSdk.Lib.Prefixed

namespace TradingSdk

open Serde Display

structure AbciEventWriter where
  buf : Bytes

namespace AbciEventWriter

def new : AbciEventWriter := ⟨[]⟩

def extend (w : AbciEventWriter) (bytes : Bytes) : AbciEventWriter := ⟨w.buf ++ bytes⟩

/-- `buf[start..start + 2].copy_from_slice(..)`. -/
def patch (w : AbciEventWriter) (start : Nat) (bytes : Bytes) : AbciEventWriter :=
  ⟨w.buf.take start ++ bytes ++ w.buf.drop (start + 2)⟩

def writeStr (w : AbciEventWriter) (s : String) : AbciEventWriter :=
  (w.extend (le16 (utf8 s).length)).extend (utf8 s)

def beginEvent (w : AbciEventWriter) (eventType : String) (attrCount : Nat) : AbciEventWriter :=
  (w.writeStr eventType).extend (le16 attrCount)

/-- A text behind a placeholder that is overwritten with its length afterwards. -/
def writePatched (w : AbciEventWriter) (text : String) : AbciEventWriter :=
  let start := w.buf.length
  let w := w.extend [0, 0]
  let before := w.buf.length
  let w := w.extend (utf8 text)
  w.patch start (le16 (w.buf.length - before))

def writeAttrU64 (w : AbciEventWriter) (key : String) (value : UInt64) : AbciEventWriter :=
  (w.writeStr key).writePatched (display value)

def hexChars : Bytes :=
  [48, 49, 50, 51, 52, 53, 54, 55, 56, 57, 97, 98, 99, 100, 101, 102]

def writeAttrHex (w : AbciEventWriter) (key : String) (bytes : Bytes) : AbciEventWriter :=
  let w := (w.writeStr key).extend (le16 (bytes.length * 2))
  bytes.foldl (fun w (b : UInt8) =>
    (w.extend [hexChars.getD (b >>> 4).toNat 0]).extend [hexChars.getD (b &&& 0x0f).toNat 0]) w

def writeAttrDisplay (w : AbciEventWriter) (key : String) (text : String) : AbciEventWriter :=
  (w.writeStr key).writePatched text

/-- The statement that the derive macro generates for a field. -/
def writeField (w : AbciEventWriter) (key : String) : AbciField → AbciEventWriter
  | .byteArray bytes => w.writeAttrHex key bytes
  | .vecU8 bytes => w.writeAttrHex key bytes
  | .u64 n => w.writeAttrU64 key n
  | .u32 n => w.writeAttrU64 key n.toUInt64
  | .i64 n => w.writeAttrDisplay key (display n)
  | .other text => w.writeAttrDisplay key text

end AbciEventWriter

def toSnakeChars (prev : Option Char) : List Char → List Char
  | [] => []
  | c :: rest =>
    if c.isUpper then
      let prevIsLowerOrDigit := prev.any fun p => p.isLower || p.isDigit
      let nextIsLower := rest.head?.any Char.isLower
      if prev.isSome && (prevIsLowerOrDigit || nextIsLower) then
        '_' :: c.toLower :: toSnakeChars (some c) rest
      else c.toLower :: toSnakeChars (some c) rest
    else c :: toSnakeChars (some c) rest

def toSnakeCase (s : String) : String := String.ofList (toSnakeChars none s.toList)

def Event.encodeAbci (e : Event) (w : AbciEventWriter) : AbciEventWriter :=
  e.fields.foldl (fun w (key, field) => w.writeField key field)
    (w.beginEvent (toSnakeCase e.variant) e.fields.length)

/-- Events written one after another. -/
def encodeEvents (es : List Event) : Bytes :=
  (es.foldl (fun w e => e.encodeAbci w) AbciEventWriter.new).buf

example : toSnakeCase "BinaryIssuedFromMTM" = "binary_issued_from_mtm" := by decide
example : toSnakeCase "HlpAbsorbed" = "hlp_absorbed" := by decide

/-- Lower-case hexadecimal digits, two a byte. -/
def hexText (bytes : Bytes) : String :=
  String.ofList (bytes.flatMap fun b => [Nat.digitChar (b.toNat / 16), Nat.digitChar (b.toNat % 16)])

theorem utf8EncodeChar_digitChar : ∀ n < 16,
    String.utf8EncodeChar (Nat.digitChar n) = [AbciEventWriter.hexChars.getD n 0] := by
  decide

theorem utf8_hexText_cons (b : UInt8) (bs : Bytes) : utf8 (hexText (b :: bs)) =
    AbciEventWriter.hexChars.getD (b >>> 4).toNat 0 ::
      AbciEventWriter.hexChars.getD (b &&& 0x0f).toNat 0 :: utf8 (hexText bs) := by
  have hb := b.toNat_lt
  have hhigh : (b >>> 4).toNat = b.toNat / 16 := by
    rw [UInt8.toNat_shiftRight]
    exact Nat.shiftRight_eq_div_pow _ 4
  have hlow : (b &&& 0x0f).toNat = b.toNat % 16 := by
    rw [UInt8.toNat_and]
    exact Nat.and_two_pow_sub_one_eq_mod _ 4
  rw [hexText, utf8_ofList, hexText, utf8_ofList, hhigh, hlow]
  simp only [List.flatMap_cons, List.flatMap_append, List.flatMap_nil, List.append_nil,
    utf8EncodeChar_digitChar _ (show b.toNat / 16 < 16 by omega),
    utf8EncodeChar_digitChar _ (show b.toNat % 16 < 16 by omega)]
  rfl

/-- What a reader of an attribute should see: a decimal number, hexadecimal digits or the text. -/
def AbciField.text : AbciField → String
  | .byteArray bytes => hexText bytes
  | .vecU8 bytes => hexText bytes
  | .u64 n => display n
  | .u32 n => display n
  | .i64 n => display n
  | .other text => text

theorem length_utf8_hexText (bytes : Bytes) : (utf8 (hexText bytes)).length = bytes.length * 2 := by
  induction bytes with
  | nil => rfl
  | cons b bs ih =>
    rw [utf8_hexText_cons, List.length_cons, List.length_cons, List.length_cons, ih]
    omega

namespace AbciEventWriter

variable (w : AbciEventWriter)

theorem patch_length (pre rest : Bytes) (a b : UInt8) (bytes : Bytes) :
    (AbciEventWriter.mk (pre ++ ([a, b] ++ rest))).patch pre.length bytes =
      ⟨pre ++ (bytes ++ rest)⟩ := by
  have hdrop : (pre ++ ([a, b] ++ rest)).drop (pre.length + 2) = rest := by
    rw [← List.drop_drop, List.drop_left]
    rfl
  rw [patch, hdrop, List.take_left, List.append_assoc]

theorem buf_writeStr (s : String) : (w.writeStr s).buf = w.buf ++ prefixed (utf8 s) :=
  List.append_assoc _ _ _

theorem buf_beginEvent (eventType : String) (attrCount : Nat) :
    (w.beginEvent eventType attrCount).buf =
      w.buf ++ (prefixed (utf8 eventType) ++ le16 attrCount) := by
  rw [← List.append_assoc, ← buf_writeStr]
  rfl

theorem buf_writePatched (text : String) : (w.writePatched text).buf = w.buf ++ prefixed (utf8 text) := by
  have hlen : ((w.extend [0, 0]).extend (utf8 text)).buf.length - (w.extend [0, 0]).buf.length =
      (utf8 text).length := by
    simp only [extend, List.length_append]
    omega
  have hbuf : (w.extend [0, 0]).extend (utf8 text) = ⟨w.buf ++ ([0, 0] ++ utf8 text)⟩ := by
    simp [extend]
  rw [writePatched, hlen, hbuf, patch_length]
  rfl

theorem buf_writeAttrHex (key : String) (bytes : Bytes) :
    (w.writeAttrHex key bytes).buf = w.buf ++ (prefixed (utf8 key) ++ prefixed (utf8 (hexText bytes))) := by
  have hloop (w : AbciEventWriter) : (bytes.foldl (fun w (b : UInt8) =>
      (w.extend [hexChars.getD (b >>> 4).toNat 0]).extend [hexChars.getD (b &&& 0x0f).toNat 0]) w).buf =
        w.buf ++ utf8 (hexText bytes) := by
    induction bytes generalizing w with
    | nil => exact (List.append_nil _).symm
    | cons b bs ih =>
      rw [List.foldl_cons, ih, utf8_hexText_cons]
      simp [extend]
  have hvalue : prefixed (utf8 (hexText bytes)) = le16 (bytes.length * 2) ++ utf8 (hexText bytes) := by
    rw [prefixed, length_utf8_hexText]
  rw [writeAttrHex, hloop, extend, buf_writeStr, hvalue]
  simp only [List.append_assoc]

/-- Every routine appends the key and the text of its field, each behind its length. -/
theorem buf_writeField (key : String) (field : AbciField) :
    (w.writeField key field).buf =
      w.buf ++ (prefixed (utf8 key) ++ prefixed (utf8 field.text)) := by
  have hdisplay (text : String) : (w.writeAttrDisplay key text).buf =
      w.buf ++ (prefixed (utf8 key) ++ prefixed (utf8 text)) := by
    rw [writeAttrDisplay, buf_writePatched, buf_writeStr, List.append_assoc]
  cases field with
  | byteArray bytes => exact w.buf_writeAttrHex key bytes
  | vecU8 bytes => exact w.buf_writeAttrHex key bytes
  | u64 n => exact hdisplay (display n)
  | u32 n => exact hdisplay (display n)
  | i64 n => exact hdisplay (display n)
  | other text => exact hdisplay text

end AbciEventWriter

def attrBytes (attr : String × AbciField) : Bytes :=
  prefixed (utf8 attr.1) ++ prefixed (utf8 attr.2.text)

/-- The bytes of one event. -/
def Event.bytes (e : Event) : Bytes :=
  prefixed (utf8 (toSnakeCase e.variant)) ++ (le16 e.fields.length ++ e.fields.flatMap attrBytes)

theorem buf_writeFields (fields : List (String × AbciField)) (w : AbciEventWriter) :
    (fields.foldl (fun w (key, field) => w.writeField key field) w).buf =
      w.buf ++ fields.flatMap attrBytes := by
  induction fields generalizing w with
  | nil => exact (List.append_nil _).symm
  | cons attr fields ih =>
    rw [List.foldl_cons, ih, AbciEventWriter.buf_writeField, List.flatMap_cons, List.append_assoc]
    rfl

theorem Event.buf_encodeAbci (e : Event) (w : AbciEventWriter) :
    (e.encodeAbci w).buf = w.buf ++ e.bytes := by
  rw [encodeAbci, buf_writeFields, AbciEventWriter.buf_beginEvent, bytes]
  simp only [List.append_assoc]

theorem encodeEvents_eq (es : List Event) : encodeEvents es = es.flatMap Event.bytes := by
  have hloop (w : AbciEventWriter) :
      (es.foldl (fun w e => e.encodeAbci w) w).buf = w.buf ++ es.flatMap Event.bytes := by
    induction es generalizing w with
    | nil => exact (List.append_nil _).symm
    | cons e es ih => rw [List.foldl_cons, ih, e.buf_encodeAbci, List.flatMap_cons, List.append_assoc]
  exact hloop .new

end TradingSdk
