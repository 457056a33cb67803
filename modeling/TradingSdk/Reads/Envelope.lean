import TradingSdk.Client.SubmitAction
import TradingSdk.Lib.Base64
import TradingSdk.Markets.Agreement

namespace TradingSdk.Reads

open Serde Msgpack Js Json Client

/-- Why a read fails. -/
inductive ReadError where
  | notJson
  | typeError
  /-- The answer is no success, or carries an error that is the message if there is one. -/
  | api (status : Nat) (message : Option Value)
  | gateway (message : Option Value)
  | missingData
  | badBase64
  | badMsgpack (message : String)
  /-- A conversion of a row throws. -/
  | badRow
  /-- A decoder of the governance reads refuses the value. -/
  | governance (e : JsError)

def orThrow {α : Type} (e : ReadError) : Option α → Except ReadError α
  | none => .error e
  | some a => .ok a

def Fails {α : Type} (read : Except ReadError α) : Prop := ∃ e, read = .error e

/-- The characters of a JSON text. A lone surrogate becomes one that no alphabet has. -/
def chars (s : Text) : List Char := s.map Char.ofNat

section TypeScript

variable (decoder : MsgpackDecoder) (toText : Value → Text)

/-- `fetchApiJson` and `postInfoJson` from the response on. -/
def fetchApiJson (res : Response) : Except ReadError Value :=
  match jsonParse res.body with
  | none => .error .notJson
  | some .null => .error .typeError
  | some json =>
    if !res.isOk || isTruthy (json.get "error") then
      .error (.api res.status (if isNullish (json.get "error") then none else json.get "error"))
    else .ok json

/-- `String(json.data)`, which `atob` applies to its argument. `toText` renders what is no string. -/
def dataText (json : Value) : Text :=
  match json.get "data" with
  | none => text "undefined"
  | some (.string s) => s
  | some v => toText v

def fromBase64 (s : Text) : Except ReadError Bytes := orThrow .badBase64 (Base64.atob (chars s))

def msgpackDecode (bytes : Bytes) : Except ReadError JsVal := (decoder.decode bytes).mapError .badMsgpack

/-- `msgpackDecoder.decode(fromBase64(json.data))`. -/
def decodeData (json : Value) : Except ReadError JsVal := do
  let bytes ← fromBase64 (dataText toText json)
  msgpackDecode decoder bytes

end TypeScript

section Python

variable (unpacker : Python.Unpacker)

/-- `_check_response`: everything from 300 on raises. -/
def checkResponse (res : Response) : Except ReadError Unit :=
  if 300 ≤ res.status then .error (.api res.status none) else .ok ()

/-- `base64.b64decode`: a text must be ASCII, and other JSON values are no text. -/
def b64decode : Value → Except ReadError Bytes
  | .string s =>
    if s.all (· < 128) then orThrow .badBase64 (Base64.a2bBase64 [] 0 (chars s))
    else .error .badBase64
  | _ => .error .typeError

/-- `_decode_envelope`. -/
def decodeEnvelope (payload : Value) (requireData : Bool) : Except ReadError Content :=
  match payload with
  | .object _ =>
    if isTruthyPy (payload.get "error") then .error (.gateway (payload.get "error"))
    else match payload.get "data" with
      | none => if requireData then .error .missingData else .ok .null
      | some data =>
        if isTruthyPy (some data) then do
          let bytes ← b64decode data
          (unpacker.unpackb bytes).mapError .badMsgpack
        else .ok .null
  | _ => if requireData then .error .missingData else .ok .null

/-- `_post_info` and `_get_data` from the response on. -/
def readData (requireData : Bool) (res : Response) : Except ReadError Content := do
  checkResponse res
  let payload ← (jsonLoads res.body).mapError fun _ => .notJson
  decodeEnvelope unpacker payload requireData

end Python

/-- The base64 text of a MessagePack value. -/
def envelopeText (m : Msg) : Text := (Base64.encode m.encode).map Char.toNat

/-- A success whose body is any JSON text of an object without an error. -/
structure Answers (res : Response) (members : Members) : Prop where
  status : 200 ≤ res.status ∧ res.status ≤ 299
  body : jsonLoads res.body = .ok (.object members)
  standard : (Value.object members).hasConstant = false
  noError : isNullish ((Value.object members).get "error") = true

/-- The answer carries a value in `data`. -/
def Carries (res : Response) (m : Msg) : Prop := m.Fits ∧ ∃ members, Answers res members ∧
  (Value.object members).get "data" = some (.string (envelopeText m))

/-- The answer has no `data`. -/
def Bare (res : Response) : Prop := ∃ members, Answers res members ∧
  (Value.object members).get "data" = none

theorem chars_map (cs : List Char) : chars (cs.map Char.toNat) = cs := by
  rw [chars, List.map_map]
  exact (List.map_congr_left fun c _ => Char.ofNat_toNat c).trans (List.map_id cs)

theorem letter_lt (n : Nat) (h : n < 64) : (Base64.letter n).toNat < 128 := by
  revert n
  decide

theorem envelopeText_ascii (m : Msg) : (envelopeText m).all (· < 128) = true := by
  obtain ⟨letters, pads, htext, hsextets, -⟩ := Base64.encode_spells m.encode
  rw [List.all_eq_true]
  intro n hn
  obtain ⟨c, hc, rfl⟩ := List.mem_map.mp hn
  rw [htext, List.mem_append] at hc
  obtain hc | hc := hc
  · obtain ⟨s, hs, rfl⟩ := List.mem_map.mp hc
    exact decide_eq_true (letter_lt s (hsextets s hs))
  · rw [List.eq_of_mem_replicate hc]
    rfl

theorem isNullish_falsy {v : Option Value} (h : isNullish v = true) :
    isTruthy v = false ∧ isTruthyPy v = false := by
  match v with
  | none => exact ⟨rfl, rfl⟩
  | some .null => exact ⟨rfl, rfl⟩

theorem envelopeText_ne_nil (m : Msg) : envelopeText m ≠ [] := by
  intro h
  have hnil := List.map_eq_nil_iff.mp h
  have hback := Base64.atob_encode m.encode
  have hempty : Base64.atob [] = some [] := by decide
  rw [hnil, hempty] at hback
  exact List.ne_nil_of_length_pos (encode_length_pos m) (Option.some.inj hback).symm

section Answers

variable {res : Response} {members : Members}

theorem Answers.parsed (h : Answers res members) : jsonParse res.body = some (.object members) := by
  rw [jsonParse, parse_standard h.body, h.standard]
  rfl

theorem Answers.fetched (h : Answers res members) : fetchApiJson res = .ok (.object members) := by
  have hok : res.isOk = true := by
    rw [Response.isOk, decide_eq_true h.status.1, decide_eq_true h.status.2]
    rfl
  rw [fetchApiJson, h.parsed]
  simp only [hok, (isNullish_falsy h.noError).1]
  rfl

theorem Answers.read (h : Answers res members) (unpacker : Python.Unpacker) (requireData : Bool) :
    readData unpacker requireData res = decodeEnvelope unpacker (.object members) requireData := by
  have hstatus : checkResponse res = .ok () := by
    have hhi := h.status.2
    rw [checkResponse, if_neg (by omega)]
  rw [readData, hstatus, h.body]
  rfl

/-- The TypeScript client finds the value. -/
theorem Carries.ts {m : Msg} (h : Carries res m) (decoder : MsgpackDecoder) (toText : Value → Text)
    {v : JsVal} (hv : jsOfMsg m = some v) : ∃ members, Answers res members ∧
      isTruthy ((Value.object members).get "data") = true ∧
      fromBase64 (dataText toText (.object members)) = .ok m.encode ∧ decoder.decode m.encode = .ok v := by
  obtain ⟨hfits, members, hanswers, hdata⟩ := h
  refine ⟨members, hanswers, ?_, ?_, decoder.decode_encode m v hfits hv⟩
  · rw [hdata]
    cases htext : envelopeText m with
    | nil => exact absurd htext (envelopeText_ne_nil m)
    | cons c cs => rfl
  · have htext : dataText toText (.object members) = envelopeText m := by rw [dataText, hdata]
    rw [htext, fromBase64, envelopeText, chars_map, Base64.atob_encode]
    rfl

/-- So does the Python client. -/
theorem Carries.py {m : Msg} (h : Carries res m) (unpacker : Python.Unpacker) (requireData : Bool)
    {v : Content} (hv : Python.pyOfMsg m = some v) : readData unpacker requireData res = .ok v := by
  obtain ⟨hfits, members, hanswers, hdata⟩ := h
  have htruthy : isTruthyPy (some (.string (envelopeText m))) = true := by
    cases htext : envelopeText m with
    | nil => exact absurd htext (envelopeText_ne_nil m)
    | cons c cs => rfl
  have hbytes : b64decode (.string (envelopeText m)) = .ok m.encode := by
    rw [b64decode, if_pos (envelopeText_ascii m), envelopeText, chars_map, Base64.a2bBase64_encode]
    rfl
  rw [hanswers.read, decodeEnvelope, (isNullish_falsy hanswers.noError).2, hdata]
  simp only [htruthy, hbytes]
  show (unpacker.unpackb m.encode).mapError _ = _
  rw [unpacker.unpackb_encode m v hfits hv]
  rfl

/-- Without `data` the text `undefined` is decoded, and is no base64. -/
theorem Bare.ts (h : Bare res) (toText : Value → Text) : ∃ members, Answers res members ∧
    (Value.object members).get "data" = none ∧
    fromBase64 (dataText toText (.object members)) = .error .badBase64 := by
  obtain ⟨members, hanswers, hdata⟩ := h
  have hundefined : Base64.atob (chars (text "undefined")) = none := by decide
  refine ⟨members, hanswers, hdata, ?_⟩
  rw [dataText, hdata, fromBase64]
  simp only [hundefined]
  rfl

theorem Bare.py (h : Bare res) (unpacker : Python.Unpacker) (requireData : Bool) :
    readData unpacker requireData res = if requireData then .error .missingData else .ok .null := by
  obtain ⟨members, hanswers, hdata⟩ := h
  rw [hanswers.read, decodeEnvelope, (isNullish_falsy hanswers.noError).2, hdata]
  rfl

end Answers

/-- The body is an object with this text under `data` and without an error. -/
def isEnvelope (body b64 : String) : Bool :=
  match jsonLoads body with
  | .ok (.object members) => (Value.object members).hasConstant = false &&
    isText ((Value.object members).get "data") b64 && isNullish ((Value.object members).get "error")
  | _ => false

theorem carries_of_isEnvelope {res : Response} {m : Msg} {b64 : String}
    (hstatus : 200 ≤ res.status ∧ res.status ≤ 299) (hbody : isEnvelope res.body b64 = true)
    (hfits : m.Fits) (htext : envelopeText m = text b64) : Carries res m := by
  rw [isEnvelope] at hbody
  split at hbody
  · next members hloads =>
    simp only [Bool.and_eq_true, decide_eq_true_eq, isText_iff] at hbody
    obtain ⟨⟨hconstant, hdata⟩, herror⟩ := hbody
    exact ⟨hfits, members, ⟨hstatus, hloads, hconstant, herror⟩, by rw [hdata, htext]⟩
  · cases hbody

/-- A status that is no success, or an object with a text under `error`. -/
def ReportsError (res : Response) : Prop :=
  300 ≤ res.status ∨ ∃ members s, jsonLoads res.body = .ok (.object members) ∧
    (Value.object members).hasConstant = false ∧ s ≠ [] ∧
    (Value.object members).get "error" = some (.string s)

theorem ReportsError.ts {res : Response} (h : ReportsError res) :
    ∃ e, fetchApiJson res = .error e := by
  cases hparse : jsonParse res.body with
  | none => exact ⟨.notJson, by rw [fetchApiJson, hparse]⟩
  | some json =>
    have hthrows : (!res.isOk || isTruthy (json.get "error")) = true := by
      obtain hstatus | ⟨members, s, hloads, hconstant, hne, herror⟩ := h
      · have hok : res.isOk = false := by
          rw [Response.isOk, decide_eq_false (show ¬ res.status ≤ 299 by omega), Bool.and_false]
        rw [hok]
        rfl
      · rw [jsonParse, parse_standard hloads, hconstant] at hparse
        obtain rfl := Option.some.inj hparse
        rw [herror]
        cases s with
        | nil => exact absurd rfl hne
        | cons c cs => exact Bool.or_true _
    by_cases hnull : json = .null
    · exact ⟨.typeError, by rw [fetchApiJson, hparse, hnull]⟩
    · refine ⟨.api res.status (if isNullish (json.get "error") then none else json.get "error"), ?_⟩
      rw [fetchApiJson, hparse]
      simp only [hthrows, if_true]

theorem ReportsError.py {res : Response} (h : ReportsError res) (unpacker : Python.Unpacker)
    (requireData : Bool) : ∃ e, readData unpacker requireData res = .error e := by
  by_cases hstatus : 300 ≤ res.status
  · refine ⟨.api res.status none, ?_⟩
    rw [readData, checkResponse, if_pos hstatus]
    rfl
  · obtain habs | ⟨members, s, hloads, hconstant, hne, herror⟩ := h
    · exact absurd habs hstatus
    · have htruthy : isTruthyPy (some (.string s)) = true := by
        cases s with
        | nil => exact absurd rfl hne
        | cons c cs => rfl
      refine ⟨.gateway (some (.string s)), ?_⟩
      rw [readData, checkResponse, if_neg hstatus, hloads]
      show decodeEnvelope unpacker (.object members) requireData = _
      rw [decodeEnvelope, herror, htruthy]
      rfl

end TradingSdk.Reads
