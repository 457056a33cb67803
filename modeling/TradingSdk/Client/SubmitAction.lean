import TradingSdk.Client.Gateway

namespace TradingSdk.Client

open Json

/-- `json.loads` of the body text. Too many digits are a `ValueError`, a malformed text is a
`JSONDecodeError`. -/
def jsonLoads (raw : String) : Except Failure Value := parse .python raw.toList

/-- Python truthiness of `dict.get`. -/
def isTruthyPy : Option Value → Bool
  | none => false
  | some .null => false
  | some (.bool b) => b
  | some (.number n) => if n.isInteger then n.toInt ≠ 0 else n.toDouble ≠ .finite 0
  | some (.constant _) => true
  | some (.string s) => !s.isEmpty
  | some (.array items) => !items.isEmpty
  | some (.object members) => !members.isEmpty

/-- `a or b`. -/
def orElse (a b : Option Value) : Option Value := if isTruthyPy a then a else b

/-- A string, or what `str` makes of another value. -/
inductive PyText where
  | text (s : Text)
  | rendering (v : Value)

def str : Value → PyText
  | .string s => .text s
  | v => .rendering v

/-- The zeros of the decimal digits of Unicode 14. The nine digits after each follow it. -/
def decimalZeros : List Nat :=
  [0x30, 0x660, 0x6f0, 0x7c0, 0x966, 0x9e6, 0xa66, 0xae6, 0xb66, 0xbe6, 0xc66, 0xce6, 0xd66, 0xde6,
   0xe50, 0xed0, 0xf20, 0x1040, 0x1090, 0x17e0, 0x1810, 0x1946, 0x19d0, 0x1a80, 0x1a90, 0x1b50,
   0x1bb0, 0x1c40, 0x1c50, 0xa620, 0xa8d0, 0xa900, 0xa9d0, 0xa9f0, 0xaa50, 0xabf0, 0xff10, 0x104a0,
   0x10d30, 0x11066, 0x110f0, 0x11136, 0x111d0, 0x112f0, 0x11450, 0x114d0, 0x11650, 0x116c0,
   0x11730, 0x118e0, 0x11950, 0x11c50, 0x11d50, 0x11da0, 0x16a60, 0x16ac0, 0x16b50, 0x1d7ce,
   0x1d7d8, 0x1d7e2, 0x1d7ec, 0x1d7f6, 0x1e140, 0x1e2f0, 0x1e950, 0x1fbf0]

def decimalDigit (c : Nat) : Option Nat :=
  (decimalZeros.find? fun first => first ≤ c && c ≤ first + 9).map fun first => c - first

/-- `str.isspace`, which is also `\s` of a pattern and what `strip` takes off. -/
def isPySpace (c : Nat) : Bool :=
  (9 ≤ c && c ≤ 13) || (0x1c ≤ c && c ≤ 0x20) || c = 0x85 || c = 0xa0 || c = 0x1680 ||
    (0x2000 ≤ c && c ≤ 0x200a) || c = 0x2028 || c = 0x2029 || c = 0x202f || c = 0x205f ||
    c = 0x3000

def strip (s : Text) : Text := ((s.dropWhile isPySpace).reverse.dropWhile isPySpace).reverse

/-- `int` of a digit string. -/
def pyInt (digits : List Nat) : Except Failure Nat :=
  if 4300 < digits.length then .error .tooManyDigits else .ok (ofDecimal digits)

/-- `_leading_error_code`. What `str` renders is a word, a number or begins with a bracket, and
carries no code. -/
def leadingErrorCode : PyText → Except Failure (Option Nat)
  | .rendering _ => .ok none
  | .text s =>
    match leadingDigits decimalDigit isPySpace s with
    | none => .ok none
    | some digits => (pyInt digits).map some

/-- How `submit_action` ends. An exception that is none of the SDK's own escapes. -/
inductive SubmitOutcome where
  | accepted (data : Members)
  | engineError (code : Nat) (message : PyText)
  | submissionPending (txHash message : PyText)
  | transportError (data : Members)
  | escaped

def isUtf8 (s : Text) : Bool := s.all fun c => !isHighSurrogate c && !isLowSurrogate c

/-- What the native error table takes as a log. Renderings escape lone surrogates. -/
def PyText.isUtf8 : PyText → Bool
  | .text s => Client.isUtf8 s
  | .rendering _ => true

def PyText.isEmpty : PyText → Bool
  | .text s => s.isEmpty
  | .rendering _ => false

/-- The constructor of `EngineError` asks the native table for a name, which wants a `u32`, and a
log that is UTF-8. -/
def engineError (code : Int) (message : PyText) : SubmitOutcome :=
  if 0 ≤ code ∧ code < 2^32 ∧ message.isUtf8 then .engineError code.toNat message else .escaped

/-- `_leading_error_code(text) or 1`. Zero is falsy. -/
def leadingCodeOrOne (source : PyText) : Except Failure Nat :=
  (leadingErrorCode source).map fun found => if found.getD 0 = 0 then 1 else found.getD 0

def engineErrorFrom (source message : PyText) : SubmitOutcome :=
  match leadingCodeOrOne source with
  | .error _ => .escaped
  | .ok code => engineError code message

/-- A body that is no object. -/
def submitText (s : Text) : SubmitOutcome :=
  engineErrorFrom (.text s)
    (.text (if (s.take 200).isEmpty then text "unknown gateway error" else s.take 200))

/-- `str(data.get("error") or data.get("message") or "")`. -/
def errorMessage (data : Members) : PyText :=
  str ((orElse (data.get "error") (orElse (data.get "message") none)).getD (.string []))

def submitCodeless (data : Members) : SubmitOutcome :=
  if isText (data.get "status") "ok" then .accepted data
  else
    let txHash := orElse (data.get "txHash") (data.get "tx_hash")
    if isTruthyPy txHash then
      .submissionPending (str (txHash.getD .null))
        (str ((orElse (data.get "error") none).getD (.string [])))
    else
      let err := errorMessage data
      if err.isEmpty = false ∨ isText (data.get "status") "error" then
        engineErrorFrom err (if err.isEmpty then .text (text "engine error") else err)
      else .transportError data

/-- The `code` of an object, when it is an `int`. -/
def integerCode (data : Members) : Option Int :=
  match data.get "code" with
  | some (.number code) => if code.isInteger then some code.toInt else none
  | _ => none

def submitData (data : Members) : SubmitOutcome :=
  match integerCode data with
  | none => submitCodeless data
  | some code =>
    if code = 0 then .accepted data
    else
      match orElse (data.get "message") (orElse (data.get "log") (orElse (data.get "error")
        (some (.string [])))) with
      | some (.string message) => engineError code (.text message)
      | _ => .escaped

/-- `submit_action` from a 2xx response on. -/
def submitAction (raw : String) : SubmitOutcome :=
  match jsonLoads raw with
  | .error .tooManyDigits => .escaped
  | .ok (.object data) => submitData data
  | .ok (.string s) => submitText (strip s)
  | _ => submitText (strip (text raw))

end TradingSdk.Client
