import TradingSdk.Json.Value

namespace TradingSdk.Json

inductive Failure where
  | malformed
  | tooManyDigits
  deriving DecidableEq

/-- Where readers of JSON differ: whether they know the constants, and how many digits of an
integer literal they convert. -/
structure Dialect where
  constants : Bool
  maxDigits : Option Nat

/-- A result and the text after it. -/
abbrev Parsed (α : Type) := Except Failure (α × List Char)

def Parsed.andThen {α β : Type} (x : Parsed α) (f : α → List Char → Parsed β) : Parsed β :=
  match x with
  | .error e => .error e
  | .ok (a, rest) => f a rest

def Parsed.as {α β : Type} (x : Parsed α) (f : α → β) : Parsed β :=
  x.andThen fun a rest => .ok (f a, rest)

def isSpace (c : Char) : Bool := c = ' ' || c = '\t' || c = '\n' || c = '\r'

def skipSpace : List Char → List Char
  | [] => []
  | c :: cs => if isSpace c then skipSpace cs else c :: cs

def digit (c : Char) : Option Nat :=
  if 48 ≤ c.toNat ∧ c.toNat ≤ 57 then some (c.toNat - 48) else none

/-- The digits in front, as many as there are. -/
def takeDigits : List Char → List Nat × List Char
  | [] => ([], [])
  | c :: cs =>
    match digit c with
    | none => ([], c :: cs)
    | some d => (d :: (takeDigits cs).1, (takeDigits cs).2)

def hexDigit (c : Char) : Option Nat :=
  let n := c.toNat
  if 48 ≤ n ∧ n ≤ 57 then some (n - 48)
  else if 97 ≤ n ∧ n ≤ 102 then some (n - 87)
  else if 65 ≤ n ∧ n ≤ 70 then some (n - 55)
  else none

def hex4 (a b c d : Char) : Option Nat := do
  return (((← hexDigit a) * 16 + (← hexDigit b)) * 16 + (← hexDigit c)) * 16 + (← hexDigit d)

/-- What an escape other than `u` stands for. -/
def escape (c : Char) : Option Nat :=
  if c = '"' ∨ c = '\\' ∨ c = '/' then some c.toNat
  else if c = 'b' then some 8
  else if c = 'f' then some 12
  else if c = 'n' then some 10
  else if c = 'r' then some 13
  else if c = 't' then some 9
  else none

/-- A code unit in front of the rest of a string. -/
def withUnit (unit : Option Nat) (more : Option (List Nat × List Char)) :
    Option (List Nat × List Char) :=
  unit.bind fun u => more.map fun (units, rest) => (u :: units, rest)

/-- The rest of a string after its opening quote, escape by escape. -/
def stringUnits : List Char → Option (List Nat × List Char)
  | [] => none
  | '"' :: rest => some ([], rest)
  | '\\' :: 'u' :: a :: b :: c :: d :: rest => withUnit (hex4 a b c d) (stringUnits rest)
  | '\\' :: e :: rest => withUnit (escape e) (stringUnits rest)
  | c :: rest => withUnit (if c.toNat < 32 then none else some c.toNat) (stringUnits rest)

def isHighSurrogate (n : Nat) : Bool := 0xd800 ≤ n && n < 0xdc00

def isLowSurrogate (n : Nat) : Bool := 0xdc00 ≤ n && n < 0xe000

/-- A high surrogate and a low one after it are one code point. -/
def joinSurrogates : List Nat → Text
  | high :: low :: rest =>
    if isHighSurrogate high && isLowSurrogate low then
      (0x10000 + (high - 0xd800) * 0x400 + (low - 0xdc00)) :: joinSurrogates rest
    else high :: joinSurrogates (low :: rest)
  | short => short

def parseString (cs : List Char) : Parsed Text :=
  match stringUnits cs with
  | none => .error .malformed
  | some (units, rest) => .ok (joinSurrogates units, rest)

/-- A fraction is there only with a digit after the point. -/
def takeFraction : List Char → Option (List Nat) × List Char
  | '.' :: cs =>
    match takeDigits cs with
    | ([], _) => (none, '.' :: cs)
    | (digits, rest) => (some digits, rest)
  | cs => (none, cs)

def takeSign : List Char → Bool × List Char
  | '-' :: cs => (true, cs)
  | '+' :: cs => (false, cs)
  | cs => (false, cs)

def takeExponent : List Char → Option (Bool × List Nat) × List Char
  | [] => (none, [])
  | e :: cs =>
    if e = 'e' ∨ e = 'E' then
      match takeDigits (takeSign cs).2 with
      | ([], _) => (none, e :: cs)
      | (digits, rest) => (some ((takeSign cs).1, digits), rest)
    else (none, e :: cs)

/-- A number after its sign. A zero in front is the only digit before the point. -/
def parseNumber (d : Dialect) (negative : Bool) (cs : List Char) : Parsed Number :=
  match takeDigits cs with
  | ([], _) => .error .malformed
  | (0 :: _ :: _, _) => .error .malformed
  | (digits, cs) =>
    let (fraction, cs) := takeFraction cs
    let (exponent, cs) := takeExponent cs
    let n : Number := ⟨negative, digits, fraction, exponent⟩
    if n.isInteger ∧ d.maxDigits.any (fun most => most < digits.length) then
      .error .tooManyDigits
    else .ok (n, cs)

/-- The rest of the text after a word that has to stand in front. -/
def dropWord : List Char → List Char → Option (List Char)
  | [], cs => some cs
  | _ :: _, [] => none
  | w :: ws, c :: cs => if w = c then dropWord ws cs else none

def parseConstant (d : Dialect) (c : Constant) (word : String) (cs : List Char) : Parsed Value :=
  match d.constants, dropWord word.toList cs with
  | true, some rest => .ok (.constant c, rest)
  | _, _ => .error .malformed

def parseWord (v : Value) (word : String) (cs : List Char) : Parsed Value :=
  match dropWord word.toList cs with
  | some rest => .ok (v, rest)
  | none => .error .malformed

/-- A value other than a string, an array or an object. -/
def parseScalar (d : Dialect) (c : Char) (cs : List Char) : Parsed Value :=
  if c = 'n' then parseWord .null "ull" cs
  else if c = 't' then parseWord (.bool true) "rue" cs
  else if c = 'f' then parseWord (.bool false) "alse" cs
  else if c = 'N' then parseConstant d .nan "aN" cs
  else if c = 'I' then parseConstant d .infinity "nfinity" cs
  else if c = '-' then
    if cs.head? = some 'I' then parseConstant d .negativeInfinity "Infinity" cs
    else (parseNumber d true cs).as .number
  else (parseNumber d false (c :: cs)).as .number

mutual
/-- Read one value off the front, within `fuel` nested steps. -/
def parseValue (d : Dialect) : Nat → List Char → Parsed Value
  | 0, _ => .error .malformed
  | _ + 1, [] => .error .malformed
  | fuel + 1, c :: cs =>
    if c = '"' then (parseString cs).as .string
    else if c = '[' then
      if (skipSpace cs).head? = some ']' then .ok (.array [], (skipSpace cs).tail)
      else (parseItems d fuel (skipSpace cs)).as .array
    else if c = '{' then
      if (skipSpace cs).head? = some '}' then .ok (.object [], (skipSpace cs).tail)
      else (parseMembers d fuel (skipSpace cs)).as .object
    else parseScalar d c cs
/-- The items of an array from the next one to its closing bracket. -/
def parseItems (d : Dialect) : Nat → List Char → Parsed (List Value)
  | 0, _ => .error .malformed
  | fuel + 1, cs => (parseValue d fuel cs).andThen fun v rest =>
    match skipSpace rest with
    | ',' :: rest => (parseItems d fuel (skipSpace rest)).as fun vs => v :: vs
    | ']' :: rest => .ok ([v], rest)
    | _ => .error .malformed
/-- The members of an object from the next one to its closing brace. -/
def parseMembers (d : Dialect) : Nat → List Char → Parsed Members
  | 0, _ => .error .malformed
  | _ + 1, [] => .error .malformed
  | fuel + 1, quote :: cs =>
    if quote ≠ '"' then .error .malformed
    else (parseString cs).andThen fun name rest =>
      match skipSpace rest with
      | ':' :: rest => (parseValue d fuel (skipSpace rest)).andThen fun v rest =>
        match skipSpace rest with
        | ',' :: rest => (parseMembers d fuel (skipSpace rest)).as fun members => (name, v) :: members
        | '}' :: rest => .ok ([(name, v)], rest)
        | _ => .error .malformed
      | _ => .error .malformed
end

/-- The value of a whole text. -/
def parse (d : Dialect) (cs : List Char) : Except Failure Value :=
  match parseValue d (2 * cs.length + 1) (skipSpace cs) with
  | .error e => .error e
  | .ok (v, rest) => if skipSpace rest = [] then .ok v else .error .malformed

end TradingSdk.Json
