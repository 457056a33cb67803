import TradingSdk.Core.Codec
import TradingSdk.Js.Names
import TradingSdk.Js.Triggers

namespace TradingSdk.Js

open Serde

/-- A numeric enum at run time: names under the numbers and numbers under the names. -/
def numericEnum (members : List (String × Int)) : List (String × JsVal) :=
  members.flatMap fun (name, n) => [(toString n, .string name), (name, .number n)]

def numericEnumFields : List (String × List (String × JsVal)) :=
  [("side", numericEnum [("Buy", 1), ("Sell", 2)]),
   ("timeInForce", numericEnum [("Gtc", 0), ("Ioc", 1), ("Fok", 2)]),
   ("outcome", numericEnum [("Yes", 1), ("No", 2), ("Void", 3)])]

def markSourceModeNames : List (Int × String) := [(0, "OracleOnly"), (1, "Median")]

/-- The names of `markSourceMode` and of the numeric enums. -/
def convertNumber (camelKey : String) (n : Int) : Except JsError JsVal :=
  if camelKey = "markSourceMode" then
    match markSourceModeNames.lookup n with
    | some name => .ok (.string name)
    | none => .error (.error s!"unknown markSourceMode value: {n}")
  else match numericEnumFields.lookup camelKey with
    | none => .ok (.number n)
    | some enumMap =>
      match enumMap.lookup (toString n) with
      | some name => .ok name
      | none => .error (.error s!"unknown {camelKey} enum value: {n}")

/-- The inverse of `convertNumber`. -/
def fromWasmString (camelKey : String) (s : String) : Except JsError JsVal :=
  if camelKey = "markSourceMode" then
    match (markSourceModeNames.map Prod.swap).lookup s with
    | some n => .ok (.number n)
    | none => .error (.error s!"unknown markSourceMode variant: {s}")
  else match numericEnumFields.lookup camelKey with
    | none => .ok (.string s)
    | some enumMap =>
      match enumMap.lookup s with
      | some num => .ok num
      | none => .error (.error s!"unknown {camelKey} enum variant: {s}")

/-- An `EventOracleSource`; any other shape converts to `undefined`. -/
def eventOracleSourceToWasm (src : JsVal) : JsVal :=
  if src.isNullish then .null
  else match src.get "kind" with
    | .string "RelayerAttested" => .string "RelayerAttested"
    | .string "UnderlyingPriceVsStrike" =>
      .object [("UnderlyingPriceVsStrike", .object [("strike_price", src.get "strikePrice"),
        ("comparison", src.get "comparison")])]
    | .string "MarketOracle" =>
      .object [("MarketOracle", .object [("market", src.get "market"),
        ("strike_price", src.get "strikePrice"), ("comparison", src.get "comparison")])]
    | _ => .undefined

mutual
/-- The text of a value as a property key. -/
def JsVal.toText : JsVal → String
  | .undefined => "undefined"
  | .null => "null"
  | .bool b => toString b
  | .number n => toString n
  | .bigint n => toString n
  | .string s => s
  | .uint8Array bs => ",".intercalate (bs.map fun b => toString b.toNat)
  | .array items => ",".intercalate (itemTexts items)
  | .object _ => "[object Object]"
def itemTexts : List JsVal → List String
  | [] => []
  | v :: vs => (if v.isNullish then "" else v.toText) :: itemTexts vs
end

/-- `Object.entries` of a sequence. -/
def indexEntries (items : List JsVal) : List (String × JsVal) :=
  items.zipIdx.map fun (v, i) => (toString i, v)

def charValues (s : String) : List JsVal := s.toList.map fun c => .string (String.singleton c)

/-- `value === text`. -/
def JsVal.isText (text : String) : JsVal → Bool
  | .string s => s == text
  | _ => false

/-- A governance action once its payload is converted: the validated variant under its kind. -/
def governanceVariant (entries : List (String × JsVal)) (payload : Except JsError JsVal) :
    Except JsError JsVal := do
  let action := JsVal.object entries
  if (action.get "kind").isText "SetTriggerMarketConfig" then
    validateSetTriggerMarketConfig (action.get "value")
  let value ← payload
  return .object [((action.get "kind").toText, value)]

/-- What a value without `kind` and `value` converts to. -/
def kindless : JsVal := .object [("undefined", .object [])]

/-- Conversion of values without parts. -/
def convertScalar (camelKey : String) (v : JsVal) : Except JsError JsVal :=
  if camelKey = "oracleSource" then .ok (eventOracleSourceToWasm v)
  else if camelKey = "action" then .ok (if v.isNullish then v else kindless)
  else match v with
    | .number n => convertNumber camelKey n
    | v => .ok v

mutual
def convertValue (camelKey : String) : JsVal → Except JsError JsVal
  | .array items =>
    if camelKey = "oracleSource" then .ok (eventOracleSourceToWasm (.array items))
    else if camelKey = "action" then .ok kindless
    else (convertItems items).map .array
  | .object entries =>
    if camelKey = "oracleSource" then .ok (eventOracleSourceToWasm (.object entries))
    else if camelKey = "action" then governanceVariant entries (governanceValue entries)
    else (convertEntries [] entries).map .object
  | .undefined => convertScalar camelKey .undefined
  | .null => convertScalar camelKey .null
  | .bool b => convertScalar camelKey (.bool b)
  | .number n => convertScalar camelKey (.number n)
  | .bigint n => convertScalar camelKey (.bigint n)
  | .string s => convertScalar camelKey (.string s)
  | .uint8Array bs => convertScalar camelKey (.uint8Array bs)
/-- Objects inside an array are converted, scalars and byte arrays pass through. -/
def convertItem : JsVal → Except JsError JsVal
  | .array items => (convertIndexed 0 [] items).map .object
  | .object entries => (convertEntries [] entries).map .object
  | .undefined => .ok .undefined
  | .null => .ok .null
  | .bool b => .ok (.bool b)
  | .number n => .ok (.number n)
  | .bigint n => .ok (.bigint n)
  | .string s => .ok (.string s)
  | .uint8Array bs => .ok (.uint8Array bs)
def convertItems : List JsVal → Except JsError (List JsVal)
  | [] => .ok []
  | v :: vs => do
    let w ← convertItem v
    let ws ← convertItems vs
    return w :: ws
/-- Nullish fields are dropped, the others renamed and converted. -/
def convertEntries (out : List (String × JsVal)) :
    List (String × JsVal) → Except JsError (List (String × JsVal))
  | [] => .ok out
  | (k, v) :: rest =>
    if v.isNullish then convertEntries out rest
    else do
      let w ← convertValue k v
      convertEntries (assign (toSnake k) w out) rest
def convertIndexed (i : Nat) (out : List (String × JsVal)) :
    List JsVal → Except JsError (List (String × JsVal))
  | [] => .ok out
  | v :: rest =>
    if v.isNullish then convertIndexed (i + 1) out rest
    else do
      let w ← convertValue (toString i) v
      convertIndexed (i + 1) (assign (toString i) w out) rest
/-- The payload under `value` of a governance action, an empty object when there is none. -/
def governanceValue : List (String × JsVal) → Except JsError JsVal
  | [] => .ok (.object [])
  | (k, v) :: rest => if k = "value" then governancePayload v else governanceValue rest
/-- A list of items for a batch, otherwise the fields of a struct. -/
def governancePayload : JsVal → Except JsError JsVal
  | .array items => (governanceItems items).map .array
  | .object entries => (convertEntries [] entries).map .object
  | .uint8Array bs => .ok (.object (indexEntries (byteNumbers bs)))
  | .string s => .ok (.object (indexEntries (charValues s)))
  | .undefined => .ok (.object [])
  | .null => .ok (.object [])
  | .bool _ => .ok (.object [])
  | .number _ => .ok (.object [])
  | .bigint _ => .ok (.object [])
def governanceItem : JsVal → Except JsError JsVal
  | .object entries => governanceVariant entries (governanceValue entries)
  | .undefined => .ok .undefined
  | .null => .ok .null
  | .array _ => .ok kindless
  | .uint8Array _ => .ok kindless
  | .string _ => .ok kindless
  | .bool _ => .ok kindless
  | .number _ => .ok kindless
  | .bigint _ => .ok kindless
def governanceItems : List JsVal → Except JsError (List JsVal)
  | [] => .ok []
  | v :: vs => do
    let w ← governanceItem v
    let ws ← governanceItems vs
    return w :: ws
end

/-- `governanceActionToWasm`, also exported as `adminActionToWasm`. -/
def governanceActionToWasm (value : JsVal) : Except JsError JsVal := governanceItem value

/-- `convertObject` on the data of an action. -/
def convertObject (data : JsVal) : Except JsError (List (String × JsVal)) :=
  match data with
  | .object entries => convertEntries [] entries
  | .array items => convertIndexed 0 [] items
  | .uint8Array bs => .ok (indexEntries (byteNumbers bs))
  | .string s => .ok (indexEntries (charValues s))
  | _ => .ok []

/-- An `Action` of the TypeScript SDK. -/
structure TsAction where
  type : ActionKind
  data : JsVal

def validateAction (action : TsAction) : Except JsError Unit :=
  match action.type with
  | .setPositionTriggers => validateSetPositionTriggers action.data
  | .cancelPositionTriggers => validateCancelPositionTriggers action.data
  | _ => .ok ()

/-- An omitted or null open-interest cap of `CreateMarket` becomes zero. -/
def withOpenInterest (type : ActionKind) (fields : List (String × JsVal)) :
    List (String × JsVal) :=
  if type = .createMarket ∧ ((fields.lookup "max_open_interest").getD .undefined).isNullish then
    assign "max_open_interest" (.bigint 0) fields
  else fields

def toWasmFields (action : TsAction) : Except JsError (UInt8 × JsVal) := do
  validateAction action
  let fields ← convertObject action.data
  return (action.type.actionType, .object (withOpenInterest action.type fields))

def byteFields : List String :=
  ["agentPubkey", "owner", "primaryOracleSigner", "signer", "solanaDestination", "solanaTxSig",
   "proposer", "approver", "rejecter", "contentHash", "signerBitmap", "authorization"]

def undefinedWhenAbsent : List String :=
  ["oracleSource", "description", "rules", "poolId", "maxSlippageBps"]

def absentValue (camelKey : String) : JsVal :=
  if undefinedWhenAbsent.contains camelKey then .undefined else .null

/-- `BigInt` of what the core hands over. -/
def toBigInt : JsVal → Except JsError JsVal
  | .bigint n => .ok (.bigint n)
  | .number n => .ok (.bigint n)
  | _ => .error (.error "Cannot convert to a BigInt")

/-- `Number` of what the core hands over. -/
def toNumber : JsVal → Except JsError JsVal
  | .number n => .ok (.number n)
  | .bigint n => .ok (.number n)
  | _ => .error (.error "Cannot convert to a number")

def eventOracleSourceFromWasm (v : JsVal) : Except JsError JsVal :=
  if v.isNullish then .ok .null
  else match v with
    | .string "RelayerAttested" => .ok (.object [("kind", .string "RelayerAttested")])
    | .object entries =>
      match entries.lookup "UnderlyingPriceVsStrike" with
      | some f => do
        return .object [("kind", .string "UnderlyingPriceVsStrike"),
          ("strikePrice", ← toBigInt (f.get "strike_price")), ("comparison", f.get "comparison")]
      | none =>
        match entries.lookup "MarketOracle" with
        | some f => do
          return .object [("kind", .string "MarketOracle"), ("market", ← toNumber (f.get "market")),
            ("strikePrice", ← toBigInt (f.get "strike_price")), ("comparison", f.get "comparison")]
        | none => .error (.error "unknown EventOracleSource")
    | _ => .error (.error "unknown EventOracleSource")

/-- An element of `Uint8Array.from`, reduced modulo 256; what is not a number becomes zero. -/
def toUint8 : JsVal → Except JsError UInt8
  | .number n => .ok (UInt8.ofNat (n % 256).toNat)
  | .bigint _ => .error (.error "Cannot convert a BigInt value to a number")
  | _ => .ok 0

/-- One byte array of `newMembers` or `signatures`. -/
def toByteArray : JsVal → Except JsError JsVal
  | .array items => (items.mapM toUint8).map .uint8Array
  | .uint8Array bs => .ok (.uint8Array bs)
  | _ => .ok (.uint8Array [])

/-- A byte field named in `byteFields`. -/
def byteField (camelKey : String) (items : List JsVal) : Except JsError JsVal :=
  match items.mapM readJsByte with
  | some bs => .ok (.uint8Array bs)
  | none => .error (.error s!"byte field {camelKey}: expected an array of u8")

/-- The variant of a value without keys. -/
def unkinded : JsVal := .object [("kind", .undefined), ("value", .object [])]

mutual
def fromWasmValue (camelKey : String) : JsVal → Except JsError JsVal
  | .undefined => .ok (absentValue camelKey)
  | .null => .ok (absentValue camelKey)
  | .uint8Array bs => .ok (.uint8Array bs)
  | .array items =>
    if camelKey = "oracleSource" then eventOracleSourceFromWasm (.array items)
    else if camelKey = "action" then governanceFromArray items
    else if camelKey = "newMembers" ∨ camelKey = "signatures" then
      (items.mapM toByteArray).map .array
    else if byteFields.contains camelKey then byteField camelKey items
    else (fromWasmItems items).map .array
  | .object entries =>
    if camelKey = "oracleSource" then eventOracleSourceFromWasm (.object entries)
    else if camelKey = "action" then governanceFromEntries entries
    else (fromWasmEntries [] entries).map .object
  | .string s =>
    if camelKey = "oracleSource" then eventOracleSourceFromWasm (.string s)
    else fromWasmString camelKey s
  | .bool b =>
    if camelKey = "oracleSource" then eventOracleSourceFromWasm (.bool b) else .ok (.bool b)
  | .number n =>
    if camelKey = "oracleSource" then eventOracleSourceFromWasm (.number n) else .ok (.number n)
  | .bigint n =>
    if camelKey = "oracleSource" then eventOracleSourceFromWasm (.bigint n) else .ok (.bigint n)
def fromWasmItem : JsVal → Except JsError JsVal
  | .array items => (fromWasmIndexed 0 [] items).map .object
  | .object entries => (fromWasmEntries [] entries).map .object
  | .uint8Array bs => .ok (.object (indexEntries (byteNumbers bs)))
  | .undefined => .ok .undefined
  | .null => .ok .null
  | .bool b => .ok (.bool b)
  | .number n => .ok (.number n)
  | .bigint n => .ok (.bigint n)
  | .string s => .ok (.string s)
def fromWasmItems : List JsVal → Except JsError (List JsVal)
  | [] => .ok []
  | v :: vs => do
    let w ← fromWasmItem v
    let ws ← fromWasmItems vs
    return w :: ws
def fromWasmEntries (out : List (String × JsVal)) :
    List (String × JsVal) → Except JsError (List (String × JsVal))
  | [] => .ok out
  | (k, v) :: rest => do
    let w ← fromWasmValue (snakeToCamel k) v
    fromWasmEntries (assign (snakeToCamel k) w out) rest
def fromWasmIndexed (i : Nat) (out : List (String × JsVal)) :
    List JsVal → Except JsError (List (String × JsVal))
  | [] => .ok out
  | v :: rest => do
    let w ← fromWasmValue (toString i) v
    fromWasmIndexed (i + 1) (assign (toString i) w out) rest
/-- The first key of a governance enum is its kind. -/
def governanceFromEntries : List (String × JsVal) → Except JsError JsVal
  | [] => .ok unkinded
  | (kind, inner) :: _ => do
    let value ← governanceFromPayload inner
    return .object [("kind", .string kind), ("value", value)]
def governanceFromArray : List JsVal → Except JsError JsVal
  | [] => .ok unkinded
  | inner :: _ => do
    let value ← governanceFromPayload inner
    return .object [("kind", .string "0"), ("value", value)]
def governanceFromPayload : JsVal → Except JsError JsVal
  | .array items => (governanceFromItems items).map .array
  | .object entries => (fromWasmEntries [] entries).map .object
  | .uint8Array bs => .ok (.object (indexEntries (byteNumbers bs)))
  | .string s => .ok (.object (indexEntries (charValues s)))
  | .undefined => .ok (.object [])
  | .null => .ok (.object [])
  | .bool _ => .ok (.object [])
  | .number _ => .ok (.object [])
  | .bigint _ => .ok (.object [])
def governanceFromItem : JsVal → Except JsError JsVal
  | .object entries => governanceFromEntries entries
  | .array items => governanceFromArray items
  | .undefined => .ok .undefined
  | .null => .ok .null
  | .uint8Array bs => .ok (if bs.isEmpty then unkinded
      else .object [("kind", .string "0"), ("value", .object [])])
  | .string s => .ok (if s = "" then unkinded else .object [("kind", .string "0"),
      ("value", .object ((indexEntries (charValues s)).take 1))])
  | .bool _ => .ok unkinded
  | .number _ => .ok unkinded
  | .bigint _ => .ok unkinded
def governanceFromItems : List JsVal → Except JsError (List JsVal)
  | [] => .ok []
  | v :: vs => do
    let w ← governanceFromItem v
    let ws ← governanceFromItems vs
    return w :: ws
end

def fromWasmObject (data : JsVal) : Except JsError (List (String × JsVal)) :=
  match data with
  | .object entries => fromWasmEntries [] entries
  | .array items => fromWasmIndexed 0 [] items
  | .uint8Array bs => .ok (indexEntries (byteNumbers bs))
  | .string s => .ok (indexEntries (charValues s))
  | _ => .ok []

/-- `fromWasmFields` for an action type that the SDK names. -/
def fromWasmFields (type : ActionKind) (fields : JsVal) : Except JsError TsAction := do
  let entries ← fromWasmObject fields
  return ⟨type, .object entries⟩

end TradingSdk.Js
