import TradingSdk.Core.ContentHash
import TradingSdk.Js.Governance
import TradingSdk.Js.Msgpack

namespace TradingSdk.Js

open Serde Msgpack

def governanceError {α : Type} (message : String) : Except JsError α :=
  .error (.error ("governance decode: " ++ message))

def toUnsignedBigInt (value : JsVal) (field : String) (max : Int) : Except JsError Int := do
  let decoded ← match value with
    | .bigint n => .ok n
    | .number n =>
      if isSafeInteger n then .ok n
      else governanceError s!"{field} is not a safe unsigned integer"
    | _ => governanceError s!"{field} is not a safe unsigned integer"
  if decoded < 0 ∨ max < decoded then
    governanceError s!"{field} is outside the unsigned integer range 0-{max}"
  else return decoded

def toUnsignedNumber (value : JsVal) (field : String) (max : Int) : Except JsError JsVal :=
  (toUnsignedBigInt value field max).map .number

def toU8 (value : JsVal) (field : String) : Except JsError JsVal :=
  toUnsignedNumber value field (2^8 - 1)

def toU32 (value : JsVal) (field : String) : Except JsError JsVal :=
  toUnsignedNumber value field (2^32 - 1)

def toU64 (value : JsVal) (field : String) : Except JsError JsVal :=
  (toUnsignedBigInt value field (2^64 - 1)).map .bigint

/-- The elements of a byte sequence, each of them checked. -/
def toByteItems (field : String) (i : Nat) : List JsVal → Except JsError Bytes
  | [] => .ok []
  | v :: vs =>
    match readJsByte v with
    | none => governanceError s!"{field}[{i}] is not a byte (0-255 integer)"
    | some b => (toByteItems field (i + 1) vs).map fun bs => b :: bs

def toBytes (value : JsVal) (field : String) (expectedLen : Nat) : Except JsError JsVal := do
  let bytes ← match value with
    | .uint8Array bs => .ok bs
    | .array items => toByteItems field 0 items
    | _ => governanceError s!"{field} is not a byte sequence"
  if bytes.length ≠ expectedLen then
    governanceError s!"{field} is {bytes.length} bytes, expected {expectedLen}"
  else return .uint8Array bytes

def toArray (value : JsVal) (field : String) : Except JsError (List JsVal) :=
  match value with
  | .array items => .ok items
  | _ => governanceError s!"{field} is not an array"

def toTuple (value : JsVal) (field : String) (expectedLength : Nat) :
    Except JsError (List JsVal) := do
  let fields ← toArray value field
  if fields.length ≠ expectedLength then
    governanceError s!"{field} has {fields.length} fields, expected exactly {expectedLength}"
  else return fields

def toTupleBetween (value : JsVal) (field : String) (minLength maxLength : Nat) :
    Except JsError (List JsVal) := do
  let fields ← toArray value field
  if fields.length < minLength ∨ maxLength < fields.length then
    governanceError s!"{field} has {fields.length} fields, expected {minLength}-{maxLength}"
  else return fields

def toString (value : JsVal) (field : String) : Except JsError JsVal :=
  match value with
  | .string s => .ok (.string s)
  | _ => governanceError s!"{field} is not a string"

/-- The single entry of an externally tagged enum. -/
def variantOf (value : JsVal) (field : String) : Except JsError (String × JsVal) := do
  let entries ← match value with
    | .object entries => .ok entries
    | .uint8Array bs => .ok (indexEntries (byteNumbers bs))
    | _ => governanceError s!"{field} is not an enum variant"
  match entries with
  | [entry] => return entry
  | _ => governanceError s!"{field} has {entries.length} variant keys, expected exactly 1"

/-- `raw[i]`. -/
def slot (raw : List JsVal) (i : Nat) : JsVal := raw.getD i .undefined

def decodeCreateMarket (value : JsVal) : Except JsError JsVal := do
  let raw ← toTuple value "createMarket" 12
  return .object [
    ("market", ← toU32 (slot raw 0) "createMarket.market"),
    ("imBps", ← toU32 (slot raw 1) "createMarket.imBps"),
    ("mmBps", ← toU32 (slot raw 2) "createMarket.mmBps"),
    ("takerFeeBps", ← toU32 (slot raw 3) "createMarket.takerFeeBps"),
    ("makerFeeBps", ← toU32 (slot raw 4) "createMarket.makerFeeBps"),
    ("signer", ← toBytes (slot raw 5) "createMarket.signer" 20),
    ("fundingIntervalMs", ← toU64 (slot raw 6) "createMarket.fundingIntervalMs"),
    ("maxFundingRateBps", ← toU32 (slot raw 7) "createMarket.maxFundingRateBps"),
    ("poolId", ← toU8 (slot raw 8) "createMarket.poolId"),
    ("szDecimals", ← toU8 (slot raw 9) "createMarket.szDecimals"),
    ("ticker", ← toString (slot raw 10) "createMarket.ticker"),
    ("maxOpenInterest", ← toU64 (slot raw 11) "createMarket.maxOpenInterest")]

def priceComparisons : List String :=
  ["GreaterThan", "LessThan", "GreaterThanOrEqual", "LessThanOrEqual"]

def toPriceComparison (value : JsVal) (field : String) : Except JsError JsVal :=
  match value with
  | .string s =>
    if priceComparisons.contains s then .ok (.string s)
    else governanceError s!"{field} is not a known PriceComparison"
  | _ => governanceError s!"{field} is not a known PriceComparison"

def decodeOracleSource (value : JsVal) (field : String) : Except JsError JsVal :=
  if value.isNullish then .ok .undefined
  else if value.isText "RelayerAttested" then .ok (.object [("kind", .string "RelayerAttested")])
  else do
    let (name, payload) ← variantOf value field
    if name = "UnderlyingPriceVsStrike" then
      let raw ← toTuple payload field 2
      return .object [("kind", .string "UnderlyingPriceVsStrike"),
        ("strikePrice", ← toU64 (slot raw 0) s!"{field}.strikePrice"),
        ("comparison", ← toPriceComparison (slot raw 1) s!"{field}.comparison")]
    else if name = "MarketOracle" then
      let raw ← toTuple payload field 3
      return .object [("kind", .string "MarketOracle"),
        ("market", ← toU32 (slot raw 0) s!"{field}.market"),
        ("strikePrice", ← toU64 (slot raw 1) s!"{field}.strikePrice"),
        ("comparison", ← toPriceComparison (slot raw 2) s!"{field}.comparison")]
    else governanceError s!"{field} has unknown EventOracleSource variant \"{name}\""

/-- The trailing fields may be missing, as in the payloads of older engines. -/
def decodeCreateImpactMarket (value : JsVal) : Except JsError JsVal := do
  let f := "createImpactMarket"
  let raw ← toTupleBetween value f 13 16
  let decoded := [
    ("impactMarketId", ← toU32 (slot raw 0) s!"{f}.impactMarketId"),
    ("underlyingMarket", ← toU32 (slot raw 1) s!"{f}.underlyingMarket"),
    ("childMarketBase", ← toU32 (slot raw 2) s!"{f}.childMarketBase"),
    ("question", ← toString (slot raw 3) s!"{f}.question"),
    ("deadlineMs", ← toU64 (slot raw 4) s!"{f}.deadlineMs"),
    ("resolutionWindowMs", ← toU64 (slot raw 5) s!"{f}.resolutionWindowMs"),
    ("imBps", ← toU32 (slot raw 6) s!"{f}.imBps"),
    ("mmBps", ← toU32 (slot raw 7) s!"{f}.mmBps"),
    ("takerFeeBps", ← toU32 (slot raw 8) s!"{f}.takerFeeBps"),
    ("makerFeeBps", ← toU32 (slot raw 9) s!"{f}.makerFeeBps"),
    ("fundingIntervalMs", ← toU64 (slot raw 10) s!"{f}.fundingIntervalMs"),
    ("maxFundingRateBps", ← toU32 (slot raw 11) s!"{f}.maxFundingRateBps"),
    ("signer", ← toBytes (slot raw 12) s!"{f}.signer" 20),
    ("description", ← if 14 < raw.length then toString (slot raw 14) s!"{f}.description"
      else .ok (.string "")),
    ("rules", ← if 15 < raw.length then toString (slot raw 15) s!"{f}.rules"
      else .ok (.string ""))]
  let oracleSource ← if 13 < raw.length then decodeOracleSource (slot raw 13) s!"{f}.oracleSource"
    else .ok .undefined
  return .object (if oracleSource.isTruthy then assign "oracleSource" oracleSource decoded
    else decoded)

def unknownVariant {α : Type} (field type name : String) : Except JsError α :=
  governanceError
    (s!"{field} has unknown {type} variant \"{name}\"" ++ " — this SDK build cannot render it")

/-- `{ kind, value }`. -/
def tagged (kind : String) (value : Except JsError JsVal) : Except JsError JsVal :=
  value.map (governanceTs kind)

def decodeBatchItem (value : JsVal) (field : String) : Except JsError JsVal := do
  let (name, payload) ← variantOf value field
  if name = "CreateMarket" then tagged "CreateMarket" (decodeCreateMarket payload)
  else if name = "CreateImpactMarket" then
    tagged "CreateImpactMarket" (decodeCreateImpactMarket payload)
  else unknownVariant field "AdminBatchItem" name

/-- `Array.map` with the index, stopping at the first exception. -/
def mapIndexed (f : JsVal → Nat → Except JsError JsVal) (i : Nat) :
    List JsVal → Except JsError (List JsVal)
  | [] => .ok []
  | v :: vs => do
    let w ← f v i
    let ws ← mapIndexed f (i + 1) vs
    return w :: ws

def decodeUpdateRegistry (value : JsVal) : Except JsError JsVal := do
  let raw ← toTuple value "updateRegistry" 2
  let newThreshold ← toU32 (slot raw 0) "updateRegistry.newThreshold"
  let members ← toArray (slot raw 1) "updateRegistry.newMembers"
  let newMembers ← mapIndexed (fun m i => toBytes m s!"updateRegistry.newMembers[{i}]" 20) 0 members
  return .object [("newThreshold", newThreshold), ("newMembers", .array newMembers)]

def decodeSetTriggerMarketConfig (value : JsVal) : Except JsError JsVal := do
  let raw ← toTuple value "setTriggerMarketConfig" 7
  if !isBoolean (slot raw 2) then governanceError "setTriggerMarketConfig.enabled is not boolean"
  else return .object [
    ("market", ← toU32 (slot raw 0) "setTriggerMarketConfig.market"),
    ("expectedCurrentVersion", ← if (slot raw 1).isNullish then .ok .null
      else toU64 (slot raw 1) "setTriggerMarketConfig.expectedCurrentVersion"),
    ("enabled", slot raw 2),
    ("maxTriggerSlippageBps",
      ← toU32 (slot raw 3) "setTriggerMarketConfig.maxTriggerSlippageBps"),
    ("maxMarkAgeMs", ← toU64 (slot raw 4) "setTriggerMarketConfig.maxMarkAgeMs"),
    ("maxFuturePublishSkewMs",
      ← toU64 (slot raw 5) "setTriggerMarketConfig.maxFuturePublishSkewMs"),
    ("maxActiveBrackets", ← toU64 (slot raw 6) "setTriggerMarketConfig.maxActiveBrackets")]

/-- `ACTION_TAG_BY_KIND`. -/
def actionTagByKind : List (String × UInt8) :=
  [("CreateMarket", 1), ("UpdateAdminSignerRegistry", 2), ("CreateImpactMarket", 3), ("Batch", 4),
   ("SetTriggerMarketConfig", 5)]

def decodeAdminAction (value : JsVal) (field : String) : Except JsError JsVal := do
  let (name, payload) ← variantOf value field
  if name = "CreateMarket" then tagged "CreateMarket" (decodeCreateMarket payload)
  else if name = "UpdateAdminSignerRegistry" then
    tagged "UpdateAdminSignerRegistry" (decodeUpdateRegistry payload)
  else if name = "CreateImpactMarket" then
    tagged "CreateImpactMarket" (decodeCreateImpactMarket payload)
  else if name = "Batch" then
    tagged "Batch" do
      let items ← toArray payload s!"{field}.batch"
      let decoded ← mapIndexed (fun item i => decodeBatchItem item s!"{field}.batch[{i}]") 0 items
      return .array decoded
  else if name = "SetTriggerMarketConfig" then
    tagged "SetTriggerMarketConfig" (decodeSetTriggerMarketConfig payload)
  else unknownVariant field "AdminAction" name

end TradingSdk.Js
