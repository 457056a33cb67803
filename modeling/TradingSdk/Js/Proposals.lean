import TradingSdk.Core.Proposals
import TradingSdk.Js.ProposalReview

namespace TradingSdk.Js

/-- `toBytes` for a field of any length. -/
def toByteSequence (value : JsVal) (field : String) : Except JsError JsVal :=
  match value with
  | .uint8Array bs => .ok (.uint8Array bs)
  | .array items => (toByteItems field 0 items).map .uint8Array
  | _ => governanceError s!"{field} is not a byte sequence"

/-- The addresses of a list, each named by its position in errors. -/
def toAddresses (value : JsVal) (field : String) : Except JsError JsVal := do
  let items ← toArray value field
  let addresses ← mapIndexed (fun m i => toBytes m s!"{field}[{i}]" 20) 0 items
  return .array addresses

/-- A status with a payload. -/
def decodeStatusVariant (value : JsVal) (field : String) : Except JsError JsVal := do
  let (name, payload) ← variantOf value field
  if name = "Failed" then
    let fields ← toTuple payload s!"{field}.{name}" 1
    let code ← toU32 (slot fields 0) s!"{field}.Failed.code"
    return .object [("kind", .string "Failed"), ("code", code)]
  else if name = "Rejected" then
    let fields ← toTuple payload s!"{field}.{name}" 1
    let signer ← toBytes (slot fields 0) s!"{field}.Rejected.by" 20
    return .object [("kind", .string "Rejected"), ("by", signer)]
  else if name = "Expired" then
    let fields ← toTuple payload s!"{field}.{name}" 1
    let reason := slot fields 0
    if reason.isText "Ttl" || reason.isText "RegistryChanged" then
      return .object [("kind", .string "Expired"), ("reason", reason)]
    else governanceError s!"{field} has unknown ExpiryReason \"{reason.toText}\""
  else unknownVariant field "ProposalStatus" name

def decodeProposalStatus (value : JsVal) (field : String) : Except JsError JsVal :=
  match value with
  | .string s =>
    if s = "Pending" then .ok (.object [("kind", .string "Pending")])
    else if s = "Executed" then .ok (.object [("kind", .string "Executed")])
    else governanceError
      (s!"{field} has unknown ProposalStatus \"{s}\"" ++ " — this SDK build cannot render it")
  | _ => decodeStatusVariant value field

/-- `action.kind`. -/
def kindOf (action : JsVal) : String := (action.get "kind").toText

/-- `ACTION_TAG_BY_KIND[action.kind]`. -/
def expectedActionTag (action : JsVal) : Int :=
  ((actionTagByKind.lookup (kindOf action)).getD 0).toNat

def decodeProposalDisplayInfo (raw : JsVal) (at_ : String) : Except JsError JsVal := do
  let _ ← toArray raw at_
  let fields ← toTuple raw at_ 15
  -- `toU8`, compared below
  let actionTag ← toUnsignedBigInt (slot fields 11) s!"{at_}.actionTag" (2^8 - 1)
  let action ← decodeAdminAction (slot fields 12) s!"{at_}.action"
  if actionTag ≠ expectedActionTag action then
    governanceError
      (s!"{at_}.actionTag {actionTag} does not match {kindOf action} tag " ++
        ToString.toString (expectedActionTag action))
  else
    return .object [
      ("proposalId", ← toU64 (slot fields 0) s!"{at_}.proposalId"),
      ("statusStored", ← decodeProposalStatus (slot fields 1) s!"{at_}.statusStored"),
      ("statusEffective", ← decodeProposalStatus (slot fields 2) s!"{at_}.statusEffective"),
      ("registryVersion", ← toU64 (slot fields 3) s!"{at_}.registryVersion"),
      ("threshold", ← toU32 (slot fields 4) s!"{at_}.threshold"),
      ("proposer", ← toBytes (slot fields 5) s!"{at_}.proposer" 20),
      ("approvals", ← toAddresses (slot fields 6) s!"{at_}.approvals"),
      ("rejections", ← toAddresses (slot fields 7) s!"{at_}.rejections"),
      ("createdHeight", ← toU64 (slot fields 8) s!"{at_}.createdHeight"),
      ("createdMs", ← toU64 (slot fields 9) s!"{at_}.createdMs"),
      ("expiryMs", ← toU64 (slot fields 10) s!"{at_}.expiryMs"),
      ("actionTag", .number actionTag), ("action", action),
      ("actionCanonicalBytes",
        ← toByteSequence (slot fields 13) s!"{at_}.actionCanonicalBytes"),
      ("contentHash", ← toBytes (slot fields 14) s!"{at_}.contentHash" 32)]

def decodeAdminSignerRegistry (raw : JsVal) : Except JsError JsVal :=
  if raw.isNullish then .ok .null
  else do
    let fields ← toTuple raw "registry" 3
    return .object [("version", ← toU64 (slot fields 0) "registry.version"),
      ("threshold", ← toU32 (slot fields 1) "registry.threshold"),
      ("members", ← toAddresses (slot fields 2) "registry.members")]

def decodeAdminSignerRegistryInfo (raw : JsVal) : Except JsError JsVal := do
  let fields ← toTuple raw "registryInfo" 1
  decodeAdminSignerRegistry (slot fields 0)

/-- A cursor that may be missing. -/
def decodeNextCursor (value : JsVal) : Except JsError JsVal :=
  if value.isNullish then .ok .null else toU64 value "proposalPage.nextCursor"

def decodeProposalPage (raw : JsVal) : Except JsError JsVal := do
  let fields ← toTuple raw "proposalPage" 2
  let items ← toArray (slot fields 0) "proposalPage.items"
  let proposals ← mapIndexed (fun proposal i => do
    let row ← toArray proposal s!"proposalPage.items[{i}]"
    decodeProposalDisplayInfo (.array row) s!"proposal[{i}]") 0 items
  let nextCursor ← decodeNextCursor (slot fields 1)
  return .object [("proposals", .array proposals), ("nextCursor", nextCursor)]

end TradingSdk.Js
