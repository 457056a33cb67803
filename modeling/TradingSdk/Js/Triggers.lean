import TradingSdk.Core.Triggers
import TradingSdk.Js.Serde

namespace TradingSdk.Js

open Serde

/-- What a call of the SDK throws: an `Error` of its own, an error of the core, or a trap of the
WASM instance that ran out of memory. -/
inductive JsError where
  | error (message : String)
  | core (e : ExecError)
  | trap
  deriving DecidableEq

/-- An error of the core as the exception that the binding throws. -/
def liftCore {α : Type} : Except ExecError α → Except JsError α
  | .ok a => .ok a
  | .error e => .error (.core e)

theorem liftCore_ok {α : Type} (a : α) : liftCore (.ok a) = .ok a := rfl

def throwUnless (condition : Bool) (message : String) : Except JsError Unit :=
  if condition then .ok () else .error (.error message)

theorem throwUnless_eq_ok {condition : Bool} {message : String} :
    throwUnless condition message = .ok () ↔ condition = true := by
  cases condition <;> simp [throwUnless]

theorem bind_eq_ok {α β : Type} {x : Except JsError α} {f : α → Except JsError β} {b : β}
    (h : x.bind f = .ok b) : ∃ a, x = .ok a ∧ f a = .ok b := by
  cases x with
  | error e => cases h
  | ok a => exact ⟨a, rfl, h⟩

theorem map_eq_ok {α β : Type} {x : Except JsError α} {f : α → β} {b : β}
    (h : x.map f = .ok b) : ∃ a, x = .ok a ∧ f a = b := by
  cases x with
  | error e => cases h
  | ok a => exact ⟨a, rfl, Except.ok.inj h⟩

def isU64 : JsVal → Bool
  | .bigint n => decide (0 ≤ n ∧ n < 2^64)
  | _ => false

def isNonzeroU64 : JsVal → Bool
  | .bigint n => decide (0 < n ∧ n < 2^64)
  | _ => false

def isIntegerIn (lo hi : Int) : JsVal → Bool
  | .number n => decide (lo ≤ n ∧ n ≤ hi)
  | _ => false

def isBytesOf (len : Nat) : JsVal → Bool
  | .uint8Array bs => bs.length == len
  | _ => false

def isBoolean : JsVal → Bool
  | .bool _ => true
  | _ => false

/-- `a === b` on bigints. -/
def sameBigint : JsVal → JsVal → Bool
  | .bigint m, .bigint n => m == n
  | _, _ => false

def assertU32 (name : String) (v : JsVal) : Except JsError Unit :=
  throwUnless (isIntegerIn 0 (2^32 - 1) v) s!"{name} must be an unsigned 32-bit integer"

def assertU64 (name : String) (v : JsVal) : Except JsError Unit :=
  throwUnless (isU64 v) s!"{name} must be an unsigned 64-bit bigint"

def assertNonzeroU64 (name : String) (v : JsVal) : Except JsError Unit := do
  assertU64 name v
  throwUnless (isNonzeroU64 v) s!"{name} must be non-zero"

/-- A check that a nullish value skips. -/
def unlessNullish (v : JsVal) (check : JsVal → Except JsError Unit) : Except JsError Unit :=
  if v.isNullish then .ok () else check v

def validateLimb (name : String) (limb : JsVal) : Except JsError Unit := do
  assertNonzeroU64 s!"{name}.triggerPrice" (limb.get "triggerPrice")
  throwUnless (isIntegerIn 1 9999 (limb.get "maxSlippageBps"))
    s!"{name}.maxSlippageBps must be in 1..=9999"
  unlessNullish (limb.get "clientTriggerId") (assertNonzeroU64 s!"{name}.clientTriggerId")

/-- `limb?.clientTriggerId`. -/
def limbId (limb : JsVal) : JsVal :=
  if limb.isNullish then .undefined else limb.get "clientTriggerId"

def validateSetPositionTriggers (action : JsVal) : Except JsError Unit := do
  assertU32 "market" (action.get "market")
  throwUnless (isBytesOf 20 (action.get "owner")) "owner must be exactly 20 bytes"
  assertNonzeroU64 "expectedPositionEpoch" (action.get "expectedPositionEpoch")
  throwUnless (!((action.get "stopLoss").isNullish && (action.get "takeProfit").isNullish))
    "at least one of stopLoss or takeProfit is required"
  unlessNullish (action.get "stopLoss") (validateLimb "stopLoss")
  unlessNullish (action.get "takeProfit") (validateLimb "takeProfit")
  unlessNullish (action.get "clientGroupId") (assertNonzeroU64 "clientGroupId")
  throwUnless (!sameBigint (limbId (action.get "stopLoss")) (limbId (action.get "takeProfit")))
    "stopLoss and takeProfit clientTriggerId values must differ"

def validateCancelPositionTriggers (action : JsVal) : Except JsError Unit := do
  assertU32 "market" (action.get "market")
  throwUnless (isBytesOf 20 (action.get "owner")) "owner must be exactly 20 bytes"
  assertNonzeroU64 "expectedPositionEpoch" (action.get "expectedPositionEpoch")

def isZero : JsVal → Bool
  | .number n => n == 0
  | .bigint n => n == 0
  | _ => false

def validateSetTriggerMarketConfig (config : JsVal) : Except JsError Unit := do
  assertU32 "market" (config.get "market")
  throwUnless (isBoolean (config.get "enabled")) "enabled must be boolean"
  unlessNullish (config.get "expectedCurrentVersion") (assertU64 "expectedCurrentVersion")
  throwUnless (isIntegerIn 0 9999 (config.get "maxTriggerSlippageBps"))
    "maxTriggerSlippageBps must be in 0..=9999"
  assertU64 "maxMarkAgeMs" (config.get "maxMarkAgeMs")
  assertU64 "maxFuturePublishSkewMs" (config.get "maxFuturePublishSkewMs")
  assertU64 "maxActiveBrackets" (config.get "maxActiveBrackets")
  throwUnless (!((config.get "enabled").isTruthy && (isZero (config.get "maxTriggerSlippageBps") ||
      isZero (config.get "maxMarkAgeMs") || isZero (config.get "maxFuturePublishSkewMs") ||
      isZero (config.get "maxActiveBrackets"))))
    ("enabled trigger config requires non-zero slippage, mark-age, " ++
      "future-skew and bracket bounds")

end TradingSdk.Js
