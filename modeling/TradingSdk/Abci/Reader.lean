import TradingSdk.Abci.Writer

namespace TradingSdk

open Serde Display

/-- An event as a consumer sees it. -/
structure AbciEvent where
  type : String
  attributes : List (String × String)
  deriving DecidableEq

def readText (bs : Bytes) : Option (String × Bytes) := do
  let (front, rest) ← readPrefixed bs
  let s ← ofUtf8 front
  return (s, rest)

def readAttribute (bs : Bytes) : Option ((String × String) × Bytes) := do
  let (key, bs) ← readText bs
  let (value, bs) ← readText bs
  return ((key, value), bs)

def readEvent (bs : Bytes) : Option (AbciEvent × Bytes) := do
  let (type, bs) ← readText bs
  let (count, bs) ← readLe16 bs
  let (attributes, bs) ← readCount readAttribute count bs
  return (⟨type, attributes⟩, bs)

/-- The events of a stream that ends with the last of them. -/
def readEvents (bs : Bytes) : Option (List AbciEvent) := readAll readEvent bs.length bs

def Event.typeName : Event → String
  | .orderPlaced .. => "order_placed"
  | .orderCancelled .. => "order_cancelled"
  | .orderAmended .. => "order_amended"
  | .priceUpdated .. => "price_updated"
  | .tradeExecuted .. => "trade_executed"
  | .feesCollected .. => "fees_collected"
  | .deposited .. => "deposited"
  | .withdrawn .. => "withdrawn"
  | .positionUpdated .. => "position_updated"
  | .positionClosed .. => "position_closed"
  | .binaryIssuedFromMTM .. => "binary_issued_from_mtm"
  | .marketCreated .. => "market_created"
  | .marketConfigUpdated .. => "market_config_updated"
  | .accountFeeOverrideSet .. => "account_fee_override_set"
  | .impactMarketCreated .. => "impact_market_created"
  | .eventResolved .. => "event_resolved"
  | .conditionalSettled .. => "conditional_settled"
  | .conditionalVoided .. => "conditional_voided"
  | .predictionSettled .. => "prediction_settled"
  | .accountLiquidated .. => "account_liquidated"
  | .insuranceFundUpdated .. => "insurance_fund_updated"
  | .hlpAbsorbed .. => "hlp_absorbed"
  | .socializedLossApplied .. => "socialized_loss_applied"
  | .positionAutoDeleveraged .. => "position_auto_deleveraged"
  | .withdrawRequested .. => "withdraw_requested"
  | .depositConfirmed .. => "deposit_confirmed"
  | .depositFailed .. => "deposit_failed"
  | .withdrawalConfirmed .. => "withdrawal_confirmed"
  | .withdrawalFailed .. => "withdrawal_failed"
  | .agentApproved .. => "agent_approved"
  | .agentRevoked .. => "agent_revoked"
  | .fundingApplied .. => "funding_applied"
  | .fundingSettled .. => "funding_settled"
  | .fundingShortfall .. => "funding_shortfall"
  | .marginWarning .. => "margin_warning"
  | .marketOrderProcessed .. => "market_order_processed"
  | .orderbookLevelUpdated .. => "orderbook_level_updated"
  | .userMarketLeverageSet .. => "user_market_leverage_set"

def Event.abci (e : Event) : AbciEvent :=
  ⟨e.typeName, e.fields.map fun (key, field) => (key, field.text)⟩

/-- Every text and every byte sequence leaves its length in 16 bits. -/
def Event.Short : Event → Prop
  | .impactMarketCreated _ _ _ _ _ _ question _ _ => (utf8 question).length < 2^16
  | .depositConfirmed _ _ _ solanaTxSig => solanaTxSig.length < 2^15
  | .depositFailed solanaSignature _ => solanaSignature.length < 2^15
  | .withdrawalConfirmed _ solanaTxSig => solanaTxSig.length < 2^15
  | .withdrawalFailed _ _ _ _ reason => (utf8 reason).length < 2^16
  | _ => True

theorem Event.toSnakeCase_variant (e : Event) : toSnakeCase e.variant = e.typeName := by
  cases e <;> simp only [Event.variant, Event.typeName] <;> decide

theorem length_utf8_le (s : String) : (utf8 s).length ≤ 4 * s.length := by
  have hchars (l : List Char) : (l.flatMap String.utf8EncodeChar).length ≤ 4 * l.length := by
    induction l with
    | nil => rfl
    | cons c l ih =>
      have hc := c.utf8Size_le_four
      rw [List.flatMap_cons, List.length_append, String.length_utf8EncodeChar, List.length_cons]
      omega
  have h := hchars s.toList
  rwa [← utf8_ofList, String.ofList_toList, String.length_toList] at h

theorem length_utf8_lt {s : String} (h : s.length < 2^14) : (utf8 s).length < 2^16 := by
  have hle := length_utf8_le s
  omega

theorem Event.typeName_length (e : Event) : e.typeName.length < 2^14 := by
  cases e <;> simp only [Event.typeName] <;> decide

theorem Event.keys_length (e : Event) : ∀ key ∈ e.fields.map Prod.fst, key.length < 2^14 := by
  cases e <;> simp only [Event.fields, List.map] <;> decide

theorem Event.fields_length (e : Event) : e.fields.length < 2^16 := by
  cases e <;> simp only [Event.fields, List.length] <;> decide

/-- A type whose texts are all short. -/
class ShortDisplay (α : Type) [Display α] : Prop where
  length_display : ∀ x : α, (display x).length < 2^14

theorem length_repr_lt {n : Nat} (h : n < 2^64) : n.repr.length ≤ 20 :=
  (Nat.length_repr_le_iff (by decide)).mpr (h.trans (by decide))

instance : ShortDisplay Bool := ⟨by decide⟩

instance : ShortDisplay UInt8 where
  length_display n := by
    have h := length_repr_lt (n.toNat_lt.trans (by decide))
    exact h.trans_lt (by decide)

instance : ShortDisplay UInt32 where
  length_display n := by
    have h := length_repr_lt (n.toNat_lt.trans (by decide))
    exact h.trans_lt (by decide)

instance : ShortDisplay UInt64 where
  length_display n := by
    have h := length_repr_lt n.toNat_lt
    exact h.trans_lt (by decide)

instance : ShortDisplay Int64 where
  length_display n := by
    have hlow := n.le_toInt
    have hhigh := n.toInt_lt
    have habs : n.toInt.natAbs < 2^64 := by omega
    have h := length_repr_lt habs
    show (if n.toInt < 0 then "-" ++ n.toInt.natAbs.repr else n.toInt.natAbs.repr).length < 2^14
    split
    · rw [String.length_append]
      have hsign : "-".length = 1 := rfl
      omega
    · omega

instance : ShortDisplay Side where
  length_display s := by cases s <;> decide

instance : ShortDisplay Outcome where
  length_display o := by cases o <;> decide

instance : ShortDisplay CancelReason where
  length_display r := by cases r <;> decide

instance : ShortDisplay FailDepositReason where
  length_display r := by cases r <;> decide

/-- The length of the text is the one that its header announces. -/
def AbciField.Fits (field : AbciField) : Prop := (utf8 field.text).length < 2^16

section Fits

variable {α : Type} [Display α] [ShortDisplay α]

theorem length_utf8_display (x : α) : (utf8 (display x)).length < 2^16 :=
  length_utf8_lt (ShortDisplay.length_display x)

@[simp] theorem fits_other (x : α) : (AbciField.other (display x)).Fits := length_utf8_display x

end Fits

@[simp] theorem fits_u64 (n : UInt64) : (AbciField.u64 n).Fits := length_utf8_display n
@[simp] theorem fits_u32 (n : UInt32) : (AbciField.u32 n).Fits := length_utf8_display n
@[simp] theorem fits_i64 (n : Int64) : (AbciField.i64 n).Fits := length_utf8_display n

@[simp] theorem fits_string (s : String) :
    (AbciField.other (display s)).Fits ↔ (utf8 s).length < 2^16 := Iff.rfl

@[simp] theorem fits_vecU8 (bytes : Bytes) : (AbciField.vecU8 bytes).Fits ↔ bytes.length < 2^15 := by
  rw [AbciField.Fits, AbciField.text, length_utf8_hexText]
  omega

@[simp] theorem fits_byteArray {n : Nat} (bytes : FixedBytes n) (h : n < 2^15) :
    (AbciField.byteArray bytes.1).Fits := by
  have hlen := bytes.2
  rw [AbciField.Fits, AbciField.text, length_utf8_hexText]
  omega

theorem Event.short_iff_fits (e : Event) : e.Short ↔ ∀ attr ∈ e.fields, attr.2.Fits := by
  cases e <;> simp [Event.Short, Event.fields]

end TradingSdk
