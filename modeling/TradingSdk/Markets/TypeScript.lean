import TradingSdk.Js.GovernanceSlots
import TradingSdk.Json.Double
import TradingSdk.Markets.Shown

namespace TradingSdk.Js

open Serde Msgpack

/-- `Number(value)`. A bigint is rounded to a double. -/
def asNumber : JsVal → Option Int
  | .number n => some n
  | .bigint n =>
    match Json.Double.ofRat n with
    | .finite q => some q.num
    | .infinite _ => none
  | .bool b => some (if b then 1 else 0)
  | .null => some 0
  | _ => none

/-- `BigInt(value)`. -/
def asBigInt : JsVal → Option Int
  | .bigint n => some n
  | .number n => some n
  | .bool b => some (if b then 1 else 0)
  | _ => none

/-- `String(value)`. -/
def asString : JsVal → Option String
  | .string s => some s
  | .number n => some (ToString.toString n)
  | .bigint n => some (ToString.toString n)
  | .bool b => some (if b then "true" else "false")
  | .undefined => some "undefined"
  | .null => some "null"
  | _ => none

/-- `v == null ? undefined : f(v)`. -/
def optionally (f : JsVal → Option JsVal) (v : JsVal) : Option JsVal :=
  if v.isNullish then some .undefined else f v

def number (v : JsVal) : Option JsVal := (asNumber v).map .number

def bigint (v : JsVal) : Option JsVal := (asBigInt v).map .bigint

def optNumber : JsVal → Option JsVal := optionally number

def optBig : JsVal → Option JsVal := optionally bigint

def optBoolean : JsVal → Option JsVal := optionally fun v => some (.bool v.isTruthy)

def optString : JsVal → Option JsVal := optionally fun v => (asString v).map .string

def addr : JsVal → Option JsVal := optionally fun v => (toByteArray v).toOption

def marketVariant (name : String) (items : List JsVal) : Option JsVal := do
  let impactId ← number (slot items 0)
  return .object [(name, .array [impactId, slot items 1])]

def decodeKind : JsVal → Option JsVal
  | .string s => some (.string s)
  | v =>
    match v.get "ConditionalPerp" with
    | .array items => marketVariant "ConditionalPerp" items
    | _ =>
      match v.get "PredictionBinary" with
      | .array items => marketVariant "PredictionBinary" items
      | _ => some .undefined

def decodeFeeTier : JsVal → Option JsVal
  | .array t => do
    let min30dVolumeMicroUsdc ← bigint (slot t 0)
    let makerFeeTenthBps ← number (slot t 1)
    let takerFeeTenthBps ← number (slot t 2)
    return .object [("min30dVolumeMicroUsdc", min30dVolumeMicroUsdc),
      ("makerFeeTenthBps", makerFeeTenthBps), ("takerFeeTenthBps", takerFeeTenthBps)]
  | _ => none

def decodeFeeTiers : JsVal → Option JsVal
  | .array tiers => (tiers.mapM decodeFeeTier).map .array
  | _ => some .undefined

def decodeMarketConfig (raw : List JsVal) : Option JsVal := do
  let kind ← decodeKind (slot raw 7)
  let feeTiers ← decodeFeeTiers (slot raw 13)
  let market ← number (slot raw 0)
  let imBps ← number (slot raw 1)
  let mmBps ← number (slot raw 2)
  let takerFeeBps ← number (slot raw 3)
  let makerFeeBps ← number (slot raw 4)
  let fundingIntervalMs ← bigint (slot raw 5)
  let maxFundingRateBps ← number (slot raw 6)
  let maxPositionSize ← optBig (slot raw 8)
  let defaultTtlMs ← optBig (slot raw 9)
  let netDeltaMargin ← optBoolean (slot raw 10)
  let poolId ← optNumber (slot raw 11)
  let markPriceMaxOracleAgeMs ← optBig (slot raw 12)
  let tickSize ← optBig (slot raw 14)
  let lotSize ← optBig (slot raw 15)
  let primaryOracleSigner ← addr (slot raw 16)
  let oracleStalenessMs ← optBig (slot raw 17)
  let markSourceMode ← optionally some (slot raw 18)
  let maxMarkSpreadBps ← optNumber (slot raw 19)
  let cexCompositeStalenessMs ← optBig (slot raw 20)
  let partialLiquidationEnabled ← optBoolean (slot raw 21)
  let szDecimals ← optNumber (slot raw 22)
  let ticker ← optString (slot raw 23)
  let maxOpenInterest ← optBig (slot raw 24)
  return .object [("market", market), ("imBps", imBps), ("mmBps", mmBps),
    ("takerFeeBps", takerFeeBps), ("makerFeeBps", makerFeeBps),
    ("fundingIntervalMs", fundingIntervalMs), ("maxFundingRateBps", maxFundingRateBps),
    ("kind", kind), ("maxPositionSize", maxPositionSize), ("defaultTtlMs", defaultTtlMs),
    ("netDeltaMargin", netDeltaMargin), ("poolId", poolId),
    ("markPriceMaxOracleAgeMs", markPriceMaxOracleAgeMs), ("feeTiers", feeTiers),
    ("tickSize", tickSize), ("lotSize", lotSize), ("primaryOracleSigner", primaryOracleSigner),
    ("oracleStalenessMs", oracleStalenessMs), ("markSourceMode", markSourceMode),
    ("maxMarkSpreadBps", maxMarkSpreadBps), ("cexCompositeStalenessMs", cexCompositeStalenessMs),
    ("partialLiquidationEnabled", partialLiquidationEnabled), ("szDecimals", szDecimals),
    ("ticker", ticker), ("maxOpenInterest", maxOpenInterest)]

section Slots

variable {present : Bool} {m : Msg} {raw : List JsVal} {i : Nat}

theorem slot_eq (raw : List JsVal) (i : Nat) : slot raw i = raw[i]?.getD .undefined := by
  rw [slot, List.getD_eq_getElem?_getD]

theorem jsOfMsg_slot (h : Arrives jsOfMsg true m raw[i]?) : jsOfMsg m = some (slot raw i) := by
  obtain ⟨v, hfound, hv⟩ := h
  rw [slot_eq, hfound, hv, Option.getD_some]

theorem isNullish_slot (h : Arrives jsOfMsg false m raw[i]?) : (slot raw i).isNullish = true := by
  rw [slot_eq]
  cases hfound : raw[i]? with
  | none => rfl
  | some v =>
    obtain rfl : JsVal.null = v := Option.some.inj (h v hfound)
    rfl

/-- What an optional field reads: the value that is there, and `undefined` otherwise. -/
theorem optionally_slot {α : Type} {f : JsVal → Option JsVal} {g : α → JsVal} {a : α}
    (hf : ∀ v, jsOfMsg m = some v → v.isNullish = false ∧ f v = some (g a))
    (h : Arrives jsOfMsg present m raw[i]?) :
    optionally f (slot raw i) = some (Rendering.ts.optional g (shownIf present a)) := by
  cases present with
  | true =>
    obtain ⟨hnullish, hv⟩ := hf _ (jsOfMsg_slot h)
    rw [optionally, hnullish, if_neg Bool.false_ne_true, hv]
    rfl
  | false =>
    rw [optionally, if_pos (isNullish_slot h)]
    rfl

theorem jsInt_isNullish (n : Int) : (jsInt n).isNullish = false := by
  rw [jsInt]
  split_ifs <;> rfl

theorem bigint_jsInt (n : Int) : bigint (jsInt n) = some (.bigint n) := by
  rw [jsInt]
  split_ifs <;> rfl

theorem number_jsInt {n : Int} (hlo : -2^31 ≤ n) (hhi : n < 2^32) :
    number (jsInt n) = some (.number n) := by
  rw [jsInt, if_pos ⟨hlo, hhi⟩]
  rfl

theorem number_u8 (n : UInt8) : number (jsInt n.toNat) = some (Rendering.ts.u8 n) := by
  have h := n.toNat_lt
  exact number_jsInt (by omega) (by omega)

theorem number_u32 (n : UInt32) : number (jsInt n.toNat) = some (Rendering.ts.u32 n) := by
  have h := n.toNat_lt
  exact number_jsInt (by omega) (by omega)

theorem number_i16 (n : Int16) : number (jsInt n.toInt) = some (.number n.toInt) := by
  have hlo := n.le_toInt
  have hhi := n.toInt_lt
  exact number_jsInt (by omega) (by omega)

theorem slot_int {n : Int} (h : Arrives jsOfMsg true (.int n) raw[i]?) : slot raw i = jsInt n := by
  have hv := jsOfMsg_slot h
  rw [jsOfMsg_int] at hv
  exact (Option.some.inj hv).symm

theorem number_slot (n : UInt32) (h : Arrives jsOfMsg true (.int n.toNat) raw[i]?) :
    number (slot raw i) = some (Rendering.ts.u32 n) := by
  rw [slot_int h, number_u32]

theorem bigint_slot (n : UInt64) (h : Arrives jsOfMsg true (.int n.toNat) raw[i]?) :
    bigint (slot raw i) = some (Rendering.ts.u64 n) := by
  rw [slot_int h, bigint_jsInt]
  rfl

theorem optBig_slot (n : UInt64) (h : Arrives jsOfMsg present (.int n.toNat) raw[i]?) :
    optBig (slot raw i) = some (Rendering.ts.optional Rendering.ts.u64 (shownIf present n)) := by
  refine optionally_slot (fun v hv => ?_) h
  rw [jsOfMsg_int] at hv
  obtain rfl := Option.some.inj hv
  exact ⟨jsInt_isNullish _, bigint_jsInt _⟩

theorem optNumber_u8 (n : UInt8) (h : Arrives jsOfMsg present (.int n.toNat) raw[i]?) :
    optNumber (slot raw i) = some (Rendering.ts.optional Rendering.ts.u8 (shownIf present n)) := by
  refine optionally_slot (fun v hv => ?_) h
  rw [jsOfMsg_int] at hv
  obtain rfl := Option.some.inj hv
  exact ⟨jsInt_isNullish _, number_u8 n⟩

theorem optNumber_u32 (n : UInt32) (h : Arrives jsOfMsg present (.int n.toNat) raw[i]?) :
    optNumber (slot raw i) = some (Rendering.ts.optional Rendering.ts.u32 (shownIf present n)) := by
  refine optionally_slot (fun v hv => ?_) h
  rw [jsOfMsg_int] at hv
  obtain rfl := Option.some.inj hv
  exact ⟨jsInt_isNullish _, number_u32 n⟩

theorem optBoolean_slot (b : Bool) (h : Arrives jsOfMsg present (.bool b) raw[i]?) :
    optBoolean (slot raw i) = some (Rendering.ts.optional Rendering.ts.bool (shownIf present b)) := by
  refine optionally_slot (fun v hv => ?_) h
  rw [jsOfMsg] at hv
  obtain rfl := Option.some.inj hv
  exact ⟨rfl, rfl⟩

theorem optString_slot (s : String) (h : Arrives jsOfMsg present (.str (utf8 s)) raw[i]?) :
    optString (slot raw i) = some (Rendering.ts.optional Rendering.ts.string (shownIf present s)) := by
  refine optionally_slot (fun v hv => ?_) h
  rw [jsOfMsg_utf8] at hv
  obtain rfl := Option.some.inj hv
  exact ⟨rfl, rfl⟩

theorem markSourceMode_slot (mode : MarkSourceMode)
    (h : Arrives jsOfMsg present (MarkSourceMode.schema.toMsg mode) raw[i]?) :
    optionally some (slot raw i) =
      some (Rendering.ts.optional (fun m => Rendering.ts.string m.name) (shownIf present mode)) := by
  refine optionally_slot (fun v hv => ?_) h
  rw [mode.toMsg_eq, jsOfMsg_utf8] at hv
  obtain rfl := Option.some.inj hv
  exact ⟨rfl, rfl⟩

theorem addr_slot (signer : Option (FixedBytes 20))
    (h : Arrives jsOfMsg present ((Schema.option (.fixedBytes 20 bareBytes)).toMsg signer) raw[i]?) :
    addr (slot raw i) = some (Rendering.ts.optional (fun a => Rendering.ts.bytes a.1)
      (if present then signer else none)) := by
  cases signer with
  | none =>
    have hnullish : (slot raw i).isNullish = true := by
      cases present with
      | true => exact Option.some.inj (jsOfMsg_slot h) ▸ rfl
      | false => exact isNullish_slot h
    rw [addr, optionally, if_pos hnullish, ite_self]
    rfl
  | some a =>
    refine optionally_slot (a := a) (fun v hv => ?_) h
    have hbytes : jsOfMsg (bareBytes.toMsg a.1) = some (.array (byteNumbers a.1)) :=
      jsOfMsg_byteForm rfl _
    obtain rfl := Option.some.inj (hbytes.symm.trans hv)
    refine ⟨rfl, ?_⟩
    rw [toByteArray, mapM_toUint8]
    rfl

/-- A market variant as the MessagePack decoder delivers it. -/
theorem jsOfMsg_marketVariant (name : String) (id : UInt32) (branch : Branch) :
    jsOfMsg (.map [(.str (utf8 name), .arr [.int id.toNat, Branch.schema.toMsg branch])]) =
      some (.object [(name, .array [jsInt id.toNat, .string branch.name])]) := by
  apply jsOfMsg_variant
  apply jsOfMsg_arr
  rw [branch.toMsg_eq]
  simp only [jsOfMsgs, jsOfMsg_int, jsOfMsg_utf8, Option.bind_some, Option.map_some]

theorem marketVariant_eq (name : String) (id : UInt32) (branch : Branch) :
    marketVariant name [jsInt id.toNat, .string branch.name] = some (Rendering.ts.record
      [(name, Rendering.ts.list [Rendering.ts.u32 id, Rendering.ts.string branch.name])]) := by
  rw [marketVariant, slot_zero, slot_one, number_u32]
  rfl

theorem decodeKind_slot (kind : MarketKind)
    (h : Arrives jsOfMsg present (MarketKind.schema.toMsg kind) raw[i]?) :
    decodeKind (slot raw i) =
      some (Rendering.ts.optional (MarketKind.render Rendering.ts) (shownIf present kind)) := by
  cases present with
  | false =>
    have hnullish := isNullish_slot h
    revert hnullish
    cases slot raw i with
    | undefined => exact fun _ => rfl
    | null => exact fun _ => rfl
    | _ => intro hnullish; cases hnullish
  | true =>
    have hv := jsOfMsg_slot h
    cases kind with
    | perp =>
      have hperp : some (JsVal.string "Perp") = some (slot raw i) :=
        (jsOfMsg_utf8 "Perp").symm.trans hv
      rw [← Option.some.inj hperp]
      rfl
    | conditionalPerp id branch =>
      rw [← Option.some.inj ((jsOfMsg_marketVariant "ConditionalPerp" id branch).symm.trans hv)]
      exact marketVariant_eq "ConditionalPerp" id branch
    | predictionBinary id branch =>
      rw [← Option.some.inj ((jsOfMsg_marketVariant "PredictionBinary" id branch).symm.trans hv)]
      exact marketVariant_eq "PredictionBinary" id branch

def feeTierRow (tier : FeeTier) : JsVal :=
  .array [jsInt tier.min30dVolumeMicroUsdc.toNat, jsInt tier.makerFeeTenthBps.toInt,
    jsInt tier.takerFeeTenthBps.toInt]

theorem jsOfMsg_feeTiers (tiers : List FeeTier) :
    jsOfMsg (.arr (tiers.map FeeTier.schema.toMsg)) = some (.array (tiers.map feeTierRow)) := by
  apply jsOfMsg_arr
  induction tiers with
  | nil => rfl
  | cons tier tiers ih =>
    have hrow : jsOfMsg (FeeTier.schema.toMsg tier) = some (feeTierRow tier) := by
      have hmsg : FeeTier.schema.toMsg tier = .arr [.int tier.min30dVolumeMicroUsdc.toNat,
        .int tier.makerFeeTenthBps.toInt, .int tier.takerFeeTenthBps.toInt] := rfl
      rw [hmsg]
      apply jsOfMsg_arr
      simp only [jsOfMsgs, jsOfMsg_int, Option.bind_some, Option.map_some]
    rw [List.map_cons, jsOfMsgs, hrow, ih]
    rfl

theorem decodeFeeTier_row (tier : FeeTier) :
    decodeFeeTier (feeTierRow tier) = some (tier.render Rendering.ts) := by
  rw [feeTierRow, decodeFeeTier, slot_zero, slot_one, slot_two, bigint_jsInt, number_i16, number_i16]
  rfl

theorem decodeFeeTiers_slot (tiers : List FeeTier)
    (h : Arrives jsOfMsg present (.arr (tiers.map FeeTier.schema.toMsg)) raw[i]?) :
    decodeFeeTiers (slot raw i) = some (Rendering.ts.optional
      (fun tiers => Rendering.ts.list (tiers.map (FeeTier.render Rendering.ts)))
      (shownIf present tiers)) := by
  cases present with
  | false =>
    have hnullish := isNullish_slot h
    revert hnullish
    cases slot raw i with
    | array items => intro hnullish; cases hnullish
    | _ => exact fun _ => rfl
  | true =>
    have hv := jsOfMsg_slot h
    rw [jsOfMsg_feeTiers] at hv
    rw [← Option.some.inj hv, decodeFeeTiers, mapM_map_eq decodeFeeTier_row]
    rfl

end Slots

/-- A record that arrives slot by slot decodes to what it shows. -/
theorem decodeMarketConfig_record (x : MarketConfig) {present : Nat → Bool} {raw : List JsVal}
    (hfront : ∀ i < 7, present i = true)
    (h : ∀ i m, x.slots[i]? = some m → Arrives jsOfMsg (present i) m raw[i]?) :
    decodeMarketConfig raw = some ((x.shown present).render Rendering.ts) := by
  have hu32 : ∀ i < 7, ∀ n : UInt32, x.slots[i]? = some (.int n.toNat) →
      number (slot raw i) = some (Rendering.ts.u32 n) := by
    intro i hi n hn
    have hslot := h i _ hn
    rw [hfront i hi] at hslot
    exact number_slot n hslot
  have hinterval : bigint (slot raw 5) = some (Rendering.ts.u64 x.fundingIntervalMs) := by
    have hslot := h 5 _ rfl
    rw [hfront 5 (by decide)] at hslot
    exact bigint_slot _ hslot
  rw [decodeMarketConfig, decodeKind_slot x.kind (h 7 _ rfl), decodeFeeTiers_slot x.feeTiers (h 13 _ rfl),
    hu32 0 (by decide) x.market rfl, hu32 1 (by decide) x.imBps rfl, hu32 2 (by decide) x.mmBps rfl,
    hu32 3 (by decide) x.takerFeeBps rfl, hu32 4 (by decide) x.makerFeeBps rfl, hinterval,
    hu32 6 (by decide) x.maxFundingRateBps rfl, optBig_slot x.maxPositionSize (h 8 _ rfl),
    optBig_slot x.defaultTtlMs (h 9 _ rfl), optBoolean_slot x.netDeltaMargin (h 10 _ rfl),
    optNumber_u8 x.poolId (h 11 _ rfl), optBig_slot x.markPriceMaxOracleAgeMs (h 12 _ rfl),
    optBig_slot x.tickSize (h 14 _ rfl), optBig_slot x.lotSize (h 15 _ rfl),
    addr_slot x.primaryOracleSigner (h 16 _ rfl), optBig_slot x.oracleStalenessMs (h 17 _ rfl),
    markSourceMode_slot x.markSourceMode (h 18 _ rfl), optNumber_u32 x.maxMarkSpreadBps (h 19 _ rfl),
    optBig_slot x.cexCompositeStalenessMs (h 20 _ rfl),
    optBoolean_slot x.partialLiquidationEnabled (h 21 _ rfl), optNumber_u8 x.szDecimals (h 22 _ rfl),
    optString_slot x.ticker (h 23 _ rfl), optBig_slot x.maxOpenInterest (h 24 _ rfl)]
  rfl

theorem jsOfMsgs_eq_mapM (ms : List Msg) : jsOfMsgs ms = ms.mapM jsOfMsg := by
  induction ms with
  | nil => rfl
  | cons m ms ih =>
    rw [jsOfMsgs, ih, List.mapM_cons]
    cases jsOfMsg m with
    | none => rfl
    | some v => cases ms.mapM jsOfMsg <;> rfl

theorem isSome_jsOfMsg_kind (kind : MarketKind) :
    (jsOfMsg (MarketKind.schema.toMsg kind)).isSome = true := by
  cases kind with
  | perp => exact Option.isSome_of_eq_some (jsOfMsg_utf8 "Perp")
  | conditionalPerp id branch =>
    exact Option.isSome_of_eq_some (jsOfMsg_marketVariant "ConditionalPerp" id branch)
  | predictionBinary id branch =>
    exact Option.isSome_of_eq_some (jsOfMsg_marketVariant "PredictionBinary" id branch)

theorem isSome_jsOfMsg_signer (signer : Option (FixedBytes 20)) :
    (jsOfMsg ((Schema.option (.fixedBytes 20 bareBytes)).toMsg signer)).isSome = true := by
  cases signer with
  | none => rfl
  | some a =>
    have hform : bareBytes.wireScalar = false := rfl
    exact Option.isSome_of_eq_some (jsOfMsg_byteForm hform a.1)

theorem isSome_jsOfMsg_slots (x : MarketConfig) : ∀ m ∈ x.slots, (jsOfMsg m).isSome = true := by
  have hint (n : Int) : (jsOfMsg (.int n)).isSome = true := Option.isSome_of_eq_some (jsOfMsg_int n)
  have htiers := Option.isSome_of_eq_some (jsOfMsg_feeTiers x.feeTiers)
  have hmode : (jsOfMsg (MarkSourceMode.schema.toMsg x.markSourceMode)).isSome = true :=
    Option.isSome_of_eq_some (x.markSourceMode.toMsg_eq ▸ jsOfMsg_utf8 _)
  have hticker := Option.isSome_of_eq_some (jsOfMsg_utf8 x.ticker)
  have hbool (b : Bool) : (jsOfMsg (.bool b)).isSome = true := Option.isSome_of_eq_some (by rw [jsOfMsg])
  refine List.forall_iff_forall_mem.mp ?_
  exact ⟨hint _, hint _, hint _, hint _, hint _, hint _, hint _, isSome_jsOfMsg_kind _, hint _, hint _,
    hbool _, hint _, hint _, htiers, hint _, hint _, isSome_jsOfMsg_signer _, hint _, hmode, hint _,
    hint _, hbool _, hint _, hticker, hint _⟩

end TradingSdk.Js
