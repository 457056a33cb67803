import TradingSdk.Markets.Shown

namespace TradingSdk.Python

open Serde Msgpack

mutual
/-- The Python value of a MessagePack value, where the client relies on one: maps are enum
variants, with a single entry under a text. -/
def pyOfMsg : Msg → Option Content
  | .nil => some .null
  | .bool b => some (.bool b)
  | .int n => some (.int n)
  | .str bytes => (ofUtf8 bytes).map .str
  | .bin bytes => some (.bytes bytes)
  | .arr items => (pyOfMsgs items).map .seq
  | .map [(.str key, v)] => (ofUtf8 key).bind fun k => (pyOfMsg v).map fun w => .map [(k, w)]
  | _ => none
def pyOfMsgs : List Msg → Option (List Content)
  | [] => some []
  | m :: ms => (pyOfMsg m).bind fun v => (pyOfMsgs ms).map fun vs => v :: vs
end

/-- `unpackb` as the client relies on it. -/
structure Unpacker where
  unpackb : Bytes → Except String Content
  unpackb_encode : ∀ (m : Msg) (v : Content), m.Fits → pyOfMsg m = some v →
    unpackb m.encode = .ok v

/-- The decoder of this library behind the interface. -/
def Unpacker.reference : Unpacker where
  unpackb bs :=
    match Msgpack.decode bs with
    | some (m, []) =>
      match pyOfMsg m with
      | some v => .ok v
      | none => .error "unsupported value"
    | some (_, _ :: _) => .error "unpack(b) received extra data."
    | none => .error "Unpack failed: incomplete input"
  unpackb_encode m v hm hv := by
    have h := Msgpack.decode_encode m hm []
    rw [List.append_nil] at h
    simp only [h, hv]

/-- `int(value)`. -/
def asInt : Content → Option Int
  | .int n => some n
  | .bool b => some (if b then 1 else 0)
  | _ => none

/-- `bool(value)`. -/
def isTrue : Content → Bool
  | .null => false
  | .bool b => b
  | .int n => n ≠ 0
  | .str s => s ≠ ""
  | .bytes bs => !bs.isEmpty
  | .seq items => !items.isEmpty
  | .map entries => !entries.isEmpty

/-- `str(value)`. -/
def asStr : Content → Option String
  | .str s => some s
  | .int n => some (toString n)
  | .bool b => some (if b then "True" else "False")
  | .null => some "None"
  | _ => none

/-- An element of `bytes(value)`. -/
def byteOf : Content → Option UInt8
  | .int n => if 0 ≤ n ∧ n < 256 then some (UInt8.ofNat n.toNat) else none
  | .bool b => some (if b then 1 else 0)
  | _ => none

/-- `_to_bytes`. -/
def toBytes : Content → Option Content
  | .bytes bs => some (.bytes bs)
  | .seq items => (items.mapM byteOf).map .bytes
  | _ => some (.bytes [])

/-- `len(raw) > i and raw[i] is not None`, with the value. -/
def present (raw : List Content) (i : Nat) : Option Content :=
  match raw[i]? with
  | some v => if v.isNull then none else some v
  | none => none

/-- `f(raw[i]) if len(raw) > i and raw[i] is not None else None`. -/
def optionally (f : Content → Option Content) (raw : List Content) (i : Nat) : Option Content :=
  match present raw i with
  | some v => f v
  | none => some .null

def opt : List Content → Nat → Option Content := optionally fun v => (asInt v).map .int

def at_ (raw : List Content) (i : Nat) : Option Content :=
  match present raw i with
  | some v => (asInt v).map .int
  | none => some (.int 0)

def flag : List Content → Nat → Option Content := optionally fun v => some (.bool (isTrue v))

/-- The payload of a variant, when the value has it in the form of a tuple. -/
def marketVariant (variant : String) (k : List (String × Content)) : Option (List Content) :=
  match k.lookup variant with
  | some (.seq v) => if 2 ≤ v.length then some v else none
  | _ => none

def variantKind (variant : String) (v : List Content) : Option Content := do
  let id ← v[0]?.bind asInt
  let branch ← v[1]?
  return .map [(variant, .seq [.int id, branch])]

def decodeKind : Option Content → Option Content
  | some (.str s) => some (.str s)
  | some (.map k) =>
    match marketVariant "ConditionalPerp" k with
    | some v => variantKind "ConditionalPerp" v
    | none =>
      match marketVariant "PredictionBinary" k with
      | some v => variantKind "PredictionBinary" v
      | none => some .null
  | _ => some .null

def decodeFeeTier (ft : List Content) : Option Content := do
  let min30dVolumeMicroUsdc ← ft[0]?.bind asInt
  let makerFeeTenthBps ← ft[1]?.bind asInt
  let takerFeeTenthBps ← ft[2]?.bind asInt
  return .map [("min_30d_volume_micro_usdc", .int min30dVolumeMicroUsdc),
    ("maker_fee_tenth_bps", .int makerFeeTenthBps), ("taker_fee_tenth_bps", .int takerFeeTenthBps)]

/-- The fee tiers that are tuples of at least three elements. -/
def feeTierRows (tiers : List Content) : List (List Content) :=
  tiers.filterMap fun ft => match ft with
    | .seq row => if 3 ≤ row.length then some row else none
    | _ => none

def decodeFeeTiers : Option Content → Option Content
  | some (.seq tiers) => ((feeTierRows tiers).mapM decodeFeeTier).map .seq
  | _ => some .null

def decodeMarketConfig (raw : List Content) : Option Content := do
  let kind ← decodeKind raw[7]?
  let feeTiers ← decodeFeeTiers raw[13]?
  let market ← at_ raw 0
  let imBps ← at_ raw 1
  let mmBps ← at_ raw 2
  let takerFeeBps ← at_ raw 3
  let makerFeeBps ← at_ raw 4
  let fundingIntervalMs ← at_ raw 5
  let maxFundingRateBps ← at_ raw 6
  let maxPositionSize ← opt raw 8
  let defaultTtlMs ← opt raw 9
  let netDeltaMargin ← flag raw 10
  let poolId ← opt raw 11
  let markPriceMaxOracleAgeMs ← opt raw 12
  let tickSize ← opt raw 14
  let lotSize ← opt raw 15
  let primaryOracleSigner ← optionally toBytes raw 16
  let oracleStalenessMs ← opt raw 17
  let markSourceMode ← optionally some raw 18
  let maxMarkSpreadBps ← opt raw 19
  let cexCompositeStalenessMs ← opt raw 20
  let partialLiquidationEnabled ← flag raw 21
  let szDecimals ← opt raw 22
  let ticker ← optionally (fun v => (asStr v).map .str) raw 23
  let maxOpenInterest ← opt raw 24
  return .map [("market", market), ("im_bps", imBps), ("mm_bps", mmBps),
    ("taker_fee_bps", takerFeeBps), ("maker_fee_bps", makerFeeBps),
    ("funding_interval_ms", fundingIntervalMs), ("max_funding_rate_bps", maxFundingRateBps),
    ("kind", kind), ("max_position_size", maxPositionSize), ("default_ttl_ms", defaultTtlMs),
    ("net_delta_margin", netDeltaMargin), ("pool_id", poolId),
    ("mark_price_max_oracle_age_ms", markPriceMaxOracleAgeMs), ("fee_tiers", feeTiers),
    ("tick_size", tickSize), ("lot_size", lotSize), ("primary_oracle_signer", primaryOracleSigner),
    ("oracle_staleness_ms", oracleStalenessMs), ("mark_source_mode", markSourceMode),
    ("max_mark_spread_bps", maxMarkSpreadBps), ("cex_composite_staleness_ms", cexCompositeStalenessMs),
    ("partial_liquidation_enabled", partialLiquidationEnabled), ("sz_decimals", szDecimals),
    ("ticker", ticker), ("max_open_interest", maxOpenInterest)]

theorem pyOfMsgs_eq_mapM (ms : List Msg) : pyOfMsgs ms = ms.mapM pyOfMsg := by
  induction ms with
  | nil => rfl
  | cons m ms ih =>
    rw [pyOfMsgs, ih, List.mapM_cons]
    cases pyOfMsg m with
    | none => rfl
    | some v => cases ms.mapM pyOfMsg <;> rfl

theorem pyOfMsg_arr {items : List Msg} {values : List Content} (h : items.mapM pyOfMsg = some values) :
    pyOfMsg (.arr items) = some (.seq values) := by
  rw [pyOfMsg, pyOfMsgs_eq_mapM, h, Option.map_some]

@[simp] theorem pyOfMsg_int (n : Int) : pyOfMsg (.int n) = some (.int n) := by rw [pyOfMsg]

@[simp] theorem pyOfMsg_bool (b : Bool) : pyOfMsg (.bool b) = some (.bool b) := by rw [pyOfMsg]

@[simp] theorem pyOfMsg_utf8 (s : String) : pyOfMsg (.str (utf8 s)) = some (.str s) := by
  rw [pyOfMsg, ofUtf8_utf8]
  rfl

theorem pyOfMsg_variant (name : String) {m : Msg} {v : Content} (h : pyOfMsg m = some v) :
    pyOfMsg (.map [(.str (utf8 name), m)]) = some (.map [(name, v)]) := by
  rw [pyOfMsg, ofUtf8_utf8, h]
  rfl

section Slots

variable {held : Bool} {m : Msg} {raw : List Content} {i : Nat}

theorem present_slot {v : Content} (hv : pyOfMsg m = some v)
    (h : Arrives pyOfMsg held m raw[i]?) :
    present raw i = if held && !v.isNull then some v else none := by
  cases held with
  | true =>
    obtain ⟨w, hfound, hw⟩ := h
    obtain rfl := Option.some.inj (hv.symm.trans hw)
    rw [present, hfound]
    cases hnull : v.isNull <;> simp [hnull]
  | false =>
    rw [present]
    cases hfound : raw[i]? with
    | none => rfl
    | some w =>
      obtain rfl : Content.null = w := Option.some.inj (h w hfound)
      rfl

/-- What an optional field reads: the value that is there, and `None` otherwise. -/
theorem optionally_slot {α : Type} {f : Content → Option Content} {g : α → Content} {a : α}
    {v : Content} (hv : pyOfMsg m = some v) (hnull : v.isNull = false) (hf : f v = some (g a))
    (h : Arrives pyOfMsg held m raw[i]?) :
    optionally f raw i = some (Rendering.py.optional g (shownIf held a)) := by
  rw [optionally, present_slot hv h, hnull]
  cases held with
  | true => exact hf
  | false => rfl

theorem at_slot (n : Nat) (h : Arrives pyOfMsg true (.int n) raw[i]?) :
    at_ raw i = some (.int n) := by
  rw [at_, present_slot (pyOfMsg_int n) h]
  rfl

theorem toBytes_numbers (bs : Bytes) : toBytes (.seq (Content.ofBytes bs)) = some (.bytes bs) := by
  have hbyte (b : UInt8) : byteOf (.int b.toNat) = some b := by
    have h := b.toNat_lt
    rw [byteOf, if_pos (by omega), Int.toNat_natCast, UInt8.ofNat_toNat]
  rw [toBytes, Content.ofBytes, mapM_map_of_inverse hbyte]
  rfl

theorem pyOfMsg_bytes (bs : Bytes) :
    pyOfMsg (bareBytes.toMsg bs) = some (.seq (Content.ofBytes bs)) :=
  pyOfMsg_arr (mapM_map_eq (fun _ => pyOfMsg_int _) bs)

theorem signer_slot (signer : Option (FixedBytes 20))
    (h : Arrives pyOfMsg held ((Schema.option (.fixedBytes 20 bareBytes)).toMsg signer) raw[i]?) :
    optionally toBytes raw i = some (Rendering.py.optional (fun a => Rendering.py.bytes a.1)
      (if held then signer else none)) := by
  cases signer with
  | none =>
    have hnil : pyOfMsg ((Schema.option (.fixedBytes 20 bareBytes)).toMsg none) = some .null := rfl
    rw [optionally, present_slot hnil h, Content.isNull, Bool.not_true, Bool.and_false,
      ite_self]
    rfl
  | some a => exact optionally_slot (a := a) (pyOfMsg_bytes a.1) rfl (toBytes_numbers a.1) h

/-- A market variant as `unpackb` delivers it. -/
theorem pyOfMsg_marketVariant (name : String) (id : UInt32) (branch : Branch) :
    pyOfMsg (.map [(.str (utf8 name), .arr [.int id.toNat, Branch.schema.toMsg branch])]) =
      some (.map [(name, .seq [.int id.toNat, .str branch.name])]) := by
  apply pyOfMsg_variant
  apply pyOfMsg_arr
  rw [branch.toMsg_eq]
  simp only [List.mapM_cons, List.mapM_nil, pyOfMsg_int, pyOfMsg_utf8]
  rfl

theorem marketVariant_of_seq {variant : String} {v : List Content} (h : 2 ≤ v.length) :
    marketVariant variant [(variant, .seq v)] = some v := by
  rw [marketVariant, List.lookup_cons_self]
  exact if_pos h

theorem variantKind_eq (variant : String) (id : UInt32) (branch : Branch) :
    variantKind variant [.int id.toNat, .str branch.name] = some (Rendering.py.record
      [(variant, Rendering.py.list [Rendering.py.u32 id, Rendering.py.string branch.name])]) := rfl

theorem decodeKind_slot (kind : MarketKind)
    (h : Arrives pyOfMsg held (MarketKind.schema.toMsg kind) raw[i]?) :
    decodeKind raw[i]? =
      some (Rendering.py.optional (MarketKind.render Rendering.py) (shownIf held kind)) := by
  cases held with
  | false =>
    cases hfound : raw[i]? with
    | none => rfl
    | some w =>
      obtain rfl : Content.null = w := Option.some.inj (h w hfound)
      rfl
  | true =>
    obtain ⟨v, hfound, hv⟩ := h
    rw [hfound]
    cases kind with
    | perp =>
      have hperp : some (Content.str "Perp") = some v := (pyOfMsg_utf8 "Perp").symm.trans hv
      rw [← Option.some.inj hperp]
      rfl
    | conditionalPerp id branch =>
      rw [← Option.some.inj ((pyOfMsg_marketVariant "ConditionalPerp" id branch).symm.trans hv),
        decodeKind, marketVariant_of_seq (by simp)]
      exact variantKind_eq "ConditionalPerp" id branch
    | predictionBinary id branch =>
      have hother : marketVariant "ConditionalPerp"
          [("PredictionBinary", .seq [.int id.toNat, .str branch.name])] = none := rfl
      have hprediction : marketVariant "PredictionBinary"
          [("PredictionBinary", .seq [.int id.toNat, .str branch.name])] =
            some [.int id.toNat, .str branch.name] := marketVariant_of_seq (by simp)
      rw [← Option.some.inj ((pyOfMsg_marketVariant "PredictionBinary" id branch).symm.trans hv),
        decodeKind, hother]
      simp only [hprediction]
      exact variantKind_eq "PredictionBinary" id branch

def feeTierRow (tier : FeeTier) : List Content :=
  [.int tier.min30dVolumeMicroUsdc.toNat, .int tier.makerFeeTenthBps.toInt,
    .int tier.takerFeeTenthBps.toInt]

theorem pyOfMsg_feeTiers (tiers : List FeeTier) :
    pyOfMsg (.arr (tiers.map FeeTier.schema.toMsg)) =
      some (.seq (tiers.map fun tier => .seq (feeTierRow tier))) := by
  refine pyOfMsg_arr (mapM_map_eq (fun tier => ?_) tiers)
  have hmsg : FeeTier.schema.toMsg tier = .arr [.int tier.min30dVolumeMicroUsdc.toNat,
    .int tier.makerFeeTenthBps.toInt, .int tier.takerFeeTenthBps.toInt] := rfl
  rw [hmsg]
  apply pyOfMsg_arr
  simp only [List.mapM_cons, List.mapM_nil, pyOfMsg_int]
  rfl

theorem feeTierRows_map (tiers : List FeeTier) :
    feeTierRows (tiers.map fun tier => .seq (feeTierRow tier)) = tiers.map feeTierRow := by
  induction tiers with
  | nil => rfl
  | cons tier tiers ih =>
    show feeTierRow tier :: feeTierRows (tiers.map fun tier => .seq (feeTierRow tier)) = _
    rw [ih, List.map_cons]

theorem decodeFeeTiers_slot (tiers : List FeeTier)
    (h : Arrives pyOfMsg held (.arr (tiers.map FeeTier.schema.toMsg)) raw[i]?) :
    decodeFeeTiers raw[i]? = some (Rendering.py.optional
      (fun tiers => Rendering.py.list (tiers.map (FeeTier.render Rendering.py)))
      (shownIf held tiers)) := by
  cases held with
  | false =>
    cases hfound : raw[i]? with
    | none => rfl
    | some w =>
      obtain rfl : Content.null = w := Option.some.inj (h w hfound)
      rfl
  | true =>
    obtain ⟨v, hfound, hv⟩ := h
    have htier (tier : FeeTier) :
        decodeFeeTier (feeTierRow tier) = some (tier.render Rendering.py) := rfl
    rw [pyOfMsg_feeTiers] at hv
    rw [hfound, ← Option.some.inj hv, decodeFeeTiers, feeTierRows_map, mapM_map_eq htier]
    rfl

end Slots

/-- A record that arrives slot by slot decodes to what it shows. -/
theorem decodeMarketConfig_record (x : MarketConfig) {held : Nat → Bool} {raw : List Content}
    (hfront : ∀ i < 7, held i = true)
    (h : ∀ i m, x.slots[i]? = some m → Arrives pyOfMsg (held i) m raw[i]?) :
    decodeMarketConfig raw = some ((x.shown held).render Rendering.py) := by
  have hat : ∀ i < 7, ∀ n : Nat, x.slots[i]? = some (.int n) → at_ raw i = some (.int n) := by
    intro i hi n hn
    have hslot := h i _ hn
    rw [hfront i hi] at hslot
    exact at_slot n hslot
  have hint {α : Type} (toNat : α → Nat) (a : α) (i : Nat)
      (hi : x.slots[i]? = some (.int (toNat a))) : opt raw i =
        some (Rendering.py.optional (fun a => .int (toNat a)) (shownIf (held i) a)) :=
    optionally_slot (pyOfMsg_int _) rfl rfl (h i _ hi)
  have hflag (b : Bool) (i : Nat) (hi : x.slots[i]? = some (.bool b)) : flag raw i =
      some (Rendering.py.optional Rendering.py.bool (shownIf (held i) b)) :=
    optionally_slot (pyOfMsg_bool b) rfl rfl (h i _ hi)
  have hmode : optionally some raw 18 = some (Rendering.py.optional
      (fun m => Rendering.py.string m.name) (shownIf (held 18) x.markSourceMode)) :=
    optionally_slot (x.markSourceMode.toMsg_eq ▸ pyOfMsg_utf8 _) rfl rfl (h 18 _ rfl)
  have hticker : optionally (fun v => (asStr v).map .str) raw 23 = some (Rendering.py.optional
      Rendering.py.string (shownIf (held 23) x.ticker)) :=
    optionally_slot (pyOfMsg_utf8 _) rfl rfl (h 23 _ rfl)
  rw [decodeMarketConfig, decodeKind_slot x.kind (h 7 _ rfl), decodeFeeTiers_slot x.feeTiers (h 13 _ rfl),
    hat 0 (by decide) _ rfl, hat 1 (by decide) _ rfl, hat 2 (by decide) _ rfl,
    hat 3 (by decide) _ rfl, hat 4 (by decide) _ rfl, hat 5 (by decide) _ rfl,
    hat 6 (by decide) _ rfl, hint UInt64.toNat x.maxPositionSize 8 rfl,
    hint UInt64.toNat x.defaultTtlMs 9 rfl, hflag x.netDeltaMargin 10 rfl,
    hint UInt8.toNat x.poolId 11 rfl, hint UInt64.toNat x.markPriceMaxOracleAgeMs 12 rfl,
    hint UInt64.toNat x.tickSize 14 rfl, hint UInt64.toNat x.lotSize 15 rfl,
    signer_slot x.primaryOracleSigner (h 16 _ rfl), hint UInt64.toNat x.oracleStalenessMs 17 rfl, hmode,
    hint UInt32.toNat x.maxMarkSpreadBps 19 rfl, hint UInt64.toNat x.cexCompositeStalenessMs 20 rfl,
    hflag x.partialLiquidationEnabled 21 rfl, hint UInt8.toNat x.szDecimals 22 rfl, hticker,
    hint UInt64.toNat x.maxOpenInterest 24 rfl]
  rfl

theorem isSome_pyOfMsg_slots (x : MarketConfig) : ∀ m ∈ x.slots, (pyOfMsg m).isSome = true := by
  have hint (n : Int) : (pyOfMsg (.int n)).isSome = true := Option.isSome_of_eq_some (pyOfMsg_int n)
  have hbool (b : Bool) : (pyOfMsg (.bool b)).isSome = true := Option.isSome_of_eq_some (pyOfMsg_bool b)
  have hkind : (pyOfMsg (MarketKind.schema.toMsg x.kind)).isSome = true := by
    cases x.kind with
    | perp => exact Option.isSome_of_eq_some (pyOfMsg_utf8 "Perp")
    | conditionalPerp id branch =>
      exact Option.isSome_of_eq_some (pyOfMsg_marketVariant "ConditionalPerp" id branch)
    | predictionBinary id branch =>
      exact Option.isSome_of_eq_some (pyOfMsg_marketVariant "PredictionBinary" id branch)
  have hsigner : (pyOfMsg ((Schema.option (.fixedBytes 20 bareBytes)).toMsg
      x.primaryOracleSigner)).isSome = true := by
    cases x.primaryOracleSigner with
    | none => rfl
    | some a => exact Option.isSome_of_eq_some (pyOfMsg_bytes a.1)
  have htiers := Option.isSome_of_eq_some (pyOfMsg_feeTiers x.feeTiers)
  have hmode : (pyOfMsg (MarkSourceMode.schema.toMsg x.markSourceMode)).isSome = true :=
    Option.isSome_of_eq_some (x.markSourceMode.toMsg_eq ▸ pyOfMsg_utf8 _)
  have hticker := Option.isSome_of_eq_some (pyOfMsg_utf8 x.ticker)
  refine List.forall_iff_forall_mem.mp ?_
  exact ⟨hint _, hint _, hint _, hint _, hint _, hint _, hint _, hkind, hint _, hint _, hbool _,
    hint _, hint _, htiers, hint _, hint _, hsigner, hint _, hmode, hint _, hint _, hbool _, hint _,
    hticker, hint _⟩

end TradingSdk.Python
