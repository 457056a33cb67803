import TradingSdk.Js.Proposals
import TradingSdk.Lib.Except

namespace TradingSdk

open Serde Msgpack Js

/-- Every result of a decoder shows a value of the type. -/
def Shows {α : Type} (shown : α → JsVal) (result : Except JsError JsVal) : Prop :=
  ∀ w, result = .ok w → ∃ a, w = shown a

section Fields

variable {value w : JsVal} {field : String}

theorem toUnsignedBigInt_range {n max : Int} (h : toUnsignedBigInt value field max = .ok n) :
    0 ≤ n ∧ n ≤ max := by
  have hcheck (m : Int) (message : String)
      (hm : (if m < 0 ∨ max < m then governanceError message else pure m) = Except.ok n) :
      0 ≤ n ∧ n ≤ max := by
    split_ifs at hm with hrange
    · cases hm
    · obtain rfl := Except.ok.inj hm
      omega
  cases value with
  | bigint m => exact hcheck m _ h
  | number m =>
    rw [toUnsignedBigInt] at h
    cases hsafe : isSafeInteger m with
    | false =>
      rw [hsafe] at h
      cases h
    | true =>
      rw [hsafe] at h
      exact hcheck m _ h
  | _ => cases h

theorem toUnsignedNumber_shown {max : Int} (h : toUnsignedNumber value field max = .ok w) :
    ∃ n, 0 ≤ n ∧ n ≤ max ∧ w = .number n := by
  obtain ⟨n, hn, rfl⟩ := map_eq_ok h
  obtain ⟨hlo, hhi⟩ := toUnsignedBigInt_range hn
  exact ⟨n, hlo, hhi, rfl⟩

theorem toU8_shows : Shows (fun n : UInt8 => .number n.toNat) (toU8 value field) := by
  intro w h
  obtain ⟨n, hlo, hhi, rfl⟩ := toUnsignedNumber_shown h
  refine ⟨UInt8.ofNat n.toNat, ?_⟩
  show JsVal.number n = .number (UInt8.ofNat n.toNat).toNat
  rw [UInt8.toNat_ofNat_of_lt' (show n.toNat < 2^8 by omega), Int.toNat_of_nonneg hlo]

theorem toU32_shows : Shows (fun n : UInt32 => .number n.toNat) (toU32 value field) := by
  intro w h
  obtain ⟨n, hlo, hhi, rfl⟩ := toUnsignedNumber_shown h
  refine ⟨UInt32.ofNat n.toNat, ?_⟩
  show JsVal.number n = .number (UInt32.ofNat n.toNat).toNat
  rw [UInt32.toNat_ofNat_of_lt' (show n.toNat < 2^32 by omega), Int.toNat_of_nonneg hlo]

theorem toU64_shows : Shows (fun n : UInt64 => .bigint n.toNat) (toU64 value field) := by
  intro w h
  obtain ⟨n, hn, rfl⟩ := map_eq_ok h
  obtain ⟨hlo, hhi⟩ := toUnsignedBigInt_range hn
  refine ⟨UInt64.ofNat n.toNat, ?_⟩
  show JsVal.bigint n = .bigint (UInt64.ofNat n.toNat).toNat
  rw [UInt64.toNat_ofNat_of_lt' (show n.toNat < 2^64 by omega), Int.toNat_of_nonneg hlo]

theorem toBytes_shows (n : Nat) :
    Shows (fun bs : FixedBytes n => .uint8Array bs.1) (toBytes value field n) := by
  intro w h
  have hcheck (bytes : Bytes) (message : String)
      (hbytes : (if bytes.length ≠ n then governanceError message else pure (.uint8Array bytes)) =
        Except.ok w) : ∃ bs : FixedBytes n, w = .uint8Array bs.1 := by
    split_ifs at hbytes with hlen
    · cases hbytes
    · exact ⟨⟨bytes, not_not.mp hlen⟩, (Except.ok.inj hbytes).symm⟩
  cases value with
  | uint8Array bytes => exact hcheck bytes _ h
  | array items =>
    obtain ⟨bytes, -, hbytes⟩ := bind_ok_iff.mp h
    exact hcheck bytes _ hbytes
  | _ => cases h

theorem toByteSequence_shows : Shows JsVal.uint8Array (toByteSequence value field) := by
  intro w h
  cases value with
  | uint8Array bs => exact ⟨bs, (Except.ok.inj h).symm⟩
  | array items =>
    obtain ⟨bs, -, rfl⟩ := map_eq_ok h
    exact ⟨bs, rfl⟩
  | _ => cases h

theorem toString_shows : Shows JsVal.string (Js.toString value field) := by
  intro w h
  cases value with
  | string s => exact ⟨s, (Except.ok.inj h).symm⟩
  | _ => cases h

/-- A list of values that each show something shows the list of them. -/
theorem mapIndexed_shows {α : Type} {shown : α → JsVal} {f : JsVal → Nat → Except JsError JsVal}
    (hf : ∀ v i, Shows shown (f v i)) {i : Nat} {vs ws : List JsVal}
    (h : mapIndexed f i vs = .ok ws) : ∃ as : List α, ws = as.map shown := by
  induction vs generalizing i ws with
  | nil => exact ⟨[], (Except.ok.inj h).symm⟩
  | cons v vs ih =>
    rw [mapIndexed] at h
    obtain ⟨w, hw, h⟩ := bind_ok_iff.mp h
    obtain ⟨ws', hws, h⟩ := bind_ok_iff.mp h
    obtain rfl := Except.ok.inj h
    obtain ⟨a, rfl⟩ := hf v i w hw
    obtain ⟨as, rfl⟩ := ih hws
    exact ⟨a :: as, rfl⟩

end Fields

def signersTs (signers : List SignerAddress) : JsVal := .array (signers.map fun m => .uint8Array m.1)

theorem toAddresses_shows {value : JsVal} {field : String} :
    Shows signersTs (toAddresses value field) := by
  intro w h
  rw [toAddresses] at h
  obtain ⟨items, -, h⟩ := bind_ok_iff.mp h
  obtain ⟨addresses, haddresses, h⟩ := bind_ok_iff.mp h
  obtain rfl := Except.ok.inj h
  obtain ⟨signers, rfl⟩ := mapIndexed_shows (fun v i => toBytes_shows 20) haddresses
  exact ⟨signers, rfl⟩

theorem decodeCreateMarket_shows (value : JsVal) :
    Shows CreateMarket.toTs (decodeCreateMarket value) := by
  intro w h
  simp only [decodeCreateMarket, bind_ok_iff, pure_ok_iff] at h
  obtain ⟨raw, -, market, h0, imBps, h1, mmBps, h2, takerFeeBps, h3, makerFeeBps, h4, signer, h5,
    fundingIntervalMs, h6, maxFundingRateBps, h7, poolId, h8, szDecimals, h9, ticker, h10,
    maxOpenInterest, h11, rfl⟩ := h
  obtain ⟨market, rfl⟩ := toU32_shows _ h0
  obtain ⟨imBps, rfl⟩ := toU32_shows _ h1
  obtain ⟨mmBps, rfl⟩ := toU32_shows _ h2
  obtain ⟨takerFeeBps, rfl⟩ := toU32_shows _ h3
  obtain ⟨makerFeeBps, rfl⟩ := toU32_shows _ h4
  obtain ⟨signer, rfl⟩ := toBytes_shows 20 _ h5
  obtain ⟨fundingIntervalMs, rfl⟩ := toU64_shows _ h6
  obtain ⟨maxFundingRateBps, rfl⟩ := toU32_shows _ h7
  obtain ⟨poolId, rfl⟩ := toU8_shows _ h8
  obtain ⟨szDecimals, rfl⟩ := toU8_shows _ h9
  obtain ⟨ticker, rfl⟩ := toString_shows _ h10
  obtain ⟨maxOpenInterest, rfl⟩ := toU64_shows _ h11
  exact ⟨⟨market, imBps, mmBps, takerFeeBps, makerFeeBps, signer, fundingIntervalMs,
    maxFundingRateBps, poolId, szDecimals, ticker, maxOpenInterest⟩, rfl⟩

theorem toPriceComparison_shows (value : JsVal) (field : String) :
    Shows PriceComparison.schema.toJs (toPriceComparison value field) := by
  intro w h
  cases value with
  | string s =>
    rw [toPriceComparison] at h
    split_ifs at h with hname
    · obtain rfl := Except.ok.inj h
      simp only [priceComparisons, List.contains_eq_mem, List.mem_cons, List.not_mem_nil, or_false,
        decide_eq_true_eq] at hname
      obtain rfl | rfl | rfl | rfl := hname
      · exact ⟨.greaterThan, rfl⟩
      · exact ⟨.lessThan, rfl⟩
      · exact ⟨.greaterThanOrEqual, rfl⟩
      · exact ⟨.lessThanOrEqual, rfl⟩
    · cases h
  | _ => cases h

theorem decodeOracleSource_shows (value : JsVal) (field : String) :
    Shows optionalSource (decodeOracleSource value field) := by
  intro w h
  rw [decodeOracleSource] at h
  split_ifs at h with hnull htext
  · exact ⟨none, (Except.ok.inj h).symm⟩
  · exact ⟨some .relayerAttested, (Except.ok.inj h).symm⟩
  · obtain ⟨⟨name, payload⟩, -, h⟩ := bind_ok_iff.mp h
    simp only at h
    split_ifs at h with hunderlying hmarket
    · simp only [bind_ok_iff, pure_ok_iff] at h
      obtain ⟨raw, -, strikePrice, h0, comparison, h1, rfl⟩ := h
      obtain ⟨strikePrice, rfl⟩ := toU64_shows _ h0
      obtain ⟨comparison, rfl⟩ := toPriceComparison_shows _ _ _ h1
      exact ⟨some (.underlyingPriceVsStrike strikePrice comparison), rfl⟩
    · simp only [bind_ok_iff, pure_ok_iff] at h
      obtain ⟨raw, -, market, h0, strikePrice, h1, comparison, h2, rfl⟩ := h
      obtain ⟨market, rfl⟩ := toU32_shows _ h0
      obtain ⟨strikePrice, rfl⟩ := toU64_shows _ h1
      obtain ⟨comparison, rfl⟩ := toPriceComparison_shows _ _ _ h2
      exact ⟨some (.marketOracle market strikePrice comparison), rfl⟩
    · cases h

/-- A trailing text that may be missing. -/
theorem trailing_shows {present : Prop} [Decidable present] {value : JsVal} {field : String} :
    Shows JsVal.string (if present then Js.toString value field else .ok (.string "")) := by
  intro w h
  split_ifs at h
  · exact toString_shows _ h
  · exact ⟨"", (Except.ok.inj h).symm⟩

theorem trailingSource_shows {present : Prop} [Decidable present] {value : JsVal} {field : String} :
    Shows optionalSource (if present then decodeOracleSource value field else .ok .undefined) := by
  intro w h
  split_ifs at h
  · exact decodeOracleSource_shows _ _ _ h
  · exact ⟨none, (Except.ok.inj h).symm⟩

/-- A choice of the first step only. -/
theorem ite_bind {α β : Type} {c : Prop} [Decidable c] (x y : Except JsError α)
    (f : α → Except JsError β) :
    (if c then x >>= f else y >>= f) = (if c then x else y) >>= f := by
  split_ifs <;> rfl

theorem decodeCreateImpactMarket_shows (value : JsVal) :
    Shows (fun x : CreateImpactMarket => .object x.allEntries) (decodeCreateImpactMarket value) := by
  intro w h
  simp only [decodeCreateImpactMarket, ite_bind, bind_ok_iff, pure_ok_iff] at h
  obtain ⟨raw, -, impactMarketId, h0, underlyingMarket, h1, childMarketBase, h2, question, h3,
    deadlineMs, h4, resolutionWindowMs, h5, imBps, h6, mmBps, h7, takerFeeBps, h8, makerFeeBps, h9,
    fundingIntervalMs, h10, maxFundingRateBps, h11, signer, h12, description, h14, rules, h15,
    source, h13, rfl⟩ := h
  obtain ⟨impactMarketId, rfl⟩ := toU32_shows _ h0
  obtain ⟨underlyingMarket, rfl⟩ := toU32_shows _ h1
  obtain ⟨childMarketBase, rfl⟩ := toU32_shows _ h2
  obtain ⟨question, rfl⟩ := toString_shows _ h3
  obtain ⟨deadlineMs, rfl⟩ := toU64_shows _ h4
  obtain ⟨resolutionWindowMs, rfl⟩ := toU64_shows _ h5
  obtain ⟨imBps, rfl⟩ := toU32_shows _ h6
  obtain ⟨mmBps, rfl⟩ := toU32_shows _ h7
  obtain ⟨takerFeeBps, rfl⟩ := toU32_shows _ h8
  obtain ⟨makerFeeBps, rfl⟩ := toU32_shows _ h9
  obtain ⟨fundingIntervalMs, rfl⟩ := toU64_shows _ h10
  obtain ⟨maxFundingRateBps, rfl⟩ := toU32_shows _ h11
  obtain ⟨signer, rfl⟩ := toBytes_shows 20 _ h12
  obtain ⟨description, rfl⟩ := trailing_shows _ h14
  obtain ⟨rules, rfl⟩ := trailing_shows _ h15
  obtain ⟨source, rfl⟩ := trailingSource_shows _ h13
  refine ⟨⟨impactMarketId, underlyingMarket, childMarketBase, question, deadlineMs,
    resolutionWindowMs, imBps, mmBps, takerFeeBps, makerFeeBps, fundingIntervalMs,
    maxFundingRateBps, signer, source, description, rules⟩, ?_⟩
  match source with
  | none => rfl
  | some (.underlyingPriceVsStrike _ _) => rfl
  | some (.marketOracle _ _ _) => rfl
  | some .relayerAttested => rfl

theorem decodeUpdateRegistry_shows (value : JsVal) :
    Shows (fun x : UpdateAdminSignerRegistry => .object x.entries) (decodeUpdateRegistry value) := by
  intro w h
  simp only [decodeUpdateRegistry, bind_ok_iff, pure_ok_iff] at h
  obtain ⟨raw, -, newThreshold, h0, members, -, newMembers, h1, rfl⟩ := h
  obtain ⟨newThreshold, rfl⟩ := toU32_shows _ h0
  obtain ⟨newMembers, rfl⟩ := mapIndexed_shows (fun v i => toBytes_shows 20) h1
  exact ⟨⟨newThreshold, newMembers⟩, rfl⟩

theorem optionalU64_shows {value : JsVal} {field : String} :
    Shows optionalBigint (if value.isNullish then .ok .null else toU64 value field) := by
  intro w h
  split_ifs at h
  · exact ⟨none, (Except.ok.inj h).symm⟩
  · obtain ⟨n, rfl⟩ := toU64_shows _ h
    exact ⟨some n, rfl⟩

theorem exists_bool_of_isBoolean {value : JsVal} (h : isBoolean value = true) :
    ∃ b, value = .bool b := by
  cases value with
  | bool b => exact ⟨b, rfl⟩
  | _ => cases h

theorem decodeSetTriggerMarketConfig_shows (value : JsVal) :
    Shows SetTriggerMarketConfig.toTs (decodeSetTriggerMarketConfig value) := by
  intro w h
  rw [decodeSetTriggerMarketConfig] at h
  obtain ⟨raw, -, h⟩ := bind_ok_iff.mp h
  by_cases henabled : (!isBoolean (slot raw 2)) = true
  · rw [if_pos henabled] at h
    cases h
  · rw [if_neg henabled] at h
    simp only [ite_bind, bind_ok_iff, pure_ok_iff] at h
    obtain ⟨market, h0, version, h1, maxTriggerSlippageBps, h3, maxMarkAgeMs, h4,
      maxFuturePublishSkewMs, h5, maxActiveBrackets, h6, rfl⟩ := h
    obtain ⟨enabled, henabled⟩ := exists_bool_of_isBoolean (by simpa using henabled)
    obtain ⟨market, rfl⟩ := toU32_shows _ h0
    obtain ⟨version, rfl⟩ := optionalU64_shows _ h1
    obtain ⟨maxTriggerSlippageBps, rfl⟩ := toU32_shows _ h3
    obtain ⟨maxMarkAgeMs, rfl⟩ := toU64_shows _ h4
    obtain ⟨maxFuturePublishSkewMs, rfl⟩ := toU64_shows _ h5
    obtain ⟨maxActiveBrackets, rfl⟩ := toU64_shows _ h6
    rw [henabled]
    exact ⟨⟨market, version, enabled, maxTriggerSlippageBps, maxMarkAgeMs, maxFuturePublishSkewMs,
      maxActiveBrackets⟩, rfl⟩

def AdminBatchItem.toTs : AdminBatchItem → JsVal
  | .createMarket x => governanceTs "CreateMarket" x.toTs
  | .createImpactMarket x => governanceTs "CreateImpactMarket" (.object x.allEntries)

/-- An action as the decoder shows it. -/
def AdminAction.toTs : AdminAction → JsVal
  | .createMarket x => governanceTs "CreateMarket" x.toTs
  | .updateAdminSignerRegistry x => governanceTs "UpdateAdminSignerRegistry" (.object x.entries)
  | .createImpactMarket x => governanceTs "CreateImpactMarket" (.object x.allEntries)
  | .batch items => governanceTs "Batch" (.array (items.map AdminBatchItem.toTs))
  | .setTriggerMarketConfig x => governanceTs "SetTriggerMarketConfig" x.toTs

theorem tagged_shows {α β : Type} {shown : α → JsVal} {shown' : β → JsVal} {kind : String}
    {result : Except JsError JsVal} (tag : α → β) (hresult : Shows shown result)
    (htag : ∀ a, governanceTs kind (shown a) = shown' (tag a)) :
    Shows shown' (tagged kind result) := by
  intro w h
  obtain ⟨payload, hpayload, rfl⟩ := map_eq_ok h
  obtain ⟨a, rfl⟩ := hresult payload hpayload
  exact ⟨tag a, htag a⟩

theorem decodeBatchItem_shows (value : JsVal) (field : String) :
    Shows AdminBatchItem.toTs (decodeBatchItem value field) := by
  intro w h
  rw [decodeBatchItem] at h
  obtain ⟨⟨name, payload⟩, -, h⟩ := bind_ok_iff.mp h
  simp only at h
  split_ifs at h with hmarket himpact
  · exact tagged_shows AdminBatchItem.createMarket (decodeCreateMarket_shows payload) (fun _ => rfl) w h
  · exact tagged_shows AdminBatchItem.createImpactMarket (decodeCreateImpactMarket_shows payload)
      (fun _ => rfl) w h
  · cases h

theorem decodeBatch_shows (payload : JsVal) (field : String) :
    Shows (fun items : List AdminBatchItem => .array (items.map AdminBatchItem.toTs))
      (do let items ← toArray payload s!"{field}.batch"
          let decoded ← mapIndexed (fun item i => decodeBatchItem item s!"{field}.batch[{i}]") 0 items
          return .array decoded) := by
  intro w h
  simp only [bind_ok_iff, pure_ok_iff] at h
  obtain ⟨items, -, decoded, hdecoded, rfl⟩ := h
  obtain ⟨items, rfl⟩ := mapIndexed_shows (fun v i => decodeBatchItem_shows v _) hdecoded
  exact ⟨items, rfl⟩

/-- Fail closed: whatever the decoder lets through is an action of the closed set. -/
theorem decodeAdminAction_shows (value : JsVal) (field : String) :
    Shows AdminAction.toTs (decodeAdminAction value field) := by
  intro w h
  rw [decodeAdminAction] at h
  obtain ⟨⟨name, payload⟩, -, h⟩ := bind_ok_iff.mp h
  simp only at h
  split_ifs at h with hmarket hregistry himpact hbatch htrigger
  · exact tagged_shows AdminAction.createMarket (decodeCreateMarket_shows payload) (fun _ => rfl) w h
  · exact tagged_shows AdminAction.updateAdminSignerRegistry (decodeUpdateRegistry_shows payload)
      (fun _ => rfl) w h
  · exact tagged_shows AdminAction.createImpactMarket (decodeCreateImpactMarket_shows payload)
      (fun _ => rfl) w h
  · exact tagged_shows AdminAction.batch (decodeBatch_shows payload field) (fun _ => rfl) w h
  · exact tagged_shows AdminAction.setTriggerMarketConfig (decodeSetTriggerMarketConfig_shows payload)
      (fun _ => rfl) w h
  · cases h

end TradingSdk
