import TradingSdk.Js.Declared
import TradingSdk.Js.TriggerFields

namespace TradingSdk

open Serde Js

theorem isNonzeroU64_bigint {n : UInt64} : isNonzeroU64 (.bigint n.toNat) = true ↔ n ≠ 0 := by
  have hlt := n.toNat_lt
  rw [isNonzeroU64, decide_eq_true_eq, ne_eq, ← UInt64.toNat_inj, UInt64.toNat_zero]
  omega

theorem isU64_bigint (n : UInt64) : isU64 (.bigint n.toNat) = true := by
  have hlt := n.toNat_lt
  simp only [isU64, decide_eq_true_eq]
  omega

theorem isIntegerIn_u32 (n : UInt32) : isIntegerIn 0 (2^32 - 1) (.number n.toNat) = true := by
  have hlt := n.toNat_lt
  simp only [isIntegerIn, decide_eq_true_eq]
  omega

theorem isZero_u64 (n : UInt64) : isZero (.bigint n.toNat) = decide (n = 0) := by
  rw [isZero, Bool.eq_iff_iff, beq_iff_eq, decide_eq_true_eq, Nat.cast_eq_zero,
    ← UInt64.toNat_inj, UInt64.toNat_zero]

theorem isZero_u32 (n : UInt32) : isZero (.number n.toNat) = decide (n = 0) := by
  rw [isZero, Bool.eq_iff_iff, beq_iff_eq, decide_eq_true_eq, Nat.cast_eq_zero,
    ← UInt32.toNat_inj, UInt32.toNat_zero]

theorem slippage_iff {lo : Nat} {n : UInt32} :
    isIntegerIn lo 9999 (.number n.toNat) = true ↔ lo ≤ n.toNat ∧ n ≤ maxTriggerSlippageBps := by
  have hmax : maxTriggerSlippageBps.toNat = 9999 := rfl
  rw [UInt32.le_iff_toNat_le, hmax, isIntegerIn, decide_eq_true_eq]
  omega

/-- An optional identifier passes its check unless it is zero. -/
theorem optionalId_iff {β : Type} {name : String} {fs : Fields β} {entries : Entries}
    {id : Option UInt64} {b : β}
    (h : (Fields.cons name (.option .u64) none fs).Typed entries (id, b)) :
    (((JsVal.object entries).get (snakeToCamel name)).isNullish = true ∨
      isNonzeroU64 ((JsVal.object entries).get (snakeToCamel name)) = true) ↔ id ≠ some 0 := by
  obtain ⟨hnull, rfl⟩ | ⟨n, rfl, hn⟩ := option_of_typed h
  · simp [hnull]
  · have hbig : (JsVal.object entries).get (snakeToCamel name) = .bigint n.toNat := hn
    rw [hbig, isNonzeroU64_bigint, ne_eq, ne_eq, Option.some_inj]
    exact or_iff_right Bool.false_ne_true

theorem TriggerLimb.validateLimb_iff {key name : String} {v : JsVal} {limb : TriggerLimb}
    (ht : TriggerLimb.schema.Typed key v limb) :
    validateLimb name v = .ok () ↔ limb.validateFields = .ok () := by
  obtain ⟨entries, rfl, -, -, hfields⟩ : ∃ entries : Entries, v = .object entries ∧ _ := ht
  have hp : (JsVal.object entries).get "triggerPrice" = .bigint limb.triggerPrice.toNat :=
    get_of_typed rfl hfields
  have hs : (JsVal.object entries).get "maxSlippageBps" = .number limb.maxSlippageBps.toNat :=
    get_of_typed rfl hfields.2
  have hid : ((JsVal.object entries).get "clientTriggerId").isNullish = true ∨
      isNonzeroU64 ((JsVal.object entries).get "clientTriggerId") = true ↔
        limb.clientTriggerId ≠ some 0 :=
    optionalId_iff hfields.2.2
  have hlo : 1 ≤ limb.maxSlippageBps ↔ 1 ≤ limb.maxSlippageBps.toNat := UInt32.le_iff_toNat_le
  rw [validateLimb_eq_ok, TriggerLimb.validateFields_eq_ok, hp, hs, hid, isNonzeroU64_bigint,
    hlo]
  exact and_congr_right fun _ => and_congr_left fun _ => slippage_iff

/-- What a limb field holds for the identifier of an optional limb. -/
def HoldsLimbId (v : JsVal) (limb : Option TriggerLimb) : Prop :=
  (limbId v).isNullish = true ∧ limb.bind TriggerLimb.clientTriggerId = none ∨
    ∃ n : UInt64, limbId v = .bigint n.toNat ∧ limb.bind TriggerLimb.clientTriggerId = some n

theorem holdsLimbId_of_typed {β : Type} {name : String} {fs : Fields β} {entries : Entries}
    {limb : Option TriggerLimb} {b : β}
    (h : (Fields.cons name (.option TriggerLimb.schema) none fs).Typed entries (limb, b)) :
    HoldsLimbId ((JsVal.object entries).get (snakeToCamel name)) limb := by
  obtain ⟨hnull, rfl⟩ | ⟨limb, rfl, ht⟩ := option_of_typed h
  · refine .inl ⟨?_, rfl⟩
    rw [limbId, if_pos hnull]
    rfl
  · obtain ⟨fields, hv, -, -, hfields⟩ : ∃ fields : Entries, _ = JsVal.object fields ∧ _ := ht
    have hid : limbId ((JsVal.object entries).get (snakeToCamel name)) =
        (JsVal.object fields).get "clientTriggerId" := by
      rw [hv]
      rfl
    rw [HoldsLimbId, hid]
    obtain ⟨hnull, hnone⟩ | ⟨n, hsome, hn⟩ := option_of_typed hfields.2.2
    · exact .inl ⟨hnull, hnone⟩
    · exact .inr ⟨n, hn, hsome⟩

theorem HoldsLimbId.eq_bigint_iff {v : JsVal} {limb : Option TriggerLimb} (h : HoldsLimbId v limb)
    {n : Int} : limbId v = .bigint n ↔
      ∃ id : UInt64, limb.bind TriggerLimb.clientTriggerId = some id ∧ n = id.toNat := by
  obtain ⟨hnull, hnone⟩ | ⟨id, hbig, hsome⟩ := h
  · rw [hnone]
    constructor
    · intro hv
      rw [hv] at hnull
      cases hnull
    · intro h
      obtain ⟨id, hid, -⟩ := h
      cases hid
  · rw [hbig, hsome, JsVal.bigint.injEq]
    constructor
    · intro heq
      exact ⟨id, rfl, heq.symm⟩
    · intro h
      obtain ⟨id', hid, rfl⟩ := h
      rw [Option.some.inj hid]

theorem sameBigint_eq_true {v w : JsVal} :
    sameBigint v w = true ↔ ∃ n, v = .bigint n ∧ w = .bigint n := by
  cases v <;> cases w <;> simp [sameBigint]
  exact eq_comm

/-- Two limbs have one identifier exactly when their fields hold one bigint. -/
theorem sameBigint_eq {stop take : Option TriggerLimb} {vstop vtake : JsVal}
    (hstop : HoldsLimbId vstop stop) (htake : HoldsLimbId vtake take) :
    sameBigint (limbId vstop) (limbId vtake) = duplicateClientTriggerId stop take := by
  rw [Bool.eq_iff_iff, sameBigint_eq_true, duplicateClientTriggerId_eq_true]
  constructor
  · intro h
    obtain ⟨n, hn, hn'⟩ := h
    obtain ⟨m, hm, rfl⟩ := hstop.eq_bigint_iff.mp hn
    obtain ⟨m', hm', heq⟩ := htake.eq_bigint_iff.mp hn'
    obtain rfl := UInt64.toNat_inj.mp (Nat.cast_injective heq)
    exact ⟨m, hm, hm'⟩
  · intro h
    obtain ⟨m, hm, hm'⟩ := h
    exact ⟨m.toNat, hstop.eq_bigint_iff.mpr ⟨m, hm, rfl⟩, htake.eq_bigint_iff.mpr ⟨m, hm', rfl⟩⟩

/-- An optional limb passes its check exactly when it is valid. -/
theorem optionalLimb_iff {β : Type} {name : String} {fs : Fields β} {entries : Entries}
    {limb : Option TriggerLimb} {b : β}
    (h : (Fields.cons name (.option TriggerLimb.schema) none fs).Typed entries (limb, b)) :
    ((JsVal.object entries).get (snakeToCamel name)).isNullish = limb.isNone ∧
      ((((JsVal.object entries).get (snakeToCamel name)).isNullish = true ∨
        validateLimb (snakeToCamel name) ((JsVal.object entries).get (snakeToCamel name)) =
          .ok ()) ↔ validateOptionalLimb limb = .ok ()) := by
  obtain ⟨hnull, rfl⟩ | ⟨limb, rfl, ht⟩ := option_of_typed h
  · exact ⟨hnull, iff_of_true (.inl hnull) rfl⟩
  · have hthere : ((JsVal.object entries).get (snakeToCamel name)).isNullish = false := by
      obtain ⟨fields, hv, -⟩ : ∃ fields : Entries, _ = JsVal.object fields ∧ _ := ht
      rw [hv]
      rfl
    refine ⟨hthere, ?_⟩
    rw [hthere, TriggerLimb.validateLimb_iff ht]
    exact or_iff_right Bool.false_ne_true

/-- The three fields in front name the position. -/
theorem position_of_typed {β : Type} {fs : Fields β} {entries : Entries} {market : MarketId}
    {owner : Address} {epoch : UInt64} {b : β}
    (h : (Fields.cons "market" .u32 none <| .cons "owner" Address.schema none <|
      .cons "expected_position_epoch" .u64 none fs).Typed entries (market, owner, epoch, b)) :
    (JsVal.object entries).get "market" = .number market.toNat ∧
      (JsVal.object entries).get "owner" = .uint8Array owner.1 ∧
      (JsVal.object entries).get "expectedPositionEpoch" = .bigint epoch.toNat := by
  refine ⟨?_, ?_, ?_⟩
  · exact get_of_typed rfl h
  · exact get_of_typed rfl h.2
  · exact get_of_typed rfl h.2.2

theorem SetPositionTriggers.validate_iff {key : String} {v : JsVal} {x : SetPositionTriggers}
    (ht : SetPositionTriggers.schema.Typed key v x) :
    validateSetPositionTriggers v = .ok () ↔ x.validateFields = .ok () := by
  obtain ⟨entries, rfl, -, -, hfields⟩ : ∃ entries : Entries, v = .object entries ∧ _ := ht
  obtain ⟨hm, ho, he⟩ := position_of_typed hfields
  obtain ⟨hnstop, hstop⟩ := optionalLimb_iff hfields.2.2.2
  obtain ⟨hntake, htake⟩ := optionalLimb_iff hfields.2.2.2.2
  have hgroup := optionalId_iff hfields.2.2.2.2.2
  have hsame := sameBigint_eq (holdsLimbId_of_typed hfields.2.2.2)
    (holdsLimbId_of_typed hfields.2.2.2.2)
  have howner : isBytesOf 20 (.uint8Array x.owner.1) = true := beq_iff_eq.mpr x.owner.2
  rw [validateSetPositionTriggers_eq_ok, SetPositionTriggers.validateFields_eq_ok, hm, ho, he,
    and_iff_right (isIntegerIn_u32 x.market), and_iff_right howner, isNonzeroU64_bigint]
  have hempty := congrArg₂ and hnstop hntake
  constructor
  · intro h
    obtain ⟨hepoch, hlimbs, hvalidStop, hvalidTake, hid, hids⟩ := h
    exact ⟨hepoch, hempty.symm.trans hlimbs, hgroup.mp hid, hstop.mp hvalidStop,
      htake.mp hvalidTake, hsame.symm.trans hids⟩
  · intro h
    obtain ⟨hepoch, hlimbs, hid, hvalidStop, hvalidTake, hids⟩ := h
    exact ⟨hepoch, hempty.trans hlimbs, hstop.mpr hvalidStop, htake.mpr hvalidTake, hgroup.mpr hid,
      hsame.trans hids⟩

theorem CancelPositionTriggers.validate_iff {key : String} {v : JsVal}
    {x : CancelPositionTriggers} (ht : CancelPositionTriggers.schema.Typed key v x) :
    validateCancelPositionTriggers v = .ok () ↔ x.validateFields = .ok () := by
  obtain ⟨entries, rfl, -, -, hfields⟩ : ∃ entries : Entries, v = .object entries ∧ _ := ht
  obtain ⟨hm, ho, he⟩ := position_of_typed hfields
  have howner : isBytesOf 20 (.uint8Array x.owner.1) = true := beq_iff_eq.mpr x.owner.2
  rw [validateCancelPositionTriggers_eq_ok, CancelPositionTriggers.validateFields_eq_ok, hm, ho,
    he, and_iff_right (isIntegerIn_u32 x.market), and_iff_right howner, isNonzeroU64_bigint]

theorem SetTriggerMarketConfig.validate_iff {key : String} {v : JsVal}
    {x : SetTriggerMarketConfig} (ht : SetTriggerMarketConfig.schema.Typed key v x) :
    validateSetTriggerMarketConfig v = .ok () ↔ x.validateFields = .ok () := by
  obtain ⟨entries, rfl, -, -, hfields⟩ : ∃ entries : Entries, v = .object entries ∧ _ := ht
  have hm : (JsVal.object entries).get "market" = .number x.market.toNat :=
    get_of_typed rfl hfields
  have hversion : ((JsVal.object entries).get "expectedCurrentVersion").isNullish = true ∨
      isU64 ((JsVal.object entries).get "expectedCurrentVersion") = true := by
    obtain ⟨hnull, -⟩ | ⟨n, -, hn⟩ := option_of_typed hfields.2
    · exact .inl hnull
    · exact .inr ((congrArg isU64 hn).trans (isU64_bigint n))
  have henabled : (JsVal.object entries).get "enabled" = .bool x.enabled :=
    get_of_typed rfl hfields.2.2
  have hslippage : (JsVal.object entries).get "maxTriggerSlippageBps" =
      .number x.maxTriggerSlippageBps.toNat :=
    get_of_typed rfl hfields.2.2.2
  have hage : (JsVal.object entries).get "maxMarkAgeMs" = .bigint x.maxMarkAgeMs.toNat :=
    get_of_typed rfl hfields.2.2.2.2
  have hskew : (JsVal.object entries).get "maxFuturePublishSkewMs" =
      .bigint x.maxFuturePublishSkewMs.toNat :=
    get_of_typed rfl hfields.2.2.2.2.2
  have hbrackets : (JsVal.object entries).get "maxActiveBrackets" =
      .bigint x.maxActiveBrackets.toNat :=
    get_of_typed rfl hfields.2.2.2.2.2.2
  have hmax : isIntegerIn 0 9999 (.number x.maxTriggerSlippageBps.toNat) = true ↔
      x.maxTriggerSlippageBps ≤ TradingSdk.maxTriggerSlippageBps :=
    (@slippage_iff 0 _).trans (and_iff_right (Nat.zero_le _))
  rw [validateSetTriggerMarketConfig_eq_ok, SetTriggerMarketConfig.validateFields_eq_ok, hm,
    henabled, hslippage, hage, hskew, hbrackets, and_iff_right (isIntegerIn_u32 x.market),
    and_iff_right (show isBoolean (.bool x.enabled) = true from rfl), and_iff_right hversion, hmax,
    and_iff_right (isU64_bigint _), and_iff_right (isU64_bigint _), and_iff_right (isU64_bigint _),
    isZero_u32, isZero_u64, isZero_u64, isZero_u64, JsVal.isTruthy,
    SetTriggerMarketConfig.missingBound_eq_false]

theorem optionalBigint_typed (key : String) (id : Option UInt64) :
    (optionalBigint id).isNullish = true ∧ some none = some id ∨
      (Schema.option .u64).Typed key (optionalBigint id) id := by
  cases id with
  | none => exact .inl ⟨rfl, rfl⟩
  | some n => exact .inr ⟨n, rfl, rfl⟩

theorem TriggerLimb.typed_toTs (key : String) (limb : TriggerLimb) :
    TriggerLimb.schema.Typed key limb.toTs limb := by
  refine ⟨_, rfl, ?_, ?_, .inr rfl, .inr rfl, optionalBigint_typed _ _, trivial⟩
  · show ["triggerPrice", "maxSlippageBps", "clientTriggerId"].Nodup
    decide
  · show ∀ k ∈ ["triggerPrice", "maxSlippageBps", "clientTriggerId"], _
    decide

theorem optionalLimb_typed (key : String) (limb : Option TriggerLimb) :
    (optionalLimb limb).isNullish = true ∧ some none = some limb ∨
      (Schema.option TriggerLimb.schema).Typed key (optionalLimb limb) limb := by
  cases limb with
  | none => exact .inl ⟨rfl, rfl⟩
  | some limb => exact .inr ⟨limb, rfl, limb.typed_toTs key⟩

theorem SetPositionTriggers.typed_toTs (key : String) (x : SetPositionTriggers) :
    SetPositionTriggers.schema.Typed key x.toTs x := by
  refine ⟨_, rfl, ?_, ?_, .inr rfl, .inr rfl, .inr rfl, optionalLimb_typed _ _,
    optionalLimb_typed _ _, optionalBigint_typed _ _, trivial⟩
  · show ["market", "owner", "expectedPositionEpoch", "stopLoss", "takeProfit",
      "clientGroupId"].Nodup
    decide
  · show ∀ k ∈ ["market", "owner", "expectedPositionEpoch", "stopLoss", "takeProfit",
      "clientGroupId"], _
    decide

theorem CancelPositionTriggers.typed_toTs (key : String) (x : CancelPositionTriggers) :
    CancelPositionTriggers.schema.Typed key x.toTs x := by
  refine ⟨_, rfl, ?_, ?_, .inr rfl, .inr rfl, .inr rfl, trivial⟩
  · show ["market", "owner", "expectedPositionEpoch"].Nodup
    decide
  · show ∀ k ∈ ["market", "owner", "expectedPositionEpoch"], _
    decide

theorem SetTriggerMarketConfig.typed_toTs (key : String) (x : SetTriggerMarketConfig) :
    SetTriggerMarketConfig.schema.Typed key x.toTs x := by
  refine ⟨_, rfl, ?_, ?_, .inr rfl, optionalBigint_typed _ _, .inr rfl, .inr rfl, .inr rfl, .inr rfl,
    .inr rfl, trivial⟩
  · show ["market", "expectedCurrentVersion", "enabled", "maxTriggerSlippageBps", "maxMarkAgeMs",
      "maxFuturePublishSkewMs", "maxActiveBrackets"].Nodup
    decide
  · show ∀ k ∈ ["market", "expectedCurrentVersion", "enabled", "maxTriggerSlippageBps",
      "maxMarkAgeMs", "maxFuturePublishSkewMs", "maxActiveBrackets"], _
    decide

theorem CancelPositionTriggers.validate_toTs {x : CancelPositionTriggers}
    (h : x.validateFields = .ok ()) : validateCancelPositionTriggers x.toTs = .ok () :=
  (CancelPositionTriggers.validate_iff (x.typed_toTs "data")).mpr h

theorem SetPositionTriggers.validate_toTs {x : SetPositionTriggers}
    (h : x.validateFields = .ok ()) : validateSetPositionTriggers x.toTs = .ok () :=
  (SetPositionTriggers.validate_iff (x.typed_toTs "data")).mpr h

theorem SetTriggerMarketConfig.validate_toTs {x : SetTriggerMarketConfig}
    (h : x.validateFields = .ok ()) : validateSetTriggerMarketConfig x.toTs = .ok () :=
  (SetTriggerMarketConfig.validate_iff (x.typed_toTs "data")).mpr h

end TradingSdk
