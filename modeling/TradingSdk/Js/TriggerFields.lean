import TradingSdk.Core.Governance
import TradingSdk.Js.RoundTrip

namespace TradingSdk.Js

open Serde

theorem seq_eq_ok {x y : Except JsError Unit} :
    (do x; y) = .ok () ↔ x = .ok () ∧ y = .ok () := by
  cases x with
  | error e => simp [bind, Except.bind]
  | ok u => simp [bind, Except.bind]

theorem isNonzeroU64_iff {v : JsVal} :
    isNonzeroU64 v = true ↔ ∃ n, v = .bigint n ∧ 0 < n ∧ n < 2^64 := by
  cases v <;> simp [isNonzeroU64]

theorem isU64_iff {v : JsVal} : isU64 v = true ↔ ∃ n, v = .bigint n ∧ 0 ≤ n ∧ n < 2^64 := by
  cases v <;> simp [isU64]

theorem isIntegerIn_iff {lo hi : Int} {v : JsVal} :
    isIntegerIn lo hi v = true ↔ ∃ n, v = .number n ∧ lo ≤ n ∧ n ≤ hi := by
  cases v <;> simp [isIntegerIn]

theorem assertU32_eq_ok {name : String} {v : JsVal} :
    assertU32 name v = .ok () ↔ isIntegerIn 0 (2^32 - 1) v = true :=
  throwUnless_eq_ok

theorem assertU64_eq_ok {name : String} {v : JsVal} :
    assertU64 name v = .ok () ↔ isU64 v = true :=
  throwUnless_eq_ok

theorem assertNonzeroU64_eq_ok {name : String} {v : JsVal} :
    assertNonzeroU64 name v = .ok () ↔ isNonzeroU64 v = true := by
  rw [assertNonzeroU64, seq_eq_ok, assertU64_eq_ok, throwUnless_eq_ok, and_iff_right_of_imp]
  intro h
  obtain ⟨n, rfl, hpos, hlt⟩ := isNonzeroU64_iff.mp h
  exact isU64_iff.mpr ⟨n, rfl, le_of_lt hpos, hlt⟩

theorem unlessNullish_eq_ok {v : JsVal} {check : JsVal → Except JsError Unit} :
    unlessNullish v check = .ok () ↔ v.isNullish = true ∨ check v = .ok () := by
  rw [unlessNullish]
  split_ifs with h <;> simp [h]

theorem validateLimb_eq_ok {name : String} {limb : JsVal} :
    validateLimb name limb = .ok () ↔ isNonzeroU64 (limb.get "triggerPrice") = true ∧
      isIntegerIn 1 9999 (limb.get "maxSlippageBps") = true ∧
      ((limb.get "clientTriggerId").isNullish = true ∨
        isNonzeroU64 (limb.get "clientTriggerId") = true) := by
  rw [validateLimb, seq_eq_ok, seq_eq_ok, assertNonzeroU64_eq_ok, throwUnless_eq_ok,
    unlessNullish_eq_ok, assertNonzeroU64_eq_ok]

theorem validateSetPositionTriggers_eq_ok {data : JsVal} :
    validateSetPositionTriggers data = .ok () ↔
      isIntegerIn 0 (2^32 - 1) (data.get "market") = true ∧
      isBytesOf 20 (data.get "owner") = true ∧
      isNonzeroU64 (data.get "expectedPositionEpoch") = true ∧
      ((data.get "stopLoss").isNullish && (data.get "takeProfit").isNullish) = false ∧
      ((data.get "stopLoss").isNullish = true ∨
        validateLimb "stopLoss" (data.get "stopLoss") = .ok ()) ∧
      ((data.get "takeProfit").isNullish = true ∨
        validateLimb "takeProfit" (data.get "takeProfit") = .ok ()) ∧
      ((data.get "clientGroupId").isNullish = true ∨
        isNonzeroU64 (data.get "clientGroupId") = true) ∧
      sameBigint (limbId (data.get "stopLoss")) (limbId (data.get "takeProfit")) = false := by
  simp only [validateSetPositionTriggers, seq_eq_ok, assertU32_eq_ok, throwUnless_eq_ok,
    assertNonzeroU64_eq_ok, unlessNullish_eq_ok, Bool.not_eq_true']

theorem validateCancelPositionTriggers_eq_ok {data : JsVal} :
    validateCancelPositionTriggers data = .ok () ↔
      isIntegerIn 0 (2^32 - 1) (data.get "market") = true ∧
      isBytesOf 20 (data.get "owner") = true ∧
      isNonzeroU64 (data.get "expectedPositionEpoch") = true := by
  simp only [validateCancelPositionTriggers, seq_eq_ok, assertU32_eq_ok, throwUnless_eq_ok,
    assertNonzeroU64_eq_ok]

theorem validateSetTriggerMarketConfig_eq_ok {config : JsVal} :
    validateSetTriggerMarketConfig config = .ok () ↔
      isIntegerIn 0 (2^32 - 1) (config.get "market") = true ∧
      isBoolean (config.get "enabled") = true ∧
      ((config.get "expectedCurrentVersion").isNullish = true ∨
        isU64 (config.get "expectedCurrentVersion") = true) ∧
      isIntegerIn 0 9999 (config.get "maxTriggerSlippageBps") = true ∧
      isU64 (config.get "maxMarkAgeMs") = true ∧
      isU64 (config.get "maxFuturePublishSkewMs") = true ∧
      isU64 (config.get "maxActiveBrackets") = true ∧
      ((config.get "enabled").isTruthy && (isZero (config.get "maxTriggerSlippageBps") ||
        isZero (config.get "maxMarkAgeMs") || isZero (config.get "maxFuturePublishSkewMs") ||
        isZero (config.get "maxActiveBrackets"))) = false := by
  simp only [validateSetTriggerMarketConfig, seq_eq_ok, assertU32_eq_ok, assertU64_eq_ok,
    throwUnless_eq_ok, unlessNullish_eq_ok, Bool.not_eq_true']

/-- The fields of an object stand for those of a struct. -/
def DenotesObject {α : Type} : Schema α → Entries → α → Prop
  | .struct fs e, entries, a => DenotesFields fs entries (e.symm a)
  | _, _, _ => False

theorem FieldDenotes.read {key : String} {α : Type} {s : Schema α} {dflt : Option α}
    {before : Option JsVal} {v : JsVal} {a : α} (h : FieldDenotes key s dflt before a)
    (hv : before.getD .undefined = v) (hn : v.isNullish = false)
    (hc : convertValue key v = .ok v) : s.ofJs v = some a := by
  cases before with
  | none =>
    obtain rfl : JsVal.undefined = v := hv
    cases hn
  | some w =>
    obtain rfl : w = v := hv
    obtain ⟨htrue, _⟩ | ⟨_, w', hw, hread⟩ := h
    · rw [hn] at htrue
      cases htrue
    · rw [hc] at hw
      exact Except.ok.inj hw ▸ hread

theorem FieldDenotes.eq_none {key : String} {α : Type} {s : Schema α} {before : Option JsVal}
    {a : Option α} (h : FieldDenotes key (.option s) none before a)
    (hv : (before.getD .undefined).isNullish = true) : a = none := by
  cases before with
  | none => exact (Option.some.inj h).symm
  | some v =>
    obtain ⟨_, hd⟩ | ⟨hfalse, _⟩ := h
    · exact (Option.some.inj hd).symm
    · rw [Option.getD_some, hfalse] at hv
      cases hv

theorem ofJs_option_eq_some {α : Type} {s : Schema α} {v : JsVal} {a : Option α}
    (hn : v.isNullish = false) (h : (Schema.option s).ofJs v = some a) :
    ∃ x, a = some x ∧ s.ofJs v = some x := by
  rw [Schema.ofJs, hn, if_neg Bool.false_ne_true] at h
  obtain ⟨x, hx, rfl⟩ := Option.map_eq_some_iff.mp h
  exact ⟨x, rfl, hx⟩

theorem toNat_of_ofJs_u64 {n : Int} {a : UInt64} (h : Schema.u64.ofJs (.bigint n) = some a) :
    (a.toNat : Int) = n := by
  rw [Schema.ofJs, readJsInt] at h
  split_ifs at h with hr
  · obtain rfl := Option.some.inj h
    rw [UInt64.toNat_ofNat']
    omega
  · cases h

theorem toNat_of_ofJs_u32 {n : Int} {a : UInt32} (h : Schema.u32.ofJs (.number n) = some a) :
    (a.toNat : Int) = n := by
  rw [Schema.ofJs, readJsInt] at h
  split_ifs at h with hr
  · obtain rfl := Option.some.inj h
    rw [UInt32.toNat_ofNat']
    omega
  · cases h

section Fields

variable {key : String} (hkey : plainKey key = true) {before : Option JsVal}

include hkey

theorem FieldDenotes.bigint {n : Int} {a : UInt64} (h : FieldDenotes key .u64 none before a)
    (hv : before.getD .undefined = .bigint n) : (a.toNat : Int) = n :=
  toNat_of_ofJs_u64 (h.read hv rfl (convertValue_leaf hkey rfl))

theorem FieldDenotes.number {n : Int} {a : UInt32} (h : FieldDenotes key .u32 none before a)
    (hv : before.getD .undefined = .number n) : (a.toNat : Int) = n :=
  toNat_of_ofJs_u32 (h.read hv rfl (convertValue_leaf hkey rfl))

theorem FieldDenotes.boolean {b a : Bool} (h : FieldDenotes key .bool none before a)
    (hv : before.getD .undefined = .bool b) : a = b :=
  (Option.some.inj (h.read hv rfl (convertValue_leaf hkey rfl))).symm

theorem FieldDenotes.optionBigint {n : Int} {a : Option UInt64}
    (h : FieldDenotes key (.option .u64) none before a) (hv : before.getD .undefined = .bigint n) :
    ∃ x, a = some x ∧ (x.toNat : Int) = n := by
  obtain ⟨x, rfl, hx⟩ := ofJs_option_eq_some rfl
    (h.read hv rfl (convertValue_leaf hkey rfl))
  exact ⟨x, rfl, toNat_of_ofJs_u64 hx⟩

/-- A nullish or nonzero identifier never reads as zero. -/
theorem FieldDenotes.ne_some_zero {a : Option UInt64}
    (h : FieldDenotes key (.option .u64) none before a)
    (hv : (before.getD .undefined).isNullish = true ∨ isNonzeroU64 (before.getD .undefined) = true) :
    a ≠ some 0 := by
  obtain hnull | hnonzero := hv
  · rw [h.eq_none hnull]
    exact (Option.some_ne_none 0).symm
  · obtain ⟨n, hn, hpos, _⟩ := isNonzeroU64_iff.mp hnonzero
    obtain ⟨x, rfl, hx⟩ := h.optionBigint hkey hn
    rintro hzero
    obtain rfl := Option.some.inj hzero
    exact absurd hx (by simp; omega)

theorem FieldDenotes.ne_zero {a : UInt64} (h : FieldDenotes key .u64 none before a)
    (hv : isNonzeroU64 (before.getD .undefined) = true) : a ≠ 0 := by
  obtain ⟨n, hn, hpos, _⟩ := isNonzeroU64_iff.mp hv
  have hx := h.bigint hkey hn
  rintro rfl
  exact absurd hx (by simp; omega)

end Fields

theorem validateFields_of_validateLimb {name : String} {entries : Entries} {limb : TriggerLimb}
    (hd : DenotesObject TriggerLimb.schema entries limb)
    (h : validateLimb name (.object entries) = .ok ()) : limb.validateFields = .ok () := by
  have hprice : FieldDenotes "triggerPrice" .u64 none (entries.lookup "triggerPrice")
    limb.triggerPrice := hd.1
  have hslippage : FieldDenotes "maxSlippageBps" .u32 none (entries.lookup "maxSlippageBps")
    limb.maxSlippageBps := hd.2.1
  have hid : FieldDenotes "clientTriggerId" (.option .u64) none
    (entries.lookup "clientTriggerId") limb.clientTriggerId := hd.2.2.1
  obtain ⟨hp, hs, hc⟩ := validateLimb_eq_ok.mp h
  obtain ⟨n, hn, hlo, hhi⟩ := isIntegerIn_iff.mp hs
  have hnat := hslippage.number (by decide) hn
  have hmax : maxTriggerSlippageBps.toNat = 9999 := rfl
  refine TriggerLimb.validateFields_eq_ok.mpr
    ⟨hprice.ne_zero (by decide) hp, ⟨?_, ?_⟩, hid.ne_some_zero (by decide) hc⟩
  · rw [UInt32.le_iff_toNat_le, UInt32.toNat_one]
    omega
  · rw [UInt32.le_iff_toNat_le, hmax]
    omega

theorem isBoolean_iff {v : JsVal} : isBoolean v = true ↔ ∃ b, v = .bool b := by
  cases v <;> simp [isBoolean]

theorem validateFields_of_validateSetTriggerMarketConfig {entries : Entries}
    {x : SetTriggerMarketConfig} (hd : DenotesObject SetTriggerMarketConfig.schema entries x)
    (h : validateSetTriggerMarketConfig (.object entries) = .ok ()) :
    x.validateFields = .ok () := by
  have denabled : FieldDenotes "enabled" .bool none (entries.lookup "enabled") x.enabled := hd.2.2.1
  have dslippage : FieldDenotes "maxTriggerSlippageBps" .u32 none
    (entries.lookup "maxTriggerSlippageBps") x.maxTriggerSlippageBps := hd.2.2.2.1
  have dage : FieldDenotes "maxMarkAgeMs" .u64 none (entries.lookup "maxMarkAgeMs")
    x.maxMarkAgeMs := hd.2.2.2.2.1
  have dskew : FieldDenotes "maxFuturePublishSkewMs" .u64 none
    (entries.lookup "maxFuturePublishSkewMs") x.maxFuturePublishSkewMs := hd.2.2.2.2.2.1
  have dbrackets : FieldDenotes "maxActiveBrackets" .u64 none
    (entries.lookup "maxActiveBrackets") x.maxActiveBrackets := hd.2.2.2.2.2.2.1
  obtain ⟨-, henabled, -, hslippage, hage, hskew, hbrackets, hbounds⟩ :=
    validateSetTriggerMarketConfig_eq_ok.mp h
  obtain ⟨b, hb⟩ := isBoolean_iff.mp henabled
  obtain ⟨n, hn, -, hhi⟩ := isIntegerIn_iff.mp hslippage
  obtain ⟨age, hage, -⟩ := isU64_iff.mp hage
  obtain ⟨skew, hskew, -⟩ := isU64_iff.mp hskew
  obtain ⟨brackets, hbrackets, -⟩ := isU64_iff.mp hbrackets
  rw [hb, hn, hage, hskew, hbrackets, ← denabled.boolean (by decide) hb,
    ← dslippage.number (by decide) hn, ← dage.bigint (by decide) hage,
    ← dskew.bigint (by decide) hskew, ← dbrackets.bigint (by decide) hbrackets] at hbounds
  have hnat := dslippage.number (by decide) hn
  have hmax : TradingSdk.maxTriggerSlippageBps.toNat = 9999 := rfl
  refine SetTriggerMarketConfig.validateFields_eq_ok.mpr ⟨?_, ?_⟩
  · rw [UInt32.le_iff_toNat_le, hmax]
    omega
  · rintro ⟨hon, hzero⟩
    rw [hon] at hbounds
    obtain h0 | h0 | h0 | h0 := hzero <;> simp [JsVal.isTruthy, isZero, h0] at hbounds

/-- What reads from a converted object stands under its fields. -/
theorem denotesObject_of_ofJs {α : Type} {s : Schema α} (hs : s.adaptsItem = true)
    {entries result : Entries} {a : α} (hshape : (JsVal.object entries).Shaped)
    (hconv : convertEntries [] entries = .ok result) (hread : s.ofJs (.object result) = some a) :
    DenotesObject s entries a := by
  cases s with
  | struct fs e =>
    rw [Schema.adaptsItem] at hs
    exact (DenotesFields.iff_reads fs _ hconv hshape.1 hshape.2.camelKey
      (Fields.namesOk_of_adapts fs hs)).mpr (ofJs_struct_eq_some.mp hread)
  | _ => cases hs

theorem TriggerLimb.schema_adapts : TriggerLimb.schema.adaptsItem = true := by decide +kernel

theorem get_object_of_nonzero {v : JsVal} {key : String} (h : isNonzeroU64 (v.get key) = true) :
    ∃ entries, v = .object entries := by
  cases v with
  | object entries => exact ⟨entries, rfl⟩
  | _ => cases h

/-- A limb that the client leaves out is none, one that it accepts is valid. -/
theorem validateOptionalLimb_of_field {key : String} (hplain : plainKey key = true)
    {before : Option JsVal} {limb : Option TriggerLimb}
    (hd : FieldDenotes key (.option TriggerLimb.schema) none before limb)
    (hshape : ∀ v, before = some v → v.Shaped)
    (h : (before.getD .undefined).isNullish = true ∨
      validateLimb key (before.getD .undefined) = .ok ()) :
    validateOptionalLimb limb = .ok () ∧ limb.isNone = (before.getD .undefined).isNullish ∧
      ∀ l, limb = some l → ∃ entries, before.getD .undefined = .object entries ∧
        DenotesObject TriggerLimb.schema entries l ∧
        validateLimb key (before.getD .undefined) = .ok () := by
  obtain hnull | hvalid := h
  · obtain rfl := hd.eq_none hnull
    exact ⟨rfl, hnull.symm, fun l hl => by cases hl⟩
  · obtain ⟨entries, hentries⟩ := get_object_of_nonzero (validateLimb_eq_ok.mp hvalid).1
    obtain rfl : before = some (.object entries) := by
      cases before with
      | none => cases hentries
      | some v => exact congrArg some hentries
    obtain ⟨hfalse, _⟩ | ⟨_, w, hw, hread⟩ := hd
    · cases hfalse
    rw [convertValue, if_neg (plainKey_ne hplain (by decide)),
      if_neg (plainKey_ne hplain (by decide))] at hw
    cases hconv : convertEntries [] entries with
    | error e =>
      rw [hconv] at hw
      cases hw
    | ok result =>
      rw [hconv] at hw
      obtain rfl := Except.ok.inj hw
      obtain ⟨l, rfl, hl⟩ := ofJs_option_eq_some rfl hread
      have hlimb := denotesObject_of_ofJs TriggerLimb.schema_adapts (hshape _ rfl) hconv hl
      refine ⟨validateFields_of_validateLimb hlimb hvalid, rfl, ?_⟩
      rintro l' ⟨⟩
      exact ⟨entries, rfl, hlimb, hvalid⟩

theorem shaped_of_lookup {entries : Entries} {key : String} {v : JsVal}
    (h : ShapedEntries entries) (hv : entries.lookup key = some v) : v.Shaped := by
  induction entries with
  | nil => cases hv
  | cons e rest ih =>
    obtain ⟨k, w⟩ := e
    rw [lookup_cons_ite] at hv
    split_ifs at hv
    · exact Option.some.inj hv ▸ h.2.1
    · exact ih h.2.2 hv

theorem limbId_of_denotes {name : String} {entries : Entries} {limb : TriggerLimb}
    (hd : DenotesObject TriggerLimb.schema entries limb)
    (h : validateLimb name (.object entries) = .ok ()) {id : UInt64}
    (hid : limb.clientTriggerId = some id) : limbId (.object entries) = .bigint id.toNat := by
  have dfield : FieldDenotes "clientTriggerId" (.option .u64) none
    (entries.lookup "clientTriggerId") limb.clientTriggerId := hd.2.2.1
  obtain hnull | hnonzero := (validateLimb_eq_ok.mp h).2.2
  · rw [dfield.eq_none hnull] at hid
    cases hid
  · obtain ⟨n, hn, -⟩ := isNonzeroU64_iff.mp hnonzero
    obtain ⟨x, hx, hnat⟩ := dfield.optionBigint (by decide) hn
    obtain rfl := Option.some.inj (hx.symm.trans hid)
    rw [hnat]
    exact hn

/-- Two limbs whose identifiers differ as bigints do not share one. -/
theorem duplicateClientTriggerId_of_fields {stop take : Option TriggerLimb} {vstop vtake : JsVal}
    (hstop : ∀ l, stop = some l → ∃ entries, vstop = .object entries ∧
      DenotesObject TriggerLimb.schema entries l ∧ validateLimb "stopLoss" vstop = .ok ())
    (htake : ∀ l, take = some l → ∃ entries, vtake = .object entries ∧
      DenotesObject TriggerLimb.schema entries l ∧ validateLimb "takeProfit" vtake = .ok ())
    (h : sameBigint (limbId vstop) (limbId vtake) = false) :
    duplicateClientTriggerId stop take = false := by
  match stop, take with
  | none, _ => rfl
  | some _, none => rfl
  | some s, some t =>
    obtain ⟨sentries, rfl, hs, hsvalid⟩ := hstop s rfl
    obtain ⟨tentries, rfl, ht, htvalid⟩ := htake t rfl
    rw [duplicateClientTriggerId, Bool.and_eq_false_iff, decide_eq_false_iff_not]
    cases hid : s.clientTriggerId with
    | none => exact .inl rfl
    | some id =>
      refine .inr fun heq => ?_
      rw [limbId_of_denotes hs hsvalid hid, limbId_of_denotes ht htvalid heq.symm] at h
      simp [sameBigint] at h

theorem validateFields_of_validateSetPositionTriggers {entries : Entries}
    {x : SetPositionTriggers} (hd : DenotesObject SetPositionTriggers.schema entries x)
    (hshape : ShapedEntries entries)
    (h : validateSetPositionTriggers (.object entries) = .ok ()) : x.validateFields = .ok () := by
  have depoch : FieldDenotes "expectedPositionEpoch" .u64 none
    (entries.lookup "expectedPositionEpoch") x.expectedPositionEpoch := hd.2.2.1
  have dstop : FieldDenotes "stopLoss" (.option TriggerLimb.schema) none
    (entries.lookup "stopLoss") x.stopLoss := hd.2.2.2.1
  have dtake : FieldDenotes "takeProfit" (.option TriggerLimb.schema) none
    (entries.lookup "takeProfit") x.takeProfit := hd.2.2.2.2.1
  have dgroup : FieldDenotes "clientGroupId" (.option .u64) none
    (entries.lookup "clientGroupId") x.clientGroupId := hd.2.2.2.2.2.1
  obtain ⟨-, -, hepoch, hempty, hstop, htake, hgroup, hsame⟩ :=
    validateSetPositionTriggers_eq_ok.mp h
  obtain ⟨hstopValid, hstopNone, hstopSome⟩ := validateOptionalLimb_of_field (by decide) dstop
    (fun _ hv => shaped_of_lookup hshape hv) hstop
  obtain ⟨htakeValid, htakeNone, htakeSome⟩ := validateOptionalLimb_of_field (by decide) dtake
    (fun _ hv => shaped_of_lookup hshape hv) htake
  refine SetPositionTriggers.validateFields_eq_ok.mpr
    ⟨depoch.ne_zero (by decide) hepoch, ?_, dgroup.ne_some_zero (by decide) hgroup, hstopValid,
      htakeValid, duplicateClientTriggerId_of_fields hstopSome htakeSome hsame⟩
  rw [hstopNone, htakeNone]
  exact hempty

theorem validateFields_of_validateCancelPositionTriggers {entries : Entries}
    {x : CancelPositionTriggers} (hd : DenotesObject CancelPositionTriggers.schema entries x)
    (h : validateCancelPositionTriggers (.object entries) = .ok ()) : x.validateFields = .ok () := by
  have depoch : FieldDenotes "expectedPositionEpoch" .u64 none
    (entries.lookup "expectedPositionEpoch") x.expectedPositionEpoch := hd.2.2.1
  obtain ⟨-, -, hepoch⟩ := validateCancelPositionTriggers_eq_ok.mp h
  exact CancelPositionTriggers.validateFields_eq_ok.mpr (depoch.ne_zero (by decide) hepoch)

theorem fromWasmEntries_cons {out rest : Entries} {name : String} {v w : JsVal}
    (h : fromWasmValue (snakeToCamel name) v = .ok w) :
    fromWasmEntries out ((name, v) :: rest) =
      fromWasmEntries (assign (snakeToCamel name) w out) rest := by
  rw [fromWasmEntries, h]
  rfl

end TradingSdk.Js

namespace TradingSdk

open Serde Js

def optionalBigint : Option UInt64 → JsVal
  | none => .null
  | some n => .bigint n.toNat

def TriggerLimb.toTs (limb : TriggerLimb) : JsVal := .object
  [("triggerPrice", .bigint limb.triggerPrice.toNat),
   ("maxSlippageBps", .number limb.maxSlippageBps.toNat),
   ("clientTriggerId", optionalBigint limb.clientTriggerId)]

def optionalLimb : Option TriggerLimb → JsVal
  | none => .null
  | some limb => limb.toTs

def SetPositionTriggers.toTs (x : SetPositionTriggers) : JsVal := .object
  [("market", .number x.market.toNat), ("owner", .uint8Array x.owner.1),
   ("expectedPositionEpoch", .bigint x.expectedPositionEpoch.toNat),
   ("stopLoss", optionalLimb x.stopLoss), ("takeProfit", optionalLimb x.takeProfit),
   ("clientGroupId", optionalBigint x.clientGroupId)]

def CancelPositionTriggers.toTs (x : CancelPositionTriggers) : JsVal := .object
  [("market", .number x.market.toNat), ("owner", .uint8Array x.owner.1),
   ("expectedPositionEpoch", .bigint x.expectedPositionEpoch.toNat)]

def SetTriggerMarketConfig.toTs (x : SetTriggerMarketConfig) : JsVal := .object
  [("market", .number x.market.toNat),
   ("expectedCurrentVersion", optionalBigint x.expectedCurrentVersion),
   ("enabled", .bool x.enabled), ("maxTriggerSlippageBps", .number x.maxTriggerSlippageBps.toNat),
   ("maxMarkAgeMs", .bigint x.maxMarkAgeMs.toNat),
   ("maxFuturePublishSkewMs", .bigint x.maxFuturePublishSkewMs.toNat),
   ("maxActiveBrackets", .bigint x.maxActiveBrackets.toNat)]

theorem SetTriggerMarketConfig.fromWasmItem_toJs (x : SetTriggerMarketConfig) :
    fromWasmItem (SetTriggerMarketConfig.schema.toJs x) = .ok x.toTs := by
  obtain ⟨_, _ | _, _, _, _, _, _⟩ := x <;> rfl

theorem CancelPositionTriggers.fromWasmItem_toJs (x : CancelPositionTriggers) :
    fromWasmItem (CancelPositionTriggers.schema.toJs x) = .ok x.toTs :=
  rfl

theorem TriggerLimb.fromWasmItem_toJs (limb : TriggerLimb) :
    fromWasmItem (TriggerLimb.schema.toJs limb) = .ok limb.toTs := by
  obtain ⟨_, _, _ | _⟩ := limb <;> rfl

theorem fromWasmValue_optionalLimb {key : String} (hkey : absentValue key = .null)
    (ho : key ≠ "oracleSource") (ha : key ≠ "action") (limb : Option TriggerLimb) :
    fromWasmValue key ((Schema.option TriggerLimb.schema).toJs limb) = .ok (optionalLimb limb) := by
  match limb with
  | none => exact congrArg _ hkey
  | some limb => exact (fromWasmValue_object ho ha _).trans limb.fromWasmItem_toJs

theorem SetPositionTriggers.fromWasmItem_toJs (x : SetPositionTriggers) :
    fromWasmItem (SetPositionTriggers.schema.toJs x) = .ok x.toTs := by
  have hstop : fromWasmValue (snakeToCamel "stop_loss")
      ((Schema.option TriggerLimb.schema).toJs x.stopLoss) = .ok (optionalLimb x.stopLoss) :=
    fromWasmValue_optionalLimb rfl (by decide) (by decide) _
  have htake : fromWasmValue (snakeToCamel "take_profit")
      ((Schema.option TriggerLimb.schema).toJs x.takeProfit) = .ok (optionalLimb x.takeProfit) :=
    fromWasmValue_optionalLimb rfl (by decide) (by decide) _
  have hgroup : fromWasmValue (snakeToCamel "client_group_id")
      ((Schema.option Schema.u64).toJs x.clientGroupId) = .ok (optionalBigint x.clientGroupId) := by
    cases x.clientGroupId <;> rfl
  have hall : fromWasmEntries [] [("market", .number x.market.toNat),
      ("owner", .uint8Array x.owner.1),
      ("expected_position_epoch", .bigint x.expectedPositionEpoch.toNat),
      ("stop_loss", (Schema.option TriggerLimb.schema).toJs x.stopLoss),
      ("take_profit", (Schema.option TriggerLimb.schema).toJs x.takeProfit),
      ("client_group_id", (Schema.option Schema.u64).toJs x.clientGroupId)] =
      .ok [("market", .number x.market.toNat), ("owner", .uint8Array x.owner.1),
        ("expectedPositionEpoch", .bigint x.expectedPositionEpoch.toNat),
        ("stopLoss", optionalLimb x.stopLoss), ("takeProfit", optionalLimb x.takeProfit),
        ("clientGroupId", optionalBigint x.clientGroupId)] := by
    rw [fromWasmEntries_cons (w := .number x.market.toNat) rfl,
      fromWasmEntries_cons (w := .uint8Array x.owner.1) rfl,
      fromWasmEntries_cons (w := .bigint x.expectedPositionEpoch.toNat) rfl,
      fromWasmEntries_cons hstop, fromWasmEntries_cons htake, fromWasmEntries_cons hgroup]
    rfl
  exact congrArg (Except.map JsVal.object) hall

end TradingSdk
