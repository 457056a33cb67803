import TradingSdk.Markets.Python
import TradingSdk.Markets.TypeScript

namespace TradingSdk

open Serde Msgpack Js

mutual
/-- A JavaScript value and a Python value that say the same, fields under their names in either
language. -/
def SameValue : JsVal → Content → Prop
  | .undefined, .null => True
  | .bool a, .bool b => a = b
  | .number m, .int n => m = n
  | .bigint m, .int n => m = n
  | .string s, .str t => s = t
  | .uint8Array bs, .bytes cs => bs = cs
  | .array vs, .seq ws => SameItems vs ws
  | .object es, .map fs => SameFields es fs
  | _, _ => False
def SameItems : List JsVal → List Content → Prop
  | [], [] => True
  | v :: vs, w :: ws => SameValue v w ∧ SameItems vs ws
  | _, _ => False
def SameFields : List (String × JsVal) → List (String × Content) → Prop
  | [], [] => True
  | (k, v) :: es, (name, w) :: fs => k = snakeToCamel name ∧ SameValue v w ∧ SameFields es fs
  | _, _ => False
end

theorem same_optional {α : Type} {f : α → JsVal} {g : α → Content} (h : ∀ a, SameValue (f a) (g a))
    (o : Option α) : SameValue (Rendering.ts.optional f o) (Rendering.py.optional g o) := by
  cases o with
  | none => trivial
  | some a => exact h a

theorem MarketKind.same (kind : MarketKind) :
    SameValue (kind.render Rendering.ts) (kind.render Rendering.py) := by
  cases kind with
  | perp => rfl
  | conditionalPerp id branch =>
    exact ⟨by decide, ⟨rfl, rfl, trivial⟩, trivial⟩
  | predictionBinary id branch =>
    exact ⟨by decide, ⟨rfl, rfl, trivial⟩, trivial⟩

theorem FeeTier.same (tiers : List FeeTier) :
    SameValue (Rendering.ts.list (tiers.map (FeeTier.render Rendering.ts)))
      (Rendering.py.list (tiers.map (FeeTier.render Rendering.py))) := by
  show SameItems _ _
  induction tiers with
  | nil => trivial
  | cons tier tiers ih => exact ⟨⟨rfl, rfl, rfl, rfl, rfl, rfl, trivial⟩, ih⟩

/-- One configuration looks the same in both languages. -/
theorem ShownConfig.same (c : ShownConfig) :
    SameValue (c.render Rendering.ts) (c.render Rendering.py) := by
  have hu64 : ∀ o, SameValue (Rendering.ts.optional Rendering.ts.u64 o)
      (Rendering.py.optional Rendering.py.u64 o) := same_optional fun _ => rfl
  have hu32 : ∀ o, SameValue (Rendering.ts.optional Rendering.ts.u32 o)
      (Rendering.py.optional Rendering.py.u32 o) := same_optional fun _ => rfl
  have hu8 : ∀ o, SameValue (Rendering.ts.optional Rendering.ts.u8 o)
      (Rendering.py.optional Rendering.py.u8 o) := same_optional fun _ => rfl
  have hflag : ∀ o, SameValue (Rendering.ts.optional Rendering.ts.bool o)
      (Rendering.py.optional Rendering.py.bool o) := same_optional fun _ => rfl
  have hsigner : ∀ o : Option (FixedBytes 20),
      SameValue (Rendering.ts.optional (fun a => Rendering.ts.bytes a.1) o)
        (Rendering.py.optional (fun a => Rendering.py.bytes a.1) o) := same_optional fun _ => rfl
  have hmode : ∀ o : Option MarkSourceMode,
      SameValue (Rendering.ts.optional (fun m => Rendering.ts.string m.name) o)
        (Rendering.py.optional (fun m => Rendering.py.string m.name) o) := same_optional fun _ => rfl
  have hticker : ∀ o, SameValue (Rendering.ts.optional Rendering.ts.string o)
      (Rendering.py.optional Rendering.py.string o) := same_optional fun _ => rfl
  have hkind := same_optional MarketKind.same c.kind
  have htiers := same_optional FeeTier.same c.feeTiers
  refine ⟨rfl, rfl, rfl, rfl, rfl, rfl, rfl, rfl, rfl, rfl, rfl, rfl, rfl, rfl, rfl, hkind, rfl, hu64 _,
    rfl, hu64 _, rfl, hflag _, rfl, hu8 _, rfl, hu64 _, rfl, htiers, rfl, hu64 _, rfl, hu64 _, rfl,
    hsigner _, rfl, hu64 _, rfl, hmode _, rfl, hu32 _, rfl, hu64 _, rfl, hflag _, rfl, hu8 _, rfl,
    hticker _, rfl, hu64 _, trivial⟩

/-- A record through the TypeScript client. -/
def tsMarketConfig (m : Msg) : Option JsVal :=
  (jsOfMsg m).bind fun
    | .array raw => Js.decodeMarketConfig raw
    | _ => none

/-- A record through the Python client. -/
def pyMarketConfig (m : Msg) : Option Content :=
  (Python.pyOfMsg m).bind fun
    | .seq raw => Python.decodeMarketConfig raw
    | _ => none

theorem front_held {k : Nat} {blank : Nat → Bool} (hk : 7 ≤ k) (hblank : ∀ i < 7, blank i = false) :
    ∀ i < 7, held k blank i = true := by
  intro i hi
  have hik : i < k := by omega
  rw [held, decide_eq_true hik, hblank i hi]
  rfl

theorem MarketConfig.ts_record (x : MarketConfig) {k : Nat} {blank : Nat → Bool} (hk : 7 ≤ k)
    (hblank : ∀ i < 7, blank i = false) : ∃ raw, jsOfMsg (x.record k blank) = some (.array raw) ∧
      Js.decodeMarketConfig raw = some ((x.shown (held k blank)).render Rendering.ts) := by
  obtain ⟨raw, hraw, harrives⟩ := x.record_arrives k blank rfl (isSome_jsOfMsg_slots x)
  refine ⟨raw, ?_, Js.decodeMarketConfig_record x (front_held hk hblank) harrives⟩
  rw [record, jsOfMsg, jsOfMsgs_eq_mapM, hraw, Option.map_some]

theorem MarketConfig.py_record (x : MarketConfig) {k : Nat} {blank : Nat → Bool} (hk : 7 ≤ k)
    (hblank : ∀ i < 7, blank i = false) :
    ∃ raw, Python.pyOfMsg (x.record k blank) = some (.seq raw) ∧
      Python.decodeMarketConfig raw = some ((x.shown (held k blank)).render Rendering.py) := by
  obtain ⟨raw, hraw, harrives⟩ := x.record_arrives k blank rfl (Python.isSome_pyOfMsg_slots x)
  exact ⟨raw, Python.pyOfMsg_arr hraw,
    Python.decodeMarketConfig_record x (front_held hk hblank) harrives⟩

theorem mapIdx_id {α : Type} (as : List α) : (as.mapIdx fun _ a => a) = as := by
  induction as with
  | nil => rfl
  | cons a as ih => rw [List.mapIdx_cons, ih]

/-- The record with every field is the whole encoding. -/
theorem MarketConfig.record_full (x : MarketConfig) :
    x.record 25 (fun _ => false) = MarketConfig.schema.toMsg x := by
  have htake : x.slots.take 25 = x.slots := List.take_of_length_le (Nat.le_of_eq rfl)
  rw [record, recordItems, htake, x.toMsg_eq]
  exact congrArg Msg.arr (mapIdx_id x.slots)

/-- A reader that shows every field of a full record tells any two of them apart. -/
theorem MarketConfig.eq_of_render {V : Type} {r : Rendering V} (hr : r.Faithful) {x y : MarketConfig}
    (h : (x.shown (held 25 fun _ => false)).render r = (y.shown (held 25 fun _ => false)).render r) :
    x = y := by
  have hshown : x.shown (fun _ => true) = y.shown (fun _ => true) := hr.shownConfig h
  exact MarketConfig.shown_inj hshown

/-- Both decoders return what a record holds, and a full record determines the configuration. -/
theorem marketConfig_decoders_exact (decoder : MsgpackDecoder) (unpacker : Python.Unpacker)
    (x : MarketConfig) (k : Nat) (blank : Nat → Bool) (hk : 7 ≤ k)
    (hblank : ∀ i < 7, blank i = false) :
    tsMarketConfig (x.record k blank) = some ((x.shown (held k blank)).render Rendering.ts) ∧
    pyMarketConfig (x.record k blank) = some ((x.shown (held k blank)).render Rendering.py) ∧
    SameValue ((x.shown (held k blank)).render Rendering.ts)
      ((x.shown (held k blank)).render Rendering.py) ∧
    ((x.record k blank).Fits → ∃ raw row,
      decoder.decode (x.record k blank).encode = .ok (.array raw) ∧
      Js.decodeMarketConfig raw = some ((x.shown (held k blank)).render Rendering.ts) ∧
      unpacker.unpackb (x.record k blank).encode = .ok (.seq row) ∧
      Python.decodeMarketConfig row = some ((x.shown (held k blank)).render Rendering.py)) ∧
    ∀ y, (tsMarketConfig (MarketConfig.schema.toMsg x) = tsMarketConfig (MarketConfig.schema.toMsg y) →
        x = y) ∧
      (pyMarketConfig (MarketConfig.schema.toMsg x) = pyMarketConfig (MarketConfig.schema.toMsg y) →
        x = y) := by
  have hts : ∀ (x : MarketConfig) {k : Nat} {blank : Nat → Bool}, 7 ≤ k → (∀ i < 7, blank i = false) →
      tsMarketConfig (x.record k blank) = some ((x.shown (held k blank)).render Rendering.ts) := by
    intro x k blank hk hblank
    obtain ⟨raw, hraw, hdecode⟩ := x.ts_record hk hblank
    rw [tsMarketConfig, hraw]
    exact hdecode
  have hpy : ∀ (x : MarketConfig) {k : Nat} {blank : Nat → Bool}, 7 ≤ k → (∀ i < 7, blank i = false) →
      pyMarketConfig (x.record k blank) = some ((x.shown (held k blank)).render Rendering.py) := by
    intro x k blank hk hblank
    obtain ⟨raw, hraw, hdecode⟩ := x.py_record hk hblank
    rw [pyMarketConfig, hraw]
    exact hdecode
  refine ⟨hts x hk hblank, hpy x hk hblank, ShownConfig.same _, fun hfits => ?_, fun y => ⟨fun h => ?_,
    fun h => ?_⟩⟩
  · obtain ⟨raw, hraw, hdecode⟩ := x.ts_record hk hblank
    obtain ⟨row, hrow, hdecodePy⟩ := x.py_record hk hblank
    exact ⟨raw, row, decoder.decode_encode _ _ hfits hraw, hdecode,
      unpacker.unpackb_encode _ _ hfits hrow, hdecodePy⟩
  · rw [← x.record_full, ← y.record_full, hts x (by decide) (by simp), hts y (by decide) (by simp)] at h
    exact MarketConfig.eq_of_render Rendering.ts_faithful (Option.some.inj h)
  · rw [← x.record_full, ← y.record_full, hpy x (by decide) (by simp), hpy y (by decide) (by simp)] at h
    exact MarketConfig.eq_of_render Rendering.py_faithful (Option.some.inj h)

/-- A market of an impact family with a maker rebate and a primary signer. -/
def sampleMarketConfig : MarketConfig where
  market := 7
  imBps := 1000
  mmBps := 500
  takerFeeBps := 5
  makerFeeBps := 2
  fundingIntervalMs := 3600000
  maxFundingRateBps := 100
  kind := .conditionalPerp 3 .no
  maxPositionSize := 18446744073709551615
  defaultTtlMs := 60000
  netDeltaMargin := true
  poolId := 1
  markPriceMaxOracleAgeMs := 30000
  feeTiers := [⟨0, -5, 30⟩, ⟨9007199254740993, -10, 25⟩]
  tickSize := 10000
  lotSize := 1
  primaryOracleSigner := some Address.default
  oracleStalenessMs := 5000
  markSourceMode := .median
  maxMarkSpreadBps := 100
  cexCompositeStalenessMs := 30000
  partialLiquidationEnabled := true
  szDecimals := 4
  ticker := "BTC"
  maxOpenInterest := 0

/-- A record that ends with the fee tiers and leaves the position cap out. -/
theorem marketConfig_decoders_exact_sample :
    tsMarketConfig (sampleMarketConfig.record 14 (· == 8)) =
      some ((sampleMarketConfig.shown (held 14 (· == 8))).render Rendering.ts) ∧
    pyMarketConfig (sampleMarketConfig.record 14 (· == 8)) =
      some ((sampleMarketConfig.shown (held 14 (· == 8))).render Rendering.py) := by
  have h := marketConfig_decoders_exact .reference .reference sampleMarketConfig 14 (· == 8)
    (by decide) (by decide)
  exact ⟨h.1, h.2.1⟩

end TradingSdk
