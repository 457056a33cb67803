import TradingSdk.Core.MarketConfig
import TradingSdk.Js.Msgpack
import TradingSdk.Js.Names
import TradingSdk.Serde.Content

namespace TradingSdk

open Serde Msgpack

/-- A market configuration in which the fields from `kind` on may be absent. -/
structure ShownConfig where
  market : MarketId
  imBps : UInt32
  mmBps : UInt32
  takerFeeBps : UInt32
  makerFeeBps : UInt32
  fundingIntervalMs : Milliseconds
  maxFundingRateBps : UInt32
  kind : Option MarketKind
  maxPositionSize : Option UInt64
  defaultTtlMs : Option Milliseconds
  netDeltaMargin : Option Bool
  poolId : Option UInt8
  markPriceMaxOracleAgeMs : Option Milliseconds
  feeTiers : Option (List FeeTier)
  tickSize : Option UInt64
  lotSize : Option UInt64
  primaryOracleSigner : Option (FixedBytes 20)
  oracleStalenessMs : Option Milliseconds
  markSourceMode : Option MarkSourceMode
  maxMarkSpreadBps : Option UInt32
  cexCompositeStalenessMs : Option Milliseconds
  partialLiquidationEnabled : Option Bool
  szDecimals : Option UInt8
  ticker : Option String
  maxOpenInterest : Option UInt64

def shownIf {α : Type} (present : Bool) (a : α) : Option α := if present then some a else none

/-- The fields of a configuration that are present in a record. -/
def MarketConfig.shown (x : MarketConfig) (present : Nat → Bool) : ShownConfig where
  market := x.market
  imBps := x.imBps
  mmBps := x.mmBps
  takerFeeBps := x.takerFeeBps
  makerFeeBps := x.makerFeeBps
  fundingIntervalMs := x.fundingIntervalMs
  maxFundingRateBps := x.maxFundingRateBps
  kind := shownIf (present 7) x.kind
  maxPositionSize := shownIf (present 8) x.maxPositionSize
  defaultTtlMs := shownIf (present 9) x.defaultTtlMs
  netDeltaMargin := shownIf (present 10) x.netDeltaMargin
  poolId := shownIf (present 11) x.poolId
  markPriceMaxOracleAgeMs := shownIf (present 12) x.markPriceMaxOracleAgeMs
  feeTiers := shownIf (present 13) x.feeTiers
  tickSize := shownIf (present 14) x.tickSize
  lotSize := shownIf (present 15) x.lotSize
  primaryOracleSigner := if present 16 then x.primaryOracleSigner else none
  oracleStalenessMs := shownIf (present 17) x.oracleStalenessMs
  markSourceMode := shownIf (present 18) x.markSourceMode
  maxMarkSpreadBps := shownIf (present 19) x.maxMarkSpreadBps
  cexCompositeStalenessMs := shownIf (present 20) x.cexCompositeStalenessMs
  partialLiquidationEnabled := shownIf (present 21) x.partialLiquidationEnabled
  szDecimals := shownIf (present 22) x.szDecimals
  ticker := shownIf (present 23) x.ticker
  maxOpenInterest := shownIf (present 24) x.maxOpenInterest

/-- The slots of a record that hold a value. -/
def held (k : Nat) (blank : Nat → Bool) (i : Nat) : Bool := decide (i < k) && !blank i

/-- What a reader of values finds in a slot: the value of its field, or nothing but a nil. -/
def Arrives {V : Type} (read : Msg → Option V) (present : Bool) (m : Msg) (found : Option V) : Prop :=
  if present then ∃ v, found = some v ∧ read m = some v else ∀ v ∈ found, read .nil = some v

theorem mapM_map_eq {α β γ : Type} {f : α → β} {g : β → Option γ} {h : α → γ}
    (hgf : ∀ a, g (f a) = some (h a)) (as : List α) : (as.map f).mapM g = some (as.map h) := by
  induction as with
  | nil => rfl
  | cons a as ih =>
    rw [List.map_cons, List.mapM_cons, hgf, ih]
    rfl

theorem getElem?_of_mapM {α β : Type} {f : α → Option β} {as : List α} {bs : List β}
    (h : as.mapM f = some bs) (i : Nat) : bs[i]? = as[i]?.bind f := by
  induction as generalizing bs i with
  | nil =>
    obtain rfl := Option.some.inj h
    rfl
  | cons a as ih =>
    rw [List.mapM_cons] at h
    obtain ⟨b, hb, h⟩ := Option.bind_eq_some_iff.mp h
    obtain ⟨bs', hbs, h⟩ := Option.bind_eq_some_iff.mp h
    obtain rfl := Option.some.inj h
    cases i with
    | zero => exact hb.symm
    | succ i => exact ih hbs i

/-- Slot by slot, a record arrives as what it holds. -/
theorem MarketConfig.record_arrives {V : Type} {read : Msg → Option V} (x : MarketConfig) (k : Nat)
    (blank : Nat → Bool) (hnil : (read .nil).isSome = true)
    (hread : ∀ m ∈ x.slots, (read m).isSome = true) :
    ∃ raw, (x.recordItems k blank).mapM read = some raw ∧
      ∀ i m, x.slots[i]? = some m → Arrives read (held k blank i) m raw[i]? := by
  have hall : ∀ m ∈ x.recordItems k blank, (read m).isSome = true := by
    intro m hm
    obtain ⟨i, hi, rfl⟩ := List.mem_mapIdx.mp hm
    split_ifs
    · exact hnil
    · exact hread _ (List.mem_of_mem_take (List.getElem_mem hi))
  obtain ⟨raw, hraw⟩ := Option.isSome_iff_exists.mp (mapM_isSome_iff.mpr hall)
  refine ⟨raw, hraw, fun i m hm => ?_⟩
  rw [getElem?_of_mapM hraw i, MarketConfig.recordItems, List.getElem?_mapIdx, List.getElem?_take, hm]
  by_cases hi : i < k
  · rw [if_pos hi, Option.map_some, Option.bind_some]
    cases hb : blank i with
    | true =>
      have hheld : held k blank i = false := by rw [held, hb, Bool.not_true, Bool.and_false]
      rw [hheld]
      exact fun v hv => hv
    | false =>
      have hheld : held k blank i = true := by
        rw [held, decide_eq_true hi, hb]
        rfl
      obtain ⟨v, hv⟩ := Option.isSome_iff_exists.mp (hread m (List.mem_of_getElem? hm))
      rw [hheld]
      exact ⟨v, hv, hv⟩
  · have hheld : held k blank i = false := by rw [held, decide_eq_false hi, Bool.false_and]
    rw [if_neg hi, hheld]
    rintro v ⟨⟩

/-- A full record shows the whole configuration. -/
theorem MarketConfig.shown_inj {x y : MarketConfig}
    (h : x.shown (fun _ => true) = y.shown (fun _ => true)) : x = y := by
  cases x
  cases y
  simpa [MarketConfig.shown, shownIf] using h

def Branch.name : Branch → String
  | .yes => "Yes"
  | .no => "No"

def MarkSourceMode.name : MarkSourceMode → String
  | .oracleOnly => "OracleOnly"
  | .median => "Median"

theorem Branch.name_inj {b c : Branch} (h : b.name = c.name) : b = c := by
  cases b <;> cases c <;> first | rfl | exact absurd h (by decide)

theorem MarkSourceMode.name_inj {m n : MarkSourceMode} (h : m.name = n.name) : m = n := by
  cases m <;> cases n <;> first | rfl | exact absurd h (by decide)

theorem Branch.toMsg_eq (b : Branch) : Branch.schema.toMsg b = .str (utf8 b.name) := by
  cases b <;> rfl

theorem MarkSourceMode.toMsg_eq (m : MarkSourceMode) :
    MarkSourceMode.schema.toMsg m = .str (utf8 m.name) := by
  cases m <;> rfl

/-- How a language spells the values of a record. -/
structure Rendering (V : Type) where
  absent : V
  number : Int → V
  bigint : Int → V
  bool : Bool → V
  string : String → V
  bytes : Bytes → V
  list : List V → V
  record : List (String × V) → V
  field : String → String

def Rendering.ts : Rendering Js.JsVal where
  absent := .undefined
  number := .number
  bigint := .bigint
  bool := .bool
  string := .string
  bytes := .uint8Array
  list := .array
  record := .object
  field := Js.snakeToCamel

def Rendering.py : Rendering Content where
  absent := .null
  number := .int
  bigint := .int
  bool := .bool
  string := .str
  bytes := .bytes
  list := .seq
  record := .map
  field := id

section Render

variable {V : Type} (r : Rendering V)

def Rendering.optional {α : Type} (f : α → V) : Option α → V
  | none => r.absent
  | some a => f a

def Rendering.u8 (n : UInt8) : V := r.number n.toNat

def Rendering.u32 (n : UInt32) : V := r.number n.toNat

def Rendering.u64 (n : UInt64) : V := r.bigint n.toNat

def MarketKind.render : MarketKind → V
  | .perp => r.string "Perp"
  | .conditionalPerp impactMarketId branch =>
    r.record [("ConditionalPerp", r.list [r.u32 impactMarketId, r.string branch.name])]
  | .predictionBinary impactMarketId branch =>
    r.record [("PredictionBinary", r.list [r.u32 impactMarketId, r.string branch.name])]

def FeeTier.render (tier : FeeTier) : V := r.record
  [(r.field "min_30d_volume_micro_usdc", r.u64 tier.min30dVolumeMicroUsdc),
   (r.field "maker_fee_tenth_bps", r.number tier.makerFeeTenthBps.toInt),
   (r.field "taker_fee_tenth_bps", r.number tier.takerFeeTenthBps.toInt)]

def ShownConfig.render (c : ShownConfig) : V := r.record
  [(r.field "market", r.u32 c.market), (r.field "im_bps", r.u32 c.imBps),
   (r.field "mm_bps", r.u32 c.mmBps), (r.field "taker_fee_bps", r.u32 c.takerFeeBps),
   (r.field "maker_fee_bps", r.u32 c.makerFeeBps),
   (r.field "funding_interval_ms", r.u64 c.fundingIntervalMs),
   (r.field "max_funding_rate_bps", r.u32 c.maxFundingRateBps),
   (r.field "kind", r.optional (MarketKind.render r) c.kind),
   (r.field "max_position_size", r.optional r.u64 c.maxPositionSize),
   (r.field "default_ttl_ms", r.optional r.u64 c.defaultTtlMs),
   (r.field "net_delta_margin", r.optional r.bool c.netDeltaMargin),
   (r.field "pool_id", r.optional r.u8 c.poolId),
   (r.field "mark_price_max_oracle_age_ms", r.optional r.u64 c.markPriceMaxOracleAgeMs),
   (r.field "fee_tiers", r.optional (fun tiers => r.list (tiers.map (FeeTier.render r))) c.feeTiers),
   (r.field "tick_size", r.optional r.u64 c.tickSize),
   (r.field "lot_size", r.optional r.u64 c.lotSize),
   (r.field "primary_oracle_signer", r.optional (fun a => r.bytes a.1) c.primaryOracleSigner),
   (r.field "oracle_staleness_ms", r.optional r.u64 c.oracleStalenessMs),
   (r.field "mark_source_mode", r.optional (fun m => r.string m.name) c.markSourceMode),
   (r.field "max_mark_spread_bps", r.optional r.u32 c.maxMarkSpreadBps),
   (r.field "cex_composite_staleness_ms", r.optional r.u64 c.cexCompositeStalenessMs),
   (r.field "partial_liquidation_enabled", r.optional r.bool c.partialLiquidationEnabled),
   (r.field "sz_decimals", r.optional r.u8 c.szDecimals),
   (r.field "ticker", r.optional r.string c.ticker),
   (r.field "max_open_interest", r.optional r.u64 c.maxOpenInterest)]

end Render

/-- A rendering that loses nothing: no two values of one kind look the same, and none looks
absent. -/
structure Rendering.Faithful {V : Type} (r : Rendering V) : Prop where
  number : ∀ m n, r.number m = r.number n → m = n
  bigint : ∀ m n, r.bigint m = r.bigint n → m = n
  bool : ∀ a b, r.bool a = r.bool b → a = b
  string : ∀ s t, r.string s = r.string t → s = t
  bytes : ∀ as bs, r.bytes as = r.bytes bs → as = bs
  list : ∀ as bs, r.list as = r.list bs → as = bs
  record : ∀ as bs, r.record as = r.record bs → as = bs
  string_ne_record : ∀ s as, r.string s ≠ r.record as
  present : (∀ n, r.number n ≠ r.absent) ∧ (∀ n, r.bigint n ≠ r.absent) ∧
    (∀ b, r.bool b ≠ r.absent) ∧ (∀ s, r.string s ≠ r.absent) ∧ (∀ bs, r.bytes bs ≠ r.absent) ∧
    (∀ vs, r.list vs ≠ r.absent) ∧ ∀ es, r.record es ≠ r.absent

theorem Rendering.ts_faithful : Rendering.ts.Faithful := by
  constructor <;> simp [Rendering.ts]

theorem Rendering.py_faithful : Rendering.py.Faithful := by
  constructor <;> simp [Rendering.py]

/-- Where no value looks absent, a missing one stays apart. -/
theorem Rendering.optional_inj {V α : Type} {r : Rendering V} {f : α → V}
    (hf : ∀ a b, f a = f b → a = b) (hne : ∀ a, f a ≠ r.absent) {x y : Option α}
    (h : r.optional f x = r.optional f y) : x = y := by
  match x, y with
  | none, none => rfl
  | none, some b => exact absurd h.symm (hne b)
  | some a, none => exact absurd h (hne a)
  | some a, some b => exact congrArg some (hf a b h)

namespace Rendering.Faithful

variable {V : Type} {r : Rendering V} (hr : r.Faithful)
include hr

theorem u8 (m n : UInt8) (h : r.u8 m = r.u8 n) : m = n :=
  UInt8.toNat_inj.mp (Int.ofNat.inj (hr.number _ _ h))

theorem u32 (m n : UInt32) (h : r.u32 m = r.u32 n) : m = n :=
  UInt32.toNat_inj.mp (Int.ofNat.inj (hr.number _ _ h))

theorem u64 (m n : UInt64) (h : r.u64 m = r.u64 n) : m = n :=
  UInt64.toNat_inj.mp (Int.ofNat.inj (hr.bigint _ _ h))

/-- A variant with fields determines its name, the market and the branch. -/
theorem variant {name name' : String} {m n : UInt32} {b c : Branch}
    (h : r.record [(name, r.list [r.u32 m, r.string b.name])] =
      r.record [(name', r.list [r.u32 n, r.string c.name])]) : name = name' ∧ m = n ∧ b = c := by
  have hentries := hr.record _ _ h
  simp only [List.cons.injEq, Prod.mk.injEq, and_true] at hentries
  have hitems := hr.list _ _ hentries.2
  simp only [List.cons.injEq, and_true] at hitems
  exact ⟨hentries.1, hr.u32 _ _ hitems.1, Branch.name_inj (hr.string _ _ hitems.2)⟩

theorem marketKind (a b : MarketKind) (h : a.render r = b.render r) : a = b := by
  cases a with
  | perp =>
    cases b with
    | perp => rfl
    | _ => exact absurd h (hr.string_ne_record _ _)
  | conditionalPerp m branch =>
    cases b with
    | perp => exact absurd h.symm (hr.string_ne_record _ _)
    | conditionalPerp n branch' =>
      obtain ⟨-, rfl, rfl⟩ := hr.variant h
      rfl
    | predictionBinary n branch' => exact absurd (hr.variant h).1 (by decide)
  | predictionBinary m branch =>
    cases b with
    | perp => exact absurd h.symm (hr.string_ne_record _ _)
    | conditionalPerp n branch' => exact absurd (hr.variant h).1 (by decide)
    | predictionBinary n branch' =>
      obtain ⟨-, rfl, rfl⟩ := hr.variant h
      rfl

theorem marketKind_present (a : MarketKind) : a.render r ≠ r.absent := by
  obtain ⟨-, -, -, hstring, -, -, hrecord⟩ := hr.present
  cases a with
  | perp => exact hstring _
  | _ => exact hrecord _

theorem feeTier (a b : FeeTier) (h : a.render r = b.render r) : a = b := by
  have hentries := hr.record _ _ h
  simp only [List.cons.injEq, Prod.mk.injEq, true_and, and_true] at hentries
  obtain ⟨hvolume, hmaker, htaker⟩ := hentries
  cases a
  cases b
  rw [FeeTier.mk.injEq]
  exact ⟨hr.u64 _ _ hvolume, Int16.toInt_inj.mp (hr.number _ _ hmaker),
    Int16.toInt_inj.mp (hr.number _ _ htaker)⟩

theorem feeTiers (as bs : List FeeTier)
    (h : r.list (as.map (FeeTier.render r)) = r.list (bs.map (FeeTier.render r))) : as = bs :=
  List.map_injective_iff.mpr (fun a b => hr.feeTier a b) (hr.list _ _ h)

/-- What a decoder shows determines every field. -/
theorem shownConfig {c d : ShownConfig} (h : c.render r = d.render r) : c = d := by
  obtain ⟨hnumber, hbigint, hbool, hstring, hbytes, hlist, -⟩ := hr.present
  have hentries := hr.record _ _ h
  simp only [List.cons.injEq, Prod.mk.injEq, true_and, and_true] at hentries
  obtain ⟨h0, h1, h2, h3, h4, h5, h6, h7, h8, h9, h10, h11, h12, h13, h14, h15, h16, h17, h18, h19,
    h20, h21, h22, h23, h24⟩ := hentries
  have hu64 (x y : Option UInt64) : r.optional r.u64 x = r.optional r.u64 y → x = y :=
    optional_inj hr.u64 fun _ => hbigint _
  have hu32 (x y : Option UInt32) : r.optional r.u32 x = r.optional r.u32 y → x = y :=
    optional_inj hr.u32 fun _ => hnumber _
  have hu8 (x y : Option UInt8) : r.optional r.u8 x = r.optional r.u8 y → x = y :=
    optional_inj hr.u8 fun _ => hnumber _
  have hflag (x y : Option Bool) : r.optional r.bool x = r.optional r.bool y → x = y :=
    optional_inj hr.bool hbool
  have hkind := optional_inj hr.marketKind hr.marketKind_present h7
  have htiers := optional_inj hr.feeTiers (fun _ => hlist _) h13
  have hsigner := optional_inj (fun _ _ h => Subtype.ext (hr.bytes _ _ h)) (fun _ => hbytes _) h16
  have hmode := optional_inj (fun _ _ h => MarkSourceMode.name_inj (hr.string _ _ h))
    (fun _ => hstring _) h18
  have hticker := optional_inj hr.string hstring h23
  cases c
  cases d
  rw [ShownConfig.mk.injEq]
  exact ⟨hr.u32 _ _ h0, hr.u32 _ _ h1, hr.u32 _ _ h2, hr.u32 _ _ h3, hr.u32 _ _ h4, hr.u64 _ _ h5,
    hr.u32 _ _ h6, hkind, hu64 _ _ h8, hu64 _ _ h9, hflag _ _ h10, hu8 _ _ h11, hu64 _ _ h12, htiers,
    hu64 _ _ h14, hu64 _ _ h15, hsigner, hu64 _ _ h17, hmode, hu32 _ _ h19, hu64 _ _ h20,
    hflag _ _ h21, hu8 _ _ h22, hticker, hu64 _ _ h24⟩

end Rendering.Faithful

end TradingSdk
