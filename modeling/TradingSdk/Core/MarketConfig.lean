import TradingSdk.Core.Markets

namespace TradingSdk

open Serde Msgpack

inductive Branch where
  | yes | no
  deriving DecidableEq

def Branch.schema : Schema Branch := .enum
  (.unit "Yes" <| .unit "No" .nil)
  ⟨fun | .inl () => .yes | .inr (.inl ()) => .no,
   fun | .yes => .inl () | .no => .inr (.inl ()),
   fun x => by rcases x with _ | _ | x <;> first | rfl | exact x.elim,
   fun x => by cases x <;> rfl⟩

inductive MarketKind where
  | perp
  | conditionalPerp (impactMarketId : ImpactMarketId) (branch : Branch)
  | predictionBinary (impactMarketId : ImpactMarketId) (branch : Branch)
  deriving DecidableEq

def MarketKind.schema : Schema MarketKind := .enum
  (.unit "Perp" <|
   .struct "ConditionalPerp"
    (.req "impact_market_id" .u32 <| .req "branch" Branch.schema <| .nil) <|
   .struct "PredictionBinary"
    (.req "impact_market_id" .u32 <| .req "branch" Branch.schema <| .nil) .nil)
  ⟨fun | .inl () => .perp
       | .inr (.inl (impactMarketId, branch, ())) => .conditionalPerp impactMarketId branch
       | .inr (.inr (.inl (impactMarketId, branch, ()))) =>
         .predictionBinary impactMarketId branch,
   fun | .perp => .inl ()
       | .conditionalPerp impactMarketId branch => .inr (.inl (impactMarketId, branch, ()))
       | .predictionBinary impactMarketId branch =>
         .inr (.inr (.inl (impactMarketId, branch, ()))),
   fun x => by rcases x with _ | _ | _ | x <;> first | rfl | exact x.elim,
   fun x => by cases x <;> rfl⟩

/-- Per-market risk parameters. -/
structure MarketConfig where
  market : MarketId
  imBps : UInt32
  mmBps : UInt32
  takerFeeBps : UInt32
  makerFeeBps : UInt32
  fundingIntervalMs : Milliseconds
  maxFundingRateBps : UInt32
  kind : MarketKind
  maxPositionSize : UInt64
  defaultTtlMs : Milliseconds
  netDeltaMargin : Bool
  poolId : UInt8
  markPriceMaxOracleAgeMs : Milliseconds
  feeTiers : List FeeTier
  tickSize : UInt64
  lotSize : UInt64
  primaryOracleSigner : Option (FixedBytes 20)
  oracleStalenessMs : Milliseconds
  markSourceMode : MarkSourceMode
  maxMarkSpreadBps : UInt32
  cexCompositeStalenessMs : Milliseconds
  partialLiquidationEnabled : Bool
  szDecimals : UInt8
  ticker : String
  maxOpenInterest : UInt64
  deriving DecidableEq

def MarketConfig.schema : Schema MarketConfig := .struct
  (.req "market" .u32 <| .req "im_bps" .u32 <| .req "mm_bps" .u32 <| .req "taker_fee_bps" .u32 <|
   .req "maker_fee_bps" .u32 <| .req "funding_interval_ms" .u64 <|
   .req "max_funding_rate_bps" .u32 <| .dflt "kind" MarketKind.schema .perp <|
   .dflt "max_position_size" .u64 0 <| .dflt "default_ttl_ms" .u64 0 <|
   .dflt "net_delta_margin" .bool false <| .dflt "pool_id" .u8 0 <|
   .dflt "mark_price_max_oracle_age_ms" .u64 0 <| .dflt "fee_tiers" (.vec FeeTier.schema) [] <|
   .dflt "tick_size" .u64 0 <| .dflt "lot_size" .u64 0 <|
   .dflt "primary_oracle_signer" (.option (.fixedBytes 20 bareBytes)) none <|
   .dflt "oracle_staleness_ms" .u64 0 <|
   .dflt "mark_source_mode" MarkSourceMode.schema .oracleOnly <|
   .dflt "max_mark_spread_bps" .u32 0 <| .dflt "cex_composite_staleness_ms" .u64 0 <|
   .dflt "partial_liquidation_enabled" .bool false <| .dflt "sz_decimals" .u8 0 <|
   .dflt "ticker" .string "" <| .dflt "max_open_interest" .u64 0 <| .nil)
  ⟨fun (market, imBps, mmBps, takerFeeBps, makerFeeBps, fundingIntervalMs, maxFundingRateBps, kind,
     maxPositionSize, defaultTtlMs, netDeltaMargin, poolId, markPriceMaxOracleAgeMs, feeTiers,
     tickSize, lotSize, primaryOracleSigner, oracleStalenessMs, markSourceMode, maxMarkSpreadBps,
     cexCompositeStalenessMs, partialLiquidationEnabled, szDecimals, ticker, maxOpenInterest, ()) =>
    { market, imBps, mmBps, takerFeeBps, makerFeeBps, fundingIntervalMs, maxFundingRateBps, kind,
      maxPositionSize, defaultTtlMs, netDeltaMargin, poolId, markPriceMaxOracleAgeMs, feeTiers,
      tickSize, lotSize, primaryOracleSigner, oracleStalenessMs, markSourceMode, maxMarkSpreadBps,
      cexCompositeStalenessMs, partialLiquidationEnabled, szDecimals, ticker, maxOpenInterest },
   fun x => (x.market, x.imBps, x.mmBps, x.takerFeeBps, x.makerFeeBps, x.fundingIntervalMs,
     x.maxFundingRateBps, x.kind, x.maxPositionSize, x.defaultTtlMs, x.netDeltaMargin, x.poolId,
     x.markPriceMaxOracleAgeMs, x.feeTiers, x.tickSize, x.lotSize, x.primaryOracleSigner,
     x.oracleStalenessMs, x.markSourceMode, x.maxMarkSpreadBps, x.cexCompositeStalenessMs,
     x.partialLiquidationEnabled, x.szDecimals, x.ticker, x.maxOpenInterest, ()),
   fun _ => rfl, fun _ => rfl⟩

/-- The fields in the order of the wire. -/
def MarketConfig.slots (x : MarketConfig) : List Msg :=
  match MarketConfig.schema with
  | .struct fs e => fs.toMsgs (e.symm x)
  | _ => []

theorem MarketConfig.toMsg_eq (x : MarketConfig) : MarketConfig.schema.toMsg x = .arr x.slots := rfl

def MarketConfig.recordItems (x : MarketConfig) (k : Nat) (blank : Nat → Bool) : List Msg :=
  (x.slots.take k).mapIdx fun i m => if blank i then .nil else m

/-- A record as older engines wrote it, with its first `k` fields. Slots in which a gateway leaves
a nil are `blank`. -/
def MarketConfig.record (x : MarketConfig) (k : Nat) (blank : Nat → Bool) : Msg :=
  .arr (x.recordItems k blank)

end TradingSdk
