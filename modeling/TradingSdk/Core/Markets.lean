import TradingSdk.Core.Wire

namespace TradingSdk

open Serde

structure OracleUpdate where
  market : MarketId
  price : UInt64
  signer : Address
  publishTimeMs : Milliseconds
  deriving DecidableEq

def OracleUpdate.schema : Schema OracleUpdate := .struct
  (.req "market" .u32 <| .req "price" .u64 <| .req "signer" Address.schema <|
   .dflt "publish_time_ms" .u64 0 <| .nil)
  ⟨fun (market, price, signer, publishTimeMs, ()) => { market, price, signer, publishTimeMs },
   fun x => (x.market, x.price, x.signer, x.publishTimeMs, ()),
   fun _ => rfl, fun _ => rfl⟩

structure OracleUpdateComposite where
  market : MarketId
  price : UInt64
  nSources : UInt8
  signer : Address
  publishTimeMs : Milliseconds
  deriving DecidableEq

def OracleUpdateComposite.schema : Schema OracleUpdateComposite := .struct
  (.req "market" .u32 <| .req "price" .u64 <| .dflt "n_sources" .u8 0 <|
   .req "signer" Address.schema <| .dflt "publish_time_ms" .u64 0 <| .nil)
  ⟨fun (market, price, nSources, signer, publishTimeMs, ()) =>
    { market, price, nSources, signer, publishTimeMs },
   fun x => (x.market, x.price, x.nSources, x.signer, x.publishTimeMs, ()),
   fun _ => rfl, fun _ => rfl⟩

structure CreateMarket where
  market : MarketId
  imBps : UInt32
  mmBps : UInt32
  takerFeeBps : UInt32
  makerFeeBps : UInt32
  signer : Address
  fundingIntervalMs : Milliseconds
  maxFundingRateBps : UInt32
  poolId : UInt8
  szDecimals : UInt8
  ticker : String
  maxOpenInterest : UInt64
  deriving DecidableEq

def CreateMarket.schema : Schema CreateMarket := .struct
  (.req "market" .u32 <| .req "im_bps" .u32 <| .req "mm_bps" .u32 <| .req "taker_fee_bps" .u32 <|
   .req "maker_fee_bps" .u32 <| .req "signer" Address.schema <| .req "funding_interval_ms" .u64 <|
   .req "max_funding_rate_bps" .u32 <| .dflt "pool_id" .u8 0 <| .req "sz_decimals" .u8 <|
   .req "ticker" .string <| .dflt "max_open_interest" .u64 0 <| .nil)
  ⟨fun (market, imBps, mmBps, takerFeeBps, makerFeeBps, signer, fundingIntervalMs,
     maxFundingRateBps, poolId, szDecimals, ticker, maxOpenInterest, ()) =>
    { market, imBps, mmBps, takerFeeBps, makerFeeBps, signer, fundingIntervalMs, maxFundingRateBps,
      poolId, szDecimals, ticker, maxOpenInterest },
   fun x => (x.market, x.imBps, x.mmBps, x.takerFeeBps, x.makerFeeBps, x.signer,
     x.fundingIntervalMs, x.maxFundingRateBps, x.poolId, x.szDecimals, x.ticker, x.maxOpenInterest,
     ()),
   fun _ => rfl, fun _ => rfl⟩

def CreateMarket.default : CreateMarket where
  market := 0
  imBps := 500
  mmBps := 250
  takerFeeBps := 5
  makerFeeBps := 2
  signer := Address.default
  fundingIntervalMs := 60000
  maxFundingRateBps := 3000
  poolId := 0
  szDecimals := 0
  ticker := ""
  maxOpenInterest := 0

inductive Outcome where
  | yes | no | void
  deriving DecidableEq

def Outcome.schema : Schema Outcome := .enum
  (.unit "Yes" <| .unit "No" <| .unit "Void" .nil)
  ⟨fun | .inl () => .yes | .inr (.inl ()) => .no | .inr (.inr (.inl ())) => .void,
   fun | .yes => .inl () | .no => .inr (.inl ()) | .void => .inr (.inr (.inl ())),
   fun x => by rcases x with _ | _ | _ | x <;> first | rfl | exact x.elim,
   fun x => by cases x <;> rfl⟩

inductive PriceComparison where
  | greaterThan | lessThan | greaterThanOrEqual | lessThanOrEqual
  deriving DecidableEq

def PriceComparison.schema : Schema PriceComparison := .enum
  (.unit "GreaterThan" <| .unit "LessThan" <| .unit "GreaterThanOrEqual" <| .unit "LessThanOrEqual" .nil)
  ⟨fun
    | .inl () => .greaterThan | .inr (.inl ()) => .lessThan
    | .inr (.inr (.inl ())) => .greaterThanOrEqual
    | .inr (.inr (.inr (.inl ()))) => .lessThanOrEqual,
   fun
    | .greaterThan => .inl () | .lessThan => .inr (.inl ())
    | .greaterThanOrEqual => .inr (.inr (.inl ()))
    | .lessThanOrEqual => .inr (.inr (.inr (.inl ()))),
   fun x => by rcases x with _ | _ | _ | _ | x <;> first | rfl | exact x.elim,
   fun x => by cases x <;> rfl⟩

/-- How the outcome of an impact-market event is determined at its deadline. -/
inductive EventOracleSource where
  | underlyingPriceVsStrike (strikePrice : UInt64) (comparison : PriceComparison)
  | marketOracle (market : MarketId) (strikePrice : UInt64) (comparison : PriceComparison)
  | relayerAttested
  deriving DecidableEq

def EventOracleSource.schema : Schema EventOracleSource := .enum
  (.struct "UnderlyingPriceVsStrike"
    (.req "strike_price" .u64 <| .req "comparison" PriceComparison.schema <| .nil) <|
   .struct "MarketOracle"
    (.req "market" .u32 <| .req "strike_price" .u64 <| .req "comparison" PriceComparison.schema <|
      .nil) <|
   .unit "RelayerAttested" .nil)
  ⟨fun | .inl (strikePrice, comparison, ()) => .underlyingPriceVsStrike strikePrice comparison
       | .inr (.inl (market, strikePrice, comparison, ())) =>
         .marketOracle market strikePrice comparison
       | .inr (.inr (.inl ())) => .relayerAttested,
   fun | .underlyingPriceVsStrike strikePrice comparison => .inl (strikePrice, comparison, ())
       | .marketOracle market strikePrice comparison =>
         .inr (.inl (market, strikePrice, comparison, ()))
       | .relayerAttested => .inr (.inr (.inl ())),
   fun x => by rcases x with _ | _ | _ | x <;> first | rfl | exact x.elim,
   fun x => by cases x <;> rfl⟩

structure CreateImpactMarket where
  impactMarketId : ImpactMarketId
  underlyingMarket : MarketId
  childMarketBase : MarketId
  question : String
  deadlineMs : Milliseconds
  resolutionWindowMs : Milliseconds
  imBps : UInt32
  mmBps : UInt32
  takerFeeBps : UInt32
  makerFeeBps : UInt32
  fundingIntervalMs : Milliseconds
  maxFundingRateBps : UInt32
  signer : Address
  oracleSource : Option EventOracleSource
  description : String
  rules : String
  deriving DecidableEq

def CreateImpactMarket.schema : Schema CreateImpactMarket := .struct
  (.req "impact_market_id" .u32 <| .req "underlying_market" .u32 <| .req "child_market_base" .u32 <|
   .req "question" .string <| .req "deadline_ms" .u64 <| .req "resolution_window_ms" .u64 <|
   .req "im_bps" .u32 <| .req "mm_bps" .u32 <| .req "taker_fee_bps" .u32 <|
   .req "maker_fee_bps" .u32 <| .req "funding_interval_ms" .u64 <|
   .req "max_funding_rate_bps" .u32 <| .req "signer" Address.schema <|
   .dflt "oracle_source" (.option EventOracleSource.schema) none <|
   .dflt "description" .string "" <| .dflt "rules" .string "" <| .nil)
  ⟨fun (impactMarketId, underlyingMarket, childMarketBase, question, deadlineMs, resolutionWindowMs,
     imBps, mmBps, takerFeeBps, makerFeeBps, fundingIntervalMs, maxFundingRateBps, signer,
     oracleSource, description, rules, ()) =>
    { impactMarketId, underlyingMarket, childMarketBase, question, deadlineMs, resolutionWindowMs,
      imBps, mmBps, takerFeeBps, makerFeeBps, fundingIntervalMs, maxFundingRateBps, signer,
      oracleSource, description, rules },
   fun x => (x.impactMarketId, x.underlyingMarket, x.childMarketBase, x.question, x.deadlineMs,
     x.resolutionWindowMs, x.imBps, x.mmBps, x.takerFeeBps, x.makerFeeBps, x.fundingIntervalMs,
     x.maxFundingRateBps, x.signer, x.oracleSource, x.description, x.rules, ()),
   fun _ => rfl, fun _ => rfl⟩

structure ResolveEvent where
  impactMarketId : ImpactMarketId
  outcome : Outcome
  signer : Address
  deriving DecidableEq

def ResolveEvent.schema : Schema ResolveEvent := .struct
  (.req "impact_market_id" .u32 <| .req "outcome" Outcome.schema <| .req "signer" Address.schema <|
   .nil)
  ⟨fun (impactMarketId, outcome, signer, ()) => { impactMarketId, outcome, signer },
   fun x => (x.impactMarketId, x.outcome, x.signer, ()),
   fun _ => rfl, fun _ => rfl⟩

inductive MarkSourceMode where
  | oracleOnly | median
  deriving DecidableEq

def MarkSourceMode.schema : Schema MarkSourceMode := .enum
  (.unit "OracleOnly" <| .unit "Median" .nil)
  ⟨fun | .inl () => .oracleOnly | .inr (.inl ()) => .median,
   fun | .oracleOnly => .inl () | .median => .inr (.inl ()),
   fun x => by rcases x with _ | _ | x <;> first | rfl | exact x.elim,
   fun x => by cases x <;> rfl⟩

structure FeeTier where
  min30dVolumeMicroUsdc : UInt64
  makerFeeTenthBps : Int16
  takerFeeTenthBps : Int16
  deriving DecidableEq

def FeeTier.schema : Schema FeeTier := .struct
  (.req "min_30d_volume_micro_usdc" .u64 <| .req "maker_fee_tenth_bps" .i16 <|
   .req "taker_fee_tenth_bps" .i16 <| .nil)
  ⟨fun (min30dVolumeMicroUsdc, makerFeeTenthBps, takerFeeTenthBps, ()) =>
    { min30dVolumeMicroUsdc, makerFeeTenthBps, takerFeeTenthBps },
   fun x => (x.min30dVolumeMicroUsdc, x.makerFeeTenthBps, x.takerFeeTenthBps, ()),
   fun _ => rfl, fun _ => rfl⟩

structure UpdateMarketFees where
  market : MarketId
  signer : Address
  takerFeeBps : Option UInt32
  makerFeeBps : Option UInt32
  maxFundingRateBps : Option UInt32
  fundingIntervalMs : Option Milliseconds
  maxPositionSize : Option UInt64
  defaultTtlMs : Option Milliseconds
  netDeltaMargin : Option Bool
  tickSize : Option UInt64
  lotSize : Option UInt64
  primaryOracleSigner : Option Address
  oracleStalenessMs : Option Milliseconds
  markSourceMode : Option MarkSourceMode
  maxMarkSpreadBps : Option UInt32
  cexCompositeStalenessMs : Option Milliseconds
  partialLiquidationEnabled : Option Bool
  feeTiers : Option (List FeeTier)
  imBps : Option UInt32
  mmBps : Option UInt32
  maxOpenInterest : Option UInt64
  deriving DecidableEq

def UpdateMarketFees.schema : Schema UpdateMarketFees := .struct
  (.req "market" .u32 <| .req "signer" Address.schema <|
   .dflt "taker_fee_bps" (.option .u32) none <| .dflt "maker_fee_bps" (.option .u32) none <|
   .dflt "max_funding_rate_bps" (.option .u32) none <|
   .dflt "funding_interval_ms" (.option .u64) none <|
   .dflt "max_position_size" (.option .u64) none <| .dflt "default_ttl_ms" (.option .u64) none <|
   .dflt "net_delta_margin" (.option .bool) none <| .dflt "tick_size" (.option .u64) none <|
   .dflt "lot_size" (.option .u64) none <|
   .dflt "primary_oracle_signer" (.option Address.schema) none <|
   .dflt "oracle_staleness_ms" (.option .u64) none <|
   .dflt "mark_source_mode" (.option MarkSourceMode.schema) none <|
   .dflt "max_mark_spread_bps" (.option .u32) none <|
   .dflt "cex_composite_staleness_ms" (.option .u64) none <|
   .dflt "partial_liquidation_enabled" (.option .bool) none <|
   .dflt "fee_tiers" (.option (.vec FeeTier.schema)) none <| .dflt "im_bps" (.option .u32) none <|
   .dflt "mm_bps" (.option .u32) none <| .dflt "max_open_interest" (.option .u64) none <| .nil)
  ⟨fun (market, signer, takerFeeBps, makerFeeBps, maxFundingRateBps, fundingIntervalMs,
     maxPositionSize, defaultTtlMs, netDeltaMargin, tickSize, lotSize, primaryOracleSigner,
     oracleStalenessMs, markSourceMode, maxMarkSpreadBps, cexCompositeStalenessMs,
     partialLiquidationEnabled, feeTiers, imBps, mmBps, maxOpenInterest, ()) =>
    { market, signer, takerFeeBps, makerFeeBps, maxFundingRateBps, fundingIntervalMs,
      maxPositionSize, defaultTtlMs, netDeltaMargin, tickSize, lotSize, primaryOracleSigner,
      oracleStalenessMs, markSourceMode, maxMarkSpreadBps, cexCompositeStalenessMs,
      partialLiquidationEnabled, feeTiers, imBps, mmBps, maxOpenInterest },
   fun x => (x.market, x.signer, x.takerFeeBps, x.makerFeeBps, x.maxFundingRateBps,
     x.fundingIntervalMs, x.maxPositionSize, x.defaultTtlMs, x.netDeltaMargin, x.tickSize,
     x.lotSize, x.primaryOracleSigner, x.oracleStalenessMs, x.markSourceMode, x.maxMarkSpreadBps,
     x.cexCompositeStalenessMs, x.partialLiquidationEnabled, x.feeTiers, x.imBps, x.mmBps,
     x.maxOpenInterest, ()),
   fun _ => rfl, fun _ => rfl⟩

end TradingSdk
