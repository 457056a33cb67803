import TradingSdk.Core.Proposals

namespace TradingSdk

open Serde Msgpack

inductive ImpactMarketStatus where
  | trading
  | preResolution
  | resolved (outcome : Outcome)
  deriving DecidableEq

/-- The record of an impact market: an event with two children each of conditional perps and binaries. -/
structure ImpactMarketInfo where
  impactMarketId : ImpactMarketId
  underlyingMarket : MarketId
  cpyMarket : MarketId
  cpnMarket : MarketId
  ebyMarket : MarketId
  ebnMarket : MarketId
  question : String
  deadlineMs : Milliseconds
  resolutionWindowMs : Milliseconds
  status : ImpactMarketStatus
  createdMs : Milliseconds
  resolvedMs : Milliseconds
  oracleSource : Option EventOracleSource
  deriving DecidableEq

def Outcome.name : Outcome → String
  | .yes => "Yes"
  | .no => "No"
  | .void => "Void"

def ImpactMarketStatus.toMsg : ImpactMarketStatus → Msg
  | .trading => .str (utf8 "Trading")
  | .preResolution => .str (utf8 "PreResolution")
  | .resolved outcome => variantMsg "Resolved" (Outcome.schema.toMsg outcome)

def ImpactMarketInfo.toMsg (x : ImpactMarketInfo) : Msg := .arr
  [.int x.impactMarketId.toNat, .int x.underlyingMarket.toNat, .int x.cpyMarket.toNat,
   .int x.cpnMarket.toNat, .int x.ebyMarket.toNat, .int x.ebnMarket.toNat, .str (utf8 x.question),
   .int x.deadlineMs.toNat, .int x.resolutionWindowMs.toNat, x.status.toMsg,
   .int x.createdMs.toNat, .int x.resolvedMs.toNat,
   (Schema.option EventOracleSource.schema).toMsg x.oracleSource]

end TradingSdk
