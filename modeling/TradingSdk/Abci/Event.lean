import TradingSdk.Core.Markets
import TradingSdk.Core.Orders

namespace TradingSdk

open Serde

abbrev FillId := UInt64

inductive CancelReason where
  | userRequested | expired | adminForce | liquidation
  deriving DecidableEq

inductive FailDepositReason where
  | malformedTx | unsupportedToken | belowMinimum | other
  deriving DecidableEq

/-- `core::fmt::Display`. -/
class Display (α : Type) where
  display : α → String

open Display (display)

instance : Display String := ⟨id⟩
instance : Display Bool := ⟨fun b => if b then "true" else "false"⟩
instance : Display UInt8 := ⟨fun n => n.toNat.repr⟩
instance : Display UInt32 := ⟨fun n => n.toNat.repr⟩
instance : Display UInt64 := ⟨fun n => n.toNat.repr⟩
instance : Display Int64 := ⟨fun n => if n.toInt < 0 then "-" ++ n.toInt.natAbs.repr else n.toInt.natAbs.repr⟩

instance : Display Side where
  display
    | .buy => "buy"
    | .sell => "sell"

instance : Display Outcome where
  display
    | .yes => "yes"
    | .no => "no"
    | .void => "void"

instance : Display CancelReason where
  display
    | .userRequested => "user_requested"
    | .expired => "expired"
    | .adminForce => "admin_force"
    | .liquidation => "liquidation"

instance : Display FailDepositReason where
  display
    | .malformedTx => "malformed_tx"
    | .unsupportedToken => "unsupported_token"
    | .belowMinimum => "below_minimum"
    | .other => "other"

/-- A field as the derive macro sorts it by the text of its type. An alias such as `OrderId` is
none of the integers that it names. -/
inductive AbciField where
  | byteArray (bytes : Bytes)
  | vecU8 (bytes : Bytes)
  | u64 (n : UInt64)
  | u32 (n : UInt32)
  | i64 (n : Int64)
  | other (text : String)

/-- Engine output events. -/
inductive Event where
  | orderPlaced (orderId : OrderId) (market : MarketId) (owner : FixedBytes 20) (side : Side)
    (price quantity clientOrderId : UInt64)
  | orderCancelled (orderId : OrderId) (market : MarketId) (owner : FixedBytes 20)
    (reason : CancelReason)
    (clientOrderId originalQuantity remainingQuantity filledQuantity : UInt64)
  | orderAmended (orderId : OrderId) (market : MarketId) (owner : FixedBytes 20) (side : Side)
    (oldPrice newPrice oldQuantity newQuantity remainingQuantity filledQuantity : UInt64)
    (queuePriorityReset : Bool) (clientOrderId : UInt64)
  | priceUpdated (market : MarketId) (price : UInt64)
  | tradeExecuted (fillId : FillId) (market : MarketId) (price quantity : UInt64)
    (makerOrderId : OrderId) (makerClientOrderId : UInt64) (makerOwner : FixedBytes 20)
    (makerSide : Side) (takerOwner : FixedBytes 20) (takerClientOrderId : UInt64)
    (takerFee makerFee : Int64)
  | feesCollected (market : MarketId) (takerOwner : FixedBytes 20) (takerFee : Int64)
    (makerOwner : FixedBytes 20) (makerFee : Int64)
  | deposited (owner : FixedBytes 20) (amount newBalance : UInt64)
  | withdrawn (owner : FixedBytes 20) (amount newBalance : UInt64)
  | positionUpdated (owner : FixedBytes 20) (market : MarketId) (side : Side)
    (entryPrice size : UInt64)
  | positionClosed (owner : FixedBytes 20) (market : MarketId) (realizedPnl : Int64)
  | binaryIssuedFromMTM (owner : FixedBytes 20) (cpMarket binaryMarket : MarketId)
    (signedDelta : Int64) (finalSize finalEntry : UInt64) (cashPnlRealized : Int64)
  | marketCreated (market : MarketId) (imBps mmBps takerFeeBps makerFeeBps : UInt32)
    (fundingIntervalMs : Milliseconds) (maxFundingRateBps : UInt32)
  | marketConfigUpdated (market : MarketId)
    (imBps mmBps takerFeeBps makerFeeBps maxFundingRateBps : UInt32)
    (fundingIntervalMs : Milliseconds) (maxPositionSize : UInt64) (defaultTtlMs : Milliseconds)
    (netDeltaMargin : Bool) (tickSize lotSize : UInt64) (primaryOracleSigner : FixedBytes 20)
    (oracleStalenessMs : Milliseconds) (maxOpenInterest : UInt64)
  | accountFeeOverrideSet (account : FixedBytes 20) (takerFeeBps makerFeeBps : UInt32)
  | impactMarketCreated (impactMarketId : ImpactMarketId)
    (underlyingMarket cpyMarket cpnMarket ebyMarket ebnMarket : MarketId) (question : String)
    (deadlineMs resolutionWindowMs : Milliseconds)
  | eventResolved (impactMarketId : ImpactMarketId) (outcome : Outcome) (settlementPrice : UInt64)
    (timestampMs : Milliseconds)
  | conditionalSettled (impactMarketId : ImpactMarketId) (market : MarketId)
    (owner : FixedBytes 20) (side : Side) (size entryPrice settlementPrice : UInt64)
    (realizedPnl : Int64)
  | conditionalVoided (impactMarketId : ImpactMarketId) (market : MarketId)
    (owner : FixedBytes 20) (side : Side) (size : UInt64)
  | predictionSettled (impactMarketId : ImpactMarketId) (market : MarketId)
    (owner : FixedBytes 20) (side : Side) (size payoffPerShare : UInt64) (cashDelta : Int64)
  | accountLiquidated (owner : FixedBytes 20) (market : MarketId) (side : Side)
    (size markPrice : UInt64) (realizedPnl : Int64)
  | insuranceFundUpdated (poolId : UInt8) (balance delta : Int64)
  | hlpAbsorbed (poolId : UInt8) (amount : UInt64) (hlpBalanceAfter : Int64)
  | socializedLossApplied (poolId : UInt8) (totalAmount capTarget : UInt64)
    (capBps affectedCount : UInt32)
  | positionAutoDeleveraged (owner : FixedBytes 20) (market : MarketId) (side : Side)
    (size closePrice closePriceSpec : UInt64) (realizedPnl : Int64)
  | withdrawRequested (withdrawalId : UInt64) (owner : FixedBytes 20) (amount : UInt64)
    (solanaDestination : FixedBytes 32)
  | depositConfirmed (owner : FixedBytes 20) (amount newBalance : UInt64) (solanaTxSig : Bytes)
  | depositFailed (solanaSignature : Bytes) (reason : FailDepositReason)
  | withdrawalConfirmed (withdrawalId : UInt64) (solanaTxSig : Bytes)
  | withdrawalFailed (withdrawalId : UInt64) (owner : FixedBytes 20) (amount newBalance : UInt64)
    (reason : String)
  | agentApproved (owner agent : FixedBytes 20) (agentPubkey : FixedBytes 32)
  | agentRevoked (owner agent : FixedBytes 20) (agentPubkey : FixedBytes 32)
  | fundingApplied (market : MarketId) (fundingRateBps cumulativeFunding : Int64)
    (timestampMs : Milliseconds)
  | fundingSettled (owner : FixedBytes 20) (market : MarketId) (payment : Int64)
  | fundingShortfall (owner : FixedBytes 20) (market : MarketId) (owed actual : Int64)
    (shortfall : UInt64)
  | marginWarning (owner : FixedBytes 20) (equity : Int64) (maintenanceMargin : UInt64)
  | marketOrderProcessed (market : MarketId) (owner : FixedBytes 20) (side : Side)
    (requestedQuantity filledQuantity clientOrderId : UInt64)
  | orderbookLevelUpdated (market : MarketId) (side : Side) (price totalQuantity : UInt64)
    (orderCount : UInt32)
  | userMarketLeverageSet (owner : FixedBytes 20) (market : MarketId) (userImBps : UInt32)

/-- The name of the variant, from which the event type is derived. -/
def Event.variant : Event → String
  | .orderPlaced .. => "OrderPlaced"
  | .orderCancelled .. => "OrderCancelled"
  | .orderAmended .. => "OrderAmended"
  | .priceUpdated .. => "PriceUpdated"
  | .tradeExecuted .. => "TradeExecuted"
  | .feesCollected .. => "FeesCollected"
  | .deposited .. => "Deposited"
  | .withdrawn .. => "Withdrawn"
  | .positionUpdated .. => "PositionUpdated"
  | .positionClosed .. => "PositionClosed"
  | .binaryIssuedFromMTM .. => "BinaryIssuedFromMTM"
  | .marketCreated .. => "MarketCreated"
  | .marketConfigUpdated .. => "MarketConfigUpdated"
  | .accountFeeOverrideSet .. => "AccountFeeOverrideSet"
  | .impactMarketCreated .. => "ImpactMarketCreated"
  | .eventResolved .. => "EventResolved"
  | .conditionalSettled .. => "ConditionalSettled"
  | .conditionalVoided .. => "ConditionalVoided"
  | .predictionSettled .. => "PredictionSettled"
  | .accountLiquidated .. => "AccountLiquidated"
  | .insuranceFundUpdated .. => "InsuranceFundUpdated"
  | .hlpAbsorbed .. => "HlpAbsorbed"
  | .socializedLossApplied .. => "SocializedLossApplied"
  | .positionAutoDeleveraged .. => "PositionAutoDeleveraged"
  | .withdrawRequested .. => "WithdrawRequested"
  | .depositConfirmed .. => "DepositConfirmed"
  | .depositFailed .. => "DepositFailed"
  | .withdrawalConfirmed .. => "WithdrawalConfirmed"
  | .withdrawalFailed .. => "WithdrawalFailed"
  | .agentApproved .. => "AgentApproved"
  | .agentRevoked .. => "AgentRevoked"
  | .fundingApplied .. => "FundingApplied"
  | .fundingSettled .. => "FundingSettled"
  | .fundingShortfall .. => "FundingShortfall"
  | .marginWarning .. => "MarginWarning"
  | .marketOrderProcessed .. => "MarketOrderProcessed"
  | .orderbookLevelUpdated .. => "OrderbookLevelUpdated"
  | .userMarketLeverageSet .. => "UserMarketLeverageSet"

/-- The named fields in order. -/
def Event.fields : Event → List (String × AbciField)
  | .orderPlaced orderId market owner side price quantity clientOrderId =>
    [("order_id", .other (display orderId)), ("market", .other (display market)),
     ("owner", .byteArray owner.1), ("side", .other (display side)), ("price", .u64 price),
     ("quantity", .u64 quantity), ("client_order_id", .u64 clientOrderId)]
  | .orderCancelled orderId market owner reason clientOrderId originalQuantity remainingQuantity
      filledQuantity =>
    [("order_id", .other (display orderId)), ("market", .other (display market)),
     ("owner", .byteArray owner.1), ("reason", .other (display reason)),
     ("client_order_id", .u64 clientOrderId), ("original_quantity", .u64 originalQuantity),
     ("remaining_quantity", .u64 remainingQuantity), ("filled_quantity", .u64 filledQuantity)]
  | .orderAmended orderId market owner side oldPrice newPrice oldQuantity newQuantity
      remainingQuantity filledQuantity queuePriorityReset clientOrderId =>
    [("order_id", .other (display orderId)), ("market", .other (display market)),
     ("owner", .byteArray owner.1), ("side", .other (display side)), ("old_price", .u64 oldPrice),
     ("new_price", .u64 newPrice), ("old_quantity", .u64 oldQuantity),
     ("new_quantity", .u64 newQuantity), ("remaining_quantity", .u64 remainingQuantity),
     ("filled_quantity", .u64 filledQuantity),
     ("queue_priority_reset", .other (display queuePriorityReset)),
     ("client_order_id", .u64 clientOrderId)]
  | .priceUpdated market price =>
    [("market", .other (display market)), ("price", .u64 price)]
  | .tradeExecuted fillId market price quantity makerOrderId makerClientOrderId makerOwner
      makerSide takerOwner takerClientOrderId takerFee makerFee =>
    [("fill_id", .other (display fillId)), ("market", .other (display market)),
     ("price", .u64 price), ("quantity", .u64 quantity),
     ("maker_order_id", .other (display makerOrderId)),
     ("maker_client_order_id", .u64 makerClientOrderId), ("maker_owner", .byteArray makerOwner.1),
     ("maker_side", .other (display makerSide)), ("taker_owner", .byteArray takerOwner.1),
     ("taker_client_order_id", .u64 takerClientOrderId), ("taker_fee", .i64 takerFee),
     ("maker_fee", .i64 makerFee)]
  | .feesCollected market takerOwner takerFee makerOwner makerFee =>
    [("market", .other (display market)), ("taker_owner", .byteArray takerOwner.1),
     ("taker_fee", .i64 takerFee), ("maker_owner", .byteArray makerOwner.1),
     ("maker_fee", .i64 makerFee)]
  | .deposited owner amount newBalance =>
    [("owner", .byteArray owner.1), ("amount", .u64 amount), ("new_balance", .u64 newBalance)]
  | .withdrawn owner amount newBalance =>
    [("owner", .byteArray owner.1), ("amount", .u64 amount), ("new_balance", .u64 newBalance)]
  | .positionUpdated owner market side entryPrice size =>
    [("owner", .byteArray owner.1), ("market", .other (display market)),
     ("side", .other (display side)), ("entry_price", .u64 entryPrice), ("size", .u64 size)]
  | .positionClosed owner market realizedPnl =>
    [("owner", .byteArray owner.1), ("market", .other (display market)),
     ("realized_pnl", .i64 realizedPnl)]
  | .binaryIssuedFromMTM owner cpMarket binaryMarket signedDelta finalSize finalEntry
      cashPnlRealized =>
    [("owner", .byteArray owner.1), ("cp_market", .other (display cpMarket)),
     ("binary_market", .other (display binaryMarket)), ("signed_delta", .i64 signedDelta),
     ("final_size", .u64 finalSize), ("final_entry", .u64 finalEntry),
     ("cash_pnl_realized", .i64 cashPnlRealized)]
  | .marketCreated market imBps mmBps takerFeeBps makerFeeBps fundingIntervalMs
      maxFundingRateBps =>
    [("market", .other (display market)), ("im_bps", .u32 imBps), ("mm_bps", .u32 mmBps),
     ("taker_fee_bps", .u32 takerFeeBps), ("maker_fee_bps", .u32 makerFeeBps),
     ("funding_interval_ms", .other (display fundingIntervalMs)),
     ("max_funding_rate_bps", .u32 maxFundingRateBps)]
  | .marketConfigUpdated market imBps mmBps takerFeeBps makerFeeBps maxFundingRateBps
      fundingIntervalMs maxPositionSize defaultTtlMs netDeltaMargin tickSize lotSize
      primaryOracleSigner oracleStalenessMs maxOpenInterest =>
    [("market", .other (display market)), ("im_bps", .u32 imBps), ("mm_bps", .u32 mmBps),
     ("taker_fee_bps", .u32 takerFeeBps), ("maker_fee_bps", .u32 makerFeeBps),
     ("max_funding_rate_bps", .u32 maxFundingRateBps),
     ("funding_interval_ms", .other (display fundingIntervalMs)),
     ("max_position_size", .u64 maxPositionSize),
     ("default_ttl_ms", .other (display defaultTtlMs)),
     ("net_delta_margin", .other (display netDeltaMargin)), ("tick_size", .u64 tickSize),
     ("lot_size", .u64 lotSize), ("primary_oracle_signer", .byteArray primaryOracleSigner.1),
     ("oracle_staleness_ms", .other (display oracleStalenessMs)),
     ("max_open_interest", .u64 maxOpenInterest)]
  | .accountFeeOverrideSet account takerFeeBps makerFeeBps =>
    [("account", .byteArray account.1), ("taker_fee_bps", .u32 takerFeeBps),
     ("maker_fee_bps", .u32 makerFeeBps)]
  | .impactMarketCreated impactMarketId underlyingMarket cpyMarket cpnMarket ebyMarket ebnMarket
      question deadlineMs resolutionWindowMs =>
    [("impact_market_id", .other (display impactMarketId)),
     ("underlying_market", .other (display underlyingMarket)),
     ("cpy_market", .other (display cpyMarket)), ("cpn_market", .other (display cpnMarket)),
     ("eby_market", .other (display ebyMarket)), ("ebn_market", .other (display ebnMarket)),
     ("question", .other (display question)), ("deadline_ms", .other (display deadlineMs)),
     ("resolution_window_ms", .other (display resolutionWindowMs))]
  | .eventResolved impactMarketId outcome settlementPrice timestampMs =>
    [("impact_market_id", .other (display impactMarketId)), ("outcome", .other (display outcome)),
     ("settlement_price", .u64 settlementPrice), ("timestamp_ms", .other (display timestampMs))]
  | .conditionalSettled impactMarketId market owner side size entryPrice settlementPrice
      realizedPnl =>
    [("impact_market_id", .other (display impactMarketId)), ("market", .other (display market)),
     ("owner", .byteArray owner.1), ("side", .other (display side)), ("size", .u64 size),
     ("entry_price", .u64 entryPrice), ("settlement_price", .u64 settlementPrice),
     ("realized_pnl", .i64 realizedPnl)]
  | .conditionalVoided impactMarketId market owner side size =>
    [("impact_market_id", .other (display impactMarketId)), ("market", .other (display market)),
     ("owner", .byteArray owner.1), ("side", .other (display side)), ("size", .u64 size)]
  | .predictionSettled impactMarketId market owner side size payoffPerShare cashDelta =>
    [("impact_market_id", .other (display impactMarketId)), ("market", .other (display market)),
     ("owner", .byteArray owner.1), ("side", .other (display side)), ("size", .u64 size),
     ("payoff_per_share", .u64 payoffPerShare), ("cash_delta", .i64 cashDelta)]
  | .accountLiquidated owner market side size markPrice realizedPnl =>
    [("owner", .byteArray owner.1), ("market", .other (display market)),
     ("side", .other (display side)), ("size", .u64 size), ("mark_price", .u64 markPrice),
     ("realized_pnl", .i64 realizedPnl)]
  | .insuranceFundUpdated poolId balance delta =>
    [("pool_id", .other (display poolId)), ("balance", .i64 balance), ("delta", .i64 delta)]
  | .hlpAbsorbed poolId amount hlpBalanceAfter =>
    [("pool_id", .other (display poolId)), ("amount", .u64 amount),
     ("hlp_balance_after", .i64 hlpBalanceAfter)]
  | .socializedLossApplied poolId totalAmount capTarget capBps affectedCount =>
    [("pool_id", .other (display poolId)), ("total_amount", .u64 totalAmount),
     ("cap_target", .u64 capTarget), ("cap_bps", .u32 capBps),
     ("affected_count", .u32 affectedCount)]
  | .positionAutoDeleveraged owner market side size closePrice closePriceSpec realizedPnl =>
    [("owner", .byteArray owner.1), ("market", .other (display market)),
     ("side", .other (display side)), ("size", .u64 size), ("close_price", .u64 closePrice),
     ("close_price_spec", .u64 closePriceSpec), ("realized_pnl", .i64 realizedPnl)]
  | .withdrawRequested withdrawalId owner amount solanaDestination =>
    [("withdrawal_id", .u64 withdrawalId), ("owner", .byteArray owner.1), ("amount", .u64 amount),
     ("solana_destination", .byteArray solanaDestination.1)]
  | .depositConfirmed owner amount newBalance solanaTxSig =>
    [("owner", .byteArray owner.1), ("amount", .u64 amount), ("new_balance", .u64 newBalance),
     ("solana_tx_sig", .vecU8 solanaTxSig)]
  | .depositFailed solanaSignature reason =>
    [("solana_signature", .vecU8 solanaSignature), ("reason", .other (display reason))]
  | .withdrawalConfirmed withdrawalId solanaTxSig =>
    [("withdrawal_id", .u64 withdrawalId), ("solana_tx_sig", .vecU8 solanaTxSig)]
  | .withdrawalFailed withdrawalId owner amount newBalance reason =>
    [("withdrawal_id", .u64 withdrawalId), ("owner", .byteArray owner.1), ("amount", .u64 amount),
     ("new_balance", .u64 newBalance), ("reason", .other (display reason))]
  | .agentApproved owner agent agentPubkey =>
    [("owner", .byteArray owner.1), ("agent", .byteArray agent.1),
     ("agent_pubkey", .byteArray agentPubkey.1)]
  | .agentRevoked owner agent agentPubkey =>
    [("owner", .byteArray owner.1), ("agent", .byteArray agent.1),
     ("agent_pubkey", .byteArray agentPubkey.1)]
  | .fundingApplied market fundingRateBps cumulativeFunding timestampMs =>
    [("market", .other (display market)), ("funding_rate_bps", .i64 fundingRateBps),
     ("cumulative_funding", .i64 cumulativeFunding),
     ("timestamp_ms", .other (display timestampMs))]
  | .fundingSettled owner market payment =>
    [("owner", .byteArray owner.1), ("market", .other (display market)),
     ("payment", .i64 payment)]
  | .fundingShortfall owner market owed actual shortfall =>
    [("owner", .byteArray owner.1), ("market", .other (display market)), ("owed", .i64 owed),
     ("actual", .i64 actual), ("shortfall", .u64 shortfall)]
  | .marginWarning owner equity maintenanceMargin =>
    [("owner", .byteArray owner.1), ("equity", .i64 equity),
     ("maintenance_margin", .u64 maintenanceMargin)]
  | .marketOrderProcessed market owner side requestedQuantity filledQuantity clientOrderId =>
    [("market", .other (display market)), ("owner", .byteArray owner.1),
     ("side", .other (display side)), ("requested_quantity", .u64 requestedQuantity),
     ("filled_quantity", .u64 filledQuantity), ("client_order_id", .u64 clientOrderId)]
  | .orderbookLevelUpdated market side price totalQuantity orderCount =>
    [("market", .other (display market)), ("side", .other (display side)), ("price", .u64 price),
     ("total_quantity", .u64 totalQuantity), ("order_count", .u32 orderCount)]
  | .userMarketLeverageSet owner market userImBps =>
    [("owner", .byteArray owner.1), ("market", .other (display market)),
     ("user_im_bps", .u32 userImBps)]

end TradingSdk
