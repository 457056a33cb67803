import TradingSdk.Core.RoundTrip
import TradingSdk.Core.Crypto
import TradingSdk.Core.ContentHash
import TradingSdk.Core.Canonical
import TradingSdk.Core.DynBridge
import TradingSdk.Python.Agreement
import TradingSdk.Python.Triggers
import TradingSdk.Js.Codec
import TradingSdk.Js.ProposalReview
import TradingSdk.Js.Envelope
import TradingSdk.Json.Fuel
import TradingSdk.Client.Agreement
import TradingSdk.Client.Delivery
import TradingSdk.Client.Nonce
import TradingSdk.Client.ChainBinding
import TradingSdk.Client.Verifiers
import TradingSdk.Client.OpenStream
import TradingSdk.Client.AccountEvents
import TradingSdk.TriggerState.Agreement
import TradingSdk.TriggerState.Registry
import TradingSdk.TriggerHistory.Guarantees
import TradingSdk.Markets.Agreement
import TradingSdk.Abci.RoundTrip
import TradingSdk.Core.Evolution
import TradingSdk.Core.Signing
import TradingSdk.Core.Truncation
import TradingSdk.Core.BatchItems
import TradingSdk.Core.HintCapped
import TradingSdk.Json.Grammar
import TradingSdk.Json.Accepts
import TradingSdk.Lib.Replace
import TradingSdk.TriggerHeights.Protect
import TradingSdk.TriggerHeights.Rewrite
import TradingSdk.TriggerHeights.TypeScript
import TradingSdk.TriggerHeights.Exact
import TradingSdk.Errors.Gateway
import TradingSdk.Client.Reconcile
import TradingSdk.Client.Submitters
import TradingSdk.Python.Signers
import TradingSdk.Js.GovernanceReads
import TradingSdk.Reads.Lists
import TradingSdk.Reads.Account
import TradingSdk.Reads.ImpactMarkets
import TradingSdk.Client.WasmLoader
import TradingSdk.Client.Reconnects
import TradingSdk.Js.Peek
import TradingSdk.TriggerHistory.Requests
