import SolFrontier.Foundation.History
import SolFrontier.Foundation.Pool
import SolFrontier.StateStore.W5hFunding
import SolFrontier.StateStore.W5hLifecycle
import SolFrontier.Foundation.Bytes
import SolFrontier.Foundation.Codec
import SolFrontier.Foundation.Sha256
import SolFrontier.Types.Pubkey
import SolFrontier.Types.WatchRule
import SolFrontier.Executor.Candidate
import SolFrontier.Executor.Preflight
import SolFrontier.SolanaCore.Tracker
import SolFrontier.SolanaCore.StateChanges
import SolFrontier.SolanaCore.Compute
import SolFrontier.WalletEngine.Pipeline
import SolFrontier.WalletEngine.SimulatedBytes
import SolFrontier.StateStore.WatchRules
import SolFrontier.Mcp.Effects
import SolFrontier.Mcp.WatchExecute
import SolFrontier.Mcp.SingleBroadcast
import SolFrontier.Foundation.Json
import SolFrontier.Mcp.Propose
import SolFrontier.Mcp.Finalize
import SolFrontier.Mcp.FinalizeRuns
import SolFrontier.Mcp.FinalizeProgress
import SolFrontier.Mcp.DraftBinding
import SolFrontier.Mcp.ActionableRule
import SolFrontier.Mcp.Funding
import SolFrontier.Mcp.Verification
import SolFrontier.Mcp.ToolCalls
import SolFrontier.Mcp.StoreFacts
import SolFrontier.Mcp.PaymentEvidence
import SolFrontier.Mcp.ConfirmProgress
import SolFrontier.Mcp.FreshPair
import SolFrontier.Mcp.ConfirmRaces
import SolFrontier.Mcp.OnePaymentOneIntent
import SolFrontier.Mcp.FinalizeAgreement
import SolFrontier.Mcp.FailClosed
import SolFrontier.Mcp.FinalizedPair
import SolFrontier.StateStore.RuleRetirement
import SolFrontier.SolanaCore.LifecycleRuns
import SolFrontier.SolanaCore.Rebroadcasts
import SolFrontier.Foundation.Service
import SolFrontier.Mcp.Sidecar
import SolFrontier.Mcp.DraftIds
import SolFrontier.Mcp.SidecarRuns
import SolFrontier.RiskEngine.Policy
import SolFrontier.Foundation.Traces
import SolFrontier.WalletEngine.Review
import SolFrontier.WalletEngine.SignerGate
import SolFrontier.Mcp.WatchWallet
import SolFrontier.Mcp.ReviewedMessage
import SolFrontier.Types.Approval
import SolFrontier.Types.ApprovalRuns
import SolFrontier.StateStore.Tracking
import SolFrontier.Types.ApprovalQuorum
import SolFrontier.StateStore.TrackingRuns
import SolFrontier.Types.CanonicalIntent
import SolFrontier.Executor.Chain
import SolFrontier.Executor.ChainGate
import SolFrontier.Mcp.WatchBuild
import SolFrontier.Mcp.FinalizeMarket
import SolFrontier.Mcp.WatchScan
import SolFrontier.Mcp.ScanIndependence
import SolFrontier.Executor.Precedence
import SolFrontier.Mcp.ScanSelection
import SolFrontier.Mcp.Status
import SolFrontier.Mcp.StatusAnswers
import SolFrontier.Foundation.JsonLexemes
import SolFrontier.Foundation.JsonTree
import SolFrontier.Foundation.JsonText
import SolFrontier.Foundation.Serde
import SolFrontier.Foundation.UrlText
import SolFrontier.Web.FundingPayload
import SolFrontier.Mcp.FundingReads
import SolFrontier.Mcp.NodeReport
import SolFrontier.Web.FundingTransaction
import SolFrontier.Mcp.StoredHashes
import SolFrontier.Foundation.FirstMatch
import SolFrontier.Mcp.AmountText
import SolFrontier.Mcp.FinalizedEvidence
import SolFrontier.RiskEngine.PolicyLayers
import SolFrontier.RiskEngine.TokenCaps
import SolFrontier.StateStore.RuleDrift
import SolFrontier.Foundation.Interpolation
import SolFrontier.Mcp.SupplyRate
import SolFrontier.Executor.Accumulation
import SolFrontier.Foundation.Moments
import SolFrontier.Mcp.ExecutionReports
import SolFrontier.Web.PayloadHandoff
import SolFrontier.Web.SigningAgreement
import SolFrontier.Web.SigningPage
import SolFrontier.Web.SigningRuns
import SolFrontier.Web.SigningPayments
import SolFrontier.Foundation.Batches
import SolFrontier.StateStore.PendingJupiter
import SolFrontier.StateStore.JupiterLifecycle
import SolFrontier.StateStore.PendingState
import SolFrontier.StateStore.PendingLifecycle
import SolFrontier.Types.ApprovalLease
import SolFrontier.RiskEngine.AppendedInstructions
import SolFrontier.Mcp.UnrelatedInstructions
import SolFrontier.StateStore.FundingRoundTrip
import SolFrontier.StateStore.RuleBook
import SolFrontier.Types.WatchRuleJson
import SolFrontier.StateStore.RuleRoundTrip
import SolFrontier.StateStore.ActiveListing
import SolFrontier.SolanaCore.ExpiryWindow
import SolFrontier.Foundation.CircuitBreaker
import SolFrontier.SolanaCore.RpcPool
import SolFrontier.Foundation.MachineSums
import SolFrontier.StateStore.Spend
import SolFrontier.RiskEngine.Spend
import SolFrontier.Foundation.Calendar
import SolFrontier.RiskEngine.AllowedHours
import SolFrontier.Web.FragmentEncoding
import SolFrontier.Foundation.Layout
import SolFrontier.Protocols.SolendLayout
import SolFrontier.SolanaCore.Resolve
import SolFrontier.SolanaCore.BudgetRewriting
import SolFrontier.SolanaCore.VersionedMessage
import SolFrontier.SolanaCore.VersionedTransaction
import SolFrontier.Protocols.JupiterAssembly
import SolFrontier.Foundation.Words
import SolFrontier.WalletEngine.SimulatedUnits
import SolFrontier.Foundation.SerdeOpen
import SolFrontier.Types.PolicyJson
import SolFrontier.StateStore.SessionPolicy
import SolFrontier.RiskEngine.StoredRules
import SolFrontier.Foundation.Uuid
import SolFrontier.Foundation.DateTime
import SolFrontier.Types.Swap
import SolFrontier.StateStore.JupiterReads
import SolFrontier.Foundation.OrderStatistics
import SolFrontier.SolanaCore.PriorityFees
import SolFrontier.SolanaCore.Settlement
import SolFrontier.Mcp.OfferedStatus
import SolFrontier.Mcp.Position
import SolFrontier.Mcp.Proposals
import SolFrontier.Mcp.Revalidation
import SolFrontier.Mcp.ExecuteProcess
import SolFrontier.Mcp.ExecuteRuns
import SolFrontier.Mcp.PaidOrders
import SolFrontier.Mcp.ExecuteCycle
import SolFrontier.WalletEngine.Blockhashes
import SolFrontier.WalletEngine.LocalSigner
import SolFrontier.Mcp.ControlledWallet
import SolFrontier.StateStore.PendingRecovery
import SolFrontier.StateStore.WalletOwnership
