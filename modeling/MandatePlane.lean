import MandatePlane.KeyedTable
import MandatePlane.ForeignKeys
import MandatePlane.LabelledRun
import MandatePlane.Worklist
import MandatePlane.FirstDecides
import MandatePlane.Lockstep
import MandatePlane.JsonValue
import MandatePlane.DomainModel
import MandatePlane.HostEnvironment
import MandatePlane.StateMachine
import MandatePlane.PolicyEngine
import MandatePlane.RazorpayClient
import MandatePlane.CallerAuth
import MandatePlane.OperationRoutes
import MandatePlane.WebhookRoutes
import MandatePlane.HandlerCongruence
import MandatePlane.MandateRoutes
import MandatePlane.ReconciliationWorker
import MandatePlane.HoldLedger
import MandatePlane.LedgerView
import MandatePlane.HandlerPostings
import MandatePlane.MandateSteps
import MandatePlane.ControlPlane
import MandatePlane.LedgerConsistency
import MandatePlane.DelegationHierarchy
import MandatePlane.DispatchMediation
import MandatePlane.AuthorityBinding
import MandatePlane.PaymentEvidence
import MandatePlane.BudgetTree
import MandatePlane.BudgetContainment
import MandatePlane.StatusRefinement
import MandatePlane.RevocationPermanence
import MandatePlane.AgentChat
import MandatePlane.DelegationBounds
import MandatePlane.WebhookReplay
import MandatePlane.TransactionLinks
import MandatePlane.SettlementPosition
import MandatePlane.SettlementOrder
import MandatePlane.ReadCommitted
import MandatePlane.OperationSessions
import MandatePlane.CrashConsistency
import MandatePlane.IdempotentRequests
import MandatePlane.ApprovalRace
import MandatePlane.MandateSessions
import MandatePlane.DelegationRace
import MandatePlane.SiblingAllocation
import MandatePlane.SettleOnce
import MandatePlane.RefundCredit
import MandatePlane.Ascent
import MandatePlane.PolicyDryRun
import MandatePlane.GatewayFailures
import MandatePlane.HumanSignoff
import MandatePlane.McpCatalog
import MandatePlane.McpGateway
import MandatePlane.ToolAgreement
import MandatePlane.EntryPoints
import MandatePlane.CredentialSoundness
import MandatePlane.AuthenticatedEntry
import MandatePlane.ActiveMandates
import MandatePlane.PrunedLog
import MandatePlane.RateLimiter
import MandatePlane.DryRunInterference
import MandatePlane.JournalReplay
import MandatePlane.AuditTrail
import MandatePlane.DeliverySessions
import MandatePlane.DeliveryTurns
import MandatePlane.OrderCreation
import MandatePlane.CaptureDelivery
import MandatePlane.SettlementTotals
import MandatePlane.SweepVerdicts
import MandatePlane.SweepCorrectness
import MandatePlane.FailedDispatch
import MandatePlane.CascadeCorrectness
import MandatePlane.PolicySpecification
import MandatePlane.SweepCompleteness
import MandatePlane.RevocationCommutation
import MandatePlane.ReservationLinearization
import MandatePlane.SweepTiming
import MandatePlane.SweepSessions
import MandatePlane.SweepTurns
import MandatePlane.ConcurrentSweeps
import MandatePlane.SettlementRace
import MandatePlane.IdempotentReplies
import MandatePlane.JoinedRows
import MandatePlane.GatewayReconciliation
import MandatePlane.TransactionLookup
import MandatePlane.ToolAuthority
import MandatePlane.AgentRunner
import MandatePlane.McpTotality
import MandatePlane.ToolReplies
import MandatePlane.ToolSchemas
import MandatePlane.RaisingSession
import MandatePlane.WebhookStatements
import MandatePlane.DeadLetters
import MandatePlane.DelegationForest
import MandatePlane.SlidingWindow
import MandatePlane.LimiterCalls
import MandatePlane.LocalLimiter
import MandatePlane.LimiterAgreement
import MandatePlane.LimiterRace
import MandatePlane.GatewayRetries
import MandatePlane.NearestDouble
import MandatePlane.TextPatterns
import MandatePlane.SemanticIntent
import MandatePlane.RefundIntents
import MandatePlane.EvaluationHarness
import MandatePlane.HostileCalls
import MandatePlane.SingleDispatch
import MandatePlane.AuditHistory
import MandatePlane.AgentRoutes
import MandatePlane.DemoRoutes
import MandatePlane.EvaluationRoutes
import MandatePlane.Deployment
import MandatePlane.DeploymentInvariants
import MandatePlane.ShowcaseBooks
import MandatePlane.ShowcaseActs
import MandatePlane.RecordRetention
import MandatePlane.RestingOperations
import MandatePlane.SideTables
import MandatePlane.ReferentialIntegrity
import MandatePlane.AgentOwners
import MandatePlane.DelegationTree
import MandatePlane.Telemetry
import MandatePlane.SweepHealing
import MandatePlane.AdversarialProfiles
