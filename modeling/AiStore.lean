import AiStore.Library.Dict
import AiStore.Library.Transaction
import AiStore.Library.ReadModifyWrite
import AiStore.Library.Runs
import AiStore.Library.Lease
import AiStore.Library.Timestamp
import AiStore.Library.Table
import AiStore.Library.Json
import AiStore.Library.JsonSize
import AiStore.Library.JsonOrder
import AiStore.Library.Lines
import AiStore.Library.Regex
import AiStore.Library.Focus
import AiStore.Library.Grouping
import AiStore.Library.TextOrder
import AiStore.Domain.Values
import AiStore.Domain.Records
import AiStore.Domain.EdgeRecords
import AiStore.Domain.Store
import AiStore.Outbox.Event
import AiStore.Outbox.InMemory
import AiStore.Outbox.Sqlite
import AiStore.Outbox.SqliteSteps
import AiStore.Outbox.DeliveryOrder
import AiStore.Outbox.Readiness
import AiStore.Outbox.LeaseSafety
import AiStore.Outbox.Agreement
import AiStore.Outbox.ToolWorker
import AiStore.Service.Core
import AiStore.Service.Members
import AiStore.Service.Approvals
import AiStore.Service.ApprovalRuns
import AiStore.Execution.Attempts
import AiStore.Execution.Transitions
import AiStore.Execution.Fencing
import AiStore.Execution.Outcome
import AiStore.Execution.SyntheticProvider
import AiStore.Execution.Drivers
import AiStore.Execution.Reconciliation
import AiStore.Library.Calendar
import AiStore.Gateway.Canonical
import AiStore.Gateway.Budget
import AiStore.Gateway.BudgetRuns
import AiStore.Gateway.BudgetCap
import AiStore.Purchasing.Orders
import AiStore.Purchasing.Frames
import AiStore.Purchasing.Decisions
import AiStore.Purchasing.Deciding
import AiStore.Controls.Stops
import AiStore.Storage.Transactions
import AiStore.Purchasing.Cancellation
import AiStore.Purchasing.CancelledOrders
import AiStore.Approval.Lifecycle
import AiStore.Approval.Calls
import AiStore.Approval.Lockstep
import AiStore.Approval.Supersession
import AiStore.Approval.Preview
import AiStore.Approval.Backing
import AiStore.Approval.Idempotency
import AiStore.Gateway.Tools
import AiStore.Gateway.ToolRuns
import AiStore.Gateway.ToolSafety
import AiStore.Gateway.ToolReplay
import AiStore.Ingestion.Polling
import AiStore.Ingestion.PollRuns
import AiStore.Ingestion.Checkpoints
import AiStore.Ingestion.Receipts
import AiStore.Ingestion.PoisonPages
import AiStore.Service.BrowserAuth
import AiStore.Service.MemberRuns
import AiStore.Service.NonceRuns
import AiStore.Audit.Chain
import AiStore.Library.Preorder
import AiStore.Purchasing.Intake
import AiStore.Purchasing.IntakeLimits
import AiStore.Purchasing.CanonicalOrders
import AiStore.Purchasing.Routing
import AiStore.Purchasing.Partition
import AiStore.Purchasing.RoutedOrders
import AiStore.Purchasing.Held
import AiStore.Purchasing.Backing
import AiStore.Purchasing.Submissions
import AiStore.Purchasing.RoutingRace
import AiStore.Purchasing.OverCommitment
import AiStore.Tenancy.Confined
import AiStore.Tenancy.Operations
import AiStore.Tenancy.Runs
import AiStore.Jobs.Queue
import AiStore.Jobs.Deeds
import AiStore.Jobs.Leases
import AiStore.Jobs.Attempts
import AiStore.Jobs.Producers
import AiStore.Jobs.Stages
import AiStore.ControlPlane.Ledger
import AiStore.ControlPlane.LoopGuard
import AiStore.ControlPlane.Scheduler
import AiStore.ControlPlane.Triage
import AiStore.ControlPlane.Moves
import AiStore.ControlPlane.Operations
import AiStore.ControlPlane.Operator
import AiStore.ControlPlane.Capacity
import AiStore.ControlPlane.Fencing
import AiStore.ControlPlane.SharedLedger
import AiStore.ControlPlane.LoopBound
import AiStore.ControlPlane.Escalated
import AiStore.ControlPlane.Artifacts
import AiStore.ControlPlane.Landed
import AiStore.Pipeline.Names
import AiStore.Pipeline.Acceptance
import AiStore.Pipeline.Isolation
import AiStore.Pipeline.Scope
import AiStore.Pipeline.Machine
import AiStore.Pipeline.Budget
import AiStore.Pipeline.Restart
import AiStore.Offline.Contracts
import AiStore.Offline.Journal
import AiStore.Library.Decimal
import AiStore.Library.DecimalValue
import AiStore.Offline.Price
import AiStore.Offline.Reading
import AiStore.Pipeline.FilePatch
import AiStore.Offline.Reviews
import AiStore.Offline.Builders
import AiStore.Offline.Finance
import AiStore.Offline.Listing
import AiStore.Offline.ReviewSafety
import AiStore.Offline.PriceGate
import AiStore.Offline.SplitShipments
import AiStore.Offline.TrackingBatch
import AiStore.Offline.LedgerCoverage
import AiStore.Offline.SupplierFile
import AiStore.Catalog.Gates
import AiStore.Aftersales.Records
import AiStore.Aftersales.Claims
import AiStore.Aftersales.ClaimRuns
import AiStore.Aftersales.Tracking
import AiStore.Aftersales.Settlement
import AiStore.Aftersales.Reconciliation
import AiStore.Aftersales.SettlementReplay
import AiStore.Offline.FixtureOrders
import AiStore.Offline.FixtureReplay
import AiStore.Outbox.SafeError
import AiStore.Controls.Notifications
import AiStore.Controls.NotificationRuns
import AiStore.Pipeline.RewriteGuard
import AiStore.Jobs.CorruptRows
import AiStore.Purchasing.OrderReplay
import AiStore.Offline.BoundedDays
import AiStore.Offline.ShadowVerdict
import AiStore.Catalog.LineageRuns
import AiStore.Catalog.OfferRuns
import AiStore.Catalog.Recording
import AiStore.Catalog.RecordedRuns
import AiStore.Catalog.Offers
import AiStore.Offline.ReadPlans
import AiStore.Offline.ReturnBatch
import AiStore.Offline.ListingReadback
import AiStore.Gateway.ReviewedRuns
import AiStore.ControlPlane.Milestones
import AiStore.ControlPlane.HandoffRuns
import AiStore.Approval.Inbox
