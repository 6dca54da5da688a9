import AiStore.Domain.Values

/-! The rows of the service's tables, after `domain.py`.

Arguments and fields are typed: where the source tests that something is a
boolean, an integer or a string, the type says it. A key that the source puts
together from parts is kept as those parts.
-/

set_option autoImplicit false

namespace AiStore

/-! ## Members -/

inductive Role where
  | master
  | funds
  | catalogCs
  | auditor
  deriving DecidableEq, Repr

inductive Capability where
  | tenantAdmin
  | funds
  | catalog
  | cs
  | approvePurchase
  | approveRefund
  | approveProduct
  | approveCs
  | readAudit
  | recovery
  deriving DecidableEq, Repr

namespace Role

def value : Role → String
  | master => "master"
  | funds => "funds"
  | catalogCs => "catalog_cs"
  | auditor => "auditor"

/-- `ROLE_CAPABILITIES`. -/
def capabilities : Role → List Capability
  | master => [.tenantAdmin, .funds, .catalog, .cs, .approvePurchase, .approveRefund, .approveProduct, .approveCs,
      .readAudit, .recovery]
  | funds => [.funds, .approvePurchase, .approveRefund]
  | catalogCs => [.catalog, .cs, .approveProduct, .approveCs]
  | auditor => [.readAudit]

end Role

def Capability.value : Capability → String
  | tenantAdmin => "tenant_admin"
  | funds => "funds"
  | catalog => "catalog"
  | cs => "cs"
  | approvePurchase => "approve_purchase"
  | approveRefund => "approve_refund"
  | approveProduct => "approve_product"
  | approveCs => "approve_cs"
  | readAudit => "read_audit"
  | recovery => "recovery"

structure Tenant where
  id : Uuid
  legalName : String
  createdAt : Timestamp
  deriving DecidableEq

structure User where
  id : Uuid
  email : String
  createdAt : Timestamp
  deriving DecidableEq

structure Membership where
  tenantId : Uuid
  userId : Uuid
  roles : List Role
  active : Bool := true
  version : Nat := 1
  deriving DecidableEq

namespace Membership

def key (row : Membership) : Uuid × Uuid := (row.tenantId, row.userId)

/-- What the member's roles allow between them. -/
def Available (row : Membership) (capability : Capability) : Prop := ∃ role ∈ row.roles, capability ∈ role.capabilities

instance (row : Membership) (capability : Capability) : Decidable (row.Available capability) := by
  unfold Available
  exact inferInstance

end Membership

structure TenantContext where
  tenantId : Uuid
  userId : Uuid
  membershipVersion : Nat
  deriving DecidableEq, Repr

/-! ## Commands and approvals -/

inductive ApprovalKind where
  | purchase
  | product
  | supplierReplacement
  | refund
  | cs
  | pause
  deriving DecidableEq, Repr

namespace ApprovalKind

def value : ApprovalKind → String
  | purchase => "purchase"
  | product => "product"
  | supplierReplacement => "supplier_replacement"
  | refund => "refund"
  | cs => "cs"
  | pause => "pause"

/-- `APPROVAL_CAPABILITY`. -/
def capability : ApprovalKind → Capability
  | purchase => .approvePurchase
  | product => .approveProduct
  | supplierReplacement => .approveProduct
  | refund => .approveRefund
  | cs => .approveCs
  | pause => .recovery

end ApprovalKind

inductive CommandState where
  | awaitingApproval
  | approved
  | rejected
  | expired
  | superseded
  deriving DecidableEq, Repr

inductive ApprovalState where
  | pending
  | approved
  | rejected
  | expired
  | superseded
  deriving DecidableEq, Repr

def ApprovalState.value : ApprovalState → String
  | pending => "pending"
  | approved => "approved"
  | rejected => "rejected"
  | expired => "expired"
  | superseded => "superseded"

inductive TargetRef where
  | text (text : String)
  /-- `po:{order}:{supplier}` -/
  | po (order : Uuid) (supplier : String)
  deriving DecidableEq, Repr

def TargetRef.material : TargetRef → Value
  | text words => .text words
  | po order supplier => .list [.text "po", .uuid order, .text supplier]

inductive CommandKey where
  | text (text : String)
  /-- `po:{order}:{supplier}:approval` -/
  | routing (order : Uuid) (supplier : String)
  /-- `po:{order}:{supplier}:approval:v{version}` -/
  | renewal (order : Uuid) (supplier : String) (version : Nat)
  deriving DecidableEq, Repr

structure Command where
  id : Uuid
  tenantId : Uuid
  kind : ApprovalKind
  targetRef : TargetRef
  payload : Mapping
  payloadDigest : String
  idempotencyKey : CommandKey
  state : CommandState
  createdAt : Timestamp
  supersedesId : Option Uuid := none
  deriving DecidableEq

def Command.key (row : Command) : Uuid × Uuid := (row.tenantId, row.id)

structure Approval where
  id : Uuid
  tenantId : Uuid
  commandId : Uuid
  kind : ApprovalKind
  state : ApprovalState
  requestedAt : Timestamp
  expiresAt : Timestamp
  evidence : List Mapping := []
  decidedBy : Option Uuid := none
  decisionReason : Option String := none
  deriving DecidableEq

def Approval.key (row : Approval) : Uuid × Uuid := (row.tenantId, row.commandId)

structure ApprovalIntent where
  tenantId : Uuid
  commandId : Uuid
  canonicalDigest : String
  policyVersion : Int
  targetVersion : Int
  createdAt : Timestamp
  deriving DecidableEq

def ApprovalIntent.key (row : ApprovalIntent) : Uuid × Uuid := (row.tenantId, row.commandId)

structure ExecutionPreparation where
  id : Uuid
  tenantId : Uuid
  commandId : Uuid
  canonicalDigest : String
  preparedBy : Uuid
  preparedAt : Timestamp
  deriving DecidableEq

def ExecutionPreparation.key (row : ExecutionPreparation) : Uuid × Uuid := (row.tenantId, row.commandId)

/-! ## Audit and outbox -/

/-- A reference that may be a generated identifier or a text. -/
inductive Ident where
  | uuid (id : Uuid)
  | text (text : String)
  deriving DecidableEq, Repr

def Ident.material : Ident → Value
  | uuid id => .uuid id
  | text words => .text words

structure AuditEvent where
  id : Uuid
  tenantId : Uuid
  occurredAt : Timestamp
  actorRef : Ident
  action : String
  targetRef : Ident
  outcome : String
  correlationId : Uuid
  metadata : Mapping
  prevHash : Option String
  eventHash : String
  deriving DecidableEq

/-! ## Orders and purchases -/

inductive ChannelOrderState where
  | received
  | accepted
  | duplicate
  | routing
  | poPending
  | exception
  | cancelled
  deriving DecidableEq, Repr

inductive RoutingState where
  | proposed
  | accepted
  | exception
  deriving DecidableEq, Repr

inductive PurchaseOrderState where
  | draft
  | approvalPending
  | approved
  | submitted
  | acknowledged
  | cancelRequested
  | cancelled
  | exception
  deriving DecidableEq, Repr

def PurchaseOrderState.value : PurchaseOrderState → String
  | draft => "draft"
  | approvalPending => "approval_pending"
  | approved => "approved"
  | submitted => "submitted"
  | acknowledged => "acknowledged"
  | cancelRequested => "cancel_requested"
  | cancelled => "cancelled"
  | exception => "exception"

/-- `payload` is what `payload_json` decodes to. -/
structure NormalizedInboundPayload where
  tenantId : Uuid
  immutableRef : String
  canonicalDigest : String
  schemaVersion : Int
  payload : Value
  sourceDigest : Option String
  createdAt : Timestamp
  deriving DecidableEq

def NormalizedInboundPayload.key (row : NormalizedInboundPayload) : Uuid × String := (row.tenantId, row.immutableRef)

structure ChannelOrder where
  id : Uuid
  tenantId : Uuid
  channelId : String
  externalOrderKey : String
  payloadRef : String
  currency : String
  totalMinor : Int
  status : ChannelOrderState
  receivedAt : Timestamp
  idempotencyKey : String
  version : Nat := 1
  deriving DecidableEq

def ChannelOrder.key (row : ChannelOrder) : Uuid × Uuid := (row.tenantId, row.id)

structure OrderLine where
  id : Uuid
  tenantId : Uuid
  channelOrderId : Uuid
  sku : String
  quantity : Int
  unitMinor : Int
  routedStatus : String := "unrouted"
  version : Nat := 1
  sourceLineKey : Option String := none
  deriving DecidableEq

def OrderLine.key (row : OrderLine) : Uuid × Uuid := (row.tenantId, row.id)

structure RoutingDecision where
  id : Uuid
  tenantId : Uuid
  orderLineId : Uuid
  supplierId : String
  quantity : Int
  unitCostMinor : Int
  reason : String
  status : RoutingState := .proposed
  deriving DecidableEq

def RoutingDecision.key (row : RoutingDecision) : Uuid × Uuid := (row.tenantId, row.orderLineId)

/-- The key of a purchase order, `po:{order}:{supplier}`. -/
structure PurchaseKey where
  order : Uuid
  supplier : String
  deriving DecidableEq, Repr

structure SupplierPurchaseOrder where
  id : Uuid
  tenantId : Uuid
  channelOrderId : Uuid
  supplierId : String
  status : PurchaseOrderState
  idempotencyKey : PurchaseKey
  approvalCommandId : Option Uuid
  createdAt : Timestamp
  version : Nat := 1
  providerReference : Option String := none
  lastResponseDigest : Option String := none
  lastObservedAt : Option Timestamp := none
  deriving DecidableEq

def SupplierPurchaseOrder.key (row : SupplierPurchaseOrder) : Uuid × Uuid := (row.tenantId, row.id)

structure PurchaseLine where
  id : Uuid
  tenantId : Uuid
  purchaseOrderId : Uuid
  orderLineId : Uuid
  quantity : Int
  unitCostMinor : Int
  deriving DecidableEq

def PurchaseLine.key (row : PurchaseLine) : Uuid × Uuid := (row.tenantId, row.id)

/-! ## Execution -/

inductive AdapterCapability where
  | demoExecute
  | demoLookup
  | inboundEvents
  | ordersRead
  | ordersWrite
  | productsRead
  | productsWrite
  | inventoryRead
  deriving DecidableEq, Repr

structure AdapterCapabilityManifest where
  tenantId : Uuid
  provider : String
  connectionId : String
  adapterVersion : String
  capabilities : List AdapterCapability
  inboundSchemaVersions : List Int
  updatedAt : Timestamp
  deriving DecidableEq

def AdapterCapabilityManifest.key (row : AdapterCapabilityManifest) : Uuid × String × String :=
  (row.tenantId, row.provider, row.connectionId)

structure DemoStopControl where
  tenantId : Uuid
  scopeType : String
  scopeRef : String
  stopped : Bool
  reason : String
  version : Nat
  updatedAt : Timestamp
  deriving DecidableEq

def DemoStopControl.key (row : DemoStopControl) : Uuid × String × String :=
  (row.tenantId, row.scopeType, row.scopeRef)

structure DemoExecutionControl where
  tenantId : Uuid
  commandId : Uuid
  policyVersion : Int
  targetVersion : Int
  stopped : Bool
  deriving DecidableEq

def DemoExecutionControl.key (row : DemoExecutionControl) : Uuid × Uuid := (row.tenantId, row.commandId)

inductive AttemptState where
  | prepared
  | dispatching
  | unknown
  | reconciling
  | verifiedSuccess
  | verifiedFailure
  | manualReview
  deriving DecidableEq, Repr

namespace AttemptState

def value : AttemptState → String
  | prepared => "prepared"
  | dispatching => "dispatching"
  | unknown => "unknown"
  | reconciling => "reconciling"
  | verifiedSuccess => "verified_success"
  | verifiedFailure => "verified_failure"
  | manualReview => "manual_review"

def Terminal (state : AttemptState) : Prop :=
  state = .verifiedSuccess ∨ state = .verifiedFailure ∨ state = .manualReview

instance : DecidablePred Terminal := fun state => by
  unfold Terminal
  exact inferInstance

/-- Under way with the provider. -/
def InFlight (state : AttemptState) : Prop := state = .dispatching ∨ state = .reconciling

instance : DecidablePred InFlight := fun state => by
  unfold InFlight
  exact inferInstance

end AttemptState

structure ExecutionAttempt where
  id : Uuid
  tenantId : Uuid
  commandId : Uuid
  preparationId : Uuid
  operationKey : String
  intentDigest : String
  adapterVersion : String
  provider : String
  connectionId : String
  state : AttemptState := .prepared
  version : Nat := 1
  leaseOwner : Option String := none
  leaseUntil : Option Timestamp := none
  fencingToken : Nat := 0
  providerReference : Option String := none
  lastObservedAt : Option Timestamp := none
  nextCheckAt : Option Timestamp := none
  deriving DecidableEq

def ExecutionAttempt.key (row : ExecutionAttempt) : Uuid × Uuid := (row.tenantId, row.id)

structure AttemptObservation where
  id : Uuid
  tenantId : Uuid
  attemptId : Uuid
  observationKind : String
  responseDigest : String
  observedAt : Timestamp
  correlationId : Uuid
  deriving DecidableEq

/-! ## Outbox keys -/

inductive OutboxKey where
  | approvalRequested (command : Uuid)
  | approvalDecided (approval : Uuid)
  | approvalExpired (approval : Uuid)
  | executionPrepared (command : Uuid)
  /-- `{topic}:{attempt}:{version}` -/
  | attempt (topic : String) (attempt : Uuid) (version : Nat)
  | orderAccepted (order : Uuid)
  | orderCancelled (order : Uuid)
  /-- `po:{purchase}:{status}` -/
  | po (purchase : Uuid) (status : PurchaseOrderState)
  | poRegenerated (purchase : Uuid) (version : Nat)
  | poCancelRequested (purchase : Uuid)
  | poResponse (purchase : Uuid) (digest : String)
  /-- `inbox:{message}:{suffix}` -/
  | inbox (message : Uuid) (suffix : String)
  /-- `tool:{command}:accepted` -/
  | tool (command : Uuid)
  /-- `tracking:{line}:{tracking key}:{status}` -/
  | tracking (line : Uuid) (trackingKey status : String)
  /-- `claim:{claim}:opened` -/
  | claimOpened (claim : Uuid)
  /-- `claim:{claim}:{status kind}:{status}` -/
  | claimStatus (claim : Uuid) (statusKind status : String)
  /-- `settlement:{batch}:imported` -/
  | settlement (batch : Uuid)
  /-- The keys of the services outside this model. -/
  | elsewhere (text : String)
  deriving DecidableEq, Repr

end AiStore
