import Mathlib.Data.List.Sort
import AiStore.Library.Table
import AiStore.Library.Transaction
import AiStore.Domain.EdgeRecords
import AiStore.Outbox.InMemory

/-! The tables of the repository and the methods the services call on them. -/

set_option autoImplicit false

namespace AiStore

open Library (Dict Table Txn)

structure Store where
  tenants : Table Tenant.id := .empty
  users : Table User.id := .empty
  memberships : Table Membership.key := .empty
  commands : Table Command.key := .empty
  approvals : Table Approval.key := .empty
  commandIdempotency : Dict (Uuid × CommandKey) Uuid := .empty
  auditEvents : List AuditEvent := []
  outbox : InMemoryRepository.Outbox Ident OutboxKey := .empty
  approvalIntents : Table ApprovalIntent.key := .empty
  executionPreparations : Table ExecutionPreparation.key := .empty
  normalizedPayloads : Table NormalizedInboundPayload.key := .empty
  channelOrders : Table ChannelOrder.key := .empty
  orderLines : Table OrderLine.key := .empty
  routingDecisions : Table RoutingDecision.key := .empty
  purchaseOrders : Table SupplierPurchaseOrder.key := .empty
  purchaseLines : Table PurchaseLine.key := .empty
  manifests : Table AdapterCapabilityManifest.key := .empty
  stopControls : Table DemoStopControl.key := .empty
  demoControls : Table DemoExecutionControl.key := .empty
  attempts : Table ExecutionAttempt.key := .empty
  observations : List AttemptObservation := []
  inbox : Table InboxMessage.key := .empty
  pollCheckpoints : Table AdapterPollCheckpoint.key := .empty
  toolCommands : Table DemoToolCommand.key := .empty
  agentRuns : Table DemoAgentRun.key := .empty
  budgetPolicies : Table DemoBudgetPolicy.tenantId := .empty
  budgetLedger : Table DemoBudgetLedgerEntry.key := .empty
  budgetRequests : Table DemoBudgetRequest.key := .empty
  browserSessions : Table BrowserSession.tokenDigest := .empty
  approvalConfirmationNonces : Table ApprovalConfirmationNonce.tokenDigest := .empty

/-- An operation of the service: what it raises is a `Failure`. -/
abbrev Op := Txn Store Failure

namespace Repository

open Library.Txn Failure

variable (tenant : Uuid)

/-! ## Members -/

def addTenant (row : Tenant) : Op Unit := write fun store => { store with tenants := store.tenants.put row }

def findUserByEmail (email : String) : Op (Option User) := query fun store => store.users.rows.find? (·.email = email)

def addUser (row : User) : Op Unit := do
  let existing ← findUserByEmail row.email
  ensure (∀ other ∈ existing, other.id = row.id) (conflictError "email already registered")
  write fun store => { store with users := store.users.put row }

def saveMembership (row : Membership) : Op Unit :=
  write fun store => { store with memberships := store.memberships.put row }

def findMembership (user : Uuid) : Op (Option Membership) := query fun store => store.memberships.get? (tenant, user)

def getMembership (user : Uuid) : Op Membership := do
  fetch (notFoundError "membership not found") (← findMembership tenant user)

def tenantMemberships : Op (List Membership) := query fun store => store.memberships.rows.filter (·.tenantId = tenant)

/-! ## Commands and approvals -/

def saveCommand (row : Command) : Op Unit := write fun store => { store with commands := store.commands.put row }

def getCommand (command : Uuid) : Op Command := do
  let rows ← query Store.commands
  match rows.get? (tenant, command) with
  | some row => pure row
  | none =>
    if ∃ row ∈ rows.rows, row.id = command then raise (tenantBoundaryError "cross-tenant command access denied")
    else raise (notFoundError "command not found")

def saveApproval (row : Approval) : Op Unit := write fun store => { store with approvals := store.approvals.put row }

def getApprovalForCommand (command : Uuid) : Op Approval := do
  let command ← getCommand tenant command
  fetch (notFoundError "approval not found") (← query fun store => store.approvals.get? (tenant, command.id))

def commandIdForKey (key : CommandKey) : Op (Option Uuid) :=
  query fun store => store.commandIdempotency.get? (tenant, key)

def bindCommandKey (key : CommandKey) (command : Uuid) : Op Unit :=
  write fun store => { store with commandIdempotency := store.commandIdempotency.set (tenant, key) command }

/-- The order of `due_approvals`: by expiry, then by id. -/
def DueBefore (first second : Approval) : Prop :=
  first.expiresAt < second.expiresAt ∨ ¬ second.expiresAt < first.expiresAt ∧ first.id ≤ second.id

instance : DecidableRel DueBefore := fun first second => by
  unfold DueBefore
  exact inferInstance

def dueApprovals (now : Timestamp) (limit : Nat) : Op (List Approval) := query fun store =>
  ((store.approvals.rows.filter fun row =>
    row.tenantId = tenant ∧ row.state = .pending ∧ row.expiresAt ≤ now).insertionSort DueBefore).take limit

def markApprovalExpired (approvalId commandId : Uuid) (now : Timestamp) : Op Bool := do
  let store ← query id
  match store.approvals.get? (tenant, commandId), store.commands.get? (tenant, commandId) with
  | some approval, some command =>
    if approval.id ≠ approvalId ∨ approval.state ≠ .pending ∨ now < approval.expiresAt then pure false
    else do
      ensure (command.state = .awaitingApproval) (conflictError "linked command is not awaiting approval")
      saveApproval { approval with state := .expired }
      saveCommand { command with state := .expired }
      pure true
  | _, _ => pure false

def getApprovalIntent (command : Uuid) : Op (Option ApprovalIntent) :=
  query fun store => store.approvalIntents.get? (tenant, command)

def saveApprovalIntent (row : ApprovalIntent) : Op Unit := do
  let _ ← getCommand row.tenantId row.commandId
  ensure ((← getApprovalIntent row.tenantId row.commandId) = none) (conflictError "approval intent already exists")
  write fun store => { store with approvalIntents := store.approvalIntents.put row }

def getExecutionPreparation (command : Uuid) : Op (Option ExecutionPreparation) :=
  query fun store => store.executionPreparations.get? (tenant, command)

def saveExecutionPreparation (row : ExecutionPreparation) : Op Unit := do
  ensure ((← getApprovalIntent row.tenantId row.commandId) ≠ none) (notFoundError "approval intent not found")
  ensure ((← getExecutionPreparation row.tenantId row.commandId) = none) (conflictError "execution already prepared")
  write fun store => { store with executionPreparations := store.executionPreparations.put row }

/-! ## Audit and outbox -/

def auditsFor : Op (List AuditEvent) := query fun store => store.auditEvents.filter (·.tenantId = tenant)

def appendAudit (event : AuditEvent) : Op Unit :=
  write fun store => { store with auditEvents := store.auditEvents ++ [event] }

def appendOutbox (event : OutboxEvent Ident OutboxKey) : Op Unit := do
  let outbox ← query Store.outbox
  let outbox ← ofExcept (InMemoryRepository.appendOutbox event outbox)
  write fun store => { store with outbox := outbox }

/-! ## Orders and purchases -/

def saveNormalizedPayload (row : NormalizedInboundPayload) : Op NormalizedInboundPayload := do
  match ← query fun store => store.normalizedPayloads.get? row.key with
  | some prior =>
    ensure (prior.canonicalDigest = row.canonicalDigest ∧ prior.payload = row.payload)
      (conflictError "immutable payload reference reused with different content")
    pure prior
  | none =>
    write fun store => { store with normalizedPayloads := store.normalizedPayloads.put row }
    pure row

def getNormalizedPayload (ref : String) : Op NormalizedInboundPayload := do
  fetch (notFoundError "normalized payload not found") (← query fun store => store.normalizedPayloads.get? (tenant, ref))

def getChannelOrder (order : Uuid) : Op ChannelOrder := do
  fetch (notFoundError "order not found") (← query fun store => store.channelOrders.get? (tenant, order))

def saveChannelOrder (row : ChannelOrder) : Op (ChannelOrder × Bool) := do
  let rows ← query Store.channelOrders
  let existing := rows.rows.find? fun other =>
    other.tenantId = row.tenantId ∧ other.channelId = row.channelId ∧ other.externalOrderKey = row.externalOrderKey
  match (rows.get? row.key).or existing with
  | some prior =>
    ensure ((prior.channelId, prior.externalOrderKey, prior.payloadRef, prior.totalMinor, prior.currency) =
        (row.channelId, row.externalOrderKey, row.payloadRef, row.totalMinor, row.currency))
      (conflictError "order identity reused with different content")
    pure (prior, true)
  | none =>
    write fun store => { store with channelOrders := store.channelOrders.put row }
    pure (row, false)

def updateChannelOrder (row : ChannelOrder) (expectedVersion : Nat) : Op Unit := do
  let current ← getChannelOrder row.tenantId row.id
  ensure (current.version = expectedVersion ∧ row.version = expectedVersion + 1) (conflictError "order version conflict")
  write fun store => { store with channelOrders := store.channelOrders.put row }

def saveOrderLine (row : OrderLine) : Op Unit :=
  write fun store => { store with orderLines := store.orderLines.put row }

def getOrderLine (line : Uuid) : Op OrderLine := do
  fetch (notFoundError "order line not found") (← query fun store => store.orderLines.get? (tenant, line))

def updateOrderLine (row : OrderLine) (expectedVersion : Nat) : Op Unit := do
  let current ← getOrderLine row.tenantId row.id
  ensure (current.version = expectedVersion ∧ row.version = expectedVersion + 1)
    (conflictError "order line version conflict")
  write fun store => { store with orderLines := store.orderLines.put row }

def orderLinesFor (order : Uuid) : Op (List OrderLine) := do
  let _ ← getChannelOrder tenant order
  query fun store => store.orderLines.rows.filter fun row => row.tenantId = tenant ∧ row.channelOrderId = order

def saveRoutingDecision (row : RoutingDecision) : Op Unit := do
  let prior ← query fun store => store.routingDecisions.get? row.key
  ensure (∀ other ∈ prior, other = row) (conflictError "routing decision already exists")
  write fun store => { store with routingDecisions := store.routingDecisions.put row }

def routingFor (order : Uuid) : Op (List RoutingDecision) := do
  let lines := (← orderLinesFor tenant order).map (·.id)
  query fun store => store.routingDecisions.rows.filter fun row => row.tenantId = tenant ∧ row.orderLineId ∈ lines

def savePurchaseOrder (row : SupplierPurchaseOrder) : Op (SupplierPurchaseOrder × Bool) := do
  let rows ← query Store.purchaseOrders
  match rows.rows.find? fun other => other.tenantId = row.tenantId ∧ other.idempotencyKey = row.idempotencyKey with
  | some existing =>
    ensure ((existing.channelOrderId, existing.supplierId) = (row.channelOrderId, row.supplierId))
      (conflictError "purchase idempotency key reused")
    pure (existing, true)
  | none =>
    ensure (rows.get? row.key = none) (conflictError "purchase order already exists")
    write fun store => { store with purchaseOrders := store.purchaseOrders.put row }
    pure (row, false)

def getPurchaseOrder (purchase : Uuid) : Op SupplierPurchaseOrder := do
  fetch (notFoundError "purchase order not found") (← query fun store => store.purchaseOrders.get? (tenant, purchase))

def updatePurchaseOrder (row : SupplierPurchaseOrder) (expectedVersion : Nat) : Op Unit := do
  let current ← getPurchaseOrder row.tenantId row.id
  ensure (current.version = expectedVersion ∧ row.version = expectedVersion + 1)
    (conflictError "purchase order version conflict")
  write fun store => { store with purchaseOrders := store.purchaseOrders.put row }

def purchaseOrdersFor (order : Uuid) : Op (List SupplierPurchaseOrder) := do
  let _ ← getChannelOrder tenant order
  query fun store => store.purchaseOrders.rows.filter fun row => row.tenantId = tenant ∧ row.channelOrderId = order

def savePurchaseLine (row : PurchaseLine) : Op Unit :=
  write fun store => { store with purchaseLines := store.purchaseLines.put row }

def purchaseLinesFor (purchase : Uuid) : Op (List PurchaseLine) :=
  query fun store => store.purchaseLines.rows.filter fun row => row.tenantId = tenant ∧ row.purchaseOrderId = purchase

/-! ## Execution -/

def saveAdapterManifest (row : AdapterCapabilityManifest) : Op Unit := do
  ensure ((← query fun store => store.tenants.get? row.tenantId) ≠ none) (notFoundError "tenant not found")
  write fun store => { store with manifests := store.manifests.put row }

def getAdapterManifest (provider connectionId : String) : Op AdapterCapabilityManifest := do
  fetch (notFoundError "adapter manifest not found")
    (← query fun store => store.manifests.get? (tenant, provider, connectionId))

def saveStopControl (row : DemoStopControl) : Op Unit :=
  write fun store => { store with stopControls := store.stopControls.put row }

def findStopControl (scopeType scopeRef : String) : Op (Option DemoStopControl) :=
  query fun store => store.stopControls.get? (tenant, scopeType, scopeRef)

/-- Some control of the tenant stops the tenant, everything, or this connection. -/
def Stopped (store : Store) (connectionId : Option String) : Prop :=
  ∃ row ∈ store.stopControls.rows, row.tenantId = tenant ∧ row.stopped ∧
    (row.scopeType = "tenant" ∨ row.scopeType = "global" ∨
      row.scopeType = "connection" ∧ some row.scopeRef = connectionId)

instance (store : Store) (connectionId : Option String) : Decidable (Stopped tenant store connectionId) := by
  unfold Stopped
  exact inferInstance

def demoStopActive (connectionId : Option String) : Op Bool := query fun store => Stopped tenant store connectionId

def saveDemoControl (row : DemoExecutionControl) : Op Unit := do
  let _ ← getCommand row.tenantId row.commandId
  write fun store => { store with demoControls := store.demoControls.put row }

def getDemoControl (command : Uuid) : Op DemoExecutionControl := do
  fetch (notFoundError "demo execution control missing") (← query fun store => store.demoControls.get? (tenant, command))

def getAttempt (attempt : Uuid) : Op ExecutionAttempt := do
  fetch (notFoundError "attempt not found") (← query fun store => store.attempts.get? (tenant, attempt))

def attemptForKey (operationKey : String) : Op (Option ExecutionAttempt) := query fun store =>
  store.attempts.rows.find? fun row => row.tenantId = tenant ∧ row.operationKey = operationKey

def insertAttempt (row : ExecutionAttempt) : Op Unit := do
  let preparation ← getExecutionPreparation row.tenantId row.commandId
  ensure (∃ prior ∈ preparation, prior.id = row.preparationId) (notFoundError "preparation not found")
  let bound ← attemptForKey row.tenantId row.operationKey
  let known ← query fun store => store.attempts.get? row.key
  ensure (bound = none ∧ known = none) (conflictError "attempt already exists")
  write fun store => { store with attempts := store.attempts.put row }

def updateAttempt (row : ExecutionAttempt) (expectedVersion : Nat) : Op Unit := do
  let current ← getAttempt row.tenantId row.id
  ensure (current.version = expectedVersion ∧ row.version = expectedVersion + 1)
    (conflictError "attempt version conflict")
  write fun store => { store with attempts := store.attempts.put row }

def observationsFor (attempt : Uuid) : Op (List AttemptObservation) := do
  let _ ← getAttempt tenant attempt
  query fun store => store.observations.filter fun row => row.tenantId = tenant ∧ row.attemptId = attempt

def appendObservation (row : AttemptObservation) : Op Unit := do
  let rows ← observationsFor row.tenantId row.attemptId
  ensure (∀ other ∈ rows, other.id ≠ row.id) (conflictError "observation already exists")
  write fun store => { store with observations := store.observations ++ [row] }

/-! ## Inbox -/

def inboxFor : Op (List InboxMessage) := query fun store => store.inbox.rows.filter (·.tenantId = tenant)

def receiveInbox (message : InboxMessage) : Op (InboxMessage × Bool) := transaction do
  let rows ← inboxFor message.tenantId
  match rows.find? fun prior => prior.identity = message.identity with
  | some prior =>
    ensure ((prior.payloadDigest, prior.schemaVersion) = (message.payloadDigest, message.schemaVersion))
      (conflictError "inbound identity reused with different content")
    pure (prior, true)
  | none =>
    ensure ((← query fun store => store.tenants.get? message.tenantId) ≠ none) (notFoundError "tenant not found")
    ensure ((← query fun store => store.inbox.get? message.key) = none) (conflictError "inbox id already exists")
    write fun store => { store with inbox := store.inbox.put message }
    pure (message, false)

def getInbox (message : Uuid) : Op InboxMessage := do
  fetch (notFoundError "inbox message not found") (← query fun store => store.inbox.get? (tenant, message))

def markInboxProcessed (message : Uuid) (expectedVersion : Int) (processedAt : Timestamp) : Op InboxMessage :=
  transaction do
    let value ← getInbox tenant message
    ensure (value.version = expectedVersion ∧ value.state = .received) (conflictError "inbox state/version conflict")
    let processed : InboxMessage :=
      { value with state := .processed, version := value.version + 1, processedAt := some processedAt }
    write fun store => { store with inbox := store.inbox.put processed }
    pure processed

def getPollCheckpoint (provider connectionId : String) : Op (Option AdapterPollCheckpoint) :=
  query fun store => store.pollCheckpoints.get? (tenant, provider, connectionId)

def insertOrAdvancePollCheckpoint (value : AdapterPollCheckpoint) (expectedVersion : Int) :
    Op AdapterPollCheckpoint := do
  let prior ← getPollCheckpoint value.tenantId value.provider value.connectionId
  let actual : Int := prior.elim 0 fun row => row.version
  ensure (actual = expectedVersion ∧ value.version = expectedVersion + 1)
    (conflictError "adapter poll checkpoint version conflict")
  write fun store => { store with pollCheckpoints := store.pollCheckpoints.put value }
  pure value

/-! ## Tool gateway -/

def getApproval (approval : Ident) : Op Approval := do
  fetch (notFoundError "approval not found")
    (← query fun store => store.approvals.rows.find? fun row => row.tenantId = tenant ∧ .uuid row.id = approval)

def toolCommandsFor : Op (List DemoToolCommand) :=
  query fun store => store.toolCommands.rows.filter (·.tenantId = tenant)

def saveToolCommand (value : DemoToolCommand) : Op (DemoToolCommand × Bool) := do
  let rows ← toolCommandsFor value.tenantId
  match rows.find? fun row => row.idempotencyKey = value.idempotencyKey with
  | some prior =>
    ensure (prior.request = value.request) (conflictError "tool idempotency key reused")
    pure (prior, true)
  | none =>
    write fun store => { store with toolCommands := store.toolCommands.put value }
    pure (value, false)

def getToolCommand (command : Uuid) : Op DemoToolCommand := do
  let rows ← query Store.toolCommands
  match rows.get? (tenant, command) with
  | some row => pure row
  | none =>
    if ∃ row ∈ rows.rows, row.id = command then raise (tenantBoundaryError "cross-tenant tool command access denied")
    else raise (notFoundError "tool command not found")

/-! ## Budgets -/

def saveAgentRun (row : DemoAgentRun) : Op Unit :=
  write fun store => { store with agentRuns := store.agentRuns.put row }

def agentRunsFor : Op (List DemoAgentRun) := query fun store => store.agentRuns.rows.filter (·.tenantId = tenant)

def getAgentRun (run : Uuid) : Op DemoAgentRun := do
  fetch (notFoundError "agent run not found") (← query fun store => store.agentRuns.get? (tenant, run))

def saveBudgetPolicy (row : DemoBudgetPolicy) : Op Unit :=
  write fun store => { store with budgetPolicies := store.budgetPolicies.put row }

def getBudgetPolicy : Op (Option DemoBudgetPolicy) := query fun store => store.budgetPolicies.get? tenant

def budgetEntriesFor : Op (List DemoBudgetLedgerEntry) :=
  query fun store => store.budgetLedger.rows.filter (·.tenantId = tenant)

def allBudgetEntries : Op (List DemoBudgetLedgerEntry) := query fun store => store.budgetLedger.rows

/-! ## Returning runs -/

section

variable {tenant} {s t : Library.Session Store} {u : Unit}

@[simp] theorem getMembership_eq_ok {user : Uuid} {row : Membership} :
    (getMembership tenant user).run s = (.ok row, t) ↔ s.db.memberships.get? (tenant, user) = some row ∧ t = s := by
  simp [getMembership, findMembership]

@[simp] theorem getCommand_eq_ok {command : Uuid} {row : Command} :
    (getCommand tenant command).run s = (.ok row, t) ↔ s.db.commands.get? (tenant, command) = some row ∧ t = s := by
  simp only [getCommand, bind_eq_ok, query_eq_ok]
  constructor
  · rintro ⟨rows, middle, ⟨rfl, rfl⟩, ran⟩
    split at ran
    · next found =>
      obtain ⟨rfl, rfl⟩ := (pure_eq_ok _ _ _ _).mp ran
      exact ⟨found, rfl⟩
    · split at ran <;> simp at ran
  · rintro ⟨found, rfl⟩
    refine ⟨_, _, ⟨rfl, rfl⟩, ?_⟩
    rw [found]
    simp

@[simp] theorem getApprovalForCommand_eq_ok {command : Uuid} {row : Approval} :
    (getApprovalForCommand tenant command).run s = (.ok row, t) ↔
      (∃ found, s.db.commands.get? (tenant, command) = some found) ∧
        s.db.approvals.get? (tenant, command) = some row ∧ t = s := by
  simp only [getApprovalForCommand, bind_eq_ok, getCommand_eq_ok, query_eq_ok, fetch_eq_ok]
  constructor
  · rintro ⟨found, middle, ⟨bound, rfl⟩, approval, last, ⟨rfl, rfl⟩, same, rfl⟩
    have := Library.Table.key_of_get? bound
    simp only [Command.key, Prod.mk.injEq] at this
    rw [this.2] at same
    exact ⟨⟨found, bound⟩, same, rfl⟩
  · rintro ⟨⟨found, bound⟩, same, rfl⟩
    have := Library.Table.key_of_get? bound
    simp only [Command.key, Prod.mk.injEq] at this
    refine ⟨found, _, ⟨bound, rfl⟩, _, _, ⟨rfl, rfl⟩, ?_, rfl⟩
    rw [this.2]
    exact same

@[simp] theorem appendOutbox_eq_ok {event : OutboxEvent Ident OutboxKey} :
    (appendOutbox event).run s = (.ok u, t) ↔
      s.db.outbox.outboxIdempotency.get? (event.tenantId, event.idempotencyKey) = none ∧
        t = { s with db := { s.db with
          outbox := (s.db.outbox.put event).bindKey event.tenantId event.idempotencyKey event.id } } := by
  simp only [appendOutbox, bind_eq_ok, query_eq_ok, ofExcept_eq_ok, write_eq_ok, InMemoryRepository.appendOutbox]
  constructor
  · rintro ⟨_, _, ⟨rfl, rfl⟩, box, _, ⟨appended, rfl⟩, rfl⟩
    split at appended
    · cases appended
    · next free =>
      cases appended
      exact ⟨by simpa using free, rfl⟩
  · rintro ⟨free, rfl⟩
    refine ⟨_, _, ⟨rfl, rfl⟩, _, _, ⟨?_, rfl⟩, rfl⟩
    rw [if_neg (by simp [free])]

@[simp] theorem saveApprovalIntent_eq_ok {row : ApprovalIntent} :
    (saveApprovalIntent row).run s = (.ok u, t) ↔
      (∃ command, s.db.commands.get? row.key = some command) ∧ s.db.approvalIntents.get? row.key = none ∧
        t = { s with db := { s.db with approvalIntents := s.db.approvalIntents.put row } } := by
  simp [saveApprovalIntent, getApprovalIntent, ApprovalIntent.key]

@[simp] theorem saveExecutionPreparation_eq_ok {row : ExecutionPreparation} :
    (saveExecutionPreparation row).run s = (.ok u, t) ↔
      s.db.approvalIntents.get? row.key ≠ none ∧ s.db.executionPreparations.get? row.key = none ∧
        t = { s with db := { s.db with executionPreparations := s.db.executionPreparations.put row } } := by
  simp [saveExecutionPreparation, getApprovalIntent, getExecutionPreparation, ExecutionPreparation.key]

@[simp] theorem getChannelOrder_eq_ok {order : Uuid} {row : ChannelOrder} :
    (getChannelOrder tenant order).run s = (.ok row, t) ↔ s.db.channelOrders.get? (tenant, order) = some row ∧ t = s := by
  simp [getChannelOrder]

@[simp] theorem updateChannelOrder_eq_ok {row : ChannelOrder} {expectedVersion : Nat} :
    (updateChannelOrder row expectedVersion).run s = (.ok u, t) ↔
      ∃ current, s.db.channelOrders.get? row.key = some current ∧ current.version = expectedVersion ∧
        row.version = expectedVersion + 1 ∧
        t = { s with db := { s.db with channelOrders := s.db.channelOrders.put row } } := by
  simp [updateChannelOrder, ChannelOrder.key, and_assoc]

@[simp] theorem updateOrderLine_eq_ok {row : OrderLine} {expectedVersion : Nat} :
    (updateOrderLine row expectedVersion).run s = (.ok u, t) ↔
      ∃ current, s.db.orderLines.get? row.key = some current ∧ current.version = expectedVersion ∧
        row.version = expectedVersion + 1 ∧
        t = { s with db := { s.db with orderLines := s.db.orderLines.put row } } := by
  simp [updateOrderLine, getOrderLine, OrderLine.key, and_assoc]

@[simp] theorem orderLinesFor_eq_ok {order : Uuid} {rows : List OrderLine} :
    (orderLinesFor tenant order).run s = (.ok rows, t) ↔
      (∃ row, s.db.channelOrders.get? (tenant, order) = some row) ∧
        (s.db.orderLines.rows.filter fun row => row.tenantId = tenant ∧ row.channelOrderId = order) = rows ∧ t = s := by
  simp only [orderLinesFor, bind_eq_ok, getChannelOrder_eq_ok, query_eq_ok]
  constructor
  · rintro ⟨row, _, ⟨found, rfl⟩, rfl, rfl⟩
    exact ⟨⟨row, found⟩, rfl, rfl⟩
  · rintro ⟨⟨row, found⟩, rfl, rfl⟩
    exact ⟨row, _, ⟨found, rfl⟩, rfl, rfl⟩

@[simp] theorem getPurchaseOrder_eq_ok {purchase : Uuid} {row : SupplierPurchaseOrder} :
    (getPurchaseOrder tenant purchase).run s = (.ok row, t) ↔
      s.db.purchaseOrders.get? (tenant, purchase) = some row ∧ t = s := by
  simp [getPurchaseOrder]

@[simp] theorem updatePurchaseOrder_eq_ok {row : SupplierPurchaseOrder} {expectedVersion : Nat} :
    (updatePurchaseOrder row expectedVersion).run s = (.ok u, t) ↔
      ∃ current, s.db.purchaseOrders.get? row.key = some current ∧ current.version = expectedVersion ∧
        row.version = expectedVersion + 1 ∧
        t = { s with db := { s.db with purchaseOrders := s.db.purchaseOrders.put row } } := by
  simp [updatePurchaseOrder, SupplierPurchaseOrder.key, and_assoc]

@[simp] theorem purchaseOrdersFor_eq_ok {order : Uuid} {rows : List SupplierPurchaseOrder} :
    (purchaseOrdersFor tenant order).run s = (.ok rows, t) ↔
      (∃ row, s.db.channelOrders.get? (tenant, order) = some row) ∧
        (s.db.purchaseOrders.rows.filter fun row => row.tenantId = tenant ∧ row.channelOrderId = order) = rows ∧
        t = s := by
  simp only [purchaseOrdersFor, bind_eq_ok, getChannelOrder_eq_ok, query_eq_ok]
  constructor
  · rintro ⟨row, _, ⟨found, rfl⟩, rfl, rfl⟩
    exact ⟨⟨row, found⟩, rfl, rfl⟩
  · rintro ⟨⟨row, found⟩, rfl, rfl⟩
    exact ⟨row, _, ⟨found, rfl⟩, rfl, rfl⟩

@[simp] theorem getAttempt_eq_ok {attempt : Uuid} {row : ExecutionAttempt} :
    (getAttempt tenant attempt).run s = (.ok row, t) ↔ s.db.attempts.get? (tenant, attempt) = some row ∧ t = s := by
  simp [getAttempt]

@[simp] theorem updateAttempt_eq_ok {row : ExecutionAttempt} {expectedVersion : Nat} :
    (updateAttempt row expectedVersion).run s = (.ok u, t) ↔
      ∃ current, s.db.attempts.get? row.key = some current ∧ current.version = expectedVersion ∧
        row.version = expectedVersion + 1 ∧
        t = { s with db := { s.db with attempts := s.db.attempts.put row } } := by
  simp [updateAttempt, ExecutionAttempt.key, and_assoc]

@[simp] theorem observationsFor_eq_ok {attempt : Uuid} {rows : List AttemptObservation} :
    (observationsFor tenant attempt).run s = (.ok rows, t) ↔
      (∃ row, s.db.attempts.get? (tenant, attempt) = some row) ∧
        (s.db.observations.filter fun row => row.tenantId = tenant ∧ row.attemptId = attempt) = rows ∧ t = s := by
  simp only [observationsFor, bind_eq_ok, getAttempt_eq_ok, query_eq_ok]
  constructor
  · rintro ⟨row, _, ⟨found, rfl⟩, rfl, rfl⟩
    exact ⟨⟨row, found⟩, rfl, rfl⟩
  · rintro ⟨⟨row, found⟩, rfl, rfl⟩
    exact ⟨row, _, ⟨found, rfl⟩, rfl, rfl⟩

@[simp] theorem insertAttempt_eq_ok {row : ExecutionAttempt} :
    (insertAttempt row).run s = (.ok u, t) ↔
      (∃ prior, s.db.executionPreparations.get? (row.tenantId, row.commandId) = some prior ∧
        prior.id = row.preparationId) ∧
      (∀ other ∈ s.db.attempts.rows, ¬ (other.tenantId = row.tenantId ∧ other.operationKey = row.operationKey)) ∧
      s.db.attempts.get? row.key = none ∧
      t = { s with db := { s.db with attempts := s.db.attempts.put row } } := by
  simp [insertAttempt, getExecutionPreparation, attemptForKey, and_assoc]

end

/-! ## Frames -/

section

variable {tenant} {υ : Type} {view : Store → υ}

@[simp] theorem keeps_getMembership (user : Uuid) : Keeps view (getMembership tenant user) :=
  (keeps_query _).bind fun _ => keeps_fetch _ _

@[simp] theorem keeps_getCommand (command : Uuid) : Keeps view (getCommand tenant command) := by
  refine (keeps_query _).bind fun rows => ?_
  cases rows.get? (tenant, command) with
  | none => exact (keeps_raise _).ite (keeps_raise _)
  | some row => exact keeps_pure row

@[simp] theorem keeps_getApprovalForCommand (command : Uuid) : Keeps view (getApprovalForCommand tenant command) :=
  (keeps_getCommand _).bind fun _ => (keeps_query _).bind fun _ => keeps_fetch _ _

end

end Repository

end AiStore
