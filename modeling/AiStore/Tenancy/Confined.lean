import AiStore.Audit.Chain
import AiStore.Library.Preorder
import AiStore.Service.BrowserAuth
import AiStore.Service.Members

/-! Work that stays within one tenant: its writes leave the rows of every other tenant alone, and what it adds to the
audit trail is linked. -/

set_option autoImplicit false

namespace AiStore.Service

open Library (Dict Session Table)
open Library.Txn Failure Repository

/-! ## The rows of the others -/

/-- The rows that do not belong to the tenant, in their order. -/
def others {κ ν : Type} {key : ν → κ} (owner : ν → Uuid) (tenant : Uuid) (table : Table key) : List ν :=
  table.rows.filter fun row => owner row ≠ tenant

theorem others_put {κ ν : Type} {key : ν → κ} [DecidableEq κ] (owner : ν → Uuid) {tenant : Uuid} (table : Table key)
    {row : ν} (keyed : ∀ first second, key first = key second → owner first = owner second)
    (own : owner row = tenant) : others owner tenant (table.put row) = others owner tenant table := by
  apply Table.filter_put
  intro other same
  simp [(keyed other row same).trans own]

/-- The events of the outbox that do not belong to the tenant, and the keys bound for the others. -/
def othersOutbox (tenant : Uuid) (box : InMemoryRepository.Outbox Ident OutboxKey) :=
  (box.outbox.entries.filter fun entry => entry.1.1 ≠ .uuid tenant,
    box.outboxIdempotency.entries.filter fun entry => entry.1.1 ≠ .uuid tenant)

/-- Everything in the store that does not belong to the tenant, the users aside, whom the tenants share. -/
def foreign (tenant : Uuid) (db : Store) :=
  (db.tenants,
    others Membership.tenantId tenant db.memberships,
    others Command.tenantId tenant db.commands,
    others Approval.tenantId tenant db.approvals,
    db.commandIdempotency.entries.filter (fun entry => entry.1.1 ≠ tenant),
    db.auditEvents.filter (fun row => row.tenantId ≠ tenant),
    othersOutbox tenant db.outbox,
    others ApprovalIntent.tenantId tenant db.approvalIntents,
    others ExecutionPreparation.tenantId tenant db.executionPreparations,
    others NormalizedInboundPayload.tenantId tenant db.normalizedPayloads,
    others ChannelOrder.tenantId tenant db.channelOrders,
    others OrderLine.tenantId tenant db.orderLines,
    others RoutingDecision.tenantId tenant db.routingDecisions,
    others SupplierPurchaseOrder.tenantId tenant db.purchaseOrders,
    others PurchaseLine.tenantId tenant db.purchaseLines,
    others AdapterCapabilityManifest.tenantId tenant db.manifests,
    others DemoStopControl.tenantId tenant db.stopControls,
    others DemoExecutionControl.tenantId tenant db.demoControls,
    others ExecutionAttempt.tenantId tenant db.attempts,
    db.observations.filter (fun row => row.tenantId ≠ tenant),
    others InboxMessage.tenantId tenant db.inbox,
    others AdapterPollCheckpoint.tenantId tenant db.pollCheckpoints,
    others DemoToolCommand.tenantId tenant db.toolCommands,
    others DemoAgentRun.tenantId tenant db.agentRuns,
    others DemoBudgetPolicy.tenantId tenant db.budgetPolicies,
    others DemoBudgetLedgerEntry.tenantId tenant db.budgetLedger,
    others DemoBudgetRequest.tenantId tenant db.budgetRequests,
    others BrowserSession.tenantId tenant db.browserSessions,
    others ApprovalConfirmationNonce.tenantId tenant db.approvalConfirmationNonces)

/-! ## Confined work -/

/-- The trail only grows, and stays chained. -/
structure Extends (env : Env) (before after : Store) : Prop where
  events : before.auditEvents <+: after.auditEvents
  chained : Chained env before → Chained env after

instance (env : Env) : Std.Refl (Extends env) := ⟨fun _ => ⟨List.prefix_rfl, fun chained => chained⟩⟩

instance (env : Env) : IsTrans Store (Extends env) :=
  ⟨fun _ _ _ first second => ⟨first.events.trans second.events, fun chained => second.chained (first.chained chained)⟩⟩

/-- What may become of the store by work within a tenant. -/
structure Confined (env : Env) (tenant : Uuid) (before after : Store) : Prop where
  foreign : foreign tenant after = foreign tenant before
  users : after.users = before.users
  trail : Extends env before after

instance (env : Env) (tenant : Uuid) : Std.Refl (Confined env tenant) :=
  ⟨fun db => ⟨rfl, rfl, Std.Refl.refl db⟩⟩

instance (env : Env) (tenant : Uuid) : IsTrans Store (Confined env tenant) :=
  ⟨fun _ _ _ first second => ⟨second.foreign.trans first.foreign, second.users.trans first.users,
    IsTrans.trans _ _ _ first.trail second.trail⟩⟩

section

variable {env : Env} {tenant : Uuid}

theorem extends_of_same {before after : Store} (same : after.auditEvents = before.auditEvents) :
    Extends env before after := by
  refine ⟨⟨[], ?_⟩, ?_⟩
  · rw [same, List.append_nil]
  · intro chained other
    rw [same]
    exact chained other

theorem audit_db (env : Env) (s : Session Store) (tenant : Uuid) (actor : Ident) (action : String) (target : Ident)
    (outcome : String) (metadata : Mapping) : ((audit env tenant actor action target outcome metadata).run s).2.db =
      { s.db with auditEvents := s.db.auditEvents ++ [auditRow env s tenant actor action target outcome metadata] } :=
  rfl

theorem extends_audit {actor : Ident} {action : String} {target : Ident} {outcome : String} {metadata : Mapping} :
    Obeys (Extends env) (audit env tenant actor action target outcome metadata) := by
  intro s
  rw [audit_db]
  exact ⟨List.prefix_append _ _, fun chained => chained.audit tenant actor action target outcome metadata⟩

theorem confined_write {change : Store → Store} (apart : ∀ db, foreign tenant (change db) = foreign tenant db)
    (users : ∀ db, (change db).users = db.users) (trail : ∀ db, (change db).auditEvents = db.auditEvents) :
    Obeys (Confined env tenant) (write change : Op Unit) :=
  obeys_write fun db => ⟨apart db, users db, extends_of_same (trail db)⟩

theorem confined_audit {actor : Ident} {action : String} {target : Ident} {outcome : String} {metadata : Mapping} :
    Obeys (Confined env tenant) (audit env tenant actor action target outcome metadata) := by
  intro s
  refine ⟨?_, rfl, extends_audit s⟩
  have own : (s.db.auditEvents ++ [auditRow env s tenant actor action target outcome metadata]).filter
      (fun row => row.tenantId ≠ tenant) = s.db.auditEvents.filter fun row => row.tenantId ≠ tenant := by
    simp [List.filter_append, auditRow]
  rw [audit_db, foreign, own]
  rfl

theorem confined_auditBy {context : TenantContext} {action : String} {target : Uuid} {outcome : String}
    {metadata : Mapping} : Obeys (Confined env context.tenantId) (auditBy env context action target outcome metadata) :=
  confined_audit

/-! ## The writes of the repository -/

theorem othersOutbox_put {box : InMemoryRepository.Outbox Ident OutboxKey} {event : OutboxEvent Ident OutboxKey}
    (own : event.tenantId = .uuid tenant) : othersOutbox tenant (box.put event) = othersOutbox tenant box := by
  have same := Dict.filter_set box.outbox (event.tenantId, event.id) event (fun key => key.1 ≠ .uuid tenant) (by simp [own])
  rw [othersOutbox, InMemoryRepository.Outbox.put, same]
  rfl

theorem othersOutbox_bindKey {box : InMemoryRepository.Outbox Ident OutboxKey} {key : OutboxKey} {id : Ident} :
    othersOutbox tenant (box.bindKey (.uuid tenant) key id) = othersOutbox tenant box := by
  have same := Dict.filter_set box.outboxIdempotency (.uuid tenant, key) id (fun key => key.1 ≠ .uuid tenant) (by simp)
  rw [othersOutbox, InMemoryRepository.Outbox.bindKey, same]
  rfl

/-! A row of the tenant, written to its table. -/

theorem confined_memberships {row : Membership} (own : row.tenantId = tenant) :
    Obeys (Confined env tenant) (write fun db => { db with memberships := db.memberships.put row } : Op Unit) := by
  refine confined_write (fun db => ?_) (fun _ => rfl) fun _ => rfl
  dsimp only [foreign]
  rw [others_put Membership.tenantId db.memberships (fun _ _ same => congrArg Prod.fst same) own]

theorem confined_commands {row : Command} (own : row.tenantId = tenant) :
    Obeys (Confined env tenant) (write fun db => { db with commands := db.commands.put row } : Op Unit) := by
  refine confined_write (fun db => ?_) (fun _ => rfl) fun _ => rfl
  dsimp only [foreign]
  rw [others_put Command.tenantId db.commands (fun _ _ same => congrArg Prod.fst same) own]

theorem confined_approvals {row : Approval} (own : row.tenantId = tenant) :
    Obeys (Confined env tenant) (write fun db => { db with approvals := db.approvals.put row } : Op Unit) := by
  refine confined_write (fun db => ?_) (fun _ => rfl) fun _ => rfl
  dsimp only [foreign]
  rw [others_put Approval.tenantId db.approvals (fun _ _ same => congrArg Prod.fst same) own]

theorem confined_approvalIntents {row : ApprovalIntent} (own : row.tenantId = tenant) :
    Obeys (Confined env tenant) (write fun db => { db with approvalIntents := db.approvalIntents.put row } : Op Unit) := by
  refine confined_write (fun db => ?_) (fun _ => rfl) fun _ => rfl
  dsimp only [foreign]
  rw [others_put ApprovalIntent.tenantId db.approvalIntents (fun _ _ same => congrArg Prod.fst same) own]

theorem confined_executionPreparations {row : ExecutionPreparation} (own : row.tenantId = tenant) :
    Obeys (Confined env tenant) (write fun db => { db with executionPreparations := db.executionPreparations.put row } : Op Unit) := by
  refine confined_write (fun db => ?_) (fun _ => rfl) fun _ => rfl
  dsimp only [foreign]
  rw [others_put ExecutionPreparation.tenantId db.executionPreparations (fun _ _ same => congrArg Prod.fst same) own]

theorem confined_normalizedPayloads {row : NormalizedInboundPayload} (own : row.tenantId = tenant) :
    Obeys (Confined env tenant) (write fun db => { db with normalizedPayloads := db.normalizedPayloads.put row } : Op Unit) := by
  refine confined_write (fun db => ?_) (fun _ => rfl) fun _ => rfl
  dsimp only [foreign]
  rw [others_put NormalizedInboundPayload.tenantId db.normalizedPayloads (fun _ _ same => congrArg Prod.fst same) own]

theorem confined_channelOrders {row : ChannelOrder} (own : row.tenantId = tenant) :
    Obeys (Confined env tenant) (write fun db => { db with channelOrders := db.channelOrders.put row } : Op Unit) := by
  refine confined_write (fun db => ?_) (fun _ => rfl) fun _ => rfl
  dsimp only [foreign]
  rw [others_put ChannelOrder.tenantId db.channelOrders (fun _ _ same => congrArg Prod.fst same) own]

theorem confined_orderLines {row : OrderLine} (own : row.tenantId = tenant) :
    Obeys (Confined env tenant) (write fun db => { db with orderLines := db.orderLines.put row } : Op Unit) := by
  refine confined_write (fun db => ?_) (fun _ => rfl) fun _ => rfl
  dsimp only [foreign]
  rw [others_put OrderLine.tenantId db.orderLines (fun _ _ same => congrArg Prod.fst same) own]

theorem confined_routingDecisions {row : RoutingDecision} (own : row.tenantId = tenant) :
    Obeys (Confined env tenant) (write fun db => { db with routingDecisions := db.routingDecisions.put row } : Op Unit) := by
  refine confined_write (fun db => ?_) (fun _ => rfl) fun _ => rfl
  dsimp only [foreign]
  rw [others_put RoutingDecision.tenantId db.routingDecisions (fun _ _ same => congrArg Prod.fst same) own]

theorem confined_purchaseOrders {row : SupplierPurchaseOrder} (own : row.tenantId = tenant) :
    Obeys (Confined env tenant) (write fun db => { db with purchaseOrders := db.purchaseOrders.put row } : Op Unit) := by
  refine confined_write (fun db => ?_) (fun _ => rfl) fun _ => rfl
  dsimp only [foreign]
  rw [others_put SupplierPurchaseOrder.tenantId db.purchaseOrders (fun _ _ same => congrArg Prod.fst same) own]

theorem confined_purchaseLines {row : PurchaseLine} (own : row.tenantId = tenant) :
    Obeys (Confined env tenant) (write fun db => { db with purchaseLines := db.purchaseLines.put row } : Op Unit) := by
  refine confined_write (fun db => ?_) (fun _ => rfl) fun _ => rfl
  dsimp only [foreign]
  rw [others_put PurchaseLine.tenantId db.purchaseLines (fun _ _ same => congrArg Prod.fst same) own]

theorem confined_manifests {row : AdapterCapabilityManifest} (own : row.tenantId = tenant) :
    Obeys (Confined env tenant) (write fun db => { db with manifests := db.manifests.put row } : Op Unit) := by
  refine confined_write (fun db => ?_) (fun _ => rfl) fun _ => rfl
  dsimp only [foreign]
  rw [others_put AdapterCapabilityManifest.tenantId db.manifests (fun _ _ same => congrArg Prod.fst same) own]

theorem confined_stopControls {row : DemoStopControl} (own : row.tenantId = tenant) :
    Obeys (Confined env tenant) (write fun db => { db with stopControls := db.stopControls.put row } : Op Unit) := by
  refine confined_write (fun db => ?_) (fun _ => rfl) fun _ => rfl
  dsimp only [foreign]
  rw [others_put DemoStopControl.tenantId db.stopControls (fun _ _ same => congrArg Prod.fst same) own]

theorem confined_demoControls {row : DemoExecutionControl} (own : row.tenantId = tenant) :
    Obeys (Confined env tenant) (write fun db => { db with demoControls := db.demoControls.put row } : Op Unit) := by
  refine confined_write (fun db => ?_) (fun _ => rfl) fun _ => rfl
  dsimp only [foreign]
  rw [others_put DemoExecutionControl.tenantId db.demoControls (fun _ _ same => congrArg Prod.fst same) own]

theorem confined_attempts {row : ExecutionAttempt} (own : row.tenantId = tenant) :
    Obeys (Confined env tenant) (write fun db => { db with attempts := db.attempts.put row } : Op Unit) := by
  refine confined_write (fun db => ?_) (fun _ => rfl) fun _ => rfl
  dsimp only [foreign]
  rw [others_put ExecutionAttempt.tenantId db.attempts (fun _ _ same => congrArg Prod.fst same) own]

theorem confined_inbox {row : InboxMessage} (own : row.tenantId = tenant) :
    Obeys (Confined env tenant) (write fun db => { db with inbox := db.inbox.put row } : Op Unit) := by
  refine confined_write (fun db => ?_) (fun _ => rfl) fun _ => rfl
  dsimp only [foreign]
  rw [others_put InboxMessage.tenantId db.inbox (fun _ _ same => congrArg Prod.fst same) own]

theorem confined_pollCheckpoints {row : AdapterPollCheckpoint} (own : row.tenantId = tenant) :
    Obeys (Confined env tenant) (write fun db => { db with pollCheckpoints := db.pollCheckpoints.put row } : Op Unit) := by
  refine confined_write (fun db => ?_) (fun _ => rfl) fun _ => rfl
  dsimp only [foreign]
  rw [others_put AdapterPollCheckpoint.tenantId db.pollCheckpoints (fun _ _ same => congrArg Prod.fst same) own]

theorem confined_toolCommands {row : DemoToolCommand} (own : row.tenantId = tenant) :
    Obeys (Confined env tenant) (write fun db => { db with toolCommands := db.toolCommands.put row } : Op Unit) := by
  refine confined_write (fun db => ?_) (fun _ => rfl) fun _ => rfl
  dsimp only [foreign]
  rw [others_put DemoToolCommand.tenantId db.toolCommands (fun _ _ same => congrArg Prod.fst same) own]

theorem confined_agentRuns {row : DemoAgentRun} (own : row.tenantId = tenant) :
    Obeys (Confined env tenant) (write fun db => { db with agentRuns := db.agentRuns.put row } : Op Unit) := by
  refine confined_write (fun db => ?_) (fun _ => rfl) fun _ => rfl
  dsimp only [foreign]
  rw [others_put DemoAgentRun.tenantId db.agentRuns (fun _ _ same => congrArg Prod.fst same) own]

theorem confined_budgetPolicies {row : DemoBudgetPolicy} (own : row.tenantId = tenant) :
    Obeys (Confined env tenant) (write fun db => { db with budgetPolicies := db.budgetPolicies.put row } : Op Unit) := by
  refine confined_write (fun db => ?_) (fun _ => rfl) fun _ => rfl
  dsimp only [foreign]
  rw [others_put DemoBudgetPolicy.tenantId db.budgetPolicies (fun _ _ same => same) own]

theorem confined_budgetLedger {row : DemoBudgetLedgerEntry} (own : row.tenantId = tenant) :
    Obeys (Confined env tenant) (write fun db => { db with budgetLedger := db.budgetLedger.put row } : Op Unit) := by
  refine confined_write (fun db => ?_) (fun _ => rfl) fun _ => rfl
  dsimp only [foreign]
  rw [others_put DemoBudgetLedgerEntry.tenantId db.budgetLedger (fun _ _ same => congrArg Prod.fst same) own]

theorem confined_budgetRequests {row : DemoBudgetRequest} (own : row.tenantId = tenant) :
    Obeys (Confined env tenant) (write fun db => { db with budgetRequests := db.budgetRequests.put row } : Op Unit) := by
  refine confined_write (fun db => ?_) (fun _ => rfl) fun _ => rfl
  dsimp only [foreign]
  rw [others_put DemoBudgetRequest.tenantId db.budgetRequests (fun _ _ same => congrArg Prod.fst same) own]

/-! What is kept beside the tables: the keys of commands, the outbox and the observations. -/

theorem confined_bindCommandKey {key : CommandKey} {command : Uuid} :
    Obeys (Confined env tenant) (bindCommandKey tenant key command) := by
  refine confined_write (fun db => ?_) (fun _ => rfl) fun _ => rfl
  have same := Dict.filter_set db.commandIdempotency (tenant, key) command (fun key => key.1 ≠ tenant) (by simp)
  dsimp only [foreign]
  rw [same]

theorem confined_outbox {db : Store} {box : InMemoryRepository.Outbox Ident OutboxKey}
    (own : othersOutbox tenant box = othersOutbox tenant db.outbox) :
    Confined env tenant db { db with outbox := box } := by
  refine ⟨?_, rfl, extends_of_same rfl⟩
  dsimp only [foreign]
  rw [own]

theorem confined_appendOutbox {event : OutboxEvent Ident OutboxKey} (own : event.tenantId = .uuid tenant) :
    Obeys (Confined env tenant) (appendOutbox event) := by
  apply obeys_of_returning
  · exact Unwinds.bind (keeps_query _) fun _ => Unwinds.bind (keeps_ofExcept _) fun _ => by
      intro s why t raised
      cases raised
  · intro s _ t ran
    obtain ⟨-, rfl⟩ := appendOutbox_eq_ok.mp ran
    apply confined_outbox
    rw [own, othersOutbox_bindKey, othersOutbox_put own]

theorem confined_publish {topic : String} {aggregate : Uuid} {payload : Mapping} {key : OutboxKey}
    {createdAt : Timestamp} : Obeys (Confined env tenant) (publish tenant topic aggregate payload key createdAt) :=
  keeps_freshUuid.obeys.bind fun _ => confined_appendOutbox rfl

theorem confined_appendObservation {row : AttemptObservation} (own : row.tenantId = tenant) :
    Obeys (Confined env tenant) (appendObservation row) := by
  refine Keeps.obeys ?_ |>.bind fun _ => (keeps_ensure _ _).obeys.bind fun _ => ?_
  · exact ((keeps_query _).bind fun _ => keeps_fetch _ _).bind fun _ => keeps_query _
  · refine confined_write (fun db => ?_) (fun _ => rfl) fun _ => rfl
    have same : (db.observations ++ [row]).filter (fun other => other.tenantId ≠ tenant) =
        db.observations.filter fun other => other.tenantId ≠ tenant := by
      simp [List.filter_append, own]
    dsimp only [foreign]
    rw [same]

end

end AiStore.Service
