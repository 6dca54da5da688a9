import AiStore.Service.MemberRuns
import AiStore.Tenancy.Operations

/-! The audit trail over whole runs, and what one tenant's call leaves of the others. -/

set_option autoImplicit false

namespace AiStore.Service

open Library (Session Table final)
open Library.Txn Failure Repository Purchasing

/-! ## Members, who are shared -/

/-- What may become of the store by work within a tenant that may enrol a new user. -/
structure Enrolling (env : Env) (tenant : Uuid) (before after : Store) : Prop where
  foreign : foreign tenant after = foreign tenant before
  trail : Extends env before after

instance (env : Env) (tenant : Uuid) : Std.Refl (Enrolling env tenant) := ⟨fun db => ⟨rfl, Std.Refl.refl db⟩⟩

instance (env : Env) (tenant : Uuid) : IsTrans Store (Enrolling env tenant) :=
  ⟨fun _ _ _ first second => ⟨second.foreign.trans first.foreign, IsTrans.trans _ _ _ first.trail second.trail⟩⟩

variable {env : Env} {context : TenantContext}

theorem Confined.enrolling {tenant : Uuid} {before after : Store} (confined : Confined env tenant before after) :
    Enrolling env tenant before after := ⟨confined.foreign, confined.trail⟩

theorem enrolling_addUser {tenant : Uuid} {row : User} : Obeys (Enrolling env tenant) (addUser row) := by
  refine (keeps_query _).obeys.bind fun _ => (keeps_ensure _ _).obeys.bind fun _ => ?_
  exact obeys_write fun db => ⟨rfl, extends_of_same rfl⟩

theorem enrolling_addMember {email : String} {roles : List Role} :
    Obeys (Enrolling env context.tenantId) (addMember env context email roles) := by
  have joining : ∀ userId roleSet, Obeys (Enrolling env context.tenantId) (do
      let version := (← findMembership context.tenantId userId).elim 1 (·.version + 1)
      saveMembership { tenantId := context.tenantId, userId := userId, roles := roleSet, version := version }
      auditBy env context "membership.add" userId "succeeded" (rolesMetadata roleSet)
      pure (⟨context.tenantId, userId, version⟩ : TenantContext)) := by
    intro userId roleSet
    refine (keeps_query _).obeys.bind fun _ => Obeys.bind ?_ fun _ => Obeys.bind ?_ fun _ => (keeps_pure _).obeys
    · exact Obeys.mono (confined_memberships rfl) fun _ _ confined => confined.enrolling
    · exact Obeys.mono confined_auditBy fun _ _ confined => confined.enrolling
  apply Obeys.transaction
  refine (keeps_require _).obeys.bind fun _ => (keeps_ensure _ _).obeys.bind fun _ => (keeps_query _).obeys.bind fun _ => ?_
  refine (keeps_ensure _ _).obeys.bind fun _ => (keeps_query _).obeys.bind fun known => ?_
  cases known with
  | some user => exact (keeps_pure _).obeys.bind fun userId => joining userId _
  | none =>
    refine keeps_freshUuid.obeys.bind fun _ => keeps_now.obeys.bind fun _ => enrolling_addUser.bind fun _ => ?_
    exact (keeps_pure _).obeys.bind fun userId => joining userId _

/-! ## Calls within a tenant -/

/-- The calls with the context of a tenant, or in its name. -/
inductive TenantCall where
  | addMember (context : TenantContext) (email : String) (roles : List Role)
  | changeMemberRoles (context : TenantContext) (userId : Uuid) (roles : List Role)
  | revokeMember (context : TenantContext) (userId : Uuid)
  | createCommand (context : TenantContext) (kind : ApprovalKind) (targetRef : TargetRef) (payload : Mapping)
      (idempotencyKey : CommandKey) (evidence : List Mapping)
  | requestApproval (context : TenantContext) (kind : ApprovalKind) (targetRef : TargetRef) (payload : Mapping)
      (idempotencyKey : CommandKey) (policyVersion targetVersion : Int) (evidence : List Mapping)
  | decide (context : TenantContext) (commandId : Uuid) (approve : Bool) (reason : String)
  | supersede (context : TenantContext) (commandId : Uuid) (changedPayload : Mapping) (idempotencyKey : CommandKey)
  | expireDueApprovals (tenant : Uuid) (limit : Int)
  | prepareExecution (context : TenantContext) (commandId : Uuid) (policyVersion targetVersion : Int)
  | registerAdapterManifest (context : TenantContext) (manifest : AdapterCapabilityManifest)
  | setDemoStop (context : TenantContext) (scopeType scopeRef : String) (stopped : Bool) (reason : String)
  | setDemoControl (context : TenantContext) (commandId : Uuid) (policyVersion targetVersion : Int) (stopped : Bool)
  | prepareAttempt (context : TenantContext) (commandId : Uuid) (policyVersion targetVersion : Int)
      (adapterVersion provider connectionId : String)
  | claimAttempt (context : TenantContext) (attemptId : Uuid) (workerId : String) (expectedVersion leaseSeconds : Int)
  | beginDispatch (context : TenantContext) (attemptId : Uuid) (workerId : String) (token : Int)
  | beginReconciliation (context : TenantContext) (attemptId : Uuid) (workerId : String) (token : Int)
  | recordObservation (context : TenantContext) (attemptId : Uuid) (workerId : String) (token : Int)
      (observation : Mapping)
  | receiveInbound (context : TenantContext) (provider connectionId externalEventId : String) (schemaVersion : Int)
      (payloadDigest : String) (rawPayloadRef : Option String)
  | processInbound (context : TenantContext) (inboxId : Uuid) (expectedVersion : Int)
  | pollDemoConnection (context : TenantContext) (connection : Ingestion.Connection) (expectedVersion : Int)
      (description : Ingestion.DemoAdapterDescription) (overlapFrom : Option Timestamp)
      (listChanges : Ingestion.PollReading → Ingestion.DemoPage)
  | ingestOrder (context : TenantContext) (channelId payloadRef : String) (idempotencyKey : Option String)
  | proposeRouting (context : TenantContext) (order : Uuid) (supplierOptions : Mapping) (expectedOrderVersion : Int)
  | approveDemoPo (context : TenantContext) (purchaseId : Uuid) (approve : Bool) (reason : String)
  | regenerateDemoPo (context : TenantContext) (purchaseId : Uuid) (reason : String) (expectedPoVersion : Int)
  | submitDemoPo (context : TenantContext) (purchaseId : Uuid)
  | reconcileDemoPo (context : TenantContext) (purchaseId : Uuid) (response : Mapping)
  | requestDemoCancel (context : TenantContext) (orderId : Uuid) (reason : String) (expectedOrderVersion : Int)
  | submitDemoTool (context : TenantContext) (submission : Gateway.ToolSubmission)
  | setDemoBudgetPolicy (context : TenantContext) (dailyLimitMinor monthlyLimitMinor generationLimit agentRunLimit
      maxTokens maxToolCalls : Int) (modelTier : String)
  | recordDemoAgentRun (context : TenantContext) (request : Gateway.AgentRunRequest)
  | outbox (tenant : Uuid) (call : OutboxCall Ident OutboxKey) (own : call.action.tenant = .uuid tenant)

namespace TenantCall

/-- The tenant whose context the call has. -/
def tenant : TenantCall → Uuid
  | addMember context .. | changeMemberRoles context .. | revokeMember context .. | createCommand context ..
  | requestApproval context .. | decide context .. | supersede context .. | prepareExecution context ..
  | registerAdapterManifest context .. | setDemoStop context .. | setDemoControl context .. | prepareAttempt context ..
  | claimAttempt context .. | beginDispatch context .. | beginReconciliation context .. | recordObservation context ..
  | receiveInbound context .. | processInbound context .. | pollDemoConnection context .. | ingestOrder context ..
  | proposeRouting context .. | approveDemoPo context .. | regenerateDemoPo context .. | submitDemoPo context ..
  | reconcileDemoPo context .. | requestDemoCancel context .. | submitDemoTool context ..
  | setDemoBudgetPolicy context .. | recordDemoAgentRun context .. => context.tenantId
  | expireDueApprovals tenant .. | outbox tenant .. => tenant

def perform (env : Env) : TenantCall → Op Unit
  | addMember context email roles => quietly (Service.addMember env context email roles)
  | changeMemberRoles context userId roles => Service.changeMemberRoles env context userId roles
  | revokeMember context userId => Service.revokeMember env context userId
  | createCommand context kind targetRef payload idempotencyKey evidence =>
      quietly (Service.createCommand env context kind targetRef payload idempotencyKey evidence)
  | requestApproval context kind targetRef payload idempotencyKey policyVersion targetVersion evidence => quietly
      (Service.requestApproval env context kind targetRef payload idempotencyKey policyVersion targetVersion evidence)
  | decide context commandId approve reason => quietly (Purchasing.decide env context commandId approve reason)
  | supersede context commandId changedPayload idempotencyKey =>
      quietly (Service.supersede env context commandId changedPayload idempotencyKey)
  | expireDueApprovals tenant limit => quietly (Service.expireDueApprovals env tenant limit)
  | prepareExecution context commandId policyVersion targetVersion =>
      quietly (Service.prepareExecution env context commandId policyVersion targetVersion)
  | registerAdapterManifest context manifest => Execution.registerAdapterManifest env context manifest
  | setDemoStop context scopeType scopeRef stopped reason =>
      quietly (Execution.setDemoStop env context scopeType scopeRef stopped reason)
  | setDemoControl context commandId policyVersion targetVersion stopped =>
      Execution.setDemoControl env context commandId policyVersion targetVersion stopped
  | prepareAttempt context commandId policyVersion targetVersion adapterVersion provider connectionId => quietly
      (Execution.prepareAttempt env context commandId policyVersion targetVersion adapterVersion provider connectionId)
  | claimAttempt context attemptId workerId expectedVersion leaseSeconds =>
      quietly (Execution.claimAttempt env context attemptId workerId expectedVersion leaseSeconds)
  | beginDispatch context attemptId workerId token => quietly (Execution.beginDispatch env context attemptId workerId token)
  | beginReconciliation context attemptId workerId token =>
      quietly (Execution.beginReconciliation env context attemptId workerId token)
  | recordObservation context attemptId workerId token observation =>
      quietly (Execution.recordObservation env context attemptId workerId token observation)
  | receiveInbound context provider connectionId externalEventId schemaVersion payloadDigest rawPayloadRef =>
      quietly (Ingestion.receiveInbound env context provider connectionId externalEventId schemaVersion payloadDigest
        rawPayloadRef)
  | processInbound context inboxId expectedVersion => quietly (Ingestion.processInbound env context inboxId expectedVersion)
  | pollDemoConnection context connection expectedVersion description overlapFrom listChanges =>
      quietly (Ingestion.pollDemoConnection env context connection expectedVersion description overlapFrom listChanges)
  | ingestOrder context channelId payloadRef idempotencyKey =>
      quietly (Purchasing.ingestOrder env context channelId payloadRef idempotencyKey)
  | proposeRouting context order supplierOptions expectedOrderVersion =>
      quietly (Purchasing.proposeRouting env context order supplierOptions expectedOrderVersion)
  | approveDemoPo context purchaseId approve reason => quietly (Purchasing.approveDemoPo env context purchaseId approve reason)
  | regenerateDemoPo context purchaseId reason expectedPoVersion =>
      quietly (Purchasing.regenerateDemoPo env context purchaseId reason expectedPoVersion)
  | submitDemoPo context purchaseId => quietly (Purchasing.submitDemoPo env context purchaseId)
  | reconcileDemoPo context purchaseId response => quietly (Purchasing.reconcileDemoPo env context purchaseId response)
  | requestDemoCancel context orderId reason expectedOrderVersion =>
      quietly (Purchasing.requestDemoCancel env context orderId reason expectedOrderVersion)
  | submitDemoTool context submission => quietly (Gateway.submitDemoTool env context submission)
  | setDemoBudgetPolicy context dailyLimitMinor monthlyLimitMinor generationLimit agentRunLimit maxTokens maxToolCalls
      modelTier => quietly (Gateway.setDemoBudgetPolicy env context dailyLimitMinor monthlyLimitMinor generationLimit
        agentRunLimit maxTokens maxToolCalls modelTier)
  | recordDemoAgentRun context request => quietly (Gateway.recordDemoAgentRun env context request)
  | outbox _ call _ => quietly (outboxStep call)

end TenantCall

theorem quietly_obeys {α : Type} {operation : Op α} {R : Store → Store → Prop} (obeys : Obeys R operation) :
    Obeys R (quietly operation) := by
  intro s
  rw [quietly_session]
  exact obeys s

/-- Only a new member may add to the users. -/
theorem TenantCall.confined (call : TenantCall) :
    Obeys (Confined env call.tenant) (call.perform env) ∨
      ∃ context email roles, call = .addMember context email roles := by
  cases call with
  | addMember context email roles => exact .inr ⟨context, email, roles, rfl⟩
  | changeMemberRoles => exact .inl confined_changeMemberRoles
  | revokeMember => exact .inl confined_revokeMember
  | createCommand => exact .inl (quietly_obeys confined_createCommand)
  | requestApproval => exact .inl (quietly_obeys confined_requestApproval)
  | decide => exact .inl (quietly_obeys confined_decide)
  | supersede => exact .inl (quietly_obeys confined_supersede)
  | expireDueApprovals => exact .inl (quietly_obeys confined_expireDueApprovals)
  | prepareExecution => exact .inl (quietly_obeys confined_prepareExecution)
  | registerAdapterManifest => exact .inl Execution.confined_registerAdapterManifest
  | setDemoStop => exact .inl (quietly_obeys Execution.confined_setDemoStop)
  | setDemoControl => exact .inl Execution.confined_setDemoControl
  | prepareAttempt => exact .inl (quietly_obeys Execution.confined_prepareAttempt)
  | claimAttempt => exact .inl (quietly_obeys Execution.confined_claimAttempt)
  | beginDispatch => exact .inl (quietly_obeys Execution.confined_beginDispatch)
  | beginReconciliation => exact .inl (quietly_obeys Execution.confined_beginReconciliation)
  | recordObservation => exact .inl (quietly_obeys Execution.confined_recordObservation)
  | receiveInbound => exact .inl (quietly_obeys Ingestion.confined_receiveInbound)
  | processInbound => exact .inl (quietly_obeys Ingestion.confined_processInbound)
  | pollDemoConnection => exact .inl (quietly_obeys Ingestion.confined_pollDemoConnection)
  | ingestOrder => exact .inl (quietly_obeys confined_ingestOrder)
  | proposeRouting => exact .inl (quietly_obeys confined_proposeRouting)
  | approveDemoPo => exact .inl (quietly_obeys confined_approveDemoPo)
  | regenerateDemoPo => exact .inl (quietly_obeys confined_regenerateDemoPo)
  | submitDemoPo => exact .inl (quietly_obeys confined_submitDemoPo)
  | reconcileDemoPo => exact .inl (quietly_obeys confined_reconcileDemoPo)
  | requestDemoCancel => exact .inl (quietly_obeys confined_requestDemoCancel)
  | submitDemoTool => exact .inl (quietly_obeys Gateway.confined_submitDemoTool)
  | setDemoBudgetPolicy => exact .inl (quietly_obeys Gateway.confined_setDemoBudgetPolicy)
  | recordDemoAgentRun => exact .inl (quietly_obeys Gateway.confined_recordDemoAgentRun)
  | outbox tenant call own => exact .inl (quietly_obeys (confined_outboxStep own))

theorem TenantCall.enrolling (call : TenantCall) : Obeys (Enrolling env call.tenant) (call.perform env) := by
  rcases call.confined with confined | ⟨context, email, roles, rfl⟩
  · exact confined.mono fun _ _ stayed => stayed.enrolling
  · exact quietly_obeys enrolling_addMember

/-- A call leaves every row of the other tenants as it was, whether it returns or raises; the shared users gain at most
one row, under an identifier that no user has yet. -/
theorem tenants_isolated (env : Env) (call : TenantCall) (s : Session Store) :
    foreign call.tenant ((call.perform env).run s).2.db = foreign call.tenant s.db ∧
      ((∀ user ∈ s.db.users.rows, user.id < s.uuids) →
        ((call.perform env).run s).2.db.users = s.db.users ∨
          ∃ user, ((call.perform env).run s).2.db.users.rows = s.db.users.rows ++ [user]) := by
  refine ⟨(call.enrolling s).foreign, ?_⟩
  -- only `add_member` reaches the users, and it adds one under a new identifier
  intro drawn
  rcases call.confined with confined | ⟨context, email, roles, rfl⟩
  · exact .inl (confined s).users
  · change ((quietly (addMember env context email roles)).run s).2.db.users = _ ∨
      ∃ user, ((quietly (addMember env context email roles)).run s).2.db.users.rows = _
    rw [quietly_session]
    rcases ran : (addMember env context email roles).run s with ⟨why | result, t⟩
    · exact .inl (congrArg Store.users (transaction_error_db ran))
    · obtain ⟨row, -, joined⟩ := addMember_joined ran
      rcases joined.user with ⟨user, -, -, same⟩ | ⟨-, -, user, fresh, added⟩
      · exact .inl same
      · refine .inr ⟨user, ?_⟩
        rw [added]
        apply Table.rows_put_of_fresh
        rw [Table.get?_eq_none]
        intro other member same
        have older := drawn other member
        rw [same, fresh] at older
        exact Nat.lt_irrefl _ older

/-- Two tenants, before the master of the first enrols a second member. -/
def twoTenants : Session Store :=
  final (Members.step plainEnv) ⟨{}, 0, 0⟩
    [.bootstrapTenant "Demo" "master@demo.test", .bootstrapTenant "Other" "master@other.test"]

def enrolment : TenantCall := .addMember firstMaster "second@demo.test" [.auditor]

theorem tenants_isolated_enrolment :
    ((enrolment.perform plainEnv.toEnv).run twoTenants).2.db.users = twoTenants.db.users ∨
      ∃ user, ((enrolment.perform plainEnv.toEnv).run twoTenants).2.db.users.rows = twoTenants.db.users.rows ++ [user] :=
  (tenants_isolated plainEnv.toEnv enrolment twoTenants).2 (by decide +kernel)

/-! ## The audit trail -/

/-- An operation of a service: whatever leaves the trail alone, audits, and transactions and handlers around these. -/
inductive Made (env : Env) : {α : Type} → Op α → Prop
  | silent {α : Type} {operation : Op α} : Keeps Store.auditEvents operation → Made env operation
  | audit (tenant : Uuid) (actor : Ident) (action : String) (target : Ident) (outcome : String) (metadata : Mapping) :
      Made env (audit env tenant actor action target outcome metadata)
  | bind {α β : Type} {first : Op α} {next : α → Op β} : Made env first → (∀ value, Made env (next value)) →
      Made env (first >>= next)
  | transaction {α : Type} {body : Op α} : Made env body → Made env (transaction body)
  | caught {α : Type} {body : Op α} : Made env body → Made env (caught body)

theorem Made.extends {α : Type} {operation : Op α} (made : Made env operation) : Obeys (Extends env) operation := by
  induction made with
  | silent keeps => exact fun s => extends_of_same (keeps s)
  | audit => exact extends_audit
  | bind _ _ first_ih next_ih => exact first_ih.bind next_ih
  | transaction _ ih => exact ih.transaction
  | caught _ ih => exact ih.caught

/-- A new tenant, a call within one, or an operation of a service outside this model. -/
inductive TrailCall (env : Env) where
  | bootstrapTenant (legalName masterEmail : String)
  | within (call : TenantCall)
  | elsewhere (operation : Op Unit) (made : Made env operation)

namespace Trail

def perform : TrailCall env → Op Unit
  | .bootstrapTenant legalName masterEmail => quietly (Service.bootstrapTenant env legalName masterEmail)
  | .within call => call.perform env
  | .elsewhere operation _ => operation

def step (env : Env) (call : TrailCall env) (s : Session Store) : Except Failure Unit × Session Store := (perform call).run s

end Trail

theorem extends_bootstrapTenant {legalName masterEmail : String} :
    Obeys (Extends env) (bootstrapTenant env legalName masterEmail) := by
  have silent : ∀ change : Store → Store, (∀ db, (change db).auditEvents = db.auditEvents) →
      Obeys (Extends env) (write change : Op Unit) := fun _ same => obeys_write fun db => extends_of_same (same db)
  refine (keeps_now.obeys.bind fun _ => keeps_freshUuid.obeys.bind fun _ => keeps_freshUuid.obeys.bind fun _ => ?_).transaction
  refine Obeys.bind (silent _ fun _ => rfl) fun _ => Obeys.bind ?_ fun _ => ?_
  · exact (keeps_query _).obeys.bind fun _ => (keeps_ensure _ _).obeys.bind fun _ => silent _ fun _ => rfl
  · exact Obeys.bind (silent _ fun _ => rfl) fun _ => extends_audit.bind fun _ => (keeps_pure _).obeys

theorem step_extends (call : TrailCall env) (s : Session Store) : Extends env s.db (Trail.step env call s).2.db := by
  cases call with
  | bootstrapTenant legalName masterEmail => exact quietly_obeys extends_bootstrapTenant s
  | within call => exact (call.enrolling s).trail
  | elsewhere operation made => exact made.extends s

theorem run_extends (s : Session Store) (calls : List (TrailCall env)) :
    Extends env s.db (final (Trail.step env) s calls).db := by
  apply Library.final_relates fun first second : Session Store => Extends env first.db second.db
  · exact fun state => Std.Refl.refl state.db
  · exact fun _ _ _ first second => IsTrans.trans _ _ _ first second
  · exact fun call _ state => step_extends call state

theorem verifyAuditChain_run (tenant : Uuid) (s : Session Store) :
    (verifyAuditChain env tenant).run s = (.ok (verifyEvents env none (auditsOf tenant s.db.auditEvents)), s) := rfl

/-- The chain of every tenant verifies behind every run, and the events behind a run are where they were, unaltered,
behind each longer one. -/
theorem audit_chain_verifies (env : Env) (before after : List (TrailCall env)) :
    (∀ tenant, ((verifyAuditChain env tenant).run (final (Trail.step env) ⟨{}, 0, 0⟩ before)).1 = .ok true) ∧
      (final (Trail.step env) ⟨{}, 0, 0⟩ before).db.auditEvents <+:
        (final (Trail.step env) ⟨{}, 0, 0⟩ (before ++ after)).db.auditEvents := by
  have start : Chained env (⟨{}, 0, 0⟩ : Session Store).db := fun _ => rfl
  constructor
  · intro tenant
    have chained := (run_extends ⟨{}, 0, 0⟩ before).chained start
    rw [verifyAuditChain_run, chained tenant]
  · rw [Library.final_append]
    exact (run_extends _ after).events

end AiStore.Service
