import AiStore.Approval.Calls
import AiStore.Controls.Stops
import AiStore.Gateway.Budget
import AiStore.Ingestion.Polling
import AiStore.Purchasing.Decisions
import AiStore.Purchasing.Intake
import AiStore.Purchasing.Routing
import AiStore.Tenancy.Confined

/-! Every operation with the context of a tenant is confined to it. -/

set_option autoImplicit false

namespace AiStore.Service

open Library (Session Table)
open Library.Txn Failure Repository

variable {env : Env} {context : TenantContext}

/-! ## Rows that a read returns -/

section

variable {tenant : Uuid}

theorem returned_getMembership {user : Uuid} {row : Membership} (returned : Returns (getMembership tenant user) row) :
    row.tenantId = tenant := by
  obtain ⟨s, t, ran⟩ := returned
  obtain ⟨found, -⟩ := getMembership_eq_ok.mp ran
  exact congrArg Prod.fst (Table.key_of_get? found)

theorem returned_getCommand {command : Uuid} {row : Command} (returned : Returns (getCommand tenant command) row) :
    row.tenantId = tenant := by
  obtain ⟨s, t, ran⟩ := returned
  obtain ⟨found, -⟩ := getCommand_eq_ok.mp ran
  exact congrArg Prod.fst (Table.key_of_get? found)

theorem returned_getApprovalForCommand {command : Uuid} {row : Approval}
    (returned : Returns (getApprovalForCommand tenant command) row) : row.tenantId = tenant := by
  obtain ⟨s, t, ran⟩ := returned
  obtain ⟨-, found, -⟩ := getApprovalForCommand_eq_ok.mp ran
  exact congrArg Prod.fst (Table.key_of_get? found)

theorem returned_getChannelOrder {order : Uuid} {row : ChannelOrder} (returned : Returns (getChannelOrder tenant order) row) :
    row.tenantId = tenant := by
  obtain ⟨s, t, ran⟩ := returned
  obtain ⟨found, -⟩ := getChannelOrder_eq_ok.mp ran
  exact congrArg Prod.fst (Table.key_of_get? found)

theorem returned_getPurchaseOrder {purchase : Uuid} {row : SupplierPurchaseOrder}
    (returned : Returns (getPurchaseOrder tenant purchase) row) : row.tenantId = tenant := by
  obtain ⟨s, t, ran⟩ := returned
  obtain ⟨found, -⟩ := getPurchaseOrder_eq_ok.mp ran
  exact congrArg Prod.fst (Table.key_of_get? found)

theorem returned_purchaseOrdersFor {order : Uuid} {rows : List SupplierPurchaseOrder}
    (returned : Returns (purchaseOrdersFor tenant order) rows) : ∀ row ∈ rows, row.tenantId = tenant := by
  obtain ⟨s, t, ran⟩ := returned
  obtain ⟨-, rfl, -⟩ := purchaseOrdersFor_eq_ok.mp ran
  intro row member
  have kept := (List.mem_filter.mp member).2
  exact (of_decide_eq_true kept).1

theorem returned_orderLinesFor {order : Uuid} {rows : List OrderLine} (returned : Returns (orderLinesFor tenant order) rows) :
    ∀ row ∈ rows, row.tenantId = tenant := by
  obtain ⟨s, t, ran⟩ := returned
  obtain ⟨-, rfl, -⟩ := orderLinesFor_eq_ok.mp ran
  intro row member
  have kept := (List.mem_filter.mp member).2
  exact (of_decide_eq_true kept).1

theorem returned_createCommand {kind : ApprovalKind} {targetRef : TargetRef} {payload : Mapping}
    {idempotencyKey : CommandKey} {evidence : List Mapping} {command : Command} {approval : Approval}
    (returned : Returns (createCommand env context kind targetRef payload idempotencyKey evidence) (command, approval)) :
    command.tenantId = context.tenantId := by
  obtain ⟨s, t, ran⟩ := returned
  obtain ⟨-, created | replayed⟩ := createCommand_ok ran
  · rw [created.command_eq]
    rfl
  · exact congrArg Prod.fst (Table.key_of_get? replayed.command_found)

end

/-! ## Members -/

theorem confined_changeMemberRoles {userId : Uuid} {roles : List Role} :
    Obeys (Confined env context.tenantId) (changeMemberRoles env context userId roles) := by
  refine ((keeps_require _).obeys.bind fun _ => (keeps_getMembership _).obeys.bind_returning ?_).transaction
  intro row returned
  have own := returned_getMembership returned
  refine (keeps_ensure _ _).obeys.bind fun _ => (keeps_ensure _ _).obeys.bind fun _ => ?_
  exact Obeys.bind (confined_memberships own) fun _ => confined_auditBy

theorem confined_revokeMember {userId : Uuid} :
    Obeys (Confined env context.tenantId) (revokeMember env context userId) := by
  refine ((keeps_require _).obeys.bind fun _ => (keeps_getMembership _).obeys.bind_returning ?_).transaction
  intro row returned
  have own := returned_getMembership returned
  refine (keeps_ensure _ _).obeys.bind fun _ => ?_
  exact Obeys.bind (confined_memberships own) fun _ => confined_auditBy

/-! ## Commands and approvals -/

theorem confined_createCommand {kind : ApprovalKind} {targetRef : TargetRef} {payload : Mapping}
    {idempotencyKey : CommandKey} {evidence : List Mapping} :
    Obeys (Confined env context.tenantId) (createCommand env context kind targetRef payload idempotencyKey evidence) := by
  apply Obeys.transaction
  refine (keeps_require _).obeys.bind fun _ => (keeps_ensure _ _).obeys.bind fun _ => (keeps_query _).obeys.bind ?_
  intro bound
  cases bound with
  | some existing =>
    refine Keeps.obeys ((keeps_getCommand _).bind fun _ => (keeps_ensure _ _).bind fun _ => ?_)
    exact (keeps_getApprovalForCommand _).bind fun _ => keeps_pure _
  | none =>
    refine keeps_now.obeys.bind fun _ => keeps_freshUuid.obeys.bind fun _ => keeps_freshUuid.obeys.bind fun _ => ?_
    refine Obeys.bind (confined_commands rfl) fun _ => Obeys.bind (confined_approvals rfl) fun _ => confined_bindCommandKey.bind fun _ => ?_
    exact confined_auditBy.bind fun _ => confined_publish.bind fun _ => (keeps_pure _).obeys

theorem keeps_intentDigest {υ : Type} {view : Store → υ} {command : Command} {approval : Approval}
    {policyVersion targetVersion : Int} : Keeps view (intentDigest env command approval policyVersion targetVersion) :=
  keeps_strictIntentDigest _

theorem keeps_checkIntent {υ : Type} {view : Store → υ} {command : Command} {approval : Approval}
    {intent : ApprovalIntent} : Keeps view (checkIntent env command approval intent) :=
  keeps_intentDigest.bind fun _ => keeps_ensure _ _

theorem confined_requestApproval {kind : ApprovalKind} {targetRef : TargetRef} {payload : Mapping}
    {idempotencyKey : CommandKey} {policyVersion targetVersion : Int} {evidence : List Mapping} :
    Obeys (Confined env context.tenantId)
      (requestApproval env context kind targetRef payload idempotencyKey policyVersion targetVersion evidence) := by
  apply Obeys.transaction
  refine (keeps_ensure _ _).obeys.bind fun _ => (keeps_strictIntentDigest _).obeys.bind fun _ => ?_
  refine confined_createCommand.bind ?_
  rintro ⟨command, approval⟩
  refine (keeps_strictIntentDigest _).obeys.bind fun digest => (keeps_query _).obeys.bind fun intent => ?_
  cases intent with
  | some prior =>
    exact Keeps.obeys ((keeps_ensure _ _).bind fun _ => keeps_checkIntent.bind fun _ => keeps_pure _)
  | none =>
    refine (keeps_ensure _ _).obeys.bind fun _ => keeps_intentDigest.obeys.bind fun _ => (keeps_ensure _ _).obeys.bind fun _ => ?_
    refine keeps_now.obeys.bind fun _ => Obeys.bind ?_ fun _ => (keeps_pure _).obeys
    refine (keeps_getCommand _).obeys.bind fun _ => (keeps_query _).obeys.bind fun _ => (keeps_ensure _ _).obeys.bind fun _ => ?_
    exact confined_approvalIntents rfl

theorem confined_supersede {commandId : Uuid} {changedPayload : Mapping} {idempotencyKey : CommandKey} :
    Obeys (Confined env context.tenantId) (supersede env context commandId changedPayload idempotencyKey) := by
  apply Obeys.transaction
  refine (keeps_getCommand _).obeys.bind_returning fun old old_returned => ?_
  refine (keeps_getApprovalForCommand _).obeys.bind_returning fun approval approval_returned => ?_
  refine (keeps_ensure _ _).obeys.bind fun _ => (keeps_ensure _ _).obeys.bind fun _ => ?_
  have old_own := returned_getCommand old_returned
  have approval_own := returned_getApprovalForCommand approval_returned
  refine Obeys.bind (confined_approvals approval_own) fun _ => Obeys.bind (confined_commands old_own) fun _ => ?_
  refine confined_createCommand.bind_returning ?_
  rintro ⟨command, approval⟩ returned
  have own := returned_createCommand returned
  refine Obeys.bind (confined_commands own) fun _ => ?_
  exact confined_auditBy.bind fun _ => (keeps_pure _).obeys

theorem confined_lapse {command : Command} {approval : Approval} {now : Timestamp}
    (command_own : command.tenantId = context.tenantId) (approval_own : approval.tenantId = context.tenantId) :
    Obeys (Confined env context.tenantId) (lapse env context command approval now) :=
  confined_auditBy.bind fun _ => Obeys.bind (confined_approvals approval_own) fun _ => Obeys.bind (confined_commands command_own) fun _ =>
    confined_publish.bind fun _ => (keeps_pure _).obeys

theorem confined_settle {command : Command} {approval : Approval} {approve : Bool} {reason : String} {now : Timestamp}
    (command_own : command.tenantId = context.tenantId) (approval_own : approval.tenantId = context.tenantId) :
    Obeys (Confined env context.tenantId) (settle env context command approval approve reason now) :=
  Obeys.bind (confined_approvals approval_own) fun _ => Obeys.bind (confined_commands command_own) fun _ =>
    confined_auditBy.bind fun _ => confined_publish.bind fun _ => (keeps_pure _).obeys

theorem confined_decideWithin {commandId : Uuid} {approve : Bool} {reason : String} :
    Obeys (Confined env context.tenantId) (decideWithin env context commandId approve reason) := by
  refine (keeps_ensure _ _).obeys.bind fun _ => ?_
  refine (keeps_getCommand _).obeys.bind_returning fun command command_returned => ?_
  refine (keeps_getApprovalForCommand _).obeys.bind_returning fun approval approval_returned => ?_
  refine (keeps_require _).obeys.bind fun _ => (keeps_query _).obeys.bind fun intent => Obeys.bind ?_ fun _ => ?_
  · cases intent with
    | some intent => exact keeps_checkIntent.obeys
    | none => exact (keeps_pure _).obeys
  · refine (keeps_ensure _ _).obeys.bind fun _ => keeps_now.obeys.bind fun _ => Obeys.ite ?_ ?_
    · refine Obeys.bind (confined_lapse (returned_getCommand command_returned) (returned_getApprovalForCommand approval_returned)) ?_
      exact fun _ => (keeps_pure _).obeys
    · refine Obeys.bind (confined_settle (returned_getCommand command_returned) (returned_getApprovalForCommand approval_returned)) ?_
      exact fun _ => (keeps_pure _).obeys

theorem confined_markApprovalExpired {tenant approvalId commandId : Uuid} {now : Timestamp} :
    Obeys (Confined env tenant) (markApprovalExpired tenant approvalId commandId now) := by
  refine (keeps_query _).obeys.bind fun store => ?_
  split
  · next approval command approval_found command_found =>
    have approval_own : approval.tenantId = tenant := congrArg Prod.fst (Table.key_of_get? approval_found)
    have command_own : command.tenantId = tenant := congrArg Prod.fst (Table.key_of_get? command_found)
    refine Obeys.ite (keeps_pure _).obeys ((keeps_ensure _ _).obeys.bind fun _ => ?_)
    refine Obeys.bind (confined_approvals approval_own) fun _ => Obeys.bind (confined_commands command_own) fun _ => ?_
    exact (keeps_pure _).obeys
  · exact (keeps_pure _).obeys

theorem confined_expireDueApprovals {tenant : Uuid} {limit : Int} :
    Obeys (Confined env tenant) (expireDueApprovals env tenant limit) := by
  refine (keeps_ensure _ _).obeys.bind fun _ => keeps_now.obeys.bind fun now => Obeys.transaction ?_
  refine (keeps_query _).obeys.bind fun due => (Obeys.collect due ?_).bind fun _ => (keeps_pure _).obeys
  intro approval _
  refine confined_markApprovalExpired.bind fun expired => Obeys.ite ?_ (keeps_pure _).obeys
  refine (keeps_getCommand _).obeys.bind fun _ => confined_audit.bind fun _ => ?_
  exact confined_publish.bind fun _ => (keeps_pure _).obeys

theorem keeps_executable {υ : Type} {view : Store → υ} {commandId : Uuid} {policyVersion targetVersion : Int} :
    Keeps view (executable env context commandId policyVersion targetVersion) := by
  refine keeps_membership.bind fun _ => (keeps_getCommand _).bind fun _ => (keeps_require _).bind fun _ => ?_
  refine (keeps_getApprovalForCommand _).bind fun _ => (keeps_query _).bind fun _ => (keeps_fetch _ _).bind fun _ => ?_
  refine (keeps_ensure _ _).bind fun _ => keeps_now.bind fun _ => (keeps_ensure _ _).bind fun _ => ?_
  refine (keeps_ensure _ _).bind fun _ => keeps_checkIntent.bind fun _ => (keeps_fetch _ _).bind fun _ => Keeps.bind ?_ ?_
  · exact (keeps_getMembership _).bind fun _ => (keeps_ensure _ _).bind fun _ => keeps_pure _
  · exact fun _ => (keeps_require _).bind fun _ => keeps_pure _

theorem confined_prepareExecution {commandId : Uuid} {policyVersion targetVersion : Int} :
    Obeys (Confined env context.tenantId) (prepareExecution env context commandId policyVersion targetVersion) := by
  apply Obeys.transaction
  refine keeps_executable.obeys.bind ?_
  rintro ⟨intent, now⟩
  refine (keeps_query _).obeys.bind fun prior => ?_
  cases prior with
  | some prior => exact (keeps_pure _).obeys
  | none =>
    refine keeps_freshUuid.obeys.bind fun _ => Obeys.bind ?_ fun _ => ?_
    · refine (keeps_query _).obeys.bind fun _ => (keeps_ensure _ _).obeys.bind fun _ => ?_
      refine (keeps_query _).obeys.bind fun _ => (keeps_ensure _ _).obeys.bind fun _ => ?_
      exact confined_executionPreparations rfl
    · exact confined_auditBy.bind fun _ => confined_publish.bind fun _ => (keeps_pure _).obeys

end AiStore.Service

namespace AiStore.Execution

open Library (Session Table)
open Library.Txn Failure Repository Service

variable {env : Env} {context : TenantContext}

/-! ## Controls -/

theorem returned_ensure {condition : Prop} [Decidable condition] {why : Failure} {u : Unit}
    (returned : Returns (ensure condition why : Op Unit) u) : condition := by
  obtain ⟨s, t, ran⟩ := returned
  exact ((ensure_eq_ok _ _ _ _ _).mp ran).1

theorem confined_registerAdapterManifest {manifest : AdapterCapabilityManifest} :
    Obeys (Confined env context.tenantId) (registerAdapterManifest env context manifest) := by
  apply Obeys.transaction
  refine (keeps_require _).obeys.bind fun _ => (keeps_ensure _ _).obeys.bind_returning fun _ returned => ?_
  have own : manifest.tenantId = context.tenantId := returned_ensure returned
  refine (keeps_inboundIdentifier _).obeys.bind fun _ => (keeps_inboundIdentifier _).obeys.bind fun _ => ?_
  refine (keeps_inboundIdentifier _).obeys.bind fun _ => (keeps_ensure _ _).obeys.bind fun _ => Obeys.bind ?_ fun _ => confined_audit
  exact (keeps_query _).obeys.bind fun _ => (keeps_ensure _ _).obeys.bind fun _ => confined_manifests own

theorem confined_setDemoStop {scopeType scopeRef : String} {stopped : Bool} {reason : String} :
    Obeys (Confined env context.tenantId) (setDemoStop env context scopeType scopeRef stopped reason) := by
  refine (keeps_require _).obeys.bind fun _ => (keeps_ensure _ _).obeys.bind fun _ => (keeps_ensure _ _).obeys.bind fun _ => ?_
  apply Obeys.transaction
  refine (keeps_query _).obeys.bind fun _ => keeps_now.obeys.bind fun _ => ?_
  exact Obeys.bind (confined_stopControls rfl) fun _ => confined_audit.bind fun _ => (keeps_pure _).obeys

theorem confined_setDemoControl {commandId : Uuid} {policyVersion targetVersion : Int} {stopped : Bool} :
    Obeys (Confined env context.tenantId) (setDemoControl env context commandId policyVersion targetVersion stopped) := by
  apply Obeys.transaction
  refine (keeps_require _).obeys.bind fun _ => (keeps_getCommand _).obeys.bind fun _ => (keeps_ensure _ _).obeys.bind fun _ => ?_
  refine Obeys.bind ?_ fun _ => confined_auditBy
  exact (keeps_getCommand _).obeys.bind fun _ => confined_demoControls rfl

theorem confined_gate {commandId : Uuid} {connectionId : String} :
    Obeys (Confined env context.tenantId) (gate env context commandId connectionId) := by
  refine (keeps_query _).obeys.bind fun _ => (keeps_ensure _ _).obeys.bind fun _ => ?_
  refine Obeys.bind (Keeps.obeys ((keeps_query _).bind fun _ => keeps_fetch _ _)) fun _ => (keeps_ensure _ _).obeys.bind fun _ => ?_
  exact confined_prepareExecution.bind fun _ => (keeps_pure _).obeys

/-! ## Attempts -/

theorem confined_attemptEvent {value : ExecutionAttempt} {topic : String} :
    Obeys (Confined env context.tenantId) (attemptEvent env context value topic) :=
  confined_auditBy.bind fun _ => keeps_now.obeys.bind fun _ => confined_publish

theorem confined_updateAttempt {tenant : Uuid} {row : ExecutionAttempt} {expectedVersion : Nat} (own : row.tenantId = tenant) :
    Obeys (Confined env tenant) (updateAttempt row expectedVersion) := by
  refine Obeys.bind (Keeps.obeys ((keeps_query _).bind fun _ => keeps_fetch _ _)) fun _ => ?_
  exact (keeps_ensure _ _).obeys.bind fun _ => confined_attempts own

theorem returned_getAttempt {tenant attempt : Uuid} {row : ExecutionAttempt}
    (returned : Returns (getAttempt tenant attempt) row) : row.tenantId = tenant := by
  obtain ⟨s, t, ran⟩ := returned
  obtain ⟨found, -⟩ := getAttempt_eq_ok.mp ran
  exact congrArg Prod.fst (Table.key_of_get? found)

theorem returned_leased {attemptId : Uuid} {workerId : String} {token : Int} {row : ExecutionAttempt}
    (returned : Returns (leased env context attemptId workerId token) row) : row.tenantId = context.tenantId := by
  obtain ⟨s, t, ran⟩ := returned
  obtain ⟨-, found, -⟩ := leased_eq_ok.mp ran
  exact congrArg Prod.fst (Table.key_of_get? found)

theorem confined_prepareAttempt {commandId : Uuid} {policyVersion targetVersion : Int}
    {adapterVersion provider connectionId : String} : Obeys (Confined env context.tenantId)
      (prepareAttempt env context commandId policyVersion targetVersion adapterVersion provider connectionId) := by
  apply Obeys.transaction
  refine (keeps_require _).obeys.bind fun _ => (keeps_inboundIdentifier _).obeys.bind fun _ => ?_
  refine (keeps_inboundIdentifier _).obeys.bind fun _ => (keeps_inboundIdentifier _).obeys.bind fun _ => ?_
  refine keeps_checkManifest.obeys.bind fun _ => confined_gate.bind fun _ => confined_prepareExecution.bind fun _ => ?_
  refine (keeps_strictIntentDigest _).obeys.bind fun _ => (keeps_query _).obeys.bind fun prior => ?_
  cases prior with
  | some prior => exact Keeps.obeys ((keeps_ensure _ _).bind fun _ => keeps_pure _)
  | none =>
    refine keeps_freshUuid.obeys.bind fun _ => Obeys.bind ?_ fun _ => confined_attemptEvent.bind fun _ => (keeps_pure _).obeys
    refine (keeps_query _).obeys.bind fun _ => (keeps_ensure _ _).obeys.bind fun _ => (keeps_query _).obeys.bind fun _ => ?_
    exact (keeps_query _).obeys.bind fun _ => (keeps_ensure _ _).obeys.bind fun _ => confined_attempts rfl

theorem confined_claimAttempt {attemptId : Uuid} {workerId : String} {expectedVersion leaseSeconds : Int} :
    Obeys (Confined env context.tenantId) (claimAttempt env context attemptId workerId expectedVersion leaseSeconds) := by
  apply Obeys.transaction
  refine (keeps_require _).obeys.bind fun _ => (keeps_inboundIdentifier _).obeys.bind fun _ => (keeps_ensure _ _).obeys.bind fun _ => ?_
  refine Obeys.bind_returning (Keeps.obeys ((keeps_query _).bind fun _ => keeps_fetch _ _)) fun value returned => ?_
  have own := returned_getAttempt returned
  refine keeps_now.obeys.bind fun _ => (keeps_ensure _ _).obeys.bind fun _ => (keeps_ensure _ _).obeys.bind fun _ => ?_
  refine (keeps_ensure _ _).obeys.bind fun _ => (keeps_ensure _ _).obeys.bind fun _ => ?_
  refine Obeys.bind (confined_updateAttempt own) fun _ => Obeys.bind ?_ fun _ => (keeps_pure _).obeys
  exact Obeys.ite confined_attemptEvent (keeps_pure _).obeys

theorem confined_beginDispatch {attemptId : Uuid} {workerId : String} {token : Int} :
    Obeys (Confined env context.tenantId) (beginDispatch env context attemptId workerId token) := by
  apply Obeys.transaction
  refine keeps_leased.obeys.bind_returning fun value returned => (keeps_ensure _ _).obeys.bind fun _ => ?_
  have own := returned_leased returned
  refine confined_gate.bind fun _ => (keeps_ensure _ _).obeys.bind fun _ => keeps_checkManifest.obeys.bind fun _ => ?_
  exact Obeys.bind (confined_updateAttempt own) fun _ => confined_attemptEvent.bind fun _ => (keeps_pure _).obeys

theorem confined_beginReconciliation {attemptId : Uuid} {workerId : String} {token : Int} :
    Obeys (Confined env context.tenantId) (beginReconciliation env context attemptId workerId token) := by
  apply Obeys.transaction
  refine keeps_leased.obeys.bind_returning fun value returned => (keeps_ensure _ _).obeys.bind fun _ => ?_
  have own := returned_leased returned
  exact Obeys.bind (confined_updateAttempt own) fun _ => confined_attemptEvent.bind fun _ => (keeps_pure _).obeys

theorem confined_observedState {value : ExecutionAttempt} {kind : ObservationKind} {observation : Mapping} :
    Obeys (Confined env context.tenantId) (observedState env context value kind observation) := by
  unfold observedState
  split
  · exact (keeps_pure _).obeys
  · exact (keeps_pure _).obeys
  · exact (keeps_pure _).obeys
  · refine Obeys.ite (confined_gate.caught.bind fun gated => ?_) (keeps_pure _).obeys
    cases gated with
    | ok _ => exact (keeps_pure _).obeys
    | error why => exact Obeys.ite (keeps_pure _).obeys (keeps_raise _).obeys

theorem confined_fileObservation {recorded : ExecutionAttempt} {expectedVersion : Nat} {kind : ObservationKind}
    {digest : String} (own : recorded.tenantId = context.tenantId) :
    Obeys (Confined env context.tenantId) (fileObservation env context recorded expectedVersion kind digest) := by
  refine Obeys.bind (confined_updateAttempt own) fun _ => keeps_freshUuid.obeys.bind fun _ => keeps_now.obeys.bind fun _ => ?_
  exact keeps_freshUuid.obeys.bind fun _ => Obeys.bind (confined_appendObservation rfl) fun _ => confined_attemptEvent

theorem confined_recordObservation {attemptId : Uuid} {workerId : String} {token : Int} {observation : Mapping} :
    Obeys (Confined env context.tenantId) (recordObservation env context attemptId workerId token observation) := by
  apply Obeys.transaction
  refine keeps_leased.obeys.bind_returning fun value returned => (keeps_ensure _ _).obeys.bind fun _ => ?_
  have own := returned_leased returned
  refine (keeps_strictIntentDigest _).obeys.bind fun _ => (keeps_ofExcept _).obeys.bind fun _ => ?_
  refine (keeps_ofExcept _).obeys.bind fun _ => (keeps_ofExcept _).obeys.bind fun _ => (keeps_ensure _ _).obeys.bind fun _ => ?_
  refine confined_observedState.bind fun _ => Obeys.bind ?_ fun _ => keeps_now.obeys.bind fun _ => Obeys.bind ?_ fun _ => ?_
  · exact Keeps.obeys (((keeps_query _).bind fun _ => keeps_fetch _ _).bind fun _ => keeps_query _)
  · exact Obeys.ite (keeps_now.obeys.bind fun _ => (keeps_pure _).obeys) (keeps_pure _).obeys
  · exact Obeys.bind (confined_fileObservation own) fun _ => (keeps_pure _).obeys

end AiStore.Execution

namespace AiStore.Purchasing

open Library (Session Table)
open Library.Txn Failure Repository Service

variable {env : Env} {context : TenantContext}

/-! ## Orders -/

theorem confined_ingestOrder {channelId payloadRef : String} {idempotencyKey : Option String} :
    Obeys (Confined env context.tenantId) (ingestOrder env context channelId payloadRef idempotencyKey) := by
  have loading : ∀ {υ : Type} (view : Store → υ), Keeps view (loadPayload env context payloadRef) := by
    intro υ view
    refine (keeps_require _).bind fun _ => (keeps_inboundIdentifier _).bind fun _ => Keeps.bind ?_ fun payload => ?_
    · exact (keeps_query _).bind fun _ => keeps_fetch _ _
    · refine (keeps_ensure _ _).bind fun _ => ?_
      split
      · exact keeps_pure _
      · exact keeps_raise _
  refine (keeps_require _).obeys.bind fun _ => (keeps_ofExcept _).obeys.bind fun _ => (loading id).obeys.bind fun _ => ?_
  refine (keeps_ofExcept _).obeys.bind fun _ => (keeps_ofExcept _).obeys.bind fun _ => (keeps_ofExcept _).obeys.bind fun _ => ?_
  refine (keeps_ensure _ _).obeys.bind fun _ => keeps_now.obeys.bind fun _ => Obeys.transaction ?_
  refine keeps_freshUuid.obeys.bind fun _ => Obeys.bind ?_ ?_
  · refine (keeps_query _).obeys.bind fun rows => ?_
    dsimp only
    split
    · exact Keeps.obeys ((keeps_ensure _ _).bind fun _ => keeps_pure _)
    · exact Obeys.bind (confined_channelOrders rfl) fun _ => (keeps_pure _).obeys
  · rintro ⟨order, replayed⟩
    refine Obeys.ite (keeps_pure _).obeys (Obeys.bind ?_ fun _ => ?_)
    · apply Obeys.each
      intro line _
      refine keeps_freshUuid.obeys.bind fun id => (keeps_ofExcept _).obeys.bind_returning fun row returned => ?_
      obtain ⟨s, t, ran⟩ := returned
      exact confined_orderLines (orderLine_tenant ((ofExcept_eq_ok _ _ _ _).mp ran).1)
    · exact confined_auditBy.bind fun _ => confined_publish.bind fun _ => (keeps_pure _).obeys

/-! ## Routing -/

theorem confined_updateChannelOrder {tenant : Uuid} {row : ChannelOrder} {expectedVersion : Nat} (own : row.tenantId = tenant) :
    Obeys (Confined env tenant) (updateChannelOrder row expectedVersion) :=
  (keeps_getChannelOrder _ _).obeys.bind fun _ => (keeps_ensure _ _).obeys.bind fun _ => confined_channelOrders own

theorem confined_updatePurchaseOrder {tenant : Uuid} {row : SupplierPurchaseOrder} {expectedVersion : Nat}
    (own : row.tenantId = tenant) : Obeys (Confined env tenant) (updatePurchaseOrder row expectedVersion) :=
  (keeps_getPurchaseOrder _ _).obeys.bind fun _ => (keeps_ensure _ _).obeys.bind fun _ => confined_purchaseOrders own

theorem confined_saveInTurn {tenant : Uuid} {row : SupplierPurchaseOrder} (own : row.tenantId = tenant) :
    Obeys (Confined env tenant) (saveInTurn row) := confined_updatePurchaseOrder own

theorem confined_advanceOrder {order : Uuid} {expectedOrderVersion : Int} {status : ChannelOrderState} {tenant : Uuid} :
    Obeys (Confined env tenant) (advanceOrder tenant order expectedOrderVersion status) := by
  refine (keeps_getChannelOrder _ _).obeys.bind_returning fun current returned => (keeps_ensure _ _).obeys.bind fun _ => ?_
  have own := returned_getChannelOrder returned
  exact Obeys.bind (confined_updateChannelOrder own) fun _ => (keeps_pure _).obeys

theorem confined_routeLine {selection : Selection} (own : selection.line.tenantId = context.tenantId) :
    Obeys (Confined env context.tenantId) (routeLine context.tenantId selection) := by
  refine keeps_freshUuid.obeys.bind fun _ => Obeys.bind ?_ fun _ => ?_
  · exact (keeps_query _).obeys.bind fun _ => (keeps_ensure _ _).obeys.bind fun _ => confined_routingDecisions rfl
  · refine Obeys.bind (Keeps.obeys ((keeps_query _).bind fun _ => keeps_fetch _ _)) fun _ => ?_
    exact (keeps_ensure _ _).obeys.bind fun _ => confined_orderLines own

theorem confined_purchaseFrom {order : Uuid} {targetVersion : Nat} {now : Timestamp} {selected : List Selection}
    {supplier : String} :
    Obeys (Confined env context.tenantId) (purchaseFrom env context order targetVersion now selected supplier) := by
  refine confined_requestApproval.bind ?_
  rintro ⟨command, _⟩
  refine keeps_freshUuid.obeys.bind fun _ => Obeys.bind ?_ ?_
  · refine (keeps_query _).obeys.bind fun rows => ?_
    split
    · exact Keeps.obeys ((keeps_ensure _ _).bind fun _ => keeps_pure _)
    · exact (keeps_ensure _ _).obeys.bind fun _ => Obeys.bind (confined_purchaseOrders rfl) fun _ => (keeps_pure _).obeys
  · rintro ⟨purchase, _⟩
    refine Obeys.bind (Obeys.each _ ?_) fun _ => (keeps_pure _).obeys
    exact fun _ _ => keeps_freshUuid.obeys.bind fun _ => confined_purchaseLines rfl

theorem confined_proposeRouting {order : Uuid} {supplierOptions : Mapping} {expectedOrderVersion : Int} :
    Obeys (Confined env context.tenantId) (proposeRouting env context order supplierOptions expectedOrderVersion) := by
  refine (keeps_require _).obeys.bind fun _ => (keeps_getChannelOrder _ _).obeys.bind fun _ => (keeps_ensure _ _).obeys.bind fun _ => ?_
  refine (keeps_ensure _ _).obeys.bind fun _ => (keeps_purchaseOrdersFor _ _).obeys.bind fun _ => Obeys.ite (keeps_pure _).obeys ?_
  refine (keeps_orderLinesFor _ _).obeys.bind_returning fun lines lines_returned => ?_
  refine (keeps_ofExcept _).obeys.bind_returning fun selected returned => ?_
  obtain ⟨s, t, ran⟩ := returned
  have chosen := ((ofExcept_eq_ok _ _ _ _).mp ran).1
  cases selected with
  | error sku =>
    exact (confined_advanceOrder.bind fun _ => confined_auditBy.bind fun _ => (keeps_pure _).obeys).transaction
  | ok selected =>
    refine keeps_now.obeys.bind fun now => (confined_advanceOrder.bind fun current => ?_).transaction
    refine Obeys.bind (Obeys.each _ ?_) fun _ => Obeys.bind (Obeys.collect _ fun _ _ => confined_purchaseFrom) fun _ => ?_
    · intro selection member
      apply confined_routeLine
      apply returned_orderLinesFor lines_returned
      rw [← select_lines chosen]
      exact List.mem_map_of_mem member
    · exact confined_auditBy.bind fun _ => (keeps_pure _).obeys

/-! ## Purchase orders -/

theorem confined_projectDecision {purchase : SupplierPurchaseOrder} {command : Command} {approve : Bool}
    (own : purchase.tenantId = context.tenantId) :
    Obeys (Confined env context.tenantId) (projectDecision env context purchase command approve) := by
  refine Obeys.bind (confined_saveInTurn own) fun _ => keeps_now.obeys.bind fun _ => confined_auditBy.bind fun _ => ?_
  exact confined_publish.bind fun _ => (keeps_pure _).obeys

theorem confined_approveDemoPo {purchaseId : Uuid} {approve : Bool} {reason : String} :
    Obeys (Confined env context.tenantId) (approveDemoPo env context purchaseId approve reason) := by
  refine (keeps_require _).obeys.bind fun _ => (keeps_ensure _ _).obeys.bind fun _ => Obeys.bind (Obeys.transaction ?_) ?_
  · refine (keeps_require _).obeys.bind fun _ => (Approvals.keeps_verifyPo id _ _).obeys.bind_returning ?_
    rintro ⟨purchase, command⟩ returned
    obtain ⟨s, t, ran⟩ := returned
    have own : purchase.tenantId = context.tenantId := congrArg Prod.fst (Table.key_of_get? (verifyPo_ok ran).2.1)
    refine confined_decideWithin.bind ?_
    rintro ⟨_, expired⟩
    refine Obeys.ite (keeps_pure _).obeys ?_
    exact Obeys.bind (confined_projectDecision own) fun _ => (keeps_pure _).obeys
  · exact fun _ => Keeps.obeys ((keeps_ensure _ _).bind fun _ => keeps_pure _)

theorem confined_decide {commandId : Uuid} {approve : Bool} {reason : String} :
    Obeys (Confined env context.tenantId) (decide env context commandId approve reason) := by
  refine (keeps_getCommand _).caught.obeys.bind fun found => ?_
  cases found with
  | ok command =>
    refine (Approvals.keeps_linkedPurchases id _ _).obeys.bind fun linked => ?_
    cases linked with
    | nil => exact confined_decideWithin.transaction.bind fun _ => Keeps.obeys ((keeps_ensure _ _).bind fun _ => keeps_pure _)
    | cons purchase rest => exact confined_approveDemoPo.bind fun _ => (keeps_getApprovalForCommand _).obeys
  | error why =>
    refine Obeys.bind (Obeys.ite ?_ (keeps_pure _).obeys) fun _ => (keeps_raise _).obeys
    exact confined_audit.transaction

theorem confined_regenerateDemoPo {purchaseId : Uuid} {reason : String} {expectedPoVersion : Int} :
    Obeys (Confined env context.tenantId) (regenerateDemoPo env context purchaseId reason expectedPoVersion) := by
  refine (keeps_require _).obeys.bind fun _ => (keeps_ensure _ _).obeys.bind fun _ => Obeys.transaction ?_
  refine (keeps_getPurchaseOrder _ _).obeys.bind_returning fun purchase returned => (keeps_ensure _ _).obeys.bind fun _ => ?_
  have own := returned_getPurchaseOrder returned
  refine (keeps_getChannelOrder _ _).obeys.bind fun _ => (keeps_ensure _ _).obeys.bind fun _ => (keeps_fetch _ _).obeys.bind fun _ => ?_
  refine (keeps_getApprovalForCommand _).obeys.bind fun _ => (keeps_renewable _ _).obeys.bind fun _ => ?_
  refine (keeps_ensure _ _).obeys.bind fun _ => (keeps_routedPayload _ _ _).obeys.bind fun _ => confined_requestApproval.bind ?_
  rintro ⟨command, _⟩
  refine Obeys.bind (confined_updatePurchaseOrder own) fun _ => keeps_now.obeys.bind fun _ => confined_auditBy.bind fun _ => ?_
  exact confined_publish.bind fun _ => (keeps_pure _).obeys

theorem confined_submitDemoPo {purchaseId : Uuid} :
    Obeys (Confined env context.tenantId) (submitDemoPo env context purchaseId) := by
  refine (keeps_require _).obeys.bind fun _ => Obeys.transaction ?_
  refine (keeps_getPurchaseOrder _ _).obeys.bind_returning fun purchase returned => (keeps_ensure _ _).obeys.bind fun _ => ?_
  have own := returned_getPurchaseOrder returned
  refine (keeps_fetch _ _).obeys.bind fun _ => (keeps_getChannelOrder _ _).obeys.bind fun _ => (keeps_query _).obeys.bind fun _ => ?_
  refine (keeps_ensure _ _).obeys.bind fun _ => (keeps_getCommand _).obeys.bind fun _ => (keeps_getApprovalForCommand _).obeys.bind fun _ => ?_
  refine (keeps_query _).obeys.bind fun _ => keeps_now.obeys.bind fun _ => (keeps_ensure _ _).obeys.bind fun _ => ?_
  refine (keeps_fetch _ _).obeys.bind fun _ => confined_prepareExecution.bind fun _ => ?_
  refine Obeys.bind (confined_saveInTurn own) fun _ => confined_auditBy.bind fun _ => ?_
  exact confined_publish.bind fun _ => (keeps_pure _).obeys

theorem confined_reconcileDemoPo {purchaseId : Uuid} {response : Mapping} :
    Obeys (Confined env context.tenantId) (reconcileDemoPo env context purchaseId response) := by
  refine (keeps_require _).obeys.bind fun _ => (keeps_ensure _ _).obeys.bind fun _ => (keeps_fetch _ _).obeys.bind fun _ => ?_
  refine (keeps_ofExcept _).obeys.bind fun _ => (keeps_ofExcept _).obeys.bind fun _ => Obeys.bind ?_ fun _ => Obeys.transaction ?_
  · unfold readPoObserved
    split
    · exact keeps_now.obeys
    · exact keeps_now.obeys
    · exact (keeps_pure _).obeys
    · exact (keeps_raise _).obeys
  · refine (keeps_getPurchaseOrder _ _).obeys.bind_returning fun purchase returned => (keeps_ensure _ _).obeys.bind fun _ => ?_
    have own := returned_getPurchaseOrder returned
    refine Obeys.ite (keeps_pure _).obeys ((keeps_ensure _ _).obeys.bind fun _ => Obeys.ite (keeps_pure _).obeys ?_)
    refine Obeys.bind (Obeys.bind (confined_saveInTurn own) fun _ => ?_) fun _ => (keeps_pure _).obeys
    exact confined_auditBy.bind fun _ => confined_publish.bind fun _ => (keeps_pure _).obeys

theorem confined_cancelPurchase {tenant : Uuid} {reason : String} {now : Timestamp} {purchase : SupplierPurchaseOrder}
    (own : purchase.tenantId = tenant) : Obeys (Confined env tenant) (cancelPurchase tenant reason now purchase) := by
  refine Obeys.ite (confined_saveInTurn own) (Obeys.ite ?_ (keeps_pure _).obeys)
  exact Obeys.bind (confined_saveInTurn own) fun _ => confined_publish

theorem confined_requestDemoCancel {orderId : Uuid} {reason : String} {expectedOrderVersion : Int} :
    Obeys (Confined env context.tenantId) (requestDemoCancel env context orderId reason expectedOrderVersion) := by
  refine (keeps_require _).obeys.bind fun _ => (keeps_ensure _ _).obeys.bind fun _ => Obeys.transaction ?_
  refine (keeps_getChannelOrder _ _).obeys.bind_returning fun order returned => Obeys.ite (keeps_pure _).obeys ?_
  have own := returned_getChannelOrder returned
  refine Obeys.bind ?_ fun _ => (keeps_pure _).obeys
  refine (keeps_ensure _ _).obeys.bind fun _ => (keeps_purchaseOrdersFor _ _).obeys.bind_returning fun purchases listed => ?_
  refine Obeys.bind (confined_updateChannelOrder own) fun _ => keeps_now.obeys.bind fun _ => Obeys.bind (Obeys.each _ ?_) ?_
  · intro purchase member
    exact confined_cancelPurchase (returned_purchaseOrdersFor listed purchase member)
  · exact fun _ => confined_auditBy.bind fun _ => confined_publish.bind fun _ => (keeps_pure _).obeys

end AiStore.Purchasing

namespace AiStore.Ingestion

open Library (Session Table)
open Library.Txn Failure Repository Service

variable {env : Env} {context : TenantContext}

/-! ## Receipts -/

theorem confined_receiveInbox {tenant : Uuid} {message : InboxMessage} (own : message.tenantId = tenant) :
    Obeys (Confined env tenant) (receiveInbox message) := by
  apply Obeys.transaction
  refine (keeps_query _).obeys.bind fun rows => ?_
  split
  · exact Keeps.obeys ((keeps_ensure _ _).bind fun _ => keeps_pure _)
  · refine (keeps_query _).obeys.bind fun _ => (keeps_ensure _ _).obeys.bind fun _ => (keeps_query _).obeys.bind fun _ => ?_
    exact (keeps_ensure _ _).obeys.bind fun _ => Obeys.bind (confined_inbox own) fun _ => (keeps_pure _).obeys

/-- A message that is returned belongs to the tenant it was sent to. -/
theorem returned_receiveInbox {sent message : InboxMessage} {replayed : Bool}
    (returned : Returns (receiveInbox sent) (message, replayed)) : message.tenantId = sent.tenantId := by
  obtain ⟨s, t, ran⟩ := returned
  rw [receiveInbox, transaction_eq_ok] at ran
  simp only [inboxFor, bind_eq_ok, query_eq_ok] at ran
  obtain ⟨rows, _, ⟨rfl, rfl⟩, ran⟩ := ran
  split at ran
  · next prior found =>
    simp only [bind_eq_ok, ensure_eq_ok, pure_eq_ok, Prod.mk.injEq] at ran
    obtain ⟨_, _, -, ⟨rfl, -⟩, -⟩ := ran
    exact of_decide_eq_true (List.mem_filter.mp (List.mem_of_find?_eq_some found)).2
  · simp only [bind_eq_ok, query_eq_ok, ensure_eq_ok, write_eq_ok, pure_eq_ok, Prod.mk.injEq] at ran
    obtain ⟨_, _, -, _, _, -, _, _, -, _, _, -, _, _, -, ⟨rfl, -⟩, -⟩ := ran
    rfl

theorem confined_inboxOutbox {message : InboxMessage} {topic suffix : String} {now : Timestamp}
    (own : message.tenantId = context.tenantId) :
    Obeys (Confined env context.tenantId) (inboxOutbox message topic suffix now) := by
  unfold inboxOutbox
  rw [own]
  exact confined_publish

theorem confined_receiveInbound {provider connectionId externalEventId : String} {schemaVersion : Int}
    {payloadDigest : String} {rawPayloadRef : Option String} : Obeys (Confined env context.tenantId)
      (receiveInbound env context provider connectionId externalEventId schemaVersion payloadDigest rawPayloadRef) := by
  apply Obeys.transaction
  refine (keeps_require _).obeys.bind fun _ => (keeps_inboundIdentifier _).obeys.bind fun _ => ?_
  refine (keeps_inboundIdentifier _).obeys.bind fun _ => (keeps_inboundIdentifier _).obeys.bind fun _ => ?_
  refine (keeps_ensure _ _).obeys.bind fun _ => (keeps_ensure _ _).obeys.bind fun _ => (keeps_ensure _ _).obeys.bind fun _ => ?_
  refine Obeys.bind (Keeps.obeys ((keeps_query _).bind fun _ => keeps_fetch _ _)) fun _ => (keeps_ensure _ _).obeys.bind fun _ => ?_
  refine keeps_now.obeys.bind fun _ => keeps_freshUuid.obeys.bind fun _ => Obeys.bind_returning (confined_receiveInbox rfl) ?_
  rintro ⟨message, replayed⟩ returned
  have own : message.tenantId = context.tenantId := returned_receiveInbox returned
  refine Obeys.ite (keeps_pure _).obeys (Obeys.bind ?_ fun _ => (keeps_pure _).obeys)
  exact confined_auditBy.bind fun _ => confined_inboxOutbox own

theorem returned_getInbox {tenant message : Uuid} {row : InboxMessage} (returned : Returns (getInbox tenant message) row) :
    row.tenantId = tenant := by
  obtain ⟨s, t, ran⟩ := returned
  simp only [getInbox, bind_eq_ok, query_eq_ok, fetch_eq_ok] at ran
  obtain ⟨_, _, ⟨rfl, rfl⟩, found, -⟩ := ran
  exact congrArg Prod.fst (Table.key_of_get? found)

theorem returned_markInboxProcessed {tenant message : Uuid} {expectedVersion : Int} {processedAt : Timestamp}
    {row : InboxMessage} (returned : Returns (markInboxProcessed tenant message expectedVersion processedAt) row) :
    row.tenantId = tenant := by
  obtain ⟨s, t, ran⟩ := returned
  rw [markInboxProcessed, transaction_eq_ok] at ran
  simp only [bind_eq_ok, ensure_eq_ok, write_eq_ok, pure_eq_ok] at ran
  obtain ⟨value, middle, found, _, _, -, _, _, -, rfl, -⟩ := ran
  have own : value.tenantId = tenant := returned_getInbox ⟨s, middle, found⟩
  exact own

theorem confined_processInbound {inboxId : Uuid} {expectedVersion : Int} :
    Obeys (Confined env context.tenantId) (processInbound env context inboxId expectedVersion) := by
  apply Obeys.transaction
  refine (keeps_require _).obeys.bind fun _ => (keeps_ensure _ _).obeys.bind fun _ => Obeys.bind ?_ fun message => ?_
  · exact Keeps.obeys ((keeps_query _).bind fun _ => keeps_fetch _ _)
  · refine Obeys.ite (keeps_pure _).obeys (keeps_now.obeys.bind fun now => Obeys.bind_returning ?_ fun processed returned => ?_)
    · apply Obeys.transaction
      refine Obeys.bind_returning (Keeps.obeys ((keeps_query _).bind fun _ => keeps_fetch _ _)) fun value returned => ?_
      have own : value.tenantId = context.tenantId := returned_getInbox returned
      refine (keeps_ensure _ _).obeys.bind fun _ => Obeys.bind (confined_inbox own) fun _ => (keeps_pure _).obeys
    · have own : processed.tenantId = context.tenantId := returned_markInboxProcessed returned
      refine Obeys.bind (confined_inboxOutbox own) fun _ => confined_auditBy.bind fun _ => (keeps_pure _).obeys

/-! ## Polling -/

theorem keeps_supportedManifest {υ : Type} {view : Store → υ} {connection : Connection}
    {description : DemoAdapterDescription} : Keeps view (supportedManifest context connection description) :=
  ((keeps_query _).bind fun _ => keeps_fetch _ _).bind fun _ => keeps_ensure _ _

theorem confined_ingestItem {connection : Connection} {now : Timestamp} {item : NormalizedItem} :
    Obeys (Confined env context.tenantId) (ingestItem env context connection now item) := by
  refine Obeys.bind ?_ fun _ => confined_receiveInbound
  refine (keeps_query _).obeys.bind fun prior => ?_
  cases prior with
  | some prior => exact Keeps.obeys ((keeps_ensure _ _).bind fun _ => keeps_pure _)
  | none => exact Obeys.bind (confined_normalizedPayloads rfl) fun _ => (keeps_pure _).obeys

theorem confined_pollDemoConnection {connection : Connection} {expectedVersion : Int}
    {description : DemoAdapterDescription} {overlapFrom : Option Timestamp} {listChanges : PollReading → DemoPage} :
    Obeys (Confined env context.tenantId)
      (pollDemoConnection env context connection expectedVersion description overlapFrom listChanges) := by
  refine Obeys.bind ?_ fun reading => ?_
  · refine (keeps_require _).obeys.bind fun _ => (keeps_ensure _ _).obeys.bind fun _ => (keeps_ensure _ _).obeys.bind fun _ => ?_
    refine (keeps_ensure _ _).obeys.bind fun _ => keeps_supportedManifest.obeys.bind fun _ => (keeps_query _).obeys.bind fun _ => ?_
    exact Keeps.obeys ((keeps_ensure _ _).bind fun _ => keeps_pure _)
  · refine (keeps_ofExcept _).obeys.bind fun _ => (keeps_ofExcept _).obeys.bind fun items => keeps_now.obeys.bind fun now => ?_
    apply Obeys.transaction
    refine (keeps_require _).obeys.bind fun _ => keeps_supportedManifest.obeys.bind fun _ => (keeps_query _).obeys.bind fun _ => ?_
    refine (keeps_ensure _ _).obeys.bind fun _ => Obeys.bind (Obeys.collect _ fun _ _ => confined_ingestItem) fun _ => ?_
    refine Obeys.bind ?_ fun _ => (keeps_pure _).obeys
    refine (keeps_query _).obeys.bind fun _ => (keeps_ensure _ _).obeys.bind fun _ => ?_
    exact Obeys.bind (confined_pollCheckpoints rfl) fun _ => (keeps_pure _).obeys

end AiStore.Ingestion

namespace AiStore.Gateway

open Library (Session Table)
open Library.Txn Failure Repository Service

variable {env : Env} {context : TenantContext}

/-! ## Tools -/

theorem confined_judge {submission : ToolSubmission} :
    Obeys (Confined env context.tenantId) (judge env context submission) := by
  have validating : ∀ approvalId,
      Obeys (Confined env context.tenantId) (validatedToolApproval env context submission approvalId) := by
    intro approvalId
    refine keeps_matchedApproval.obeys.bind fun _ => (keeps_query _).obeys.bind fun _ => (keeps_ensure _ _).obeys.bind fun _ => ?_
    exact confined_prepareExecution.bind fun _ => Keeps.obeys ((keeps_ensure _ _).bind fun _ => keeps_pure _)
  refine (keeps_query _).obeys.bind fun stopped => Obeys.ite (keeps_pure _).obeys (Obeys.ite ?_ (keeps_pure _).obeys)
  split
  · exact (keeps_pure _).obeys
  · next approvalId _ =>
    refine (validating approvalId).caught.bind fun validated => ?_
    cases validated with
    | ok approved => exact (keeps_pure _).obeys
    | error why => exact Obeys.ite (keeps_pure _).obeys (keeps_raise _).obeys

theorem returned_saveToolCommand {sent value : DemoToolCommand} {replayed : Bool}
    (returned : Returns (saveToolCommand sent) (value, replayed)) : value.tenantId = sent.tenantId := by
  obtain ⟨s, t, ran⟩ := returned
  simp only [saveToolCommand, toolCommandsFor, bind_eq_ok, query_eq_ok] at ran
  obtain ⟨rows, _, ⟨rfl, rfl⟩, ran⟩ := ran
  split at ran
  · next prior found =>
    simp only [bind_eq_ok, ensure_eq_ok, pure_eq_ok, Prod.mk.injEq] at ran
    obtain ⟨_, _, -, ⟨rfl, -⟩, -⟩ := ran
    exact of_decide_eq_true (List.mem_filter.mp (List.mem_of_find?_eq_some found)).2
  · simp only [bind_eq_ok, write_eq_ok, pure_eq_ok, Prod.mk.injEq] at ran
    obtain ⟨_, _, -, ⟨rfl, -⟩, -⟩ := ran
    rfl

theorem confined_submitDemoTool {submission : ToolSubmission} :
    Obeys (Confined env context.tenantId) (submitDemoTool env context submission) := by
  have opaqueChecks : ∀ approvalId, Keeps id (opaqueApproval approvalId) := by
    intro approvalId
    unfold opaqueApproval
    split
    · exact keeps_ensure _ _
    · exact keeps_pure _
    · exact keeps_pure _
  refine (keeps_require _).obeys.bind fun _ => (keeps_ensure _ _).obeys.bind fun _ => (keeps_ensure _ _).obeys.bind fun _ => ?_
  refine (keeps_ensure _ _).obeys.bind fun _ => (keeps_ensure _ _).obeys.bind fun _ => (opaqueChecks _).obeys.bind fun _ => ?_
  refine (keeps_encode _ _).obeys.bind fun _ => Obeys.transaction (confined_judge.bind fun verdict => ?_)
  refine Obeys.bind ?_ fun _ => (keeps_pure _).obeys
  refine keeps_freshUuid.obeys.bind fun _ => keeps_now.obeys.bind fun _ => Obeys.bind_returning ?_ ?_
  · refine (keeps_query _).obeys.bind fun rows => ?_
    split
    · exact Keeps.obeys ((keeps_ensure _ _).bind fun _ => keeps_pure _)
    · exact Obeys.bind (confined_toolCommands rfl) fun _ => (keeps_pure _).obeys
  · rintro ⟨value, replay⟩ returned
    have own : value.tenantId = context.tenantId := returned_saveToolCommand returned
    refine Obeys.ite (keeps_pure _).obeys (confined_auditBy.bind fun _ => Obeys.bind ?_ fun _ => (keeps_pure _).obeys)
    unfold dispatchTool
    split
    · rw [own]
      exact Obeys.ite confined_publish (keeps_pure _).obeys
    · exact (keeps_pure _).obeys

/-! ## Budgets -/

theorem confined_setDemoBudgetPolicy {dailyLimitMinor monthlyLimitMinor generationLimit agentRunLimit maxTokens
    maxToolCalls : Int} {modelTier : String} : Obeys (Confined env context.tenantId)
      (setDemoBudgetPolicy env context dailyLimitMinor monthlyLimitMinor generationLimit agentRunLimit maxTokens
        maxToolCalls modelTier) := by
  refine (keeps_require _).obeys.bind fun _ => (keeps_ensure _ _).obeys.bind fun _ => Obeys.transaction ?_
  refine (keeps_query _).obeys.bind fun _ => Obeys.bind (confined_budgetPolicies rfl) fun _ => ?_
  exact confined_auditBy.bind fun _ => (keeps_pure _).obeys

theorem keeps_entryForKey {υ : Type} {view : Store → υ} {tenant : Uuid} {idempotencyKey : String} :
    Keeps view (entryForKey tenant idempotencyKey) := (keeps_query _).bind fun _ => keeps_pure _

theorem confined_saveBudgetEntry {tenant : Uuid} {value : DemoBudgetLedgerEntry} (own : value.tenantId = tenant) :
    Obeys (Confined env tenant) (saveBudgetEntry value) := by
  refine (keeps_ensure _ _).obeys.bind fun _ => keeps_entryForKey.obeys.bind fun prior => ?_
  cases prior with
  | some prior => exact Keeps.obeys ((keeps_ensure _ _).bind fun _ => keeps_pure _)
  | none => exact Obeys.bind (confined_budgetLedger own) fun _ => (keeps_pure _).obeys

theorem confined_chargeRun {tenant : Uuid} {run : DemoAgentRun} {idempotencyKey : String} (own : run.tenantId = tenant) :
    Obeys (Confined env tenant) (chargeRun run idempotencyKey) := by
  refine Obeys.ite (keeps_freshUuid.obeys.bind fun _ => Obeys.bind ?_ fun _ => (keeps_pure _).obeys) (keeps_pure _).obeys
  refine (keeps_ensure _ _).obeys.bind fun _ => Obeys.transaction (keeps_entryForKey.obeys.bind fun prior => ?_)
  cases prior with
  | some prior => exact confined_saveBudgetEntry own
  | none =>
    refine Obeys.bind (Keeps.obeys ((keeps_query _).bind fun _ => keeps_pure _)) fun _ => (keeps_ensure _ _).obeys.bind fun _ => ?_
    exact confined_saveBudgetEntry own

theorem keeps_decideRun {υ : Type} {view : Store → υ} {tenant : Uuid} {request : AgentRunRequest} {now : Timestamp} :
    Keeps view (decideRun tenant request now) := by
  refine (keeps_query _).bind fun _ => (keeps_fetch _ _).bind fun _ => (keeps_ensure _ _).bind fun _ => ?_
  refine (keeps_query _).bind fun _ => (keeps_query _).bind fun _ => Keeps.bind ?_ fun _ => keeps_pure _
  exact Keeps.caught (((keeps_query _).bind fun _ => keeps_pure _).bind fun _ => keeps_pure _)

theorem confined_recordDemoAgentRun {request : AgentRunRequest} :
    Obeys (Confined env context.tenantId) (recordDemoAgentRun env context request) := by
  refine (keeps_require _).obeys.bind fun _ => (keeps_ensure _ _).obeys.bind fun _ => (keeps_ensure _ _).obeys.bind fun _ => ?_
  refine (keeps_ensure _ _).obeys.bind fun _ => (keeps_ensure _ _).obeys.bind fun _ => (keeps_ensure _ _).obeys.bind fun _ => ?_
  refine (keeps_encode _ _).obeys.bind fun _ => (keeps_encode _ _).obeys.bind fun _ => (keeps_digestOf _).obeys.bind fun _ => ?_
  refine (keeps_digestOf _).obeys.bind fun _ => keeps_now.obeys.bind fun now => Obeys.transaction (Obeys.bind ?_ fun prior => ?_)
  · refine Keeps.obeys ((keeps_ensure _ _).bind fun _ => ((keeps_query _).bind fun found => ?_).transaction)
    cases found with
    | some request => exact (keeps_ensure _ _).bind fun _ => keeps_pure _
    | none => exact (keeps_query _).bind fun _ => (keeps_ensure _ _).bind fun _ => keeps_pure _
  · cases prior with
    | some prior => exact Keeps.obeys ((keeps_query _).bind fun _ => keeps_fetch _ _)
    | none =>
      refine keeps_decideRun.obeys.bind fun outcome => keeps_freshUuid.obeys.bind fun id => ?_
      refine Obeys.bind (confined_agentRuns rfl) fun _ => Obeys.bind ?_ fun _ => Obeys.bind (confined_chargeRun rfl) fun _ => ?_
      · refine (keeps_ensure _ _).obeys.bind fun _ => Obeys.transaction ((keeps_query _).obeys.bind fun found => ?_)
        cases found with
        | some prior => exact Keeps.obeys ((keeps_ensure _ _).bind fun _ => keeps_pure _)
        | none =>
          refine Obeys.bind (Keeps.obeys ((keeps_query _).bind fun _ => keeps_fetch _ _)) fun _ => ?_
          exact Obeys.bind (confined_budgetRequests rfl) fun _ => (keeps_pure _).obeys
      · exact confined_auditBy.bind fun _ => (keeps_pure _).obeys

end AiStore.Gateway

/-! ## The outbox -/

namespace AiStore.Service

open Library.Txn Failure Repository

/-- An outbox call of a worker, on the outbox of the store. -/
def outboxStep (call : OutboxCall Ident OutboxKey) : Op (Option (OutboxEvent Ident OutboxKey)) := do
  let box ← query Store.outbox
  let (event, after) ← ofExcept (InMemoryRepository.perform call box)
  write fun store => { store with outbox := after }
  pure event

theorem confined_outboxStep {env : Env} {tenant : Uuid} {call : OutboxCall Ident OutboxKey}
    (own : call.action.tenant = .uuid tenant) : Obeys (Confined env tenant) (outboxStep call) := by
  apply obeys_of_returning
  · refine Unwinds.bind (keeps_query _) fun box => Unwinds.bind (keeps_ofExcept _) ?_
    rintro ⟨event, after⟩
    intro s why t raised
    cases raised
  · intro s event t ran
    simp only [outboxStep, bind_eq_ok, query_eq_ok, ofExcept_eq_ok, write_eq_ok, pure_eq_ok] at ran
    obtain ⟨_, start, ⟨rfl, same⟩, ⟨found, after⟩, _, ⟨performed, rfl⟩, _, _, rfl, rfl, rfl⟩ := ran
    rw [same]
    have stepped : (InMemoryRepository.step call s.db.outbox).2 = after := by
      rw [InMemoryRepository.step, performed]
      rfl
    have kept : othersOutbox tenant after = othersOutbox tenant s.db.outbox := by
      rw [← stepped]
      rcases InMemoryRepository.step_cases call s.db.outbox with
        same | ⟨event, action, same⟩ | ⟨id, event, delivery, bound, same⟩ <;> rw [same]
      · have named : event.tenantId = .uuid tenant := by
          rw [action] at own
          exact own
        rw [named, othersOutbox_bindKey, othersOutbox_put named]
      · rw [own] at bound
        have named := ((s.db.outbox.find_eq_some _ _ _).mp bound).2.1
        exact othersOutbox_put named
    exact confined_outbox kept

end AiStore.Service
