import AiStore.Approval.Lifecycle
import AiStore.Execution.Fencing
import AiStore.Purchasing.Orders

/-! The calls that move commands and approvals, and the changes each of them makes. -/

set_option autoImplicit false

namespace AiStore.Approvals

open Library (Session Txn Table)
open Library.Txn Repository Service Purchasing
open Relation (ReflTransGen)

variable {env : Env} {s t : Session Store} {context : TenantContext}

/-! ## Operations -/

/-- What keeps the whole store only consumes readings and identifiers. -/
theorem settles_reading {α : Type} {body : Op α} (keeps : ∀ {υ : Type} (view : Store → υ), Keeps view body) :
    Settles (Change env) body := settles_of_keeps change_idles keeps

theorem keeps_verifyPo {υ : Type} (view : Store → υ) (tenant purchase : Uuid) :
    Keeps view (verifyPo env tenant purchase) := by
  have orderLines : ∀ order, Keeps view (orderLinesFor tenant order) := fun order =>
    ((keeps_query _).bind fun _ => keeps_fetch _ _).bind fun _ => keeps_query _
  refine ((keeps_query _).bind fun _ => keeps_fetch _ _).bind fun purchase => ?_
  refine (keeps_ensure _ _).bind fun _ => (keeps_fetch _ _).bind fun command => ?_
  refine ((keeps_query _).bind fun _ => keeps_fetch _ _).bind fun order => (keeps_ensure _ _).bind fun _ => ?_
  refine Keeps.bind ?_ fun expected => (keeps_getCommand _).bind fun _ => (keeps_getApprovalForCommand _).bind fun _ => ?_
  · refine (keeps_query _).bind fun _ => Keeps.bind ?_ fun _ => ?_
    · exact (orderLines _).bind fun _ => keeps_query _
    · exact (orderLines _).bind fun _ => (keeps_ofExcept _).bind fun _ => keeps_pure _
  · refine (keeps_ensure _ _).bind fun _ => (keeps_query _).bind fun _ => (keeps_fetch _ _).bind fun _ => ?_
    exact (keeps_ensure _ _).bind fun _ => keeps_pure _

theorem projectDecision_changes {purchase decided : SupplierPurchaseOrder} {command : Command} {approve : Bool}
    (ran : (projectDecision env context purchase command approve).run s = (.ok decided, t)) :
    ReflTransGen (Change env) s t := by
  simp only [projectDecision, saveInTurn, bind_eq_ok, updatePurchaseOrder_eq_ok, now_eq_ok, auditBy_eq_ok,
    publish_eq_ok, pure_eq_ok] at ran
  obtain ⟨_, _, ⟨_, -, -, -, rfl⟩, _, _, ⟨rfl, rfl⟩, _, _, rfl, _, _, ⟨-, rfl⟩, -, rfl⟩ := ran
  have silent : decidedTopic approve ∉ serviceTopics := by
    cases approve <;> decide
  refine .single (.other (quiet_published rfl rfl ?_ ?_ ?_ silent))
  · exact Nat.le_add_right _ 2
  · exact Nat.lt_succ_self _
  · exact Nat.le_add_right _ 2

theorem approveDemoPo_settles {purchase : Uuid} {approve : Bool} {reason : String} :
    Settles (Change env) (approveDemoPo env context purchase approve reason) := by
  apply Settles.bind (settles_reading fun _ => keeps_require _)
  intro _
  apply Settles.bind (settles_reading fun _ => keeps_ensure _ _)
  intro _
  apply Settles.bind
  · apply Follows.transaction change_idles
    apply Follows.bind (settles_reading fun _ => keeps_require _).follows
    intro _
    apply Follows.bind (settles_reading fun view => keeps_verifyPo view _ _).follows
    intro verified
    apply Follows.bind decideWithin_follows
    rintro ⟨_, expired⟩
    cases expired with
    | true => exact (settles_reading fun _ => keeps_pure _).follows
    | false =>
      apply Follows.bind fun _ _ _ ran => projectDecision_changes ran
      intro _
      exact (settles_reading fun _ => keeps_pure _).follows
  · intro result
    exact (settles_reading fun _ => keeps_ensure _ _).bind fun _ => settles_reading fun _ => keeps_pure _

theorem keeps_linkedPurchases {υ : Type} (view : Store → υ) (tenant : Uuid) (command : Command) :
    Keeps view (linkedPurchases tenant command) := by
  unfold linkedPurchases
  split
  · exact (((keeps_query _).bind fun _ => keeps_fetch _ _).bind fun _ => keeps_query _).bind fun _ => keeps_pure _
  · exact keeps_raise _
  · exact keeps_pure _

theorem decideUnlinked_settles {commandId : Uuid} {approve : Bool} {reason : String} :
    Settles (Change env) (decideUnlinked env context commandId approve reason) := by
  apply Settles.bind (Follows.transaction change_idles decideWithin_follows)
  intro _
  exact (settles_reading fun _ => keeps_ensure _ _).bind fun _ => settles_reading fun _ => keeps_pure _

theorem decideFound_settles {command : Command} {approve : Bool} {reason : String} :
    Settles (Change env) (decideFound env context command approve reason) := by
  apply Settles.bind (settles_reading fun view => keeps_linkedPurchases view _ _)
  intro linked
  cases linked with
  | nil => exact decideUnlinked_settles
  | cons purchase rest =>
    apply Settles.bind approveDemoPo_settles
    intro _
    exact settles_reading fun _ => keeps_getApprovalForCommand _

theorem reportBoundary_settles {why : Failure} : Settles (Change env) (reportBoundary env context why) := by
  unfold reportBoundary
  split
  · apply settles_of_returning
    intro s _ t ran
    rw [transaction_eq_ok, audit_eq_ok] at ran
    subst ran
    exact .single (.other (quiet_of_same rfl rfl ⟨Nat.le_succ _, Nat.le_add_right _ 2⟩))
  · exact settles_reading fun _ => keeps_pure _

theorem decide_settles {commandId : Uuid} {approve : Bool} {reason : String} :
    Settles (Change env) (Purchasing.decide env context commandId approve reason) := by
  apply Settles.bind (settles_reading fun _ => (keeps_getCommand _).caught)
  intro found
  cases found with
  | ok command => exact decideFound_settles
  | error why => exact reportBoundary_settles.bind fun _ => settles_reading fun _ => keeps_raise _

/-! ## Calls -/

/-- A call on the commands and approvals, or any other operation whose changes are among theirs. -/
inductive LifecycleCall (env : Env) where
  | createCommand (context : TenantContext) (kind : ApprovalKind) (targetRef : TargetRef) (payload : Mapping)
      (idempotencyKey : CommandKey) (evidence : List Mapping)
  | requestApproval (context : TenantContext) (kind : ApprovalKind) (targetRef : TargetRef) (payload : Mapping)
      (idempotencyKey : CommandKey) (policyVersion targetVersion : Int) (evidence : List Mapping)
  | decide (context : TenantContext) (commandId : Uuid) (approve : Bool) (reason : String)
  | approveDemoPo (context : TenantContext) (purchaseId : Uuid) (approve : Bool) (reason : String)
  | expireDueApprovals (tenant : Uuid) (limit : Int)
  | prepareExecution (context : TenantContext) (commandId : Uuid) (policyVersion targetVersion : Int)
  | supersede (context : TenantContext) (commandId : Uuid) (changedPayload : Mapping) (idempotencyKey : CommandKey)
  | elsewhere (operation : Op Unit) (settles : Settles (Change env) operation)

/-- The command and the approval a call returned, if it returned both. -/
abbrev LifecycleResult := Except Failure (Option (Command × Approval))

def perform : LifecycleCall env → Op (Option (Command × Approval))
  | .createCommand context kind targetRef payload idempotencyKey evidence => do
      let rows ← Service.createCommand env context kind targetRef payload idempotencyKey evidence
      pure (some rows)
  | .requestApproval context kind targetRef payload idempotencyKey policyVersion targetVersion evidence => do
      let rows ← Service.requestApproval env context kind targetRef payload idempotencyKey policyVersion targetVersion
        evidence
      pure (some rows)
  | .decide context commandId approve reason => do
      let _ ← Purchasing.decide env context commandId approve reason
      pure none
  | .approveDemoPo context purchaseId approve reason => do
      let _ ← Purchasing.approveDemoPo env context purchaseId approve reason
      pure none
  | .expireDueApprovals tenant limit => do
      let _ ← Service.expireDueApprovals env tenant limit
      pure none
  | .prepareExecution context commandId policyVersion targetVersion => do
      let _ ← Service.prepareExecution env context commandId policyVersion targetVersion
      pure none
  | .supersede context commandId changedPayload idempotencyKey => do
      let rows ← Service.supersede env context commandId changedPayload idempotencyKey
      pure (some rows)
  | .elsewhere operation _ => do
      operation
      pure none

def step (env : Env) (call : LifecycleCall env) (s : Session Store) : LifecycleResult × Session Store := (perform call).run s

/-! ## Supersession -/

/-- The three parts of a supersession: the old rows retire, a command is created or found, and it is linked. -/
structure Superseded (env : Env) (context : TenantContext) (s : Session Store) (idempotencyKey : CommandKey)
    (old : Command) (oldApproval : Approval) (replacement : Command) (approval : Approval)
    (middle t : Session Store) : Prop where
  old_found : s.db.commands.get? (context.tenantId, old.id) = some old
  old_approval_found : s.db.approvals.get? (context.tenantId, old.id) = some oldApproval
  old_open : oldApproval.state = .pending ∨ oldApproval.state = .approved
  change : ∃ payload, env.digest (commandMaterial old.kind old.targetRef payload) ≠ old.payloadDigest ∧
    (Created env context (retired s old oldApproval) old.kind old.targetRef payload idempotencyKey oldApproval.evidence
        replacement approval middle ∨
      Replayed env context (retired s old oldApproval) old.kind old.targetRef payload idempotencyKey replacement
        approval middle)
  written : ∃ row, t = ⟨{ middle.db with
    commands := middle.db.commands.put { replacement with supersedesId := some old.id }
    auditEvents := middle.db.auditEvents ++ [row] }, middle.reads + 1, middle.uuids + 2⟩

theorem supersede_superseded {commandId : Uuid} {changedPayload : Mapping} {idempotencyKey : CommandKey}
    {command : Command} {approval : Approval}
    (ran : (supersede env context commandId changedPayload idempotencyKey).run s = (.ok (command, approval), t)) :
    ∃ old oldApproval replacement middle, old.id = commandId ∧
      command = { replacement with supersedesId := some old.id } ∧
      Superseded env context s idempotencyKey old oldApproval replacement approval middle t := by
  obtain ⟨old, oldApproval, replacement, middle, row, found, approval_found, changed, open_state, created, rfl, written⟩ :=
    supersede_ok ran
  have named := congrArg Prod.snd (Table.key_of_get? found)
  change old.id = commandId at named
  subst named
  exact ⟨old, oldApproval, replacement, middle, rfl, rfl, found, approval_found, open_state,
    ⟨_, changed, (createCommand_ok created).2⟩, row, written⟩

/-- A call makes changes, or is a supersession that returns. -/
theorem step_cases (call : LifecycleCall env) (s : Session Store) :
    ReflTransGen (Change env) s (step env call s).2 ∨
      ∃ context commandId payload key old oldApproval replacement approval middle,
        call = .supersede context commandId payload key ∧ old.id = commandId ∧
        (step env call s).1 = .ok (some ({ replacement with supersedesId := some old.id }, approval)) ∧
        Superseded env context s key old oldApproval replacement approval middle (step env call s).2 := by
  have pass : ∀ {α : Type} (value : α), Settles (Change env) (pure value : Op α) := fun _ =>
    settles_reading fun _ => keeps_pure _
  cases call with
  | createCommand context kind targetRef payload idempotencyKey evidence =>
    exact .inl ((createCommand_settles.bind fun _ => pass _) s)
  | requestApproval context kind targetRef payload idempotencyKey policyVersion targetVersion evidence =>
    exact .inl ((requestApproval_settles.bind fun _ => pass _) s)
  | decide context commandId approve reason => exact .inl ((decide_settles.bind fun _ => pass _) s)
  | approveDemoPo context purchaseId approve reason => exact .inl ((approveDemoPo_settles.bind fun _ => pass _) s)
  | expireDueApprovals tenant limit => exact .inl ((expireDueApprovals_settles.bind fun _ => pass _) s)
  | prepareExecution context commandId policyVersion targetVersion =>
    exact .inl ((prepareExecution_settles.bind fun _ => pass _) s)
  | elsewhere operation settles => exact .inl ((settles.bind fun _ => pass _) s)
  | supersede context commandId payload key =>
    simp only [step, perform, run_bind]
    rcases ran : (supersede env context commandId payload key).run s with ⟨why | ⟨command, approval⟩, t⟩
    · have advances := (supersede env context commandId payload key).advances s
      rw [ran] at advances
      exact .inl (.single (change_idles _ _ (transaction_error_db ran) advances))
    · obtain ⟨old, oldApproval, replacement, middle, named, rfl, superseded⟩ := supersede_superseded ran
      exact .inr ⟨context, commandId, payload, key, old, oldApproval, replacement, approval, middle, rfl, named, rfl,
        superseded⟩

end AiStore.Approvals
