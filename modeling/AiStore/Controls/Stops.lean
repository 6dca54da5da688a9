import AiStore.Gateway.ToolRuns
import AiStore.Purchasing.Frames

/-! Stop controls over whole runs: what a stop holds back, in attempts, tools and purchases. -/

set_option autoImplicit false

namespace AiStore.Controls

open Library (Session Table final)
open Library.Txn Failure Repository Service Execution Gateway Purchasing

variable {env : Env} {s t : Session Store} {context : TenantContext}

/-! ## Gates -/

/-- What passes the gate is not stopped. -/
theorem gate_unstopped {commandId : Uuid} {connectionId : String} {preparation : ExecutionPreparation}
    (ran : (gate env context commandId connectionId).run s = (.ok preparation, t)) :
    ¬ Stopped context.tenantId s.db (some connectionId) := by
  simp only [gate, demoStopActive, bind_eq_ok, query_eq_ok, ensure_eq_ok] at ran
  obtain ⟨_, _, ⟨rfl, rfl⟩, _, _, ⟨unstopped, rfl⟩, -⟩ := ran
  exact of_decide_eq_false unstopped

theorem beginDispatch_unstopped {attemptId : Uuid} {workerId : String} {token : Int} {result : ExecutionAttempt}
    (ran : (beginDispatch env context attemptId workerId token).run s = (.ok result, t)) :
    ¬ Stopped context.tenantId s.db (some result.connectionId) := by
  rw [beginDispatch, transaction_eq_ok] at ran
  simp only [bind_eq_ok, leased_eq_ok, ensure_eq_ok, pure_eq_ok] at ran
  obtain ⟨row, _, ⟨-, -, -, rfl⟩, _, _, ⟨-, rfl⟩, _, _, gated, _, _, -, _, _, -, _, _, -, _, _, -, rfl, -⟩ := ran
  have unstopped := gate_unstopped gated
  exact unstopped

/-! ## Attempts -/

/-- The tables beside the attempts. -/
def besideAttempts (db : Store) := (db.commands, db.commandIdempotency, db.toolCommands, db.purchaseOrders)

theorem keeps_getAttempt {υ : Type} {view : Store → υ} {tenant attempt : Uuid} :
    Keeps view (getAttempt tenant attempt) := (keeps_query _).bind fun _ => keeps_fetch _ _

theorem keeps_updateAttempt {row : ExecutionAttempt} {expectedVersion : Nat} :
    Keeps besideAttempts (updateAttempt row expectedVersion) :=
  keeps_getAttempt.bind fun _ => (keeps_ensure _ _).bind fun _ => keeps_write fun _ => rfl

theorem keeps_attemptEvent {value : ExecutionAttempt} {topic : String} :
    Keeps besideAttempts (attemptEvent env context value topic) :=
  (keeps_auditBy fun _ _ => rfl).bind fun _ => keeps_now.bind fun _ => keeps_publish fun _ _ => rfl

theorem keeps_claimAttempt {attemptId : Uuid} {workerId : String} {expectedVersion leaseSeconds : Int} :
    Keeps besideAttempts (claimAttempt env context attemptId workerId expectedVersion leaseSeconds) := by
  apply Keeps.transaction
  refine (keeps_require _).bind fun _ => (keeps_inboundIdentifier _).bind fun _ => (keeps_ensure _ _).bind fun _ => ?_
  refine keeps_getAttempt.bind fun value => keeps_now.bind fun _ => (keeps_ensure _ _).bind fun _ => ?_
  refine (keeps_ensure _ _).bind fun _ => (keeps_ensure _ _).bind fun _ => (keeps_ensure _ _).bind fun _ => ?_
  exact keeps_updateAttempt.bind fun _ => Keeps.bind (keeps_attemptEvent.ite (keeps_pure _)) fun _ => keeps_pure _

theorem keeps_beginDispatch {attemptId : Uuid} {workerId : String} {token : Int} :
    Keeps besideAttempts (beginDispatch env context attemptId workerId token) := by
  apply Keeps.transaction
  refine keeps_leased.bind fun value => (keeps_ensure _ _).bind fun _ => ?_
  refine (keeps_gate fun _ _ _ _ => rfl).bind fun _ => (keeps_ensure _ _).bind fun _ => ?_
  exact keeps_checkManifest.bind fun _ => keeps_updateAttempt.bind fun _ => keeps_attemptEvent.bind fun _ => keeps_pure _

theorem keeps_beginReconciliation {attemptId : Uuid} {workerId : String} {token : Int} :
    Keeps besideAttempts (beginReconciliation env context attemptId workerId token) := by
  apply Keeps.transaction
  refine keeps_leased.bind fun value => (keeps_ensure _ _).bind fun _ => ?_
  exact keeps_updateAttempt.bind fun _ => keeps_attemptEvent.bind fun _ => keeps_pure _

theorem keeps_observedState {value : ExecutionAttempt} {kind : ObservationKind} {observation : Mapping} :
    Keeps besideAttempts (observedState env context value kind observation) := by
  cases kind with
  | foundSuccess => exact keeps_pure _
  | foundFailure => exact keeps_pure _
  | inconclusive => exact keeps_pure _
  | absent =>
    refine Keeps.ite ((keeps_gate fun _ _ _ _ => rfl).caught.bind fun outcome => ?_) (keeps_pure _)
    cases outcome with
    | ok _ => exact keeps_pure _
    | error _ => exact (keeps_pure _).ite (keeps_raise _)

theorem keeps_fileObservation {recorded : ExecutionAttempt} {expectedVersion : Nat} {kind : ObservationKind}
    {digest : String} : Keeps besideAttempts (fileObservation env context recorded expectedVersion kind digest) := by
  refine keeps_updateAttempt.bind fun _ => keeps_freshUuid.bind fun _ => keeps_now.bind fun _ => ?_
  refine keeps_freshUuid.bind fun _ => Keeps.bind ?_ fun _ => keeps_attemptEvent
  refine (keeps_getAttempt.bind fun _ => keeps_query _).bind fun _ => (keeps_ensure _ _).bind fun _ => ?_
  exact keeps_write fun _ => rfl

theorem keeps_recordObservation {attemptId : Uuid} {workerId : String} {token : Int} {observation : Mapping} :
    Keeps besideAttempts (recordObservation env context attemptId workerId token observation) := by
  apply Keeps.transaction
  refine keeps_leased.bind fun value => (keeps_ensure _ _).bind fun _ => (keeps_strictIntentDigest _).bind fun _ => ?_
  refine (keeps_ofExcept _).bind fun _ => (keeps_ofExcept _).bind fun _ => (keeps_ofExcept _).bind fun _ => ?_
  refine (keeps_ensure _ _).bind fun _ => keeps_observedState.bind fun _ => ?_
  refine (keeps_getAttempt.bind fun _ => keeps_query _).bind fun _ => keeps_now.bind fun _ => ?_
  refine Keeps.bind ((keeps_now.bind fun _ => keeps_pure _).ite (keeps_pure _)) fun _ => ?_
  exact keeps_fileObservation.bind fun _ => keeps_pure _

theorem keeps_prepareAttempt {commandId : Uuid} {policyVersion targetVersion : Int}
    {adapterVersion provider connectionId : String} : Keeps besideAttempts
      (prepareAttempt env context commandId policyVersion targetVersion adapterVersion provider connectionId) := by
  apply Keeps.transaction
  refine (keeps_require _).bind fun _ => (keeps_inboundIdentifier _).bind fun _ => ?_
  refine (keeps_inboundIdentifier _).bind fun _ => (keeps_inboundIdentifier _).bind fun _ => ?_
  refine keeps_checkManifest.bind fun _ => (keeps_gate fun _ _ _ _ => rfl).bind fun _ => ?_
  refine (keeps_prepareExecution fun _ _ _ _ => rfl).bind fun _ => ?_
  refine (keeps_strictIntentDigest _).bind fun _ => (keeps_query _).bind fun prior => ?_
  cases prior with
  | some prior => exact (keeps_ensure _ _).bind fun _ => keeps_pure _
  | none =>
    refine keeps_freshUuid.bind fun _ => Keeps.bind ?_ fun _ => keeps_attemptEvent.bind fun _ => keeps_pure _
    refine (keeps_query _).bind fun _ => (keeps_ensure _ _).bind fun _ => (keeps_query _).bind fun _ => ?_
    exact (keeps_query _).bind fun _ => (keeps_ensure _ _).bind fun _ => keeps_write fun _ => rfl

theorem keeps_act {attemptId : Uuid} {action : AttemptAction} : Keeps besideAttempts (act env context attemptId action) := by
  cases action with
  | claim => exact keeps_claimAttempt
  | beginDispatch => exact keeps_beginDispatch
  | beginReconciliation => exact keeps_beginReconciliation
  | recordObservation => exact keeps_recordObservation

/-! ## Tools -/

theorem keeps_judge {submission : ToolSubmission} : Keeps controlledTables (judge env context submission) := by
  have validating : ∀ approvalId, Keeps controlledTables (validatedToolApproval env context submission approvalId) := by
    intro approvalId
    refine keeps_matchedApproval.bind fun _ => (keeps_query _).bind fun _ => (keeps_ensure _ _).bind fun _ => ?_
    exact (keeps_prepareExecution fun _ _ _ _ => rfl).bind fun _ => (keeps_ensure _ _).bind fun _ => keeps_pure _
  apply (keeps_query _).bind
  intro stopped
  refine Keeps.ite (keeps_pure _) (Keeps.ite ?_ (keeps_pure _))
  split
  · exact keeps_pure _
  · next approvalId _ =>
    apply (validating approvalId).caught.bind
    intro validated
    cases validated with
    | ok approved => exact keeps_pure _
    | error why => exact (keeps_pure _).ite (keeps_raise _)

theorem judged_unstopped {submission : ToolSubmission} {verdict : Verdict}
    (judged : Judged env s context submission verdict t) (accepted : verdict.state = .accepted) :
    ¬ Stopped context.tenantId s.db submission.connection := by
  cases judged with
  | stopped => cases accepted
  | unapproved => cases accepted
  | refused => cases accepted
  | bookkeeping free => exact free
  | cleared free => exact free

/-- The connection a tool command is about, if it is about a channel. -/
def toolConnection (row : DemoToolCommand) : Option String := if row.targetType = "channel" then some row.targetId else none

/-- What a submission leaves in the table of tool commands. -/
theorem submitDemoTool_tools {submission : ToolSubmission} {reply : ToolReply}
    (ran : (submitDemoTool env context submission).run s = (.ok reply, t)) :
    t.db.attempts = s.db.attempts ∧ t.db.purchaseOrders = s.db.purchaseOrders ∧
      (t.db.toolCommands = s.db.toolCommands ∨ ∃ value, t.db.toolCommands = s.db.toolCommands.put value ∧
        value.tenantId = context.tenantId ∧
        (value.state = .accepted → ¬ Stopped context.tenantId s.db (toolConnection value))) := by
  obtain ⟨-, -, verdict, middle, value, judging, filing, -⟩ := submitDemoTool_eq_ok.mp ran
  have kept := keeps_judge.of_run judging
  have judged := judge_ok judging
  simp only [controlledTables, Prod.mk.injEq] at kept
  obtain ⟨attempts, tools, purchases⟩ := kept
  rcases fileTool_ok filing with ⟨-, -, same⟩ | filed
  · rw [same]
    exact ⟨attempts, purchases, .inl tools⟩
  · have value_eq := filed.value_eq
    have unstopped : value.state = .accepted → ¬ Stopped context.tenantId s.db (toolConnection value) := by
      subst value_eq
      exact judged_unstopped judged
    have tenant : value.tenantId = context.tenantId := congrArg DemoToolCommand.tenantId value_eq
    obtain ⟨_, ⟨_, _, _, -, -, -, -, written⟩ | ⟨-, written⟩⟩ := filed.written
    · rw [written]
      exact ⟨attempts, purchases, .inr ⟨value, congrArg (Table.put · value) tools, tenant, unstopped⟩⟩
    · rw [written]
      exact ⟨attempts, purchases, .inr ⟨value, congrArg (Table.put · value) tools, tenant, unstopped⟩⟩

/-! ## Calls -/

/-- A call on stops, attempts, tools or purchases, or any operation that leaves their tables alone. -/
inductive ControlCall (env : Env) where
  | setDemoStop (context : TenantContext) (scopeType scopeRef : String) (stopped : Bool) (reason : String)
  | prepareAttempt (context : TenantContext) (commandId : Uuid) (policyVersion targetVersion : Int)
      (adapterVersion provider connectionId : String)
  | act (context : TenantContext) (attemptId : Uuid) (action : AttemptAction)
  | submitTool (context : TenantContext) (submission : ToolSubmission)
  | proposeRouting (context : TenantContext) (order : Uuid) (supplierOptions : Mapping) (expectedOrderVersion : Int)
  | approveDemoPo (context : TenantContext) (purchaseId : Uuid) (approve : Bool) (reason : String)
  | decide (context : TenantContext) (commandId : Uuid) (approve : Bool) (reason : String)
  | regenerateDemoPo (context : TenantContext) (purchaseId : Uuid) (reason : String) (expectedPoVersion : Int)
  | submitDemoPo (context : TenantContext) (purchaseId : Uuid)
  | reconcileDemoPo (context : TenantContext) (purchaseId : Uuid) (response : Mapping)
  | requestDemoCancel (context : TenantContext) (orderId : Uuid) (reason : String) (expectedOrderVersion : Int)
  | elsewhere (operation : Op Unit) (keeps : Keeps controlledTables operation)

def perform : ControlCall env → Op Unit
  | .setDemoStop context scopeType scopeRef stopped reason =>
      quietly (Execution.setDemoStop env context scopeType scopeRef stopped reason)
  | .prepareAttempt context commandId policyVersion targetVersion adapterVersion provider connectionId =>
      quietly (Execution.perform env
        (.prepare context commandId policyVersion targetVersion adapterVersion provider connectionId))
  | .act context attemptId action => quietly (Execution.perform env (.act context attemptId action))
  | .submitTool context submission => quietly (submitDemoTool env context submission)
  | .proposeRouting context order supplierOptions expectedOrderVersion =>
      quietly (Purchasing.proposeRouting env context order supplierOptions expectedOrderVersion)
  | .approveDemoPo context purchaseId approve reason =>
      quietly (Purchasing.approveDemoPo env context purchaseId approve reason)
  | .decide context commandId approve reason => quietly (Purchasing.decide env context commandId approve reason)
  | .regenerateDemoPo context purchaseId reason expectedPoVersion =>
      quietly (Purchasing.regenerateDemoPo env context purchaseId reason expectedPoVersion)
  | .submitDemoPo context purchaseId => quietly (Purchasing.submitDemoPo env context purchaseId)
  | .reconcileDemoPo context purchaseId response => quietly (Purchasing.reconcileDemoPo env context purchaseId response)
  | .requestDemoCancel context orderId reason expectedOrderVersion =>
      quietly (Purchasing.requestDemoCancel env context orderId reason expectedOrderVersion)
  | .elsewhere operation _ => operation

def step (env : Env) (call : ControlCall env) (s : Session Store) : Except Failure Unit × Session Store :=
  (perform call).run s

/-! ## Stops -/

/-- A step takes nothing out of the hands of the stops that were active before it. -/
structure Bites (s t : Session Store) : Prop where
  dispatching : ∀ key row, t.db.attempts.get? key = some row → row.state = .dispatching →
    (∀ prior, s.db.attempts.get? key = some prior → prior.state ≠ .dispatching) →
    ¬ Stopped key.1 s.db (some row.connectionId)
  released : ∀ key prior row, s.db.attempts.get? key = some prior → t.db.attempts.get? key = some row →
    prior.state ≠ .prepared → row.state = .prepared → ¬ Stopped key.1 s.db (some row.connectionId)
  accepted : ∀ key row, t.db.toolCommands.get? key = some row → row.state = .accepted →
    (∀ prior, s.db.toolCommands.get? key = some prior → prior.state ≠ .accepted) →
    ¬ Stopped key.1 s.db (toolConnection row)
  submitted : ∀ key row, t.db.purchaseOrders.get? key = some row → row.status = .submitted →
    (∀ prior, s.db.purchaseOrders.get? key = some prior → prior.status ≠ .submitted) →
    ∃ order, s.db.channelOrders.get? (key.1, row.channelOrderId) = some order ∧
      ¬ Stopped key.1 s.db (some order.channelId)

section

variable {key : Uuid × Uuid} {prior row : ExecutionAttempt}

/-- An attempt that is there after a call was there before, or is a new one. -/
theorem attempt_before {call : AttemptCall} (found : (Execution.step env call s).2.db.attempts.get? key = some row) :
    (∃ prior, s.db.attempts.get? key = some prior) ∨ row.state = .prepared := by
  have stepped := step_stepped env call s
  generalize (Execution.step env call s).1 = outcome at stepped
  generalize (Execution.step env call s).2 = t at stepped found
  cases stepped with
  | idle _ written =>
    rw [written] at found
    exact .inl ⟨row, found⟩
  | @inserted _ _ _ _ _ _ _ inserted_row _ inserted written =>
    rw [written] at found
    by_cases same : inserted_row.key = key
    · subst same
      cases Option.some.inj ((Table.get?_put_self _ _).symm.trans found)
      exact .inr inserted.state
    · exact .inl ⟨row, (Table.get?_put_of_ne _ same).symm.trans found⟩
  | @acted context attemptId action other result _ other_found moved written _ =>
    rw [written] at found
    by_cases same : result.key = key
    · subst same
      rw [moved.key, Table.key_of_get? other_found]
      exact .inl ⟨other, other_found⟩
    · exact .inl ⟨row, (Table.get?_put_of_ne _ same).symm.trans found⟩

/-- Only a dispatch and a confirmed absence move an attempt where a stop would hold it. -/
theorem transition_unstopped {action : AttemptAction} (moved : Transition env context s prior action row)
    (ran : (act env context key.2 action).run s = (.ok row, t))
    (entered : row.state = .dispatching ∧ prior.state ≠ .dispatching ∨ row.state = .prepared ∧ prior.state ≠ .prepared) :
    ¬ Stopped context.tenantId s.db (some row.connectionId) := by
  cases moved with
  | claim active free positive =>
    -- a claim turns what was in flight to unknown and nothing else
    simp only [claimedBy] at entered
    split at entered
    · rcases entered with ⟨unknown, -⟩ | ⟨unknown, -⟩ <;> cases unknown
    · rcases entered with ⟨same, other⟩ | ⟨same, other⟩ <;> exact absurd same other
  | beginDispatch held prepared => exact beginDispatch_unstopped ran
  | beginReconciliation held unknown => rcases entered with ⟨other, -⟩ | ⟨other, -⟩ <;> cases other
  | recordObservation held flying read lookup observed =>
    simp only [Execution.observed] at entered ⊢
    cases observed with
    | released authoritative gated =>
      have unstopped := gate_unstopped gated
      exact unstopped
    | success | failure | inconclusive | exhausted | absent => rcases entered with ⟨other, -⟩ | ⟨other, -⟩ <;> cases other

/-- What an attempt call that returned has done. -/
theorem act_of_step {attemptId : Uuid} {action : AttemptAction} {result : ExecutionAttempt}
    (returned : (Execution.step env (.act context attemptId action) s).1 = .ok (some result)) :
    ∃ t, (act env context attemptId action).run s = (.ok result, t) := by
  simp only [Execution.step, Execution.perform, run_bind] at returned
  rcases ran : (act env context attemptId action).run s with ⟨why | other, t⟩
  · simp only [ran] at returned
    cases returned
  · simp only [ran] at returned
    cases returned
    exact ⟨t, rfl⟩

theorem attempt_bites {call : AttemptCall} (found : s.db.attempts.get? key = some prior)
    (after : (Execution.step env call s).2.db.attempts.get? key = some row)
    (entered : row.state = .dispatching ∧ prior.state ≠ .dispatching ∨ row.state = .prepared ∧ prior.state ≠ .prepared) :
    ¬ Stopped key.1 s.db (some row.connectionId) := by
  rcases row_step found call with kept | ⟨context, action, result, rfl, tenant, moved, returned, written⟩
  · cases Option.some.inj (kept.symm.trans after)
    rcases entered with ⟨same, other⟩ | ⟨same, other⟩ <;> exact absurd same other
  · cases Option.some.inj (written.symm.trans after)
    obtain ⟨_, ran⟩ := act_of_step returned
    rw [← tenant]
    exact transition_unstopped moved ran entered

end

theorem Unsubmitted.bites (quiet : Unsubmitted s t) : Bites s t where
  dispatching key row found state new := by
    rw [quiet.attempts] at found
    exact absurd state (new row found)
  released key prior row found after other state := by
    rw [quiet.attempts, found] at after
    cases after
    exact absurd state other
  accepted key row found state new := by
    rw [quiet.tools] at found
    exact absurd state (new row found)
  submitted key row found status new := by
    obtain ⟨before, known, same⟩ := quiet.purchases key row found status
    exact absurd same (new before known)

/-- An attempt call moves attempts only. -/
theorem attempt_call_bites {call : AttemptCall} (keeps : Keeps besideAttempts (Execution.perform env call)) :
    Bites s (Execution.step env call s).2 := by
  have beside : besideAttempts (Execution.step env call s).2.db = besideAttempts s.db := keeps s
  simp only [besideAttempts, Prod.mk.injEq] at beside
  obtain ⟨-, -, tools, purchases⟩ := beside
  refine ⟨?_, ?_, ?_, ?_⟩
  · intro key row found state new
    rcases attempt_before found with ⟨prior, known⟩ | prepared
    · exact attempt_bites known found (.inl ⟨state, new prior known⟩)
    · cases state.symm.trans prepared
  · intro key prior row known found other state
    exact attempt_bites known found (.inr ⟨state, other⟩)
  · intro key row found state new
    rw [tools] at found
    exact absurd state (new row found)
  · intro key row found status new
    rw [purchases] at found
    exact absurd status (new row found)

theorem submitDemoTool_bites {submission : ToolSubmission} :
    Bites s ((submitDemoTool env context submission).run s).2 := by
  rcases ran : (submitDemoTool env context submission).run s with ⟨why | reply, t⟩
  · exact Unsubmitted.bites (unsubmitted_of_same (congrArg controlledTables (submitDemoTool_error ran)))
  · obtain ⟨attempts, purchases, tools⟩ := submitDemoTool_tools ran
    refine ⟨?_, ?_, ?_, ?_⟩
    · intro key row found state new
      rw [attempts] at found
      exact absurd state (new row found)
    · intro key prior row known found other state
      rw [attempts, known] at found
      cases found
      exact absurd state other
    · intro key row found state new
      rcases tools with same | ⟨value, written, tenant, unstopped⟩
      · rw [same] at found
        exact absurd state (new row found)
      · rw [written] at found
        by_cases same : value.key = key
        · subst same
          have named : value.key.1 = context.tenantId := tenant
          rw [named]
          cases Option.some.inj ((Table.get?_put_self _ _).symm.trans found)
          exact unstopped state
        · exact absurd state (new row ((Table.get?_put_of_ne _ same).symm.trans found))
    · intro key row found status new
      rw [purchases] at found
      exact absurd status (new row found)

theorem submitDemoPo_bites {purchaseId : Uuid} : Bites s ((submitDemoPo env context purchaseId).run s).2 := by
  rcases ran : (submitDemoPo env context purchaseId).run s with ⟨why | submitted, t⟩
  · have unwinds : Unwinds (fun db : Store => db) (submitDemoPo env context purchaseId) :=
      .bind (keeps_require _) fun _ => unwinds_transaction _
    exact Unsubmitted.bites (unsubmitted_of_same (congrArg controlledTables (unwinds s why t ran)))
  · obtain ⟨purchase, order, command, approval, intent, rfl, submitting, shape, written⟩ := submitDemoPo_ok ran
    have purchase_named : purchase.key = (context.tenantId, purchase.id) := Table.key_of_get? submitting.purchase_found
    have named : submitted.key = (context.tenantId, purchase.id) := by
      rw [shape]
      exact purchase_named
    have about : submitted.channelOrderId = purchase.channelOrderId := by
      rw [shape]
    simp only [controlledTables, Prod.mk.injEq] at written
    obtain ⟨attempts, tools, purchases⟩ := written
    refine ⟨?_, ?_, ?_, ?_⟩
    · intro key row found state new
      rw [attempts] at found
      exact absurd state (new row found)
    · intro key prior row known found other state
      rw [attempts, known] at found
      cases found
      exact absurd state other
    · intro key row found state new
      rw [tools] at found
      exact absurd state (new row found)
    · intro key row found status new
      rw [purchases] at found
      by_cases same : submitted.key = key
      · subst same
        cases Option.some.inj ((Table.get?_put_self _ _).symm.trans found)
        rw [named, about]
        exact ⟨order, submitting.order_found, submitting.unstopped⟩
      · rw [Table.get?_put_of_ne _ same] at found
        exact absurd status (new row found)

theorem step_bites (call : ControlCall env) (s : Session Store) : Bites s (step env call s).2 := by
  have still : ∀ {α : Type} {operation : Op α}, Settles Unsubmitted operation →
      Bites s ((quietly operation).run s).2 := by
    intro α operation settles
    rw [quietly_session]
    exact Unsubmitted.bites (unsubmitted_of_steps (settles s))
  cases call with
  | setDemoStop => exact still fun s => .single (unsubmitted_of_same (keeps_setDemoStop (fun _ _ _ => rfl) s))
  | proposeRouting => exact still (proposeRouting_settles unsubmitted_allows)
  | approveDemoPo => exact still (approveDemoPo_settles unsubmitted_allows)
  | decide => exact still (decide_settles unsubmitted_allows)
  | regenerateDemoPo => exact still (regenerateDemoPo_settles unsubmitted_allows)
  | reconcileDemoPo => exact still (reconcileDemoPo_settles unsubmitted_allows)
  | requestDemoCancel => exact still (requestDemoCancel_settles unsubmitted_allows)
  | elsewhere operation keeps => exact Unsubmitted.bites (unsubmitted_of_same (keeps s))
  | prepareAttempt =>
    simp only [step, perform, quietly_session]
    exact attempt_call_bites (keeps_prepareAttempt.bind fun _ => keeps_pure _)
  | act =>
    simp only [step, perform, quietly_session]
    exact attempt_call_bites (keeps_act.bind fun _ => keeps_pure _)
  | submitTool =>
    simp only [step, perform, quietly_session]
    exact submitDemoTool_bites
  | submitDemoPo =>
    simp only [step, perform, quietly_session]
    exact submitDemoPo_bites

/-- In every run, whatever the order of its calls, a call after it takes nothing past a stop that is active: no attempt
begins to dispatch or is given back as prepared, no tool command is accepted and no purchase order is submitted. -/
theorem stops_bite (env : Env) (calls : List (ControlCall env)) (call : ControlCall env) :
    Bites (final (step env) newSession calls) (final (step env) newSession (calls ++ [call])) := by
  rw [Library.final_concat]
  exact step_bites call _

end AiStore.Controls
