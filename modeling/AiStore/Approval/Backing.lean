import AiStore.Approval.Supersession

/-! What stands behind an execution that has been prepared. -/

set_option autoImplicit false

namespace AiStore.Approvals

open Library (Session Txn Table final)
open Library.Txn Repository Service
open Relation (ReflTransGen)

variable {env : Env} {s t : Session Store}

/-! ## Histories -/

/-- One change, or one supersession. -/
def Evolution (env : Env) (s t : Session Store) : Prop :=
  Change env s t ∨ ∃ context key old oldApproval replacement approval middle,
    Superseded env context s key old oldApproval replacement approval middle t

theorem evolution_lockstep (lockstep : Lockstep s) (evolution : Evolution env s t) : Lockstep t ∧ Onward s.db t.db := by
  rcases evolution with change | ⟨_, _, _, _, _, _, _, superseded⟩
  · exact change_lockstep lockstep change
  · exact superseded_lockstep superseded lockstep

theorem evolutions_lockstep (lockstep : Lockstep s) (history : ReflTransGen (Evolution env) s t) :
    Lockstep t ∧ Onward s.db t.db := by
  induction history with
  | refl => exact ⟨lockstep, .refl _⟩
  | tail _ evolution ih =>
    obtain ⟨holds, onward⟩ := evolution_lockstep ih.1 evolution
    exact ⟨holds, ih.2.trans onward⟩

theorem step_evolves (call : LifecycleCall env) (s : Session Store) :
    ReflTransGen (Evolution env) s (step env call s).2 := by
  rcases step_cases call s with changes | ⟨_, _, _, _, _, _, _, _, _, -, -, -, superseded⟩
  · exact ReflTransGen.mono (fun _ _ change => .inl change) _ _ changes
  · exact .single (.inr ⟨_, _, _, _, _, _, _, superseded⟩)

theorem run_evolves (calls : List (LifecycleCall env)) :
    ReflTransGen (Evolution env) Execution.newSession (final (step env) Execution.newSession calls) := by
  induction calls using List.reverseRecOn with
  | nil => exact .refl
  | append_singleton calls call ih =>
    rw [Library.final_concat]
    exact ih.trans (step_evolves call _)

/-! ## Intents -/

/-- Somewhere on the way the command had no intent, its approval was pending, and the next step attached this one. -/
structure AttachedPending (env : Env) (s : Session Store) (key : Uuid × Uuid) (intent : ApprovalIntent) : Prop where
  exists_attachment : ∃ before after command approval,
    ReflTransGen (Evolution env) Execution.newSession before ∧ Evolution env before after ∧
    ReflTransGen (Evolution env) after s ∧
    before.db.approvalIntents.get? key = none ∧ after.db.approvalIntents.get? key = some intent ∧
    before.db.commands.get? key = some command ∧ before.db.approvals.get? key = some approval ∧
    approval.state = .pending ∧ IntentMatches env command approval intent

theorem AttachedPending.later {key : Uuid × Uuid} {intent : ApprovalIntent}
    (attached : AttachedPending env s key intent) (evolution : Evolution env s t) : AttachedPending env t key intent := by
  obtain ⟨before, after, command, approval, start, step, rest, facts⟩ := attached.exists_attachment
  exact ⟨before, after, command, approval, start, step, rest.tail evolution, facts⟩

theorem superseded_intents {context : TenantContext} {key : CommandKey} {old replacement : Command}
    {oldApproval approval : Approval} {middle : Session Store}
    (superseded : Superseded env context s key old oldApproval replacement approval middle t) :
    t.db.approvalIntents = s.db.approvalIntents ∧ t.db.executionPreparations = s.db.executionPreparations := by
  obtain ⟨row, rfl⟩ := superseded.written
  obtain ⟨payload, -, created | replayed⟩ := superseded.change
  · obtain ⟨-, -, -, -, _, rfl⟩ := created
    exact ⟨rfl, rfl⟩
  · rw [replayed.unchanged]
    exact ⟨rfl, rfl⟩

/-- Only a request for approval writes an intent, under a pending approval. -/
theorem change_intents (change : Change env s t) :
    t.db.approvalIntents = s.db.approvalIntents ∨
      ∃ (command : Command) (approval : Approval) (intent : ApprovalIntent) (key : Uuid × Uuid),
        t.db.approvalIntents = s.db.approvalIntents.put intent ∧ intent.key = key ∧
        s.db.approvalIntents.get? key = none ∧ s.db.commands.get? key = some command ∧
        s.db.approvals.get? key = some approval ∧ approval.state = .pending ∧ IntentMatches env command approval intent := by
  cases change with
  | other quiet =>
    have same := quiet.lifecycle.same
    simp only [lifecycleTables, Prod.mk.injEq] at same
    exact .inl same.2.2.2.1
  | created created =>
    obtain ⟨-, -, -, -, _, rfl⟩ := created
    exact .inl rfl
  | attached command_found approval_found attached =>
    obtain ⟨pending, free, intent, named, -, -, matching, rfl⟩ := attached
    exact .inr ⟨_, _, intent, _, rfl, named, free, command_found, approval_found, pending, matching⟩
  | ranOut _ _ ranOut =>
    obtain ⟨-, _, rfl⟩ := ranOut
    exact .inl rfl
  | settled _ _ _ _ settled =>
    obtain ⟨-, _, rfl⟩ := settled
    exact .inl rfl
  | prepared _ prepared =>
    obtain ⟨-, -, -, _, rfl⟩ := prepared
    exact .inl rfl
  | toolFiled _ filed =>
    have same := (quiet_of_toolFiled filed).same
    simp only [lifecycleTables, Prod.mk.injEq] at same
    exact .inl same.2.2.2.1

theorem history_attached (history : ReflTransGen (Evolution env) Execution.newSession s) (key : Uuid × Uuid)
    (intent : ApprovalIntent) (found : s.db.approvalIntents.get? key = some intent) :
    AttachedPending env s key intent := by
  induction history with
  | refl => cases found
  | @tail middle last history evolution ih =>
    have kept : last.db.approvalIntents = middle.db.approvalIntents → AttachedPending env last key intent := by
      intro same
      rw [same] at found
      exact (ih found).later evolution
    rcases evolution with change | ⟨_, _, _, _, _, _, _, superseded⟩
    · rcases change_intents change with same | ⟨command, approval, written, here, put, named, free, facts⟩
      · exact kept same
      · have stored := found
        rw [put, Table.get?_put] at found
        split at found
        · next same =>
          -- the intent is the one this step attached
          cases found
          have here_eq : here = key := named.symm.trans same
          subst here_eq
          exact ⟨middle, last, command, approval, history, .inl change, .refl, free, stored, facts⟩
        · exact (ih found).later (.inl change)
    · exact kept (superseded_intents superseded).1

/-! ## Preparations -/

/-- A preparation carries the digest of the intent it was made for. -/
def Backed (db : Store) : Prop := ∀ row ∈ db.executionPreparations.rows,
  ∃ intent, db.approvalIntents.get? row.key = some intent ∧ row.canonicalDigest = intent.canonicalDigest

theorem Backed.of_same {before after : Store} (backed : Backed before)
    (same : after.executionPreparations = before.executionPreparations) (onward : Onward before after) : Backed after := by
  intro row member
  rw [same] at member
  obtain ⟨intent, found, digest⟩ := backed row member
  exact ⟨intent, onward.intents _ _ found, digest⟩

theorem evolution_backed (lockstep : Lockstep s) (backed : Backed s.db) (evolution : Evolution env s t) :
    Backed t.db := by
  have onward := (evolution_lockstep lockstep evolution).2
  rcases evolution with change | ⟨_, _, _, _, _, _, _, superseded⟩
  · cases change with
    | other quiet =>
      have same := quiet.lifecycle.same
      simp only [lifecycleTables, Prod.mk.injEq] at same
      exact backed.of_same same.2.2.2.2 onward
    | created created =>
      obtain ⟨-, -, -, -, _, written⟩ := created
      exact backed.of_same (by rw [written]) onward
    | attached _ _ attached =>
      obtain ⟨-, -, _, -, -, -, -, written⟩ := attached
      exact backed.of_same (by rw [written]) onward
    | ranOut _ _ ranOut =>
      obtain ⟨-, _, written⟩ := ranOut
      exact backed.of_same (by rw [written]) onward
    | settled _ _ _ _ settled =>
      obtain ⟨-, _, written⟩ := settled
      exact backed.of_same (by rw [written]) onward
    | prepared executable prepared =>
      obtain ⟨-, -, rfl, _, rfl⟩ := prepared
      intro row member
      rw [Table.mem_put] at member
      rcases member with rfl | ⟨old, -⟩
      · exact ⟨_, executable.intent_found, rfl⟩
      · exact backed row old
    | toolFiled _ filed =>
      have same := (quiet_of_toolFiled filed).same
      simp only [lifecycleTables, Prod.mk.injEq] at same
      exact backed.of_same same.2.2.2.2 onward
  · exact backed.of_same (superseded_intents superseded).2 onward

theorem history_backed (history : ReflTransGen (Evolution env) Execution.newSession s) : Lockstep s ∧ Backed s.db := by
  induction history with
  | refl => exact ⟨lockstep_newSession, fun _ member => absurd member List.not_mem_nil⟩
  | tail _ evolution ih => exact ⟨(evolution_lockstep ih.1 evolution).1, evolution_backed ih.1 ih.2 evolution⟩

/-! ## Execution -/

/-- What a prepared execution rests on. -/
structure BackedBy (env : Env) (before after : Session Store) (context : TenantContext) (commandId : Uuid)
    (result : ExecutionPreparation) (command : Command) (approval : Approval) (intent : ApprovalIntent) : Prop where
  command_found : before.db.commands.get? (context.tenantId, commandId) = some command
  approval_found : before.db.approvals.get? (context.tenantId, commandId) = some approval
  intent_found : before.db.approvalIntents.get? (context.tenantId, commandId) = some intent
  approved : command.state = .approved ∧ approval.state = .approved
  unexpired : env.clock before.reads < approval.expiresAt
  attached_pending : AttachedPending env before (context.tenantId, commandId) intent
  digest : env.digest (intentMaterial command.kind command.targetRef command.payload approval.evidence
    approval.expiresAt intent.policyVersion intent.targetVersion) = intent.canonicalDigest
  approver : ∃ user member, approval.decidedBy = some user ∧
    before.db.memberships.get? (context.tenantId, user) = some member ∧ member.active = true ∧
    member.Available command.kind.capability
  prepared : result ∈ after.db.executionPreparations.rows ∧ result.canonicalDigest = intent.canonicalDigest
  only : ∀ other ∈ after.db.executionPreparations.rows, other.tenantId = context.tenantId →
    other.commandId = commandId → other = result

/-- In every state that a run from a new repository reaches, an execution that is prepared rests on an
approved and unexpired approval, an intent attached while it was pending, an approver who still is
one, and no other preparation. -/
theorem execution_backed (env : Env) (calls : List (LifecycleCall env)) (context : TenantContext) (commandId : Uuid)
    (policyVersion targetVersion : Int) (result : ExecutionPreparation) (replayed : Bool) (t : Session Store)
    (ran : (prepareExecution env context commandId policyVersion targetVersion).run
      (final (step env) Execution.newSession calls) = (.ok (result, replayed), t)) :
    ∃ command approval intent, BackedBy env (final (step env) Execution.newSession calls) t context commandId result
      command approval intent := by
  have history := run_evolves calls
  obtain ⟨lockstep, backed⟩ := history_backed history
  obtain ⟨command, approval, intent, executable, outcome⟩ := prepareExecution_ok ran
  -- the preparation that is returned is a stored one, or the one that this call stores
  have prepared : t.db.executionPreparations.get? (context.tenantId, commandId) = some result ∧
      result.canonicalDigest = intent.canonicalDigest := by
    rcases outcome with ⟨-, found, rfl⟩ | ⟨-, first⟩
    · obtain ⟨other, other_found, digest⟩ := backed result (Table.mem_of_get? found)
      rw [Table.key_of_get? found, executable.intent_found] at other_found
      cases other_found
      exact ⟨found, digest⟩
    · obtain ⟨-, -, rfl, _, rfl⟩ := first
      exact ⟨Table.get?_put_self _ _, rfl⟩
  have member := Table.mem_of_get? prepared.1
  have named := Table.key_of_get? prepared.1
  refine ⟨command, approval, intent, executable.command_found, executable.approval_found, executable.intent_found,
    ⟨executable.command_approved, executable.approval_approved⟩, executable.unexpired,
    history_attached history _ _ executable.intent_found, executable.intent_matches.digest, executable.approver,
    ⟨member, prepared.2⟩, ?_⟩
  intro other other_member tenant command_id
  apply t.db.executionPreparations.key_inj other_member member
  rw [named, ← tenant, ← command_id]
  rfl

/-! ## A refund -/

/-- A refund is requested, approved and prepared. -/
def approvedRefund : List (LifecycleCall idleEnv) :=
  [bootstrapped, .requestApproval Execution.demoMaster .refund (.text "order") [] (.text "refund") 1 1 [],
   .decide Execution.demoMaster 4 true "yes"]

theorem execution_backed_refund : ∃ result replayed t command approval intent,
    (prepareExecution idleEnv Execution.demoMaster 4 1 1).run
      (final (step idleEnv) Execution.newSession approvedRefund) = (.ok (result, replayed), t) ∧
    BackedBy idleEnv (final (step idleEnv) Execution.newSession approvedRefund) t Execution.demoMaster 4 result command
      approval intent := by
  have returned : ((prepareExecution idleEnv Execution.demoMaster 4 1 1).run
      (final (step idleEnv) Execution.newSession approvedRefund)).1.isOk = true := by
    decide +kernel
  rcases ran : (prepareExecution idleEnv Execution.demoMaster 4 1 1).run
      (final (step idleEnv) Execution.newSession approvedRefund) with ⟨why | ⟨result, replayed⟩, t⟩
  · rw [ran] at returned
    cases returned
  · obtain ⟨command, approval, intent, rests⟩ :=
      execution_backed idleEnv approvedRefund Execution.demoMaster 4 1 1 result replayed t ran
    exact ⟨result, replayed, t, command, approval, intent, rfl, rests⟩

end AiStore.Approvals
