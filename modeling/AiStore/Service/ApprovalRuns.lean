import AiStore.Service.Approvals

/-! What the approval operations have done when they return. -/

set_option autoImplicit false

namespace AiStore.Service

open Library (Session Txn)
open Library.Txn Failure Repository

variable {env : Env} {context : TenantContext} {s t : Session Store}

/-! ## Intents -/

/-- The digest of an intent is that of the material it was given. -/
structure IntentMatches (env : Env) (command : Command) (approval : Approval) (intent : ApprovalIntent) : Prop where
  strict : (intentMaterial command.kind command.targetRef command.payload approval.evidence approval.expiresAt
    intent.policyVersion intent.targetVersion).strictJson = true
  digest : env.digest (intentMaterial command.kind command.targetRef command.payload approval.evidence
    approval.expiresAt intent.policyVersion intent.targetVersion) = intent.canonicalDigest

@[simp] theorem checkIntent_eq_ok {command : Command} {approval : Approval} {intent : ApprovalIntent} {u : Unit} :
    (checkIntent env command approval intent).run s = (.ok u, t) ↔ IntentMatches env command approval intent ∧ t = s := by
  simp only [checkIntent, intentDigest, bind_eq_ok, strictIntentDigest_eq_ok, ensure_eq_ok]
  constructor
  · rintro ⟨digest, _, ⟨strict, rfl, rfl⟩, same, rfl⟩
    exact ⟨⟨strict, same⟩, rfl⟩
  · rintro ⟨⟨strict, same⟩, rfl⟩
    exact ⟨_, _, ⟨strict, rfl, rfl⟩, same, rfl⟩

@[simp] theorem checkAttached_eq_ok {command : Command} {approval : Approval} {found : Option ApprovalIntent}
    {u : Unit} :
    (checkAttached env command approval found).run s = (.ok u, t) ↔
      (∀ intent, found = some intent → IntentMatches env command approval intent) ∧ t = s := by
  cases found with
  | none => simp [checkAttached]
  | some intent => simp [checkAttached]

/-! ## New commands -/

section

variable (env) (s) (context) (kind : ApprovalKind) (targetRef : TargetRef) (payload : Mapping)
  (idempotencyKey : CommandKey) (evidence : List Mapping)

/-- The command a creation in this session writes. -/
def createdCommand : Command :=
  newCommand s.uuids context kind targetRef payload (env.digest (commandMaterial kind targetRef payload))
    idempotencyKey (env.clock s.reads)

def createdApproval : Approval :=
  newApproval (s.uuids + 1) (createdCommand env context s kind targetRef payload idempotencyKey) evidence
    (env.clock s.reads)

/-- The first request of a key: a pending command, its approval and the request in the outbox. -/
structure Created (command : Command) (approval : Approval) (t : Session Store) : Prop where
  key_free : s.db.commandIdempotency.get? (context.tenantId, idempotencyKey) = none
  command_eq : command = createdCommand env context s kind targetRef payload idempotencyKey
  approval_eq : approval = createdApproval env context s kind targetRef payload idempotencyKey evidence
  event_free : s.db.outbox.outboxIdempotency.get? (.uuid context.tenantId, .approvalRequested command.id) = none
  written : ∃ row, t = ⟨{ s.db with
    commands := s.db.commands.put command
    approvals := s.db.approvals.put approval
    commandIdempotency := s.db.commandIdempotency.set (context.tenantId, idempotencyKey) command.id
    auditEvents := s.db.auditEvents ++ [row]
    outbox := published s.db.outbox (.pendingEvent (.uuid (s.uuids + 4)) (.uuid context.tenantId) "approval.requested"
      (.uuid command.id) [("command_id", .uuid command.id), ("approval_id", .uuid approval.id)]
      (.approvalRequested command.id) (env.clock s.reads)) }, s.reads + 2, s.uuids + 5⟩

/-- A later request of a bound key: the rows as they stand. -/
structure Replayed (command : Command) (approval : Approval) (t : Session Store) : Prop where
  key_bound : s.db.commandIdempotency.get? (context.tenantId, idempotencyKey) = some command.id
  command_found : s.db.commands.get? (context.tenantId, command.id) = some command
  approval_found : s.db.approvals.get? (context.tenantId, command.id) = some approval
  same_digest : command.payloadDigest = env.digest (commandMaterial kind targetRef payload)
  unchanged : t = s

end

section

variable {kind : ApprovalKind} {targetRef : TargetRef} {payload : Mapping} {idempotencyKey : CommandKey}
  {evidence : List Mapping} {command : Command} {approval : Approval}

theorem createCommand_ok
    (ran : (createCommand env context kind targetRef payload idempotencyKey evidence).run s =
      (.ok (command, approval), t)) :
    Authorized s.db context kind.capability ∧
      (Created env context s kind targetRef payload idempotencyKey evidence command approval t ∨
        Replayed env context s kind targetRef payload idempotencyKey command approval t) := by
  rw [createCommand, transaction_eq_ok] at ran
  simp only [bind_eq_ok, require_eq_ok, ensure_eq_ok, commandIdForKey, query_eq_ok] at ran
  obtain ⟨_, _, ⟨authorized, rfl⟩, _, _, ⟨-, rfl⟩, found, _, ⟨key, rfl⟩, ran⟩ := ran
  refine ⟨authorized, ?_⟩
  cases found with
  | none =>
    simp only [bind_eq_ok, now_eq_ok, freshUuid_eq_ok, saveCommand, saveApproval, bindCommandKey, write_eq_ok,
      auditBy_eq_ok, publish_eq_ok, pure_eq_ok, Prod.mk.injEq] at ran
    obtain ⟨_, _, ⟨rfl, rfl⟩, _, _, ⟨rfl, rfl⟩, _, _, ⟨rfl, rfl⟩, _, _, rfl, _, _, rfl, _, _, rfl, _, _, rfl, _, _,
      ⟨free, rfl⟩, ⟨rfl, rfl⟩, rfl⟩ := ran
    exact .inl ⟨key, rfl, rfl, free, _, rfl⟩
  | some existing =>
    simp only [bind_eq_ok, getCommand_eq_ok, ensure_eq_ok, getApprovalForCommand_eq_ok, pure_eq_ok,
      Prod.mk.injEq] at ran
    obtain ⟨row, _, ⟨bound, rfl⟩, _, _, ⟨same, rfl⟩, _, _, ⟨-, approval_bound, rfl⟩, ⟨rfl, rfl⟩, rfl⟩ := ran
    have named := Library.Table.key_of_get? bound
    simp only [Command.key, Prod.mk.injEq] at named
    obtain ⟨-, rfl⟩ := named
    exact .inr ⟨key, bound, approval_bound, same, rfl⟩

/-- An intent bound to a pending approval. -/
structure Attached (env : Env) (context : TenantContext) (s : Session Store) (command : Command) (approval : Approval)
    (policyVersion targetVersion : Int) (t : Session Store) : Prop where
  pending : approval.state = .pending
  intent_free : s.db.approvalIntents.get? (context.tenantId, command.id) = none
  written : ∃ intent : ApprovalIntent, intent.key = (context.tenantId, command.id) ∧
    intent.policyVersion = policyVersion ∧ intent.targetVersion = targetVersion ∧
    IntentMatches env command approval intent ∧
    t = ⟨{ s.db with approvalIntents := s.db.approvalIntents.put intent }, s.reads + 1, s.uuids⟩

theorem requestApproval_ok {policyVersion targetVersion : Int}
    (ran : (requestApproval env context kind targetRef payload idempotencyKey policyVersion targetVersion
      evidence).run s = (.ok (command, approval), t)) :
    1 ≤ policyVersion ∧ 1 ≤ targetVersion ∧ ∃ middle,
      (createCommand env context kind targetRef payload idempotencyKey evidence).run s =
        (.ok (command, approval), middle) ∧
      (Attached env context middle command approval policyVersion targetVersion t ∨
        ∃ prior, middle.db.approvalIntents.get? (context.tenantId, command.id) = some prior ∧
          prior.canonicalDigest = env.digest (intentMaterial kind targetRef payload evidence approval.expiresAt
            policyVersion targetVersion) ∧ IntentMatches env command approval prior ∧ t = middle) := by
  rw [requestApproval, transaction_eq_ok] at ran
  simp only [bind_eq_ok, ensure_eq_ok, strictIntentDigest_eq_ok, getApprovalIntent, query_eq_ok] at ran
  obtain ⟨_, _, ⟨⟨policy, target⟩, rfl⟩, _, _, ⟨-, -, rfl⟩, ⟨found, approved⟩, middle, created, digest, _,
    ⟨-, rfl, rfl⟩, intent, _, ⟨lookup, rfl⟩, ran⟩ := ran
  refine ⟨policy, target, ?_⟩
  cases intent with
  | none =>
    simp only [bind_eq_ok, ensure_eq_ok, intentDigest, strictIntentDigest_eq_ok, now_eq_ok, saveApprovalIntent_eq_ok,
      pure_eq_ok, Prod.mk.injEq] at ran
    obtain ⟨_, _, ⟨pending, rfl⟩, _, _, ⟨strict, rfl, rfl⟩, _, _, ⟨same, rfl⟩, _, _, ⟨rfl, rfl⟩, _, _, ⟨-, free, rfl⟩,
      ⟨rfl, rfl⟩, rfl⟩ := ran
    exact ⟨_, created, .inl ⟨pending, lookup, _, rfl, rfl, rfl, ⟨strict, same⟩, rfl⟩⟩
  | some prior =>
    simp only [bind_eq_ok, ensure_eq_ok, checkIntent_eq_ok, pure_eq_ok, Prod.mk.injEq] at ran
    obtain ⟨_, _, ⟨same, rfl⟩, _, _, ⟨matching, rfl⟩, ⟨rfl, rfl⟩, rfl⟩ := ran
    exact ⟨_, created, .inr ⟨prior, lookup, same, matching, rfl⟩⟩

end

/-! ## Supersession -/

/-- The session behind the retirement of a command and its approval. -/
def retired (s : Session Store) (command : Command) (approval : Approval) : Session Store :=
  { s with db := { s.db with
    approvals := s.db.approvals.put { approval with state := .superseded }
    commands := s.db.commands.put { command with state := .superseded } } }

theorem supersede_ok {commandId : Uuid} {changedPayload : Mapping} {idempotencyKey : CommandKey} {command : Command}
    {approval : Approval}
    (ran : (supersede env context commandId changedPayload idempotencyKey).run s = (.ok (command, approval), t)) :
    ∃ old oldApproval replacement middle row,
      s.db.commands.get? (context.tenantId, commandId) = some old ∧
      s.db.approvals.get? (context.tenantId, commandId) = some oldApproval ∧
      env.digest (commandMaterial old.kind old.targetRef changedPayload) ≠ old.payloadDigest ∧
      (oldApproval.state = .pending ∨ oldApproval.state = .approved) ∧
      (createCommand env context old.kind old.targetRef changedPayload idempotencyKey oldApproval.evidence).run
        (retired s old oldApproval) = (.ok (replacement, approval), middle) ∧
      command = { replacement with supersedesId := some old.id } ∧
      t = ⟨{ middle.db with
        commands := middle.db.commands.put command
        auditEvents := middle.db.auditEvents ++ [row] }, middle.reads + 1, middle.uuids + 2⟩ := by
  rw [supersede, transaction_eq_ok] at ran
  simp only [bind_eq_ok, getCommand_eq_ok, getApprovalForCommand_eq_ok, ensure_eq_ok, saveApproval, saveCommand,
    write_eq_ok, auditBy_eq_ok, pure_eq_ok, Prod.mk.injEq] at ran
  obtain ⟨old, _, ⟨found, rfl⟩, oldApproval, _, ⟨-, approval_found, rfl⟩, _, _, ⟨changed, rfl⟩, _, _, ⟨open_state, rfl⟩,
    _, _, rfl, _, _, rfl, ⟨replacement, fresh⟩, middle, created, _, _, rfl, _, _, rfl, ⟨rfl, rfl⟩, rfl⟩ := ran
  exact ⟨old, oldApproval, replacement, middle, _, found, approval_found, changed, open_state, created, rfl, rfl⟩

/-! ## Decisions -/

section

variable (context) (s) (commandId : Uuid)

/-- What `_decide` finds before it reads the clock. -/
structure Undecided (env : Env) (command : Command) (approval : Approval) : Prop where
  command_found : s.db.commands.get? (context.tenantId, commandId) = some command
  approval_found : s.db.approvals.get? (context.tenantId, commandId) = some approval
  authorized : Authorized s.db context command.kind.capability
  intent_matches : ∀ intent, s.db.approvalIntents.get? (context.tenantId, commandId) = some intent →
    IntentMatches env command approval intent
  pending : approval.state = .pending

end

/-- The session behind the expiry of a pending approval. -/
structure RanOut (s : Session Store) (tenant : Uuid) (command : Command) (approval : Approval)
    (payload : Mapping) (now : Timestamp) (t : Session Store) : Prop where
  event_free : s.db.outbox.outboxIdempotency.get? (.uuid tenant, .approvalExpired approval.id) = none
  written : ∃ row, t = ⟨{ s.db with
    approvals := s.db.approvals.put { approval with state := .expired }
    commands := s.db.commands.put { command with state := .expired }
    auditEvents := s.db.auditEvents ++ [row]
    outbox := published s.db.outbox (.pendingEvent (.uuid (s.uuids + 2)) (.uuid tenant) "approval.expired"
      (.uuid command.id) payload (.approvalExpired approval.id) now) }, s.reads + 1, s.uuids + 3⟩

/-- The session behind a decision made in time. -/
structure Settled (context : TenantContext) (s : Session Store) (command : Command) (approval : Approval)
    (approve : Bool) (reason : String) (now : Timestamp) (t : Session Store) : Prop where
  event_free : s.db.outbox.outboxIdempotency.get? (.uuid context.tenantId, .approvalDecided approval.id) = none
  written : ∃ row, t = ⟨{ s.db with
    approvals := s.db.approvals.put (decidedApproval context approval approve reason)
    commands := s.db.commands.put (decidedCommand command approve)
    auditEvents := s.db.auditEvents ++ [row]
    outbox := published s.db.outbox (.pendingEvent (.uuid (s.uuids + 2)) (.uuid context.tenantId) "approval.decided"
      (.uuid command.id) [("command_id", .uuid command.id), ("approval_id", .uuid approval.id),
        ("decision", .text (decidedApproval context approval approve reason).state.value)]
      (.approvalDecided approval.id) now) }, s.reads + 1, s.uuids + 3⟩

section

variable {commandId : Uuid} {approve : Bool} {reason : String} {result : Approval} {expired : Bool}
  {command : Command} {approval : Approval} {now : Timestamp}

theorem lapse_ok (ran : (lapse env context command approval now).run s = (.ok result, t)) :
    RanOut s context.tenantId command approval
      [("command_id", .uuid command.id), ("approval_id", .uuid approval.id)] now t := by
  simp only [lapse, bind_eq_ok, auditBy_eq_ok, saveApproval, saveCommand, write_eq_ok, publish_eq_ok, pure_eq_ok] at ran
  obtain ⟨_, _, rfl, _, _, rfl, _, _, rfl, _, _, ⟨free, rfl⟩, -, rfl⟩ := ran
  exact ⟨free, _, rfl⟩

theorem settle_ok (ran : (settle env context command approval approve reason now).run s = (.ok result, t)) :
    Settled context s command approval approve reason now t := by
  simp only [settle, bind_eq_ok, auditBy_eq_ok, saveApproval, saveCommand, write_eq_ok, publish_eq_ok, pure_eq_ok] at ran
  obtain ⟨_, _, rfl, _, _, rfl, _, _, rfl, _, _, ⟨free, rfl⟩, -, rfl⟩ := ran
  exact ⟨free, _, rfl⟩

theorem decideWithin_ok
    (ran : (decideWithin env context commandId approve reason).run s = (.ok (result, expired), t)) :
    ¬ blank reason ∧ reason.length ≤ 1000 ∧ ∃ command approval, Undecided context s commandId env command approval ∧
      (expired = true ∧ approval.expiresAt ≤ env.clock s.reads ∧
          RanOut { s with reads := s.reads + 1 } context.tenantId command approval
            [("command_id", .uuid command.id), ("approval_id", .uuid approval.id)] (env.clock s.reads) t ∨
        expired = false ∧ env.clock s.reads < approval.expiresAt ∧
          Settled context { s with reads := s.reads + 1 } command approval approve reason (env.clock s.reads) t) := by
  simp only [decideWithin, bind_eq_ok, ensure_eq_ok, getCommand_eq_ok, getApprovalForCommand_eq_ok, require_eq_ok,
    getApprovalIntent, query_eq_ok, checkAttached_eq_ok, now_eq_ok] at ran
  obtain ⟨_, _, ⟨⟨reason_given, bounded⟩, rfl⟩, command, _, ⟨found, rfl⟩, approval, _, ⟨-, approval_found, rfl⟩, _, _,
    ⟨authorized, rfl⟩, intent, _, ⟨rfl, rfl⟩, _, _, ⟨matching, rfl⟩, _, _, ⟨pending, rfl⟩, _, _, ⟨rfl, rfl⟩, ran⟩ := ran
  refine ⟨reason_given, bounded, command, approval, ⟨found, approval_found, authorized, matching, pending⟩, ?_⟩
  split at ran
  · next late =>
    simp only [bind_eq_ok, pure_eq_ok, Prod.mk.injEq] at ran
    obtain ⟨_, _, ran, ⟨-, rfl⟩, rfl⟩ := ran
    exact .inl ⟨rfl, late, lapse_ok ran⟩
  · next timely =>
    simp only [bind_eq_ok, pure_eq_ok, Prod.mk.injEq] at ran
    obtain ⟨_, _, ran, ⟨-, rfl⟩, rfl⟩ := ran
    exact .inr ⟨rfl, (Library.Timestamp.not_le _ _).mp timely, settle_ok ran⟩

theorem markApprovalExpired_ok {tenant : Uuid} {approvalId commandId : Uuid} {now : Timestamp} {marked : Bool}
    (ran : (markApprovalExpired tenant approvalId commandId now).run s = (.ok marked, t)) :
    marked = false ∧ t = s ∨ marked = true ∧ ∃ command approval,
      s.db.commands.get? (tenant, commandId) = some command ∧
      s.db.approvals.get? (tenant, commandId) = some approval ∧ approval.id = approvalId ∧
      approval.state = .pending ∧ approval.expiresAt ≤ now ∧ command.state = .awaitingApproval ∧
      t = { s with db := { s.db with
        approvals := s.db.approvals.put { approval with state := .expired }
        commands := s.db.commands.put { command with state := .expired } } } := by
  simp only [markApprovalExpired, bind_eq_ok, query_eq_ok] at ran
  obtain ⟨_, _, ⟨rfl, rfl⟩, ran⟩ := ran
  split at ran
  · next approval command approval_found found =>
    split at ran
    · obtain ⟨rfl, rfl⟩ := (pure_eq_ok _ _ _ _).mp ran
      exact .inl ⟨rfl, rfl⟩
    · next due =>
      simp only [not_or, ne_eq, not_not, Library.Timestamp.not_lt] at due
      simp only [bind_eq_ok, ensure_eq_ok, saveApproval, saveCommand, write_eq_ok, pure_eq_ok] at ran
      obtain ⟨_, _, ⟨waiting, rfl⟩, _, _, rfl, _, _, rfl, rfl, rfl⟩ := ran
      exact .inr ⟨rfl, command, approval, found, approval_found, due.1, due.2.1, due.2.2, waiting, rfl⟩
  · obtain ⟨rfl, rfl⟩ := (pure_eq_ok _ _ _ _).mp ran
    exact .inl ⟨rfl, rfl⟩

theorem expireDue_ok {tenant : Uuid} {now : Timestamp} {due : Approval} {result : Option Uuid}
    (ran : (expireDue env tenant now due).run s = (.ok result, t)) :
    t = s ∨ ∃ command approval,
      s.db.commands.get? (tenant, due.commandId) = some command ∧
      s.db.approvals.get? (tenant, due.commandId) = some approval ∧
      approval.state = .pending ∧ approval.expiresAt ≤ now ∧ command.state = .awaitingApproval ∧
      RanOut s tenant command approval
        [("approval_id", .uuid approval.id), ("command_id", .uuid command.id)] now t := by
  simp only [expireDue, bind_eq_ok] at ran
  obtain ⟨marked, middle, marking, ran⟩ := ran
  rcases markApprovalExpired_ok marking with ⟨rfl, rfl⟩ | ⟨rfl, command, approval, found, approval_found, same, pending,
    due, waiting, rfl⟩
  · obtain ⟨-, rfl⟩ := (pure_eq_ok _ _ _ _).mp ran
    exact .inl rfl
  · simp only [if_true, bind_eq_ok, getCommand_eq_ok, audit_eq_ok, publish_eq_ok, pure_eq_ok] at ran
    obtain ⟨expired, _, ⟨expired_found, rfl⟩, ran⟩ := ran
    have named := (Library.Table.key_of_get? expired_found).trans (Library.Table.key_of_get? found).symm
    simp only [Command.key, Prod.mk.injEq] at named
    rw [named.2, ← same] at ran
    obtain ⟨_, _, rfl, _, _, ⟨free, rfl⟩, -, rfl⟩ := ran
    exact .inr ⟨command, approval, found, approval_found, pending, due, waiting, free, _, rfl⟩

end

/-! ## Preparation -/

/-- What `prepare_execution` requires of the store at a time. -/
structure Executable (env : Env) (db : Store) (context : TenantContext) (commandId : Uuid)
    (policyVersion targetVersion : Int) (time : Timestamp) (command : Command) (approval : Approval)
    (intent : ApprovalIntent) : Prop where
  command_found : db.commands.get? (context.tenantId, commandId) = some command
  approval_found : db.approvals.get? (context.tenantId, commandId) = some approval
  intent_found : db.approvalIntents.get? (context.tenantId, commandId) = some intent
  authorized : Authorized db context command.kind.capability
  command_approved : command.state = .approved
  approval_approved : approval.state = .approved
  unexpired : time < approval.expiresAt
  positive : 1 ≤ policyVersion ∧ 1 ≤ targetVersion
  policy_version : policyVersion = intent.policyVersion
  target_version : targetVersion = intent.targetVersion
  intent_matches : IntentMatches env command approval intent
  approver : ∃ user member, approval.decidedBy = some user ∧
    db.memberships.get? (context.tenantId, user) = some member ∧ member.active = true ∧
    member.Available command.kind.capability

/-- The session behind a first preparation. -/
structure FirstPrepared (context : TenantContext) (s : Session Store) (commandId : Uuid) (intent : ApprovalIntent)
    (now : Timestamp) (result : ExecutionPreparation) (t : Session Store) : Prop where
  none_before : s.db.executionPreparations.get? (context.tenantId, commandId) = none
  event_free : s.db.outbox.outboxIdempotency.get? (.uuid context.tenantId, .executionPrepared commandId) = none
  result_eq : result = ⟨s.uuids, context.tenantId, commandId, intent.canonicalDigest, context.userId, now⟩
  written : ∃ row, t = ⟨{ s.db with
    executionPreparations := s.db.executionPreparations.put result
    auditEvents := s.db.auditEvents ++ [row]
    outbox := published s.db.outbox (.pendingEvent (.uuid (s.uuids + 3)) (.uuid context.tenantId) "execution.prepared"
      (.uuid commandId) [("command_id", .uuid commandId), ("preparation_id", .uuid result.id),
        ("intent_digest", .text intent.canonicalDigest)] (.executionPrepared commandId) now) },
    s.reads + 2, s.uuids + 4⟩

theorem executable_ok {commandId : Uuid} {policyVersion targetVersion : Int} {intent : ApprovalIntent}
    {now : Timestamp}
    (ran : (executable env context commandId policyVersion targetVersion).run s = (.ok (intent, now), t)) :
    (∃ command approval, Executable env s.db context commandId policyVersion targetVersion (env.clock s.reads) command
      approval intent) ∧ now = env.clock s.reads ∧ t = { s with reads := s.reads + 1 } := by
  simp only [executable, bind_eq_ok, membership_eq_ok, getCommand_eq_ok, require_eq_ok, getApprovalForCommand_eq_ok,
    getApprovalIntent, query_eq_ok, fetch_eq_ok, ensure_eq_ok, now_eq_ok, checkIntent_eq_ok, contextFor_eq_ok,
    pure_eq_ok, Prod.mk.injEq, exists_and_left, exists_eq_left, exists_eq_left', exists_const, and_assoc] at ran
  obtain ⟨-, -, -, -, command, found, authorized, -, approval, approval_found, _, intent_found, command_approved,
    approval_approved, unexpired, policy_positive, target_positive, policy, target, matching, user, decided, _, _,
    ⟨member, member_found, active, rfl, rfl⟩, ⟨other, other_found, -, -, available⟩, rfl, rfl, rfl⟩ := ran
  have same := Option.some.inj (member_found.symm.trans other_found)
  subst same
  exact ⟨⟨command, approval, found, approval_found, intent_found, authorized, command_approved, approval_approved,
    unexpired, ⟨policy_positive, target_positive⟩, policy, target, matching, user, member, decided, member_found, active, available⟩, rfl, rfl⟩

theorem prepareExecution_ok {commandId : Uuid} {policyVersion targetVersion : Int} {result : ExecutionPreparation}
    {replayed : Bool}
    (ran : (prepareExecution env context commandId policyVersion targetVersion).run s = (.ok (result, replayed), t)) :
    ∃ command approval intent,
      Executable env s.db context commandId policyVersion targetVersion (env.clock s.reads) command approval intent ∧
      (replayed = true ∧ s.db.executionPreparations.get? (context.tenantId, commandId) = some result ∧
          t = { s with reads := s.reads + 1 } ∨
        replayed = false ∧ FirstPrepared context s commandId intent (env.clock s.reads) result t) := by
  rw [prepareExecution, transaction_eq_ok, bind_eq_ok] at ran
  obtain ⟨⟨intent, now⟩, middle, checked, ran⟩ := ran
  obtain ⟨⟨command, approval, holds⟩, rfl, rfl⟩ := executable_ok checked
  refine ⟨command, approval, intent, holds, ?_⟩
  simp only [bind_eq_ok, getExecutionPreparation, query_eq_ok] at ran
  obtain ⟨prior, _, ⟨known, rfl⟩, ran⟩ := ran
  cases prior with
  | some prior =>
    obtain ⟨same, rfl⟩ := (pure_eq_ok _ _ _ _).mp ran
    cases same
    exact .inl ⟨rfl, known, rfl⟩
  | none =>
    simp only [bind_eq_ok, freshUuid_eq_ok, saveExecutionPreparation_eq_ok, auditBy_eq_ok, publish_eq_ok, pure_eq_ok,
      Prod.mk.injEq] at ran
    obtain ⟨_, _, ⟨rfl, rfl⟩, _, _, ⟨-, -, rfl⟩, _, _, rfl, _, _, ⟨free, rfl⟩, ⟨rfl, rfl⟩, rfl⟩ := ran
    exact .inr ⟨rfl, known, free, rfl, _, rfl⟩

/-- A preparation writes itself, an audit and an event, and nothing else. -/
theorem keeps_prepareExecution {υ : Type} {view : Store → υ} (unread : ∀ db preparations events box,
      view { db with executionPreparations := preparations, auditEvents := events, outbox := box } = view db)
    {commandId : Uuid} {policyVersion targetVersion : Int} :
    Library.Txn.Keeps view (prepareExecution env context commandId policyVersion targetVersion) := by
  apply keeps_transaction
  intro s result t ran
  obtain ⟨preparation, replayed⟩ := result
  obtain ⟨_, _, _, -, ⟨-, -, rfl⟩ | ⟨-, first⟩⟩ := prepareExecution_ok ((transaction_eq_ok _ _ _ _).mpr ran)
  · rfl
  · obtain ⟨_, rfl⟩ := first.written
    exact unread _ _ _ _

theorem executable_returns {commandId : Uuid} {policyVersion targetVersion : Int} {command : Command}
    {approval : Approval} {intent : ApprovalIntent}
    (holds : Executable env s.db context commandId policyVersion targetVersion (env.clock s.reads) command approval
      intent) :
    (executable env context commandId policyVersion targetVersion).run s =
      (.ok (intent, env.clock s.reads), { s with reads := s.reads + 1 }) := by
  obtain ⟨caller, caller_found, active, version, available⟩ := holds.authorized
  obtain ⟨user, member, decided, member_found, member_active, member_available⟩ := holds.approver
  simp only [executable, bind_eq_ok, membership_eq_ok, getCommand_eq_ok, require_eq_ok, getApprovalForCommand_eq_ok,
    getApprovalIntent, query_eq_ok, fetch_eq_ok, ensure_eq_ok, now_eq_ok, checkIntent_eq_ok, contextFor_eq_ok,
    pure_eq_ok, Prod.mk.injEq, exists_and_left, exists_eq_left, exists_eq_left', exists_const, and_assoc]
  refine ⟨caller, caller_found, active, version, command, holds.command_found, holds.authorized,
    ⟨command, holds.command_found⟩, approval, holds.approval_found, intent, holds.intent_found, holds.command_approved,
    holds.approval_approved, holds.unexpired, holds.positive.1, holds.positive.2, holds.policy_version, holds.target_version,
    holds.intent_matches, user, decided, _, _, ⟨member, member_found, member_active, rfl, rfl⟩,
    ⟨member, member_found, member_active, rfl, member_available⟩, ?_⟩
  simp

/-- An executable command whose preparation is stored, or whose event is still free, is prepared. -/
theorem prepareExecution_returns {commandId : Uuid} {policyVersion targetVersion : Int} {command : Command}
    {approval : Approval} {intent : ApprovalIntent}
    (holds : Executable env s.db context commandId policyVersion targetVersion (env.clock s.reads) command approval
      intent)
    (free : s.db.executionPreparations.get? (context.tenantId, commandId) = none →
      s.db.outbox.outboxIdempotency.get? (.uuid context.tenantId, .executionPrepared commandId) = none) :
    ∃ result replayed t, (prepareExecution env context commandId policyVersion targetVersion).run s =
      (.ok (result, replayed), t) := by
  have checked := executable_returns holds
  cases known : s.db.executionPreparations.get? (context.tenantId, commandId) with
  | some prior =>
    refine ⟨prior, true, { s with reads := s.reads + 1 }, ?_⟩
    rw [prepareExecution, transaction_eq_ok, bind_eq_ok]
    refine ⟨_, _, checked, ?_⟩
    simp only [bind_eq_ok, getExecutionPreparation, query_eq_ok]
    exact ⟨some prior, _, ⟨known, rfl⟩, (pure_eq_ok _ _ _ _).mpr ⟨rfl, rfl⟩⟩
  | none =>
    have event := free known
    have intents : s.db.approvalIntents.get? (context.tenantId, commandId) ≠ none := by
      rw [holds.intent_found]
      exact Option.some_ne_none _
    refine ⟨⟨s.uuids, context.tenantId, commandId, intent.canonicalDigest, context.userId, env.clock s.reads⟩, false, ?_⟩
    apply Exists.intro
    rw [prepareExecution, transaction_eq_ok, bind_eq_ok]
    refine ⟨_, _, checked, ?_⟩
    rw [bind_eq_ok]
    refine ⟨none, _, (query_eq_ok _ _ _ _).mpr ⟨known, rfl⟩, ?_⟩
    simp only [bind_eq_ok, freshUuid_eq_ok, saveExecutionPreparation_eq_ok, auditBy_eq_ok, publish_eq_ok, pure_eq_ok,
      Prod.mk.injEq]
    exact ⟨_, _, ⟨rfl, rfl⟩, (), _, ⟨intents, known, rfl⟩, (), _, rfl, (), _, ⟨event, rfl⟩, ⟨rfl, trivial⟩, rfl⟩

end AiStore.Service
