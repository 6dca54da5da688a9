import AiStore.Gateway.Tools
import AiStore.Service.ApprovalRuns

/-! What a submission to the tool gateway decides, and what it writes. -/

set_option autoImplicit false

namespace AiStore.Gateway

open Library (Session Table)
open Library.Txn Failure Repository Service

variable {env : Env} {context : TenantContext} {s t : Session Store} {submission : ToolSubmission} {approvalId : Ident}

/-! ## The approval of a submission -/

/-- The approval, its command and its intent are about the submission. -/
structure Matched (env : Env) (db : Store) (tenant : Uuid) (submission : ToolSubmission) (approvalId : Ident)
    (approval : Approval) (command : Command) (intent : ApprovalIntent) : Prop where
  approval_found : (db.approvals.rows.find? fun row => row.tenantId = tenant ∧ .uuid row.id = approvalId) = some approval
  command_found : db.commands.get? (tenant, approval.commandId) = some command
  intent_found : db.approvalIntents.get? (tenant, command.id) = some intent
  kind : command.kind ∈ toolApprovalKinds submission.tool
  target : command.targetRef = submission.targetRef
  payload_encodable : Encodable env (.dict command.payload) "input"
  input_encodable : Encodable env (.dict submission.input) "input"
  payload : sorted (.dict command.payload) = sorted (.dict submission.input)
  policy_version : intent.policyVersion = submission.requestedPolicyVersion

theorem matchedApproval_eq_ok {tenant : Uuid} {command : Command} {intent : ApprovalIntent} :
    (matchedApproval env tenant submission approvalId).run s = (.ok (command, intent), t) ↔
      (∃ approval, Matched env s.db tenant submission approvalId approval command intent) ∧ t = s := by
  simp only [matchedApproval, getApproval, getApprovalIntent, bind_eq_ok, query_eq_ok, fetch_eq_ok, getCommand_eq_ok,
    ensure_eq_ok, encode_eq_ok, pure_eq_ok, Prod.mk.injEq]
  constructor
  · rintro ⟨approval, _, ⟨_, _, ⟨rfl, rfl⟩, found, rfl⟩, _, _, ⟨command_found, rfl⟩, _, _, ⟨rfl, rfl⟩, _, _,
      ⟨intent_found, rfl⟩, _, _, ⟨⟨kind, target⟩, rfl⟩, _, _, ⟨payload_encodable, rfl, rfl⟩, _, _,
      ⟨input_encodable, rfl, rfl⟩, _, _, ⟨⟨payload, policy⟩, rfl⟩, ⟨rfl, rfl⟩, rfl⟩
    exact ⟨⟨approval, found, command_found, intent_found, kind, target, payload_encodable, input_encodable, payload,
      policy⟩, rfl⟩
  · rintro ⟨⟨approval, matched⟩, rfl⟩
    exact ⟨approval, _, ⟨_, _, ⟨rfl, rfl⟩, matched.approval_found, rfl⟩, _, _, ⟨matched.command_found, rfl⟩, _, _,
      ⟨rfl, rfl⟩, _, _, ⟨matched.intent_found, rfl⟩, (), _, ⟨⟨matched.kind, matched.target⟩, rfl⟩, _, _,
      ⟨matched.payload_encodable, rfl, rfl⟩, _, _, ⟨matched.input_encodable, rfl, rfl⟩, (), _,
      ⟨⟨matched.payload, matched.policy_version⟩, rfl⟩, ⟨rfl, rfl⟩, rfl⟩

theorem keeps_matchedApproval {υ : Type} {view : Store → υ} {tenant : Uuid} :
    Keeps view (matchedApproval env tenant submission approvalId) := by
  refine ((keeps_query _).bind fun _ => keeps_fetch _ _).bind fun _ => (keeps_getCommand _).bind fun _ => ?_
  refine (keeps_query _).bind fun _ => (keeps_fetch _ _).bind fun _ => (keeps_ensure _ _).bind fun _ => ?_
  exact (keeps_encode _ _).bind fun _ => (keeps_encode _ _).bind fun _ => (keeps_ensure _ _).bind fun _ => keeps_pure _

theorem Matched.unique {db : Store} {tenant : Uuid} {approval approval' : Approval} {command command' : Command}
    {intent intent' : ApprovalIntent}
    (first : Matched env db tenant submission approvalId approval command intent)
    (second : Matched env db tenant submission approvalId approval' command' intent') :
    command = command' ∧ intent = intent' := by
  cases Option.some.inj (first.approval_found.symm.trans second.approval_found)
  cases Option.some.inj (first.command_found.symm.trans second.command_found)
  exact ⟨rfl, Option.some.inj (first.intent_found.symm.trans second.intent_found)⟩

def tenantTools (db : Store) (tenant : Uuid) : List DemoToolCommand :=
  db.toolCommands.rows.filter (·.tenantId = tenant)

theorem validatedToolApproval_ok {approved : Uuid × String}
    (ran : (validatedToolApproval env context submission approvalId).run s = (.ok approved, t)) :
    ∃ approval command intent preparation replayed,
      Matched env s.db context.tenantId submission approvalId approval command intent ∧
      ¬ UsedElsewhere (tenantTools s.db context.tenantId) approvalId submission.idempotencyKey ∧
      (prepareExecution env context command.id submission.requestedPolicyVersion intent.targetVersion).run s =
        (.ok (preparation, replayed), t) ∧
      preparation.canonicalDigest = intent.canonicalDigest ∧ approved = (command.id, intent.canonicalDigest) := by
  simp only [validatedToolApproval, toolCommandsFor, bind_eq_ok, query_eq_ok, ensure_eq_ok, pure_eq_ok] at ran
  obtain ⟨⟨command, intent⟩, _, matching, _, _, ⟨rfl, rfl⟩, _, _, ⟨unused, rfl⟩, ⟨preparation, replayed⟩, _, prepared,
    _, _, ⟨digest, rfl⟩, rfl, rfl⟩ := ran
  obtain ⟨⟨approval, matched⟩, rfl⟩ := matchedApproval_eq_ok.mp matching
  exact ⟨approval, command, intent, preparation, replayed, matched, unused, prepared, digest, rfl⟩

/-! ## What a validation raises -/

/-- A failure the gateway turns into a block for another reason than a second use. -/
def Refuses (why : Failure) : Prop := Blocks why ∧ why.message ≠ "approval_already_used"

instance : DecidablePred Refuses := fun why => by
  unfold Refuses
  exact inferInstance

theorem raises_getCommand {tenant id : Uuid} : Raises Refuses (getCommand tenant id) := by
  refine (raises_query _).bind fun rows => ?_
  cases rows.get? (tenant, id) with
  | some row => exact raises_pure row
  | none => exact (raises_raise (by decide)).ite (raises_raise (by decide))

theorem raises_membership : Raises Refuses (membership context) :=
  ((raises_query _).bind fun _ => raises_fetch (by decide) _).bind fun _ =>
    (raises_ensure _ (by decide)).bind fun _ => raises_pure _

theorem raises_require (capability : Capability) : Raises Refuses (require context capability) :=
  raises_membership.bind fun _ => raises_ensure _ (by cases capability <;> decide)

theorem raises_getApprovalForCommand {tenant id : Uuid} : Raises Refuses (getApprovalForCommand tenant id) :=
  raises_getCommand.bind fun _ => (raises_query _).bind fun _ => raises_fetch (by decide) _

theorem raises_checkIntent {command : Command} {approval : Approval} {intent : ApprovalIntent} :
    Raises Refuses (checkIntent env command approval intent) :=
  ((raises_ensure _ (by decide)).bind fun _ => raises_pure _).bind fun _ => raises_ensure _ (by decide)

theorem raises_executable {commandId : Uuid} {policyVersion targetVersion : Int} :
    Raises Refuses (executable env context commandId policyVersion targetVersion) := by
  refine raises_membership.bind fun _ => raises_getCommand.bind fun _ => (raises_require _).bind fun _ => ?_
  refine raises_getApprovalForCommand.bind fun _ => (raises_query _).bind fun _ => ?_
  refine (raises_fetch (by decide) _).bind fun _ => (raises_ensure _ (by decide)).bind fun _ => ?_
  refine (raises_readClock _).bind fun _ => (raises_ensure _ (by decide)).bind fun _ => ?_
  refine (raises_ensure _ (by decide)).bind fun _ => raises_checkIntent.bind fun _ => ?_
  refine (raises_fetch (by decide) _).bind fun _ => Raises.bind ?_ fun _ => (raises_require _).bind fun _ => raises_pure _
  exact ((raises_query _).bind fun _ => raises_fetch (by decide) _).bind fun _ =>
    (raises_ensure _ (by decide)).bind fun _ => raises_pure _

theorem raises_publish {tenant aggregate : Uuid} {topic : String} {payload : Mapping} {key : OutboxKey}
    {createdAt : Timestamp} : Raises Refuses (publish tenant topic aggregate payload key createdAt) := by
  refine raises_freshUuid.bind fun _ => (raises_query _).bind fun _ => ?_
  refine Raises.bind (raises_ofExcept fun why raised => ?_) fun _ => raises_write _
  unfold InMemoryRepository.appendOutbox at raised
  split at raised
  · cases raised
    decide
  · cases raised

theorem raises_auditBy {action : String} {target : Uuid} {outcome : String} {metadata : Mapping} :
    Raises Refuses (auditBy env context action target outcome metadata) :=
  (raises_query _).bind fun _ => raises_freshUuid.bind fun _ => raises_freshUuid.bind fun _ =>
    (raises_readClock _).bind fun _ => raises_write _

theorem raises_prepareExecution {commandId : Uuid} {policyVersion targetVersion : Int} :
    Raises Refuses (prepareExecution env context commandId policyVersion targetVersion) := by
  refine Raises.transaction (raises_executable.bind fun found => (raises_query _).bind fun prior => ?_)
  cases prior with
  | some prior => exact raises_pure _
  | none =>
    refine raises_freshUuid.bind fun _ => Raises.bind ?_ fun _ => raises_auditBy.bind fun _ => raises_publish.bind fun _ =>
      raises_pure _
    refine (raises_query _).bind fun _ => (raises_ensure _ (by decide)).bind fun _ => (raises_query _).bind fun _ => ?_
    exact (raises_ensure _ (by decide)).bind fun _ => raises_write _

mutual

theorem walk_error {label : String} {why : Failure} : ∀ value, walk env label value = .error why →
    why = conflictError (label ++ " must be JSON") ∨ why = conflictError ("raw secret in " ++ label)
  | .list items, raised => walkItems_error items (by rw [walk] at raised; exact raised)
  | .dict entries, raised => walkEntries_error entries (by rw [walk] at raised; exact raised)
  | .time _, raised => by
      rw [walk] at raised
      exact .inl (Except.error.inj raised).symm
  | .foreign _, raised => by
      rw [walk] at raised
      exact .inl (Except.error.inj raised).symm
  | .none, raised | .bool _, raised | .int _, raised | .float _, raised | .text _, raised | .uuid _, raised => by
      simp [walk] at raised

theorem walkItems_error {label : String} {why : Failure} : ∀ items, walkItems env label items = .error why →
    why = conflictError (label ++ " must be JSON") ∨ why = conflictError ("raw secret in " ++ label)
  | [], raised => by simp [walkItems] at raised
  | item :: rest, raised => by
      rw [walkItems] at raised
      cases first : walk env label item with
      | error other =>
        rw [first] at raised
        cases raised
        exact walk_error item first
      | ok _ =>
        rw [first] at raised
        exact walkItems_error rest raised

theorem walkEntries_error {label : String} {why : Failure} : ∀ entries, walkEntries env label entries = .error why →
    why = conflictError (label ++ " must be JSON") ∨ why = conflictError ("raw secret in " ++ label)
  | [], raised => by simp [walkEntries] at raised
  | (key, item) :: rest, raised => by
      rw [walkEntries] at raised
      split at raised
      · exact .inr (Except.error.inj raised).symm
      · cases first : walk env label item with
        | error other =>
          rw [first] at raised
          cases raised
          exact walk_error item first
        | ok _ =>
          rw [first] at raised
          exact walkEntries_error rest raised

end

theorem raises_encode {value : Value} : Raises Refuses (encode env value "input") := by
  refine Raises.bind (raises_ofExcept ?_) fun _ => (raises_ensure _ (by decide)).bind fun _ =>
    (raises_ensure _ (by decide)).bind fun _ => raises_pure _
  intro why raised
  obtain rfl | rfl := walk_error value raised
  · decide
  · decide

theorem raises_matchedApproval {tenant : Uuid} : Raises Refuses (matchedApproval env tenant submission approvalId) := by
  refine Raises.bind ((raises_query _).bind fun _ => raises_fetch (by decide) _) fun _ => ?_
  refine raises_getCommand.bind fun _ => (raises_query _).bind fun _ => (raises_fetch (by decide) _).bind fun _ => ?_
  refine (raises_ensure _ (by decide)).bind fun _ => raises_encode.bind fun _ => raises_encode.bind fun _ => ?_
  exact (raises_ensure _ (by decide)).bind fun _ => raises_pure _

/-! ## Decisions -/

/-- The approval may be executed now: it has been prepared for its intent, or nothing stands in the way of that. -/
structure Preparable (env : Env) (db : Store) (context : TenantContext) (commandId : Uuid) (time : Timestamp)
    (intent : ApprovalIntent) : Prop where
  executable : ∃ command approval, Executable env db context commandId intent.policyVersion intent.targetVersion time
    command approval intent
  preparation : (∃ prior, db.executionPreparations.get? (context.tenantId, commandId) = some prior ∧
      prior.canonicalDigest = intent.canonicalDigest) ∨
    db.executionPreparations.get? (context.tenantId, commandId) = none ∧
      db.outbox.outboxIdempotency.get? (.uuid context.tenantId, .executionPrepared commandId) = none

/-- The approval lets the submission pass. -/
def Cleared (env : Env) (db : Store) (context : TenantContext) (time : Timestamp) (submission : ToolSubmission)
    (approvalId : Ident) : Prop :=
  ∃ approval command intent, Matched env db context.tenantId submission approvalId approval command intent ∧
    ¬ UsedElsewhere (tenantTools db context.tenantId) approvalId submission.idempotencyKey ∧
    Preparable env db context command.id time intent

/-- The approval would let it pass, had another command not been accepted under it. -/
def UsedUp (env : Env) (db : Store) (tenant : Uuid) (submission : ToolSubmission) (approvalId : Ident) : Prop :=
  ∃ approval command intent, Matched env db tenant submission approvalId approval command intent ∧
    UsedElsewhere (tenantTools db tenant) approvalId submission.idempotencyKey

/-- What a submission is told by a store at a time. -/
inductive Decides (env : Env) (db : Store) (context : TenantContext) (time : Timestamp) (submission : ToolSubmission) :
    Option String → Prop where
  | stopped : Stopped context.tenantId db submission.connection →
      Decides env db context time submission (some "stop_active")
  | bookkeeping : ¬ Stopped context.tenantId db submission.connection → ¬ Mutating submission.tool →
      Decides env db context time submission none
  | unapproved : ¬ Stopped context.tenantId db submission.connection → Mutating submission.tool →
      submission.approvalId = none → Decides env db context time submission (some "approval_required")
  | cleared {approvalId : Ident} : ¬ Stopped context.tenantId db submission.connection → Mutating submission.tool →
      submission.approvalId = some approvalId → Cleared env db context time submission approvalId →
      Decides env db context time submission none
  | usedUp {approvalId : Ident} : ¬ Stopped context.tenantId db submission.connection → Mutating submission.tool →
      submission.approvalId = some approvalId → UsedUp env db context.tenantId submission approvalId →
      Decides env db context time submission (some "approval_already_used")
  | refused {approvalId : Ident} : ¬ Stopped context.tenantId db submission.connection → Mutating submission.tool →
      submission.approvalId = some approvalId → ¬ Cleared env db context time submission approvalId →
      ¬ UsedUp env db context.tenantId submission approvalId →
      Decides env db context time submission (some "approval_intent_mismatch")

theorem not_cleared_of_usedUp {db : Store} {time : Timestamp} (used : UsedUp env db context.tenantId submission approvalId) :
    ¬ Cleared env db context time submission approvalId := by
  rintro ⟨_, _, _, -, unused, -⟩
  obtain ⟨_, _, _, -, elsewhere⟩ := used
  exact unused elsewhere

theorem Decides.unique {db : Store} {time : Timestamp} {first second : Option String}
    (left : Decides env db context time submission first) (right : Decides env db context time submission second) :
    first = second := by
  have given : ∀ {a b : Ident}, submission.approvalId = some a → submission.approvalId = some b → a = b :=
    fun one other => Option.some.inj (one.symm.trans other)
  cases left with
  | stopped stop => cases right <;> first | rfl | contradiction
  | bookkeeping free reading => cases right <;> first | rfl | contradiction
  | unapproved free mutating missing =>
    cases right with
    | unapproved => rfl
    | stopped | bookkeeping => contradiction
    | cleared _ _ present | usedUp _ _ present | refused _ _ present => cases missing.symm.trans present
  | cleared free mutating present clear =>
    cases right with
    | cleared => rfl
    | stopped | bookkeeping => contradiction
    | unapproved _ _ missing => cases missing.symm.trans present
    | usedUp _ _ other used => exact absurd clear (given present other ▸ not_cleared_of_usedUp used)
    | refused _ _ other unclear => exact absurd clear (given present other ▸ unclear)
  | usedUp free mutating present used =>
    cases right with
    | usedUp => rfl
    | stopped | bookkeeping => contradiction
    | unapproved _ _ missing => cases missing.symm.trans present
    | cleared _ _ other clear => exact absurd (given present other ▸ clear) (not_cleared_of_usedUp used)
    | refused _ _ other _ unused => exact absurd used (given present other ▸ unused)
  | refused free mutating present unclear unused =>
    cases right with
    | refused => rfl
    | stopped | bookkeeping => contradiction
    | unapproved _ _ missing => cases missing.symm.trans present
    | cleared _ _ other clear => exact absurd (given present other ▸ clear) unclear
    | usedUp _ _ other used => exact absurd (given present other ▸ used) unused

/-! ## Verdicts -/

theorem Preparable.returns {commandId : Uuid} {intent : ApprovalIntent}
    (preparable : Preparable env s.db context commandId (env.clock s.reads) intent) :
    ∃ preparation replayed t, (prepareExecution env context commandId intent.policyVersion intent.targetVersion).run s =
      (.ok (preparation, replayed), t) := by
  obtain ⟨command, approval, executable⟩ := preparable.executable
  refine prepareExecution_returns executable ?_
  intro unprepared
  rcases preparable.preparation with ⟨prior, found, -⟩ | ⟨-, free⟩
  · rw [unprepared] at found
    cases found
  · exact free

/-- A preparation that returns carries the digest of the intent exactly when the one before it, if any, did. -/
theorem preparable_iff {commandId : Uuid} {intent : ApprovalIntent} {preparation : ExecutionPreparation} {replayed : Bool}
    (intent_found : s.db.approvalIntents.get? (context.tenantId, commandId) = some intent)
    (ran : (prepareExecution env context commandId intent.policyVersion intent.targetVersion).run s =
      (.ok (preparation, replayed), t)) :
    Preparable env s.db context commandId (env.clock s.reads) intent ↔
      preparation.canonicalDigest = intent.canonicalDigest := by
  obtain ⟨command, approval, other, executable, outcome⟩ := prepareExecution_ok ran
  cases Option.some.inj (executable.intent_found.symm.trans intent_found)
  rcases outcome with ⟨-, found, -⟩ | ⟨-, first⟩
  · constructor
    · intro preparable
      rcases preparable.preparation with ⟨prior, known, digest⟩ | ⟨unprepared, -⟩
      · cases Option.some.inj (known.symm.trans found)
        exact digest
      · rw [unprepared] at found
        cases found
    · exact fun digest => ⟨⟨command, approval, executable⟩, .inl ⟨preparation, found, digest⟩⟩
  · constructor
    · intro _
      rw [first.result_eq]
    · exact fun _ => ⟨⟨command, approval, executable⟩, .inr ⟨first.none_before, first.event_free⟩⟩

theorem validatedToolApproval_error {why : Failure}
    (raised : (validatedToolApproval env context submission approvalId).run s = (.error why, t)) :
    why.message = "approval_already_used" ∧ UsedUp env s.db context.tenantId submission approvalId ∨
      why.message ≠ "approval_already_used" ∧ ¬ UsedUp env s.db context.tenantId submission approvalId ∧
        ¬ Cleared env s.db context (env.clock s.reads) submission approvalId := by
  simp only [validatedToolApproval, toolCommandsFor, bind_eq_error, query_eq_error, query_eq_ok, ensure_eq_error,
    ensure_eq_ok, pure_eq_error, false_or, and_false, exists_false, or_false] at raised
  rcases raised with unmatched | ⟨⟨command, intent⟩, middle, matching, raised⟩
  · -- nothing matches the submission
    have none_matched : ∀ approval command intent,
        ¬ Matched env s.db context.tenantId submission approvalId approval command intent := by
      intro approval command intent matched
      have ran := matchedApproval_eq_ok.mpr ⟨⟨approval, matched⟩, (rfl : s = s)⟩
      rw [unmatched] at ran
      cases ran
    refine .inr ⟨(raises_matchedApproval _ _ _ unmatched).2, ?_, ?_⟩
    · rintro ⟨approval, command, intent, matched, -⟩
      exact none_matched _ _ _ matched
    · rintro ⟨approval, command, intent, matched, -⟩
      exact none_matched _ _ _ matched
  · obtain ⟨⟨approval, matched⟩, same⟩ := matchedApproval_eq_ok.mp matching
    rw [same] at raised
    obtain ⟨rows, _, ⟨rows_eq, same⟩, raised⟩ := raised
    rw [same, ← rows_eq] at raised
    rcases raised with ⟨used, rfl, -⟩ | ⟨_, _, ⟨unused, same⟩, raised⟩
    · exact .inl ⟨rfl, approval, command, intent, matched, not_not.mp used⟩
    · rw [same] at raised
      have fresh : ¬ UsedUp env s.db context.tenantId submission approvalId := by
        rintro ⟨_, _, _, -, used⟩
        exact unused used
      -- the only approval, command and intent that match
      have cleared : Cleared env s.db context (env.clock s.reads) submission approvalId →
          Preparable env s.db context command.id (env.clock s.reads) intent := by
        rintro ⟨_, _, _, other, -, preparable⟩
        obtain ⟨rfl, rfl⟩ := matched.unique other
        exact preparable
      rw [← matched.policy_version] at raised
      rcases raised with refused | ⟨⟨preparation, replayed⟩, _, prepared, raised⟩
      · refine .inr ⟨(raises_prepareExecution _ _ _ refused).2, fresh, ?_⟩
        intro clear
        obtain ⟨_, _, _, ran⟩ := (cleared clear).returns
        rw [refused] at ran
        cases ran
      · obtain ⟨differs, rfl, rfl⟩ := raised
        refine .inr ⟨by decide, fresh, ?_⟩
        intro clear
        exact differs ((preparable_iff matched.intent_found prepared).mp (cleared clear))

theorem raises_validatedToolApproval : Raises Blocks (validatedToolApproval env context submission approvalId) := by
  have weaker : ∀ why, Refuses why → Blocks why := fun _ refuses => refuses.1
  refine (raises_matchedApproval.mono weaker).bind fun _ => (raises_query _).bind fun _ => ?_
  refine (raises_ensure _ (by decide)).bind fun _ => (raises_prepareExecution.mono weaker).bind fun _ => ?_
  exact (raises_ensure _ (by decide)).bind fun _ => raises_pure _

/-- A validation that fails leaves the store alone. -/
theorem validatedToolApproval_unwinds {why : Failure}
    (raised : (validatedToolApproval env context submission approvalId).run s = (.error why, t)) : t.db = s.db := by
  have reading : Keeps (fun db : Store => db) (matchedApproval env context.tenantId submission approvalId) := by
    refine ((keeps_query _).bind fun _ => keeps_fetch _ _).bind fun _ => (keeps_getCommand _).bind fun _ => ?_
    refine (keeps_query _).bind fun _ => (keeps_fetch _ _).bind fun _ => (keeps_ensure _ _).bind fun _ => ?_
    exact (keeps_encode _ _).bind fun _ => (keeps_encode _ _).bind fun _ => (keeps_ensure _ _).bind fun _ => keeps_pure _
  simp only [validatedToolApproval, toolCommandsFor, bind_eq_error, query_eq_error, query_eq_ok, ensure_eq_error,
    ensure_eq_ok, pure_eq_error, false_or, and_false, exists_false, or_false] at raised
  rcases raised with unmatched | ⟨⟨command, intent⟩, middle, matching, raised⟩
  · exact reading.of_run unmatched
  · obtain ⟨⟨approval, matched⟩, same⟩ := matchedApproval_eq_ok.mp matching
    rw [same] at raised
    obtain ⟨rows, _, ⟨-, same⟩, raised⟩ := raised
    rw [same] at raised
    rcases raised with ⟨-, -, same⟩ | ⟨_, _, ⟨-, same⟩, raised⟩
    · rw [same]
    · rw [same] at raised
      rcases raised with refused | ⟨⟨preparation, replayed⟩, _, prepared, differs, -, same⟩
      · exact transaction_error_db refused
      · rw [same]
        -- a first preparation would have carried the digest
        obtain ⟨_, _, other, executable, ⟨-, -, rfl⟩ | ⟨-, first⟩⟩ := prepareExecution_ok prepared
        · rfl
        · cases Option.some.inj (executable.intent_found.symm.trans matched.intent_found)
          exact absurd (by rw [first.result_eq]) differs

/-- How a verdict comes about, and the session behind it. -/
inductive Judged (env : Env) (s : Session Store) (context : TenantContext) (submission : ToolSubmission) :
    Verdict → Session Store → Prop where
  | stopped : Stopped context.tenantId s.db submission.connection →
      Judged env s context submission ⟨.blocked, some "stop_active", none⟩ s
  | bookkeeping : ¬ Stopped context.tenantId s.db submission.connection → ¬ Mutating submission.tool →
      Judged env s context submission ⟨.accepted, none, none⟩ s
  | unapproved : ¬ Stopped context.tenantId s.db submission.connection → Mutating submission.tool →
      submission.approvalId = none → Judged env s context submission ⟨.approvalRequired, some "approval_required", none⟩ s
  | cleared {approvalId : Ident} {approval : Approval} {command : Command} {intent : ApprovalIntent}
      {preparation : ExecutionPreparation} {replayed : Bool} {t : Session Store} :
      ¬ Stopped context.tenantId s.db submission.connection → Mutating submission.tool →
      submission.approvalId = some approvalId →
      Matched env s.db context.tenantId submission approvalId approval command intent →
      ¬ UsedElsewhere (tenantTools s.db context.tenantId) approvalId submission.idempotencyKey →
      (prepareExecution env context command.id submission.requestedPolicyVersion intent.targetVersion).run s =
        (.ok (preparation, replayed), t) →
      preparation.canonicalDigest = intent.canonicalDigest →
      Judged env s context submission ⟨.accepted, none, some (command.id, intent.canonicalDigest)⟩ t
  | refused {approvalId : Ident} {why : Failure} {t : Session Store} :
      ¬ Stopped context.tenantId s.db submission.connection → Mutating submission.tool →
      submission.approvalId = some approvalId →
      (validatedToolApproval env context submission approvalId).run s = (.error why, t) →
      Judged env s context submission ⟨.blocked, some (blockedReason why), none⟩ t

/-- The gateway always comes to a verdict. -/
theorem judge_run (env : Env) (s : Session Store) (context : TenantContext) (submission : ToolSubmission) :
    ∃ verdict t, (judge env context submission).run s = (.ok verdict, t) ∧ Judged env s context submission verdict t := by
  by_cases stop : Stopped context.tenantId s.db submission.connection
  · refine ⟨_, s, ?_, .stopped stop⟩
    simp [judge, demoStopActive, stop]
  by_cases mutating : Mutating submission.tool
  · cases given : submission.approvalId with
    | none =>
      refine ⟨_, s, ?_, .unapproved stop mutating given⟩
      simp [judge, demoStopActive, stop, mutating, given]
    | some approvalId =>
      rcases ran : (validatedToolApproval env context submission approvalId).run s with ⟨why | approved, t⟩
      · have blocks := raises_validatedToolApproval _ _ _ ran
        refine ⟨_, t, ?_, .refused stop mutating given ran⟩
        simp [judge, demoStopActive, stop, mutating, given, ran, verdictOn, blocks]
      · obtain ⟨approval, command, intent, preparation, replayed, matched, unused, prepared, digest, rfl⟩ :=
          validatedToolApproval_ok ran
        refine ⟨_, t, ?_, .cleared stop mutating given matched unused prepared digest⟩
        simp [judge, demoStopActive, stop, mutating, given, ran, verdictOn]
  · refine ⟨_, s, ?_, .bookkeeping stop mutating⟩
    simp [judge, demoStopActive, stop, mutating]

theorem judge_ok {verdict : Verdict} (ran : (judge env context submission).run s = (.ok verdict, t)) :
    Judged env s context submission verdict t := by
  obtain ⟨other, after, same, judged⟩ := judge_run env s context submission
  rw [ran] at same
  cases same
  exact judged

theorem Judged.decides {verdict : Verdict} (judged : Judged env s context submission verdict t) :
    Decides env s.db context (env.clock s.reads) submission verdict.blocked := by
  cases judged with
  | stopped stop => exact .stopped stop
  | bookkeeping free reading => exact .bookkeeping free reading
  | unapproved free mutating missing => exact .unapproved free mutating missing
  | cleared free mutating given matched unused prepared digest =>
    rw [← matched.policy_version] at prepared
    exact .cleared free mutating given ⟨_, _, _, matched, unused, (preparable_iff matched.intent_found prepared).mpr digest⟩
  | refused free mutating given raised =>
    rcases validatedToolApproval_error raised with ⟨message, used⟩ | ⟨message, unused, unclear⟩
    · simp only [blockedReason, message, if_true]
      exact .usedUp free mutating given used
    · simp only [blockedReason, message, if_false]
      exact .refused free mutating given unclear unused

/-! ## Filing -/

/-- The command of the tenant under an idempotency key. -/
def toolFor (db : Store) (tenant : Uuid) (idempotencyKey : String) : Option DemoToolCommand :=
  (tenantTools db tenant).find? (·.idempotencyKey = idempotencyKey)

/-- The command a submission files in a session. -/
def filedTool (env : Env) (s : Session Store) (tenant : Uuid) (submission : ToolSubmission) (verdict : Verdict) :
    DemoToolCommand :=
  newToolCommand s.uuids tenant submission (sorted (.dict submission.input)) verdict (env.clock s.reads)

/-- The session behind a first submission of a key. -/
structure ToolFiled (env : Env) (s : Session Store) (tenant : Uuid) (submission : ToolSubmission) (verdict : Verdict)
    (value : DemoToolCommand) (t : Session Store) : Prop where
  fresh : toolFor s.db tenant submission.idempotencyKey = none
  value_eq : value = filedTool env s tenant submission verdict
  uuids : s.uuids < t.uuids
  reads : s.reads ≤ t.reads
  written : ∃ row,
    (∃ command digest id, verdict.approved = some (command, digest) ∧ verdict.state = .accepted ∧ s.uuids ≤ id ∧
      id < t.uuids ∧ t.db = { s.db with
        toolCommands := s.db.toolCommands.put value
        auditEvents := s.db.auditEvents ++ [row]
        outbox := published s.db.outbox (.pendingEvent (.uuid id) (.uuid tenant) "tool.command" (.uuid value.id)
          [("command_id", .uuid value.id), ("state", .text verdict.state.value), ("mode", .text "DEMO"),
            ("intent_digest", .text digest)] (.tool value.id) value.createdAt) }) ∨
    (verdict.approved = none ∨ verdict.state ≠ .accepted) ∧ t.db = { s.db with
      toolCommands := s.db.toolCommands.put value
      auditEvents := s.db.auditEvents ++ [row] }

theorem saveToolCommand_ok {value result : DemoToolCommand} {replay : Bool}
    (ran : (saveToolCommand value).run s = (.ok (result, replay), t)) :
    replay = true ∧ toolFor s.db value.tenantId value.idempotencyKey = some result ∧ result.request = value.request ∧
        t = s ∨
      replay = false ∧ toolFor s.db value.tenantId value.idempotencyKey = none ∧ result = value ∧
        t = { s with db := { s.db with toolCommands := s.db.toolCommands.put value } } := by
  simp only [saveToolCommand, toolCommandsFor, bind_eq_ok, query_eq_ok] at ran
  obtain ⟨_, _, ⟨rfl, rfl⟩, ran⟩ := ran
  split at ran
  · next prior found =>
    simp only [bind_eq_ok, ensure_eq_ok, pure_eq_ok, Prod.mk.injEq] at ran
    obtain ⟨_, _, ⟨same, rfl⟩, ⟨rfl, rfl⟩, rfl⟩ := ran
    exact .inl ⟨rfl, found, same, rfl⟩
  · next missing =>
    simp only [bind_eq_ok, write_eq_ok, pure_eq_ok, Prod.mk.injEq] at ran
    obtain ⟨_, _, rfl, ⟨rfl, rfl⟩, rfl⟩ := ran
    exact .inr ⟨rfl, missing, rfl, rfl⟩

/-- A submission is answered by the command of its key, or files one. -/
theorem fileTool_ok {verdict : Verdict} {value : DemoToolCommand}
    (ran : (fileTool env context submission (sorted (.dict submission.input)) verdict).run s = (.ok value, t)) :
    toolFor s.db context.tenantId submission.idempotencyKey = some value ∧
        value.request = (filedTool env s context.tenantId submission verdict).request ∧ t.db = s.db ∨
      ToolFiled env s context.tenantId submission verdict value t := by
  simp only [fileTool, bind_eq_ok, freshUuid_eq_ok, now_eq_ok] at ran
  obtain ⟨_, _, ⟨rfl, rfl⟩, _, _, ⟨rfl, rfl⟩, ⟨result, replay⟩, _, saved, ran⟩ := ran
  rcases saveToolCommand_ok saved with ⟨rfl, found, same, rfl⟩ | ⟨rfl, missing, rfl, rfl⟩
  · obtain ⟨rfl, rfl⟩ := (pure_eq_ok _ _ _ _).mp ran
    exact .inl ⟨found, same, rfl⟩
  · simp only [Bool.false_eq_true, if_false, bind_eq_ok, auditBy_eq_ok, pure_eq_ok] at ran
    obtain ⟨_, _, rfl, _, _, dispatched, rfl, rfl⟩ := ran
    refine .inr ?_
    unfold dispatchTool at dispatched
    split at dispatched
    · next command digest approved =>
      split at dispatched
      · next accepted =>
        rw [publish_eq_ok] at dispatched
        obtain ⟨-, rfl⟩ := dispatched
        refine ⟨missing, rfl, ?_, ?_, _, .inl ⟨command, digest, s.uuids + 3, approved, accepted, ?_, ?_, rfl⟩⟩
        · exact Nat.lt_add_right 3 (Nat.lt_succ_self _)
        · exact Nat.le_add_right _ 2
        · exact Nat.le_add_right _ 3
        · exact Nat.lt_succ_self _
      · next blocked =>
        obtain ⟨-, rfl⟩ := (pure_eq_ok _ _ _ _).mp dispatched
        refine ⟨missing, rfl, ?_, ?_, _, .inr ⟨.inr blocked, rfl⟩⟩
        · exact Nat.lt_add_right 2 (Nat.lt_succ_self _)
        · exact Nat.le_add_right _ 2
    · next approved =>
      obtain ⟨-, rfl⟩ := (pure_eq_ok _ _ _ _).mp dispatched
      refine ⟨missing, rfl, ?_, ?_, _, .inr ⟨.inl approved, rfl⟩⟩
      · exact Nat.lt_add_right 2 (Nat.lt_succ_self _)
      · exact Nat.le_add_right _ 2

/-! ## Submissions -/

/-- What a submission is checked for before the store is looked at. -/
structure WellTyped (env : Env) (submission : ToolSubmission) : Prop where
  typed : submission.actorType ∈ ["user", "agent", "workflow"] ∧ submission.tool ∈ tools ∧
    submission.targetType ∈ targets ∧ 1 ≤ submission.requestedPolicyVersion
  named : opaqueText submission.actorId = true ∧ opaqueText submission.targetId = true ∧
    opaqueText submission.idempotencyKey = true
  approval : ∀ words, submission.approvalId = some (.text words) → opaqueText words = true
  input : Encodable env (.dict submission.input) "input"

@[simp] theorem opaqueApproval_eq_ok {given : Option Ident} {u : Unit} :
    (opaqueApproval given).run s = (.ok u, t) ↔ (∀ words, given = some (.text words) → opaqueText words = true) ∧ t = s := by
  rcases given with _ | _ | words <;> simp [opaqueApproval]

/-- The two halves of a submission's transaction. -/
theorem submitDemoTool_eq_ok {reply : ToolReply} :
    (submitDemoTool env context submission).run s = (.ok reply, t) ↔
      Authorized s.db context .tenantAdmin ∧ WellTyped env submission ∧ ∃ verdict middle value,
        (judge env context submission).run s = (.ok verdict, middle) ∧
        (fileTool env context submission (sorted (.dict submission.input)) verdict).run middle = (.ok value, t) ∧
        reply = { commandId := value.id, state := value.state, nextAction := verdict.blocked } := by
  simp only [submitDemoTool, answerTool, bind_eq_ok, require_eq_ok, ensure_eq_ok, opaqueName_eq_ok,
    opaqueApproval_eq_ok, encode_eq_ok, transaction_eq_ok, pure_eq_ok]
  constructor
  · rintro ⟨_, _, ⟨authorized, rfl⟩, _, _, ⟨typed, rfl⟩, _, _, ⟨actor, rfl⟩, _, _, ⟨target, rfl⟩, _, _, ⟨key, rfl⟩, _, _,
      ⟨approval, rfl⟩, _, _, ⟨input, rfl, rfl⟩, verdict, middle, judged, value, _, filed, rfl, rfl⟩
    exact ⟨authorized, ⟨typed, ⟨actor, target, key⟩, approval, input⟩, verdict, middle, value, judged, filed, rfl⟩
  · rintro ⟨authorized, ⟨typed, ⟨actor, target, key⟩, approval, input⟩, verdict, middle, value, judged, filed, rfl⟩
    exact ⟨(), _, ⟨authorized, rfl⟩, (), _, ⟨typed, rfl⟩, (), _, ⟨actor, rfl⟩, (), _, ⟨target, rfl⟩, (), _, ⟨key, rfl⟩,
      (), _, ⟨approval, rfl⟩, _, _, ⟨input, rfl, rfl⟩, verdict, middle, judged, value, _, filed, rfl, rfl⟩

/-- What a verdict says of the store in which its command is filed. -/
structure Vouched (env : Env) (db : Store) (tenant : Uuid) (submission : ToolSubmission) (verdict : Verdict) : Prop where
  unstopped : verdict.state = .accepted → ¬ Stopped tenant db submission.connection
  approved : verdict.approved.isSome → verdict.state = .accepted ∧ Mutating submission.tool
  approval : verdict.state = .accepted → Mutating submission.tool →
    ∃ approvalId approval command intent, submission.approvalId = some approvalId ∧
      Matched env db tenant submission approvalId approval command intent ∧
      ¬ UsedElsewhere (tenantTools db tenant) approvalId submission.idempotencyKey ∧
      (∃ preparation, db.executionPreparations.get? (tenant, command.id) = some preparation) ∧
      verdict.approved = some (command.id, intent.canonicalDigest)

theorem Judged.vouched {verdict : Verdict} (judged : Judged env s context submission verdict t) :
    Vouched env t.db context.tenantId submission verdict := by
  have closed : ∀ state blocked, state ≠ ToolState.accepted →
      Vouched env t.db context.tenantId submission ⟨state, blocked, none⟩ := by
    intro state blocked closed
    refine ⟨fun accepted => absurd accepted closed, fun approved => ?_, fun accepted => absurd accepted closed⟩
    cases approved
  cases judged with
  | stopped stop => exact closed _ _ (by decide)
  | unapproved free mutating missing => exact closed _ _ (by decide)
  | refused free mutating given raised => exact closed _ _ (by decide)
  | bookkeeping free reading =>
    refine ⟨fun _ => free, fun approved => ?_, fun _ mutating => absurd mutating reading⟩
    cases approved
  | @cleared approvalId approval command intent preparation replayed _ free mutating given matched unused prepared digest =>
    -- the preparation leaves the tables of the checks alone
    obtain ⟨_, _, _, -, ⟨-, known, rfl⟩ | ⟨-, first⟩⟩ := prepareExecution_ok prepared
    · exact ⟨fun _ => free, fun _ => ⟨rfl, mutating⟩,
        fun _ _ => ⟨approvalId, approval, command, intent, given, matched, unused, ⟨_, known⟩, rfl⟩⟩
    · obtain ⟨-, -, rfl, _, rfl⟩ := first
      refine ⟨fun _ => free, fun _ => ⟨rfl, mutating⟩,
        fun _ _ => ⟨approvalId, approval, command, intent, given, ?_, unused, ⟨_, Table.get?_put_self _ _⟩, rfl⟩⟩
      exact ⟨matched.approval_found, matched.command_found, matched.intent_found, matched.kind, matched.target,
        matched.payload_encodable, matched.input_encodable, matched.payload, matched.policy_version⟩

theorem submitDemoTool_error {why : Failure} (raised : (submitDemoTool env context submission).run s = (.error why, t)) :
    t.db = s.db := by
  have unwinds : Unwinds (fun db : Store => db) (submitDemoTool env context submission) := by
    refine .bind (keeps_require _) fun _ => .bind (keeps_ensure _ _) fun _ => .bind (keeps_ensure _ _) fun _ => ?_
    refine .bind (keeps_ensure _ _) fun _ => .bind (keeps_ensure _ _) fun _ => .bind ?_ fun _ => ?_
    · unfold opaqueApproval
      split
      · exact keeps_ensure _ _
      · exact keeps_pure _
      · exact keeps_pure _
    · exact .bind (keeps_encode _ _) fun _ => unwinds_transaction _
  exact unwinds s why t raised

end AiStore.Gateway
