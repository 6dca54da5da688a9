import AiStore.Gateway.ToolRuns

/-! The life of a command, its approval and the tools it allows, as the changes the operations are made of.

The journal is what the outbox has been told, whatever became of the delivery. An
operation outside this part of the service may append to it under other topics.
-/

set_option autoImplicit false

namespace AiStore

open Library (Session Txn)
open Library.Txn Service

/-- An outbox event without its delivery. -/
structure Notice where
  tenantId : Ident
  topic : String
  aggregateRef : Ident
  payload : Mapping
  idempotencyKey : OutboxKey
  deriving DecidableEq

def OutboxEvent.notice (event : OutboxEvent Ident OutboxKey) : Notice where
  tenantId := event.tenantId
  topic := event.topic
  aggregateRef := event.aggregateRef
  payload := event.payload
  idempotencyKey := event.idempotencyKey

def Store.journal (store : Store) : List Notice := store.outbox.events.map OutboxEvent.notice

namespace Service

/-- The notice of an event that the service publishes. -/
def noticeOf (tenant : Uuid) (topic : String) (aggregate : Uuid) (payload : Mapping) (key : OutboxKey) : Notice :=
  ⟨.uuid tenant, topic, .uuid aggregate, payload, key⟩

/-- Every event carries an identifier that has been drawn. -/
def EventsDrawn (s : Session Store) : Prop :=
  ∀ event ∈ s.db.outbox.events, ∃ id : Uuid, event.id = .uuid id ∧ id < s.uuids

variable {env : Env} {s t : Session Store}

theorem EventsDrawn.later (drawn : EventsDrawn s) (same : t.db.outbox = s.db.outbox) (uuids : s.uuids ≤ t.uuids) :
    EventsDrawn t := by
  intro event member
  rw [same] at member
  obtain ⟨id, named, below⟩ := drawn event member
  exact ⟨id, named, Nat.lt_of_lt_of_le below uuids⟩

/-- An event under a new identifier goes to the end. -/
theorem EventsDrawn.events_published (drawn : EventsDrawn s) {id tenant aggregate : Uuid} {topic : String}
    {payload : Mapping} {key : OutboxKey} {createdAt : Timestamp} (new : s.uuids ≤ id) :
    (published s.db.outbox
        (.pendingEvent (.uuid id) (.uuid tenant) topic (.uuid aggregate) payload key createdAt)).events =
      s.db.outbox.events ++ [.pendingEvent (.uuid id) (.uuid tenant) topic (.uuid aggregate) payload key createdAt] := by
  apply InMemoryRepository.Outbox.events_put_of_fresh
  cases found : s.db.outbox.find (.uuid tenant) (.uuid id) with
  | none => exact found
  | some event =>
    -- a known event has an older identifier
    obtain ⟨member, -, named⟩ := (s.db.outbox.find_eq_some _ _ _).mp found
    obtain ⟨other, same, below⟩ := drawn event member
    rw [named] at same
    cases same
    exact absurd (Nat.lt_of_lt_of_le below new) (Nat.lt_irrefl _)

section

variable {id tenant aggregate : Uuid} {topic : String} {payload : Mapping} {key : OutboxKey} {createdAt : Timestamp}

theorem EventsDrawn.journal_published (drawn : EventsDrawn s) (new : s.uuids ≤ id)
    (written : t.db.outbox = published s.db.outbox
      (.pendingEvent (.uuid id) (.uuid tenant) topic (.uuid aggregate) payload key createdAt)) :
    t.db.journal = s.db.journal ++ [noticeOf tenant topic aggregate payload key] := by
  rw [Store.journal, written, drawn.events_published new, List.map_append]
  rfl

theorem EventsDrawn.published (drawn : EventsDrawn s) (new : s.uuids ≤ id) (used : id < t.uuids)
    (written : t.db.outbox = published s.db.outbox
      (.pendingEvent (.uuid id) (.uuid tenant) topic (.uuid aggregate) payload key createdAt)) : EventsDrawn t := by
  intro event member
  rw [written, drawn.events_published new, List.mem_append, List.mem_singleton] at member
  rcases member with old | rfl
  · obtain ⟨other, named, below⟩ := drawn event old
    exact ⟨other, named, Nat.lt_trans (Nat.lt_of_lt_of_le below new) used⟩
  · exact ⟨id, rfl, used⟩

end

/-! ## Changes -/

/-- The tables of commands and approvals. -/
def lifecycleTables (db : Store) :=
  (db.commands, db.approvals, db.commandIdempotency, db.approvalIntents, db.executionPreparations)

/-- What the operations on commands and approvals tell the outbox. -/
def lifecycleTopics : List String :=
  ["approval.requested", "approval.decided", "approval.expired", "execution.prepared"]

/-- The commands of the tool gateway as well. -/
def serviceTables (db : Store) := (lifecycleTables db, db.toolCommands)

def serviceTopics : List String := "tool.command" :: lifecycleTopics

/-- A step that keeps the tables under a view and is silent under some topics. -/
structure Quiet {υ : Type} (view : Store → υ) (topics : List String) (s t : Session Store) : Prop where
  same : view t.db = view s.db
  drawn : EventsDrawn s → EventsDrawn t
  journal : EventsDrawn s → ∃ extra, t.db.journal = s.db.journal ++ extra ∧ ∀ notice ∈ extra, notice.topic ∉ topics
  advances : s.Advances t

theorem Quiet.weaken {υ ω : Type} {fine : Store → υ} {coarse : Store → ω} {topics fewer : List String}
    (quiet : Quiet fine topics s t) (through : ∀ first second, fine first = fine second → coarse first = coarse second)
    (subset : ∀ topic ∈ fewer, topic ∈ topics) : Quiet coarse fewer s t where
  same := through _ _ quiet.same
  drawn := quiet.drawn
  journal drawn := by
    obtain ⟨extra, journal, silent⟩ := quiet.journal drawn
    exact ⟨extra, journal, fun notice member told => silent notice member (subset _ told)⟩
  advances := quiet.advances

theorem Quiet.lifecycle (quiet : Quiet serviceTables serviceTopics s t) : Quiet lifecycleTables lifecycleTopics s t :=
  quiet.weaken (fun _ _ same => congrArg Prod.fst same) fun _ told => List.mem_cons_of_mem _ told

/-- The rows of a command that waits for its decision. -/
structure Waiting (db : Store) (tenant commandId : Uuid) (command : Command) (approval : Approval) : Prop where
  command_found : db.commands.get? (tenant, commandId) = some command
  approval_found : db.approvals.get? (tenant, commandId) = some approval
  pending : approval.state = .pending

/-- One change to the commands, their approvals and what stands on them, supersession apart. -/
inductive Change (env : Env) (s t : Session Store) : Prop where
  | other (quiet : Quiet serviceTables serviceTopics s t)
  | created {context : TenantContext} {kind : ApprovalKind} {targetRef : TargetRef} {payload : Mapping}
      {idempotencyKey : CommandKey} {evidence : List Mapping} {command : Command} {approval : Approval}
      (created : Created env context s kind targetRef payload idempotencyKey evidence command approval t)
  | attached {context : TenantContext} {command : Command} {approval : Approval} {policyVersion targetVersion : Int}
      (command_found : s.db.commands.get? (context.tenantId, command.id) = some command)
      (approval_found : s.db.approvals.get? (context.tenantId, command.id) = some approval)
      (attached : Attached env context s command approval policyVersion targetVersion t)
  | ranOut {tenant commandId : Uuid} {command : Command} {approval : Approval} {payload : Mapping} {now : Timestamp}
      (waiting : Waiting s.db tenant commandId command approval) (due : approval.expiresAt ≤ now)
      (ranOut : RanOut s tenant command approval payload now t)
  | settled {context : TenantContext} {commandId : Uuid} {command : Command} {approval : Approval} {approve : Bool}
      {reason : String} {now : Timestamp} (waiting : Waiting s.db context.tenantId commandId command approval)
      (authorized : Authorized s.db context command.kind.capability)
      (intent_matches : ∀ intent, s.db.approvalIntents.get? (context.tenantId, commandId) = some intent →
        IntentMatches env command approval intent)
      (unexpired : now < approval.expiresAt)
      (settled : Settled context s command approval approve reason now t)
  | prepared {context : TenantContext} {commandId : Uuid} {policyVersion targetVersion : Int} {command : Command}
      {approval : Approval} {intent : ApprovalIntent} {now : Timestamp} {result : ExecutionPreparation}
      (executable : Executable env s.db context commandId policyVersion targetVersion now command approval intent)
      (prepared : FirstPrepared context s commandId intent now result t)
  | toolFiled {tenant : Uuid} {submission : Gateway.ToolSubmission} {verdict : Gateway.Verdict} {value : DemoToolCommand}
      (vouched : Gateway.Vouched env s.db tenant submission verdict)
      (filed : Gateway.ToolFiled env s tenant submission verdict value t)

theorem quiet_published {υ : Type} {view : Store → υ} {topics : List String} {id tenant aggregate : Uuid}
    {topic : String} {payload : Mapping} {key : OutboxKey} {createdAt : Timestamp} (same : view t.db = view s.db)
    (written : t.db.outbox = published s.db.outbox
      (.pendingEvent (.uuid id) (.uuid tenant) topic (.uuid aggregate) payload key createdAt))
    (new : s.uuids ≤ id) (used : id < t.uuids) (reads : s.reads ≤ t.reads) (silent : topic ∉ topics) :
    Quiet view topics s t where
  same := same
  drawn drawn := drawn.published new used written
  journal drawn := by
    refine ⟨_, drawn.journal_published new written, ?_⟩
    intro notice member
    rw [List.mem_singleton] at member
    rw [member]
    exact silent
  advances := ⟨reads, Nat.le_of_lt (Nat.lt_of_le_of_lt new used)⟩

theorem quiet_of_same {υ : Type} {view : Store → υ} {topics : List String} (same : view t.db = view s.db)
    (outbox : t.db.outbox = s.db.outbox) (advances : s.Advances t) : Quiet view topics s t where
  same := same
  drawn drawn := drawn.later outbox advances.2
  journal _ := ⟨[], by rw [Store.journal, outbox, List.append_nil]; rfl, fun _ member => absurd member List.not_mem_nil⟩
  advances := advances

theorem change_idles : Idles (Change env) := fun _ _ same advances =>
  .other (quiet_of_same (congrArg serviceTables same) (congrArg Store.outbox same) advances)

/-! ## Operations -/

section

open Relation (ReflTransGen)

/-- A returning operation inside its own transaction makes changes; a raising one makes none. -/
theorem settles_of_returning {α : Type} {body : Op α}
    (returning : ∀ s result t, (transaction body).run s = (.ok result, t) → ReflTransGen (Change env) s t) :
    Settles (Change env) (transaction body) := by
  apply Follows.transaction change_idles
  intro s result t ran
  exact returning s result t ((transaction_eq_ok _ _ _ _).mpr ran)

section

variable {context : TenantContext} {kind : ApprovalKind} {targetRef : TargetRef} {payload : Mapping}
  {idempotencyKey : CommandKey} {evidence : List Mapping} {command : Command} {approval : Approval}

theorem createCommand_changes
    (ran : (createCommand env context kind targetRef payload idempotencyKey evidence).run s =
      (.ok (command, approval), t)) :
    ReflTransGen (Change env) s t ∧ t.db.commands.get? (context.tenantId, command.id) = some command ∧
      t.db.approvals.get? (context.tenantId, command.id) = some approval := by
  obtain ⟨-, created | replayed⟩ := createCommand_ok ran
  · have changed : Change env s t := .created created
    obtain ⟨-, rfl, rfl, -, row, rfl⟩ := created
    exact ⟨.single changed, Library.Table.get?_put_self _ _, Library.Table.get?_put_self _ _⟩
  · obtain ⟨-, command_found, approval_found, -, rfl⟩ := replayed
    exact ⟨.refl, command_found, approval_found⟩

theorem createCommand_settles :
    Settles (Change env) (createCommand env context kind targetRef payload idempotencyKey evidence) :=
  settles_of_returning fun _ _ _ ran => (createCommand_changes ran).1

theorem requestApproval_changes {policyVersion targetVersion : Int}
    (ran : (requestApproval env context kind targetRef payload idempotencyKey policyVersion targetVersion
      evidence).run s = (.ok (command, approval), t)) : ReflTransGen (Change env) s t := by
  obtain ⟨-, -, middle, created, attached | ⟨-, -, -, -, rfl⟩⟩ := requestApproval_ok ran
  · obtain ⟨changes, command_found, approval_found⟩ := createCommand_changes created
    exact changes.tail (.attached command_found approval_found attached)
  · exact (createCommand_changes created).1

theorem requestApproval_settles {policyVersion targetVersion : Int} :
    Settles (Change env)
      (requestApproval env context kind targetRef payload idempotencyKey policyVersion targetVersion evidence) :=
  settles_of_returning fun _ _ _ ran => requestApproval_changes ran

end

theorem change_reads : Change env s { s with reads := s.reads + 1 } :=
  change_idles _ _ rfl ⟨Nat.le_succ _, Nat.le_refl _⟩

theorem decideWithin_changes {context : TenantContext} {commandId : Uuid} {approve expired : Bool} {reason : String}
    {result : Approval} (ran : (decideWithin env context commandId approve reason).run s = (.ok (result, expired), t)) :
    ReflTransGen (Change env) s t := by
  obtain ⟨-, -, command, approval, undecided, branch⟩ := decideWithin_ok ran
  obtain ⟨command_found, approval_found, authorized, matching, pending⟩ := undecided
  have read : Change env s { s with reads := s.reads + 1 } := change_reads
  have waiting : Waiting s.db context.tenantId commandId command approval := ⟨command_found, approval_found, pending⟩
  rcases branch with ⟨-, due, ranOut⟩ | ⟨-, unexpired, settled⟩
  · exact .tail (.single read) (.ranOut waiting due ranOut)
  · exact .tail (.single read) (.settled waiting authorized matching unexpired settled)

theorem decideWithin_follows {context : TenantContext} {commandId : Uuid} {approve : Bool} {reason : String} :
    Follows (Change env) (decideWithin env context commandId approve reason) :=
  fun _ _ _ ran => decideWithin_changes ran

theorem expireDue_changes {tenant : Uuid} {now : Timestamp} {due : Approval} {result : Option Uuid}
    (ran : (expireDue env tenant now due).run s = (.ok result, t)) : ReflTransGen (Change env) s t := by
  rcases expireDue_ok ran with rfl | ⟨command, approval, command_found, approval_found, pending, late, -, ranOut⟩
  · exact .refl
  · exact .single (.ranOut ⟨command_found, approval_found, pending⟩ late ranOut)

theorem expireDueApprovals_settles {tenant : Uuid} {limit : Int} :
    Settles (Change env) (expireDueApprovals env tenant limit) := by
  apply Settles.bind (settles_of_keeps change_idles fun _ => keeps_ensure _ _)
  intro _
  apply Settles.bind (settles_of_keeps change_idles fun _ => keeps_now)
  intro now
  apply Follows.transaction change_idles
  apply Follows.bind (settles_of_keeps change_idles fun _ => keeps_query _).follows
  intro due
  apply Follows.bind (Follows.collect due fun approval _ _ _ ran => expireDue_changes ran)
  intro expired
  exact (settles_of_keeps change_idles fun _ => keeps_pure _).follows

theorem prepareExecution_changes {context : TenantContext} {commandId : Uuid} {policyVersion targetVersion : Int}
    {result : ExecutionPreparation} {replayed : Bool}
    (ran : (prepareExecution env context commandId policyVersion targetVersion).run s = (.ok (result, replayed), t)) :
    ReflTransGen (Change env) s t := by
  obtain ⟨command, approval, intent, executable, ⟨-, -, rfl⟩ | ⟨-, first⟩⟩ := prepareExecution_ok ran
  · exact .single change_reads
  · exact .single (.prepared executable first)

theorem prepareExecution_settles {context : TenantContext} {commandId : Uuid} {policyVersion targetVersion : Int} :
    Settles (Change env) (prepareExecution env context commandId policyVersion targetVersion) :=
  settles_of_returning fun _ _ _ ran => prepareExecution_changes ran

end

end Service

end AiStore
