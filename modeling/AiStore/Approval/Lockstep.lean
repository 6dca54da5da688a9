import AiStore.Approval.Calls

/-! Commands and approvals move together, and the journal tells how each approval ended. -/

set_option autoImplicit false

namespace AiStore.Approvals

open Library (Session Txn Table final final_invariant)
open Library.Txn Repository Service
open Relation (ReflTransGen)

variable {env : Env} {s t u : Session Store}

/-! ## States -/

/-- The state of the command under an approval. -/
def commandState : ApprovalState → CommandState
  | .pending => .awaitingApproval
  | .approved => .approved
  | .rejected => .rejected
  | .expired => .expired
  | .superseded => .superseded

/-- How an approval may move, or stay. -/
def Moves (before after : ApprovalState) : Prop :=
  after = before ∨ before = .pending ∨ before = .approved ∧ after = .superseded

theorem Moves.refl (state : ApprovalState) : Moves state state := .inl rfl

theorem Moves.trans {first second third : ApprovalState} (left : Moves first second) (right : Moves second third) :
    Moves first third := by
  rcases left with rfl | rfl | ⟨rfl, rfl⟩
  · exact right
  · exact .inr (.inl rfl)
  · rcases right with rfl | waiting | ⟨approved, -⟩
    · exact .inr (.inr ⟨rfl, rfl⟩)
    · cases waiting
    · cases approved

/-! ## Notices -/

def About (topic : String) (key : OutboxKey) (notice : Notice) : Prop :=
  notice.topic = topic ∧ notice.idempotencyKey = key

instance (topic : String) (key : OutboxKey) : DecidablePred (About topic key) := fun notice => by
  unfold About
  exact inferInstance

/-- How often the outbox has been told. -/
def told (journal : List Notice) (topic : String) (key : OutboxKey) : Nat :=
  (journal.filter (About topic key)).length

theorem told_append (journal extra : List Notice) (topic : String) (key : OutboxKey) :
    told (journal ++ extra) topic key = told journal topic key + told extra topic key := by
  rw [told, List.filter_append, List.length_append, told, told]

theorem told_eq_zero {journal : List Notice} {topic : String} {key : OutboxKey}
    (none_about : ∀ notice ∈ journal, ¬ About topic key notice) : told journal topic key = 0 := by
  rw [told, List.length_eq_zero_iff, List.filter_eq_nil_iff]
  intro notice member
  simpa using none_about notice member

/-- The decisions on an approval that the outbox has been told. -/
def decisions (journal : List Notice) (approval : Uuid) : Nat :=
  told journal "approval.decided" (.approvalDecided approval)

def expiries (journal : List Notice) (approval : Uuid) : Nat :=
  told journal "approval.expired" (.approvalExpired approval)

/-- The journal and the row agree on how the approval ended. -/
structure Recorded (journal : List Notice) (row : Approval) : Prop where
  decided : decisions journal row.id = if row.decidedBy.isSome then 1 else 0
  expired : expiries journal row.id = if row.state = .expired then 1 else 0
  undecided : row.state = .pending ∨ row.state = .expired → row.decidedBy = none
  by_user : row.state = .approved ∨ row.state = .rejected → row.decidedBy.isSome

/-- Nothing but the end of this approval is in the notices. -/
def Concerns (approval : Uuid) (extra : List Notice) : Prop := ∀ notice ∈ extra,
  (notice.topic = "approval.decided" → notice.idempotencyKey = .approvalDecided approval) ∧
    (notice.topic = "approval.expired" → notice.idempotencyKey = .approvalExpired approval)

theorem Concerns.decisions_append {approval other : Uuid} {journal extra : List Notice}
    (concerns : Concerns approval extra) (apart : other ≠ approval) :
    decisions (journal ++ extra) other = decisions journal other := by
  have silent : decisions extra other = 0 := by
    apply told_eq_zero
    rintro notice member ⟨topic, key⟩
    have same := ((concerns notice member).1 topic).symm.trans key
    cases same
    exact apart rfl
  exact (told_append _ _ _ _).trans (by rw [← decisions, ← decisions, silent, Nat.add_zero])

theorem Concerns.expiries_append {approval other : Uuid} {journal extra : List Notice}
    (concerns : Concerns approval extra) (apart : other ≠ approval) :
    expiries (journal ++ extra) other = expiries journal other := by
  have silent : expiries extra other = 0 := by
    apply told_eq_zero
    rintro notice member ⟨topic, key⟩
    have same := ((concerns notice member).2 topic).symm.trans key
    cases same
    exact apart rfl
  exact (told_append _ _ _ _).trans (by rw [← expiries, ← expiries, silent, Nat.add_zero])

theorem Concerns.recorded {approval : Uuid} {journal extra : List Notice} {row : Approval}
    (concerns : Concerns approval extra) (apart : row.id ≠ approval) (recorded : Recorded journal row) :
    Recorded (journal ++ extra) row where
  decided := (concerns.decisions_append apart).trans recorded.decided
  expired := (concerns.expiries_append apart).trans recorded.expired
  undecided := recorded.undecided
  by_user := recorded.by_user

/-- Notices under other topics end no approval. -/
theorem concerns_of_silent (topics : List String) {extra : List Notice}
    (silent : ∀ notice ∈ extra, notice.topic ∉ topics) (decided : "approval.decided" ∈ topics) (expired : "approval.expired" ∈ topics) (approval : Uuid) :
    Concerns approval extra := fun notice member =>
  ⟨fun topic => absurd (topic ▸ decided) (silent notice member),
    fun topic => absurd (topic ▸ expired) (silent notice member)⟩

/-! ## The invariant -/

/-- The states of the commands and those of the approvals are the same, row by row. -/
def Paired (db : Store) : Prop := ∀ key,
  (db.commands.get? key).map (·.state) = (db.approvals.get? key).map fun row => commandState row.state

structure Lockstep (s : Session Store) : Prop where
  events : EventsDrawn s
  command_ids : ∀ row ∈ s.db.commands.rows, row.id < s.uuids
  approval_ids : ∀ row ∈ s.db.approvals.rows, row.id < s.uuids
  distinct : ∀ first ∈ s.db.approvals.rows, ∀ second ∈ s.db.approvals.rows, first.id = second.id → first = second
  paired : Paired s.db
  recorded : ∀ row ∈ s.db.approvals.rows, Recorded s.db.journal row
  /-- Only an approval that has been drawn can have ended. -/
  unborn : ∀ id, s.uuids ≤ id → decisions s.db.journal id = 0 ∧ expiries s.db.journal id = 0

theorem lockstep_newSession : Lockstep Execution.newSession := by
  refine ⟨?_, ?_, ?_, ?_, ?_, ?_, ?_⟩
  · intro event member
    cases member
  · intro row member
    cases member
  · intro row member
    cases member
  · intro first member
    cases member
  · intro key
    rfl
  · intro row member
    cases member
  · intro id _
    exact ⟨rfl, rfl⟩

theorem Paired.approval_of_command {db : Store} (paired : Paired db) {key : Uuid × Uuid} {command : Command}
    (found : db.commands.get? key = some command) :
    ∃ approval, db.approvals.get? key = some approval ∧ command.state = commandState approval.state := by
  have same := paired key
  rw [found] at same
  cases bound : db.approvals.get? key with
  | none =>
    rw [bound] at same
    cases same
  | some approval =>
    rw [bound] at same
    exact ⟨approval, rfl, Option.some.inj same⟩

theorem Paired.state {db : Store} (paired : Paired db) {key : Uuid × Uuid} {command : Command} {approval : Approval}
    (found : db.commands.get? key = some command) (approval_found : db.approvals.get? key = some approval) :
    command.state = commandState approval.state := by
  obtain ⟨other, bound, same⟩ := paired.approval_of_command found
  cases Option.some.inj (bound.symm.trans approval_found)
  exact same

theorem Paired.rewritten {db after : Store} (paired : Paired db) {command : Command} {approval : Approval}
    (commands : after.commands = db.commands.put command) (approvals : after.approvals = db.approvals.put approval)
    (same_key : command.key = approval.key) (same : command.state = commandState approval.state) : Paired after := by
  intro key
  rw [commands, approvals, Table.get?_put, Table.get?_put, same_key]
  split
  · exact congrArg some same
  · exact paired key

/-! ## What a change keeps -/

/-- What an approver was shown of an approval stays. -/
structure SameRequest (row later : Approval) : Prop where
  id : later.id = row.id
  evidence : later.evidence = row.evidence
  expiresAt : later.expiresAt = row.expiresAt

theorem SameRequest.refl (row : Approval) : SameRequest row row := ⟨rfl, rfl, rfl⟩

theorem SameRequest.trans {first second third : Approval} (left : SameRequest first second)
    (right : SameRequest second third) : SameRequest first third :=
  ⟨right.id.trans left.id, right.evidence.trans left.evidence, right.expiresAt.trans left.expiresAt⟩

/-- No row is lost; a command keeps its terms, an approval its request, an intent and a preparation everything. -/
structure Onward (before after : Store) : Prop where
  commands : ∀ key row, before.commands.get? key = some row → ∃ later, after.commands.get? key = some later ∧
    later.kind = row.kind ∧ later.targetRef = row.targetRef ∧ later.payload = row.payload
  approvals : ∀ key row, before.approvals.get? key = some row → ∃ later, after.approvals.get? key = some later ∧
    SameRequest row later ∧ Moves row.state later.state
  intents : ∀ key row, before.approvalIntents.get? key = some row → after.approvalIntents.get? key = some row
  preparations : ∀ key row, before.executionPreparations.get? key = some row →
    after.executionPreparations.get? key = some row

theorem Onward.refl (db : Store) : Onward db db where
  commands _ row found := ⟨row, found, rfl, rfl, rfl⟩
  approvals _ row found := ⟨row, found, .refl _, .refl _⟩
  intents _ _ found := found
  preparations _ _ found := found

theorem Onward.trans {first second third : Store} (left : Onward first second) (right : Onward second third) :
    Onward first third where
  commands key row found := by
    obtain ⟨middle, middle_found, kind, target, payload⟩ := left.commands key row found
    obtain ⟨later, later_found, later_kind, later_target, later_payload⟩ := right.commands key middle middle_found
    exact ⟨later, later_found, later_kind.trans kind, later_target.trans target, later_payload.trans payload⟩
  approvals key row found := by
    obtain ⟨middle, middle_found, id, moves⟩ := left.approvals key row found
    obtain ⟨later, later_found, later_id, later_moves⟩ := right.approvals key middle middle_found
    exact ⟨later, later_found, id.trans later_id, moves.trans later_moves⟩
  intents key row found := right.intents key row (left.intents key row found)
  preparations key row found := right.preparations key row (left.preparations key row found)

/-- A table that only gains a row under a free key keeps the others. -/
theorem kept_put {κ ν : Type} [DecidableEq κ] {key : ν → κ} {table : Table key} {row : ν}
    (fresh : table.get? (key row) = none) (wanted : κ) (old : ν) (found : table.get? wanted = some old) :
    (table.put row).get? wanted = some old := by
  rw [Table.get?_put_of_ne _ fun same => ?_]
  · exact found
  · rw [← same, fresh] at found
    cases found

/-! ## Changes of two rows -/

/-- The rows of a command and its approval, rewritten in place. -/
structure Rewritten (s t : Session Store) (command command' : Command) (approval approval' : Approval)
    (extra : List Notice) : Prop where
  command_found : s.db.commands.get? approval.key = some command
  approval_found : s.db.approvals.get? approval.key = some approval
  commands : t.db.commands = s.db.commands.put command'
  approvals : t.db.approvals = s.db.approvals.put approval'
  rest : (t.db.approvalIntents, t.db.executionPreparations) = (s.db.approvalIntents, s.db.executionPreparations)
  terms : command'.key = command.key ∧ command'.kind = command.kind ∧ command'.targetRef = command.targetRef ∧
    command'.payload = command.payload
  named : approval'.key = approval.key ∧ SameRequest approval approval'
  moves : Moves approval.state approval'.state
  same : command'.state = commandState approval'.state
  journal : t.db.journal = s.db.journal ++ extra
  concerns : Concerns approval.id extra
  uuids : s.uuids ≤ t.uuids

section

variable {command command' : Command} {approval approval' : Approval} {extra : List Notice}

theorem Rewritten.lockstep (rewritten : Rewritten s t command command' approval approval' extra)
    (lockstep : Lockstep s) (events : EventsDrawn t) (recorded : Recorded t.db.journal approval') : Lockstep t := by
  have approval_member := Table.mem_of_get? rewritten.approval_found
  have command_key := Table.key_of_get? rewritten.command_found
  have drawn := lockstep.approval_ids approval approval_member
  -- the other rows stand as they stood
  have others : ∀ row ∈ t.db.approvals.rows, row = approval' ∨ row ∈ s.db.approvals.rows ∧ row.id ≠ approval.id := by
    intro row member
    rw [rewritten.approvals, Table.mem_put] at member
    rcases member with rfl | ⟨old, apart⟩
    · exact .inl rfl
    · refine .inr ⟨old, fun same => apart ?_⟩
      rw [lockstep.distinct row old approval approval_member same, rewritten.named.1]
  refine ⟨events, ?_, ?_, ?_, ?_, ?_, ?_⟩
  · intro row member
    rw [rewritten.commands, Table.mem_put] at member
    rcases member with rfl | ⟨old, -⟩
    · have same : row.id = command.id := congrArg Prod.snd rewritten.terms.1
      rw [same]
      exact Nat.lt_of_lt_of_le (lockstep.command_ids _ (Table.mem_of_get? rewritten.command_found)) rewritten.uuids
    · exact Nat.lt_of_lt_of_le (lockstep.command_ids row old) rewritten.uuids
  · intro row member
    rcases others row member with rfl | ⟨old, -⟩
    · rw [rewritten.named.2.id]
      exact Nat.lt_of_lt_of_le drawn rewritten.uuids
    · exact Nat.lt_of_lt_of_le (lockstep.approval_ids row old) rewritten.uuids
  · refine Library.distinct_added approval' (fun row member => ?_) lockstep.distinct
    exact (others row member).imp_right fun held => ⟨held.1, fun same => held.2 (same.trans rewritten.named.2.id)⟩
  · refine lockstep.paired.rewritten rewritten.commands rewritten.approvals ?_ rewritten.same
    rw [rewritten.terms.1, command_key, rewritten.named.1]
  · intro row member
    rcases others row member with rfl | ⟨old, apart⟩
    · exact recorded
    · rw [rewritten.journal]
      exact rewritten.concerns.recorded apart (lockstep.recorded row old)
  · intro id later
    have before := lockstep.unborn id (Nat.le_trans rewritten.uuids later)
    have apart : id ≠ approval.id := by
      rintro rfl
      exact Nat.lt_irrefl _ (Nat.lt_of_lt_of_le drawn (Nat.le_trans rewritten.uuids later))
    rw [rewritten.journal, rewritten.concerns.decisions_append apart, rewritten.concerns.expiries_append apart]
    exact before

theorem Rewritten.onward (rewritten : Rewritten s t command command' approval approval' extra) : Onward s.db t.db := by
  have command_key := Table.key_of_get? rewritten.command_found
  have rest := Prod.mk.inj rewritten.rest
  refine ⟨?_, ?_, ?_, ?_⟩
  · intro key row found
    rw [rewritten.commands, Table.get?_put]
    by_cases same : command'.key = key
    · rw [if_pos same]
      rw [← same, rewritten.terms.1, command_key] at found
      cases Option.some.inj (found.symm.trans rewritten.command_found)
      exact ⟨command', rfl, rewritten.terms.2⟩
    · rw [if_neg same]
      exact ⟨row, found, rfl, rfl, rfl⟩
  · intro key row found
    rw [rewritten.approvals, Table.get?_put]
    by_cases same : approval'.key = key
    · rw [if_pos same]
      rw [← same, rewritten.named.1] at found
      cases Option.some.inj (found.symm.trans rewritten.approval_found)
      exact ⟨approval', rfl, rewritten.named.2, rewritten.moves⟩
    · rw [if_neg same]
      exact ⟨row, found, .refl _, .refl _⟩
  · intro key row found
    rw [rest.1]
    exact found
  · intro key row found
    rw [rest.2]
    exact found

end

/-! ## Changes of no row -/

/-- Commands and approvals as they stand, under notices that end no approval. -/
theorem Lockstep.extended (lockstep : Lockstep s) (commands : t.db.commands = s.db.commands)
    (approvals : t.db.approvals = s.db.approvals) {extra : List Notice}
    (journal : t.db.journal = s.db.journal ++ extra) (concerns : ∀ approval, Concerns approval extra)
    (events : EventsDrawn t) (uuids : s.uuids ≤ t.uuids) : Lockstep t := by
  have apart : ∀ id : Uuid, id ≠ id + 1 := fun id => Nat.ne_of_lt (Nat.lt_succ_self id)
  refine ⟨events, ?_, ?_, ?_, ?_, ?_, ?_⟩
  · rw [commands]
    exact fun row member => Nat.lt_of_lt_of_le (lockstep.command_ids row member) uuids
  · rw [approvals]
    exact fun row member => Nat.lt_of_lt_of_le (lockstep.approval_ids row member) uuids
  · rw [approvals]
    exact lockstep.distinct
  · intro key
    rw [commands, approvals]
    exact lockstep.paired key
  · intro row member
    rw [approvals] at member
    rw [journal]
    exact (concerns (row.id + 1)).recorded (apart _) (lockstep.recorded row member)
  · intro id later
    rw [journal, (concerns (id + 1)).decisions_append (apart _), (concerns (id + 1)).expiries_append (apart _)]
    exact lockstep.unborn id (Nat.le_trans uuids later)

/-! ## Steps -/

theorem quiet_lockstep (quiet : Quiet lifecycleTables lifecycleTopics s t) (lockstep : Lockstep s) :
    Lockstep t ∧ Onward s.db t.db := by
  have same := quiet.same
  simp only [lifecycleTables, Prod.mk.injEq] at same
  obtain ⟨commands, approvals, -, intents, preparations⟩ := same
  obtain ⟨extra, journal, silent⟩ := quiet.journal lockstep.events
  constructor
  · refine lockstep.extended commands approvals journal ?_ (quiet.drawn lockstep.events) quiet.advances.2
    exact concerns_of_silent lifecycleTopics silent (by decide) (by decide)
  · refine ⟨?_, ?_, ?_, ?_⟩
    · rw [commands]
      exact (Onward.refl s.db).commands
    · rw [approvals]
      exact (Onward.refl s.db).approvals
    · rw [intents]
      exact fun _ _ found => found
    · rw [preparations]
      exact fun _ _ found => found

section

variable {context : TenantContext} {kind : ApprovalKind} {targetRef : TargetRef} {payload : Mapping}
  {idempotencyKey : CommandKey} {evidence : List Mapping} {command : Command} {approval : Approval}

/-- The rows of a creation carry identifiers nobody has. -/
theorem created_fresh (created : Created env context s kind targetRef payload idempotencyKey evidence command approval t)
    (lockstep : Lockstep s) :
    s.db.commands.get? command.key = none ∧ s.db.approvals.get? approval.key = none := by
  have drawn : s.db.commands.get? command.key = none := by
    rw [Table.get?_eq_none]
    intro row member same
    have named : row.id = s.uuids := by
      rw [created.command_eq] at same
      exact congrArg Prod.snd same
    exact Nat.lt_irrefl _ (named ▸ lockstep.command_ids row member)
  refine ⟨drawn, ?_⟩
  have same_key : approval.key = command.key := by
    rw [created.approval_eq, created.command_eq]
    rfl
  have same := lockstep.paired approval.key
  rw [same_key, drawn] at same
  rw [same_key]
  cases bound : s.db.approvals.get? command.key with
  | none => rfl
  | some other =>
    rw [bound] at same
    cases same

theorem created_onward
    (created : Created env context s kind targetRef payload idempotencyKey evidence command approval t)
    (lockstep : Lockstep s) : Onward s.db t.db := by
  obtain ⟨command_fresh, approval_fresh⟩ := created_fresh created lockstep
  obtain ⟨-, -, -, -, row, written⟩ := created
  have commands : t.db.commands = s.db.commands.put command := by rw [written]
  have approvals : t.db.approvals = s.db.approvals.put approval := by rw [written]
  refine ⟨?_, ?_, ?_, ?_⟩
  · intro key other found
    rw [commands]
    exact ⟨other, kept_put command_fresh key other found, rfl, rfl, rfl⟩
  · intro key other found
    rw [approvals]
    exact ⟨other, kept_put approval_fresh key other found, .refl _, .refl _⟩
  · intro key other found
    rw [written]
    exact found
  · intro key other found
    rw [written]
    exact found

theorem created_lockstep
    (created : Created env context s kind targetRef payload idempotencyKey evidence command approval t)
    (lockstep : Lockstep s) : Lockstep t ∧ Onward s.db t.db := by
  refine ⟨?_, created_onward created lockstep⟩
  obtain ⟨-, command_eq, approval_eq, -, row, written⟩ := created
  have command_id : command.id = s.uuids := by
    rw [command_eq]
    rfl
  have approval_id : approval.id = s.uuids + 1 := by
    rw [approval_eq]
    rfl
  have commands : t.db.commands = s.db.commands.put command := by rw [written]
  have approvals : t.db.approvals = s.db.approvals.put approval := by rw [written]
  have uuids : t.uuids = s.uuids + 5 := by rw [written]
  have journal := lockstep.events.journal_published (t := t) (Nat.le_add_right _ 4) (by rw [written])
  have silent : ∀ id, Concerns id [noticeOf context.tenantId "approval.requested" command.id
      [("command_id", .uuid command.id), ("approval_id", .uuid approval.id)] (.approvalRequested command.id)] := by
    apply concerns_of_silent ["approval.decided", "approval.expired"]
    · intro notice member
      rw [List.mem_singleton] at member
      rw [member]
      change "approval.requested" ∉ ["approval.decided", "approval.expired"]
      decide
    · decide
    · decide
  have known : ∀ other ∈ t.db.approvals.rows, other = approval ∨ other ∈ s.db.approvals.rows := by
    intro other member
    rw [approvals, Table.mem_put] at member
    exact member.imp id And.left
  have older : ∀ other ∈ s.db.approvals.rows, other.id ≠ approval.id := by
    intro other member same
    have below := lockstep.approval_ids other member
    rw [same, approval_id] at below
    exact Nat.lt_irrefl _ (Nat.lt_trans (Nat.lt_succ_self _) below)
  have unborn := lockstep.unborn approval.id (approval_id ▸ Nat.le_succ _)
  have apart : ∀ id : Uuid, id ≠ id + 1 := fun id => Nat.ne_of_lt (Nat.lt_succ_self id)
  refine ⟨?_, ?_, ?_, ?_, ?_, ?_, ?_⟩
  · exact lockstep.events.published (Nat.le_add_right _ 4) (uuids ▸ Nat.lt_succ_self _) (by rw [written])
  · intro other member
    rw [commands, Table.mem_put] at member
    rw [uuids]
    rcases member with rfl | ⟨old, -⟩
    · rw [command_id]
      exact Nat.lt_add_of_pos_right (by decide)
    · exact Nat.lt_add_right 5 (lockstep.command_ids other old)
  · intro other member
    rw [uuids]
    rcases known other member with rfl | old
    · rw [approval_id]
      exact Nat.add_lt_add_left (by decide) _
    · exact Nat.lt_add_right 5 (lockstep.approval_ids other old)
  · refine Library.distinct_added approval (fun row member => ?_) lockstep.distinct
    exact (known row member).imp_right fun old => ⟨old, older row old⟩
  · apply lockstep.paired.rewritten commands approvals
    · rw [approval_eq, command_eq]
      rfl
    · rw [approval_eq, command_eq]
      rfl
  · intro other member
    rw [journal]
    rcases known other member with rfl | old
    · refine ⟨?_, ?_, ?_, ?_⟩
      · rw [(silent (other.id + 1)).decisions_append (apart _), unborn.1, approval_eq]
        rfl
      · rw [(silent (other.id + 1)).expiries_append (apart _), unborn.2, approval_eq]
        rfl
      · intro _
        rw [approval_eq]
        rfl
      · rw [approval_eq]
        rintro (ended | ended) <;> cases ended
    · exact (silent (other.id + 1)).recorded (apart _) (lockstep.recorded other old)
  · intro id later
    rw [journal, (silent (id + 1)).decisions_append (apart _), (silent (id + 1)).expiries_append (apart _)]
    exact lockstep.unborn id (Nat.le_trans (uuids ▸ Nat.le_add_right _ 5) later)

end

section

variable {context : TenantContext} {tenant commandId : Uuid} {command : Command} {approval : Approval}

theorem attached_lockstep {policyVersion targetVersion : Int}
    (attached : Attached env context s command approval policyVersion targetVersion t) (lockstep : Lockstep s) :
    Lockstep t ∧ Onward s.db t.db := by
  obtain ⟨-, free, intent, named, -, -, -, written⟩ := attached
  have outbox : t.db.outbox = s.db.outbox := by rw [written]
  have uuids : s.uuids ≤ t.uuids := by rw [written]
  have journal : t.db.journal = s.db.journal ++ [] := by rw [Store.journal, outbox, List.append_nil, Store.journal]
  constructor
  · apply lockstep.extended (by rw [written]) (by rw [written]) journal
    · exact fun _ notice member => absurd member List.not_mem_nil
    · exact lockstep.events.later outbox uuids
    · exact uuids
  · have fresh : s.db.approvalIntents.get? intent.key = none := named ▸ free
    subst written
    exact ⟨(Onward.refl s.db).commands, (Onward.refl s.db).approvals, kept_put fresh, fun _ _ found => found⟩

theorem prepared_lockstep {intent : ApprovalIntent} {now : Timestamp} {result : ExecutionPreparation}
    (prepared : FirstPrepared context s commandId intent now result t) (lockstep : Lockstep s) :
    Lockstep t ∧ Onward s.db t.db := by
  obtain ⟨unprepared, -, result_eq, row, written⟩ := prepared
  have uuids : t.uuids = s.uuids + 4 := by rw [written]
  have journal := lockstep.events.journal_published (t := t) (Nat.le_add_right _ 3) (by rw [written])
  have fresh : s.db.executionPreparations.get? result.key = none := by
    rw [result_eq]
    exact unprepared
  constructor
  · refine lockstep.extended (by rw [written]) (by rw [written]) journal ?_ ?_ (uuids ▸ Nat.le_add_right _ 4)
    · apply concerns_of_silent ["approval.decided", "approval.expired"]
      · intro notice member
        rw [List.mem_singleton] at member
        rw [member]
        change "execution.prepared" ∉ ["approval.decided", "approval.expired"]
        decide
      · decide
      · decide
    · exact lockstep.events.published (Nat.le_add_right _ 3) (uuids ▸ Nat.lt_succ_self _) (by rw [written])
  · refine ⟨?_, ?_, ?_, ?_⟩
    · rw [written]
      exact (Onward.refl s.db).commands
    · rw [written]
      exact (Onward.refl s.db).approvals
    · rw [written]
      exact fun _ _ found => found
    · rw [written]
      exact kept_put fresh

theorem waiting_key (waiting : Waiting s.db tenant commandId command approval) :
    approval.key = (tenant, commandId) ∧ command.key = (tenant, commandId) :=
  ⟨Table.key_of_get? waiting.approval_found, Table.key_of_get? waiting.command_found⟩

theorem ranOut_lockstep {payload : Mapping} {now : Timestamp}
    (waiting : Waiting s.db tenant commandId command approval)
    (ranOut : RanOut s tenant command approval payload now t) (lockstep : Lockstep s) :
    Lockstep t ∧ Onward s.db t.db := by
  obtain ⟨approval_key, command_key⟩ := waiting_key waiting
  obtain ⟨-, row, written⟩ := ranOut
  have uuids : t.uuids = s.uuids + 3 := by rw [written]
  have journal := lockstep.events.journal_published (t := t) (Nat.le_add_right _ 2) (by rw [written])
  have recorded := lockstep.recorded approval (Table.mem_of_get? waiting.approval_found)
  have undecided := recorded.undecided (.inl waiting.pending)
  have rewritten : Rewritten s t command { command with state := .expired } approval
      { approval with state := .expired }
      [noticeOf tenant "approval.expired" command.id payload (.approvalExpired approval.id)] := by
    refine ⟨?_, ?_, by rw [written], by rw [written], by rw [written], ⟨rfl, rfl, rfl, rfl⟩, ⟨rfl, rfl, rfl, rfl⟩,
      .inr (.inl waiting.pending), rfl, journal, ?_, uuids ▸ Nat.le_add_right _ 3⟩
    · rw [approval_key]
      exact waiting.command_found
    · rw [approval_key]
      exact waiting.approval_found
    · intro notice member
      rw [List.mem_singleton] at member
      rw [member]
      refine ⟨fun topic => ?_, fun _ => rfl⟩
      exact absurd topic (show "approval.expired" ≠ "approval.decided" by decide)
  refine ⟨rewritten.lockstep lockstep ?_ ?_, rewritten.onward⟩
  · exact lockstep.events.published (Nat.le_add_right _ 2) (uuids ▸ Nat.lt_succ_self _) (by rw [written])
  · rw [journal]
    refine ⟨?_, ?_, fun _ => undecided, ?_⟩
    · have before := recorded.decided
      rw [undecided] at before ⊢
      refine (told_append _ _ _ _).trans ?_
      rw [← decisions, before]
      simp [told, About, noticeOf]
    · have before := recorded.expired
      rw [waiting.pending] at before
      refine (told_append _ _ _ _).trans ?_
      rw [← expiries, before]
      simp [told, About, noticeOf]
    · rintro (ended | ended) <;> cases ended

theorem settled_lockstep {approve : Bool} {reason : String} {now : Timestamp}
    (waiting : Waiting s.db context.tenantId commandId command approval)
    (settled : Settled context s command approval approve reason now t) (lockstep : Lockstep s) :
    Lockstep t ∧ Onward s.db t.db := by
  obtain ⟨approval_key, command_key⟩ := waiting_key waiting
  obtain ⟨-, row, written⟩ := settled
  have uuids : t.uuids = s.uuids + 3 := by rw [written]
  have journal := lockstep.events.journal_published (t := t) (Nat.le_add_right _ 2) (by rw [written])
  have recorded := lockstep.recorded approval (Table.mem_of_get? waiting.approval_found)
  have undecided := recorded.undecided (.inl waiting.pending)
  have rewritten : Rewritten s t command (decidedCommand command approve) approval
      (decidedApproval context approval approve reason)
      [noticeOf context.tenantId "approval.decided" command.id [("command_id", .uuid command.id),
        ("approval_id", .uuid approval.id),
        ("decision", .text (decidedApproval context approval approve reason).state.value)]
        (.approvalDecided approval.id)] := by
    refine ⟨?_, ?_, by rw [written], by rw [written], by rw [written], ⟨rfl, rfl, rfl, rfl⟩, ⟨rfl, rfl, rfl, rfl⟩,
      .inr (.inl waiting.pending), by cases approve <;> rfl, journal, ?_, uuids ▸ Nat.le_add_right _ 3⟩
    · rw [approval_key]
      exact waiting.command_found
    · rw [approval_key]
      exact waiting.approval_found
    · intro notice member
      rw [List.mem_singleton] at member
      rw [member]
      refine ⟨fun _ => rfl, fun topic => ?_⟩
      exact absurd topic (show "approval.decided" ≠ "approval.expired" by decide)
  refine ⟨rewritten.lockstep lockstep ?_ ?_, rewritten.onward⟩
  · exact lockstep.events.published (Nat.le_add_right _ 2) (uuids ▸ Nat.lt_succ_self _) (by rw [written])
  · rw [journal]
    refine ⟨?_, ?_, ?_, fun _ => rfl⟩
    · have before := recorded.decided
      rw [undecided] at before
      refine (told_append _ _ _ _).trans ?_
      rw [← decisions]
      change decisions s.db.journal approval.id + _ = _
      rw [before]
      simp [told, About, noticeOf, decidedApproval]
    · have before := recorded.expired
      rw [waiting.pending] at before
      refine (told_append _ _ _ _).trans ?_
      rw [← expiries]
      change expiries s.db.journal approval.id + _ = _
      rw [before]
      cases approve <;> simp [told, About, noticeOf, decidedApproval]
    · cases approve <;> rintro (ended | ended) <;> cases ended

end

theorem quiet_of_toolFiled {tenant : Uuid} {submission : Gateway.ToolSubmission} {verdict : Gateway.Verdict}
    {value : DemoToolCommand} (filed : Gateway.ToolFiled env s tenant submission verdict value t) :
    Quiet lifecycleTables lifecycleTopics s t := by
  obtain ⟨row, ⟨command, digest, id, -, -, new, used, written⟩ | ⟨-, written⟩⟩ := filed.written
  · exact quiet_published (by rw [written]; rfl) (by rw [written]) new used filed.reads (by decide)
  · exact quiet_of_same (by rw [written]; rfl) (by rw [written]) ⟨filed.reads, Nat.le_of_lt filed.uuids⟩

theorem change_lockstep (lockstep : Lockstep s) (change : Change env s t) : Lockstep t ∧ Onward s.db t.db := by
  cases change with
  | other quiet => exact quiet_lockstep quiet.lifecycle lockstep
  | created created => exact created_lockstep created lockstep
  | attached _ _ attached => exact attached_lockstep attached lockstep
  | ranOut waiting _ ranOut => exact ranOut_lockstep waiting ranOut lockstep
  | settled waiting _ _ _ settled => exact settled_lockstep waiting settled lockstep
  | prepared _ prepared => exact prepared_lockstep prepared lockstep
  | toolFiled _ filed => exact quiet_lockstep (quiet_of_toolFiled filed) lockstep

theorem changes_lockstep (lockstep : Lockstep s) (changes : ReflTransGen (Change env) s t) :
    Lockstep t ∧ Onward s.db t.db := by
  induction changes with
  | refl => exact ⟨lockstep, .refl _⟩
  | tail _ change ih =>
    obtain ⟨holds, onward⟩ := change_lockstep ih.1 change
    exact ⟨holds, ih.2.trans onward⟩

/-! ## Supersession -/

theorem retired_lockstep {tenant commandId : Uuid} {old : Command} {oldApproval : Approval}
    (found : s.db.commands.get? (tenant, commandId) = some old)
    (approval_found : s.db.approvals.get? (tenant, commandId) = some oldApproval)
    (old_open : oldApproval.state = .pending ∨ oldApproval.state = .approved) (lockstep : Lockstep s) :
    Lockstep (retired s old oldApproval) ∧ Onward s.db (retired s old oldApproval).db := by
  have approval_key := Table.key_of_get? approval_found
  have recorded := lockstep.recorded oldApproval (Table.mem_of_get? approval_found)
  have moves : Moves oldApproval.state .superseded := by
    rcases old_open with pending | approved
    · exact .inr (.inl pending)
    · exact .inr (.inr ⟨approved, rfl⟩)
  have rewritten : Rewritten s (retired s old oldApproval) old { old with state := .superseded } oldApproval
      { oldApproval with state := .superseded } [] := by
    refine ⟨?_, ?_, rfl, rfl, rfl, ⟨rfl, rfl, rfl, rfl⟩, ⟨rfl, rfl, rfl, rfl⟩, moves, rfl, (List.append_nil _).symm, ?_, Nat.le_refl _⟩
    · rw [approval_key]
      exact found
    · rw [approval_key]
      exact approval_found
    · exact fun notice member => absurd member List.not_mem_nil
  refine ⟨rewritten.lockstep lockstep (lockstep.events.later rfl (Nat.le_refl _)) ?_, rewritten.onward⟩
  refine ⟨recorded.decided, ?_, ?_, ?_⟩
  · refine recorded.expired.trans ?_
    rcases old_open with pending | approved
    · rw [pending]
      rfl
    · rw [approved]
      rfl
  · rintro (ended | ended) <;> cases ended
  · rintro (ended | ended) <;> cases ended

/-- Linking a command to the one it supersedes moves nothing. -/
theorem linked_lockstep {row : Command} {key : Uuid × Uuid} {supersedesId : Option Uuid}
    (found : s.db.commands.get? key = some row)
    (commands : t.db.commands = s.db.commands.put { row with supersedesId := supersedesId })
    (rest : (t.db.approvals, t.db.approvalIntents, t.db.executionPreparations, t.db.outbox) =
      (s.db.approvals, s.db.approvalIntents, s.db.executionPreparations, s.db.outbox))
    (uuids : s.uuids ≤ t.uuids) (lockstep : Lockstep s) : Lockstep t ∧ Onward s.db t.db := by
  simp only [Prod.mk.injEq] at rest
  obtain ⟨approvals, intents, preparations, outbox⟩ := rest
  have named := Table.key_of_get? found
  have journal : t.db.journal = s.db.journal := by rw [Store.journal, outbox, Store.journal]
  have stands : ∀ wanted, (t.db.commands.get? wanted).map (·.state) = (s.db.commands.get? wanted).map (·.state) := by
    intro wanted
    rw [commands, Table.get?_put]
    split
    · next same =>
      have here : key = wanted := named.symm.trans same
      rw [← here, found]
      rfl
    · rfl
  constructor
  · refine ⟨lockstep.events.later outbox uuids, ?_, ?_, ?_, ?_, ?_, ?_⟩
    · intro other member
      rw [commands, Table.mem_put] at member
      rcases member with rfl | ⟨old, -⟩
      · exact Nat.lt_of_lt_of_le (lockstep.command_ids row (Table.mem_of_get? found)) uuids
      · exact Nat.lt_of_lt_of_le (lockstep.command_ids other old) uuids
    · rw [approvals]
      exact fun other member => Nat.lt_of_lt_of_le (lockstep.approval_ids other member) uuids
    · rw [approvals]
      exact lockstep.distinct
    · intro wanted
      rw [stands, approvals]
      exact lockstep.paired wanted
    · rw [approvals, journal]
      exact lockstep.recorded
    · rw [journal]
      exact fun id later => lockstep.unborn id (Nat.le_trans uuids later)
  · refine ⟨?_, ?_, ?_, ?_⟩
    · intro wanted other other_found
      rw [commands, Table.get?_put]
      split
      · next same =>
        have here : key = wanted := named.symm.trans same
        rw [← here, found] at other_found
        cases other_found
        exact ⟨_, rfl, rfl, rfl, rfl⟩
      · exact ⟨other, other_found, rfl, rfl, rfl⟩
    · rw [approvals]
      exact (Onward.refl s.db).approvals
    · rw [intents]
      exact fun _ _ found => found
    · rw [preparations]
      exact fun _ _ found => found

section

variable {context : TenantContext} {idempotencyKey : CommandKey} {old replacement : Command}
  {oldApproval approval : Approval} {middle : Session Store}

/-- The session in which the replacement has been created or found. -/
theorem superseded_middle
    (superseded : Superseded env context s idempotencyKey old oldApproval replacement approval middle t)
    (lockstep : Lockstep s) :
    Lockstep middle ∧ Onward (retired s old oldApproval).db middle.db ∧
      middle.db.commands.get? (context.tenantId, replacement.id) = some replacement ∧
      middle.db.approvals.get? (context.tenantId, replacement.id) = some approval := by
  obtain ⟨retired_holds, -⟩ :=
    retired_lockstep superseded.old_found superseded.old_approval_found superseded.old_open lockstep
  obtain ⟨payload, -, created | replayed⟩ := superseded.change
  · obtain ⟨holds, onward⟩ := created_lockstep created retired_holds
    refine ⟨holds, onward, ?_, ?_⟩
    · obtain ⟨-, command_eq, -, -, row, rfl⟩ := created
      subst command_eq
      exact Table.get?_put_self _ _
    · obtain ⟨-, command_eq, approval_eq, -, row, rfl⟩ := created
      subst command_eq approval_eq
      exact Table.get?_put_self _ _
  · obtain ⟨-, found, approval_found, -, rfl⟩ := replayed
    exact ⟨retired_holds, .refl _, found, approval_found⟩

theorem superseded_lockstep
    (superseded : Superseded env context s idempotencyKey old oldApproval replacement approval middle t)
    (lockstep : Lockstep s) : Lockstep t ∧ Onward s.db t.db := by
  obtain ⟨-, first⟩ := retired_lockstep superseded.old_found superseded.old_approval_found superseded.old_open lockstep
  obtain ⟨middle_holds, second, found, -⟩ := superseded_middle superseded lockstep
  obtain ⟨row, written⟩ := superseded.written
  obtain ⟨holds, third⟩ := linked_lockstep (t := t) found (by rw [written]) (by rw [written])
    (by rw [written]; exact Nat.le_add_right _ 2) middle_holds
  exact ⟨holds, (first.trans second).trans third⟩

end

theorem step_lockstep (lockstep : Lockstep s) (call : LifecycleCall env) :
    Lockstep (step env call s).2 ∧ Onward s.db (step env call s).2.db := by
  rcases step_cases call s with changes | ⟨_, _, _, _, _, _, _, _, _, -, -, -, superseded⟩
  · exact changes_lockstep lockstep changes
  · exact superseded_lockstep superseded lockstep

theorem run_lockstep (calls : List (LifecycleCall env)) : Lockstep (final (step env) Execution.newSession calls) :=
  final_invariant Lockstep lockstep_newSession fun call _ _ lockstep => (step_lockstep lockstep call).1

/-- In every run from a new repository each command has one approval, in the corresponding state;
the outbox has been told once of a decision by a user and once of an expiry, never of both; and
whatever is called next, an approval that was there is still there and has moved forward or stayed. -/
theorem approvals_in_lockstep (env : Env) (calls : List (LifecycleCall env)) :
    let reached := final (step env) Execution.newSession calls
    (∀ command ∈ reached.db.commands.rows, ∃ approval ∈ reached.db.approvals.rows,
      approval.key = command.key ∧ command.state = commandState approval.state ∧
      ∀ other ∈ reached.db.approvals.rows, other.key = command.key → other = approval) ∧
    (∀ approval ∈ reached.db.approvals.rows,
      decisions reached.db.journal approval.id = (if approval.decidedBy.isSome then 1 else 0) ∧
      expiries reached.db.journal approval.id = (if approval.state = .expired then 1 else 0) ∧
      ¬ (approval.decidedBy.isSome ∧ approval.state = .expired)) ∧
    ∀ (call : LifecycleCall env) key before, reached.db.approvals.get? key = some before →
      ∃ after, (step env call reached).2.db.approvals.get? key = some after ∧ SameRequest before after ∧
        Moves before.state after.state := by
  intro reached
  have lockstep : Lockstep reached := run_lockstep calls
  refine ⟨?_, ?_, ?_⟩
  · intro command member
    -- one approval for each command
    obtain ⟨approval, found, same⟩ := lockstep.paired.approval_of_command (Table.get?_key _ member)
    have approval_key := Table.key_of_get? found
    refine ⟨approval, Table.mem_of_get? found, approval_key, same, ?_⟩
    intro other other_member key
    exact reached.db.approvals.key_inj other_member (Table.mem_of_get? found) (key.trans approval_key.symm)
  · intro approval member
    -- an expired approval has not been decided
    have recorded := lockstep.recorded approval member
    refine ⟨recorded.decided, recorded.expired, ?_⟩
    rintro ⟨decided, expired⟩
    rw [recorded.undecided (.inr expired)] at decided
    cases decided
  · intro call key before found
    exact (step_lockstep lockstep call).2.approvals key before found

end AiStore.Approvals
