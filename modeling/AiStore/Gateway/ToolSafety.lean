import AiStore.Approval.Backing

/-! What every accepted tool command stands on, over whole runs of the service. -/

set_option autoImplicit false

namespace AiStore.Gateway

open Library (Session Table final final_invariant)
open Library.Txn Failure Repository Service Approvals
open Relation (ReflTransGen)

variable {env : Env} {s t u : Session Store}

/-! ## Calls -/

theorem judge_settles {context : TenantContext} {submission : ToolSubmission} :
    Settles (Change env) (judge env context submission) := by
  have validating : ∀ approvalId, Settles (Change env) (validatedToolApproval env context submission approvalId) := by
    intro approvalId
    have matching : Settles (Change env) (matchedApproval env context.tenantId submission approvalId) :=
      settles_reading fun _ => keeps_matchedApproval
    refine matching.bind fun _ => (settles_reading fun _ => keeps_query _).bind fun _ => ?_
    refine (settles_reading fun _ => keeps_ensure _ _).bind fun _ => prepareExecution_settles.bind fun _ => ?_
    exact (settles_reading fun _ => keeps_ensure _ _).bind fun _ => settles_reading fun _ => keeps_pure _
  apply Settles.bind (settles_reading fun _ => keeps_query _)
  intro stopped
  split
  · exact settles_reading fun _ => keeps_pure _
  split
  · split
    · exact settles_reading fun _ => keeps_pure _
    · next approvalId _ =>
      -- what is caught has settled before
      have caught_settles : Settles (Change env) (caught (validatedToolApproval env context submission approvalId)) :=
        validating approvalId
      apply caught_settles.bind
      intro validated
      cases validated with
      | ok approved => exact settles_reading fun _ => keeps_pure _
      | error why => exact settles_reading fun _ => (keeps_pure _).ite (keeps_raise _)
  · exact settles_reading fun _ => keeps_pure _

theorem submitDemoTool_changes {context : TenantContext} {submission : ToolSubmission} {reply : ToolReply}
    (ran : (submitDemoTool env context submission).run s = (.ok reply, t)) : ReflTransGen (Change env) s t := by
  obtain ⟨-, -, verdict, middle, value, judged, filed, -⟩ := submitDemoTool_eq_ok.mp ran
  have judging := judge_settles.follows s verdict middle judged
  have later := (fileTool env context submission (sorted (.dict submission.input)) verdict).advances middle
  rw [filed] at later
  rcases fileTool_ok filed with ⟨-, -, same⟩ | written
  · exact judging.tail (change_idles _ _ same later)
  · exact judging.tail (.toolFiled (judge_ok judged).vouched written)

/-- A submission, or a call of the service on commands and approvals. -/
inductive ToolCall (env : Env) where
  | submit (context : TenantContext) (submission : ToolSubmission)
  | lifecycle (call : LifecycleCall env)

/-- What a submission returned. -/
abbrev ToolResult := Except Failure (Option ToolReply)

namespace Tool

def perform : ToolCall env → Op (Option ToolReply)
  | .submit context submission => do
      let reply ← submitDemoTool env context submission
      pure (some reply)
  | .lifecycle call => do
      let _ ← Approvals.perform call
      pure none

def step (env : Env) (call : ToolCall env) (s : Session Store) : ToolResult × Session Store := (perform call).run s

end Tool

theorem tool_step_evolves (call : ToolCall env) (s : Session Store) :
    ReflTransGen (Evolution env) s (Tool.step env call s).2 := by
  cases call with
  | submit context submission =>
    simp only [Tool.step, Tool.perform, run_bind]
    rcases ran : (submitDemoTool env context submission).run s with ⟨why | reply, t⟩
    · have advances := (submitDemoTool env context submission).advances s
      rw [ran] at advances
      exact .single (.inl (change_idles _ _ (submitDemoTool_error ran) advances))
    · exact ReflTransGen.mono (fun _ _ change => .inl change) _ _ (submitDemoTool_changes ran)
  | lifecycle call =>
    have evolves := step_evolves call s
    simp only [Approvals.step] at evolves
    simp only [Tool.step, Tool.perform, run_bind]
    rcases ran : (Approvals.perform call).run s with ⟨why | rows, t⟩ <;> rw [ran] at evolves <;> exact evolves

/-! ## Steps that file no command -/

/-- The table of tool commands and what the outbox has been told of it. -/
abbrev Aside (s t : Session Store) : Prop := Quiet Store.toolCommands ["tool.command"] s t

theorem Aside.trans (first : Aside s t) (second : Aside t u) : Aside s u where
  same := second.same.trans first.same
  drawn drawn := second.drawn (first.drawn drawn)
  journal drawn := by
    obtain ⟨extra, journal, silent⟩ := first.journal drawn
    obtain ⟨more, later, still⟩ := second.journal (first.drawn drawn)
    refine ⟨extra ++ more, by rw [later, journal, List.append_assoc], ?_⟩
    intro notice member
    exact (List.mem_append.mp member).elim (silent notice) (still notice)
  advances := first.advances.trans second.advances

theorem created_aside {context : TenantContext} {kind : ApprovalKind} {targetRef : TargetRef} {payload : Mapping}
    {idempotencyKey : CommandKey} {evidence : List Mapping} {command : Command} {approval : Approval}
    (created : Created env context s kind targetRef payload idempotencyKey evidence command approval t) : Aside s t := by
  obtain ⟨-, -, -, -, row, rfl⟩ := created
  refine quiet_published rfl rfl (Nat.le_add_right _ 4) (Nat.lt_succ_self _) (Nat.le_add_right _ 2) (by decide)

theorem superseded_aside {context : TenantContext} {key : CommandKey} {old replacement : Command}
    {oldApproval approval : Approval} {middle : Session Store}
    (superseded : Superseded env context s key old oldApproval replacement approval middle t) : Aside s t := by
  have retiring : Aside s (retired s old oldApproval) := quiet_of_same rfl rfl (.refl _)
  have linking : Aside middle t := by
    obtain ⟨row, rfl⟩ := superseded.written
    exact quiet_of_same rfl rfl ⟨Nat.le_succ _, Nat.le_add_right _ 2⟩
  obtain ⟨payload, -, created | replayed⟩ := superseded.change
  · exact (retiring.trans (created_aside created)).trans linking
  · rw [replayed.unchanged] at linking
    exact retiring.trans linking

/-- Either no tool command is touched, or one is filed. -/
theorem evolution_tools (evolution : Evolution env s t) :
    Aside s t ∨ ∃ tenant submission verdict value, Vouched env s.db tenant submission verdict ∧
      ToolFiled env s tenant submission verdict value t := by
  rcases evolution with change | ⟨_, _, _, _, _, _, _, superseded⟩
  · cases change with
    | other quiet =>
      refine .inl (quiet.weaken (fun _ _ same => congrArg Prod.snd same) ?_)
      decide
    | created created => exact .inl (created_aside created)
    | attached _ _ attached =>
      obtain ⟨-, -, intent, -, -, -, -, rfl⟩ := attached
      exact .inl (quiet_of_same rfl rfl ⟨Nat.le_succ _, Nat.le_refl _⟩)
    | ranOut _ _ ranOut =>
      obtain ⟨-, row, rfl⟩ := ranOut
      exact .inl (quiet_published rfl rfl (Nat.le_add_right _ 2) (Nat.lt_succ_self _) (Nat.le_succ _) (by decide))
    | settled _ _ _ _ settled =>
      obtain ⟨-, row, rfl⟩ := settled
      exact .inl (quiet_published rfl rfl (Nat.le_add_right _ 2) (Nat.lt_succ_self _) (Nat.le_succ _) (by decide))
    | prepared _ prepared =>
      obtain ⟨-, -, -, row, rfl⟩ := prepared
      exact .inl (quiet_published rfl rfl (Nat.le_add_right _ 3) (Nat.lt_succ_self _) (Nat.le_add_right _ 2) (by decide))
    | toolFiled vouched filed => exact .inr ⟨_, _, _, _, vouched, filed⟩
  · exact .inl (superseded_aside superseded)

/-! ## The invariant -/

/-- What makes the gateway offer a command to a worker. -/
def Executable (row : DemoToolCommand) : Prop := row.state = .accepted ∧ Mutating row.tool

instance : DecidablePred Executable := fun row => by
  unfold Executable
  exact inferInstance

/-- The approval that the command was accepted under. -/
structure StandsOn (db : Store) (row : DemoToolCommand) (approval : Approval) (command : Command)
    (intent : ApprovalIntent) : Prop where
  named : row.approvalId = some (.uuid approval.id) ∧ row.approvalCommandId = some command.id
  approval_found : approval ∈ db.approvals.rows ∧ approval.tenantId = row.tenantId
  command_found : db.commands.get? (row.tenantId, approval.commandId) = some command
  intent_found : db.approvalIntents.get? (row.tenantId, command.id) = some intent
  kind : command.kind ∈ toolApprovalKinds row.tool
  target : command.targetRef = .text (row.targetType ++ ":" ++ row.targetId)
  payload : sorted (.dict command.payload) = row.input
  policy_version : intent.policyVersion = row.requestedPolicyVersion
  prepared : ∃ preparation, db.executionPreparations.get? (row.tenantId, command.id) = some preparation

/-- The executions of a tool command that the outbox has been told of. -/
def offers (journal : List Notice) (tool : Uuid) : Nat :=
  (journal.filter fun notice => notice.topic = "tool.command" ∧ notice.aggregateRef = .uuid tool).length

structure ToolBook (s : Session Store) : Prop where
  ids : ∀ row ∈ s.db.toolCommands.rows, row.id < s.uuids
  keys : ∀ first ∈ s.db.toolCommands.rows, ∀ second ∈ s.db.toolCommands.rows,
    first.tenantId = second.tenantId → first.idempotencyKey = second.idempotencyKey → first = second
  single : ∀ first ∈ s.db.toolCommands.rows, ∀ second ∈ s.db.toolCommands.rows, first.tenantId = second.tenantId →
    first.state = .accepted → second.state = .accepted → first.approvalId.isSome →
    first.approvalId = second.approvalId → first = second
  stands : ∀ row ∈ s.db.toolCommands.rows, Executable row → ∃ approval command intent,
    StandsOn s.db row approval command intent
  offered : ∀ row ∈ s.db.toolCommands.rows, offers s.db.journal row.id = if Executable row then 1 else 0
  owned : ∀ notice ∈ s.db.journal, notice.topic = "tool.command" →
    ∃ row ∈ s.db.toolCommands.rows, Executable row ∧ notice.tenantId = .uuid row.tenantId ∧
      notice.aggregateRef = .uuid row.id

theorem toolBook_newSession : ToolBook Execution.newSession := by
  refine ⟨?_, ?_, ?_, ?_, ?_, ?_⟩ <;> intro row member <;> cases member

theorem StandsOn.later {row : DemoToolCommand} {approval : Approval} {command : Command} {intent : ApprovalIntent}
    (stands : StandsOn s.db row approval command intent) (onward : Onward s.db t.db) :
    ∃ approval command intent, StandsOn t.db row approval command intent := by
  obtain ⟨approval', approval_found, same, -⟩ :=
    onward.approvals _ _ (Table.get?_key _ stands.approval_found.1)
  obtain ⟨command', command_found, kind, target, payload⟩ := onward.commands _ _ stands.command_found
  have approval_key := Table.key_of_get? approval_found
  have key : approval'.tenantId = approval.tenantId ∧ approval'.commandId = approval.commandId := Prod.mk.inj approval_key
  have command_id : command'.id = command.id :=
    (command_named command_found).2.trans (command_named stands.command_found).2.symm
  obtain ⟨preparation, prepared⟩ := stands.prepared
  refine ⟨approval', command', intent, ⟨?_, ?_, ?_, ?_, ?_, ?_, ?_, stands.policy_version, preparation, ?_⟩⟩
  · rw [same.id, command_id]
    exact stands.named
  · exact ⟨Table.mem_of_get? approval_found, key.1.trans stands.approval_found.2⟩
  · rw [key.2]
    exact command_found
  · rw [command_id]
    exact onward.intents _ _ stands.intent_found
  · rw [kind]
    exact stands.kind
  · rw [target]
    exact stands.target
  · rw [payload]
    exact stands.payload
  · rw [command_id]
    exact onward.preparations _ _ prepared

theorem offers_append (journal extra : List Notice) (tool : Uuid) :
    offers (journal ++ extra) tool = offers journal tool + offers extra tool := by
  rw [offers, List.filter_append, List.length_append, offers, offers]

theorem offers_eq_zero {journal : List Notice} {tool : Uuid}
    (silent : ∀ notice ∈ journal, notice.topic = "tool.command" → notice.aggregateRef ≠ .uuid tool) :
    offers journal tool = 0 := by
  rw [offers, List.length_eq_zero_iff, List.filter_eq_nil_iff]
  intro notice member
  simpa using silent notice member

/-- A step that files no command keeps the book. -/
theorem ToolBook.aside (book : ToolBook s) (aside : Aside s t) (events : EventsDrawn s) (onward : Onward s.db t.db) :
    ToolBook t := by
  obtain ⟨extra, journal, silent⟩ := aside.journal events
  have rows : t.db.toolCommands = s.db.toolCommands := aside.same
  have untold : ∀ tool, offers extra tool = 0 := by
    intro tool
    apply offers_eq_zero
    intro notice member topic
    exact absurd (by simp [topic]) (silent notice member)
  refine ⟨?_, ?_, ?_, ?_, ?_, ?_⟩
  · rw [rows]
    exact fun row member => Nat.lt_of_lt_of_le (book.ids row member) aside.advances.2
  · rw [rows]
    exact book.keys
  · rw [rows]
    exact book.single
  · rw [rows]
    intro row member executable
    obtain ⟨approval, command, intent, stands⟩ := book.stands row member executable
    exact stands.later onward
  · rw [rows]
    intro row member
    rw [journal, offers_append, untold, Nat.add_zero]
    exact book.offered row member
  · rw [rows]
    intro notice member topic
    rw [journal, List.mem_append] at member
    rcases member with old | new
    · exact book.owned notice old topic
    · exact absurd (by simp [topic]) (silent notice new)

section

variable {tenant : Uuid} {submission : ToolSubmission} {verdict : Verdict} {value : DemoToolCommand}

theorem ToolFiled.named (filed : ToolFiled env s tenant submission verdict value t) :
    value.tenantId = tenant ∧ value.id = s.uuids ∧ value.idempotencyKey = submission.idempotencyKey ∧
      value.tool = submission.tool ∧ value.state = verdict.state := by
  rw [filed.value_eq]
  exact ⟨rfl, rfl, rfl, rfl, rfl⟩

theorem ToolFiled.rows (filed : ToolFiled env s tenant submission verdict value t) (book : ToolBook s) :
    ∀ row, row ∈ t.db.toolCommands.rows ↔ row = value ∨ row ∈ s.db.toolCommands.rows := by
  have free : s.db.toolCommands.get? value.key = none := by
    rw [Table.get?_eq_none]
    intro row member same
    have id : row.id = s.uuids := (congrArg Prod.snd same).trans filed.named.2.1
    exact Nat.lt_irrefl _ (id ▸ book.ids row member)
  have put : t.db.toolCommands = s.db.toolCommands.put value := by
    obtain ⟨row, ⟨_, _, _, -, -, -, -, written⟩ | ⟨-, written⟩⟩ := filed.written <;> rw [written]
  intro row
  rw [put, Table.rows_put_of_fresh _ free, List.mem_append, List.mem_singleton, or_comm]

/-- No command of the tenant has the key of a submission that is filed. -/
theorem ToolFiled.key_free (filed : ToolFiled env s tenant submission verdict value t) {row : DemoToolCommand}
    (member : row ∈ s.db.toolCommands.rows) (same : row.tenantId = tenant) :
    row.idempotencyKey ≠ submission.idempotencyKey := by
  have fresh := filed.fresh
  rw [toolFor, List.find?_eq_none] at fresh
  have here : row ∈ tenantTools s.db tenant := List.mem_filter.mpr ⟨member, by simp [same]⟩
  simpa using fresh row here

/-- The new command stands on its approval. -/
theorem ToolFiled.stands (filed : ToolFiled env s tenant submission verdict value t)
    (vouched : Vouched env s.db tenant submission verdict) (executable : Executable value) :
    ∃ approval command intent, StandsOn s.db value approval command intent := by
  obtain ⟨accepted, mutating⟩ := executable
  rw [filed.named.2.2.2.2] at accepted
  rw [filed.named.2.2.2.1] at mutating
  obtain ⟨approvalId, approval, command, intent, given, matched, -, prepared, approved⟩ := vouched.approval accepted mutating
  have found := List.find?_some matched.approval_found
  simp only [decide_eq_true_eq] at found
  refine ⟨approval, command, intent, ?_⟩
  rw [filed.value_eq]
  refine ⟨⟨?_, ?_⟩, ⟨List.mem_of_find?_eq_some matched.approval_found, found.1⟩, matched.command_found,
    matched.intent_found, matched.kind, matched.target, matched.payload, matched.policy_version, prepared⟩
  · simp [filedTool, newToolCommand, approved, given, found.2]
  · simp [filedTool, newToolCommand, approved]

/-- An executable command is offered in the step that files it, any other command never. -/
theorem ToolFiled.journal (filed : ToolFiled env s tenant submission verdict value t)
    (vouched : Vouched env s.db tenant submission verdict) (events : EventsDrawn s) :
    (Executable value ∧ ∃ digest, t.db.journal = s.db.journal ++ [noticeOf tenant "tool.command" value.id
      [("command_id", .uuid value.id), ("state", .text verdict.state.value), ("mode", .text "DEMO"),
        ("intent_digest", .text digest)] (.tool value.id)]) ∨
    ¬ Executable value ∧ t.db.journal = s.db.journal := by
  have named := filed.named
  obtain ⟨row, ⟨command, digest, id, approved, accepted, new, used, written⟩ | ⟨silent, written⟩⟩ := filed.written
  · have mutating := (vouched.approved (by rw [approved]; rfl)).2
    refine .inl ⟨⟨named.2.2.2.2.trans accepted, named.2.2.2.1 ▸ mutating⟩, digest, ?_⟩
    exact events.journal_published new (by rw [written])
  · refine .inr ⟨?_, by rw [written]; rfl⟩
    rintro ⟨accepted, mutating⟩
    rw [named.2.2.2.2] at accepted
    rw [named.2.2.2.1] at mutating
    obtain ⟨_, _, command, intent, -, -, -, -, approved⟩ := vouched.approval accepted mutating
    rcases silent with missing | blocked
    · rw [approved] at missing
      cases missing
    · exact blocked accepted

theorem ToolFiled.older (filed : ToolFiled env s tenant submission verdict value t) (book : ToolBook s)
    {row : DemoToolCommand} (member : row ∈ s.db.toolCommands.rows) : row.id ≠ value.id := by
  intro same
  have below := book.ids row member
  rw [same, filed.named.2.1] at below
  exact Nat.lt_irrefl _ below

/-- The outbox cannot have been told of an identifier that had not been drawn. -/
theorem ToolFiled.untold (filed : ToolFiled env s tenant submission verdict value t) (book : ToolBook s) :
    offers s.db.journal value.id = 0 := by
  apply offers_eq_zero
  intro notice member topic same
  obtain ⟨row, row_member, -, -, aggregate⟩ := book.owned notice member topic
  exact filed.older book row_member (Ident.uuid.inj (aggregate.symm.trans same))

/-- A second accepted command under the approval of the new one would have been found. -/
theorem ToolFiled.alone (filed : ToolFiled env s tenant submission verdict value t)
    (vouched : Vouched env s.db tenant submission verdict) {row : DemoToolCommand} (member : row ∈ s.db.toolCommands.rows)
    (same : row.tenantId = tenant) (accepted : row.state = .accepted) (value_accepted : value.state = .accepted)
    (given : value.approvalId.isSome) : row.approvalId ≠ value.approvalId := by
  intro equal
  rw [filed.named.2.2.2.2] at value_accepted
  have approved : verdict.approved.isSome := by
    rw [filed.value_eq] at given
    cases present : verdict.approved with
    | none => simp [filedTool, newToolCommand, present] at given
    | some approved => rfl
  obtain ⟨approvalId, _, _, _, submitted, -, unused, -, approved_eq⟩ :=
    vouched.approval value_accepted (vouched.approved approved).2
  refine unused ⟨row, List.mem_filter.mpr ⟨member, by simp [same]⟩, ?_, accepted, filed.key_free member same⟩
  rw [equal, filed.value_eq]
  simp [filedTool, newToolCommand, approved_eq, submitted]

theorem ToolBook.filed (book : ToolBook s) (filed : ToolFiled env s tenant submission verdict value t)
    (vouched : Vouched env s.db tenant submission verdict) (events : EventsDrawn s) (onward : Onward s.db t.db) :
    ToolBook t := by
  have named := filed.named
  have rows := filed.rows book
  have untold := filed.untold book
  have told := filed.journal vouched events
  refine ⟨?_, ?_, ?_, ?_, ?_, ?_⟩
  · intro row member
    rcases (rows row).mp member with rfl | old
    · rw [named.2.1]
      exact filed.uuids
    · exact Nat.lt_trans (book.ids row old) filed.uuids
  · refine Library.distinct_added_within value (fun row member => ?_) book.keys
    refine ((rows row).mp member).imp_right fun old => ⟨old, fun same key => ?_⟩
    exact filed.key_free old (same.trans named.1) (key.trans named.2.2.1)
  · intro first first_member second second_member same first_accepted second_accepted given equal
    rcases (rows first).mp first_member with rfl | first_old <;> rcases (rows second).mp second_member with rfl | second_old
    · rfl
    · exact absurd equal.symm
        (filed.alone vouched second_old (same.symm.trans named.1) second_accepted first_accepted given)
    · exact absurd equal
        (filed.alone vouched first_old (same.trans named.1) first_accepted second_accepted (equal ▸ given))
    · exact book.single first first_old second second_old same first_accepted second_accepted given equal
  · intro row member executable
    rcases (rows row).mp member with rfl | old
    · obtain ⟨approval, command, intent, stands⟩ := filed.stands vouched executable
      exact stands.later onward
    · obtain ⟨approval, command, intent, stands⟩ := book.stands row old executable
      exact stands.later onward
  · intro row member
    rcases told with ⟨executable, digest, journal⟩ | ⟨silent, journal⟩
    · rw [journal, offers_append]
      rcases (rows row).mp member with rfl | old
      · rw [untold, if_pos executable]
        simp [offers, noticeOf]
      · rw [book.offered row old]
        have apart : Ident.uuid value.id ≠ .uuid row.id := fun same => filed.older book old (Ident.uuid.inj same).symm
        simp [offers, noticeOf, apart]
    · rw [journal]
      rcases (rows row).mp member with rfl | old
      · rw [untold, if_neg silent]
      · exact book.offered row old
  · intro notice member topic
    have kept : ∀ row ∈ s.db.toolCommands.rows, row ∈ t.db.toolCommands.rows := fun row old => (rows row).mpr (.inr old)
    rcases told with ⟨executable, digest, journal⟩ | ⟨silent, journal⟩ <;> rw [journal] at member
    · rcases List.mem_append.mp member with old | new
      · obtain ⟨row, row_member, facts⟩ := book.owned notice old topic
        exact ⟨row, kept row row_member, facts⟩
      · rw [List.mem_singleton] at new
        refine ⟨value, (rows value).mpr (.inl rfl), executable, ?_, ?_⟩
        · rw [new, named.1]
          rfl
        · rw [new]
          rfl
    · obtain ⟨row, row_member, facts⟩ := book.owned notice member topic
      exact ⟨row, kept row row_member, facts⟩

end

/-! ## Runs -/

/-- The rows of a session that a run has reached. -/
structure Reached (s : Session Store) : Prop where
  lockstep : Lockstep s
  backed : Backed s.db
  book : ToolBook s

theorem Reached.evolution (reached : Reached s) (evolution : Evolution env s t) : Reached t := by
  obtain ⟨lockstep, onward⟩ := evolution_lockstep reached.lockstep evolution
  refine ⟨lockstep, evolution_backed reached.lockstep reached.backed evolution, ?_⟩
  rcases evolution_tools evolution with aside | ⟨_, _, _, _, vouched, filed⟩
  · exact reached.book.aside aside reached.lockstep.events onward
  · exact reached.book.filed filed vouched reached.lockstep.events onward

theorem Reached.evolutions (reached : Reached s) (history : ReflTransGen (Evolution env) s t) : Reached t := by
  induction history with
  | refl => exact reached
  | tail _ evolution ih => exact ih.evolution evolution

theorem reached_newSession : Reached Execution.newSession :=
  ⟨lockstep_newSession, fun _ member => absurd member List.not_mem_nil, toolBook_newSession⟩

theorem tool_run_evolves (calls : List (ToolCall env)) (s : Session Store) :
    ReflTransGen (Evolution env) s (final (Tool.step env) s calls) := by
  induction calls generalizing s with
  | nil => exact .refl
  | cons call rest ih => exact (tool_step_evolves call s).trans (ih _)

theorem tool_run_reached (calls : List (ToolCall env)) : Reached (final (Tool.step env) Execution.newSession calls) :=
  reached_newSession.evolutions (tool_run_evolves calls _)

/-! ## The tables of both repositories -/

/-- The constraints of `demo_tool_commands`. -/
structure Insertable (db : Store) (value : DemoToolCommand) : Prop where
  tenant : (db.tenants.get? value.tenantId).isSome
  policy_version : 0 < value.requestedPolicyVersion
  id : ∀ row ∈ db.toolCommands.rows, row.id ≠ value.id
  approval : ∀ approvalId ∈ value.approvalId,
    ∃ row ∈ db.approvals.rows, row.tenantId = value.tenantId ∧ .uuid row.id = approvalId
  /-- `demo_tool_one_accepted_per_approval` -/
  accepted : ∀ row ∈ db.toolCommands.rows, ¬ (row.tenantId = value.tenantId ∧ row.approvalId.isSome ∧
    row.approvalId = value.approvalId ∧ row.state = .accepted ∧ value.state = .accepted)

instance (db : Store) (value : DemoToolCommand) : Decidable (Insertable db value) :=
  decidable_of_iff ((db.tenants.get? value.tenantId).isSome ∧ 0 < value.requestedPolicyVersion ∧
      (∀ row ∈ db.toolCommands.rows, row.id ≠ value.id) ∧
      (∀ approvalId ∈ value.approvalId,
        ∃ row ∈ db.approvals.rows, row.tenantId = value.tenantId ∧ .uuid row.id = approvalId) ∧
      ∀ row ∈ db.toolCommands.rows, ¬ (row.tenantId = value.tenantId ∧ row.approvalId.isSome ∧
        row.approvalId = value.approvalId ∧ row.state = .accepted ∧ value.state = .accepted))
    ⟨fun ⟨tenant, policy, id, approval, accepted⟩ => ⟨tenant, policy, id, approval, accepted⟩,
      fun ⟨tenant, policy, id, approval, accepted⟩ => ⟨tenant, policy, id, approval, accepted⟩⟩

/-- `save_tool_command` of the SQLite repository. -/
def sqliteSaveToolCommand (value : DemoToolCommand) : Op (DemoToolCommand × Bool) := do
  let rows ← toolCommandsFor value.tenantId
  match rows.find? fun row => row.idempotencyKey = value.idempotencyKey with
  | some prior =>
    ensure (prior.request = value.request) (conflictError "tool idempotency key reused")
    pure (prior, true)
  | none =>
    let store ← query id
    ensure (Insertable store value) (conflictError "tool command already exists")
    write fun store => { store with toolCommands := store.toolCommands.put value }
    pure (value, false)

/-- The command of a verdict meets every constraint unless its key is known, so both repositories do the same. -/
theorem sqliteSaveToolCommand_agrees (book : ToolBook s) {tenant : Uuid} {submission : ToolSubmission}
    {verdict : Verdict} (vouched : Vouched env s.db tenant submission verdict)
    (policy_version : 1 ≤ submission.requestedPolicyVersion) (known : (s.db.tenants.get? tenant).isSome) :
    (sqliteSaveToolCommand (filedTool env s tenant submission verdict)).run s =
      (saveToolCommand (filedTool env s tenant submission verdict)).run s := by
  have insertable : toolFor s.db tenant submission.idempotencyKey = none →
      Insertable s.db (filedTool env s tenant submission verdict) := by
    intro fresh
    have stored : (filedTool env s tenant submission verdict).approvalId.isSome →
        ∃ approvalId approval, submission.approvalId = some approvalId ∧
          (filedTool env s tenant submission verdict).approvalId = some approvalId ∧ approval ∈ s.db.approvals.rows ∧
          approval.tenantId = tenant ∧ .uuid approval.id = approvalId ∧
          ¬ UsedElsewhere (tenantTools s.db tenant) approvalId submission.idempotencyKey := by
      intro given
      have approved : verdict.approved.isSome := by
        cases present : verdict.approved with
        | none => simp [filedTool, newToolCommand, present] at given
        | some approved => rfl
      obtain ⟨accepted, mutating⟩ := vouched.approved approved
      obtain ⟨approvalId, approval, _, _, submitted, matched, unused, -, approved_eq⟩ := vouched.approval accepted mutating
      have found := List.find?_some matched.approval_found
      simp only [decide_eq_true_eq] at found
      refine ⟨approvalId, approval, submitted, ?_, List.mem_of_find?_eq_some matched.approval_found, found.1, found.2, unused⟩
      simp [filedTool, newToolCommand, approved_eq, submitted]
    refine ⟨known, policy_version, ?_, ?_, ?_⟩
    · intro row member same
      exact Nat.lt_irrefl _ (same ▸ book.ids row member)
    · intro approvalId member
      obtain ⟨_, approval, -, given, approval_member, approval_tenant, id, -⟩ := stored (by rw [member]; rfl)
      rw [member] at given
      cases given
      exact ⟨approval, approval_member, approval_tenant, id⟩
    · rintro row member ⟨same, given, equal, accepted, -⟩
      obtain ⟨approvalId, _, -, approval_eq, -, -, -, unused⟩ := stored (equal ▸ given)
      have tenant_same : row.tenantId = tenant := same
      have here : row ∈ tenantTools s.db tenant := List.mem_filter.mpr ⟨member, by simp [tenant_same]⟩
      refine unused ⟨row, here, equal.trans approval_eq, accepted, ?_⟩
      rw [toolFor, List.find?_eq_none] at fresh
      simpa using fresh row here
  simp only [sqliteSaveToolCommand, saveToolCommand, toolCommandsFor, run_bind, query]
  cases fresh : toolFor s.db tenant submission.idempotencyKey with
  | some prior =>
    have found : (s.db.toolCommands.rows.filter (·.tenantId = (filedTool env s tenant submission verdict).tenantId)).find?
        (fun row => row.idempotencyKey = (filedTool env s tenant submission verdict).idempotencyKey) = some prior := fresh
    rw [found]
  | none =>
    have missing : (s.db.toolCommands.rows.filter (·.tenantId = (filedTool env s tenant submission verdict).tenantId)).find?
        (fun row => row.idempotencyKey = (filedTool env s tenant submission verdict).idempotencyKey) = none := fresh
    rw [missing]
    simp [run_bind, ensure, insertable fresh, Library.Txn.pure]

/-- In every run of the service at most one accepted command refers to an approval, an accepted mutating
command stands on an approval of its own kind, target, input and policy version, it has been offered
to the workers once, and no other command has; both repositories file it alike. -/
theorem tools_stand_on_approvals (env : Env) (calls : List (ToolCall env)) :
    let reached := final (Tool.step env) Execution.newSession calls
    (∀ first ∈ reached.db.toolCommands.rows, ∀ second ∈ reached.db.toolCommands.rows,
      first.tenantId = second.tenantId → first.state = .accepted → second.state = .accepted →
      first.approvalId.isSome → first.approvalId = second.approvalId → first = second) ∧
    (∀ row ∈ reached.db.toolCommands.rows, Executable row →
      ∃ approval command intent, StandsOn reached.db row approval command intent) ∧
    (∀ row ∈ reached.db.toolCommands.rows, offers reached.db.journal row.id = if Executable row then 1 else 0) ∧
    (∀ notice ∈ reached.db.journal, notice.topic = "tool.command" →
      ∃ row ∈ reached.db.toolCommands.rows, Executable row ∧ notice.tenantId = .uuid row.tenantId ∧
        notice.aggregateRef = .uuid row.id) ∧
    ∀ tenant submission verdict, Vouched env reached.db tenant submission verdict →
      1 ≤ submission.requestedPolicyVersion → (reached.db.tenants.get? tenant).isSome →
      (sqliteSaveToolCommand (filedTool env reached tenant submission verdict)).run reached =
        (saveToolCommand (filedTool env reached tenant submission verdict)).run reached := by
  intro reached
  have book : ToolBook reached := (tool_run_reached calls).book
  refine ⟨book.single, book.stands, book.offered, book.owned, ?_⟩
  intro tenant submission verdict vouched policy_version known
  exact sqliteSaveToolCommand_agrees book vouched policy_version known

end AiStore.Gateway
