import AiStore.Gateway.ToolSafety

/-! What a repeated submission is answered, whatever has happened since the first one. -/

set_option autoImplicit false

namespace AiStore.Gateway

open Library (Session Table final)
open Library.Txn Failure Repository Service Approvals
open Relation (ReflTransGen)

variable {env : Env} {s t u : Session Store} {context : TenantContext} {submission : ToolSubmission}

/-! ## What an answer leaves behind -/

/-- The request kept for an answer; an approval that did not stand the check is not part of it. -/
def keptRequest (submission : ToolSubmission) (nextAction : Option String) : ToolRequest where
  actorType := submission.actorType
  actorId := submission.actorId
  tool := submission.tool
  targetType := submission.targetType
  targetId := submission.targetId
  input := sorted (.dict submission.input)
  requestedPolicyVersion := submission.requestedPolicyVersion
  approvalId := if nextAction = none ∧ Mutating submission.tool then submission.approvalId else none

theorem Judged.request {verdict : Verdict} (judged : Judged env s context submission verdict t) (u : Session Store) :
    (filedTool env u context.tenantId submission verdict).request = keptRequest submission verdict.blocked := by
  cases judged with
  | bookkeeping free reading => simp [filedTool, newToolCommand, DemoToolCommand.request, keptRequest, reading]
  | cleared free mutating => simp [filedTool, newToolCommand, DemoToolCommand.request, keptRequest, mutating]
  | stopped | unapproved | refused => simp [filedTool, newToolCommand, DemoToolCommand.request, keptRequest]

/-- The approval that an answer went by has been prepared for execution. -/
def PreparedFor (db : Store) (tenant : Uuid) (submission : ToolSubmission) : Prop :=
  ∃ approvalId approval preparation, submission.approvalId = some approvalId ∧
    approval ∈ db.approvals.rows ∧ approval.tenantId = tenant ∧ .uuid approval.id = approvalId ∧
    db.executionPreparations.get? (tenant, approval.commandId) = some preparation

/-- The command of an answer is still there, as is the preparation it went by. -/
structure Kept (db : Store) (tenant : Uuid) (submission : ToolSubmission) (reply : ToolReply) : Prop where
  row : ∃ row ∈ db.toolCommands.rows, row.tenantId = tenant ∧ row.idempotencyKey = submission.idempotencyKey ∧
    row.id = reply.commandId ∧ row.state = reply.state ∧ row.request = keptRequest submission reply.nextAction
  prepared : reply.nextAction = none → Mutating submission.tool → PreparedFor db tenant submission

theorem Judged.preparedFor {verdict : Verdict} (judged : Judged env s context submission verdict t)
    (unblocked : verdict.blocked = none) (mutating : Mutating submission.tool) :
    PreparedFor t.db context.tenantId submission := by
  have vouched := judged.vouched
  cases judged with
  | bookkeeping free reading => exact absurd mutating reading
  | stopped | unapproved | refused => cases unblocked
  | cleared free _ given =>
    obtain ⟨approvalId, approval, command, intent, given, matched, -, ⟨preparation, known⟩, -⟩ := vouched.approval rfl mutating
    have found := List.find?_some matched.approval_found
    simp only [decide_eq_true_eq] at found
    rw [(command_named matched.command_found).2] at known
    exact ⟨approvalId, approval, preparation, given, List.mem_of_find?_eq_some matched.approval_found, found.1, found.2,
      known⟩

theorem toolFor_some {db : Store} {tenant : Uuid} {idempotencyKey : String} {row : DemoToolCommand}
    (found : toolFor db tenant idempotencyKey = some row) :
    row ∈ db.toolCommands.rows ∧ row.tenantId = tenant ∧ row.idempotencyKey = idempotencyKey := by
  have member := List.mem_filter.mp (List.mem_of_find?_eq_some found)
  have named := List.find?_some found
  simp only [decide_eq_true_eq] at member named
  exact ⟨member.1, member.2, named⟩

/-- The first answer is kept. -/
theorem submitDemoTool_kept (reached : Reached s) {reply : ToolReply}
    (ran : (submitDemoTool env context submission).run s = (.ok reply, t)) : Kept t.db context.tenantId submission reply := by
  obtain ⟨-, -, verdict, middle, value, judging, filed, rfl⟩ := submitDemoTool_eq_ok.mp ran
  have judged := judge_ok judging
  have still : ∀ db : Store, db.approvals = middle.db.approvals →
      db.executionPreparations = middle.db.executionPreparations →
      verdict.blocked = none → Mutating submission.tool → PreparedFor db context.tenantId submission := by
    intro db approvals preparations unblocked mutating
    rw [PreparedFor, approvals, preparations]
    exact judged.preparedFor unblocked mutating
  rcases fileTool_ok filed with ⟨found, same, unchanged⟩ | written
  · obtain ⟨member, tenant, key⟩ := toolFor_some found
    refine ⟨⟨value, ?_, tenant, key, rfl, rfl, same.trans (judged.request middle)⟩, still _ ?_ ?_⟩
    · rw [unchanged]
      exact member
    · rw [unchanged]
    · rw [unchanged]
  · have judging := judge_settles.follows s verdict middle judging
    have book := (reached.evolutions (ReflTransGen.mono (fun _ _ change => .inl change) _ _ judging)).book
    obtain ⟨tenant, -, key, -, -⟩ := written.named
    refine ⟨⟨value, (written.rows book value).mpr (.inl rfl), tenant, key, rfl, rfl, ?_⟩, still _ ?_ ?_⟩
    · rw [written.value_eq]
      exact judged.request middle
    · obtain ⟨row, ⟨_, _, _, -, -, -, -, put⟩ | ⟨-, put⟩⟩ := written.written <;> rw [put]
    · obtain ⟨row, ⟨_, _, _, -, -, -, -, put⟩ | ⟨-, put⟩⟩ := written.written <;> rw [put]

/-! ## What the service keeps of it -/

theorem Kept.evolution {tenant : Uuid} {reply : ToolReply} (kept : Kept s.db tenant submission reply) (reached : Reached s)
    (evolution : Evolution env s t) : Kept t.db tenant submission reply := by
  have onward := (evolution_lockstep reached.lockstep evolution).2
  constructor
  · obtain ⟨row, member, facts⟩ := kept.row
    refine ⟨row, ?_, facts⟩
    rcases evolution_tools evolution with aside | ⟨_, _, _, _, _, filed⟩
    · have rows : t.db.toolCommands = s.db.toolCommands := aside.same
      rw [rows]
      exact member
    · exact (filed.rows reached.book row).mpr (.inr member)
  · intro unblocked mutating
    obtain ⟨approvalId, approval, preparation, given, member, named, id, known⟩ := kept.prepared unblocked mutating
    obtain ⟨later, later_found, same, -⟩ := onward.approvals _ _ (Table.get?_key _ member)
    have later_key := Table.key_of_get? later_found
    have key : later.tenantId = approval.tenantId ∧ later.commandId = approval.commandId := Prod.mk.inj later_key
    refine ⟨approvalId, later, preparation, given, Table.mem_of_get? later_found, key.1.trans named, ?_, ?_⟩
    · rw [same.id, id]
    · rw [key.2]
      exact onward.preparations _ _ known

theorem Kept.evolutions {tenant : Uuid} {reply : ToolReply} (kept : Kept s.db tenant submission reply)
    (reached : Reached s) (history : ReflTransGen (Evolution env) s t) : Kept t.db tenant submission reply := by
  induction history with
  | refl => exact kept
  | tail history evolution ih => exact ih.evolution (reached.evolutions history) evolution

/-! ## The replay -/

/-- The key of a kept command finds it. -/
theorem Kept.found {tenant : Uuid} {reply : ToolReply} (kept : Kept s.db tenant submission reply) (book : ToolBook s) :
    ∃ row, toolFor s.db tenant submission.idempotencyKey = some row ∧ row.id = reply.commandId ∧
      row.state = reply.state ∧ row.request = keptRequest submission reply.nextAction := by
  obtain ⟨row, member, same, key, facts⟩ := kept.row
  refine ⟨row, ?_, facts⟩
  cases found : toolFor s.db tenant submission.idempotencyKey with
  | none =>
    rw [toolFor, List.find?_eq_none] at found
    have here : row ∈ tenantTools s.db tenant := List.mem_filter.mpr ⟨member, by simp [same]⟩
    exact absurd key (by simpa using found row here)
  | some other =>
    obtain ⟨other_member, other_same, other_key⟩ := toolFor_some found
    rw [book.keys other other_member row member (other_same.trans same.symm) (other_key.trans key.symm)]

/-- A check that finds the approval prepared writes nothing. -/
theorem Judged.still {verdict : Verdict} (judged : Judged env s context submission verdict t) (lockstep : Lockstep s)
    (prepared : verdict.approved.isSome → PreparedFor s.db context.tenantId submission) : t.db = s.db := by
  cases judged with
  | stopped | bookkeeping | unapproved => rfl
  | refused free mutating given raised => exact validatedToolApproval_unwinds raised
  | cleared free mutating given matched unused ran digest =>
    obtain ⟨approvalId, approval, preparation, also_given, member, named, id, known⟩ := prepared rfl
    cases Option.some.inj (given.symm.trans also_given)
    have found := List.find?_some matched.approval_found
    simp only [decide_eq_true_eq] at found
    -- no two approvals share an identifier
    have same := lockstep.distinct _ (List.mem_of_find?_eq_some matched.approval_found) _ member
      (Ident.uuid.inj (found.2.trans id.symm))
    rw [same] at matched
    obtain ⟨_, _, _, -, ⟨-, -, rfl⟩ | ⟨-, first⟩⟩ := prepareExecution_ok ran
    · rfl
    · have none_before := first.none_before
      rw [(command_named matched.command_found).2, known] at none_before
      cases none_before

theorem saveToolCommand_replays {value prior : DemoToolCommand}
    (found : toolFor s.db value.tenantId value.idempotencyKey = some prior) (same : prior.request = value.request) :
    (saveToolCommand value).run s = (.ok (prior, true), s) := by
  have bound : (s.db.toolCommands.rows.filter (·.tenantId = value.tenantId)).find?
      (fun row => row.idempotencyKey = value.idempotencyKey) = some prior := found
  simp only [saveToolCommand, toolCommandsFor, bind_eq_ok, query_eq_ok]
  refine ⟨_, s, ⟨rfl, rfl⟩, ?_⟩
  rw [bound]
  simp only [bind_eq_ok, ensure_eq_ok, pure_eq_ok]
  exact ⟨(), s, ⟨same, rfl⟩, trivial, rfl⟩

theorem fileTool_replays {verdict : Verdict} {prior : DemoToolCommand}
    (found : toolFor s.db context.tenantId submission.idempotencyKey = some prior)
    (same : prior.request = (filedTool env s context.tenantId submission verdict).request) :
    ∃ t, (fileTool env context submission (sorted (.dict submission.input)) verdict).run s = (.ok prior, t) ∧
      t.db = s.db := by
  refine ⟨{ s with uuids := s.uuids + 1, reads := s.reads + 1 }, ?_, rfl⟩
  have saved : (saveToolCommand (filedTool env s context.tenantId submission verdict)).run
      { s with uuids := s.uuids + 1, reads := s.reads + 1 } =
        (.ok (prior, true), { s with uuids := s.uuids + 1, reads := s.reads + 1 }) :=
    saveToolCommand_replays found same
  simp only [fileTool, bind_eq_ok, freshUuid_eq_ok, now_eq_ok]
  refine ⟨_, _, ⟨rfl, rfl⟩, _, _, ⟨rfl, rfl⟩, _, _, saved, ?_⟩
  exact (pure_eq_ok _ _ _ _).mpr ⟨rfl, rfl⟩

/-- Whatever a repeated submission is told, it leaves the store alone. -/
theorem Kept.repeated_still {reply : ToolReply} (kept : Kept s.db context.tenantId submission reply)
    (reached : Reached s) : ((submitDemoTool env context submission).run s).2.db = s.db := by
  rcases ran : (submitDemoTool env context submission).run s with ⟨why | answer, t⟩
  · exact submitDemoTool_error ran
  · obtain ⟨-, -, verdict, middle, value, judging, filed, -⟩ := submitDemoTool_eq_ok.mp ran
    have judged := judge_ok judging
    have changes := judge_settles.follows s verdict middle judging
    have later : ReflTransGen (Evolution env) s middle := ReflTransGen.mono (fun _ _ change => .inl change) _ _ changes
    obtain ⟨row, found, -, -, kept_request⟩ := (kept.evolutions reached later).found (reached.evolutions later).book
    rcases fileTool_ok filed with ⟨also_found, request, unchanged⟩ | written
    · refine unchanged.trans (judged.still reached.lockstep ?_)
      -- an approval that stands now stood the first time, or the requests would differ
      intro approved
      cases Option.some.inj (found.symm.trans also_found)
      obtain ⟨accepted, mutating⟩ := judged.vouched.approved approved
      obtain ⟨approvalId, _, _, _, given, -, -, -, approved_eq⟩ := judged.vouched.approval accepted mutating
      have same : (keptRequest submission reply.nextAction).approvalId = some approvalId := by
        rw [← kept_request, request]
        simp [filedTool, newToolCommand, DemoToolCommand.request, approved_eq, given]
      apply kept.prepared _ mutating
      by_contra blocked
      simp [keptRequest, blocked] at same
    · rw [written.fresh] at found
      cases found

/-- A repeated submission is answered as before exactly when the checks come out as before. -/
theorem Kept.repeated_iff {reply : ToolReply} (kept : Kept s.db context.tenantId submission reply) (reached : Reached s)
    (typed : WellTyped env submission)
    (shape : reply = { commandId := reply.commandId, state := reply.state, nextAction := reply.nextAction }) :
    ((submitDemoTool env context submission).run s).1 = .ok reply ↔
      Authorized s.db context .tenantAdmin ∧ Decides env s.db context (env.clock s.reads) submission reply.nextAction := by
  constructor
  · intro returned
    rcases ran : (submitDemoTool env context submission).run s with ⟨result, t⟩
    rw [ran] at returned
    cases returned
    obtain ⟨authorized, -, verdict, middle, value, judging, -, rfl⟩ := submitDemoTool_eq_ok.mp ran
    exact ⟨authorized, (judge_ok judging).decides⟩
  · rintro ⟨authorized, decides⟩
    obtain ⟨verdict, middle, judging, judged⟩ := judge_run env s context submission
    have blocked : verdict.blocked = reply.nextAction := judged.decides.unique decides
    have unchanged : middle.db = s.db := by
      apply judged.still reached.lockstep
      intro approved
      obtain ⟨accepted, mutating⟩ := judged.vouched.approved approved
      apply kept.prepared _ mutating
      rw [← blocked]
      cases judged with
      | bookkeeping | cleared => rfl
      | stopped | unapproved | refused => cases approved
    obtain ⟨row, found, id, state, request⟩ := kept.found reached.book
    rw [← unchanged] at found
    rw [← blocked, ← judged.request middle] at request
    obtain ⟨t, filed, -⟩ := fileTool_replays found request
    have ran := submitDemoTool_eq_ok.mpr ⟨authorized, typed, verdict, middle, row, judging, filed, rfl⟩
    rw [ran, shape, id, state, blocked]

theorem Tool.step_submit (s : Session Store) : Tool.step env (.submit context submission) s =
    (((submitDemoTool env context submission).run s).1.map some, ((submitDemoTool env context submission).run s).2) := by
  simp only [Tool.step, Tool.perform, run_bind]
  rcases (submitDemoTool env context submission).run s with ⟨why | reply, t⟩ <;> rfl

theorem map_some_eq_ok {result : Except Failure ToolReply} {reply : ToolReply} :
    result.map some = .ok (some reply) ↔ result = .ok reply := by
  cases result <;> simp [Except.map]

/-- Repeating a submission after any run of the service writes nothing, and the first answer comes back exactly when
the caller is still an administrator of the tenant and the stops and the approval are judged as they were then. -/
theorem submission_replayed (env : Env) (before between : List (ToolCall env)) (context : TenantContext)
    (submission : ToolSubmission) (reply : ToolReply)
    (answered : (Tool.step env (.submit context submission) (final (Tool.step env) Execution.newSession before)).1 =
      .ok (some reply)) :
    let first := final (Tool.step env) Execution.newSession before
    let reached := final (Tool.step env) (Tool.step env (.submit context submission) first).2 between
    let again := Tool.step env (.submit context submission) reached
    again.2.db = reached.db ∧
      (again.1 = .ok (some reply) ↔ Authorized reached.db context .tenantAdmin ∧
        ∃ blocked, Decides env first.db context (env.clock first.reads) submission blocked ∧
          Decides env reached.db context (env.clock reached.reads) submission blocked) := by
  intro first reached again
  have first_reached : Reached first := tool_run_reached before
  have answered_reached : Reached (Tool.step env (.submit context submission) first).2 :=
    first_reached.evolutions (tool_step_evolves _ _)
  have reached_reached : Reached reached := answered_reached.evolutions (tool_run_evolves between _)
  -- the first call returned this reply
  rw [Tool.step_submit, map_some_eq_ok] at answered
  have ran : (submitDemoTool env context submission).run first =
      (.ok reply, ((submitDemoTool env context submission).run first).2) := Prod.ext answered rfl
  obtain ⟨-, typed, verdict, _, value, judging, -, shape⟩ := submitDemoTool_eq_ok.mp ran
  have decided : Decides env first.db context (env.clock first.reads) submission reply.nextAction := by
    rw [shape]
    exact (judge_ok judging).decides
  have kept : Kept reached.db context.tenantId submission reply := by
    apply Kept.evolutions _ answered_reached (tool_run_evolves between _)
    rw [Tool.step_submit]
    exact submitDemoTool_kept first_reached ran
  have repeated : again = _ := Tool.step_submit reached
  rw [repeated, map_some_eq_ok, kept.repeated_iff reached_reached typed (by rw [shape])]
  refine ⟨kept.repeated_still reached_reached, ?_⟩
  constructor
  · rintro ⟨authorized, decides⟩
    exact ⟨authorized, reply.nextAction, decided, decides⟩
  · rintro ⟨authorized, blocked, then_decided, decides⟩
    exact ⟨authorized, decided.unique then_decided ▸ decides⟩

/-! ## A stop between two submissions -/

/-- The administrator stops the tenant. -/
def stopping : ToolCall env :=
  .lifecycle (.elsewhere
    (do let _ ← Execution.setDemoStop env Execution.demoMaster "tenant" "tenant" true "maintenance")
    (settles_of_frame ((Execution.keeps_setDemoStop fun _ _ _ => rfl).bind fun _ => keeps_pure _)))

def reconcileDemo : ToolSubmission where
  actorType := "user"
  actorId := "master"
  tool := "reconcile"
  targetType := "order"
  targetId := "order-1"
  input := []
  idempotencyKey := "reconcile-1"
  requestedPolicyVersion := 1

/-- Behind a stop the accepted submission would have to be judged as it was before it. -/
theorem submission_replayed_stopped :
    let first := final (Tool.step idleEnv) Execution.newSession [.lifecycle bootstrapped]
    let reached := final (Tool.step idleEnv) (Tool.step idleEnv (.submit Execution.demoMaster reconcileDemo) first).2 [stopping]
    let again := Tool.step idleEnv (.submit Execution.demoMaster reconcileDemo) reached
    again.2.db = reached.db ∧
      (again.1 = .ok (some { commandId := 4, state := .accepted, nextAction := none }) ↔
        Authorized reached.db Execution.demoMaster .tenantAdmin ∧
          ∃ blocked, Decides idleEnv first.db Execution.demoMaster (idleEnv.clock first.reads) reconcileDemo blocked ∧
            Decides idleEnv reached.db Execution.demoMaster (idleEnv.clock reached.reads) reconcileDemo blocked) :=
  submission_replayed idleEnv [.lifecycle bootstrapped] [stopping] Execution.demoMaster reconcileDemo
    { commandId := 4, state := .accepted, nextAction := none } (by decide +kernel)

/-- The same submission is accepted the first time and told of the stop the second. -/
theorem submission_replayed_differs :
    (Tool.step idleEnv (.submit Execution.demoMaster reconcileDemo)
      (final (Tool.step idleEnv) Execution.newSession [.lifecycle bootstrapped])).1 =
        .ok (some { commandId := 4, state := .accepted, nextAction := none }) ∧
    (Tool.step idleEnv (.submit Execution.demoMaster reconcileDemo)
      (final (Tool.step idleEnv) Execution.newSession
        [.lifecycle bootstrapped, .submit Execution.demoMaster reconcileDemo, stopping])).1 =
        .ok (some { commandId := 4, state := .accepted, nextAction := some "stop_active" }) := by
  decide +kernel

end AiStore.Gateway
