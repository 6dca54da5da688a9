import AiStore.ControlPlane.Moves

/-! The operations that rewrite the ledger, and what each can do to one task. -/

set_option autoImplicit false

namespace AiStore.ControlPlane

open Library (attempt)

inductive Operation where
  | claim (worker role : String) (effective : Int)
  | finish (id : Nat) (status : TaskStatus) (artifact note : String)
  | touch (id : Nat) (worker phase : String)
  | claimReview (worker : String) (effective : Int)
  | finishReview (id : Nat) (decision artifact note : String)
  | requeueStale (staleAfterSeconds : Int) (note : String)
  | requeueBlocked (failing : Task → List String) (limit : Nat) (maxRetries : Int)
  | runTriage (around : Surroundings)
  | landReviewed (landing : Landing) (limit : Nat)
  | operatorAction (id : Nat) (action : OperatorAction) (reason : String)
  | addInstruction (id : Nat) (text : String)
  | createOperatorTask (title instruction milestone lane : String) (priority : Int) (files lanes : List String)
  | enqueue (title prompt milestone : String) (priority : Int)
  | ensureWorkflowTasks (milestones : List Milestone) (limit : Nat)

/-- A milestone's task is queued and marked. -/
def queueMilestone (now : Time) (data : Data) (item : Milestone) : Data :=
  (markLast (enqueueMilestone item now data)).getD (enqueueMilestone item now data)

/-- `ensure_workflow_tasks` where nobody else writes in between. -/
def ensureWorkflowTasks (milestones : List Milestone) (limit : Nat) (now : Time) (data : Data) : Data :=
  (wanted milestones limit data).foldl (queueMilestone now) data

variable (texts : Texts)

def perform (operation : Operation) (now : Time) (data : Data) : Except Refused Data :=
  match operation with
  | .claim worker role effective => .ok (claim texts worker role effective now data).2
  | .finish id status artifact note => (finish texts id status artifact note now data).map (·.2)
  | .touch id worker phase => .ok (touch id worker phase now data).2
  | .claimReview worker effective => .ok (claimReview worker effective now data).2
  | .finishReview id decision artifact note => (finishReview texts id decision artifact note now data).map (·.2)
  | .requeueStale staleAfterSeconds note => .ok (requeueStale texts staleAfterSeconds note now data).2
  | .requeueBlocked failing limit maxRetries => .ok (requeueBlocked texts failing limit maxRetries now data).2
  | .runTriage around => .ok (runTriage texts around now data)
  | .landReviewed landing limit => .ok (landReviewed landing limit now data).2
  | .operatorAction id action reason => (operatorAction id action reason now data).map (·.2)
  | .addInstruction id text => (addInstruction id text now data).map (·.2)
  | .createOperatorTask title instruction milestone lane priority files lanes =>
      createOperatorTask title instruction milestone lane priority files lanes now data
  | .enqueue title prompt milestone priority => .ok (enqueue title prompt milestone priority now data)
  | .ensureWorkflowTasks milestones limit => .ok (ensureWorkflowTasks milestones limit now data)

/-- An operation at a reading of the clock. -/
structure LedgerCall where
  operation : Operation
  now : Time

/-- The step of a run whose operations follow one another; what is refused saves nothing. -/
def step (call : LedgerCall) (data : Data) : Except Refused Unit × Data :=
  attempt data ((perform texts call.operation call.now data).map fun after => ((), after))

/-- Texts on which nothing is substituted. -/
def plainTexts : Texts := ⟨fun text => text, fun _ => false, fun text => text⟩

/-- Surroundings in which nothing happens. -/
def quietSurroundings : Surroundings := ⟨fun _ => [], fun _ => none, fun _ => .waiting "", fun _ => false⟩

/-- The ledger behind a run of operations. -/
def ledger (start : Data) (calls : List LedgerCall) : Data := Library.final (step texts) start calls

/-- What an operation can do to a task that is there. -/
inductive Moved (call : LedgerCall) (task : Task) : Task → Prop where
  | annotated (phase source : String) (instructions : List Instruction) (heartbeat : Option Time) (updated : Time) :
      Moved call task
        { task with
          phase
          source
          operatorInstructions := instructions
          heartbeatAt := heartbeat
          updatedAt := updated }
  | claimed {worker role : String} {effective : Int} : call.operation = .claim worker role effective →
      task.status = .ready →
      Moved call task
        { task with
          status := .inProgress
          worker := worker
          phase := "claimed"
          heartbeatAt := some call.now
          startedAt := some call.now
          updatedAt := call.now
          lastError := "" }
  | finished {status : TaskStatus} {artifact note : String} :
      call.operation = .finish task.id status artifact note →
      Moved call task (finished texts status artifact note call.now task)
  | reviewClaimed {worker : String} {effective : Int} : call.operation = .claimReview worker effective →
      task.status = .needsReview →
      Moved call task
        { task with
          status := .reviewing
          reviewer := worker
          phase := "review_llm"
          heartbeatAt := some call.now
          updatedAt := call.now }
  | reviewFinished {decision artifact note : String} :
      call.operation = .finishReview task.id decision artifact note →
      Moved call task (reviewFinished texts decision artifact note call.now task)
  | requeued {staleAfterSeconds : Int} {note : String} : call.operation = .requeueStale staleAfterSeconds note →
      Stale (call.now - 1000000 * staleAfterSeconds) task → Moved call task (requeued texts note call.now task)
  | reopened {failing : Task → List String} {limit : Nat} {maxRetries : Int} (others : List Task) :
      call.operation = .requeueBlocked failing limit maxRetries → task.status = .blocked →
      task.retryCount < maxRetries → LoopGuard.verdict texts failing task others = none →
      Moved call task (reopened maxRetries call.now task)
  | triaged {around : Surroundings} (others : List Task) : call.operation = .runTriage around →
      Moved call task (triaged texts around call.now others task)
  | landed {landing : Landing} {limit : Nat} : call.operation = .landReviewed landing limit →
      task.status = .reviewed → Moved call task (landedTask landing call.now task)
  | operated {action : OperatorAction} {reason : String} {change : Task → Task} :
      call.operation = .operatorAction task.id action reason → ¬ task.status.Active →
      operatorChange action (operatorName reason) call.now task = .ok change → Moved call task (change task)

section

variable {texts : Texts} {data : Data} {id : Nat} {task : Task}

/-! ## One task through an operation -/

theorem triaged_id (around : Surroundings) (now : Time) (others : List Task) (task : Task) :
    (triaged texts around now others task).id = task.id := by
  have move := triaged_move texts around now others task
  generalize triaged texts around now others task = moved at move ⊢
  cases move with
  | kept | remediated | requeued => rfl
  | diagnosed record => exact (escalate_frame record _ now _).1
  | exhausted record => exact (escalate_frame record _ now task).1
  | escalated => exact (triageEscalated_frame around now task).1
  | decided => exact (triageDecision_frame now task).1

theorem landedTask_id (landing : Landing) (now : Time) (task : Task) : (landedTask landing now task).id = task.id := by
  unfold landedTask
  split
  · rfl
  · split <;> rfl

theorem finished_id (status : TaskStatus) (artifact note : String) (now : Time) (task : Task) :
    (finished texts status artifact note now task).id = task.id := by
  unfold finished
  dsimp only
  split <;> rfl

theorem reviewFinished_id (decision artifact note : String) (now : Time) (task : Task) :
    (reviewFinished texts decision artifact note now task).id = task.id := by
  unfold reviewFinished
  dsimp only
  split <;> rfl

theorem operatorChange_id {action : OperatorAction} {who : String} {now : Time} {task : Task} {change : Task → Task}
    (allowed : operatorChange action who now task = .ok change) : (change task).id = task.id := by
  cases action <;> simp only [operatorChange] at allowed <;> try split at allowed
  all_goals cases allowed
  all_goals rfl

variable {call : LedgerCall}

theorem Moved.kept : Moved texts call task task :=
  .annotated task.phase task.source task.operatorInstructions task.heartbeatAt task.updatedAt

/-- An edit moves the task it names, and keeps the others. -/
theorem edit_moved {target : Nat} {change : Task → Task} (found : data.get? id = some task)
    (moves : target = id → (change task).id = task.id ∧ Moved texts call task (change task)) :
    ∃ moved, (data.edit target change).get? id = some moved ∧ Moved texts call task moved := by
  by_cases same : target = id
  · subst same
    exact ⟨change task, Data.get?_edit_self (moves rfl).1 found, (moves rfl).2⟩
  · exact ⟨task, (Data.get?_edit_other data (Ne.symm same) change).trans found, .kept⟩

theorem onTask_moved {target : Nat} {change : Task → Task} {result : Task × Data}
    (ran : onTask target data change = .ok result) (found : data.get? id = some task)
    (moves : target = id → (change task).id = task.id ∧ Moved texts call task (change task)) :
    ∃ moved, result.2.get? id = some moved ∧ Moved texts call task moved := by
  unfold onTask at ran
  split at ran
  · cases ran
  · cases ran
    exact edit_moved found moves

/-- A loop of edits moves the tasks it names. -/
theorem edits_moved {ids : List Nat} (distinct : ids.Nodup) (change : Data → Task → Task)
    (kept : ∀ data task, (change data task).id = task.id) (found : data.get? id = some task)
    (moves : id ∈ ids → ∀ middle, Moved texts call task (change middle task)) :
    ∃ moved, (ids.foldl (fun data id => data.edit id (change data)) data).get? id = some moved ∧
      Moved texts call task moved := by
  obtain ⟨middle, reached⟩ := Data.get?_edits distinct change kept found
  refine ⟨_, reached, ?_⟩
  split
  · next member => exact moves member middle
  · exact .kept

theorem markLast_source {marked : Data} (ran : markLast data = some marked) (found : data.get? id = some task) :
    ∃ source, marked.get? id = some { task with source } := by
  unfold markLast at ran
  obtain ⟨last, -, rfl⟩ := Option.map_eq_some_iff.mp ran
  by_cases same : id = last.id
  · subst same
    exact ⟨"milestone-workflow", Data.get?_edit_self rfl found⟩
  · exact ⟨task.source, (Data.get?_edit_other data same _).trans found⟩

theorem queueMilestone_source (now : Time) (item : Milestone) (found : data.get? id = some task) :
    ∃ source, (queueMilestone now data item).get? id = some { task with source } := by
  have queued : (enqueueMilestone item now data).get? id = some task := Data.get?_append_old data _ found
  unfold queueMilestone
  cases ran : markLast (enqueueMilestone item now data) with
  | none => exact ⟨task.source, queued⟩
  | some marked => exact markLast_source ran queued

theorem ensureWorkflowTasks_source (items : List Milestone) (now : Time) (found : data.get? id = some task) :
    ∃ source, (items.foldl (queueMilestone now) data).get? id = some { task with source } := by
  induction items generalizing data task with
  | nil => exact ⟨task.source, found⟩
  | cons item rest ih =>
    obtain ⟨between, queued⟩ := queueMilestone_source now item found
    obtain ⟨source, reached⟩ := ih queued
    exact ⟨source, reached⟩

theorem claim_moved {worker role : String} {effective : Int} (called : call.operation = .claim worker role effective)
    (found : data.get? id = some task) :
    ∃ moved, (claim texts worker role effective call.now data).2.get? id = some moved ∧
      Moved texts call task moved := by
  rcases (claim_picks texts worker role effective call.now data).moved (fun _ => rfl) found with same | ⟨ready, -, there⟩
  · exact ⟨task, same, .kept⟩
  · exact ⟨taken worker call.now task, there, .claimed called ready⟩

theorem claimReview_moved {worker : String} {effective : Int} (called : call.operation = .claimReview worker effective)
    (found : data.get? id = some task) :
    ∃ moved, (claimReview worker effective call.now data).2.get? id = some moved ∧ Moved texts call task moved := by
  rcases (claimReview_picks worker effective call.now data).moved (fun _ => rfl) found with same | ⟨waiting, -, there⟩
  · exact ⟨task, same, .kept⟩
  · exact ⟨takenForReview worker call.now task, there, .reviewClaimed called waiting⟩

theorem touch_moved (target : Nat) (worker phase : String) (found : data.get? id = some task) :
    ∃ moved, (touch target worker phase call.now data).2.get? id = some moved ∧ Moved texts call task moved := by
  unfold touch
  split
  · exact ⟨task, found, .kept⟩
  · split
    · apply edit_moved found
      exact fun _ => ⟨rfl, .annotated phase task.source task.operatorInstructions (some call.now) call.now⟩
    · exact ⟨task, found, .kept⟩

theorem operatorAction_moved {target : Nat} {action : OperatorAction} {reason : String} {result : Task × Data}
    (called : call.operation = .operatorAction target action reason)
    (ran : operatorAction target action reason call.now data = .ok result) (found : data.get? id = some task) :
    ∃ moved, result.2.get? id = some moved ∧ Moved texts call task moved := by
  unfold operatorAction at ran
  split at ran
  · cases ran
  · next old old_found =>
    split at ran
    · cases ran
    · next idle =>
      split at ran
      · cases ran
      · next change allowed =>
        apply onTask_moved ran found
        intro same
        subst same
        rw [old_found] at found
        cases found
        have named := Data.named old_found
        exact ⟨operatorChange_id allowed, .operated (named ▸ called) idle allowed⟩

theorem map_ok {result : Except Refused (Task × Data)} {after : Data} (ran : result.map (·.2) = .ok after) :
    ∃ pair, result = .ok pair ∧ pair.2 = after := by
  cases result with
  | error why => cases ran
  | ok pair => exact ⟨pair, rfl, Except.ok.inj ran⟩

/-- What any operation does to a task that is there. -/
theorem perform_moved {after : Data} (ran : perform texts call.operation call.now data = .ok after)
    (found : data.get? id = some task) : ∃ moved, after.get? id = some moved ∧ Moved texts call task moved := by
  have named := Data.named found
  obtain ⟨operation, now⟩ := call
  cases operation with
  | claim worker role effective =>
    cases ran
    exact claim_moved rfl found
  | finish target status artifact note =>
    obtain ⟨pair, finishes, rfl⟩ := map_ok ran
    apply onTask_moved finishes found
    intro same
    exact ⟨finished_id .., .finished (named ▸ same ▸ rfl)⟩
  | touch target worker phase =>
    cases ran
    exact touch_moved target worker phase found
  | claimReview worker effective =>
    cases ran
    exact claimReview_moved rfl found
  | finishReview target decision artifact note =>
    obtain ⟨pair, finishes, rfl⟩ := map_ok ran
    apply onTask_moved finishes found
    intro same
    exact ⟨reviewFinished_id .., .reviewFinished (named ▸ same ▸ rfl)⟩
  | requeueStale staleAfterSeconds note =>
    cases ran
    apply edits_moved (data.filtered_nodup _) (fun _ => requeued texts note now) (fun _ _ => rfl) found
    intro member _
    exact .requeued rfl (of_decide_eq_true (Data.mem_filtered found member))
  | requeueBlocked failing limit maxRetries =>
    cases ran
    apply edits_moved (data.chosen_nodup _ limit) (fun _ => reopened maxRetries now) (fun _ _ => rfl) found
    intro member _
    obtain ⟨blocked, left, silent⟩ := of_decide_eq_true (Data.mem_chosen found member)
    exact .reopened _ rfl blocked left silent
  | runTriage around =>
    cases ran
    apply edits_moved data.ids_nodup (fun middle => triaged texts around now middle.tasks.rows)
      (fun _ task => triaged_id around now _ task) found
    exact fun _ middle => .triaged _ rfl
  | landReviewed landing limit =>
    cases ran
    have distinct := (data.filtered_nodup fun task => task.status = .reviewed).sublist
      ((List.take_sublist limit _).map _)
    apply edits_moved distinct (fun _ => landedTask landing now) (fun _ task => landedTask_id landing now task) found
    intro member _
    have listed := (((List.take_sublist limit _).map _).subset member)
    exact .landed rfl (of_decide_eq_true (Data.mem_filtered found listed))
  | operatorAction target action reason =>
    obtain ⟨pair, acts, rfl⟩ := map_ok ran
    exact operatorAction_moved rfl acts found
  | addInstruction target text =>
    obtain ⟨pair, adds, rfl⟩ := map_ok ran
    unfold addInstruction at adds
    split at adds
    · cases adds
    · apply onTask_moved adds found
      exact fun _ => ⟨rfl, .annotated task.phase task.source (task.operatorInstructions ++ [⟨now, none, text⟩])
        task.heartbeatAt now⟩
  | createOperatorTask title instruction milestone lane priority files lanes =>
    change createOperatorTask title instruction milestone lane priority files lanes now data = .ok after at ran
    unfold createOperatorTask at ran
    split at ran
    · cases ran
    · split at ran
      · cases ran
      · cases ran
        exact ⟨task, Data.get?_append_old data _ found, .kept⟩
  | enqueue title prompt milestone priority =>
    cases ran
    exact ⟨task, Data.get?_append_old data _ found, .kept⟩
  | ensureWorkflowTasks milestones limit =>
    cases ran
    obtain ⟨source, reached⟩ := ensureWorkflowTasks_source (wanted milestones limit data) now found
    exact ⟨_, reached, .annotated task.phase source task.operatorInstructions task.heartbeatAt task.updatedAt⟩

theorem step_ok {after : Data} (ran : perform texts call.operation call.now data = .ok after) :
    step texts call data = (.ok (), after) := by
  unfold step
  rw [ran]
  rfl

theorem step_error {why : Refused} (ran : perform texts call.operation call.now data = .error why) :
    step texts call data = (.error why, data) := by
  unfold step
  rw [ran]
  rfl

/-- A step moves each task, whether it is carried out or refused. -/
theorem step_moved (texts : Texts) (call : LedgerCall) (found : data.get? id = some task) :
    ∃ moved, (step texts call data).2.get? id = some moved ∧ Moved texts call task moved := by
  cases ran : perform texts call.operation call.now data with
  | error why =>
    rw [step_error ran]
    exact ⟨task, found, .kept⟩
  | ok after =>
    rw [step_ok ran]
    exact perform_moved ran found

theorem finish_step {status : TaskStatus} {artifact note : String}
    (called : call.operation = .finish id status artifact note) (found : data.get? id = some task) :
    (step texts call data).2.get? id = some (finished texts status artifact note call.now task) := by
  have ran : step texts call data = (.ok (), data.edit id (finished texts status artifact note call.now)) := by
    apply step_ok
    rw [called]
    simp only [perform, finish, onTask, found, Except.map]
  rw [ran, Data.get?_edit_self (finished_id ..) found]

theorem finishReview_step {decision artifact note : String}
    (called : call.operation = .finishReview id decision artifact note) (found : data.get? id = some task) :
    (step texts call data).2.get? id = some (reviewFinished texts decision artifact note call.now task) := by
  have ran : step texts call data = (.ok (), data.edit id (reviewFinished texts decision artifact note call.now)) := by
    apply step_ok
    rw [called]
    simp only [perform, finishReview, onTask, found, Except.map]
  rw [ran, Data.get?_edit_self (reviewFinished_id ..) found]

theorem requeueStale_step {staleAfterSeconds : Int} {note : String}
    (called : call.operation = .requeueStale staleAfterSeconds note) (found : data.get? id = some task)
    (stale : Stale (call.now - 1000000 * staleAfterSeconds) task) :
    (step texts call data).2.get? id = some (requeued texts note call.now task) := by
  obtain ⟨middle, reached⟩ := Data.get?_edits
    (data.filtered_nodup fun task => Stale (call.now - 1000000 * staleAfterSeconds) task)
    (fun _ => requeued texts note call.now) (fun _ _ => rfl) found
  have listed : id ∈ (data.tasks.rows.filter fun task =>
      Stale (call.now - 1000000 * staleAfterSeconds) task).map (·.id) := by
    apply List.mem_map.mpr
    exact ⟨task, List.mem_filter.mpr ⟨Library.Table.mem_of_get? found, decide_eq_true stale⟩, Data.named found⟩
  rw [if_pos listed] at reached
  have ran : step texts call data = (.ok (), (requeueStale texts staleAfterSeconds note call.now data).2) := by
    apply step_ok
    rw [called]
    rfl
  rw [ran]
  exact reached

theorem runTriage_step {around : Surroundings} (called : call.operation = .runTriage around)
    (found : data.get? id = some task) :
    ∃ others, (step texts call data).2.get? id = some (triaged texts around call.now others task) := by
  obtain ⟨middle, reached⟩ := Data.get?_edits data.ids_nodup
    (fun middle => triaged texts around call.now middle.tasks.rows) (fun _ task => triaged_id around call.now _ task) found
  have listed : id ∈ data.ids :=
    List.mem_map.mpr ⟨task, Library.Table.mem_of_get? found, Data.named found⟩
  rw [if_pos listed] at reached
  have ran : step texts call data = (.ok (), runTriage texts around call.now data) := by
    apply step_ok
    rw [called]
    rfl
  exact ⟨middle.tasks.rows, by rw [ran]; exact reached⟩

end

end AiStore.ControlPlane
