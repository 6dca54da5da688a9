import Mathlib.Data.List.Sort
import Mathlib.Data.String.Basic
import AiStore.ControlPlane.LoopGuard

/-! The operations of `pm.py` on the ledger, each between its `_load` and its `_save`.

An operation that leaves the file alone returns the ledger it has loaded; what it
reads of other files and of the clock is passed to it.
-/

set_option autoImplicit false

namespace AiStore.ControlPlane

variable (texts : Texts)

/-- `ValueError` and `KeyError` of the operations. -/
inductive Refused where
  | value (message : String)
  | unknownTask (id : Nat)
  deriving DecidableEq, Repr

def implRole : String := "local-impl"

/-- `'cursor-impl-1' -> 'cursor-impl'`. -/
def laneOf (worker : String) : String :=
  let reversed := worker.toList.reverse
  let suffix := String.ofList (reversed.takeWhile (· ≠ '-')).reverse
  match reversed.dropWhile (· ≠ '-') with
  | [] => worker
  | _ :: lane => if texts.isdigit suffix then .ofList lane.reverse else worker

/-- The order in which candidates are taken: by priority, then by id. -/
def sooner (first second : Task) : Bool :=
  second.priority < first.priority || first.priority = second.priority && first.id ≤ second.id

def firstOf (candidates : List Task) : Option Task :=
  (candidates.insertionSort fun first second => sooner first second).head?

def countStatus (data : Data) (holds : Task → Bool) : Int := (data.tasks.rows.countP holds : Nat)

/-- `effective` is the capacity of the lane. -/
def claim (worker role : String) (effective : Int) (now : Time) (data : Data) : Option Task × Data :=
  let held := countStatus data fun task => task.status = .inProgress ∧ laneOf texts task.worker = role
  let active := if role = implRole then held + countStatus data fun task => task.status = .reviewing else held
  if effective ≤ active then (none, data)
  else
    let open_ := data.tasks.rows.filter fun task =>
      task.role = implRole ∧ task.status = .ready ∧ (task.preferredLane = "" ∨ task.preferredLane = role)
    match firstOf open_ with
    | none => (none, data)
    | some task =>
        let after := data.edit task.id fun task =>
          { task with
            status := .inProgress
            worker := worker
            phase := "claimed"
            heartbeatAt := some now
            startedAt := some now
            updatedAt := now
            lastError := "" }
        (after.get? task.id, after)

/-- An operation on one task, which must exist. -/
def onTask (id : Nat) (data : Data) (change : Task → Task) : Except Refused (Task × Data) :=
  match data.get? id with
  | none => .error (.unknownTask id)
  | some task => .ok ({ change task with id := id }, data.edit id change)

/-- What `finish` makes of a task, whoever calls it. -/
def finished (status : TaskStatus) (artifact note : String) (now : Time) (task : Task) : Task :=
  let task := if status = .blocked then LoopGuard.record texts task note "implement" now else task
  { task with
    status
    artifact
    note
    phase := if status = .blocked then "error" else "finished"
    heartbeatAt := some now
    updatedAt := now }

def finish (id : Nat) (status : TaskStatus) (artifact note : String) (now : Time) (data : Data) :
    Except Refused (Task × Data) :=
  onTask id data (finished texts status artifact note now)

def claimReview (worker : String) (effective : Int) (now : Time) (data : Data) : Option Task × Data :=
  let active := countStatus data fun task => task.status.Active
  if effective ≤ active then (none, data)
  else match firstOf (data.tasks.rows.filter fun task => task.status = .needsReview) with
    | none => (none, data)
    | some task =>
        let after := data.edit task.id fun task =>
          { task with
            status := .reviewing
            reviewer := worker
            phase := "review_llm"
            heartbeatAt := some now
            updatedAt := now }
        (after.get? task.id, after)

def reviewedStatus (decision : String) : TaskStatus :=
  if decision = "pass" then .reviewed else if decision = "needs_decision" then .needsDecision else .blocked

/-- What `finish_review` makes of a task, whoever calls it. -/
def reviewFinished (decision artifact note : String) (now : Time) (task : Task) : Task :=
  let final := reviewedStatus decision
  let task := if final = .blocked then LoopGuard.record texts task note "review" now else task
  { task with
    status := final
    reviewDecision := some decision
    reviewArtifact := artifact
    note
    phase := "review_finished"
    heartbeatAt := some now
    updatedAt := now }

def finishReview (id : Nat) (decision artifact note : String) (now : Time) (data : Data) :
    Except Refused (Task × Data) :=
  onTask id data (reviewFinished texts decision artifact note now)

/-- Who holds an active task. -/
def holder (task : Task) : String := if task.status = .inProgress then task.worker else task.reviewer

def touch (id : Nat) (worker phase : String) (now : Time) (data : Data) : Bool × Data :=
  match data.get? id with
  | none => (false, data)
  | some task =>
      if task.status.Active ∧ holder task = worker then
        (true, data.edit id fun task =>
          { task with
            phase
            heartbeatAt := some now
            updatedAt := now })
      else (false, data)

/-! ## Loops over the tasks -/

/-- A task whose holder has not beaten since the cutoff. -/
def Stale (cutoff : Time) (task : Task) : Prop :=
  task.status.Active ∧ ((task.heartbeatAt.or task.startedAt).getD 0) ≤ cutoff

instance (cutoff : Time) : DecidablePred (Stale cutoff) := fun task => by
  unfold Stale
  exact inferInstance

def requeued (note : String) (now : Time) (task : Task) : Task :=
  let recorded := LoopGuard.record texts task note "orphaned" now
  { recorded with
    status := if task.status = .reviewing then .needsReview else .ready
    worker := ""
    reviewer := ""
    phase := "requeued"
    note
    updatedAt := now }

def requeueStale (staleAfterSeconds : Int) (note : String) (now : Time) (data : Data) : List Nat × Data :=
  let cutoff := now - 1000000 * staleAfterSeconds
  let stale := (data.tasks.rows.filter fun task => Stale cutoff task).map (·.id)
  (stale, stale.foldl (fun data id => data.edit id (requeued texts note now)) data)

def reopened (maxRetries : Int) (now : Time) (task : Task) : Task :=
  let retries := task.retryCount + 1
  { task with
    status := .ready
    worker := ""
    reviewer := ""
    phase := "retry_queued"
    retryCount := retries
    reviewDecision := none
    lastError := orText task.note task.lastError
    note := "local worker-pool retry " ++ toString retries ++ "/" ++ toString maxRetries
    updatedAt := now }

/-- The blocked tasks with retries left that the loop guard says nothing of. -/
def reopenable (failing : Task → List String) (maxRetries : Int) (data : Data) : List Task :=
  data.tasks.rows.filter fun task =>
    task.status = .blocked ∧ task.retryCount < maxRetries ∧
      LoopGuard.verdict texts failing task data.tasks.rows = none

def requeueBlocked (failing : Task → List String) (limit : Nat) (maxRetries : Int) (now : Time) (data : Data) :
    List Nat × Data :=
  let candidates := (reopenable texts failing maxRetries data).insertionSort fun first second => sooner first second
  let chosen := (candidates.take limit).map (·.id)
  (chosen, chosen.foldl (fun data id => data.edit id (reopened maxRetries now)) data)

/-! ## The operator -/

inductive OperatorAction where
  | retry
  | approve
  | reject
  | rereview
  | park
  | supersede
  deriving DecidableEq, Repr

/-- Colons and blanks at the end are stripped. -/
def operatorName (reason : String) : String :=
  if reason = "" then "operator"
  else .ofList ((("operator: " ++ reason).toList.reverse.dropWhile fun c => c = ':' ∨ c = ' ').reverse)

def retried (who : String) (now : Time) (task : Task) : Task :=
  { task with
    status := .ready
    worker := ""
    reviewer := ""
    phase := "retry_queued"
    retryCount := 0
    lastError := task.note
    note := who ++ " requested retry"
    updatedAt := now }

def approved (who : String) (now : Time) (task : Task) : Task :=
  { task with
    status := .reviewed
    phase := "operator_approved"
    reviewDecision := some "pass"
    note := who ++ " approved after model objection"
    updatedAt := now }

def rejected (who : String) (now : Time) (task : Task) : Task :=
  { task with
    status := .blocked
    phase := "operator_rejected"
    reviewDecision := some "fail"
    retryCount := 99
    note := who ++ " rejected"
    updatedAt := now }

def requeuedForGate (who : String) (now : Time) (task : Task) : Task :=
  { task with
    status := .needsReview
    reviewer := ""
    phase := "requeued_for_gate"
    note := who ++ " requested re-review"
    updatedAt := now }

def parked (who : String) (now : Time) (task : Task) : Task :=
  { task with
    status := .planned
    worker := ""
    reviewer := ""
    phase := "parked"
    note := who ++ " parked"
    updatedAt := now }

def superseded (who : String) (now : Time) (task : Task) : Task :=
  { task with
    status := .superseded
    worker := ""
    reviewer := ""
    phase := "superseded"
    note := who ++ " superseded"
    updatedAt := now }

/-- The change that an action makes to a task, or its refusal. -/
def operatorChange (action : OperatorAction) (who : String) (now : Time) (task : Task) :
    Except Refused (Task → Task) :=
  match action with
  | .retry => .ok (retried who now)
  | .approve =>
      if task.status ≠ .needsDecision then .error (.value "approve applies to needs_decision only")
      else .ok (approved who now)
  | .reject =>
      if task.status ≠ .needsDecision then .error (.value "reject applies to needs_decision only")
      else .ok (rejected who now)
  | .rereview =>
      if task.artifact = "" then .error (.value "no patch artifact to review") else .ok (requeuedForGate who now)
  | .park => .ok (parked who now)
  | .supersede => .ok (superseded who now)

def operatorAction (id : Nat) (action : OperatorAction) (reason : String) (now : Time) (data : Data) :
    Except Refused (Task × Data) :=
  match data.get? id with
  | none => .error (.unknownTask id)
  | some task =>
      if task.status.Active then
        .error (.value ("task " ++ toString id ++ " is " ++ task.status.text ++ "; wait for it to finish"))
      else match operatorChange action (operatorName reason) now task with
        | .error why => .error why
        | .ok change => onTask id data change

/-- `text` is stripped and cut. -/
def addInstruction (id : Nat) (text : String) (now : Time) (data : Data) : Except Refused (Task × Data) :=
  if text = "" then .error (.value "instruction text is required")
  else onTask id data fun task =>
    { task with
      operatorInstructions := task.operatorInstructions ++ [⟨now, none, text⟩]
      updatedAt := now }

/-! ## New tasks -/

def operatorTask (title prompt milestone lane : String) (priority : Int) (now : Time) (id : Nat) : Task where
  id
  milestone
  title
  role := implRole
  priority
  status := .ready
  prompt
  source := "operator"
  preferredLane := lane
  note := "operator-dictated task"
  createdAt := now
  updatedAt := now

/-- `title` and `instruction` are stripped and cut; an empty lane is none. -/
def createOperatorTask (title instruction milestone lane : String) (priority : Int) (files : List String)
    (lanes : List String) (now : Time) (data : Data) : Except Refused Data :=
  if title = "" ∨ instruction = "" then .error (.value "title and instruction are required")
  else if lane ≠ "" ∧ lane ∉ lanes then .error (.value ("unknown lane " ++ lane))
  else
    let evidence := if files = [] then "" else
      "\n\nEvidence/files to inspect: " ++ String.intercalate "; " files ++ "."
    let prompt := instruction ++ evidence ++
      " Work offline and fail closed; do not modify AIOS or make external marketplace/payment writes."
    .ok (data.append (operatorTask title prompt milestone lane priority now))

def queuedTask (title prompt milestone : String) (priority : Int) (now : Time) (id : Nat) : Task where
  id
  milestone
  title
  role := "local-impl"
  priority
  status := .ready
  prompt
  createdAt := now
  updatedAt := now

def enqueue (title prompt milestone : String) (priority : Int) (now : Time) (data : Data) : Data :=
  data.append (queuedTask title prompt milestone priority now)

structure Milestone where
  id : String
  title : String
  status : String
  priority : Int
  dependsOn : List String
  exitCriteria : String
  evidence : String
  deriving DecidableEq, Repr

def milestoneSooner (first second : Milestone) : Bool :=
  second.priority < first.priority ||
    first.priority = second.priority && decide (first.id.toList ≤ second.id.toList)

/-- A task of the milestone, in whatever state but `completed`. -/
def Generated (tasks : List Task) (milestone : String) : Prop :=
  ∃ task ∈ tasks, task.milestone = milestone ∧ task.status ≠ .completed

instance (tasks : List Task) (milestone : String) : Decidable (Generated tasks milestone) := by
  unfold Generated
  exact inferInstance

def DependenciesDone (milestones : List Milestone) (item : Milestone) : Prop :=
  ∀ dep ∈ item.dependsOn, ∃ found ∈ milestones.reverse.find? (·.id = dep), found.status = "done"

instance (milestones : List Milestone) (item : Milestone) : Decidable (DependenciesDone milestones item) := by
  unfold DependenciesDone
  exact inferInstance

/-- The loop of `ensure_workflow_tasks` over the candidates, with the milestones it has queued. -/
def wantedLoop (milestones : List Milestone) (tasks : List Task) (limit : Nat) :
    List Milestone → List Milestone → List Milestone
  | created, [] => created
  | created, item :: rest =>
      if limit ≤ created.length then created
      else if Generated tasks item.id ∨ item.id ∈ created.map (·.id) ∨ ¬ DependenciesDone milestones item then
        wantedLoop milestones tasks limit created rest
      else wantedLoop milestones tasks limit (created ++ [item]) rest

/-- The milestones for which `ensure_workflow_tasks` queues a task. -/
def wanted (milestones : List Milestone) (limit : Nat) (data : Data) : List Milestone :=
  let candidates := (milestones.filter fun item => item.status = "ready" ∨ item.status = "in_progress").insertionSort
    fun first second => milestoneSooner first second
  wantedLoop milestones data.tasks.rows limit [] candidates

def enqueueMilestone (item : Milestone) (now : Time) (data : Data) : Data :=
  enqueue (item.id ++ " · " ++ item.title)
    ("Implement milestone " ++ item.id ++ " for smart_store only. Scope: " ++ item.title ++ ". Exit criteria: " ++
      item.exitCriteria ++ ". Evidence/files to inspect: " ++ item.evidence ++
      ". Work offline and fail closed; do not modify AIOS, call Codex, or make external marketplace/payment writes. " ++
      "Return a minimal unified diff and focused tests.")
    item.id item.priority now data

/-- `data["tasks"][-1]["source"] = …`; there may be no last task. -/
def markLast (data : Data) : Option Data :=
  data.tasks.rows.getLast?.map fun task => data.edit task.id fun task => { task with source := "milestone-workflow" }

end AiStore.ControlPlane
