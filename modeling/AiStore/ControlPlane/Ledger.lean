import AiStore.Library.Runs
import AiStore.Library.Table

/-! The ledger of the control plane: `tasks.json`, one record a task.

Times are read back from the texts of `now()`, in microseconds.
-/

set_option autoImplicit false

namespace AiStore.ControlPlane

open Library

abbrev Time := Int

inductive TaskStatus where
  | planned
  | ready
  | inProgress
  | needsReview
  | reviewing
  | needsDecision
  | reviewed
  | blocked
  | escalated
  | done
  | completed
  | superseded
  deriving DecidableEq, Repr

namespace TaskStatus

/-- `ACTIVE_STATES`. -/
def Active (status : TaskStatus) : Prop := status = .inProgress ∨ status = .reviewing

instance : DecidablePred Active := fun status => by
  unfold Active
  exact inferInstance

def text : TaskStatus → String
  | planned => "planned"
  | ready => "ready"
  | inProgress => "in_progress"
  | needsReview => "needs_review"
  | reviewing => "reviewing"
  | needsDecision => "needs_decision"
  | reviewed => "reviewed"
  | blocked => "blocked"
  | escalated => "escalated"
  | done => "done"
  | completed => "completed"
  | superseded => "superseded"

end TaskStatus

/-- One failed run; `time` is the key `at`. -/
structure Attempt where
  time : Time
  kind : String
  cause : String
  sig : String
  seconds : Int
  deriving DecidableEq, Repr

structure Instruction where
  time : Time
  source : Option String
  text : String
  deriving DecidableEq, Repr

inductive GuardStage where
  | remediated
  | escalated
  deriving DecidableEq, Repr

/-- What the loop guard left on a task. -/
structure GuardRecord where
  stage : GuardStage
  cause : String
  reason : String
  time : Time
  attempts : String
  remedy : Option String
  deriving DecidableEq, Repr

/-- What a hand-over to Codex left on a task. -/
structure Escalation where
  engine : String
  jobId : Nat
  taskId : String
  time : Time
  codex : String
  deriving DecidableEq, Repr

/-- A missing text is empty, except where the code tells the two apart. -/
structure Task where
  id : Nat
  milestone : String
  title : String
  role : String
  priority : Int
  status : TaskStatus
  prompt : String
  source : String := ""
  preferredLane : String := ""
  operatorInstructions : List Instruction := []
  worker : String := ""
  reviewer : String := ""
  phase : String := ""
  note : String := ""
  lastError : String := ""
  artifact : String := ""
  reviewArtifact : String := ""
  reviewDecision : Option String := none
  retryCount : Int := 0
  attempts : List Attempt := []
  loopGuard : Option GuardRecord := none
  escalation : Option Escalation := none
  commit : Option String := none
  branch : Option String := none
  createdAt : Time
  startedAt : Option Time := none
  heartbeatAt : Option Time := none
  updatedAt : Time
  deriving DecidableEq, Repr

/-- `first or second` on texts. -/
def orText (first second : String) : String := if first = "" then second else first

/-- The contents of the file: every id has been given out by `next_id`. -/
structure Data where
  nextId : Nat
  tasks : Table Task.id
  fresh : ∀ task ∈ tasks.rows, task.id < nextId

namespace Data

theorem ext {first second : Data} (next : first.nextId = second.nextId) (tasks : first.tasks = second.tasks) :
    first = second := by
  cases first; cases second; cases next; cases tasks; rfl

instance : DecidableEq Data := fun first second =>
  decidable_of_iff (first.nextId = second.nextId ∧ first.tasks.rows = second.tasks.rows) (by
    constructor
    · exact fun same => ext same.1 (Table.ext same.2)
    · rintro rfl
      exact ⟨rfl, rfl⟩)

/-- What `_load` gives without a file. -/
def empty : Data := ⟨1, .empty, fun _ member => by cases member⟩

def get? (data : Data) (id : Nat) : Option Task := data.tasks.get? id

/-- One task is rewritten; the id stays. -/
def edit (data : Data) (id : Nat) (change : Task → Task) : Data :=
  match found : data.get? id with
  | none => data
  | some task =>
      { data with
        tasks := data.tasks.put { change task with id := task.id }
        fresh := Table.forall_put data.fresh (data.fresh task (Table.mem_of_get? found)) }

/-- A task under the next id. -/
def append (data : Data) (task : Nat → Task) : Data where
  nextId := data.nextId + 1
  tasks := data.tasks.put { task data.nextId with id := data.nextId }
  fresh := by
    refine Table.forall_put (fun old member => ?_) (Nat.lt_succ_self _)
    exact Nat.lt_succ_of_lt (data.fresh old member)

def ids (data : Data) : List Nat := data.tasks.rows.map (·.id)

theorem get?_append (data : Data) (task : Nat → Task) (id : Nat) :
    (data.append task).get? id =
      if id = data.nextId then some { task data.nextId with id := data.nextId } else data.get? id := by
  unfold get? append
  rw [Table.get?_put]
  simp only [eq_comm]

theorem get?_edit (data : Data) (id : Nat) (change : Task → Task) (other : Nat) :
    (data.edit id change).get? other =
      if other = id then (data.get? id).map fun task => { change task with id := id } else data.get? other := by
  unfold edit
  split
  · next absent =>
    split
    · next same => rw [same, absent]; rfl
    · rfl
  · next task found =>
    have named : task.id = id := Table.key_of_get? found
    change (data.tasks.put _).get? other = _
    rw [Table.get?_put]
    simp only [named, eq_comm, found, Option.map_some]
    rfl

end Data

end AiStore.ControlPlane
