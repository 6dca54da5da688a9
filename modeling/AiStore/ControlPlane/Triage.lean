import AiStore.ControlPlane.Scheduler

/-! The triage of blocked tasks, the ladder to the senior models, and the landing of reviewed patches. -/

set_option autoImplicit false

namespace AiStore.ControlPlane

variable (texts : Texts)

def maxRetries : Int := 3
def decisionStaleSeconds : Int := 6 * 3600

def transientMarkers : List String :=
  ["local llm error", "review error", "timeouterror", "deadline", "throttled", "connection", "lane paused"]

inductive Remedy where
  | ready
  | rebase
  deriving DecidableEq, Repr

inductive CodexOutcome where
  | done (commit : Option String) (branch : String)
  | dead (reason : String)
  | timeout (reason : String)
  | waiting (details : String)
  deriving DecidableEq, Repr

/-- What a triage reads outside the ledger: the failing tests of a review, sorted, the answer of
`hand_to_codex`, how a job that was handed over stands, and whether an artifact has an agent summary. -/
structure Surroundings where
  failing : Task → List String
  handToCodex : Task → Option Escalation
  codexOutcome : Escalation → CodexOutcome
  agentSummary : String → Bool

/-- `text.startswith(start)`. -/
def startsWith (start text : String) : Bool := start.toList.isPrefixOf text.toList

/-- Why a task is blocked, with the remedy where there is a mechanical one. -/
def classify (around : Surroundings) (task : Task) : String × Option Remedy :=
  let note := texts.lower task.note
  if transientMarkers.any (within · note) then ("transient", some .ready)
  else if startsWith "landing" note ∨ within "base moved" note then ("base_moved", some .rebase)
  else if within "patch artifact missing" note then ("missing_patch", some .ready)
  else if startsWith "model refused" note ∧ ¬ (task.artifact ≠ "" ∧ around.agentSummary task.artifact) then
    ("stale_engine", some .ready)
  else if maxRetries ≤ task.retryCount then ("retries_exhausted", none)
  else ("implementer", none)

/-- Codex takes the task where it can, otherwise it waits for Claude Code. -/
def escalate (record : Option Escalation) (cause : String) (now : Time) (task : Task) : Task :=
  match record with
  | some record =>
      { task with
        status := .escalated
        phase := "codex"
        escalation := some record
        worker := ""
        reviewer := ""
        note := cause ++ ": handed to Codex job " ++ toString record.jobId
        updatedAt := now }
  | none =>
      { task with
        status := .blocked
        phase := "needs_claude"
        worker := ""
        reviewer := ""
        updatedAt := now }

def remediated (verdict : LoopGuard.Verdict) (instruction : String) (now : Time) (task : Task) : Task :=
  { task with
    operatorInstructions := task.operatorInstructions ++ [⟨now, some "loopguard", "[루프 감지] " ++ instruction⟩]
    status := .ready
    worker := ""
    reviewer := ""
    phase := "loop_remediated"
    retryCount := 0
    loopGuard := some ⟨.remediated, verdict.cause, verdict.reason, now, LoopGuard.summary task, none⟩
    lastError := orText task.note task.lastError
    note := "loop guard: " ++ verdict.reason ++ "; one more run with the diagnosis"
    updatedAt := now }

/-- The task with the loop guard's record of its escalation. -/
def diagnosed (verdict : LoopGuard.Verdict) (now : Time) (task : Task) : Task :=
  { task with
    loopGuard := some
      ⟨.escalated, verdict.cause, verdict.reason, now, LoopGuard.summary task, task.loopGuard.map (·.cause)⟩
    lastError := orText task.note task.lastError
    note := "loop guard: " ++ verdict.reason }

/-- The tasks that the loop guard looks at. -/
def Guardable (task : Task) : Prop :=
  (task.status = .blocked ∨ task.status = .ready ∨ task.status = .needsReview) ∧ task.phase ≠ "needs_claude"

instance : DecidablePred Guardable := fun task => by
  unfold Guardable
  exact inferInstance

/-- What the loop guard makes of a task, none where it does not act. -/
def loopGuard (around : Surroundings) (now : Time) (others : List Task) (task : Task) : Option Task :=
  if ¬ Guardable task then none
  else match LoopGuard.verdict texts around.failing task others with
    | none => none
    | some verdict =>
        match verdict.action with
        | .remediate instruction => some (remediated verdict instruction now task)
        | .escalate =>
            let task := diagnosed verdict now task
            let record := if LoopGuard.Unfixable verdict.cause then none else around.handToCodex task
            some (escalate record ("loop:" ++ verdict.cause) now task)

def requeuedFree (cause : String) (remedy : Remedy) (now : Time) (task : Task) : Task :=
  { task with
    status := .ready
    worker := ""
    reviewer := ""
    phase := if remedy = .rebase then "rebase_needed" else "retry_queued"
    lastError := task.note
    note := "triage: " ++ cause ++ ", requeued without retry cost"
    updatedAt := now }

def triageBlocked (around : Surroundings) (now : Time) (task : Task) : Task :=
  match classify texts around task with
  | (cause, some remedy) => requeuedFree cause remedy now task
  | (cause, none) =>
      if cause = "retries_exhausted" ∧ task.phase ≠ "needs_claude" ∧ task.escalation = none then
        escalate (around.handToCodex task) cause now task
      else task

def backFromCodex (reason : String) (now : Time) (task : Task) : Task :=
  { task with
    status := .blocked
    phase := "needs_claude"
    lastError := "codex: " ++ reason
    note := "Codex could not finish; Claude Code to act"
    updatedAt := now }

def triageEscalated (around : Surroundings) (now : Time) (task : Task) : Task :=
  let outcome := match task.escalation with
    | some record => if record.engine = "codex" then around.codexOutcome record else .dead "no record"
    | none => .dead "no record"
  match outcome with
  | .done commit branch =>
      { task with
        status := .done
        phase := "landed"
        commit
        branch := some branch
        note := "Codex pipeline landed " ++ branch ++ " at " ++ commit.getD "None"
        updatedAt := now }
  | .dead reason | .timeout reason => backFromCodex reason now task
  | .waiting details => { task with escalation := task.escalation.map fun record => { record with codex := details } }

def triageDecision (now : Time) (task : Task) : Task :=
  if 1000000 * decisionStaleSeconds < now - task.updatedAt ∧ task.phase ≠ "needs_operator" then
    { task with
      phase := "needs_operator"
      updatedAt := now }
  else task

/-- One turn of the triage's loop. -/
def triaged (around : Surroundings) (now : Time) (others : List Task) (task : Task) : Task :=
  match loopGuard texts around now others task with
  | some guarded => guarded
  | none =>
      if task.status = .blocked then triageBlocked texts around now task
      else if task.status = .escalated then triageEscalated around now task
      else if task.status = .needsDecision then triageDecision now task
      else task

/-- A triage that is not skipped: every task in turn, beside the others as they then are. -/
def runTriage (around : Surroundings) (now : Time) (data : Data) : Data :=
  data.ids.foldl (fun data id => data.edit id (triaged texts around now data.tasks.rows)) data

/-! ## Landing -/

inductive LandOutcome where
  | landed (sha : String)
  | baseMoved (message : String)
  | failed (message : String)
  deriving DecidableEq, Repr

/-- Whether the artifact of a task is there, and what `land_patch` returns for it. -/
structure Landing where
  isFile : String → Bool
  landPatch : Task → LandOutcome

def landedTask (landing : Landing) (now : Time) (task : Task) : Task :=
  if ¬ (task.artifact ≠ "" ∧ landing.isFile task.artifact) then
    { task with
      status := .blocked
      phase := "error"
      note := "landing: patch artifact missing"
      updatedAt := now }
  else match landing.landPatch task with
    | .landed sha =>
        { task with
          status := .done
          phase := "landed"
          commit := some sha
          branch := some ("control/task-" ++ toString task.id)
          note := "landed on control/task-" ++ toString task.id ++ " at " ++ sha
          updatedAt := now }
    | .baseMoved message =>
        { task with
          status := .ready
          worker := ""
          reviewer := ""
          phase := "rebase_needed"
          lastError := "reviewed patch no longer applies to HEAD; re-implement on the current code"
          note := "landing: " ++ cut 200 ("base moved: " ++ message)
          updatedAt := now }
    | .failed message =>
        { task with
          status := .blocked
          phase := "error"
          note := "landing failed: " ++ message
          updatedAt := now }

def landReviewed (landing : Landing) (limit : Nat) (now : Time) (data : Data) : List Nat × Data :=
  let chosen := ((data.tasks.rows.filter fun task => task.status = .reviewed).take limit).map (·.id)
  (chosen, chosen.foldl (fun data id => data.edit id (landedTask landing now)) data)

end AiStore.ControlPlane
