import AiStore.Library.Runs

/-! The stages of a development task, one lasting effect at a time.

Between two points of a run lies one model call, one commit, one write or one
`_save`. The `git` calls that only read, and `git add` before a commit of the
same paths, leave nothing that a later step reads; they belong to the step
behind them.
-/

set_option autoImplicit false

namespace AiStore.Pipeline

open Library

inductive Stage where
  | spec | implement | verify | publish | done
  deriving DecidableEq

/-- A row below `## Evidence`. -/
structure EvidenceRow where
  commit : Nat
  fixRounds : Nat
  deriving DecidableEq

structure Spec where
  text : String
  evidence : List EvidenceRow
  deriving DecidableEq

/-- The files that git does not ignore: the spec of the task and the others. -/
structure Files where
  spec : Option Spec
  rest : List (String × String)
  deriving DecidableEq

/-- What a model call or an operator leaves behind. -/
structure Edit where
  spec : Option String
  rest : List (String × String)

def Files.rows (files : Files) : List EvidenceRow := match files.spec with
  | none => []
  | some spec => spec.evidence

def Files.edited (files : Files) (edit : Edit) : Files where
  spec := edit.spec.map fun text => ⟨text, files.rows⟩
  rest := edit.rest

def Files.record (files : Files) (row : EvidenceRow) : Files where
  spec := files.spec.map fun spec => ⟨spec.text, spec.evidence ++ [row]⟩
  rest := files.rest

inductive CommitKind where
  | spec | feat | docs
  deriving DecidableEq

structure Commit where
  kind : CommitKind
  tree : Files
  deriving DecidableEq

structure Checkpoint where
  stage : Stage
  specCommit : Option Commit
  fixRounds : Nat
  fixCompleted : Option Nat
  lastFailureDigest : Option String
  deriving DecidableEq

inductive Failure where
  | callFailed | specMissing | idsMissing | nothingToCommit | noProgress | guardRejected | exhausted | stalled
  | scanRejected
  deriving DecidableEq

/-- The next effect of the run. -/
inductive Point where
  | queued | top
  | specModel | specCommit | specSave | specNext
  | implementModel | implementNext
  | verifyTests | verifyPassed | fixSave (digest : String) | fixModel | fixDone | verifyAgain
  | publishGuard | featCommit | evidenceWrite | docsCommit | publishSave | publishPush | publishNext
  | done | failed (why : Failure)
  deriving DecidableEq

/-- A task that is new to the branch it starts from. -/
structure Task where
  base : Files
  fresh : base.spec = none
  maxFixRounds : Nat
  push : Bool
  listsIds : String → Bool
  /-- `_guard_diff`, with the spec commit that it compares the files to. -/
  guardDiff : Option Commit → Files → Bool
  securityScan : Files → Bool

structure Run where
  checkpoint : Checkpoint
  log : List Commit
  files : Files
  point : Point
  /-- Fix rounds that have run to completion. -/
  completed : Nat
  /-- What the verifications have seen: nothing amiss, or a failure. -/
  outcomes : List (Option String)

inductive CallReply where
  | done (edit : Edit)
  /-- `UsageLimited`. -/
  | throttled (edit : Edit)
  | failed (edit : Edit)

structure Reply where
  call : CallReply
  /-- Nothing where the tests pass and name every acceptance ID, else the digest of their output. -/
  tests : Option String
  pushed : Bool

inductive Event where
  | go (reply : Reply)
  | crash

def Stage.entry : Stage → Point
  | .spec => .specModel
  | .implement => .implementModel
  | .verify => .verifyTests
  | .publish => .publishGuard
  | .done => .done

namespace Run

/-- The tree at the tip of the branch. -/
def tip (task : Task) (run : Run) : Files := match run.log.getLast? with
  | none => task.base
  | some commit => commit.tree

def fail (run : Run) (why : Failure) : Run := { run with point := .failed why }

/-- `_codex`; the worker defers a throttled job, which waits in the queue for its next claim. -/
def call (run : Run) (next : Point) : CallReply → Run
  | .done edit => { run with files := run.files.edited edit, point := next }
  | .throttled edit => { run with files := run.files.edited edit, point := .queued }
  | .failed edit => { run with files := run.files.edited edit, point := .failed .callFailed }

/-- `git commit` exits non-zero when there is nothing to commit. -/
def commit (task : Task) (run : Run) (kind : CommitKind) (tree : Files) (next : Point) : Run :=
  if tree = run.tip task then run.fail .nothingToCommit else { run with log := run.log ++ [⟨kind, tree⟩], point := next }

def save (run : Run) (stage : Stage) : Run :=
  { run with checkpoint := { run.checkpoint with stage }, point := if stage = .done then .done else .top }

/-- What `_stage_verify` makes of a failure. -/
def verdict (task : Task) (run : Run) (digest : String) : Point :=
  if task.maxFixRounds ≤ run.checkpoint.fixRounds then .failed .exhausted
  else if 0 < run.checkpoint.fixRounds ∧ run.checkpoint.fixCompleted = some run.checkpoint.fixRounds ∧
      run.checkpoint.lastFailureDigest = some digest then .failed .stalled
  else .fixSave digest

/-- The next effect. -/
def advance (task : Task) (reply : Reply) (run : Run) : Run :=
  match run.point with
  | .queued => { run with point := .top }
  | .top => { run with point := run.checkpoint.stage.entry }
  | .specModel => if run.files.spec.isSome then { run with point := .specCommit } else run.call .specCommit reply.call
  | .specCommit =>
      match run.files.spec with
      | none => run.fail .specMissing
      | some spec =>
          if task.listsIds spec.text then run.commit task .spec { run.tip task with spec := some spec } .specSave
          else run.fail .idsMissing
  | .specSave =>
      { run with checkpoint := { run.checkpoint with specCommit := run.log.getLast? }, point := .specNext }
  | .specNext => run.save .implement
  | .implementModel => run.call .implementNext reply.call
  | .implementNext => if run.files = run.tip task then run.fail .noProgress else run.save .verify
  | .verifyTests =>
      if task.guardDiff run.checkpoint.specCommit run.files then
        { run with
          outcomes := run.outcomes ++ [reply.tests]
          point := match reply.tests with
            | none => .verifyPassed
            | some digest => run.verdict task digest }
      else run.fail .guardRejected
  | .verifyPassed => run.save .publish
  | .fixSave digest =>
      { run with
        checkpoint := { run.checkpoint with
          fixRounds := run.checkpoint.fixRounds + 1
          lastFailureDigest := some digest }
        point := .fixModel }
  | .fixModel => run.call .fixDone reply.call
  | .fixDone =>
      if run.files = run.tip task then run.fail .noProgress
      else { run with
        checkpoint := { run.checkpoint with fixCompleted := some run.checkpoint.fixRounds }
        completed := run.completed + 1
        point := .verifyAgain }
  | .verifyAgain => run.save .verify
  | .publishGuard =>
      if task.guardDiff run.checkpoint.specCommit run.files then
        if task.securityScan run.files then { run with point := .featCommit } else run.fail .scanRejected
      else run.fail .guardRejected
  | .featCommit => run.commit task .feat run.files .evidenceWrite
  | .evidenceWrite =>
      if run.files.spec.isSome then
        { run with files := run.files.record ⟨run.log.length, run.checkpoint.fixRounds⟩, point := .docsCommit }
      else run.fail .specMissing
  | .docsCommit => run.commit task .docs run.files .publishSave
  | .publishSave => { run with point := if task.push then .publishPush else .publishNext }
  | .publishPush => if reply.pushed then { run with point := .publishNext } else run.fail .callFailed
  | .publishNext => run.save .done
  | .done | .failed _ => run

/-- A crash keeps the checkpoint, the branch and the worktree. -/
def crash (run : Run) : Run := match run.point with
  | .done | .failed _ => run
  | _ => { run with point := .queued }

def step (task : Task) : Event → Run → Run
  | .go reply, run => run.advance task reply
  | .crash, run => run.crash

/-- The worktree is new, or an operator has prepared it. -/
def start (task : Task) (prepared : Option Edit) : Run where
  checkpoint := ⟨.spec, none, 0, none, none⟩
  log := []
  files := match prepared with
    | none => task.base
    | some edit => task.base.edited edit
  point := .queued
  completed := 0
  outcomes := []

def after (task : Task) (prepared : Option Edit) (events : List Event) : Run :=
  final (fun event run => ((), run.step task event)) (start task prepared) events

/-- No crash and no throttle falls where `avoided` holds: no step goes from there back to the queue. -/
def Spares (avoided : Point → Prop) (task : Task) (prepared : Option Edit) (events : List Event) : Prop :=
  ∀ before event rest, events = before ++ event :: rest → avoided (after task prepared before).point →
    (after task prepared (before ++ [event])).point ≠ .queued

end Run

variable {task : Task} {run : Run} {prepared : Option Edit} {events : List Event}

@[simp] theorem Run.after_nil : Run.after task prepared [] = Run.start task prepared := rfl

@[simp] theorem Run.after_concat (event : Event) :
    Run.after task prepared (events ++ [event]) = (Run.after task prepared events).step task event :=
  final_concat _ _ _ _

theorem Run.Spares.step {avoided : Point → Prop} {before rest : List Event} {event : Event}
    (spares : Run.Spares avoided task prepared events) (split : events = before ++ event :: rest)
    (inside : avoided (Run.after task prepared before).point) :
    ((Run.after task prepared before).step task event).point ≠ .queued := by
  have kept := spares before event rest split inside
  rwa [Run.after_concat] at kept

theorem Run.Spares.nil {avoided : Point → Prop} : Run.Spares avoided task prepared [] := by
  intro before event rest split
  cases before <;> cases split

theorem Run.Spares.concat {avoided : Point → Prop} {event : Event} (spares : Run.Spares avoided task prepared events)
    (last : avoided (Run.after task prepared events).point →
      ((Run.after task prepared events).step task event).point ≠ .queued) :
    Run.Spares avoided task prepared (events ++ [event]) := by
  intro before other rest split inside
  rcases List.eq_nil_or_concat rest with rfl | ⟨kept, final, rfl⟩
  · obtain ⟨rfl, same⟩ := List.append_inj' split rfl
    cases same
    rw [Run.after_concat]
    exact last inside
  · rw [List.concat_eq_append, ← List.cons_append, ← List.append_assoc] at split
    obtain ⟨rfl, -⟩ := List.append_inj' split rfl
    exact spares before other kept rfl inside

theorem Files.rows_edited {files : Files} (none_yet : files.rows = []) (edit : Edit) : (files.edited edit).rows = [] := by
  cases given : edit.spec with
  | none => simp [Files.rows, Files.edited, given]
  | some text => simpa [Files.rows, Files.edited, given] using none_yet

/-! ## What one effect does to the fix budget -/

/-- The counters of the checkpoint, the rounds that have been completed and what the verifications have seen. -/
def Run.budget (run : Run) : Nat × Option Nat × Option String × Nat × List (Option String) :=
  (run.checkpoint.fixRounds, run.checkpoint.fixCompleted, run.checkpoint.lastFailureDigest, run.completed, run.outcomes)

/-- The points that the fix rounds go through. -/
def Point.counting : Point → Bool
  | .verifyTests | .fixSave _ | .fixModel | .fixDone | .failed _ => true
  | _ => false

@[simp] theorem Run.budget_moved (next : Point) : ({ run with point := next } : Run).budget = run.budget := rfl

@[simp] theorem Run.budget_fail (why : Failure) : (run.fail why).budget = run.budget := rfl

@[simp] theorem Run.budget_save (stage : Stage) : (run.save stage).budget = run.budget := rfl

@[simp] theorem Run.budget_call (next : Point) (reply : CallReply) : (run.call next reply).budget = run.budget := by
  cases reply <;> rfl

@[simp] theorem Run.budget_commit (kind : CommitKind) (tree : Files) (next : Point) :
    (run.commit task kind tree next).budget = run.budget := by
  unfold Run.commit
  split <;> rfl

theorem Run.budget_crash : run.crash.budget = run.budget := by
  unfold Run.crash
  split <;> rfl

/-- Elsewhere no counter moves. -/
theorem Run.budget_advance (reply : Reply) (elsewhere : run.point.counting = false) :
    (run.advance task reply).budget = run.budget := by
  cases here : run.point <;> rw [here] at elsewhere <;> try cases elsewhere
  case specCommit =>
    simp only [Run.advance, here]
    split
    · rfl
    · simp [apply_ite Run.budget]
  case specSave | evidenceWrite =>
    simp only [Run.advance, here, apply_ite Run.budget, Run.budget_fail]
    try split
    all_goals rfl
  all_goals simp [Run.advance, here, apply_ite Run.budget]

/-- Inside no fix round, and without a verdict about them. -/
def Point.plain : Point → Bool
  | .fixSave _ | .fixModel | .fixDone | .failed .exhausted | .failed .stalled => false
  | _ => true

theorem Stage.plain_entry (stage : Stage) : stage.entry.plain = true := by cases stage <;> rfl

theorem Run.plain_call {next : Point} (plain : next.plain = true) (reply : CallReply) :
    (run.call next reply).point.plain = true := by
  cases reply <;> first | exact plain | rfl

theorem Run.plain_commit (kind : CommitKind) (tree : Files) {next : Point} (plain : next.plain = true) :
    (run.commit task kind tree next).point.plain = true := by
  unfold Run.commit
  split
  · rfl
  · exact plain

theorem Run.plain_save (stage : Stage) : (run.save stage).point.plain = true := by cases stage <;> rfl

/-- Elsewhere no fix round begins. -/
theorem Run.plain_advance (reply : Reply) (elsewhere : run.point.counting = false) :
    (run.advance task reply).point.plain = true := by
  cases here : run.point <;> rw [here] at elsewhere <;> try cases elsewhere
  case top => simpa only [Run.advance, here] using run.checkpoint.stage.plain_entry
  case specModel =>
    simp only [Run.advance, here]
    split
    · rfl
    · exact Run.plain_call rfl _
  case specCommit =>
    simp only [Run.advance, here]
    split
    · rfl
    · split
      · exact Run.plain_commit _ _ rfl
      · rfl
  case implementModel => simpa only [Run.advance, here] using Run.plain_call rfl _
  case featCommit | docsCommit => simpa only [Run.advance, here] using Run.plain_commit _ _ rfl
  case specNext | verifyPassed | verifyAgain | publishNext => simpa only [Run.advance, here] using Run.plain_save _
  case implementNext =>
    simp only [Run.advance, here]
    split
    · rfl
    · exact Run.plain_save _
  case publishGuard =>
    simp only [Run.advance, here]
    split
    · split <;> rfl
    · rfl
  case evidenceWrite | publishPush =>
    simp only [Run.advance, here]
    split <;> rfl
  case publishSave =>
    simp only [Run.advance, here]
    cases task.push <;> rfl
  all_goals simp [Run.advance, here, Point.plain]

end AiStore.Pipeline
