import AiStore.Pipeline.Budget

/-! A task that is restarted from its checkpoint. -/

set_option autoImplicit false

namespace AiStore.Pipeline

open Library

/-- Behind a lasting effect that a restart repeats: the commit of the spec, the count of a fix round, the feature commit. -/
def Point.unsaved : Point → Prop
  | .specSave | .specNext | .fixModel | .fixDone | .evidenceWrite | .docsCommit | .publishSave | .publishPush
  | .publishNext => True
  | _ => False

def Run.kinds (run : Run) : List CommitKind := run.log.map Commit.kind

/-- No failure of the run is one of its restarts, and what it has published it has published once. -/
structure Restartable (task : Task) (run : Run) : Prop where
  committed : run.point ≠ .failed .nothingToCommit
  spent : run.point = .failed .exhausted → run.completed = task.maxFixRounds
  stalled : run.point = .failed .stalled → run.completed = run.checkpoint.fixRounds
  published : run.point = .done → run.kinds = [.spec, .feat, .docs] ∧ (run.tip task).rows.length = 1

variable {task : Task} {run : Run} {prepared : Option Edit} {events : List Event}

/-! ## What each stage starts from -/

structure Unspecified (log : List Commit) (files : Files) : Prop where
  log : log = []
  rows : files.rows = []

structure Specified (log : List Commit) (files : Files) : Prop where
  kinds : log.map Commit.kind = [.spec]
  rows : files.rows = []

structure Changed (log : List Commit) (files tip : Files) : Prop extends Specified log files where
  diff : files ≠ tip

structure Published (log : List Commit) (tip : Files) : Prop where
  kinds : log.map Commit.kind = [.spec, .feat, .docs]
  rows : tip.rows.length = 1

def Stage.Ready (log : List Commit) (files tip : Files) : Stage → Prop
  | .spec => Unspecified log files
  | .implement => Specified log files
  | .verify | .publish => Changed log files tip
  | .done => Published log tip

/-- The rounds begun have been completed. -/
def Run.Even (run : Run) : Prop := run.completed = run.checkpoint.fixRounds

/-- What holds between the effects of a run that is not restarted behind an unsaved one. -/
def Steady (task : Task) (run : Run) : Prop := match run.point with
  | .queued | .top => run.Even ∧ run.checkpoint.stage.Ready run.log run.files (run.tip task)
  | .specModel | .specCommit => run.Even ∧ run.checkpoint.stage = .spec ∧ Unspecified run.log run.files
  | .specSave | .specNext => run.Even ∧ Specified run.log run.files
  | .implementModel | .implementNext => run.Even ∧ run.checkpoint.stage = .implement ∧ Specified run.log run.files
  | .verifyTests | .verifyPassed | .fixSave _ | .verifyAgain =>
      run.Even ∧ run.checkpoint.stage = .verify ∧ Changed run.log run.files (run.tip task)
  | .fixModel | .fixDone =>
      run.completed + 1 = run.checkpoint.fixRounds ∧ run.checkpoint.stage = .verify ∧ Specified run.log run.files
  | .publishGuard | .featCommit => run.Even ∧ run.checkpoint.stage = .publish ∧ Changed run.log run.files (run.tip task)
  | .evidenceWrite => run.kinds = [.spec, .feat] ∧ run.files.rows = [] ∧ run.tip task = run.files
  | .docsCommit => run.kinds = [.spec, .feat] ∧ run.files.rows.length = 1 ∧ (run.tip task).rows = []
  | .publishSave | .publishPush | .publishNext | .done => Published run.log (run.tip task)
  | .failed .nothingToCommit => False
  | .failed .exhausted => run.completed = task.maxFixRounds
  | .failed .stalled => run.Even
  | .failed _ => True

theorem Run.tip_committed (kind : CommitKind) (tree : Files) {log : List Commit} (last : run.log = log ++ [⟨kind, tree⟩]) :
    run.tip task = tree := by
  simp [Run.tip, last]

theorem Files.rows_record {files : Files} (present : files.spec.isSome = true) (row : EvidenceRow) :
    (files.record row).rows = files.rows ++ [row] := by
  obtain ⟨spec, given⟩ := Option.isSome_iff_exists.mp present
  simp [Files.rows, Files.record, given]

/-- A commit of something new is made. -/
theorem Run.commit_new {kind : CommitKind} {tree : Files} {next : Point} (new : tree ≠ run.tip task) :
    run.commit task kind tree next = { run with log := run.log ++ [⟨kind, tree⟩], point := next } :=
  if_neg new

/-! ## One effect -/

/-- A stage begins with what it starts from. -/
theorem steady_entry (even : run.Even) (ready : run.checkpoint.stage.Ready run.log run.files (run.tip task)) :
    Steady task { run with point := run.checkpoint.stage.entry } := by
  cases stage : run.checkpoint.stage <;> rw [stage] at ready
  case spec => exact ⟨even, stage, ready⟩
  case implement => exact ⟨even, stage, ready⟩
  case verify => exact ⟨even, stage, ready⟩
  case publish => exact ⟨even, stage, ready⟩
  case done => exact ready

/-- A call that is throttled leaves what its stage starts from. -/
theorem steady_call {next : Point} {reply : CallReply} (even : run.Even)
    (ready : ∀ edit, run.checkpoint.stage.Ready run.log (run.files.edited edit) (run.tip task))
    (done : ∀ edit, Steady task { run with files := run.files.edited edit, point := next }) :
    Steady task (run.call next reply) := by
  cases reply with
  | done edit => exact done edit
  | throttled edit => exact ⟨even, ready edit⟩
  | failed edit => trivial

theorem steady_specCommit (even : run.Even) (ready : Unspecified run.log run.files) (spec : Spec) :
    Steady task (run.commit task .spec { run.tip task with spec := some spec } .specSave) := by
  -- nothing has been committed yet and the base has no spec, so this commit is not empty
  have new : { run.tip task with spec := some spec } ≠ run.tip task := by
    intro same
    have unwritten : (run.tip task).spec = none := by simp [Run.tip, ready.log, task.fresh]
    rw [← same] at unwritten
    cases unwritten
  rw [Run.commit_new new]
  refine ⟨even, ?_, ready.rows⟩
  simp [ready.log]

theorem steady_verifyTests {tests : Option String} (even : run.Even) (rounds : run.checkpoint.fixRounds ≤ task.maxFixRounds)
    (stage : run.checkpoint.stage = .verify) (changed : Changed run.log run.files (run.tip task)) :
    Steady task { run with
      outcomes := run.outcomes ++ [tests]
      point := match tests with
        | none => .verifyPassed
        | some digest => run.verdict task digest } := by
  cases tests with
  | none => exact ⟨even, stage, changed⟩
  | some digest =>
    rcases run.verdict_cases task digest with ⟨same, spent⟩ | ⟨same, room⟩ | ⟨same, room⟩ <;>
      simp only [Steady, same]
    -- the rounds that are begun are the rounds that are completed, so an exhausted budget has been used up
    · exact even.trans (Nat.le_antisymm rounds spent)
    · exact even
    · exact ⟨even, stage, changed⟩

theorem steady_featCommit (changed : Changed run.log run.files (run.tip task)) :
    Steady task (run.commit task .feat run.files .evidenceWrite) := by
  rw [Run.commit_new changed.diff]
  refine ⟨?_, changed.rows, Run.tip_committed .feat _ rfl⟩
  simp [Run.kinds, changed.kinds]

theorem steady_docsCommit (kinds : run.kinds = [.spec, .feat]) (rows : run.files.rows.length = 1)
    (tip : (run.tip task).rows = []) : Steady task (run.commit task .docs run.files .publishSave) := by
  -- the evidence row is in the files and not at the tip, so this commit is not empty either
  have new : run.files ≠ run.tip task := by
    intro same
    rw [same, tip] at rows
    cases rows
  rw [Run.commit_new new]
  refine ⟨?_, ?_⟩
  · simp only [List.map_append, List.map_cons, List.map_nil]
    rw [show run.log.map Commit.kind = _ from kinds]
    rfl
  · rw [Run.tip_committed .docs run.files rfl]
    exact rows

theorem Steady.advance (steady : Steady task run) (within : Within task run) (reply : Reply)
    (spared : run.point.unsaved → (run.advance task reply).point ≠ .queued) : Steady task (run.advance task reply) := by
  -- a case for each effect: what `Steady` says before it is what the effect needs, and what it leaves is `Steady` again
  cases here : run.point <;> simp only [Steady, here] at steady
  case queued =>
    simp only [Run.advance, here]
    exact steady
  case top =>
    obtain ⟨even, ready⟩ := steady
    simp only [Run.advance, here]
    exact steady_entry even ready
  case specModel =>
    obtain ⟨even, stage, ready⟩ := steady
    simp only [Run.advance, here]
    split
    · exact ⟨even, stage, ready⟩
    · have edited : ∀ edit, Unspecified run.log (run.files.edited edit) := fun edit =>
        ⟨ready.log, Files.rows_edited ready.rows edit⟩
      exact steady_call even (fun edit => stage ▸ edited edit) fun edit => ⟨even, stage, edited edit⟩
  case specCommit =>
    obtain ⟨even, stage, ready⟩ := steady
    simp only [Run.advance, here]
    split
    · trivial
    · next spec found =>
      split
      · exact steady_specCommit even ready spec
      · trivial
  case specSave | specNext =>
    simp only [Run.advance, here]
    exact steady
  case implementModel =>
    obtain ⟨even, stage, ready⟩ := steady
    simp only [Run.advance, here]
    have edited : ∀ edit, Specified run.log (run.files.edited edit) := fun edit =>
      ⟨ready.kinds, Files.rows_edited ready.rows edit⟩
    exact steady_call even (fun edit => stage ▸ edited edit) fun edit => ⟨even, stage, edited edit⟩
  case implementNext =>
    obtain ⟨even, stage, ready⟩ := steady
    simp only [Run.advance, here]
    split
    · trivial
    · next diff => exact ⟨even, ⟨ready.kinds, ready.rows⟩, diff⟩
  case verifyTests =>
    obtain ⟨even, stage, changed⟩ := steady
    simp only [Run.advance, here]
    split
    · exact steady_verifyTests even within.rounds stage changed
    · trivial
  case verifyPassed =>
    simp only [Run.advance, here]
    exact ⟨steady.1, ⟨steady.2.2.kinds, steady.2.2.rows⟩, steady.2.2.diff⟩
  case fixSave =>
    simp only [Run.advance, here]
    exact ⟨congrArg (· + 1) steady.1, steady.2.1, steady.2.2.kinds, steady.2.2.rows⟩
  case fixModel =>
    obtain ⟨begun, stage, ready⟩ := steady
    -- a throttle here is the one that the run spares: it would queue a round that is begun and not completed
    have kept := spared (by rw [here]; trivial)
    simp only [Run.advance, here] at kept ⊢
    cases replied : reply.call with
    | done edit => exact ⟨begun, stage, ready.kinds, Files.rows_edited ready.rows edit⟩
    | throttled edit =>
      rw [replied] at kept
      exact absurd rfl kept
    | failed edit => trivial
  case fixDone =>
    obtain ⟨begun, stage, ready⟩ := steady
    simp only [Run.advance, here]
    split
    · trivial
    · next diff => exact ⟨begun, stage, ⟨ready.kinds, ready.rows⟩, diff⟩
  case verifyAgain =>
    simp only [Run.advance, here]
    exact ⟨steady.1, ⟨steady.2.2.kinds, steady.2.2.rows⟩, steady.2.2.diff⟩
  case publishGuard =>
    obtain ⟨even, stage, changed⟩ := steady
    simp only [Run.advance, here]
    split
    · split
      · exact ⟨even, stage, ⟨changed.kinds, changed.rows⟩, changed.diff⟩
      · trivial
    · trivial
  case featCommit =>
    obtain ⟨even, stage, changed⟩ := steady
    simp only [Run.advance, here]
    exact steady_featCommit changed
  case evidenceWrite =>
    obtain ⟨kinds, rows, tip⟩ := steady
    simp only [Run.advance, here]
    split
    · next present =>
      refine ⟨kinds, ?_, ?_⟩
      · rw [Files.rows_record present, rows]
        rfl
      · change (run.tip task).rows = []
        rw [tip, rows]
    · trivial
  case docsCommit =>
    obtain ⟨kinds, rows, tip⟩ := steady
    simp only [Run.advance, here]
    exact steady_docsCommit kinds rows tip
  case publishSave =>
    simp only [Run.advance, here]
    cases task.push <;> exact ⟨steady.kinds, steady.rows⟩
  case publishPush =>
    simp only [Run.advance, here]
    split
    · exact ⟨steady.kinds, steady.rows⟩
    · trivial
  case publishNext =>
    simp only [Run.advance, here]
    exact ⟨steady.kinds, steady.rows⟩
  case done =>
    simp only [Run.advance, here]
    rw [Steady, here]
    exact steady
  case failed why =>
    simp only [Run.advance, here]
    rw [Steady, here]
    exact steady

/-- A crash at a saved point leaves what the stage of the checkpoint starts from. -/
theorem Steady.ready (steady : Steady task run) (saved : ¬ run.point.unsaved) (running : run.crash.point = .queued) :
    run.Even ∧ run.checkpoint.stage.Ready run.log run.files (run.tip task) := by
  cases here : run.point <;> simp only [Steady, here] at steady <;> simp only [here, Point.unsaved] at saved
  case queued | top => exact steady
  case specModel | specCommit | implementModel | implementNext | verifyTests | verifyPassed | fixSave | verifyAgain
      | publishGuard | featCommit =>
    obtain ⟨even, stage, ready⟩ := steady
    rw [stage]
    exact ⟨even, ready⟩
  case done | failed =>
    rw [Run.crash, here] at running
    simp [here] at running
  all_goals exact absurd trivial saved

theorem Steady.step (steady : Steady task run) (within : Within task run) (event : Event)
    (spared : run.point.unsaved → (run.step task event).point ≠ .queued) : Steady task (run.step task event) := by
  cases event with
  | go reply => exact steady.advance within reply spared
  | crash =>
    rcases run.crash_cases with same | queued
    · rw [Run.step, same]
      exact steady
    -- what a crash keeps is all that the stage of the checkpoint starts from
    · have ready := steady.ready (fun inside => spared inside queued) queued
      have kept : run.crash = { run with point := .queued } := by
        unfold Run.crash at queued ⊢
        split at queued
        · next here => simp [here] at queued
        · next here => simp [here] at queued
        · rfl
      rw [Run.step, kept]
      exact ready

theorem steady_start : Steady task (Run.start task prepared) := by
  have empty : task.base.rows = [] := by simp [Files.rows, task.fresh]
  refine ⟨rfl, rfl, ?_⟩
  cases prepared with
  | none => exact empty
  | some edit => exact Files.rows_edited empty edit

theorem steady_after (spares : Run.Spares Point.unsaved task prepared events) :
    Steady task (Run.after task prepared events) := by
  -- `Steady` is what survives each event of the run
  apply run_induction fun events => Steady task (Run.after task prepared events)
  · exact steady_start
  · intro before event rest split steady
    rw [Run.after_concat]
    exact steady.step (within_after before) event (spares.step split)

theorem Steady.restartable (steady : Steady task run) : Restartable task run where
  committed here := by simp only [Steady, here] at steady
  spent here := by simpa only [Steady, here] using steady
  stalled here := by
    rw [Steady, here] at steady
    exact steady
  published here := by
    simp only [Steady, here] at steady
    exact ⟨steady.kinds, steady.rows⟩

end AiStore.Pipeline
