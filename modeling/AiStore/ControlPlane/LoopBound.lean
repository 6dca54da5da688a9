import Mathlib.Data.List.Induction
import AiStore.ControlPlane.Operations

/-! How often a task fails before it leaves the local pool.

Six attempts bring the loop guard's remedy and three more its escalation. A patch
that does not land sends its task back without an attempt being recorded, so only
the other failures count.
-/

set_option autoImplicit false

namespace AiStore.ControlPlane

open Library LoopGuard

section

variable (texts : Texts)

/-- The task is with Codex or waits for Claude Code. -/
def Left (data : Data) (id : Nat) : Prop :=
  ∃ task, data.get? id = some task ∧ (task.status = .escalated ∨ task.phase = "needs_claude")

instance (data : Data) (id : Nat) : Decidable (Left data id) :=
  inferInstanceAs (Decidable (∃ task ∈ data.get? id, task.status = .escalated ∨ task.phase = "needs_claude"))

/-- Behind some part of the run, perhaps none of it, the task has left the pool. -/
def Leaves (id : Nat) : Data → List LedgerCall → Prop
  | data, [] => Left data id
  | data, call :: rest => Left data id ∨ Leaves id (step texts call data).2 rest

instance decidableLeaves (id : Nat) : (data : Data) → (calls : List LedgerCall) → Decidable (Leaves texts id data calls)
  | data, [] => inferInstanceAs (Decidable (Left data id))
  | data, call :: rest =>
      have := decidableLeaves id (step texts call data).2 rest
      inferInstanceAs (Decidable (_ ∨ _))

/-- A reviewed patch of the task that is not landed. -/
def FailsLanding (data : Data) (call : LedgerCall) (id : Nat) : Prop :=
  match call.operation with
  | .landReviewed landing limit =>
      ∃ task ∈ (data.tasks.rows.filter fun task => task.status = .reviewed).take limit,
        task.id = id ∧ (landedTask landing call.now task).status ≠ .done
  | _ => False

instance (data : Data) (call : LedgerCall) (id : Nat) : Decidable (FailsLanding data call id) := by
  unfold FailsLanding
  split <;> exact inferInstance

/-- An implementation that is blocked, a review that fails, or a holder that is gone. -/
def FailsRun (data : Data) (call : LedgerCall) (id : Nat) : Prop :=
  match call.operation with
  | .finish target status _ _ => target = id ∧ status = .blocked
  | .finishReview target decision _ _ => target = id ∧ reviewedStatus decision = .blocked
  | .requeueStale staleAfterSeconds _ =>
      ∃ task ∈ data.tasks.rows, task.id = id ∧ Stale (call.now - 1000000 * staleAfterSeconds) task
  | _ => False

instance (data : Data) (call : LedgerCall) (id : Nat) : Decidable (FailsRun data call id) := by
  unfold FailsRun
  split <;> exact inferInstance

/-- The unsuccessful outcomes of a run. -/
def failures (id : Nat) : Data → List LedgerCall → Nat
  | _, [] => 0
  | data, call :: rest =>
      (if FailsRun data call id ∨ FailsLanding data call id then 1 else 0) + failures id (step texts call data).2 rest

/-- Whether the next operation is a triage. -/
def triageNext : List LedgerCall → Bool
  | ⟨.runTriage _, _⟩ :: _ => true
  | _ => false

/-- Each unsuccessful outcome of a run is followed by a triage. -/
def Triaged (id : Nat) : Data → List LedgerCall → Prop
  | _, [] => True
  | data, call :: rest =>
      (FailsRun data call id ∨ FailsLanding data call id → triageNext rest = true) ∧
        Triaged id (step texts call data).2 rest

instance decidableTriaged (id : Nat) : (data : Data) → (calls : List LedgerCall) → Decidable (Triaged texts id data calls)
  | _, [] => .isTrue trivial
  | data, call :: rest =>
      have := decidableTriaged id (step texts call data).2 rest
      inferInstanceAs (Decidable ((_ → _) ∧ _))

/-- No landing of the task fails. -/
def Lands (id : Nat) : Data → List LedgerCall → Prop
  | _, [] => True
  | data, call :: rest => ¬ FailsLanding data call id ∧ Lands id (step texts call data).2 rest

instance decidableLands (id : Nat) : (data : Data) → (calls : List LedgerCall) → Decidable (Lands texts id data calls)
  | _, [] => .isTrue trivial
  | data, call :: rest =>
      have := decidableLands id (step texts call data).2 rest
      inferInstanceAs (Decidable (¬ _ ∧ _))

end

/-- A strictly increasing clock, that the task's own record does not run ahead of. -/
structure Ticking (task : Task) (calls : List LedgerCall) : Prop where
  increases : (calls.map (·.now)).Pairwise (· < ·)
  behind : ∀ guard, task.loopGuard = some guard → ∀ call ∈ calls, guard.time < call.now

/-- What a task in the pool shows of `count` failures: at most `fresh` of them without a remedy, or at most
`behind` of them as attempts behind it. -/
inductive Shows (fresh behind count : Nat) (task : Task) : Prop where
  | unguarded : task.loopGuard = none → count ≤ fresh → count ≤ task.attempts.length → Shows fresh behind count task
  | remedied (guard : GuardRecord) (earlier recent : List Attempt) : task.loopGuard = some guard →
      task.attempts = earlier ++ recent → (∀ attempt ∈ recent, guard.time < attempt.time) → recent.length ≤ behind →
      count ≤ 6 + recent.length → Shows fresh behind count task

variable {texts : Texts} {data : Data} {call : LedgerCall} {calls : List LedgerCall} {id count : Nat}
  {task moved : Task}

theorem Shows.bounded (shows_ : Shows 5 2 count task) : count ≤ 8 := by
  cases shows_ with
  | unguarded _ few => omega
  | remedied guard earlier recent _ _ _ few bound => omega

/-! ## Recording -/

theorem lastOf_append {α : Type} (size : Nat) (earlier recent : List α) (fits : recent.length ≤ size) :
    ∃ kept, lastOf size (earlier ++ recent) = kept ++ recent := by
  unfold lastOf
  rw [List.length_append, List.drop_append_of_le_length (by omega)]
  exact ⟨_, rfl⟩

theorem length_lastOf {α : Type} (size : Nat) (items : List α) : (lastOf size items).length = min size items.length := by
  unfold lastOf
  rw [List.length_drop]
  omega

/-- A recorded attempt is one failure more. -/
theorem shows_recorded {kind note : String} {now : Time} (shows_ : Shows 5 2 count task)
    (later : ∀ guard, task.loopGuard = some guard → guard.time < now)
    (attempts : moved.attempts = (record texts task note kind now).attempts) (guard : moved.loopGuard = task.loopGuard) :
    Shows 6 3 (count + 1) moved := by
  cases shows_ with
  | unguarded absent few known =>
    apply Shows.unguarded (guard.trans absent)
    · omega
    · rw [attempts, record, length_lastOf, List.length_append, List.length_singleton, historySize]
      omega
  | remedied there earlier recent known parts newer few bound =>
    have fits : (recent ++ [attempt texts task note kind now]).length ≤ historySize := by
      rw [List.length_append, List.length_singleton, historySize]
      omega
    obtain ⟨kept, last⟩ := lastOf_append historySize earlier (recent ++ [attempt texts task note kind now]) fits
    apply Shows.remedied there kept (recent ++ [attempt texts task note kind now]) (guard.trans known)
    · rw [attempts, ← last, record, parts, List.append_assoc]
    · intro other member
      rcases List.mem_append.mp member with old | new
      · exact newer other old
      · cases List.mem_singleton.mp new
        exact later there known
    · rw [List.length_append, List.length_singleton]
      omega
    · rw [List.length_append, List.length_singleton]
      omega

/-! ## The verdict at a triage -/

theorem verdict_none {failing : Task → List String} {others : List Task}
    (silent : verdict texts failing task others = none) :
    (task.loopGuard = none → task.attempts.length ≤ 5) ∧
      ∀ guard, task.loopGuard = some guard → (recentOf guard task.attempts).length ≤ 2 := by
  unfold verdict at silent
  split at silent
  · next bare =>
    rw [List.getLast?_eq_none_iff] at bare
    rw [bare]
    exact ⟨fun _ => Nat.zero_le 5, fun guard _ => Nat.zero_le 2⟩
  · dsimp only at silent
    split at silent
    · cases silent
    · split at silent
      · next guard known =>
        split at silent
        · cases silent
        · next patient =>
          rw [not_or] at patient
          refine ⟨fun absent => (by cases known.symm.trans absent), fun other there => ?_⟩
          cases known.symm.trans there
          have few := patient.2
          simp only [afterRemedyAttempts] at few
          omega
      · next absent =>
        split at silent
        · cases silent
        · split at silent
          · cases silent
          · next few =>
            simp only [maxAttempts] at few
            exact ⟨fun _ => by omega, fun guard there => by cases absent.symm.trans there⟩

/-- A remedy is given once. -/
theorem verdict_remediate {failing : Task → List String} {others : List Task} {verdict : Verdict}
    {instruction : String} (told : LoopGuard.verdict texts failing task others = some verdict)
    (remedy : verdict.action = .remediate instruction) : task.loopGuard = none := by
  unfold LoopGuard.verdict at told
  split at told
  · cases told
  · dsimp only at told
    split at told
    · cases told
      cases remedy
    · split at told
      · split at told
        · cases told
          cases remedy
        · cases told
      · next absent => exact absent

/-- A triage takes the task out of the pool, gives it its one remedy, or finds no loop in it. -/
theorem triaged_cases (around : Surroundings) (now : Time) (others : List Task) (task : Task) :
    ((triaged texts around now others task).status = .escalated ∨
        (triaged texts around now others task).phase = "needs_claude") ∨
      ((triaged texts around now others task).attempts = task.attempts ∧
        (((triaged texts around now others task).loopGuard = task.loopGuard ∧ Unlooped texts around others task) ∨
          (task.loopGuard = none ∧
            ∃ guard, (triaged texts around now others task).loopGuard = some guard ∧ guard.time = now))) := by
  have move := triaged_move texts around now others task
  generalize triaged texts around now others task = moved at move ⊢
  cases move with
  | kept silent => exact .inr ⟨rfl, .inl ⟨rfl, silent⟩⟩
  | remediated _ told remedy => exact .inr ⟨rfl, .inr ⟨verdict_remediate told remedy, _, rfl, rfl⟩⟩
  | diagnosed record =>
    rcases escalate_left record _ now _ with escalated | ⟨-, phase⟩
    · exact .inl (.inl escalated)
    · exact .inl (.inr phase)
  | requeued silent => exact .inr ⟨rfl, .inl ⟨rfl, silent⟩⟩
  | exhausted record =>
    rcases escalate_left record _ now task with escalated | ⟨-, phase⟩
    · exact .inl (.inl escalated)
    · exact .inl (.inr phase)
  | escalated silent =>
    obtain ⟨-, -, attempts, guard⟩ := triageEscalated_frame around now task
    exact .inr ⟨attempts, .inl ⟨guard, silent⟩⟩
  | decided silent =>
    obtain ⟨-, -, attempts, guard, -⟩ := triageDecision_frame now task
    exact .inr ⟨attempts, .inl ⟨guard, silent⟩⟩

/-- Where the task is left in the pool, with what it then shows. -/
structure Onward (count : Nat) (task : Task) (now : Time) (moved : Task) : Prop where
  shows_ : Shows 5 2 count moved
  guard : ∀ guard, moved.loopGuard = some guard → task.loopGuard = some guard ∨ guard.time = now

theorem Shows.same {fresh behind : Nat} (shows_ : Shows fresh behind count task)
    (attempts : moved.attempts = task.attempts) (guard : moved.loopGuard = task.loopGuard) :
    Shows fresh behind count moved := by
  cases shows_ with
  | unguarded absent few known => exact .unguarded (guard.trans absent) few (attempts ▸ known)
  | remedied there earlier recent known parts newer few bound =>
    exact .remedied there earlier recent (guard.trans known) (attempts.trans parts) newer few bound

theorem onward_same (shows_ : Shows 5 2 count task) (now : Time) (attempts : moved.attempts = task.attempts)
    (guard : moved.loopGuard = task.loopGuard) : Onward count task now moved :=
  ⟨shows_.same attempts guard, fun _ there => .inl (guard ▸ there)⟩

theorem onward_remedied (now : Time) {guard : GuardRecord} (bound : count ≤ 6) (there : moved.loopGuard = some guard)
    (stamped : guard.time = now) : Onward count task now moved := by
  constructor
  · apply Shows.remedied guard moved.attempts [] there (List.append_nil _).symm
    · intro attempt member
      cases member
    · exact Nat.zero_le 2
    · exact bound
  · intro other found
    cases there.symm.trans found
    exact .inr stamped

/-- Without a remedy the failures are at most as many as were allowed. -/
theorem Shows.unremedied {fresh behind : Nat} (shows_ : Shows fresh behind count task)
    (absent : task.loopGuard = none) : count ≤ fresh := by
  cases shows_ with
  | unguarded _ few => exact few
  | remedied there _ _ known => cases absent.symm.trans known

theorem triaged_onward (shows_ : Shows 5 2 count task) (around : Surroundings) (now : Time) (others : List Task) :
    ((triaged texts around now others task).status = .escalated ∨
        (triaged texts around now others task).phase = "needs_claude") ∨
      Onward count task now (triaged texts around now others task) := by
  rcases triaged_cases around now others task with left | ⟨attempts, ⟨guard, -⟩ | ⟨absent, guard, there, stamped⟩⟩
  · exact .inl left
  · exact .inr (onward_same shows_ now attempts guard)
  · have few := shows_.unremedied absent
    exact .inr (onward_remedied now (by omega) there stamped)

/-- The triage behind a failure. -/
theorem triaged_failed (shows_ : Shows 6 3 count task) (guardable : Guardable task) (around : Surroundings)
    (now : Time) (others : List Task) :
    ((triaged texts around now others task).status = .escalated ∨
        (triaged texts around now others task).phase = "needs_claude") ∨
      Onward count task now (triaged texts around now others task) := by
  rcases triaged_cases around now others task with left | ⟨attempts, ⟨guard, silent⟩ | ⟨absent, guard, there, stamped⟩⟩
  · exact .inl left
  · right
    obtain ⟨unguarded, guarded⟩ := verdict_none (silent guardable)
    apply onward_same _ now attempts guard
    cases shows_ with
    | unguarded absent few known =>
      have spare := unguarded absent
      exact .unguarded absent (by omega) known
    | remedied there earlier recent known parts newer few bound =>
      apply Shows.remedied there earlier recent known parts newer _ bound
      have spare := guarded there known
      rw [recentOf, parts, List.filter_append, List.length_append,
        List.filter_eq_self.mpr fun attempt member => decide_eq_true (newer attempt member)] at spare
      omega
  · exact .inr (onward_remedied now (shows_.unremedied absent) there stamped)

/-! ## One operation -/

/-- A failure is recorded, and the guard looks at what it leaves. -/
theorem fails_step (texts : Texts) (fails : FailsRun data call id) (found : data.get? id = some task) (shows_ : Shows 5 2 count task)
    (later : ∀ guard, task.loopGuard = some guard → guard.time < call.now) :
    ∃ moved, (step texts call data).2.get? id = some moved ∧ Shows 6 3 (count + 1) moved ∧ Guardable moved ∧
      moved.loopGuard = task.loopGuard := by
  obtain ⟨operation, now⟩ := call
  cases operation with
  | finish target status artifact note =>
    obtain ⟨rfl, rfl⟩ := fails
    refine ⟨_, finish_step rfl found, shows_recorded shows_ later rfl rfl, ⟨.inl rfl, ?_⟩, rfl⟩
    simp [finished]
  | finishReview target decision artifact note =>
    obtain ⟨rfl, blocked⟩ := fails
    have made : reviewFinished texts decision artifact note now task =
        { record texts task note "review" now with
          status := .blocked
          reviewDecision := some decision
          reviewArtifact := artifact
          note
          phase := "review_finished"
          heartbeatAt := some now
          updatedAt := now } := by
      unfold reviewFinished
      simp only [blocked, if_true]
    refine ⟨_, finishReview_step rfl found, ?_⟩
    rw [made]
    exact ⟨shows_recorded shows_ later rfl rfl, ⟨.inl rfl, by simp⟩, rfl⟩
  | requeueStale staleAfterSeconds note =>
    obtain ⟨other, stored, named, stale⟩ := fails
    have same := data.tasks.get?_key stored
    change data.get? other.id = some other at same
    rw [named, found] at same
    cases same
    refine ⟨_, requeueStale_step rfl found stale, shows_recorded shows_ later rfl rfl, ⟨?_, ?_⟩, rfl⟩
    · unfold requeued
      dsimp only
      split <;> simp
    · simp [requeued]
  | _ => exact fails.elim

/-- An operation without a failure leaves the count as it is. -/
theorem quiet_step (texts : Texts) (quiet : ¬ FailsRun data call id) (found : data.get? id = some task) (shows_ : Shows 5 2 count task) :
    ∃ moved, (step texts call data).2.get? id = some moved ∧
      ((moved.status = .escalated ∨ moved.phase = "needs_claude") ∨ Onward count task call.now moved) := by
  obtain ⟨moved, reached, moves⟩ := step_moved texts call found
  refine ⟨moved, reached, ?_⟩
  have named := Data.named found
  cases moves with
  | triaged others called => exact triaged_onward shows_ _ _ _
  | @finished status artifact note called =>
    have passed : status ≠ .blocked := by
      rintro rfl
      apply quiet
      unfold FailsRun
      rw [called]
      exact ⟨named, rfl⟩
    refine .inr (onward_same shows_ _ ?_ ?_) <;> simp only [finished, if_neg passed]
  | @reviewFinished decision artifact note called =>
    have passed : reviewedStatus decision ≠ .blocked := by
      intro blocked
      apply quiet
      unfold FailsRun
      rw [called]
      exact ⟨named, blocked⟩
    refine .inr (onward_same shows_ _ ?_ ?_) <;> simp only [reviewFinished, if_neg passed]
  | requeued called stale =>
    refine absurd ?_ quiet
    unfold FailsRun
    rw [called]
    exact ⟨task, Table.mem_of_get? found, named, stale⟩
  | @landed landing limit called reviewed =>
    refine .inr (onward_same shows_ _ ?_ ?_)
    · unfold landedTask
      split
      · rfl
      · split <;> rfl
    · unfold landedTask
      split
      · rfl
      · split <;> rfl
  | @operated action reason change called idle allowed =>
    refine .inr (onward_same shows_ _ ?_ ?_)
    · cases action <;> simp only [operatorChange] at allowed <;> try split at allowed
      all_goals cases allowed
      all_goals rfl
    · cases action <;> simp only [operatorChange] at allowed <;> try split at allowed
      all_goals cases allowed
      all_goals rfl
  | annotated | claimed | reviewClaimed | reopened => exact .inr (onward_same shows_ _ rfl rfl)

/-! ## A run -/

theorem Leaves.of_left (left : Left data id) : Leaves texts id data calls := by
  cases calls with
  | nil => exact left
  | cons call rest => exact .inl left

theorem triage_first (next : triageNext calls = true) :
    ∃ around now later, calls = ⟨.runTriage around, now⟩ :: later := by
  unfold triageNext at next
  split at next
  · exact ⟨_, _, _, rfl⟩
  · cases next

/-- What a run has still to meet: a task in the pool, or a failure with the triage behind it. -/
inductive Meets (count : Nat) (task : Task) : List LedgerCall → Prop where
  | resting {calls : List LedgerCall} : Shows 5 2 count task → Meets count task calls
  | failed {around : Surroundings} {now : Time} {later : List LedgerCall} : Shows 6 3 count task → Guardable task →
      Meets count task (⟨.runTriage around, now⟩ :: later)

theorem ticking_rest {rest : List LedgerCall} (ticking : Ticking task (call :: rest))
    (guard : ∀ guard, moved.loopGuard = some guard → task.loopGuard = some guard ∨ guard.time = call.now) :
    Ticking moved rest := by
  obtain ⟨first, increases⟩ := List.pairwise_cons.mp ticking.increases
  refine ⟨increases, fun there known later member => ?_⟩
  rcases guard there known with old | stamped
  · exact ticking.behind there old later (List.mem_cons_of_mem _ member)
  · rw [stamped]
    exact first later.now (List.mem_map_of_mem member)

theorem leaves_run (found : data.get? id = some task) (meets : Meets count task calls) (ticking : Ticking task calls)
    (checked : Triaged texts id data calls) (lands : Lands texts id data calls)
    (many : 9 ≤ count + failures texts id data calls) : Leaves texts id data calls := by
  induction calls generalizing data task count with
  | nil =>
    cases meets with
    | resting shows_ =>
      have bound := shows_.bounded
      simp only [failures] at many
      omega
  | cons call rest ih =>
    obtain ⟨follows, checked⟩ := checked
    obtain ⟨landed, lands⟩ := lands
    right
    simp only [failures, landed, or_false] at many
    cases meets with
    | resting shows_ =>
      by_cases fails : FailsRun data call id
      · obtain ⟨moved, reached, another, guardable, guard⟩ := fails_step texts fails found shows_
          fun there known => ticking.behind there known call List.mem_cons_self
        have still := ticking_rest ticking fun there known => .inl (guard ▸ known)
        obtain ⟨around, now, later, rfl⟩ := triage_first (follows (.inl fails))
        rw [if_pos fails] at many
        exact ih reached (.failed another guardable) still checked lands (by omega)
      · obtain ⟨moved, reached, left | onward⟩ := quiet_step texts fails found shows_
        · exact .of_left ⟨moved, reached, left⟩
        · rw [if_neg fails, Nat.zero_add] at many
          exact ih reached (.resting onward.shows_) (ticking_rest ticking onward.guard) checked lands many
    | @failed around now later another guardable =>
      obtain ⟨others, reached⟩ : ∃ others, (step texts ⟨.runTriage around, now⟩ data).2.get? id =
          some (triaged texts around now others task) := runTriage_step rfl found
      rcases triaged_failed another guardable around now others with left | onward
      · exact .of_left ⟨_, reached, left⟩
      · have quiet : ¬ FailsRun data ⟨.runTriage around, now⟩ id := fun fails => fails
        rw [if_neg quiet, Nat.zero_add] at many
        exact ih reached (.resting onward.shows_) (ticking_rest ticking onward.guard) checked lands many

/-- The ninth failure of a task whose reviewed patches land takes it out of the pool, whatever else runs. -/
theorem ninth_failure_leaves (texts : Texts) (start : Data) (id : Nat) (task : Task) (calls : List LedgerCall)
    (found : start.get? id = some task) (ticking : Ticking task calls) (checked : Triaged texts id start calls)
    (many : maxAttempts + afterRemedyAttempts ≤ failures texts id start calls)
    (lands : Lands texts id start calls) : Leaves texts id start calls := by
  -- the guard that the task starts with has some of the outcomes behind it
  have meets : Meets 0 task calls := by
    apply Meets.resting
    cases known : task.loopGuard with
    | none => exact .unguarded known (Nat.zero_le 5) (Nat.zero_le _)
    | some guard =>
      exact .remedied guard task.attempts [] known (List.append_nil _).symm (fun _ member => by cases member)
        (Nat.zero_le 2) (Nat.zero_le _)
  apply leaves_run found meets ticking checked lands
  rw [Nat.zero_add]
  exact many

def queuedTaskOne : Data := ledger plainTexts .empty [⟨.enqueue "title" "prompt" "M1" 50, 0⟩]

def nineBlocked : List LedgerCall :=
  (List.range 9).flatMap fun n => [⟨.finish 1 .blocked "" "", 2 * n + 1⟩, ⟨.runTriage quietSurroundings, 2 * n + 2⟩]

theorem ninth_failure_leaves_blocked : Leaves plainTexts 1 queuedTaskOne nineBlocked := by
  have observed : (queuedTaskOne.get? 1).map (·.loopGuard) = some none := by decide +kernel
  obtain ⟨task, found, unguarded⟩ := Option.map_eq_some_iff.mp observed
  have ticking : Ticking task nineBlocked :=
    ⟨by decide +kernel, fun guard known => by cases unguarded.symm.trans known⟩
  exact ninth_failure_leaves plainTexts queuedTaskOne 1 task nineBlocked found ticking (by decide +kernel)
    (by decide +kernel) (by decide +kernel)

/-! A task whose reviewed patch never applies to HEAD any more. -/

def baseMoving : Landing := ⟨fun _ => true, fun _ => .baseMoved "patch does not apply"⟩

def nineUnlanded : List LedgerCall :=
  (List.range 9).flatMap fun n =>
    [⟨.claim "local-impl-1" "local-impl" 2, 6 * n + 1⟩,
      ⟨.finish 1 .needsReview "task-1.patch" "", 6 * n + 2⟩,
      ⟨.claimReview "local-review-1" 2, 6 * n + 3⟩,
      ⟨.finishReview 1 "pass" "task-1.md" "", 6 * n + 4⟩,
      ⟨.landReviewed baseMoving 2, 6 * n + 5⟩,
      ⟨.runTriage quietSurroundings, 6 * n + 6⟩]

theorem unlanded_stays : ¬ ∀ texts start id task calls, start.get? id = some task → Ticking task calls →
    Triaged texts id start calls → maxAttempts + afterRemedyAttempts ≤ failures texts id start calls →
      Leaves texts id start calls := by
  intro leaves
  have observed : (queuedTaskOne.get? 1).map (·.loopGuard) = some none := by decide +kernel
  obtain ⟨task, found, unguarded⟩ := Option.map_eq_some_iff.mp observed
  have ticking : Ticking task nineUnlanded :=
    ⟨by decide +kernel, fun guard known => by cases unguarded.symm.trans known⟩
  have left := leaves plainTexts queuedTaskOne 1 task nineUnlanded found ticking (by decide +kernel) (by decide +kernel)
  revert left
  decide +kernel

end AiStore.ControlPlane
