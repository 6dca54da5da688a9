import AiStore.Pipeline.Machine

/-! The fix budget of a task whose model calls are throttled. -/

set_option autoImplicit false

namespace AiStore.Pipeline

open Library

/-- The failures that the verifications have seen. -/
def Run.failures (run : Run) : Nat := run.outcomes.countP Option.isSome

/-- A fix round is under way. -/
def Point.fixing (point : Point) : Prop := point = .fixModel ∨ point = .fixDone

/-- No throttle at all: no step goes back to the queue. -/
def Run.Unthrottled : Task → Option Edit → List Event → Prop := Run.Spares fun _ => True

/-- What throttles must not change about the fix budget. -/
structure BudgetLaw (task : Task) (prepared : Option Edit) (events : List Event) : Prop where
  bounded : (Run.after task prepared events).completed ≤ task.maxFixRounds
  spent : (Run.after task prepared events).point = .failed .exhausted →
    (Run.after task prepared events).completed = task.maxFixRounds
  unchanged : ∀ others, (∀ event ∈ others, event ≠ .crash) → Run.Unthrottled task prepared others →
    (Run.after task prepared others).outcomes = (Run.after task prepared events).outcomes →
      ((Run.after task prepared others).point = .failed .exhausted ↔
        (Run.after task prepared events).point = .failed .exhausted) ∧
      ((Run.after task prepared others).point = .verifyTests → (Run.after task prepared events).point = .verifyTests →
        (Run.after task prepared others).completed = (Run.after task prepared events).completed)

variable {task : Task} {run : Run} {prepared : Option Edit} {events : List Event}

theorem Run.budget_rounds {after : Run} (same : after.budget = run.budget) :
    after.checkpoint.fixRounds = run.checkpoint.fixRounds ∧ after.completed = run.completed ∧
      after.failures = run.failures := by
  simp only [Run.budget, Prod.mk.injEq] at same
  exact ⟨same.1, same.2.2.2.1, congrArg (List.countP Option.isSome) same.2.2.2.2⟩

theorem Run.verdict_cases (task : Task) (run : Run) (digest : String) :
    (run.verdict task digest = .failed .exhausted ∧ task.maxFixRounds ≤ run.checkpoint.fixRounds) ∨
      (run.verdict task digest = .failed .stalled ∧ run.checkpoint.fixRounds < task.maxFixRounds) ∨
      (run.verdict task digest = .fixSave digest ∧ run.checkpoint.fixRounds < task.maxFixRounds) := by
  unfold Run.verdict
  split
  · exact .inl ⟨rfl, by assumption⟩
  · next within =>
    split
    · exact .inr (.inl ⟨rfl, Nat.lt_of_not_le within⟩)
    · exact .inr (.inr ⟨rfl, Nat.lt_of_not_le within⟩)

theorem Run.crash_cases (run : Run) : run.crash = run ∨ run.crash.point = .queued := by
  unfold Run.crash
  split
  · exact .inl rfl
  · exact .inl rfl
  · exact .inr rfl

/-! ## Whatever happens -/

/-- The counters are within the budget. -/
structure Within (task : Task) (run : Run) : Prop where
  rounds : run.checkpoint.fixRounds ≤ task.maxFixRounds
  completed : run.completed ≤ run.checkpoint.fixRounds
  fixing : run.point.fixing → run.completed < run.checkpoint.fixRounds
  saving : ∀ digest, run.point = .fixSave digest → run.checkpoint.fixRounds < task.maxFixRounds

/-- Where no counter has moved and no fix round is under way, the budget is kept. -/
theorem Within.moved {after : Run} (within : Within task run) (same : after.budget = run.budget)
    (outside : ¬ after.point.fixing) (unsaved : ∀ digest, after.point ≠ .fixSave digest) : Within task after := by
  obtain ⟨rounds, completed, -⟩ := Run.budget_rounds same
  refine ⟨?_, ?_, fun inside => absurd inside outside, fun digest inside => absurd inside (unsaved digest)⟩
  · rw [rounds]
    exact within.rounds
  · rw [rounds, completed]
    exact within.completed

theorem Within.advance (within : Within task run) (reply : Reply) : Within task (run.advance task reply) := by
  cases here : run.point
  case verifyTests =>
    simp only [Run.advance, here]
    split
    · cases reply.tests with
      | none => exact ⟨within.rounds, within.completed, by simp [Point.fixing], by simp⟩
      | some digest =>
        refine ⟨within.rounds, within.completed, ?_, ?_⟩
        · rcases run.verdict_cases task digest with ⟨same, -⟩ | ⟨same, -⟩ | ⟨same, -⟩ <;> simp [same, Point.fixing]
        · rcases run.verdict_cases task digest with ⟨same, -⟩ | ⟨same, -⟩ | ⟨same, room⟩
          · simp [same]
          · simp [same]
          · exact fun _ _ => room
    · exact within.moved rfl (by simp [Run.fail, Point.fixing]) (by simp [Run.fail])
  case fixSave digest =>
    have room := within.saving digest here
    simp only [Run.advance, here]
    exact ⟨room, Nat.le_succ_of_le within.completed, fun _ => Nat.lt_succ_of_le within.completed, by simp⟩
  case fixModel =>
    have started := within.fixing (.inl here)
    simp only [Run.advance, here]
    cases reply.call with
    | done edit => exact ⟨within.rounds, within.completed, fun _ => started, by simp [Run.call]⟩
    | throttled edit => exact within.moved rfl (by simp [Run.call, Point.fixing]) (by simp [Run.call])
    | failed edit => exact within.moved rfl (by simp [Run.call, Point.fixing]) (by simp [Run.call])
  case fixDone =>
    have started := within.fixing (.inr here)
    simp only [Run.advance, here]
    split
    · exact within.moved rfl (by simp [Run.fail, Point.fixing]) (by simp [Run.fail])
    · exact ⟨within.rounds, started, by simp [Point.fixing], by simp⟩
  case failed => simpa only [Run.advance, here] using within
  -- all other effects leave the counters alone and begin no round
  all_goals
    have elsewhere : run.point.counting = false := by rw [here]; rfl
    have plain : (run.advance task reply).point.plain = true := Run.plain_advance reply elsewhere
    refine within.moved (Run.budget_advance reply elsewhere) ?_ ?_
    · rintro (inside | inside) <;> rw [inside] at plain <;> cases plain
    · intro digest inside
      rw [inside] at plain
      cases plain

theorem Within.step (within : Within task run) (event : Event) : Within task (run.step task event) := by
  cases event with
  | go reply => exact within.advance reply
  | crash =>
    rcases run.crash_cases with same | queued
    · rw [Run.step, same]
      exact within
    · exact within.moved Run.budget_crash (by simp [Run.step, queued, Point.fixing]) (by simp [Run.step, queued])

theorem within_start : Within task (Run.start task prepared) :=
  ⟨Nat.zero_le _, Nat.le_refl _, by simp [Run.start, Point.fixing], by simp [Run.start]⟩

theorem within_after (events : List Event) : Within task (Run.after task prepared events) :=
  final_invariant (Within task) within_start fun event _ _ within => within.step event

/-! ## Throttles outside the fix rounds -/

/-- Every failure seen has led to a fix round that has been completed, but for the one at hand. -/
def Counted (task : Task) (run : Run) : Prop := match run.point with
  | .fixSave _ | .failed .stalled =>
      run.completed = run.checkpoint.fixRounds ∧ run.failures = run.checkpoint.fixRounds + 1 ∧
        run.checkpoint.fixRounds < task.maxFixRounds
  | .fixModel | .fixDone =>
      run.completed + 1 = run.checkpoint.fixRounds ∧ run.failures = run.checkpoint.fixRounds ∧
        run.checkpoint.fixRounds ≤ task.maxFixRounds
  | .failed .exhausted =>
      run.completed = run.checkpoint.fixRounds ∧ run.failures = run.checkpoint.fixRounds + 1 ∧
        run.checkpoint.fixRounds = task.maxFixRounds
  | .failed _ => run.failures ≤ task.maxFixRounds
  | _ =>
      run.completed = run.checkpoint.fixRounds ∧ run.failures = run.checkpoint.fixRounds ∧
        run.checkpoint.fixRounds ≤ task.maxFixRounds

/-- At every point outside the fix rounds. -/
theorem Counted.plain (even : run.completed = run.checkpoint.fixRounds ∧ run.failures = run.checkpoint.fixRounds ∧
    run.checkpoint.fixRounds ≤ task.maxFixRounds) (plain : run.point.plain = true) : Counted task run := by
  unfold Counted
  split <;> rename_i here <;> try (rw [here] at plain; cases plain)
  · rw [even.2.1]
    exact even.2.2
  · exact even

theorem Counted.even (counted : Counted task run) (elsewhere : run.point.counting = false) :
    run.completed = run.checkpoint.fixRounds ∧ run.failures = run.checkpoint.fixRounds ∧
      run.checkpoint.fixRounds ≤ task.maxFixRounds := by
  unfold Counted at counted
  split at counted <;> rename_i here <;> try (rw [here] at elsewhere; cases elsewhere)
  exact counted

/-- Inside a round, one failure has been seen for each round begun, and all rounds but this one are completed. -/
theorem Counted.begun (counted : Counted task run) (inside : run.point.fixing) :
    run.completed + 1 = run.checkpoint.fixRounds ∧ run.failures = run.checkpoint.fixRounds ∧
      run.checkpoint.fixRounds ≤ task.maxFixRounds := by
  rcases inside with here | here <;> simpa only [Counted, here] using counted

theorem Run.failures_seen (outcome : Option String) (next : Point) :
    ({ run with outcomes := run.outcomes ++ [outcome], point := next } : Run).failures =
      run.failures + if outcome.isSome then 1 else 0 := by
  simp only [Run.failures, List.countP_append, List.countP_singleton]

theorem Counted.advance (counted : Counted task run) (reply : Reply)
    (spared : run.point.fixing → (run.advance task reply).point ≠ .queued) : Counted task (run.advance task reply) := by
  cases here : run.point
  case verifyTests =>
    have even : run.completed = run.checkpoint.fixRounds ∧ run.failures = run.checkpoint.fixRounds ∧
        run.checkpoint.fixRounds ≤ task.maxFixRounds := by simpa only [Counted, here] using counted
    simp only [Run.advance, here]
    split
    · cases reply.tests with
      | none =>
        refine Counted.plain ⟨even.1, ?_, even.2.2⟩ rfl
        rw [Run.failures_seen]
        exact even.2.1
      | some digest =>
        have seen := run.failures_seen (some digest) (run.verdict task digest)
        rw [even.2.1] at seen
        rcases run.verdict_cases task digest with ⟨same, spent⟩ | ⟨same, room⟩ | ⟨same, room⟩ <;>
          simp only [Counted, same] at seen ⊢
        -- exhausted: as many rounds completed as the budget has, and one failure more
        · exact ⟨even.1, seen, Nat.le_antisymm even.2.2 spent⟩
        · exact ⟨even.1, seen, room⟩
        · exact ⟨even.1, seen, room⟩
    · exact Counted.plain even rfl
  case fixSave digest =>
    have saved : run.completed = run.checkpoint.fixRounds ∧ run.failures = run.checkpoint.fixRounds + 1 ∧
        run.checkpoint.fixRounds < task.maxFixRounds := by simpa only [Counted, here] using counted
    simp only [Run.advance, here]
    exact ⟨congrArg (· + 1) saved.1, saved.2.1, saved.2.2⟩
  case fixModel =>
    have begun := counted.begun (.inl here)
    have kept := spared (.inl here)
    simp only [Run.advance, here] at kept ⊢
    cases replied : reply.call with
    | done edit => exact begun
    | throttled edit =>
      -- throttled inside the round, which is what the run spares
      rw [replied] at kept
      exact absurd rfl kept
    | failed edit =>
      have room : run.failures ≤ task.maxFixRounds := Nat.le_trans (Nat.le_of_eq begun.2.1) begun.2.2
      exact room
  case fixDone =>
    have begun := counted.begun (.inr here)
    simp only [Run.advance, here]
    split
    · have room : run.failures ≤ task.maxFixRounds := Nat.le_trans (Nat.le_of_eq begun.2.1) begun.2.2
      exact room
    · exact begun
  case failed => simpa only [Run.advance, here] using counted
  -- all other effects keep the counters even
  all_goals
    have elsewhere : run.point.counting = false := by rw [here]; rfl
    have same : (run.advance task reply).budget = run.budget := Run.budget_advance reply elsewhere
    obtain ⟨rounds, completed, failures⟩ := Run.budget_rounds same
    refine Counted.plain ?_ (Run.plain_advance reply elsewhere)
    rw [rounds, completed, failures]
    exact counted.even elsewhere

theorem counted_after (uncrashed : ∀ event ∈ events, event ≠ .crash)
    (spares : Run.Spares Point.fixing task prepared events) : Counted task (Run.after task prepared events) := by
  -- `Counted` along the run, which has no crash and spares the fix rounds
  apply run_induction fun events => Counted task (Run.after task prepared events)
  · exact ⟨rfl, rfl, Nat.zero_le _⟩
  · intro before event rest split counted
    rw [Run.after_concat]
    cases event with
    | go reply => exact counted.advance reply (spares.step split)
    | crash => exact absurd rfl (uncrashed .crash (by simp [split]))

theorem Counted.exhausted_iff (counted : Counted task run) :
    run.point = .failed .exhausted ↔ run.failures = task.maxFixRounds + 1 := by
  unfold Counted at counted
  split at counted <;> rename_i here
  -- only an exhausted run has seen more failures than the budget has rounds
  case h_1 => simp only [here, reduceCtorEq, false_iff]; omega
  case h_2 => simp only [here, Point.failed.injEq, reduceCtorEq, false_iff]; omega
  case h_3 => simp only [here, reduceCtorEq, false_iff]; omega
  case h_4 => simp only [here, reduceCtorEq, false_iff]; omega
  case h_5 => simp only [here, true_iff]; omega
  case h_6 unspent =>
    have apart : run.point ≠ .failed .exhausted := by
      rintro same
      rw [same] at here
      exact unspent (Point.failed.inj here.symm)
    simp only [apart, false_iff]
    omega
  case h_7 =>
    have apart : run.point ≠ .failed .exhausted := by assumption
    simp only [apart, false_iff]
    omega

theorem Counted.spent (counted : Counted task run) (exhausted : run.point = .failed .exhausted) :
    run.completed = task.maxFixRounds := by
  rw [Counted, exhausted] at counted
  exact counted.1.trans counted.2.2

theorem Counted.verifying (counted : Counted task run) (here : run.point = .verifyTests) :
    run.completed = run.failures := by
  rw [Counted, here] at counted
  exact counted.1.trans counted.2.1.symm

/-- A task whose checks all pass. -/
def easyTask (maxFixRounds : Nat) : Task where
  base := ⟨none, []⟩
  fresh := rfl
  maxFixRounds
  push := false
  listsIds _ := true
  guardDiff _ _ := true
  securityScan _ := true

def answer (call : CallReply) : Event := .go ⟨call, none, true⟩

def written : CallReply := .done ⟨some "spec", [("pkg/a.py", "1")]⟩

def throttle : CallReply := .throttled ⟨some "spec", [("pkg/a.py", "1")]⟩

/-- From the queue to a verification that fails. -/
def failingRun : List Event := List.replicate 10 (answer written) ++ [.go ⟨written, some "digest", true⟩]

end AiStore.Pipeline
