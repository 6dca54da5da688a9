import Mathlib.Data.List.Induction
import AiStore.ControlPlane.Operations

/-! Tasks that a triage has left to Claude Code.

The phase keeps the loop guard off such a task. `requeue_blocked` does not look at
the phase, and the triage still reads the note for a mechanical remedy.
-/

set_option autoImplicit false

namespace AiStore.ControlPlane

open Library

section

variable (texts : Texts)

/-- A task that waits for the senior model. -/
def AwaitsClaude (task : Task) : Prop := task.status = .blocked ∧ task.phase = "needs_claude"

/-- The steps that run on their own: the loop guard is part of a triage. -/
def Automatic (operation : Operation) : Prop :=
  match operation with
  | .runTriage _ | .requeueBlocked .. | .requeueStale .. => True
  | _ => False

/-- No state of a run shows the task as ready. -/
def StaysBlocked (start : Data) (calls : List LedgerCall) (id : Nat) : Prop :=
  ∀ before after, calls = before ++ after →
    ∀ task, (ledger texts start before).get? id = some task → task.status ≠ .ready

/-- The note has a mechanical remedy, or the task is among the first that have retries left and of which the
loop guard says nothing. -/
def Reopens (data : Data) (operation : Operation) (task : Task) : Prop :=
  match operation with
  | .runTriage around => (classify texts around task).2 ≠ none
  | .requeueBlocked failing limit maxRetries =>
      task ∈ ((reopenable texts failing maxRetries data).insertionSort fun first second => sooner first second).take limit
  | _ => False

end

variable {texts : Texts} {data start : Data} {call : LedgerCall} {calls : List LedgerCall} {id : Nat} {task : Task}

/-! ## One step -/

theorem requeueBlocked_step {failing : Task → List String} {limit : Nat} {maxRetries : Int}
    (called : call.operation = .requeueBlocked failing limit maxRetries) (found : data.get? id = some task) :
    (step texts call data).2.get? id = some
      (if task ∈ ((reopenable texts failing maxRetries data).insertionSort
          fun first second => sooner first second).take limit
        then reopened maxRetries call.now task else task) := by
  have named := Data.named found
  obtain ⟨middle, reached⟩ := Data.get?_edits (data.chosen_nodup _ limit) (fun _ => reopened maxRetries call.now)
    (fun _ _ => rfl) found
  have ran : step texts call data = (.ok (), (requeueBlocked texts failing limit maxRetries call.now data).2) := by
    apply step_ok
    rw [called]
    rfl
  rw [ran]
  refine reached.trans (congrArg some (if_congr ?_ rfl rfl))
  constructor
  · intro member
    obtain ⟨other, listed, same⟩ := List.mem_map.mp member
    have stored := (List.mem_filter.mp ((List.perm_insertionSort _ _).mem_iff.mp (List.mem_of_mem_take listed))).1
    have there := data.tasks.get?_key stored
    change data.get? other.id = some other at there
    rw [same, found] at there
    cases there
    exact listed
  · exact fun listed => List.mem_map.mpr ⟨task, listed, named⟩

theorem triaged_awaiting (texts : Texts) (around : Surroundings) (now : Time) (others : List Task)
    (awaits : AwaitsClaude task) :
    ((classify texts around task).2 = none → triaged texts around now others task = task) ∧
      ((classify texts around task).2 ≠ none → (triaged texts around now others task).status = .ready) := by
  have unguarded : loopGuard texts around now others task = none := by
    unfold loopGuard
    rw [if_pos]
    exact fun guardable => guardable.2 awaits.2
  have blocked : triaged texts around now others task = triageBlocked texts around now task := by
    simp only [triaged, unguarded, awaits.1, if_true]
  rw [blocked]
  unfold triageBlocked
  split
  · next cause remedy found =>
    rw [found]
    exact ⟨fun none_left => (by cases none_left), fun _ => rfl⟩
  · next cause found =>
    rw [found, if_neg fun exhausted => exhausted.2.1 awaits.2]
    exact ⟨fun _ => rfl, fun some_left => absurd rfl some_left⟩

/-- A step that does not reopen the task leaves it untouched, and the others make it ready. -/
theorem automatic_step (automatic : Automatic call.operation) (found : data.get? id = some task)
    (awaits : AwaitsClaude task) :
    (¬ Reopens texts data call.operation task → (step texts call data).2.get? id = some task) ∧
      (Reopens texts data call.operation task →
        ∃ moved, (step texts call data).2.get? id = some moved ∧ moved.status = .ready) := by
  obtain ⟨operation, now⟩ := call
  cases operation with
  | runTriage around =>
    obtain ⟨others, reached⟩ : ∃ others, (step texts ⟨.runTriage around, now⟩ data).2.get? id =
        some (triaged texts around now others task) := runTriage_step rfl found
    obtain ⟨kept, freed⟩ := triaged_awaiting texts around now others awaits
    constructor
    · intro still
      rw [reached, kept (not_not.mp still)]
    · exact fun reopens => ⟨_, reached, freed reopens⟩
  | requeueBlocked failing limit maxRetries =>
    have reached := @requeueBlocked_step texts data ⟨.requeueBlocked failing limit maxRetries, now⟩ id task failing
      limit maxRetries rfl found
    constructor
    · intro still
      rw [reached]
      exact congrArg some (if_neg still)
    · exact fun reopens => ⟨_, reached.trans (congrArg some (if_pos reopens)), rfl⟩
  | requeueStale staleAfterSeconds note =>
    refine ⟨fun _ => ?_, fun reopens => reopens.elim⟩
    obtain ⟨middle, reached⟩ := Data.get?_edits
      (data.filtered_nodup fun task => Stale (now - 1000000 * staleAfterSeconds) task)
      (fun _ => requeued texts note now) (fun _ _ => rfl) found
    refine reached.trans (congrArg some (if_neg fun member => ?_))
    have stale := of_decide_eq_true (Data.mem_filtered found member)
    rcases stale.1 with held | held
    · cases awaits.1.symm.trans held
    · cases awaits.1.symm.trans held
  | _ => exact automatic.elim

/-! ## A run -/

theorem untouched_run (automatic : ∀ call ∈ calls, Automatic call.operation) (found : start.get? id = some task)
    (awaits : AwaitsClaude task)
    (closed : ∀ before call after, calls = before ++ call :: after →
      ¬ Reopens texts (ledger texts start before) call.operation task) :
    (ledger texts start calls).get? id = some task := by
  apply Library.run_induction fun calls => (ledger texts start calls).get? id = some task
  · exact found
  · intro before call after split reached
    rw [ledger, final_concat]
    exact (automatic_step (automatic call (by simp [split])) reached awaits).1 (closed before call after split)

/-- A task that awaits Claude Code stays blocked exactly when no step of the run finds it open to it. -/
theorem stays_blocked_iff (texts : Texts) (start : Data) (calls : List LedgerCall) (id : Nat) (task : Task)
    (automatic : ∀ call ∈ calls, Automatic call.operation) (found : start.get? id = some task)
    (awaits : AwaitsClaude task) :
    StaysBlocked texts start calls id ↔
      ∀ before call after, calls = before ++ call :: after →
        ¬ Reopens texts (ledger texts start before) call.operation task := by
  constructor
  · intro stays
    -- on the calls: until the last one nothing has reopened the task, so it still awaits there
    induction calls using List.reverseRecOn with
    | nil =>
      intro before call after parts
      cases before <;> cases parts
    | append_singleton earlier last ih =>
      have closed := ih (fun other member => automatic other (List.mem_append_left _ member))
        fun before after parts => stays before (after ++ [last]) (by simp [parts])
      intro before call after parts reopens
      rcases List.eq_nil_or_concat after with rfl | ⟨rest, final, rfl⟩
      · obtain ⟨rfl, same⟩ := List.append_inj' parts rfl
        cases same
        have reached := untouched_run (fun other member => automatic other (List.mem_append_left _ member)) found
          awaits closed
        obtain ⟨moved, there, ready⟩ := (automatic_step (automatic last (by simp)) reached awaits).2 reopens
        refine stays (earlier ++ [last]) [] (by simp) moved ?_ ready
        rw [ledger, final_concat]
        exact there
      · rw [List.concat_eq_append, ← List.cons_append, ← List.append_assoc] at parts
        obtain ⟨same, -⟩ := List.append_inj' parts rfl
        exact closed before call rest same reopens
  · rintro closed before after rfl reached there ready
    have kept := untouched_run (fun other member => automatic other (List.mem_append_left _ member)) found awaits
      fun first call rest parts => closed first call (rest ++ after) (by simp [parts])
    cases kept.symm.trans there
    cases awaits.1.symm.trans ready

/-! A task whose holder is gone three times, so that the triage leaves it to Claude Code with its retries unspent. -/

def orphanedThrice : List LedgerCall :=
  ⟨.enqueue "title" "prompt" "M1" 50, 0⟩ ::
    ((List.range 3).flatMap fun n =>
      [⟨.claim "local-impl-1" "local-impl" 2, 400000000 * n⟩,
        ⟨.requeueStale 300 "supervisor requeued stale worker", 400000000 * n + 300000000⟩]) ++
    [⟨.runTriage quietSurroundings, 1200000000⟩]

theorem escalated_awaits : ∃ task, (ledger plainTexts .empty orphanedThrice).get? 1 = some task ∧ AwaitsClaude task := by
  have observed : ((ledger plainTexts .empty orphanedThrice).get? 1).map (fun task => (task.status, task.phase)) =
      some (.blocked, "needs_claude") := by decide +kernel
  obtain ⟨task, found, shown⟩ := Option.map_eq_some_iff.mp observed
  exact ⟨task, found, Prod.mk.inj shown⟩

theorem stays_blocked_unopened : StaysBlocked plainTexts (ledger plainTexts .empty orphanedThrice)
    [⟨.requeueStale 300 "supervisor requeued stale worker", 1200000001⟩] 1 := by
  obtain ⟨task, found, awaits⟩ := escalated_awaits
  generalize ledger plainTexts .empty orphanedThrice = start at found ⊢
  apply (stays_blocked_iff plainTexts start [⟨.requeueStale 300 "supervisor requeued stale worker", 1200000001⟩] 1 task
    (fun call member => by cases List.mem_singleton.mp member; trivial) found awaits).mpr
  intro before call after parts
  have member : call ∈ [LedgerCall.mk (.requeueStale 300 "supervisor requeued stale worker") 1200000001] := by
    rw [parts]
    exact List.mem_append_right _ List.mem_cons_self
  cases List.mem_singleton.mp member
  exact fun reopens => reopens

theorem escalated_reopened : ¬ ∀ texts start calls id task, (∀ call ∈ calls, Automatic call.operation) →
    start.get? id = some task → AwaitsClaude task → StaysBlocked texts start calls id := by
  intro sticky
  obtain ⟨task, found, awaits⟩ := escalated_awaits
  let retried : List LedgerCall := [⟨.requeueBlocked (fun _ => []) 2 3, 1200000001⟩]
  have automatic : ∀ call ∈ retried, Automatic call.operation := by
    intro call member
    cases List.mem_singleton.mp member
    trivial
  have stays := sticky plainTexts (ledger plainTexts .empty orphanedThrice) retried 1 task automatic found awaits
  have ready : ((ledger plainTexts (ledger plainTexts .empty orphanedThrice) retried).get? 1).map (·.status) =
      some .ready := by decide +kernel
  obtain ⟨moved, there, same⟩ := Option.map_eq_some_iff.mp ready
  exact stays retried [] rfl moved there same

end AiStore.ControlPlane
