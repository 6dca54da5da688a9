import Mathlib.Data.List.FinRange
import AiStore.ControlPlane.Operations
import AiStore.Library.ReadModifyWrite

/-! The operations as threads that share `tasks.json`.

All of them load the whole file and save it again. Those that take `_CLAIM_LOCK`
hold it from their load to their end; `enqueue` and `ensure_workflow_tasks` do not take it.
-/

set_option autoImplicit false

namespace AiStore.ControlPlane

open Library

section

variable (texts : Texts)

/-- What an operation under the lock saves, none where it saves nothing. -/
def saved (operation : Operation) (now : Time) (data : Data) : Option Data :=
  match operation with
  | .claim worker role effective =>
      let (task, after) := claim texts worker role effective now data
      task.map fun _ => after
  | .touch id worker phase =>
      let (held, after) := touch id worker phase now data
      if held then some after else none
  | .claimReview worker effective =>
      let (task, after) := claimReview worker effective now data
      task.map fun _ => after
  | .requeueStale staleAfterSeconds note =>
      let (recovered, after) := requeueStale texts staleAfterSeconds note now data
      if recovered = [] then none else some after
  | .requeueBlocked failing limit maxRetries =>
      let (chosen, after) := requeueBlocked texts failing limit maxRetries now data
      if chosen = [] then none else some after
  | .runTriage around =>
      -- a task at Codex makes the triage save, whatever the outcome
      let after := runTriage texts around now data
      if after = data ∧ ¬ ∃ task ∈ data.tasks.rows, task.status = .escalated then none else some after
  | .landReviewed landing limit =>
      let (changed, after) := landReviewed landing limit now data
      if changed = [] then none else some after
  | operation => (perform texts operation now data).toOption

/-- The rest of `ensure_workflow_tasks`, for the milestones that are still wanted: the file is loaded again
for each task and once more to mark it. -/
def queueing (now : Time) : List Milestone → Script Data
  | [] => .done
  | item :: rest =>
      .load fun data => .save (enqueueMilestone item now data) <|
        .load fun data => match markLast data with
          | none => .done
          | some marked => .save marked (queueing now rest)

/-- An operation behind its first load. -/
def script (call : LedgerCall) (data : Data) : Script Data :=
  match call.operation with
  | .enqueue title prompt milestone priority =>
      .save (enqueue title prompt milestone priority call.now data) .done
  | .ensureWorkflowTasks milestones limit => queueing call.now (wanted milestones limit data)
  | operation => match saved texts operation call.now data with
    | none => .done
    | some after => .save after .done

end

/-- Whether an operation takes `_CLAIM_LOCK`. -/
def takesLock (call : LedgerCall) : Bool :=
  match call.operation with
  | .enqueue .. | .ensureWorkflowTasks .. => false
  | _ => true

variable {texts : Texts} {data : Data} {call : LedgerCall}

/-! ## Operations alone -/

theorem markLast_append (make : Nat → Task) (data : Data) : ∃ marked, markLast (data.append make) = some marked := by
  have stored : (data.append make).get? data.nextId ≠ none := by
    rw [Data.get?_append, if_pos rfl]
    exact Option.some_ne_none _
  have filled : (data.append make).tasks.rows ≠ [] := by
    intro bare
    obtain ⟨task, found⟩ := Option.ne_none_iff_exists'.mp stored
    have member := Table.mem_of_get? found
    rw [bare] at member
    cases member
  rw [markLast, List.getLast?_eq_some_getLast filled]
  exact ⟨_, rfl⟩

theorem solo_queueing (now : Time) (items : List Milestone) (data : Data) :
    (queueing now items).solo data = items.foldl (queueMilestone now) data := by
  induction items generalizing data with
  | nil => rfl
  | cons item rest ih =>
    obtain ⟨marked, marks⟩ := markLast_append
      (queuedTask (item.id ++ " · " ++ item.title) _ item.id item.priority now) data
    change markLast (enqueueMilestone item now data) = some marked at marks
    rw [List.foldl_cons, ← ih]
    simp only [queueing, Script.solo, marks, queueMilestone, Option.getD_some]

theorem touch_false {id : Nat} {worker phase : String} {now : Time}
    (foreign : (touch id worker phase now data).1 = false) : (touch id worker phase now data).2 = data := by
  revert foreign
  unfold touch
  split
  · exact fun _ => rfl
  · split
    · exact fun foreign => Bool.noConfusion foreign
    · exact fun _ => rfl

theorem step_toOption (call : LedgerCall) (data : Data) :
    (step texts call data).2 = ((perform texts call.operation call.now data).toOption).getD data := by
  cases ran : perform texts call.operation call.now data with
  | error why =>
    rw [step_error ran]
    rfl
  | ok after =>
    rw [step_ok ran]
    rfl

/-- What is not saved has not been changed. -/
theorem saved_step (call : LedgerCall) (data : Data) :
    (saved texts call.operation call.now data).getD data = (step texts call data).2 := by
  rw [step_toOption]
  obtain ⟨operation, now⟩ := call
  cases operation with
  | claim worker role effective =>
    cases empty : (claim texts worker role effective now data).1 with
    | none => simp only [saved, perform, empty, Option.map_none, Option.getD_none, Except.toOption, Option.getD_some,
        (claim_picks texts worker role effective now data).unchanged empty]
    | some task => simp only [saved, perform, empty, Option.map_some, Option.getD_some, Except.toOption]
  | touch id worker phase =>
    cases foreign : (touch id worker phase now data).1 with
    | false => simp only [saved, perform, foreign, Bool.false_eq_true, if_false, Option.getD_none, Except.toOption,
        Option.getD_some, touch_false foreign]
    | true => simp only [saved, perform, foreign, if_true, Except.toOption, Option.getD_some]
  | claimReview worker effective =>
    cases empty : (claimReview worker effective now data).1 with
    | none => simp only [saved, perform, empty, Option.map_none, Option.getD_none, Except.toOption, Option.getD_some,
        (claimReview_picks worker effective now data).unchanged empty]
    | some task => simp only [saved, perform, empty, Option.map_some, Option.getD_some, Except.toOption]
  | requeueStale staleAfterSeconds note =>
    simp only [saved, perform, Except.toOption, Option.getD_some]
    split
    · next none_stale =>
      change (data.tasks.rows.filter _).map (·.id) = [] at none_stale
      simp only [requeueStale, none_stale, List.foldl_nil, Option.getD_none]
    · rfl
  | requeueBlocked failing limit maxRetries =>
    simp only [saved, perform, Except.toOption, Option.getD_some]
    split
    · next none_chosen =>
      unfold requeueBlocked at none_chosen ⊢
      dsimp only at none_chosen ⊢
      rw [none_chosen, List.foldl_nil, Option.getD_none]
    · rfl
  | runTriage around =>
    simp only [saved, perform, Except.toOption, Option.getD_some]
    split
    · next idle => rw [idle.1, Option.getD_none]
    · rfl
  | landReviewed landing limit =>
    simp only [saved, perform, Except.toOption, Option.getD_some]
    split
    · next none_chosen =>
      unfold landReviewed at none_chosen ⊢
      dsimp only at none_chosen ⊢
      rw [none_chosen, List.foldl_nil, Option.getD_none]
    · rfl
  | _ => rfl

theorem solo_script (call : LedgerCall) (data : Data) :
    (script texts call data).solo data = (step texts call data).2 := by
  have locked : ∀ written : Option Data,
      (match written with | none => Script.done | some after => .save after .done).solo data = written.getD data := by
    intro written
    cases written <;> rfl
  obtain ⟨operation, now⟩ := call
  cases operation with
  | enqueue => rfl
  | ensureWorkflowTasks milestones limit => exact solo_queueing now (wanted milestones limit data) data
  | _ => exact (locked _).trans (saved_step _ data)

/-! ## Operations side by side -/

section

variable (texts : Texts) (calls : List LedgerCall)

/-- The operations as threads. -/
def bodies (i : Fin calls.length) : Data → Script Data := script texts (calls.get i)

def lockers (i : Fin calls.length) : Bool := takesLock (calls.get i)

end

variable {calls : List LedgerCall} {start : Data} {schedule : List (Fin calls.length)}
  {shared : Shared Data (Fin calls.length)}

theorem serial_ledger (start : Data) (order : List (Fin calls.length)) :
    Shared.serial (bodies texts calls) start order = ledger texts start (order.map calls.get) := by
  induction order using List.reverseRecOn with
  | nil => rfl
  | append_singleton earlier i ih =>
    rw [Shared.serial_concat, ih, List.map_append, List.map_singleton, ledger, ledger, final_concat]
    exact solo_script (calls.get i) _

/-- The lock keeps the operations apart that take it. -/
theorem undisturbed_of_takesLock (locked : ∀ call ∈ calls, takesLock call = true) :
    Shared.Undisturbed (bodies texts calls) (lockers calls) schedule shared :=
  Shared.undisturbed_of_locked (fun i => locked _ (List.get_mem calls i)) schedule shared

/-- Operations that are undisturbed leave the ledger of the same operations one after another. -/
theorem undisturbed_serialisable (texts : Texts) (start : Data) (calls : List LedgerCall)
    (schedule : List (Fin calls.length)) (shared : Shared Data (Fin calls.length))
    (ran : Shared.run (bodies texts calls) (lockers calls) schedule (Shared.initial start) = some shared)
    (ended : ∀ i, (shared.threads i).ended = true)
    (undisturbed : Shared.Undisturbed (bodies texts calls) (lockers calls) schedule (Shared.initial start)) :
    ∃ serial : List LedgerCall, serial.Perm calls ∧ shared.file = ledger texts start serial := by
  -- the order in which the threads have written the file
  obtain ⟨order, distinct, all, file⟩ := Shared.serialisable undisturbed ran ended
  refine ⟨order.map calls.get, ?_, file.trans (serial_ledger start order)⟩
  have each : order.Perm (List.finRange calls.length) :=
    (List.perm_ext_iff_of_nodup distinct (List.nodup_finRange _)).mpr fun i => iff_of_true (all i) (List.mem_finRange i)
  have all_calls := each.map calls.get
  rwa [List.map_get_finRange] at all_calls

def queuedThenClaimed : List LedgerCall :=
  [⟨.enqueue "title" "prompt" "M1" 50, 0⟩, ⟨.claim "local-impl-1" "local-impl" 2, 1⟩]

def inTurn : List (Fin queuedThenClaimed.length) :=
  [.mk 0 (by decide), .mk 0 (by decide), .mk 1 (by decide), .mk 1 (by decide)]

theorem undisturbed_serialisable_inTurn : ∃ shared,
    Shared.run (bodies plainTexts queuedThenClaimed) (lockers queuedThenClaimed) inTurn (Shared.initial .empty) =
      some shared ∧
    ∃ serial : List LedgerCall, serial.Perm queuedThenClaimed ∧ shared.file = ledger plainTexts .empty serial := by
  have observed : (Shared.run (bodies plainTexts queuedThenClaimed) (lockers queuedThenClaimed) inTurn
      (Shared.initial .empty)).map (fun shared => decide (∀ i, (shared.threads i).ended = true)) = some true := by
    decide +kernel
  obtain ⟨shared, ran, ended⟩ := Option.map_eq_some_iff.mp observed
  refine ⟨shared, ran, undisturbed_serialisable plainTexts .empty queuedThenClaimed inTurn shared ran
    (of_decide_eq_true ended) ?_⟩
  decide +kernel

/-! Two threads that queue a task each, and both load before the first saves. -/

def twiceQueued : List LedgerCall := List.replicate 2 ⟨.enqueue "title" "prompt" "M1" 50, 0⟩

def crossed : List (Fin twiceQueued.length) :=
  [.mk 0 (by decide), .mk 1 (by decide), .mk 0 (by decide), .mk 1 (by decide)]

theorem queued_task_lost : ¬ ∀ texts start calls schedule shared,
    Shared.run (bodies texts calls) (lockers calls) schedule (Shared.initial start) = some shared →
      (∀ i, (shared.threads i).ended = true) →
        ∃ serial : List LedgerCall, serial.Perm calls ∧ shared.file = ledger texts start serial := by
  intro serialisable
  have observed : (Shared.run (bodies plainTexts twiceQueued) (lockers twiceQueued) crossed (Shared.initial .empty)).map
      (fun shared => (decide (∀ i, (shared.threads i).ended = true), shared.file.nextId)) = some (true, 2) := by
    decide +kernel
  obtain ⟨shared, ran, shown⟩ := Option.map_eq_some_iff.mp observed
  obtain ⟨ended, next⟩ := Prod.mk.inj shown
  obtain ⟨serial, permuted, file⟩ := serialisable plainTexts .empty twiceQueued crossed shared ran
    (of_decide_eq_true ended)
  have both : (ledger plainTexts .empty twiceQueued).nextId = 3 := by decide +kernel
  rw [List.perm_replicate.mp permuted] at file
  rw [file] at next
  exact absurd (next.symm.trans both) (by decide)

end AiStore.ControlPlane
