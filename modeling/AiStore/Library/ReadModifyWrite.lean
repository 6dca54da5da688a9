import Mathlib.Data.Fintype.Basic
import Mathlib.Data.List.Nodup
import Mathlib.Logic.Function.Basic

/-! Threads that load a whole file, compute, and save it again.

A thread begins with a load. Threads that take the lock exclude each other from
that load to their end; the others heed nobody.
-/

set_option autoImplicit false

namespace AiStore.Library

variable {σ ι : Type}

/-- What a thread does behind its first load. -/
inductive Script (σ : Type) where
  | done
  | load (next : σ → Script σ)
  | save (written : σ) (next : Script σ)

namespace Script

/-- The file behind a script that runs alone. -/
def solo : Script σ → σ → σ
  | done, file => file
  | load next, file => solo (next file) file
  | save written next, _ => solo next written

def isDone : Script σ → Bool
  | done => true
  | _ => false

theorem eq_done {script : Script σ} (ended : script.isDone = true) : script = done := by
  cases script with
  | done => rfl
  | load | save => cases ended

end Script

/-- A running thread knows whether it has saved. -/
inductive Thread (σ : Type) where
  | waiting
  | running (saved : Bool) (rest : Script σ)

namespace Thread

/-- Between the first load and the end. -/
def busy : Thread σ → Bool
  | waiting => false
  | running _ rest => !rest.isDone

/-- Between the first save and the end. -/
def writing : Thread σ → Bool
  | waiting => false
  | running saved rest => saved && !rest.isDone

def ended : Thread σ → Bool
  | waiting => false
  | running _ rest => rest.isDone

theorem busy_of_writing {thread : Thread σ} (writes : thread.writing = true) : thread.busy = true := by
  cases thread with
  | waiting => cases writes
  | running saved rest =>
    unfold writing at writes
    exact (Bool.and_eq_true_iff.mp writes).2

end Thread

/-- The file, the threads, and who has the lock. -/
structure Shared (σ ι : Type) where
  file : σ
  threads : ι → Thread σ
  lock : Option ι

namespace Shared

variable (body : ι → σ → Script σ) (locks : ι → Bool)

def initial (file : σ) : Shared σ ι := ⟨file, fun _ => .waiting, none⟩

def alone (i : ι) (file : σ) : σ := (body i file).solo file

/-- The file behind the threads that run one after another. -/
def serial (start : σ) (order : List ι) : σ := order.foldl (fun file i => alone body i file) start

theorem serial_concat (start : σ) (order : List ι) (i : ι) :
    serial body start (order ++ [i]) = alone body i (serial body start order) := by
  unfold serial
  rw [List.foldl_append]
  rfl

/-- The threads that have ended make a serial run, and every other one is about to add its own part. -/
structure Ordered (start : σ) (shared : Shared σ ι) (order : List ι) : Prop where
  distinct : order.Nodup
  ended : ∀ i, i ∈ order ↔ (shared.threads i).ended = true
  settled : (∀ i, (shared.threads i).writing = false) → shared.file = serial body start order
  ahead : ∀ i saved rest, shared.threads i = .running saved rest → rest.isDone = false →
    rest.solo shared.file = serial body start (order ++ [i])
  single : ∀ i, (shared.threads i).writing = true → ∀ j, j ≠ i → (shared.threads j).busy = false
  locked : ∀ i, locks i = true → (shared.threads i).busy = true → shared.lock = some i

theorem ordered_initial (start : σ) : Ordered body locks start (initial start) [] where
  distinct := List.nodup_nil
  ended := fun i => ⟨fun member => (List.not_mem_nil member).elim, fun ended => by cases ended⟩
  settled := fun _ => rfl
  ahead := fun _ _ _ there => by cases there
  single := fun _ writes => by cases writes
  locked := fun _ _ busy => by cases busy

variable [DecidableEq ι]

/-- Thread `i` goes on with `rest` beside the file; the lock goes with its end. -/
def proceed (i : ι) (saved : Bool) (rest : Script σ) (file : σ) (shared : Shared σ ι) : Shared σ ι where
  file := file
  threads := Function.update shared.threads i (.running saved rest)
  lock := if locks i then if rest.isDone then none else some i else shared.lock

/-- The next step of thread `i`, none where it waits for the lock or has ended. -/
def step (i : ι) (shared : Shared σ ι) : Option (Shared σ ι) :=
  match shared.threads i with
  | .waiting =>
      if locks i = true ∧ shared.lock ≠ none then none
      else some (shared.proceed locks i false (body i shared.file) shared.file)
  | .running _ .done => none
  | .running saved (.load next) => some (shared.proceed locks i saved (next shared.file) shared.file)
  | .running _ (.save written rest) => some (shared.proceed locks i true rest written)

def run : List ι → Shared σ ι → Option (Shared σ ι)
  | [], shared => some shared
  | i :: rest, shared => (step body locks i shared).bind (run rest)

/-- The step of thread `i` does not cut into another thread, unless the lock parts the two: it begins while
nobody is between two saves, and it saves while nobody has still to save what was loaded before. -/
def Apart (i : ι) (shared : Shared σ ι) : Prop :=
  match shared.threads i with
  | .waiting => ∀ j, j ≠ i → ¬ (locks i = true ∧ locks j = true) → (shared.threads j).writing = false
  | .running _ (.save _ _) => ∀ j, j ≠ i → ¬ (locks i = true ∧ locks j = true) → (shared.threads j).busy = false
  | .running _ _ => True

/-- Every step of a schedule keeps apart from the other threads. -/
def Undisturbed : List ι → Shared σ ι → Prop
  | [], _ => True
  | i :: rest, shared => Apart locks i shared ∧ ∀ next, step body locks i shared = some next → Undisturbed rest next

end Shared

namespace Shared

variable {body : ι → σ → Script σ} {locks : ι → Bool} {start file : σ} {shared next : Shared σ ι} {order : List ι}
  {i : ι} {saved : Bool} {rest : Script σ}

theorem absent (ordered : Ordered body locks start shared order) (open_ : (shared.threads i).ended = false) :
    i ∉ order := by
  intro member
  rw [(ordered.ended i).mp member] at open_
  cases open_

theorem distinct_extended (ordered : Ordered body locks start shared order)
    (open_ : (shared.threads i).ended = false) : (order ++ [i]).Nodup := by
  apply List.nodup_append.mpr
  refine ⟨ordered.distinct, List.nodup_singleton i, fun j member k other => ?_⟩
  rintro rfl
  exact absent ordered open_ (List.mem_singleton.mp other ▸ member)

/-- Under the lock no other thread that takes it is busy. -/
theorem excluded_of_locked (ordered : Ordered body locks start shared order)
    (busy : (shared.threads i).busy = true) (j : ι) (apart : j ≠ i) (mine : locks i = true) (other : locks j = true) :
    (shared.threads j).busy = false := by
  cases works : (shared.threads j).busy with
  | false => rfl
  | true =>
    have held := (ordered.locked j other works).symm.trans (ordered.locked i mine busy)
    exact absurd (Option.some.inj held) apart

theorem excluded_of_unlocked (ordered : Ordered body locks start shared order)
    (free : ¬ (locks i = true ∧ shared.lock ≠ none)) (j : ι) (mine : locks i = true) (other : locks j = true) :
    (shared.threads j).busy = false := by
  cases works : (shared.threads j).busy with
  | false => rfl
  | true =>
    refine absurd ⟨mine, ?_⟩ free
    rw [ordered.locked j other works]
    exact Option.some_ne_none j

variable [DecidableEq ι]

theorem threads_self : (shared.proceed locks i saved rest file).threads i = .running saved rest :=
  Function.update_self ..

theorem threads_other {j : ι} (apart : j ≠ i) :
    (shared.proceed locks i saved rest file).threads j = shared.threads j :=
  Function.update_of_ne apart ..

/-- The lock goes to a thread that goes on under it, and leaves no other one. -/
theorem locked_proceed (saved : Bool) (rest : Script σ) (file : σ) (ordered : Ordered body locks start shared order)
    (excluded : ∀ j, j ≠ i → locks i = true → locks j = true → (shared.threads j).busy = false) (j : ι)
    (takes : locks j = true) (busy : ((shared.proceed locks i saved rest file).threads j).busy = true) :
    (shared.proceed locks i saved rest file).lock = some j := by
  by_cases same : j = i
  · subst same
    rw [threads_self] at busy
    change (!rest.isDone) = true at busy
    rw [Bool.not_eq_true'] at busy
    simp only [proceed, takes, busy, if_true, Bool.false_eq_true, if_false]
  · rw [threads_other same] at busy
    by_cases own : locks i = true
    · rw [excluded j same own takes] at busy
      cases busy
    · simp only [proceed, own, if_false, Bool.false_eq_true]
      exact ordered.locked j takes busy

/-- The threads that have ended, where this one does. -/
theorem ended_extended (ordered : Ordered body locks start shared order) (ends : rest.isDone = true) (j : ι) :
    j ∈ order ++ [i] ↔ ((shared.proceed locks i saved rest file).threads j).ended = true := by
  rw [List.mem_append, List.mem_singleton]
  by_cases same : j = i
  · subst same
    rw [threads_self]
    exact iff_of_true (.inr rfl) ends
  · rw [threads_other same, ← ordered.ended j]
    exact or_iff_left same

theorem ended_same (ordered : Ordered body locks start shared order) (open_ : (shared.threads i).ended = false)
    (goes : rest.isDone = false) (j : ι) :
    j ∈ order ↔ ((shared.proceed locks i saved rest file).threads j).ended = true := by
  by_cases same : j = i
  · subst same
    rw [threads_self, ordered.ended j, open_]
    exact iff_of_false Bool.false_ne_true (by simp only [Thread.ended, goes, Bool.false_eq_true, not_false_eq_true])
  · rw [threads_other same]
    exact ordered.ended j

/-- A thread that has saved goes on while no other one is busy. -/
theorem ordered_writing (ordered : Ordered body locks start shared order) (open_ : (shared.threads i).ended = false)
    (idle : ∀ j, j ≠ i → (shared.threads j).busy = false)
    (towards : rest.solo file = serial body start (order ++ [i])) :
    ∃ order, Ordered body locks start (shared.proceed locks i true rest file) order := by
  have others : ∀ j, j ≠ i → ((shared.proceed locks i true rest file).threads j).busy = false := by
    intro j apart
    rw [threads_other apart]
    exact idle j apart
  have single : ∀ j, ((shared.proceed locks i true rest file).threads j).writing = true → ∀ k, k ≠ j →
      ((shared.proceed locks i true rest file).threads k).busy = false := by
    intro j writes k apart
    by_cases same : j = i
    · subst same
      exact others k apart
    · have busy := others j same
      rw [Thread.busy_of_writing writes] at busy
      cases busy
  have locked := locked_proceed true rest file ordered fun j apart _ _ => idle j apart
  cases ends : rest.isDone with
  | true =>
    cases Script.eq_done ends
    refine ⟨order ++ [i], distinct_extended ordered open_, ended_extended ordered ends, fun _ => towards, ?_, single,
      locked⟩
    intro j wrote later there goes
    by_cases same : j = i
    · subst same
      rw [threads_self] at there
      cases there
      cases goes
    · have busy := others j same
      rw [there, Thread.busy, goes] at busy
      cases busy
  | false =>
    refine ⟨order, ordered.distinct, ended_same ordered open_ ends, fun quiet => ?_, ?_, single, locked⟩
    · have writes := quiet i
      rw [threads_self, Thread.writing, ends] at writes
      cases writes
    · intro j wrote later there goes
      by_cases same : j = i
      · subst same
        rw [threads_self] at there
        cases there
        exact towards
      · have busy := others j same
        rw [there, Thread.busy, goes] at busy
        cases busy

/-- A thread that has only loaded goes on while nobody writes. -/
theorem ordered_reading (ordered : Ordered body locks start shared order) (open_ : (shared.threads i).ended = false)
    (quiet : ∀ j, (shared.threads j).writing = false)
    (excluded : ∀ j, j ≠ i → locks i = true → locks j = true → (shared.threads j).busy = false)
    (towards : rest.solo shared.file = serial body start (order ++ [i])) :
    ∃ order, Ordered body locks start (shared.proceed locks i false rest shared.file) order := by
  have still : ∀ j, ((shared.proceed locks i false rest shared.file).threads j).writing = false := by
    intro j
    by_cases same : j = i
    · subst same
      rw [threads_self]
      rfl
    · rw [threads_other same]
      exact quiet j
  have single : ∀ j, ((shared.proceed locks i false rest shared.file).threads j).writing = true → ∀ k, k ≠ j →
      ((shared.proceed locks i false rest shared.file).threads k).busy = false := by
    intro j writes
    rw [still j] at writes
    cases writes
  have locked := locked_proceed false rest shared.file ordered excluded
  have settled := ordered.settled quiet
  cases ends : rest.isDone with
  | true =>
    cases Script.eq_done ends
    change shared.file = _ at towards
    refine ⟨order ++ [i], distinct_extended ordered open_, ended_extended ordered ends, fun _ => towards, ?_, single,
      locked⟩
    intro j wrote later there goes
    by_cases same : j = i
    · subst same
      rw [threads_self] at there
      cases there
      cases goes
    · rw [threads_other same] at there
      -- the thread that ends has left the file as it was, so the other one's part stays the same
      rw [serial_concat, ← towards, settled, ← serial_concat]
      exact settled ▸ ordered.ahead j wrote later there goes
  | false =>
    refine ⟨order, ordered.distinct, ended_same ordered open_ ends, fun _ => settled, ?_, single, locked⟩
    intro j wrote later there goes
    by_cases same : j = i
    · subst same
      rw [threads_self] at there
      cases there
      exact towards
    · rw [threads_other same] at there
      exact ordered.ahead j wrote later there goes

theorem ordered_step (ordered : Ordered body locks start shared order) (apart : Apart locks i shared)
    (stepped : step body locks i shared = some next) : ∃ order, Ordered body locks start next order := by
  unfold step at stepped
  unfold Apart at apart
  split at stepped
  · next fresh =>
    rw [fresh] at apart
    split at stepped
    · cases stepped
    · next free =>
      cases stepped
      have excluded := excluded_of_unlocked ordered free
      have quiet : ∀ j, (shared.threads j).writing = false := by
        intro j
        by_cases same : j = i
        · rw [same, fresh]
          rfl
        · by_cases both : locks i = true ∧ locks j = true
          · cases writes : (shared.threads j).writing with
            | false => rfl
            | true => rw [← excluded j both.1 both.2, Thread.busy_of_writing writes]
          · exact apart j same both
      refine ordered_reading ordered (by rw [fresh]; rfl) quiet (fun j _ => excluded j) ?_
      rw [serial_concat, ← ordered.settled quiet]
      rfl
  · cases stepped
  · next saved onward there =>
    cases stepped
    have works : (shared.threads i).busy = true := by rw [there]; rfl
    have open_ : (shared.threads i).ended = false := by rw [there]; rfl
    have towards := ordered.ahead i saved (.load onward) there rfl
    cases saved with
    | true =>
      have idle := ordered.single i (by rw [there]; rfl)
      exact ordered_writing ordered open_ idle towards
    | false =>
      refine ordered_reading ordered open_ (fun j => ?_) (excluded_of_locked ordered works) towards
      by_cases same : j = i
      · rw [same, there]
        rfl
      · cases writes : (shared.threads j).writing with
        | false => rfl
        | true => rw [← ordered.single j writes i (Ne.symm same), works]
  · next saved written onward there =>
    rw [there] at apart
    cases stepped
    have works : (shared.threads i).busy = true := by rw [there]; rfl
    have open_ : (shared.threads i).ended = false := by rw [there]; rfl
    refine ordered_writing ordered open_ (fun j other => ?_) (ordered.ahead i saved (.save written onward) there rfl)
    by_cases both : locks i = true ∧ locks j = true
    · exact excluded_of_locked ordered works j other both.1 both.2
    · exact apart j other both

theorem ordered_run (schedule : List ι) (ordered : Ordered body locks start shared order)
    (undisturbed : Undisturbed body locks schedule shared) (ran : run body locks schedule shared = some next) :
    ∃ order, Ordered body locks start next order := by
  induction schedule generalizing shared order with
  | nil =>
    cases ran
    exact ⟨order, ordered⟩
  | cons i rest ih =>
    obtain ⟨middle, stepped, later⟩ := Option.bind_eq_some_iff.mp ran
    obtain ⟨order, ordered⟩ := ordered_step ordered undisturbed.1 stepped
    exact ih ordered (undisturbed.2 middle stepped) later

/-- Threads that keep apart leave the file of a serial run of them all. -/
theorem serialisable {schedule : List ι} (undisturbed : Undisturbed body locks schedule (initial start))
    (ran : run body locks schedule (initial start) = some next) (ended : ∀ i, (next.threads i).ended = true) :
    ∃ order : List ι, order.Nodup ∧ (∀ i, i ∈ order) ∧ next.file = serial body start order := by
  obtain ⟨order, ordered⟩ := ordered_run schedule (ordered_initial body locks start) undisturbed ran
  refine ⟨order, ordered.distinct, fun i => (ordered.ended i).mpr (ended i), ordered.settled fun i => ?_⟩
  have past := ended i
  revert past
  cases next.threads i with
  | waiting => exact fun past => Bool.noConfusion past
  | running saved rest =>
    intro past
    rw [Script.eq_done past, Thread.writing, Script.isDone, Bool.not_true, Bool.and_false]

/-- Threads that all take the lock always keep apart. -/
theorem undisturbed_of_locked (locked : ∀ i, locks i = true) (schedule : List ι) (shared : Shared σ ι) :
    Undisturbed body locks schedule shared := by
  induction schedule generalizing shared with
  | nil => trivial
  | cons i rest ih =>
    refine ⟨?_, fun next _ => ih next⟩
    unfold Apart
    split
    · exact fun j _ free => absurd ⟨locked i, locked j⟩ free
    · exact fun j _ free => absurd ⟨locked i, locked j⟩ free
    · trivial

instance [Fintype ι] (i : ι) (shared : Shared σ ι) : Decidable (Apart locks i shared) := by
  unfold Apart
  split <;> exact inferInstance

instance decidableUndisturbed [Fintype ι] :
    (schedule : List ι) → (shared : Shared σ ι) → Decidable (Undisturbed body locks schedule shared)
  | [], _ => .isTrue trivial
  | i :: rest, shared =>
      have : Decidable (∀ next, step body locks i shared = some next → Undisturbed body locks rest next) :=
        match stepped : step body locks i shared with
        | none => .isTrue fun next wrong => by cases wrong
        | some next =>
            have := decidableUndisturbed rest next
            decidable_of_iff (Undisturbed body locks rest next)
              ⟨fun holds later same => Option.some.inj same ▸ holds, fun holds => holds next rfl⟩
      inferInstanceAs (Decidable (_ ∧ _))

end Shared

end AiStore.Library
