import AiStore.Jobs.Leases

/-! How often a job is handed out.

Only `fail` compares the attempts with their maximum. A lease that runs out
silently uses an attempt up as well, and `claim` takes the job over without a look
at the attempts.
-/

set_option autoImplicit false

namespace AiStore.StoreDB

open Library

variable {dumps : Value → String} {loads : String → Except String Value}

/-- The most attempts that the failures of a run allow, as each worker reads it from its settings. -/
def Command.Allows (maxAttempts : Int) : Command → Prop
  | .fail _ _ allowed _ => allowed = maxAttempts
  | _ => True

/-- The job has had its attempts, and its row would still be handed out: as a job whose
lease ran out, or because no attempt is allowed at all. -/
def OverTaken (maxAttempts : Int) (row : Job) : Prop :=
  maxAttempts ≤ row.attempts ∧ (row.status = .running ∨ maxAttempts < 1)

/-- No claim of the run takes the job over behind its last attempt. -/
def NeverOverTaken (dumps : Value → String) (loads : String → Except String Value) (maxAttempts : Int) (id : Nat)
    (calls : List Call) : Prop :=
  ∀ before call after, calls = before ++ call :: after →
    ∀ row, (reached dumps loads before).db.jobs.get? id = some row → OverTaken maxAttempts row →
      ¬ ∃ worker lease, deed (call, (step dumps loads call (reached dumps loads before)).1) =
        some (id, .leased worker lease)

/-- The job is leased at most `maxAttempts` times beyond its deferrals, and behind the last
of these leases it never waits again. -/
def Bounded (dumps : Value → String) (loads : String → Except String Value) (maxAttempts : Int) (id : Nat)
    (calls : List Call) : Prop :=
  let acts := deeds id (history dumps loads calls)
  leases acts ≤ maxAttempts.toNat + defers acts ∧
    (1 ≤ maxAttempts → leases acts = maxAttempts.toNat + defers acts →
      ∀ row, (reached dumps loads calls).db.jobs.get? id = some row → row.status ≠ .queued)

/-! ## The bound -/

/-- What the bound says of a row. -/
def Within (maxAttempts : Int) (row : Job) : Prop :=
  row.attempts ≤ maxAttempts.toNat ∧ (1 ≤ maxAttempts → row.status = .queued → row.attempts < maxAttempts)

variable {state after : State} {call : Call} {id : Nat} {act : Deed} {maxAttempts : Int}

theorem within_acts (valid : Valid loads state) (acted : Acts loads state call id act after)
    (within : ∀ row, state.db.jobs.get? id = some row → Within maxAttempts row)
    (allows : call.command.Allows maxAttempts)
    (kept : act.isLease → ∀ row, state.db.jobs.get? id = some row → ¬ OverTaken maxAttempts row) :
    ∀ row, after.db.jobs.get? id = some row → Within maxAttempts row := by
  cases acted with
  | @enqueued row named waiting unused =>
    intro written found
    cases (get?_written _ rfl).symm.trans found
    rw [Within, unused]
    omega
  | @leased row lease _ row_found claimable | @corrupt row lease why _ row_found claimable =>
    intro written found
    have stored := get?_written state.db.jobs (show (row.leaseTo call.worker lease call.now).id = row.id from rfl)
    cases stored.symm.trans found
    have spare := kept rfl row row_found
    have before := within row row_found
    simp only [OverTaken, Within, Job.leaseTo] at spare before ⊢
    rcases claimable.status with queued | running
    · simp only [queued, reduceCtorEq, false_or, true_implies, false_implies, implies_true, and_true] at spare before ⊢
      omega
    · simp only [running, true_or, and_true, reduceCtorEq, false_implies, implies_true] at spare before ⊢
      omega
  | @buried id why pending =>
    intro written found
    obtain ⟨row, row_found, -⟩ := valid.burying call.worker id why pending
    have named : row.id = id := Table.key_of_get? row_found
    have stored := get?_written state.db.jobs (show (row.bury why call.now).id = id from named)
    simp only [bury, row_found] at found
    cases stored.symm.trans found
    have before := within row row_found
    simp only [Within, Job.bury, reduceCtorEq, false_implies, implies_true, and_true] at before ⊢
    exact before.1
  | @renewed row lease _ row_found owned =>
    intro written found
    have stored := get?_written state.db.jobs (show (row.renew lease call.now).id = row.id from rfl)
    cases stored.symm.trans found
    exact within row row_found
  | @saved row text _ row_found owned =>
    intro written found
    have stored := get?_written state.db.jobs (show (row.save text call.now).id = row.id from rfl)
    cases stored.symm.trans found
    exact within row row_found
  | @deferred row available reason _ row_found owned =>
    intro written found
    have stored := get?_written state.db.jobs
      (show (row.postpone available reason call.now).id = row.id from rfl)
    cases stored.symm.trans found
    have before := within row row_found
    simp only [Within, Job.postpone, true_implies] at before ⊢
    omega
  | @completed row event text details _ row_found owned =>
    intro written found
    have stored := get?_written state.db.jobs (show (row.finish call.now).id = row.id from rfl)
    cases stored.symm.trans found
    have before := within row row_found
    simp only [Within, Job.finish, reduceCtorEq, false_implies, implies_true, and_true] at before ⊢
    omega
  | @failed row available message text details allowed permanent _ row_found owned told =>
    intro written found
    have stored := get?_written state.db.jobs
      (show (row.release (failedStatus row allowed permanent) available text call.now).id = row.id from rfl)
    cases stored.symm.trans found
    have before := within row row_found
    rw [told] at allows
    cases allows
    refine ⟨before.1, fun _ queued => ?_⟩
    simp only [Job.release, failedStatus] at queued ⊢
    split at queued
    · cases queued
    · omega

theorem within_step (valid : Valid loads state) (allows : call.command.Allows maxAttempts)
    (within : ∀ row, state.db.jobs.get? id = some row → Within maxAttempts row)
    (kept : ∀ row, state.db.jobs.get? id = some row → OverTaken maxAttempts row →
      ¬ ∃ worker lease, deed (call, (step dumps loads call state).1) = some (id, .leased worker lease)) :
    ∀ row, (step dumps loads call state).2.db.jobs.get? id = some row → Within maxAttempts row := by
  rcases @step_cases dumps loads call state with ⟨-, same⟩ | ⟨⟨job, act⟩, told, acted⟩
  · rwa [same]
  · by_cases same : job = id
    · subst same
      apply within_acts valid acted within allows
      intro leased row found overTaken
      cases act with
      | leased worker lease => exact kept row found overTaken ⟨worker, lease, told⟩
      | _ => cases leased
    · rwa [acted.other (Ne.symm same)]

theorem within_run {calls : List Call} (allowed : ∀ call ∈ calls, call.command.Allows maxAttempts)
    (kept : NeverOverTaken dumps loads maxAttempts id calls) :
    ∀ row, (reached dumps loads calls).db.jobs.get? id = some row → Within maxAttempts row := by
  apply run_induction fun calls => ∀ row, (reached dumps loads calls).db.jobs.get? id = some row → Within maxAttempts row
  · intro row found
    cases found
  · intro before call after split earlier
    simp only [reached, final_concat]
    exact within_step (valid_run dumps loads before) (allowed call (by simp [split])) earlier (kept before call after split)

theorem bounded_of_within {calls : List Call}
    (within : ∀ row, (reached dumps loads calls).db.jobs.get? id = some row → Within maxAttempts row) :
    Bounded dumps loads maxAttempts id calls := by
  have booked := booked_run dumps loads calls id
  cases found : (reached dumps loads calls).db.jobs.get? id with
  | none =>
    rw [found] at booked
    rw [Bounded, booked.unborn rfl]
    exact ⟨Nat.zero_le _, fun _ _ row there => by cases there.symm.trans found⟩
  | some row =>
    rw [found] at booked
    have counted := booked.attempts row rfl
    obtain ⟨bound, waiting⟩ := within row found
    refine ⟨by omega, fun some_allowed last other there queued => ?_⟩
    cases there.symm.trans found
    have spare := waiting some_allowed queued
    omega

/-- A lease behind the last attempt breaks the bound. -/
theorem not_bounded_of_overtaken {before : List Call} {row : Job} {worker : String} {lease : UtcTime}
    (found : (reached dumps loads before).db.jobs.get? id = some row) (overTaken : OverTaken maxAttempts row)
    (told : deed (call, (step dumps loads call (reached dumps loads before)).1) = some (id, .leased worker lease)) :
    ¬ Bounded dumps loads maxAttempts id (before ++ [call]) := by
  have booked := booked_run dumps loads before id
  rw [found] at booked
  have counted := booked.attempts row rfl
  have used := (booked.used row rfl).1
  have spent := overTaken.1
  intro bounded
  have bound := bounded.1
  simp only [history, trace_concat, deeds_append, told, Option.bind_some, if_true, Option.toList_some, leases_append,
    defers_append, Deed.isLease, reduceCtorEq, if_false] at bound counted
  omega

/-- The bound holds all along a run exactly when no claim takes the job over behind its last attempt. -/
theorem bounded_iff (dumps : Value → String) (loads : String → Except String Value) (maxAttempts : Int) (id : Nat)
    (calls : List Call) (allowed : ∀ call ∈ calls, call.command.Allows maxAttempts) :
    (∀ before, before <+: calls → Bounded dumps loads maxAttempts id before) ↔
      NeverOverTaken dumps loads maxAttempts id calls := by
  constructor
  · rintro bounded before call after rfl row found overTaken ⟨worker, lease, told⟩
    exact not_bounded_of_overtaken found overTaken told (bounded (before ++ [call]) ⟨after, by simp⟩)
  · rintro kept before ⟨after, rfl⟩
    apply bounded_of_within
    -- no claim so far has taken a job whose attempts were used up
    apply within_run fun call member => allowed call (List.mem_append_left _ member)
    rintro first call last rfl
    exact kept first call (last ++ after) (by simp)

/-! A worker that never reports, and a second one that comes when its lease has run out. -/

def crashing : List Call :=
  [⟨"cli", ⟨0⟩, .enqueue "catalog.scan" (.dict [])⟩,
    ⟨"first", ⟨0⟩, .claim 1⟩,
    ⟨"second", ⟨2000000⟩, .claim 1⟩]

theorem crash_takes_attempt : ¬ ∀ (dumps : Value → String) (loads : String → Except String Value)
    (maxAttempts : Int) (id : Nat) (calls : List Call), (∀ call ∈ calls, call.command.Allows maxAttempts) →
    leases (deeds id (history dumps loads calls)) ≤
      maxAttempts.toNat + defers (deeds id (history dumps loads calls)) := by
  intro bounded
  have allowed : ∀ call ∈ crashing, call.command.Allows 1 := by simp [crashing, Command.Allows]
  have bound := bounded (fun _ => "{}") (fun _ => .ok (.dict [])) 1 1 crashing allowed
  have leased : leases (deeds 1 (history (fun _ => "{}") (fun _ => .ok (.dict [])) crashing)) = 2 := by
    decide +kernel
  have deferred : defers (deeds 1 (history (fun _ => "{}") (fun _ => .ok (.dict [])) crashing)) = 0 := by
    decide +kernel
  rw [leased, deferred] at bound
  exact absurd bound (by decide)

theorem bounded_crashing :
    (∀ before, before <+: crashing → Bounded (fun _ => "{}") (fun _ => .ok (.dict [])) 3 1 before) ↔
      NeverOverTaken (fun _ => "{}") (fun _ => .ok (.dict [])) 3 1 crashing :=
  bounded_iff (fun _ => "{}") (fun _ => .ok (.dict [])) 3 1 crashing (by simp [crashing, Command.Allows])

end AiStore.StoreDB
