import Mathlib.Data.List.Induction
import Std.Data.String.ToNat
import AiStore.Jobs.Deeds

/-! One lease a job: what any interleaving of workers leaves of a job's row, and who may act on it. -/

set_option autoImplicit false

namespace AiStore.StoreDB

open Library

variable {dumps : Value → String} {loads : String → Except String Value}
variable {state after : State} {call : Call} {id : Nat} {act : Deed} {acts : List Deed}

/-! ## Corrupt rows -/

/-- Ids come from the counter, and a row in the hands of a worker that must bury it
is dead or leased to such a worker. -/
structure Valid (loads : String → Except String Value) (state : State) : Prop where
  fresh : ∀ row ∈ state.db.jobs.rows, row.id ≤ state.db.sequence
  burying : ∀ worker id why, state.burying worker = some (id, why) →
    ∃ row, state.db.jobs.get? id = some row ∧ (∃ why, decode loads row = .error why) ∧
      (row.status = .dead ∨
        row.status = .running ∧ ∃ owner, row.workerId = some owner ∧ ∃ why, state.burying owner = some (id, why))

theorem valid_start : Valid loads State.start where
  fresh row member := by cases member
  burying worker id why pending := by cases pending

theorem Valid.get?_next (valid : Valid loads state) : state.db.jobs.get? (state.db.sequence + 1) = none := by
  apply (Table.get?_eq_none _ _).mpr
  intro row member same
  have bound := valid.fresh row member
  omega

/-- Nobody buries a row that its owner may still act on. -/
theorem Valid.not_burying_owned (valid : Valid loads state) {row : Job} (free : state.burying call.worker = none)
    (found : state.db.jobs.get? row.id = some row) (owned : Owned call.worker call.now row) (worker : String)
    (why : String) : state.burying worker ≠ some (row.id, why) := by
  intro pending
  obtain ⟨other, other_found, -, dead | ⟨-, owner, named, why', held⟩⟩ := valid.burying worker row.id why pending
  · cases found.symm.trans other_found
    cases owned.1.symm.trans dead
  · cases found.symm.trans other_found
    cases owned.2.1.symm.trans named
    cases free.symm.trans held

/-- A row that nobody buries may be rewritten at will. -/
theorem Valid.put (valid : Valid loads state) (row : Job) {old : Job} (found : state.db.jobs.get? row.id = some old)
    (nobody : ∀ worker why, state.burying worker ≠ some (row.id, why)) (log : List AuditRow) :
    Valid loads { state with db := { state.db with jobs := state.db.jobs.put row, auditLog := log } } where
  fresh := by
    apply Table.forall_put valid.fresh
    have bound := valid.fresh old (Table.mem_of_get? found)
    rwa [Table.key_of_get? found] at bound
  burying worker id why pending := by
    obtain ⟨other, other_found, rest⟩ := valid.burying worker id why pending
    have apart : row.id ≠ id := fun same => nobody worker why (same ▸ pending)
    exact ⟨other, (Table.get?_put_of_ne _ apart).trans other_found, rest⟩

/-- What another worker buries stands as it did, when a worker turns from a row of its own to something else. -/
theorem Valid.burying_elsewhere (valid : Valid loads state) {row : Job} {other : Nat} {worker why : String}
    (next : Option (Nat × String)) (own : ∀ why, state.burying call.worker ≠ some (other, why)) (apart : row.id ≠ other)
    (pending : state.burying worker = some (other, why)) :
    ∃ job, (state.db.jobs.put row).get? other = some job ∧ (∃ why, decode loads job = .error why) ∧
      (job.status = .dead ∨ job.status = .running ∧ ∃ owner, job.workerId = some owner ∧
        ∃ why, Function.update state.burying call.worker next owner = some (other, why)) := by
  obtain ⟨job, found, broken, standing⟩ := valid.burying worker other why pending
  refine ⟨job, (Table.get?_put_of_ne _ apart).trans found, broken, ?_⟩
  rcases standing with dead | ⟨running, owner, named, why', held⟩
  · exact .inl dead
  · have other_owner : owner ≠ call.worker := by
      rintro rfl
      exact own why' held
    refine .inr ⟨running, owner, named, why', ?_⟩
    rwa [Function.update_of_ne other_owner]

theorem bury_found {db : Database} {row : Job} (found : db.jobs.get? id = some row) (why : String) (now : UtcTime) :
    bury id why now db = { db with jobs := db.jobs.put (row.bury why now) } := by
  unfold bury
  rw [found]

theorem valid_acts (valid : Valid loads state) (acted : Acts loads state call id act after) : Valid loads after := by
  cases acted with
  | @enqueued row named waiting unused =>
    constructor
    · refine Table.forall_put (fun other member => ?_) (Nat.le_refl row.id)
      have bound := valid.fresh other member
      change other.id ≤ row.id
      omega
    · intro worker id why pending
      obtain ⟨other, found, rest⟩ := valid.burying worker id why pending
      have apart : row.id ≠ id := by
        rintro rfl
        rw [named, valid.get?_next] at found
        cases found
      exact ⟨other, (Table.get?_put_of_ne _ apart).trans found, rest⟩
  | @leased row lease free found claimable sound =>
    apply valid.put (row.leaseTo call.worker lease call.now) found
    intro worker why pending
    obtain ⟨other, other_found, ⟨reason, failed⟩, -⟩ := valid.burying worker row.id why pending
    cases found.symm.trans other_found
    exact sound reason failed
  | @corrupt row lease why free found claimable failed =>
    constructor
    · apply Table.forall_put valid.fresh
      exact valid.fresh row (Table.mem_of_get? found)
    · intro worker id reason pending
      dsimp only at pending ⊢
      by_cases same : row.id = id
      · subst same
        refine ⟨_, Table.get?_put_self _ _, ⟨why, failed⟩, .inr ⟨rfl, call.worker, rfl, why, ?_⟩⟩
        exact Function.update_self ..
      · have apart : worker ≠ call.worker := by
          rintro rfl
          rw [Function.update_self] at pending
          cases pending
          exact same rfl
        rw [Function.update_of_ne apart] at pending
        have idle : ∀ why, state.burying call.worker ≠ some (id, why) := by
          intro why held
          cases free.symm.trans held
        exact valid.burying_elsewhere _ idle same pending
  | @buried id why pending =>
    obtain ⟨row, found, broken, standing⟩ := valid.burying call.worker id why pending
    have named := Table.key_of_get? found
    rw [bury_found found]
    constructor
    · apply Table.forall_put valid.fresh
      exact valid.fresh row (Table.mem_of_get? found)
    · intro worker other why' held
      dsimp only at held ⊢
      have apart : worker ≠ call.worker := by
        rintro rfl
        rw [Function.update_self] at held
        cases held
      rw [Function.update_of_ne apart] at held
      by_cases same : row.id = other
      · subst same
        exact ⟨_, Table.get?_put_self _ (row.bury why call.now), broken, .inl rfl⟩
      · have own : ∀ why, state.burying call.worker ≠ some (other, why) := by
          intro why' mine
          cases pending.symm.trans mine
          exact same named
        exact valid.burying_elsewhere _ own same held
  | @renewed row lease free found owned =>
    have nobody := valid.not_burying_owned free found owned
    exact valid.put (row.renew lease call.now) found nobody _
  | @saved row text free found owned =>
    have nobody := valid.not_burying_owned free found owned
    exact valid.put (row.save text call.now) found nobody _
  | @deferred row available reason free found owned =>
    have nobody := valid.not_burying_owned free found owned
    exact valid.put (row.postpone available reason call.now) found nobody _
  | @completed row event text details free found owned =>
    have nobody := valid.not_burying_owned free found owned
    exact valid.put (row.finish call.now) found nobody _
  | @failed row available message text details maxAttempts permanent free found owned =>
    have nobody := valid.not_burying_owned free found owned
    exact valid.put (row.release _ available text call.now) found nobody _

theorem valid_step (valid : Valid loads state) (call : Call) : Valid loads (step dumps loads call state).2 := by
  rcases @step_cases dumps loads call state with ⟨-, same⟩ | ⟨act, -, acted⟩
  · rwa [same]
  · exact valid_acts valid acted

theorem valid_run (dumps : Value → String) (loads : String → Except String Value) (calls : List Call) :
    Valid loads (final (step dumps loads) State.start calls) :=
  final_invariant (Valid loads) valid_start fun call _ _ valid => valid_step valid call

/-! ## Rows and what the calls told of them -/

inductive Shown : Tenure → Option Job → Prop where
  | absent : Shown .absent none
  | waiting {row : Job} : row.status = .queued → Shown .waiting (some row)
  | held {row : Job} {worker : String} {lease : UtcTime} : row.status = .running →
      row.workerId = some worker → row.leasedUntil = some lease → Shown (.held worker lease) (some row)
  | done {row : Job} : row.status = .done → Shown .done (some row)
  | dead {row : Job} : row.status = .dead → Shown .dead (some row)

/-- A job's row agrees with what a run has done to the job. -/
structure Booked (acts : List Deed) (row : Option Job) : Prop where
  shown : Shown (tenure acts) row
  unborn : row = none → acts = []
  attempts : ∀ job ∈ row, job.attempts = leases acts - defers acts
  used : ∀ job ∈ row, 0 ≤ job.attempts ∧ (job.status = .running → 0 < job.attempts)
  completions : completions acts = if tenure acts = .done then 1 else 0

theorem booked_start : Booked [] none := ⟨.absent, fun _ => rfl, by simp, by simp, rfl⟩

theorem leases_append (acts : List Deed) (act : Deed) :
    leases (acts ++ [act]) = leases acts + if act.isLease then 1 else 0 := by
  simp only [leases, List.countP_append, List.countP_singleton]

theorem defers_append (acts : List Deed) (act : Deed) :
    defers (acts ++ [act]) = defers acts + if act = .deferred then 1 else 0 := by
  simp [defers, List.count_append, List.count_singleton]

theorem completions_append (acts : List Deed) (act : Deed) :
    completions (acts ++ [act]) = completions acts + if act = .completed then 1 else 0 := by
  simp [completions, List.count_append, List.count_singleton]

theorem Shown.held_of_running {row : Job} (shown : Shown (tenure acts) (some row)) (running : row.status = .running) :
    ∃ worker lease, tenure acts = .held worker lease ∧ row.workerId = some worker ∧ row.leasedUntil = some lease := by
  generalize tenure acts = life at shown
  cases shown with
  | held _ named until_ => exact ⟨_, _, rfl, named, until_⟩
  | waiting queued => cases running.symm.trans queued
  | done done => cases running.symm.trans done
  | dead dead => cases running.symm.trans dead

theorem Shown.waiting_of_queued {row : Job} (shown : Shown (tenure acts) (some row)) (queued : row.status = .queued) :
    tenure acts = .waiting := by
  generalize tenure acts = life at shown
  cases shown with
  | waiting _ => rfl
  | held running => cases queued.symm.trans running
  | done done => cases queued.symm.trans done
  | dead dead => cases queued.symm.trans dead

theorem Shown.done_iff {row : Job} (shown : Shown (tenure acts) (some row)) :
    tenure acts = .done ↔ row.status = .done := by
  generalize tenure acts = life at shown
  cases shown with
  | waiting status | held status | done status | dead status => simp [status]

theorem Claimable.status {now : UtcTime} {row : Job} (claimable : Claimable now row) :
    row.status = .queued ∨ row.status = .running := claimable.2.imp_right And.left

theorem Claimable.not_done {now : UtcTime} {row : Job} (claimable : Claimable now row)
    (shown : Shown (tenure acts) (some row)) : tenure acts ≠ .done := by
  intro finished
  rcases claimable.status with queued | running
  · cases finished.symm.trans (shown.waiting_of_queued queued)
  · obtain ⟨worker, lease, held, -⟩ := shown.held_of_running running
    cases finished.symm.trans held

/-- A claim adds an attempt, whoever had the job before. -/
theorem booked_leased {row : Job} {worker : String} {lease now : UtcTime} (booked : Booked acts (some row))
    (claimable : Claimable now row) :
    Booked (acts ++ [.leased worker lease]) (some (row.leaseTo worker lease now)) where
  shown := by
    rw [tenure_append]
    exact .held rfl rfl rfl
  unborn none := by cases none
  attempts := by
    have counted := booked.attempts row rfl
    simp only [Option.mem_some_iff, forall_eq', Job.leaseTo, leases_append, defers_append, reduceCtorEq, if_true,
      if_false, Deed.isLease]
    omega
  used := by
    have used := (booked.used row rfl).1
    simp only [Option.mem_some_iff, forall_eq', Job.leaseTo]
    omega
  completions := by
    have none_yet := booked.completions
    rw [if_neg (claimable.not_done booked.shown)] at none_yet
    simp [completions_append, none_yet, Tenure.after]

/-- What the holder does to its job, by the tenure it leaves. -/
theorem booked_owned {row written : Job} {worker : String} {now : UtcTime} (booked : Booked acts (some row))
    (owned : Owned worker now row) (shown : Shown (tenure (acts ++ [act])) (some written))
    (kept : leases (acts ++ [act]) = leases acts)
    (attempts : written.attempts = row.attempts - if act = .deferred then 1 else 0)
    (running : written.status = .running → act ≠ .deferred)
    (done : tenure (acts ++ [act]) = .done ↔ act = .completed) : Booked (acts ++ [act]) (some written) where
  shown := shown
  unborn none := by cases none
  attempts := by
    have counted := booked.attempts row rfl
    simp only [Option.mem_some_iff, forall_eq', kept, defers_append, attempts]
    split <;> omega
  used := by
    have used := (booked.used row rfl).2 owned.1
    simp only [Option.mem_some_iff, forall_eq', attempts]
    constructor
    · split <;> omega
    · intro still
      rw [if_neg (running still)]
      omega
  completions := by
    have none_yet := booked.completions
    obtain ⟨worker, lease, held, -⟩ := booked.shown.held_of_running owned.1
    rw [held, if_neg (by simp)] at none_yet
    simp only [completions_append, none_yet, done, Nat.zero_add]

theorem failedStatus_cases (row : Job) (maxAttempts : Int) (permanent : Bool) :
    failedStatus row maxAttempts permanent = .dead ∨ failedStatus row maxAttempts permanent = .queued := by
  unfold failedStatus
  split
  · exact .inl rfl
  · exact .inr rfl

theorem Acts.other (acted : Acts loads state call id act after) {other : Nat} (apart : other ≠ id) :
    after.db.jobs.get? other = state.db.jobs.get? other := by
  cases acted with
  | buried pending =>
    dsimp only [bury]
    split
    · rfl
    · next row found =>
      rw [← Table.key_of_get? found] at apart
      exact Table.get?_put_of_ne _ (Ne.symm apart)
  | _ => exact Table.get?_put_of_ne _ (Ne.symm apart)

theorem get?_written (jobs : Table Job.id) {row : Job} (named : row.id = id) :
    (jobs.put row).get? id = some row := by rw [← named, Table.get?_put_self]

theorem Booked.put {jobs : Table Job.id} {row : Job} (booked : Booked acts (some row)) (named : row.id = id) :
    Booked acts ((jobs.put row).get? id) := by
  rwa [get?_written jobs named]

theorem booked_enqueued {row : Job} (waiting : row.status = .queued) (unused : row.attempts = 0) :
    Booked [.enqueued] (some row) where
  shown := .waiting waiting
  unborn absent := by cases absent
  attempts := by simp [unused, leases, defers, Deed.isLease]
  used := by simp [unused, waiting]
  completions := rfl

/-- A row that is buried is dead or leased to the worker that buries it. -/
theorem booked_buried {row : Job} {why : String} {now : UtcTime} (booked : Booked acts (some row))
    (standing : row.status = .dead ∨ row.status = .running) : Booked (acts ++ [.buried]) (some (row.bury why now)) where
  shown := by
    rw [tenure_append]
    exact .dead rfl
  unborn absent := by cases absent
  attempts := by
    have counted := booked.attempts row rfl
    simpa [leases_append, defers_append, Deed.isLease, Job.bury] using counted
  used := by simpa [Job.bury] using (booked.used row rfl).1
  completions := by
    have open_yet : tenure acts ≠ .done := by
      rw [ne_eq, booked.shown.done_iff]
      rcases standing with dead | running
      · simp [dead]
      · simp [running]
    have none_yet := booked.completions
    rw [if_neg open_yet] at none_yet
    simp [completions_append, none_yet, Tenure.after]

theorem booked_acts (valid : Valid loads state) (acted : Acts loads state call id act after)
    (booked : Booked acts (state.db.jobs.get? id)) : Booked (acts ++ [act]) (after.db.jobs.get? id) := by
  cases acted with
  | @enqueued row named waiting unused =>
    rw [named, valid.get?_next] at booked
    obtain rfl := booked.unborn rfl
    exact (booked_enqueued waiting unused).put rfl
  | @leased row lease free found claimable sound =>
    rw [found] at booked
    exact (booked_leased booked claimable).put rfl
  | @corrupt row lease why free found claimable failed =>
    rw [found] at booked
    exact (booked_leased booked claimable).put rfl
  | @buried id why pending =>
    obtain ⟨row, found, -, standing⟩ := valid.burying call.worker id why pending
    rw [found] at booked
    rw [bury_found found]
    have named : row.id = id := Table.key_of_get? found
    exact (booked_buried booked (standing.imp_right And.left)).put named
  | @renewed row lease free found owned =>
    rw [found] at booked
    obtain ⟨worker, old, held, named, -⟩ := booked.shown.held_of_running owned.1
    refine Booked.put (booked_owned booked owned ?_ ?_ ?_ ?_ ?_) rfl
    · rw [tenure_append, held]
      exact .held owned.1 named rfl
    · simp [leases_append, Deed.isLease]
    · simp [Job.renew]
    · simp
    · simp [held, Tenure.after]
  | @saved row text free found owned =>
    rw [found] at booked
    obtain ⟨worker, lease, held, named, until_⟩ := booked.shown.held_of_running owned.1
    refine Booked.put (booked_owned booked owned ?_ ?_ ?_ ?_ ?_) rfl
    · rw [tenure_append, held]
      exact .held owned.1 named until_
    · simp [leases_append, Deed.isLease]
    · simp [Job.save]
    · simp
    · simp [held, Tenure.after]
  | @deferred row available reason free found owned =>
    rw [found] at booked
    refine Booked.put (booked_owned booked owned ?_ ?_ ?_ ?_ ?_) rfl
    · rw [tenure_append]
      exact .waiting rfl
    · simp [leases_append, Deed.isLease]
    · simp [Job.postpone]
    · simp [Job.postpone]
    · simp [Tenure.after]
  | @completed row event text details free found owned =>
    rw [found] at booked
    refine Booked.put (booked_owned booked owned ?_ ?_ ?_ ?_ ?_) rfl
    · rw [tenure_append]
      exact .done rfl
    · simp [leases_append, Deed.isLease]
    · simp [Job.finish]
    · simp
    · simp [Tenure.after]
  | @failed row available message text details maxAttempts permanent free found owned =>
    rw [found] at booked
    rcases failedStatus_cases row maxAttempts permanent with dead | queued
    · refine Booked.put (booked_owned booked owned ?_ ?_ ?_ ?_ ?_) rfl
      · rw [tenure_append, dead]
        exact .dead rfl
      · simp [leases_append, Deed.isLease]
      · simp [Job.release]
      · simp
      · simp [Tenure.after, dead]
    · refine Booked.put (booked_owned booked owned ?_ ?_ ?_ ?_ ?_) rfl
      · rw [tenure_append, queued]
        exact .waiting rfl
      · simp [leases_append, Deed.isLease]
      · simp [Job.release]
      · simp
      · simp [Tenure.after, queued]

/-! ## Runs -/

section

variable (dumps : Value → String) (loads : String → Except String Value)

/-- The state behind the calls of any workers, in the order of their transactions. -/
abbrev reached (calls : List Call) : State := final (step dumps loads) State.start calls

/-- The calls and what they returned. -/
abbrev history (calls : List Call) : List (Call × Result) := trace (step dumps loads) State.start calls

end

theorem booked_step (dumps : Value → String) (valid : Valid loads state) (call : Call) (id : Nat)
    (booked : Booked acts (state.db.jobs.get? id)) :
    let turn := step dumps loads call state
    Booked (acts ++ ((deed (call, turn.1)).bind fun (job, act) => if job = id then some act else none).toList)
      (turn.2.db.jobs.get? id) := by
  dsimp only
  rcases @step_cases dumps loads call state with ⟨silent, same⟩ | ⟨⟨job, act⟩, told, acted⟩
  · rw [silent, same]
    simpa using booked
  · rw [told]
    by_cases same : job = id
    · subst same
      simpa using booked_acts valid acted booked
    · rw [acted.other (Ne.symm same)]
      simpa [same] using booked

theorem booked_run (dumps : Value → String) (loads : String → Except String Value) (calls : List Call)
    (id : Nat) :
    Booked (deeds id (history dumps loads calls)) ((reached dumps loads calls).db.jobs.get? id) := by
  induction calls using List.reverseRecOn with
  | nil => exact booked_start
  | append_singleton before call ih =>
    have stepped := booked_step dumps (valid_run dumps loads before) call id ih
    simp only [history, reached, trace_concat, final_concat, deeds_append]
    exact stepped

/-- The audit log names the jobs that were failed and completed, in that order. -/
theorem audit_run (calls : List Call) :
    (reached dumps loads calls).db.auditLog.map (fun row => (row.event, row.entityId)) =
      (history dumps loads calls).filterMap auditEntry := by
  induction calls using List.reverseRecOn with
  | nil => rfl
  | append_singleton before call ih =>
    simp only [history, reached, trace_concat, final_concat, List.filterMap_append] at ih ⊢
    rw [← ih]
    generalize final (step dumps loads) State.start before = state
    rcases @step_cases dumps loads call state with ⟨silent, same⟩ | ⟨⟨job, act⟩, told, acted⟩
    · simp [same, auditEntry, silent]
    · generalize (step dumps loads call state).2 = after at acted
      cases acted with
      | completed free found owned told' => simp [auditEntry, told, told']
      | failed free found owned told' => simp [auditEntry, told]
      | buried pending =>
        simp only [bury]
        split <;> simp [auditEntry, told]
      | _ => simp [auditEntry, told]

/-- The event under which a call completes a job. -/
def Command.completionEvent : Command → Option String
  | .complete _ event _ => some event
  | _ => none

/-- A row of the job that no failure wrote. -/
def CompletionRow (id : Nat) (entry : String × String) : Bool := entry.2 = toString id ∧ entry.1 ≠ "job.failed"

theorem completed_command {step : Call × Result} {job : Nat} (told : deed step = some (job, .completed)) :
    ∃ event details, step.1.command = .complete job event details := by
  unfold deed at told
  split at told <;> cases told
  exact ⟨_, _, rfl⟩

theorem completion_entry (id : Nat) (step : Call × Result)
    (apart : step.1.command.completionEvent ≠ some "job.failed") :
    (auditEntry step).toList.countP (CompletionRow id) =
      ((deed step).bind fun (job, act) => if job = id then some act else none).toList.count .completed := by
  cases told : deed step with
  | none => simp [auditEntry, told]
  | some pair =>
    obtain ⟨job, act⟩ := pair
    cases act with
    | completed =>
      obtain ⟨event, details, named⟩ := completed_command told
      have other : event ≠ "job.failed" := by simpa [named, Command.completionEvent] using apart
      have same : job.repr = id.repr ↔ job = id := Nat.repr_inj
      by_cases equal : job = id <;> simp [auditEntry, told, named, CompletionRow, other, same, equal]
    | failed status => by_cases equal : job = id <;> simp [auditEntry, told, CompletionRow, equal]
    | _ => by_cases equal : job = id <;> simp [auditEntry, told, equal]

theorem completion_rows (id : Nat) (steps : List (Call × Result))
    (apart : ∀ step ∈ steps, step.1.command.completionEvent ≠ some "job.failed") :
    (steps.filterMap auditEntry).countP (CompletionRow id) = completions (deeds id steps) := by
  induction steps using List.reverseRecOn with
  | nil => rfl
  | append_singleton before last ih =>
    have earlier := ih fun step member => apart step (List.mem_append_left _ member)
    have entry := completion_entry id last (apart last (by simp))
    rw [List.filterMap_append, List.countP_append, earlier, deeds_append, completions, completions,
      List.count_append, ← entry]
    cases found : auditEntry last <;> simp [found]

/-! ## Safety -/

/-- The job a worker acts on as its holder. -/
def Command.held : Command → Option Nat
  | .heartbeat id _ | .checkpoint id _ | .defer id .. | .complete id .. | .fail id .. => some id
  | _ => none

theorem deed_held {result : Result} {job : Nat} (named : call.command.held = some id)
    (told : deed (call, result) = some (job, act)) :
    job = id ∧ act ≠ .enqueued ∧ act.isLease = false ∧ act ≠ .buried := by
  obtain ⟨worker, now, command⟩ := call
  cases result with
  | error why => cases command <;> cases told
  | ok reply => cases command <;> cases named <;> cases reply <;> cases told <;> simp [Deed.isLease]

/-- A holder's call that goes through finds its worker's name and a good lease in the row. -/
theorem held_acts {job : Nat} {result : Result} (named : call.command.held = some id)
    (told : deed (call, result) = some (job, act)) (acted : Acts loads state call job act after) :
    ∃ row, state.db.jobs.get? id = some row ∧ Owned call.worker call.now row := by
  obtain ⟨rfl, not_new, not_lease, not_buried⟩ := deed_held named told
  cases acted with
  | enqueued => exact absurd rfl not_new
  | leased | corrupt => cases not_lease
  | buried => exact absurd rfl not_buried
  | renewed _ found owned | saved _ found owned | deferred _ found owned | completed _ found owned
  | failed _ found owned => exact ⟨_, found, owned⟩

theorem Booked.owned {row : Job} {worker : String} {now : UtcTime} (booked : Booked acts (some row))
    (owned : Owned worker now row) : ∃ lease, tenure acts = .held worker lease ∧ now.micros < lease.micros := by
  obtain ⟨running, named, lease, recorded, good⟩ := owned
  obtain ⟨holder, until_, held, holder_named, until_recorded⟩ := booked.shown.held_of_running running
  cases named.symm.trans holder_named
  cases (Option.mem_def.mp recorded).symm.trans until_recorded
  rw [UtcTime.textLe_iff] at good
  exact ⟨lease, held, by omega⟩

theorem Booked.claimable {row : Job} {now : UtcTime} (booked : Booked acts (some row)) (claimable : Claimable now row) :
    tenure acts = .waiting ∨ ∃ worker lease, tenure acts = .held worker lease ∧ lease.micros < now.micros := by
  obtain ⟨-, queued | ⟨running, lease, recorded, expired⟩⟩ := claimable
  · exact .inl (booked.shown.waiting_of_queued queued)
  · obtain ⟨holder, until_, held, -, until_recorded⟩ := booked.shown.held_of_running running
    cases (Option.mem_def.mp recorded).symm.trans until_recorded
    rw [UtcTime.textLe_iff] at expired
    exact .inr ⟨holder, lease, held, by omega⟩

theorem Acts.not_settled (acted : Acts loads state call id act after) (valid : Valid loads state) {row : Job}
    (found : state.db.jobs.get? id = some row) (settled : row.status = .done ∨ row.status = .dead) :
    act = .buried ∧ row.status = .dead := by
  have not_open : row.status ≠ .queued ∧ row.status ≠ .running := by
    rcases settled with done | dead
    · simp [done]
    · simp [dead]
  cases acted with
  | enqueued named =>
    rw [named, valid.get?_next] at found
    cases found
  | leased _ row_found claimable | corrupt _ row_found claimable =>
    cases found.symm.trans row_found
    exact absurd claimable.status (not_or.mpr not_open)
  | buried pending =>
    obtain ⟨other, other_found, -, dead | ⟨running, -⟩⟩ := valid.burying _ _ _ pending
    · cases found.symm.trans other_found
      exact ⟨rfl, dead⟩
    · cases found.symm.trans other_found
      exact absurd running not_open.2
  | renewed _ row_found owned | saved _ row_found owned | deferred _ row_found owned | completed _ row_found owned
  | failed _ row_found owned =>
    cases found.symm.trans row_found
    exact absurd owned.1 not_open.2

/-- A job that is done or dead keeps its status through any step. -/
theorem settled_step (dumps : Value → String) (valid : Valid loads state) (call : Call) {row : Job} (found : state.db.jobs.get? id = some row)
    (settled : row.status = .done ∨ row.status = .dead) :
    ∃ later, (step dumps loads call state).2.db.jobs.get? id = some later ∧ later.status = row.status := by
  rcases @step_cases dumps loads call state with ⟨-, same⟩ | ⟨⟨job, act⟩, -, acted⟩
  · exact ⟨row, by rw [same, found], rfl⟩
  · by_cases same : job = id
    · subst same
      obtain ⟨rfl, dead⟩ := acted.not_settled valid found settled
      generalize (step dumps loads call state).2 = after at acted
      cases acted with
      | @buried _ why pending =>
        have named : row.id = job := Table.key_of_get? found
        refine ⟨row.bury why call.now, ?_, dead.symm⟩
        dsimp only [bury]
        rw [found]
        exact get?_written state.db.jobs (show (row.bury why call.now).id = job from named)
    · exact ⟨row, (acted.other (Ne.symm same)).trans found, rfl⟩

theorem settled_run (calls later : List Call) {row : Job}
    (found : (reached dumps loads calls).db.jobs.get? id = some row)
    (settled : row.status = .done ∨ row.status = .dead) :
    ∃ kept, (reached dumps loads (calls ++ later)).db.jobs.get? id = some kept ∧ kept.status = row.status := by
  induction later using List.reverseRecOn with
  | nil => exact ⟨row, by rwa [List.append_nil], rfl⟩
  | append_singleton before call ih =>
    obtain ⟨kept, kept_found, same⟩ := ih
    have valid := valid_run dumps loads (calls ++ before)
    obtain ⟨last, last_found, equal⟩ := settled_step dumps valid call kept_found (same ▸ settled)
    refine ⟨last, ?_, equal.trans same⟩
    simpa only [reached, ← List.append_assoc, final_concat] using last_found

/-- The call goes through on the job, from the state. -/
def Goes (dumps : Value → String) (loads : String → Except String Value) (state : State) (call : Call) (id : Nat) :
    Prop := ∃ act, deed (call, (step dumps loads call state).1) = some (id, act)

/-- Behind any calls of any workers: a job is leased only when it waits or its lease has
run out, and only the worker of that lease acts on it while the lease is good; done and
dead are final; a done job was completed once, as the audit log says; the attempts are the
leases less the deferrals. No reading of a clock is assumed to be in order. -/
theorem jobs_leased_safely (dumps : Value → String) (loads : String → Except String Value) (calls : List Call)
    (id : Nat) :
    let state := reached dumps loads calls
    let acts := deeds id (history dumps loads calls)
    (∀ first second : Call, first.command.held = some id → second.command.held = some id →
      Goes dumps loads state first id → Goes dumps loads state second id → first.worker = second.worker) ∧
    (∀ call : Call, call.command.held = some id → Goes dumps loads state call id →
      ∃ lease, tenure acts = .held call.worker lease ∧ call.now.micros < lease.micros) ∧
    (∀ (call : Call) (worker : String) (lease : UtcTime),
      deed (call, (step dumps loads call state).1) = some (id, .leased worker lease) → worker = call.worker ∧
        (tenure acts = .waiting ∨
          ∃ holder old, tenure acts = .held holder old ∧ old.micros < call.now.micros)) ∧
    (∀ (later : List Call) (row : Job), state.db.jobs.get? id = some row → (row.status = .done ∨ row.status = .dead) →
      ∃ kept, (reached dumps loads (calls ++ later)).db.jobs.get? id = some kept ∧ kept.status = row.status) ∧
    state.db.auditLog.map (fun row => (row.event, row.entityId)) =
      (history dumps loads calls).filterMap auditEntry ∧
    (∀ row, state.db.jobs.get? id = some row →
      completions acts = (if row.status = .done then 1 else 0) ∧
      ((∀ call ∈ calls, call.command.completionEvent ≠ some "job.failed") →
        state.db.auditLog.countP (fun row => CompletionRow id (row.event, row.entityId)) =
          if row.status = .done then 1 else 0) ∧
      row.attempts = leases acts - defers acts ∧ 0 ≤ row.attempts) := by
  intro state acts
  have valid := valid_run dumps loads calls
  have booked := booked_run dumps loads calls id
  -- a call that goes through is made within the lease that the deeds so far show
  have holder : ∀ call : Call, call.command.held = some id → Goes dumps loads state call id →
      ∃ lease, tenure acts = .held call.worker lease ∧ call.now.micros < lease.micros := by
    rintro call named ⟨act, told⟩
    rcases @step_cases dumps loads call state with ⟨silent, -⟩ | ⟨⟨job, done⟩, said, acted⟩
    · cases silent.symm.trans told
    · obtain ⟨row, found, owned⟩ := held_acts named said acted
      rw [found] at booked
      exact booked.owned owned
  refine ⟨?_, holder, ?_, fun later row found settled => settled_run calls later found settled, audit_run calls, ?_⟩
  · intro first second first_named second_named first_goes second_goes
    obtain ⟨lease, held, -⟩ := holder first first_named first_goes
    obtain ⟨other, other_held, -⟩ := holder second second_named second_goes
    exact (Tenure.held.inj (held.symm.trans other_held)).1
  · intro call worker lease told
    rcases @step_cases dumps loads call state with ⟨silent, -⟩ | ⟨⟨job, done⟩, said, acted⟩
    · cases silent.symm.trans told
    · cases said.symm.trans told
      generalize (step dumps loads call state).2 = after at acted
      cases acted with
      | leased _ found claimable | corrupt _ found claimable =>
        rw [found] at booked
        exact ⟨rfl, booked.claimable claimable⟩
  · intro row found
    rw [found] at booked
    have finished : tenure acts = .done ↔ row.status = .done := booked.shown.done_iff
    have once : completions acts = if row.status = .done then 1 else 0 :=
      booked.completions.trans (if_congr finished rfl rfl)
    refine ⟨once, fun named => ?_, booked.attempts row rfl, (booked.used row rfl).1⟩
    have told : ∀ taken ∈ history dumps loads calls, taken.1.command.completionEvent ≠ some "job.failed" := by
      intro taken member
      apply named
      rw [← trace_inputs (step dumps loads) State.start calls]
      exact List.mem_map_of_mem member
    rw [← once, ← completion_rows id _ told, ← audit_run calls, List.countP_map]
    rfl

end AiStore.StoreDB
