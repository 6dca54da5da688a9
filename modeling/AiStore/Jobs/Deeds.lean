import AiStore.Jobs.Queue

/-! What the steps of a run have done to a job, read off the calls and their results. -/

set_option autoImplicit false

namespace AiStore.StoreDB

open Library

inductive Deed where
  | enqueued
  | leased (worker : String) (lease : UtcTime)
  | renewed (lease : UtcTime)
  | saved
  | deferred
  | completed
  | failed (status : JobStatus)
  | buried
  deriving DecidableEq, Repr

/-- The job that a call has changed, and how. -/
def deed : Call × Result → Option (Nat × Deed)
  | (⟨_, _, .enqueue ..⟩, .ok (.enqueued id)) => some (id, .enqueued)
  | (⟨worker, now, .claim seconds⟩, .ok (.claimed row _ _)) => some (row.id, .leased worker (now.addSeconds seconds))
  | (⟨worker, now, .claim seconds⟩, .ok (.corrupt row _)) => some (row.id, .leased worker (now.addSeconds seconds))
  | (⟨_, _, .bury⟩, .ok (.buried id)) => some (id, .buried)
  | (⟨_, now, .heartbeat id seconds⟩, .ok .done) => some (id, .renewed (now.addSeconds seconds))
  | (⟨_, _, .checkpoint id ..⟩, .ok .done) => some (id, .saved)
  | (⟨_, _, .defer id ..⟩, .ok .done) => some (id, .deferred)
  | (⟨_, _, .complete id ..⟩, .ok .done) => some (id, .completed)
  | (⟨_, _, .fail id ..⟩, .ok (.failed status)) => some (id, .failed status)
  | _ => none

/-- The event and the entity of the audit row that a call has written. -/
def auditEntry (step : Call × Result) : Option (String × String) :=
  match deed step, step.1.command with
  | some (id, .completed), .complete _ event _ => some (event, toString id)
  | some (id, .failed _), _ => some ("job.failed", toString id)
  | _, _ => none

/-- What a run has done to one job, oldest first. -/
def deeds (id : Nat) (steps : List (Call × Result)) : List Deed :=
  steps.filterMap fun step => (deed step).bind fun (job, act) => if job = id then some act else none

def Deed.isLease : Deed → Bool
  | .leased .. => true
  | _ => false

/-- The times `claim` has leased the job. -/
def leases (acts : List Deed) : Nat := acts.countP Deed.isLease

def defers (acts : List Deed) : Nat := acts.count .deferred

def completions (acts : List Deed) : Nat := acts.count .completed

/-- The life of a job, for somebody who sees only what the calls return. -/
inductive Tenure where
  | absent
  | waiting
  | held (worker : String) (lease : UtcTime)
  | done
  | dead
  deriving DecidableEq, Repr

def Tenure.after : Tenure → Deed → Tenure
  | _, .enqueued | _, .deferred => .waiting
  | _, .leased worker lease => .held worker lease
  | .held worker _, .renewed lease => .held worker lease
  | _, .completed => .done
  | _, .failed .queued => .waiting
  | _, .failed _ | _, .buried => .dead
  | tenure, .renewed _ | tenure, .saved => tenure

def tenure (acts : List Deed) : Tenure := acts.foldl Tenure.after .absent

@[simp] theorem tenure_append (acts : List Deed) (act : Deed) : tenure (acts ++ [act]) = (tenure acts).after act := by
  simp [tenure]

@[simp] theorem deeds_nil (id : Nat) : deeds id [] = [] := rfl

theorem deeds_append (id : Nat) (steps : List (Call × Result)) (last : Call × Result) :
    deeds id (steps ++ [last]) =
      deeds id steps ++ ((deed last).bind fun (job, act) => if job = id then some act else none).toList := by
  unfold deeds
  rw [List.filterMap_append]
  cases found : (deed last).bind fun (job, act) => if job = id then some act else none <;>
    simp [found]

variable {dumps : Value → String} {loads : String → Except String Value}

/-- The row that a change is made to and what the change leaves, guards included. -/
inductive Acts (loads : String → Except String Value) (state : State) (call : Call) : Nat → Deed → State → Prop where
  | enqueued {row : Job} : row.id = state.db.sequence + 1 → row.status = .queued → row.attempts = 0 →
      Acts loads state call row.id .enqueued
        { state with db := { state.db with jobs := state.db.jobs.put row, sequence := row.id } }
  | leased {row : Job} {lease : UtcTime} : state.burying call.worker = none →
      state.db.jobs.get? row.id = some row → Claimable call.now row → (∀ why, decode loads row ≠ .error why) →
      Acts loads state call row.id (.leased call.worker lease)
        { state with db := { state.db with jobs := state.db.jobs.put (row.leaseTo call.worker lease call.now) } }
  | corrupt {row : Job} {lease : UtcTime} {why : String} : state.burying call.worker = none →
      state.db.jobs.get? row.id = some row → Claimable call.now row → decode loads row = .error why →
      Acts loads state call row.id (.leased call.worker lease)
        ⟨{ state.db with jobs := state.db.jobs.put (row.leaseTo call.worker lease call.now) },
          Function.update state.burying call.worker (some (row.id, why))⟩
  | buried {id : Nat} {why : String} : state.burying call.worker = some (id, why) →
      Acts loads state call id .buried
        ⟨bury id why call.now state.db, Function.update state.burying call.worker none⟩
  | renewed {row : Job} {lease : UtcTime} : state.burying call.worker = none →
      state.db.jobs.get? row.id = some row → Owned call.worker call.now row →
      Acts loads state call row.id (.renewed lease)
        { state with db := { state.db with jobs := state.db.jobs.put (row.renew lease call.now) } }
  | saved {row : Job} {text : String} : state.burying call.worker = none →
      state.db.jobs.get? row.id = some row → Owned call.worker call.now row →
      Acts loads state call row.id .saved
        { state with db := { state.db with jobs := state.db.jobs.put (row.save text call.now) } }
  | deferred {row : Job} {available : UtcTime} {reason : String} : state.burying call.worker = none →
      state.db.jobs.get? row.id = some row → Owned call.worker call.now row →
      Acts loads state call row.id .deferred
        { state with db := { state.db with jobs := state.db.jobs.put (row.postpone available reason call.now) } }
  | completed {row : Job} {event text : String} {details : Value} : state.burying call.worker = none →
      state.db.jobs.get? row.id = some row → Owned call.worker call.now row →
      call.command = .complete row.id event details →
      Acts loads state call row.id .completed
        { state with db := { state.db with
            jobs := state.db.jobs.put (row.finish call.now)
            auditLog := state.db.auditLog ++ [⟨event, toString row.id, text, call.now⟩] } }
  | failed {row : Job} {available : UtcTime} {message text details : String} {maxAttempts : Int} {permanent : Bool} :
      state.burying call.worker = none →
      state.db.jobs.get? row.id = some row → Owned call.worker call.now row →
      call.command = .fail row.id message maxAttempts permanent →
      Acts loads state call row.id (.failed (failedStatus row maxAttempts permanent))
        { state with db := { state.db with
            jobs := state.db.jobs.put
              (row.release (failedStatus row maxAttempts permanent) available text call.now)
            auditLog := state.db.auditLog ++ [⟨"job.failed", toString row.id, details, call.now⟩] } }

theorem enqueue_ok {kind : String} {payload : Value} {now : UtcTime} {db : Database} {result : Nat × Database}
    (inserted : enqueue dumps kind payload now db = .ok result) :
    ∃ row : Job, row.id = db.sequence + 1 ∧ row.status = .queued ∧ row.attempts = 0 ∧
      result = (row.id, { db with jobs := db.jobs.put row, sequence := row.id }) := by
  unfold enqueue at inserted
  split at inserted
  · cases inserted
  · cases inserted
    exact ⟨_, rfl, rfl, rfl, rfl⟩

theorem ownedRunning_ok {id : Nat} {worker : String} {now : UtcTime} {db : Database} {row : Job}
    (owned : ownedRunning id worker now db = .ok row) :
    row.id = id ∧ db.jobs.get? row.id = some row ∧ Owned worker now row := by
  unfold ownedRunning at owned
  split at owned
  · cases owned
  · next found =>
    split at owned
    · next held =>
      cases owned
      have named := Table.key_of_get? found
      exact ⟨named, named ▸ found, held⟩
    · cases owned

theorem claimRow_some {worker : String} {seconds : Int} {now : UtcTime} {db after : Database} {row : Job}
    (claimed : claimRow worker seconds now db = (some row, after)) :
    db.jobs.get? row.id = some row ∧ Claimable now row ∧
      after = { db with jobs := db.jobs.put (row.leaseTo worker (now.addSeconds seconds) now) } := by
  unfold claimRow at claimed
  split at claimed
  · cases claimed
  · next found =>
    cases claimed
    refine ⟨db.jobs.get?_key (List.mem_of_find?_eq_some found), ?_, rfl⟩
    simpa using List.find?_some found

theorem claimRow_none {worker : String} {seconds : Int} {now : UtcTime} {db after : Database}
    (claimed : claimRow worker seconds now db = (none, after)) : after = db := by
  unfold claimRow at claimed
  split at claimed
  · cases claimed
    rfl
  · cases claimed

/-- A claim leases the row it read, or finds none. -/
theorem claim_cases (worker : String) (seconds : Int) (now : UtcTime) (state : State)
    (free : state.burying worker = none) :
    let turn := claim loads worker seconds now state
    turn = (.empty, state) ∨
      ∃ act, deed (⟨worker, now, .claim seconds⟩, .ok turn.1) = some act ∧
        Acts loads state ⟨worker, now, .claim seconds⟩ act.1 act.2 turn.2 := by
  unfold claim
  cases claimed : claimRow worker seconds now state.db with
  | mk found after =>
    cases found with
    | none =>
      cases claimRow_none claimed
      exact .inl rfl
    | some row =>
      obtain ⟨found, claimable, rfl⟩ := claimRow_some claimed
      right
      cases decoded : decode loads row with
      | ok pair =>
        simp only [decoded]
        exact ⟨_, rfl, .leased free found claimable fun why failed => by cases decoded.symm.trans failed⟩
      | error why =>
        simp only [decoded]
        exact ⟨_, rfl, .corrupt free found claimable decoded⟩

/-- A step changes nothing, or one job in one of the ways above. -/
theorem step_cases (call : Call) (state : State) :
    let turn := step dumps loads call state
    deed (call, turn.1) = none ∧ turn.2 = state ∨
      ∃ act, deed (call, turn.1) = some act ∧ Acts loads state call act.1 act.2 turn.2 := by
  obtain ⟨worker, now, command⟩ := call
  unfold step perform
  cases pending : state.burying worker with
  | some held =>
    obtain ⟨id, why⟩ := held
    cases command with
    | bury => exact .inr ⟨_, rfl, .buried pending⟩
    | _ => exact .inl ⟨rfl, rfl⟩
  | none =>
    cases command with
    | bury => exact .inl ⟨rfl, rfl⟩
    | claim seconds =>
      rcases @claim_cases loads worker seconds now state pending with quiet | acted
      · simp only [quiet, attempt_ok]
        exact .inl ⟨rfl, trivial⟩
      · exact .inr acted
    | enqueue kind payload =>
      dsimp only
      cases inserted : enqueue dumps kind payload now state.db with
      | error why => exact .inl ⟨rfl, rfl⟩
      | ok pair =>
        obtain ⟨row, fresh, waiting, unused, rfl⟩ := enqueue_ok inserted
        exact .inr ⟨_, rfl, .enqueued fresh waiting unused⟩
    | heartbeat id seconds =>
      dsimp only [heartbeat]
      cases owned : ownedRunning id worker now state.db with
      | error why => exact .inl ⟨rfl, rfl⟩
      | ok row =>
        obtain ⟨rfl, found, held⟩ := ownedRunning_ok owned
        exact .inr ⟨_, rfl, .renewed pending found held⟩
    | checkpoint id data =>
      dsimp only [checkpoint]
      cases owned : ownedRunning id worker now state.db with
      | error why => exact .inl ⟨rfl, rfl⟩
      | ok row =>
        obtain ⟨rfl, found, held⟩ := ownedRunning_ok owned
        cases dumped dumps data with
        | error why => exact .inl ⟨rfl, rfl⟩
        | ok text => exact .inr ⟨_, rfl, .saved pending found held⟩
    | defer id delay reason =>
      dsimp only [defer]
      cases owned : ownedRunning id worker now state.db with
      | error why => exact .inl ⟨rfl, rfl⟩
      | ok row =>
        obtain ⟨rfl, found, held⟩ := ownedRunning_ok owned
        exact .inr ⟨_, rfl, .deferred pending found held⟩
    | complete id event details =>
      dsimp only [complete]
      cases owned : ownedRunning id worker now state.db with
      | error why => exact .inl ⟨rfl, rfl⟩
      | ok row =>
        obtain ⟨rfl, found, held⟩ := ownedRunning_ok owned
        cases dumped dumps details with
        | error why => exact .inl ⟨rfl, rfl⟩
        | ok text => exact .inr ⟨_, rfl, .completed pending found held rfl⟩
    | fail id message maxAttempts permanent =>
      dsimp only [fail]
      cases owned : ownedRunning id worker now state.db with
      | error why => exact .inl ⟨rfl, rfl⟩
      | ok row =>
        obtain ⟨rfl, found, held⟩ := ownedRunning_ok owned
        exact .inr ⟨_, rfl, .failed pending found held rfl⟩

end AiStore.StoreDB
