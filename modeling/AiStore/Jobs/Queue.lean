import Mathlib.Logic.Function.Basic
import AiStore.Domain.Values
import AiStore.Library.Runs
import AiStore.Library.Table

/-! The job queue of the workers: `StoreDB`, one SQLite file with its jobs and its audit log.

Every call is one immediate transaction. Only `claim` does more: it decodes the
row behind the commit, and buries a row that does not decode in a statement of
its own, so other workers run in between.
-/

set_option autoImplicit false

namespace AiStore.StoreDB

open Library

/-- What `utcnow` reads, in microseconds since the epoch; rows keep its ISO text. -/
structure UtcTime where
  micros : Int
  deriving DecidableEq, Repr

namespace UtcTime

def timestamp (time : UtcTime) : Timestamp := ⟨time.micros, 0⟩

def addSeconds (time : UtcTime) (seconds : Int) : UtcTime := ⟨time.micros + 1000000 * seconds⟩

/-- The order of the texts. -/
def textLe (first second : UtcTime) : Prop := first.timestamp.textLe second.timestamp

instance : DecidableRel textLe := fun first second => by
  unfold textLe
  exact inferInstance

@[simp] theorem textLe_iff (first second : UtcTime) : first.textLe second ↔ first.micros ≤ second.micros :=
  Timestamp.textLe_iff_le rfl

end UtcTime

inductive JobStatus where
  | queued
  | running
  | done
  | dead
  deriving DecidableEq, Repr

structure Job where
  id : Nat
  kind : String
  payload : String
  status : JobStatus
  attempts : Int
  availableAt : UtcTime
  leasedUntil : Option UtcTime
  workerId : Option String
  lastError : Option String
  checkpoint : Option String
  createdAt : UtcTime
  updatedAt : UtcTime
  deriving DecidableEq, Repr

structure AuditRow where
  event : String
  entityId : String
  details : String
  createdAt : UtcTime
  deriving DecidableEq, Repr

/-- The two tables; `sequence` is the `AUTOINCREMENT` counter of `jobs`. -/
structure Database where
  jobs : Table Job.id
  sequence : Nat
  auditLog : List AuditRow

def Database.empty : Database := ⟨.empty, 0, []⟩

/-- `LeaseError`, and the `TypeError` of `json.dumps`. -/
inductive Raised where
  | leaseError (message : String)
  | typeError (message : String)
  deriving DecidableEq, Repr

/-! `dumps` is `json.dumps` on what it accepts; `loads` is `json.loads`, with the text of its error. -/

section

variable (dumps : Value → String) (loads : String → Except String Value)

def dumped (value : Value) : Except Raised String :=
  if value.serialisable then .ok (dumps value) else .error (.typeError "Object is not JSON serializable")

def enqueue (kind : String) (payload : Value) (now : UtcTime) (db : Database) : Except Raised (Nat × Database) :=
  match dumped dumps payload with
  | .error why => .error why
  | .ok text =>
      let row : Job :=
        { id := db.sequence + 1
          kind
          payload := text
          status := .queued
          attempts := 0
          availableAt := now
          leasedUntil := none
          workerId := none
          lastError := none
          checkpoint := none
          createdAt := now
          updatedAt := now }
      .ok (row.id, { db with jobs := db.jobs.put row, sequence := row.id })

/-- The `WHERE` of `claim`. -/
def Claimable (now : UtcTime) (job : Job) : Prop :=
  job.availableAt.textLe now ∧
    (job.status = .queued ∨ job.status = .running ∧ ∃ lease ∈ job.leasedUntil, ¬ now.textLe lease)

instance (now : UtcTime) : DecidablePred (Claimable now) := fun job => by
  unfold Claimable
  exact inferInstance

/-! What the `UPDATE`s write. -/

namespace Job

def leaseTo (job : Job) (worker : String) (lease now : UtcTime) : Job :=
  { job with
    status := .running
    attempts := job.attempts + 1
    leasedUntil := some lease
    workerId := some worker
    updatedAt := now }

def bury (job : Job) (why : String) (now : UtcTime) : Job :=
  { job with
    status := .dead
    leasedUntil := none
    lastError := some s!"corrupt job row: {why}"
    updatedAt := now }

def renew (job : Job) (lease now : UtcTime) : Job :=
  { job with
    leasedUntil := some lease
    updatedAt := now }

def save (job : Job) (checkpoint : String) (now : UtcTime) : Job :=
  { job with
    checkpoint := some checkpoint
    updatedAt := now }

def postpone (job : Job) (available : UtcTime) (reason : String) (now : UtcTime) : Job :=
  { job with
    status := .queued
    attempts := job.attempts - 1
    leasedUntil := none
    availableAt := available
    lastError := some reason
    updatedAt := now }

def finish (job : Job) (now : UtcTime) : Job :=
  { job with
    status := .done
    leasedUntil := none
    updatedAt := now }

def release (job : Job) (status : JobStatus) (available : UtcTime) (message : String) (now : UtcTime) : Job :=
  { job with
    status
    availableAt := available
    leasedUntil := none
    lastError := some message
    updatedAt := now }

end Job

/-- The transaction of `claim`; the row handed back is the one read, before its update. -/
def claimRow (worker : String) (leaseSeconds : Int) (now : UtcTime) (db : Database) : Option Job × Database :=
  match db.jobs.rows.find? fun job => Claimable now job with
  | none => (none, db)
  | some row => (some row, { db with jobs := db.jobs.put (row.leaseTo worker (now.addSeconds leaseSeconds) now) })

/-- The payload and the checkpoint of a row, decoded; an empty checkpoint is `{}`. -/
def decode (job : Job) : Except String (Value × Value) :=
  match loads job.payload with
  | .error why => .error why
  | .ok payload =>
      match job.checkpoint with
      | none | some "" => .ok (payload, .dict [])
      | some text => (loads text).map fun checkpoint => (payload, checkpoint)

/-- The dead letter of a row that does not decode: nothing is checked again. -/
def bury (id : Nat) (why : String) (now : UtcTime) (db : Database) : Database :=
  match db.jobs.get? id with
  | none => db
  | some row => { db with jobs := db.jobs.put (row.bury why now) }

/-- The test of `_owned_running`. -/
def Owned (worker : String) (now : UtcTime) (job : Job) : Prop :=
  job.status = .running ∧ job.workerId = some worker ∧ ∃ lease ∈ job.leasedUntil, ¬ lease.textLe now

instance (worker : String) (now : UtcTime) : DecidablePred (Owned worker now) := fun job => by
  unfold Owned
  exact inferInstance

def ownedRunning (id : Nat) (worker : String) (now : UtcTime) (db : Database) : Except Raised Job :=
  match db.jobs.get? id with
  | none => .error (.leaseError s!"job {id} not found")
  | some row =>
      if Owned worker now row then .ok row
      else .error (.leaseError s!"job {id} lease is stale or owned by another worker")

def heartbeat (id : Nat) (worker : String) (leaseSeconds : Int) (now : UtcTime) (db : Database) :
    Except Raised Database :=
  (ownedRunning id worker now db).map fun row =>
    { db with jobs := db.jobs.put (row.renew (now.addSeconds leaseSeconds) now) }

def checkpoint (id : Nat) (worker : String) (data : Value) (now : UtcTime) (db : Database) :
    Except Raised Database :=
  match ownedRunning id worker now db with
  | .error why => .error why
  | .ok row => (dumped dumps data).map fun text => { db with jobs := db.jobs.put (row.save text now) }

/-- `text[:size]`. -/
def cut (size : Nat) (text : String) : String := .ofList (text.toList.take size)

def defer (id : Nat) (worker : String) (delaySeconds : Int) (reason : String) (now : UtcTime) (db : Database) :
    Except Raised Database :=
  (ownedRunning id worker now db).map fun row =>
    { db with jobs := db.jobs.put (row.postpone (now.addSeconds delaySeconds) (cut 2000 reason) now) }

def complete (id : Nat) (worker event : String) (details : Value) (now : UtcTime) (db : Database) :
    Except Raised Database :=
  match ownedRunning id worker now db with
  | .error why => .error why
  | .ok row => (dumped dumps details).map fun text =>
      { db with
        jobs := db.jobs.put (row.finish now)
        auditLog := db.auditLog ++ [⟨event, toString id, text, now⟩] }

def statusText : JobStatus → String
  | .queued => "queued"
  | .running => "running"
  | .done => "done"
  | .dead => "dead"

/-- The status a failure leaves. -/
def failedStatus (row : Job) (maxAttempts : Int) (permanent : Bool) : JobStatus :=
  if permanent ∨ maxAttempts ≤ row.attempts then .dead else .queued

def retryDelay (attempts : Int) : Int := min (2 ^ attempts.toNat) 60

def failureDetails (row : Job) (status : JobStatus) (message : String) : Value :=
  .dict [("status", .text (statusText status)), ("attempts", .int row.attempts), ("error", .text (cut 500 message))]

def fail (id : Nat) (worker message : String) (maxAttempts : Int) (permanent : Bool) (now : UtcTime)
    (db : Database) : Except Raised (JobStatus × Database) :=
  (ownedRunning id worker now db).map fun row =>
    let status := failedStatus row maxAttempts permanent
    let available := if status = .dead then now else now.addSeconds (retryDelay row.attempts)
    (status,
      { db with
        jobs := db.jobs.put (row.release status available (cut 2000 message) now)
        auditLog := db.auditLog ++
          [⟨"job.failed", toString id, dumps (failureDetails row status message), now⟩] })

/-! ## Workers -/

inductive Command where
  | enqueue (kind : String) (payload : Value)
  | claim (leaseSeconds : Int)
  /-- The rest of a `claim` that read a row it cannot decode. -/
  | bury
  | heartbeat (id : Nat) (leaseSeconds : Int)
  | checkpoint (id : Nat) (data : Value)
  | defer (id : Nat) (delaySeconds : Int) (reason : String)
  | complete (id : Nat) (event : String) (details : Value)
  | fail (id : Nat) (message : String) (maxAttempts : Int) (permanent : Bool)

/-- A worker, known by its name, and what its clock read on entering the call. -/
structure Call where
  worker : String
  now : UtcTime
  command : Command

inductive Reply where
  | enqueued (id : Nat)
  | empty
  | claimed (row : Job) (payload checkpoint : Value)
  /-- `claim` has leased a row that it must bury. -/
  | corrupt (row : Job) (why : String)
  | buried (id : Nat)
  | done
  | failed (status : JobStatus)
  /-- A worker inside `claim` makes no other call, and nobody else finishes its `claim`. -/
  | idle
  deriving DecidableEq

abbrev Result := Except Raised Reply

/-- The database, and the corrupt row that a worker inside `claim` holds. -/
structure State where
  db : Database
  burying : String → Option (Nat × String)

def State.start : State := ⟨.empty, fun _ => none⟩

def State.leave (state : State) (reply : Reply) : Except Raised Database → Except Raised (Reply × State)
  | .error why => .error why
  | .ok db => .ok (reply, { state with db })

def claim (worker : String) (leaseSeconds : Int) (now : UtcTime) (state : State) : Reply × State :=
  match claimRow worker leaseSeconds now state.db with
  | (none, db) => (.empty, { state with db })
  | (some row, db) =>
      match decode loads row with
      | .ok (payload, checkpoint) => (.claimed row payload checkpoint, { state with db })
      | .error why => (.corrupt row why, ⟨db, Function.update state.burying worker (some (row.id, why))⟩)

def perform (call : Call) (state : State) : Except Raised (Reply × State) :=
  match state.burying call.worker, call.command with
  | some (id, why), .bury =>
      .ok (.buried id, ⟨bury id why call.now state.db, Function.update state.burying call.worker none⟩)
  | some _, _ => .ok (.idle, state)
  | none, .enqueue kind payload =>
      (enqueue dumps kind payload call.now state.db).map fun (id, db) => (.enqueued id, { state with db })
  | none, .claim leaseSeconds => .ok (claim loads call.worker leaseSeconds call.now state)
  | none, .bury => .ok (.idle, state)
  | none, .heartbeat id leaseSeconds => state.leave .done (heartbeat id call.worker leaseSeconds call.now state.db)
  | none, .checkpoint id data => state.leave .done (checkpoint dumps id call.worker data call.now state.db)
  | none, .defer id delay reason => state.leave .done (defer id call.worker delay reason call.now state.db)
  | none, .complete id event details =>
      state.leave .done (complete dumps id call.worker event details call.now state.db)
  | none, .fail id message maxAttempts permanent =>
      (fail dumps id call.worker message maxAttempts permanent call.now state.db).map fun (status, db) =>
        (.failed status, { state with db })

/-- The step of a run, with what the call returned or raised. -/
def step (call : Call) (state : State) : Result × State := attempt state (perform dumps loads call state)

end

end AiStore.StoreDB
