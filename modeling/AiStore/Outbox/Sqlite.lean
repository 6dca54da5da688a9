import Mathlib.Data.List.Nodup
import AiStore.Library.Runs
import AiStore.Outbox.Event

/-! The outbox of `SQLiteRepository`: a table in rowid order.

Rows are never deleted, so a new row gets the largest rowid and goes to the end.
Times are kept as ISO texts: statements compare the texts, Python compares the
instants it reads back.
-/

set_option autoImplicit false

namespace AiStore.SQLiteRepository

open Library Failure

variable {ι κ : Type}

/-- The `tenants` ids that the foreign key refers to, and the `outbox` table. -/
structure Outbox (ι κ : Type) where
  tenants : List ι
  rows : List (OutboxEvent ι κ)
  primaryKey : (rows.map (·.id)).Nodup
  uniqueKey : (rows.map fun row => (row.tenantId, row.idempotencyKey)).Nodup

namespace Outbox

def empty (tenants : List ι) : Outbox ι κ := ⟨tenants, [], List.nodup_nil, List.nodup_nil⟩

variable [DecidableEq ι]

def find (box : Outbox ι κ) (tenant id : ι) : Option (OutboxEvent ι κ) :=
  box.rows.find? fun row => row.Named tenant id

/-- `UPDATE outbox SET … WHERE tenant_id=? AND id=?`. -/
def update (box : Outbox ι κ) (tenant id : ι) (delivery : Delivery ι) : Outbox ι κ where
  tenants := box.tenants
  rows := box.rows.map (·.deliver tenant id delivery)
  primaryKey := by simpa [Function.comp_def] using box.primaryKey
  uniqueKey := by simpa [Function.comp_def] using box.uniqueKey

def insert (box : Outbox ι κ) (row : OutboxEvent ι κ) (id_fresh : row.id ∉ box.rows.map (·.id))
    (key_fresh : (row.tenantId, row.idempotencyKey) ∉
      box.rows.map fun row => (row.tenantId, row.idempotencyKey)) : Outbox ι κ where
  tenants := box.tenants
  rows := box.rows ++ [row]
  primaryKey := by
    rw [List.map_append]
    exact List.Nodup.append box.primaryKey (List.nodup_singleton _) (by simpa using id_fresh)
  uniqueKey := by
    rw [List.map_append]
    exact List.Nodup.append box.uniqueKey (List.nodup_singleton _) (by simpa using key_fresh)

end Outbox

variable [DecidableEq ι] [DecidableEq κ]

/-- Any broken constraint is reported as a taken idempotency key. -/
def appendOutbox (event : OutboxEvent ι κ) (box : Outbox ι κ) : Except Failure (Outbox ι κ) :=
  if ¬ (Value.serialisableMapping event.payload ∧ Value.serialisableMapping event.checkpoint) then
    .error (typeError "Object is not JSON serializable")
  else
    let row := { event with availableAt := some (event.availableAt.getD event.createdAt) }
    if free : row.id ∉ box.rows.map (·.id) ∧
        (row.tenantId, row.idempotencyKey) ∉ (box.rows.map fun row => (row.tenantId, row.idempotencyKey)) ∧
        row.tenantId ∈ box.tenants then
      .ok (box.insert row free.1 free.2.1)
    else .error (conflictError "outbox idempotency key already exists")

def leaseTo (delivery : Delivery ι) (worker : ι) (leaseUntil : Timestamp) : Delivery ι :=
  { delivery with
    state := .leased
    leaseOwner := some worker
    leaseUntil := some leaseUntil
    fencingToken := delivery.fencingToken + 1
    attempts := delivery.attempts + 1
    lastError := none }

/-- `claim_outbox` on the row it read. -/
def claimDelivery (delivery : Delivery ι) (worker : ι) (now leaseUntil : Timestamp) : Except Failure (Delivery ι) :=
  if delivery.state.Terminal then .error (conflictError "outbox event is terminal")
  else if delivery.state = .retry ∧ ∃ available ∈ delivery.availableAt, now < available then
    .error (conflictError "outbox event is not available")
  else if delivery.Leased now then .error (conflictError "outbox event already leased")
  else .ok (leaseTo delivery worker leaseUntil)

def claimOutbox (tenant id worker : ι) (now leaseUntil : Timestamp) (box : Outbox ι κ) :
    Except Failure (OutboxEvent ι κ × Outbox ι κ) :=
  match box.find tenant id with
  | none =>
      if ∃ row ∈ box.rows, row.id = id then .error (tenantBoundaryError "cross-tenant outbox access denied")
      else .error (notFoundError "outbox event not found")
  | some row =>
      (claimDelivery row.toDelivery worker now leaseUntil).map fun delivery =>
        ({ row with toDelivery := delivery }, box.update tenant id delivery)

/-- The first half of the `WHERE` of `claim_next_outbox`, on texts. -/
def Ready (now : Timestamp) (row : OutboxEvent ι κ) : Prop :=
  (row.state = .pending ∨ row.state = .retry) ∧ (row.availableAt.getD row.createdAt).textLe now ∨
    row.state = .leased ∧ ∃ expiry ∈ row.leaseUntil, expiry.textLe now

instance (now : Timestamp) : DecidablePred (Ready (ι := ι) (κ := κ) now) := fun row => by
  unfold Ready
  exact inferInstance

/-- The query of `claim_next_outbox` over the table, split at the row under test. -/
def nextReady (tenant : ι) (now : Timestamp) : (prior rows : List (OutboxEvent ι κ)) → Option (OutboxEvent ι κ)
  | _, [] => none
  | prior, row :: rest =>
      if row.tenantId = tenant ∧ Ready now row ∧
          ¬ ∃ other ∈ prior, other.tenantId = row.tenantId ∧ other.aggregateRef = row.aggregateRef ∧
            ¬ other.state.Terminal then some row
      else nextReady tenant now (prior ++ [row]) rest

def claimNextOutbox (tenant worker : ι) (now leaseUntil : Timestamp) (box : Outbox ι κ) :
    Except Failure (Option (OutboxEvent ι κ) × Outbox ι κ) :=
  match nextReady tenant now [] box.rows with
  | none => .ok (none, box)
  | some row => (claimOutbox tenant row.id worker now leaseUntil box).map (Prod.map some (·))

/-- The row behind a lease that is still good. -/
def leasedRow (tenant id worker : ι) (token : Nat) (now : Timestamp) (box : Outbox ι κ) :
    Except Failure (OutboxEvent ι κ) :=
  match box.find tenant id with
  | none => .error (notFoundError "outbox event not found")
  | some row =>
      if row.HeldBy worker token now then .ok row
      else .error (conflictError "stale or expired outbox lease")

def checkpointDelivery (delivery : Delivery ι) (worker : ι) (checkpoint : Mapping) (now : Timestamp)
    (completed : Bool) : Delivery ι :=
  { delivery with
    checkpoint := checkpoint
    state := if completed then .completed else .leased
    completedAt := if completed then some now else none
    leaseOwner := if completed then none else some worker
    leaseUntil := if completed then none else delivery.leaseUntil }

/-- The event handed back keeps an old completion time that the row loses. -/
def checkpointOutbox (tenant id worker : ι) (token : Nat) (checkpoint : Mapping) (now : Timestamp)
    (completed : Bool) (box : Outbox ι κ) : Except Failure (OutboxEvent ι κ × Outbox ι κ) :=
  match leasedRow tenant id worker token now box with
  | .error why => .error why
  | .ok row =>
      if Value.serialisableMapping checkpoint then
        let written := checkpointDelivery row.toDelivery worker checkpoint now completed
        .ok ({ row with toDelivery :=
                { written with completedAt := if completed then some now else row.completedAt } },
              box.update tenant id written)
      else .error (typeError "Object is not JSON serializable")

def backoffSeconds (attempts : Nat) : Int := min 3600 (30 * 2 ^ (attempts - 1))

/-! `safeError` is `_safe_error`: the text with its secrets blanked out, cut to 500 characters. -/

section

variable (safeError : String → String)

def failDelivery (delivery : Delivery ι) (error : String) (now : Timestamp) (maxAttempts : Int) : Delivery ι :=
  let state := if maxAttempts ≤ delivery.attempts then OutboxState.dead else .retry
  { delivery with
    state := state
    availableAt := some (if state = .dead then now else now.addSeconds (backoffSeconds delivery.attempts))
    lastError := some (safeError error)
    leaseOwner := none
    leaseUntil := none }

def failOutbox (tenant id worker : ι) (token : Nat) (error : String) (now : Timestamp) (maxAttempts : Int)
    (box : Outbox ι κ) : Except Failure (OutboxEvent ι κ × Outbox ι κ) :=
  if maxAttempts < 1 then .error (valueError "max_attempts must be positive")
  else (leasedRow tenant id worker token now box).map fun row =>
    let written := failDelivery safeError row.toDelivery error now maxAttempts
    ({ row with toDelivery := written }, box.update tenant id written)

def perform (call : OutboxCall ι κ) (box : Outbox ι κ) :
    Except Failure (Option (OutboxEvent ι κ) × Outbox ι κ) :=
  match call.action with
  | .append event => (appendOutbox event box).map fun box => (none, box)
  | .claim tenant id worker leaseUntil =>
      (claimOutbox tenant id worker call.now leaseUntil box).map (Prod.map some (·))
  | .claimNext tenant worker leaseUntil => claimNextOutbox tenant worker call.now leaseUntil box
  | .checkpoint tenant id worker token checkpoint completed =>
      (checkpointOutbox tenant id worker token checkpoint call.now completed box).map (Prod.map some (·))
  | .fail tenant id worker token error maxAttempts =>
      (failOutbox safeError tenant id worker token error call.now maxAttempts box).map (Prod.map some (·))

def step (call : OutboxCall ι κ) (box : Outbox ι κ) : OutboxResult ι κ × Outbox ι κ :=
  attempt box (perform safeError call box)

end

end AiStore.SQLiteRepository
