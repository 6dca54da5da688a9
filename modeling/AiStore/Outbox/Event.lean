import AiStore.Domain.Values

/-! Outbox events and the calls on an outbox.

Tenants, events, workers and aggregates are named by one type of identifiers;
idempotency keys have a type of their own. What an outbox operation may change
is kept apart as the event's delivery.
-/

set_option autoImplicit false

namespace AiStore

inductive OutboxState where
  | pending
  | leased
  | retry
  | completed
  | dead
  deriving DecidableEq, Repr

namespace OutboxState

def Terminal (state : OutboxState) : Prop := state = .completed ∨ state = .dead

instance : DecidablePred Terminal := fun state => by
  unfold Terminal
  exact inferInstance

end OutboxState

structure Delivery (ι : Type) where
  state : OutboxState
  checkpoint : Mapping := []
  leaseOwner : Option ι := none
  leaseUntil : Option Timestamp := none
  fencingToken : Nat := 0
  completedAt : Option Timestamp := none
  attempts : Nat := 0
  availableAt : Option Timestamp := none
  lastError : Option String := none
  deriving DecidableEq

structure OutboxEvent (ι κ : Type) extends Delivery ι where
  id : ι
  tenantId : ι
  topic : String
  aggregateRef : ι
  payload : Mapping
  idempotencyKey : κ
  createdAt : Timestamp
  deriving DecidableEq

variable {ι κ : Type}

namespace Delivery

/-- Somebody's lease has not run out. -/
def Leased (delivery : Delivery ι) (now : Timestamp) : Prop := ∃ expiry ∈ delivery.leaseUntil, now < expiry

instance (delivery : Delivery ι) (now : Timestamp) : Decidable (delivery.Leased now) := by
  unfold Leased
  exact inferInstance

variable [DecidableEq ι]

/-- The test of both repositories before a worker may checkpoint or fail an event. -/
def HeldBy (delivery : Delivery ι) (worker : ι) (token : Nat) (now : Timestamp) : Prop :=
  delivery.state = .leased ∧ delivery.leaseOwner = some worker ∧ delivery.fencingToken = token ∧ delivery.Leased now

instance (delivery : Delivery ι) (worker : ι) (token : Nat) (now : Timestamp) :
    Decidable (delivery.HeldBy worker token now) := by
  unfold HeldBy
  exact inferInstance

/-- What the two repositories must agree on. -/
structure View (ι : Type) where
  state : OutboxState
  attempts : Nat
  availableAt : Option Timestamp
  leaseOwner : Option ι
  leaseUntil : Option Timestamp
  fencingToken : Nat
  deriving DecidableEq

def view (delivery : Delivery ι) : View ι where
  state := delivery.state
  attempts := delivery.attempts
  availableAt := delivery.availableAt
  leaseOwner := delivery.leaseOwner
  leaseUntil := delivery.leaseUntil
  fencingToken := delivery.fencingToken

omit [DecidableEq ι] in
theorem leased_of_view {first second : Delivery ι} (same : first.view = second.view) (now : Timestamp) :
    first.Leased now ↔ second.Leased now := by
  have := congrArg View.leaseUntil same
  simp only [view] at this
  rw [Leased, Leased, this]

omit [DecidableEq ι] in
theorem heldBy_of_view {first second : Delivery ι} (same : first.view = second.view) (worker : ι) (token : Nat)
    (now : Timestamp) : first.HeldBy worker token now ↔ second.HeldBy worker token now := by
  rw [HeldBy, HeldBy, leased_of_view same now]
  simp only [view, View.mk.injEq] at same
  rw [same.1, same.2.2.2.1, same.2.2.2.2.2]

end Delivery

namespace OutboxEvent

/-- The event a tenant knows under an id. -/
def Named (event : OutboxEvent ι κ) (tenant id : ι) : Prop := event.tenantId = tenant ∧ event.id = id

instance [DecidableEq ι] (event : OutboxEvent ι κ) (tenant id : ι) : Decidable (event.Named tenant id) := by
  unfold Named
  exact inferInstance

/-- The event with a new delivery, if it is the one named. -/
def deliver [DecidableEq ι] (event : OutboxEvent ι κ) (tenant id : ι) (delivery : Delivery ι) : OutboxEvent ι κ :=
  if event.Named tenant id then { event with toDelivery := delivery } else event

section

variable [DecidableEq ι] (event : OutboxEvent ι κ) (tenant id : ι) (delivery : Delivery ι)

@[simp] theorem deliver_id : (event.deliver tenant id delivery).id = event.id := by
  unfold deliver; split <;> rfl

@[simp] theorem deliver_tenantId : (event.deliver tenant id delivery).tenantId = event.tenantId := by
  unfold deliver; split <;> rfl

@[simp] theorem deliver_idempotencyKey :
    (event.deliver tenant id delivery).idempotencyKey = event.idempotencyKey := by
  unfold deliver; split <;> rfl

@[simp] theorem deliver_named {other_tenant other_id : ι} :
    (event.deliver tenant id delivery).Named other_tenant other_id ↔ event.Named other_tenant other_id := by
  simp [Named]

theorem deliver_of_named (named : event.Named tenant id) :
    event.deliver tenant id delivery = { event with toDelivery := delivery } := if_pos named

theorem deliver_of_not_named (apart : ¬ event.Named tenant id) : event.deliver tenant id delivery = event :=
  if_neg apart

end

/-- The event as every caller in the code base builds it. -/
def pendingEvent (id tenantId : ι) (topic : String) (aggregateRef : ι) (payload : Mapping) (idempotencyKey : κ)
    (createdAt : Timestamp) : OutboxEvent ι κ where
  state := .pending
  id := id
  tenantId := tenantId
  topic := topic
  aggregateRef := aggregateRef
  payload := payload
  idempotencyKey := idempotencyKey
  createdAt := createdAt

/-- Pending and never claimed. -/
def Fresh (event : OutboxEvent ι κ) : Prop :=
  event.state = .pending ∧ event.leaseOwner = none ∧ event.leaseUntil = none ∧
    event.fencingToken = 0 ∧ event.attempts = 0

theorem fresh_pendingEvent (id tenantId : ι) (topic : String) (aggregateRef : ι) (payload : Mapping)
    (idempotencyKey : κ) (createdAt : Timestamp) :
    (pendingEvent id tenantId topic aggregateRef payload idempotencyKey createdAt).Fresh :=
  ⟨rfl, rfl, rfl, rfl, rfl⟩

end OutboxEvent

inductive OutboxAction (ι κ : Type) where
  | append (event : OutboxEvent ι κ)
  | claim (tenant id worker : ι) (leaseUntil : Timestamp)
  | claimNext (tenant worker : ι) (leaseUntil : Timestamp)
  | checkpoint (tenant id worker : ι) (token : Nat) (checkpoint : Mapping) (completed : Bool)
  | fail (tenant id worker : ι) (token : Nat) (error : String) (maxAttempts : Int)

/-- The tenant an action is about. -/
def OutboxAction.tenant : OutboxAction ι κ → ι
  | append event => event.tenantId
  | claim tenant .. => tenant
  | claimNext tenant .. => tenant
  | checkpoint tenant .. => tenant
  | fail tenant .. => tenant

/-- An outbox call and the clock when it is made. -/
structure OutboxCall (ι κ : Type) where
  now : Timestamp
  action : OutboxAction ι κ

/-- The event a call returned, if it returned one. -/
abbrev OutboxResult (ι κ : Type) := Except Failure (Option (OutboxEvent ι κ))

/-- The clock of a run never goes back. -/
def ClockAdvances (calls : List (OutboxCall ι κ)) : Prop :=
  calls.Pairwise fun earlier later => earlier.now ≤ later.now

end AiStore
