import AiStore.Library.Dict
import AiStore.Library.Runs
import AiStore.Library.Table
import AiStore.Outbox.Event

/-! The outbox of `InMemoryRepository`: a dictionary of events and one of their keys. -/

set_option autoImplicit false

namespace AiStore.InMemoryRepository

open Library Failure

variable {ι κ : Type} [DecidableEq ι] [DecidableEq κ]

structure Outbox (ι κ : Type) [DecidableEq ι] [DecidableEq κ] where
  outbox : Dict (ι × ι) (OutboxEvent ι κ)
  outboxIdempotency : Dict (ι × κ) ι
  keyed : ∀ key event, outbox.get? key = some event → (event.tenantId, event.id) = key

namespace Outbox

def empty : Outbox ι κ := ⟨Dict.empty, Dict.empty, by simp⟩

/-- The events in the order of the dictionary. -/
def events (box : Outbox ι κ) : List (OutboxEvent ι κ) := box.outbox.values

def find (box : Outbox ι κ) (tenant id : ι) : Option (OutboxEvent ι κ) := box.outbox.get? (tenant, id)

/-- Write an event under its own name. -/
def put (box : Outbox ι κ) (event : OutboxEvent ι κ) : Outbox ι κ where
  outbox := box.outbox.set (event.tenantId, event.id) event
  outboxIdempotency := box.outboxIdempotency
  keyed key other bound := by
    rw [Dict.get?_set] at bound
    split at bound
    · next same => cases bound; exact same
    · exact box.keyed key other bound

def bindKey (box : Outbox ι κ) (tenant : ι) (key : κ) (id : ι) : Outbox ι κ :=
  { box with outboxIdempotency := box.outboxIdempotency.set (tenant, key) id }

theorem find_of_mem (box : Outbox ι κ) {event : OutboxEvent ι κ} (member : event ∈ box.events) :
    box.find event.tenantId event.id = some event := by
  obtain ⟨key, bound⟩ := (box.outbox.mem_values event).mp member
  rw [find, box.keyed key event bound]
  exact bound

theorem find_eq_some (box : Outbox ι κ) (tenant id : ι) (event : OutboxEvent ι κ) :
    box.find tenant id = some event ↔ event ∈ box.events ∧ event.Named tenant id := by
  constructor
  · intro found
    have named := box.keyed _ _ found
    exact ⟨Dict.mem_values_of_get? found, by simpa [OutboxEvent.Named] using named⟩
  · rintro ⟨member, rfl, rfl⟩
    exact box.find_of_mem member

/-- The dictionary lists its events under their names. -/
theorem keys_eq (box : Outbox ι κ) :
    box.outbox.entries.map Prod.fst = box.events.map fun event => (event.tenantId, event.id) := by
  rw [events, Dict.values, List.map_map]
  exact List.map_congr_left fun entry member =>
    (box.keyed entry.1 entry.2 ((box.outbox.mem_entries _ _).mp member)).symm

theorem events_put_of_fresh (box : Outbox ι κ) (event : OutboxEvent ι κ)
    (fresh : box.find event.tenantId event.id = none) : (box.put event).events = box.events ++ [event] :=
  Dict.values_set_of_fresh _ _ _ fresh

/-- Writing a new delivery of an event rewrites it where it stands. -/
theorem events_put_of_bound (box : Outbox ι κ) {tenant id : ι} {event : OutboxEvent ι κ} (delivery : Delivery ι)
    (bound : box.find tenant id = some event) :
    (box.put { event with toDelivery := delivery }).events = box.events.map (·.deliver tenant id delivery) := by
  obtain ⟨-, rfl, rfl⟩ := (box.find_eq_some _ _ _).mp bound
  simp only [events, Dict.values, put, Dict.entries_set_of_bound _ _ _ _ bound, List.map_map]
  refine List.map_congr_left fun entry member => ?_
  have key := box.keyed entry.1 entry.2 ((box.outbox.mem_entries _ _).mp member)
  by_cases same : entry.1 = (event.tenantId, event.id)
  · have found := (box.outbox.mem_entries _ _).mp member
    rw [same] at found key
    have equal : entry.2 = event := Option.some.inj (found.symm.trans bound)
    have named : event.Named event.tenantId event.id := ⟨rfl, rfl⟩
    simp only [Function.comp, same, if_true, equal, OutboxEvent.deliver_of_named _ _ _ _ named]
  · have apart : ¬ entry.2.Named event.tenantId event.id := fun named =>
      same (key.symm.trans (Prod.ext named.1 named.2))
    simp only [Function.comp, same, if_false, OutboxEvent.deliver_of_not_named _ _ _ _ apart]

end Outbox

def appendOutbox (event : OutboxEvent ι κ) (box : Outbox ι κ) : Except Failure (Outbox ι κ) :=
  if (box.outboxIdempotency.get? (event.tenantId, event.idempotencyKey)).isSome then
    .error (conflictError "outbox idempotency key already exists")
  else .ok ((box.put event).bindKey event.tenantId event.idempotencyKey event.id)

def outboxFor (tenant : ι) (box : Outbox ι κ) : List (OutboxEvent ι κ) :=
  box.events.filter fun event => event.tenantId = tenant

def leaseTo (delivery : Delivery ι) (worker : ι) (leaseUntil : Timestamp) : Delivery ι :=
  { delivery with
    state := .leased
    leaseOwner := some worker
    leaseUntil := some leaseUntil
    fencingToken := delivery.fencingToken + 1 }

/-- `claim_outbox` on the event it found. -/
def claimDelivery (delivery : Delivery ι) (worker : ι) (now leaseUntil : Timestamp) : Except Failure (Delivery ι) :=
  if delivery.state = .completed then .error (conflictError "outbox event already completed")
  else if delivery.Leased now ∧ delivery.leaseOwner ≠ some worker then
    .error (conflictError "outbox event already leased")
  else .ok (leaseTo delivery worker leaseUntil)

/-- Completed, or under another worker's lease. -/
def Refuses (delivery : Delivery ι) (worker : ι) (now : Timestamp) : Prop :=
  delivery.state = .completed ∨ delivery.Leased now ∧ delivery.leaseOwner ≠ some worker

theorem claimDelivery_of_refuses {delivery : Delivery ι} {worker : ι} {now : Timestamp}
    (refuses : Refuses delivery worker now) (leaseUntil : Timestamp) :
    ∃ message, claimDelivery delivery worker now leaseUntil = .error (conflictError message) := by
  unfold claimDelivery
  split
  · exact ⟨_, rfl⟩
  · next opened => exact ⟨_, if_pos (refuses.resolve_left opened)⟩

theorem claimDelivery_of_accepts {delivery : Delivery ι} {worker : ι} {now : Timestamp}
    (accepts : ¬ Refuses delivery worker now) (leaseUntil : Timestamp) :
    claimDelivery delivery worker now leaseUntil = .ok (leaseTo delivery worker leaseUntil) := by
  rw [Refuses, not_or] at accepts
  rw [claimDelivery, if_neg accepts.1, if_neg accepts.2]

def claimOutbox (tenant id worker : ι) (now leaseUntil : Timestamp) (box : Outbox ι κ) :
    Except Failure (OutboxEvent ι κ × Outbox ι κ) :=
  match box.find tenant id with
  | none =>
      if ∃ event ∈ box.events, event.id = id then
        .error (tenantBoundaryError "cross-tenant outbox access denied")
      else .error (notFoundError "outbox event not found")
  | some event =>
      (claimDelivery event.toDelivery worker now leaseUntil).map fun delivery =>
        let event := { event with toDelivery := delivery }
        (event, box.put event)

section

variable {box : Outbox ι κ} {tenant id worker : ι} {event : OutboxEvent ι κ} {now : Timestamp}

theorem claimOutbox_of_refuses (found : box.find tenant id = some event)
    (refuses : Refuses event.toDelivery worker now) (leaseUntil : Timestamp) :
    ∃ message, claimOutbox tenant id worker now leaseUntil box = .error (conflictError message) := by
  obtain ⟨message, refused⟩ := claimDelivery_of_refuses refuses leaseUntil
  exact ⟨message, by simp only [claimOutbox, found, refused, Except.map]⟩

theorem claimOutbox_of_accepts (found : box.find tenant id = some event)
    (accepts : ¬ Refuses event.toDelivery worker now) (leaseUntil : Timestamp) :
    claimOutbox tenant id worker now leaseUntil box =
      .ok ({ event with toDelivery := leaseTo event.toDelivery worker leaseUntil },
        box.put { event with toDelivery := leaseTo event.toDelivery worker leaseUntil }) := by
  simp only [claimOutbox, found, claimDelivery_of_accepts accepts, Except.map]

end

theorem claimOutbox_eq_ok {tenant id worker : ι} {now leaseUntil : Timestamp} {box after : Outbox ι κ}
    {event : OutboxEvent ι κ} (claimed : claimOutbox tenant id worker now leaseUntil box = .ok (event, after)) :
    ∃ found delivery, box.find tenant id = some found ∧
      claimDelivery found.toDelivery worker now leaseUntil = .ok delivery ∧
      event = { found with toDelivery := delivery } ∧ after = box.put event := by
  unfold claimOutbox at claimed
  split at claimed
  · split at claimed <;> cases claimed
  · next found bound =>
    cases delivered : claimDelivery found.toDelivery worker now leaseUntil with
    | error why => simp [delivered, Except.map] at claimed
    | ok delivery =>
      simp only [delivered, Except.map, Except.ok.injEq, Prod.mk.injEq] at claimed
      obtain ⟨rfl, rfl⟩ := claimed
      exact ⟨found, delivery, bound, delivered, rfl, rfl⟩

def Ready (now : Timestamp) (event : OutboxEvent ι κ) : Prop :=
  (event.state = .pending ∨ event.state = .retry) ∧ event.availableAt.getD event.createdAt ≤ now ∨
    event.state = .leased ∧ ∃ expiry ∈ event.leaseUntil, expiry ≤ now

instance (now : Timestamp) : DecidablePred (Ready (ι := ι) (κ := κ) now) := fun event => by
  unfold Ready
  exact inferInstance

/-- The loop of `claim_next_outbox` with the aggregates blocked so far. -/
def nextReady (tenant : ι) (now : Timestamp) : List ι → List (OutboxEvent ι κ) → Option (OutboxEvent ι κ)
  | _, [] => none
  | blocked, event :: rest =>
      if event.tenantId ≠ tenant then nextReady tenant now blocked rest
      else if Ready now event ∧ event.aggregateRef ∉ blocked then some event
      else if event.state.Terminal then nextReady tenant now blocked rest
      else nextReady tenant now (event.aggregateRef :: blocked) rest

def claimNextOutbox (tenant worker : ι) (now leaseUntil : Timestamp) (box : Outbox ι κ) :
    Except Failure (Option (OutboxEvent ι κ) × Outbox ι κ) :=
  match nextReady tenant now [] box.events with
  | none => .ok (none, box)
  | some event =>
      (claimOutbox tenant event.id worker now leaseUntil box).map (Prod.map some (·))

theorem claimNextOutbox_eq_some {tenant worker : ι} {now leaseUntil : Timestamp} {box after : Outbox ι κ}
    {event : OutboxEvent ι κ}
    (claimed : claimNextOutbox tenant worker now leaseUntil box = .ok (some event, after)) :
    ∃ found, nextReady tenant now [] box.events = some found ∧
      claimOutbox tenant found.id worker now leaseUntil box = .ok (event, after) := by
  unfold claimNextOutbox at claimed
  split at claimed
  · cases claimed
  · next found selected =>
    refine ⟨found, selected, ?_⟩
    cases delivered : claimOutbox tenant found.id worker now leaseUntil box with
    | error why => simp [delivered, Except.map] at claimed
    | ok pair => simpa [delivered, Except.map, Prod.ext_iff] using claimed

theorem claimNextOutbox_eq_none {tenant worker : ι} {now leaseUntil : Timestamp} {box after : Outbox ι κ}
    (claimed : claimNextOutbox tenant worker now leaseUntil box = .ok (none, after)) :
    nextReady tenant now [] box.events = none ∧ after = box := by
  unfold claimNextOutbox at claimed
  split at claimed
  · next none_ready =>
    cases claimed
    exact ⟨none_ready, rfl⟩
  · next found selected =>
    cases delivered : claimOutbox tenant found.id worker now leaseUntil box <;>
      simp [delivered, Except.map, Prod.ext_iff] at claimed

def claimedOutbox (tenant id worker : ι) (token : Nat) (now : Timestamp) (box : Outbox ι κ) :
    Except Failure (OutboxEvent ι κ) :=
  match (outboxFor tenant box).find? fun event => event.id = id with
  | none => .error (notFoundError "outbox event not found")
  | some event =>
      if event.HeldBy worker token now then .ok event
      else .error (conflictError "stale or expired outbox lease")

theorem find?_outboxFor (tenant id : ι) (box : Outbox ι κ) :
    ((outboxFor tenant box).find? fun event => event.id = id) = box.find tenant id := by
  have scan : ((outboxFor tenant box).find? fun event => event.id = id) =
      box.events.find? fun event => decide (event.Named tenant id) := by
    rw [outboxFor, List.find?_filter]
    congr 1
    funext event
    rw [Bool.eq_iff_iff, decide_eq_true_iff, decide_eq_true_iff, decide_eq_true_iff, decide_eq_true_iff,
      OutboxEvent.Named]
  rw [scan]
  cases found : box.find tenant id with
  | none =>
    refine List.find?_eq_none.mpr fun event member named => ?_
    have := (box.find_eq_some tenant id event).mpr ⟨member, of_decide_eq_true named⟩
    simp [found] at this
  | some event =>
    obtain ⟨member, named⟩ := (box.find_eq_some _ _ _).mp found
    refine find?_of_unique member (decide_eq_true named) fun other among same => ?_
    have other_found := (box.find_eq_some tenant id other).mpr ⟨among, of_decide_eq_true same⟩
    exact Option.some.inj (other_found.symm.trans found)

theorem claimedOutbox_eq (tenant id worker : ι) (token : Nat) (now : Timestamp) (box : Outbox ι κ) :
    claimedOutbox tenant id worker token now box =
      match box.find tenant id with
      | none => .error (notFoundError "outbox event not found")
      | some event =>
          if event.HeldBy worker token now then .ok event
          else .error (conflictError "stale or expired outbox lease") := by
  rw [claimedOutbox, find?_outboxFor]

def checkpointDelivery (delivery : Delivery ι) (checkpoint : Mapping) (now : Timestamp) (completed : Bool) :
    Delivery ι :=
  if completed then
    { delivery with
      checkpoint := checkpoint
      state := .completed
      completedAt := some now
      leaseOwner := none
      leaseUntil := none }
  else { delivery with checkpoint := checkpoint }

def checkpointOutbox (tenant id worker : ι) (token : Nat) (checkpoint : Mapping) (now : Timestamp)
    (completed : Bool) (box : Outbox ι κ) : Except Failure (OutboxEvent ι κ × Outbox ι κ) :=
  (claimedOutbox tenant id worker token now box).map fun event =>
    let event := { event with toDelivery := checkpointDelivery event.toDelivery checkpoint now completed }
    (event, box.put event)

def backoffSeconds (attempts : Nat) : Int := min (2 ^ attempts) 300

def failDelivery (delivery : Delivery ι) (error : String) (now : Timestamp) (maxAttempts : Int) : Delivery ι :=
  let state := if maxAttempts ≤ delivery.attempts then OutboxState.dead else .retry
  { delivery with
    state := state
    availableAt := some (if state = .dead then now else now.addSeconds (backoffSeconds delivery.attempts))
    lastError := some (String.ofList (error.toList.take 500))
    leaseOwner := none
    leaseUntil := none }

def failOutbox (tenant id worker : ι) (token : Nat) (error : String) (now : Timestamp) (maxAttempts : Int)
    (box : Outbox ι κ) : Except Failure (OutboxEvent ι κ × Outbox ι κ) :=
  if maxAttempts < 1 then .error (valueError "max_attempts must be positive")
  else (claimedOutbox tenant id worker token now box).map fun event =>
    let event := { event with toDelivery := failDelivery event.toDelivery error now maxAttempts }
    (event, box.put event)

def perform (call : OutboxCall ι κ) (box : Outbox ι κ) :
    Except Failure (Option (OutboxEvent ι κ) × Outbox ι κ) :=
  match call.action with
  | .append event => (appendOutbox event box).map fun box => (none, box)
  | .claim tenant id worker leaseUntil => (claimOutbox tenant id worker call.now leaseUntil box).map (Prod.map some (·))
  | .claimNext tenant worker leaseUntil => claimNextOutbox tenant worker call.now leaseUntil box
  | .checkpoint tenant id worker token checkpoint completed =>
      (checkpointOutbox tenant id worker token checkpoint call.now completed box).map (Prod.map some (·))
  | .fail tenant id worker token error maxAttempts =>
      (failOutbox tenant id worker token error call.now maxAttempts box).map (Prod.map some (·))

def step (call : OutboxCall ι κ) (box : Outbox ι κ) : OutboxResult ι κ × Outbox ι κ :=
  attempt box (perform call box)

theorem claimedOutbox_eq_ok {tenant id worker : ι} {token : Nat} {now : Timestamp} {box : Outbox ι κ}
    {event : OutboxEvent ι κ} (claimed : claimedOutbox tenant id worker token now box = .ok event) :
    box.find tenant id = some event ∧ event.HeldBy worker token now := by
  rw [claimedOutbox_eq] at claimed
  split at claimed
  · cases claimed
  · next found bound =>
    split at claimed
    · next held =>
      cases claimed
      exact ⟨bound, held⟩
    · cases claimed

/-- A call leaves the outbox alone, appends an event, or rewrites the delivery of one. -/
theorem step_cases (call : OutboxCall ι κ) (box : Outbox ι κ) :
    (step call box).2 = box ∨
    (∃ event, call.action = .append event ∧
      (step call box).2 = (box.put event).bindKey event.tenantId event.idempotencyKey event.id) ∨
    ∃ id event delivery, box.find call.action.tenant id = some event ∧
      (step call box).2 = box.put { event with toDelivery := delivery } := by
  rw [step]
  cases performed : perform call box with
  | error why => exact .inl rfl
  | ok outcome =>
    obtain ⟨result, after⟩ := outcome
    obtain ⟨now, action⟩ := call
    rw [attempt_ok]
    cases action with
    | append event =>
      simp only [perform, appendOutbox] at performed
      split at performed
      · cases performed
      · cases performed
        exact .inr (.inl ⟨event, rfl, rfl⟩)
    | claim tenant id worker leaseUntil =>
      simp only [perform] at performed
      cases claimed : claimOutbox tenant id worker now leaseUntil box with
      | error why => simp [claimed, Except.map] at performed
      | ok pair =>
        rw [claimed] at performed
        cases performed
        obtain ⟨found, delivery, bound, -, event_eq, after_eq⟩ := claimOutbox_eq_ok claimed
        exact .inr (.inr ⟨id, found, delivery, bound, after_eq.trans (by rw [event_eq])⟩)
    | claimNext tenant worker leaseUntil =>
      cases result with
      | none => exact .inl (claimNextOutbox_eq_none performed).2
      | some event =>
        obtain ⟨next, -, claimed⟩ := claimNextOutbox_eq_some performed
        obtain ⟨found, delivery, bound, -, event_eq, after_eq⟩ := claimOutbox_eq_ok claimed
        exact .inr (.inr ⟨next.id, found, delivery, bound, after_eq.trans (by rw [event_eq])⟩)
    | checkpoint tenant id worker token checkpoint completed =>
      simp only [perform, checkpointOutbox] at performed
      cases claimed : claimedOutbox tenant id worker token now box with
      | error why => simp [claimed, Except.map] at performed
      | ok event =>
        rw [claimed] at performed
        cases performed
        exact .inr (.inr ⟨id, event, _, (claimedOutbox_eq_ok claimed).1, rfl⟩)
    | fail tenant id worker token error maxAttempts =>
      simp only [perform, failOutbox] at performed
      split at performed
      · cases performed
      · cases claimed : claimedOutbox tenant id worker token now box with
        | error why => simp [claimed, Except.map] at performed
        | ok event =>
          rw [claimed] at performed
          cases performed
          exact .inr (.inr ⟨id, event, _, (claimedOutbox_eq_ok claimed).1, rfl⟩)

end AiStore.InMemoryRepository
