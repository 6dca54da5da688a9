import AiStore.Domain.EdgeRecords
import AiStore.Outbox.LeaseSafety
import AiStore.Service.Core

/-! The worker that drives one event of the outbox at a time.

Between the claim of an event and the end of its drive the outbox is open to everybody: the drive publishes events of
its own, and other workers claim, checkpoint and fail what they hold. A drive may raise at every call it makes. -/

set_option autoImplicit false

namespace AiStore.ToolWorker

open Library Failure Service
open SQLiteRepository (Outbox claimNextOutbox checkpointOutbox failOutbox leasedRow)

/-- The outbox of the store. -/
abbrev EventBox := Outbox Ident OutboxKey

abbrev EventCall := OutboxCall Ident OutboxKey

/-! ## The worker -/

structure DemoToolCommandWorker where
  workerId : String
  leaseSeconds : Int := 60
  named : opaqueIdentifier workerId = true
  lease : 1 ≤ leaseSeconds ∧ leaseSeconds ≤ 300

/-- What the repository and the control plane answer; each may raise instead. -/
structure ControlPlane where
  require : Except Failure Unit
  getToolCommand : Option Value → Except Failure DemoToolCommand
  getApprovalIntent : Uuid → Except Failure (Option ApprovalIntent)
  prepareAttempt : Uuid → (policyVersion targetVersion : Int) → (adapterVersion : String) → Except Failure ExecutionAttempt
  claimAttempt : Uuid → (workerId : String) → (version : Nat) → (leaseSeconds : Int) → Except Failure ExecutionAttempt
  dispatchDemo : Uuid → (workerId : String) → (token : Nat) → Except Failure ExecutionAttempt
  reconcileAttempt : Uuid → (workerId : String) → (token : Nat) → Except Failure ExecutionAttempt

/-- When the worker reads the clock, and what else happens to the outbox on the way. -/
structure Schedule where
  now : Timestamp
  during : List EventCall
  checkpointAt : Timestamp
  late : List EventCall
  failedAt : Timestamp

/-- The event and the command were published together. -/
def Binds (event : OutboxEvent Ident OutboxKey) (command : DemoToolCommand) : Prop :=
  event.aggregateRef = .uuid command.id ∧ command.state = .accepted ∧ command.mode = "DEMO" ∧
    command.approvalCommandId.isSome ∧ (∃ digest ∈ command.intentDigest, digest ≠ "") ∧
    event.payload.get? "mode" = some (.text "DEMO") ∧ event.payload.get? "state" = some (.text "accepted") ∧
    event.payload.get? "intent_digest" = command.intentDigest.map .text

instance (event : OutboxEvent Ident OutboxKey) (command : DemoToolCommand) : Decidable (Binds event command) := by
  unfold Binds
  exact inferInstance

section

variable (safeError : String → String) (plane : ControlPlane) (worker : DemoToolCommandWorker)

/-- `_drive` of a prepared attempt. -/
def driveAttempt (attempt : ExecutionAttempt) : Except Failure ExecutionAttempt :=
  if attempt.state = .prepared then do
    let leased ← plane.claimAttempt attempt.id worker.workerId attempt.version worker.leaseSeconds
    plane.dispatchDemo leased.id worker.workerId leased.fencingToken
  else if attempt.state = .unknown then do
    let leased ← plane.claimAttempt attempt.id worker.workerId attempt.version worker.leaseSeconds
    plane.reconcileAttempt leased.id worker.workerId leased.fencingToken
  else pure attempt

/-- `_drive` up to its checkpoint. -/
def driveCommand (event : OutboxEvent Ident OutboxKey) : Except Failure ExecutionAttempt := do
  if event.topic ≠ "tool.command" then .error (conflictError "processable tool command event required")
  let command ← plane.getToolCommand (event.payload.get? "command_id")
  match command.approvalCommandId with
  | none => .error (conflictError "tool command event binding mismatch")
  | some approved =>
    if ¬ Binds event command then .error (conflictError "tool command event binding mismatch")
    match ← plane.getApprovalIntent approved with
    | none => .error (conflictError "approved command intent missing or changed")
    | some intent =>
      if some intent.canonicalDigest ≠ command.intentDigest then
        .error (conflictError "approved command intent missing or changed")
      let attempt ← plane.prepareAttempt approved command.requestedPolicyVersion intent.targetVersion "synthetic-v1"
      driveAttempt plane worker attempt

variable (tenant : Ident) (schedule : Schedule)

def attemptCheckpoint (attempt : ExecutionAttempt) : Mapping :=
  [("attempt_id", .uuid attempt.id), ("state", .text attempt.state.value)]

def drive (event : OutboxEvent Ident OutboxKey) (box : EventBox) : Except Failure ExecutionAttempt × EventBox :=
  let meanwhile := final (SQLiteRepository.step safeError) box schedule.during
  match driveCommand plane worker event with
  | .error why => (.error why, meanwhile)
  | .ok attempt =>
    match checkpointOutbox tenant event.id (.text worker.workerId) event.fencingToken (attemptCheckpoint attempt)
        schedule.checkpointAt (attempt.state.Terminal) meanwhile with
    | .error why => (.error why, meanwhile)
    | .ok (_, after) => (.ok attempt, after)

/-- The outbox when the failure of a drive is about to be recorded. -/
def boxAtFailure (event : OutboxEvent Ident OutboxKey) (box : EventBox) : EventBox :=
  final (SQLiteRepository.step safeError) (drive safeError plane worker tenant schedule event box).2 schedule.late

/-- `process_next` behind its claim. -/
def processClaimed (maxAttempts : Int) (event : OutboxEvent Ident OutboxKey) (box : EventBox) :
    Except Failure (Option ExecutionAttempt) × EventBox :=
  match (drive safeError plane worker tenant schedule event box).1 with
  | .ok attempt => (.ok (some attempt), (drive safeError plane worker tenant schedule event box).2)
  | .error why =>
    match failOutbox safeError tenant event.id (.text worker.workerId) event.fencingToken why.message schedule.failedAt
        maxAttempts (boxAtFailure safeError plane worker tenant schedule event box) with
    | .error refused => (.error refused, boxAtFailure safeError plane worker tenant schedule event box)
    | .ok (_, recorded) => (.ok none, recorded)

def claimNext (box : EventBox) : Except Failure (Option (OutboxEvent Ident OutboxKey) × EventBox) :=
  claimNextOutbox tenant (.text worker.workerId) schedule.now (schedule.now.addSeconds worker.leaseSeconds) box

def processNext (maxAttempts : Int) (box : EventBox) : Except Failure (Option ExecutionAttempt) × EventBox :=
  match plane.require with
  | .error why => (.error why, box)
  | .ok () =>
    match claimNext worker tenant schedule box with
    | .error why => (.error why, box)
    | .ok (none, after) => (.ok none, after)
    | .ok (some event, claimed) => processClaimed safeError plane worker tenant schedule maxAttempts event claimed

end

/-! ## Failures that are recorded -/

/-- The event is still the worker's, under the token of its claim. -/
def StillHeld (worker : DemoToolCommandWorker) (tenant : Ident) (event : OutboxEvent Ident OutboxKey) (now : Timestamp)
    (box : EventBox) : Prop :=
  ∃ row, box.find tenant event.id = some row ∧ row.HeldBy (.text worker.workerId) event.fencingToken now

/-- Behind the call the event is done with, waits for its retry, is dead, or has been claimed since. -/
def Settled (tenant : Ident) (event : OutboxEvent Ident OutboxKey) (box : EventBox) : Prop :=
  ∃ row, box.find tenant event.id = some row ∧ (row.state = .completed ∨ row.state = .retry ∨ row.state = .dead ∨
    row.state = .leased ∧ event.fencingToken < row.fencingToken)

/-- The call returns and leaves the event settled. -/
def Contains (tenant : Ident) (event : OutboxEvent Ident OutboxKey)
    (outcome : Except Failure (Option ExecutionAttempt) × EventBox) : Prop :=
  (∃ answer, outcome.1 = .ok answer) ∧ Settled tenant event outcome.2

section

variable (safeError : String → String) {plane : ControlPlane} {worker : DemoToolCommandWorker} {tenant : Ident}
  {schedule : Schedule} {event : OutboxEvent Ident OutboxKey} {box : EventBox}

theorem failOutbox_of_held (error : String) {now : Timestamp} {maxAttempts : Int} (enough : 1 ≤ maxAttempts)
    (held : StillHeld worker tenant event now box) :
    ∃ answer after, failOutbox safeError tenant event.id (.text worker.workerId) event.fencingToken error now maxAttempts
      box = .ok (answer, after) ∧ Settled tenant event after := by
  obtain ⟨row, found, holds⟩ := held
  have named := ((box.find_eq_some _ _ _).mp found).2
  rw [failOutbox, if_neg (by omega), SQLiteRepository.leasedRow_of_held found holds]
  refine ⟨_, _, rfl,
    { row with toDelivery := SQLiteRepository.failDelivery safeError row.toDelivery error now maxAttempts }, ?_, ?_⟩
  · rw [Outbox.find_update, found, Option.map_some, OutboxEvent.deliver_of_named _ _ _ _ named]
  · simp only [SQLiteRepository.failDelivery]
    split
    · exact .inr (.inr (.inl rfl))
    · exact .inr (.inl rfl)

theorem failOutbox_of_lost (error : String) {now : Timestamp} {maxAttempts : Int}
    (lost : ¬ (1 ≤ maxAttempts ∧ StillHeld worker tenant event now box)) :
    ∃ why, failOutbox safeError tenant event.id (.text worker.workerId) event.fencingToken error now maxAttempts box =
      .error why := by
  unfold failOutbox
  split
  · exact ⟨_, rfl⟩
  · next enough =>
    cases leased : leasedRow tenant event.id (.text worker.workerId) event.fencingToken now box with
    | error why => exact ⟨why, rfl⟩
    | ok row =>
      obtain ⟨member, named, held⟩ := SQLiteRepository.leasedRow_eq_ok leased
      exact absurd ⟨by omega, row, (box.find_eq_some _ _ _).mpr ⟨member, named⟩, held⟩ lost

theorem processClaimed_contains_iff {maxAttempts : Int} {why : Failure}
    (failed : (drive safeError plane worker tenant schedule event box).1 = .error why) :
    Contains tenant event (processClaimed safeError plane worker tenant schedule maxAttempts event box) ↔
      1 ≤ maxAttempts ∧ StillHeld worker tenant event schedule.failedAt
        (boxAtFailure safeError plane worker tenant schedule event box) := by
  simp only [processClaimed, failed]
  constructor
  · rintro ⟨⟨answer, returned⟩, -⟩
    by_contra lost
    obtain ⟨refused, raised⟩ := failOutbox_of_lost safeError why.message lost
    rw [raised] at returned
    cases returned
  · rintro ⟨enough, held⟩
    obtain ⟨answer, after, recorded, settled⟩ := failOutbox_of_held safeError why.message enough held
    rw [recorded]
    exact ⟨⟨none, rfl⟩, settled⟩

/-! ## Leases that run out -/

/-- The row as the claim has left it. -/
structure Leased (worker : DemoToolCommandWorker) (token : Nat) (expiry : Timestamp)
    (row : OutboxEvent Ident OutboxKey) : Prop where
  state : row.state = .leased
  owner : row.leaseOwner = some (.text worker.workerId)
  token : row.fencingToken = token
  expiry : row.leaseUntil = some expiry

theorem claimNext_leased {claimed : EventBox} (taken : claimNext worker tenant schedule box = .ok (some event, claimed)) :
    claimed.find tenant event.id = some event ∧
      Leased worker event.fencingToken (schedule.now.addSeconds worker.leaseSeconds) event := by
  obtain ⟨chosen, -, claims⟩ := SQLiteRepository.claimNextOutbox_eq_some taken
  obtain ⟨row, delivery, member, named, delivered, rfl, rfl⟩ := SQLiteRepository.claimOutbox_eq_ok claims
  obtain ⟨-, rfl⟩ := SQLiteRepository.claimDelivery_eq_ok.mp delivered
  have found : box.find tenant row.id = some row := (box.find_eq_some _ _ _).mpr ⟨member, named.1, rfl⟩
  refine ⟨?_, rfl, rfl, rfl, rfl⟩
  change (box.update tenant chosen.id _).find tenant row.id = _
  rw [Outbox.find_update, found, Option.map_some, OutboxEvent.deliver_of_named _ _ _ _ named]

/-- Nobody else presents the token of the claim. -/
def Fenced (worker : DemoToolCommandWorker) (tenant : Ident) (event : OutboxEvent Ident OutboxKey) (call : EventCall) :
    Prop :=
  ¬ SQLiteRepository.Presents call.action tenant event.id (.text worker.workerId) event.fencingToken

/-- The others leave a leased row alone, until one of them claims it behind the lease. -/
theorem step_leased {expiry : Timestamp} (call : EventCall) (fenced : Fenced worker tenant event call)
    {row : OutboxEvent Ident OutboxKey} (found : box.find tenant event.id = some row)
    (leased : Leased worker event.fencingToken expiry row) :
    (SQLiteRepository.step safeError call box).2.find tenant event.id = some row ∨
      ¬ call.now < expiry ∧ ∃ after, (SQLiteRepository.step safeError call box).2.find tenant event.id = some after ∧
        event.fencingToken < after.fencingToken := by
  obtain ⟨after, found_after, stepped⟩ := SQLiteRepository.step_row safeError call found
  obtain ⟨ours, same⟩ := ((box.find_eq_some _ _ _).mp found).2
  -- who holds the row is the worker with its token
  have holder : ∀ presented token, row.HeldBy presented token call.now →
      presented = .text worker.workerId ∧ token = event.fencingToken := by
    intro presented token held
    exact ⟨Option.some.inj (held.2.1.symm.trans leased.owner), held.2.2.1.symm.trans leased.token⟩
  generalize (SQLiteRepository.step safeError call box).1 = result at stepped
  cases stepped with
  | untouched => exact .inl found_after
  | claimed _ delivered =>
    obtain ⟨accepts, rfl⟩ := SQLiteRepository.claimDelivery_eq_ok.mp delivered
    refine .inr ⟨fun intime => accepts (.inr (.inr ⟨expiry, leased.expiry, intime⟩)), _, found_after, ?_⟩
    exact Nat.lt_succ_of_le (Nat.le_of_eq leased.token.symm)
  | checkpointed action held =>
    obtain ⟨rfl, rfl⟩ := holder _ _ held
    rw [ours, same] at action
    exact absurd (.inl ⟨_, _, action⟩) fenced
  | failed action held =>
    obtain ⟨rfl, rfl⟩ := holder _ _ held
    rw [ours, same] at action
    exact absurd (.inr ⟨_, _, action⟩) fenced

/-- The token of a row never falls. -/
theorem step_taken (call : EventCall) {row : OutboxEvent Ident OutboxKey}
    (found : box.find tenant event.id = some row) (taken : event.fencingToken < row.fencingToken) :
    ∃ after, (SQLiteRepository.step safeError call box).2.find tenant event.id = some after ∧
      event.fencingToken < after.fencingToken := by
  obtain ⟨after, found_after, stepped⟩ := SQLiteRepository.step_row safeError call found
  refine ⟨after, found_after, ?_⟩
  generalize (SQLiteRepository.step safeError call box).1 = result at stepped
  cases stepped with
  | untouched | checkpointed | failed => exact taken
  | claimed _ delivered =>
    obtain ⟨-, rfl⟩ := SQLiteRepository.claimDelivery_eq_ok.mp delivered
    exact Nat.lt_succ_of_lt taken

/-- The row is the worker's, or somebody has claimed it since. -/
def HeldOrTaken (worker : DemoToolCommandWorker) (tenant : Ident) (event : OutboxEvent Ident OutboxKey)
    (expiry : Timestamp) (box : EventBox) : Prop :=
  ∃ row, box.find tenant event.id = some row ∧
    (Leased worker event.fencingToken expiry row ∨ event.fencingToken < row.fencingToken)

theorem run_heldOrTaken {expiry : Timestamp} {calls : List EventCall} (fenced : ∀ call ∈ calls, Fenced worker tenant event call)
    (start : HeldOrTaken worker tenant event expiry box) :
    HeldOrTaken worker tenant event expiry (final (SQLiteRepository.step safeError) box calls) := by
  refine final_invariant (HeldOrTaken worker tenant event expiry) start fun call member box held => ?_
  obtain ⟨row, found, leased | taken⟩ := held
  · rcases step_leased safeError call (fenced call member) found leased with same | ⟨-, after, found_after, taken⟩
    · exact ⟨row, same, .inl leased⟩
    · exact ⟨after, found_after, .inr taken⟩
  · obtain ⟨after, found_after, taken⟩ := step_taken safeError call found taken
    exact ⟨after, found_after, .inr taken⟩

theorem run_leased {expiry : Timestamp} {calls : List EventCall} (fenced : ∀ call ∈ calls, Fenced worker tenant event call)
    (intime : ∀ call ∈ calls, call.now < expiry) {row : OutboxEvent Ident OutboxKey}
    (found : box.find tenant event.id = some row) (leased : Leased worker event.fencingToken expiry row) :
    (final (SQLiteRepository.step safeError) box calls).find tenant event.id = some row := by
  refine final_invariant (fun box : EventBox => box.find tenant event.id = some row) found
    fun call member box found => ?_
  exact (step_leased safeError call (fenced call member) found leased).resolve_right fun late => late.1 (intime call member)

/-- A drive that fails has done nothing to the outbox itself. -/
theorem boxAtFailure_of_failed {why : Failure}
    (failed : (drive safeError plane worker tenant schedule event box).1 = .error why) :
    boxAtFailure safeError plane worker tenant schedule event box =
      final (SQLiteRepository.step safeError) box (schedule.during ++ schedule.late) := by
  rw [final_append, boxAtFailure]
  congr 1
  unfold drive at failed ⊢
  split at failed
  · rfl
  · dsimp only at failed ⊢
    split at failed
    · rfl
    · cases failed

/-- Among workers that keep to their own tokens and to one clock, the event is held just as long as its lease. -/
theorem stillHeld_iff_in_time {claimed : EventBox} {why : Failure}
    (taken : claimNext worker tenant schedule box = .ok (some event, claimed))
    (failed : (drive safeError plane worker tenant schedule event claimed).1 = .error why)
    (fenced : ∀ call ∈ schedule.during ++ schedule.late, Fenced worker tenant event call)
    (clock : ∀ call ∈ schedule.during ++ schedule.late, call.now ≤ schedule.failedAt) :
    StillHeld worker tenant event schedule.failedAt (boxAtFailure safeError plane worker tenant schedule event claimed) ↔
      schedule.failedAt < schedule.now.addSeconds worker.leaseSeconds := by
  obtain ⟨found, leased⟩ := claimNext_leased taken
  rw [boxAtFailure_of_failed safeError failed]
  constructor
  · rintro ⟨row, here, held⟩
    obtain ⟨other, there, claim | later⟩ := run_heldOrTaken safeError fenced ⟨event, found, .inl leased⟩
    · cases here.symm.trans there
      obtain ⟨expiry, lasts, intime⟩ := held.2.2.2
      cases lasts.symm.trans claim.expiry
      exact intime
    · cases here.symm.trans there
      exact absurd held.2.2.1 (Nat.ne_of_gt later)
  · intro intime
    have same := run_leased safeError fenced (fun call member => lt_of_le_of_lt (clock call member) intime)
      found leased
    exact ⟨event, same, leased.state, leased.owner, rfl, _, leased.expiry, intime⟩

end

/-! ## The containment of failures -/

/-- A failed drive is contained when its failure can be recorded, and by no means otherwise: the record is refused to a
worker that has lost the event meanwhile. -/
theorem process_next_contains_iff (safeError : String → String) (plane : ControlPlane) (worker : DemoToolCommandWorker)
    (tenant : Ident) (schedule : Schedule) (maxAttempts : Int) (box claimed : EventBox)
    (event : OutboxEvent Ident OutboxKey) (why : Failure) (allowed : plane.require = .ok ())
    (taken : claimNext worker tenant schedule box = .ok (some event, claimed))
    (failed : (drive safeError plane worker tenant schedule event claimed).1 = .error why) :
    (Contains tenant event (processNext safeError plane worker tenant schedule maxAttempts box) ↔
      1 ≤ maxAttempts ∧ StillHeld worker tenant event schedule.failedAt
        (boxAtFailure safeError plane worker tenant schedule event claimed)) ∧
    ((∀ call ∈ schedule.during ++ schedule.late, Fenced worker tenant event call ∧ call.now ≤ schedule.failedAt) →
      (StillHeld worker tenant event schedule.failedAt
          (boxAtFailure safeError plane worker tenant schedule event claimed) ↔
        schedule.failedAt < schedule.now.addSeconds worker.leaseSeconds)) := by
  have driven : processNext safeError plane worker tenant schedule maxAttempts box =
      processClaimed safeError plane worker tenant schedule maxAttempts event claimed := by
    simp only [processNext, allowed, taken]
  rw [driven]
  refine ⟨processClaimed_contains_iff safeError failed, fun others => ?_⟩
  exact stillHeld_iff_in_time safeError taken failed (fun call member => (others call member).1)
    fun call member => (others call member).2

/-! An event of another topic, whose failure is recorded within the lease or a minute later. -/

def demoWorker : DemoToolCommandWorker where
  workerId := "worker-1"
  named := by decide
  lease := by decide

/-- A control plane that refuses whatever the drive asks. -/
def refusingPlane : ControlPlane where
  require := .ok ()
  getToolCommand _ := .error (notFoundError "tool command not found")
  getApprovalIntent _ := .ok none
  prepareAttempt _ _ _ _ := .error (conflictError "execution gate closed")
  claimAttempt _ _ _ _ := .error (conflictError "attempt lease conflict")
  dispatchDemo _ _ _ := .error (conflictError "attempt lease conflict")
  reconcileAttempt _ _ _ := .error (conflictError "attempt lease conflict")

def orderBox : EventBox := final (SQLiteRepository.step id) (Outbox.empty [.uuid 0])
  [⟨.utc 0, .append (.pendingEvent (.uuid 7) (.uuid 0) "order.accepted" (.uuid 3) [] (.orderAccepted 3) (.utc 0))⟩]

def quietSchedule (failedAt : Timestamp) : Schedule := ⟨.utc 1, [], .utc 1, [], failedAt⟩

def claimedOrder : OutboxEvent Ident OutboxKey :=
  let event : OutboxEvent Ident OutboxKey := SQLiteRepository.stored
    (.pendingEvent (.uuid 7) (.uuid 0) "order.accepted" (.uuid 3) [] (.orderAccepted 3) (.utc 0))
  { event with toDelivery := SQLiteRepository.leaseTo event.toDelivery (.text "worker-1") (.utc 61) }

def claimedBox : EventBox := orderBox.update (.uuid 0) (.uuid 7) claimedOrder.toDelivery

/-- A failure at once is recorded. -/
theorem prompt_failure_contained :
    (Contains (.uuid 0) claimedOrder (processNext id refusingPlane demoWorker (.uuid 0) (quietSchedule (.utc 2)) 5 orderBox) ↔
      1 ≤ (5 : Int) ∧ StillHeld demoWorker (.uuid 0) claimedOrder (.utc 2)
        (boxAtFailure id refusingPlane demoWorker (.uuid 0) (quietSchedule (.utc 2)) claimedOrder claimedBox)) ∧
    ((∀ call ∈ ([] : List EventCall), Fenced demoWorker (.uuid 0) claimedOrder call ∧ call.now ≤ .utc 2) →
      (StillHeld demoWorker (.uuid 0) claimedOrder (.utc 2)
          (boxAtFailure id refusingPlane demoWorker (.uuid 0) (quietSchedule (.utc 2)) claimedOrder claimedBox) ↔
        Timestamp.utc 2 < (Timestamp.utc 1).addSeconds 60)) :=
  process_next_contains_iff id refusingPlane demoWorker (.uuid 0) (quietSchedule (.utc 2)) 5 orderBox claimedBox
    claimedOrder (conflictError "processable tool command event required") rfl rfl (by decide)

/-- A failure a minute after the claim escapes from the worker. -/
theorem late_failure_escapes :
    claimNext demoWorker (.uuid 0) (quietSchedule (.utc 61)) orderBox = .ok (some claimedOrder, claimedBox) ∧
      (drive id refusingPlane demoWorker (.uuid 0) (quietSchedule (.utc 61)) claimedOrder claimedBox).1 =
        .error (conflictError "processable tool command event required") ∧
      (processNext id refusingPlane demoWorker (.uuid 0) (quietSchedule (.utc 61)) 5 orderBox).1 =
        .error (conflictError "stale or expired outbox lease") ∧
      ¬ Contains (.uuid 0) claimedOrder
        (processNext id refusingPlane demoWorker (.uuid 0) (quietSchedule (.utc 61)) 5 orderBox) := by
  have escaped : (processNext id refusingPlane demoWorker (.uuid 0) (quietSchedule (.utc 61)) 5 orderBox).1 =
      .error (conflictError "stale or expired outbox lease") := by decide
  refine ⟨rfl, by decide, escaped, ?_⟩
  rintro ⟨⟨answer, returned⟩, -⟩
  rw [escaped] at returned
  cases returned

end AiStore.ToolWorker
