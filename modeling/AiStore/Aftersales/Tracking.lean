import AiStore.Aftersales.Records
import AiStore.Library.Runs

/-! Tracking observations of order lines, in the order in which they arrive. -/

set_option autoImplicit false

namespace AiStore.Aftersales

open Library (Session Table Txn final trace)
open Library.Txn Failure Repository Service

/-! ## Repository -/

section

variable (tenant line : Uuid)

/-- The tracking columns of a line; a line that was never tracked has their defaults. -/
def trackingOf (books : Books) : LineTracking :=
  (books.lineTracking.get? (tenant, line)).getD { tenantId := tenant, orderLineId := line }

/-- `tracking_for`. -/
def trackingHistory (books : Books) : List TrackingObservation :=
  books.trackingObservations.filter fun row => row.tenantId = tenant ∧ row.orderLineId = line

def trackingObservationFor (trackingKey status : String) : BookOp (Option TrackingObservation) :=
  query fun books => (trackingHistory tenant line books).find? fun row => row.trackingKey = trackingKey ∧ row.status = status

end

def saveTrackingObservation (value : TrackingObservation) : BookOp TrackingObservation := do
  match ← trackingObservationFor value.tenantId value.orderLineId value.trackingKey value.status with
  | some prior =>
    ensure (prior.responseDigest = value.responseDigest) (conflictError "tracking identity reused with different content")
    pure prior
  | none =>
    write fun books => { books with trackingObservations := books.trackingObservations ++ [value] }
    pure value

/-- `update_order_line` of a line with its tracking columns. -/
def updateTrackedLine (line : OrderLine) (tracking : LineTracking) (expectedVersion : Nat) : BookOp Unit := do
  inStore (updateOrderLine line expectedVersion)
  write fun books => { books with lineTracking := books.lineTracking.put tracking }

/-! ## Ingestion -/

variable (env : Env)

/-- `_STATUSES`. -/
def trackingStatuses : List String := ["LABEL_CREATED", "IN_TRANSIT", "DELIVERED", "CANCELLED"]

/-- The columns behind an observation that was not recorded before. -/
def observedTracking (tracking : LineTracking) (trackingKey status : String) (observedAt : Timestamp) : LineTracking :=
  { tracking with
    trackingKey := some trackingKey
    trackingStatus := some status
    trackingVersion := tracking.trackingVersion + 1
    trackingObservedAt := some observedAt }

/-- `observed_at or self._clock()`. -/
def observationTime : Option Timestamp → BookOp Timestamp
  | some time => pure time
  | none => inStore (now env)

def ingestDemoTracking (context : TenantContext) (orderLineId : Uuid) (trackingKey status : String)
    (observedAt : Option Timestamp) (expectedLineVersion : Option Int) : BookOp ((OrderLine × LineTracking) × Bool) := do
  inStore (require context .tenantAdmin)
  ensure (opaqueIdentifier trackingKey = true ∧ status ∈ trackingStatuses)
    (conflictError "invalid DEMO tracking identity/status")
  let observedAt ← observationTime env observedAt
  let digest := env.digest (.dict [("tracking_key", .text trackingKey), ("status", .text status)])
  transaction do
    let line ← inStore (getOrderLine context.tenantId orderLineId)
    let order ← inStore (getChannelOrder context.tenantId line.channelOrderId)
    ensure (line.routedStatus = "routed" ∧ (order.status = .poPending ∨ order.status = .cancelled))
      (conflictError "tracking is not applicable to this order line")
    let tracking ← query (trackingOf context.tenantId line.id)
    match ← trackingObservationFor context.tenantId line.id trackingKey status with
    | some _ => pure ((line, tracking), true)
    | none =>
      ensure (∀ expected ∈ expectedLineVersion, (line.version : Int) = expected) (conflictError "order line version conflict")
      let id ← freshUuid
      let observation ← saveTrackingObservation {
        id := id
        tenantId := context.tenantId
        orderLineId := line.id
        trackingKey := trackingKey
        status := status
        observedAt := observedAt
        responseDigest := digest }
      let moved := { line with version := line.version + 1 }
      let shown := observedTracking tracking trackingKey status observedAt
      updateTrackedLine moved shown line.version
      inStore (auditBy env context "tracking.observed" line.id "succeeded"
        [("status", .text status), ("response_digest", .text observation.responseDigest)])
      inStore (publish context.tenantId "tracking.observed" line.id [("order_line_id", .uuid line.id),
        ("tracking_key", .text trackingKey), ("status", .text status), ("response_digest", .text digest)]
        (.tracking line.id trackingKey status) observedAt)
      pure ((moved, shown), false)

/-! ## Calls -/

/-- An observation of a line, or any operation of the store. -/
inductive TrackingCall where
  | observe (context : TenantContext) (orderLineId : Uuid) (trackingKey status : String) (observedAt : Option Timestamp)
      (expectedLineVersion : Option Int)
  | elsewhere (operation : Op Unit)

/-- What a call answers: the line, its tracking, and whether it was a replay. -/
abbrev TrackingAnswer := Except Failure (Option ((OrderLine × LineTracking) × Bool))

def performTracking (env : Env) : TrackingCall → BookOp (Option ((OrderLine × LineTracking) × Bool))
  | .observe context orderLineId trackingKey status observedAt expectedLineVersion => do
      let answer ← ingestDemoTracking env context orderLineId trackingKey status observedAt expectedLineVersion
      pure (some answer)
  | .elsewhere operation => do
      inStore operation
      pure none

/-- A call answers beside its result how often the clock was read before it. -/
def trackingStep (env : Env) (call : TrackingCall) (s : Session Books) : (TrackingAnswer × Nat) × Session Books :=
  ((((performTracking env call).run s).1, s.reads), ((performTracking env call).run s).2)

/-! ## Arrivals -/

/-- An observation as it arrives. -/
structure Arrival where
  trackingKey : String
  status : String
  observedAt : Timestamp
  deriving DecidableEq

/-- What a call that returned brought for a line; an observation without a time is one of now. -/
def arrivalFor (env : Env) (tenant line : Uuid) : TrackingCall × TrackingAnswer × Nat → Option Arrival
  | (.observe context orderLineId trackingKey status observedAt _, .ok _, reads) =>
      if context.tenantId = tenant ∧ orderLineId = line then
        some ⟨trackingKey, status, observedAt.getD (env.clock reads)⟩
      else none
  | _ => none

/-- The observations of a line that were received, in the order in which they came. -/
def received (env : Env) (tenant line : Uuid) (calls : List (TrackingCall × TrackingAnswer × Nat)) : List Arrival :=
  calls.filterMap (arrivalFor env tenant line)

/-- With one more arrival, unless its key and status came before. -/
def addNew (kept : List Arrival) (arrival : Arrival) : List Arrival :=
  if ∃ earlier ∈ kept, earlier.trackingKey = arrival.trackingKey ∧ earlier.status = arrival.status then kept
  else kept ++ [arrival]

/-- The arrivals whose key and status did not come before. -/
def newOnes (arrivals : List Arrival) : List Arrival := arrivals.foldl addNew []

theorem newOnes_concat (arrivals : List Arrival) (arrival : Arrival) :
    newOnes (arrivals ++ [arrival]) = addNew (newOnes arrivals) arrival := by simp [newOnes]

/-- No other arrival was observed later. -/
def Newest (arrivals : List Arrival) (newest : Arrival) : Prop :=
  newest ∈ arrivals ∧ ∀ other ∈ arrivals, other.observedAt ≤ newest.observedAt

/-- The last arrival whose key and status are new shows the status of the newest one. -/
def LandsNewest (arrivals : List Arrival) : Prop :=
  ∀ last, (newOnes arrivals).getLast? = some last → ∀ newest, Newest arrivals newest → last.status = newest.status

/-- The line shows the status of the newest arrival. -/
def ShowsNewest (books : Books) (tenant line : Uuid) (arrivals : List Arrival) : Prop :=
  ∀ newest, Newest arrivals newest → (trackingOf tenant line books).trackingStatus = some newest.status

/-! ## Runs -/

def arrivalOf (row : TrackingObservation) : Arrival := ⟨row.trackingKey, row.status, row.observedAt⟩

/-- The recorded observations are the new arrivals, and the line shows the last of them. -/
structure Tracked (books : Books) (tenant line : Uuid) (arrivals : List Arrival) : Prop where
  history : (trackingHistory tenant line books).map arrivalOf = newOnes arrivals
  shown : (trackingOf tenant line books).trackingStatus = (newOnes arrivals).getLast?.map (·.status)

section

variable {env : Env} {context : TenantContext} {s t : Session Books} {orderLineId : Uuid} {trackingKey status : String}

@[simp] theorem inStore_getOrderLine_eq_ok {tenant line : Uuid} {row : OrderLine} :
    (inStore (getOrderLine tenant line)).run s = (.ok row, t) ↔
      s.db.store.orderLines.get? (tenant, line) = some row ∧ t = s :=
  inStore_read_eq_ok fun after => by simp [getOrderLine]

theorem saveTrackingObservation_of_new {value result : TrackingObservation}
    (unrecorded : ∀ row ∈ trackingHistory value.tenantId value.orderLineId s.db,
      ¬ (row.trackingKey = value.trackingKey ∧ row.status = value.status)) :
    (saveTrackingObservation value).run s = (.ok result, t) ↔ result = value ∧
      t = { s with db := { s.db with trackingObservations := s.db.trackingObservations ++ [value] } } := by
  have looked : (trackingHistory value.tenantId value.orderLineId s.db).find?
      (fun row => row.trackingKey = value.trackingKey ∧ row.status = value.status) = none :=
    List.find?_eq_none.mpr fun row member => by simpa using unrecorded row member
  simp only [saveTrackingObservation, trackingObservationFor, bind_eq_ok, query_eq_ok, and_assoc, exists_and_left,
    exists_eq_left', looked, write_eq_ok, pure_eq_ok, exists_eq_left, exists_const]

theorem trackingOf_key (tenant line : Uuid) (books : Books) : (trackingOf tenant line books).key = (tenant, line) := by
  unfold trackingOf
  cases found : books.lineTracking.get? (tenant, line) with
  | none => rfl
  | some row => exact Table.key_of_get? found

/-- What a received observation did to the tracking tables. -/
inductive Received (s : Session Books) (tenant line : Uuid) (arrival : Arrival) (t : Session Books) : Prop where
  | replay : (∃ row ∈ trackingHistory tenant line s.db, row.trackingKey = arrival.trackingKey ∧ row.status = arrival.status) →
      t.db = s.db → Received s tenant line arrival t
  | recorded {row : TrackingObservation} :
      (∀ row ∈ trackingHistory tenant line s.db, ¬ (row.trackingKey = arrival.trackingKey ∧ row.status = arrival.status)) →
      row.tenantId = tenant → row.orderLineId = line → arrivalOf row = arrival →
      t.db.trackingObservations = s.db.trackingObservations ++ [row] →
      t.db.lineTracking = s.db.lineTracking.put (observedTracking (trackingOf tenant line s.db) arrival.trackingKey
        arrival.status arrival.observedAt) →
      Received s tenant line arrival t

theorem ingestDemoTracking_ok {observedAt : Option Timestamp} {expectedLineVersion : Option Int}
    {answer : (OrderLine × LineTracking) × Bool}
    (ran : (ingestDemoTracking env context orderLineId trackingKey status observedAt expectedLineVersion).run s =
      (.ok answer, t)) :
    Received s context.tenantId orderLineId ⟨trackingKey, status, observedAt.getD (env.clock s.reads)⟩ t := by
  simp only [ingestDemoTracking, bind_eq_ok, inStore_require_eq_ok, ensure_eq_ok, exists_and_left, exists_eq_left,
    exists_const, and_assoc] at ran
  obtain ⟨-, -, -, time, timed, dated, ran⟩ := ran
  -- an observation without a time reads the clock before the transaction
  obtain ⟨time_eq, timed_db⟩ : time = observedAt.getD (env.clock s.reads) ∧ timed.db = s.db := by
    cases observedAt with
    | none =>
      obtain ⟨rfl, rfl⟩ := inStore_now_eq_ok.mp dated
      exact ⟨rfl, rfl⟩
    | some given =>
      obtain ⟨rfl, rfl⟩ := (pure_eq_ok _ _ _ _).mp dated
      exact ⟨rfl, rfl⟩
  rw [← time_eq]
  simp only [transaction_eq_ok, bind_eq_ok, ensure_eq_ok, inStore_getOrderLine_eq_ok, inStore_getChannelOrder_eq_ok,
    trackingObservationFor, query_eq_ok, exists_and_left, exists_eq_left, exists_eq_left', exists_const, and_assoc] at ran
  obtain ⟨line, found, order, -, -, -, ran⟩ := ran
  have named : line.tenantId = context.tenantId ∧ line.id = orderLineId := by
    simpa [OrderLine.key] using Table.key_of_get? found
  rw [named.2, timed_db] at ran
  split at ran
  · next row looked =>
    obtain ⟨-, rfl⟩ := (pure_eq_ok _ _ _ _).mp ran
    have known := List.find?_some looked
    exact .replay ⟨row, List.mem_of_find?_eq_some looked, by simpa using known⟩ timed_db
  · next looked =>
    have unrecorded : ∀ row ∈ trackingHistory context.tenantId orderLineId timed.db,
        ¬ (row.trackingKey = trackingKey ∧ row.status = status) := by
      rw [timed_db]
      simpa using List.find?_eq_none.mp looked
    simp only [bind_eq_ok, ensure_eq_ok, freshUuid_eq_ok, updateTrackedLine, write_eq_ok, pure_eq_ok, exists_and_left,
      exists_eq_left, exists_const, and_assoc] at ran
    obtain ⟨-, row, _, saved, _, ⟨_, _, updated, rfl⟩, _, _, audited, _, _, published, -, rfl⟩ := ran
    obtain ⟨row_eq, rfl⟩ := (saveTrackingObservation_of_new unrecorded).mp saved
    have updated_db := (inStore_beside updated).1
    have audited_db := (inStore_beside audited).1
    have published_db := (inStore_beside published).1
    refine @Received.recorded _ _ _ _ _ row (timed_db ▸ unrecorded) ?_ ?_ ?_ ?_ ?_
    · rw [row_eq]
    · rw [row_eq]
    · rw [row_eq]
      rfl
    · rw [published_db, audited_db, updated_db, row_eq, timed_db]
    · rw [published_db, audited_db, updated_db, timed_db]

/-- The tables of the tracking. -/
def trackingTables (books : Books) : Table LineTracking.key × List TrackingObservation :=
  (books.lineTracking, books.trackingObservations)

theorem keeps_observationTime (observedAt : Option Timestamp) :
    Keeps trackingTables (observationTime env observedAt) := by
  cases observedAt with
  | none => exact keeps_on (fun _ _ => rfl) _
  | some time => exact keeps_pure time

theorem unwinds_ingestDemoTracking {observedAt : Option Timestamp} {expectedLineVersion : Option Int} :
    Unwinds trackingTables
      (ingestDemoTracking env context orderLineId trackingKey status observedAt expectedLineVersion) :=
  Unwinds.bind (keeps_on (fun _ _ => rfl) _) fun _ => Unwinds.bind (keeps_ensure _ _) fun _ =>
    Unwinds.bind (keeps_observationTime observedAt) fun _ => unwinds_transaction _

/-! ### Recorded observations and received ones -/

variable {tenant line : Uuid} {arrivals : List Arrival}

theorem Tracked.of_same (tracked : Tracked s.db tenant line arrivals)
    (same : trackingTables t.db = trackingTables s.db) : Tracked t.db tenant line arrivals := by
  obtain ⟨columns, observations⟩ := Prod.mk.inj same
  constructor
  · rw [trackingHistory, observations]
    exact tracked.history
  · rw [trackingOf, columns]
    exact tracked.shown

theorem Tracked.mem_newOnes (tracked : Tracked s.db tenant line arrivals) (arrival : Arrival) :
    (∃ row ∈ trackingHistory tenant line s.db, row.trackingKey = arrival.trackingKey ∧ row.status = arrival.status) ↔
      ∃ earlier ∈ newOnes arrivals, earlier.trackingKey = arrival.trackingKey ∧ earlier.status = arrival.status := by
  rw [← tracked.history]
  simp [arrivalOf]

theorem Tracked.received (tracked : Tracked s.db tenant line arrivals) {arrival : Arrival}
    (new : Received s tenant line arrival t) : Tracked t.db tenant line (arrivals ++ [arrival]) := by
  cases new with
  | replay known same =>
    -- the key and the status came before, so the arrival is not new
    have kept : newOnes (arrivals ++ [arrival]) = newOnes arrivals := by
      rw [newOnes_concat, addNew, if_pos ((tracked.mem_newOnes arrival).mp known)]
    rw [same]
    exact ⟨by rw [kept]; exact tracked.history, by rw [kept]; exact tracked.shown⟩
  | @recorded row unrecorded row_tenant row_line row_arrival observations columns =>
    have added : newOnes (arrivals ++ [arrival]) = newOnes arrivals ++ [arrival] := by
      rw [newOnes_concat, addNew, if_neg fun known => ?_]
      obtain ⟨row, member, same⟩ := (tracked.mem_newOnes arrival).mpr known
      exact unrecorded row member same
    constructor
    · rw [added, ← tracked.history, trackingHistory, observations, List.filter_append]
      simp [trackingHistory, row_tenant, row_line, row_arrival]
    · have key : (observedTracking (trackingOf tenant line s.db) arrival.trackingKey arrival.status
          arrival.observedAt).key = (tenant, line) := trackingOf_key tenant line s.db
      rw [added, List.getLast?_concat, trackingOf, columns, ← key, Table.get?_put_self]
      rfl

/-- An observation of another line. -/
theorem Tracked.beside (tracked : Tracked s.db tenant line arrivals) {otherTenant other : Uuid} {arrival : Arrival}
    (apart : ¬ (otherTenant = tenant ∧ other = line)) (new : Received s otherTenant other arrival t) :
    Tracked t.db tenant line arrivals := by
  cases new with
  | replay known same =>
    rw [same]
    exact tracked
  | @recorded row unrecorded row_tenant row_line row_arrival observations columns =>
    constructor
    · have passed : ¬ (row.tenantId = tenant ∧ row.orderLineId = line) := by
        rw [row_tenant, row_line]
        exact apart
      rw [← tracked.history, trackingHistory, observations, List.filter_append]
      simp [trackingHistory, passed]
    · have key : (observedTracking (trackingOf otherTenant other s.db) arrival.trackingKey arrival.status
          arrival.observedAt).key = (otherTenant, other) := trackingOf_key otherTenant other s.db
      rw [← tracked.shown, trackingOf, columns, Table.get?_put_of_ne _ fun same => ?_, trackingOf]
      rw [key, Prod.mk.injEq] at same
      exact apart same

theorem tracked_step (tracked : Tracked s.db tenant line arrivals) (call : TrackingCall) :
    Tracked (trackingStep env call s).2.db tenant line
      (arrivals ++ (arrivalFor env tenant line (call, (trackingStep env call s).1)).toList) := by
  cases call with
  | observe context orderLineId trackingKey status observedAt expectedLineVersion =>
    simp only [trackingStep, performTracking, run_bind]
    rcases ran : (ingestDemoTracking env context orderLineId trackingKey status observedAt expectedLineVersion).run s with
      ⟨why | answer, after⟩
    -- a call that raises received nothing
    · simp only [arrivalFor, Option.toList_none, List.append_nil]
      exact tracked.of_same (unwinds_ingestDemoTracking s why after ran)
    · have new := ingestDemoTracking_ok ran
      have answered : (pure (some answer) : BookOp (Option ((OrderLine × LineTracking) × Bool))).run after =
          (.ok (some answer), after) := rfl
      simp only [answered, arrivalFor]
      split
      · next same =>
        rw [same.1, same.2] at new
        exact tracked.received new
      · next apart =>
        rw [Option.toList_none, List.append_nil]
        exact tracked.beside apart new
  | elsewhere operation =>
    rcases ran : (performTracking env (.elsewhere operation)).run s with ⟨outcome, after⟩
    have same : trackingTables after.db = trackingTables s.db := by
      rw [(elsewhere_beside ran).1]
      rfl
    simp only [trackingStep, ran]
    simpa only [arrivalFor, Option.toList_none, List.append_nil] using tracked.of_same same

theorem tracked_run (env : Env) (tenant line : Uuid) (calls : List TrackingCall) :
    Tracked (final (trackingStep env) newBooks calls).db tenant line
      (received env tenant line (trace (trackingStep env) newBooks calls)) := by
  refine Library.run_induction (fun calls => Tracked (final (trackingStep env) newBooks calls).db tenant line
    (received env tenant line (trace (trackingStep env) newBooks calls))) ⟨rfl, rfl⟩ ?_
  intro before call after _ tracked
  have next := @tracked_step env _ _ _ _ tracked call
  have last : [(call, (trackingStep env call (final (trackingStep env) newBooks before)).1)].filterMap
      (arrivalFor env tenant line) =
      (arrivalFor env tenant line (call, (trackingStep env call (final (trackingStep env) newBooks before)).1)).toList := by
    cases came : arrivalFor env tenant line (call, (trackingStep env call (final (trackingStep env) newBooks before)).1) <;>
      simp [came]
  rw [Library.final_concat, Library.trace_concat, received, List.filterMap_append, last]
  exact next

end

/-! ## The newest observation -/

theorem newOnes_ne_nil {arrivals : List Arrival} (some_came : arrivals ≠ []) : newOnes arrivals ≠ [] := by
  obtain ⟨before, last, rfl⟩ := (List.eq_nil_or_concat' arrivals).resolve_left some_came
  rw [newOnes_concat, addNew]
  split
  · next known =>
    obtain ⟨earlier, member, -⟩ := known
    exact List.ne_nil_of_mem member
  · simp

/-- Behind every run the line shows the status of the newest observation it received exactly where the last observation
that was new when it came has that status: the order of arrival decides, whatever the times say. -/
theorem shows_newest_iff (env : Env) (calls : List TrackingCall) (tenant line : Uuid) :
    ShowsNewest (final (trackingStep env) newBooks calls).db tenant line
        (received env tenant line (trace (trackingStep env) newBooks calls)) ↔
      LandsNewest (received env tenant line (trace (trackingStep env) newBooks calls)) := by
  have tracked := tracked_run env tenant line calls
  constructor
  · intro shows last landed newest newest_of
    have shown := shows newest newest_of
    rw [tracked.shown, landed] at shown
    exact Option.some.inj shown
  · intro lands newest newest_of
    cases landed : (newOnes (received env tenant line (trace (trackingStep env) newBooks calls))).getLast? with
    | none => exact absurd (List.getLast?_eq_none_iff.mp landed) (newOnes_ne_nil (List.ne_nil_of_mem newest_of.1))
    | some last =>
      rw [tracked.shown, landed, Option.map_some]
      exact congrArg some (lands last landed newest newest_of)

/-- A line is delivered, and a later call brings that it was in transit before. -/
def lateTransit : List TrackingCall :=
  [.elsewhere (Txn.write fun _ => deskStore), .observe deskMaster 74 "track-1" "DELIVERED" (some (.utc 2)) none,
   .observe deskMaster 74 "track-1" "IN_TRANSIT" (some (.utc 1)) none]

/-- The line was delivered at the time 2 and shows the status of the time 1. -/
theorem late_observation_wins :
    received deskEnv 70 74 (trace (trackingStep deskEnv) newBooks lateTransit) =
        [⟨"track-1", "DELIVERED", .utc 2⟩, ⟨"track-1", "IN_TRANSIT", .utc 1⟩] ∧
      (trackingOf 70 74 (final (trackingStep deskEnv) newBooks lateTransit).db).trackingStatus = some "IN_TRANSIT" ∧
      ¬ ShowsNewest (final (trackingStep deskEnv) newBooks lateTransit).db 70 74
        (received deskEnv 70 74 (trace (trackingStep deskEnv) newBooks lateTransit)) := by
  have came : received deskEnv 70 74 (trace (trackingStep deskEnv) newBooks lateTransit) =
      [⟨"track-1", "DELIVERED", .utc 2⟩, ⟨"track-1", "IN_TRANSIT", .utc 1⟩] := by decide +kernel
  have shown : (trackingOf 70 74 (final (trackingStep deskEnv) newBooks lateTransit).db).trackingStatus =
      some "IN_TRANSIT" := by decide +kernel
  refine ⟨came, shown, fun shows => ?_⟩
  rw [came] at shows
  have delivered := shows ⟨"track-1", "DELIVERED", .utc 2⟩ ⟨by simp, by simp; decide⟩
  rw [shown] at delivered
  exact absurd delivered (by decide)

end AiStore.Aftersales
