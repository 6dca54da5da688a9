import AiStore.Execution.Outcome

/-! How often an unknown outcome is looked up, and how long each lookup waits. -/

set_option autoImplicit false

namespace AiStore.Execution

open Library Library.Txn Service Repository

variable {env : Env} {s t : Session Store} {key : Uuid × Uuid} {context : TenantContext} {row result : ExecutionAttempt}
  {attemptId : Uuid} {workerId : String}

/-- The observations of an attempt that are on record. -/
def observationCount (db : Store) (key : Uuid × Uuid) : Nat :=
  (db.observations.filter fun row => row.tenantId = key.1 ∧ row.attemptId = key.2).length

/-- What an entry of the log did to an attempt: the action that returned, and the attempt behind it. -/
def performed (key : Uuid × Uuid) : AttemptCall × AttemptResult → Option (AttemptAction × ExecutionAttempt)
  | (.act context attemptId action, .ok (some row)) =>
      if (context.tenantId, attemptId) = key then some (action, row) else none
  | _ => none

/-- The attempt behind an observation that the entry has recorded. -/
def recorded (key : Uuid × Uuid) (entry : AttemptCall × AttemptResult) : Option ExecutionAttempt :=
  match performed key entry with
  | some (.recordObservation .., row) => some row
  | _ => none

/-- The entry has recorded an observation that leaves the outcome unknown. -/
def leavesUnknown (key : Uuid × Uuid) (entry : AttemptCall × AttemptResult) : Bool :=
  (recorded key entry).any fun row => row.state = .unknown

/-! ## Delays -/

theorem reconciliationDelay_le (priorCount : Nat) : reconciliationDelay priorCount ≤ 300 := Int.min_le_left _ _

/-- As long as a lookup may leave the outcome unknown, the next one waits longer. -/
theorem reconciliationDelay_lt {earlier later : Nat} (order : earlier < later) (few : later < 4) :
    reconciliationDelay earlier < reconciliationDelay later := by
  have cases : ∀ later < 4, ∀ earlier < later, reconciliationDelay earlier < reconciliationDelay later := by decide
  exact cases later few earlier order

/-! ## Frames -/

theorem keeps_attemptEvent {value : ExecutionAttempt} {topic : String} :
    Keeps Store.observations (attemptEvent env context value topic) :=
  (keeps_auditBy fun _ _ => rfl).bind fun _ => keeps_now.bind fun _ => keeps_publish fun _ _ => rfl

theorem keeps_getAttempt {υ : Type} {view : Store → υ} {tenant : Uuid} : Keeps view (getAttempt tenant attemptId) :=
  (keeps_query _).bind fun _ => keeps_fetch _ _

theorem keeps_updateAttempt {expectedVersion : Nat} : Keeps Store.observations (updateAttempt row expectedVersion) :=
  keeps_getAttempt.bind fun _ => (keeps_ensure _ _).bind fun _ => keeps_write fun _ => rfl

theorem keeps_insertAttempt : Keeps Store.observations (insertAttempt row) := by
  refine (keeps_query _).bind fun _ => (keeps_ensure _ _).bind fun _ => (keeps_query _).bind fun _ => ?_
  exact (keeps_query _).bind fun _ => (keeps_ensure _ _).bind fun _ => keeps_write fun _ => rfl

theorem keeps_recoveryEvent {claimed : ExecutionAttempt} :
    Keeps Store.observations (recoveryEvent env context row claimed) := by
  unfold recoveryEvent
  split
  · exact keeps_attemptEvent
  · exact keeps_pure _

theorem keeps_claimAttempt {expectedVersion leaseSeconds : Int} :
    Keeps Store.observations (claimAttempt env context attemptId workerId expectedVersion leaseSeconds) := by
  apply Keeps.transaction
  refine (keeps_require _).bind fun _ => (keeps_inboundIdentifier _).bind fun _ => (keeps_ensure _ _).bind fun _ => ?_
  refine keeps_getAttempt.bind fun _ => keeps_now.bind fun _ => (keeps_ensure _ _).bind fun _ => ?_
  refine (keeps_ensure _ _).bind fun _ => (keeps_ensure _ _).bind fun _ => (keeps_ensure _ _).bind fun _ => ?_
  exact keeps_updateAttempt.bind fun _ => keeps_recoveryEvent.bind fun _ => keeps_pure _

theorem keeps_beginReconciliation {token : Int} :
    Keeps Store.observations (beginReconciliation env context attemptId workerId token) := by
  apply Keeps.transaction
  refine keeps_leased.bind fun _ => (keeps_ensure _ _).bind fun _ => keeps_updateAttempt.bind fun _ => ?_
  exact keeps_attemptEvent.bind fun _ => keeps_pure _

theorem keeps_beginDispatch {token : Int} :
    Keeps Store.observations (beginDispatch env context attemptId workerId token) := by
  apply Keeps.transaction
  refine keeps_leased.bind fun _ => (keeps_ensure _ _).bind fun _ => (keeps_gate fun _ _ _ _ => rfl).bind fun _ => ?_
  refine (keeps_ensure _ _).bind fun _ => keeps_checkManifest.bind fun _ => keeps_updateAttempt.bind fun _ => ?_
  exact keeps_attemptEvent.bind fun _ => keeps_pure _

theorem keeps_prepareAttempt {commandId : Uuid} {policyVersion targetVersion : Int}
    {adapterVersion provider connectionId : String} : Keeps Store.observations
      (prepareAttempt env context commandId policyVersion targetVersion adapterVersion provider connectionId) := by
  apply Keeps.transaction
  refine (keeps_require _).bind fun _ => (keeps_inboundIdentifier _).bind fun _ => (keeps_inboundIdentifier _).bind fun _ => ?_
  refine (keeps_inboundIdentifier _).bind fun _ => keeps_checkManifest.bind fun _ => (keeps_gate fun _ _ _ _ => rfl).bind fun _ => ?_
  refine (keeps_prepareExecution fun _ _ _ _ => rfl).bind fun _ => (keeps_strictIntentDigest _).bind fun _ => ?_
  refine (keeps_query _).bind fun prior => ?_
  cases prior with
  | some prior => exact (keeps_ensure _ _).bind fun _ => keeps_pure _
  | none =>
    exact keeps_freshUuid.bind fun _ => keeps_insertAttempt.bind fun _ => keeps_attemptEvent.bind fun _ => keeps_pure _

/-! ## Observations -/

/-- What recording an observation does, over the observations that were on record. -/
structure Recording (env : Env) (s : Session Store) (key : Uuid × Uuid) (observation : Mapping)
    (result : ExecutionAttempt) (t : Session Store) : Prop where
  counted : observationCount t.db key = observationCount s.db key + 1
  apart : ∀ other, other ≠ key → observationCount t.db other = observationCount s.db other
  released : result.leaseOwner = none
  /-- The third reading of the call is the one that the delay is added to. -/
  unknown : result.state = .unknown → observationCount s.db key < 4 ∧
    result.nextCheckAt = some ((env.clock (s.reads + 2)).addSeconds (reconciliationDelay (observationCount s.db key)))
  exhausted : readKind (observation.get? "kind") = .ok .inconclusive → 4 ≤ observationCount s.db key →
    result.state = .manualReview

/-- Only an inconclusive observation may leave the outcome unknown, and nothing is read for it. -/
theorem observedState_unknown {kind : ObservationKind} {observation : Mapping}
    (ran : (observedState env context row kind observation).run s = (.ok .unknown, t)) : t = s := by
  cases kind with
  | foundSuccess => simp [observedState] at ran
  | foundFailure => simp [observedState] at ran
  | inconclusive => exact ((pure_eq_ok _ _ _ _).mp ran).2
  | absent =>
    obtain ⟨origin, -⟩ := observedState_ok ran
    cases origin

theorem nextCheck_eq_ok {state : AttemptState} {priorCount : Nat} {next : Option Timestamp}
    (unknown : state = .unknown) (ran : (nextCheck env state priorCount).run s = (.ok next, t)) :
    next = some ((env.clock s.reads).addSeconds (reconciliationDelay priorCount)) := by
  rw [nextCheck, if_pos unknown] at ran
  simp only [bind_eq_ok, now_eq_ok, pure_eq_ok, exists_and_left, exists_eq_left, and_assoc] at ran
  exact ran.1

/-- One observation is filed, under the attempt that it is about. -/
theorem fileObservation_counted {expectedVersion : Nat} {kind : ObservationKind} {digest : String} {u : Unit}
    (ran : (fileObservation env context row expectedVersion kind digest).run s = (.ok u, t)) (key : Uuid × Uuid) :
    observationCount t.db key = observationCount s.db key + if (context.tenantId, row.id) = key then 1 else 0 := by
  simp only [fileObservation, appendObservation, bind_eq_ok, updateAttempt_eq_ok, freshUuid_eq_ok, now_eq_ok,
    observationsFor_eq_ok, ensure_eq_ok, write_eq_ok] at ran
  obtain ⟨_, _, ⟨-, -, -, -, rfl⟩, _, _, ⟨-, rfl⟩, _, _, ⟨-, rfl⟩, _, _, ⟨-, rfl⟩, _, _,
    ⟨_, _, ⟨-, -, rfl⟩, _, _, ⟨-, rfl⟩, rfl⟩, event⟩ := ran
  have same : t.db.observations = _ := keeps_attemptEvent.of_run event
  rw [observationCount, same, List.filter_append, List.length_append, ← observationCount]
  congr 1
  by_cases named : (context.tenantId, row.id) = key
  · subst named
    rw [if_pos rfl, List.filter_cons_of_pos (by simp)]
    rfl
  · rw [if_neg named, List.filter_cons_of_neg (by simpa [Prod.ext_iff] using named)]
    rfl

theorem recordObservation_recording {token : Int} {observation : Mapping}
    (ran : (recordObservation env context attemptId workerId token observation).run s = (.ok result, t)) :
    Recording env s (context.tenantId, attemptId) observation result t := by
  rw [recordObservation, transaction_eq_ok] at ran
  simp only [bind_eq_ok, leased_eq_ok, ensure_eq_ok, strictIntentDigest_eq_ok, ofExcept_eq_ok, observationsFor_eq_ok,
    now_eq_ok, pure_eq_ok, exists_and_left, exists_eq_left, exists_const, and_assoc] at ran
  obtain ⟨-, row, found, held, flying, -, digest, -, reference, -, kind, read, lookup, state, looked_at, looked, -, prior, rfl,
    next, later, checked, _, last, filed, rfl, rfl⟩ := ran
  obtain rfl : row.id = attemptId := congrArg Prod.snd (Library.Table.key_of_get? found)
  have kept : looked_at.db.observations = s.db.observations := congrArg Prod.snd (observedState_ok looked).2.1
  have prior : (looked_at.db.observations.filter fun other =>
      other.tenantId = context.tenantId ∧ other.attemptId = row.id).length = observationCount s.db (context.tenantId, row.id) := by
    rw [kept]
    rfl
  rw [prior] at checked filed ⊢
  have start (other : Uuid × Uuid) : observationCount later.db other = observationCount s.db other := by
    rw [observationCount, (nextCheck_ok checked).1, kept, observationCount]
  have counted := fileObservation_counted filed
  refine ⟨?_, ?_, rfl, ?_, ?_⟩
  · rw [counted, start]
    exact congrArg _ (if_pos rfl)
  · intro other apart
    rw [counted, start]
    exact congrArg _ (if_neg apart.symm)
  · intro unknown
    simp only [observed] at unknown ⊢
    have few : ¬ (state = .unknown ∧ 4 ≤ observationCount s.db (context.tenantId, row.id)) := by
      intro limited
      rw [if_pos limited] at unknown
      cases unknown
    rw [if_neg few] at unknown checked
    subst unknown
    cases observedState_unknown looked
    exact ⟨Nat.lt_of_not_le fun many => few ⟨rfl, many⟩, nextCheck_eq_ok rfl checked⟩
  · intro inconclusive many
    cases read.symm.trans inconclusive
    obtain ⟨rfl, -⟩ := (pure_eq_ok _ _ _ _).mp looked
    exact if_pos ⟨rfl, many⟩

/-- A claim that returns comes when the next check is due, and leaves it as it was. -/
theorem claimAttempt_due {expectedVersion leaseSeconds : Int}
    (ran : (claimAttempt env context attemptId workerId expectedVersion leaseSeconds).run s = (.ok result, t)) :
    ∃ row, s.db.attempts.get? (context.tenantId, attemptId) = some row ∧ result.nextCheckAt = row.nextCheckAt ∧
      ∀ due ∈ row.nextCheckAt, due ≤ env.clock s.reads := by
  rw [claimAttempt, transaction_eq_ok] at ran
  simp only [bind_eq_ok, require_eq_ok, inboundIdentifier_eq_ok, ensure_eq_ok, getAttempt_eq_ok, now_eq_ok,
    updateAttempt_eq_ok, pure_eq_ok, exists_and_left, exists_eq_left, exists_const, and_assoc] at ran
  obtain ⟨-, -, -, -, row, found, rfl, -, -, due, _, -, _, _, -, rfl, rfl⟩ := ran
  exact ⟨row, found, rfl, fun next recorded => (Timestamp.not_lt _ _).mp (due next recorded)⟩

/-! ## Steps -/

/-- An action that returned did so in its own transaction. -/
theorem act_of_step {action : AttemptAction}
    (returned : (step env (.act context attemptId action) s).1 = .ok (some result)) :
    (act env context attemptId action).run s = (.ok result, (step env (.act context attemptId action) s).2) := by
  simp only [step, perform, run_bind] at returned ⊢
  rcases ran : (act env context attemptId action).run s with ⟨why | row, after⟩ <;> simp only [ran] at returned ⊢
  · cases returned
  · cases returned
    rfl

theorem step_of_act {action : AttemptAction} (ran : (act env context attemptId action).run s = (.ok result, t)) :
    step env (.act context attemptId action) s = (.ok (some result), t) := by
  simp only [step, perform, run_bind, ran]
  rfl

theorem performed_eq_some {call : AttemptCall} {outcome : AttemptResult} {action : AttemptAction} :
    performed key (call, outcome) = some (action, row) ↔
      ∃ context, call = .act context key.2 action ∧ context.tenantId = key.1 ∧ outcome = .ok (some row) := by
  constructor
  · intro found
    unfold performed at found
    split at found
    · next context attemptId action row same =>
      cases same
      split at found
      · next named =>
        cases found
        subst named
        exact ⟨context, rfl, rfl, rfl⟩
      · cases found
    · cases found
  · rintro ⟨context, rfl, tenant, rfl⟩
    have named : (context.tenantId, key.2) = key := Prod.ext tenant rfl
    rw [performed, if_pos named]

theorem recorded_eq_some {entry : AttemptCall × AttemptResult} : recorded key entry = some row ↔
    ∃ workerId token observation, performed key entry = some (.recordObservation workerId token observation, row) := by
  unfold recorded
  constructor
  · intro found
    split at found
    · next workerId token observation row same =>
      cases found
      exact ⟨workerId, token, observation, same⟩
    · cases found
  · rintro ⟨workerId, token, observation, same⟩
    rw [same]

/-- An action that the log shows returned in its own transaction. -/
theorem performed_ran {call : AttemptCall} {action : AttemptAction}
    (found : performed key (call, (step env call s).1) = some (action, result)) :
    ∃ context, call = .act context key.2 action ∧ (context.tenantId, key.2) = key ∧
      (act env context key.2 action).run s = (.ok result, (step env call s).2) := by
  obtain ⟨context, rfl, tenant, returned⟩ := performed_eq_some.mp found
  exact ⟨context, rfl, Prod.ext tenant rfl, act_of_step returned⟩

theorem performed_recording {call : AttemptCall} {token : Int} {observation : Mapping}
    (found : performed key (call, (step env call s).1) = some (.recordObservation workerId token observation, result)) :
    Recording env s key observation result (step env call s).2 := by
  obtain ⟨context, rfl, named, ran⟩ := performed_ran found
  rw [← named]
  exact recordObservation_recording ran

/-- Only an observation touches the observations. -/
theorem keeps_perform {call : AttemptCall} (other : ∀ context attemptId workerId token observation,
      call ≠ .act context attemptId (.recordObservation workerId token observation)) :
    Keeps Store.observations (perform env call) := by
  cases call with
  | prepare => exact keeps_prepareAttempt.bind fun _ => keeps_pure _
  | elsewhere operation keeps =>
    refine Keeps.bind ?_ fun _ => keeps_pure _
    exact keeps.mono fun _ _ same => congrArg Prod.snd same
  | act context attemptId action =>
    refine Keeps.bind ?_ fun _ => keeps_pure _
    cases action with
    | claim => exact keeps_claimAttempt
    | beginDispatch => exact keeps_beginDispatch
    | beginReconciliation => exact keeps_beginReconciliation
    | recordObservation => exact absurd rfl (other _ _ _ _ _)

/-- Every recorded observation of an attempt is counted, and nothing else is. -/
theorem step_counted (call : AttemptCall) : observationCount (step env call s).2.db key =
    observationCount s.db key + (recorded key (call, (step env call s).1)).toList.length := by
  by_cases observes : ∃ context attemptId workerId token observation,
      call = .act context attemptId (.recordObservation workerId token observation)
  · obtain ⟨context, attemptId, workerId, token, observation, rfl⟩ := observes
    rcases ran : (act env context attemptId (.recordObservation workerId token observation)).run s with
      ⟨why | result, after⟩
    · simp only [step, perform, run_bind, ran, observationCount, act_error ran]
      rfl
    · rw [step_of_act ran]
      have recording := recordObservation_recording ran
      by_cases named : (context.tenantId, attemptId) = key
      · subst named
        simp only [recorded, performed, if_true]
        exact recording.counted
      · simp only [recorded, performed, if_neg named]
        exact recording.apart key fun same => named same.symm
  · have unrecorded : recorded key (call, (step env call s).1) = none := by
      refine Option.eq_none_iff_forall_ne_some.mpr fun row found => observes ?_
      obtain ⟨workerId, token, observation, shown⟩ := recorded_eq_some.mp found
      obtain ⟨context, same, -⟩ := performed_eq_some.mp shown
      exact ⟨context, key.2, workerId, token, observation, same⟩
    have same : (step env call s).2.db.observations = s.db.observations :=
      keeps_perform (fun context attemptId workerId token observation equal =>
        observes ⟨context, attemptId, workerId, token, observation, equal⟩) s
    rw [unrecorded, observationCount, same]
    rfl

/-! ## Runs -/

/-- Each observation that left the outcome unknown is one of those on record, and there are at most four. -/
theorem run_unknowns (calls : List AttemptCall) :
    (trace (step env) newSession calls).countP (leavesUnknown key) ≤ 4 ∧
      (trace (step env) newSession calls).countP (leavesUnknown key) ≤
        observationCount (final (step env) newSession calls).db key := by
  induction calls using List.reverseRecOn with
  | nil => exact ⟨Nat.zero_le _, Nat.zero_le _⟩
  | append_singleton calls call ih =>
    rw [trace_concat, final_concat, List.countP_append, List.countP_singleton, step_counted]
    cases found : recorded key (call, (step env call (final (step env) newSession calls)).1) with
    | none =>
      simp only [leavesUnknown, found, Option.any_none]
      exact ih
    | some result =>
      simp only [leavesUnknown, found, Option.any_some, Option.toList_some, List.length_singleton, decide_eq_true_eq]
      split
      · next unknown =>
        obtain ⟨_, _, _, shown⟩ := recorded_eq_some.mp found
        have few := ((performed_recording shown).unknown unknown).1
        omega
      · omega

theorem run_counted (calls : List AttemptCall) :
    observationCount s.db key ≤ observationCount (final (step env) s calls).db key := by
  refine final_invariant (fun t : Session Store => observationCount s.db key ≤ observationCount t.db key) (Nat.le_refl _) ?_
  intro call _ t below
  rw [step_counted]
  exact Nat.le_add_right_of_le below

/-! ## Claims -/

theorem lastReading_le (clock : ClockAdvances env) (call : AttemptCall) :
    lastReading env s ≤ lastReading env (step env call s).2 :=
  clock _ _ (Nat.sub_le_sub_right ((perform env call).advances s).1 1)

/-- Nobody holds the attempt before its next check is due. -/
def Waiting (env : Env) (key : Uuid × Uuid) (due : Timestamp) (s : Session Store) : Prop :=
  ∃ row, s.db.attempts.get? key = some row ∧
    (row.nextCheckAt = some due ∧ row.leaseOwner = none ∨ due ≤ lastReading env s)

theorem performed_claim {call : AttemptCall} {expectedVersion leaseSeconds : Int}
    (found : performed key (call, (step env call s).1) = some (.claim workerId expectedVersion leaseSeconds, result)) :
    ∃ row, s.db.attempts.get? key = some row ∧ (∀ due ∈ row.nextCheckAt, due ≤ env.clock s.reads) ∧
      s.reads < (step env call s).2.reads := by
  obtain ⟨context, rfl, named, ran⟩ := performed_ran found
  obtain ⟨row, row_found, -, due⟩ := claimAttempt_due ran
  exact ⟨row, named ▸ row_found, due, (claimAttempt_ok ran).reads⟩

theorem HoldsLease.owned {token : Int} {now : Timestamp} (held : HoldsLease row workerId token now) : row.leaseOwner ≠ none := by
  rw [held.1]
  exact Option.some_ne_none _

theorem waiting_step (clock : ClockAdvances env) {due : Timestamp} (waiting : Waiting env key due s) (call : AttemptCall) :
    Waiting env key due (step env call s).2 := by
  have later : lastReading env s ≤ _ := lastReading_le clock call
  obtain ⟨row, found, ⟨scheduled, free⟩ | passed⟩ := waiting
  · rcases @row_step env _ _ _ found call with kept | ⟨context, action, result, rfl, tenant, moved, returned, written⟩
    · exact ⟨row, kept, .inl ⟨scheduled, free⟩⟩
    · refine ⟨result, written, .inr ?_⟩
      -- only a claim moves an attempt that nobody holds
      cases moved with
      | claim =>
        obtain ⟨other, other_found, checked, reads⟩ := performed_claim (performed_eq_some.mpr ⟨context, rfl, tenant, returned⟩)
        cases Option.some.inj (found.symm.trans other_found)
        exact (checked due scheduled).trans (clock _ _ (Nat.le_sub_one_of_lt reads))
      | beginDispatch held => exact absurd free held.owned
      | beginReconciliation held => exact absurd free held.owned
      | recordObservation held => exact absurd free held.owned
  · obtain ⟨after, kept⟩ := @row_persists env _ _ _ found call
    exact ⟨after, kept, .inr (passed.trans later)⟩

/-- The next check stays as it is until the attempt is observed again. -/
theorem scheduled_step {due : Timestamp} (found : s.db.attempts.get? key = some row) (scheduled : row.nextCheckAt = some due)
    {call : AttemptCall} (unobserved : recorded key (call, (step env call s).1) = none) :
    ∃ after, (step env call s).2.db.attempts.get? key = some after ∧ after.nextCheckAt = some due := by
  rcases @row_step env _ _ _ found call with kept | ⟨context, action, result, rfl, tenant, moved, returned, written⟩
  · exact ⟨row, kept, scheduled⟩
  · refine ⟨result, written, ?_⟩
    cases moved with
    | claim => exact scheduled
    | beginDispatch => exact scheduled
    | beginReconciliation => exact scheduled
    | @recordObservation workerId token observation =>
      have shown : performed key _ = some (.recordObservation workerId token observation, _) :=
        performed_eq_some.mpr ⟨context, rfl, tenant, returned⟩
      cases unobserved.symm.trans (recorded_eq_some.mpr ⟨workerId, token, observation, shown⟩)

theorem scheduled_run {due : Timestamp} {calls : List AttemptCall} (found : s.db.attempts.get? key = some row)
    (scheduled : row.nextCheckAt = some due)
    (unobserved : ∀ entry ∈ trace (step env) s calls, recorded key entry = none) :
    ∃ after, (final (step env) s calls).db.attempts.get? key = some after ∧ after.nextCheckAt = some due := by
  induction calls generalizing s row with
  | nil => exact ⟨row, found, scheduled⟩
  | cons call rest ih =>
    obtain ⟨first, others⟩ := List.forall_mem_cons.mp unobserved
    obtain ⟨after, kept, still⟩ := scheduled_step found scheduled first
    exact ih kept still others

/-- Where an observation has left the outcome unknown, the attempt is free and to be checked again. -/
theorem recorded_row {call : AttemptCall} (found : recorded key (call, (step env call s).1) = some result) :
    (step env call s).2.db.attempts.get? key = some result ∧ result.leaseOwner = none := by
  obtain ⟨workerId, token, observation, shown⟩ := recorded_eq_some.mp found
  have released := (performed_recording shown).released
  obtain ⟨context, rfl, named, ran⟩ := performed_ran shown
  obtain ⟨⟨row, row_found, moved⟩, written, -⟩ := act_ok ran
  refine ⟨?_, released⟩
  rw [written, ← named, ← Library.Table.key_of_get? row_found, ← moved.key]
  exact Library.Table.get?_put_self _ _

/-! ## Every run -/

/-- The next check comes `delay` seconds after the call's third reading of the clock. -/
def DelayedBy (env : Env) (s : Session Store) (result : ExecutionAttempt) (delay : Int) : Prop :=
  result.nextCheckAt = some ((env.clock (s.reads + 2)).addSeconds delay)

instance (env : Env) (s : Session Store) (result : ExecutionAttempt) (delay : Int) : Decidable (DelayedBy env s result delay) := by
  unfold DelayedBy
  exact inferInstance

theorem recorded_delay {call : AttemptCall} (found : recorded key (call, (step env call s).1) = some result)
    (unknown : result.state = .unknown) : observationCount s.db key < 4 ∧
      ∀ delay, DelayedBy env s result delay ↔ delay = reconciliationDelay (observationCount s.db key) := by
  obtain ⟨_, _, _, shown⟩ := recorded_eq_some.mp found
  obtain ⟨few, scheduled⟩ := (performed_recording shown).unknown unknown
  refine ⟨few, fun delay => ?_⟩
  rw [DelayedBy, scheduled, Option.some_inj, Timestamp.addSeconds_inj]
  exact eq_comm

/-- In every run at most four observations leave the outcome of an attempt unknown, a later one that would do so puts it
under review, each next check waits longer than the one before and none longer than 300 seconds, and no claim
comes before it: up to the next observation whatever the clock does, and ever where it does not go back. -/
theorem bounded_reconciliation (env : Env) (calls : List AttemptCall) (key : Uuid × Uuid) :
    let reached := final (step env) newSession
    let unknowns := fun before => (trace (step env) newSession before).countP (leavesUnknown key)
    let entry := fun before call => (call, (step env call (reached before)).1)
    unknowns calls ≤ 4 ∧
    (∀ before call after workerId token observation result, calls = before ++ call :: after →
      performed key (entry before call) = some (.recordObservation workerId token observation, result) →
      readKind (observation.get? "kind") = .ok .inconclusive → 4 ≤ unknowns before → result.state = .manualReview) ∧
    (∀ before call after result, calls = before ++ call :: after → recorded key (entry before call) = some result →
      result.state = .unknown → ∃ delay ≤ 300, DelayedBy env (reached before) result delay) ∧
    (∀ before first between second after result last delay lastDelay,
      calls = before ++ first :: (between ++ second :: after) →
      recorded key (entry before first) = some result → result.state = .unknown →
      DelayedBy env (reached before) result delay →
      recorded key (entry (before ++ first :: between) second) = some last → last.state = .unknown →
      DelayedBy env (reached (before ++ first :: between)) last lastDelay → delay < lastDelay) ∧
    (∀ before observation between claim after result due workerId expectedVersion leaseSeconds claimed,
      calls = before ++ observation :: (between ++ claim :: after) →
      recorded key (entry before observation) = some result → result.state = .unknown → result.nextCheckAt = some due →
      performed key (entry (before ++ observation :: between) claim) =
        some (.claim workerId expectedVersion leaseSeconds, claimed) →
      (ClockAdvances env ∨
        ∀ later ∈ trace (step env) (reached (before ++ [observation])) between, recorded key later = none) →
      due ≤ env.clock (reached (before ++ observation :: between)).reads) := by
  refine ⟨(run_unknowns calls).1, ?_, ?_, ?_, ?_⟩
  · intro before call after workerId token observation result _ shown inconclusive many
    exact (performed_recording shown).exhausted inconclusive (many.trans (run_unknowns before).2)
  · intro before call after result _ found unknown
    exact ⟨_, reconciliationDelay_le _, ((recorded_delay found unknown).2 _).mpr rfl⟩
  · intro before first between second after result last delay lastDelay _ found unknown delayed last_found last_unknown
      last_delayed
    obtain ⟨few, last_delay⟩ := recorded_delay last_found last_unknown
    rw [((recorded_delay found unknown).2 delay).mp delayed, (last_delay lastDelay).mp last_delayed]
    refine reconciliationDelay_lt ?_ few
    -- the first of the two is itself on record when the second is made
    rw [final_split]
    refine Nat.lt_of_lt_of_le ?_ (run_counted between)
    rw [final_concat, step_counted, found]
    exact Nat.lt_succ_self _
  · intro before observation between claim after result due workerId expectedVersion leaseSeconds claimed _ found unknown
      scheduled shown order
    obtain ⟨kept, free⟩ := recorded_row found
    obtain ⟨row, row_found, checked, -⟩ := performed_claim shown
    rw [final_split, final_concat] at row_found checked ⊢
    rcases order with clock | unobserved
    · have waiting := @final_invariant _ _ _ (step env) _ (Waiting env key due) between
        ⟨result, kept, .inl ⟨scheduled, free⟩⟩ fun call _ t waiting => waiting_step clock waiting call
      obtain ⟨other, other_found, ⟨still, -⟩ | passed⟩ := waiting
      · cases Option.some.inj (row_found.symm.trans other_found)
        exact checked due still
      · exact passed.trans (clock _ _ (Nat.sub_le _ _))
    · rw [final_concat] at unobserved
      obtain ⟨other, other_found, still⟩ := scheduled_run kept scheduled unobserved
      cases Option.some.inj (row_found.symm.trans other_found)
      exact checked due still

/-- A dispatch and a lookup that both find out nothing. -/
def lookups : List AttemptCall :=
  toDispatch ++ [.act demoMaster 4 (.beginDispatch "worker" 1),
    .act demoMaster 4 (.recordObservation "worker" 1 (report "INCONCLUSIVE" false)),
    .act demoMaster 4 (.claim "worker" 4 300), .act demoMaster 4 (.beginReconciliation "worker" 2),
    .act demoMaster 4 (.recordObservation "worker" 2 (report "INCONCLUSIVE" false))]

set_option maxRecDepth 4000 in
theorem bounded_reconciliation_twice :
    (trace (step demoEnv) newSession lookups).countP (leavesUnknown (0, 4)) = 2 ∧
      (trace (step demoEnv) newSession lookups).countP (leavesUnknown (0, 4)) ≤ 4 :=
  ⟨by decide, (bounded_reconciliation demoEnv lookups (0, 4)).1⟩

end AiStore.Execution
