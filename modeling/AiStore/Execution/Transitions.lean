import AiStore.Execution.Attempts
import AiStore.Service.ApprovalRuns

/-! What each operation on attempts does to the table of attempts. -/

set_option autoImplicit false

namespace AiStore.Execution

open Library (Session Txn)
open Library.Txn Failure Repository Service

variable {env : Env} {context : TenantContext} {s t : Session Store} {attemptId : Uuid} {workerId : String}

/-- The tables of this part of the service. -/
def executionTables (db : Store) : Library.Table ExecutionAttempt.key × List AttemptObservation :=
  (db.attempts, db.observations)

/-! ## Frames -/

/-- The gate writes what the preparation does. -/
theorem keeps_gate {υ : Type} {view : Store → υ} (unread : ∀ db preparations events box,
      view { db with executionPreparations := preparations, auditEvents := events, outbox := box } = view db)
    {commandId : Uuid} {connectionId : String} : Keeps view (gate env context commandId connectionId) := by
  refine (keeps_query _).bind fun _ => (keeps_ensure _ _).bind fun _ => ?_
  refine ((keeps_query _).bind fun _ => keeps_fetch _ _).bind fun _ => (keeps_ensure _ _).bind fun _ => ?_
  exact (keeps_prepareExecution unread).bind fun _ => keeps_pure _

/-- A stop control is set in its own table, with an event. -/
theorem keeps_setDemoStop {υ : Type} {view : Store → υ} (unread : ∀ db controls events,
      view { db with stopControls := controls, auditEvents := events } = view db)
    {scopeType scopeRef : String} {stopped : Bool} {reason : String} :
    Keeps view (setDemoStop env context scopeType scopeRef stopped reason) := by
  refine (keeps_require _).bind fun _ => (keeps_ensure _ _).bind fun _ => (keeps_ensure _ _).bind fun _ => ?_
  apply keeps_transaction
  intro s result t ran
  simp only [bind_eq_ok, findStopControl, saveStopControl, query_eq_ok, now_eq_ok, write_eq_ok, audit_eq_ok,
    pure_eq_ok] at ran
  obtain ⟨_, start, ⟨rfl, rfl⟩, _, _, ⟨rfl, rfl⟩, _, _, rfl, _, _, rfl, -, rfl⟩ := ran
  exact unread start.db _ _

theorem keeps_checkManifest {υ : Type} {view : Store → υ} {provider connectionId adapterVersion : String} :
    Keeps view (checkManifest context provider connectionId adapterVersion) :=
  ((keeps_query _).bind fun _ => keeps_fetch _ _).bind fun _ => keeps_ensure _ _

theorem keeps_leased {υ : Type} {view : Store → υ} {attemptId : Uuid} {workerId : String} {token : Int} :
    Keeps view (leased env context attemptId workerId token) := by
  refine (keeps_require _).bind fun _ => ((keeps_query _).bind fun _ => keeps_fetch _ _).bind fun _ => ?_
  exact keeps_now.bind fun _ => (keeps_ensure _ _).bind fun _ => keeps_pure _

@[simp] theorem checkManifest_eq_ok {provider connectionId adapterVersion : String} {u : Unit} :
    (checkManifest context provider connectionId adapterVersion).run s = (.ok u, t) ↔
      (∃ manifest, s.db.manifests.get? (context.tenantId, provider, connectionId) = some manifest ∧
        manifest.adapterVersion = adapterVersion ∧ .demoExecute ∈ manifest.capabilities ∧
        .demoLookup ∈ manifest.capabilities) ∧ t = s := by
  simp only [checkManifest, getAdapterManifest, bind_eq_ok, query_eq_ok, fetch_eq_ok, ensure_eq_ok]
  constructor
  · rintro ⟨manifest, _, ⟨_, _, ⟨rfl, rfl⟩, found, rfl⟩, explicit, rfl⟩
    exact ⟨⟨manifest, found, explicit⟩, rfl⟩
  · rintro ⟨⟨manifest, found, explicit⟩, rfl⟩
    exact ⟨manifest, _, ⟨_, _, ⟨rfl, rfl⟩, found, rfl⟩, explicit, rfl⟩

/-- An attempt's event leaves the tables of attempts and consumes readings and identifiers. -/
theorem attemptEvent_ok {value : ExecutionAttempt} {topic : String} {u : Unit}
    (ran : (attemptEvent env context value topic).run s = (.ok u, t)) :
    executionTables t.db = executionTables s.db ∧ s.reads < t.reads ∧ s.uuids < t.uuids := by
  simp only [attemptEvent, bind_eq_ok, auditBy_eq_ok, now_eq_ok, publish_eq_ok] at ran
  obtain ⟨_, _, rfl, _, _, ⟨rfl, rfl⟩, -, rfl⟩ := ran
  exact ⟨rfl, by simp only []; omega, by simp only []; omega⟩

@[simp] theorem leased_eq_ok {token : Int} {value : ExecutionAttempt} :
    (leased env context attemptId workerId token).run s = (.ok value, t) ↔
      Authorized s.db context .tenantAdmin ∧ s.db.attempts.get? (context.tenantId, attemptId) = some value ∧
        HoldsLease value workerId token (env.clock s.reads) ∧ t = { s with reads := s.reads + 1 } := by
  simp only [leased, bind_eq_ok, require_eq_ok, getAttempt_eq_ok, now_eq_ok, ensure_eq_ok, pure_eq_ok]
  constructor
  · rintro ⟨_, _, ⟨authorized, rfl⟩, _, _, ⟨found, rfl⟩, _, _, ⟨rfl, rfl⟩, _, _, ⟨held, rfl⟩, rfl, rfl⟩
    exact ⟨authorized, found, held, rfl⟩
  · rintro ⟨authorized, found, held, rfl⟩
    exact ⟨(), _, ⟨authorized, rfl⟩, _, _, ⟨found, rfl⟩, _, _, ⟨rfl, rfl⟩, (), _, ⟨held, rfl⟩, rfl, rfl⟩

/-! ## Calls -/

inductive AttemptAction where
  | claim (workerId : String) (expectedVersion leaseSeconds : Int)
  | beginDispatch (workerId : String) (token : Int)
  | beginReconciliation (workerId : String) (token : Int)
  | recordObservation (workerId : String) (token : Int) (observation : Mapping)

/-- A call on the attempts, or any operation that leaves their tables alone. -/
inductive AttemptCall where
  | prepare (context : TenantContext) (commandId : Uuid) (policyVersion targetVersion : Int)
      (adapterVersion provider connectionId : String)
  | act (context : TenantContext) (attemptId : Uuid) (action : AttemptAction)
  | elsewhere (operation : Op Unit) (keeps : Keeps executionTables operation)

/-- What a call returned: the attempt, where it is about one. -/
abbrev AttemptResult := Except Failure (Option ExecutionAttempt)

def act (env : Env) (context : TenantContext) (attemptId : Uuid) : AttemptAction → Op ExecutionAttempt
  | .claim workerId expectedVersion leaseSeconds => claimAttempt env context attemptId workerId expectedVersion leaseSeconds
  | .beginDispatch workerId token => beginDispatch env context attemptId workerId token
  | .beginReconciliation workerId token => beginReconciliation env context attemptId workerId token
  | .recordObservation workerId token observation => recordObservation env context attemptId workerId token observation

def perform (env : Env) : AttemptCall → Op (Option ExecutionAttempt)
  | .prepare context commandId policyVersion targetVersion adapterVersion provider connectionId => do
      let (attempt, _) ← prepareAttempt env context commandId policyVersion targetVersion adapterVersion provider connectionId
      pure (some attempt)
  | .act context attemptId action => do
      let attempt ← act env context attemptId action
      pure (some attempt)
  | .elsewhere operation _ => do
      operation
      pure none

def step (env : Env) (call : AttemptCall) (s : Session Store) : AttemptResult × Session Store := (perform env call).run s

/-! ## Transitions -/

/-- The state an observation may lead to, in the session where its lease was checked. -/
inductive Observed (env : Env) (context : TenantContext) (s : Session Store) (row : ExecutionAttempt)
    (observation : Mapping) : ObservationKind → AttemptState → Prop where
  | success : Observed env context s row observation .foundSuccess .verifiedSuccess
  | failure : Observed env context s row observation .foundFailure .verifiedFailure
  | inconclusive : Observed env context s row observation .inconclusive .unknown
  | exhausted : Observed env context s row observation .inconclusive .manualReview
  | absent : Observed env context s row observation .absent .manualReview
  /-- Only an authoritative absence, and only while the gate lets the command pass. -/
  | released {preparation : ExecutionPreparation} {after : Session Store} :
      observation.get? "authoritative_absence" = some (.bool true) →
      (gate env context row.commandId row.connectionId).run s = (.ok preparation, after) →
      Observed env context s row observation .absent .prepared

/-- What an action that returns makes of a row. -/
inductive Transition (env : Env) (context : TenantContext) (s : Session Store) (row : ExecutionAttempt) :
    AttemptAction → ExecutionAttempt → Prop where
  | claim {workerId : String} {leaseSeconds : Int} : ¬ row.state.Terminal →
      (∀ expiry ∈ row.leaseUntil, ¬ env.clock s.reads < expiry) → 1 ≤ leaseSeconds →
      Transition env context s row (.claim workerId row.version leaseSeconds)
        (claimedBy row workerId ((env.clock s.reads).addSeconds leaseSeconds))
  | beginDispatch {workerId : String} {token : Int} : HoldsLease row workerId token (env.clock s.reads) →
      row.state = .prepared → Transition env context s row (.beginDispatch workerId token) (begun row .dispatching)
  | beginReconciliation {workerId : String} {token : Int} : HoldsLease row workerId token (env.clock s.reads) →
      row.state = .unknown → Transition env context s row (.beginReconciliation workerId token) (begun row .reconciling)
  | recordObservation {workerId : String} {token : Int} {observation : Mapping} {kind : ObservationKind}
      {state : AttemptState} {reference : Option String} {lastObservedAt : Timestamp}
      {nextCheckAt : Option Timestamp} : HoldsLease row workerId token (env.clock s.reads) → row.state.InFlight →
      readKind (observation.get? "kind") = .ok kind → (kind = .absent → row.state = .reconciling) →
      Observed env context { s with reads := s.reads + 1 } row observation kind state →
      Transition env context s row (.recordObservation workerId token observation)
        (observed row state reference lastObservedAt nextCheckAt)

/-- The attempt a preparation inserts. -/
structure Inserted (s : Session Store) (row : ExecutionAttempt) : Prop where
  fresh : s.db.attempts.get? row.key = none
  operation_fresh : ∀ other ∈ s.db.attempts.rows, other.tenantId = row.tenantId → other.operationKey ≠ row.operationKey
  state : row.state = .prepared
  version : row.version = 1
  token : row.fencingToken = 0
  owner : row.leaseOwner = none
  expiry : row.leaseUntil = none

section

variable {row result : ExecutionAttempt} {token : Int}

/-- An action that returns has moved the row it names, and read the clock. -/
structure Acted (env : Env) (context : TenantContext) (s : Session Store) (attemptId : Uuid) (action : AttemptAction)
    (result : ExecutionAttempt) (t : Session Store) : Prop where
  moved : ∃ row, s.db.attempts.get? (context.tenantId, attemptId) = some row ∧
    Transition env context s row action result
  written : t.db.attempts = s.db.attempts.put result
  reads : s.reads < t.reads

theorem recoveryEvent_ok {claimed : ExecutionAttempt} {u : Unit}
    (ran : (recoveryEvent env context row claimed).run s = (.ok u, t)) :
    executionTables t.db = executionTables s.db ∧ s.reads ≤ t.reads := by
  unfold recoveryEvent at ran
  split at ran
  · obtain ⟨same, reads, -⟩ := attemptEvent_ok ran
    exact ⟨same, Nat.le_of_lt reads⟩
  · obtain ⟨-, rfl⟩ := (pure_eq_ok _ _ _ _).mp ran
    exact ⟨rfl, Nat.le_refl _⟩

theorem claimAttempt_ok {expectedVersion leaseSeconds : Int}
    (ran : (claimAttempt env context attemptId workerId expectedVersion leaseSeconds).run s = (.ok result, t)) :
    Acted env context s attemptId (.claim workerId expectedVersion leaseSeconds) result t := by
  rw [claimAttempt, transaction_eq_ok] at ran
  simp only [bind_eq_ok, require_eq_ok, inboundIdentifier_eq_ok, ensure_eq_ok, getAttempt_eq_ok, now_eq_ok,
    updateAttempt_eq_ok, pure_eq_ok, exists_and_left, exists_eq_left, exists_const, and_assoc] at ran
  obtain ⟨-, -, positive, -, row, found, rfl, active, free, -, _, ⟨-, -, -, -, rfl⟩, _, _, event, rfl, rfl⟩ := ran
  obtain ⟨same, reads⟩ := recoveryEvent_ok event
  exact ⟨⟨row, found, .claim active free positive⟩, congrArg Prod.fst same, reads⟩

theorem beginReconciliation_ok
    (ran : (beginReconciliation env context attemptId workerId token).run s = (.ok result, t)) :
    Acted env context s attemptId (.beginReconciliation workerId token) result t := by
  rw [beginReconciliation, transaction_eq_ok] at ran
  simp only [bind_eq_ok, leased_eq_ok, ensure_eq_ok, updateAttempt_eq_ok, pure_eq_ok, exists_and_left, exists_eq_left,
    exists_const, and_assoc] at ran
  obtain ⟨-, row, found, held, unknown, _, ⟨-, -, -, -, rfl⟩, _, _, event, rfl, rfl⟩ := ran
  obtain ⟨same, reads, -⟩ := attemptEvent_ok event
  exact ⟨⟨row, found, .beginReconciliation held unknown⟩, congrArg Prod.fst same, Nat.lt_of_succ_lt reads⟩

theorem beginDispatch_ok (ran : (beginDispatch env context attemptId workerId token).run s = (.ok result, t)) :
    Acted env context s attemptId (.beginDispatch workerId token) result t := by
  rw [beginDispatch, transaction_eq_ok] at ran
  simp only [bind_eq_ok, leased_eq_ok, ensure_eq_ok, checkManifest_eq_ok, updateAttempt_eq_ok, pure_eq_ok,
    exists_and_left, exists_eq_left, exists_const, and_assoc] at ran
  obtain ⟨-, row, found, held, prepared, preparation, middle, gated, -, -, _, ⟨-, -, -, -, rfl⟩, _, _, event, rfl, rfl⟩ := ran
  have kept : executionTables _ = executionTables _ := (keeps_gate fun _ _ _ _ => rfl).of_run gated
  have later := (gate env context row.commandId row.connectionId).advances { s with reads := s.reads + 1 }
  rw [gated] at later
  obtain ⟨same, reads, -⟩ := attemptEvent_ok event
  refine ⟨⟨row, found, .beginDispatch held prepared⟩, ?_, Nat.lt_of_lt_of_le (Nat.lt_of_succ_le later.1) (Nat.le_of_lt reads)⟩
  exact (congrArg Prod.fst same).trans (congrArg (Library.Table.put · _) (congrArg Prod.fst kept))

/-- Where the observed state comes from, and that looking for it moves no attempt. -/
theorem observedState_ok {kind : ObservationKind} {observation : Mapping} {state : AttemptState}
    (ran : (observedState env context row kind observation).run s = (.ok state, t)) :
    Observed env context s row observation kind state ∧ executionTables t.db = executionTables s.db ∧
      s.reads ≤ t.reads := by
  cases kind with
  | foundSuccess =>
    obtain ⟨rfl, rfl⟩ := (pure_eq_ok _ _ _ _).mp ran
    exact ⟨.success, rfl, Nat.le_refl _⟩
  | foundFailure =>
    obtain ⟨rfl, rfl⟩ := (pure_eq_ok _ _ _ _).mp ran
    exact ⟨.failure, rfl, Nat.le_refl _⟩
  | inconclusive =>
    obtain ⟨rfl, rfl⟩ := (pure_eq_ok _ _ _ _).mp ran
    exact ⟨.inconclusive, rfl, Nat.le_refl _⟩
  | absent =>
    simp only [observedState] at ran
    split at ran
    · next authoritative =>
      simp only [bind_eq_ok, caught_eq_ok] at ran
      obtain ⟨outcome, middle, gated, ran⟩ := ran
      have kept : executionTables _ = executionTables _ := (keeps_gate fun _ _ _ _ => rfl).of_run gated
      have later := (gate env context row.commandId row.connectionId).advances s
      rw [gated] at later
      cases outcome with
      | ok preparation =>
        obtain ⟨rfl, rfl⟩ := (pure_eq_ok _ _ _ _).mp ran
        exact ⟨.released authoritative gated, kept, later.1⟩
      | error why =>
        simp only at ran
        split at ran
        · obtain ⟨rfl, rfl⟩ := (pure_eq_ok _ _ _ _).mp ran
          exact ⟨.absent, kept, later.1⟩
        · simp at ran
    · obtain ⟨rfl, rfl⟩ := (pure_eq_ok _ _ _ _).mp ran
      exact ⟨.absent, rfl, Nat.le_refl _⟩

/-- Running out of lookups turns an unknown outcome into one for a human. -/
theorem Observed.limited {kind : ObservationKind} {observation : Mapping} {state : AttemptState}
    (found : Observed env context s row observation kind state) (spent : Prop) [Decidable spent] :
    Observed env context s row observation kind (if state = .unknown ∧ spent then .manualReview else state) := by
  split
  · next limited =>
    obtain ⟨rfl, -⟩ := limited
    cases found
    exact .exhausted
  · exact found

theorem nextCheck_ok {state : AttemptState} {priorCount : Nat} {next : Option Timestamp}
    (ran : (nextCheck env state priorCount).run s = (.ok next, t)) :
    t.db = s.db ∧ s.reads ≤ t.reads := by
  unfold nextCheck at ran
  split at ran
  · simp only [bind_eq_ok, now_eq_ok, pure_eq_ok] at ran
    obtain ⟨_, _, ⟨rfl, rfl⟩, -, rfl⟩ := ran
    exact ⟨rfl, Nat.le_succ _⟩
  · obtain ⟨-, rfl⟩ := (pure_eq_ok _ _ _ _).mp ran
    exact ⟨rfl, Nat.le_refl _⟩

theorem fileObservation_ok {expectedVersion : Nat} {kind : ObservationKind} {digest : String} {u : Unit}
    (ran : (fileObservation env context row expectedVersion kind digest).run s = (.ok u, t)) :
    t.db.attempts = s.db.attempts.put row ∧ s.reads ≤ t.reads := by
  simp only [fileObservation, appendObservation, bind_eq_ok, updateAttempt_eq_ok, freshUuid_eq_ok, now_eq_ok,
    observationsFor_eq_ok, ensure_eq_ok, write_eq_ok] at ran
  obtain ⟨_, _, ⟨-, -, -, -, rfl⟩, _, _, ⟨-, rfl⟩, _, _, ⟨-, rfl⟩, _, _, ⟨-, rfl⟩, _, _,
    ⟨_, _, ⟨-, -, rfl⟩, _, _, ⟨-, rfl⟩, rfl⟩, event⟩ := ran
  obtain ⟨same, reads, -⟩ := attemptEvent_ok event
  exact ⟨congrArg Prod.fst same, Nat.le_trans (Nat.le_succ _) (Nat.le_of_lt reads)⟩

theorem recordObservation_ok {observation : Mapping}
    (ran : (recordObservation env context attemptId workerId token observation).run s = (.ok result, t)) :
    Acted env context s attemptId (.recordObservation workerId token observation) result t := by
  rw [recordObservation, transaction_eq_ok] at ran
  simp only [bind_eq_ok, leased_eq_ok, ensure_eq_ok, strictIntentDigest_eq_ok, ofExcept_eq_ok, observationsFor_eq_ok,
    now_eq_ok, pure_eq_ok, exists_and_left, exists_eq_left, exists_const, and_assoc] at ran
  obtain ⟨-, row, found, held, flying, -, digest, -, reference, -, kind, read, lookup, state, middle, looked, -, _, -,
    next, later, checked, _, last, filed, rfl, rfl⟩ := ran
  obtain ⟨origin, looked_tables, looked_reads⟩ := observedState_ok looked
  obtain ⟨checked_db, checked_reads⟩ := nextCheck_ok checked
  obtain ⟨written, filed_reads⟩ := fileObservation_ok filed
  refine ⟨⟨row, found, .recordObservation held flying read lookup (origin.limited _)⟩, ?_, ?_⟩
  · have unmoved : later.db.attempts = s.db.attempts := by
      rw [checked_db]
      exact congrArg Prod.fst looked_tables
    rw [written, unmoved]
  · simp only at looked_reads checked_reads
    omega

theorem act_ok {action : AttemptAction} (ran : (act env context attemptId action).run s = (.ok result, t)) :
    Acted env context s attemptId action result t := by
  cases action with
  | claim => exact claimAttempt_ok ran
  | beginDispatch => exact beginDispatch_ok ran
  | beginReconciliation => exact beginReconciliation_ok ran
  | recordObservation => exact recordObservation_ok ran

/-- An action that raises leaves the store alone. -/
theorem act_error {action : AttemptAction} {why : Failure}
    (raised : (act env context attemptId action).run s = (.error why, t)) : t.db = s.db := by
  cases action <;> exact transaction_error_db raised

end

/-! ## Steps -/

theorem prepareAttempt_ok {commandId : Uuid} {policyVersion targetVersion : Int}
    {adapterVersion provider connectionId : String} {result : ExecutionAttempt} {replayed : Bool}
    (ran : (prepareAttempt env context commandId policyVersion targetVersion adapterVersion provider connectionId).run s =
      (.ok (result, replayed), t)) :
    executionTables t.db = executionTables s.db ∨ Inserted s result ∧ t.db.attempts = s.db.attempts.put result := by
  rw [prepareAttempt, transaction_eq_ok] at ran
  simp only [bind_eq_ok, require_eq_ok, inboundIdentifier_eq_ok, checkManifest_eq_ok, strictIntentDigest_eq_ok,
    attemptForKey, query_eq_ok, exists_and_left, exists_eq_left, exists_const, and_assoc] at ran
  obtain ⟨-, -, -, -, -, preparation, middle, gated, _, later, prepared, -, prior, rfl, ran⟩ := ran
  have kept : executionTables later.db = executionTables s.db :=
    ((keeps_prepareExecution fun _ _ _ _ => rfl).of_run prepared).trans ((keeps_gate fun _ _ _ _ => rfl).of_run gated)
  split at ran
  · simp only [bind_eq_ok, ensure_eq_ok, pure_eq_ok] at ran
    obtain ⟨_, _, ⟨-, rfl⟩, -, rfl⟩ := ran
    exact .inl kept
  · simp only [bind_eq_ok, freshUuid_eq_ok, insertAttempt_eq_ok, pure_eq_ok, Prod.mk.injEq] at ran
    obtain ⟨_, _, ⟨rfl, rfl⟩, _, _, ⟨-, free, fresh, rfl⟩, _, _, event, ⟨rfl, -⟩, rfl⟩ := ran
    have attempts := congrArg Prod.fst kept
    simp only [executionTables] at attempts
    simp only [attempts] at free fresh
    refine .inr ⟨⟨fresh, fun other member same equal => free other member ⟨same, equal⟩, rfl, rfl, rfl, rfl, rfl⟩, ?_⟩
    exact (congrArg Prod.fst (attemptEvent_ok event).1).trans (congrArg (Library.Table.put · _) attempts)

theorem Transition.key {row result : ExecutionAttempt} {action : AttemptAction}
    (moved : Transition env context s row action result) : result.key = row.key := by
  cases moved <;> rfl

/-- What a call returned and did to the table of attempts. -/
inductive Stepped (env : Env) (s : Session Store) : AttemptCall → AttemptResult → Session Store → Prop where
  | idle {call : AttemptCall} {outcome : AttemptResult} {t : Session Store} :
      (∀ context attemptId action, call = .act context attemptId action → ∃ why, outcome = .error why) →
      t.db.attempts = s.db.attempts → Stepped env s call outcome t
  | inserted {context : TenantContext} {commandId : Uuid} {policyVersion targetVersion : Int}
      {adapterVersion provider connectionId : String} {row : ExecutionAttempt} {t : Session Store} : Inserted s row →
      t.db.attempts = s.db.attempts.put row →
      Stepped env s (.prepare context commandId policyVersion targetVersion adapterVersion provider connectionId)
        (.ok (some row)) t
  | acted {context : TenantContext} {attemptId : Uuid} {action : AttemptAction} {row result : ExecutionAttempt}
      {t : Session Store} : s.db.attempts.get? (context.tenantId, attemptId) = some row →
      Transition env context s row action result → t.db.attempts = s.db.attempts.put result → s.reads < t.reads →
      Stepped env s (.act context attemptId action) (.ok (some result)) t

theorem step_stepped (env : Env) (call : AttemptCall) (s : Session Store) :
    Stepped env s call (step env call s).1 (step env call s).2 := by
  rcases stepped : step env call s with ⟨outcome, t⟩
  cases call with
  | prepare context commandId policyVersion targetVersion adapterVersion provider connectionId =>
    simp only [step, perform, run_bind] at stepped
    rcases ran : (prepareAttempt env context commandId policyVersion targetVersion adapterVersion provider
      connectionId).run s with ⟨why | ⟨result, replayed⟩, after⟩
    · simp only [ran, Prod.mk.injEq] at stepped
      obtain ⟨rfl, rfl⟩ := stepped
      exact .idle nofun (congrArg _ (transaction_error_db ran))
    · simp only [ran] at stepped
      cases stepped
      rcases prepareAttempt_ok ran with kept | ⟨inserted, written⟩
      · exact .idle nofun (congrArg Prod.fst kept)
      · exact .inserted inserted written
  | act context attemptId action =>
    simp only [step, perform, run_bind] at stepped
    rcases ran : (act env context attemptId action).run s with ⟨why | result, after⟩
    · simp only [ran, Prod.mk.injEq] at stepped
      obtain ⟨rfl, rfl⟩ := stepped
      exact .idle (fun _ _ _ _ => ⟨why, rfl⟩) (congrArg _ (act_error ran))
    · simp only [ran] at stepped
      cases stepped
      obtain ⟨⟨row, found, moved⟩, written, reads⟩ := act_ok ran
      exact .acted found moved written reads
  | elsewhere operation keeps =>
    have framed : Keeps executionTables (perform env (.elsewhere operation keeps)) :=
      keeps.bind fun _ => keeps_pure _
    exact .idle nofun (congrArg Prod.fst (framed.of_run stepped))

section

variable {key : Uuid × Uuid} {row : ExecutionAttempt}

/-- A call leaves a row alone, or it is an action on that row that returned. -/
theorem row_step (found : s.db.attempts.get? key = some row) (call : AttemptCall) :
    (step env call s).2.db.attempts.get? key = some row ∨
      ∃ context action result, call = .act context key.2 action ∧ context.tenantId = key.1 ∧
        Transition env context s row action result ∧ (step env call s).1 = .ok (some result) ∧
        (step env call s).2.db.attempts.get? key = some result := by
  have stepped := step_stepped env call s
  generalize (step env call s).1 = outcome at stepped ⊢
  generalize (step env call s).2 = t at stepped ⊢
  cases stepped with
  | idle _ written =>
    rw [written]
    exact .inl found
  | @inserted _ _ _ _ _ _ _ other _ inserted written =>
    refine .inl ?_
    rw [written, Library.Table.get?_put_of_ne _ fun same => ?_]
    · exact found
    · have fresh := inserted.fresh
      rw [same, found] at fresh
      cases fresh
  | @acted context attemptId action other result _ other_found moved written _ =>
    rw [written]
    by_cases same : (context.tenantId, attemptId) = key
    · subst same
      cases Option.some.inj (found.symm.trans other_found)
      refine .inr ⟨context, action, result, rfl, rfl, moved, rfl, ?_⟩
      rw [← moved.key.trans (Library.Table.key_of_get? found)]
      exact Library.Table.get?_put_self _ _
    · refine .inl ?_
      rw [Library.Table.get?_put_of_ne _ fun equal => same ?_]
      · exact found
      · rw [← Library.Table.key_of_get? other_found, ← moved.key, equal]

/-- An action that returned moved its row. -/
theorem act_returned (found : s.db.attempts.get? key = some row) {action : AttemptAction} {result : ExecutionAttempt}
    (tenant : context.tenantId = key.1) (ok : (step env (.act context key.2 action) s).1 = .ok (some result)) :
    Transition env context s row action result ∧
      (step env (.act context key.2 action) s).2.db.attempts.get? key = some result := by
  have stepped := step_stepped env (.act context key.2 action) s
  rw [ok] at stepped
  generalize (step env (.act context key.2 action) s).2 = t at stepped ⊢
  cases stepped with
  | idle silent =>
    obtain ⟨why, error⟩ := silent _ _ _ rfl
    cases error
  | acted other_found moved written =>
    rw [tenant] at other_found
    cases Option.some.inj (found.symm.trans other_found)
    refine ⟨moved, ?_⟩
    rw [written, ← moved.key.trans (Library.Table.key_of_get? found)]
    exact Library.Table.get?_put_self _ _

/-- A row that is there stays there. -/
theorem row_persists (found : s.db.attempts.get? key = some row) (call : AttemptCall) :
    ∃ after, (step env call s).2.db.attempts.get? key = some after := by
  rcases row_step found call with kept | ⟨_, _, after, _, _, _, _, written⟩
  · exact ⟨row, kept⟩
  · exact ⟨after, written⟩

end

end AiStore.Execution
