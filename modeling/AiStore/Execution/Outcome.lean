import AiStore.Execution.Fencing

/-! An outcome nobody knows is looked up, not tried again.

Only an authoritative absence takes an attempt back to where it may be
dispatched, and a verified or abandoned attempt never moves.
-/

set_option autoImplicit false

namespace AiStore.Execution

open Library Library.Txn Service

variable {env : Env} {s : Session Store} {key : Uuid × Uuid} {context : TenantContext} {row result : ExecutionAttempt}
  {action : AttemptAction}

def InState (s : Session Store) (key : Uuid × Uuid) (state : AttemptState) : Prop :=
  ∃ row ∈ s.db.attempts.get? key, row.state = state

instance (s : Session Store) (key : Uuid × Uuid) (state : AttemptState) : Decidable (InState s key state) := by
  unfold InState
  exact inferInstance

/-- The call takes the attempt into `DISPATCHING`. -/
def EntersDispatching (env : Env) (s : Session Store) (key : Uuid × Uuid) (call : AttemptCall) : Prop :=
  ¬ InState s key .dispatching ∧ InState (step env call s).2 key .dispatching

instance (env : Env) (s : Session Store) (key : Uuid × Uuid) (call : AttemptCall) :
    Decidable (EntersDispatching env s key call) := by
  unfold EntersDispatching
  exact inferInstance

/-- The observation of an authoritative absence, made while the attempt was looked up and
accepted by the gate at that moment. -/
structure ReleasedBy (env : Env) (s : Session Store) (key : Uuid × Uuid) (call : AttemptCall) : Prop where
  released : ∃ context workerId token observation row,
    call = .act context key.2 (.recordObservation workerId token observation) ∧ context.tenantId = key.1 ∧
    s.db.attempts.get? key = some row ∧ row.state = .reconciling ∧
    observation.get? "kind" = some (.text "ABSENT") ∧
    observation.get? "authoritative_absence" = some (.bool true) ∧
    ∃ preparation after, (gate env context row.commandId row.connectionId).run { s with reads := s.reads + 1 } =
      (.ok preparation, after)

theorem readKind_absent {found : Option Value} (read : readKind found = .ok .absent) : found = some (.text "ABSENT") := by
  unfold readKind at read
  split at read
  · next kind =>
    by_cases absent : kind = "ABSENT"
    · rw [absent]
    · split at read
      · cases read
      · split at read
        · cases read
        · split at read <;> cases read
  · cases read
  · cases read
  · cases read

/-- Only a dispatch leads into `DISPATCHING`, and it starts from `PREPARED`. -/
theorem Transition.dispatched (moved : Transition env context s row action result)
    (state : result.state = .dispatching) : row.state = .prepared := by
  cases moved with
  | claim active =>
    simp only [claimedBy] at state
    split at state
    · cases state
    · next grounded => exact absurd (.inl state) grounded
  | beginDispatch held prepared => exact prepared
  | beginReconciliation => cases state
  | recordObservation held flying read lookup origin =>
    simp only [observed] at state
    subst state
    cases origin

theorem Transition.terminal (moved : Transition env context s row action result) : ¬ row.state.Terminal := by
  cases moved with
  | claim active => exact active
  | beginDispatch held prepared =>
    rw [prepared]
    decide
  | beginReconciliation held unknown =>
    rw [unknown]
    decide
  | recordObservation held flying =>
    rcases flying with state | state <;> rw [state] <;> decide

/-- A row that was not `PREPARED` becomes so only by an authoritative absence. -/
theorem enters_prepared (found : s.db.attempts.get? key = some row) (before : row.state ≠ .prepared)
    {call : AttemptCall} (after : InState (step env call s).2 key .prepared) : ReleasedBy env s key call := by
  obtain ⟨later, later_found, prepared⟩ := after
  rcases @row_step env _ _ _ found call with kept | ⟨context, action, result, rfl, tenant, moved, -, written⟩
  · cases Option.some.inj (kept.symm.trans later_found)
    exact absurd prepared before
  · cases Option.some.inj (written.symm.trans later_found)
    cases moved with
    | claim =>
      simp only [claimedBy] at prepared
      split at prepared
      · cases prepared
      · exact absurd prepared before
    | beginDispatch => cases prepared
    | beginReconciliation => cases prepared
    | @recordObservation workerId token observation kind state _ _ _ held flying read lookup origin =>
      simp only [observed] at prepared
      subst prepared
      cases origin with
      | released authoritative passed =>
        exact ⟨context, workerId, token, observation, row, rfl, tenant, found, lookup rfl, readKind_absent read,
          authoritative, _, _, passed⟩

theorem run_persists (found : s.db.attempts.get? key = some row) (calls : List AttemptCall) :
    ∃ after, (final (step env) s calls).db.attempts.get? key = some after := by
  refine final_invariant (fun t : Session Store => ∃ after, t.db.attempts.get? key = some after) ⟨row, found⟩ ?_
  intro call _ t there
  obtain ⟨row, found⟩ := there
  exact row_persists found call

/-- Between two dispatches of one attempt lies an authoritative absence. -/
theorem redispatch_released {between : List AttemptCall} {second : AttemptCall}
    (start : InState s key .dispatching) (again : EntersDispatching env (final (step env) s between) key second) :
    ∃ early call late, between = early ++ call :: late ∧ ReleasedBy env (final (step env) s early) key call := by
  obtain ⟨row, found, dispatching⟩ := start
  have off : ¬ InState s key .prepared := by
    rintro ⟨other, other_found, prepared⟩
    cases Option.some.inj (found.symm.trans other_found)
    rw [dispatching] at prepared
    cases prepared
  have on : InState (final (step env) s between) key .prepared := by
    obtain ⟨last, last_found⟩ := @run_persists env _ _ _ found between
    obtain ⟨outside, after, after_found, entered⟩ := again
    rcases @row_step env _ _ _ last_found second with kept | ⟨_, _, _, -, -, moved, -, written⟩
    · cases Option.some.inj (kept.symm.trans after_found)
      exact absurd ⟨_, last_found, entered⟩ outside
    · cases Option.some.inj (written.symm.trans after_found)
      exact ⟨last, last_found, moved.dispatched entered⟩
  obtain ⟨early, call, late, rfl, not_yet, now⟩ := exists_crossing (fun t : Session Store => InState t key .prepared) off on
  obtain ⟨row, found⟩ := @run_persists env _ _ _ found early
  exact ⟨early, call, late, rfl, enters_prepared found (fun prepared => not_yet ⟨row, found, prepared⟩) now⟩

def report (kind : String) (authoritative : Bool) : Mapping :=
  [("kind", .text kind), ("response_digest", .text (String.ofList (List.replicate 64 '0'))),
    ("provider_reference", .none), ("authoritative_absence", .bool authoritative)]

def toDispatch : List AttemptCall :=
  [seed, .prepare demoMaster 2 1 1 "synthetic-v1" "synthetic" "demo", .act demoMaster 4 (.claim "worker" 1 300)]

/-- The first dispatch is lost, and the lookup finds that it had no effect. -/
def absence : List AttemptCall :=
  [.act demoMaster 4 (.recordObservation "worker" 1 (report "INCONCLUSIVE" false)),
   .act demoMaster 4 (.claim "worker" 4 300), .act demoMaster 4 (.beginReconciliation "worker" 2),
   .act demoMaster 4 (.recordObservation "worker" 2 (report "ABSENT" true)),
   .act demoMaster 4 (.claim "worker" 7 300)]

end AiStore.Execution
