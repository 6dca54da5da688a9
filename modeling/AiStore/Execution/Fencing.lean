import Mathlib.Data.List.Induction
import AiStore.Library.Lease
import AiStore.Execution.Transitions

/-! Leases and fencing tokens of attempts.

The row of an attempt is a cell of the lease discipline: a claim grants, an
observation gives back, and the log of a run tells which grants are still out.
-/

set_option autoImplicit false

namespace AiStore.Execution

open Library Service

/-- The session on a new repository. -/
def newSession : Session Store := ⟨{}, 0, 0⟩

/-- The clock does not go back between two readings. -/
def ClockAdvances (env : Env) : Prop := ∀ earlier later, earlier ≤ later → env.clock earlier ≤ env.clock later

/-- The last time anybody read the clock. -/
def lastReading (env : Env) (s : Session Store) : Timestamp := env.clock (s.reads - 1)

abbrev AttemptLog := List (AttemptCall × AttemptResult)

variable {env : Env} {s : Session Store} {key : Uuid × Uuid}

/-- What an entry of the log did to the lease of the attempt. -/
def leaseEvent (key : Uuid × Uuid) : AttemptCall × AttemptResult → Option (LeaseEvent String Timestamp)
  | (.act context attemptId action, .ok (some row)) =>
      if (context.tenantId, attemptId) = key then
        match action with
        | .claim workerId _ _ => row.leaseUntil.map fun expiry => .granted ⟨workerId, row.fencingToken, expiry⟩
        | .recordObservation .. => some (.returned row.fencingToken)
        | .beginDispatch .. | .beginReconciliation .. => none
      else none
  | _ => none

/-- The newest event first. -/
def leaseHistory (key : Uuid × Uuid) (log : AttemptLog) : List (LeaseEvent String Timestamp) :=
  (log.filterMap (leaseEvent key)).reverse

theorem leaseHistory_concat (log : AttemptLog) (entry : AttemptCall × AttemptResult) :
    leaseHistory key (log ++ [entry]) = (leaseEvent key entry).toList ++ leaseHistory key log := by
  unfold leaseHistory
  rw [List.filterMap_append, List.reverse_append]
  cases same : leaseEvent key entry <;> simp [same]

def leaseCell : Option ExecutionAttempt → LeaseCell String Timestamp
  | none => ⟨none, 0⟩
  | some row =>
      { lease := match row.leaseOwner, row.leaseUntil with
          | some owner, some expiry => some ⟨owner, row.fencingToken, expiry⟩
          | _, _ => none
        token := row.fencingToken }

theorem leaseCell_free {row : ExecutionAttempt} {now : Timestamp} (free : ∀ expiry ∈ row.leaseUntil, ¬ now < expiry)
    (held : Grant String Timestamp) (recorded : (leaseCell (some row)).lease = some held) : ¬ now < held.expiry := by
  simp only [leaseCell] at recorded
  split at recorded
  · next expiry _ until_eq =>
    cases recorded
    exact free _ until_eq
  · cases recorded

/-! ## The lease of one attempt -/

section

variable {history : List (LeaseEvent String Timestamp)} {row result : ExecutionAttempt} {context : TenantContext}
  {action : AttemptAction} {last : Timestamp}

/-- An action on a row moves its cell as the discipline allows. -/
theorem transition_leased (leased : Leased history (leaseCell (some row)) last) (later : last ≤ env.clock s.reads)
    (moved : Transition env context s row action result) :
    Leased ((leaseEvent (context.tenantId, row.id) (.act context row.id action, .ok (some result))).toList ++ history)
      (leaseCell (some result)) (env.clock s.reads) := by
  cases moved with
  | @claim workerId leaseSeconds active free positive =>
    let grant : Grant String Timestamp := ⟨workerId, row.fencingToken + 1, (env.clock s.reads).addSeconds leaseSeconds⟩
    have raised : (leaseCell (some row)).token < grant.token := Nat.lt_succ_self _
    have granted := leased.grant later (leaseCell_free free) raised
    simpa [leaseEvent, leaseCell, claimedBy, grant] using granted
  | beginDispatch => simpa [leaseEvent, leaseCell, begun] using leased.idle later
  | beginReconciliation => simpa [leaseEvent, leaseCell, begun] using leased.idle later
  | recordObservation => simpa [leaseEvent, leaseCell, observed] using leased.giveBack later

end

/-- A call keeps the lease discipline of every attempt, whichever attempt it is about. -/
theorem step_leased (clock : ClockAdvances env) {history : List (LeaseEvent String Timestamp)}
    (leased : Leased history (leaseCell (s.db.attempts.get? key)) (lastReading env s)) (call : AttemptCall) :
    Leased ((leaseEvent key (call, (step env call s).1)).toList ++ history)
      (leaseCell ((step env call s).2.db.attempts.get? key)) (lastReading env (step env call s).2) := by
  have later : lastReading env s ≤ lastReading env (step env call s).2 :=
    clock _ _ (Nat.sub_le_sub_right ((perform env call).advances s).1 1)
  have stepped := step_stepped env call s
  generalize (step env call s).1 = outcome at stepped ⊢
  generalize (step env call s).2 = t at stepped later ⊢
  cases stepped with
  | idle silent written =>
    have quiet : leaseEvent key (call, outcome) = none := by
      cases call with
      | act context attemptId action =>
        obtain ⟨why, rfl⟩ := silent context attemptId action rfl
        rfl
      | prepare => rfl
      | elsewhere => rfl
    rw [quiet, written]
    exact leased.idle later
  | @inserted _ _ _ _ _ _ _ row _ inserted written =>
    rw [written]
    by_cases same : row.key = key
    · -- a new attempt starts as the cell nobody has used
      subst same
      rw [inserted.fresh] at leased
      rw [Library.Table.get?_put_self]
      simpa [leaseEvent, leaseCell, inserted.owner, inserted.token] using leased.idle later
    · rw [Library.Table.get?_put_of_ne _ same]
      exact leased.idle later
  | @acted context attemptId action row result _ found moved written reads =>
    have named := Library.Table.key_of_get? found
    have resulting := moved.key.trans named
    rw [written]
    by_cases same : (context.tenantId, attemptId) = key
    · subst same
      have id_eq : row.id = attemptId := congrArg Prod.snd named
      subst id_eq
      rw [found] at leased
      have recorded := Library.Table.get?_put_self s.db.attempts result
      rw [resulting] at recorded
      rw [recorded]
      have moved_on := transition_leased leased (clock _ _ (Nat.sub_le _ _)) moved
      exact moved_on.idle (clock _ _ (Nat.le_sub_one_of_lt reads))
    · have apart : result.key ≠ key := fun equal => same (resulting.symm.trans equal)
      rw [Library.Table.get?_put_of_ne _ apart]
      have quiet : leaseEvent key (.act context attemptId action, .ok (some result)) = none := if_neg same
      rw [quiet]
      exact leased.idle later

theorem run_leased (clock : ClockAdvances env) (key : Uuid × Uuid) (calls : List AttemptCall) :
    Leased (leaseHistory key (trace (step env) newSession calls))
      (leaseCell ((final (step env) newSession calls).db.attempts.get? key))
      (lastReading env (final (step env) newSession calls)) := by
  induction calls using List.reverseRecOn with
  | nil => exact .start
  | append_singleton calls call ih =>
    rw [trace_concat, leaseHistory_concat, final_concat]
    exact step_leased clock ih call

/-! ## Fencing -/

/-- The worker and token an operation on a claimed attempt presents. -/
def AttemptAction.presented : AttemptAction → Option (String × Int)
  | .claim .. => none
  | .beginDispatch workerId token | .beginReconciliation workerId token | .recordObservation workerId token _ =>
      some (workerId, token)

/-- Not the recorded worker, not the recorded token, or after the recorded time. -/
def Stale (row : ExecutionAttempt) (workerId : String) (token : Int) (now : Timestamp) : Prop :=
  row.leaseOwner ≠ some workerId ∨ (row.fencingToken : Int) ≠ token ∨ ∀ expiry ∈ row.leaseUntil, expiry ≤ now

theorem Stale.not_held {row : ExecutionAttempt} {workerId : String} {token : Int} {now : Timestamp}
    (stale : Stale row workerId token now) : ¬ HoldsLease row workerId token now := by
  rintro ⟨owner, same, expiry, recorded, live⟩
  rcases stale with other | other | expired
  · exact other owner
  · exact other same
  · exact (Timestamp.not_lt _ _).mpr (expired expiry recorded) live

theorem Transition.held {context : TenantContext} {row result : ExecutionAttempt} {action : AttemptAction}
    {workerId : String} {token : Int} (moved : Transition env context s row action result)
    (presented : action.presented = some (workerId, token)) : HoldsLease row workerId token (env.clock s.reads) := by
  cases moved <;> cases presented <;> assumption

theorem Transition.version {context : TenantContext} {row result : ExecutionAttempt} {action : AttemptAction}
    (moved : Transition env context s row action result) : result.version = row.version + 1 := by
  cases moved <;> rfl

/-- What a call does to the row of an attempt, as far as versions, tokens and leases go. -/
structure CallFenced (env : Env) (s : Session Store) (key : Uuid × Uuid) (row : ExecutionAttempt)
    (call : AttemptCall) : Prop where
  version : ∃ after, (step env call s).2.db.attempts.get? key = some after ∧
    (after = row ∨ after.version = row.version + 1)
  returned : ∀ context action result, call = .act context key.2 action → context.tenantId = key.1 →
    (step env call s).1 = .ok (some result) → result.version = row.version + 1 ∧
      (step env call s).2.db.attempts.get? key = some result
  claimed : ∀ context workerId expectedVersion leaseSeconds result,
    call = .act context key.2 (.claim workerId expectedVersion leaseSeconds) → context.tenantId = key.1 →
    (step env call s).1 = .ok (some result) → row.fencingToken < result.fencingToken
  stale : ∀ context action workerId token, call = .act context key.2 action → context.tenantId = key.1 →
    action.presented = some (workerId, token) → Stale row workerId token (env.clock s.reads) →
    (∃ why, (step env call s).1 = .error why) ∧ (step env call s).2.db.attempts.get? key = some row

theorem callFenced {row : ExecutionAttempt} (found : s.db.attempts.get? key = some row) (call : AttemptCall) :
    CallFenced env s key row call := by
  refine ⟨?_, ?_, ?_, ?_⟩
  · rcases row_step found call with kept | ⟨_, _, after, _, _, moved, _, written⟩
    · exact ⟨row, kept, .inl rfl⟩
    · exact ⟨after, written, .inr moved.version⟩
  · intro context action result same tenant ok
    obtain ⟨moved, written⟩ := act_returned found tenant (same ▸ ok)
    exact ⟨moved.version, same ▸ written⟩
  · intro context workerId expectedVersion leaseSeconds result same tenant ok
    obtain ⟨moved, -⟩ := act_returned found tenant (same ▸ ok)
    cases moved
    exact Nat.lt_succ_self _
  · intro context action workerId token same tenant presented stale
    subst same
    have stepped := step_stepped env (.act context key.2 action) s
    generalize (step env (.act context key.2 action) s).1 = outcome at stepped ⊢
    generalize (step env (.act context key.2 action) s).2 = t at stepped ⊢
    cases stepped with
    | idle silent written =>
      refine ⟨silent _ _ _ rfl, ?_⟩
      rw [written]
      exact found
    | acted other_found moved =>
      rw [tenant] at other_found
      cases Option.some.inj (found.symm.trans other_found)
      exact absurd (moved.held presented) stale.not_held

/-! ## The compare-and-set of both repositories -/

/-- `UPDATE … WHERE tenant_id=? AND id=? AND version=?`: only the columns an attempt moves by are written. -/
def sqliteUpdateAttempt (value : ExecutionAttempt) (expectedVersion : Nat) : Op Unit := do
  Txn.ensure (value.version = expectedVersion + 1) (Failure.conflictError "attempt version conflict")
  let current ← Txn.fetch (Failure.conflictError "attempt version conflict")
    (← Txn.query fun store => store.attempts.get? value.key)
  Txn.ensure (current.version = expectedVersion) (Failure.conflictError "attempt version conflict")
  Txn.write fun store => { store with attempts := store.attempts.put { current with
    state := value.state
    version := value.version
    leaseOwner := value.leaseOwner
    leaseUntil := value.leaseUntil
    fencingToken := value.fencingToken
    providerReference := value.providerReference
    lastObservedAt := value.lastObservedAt
    nextCheckAt := value.nextCheckAt } }

/-- The columns that no operation on an attempt changes. -/
def SameOperation (first second : ExecutionAttempt) : Prop :=
  first.key = second.key ∧ first.commandId = second.commandId ∧ first.preparationId = second.preparationId ∧
    first.operationKey = second.operationKey ∧ first.intentDigest = second.intentDigest ∧
    first.adapterVersion = second.adapterVersion ∧ first.provider = second.provider ∧
    first.connectionId = second.connectionId

theorem Transition.sameOperation {context : TenantContext} {row result : ExecutionAttempt} {action : AttemptAction}
    (moved : Transition env context s row action result) : SameOperation row result := by
  cases moved <;> exact ⟨rfl, rfl, rfl, rfl, rfl, rfl, rfl, rfl⟩

/-- On a row read from the table, the two repositories write, or refuse, the same. -/
theorem sqliteUpdateAttempt_agrees {current value : ExecutionAttempt}
    (found : s.db.attempts.get? value.key = some current) (same : SameOperation current value) (expectedVersion : Nat) :
    (sqliteUpdateAttempt value expectedVersion).run s = (Repository.updateAttempt value expectedVersion).run s := by
  have key : s.db.attempts.get? (value.tenantId, value.id) = some current := found
  have written : ({ current with
      state := value.state
      version := value.version
      leaseOwner := value.leaseOwner
      leaseUntil := value.leaseUntil
      fencingToken := value.fencingToken
      providerReference := value.providerReference
      lastObservedAt := value.lastObservedAt
      nextCheckAt := value.nextCheckAt } : ExecutionAttempt) = value := by
    obtain ⟨names, command, preparation, operation, intent, adapter, provider, connection⟩ := same
    simp only [ExecutionAttempt.key, Prod.mk.injEq] at names
    cases current
    cases value
    simp_all
  by_cases next : value.version = expectedVersion + 1 <;> by_cases expected : current.version = expectedVersion <;>
    simp [sqliteUpdateAttempt, Repository.updateAttempt, Repository.getAttempt, Txn.run_bind, Txn.query, Txn.fetch,
      Txn.ensure, Txn.raise, Txn.write, Txn.pure, found, key, next, expected]
  rw [next] at written
  rw [written]

/-- Attempts are leased to one worker at a time, fenced by their tokens, in every run
from a new repository whose clock does not go back. -/
theorem attempt_lease_fencing (env : Env) (clock : ClockAdvances env) (calls : List AttemptCall) (key : Uuid × Uuid) :
    let reached := final (step env) newSession
    let history := leaseHistory key (trace (step env) newSession calls)
    (∀ before call after row, calls = before ++ call :: after → (reached before).db.attempts.get? key = some row →
      CallFenced env (reached before) key row call) ∧
    (∀ now, lastReading env (reached calls) ≤ now →
      ∀ first ∈ outstanding history, ∀ second ∈ outstanding history,
        now < first.expiry → now < second.expiry → first = second) ∧
    (∀ value current expectedVersion, (reached calls).db.attempts.get? value.key = some current →
      SameOperation current value →
      (sqliteUpdateAttempt value expectedVersion).run (reached calls) =
        (Repository.updateAttempt value expectedVersion).run (reached calls)) := by
  refine ⟨fun before call after row _ found => callFenced found call, ?_, ?_⟩
  · intro now later first first_member second second_member first_live second_live
    exact (run_leased clock key calls).live_unique later first_member first_live second_member second_live
  · intro value current expectedVersion found same
    exact sqliteUpdateAttempt_agrees found same expectedVersion

/-! ## A takeover -/

def demoEnv : Env where
  clock reading := .utc (40 * reading)
  digest _ := String.ofList (List.replicate 64 '0')
  lower := id

def demoMaster : TenantContext := ⟨0, 1, 1⟩

/-- An approved refund and an adapter that may carry it out. -/
def demoStore : Store where
  memberships := Table.empty.put { tenantId := 0, userId := 1, roles := [.master] }
  commands := Table.empty.put {
    id := 2, tenantId := 0, kind := .refund, targetRef := .text "order", payload := [], payloadDigest := "",
    idempotencyKey := .text "refund", state := .approved, createdAt := .utc 0 }
  approvals := Table.empty.put {
    id := 3, tenantId := 0, commandId := 2, kind := .refund, state := .approved, requestedAt := .utc 0,
    expiresAt := .utc 86400, decidedBy := some 1 }
  approvalIntents := Table.empty.put {
    tenantId := 0, commandId := 2, canonicalDigest := demoEnv.digest .none, policyVersion := 1, targetVersion := 1,
    createdAt := .utc 0 }
  manifests := Table.empty.put {
    tenantId := 0, provider := "synthetic", connectionId := "demo", adapterVersion := "synthetic-v1",
    capabilities := [.demoExecute, .demoLookup], inboundSchemaVersions := [], updatedAt := .utc 0 }
  demoControls := Table.empty.put {
    tenantId := 0, commandId := 2, policyVersion := 1, targetVersion := 1, stopped := false }

/-- The store as it is before any attempt. -/
def seed : AttemptCall :=
  .elsewhere (Txn.write fun store => { demoStore with attempts := store.attempts, observations := store.observations })
    (Txn.keeps_write fun _ => rfl)

/-- The first worker's lease runs out and a second worker claims the attempt. -/
def takeover : List AttemptCall :=
  [seed, .prepare demoMaster 2 1 1 "synthetic-v1" "synthetic" "demo",
   .act demoMaster 4 (.claim "first" 1 1), .act demoMaster 4 (.claim "second" 2 300)]

theorem demoEnv_advances : ClockAdvances demoEnv := by
  intro earlier later order
  rw [Timestamp.le_iff]
  simp only [demoEnv, Timestamp.utc]
  omega

theorem attempt_lease_fencing_takeover :
    (∃ why, (step demoEnv (.act demoMaster 4 (.beginDispatch "first" 1))
      (final (step demoEnv) newSession takeover)).1 = .error why) ∧
    outstanding (leaseHistory (0, 4) (trace (step demoEnv) newSession takeover)) =
      [⟨"second", 2, .utc 540⟩, ⟨"first", 1, .utc 201⟩] := by
  obtain ⟨row, found⟩ := Option.isSome_iff_exists.mp (show ((final (step demoEnv) newSession
    takeover).db.attempts.get? (0, 4)).isSome = true by decide)
  have fenced := (attempt_lease_fencing demoEnv demoEnv_advances
    (takeover ++ [.act demoMaster 4 (.beginDispatch "first" 1)]) (0, 4)).1 takeover _ [] row rfl found
  refine ⟨(fenced.stale demoMaster (.beginDispatch "first" 1) "first" 1 rfl rfl rfl (.inr (.inl ?_))).1, by decide⟩
  have token : ((final (step demoEnv) newSession takeover).db.attempts.get? (0, 4)).map (·.fencingToken) = some 2 := by
    decide
  rw [found] at token
  simp only [Option.map_some, Option.some.injEq] at token
  rw [token]
  decide

end AiStore.Execution
