import AiStore.Execution.Outcome
import AiStore.Execution.SyntheticProvider

/-! Workers that drive attempts against the synthetic provider.

A driver stops between any two of its pieces: before it begins, before the
provider answers, before it records. A driver that is never resumed has died,
and one that is resumed late comes back with whatever lease it had.
-/

set_option autoImplicit false

namespace AiStore.Drivers

open Library Library.Txn Failure Service Execution SyntheticProvider

/-- `dispatch_demo` and `reconcile_attempt`. -/
inductive DriverKind where
  | dispatchDemo
  | reconcileAttempt
  deriving DecidableEq, Repr

inductive Phase where
  | called
  | checked
  | begun (value : ExecutionAttempt)
  | answered (value : ExecutionAttempt) (result : Mapping)
  | ended (outcome : Except Failure ExecutionAttempt)

structure Driver where
  kind : DriverKind
  context : TenantContext
  attemptId : Uuid
  workerId : String
  token : Int
  phase : Phase := .called

structure World where
  session : Session Store
  ledger : Session Ledger
  drivers : List Driver

def newWorld : World := ⟨newSession, ⟨Table.empty, 0, 0⟩, []⟩

/-! ## The pieces of a driver -/

section

variable (env : Env) (driver : Driver)

/-- `get_attempt` and `_provider`; the ledger is a file of its own. -/
def checkProvider : Op Unit := do
  let value ← readAttempt driver.context driver.attemptId
  ensure (value.adapterVersion = SyntheticProvider.adapterVersion)
    (conflictError "only durable synthetic DEMO provider allowed")

def beginAction : AttemptAction := match driver.kind with
  | .dispatchDemo => .beginDispatch driver.workerId driver.token
  | .reconcileAttempt => .beginReconciliation driver.workerId driver.token

/-- `_unknown`. -/
def unknown : Mapping :=
  [("kind", .text "INCONCLUSIVE"), ("response_digest", .text (env.digest (.dict [("result", .text "unknown")]))),
    ("provider_reference", .none)]

variable (mode : SyntheticMode) (authoritativeAbsence : Bool)

def ask (value : ExecutionAttempt) : ProviderOp Mapping := match driver.kind with
  | .dispatchDemo => execute env mode value.tenantId value.operationKey value.intentDigest
  | .reconcileAttempt => lookup env mode value.tenantId value.operationKey value.intentDigest authoritativeAbsence

/-- A timeout is an unknown outcome; any other error ends the driver. -/
def consult (value : ExecutionAttempt) : ProviderOp Mapping := do
  match ← caught (ask env driver mode authoritativeAbsence value) with
  | .ok result => pure result
  | .error why => if why.kind = .timeout then pure (unknown env) else raise why

def recordAction (result : Mapping) : AttemptAction := .recordObservation driver.workerId driver.token result

def phaseAfter {α : Type} (next : α → Phase) : Except Failure α → Phase
  | .ok value => next value
  | .error why => .ended (.error why)

/-- The next piece of a driver. -/
def advance (world : World) : Phase × World := match driver.phase with
  | .called =>
      let ran := (checkProvider driver).run world.session
      (phaseAfter (fun _ => .checked) ran.1, { world with session := ran.2 })
  | .checked =>
      let ran := (act env driver.context driver.attemptId (beginAction driver)).run world.session
      (phaseAfter .begun ran.1, { world with session := ran.2 })
  | .begun value =>
      let ran := (consult env driver mode authoritativeAbsence value).run world.ledger
      (phaseAfter (.answered value) ran.1, { world with ledger := ran.2 })
  | .answered _ result =>
      let ran := (act env driver.context driver.attemptId (recordAction driver result)).run world.session
      (phaseAfter (fun recorded => .ended (.ok recorded)) ran.1, { world with session := ran.2 })
  | .ended outcome => (.ended outcome, world)

end

/-- Everything but an observation that no driver made. -/
def Undriven : AttemptCall → Prop
  | .act _ _ (.recordObservation ..) => False
  | _ => True

inductive WorldCall where
  | serve (call : AttemptCall) (undriven : Undriven call)
  | start (kind : DriverKind) (context : TenantContext) (attemptId : Uuid) (workerId : String) (token : Int)
  | resume (index : Nat) (mode : SyntheticMode) (authoritativeAbsence : Bool)

def step (env : Env) : WorldCall → World → Unit × World
  | .serve call _, world => ((), { world with session := (Execution.step env call world.session).2 })
  | .start kind context attemptId workerId token, world =>
      ((), { world with drivers := world.drivers ++ [{
        kind := kind, context := context, attemptId := attemptId, workerId := workerId, token := token }] })
  | .resume index mode authoritativeAbsence, world => match world.drivers[index]? with
      | none => ((), world)
      | some driver =>
          let (phase, after) := advance env driver mode authoritativeAbsence world
          ((), { after with drivers := world.drivers.set index { driver with phase := phase } })

/-! ## What ties the attempts to the ledger -/

/-- The effect is of the attempt's operation and intent. -/
def Concerns (effect : SyntheticEffect) (attempt : ExecutionAttempt) : Prop :=
  effect.tenantId = attempt.tenantId ∧ effect.operationKey = attempt.operationKey ∧
    effect.intentDigest = attempt.intentDigest

def HasEffect (ledger : Ledger) (attempt : ExecutionAttempt) (kind : ObservationKind) : Prop :=
  ∃ effect, ledger.get? (attempt.tenantId, attempt.operationKey) = some effect ∧ effect.kind = kind

/-- A verified attempt has the effect it claims. -/
structure Backed (ledger : Ledger) (attempt : ExecutionAttempt) : Prop where
  success : attempt.state = .verifiedSuccess → HasEffect ledger attempt .foundSuccess
  failure : attempt.state = .verifiedFailure → HasEffect ledger attempt .foundFailure

/-- What a driver knows of the attempt it began, and of the answer it was given. -/
def Sound (world : World) (driver : Driver) : Phase → Prop
  | .begun value => ∃ attempt, world.session.db.attempts.get? (driver.context.tenantId, driver.attemptId) = some attempt ∧
      SameOperation attempt value
  | .answered value result =>
      (∃ attempt, world.session.db.attempts.get? (driver.context.tenantId, driver.attemptId) = some attempt ∧
        SameOperation attempt value) ∧
      ∀ kind, readKind (result.get? "kind") = .ok kind → kind = .foundSuccess ∨ kind = .foundFailure →
        HasEffect world.ledger.db value kind
  | .called | .checked | .ended _ => True

structure Consistent (world : World) : Prop where
  operations : ∀ first ∈ world.session.db.attempts.rows, ∀ second ∈ world.session.db.attempts.rows,
    first.tenantId = second.tenantId → first.operationKey = second.operationKey → first = second
  bound : ∀ effect ∈ world.ledger.db.rows, ∃ attempt ∈ world.session.db.attempts.rows, Concerns effect attempt
  verified : ∀ attempt ∈ world.session.db.attempts.rows, Backed world.ledger.db attempt
  driven : ∀ driver ∈ world.drivers, Sound world driver driver.phase

theorem consistent_newWorld : Consistent newWorld where
  operations _ member := absurd member List.not_mem_nil
  bound _ member := absurd member List.not_mem_nil
  verified _ member := absurd member List.not_mem_nil
  driven _ member := absurd member List.not_mem_nil

section

variable {env : Env} {world : World} {driver : Driver} {phase : Phase}

theorem HasEffect.durable {before after : Ledger} {attempt : ExecutionAttempt} {kind : ObservationKind}
    (there : HasEffect before attempt kind) (durable : Durable before after) : HasEffect after attempt kind := by
  obtain ⟨effect, found, same⟩ := there
  obtain ⟨later, later_found, kept⟩ := durable _ _ found
  exact ⟨later, later_found, kept.fields.2.2.symm.trans same⟩

theorem HasEffect.sameOperation {ledger : Ledger} {first second : ExecutionAttempt} {kind : ObservationKind}
    (there : HasEffect ledger first kind) (same : SameOperation first second) : HasEffect ledger second kind := by
  have tenant : first.tenantId = second.tenantId := congrArg Prod.fst same.1
  unfold HasEffect at there ⊢
  rw [← tenant, ← same.2.2.2.1]
  exact there

theorem SameOperation.trans {first second third : ExecutionAttempt} (left : SameOperation first second)
    (right : SameOperation second third) : SameOperation first third := by
  unfold SameOperation at left right ⊢
  grind

/-- No attempt is lost or turned into another operation. -/
def Carried (before after : Session Store) : Prop :=
  ∀ key row, before.db.attempts.get? key = some row →
    ∃ later, after.db.attempts.get? key = some later ∧ SameOperation row later

theorem carried_refl {before after : Session Store} (same : after.db = before.db) : Carried before after := by
  intro key row found
  rw [same]
  exact ⟨row, found, rfl, rfl, rfl, rfl, rfl, rfl, rfl, rfl⟩

theorem carried_step (call : AttemptCall) (s : Session Store) : Carried s (Execution.step env call s).2 := by
  intro key row found
  rcases @row_step env _ _ _ found call with kept | ⟨_, _, after, -, -, moved, -, written⟩
  · exact ⟨row, kept, rfl, rfl, rfl, rfl, rfl, rfl, rfl, rfl⟩
  · exact ⟨after, written, moved.sameOperation⟩

theorem Sound.carried {before after : World} (sound : Sound before driver phase)
    (carried : Carried before.session after.session) (durable : Durable before.ledger.db after.ledger.db) :
    Sound after driver phase := by
  have begun : ∀ value, (∃ attempt, before.session.db.attempts.get? (driver.context.tenantId, driver.attemptId) =
        some attempt ∧ SameOperation attempt value) →
      ∃ attempt, after.session.db.attempts.get? (driver.context.tenantId, driver.attemptId) = some attempt ∧
        SameOperation attempt value := by
    intro value there
    obtain ⟨attempt, found, same⟩ := there
    obtain ⟨later, later_found, kept⟩ := carried _ _ found
    refine ⟨later, later_found, ?_⟩
    unfold SameOperation at same kept ⊢
    grind
  cases phase with
  | begun value => exact begun value sound
  | answered value result =>
    refine ⟨begun value sound.1, fun kind read asked => ?_⟩
    exact (sound.2 kind read asked).durable durable
  | called => trivial
  | checked => trivial
  | ended => trivial

/-! ## One step -/

/-- A call that only verifies what the ledger backs keeps the two sides consistent. -/
theorem Consistent.stepped {call : AttemptCall} {outcome : AttemptResult} {t : Session Store}
    (consistent : Consistent world) (stepped : Stepped env world.session call outcome t)
    (carried : Carried world.session t)
    (backed : ∀ context attemptId action row result, call = .act context attemptId action →
      world.session.db.attempts.get? (context.tenantId, attemptId) = some row →
      Transition env context world.session row action result → Backed world.ledger.db result) :
    Consistent { world with session := t } := by
  refine ⟨?_, ?_, ?_, fun driver member => (consistent.driven driver member).carried carried (.refl _)⟩
  · cases stepped with
    | idle _ written =>
      rw [written]
      exact consistent.operations
    | @inserted _ _ _ _ _ _ _ row _ inserted written =>
      rw [written]
      refine Library.distinct_added_within row (fun other member => ?_) consistent.operations
      exact ((Table.mem_put _ _ _).mp member).imp_right fun held => ⟨held.1, inserted.operation_fresh other held.1⟩
    | @acted _ _ _ row result _ found moved written _ =>
      rw [written]
      have there := Table.mem_of_get? found
      have same := moved.sameOperation
      have tenant_same : row.tenantId = result.tenantId := congrArg Prod.fst same.1
      refine Library.distinct_added_within result (fun other member => ?_) consistent.operations
      refine ((Table.mem_put _ _ _).mp member).imp_right fun held => ⟨held.1, fun tenant operation => ?_⟩
      -- a row with the operation of this one is this one, as it was before
      have again := consistent.operations row there other held.1 (tenant_same.trans tenant.symm)
        (same.2.2.2.1.trans operation.symm)
      exact held.2 (again ▸ same.1)
  · intro effect member
    obtain ⟨attempt, there, tenant, operation, intent⟩ := consistent.bound effect member
    obtain ⟨later, later_found, same⟩ := carried _ _ (Table.get?_key _ there)
    refine ⟨later, Table.mem_of_get? later_found, ?_, ?_, ?_⟩
    · exact tenant.trans (congrArg Prod.fst same.1)
    · exact operation.trans same.2.2.2.1
    · exact intent.trans same.2.2.2.2.1
  · cases stepped with
    | idle _ written =>
      rw [written]
      exact consistent.verified
    | inserted inserted written =>
      rw [written]
      refine Table.forall_put consistent.verified ⟨?_, ?_⟩ <;> rw [inserted.state] <;> intro state <;> cases state
    | acted found moved written _ =>
      rw [written]
      exact Table.forall_put consistent.verified (backed _ _ _ _ _ rfl found moved)

/-- Outside of an observation no attempt becomes verified. -/
theorem Transition.unverified {s : Session Store} {context : TenantContext} {row result : ExecutionAttempt}
    {action : AttemptAction} (moved : Transition env context s row action result)
    (silent : ∀ workerId token observation, action ≠ .recordObservation workerId token observation) (ledger : Ledger) :
    Backed ledger result := by
  cases moved with
  | claim active =>
    -- a claim keeps the state, and the state of a claimable attempt is not terminal
    refine ⟨fun state => ?_, fun state => ?_⟩ <;> simp only [claimedBy] at state <;> split at state
    · cases state
    · exact absurd (.inl state) active
    · cases state
    · exact absurd (.inr (.inl state)) active
  | beginDispatch => constructor <;> intro state <;> cases state
  | beginReconciliation => constructor <;> intro state <;> cases state
  | recordObservation => exact absurd rfl (silent _ _ _)

theorem Consistent.unmoved (consistent : Consistent world) {t : Session Store} (same : t.db = world.session.db) :
    Consistent { world with session := t } where
  operations := same ▸ consistent.operations
  bound := same ▸ consistent.bound
  verified := same ▸ consistent.verified
  driven driver member := (consistent.driven driver member).carried (carried_refl same) (.refl _)

theorem checkProvider_db (driver : Driver) (s : Session Store) : ((checkProvider driver).run s).2.db = s.db := by
  have kept : Keeps (fun db : Store => db) (checkProvider driver) := by
    refine Keeps.bind ?_ fun _ => keeps_ensure _ _
    exact (keeps_require _).bind fun _ => (keeps_query _).bind fun _ => keeps_fetch _ _
  exact kept s

theorem act_session (context : TenantContext) (attemptId : Uuid) (action : AttemptAction) (s : Session Store) :
    (Execution.step env (.act context attemptId action) s).2 = ((act env context attemptId action).run s).2 := by
  simp only [Execution.step, perform, run_bind]
  rcases (act env context attemptId action).run s with ⟨why | result, after⟩ <;> rfl

/-- The action of a driver keeps the two sides consistent when what it verifies is backed. -/
theorem Consistent.acted (consistent : Consistent world) (context : TenantContext) (attemptId : Uuid)
    (action : AttemptAction) (backed : ∀ row result, world.session.db.attempts.get? (context.tenantId, attemptId) =
      some row → Transition env context world.session row action result → Backed world.ledger.db result) :
    Consistent { world with session := ((act env context attemptId action).run world.session).2 } := by
  have stepped := step_stepped env (.act context attemptId action) world.session
  have carried := @carried_step env (.act context attemptId action) world.session
  rw [act_session] at stepped carried
  refine consistent.stepped stepped carried fun other_context other_id other_action row result same found moved => ?_
  cases same
  exact backed row result found moved

/-- An answer that timed out reports nothing. -/
theorem consult_served {driver : Driver} {mode : SyntheticMode} {authoritativeAbsence : Bool} {value : ExecutionAttempt}
    {s t : Session Ledger} {outcome : Except Failure Mapping}
    (ran : (consult env driver mode authoritativeAbsence value).run s = (outcome, t)) :
    Served value.tenantId value.operationKey value.intentDigest s.db t.db outcome := by
  rcases asked : (ask env driver mode authoritativeAbsence value).run s with ⟨answer, middle⟩
  have served : Served value.tenantId value.operationKey value.intentDigest s.db middle.db answer := by
    unfold ask at asked
    split at asked
    · exact execute_served asked
    · exact lookup_served asked
  simp only [consult, run_bind, caught, asked] at ran
  cases answer with
  | ok result =>
    cases ran
    exact served
  | error why =>
    simp only at ran
    split at ran
    · cases ran
      refine ⟨served.durable, served.origin, fun result kind same read wanted => ?_⟩
      cases same
      have inconclusive : kind = .inconclusive := (Except.ok.inj read).symm
      rw [inconclusive] at wanted
      simp at wanted
    · cases ran
      exact served

/-- An answer about an operation that has an attempt keeps the two sides consistent. -/
theorem Consistent.served (consistent : Consistent world) {value attempt : ExecutionAttempt} {t : Session Ledger}
    {outcome : Except Failure Mapping} (there : attempt ∈ world.session.db.attempts.rows)
    (same : SameOperation attempt value)
    (served : Served value.tenantId value.operationKey value.intentDigest world.ledger.db t.db outcome) :
    Consistent { world with ledger := t } := by
  refine ⟨consistent.operations, ?_, ?_, ?_⟩
  · intro effect member
    rcases served.origin effect member with ⟨old, old_member, kept⟩ | ⟨named, intent⟩
    · obtain ⟨owner, owner_member, tenant, operation, digest⟩ := consistent.bound old old_member
      obtain ⟨key, intents, -⟩ := kept.fields
      refine ⟨owner, owner_member, ?_, ?_, ?_⟩
      · exact (congrArg Prod.fst key).symm.trans tenant
      · exact (congrArg Prod.snd key).symm.trans operation
      · exact intents.symm.trans digest
    · refine ⟨attempt, there, ?_, ?_, ?_⟩
      · exact (congrArg Prod.fst named).trans (congrArg Prod.fst same.1).symm
      · exact (congrArg Prod.snd named).trans same.2.2.2.1.symm
      · exact intent.trans same.2.2.2.2.1.symm
  · intro other member
    obtain ⟨success, failure⟩ := consistent.verified other member
    exact ⟨fun state => (success state).durable served.durable, fun state => (failure state).durable served.durable⟩
  · intro driver member
    exact (consistent.driven driver member).carried (carried_refl rfl) served.durable

/-- What a piece of a driver keeps, in the world it leaves. -/
structure Advanced (before after : World) (driver : Driver) (phase : Phase) : Prop where
  consistent : Consistent after
  sound : Sound after driver phase
  durable : Durable before.ledger.db after.ledger.db
  drivers : after.drivers = before.drivers

theorem sound_phaseAfter {α : Type} {next : α → Phase} {outcome : Except Failure α}
    (sound : ∀ value, outcome = .ok value → Sound world driver (next value)) :
    Sound world driver (phaseAfter next outcome) := by
  cases outcome with
  | error why => trivial
  | ok value => exact sound value rfl

theorem advance_advanced (consistent : Consistent world) (sound : Sound world driver driver.phase)
    (mode : SyntheticMode) (authoritativeAbsence : Bool) :
    Advanced world (advance env driver mode authoritativeAbsence world).2 driver
      (advance env driver mode authoritativeAbsence world).1 := by
  unfold advance
  split
  · -- reading the attempt moves nothing
    refine ⟨consistent.unmoved (checkProvider_db driver world.session), ?_, .refl _, rfl⟩
    exact sound_phaseAfter fun _ _ => trivial
  · refine ⟨consistent.acted _ _ _ fun row result found moved => ?_, ?_, .refl _, rfl⟩
    · refine Transition.unverified moved (fun workerId token observation same => ?_) _
      cases kind : driver.kind <;> rw [beginAction, kind] at same <;> cases same
    · refine sound_phaseAfter fun value ok => ?_
      obtain ⟨⟨row, found, moved⟩, written, -⟩ := act_ok (Prod.ext ok rfl)
      refine ⟨value, ?_, rfl, rfl, rfl, rfl, rfl, rfl, rfl, rfl⟩
      dsimp only
      rw [written, ← moved.key.trans (Table.key_of_get? found)]
      exact Table.get?_put_self _ _
  · next value phase =>
    rw [phase] at sound
    obtain ⟨attempt, found, same⟩ := sound
    have served := consult_served (Prod.ext rfl rfl :
      (consult env driver mode authoritativeAbsence value).run world.ledger = _)
    refine ⟨consistent.served (Table.mem_of_get? found) same served, ?_, served.durable, rfl⟩
    refine sound_phaseAfter fun result ok => ⟨⟨attempt, found, same⟩, fun kind read asked => ?_⟩
    exact served.reported result kind ok read asked
  · next value result phase =>
    rw [phase] at sound
    obtain ⟨⟨attempt, attempt_found, same⟩, reported⟩ := sound
    refine ⟨consistent.acted _ _ _ fun row after found moved => ?_, ?_, .refl _, rfl⟩
    · cases Option.some.inj (attempt_found.symm.trans found)
      cases moved with
      | @recordObservation _ _ _ kind state reference _ _ held flying read _ origin =>
        have there : kind = .foundSuccess ∨ kind = .foundFailure → HasEffect world.ledger.db attempt kind := by
          intro asked
          refine (reported kind read asked).sameOperation ?_
          obtain ⟨key, command, preparation, operation, intent, adapter, provider, connection⟩ := same
          exact ⟨key.symm, command.symm, preparation.symm, operation.symm, intent.symm, adapter.symm, provider.symm,
            connection.symm⟩
        refine ⟨fun verified => ?_, fun verified => ?_⟩ <;> simp only [observed] at verified <;> subst verified <;>
          cases origin
        · exact there (.inl rfl)
        · exact there (.inr rfl)
    · exact sound_phaseAfter fun _ _ => trivial
  · exact ⟨consistent, trivial, .refl _, rfl⟩

theorem step_kept (consistent : Consistent world) (call : WorldCall) :
    Consistent (step env call world).2 ∧ Durable world.ledger.db (step env call world).2.ledger.db := by
  cases call with
  | serve call undriven =>
    have stepped := step_stepped env call world.session
    refine ⟨consistent.stepped stepped (carried_step call world.session) ?_, .refl _⟩
    intro context attemptId action row result same found moved
    subst same
    refine Transition.unverified moved (fun workerId token observation recorded => ?_) _
    subst recorded
    exact undriven
  | start kind context attemptId workerId token =>
    refine ⟨⟨consistent.operations, consistent.bound, consistent.verified, fun driver member => ?_⟩, .refl _⟩
    rcases List.mem_append.mp member with old | new
    · exact consistent.driven driver old
    · cases List.mem_singleton.mp new
      trivial
  | resume index mode authoritativeAbsence =>
    simp only [step]
    split
    · exact ⟨consistent, .refl _⟩
    · next driver found =>
      have advanced := @advance_advanced env _ _ consistent
        (consistent.driven driver (List.mem_of_getElem? found)) mode authoritativeAbsence
      obtain ⟨after, sound, durable, drivers⟩ := advanced
      refine ⟨⟨after.operations, after.bound, after.verified, fun other member => ?_⟩, durable⟩
      rcases List.mem_or_eq_of_mem_set member with old | rfl
      · exact after.driven other (drivers ▸ old)
      · exact sound

theorem run_consistent (calls : List WorldCall) : Consistent (final (step env) newWorld calls) :=
  final_invariant Consistent consistent_newWorld fun call _ _ consistent => (step_kept consistent call).1

theorem run_durable (consistent : Consistent world) (calls : List WorldCall) :
    Durable world.ledger.db (final (step env) world calls).ledger.db := by
  induction calls generalizing world with
  | nil => exact .refl _
  | cons call rest ih =>
    obtain ⟨after, durable⟩ := @step_kept env _ consistent call
    exact durable.trans (ih after)

end

/-! ## At most one effect -/

/-- The call writes the effect of an operation that had none. -/
def Writes (env : Env) (world : World) (key : Uuid × String) (call : WorldCall) : Prop :=
  world.ledger.db.get? key = none ∧ (step env call world).2.ledger.db.get? key ≠ none

/-- In every run of workers, drivers and provider modes an operation has at most one effect,
written once, of the intent of its attempt, and a verified attempt has the effect it claims. -/
theorem effect_at_most_once (env : Env) (calls : List WorldCall) :
    let reached := final (step env) newWorld
    let world := reached calls
    (∀ before first between second after key, calls = before ++ first :: (between ++ second :: after) →
      Writes env (reached before) key first → ¬ Writes env (reached (before ++ first :: between)) key second) ∧
    (∀ before after, calls = before ++ after → Durable (reached before).ledger.db world.ledger.db) ∧
    (∀ first ∈ world.ledger.db.rows, ∀ second ∈ world.ledger.db.rows,
      first.tenantId = second.tenantId → first.operationKey = second.operationKey → first = second) ∧
    (∀ effect ∈ world.ledger.db.rows,
      (∃ attempt ∈ world.session.db.attempts.rows, Concerns effect attempt) ∧
      ∀ attempt ∈ world.session.db.attempts.rows, attempt.tenantId = effect.tenantId →
        attempt.operationKey = effect.operationKey → effect.intentDigest = attempt.intentDigest) ∧
    (∀ attempt ∈ world.session.db.attempts.rows,
      (attempt.state = .verifiedSuccess → HasEffect world.ledger.db attempt .foundSuccess) ∧
      (attempt.state = .verifiedFailure → HasEffect world.ledger.db attempt .foundFailure)) := by
  have consistent := @run_consistent env calls
  refine ⟨?_, ?_, ?_, ?_, ?_⟩
  · intro before first between second after key _ wrote again
    -- written once: the effect of the first call is durable, so the second call finds one
    rw [Writes, final_split] at again
    obtain ⟨effect, found⟩ := Option.ne_none_iff_exists'.mp wrote.2
    have start : Consistent (final (step env) newWorld (before ++ [first])) := run_consistent _
    rw [← final_concat] at found
    obtain ⟨later, later_found, -⟩ := @run_durable env _ start between _ _ found
    rw [again.1] at later_found
    cases later_found
  · rintro before after rfl
    rw [final_append]
    exact run_durable (run_consistent before) after
  · intro first first_member second second_member tenant operation
    exact Table.key_inj _ first_member second_member (congrArg₂ Prod.mk tenant operation)
  · intro effect member
    obtain ⟨attempt, there, concerns⟩ := consistent.bound effect member
    refine ⟨⟨attempt, there, concerns⟩, fun other other_there tenant operation => ?_⟩
    -- no other attempt is of the same operation
    have same := consistent.operations attempt there other other_there (concerns.1.symm.trans tenant.symm)
      (concerns.2.1.symm.trans operation.symm)
    exact same ▸ concerns.2.2
  · intro attempt there
    exact ⟨(consistent.verified attempt there).success, (consistent.verified attempt there).failure⟩

instance (env : Env) (world : World) (key : Uuid × String) (call : WorldCall) : Decidable (Writes env world key call) := by
  unfold Writes
  exact inferInstance

/-- The first worker stalls before it reaches the provider; the second finds no effect and dispatches again. -/
def recovery : List WorldCall :=
  [.serve seed trivial, .serve (.prepare demoMaster 2 1 1 "synthetic-v1" "synthetic" "demo") trivial,
   .serve (.act demoMaster 4 (.claim "first" 1 60)) trivial,
   .start .dispatchDemo demoMaster 4 "first" 1, .resume 0 .success false, .resume 0 .success false,
   .serve (.act demoMaster 4 (.claim "second" 3 300)) trivial,
   .start .reconcileAttempt demoMaster 4 "second" 2, .resume 1 .success true, .resume 1 .success true,
   .resume 1 .success true, .resume 1 .success true,
   .serve (.act demoMaster 4 (.claim "second" 6 300)) trivial,
   .start .dispatchDemo demoMaster 4 "second" 3, .resume 2 .success false, .resume 2 .success false]

def demoOperation : Uuid × String := (0, demoEnv.digest .none)

set_option maxRecDepth 8000 in
/-- The effect is written by the second worker, and the first one adds nothing when it comes back. -/
theorem effect_at_most_once_recovery :
    ¬ Writes demoEnv (final (step demoEnv) newWorld (recovery ++ .resume 2 .success false :: [.resume 2 .success false]))
      demoOperation (.resume 0 .success false) :=
  (effect_at_most_once demoEnv (recovery ++ .resume 2 .success false ::
    ([.resume 2 .success false] ++ .resume 0 .success false :: []))).1 recovery _ [.resume 2 .success false] _ []
    demoOperation rfl (by decide +kernel)

end AiStore.Drivers
