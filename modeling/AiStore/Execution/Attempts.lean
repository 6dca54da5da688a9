import AiStore.Service.Approvals

/-! Execution attempts: the controls that gate them, and the five operations that
move an attempt between a worker and the provider. -/

set_option autoImplicit false

namespace AiStore.Execution

open Library.Txn Failure Repository Service

variable (env : Env)

/-! ## Controls -/

def registerAdapterManifest (context : TenantContext) (manifest : AdapterCapabilityManifest) : Op Unit := transaction do
  require context .tenantAdmin
  ensure (manifest.tenantId = context.tenantId) (authorizationError "manifest tenant mismatch")
  inboundIdentifier manifest.provider
  inboundIdentifier manifest.connectionId
  inboundIdentifier manifest.adapterVersion
  ensure (∀ version ∈ manifest.inboundSchemaVersions, 1 ≤ version)
    (conflictError "invalid manifest capabilities/schema versions")
  saveAdapterManifest manifest
  audit env context.tenantId (.uuid context.userId) "adapter.manifest_registered" (.text manifest.connectionId)
    "succeeded" [("adapter_version", .text manifest.adapterVersion)]

def setDemoStop (context : TenantContext) (scopeType scopeRef : String) (stopped : Bool) (reason : String) :
    Op DemoStopControl := do
  require context .tenantAdmin
  ensure (scopeType ∈ ["global", "tenant", "connection"] ∧ scopeRef ≠ "" ∧ ¬ blank reason)
    (conflictError "invalid DEMO stop control")
  ensure (scopeType = "global" → scopeRef = "global") (conflictError "global scope ref must be global")
  transaction do
    let prior ← findStopControl context.tenantId scopeType scopeRef
    let now ← now env
    let value : DemoStopControl := {
      tenantId := context.tenantId
      scopeType := scopeType
      scopeRef := scopeRef
      stopped := stopped
      reason := strip reason
      version := prior.elim 1 (·.version + 1)
      updatedAt := now }
    saveStopControl value
    audit env context.tenantId (.uuid context.userId) "stop.control_changed" (.text (scopeType ++ ":" ++ scopeRef))
      "succeeded" [("stopped", .bool stopped)]
    pure value

def setDemoControl (context : TenantContext) (commandId : Uuid) (policyVersion targetVersion : Int)
    (stopped : Bool) : Op Unit := transaction do
  require context .tenantAdmin
  let _ ← getCommand context.tenantId commandId
  ensure (1 ≤ policyVersion ∧ 1 ≤ targetVersion) (conflictError "invalid demo control")
  saveDemoControl {
    tenantId := context.tenantId
    commandId := commandId
    policyVersion := policyVersion
    targetVersion := targetVersion
    stopped := stopped }
  auditBy env context "demo.control_updated" commandId "accepted" [("stopped", .bool stopped)]

/-- `_gate`. -/
def gate (context : TenantContext) (commandId : Uuid) (connectionId : String) : Op ExecutionPreparation := do
  ensure ((← demoStopActive context.tenantId (some connectionId)) = false) (conflictError "DEMO scope stopped")
  let control ← getDemoControl context.tenantId commandId
  ensure (control.stopped = false) (conflictError "demo execution stopped")
  let (preparation, _) ← prepareExecution env context commandId control.policyVersion control.targetVersion
  pure preparation

/-- `_manifest`. -/
def checkManifest (context : TenantContext) (provider connectionId adapterVersion : String) : Op Unit := do
  let manifest ← getAdapterManifest context.tenantId provider connectionId
  ensure (manifest.adapterVersion = adapterVersion ∧
      .demoExecute ∈ manifest.capabilities ∧ .demoLookup ∈ manifest.capabilities)
    (conflictError "explicit matching DEMO execution/lookup manifest required")

/-! ## Attempts -/

/-- `_event`. -/
def attemptEvent (context : TenantContext) (value : ExecutionAttempt) (topic : String) : Op Unit := do
  auditBy env context topic value.id "accepted" [("state", .text value.state.value)]
  let now ← now env
  publish context.tenantId topic value.id [("attempt_id", .uuid value.id), ("state", .text value.state.value)]
    (.attempt topic value.id value.version) now

def operationMaterial (tenant command : Uuid) : Value :=
  .dict [("tenant", .uuid tenant), ("command", .uuid command), ("operation_version", .int 1)]

def prepareAttempt (context : TenantContext) (commandId : Uuid) (policyVersion targetVersion : Int)
    (adapterVersion provider connectionId : String) : Op (ExecutionAttempt × Bool) := transaction do
  require context .tenantAdmin
  inboundIdentifier provider
  inboundIdentifier connectionId
  inboundIdentifier adapterVersion
  checkManifest context provider connectionId adapterVersion
  let preparation ← gate env context commandId connectionId
  let _ ← prepareExecution env context commandId policyVersion targetVersion
  let key ← strictIntentDigest env (operationMaterial context.tenantId commandId)
  match ← attemptForKey context.tenantId key with
  | some prior =>
    ensure ((prior.adapterVersion, prior.provider, prior.connectionId) = (adapterVersion, provider, connectionId))
      (conflictError "logical operation already bound to another adapter")
    pure (prior, true)
  | none =>
    let id ← freshUuid
    let value : ExecutionAttempt := {
      id := id
      tenantId := context.tenantId
      commandId := commandId
      preparationId := preparation.id
      operationKey := key
      intentDigest := preparation.canonicalDigest
      adapterVersion := adapterVersion
      provider := provider
      connectionId := connectionId }
    insertAttempt value
    attemptEvent env context value "attempt.prepared"
    pure (value, false)

/-- `get_attempt` of the service. -/
def readAttempt (context : TenantContext) (attemptId : Uuid) : Op ExecutionAttempt := do
  require context .tenantAdmin
  getAttempt context.tenantId attemptId

/-- The row behind a claim; an attempt found in flight is of unknown outcome. -/
def claimedBy (value : ExecutionAttempt) (workerId : String) (leaseUntil : Timestamp) : ExecutionAttempt :=
  { value with
    state := if value.state.InFlight then .unknown else value.state
    version := value.version + 1
    fencingToken := value.fencingToken + 1
    leaseOwner := some workerId
    leaseUntil := some leaseUntil }

/-- The event of a claim that found the attempt in flight. -/
def recoveryEvent (context : TenantContext) (value claimed : ExecutionAttempt) : Op Unit :=
  if value.state.InFlight then attemptEvent env context claimed "attempt.recovered_unknown" else pure ()

def claimAttempt (context : TenantContext) (attemptId : Uuid) (workerId : String) (expectedVersion leaseSeconds : Int) :
    Op ExecutionAttempt := transaction do
  require context .tenantAdmin
  inboundIdentifier workerId
  ensure (1 ≤ leaseSeconds ∧ leaseSeconds ≤ 300) (conflictError "invalid lease/version")
  let value ← getAttempt context.tenantId attemptId
  let now ← now env
  ensure (value.version = expectedVersion) (conflictError "attempt version conflict")
  ensure (¬ value.state.Terminal) (conflictError "attempt terminal")
  ensure (∀ expiry ∈ value.leaseUntil, ¬ now < expiry) (conflictError "attempt leased")
  ensure (∀ due ∈ value.nextCheckAt, ¬ now < due) (conflictError "reconciliation not yet due")
  let claimed := claimedBy value workerId (now.addSeconds leaseSeconds)
  updateAttempt claimed value.version
  recoveryEvent env context value claimed
  pure claimed

/-- The lease test of every operation on a claimed attempt. -/
def HoldsLease (value : ExecutionAttempt) (workerId : String) (token : Int) (now : Timestamp) : Prop :=
  value.leaseOwner = some workerId ∧ value.fencingToken = token ∧ ∃ expiry ∈ value.leaseUntil, now < expiry

instance (value : ExecutionAttempt) (workerId : String) (token : Int) (now : Timestamp) :
    Decidable (HoldsLease value workerId token now) := by
  unfold HoldsLease
  exact inferInstance

/-- `_leased`. -/
def leased (context : TenantContext) (attemptId : Uuid) (workerId : String) (token : Int) : Op ExecutionAttempt := do
  require context .tenantAdmin
  let value ← getAttempt context.tenantId attemptId
  let now ← now env
  ensure (HoldsLease value workerId token now) (conflictError "stale or expired attempt lease")
  pure value

def begun (value : ExecutionAttempt) (state : AttemptState) : ExecutionAttempt :=
  { value with version := value.version + 1, state := state }

def beginDispatch (context : TenantContext) (attemptId : Uuid) (workerId : String) (token : Int) :
    Op ExecutionAttempt := transaction do
  let value ← leased env context attemptId workerId token
  ensure (value.state = .prepared) (conflictError "dispatch requires prepared state")
  let preparation ← gate env context value.commandId value.connectionId
  ensure (preparation.canonicalDigest = value.intentDigest) (conflictError "attempt intent mismatch")
  checkManifest context value.provider value.connectionId value.adapterVersion
  updateAttempt (begun value .dispatching) value.version
  attemptEvent env context (begun value .dispatching) "attempt.dispatching"
  pure (begun value .dispatching)

def beginReconciliation (context : TenantContext) (attemptId : Uuid) (workerId : String) (token : Int) :
    Op ExecutionAttempt := transaction do
  let value ← leased env context attemptId workerId token
  ensure (value.state = .unknown) (conflictError "reconciliation requires UNKNOWN")
  updateAttempt (begun value .reconciling) value.version
  attemptEvent env context (begun value .reconciling) "attempt.reconciling"
  pure (begun value .reconciling)

/-! ## Observations -/

inductive ObservationKind where
  | foundSuccess
  | foundFailure
  | absent
  | inconclusive
  deriving DecidableEq, Repr

def ObservationKind.value : ObservationKind → String
  | foundSuccess => "FOUND_SUCCESS"
  | foundFailure => "FOUND_FAILURE"
  | absent => "ABSENT"
  | inconclusive => "INCONCLUSIVE"

/-- A kind that cannot be hashed fails in the set lookup itself. -/
def readKind : Option Value → Except Failure ObservationKind
  | some (.text kind) =>
      if kind = "FOUND_SUCCESS" then .ok .foundSuccess
      else if kind = "FOUND_FAILURE" then .ok .foundFailure
      else if kind = "ABSENT" then .ok .absent
      else if kind = "INCONCLUSIVE" then .ok .inconclusive
      else .error (conflictError "invalid observation kind")
  | some (.list _) => .error (typeError "unhashable type: 'list'")
  | some (.dict _) => .error (typeError "unhashable type: 'dict'")
  | _ => .error (conflictError "invalid observation kind")

def readDigest : Option Value → Except Failure String
  | some (.text digest) =>
      if sha256Text digest then .ok digest else .error (conflictError "invalid response digest")
  | _ => .error (conflictError "invalid response digest")

def readReference : Option Value → Except Failure (Option String)
  | none | some .none => .ok none
  | some (.text reference) =>
      if opaqueIdentifier reference then .ok (some reference)
      else .error (conflictError "invalid opaque inbound identifier")
  | _ => .error (conflictError "invalid opaque inbound identifier")

/-- The state an observation leads to while the attempt may still be looked up. -/
def observedState (context : TenantContext) (value : ExecutionAttempt) (kind : ObservationKind)
    (observation : Mapping) : Op AttemptState := match kind with
  | .foundSuccess => pure .verifiedSuccess
  | .foundFailure => pure .verifiedFailure
  | .inconclusive => pure .unknown
  | .absent =>
    if observation.get? "authoritative_absence" = some (.bool true) then do
      match ← caught (gate env context value.commandId value.connectionId) with
      | .ok _ => pure .prepared
      | .error why =>
        if why.kind = .authorization ∨ why.kind = .tenantBoundary ∨ why.kind = .conflict then pure .manualReview
        else raise why
    else pure .manualReview

/-- Seconds before the next lookup. -/
def reconciliationDelay (priorCount : Nat) : Int := min 300 (30 * 2 ^ min priorCount 4)

/-- The row behind an observation; its lease is given back. -/
def observed (value : ExecutionAttempt) (state : AttemptState) (reference : Option String) (lastObservedAt : Timestamp)
    (nextCheckAt : Option Timestamp) : ExecutionAttempt :=
  { value with
    version := value.version + 1
    state := state
    providerReference := reference.or value.providerReference
    lastObservedAt := some lastObservedAt
    nextCheckAt := nextCheckAt
    leaseOwner := none
    leaseUntil := none }

/-- The time of the next lookup, for an attempt that is still of unknown outcome. -/
def nextCheck (state : AttemptState) (priorCount : Nat) : Op (Option Timestamp) :=
  if state = .unknown then do
    let now ← now env
    pure (some (now.addSeconds (reconciliationDelay priorCount)))
  else pure none

/-- The writes of an observation. -/
def fileObservation (context : TenantContext) (recorded : ExecutionAttempt) (expectedVersion : Nat)
    (kind : ObservationKind) (digest : String) : Op Unit := do
  updateAttempt recorded expectedVersion
  let id ← freshUuid
  let observedAt ← now env
  let correlation ← freshUuid
  appendObservation {
    id := id
    tenantId := context.tenantId
    attemptId := recorded.id
    observationKind := kind.value
    responseDigest := digest
    observedAt := observedAt
    correlationId := correlation }
  attemptEvent env context recorded "attempt.observed"

def recordObservation (context : TenantContext) (attemptId : Uuid) (workerId : String) (token : Int)
    (observation : Mapping) : Op ExecutionAttempt := transaction do
  let value ← leased env context attemptId workerId token
  ensure value.state.InFlight (conflictError "observation requires dispatch/reconciliation")
  let _ ← strictIntentDigest env (.dict observation)
  let digest ← ofExcept (readDigest (observation.get? "response_digest"))
  let reference ← ofExcept (readReference (observation.get? "provider_reference"))
  let kind ← ofExcept (readKind (observation.get? "kind"))
  ensure (kind = .absent → value.state = .reconciling) (conflictError "absence is lookup-only")
  let found ← observedState env context value kind observation
  let priorCount := (← observationsFor context.tenantId value.id).length
  let state := if found = .unknown ∧ 4 ≤ priorCount then .manualReview else found
  let lastObservedAt ← now env
  let nextCheckAt ← nextCheck env state priorCount
  let recorded := observed value state reference lastObservedAt nextCheckAt
  fileObservation env context recorded value.version kind digest
  pure recorded

end AiStore.Execution
