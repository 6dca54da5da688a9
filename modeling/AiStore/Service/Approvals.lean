import AiStore.Service.Core

/-! Commands, their approvals and the preparation of their execution. -/

set_option autoImplicit false

namespace AiStore.Service

open Library.Txn Failure Repository

variable (env : Env)

def commandMaterial (kind : ApprovalKind) (targetRef : TargetRef) (payload : Mapping) : Value := .dict [
  ("kind", .text kind.value), ("target_ref", targetRef.material), ("payload", .dict payload)]

/-- `datetime.isoformat`, as the instant and the offset it spells. -/
def isoformat (time : Timestamp) : Value := .list [.int time.instant, .int time.offset]

def intentMaterial (kind : ApprovalKind) (targetRef : TargetRef) (payload : Mapping) (evidence : List Mapping)
    (expiresAt : Timestamp) (policyVersion targetVersion : Int) : Value := .dict [
  ("kind", .text kind.value), ("target_ref", targetRef.material), ("payload", .dict payload),
  ("evidence", .list (evidence.map .dict)), ("expires_at", isoformat expiresAt),
  ("policy_version", .int policyVersion), ("target_version", .int targetVersion)]

/-- `_intent_digest`. -/
def intentDigest (command : Command) (approval : Approval) (policyVersion targetVersion : Int) : Op String :=
  strictIntentDigest env (intentMaterial command.kind command.targetRef command.payload approval.evidence
    approval.expiresAt policyVersion targetVersion)

/-- `_check_intent`. -/
def checkIntent (command : Command) (approval : Approval) (intent : ApprovalIntent) : Op Unit := do
  let digest ← intentDigest env command approval intent.policyVersion intent.targetVersion
  ensure (digest = intent.canonicalDigest) (conflictError "approval intent changed; new approval required")

/-! ## Commands -/

def newCommand (id : Uuid) (context : TenantContext) (kind : ApprovalKind) (targetRef : TargetRef) (payload : Mapping)
    (digest : String) (idempotencyKey : CommandKey) (now : Timestamp) : Command where
  id := id
  tenantId := context.tenantId
  kind := kind
  targetRef := targetRef
  payload := payload
  payloadDigest := digest
  idempotencyKey := idempotencyKey
  state := .awaitingApproval
  createdAt := now

/-- A pending approval, good for a day. -/
def newApproval (id : Uuid) (command : Command) (evidence : List Mapping) (now : Timestamp) : Approval where
  id := id
  tenantId := command.tenantId
  commandId := command.id
  kind := command.kind
  state := .pending
  requestedAt := now
  expiresAt := now.addSeconds (24 * 60 * 60)
  evidence := evidence

def createCommand (context : TenantContext) (kind : ApprovalKind) (targetRef : TargetRef) (payload : Mapping)
    (idempotencyKey : CommandKey) (evidence : List Mapping := []) : Op (Command × Approval) := transaction do
  require context kind.capability
  ensure (¬ blankKey idempotencyKey) (conflictError "idempotency key is required")
  let digest := env.digest (commandMaterial kind targetRef payload)
  match ← commandIdForKey context.tenantId idempotencyKey with
  | some existingId =>
    let existing ← getCommand context.tenantId existingId
    ensure (existing.payloadDigest = digest) (conflictError "idempotency key reused for different command")
    let approval ← getApprovalForCommand context.tenantId existing.id
    pure (existing, approval)
  | none =>
    let now ← now env
    let commandId ← freshUuid
    let command := newCommand commandId context kind targetRef payload digest idempotencyKey now
    let approvalId ← freshUuid
    let approval := newApproval approvalId command evidence now
    saveCommand command
    saveApproval approval
    bindCommandKey context.tenantId idempotencyKey command.id
    auditBy env context "command.create" command.id "accepted" [("payload_digest", .text digest)]
    publish context.tenantId "approval.requested" command.id
      [("command_id", .uuid command.id), ("approval_id", .uuid approval.id)] (.approvalRequested command.id) now
    pure (command, approval)

def requestApproval (context : TenantContext) (kind : ApprovalKind) (targetRef : TargetRef) (payload : Mapping)
    (idempotencyKey : CommandKey) (policyVersion targetVersion : Int) (evidence : List Mapping := []) :
    Op (Command × Approval) := transaction do
  ensure (1 ≤ policyVersion ∧ 1 ≤ targetVersion) (conflictError "positive policy and target versions required")
  let _ ← strictIntentDigest env (.dict [("payload", .dict payload), ("evidence", .list (evidence.map .dict)),
    ("target_ref", targetRef.material)])
  let (command, approval) ← createCommand env context kind targetRef payload idempotencyKey evidence
  -- on a replay the evidence given now counts, not the stored one
  let digest ← strictIntentDigest env
    (intentMaterial kind targetRef payload evidence approval.expiresAt policyVersion targetVersion)
  match ← getApprovalIntent context.tenantId command.id with
  | some prior =>
    ensure (prior.canonicalDigest = digest) (conflictError "idempotent approval intent mismatch")
    checkIntent env command approval prior
  | none =>
    ensure (approval.state = .pending) (conflictError "cannot attach changed intent to existing approval")
    let stored ← intentDigest env command approval policyVersion targetVersion
    ensure (stored = digest) (conflictError "cannot attach changed intent to existing approval")
    let now ← now env
    saveApprovalIntent {
      tenantId := context.tenantId
      commandId := command.id
      canonicalDigest := digest
      policyVersion := policyVersion
      targetVersion := targetVersion
      createdAt := now }
  pure (command, approval)

def supersede (context : TenantContext) (commandId : Uuid) (changedPayload : Mapping) (idempotencyKey : CommandKey) :
    Op (Command × Approval) := transaction do
  let old ← getCommand context.tenantId commandId
  let oldApproval ← getApprovalForCommand context.tenantId commandId
  let changedDigest := env.digest (commandMaterial old.kind old.targetRef changedPayload)
  ensure (changedDigest ≠ old.payloadDigest) (conflictError "no material change")
  ensure (oldApproval.state = .pending ∨ oldApproval.state = .approved) (conflictError "command cannot be superseded")
  saveApproval { oldApproval with state := .superseded }
  saveCommand { old with state := .superseded }
  let (newCommand, newApproval) ←
    createCommand env context old.kind old.targetRef changedPayload idempotencyKey oldApproval.evidence
  let newCommand := { newCommand with supersedesId := some old.id }
  saveCommand newCommand
  auditBy env context "command.supersede" old.id "succeeded" [("replacement", .uuid newCommand.id)]
  pure (newCommand, newApproval)

/-! ## Decisions -/

/-- Commands made without a policy or target version have no intent to check. -/
def checkAttached (command : Command) (approval : Approval) : Option ApprovalIntent → Op Unit
  | some intent => checkIntent env command approval intent
  | none => pure ()

/-- The branch of `_decide` for an approval that has run out. -/
def lapse (context : TenantContext) (command : Command) (approval : Approval) (now : Timestamp) : Op Approval := do
  let approval := { approval with state := .expired }
  auditBy env context "approval.expire" approval.id "blocked" []
  saveApproval approval
  saveCommand { command with state := .expired }
  publish context.tenantId "approval.expired" command.id
    [("command_id", .uuid command.id), ("approval_id", .uuid approval.id)] (.approvalExpired approval.id) now
  pure approval

def decidedApproval (context : TenantContext) (approval : Approval) (approve : Bool) (reason : String) : Approval :=
  { approval with
    state := if approve then .approved else .rejected
    decidedBy := some context.userId
    decisionReason := some reason }

def decidedCommand (command : Command) (approve : Bool) : Command :=
  { command with state := if approve then .approved else .rejected }

/-- The branch of `_decide` for a decision made in time. -/
def settle (context : TenantContext) (command : Command) (approval : Approval) (approve : Bool) (reason : String)
    (now : Timestamp) : Op Approval := do
  let approval := decidedApproval context approval approve reason
  saveApproval approval
  saveCommand (decidedCommand command approve)
  auditBy env context "approval.decide" approval.id "succeeded" [("decision", .text approval.state.value)]
  publish context.tenantId "approval.decided" command.id
    [("command_id", .uuid command.id), ("approval_id", .uuid approval.id), ("decision", .text approval.state.value)]
    (.approvalDecided approval.id) now
  pure approval

/-- `_decide`: the approval as it stands, and whether it had run out. -/
def decideWithin (context : TenantContext) (commandId : Uuid) (approve : Bool) (reason : String) :
    Op (Approval × Bool) := do
  ensure (¬ blank reason ∧ reason.length ≤ 1000)
    (conflictError "Boolean approval decision and bounded reason are required")
  let command ← getCommand context.tenantId commandId
  let approval ← getApprovalForCommand context.tenantId commandId
  require context command.kind.capability
  checkAttached env command approval (← getApprovalIntent context.tenantId commandId)
  ensure (approval.state = .pending) (conflictError "approval is no longer pending")
  let now ← now env
  if approval.expiresAt ≤ now then do
    let approval ← lapse env context command approval now
    pure (approval, true)
  else do
    let approval ← settle env context command approval approve reason now
    pure (approval, false)

/-- One due approval of the batch; its id if this worker expired it. -/
def expireDue (tenant : Uuid) (now : Timestamp) (approval : Approval) : Op (Option Uuid) := do
  if ← markApprovalExpired tenant approval.id approval.commandId now then do
    let command ← getCommand tenant approval.commandId
    audit env tenant (.text "system:approval-expiry") "approval.expire" (.uuid approval.id) "blocked" []
    publish tenant "approval.expired" command.id [("approval_id", .uuid approval.id), ("command_id", .uuid command.id)]
      (.approvalExpired approval.id) now
    pure (some approval.id)
  else pure none

def expireDueApprovals (tenant : Uuid) (limit : Int) : Op (List Uuid) := do
  ensure (1 ≤ limit ∧ limit ≤ 1000) (valueError "limit must be an integer between 1 and 1000")
  let now ← now env
  transaction do
    let due ← dueApprovals tenant now limit.toNat
    let expired ← collect due (expireDue env tenant now)
    pure (expired.filterMap id)

/-! ## Preparation -/

/-- The checks of `prepare_execution`: the intent that may be executed, and when that was found. -/
def executable (context : TenantContext) (commandId : Uuid) (policyVersion targetVersion : Int) :
    Op (ApprovalIntent × Timestamp) := do
  let _ ← membership context
  let command ← getCommand context.tenantId commandId
  let capability := command.kind.capability
  require context capability
  let approval ← getApprovalForCommand context.tenantId commandId
  let intent ← fetch (conflictError "immutable approval intent required")
    (← getApprovalIntent context.tenantId commandId)
  ensure (command.state = .approved ∧ approval.state = .approved) (conflictError "approval is not executable")
  let now ← now env
  ensure (now < approval.expiresAt) (conflictError "approval expired")
  ensure (1 ≤ policyVersion ∧ 1 ≤ targetVersion ∧
      (policyVersion, targetVersion) = (intent.policyVersion, intent.targetVersion))
    (conflictError "policy/target version changed; new approval required")
  checkIntent env command approval intent
  let decidedBy ← fetch (conflictError "approval has no deciding member") approval.decidedBy
  let approver ← contextFor context.tenantId decidedBy
  require approver capability
  pure (intent, now)

def prepareExecution (context : TenantContext) (commandId : Uuid) (policyVersion targetVersion : Int) :
    Op (ExecutionPreparation × Bool) := transaction do
  let (intent, now) ← executable env context commandId policyVersion targetVersion
  match ← getExecutionPreparation context.tenantId commandId with
  | some prior => pure (prior, true)
  | none =>
    let id ← freshUuid
    let result : ExecutionPreparation := {
      id := id
      tenantId := context.tenantId
      commandId := commandId
      canonicalDigest := intent.canonicalDigest
      preparedBy := context.userId
      preparedAt := now }
    saveExecutionPreparation result
    auditBy env context "execution.prepared" commandId "accepted" [("intent_digest", .text intent.canonicalDigest)]
    publish context.tenantId "execution.prepared" commandId
      [("command_id", .uuid commandId), ("preparation_id", .uuid result.id),
        ("intent_digest", .text intent.canonicalDigest)] (.executionPrepared commandId) now
    pure (result, false)

end AiStore.Service
