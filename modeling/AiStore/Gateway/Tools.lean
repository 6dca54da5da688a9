import AiStore.Gateway.Canonical
import AiStore.Service.Approvals

/-! The typed tool gateway: a command is checked against the stops and, where it
changes something, against the one approval it was granted under. -/

set_option autoImplicit false

namespace AiStore.Gateway

open Library.Txn Failure Repository Service

/-- `_TOOLS`. -/
def tools : List String := ["publish_offer", "update_stock", "update_price", "create_purchase_order", "claim_action",
  "dispatch_shipment", "reconcile", "pause_scope", "resume_scope"]

/-- `_TARGETS`. -/
def targets : List String := ["offer", "order", "supplier", "channel", "tenant", "product", "shipment"]

/-- `tool in _MUTATING`. -/
def Mutating (tool : String) : Prop := tool ∈ tools ∧ tool ≠ "reconcile"

instance : DecidablePred Mutating := fun tool => by
  unfold Mutating
  exact inferInstance

/-- `_TOOL_APPROVAL_KINDS.get(tool, ())`. -/
def toolApprovalKinds (tool : String) : List ApprovalKind :=
  if tool ∈ ["publish_offer", "update_stock", "update_price"] then [.product]
  else if tool ∈ ["create_purchase_order", "dispatch_shipment"] then [.purchase]
  else if tool = "claim_action" then [.refund]
  else if tool ∈ ["pause_scope", "resume_scope"] then [.pause]
  else []

structure ToolSubmission where
  actorType : String
  actorId : String
  tool : String
  targetType : String
  targetId : String
  input : Mapping
  idempotencyKey : String
  requestedPolicyVersion : Int
  approvalId : Option Ident := none
  deriving DecidableEq

namespace ToolSubmission

/-- The target as a command spells it, `{type}:{id}`. -/
def targetRef (submission : ToolSubmission) : TargetRef :=
  .text (submission.targetType ++ ":" ++ submission.targetId)

/-- Only a channel has a connection of its own to stop. -/
def connection (submission : ToolSubmission) : Option String :=
  if submission.targetType = "channel" then some submission.targetId else none

end ToolSubmission

structure ToolReply where
  commandId : Uuid
  state : ToolState
  externalRefs : List Value := []
  policyDecision : Mapping := [("mode", .text "DEMO")]
  verification : Mapping := []
  nextAction : Option String
  deriving DecidableEq

variable (env : Env)

def mismatch : Failure := conflictError "tool approval intent mismatch"

def alreadyUsed : Failure := conflictError "approval_already_used"

/-- Another accepted command of the tenant stands on the approval. -/
def UsedElsewhere (rows : List DemoToolCommand) (approvalId : Ident) (idempotencyKey : String) : Prop :=
  ∃ row ∈ rows, row.approvalId = some approvalId ∧ row.state = .accepted ∧ row.idempotencyKey ≠ idempotencyKey

instance (rows : List DemoToolCommand) (approvalId : Ident) (idempotencyKey : String) :
    Decidable (UsedElsewhere rows approvalId idempotencyKey) := by
  unfold UsedElsewhere
  exact inferInstance

/-- The first half of `_validated_tool_approval`: the approval's command and intent, found to be about the submission. -/
def matchedApproval (tenant : Uuid) (submission : ToolSubmission) (approvalId : Ident) :
    Op (Command × ApprovalIntent) := do
  let approval ← getApproval tenant approvalId
  let command ← getCommand tenant approval.commandId
  let intent ← fetch mismatch (← getApprovalIntent tenant command.id)
  ensure (command.kind ∈ toolApprovalKinds submission.tool ∧ command.targetRef = submission.targetRef) mismatch
  let payload ← encode env (.dict command.payload) "input"
  let input ← encode env (.dict submission.input) "input"
  ensure (payload = input ∧ intent.policyVersion = submission.requestedPolicyVersion) mismatch
  pure (command, intent)

/-- `_validated_tool_approval`. -/
def validatedToolApproval (context : TenantContext) (submission : ToolSubmission) (approvalId : Ident) :
    Op (Uuid × String) := do
  let (command, intent) ← matchedApproval env context.tenantId submission approvalId
  let rows ← toolCommandsFor context.tenantId
  ensure (¬ UsedElsewhere rows approvalId submission.idempotencyKey) alreadyUsed
  let (preparation, _) ←
    prepareExecution env context command.id submission.requestedPolicyVersion intent.targetVersion
  ensure (preparation.canonicalDigest = intent.canonicalDigest) mismatch
  pure (command.id, intent.canonicalDigest)

/-- What the gateway decides about a submission before it looks for an earlier one. -/
structure Verdict where
  state : ToolState
  blocked : Option String
  approved : Option (Uuid × String)
  deriving DecidableEq

/-- What the gateway turns into a block. -/
def Blocks (why : Failure) : Prop := why.kind ∈ [.authorization, .conflict, .notFound, .tenantBoundary]

instance : DecidablePred Blocks := fun why => by
  unfold Blocks
  exact inferInstance

def blockedReason (why : Failure) : String :=
  if why.message = "approval_already_used" then "approval_already_used" else "approval_intent_mismatch"

def verdictOn : Except Failure (Uuid × String) → Op Verdict
  | .ok approved => pure ⟨.accepted, none, some approved⟩
  | .error why => if Blocks why then pure ⟨.blocked, some (blockedReason why), none⟩ else raise why

def judge (context : TenantContext) (submission : ToolSubmission) : Op Verdict := do
  if ← demoStopActive context.tenantId submission.connection then pure ⟨.blocked, some "stop_active", none⟩
  else if Mutating submission.tool then
    match submission.approvalId with
    | none => pure ⟨.approvalRequired, some "approval_required", none⟩
    | some approvalId => do
      let validated ← caught (validatedToolApproval env context submission approvalId)
      verdictOn validated
  else pure ⟨.accepted, none, none⟩

def newToolCommand (id : Uuid) (tenant : Uuid) (submission : ToolSubmission) (input : Value) (verdict : Verdict)
    (now : Timestamp) : DemoToolCommand where
  id := id
  tenantId := tenant
  actorType := submission.actorType
  actorId := submission.actorId
  tool := submission.tool
  targetType := submission.targetType
  targetId := submission.targetId
  input := input
  idempotencyKey := submission.idempotencyKey
  requestedPolicyVersion := submission.requestedPolicyVersion
  -- an approval that did not stand the check is not kept
  approvalId := verdict.approved.bind fun _ => submission.approvalId
  mode := "DEMO"
  state := verdict.state
  blockedReason := verdict.blocked
  createdAt := now
  approvalCommandId := verdict.approved.map Prod.fst
  intentDigest := verdict.approved.map Prod.snd

/-- The event of a command that may be executed. -/
def dispatchTool (value : DemoToolCommand) (verdict : Verdict) : Op Unit := match verdict.approved with
  | some (_, digest) => if verdict.state = .accepted then
      publish value.tenantId "tool.command" value.id [("command_id", .uuid value.id),
        ("state", .text verdict.state.value), ("mode", .text "DEMO"), ("intent_digest", .text digest)] (.tool value.id)
        value.createdAt
    else pure ()
  | none => pure ()

/-- The stored command of the submission's key, or a new one. -/
def fileTool (context : TenantContext) (submission : ToolSubmission) (input : Value) (verdict : Verdict) :
    Op DemoToolCommand := do
  let id ← freshUuid
  let now ← now env
  let (value, replay) ← saveToolCommand (newToolCommand id context.tenantId submission input verdict now)
  if replay then pure value
  else do
    auditBy env context
      (if verdict.state = .accepted then "tool.command_accepted" else "tool.command_blocked") value.id
      (if verdict.state = .accepted then "accepted" else "blocked")
      [("tool", .text submission.tool), ("mode", .text "DEMO")]
    dispatchTool value verdict
    pure value

/-- The reason comes from this call's verdict, also on a replay. -/
def answerTool (context : TenantContext) (submission : ToolSubmission) (input : Value) : Op ToolReply :=
  transaction do
    let verdict ← judge env context submission
    let value ← fileTool env context submission input verdict
    pure { commandId := value.id, state := value.state, nextAction := verdict.blocked }

def opaqueApproval : Option Ident → Op Unit
  | some (.text words) => opaqueName words "approval_id"
  | some (.uuid _) | none => pure ()

def submitDemoTool (context : TenantContext) (submission : ToolSubmission) : Op ToolReply := do
  require context .tenantAdmin
  ensure (submission.actorType ∈ ["user", "agent", "workflow"] ∧ submission.tool ∈ tools ∧
    submission.targetType ∈ targets ∧ 1 ≤ submission.requestedPolicyVersion)
    (conflictError "invalid typed DEMO tool command")
  opaqueName submission.actorId "actor_id"
  opaqueName submission.targetId "target_id"
  opaqueName submission.idempotencyKey "idempotency_key"
  opaqueApproval submission.approvalId
  let input ← encode env (.dict submission.input) "input"
  answerTool env context submission input

end AiStore.Gateway
