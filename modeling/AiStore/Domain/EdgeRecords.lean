import AiStore.Domain.Records

/-! The rows at the edges of the store: the inbox, the tool gateway and the budget ledger. -/

set_option autoImplicit false

namespace AiStore

/-! ## Inbox -/

inductive InboxState where
  | received
  | processed
  deriving DecidableEq, Repr

structure InboxMessage where
  id : Uuid
  tenantId : Uuid
  provider : String
  connectionId : String
  externalEventId : String
  schemaVersion : Int
  receivedAt : Timestamp
  payloadDigest : String
  rawPayloadRef : Option String
  state : InboxState := .received
  version : Nat := 1
  processedAt : Option Timestamp := none
  deriving DecidableEq

namespace InboxMessage

def key (row : InboxMessage) : Uuid × Uuid := (row.tenantId, row.id)

/-- What the sender calls the event. -/
def identity (row : InboxMessage) : Uuid × String × String × String :=
  (row.tenantId, row.provider, row.connectionId, row.externalEventId)

end InboxMessage

structure AdapterPollCheckpoint where
  tenantId : Uuid
  provider : String
  connectionId : String
  adapterVersion : String
  cursor : Option String
  overlapFrom : Option Timestamp
  version : Nat
  updatedAt : Timestamp
  lastSuccessAt : Option Timestamp := none
  deriving DecidableEq

def AdapterPollCheckpoint.key (row : AdapterPollCheckpoint) : Uuid × String × String :=
  (row.tenantId, row.provider, row.connectionId)

/-! ## Tool gateway -/

inductive ToolState where
  | accepted
  | blocked
  | approvalRequired
  deriving DecidableEq, Repr

def ToolState.value : ToolState → String
  | .accepted => "accepted"
  | .blocked => "blocked"
  | .approvalRequired => "approval_required"

/-- `input` is what `input_json` decodes to, with its keys sorted. -/
structure DemoToolCommand where
  id : Uuid
  tenantId : Uuid
  actorType : String
  actorId : String
  tool : String
  targetType : String
  targetId : String
  input : Value
  idempotencyKey : String
  requestedPolicyVersion : Int
  approvalId : Option Ident
  mode : String
  state : ToolState
  blockedReason : Option String
  createdAt : Timestamp
  approvalCommandId : Option Uuid := none
  intentDigest : Option String := none
  deriving DecidableEq

/-- What a replay has to repeat. -/
structure ToolRequest where
  actorType : String
  actorId : String
  tool : String
  targetType : String
  targetId : String
  input : Value
  requestedPolicyVersion : Int
  approvalId : Option Ident
  deriving DecidableEq

namespace DemoToolCommand

def key (row : DemoToolCommand) : Uuid × Uuid := (row.tenantId, row.id)

def request (row : DemoToolCommand) : ToolRequest where
  actorType := row.actorType
  actorId := row.actorId
  tool := row.tool
  targetType := row.targetType
  targetId := row.targetId
  input := row.input
  requestedPolicyVersion := row.requestedPolicyVersion
  approvalId := row.approvalId

end DemoToolCommand

/-! ## Budgets -/

inductive RunOutcome where
  | recorded
  | recordedWarning
  | blockedBudget
  | blockedTelemetry
  | blockedGlobalHardCap
  | blockedGlobalWarning
  deriving DecidableEq, Repr

namespace RunOutcome

def value : RunOutcome → String
  | recorded => "RECORDED"
  | recordedWarning => "RECORDED_WARNING"
  | blockedBudget => "BLOCKED_BUDGET"
  | blockedTelemetry => "BLOCKED_TELEMETRY"
  | blockedGlobalHardCap => "BLOCKED_GLOBAL_HARD_CAP"
  | blockedGlobalWarning => "BLOCKED_GLOBAL_WARNING"

def Accepted (outcome : RunOutcome) : Prop := outcome = .recorded ∨ outcome = .recordedWarning

instance : DecidablePred Accepted := fun outcome => by
  unfold Accepted
  exact inferInstance

end RunOutcome

/-- `decision` is what `decision_json` decodes to. -/
structure DemoAgentRun where
  id : Uuid
  tenantId : Uuid
  agentId : String
  goal : String
  policyVersion : Int
  model : String
  promptVersion : String
  inputDigest : String
  decision : Value
  confidence : String
  toolCalls : Int
  reviewer : Option String
  estimatedCostMinor : Int
  chargedCostMinor : Option Int
  outcome : RunOutcome
  createdAt : Timestamp
  deriving DecidableEq

def DemoAgentRun.key (row : DemoAgentRun) : Uuid × Uuid := (row.tenantId, row.id)

structure DemoBudgetPolicy where
  tenantId : Uuid
  dailyLimitMinor : Int
  monthlyLimitMinor : Int
  generationLimit : Int
  agentRunLimit : Int
  maxTokens : Int
  maxToolCalls : Int
  modelTier : String
  version : Int := 1
  deriving DecidableEq

structure DemoBudgetRequest where
  tenantId : Uuid
  idempotencyKey : String
  requestDigest : String
  runId : Uuid
  outcome : RunOutcome
  createdAt : Timestamp
  deriving DecidableEq

def DemoBudgetRequest.key (row : DemoBudgetRequest) : Uuid × String := (row.tenantId, row.idempotencyKey)

structure DemoBudgetLedgerEntry where
  id : Uuid
  tenantId : Uuid
  runId : Uuid
  amountMinor : Int
  occurredAt : Timestamp
  idempotencyKey : String
  deriving DecidableEq

def DemoBudgetLedgerEntry.key (row : DemoBudgetLedgerEntry) : Uuid × Uuid := (row.tenantId, row.id)

/-! ## Browser sessions -/

structure BrowserSession where
  tokenDigest : String
  tenantId : Uuid
  userId : Uuid
  membershipVersion : Nat
  identityAssertionRef : String
  issuedAt : Timestamp
  expiresAt : Timestamp
  deriving DecidableEq

structure ApprovalConfirmationNonce where
  tokenDigest : String
  sessionDigest : String
  tenantId : Uuid
  approvalId : Uuid
  commandId : Uuid
  issuedAt : Timestamp
  expiresAt : Timestamp
  consumedAt : Option Timestamp := none
  deriving DecidableEq

end AiStore
