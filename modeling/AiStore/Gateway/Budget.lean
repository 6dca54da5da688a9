import AiStore.Library.Calendar
import AiStore.Gateway.Canonical

/-! Budgets of agent runs: the policy of a tenant, the ledger all tenants share, and
the one operation that checks the ledger and charges it. -/

set_option autoImplicit false

namespace AiStore.Gateway

open Library.Txn Failure Repository Service

def platformWarningMinor : Int := 24000
def platformHardCapMinor : Int := 30000
def sqliteIntegerMax : Int := 2 ^ 63 - 1

/-- `budget_time`: every timestamp carries a zone. -/
def budgetTime (time : Timestamp) : Timestamp := ⟨time.instant, 0⟩

def total (entries : List DemoBudgetLedgerEntry) : Int := (entries.map (·.amountMinor)).sum

/-- The entries of one UTC day. -/
def ofDay (now : Timestamp) (entries : List DemoBudgetLedgerEntry) : List DemoBudgetLedgerEntry :=
  entries.filter fun entry => (budgetTime entry.occurredAt).utcDay = now.utcDay

/-- The entries of one UTC month. -/
def ofMonth (month : Int × Int) (entries : List DemoBudgetLedgerEntry) : List DemoBudgetLedgerEntry :=
  entries.filter fun entry => (budgetTime entry.occurredAt).utcMonth = month

/-! ## Repository -/

def validateRequestDigest (digest : String) : Op Unit :=
  ensure (sha256Text digest) (conflictError "invalid budget request digest")

def validateLedgerAmount (amount : Int) : Op Unit :=
  ensure (0 ≤ amount ∧ amount < platformHardCapMinor) (conflictError "platform budget hard cap")

def findBudgetRequest (tenant : Uuid) (idempotencyKey : String) : Op (Option DemoBudgetRequest) :=
  query fun store => store.budgetRequests.get? (tenant, idempotencyKey)

def getBudgetRequest (tenant : Uuid) (idempotencyKey requestDigest : String) : Op (Option DemoBudgetRequest) := do
  validateRequestDigest requestDigest
  transaction do
    match ← findBudgetRequest tenant idempotencyKey with
    | some request =>
      ensure (request.requestDigest = requestDigest) (conflictError "budget idempotency key reused")
      pure (some request)
    | none =>
      let entries ← budgetEntriesFor tenant
      ensure (∀ entry ∈ entries, entry.idempotencyKey ≠ idempotencyKey)
        (conflictError "legacy budget request cannot be verified")
      pure none

def saveBudgetRequest (value : DemoBudgetRequest) : Op DemoBudgetRequest := do
  validateRequestDigest value.requestDigest
  transaction do
    match ← findBudgetRequest value.tenantId value.idempotencyKey with
    | some prior =>
      ensure (prior = value) (conflictError "budget idempotency key reused")
      pure prior
    | none =>
      let _ ← getAgentRun value.tenantId value.runId
      write fun store => { store with budgetRequests := store.budgetRequests.put value }
      pure value

def platformMonthlyBudgetTotal (now : Timestamp) : Op Int := do
  let entries ← allBudgetEntries
  pure (total (ofMonth (budgetTime now).utcMonth entries))

structure BudgetSnapshot where
  reservedMinor : Int
  computedAt : Timestamp

def platformBudgetSnapshot (now : Timestamp) : Op BudgetSnapshot := do
  let reserved ← platformMonthlyBudgetTotal (budgetTime now)
  pure ⟨reserved, budgetTime now⟩

/-- The entry a tenant's key already has. -/
def entryForKey (tenant : Uuid) (idempotencyKey : String) : Op (Option DemoBudgetLedgerEntry) := do
  let entries ← budgetEntriesFor tenant
  pure (entries.find? fun entry => entry.idempotencyKey = idempotencyKey)

def saveBudgetEntry (value : DemoBudgetLedgerEntry) : Op DemoBudgetLedgerEntry := do
  validateLedgerAmount value.amountMinor
  match ← entryForKey value.tenantId value.idempotencyKey with
  | some prior =>
    ensure ((prior.runId, prior.amountMinor, prior.occurredAt) = (value.runId, value.amountMinor, value.occurredAt))
      (conflictError "budget idempotency key reused")
    pure prior
  | none =>
    write fun store => { store with budgetLedger := store.budgetLedger.put value }
    pure value

def reserveBudgetEntry (value : DemoBudgetLedgerEntry) : Op DemoBudgetLedgerEntry := do
  validateLedgerAmount value.amountMinor
  transaction do
    match ← entryForKey value.tenantId value.idempotencyKey with
    | some _ => saveBudgetEntry value
    | none =>
      let reserved ← platformMonthlyBudgetTotal value.occurredAt
      ensure (reserved + value.amountMinor < platformHardCapMinor) (conflictError "platform budget hard cap")
      saveBudgetEntry value

/-! ## Service -/

variable (env : Env)

def setDemoBudgetPolicy (context : TenantContext) (dailyLimitMinor monthlyLimitMinor generationLimit agentRunLimit
    maxTokens maxToolCalls : Int) (modelTier : String) : Op DemoBudgetPolicy := do
  require context .tenantAdmin
  ensure ((∀ limit ∈ [dailyLimitMinor, monthlyLimitMinor, generationLimit, agentRunLimit],
      0 ≤ limit ∧ limit ≤ sqliteIntegerMax) ∧ (1 ≤ maxTokens ∧ maxTokens ≤ sqliteIntegerMax) ∧
      (1 ≤ maxToolCalls ∧ maxToolCalls ≤ sqliteIntegerMax) ∧ modelTier ∈ ["economy", "balanced", "quality"])
    (conflictError "invalid budget policy")
  transaction do
    let prior ← getBudgetPolicy context.tenantId
    let value : DemoBudgetPolicy := {
      tenantId := context.tenantId
      dailyLimitMinor := dailyLimitMinor
      monthlyLimitMinor := monthlyLimitMinor
      generationLimit := generationLimit
      agentRunLimit := agentRunLimit
      maxTokens := maxTokens
      maxToolCalls := maxToolCalls
      modelTier := modelTier
      version := prior.elim 1 (·.version + 1) }
    saveBudgetPolicy value
    auditBy env context "budget.policy_configured" context.tenantId "succeeded" [("version", .int value.version)]
    pure value

structure AgentRunRequest where
  agentId : String
  goal : String
  policyVersion : Int
  model : String
  promptVersion : String
  input : Value
  decision : Mapping
  confidence : String
  toolCalls : Int
  estimatedCostMinor : Int
  idempotencyKey : String
  workKind : String := "optional"

/-- What the request digest is taken over. -/
def requestMaterial (request : AgentRunRequest) (input decision : Value) : Value := .dict [
  ("agent_id", .text request.agentId), ("goal", .text (strip request.goal)),
  ("policy_version", .int request.policyVersion), ("model", .text request.model),
  ("prompt_version", .text request.promptVersion), ("input", input), ("decision", decision),
  ("confidence", .text request.confidence), ("tool_calls", .int request.toolCalls),
  ("estimated_cost_minor", .int request.estimatedCostMinor), ("work_kind", .text request.workKind)]

/-- The tenant's limits, against what it has already spent. -/
def WithinPolicy (policy : DemoBudgetPolicy) (entries : List DemoBudgetLedgerEntry) (runs : Nat) (now : Timestamp)
    (cost : Int) : Prop :=
  total (ofDay now entries) + cost ≤ policy.dailyLimitMinor ∧
    total (ofMonth now.utcMonth entries) + cost ≤ policy.monthlyLimitMinor ∧
    ((ofDay now entries).length : Int) < policy.generationLimit ∧ (runs : Int) < policy.agentRunLimit

instance (policy : DemoBudgetPolicy) (entries : List DemoBudgetLedgerEntry) (runs : Nat) (now : Timestamp)
    (cost : Int) : Decidable (WithinPolicy policy entries runs now cost) := by
  unfold WithinPolicy
  exact inferInstance

/-- Fresh telemetry: not negative and at most a minute old. -/
def validSnapshot (now : Timestamp) (snapshot : BudgetSnapshot) : Bool :=
  0 ≤ snapshot.reservedMinor && 0 ≤ now.instant - (budgetTime snapshot.computedAt).instant &&
    now.instant - (budgetTime snapshot.computedAt).instant ≤ 60000000

/-- The platform's cap over the outcome of the tenant's policy. -/
def platformOutcome (snapshot : Except Failure BudgetSnapshot) (now : Timestamp) (workKind : String) (cost : Int)
    (outcome : RunOutcome) : RunOutcome := match snapshot with
  | .error _ => .blockedTelemetry
  | .ok snapshot =>
    if validSnapshot now snapshot = false then .blockedTelemetry
    else if platformHardCapMinor ≤ snapshot.reservedMinor + cost then .blockedGlobalHardCap
    else if platformWarningMinor ≤ snapshot.reservedMinor + cost then
      if workKind = "growth" then .blockedGlobalWarning
      else if outcome = .recorded then .recordedWarning else outcome
    else outcome

/-- The outcome of a new request, decided inside its transaction. -/
def decideRun (tenant : Uuid) (request : AgentRunRequest) (now : Timestamp) : Op RunOutcome := do
  let policy ← fetch (conflictError "budget policy is required") (← getBudgetPolicy tenant)
  ensure (policy.version = request.policyVersion ∧ request.toolCalls ≤ policy.maxToolCalls)
    (conflictError "budget policy or tool-call limit changed")
  let entries ← budgetEntriesFor tenant
  let runs ← agentRunsFor tenant
  let outcome : RunOutcome :=
    if WithinPolicy policy entries runs.length now request.estimatedCostMinor then .recorded else .blockedBudget
  let snapshot ← caught (platformBudgetSnapshot now)
  pure (platformOutcome snapshot now request.workKind request.estimatedCostMinor outcome)

/-- `AgentRun` rows keep the charge of an accepted run only. -/
def newRun (tenant : Uuid) (request : AgentRunRequest) (inputDigest : String) (decision : Value) (now : Timestamp)
    (id : Uuid) (outcome : RunOutcome) : DemoAgentRun where
  id := id
  tenantId := tenant
  agentId := request.agentId
  goal := strip request.goal
  policyVersion := request.policyVersion
  model := request.model
  promptVersion := request.promptVersion
  inputDigest := inputDigest
  decision := decision
  confidence := request.confidence
  toolCalls := request.toolCalls
  reviewer := none
  estimatedCostMinor := request.estimatedCostMinor
  chargedCostMinor := if outcome.Accepted then some request.estimatedCostMinor else none
  outcome := outcome
  createdAt := now

/-- The ledger entry of an accepted run; a blocked run has none. -/
def chargeRun (run : DemoAgentRun) (idempotencyKey : String) : Op Unit :=
  if run.outcome.Accepted then do
    let id ← freshUuid
    let _ ← reserveBudgetEntry {
      id := id
      tenantId := run.tenantId
      runId := run.id
      amountMinor := run.estimatedCostMinor
      occurredAt := run.createdAt
      idempotencyKey := idempotencyKey }
    pure ()
  else pure ()

/-- The rows of a new request. -/
def fileRun (context : TenantContext) (request : AgentRunRequest) (inputDigest requestDigest : String)
    (decision : Value) (now : Timestamp) : Op DemoAgentRun := do
  let outcome ← decideRun context.tenantId request now
  let id ← freshUuid
  let run := newRun context.tenantId request inputDigest decision now id outcome
  saveAgentRun run
  let _ ← saveBudgetRequest {
    tenantId := context.tenantId
    idempotencyKey := request.idempotencyKey
    requestDigest := requestDigest
    runId := run.id
    outcome := outcome
    createdAt := now }
  chargeRun run request.idempotencyKey
  auditBy env context "agent.run_recorded" run.id (if outcome.Accepted then "accepted" else "blocked")
    [("outcome", .text outcome.value), ("cost_minor", .int request.estimatedCostMinor)]
  pure run

/-- The request that has already been answered, or a new one. -/
def answerRun (context : TenantContext) (request : AgentRunRequest) (inputDigest requestDigest : String)
    (decision : Value) (now : Timestamp) : Op DemoAgentRun := transaction do
  match ← getBudgetRequest context.tenantId request.idempotencyKey requestDigest with
  | some prior => getAgentRun context.tenantId prior.runId
  | none => fileRun env context request inputDigest requestDigest decision now

def recordDemoAgentRun (context : TenantContext) (request : AgentRunRequest) : Op DemoAgentRun := do
  require context .tenantAdmin
  opaqueName request.agentId "agent_id"
  opaqueName request.model "model"
  opaqueName request.promptVersion "prompt_version"
  opaqueName request.idempotencyKey "idempotency_key"
  ensure (¬ blank request.goal ∧ 1 ≤ request.policyVersion ∧ 0 ≤ request.toolCalls ∧ 0 ≤ request.estimatedCostMinor ∧
      request.estimatedCostMinor ≤ 2 ^ 63 - 1 ∧ request.confidence ∈ ["low", "medium", "high"] ∧
      request.workKind ∈ ["optional", "growth"]) (conflictError "invalid agent run")
  let input ← encode env request.input "input"
  let decision ← encode env (.dict request.decision) "decision"
  let inputDigest ← digestOf env request.input
  let requestDigest ← digestOf env (requestMaterial request input decision)
  let now := budgetTime (← now env)
  answerRun env context request inputDigest requestDigest decision now

end AiStore.Gateway
