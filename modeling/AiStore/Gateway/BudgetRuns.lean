import AiStore.Library.Runs
import AiStore.Gateway.Budget

/-! The budget cap over whole runs.

The ledger only grows, by the charges of accepted runs, and a charge is made in
the transaction whose check saw every earlier one.
-/

set_option autoImplicit false

namespace AiStore.Gateway

open Library Library.Txn Failure Repository Service

variable {env : Env} {s t : Session Store} {tenant : Uuid} {now : Timestamp}

/-- The tables of this part of the gateway. -/
def budgetTables (db : Store) :
    Table DemoAgentRun.key × Table DemoBudgetRequest.key × Table DemoBudgetLedgerEntry.key :=
  (db.agentRuns, db.budgetRequests, db.budgetLedger)

/-! ## Sums -/

theorem total_append (first second : List DemoBudgetLedgerEntry) : total (first ++ second) = total first + total second := by
  simp [total]

theorem ofMonth_append (month : Int × Int) (first second : List DemoBudgetLedgerEntry) :
    ofMonth month (first ++ second) = ofMonth month first ++ ofMonth month second := List.filter_append _ _

theorem ofDay_append (first second : List DemoBudgetLedgerEntry) :
    ofDay now (first ++ second) = ofDay now first ++ ofDay now second := List.filter_append _ _

/-- What all tenants have reserved in a month. -/
def reserved (store : Store) (month : Int × Int) : Int := total (ofMonth month store.budgetLedger.rows)

def tenantEntries (store : Store) (tenant : Uuid) : List DemoBudgetLedgerEntry :=
  store.budgetLedger.rows.filter (·.tenantId = tenant)

def tenantRuns (store : Store) (tenant : Uuid) : List DemoAgentRun := store.agentRuns.rows.filter (·.tenantId = tenant)

/-! ## The pieces of a call -/

/-- The outcome a state decides. -/
def decided (store : Store) (tenant : Uuid) (policy : DemoBudgetPolicy) (request : AgentRunRequest) (now : Timestamp) :
    RunOutcome :=
  platformOutcome (.ok ⟨reserved store now.utcMonth, budgetTime now⟩) now request.workKind request.estimatedCostMinor
    (if WithinPolicy policy (tenantEntries store tenant) (tenantRuns store tenant).length now
      request.estimatedCostMinor then .recorded else .blockedBudget)

theorem decideRun_eq_ok {request : AgentRunRequest} {outcome : RunOutcome} :
    (decideRun tenant request now).run s = (.ok outcome, t) ↔
      (∃ policy, s.db.budgetPolicies.get? tenant = some policy ∧ policy.version = request.policyVersion ∧
        request.toolCalls ≤ policy.maxToolCalls ∧ outcome = decided s.db tenant policy request now) ∧ t = s := by
  have snapshot : ∀ middle : Session Store, (caught (platformBudgetSnapshot now)).run middle =
      (.ok (.ok ⟨reserved middle.db now.utcMonth, budgetTime now⟩), middle) := fun _ => rfl
  simp only [decideRun, getBudgetPolicy, budgetEntriesFor, agentRunsFor, bind_eq_ok, query_eq_ok, fetch_eq_ok,
    ensure_eq_ok, snapshot, pure_eq_ok]
  constructor
  · rintro ⟨_, _, ⟨rfl, rfl⟩, policy, _, ⟨found, rfl⟩, _, _, ⟨⟨version, calls⟩, rfl⟩, _, _, ⟨rfl, rfl⟩, _, _, ⟨rfl, rfl⟩,
      _, _, same, rfl, rfl⟩
    cases same
    exact ⟨⟨policy, found, version, calls, rfl⟩, rfl⟩
  · rintro ⟨⟨policy, found, version, calls, rfl⟩, rfl⟩
    exact ⟨_, _, ⟨rfl, rfl⟩, policy, _, ⟨found, rfl⟩, (), _, ⟨⟨version, calls⟩, rfl⟩, _, _, ⟨rfl, rfl⟩, _, _,
      ⟨rfl, rfl⟩, _, _, rfl, rfl, rfl⟩

/-- An accepted request fits the policy of its tenant and the cap of the platform. -/
theorem decided_accepted {store : Store} {policy : DemoBudgetPolicy} {request : AgentRunRequest}
    (accepted : (decided store tenant policy request now).Accepted) :
    WithinPolicy policy (tenantEntries store tenant) (tenantRuns store tenant).length now request.estimatedCostMinor ∧
      reserved store now.utcMonth + request.estimatedCostMinor < platformHardCapMinor ∧
      0 ≤ reserved store now.utcMonth := by
  unfold decided platformOutcome at accepted
  simp only at accepted
  split at accepted
  · rcases accepted with same | same <;> cases same
  · next valid =>
    simp only [validSnapshot, Bool.and_eq_false_imp] at valid
    have nonneg : 0 ≤ reserved store now.utcMonth := by
      by_contra negative
      exact valid (by simp [negative])
    split at accepted
    · rcases accepted with same | same <;> cases same
    · next below =>
      by_cases within : WithinPolicy policy (tenantEntries store tenant) (tenantRuns store tenant).length now
          request.estimatedCostMinor
      · exact ⟨within, Int.not_le.mp below, nonneg⟩
      · -- a blocked tenant stays blocked under the platform's cap
        simp only [within, if_false] at accepted
        split at accepted
        · split at accepted
          · rcases accepted with same | same <;> cases same
          · simp only [reduceCtorEq, if_false] at accepted
            rcases accepted with same | same <;> cases same
        · rcases accepted with same | same <;> cases same

theorem getBudgetRequest_eq_some {idempotencyKey digest : String} {prior : DemoBudgetRequest} :
    (getBudgetRequest tenant idempotencyKey digest).run s = (.ok (some prior), t) ↔
      sha256Text digest = true ∧ s.db.budgetRequests.get? (tenant, idempotencyKey) = some prior ∧
        prior.requestDigest = digest ∧ t = s := by
  simp only [getBudgetRequest, validateRequestDigest, findBudgetRequest, bind_eq_ok, ensure_eq_ok, transaction_eq_ok,
    query_eq_ok]
  constructor
  · rintro ⟨_, _, ⟨hashed, rfl⟩, found, _, ⟨looked, rfl⟩, ran⟩
    cases found with
    | none =>
      simp only [budgetEntriesFor, bind_eq_ok, query_eq_ok, ensure_eq_ok, pure_eq_ok] at ran
      obtain ⟨_, _, -, _, _, -, none_eq, -⟩ := ran
      cases none_eq
    | some request =>
      simp only [bind_eq_ok, ensure_eq_ok, pure_eq_ok] at ran
      obtain ⟨_, _, ⟨same, rfl⟩, some_eq, rfl⟩ := ran
      cases some_eq
      exact ⟨hashed, looked, same, rfl⟩
  · rintro ⟨hashed, found, same, rfl⟩
    refine ⟨(), _, ⟨hashed, rfl⟩, _, _, ⟨found, rfl⟩, ?_⟩
    simp [same]

theorem getBudgetRequest_eq_none {idempotencyKey digest : String} :
    (getBudgetRequest tenant idempotencyKey digest).run s = (.ok none, t) ↔
      sha256Text digest = true ∧ s.db.budgetRequests.get? (tenant, idempotencyKey) = none ∧
        (∀ entry ∈ tenantEntries s.db tenant, entry.idempotencyKey ≠ idempotencyKey) ∧ t = s := by
  simp only [getBudgetRequest, validateRequestDigest, findBudgetRequest, bind_eq_ok, ensure_eq_ok, transaction_eq_ok,
    query_eq_ok]
  constructor
  · rintro ⟨_, _, ⟨hashed, rfl⟩, found, _, ⟨looked, rfl⟩, ran⟩
    cases found with
    | none =>
      simp only [budgetEntriesFor, bind_eq_ok, query_eq_ok, ensure_eq_ok, pure_eq_ok] at ran
      obtain ⟨_, _, ⟨rfl, rfl⟩, _, _, ⟨fresh, rfl⟩, -, rfl⟩ := ran
      exact ⟨hashed, looked, fresh, rfl⟩
    | some request =>
      simp only [bind_eq_ok, ensure_eq_ok, pure_eq_ok] at ran
      obtain ⟨_, _, -, some_eq, -⟩ := ran
      cases some_eq
  · rintro ⟨hashed, found, fresh, rfl⟩
    refine ⟨(), _, ⟨hashed, rfl⟩, _, _, ⟨found, rfl⟩, ?_⟩
    simp only [budgetEntriesFor, bind_eq_ok, query_eq_ok, ensure_eq_ok, pure_eq_ok]
    exact ⟨_, _, ⟨rfl, rfl⟩, (), _, ⟨fresh, rfl⟩, trivial, rfl⟩

theorem saveBudgetRequest_eq_ok {value result : DemoBudgetRequest}
    (fresh : s.db.budgetRequests.get? (value.tenantId, value.idempotencyKey) = none) :
    (saveBudgetRequest value).run s = (.ok result, t) ↔
      sha256Text value.requestDigest = true ∧ (∃ run, s.db.agentRuns.get? (value.tenantId, value.runId) = some run) ∧
        result = value ∧ t = { s with db := { s.db with budgetRequests := s.db.budgetRequests.put value } } := by
  simp only [saveBudgetRequest, validateRequestDigest, findBudgetRequest, bind_eq_ok, ensure_eq_ok, transaction_eq_ok,
    query_eq_ok]
  constructor
  · rintro ⟨_, _, ⟨hashed, rfl⟩, found, _, ⟨looked, rfl⟩, ran⟩
    rw [fresh] at looked
    subst looked
    simp only [getAgentRun, bind_eq_ok, query_eq_ok, fetch_eq_ok, write_eq_ok, pure_eq_ok] at ran
    obtain ⟨run, _, ⟨_, _, ⟨rfl, rfl⟩, there, rfl⟩, _, _, rfl, rfl, rfl⟩ := ran
    exact ⟨hashed, ⟨run, there⟩, rfl, rfl⟩
  · rintro ⟨hashed, ⟨run, there⟩, rfl, rfl⟩
    refine ⟨(), _, ⟨hashed, rfl⟩, none, _, ⟨fresh, rfl⟩, ?_⟩
    simp only [getAgentRun, bind_eq_ok, query_eq_ok, fetch_eq_ok, write_eq_ok, pure_eq_ok]
    exact ⟨run, _, ⟨_, _, ⟨rfl, rfl⟩, there, rfl⟩, (), _, rfl, trivial, rfl⟩

theorem entryForKey_eq_ok {idempotencyKey : String} {found : Option DemoBudgetLedgerEntry} :
    (entryForKey tenant idempotencyKey).run s = (.ok found, t) ↔
      (tenantEntries s.db tenant).find? (fun entry => entry.idempotencyKey = idempotencyKey) = found ∧ t = s := by
  simp only [entryForKey, budgetEntriesFor, bind_eq_ok, query_eq_ok, pure_eq_ok]
  constructor
  · rintro ⟨_, _, ⟨rfl, rfl⟩, rfl, rfl⟩
    exact ⟨rfl, rfl⟩
  · rintro ⟨rfl, rfl⟩
    exact ⟨_, _, ⟨rfl, rfl⟩, rfl, rfl⟩

/-- Under a key the ledger does not have, a reservation is a check of the cap and an entry. -/
theorem reserveBudgetEntry_eq_ok {value result : DemoBudgetLedgerEntry}
    (fresh : ∀ entry ∈ tenantEntries s.db value.tenantId, entry.idempotencyKey ≠ value.idempotencyKey) :
    (reserveBudgetEntry value).run s = (.ok result, t) ↔
      (0 ≤ value.amountMinor ∧ value.amountMinor < platformHardCapMinor) ∧
        reserved s.db value.occurredAt.utcMonth + value.amountMinor < platformHardCapMinor ∧ result = value ∧
        t = { s with db := { s.db with budgetLedger := s.db.budgetLedger.put value } } := by
  have unknown : (tenantEntries s.db value.tenantId).find?
      (fun entry => entry.idempotencyKey = value.idempotencyKey) = none := by
    simpa using fresh
  simp only [reserveBudgetEntry, validateLedgerAmount, bind_eq_ok, ensure_eq_ok, transaction_eq_ok, entryForKey_eq_ok]
  constructor
  · rintro ⟨_, _, ⟨amount, rfl⟩, found, _, ⟨looked, rfl⟩, ran⟩
    rw [unknown] at looked
    subst looked
    simp only [platformMonthlyBudgetTotal, allBudgetEntries, saveBudgetEntry, validateLedgerAmount, bind_eq_ok,
      query_eq_ok, pure_eq_ok, ensure_eq_ok, entryForKey_eq_ok] at ran
    obtain ⟨_, _, ⟨_, _, ⟨rfl, rfl⟩, rfl, rfl⟩, _, _, ⟨below, rfl⟩, _, _, ⟨-, rfl⟩, found, _, ⟨looked, rfl⟩, ran⟩ := ran
    rw [unknown] at looked
    subst looked
    simp only [bind_eq_ok, write_eq_ok, pure_eq_ok] at ran
    obtain ⟨_, _, rfl, rfl, rfl⟩ := ran
    exact ⟨amount, below, rfl, rfl⟩
  · rintro ⟨amount, below, rfl, rfl⟩
    refine ⟨(), _, ⟨amount, rfl⟩, none, _, ⟨unknown, rfl⟩, ?_⟩
    simp only [platformMonthlyBudgetTotal, allBudgetEntries, saveBudgetEntry, validateLedgerAmount, bind_eq_ok,
      query_eq_ok, pure_eq_ok, ensure_eq_ok, entryForKey_eq_ok]
    refine ⟨_, _, ⟨_, _, ⟨rfl, rfl⟩, rfl, rfl⟩, (), _, ⟨below, rfl⟩, (), _, ⟨amount, rfl⟩, none, _, ⟨unknown, rfl⟩, ?_⟩
    simp only [bind_eq_ok, write_eq_ok, pure_eq_ok]
    exact ⟨(), _, rfl, trivial, rfl⟩

/-! ## A new request -/

/-- The ledger entry of a run. -/
def entryOf (run : DemoAgentRun) (idempotencyKey : String) (id : Uuid) : DemoBudgetLedgerEntry where
  id := id
  tenantId := run.tenantId
  runId := run.id
  amountMinor := run.estimatedCostMinor
  occurredAt := run.createdAt
  idempotencyKey := idempotencyKey

theorem chargeRun_eq_ok {run : DemoAgentRun} {idempotencyKey : String} {u : Unit}
    (fresh : ∀ entry ∈ tenantEntries s.db run.tenantId, entry.idempotencyKey ≠ idempotencyKey) :
    (chargeRun run idempotencyKey).run s = (.ok u, t) ↔
      (run.outcome.Accepted ∧ (0 ≤ run.estimatedCostMinor ∧ run.estimatedCostMinor < platformHardCapMinor) ∧
        reserved s.db run.createdAt.utcMonth + run.estimatedCostMinor < platformHardCapMinor ∧
        t = ⟨{ s.db with budgetLedger := s.db.budgetLedger.put (entryOf run idempotencyKey s.uuids) }, s.reads,
          s.uuids + 1⟩) ∨
      ¬ run.outcome.Accepted ∧ t = s := by
  unfold chargeRun
  split
  · next accepted =>
    simp only [bind_eq_ok, freshUuid_eq_ok, pure_eq_ok, accepted, not_true, false_and, or_false, true_and]
    constructor
    · rintro ⟨_, _, ⟨rfl, rfl⟩, result, _, filed, rfl⟩
      obtain ⟨amount, below, -, rfl⟩ := (reserveBudgetEntry_eq_ok fresh).mp filed
      exact ⟨amount, below, rfl⟩
    · rintro ⟨amount, below, rfl⟩
      refine ⟨_, _, ⟨rfl, rfl⟩, entryOf run idempotencyKey s.uuids, _, ?_, rfl⟩
      exact (reserveBudgetEntry_eq_ok fresh).mpr ⟨amount, below, rfl, rfl⟩
  · next blocked =>
    refine (pure_eq_ok _ _ _ _).trans ?_
    simp [blocked]

/-- The row that answers a key from now on. -/
def requestOf (run : DemoAgentRun) (idempotencyKey requestDigest : String) : DemoBudgetRequest where
  tenantId := run.tenantId
  idempotencyKey := idempotencyKey
  requestDigest := requestDigest
  runId := run.id
  outcome := run.outcome
  createdAt := run.createdAt

/-- What a new request writes. -/
structure Filed (s : Session Store) (tenant : Uuid) (request : AgentRunRequest) (run : DemoAgentRun)
    (t : Session Store) : Prop where
  policy : ∃ policy, s.db.budgetPolicies.get? tenant = some policy ∧
    run.outcome = decided s.db tenant policy request run.createdAt
  unanswered : s.db.budgetRequests.get? (tenant, request.idempotencyKey) = none
  named : run.tenantId = tenant ∧ run.id = s.uuids
  cost : run.estimatedCostMinor = request.estimatedCostMinor
  charged : run.chargedCostMinor = if run.outcome.Accepted then some run.estimatedCostMinor else none
  runs : t.db.agentRuns = s.db.agentRuns.put run
  requests : ∃ digest, t.db.budgetRequests = s.db.budgetRequests.put (requestOf run request.idempotencyKey digest)
  ledger : (run.outcome.Accepted ∧ 0 ≤ run.estimatedCostMinor ∧
      t.db.budgetLedger = s.db.budgetLedger.put (entryOf run request.idempotencyKey (s.uuids + 1))) ∨
    ¬ run.outcome.Accepted ∧ t.db.budgetLedger = s.db.budgetLedger
  uuids : s.uuids + 1 < t.uuids

theorem fileRun_ok {context : TenantContext} {request : AgentRunRequest} {inputDigest requestDigest : String}
    {decision : Value} {run : DemoAgentRun}
    (unanswered : s.db.budgetRequests.get? (context.tenantId, request.idempotencyKey) = none)
    (unbooked : ∀ entry ∈ tenantEntries s.db context.tenantId, entry.idempotencyKey ≠ request.idempotencyKey)
    (ran : (fileRun env context request inputDigest requestDigest decision now).run s = (.ok run, t)) :
    Filed s context.tenantId request run t := by
  simp only [fileRun, bind_eq_ok, decideRun_eq_ok, freshUuid_eq_ok, saveAgentRun, write_eq_ok, auditBy_eq_ok,
    pure_eq_ok] at ran
  obtain ⟨outcome, _, ⟨⟨policy, found, -, -, decision_eq⟩, rfl⟩, _, _, ⟨rfl, rfl⟩, _, _, rfl, _, filed, requested, _,
    booked, charged, _, _, rfl, rfl, rfl⟩ := ran
  obtain ⟨-, -, -, rfl⟩ := (saveBudgetRequest_eq_ok unanswered).mp requested
  rcases (chargeRun_eq_ok unbooked).mp charged with ⟨accepted, ⟨nonneg, -⟩, -, rfl⟩ | ⟨blocked, rfl⟩
  · exact ⟨⟨policy, found, decision_eq⟩, unanswered, ⟨rfl, rfl⟩, rfl, rfl, rfl, ⟨requestDigest, rfl⟩,
      .inl ⟨accepted, nonneg, rfl⟩, by simp only []; omega⟩
  · exact ⟨⟨policy, found, decision_eq⟩, unanswered, ⟨rfl, rfl⟩, rfl, rfl, rfl, ⟨requestDigest, rfl⟩,
      .inr ⟨blocked, rfl⟩, by simp only []; omega⟩

/-- A request that passes every check before the reservation is filed: what the check accepted, the ledger takes. -/
theorem fileRun_returns {context : TenantContext} {request : AgentRunRequest} {inputDigest requestDigest : String}
    (decision : Value) {policy : DemoBudgetPolicy}
    (unanswered : s.db.budgetRequests.get? (context.tenantId, request.idempotencyKey) = none)
    (unbooked : ∀ entry ∈ tenantEntries s.db context.tenantId, entry.idempotencyKey ≠ request.idempotencyKey)
    (found : s.db.budgetPolicies.get? context.tenantId = some policy) (version : policy.version = request.policyVersion)
    (calls : request.toolCalls ≤ policy.maxToolCalls) (hashed : sha256Text requestDigest = true)
    (nonneg : 0 ≤ request.estimatedCostMinor) :
    ∃ run t, (fileRun env context request inputDigest requestDigest decision now).run s = (.ok run, t) ∧
      run.outcome = decided s.db context.tenantId policy request now := by
  let outcome := decided s.db context.tenantId policy request now
  let run := newRun context.tenantId request inputDigest decision now s.uuids outcome
  let filed : Session Store := ⟨{ s.db with
    agentRuns := s.db.agentRuns.put run
    budgetRequests := s.db.budgetRequests.put (requestOf run request.idempotencyKey requestDigest) }, s.reads, s.uuids + 1⟩
  have requested : (saveBudgetRequest (requestOf run request.idempotencyKey requestDigest)).run
      ⟨{ s.db with agentRuns := s.db.agentRuns.put run }, s.reads, s.uuids + 1⟩ = (.ok _, filed) :=
    (saveBudgetRequest_eq_ok unanswered).mpr ⟨hashed, ⟨run, Table.get?_put_self s.db.agentRuns run⟩, rfl, rfl⟩
  have charged : ∃ t, (chargeRun run request.idempotencyKey).run filed = (.ok (), t) := by
    by_cases accepted : outcome.Accepted
    · obtain ⟨-, below, reserved_nonneg⟩ := decided_accepted accepted
      refine ⟨_, (chargeRun_eq_ok unbooked).mpr (.inl ⟨accepted, ⟨nonneg, ?_⟩, below, rfl⟩)⟩
      change request.estimatedCostMinor < _
      omega
    · exact ⟨_, (chargeRun_eq_ok unbooked).mpr (.inr ⟨accepted, rfl⟩)⟩
  obtain ⟨booked, charged⟩ := charged
  have audited : ∃ t, (auditBy env context "agent.run_recorded" run.id (if outcome.Accepted then "accepted" else "blocked")
      [("outcome", .text outcome.value), ("cost_minor", .int request.estimatedCostMinor)]).run booked = (.ok (), t) :=
    ⟨_, auditBy_eq_ok.mpr rfl⟩
  obtain ⟨last, audited⟩ := audited
  refine ⟨run, last, ?_, rfl⟩
  simp only [fileRun, bind_eq_ok, decideRun_eq_ok, freshUuid_eq_ok, saveAgentRun, write_eq_ok, pure_eq_ok]
  exact ⟨outcome, _, ⟨⟨policy, found, version, calls, rfl⟩, rfl⟩, _, _, ⟨rfl, rfl⟩, (), _, rfl, _, _, requested, (), _,
    charged, (), _, audited, rfl, rfl⟩

/-! ## Calls -/

/-- A request, or any operation that leaves the runs, the requests and the ledger alone. -/
inductive BudgetCall where
  | record (context : TenantContext) (request : AgentRunRequest)
  | elsewhere (operation : Op Unit) (keeps : Keeps budgetTables operation)

namespace Budget

def perform (env : Env) : BudgetCall → Op (Option DemoAgentRun)
  | .record context request => do
      let run ← recordDemoAgentRun env context request
      pure (some run)
  | .elsewhere operation _ => do
      operation
      pure none

def step (env : Env) (call : BudgetCall) (s : Session Store) : Except Failure (Option DemoAgentRun) × Session Store :=
  (perform env call).run s

end Budget

/-- Every check of a request that stands before its reservation. -/
structure Admissible (env : Env) (s : Session Store) (context : TenantContext) (request : AgentRunRequest) : Prop where
  authorized : Authorized s.db context .tenantAdmin
  named : opaqueText request.agentId = true ∧ opaqueText request.model = true ∧
    opaqueText request.promptVersion = true ∧ opaqueText request.idempotencyKey = true
  valid : ¬ blank request.goal ∧ 1 ≤ request.policyVersion ∧ 0 ≤ request.toolCalls ∧ 0 ≤ request.estimatedCostMinor ∧
    request.estimatedCostMinor ≤ 2 ^ 63 - 1 ∧ request.confidence ∈ ["low", "medium", "high"] ∧
    request.workKind ∈ ["optional", "growth"]
  input : Encodable env request.input "input"
  decision : Encodable env (.dict request.decision) "decision"
  material : Encodable env (requestMaterial request (sorted request.input) (sorted (.dict request.decision))) "input"
  hashed : sha256Text (env.digest (sorted (requestMaterial request (sorted request.input)
    (sorted (.dict request.decision))))) = true
  unanswered : s.db.budgetRequests.get? (context.tenantId, request.idempotencyKey) = none
  unbooked : ∀ entry ∈ tenantEntries s.db context.tenantId, entry.idempotencyKey ≠ request.idempotencyKey
  policy : ∃ policy, s.db.budgetPolicies.get? context.tenantId = some policy ∧
    policy.version = request.policyVersion ∧ request.toolCalls ≤ policy.maxToolCalls

/-- The transaction of a call, behind the checks that only read. -/
theorem record_answer {context : TenantContext} {request : AgentRunRequest} {run : DemoAgentRun}
    (ran : (recordDemoAgentRun env context request).run s = (.ok run, t)) :
    ∃ inputDigest requestDigest decision, (answerRun env context request inputDigest requestDigest decision
      (budgetTime (env.clock s.reads))).run { s with reads := s.reads + 1 } = (.ok run, t) := by
  simp only [recordDemoAgentRun, bind_eq_ok, require_eq_ok, opaqueName_eq_ok, ensure_eq_ok, encode_eq_ok,
    digestOf_eq_ok, now_eq_ok, exists_and_left, exists_eq_left, exists_const, and_assoc] at ran
  obtain ⟨-, -, -, -, -, -, -, -, -, -, -, -, -, -, -, -, ran⟩ := ran
  exact ⟨_, _, _, ran⟩

/-- A call replays an answered request, or files a new one. -/
theorem record_ok {context : TenantContext} {request : AgentRunRequest} {run : DemoAgentRun}
    (ran : (recordDemoAgentRun env context request).run s = (.ok run, t)) :
    (∃ prior, s.db.budgetRequests.get? (context.tenantId, request.idempotencyKey) = some prior ∧
      s.db.agentRuns.get? (context.tenantId, prior.runId) = some run ∧ t.db = s.db) ∨
    Filed { s with reads := s.reads + 1 } context.tenantId request run t := by
  obtain ⟨inputDigest, requestDigest, decision, answered⟩ := record_answer ran
  rw [answerRun, transaction_eq_ok, bind_eq_ok] at answered
  obtain ⟨prior, middle, looked, answered⟩ := answered
  cases prior with
  | some prior =>
    obtain ⟨-, found, -, rfl⟩ := getBudgetRequest_eq_some.mp looked
    simp only [getAgentRun, bind_eq_ok, query_eq_ok, fetch_eq_ok] at answered
    obtain ⟨_, _, ⟨rfl, rfl⟩, there, rfl⟩ := answered
    exact .inl ⟨prior, found, there, rfl⟩
  | none =>
    obtain ⟨-, unanswered, unbooked, rfl⟩ := getBudgetRequest_eq_none.mp looked
    exact .inr (fileRun_ok unanswered unbooked answered)

/-- A call that raises leaves the store alone. -/
theorem record_error {context : TenantContext} {request : AgentRunRequest} {why : Failure}
    (raised : (recordDemoAgentRun env context request).run s = (.error why, t)) : t.db = s.db := by
  have unwinds : Unwinds (fun db : Store => db) (recordDemoAgentRun env context request) := by
    refine .bind (keeps_require _) fun _ => .bind (keeps_ensure _ _) fun _ => .bind (keeps_ensure _ _) fun _ => ?_
    refine .bind (keeps_ensure _ _) fun _ => .bind (keeps_ensure _ _) fun _ => .bind (keeps_ensure _ _) fun _ => ?_
    refine .bind (keeps_encode _ _) fun _ => .bind (keeps_encode _ _) fun _ => .bind (keeps_digestOf _) fun _ => ?_
    exact .bind (keeps_digestOf _) fun _ => .bind keeps_now fun _ => unwinds_transaction _
  exact unwinds s why t raised

theorem record_returns {context : TenantContext} {request : AgentRunRequest}
    (admissible : Admissible env s context request) :
    ∃ run t, (recordDemoAgentRun env context request).run s = (.ok run, t) ∧
      ∃ policy, s.db.budgetPolicies.get? context.tenantId = some policy ∧
        run.outcome = decided s.db context.tenantId policy request (budgetTime (env.clock s.reads)) := by
  obtain ⟨policy, found, version, calls⟩ := admissible.policy
  obtain ⟨run, t, filed, outcome⟩ := @fileRun_returns env { s with reads := s.reads + 1 }
    (budgetTime (env.clock s.reads)) context request (env.digest (sorted request.input)) _ (sorted (.dict request.decision))
    policy admissible.unanswered admissible.unbooked found version calls admissible.hashed admissible.valid.2.2.2.1
  refine ⟨run, t, ?_, policy, found, outcome⟩
  obtain ⟨agent, model, prompt, key⟩ := admissible.named
  simp only [recordDemoAgentRun, bind_eq_ok, require_eq_ok, opaqueName_eq_ok, ensure_eq_ok, encode_eq_ok,
    digestOf_eq_ok, now_eq_ok, exists_and_left, exists_eq_left, exists_const, and_assoc]
  obtain ⟨goal, policy_version, tool_calls, nonneg, bounded, confidence, work⟩ := admissible.valid
  refine ⟨admissible.authorized, agent, model, prompt, key, goal, policy_version, tool_calls, nonneg, bounded, confidence,
    work, admissible.input, admissible.decision, admissible.input, admissible.material, ?_⟩
  rw [answerRun, transaction_eq_ok, bind_eq_ok]
  exact ⟨none, _, getBudgetRequest_eq_none.mpr ⟨admissible.hashed, admissible.unanswered, admissible.unbooked, rfl⟩, filed⟩

end AiStore.Gateway
