import AiStore.Execution.Fencing
import AiStore.Gateway.BudgetRuns

/-! The budget cap.

What one call adds to the runs, the requests and the ledger, the bookkeeping that
every call keeps, and the cap that follows for every run.
-/

set_option autoImplicit false

namespace AiStore.Gateway

open Library Library.Txn Failure Repository Service
open Execution (newSession)

variable {env : Env} {s t : Session Store}

/-- The entry charges the run. -/
def Books (entry : DemoBudgetLedgerEntry) (run : DemoAgentRun) : Prop :=
  entry.tenantId = run.tenantId ∧ entry.runId = run.id ∧ run.chargedCostMinor = some entry.amountMinor

structure Booked (s : Session Store) : Prop where
  run_ids : ∀ run ∈ s.db.agentRuns.rows, run.id < s.uuids
  entry_ids : ∀ entry ∈ s.db.budgetLedger.rows, entry.id < s.uuids
  charged : ∀ run ∈ s.db.agentRuns.rows,
    run.chargedCostMinor = if run.outcome.Accepted then some run.estimatedCostMinor else none
  entry_of_run : ∀ run ∈ s.db.agentRuns.rows, run.outcome.Accepted → ∃ entry ∈ s.db.budgetLedger.rows, Books entry run
  run_of_entry : ∀ entry ∈ s.db.budgetLedger.rows, ∃ run ∈ s.db.agentRuns.rows, run.outcome.Accepted ∧ Books entry run
  single : ∀ first ∈ s.db.budgetLedger.rows, ∀ second ∈ s.db.budgetLedger.rows,
    first.tenantId = second.tenantId → first.runId = second.runId → first = second
  capped : ∀ month, reserved s.db month < platformHardCapMinor

theorem booked_newSession : Booked newSession where
  run_ids _ member := absurd member List.not_mem_nil
  entry_ids _ member := absurd member List.not_mem_nil
  charged _ member := absurd member List.not_mem_nil
  entry_of_run _ member := absurd member List.not_mem_nil
  run_of_entry _ member := absurd member List.not_mem_nil
  single _ member := absurd member List.not_mem_nil
  capped _ := show (0 : Int) < 30000 by decide

/-- Identifiers and readings may be consumed, and everything else may change. -/
theorem Booked.of_tables (booked : Booked s) (same : budgetTables t.db = budgetTables s.db) (uuids : s.uuids ≤ t.uuids) :
    Booked t := by
  simp only [budgetTables, Prod.mk.injEq] at same
  obtain ⟨runs, -, ledger⟩ := same
  obtain ⟨run_ids, entry_ids, charged, entry_of_run, run_of_entry, single, capped⟩ := booked
  refine ⟨?_, ?_, ?_, ?_, ?_, ?_, ?_⟩
  · intro run member
    exact Nat.lt_of_lt_of_le (run_ids run (runs ▸ member)) uuids
  · intro entry member
    exact Nat.lt_of_lt_of_le (entry_ids entry (ledger ▸ member)) uuids
  · rw [runs]
    exact charged
  · rw [runs, ledger]
    exact entry_of_run
  · rw [runs, ledger]
    exact run_of_entry
  · rw [ledger]
    exact single
  · intro month
    rw [reserved, ledger]
    exact capped month

/-! ## Filing -/

section

variable {tenant : Uuid} {request : AgentRunRequest} {run : DemoAgentRun}

theorem Filed.run_fresh (filed : Filed s tenant request run t) (booked : Booked s) :
    s.db.agentRuns.get? run.key = none := by
  rw [Table.get?_eq_none]
  intro other member same
  have named : other.id = s.uuids := (congrArg Prod.snd same).trans filed.named.2
  exact Nat.lt_irrefl _ (named ▸ booked.run_ids other member)

theorem entry_fresh (booked : Booked s) {entry : DemoBudgetLedgerEntry} (later : s.uuids ≤ entry.id) :
    s.db.budgetLedger.get? entry.key = none := by
  rw [Table.get?_eq_none]
  intro other member same
  have named : other.id = entry.id := congrArg Prod.snd same
  exact Nat.lt_irrefl _ (Nat.lt_of_lt_of_le (named ▸ booked.entry_ids other member) later)

/-- What the ledger reserves once an entry is added to it. -/
theorem reserved_put {store after : Store} {entry : DemoBudgetLedgerEntry}
    (fresh : store.budgetLedger.get? entry.key = none) (written : after.budgetLedger = store.budgetLedger.put entry)
    (month : Int × Int) :
    reserved after month = reserved store month + total (ofMonth month [entry]) := by
  rw [reserved, written, Table.rows_put_of_fresh _ fresh, ofMonth_append, total_append, reserved]

/-- An accepted run keeps every month below the cap: its own by the check, the others as they were. -/
theorem Filed.capped (filed : Filed s tenant request run t) (booked : Booked s) (month : Int × Int) :
    reserved t.db month < platformHardCapMinor := by
  rcases filed.ledger with ⟨accepted, nonneg, written⟩ | ⟨blocked, same⟩
  · obtain ⟨policy, -, outcome⟩ := filed.policy
    rw [outcome] at accepted
    obtain ⟨-, below, -⟩ := decided_accepted accepted
    rw [reserved_put (entry_fresh booked (Nat.le_succ _)) written]
    by_cases here : run.createdAt.utcMonth = month
    · subst here
      have amount : total (ofMonth run.createdAt.utcMonth [entryOf run request.idempotencyKey (s.uuids + 1)]) =
          run.estimatedCostMinor := by
        simp [ofMonth, total, entryOf, budgetTime, Timestamp.utcMonth, Timestamp.utcDay]
      rw [amount, filed.cost]
      exact below
    · have apart : ofMonth month [entryOf run request.idempotencyKey (s.uuids + 1)] = [] := by
        have elsewhere : ¬ (budgetTime run.createdAt).utcMonth = month := here
        simp [ofMonth, entryOf, elsewhere]
      rw [apart]
      simpa [total] using booked.capped month
  · rw [reserved, same]
    exact booked.capped month

/-- A filed run keeps the books. -/
theorem Filed.booked (filed : Filed s tenant request run t) (booked : Booked s) : Booked t := by
  have uuids := filed.uuids
  have fresh := filed.run_fresh booked
  have new_id := filed.named.2
  have runs : ∀ other, other ∈ t.db.agentRuns.rows ↔ other = run ∨ other ∈ s.db.agentRuns.rows := by
    intro other
    rw [filed.runs, Table.rows_put_of_fresh _ fresh, List.mem_append, List.mem_singleton, or_comm]
  have entries : ∀ entry, entry ∈ t.db.budgetLedger.rows ↔
      (run.outcome.Accepted ∧ entry = entryOf run request.idempotencyKey (s.uuids + 1)) ∨
        entry ∈ s.db.budgetLedger.rows := by
    intro entry
    rcases filed.ledger with ⟨accepted, -, written⟩ | ⟨blocked, same⟩
    · rw [written, Table.rows_put_of_fresh _ (entry_fresh booked (Nat.le_succ _)), List.mem_append, List.mem_singleton,
        or_comm]
      simp [accepted]
    · rw [same]
      simp [blocked]
  -- the new entry is the only one of the new run, whose identifier no older row can carry
  have apart : ∀ entry ∈ s.db.budgetLedger.rows, entry.runId ≠ run.id := by
    intro entry member same
    obtain ⟨other, other_member, -, -, named, -⟩ := booked.run_of_entry entry member
    have equal : other.id = s.uuids := named.symm.trans (same.trans new_id)
    exact Nat.lt_irrefl _ (equal ▸ booked.run_ids other other_member)
  have books : run.outcome.Accepted → Books (entryOf run request.idempotencyKey (s.uuids + 1)) run := by
    intro accepted
    refine ⟨rfl, rfl, ?_⟩
    rw [filed.charged, if_pos accepted]
    rfl
  refine ⟨?_, ?_, ?_, ?_, ?_, ?_, filed.capped booked⟩
  · intro other member
    rcases (runs other).mp member with rfl | old
    · rw [new_id]
      exact Nat.lt_of_succ_lt uuids
    · exact Nat.lt_trans (booked.run_ids other old) (Nat.lt_of_succ_lt uuids)
  · intro entry member
    rcases (entries entry).mp member with ⟨-, rfl⟩ | old
    · exact uuids
    · exact Nat.lt_trans (booked.entry_ids entry old) (Nat.lt_of_succ_lt uuids)
  · intro other member
    rcases (runs other).mp member with rfl | old
    · exact filed.charged
    · exact booked.charged other old
  · intro other member accepted
    rcases (runs other).mp member with rfl | old
    · exact ⟨_, (entries _).mpr (.inl ⟨accepted, rfl⟩), books accepted⟩
    · obtain ⟨entry, there, booked_by⟩ := booked.entry_of_run other old accepted
      exact ⟨entry, (entries entry).mpr (.inr there), booked_by⟩
  · intro entry member
    rcases (entries entry).mp member with ⟨accepted, rfl⟩ | old
    · exact ⟨run, (runs run).mpr (.inl rfl), accepted, books accepted⟩
    · obtain ⟨other, there, accepted, booked_by⟩ := booked.run_of_entry entry old
      exact ⟨other, (runs other).mpr (.inr there), accepted, booked_by⟩
  · intro first first_member second second_member tenant_same run_same
    rcases (entries first).mp first_member with ⟨-, rfl⟩ | first_old <;>
      rcases (entries second).mp second_member with ⟨-, rfl⟩ | second_old
    · rfl
    · exact absurd run_same.symm (apart second second_old)
    · exact absurd run_same (apart first first_old)
    · exact booked.single first first_old second second_old tenant_same run_same

end

/-! ## Steps -/

/-- A call leaves the books alone, or files the run it returns. -/
theorem step_books (env : Env) (call : BudgetCall) (s : Session Store) :
    (budgetTables (Budget.step env call s).2.db = budgetTables s.db ∧ s.uuids ≤ (Budget.step env call s).2.uuids) ∨
      ∃ context request run, call = .record context request ∧ (Budget.step env call s).1 = .ok (some run) ∧
        Filed { s with reads := s.reads + 1 } context.tenantId request run (Budget.step env call s).2 := by
  have later := ((Budget.perform env call).advances s).2
  cases call with
  | record context request =>
    simp only [Budget.step, Budget.perform, run_bind] at later ⊢
    rcases ran : (recordDemoAgentRun env context request).run s with ⟨why | run, t⟩
    · rw [ran] at later
      exact .inl ⟨congrArg budgetTables (record_error ran), later⟩
    · rw [ran] at later
      rcases record_ok ran with ⟨-, -, -, same⟩ | filed
      · exact .inl ⟨congrArg budgetTables same, later⟩
      · exact .inr ⟨context, request, run, rfl, rfl, filed⟩
  | elsewhere operation keeps =>
    have framed : Keeps budgetTables (Budget.perform env (.elsewhere operation keeps)) :=
      keeps.bind fun _ => keeps_pure _
    exact .inl ⟨framed s, later⟩

theorem step_booked (booked : Booked s) (call : BudgetCall) : Booked (Budget.step env call s).2 := by
  rcases step_books env call s with ⟨same, uuids⟩ | ⟨context, request, run, -, -, filed⟩
  · exact booked.of_tables same uuids
  · exact filed.booked (booked.of_tables rfl (Nat.le_refl _))

theorem run_booked (calls : List BudgetCall) : Booked (final (Budget.step env) newSession calls) :=
  final_invariant Booked booked_newSession fun call _ _ booked => step_booked booked call

/-- No answered request and no run is lost or changed. -/
structure Extends (before after : Store) : Prop where
  requests : ∀ key row, before.budgetRequests.get? key = some row → after.budgetRequests.get? key = some row
  runs : ∀ key row, before.agentRuns.get? key = some row → after.agentRuns.get? key = some row

theorem step_extends (booked : Booked s) (call : BudgetCall) : Extends s.db (Budget.step env call s).2.db := by
  rcases step_books env call s with ⟨same, -⟩ | ⟨context, request, run, -, -, filed⟩
  · simp only [budgetTables, Prod.mk.injEq] at same
    obtain ⟨runs, requests, -⟩ := same
    refine ⟨fun key row found => ?_, fun key row found => ?_⟩
    · rw [requests]
      exact found
    · rw [runs]
      exact found
  · have fresh := filed.run_fresh (booked.of_tables rfl (Nat.le_refl _))
    obtain ⟨digest, requests⟩ := filed.requests
    refine ⟨fun key row found => ?_, fun key row found => ?_⟩
    · rw [requests, Table.get?_put_of_ne _ fun same => ?_]
      · exact found
      · have unanswered := filed.unanswered
        rw [← filed.named.1] at unanswered
        rw [← same] at found
        cases unanswered.symm.trans found
    · rw [filed.runs, Table.get?_put_of_ne _ fun same => ?_]
      · exact found
      · rw [← same] at found
        cases fresh.symm.trans found

theorem run_extends (booked : Booked s) (calls : List BudgetCall) :
    Extends s.db (final (Budget.step env) s calls).db := by
  induction calls generalizing s with
  | nil => exact ⟨fun _ _ found => found, fun _ _ found => found⟩
  | cons call rest ih =>
    have first : Extends s.db (Budget.step env call s).2.db := step_extends booked call
    have kept : Booked (Budget.step env call s).2 := step_booked booked call
    have later := ih kept
    exact ⟨fun key row found => later.requests key row (first.requests key row found),
      fun key row found => later.runs key row (first.runs key row found)⟩

/-- An answered request is what a call under its key returns, and all it does. -/
theorem record_answered {context : TenantContext} {request : AgentRunRequest} {prior : DemoBudgetRequest}
    {run : DemoAgentRun} (answered : s.db.budgetRequests.get? (context.tenantId, request.idempotencyKey) = some prior)
    (there : s.db.agentRuns.get? (context.tenantId, prior.runId) = some run) :
    (Budget.step env (.record context request) s).2.db = s.db ∧
      ∀ other, (Budget.step env (.record context request) s).1 = .ok (some other) → other = run := by
  simp only [Budget.step, Budget.perform, run_bind]
  rcases ran : (recordDemoAgentRun env context request).run s with ⟨why | result, t⟩
  · refine ⟨record_error ran, fun other equal => ?_⟩
    cases equal
  · rcases record_ok ran with ⟨row, found, run_there, same⟩ | filed
    · refine ⟨same, fun other equal => ?_⟩
      cases equal
      cases Option.some.inj (answered.symm.trans found)
      exact Option.some.inj (run_there.symm.trans there)
    · cases filed.unanswered.symm.trans answered

/-- The key of a call that returned is answered from then on, whether the call filed its run or replayed it. -/
theorem record_answers {context : TenantContext} {request : AgentRunRequest} {run : DemoAgentRun}
    (returned : (Budget.step env (.record context request) s).1 = .ok (some run)) :
    ∃ prior, (Budget.step env (.record context request) s).2.db.budgetRequests.get?
        (context.tenantId, request.idempotencyKey) = some prior ∧
      (Budget.step env (.record context request) s).2.db.agentRuns.get? (context.tenantId, prior.runId) = some run := by
  simp only [Budget.step, Budget.perform, run_bind] at returned ⊢
  rcases ran : (recordDemoAgentRun env context request).run s with ⟨why | result, t⟩
  · rw [ran] at returned
    cases returned
  · rw [ran] at returned
    cases returned
    rcases record_ok ran with ⟨prior, found, there, same⟩ | filed
    · refine ⟨prior, ?_, ?_⟩
      · rw [← same] at found
        exact found
      · rw [← same] at there
        exact there
    · obtain ⟨digest, requests⟩ := filed.requests
      refine ⟨requestOf run request.idempotencyKey digest, ?_, ?_⟩
      · have written := Table.get?_put_self s.db.budgetRequests (requestOf run request.idempotencyKey digest)
        rw [← filed.named.1]
        exact requests ▸ written
      · have written := Table.get?_put_self s.db.agentRuns run
        rw [← filed.named.1]
        exact filed.runs ▸ written

/-! ## The cap -/

/-- The run fits its tenant's daily and monthly limits, its own charge included. -/
structure WithinLimits (policies : Table DemoBudgetPolicy.tenantId) (after : Store) (run : DemoAgentRun) : Prop where
  limits : ∃ policy, policies.get? run.tenantId = some policy ∧
    total (ofDay run.createdAt (tenantEntries after run.tenantId)) ≤ policy.dailyLimitMinor ∧
    total (ofMonth run.createdAt.utcMonth (tenantEntries after run.tenantId)) ≤ policy.monthlyLimitMinor

theorem Filed.withinLimits {tenant : Uuid} {request : AgentRunRequest} {run : DemoAgentRun}
    (filed : Filed s tenant request run t) (booked : Booked s) (accepted : run.outcome.Accepted) :
    WithinLimits s.db.budgetPolicies t.db run := by
  obtain ⟨policy, found, outcome⟩ := filed.policy
  rcases filed.ledger with ⟨-, -, written⟩ | ⟨blocked, -⟩
  · have fits := accepted
    rw [outcome] at fits
    obtain ⟨⟨daily, monthly, -, -⟩, -, -⟩ := decided_accepted fits
    rw [← filed.named.1] at found daily monthly
    have entries : tenantEntries t.db run.tenantId =
        tenantEntries s.db run.tenantId ++ [entryOf run request.idempotencyKey (s.uuids + 1)] := by
      rw [tenantEntries, written, Table.rows_put_of_fresh _ (entry_fresh booked (Nat.le_succ _)), List.filter_append,
        tenantEntries]
      simp [entryOf]
    refine ⟨policy, found, ?_, ?_⟩
    · rw [entries, ofDay_append, total_append]
      have amount : total (ofDay run.createdAt [entryOf run request.idempotencyKey (s.uuids + 1)]) =
          run.estimatedCostMinor := by
        simp [ofDay, total, entryOf, budgetTime, Timestamp.utcDay]
      rw [amount, filed.cost]
      exact daily
    · rw [entries, ofMonth_append, total_append]
      have amount : total (ofMonth run.createdAt.utcMonth [entryOf run request.idempotencyKey (s.uuids + 1)]) =
          run.estimatedCostMinor := by
        simp [ofMonth, total, entryOf, budgetTime, Timestamp.utcMonth, Timestamp.utcDay]
      rw [amount, filed.cost]
      exact monthly
  · exact absurd accepted blocked

/-- In every run from a new repository the platform stays below its cap in every month, an
accepted run fits its tenant's limits, entries and accepted runs correspond, an answered key
adds nothing, and a request that passes the checks is never refused by its reservation. -/
theorem budget_capped (env : Env) (calls : List BudgetCall) :
    let reached := final (Budget.step env) newSession
    let store := (reached calls).db
    (∀ month, reserved store month < platformHardCapMinor) ∧
    (∀ before call after, calls = before ++ call :: after → ∀ run ∈ (reached (before ++ [call])).db.agentRuns.rows,
      run ∉ (reached before).db.agentRuns.rows → run.outcome.Accepted →
        WithinLimits (reached before).db.budgetPolicies (reached (before ++ [call])).db run) ∧
    (∀ run ∈ store.agentRuns.rows, run.outcome.Accepted →
      ∃ entry ∈ store.budgetLedger.rows, Books entry run ∧ ∀ other ∈ store.budgetLedger.rows,
        other.tenantId = run.tenantId → other.runId = run.id → other = entry) ∧
    (∀ entry ∈ store.budgetLedger.rows,
      ∃ run ∈ store.agentRuns.rows, run.outcome.Accepted ∧ Books entry run) ∧
    (∀ run ∈ store.agentRuns.rows, ¬ run.outcome.Accepted → run.chargedCostMinor = none ∧
      ∀ entry ∈ store.budgetLedger.rows, ¬ (entry.tenantId = run.tenantId ∧ entry.runId = run.id)) ∧
    (∀ before context request after run, calls = before ++ .record context request :: after →
      (Budget.step env (.record context request) (reached before)).1 = .ok (some run) →
      ∀ member again, member.tenantId = context.tenantId → again.idempotencyKey = request.idempotencyKey →
        (Budget.step env (.record member again) (reached calls)).2.db = store ∧
        ∀ other, (Budget.step env (.record member again) (reached calls)).1 = .ok (some other) → other = run) ∧
    (∀ context request, Admissible env (reached calls) context request →
      ∃ run policy, (Budget.step env (.record context request) (reached calls)).1 = .ok (some run) ∧
        store.budgetPolicies.get? context.tenantId = some policy ∧ run.outcome =
          decided store context.tenantId policy request (budgetTime (env.clock (reached calls).reads))) := by
  have booked := @run_booked env calls
  refine ⟨booked.capped, ?_, ?_, booked.run_of_entry, ?_, ?_, ?_⟩
  · intro before call after _ run member fresh accepted
    have earlier := @run_booked env before
    simp only [final_concat] at member ⊢
    rcases step_books env call (final (Budget.step env) newSession before) with ⟨same, -⟩ | ⟨_, _, filed_run, -, -, filed⟩
    · simp only [budgetTables, Prod.mk.injEq] at same
      rw [same.1] at member
      exact absurd member fresh
    · rw [filed.runs, Table.rows_put_of_fresh _ (filed.run_fresh (earlier.of_tables rfl (Nat.le_refl _)))] at member
      rcases List.mem_append.mp member with old | new
      · exact absurd old fresh
      · cases List.mem_singleton.mp new
        exact filed.withinLimits (earlier.of_tables rfl (Nat.le_refl _)) accepted
  · intro run member accepted
    obtain ⟨entry, there, books⟩ := booked.entry_of_run run member accepted
    refine ⟨entry, there, books, fun other other_there tenant same => ?_⟩
    exact booked.single other other_there entry there (tenant.trans books.1.symm) (same.trans books.2.1.symm)
  · intro run member blocked
    refine ⟨(booked.charged run member).trans (if_neg blocked), fun entry there named => ?_⟩
    obtain ⟨other, other_member, accepted, tenant, same, -⟩ := booked.run_of_entry entry there
    -- the entry would be of an accepted run, under the name of the blocked one
    have equal : other.key = run.key := congrArg₂ Prod.mk (tenant.symm.trans named.1) (same.symm.trans named.2)
    exact blocked (Table.key_inj _ other_member member equal ▸ accepted)
  · rintro before context request after run rfl returned member again tenant key
    rw [final_split]
    -- what the first call has stored is still there when the request comes again
    have extended := @run_extends env _ (@run_booked env (before ++ [.record context request])) after
    rw [final_concat] at extended
    obtain ⟨prior, found, there⟩ := record_answers returned
    have still := extended.requests _ _ found
    rw [← tenant, ← key] at still
    refine record_answered (by rw [final_concat]; exact still) ?_
    rw [tenant, final_concat]
    exact extended.runs _ _ there
  · intro context request admissible
    obtain ⟨run, t, ran, policy, found, outcome⟩ := record_returns admissible
    refine ⟨run, policy, ?_, found, outcome⟩
    simp only [Budget.step, Budget.perform, run_bind, ran]
    rfl

/-! ## A replay -/

def budgetStore : Store where
  memberships := Table.empty.put { tenantId := 0, userId := 1, roles := [.master] }
  budgetPolicies := Table.empty.put {
    tenantId := 0, dailyLimitMinor := 20000, monthlyLimitMinor := 20000, generationLimit := 10, agentRunLimit := 10,
    maxTokens := 1, maxToolCalls := 1, modelTier := "economy" }

def budgetSeed : BudgetCall :=
  .elsewhere (Txn.write fun store => { budgetStore with
      agentRuns := store.agentRuns, budgetRequests := store.budgetRequests, budgetLedger := store.budgetLedger })
    (keeps_write fun _ => rfl)

def demoRequest (idempotencyKey : String) (cost : Int) : AgentRunRequest where
  agentId := "agent"
  goal := "restock"
  policyVersion := 1
  model := "model"
  promptVersion := "v1"
  input := .dict [("sku", .text "A")]
  decision := []
  confidence := "low"
  toolCalls := 0
  estimatedCostMinor := cost
  idempotencyKey := idempotencyKey

/-- The first charge leaves too little for the second, and its replay adds nothing. -/
theorem budget_capped_replay :
    ∃ run, (Budget.step Execution.demoEnv (.record Execution.demoMaster (demoRequest "first" 15000))
        (final (Budget.step Execution.demoEnv) newSession [budgetSeed])).1 = .ok (some run) ∧
      (Budget.step Execution.demoEnv (.record Execution.demoMaster (demoRequest "first" 15000))
        (final (Budget.step Execution.demoEnv) newSession
          [budgetSeed, .record Execution.demoMaster (demoRequest "first" 15000),
           .record Execution.demoMaster (demoRequest "second" 15000)])).2.db =
        (final (Budget.step Execution.demoEnv) newSession
          [budgetSeed, .record Execution.demoMaster (demoRequest "first" 15000),
           .record Execution.demoMaster (demoRequest "second" 15000)]).db := by
  have returned : ∃ run, (Budget.step Execution.demoEnv (.record Execution.demoMaster (demoRequest "first" 15000))
      (final (Budget.step Execution.demoEnv) newSession [budgetSeed])).1 = .ok (some run) := by
    refine ⟨_, rfl⟩
  obtain ⟨run, returned⟩ := returned
  refine ⟨run, returned, ?_⟩
  have replays := (budget_capped Execution.demoEnv [budgetSeed,
    .record Execution.demoMaster (demoRequest "first" 15000),
    .record Execution.demoMaster (demoRequest "second" 15000)]).2.2.2.2.2.1
  exact (replays [budgetSeed] _ _ _ run rfl returned _ (demoRequest "first" 15000) rfl rfl).1

end AiStore.Gateway
