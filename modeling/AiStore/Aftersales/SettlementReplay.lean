import AiStore.Aftersales.Reconciliation
import AiStore.Library.Runs

/-! Settlements that repeat an idempotency key. -/

set_option autoImplicit false

namespace AiStore.Aftersales

open Library (Json Session Table Txn final final_split)
open Library.Txn Failure Repository Service

variable {repository : SettlementRepository} {env : Env} {hash : String → String} {context : TenantContext}
variable {s t : Session Books} {channelId period idempotencyKey : String} {rows : List SettlementRow}

/-! ## Digests of rows -/

theorem exact_rows (rows : List SettlementRow) : Json.exact (.list (rows.map SettlementRow.asJson)) = true := by
  rw [Json.exact]
  induction rows with
  | nil => rfl
  | cons row rest ih =>
    rw [List.map_cons, Json.exactItems, ih]
    rfl

theorem asJson_inj {first second : SettlementRow} (same : Json.sortKeys first.asJson = Json.sortKeys second.asJson) :
    first = second := by
  have entries := Json.flat_of_sorted same rfl (by simp) rfl rfl
  simp only [List.cons.injEq, Prod.mk.injEq, Json.text.injEq, Json.int.injEq, true_and, and_true] at entries
  obtain ⟨external, kind, amount, currency, source⟩ := entries
  cases first
  cases second
  simp_all

theorem rows_of_sorted {first second : List SettlementRow}
    (sorted : Json.sortItems (first.map SettlementRow.asJson) = Json.sortItems (second.map SettlementRow.asJson)) :
    first = second := by
  induction first generalizing second with
  | nil =>
    cases second with
    | nil => rfl
    | cons row rest => cases sorted
  | cons row rest ih =>
    cases second with
    | nil => cases sorted
    | cons other others =>
      simp only [List.map_cons, Json.sortItems, List.cons.injEq] at sorted
      rw [asJson_inj sorted.1, ih sorted.2]

/-- Rows with one digest are the same rows. -/
theorem sourceDigest_inj (injective : Function.Injective hash) {first second : List SettlementRow}
    (same : sourceDigest hash first = sourceDigest hash second) : first = second := by
  have sorted := Json.canonical_inj (exact_rows first) (exact_rows second) (injective same)
  simp only [Json.sortKeys, Json.list.injEq] at sorted
  exact rows_of_sorted sorted

/-! ## Calls -/

/-- An import, or any operation of the store. -/
inductive SettlementCall where
  | importRows (context : TenantContext) (channelId period : String) (rows : List SettlementRow) (idempotencyKey : String)
  | elsewhere (operation : Op Unit)

def performSettlement (repository : SettlementRepository) (env : Env) (hash : String → String) :
    SettlementCall → BookOp (Option (DemoSettlementBatch × Bool))
  | .importRows context channelId period rows idempotencyKey => do
      let answer ← importDemoSettlement repository env hash context channelId period rows idempotencyKey
      pure (some answer)
  | .elsewhere operation => do
      inStore operation
      pure none

def settlementStep (repository : SettlementRepository) (env : Env) (hash : String → String) (call : SettlementCall)
    (s : Session Books) : Except Failure (Option (DemoSettlementBatch × Bool)) × Session Books :=
  (performSettlement repository env hash call).run s

/-! ## Batches -/

/-- Batches have identifiers that were drawn, and no key of a tenant is used twice. -/
structure Batched (s : Session Books) : Prop where
  drawn : ∀ row ∈ s.db.settlementBatches.rows, row.id < s.uuids
  unique : ∀ row ∈ s.db.settlementBatches.rows, ∀ other ∈ s.db.settlementBatches.rows, row.tenantId = other.tenantId →
    row.idempotencyKey = other.idempotencyKey → row = other

theorem Batched.of_same (batched : Batched s) (same : t.db.settlementBatches = s.db.settlementBatches)
    (uuids : s.uuids ≤ t.uuids) : Batched t where
  drawn row member := Nat.lt_of_lt_of_le (batched.drawn row (same ▸ member)) uuids
  unique row member other held := batched.unique row (same ▸ member) other (same ▸ held)

/-- The batches behind an import of a new key: the old ones and its own. -/
theorem Opened.mem_batches {result row : DemoSettlementBatch} (batched : Batched s)
    (opened : Opened s hash context channelId period rows idempotencyKey result t) :
    row ∈ t.db.settlementBatches.rows ↔ row = result ∨ row ∈ s.db.settlementBatches.rows := by
  obtain ⟨first, same, batches⟩ := opened.batches
  -- the identifier of the new batch is above all the old ones
  have apart : ∀ row ∈ s.db.settlementBatches.rows, row.key ≠ result.key := by
    intro row member equal
    have below := batched.drawn row member
    have named : row.id = result.id := congrArg Prod.snd equal
    rw [named, opened.id] at below
    exact Nat.lt_irrefl _ below
  rw [batches, Table.mem_put, Table.mem_put, same]
  constructor
  · rintro (rfl | ⟨rfl | ⟨old, -⟩, other⟩)
    · exact .inl rfl
    · exact absurd same other
    · exact .inr old
  · rintro (rfl | old)
    · exact .inl rfl
    · exact .inr ⟨.inr ⟨old, apart row old⟩, apart row old⟩

theorem Opened.batched {result : DemoSettlementBatch} (batched : Batched s)
    (opened : Opened s hash context channelId period rows idempotencyKey result t) : Batched t := by
  have request := opened.request
  simp only [Prod.mk.injEq] at request
  have fresh : ∀ row ∈ s.db.settlementBatches.rows, row.tenantId = result.tenantId →
      row.idempotencyKey ≠ result.idempotencyKey := by
    intro row member tenant key
    exact opened.unused row member ⟨tenant.trans request.1, key.trans request.2.2.2.1⟩
  constructor
  · intro row member
    rcases (opened.mem_batches batched).mp member with rfl | old
    · rw [opened.id]
      exact opened.uuids
    · exact Nat.lt_trans (batched.drawn row old) opened.uuids
  · refine Library.distinct_added_within result (fun row member => ?_) batched.unique
    exact ((opened.mem_batches batched).mp member).imp_right fun old => ⟨old, fresh row old⟩

/-- A replay leaves the books alone. -/
theorem importDemoSettlement_replay {result : DemoSettlementBatch}
    (ran : (importDemoSettlement repository env hash context channelId period rows idempotencyKey).run s =
      (.ok (result, true), t)) : t.db = s.db ∧ s.uuids ≤ t.uuids := by
  simp only [importDemoSettlement, bind_eq_ok, inStore_require_eq_ok, ensure_eq_ok, inStore_now_eq_ok, transaction_eq_ok,
    freshUuid_eq_ok, exists_and_left, exists_eq_left, exists_const, and_assoc] at ran
  obtain ⟨-, -, -, ⟨batch, replay⟩, saved, stored, ran⟩ := ran
  cases replay with
  | true =>
    rw [if_pos rfl] at ran
    obtain ⟨-, rfl⟩ := (pure_eq_ok _ _ _ _).mp ran
    simp only [saveSettlementBatch, bind_eq_ok, query_eq_ok] at stored
    obtain ⟨_, _, ⟨rfl, rfl⟩, stored⟩ := stored
    split at stored
    · simp only [bind_eq_ok, ensure_eq_ok, pure_eq_ok] at stored
      obtain ⟨_, _, ⟨-, rfl⟩, -, rfl⟩ := stored
      exact ⟨rfl, Nat.le_succ _⟩
    · simp [pure_eq_ok] at stored
  | false => simp at ran

theorem unwinds_importDemoSettlement : Unwinds Books.settlementBatches
    (importDemoSettlement repository env hash context channelId period rows idempotencyKey) :=
  Unwinds.bind (keeps_on (fun _ _ => rfl) _) fun _ => Unwinds.bind (keeps_ensure _ _) fun _ =>
    Unwinds.bind (keeps_ensure _ _) fun _ => Unwinds.bind (keeps_on (fun _ _ => rfl) _) fun _ => unwinds_transaction _

/-- A call keeps the batches that there are, and their keys apart. -/
theorem batched_step (batched : Batched s) (call : SettlementCall) :
    Batched (settlementStep repository env hash call s).2 ∧
      ∀ row ∈ s.db.settlementBatches.rows, row ∈ (settlementStep repository env hash call s).2.db.settlementBatches.rows := by
  have kept : ∀ after : Session Books, after.db.settlementBatches = s.db.settlementBatches → s.uuids ≤ after.uuids →
      Batched after ∧ ∀ row ∈ s.db.settlementBatches.rows, row ∈ after.db.settlementBatches.rows := by
    intro after same uuids
    exact ⟨batched.of_same same uuids, fun row member => same ▸ member⟩
  cases call with
  | importRows context channelId period rows idempotencyKey =>
    simp only [settlementStep, performSettlement, run_bind]
    rcases ran : (importDemoSettlement repository env hash context channelId period rows idempotencyKey).run s with
      ⟨why | ⟨result, replayed⟩, after⟩
    · have advances := (importDemoSettlement repository env hash context channelId period rows idempotencyKey).advances s
      rw [ran] at advances
      exact kept after (unwinds_importDemoSettlement s why after ran) advances.2
    · cases replayed with
      | true =>
        obtain ⟨same, uuids⟩ := importDemoSettlement_replay ran
        exact kept after (congrArg Books.settlementBatches same) uuids
      | false =>
        have opened := (importDemoSettlement_ok ran).2
        exact ⟨opened.batched batched, fun row member => (opened.mem_batches batched).mpr (.inr member)⟩
  | elsewhere operation =>
    rcases ran : settlementStep repository env hash (.elsewhere operation) s with ⟨outcome, after⟩
    obtain ⟨books, uuids, -⟩ := elsewhere_beside ran
    exact kept after (by rw [books]) uuids

/-! ## A repeated key -/

section

variable {value prior : DemoSettlementBatch}

theorem find_known (batched : Batched s) (known : prior ∈ s.db.settlementBatches.rows)
    (tenant : prior.tenantId = value.tenantId) (key : prior.idempotencyKey = value.idempotencyKey) :
    s.db.settlementBatches.rows.find?
      (fun row => row.tenantId = value.tenantId ∧ row.idempotencyKey = value.idempotencyKey) = some prior := by
  refine Library.find?_of_unique known (decide_eq_true ⟨tenant, key⟩) fun other among holds => ?_
  obtain ⟨owner, named⟩ := of_decide_eq_true holds
  exact batched.unique other among prior known (owner.trans tenant.symm) (named.trans key.symm)

theorem saveSettlementBatch_replays (batched : Batched s) (known : prior ∈ s.db.settlementBatches.rows)
    (tenant : prior.tenantId = value.tenantId) (key : prior.idempotencyKey = value.idempotencyKey)
    (same : prior.sourceDigest = value.sourceDigest) :
    (saveSettlementBatch repository value).run s = (.ok (prior, true), s) := by
  simp only [saveSettlementBatch, bind_eq_ok, query_eq_ok]
  refine ⟨_, s, ⟨rfl, rfl⟩, ?_⟩
  rw [find_known batched known tenant key]
  exact (bind_eq_ok _ _ _ _ _).mpr ⟨(), s, (ensure_eq_ok _ _ _ _ _).mpr ⟨same, rfl⟩, (pure_eq_ok _ _ _ _).mpr ⟨rfl, rfl⟩⟩

theorem saveSettlementBatch_refuses (batched : Batched s) (known : prior ∈ s.db.settlementBatches.rows)
    (tenant : prior.tenantId = value.tenantId) (key : prior.idempotencyKey = value.idempotencyKey)
    (differs : prior.sourceDigest ≠ value.sourceDigest) :
    (saveSettlementBatch repository value).run s = (.error (conflictError "settlement idempotency key reused"), s) := by
  simp only [saveSettlementBatch]
  refine (bind_eq_error _ _ _ _ _).mpr (.inr ⟨s.db.settlementBatches, s, rfl, ?_⟩)
  rw [find_known batched known tenant key]
  exact (bind_eq_error _ _ _ _ _).mpr (.inl ((ensure_eq_error _ _ _ _ _).mpr ⟨differs, rfl, rfl⟩))

end

section

variable {prior : DemoSettlementBatch}

theorem import_replays (batched : Batched s) (authorized : Authorized s.db.store context .tenantAdmin)
    (intake : SettlementIntake channelId period rows idempotencyKey) (valid : RowsValid rows)
    (known : prior ∈ s.db.settlementBatches.rows) (tenant : prior.tenantId = context.tenantId)
    (key : prior.idempotencyKey = idempotencyKey) (same : prior.sourceDigest = sourceDigest hash rows) :
    ∃ t, (importDemoSettlement repository env hash context channelId period rows idempotencyKey).run s =
      (.ok (prior, true), t) := by
  simp only [importDemoSettlement, bind_eq_ok, inStore_require_eq_ok, ensure_eq_ok, inStore_now_eq_ok, transaction_eq_ok,
    freshUuid_eq_ok, exists_and_left, exists_eq_left, exists_const, and_assoc]
  have saved := @saveSettlementBatch_replays repository ⟨s.db, s.reads + 1, s.uuids + 1⟩
    (newBatch s.uuids context.tenantId channelId period (sourceDigest hash rows) idempotencyKey (env.clock s.reads)) prior
    (batched.of_same rfl (Nat.le_succ _)) known tenant key same
  exact ⟨authorized, intake, valid, _, (prior, true), _, saved, (pure_eq_ok _ _ _ _).mpr ⟨rfl, rfl⟩⟩

theorem import_refuses (batched : Batched s) (authorized : Authorized s.db.store context .tenantAdmin)
    (known : prior ∈ s.db.settlementBatches.rows) (tenant : prior.tenantId = context.tenantId)
    (key : prior.idempotencyKey = idempotencyKey)
    (differs : SettlementIntake channelId period rows idempotencyKey → RowsValid rows →
      prior.sourceDigest ≠ sourceDigest hash rows) :
    ∃ message t, (importDemoSettlement repository env hash context channelId period rows idempotencyKey).run s =
      (.error (conflictError message), t) ∧ t.db = s.db := by
  have required := (inStore_require_eq_ok (u := ())).mpr ⟨authorized, rfl⟩
  by_cases intake : SettlementIntake channelId period rows idempotencyKey
  swap
  · refine ⟨"invalid settlement import", s, (bind_eq_error _ _ _ _ _).mpr (.inr ⟨(), s, required, ?_⟩), rfl⟩
    exact (bind_eq_error _ _ _ _ _).mpr (.inl ((ensure_eq_error _ _ _ _ _).mpr ⟨intake, rfl, rfl⟩))
  by_cases valid : RowsValid rows
  swap
  · refine ⟨"invalid settlement row", s, (bind_eq_error _ _ _ _ _).mpr (.inr ⟨(), s, required, ?_⟩), rfl⟩
    refine (bind_eq_error _ _ _ _ _).mpr (.inr ⟨(), s, (ensure_eq_ok _ _ _ _ _).mpr ⟨intake, rfl⟩, ?_⟩)
    exact (bind_eq_error _ _ _ _ _).mpr (.inl ((ensure_eq_error _ _ _ _ _).mpr ⟨valid, rfl, rfl⟩))
  have saved := @saveSettlementBatch_refuses repository ⟨s.db, s.reads + 1, s.uuids + 1⟩
    (newBatch s.uuids context.tenantId channelId period (sourceDigest hash rows) idempotencyKey (env.clock s.reads)) prior
    (batched.of_same rfl (Nat.le_succ _)) known tenant key (differs intake valid)
  refine ⟨"settlement idempotency key reused", ⟨s.db, s.reads + 1, s.uuids + 1⟩,
    (bind_eq_error _ _ _ _ _).mpr (.inr ⟨(), s, required, ?_⟩), rfl⟩
  refine (bind_eq_error _ _ _ _ _).mpr (.inr ⟨(), s, (ensure_eq_ok _ _ _ _ _).mpr ⟨intake, rfl⟩, ?_⟩)
  refine (bind_eq_error _ _ _ _ _).mpr (.inr ⟨(), s, (ensure_eq_ok _ _ _ _ _).mpr ⟨valid, rfl⟩, ?_⟩)
  refine (bind_eq_error _ _ _ _ _).mpr (.inr ⟨_, _, inStore_now_eq_ok.mpr ⟨rfl, rfl⟩, ?_⟩)
  refine @transaction_raises _ _ _ _ _ ⟨s.db, s.reads + 1, s.uuids⟩ ⟨s.db, s.reads + 1, s.uuids + 1⟩ ((bind_eq_error _ _ _ _ _).mpr (.inr ⟨_, _, (freshUuid_eq_ok _ _ _).mpr ⟨rfl, rfl⟩, ?_⟩))
  exact (bind_eq_error _ _ _ _ _).mpr (.inl saved)

end

/-- A repeated key is honoured: the request that it was used for gets its batch, any other is refused. -/
structure KeyHonoured (s : Session Books) (batch : DemoSettlementBatch) (same : Prop)
    (answer : Except Failure (Option (DemoSettlementBatch × Bool)) × Session Books) : Prop where
  replayed : same → answer.1 = .ok (some (batch, true))
  refused : ¬ same → (∃ message, answer.1 = .error (conflictError message)) ∧ answer.2.db = s.db

theorem batched_run (repository : SettlementRepository) (env : Env) (hash : String → String) (calls : List SettlementCall) :
    Batched (final (settlementStep repository env hash) newBooks calls) := by
  apply Library.final_invariant
  · exact ⟨fun _ member => absurd member List.not_mem_nil, fun _ member => absurd member List.not_mem_nil⟩
  · exact fun call _ state batched => (batched_step batched call).1

/-- Batches stay through a run. -/
theorem batch_kept {batch : DemoSettlementBatch} (batched : Batched s) (calls : List SettlementCall)
    (known : batch ∈ s.db.settlementBatches.rows) :
    batch ∈ (final (settlementStep repository env hash) s calls).db.settlementBatches.rows :=
  (Library.final_invariant (fun state => Batched state ∧ batch ∈ state.db.settlementBatches.rows) ⟨batched, known⟩
    fun call _ _ holds => ⟨(batched_step holds.1 call).1, (batched_step holds.1 call).2 batch holds.2⟩).2

/-- What an import that opened a batch had to be. -/
theorem first_import {batch : DemoSettlementBatch}
    (first : (settlementStep repository env hash (.importRows context channelId period rows idempotencyKey) s).1 =
      .ok (some (batch, false))) :
    (SettlementIntake channelId period rows idempotencyKey ∧ RowsValid rows) ∧
      ∃ t, Opened s hash context channelId period rows idempotencyKey batch t ∧
        (settlementStep repository env hash (.importRows context channelId period rows idempotencyKey) s).2 = t := by
  simp only [settlementStep, performSettlement, run_bind] at first ⊢
  rcases ran : (importDemoSettlement repository env hash context channelId period rows idempotencyKey).run s with
    ⟨why | answer, t⟩
  · rw [ran] at first
    cases first
  · rw [ran] at first
    cases first
    refine ⟨?_, t, (importDemoSettlement_ok ran).2, rfl⟩
    simp only [importDemoSettlement, bind_eq_ok, inStore_require_eq_ok, ensure_eq_ok, exists_and_left, exists_eq_left,
      exists_const, and_assoc] at ran
    exact ⟨ran.2.1, ran.2.2.1⟩

/-- In every run a repeated key is honoured exactly where no accepted request repeats the rows for another channel or
period: the digest that decides covers the rows alone. -/
theorem key_honoured_iff (repository : SettlementRepository) (env : Env) {hash : String → String}
    (injective : Function.Injective hash) (before between : List SettlementCall) (context : TenantContext)
    (channelId period : String) (rows : List SettlementRow) (idempotencyKey : String) {batch : DemoSettlementBatch}
    (first : (settlementStep repository env hash (.importRows context channelId period rows idempotencyKey)
      (final (settlementStep repository env hash) newBooks before)).1 = .ok (some (batch, false)))
    {s : Session Books} (reached : s = final (settlementStep repository env hash) newBooks
      (before ++ .importRows context channelId period rows idempotencyKey :: between))
    (later : TenantContext) (same_tenant : later.tenantId = context.tenantId)
    (authorized : Authorized s.db.store later .tenantAdmin) (otherChannel otherPeriod : String)
    (otherRows : List SettlementRow) :
    KeyHonoured s batch (otherChannel = channelId ∧ otherPeriod = period ∧ otherRows = rows)
        (settlementStep repository env hash (.importRows later otherChannel otherPeriod otherRows idempotencyKey) s) ↔
      (SettlementIntake otherChannel otherPeriod otherRows idempotencyKey → otherRows = rows →
        otherChannel = channelId ∧ otherPeriod = period) := by
  have batched : Batched s := reached ▸ batched_run repository env hash _
  obtain ⟨⟨intake, valid⟩, start, opened, stepped⟩ := first_import first
  have request := opened.request
  simp only [Prod.mk.injEq] at request
  -- the batch of the first import is still there
  have known : batch ∈ s.db.settlementBatches.rows := by
    rw [reached, final_split, Library.final_concat]
    refine batch_kept (batched_step (batched_run repository env hash before) _).1 between ?_
    rw [stepped]
    exact (opened.mem_batches (batched_run repository env hash before)).mpr (.inl rfl)
  have tenant : batch.tenantId = later.tenantId := request.1.trans same_tenant.symm
  constructor
  · intro honoured accepted same_rows
    -- the digest of the rows agrees, so the first batch would be answered
    by_contra differs
    obtain ⟨⟨message, raised⟩, -⟩ := honoured.refused fun same => differs ⟨same.1, same.2.1⟩
    subst same_rows
    obtain ⟨t, ran⟩ := @import_replays repository env hash later s otherChannel otherPeriod idempotencyKey _ batch batched
      authorized accepted valid known tenant request.2.2.2.1 request.2.2.2.2
    simp only [settlementStep, performSettlement, run_bind, ran] at raised
    cases raised
  · intro condition
    constructor
    · rintro ⟨rfl, rfl, rfl⟩
      obtain ⟨t, ran⟩ := @import_replays repository env hash later s _ _ idempotencyKey _ batch batched authorized intake valid
        known tenant request.2.2.2.1 request.2.2.2.2
      simp only [settlementStep, performSettlement, run_bind, ran]
      rfl
    · intro differs
      -- another request has other rows, and they another digest
      obtain ⟨message, t, ran, same⟩ := @import_refuses repository env hash later s otherChannel otherPeriod idempotencyKey
        otherRows batch batched authorized known tenant request.2.2.2.1 fun accepted _ digests =>
          have same_rows := (sourceDigest_inj injective (request.2.2.2.2.symm.trans digests)).symm
          have others := condition accepted same_rows
          differs ⟨others.1, others.2, same_rows⟩
      simp only [settlementStep, performSettlement, run_bind, ran]
      exact ⟨⟨message, rfl⟩, same⟩

/-- A settlement of September is imported. -/
def septemberCalls : List SettlementCall :=
  [.elsewhere (Txn.write fun _ => deskStore), .importRows deskMaster "shop" "2026-09" paidRows "settle-1"]

def septemberBatch : DemoSettlementBatch where
  id := 0
  tenantId := 70
  channelId := "shop"
  period := "2026-09"
  sourceDigest := sourceDigest id paidRows
  status := .reconciled
  idempotencyKey := "settle-1"
  createdAt := .utc 0
  version := 2

theorem key_honoured_iff_other_rows :
    KeyHonoured (final (settlementStep SQLiteRepository.settlement deskEnv id) newBooks septemberCalls) septemberBatch
      ("shop" = "shop" ∧ "2026-10" = "2026-09" ∧ paidRows.take 1 = paidRows)
      (settlementStep SQLiteRepository.settlement deskEnv id
        (.importRows deskMaster "shop" "2026-10" (paidRows.take 1) "settle-1")
        (final (settlementStep SQLiteRepository.settlement deskEnv id) newBooks septemberCalls)) :=
  (key_honoured_iff SQLiteRepository.settlement deskEnv Function.injective_id
    [.elsewhere (Txn.write fun _ => deskStore)] [] deskMaster "shop" "2026-09" paidRows "settle-1" (by decide +kernel) rfl
    deskMaster rfl ⟨_, rfl, rfl, rfl, by decide⟩ "shop" "2026-10" (paidRows.take 1)).mpr
    fun _ same => absurd same (by decide +kernel)

/-- The same rows for October, from one repository. -/
def octoberAnswer (repository : SettlementRepository) :
    Except Failure (Option (DemoSettlementBatch × Bool)) × Session Books :=
  settlementStep repository deskEnv id (.importRows deskMaster "shop" "2026-10" paidRows "settle-1")
    (final (settlementStep repository deskEnv id) newBooks septemberCalls)

/-- October gets the batch of September, from both repositories. -/
theorem october_answered_with_september :
    ((octoberAnswer InMemoryRepository.settlement).1 = .ok (some (septemberBatch, true)) ∧
      (octoberAnswer SQLiteRepository.settlement).1 = .ok (some (septemberBatch, true))) ∧
    ∀ repository ∈ [InMemoryRepository.settlement, SQLiteRepository.settlement],
      ¬ KeyHonoured (final (settlementStep repository deskEnv id) newBooks septemberCalls) septemberBatch
        ("shop" = "shop" ∧ "2026-10" = "2026-09" ∧ paidRows = paidRows) (octoberAnswer repository) := by
  have memory : (octoberAnswer InMemoryRepository.settlement).1 = .ok (some (septemberBatch, true)) := by decide +kernel
  have sqlite : (octoberAnswer SQLiteRepository.settlement).1 = .ok (some (septemberBatch, true)) := by decide +kernel
  refine ⟨⟨memory, sqlite⟩, fun repository member honoured => ?_⟩
  obtain ⟨⟨message, raised⟩, -⟩ := honoured.refused (by decide)
  simp only [List.mem_cons, List.not_mem_nil, or_false] at member
  rcases member with rfl | rfl
  · rw [memory] at raised
    cases raised
  · rw [sqlite] at raised
    cases raised

end AiStore.Aftersales
