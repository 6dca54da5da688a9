import AiStore.Aftersales.Settlement

/-! The verdict on a settlement, and the money it accounts for. -/

set_option autoImplicit false

namespace AiStore.Aftersales

open Library (Dict Session Table Txn)
open Library.Txn Failure Repository Service

variable {env : Env} {hash : String → String} {context : TenantContext} {s t : Session Books} {u : Unit}
variable {repository : SettlementRepository} {tenant batch : Uuid} {channelId period idempotencyKey : String}
variable {rows : List SettlementRow} {now : Timestamp}

/-! ## Returning runs -/

@[simp] theorem admitted_eq_ok {refusal : Books → Option Failure} :
    (admitted refusal).run s = (.ok u, t) ↔ refusal s.db = none ∧ t = s := by
  simp only [admitted, bind_eq_ok, query_eq_ok]
  constructor
  · rintro ⟨refused, middle, ⟨told, rfl⟩, ran⟩
    cases refused with
    | none => exact ⟨told, ((pure_eq_ok _ _ _ _).mp ran).2⟩
    | some why => cases ran
  · rintro ⟨accepted, rfl⟩
    exact ⟨_, _, ⟨rfl, rfl⟩, by rw [accepted]; exact (pure_eq_ok _ _ _ _).mpr ⟨rfl, rfl⟩⟩

@[simp] theorem saveSettlementLine_eq_ok {line : DemoSettlementLine} :
    (saveSettlementLine repository line).run s = (.ok u, t) ↔ repository.refusesLine line s.db = none ∧
      t = { s with db := { s.db with settlementLines := s.db.settlementLines.put line } } := by
  simp [saveSettlementLine]

@[simp] theorem saveRealizedProfit_eq_ok {profit : DemoRealizedProfit} :
    (saveRealizedProfit repository profit).run s = (.ok u, t) ↔ repository.refusesProfit profit s.db = none ∧
      t = { s with db := { s.db with realizedProfits := s.db.realizedProfits.put profit } } := by
  simp [saveRealizedProfit]

@[simp] theorem updateSettlementBatch_eq_ok {value : DemoSettlementBatch} {expectedVersion : Nat} :
    (updateSettlementBatch repository value expectedVersion).run s = (.ok u, t) ↔
      repository.refusesUpdate value expectedVersion s.db = none ∧
        t = { s with db := { s.db with settlementBatches := s.db.settlementBatches.put value } } := by
  simp [updateSettlementBatch]

@[simp] theorem inStore_query_eq_ok {α : Type} {read : Store → α} {result : α} :
    (inStore (query read)).run s = (.ok result, t) ↔ read s.db.store = result ∧ t = s :=
  inStore_read_eq_ok fun _ => query_eq_ok _ _ _ _

@[simp] theorem inStore_purchaseOrdersFor_eq_ok {order : Uuid} {purchases : List SupplierPurchaseOrder} :
    (inStore (purchaseOrdersFor tenant order)).run s = (.ok purchases, t) ↔
      (∃ row, s.db.store.channelOrders.get? (tenant, order) = some row) ∧
        (s.db.store.purchaseOrders.rows.filter fun row => row.tenantId = tenant ∧ row.channelOrderId = order) = purchases ∧
        t = s :=
  (inStore_read_eq_ok fun _ => purchaseOrdersFor_eq_ok.trans and_assoc.symm).trans and_assoc

/-! ## The lines -/

/-- The lines of some rows, under consecutive identifiers. -/
def writtenLines (store : Store) (tenant : Uuid) (channelId : String) (batch : Uuid) :
    List SettlementRow → Uuid → List DemoSettlementLine
  | [], _ => []
  | row :: rest, id =>
      settlementLine id tenant batch row (findChannelOrder tenant channelId row.externalOrderKey store) ::
        writtenLines store tenant channelId batch rest (id + 1)

theorem matchRows_ok {groups after : Dict Uuid (List DemoSettlementLine)} {allMatch verdict : Bool}
    (ran : (matchRows repository tenant channelId batch rows groups allMatch).run s = (.ok (after, verdict), t)) :
    after = (writtenLines s.db.store tenant channelId batch rows s.uuids).foldl
        (Library.grouped DemoSettlementLine.orderId) groups ∧
      verdict = (allMatch && rows.all fun row =>
        matched (findChannelOrder tenant channelId row.externalOrderKey s.db.store) row) ∧
      t = ⟨{ s.db with
          settlementLines := (writtenLines s.db.store tenant channelId batch rows s.uuids).foldl Table.put
            s.db.settlementLines },
        s.reads, s.uuids + rows.length⟩ := by
  induction rows generalizing s groups allMatch with
  | nil =>
    obtain ⟨same, rfl⟩ := (pure_eq_ok _ _ _ _).mp ran
    cases same
    simp [writtenLines]
  | cons row rest ih =>
    simp only [matchRows, bind_eq_ok, inStore_query_eq_ok, freshUuid_eq_ok, saveSettlementLine_eq_ok, exists_and_left,
      exists_eq_left, exists_eq_left', exists_const, and_assoc] at ran
    obtain ⟨-, ran⟩ := ran
    obtain ⟨groups_eq, verdict_eq, state⟩ := ih ran
    refine ⟨groups_eq, ?_, ?_⟩
    · rw [verdict_eq, List.all_cons, Bool.and_assoc]
    · rw [state, List.length_cons]
      simp only [writtenLines, List.foldl_cons, Nat.add_assoc, Nat.add_comm 1]

theorem writtenLines_ids (store : Store) (tenant : Uuid) (channelId : String) (batch : Uuid) (rows : List SettlementRow)
    (id : Uuid) :
    (writtenLines store tenant channelId batch rows id).map (·.id) = List.range' id rows.length := by
  induction rows generalizing id with
  | nil => rfl
  | cons row rest ih =>
    rw [writtenLines, List.map_cons, ih, List.length_cons, List.range'_succ]
    rfl

/-- The row that a line was written for. -/
def rowOf (line : DemoSettlementLine) : SettlementRow where
  externalOrderKey := line.externalOrderKey
  kind := line.kind
  amountMinor := line.amountMinor
  currency := line.currency
  sourceRowRef := line.sourceRowRef

theorem writtenLines_rows (store : Store) (tenant : Uuid) (channelId : String) (batch : Uuid) (rows : List SettlementRow)
    (id : Uuid) : (writtenLines store tenant channelId batch rows id).map rowOf = rows := by
  induction rows generalizing id with
  | nil => rfl
  | cons row rest ih =>
    rw [writtenLines, List.map_cons, ih]
    rfl

/-- Each line names its batch and the order found for its row. -/
theorem mem_writtenLines {store : Store} {id : Uuid} {line : DemoSettlementLine}
    (member : line ∈ writtenLines store tenant channelId batch rows id) :
    line.tenantId = tenant ∧ line.batchId = batch ∧
      line.orderId = (findChannelOrder tenant channelId (rowOf line).externalOrderKey store).map (·.id) ∧
      line.matchStatus =
        (if matched (findChannelOrder tenant channelId (rowOf line).externalOrderKey store) (rowOf line) then "matched"
          else "exception") := by
  induction rows generalizing id with
  | nil => exact absurd member List.not_mem_nil
  | cons row rest ih =>
    rcases List.mem_cons.mp member with rfl | later
    · exact ⟨rfl, rfl, rfl, rfl⟩
    · exact ih later

/-! ## The profits -/

theorem purchaseCost_ok {purchases : List SupplierPurchaseOrder} {cost : Int}
    (ran : (purchaseCost tenant purchases).run s = (.ok cost, t)) : t = s := by
  simp only [purchaseCost, bind_eq_ok, pure_eq_ok] at ran
  obtain ⟨costs, last, collected, -, rfl⟩ := ran
  clear cost
  induction purchases generalizing s costs with
  | nil => exact ((collect_nil_eq_ok _ _ _ _).mp collected).2
  | cons purchase rest ih =>
    obtain ⟨_, middle, values, first, later, -⟩ := (collect_cons_eq_ok _ _ _ _ _ _).mp collected
    simp only [purchaseLinesFor, bind_eq_ok, inStore_query_eq_ok, pure_eq_ok] at first
    obtain ⟨_, _, ⟨-, rfl⟩, -, rfl⟩ := first
    exact ih _ later

/-- The profit of an order from its lines. -/
def ProfitOf (store : Store) (tenant batch : Uuid) (now : Timestamp) (group : Uuid × List DemoSettlementLine)
    (profit : DemoRealizedProfit) : Prop :=
  ∃ order id cost, store.channelOrders.get? (tenant, group.1) = some order ∧
    profit = realizedProfit tenant id batch order group.2 cost now

theorem judgeOrders_ok {groups : List (Uuid × List DemoSettlementLine)} {allMatch verdict : Bool}
    (ran : (judgeOrders repository tenant batch now groups allMatch).run s = (.ok verdict, t)) :
    ∃ profits, List.Forall₂ (ProfitOf s.db.store tenant batch now) groups profits ∧
      verdict = (allMatch && profits.all fun profit => profit.realizedMinor.isSome) ∧
      t.db = { s.db with realizedProfits := profits.foldl Table.put s.db.realizedProfits } ∧ s.uuids ≤ t.uuids := by
  induction groups generalizing s allMatch with
  | nil =>
    obtain ⟨rfl, rfl⟩ := (pure_eq_ok _ _ _ _).mp ran
    exact ⟨[], .nil, by simp, rfl, Nat.le_refl _⟩
  | cons group rest ih =>
    obtain ⟨orderId, lines⟩ := group
    simp only [judgeOrders, bind_eq_ok, inStore_getChannelOrder_eq_ok, inStore_purchaseOrdersFor_eq_ok, freshUuid_eq_ok,
      saveRealizedProfit_eq_ok, exists_and_left, exists_eq_left, exists_eq_left', exists_const, and_assoc] at ran
    obtain ⟨order, found, -, cost, _, costed, -, ran⟩ := ran
    rw [purchaseCost_ok costed] at ran
    obtain ⟨profits, every, verdict_eq, tables, uuids⟩ := ih ran
    refine ⟨_ :: profits, .cons ⟨order, s.uuids, cost, found, rfl⟩ every, ?_, tables, Nat.le_of_succ_le uuids⟩
    -- a profit is realized just where its order is reconciled
    have judged : (realizedProfit tenant s.uuids batch order lines cost now).realizedMinor.isSome =
        decide (Reconciled order lines) := by
      unfold realizedProfit
      by_cases reconciled : Reconciled order lines <;> simp [reconciled]
    rw [verdict_eq, List.all_cons, judged, Bool.and_assoc]

/-! ## The import -/

/-- What an import writes when its key is new. -/
structure Imported (s : Session Books) (context : TenantContext) (channelId : String) (rows : List SettlementRow)
    (result : DemoSettlementBatch) (t : Session Books) : Prop where
  id : result.id = s.uuids
  tenant : result.tenantId = context.tenantId
  batches : t.db.settlementBatches.get? (context.tenantId, result.id) = some result
  lines : t.db.settlementLines = (writtenLines s.db.store context.tenantId channelId s.uuids rows (s.uuids + 1)).foldl
    Table.put s.db.settlementLines
  profits : ∃ profits now, List.Forall₂ (ProfitOf s.db.store context.tenantId s.uuids now)
      (Library.groupBy DemoSettlementLine.orderId
        (writtenLines s.db.store context.tenantId channelId s.uuids rows (s.uuids + 1))).entries profits ∧
    t.db.realizedProfits = profits.foldl Table.put s.db.realizedProfits ∧
    result.status = if (rows.all fun row =>
        matched (findChannelOrder context.tenantId channelId row.externalOrderKey s.db.store) row) &&
      profits.all fun profit => profit.realizedMinor.isSome then .reconciled else .exception

/-- The batch of an import whose key is new. -/
structure Opened (s : Session Books) (hash : String → String) (context : TenantContext) (channelId period : String)
    (rows : List SettlementRow) (idempotencyKey : String) (result : DemoSettlementBatch) (t : Session Books) : Prop where
  request : (result.tenantId, result.channelId, result.period, result.idempotencyKey, result.sourceDigest) =
    (context.tenantId, channelId, period, idempotencyKey, sourceDigest hash rows)
  id : result.id = s.uuids
  unused : ∀ row ∈ s.db.settlementBatches.rows,
    ¬ (row.tenantId = context.tenantId ∧ row.idempotencyKey = idempotencyKey)
  batches : ∃ opened : DemoSettlementBatch, opened.key = result.key ∧
    t.db.settlementBatches = (s.db.settlementBatches.put opened).put result
  uuids : s.uuids < t.uuids

theorem saveSettlementBatch_new {value result : DemoSettlementBatch}
    (ran : (saveSettlementBatch repository value).run s = (.ok (result, false), t)) :
    result = value ∧ t = { s with db := { s.db with settlementBatches := s.db.settlementBatches.put value } } ∧
      ∀ row ∈ s.db.settlementBatches.rows, ¬ (row.tenantId = value.tenantId ∧ row.idempotencyKey = value.idempotencyKey) := by
  simp only [saveSettlementBatch, bind_eq_ok, query_eq_ok] at ran
  obtain ⟨_, _, ⟨rfl, rfl⟩, ran⟩ := ran
  split at ran
  · simp at ran
  · next unbound =>
    simp only [bind_eq_ok, admitted_eq_ok, write_eq_ok, pure_eq_ok, Prod.mk.injEq, and_true] at ran
    obtain ⟨_, _, ⟨-, rfl⟩, _, _, rfl, rfl, rfl⟩ := ran
    exact ⟨rfl, rfl, by simpa using List.find?_eq_none.mp unbound⟩

/-- A new key is bound in memory. -/
theorem saveSettlementBatch_of_new {value : DemoSettlementBatch}
    (unused : ∀ row ∈ s.db.settlementBatches.rows,
      ¬ (row.tenantId = value.tenantId ∧ row.idempotencyKey = value.idempotencyKey)) :
    (saveSettlementBatch InMemoryRepository.settlement value).run s =
      (.ok (value, false), { s with db := { s.db with settlementBatches := s.db.settlementBatches.put value } }) := by
  have looked : s.db.settlementBatches.rows.find?
      (fun row => row.tenantId = value.tenantId ∧ row.idempotencyKey = value.idempotencyKey) = none :=
    List.find?_eq_none.mpr fun row member => by simpa using unused row member
  simp only [saveSettlementBatch, bind_eq_ok, query_eq_ok]
  refine ⟨_, s, ⟨rfl, rfl⟩, ?_⟩
  rw [looked]
  simp only [bind_eq_ok, admitted_eq_ok, write_eq_ok]
  exact ⟨(), s, ⟨rfl, rfl⟩, (), _, rfl, (pure_eq_ok _ _ _ _).mpr ⟨rfl, rfl⟩⟩

theorem importDemoSettlement_ok {result : DemoSettlementBatch}
    (ran : (importDemoSettlement repository env hash context channelId period rows idempotencyKey).run s =
      (.ok (result, false), t)) :
    Imported s context channelId rows result t ∧ Opened s hash context channelId period rows idempotencyKey result t := by
  simp only [importDemoSettlement, bind_eq_ok, inStore_require_eq_ok, ensure_eq_ok, inStore_now_eq_ok, transaction_eq_ok,
    freshUuid_eq_ok, exists_and_left, exists_eq_left, exists_const, and_assoc] at ran
  obtain ⟨-, -, -, ⟨batch, replay⟩, saved, stored, ran⟩ := ran
  cases replay with
  | true => simp at ran
  | false =>
    obtain ⟨rfl, rfl, unused⟩ := saveSettlementBatch_new stored
    simp only [Bool.false_eq_true, if_false, bind_eq_ok, updateSettlementBatch_eq_ok, pure_eq_ok, Prod.mk.injEq,
      exists_and_left, exists_eq_left, exists_const, and_assoc, and_true] at ran
    obtain ⟨⟨groups, allMatch⟩, _, listed, verdict, judged, ran_judge, -, _, audited, ran_audit, _, published, ran_publish, rfl,
      rfl⟩ := ran
    obtain ⟨groups_eq, all_eq, rfl⟩ := matchRows_ok listed
    obtain ⟨profits, every, verdict_eq, tables, uuids⟩ := judgeOrders_ok ran_judge
    obtain ⟨audited_db, audited_uuids, -⟩ := inStore_beside ran_audit
    obtain ⟨published_db, published_uuids, -⟩ := inStore_beside ran_publish
    have supplies : s.uuids < t.uuids := by
      simp only at audited_uuids uuids
      omega
    let opened := newBatch s.uuids context.tenantId channelId period (sourceDigest hash rows) idempotencyKey (env.clock s.reads)
    refine ⟨⟨rfl, rfl, ?_, ?_, profits, env.clock s.reads, ?_, ?_, ?_⟩, rfl, rfl, unused, ⟨opened, rfl, ?_⟩, supplies⟩
    · rw [published_db, audited_db]
      exact Table.get?_put_self _ (judgedBatch _ verdict)
    · rw [published_db, audited_db]
      simp only [tables]
      rfl
    · rw [groups_eq] at every
      exact every
    · rw [published_db, audited_db]
      simp only [tables]
    · rw [judgedBatch, verdict_eq, all_eq, Bool.true_and]
    · rw [published_db, audited_db]
      simp only [tables]
      rfl

/-! ## What a settlement is about -/

/-- The order that a row refers to. -/
def orderOf (store : Store) (tenant : Uuid) (channelId : String) (row : SettlementRow) : Option ChannelOrder :=
  findChannelOrder tenant channelId row.externalOrderKey store

/-- What the sales of an order among some rows come to. -/
def salesOf (store : Store) (tenant : Uuid) (channelId : String) (rows : List SettlementRow) (order : ChannelOrder) : Int :=
  ((rows.filter fun row => row.kind = "SALE" ∧ orderOf store tenant channelId row = some order).map (·.amountMinor)).sum

/-- Every row refers to an order in its currency, and the sales of each such order come to its total. -/
structure Reconciles (store : Store) (tenant : Uuid) (channelId : String) (rows : List SettlementRow) : Prop where
  found : ∀ row ∈ rows, ∃ order, orderOf store tenant channelId row = some order ∧ order.currency = row.currency
  totals : ∀ row ∈ rows, ∀ order, orderOf store tenant channelId row = some order →
    salesOf store tenant channelId rows order = order.totalMinor

section

variable {store : Store} {row : SettlementRow} {order : ChannelOrder} {id : Uuid}

theorem get?_of_orderOf (found : orderOf store tenant channelId row = some order) :
    store.channelOrders.get? (tenant, order.id) = some order := by
  have about := List.find?_some found
  simp only [decide_eq_true_eq] at about
  rw [← about.1]
  exact Table.get?_key _ (List.mem_of_find?_eq_some found)

theorem orderOf_map_id (known : store.channelOrders.get? (tenant, id) = some order) :
    (orderOf store tenant channelId row).map (·.id) = some id ↔ orderOf store tenant channelId row = some order := by
  constructor
  · intro named
    obtain ⟨other, found, rfl⟩ := Option.map_eq_some_iff.mp named
    rw [found, ← get?_of_orderOf found, known]
  · intro found
    have key := Table.key_of_get? known
    rw [found, Option.map_some]
    exact congrArg some (congrArg Prod.snd key)

theorem saleTotal_under (known : store.channelOrders.get? (tenant, id) = some order) (first : Uuid) :
    saleTotal (Library.under DemoSettlementLine.orderId (writtenLines store tenant channelId batch rows first) id) =
      salesOf store tenant channelId rows order := by
  have listed := writtenLines_rows store tenant channelId batch rows first
  generalize written : writtenLines store tenant channelId batch rows first = lines at listed
  have shown : ∀ line ∈ lines, line.orderId = (orderOf store tenant channelId (rowOf line)).map (·.id) := fun line member =>
    (mem_writtenLines (written ▸ member)).2.2.1
  rw [saleTotal, salesOf, ← listed, List.filter_map, List.map_map, Library.under, List.filter_filter]
  refine congrArg List.sum (congrArg _ (List.filter_congr fun line member => ?_))
  rw [Function.comp_apply, shown line member, ← Bool.decide_and]
  exact decide_eq_decide.mpr (and_congr Iff.rfl (orderOf_map_id known))

theorem matched_iff : matched (orderOf store tenant channelId row) row = true ↔
    ∃ order, orderOf store tenant channelId row = some order ∧ order.currency = row.currency := by
  simp [matched, Option.any_eq_true]

end

/-! ## The verdict -/

theorem realizedMinor_isSome {id cost : _} {order : ChannelOrder} {lines : List DemoSettlementLine} :
    (realizedProfit tenant id batch order lines cost now).realizedMinor.isSome = true ↔ Reconciled order lines := by
  unfold realizedProfit
  by_cases reconciled : Reconciled order lines <;> simp [reconciled]

/-- All rows are matched and every order found is reconciled exactly where the settlement reconciles. -/
theorem reconciles_iff {store : Store} {first judged : Uuid} {profits : List DemoRealizedProfit}
    (every : List.Forall₂ (ProfitOf store tenant judged now)
      (Library.groupBy DemoSettlementLine.orderId (writtenLines store tenant channelId batch rows first)).entries profits) :
    ((rows.all fun row => matched (findChannelOrder tenant channelId row.externalOrderKey store) row) &&
        profits.all fun profit => profit.realizedMinor.isSome) = true ↔ Reconciles store tenant channelId rows := by
  have listed := writtenLines_rows store tenant channelId batch rows first
  rw [Bool.and_eq_true, List.all_eq_true, List.all_eq_true]
  constructor
  · rintro ⟨found, realized⟩
    refine ⟨fun row member => matched_iff.mp (found row member), fun row member order about => ?_⟩
    have known := get?_of_orderOf about
    -- the order has a group, since the row has a line in it
    obtain ⟨line, held, rfl⟩ := List.mem_map.mp (listed ▸ member)
    have named := (mem_writtenLines held).2.2.1
    have grouped : (order.id, Library.under DemoSettlementLine.orderId
        (writtenLines store tenant channelId batch rows first) order.id) ∈ (Library.groupBy DemoSettlementLine.orderId
          (writtenLines store tenant channelId batch rows first)).entries := by
      refine (Library.mem_groupBy _ _ _ _).mpr ⟨rfl, List.ne_nil_of_mem (List.mem_filter.mpr ⟨held, ?_⟩)⟩
      exact decide_eq_true (named.trans ((orderOf_map_id known).mpr about))
    obtain ⟨profit, member, other, id, cost, same, rfl⟩ := Library.exists_right_of_mem every grouped
    rw [known] at same
    cases same
    have reconciled := realizedMinor_isSome.mp (realized _ member)
    rw [← saleTotal_under known first]
    exact reconciled.1
  · intro reconciles
    refine ⟨fun row member => matched_iff.mpr (reconciles.found row member), fun profit member => ?_⟩
    obtain ⟨⟨key, group⟩, grouped, order, id, cost, known, rfl⟩ := Library.exists_left_of_mem every member
    obtain ⟨rfl, some_line⟩ := (Library.mem_groupBy _ _ _ _).mp grouped
    obtain ⟨line, held⟩ := List.exists_mem_of_ne_nil _ some_line
    refine realizedMinor_isSome.mpr ⟨?_, fun line held => ?_⟩
    · obtain ⟨held, named⟩ := List.mem_filter.mp held
      have about := (orderOf_map_id known).mp (((mem_writtenLines held).2.2.1).symm.trans (of_decide_eq_true named))
      rw [saleTotal_under known]
      exact reconciles.totals _ (listed ▸ List.mem_map_of_mem held) order about
    · have held := (List.mem_filter.mp held).1
      rw [(mem_writtenLines held).2.2.2, if_pos]
      exact matched_iff.mpr (reconciles.found _ (listed ▸ List.mem_map_of_mem held))

/-! ## Settled books -/

def settlementLinesOf (tenant batch : Uuid) (books : Books) : List DemoSettlementLine :=
  books.settlementLines.rows.filter fun row => row.tenantId = tenant ∧ row.batchId = batch

def realizedProfitsOf (tenant batch : Uuid) (books : Books) : List DemoRealizedProfit :=
  books.realizedProfits.rows.filter fun row => row.tenantId = tenant ∧ row.batchId = batch

/-- The identifiers that are drawn from now on name nothing yet. -/
structure Drawn (s : Session Books) : Prop where
  batches : ∀ row ∈ s.db.settlementBatches.rows, row.id < s.uuids
  lines : ∀ row ∈ s.db.settlementLines.rows, row.id < s.uuids ∧ row.batchId < s.uuids
  profits : ∀ row ∈ s.db.realizedProfits.rows, row.batchId < s.uuids
  events : ∀ tenant batch, s.uuids ≤ batch →
    s.db.store.outbox.outboxIdempotency.get? (.uuid tenant, .settlement batch) = none

/-- The lines behind an import are the old ones and those of its rows. -/
theorem Imported.line_rows (drawn : Drawn s) {result : DemoSettlementBatch}
    (imported : Imported s context channelId rows result t) :
    t.db.settlementLines.rows = s.db.settlementLines.rows ++
      writtenLines s.db.store context.tenantId channelId s.uuids rows (s.uuids + 1) := by
  have ids := writtenLines_ids s.db.store context.tenantId channelId s.uuids rows (s.uuids + 1)
  rw [imported.lines]
  apply Table.rows_foldl_put_of_fresh
  · have distinct : ((writtenLines s.db.store context.tenantId channelId s.uuids rows (s.uuids + 1)).map (·.id)).Nodup := by
      rw [ids]
      exact List.nodup_range' ..
    refine List.Nodup.of_map Prod.snd ?_
    rw [List.map_map]
    exact distinct
  · intro line member old held same
    have new : line.id ∈ List.range' (s.uuids + 1) rows.length := ids ▸ List.mem_map_of_mem member
    -- the identifiers of the lines are drawn behind all those in the books
    have below := (drawn.lines old held).1
    have named : old.id = line.id := congrArg Prod.snd same
    have above := (List.mem_range'_1.mp new).1
    rw [named] at below
    exact Nat.lt_irrefl _ (Nat.lt_of_succ_lt (Nat.lt_of_le_of_lt above below))

theorem Imported.written_lines (drawn : Drawn s) {result : DemoSettlementBatch}
    (imported : Imported s context channelId rows result t) :
    settlementLinesOf context.tenantId result.id t.db =
      writtenLines s.db.store context.tenantId channelId s.uuids rows (s.uuids + 1) := by
  rw [settlementLinesOf, imported.line_rows drawn, List.filter_append, imported.id]
  have old : (s.db.settlementLines.rows.filter fun row => row.tenantId = context.tenantId ∧ row.batchId = s.uuids) = [] := by
    refine List.filter_eq_nil_iff.mpr fun row member => ?_
    simp only [decide_eq_true_eq, not_and]
    exact fun _ => Nat.ne_of_lt (drawn.lines row member).2
  rw [old, List.nil_append]
  refine List.filter_eq_self.mpr fun line member => ?_
  obtain ⟨tenant, batch, -⟩ := mem_writtenLines member
  exact decide_eq_true ⟨tenant, batch⟩

/-- The profits behind an import are those of its groups, one each. -/
theorem Imported.written_profits (drawn : Drawn s) {result : DemoSettlementBatch}
    (imported : Imported s context channelId rows result t) :
    ∃ now, List.Forall₂ (ProfitOf s.db.store context.tenantId result.id now)
        (Library.groupBy DemoSettlementLine.orderId (settlementLinesOf context.tenantId result.id t.db)).entries
        (realizedProfitsOf context.tenantId result.id t.db) ∧
      (realizedProfitsOf context.tenantId result.id t.db).map (·.orderId) =
        (Library.groupBy DemoSettlementLine.orderId (settlementLinesOf context.tenantId result.id t.db)).entries.map Prod.fst := by
  obtain ⟨profits, now, every, table, -⟩ := imported.profits
  have named : ∀ profit ∈ profits, profit.tenantId = context.tenantId ∧ profit.batchId = s.uuids := by
    intro profit member
    obtain ⟨_, _, order, id, cost, -, rfl⟩ := Library.exists_left_of_mem every member
    exact ⟨rfl, rfl⟩
  have orders : profits.map (·.orderId) = (Library.groupBy DemoSettlementLine.orderId
      (writtenLines s.db.store context.tenantId channelId s.uuids rows (s.uuids + 1))).entries.map Prod.fst := by
    refine (Library.map_eq_map_of_related every fun group profit related => ?_).symm
    obtain ⟨order, id, cost, found, rfl⟩ := related
    exact (congrArg Prod.snd (Table.key_of_get? found)).symm
  have listed : t.db.realizedProfits.rows = s.db.realizedProfits.rows ++ profits := by
    rw [table]
    apply Table.rows_foldl_put_of_fresh
    · refine List.Nodup.of_map (fun key => key.2.2) ?_
      rw [List.map_map]
      exact orders ▸ Dict.unique _
    · intro profit member old held same
      have batches : old.batchId = profit.batchId := congrArg (fun key => key.2.1) same
      exact Nat.ne_of_lt (drawn.profits old held) (batches.trans (named profit member).2)
  have kept : realizedProfitsOf context.tenantId result.id t.db = profits := by
    have old : (s.db.realizedProfits.rows.filter fun row => row.tenantId = context.tenantId ∧ row.batchId = s.uuids) = [] := by
      refine List.filter_eq_nil_iff.mpr fun row member => ?_
      simp only [decide_eq_true_eq, not_and]
      exact fun _ => Nat.ne_of_lt (drawn.profits row member)
    rw [realizedProfitsOf, listed, List.filter_append, imported.id, old, List.nil_append]
    exact List.filter_eq_self.mpr fun profit member => decide_eq_true (named profit member)
  rw [imported.written_lines drawn, kept, imported.id]
  exact ⟨now, every, orders⟩

/-- What an import of a new key leaves: its verdict, a line for each row, and where it reconciles one profit for each
order, which account for all the money of the rows. -/
structure Settled (s : Session Books) (tenant : Uuid) (channelId : String) (rows : List SettlementRow)
    (result : DemoSettlementBatch) (t : Session Books) : Prop where
  stored : t.db.settlementBatches.get? (tenant, result.id) = some result
  verdict : result.status = .reconciled ↔ Reconciles s.db.store tenant channelId rows
  lines : (settlementLinesOf tenant result.id t.db).map rowOf = rows
  profits : Reconciles s.db.store tenant channelId rows →
    ((realizedProfitsOf tenant result.id t.db).map (·.orderId)).Nodup ∧
      ∀ order, order ∈ (realizedProfitsOf tenant result.id t.db).map (·.orderId) ↔
        ∃ row ∈ rows, (orderOf s.db.store tenant channelId row).map (·.id) = some order
  accounted : Reconciles s.db.store tenant channelId rows →
    (∀ profit ∈ realizedProfitsOf tenant result.id t.db, profit.realizedMinor.isSome) ∧
      ((realizedProfitsOf tenant result.id t.db).map fun profit => profit.realizedMinor.getD 0).sum =
        (rows.map (·.amountMinor)).sum

theorem Imported.settled (drawn : Drawn s) {result : DemoSettlementBatch}
    (imported : Imported s context channelId rows result t) :
    Settled s context.tenantId channelId rows result t := by
  obtain ⟨now, every, orders⟩ := imported.written_profits drawn
  have written := imported.written_lines drawn
  have listed : (settlementLinesOf context.tenantId result.id t.db).map rowOf = rows := by
    rw [written]
    exact writtenLines_rows ..
  have shown : ∀ line ∈ settlementLinesOf context.tenantId result.id t.db,
      line.orderId = (orderOf s.db.store context.tenantId channelId (rowOf line)).map (·.id) := by
    rw [written]
    exact fun line member => (mem_writtenLines member).2.2.1
  have judged : Reconciles s.db.store context.tenantId channelId rows →
      ∀ profit ∈ realizedProfitsOf context.tenantId result.id t.db, profit.realizedMinor.isSome := by
    rw [written] at every
    intro reconciles
    have all := (reconciles_iff every).mpr reconciles
    rw [Bool.and_eq_true, List.all_eq_true, List.all_eq_true] at all
    exact all.2
  refine ⟨imported.batches, ?_, listed, fun reconciles => ⟨?_, fun order => ?_⟩, fun reconciles => ⟨judged reconciles, ?_⟩⟩
  · obtain ⟨profits, time, each, -, status⟩ := imported.profits
    rw [status, ← reconciles_iff each]
    split
    · next all => simp [all]
    · next missing => simp [missing]
  · rw [orders]
    exact Dict.unique _
  · rw [orders, Library.mem_keys_groupBy]
    constructor
    · rintro ⟨line, member, named⟩
      exact ⟨rowOf line, listed ▸ List.mem_map_of_mem member, (shown line member).symm.trans named⟩
    · rintro ⟨row, member, named⟩
      obtain ⟨line, held, rfl⟩ := List.mem_map.mp (listed ▸ member)
      exact ⟨line, held, (shown line held).trans named⟩
  · have realized : (realizedProfitsOf context.tenantId result.id t.db).map (fun profit => profit.realizedMinor.getD 0) =
        (Library.groupBy DemoSettlementLine.orderId (settlementLinesOf context.tenantId result.id t.db)).entries.map
          fun group => (group.2.map (·.amountMinor)).sum := by
      refine Library.map_eq_map_of_related
        ((List.forall₂_and_left _ _).mpr ⟨judged reconciles, every.flip⟩) fun profit group related => ?_
      obtain ⟨real, order, id, cost, found, rfl⟩ := related
      rw [realizedProfit, if_pos (realizedMinor_isSome.mp real)]
      rfl
    -- every row has its order, so no line is left out of the groups
    have every_line : ((settlementLinesOf context.tenantId result.id t.db).filter fun line => line.orderId.isSome) =
        settlementLinesOf context.tenantId result.id t.db := by
      refine List.filter_eq_self.mpr fun line member => ?_
      obtain ⟨order, found, -⟩ := reconciles.found (rowOf line) (listed ▸ List.mem_map_of_mem member)
      rw [shown line member, found]
      rfl
    calc ((realizedProfitsOf context.tenantId result.id t.db).map fun profit => profit.realizedMinor.getD 0).sum
      _ = ((settlementLinesOf context.tenantId result.id t.db).map (·.amountMinor)).sum := by
        rw [realized, Library.sum_groupBy, every_line]
      _ = (((settlementLinesOf context.tenantId result.id t.db).map rowOf).map (·.amountMinor)).sum := by
        rw [List.map_map]
        rfl
      _ = (rows.map (·.amountMinor)).sum := by rw [listed]

/-! ## Returning imports -/

theorem matchRows_returns (tenant : Uuid) (channelId : String) (batch : Uuid) (s : Session Books)
    (rows : List SettlementRow) (groups : Dict Uuid (List DemoSettlementLine))
    (allMatch : Bool) :
    ∃ result t, (matchRows InMemoryRepository.settlement tenant channelId batch rows groups allMatch).run s =
      (.ok result, t) := by
  induction rows generalizing s groups allMatch with
  | nil => exact ⟨_, _, (pure_eq_ok _ _ _ _).mpr ⟨rfl, rfl⟩⟩
  | cons row rest ih =>
    simp only [matchRows, bind_eq_ok, inStore_query_eq_ok, freshUuid_eq_ok, saveSettlementLine_eq_ok, exists_and_left,
      exists_eq_left, exists_eq_left', exists_const, and_assoc]
    exact ⟨rfl, ih _ _ _⟩

theorem purchaseCost_returns (tenant : Uuid) (s : Session Books) (purchases : List SupplierPurchaseOrder) :
    ∃ cost, (purchaseCost tenant purchases).run s = (.ok cost, s) := by
  have collected : ∃ costs, (collect purchases fun purchase => do
      let lines ← inStore (purchaseLinesFor tenant purchase.id)
      pure (lines.map fun line => line.quantity * line.unitCostMinor).sum).run s = (.ok costs, s) := by
    induction purchases with
    | nil => exact ⟨[], (collect_nil_eq_ok _ _ _ _).mpr ⟨rfl, rfl⟩⟩
    | cons purchase rest ih =>
      obtain ⟨costs, later⟩ := ih
      simp only [collect_cons_eq_ok, purchaseLinesFor, bind_eq_ok, inStore_query_eq_ok, pure_eq_ok]
      exact ⟨_, _, s, costs, ⟨_, s, ⟨rfl, rfl⟩, rfl, rfl⟩, later, rfl⟩
  obtain ⟨costs, ran⟩ := collected
  exact ⟨costs.sum, (bind_eq_ok _ _ _ _ _).mpr ⟨costs, s, ran, (pure_eq_ok _ _ _ _).mpr ⟨rfl, rfl⟩⟩⟩

theorem judgeOrders_returns (batch : Uuid) (now : Timestamp) (groups : List (Uuid × List DemoSettlementLine)) (allMatch : Bool)
    (known : ∀ group ∈ groups, ∃ order, s.db.store.channelOrders.get? (tenant, group.1) = some order) :
    ∃ verdict t, (judgeOrders InMemoryRepository.settlement tenant batch now groups allMatch).run s = (.ok verdict, t) := by
  induction groups generalizing s allMatch with
  | nil => exact ⟨_, _, (pure_eq_ok _ _ _ _).mpr ⟨rfl, rfl⟩⟩
  | cons group rest ih =>
    obtain ⟨orderId, lines⟩ := group
    obtain ⟨order, found⟩ := known _ List.mem_cons_self
    obtain ⟨cost, costed⟩ := purchaseCost_returns tenant s
      (s.db.store.purchaseOrders.rows.filter fun row => row.tenantId = tenant ∧ row.channelOrderId = orderId)
    have later := ih (s := { s with
        db := { s.db with realizedProfits :=
          s.db.realizedProfits.put (realizedProfit tenant s.uuids batch order lines cost now) }
        uuids := s.uuids + 1 }) (allMatch && Reconciled order lines)
      fun group member => known group (List.mem_cons_of_mem _ member)
    obtain ⟨verdict, t, later⟩ := later
    simp only [judgeOrders, bind_eq_ok, inStore_getChannelOrder_eq_ok, inStore_purchaseOrdersFor_eq_ok, freshUuid_eq_ok,
      saveRealizedProfit_eq_ok, exists_and_left, exists_eq_left, exists_eq_left', exists_const, and_assoc]
    exact ⟨verdict, t, order, found, ⟨order, found⟩, cost, s, costed, rfl, later⟩

/-- An entry of the audit trail and an event under a free key. -/
theorem recorded_returns {α : Type} (env : Env) (context : TenantContext) (action : String) (target : Uuid)
    (metadata payload : Mapping) (key : OutboxKey) (createdAt : Timestamp) (result : α) {s : Session Books}
    (free : s.db.store.outbox.outboxIdempotency.get? (.uuid context.tenantId, key) = none) :
    ∃ t, (do
      inStore (auditBy env context action target "succeeded" metadata)
      inStore (publish context.tenantId action target payload key createdAt)
      pure result : BookOp α).run s = (.ok result, t) := by
  obtain ⟨middle, audited, same⟩ : ∃ middle,
      (inStore (auditBy env context action target "succeeded" metadata)).run s = (.ok (), middle) ∧
        middle.db.store.outbox = s.db.store.outbox :=
    ⟨_, (inStore_eq_ok _ _ _ _).mpr ⟨_, auditBy_eq_ok.mpr rfl, rfl⟩, rfl⟩
  rw [← same] at free
  have published := (inStore_eq_ok (publish context.tenantId action target payload key createdAt) () middle _).mpr
    ⟨_, publish_eq_ok.mpr ⟨free, rfl⟩, rfl⟩
  exact ⟨_, (bind_eq_ok _ _ _ _ _).mpr ⟨(), middle, audited, (bind_eq_ok _ _ _ _ _).mpr
    ⟨(), _, published, (pure_eq_ok _ _ _ _).mpr ⟨rfl, rfl⟩⟩⟩⟩

/-- The groups of some lines are under orders of the store. -/
theorem groups_known {store : Store} {first : Uuid} {group : Uuid × List DemoSettlementLine}
    (member : group ∈ (Library.groupBy DemoSettlementLine.orderId
      (writtenLines store tenant channelId batch rows first)).entries) :
    ∃ order, store.channelOrders.get? (tenant, group.1) = some order := by
  obtain ⟨key, lines⟩ := group
  obtain ⟨rfl, some_line⟩ := (Library.mem_groupBy _ _ _ _).mp member
  obtain ⟨line, held⟩ := List.exists_mem_of_ne_nil _ some_line
  obtain ⟨held, named⟩ := List.mem_filter.mp held
  have about := ((mem_writtenLines held).2.2.1).symm.trans (of_decide_eq_true named)
  obtain ⟨order, found, rfl⟩ := Option.map_eq_some_iff.mp about
  exact ⟨order, get?_of_orderOf found⟩

/-- An accepted import of a new key returns in memory. -/
theorem import_returns (drawn : Drawn s) (authorized : Authorized s.db.store context .tenantAdmin)
    (intake : SettlementIntake channelId period rows idempotencyKey) (valid : RowsValid rows)
    (unused : ∀ row ∈ s.db.settlementBatches.rows,
      ¬ (row.tenantId = context.tenantId ∧ row.idempotencyKey = idempotencyKey)) :
    ∃ result t, (importDemoSettlement InMemoryRepository.settlement env hash context channelId period rows
      idempotencyKey).run s = (.ok (result, false), t) := by
  let batch := newBatch s.uuids context.tenantId channelId period (sourceDigest hash rows) idempotencyKey (env.clock s.reads)
  have stored := @saveSettlementBatch_of_new ⟨s.db, s.reads + 1, s.uuids + 1⟩ batch unused
  obtain ⟨⟨groups, allMatch⟩, matched, listed⟩ := matchRows_returns context.tenantId channelId batch.id
    ⟨{ s.db with settlementBatches := s.db.settlementBatches.put batch }, s.reads + 1, s.uuids + 1⟩ rows .empty true
  obtain ⟨groups_eq, -, matched_eq⟩ := matchRows_ok listed
  have known : ∀ group ∈ groups.entries, ∃ order,
      matched.db.store.channelOrders.get? (context.tenantId, group.1) = some order := by
    intro group member
    rw [groups_eq] at member
    rw [matched_eq]
    exact groups_known member
  obtain ⟨verdict, judged, ran_judge⟩ := judgeOrders_returns batch.id (env.clock s.reads) groups.entries allMatch known
  obtain ⟨profits, -, -, judged_db, -⟩ := judgeOrders_ok ran_judge
  have bound : judged.db.settlementBatches.get? (judgedBatch batch verdict).key = some batch := by
    rw [judged_db, matched_eq]
    exact Table.get?_put_self _ batch
  have updated : (updateSettlementBatch InMemoryRepository.settlement (judgedBatch batch verdict) 1).run judged =
      (.ok (), { judged with db := { judged.db with
        settlementBatches := judged.db.settlementBatches.put (judgedBatch batch verdict) } }) := by
    refine updateSettlementBatch_eq_ok.mpr ⟨?_, rfl⟩
    simp only [InMemoryRepository.settlement, bound]
    rfl
  have free : judged.db.store.outbox.outboxIdempotency.get? (.uuid context.tenantId, .settlement batch.id) = none := by
    rw [judged_db, matched_eq]
    exact drawn.events context.tenantId s.uuids (Nat.le_refl _)
  obtain ⟨t, recorded⟩ := @recorded_returns _ env context "settlement.imported" batch.id
    [("status", .text (judgedBatch batch verdict).status.value), ("source_digest", .text (sourceDigest hash rows))]
    [("batch_id", .uuid batch.id), ("status", .text (judgedBatch batch verdict).status.value)] (.settlement batch.id)
    (env.clock s.reads) (judgedBatch batch verdict, false)
    { judged with db := { judged.db with settlementBatches := judged.db.settlementBatches.put (judgedBatch batch verdict) } }
    free
  refine ⟨judgedBatch batch verdict, t, ?_⟩
  simp only [importDemoSettlement, bind_eq_ok, inStore_require_eq_ok, ensure_eq_ok, inStore_now_eq_ok, transaction_eq_ok,
    freshUuid_eq_ok, exists_and_left, exists_eq_left, exists_const, and_assoc]
  refine ⟨authorized, intake, valid, (batch, false), _, stored, ?_⟩
  rw [if_neg Bool.false_ne_true]
  refine (bind_eq_ok _ _ _ _ _).mpr ⟨(groups, allMatch), matched, listed, (bind_eq_ok _ _ _ _ _).mpr ?_⟩
  exact ⟨verdict, judged, ran_judge, (bind_eq_ok _ _ _ _ _).mpr ⟨(), _, updated, recorded⟩⟩

/-- Every accepted import of a new key settles the books, whatever its repository refuses, and in memory it returns. -/
theorem import_settles (env : Env) (hash : String → String) (context : TenantContext) (channelId period : String)
    (rows : List SettlementRow) (idempotencyKey : String) {s : Session Books} (drawn : Drawn s)
    (authorized : Authorized s.db.store context .tenantAdmin)
    (intake : SettlementIntake channelId period rows idempotencyKey) (valid : RowsValid rows)
    (unused : ∀ row ∈ s.db.settlementBatches.rows,
      ¬ (row.tenantId = context.tenantId ∧ row.idempotencyKey = idempotencyKey)) :
    (∃ result t, (importDemoSettlement InMemoryRepository.settlement env hash context channelId period rows
        idempotencyKey).run s = (.ok (result, false), t)) ∧
      ∀ (repository : SettlementRepository) (result : DemoSettlementBatch) (t : Session Books),
        (importDemoSettlement repository env hash context channelId period rows idempotencyKey).run s =
          (.ok (result, false), t) → Settled s context.tenantId channelId rows result t :=
  ⟨import_returns drawn authorized intake valid unused, fun _ _ _ ran => (importDemoSettlement_ok ran).1.settled drawn⟩

/-- Two orders are paid, one of them in two sales and less a fee. -/
def paidRows : List SettlementRow := [
  ⟨"E-1", "SALE", 600, "KRW", "row-1"⟩, ⟨"E-2", "SALE", 500, "KRW", "row-2"⟩, ⟨"E-1", "SALE", 400, "KRW", "row-3"⟩,
  ⟨"E-1", "FEE", -30, "KRW", "row-4"⟩]

theorem import_settles_paid :
    (∃ result t, (importDemoSettlement InMemoryRepository.settlement deskEnv id deskMaster "shop" "2026-09" paidRows
        "settle-1").run ⟨{ store := deskStore }, 0, 100⟩ = (.ok (result, false), t)) ∧
      ∀ (repository : SettlementRepository) (result : DemoSettlementBatch) (t : Session Books),
        (importDemoSettlement repository deskEnv id deskMaster "shop" "2026-09" paidRows "settle-1").run
            ⟨{ store := deskStore }, 0, 100⟩ = (.ok (result, false), t) →
          Settled ⟨{ store := deskStore }, 0, 100⟩ 70 "shop" paidRows result t := by
  have drawn : Drawn ⟨{ store := deskStore }, 0, 100⟩ :=
    ⟨fun _ member => absurd member List.not_mem_nil, fun _ member => absurd member List.not_mem_nil,
      fun _ member => absurd member List.not_mem_nil, fun _ _ _ => rfl⟩
  exact import_settles deskEnv id deskMaster "shop" "2026-09" paidRows "settle-1" drawn
    ⟨_, rfl, rfl, rfl, by decide⟩ (by decide +kernel) (by decide +kernel) (fun _ member => absurd member List.not_mem_nil)

end AiStore.Aftersales
