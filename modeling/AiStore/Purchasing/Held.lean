import AiStore.Purchasing.RoutedOrders

/-! How far a purchase order has come, and what no operation but a routing or a renewal changes about it. -/

set_option autoImplicit false

namespace AiStore.Purchasing

open Library (Session Table)
open Library.Txn Failure Repository Service Approvals

/-- Before a submission, submitted, or behind it. -/
def stage : PurchaseOrderState → Nat
  | .submitted => 1
  | .acknowledged | .cancelRequested | .exception => 2
  | _ => 0

/-- A later row of a purchase order. -/
structure Succeeds (old row : SupplierPurchaseOrder) : Prop where
  key : row.key = old.key
  order : row.channelOrderId = old.channelOrderId
  supplier : row.supplierId = old.supplierId
  named : row.idempotencyKey = old.idempotencyKey
  version : old.version ≤ row.version
  stage : stage old.status ≤ stage row.status

theorem Succeeds.refl (row : SupplierPurchaseOrder) : Succeeds row row := ⟨rfl, rfl, rfl, rfl, Nat.le_refl _, Nat.le_refl _⟩

theorem Succeeds.trans {first second third : SupplierPurchaseOrder} (left : Succeeds first second)
    (right : Succeeds second third) : Succeeds first third where
  key := right.key.trans left.key
  order := right.order.trans left.order
  supplier := right.supplier.trans left.supplier
  named := right.named.trans left.named
  version := left.version.trans right.version
  stage := left.stage.trans right.stage

theorem Succeeds.tenant {old row : SupplierPurchaseOrder} (succeeds : Succeeds old row) : row.tenantId = old.tenantId :=
  congrArg Prod.fst succeeds.key

theorem Succeeds.id {old row : SupplierPurchaseOrder} (succeeds : Succeeds old row) : row.id = old.id :=
  congrArg Prod.snd succeeds.key

/-! ## The relation -/

/-- What a routing makes of an order, besides its purchase orders. -/
def boughtTables (db : Store) := (db.commandIdempotency, db.orderLines, db.routingDecisions, db.purchaseLines)

def heldTables (db : Store) := (db.purchaseOrders, boughtTables db)

/-- The purchase orders move on with their commands, and none is made. -/
structure Held (before after : Store) : Prop where
  purchases : ∀ row ∈ after.purchaseOrders.rows, ∃ old ∈ before.purchaseOrders.rows,
    Succeeds old row ∧ row.approvalCommandId = old.approvalCommandId
  kept : ∀ old ∈ before.purchaseOrders.rows, ∃ row ∈ after.purchaseOrders.rows, Succeeds old row
  tables : boughtTables after = boughtTables before

theorem Held.refl (db : Store) : Held db db where
  purchases row member := ⟨row, member, .refl row, rfl⟩
  kept row member := ⟨row, member, .refl row⟩
  tables := rfl

theorem Held.trans {first second third : Store} (left : Held first second) (right : Held second third) :
    Held first third where
  purchases row member := by
    obtain ⟨middle, middle_member, later, linked⟩ := right.purchases row member
    obtain ⟨old, old_member, earlier, before⟩ := left.purchases middle middle_member
    exact ⟨old, old_member, earlier.trans later, linked.trans before⟩
  kept old member := by
    obtain ⟨middle, middle_member, earlier⟩ := left.kept old member
    obtain ⟨row, row_member, later⟩ := right.kept middle middle_member
    exact ⟨row, row_member, earlier.trans later⟩
  tables := right.tables.trans left.tables

instance : Std.Refl Held := ⟨Held.refl⟩

instance : IsTrans Store Held := ⟨fun _ _ _ => Held.trans⟩

section

variable {before middle after : Store}

theorem Held.of_same (same : heldTables after = heldTables before) : Held before after := by
  obtain ⟨purchases, tables⟩ := Prod.mk.inj same
  refine ⟨?_, ?_, tables⟩
  · rw [purchases]
    exact fun row member => ⟨row, member, .refl row, rfl⟩
  · rw [purchases]
    exact fun row member => ⟨row, member, .refl row⟩

/-- Each row that is saved succeeds one of before, so the rows are those of before moved on. -/
theorem kept_put {rows : Table SupplierPurchaseOrder.key} {row : SupplierPurchaseOrder} {old : SupplierPurchaseOrder}
    (member : old ∈ before.purchaseOrders.rows) (succeeds : Succeeds old row)
    (kept : ∀ old ∈ before.purchaseOrders.rows, ∃ row ∈ rows.rows, Succeeds old row) :
    ∀ old ∈ before.purchaseOrders.rows, ∃ later ∈ (rows.put row).rows, Succeeds old later := by
  intro other other_member
  obtain ⟨later, later_member, moved⟩ := kept other other_member
  by_cases same : later.key = row.key
  · have one : other = old := Table.key_inj _ other_member member (moved.key.symm.trans (same.trans succeeds.key))
    rw [one]
    exact ⟨row, (Table.mem_put _ _ _).mpr (.inl rfl), succeeds⟩
  · exact ⟨later, (Table.mem_put _ _ _).mpr (.inr ⟨later_member, same⟩), moved⟩

theorem Held.saved (held : Held before middle) (row : SupplierPurchaseOrder) {old : SupplierPurchaseOrder}
    (member : old ∈ before.purchaseOrders.rows) (succeeds : Succeeds old row)
    (linked : row.approvalCommandId = old.approvalCommandId)
    (written : heldTables after = (middle.purchaseOrders.put row, boughtTables middle)) : Held before after := by
  obtain ⟨purchases, tables⟩ := Prod.mk.inj written
  refine ⟨?_, ?_, tables.trans held.tables⟩
  · rw [purchases]
    exact Table.forall_put held.purchases ⟨old, member, succeeds, linked⟩
  · rw [purchases]
    exact kept_put member succeeds held.kept

end

variable {env : Env} {context : TenantContext} {s t : Session Store}

theorem held_of_keeps {α : Type} {body : Op α} (keeps : Keeps heldTables body) : Obeys Held body :=
  fun s => .of_same (keeps s)

/-- A purchase order with another status and the next version. -/
theorem succeeds_next (purchase : SupplierPurchaseOrder) {status : PurchaseOrderState}
    (on : stage purchase.status ≤ stage status) :
    Succeeds purchase { purchase with status := status, version := purchase.version + 1 } :=
  ⟨rfl, rfl, rfl, rfl, Nat.le_succ _, on⟩

/-! ## Decisions and expiry -/

theorem approveWithin_held {purchaseId : Uuid} {approve expired : Bool} {reason : String} {result : SupplierPurchaseOrder}
    (ran : (approveWithin env context purchaseId approve reason).run s = (.ok (result, expired), t)) : Held s.db t.db := by
  simp only [approveWithin, bind_eq_ok, require_eq_ok] at ran
  obtain ⟨_, start, ⟨-, rfl⟩, ⟨purchase, command⟩, checked, verifying, ⟨approval, late⟩, middle, deciding, ran⟩ := ran
  obtain ⟨rfl, found, pending, -⟩ := verifyPo_ok verifying
  have between : Held checked.db middle.db := .of_same (decideWithin_keeps (fun _ _ _ _ _ => rfl) deciding)
  cases late with
  | true =>
    simp only [if_true, pure_eq_ok] at ran
    obtain ⟨-, rfl⟩ := ran
    exact between
  | false =>
    simp only [Bool.false_eq_true, if_false, projectDecision, saveInTurn, bind_eq_ok, updatePurchaseOrder_eq_ok, now_eq_ok,
      auditBy_eq_ok, publish_eq_ok, pure_eq_ok] at ran
    obtain ⟨_, _, ⟨_, _, ⟨_, -, -, -, rfl⟩, _, _, ⟨-, rfl⟩, _, _, rfl, _, _, ⟨-, rfl⟩, -, rfl⟩, -, rfl⟩ := ran
    have on : stage purchase.status ≤ stage (if approve then .approved else .cancelled) := by
      rw [pending]
      exact Nat.zero_le _
    exact between.saved (decidedPurchase purchase approve) (Table.mem_of_get? found) (succeeds_next purchase on) rfl rfl

theorem approveDemoPo_held {purchaseId : Uuid} {approve : Bool} {reason : String} :
    Obeys Held (approveDemoPo env context purchaseId approve reason) := by
  refine (keeps_require _).obeys.bind fun _ => (keeps_ensure _ _).obeys.bind fun _ => ?_
  refine Obeys.bind (obeys_transaction_of_returning fun _ _ _ ran => approveWithin_held ran) fun _ => ?_
  exact ((keeps_ensure _ _).bind fun _ => keeps_pure _).obeys

theorem expireDueApprovals_held {tenant : Uuid} {limit : Int} : Obeys Held (expireDueApprovals env tenant limit) := by
  refine (keeps_ensure _ _).obeys.bind fun _ => keeps_now.obeys.bind fun now => obeys_transaction_of_returning ?_
  intro s result t ran
  simp only [bind_eq_ok, pure_eq_ok] at ran
  obtain ⟨due, _, ⟨-, rfl⟩, expired, _, expiring, -, rfl⟩ := ran
  exact collect_returning (fun _ _ _ _ ran => .of_same (expireDue_keeps (fun _ _ _ _ _ => rfl) ran)) expiring

/-! ## Submission and response -/

theorem submitDemoPo_held {purchaseId : Uuid} : Obeys Held (submitDemoPo env context purchaseId) := by
  have unwinds : Unwinds id (submitDemoPo env context purchaseId) :=
    Unwinds.bind (keeps_require _) fun _ => unwinds_transaction _
  have keeps : Keeps boughtTables (submitDemoPo env context purchaseId) := keeps_submitDemoPo fun _ _ _ _ _ => rfl
  refine obeys_of_returning unwinds ?_
  intro s submitted t ran
  have tables := keeps.of_run ran
  obtain ⟨purchase, order, command, approval, intent, rfl, submitting, rfl, controlled⟩ := submitDemoPo_ok ran
  simp only [controlledTables, Prod.mk.injEq] at controlled
  have on : stage purchase.status ≤ stage .submitted := by
    rw [submitting.purchase_approved]
    exact Nat.zero_le _
  exact (Held.refl s.db).saved { purchase with status := .submitted, version := purchase.version + 1 }
    (Table.mem_of_get? submitting.purchase_found) (succeeds_next purchase on) rfl (Prod.ext controlled.2.2 tables)

theorem reconcileWithin_held {purchaseId : Uuid} {status : PoResponseStatus} {reference : Option String} {digest : String}
    {observed : Timestamp} {result : SupplierPurchaseOrder × Bool}
    (ran : (reconcileWithin env context purchaseId status reference digest observed).run s = (.ok result, t)) :
    Held s.db t.db := by
  simp only [reconcileWithin, bind_eq_ok, getPurchaseOrder_eq_ok, ensure_eq_ok] at ran
  obtain ⟨purchase, _, ⟨found, rfl⟩, _, start, ⟨-, rfl⟩, ran⟩ := ran
  split at ran
  · obtain ⟨-, rfl⟩ := (pure_eq_ok _ _ _ _).mp ran
    exact .refl _
  · simp only [bind_eq_ok, ensure_eq_ok] at ran
    obtain ⟨_, _, ⟨-, same⟩, ran⟩ := ran
    rw [same] at ran
    split at ran
    · obtain ⟨-, rfl⟩ := (pure_eq_ok _ _ _ _).mp ran
      exact .refl _
    · simp only [fileResponse, saveInTurn, bind_eq_ok, updatePurchaseOrder_eq_ok, auditBy_eq_ok, publish_eq_ok,
        pure_eq_ok] at ran
      obtain ⟨_, _, ⟨_, _, ⟨_, -, -, -, rfl⟩, _, _, rfl, _, _, ⟨-, rfl⟩, -, rfl⟩, -, rfl⟩ := ran
      have on : stage purchase.status ≤ stage (respondedPurchase purchase status reference digest observed).status := by
        have last : stage (respondedPurchase purchase status reference digest observed).status = 2 := by
          simp only [respondedPurchase]
          split <;> rfl
        rw [last]
        cases purchase.status <;> decide
      exact (Held.refl _).saved (respondedPurchase purchase status reference digest observed) (Table.mem_of_get? found)
        ⟨rfl, rfl, rfl, rfl, Nat.le_succ _, on⟩ rfl rfl

theorem reconcileDemoPo_held {purchaseId : Uuid} {response : Mapping} :
    Obeys Held (reconcileDemoPo env context purchaseId response) := by
  refine (keeps_require _).obeys.bind fun _ => (keeps_ensure _ _).obeys.bind fun _ => ?_
  refine (keeps_fetch _ _).obeys.bind fun _ => (keeps_ofExcept _).obeys.bind fun _ => (keeps_ofExcept _).obeys.bind fun _ => ?_
  exact keeps_readPoObserved.obeys.bind fun _ => obeys_transaction_of_returning fun _ _ _ ran => reconcileWithin_held ran

/-! ## Cancellation -/

theorem cancelPurchase_held {tenant : Uuid} {reason : String} {now : Timestamp} {before : Store}
    {purchase : SupplierPurchaseOrder} (member : purchase ∈ before.purchaseOrders.rows) (held : Held before s.db)
    (ran : (cancelPurchase tenant reason now purchase).run s = (.ok (), t)) : Held before t.db := by
  unfold cancelPurchase at ran
  split at ran
  · next waiting =>
    simp only [saveInTurn, updatePurchaseOrder_eq_ok] at ran
    obtain ⟨_, -, -, -, rfl⟩ := ran
    have on : stage purchase.status ≤ stage .cancelled := by
      rcases waiting with waiting | waiting <;> rw [waiting] <;> decide
    exact held.saved { purchase with status := .cancelled, version := purchase.version + 1 } member
      (succeeds_next purchase on) rfl rfl
  · split at ran
    · simp only [saveInTurn, bind_eq_ok, updatePurchaseOrder_eq_ok, publish_eq_ok] at ran
      obtain ⟨_, _, ⟨_, -, -, -, rfl⟩, -, rfl⟩ := ran
      have on : stage purchase.status ≤ stage .cancelRequested := by cases purchase.status <;> decide
      exact held.saved { purchase with status := .cancelRequested, version := purchase.version + 1 } member
        (succeeds_next purchase on) rfl rfl
    · obtain ⟨-, rfl⟩ := (pure_eq_ok _ _ _ _).mp ran
      exact held

/-- Induction on the purchase orders that are left, each as the cancellation found it. -/
theorem cancels_held {tenant : Uuid} {reason : String} {now : Timestamp} {before : Store}
    {remaining : List SupplierPurchaseOrder} (members : ∀ purchase ∈ remaining, purchase ∈ before.purchaseOrders.rows)
    (held : Held before s.db) (ran : (each remaining (cancelPurchase tenant reason now)).run s = (.ok (), t)) :
    Held before t.db := by
  induction remaining generalizing s with
  | nil =>
    rw [(each_nil_eq_ok _ _ _ _).mp ran]
    exact held
  | cons purchase rest ih =>
    obtain ⟨middle, first, others⟩ := (each_cons_eq_ok _ _ _ _ _ _).mp ran
    apply ih
    · exact fun other later => members other (List.mem_cons_of_mem _ later)
    · exact cancelPurchase_held (members purchase List.mem_cons_self) held first
    · exact others

theorem requestDemoCancel_held {orderId : Uuid} {reason : String} {expectedOrderVersion : Int} :
    Obeys Held (requestDemoCancel env context orderId reason expectedOrderVersion) := by
  refine (keeps_require _).obeys.bind fun _ => (keeps_ensure _ _).obeys.bind fun _ => obeys_transaction_of_returning ?_
  intro s result t ran
  simp only [bind_eq_ok, getChannelOrder_eq_ok] at ran
  obtain ⟨order, start, ⟨found, same⟩, ran⟩ := ran
  rw [same] at ran
  split at ran
  · obtain ⟨-, rfl⟩ := (pure_eq_ok _ _ _ _).mp ran
    exact .refl _
  · simp only [cancelOpen, bind_eq_ok, ensure_eq_ok, purchaseOrdersFor_eq_ok, updateChannelOrder_eq_ok, now_eq_ok,
      auditBy_eq_ok, publish_eq_ok, pure_eq_ok] at ran
    obtain ⟨_, _, ⟨_, _, ⟨-, checked⟩, purchases, _, ⟨-, rows, listed⟩, _, moved, ⟨_, -, -, -, moving⟩, _, _, ⟨-, reading⟩, _, last,
      cancels, _, _, rfl, _, _, ⟨-, rfl⟩, -, rfl⟩, -, rfl⟩ := ran
    rw [listed, checked] at moving
    rw [checked] at rows
    rw [reading, moving] at cancels
    have members : ∀ purchase ∈ purchases, purchase ∈ s.db.purchaseOrders.rows := by
      intro purchase member
      rw [← rows] at member
      exact List.mem_of_mem_filter member
    let cancelled : ChannelOrder := { order with status := .cancelled, version := order.version + 1 }
    have begun : Held s.db { s.db with channelOrders := s.db.channelOrders.put cancelled } := .of_same rfl
    have ended : Held s.db last.db := cancels_held members begun cancels
    exact ended.trans (.of_same rfl)

end AiStore.Purchasing
