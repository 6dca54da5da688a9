import AiStore.Library.Preorder
import AiStore.Purchasing.Cancellation

/-! Cancelled orders: none of their purchase orders is alive, whatever runs before or after the cancellation. -/

set_option autoImplicit false

namespace AiStore.Purchasing

open Library (Session Table final)
open Library.Txn Failure Repository Service Approvals

/-! ## The invariant -/

/-- A purchase order that asks nothing more of its supplier. -/
def Idle (status : PurchaseOrderState) : Prop := status = .cancelled ∨ status = .cancelRequested ∨ status = .exception

/-- The purchase orders of a cancelled order are idle. An exception has its response on record, so no other can follow it,
and none is a draft, which a cancellation would leave. -/
structure Closed (db : Store) : Prop where
  idle : ∀ order ∈ db.channelOrders.rows, order.status = .cancelled → ∀ row ∈ db.purchaseOrders.rows,
    row.tenantId = order.tenantId → row.channelOrderId = order.id → Idle row.status
  answered : ∀ row ∈ db.purchaseOrders.rows, row.status = .exception → row.lastResponseDigest ≠ none
  issued : ∀ row ∈ db.purchaseOrders.rows, row.status ≠ .draft

def Closes (before after : Store) : Prop := Closed before → Closed after

instance : Std.Refl Closes := ⟨fun _ closed => closed⟩

instance : IsTrans Store Closes := ⟨fun _ _ _ first second closed => second (first closed)⟩

def orderTables (db : Store) := (db.channelOrders, db.purchaseOrders)

theorem closed_newSession : Closed {} where
  idle _ member := absurd member List.not_mem_nil
  answered _ member := absurd member List.not_mem_nil
  issued _ member := absurd member List.not_mem_nil

section

variable {before after : Store}

theorem Closed.of_same (closed : Closed before) (same : orderTables after = orderTables before) : Closed after := by
  obtain ⟨orders, purchases⟩ := Prod.mk.inj same
  constructor
  · rw [orders, purchases]
    exact closed.idle
  · rw [purchases]
    exact closed.answered
  · rw [purchases]
    exact closed.issued

/-- An order moves on without being cancelled. -/
theorem Closed.orderMoved (closed : Closed before) {row : ChannelOrder} (alive : row.status ≠ .cancelled)
    (orders : after.channelOrders = before.channelOrders.put row) (purchases : after.purchaseOrders = before.purchaseOrders) :
    Closed after := by
  constructor
  · rw [orders, purchases]
    exact Table.forall_put closed.idle fun cancelled => absurd cancelled alive
  · rw [purchases]
    exact closed.answered
  · rw [purchases]
    exact closed.issued

/-- A purchase order of an order that is not cancelled is saved. -/
theorem Closed.saved (closed : Closed before) {row : SupplierPurchaseOrder}
    (alive : ∀ order ∈ before.channelOrders.rows, row.tenantId = order.tenantId → row.channelOrderId = order.id →
      order.status ≠ .cancelled)
    (answered : row.status = .exception → row.lastResponseDigest ≠ none) (issued : row.status ≠ .draft)
    (orders : after.channelOrders = before.channelOrders) (purchases : after.purchaseOrders = before.purchaseOrders.put row) :
    Closed after := by
  constructor
  · rw [orders, purchases]
    intro order order_member cancelled other member tenant about
    rcases (Table.mem_put _ _ _).mp member with rfl | ⟨old, -⟩
    · exact absurd cancelled (alive order order_member tenant about)
    · exact closed.idle order order_member cancelled other old tenant about
  · rw [purchases]
    exact Table.forall_put closed.answered answered
  · rw [purchases]
    exact Table.forall_put closed.issued issued

/-- The order of a purchase order is the one under its key. -/
theorem alive_of_found {tenant id : Uuid} {order : ChannelOrder} (found : before.channelOrders.get? (tenant, id) = some order)
    (alive : order.status ≠ .cancelled) :
    ∀ other ∈ before.channelOrders.rows, tenant = other.tenantId → id = other.id → other.status ≠ .cancelled := by
  intro other member same_tenant same_id
  have here : before.channelOrders.get? (tenant, id) = some other := by
    rw [same_tenant, same_id]
    exact Table.get?_key _ member
  cases Option.some.inj (found.symm.trans here)
  exact alive

end

variable {env : Env} {context : TenantContext} {s t : Session Store}

theorem closes_of_keeps {α : Type} {body : Op α} (keeps : Keeps orderTables body) : Obeys Closes body :=
  fun s closed => closed.of_same (keeps s)

/-! ## Decisions -/

/-- A purchase order is verified only while its order awaits it. -/
theorem verifyPo_order {tenant purchaseId : Uuid} {purchase : SupplierPurchaseOrder} {command : Command}
    (ran : (verifyPo env tenant purchaseId).run s = (.ok (purchase, command), t)) :
    ∃ order, s.db.channelOrders.get? (tenant, purchase.channelOrderId) = some order ∧ order.status = .poPending := by
  simp only [verifyPo, bind_eq_ok, getPurchaseOrder_eq_ok, ensure_eq_ok, fetch_eq_ok, getChannelOrder_eq_ok,
    pure_eq_ok, Prod.mk.injEq] at ran
  obtain ⟨_, _, ⟨-, rfl⟩, _, _, ⟨-, rfl⟩, _, _, ⟨-, rfl⟩, order, _, ⟨found, rfl⟩, _, _, ⟨waiting, rfl⟩, _, _, -, _, _, -, _, _, -,
    _, _, -, _, _, -, _, _, -, _, _, -, ⟨rfl, -⟩, -⟩ := ran
  exact ⟨order, found, waiting⟩

theorem approveWithin_closes {purchaseId : Uuid} {approve expired : Bool} {reason : String} {result : SupplierPurchaseOrder}
    (ran : (approveWithin env context purchaseId approve reason).run s = (.ok (result, expired), t)) : Closes s.db t.db := by
  intro closed
  simp only [approveWithin, bind_eq_ok, require_eq_ok] at ran
  obtain ⟨_, start, ⟨-, rfl⟩, ⟨purchase, command⟩, checked, verifying, ⟨approval, late⟩, middle, deciding, ran⟩ := ran
  obtain ⟨order, order_found, waiting⟩ := verifyPo_order verifying
  obtain ⟨rfl, found, -⟩ := verifyPo_ok verifying
  have tenant : purchase.tenantId = context.tenantId := congrArg Prod.fst (Table.key_of_get? found)
  have same : orderTables middle.db = orderTables checked.db := decideWithin_keeps (fun _ _ _ _ _ => rfl) deciding
  obtain ⟨orders, -⟩ := Prod.mk.inj same
  have between : Closed middle.db := closed.of_same same
  cases late with
  | true =>
    simp only [if_true, pure_eq_ok] at ran
    obtain ⟨-, rfl⟩ := ran
    exact between
  | false =>
    simp only [Bool.false_eq_true, if_false, projectDecision, saveInTurn, bind_eq_ok, updatePurchaseOrder_eq_ok, now_eq_ok,
      auditBy_eq_ok, publish_eq_ok, pure_eq_ok] at ran
    obtain ⟨_, _, ⟨_, _, ⟨_, -, -, -, rfl⟩, _, _, ⟨-, rfl⟩, _, _, rfl, _, _, ⟨-, rfl⟩, -, rfl⟩, -, rfl⟩ := ran
    refine between.saved ?_ ?_ ?_ rfl rfl
    · rw [orders]
      change ∀ order ∈ _, purchase.tenantId = _ → _
      rw [tenant]
      exact alive_of_found order_found (by rw [waiting]; decide)
    · cases approve <;> simp [decidedPurchase]
    · cases approve <;> simp [decidedPurchase]

theorem approveDemoPo_closes {purchaseId : Uuid} {approve : Bool} {reason : String} :
    Obeys Closes (approveDemoPo env context purchaseId approve reason) := by
  refine (keeps_require _).obeys.bind fun _ => (keeps_ensure _ _).obeys.bind fun _ => ?_
  refine Obeys.bind (obeys_transaction_of_returning fun _ _ _ ran => approveWithin_closes ran) fun _ => ?_
  exact ((keeps_ensure _ _).bind fun _ => keeps_pure _).obeys

theorem decide_closes {commandId : Uuid} {approve : Bool} {reason : String} :
    Obeys Closes (decide env context commandId approve reason) := by
  refine (keeps_getCommand _).caught.obeys.bind fun found => ?_
  cases found with
  | error why =>
    refine Obeys.bind (closes_of_keeps ?_) fun _ => (keeps_raise _).obeys
    unfold reportBoundary
    split
    · exact Keeps.transaction fun _ => rfl
    · exact keeps_pure _
  | ok command =>
    refine (Approvals.keeps_linkedPurchases _ _ _).obeys.bind fun linked => ?_
    cases linked with
    | nil =>
      refine Obeys.bind (obeys_transaction_of_returning ?_) fun _ => ((keeps_ensure _ _).bind fun _ => keeps_pure _).obeys
      intro s result t ran closed
      exact closed.of_same (decideWithin_keeps (fun _ _ _ _ _ => rfl) ran)
    | cons purchase rest => exact approveDemoPo_closes.bind fun _ => (keeps_getApprovalForCommand _).obeys

/-! ## Renewal, submission and response -/

theorem regenerateDemoPo_closes {purchaseId : Uuid} {reason : String} {expectedPoVersion : Int} :
    Obeys Closes (regenerateDemoPo env context purchaseId reason expectedPoVersion) := by
  refine (keeps_require _).obeys.bind fun _ => (keeps_ensure _ _).obeys.bind fun _ => ?_
  refine obeys_transaction_of_returning ?_
  intro s result t ran closed
  simp only [bind_eq_ok, getPurchaseOrder_eq_ok, ensure_eq_ok, getChannelOrder_eq_ok, fetch_eq_ok,
    getApprovalForCommand_eq_ok] at ran
  obtain ⟨purchase, _, ⟨found, rfl⟩, _, _, ⟨-, rfl⟩, order, _, ⟨order_found, rfl⟩, _, _, ⟨waiting, rfl⟩, prior, _, ⟨-, rfl⟩,
    previous, start, ⟨-, -, rfl⟩, usable, unread, reading, _, _, ⟨-, same⟩, payload, unchanged, routing, ⟨command, approval⟩,
    asked, requesting, ran⟩ := ran
  have unmoved := routedPayload_session routing
  rw [unmoved, same] at requesting
  have read : orderTables unread.db = orderTables start.db := (keeps_renewable _ _).of_run reading
  have asking : orderTables asked.db = orderTables unread.db :=
    (keeps_requestApproval fun _ _ _ _ _ _ _ _ => rfl).of_run requesting
  have kept : orderTables asked.db = orderTables start.db := asking.trans read
  obtain ⟨orders, -⟩ := Prod.mk.inj kept
  have between : Closed asked.db := closed.of_same kept
  have tenant : purchase.tenantId = context.tenantId := congrArg Prod.fst (Table.key_of_get? found)
  simp only [updatePurchaseOrder_eq_ok, now_eq_ok, auditBy_eq_ok, publish_eq_ok, pure_eq_ok] at ran
  obtain ⟨_, _, ⟨_, -, -, -, rfl⟩, _, _, ⟨-, rfl⟩, _, _, rfl, _, _, ⟨-, rfl⟩, -, rfl⟩ := ran
  refine between.saved ?_ (by simp) (by simp) rfl rfl
  rw [orders]
  change ∀ order ∈ _, purchase.tenantId = _ → _
  rw [tenant]
  exact alive_of_found order_found (by rw [waiting]; decide)

theorem submitDemoPo_closes {purchaseId : Uuid} : Obeys Closes (submitDemoPo env context purchaseId) := by
  have unwinds : Unwinds id (submitDemoPo env context purchaseId) :=
    Unwinds.bind (keeps_require _) fun _ => unwinds_transaction _
  have keeps : Keeps Store.channelOrders (submitDemoPo env context purchaseId) :=
    keeps_submitDemoPo fun _ _ _ _ _ => rfl
  refine obeys_of_returning unwinds ?_
  intro s submitted t ran closed
  obtain ⟨purchase, order, command, approval, intent, rfl, submitting, rfl, controlled⟩ := submitDemoPo_ok ran
  simp only [controlledTables, Prod.mk.injEq] at controlled
  have tenant : purchase.tenantId = context.tenantId := congrArg Prod.fst (Table.key_of_get? submitting.purchase_found)
  refine closed.saved ?_ (by simp) (by simp) (keeps.of_run ran) controlled.2.2
  change ∀ order ∈ _, purchase.tenantId = _ → _
  rw [tenant]
  exact alive_of_found submitting.order_found (by rw [submitting.order_pending]; decide)

/-- A response is filed only for a purchase order that is not idle: an exception has had its response. -/
theorem reconcileWithin_closes {purchaseId : Uuid} {status : PoResponseStatus} {reference : Option String} {digest : String}
    {observed : Timestamp} {result : SupplierPurchaseOrder × Bool}
    (ran : (reconcileWithin env context purchaseId status reference digest observed).run s = (.ok result, t)) :
    Closes s.db t.db := by
  intro closed
  simp only [reconcileWithin, bind_eq_ok, getPurchaseOrder_eq_ok, ensure_eq_ok] at ran
  obtain ⟨purchase, _, ⟨found, rfl⟩, _, start, ⟨open_status, rfl⟩, ran⟩ := ran
  split at ran
  · obtain ⟨-, rfl⟩ := (pure_eq_ok _ _ _ _).mp ran
    exact closed
  · simp only [bind_eq_ok, ensure_eq_ok] at ran
    obtain ⟨_, _, ⟨unanswered, same⟩, ran⟩ := ran
    rw [same] at ran
    split at ran
    · obtain ⟨-, rfl⟩ := (pure_eq_ok _ _ _ _).mp ran
      exact closed
    · simp only [fileResponse, saveInTurn, bind_eq_ok, updatePurchaseOrder_eq_ok, auditBy_eq_ok, publish_eq_ok,
        pure_eq_ok] at ran
      obtain ⟨_, _, ⟨_, _, ⟨_, -, -, -, rfl⟩, _, _, rfl, _, _, ⟨-, rfl⟩, -, rfl⟩, -, rfl⟩ := ran
      have member := Table.mem_of_get? found
      refine closed.saved ?_ (fun _ => Option.some_ne_none digest) ?_ rfl rfl
      · intro order order_member tenant about cancelled
        have exceptional : purchase.status = .exception := by
          rcases closed.idle order order_member cancelled purchase member tenant about with idle | idle | idle <;>
            simp_all
        exact closed.answered purchase member exceptional unanswered
      · simp only [respondedPurchase]
        split <;> simp

theorem reconcileDemoPo_closes {purchaseId : Uuid} {response : Mapping} :
    Obeys Closes (reconcileDemoPo env context purchaseId response) := by
  refine (keeps_require _).obeys.bind fun _ => (keeps_ensure _ _).obeys.bind fun _ => ?_
  refine (keeps_fetch _ _).obeys.bind fun _ => (keeps_ofExcept _).obeys.bind fun _ => (keeps_ofExcept _).obeys.bind fun _ => ?_
  exact keeps_readPoObserved.obeys.bind fun _ => obeys_transaction_of_returning fun _ _ _ ran => reconcileWithin_closes ran

/-! ## Routing -/

/-- An order that purchases are being made for. -/
structure Buying (tenant order : Uuid) (db : Store) : Prop where
  closed : Closed db
  alive : ∃ row, db.channelOrders.get? (tenant, order) = some row ∧ row.status ≠ .cancelled

theorem Buying.of_same {tenant order : Uuid} {before after : Store} (buying : Buying tenant order before)
    (same : orderTables after = orderTables before) : Buying tenant order after := by
  refine ⟨buying.closed.of_same same, ?_⟩
  rw [(Prod.mk.inj same).1]
  exact buying.alive

theorem advanceOrder_ok {tenant order : Uuid} {expectedOrderVersion : Int} {status : ChannelOrderState} {row : ChannelOrder}
    (ran : (advanceOrder tenant order expectedOrderVersion status).run s = (.ok row, t)) :
    ∃ current, s.db.channelOrders.get? (tenant, order) = some current ∧ (current.version : Int) = expectedOrderVersion ∧
      row = { current with status := status, version := current.version + 1 } ∧
      t = { s with db := { s.db with channelOrders := s.db.channelOrders.put row } } := by
  simp only [advanceOrder, bind_eq_ok, getChannelOrder_eq_ok, ensure_eq_ok, updateChannelOrder_eq_ok, pure_eq_ok] at ran
  obtain ⟨current, _, ⟨found, rfl⟩, _, _, ⟨version, rfl⟩, _, _, ⟨_, -, -, -, rfl⟩, rfl, rfl⟩ := ran
  exact ⟨current, found, version, rfl, rfl⟩

/-- An order that goes on, but is not cancelled, can have purchases made for it. -/
theorem advanceOrder_buying {tenant order : Uuid} {expectedOrderVersion : Int} {status : ChannelOrderState}
    {row : ChannelOrder} (alive : status ≠ .cancelled) (closed : Closed s.db)
    (ran : (advanceOrder tenant order expectedOrderVersion status).run s = (.ok row, t)) : Buying tenant order t.db := by
  obtain ⟨current, found, -, rfl, rfl⟩ := advanceOrder_ok ran
  refine ⟨closed.orderMoved alive rfl rfl, { current with status := status, version := current.version + 1 }, ?_, alive⟩
  have named : current.key = (tenant, order) := Table.key_of_get? found
  rw [← named]
  exact Table.get?_put_self s.db.channelOrders { current with status := status, version := current.version + 1 }

theorem purchaseFrom_buying {order : Uuid} {targetVersion : Nat} {now : Timestamp} {selected : List Selection}
    {supplier : String} {result : SupplierPurchaseOrder} (buying : Buying context.tenantId order s.db)
    (ran : (purchaseFrom env context order targetVersion now selected supplier).run s = (.ok result, t)) :
    Buying context.tenantId order t.db := by
  simp only [purchaseFrom, bind_eq_ok, freshUuid_eq_ok, pure_eq_ok] at ran
  obtain ⟨⟨command, approval⟩, asked, requesting, id, _, ⟨rfl, rfl⟩, ⟨saved, existed⟩, stored, saving, _, _, lines, -,
    rfl⟩ := ran
  have requested : Buying context.tenantId order asked.db := buying.of_same ((keeps_requestApproval fun _ _ _ _ _ _ _ _ => rfl).of_run requesting)
  have frame : Keeps orderTables (each (selected.filter (·.supplier = supplier)) (savePurchased context.tenantId saved.id)) :=
    Keeps.each _ fun selection => keeps_savePurchased (fun _ _ => rfl) selection
  refine Buying.of_same ?_ (frame.of_run lines)
  rcases savePurchaseOrder_ok saving with ⟨rfl, -⟩ | ⟨-, -, -, rfl⟩
  · exact requested
  · obtain ⟨row, found, alive⟩ := requested.alive
    exact ⟨requested.closed.saved (alive_of_found found alive) (by simp) (by simp) rfl rfl, row, found, alive⟩

/-- Induction on the suppliers that are left. -/
theorem purchases_buying {order : Uuid} {targetVersion : Nat} {now : Timestamp} {selected : List Selection}
    {remaining : List String} {result : List SupplierPurchaseOrder} (buying : Buying context.tenantId order s.db)
    (ran : (collect remaining (purchaseFrom env context order targetVersion now selected)).run s = (.ok result, t)) :
    Buying context.tenantId order t.db := by
  induction remaining generalizing s result with
  | nil =>
    obtain ⟨-, rfl⟩ := (collect_nil_eq_ok _ _ _ _).mp ran
    exact buying
  | cons supplier rest ih =>
    obtain ⟨first, middle, others, saving, continuing, -⟩ := (collect_cons_eq_ok _ _ _ _ _ _).mp ran
    exact ih (purchaseFrom_buying buying saving) continuing

theorem routeSelected_closes {order : Uuid} {expectedOrderVersion : Int} {selected : Except String (List Selection)} :
    Obeys Closes (routeSelected env context order expectedOrderVersion selected) := by
  cases selected with
  | error sku =>
    refine obeys_transaction_of_returning ?_
    intro s result t ran closed
    simp only [bind_eq_ok, auditBy_eq_ok, pure_eq_ok] at ran
    obtain ⟨row, middle, advancing, _, _, rfl, -, rfl⟩ := ran
    have buying : Buying context.tenantId order middle.db := advanceOrder_buying (by decide) closed advancing
    exact buying.closed.of_same rfl
  | ok selected =>
    refine keeps_now.obeys.bind fun now => obeys_transaction_of_returning ?_
    intro s result t ran closed
    simp only [bind_eq_ok, auditBy_eq_ok, pure_eq_ok] at ran
    obtain ⟨current, stepped, stepping, _, routed, routing, purchases, last, purchasing, _, _, rfl, -, rfl⟩ := ran
    have frame : Keeps orderTables (each selected (routeLine context.tenantId)) :=
      Keeps.each _ fun selection => keeps_routeLine (fun _ _ _ => rfl) selection
    have started : Buying context.tenantId order stepped.db := advanceOrder_buying (by decide) closed stepping
    have bought := purchases_buying (started.of_same (frame.of_run routing)) purchasing
    exact bought.closed.of_same rfl

theorem proposeRouting_closes {order : Uuid} {supplierOptions : Mapping} {expectedOrderVersion : Int} :
    Obeys Closes (proposeRouting env context order supplierOptions expectedOrderVersion) := by
  refine (keeps_require _).obeys.bind fun _ => (keeps_getChannelOrder _ _).obeys.bind fun current => ?_
  refine (keeps_ensure _ _).obeys.bind fun _ => (keeps_ensure _ _).obeys.bind fun _ => ?_
  refine (keeps_purchaseOrdersFor _ _).obeys.bind fun existing => ?_
  split
  · exact (keeps_pure _).obeys
  · refine (keeps_orderLinesFor _ _).obeys.bind fun lines => (keeps_ofExcept _).obeys.bind fun selected => ?_
    exact routeSelected_closes

/-! ## Cancellation -/

/-- An order is being cancelled: its purchase orders are idle but for those still to be seen. -/
structure Closing (order : ChannelOrder) (remaining : List SupplierPurchaseOrder) (before db : Store) : Prop where
  orders : db.channelOrders = before.channelOrders.put order
  idle : ∀ row ∈ db.purchaseOrders.rows, row.tenantId = order.tenantId → row.channelOrderId = order.id →
    Idle row.status ∨ row ∈ remaining
  others : ∀ row ∈ db.purchaseOrders.rows, ¬ (row.tenantId = order.tenantId ∧ row.channelOrderId = order.id) →
    row ∈ before.purchaseOrders.rows
  answered : ∀ row ∈ db.purchaseOrders.rows, row.status = .exception → row.lastResponseDigest ≠ none
  issued : ∀ row ∈ db.purchaseOrders.rows, row.status ≠ .draft

section

variable {order : ChannelOrder} {purchase : SupplierPurchaseOrder} {rest : List SupplierPurchaseOrder} {before : Store}

/-- The next purchase order is saved as an idle one. -/
theorem Closing.saved (closing : Closing order (purchase :: rest) before s.db) {status : PurchaseOrderState}
    (settled : status = .cancelled ∨ status = .cancelRequested)
    (own : purchase.tenantId = order.tenantId ∧ purchase.channelOrderId = order.id)
    (ran : (saveInTurn { purchase with status := status, version := purchase.version + 1 }).run s = (.ok (), t)) :
    Closing order rest before t.db := by
  simp only [saveInTurn, updatePurchaseOrder_eq_ok] at ran
  obtain ⟨current, found, version, -, rfl⟩ := ran
  have unexceptional : status ≠ .exception ∧ status ≠ .draft := by
    rcases settled with rfl | rfl <;> decide
  refine ⟨closing.orders, ?_, ?_, ?_, ?_⟩
  · intro row member tenant about
    rcases (Table.mem_put _ _ _).mp member with rfl | ⟨old, apart⟩
    · rcases settled with settled | settled
      · exact .inl (.inl settled)
      · exact .inl (.inr (.inl settled))
    · rcases closing.idle row old tenant about with idle | waiting
      · exact .inl idle
      · rcases List.mem_cons.mp waiting with rfl | later
        · exact absurd rfl apart
        · exact .inr later
  · exact Table.forall_put closing.others fun foreign => absurd own foreign
  · exact Table.forall_put closing.answered fun exceptional => absurd exceptional unexceptional.1
  · exact Table.forall_put closing.issued unexceptional.2

/-- One that is neither decided nor under way is idle already. -/
theorem Closing.skipped (closing : Closing order (purchase :: rest) before s.db)
    (past : purchase ∈ s.db.purchaseOrders.rows → Idle purchase.status) : Closing order rest before s.db := by
  refine ⟨closing.orders, ?_, closing.others, closing.answered, closing.issued⟩
  intro row member tenant about
  rcases closing.idle row member tenant about with idle | waiting
  · exact .inl idle
  · rcases List.mem_cons.mp waiting with rfl | later
    · exact .inl (past member)
    · exact .inr later

theorem Closing.step {tenant : Uuid} {reason : String} {now : Timestamp}
    (closing : Closing order (purchase :: rest) before s.db)
    (own : purchase.tenantId = order.tenantId ∧ purchase.channelOrderId = order.id)
    (ran : (cancelPurchase tenant reason now purchase).run s = (.ok (), t)) : Closing order rest before t.db := by
  unfold cancelPurchase at ran
  split at ran
  · exact closing.saved (.inl rfl) own ran
  · next undecided =>
    split at ran
    · simp only [bind_eq_ok, publish_eq_ok] at ran
      obtain ⟨_, middle, saving, -, rfl⟩ := ran
      have saved : Closing order rest before middle.db := closing.saved (.inr rfl) own saving
      exact ⟨saved.orders, saved.idle, saved.others, saved.answered, saved.issued⟩
    · next unsent =>
      obtain ⟨-, rfl⟩ := (pure_eq_ok _ _ _ _).mp ran
      apply closing.skipped
      intro member
      have issued := closing.issued purchase member
      -- every other status is idle
      cases status : purchase.status <;> simp_all [Idle]

/-- Induction on the purchase orders still to be seen. -/
theorem Closing.steps {tenant : Uuid} {reason : String} {now : Timestamp} {remaining : List SupplierPurchaseOrder}
    (own : ∀ purchase ∈ remaining, purchase.tenantId = order.tenantId ∧ purchase.channelOrderId = order.id)
    (closing : Closing order remaining before s.db)
    (ran : (each remaining (cancelPurchase tenant reason now)).run s = (.ok (), t)) : Closing order [] before t.db := by
  induction remaining generalizing s with
  | nil =>
    rw [(each_nil_eq_ok _ _ _ _).mp ran]
    exact closing
  | cons purchase rest ih =>
    obtain ⟨middle, first, others⟩ := (each_cons_eq_ok _ _ _ _ _ _).mp ran
    apply ih
    · exact fun other later => own other (List.mem_cons_of_mem _ later)
    · exact closing.step (own purchase List.mem_cons_self) first
    · exact others

/-- When all of them have been seen, the order is closed. -/
theorem Closing.closed (closing : Closing order [] before t.db) (earlier : Closed before) : Closed t.db := by
  refine ⟨?_, closing.answered, closing.issued⟩
  rw [closing.orders]
  intro other member cancelled row row_member tenant about
  by_cases own : row.tenantId = order.tenantId ∧ row.channelOrderId = order.id
  · rcases closing.idle row row_member own.1 own.2 with idle | waiting
    · exact idle
    · cases waiting
  · rcases (Table.mem_put _ _ _).mp member with rfl | ⟨old, -⟩
    · exact absurd ⟨tenant, about⟩ own
    · exact earlier.idle other old cancelled row (closing.others row row_member own) tenant about

end

theorem requestDemoCancel_closes {orderId : Uuid} {reason : String} {expectedOrderVersion : Int} :
    Obeys Closes (requestDemoCancel env context orderId reason expectedOrderVersion) := by
  refine (keeps_require _).obeys.bind fun _ => (keeps_ensure _ _).obeys.bind fun _ => obeys_transaction_of_returning ?_
  intro s result t ran closed
  simp only [bind_eq_ok, getChannelOrder_eq_ok] at ran
  obtain ⟨order, start, ⟨found, same⟩, ran⟩ := ran
  rw [same] at ran
  have named : order.key = (context.tenantId, orderId) := Table.key_of_get? found
  have tenant : order.tenantId = context.tenantId := congrArg Prod.fst named
  split at ran
  · obtain ⟨-, rfl⟩ := (pure_eq_ok _ _ _ _).mp ran
    exact closed
  · simp only [cancelOpen, bind_eq_ok, ensure_eq_ok, purchaseOrdersFor_eq_ok, updateChannelOrder_eq_ok, now_eq_ok,
      auditBy_eq_ok, publish_eq_ok, pure_eq_ok] at ran
    obtain ⟨_, _, ⟨_, _, ⟨-, checked⟩, purchases, _, ⟨-, rows, listed⟩, _, moved, ⟨_, -, -, -, moving⟩, _, _, ⟨-, reading⟩, _, last,
      cancels, _, _, rfl, _, _, ⟨-, rfl⟩, -, rfl⟩, -, rfl⟩ := ran
    rw [listed, checked] at moving
    rw [checked] at rows
    have own : ∀ purchase ∈ purchases, purchase.tenantId = order.tenantId ∧ purchase.channelOrderId = order.id := by
      intro purchase member
      rw [← rows, List.mem_filter, decide_eq_true_eq] at member
      exact ⟨member.2.1.trans tenant.symm, member.2.2⟩
    rw [reading, moving] at cancels
    let cancelled : ChannelOrder := { order with status := .cancelled, version := order.version + 1 }
    have begun : Closing cancelled purchases s.db { s.db with channelOrders := s.db.channelOrders.put cancelled } := by
      refine ⟨rfl, ?_, fun _ member _ => member, closed.answered, closed.issued⟩
      intro row member row_tenant about
      right
      rw [← rows, List.mem_filter, decide_eq_true_eq]
      exact ⟨member, row_tenant.trans tenant, about⟩
    have seen : Closing cancelled [] s.db last.db := Closing.steps own begun cancels
    exact (seen.closed closed).of_same rfl

/-! ## Runs -/

/-- Purchase orders stay, and no order is cancelled that was not. -/
structure Leaves (before after : Store) : Prop where
  purchases : after.purchaseOrders = before.purchaseOrders
  cancelled : ∀ order ∈ after.channelOrders.rows, order.status = .cancelled →
    ∃ old ∈ before.channelOrders.rows, old.key = order.key ∧ old.status = .cancelled

theorem Leaves.closes {before after : Store} (leaves : Leaves before after) : Closes before after := by
  intro closed
  constructor
  · rw [leaves.purchases]
    intro order member cancelled row row_member tenant about
    obtain ⟨old, old_member, named, old_cancelled⟩ := leaves.cancelled order member cancelled
    obtain ⟨same_tenant, same_id⟩ := Prod.mk.inj named
    exact closed.idle old old_member old_cancelled row row_member (tenant.trans same_tenant.symm) (about.trans same_id.symm)
  · rw [leaves.purchases]
    exact closed.answered
  · rw [leaves.purchases]
    exact closed.issued

/-- A call on an order or one of its purchase orders, or any operation that leaves both as they are or takes in new orders. -/
inductive OrderCall (env : Env) where
  | proposeRouting (context : TenantContext) (order : Uuid) (supplierOptions : Mapping) (expectedOrderVersion : Int)
  | approveDemoPo (context : TenantContext) (purchaseId : Uuid) (approve : Bool) (reason : String)
  | decide (context : TenantContext) (commandId : Uuid) (approve : Bool) (reason : String)
  | submitDemoPo (context : TenantContext) (purchaseId : Uuid)
  | regenerateDemoPo (context : TenantContext) (purchaseId : Uuid) (reason : String) (expectedPoVersion : Int)
  | reconcileDemoPo (context : TenantContext) (purchaseId : Uuid) (response : Mapping)
  | requestDemoCancel (context : TenantContext) (orderId : Uuid) (reason : String) (expectedOrderVersion : Int)
  | elsewhere (operation : Op Unit) (leaves : Obeys Leaves operation)

namespace Order

def perform : OrderCall env → Op Unit
  | .proposeRouting context order supplierOptions expectedOrderVersion =>
      quietly (Purchasing.proposeRouting env context order supplierOptions expectedOrderVersion)
  | .approveDemoPo context purchaseId approve reason =>
      quietly (Purchasing.approveDemoPo env context purchaseId approve reason)
  | .decide context commandId approve reason => quietly (Purchasing.decide env context commandId approve reason)
  | .submitDemoPo context purchaseId => quietly (Purchasing.submitDemoPo env context purchaseId)
  | .regenerateDemoPo context purchaseId reason expectedPoVersion =>
      quietly (Purchasing.regenerateDemoPo env context purchaseId reason expectedPoVersion)
  | .reconcileDemoPo context purchaseId response => quietly (Purchasing.reconcileDemoPo env context purchaseId response)
  | .requestDemoCancel context orderId reason expectedOrderVersion =>
      quietly (Purchasing.requestDemoCancel env context orderId reason expectedOrderVersion)
  | .elsewhere operation _ => operation

def step (env : Env) (call : OrderCall env) (s : Session Store) : Except Failure Unit × Session Store :=
  (perform call).run s

end Order

theorem quietly_closes {α : Type} {operation : Op α} (closes : Obeys Closes operation) : Obeys Closes (quietly operation) :=
  closes.bind fun _ => (keeps_pure _).obeys

theorem perform_closes (call : OrderCall env) : Obeys Closes (Order.perform call) := by
  cases call with
  | proposeRouting => exact quietly_closes proposeRouting_closes
  | approveDemoPo => exact quietly_closes approveDemoPo_closes
  | decide => exact quietly_closes decide_closes
  | submitDemoPo => exact quietly_closes submitDemoPo_closes
  | regenerateDemoPo => exact quietly_closes regenerateDemoPo_closes
  | reconcileDemoPo => exact quietly_closes reconcileDemoPo_closes
  | requestDemoCancel => exact quietly_closes requestDemoCancel_closes
  | elsewhere operation leaves => exact leaves.mono fun _ _ left => left.closes

theorem run_closed (calls : List (OrderCall env)) : Closed (final (Order.step env) Execution.newSession calls).db :=
  Library.final_invariant (fun s => Closed s.db) closed_newSession fun call _ s closed => perform_closes call s closed

/-- In every reachable state, each purchase order of a cancelled order is cancelled, asked to be, or an exception. -/
theorem cancelled_orders_idle (env : Env) (calls : List (OrderCall env)) :
    let reached := final (Order.step env) Execution.newSession calls
    ∀ order ∈ reached.db.channelOrders.rows, order.status = .cancelled → ∀ row ∈ reached.db.purchaseOrders.rows,
      row.tenantId = order.tenantId → row.channelOrderId = order.id →
      row.status = .cancelled ∨ row.status = .cancelRequested ∨ row.status = .exception :=
  (run_closed calls).idle

def tookOrder : Op Unit := write fun store => { store with
  channelOrders := store.channelOrders.put soldOrder
  orderLines := store.orderLines.put soldLine }

theorem tookOrder_leaves : Obeys Leaves tookOrder := by
  apply obeys_write
  intro db
  refine ⟨rfl, ?_⟩
  intro order member cancelled
  rcases (Table.mem_put _ _ _).mp member with rfl | ⟨old, -⟩
  · cases cancelled
  · exact ⟨order, old, rfl, cancelled⟩

theorem founded_leaves : Obeys Leaves (quietly (bootstrapTenant idleEnv "Demo" "master@demo.test")) := by
  intro s
  have keeps : Keeps orderTables (quietly (bootstrapTenant idleEnv "Demo" "master@demo.test")) :=
    (keeps_bootstrapTenant fun _ _ _ _ _ => rfl).bind fun _ => keeps_pure _
  obtain ⟨orders, purchases⟩ := Prod.mk.inj (keeps s)
  refine ⟨purchases, ?_⟩
  rw [orders]
  exact fun order member cancelled => ⟨order, member, rfl, cancelled⟩

/-- An order is routed, its purchase order approved and submitted, and then the order is cancelled. -/
def cancelledSale : List (OrderCall idleEnv) :=
  [.elsewhere _ founded_leaves, .elsewhere _ tookOrder_leaves,
   .proposeRouting Execution.demoMaster 100 [("sku", .list [.dict [("supplier_id", .text "supplier"),
     ("unit_cost_minor", .int 5), ("available_quantity", .int 3)]])] 1,
   .approveDemoPo Execution.demoMaster 10 true "as shown", .submitDemoPo Execution.demoMaster 10,
   .requestDemoCancel Execution.demoMaster 100 "withdrawn" 2]

theorem cancelled_orders_idle_sale :
    let reached := final (Order.step idleEnv) Execution.newSession cancelledSale
    ∃ order ∈ reached.db.channelOrders.rows, order.status = .cancelled ∧ ∃ row ∈ reached.db.purchaseOrders.rows,
      row.channelOrderId = order.id ∧
        (row.status = .cancelled ∨ row.status = .cancelRequested ∨ row.status = .exception) := by
  have orders : ∃ order ∈ (final (Order.step idleEnv) Execution.newSession cancelledSale).db.channelOrders.rows,
      order.status = .cancelled ∧ ∃ row ∈ (final (Order.step idleEnv) Execution.newSession cancelledSale).db.purchaseOrders.rows,
        row.tenantId = order.tenantId ∧ row.channelOrderId = order.id := by
    decide +kernel
  obtain ⟨order, member, cancelled, row, row_member, tenant, about⟩ := orders
  exact ⟨order, member, cancelled, row, row_member, about,
    cancelled_orders_idle idleEnv cancelledSale order member cancelled row row_member tenant about⟩

end AiStore.Purchasing
