import AiStore.Purchasing.Intake
import AiStore.Purchasing.Partition

/-! Orders and what routing has made of them: an accepted order has no purchase order yet, whatever has run before. -/

set_option autoImplicit false

namespace AiStore.Purchasing

open Relation (ReflTransGen)
open Library (Session Table final)
open Library.Txn Failure Repository Service Approvals

/-! ## The invariant -/

/-- An order that routing, or something after it, has moved. -/
def Moved (db : Store) (tenant order : Uuid) : Prop :=
  ∃ row, db.channelOrders.get? (tenant, order) = some row ∧ row.status ≠ .accepted

/-- An order that purchases have been made for. -/
def Placed (db : Store) (tenant order : Uuid) : Prop :=
  ∃ row ∈ db.purchaseOrders.rows, row.tenantId = tenant ∧ row.channelOrderId = order

/-- Purchase orders belong to orders that have moved, and the keys of their approvals to orders that have them. -/
structure Bound (db : Store) : Prop where
  purchases : ∀ tenant order, Placed db tenant order → Moved db tenant order
  keys : ∀ tenant order supplier, db.commandIdempotency.get? (tenant, .routing order supplier) ≠ none →
    Placed db tenant order

/-- No order falls behind its version. -/
def Ages (before after : Store) : Prop := ∀ key row, before.channelOrders.get? key = some row →
  ∃ later, after.channelOrders.get? key = some later ∧ row.version ≤ later.version

theorem Ages.refl (db : Store) : Ages db db := fun _ row found => ⟨row, found, Nat.le_refl _⟩

theorem Ages.trans {first second third : Store} (left : Ages first second) (right : Ages second third) : Ages first third := by
  intro key row found
  obtain ⟨middle, middle_found, older⟩ := left key row found
  obtain ⟨later, later_found, old⟩ := right key middle middle_found
  exact ⟨later, later_found, older.trans old⟩

theorem Ages.of_same {before after : Store} (same : after.channelOrders = before.channelOrders) : Ages before after := by
  intro key row found
  rw [same]
  exact ⟨row, found, Nat.le_refl _⟩

theorem Ages.put {before after : Store} {row current : ChannelOrder}
    (found : before.channelOrders.get? row.key = some current) (older : current.version ≤ row.version)
    (written : after.channelOrders = before.channelOrders.put row) : Ages before after := by
  intro key other other_found
  rw [written]
  by_cases same : row.key = key
  · subst same
    cases Option.some.inj (found.symm.trans other_found)
    exact ⟨row, Table.get?_put_self _ row, older⟩
  · rw [Table.get?_put_of_ne _ same]
    exact ⟨other, other_found, Nat.le_refl _⟩

/-- What every operation but a routing does: no order is accepted again, and no purchase is made. -/
structure Steady (before after : Store) : Prop where
  moved : ∀ tenant order, Moved before tenant order → Moved after tenant order
  purchases : ∀ row ∈ after.purchaseOrders.rows, ∃ old ∈ before.purchaseOrders.rows,
    old.key = row.key ∧ old.channelOrderId = row.channelOrderId
  placed : ∀ tenant order, Placed before tenant order → Placed after tenant order
  keys : ∀ tenant order supplier, after.commandIdempotency.get? (tenant, .routing order supplier) ≠ none →
    before.commandIdempotency.get? (tenant, .routing order supplier) ≠ none
  lines : after.purchaseLines = before.purchaseLines
  ages : Ages before after

theorem Steady.refl (db : Store) : Steady db db where
  moved _ _ moved := moved
  purchases row member := ⟨row, member, rfl, rfl⟩
  placed _ _ placed := placed
  keys _ _ _ bound := bound
  lines := rfl
  ages := .refl db

theorem Steady.trans {first second third : Store} (left : Steady first second) (right : Steady second third) :
    Steady first third where
  moved tenant order moved := right.moved tenant order (left.moved tenant order moved)
  purchases row member := by
    obtain ⟨middle, middle_member, named, order⟩ := right.purchases row member
    obtain ⟨old, old_member, old_named, old_order⟩ := left.purchases middle middle_member
    exact ⟨old, old_member, old_named.trans named, old_order.trans order⟩
  placed tenant order placed := right.placed tenant order (left.placed tenant order placed)
  keys tenant order supplier bound := left.keys tenant order supplier (right.keys tenant order supplier bound)
  lines := right.lines.trans left.lines
  ages := left.ages.trans right.ages

instance : Std.Refl Steady := ⟨Steady.refl⟩

instance : IsTrans Store Steady := ⟨fun _ _ _ => Steady.trans⟩

def routedTables (db : Store) := (db.channelOrders, db.purchaseOrders, db.commandIdempotency, db.purchaseLines)

section

variable {before middle after : Store}

theorem Steady.of_same (same : routedTables after = routedTables before) : Steady before after := by
  simp only [routedTables, Prod.mk.injEq] at same
  obtain ⟨orders, purchases, keys, lines⟩ := same
  constructor
  · intro tenant order moved
    rw [Moved, orders]
    exact moved
  · rw [purchases]
    exact fun row member => ⟨row, member, rfl, rfl⟩
  · intro tenant order placed
    rw [Placed, purchases]
    exact placed
  · rw [keys]
    exact fun _ _ _ bound => bound
  · exact lines
  · exact .of_same orders

/-- A purchase order of before is saved again. -/
theorem Steady.saved (steady : Steady before middle) (row : SupplierPurchaseOrder) {old : SupplierPurchaseOrder}
    (member : old ∈ before.purchaseOrders.rows) (named : old.key = row.key)
    (order : old.channelOrderId = row.channelOrderId)
    (written : routedTables after = (middle.channelOrders, middle.purchaseOrders.put row, middle.commandIdempotency,
      middle.purchaseLines)) : Steady before after := by
  simp only [routedTables, Prod.mk.injEq] at written
  obtain ⟨orders, purchases, keys, lines⟩ := written
  constructor
  · intro owner about moved
    rw [Moved, orders]
    exact steady.moved owner about moved
  · rw [purchases]
    intro other other_member
    rcases (Table.mem_put _ _ _).mp other_member with rfl | ⟨kept, -⟩
    · exact ⟨old, member, named, order⟩
    · exact steady.purchases other kept
  · intro owner about placed
    obtain ⟨other, other_member, other_tenant, other_order⟩ := steady.placed owner about placed
    by_cases same : other.key = row.key
    · -- the row that is replaced is of the same order
      obtain ⟨first, first_member, first_named, first_order⟩ := steady.purchases other other_member
      have one : first = old := Table.key_inj _ first_member member (first_named.trans (same.trans named.symm))
      have owned : row.tenantId = other.tenantId := (congrArg Prod.fst same).symm
      have kept : row.channelOrderId = other.channelOrderId := by
        rw [← order, ← one]
        exact first_order
      refine ⟨row, ?_, owned.trans other_tenant, kept.trans other_order⟩
      rw [purchases]
      exact (Table.mem_put _ _ _).mpr (.inl rfl)
    · refine ⟨other, ?_, other_tenant, other_order⟩
      rw [purchases]
      exact (Table.mem_put _ _ _).mpr (.inr ⟨other_member, same⟩)
  · rw [keys]
    exact steady.keys
  · rw [lines, steady.lines]
  · exact steady.ages.trans (.of_same orders)

/-- An order moves on. -/
theorem Moved.put {row : ChannelOrder} (left : row.status ≠ .accepted)
    (orders : after.channelOrders = before.channelOrders.put row) {tenant order : Uuid} (moved : Moved before tenant order) : Moved after tenant order := by
  rw [Moved, orders]
  by_cases same : row.key = (tenant, order)
  · rw [← same]
    exact ⟨row, Table.get?_put_self _ row, left⟩
  · rw [Table.get?_put_of_ne _ same]
    exact moved

theorem Steady.orderMoved {row current : ChannelOrder} (left : row.status ≠ .accepted)
    (found : before.channelOrders.get? row.key = some current) (older : current.version ≤ row.version)
    (written : routedTables after = (before.channelOrders.put row, before.purchaseOrders, before.commandIdempotency,
      before.purchaseLines)) : Steady before after := by
  simp only [routedTables, Prod.mk.injEq] at written
  obtain ⟨orders, purchases, keys, lines⟩ := written
  refine ⟨fun _ _ moved => moved.put left orders, ?_, ?_, ?_, lines, .put found older orders⟩
  · rw [purchases]
    exact fun other member => ⟨other, member, rfl, rfl⟩
  · intro tenant order placed
    rw [Placed, purchases]
    exact placed
  · rw [keys]
    exact fun _ _ _ bound => bound

theorem Bound.steady (bound : Bound before) (steady : Steady before after) : Bound after := by
  constructor
  · rintro tenant order ⟨row, member, rfl, rfl⟩
    obtain ⟨old, old_member, named, order⟩ := steady.purchases row member
    have tenant : old.tenantId = row.tenantId := congrArg Prod.fst named
    exact steady.moved _ _ (bound.purchases _ _ ⟨old, old_member, tenant, order⟩)
  · intro tenant order supplier taken
    exact steady.placed _ _ (bound.keys tenant order supplier (steady.keys _ _ _ taken))

end

variable {env : Env} {context : TenantContext} {s t : Session Store}

theorem steady_of_keeps {α : Type} {body : Op α} (keeps : Keeps routedTables body) : Obeys Steady body :=
  fun s => .of_same (keeps s)

/-! ## Decisions -/

theorem approveWithin_steady {purchaseId : Uuid} {approve expired : Bool} {reason : String} {result : SupplierPurchaseOrder}
    (ran : (approveWithin env context purchaseId approve reason).run s = (.ok (result, expired), t)) : Steady s.db t.db := by
  simp only [approveWithin, bind_eq_ok, require_eq_ok] at ran
  obtain ⟨_, start, ⟨-, rfl⟩, ⟨purchase, command⟩, checked, verifying, ⟨approval, late⟩, middle, deciding, ran⟩ := ran
  obtain ⟨rfl, found, -⟩ := verifyPo_ok verifying
  have between : Steady checked.db middle.db := .of_same (decideWithin_keeps (fun _ _ _ _ _ => rfl) deciding)
  cases late with
  | true =>
    simp only [if_true, pure_eq_ok] at ran
    obtain ⟨-, rfl⟩ := ran
    exact between
  | false =>
    simp only [Bool.false_eq_true, if_false, projectDecision, saveInTurn, bind_eq_ok, updatePurchaseOrder_eq_ok, now_eq_ok,
      auditBy_eq_ok, publish_eq_ok, pure_eq_ok] at ran
    obtain ⟨_, _, ⟨_, _, ⟨_, -, -, -, rfl⟩, _, _, ⟨-, rfl⟩, _, _, rfl, _, _, ⟨-, rfl⟩, -, rfl⟩, -, rfl⟩ := ran
    exact between.saved (decidedPurchase purchase approve) (Table.mem_of_get? found) rfl rfl rfl

theorem approveDemoPo_steady {purchaseId : Uuid} {approve : Bool} {reason : String} :
    Obeys Steady (approveDemoPo env context purchaseId approve reason) := by
  refine (keeps_require _).obeys.bind fun _ => (keeps_ensure _ _).obeys.bind fun _ => ?_
  refine Obeys.bind (obeys_transaction_of_returning fun _ _ _ ran => approveWithin_steady ran) fun _ => ?_
  exact ((keeps_ensure _ _).bind fun _ => keeps_pure _).obeys

theorem decide_steady {commandId : Uuid} {approve : Bool} {reason : String} :
    Obeys Steady (decide env context commandId approve reason) := by
  refine (keeps_getCommand _).caught.obeys.bind fun found => ?_
  cases found with
  | error why =>
    refine Obeys.bind (steady_of_keeps ?_) fun _ => (keeps_raise _).obeys
    unfold reportBoundary
    split
    · exact Keeps.transaction fun _ => rfl
    · exact keeps_pure _
  | ok command =>
    refine (Approvals.keeps_linkedPurchases _ _ _).obeys.bind fun linked => ?_
    cases linked with
    | nil =>
      refine Obeys.bind (obeys_transaction_of_returning ?_) fun _ => ((keeps_ensure _ _).bind fun _ => keeps_pure _).obeys
      intro s result t ran
      exact .of_same (decideWithin_keeps (fun _ _ _ _ _ => rfl) ran)
    | cons purchase rest => exact approveDemoPo_steady.bind fun _ => (keeps_getApprovalForCommand _).obeys

/-! ## Expiry, renewal, submission and response -/

theorem expireDueApprovals_steady {tenant : Uuid} {limit : Int} : Obeys Steady (expireDueApprovals env tenant limit) := by
  refine (keeps_ensure _ _).obeys.bind fun _ => keeps_now.obeys.bind fun now => obeys_transaction_of_returning ?_
  intro s result t ran
  simp only [bind_eq_ok, pure_eq_ok] at ran
  obtain ⟨due, _, ⟨-, rfl⟩, expired, _, expiring, -, rfl⟩ := ran
  exact collect_returning (fun _ _ _ _ ran => .of_same (expireDue_keeps (fun _ _ _ _ _ => rfl) ran)) expiring

/-- A request under a key that is not a routing's. -/
theorem requestApproval_steady {targetRef : TargetRef} {payload : Mapping} {idempotencyKey : CommandKey}
    {policyVersion targetVersion : Int} (unrouted : ∀ order supplier, idempotencyKey ≠ .routing order supplier) :
    Obeys Steady (requestApproval env context .purchase targetRef payload idempotencyKey policyVersion targetVersion) := by
  refine obeys_of_returning (unwinds_transaction _) ?_
  intro s result t ran
  obtain ⟨command, approval⟩ := result
  obtain ⟨-, -, middle, creating, outcome⟩ := requestApproval_ok ran
  have between : Steady s.db middle.db := by
    obtain ⟨-, created | replayed⟩ := createCommand_ok creating
    · obtain ⟨_, rfl⟩ := created.written
      refine ⟨fun _ _ moved => moved, fun row member => ⟨row, member, rfl, rfl⟩, fun _ _ placed => placed, ?_, rfl, .of_same rfl⟩
      intro tenant order supplier bound
      have different : (context.tenantId, idempotencyKey) ≠ (tenant, .routing order supplier) := by
        intro same
        exact unrouted order supplier (congrArg Prod.snd same)
      rwa [Library.Dict.get?_set_of_ne _ different] at bound
    · rw [replayed.unchanged]
      exact .refl _
  rcases outcome with attached | ⟨_, -, -, -, rfl⟩
  · obtain ⟨_, -, -, -, -, rfl⟩ := attached.written
    exact between.trans (.of_same rfl)
  · exact between

theorem regenerateDemoPo_steady {purchaseId : Uuid} {reason : String} {expectedPoVersion : Int} :
    Obeys Steady (regenerateDemoPo env context purchaseId reason expectedPoVersion) := by
  refine (keeps_require _).obeys.bind fun _ => (keeps_ensure _ _).obeys.bind fun _ => ?_
  refine obeys_transaction_of_returning ?_
  intro s result t ran
  simp only [bind_eq_ok, getPurchaseOrder_eq_ok, ensure_eq_ok, getChannelOrder_eq_ok, fetch_eq_ok,
    getApprovalForCommand_eq_ok] at ran
  obtain ⟨purchase, _, ⟨found, rfl⟩, _, _, ⟨-, rfl⟩, order, _, ⟨-, rfl⟩, _, _, ⟨-, rfl⟩, prior, _, ⟨-, rfl⟩,
    previous, start, ⟨-, -, rfl⟩, usable, unread, reading, _, _, ⟨-, same⟩, payload, unchanged, routing, ⟨command, approval⟩,
    asked, requesting, ran⟩ := ran
  have unmoved := routedPayload_session routing
  rw [unmoved, same] at requesting
  have read : Steady start.db unread.db := .of_same ((keeps_renewable _ _).of_run reading)
  have between : Steady start.db asked.db :=
    read.trans ((requestApproval_steady fun _ _ => CommandKey.noConfusion).of_run requesting)
  simp only [updatePurchaseOrder_eq_ok, now_eq_ok, auditBy_eq_ok, publish_eq_ok, pure_eq_ok] at ran
  obtain ⟨_, _, ⟨_, -, -, -, rfl⟩, _, _, ⟨-, rfl⟩, _, _, rfl, _, _, ⟨-, rfl⟩, -, rfl⟩ := ran
  exact between.saved { purchase with
    status := .approvalPending, approvalCommandId := some command.id, version := purchase.version + 1 }
      (Table.mem_of_get? found) rfl rfl rfl

theorem submitDemoPo_steady {purchaseId : Uuid} : Obeys Steady (submitDemoPo env context purchaseId) := by
  have unwinds : Unwinds id (submitDemoPo env context purchaseId) :=
    Unwinds.bind (keeps_require _) fun _ => unwinds_transaction _
  have keeps : Keeps (fun db => (db.channelOrders, db.commandIdempotency, db.purchaseLines))
      (submitDemoPo env context purchaseId) :=
    keeps_submitDemoPo fun _ _ _ _ _ => rfl
  refine obeys_of_returning unwinds ?_
  intro s submitted t ran
  obtain ⟨purchase, order, command, approval, intent, rfl, submitting, rfl, controlled⟩ := submitDemoPo_ok ran
  have kept := keeps.of_run ran
  simp only [controlledTables, Prod.mk.injEq] at controlled kept
  obtain ⟨orders, keys, lines⟩ := kept
  refine (Steady.refl s.db).saved { purchase with status := .submitted, version := purchase.version + 1 }
    (Table.mem_of_get? submitting.purchase_found) rfl rfl ?_
  simp only [routedTables, orders, controlled.2.2, keys, lines]

theorem reconcileWithin_steady {purchaseId : Uuid} {status : PoResponseStatus} {reference : Option String} {digest : String}
    {observed : Timestamp} {result : SupplierPurchaseOrder × Bool}
    (ran : (reconcileWithin env context purchaseId status reference digest observed).run s = (.ok result, t)) :
    Steady s.db t.db := by
  simp only [reconcileWithin, bind_eq_ok, getPurchaseOrder_eq_ok, ensure_eq_ok] at ran
  obtain ⟨purchase, _, ⟨found, rfl⟩, _, start, ⟨-, rfl⟩, ran⟩ := ran
  split at ran
  · obtain ⟨-, rfl⟩ := (pure_eq_ok _ _ _ _).mp ran
    exact .refl _
  · simp only [bind_eq_ok, ensure_eq_ok] at ran
    obtain ⟨_, _, ⟨-, same⟩, ran⟩ := ran
    rw [same] at ran
    split at ran
    · obtain ⟨-, rfl⟩ := (pure_eq_ok _ _ _ _).mp ran
      exact .refl _
    · simp only [fileResponse, saveInTurn, bind_eq_ok, updatePurchaseOrder_eq_ok, auditBy_eq_ok, publish_eq_ok,
        pure_eq_ok] at ran
      obtain ⟨_, _, ⟨_, _, ⟨_, -, -, -, rfl⟩, _, _, rfl, _, _, ⟨-, rfl⟩, -, rfl⟩, -, rfl⟩ := ran
      exact (Steady.refl _).saved (respondedPurchase purchase status reference digest observed)
        (Table.mem_of_get? found) rfl rfl rfl

theorem reconcileDemoPo_steady {purchaseId : Uuid} {response : Mapping} :
    Obeys Steady (reconcileDemoPo env context purchaseId response) := by
  refine (keeps_require _).obeys.bind fun _ => (keeps_ensure _ _).obeys.bind fun _ => ?_
  refine (keeps_fetch _ _).obeys.bind fun _ => (keeps_ofExcept _).obeys.bind fun _ => (keeps_ofExcept _).obeys.bind fun _ => ?_
  exact keeps_readPoObserved.obeys.bind fun _ => obeys_transaction_of_returning fun _ _ _ ran => reconcileWithin_steady ran

/-! ## Cancellation -/

theorem cancelPurchase_steady {tenant : Uuid} {reason : String} {now : Timestamp} {before : Store}
    {purchase : SupplierPurchaseOrder} (member : purchase ∈ before.purchaseOrders.rows) (steady : Steady before s.db)
    (ran : (cancelPurchase tenant reason now purchase).run s = (.ok (), t)) : Steady before t.db := by
  unfold cancelPurchase at ran
  split at ran
  · simp only [saveInTurn, updatePurchaseOrder_eq_ok] at ran
    obtain ⟨_, -, -, -, rfl⟩ := ran
    exact steady.saved { purchase with status := .cancelled, version := purchase.version + 1 } member rfl rfl rfl
  · split at ran
    · simp only [saveInTurn, bind_eq_ok, updatePurchaseOrder_eq_ok, publish_eq_ok] at ran
      obtain ⟨_, _, ⟨_, -, -, -, rfl⟩, -, rfl⟩ := ran
      exact steady.saved { purchase with status := .cancelRequested, version := purchase.version + 1 } member rfl rfl rfl
    · obtain ⟨-, rfl⟩ := (pure_eq_ok _ _ _ _).mp ran
      exact steady

theorem cancels_steady {tenant : Uuid} {reason : String} {now : Timestamp} {before : Store}
    {remaining : List SupplierPurchaseOrder} (members : ∀ purchase ∈ remaining, purchase ∈ before.purchaseOrders.rows)
    (steady : Steady before s.db) (ran : (each remaining (cancelPurchase tenant reason now)).run s = (.ok (), t)) :
    Steady before t.db := by
  induction remaining generalizing s with
  | nil =>
    rw [(each_nil_eq_ok _ _ _ _).mp ran]
    exact steady
  | cons purchase rest ih =>
    obtain ⟨middle, first, others⟩ := (each_cons_eq_ok _ _ _ _ _ _).mp ran
    apply ih
    · exact fun other later => members other (List.mem_cons_of_mem _ later)
    · exact cancelPurchase_steady (members purchase List.mem_cons_self) steady first
    · exact others

theorem requestDemoCancel_steady {orderId : Uuid} {reason : String} {expectedOrderVersion : Int} :
    Obeys Steady (requestDemoCancel env context orderId reason expectedOrderVersion) := by
  refine (keeps_require _).obeys.bind fun _ => (keeps_ensure _ _).obeys.bind fun _ => obeys_transaction_of_returning ?_
  intro s result t ran
  simp only [bind_eq_ok, getChannelOrder_eq_ok] at ran
  obtain ⟨order, start, ⟨found, same⟩, ran⟩ := ran
  rw [same] at ran
  split at ran
  · obtain ⟨-, rfl⟩ := (pure_eq_ok _ _ _ _).mp ran
    exact .refl _
  · simp only [cancelOpen, bind_eq_ok, ensure_eq_ok, purchaseOrdersFor_eq_ok, updateChannelOrder_eq_ok, now_eq_ok,
      auditBy_eq_ok, publish_eq_ok, pure_eq_ok] at ran
    obtain ⟨_, _, ⟨_, _, ⟨-, checked⟩, purchases, _, ⟨-, rows, listed⟩, _, moved, ⟨_, -, -, -, moving⟩, _, _, ⟨-, reading⟩, _, last,
      cancels, _, _, rfl, _, _, ⟨-, rfl⟩, -, rfl⟩, -, rfl⟩ := ran
    rw [listed, checked] at moving
    rw [checked] at rows
    rw [reading, moving] at cancels
    let cancelled : ChannelOrder := { order with status := .cancelled, version := order.version + 1 }
    have named : order.key = (context.tenantId, orderId) := Table.key_of_get? found
    have keyed : s.db.channelOrders.get? cancelled.key = some order := by
      change s.db.channelOrders.get? order.key = some order
      rw [named]
      exact found
    have begun : Steady s.db { s.db with channelOrders := s.db.channelOrders.put cancelled } :=
      Steady.orderMoved (by simp [cancelled]) keyed (Nat.le_succ order.version) rfl
    have members : ∀ purchase ∈ purchases, purchase ∈ s.db.purchaseOrders.rows := by
      intro purchase member
      rw [← rows] at member
      exact List.mem_of_mem_filter member
    have ended : Steady s.db last.db := cancels_steady members begun cancels
    exact ended.trans (.of_same rfl)

/-! ## Intake -/

theorem saveChannelOrder_ok {row saved : ChannelOrder} {existed : Bool}
    (ran : (saveChannelOrder row).run s = (.ok (saved, existed), t)) :
    t = s ∨ s.db.channelOrders.get? row.key = none ∧
      t = { s with db := { s.db with channelOrders := s.db.channelOrders.put row } } := by
  simp only [saveChannelOrder, bind_eq_ok, query_eq_ok] at ran
  obtain ⟨_, _, ⟨rfl, rfl⟩, ran⟩ := ran
  split at ran
  · simp only [bind_eq_ok, ensure_eq_ok, pure_eq_ok] at ran
    obtain ⟨_, _, ⟨-, rfl⟩, -, rfl⟩ := ran
    exact .inl rfl
  · next none =>
    simp only [bind_eq_ok, write_eq_ok, pure_eq_ok] at ran
    obtain ⟨_, _, rfl, -, rfl⟩ := ran
    exact .inr ⟨(Option.or_eq_none_iff.mp none).1, rfl⟩

/-- A new order is taken in under a key that no order had. -/
theorem saveChannelOrder_steady {row saved : ChannelOrder} {existed : Bool}
    (ran : (saveChannelOrder row).run s = (.ok (saved, existed), t)) : Steady s.db t.db := by
  rcases saveChannelOrder_ok ran with rfl | ⟨vacant, rfl⟩
  · exact .refl _
  · refine ⟨?_, fun row member => ⟨row, member, rfl, rfl⟩, fun _ _ placed => placed, fun _ _ _ bound => bound, rfl, ?_⟩
    · intro tenant about moved
      obtain ⟨row, found, left⟩ := moved
      exact ⟨row, get?_put_grown vacant _ _ found, left⟩
    · intro key row found
      exact ⟨row, get?_put_grown vacant key row found, Nat.le_refl _⟩

theorem keeps_takeLine {υ : Type} {view : Store → υ} (unread : ∀ db lines, view { db with orderLines := lines } = view db)
    {tenant order : Uuid} (line : Value) : Keeps view (takeLine tenant order line) :=
  keeps_freshUuid.bind fun _ => (keeps_ofExcept _).bind fun _ => keeps_write fun db => unread db _

theorem acceptOrder_steady {channelId external payloadRef eventId key : String} {fields : OrderFields} {now : Timestamp} :
    Obeys Steady (acceptOrder env context channelId external payloadRef eventId key fields now) := by
  apply obeys_transaction_of_returning
  intro s result t ran
  simp only [bind_eq_ok, freshUuid_eq_ok] at ran
  obtain ⟨id, _, ⟨-, rfl⟩, ⟨order, replayed⟩, middle, saving, ran⟩ := ran
  have saved := saveChannelOrder_steady saving
  split at ran
  · obtain ⟨-, rfl⟩ := (pure_eq_ok _ _ _ _).mp ran
    exact saved
  · simp only [bind_eq_ok, auditBy_eq_ok, publish_eq_ok, pure_eq_ok] at ran
    obtain ⟨_, taken, taking, _, _, rfl, _, _, ⟨-, rfl⟩, -, rfl⟩ := ran
    have lines : Keeps routedTables (each fields.lines (takeLine context.tenantId order.id)) :=
      Keeps.each _ fun line => keeps_takeLine (fun _ _ => rfl) line
    have kept : Steady middle.db taken.db := .of_same (lines.of_run taking)
    exact saved.trans (kept.trans (.of_same rfl))

theorem keeps_loadPayload {υ : Type} {view : Store → υ} {payloadRef : String} :
    Keeps view (loadPayload env context payloadRef) := by
  refine (keeps_require _).bind fun _ => (keeps_inboundIdentifier _).bind fun _ => Keeps.bind ?_ fun payload => ?_
  · exact (keeps_query _).bind fun _ => keeps_fetch _ _
  · refine (keeps_ensure _ _).bind fun _ => ?_
    split
    · exact keeps_pure _
    · exact keeps_raise _

theorem ingestOrder_steady {channelId payloadRef : String} {idempotencyKey : Option String} :
    Obeys Steady (ingestOrder env context channelId payloadRef idempotencyKey) := by
  refine (keeps_require _).obeys.bind fun _ => (keeps_ofExcept _).obeys.bind fun _ => keeps_loadPayload.obeys.bind fun _ => ?_
  refine (keeps_ofExcept _).obeys.bind fun _ => (keeps_ofExcept _).obeys.bind fun _ => (keeps_ofExcept _).obeys.bind fun _ => ?_
  exact (keeps_ensure _ _).obeys.bind fun _ => keeps_now.obeys.bind fun _ => acceptOrder_steady

/-! ## The approvals beside them -/

theorem ingestOrder_changes {channelId payloadRef : String} {idempotencyKey : Option String} :
    Settles (Change env) (ingestOrder env context channelId payloadRef idempotencyKey) := by
  have allows : Allows env (Change env) := change_allows
  refine (allows.frame (keeps_require _)).bind fun _ => (allows.frame (keeps_ofExcept _)).bind fun _ => ?_
  refine (allows.frame keeps_loadPayload).bind fun _ => (allows.frame (keeps_ofExcept _)).bind fun _ => ?_
  refine (allows.frame (keeps_ofExcept _)).bind fun _ => (allows.frame (keeps_ofExcept _)).bind fun _ => ?_
  refine (allows.frame (keeps_ensure _ _)).bind fun _ => (allows.frame keeps_now).bind fun _ => ?_
  apply Follows.transaction allows.idles
  apply (allows.follows keeps_freshUuid).bind
  intro id
  apply (allows.follows (keeps_saveChannelOrder (fun _ _ => rfl) _)).bind
  intro saved
  dsimp only
  split
  · exact allows.pure _
  · apply Follows.bind (Follows.each _ fun line => allows.follows (keeps_takeLine (fun _ _ => rfl) line))
    intro _
    exact allows.audit.bind fun _ => (allows.publish (by decide) (by simp)).bind fun _ => allows.pure _

theorem submitDemoPo_changes {purchaseId : Uuid} : Settles (Change env) (submitDemoPo env context purchaseId) := by
  have allows : Allows env (Change env) := change_allows
  apply (allows.frame (keeps_require _)).bind
  intro _
  apply Follows.transaction allows.idles
  refine (allows.follows (keeps_getPurchaseOrder _ _)).bind fun purchase => (allows.follows (keeps_ensure _ _)).bind fun _ => ?_
  refine (allows.follows (keeps_fetch _ _)).bind fun _ => (allows.follows (keeps_getChannelOrder _ _)).bind fun order => ?_
  refine (allows.follows (keeps_query _)).bind fun _ => (allows.follows (keeps_ensure _ _)).bind fun _ => ?_
  refine (allows.follows (keeps_getCommand _)).bind fun command => ?_
  refine (allows.follows (keeps_getApprovalForCommand _)).bind fun approval => (allows.follows (keeps_query _)).bind fun _ => ?_
  refine (allows.follows keeps_now).bind fun _ => (allows.follows (keeps_ensure _ _)).bind fun _ => ?_
  refine (allows.follows (keeps_fetch _ _)).bind fun _ => prepareExecution_settles.follows.bind fun _ => ?_
  have saved : ∀ row, Keeps (fun db => (serviceTables db, db.outbox)) (saveInTurn row) := fun row =>
    (keeps_getPurchaseOrder _ _).bind fun _ => (keeps_ensure _ _).bind fun _ => keeps_write fun _ => rfl
  apply (settles_of_frame (saved _)).follows.bind
  intro _
  exact allows.audit.bind fun _ => (allows.publish (by decide) (by simp)).bind fun _ => allows.pure _

/-! ## Routing -/

/-- Commands and purchase lines carry identifiers that have been drawn, and what has been bought belongs to a moved order. -/
structure Sound (s : Session Store) : Prop where
  lockstep : Lockstep s
  lines : ∀ row ∈ s.db.purchaseLines.rows, row.id < s.uuids ∧ row.purchaseOrderId < s.uuids
  bound : Bound s.db

theorem Sound.drawn (sound : Sound s) : Drawn s := ⟨sound.lockstep.command_ids, sound.lines⟩

theorem sound_newSession : Sound Execution.newSession where
  lockstep := lockstep_newSession
  lines _ member := absurd member List.not_mem_nil
  bound := ⟨fun _ _ ⟨_, member, _⟩ => absurd member List.not_mem_nil, fun _ _ _ bound => absurd rfl bound⟩

/-- The order cannot be delivered: it is an exception, with an event, and nothing else has changed. -/
def Failed (tenant order : Uuid) (s t : Session Store) : Prop := ∃ current event,
  s.db.channelOrders.get? (tenant, order) = some current ∧ t.db = { s.db with
    channelOrders := s.db.channelOrders.put { current with status := .exception, version := current.version + 1 }
    auditEvents := s.db.auditEvents ++ [event] }

theorem failRouting_ok {order : Uuid} {expectedOrderVersion : Int} {sku : String} {result : List SupplierPurchaseOrder}
    (ran : (failRouting env context order expectedOrderVersion sku).run s = (.ok result, t)) :
    result = [] ∧ Failed context.tenantId order s t := by
  simp only [failRouting, transaction_eq_ok, bind_eq_ok, auditBy_eq_ok, pure_eq_ok] at ran
  obtain ⟨advanced, _, advancing, _, _, rfl, rfl, rfl⟩ := ran
  obtain ⟨current, found, -, rfl, rfl⟩ := advanceOrder_ok advancing
  exact ⟨rfl, current, _, found, rfl⟩

/-- A routing that returns has read the order, its purchase orders and its lines. -/
theorem proposeRouting_ok {order : Uuid} {supplierOptions : Mapping} {expectedOrderVersion : Int}
    {result : List SupplierPurchaseOrder}
    (ran : (proposeRouting env context order supplierOptions expectedOrderVersion).run s = (.ok result, t)) :
    (result ≠ [] ∧ t = s ∧
        result = s.db.purchaseOrders.rows.filter fun row => row.tenantId = context.tenantId ∧ row.channelOrderId = order) ∨
      (∀ row ∈ s.db.purchaseOrders.rows, row.tenantId = context.tenantId → row.channelOrderId ≠ order) ∧
        ∃ selected, select supplierOptions (orderLinesOf context.tenantId order s.db) = .ok selected ∧
          (routeSelected env context order expectedOrderVersion selected).run s = (.ok result, t) := by
  simp only [proposeRouting, bind_eq_ok, require_eq_ok, getChannelOrder_eq_ok, ensure_eq_ok, purchaseOrdersFor_eq_ok] at ran
  obtain ⟨_, _, ⟨-, rfl⟩, current, _, ⟨-, rfl⟩, _, _, ⟨-, rfl⟩, _, _, ⟨-, rfl⟩, existing, start, ⟨-, rfl, rfl⟩, ran⟩ := ran
  split at ran
  · next some =>
    obtain ⟨rfl, rfl⟩ := (pure_eq_ok _ _ _ _).mp ran
    exact .inl ⟨some, rfl, rfl⟩
  · next none =>
    simp only [bind_eq_ok, orderLinesFor_eq_ok, ofExcept_eq_ok] at ran
    obtain ⟨_, _, ⟨-, rfl, rfl⟩, selected, _, ⟨chosen, rfl⟩, routing⟩ := ran
    refine .inr ⟨?_, selected, chosen, routing⟩
    intro row member tenant about
    exact List.filter_eq_nil_iff.mp (not_ne_iff.mp none) row member (decide_eq_true ⟨tenant, about⟩)

theorem proposeRouting_unwinds {order : Uuid} {supplierOptions : Mapping} {expectedOrderVersion : Int} :
    Unwinds id (proposeRouting env context order supplierOptions expectedOrderVersion) := by
  apply Unwinds.bind (keeps_require _)
  intro _
  apply Unwinds.bind (keeps_getChannelOrder _ _)
  intro current
  apply Unwinds.bind (keeps_ensure _ _)
  intro _
  apply Unwinds.bind (keeps_ensure _ _)
  intro _
  apply Unwinds.bind (keeps_purchaseOrdersFor _ _)
  intro existing
  split
  · exact (keeps_pure _).unwinds
  · apply Unwinds.bind (keeps_orderLinesFor _ _)
    intro lines
    apply Unwinds.bind (keeps_ofExcept _)
    intro selected
    cases selected with
    | error sku => exact unwinds_transaction _
    | ok selected => exact Unwinds.bind keeps_now fun _ => unwinds_transaction _

/-- An order without purchase orders has no key of their approvals. -/
theorem Bound.free {db : Store} (bound : Bound db) {tenant order : Uuid}
    (unplaced : ∀ row ∈ db.purchaseOrders.rows, row.tenantId = tenant → row.channelOrderId ≠ order) (supplier : String) :
    db.commandIdempotency.get? (tenant, .routing order supplier) = none := by
  by_contra taken
  obtain ⟨row, member, of_tenant, of_order⟩ := bound.keys tenant order supplier taken
  exact unplaced row member of_tenant of_order

/-- An accepted order has no purchase orders. -/
theorem Bound.unplaced {db : Store} (bound : Bound db) {tenant order : Uuid} {current : ChannelOrder}
    (found : db.channelOrders.get? (tenant, order) = some current) (accepted : current.status = .accepted) :
    ∀ row ∈ db.purchaseOrders.rows, row.tenantId = tenant → row.channelOrderId ≠ order := by
  intro row member of_tenant of_order
  obtain ⟨other, other_found, left⟩ := bound.purchases tenant order ⟨row, member, of_tenant, of_order⟩
  cases Option.some.inj (found.symm.trans other_found)
  exact left accepted

theorem commitRouting_sound {order : Uuid} {expectedOrderVersion : Int} {selected : List Selection} {now : Timestamp}
    {result : List SupplierPurchaseOrder} (drawn : Drawn s) (bound : Bound s.db)
    (unplaced : ∀ row ∈ s.db.purchaseOrders.rows, row.tenantId = context.tenantId → row.channelOrderId ≠ order)
    (ran : (commitRouting env context order expectedOrderVersion selected now).run s = (.ok result, t)) :
    Drawn t ∧ Bound t.db := by
  obtain ⟨current, found, -, orders, purchased⟩ := commitRouting_ok drawn (bound.free unplaced) unplaced ran
  refine ⟨purchased.drawn, ?_, ?_⟩
  · rintro tenant about ⟨row, member, rfl, rfl⟩
    rw [purchased.rows] at member
    rcases List.mem_append.mp member with old | new
    · exact (bound.purchases _ _ ⟨row, old, rfl, rfl⟩).put (by simp) orders
    · have bought := purchased.bought row new
      have named : current.key = (context.tenantId, order) := Table.key_of_get? found
      rw [bought.of_tenant, bought.of_order, Moved, orders, ← named]
      exact ⟨_, Table.get?_put_self s.db.channelOrders _, by simp⟩
  · intro tenant about supplier taken
    rw [Placed, purchased.rows]
    rcases purchased.keys tenant about supplier taken with before | ⟨row, member, own⟩
    · obtain ⟨row, member, own⟩ := bound.keys tenant about supplier before
      exact ⟨row, List.mem_append_left _ member, own⟩
    · exact ⟨row, List.mem_append_right _ member, own⟩

theorem proposeRouting_sound {order : Uuid} {supplierOptions : Mapping} {expectedOrderVersion : Int} (sound : Sound s) :
    Sound ((proposeRouting env context order supplierOptions expectedOrderVersion).run s).2 := by
  have changes : ReflTransGen (Change env) s ((proposeRouting env context order supplierOptions expectedOrderVersion).run s).2 :=
    proposeRouting_settles change_allows s
  rcases ran : (proposeRouting env context order supplierOptions expectedOrderVersion).run s with ⟨why | result, t⟩
  · rw [ran] at changes
    have same : t.db = s.db := proposeRouting_unwinds s why t ran
    have drawn : Drawn t := sound.drawn.later (congrArg _ same) (congrArg _ same) (uuids_le ran)
    refine ⟨(changes_lockstep sound.lockstep changes).1, drawn.lines, ?_⟩
    rw [same]
    exact sound.bound
  · rw [ran] at changes
    have lockstep : Lockstep t := (changes_lockstep sound.lockstep changes).1
    rcases proposeRouting_ok ran with ⟨-, rfl, -⟩ | ⟨unplaced, selected, -, routing⟩
    · exact sound
    · cases selected with
      | error sku =>
        obtain ⟨-, current, event, found, written⟩ := failRouting_ok routing
        have lines : t.db.purchaseLines = s.db.purchaseLines := by rw [written]
        let exceptional : ChannelOrder := { current with status := .exception, version := current.version + 1 }
        have left : exceptional.status ≠ .accepted := by simp [exceptional]
        have named : current.key = (context.tenantId, order) := Table.key_of_get? found
        have keyed : s.db.channelOrders.get? exceptional.key = some current := by
          change s.db.channelOrders.get? current.key = some current
          rw [named]
          exact found
        have kept : Steady s.db t.db := by
          rw [written]
          exact Steady.orderMoved left keyed (Nat.le_succ current.version) rfl
        refine ⟨lockstep, ?_, sound.bound.steady kept⟩
        rw [lines]
        exact fun row member => (sound.lines row member).imp (Nat.lt_of_lt_of_le · (uuids_le ran))
          (Nat.lt_of_lt_of_le · (uuids_le ran))
      | ok selected =>
        simp only [routeSelected, bind_eq_ok, now_eq_ok] at routing
        obtain ⟨now, read, ⟨-, rfl⟩, committing⟩ := routing
        have drawn : Drawn { s with reads := s.reads + 1 } := sound.drawn.later rfl rfl (Nat.le_refl _)
        obtain ⟨drawn_after, bound⟩ := commitRouting_sound drawn sound.bound unplaced committing
        exact ⟨lockstep, drawn_after.lines, bound⟩

/-! ## Runs -/

/-- A call on an order or one of its purchase orders, or any operation that is steady. -/
inductive RoutingCall (env : Env) where
  | ingestOrder (context : TenantContext) (channelId payloadRef : String) (idempotencyKey : Option String)
  | proposeRouting (context : TenantContext) (order : Uuid) (supplierOptions : Mapping) (expectedOrderVersion : Int)
  | approveDemoPo (context : TenantContext) (purchaseId : Uuid) (approve : Bool) (reason : String)
  | decide (context : TenantContext) (commandId : Uuid) (approve : Bool) (reason : String)
  | expireDueApprovals (tenant : Uuid) (limit : Int)
  | submitDemoPo (context : TenantContext) (purchaseId : Uuid)
  | regenerateDemoPo (context : TenantContext) (purchaseId : Uuid) (reason : String) (expectedPoVersion : Int)
  | reconcileDemoPo (context : TenantContext) (purchaseId : Uuid) (response : Mapping)
  | requestDemoCancel (context : TenantContext) (orderId : Uuid) (reason : String) (expectedOrderVersion : Int)
  | elsewhere (operation : Op Unit) (changes : Settles (Change env) operation) (steady : Obeys Steady operation)

namespace Routing

def perform : RoutingCall env → Op Unit
  | .ingestOrder context channelId payloadRef idempotencyKey =>
      quietly (Purchasing.ingestOrder env context channelId payloadRef idempotencyKey)
  | .proposeRouting context order supplierOptions expectedOrderVersion =>
      quietly (Purchasing.proposeRouting env context order supplierOptions expectedOrderVersion)
  | .approveDemoPo context purchaseId approve reason =>
      quietly (Purchasing.approveDemoPo env context purchaseId approve reason)
  | .decide context commandId approve reason => quietly (Purchasing.decide env context commandId approve reason)
  | .expireDueApprovals tenant limit => quietly (Service.expireDueApprovals env tenant limit)
  | .submitDemoPo context purchaseId => quietly (Purchasing.submitDemoPo env context purchaseId)
  | .regenerateDemoPo context purchaseId reason expectedPoVersion =>
      quietly (Purchasing.regenerateDemoPo env context purchaseId reason expectedPoVersion)
  | .reconcileDemoPo context purchaseId response => quietly (Purchasing.reconcileDemoPo env context purchaseId response)
  | .requestDemoCancel context orderId reason expectedOrderVersion =>
      quietly (Purchasing.requestDemoCancel env context orderId reason expectedOrderVersion)
  | .elsewhere operation _ _ => operation

def step (env : Env) (call : RoutingCall env) (s : Session Store) : Except Failure Unit × Session Store :=
  (perform call).run s

end Routing

/-- A steady operation whose changes are those of the approvals. -/
theorem Sound.steady {α : Type} {operation : Op α} (changes : Settles (Change env) operation) (steady : Obeys Steady operation)
    (sound : Sound s) : Sound (operation.run s).2 := by
  have kept : Steady s.db (operation.run s).2.db := steady s
  refine ⟨(changes_lockstep sound.lockstep (changes s)).1, ?_, sound.bound.steady kept⟩
  rw [kept.lines]
  have uuids : s.uuids ≤ (operation.run s).2.uuids := (operation.advances s).2
  exact fun row member => (sound.lines row member).imp (Nat.lt_of_lt_of_le · uuids) (Nat.lt_of_lt_of_le · uuids)

theorem step_sound_routing (call : RoutingCall env) (sound : Sound s) : Sound (Routing.step env call s).2 := by
  have allows : Allows env (Change env) := change_allows
  have still : ∀ {α : Type} {operation : Op α}, Settles (Change env) operation → Obeys Steady operation →
      Sound ((quietly operation).run s).2 := by
    intro α operation changes steady
    rw [quietly_session]
    exact sound.steady changes steady
  cases call with
  | ingestOrder => exact still ingestOrder_changes ingestOrder_steady
  | proposeRouting context order supplierOptions expectedOrderVersion =>
    change Sound ((quietly _).run s).2
    rw [quietly_session]
    exact proposeRouting_sound sound
  | approveDemoPo => exact still (approveDemoPo_settles allows) approveDemoPo_steady
  | decide => exact still (decide_settles allows) decide_steady
  | expireDueApprovals =>
    have expires : ∀ tenant now due, Follows (Change env) (expireDue env tenant now due) :=
      fun _ _ _ _ _ _ ran => expireDue_changes ran
    exact still (expireDueApprovals_settles allows expires) expireDueApprovals_steady
  | submitDemoPo => exact still submitDemoPo_changes submitDemoPo_steady
  | regenerateDemoPo => exact still (regenerateDemoPo_settles allows) regenerateDemoPo_steady
  | reconcileDemoPo => exact still (reconcileDemoPo_settles allows) reconcileDemoPo_steady
  | requestDemoCancel => exact still (requestDemoCancel_settles allows) requestDemoCancel_steady
  | elsewhere operation changes steady => exact sound.steady changes steady

theorem run_sound_routing (calls : List (RoutingCall env)) : Sound (final (Routing.step env) Execution.newSession calls) :=
  Library.final_invariant Sound sound_newSession fun call _ _ sound => step_sound_routing call sound

/-! ## A routing of an accepted order -/

/-- What a routing of an accepted order comes to. -/
inductive RoutingOutcome (tenant order : Uuid) (options : Mapping) (current : ChannelOrder) (s : Session Store) :
    Except Failure (List SupplierPurchaseOrder) → Session Store → Prop where
  | raised (why : Failure) (t : Session Store) (unchanged : t.db = s.db) :
      RoutingOutcome tenant order options current s (.error why) t
  | failed (t : Session Store) (undeliverable : ∃ line ∈ orderLinesOf tenant order s.db, ∀ quote, ¬ Feasible options line quote)
      (failed : Failed tenant order s t) : RoutingOutcome tenant order options current s (.ok []) t
  | routed (purchases : List SupplierPurchaseOrder) (t : Session Store)
      (deliverable : ∀ line ∈ orderLinesOf tenant order s.db, ∃ quote, Feasible options line quote)
      (advanced : t.db.channelOrders =
        s.db.channelOrders.put { current with status := .poPending, version := current.version + 1 })
      (stored : t.db.purchaseOrders.rows = s.db.purchaseOrders.rows ++ purchases)
      (routed : Routed tenant order options (orderLinesOf tenant order s.db) purchases t) :
      RoutingOutcome tenant order options current s (.ok purchases) t

theorem orderLinesOf_nodup (tenant order : Uuid) (db : Store) : ((orderLinesOf tenant order db).map (·.id)).Nodup := by
  have rows : db.orderLines.rows.Nodup := db.orderLines.unique.of_map _
  apply (rows.filter _).map_on
  intro first first_member second second_member same
  obtain ⟨first_row, first_own⟩ := List.mem_filter.mp first_member
  obtain ⟨second_row, second_own⟩ := List.mem_filter.mp second_member
  have tenants : first.tenantId = second.tenantId :=
    (of_decide_eq_true first_own).1.trans (of_decide_eq_true second_own).1.symm
  exact Table.key_inj _ first_row second_row (Prod.ext tenants same)

theorem propose_outcome (sound : Sound s) {order : Uuid} {supplierOptions : Mapping} {current : ChannelOrder}
    (found : s.db.channelOrders.get? (context.tenantId, order) = some current) (accepted : current.status = .accepted) :
    let ran := (proposeRouting env context order supplierOptions current.version).run s
    RoutingOutcome context.tenantId order supplierOptions current s ran.1 ran.2 := by
  intro outcome
  rcases ran : (proposeRouting env context order supplierOptions current.version).run s with ⟨why | result, t⟩
  · have same : t.db = s.db := proposeRouting_unwinds s why t ran
    rw [show outcome = (.error why, t) from ran]
    exact .raised why t same
  · rw [show outcome = (.ok result, t) from ran]
    have unplaced := sound.bound.unplaced found accepted
    rcases proposeRouting_ok ran with ⟨some, -, listed⟩ | ⟨-, selected, chosen, routing⟩
    · -- an accepted order has none to return
      refine absurd (listed.trans (List.filter_eq_nil_iff.mpr ?_)) some
      intro row member own
      exact unplaced row member (of_decide_eq_true own).1 (of_decide_eq_true own).2
    · cases selected with
      | error sku =>
        obtain ⟨rfl, failed⟩ := failRouting_ok routing
        obtain ⟨line, member, -, infeasible⟩ := select_error chosen
        exact .failed t ⟨line, member, infeasible⟩ failed
      | ok selected =>
        simp only [routeSelected, bind_eq_ok, now_eq_ok] at routing
        obtain ⟨now, read, ⟨-, rfl⟩, committing⟩ := routing
        have drawn : Drawn { s with reads := s.reads + 1 } := sound.drawn.later rfl rfl (Nat.le_refl _)
        obtain ⟨row, row_found, -, orders, purchased⟩ := commitRouting_ok drawn (sound.bound.free unplaced) unplaced committing
        cases Option.some.inj (found.symm.trans row_found)
        have routed := routed_of_purchased purchased chosen (orderLinesOf_nodup _ _ _)
        refine .routed result t ?_ orders purchased.rows routed
        intro line member
        obtain ⟨_, -, row, -, -, -, least⟩ := routed.bought line member
        exact ⟨_, least.1⟩

end AiStore.Purchasing
