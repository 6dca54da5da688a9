import AiStore.Approval.Calls

/-! The steps the purchase operations are made of.

The submission apart, each operation reads, writes the tables of orders, saves purchase
orders that are not submitted, publishes, and asks for or decides on approvals. A
relation that allows these steps holds along the whole operation.
-/

set_option autoImplicit false

namespace AiStore.Purchasing

open Library (Session Table)
open Library.Txn Repository Service
open Relation (ReflTransGen)

variable {env : Env} {s t u : Session Store} {context : TenantContext}

/-- The tables of everything a stop control holds back. -/
def controlledTables (db : Store) := (db.attempts, db.toolCommands, db.purchaseOrders)

/-- An operation whose result nobody looks at. -/
def quietly {α : Type} (operation : Op α) : Op Unit := do
  let _ ← operation
  pure ()

theorem quietly_session {α : Type} (operation : Op α) (s : Session Store) :
    ((quietly operation).run s).2 = (operation.run s).2 := by
  simp only [quietly, run_bind]
  rcases operation.run s with ⟨_ | _, t⟩ <;> rfl

theorem quietly_settles {α : Type} {operation : Op α} {R : Session Store → Session Store → Prop}
    (settles : Settles R operation) : Settles R (quietly operation) := by
  intro s
  rw [quietly_session]
  exact settles s

/-! ## Approvals keep them -/

/-- A request binds its own key and no other. -/
theorem keeps_requestApproval {υ : Type} {view : Store → υ} {kind : ApprovalKind} {targetRef : TargetRef} {payload : Mapping}
    {idempotencyKey : CommandKey} {policyVersion targetVersion : Int} {evidence : List Mapping}
    (unread : ∀ db commands approvals keys intents events box,
      (∀ other, other ≠ (context.tenantId, idempotencyKey) → keys.get? other = db.commandIdempotency.get? other) →
      view { db with
        commands := commands, approvals := approvals, commandIdempotency := keys, approvalIntents := intents,
        auditEvents := events, outbox := box } = view db) :
    Keeps view
      (requestApproval env context kind targetRef payload idempotencyKey policyVersion targetVersion evidence) := by
  apply keeps_transaction
  intro s result t ran
  obtain ⟨command, approval⟩ := result
  obtain ⟨-, -, middle, creating, outcome⟩ := requestApproval_ok ((transaction_eq_ok _ _ _ _).mpr ran)
  have between : view middle.db = view s.db := by
    obtain ⟨-, created | replayed⟩ := createCommand_ok creating
    · obtain ⟨_, rfl⟩ := created.written
      exact unread s.db _ _ _ s.db.approvalIntents _ _ fun other apart => Library.Dict.get?_set_of_ne _ (Ne.symm apart) _
    · rw [replayed.unchanged]
  rcases outcome with attached | ⟨_, -, -, -, rfl⟩
  · obtain ⟨_, -, -, -, -, rfl⟩ := attached.written
    let db := middle.db
    exact (unread db db.commands db.approvals db.commandIdempotency _ db.auditEvents db.outbox fun _ _ => rfl).trans between
  · exact between

section

variable {υ : Type} {view : Store → υ} (unread : ∀ db commands approvals events box,
  view { db with commands := commands, approvals := approvals, auditEvents := events, outbox := box } = view db)
include unread

theorem decideWithin_keeps {commandId : Uuid} {approve : Bool} {reason : String} {result : Approval} {expired : Bool}
    (ran : (decideWithin env context commandId approve reason).run s = (.ok (result, expired), t)) :
    view t.db = view s.db := by
  obtain ⟨-, -, _, _, -, ⟨-, -, late⟩ | ⟨-, -, timely⟩⟩ := decideWithin_ok ran
  · obtain ⟨_, rfl⟩ := late.written
    exact unread s.db _ _ _ _
  · obtain ⟨_, rfl⟩ := timely.written
    exact unread s.db _ _ _ _

theorem expireDue_keeps {tenant : Uuid} {now : Timestamp} {due : Approval} {result : Option Uuid}
    (ran : (expireDue env tenant now due).run s = (.ok result, t)) : view t.db = view s.db := by
  rcases expireDue_ok ran with rfl | ⟨command, approval, -, -, -, -, -, ranOut⟩
  · rfl
  · obtain ⟨_, rfl⟩ := ranOut.written
    exact unread s.db _ _ _ _

end

/-! ## Steps that submit nothing -/

/-- No attempt and no tool command moves, and no purchase order becomes submitted. -/
structure Unsubmitted (s t : Session Store) : Prop where
  attempts : t.db.attempts = s.db.attempts
  tools : t.db.toolCommands = s.db.toolCommands
  purchases : ∀ key row, t.db.purchaseOrders.get? key = some row → row.status = .submitted →
    ∃ before, s.db.purchaseOrders.get? key = some before ∧ before.status = .submitted

theorem unsubmitted_of_same (same : controlledTables t.db = controlledTables s.db) : Unsubmitted s t := by
  simp only [controlledTables, Prod.mk.injEq] at same
  obtain ⟨attempts, tools, purchases⟩ := same
  refine ⟨attempts, tools, ?_⟩
  intro key row found submitted
  rw [purchases] at found
  exact ⟨row, found, submitted⟩

theorem Unsubmitted.trans (first : Unsubmitted s t) (second : Unsubmitted t u) : Unsubmitted s u where
  attempts := second.attempts.trans first.attempts
  tools := second.tools.trans first.tools
  purchases key row found submitted := by
    obtain ⟨before, middle, still⟩ := second.purchases key row found submitted
    exact first.purchases key before middle still

theorem unsubmitted_of_steps (steps : ReflTransGen Unsubmitted s t) : Unsubmitted s t := by
  induction steps with
  | refl => exact unsubmitted_of_same rfl
  | tail _ last ih => exact ih.trans last

theorem unsubmitted_idles : Idles Unsubmitted :=
  fun _ _ same _ => unsubmitted_of_same (congrArg controlledTables same)

theorem unsubmitted_put {row : SupplierPurchaseOrder} (open_status : row.status ≠ .submitted) :
    Unsubmitted s { s with db := { s.db with purchaseOrders := s.db.purchaseOrders.put row } } where
  attempts := rfl
  tools := rfl
  purchases key other found submitted := by
    by_cases same : row.key = key
    · subst same
      cases Option.some.inj ((Table.get?_put_self _ _).symm.trans found)
      exact absurd submitted open_status
    · exact ⟨other, (Table.get?_put_of_ne _ same).symm.trans found, submitted⟩

/-! ## Orders and their lines -/

/-- The tables a purchase operation does not write itself, and the purchase orders. -/
def besideOrders (db : Store) := (serviceTables db, db.outbox, db.attempts, db.purchaseOrders)

theorem keeps_getChannelOrder {υ : Type} {view : Store → υ} (tenant order : Uuid) :
    Keeps view (getChannelOrder tenant order) := (keeps_query _).bind fun _ => keeps_fetch _ _

theorem keeps_getPurchaseOrder {υ : Type} {view : Store → υ} (tenant purchase : Uuid) :
    Keeps view (getPurchaseOrder tenant purchase) := (keeps_query _).bind fun _ => keeps_fetch _ _

theorem keeps_orderLinesFor {υ : Type} {view : Store → υ} (tenant order : Uuid) :
    Keeps view (orderLinesFor tenant order) := (keeps_getChannelOrder _ _).bind fun _ => keeps_query _

theorem keeps_purchaseOrdersFor {υ : Type} {view : Store → υ} (tenant order : Uuid) :
    Keeps view (purchaseOrdersFor tenant order) := (keeps_getChannelOrder _ _).bind fun _ => keeps_query _

theorem keeps_updateChannelOrder {row : ChannelOrder} {expectedVersion : Nat} :
    Keeps besideOrders (updateChannelOrder row expectedVersion) :=
  (keeps_getChannelOrder _ _).bind fun _ => (keeps_ensure _ _).bind fun _ => keeps_write fun _ => rfl

theorem keeps_advanceOrder {tenant order : Uuid} {expectedOrderVersion : Int} {status : ChannelOrderState} :
    Keeps besideOrders (advanceOrder tenant order expectedOrderVersion status) :=
  (keeps_getChannelOrder _ _).bind fun _ => (keeps_ensure _ _).bind fun _ =>
    keeps_updateChannelOrder.bind fun _ => keeps_pure _

section

variable {υ : Type} {view : Store → υ}

theorem keeps_routeLine (unread : ∀ db decisions lines, view { db with routingDecisions := decisions, orderLines := lines } = view db)
    {tenant : Uuid} (selection : Selection) : Keeps view (routeLine tenant selection) := by
  apply keeps_freshUuid.bind
  intro _
  have saved : ∀ row, Keeps view (saveRoutingDecision row) := fun row =>
    (keeps_query _).bind fun _ => (keeps_ensure _ _).bind fun _ => keeps_write fun _ => unread _ _ _
  refine (saved _).bind fun _ => ((keeps_query _).bind fun _ => keeps_fetch _ _).bind fun _ => ?_
  exact (keeps_ensure _ _).bind fun _ => keeps_write fun _ => unread _ _ _

theorem keeps_savePurchased (unread : ∀ db lines, view { db with purchaseLines := lines } = view db) {tenant purchase : Uuid}
    (selection : Selection) : Keeps view (savePurchased tenant purchase selection) :=
  keeps_freshUuid.bind fun _ => keeps_write fun _ => unread _ _

end

theorem keeps_routedPayload {υ : Type} {view : Store → υ} (tenant : Uuid) (purchase : SupplierPurchaseOrder)
    (order : ChannelOrder) : Keeps view (routedPayload tenant purchase order) := by
  apply (keeps_query _).bind
  intro _
  refine Keeps.bind ((keeps_orderLinesFor _ _).bind fun _ => keeps_query _) fun _ => ?_
  exact (keeps_orderLinesFor _ _).bind fun _ => (keeps_ofExcept _).bind fun _ => keeps_pure _

theorem keeps_purchaseFrom {υ : Type} {view : Store → υ} {order : Uuid} {targetVersion : Nat} {now : Timestamp}
    {selected : List Selection} {supplier : String}
    (unread : ∀ db commands approvals keys intents events box purchases lines,
      (∀ other, other ≠ (context.tenantId, .routing order supplier) → keys.get? other = db.commandIdempotency.get? other) →
      view { db with
        commands := commands, approvals := approvals, commandIdempotency := keys, approvalIntents := intents,
        auditEvents := events, outbox := box, purchaseOrders := purchases, purchaseLines := lines } = view db) :
    Keeps view (purchaseFrom env context order targetVersion now selected supplier) := by
  have saves : ∀ db purchases lines, view { db with purchaseOrders := purchases, purchaseLines := lines } = view db :=
    fun db purchases lines => unread db db.commands db.approvals db.commandIdempotency db.approvalIntents db.auditEvents
      db.outbox purchases lines fun _ _ => rfl
  refine Keeps.bind ?_ fun _ => keeps_freshUuid.bind fun id => Keeps.bind ?_ fun _ => ?_
  · exact keeps_requestApproval fun db commands approvals keys intents events box others =>
      unread db commands approvals keys intents events box db.purchaseOrders db.purchaseLines others
  · refine (keeps_query _).bind fun rows => ?_
    dsimp only
    split
    · exact (keeps_ensure _ _).bind fun _ => keeps_pure _
    · refine (keeps_ensure _ _).bind fun _ => Keeps.bind ?_ fun _ => keeps_pure _
      exact keeps_write fun db => saves db _ db.purchaseLines
  · refine Keeps.bind ?_ fun _ => keeps_pure _
    exact Keeps.each _ fun selection => keeps_savePurchased (fun db lines => saves db db.purchaseOrders lines) selection

theorem keeps_saveChannelOrder {υ : Type} {view : Store → υ} (unread : ∀ db orders, view { db with channelOrders := orders } = view db)
    (row : ChannelOrder) : Keeps view (saveChannelOrder row) := by
  apply (keeps_query _).bind
  intro rows
  dsimp only
  split
  · exact (keeps_ensure _ _).bind fun _ => keeps_pure _
  · refine Keeps.bind ?_ fun _ => keeps_pure _
    exact keeps_write fun db => unread db _

theorem keeps_renewable {υ : Type} {view : Store → υ} (purchase : SupplierPurchaseOrder) (approval : Approval) :
    Keeps view (renewable env purchase approval) := by
  unfold renewable
  split
  · exact keeps_pure _
  · exact (keeps_pure _).ite (keeps_now.bind fun _ => keeps_pure _)
  · exact keeps_now.bind fun _ => keeps_pure _
  · exact keeps_pure _

theorem keeps_readPoObserved {υ : Type} {view : Store → υ} {given : Option Value} : Keeps view (readPoObserved env given) := by
  unfold readPoObserved
  split
  · exact keeps_now
  · exact keeps_now
  · exact keeps_pure _
  · exact keeps_raise _

/-! ## Relations that purchases respect -/

/-- The steps that a relation has to allow. -/
structure Allows (env : Env) (R : Session Store → Session Store → Prop) : Prop where
  idles : Idles R
  frame {α : Type} {body : Op α} : Keeps besideOrders body → Settles R body
  save (s : Session Store) (row : SupplierPurchaseOrder) : row.status ≠ .submitted →
    R s { s with db := { s.db with purchaseOrders := s.db.purchaseOrders.put row } }
  publish {tenant aggregate : Uuid} {topic : String} {payload : Mapping} {key : OutboxKey} {createdAt : Timestamp} :
    topic ∉ serviceTopics → (∀ approval, key ≠ .approvalDecided approval) →
    Follows R (publish tenant topic aggregate payload key createdAt)
  request {context : TenantContext} {targetRef : TargetRef} {payload : Mapping} {idempotencyKey : CommandKey}
    {policyVersion targetVersion : Int} : Follows R
      (requestApproval env context .purchase targetRef payload idempotencyKey policyVersion targetVersion)
  decide {context : TenantContext} {commandId : Uuid} {approve : Bool} {reason : String} :
    Follows R (decideWithin env context commandId approve reason)

section

variable {R : Session Store → Session Store → Prop} {α : Type} {body : Op α}

theorem Allows.follows (allows : Allows env R) (keeps : Keeps besideOrders body) : Follows R body :=
  (allows.frame keeps).follows

theorem Allows.audit (allows : Allows env R) {action : String} {target : Uuid} {outcome : String} {metadata : Mapping} :
    Follows R (auditBy env context action target outcome metadata) :=
  allows.follows (keeps_auditBy fun _ _ => rfl)

theorem Allows.pure (allows : Allows env R) (value : α) : Follows R (pure value : Op α) :=
  allows.follows (keeps_pure _)

theorem Allows.saveInTurn (allows : Allows env R) {row : SupplierPurchaseOrder} (open_status : row.status ≠ .submitted) :
    Follows R (saveInTurn row) := by
  intro s result t ran
  rw [Purchasing.saveInTurn, updatePurchaseOrder_eq_ok] at ran
  obtain ⟨_, -, -, -, rfl⟩ := ran
  exact .single (allows.save s row open_status)

theorem Allows.savePurchaseOrder (allows : Allows env R) {row : SupplierPurchaseOrder}
    (open_status : row.status ≠ .submitted) : Follows R (savePurchaseOrder row) := by
  intro s result t ran
  simp only [Repository.savePurchaseOrder, bind_eq_ok, query_eq_ok] at ran
  obtain ⟨_, _, ⟨rfl, rfl⟩, ran⟩ := ran
  split at ran
  · simp only [bind_eq_ok, ensure_eq_ok, pure_eq_ok] at ran
    obtain ⟨_, _, ⟨-, rfl⟩, -, rfl⟩ := ran
    exact .refl
  · simp only [bind_eq_ok, ensure_eq_ok, write_eq_ok, pure_eq_ok] at ran
    obtain ⟨_, _, ⟨-, rfl⟩, _, _, rfl, -, rfl⟩ := ran
    exact .single (allows.save _ row open_status)

theorem unsubmitted_allows : Allows env Unsubmitted where
  idles := unsubmitted_idles
  frame keeps s := by
    have same := keeps s
    simp only [besideOrders, serviceTables, Prod.mk.injEq] at same
    obtain ⟨⟨-, tools⟩, -, attempts, purchases⟩ := same
    apply ReflTransGen.single
    apply unsubmitted_of_same
    simp only [controlledTables, attempts, tools, purchases]
  save _ _ open_status := unsubmitted_put open_status
  publish _ _ s _ _ ran := .single (unsubmitted_of_same ((keeps_publish fun _ _ => rfl).of_run ran))
  request s _ _ ran := .single (unsubmitted_of_same ((keeps_requestApproval fun _ _ _ _ _ _ _ _ => rfl).of_run ran))
  decide s _ _ ran := .single (unsubmitted_of_same (decideWithin_keeps (fun _ _ _ _ _ => rfl) ran))

end

section

variable {R : Session Store → Session Store → Prop} (allows : Allows env R)
include allows

/-! ## Routing -/

theorem purchaseFrom_follows {order : Uuid} {targetVersion : Nat} {now : Timestamp} {selected : List Selection}
    (supplier : String) :
    Follows R (purchaseFrom env context order targetVersion now selected supplier) := by
  apply allows.request.bind
  intro _
  apply (allows.follows keeps_freshUuid).bind
  intro _
  apply Follows.bind (allows.savePurchaseOrder (by simp))
  intro _
  apply Follows.bind (Follows.each _ fun selection => allows.follows (keeps_savePurchased (fun _ _ => rfl) selection))
  intro _
  exact allows.pure _

theorem routeSelected_settles {order : Uuid} {expectedOrderVersion : Int} {selected : Except String (List Selection)} :
    Settles R (routeSelected env context order expectedOrderVersion selected) := by
  cases selected with
  | error sku =>
    apply Follows.transaction allows.idles
    apply (allows.follows keeps_advanceOrder).bind
    intro _
    exact allows.audit.bind fun _ => allows.pure _
  | ok selected =>
    apply (allows.frame keeps_now).bind
    intro now
    apply Follows.transaction allows.idles
    apply (allows.follows keeps_advanceOrder).bind
    intro _
    apply Follows.bind (Follows.each _ fun selection => allows.follows (keeps_routeLine (fun _ _ _ => rfl) selection))
    intro _
    apply Follows.bind (Follows.collect _ fun supplier => purchaseFrom_follows allows supplier)
    intro _
    exact allows.audit.bind fun _ => allows.pure _

theorem proposeRouting_settles {order : Uuid} {supplierOptions : Mapping} {expectedOrderVersion : Int} :
    Settles R (proposeRouting env context order supplierOptions expectedOrderVersion) := by
  apply (allows.frame (keeps_require _)).bind
  intro _
  apply (allows.frame (keeps_getChannelOrder _ _)).bind
  intro current
  refine (allows.frame (keeps_ensure _ _)).bind fun _ => (allows.frame (keeps_ensure _ _)).bind fun _ => ?_
  apply (allows.frame (keeps_purchaseOrdersFor _ _)).bind
  intro existing
  split
  · exact allows.frame (keeps_pure _)
  · refine (allows.frame (keeps_orderLinesFor _ _)).bind fun _ => (allows.frame (keeps_ofExcept _)).bind fun _ => ?_
    exact routeSelected_settles allows

/-! ## Approval, renewal, response and cancellation -/

theorem projectDecision_follows {purchase : SupplierPurchaseOrder} {command : Command} {approve : Bool} :
    Follows R (projectDecision env context purchase command approve) := by
  have status : (decidedPurchase purchase approve).status ≠ .submitted := by
    cases approve <;> simp [decidedPurchase]
  have silent : decidedTopic approve ∉ serviceTopics := by
    cases approve <;> decide
  apply Follows.bind (allows.saveInTurn status)
  intro _
  apply (allows.follows keeps_now).bind
  intro _
  exact allows.audit.bind fun _ => (allows.publish silent (by simp)).bind fun _ => allows.pure _

theorem approveWithin_follows {purchase : Uuid} {approve : Bool} {reason : String} :
    Follows R (approveWithin env context purchase approve reason) := by
  apply (allows.follows (keeps_require _)).bind
  intro _
  apply (allows.follows (Approvals.keeps_verifyPo _ _ _)).bind
  intro _
  apply allows.decide.bind
  rintro ⟨_, expired⟩
  cases expired with
  | true => exact allows.pure _
  | false => exact (projectDecision_follows allows).bind fun _ => allows.pure _

theorem approveDemoPo_settles {purchase : Uuid} {approve : Bool} {reason : String} :
    Settles R (approveDemoPo env context purchase approve reason) := by
  refine (allows.frame (keeps_require _)).bind fun _ => (allows.frame (keeps_ensure _ _)).bind fun _ => ?_
  apply Settles.bind (Follows.transaction allows.idles (approveWithin_follows allows))
  intro _
  exact (allows.frame (keeps_ensure _ _)).bind fun _ => allows.frame (keeps_pure _)

theorem decideUnlinked_settles {commandId : Uuid} {approve : Bool} {reason : String} :
    Settles R (decideUnlinked env context commandId approve reason) := by
  apply Settles.bind (Follows.transaction allows.idles allows.decide)
  intro _
  exact (allows.frame (keeps_ensure _ _)).bind fun _ => allows.frame (keeps_pure _)

theorem reportBoundary_settles {why : Failure} : Settles R (reportBoundary env context why) := by
  unfold reportBoundary
  split
  · apply allows.frame
    apply keeps_transaction
    intro s result t ran
    rw [audit_eq_ok] at ran
    subst ran
    rfl
  · exact allows.frame (keeps_pure _)

theorem decide_settles {commandId : Uuid} {approve : Bool} {reason : String} :
    Settles R (decide env context commandId approve reason) := by
  apply (allows.frame (keeps_getCommand _).caught).bind
  intro found
  cases found with
  | error why => exact (reportBoundary_settles allows).bind fun _ => allows.frame (keeps_raise _)
  | ok command =>
    apply (allows.frame (Approvals.keeps_linkedPurchases _ _ _)).bind
    intro linked
    cases linked with
    | nil => exact decideUnlinked_settles allows
    | cons purchase rest =>
      exact (approveDemoPo_settles allows).bind fun _ => allows.frame (keeps_getApprovalForCommand _)

theorem regenerateDemoPo_settles {purchaseId : Uuid} {reason : String} {expectedPoVersion : Int} :
    Settles R (regenerateDemoPo env context purchaseId reason expectedPoVersion) := by
  refine (allows.frame (keeps_require _)).bind fun _ => (allows.frame (keeps_ensure _ _)).bind fun _ => ?_
  apply Follows.transaction allows.idles
  apply (allows.follows (keeps_getPurchaseOrder _ _)).bind
  intro purchase
  apply (allows.follows (keeps_ensure _ _)).bind
  intro _
  apply (allows.follows (keeps_getChannelOrder _ _)).bind
  intro order
  refine (allows.follows (keeps_ensure _ _)).bind fun _ => (allows.follows (keeps_fetch _ _)).bind fun prior => ?_
  apply (allows.follows (keeps_getApprovalForCommand _)).bind
  intro previous
  apply (allows.follows (keeps_renewable _ _)).bind
  intro usable
  refine (allows.follows (keeps_ensure _ _)).bind fun _ => (allows.follows (keeps_routedPayload _ _ _)).bind fun _ => ?_
  apply allows.request.bind
  intro requested
  apply Follows.bind
  · -- a renewed purchase order awaits its approval again
    intro s result t ran
    rw [updatePurchaseOrder_eq_ok] at ran
    obtain ⟨_, -, -, -, rfl⟩ := ran
    exact .single (allows.save _ _ nofun)
  · intro _
    apply (allows.follows keeps_now).bind
    intro _
    exact allows.audit.bind fun _ => (allows.publish (by decide) (by simp)).bind fun _ => allows.pure _

theorem fileResponse_follows {purchase : SupplierPurchaseOrder} {status : PoResponseStatus} {reference : Option String}
    {digest : String} {observed : Timestamp} :
    Follows R (fileResponse env context purchase status reference digest observed) := by
  have answered : (respondedPurchase purchase status reference digest observed).status ≠ .submitted := by
    simp only [respondedPurchase]
    split <;> exact nofun
  apply Follows.bind (allows.saveInTurn answered)
  intro _
  exact allows.audit.bind fun _ => (allows.publish (by decide) (by simp)).bind fun _ => allows.pure _

theorem reconcileDemoPo_settles {purchaseId : Uuid} {response : Mapping} :
    Settles R (reconcileDemoPo env context purchaseId response) := by
  refine (allows.frame (keeps_require _)).bind fun _ => (allows.frame (keeps_ensure _ _)).bind fun _ => ?_
  refine (allows.frame (keeps_fetch _ _)).bind fun _ => (allows.frame (keeps_ofExcept _)).bind fun status => ?_
  apply (allows.frame (keeps_ofExcept _)).bind
  intro reference
  apply Settles.bind
  · exact allows.frame keeps_readPoObserved
  · intro observed
    apply Follows.transaction allows.idles
    apply (allows.follows (keeps_getPurchaseOrder _ _)).bind
    intro purchase
    apply (allows.follows (keeps_ensure _ _)).bind
    intro _
    split
    · exact allows.pure _
    · apply (allows.follows (keeps_ensure _ _)).bind
      intro _
      split
      · exact allows.pure _
      · exact (fileResponse_follows allows).bind fun _ => allows.pure _

theorem cancelPurchase_follows {tenant : Uuid} {reason : String} {now : Timestamp} (purchase : SupplierPurchaseOrder) :
    Follows R (cancelPurchase tenant reason now purchase) := by
  unfold cancelPurchase
  split
  · exact allows.saveInTurn nofun
  · split
    · exact Follows.bind (allows.saveInTurn nofun) fun _ => (allows.publish (by decide) (by simp))
    · exact allows.pure _

theorem requestDemoCancel_settles {orderId : Uuid} {reason : String} {expectedOrderVersion : Int} :
    Settles R (requestDemoCancel env context orderId reason expectedOrderVersion) := by
  refine (allows.frame (keeps_require _)).bind fun _ => (allows.frame (keeps_ensure _ _)).bind fun _ => ?_
  apply Follows.transaction allows.idles
  apply (allows.follows (keeps_getChannelOrder _ _)).bind
  intro order
  split
  · exact allows.pure _
  · apply Follows.bind
    · apply (allows.follows (keeps_ensure _ _)).bind
      intro _
      apply (allows.follows (keeps_purchaseOrdersFor _ _)).bind
      intro purchases
      refine (allows.follows keeps_updateChannelOrder).bind fun _ => (allows.follows keeps_now).bind fun _ => ?_
      apply Follows.bind (Follows.each _ fun purchase => cancelPurchase_follows allows purchase)
      intro _
      exact allows.audit.bind fun _ => (allows.publish (by decide) (by simp)).bind fun _ => allows.pure _
    · intro _
      exact allows.pure _

end

/-! ## Submission -/

/-- A purchase order that has been submitted, in the session before. -/
structure Submitting (env : Env) (context : TenantContext) (s : Session Store) (purchase : SupplierPurchaseOrder)
    (order : ChannelOrder) (command : Command) (approval : Approval) (intent : ApprovalIntent) : Prop where
  purchase_found : s.db.purchaseOrders.get? (context.tenantId, purchase.id) = some purchase
  purchase_approved : purchase.status = .approved
  linked : purchase.approvalCommandId = some command.id
  order_found : s.db.channelOrders.get? (context.tenantId, purchase.channelOrderId) = some order
  order_pending : order.status = .poPending
  unstopped : ¬ Stopped context.tenantId s.db (some order.channelId)
  command_found : s.db.commands.get? (context.tenantId, command.id) = some command
  approval_found : s.db.approvals.get? (context.tenantId, command.id) = some approval
  approval_approved : approval.state = .approved
  unexpired : env.clock s.reads < approval.expiresAt
  intent_found : s.db.approvalIntents.get? (context.tenantId, command.id) = some intent
  executable : Executable env s.db context command.id intent.policyVersion order.version (env.clock (s.reads + 1)) command
    approval intent

theorem keeps_submitDemoPo {υ : Type} {view : Store → υ} {purchaseId : Uuid} (unread : ∀ db purchases preparations events box,
      view { db with
        purchaseOrders := purchases, executionPreparations := preparations, auditEvents := events, outbox := box } = view db) :
    Keeps view (submitDemoPo env context purchaseId) := by
  apply (keeps_require _).bind
  intro _
  apply Keeps.transaction
  refine (keeps_getPurchaseOrder _ _).bind fun purchase => (keeps_ensure _ _).bind fun _ => ?_
  refine (keeps_fetch _ _).bind fun _ => (keeps_getChannelOrder _ _).bind fun order => (keeps_query _).bind fun _ => ?_
  refine (keeps_ensure _ _).bind fun _ => (keeps_getCommand _).bind fun command => ?_
  refine (keeps_getApprovalForCommand _).bind fun approval => (keeps_query _).bind fun intent => ?_
  refine keeps_now.bind fun _ => (keeps_ensure _ _).bind fun _ => (keeps_fetch _ _).bind fun _ => ?_
  refine (keeps_prepareExecution fun db preparations events box => unread db db.purchaseOrders preparations events box).bind
    fun _ => ?_
  have saved : ∀ row, Keeps view (saveInTurn row) := fun row => (keeps_getPurchaseOrder _ _).bind fun _ =>
    (keeps_ensure _ _).bind fun _ => keeps_write fun db => unread db _ db.executionPreparations db.auditEvents db.outbox
  refine (saved _).bind fun _ => ?_
  refine (keeps_auditBy fun db events => unread db db.purchaseOrders db.executionPreparations events db.outbox).bind
    fun _ => ?_
  exact (keeps_publish fun db box => unread db db.purchaseOrders db.executionPreparations db.auditEvents box).bind
    fun _ => keeps_pure _

theorem submitDemoPo_ok {purchaseId : Uuid} {submitted : SupplierPurchaseOrder}
    (ran : (submitDemoPo env context purchaseId).run s = (.ok submitted, t)) :
    ∃ purchase order command approval intent, purchase.id = purchaseId ∧
      Submitting env context s purchase order command approval intent ∧
      submitted = { purchase with status := .submitted, version := purchase.version + 1 } ∧
      controlledTables t.db = (s.db.attempts, s.db.toolCommands, s.db.purchaseOrders.put submitted) := by
  simp only [submitDemoPo, saveInTurn, demoStopActive, getApprovalIntent, bind_eq_ok, require_eq_ok, transaction_eq_ok,
    getPurchaseOrder_eq_ok, getChannelOrder_eq_ok, getCommand_eq_ok, getApprovalForCommand_eq_ok, ensure_eq_ok,
    fetch_eq_ok, query_eq_ok, now_eq_ok, updatePurchaseOrder_eq_ok, auditBy_eq_ok, publish_eq_ok, pure_eq_ok,
    exists_and_left, exists_eq_left, exists_const, and_assoc] at ran
  obtain ⟨-, purchase, found, approved, commandId, linked, order, order_found, _, rfl, unstopped, command, command_found, -,
    approval, approval_found, _, rfl, pending, decided, live, intent, intent_found, preparation, middle, prepared, _,
    ⟨_, -, -, -, rfl⟩, -, rfl, rfl⟩ := ran
  have named := congrArg Prod.snd (Table.key_of_get? found)
  have command_named := congrArg Prod.snd (Table.key_of_get? command_found)
  change purchase.id = purchaseId at named
  change command.id = commandId at command_named
  subst named command_named
  obtain ⟨_, _, _, executable, -⟩ := prepareExecution_ok prepared
  cases Option.some.inj (command_found.symm.trans executable.command_found)
  cases Option.some.inj (approval_found.symm.trans executable.approval_found)
  cases Option.some.inj (intent_found.symm.trans executable.intent_found)
  have frame : Keeps controlledTables (prepareExecution env context command.id intent.policyVersion order.version) :=
    keeps_prepareExecution fun _ _ _ _ => rfl
  have kept := frame.of_run prepared
  simp only [controlledTables, Prod.mk.injEq] at kept
  obtain ⟨attempts, tools, purchases⟩ := kept
  refine ⟨purchase, order, command, approval, intent, rfl, ?_, rfl, ?_⟩
  · exact ⟨found, approved, linked, order_found, pending, of_decide_eq_false unstopped, command_found, approval_found, decided,
      live, intent_found, executable⟩
  · simp only [controlledTables, attempts, tools, purchases]

end AiStore.Purchasing
