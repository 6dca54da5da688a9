import AiStore.Purchasing.Backing

/-! Submitted purchase orders: each is backed by an approval of just the lines it has, and is submitted once. -/

set_option autoImplicit false

namespace AiStore.Purchasing

open Relation (ReflTransGen)
open Library (Session Table Timestamp final)
open Library.Txn Failure Repository Service Approvals

variable {env : Env} {s : Session Store}

/-! ## Runs -/

/-- The tables of orders and purchases, and those of their approvals. -/
def tradeTables (db : Store) := ((serviceTables db, db.outbox), routedTables db, heldTables db)

/-- A call on orders and their purchase orders, or any operation that leaves them and their approvals alone. -/
inductive TradeCall (env : Env) where
  | ingestOrder (context : TenantContext) (channelId payloadRef : String) (idempotencyKey : Option String)
  | proposeRouting (context : TenantContext) (order : Uuid) (supplierOptions : Mapping) (expectedOrderVersion : Int)
  | approveDemoPo (context : TenantContext) (purchaseId : Uuid) (approve : Bool) (reason : String)
  | regenerateDemoPo (context : TenantContext) (purchaseId : Uuid) (reason : String) (expectedPoVersion : Int)
  | expireDueApprovals (tenant : Uuid) (limit : Int)
  | submitDemoPo (context : TenantContext) (purchaseId : Uuid)
  | reconcileDemoPo (context : TenantContext) (purchaseId : Uuid) (response : Mapping)
  | requestDemoCancel (context : TenantContext) (orderId : Uuid) (reason : String) (expectedOrderVersion : Int)
  | elsewhere (operation : Op Unit) (frame : Keeps tradeTables operation)

namespace Trade

def perform : TradeCall env → Op Unit
  | .ingestOrder context channelId payloadRef idempotencyKey =>
      quietly (Purchasing.ingestOrder env context channelId payloadRef idempotencyKey)
  | .proposeRouting context order supplierOptions expectedOrderVersion =>
      quietly (Purchasing.proposeRouting env context order supplierOptions expectedOrderVersion)
  | .approveDemoPo context purchaseId approve reason =>
      quietly (Purchasing.approveDemoPo env context purchaseId approve reason)
  | .regenerateDemoPo context purchaseId reason expectedPoVersion =>
      quietly (Purchasing.regenerateDemoPo env context purchaseId reason expectedPoVersion)
  | .expireDueApprovals tenant limit => quietly (Service.expireDueApprovals env tenant limit)
  | .submitDemoPo context purchaseId => quietly (Purchasing.submitDemoPo env context purchaseId)
  | .reconcileDemoPo context purchaseId response => quietly (Purchasing.reconcileDemoPo env context purchaseId response)
  | .requestDemoCancel context orderId reason expectedOrderVersion =>
      quietly (Purchasing.requestDemoCancel env context orderId reason expectedOrderVersion)
  | .elsewhere operation _ => operation

def step (env : Env) (call : TradeCall env) (s : Session Store) : Except Failure Unit × Session Store :=
  (perform call).run s

end Trade

section

variable {operation : Op Unit} (frame : Keeps tradeTables operation)
include frame

theorem trade_settles : Settles (Change env) operation :=
  settles_of_frame (frame.mono fun _ _ same => (Prod.mk.inj same).1)

theorem trade_steady : Obeys Steady operation :=
  steady_of_keeps (frame.mono fun _ _ same => (Prod.mk.inj (Prod.mk.inj same).2).1)

theorem trade_held : Obeys Held operation :=
  held_of_keeps (frame.mono fun _ _ same => (Prod.mk.inj (Prod.mk.inj same).2).2)

end

/-- The same call among those of the routing. -/
def TradeCall.routing : TradeCall env → RoutingCall env
  | .ingestOrder context channelId payloadRef idempotencyKey => .ingestOrder context channelId payloadRef idempotencyKey
  | .proposeRouting context order supplierOptions expectedOrderVersion =>
      .proposeRouting context order supplierOptions expectedOrderVersion
  | .approveDemoPo context purchaseId approve reason => .approveDemoPo context purchaseId approve reason
  | .regenerateDemoPo context purchaseId reason expectedPoVersion =>
      .regenerateDemoPo context purchaseId reason expectedPoVersion
  | .expireDueApprovals tenant limit => .expireDueApprovals tenant limit
  | .submitDemoPo context purchaseId => .submitDemoPo context purchaseId
  | .reconcileDemoPo context purchaseId response => .reconcileDemoPo context purchaseId response
  | .requestDemoCancel context orderId reason expectedOrderVersion =>
      .requestDemoCancel context orderId reason expectedOrderVersion
  | .elsewhere operation frame => .elsewhere operation (trade_settles frame) (trade_steady frame)

theorem perform_routing (call : TradeCall env) : Routing.perform call.routing = Trade.perform call := by
  cases call <;> rfl

/-- What the runs reach. -/
structure Trading (s : Session Store) : Prop where
  sound : Sound s
  backing : Backing s

theorem step_trading (call : TradeCall env) (trading : Trading s) :
    Trading (Trade.step env call s).2 ∧ Continues s (Trade.step env call s).2 := by
  have sound : Sound (Trade.step env call s).2 := by
    have routed := step_sound_routing call.routing trading.sound
    rwa [Routing.step, perform_routing] at routed
  have held : ∀ {operation : Op Unit}, Settles (Change env) operation → Obeys Held operation →
      Backing (operation.run s).2 ∧ Continues s (operation.run s).2 := by
    intro operation changes obeys
    have onward := (changes_lockstep trading.sound.lockstep (changes s)).2
    exact ⟨trading.backing.held onward (obeys s) (operation.advances s).2, (obeys s).kept⟩
  have quiet : ∀ {α : Type} {operation : Op α}, Settles (Change env) operation → Obeys Held operation →
      Backing ((quietly operation).run s).2 ∧ Continues s ((quietly operation).run s).2 := by
    intro α operation changes obeys
    exact held (quietly_settles changes) (obeys.bind fun _ => (keeps_pure _).obeys)
  have allows : Allows env (Change env) := change_allows
  suffices moved : Backing (Trade.step env call s).2 ∧ Continues s (Trade.step env call s).2 from
    ⟨⟨sound, moved.1⟩, moved.2⟩
  cases call with
  | ingestOrder =>
    change Backing ((quietly _).run s).2 ∧ Continues s ((quietly _).run s).2
    rw [quietly_session]
    exact ingestOrder_backing trading.sound trading.backing
  | proposeRouting =>
    change Backing ((quietly _).run s).2 ∧ Continues s ((quietly _).run s).2
    rw [quietly_session]
    exact proposeRouting_backing trading.sound trading.backing
  | approveDemoPo => exact quiet (approveDemoPo_settles allows) approveDemoPo_held
  | regenerateDemoPo =>
    change Backing ((quietly _).run s).2 ∧ Continues s ((quietly _).run s).2
    rw [quietly_session]
    exact regenerateDemoPo_backing trading.sound trading.backing
  | expireDueApprovals =>
    have expires : ∀ tenant now due, Follows (Change env) (expireDue env tenant now due) :=
      fun _ _ _ _ _ _ ran => expireDue_changes ran
    exact quiet (expireDueApprovals_settles allows expires) expireDueApprovals_held
  | submitDemoPo => exact quiet submitDemoPo_changes submitDemoPo_held
  | reconcileDemoPo => exact quiet (reconcileDemoPo_settles allows) reconcileDemoPo_held
  | requestDemoCancel => exact quiet (requestDemoCancel_settles allows) requestDemoCancel_held
  | elsewhere operation frame => exact held (trade_settles frame) (trade_held frame)

theorem run_trading (calls : List (TradeCall env)) : Trading (final (Trade.step env) Execution.newSession calls) :=
  Library.final_invariant Trading ⟨sound_newSession, backing_newSession⟩ fun call _ _ trading => (step_trading call trading).1

theorem run_continues (calls : List (TradeCall env)) (trading : Trading s) :
    Continues s (final (Trade.step env) s calls) := by
  induction calls generalizing s with
  | nil => exact .refl s
  | cons call rest ih =>
    obtain ⟨next, continues⟩ := step_trading call trading
    exact continues.trans (ih next)

/-! ## Submissions -/

/-- A call makes a purchase order `SUBMITTED` that was not. -/
def Submits (env : Env) (s : Session Store) (call : TradeCall env) (key : Uuid × Uuid) (row : SupplierPurchaseOrder) : Prop :=
  (Trade.step env call s).2.db.purchaseOrders.get? key = some row ∧ row.status = .submitted ∧
    ∀ old, s.db.purchaseOrders.get? key = some old → old.status ≠ .submitted

/-- Only a submission submits. -/
theorem Submits.call {call : TradeCall env} {key : Uuid × Uuid} {row : SupplierPurchaseOrder}
    (submits : Submits env s call key row) : ∃ context purchaseId, call = .submitDemoPo context purchaseId := by
  obtain ⟨found, submitted, outside⟩ := submits
  have allows : Allows env Unsubmitted := unsubmitted_allows
  have unmoved : (Trade.step env call s).2.db.purchaseOrders ≠ s.db.purchaseOrders := by
    intro same
    rw [same] at found
    exact outside row found submitted
  have quiet : ∀ {α : Type} {operation : Op α}, Trade.perform call = quietly operation →
      ¬ Settles Unsubmitted operation := by
    intro α operation performed settles
    have unsubmitted := unsubmitted_of_steps (quietly_settles settles s)
    rw [← performed] at unsubmitted
    obtain ⟨before, before_found, already⟩ := unsubmitted.purchases key row found submitted
    exact outside before before_found already
  cases call with
  | ingestOrder context channelId payloadRef idempotencyKey =>
    have settles : Settles Grows (Purchasing.ingestOrder env context channelId payloadRef idempotencyKey) :=
      ingestOrder_grows
    have grows := grows_of_steps (quietly_settles settles s)
    exact absurd (congrArg Prod.fst grows.tables) unmoved
  | proposeRouting => exact absurd (proposeRouting_settles allows) (quiet rfl)
  | approveDemoPo => exact absurd (approveDemoPo_settles allows) (quiet rfl)
  | regenerateDemoPo => exact absurd (regenerateDemoPo_settles allows) (quiet rfl)
  | expireDueApprovals =>
    have expires : ∀ tenant now due, Follows Unsubmitted (expireDue env tenant now due) :=
      fun _ _ _ _ _ _ ran => .single (unsubmitted_of_same (expireDue_keeps (fun _ _ _ _ _ => rfl) ran))
    exact absurd (expireDueApprovals_settles allows expires) (quiet rfl)
  | submitDemoPo context purchaseId => exact ⟨context, purchaseId, rfl⟩
  | reconcileDemoPo => exact absurd (reconcileDemoPo_settles allows) (quiet rfl)
  | requestDemoCancel => exact absurd (requestDemoCancel_settles allows) (quiet rfl)
  | elsewhere operation frame =>
    have same : tradeTables (operation.run s).2.db = tradeTables s.db := frame s
    exact absurd (congrArg (fun tables => tables.2.2.1) same) unmoved

/-- What stands behind a purchase order. -/
structure Supported (db : Store) (purchase : SupplierPurchaseOrder) (order : ChannelOrder) (command : Command)
    (approval : Approval) (intent : ApprovalIntent) : Prop where
  order_found : db.channelOrders.get? (purchase.tenantId, purchase.channelOrderId) = some order
  order_pending : order.status = .poPending
  linked : purchase.approvalCommandId = some command.id
  command_found : db.commands.get? (purchase.tenantId, command.id) = some command
  approval_found : db.approvals.get? (purchase.tenantId, command.id) = some approval
  approval_approved : approval.state = .approved
  intent_found : db.approvalIntents.get? (purchase.tenantId, command.id) = some intent
  target : intent.targetVersion = order.version
  payload : command.payload = purchasePayload purchase.channelOrderId purchase.supplierId
    (purchaseMaterial purchase.tenantId purchase.id db)
  decisions : ((decisionsOf purchase.tenantId purchase.channelOrderId db).filter (·.supplierId = purchase.supplierId)).map
    decisionContent = (linesOf purchase.tenantId purchase.id db).map lineContent

/-- The tables that a submission only reads. -/
def approvedTables (db : Store) := (db.channelOrders, db.commands, db.approvals, db.approvalIntents)

theorem Submits.supported {call : TradeCall env} {key : Uuid × Uuid} {row : SupplierPurchaseOrder} (trading : Trading s)
    (submits : Submits env s call key row) : ∃ order command approval intent,
      Supported (Trade.step env call s).2.db row order command approval intent ∧ env.clock s.reads < approval.expiresAt := by
  obtain ⟨context, purchaseId, rfl⟩ := submits.call
  obtain ⟨⟨-, backing⟩, -⟩ := step_trading (.submitDemoPo context purchaseId : TradeCall env) trading
  obtain ⟨found, submitted, outside⟩ := submits
  have whole : (Trade.step env (.submitDemoPo context purchaseId) s).2 = ((submitDemoPo env context purchaseId).run s).2 :=
    quietly_session _ s
  rw [whole] at found backing ⊢
  have unwinds : Unwinds id (submitDemoPo env context purchaseId) :=
    Unwinds.bind (keeps_require _) fun _ => unwinds_transaction _
  have keeps : Keeps approvedTables (submitDemoPo env context purchaseId) := keeps_submitDemoPo fun _ _ _ _ _ => rfl
  rcases ran : (submitDemoPo env context purchaseId).run s with ⟨why | saved, t⟩
  · rw [ran] at found
    have same : t.db = s.db := unwinds s why t ran
    change t.db.purchaseOrders.get? key = some row at found
    rw [same] at found
    exact absurd submitted (outside row found)
  · rw [ran] at found backing
    have kept := keeps.of_run ran
    obtain ⟨purchase, order, command, approval, intent, -, submitting, rfl, controlled⟩ := submitDemoPo_ok ran
    simp only [controlledTables, approvedTables, Prod.mk.injEq] at controlled kept
    obtain ⟨-, -, purchases⟩ := controlled
    obtain ⟨orders, commands, approvals, intents⟩ := kept
    have tenant : purchase.tenantId = context.tenantId := congrArg Prod.fst (Table.key_of_get? submitting.purchase_found)
    let submitted_row : SupplierPurchaseOrder := { purchase with status := .submitted, version := purchase.version + 1 }
    have stored : submitted_row ∈ t.db.purchaseOrders.rows := by
      rw [purchases]
      exact (Table.mem_put _ _ _).mpr (.inl rfl)
    have same : submitted_row = row := by
      change t.db.purchaseOrders.get? key = some row at found
      rw [purchases, Table.get?_put] at found
      split at found
      · exact Option.some.inj found
      · exact absurd submitted (outside row found)
    obtain ⟨decided, id, other, linked, other_found, payload⟩ := backing.backed submitted_row stored
    cases Option.some.inj (linked.symm.trans submitting.linked)
    have here : submitted_row.tenantId = context.tenantId := tenant
    rw [here, commands, submitting.command_found] at other_found
    cases other_found
    rw [← same]
    refine ⟨order, command, approval, intent, ⟨?_, submitting.order_pending, submitting.linked, ?_, ?_,
      submitting.approval_approved, ?_, submitting.executable.target_version.symm, payload, decided⟩, submitting.unexpired⟩
    · rw [here, orders]
      exact submitting.order_found
    · rw [here, commands]
      exact submitting.command_found
    · rw [here, approvals]
      exact submitting.approval_found
    · rw [here, intents]
      exact submitting.intent_found

theorem stage_eq_one {status : PurchaseOrderState} : stage status = 1 ↔ status = .submitted := by
  cases status <;> decide

/-- A purchase order that has been submitted is not submitted again. -/
theorem Submits.once {call again : TradeCall env} {middle : List (TradeCall env)} {key : Uuid × Uuid}
    {row other : SupplierPurchaseOrder} (trading : Trading s) (submits : Submits env s call key row) :
    ¬ Submits env (final (Trade.step env) (Trade.step env call s).2 middle) again key other := by
  rintro ⟨other_found, other_submitted, outside⟩
  obtain ⟨next, -⟩ := step_trading call trading
  have between := run_continues middle next
  have later : Trading (final (Trade.step env) (Trade.step env call s).2 middle) :=
    Library.final_invariant Trading next fun call _ _ trading => (step_trading call trading).1
  obtain ⟨-, last⟩ := step_trading again later
  obtain ⟨found, submitted, -⟩ := submits
  obtain ⟨second, second_member, first_on⟩ := between row (Table.mem_of_get? found)
  obtain ⟨third, third_member, second_on⟩ := last second second_member
  have second_key : second.key = key := first_on.key.trans (Table.key_of_get? found)
  have third_key : third.key = key := second_on.key.trans second_key
  have third_found := Table.get?_key _ third_member
  rw [third_key] at third_found
  cases Option.some.inj (third_found.symm.trans other_found)
  have second_found := Table.get?_key _ second_member
  rw [second_key] at second_found
  have passed : stage second.status ≠ 1 := fun same => outside second second_found (stage_eq_one.mp same)
  have begun := first_on.stage
  have ended := second_on.stage
  rw [stage_eq_one.mpr submitted] at begun
  rw [stage_eq_one.mpr other_submitted] at ended
  omega

/-- In every run, a purchase order that becomes `SUBMITTED` is backed by an approved and unexpired approval of its order's
version and of just its lines, which are the routing decisions for its supplier, and no later call submits it again. -/
theorem submission_backed_once (env : Env) (calls : List (TradeCall env)) (call : TradeCall env) (key : Uuid × Uuid)
    (row : SupplierPurchaseOrder) (submits : Submits env (final (Trade.step env) Execution.newSession calls) call key row) :
    let before := final (Trade.step env) Execution.newSession calls
    let after := (Trade.step env call before).2
    (∃ order command approval intent, Supported after.db row order command approval intent ∧
      env.clock before.reads < approval.expiresAt) ∧
    ∀ middle again other, ¬ Submits env (final (Trade.step env) after middle) again key other :=
  ⟨submits.supported (run_trading calls), fun _ _ _ => submits.once (run_trading calls)⟩

/-- An order of one line, as a poll has kept it. -/
def keptPayload : NormalizedInboundPayload where
  tenantId := 0
  immutableRef := "payload"
  canonicalDigest := "other"
  schemaVersion := 1
  payload := .dict [("external_order_id", .text "order-1"), ("event_id", .text "event-1"), ("currency", .text "KRW"),
    ("total_minor", .int 10), ("lines", .list [.dict [("sku", .text "sku"), ("quantity", .int 1), ("unit_minor", .int 10)]])]
  sourceDigest := none
  createdAt := .utc 0

theorem keeps_saveNormalizedPayload {υ : Type} {view : Store → υ} (row : NormalizedInboundPayload)
    (unread : ∀ db payloads, view { db with normalizedPayloads := payloads } = view db) :
    Keeps view (saveNormalizedPayload row) := by
  apply (keeps_query _).bind
  intro prior
  split
  · exact (keeps_ensure _ _).bind fun _ => keeps_pure _
  · exact (keeps_write fun _ => unread _ _).bind fun _ => keeps_pure _

/-- A master has an order routed to its one supplier, and approves the purchase order. -/
def approvedTrade : List (TradeCall idleEnv) :=
  [.elsewhere (quietly (bootstrapTenant idleEnv "Demo" "master@demo.test"))
      ((keeps_bootstrapTenant fun _ _ _ _ _ => rfl).bind fun _ => keeps_pure _),
   .elsewhere (quietly (saveNormalizedPayload keptPayload))
      ((keeps_saveNormalizedPayload _ fun _ _ => rfl).bind fun _ => keeps_pure _),
   .ingestOrder Execution.demoMaster "shop" "payload" none,
   .proposeRouting Execution.demoMaster 4 [("sku", .list [.dict [("supplier_id", .text "supplier"),
     ("unit_cost_minor", .int 5), ("available_quantity", .int 3)]])] 1,
   .approveDemoPo Execution.demoMaster 15 true "yes"]

theorem approvedTrade_submits : ∃ row, Submits idleEnv (final (Trade.step idleEnv) Execution.newSession approvedTrade)
    (.submitDemoPo Execution.demoMaster 15) (0, 15) row := by
  have submitted : ((Trade.step idleEnv (.submitDemoPo Execution.demoMaster 15)
      (final (Trade.step idleEnv) Execution.newSession approvedTrade)).2.db.purchaseOrders.get? (0, 15)).any
        (·.status = .submitted) = true := by
    decide +kernel
  have outside : ((final (Trade.step idleEnv) Execution.newSession approvedTrade).db.purchaseOrders.get? (0, 15)).all
      (·.status ≠ .submitted) = true := by
    decide +kernel
  obtain ⟨row, found, status⟩ := (Option.any_eq_true _ _).mp submitted
  exact ⟨row, found, of_decide_eq_true status, fun old old_found =>
    of_decide_eq_true ((Option.all_eq_true _ _).mp outside old old_found)⟩

/-- Its submission is backed by that approval, and there is no other. -/
theorem submission_backed_once_approved :
    let before := final (Trade.step idleEnv) Execution.newSession approvedTrade
    let after := (Trade.step idleEnv (.submitDemoPo Execution.demoMaster 15) before).2
    ∃ row, (∃ order command approval intent, Supported after.db row order command approval intent ∧
        idleEnv.clock before.reads < approval.expiresAt) ∧
      ∀ middle again other, ¬ Submits idleEnv (final (Trade.step idleEnv) after middle) again (0, 15) other := by
  obtain ⟨row, submits⟩ := approvedTrade_submits
  exact ⟨row, submission_backed_once idleEnv approvedTrade (.submitDemoPo Execution.demoMaster 15) (0, 15) row submits⟩

end AiStore.Purchasing
