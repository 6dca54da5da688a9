import AiStore.Purchasing.Held

/-! What backs a purchase order: its lines are the routing decisions for its supplier, and its command is about them. -/

set_option autoImplicit false

namespace AiStore.Purchasing

open Relation (ReflTransGen)
open Library (Session Table Timestamp)
open Library.Txn Failure Repository Service Approvals

variable {env : Env} {context : TenantContext} {s t u : Session Store}

/-! ## Lines and decisions -/

/-- The order that an order line belongs to. -/
def lineOrder (tenant line : Uuid) (db : Store) : Option Uuid := (db.orderLines.get? (tenant, line)).map (·.channelOrderId)

/-- The routing decisions of an order. -/
def decisionsOf (tenant order : Uuid) (db : Store) : List RoutingDecision :=
  db.routingDecisions.rows.filter fun row => row.tenantId = tenant ∧ lineOrder tenant row.orderLineId db = some order

def decisionContent (row : RoutingDecision) : Uuid × Int × Int := (row.orderLineId, row.quantity, row.unitCostMinor)

/-- What an approval of the lines of a purchase order has to be about. -/
def purchaseMaterial (tenant purchase : Uuid) (db : Store) : List Value :=
  (linesOf tenant purchase db).map fun row => lineMaterial row.orderLineId row.quantity row.unitCostMinor

theorem lineOrder_eq_some {tenant line order : Uuid} {db : Store} :
    lineOrder tenant line db = some order ↔ line ∈ (orderLinesOf tenant order db).map (·.id) := by
  simp only [lineOrder, Option.map_eq_some_iff, List.mem_map, orderLinesOf, List.mem_filter, decide_eq_true_eq]
  constructor
  · rintro ⟨row, found, rfl⟩
    have named := Table.key_of_get? found
    exact ⟨row, ⟨Table.mem_of_get? found, congrArg Prod.fst named, rfl⟩, congrArg Prod.snd named⟩
  · rintro ⟨row, ⟨member, rfl, rfl⟩, rfl⟩
    exact ⟨row, Table.get?_key _ member, rfl⟩

/-- `routing_for` reads just these. -/
theorem routingFor_ok {tenant order : Uuid} {rows : List RoutingDecision}
    (ran : (routingFor tenant order).run s = (.ok rows, t)) : rows = decisionsOf tenant order s.db := by
  simp only [routingFor, bind_eq_ok, orderLinesFor_eq_ok, query_eq_ok] at ran
  obtain ⟨lines, _, ⟨-, listed, first⟩, rfl, -⟩ := ran
  rw [first, ← listed]
  apply List.filter_congr
  intro row _
  apply decide_eq_decide.mpr
  rw [lineOrder_eq_some]
  rfl

/-- Order lines stay with their orders. -/
def LinesKept (before after : Store) : Prop := ∀ key line, before.orderLines.get? key = some line →
  ∃ later, after.orderLines.get? key = some later ∧ later.channelOrderId = line.channelOrderId

theorem LinesKept.refl (db : Store) : LinesKept db db := fun _ line found => ⟨line, found, rfl⟩

theorem LinesKept.trans {first second third : Store} (left : LinesKept first second) (right : LinesKept second third) :
    LinesKept first third := by
  intro key line found
  obtain ⟨middle, middle_found, earlier⟩ := left key line found
  obtain ⟨last, last_found, later⟩ := right key middle middle_found
  exact ⟨last, last_found, later.trans earlier⟩

theorem LinesKept.of_same {before after : Store} (same : after.orderLines = before.orderLines) : LinesKept before after := by
  intro key line found
  rw [same]
  exact ⟨line, found, rfl⟩

/-- A line that is written over a line of its order. -/
theorem LinesKept.put {before after : Store} {line : OrderLine} (lines : after.orderLines = before.orderLines.put line)
    (of_order : ∀ old, before.orderLines.get? line.key = some old → line.channelOrderId = old.channelOrderId) :
    LinesKept before after := by
  intro key old found
  rw [lines]
  by_cases same : line.key = key
  · subst same
    exact ⟨line, Table.get?_put_self _ line, of_order old found⟩
  · exact ⟨old, (Table.get?_put_of_ne _ same).trans found, rfl⟩

theorem LinesKept.lineOrder {before after : Store} (kept : LinesKept before after) {tenant line order : Uuid}
    (known : lineOrder tenant line before = some order) : Purchasing.lineOrder tenant line after = some order := by
  obtain ⟨row, found, about⟩ := Option.map_eq_some_iff.mp known
  obtain ⟨later, later_found, same⟩ := kept _ row found
  exact Option.map_eq_some_iff.mpr ⟨later, later_found, same.trans about⟩

/-! ## The invariant -/

/-- The lines of a purchase order are the decisions for its supplier, and its command is about them. -/
structure Backed (db : Store) (purchase : SupplierPurchaseOrder) : Prop where
  decided : ((decisionsOf purchase.tenantId purchase.channelOrderId db).filter (·.supplierId = purchase.supplierId)).map
    decisionContent = (linesOf purchase.tenantId purchase.id db).map lineContent
  command : ∃ id command, purchase.approvalCommandId = some id ∧ db.commands.get? (purchase.tenantId, id) = some command ∧
    command.payload = purchasePayload purchase.channelOrderId purchase.supplierId
      (purchaseMaterial purchase.tenantId purchase.id db)

/-- What the operations on purchase orders keep. -/
structure Backing (s : Session Store) : Prop where
  named : ∀ row ∈ s.db.purchaseOrders.rows, row.idempotencyKey = ⟨row.channelOrderId, row.supplierId⟩
  unique : ∀ first ∈ s.db.purchaseOrders.rows, ∀ second ∈ s.db.purchaseOrders.rows, first.tenantId = second.tenantId →
    first.idempotencyKey = second.idempotencyKey → first = second
  renewed : ∀ tenant order supplier version, s.db.commandIdempotency.get? (tenant, .renewal order supplier version) ≠ none →
    ∃ row ∈ s.db.purchaseOrders.rows, row.tenantId = tenant ∧ row.idempotencyKey = ⟨order, supplier⟩ ∧ version ≤ row.version
  backed : ∀ row ∈ s.db.purchaseOrders.rows, Backed s.db row
  decided : ∀ decision ∈ s.db.routingDecisions.rows, ∃ order,
    lineOrder decision.tenantId decision.orderLineId s.db = some order ∧ Placed s.db decision.tenantId order
  drawn : ∀ line ∈ s.db.orderLines.rows, line.id < s.uuids
  issued : ∀ row ∈ s.db.purchaseOrders.rows, row.id < s.uuids

theorem backing_newSession : Backing Execution.newSession where
  named _ member := absurd member List.not_mem_nil
  unique _ member := absurd member List.not_mem_nil
  renewed _ _ _ _ bound := absurd rfl bound
  backed _ member := absurd member List.not_mem_nil
  decided _ member := absurd member List.not_mem_nil
  drawn _ member := absurd member List.not_mem_nil
  issued _ member := absurd member List.not_mem_nil

/-- The decisions of an order are those of before, if no decision is new and every line stays with its order. -/
theorem decisionsOf_kept {before after : Store} {tenant order : Uuid}
    (decided : ∀ decision ∈ before.routingDecisions.rows, lineOrder decision.tenantId decision.orderLineId before ≠ none)
    (same : after.routingDecisions = before.routingDecisions) (kept : LinesKept before after) :
    decisionsOf tenant order after = decisionsOf tenant order before := by
  rw [decisionsOf, same, decisionsOf]
  apply List.filter_congr
  intro decision member
  apply decide_eq_decide.mpr
  apply and_congr_right
  rintro rfl
  obtain ⟨about, known⟩ := Option.ne_none_iff_exists'.mp (decided decision member)
  rw [kept.lineOrder known, known]

/-- A purchase order of after, with the command it had or with a new one about its lines. -/
def Renews (after : Store) (row old : SupplierPurchaseOrder) : Prop := row.approvalCommandId = old.approvalCommandId ∨
  ∃ id command, row.approvalCommandId = some id ∧ after.commands.get? (row.tenantId, id) = some command ∧
    command.payload = purchasePayload row.channelOrderId row.supplierId (purchaseMaterial row.tenantId row.id after)

theorem Backed.moved {before after : Store} {old row : SupplierPurchaseOrder} (backed : Backed before old)
    (succeeds : Succeeds old row) (renews : Renews after row old)
    (decisions : ∀ tenant order, decisionsOf tenant order after = decisionsOf tenant order before)
    (lines : after.purchaseLines = before.purchaseLines) (onward : Onward before after) : Backed after row := by
  have rows : ∀ tenant purchase, linesOf tenant purchase after = linesOf tenant purchase before := by
    intro tenant purchase
    rw [linesOf, lines, linesOf]
  constructor
  · rw [decisions, rows, succeeds.tenant, succeeds.order, succeeds.supplier, succeeds.id]
    exact backed.decided
  · rcases renews with same | new
    · obtain ⟨id, command, linked, found, payload⟩ := backed.command
      obtain ⟨later, later_found, -, -, kept⟩ := onward.commands _ command found
      refine ⟨id, later, same.trans linked, succeeds.tenant ▸ later_found, ?_⟩
      rw [kept, payload, purchaseMaterial, purchaseMaterial, rows, succeeds.tenant, succeeds.order, succeeds.supplier,
        succeeds.id]
    · exact new

/-- No purchase order is lost, and none goes back. -/
def Continues (s t : Session Store) : Prop :=
  ∀ old ∈ s.db.purchaseOrders.rows, ∃ row ∈ t.db.purchaseOrders.rows, Succeeds old row

theorem Continues.refl (s : Session Store) : Continues s s := fun row member => ⟨row, member, .refl row⟩

theorem Continues.trans (first : Continues s t) (second : Continues t u) : Continues s u := by
  intro old member
  obtain ⟨middle, middle_member, earlier⟩ := first old member
  obtain ⟨row, row_member, later⟩ := second middle middle_member
  exact ⟨row, row_member, earlier.trans later⟩

/-- A step that makes no purchase order and no decision. -/
theorem Backing.moved (backing : Backing s) (onward : Onward s.db t.db) (uuids : s.uuids ≤ t.uuids)
    (purchases : ∀ row ∈ t.db.purchaseOrders.rows, ∃ old ∈ s.db.purchaseOrders.rows, Succeeds old row ∧ Renews t.db row old)
    (kept : Continues s t)
    (renewals : ∀ tenant order supplier version,
      t.db.commandIdempotency.get? (tenant, .renewal order supplier version) ≠ none →
      s.db.commandIdempotency.get? (tenant, .renewal order supplier version) ≠ none ∨
        ∃ row ∈ t.db.purchaseOrders.rows, row.tenantId = tenant ∧ row.idempotencyKey = ⟨order, supplier⟩ ∧
          version ≤ row.version)
    (decisions : t.db.routingDecisions = s.db.routingDecisions) (lines : t.db.purchaseLines = s.db.purchaseLines)
    (orders : LinesKept s.db t.db) (drawn : ∀ line ∈ t.db.orderLines.rows, line.id < t.uuids) : Backing t := by
  have same : ∀ tenant order, decisionsOf tenant order t.db = decisionsOf tenant order s.db := by
    intro tenant order
    apply decisionsOf_kept _ decisions orders
    intro decision member
    obtain ⟨about, known, -⟩ := backing.decided decision member
    rw [known]
    exact Option.some_ne_none about
  refine ⟨?_, ?_, ?_, ?_, ?_, drawn, ?_⟩
  · intro row member
    obtain ⟨old, old_member, succeeds, -⟩ := purchases row member
    rw [succeeds.named, succeeds.order, succeeds.supplier]
    exact backing.named old old_member
  · intro first first_member second second_member tenant key
    obtain ⟨old, old_member, succeeds, -⟩ := purchases first first_member
    obtain ⟨other, other_member, follows, -⟩ := purchases second second_member
    have one : old = other := by
      apply backing.unique old old_member other other_member
      · rw [← succeeds.tenant, ← follows.tenant, tenant]
      · rw [← succeeds.named, ← follows.named, key]
    apply Table.key_inj _ first_member second_member
    rw [succeeds.key, follows.key, one]
  · intro tenant order supplier version bound
    rcases renewals tenant order supplier version bound with before | new
    · obtain ⟨old, member, of_tenant, key, reached⟩ := backing.renewed tenant order supplier version before
      obtain ⟨row, row_member, succeeds⟩ := kept old member
      exact ⟨row, row_member, succeeds.tenant.trans of_tenant, succeeds.named.trans key, reached.trans succeeds.version⟩
    · exact new
  · intro row member
    obtain ⟨old, old_member, succeeds, renews⟩ := purchases row member
    exact (backing.backed old old_member).moved succeeds renews same lines onward
  · rw [decisions]
    intro decision member
    obtain ⟨order, known, old, old_member, of_tenant, of_order⟩ := backing.decided decision member
    obtain ⟨row, row_member, succeeds⟩ := kept old old_member
    exact ⟨order, orders.lineOrder known, row, row_member, succeeds.tenant.trans of_tenant, succeeds.order.trans of_order⟩
  · intro row member
    obtain ⟨old, old_member, succeeds, -⟩ := purchases row member
    rw [succeeds.id]
    exact Nat.lt_of_lt_of_le (backing.issued old old_member) uuids

theorem Backing.held (backing : Backing s) (onward : Onward s.db t.db) (held : Held s.db t.db) (uuids : s.uuids ≤ t.uuids) :
    Backing t := by
  have tables := held.tables
  simp only [boughtTables, Prod.mk.injEq] at tables
  obtain ⟨keys, lines, decisions, bought⟩ := tables
  refine backing.moved onward uuids ?_ held.kept ?_ decisions bought (.of_same lines) ?_
  · intro row member
    obtain ⟨old, old_member, succeeds, linked⟩ := held.purchases row member
    exact ⟨old, old_member, succeeds, .inl linked⟩
  · rw [keys]
    exact fun _ _ _ _ bound => .inl bound
  · rw [lines]
    exact fun line member => Nat.lt_of_lt_of_le (backing.drawn line member) uuids

/-! ## Renewal -/

theorem supportedLine_ok {decisions : List RoutingDecision} {orderLines : List OrderLine} {purchase : SupplierPurchaseOrder}
    {line : PurchaseLine} {value : Value} (supported : supportedLine decisions orderLines purchase line = .ok value) :
    value = lineMaterial line.orderLineId line.quantity line.unitCostMinor := by
  unfold supportedLine at supported
  repeat' split at supported
  all_goals cases supported
  rfl

theorem supportedLines_ok {decisions : List RoutingDecision} {orderLines : List OrderLine} {purchase : SupplierPurchaseOrder}
    {lines : List PurchaseLine} {values : List Value}
    (supported : lines.mapM (supportedLine decisions orderLines purchase) = .ok values) :
    values = lines.map fun line => lineMaterial line.orderLineId line.quantity line.unitCostMinor := by
  induction lines generalizing values with
  | nil =>
    cases supported
    rfl
  | cons line rest ih =>
    rw [List.mapM_cons] at supported
    cases first : supportedLine decisions orderLines purchase line with
    | error why =>
      rw [first] at supported
      cases supported
    | ok value =>
      cases others : rest.mapM (supportedLine decisions orderLines purchase) with
      | error why =>
        rw [first, others] at supported
        cases supported
      | ok remaining =>
        rw [first, others] at supported
        cases supported
        rw [supportedLine_ok first, ih others, List.map_cons]

/-- A renewal asks for an approval of the lines as they are. -/
theorem routedPayload_ok {tenant : Uuid} {purchase : SupplierPurchaseOrder} {order : ChannelOrder} {payload : Mapping}
    (ran : (routedPayload tenant purchase order).run s = (.ok payload, t)) :
    payload = purchasePayload order.id purchase.supplierId (purchaseMaterial tenant purchase.id s.db) := by
  simp only [routedPayload, purchaseLinesFor, routingFor, bind_eq_ok, query_eq_ok, orderLinesFor_eq_ok, ofExcept_eq_ok,
    pure_eq_ok] at ran
  obtain ⟨_, _, ⟨rfl, rfl⟩, _, _, ⟨_, _, ⟨-, -, rfl⟩, -, rfl⟩, _, _, ⟨-, -, rfl⟩, expected, _, ⟨supported, rfl⟩, rfl, rfl⟩ := ran
  rw [supportedLines_ok supported]
  rfl

/-- A purchase order that has been submitted is not renewed. -/
theorem renewable_stage {purchase : SupplierPurchaseOrder} {approval : Approval}
    (ran : (renewable env purchase approval).run s = (.ok true, t)) : stage purchase.status = 0 := by
  unfold renewable at ran
  split at ran
  · next status => rw [status]; rfl
  · next status => rw [status]; rfl
  · next status => rw [status]; rfl
  · cases ((pure_eq_ok _ _ _ _).mp ran).1

theorem Backing.renewal_free (backing : Backing s) {row : SupplierPurchaseOrder}
    (member : row ∈ s.db.purchaseOrders.rows) : s.db.commandIdempotency.get?
      (row.tenantId, .renewal row.idempotencyKey.order row.idempotencyKey.supplier (row.version + 1)) = none := by
  by_contra bound
  obtain ⟨other, other_member, tenant, key, reached⟩ := backing.renewed _ _ _ _ bound
  have same := backing.unique other other_member row member tenant key
  subst same
  exact absurd reached (Nat.not_succ_le_self _)

/-- What a renewal that returns has done. -/
theorem regenerateDemoPo_ok {purchaseId : Uuid} {reason : String} {expectedPoVersion : Int} {result : SupplierPurchaseOrder}
    (backing : Backing s)
    (ran : (regenerateDemoPo env context purchaseId reason expectedPoVersion).run s = (.ok result, t)) :
    ∃ purchase command, s.db.purchaseOrders.get? (context.tenantId, purchaseId) = some purchase ∧ stage purchase.status = 0 ∧
      result = { purchase with
        status := .approvalPending, approvalCommandId := some command.id, version := purchase.version + 1 } ∧
      command.tenantId = context.tenantId ∧ command.payload = purchasePayload purchase.channelOrderId purchase.supplierId
        (purchaseMaterial context.tenantId purchase.id s.db) ∧
      t.db.commands = s.db.commands.put command ∧
      t.db.commandIdempotency = s.db.commandIdempotency.set (context.tenantId,
        .renewal purchase.idempotencyKey.order purchase.idempotencyKey.supplier (purchase.version + 1)) command.id ∧
      t.db.purchaseOrders = s.db.purchaseOrders.put result ∧ t.db.orderLines = s.db.orderLines ∧
      t.db.routingDecisions = s.db.routingDecisions ∧ t.db.purchaseLines = s.db.purchaseLines := by
  simp only [regenerateDemoPo, transaction_eq_ok, bind_eq_ok, require_eq_ok, getPurchaseOrder_eq_ok, ensure_eq_ok,
    getChannelOrder_eq_ok, fetch_eq_ok, getApprovalForCommand_eq_ok] at ran
  obtain ⟨_, _, ⟨-, rfl⟩, _, _, ⟨-, rfl⟩, purchase, _, ⟨found, rfl⟩, _, _, ⟨-, rfl⟩, order, _, ⟨order_found, rfl⟩, _, _, ⟨-, rfl⟩,
    prior, _, ⟨-, rfl⟩, previous, start, ⟨-, -, rfl⟩, usable, unread, reading, _, _, ⟨rfl, same⟩, payload, unchanged, routing,
    ⟨command, approval⟩, asked, requesting, ran⟩ := ran
  have unmoved := routedPayload_session routing
  rw [same] at routing
  rw [unmoved, same] at requesting
  have reads : Keeps id (renewable env purchase previous) := keeps_renewable _ _
  have read : unread.db = start.db := reads.of_run reading
  have named : purchase.key = (context.tenantId, purchaseId) := Table.key_of_get? found
  have tenant : purchase.tenantId = context.tenantId := congrArg Prod.fst named
  have about : order.id = purchase.channelOrderId := congrArg Prod.snd (Table.key_of_get? order_found)
  have free := backing.renewal_free (Table.mem_of_get? found)
  rw [tenant, ← read] at free
  have request := requestApproval_fresh free requesting
  have beside : (asked.db.orderLines, asked.db.routingDecisions) = (unread.db.orderLines, unread.db.routingDecisions) := by
    have keeps : Keeps (fun db => (db.orderLines, db.routingDecisions)) (requestApproval env context .purchase
        (.po order.id purchase.supplierId) payload (.renewal purchase.idempotencyKey.order purchase.idempotencyKey.supplier
          (purchase.version + 1)) 1 order.version) := keeps_requestApproval fun _ _ _ _ _ _ _ _ => rfl
    exact keeps.of_run requesting
  obtain ⟨lines, decisions⟩ := Prod.mk.inj beside
  have material := routedPayload_ok routing
  have commands := request.commands
  have keys := request.keys
  have purchases := request.purchases
  have bought := request.lines
  rw [read] at material commands keys purchases bought lines decisions
  rw [about] at material
  simp only [updatePurchaseOrder_eq_ok, now_eq_ok, auditBy_eq_ok, publish_eq_ok, pure_eq_ok] at ran
  obtain ⟨_, _, ⟨_, -, -, -, rfl⟩, _, _, ⟨-, rfl⟩, _, _, rfl, _, _, ⟨-, rfl⟩, rfl, rfl⟩ := ran
  exact ⟨purchase, command, found, renewable_stage reading, rfl, request.tenant, request.payload.trans material, commands, keys,
    congrArg (Table.put · _) purchases, lines, decisions, bought⟩

theorem regenerateDemoPo_backing {purchaseId : Uuid} {reason : String} {expectedPoVersion : Int} (sound : Sound s)
    (backing : Backing s) :
    let t := ((regenerateDemoPo env context purchaseId reason expectedPoVersion).run s).2
    Backing t ∧ Continues s t := by
  have changes : ReflTransGen (Change env) s ((regenerateDemoPo env context purchaseId reason expectedPoVersion).run s).2 :=
    regenerateDemoPo_settles change_allows s
  have onward := (changes_lockstep sound.lockstep changes).2
  have uuids := ((regenerateDemoPo env context purchaseId reason expectedPoVersion).advances s).2
  have unwinds : Unwinds id (regenerateDemoPo env context purchaseId reason expectedPoVersion) :=
    Unwinds.bind (keeps_require _) fun _ => Unwinds.bind (keeps_ensure _ _) fun _ => unwinds_transaction _
  rcases ran : (regenerateDemoPo env context purchaseId reason expectedPoVersion).run s with ⟨why | result, t⟩
  · rw [ran] at onward uuids
    have same : t.db = s.db := unwinds s why t ran
    have held : Held s.db t.db := .of_same (congrArg heldTables same)
    exact ⟨backing.held onward held uuids, held.kept⟩
  · rw [ran] at onward uuids
    obtain ⟨purchase, command, found, unsubmitted, rfl, of_tenant, payload, commands, keys, purchases, lines, decisions, bought⟩ :=
      regenerateDemoPo_ok backing ran
    let row : SupplierPurchaseOrder := { purchase with
      status := .approvalPending, approvalCommandId := some command.id, version := purchase.version + 1 }
    have member := Table.mem_of_get? found
    have tenant : purchase.tenantId = context.tenantId := congrArg Prod.fst (Table.key_of_get? found)
    have succeeds : Succeeds purchase row := by
      refine ⟨rfl, rfl, rfl, rfl, Nat.le_succ _, ?_⟩
      rw [unsubmitted]
      exact Nat.zero_le _
    have renews : Renews t.db row purchase := by
      refine .inr ⟨command.id, command, rfl, ?_, ?_⟩
      · have named : command.key = (row.tenantId, command.id) := congrArg (·, command.id) (of_tenant.trans tenant.symm)
        rw [commands, ← named]
        exact Table.get?_put_self _ _
      · rw [payload, purchaseMaterial, purchaseMaterial, linesOf, linesOf, bought, ← tenant]
    have continues : Continues s t := by
      rw [Continues, purchases]
      exact kept_put member succeeds fun old old_member => ⟨old, old_member, .refl old⟩
    refine ⟨backing.moved onward uuids ?_ continues ?_ decisions bought (.of_same lines) ?_, continues⟩
    · rw [purchases]
      exact Table.forall_put (fun other kept => ⟨other, kept, .refl other, .inl rfl⟩) ⟨purchase, member, succeeds, renews⟩
    · intro owner order supplier version bound
      by_cases own : (context.tenantId, CommandKey.renewal purchase.idempotencyKey.order purchase.idempotencyKey.supplier
          (purchase.version + 1)) = (owner, .renewal order supplier version)
      · cases own
        refine .inr ⟨row, ?_, tenant, rfl, Nat.le_refl _⟩
        rw [purchases]
        exact (Table.mem_put _ _ _).mpr (.inl rfl)
      · rw [keys, Library.Dict.get?_set_of_ne _ own _] at bound
        exact .inl bound
    · rw [lines]
      exact fun line member => Nat.lt_of_lt_of_le (backing.drawn line member) uuids

/-! ## Intake -/

/-- Order lines are taken in under new identifiers, and nothing is bought. -/
structure Grows (s t : Session Store) : Prop where
  tables : (t.db.purchaseOrders, t.db.commandIdempotency, t.db.routingDecisions, t.db.purchaseLines) =
    (s.db.purchaseOrders, s.db.commandIdempotency, s.db.routingDecisions, s.db.purchaseLines)
  lines : (∀ line ∈ s.db.orderLines.rows, line.id < s.uuids) →
    LinesKept s.db t.db ∧ ∀ line ∈ t.db.orderLines.rows, line.id < t.uuids

theorem grows_of_steps (steps : ReflTransGen Grows s t) : Grows s t := by
  induction steps with
  | refl => exact ⟨rfl, fun drawn => ⟨.refl _, drawn⟩⟩
  | tail _ last ih =>
    refine ⟨last.tables.trans ih.tables, ?_⟩
    intro drawn
    obtain ⟨earlier, between⟩ := ih.lines drawn
    obtain ⟨later, after⟩ := last.lines between
    exact ⟨earlier.trans later, after⟩

theorem grows_of_same (same : heldTables t.db = heldTables s.db) (uuids : s.uuids ≤ t.uuids) : Grows s t := by
  simp only [heldTables, boughtTables, Prod.mk.injEq] at same
  obtain ⟨purchases, keys, lines, decisions, bought⟩ := same
  refine ⟨by rw [purchases, keys, decisions, bought], ?_⟩
  intro drawn
  refine ⟨.of_same lines, ?_⟩
  rw [lines]
  exact fun line member => Nat.lt_of_lt_of_le (drawn line member) uuids

theorem grows_idles : Idles Grows := fun _ _ same advances => grows_of_same (congrArg heldTables same) advances.2

theorem grows_frame {α : Type} {body : Op α} (keeps : Keeps heldTables body) : Settles Grows body :=
  fun s => .single (grows_of_same (keeps s) (body.advances s).2)

theorem orderLine_id {id tenant order : Uuid} {line : Value} {row : OrderLine}
    (taken : orderLine id tenant order line = .ok row) : row.id = id := by
  unfold orderLine at taken
  split at taken
  · simp only [bind, Except.bind] at taken
    repeat' split at taken
    all_goals cases taken
    rfl
  · cases taken

theorem takeLine_grows {tenant order : Uuid} (line : Value) : Follows Grows (takeLine tenant order line) := by
  intro s result t ran
  simp only [takeLine, saveOrderLine, bind_eq_ok, freshUuid_eq_ok, ofExcept_eq_ok, write_eq_ok] at ran
  obtain ⟨_, _, ⟨rfl, rfl⟩, row, _, ⟨taken, rfl⟩, rfl⟩ := ran
  have named := orderLine_id taken
  refine .single ⟨rfl, ?_⟩
  intro drawn
  have vacant : s.db.orderLines.get? row.key = none := by
    cases found : s.db.orderLines.get? row.key with
    | none => rfl
    | some old =>
      have below := drawn old (Table.mem_of_get? found)
      have same : old.id = row.id := congrArg Prod.snd (Table.key_of_get? found)
      rw [same, named] at below
      exact absurd below (Nat.lt_irrefl _)
  constructor
  · exact fun key old found => ⟨old, get?_put_grown vacant key old found, rfl⟩
  · refine Table.forall_put (fun other old => Nat.lt_succ_of_lt (drawn other old)) ?_
    rw [named]
    exact Nat.lt_succ_self _

theorem ingestOrder_grows {channelId payloadRef : String} {idempotencyKey : Option String} :
    Settles Grows (ingestOrder env context channelId payloadRef idempotencyKey) := by
  refine (grows_frame (keeps_require _)).bind fun _ => (grows_frame (keeps_ofExcept _)).bind fun _ => ?_
  refine (grows_frame keeps_loadPayload).bind fun _ => (grows_frame (keeps_ofExcept _)).bind fun _ => ?_
  refine (grows_frame (keeps_ofExcept _)).bind fun _ => (grows_frame (keeps_ofExcept _)).bind fun _ => ?_
  refine (grows_frame (keeps_ensure _ _)).bind fun _ => (grows_frame keeps_now).bind fun _ => ?_
  apply Follows.transaction grows_idles
  apply (grows_frame keeps_freshUuid).follows.bind
  intro id
  apply (grows_frame (keeps_saveChannelOrder (fun _ _ => rfl) _)).follows.bind
  intro saved
  dsimp only
  split
  · exact (grows_frame (keeps_pure _)).follows
  · apply Follows.bind (Follows.each _ fun line => takeLine_grows line)
    intro _
    refine Follows.bind (grows_frame (keeps_auditBy fun _ _ => rfl)).follows fun _ => ?_
    exact Follows.bind (grows_frame (keeps_publish fun _ _ => rfl)).follows fun _ => (grows_frame (keeps_pure _)).follows

theorem ingestOrder_backing {channelId payloadRef : String} {idempotencyKey : Option String} (sound : Sound s)
    (backing : Backing s) :
    let t := ((ingestOrder env context channelId payloadRef idempotencyKey).run s).2
    Backing t ∧ Continues s t := by
  intro t
  have changes : ReflTransGen (Change env) s ((ingestOrder env context channelId payloadRef idempotencyKey).run s).2 :=
    ingestOrder_changes s
  have onward := (changes_lockstep sound.lockstep changes).2
  have uuids := ((ingestOrder env context channelId payloadRef idempotencyKey).advances s).2
  have settles : Settles Grows (ingestOrder env context channelId payloadRef idempotencyKey) := ingestOrder_grows
  have grows := grows_of_steps (settles s)
  have tables := grows.tables
  simp only [Prod.mk.injEq] at tables
  obtain ⟨purchases, keys, decisions, bought⟩ := tables
  obtain ⟨kept, drawn⟩ := grows.lines backing.drawn
  have continues : Continues s t := by
    rw [Continues, purchases]
    exact fun row member => ⟨row, member, .refl row⟩
  refine ⟨backing.moved onward uuids ?_ continues ?_ decisions bought kept drawn, continues⟩
  · rw [purchases]
    exact fun row member => ⟨row, member, .refl row, .inl rfl⟩
  · rw [keys]
    exact fun _ _ _ _ bound => .inl bound

/-! ## Routing -/

/-- The lines of a routing stay with their orders, and a decision on each goes to the end. -/
theorem routeLines_ok {tenant : Uuid} {selected : List Selection} (distinct : (selected.map (·.line.id)).Nodup)
    (own : ∀ selection ∈ selected, selection.line.tenantId = tenant ∧
      lineOrder tenant selection.line.id s.db = some selection.line.channelOrderId)
    (undecided : ∀ selection ∈ selected, s.db.routingDecisions.get? (tenant, selection.line.id) = none)
    (ran : (each selected (routeLine tenant)).run s = (.ok (), t)) :
    LinesKept s.db t.db ∧ (∀ line ∈ t.db.orderLines.rows, ∃ old ∈ s.db.orderLines.rows, line.id = old.id) ∧
      ∃ extra, t.db.routingDecisions.rows = s.db.routingDecisions.rows ++ extra ∧ (∀ row ∈ extra, row.tenantId = tenant) ∧
        extra.map (fun row => (row.supplierId, decisionContent row)) =
          selected.map fun selection => (selection.supplier, selection.content) := by
  induction selected generalizing s with
  | nil =>
    rw [(each_nil_eq_ok _ _ _ _).mp ran]
    exact ⟨.refl _, fun line member => ⟨line, member, rfl⟩, [], (List.append_nil _).symm,
      fun _ member => absurd member List.not_mem_nil, rfl⟩
  | cons selection rest ih =>
    obtain ⟨middle, first, others⟩ := (each_cons_eq_ok _ _ _ _ _ _).mp ran
    obtain ⟨absent, apart⟩ := List.nodup_cons.mp distinct
    obtain ⟨of_tenant, of_order⟩ := own selection List.mem_cons_self
    have free := undecided selection List.mem_cons_self
    simp only [routeLine, saveRoutingDecision, bind_eq_ok, freshUuid_eq_ok, query_eq_ok, ensure_eq_ok, write_eq_ok,
      updateOrderLine_eq_ok] at first
    obtain ⟨_, _, ⟨rfl, rfl⟩, _, _, ⟨_, _, ⟨rfl, rfl⟩, _, _, ⟨-, rfl⟩, rfl⟩, current, found, -, -, rfl⟩ := first
    let decision : RoutingDecision := {
      id := s.uuids
      tenantId := tenant
      orderLineId := selection.line.id
      supplierId := selection.supplier
      quantity := selection.line.quantity
      unitCostMinor := selection.cost
      reason := "lowest feasible DEMO quote" }
    let routed : OrderLine := { selection.line with routedStatus := "routed", version := selection.line.version + 1 }
    let middle : Session Store := { s with
      db := { s.db with
        routingDecisions := s.db.routingDecisions.put decision, orderLines := s.db.orderLines.put routed }
      uuids := s.uuids + 1 }
    have named : routed.key = (tenant, selection.line.id) := congrArg (·, selection.line.id) of_tenant
    have first_kept : LinesKept s.db middle.db := by
      refine .put (show middle.db.orderLines = s.db.orderLines.put routed from rfl) fun old old_found => ?_
      rw [named] at old_found
      rw [lineOrder, old_found] at of_order
      exact (Option.some.inj of_order).symm
    have appended : (s.db.routingDecisions.put decision).rows = s.db.routingDecisions.rows ++ [decision] :=
      Table.rows_put_of_fresh _ free
    have own_after : ∀ other ∈ rest, other.line.tenantId = tenant ∧
        lineOrder tenant other.line.id middle.db = some other.line.channelOrderId := by
      intro other later
      obtain ⟨other_tenant, other_order⟩ := own other (List.mem_cons_of_mem _ later)
      exact ⟨other_tenant, first_kept.lineOrder other_order⟩
    have undecided_after : ∀ other ∈ rest, middle.db.routingDecisions.get? (tenant, other.line.id) = none := by
      intro other later
      have different : decision.key ≠ (tenant, other.line.id) := by
        intro same
        exact absent (List.mem_map.mpr ⟨other, later, (congrArg Prod.snd same).symm⟩)
      exact (Table.get?_put_of_ne _ different).trans (undecided other (List.mem_cons_of_mem _ later))
    obtain ⟨kept, stored, extra, rows, tenants, contents⟩ := ih (s := middle) apart own_after undecided_after others
    refine ⟨first_kept.trans kept, ?_, decision :: extra, ?_, ?_, ?_⟩
    · intro line member
      obtain ⟨old, old_member, same⟩ := stored line member
      rcases (Table.mem_put _ _ _).mp old_member with rfl | ⟨before, -⟩
      · have current_named : current.id = selection.line.id := congrArg Prod.snd (Table.key_of_get? found)
        exact ⟨current, Table.mem_of_get? found, same.trans current_named.symm⟩
      · exact ⟨old, before, same⟩
    · rw [rows]
      change (s.db.routingDecisions.put decision).rows ++ extra = _
      rw [appended, List.append_assoc, List.singleton_append]
    · intro row member
      rcases List.mem_cons.mp member with rfl | later
      · rfl
      · exact tenants row later
    · rw [List.map_cons, List.map_cons, contents]
      rfl

/-- The keys of renewals. -/
def renewalKeys (db : Store) (key : Uuid × Uuid × String × Nat) : Option Uuid :=
  db.commandIdempotency.get? (key.1, .renewal key.2.1 key.2.2.1 key.2.2.2)

/-- A routing that returns has decided on its lines, and bound no key of a renewal. -/
theorem commitRouting_decisions {order : Uuid} {expectedOrderVersion : Int} {selected : List Selection} {now : Timestamp}
    {result : List SupplierPurchaseOrder} (distinct : (selected.map (·.line.id)).Nodup)
    (own : ∀ selection ∈ selected, selection.line.tenantId = context.tenantId ∧
      lineOrder context.tenantId selection.line.id s.db = some selection.line.channelOrderId)
    (undecided : ∀ selection ∈ selected, s.db.routingDecisions.get? (context.tenantId, selection.line.id) = none)
    (ran : (commitRouting env context order expectedOrderVersion selected now).run s = (.ok result, t)) :
    LinesKept s.db t.db ∧ (∀ line ∈ t.db.orderLines.rows, ∃ old ∈ s.db.orderLines.rows, line.id = old.id) ∧
      (∃ extra, t.db.routingDecisions.rows = s.db.routingDecisions.rows ++ extra ∧
        (∀ row ∈ extra, row.tenantId = context.tenantId) ∧ extra.map (fun row => (row.supplierId, decisionContent row)) =
          selected.map fun selection => (selection.supplier, selection.content)) ∧
      renewalKeys t.db = renewalKeys s.db := by
  simp only [commitRouting, transaction_eq_ok, bind_eq_ok, auditBy_eq_ok, pure_eq_ok] at ran
  obtain ⟨current, stepped, stepping, _, routed, routing, purchases, last, purchasing, _, _, rfl, rfl, rfl⟩ := ran
  obtain ⟨row, -, -, -, moved⟩ := advanceOrder_ok stepping
  have lines_before : stepped.db.orderLines = s.db.orderLines := by rw [moved]
  have decisions_before : stepped.db.routingDecisions = s.db.routingDecisions := by rw [moved]
  have renewals_before : renewalKeys stepped.db = renewalKeys s.db := by rw [moved]; rfl
  have purchased : Keeps (fun db => (db.orderLines, db.routingDecisions, renewalKeys db))
      (collect (suppliers selected) (purchaseFrom env context order current.version now selected)) := by
    refine Keeps.collect _ fun supplier => keeps_purchaseFrom ?_
    intro db commands approvals keys intents events box purchases lines others
    have renewals : renewalKeys { db with
        commands := commands, approvals := approvals, commandIdempotency := keys, approvalIntents := intents,
        auditEvents := events, outbox := box, purchaseOrders := purchases, purchaseLines := lines } = renewalKeys db := by
      funext key
      exact others _ (by simp)
    simp only [renewals]
  have after := purchased.of_run purchasing
  simp only [Prod.mk.injEq] at after
  obtain ⟨lines, decisions, renewals⟩ := after
  have routes : Keeps renewalKeys (each selected (routeLine context.tenantId)) :=
    Keeps.each _ fun selection => keeps_routeLine (fun _ _ _ => rfl) selection
  have unbound : renewalKeys routed.db = renewalKeys stepped.db := routes.of_run routing
  have own_stepped : ∀ selection ∈ selected, selection.line.tenantId = context.tenantId ∧
      lineOrder context.tenantId selection.line.id stepped.db = some selection.line.channelOrderId := by
    simp only [lineOrder, lines_before]
    exact own
  have undecided_stepped : ∀ selection ∈ selected,
      stepped.db.routingDecisions.get? (context.tenantId, selection.line.id) = none := by
    rw [decisions_before]
    exact undecided
  obtain ⟨kept, stored, extra, rows, tenants, contents⟩ := routeLines_ok distinct own_stepped undecided_stepped routing
  refine ⟨?_, ?_, ⟨extra, ?_, tenants, contents⟩, renewals.trans (unbound.trans renewals_before)⟩
  · exact (LinesKept.of_same lines_before).trans (kept.trans (.of_same lines))
  · change ∀ line ∈ last.db.orderLines.rows, _
    rw [lines, ← lines_before]
    exact stored
  · change last.db.routingDecisions.rows = _
    rw [decisions, ← decisions_before]
    exact rows

/-- A new purchase order is under the key of its order and its supplier. -/
theorem purchaseFrom_named {order : Uuid} {targetVersion : Nat} {now : Timestamp} {selected : List Selection}
    {supplier : String} {result : SupplierPurchaseOrder}
    (ran : (purchaseFrom env context order targetVersion now selected supplier).run s = (.ok result, t)) :
    result.idempotencyKey = ⟨result.channelOrderId, result.supplierId⟩ := by
  simp only [purchaseFrom, bind_eq_ok, freshUuid_eq_ok, pure_eq_ok] at ran
  obtain ⟨⟨command, approval⟩, asked, -, id, _, ⟨rfl, rfl⟩, ⟨saved, existed⟩, stored, saving, _, _, -, rfl, -⟩ := ran
  simp only [savePurchaseOrder, bind_eq_ok, query_eq_ok] at saving
  obtain ⟨_, _, ⟨rfl, rfl⟩, saving⟩ := saving
  split at saving
  · next other found =>
    simp only [bind_eq_ok, ensure_eq_ok, pure_eq_ok, Prod.mk.injEq] at saving
    obtain ⟨_, _, ⟨⟨about, from_supplier⟩, -⟩, ⟨rfl, -⟩, -⟩ := saving
    have same := List.find?_some found
    simp only [decide_eq_true_eq] at same
    rw [same.2, about, from_supplier]
  · simp only [bind_eq_ok, ensure_eq_ok, write_eq_ok, pure_eq_ok, Prod.mk.injEq] at saving
    obtain ⟨_, _, ⟨-, -⟩, _, _, -, ⟨rfl, -⟩, -⟩ := saving
    rfl

theorem purchases_named {order : Uuid} {targetVersion : Nat} {now : Timestamp} {selected : List Selection}
    {remaining : List String} {result : List SupplierPurchaseOrder}
    (ran : (collect remaining (purchaseFrom env context order targetVersion now selected)).run s = (.ok result, t)) :
    ∀ row ∈ result, row.idempotencyKey = ⟨row.channelOrderId, row.supplierId⟩ := by
  induction remaining generalizing s result with
  | nil =>
    obtain ⟨rfl, -⟩ := (collect_nil_eq_ok _ _ _ _).mp ran
    exact fun _ member => absurd member List.not_mem_nil
  | cons supplier rest ih =>
    obtain ⟨first, middle, others, saving, continuing, rfl⟩ := (collect_cons_eq_ok _ _ _ _ _ _).mp ran
    intro row member
    rcases List.mem_cons.mp member with rfl | later
    · exact purchaseFrom_named saving
    · exact ih continuing row later

theorem commitRouting_named {order : Uuid} {expectedOrderVersion : Int} {selected : List Selection} {now : Timestamp}
    {result : List SupplierPurchaseOrder}
    (ran : (commitRouting env context order expectedOrderVersion selected now).run s = (.ok result, t)) :
    ∀ row ∈ result, row.idempotencyKey = ⟨row.channelOrderId, row.supplierId⟩ := by
  simp only [commitRouting, transaction_eq_ok, bind_eq_ok, auditBy_eq_ok, pure_eq_ok] at ran
  obtain ⟨_, _, -, _, _, -, purchases, _, purchasing, _, _, -, rfl, -⟩ := ran
  exact purchases_named purchasing

/-- Two lists with one content have one content under each supplier. -/
theorem map_filter_of_pairs {α β γ δ : Type} [DecidableEq γ] {first : List α} {second : List β} {key : α → γ} {other : β → γ}
    {left : α → δ} {right : β → δ}
    (same : first.map (fun item => (key item, left item)) = second.map fun item => (other item, right item)) (wanted : γ) :
    (first.filter (key · = wanted)).map left = (second.filter (other · = wanted)).map right := by
  have cut := congrArg (fun pairs => (pairs.filter fun pair => pair.1 = wanted).map Prod.snd) same
  simp only [List.filter_map, List.map_map] at cut
  exact cut

/-! What a routing finds of its order, and what it adds to it. -/

theorem select_own {tenant order : Uuid} {options : Mapping} {db : Store} {selected : List Selection}
    (chosen : select options (orderLinesOf tenant order db) = .ok (.ok selected)) {selection : Selection}
    (member : selection ∈ selected) : selection.line ∈ orderLinesOf tenant order db ∧ selection.line.tenantId = tenant ∧
      lineOrder tenant selection.line.id db = some order ∧ selection.line.channelOrderId = order := by
  have listed : selection.line ∈ orderLinesOf tenant order db := by
    rw [← select_lines chosen]
    exact List.mem_map_of_mem member
  obtain ⟨-, about⟩ := List.mem_filter.mp listed
  obtain ⟨of_tenant, of_order⟩ := of_decide_eq_true about
  exact ⟨listed, of_tenant, lineOrder_eq_some.mpr (List.mem_map_of_mem listed), of_order⟩

theorem select_distinct {tenant order : Uuid} {options : Mapping} {db : Store} {selected : List Selection}
    (chosen : select options (orderLinesOf tenant order db) = .ok (.ok selected)) :
    (selected.map (·.line.id)).Nodup := by
  have ids := orderLinesOf_nodup tenant order db
  rw [← select_lines chosen, List.map_map] at ids
  exact ids

/-- A line with a decision is of an order with purchase orders. -/
theorem Backing.undecided (backing : Backing s) {tenant order line : Uuid} (unplaced : ¬ Placed s.db tenant order)
    (known : lineOrder tenant line s.db = some order) : s.db.routingDecisions.get? (tenant, line) = none := by
  cases found : s.db.routingDecisions.get? (tenant, line) with
  | none => rfl
  | some decision =>
    obtain ⟨about, known_about, placed⟩ := backing.decided decision (Table.mem_of_get? found)
    have key : decision.key = (tenant, line) := Table.key_of_get? found
    have of_tenant : decision.tenantId = tenant := congrArg Prod.fst key
    have of_line : decision.orderLineId = line := congrArg Prod.snd key
    rw [of_tenant, of_line, known] at known_about
    rw [of_tenant, ← Option.some.inj known_about] at placed
    exact absurd placed unplaced

/-- Decisions on the lines of one order are added behind those of before. -/
structure DecidesOn (tenant order : Uuid) (extra : List RoutingDecision) (before after : Store) : Prop where
  kept : LinesKept before after
  rows : after.routingDecisions.rows = before.routingDecisions.rows ++ extra
  own : ∀ row ∈ extra, row.tenantId = tenant
  about : ∀ row ∈ extra, lineOrder tenant row.orderLineId after = some order

theorem DecidesOn.elsewhere {tenant order about_tenant about : Uuid} {extra : List RoutingDecision} {after : Store}
    (decides : DecidesOn tenant order extra s.db after) (backing : Backing s) (unplaced : ¬ Placed s.db tenant order)
    (placed : Placed s.db about_tenant about) :
    decisionsOf about_tenant about after = decisionsOf about_tenant about s.db := by
  have foreign : extra.filter (fun row => row.tenantId = about_tenant ∧
      lineOrder about_tenant row.orderLineId after = some about) = [] := by
    apply List.filter_eq_nil_iff.mpr
    intro row member same
    obtain ⟨rfl, known⟩ := of_decide_eq_true same
    rw [decides.own row member, decides.about row member] at known
    rw [decides.own row member, ← Option.some.inj known] at placed
    exact unplaced placed
  rw [decisionsOf, decides.rows, List.filter_append, foreign, List.append_nil, decisionsOf]
  apply List.filter_congr
  intro decision member
  apply decide_eq_decide.mpr
  apply and_congr_right
  rintro rfl
  obtain ⟨other, known, -⟩ := backing.decided decision member
  rw [decides.kept.lineOrder known, known]

theorem DecidesOn.here {tenant order : Uuid} {extra : List RoutingDecision} {after : Store}
    (decides : DecidesOn tenant order extra s.db after) (backing : Backing s) (unplaced : ¬ Placed s.db tenant order) :
    decisionsOf tenant order after = extra := by
  have old : s.db.routingDecisions.rows.filter (fun row => row.tenantId = tenant ∧
      lineOrder tenant row.orderLineId after = some order) = [] := by
    apply List.filter_eq_nil_iff.mpr
    intro row member same
    obtain ⟨of_tenant, known⟩ := of_decide_eq_true same
    obtain ⟨about, before, placed⟩ := backing.decided row member
    rw [of_tenant] at before placed
    rw [decides.kept.lineOrder before] at known
    rw [Option.some.inj known] at placed
    exact unplaced placed
  rw [decisionsOf, decides.rows, List.filter_append, old, List.nil_append]
  exact List.filter_eq_self.mpr fun row member => decide_eq_true ⟨decides.own row member, decides.about row member⟩

/-- The keys of purchase orders of an order that had none are new. -/
theorem Backing.unique_append (backing : Backing s) {tenant order : Uuid} {result : List SupplierPurchaseOrder}
    (unplaced : ∀ row ∈ s.db.purchaseOrders.rows, row.tenantId = tenant → row.channelOrderId ≠ order)
    (named : ∀ row ∈ result, row.idempotencyKey = ⟨row.channelOrderId, row.supplierId⟩)
    (own : ∀ row ∈ result, row.tenantId = tenant ∧ row.channelOrderId = order)
    (distinct : (result.map (·.supplierId)).Nodup) :
    ∀ first ∈ s.db.purchaseOrders.rows ++ result, ∀ second ∈ s.db.purchaseOrders.rows ++ result,
      first.tenantId = second.tenantId → first.idempotencyKey = second.idempotencyKey → first = second := by
  have apart : ∀ old ∈ s.db.purchaseOrders.rows, ∀ new ∈ result, old.tenantId = new.tenantId →
      old.idempotencyKey ≠ new.idempotencyKey := by
    intro old old_member new new_member of_tenant same
    rw [backing.named old old_member, named new new_member, (own new new_member).2] at same
    exact unplaced old old_member (of_tenant.trans (own new new_member).1) (congrArg PurchaseKey.order same)
  intro first first_member second second_member of_tenant same
  rcases List.mem_append.mp first_member with first_old | first_new
  · rcases List.mem_append.mp second_member with second_old | second_new
    · exact backing.unique first first_old second second_old of_tenant same
    · exact absurd same (apart first first_old second second_new of_tenant)
  · rcases List.mem_append.mp second_member with second_old | second_new
    · exact absurd same.symm (apart second second_old first first_new of_tenant.symm)
    · rw [named first first_new, named second second_new] at same
      exact List.inj_on_of_nodup_map distinct first_new second_new (congrArg PurchaseKey.supplier same)

theorem commitRouting_backing {order : Uuid} {expectedOrderVersion : Int} {selected : List Selection} {now : Timestamp}
    {result : List SupplierPurchaseOrder} (drawn : Drawn s) (bound : Bound s.db) (backing : Backing s) {options : Mapping}
    (unplaced : ∀ row ∈ s.db.purchaseOrders.rows, row.tenantId = context.tenantId → row.channelOrderId ≠ order)
    (chosen : select options (orderLinesOf context.tenantId order s.db) = .ok (.ok selected))
    (ran : (commitRouting env context order expectedOrderVersion selected now).run s = (.ok result, t)) :
    Backing t ∧ Continues s t := by
  obtain ⟨current, found, -, orders, purchased⟩ := commitRouting_ok drawn (bound.free unplaced) unplaced ran
  have routed := routed_of_purchased purchased chosen (orderLinesOf_nodup _ _ _)
  have named := commitRouting_named ran
  have grown := purchased.grown
  have unplaced_order : ¬ Placed s.db context.tenantId order := by
    rintro ⟨row, member, tenant, about⟩
    exact unplaced row member tenant about
  have own : ∀ selection ∈ selected, selection.line.tenantId = context.tenantId ∧
      lineOrder context.tenantId selection.line.id s.db = some selection.line.channelOrderId := by
    intro selection member
    obtain ⟨-, tenant, here, of_order⟩ := select_own chosen member
    exact ⟨tenant, of_order ▸ here⟩
  obtain ⟨kept, stored, ⟨extra, decisions, tenants, contents⟩, renewals⟩ := commitRouting_decisions (select_distinct chosen)
    own (fun selection member => backing.undecided unplaced_order (select_own chosen member).2.2.1) ran
  have extra_line : ∀ row ∈ extra, ∃ selection ∈ selected, selection.line.id = row.orderLineId := by
    intro row member
    have pair := List.mem_map_of_mem (f := fun row : RoutingDecision => (row.supplierId, decisionContent row)) member
    rw [contents] at pair
    obtain ⟨selection, selected_member, same⟩ := List.mem_map.mp pair
    exact ⟨selection, selected_member, congrArg (fun pair => pair.2.1) same⟩
  have extra_order : ∀ row ∈ extra, lineOrder context.tenantId row.orderLineId t.db = some order := by
    intro row member
    obtain ⟨selection, selected_member, line⟩ := extra_line row member
    rw [← line]
    exact kept.lineOrder (select_own chosen selected_member).2.2.1
  have decides : DecidesOn context.tenantId order extra s.db t.db := ⟨kept, decisions, tenants, extra_order⟩
  refine ⟨⟨?_, ?_, ?_, ?_, ?_, ?_, ?_⟩, ?_⟩
  · rw [purchased.rows]
    exact List.forall_mem_append.mpr ⟨backing.named, named⟩
  · rw [purchased.rows]
    exact backing.unique_append unplaced named
      (fun row member => ⟨(purchased.bought row member).of_tenant, (purchased.bought row member).of_order⟩) routed.distinct
  · intro tenant about supplier version bound
    have before : s.db.commandIdempotency.get? (tenant, .renewal about supplier version) ≠ none := by
      rw [← show renewalKeys t.db (tenant, about, supplier, version) = s.db.commandIdempotency.get? _ from
        congrFun renewals (tenant, about, supplier, version)]
      exact bound
    obtain ⟨row, member, own⟩ := backing.renewed tenant about supplier version before
    refine ⟨row, ?_, own⟩
    rw [purchased.rows]
    exact List.mem_append_left _ member
  · rw [purchased.rows]
    intro row member
    rcases List.mem_append.mp member with old | new
    · obtain ⟨decided, id, command, linked, command_found, payload⟩ := backing.backed row old
      have lines := grown.lines row.tenantId row.id (backing.issued row old)
      refine ⟨?_, id, command, linked, grown.commands _ _ command_found, ?_⟩
      · rw [decides.elsewhere backing unplaced_order ⟨row, old, rfl, rfl⟩, lines]
        exact decided
      · rw [purchaseMaterial, lines]
        exact payload
    · have bought := purchased.bought row new
      obtain ⟨id, command, linked, command_found, payload⟩ := routed.command row new
      refine ⟨?_, id, command, linked, ?_, ?_⟩
      · rw [bought.of_tenant, bought.of_order, decides.here backing unplaced_order, bought.lines]
        exact map_filter_of_pairs contents row.supplierId
      · rw [bought.of_tenant]
        exact command_found
      · rw [bought.of_tenant, bought.of_order]
        exact payload
  · rw [decisions]
    intro decision member
    rcases List.mem_append.mp member with old | new
    · obtain ⟨about, known, row, row_member, own⟩ := backing.decided decision old
      refine ⟨about, kept.lineOrder known, row, ?_, own⟩
      rw [purchased.rows]
      exact List.mem_append_left _ row_member
    · rw [tenants decision new]
      obtain ⟨selection, selected_member, -⟩ := extra_line decision new
      obtain ⟨row, row_member, -⟩ := routed.bought selection.line (select_own chosen selected_member).1
      have bought := purchased.bought row row_member
      refine ⟨order, extra_order decision new, row, ?_, bought.of_tenant, bought.of_order⟩
      rw [purchased.rows]
      exact List.mem_append_right _ row_member
  · intro line member
    obtain ⟨old, old_member, same⟩ := stored line member
    rw [same]
    exact Nat.lt_of_lt_of_le (backing.drawn old old_member) grown.uuids
  · rw [purchased.rows]
    intro row member
    rcases List.mem_append.mp member with old | new
    · exact Nat.lt_of_lt_of_le (backing.issued row old) grown.uuids
    · exact (purchased.bought row new).drawn
  · rw [Continues, purchased.rows]
    exact fun row member => ⟨row, List.mem_append_left _ member, .refl row⟩

theorem proposeRouting_backing {order : Uuid} {supplierOptions : Mapping} {expectedOrderVersion : Int} (sound : Sound s)
    (backing : Backing s) :
    let t := ((proposeRouting env context order supplierOptions expectedOrderVersion).run s).2
    Backing t ∧ Continues s t := by
  have changes : ReflTransGen (Change env) s ((proposeRouting env context order supplierOptions expectedOrderVersion).run s).2 :=
    proposeRouting_settles change_allows s
  have onward := (changes_lockstep sound.lockstep changes).2
  have uuids := ((proposeRouting env context order supplierOptions expectedOrderVersion).advances s).2
  rcases ran : (proposeRouting env context order supplierOptions expectedOrderVersion).run s with ⟨why | result, t⟩
  · rw [ran] at onward uuids
    have same : t.db = s.db := proposeRouting_unwinds s why t ran
    have held : Held s.db t.db := .of_same (congrArg heldTables same)
    exact ⟨backing.held onward held uuids, held.kept⟩
  · rw [ran] at onward uuids
    rcases proposeRouting_ok ran with ⟨-, rfl, -⟩ | ⟨unplaced, selected, chosen, routing⟩
    · exact ⟨backing, .refl _⟩
    · cases selected with
      | error sku =>
        obtain ⟨-, current, event, -, written⟩ := failRouting_ok routing
        have held : Held s.db t.db := .of_same (by rw [written]; rfl)
        exact ⟨backing.held onward held uuids, held.kept⟩
      | ok selected =>
        simp only [routeSelected, bind_eq_ok, now_eq_ok] at routing
        obtain ⟨now, read, ⟨-, rfl⟩, committing⟩ := routing
        have drawn : Drawn { s with reads := s.reads + 1 } := sound.drawn.later rfl rfl (Nat.le_refl _)
        have later : Backing { s with reads := s.reads + 1 } := backing.held (.refl _) (.refl _) (Nat.le_refl _)
        exact commitRouting_backing (s := { s with reads := s.reads + 1 }) drawn sound.bound later unplaced chosen committing

end AiStore.Purchasing
