import AiStore.Execution.Outcome
import Mathlib.Data.List.Dedup
import AiStore.Controls.Stops
import AiStore.Purchasing.Decisions

/-! What a cancelled purchase order leaves of its command. -/

set_option autoImplicit false

namespace AiStore.Purchasing

open Library (Session Table final)
open Library.Txn Failure Repository Service Approvals
open Relation (ReflTransGen)

variable {env : Env} {s t u : Session Store} {context : TenantContext}

/-! ## The invariant -/

/-- What links purchase orders and commands. -/
def linkedTables (db : Store) := (db.commands, db.commandIdempotency, db.purchaseOrders)

/-- Purchase orders have keys and commands of their own, the keys of their approvals are theirs, and one that is cancelled
or awaits its approval has no approved command. A key may still wait for its purchase order. -/
structure OrderlyBut (waiting : Uuid × CommandKey → Prop) (s : Session Store) : Prop where
  linked : ∀ row ∈ s.db.purchaseOrders.rows, ∀ id, row.approvalCommandId = some id → id < s.uuids
  single : ∀ first ∈ s.db.purchaseOrders.rows, ∀ second ∈ s.db.purchaseOrders.rows, first.tenantId = second.tenantId →
    ∀ id, first.approvalCommandId = some id → second.approvalCommandId = some id → first = second
  unique : ∀ first ∈ s.db.purchaseOrders.rows, ∀ second ∈ s.db.purchaseOrders.rows, first.tenantId = second.tenantId →
    first.idempotencyKey = second.idempotencyKey → first = second
  routed : ∀ tenant order supplier id, s.db.commandIdempotency.get? (tenant, .routing order supplier) = some id →
    ¬ waiting (tenant, .routing order supplier) →
    ∃ row ∈ s.db.purchaseOrders.rows, row.tenantId = tenant ∧ row.channelOrderId = order
  renewed : ∀ tenant order supplier version id,
    s.db.commandIdempotency.get? (tenant, .renewal order supplier version) = some id →
    ¬ waiting (tenant, .renewal order supplier version) →
    ∃ row ∈ s.db.purchaseOrders.rows, row.tenantId = tenant ∧ row.idempotencyKey = ⟨order, supplier⟩ ∧ version ≤ row.version
  spent : ∀ row ∈ s.db.purchaseOrders.rows, ∀ id command, row.approvalCommandId = some id →
    s.db.commands.get? (row.tenantId, id) = some command → command.state = .approved →
    row.status ≠ .cancelled ∧ row.status ≠ .approvalPending

abbrev Orderly (s : Session Store) : Prop := OrderlyBut (fun _ => False) s

theorem orderly_newSession : Orderly Execution.newSession := by
  refine ⟨?_, ?_, ?_, ?_, ?_, ?_⟩
  · exact fun _ member => absurd member List.not_mem_nil
  · exact fun _ member => absurd member List.not_mem_nil
  · exact fun _ member => absurd member List.not_mem_nil
  · exact fun _ _ _ _ bound => by cases bound
  · exact fun _ _ _ _ _ bound => by cases bound
  · exact fun _ member => absurd member List.not_mem_nil

theorem OrderlyBut.of_same {waiting : Uuid × CommandKey → Prop} (orderly : OrderlyBut waiting s)
    (same : linkedTables t.db = linkedTables s.db) (uuids : s.uuids ≤ t.uuids) : OrderlyBut waiting t := by
  simp only [linkedTables, Prod.mk.injEq] at same
  obtain ⟨commands, keys, purchases⟩ := same
  obtain ⟨linked, single, unique, routed, renewed, spent⟩ := orderly
  constructor
  · rw [purchases]
    exact fun row member id bound => Nat.lt_of_lt_of_le (linked row member id bound) uuids
  · rw [purchases]
    exact single
  · rw [purchases]
    exact unique
  · rw [keys, purchases]
    exact routed
  · rw [keys, purchases]
    exact renewed
  · rw [commands, purchases]
    exact spent

/-- A command is saved; if it is approved, no purchase order that is cancelled or awaits its approval is linked to it. -/
theorem Orderly.commandMoved (orderly : Orderly s) (moved : Command) (settled : moved.state = .approved →
      ∀ row ∈ s.db.purchaseOrders.rows, row.tenantId = moved.tenantId → row.approvalCommandId = some moved.id →
        row.status ≠ .cancelled ∧ row.status ≠ .approvalPending)
    (commands : t.db.commands = s.db.commands.put moved) (keys : t.db.commandIdempotency = s.db.commandIdempotency)
    (purchases : t.db.purchaseOrders = s.db.purchaseOrders) (uuids : s.uuids ≤ t.uuids) : Orderly t := by
  obtain ⟨linked, single, unique, routed, renewed, spent⟩ := orderly
  constructor
  · rw [purchases]
    exact fun row member id bound => Nat.lt_of_lt_of_le (linked row member id bound) uuids
  · rw [purchases]
    exact single
  · rw [purchases]
    exact unique
  · rw [keys, purchases]
    exact routed
  · rw [keys, purchases]
    exact renewed
  · rw [commands, purchases]
    intro row member id other bound other_found approved
    rw [Table.get?_put] at other_found
    split at other_found
    · next same =>
      cases other_found
      have tenant : moved.tenantId = row.tenantId := congrArg Prod.fst same
      have named : moved.id = id := congrArg Prod.snd same
      exact settled approved row member tenant.symm (named ▸ bound)
    · exact spent row member id other bound other_found approved

/-- A purchase order is saved, new or in the place of an earlier version. -/
theorem OrderlyBut.put {waiting : Uuid × CommandKey → Prop} (orderly : OrderlyBut waiting s) (row : SupplierPurchaseOrder)
    (commands : t.db.commands = s.db.commands) (keys : t.db.commandIdempotency = s.db.commandIdempotency)
    (purchases : t.db.purchaseOrders = s.db.purchaseOrders.put row) (uuids : s.uuids ≤ t.uuids)
    (apart : ∀ other ∈ s.db.purchaseOrders.rows, other.key ≠ row.key → other.tenantId = row.tenantId →
      other.idempotencyKey ≠ row.idempotencyKey ∧
        ∀ id, row.approvalCommandId = some id → other.approvalCommandId ≠ some id)
    (drawn : ∀ id, row.approvalCommandId = some id → id < t.uuids)
    (older : ∀ old, s.db.purchaseOrders.get? row.key = some old → old.channelOrderId = row.channelOrderId ∧
      old.idempotencyKey = row.idempotencyKey ∧ old.version ≤ row.version)
    (spent : ∀ id command, row.approvalCommandId = some id → s.db.commands.get? (row.tenantId, id) = some command →
      command.state = .approved → row.status ≠ .cancelled ∧ row.status ≠ .approvalPending)
    (routed : ∀ tenant order supplier, waiting (tenant, .routing order supplier) →
      row.tenantId = tenant ∧ row.channelOrderId = order)
    (renewed : ∀ tenant order supplier version, waiting (tenant, .renewal order supplier version) →
      row.tenantId = tenant ∧ row.idempotencyKey = ⟨order, supplier⟩ ∧ version ≤ row.version) : Orderly t := by
  have tenant_of_key : ∀ other : SupplierPurchaseOrder, other.key = row.key → other.tenantId = row.tenantId :=
    fun other same => congrArg Prod.fst same
  have saved : row ∈ t.db.purchaseOrders.rows := by
    rw [purchases, Table.mem_put]
    exact .inl rfl
  constructor
  · rw [purchases]
    intro other member id bound
    rcases (Table.mem_put _ _ _).mp member with rfl | ⟨old, -⟩
    · exact drawn id bound
    · exact Nat.lt_of_lt_of_le (orderly.linked other old id bound) uuids
  · rw [purchases]
    intro first first_member second second_member tenant id first_bound second_bound
    rcases (Table.mem_put _ _ _).mp first_member with rfl | ⟨first_old, first_apart⟩
    · rcases (Table.mem_put _ _ _).mp second_member with rfl | ⟨second_old, second_apart⟩
      · rfl
      · exact absurd second_bound ((apart second second_old second_apart tenant.symm).2 id first_bound)
    · rcases (Table.mem_put _ _ _).mp second_member with rfl | ⟨second_old, second_apart⟩
      · exact absurd first_bound ((apart first first_old first_apart tenant).2 id second_bound)
      · exact orderly.single first first_old second second_old tenant id first_bound second_bound
  · rw [purchases]
    refine Library.distinct_added_within row (fun other member => ?_) orderly.unique
    refine ((Table.mem_put _ _ _).mp member).imp_right fun held => ⟨held.1, fun tenant => ?_⟩
    exact (apart other held.1 held.2 tenant).1
  · rw [keys]
    intro tenant order supplier id bound _
    by_cases pending : waiting (tenant, .routing order supplier)
    · exact ⟨row, saved, routed tenant order supplier pending⟩
    · obtain ⟨old, member, old_tenant, about⟩ := orderly.routed tenant order supplier id bound pending
      by_cases here : old.key = row.key
      · have same := (older old (here ▸ Table.get?_key _ member)).1
        exact ⟨row, saved, (tenant_of_key old here).symm.trans old_tenant, same.symm.trans about⟩
      · refine ⟨old, ?_, old_tenant, about⟩
        rw [purchases, Table.mem_put]
        exact .inr ⟨member, here⟩
  · rw [keys]
    intro tenant order supplier version id bound _
    by_cases pending : waiting (tenant, .renewal order supplier version)
    · exact ⟨row, saved, renewed tenant order supplier version pending⟩
    · obtain ⟨old, member, old_tenant, about, reached⟩ := orderly.renewed tenant order supplier version id bound pending
      by_cases here : old.key = row.key
      · obtain ⟨-, same, grown⟩ := older old (here ▸ Table.get?_key _ member)
        exact ⟨row, saved, (tenant_of_key old here).symm.trans old_tenant, same.symm.trans about, reached.trans grown⟩
      · refine ⟨old, ?_, old_tenant, about, reached⟩
        rw [purchases, Table.mem_put]
        exact .inr ⟨member, here⟩
  · rw [commands, purchases]
    intro other member id command bound found approved
    rcases (Table.mem_put _ _ _).mp member with rfl | ⟨old, -⟩
    · exact spent id command bound found approved
    · exact orderly.spent other old id command bound found approved

/-- A purchase order moves on with its command and its key. -/
theorem Orderly.advanced (orderly : Orderly s) {old : SupplierPurchaseOrder} (row : SupplierPurchaseOrder)
    (found : s.db.purchaseOrders.get? row.key = some old)
    (kept : row.approvalCommandId = old.approvalCommandId ∧ row.idempotencyKey = old.idempotencyKey ∧
      row.channelOrderId = old.channelOrderId ∧ old.version ≤ row.version)
    (commands : t.db.commands = s.db.commands) (keys : t.db.commandIdempotency = s.db.commandIdempotency)
    (purchases : t.db.purchaseOrders = s.db.purchaseOrders.put row) (uuids : s.uuids ≤ t.uuids)
    (spent : ∀ id command, row.approvalCommandId = some id → s.db.commands.get? (row.tenantId, id) = some command →
      command.state = .approved → row.status ≠ .cancelled ∧ row.status ≠ .approvalPending) : Orderly t := by
  obtain ⟨same_command, same_key, same_order, version⟩ := kept
  have member := Table.mem_of_get? found
  have named := Table.key_of_get? found
  have tenant : old.tenantId = row.tenantId := congrArg Prod.fst named
  refine orderly.put row commands keys purchases uuids ?_ ?_ ?_ spent (fun _ _ _ none => none.elim)
    (fun _ _ _ _ none => none.elim)
  · intro other other_member apart other_tenant
    have distinct : other ≠ old := fun same => apart (same ▸ named)
    constructor
    · intro same
      exact distinct (orderly.unique other other_member old member (other_tenant.trans tenant.symm) (same.trans same_key))
    · intro id bound other_bound
      exact distinct (orderly.single other other_member old member (other_tenant.trans tenant.symm) id other_bound
        (same_command ▸ bound))
  · intro id bound
    exact Nat.lt_of_lt_of_le (orderly.linked old member id (same_command ▸ bound)) uuids
  · intro other other_found
    cases Option.some.inj (found.symm.trans other_found)
    exact ⟨same_order.symm, same_key.symm, version⟩

/-! ## Operations -/

abbrev Orders (s t : Session Store) : Prop := Orderly s → Orderly t

theorem orders_of_steps (steps : ReflTransGen Orders s t) (orderly : Orderly s) : Orderly t := by
  induction steps with
  | refl => exact orderly
  | tail _ last ih => exact last ih

theorem orders_idles : Idles Orders :=
  fun _ _ same advances orderly => orderly.of_same (congrArg linkedTables same) advances.2

theorem orders_frame {α : Type} {body : Op α} (keeps : Keeps linkedTables body) : Settles Orders body :=
  fun s => .single fun orderly => orderly.of_same (keeps s) (body.advances s).2

/-- What a first request for a purchase approval leaves. -/
structure Requested (context : TenantContext) (s : Session Store) (idempotencyKey : CommandKey) (command : Command)
    (t : Session Store) : Prop where
  orderly : OrderlyBut (· = (context.tenantId, idempotencyKey)) t
  id_eq : command.id = s.uuids
  uuids : s.uuids < t.uuids
  state : command.state ≠ .approved
  found : t.db.commands.get? (context.tenantId, command.id) = some command
  purchases : t.db.purchaseOrders = s.db.purchaseOrders
  keys : ∀ other, other ≠ (context.tenantId, idempotencyKey) →
    t.db.commandIdempotency.get? other = s.db.commandIdempotency.get? other

section

variable {targetRef : TargetRef} {payload : Mapping} {idempotencyKey : CommandKey} {policyVersion targetVersion : Int}
  {command : Command} {approval : Approval}

theorem Orderly.created (orderly : Orderly s)
    (created : Created env context s .purchase targetRef payload idempotencyKey [] command approval t) :
    Requested context s idempotencyKey command t := by
  have named : command.id = s.uuids := congrArg Command.id created.command_eq
  have state : command.state = .awaitingApproval := congrArg Command.state created.command_eq
  have tenant : command.tenantId = context.tenantId := congrArg Command.tenantId created.command_eq
  have key : command.key = (context.tenantId, command.id) := congrArg (·, command.id) tenant
  obtain ⟨_, rfl⟩ := created.written
  obtain ⟨linked, single, unique, routed, renewed, spent⟩ := orderly
  have others : ∀ other, other ≠ (context.tenantId, idempotencyKey) →
      (s.db.commandIdempotency.set (context.tenantId, idempotencyKey) command.id).get? other =
        s.db.commandIdempotency.get? other :=
    fun other apart => Library.Dict.get?_set_of_ne _ (Ne.symm apart) _
  refine ⟨⟨?_, single, unique, ?_, ?_, ?_⟩, named, ?_, ?_, ?_, rfl, others⟩
  · exact fun row member id bound => Nat.lt_of_lt_of_le (linked row member id bound) (Nat.le_add_right _ 5)
  · intro tenant order supplier id bound free
    exact routed tenant order supplier id ((others _ free).symm.trans bound) fun none => none
  · intro tenant order supplier version id bound free
    exact renewed tenant order supplier version id ((others _ free).symm.trans bound) fun none => none
  · intro row member id other bound found approved
    rcases Table.get?_put s.db.commands command (row.tenantId, id) ▸ found with found
    split at found
    · cases found
      rw [state] at approved
      cases approved
    · exact spent row member id other bound found approved
  · exact Nat.lt_add_of_pos_right (by decide)
  · rw [state]
    simp
  · rw [← key]
    exact Table.get?_put_self _ _

/-- A key that is free gets a new command. -/
theorem Orderly.requested (orderly : Orderly s)
    (free : s.db.commandIdempotency.get? (context.tenantId, idempotencyKey) = none)
    (ran : (requestApproval env context .purchase targetRef payload idempotencyKey policyVersion targetVersion).run s =
      (.ok (command, approval), t)) : Requested context s idempotencyKey command t := by
  obtain ⟨-, -, middle, creating, outcome⟩ := requestApproval_ok ran
  obtain ⟨-, created | replayed⟩ := createCommand_ok creating
  · have requested := orderly.created created
    rcases outcome with attached | ⟨_, -, -, -, rfl⟩
    · obtain ⟨_, -, -, -, -, rfl⟩ := attached.written
      exact ⟨requested.orderly.of_same rfl (Nat.le_refl _), requested.id_eq, requested.uuids, requested.state,
        requested.found, requested.purchases, requested.keys⟩
    · exact requested
  · cases free.symm.trans replayed.key_bound

end

theorem expireDue_orders {tenant : Uuid} {now : Timestamp} {due : Approval} {result : Option Uuid}
    (ran : (expireDue env tenant now due).run s = (.ok result, t)) : Orders s t := by
  intro orderly
  rcases expireDue_ok ran with rfl | ⟨command, approval, -, -, -, -, -, ranOut⟩
  · exact orderly
  · obtain ⟨_, rfl⟩ := ranOut.written
    exact orderly.commandMoved { command with state := .expired } (by simp) rfl rfl rfl (Nat.le_add_right _ 3)

/-- A decision moves the command and, in time, its purchase order with it. -/
theorem approveWithin_orders {purchaseId : Uuid} {approve expired : Bool} {reason : String} {result : SupplierPurchaseOrder}
    (ran : (approveWithin env context purchaseId approve reason).run s = (.ok (result, expired), t)) : Orders s t := by
  intro orderly
  simp only [approveWithin, bind_eq_ok, require_eq_ok] at ran
  obtain ⟨_, start, ⟨-, starting⟩, ⟨purchase, command⟩, checked, verifying, ⟨approval, late⟩, middle, deciding, ran⟩ := ran
  rw [starting] at verifying
  obtain ⟨same, purchase_found, status, linked, command_found, awaiting, -⟩ := verifyPo_ok verifying
  rw [same] at deciding
  have member := Table.mem_of_get? purchase_found
  have named : purchase.key = (context.tenantId, purchaseId) := Table.key_of_get? purchase_found
  have tenant : purchase.tenantId = context.tenantId := congrArg Prod.fst named
  have command_tenant : command.tenantId = context.tenantId := congrArg Prod.fst (Table.key_of_get? command_found)
  obtain ⟨-, -, decided, _, undecided, ⟨rfl, -, ranOut⟩ | ⟨rfl, -, settled⟩⟩ := decideWithin_ok deciding
  · obtain ⟨_, rfl⟩ := ranOut.written
    obtain ⟨-, rfl⟩ := (pure_eq_ok _ _ _ _).mp ran
    exact orderly.commandMoved { decided with state := .expired } (by simp) rfl rfl rfl (Nat.le_add_right _ 3)
  · cases Option.some.inj (command_found.symm.trans undecided.command_found)
    obtain ⟨_, rfl⟩ := settled.written
    simp only [Bool.false_eq_true, if_false, projectDecision, saveInTurn, bind_eq_ok, updatePurchaseOrder_eq_ok, now_eq_ok,
      auditBy_eq_ok, publish_eq_ok, pure_eq_ok] at ran
    obtain ⟨_, _, ⟨_, _, ⟨_, -, -, -, rfl⟩, _, _, ⟨-, rfl⟩, _, _, rfl, _, _, ⟨-, rfl⟩, -, rfl⟩, -, rfl⟩ := ran
    -- the purchase order first, the command after it
    let row := decidedPurchase purchase approve
    let between : Session Store := { s with db := { s.db with purchaseOrders := s.db.purchaseOrders.put row } }
    have first : Orderly between := by
      have current : s.db.purchaseOrders.get? row.key = some purchase :=
        (congrArg s.db.purchaseOrders.get? named).trans purchase_found
      refine orderly.advanced row current ⟨rfl, rfl, rfl, Nat.le_succ _⟩ rfl rfl rfl (Nat.le_refl _) ?_
      intro id other bound found approved
      have same : id = command.id := Option.some.inj (bound.symm.trans linked)
      have here : row.tenantId = context.tenantId := tenant
      rw [same, here, command_found] at found
      cases found
      cases awaiting.symm.trans approved
    have second : Orderly { between with db := { between.db with
        commands := between.db.commands.put (decidedCommand command approve) } } := by
      refine first.commandMoved (decidedCommand command approve) ?_ rfl rfl rfl (Nat.le_refl _)
      intro approved other other_member other_tenant bound
      have saved : row ∈ between.db.purchaseOrders.rows := (Table.mem_put _ _ _).mpr (.inl rfl)
      have same : other = row := first.single other other_member row saved
        (other_tenant.trans (command_tenant.trans tenant.symm)) command.id bound linked
      subst same
      cases approve with
      | true => exact ⟨by simp [row, decidedPurchase], by simp [row, decidedPurchase]⟩
      | false => cases approved
    exact second.of_same rfl (Nat.le_add_right _ 6)

theorem approveDemoPo_orders {purchaseId : Uuid} {approve : Bool} {reason : String} :
    Settles Orders (approveDemoPo env context purchaseId approve reason) := by
  refine (orders_frame (keeps_require _)).bind fun _ => (orders_frame (keeps_ensure _ _)).bind fun _ => ?_
  apply Settles.bind
  · apply Follows.transaction orders_idles
    intro s result t ran
    obtain ⟨purchase, expired⟩ := result
    exact .single (approveWithin_orders ran)
  · intro _
    exact (orders_frame (keeps_ensure _ _)).bind fun _ => orders_frame (keeps_pure _)

/-- The key of a renewal is free as long as the purchase order has the version before. -/
theorem Orderly.renewal_free (orderly : Orderly s) {row : SupplierPurchaseOrder}
    (member : row ∈ s.db.purchaseOrders.rows) {version : Nat} (newer : row.version < version) :
    s.db.commandIdempotency.get?
      (row.tenantId, .renewal row.idempotencyKey.order row.idempotencyKey.supplier version) = none := by
  cases bound : s.db.commandIdempotency.get?
      (row.tenantId, .renewal row.idempotencyKey.order row.idempotencyKey.supplier version) with
  | none => rfl
  | some id =>
    obtain ⟨other, other_member, tenant, key, reached⟩ := orderly.renewed _ _ _ _ _ bound fun none => none
    have same := orderly.unique other other_member row member tenant key
    subst same
    exact absurd (Nat.lt_of_lt_of_le newer reached) (Nat.lt_irrefl _)

theorem keeps_linked_of_beside {α : Type} {body : Op α} (keeps : Keeps besideOrders body) : Keeps linkedTables body :=
  keeps.mono fun _ _ same => by
    simp only [besideOrders, serviceTables, lifecycleTables, Prod.mk.injEq] at same
    simp only [linkedTables, same]

/-- A renewal gives the purchase order a command of its own. -/
theorem regenerateDemoPo_orders {purchaseId : Uuid} {reason : String} {expectedPoVersion : Int} :
    Settles Orders (regenerateDemoPo env context purchaseId reason expectedPoVersion) := by
  refine (orders_frame (keeps_require _)).bind fun _ => (orders_frame (keeps_ensure _ _)).bind fun _ => ?_
  apply Follows.transaction orders_idles
  intro s result t ran
  apply ReflTransGen.single
  intro before
  simp only [bind_eq_ok, getPurchaseOrder_eq_ok, ensure_eq_ok, getChannelOrder_eq_ok, fetch_eq_ok,
    getApprovalForCommand_eq_ok] at ran
  obtain ⟨purchase, _, ⟨found, rfl⟩, _, _, ⟨-, rfl⟩, order, _, ⟨-, rfl⟩, _, _, ⟨-, rfl⟩, prior, _, ⟨-, rfl⟩, previous, start,
    ⟨-, -, rfl⟩, usable, unread, reading, _, _, ⟨-, same⟩, payload, unchanged, routing, ⟨command, approval⟩, asked, requesting,
    ran⟩ := ran
  have unmoved := routedPayload_session routing
  rw [unmoved, same] at requesting
  have kept : linkedTables unread.db = linkedTables start.db := (keeps_renewable _ _).of_run reading
  have advanced := (renewable env purchase previous).advances start
  rw [reading] at advanced
  have orderly : Orderly unread := before.of_same kept advanced.2
  have purchases : unread.db.purchaseOrders = start.db.purchaseOrders := congrArg (·.2.2) kept
  rw [← purchases] at found
  have member := Table.mem_of_get? found
  have named : purchase.key = (context.tenantId, purchaseId) := Table.key_of_get? found
  have tenant : purchase.tenantId = context.tenantId := congrArg Prod.fst named
  have free := orderly.renewal_free member (Nat.lt_succ_self purchase.version)
  rw [tenant] at free
  have requested := orderly.requested free requesting
  simp only [updatePurchaseOrder_eq_ok, now_eq_ok, auditBy_eq_ok, publish_eq_ok, pure_eq_ok] at ran
  obtain ⟨_, _, ⟨_, -, -, -, rfl⟩, _, _, ⟨-, rfl⟩, _, _, rfl, _, _, ⟨-, rfl⟩, -, rfl⟩ := ran
  let row : SupplierPurchaseOrder := { purchase with
    status := .approvalPending
    approvalCommandId := some command.id
    version := purchase.version + 1 }
  refine requested.orderly.put row rfl rfl rfl (Nat.le_add_right _ 3) ?_ ?_ ?_ ?_ ?_ ?_
  · intro other other_member apart other_tenant
    rw [requested.purchases] at other_member
    constructor
    · intro equal
      have identical := orderly.unique other other_member purchase member other_tenant equal
      subst identical
      exact apart rfl
    · intro id bound other_bound
      have drawn := orderly.linked other other_member id other_bound
      rw [← Option.some.inj bound, requested.id_eq] at drawn
      exact Nat.lt_irrefl _ drawn
  · intro id bound
    rw [← Option.some.inj bound, requested.id_eq]
    exact Nat.lt_of_lt_of_le requested.uuids (Nat.le_add_right _ 3)
  · intro old old_found
    rw [requested.purchases] at old_found
    have current : unread.db.purchaseOrders.get? row.key = some purchase :=
      (congrArg unread.db.purchaseOrders.get? named).trans found
    cases Option.some.inj (current.symm.trans old_found)
    exact ⟨rfl, rfl, Nat.le_succ _⟩
  · intro id other bound other_found approved
    have here : row.tenantId = context.tenantId := tenant
    rw [here, ← Option.some.inj bound, requested.found] at other_found
    cases other_found
    exact absurd approved requested.state
  · intro _ _ _ waiting
    cases waiting
  · intro _ _ _ _ waiting
    cases waiting
    exact ⟨tenant, rfl, Nat.le_refl _⟩

/-! ## Routing -/

theorem savePurchaseOrder_ok {row saved : SupplierPurchaseOrder} {existed : Bool}
    (ran : (savePurchaseOrder row).run s = (.ok (saved, existed), t)) :
    (t = s ∧ ∃ other ∈ s.db.purchaseOrders.rows, other.tenantId = row.tenantId ∧
        other.idempotencyKey = row.idempotencyKey ∧ other.channelOrderId = row.channelOrderId) ∨
      (∀ other ∈ s.db.purchaseOrders.rows, other.tenantId = row.tenantId → other.idempotencyKey ≠ row.idempotencyKey) ∧
        s.db.purchaseOrders.get? row.key = none ∧ saved = row ∧
        t = { s with db := { s.db with purchaseOrders := s.db.purchaseOrders.put row } } := by
  simp only [savePurchaseOrder, bind_eq_ok, query_eq_ok] at ran
  obtain ⟨_, _, ⟨rfl, rfl⟩, ran⟩ := ran
  split at ran
  · next other found =>
    simp only [bind_eq_ok, ensure_eq_ok, pure_eq_ok, Prod.mk.injEq] at ran
    obtain ⟨_, _, ⟨⟨about, -⟩, rfl⟩, -, rfl⟩ := ran
    have same := List.find?_some found
    simp only [decide_eq_true_eq] at same
    exact .inl ⟨rfl, other, List.mem_of_find?_eq_some found, same.1, same.2, about⟩
  · next none =>
    simp only [bind_eq_ok, ensure_eq_ok, write_eq_ok, pure_eq_ok, Prod.mk.injEq] at ran
    obtain ⟨_, _, ⟨free, rfl⟩, _, _, rfl, ⟨stored, -⟩, rfl⟩ := ran
    refine .inr ⟨?_, free, stored, rfl⟩
    intro other member tenant same
    have rejected := List.find?_eq_none.mp none other member
    exact rejected (decide_eq_true ⟨tenant, same⟩)

/-- An order on its way to purchase orders from some suppliers. -/
structure Open (context : TenantContext) (order : Uuid) (remaining : List String) (s : Session Store) : Prop where
  orderly : Orderly s
  free : ∀ supplier ∈ remaining, s.db.commandIdempotency.get? (context.tenantId, .routing order supplier) = none

theorem Open.purchaseFrom {order : Uuid} {targetVersion : Nat} {now : Timestamp} {selected : List Selection}
    {supplier : String} {rest : List String} {result : SupplierPurchaseOrder}
    (opened : Open context order (supplier :: rest) s) (new : supplier ∉ rest)
    (ran : (purchaseFrom env context order targetVersion now selected supplier).run s = (.ok result, t)) :
    Open context order rest t := by
  simp only [Purchasing.purchaseFrom, bind_eq_ok, freshUuid_eq_ok, pure_eq_ok] at ran
  obtain ⟨⟨command, approval⟩, asked, requesting, id, _, ⟨rfl, rfl⟩, ⟨saved, existed⟩, stored, saving, _, _, lines, -,
    rfl⟩ := ran
  have requested := opened.orderly.requested (opened.free supplier List.mem_cons_self) requesting
  have orderly : Orderly stored ∧ stored.db.commandIdempotency = asked.db.commandIdempotency := by
    rcases savePurchaseOrder_ok saving with ⟨rfl, other, member, tenant, -, about⟩ | ⟨own, free, -, rfl⟩
    · refine ⟨⟨?_, requested.orderly.single, requested.orderly.unique, ?_, ?_, requested.orderly.spent⟩, rfl⟩
      · intro row row_member id bound
        exact Nat.lt_succ_of_lt (requested.orderly.linked row row_member id bound)
      · intro tenant' order' supplier' id bound _
        by_cases here : (tenant', CommandKey.routing order' supplier') = (context.tenantId, .routing order supplier)
        · cases here
          exact ⟨other, member, tenant, about⟩
        · exact requested.orderly.routed tenant' order' supplier' id bound here
      · intro tenant' order' supplier' version id bound _
        exact requested.orderly.renewed tenant' order' supplier' version id bound (by simp)
    · refine ⟨requested.orderly.put _ rfl rfl rfl (Nat.le_succ _) ?_ ?_ ?_ ?_ ?_ ?_, rfl⟩
      · intro other member _ tenant
        refine ⟨own other member tenant, ?_⟩
        intro id bound other_bound
        rw [requested.purchases] at member
        have drawn := opened.orderly.linked other member id other_bound
        rw [← Option.some.inj bound, requested.id_eq] at drawn
        exact Nat.lt_irrefl _ drawn
      · intro id bound
        rw [← Option.some.inj bound, requested.id_eq]
        exact Nat.lt_succ_of_lt requested.uuids
      · intro old found
        cases free.symm.trans found
      · intro id other bound found approved
        rw [← Option.some.inj bound] at found
        cases Option.some.inj (requested.found.symm.trans found)
        exact absurd approved requested.state
      · intro _ _ _ waiting
        cases waiting
        exact ⟨rfl, rfl⟩
      · intro _ _ _ _ waiting
        cases waiting
  have frame : Keeps linkedTables (each (selected.filter (·.supplier = supplier)) (savePurchased context.tenantId saved.id)) :=
    Keeps.each _ fun selection => keeps_savePurchased (fun _ _ => rfl) selection
  have kept := frame.of_run lines
  have advanced := (each (selected.filter (·.supplier = supplier)) (savePurchased context.tenantId saved.id)).advances stored
  rw [lines] at advanced
  refine ⟨orderly.1.of_same kept advanced.2, ?_⟩
  intro other member
  have keys : t.db.commandIdempotency = stored.db.commandIdempotency := congrArg (·.2.1) kept
  have apart : (context.tenantId, CommandKey.routing order other) ≠ (context.tenantId, .routing order supplier) := by
    intro same
    cases same
    exact new member
  rw [keys, orderly.2, requested.keys _ apart]
  exact opened.free other (List.mem_cons_of_mem _ member)

theorem Open.purchases {order : Uuid} {targetVersion : Nat} {now : Timestamp} {selected : List Selection}
    {remaining : List String} (distinct : remaining.Nodup) {result : List SupplierPurchaseOrder}
    (opened : Open context order remaining s)
    (ran : (collect remaining (Purchasing.purchaseFrom env context order targetVersion now selected)).run s =
      (.ok result, t)) : Orderly t := by
  induction remaining generalizing s result with
  | nil =>
    simp only [collect_nil_eq_ok] at ran
    rw [ran.2]
    exact opened.orderly
  | cons supplier rest ih =>
    simp only [collect_cons_eq_ok] at ran
    obtain ⟨first, middle, others, saving, continuing, -⟩ := ran
    obtain ⟨new, distinct⟩ := List.nodup_cons.mp distinct
    exact ih distinct (Open.purchaseFrom opened new saving) continuing

/-- What only reads comes before the rest, which starts with the same tables. -/
theorem orders_read {α β : Type} {first : Op α} {next : α → Op β} (reads : Keeps id first)
    (rest : ∀ value middle, first.run s = (.ok value, middle) → middle.db = s.db →
      ReflTransGen Orders middle ((next value).run middle).2) :
    ReflTransGen Orders s ((first >>= next).run s).2 := by
  have advanced := first.advances s
  have same := reads s
  rw [run_bind]
  rcases ran : first.run s with ⟨_ | value, middle⟩ <;> rw [ran] at same advanced
  · exact .single (orders_idles _ _ same advanced)
  · exact (ReflTransGen.single (orders_idles _ _ same advanced)).trans (rest value middle ran same)

theorem orders_transaction {α : Type} {body : Op α}
    (returned : ∀ result t, body.run s = (.ok result, t) → Orders s t) :
    ReflTransGen Orders s ((transaction body).run s).2 := by
  rcases transaction_cases body s with ⟨result, t, ran, whole⟩ | ⟨why, t, whole, same, advances⟩
  · rw [whole]
    exact .single (returned result t ran)
  · rw [whole]
    exact .single (orders_idles _ _ same advances)

theorem suppliers_nodup (selected : List Selection) : (suppliers selected).Nodup :=
  (List.perm_insertionSort _ _).nodup_iff.mpr (List.nodup_dedup _)

theorem commitRouting_orders {order : Uuid} {expectedOrderVersion : Int} {selected : List Selection} {now : Timestamp}
    (unrouted : ∀ row ∈ s.db.purchaseOrders.rows, row.tenantId = context.tenantId → row.channelOrderId ≠ order) :
    ReflTransGen Orders s ((commitRouting env context order expectedOrderVersion selected now).run s).2 := by
  apply orders_transaction
  intro result t ran orderly
  simp only [bind_eq_ok, auditBy_eq_ok, pure_eq_ok] at ran
  obtain ⟨current, stepped, stepping, _, routed, routing, purchases, last, purchasing, _, _, rfl, -, rfl⟩ := ran
  have frame : Keeps linkedTables (each selected (routeLine context.tenantId)) :=
    Keeps.each _ fun selection => keeps_routeLine (fun _ _ _ => rfl) selection
  have kept : linkedTables routed.db = linkedTables s.db :=
    (frame.of_run routing).trans ((keeps_linked_of_beside keeps_advanceOrder).of_run stepping)
  have advanced : s.uuids ≤ routed.uuids := by
    have first := (advanceOrder context.tenantId order expectedOrderVersion .poPending).advances s
    have second := (each selected (routeLine context.tenantId)).advances stepped
    rw [stepping] at first
    rw [routing] at second
    exact first.2.trans second.2
  have keys : routed.db.commandIdempotency = s.db.commandIdempotency := congrArg (·.2.1) kept
  have opened : Open context order (suppliers selected) routed := by
    refine ⟨orderly.of_same kept advanced, ?_⟩
    intro supplier _
    rw [keys]
    cases bound : s.db.commandIdempotency.get? (context.tenantId, .routing order supplier) with
    | none => rfl
    | some id =>
      obtain ⟨row, member, tenant, about⟩ := orderly.routed _ _ _ id bound fun none => none
      exact absurd about (unrouted row member tenant)
  exact (opened.purchases (suppliers_nodup selected) purchasing).of_same rfl (Nat.le_add_right _ 2)

theorem proposeRouting_orders {order : Uuid} {supplierOptions : Mapping} {expectedOrderVersion : Int} :
    Settles Orders (proposeRouting env context order supplierOptions expectedOrderVersion) := by
  intro s
  refine orders_read (keeps_require _) fun _ s _ _ => ?_
  refine orders_read (keeps_getChannelOrder _ _) fun current s _ _ => ?_
  refine orders_read (keeps_ensure _ _) fun _ s _ _ => ?_
  refine orders_read (keeps_ensure _ _) fun _ s _ _ => ?_
  refine orders_read (keeps_purchaseOrdersFor _ _) fun existing listed listing same => ?_
  split
  · exact orders_frame (keeps_pure _) _
  · next none =>
    have unrouted : ∀ row ∈ listed.db.purchaseOrders.rows, row.tenantId = context.tenantId →
        row.channelOrderId ≠ order := by
      intro row member tenant about
      obtain ⟨-, rows, -⟩ := purchaseOrdersFor_eq_ok.mp listing
      rw [not_ne_iff.mp none] at rows
      rw [same] at member
      exact List.filter_eq_nil_iff.mp rows row member (decide_eq_true ⟨tenant, about⟩)
    refine orders_read (keeps_orderLinesFor _ _) fun lines read _ same_lines => ?_
    refine orders_read (keeps_ofExcept _) fun selected chosen _ same_selected => ?_
    cases selected with
    | error sku =>
      refine orders_frame ?_ _
      apply Keeps.transaction
      refine (keeps_linked_of_beside keeps_advanceOrder).bind fun _ => ?_
      exact (keeps_auditBy fun _ _ => rfl).bind fun _ => keeps_pure _
    | ok selected =>
      refine orders_read keeps_now fun now start _ same_now => ?_
      apply commitRouting_orders
      rw [same_now, same_selected, same_lines]
      exact unrouted

/-! ## Submission and response -/

theorem submitDemoPo_orders {purchaseId : Uuid} : Settles Orders (submitDemoPo env context purchaseId) := by
  have unwinds : Unwinds id (submitDemoPo env context purchaseId) :=
    Unwinds.bind (keeps_require _) fun _ => unwinds_transaction _
  have keeps : Keeps (fun db => (db.commands, db.commandIdempotency)) (submitDemoPo env context purchaseId) :=
    keeps_submitDemoPo fun _ _ _ _ _ => rfl
  intro s
  have advanced := (submitDemoPo env context purchaseId).advances s
  rcases ran : (submitDemoPo env context purchaseId).run s with ⟨_ | submitted, t⟩ <;> rw [ran] at advanced
  · exact .single (orders_idles _ _ (unwinds _ _ _ ran) advanced)
  · apply ReflTransGen.single
    intro orderly
    obtain ⟨purchase, order, command, approval, intent, rfl, submitting, rfl, controlled⟩ := submitDemoPo_ok ran
    have kept := keeps.of_run ran
    simp only [Prod.mk.injEq] at kept
    simp only [controlledTables, Prod.mk.injEq] at controlled
    have named : purchase.key = (context.tenantId, purchase.id) := Table.key_of_get? submitting.purchase_found
    have current : s.db.purchaseOrders.get? purchase.key = some purchase :=
      (congrArg s.db.purchaseOrders.get? named).trans submitting.purchase_found
    exact orderly.advanced { purchase with status := .submitted, version := purchase.version + 1 } current
      ⟨rfl, rfl, rfl, Nat.le_succ _⟩ kept.1 kept.2 controlled.2.2 advanced.2 fun _ _ _ _ _ => ⟨by simp, by simp⟩

theorem reconcileWithin_orders {purchaseId : Uuid} {status : PoResponseStatus} {reference : Option String} {digest : String}
    {observed : Timestamp} {result : SupplierPurchaseOrder × Bool}
    (ran : (reconcileWithin env context purchaseId status reference digest observed).run s = (.ok result, t)) :
    Orders s t := by
  intro orderly
  simp only [reconcileWithin, bind_eq_ok, getPurchaseOrder_eq_ok, ensure_eq_ok] at ran
  obtain ⟨purchase, _, ⟨found, rfl⟩, _, start, ⟨-, rfl⟩, ran⟩ := ran
  have named := Table.key_of_get? found
  have current := (congrArg start.db.purchaseOrders.get? named).trans found
  split at ran
  · obtain ⟨-, rfl⟩ := (pure_eq_ok _ _ _ _).mp ran
    exact orderly
  · simp only [bind_eq_ok, ensure_eq_ok] at ran
    obtain ⟨_, _, ⟨-, same⟩, ran⟩ := ran
    rw [same] at ran
    split at ran
    · obtain ⟨-, rfl⟩ := (pure_eq_ok _ _ _ _).mp ran
      exact orderly
    · simp only [fileResponse, saveInTurn, bind_eq_ok, updatePurchaseOrder_eq_ok, auditBy_eq_ok, publish_eq_ok,
        pure_eq_ok] at ran
      obtain ⟨_, _, ⟨_, _, ⟨_, -, -, -, rfl⟩, _, _, rfl, _, _, ⟨-, rfl⟩, -, rfl⟩, -, rfl⟩ := ran
      have answered : (respondedPurchase purchase status reference digest observed).status ≠ .cancelled ∧
          (respondedPurchase purchase status reference digest observed).status ≠ .approvalPending := by
        simp only [respondedPurchase]
        split
        · exact ⟨by simp, by simp⟩
        · exact ⟨by simp, by simp⟩
      exact orderly.advanced (respondedPurchase purchase status reference digest observed) current
        ⟨rfl, rfl, rfl, Nat.le_succ _⟩ rfl rfl rfl (Nat.le_add_right _ 3) fun _ _ _ _ _ => answered

theorem reconcileDemoPo_orders {purchaseId : Uuid} {response : Mapping} :
    Settles Orders (reconcileDemoPo env context purchaseId response) := by
  refine (orders_frame (keeps_require _)).bind fun _ => (orders_frame (keeps_ensure _ _)).bind fun _ => ?_
  refine (orders_frame (keeps_fetch _ _)).bind fun _ => (orders_frame (keeps_ofExcept _)).bind fun status => ?_
  apply (orders_frame (keeps_ofExcept _)).bind
  intro reference
  apply Settles.bind
  · exact orders_frame keeps_readPoObserved
  · intro observed
    apply Follows.transaction orders_idles
    intro s result t ran
    exact .single (reconcileWithin_orders ran)

/-! ## Cancellation -/

/-- How far the cancellation of an order has come since `s`. -/
structure Cancelling (s u : Session Store) : Prop where
  orderly : Orderly u
  commands : u.db.commands = s.db.commands
  kept : ∀ purchase ∈ s.db.purchaseOrders.rows, ∀ current, u.db.purchaseOrders.get? purchase.key = some current →
    current.approvalCommandId = purchase.approvalCommandId ∧ current.idempotencyKey = purchase.idempotencyKey ∧
      current.channelOrderId = purchase.channelOrderId

/-- A purchase order of the beginning is saved with another status. -/
theorem Cancelling.saved (cancelling : Cancelling s u) {purchase : SupplierPurchaseOrder} {status : PurchaseOrderState}
    (member : purchase ∈ s.db.purchaseOrders.rows)
    (spent : status = .cancelled → ∀ id command, purchase.approvalCommandId = some id →
      s.db.commands.get? (purchase.tenantId, id) = some command → command.state ≠ .approved)
    (settled : status ≠ .approvalPending)
    (ran : (saveInTurn { purchase with status := status, version := purchase.version + 1 }).run u = (.ok (), t)) :
    Cancelling s t := by
  simp only [saveInTurn, updatePurchaseOrder_eq_ok] at ran
  obtain ⟨current, found, version, -, rfl⟩ := ran
  let row : SupplierPurchaseOrder := { purchase with status := status, version := purchase.version + 1 }
  obtain ⟨command, key, order⟩ := cancelling.kept purchase member current found
  have older : current.version ≤ row.version := by
    rw [version]
    exact Nat.le_add_right purchase.version 1
  refine ⟨?_, cancelling.commands, ?_⟩
  · refine cancelling.orderly.advanced row found ⟨command.symm, key.symm, order.symm, older⟩ rfl rfl rfl (Nat.le_refl _) ?_
    intro id other bound other_found approved
    rw [cancelling.commands] at other_found
    exact ⟨fun cancelled => spent cancelled id other bound other_found approved, settled⟩
  · intro other other_member after after_found
    rw [Table.get?_put] at after_found
    split at after_found
    · next same =>
      cases after_found
      -- rows of the beginning with one key are one row
      have named : purchase.key = other.key := same
      have first := Table.get?_key _ member
      rw [named, Table.get?_key _ other_member] at first
      cases first
      exact ⟨rfl, rfl, rfl⟩
    · exact cancelling.kept other other_member after after_found

theorem Cancelling.step (orderly : Orderly s) (cancelling : Cancelling s u) {tenant : Uuid} {reason : String}
    {now : Timestamp} {purchase : SupplierPurchaseOrder} (member : purchase ∈ s.db.purchaseOrders.rows)
    (undecided : purchase.status ≠ .approved)
    (ran : (cancelPurchase tenant reason now purchase).run u = (.ok (), t)) : Cancelling s t := by
  unfold cancelPurchase at ran
  split at ran
  · next cancellable =>
    refine cancelling.saved member ?_ (by simp) ran
    intro _ id command bound found approved
    have pending := cancellable.resolve_right undecided
    exact (orderly.spent purchase member id command bound found approved).2 pending
  · split at ran
    · simp only [bind_eq_ok, publish_eq_ok] at ran
      obtain ⟨_, middle, saving, -, rfl⟩ := ran
      have saved := cancelling.saved member (by simp) (by simp) saving
      exact ⟨saved.orderly.of_same rfl (Nat.le_succ _), saved.commands, saved.kept⟩
    · obtain ⟨-, rfl⟩ := (pure_eq_ok _ _ _ _).mp ran
      exact cancelling

theorem Cancelling.steps (orderly : Orderly s) {tenant : Uuid} {reason : String} {now : Timestamp}
    {purchases : List SupplierPurchaseOrder}
    (members : ∀ purchase ∈ purchases, purchase ∈ s.db.purchaseOrders.rows ∧ purchase.status ≠ .approved)
    (cancelling : Cancelling s u)
    (ran : (each purchases (cancelPurchase tenant reason now)).run u = (.ok (), t)) : Cancelling s t := by
  induction purchases generalizing u with
  | nil =>
    simp only [each_nil_eq_ok] at ran
    rw [ran]
    exact cancelling
  | cons purchase rest ih =>
    obtain ⟨middle, first, others⟩ := (each_cons_eq_ok _ _ _ _ _ _).mp ran
    obtain ⟨member, undecided⟩ := members purchase List.mem_cons_self
    apply ih
    · exact fun other later => members other (List.mem_cons_of_mem _ later)
    · exact Cancelling.step orderly cancelling member undecided first
    · exact others

/-- No purchase order of the order is approved and not yet submitted. -/
def Unapproved (s : Session Store) (tenant order : Uuid) : Prop :=
  ∀ row ∈ s.db.purchaseOrders.rows, row.tenantId = tenant → row.channelOrderId = order → row.status ≠ .approved

theorem requestDemoCancel_orders {orderId : Uuid} {reason : String} {expectedOrderVersion : Int}
    (unapproved : Unapproved s context.tenantId orderId) :
    ReflTransGen Orders s ((requestDemoCancel env context orderId reason expectedOrderVersion).run s).2 := by
  refine orders_read (keeps_require _) fun _ first _ same_first => ?_
  refine orders_read (keeps_ensure _ _) fun _ start _ same_start => ?_
  apply orders_transaction
  intro result t ran orderly
  simp only [bind_eq_ok, getChannelOrder_eq_ok] at ran
  obtain ⟨order, _, ⟨found, same⟩, ran⟩ := ran
  rw [same] at ran
  have named : order.id = orderId := congrArg Prod.snd (Table.key_of_get? found)
  split at ran
  · obtain ⟨-, rfl⟩ := (pure_eq_ok _ _ _ _).mp ran
    exact orderly
  · simp only [cancelOpen, bind_eq_ok, ensure_eq_ok, purchaseOrdersFor_eq_ok, now_eq_ok, auditBy_eq_ok, publish_eq_ok,
      pure_eq_ok] at ran
    obtain ⟨_, _, ⟨_, _, ⟨-, checked⟩, purchases, _, ⟨-, rows, listed⟩, _, moved, moving, _, _, ⟨rfl, rfl⟩, _, last, cancels, _,
      _, rfl, _, _, ⟨-, rfl⟩, -, rfl⟩, -, rfl⟩ := ran
    rw [listed, checked] at moving
    rw [checked] at rows
    have advanced := (updateChannelOrder { order with status := .cancelled, version := order.version + 1 }
      order.version).advances start
    rw [moving] at advanced
    have kept := (keeps_linked_of_beside keeps_updateChannelOrder).of_run moving
    have stored : moved.db.purchaseOrders = start.db.purchaseOrders := congrArg (·.2.2) kept
    have before : Orderly moved := orderly.of_same kept advanced.2
    have begun : Cancelling moved { moved with reads := moved.reads + 1 } := by
      refine ⟨before.of_same rfl (Nat.le_refl _), rfl, ?_⟩
      intro purchase member current current_found
      cases (Table.get?_key _ member).symm.trans current_found
      exact ⟨rfl, rfl, rfl⟩
    have members : ∀ purchase ∈ purchases, purchase ∈ moved.db.purchaseOrders.rows ∧ purchase.status ≠ .approved := by
      intro purchase member
      rw [← rows, List.mem_filter, decide_eq_true_eq] at member
      obtain ⟨member, tenant, about⟩ := member
      refine ⟨stored ▸ member, ?_⟩
      rw [same_start, same_first] at member
      exact unapproved purchase member tenant (about.trans named)
    have cancelling := Cancelling.steps before members begun cancels
    exact cancelling.orderly.of_same rfl (Nat.le_add_right _ 3)

/-! ## Runs -/

theorem expireDueApprovals_orders {tenant : Uuid} {limit : Int} : Settles Orders (expireDueApprovals env tenant limit) := by
  refine (orders_frame (keeps_ensure _ _)).bind fun _ => (orders_frame keeps_now).bind fun now => ?_
  apply Follows.transaction orders_idles
  apply (orders_frame (keeps_query _)).follows.bind
  intro due
  apply Follows.bind (Follows.collect due fun approval => fun _ _ _ ran => .single (expireDue_orders ran))
  intro expired
  exact (orders_frame (keeps_pure _)).follows

/-- A call on purchase orders or on attempts, or any operation that leaves purchase orders and commands alone. -/
inductive CancellationCall (env : Env) where
  | proposeRouting (context : TenantContext) (order : Uuid) (supplierOptions : Mapping) (expectedOrderVersion : Int)
  | approveDemoPo (context : TenantContext) (purchaseId : Uuid) (approve : Bool) (reason : String)
  | regenerateDemoPo (context : TenantContext) (purchaseId : Uuid) (reason : String) (expectedPoVersion : Int)
  | expireDueApprovals (tenant : Uuid) (limit : Int)
  | submitDemoPo (context : TenantContext) (purchaseId : Uuid)
  | reconcileDemoPo (context : TenantContext) (purchaseId : Uuid) (response : Mapping)
  | requestDemoCancel (context : TenantContext) (orderId : Uuid) (reason : String) (expectedOrderVersion : Int)
  | prepareAttempt (context : TenantContext) (commandId : Uuid) (policyVersion targetVersion : Int)
      (adapterVersion provider connectionId : String)
  | act (context : TenantContext) (attemptId : Uuid) (action : Execution.AttemptAction)
  | elsewhere (operation : Op Unit) (keeps : Keeps linkedTables operation)

namespace Cancellation

def perform : CancellationCall env → Op Unit
  | .proposeRouting context order supplierOptions expectedOrderVersion =>
      quietly (Purchasing.proposeRouting env context order supplierOptions expectedOrderVersion)
  | .approveDemoPo context purchaseId approve reason =>
      quietly (Purchasing.approveDemoPo env context purchaseId approve reason)
  | .regenerateDemoPo context purchaseId reason expectedPoVersion =>
      quietly (Purchasing.regenerateDemoPo env context purchaseId reason expectedPoVersion)
  | .expireDueApprovals tenant limit => quietly (Service.expireDueApprovals env tenant limit)
  | .submitDemoPo context purchaseId => quietly (Purchasing.submitDemoPo env context purchaseId)
  | .reconcileDemoPo context purchaseId response => quietly (Purchasing.reconcileDemoPo env context purchaseId response)
  | .requestDemoCancel context orderId reason expectedOrderVersion =>
      quietly (Purchasing.requestDemoCancel env context orderId reason expectedOrderVersion)
  | .prepareAttempt context commandId policyVersion targetVersion adapterVersion provider connectionId =>
      quietly (Execution.prepareAttempt env context commandId policyVersion targetVersion adapterVersion provider connectionId)
  | .act context attemptId action => quietly (Execution.act env context attemptId action)
  | .elsewhere operation _ => operation

def step (env : Env) (call : CancellationCall env) (s : Session Store) : Except Failure Unit × Session Store :=
  (perform call).run s

end Cancellation

/-- A cancellation finds no purchase order that is approved and not yet submitted. -/
def Timely (s : Session Store) : CancellationCall env → Prop
  | .requestDemoCancel context orderId _ _ => Unapproved s context.tenantId orderId
  | _ => True

theorem step_orderly (orderly : Orderly s) {call : CancellationCall env} (timely : Timely s call) :
    Orderly (Cancellation.step env call s).2 := by
  have beside : ∀ {α : Type} {operation : Op α}, Keeps Controls.besideAttempts operation → Settles Orders operation :=
    fun keeps => orders_frame <| keeps.mono fun _ _ same => by
      simp only [Controls.besideAttempts, Prod.mk.injEq] at same
      simp only [linkedTables, same]
  have quiet : ∀ {α : Type} {operation : Op α}, ReflTransGen Orders s (operation.run s).2 →
      Orderly ((quietly operation).run s).2 := by
    intro α operation steps
    rw [quietly_session]
    exact orders_of_steps steps orderly
  cases call with
  | proposeRouting => exact quiet (proposeRouting_orders s)
  | approveDemoPo => exact quiet (approveDemoPo_orders s)
  | regenerateDemoPo => exact quiet (regenerateDemoPo_orders s)
  | expireDueApprovals => exact quiet (expireDueApprovals_orders s)
  | submitDemoPo => exact quiet (submitDemoPo_orders s)
  | reconcileDemoPo => exact quiet (reconcileDemoPo_orders s)
  | requestDemoCancel => exact quiet (requestDemoCancel_orders timely)
  | prepareAttempt => exact quiet (beside Controls.keeps_prepareAttempt s)
  | act => exact quiet (beside Controls.keeps_act s)
  | elsewhere operation keeps => exact orders_of_steps (orders_frame keeps s) orderly

theorem run_orderly {calls : List (CancellationCall env)}
    (timely : ∀ before call after, calls = before ++ call :: after →
      Timely (final (Cancellation.step env) Execution.newSession before) call) :
    Orderly (final (Cancellation.step env) Execution.newSession calls) := by
  apply Library.run_induction fun calls => Orderly (final (Cancellation.step env) Execution.newSession calls)
  · exact orderly_newSession
  · intro before call after split orderly
    rw [Library.final_concat]
    exact step_orderly orderly (timely before call after split)

/-! ## What a cancelled purchase order cannot do -/

/-- The command of a cancelled purchase order is not approved. -/
theorem Orderly.unexecutable (orderly : Orderly s) {purchase : SupplierPurchaseOrder} {id : Uuid} {command : Command}
    (member : purchase ∈ s.db.purchaseOrders.rows) (cancelled : purchase.status = .cancelled)
    (linked : purchase.approvalCommandId = some id)
    (found : s.db.commands.get? (purchase.tenantId, id) = some command) : command.state ≠ .approved :=
  fun approved => (orderly.spent purchase member id command linked found approved).1 cancelled

theorem beginDispatch_approved {attemptId : Uuid} {workerId : String} {token : Int} {result : ExecutionAttempt}
    (ran : (Execution.beginDispatch env context attemptId workerId token).run s = (.ok result, t)) :
    ∃ command, s.db.commands.get? (context.tenantId, result.commandId) = some command ∧ command.state = .approved := by
  rw [Execution.beginDispatch, transaction_eq_ok] at ran
  simp only [bind_eq_ok, Execution.leased_eq_ok, ensure_eq_ok, pure_eq_ok] at ran
  obtain ⟨row, _, ⟨-, -, -, rfl⟩, _, _, ⟨-, rfl⟩, _, _, gated, _, _, -, _, _, -, _, _, -, _, _, -, rfl, -⟩ := ran
  simp only [Execution.gate, demoStopActive, bind_eq_ok, query_eq_ok, ensure_eq_ok, getDemoControl, fetch_eq_ok]
    at gated
  obtain ⟨_, _, ⟨rfl, rfl⟩, _, _, ⟨-, rfl⟩, _, _, ⟨_, _, ⟨rfl, rfl⟩, -, rfl⟩, _, _, ⟨-, rfl⟩, ⟨preparation, replayed⟩, _,
    prepared, -⟩ := gated
  obtain ⟨command, _, _, executable, -⟩ := prepareExecution_ok prepared
  exact ⟨command, executable.command_found, executable.command_approved⟩

/-- Only the dispatch of an attempt takes it into `DISPATCHING`, and its command is approved then. -/
theorem dispatched_approved {key : Uuid × Uuid} {prior : ExecutionAttempt} {call : Execution.AttemptCall}
    (found : s.db.attempts.get? key = some prior) (enters : Execution.EntersDispatching env s key call) :
    ∃ command, s.db.commands.get? (key.1, prior.commandId) = some command ∧ command.state = .approved := by
  obtain ⟨outside, row, after, dispatching⟩ := enters
  have other : prior.state ≠ .dispatching := fun same => outside ⟨prior, found, same⟩
  rcases Execution.row_step found call with kept | ⟨context, action, result, rfl, tenant, moved, returned, written⟩
  · cases Option.some.inj (kept.symm.trans after)
    exact absurd dispatching other
  · cases Option.some.inj (written.symm.trans after)
    obtain ⟨_, ran⟩ := Controls.act_of_step returned
    have prepared := moved.dispatched dispatching
    rw [← tenant]
    cases moved with
    | beginDispatch held =>
      have approved : ∃ command, s.db.commands.get? (context.tenantId, (Execution.begun prior .dispatching).commandId) =
          some command ∧ command.state = .approved := beginDispatch_approved ran
      exact approved
    | claim active =>
      simp only [Execution.claimedBy, prepared] at dispatching
      cases dispatching
    | beginReconciliation held unknown => cases prepared.symm.trans unknown
    | recordObservation held flying read lookup observed =>
      rw [prepared] at flying
      cases flying <;> contradiction

/-- In every run that cancels orders only while no purchase order of theirs is approved and not yet submitted, the command
of a cancelled purchase order is not executable and no attempt at it begins to dispatch. -/
theorem cancelled_purchase_inert (env : Env) (calls : List (CancellationCall env))
    (timely : ∀ before call after, calls = before ++ call :: after →
      Timely (final (Cancellation.step env) Execution.newSession before) call) :
    let reached := final (Cancellation.step env) Execution.newSession calls
    ∀ purchase ∈ reached.db.purchaseOrders.rows, purchase.status = .cancelled →
      ∀ commandId, purchase.approvalCommandId = some commandId →
      (∀ context policyVersion targetVersion, context.tenantId = purchase.tenantId →
        ∃ why, ((prepareExecution env context commandId policyVersion targetVersion).run reached).1 = .error why) ∧
      ∀ call attemptId attempt, reached.db.attempts.get? (purchase.tenantId, attemptId) = some attempt →
        attempt.commandId = commandId →
        ¬ Execution.EntersDispatching env reached (purchase.tenantId, attemptId) call := by
  intro reached purchase member cancelled commandId linked
  -- the command of a cancelled purchase is never approved, and both paths need an approved one
  have orderly : Orderly reached := run_orderly timely
  constructor
  · intro context policyVersion targetVersion tenant
    rcases ran : (prepareExecution env context commandId policyVersion targetVersion).run reached with
      ⟨why | ⟨preparation, replayed⟩, t⟩
    · exact ⟨why, rfl⟩
    · obtain ⟨command, _, _, executable, -⟩ := prepareExecution_ok ran
      have found := executable.command_found
      rw [tenant] at found
      exact absurd executable.command_approved (orderly.unexecutable member cancelled linked found)
  · intro call attemptId attempt found about enters
    obtain ⟨command, command_found, approved⟩ := dispatched_approved found enters
    rw [about] at command_found
    exact orderly.unexecutable member cancelled linked command_found approved

/-! ## An approved purchase order is cancelled -/

/-- The master of a first tenant has an order routed. -/
def soldAndRouted : List (CancellationCall idleEnv) :=
  [.elsewhere (do let _ ← bootstrapTenant idleEnv "Demo" "master@demo.test")
      ((keeps_bootstrapTenant fun _ _ _ _ _ => rfl).bind fun _ => keeps_pure _),
   .elsewhere saveSold (keeps_saveSold fun _ _ _ => rfl),
   .proposeRouting Execution.demoMaster 100 [("sku", .list [.dict [("supplier_id", .text "supplier"),
     ("unit_cost_minor", .int 5), ("available_quantity", .int 3)]])] 1]

/-- The order is cancelled before the approval of its purchase order. -/
def cancelledPending : List (CancellationCall idleEnv) :=
  soldAndRouted ++ [.requestDemoCancel Execution.demoMaster 100 "withdrawn" 2]

theorem cancelledPending_timely (before : List (CancellationCall idleEnv)) (call : CancellationCall idleEnv)
    (after : List (CancellationCall idleEnv)) (whole : cancelledPending = before ++ call :: after) :
    Timely (final (Cancellation.step idleEnv) Execution.newSession before) call := by
  rcases List.eq_nil_or_concat after with rfl | ⟨earlier, last, rfl⟩
  · obtain ⟨rfl, same⟩ := List.append_inj' whole rfl
    cases same
    have undecided : ∀ row ∈ (final (Cancellation.step idleEnv) Execution.newSession soldAndRouted).db.purchaseOrders.rows,
        row.status ≠ .approved := by
      decide +kernel
    intro row member _ _
    exact undecided row member
  · -- every call before the last is not a cancellation
    have routed : soldAndRouted ++ [.requestDemoCancel Execution.demoMaster 100 "withdrawn" 2] =
        (before ++ call :: earlier) ++ [last] := by
      rw [List.concat_eq_append] at whole
      rw [List.append_assoc]
      exact whole
    obtain ⟨start, -⟩ := List.append_inj' routed rfl
    have member : call ∈ soldAndRouted := by
      rw [start]
      exact List.mem_append_right _ List.mem_cons_self
    simp only [soldAndRouted, List.mem_cons, List.not_mem_nil, or_false] at member
    rcases member with rfl | rfl | rfl <;> trivial

theorem cancelled_purchase_inert_pending :
    ∃ purchase ∈ (final (Cancellation.step idleEnv) Execution.newSession cancelledPending).db.purchaseOrders.rows,
      purchase.status = .cancelled ∧ purchase.approvalCommandId = some 5 ∧
      ∃ why, ((prepareExecution idleEnv Execution.demoMaster 5 1 2).run
        (final (Cancellation.step idleEnv) Execution.newSession cancelledPending)).1 = .error why := by
  have stored : ∃ purchase ∈ (final (Cancellation.step idleEnv) Execution.newSession cancelledPending).db.purchaseOrders.rows,
      purchase.status = .cancelled ∧ purchase.approvalCommandId = some 5 ∧
        Execution.demoMaster.tenantId = purchase.tenantId := by
    decide +kernel
  obtain ⟨purchase, member, cancelled, linked, tenant⟩ := stored
  refine ⟨purchase, member, cancelled, linked, ?_⟩
  exact (cancelled_purchase_inert idleEnv cancelledPending cancelledPending_timely purchase member cancelled 5 linked).1
    Execution.demoMaster 1 2 tenant

/-- The order is cancelled after the approval. -/
def cancelledApproved : List (CancellationCall idleEnv) :=
  soldAndRouted ++ [.approveDemoPo Execution.demoMaster 10 true "yes",
    .requestDemoCancel Execution.demoMaster 100 "withdrawn" 2]

/-- The command of the cancelled purchase order is still prepared for its execution. -/
theorem cancelled_purchase_executable :
    (∃ order ∈ (final (Cancellation.step idleEnv) Execution.newSession cancelledApproved).db.channelOrders.rows,
      order.status = .cancelled ∧
      ∃ purchase ∈ (final (Cancellation.step idleEnv) Execution.newSession cancelledApproved).db.purchaseOrders.rows,
        purchase.channelOrderId = order.id ∧ purchase.status = .cancelled ∧ purchase.approvalCommandId = some 5) ∧
    ¬ ∃ why, ((prepareExecution idleEnv Execution.demoMaster 5 1 2).run
      (final (Cancellation.step idleEnv) Execution.newSession cancelledApproved)).1 = .error why := by
  constructor
  · decide +kernel
  · have prepared : ((prepareExecution idleEnv Execution.demoMaster 5 1 2).run
        (final (Cancellation.step idleEnv) Execution.newSession cancelledApproved)).1.isOk = true := by
      decide +kernel
    rintro ⟨why, raised⟩
    rw [raised] at prepared
    cases prepared

end AiStore.Purchasing
