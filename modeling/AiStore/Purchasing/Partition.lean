import AiStore.Purchasing.CancelledOrders
import AiStore.Purchasing.Routing

/-! What a routing makes of an order: every line in one purchase order, at its least quote, and each purchase order with a
command about its lines. -/

set_option autoImplicit false

namespace AiStore.Purchasing

open Library (Session Table final)
open Library.Txn Failure Repository Service Approvals

variable {env : Env} {context : TenantContext} {s t u : Session Store}

/-! ## Requests -/

/-- A first request makes a command of its own. -/
structure FreshRequest (context : TenantContext) (s : Session Store) (payload : Mapping) (idempotencyKey : CommandKey)
    (command : Command) (t : Session Store) : Prop where
  id : command.id = s.uuids
  tenant : command.tenantId = context.tenantId
  payload : command.payload = payload
  commands : t.db.commands = s.db.commands.put command
  keys : t.db.commandIdempotency = s.db.commandIdempotency.set (context.tenantId, idempotencyKey) command.id
  purchases : t.db.purchaseOrders = s.db.purchaseOrders
  lines : t.db.purchaseLines = s.db.purchaseLines
  orders : t.db.channelOrders = s.db.channelOrders
  uuids : s.uuids < t.uuids

theorem requestApproval_fresh {targetRef : TargetRef} {payload : Mapping} {idempotencyKey : CommandKey}
    {policyVersion targetVersion : Int} {command : Command} {approval : Approval}
    (free : s.db.commandIdempotency.get? (context.tenantId, idempotencyKey) = none)
    (ran : (requestApproval env context .purchase targetRef payload idempotencyKey policyVersion targetVersion).run s =
      (.ok (command, approval), t)) : FreshRequest context s payload idempotencyKey command t := by
  obtain ⟨-, -, middle, creating, outcome⟩ := requestApproval_ok ran
  obtain ⟨-, created | replayed⟩ := createCommand_ok creating
  · have between : FreshRequest context s payload idempotencyKey command middle := by
      have id := congrArg Command.id created.command_eq
      have tenant := congrArg Command.tenantId created.command_eq
      have about := congrArg Command.payload created.command_eq
      obtain ⟨_, rfl⟩ := created.written
      exact ⟨id, tenant, about, rfl, rfl, rfl, rfl, rfl, Nat.lt_add_of_pos_right (by decide)⟩
    rcases outcome with attached | ⟨_, -, -, -, rfl⟩
    · obtain ⟨_, -, -, -, -, rfl⟩ := attached.written
      exact ⟨between.id, between.tenant, between.payload, between.commands, between.keys, between.purchases, between.lines,
        between.orders, between.uuids⟩
    · exact between
  · cases free.symm.trans replayed.key_bound

/-! ## Purchase lines -/

/-- What a selection and a purchase line are about. -/
def Selection.content (selection : Selection) : Uuid × Int × Int :=
  (selection.line.id, selection.line.quantity, selection.cost)

def lineContent (row : PurchaseLine) : Uuid × Int × Int := (row.orderLineId, row.quantity, row.unitCostMinor)

def linesOf (tenant purchase : Uuid) (db : Store) : List PurchaseLine :=
  db.purchaseLines.rows.filter fun row => row.tenantId = tenant ∧ row.purchaseOrderId = purchase

def besideLines (db : Store) := (db.commands, db.commandIdempotency, db.purchaseOrders, db.channelOrders)

/-- Commands and purchase lines carry identifiers that have been drawn. -/
structure Drawn (s : Session Store) : Prop where
  commands : ∀ row ∈ s.db.commands.rows, row.id < s.uuids
  lines : ∀ row ∈ s.db.purchaseLines.rows, row.id < s.uuids ∧ row.purchaseOrderId < s.uuids

/-- The lines of one purchase order go to the end, and nothing else changes. -/
theorem savePurchased_each {tenant purchase : Uuid} {selected : List Selection} (drawn : Drawn s) (known : purchase < s.uuids)
    (ran : (each selected (savePurchased tenant purchase)).run s = (.ok (), t)) :
    Drawn t ∧ s.uuids ≤ t.uuids ∧ ∃ extra : List PurchaseLine,
      t.db.purchaseLines.rows = s.db.purchaseLines.rows ++ extra ∧
        (∀ row ∈ extra, row.tenantId = tenant ∧ row.purchaseOrderId = purchase) ∧
        extra.map lineContent = selected.map Selection.content := by
  induction selected generalizing s with
  | nil =>
    rw [(each_nil_eq_ok _ _ _ _).mp ran]
    exact ⟨drawn, Nat.le_refl _, [], (List.append_nil _).symm, fun _ member => absurd member List.not_mem_nil, rfl⟩
  | cons selection rest ih =>
    obtain ⟨middle, first, others⟩ := (each_cons_eq_ok _ _ _ _ _ _).mp ran
    simp only [savePurchased, savePurchaseLine, bind_eq_ok, freshUuid_eq_ok, write_eq_ok] at first
    obtain ⟨_, _, ⟨rfl, rfl⟩, rfl⟩ := first
    let row : PurchaseLine := {
      id := s.uuids
      tenantId := tenant
      purchaseOrderId := purchase
      orderLineId := selection.line.id
      quantity := selection.line.quantity
      unitCostMinor := selection.cost }
    have fresh : s.db.purchaseLines.get? row.key = none := by
      cases found : s.db.purchaseLines.get? row.key with
      | none => rfl
      | some old =>
        have below := (drawn.lines old (Table.mem_of_get? found)).1
        have named : old.id = s.uuids := congrArg Prod.snd (Table.key_of_get? found)
        rw [named] at below
        exact absurd below (Nat.lt_irrefl _)
    have appended : (s.db.purchaseLines.put row).rows = s.db.purchaseLines.rows ++ [row] := Table.rows_put_of_fresh _ fresh
    have between : Drawn { s with
        db := { s.db with purchaseLines := s.db.purchaseLines.put row }, uuids := s.uuids + 1 } := by
      refine ⟨fun other member => Nat.lt_succ_of_lt (drawn.commands other member), ?_⟩
      refine Table.forall_put (fun other old => ?_) ⟨Nat.lt_succ_self _, Nat.lt_succ_of_lt known⟩
      obtain ⟨id, about⟩ := drawn.lines other old
      exact ⟨Nat.lt_succ_of_lt id, Nat.lt_succ_of_lt about⟩
    obtain ⟨later, grown, extra, rows, own, contents⟩ := ih between (Nat.lt_succ_of_lt known) others
    refine ⟨later, (Nat.le_succ _).trans grown, row :: extra, ?_, ?_, ?_⟩
    · rw [rows]
      change (s.db.purchaseLines.put row).rows ++ extra = _
      rw [appended, List.append_assoc, List.singleton_append]
    · intro other member
      rcases List.mem_cons.mp member with rfl | later
      · exact ⟨rfl, rfl⟩
      · exact own other later
    · rw [List.map_cons, List.map_cons, contents]
      rfl

/-! ## Purchase orders -/

/-- A purchase order with its supplier's part of a selection, and with a command about just that. -/
structure Bought (tenant order : Uuid) (selected : List Selection) (row : SupplierPurchaseOrder) (s : Session Store) : Prop where
  drawn : row.id < s.uuids
  of_tenant : row.tenantId = tenant
  of_order : row.channelOrderId = order
  stored : s.db.purchaseOrders.get? (tenant, row.id) = some row
  lines : (linesOf tenant row.id s.db).map lineContent =
    (selected.filter (·.supplier = row.supplierId)).map Selection.content
  command : ∃ id command, row.approvalCommandId = some id ∧ s.db.commands.get? (tenant, id) = some command ∧
    command.payload = purchasePayload order row.supplierId ((selected.filter (·.supplier = row.supplierId)).map
      fun selection => lineMaterial selection.line.id selection.line.quantity selection.cost)

/-- What later purchases leave as it is. -/
structure Grown (s t : Session Store) : Prop where
  uuids : s.uuids ≤ t.uuids
  purchases : ∀ key row, s.db.purchaseOrders.get? key = some row → t.db.purchaseOrders.get? key = some row
  commands : ∀ key row, s.db.commands.get? key = some row → t.db.commands.get? key = some row
  lines : ∀ tenant purchase, purchase < s.uuids → linesOf tenant purchase t.db = linesOf tenant purchase s.db

theorem Grown.refl (s : Session Store) : Grown s s where
  uuids := Nat.le_refl _
  purchases _ _ found := found
  commands _ _ found := found
  lines _ _ _ := rfl

theorem Grown.trans (first : Grown s t) (second : Grown t u) : Grown s u where
  uuids := first.uuids.trans second.uuids
  purchases key row found := second.purchases key row (first.purchases key row found)
  commands key row found := second.commands key row (first.commands key row found)
  lines tenant purchase known :=
    (second.lines tenant purchase (Nat.lt_of_lt_of_le known first.uuids)).trans (first.lines tenant purchase known)

theorem Bought.later {tenant order : Uuid} {selected : List Selection} {row : SupplierPurchaseOrder}
    (bought : Bought tenant order selected row s) (grown : Grown s t) : Bought tenant order selected row t := by
  obtain ⟨id, command, linked, found, payload⟩ := bought.command
  refine ⟨Nat.lt_of_lt_of_le bought.drawn grown.uuids, bought.of_tenant, bought.of_order, grown.purchases _ _ bought.stored, ?_,
    id, command, linked, grown.commands _ _ found, payload⟩
  rw [grown.lines tenant row.id bought.drawn]
  exact bought.lines

theorem get?_put_grown {κ ν : Type} [DecidableEq κ] {key : ν → κ} {table : Table key} {row : ν}
    (fresh : table.get? (key row) = none) (wanted : κ) (other : ν) (found : table.get? wanted = some other) :
    (table.put row).get? wanted = some other := by
  have different : key row ≠ wanted := by
    intro same
    rw [same, found] at fresh
    cases fresh
  exact (Table.get?_put_of_ne table different).trans found

theorem Drawn.command_new (drawn : Drawn s) {command : Command} (id : command.id = s.uuids) :
    s.db.commands.get? command.key = none := by
  refine (s.db.commands.get?_eq_none _).mpr fun old member same => ?_
  have below := drawn.commands old member
  rw [show old.id = command.id from congrArg Prod.snd same, id] at below
  exact Nat.lt_irrefl _ below

/-- The lines of a purchase order that had none are those that are added for it. -/
theorem linesOf_added {tenant purchase : Uuid} {before after : Store} {extra : List PurchaseLine}
    (rows : after.purchaseLines.rows = before.purchaseLines.rows ++ extra)
    (own : ∀ row ∈ extra, row.tenantId = tenant ∧ row.purchaseOrderId = purchase)
    (older : ∀ row ∈ before.purchaseLines.rows, row.purchaseOrderId ≠ purchase) : linesOf tenant purchase after = extra := by
  have old : before.purchaseLines.rows.filter
      (fun row => row.tenantId = tenant ∧ row.purchaseOrderId = purchase) = [] :=
    List.filter_eq_nil_iff.mpr fun row member about => older row member (of_decide_eq_true about).2
  have new : extra.filter (fun row => row.tenantId = tenant ∧ row.purchaseOrderId = purchase) = extra :=
    List.filter_eq_self.mpr fun row member => decide_eq_true (own row member)
  rw [linesOf, rows, List.filter_append, old, new, List.nil_append]

theorem linesOf_elsewhere {tenant purchase other_tenant other : Uuid} {before after : Store} {extra : List PurchaseLine}
    (rows : after.purchaseLines.rows = before.purchaseLines.rows ++ extra)
    (own : ∀ row ∈ extra, row.tenantId = tenant ∧ row.purchaseOrderId = purchase) (apart : other ≠ purchase) :
    linesOf other_tenant other after = linesOf other_tenant other before := by
  have foreign : extra.filter (fun row => row.tenantId = other_tenant ∧ row.purchaseOrderId = other) = [] := by
    refine List.filter_eq_nil_iff.mpr fun row member about => apart ?_
    exact (of_decide_eq_true about).2.symm.trans (own row member).2
  rw [linesOf, rows, List.filter_append, foreign, List.append_nil, linesOf]

/-- One supplier's purchase order, where neither its key nor the key of its approval is taken. -/
theorem purchaseFrom_bought {order : Uuid} {targetVersion : Nat} {now : Timestamp} {selected : List Selection}
    {supplier : String} {result : SupplierPurchaseOrder} (drawn : Drawn s)
    (free : s.db.commandIdempotency.get? (context.tenantId, .routing order supplier) = none)
    (new : ∀ row ∈ s.db.purchaseOrders.rows, row.tenantId = context.tenantId → row.channelOrderId = order →
      row.idempotencyKey ≠ ⟨order, supplier⟩)
    (ran : (purchaseFrom env context order targetVersion now selected supplier).run s = (.ok result, t)) :
    Drawn t ∧ Grown s t ∧ Bought context.tenantId order selected result t ∧ result.supplierId = supplier ∧
      result.idempotencyKey = ⟨order, supplier⟩ ∧ t.db.purchaseOrders.rows = s.db.purchaseOrders.rows ++ [result] ∧
      t.db.channelOrders = s.db.channelOrders ∧
      t.db.commandIdempotency = s.db.commandIdempotency.set (context.tenantId, .routing order supplier) s.uuids := by
  simp only [purchaseFrom, bind_eq_ok, freshUuid_eq_ok, pure_eq_ok] at ran
  obtain ⟨⟨command, approval⟩, asked, requesting, id, _, ⟨rfl, rfl⟩, ⟨saved, existed⟩, stored, saving, _, _, lines, rfl,
    rfl⟩ := ran
  have request := requestApproval_fresh free requesting
  have id := request.id
  have uuids := request.uuids
  rcases savePurchaseOrder_ok saving with ⟨-, other, member, tenant, key, about⟩ | ⟨-, vacant, rfl, rfl⟩
  · change other ∈ asked.db.purchaseOrders.rows at member
    rw [request.purchases] at member
    exact absurd key (new other member tenant about)
  let purchase : SupplierPurchaseOrder := {
    id := asked.uuids
    tenantId := context.tenantId
    channelOrderId := order
    supplierId := supplier
    status := .approvalPending
    idempotencyKey := ⟨order, supplier⟩
    approvalCommandId := some command.id
    createdAt := now }
  let stored : Session Store := { asked with
    db := { asked.db with purchaseOrders := asked.db.purchaseOrders.put purchase }, uuids := asked.uuids + 1 }
  have between : Drawn stored := by
    constructor
    · intro row member
      change row ∈ asked.db.commands.rows at member
      rw [request.commands] at member
      rcases (Table.mem_put _ _ _).mp member with rfl | ⟨old, -⟩
      · rw [id]
        exact Nat.lt_succ_of_lt uuids
      · exact Nat.lt_succ_of_lt ((drawn.commands row old).trans uuids)
    · intro row member
      change row ∈ asked.db.purchaseLines.rows at member
      rw [request.lines] at member
      obtain ⟨own, about⟩ := drawn.lines row member
      exact ⟨Nat.lt_succ_of_lt (own.trans uuids), Nat.lt_succ_of_lt (about.trans uuids)⟩
  obtain ⟨drawn_after, grown, extra, rows, own, contents⟩ := savePurchased_each between (Nat.lt_succ_self _) lines
  have frame : Keeps besideLines (each (selected.filter (·.supplier = supplier)) (savePurchased context.tenantId purchase.id)) :=
    Keeps.each _ fun selection => keeps_savePurchased (fun _ _ => rfl) selection
  have kept : besideLines t.db = besideLines stored.db := frame.of_run lines
  simp only [besideLines, Prod.mk.injEq] at kept
  obtain ⟨commands, keys, purchases, orders⟩ := kept
  replace commands : t.db.commands = s.db.commands.put command := commands.trans request.commands
  replace keys : t.db.commandIdempotency = _ := keys.trans request.keys
  replace purchases : t.db.purchaseOrders = s.db.purchaseOrders.put purchase :=
    purchases.trans (congrArg (Table.put · purchase) request.purchases)
  replace orders : t.db.channelOrders = s.db.channelOrders := orders.trans request.orders
  replace rows : t.db.purchaseLines.rows = s.db.purchaseLines.rows ++ extra :=
    rows.trans (congrArg (fun lines : Table PurchaseLine.key => lines.rows ++ extra) request.lines)
  replace vacant : s.db.purchaseOrders.get? purchase.key = none := request.purchases ▸ vacant
  have named : command.key = (context.tenantId, command.id) := congrArg (·, command.id) request.tenant
  have own_lines : linesOf context.tenantId purchase.id t.db = extra := by
    refine linesOf_added rows own fun row member about => ?_
    have below := (drawn.lines row member).2
    rw [about] at below
    exact Nat.lt_irrefl _ (below.trans uuids)
  have larger : asked.uuids < t.uuids := grown
  refine ⟨drawn_after, ⟨(uuids.trans larger).le, ?_, ?_, ?_⟩, ⟨larger, rfl, rfl, ?_, ?_, ?_⟩, rfl, rfl, ?_, orders, ?_⟩
  · intro key row found
    rw [purchases]
    exact get?_put_grown vacant key row found
  · intro key row found
    rw [commands]
    exact get?_put_grown (drawn.command_new id) key row found
  · intro tenant other known
    refine linesOf_elsewhere rows own ?_
    rintro rfl
    exact Nat.lt_irrefl _ (Nat.lt_trans known uuids)
  · rw [purchases]
    exact Table.get?_put_self s.db.purchaseOrders purchase
  · rw [own_lines]
    exact contents
  · refine ⟨command.id, command, rfl, ?_, request.payload⟩
    rw [commands, ← named]
    exact Table.get?_put_self s.db.commands command
  · rw [purchases]
    exact Table.rows_put_of_fresh _ vacant
  · rw [keys, id]

/-- What the purchases from some suppliers leave. -/
structure Purchased (tenant order : Uuid) (selected : List Selection) (remaining : List String) (s : Session Store)
    (result : List SupplierPurchaseOrder) (t : Session Store) : Prop where
  drawn : Drawn t
  grown : Grown s t
  bought : ∀ row ∈ result, Bought tenant order selected row t
  suppliers : result.map (·.supplierId) = remaining
  rows : t.db.purchaseOrders.rows = s.db.purchaseOrders.rows ++ result
  keys : ∀ owner about supplier, t.db.commandIdempotency.get? (owner, .routing about supplier) ≠ none →
    s.db.commandIdempotency.get? (owner, .routing about supplier) ≠ none ∨
      ∃ row ∈ result, row.tenantId = owner ∧ row.channelOrderId = about

/-- Induction on the suppliers that are left: the keys of the others stay free. -/
theorem purchases_bought {order : Uuid} {targetVersion : Nat} {now : Timestamp} {selected : List Selection}
    {remaining : List String} {result : List SupplierPurchaseOrder} (drawn : Drawn s) (distinct : remaining.Nodup)
    (free : ∀ supplier ∈ remaining, s.db.commandIdempotency.get? (context.tenantId, .routing order supplier) = none)
    (new : ∀ row ∈ s.db.purchaseOrders.rows, row.tenantId = context.tenantId → row.channelOrderId = order →
      ∀ supplier ∈ remaining, row.idempotencyKey ≠ ⟨order, supplier⟩)
    (ran : (collect remaining (purchaseFrom env context order targetVersion now selected)).run s = (.ok result, t)) :
    Purchased context.tenantId order selected remaining s result t ∧ t.db.channelOrders = s.db.channelOrders := by
  induction remaining generalizing s result with
  | nil =>
    obtain ⟨rfl, rfl⟩ := (collect_nil_eq_ok _ _ _ _).mp ran
    refine ⟨⟨drawn, .refl _, ?_, rfl, (List.append_nil _).symm, ?_⟩, rfl⟩
    · intro row member
      cases member
    · intro owner about supplier bound
      exact .inl bound
  | cons supplier rest ih =>
    obtain ⟨first, middle, others, saving, continuing, rfl⟩ := (collect_cons_eq_ok _ _ _ _ _ _).mp ran
    obtain ⟨absent, apart⟩ := List.nodup_cons.mp distinct
    obtain ⟨drawn_after, grown, bought, from_supplier, key, rows, orders, keys⟩ := purchaseFrom_bought drawn
      (free supplier List.mem_cons_self)
      (fun row member tenant about => new row member tenant about supplier List.mem_cons_self) saving
    have free_after : ∀ other ∈ rest,
        middle.db.commandIdempotency.get? (context.tenantId, .routing order other) = none := by
      intro other later
      have different : (context.tenantId, CommandKey.routing order supplier) ≠ (context.tenantId, .routing order other) := by
        intro same
        cases same
        exact absent later
      rw [keys, Library.Dict.get?_set_of_ne _ different _]
      exact free other (List.mem_cons_of_mem _ later)
    have new_after : ∀ row ∈ middle.db.purchaseOrders.rows, row.tenantId = context.tenantId → row.channelOrderId = order →
        ∀ other ∈ rest, row.idempotencyKey ≠ ⟨order, other⟩ := by
      intro row member tenant about other later
      rw [rows] at member
      rcases List.mem_append.mp member with old | new_row
      · exact new row old tenant about other (List.mem_cons_of_mem _ later)
      · rw [List.mem_singleton.mp new_row, key]
        intro same
        cases same
        exact absent later
    obtain ⟨purchased, kept⟩ := ih drawn_after apart free_after new_after continuing
    refine ⟨⟨purchased.drawn, grown.trans purchased.grown, ?_, ?_, ?_, ?_⟩, kept.trans orders⟩
    · intro row member
      rcases List.mem_cons.mp member with rfl | later
      · exact bought.later purchased.grown
      · exact purchased.bought row later
    · rw [List.map_cons, from_supplier, purchased.suppliers]
    · rw [purchased.rows, rows, List.append_assoc, List.singleton_append]
    · intro owner about other bound
      rcases purchased.keys owner about other bound with before | own
      · rw [keys] at before
        by_cases same : (context.tenantId, CommandKey.routing order supplier) = (owner, .routing about other)
        · cases same
          exact .inr ⟨first, List.mem_cons_self, bought.of_tenant, bought.of_order⟩
        · rw [Library.Dict.get?_set_of_ne _ same _] at before
          exact .inl before
      · obtain ⟨row, later, of_tenant, of_order⟩ := own
        exact .inr ⟨row, List.mem_cons_of_mem _ later, of_tenant, of_order⟩

theorem uuids_le {α : Type} {body : Op α} {outcome : Except Failure α} (ran : body.run s = (outcome, t)) :
    s.uuids ≤ t.uuids := by
  have advances := (body.advances s).2
  rwa [ran] at advances

theorem Drawn.later (drawn : Drawn s) (commands : t.db.commands = s.db.commands)
    (lines : t.db.purchaseLines = s.db.purchaseLines) (uuids : s.uuids ≤ t.uuids) : Drawn t := by
  constructor
  · rw [commands]
    exact fun row member => Nat.lt_of_lt_of_le (drawn.commands row member) uuids
  · rw [lines]
    exact fun row member => (drawn.lines row member).imp (Nat.lt_of_lt_of_le · uuids) (Nat.lt_of_lt_of_le · uuids)

theorem mem_suppliers {selected : List Selection} {supplier : String} :
    supplier ∈ suppliers selected ↔ ∃ selection ∈ selected, selection.supplier = supplier := by
  rw [suppliers, (List.perm_insertionSort _ _).mem_iff, List.mem_dedup, List.mem_map]

/-- The tables that the steps before the purchases leave alone. -/
def purchaseTables (db : Store) := (db.commands, db.commandIdempotency, db.purchaseOrders, db.purchaseLines)

theorem Grown.of_tables (same : purchaseTables t.db = purchaseTables s.db) (uuids : s.uuids ≤ t.uuids) : Grown s t := by
  simp only [purchaseTables, Prod.mk.injEq] at same
  obtain ⟨commands, -, purchases, lines⟩ := same
  refine ⟨uuids, ?_, ?_, ?_⟩
  · rw [purchases]
    exact fun _ _ found => found
  · rw [commands]
    exact fun _ _ found => found
  · intro tenant purchase _
    rw [linesOf, lines, linesOf]

/-- What runs before and after purchases, apart from their tables. -/
theorem Purchased.between {tenant order : Uuid} {selected : List Selection} {remaining : List String}
    {result : List SupplierPurchaseOrder} {start last : Session Store}
    (purchased : Purchased tenant order selected remaining s result t)
    (before : purchaseTables s.db = purchaseTables start.db) (after : purchaseTables last.db = purchaseTables t.db)
    (begun : start.uuids ≤ s.uuids) (ended : t.uuids ≤ last.uuids) :
    Purchased tenant order selected remaining start result last := by
  have later : Grown t last := .of_tables after ended
  have earlier : Grown start s := .of_tables before begun
  simp only [purchaseTables, Prod.mk.injEq] at before after
  obtain ⟨-, keys_before, rows_before, -⟩ := before
  obtain ⟨commands, keys_after, rows_after, lines⟩ := after
  refine ⟨purchased.drawn.later commands lines ended, (earlier.trans purchased.grown).trans later, ?_, purchased.suppliers,
    ?_, ?_⟩
  · exact fun row member => (purchased.bought row member).later later
  · rw [rows_after, ← rows_before]
    exact purchased.rows
  · rw [keys_after, ← keys_before]
    exact purchased.keys

theorem commitRouting_ok {order : Uuid} {expectedOrderVersion : Int} {selected : List Selection} {now : Timestamp}
    {result : List SupplierPurchaseOrder} (drawn : Drawn s)
    (free : ∀ supplier, s.db.commandIdempotency.get? (context.tenantId, .routing order supplier) = none)
    (new : ∀ row ∈ s.db.purchaseOrders.rows, row.tenantId = context.tenantId → row.channelOrderId ≠ order)
    (ran : (commitRouting env context order expectedOrderVersion selected now).run s = (.ok result, t)) :
    ∃ current, s.db.channelOrders.get? (context.tenantId, order) = some current ∧
      (current.version : Int) = expectedOrderVersion ∧
      t.db.channelOrders = s.db.channelOrders.put { current with status := .poPending, version := current.version + 1 } ∧
      Purchased context.tenantId order selected (suppliers selected) s result t := by
  simp only [commitRouting, transaction_eq_ok, bind_eq_ok, auditBy_eq_ok, pure_eq_ok] at ran
  obtain ⟨current, stepped, stepping, _, routed, routing, purchases, last, purchasing, _, _, rfl, rfl, rfl⟩ := ran
  have uuids : s.uuids ≤ routed.uuids := (uuids_le stepping).trans (uuids_le routing)
  obtain ⟨row, found, version, rfl, rfl⟩ := advanceOrder_ok stepping
  have tables : Keeps (fun db => (purchaseTables db, db.channelOrders)) (each selected (routeLine context.tenantId)) :=
    Keeps.each _ fun selection => keeps_routeLine (fun _ _ _ => rfl) selection
  have kept := tables.of_run routing
  simp only [purchaseTables, Prod.mk.injEq] at kept
  obtain ⟨⟨commands, keys, purchases_kept, lines⟩, orders⟩ := kept
  obtain ⟨purchased, unmoved⟩ := purchases_bought (drawn.later commands lines uuids) (suppliers_nodup selected)
    (fun supplier _ => by rw [keys]; exact free supplier)
    (fun other member tenant about => by rw [purchases_kept] at member; exact absurd about (new other member tenant)) purchasing
  refine ⟨row, found, version, unmoved.trans orders, purchased.between ?_ rfl uuids (Nat.le_add_right _ _)⟩
  simp only [purchaseTables, commands, keys, purchases_kept, lines]

/-! ## The order as a whole -/

/-- The lines of an order, as the repository lists them. -/
def orderLinesOf (tenant order : Uuid) (db : Store) : List OrderLine :=
  db.orderLines.rows.filter fun row => row.tenantId = tenant ∧ row.channelOrderId = order

/-- Every line of the order is in one purchase order and in one line of it, at its least quote; there is one purchase order
for each supplier, and its command is about the lines it has. -/
structure Routed (tenant order : Uuid) (options : Mapping) (lines : List OrderLine) (purchases : List SupplierPurchaseOrder)
    (t : Session Store) : Prop where
  bought : ∀ line ∈ lines, ∃ purchase ∈ purchases, ∃ row ∈ linesOf tenant purchase.id t.db,
    row.orderLineId = line.id ∧ row.quantity = line.quantity ∧ Chosen options line (row.unitCostMinor, purchase.supplierId)
  once : ∀ first ∈ purchases, ∀ second ∈ purchases, ∀ row ∈ linesOf tenant first.id t.db,
    ∀ other ∈ linesOf tenant second.id t.db, row.orderLineId = other.orderLineId → row = other
  own : ∀ purchase ∈ purchases, ∀ row ∈ linesOf tenant purchase.id t.db, ∃ line ∈ lines, row.orderLineId = line.id
  distinct : (purchases.map (·.supplierId)).Nodup
  used : ∀ purchase ∈ purchases, linesOf tenant purchase.id t.db ≠ []
  placed : ∀ purchase ∈ purchases, purchase.tenantId = tenant ∧ purchase.channelOrderId = order ∧
    t.db.purchaseOrders.get? (tenant, purchase.id) = some purchase
  command : ∀ purchase ∈ purchases, ∃ id command, purchase.approvalCommandId = some id ∧
    t.db.commands.get? (tenant, id) = some command ∧ command.payload = purchasePayload order purchase.supplierId
      ((linesOf tenant purchase.id t.db).map fun row => lineMaterial row.orderLineId row.quantity row.unitCostMinor)

section

variable {tenant order : Uuid} {selected : List Selection} {purchase : SupplierPurchaseOrder}

/-- The line of a purchase order that a selection has become. -/
theorem Bought.line_of_selection (bought : Bought tenant order selected purchase t) {selection : Selection}
    (member : selection ∈ selected) (supplier : selection.supplier = purchase.supplierId) :
    ∃ row ∈ linesOf tenant purchase.id t.db, lineContent row = selection.content := by
  have chosen : selection ∈ selected.filter (·.supplier = purchase.supplierId) :=
    List.mem_filter.mpr ⟨member, decide_eq_true supplier⟩
  have listed := List.mem_map_of_mem (f := Selection.content) chosen
  rw [← bought.lines] at listed
  exact List.mem_map.mp listed

theorem Bought.selection_of_line (bought : Bought tenant order selected purchase t) {row : PurchaseLine}
    (member : row ∈ linesOf tenant purchase.id t.db) :
    ∃ selection ∈ selected, selection.supplier = purchase.supplierId ∧ selection.content = lineContent row := by
  have listed := List.mem_map_of_mem (f := lineContent) member
  rw [bought.lines] at listed
  obtain ⟨selection, chosen, same⟩ := List.mem_map.mp listed
  obtain ⟨selected_member, supplier⟩ := List.mem_filter.mp chosen
  exact ⟨selection, selected_member, of_decide_eq_true supplier, same⟩

/-- Two lines of one purchase order are about different lines of the order. -/
theorem Bought.lines_nodup (bought : Bought tenant order selected purchase t)
    (distinct : (selected.map (·.line.id)).Nodup) : ((linesOf tenant purchase.id t.db).map (·.orderLineId)).Nodup := by
  have ids : (linesOf tenant purchase.id t.db).map (·.orderLineId) =
      (selected.filter (·.supplier = purchase.supplierId)).map (·.line.id) := by
    calc (linesOf tenant purchase.id t.db).map (·.orderLineId)
        = ((linesOf tenant purchase.id t.db).map lineContent).map Prod.fst := by rw [List.map_map]; rfl
      _ = ((selected.filter (·.supplier = purchase.supplierId)).map Selection.content).map Prod.fst := by rw [bought.lines]
      _ = (selected.filter (·.supplier = purchase.supplierId)).map (·.line.id) := by rw [List.map_map]; rfl
  rw [ids]
  exact distinct.sublist (List.filter_sublist.map _)

end

theorem routed_of_purchased {tenant order : Uuid} {options : Mapping} {lines : List OrderLine} {selected : List Selection}
    {purchases : List SupplierPurchaseOrder}
    (purchased : Purchased tenant order selected (suppliers selected) s purchases t)
    (chosen : select options lines = .ok (.ok selected)) (distinct : (lines.map (·.id)).Nodup) :
    Routed tenant order options lines purchases t := by
  have covered := select_lines chosen
  have least := select_chosen chosen
  have ids : (selected.map (·.line.id)).Nodup := by
    rw [← covered, List.map_map] at distinct
    exact distinct
  have from_supplier : ∀ purchase ∈ purchases, ∃ selection ∈ selected, selection.supplier = purchase.supplierId := by
    intro purchase member
    apply mem_suppliers.mp
    rw [← purchased.suppliers]
    exact List.mem_map_of_mem member
  have different : (purchases.map (·.supplierId)).Nodup := by
    rw [purchased.suppliers]
    exact suppliers_nodup selected
  refine ⟨?_, ?_, ?_, different, ?_, ?_, ?_⟩
  · intro line member
    rw [← covered] at member
    obtain ⟨selection, selected_member, rfl⟩ := List.mem_map.mp member
    have supplied : selection.supplier ∈ purchases.map (·.supplierId) := by
      rw [purchased.suppliers]
      exact mem_suppliers.mpr ⟨selection, selected_member, rfl⟩
    obtain ⟨purchase, purchase_member, supplier⟩ := List.mem_map.mp supplied
    have bought := purchased.bought purchase purchase_member
    obtain ⟨row, row_member, content⟩ := bought.line_of_selection selected_member supplier.symm
    simp only [lineContent, Selection.content, Prod.mk.injEq] at content
    refine ⟨purchase, purchase_member, row, row_member, content.1, content.2.1, ?_⟩
    rw [content.2.2, supplier]
    exact least selection selected_member
  · intro first first_member second second_member row row_member other other_member same
    obtain ⟨selection, chosen_first, supplier, content⟩ := (purchased.bought first first_member).selection_of_line row_member
    obtain ⟨again, chosen_second, other_supplier, other_content⟩ :=
      (purchased.bought second second_member).selection_of_line other_member
    have id : selection.line.id = row.orderLineId := congrArg Prod.fst content
    have other_id : again.line.id = other.orderLineId := congrArg Prod.fst other_content
    have equal : selection = again :=
      List.inj_on_of_nodup_map ids chosen_first chosen_second ((id.trans same).trans other_id.symm)
    have shared : first.supplierId = second.supplierId := (supplier.symm.trans (congrArg _ equal)).trans other_supplier
    have one : first = second := List.inj_on_of_nodup_map different first_member second_member shared
    subst one
    exact List.inj_on_of_nodup_map ((purchased.bought first first_member).lines_nodup ids) row_member other_member same
  · intro purchase member row row_member
    obtain ⟨selection, selected_member, -, content⟩ := (purchased.bought purchase member).selection_of_line row_member
    refine ⟨selection.line, ?_, (congrArg Prod.fst content).symm⟩
    rw [← covered]
    exact List.mem_map_of_mem selected_member
  · intro purchase member
    obtain ⟨selection, selected_member, supplier⟩ := from_supplier purchase member
    obtain ⟨row, row_member, -⟩ := (purchased.bought purchase member).line_of_selection selected_member supplier
    exact List.ne_nil_of_mem row_member
  · intro purchase member
    have bought := purchased.bought purchase member
    exact ⟨bought.of_tenant, bought.of_order, bought.stored⟩
  · intro purchase member
    have bought := purchased.bought purchase member
    obtain ⟨id, command, linked, found, payload⟩ := bought.command
    have material : (linesOf tenant purchase.id t.db).map
          (fun row => lineMaterial row.orderLineId row.quantity row.unitCostMinor) =
        (selected.filter (·.supplier = purchase.supplierId)).map
          fun selection => lineMaterial selection.line.id selection.line.quantity selection.cost := by
      have contents := congrArg (List.map fun content : Uuid × Int × Int => lineMaterial content.1 content.2.1 content.2.2)
        bought.lines
      rw [List.map_map, List.map_map] at contents
      exact contents
    refine ⟨id, command, linked, found, ?_⟩
    rw [material]
    exact payload

end AiStore.Purchasing
