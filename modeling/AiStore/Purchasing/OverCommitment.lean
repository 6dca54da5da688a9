import AiStore.Purchasing.RoutingRace

/-! What a routing takes from one quote, summed over the lines of the order.

A quote is feasible for a line on its own, so lines for one article may all take
the same quote.
-/

set_option autoImplicit false

namespace AiStore.Purchasing

open Library (Session Table final)
open Library.Txn Failure Repository Service Approvals

variable {env : Env} {context : TenantContext} {s t : Session Store}

/-- The options hold the quote for the article, with so many available. -/
def Offered (options : Mapping) (sku : String) (quote : Quote) (available : Int) : Prop :=
  ∃ items offer, options.get? sku = some (.list items) ∧ Value.dict offer ∈ items ∧
    Mapping.get? offer "supplier_id" = some (.text quote.2) ∧ Mapping.get? offer "unit_cost_minor" = some (.int quote.1) ∧
    Mapping.get? offer "available_quantity" = some (.int available)

/-- Whether a purchase line with this content is about the article, at this cost. -/
def AtCost (lines : List OrderLine) (sku : String) (cost : Int) (content : Uuid × Int × Int) : Prop :=
  content.2.2 = cost ∧ ∃ line ∈ lines, line.id = content.1 ∧ line.sku = sku

instance (lines : List OrderLine) (sku : String) (cost : Int) : DecidablePred (AtCost lines sku cost) := fun content => by
  unfold AtCost
  exact inferInstance

/-- The purchase lines of an order that take from one quote for an article. -/
def linesAt (tenant order : Uuid) (lines : List OrderLine) (sku : String) (quote : Quote) (db : Store) : List PurchaseLine :=
  (db.purchaseOrders.rows.filter fun row =>
      row.tenantId = tenant ∧ row.channelOrderId = order ∧ row.supplierId = quote.2).flatMap fun purchase =>
    (linesOf tenant purchase.id db).filter fun row => AtCost lines sku quote.1 (lineContent row)

/-- No quote is asked for more than it has. -/
def Covered (tenant order : Uuid) (options : Mapping) (lines : List OrderLine) (db : Store) : Prop :=
  ∀ sku quote, linesAt tenant order lines sku quote db ≠ [] → ∃ available, Offered options sku quote available ∧
    ((linesAt tenant order lines sku quote db).map (·.quantity)).sum ≤ available

/-- The lines for an article that have the quote as their cheapest. -/
def contenders (options : Mapping) (lines : List OrderLine) (sku : String) (quote : Quote) : List OrderLine :=
  lines.filter fun line => line.sku = sku ∧ cheapest options line = .ok (some quote)

/-- The lines that have a quote as their cheapest need no more than it has, together. -/
def Spared (options : Mapping) (lines : List OrderLine) : Prop :=
  ∀ sku quote, contenders options lines sku quote ≠ [] → ∃ available, Offered options sku quote available ∧
    ((contenders options lines sku quote).map (·.quantity)).sum ≤ available

theorem select_cheapest {options : Mapping} {lines : List OrderLine} {selected : List Selection}
    (chosen : select options lines = .ok (.ok selected)) :
    ∀ selection ∈ selected, cheapest options selection.line = .ok (some (selection.cost, selection.supplier)) := by
  induction lines generalizing selected with
  | nil =>
    cases chosen
    exact fun _ member => absurd member List.not_mem_nil
  | cons line rest ih =>
    simp only [select, bind, Except.bind] at chosen
    split at chosen
    · cases chosen
    · next quoted =>
      split at chosen
      · cases chosen
      · split at chosen
        · cases chosen
        · next rest_chosen =>
          split at chosen
          · cases chosen
          · next others =>
            cases chosen
            intro selection member
            rcases List.mem_cons.mp member with rfl | later
            · exact quoted
            · exact ih rest_chosen selection later

/-- A selection takes from a quote what the contenders for it need. -/
theorem contenders_selected {options : Mapping} {lines : List OrderLine} {selected : List Selection}
    (chosen : select options lines = .ok (.ok selected)) (distinct : (lines.map (·.id)).Nodup) (sku : String) (quote : Quote) :
    contenders options lines sku quote = ((selected.filter (·.supplier = quote.2)).filter
      fun selection => AtCost lines sku quote.1 selection.content).map (·.line) := by
  have covered := select_lines chosen
  have least := select_cheapest chosen
  rw [List.filter_filter, contenders]
  nth_rewrite 1 [← covered]
  rw [List.filter_map]
  congr 1
  apply List.filter_congr
  intro selection member
  have listed : selection.line ∈ lines := covered ▸ List.mem_map_of_mem member
  have article : (∃ line ∈ lines, line.id = selection.line.id ∧ line.sku = sku) ↔ selection.line.sku = sku := by
    constructor
    · rintro ⟨line, line_member, same, named⟩
      cases List.inj_on_of_nodup_map distinct line_member listed same
      exact named
    · exact fun named => ⟨selection.line, listed, rfl, named⟩
  simp only [Function.comp_apply, AtCost, Selection.content, article, least selection member, Except.ok.injEq,
    Option.some.injEq, Prod.ext_iff, Bool.decide_and]
  rw [Bool.and_left_comm, Bool.and_assoc]

theorem filter_own {α β : Type} [DecidableEq β] (name : α → β) {items : List α} (distinct : (items.map name).Nodup)
    {item : α} (member : item ∈ items) : items.filter (fun other => name other = name item) = [item] := by
  induction items with
  | nil => cases member
  | cons first rest ih =>
    obtain ⟨absent, apart⟩ := List.nodup_cons.mp distinct
    rcases List.mem_cons.mp member with rfl | later
    · have others : rest.filter (fun other => name other = name item) = [] := by
        apply List.filter_eq_nil_iff.mpr
        intro other there same
        exact absent (of_decide_eq_true same ▸ List.mem_map_of_mem there)
      simp [others]
    · have different : name first ≠ name item := fun same => absent (same ▸ List.mem_map_of_mem later)
      simp [different, ih apart later]

/-- The purchase orders of an order that had none are those of its routing. -/
theorem purchased_from {tenant order : Uuid} {selected : List Selection} {purchases : List SupplierPurchaseOrder}
    (purchased : Purchased tenant order selected (suppliers selected) s purchases t)
    (unplaced : ∀ row ∈ s.db.purchaseOrders.rows, row.tenantId = tenant → row.channelOrderId ≠ order) (supplier : String) :
    (t.db.purchaseOrders.rows.filter fun row =>
        row.tenantId = tenant ∧ row.channelOrderId = order ∧ row.supplierId = supplier) =
      purchases.filter fun row => row.supplierId = supplier := by
  have older : (s.db.purchaseOrders.rows.filter fun row =>
      row.tenantId = tenant ∧ row.channelOrderId = order ∧ row.supplierId = supplier) = [] := by
    apply List.filter_eq_nil_iff.mpr
    intro row member own
    exact unplaced row member (of_decide_eq_true own).1 (of_decide_eq_true own).2.1
  rw [purchased.rows, List.filter_append, older, List.nil_append]
  apply List.filter_congr
  intro row member
  have bought := purchased.bought row member
  simp [bought.of_tenant, bought.of_order]

theorem linesAt_purchased {tenant order : Uuid} {selected : List Selection} {purchases : List SupplierPurchaseOrder}
    (purchased : Purchased tenant order selected (suppliers selected) s purchases t)
    (unplaced : ∀ row ∈ s.db.purchaseOrders.rows, row.tenantId = tenant → row.channelOrderId ≠ order)
    (lines : List OrderLine) (sku : String) (quote : Quote) :
    (linesAt tenant order lines sku quote t.db).map lineContent = ((selected.filter (·.supplier = quote.2)).filter
      fun selection => AtCost lines sku quote.1 selection.content).map Selection.content := by
  rw [linesAt, purchased_from purchased unplaced]
  have distinct : (purchases.map (·.supplierId)).Nodup := by
    rw [purchased.suppliers]
    exact suppliers_nodup selected
  by_cases used : ∃ purchase ∈ purchases, purchase.supplierId = quote.2
  · obtain ⟨purchase, member, named⟩ := used
    have own := filter_own (·.supplierId) distinct member
    rw [named] at own
    have contents := (purchased.bought purchase member).lines
    rw [named] at contents
    rw [own, List.flatMap_singleton]
    have filtered := congrArg (List.filter fun content => AtCost lines sku quote.1 content) contents
    rw [List.filter_map, List.filter_map] at filtered
    exact filtered
  · have none : purchases.filter (fun row => row.supplierId = quote.2) = [] := by
      apply List.filter_eq_nil_iff.mpr
      exact fun purchase member same => used ⟨purchase, member, of_decide_eq_true same⟩
    have unselected : selected.filter (·.supplier = quote.2) = [] := by
      apply List.filter_eq_nil_iff.mpr
      intro selection member same
      have listed := mem_suppliers.mpr ⟨selection, member, of_decide_eq_true same⟩
      rw [← purchased.suppliers] at listed
      exact used (List.mem_map.mp listed)
    rw [none, unselected]
    rfl

/-- A routing takes from every quote what the lines that have it as their cheapest need. -/
theorem linesAt_quantities {tenant order : Uuid} {options : Mapping} {lines : List OrderLine} {selected : List Selection}
    {purchases : List SupplierPurchaseOrder}
    (purchased : Purchased tenant order selected (suppliers selected) s purchases t)
    (unplaced : ∀ row ∈ s.db.purchaseOrders.rows, row.tenantId = tenant → row.channelOrderId ≠ order)
    (chosen : select options lines = .ok (.ok selected)) (distinct : (lines.map (·.id)).Nodup) (sku : String) (quote : Quote) :
    (linesAt tenant order lines sku quote t.db).map (·.quantity) =
      (contenders options lines sku quote).map (·.quantity) := by
  have contents := congrArg (List.map fun content : Uuid × Int × Int => content.2.1)
    (linesAt_purchased purchased unplaced lines sku quote)
  rw [List.map_map, List.map_map] at contents
  rw [contenders_selected chosen distinct, List.map_map]
  exact contents

/-- Of an order without purchase orders, a routing that returns covers what it takes exactly when some line has no
feasible quote, so that nothing is taken, or the lines with one cheapest quote need no more than it has. -/
theorem routing_covered_iff (env : Env) (calls : List (RoutingCall env)) (context : TenantContext) (order : Uuid)
    (supplierOptions : Mapping) (expectedOrderVersion : Int) (result : List SupplierPurchaseOrder) (t : Session Store) :
    let reached := final (Routing.step env) Execution.newSession calls
    let lines := orderLinesOf context.tenantId order reached.db
    (∀ row ∈ reached.db.purchaseOrders.rows, row.tenantId = context.tenantId → row.channelOrderId ≠ order) →
    (proposeRouting env context order supplierOptions expectedOrderVersion).run reached = (.ok result, t) →
    (Covered context.tenantId order supplierOptions lines t.db ↔
      (∃ line ∈ lines, ∀ quote, ¬ Feasible supplierOptions line quote) ∨ Spared supplierOptions lines) := by
  intro reached lines unplaced ran
  have sound : Sound reached := run_sound_routing calls
  -- routed before, which `unplaced` excludes; without a supplier for some line; or line by line
  rcases proposeRouting_ok ran with ⟨some, -, listed⟩ | ⟨-, selected, chosen, routing⟩
  · refine absurd (listed.trans (List.filter_eq_nil_iff.mpr ?_)) some
    intro row member own
    exact unplaced row member (of_decide_eq_true own).1 (of_decide_eq_true own).2
  · cases selected with
    | error sku =>
      obtain ⟨-, current, event, -, written⟩ := failRouting_ok routing
      obtain ⟨line, member, -, infeasible⟩ := select_error chosen
      refine iff_of_true ?_ (.inl ⟨line, member, infeasible⟩)
      intro sku quote taken
      refine absurd ?_ taken
      have none : (t.db.purchaseOrders.rows.filter fun row =>
          row.tenantId = context.tenantId ∧ row.channelOrderId = order ∧ row.supplierId = quote.2) = [] := by
        rw [written]
        apply List.filter_eq_nil_iff.mpr
        intro row row_member own
        exact unplaced row row_member (of_decide_eq_true own).1 (of_decide_eq_true own).2.1
      rw [linesAt, none]
      rfl
    | ok selected =>
      simp only [routeSelected, bind_eq_ok, now_eq_ok] at routing
      obtain ⟨now, read, ⟨-, rfl⟩, committing⟩ := routing
      have drawn : Drawn { reached with reads := reached.reads + 1 } := sound.drawn.later rfl rfl (Nat.le_refl _)
      obtain ⟨-, -, -, -, purchased⟩ := commitRouting_ok drawn (sound.bound.free unplaced) unplaced committing
      have deliverable : ¬ ∃ line ∈ lines, ∀ quote, ¬ Feasible supplierOptions line quote := by
        rintro ⟨line, member, infeasible⟩
        rw [show lines = _ from (select_lines chosen).symm] at member
        obtain ⟨selection, selected_member, rfl⟩ := List.mem_map.mp member
        exact infeasible _ (select_chosen chosen selection selected_member).1
      rw [or_iff_right deliverable]
      have quantities := linesAt_quantities purchased unplaced chosen (orderLinesOf_nodup _ _ _)
      -- a quote is ordered from exactly where some line has chosen it
      have taken : ∀ sku quote, linesAt context.tenantId order lines sku quote t.db ≠ [] ↔
          contenders supplierOptions lines sku quote ≠ [] := by
        intro sku quote
        have same := congrArg List.length (quantities sku quote)
        rw [List.length_map, List.length_map] at same
        rw [ne_eq, ne_eq, ← List.length_eq_zero_iff, ← List.length_eq_zero_iff, same]
      unfold Covered Spared
      refine forall_congr' fun sku => forall_congr' fun quote => ?_
      rw [taken, quantities sku quote]

/-! An order with two lines for one article, of which the supplier has a single piece. -/

def twinLine : OrderLine := { soldLine with id := 102 }

def twinCalls : List (RoutingCall idleEnv) :=
  soldCalls ++ [.elsewhere (saveOrderLine twinLine) (settles_of_frame (keeps_write fun _ => rfl))
    (steady_of_keeps (keeps_write fun _ => rfl))]

def scarceOffers : Mapping := [("sku", .list [
  .dict [("supplier_id", .text "supplier"), ("unit_cost_minor", .int 5), ("available_quantity", .int 1)]])]

theorem routing_covered_twins :
    let reached := final (Routing.step idleEnv) Execution.newSession twinCalls
    let ran := (proposeRouting idleEnv Execution.demoMaster 100 scarceOffers 1).run reached
    let lines := orderLinesOf Execution.demoMaster.tenantId 100 reached.db
    Covered Execution.demoMaster.tenantId 100 scarceOffers lines ran.2.db ↔
      (∃ line ∈ lines, ∀ quote, ¬ Feasible scarceOffers line quote) ∨ Spared scarceOffers lines := by
  have none : (final (Routing.step idleEnv) Execution.newSession twinCalls).db.purchaseOrders.rows.isEmpty = true := by
    decide +kernel
  have returned : ((proposeRouting idleEnv Execution.demoMaster 100 scarceOffers 1).run
      (final (Routing.step idleEnv) Execution.newSession twinCalls)).1.toOption.isSome = true := by
    decide +kernel
  have covered := routing_covered_iff idleEnv twinCalls Execution.demoMaster 100 scarceOffers 1
  dsimp only at covered ⊢
  revert covered none returned
  generalize final (Routing.step idleEnv) Execution.newSession twinCalls = reached
  intro none returned covered
  generalize (proposeRouting idleEnv Execution.demoMaster 100 scarceOffers 1).run reached = ran at returned covered ⊢
  obtain ⟨why | result, t⟩ := ran
  · cases returned
  · apply covered result t _ rfl
    intro row member
    rw [List.isEmpty_iff.mp none] at member
    cases member

/-- The routing returns, and takes two pieces from a quote of one. -/
theorem quote_overcommitted :
    let reached := final (Routing.step idleEnv) Execution.newSession twinCalls
    let ran := (proposeRouting idleEnv Execution.demoMaster 100 scarceOffers 1).run reached
    ran.1.toOption.isSome = true ∧
      ¬ Covered Execution.demoMaster.tenantId 100 scarceOffers
        (orderLinesOf Execution.demoMaster.tenantId 100 reached.db) ran.2.db := by
  have returned : ((proposeRouting idleEnv Execution.demoMaster 100 scarceOffers 1).run
      (final (Routing.step idleEnv) Execution.newSession twinCalls)).1.toOption.isSome = true := by
    decide +kernel
  have taken : (linesAt Execution.demoMaster.tenantId 100
      (orderLinesOf Execution.demoMaster.tenantId 100 (final (Routing.step idleEnv) Execution.newSession twinCalls).db)
      "sku" (5, "supplier") ((proposeRouting idleEnv Execution.demoMaster 100 scarceOffers 1).run
        (final (Routing.step idleEnv) Execution.newSession twinCalls)).2.db).map (·.quantity) = [1, 1] := by
    decide +kernel
  dsimp only
  revert returned taken
  generalize final (Routing.step idleEnv) Execution.newSession twinCalls = reached
  generalize (proposeRouting idleEnv Execution.demoMaster 100 scarceOffers 1).run reached = ran
  intro returned taken
  refine ⟨returned, fun covered => ?_⟩
  obtain ⟨available, ⟨items, offer, listed, member, -, -, stocked⟩, enough⟩ := covered "sku" (5, "supplier") (by
    intro none
    rw [none] at taken
    cases taken)
  rw [taken] at enough
  cases listed
  cases List.mem_singleton.mp member
  cases stocked
  exact absurd enough (by decide)

end AiStore.Purchasing
