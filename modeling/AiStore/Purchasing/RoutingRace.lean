import AiStore.Purchasing.RoutedOrders

/-! Routings of one order that overlap: each reads the order, its purchase orders and its lines before the transaction that
commits it, and anything may run in between. -/

set_option autoImplicit false

namespace AiStore.Purchasing

open Library (Session Table final)
open Library.Txn Failure Repository Service Approvals

/-! ## A call in steps -/

structure Proposal where
  context : TenantContext
  order : Uuid
  supplierOptions : Mapping
  expectedOrderVersion : Int

/-- How far a call has come. -/
inductive Proposing where
  | called
  | permitted
  | checked
  | unrouted
  | chosen (selected : Except String (List Selection))
  | answered (outcome : Except Failure (List SupplierPurchaseOrder))

section

variable (env : Env) (call : Proposal)

/-- The next step: a read of the repository, or the transaction. -/
def nextProposing : Proposing → Op Proposing
  | .called => do
      require call.context .tenantAdmin
      pure .permitted
  | .permitted => do
      let current ← getChannelOrder call.context.tenantId call.order
      ensure (current.version = call.expectedOrderVersion) (conflictError "order version conflict")
      ensure (current.status = .accepted ∨ current.status = .routing ∨ current.status = .poPending)
        (conflictError "order cannot be routed")
      pure .checked
  | .checked => do
      let existing ← purchaseOrdersFor call.context.tenantId call.order
      if existing ≠ [] then pure (.answered (.ok existing)) else pure .unrouted
  | .unrouted => do
      let lines ← orderLinesFor call.context.tenantId call.order
      let selected ← ofExcept (select call.supplierOptions lines)
      pure (.chosen selected)
  | .chosen selected => do
      let result ← routeSelected env call.context call.order call.expectedOrderVersion selected
      pure (.answered (.ok result))
  | .answered outcome => pure (.answered outcome)

/-- A step that raises ends the call. -/
def advanceProposing (phase : Proposing) (s : Session Store) : Proposing × Session Store :=
  match (nextProposing env call phase).run s with
  | (.ok next, t) => (next, t)
  | (.error why, t) => (.answered (.error why), t)

def linesLeft : Op (List SupplierPurchaseOrder) := do
  let lines ← orderLinesFor call.context.tenantId call.order
  let selected ← ofExcept (select call.supplierOptions lines)
  routeSelected env call.context call.order call.expectedOrderVersion selected

def purchasesLeft : Op (List SupplierPurchaseOrder) := do
  let existing ← purchaseOrdersFor call.context.tenantId call.order
  if existing ≠ [] then pure existing else linesLeft env call

/-- What is left of the call. -/
def proposingLeft : Proposing → Op (List SupplierPurchaseOrder)
  | .called => proposeRouting env call.context call.order call.supplierOptions call.expectedOrderVersion
  | .permitted => do
      let current ← getChannelOrder call.context.tenantId call.order
      ensure (current.version = call.expectedOrderVersion) (conflictError "order version conflict")
      ensure (current.status = .accepted ∨ current.status = .routing ∨ current.status = .poPending)
        (conflictError "order cannot be routed")
      purchasesLeft env call
  | .checked => purchasesLeft env call
  | .unrouted => linesLeft env call
  | .chosen selected => routeSelected env call.context call.order call.expectedOrderVersion selected
  | .answered outcome => ofExcept outcome

end

def Proposing.steps : Proposing → Nat
  | called => 5
  | permitted => 4
  | checked => 3
  | unrouted => 2
  | chosen _ => 1
  | answered _ => 0

variable {env : Env} {call : Proposal} {phase : Proposing} {s t : Session Store}

/-- What is left of a call is its next step and what is left then. -/
theorem proposingLeft_step (phase : Proposing) (s : Session Store) :
    (proposingLeft env call phase).run s = (nextProposing env call phase >>= proposingLeft env call).run s := by
  cases phase with
  | called =>
    simp only [proposingLeft, nextProposing, proposeRouting, run_bind]
    rcases (require call.context .tenantAdmin).run s with ⟨_ | _, t⟩ <;> rfl
  | permitted =>
    simp only [proposingLeft, nextProposing, run_bind]
    rcases (getChannelOrder call.context.tenantId call.order).run s with ⟨_ | current, t⟩
    · rfl
    · dsimp only
      rcases (ensure (current.version = call.expectedOrderVersion) (conflictError "order version conflict") : Op Unit).run t
        with ⟨_ | _, u⟩
      · rfl
      · dsimp only
        rcases (ensure (current.status = .accepted ∨ current.status = .routing ∨ current.status = .poPending)
          (conflictError "order cannot be routed") : Op Unit).run u with ⟨_ | _, v⟩ <;> rfl
  | checked =>
    simp only [proposingLeft, purchasesLeft, nextProposing, run_bind]
    rcases (purchaseOrdersFor call.context.tenantId call.order).run s with ⟨_ | existing, t⟩
    · rfl
    · dsimp only
      split <;> rfl
  | unrouted =>
    simp only [proposingLeft, linesLeft, nextProposing, run_bind]
    rcases (orderLinesFor call.context.tenantId call.order).run s with ⟨_ | lines, t⟩
    · rfl
    · dsimp only
      rcases (ofExcept (select call.supplierOptions lines) : Op _).run t with ⟨_ | _, u⟩ <;> rfl
  | chosen selected =>
    simp only [proposingLeft, nextProposing, run_bind]
    rcases (routeSelected env call.context call.order call.expectedOrderVersion selected).run s with ⟨_ | _, t⟩ <;> rfl
  | answered outcome => rfl

theorem proposingLeft_advance (phase : Proposing) (s : Session Store) :
    (proposingLeft env call (advanceProposing env call phase s).1).run (advanceProposing env call phase s).2 =
      (proposingLeft env call phase).run s := by
  rw [proposingLeft_step phase s, run_bind, advanceProposing]
  rcases (nextProposing env call phase).run s with ⟨why | next, t⟩ <;> rfl

theorem steps_advance (phase : Proposing) (s : Session Store) :
    (advanceProposing env call phase s).1.steps ≤ phase.steps - 1 := by
  rcases ran : (nextProposing env call phase).run s with ⟨why | next, t⟩
  · simp [advanceProposing, ran, Proposing.steps]
  · simp only [advanceProposing, ran]
    cases phase with
    | called =>
      simp only [nextProposing, bind_eq_ok, pure_eq_ok] at ran
      obtain ⟨_, _, -, rfl, -⟩ := ran
      exact Nat.le_refl 4
    | permitted =>
      simp only [nextProposing, bind_eq_ok, pure_eq_ok] at ran
      obtain ⟨_, _, -, _, _, -, _, _, -, rfl, -⟩ := ran
      exact Nat.le_refl 3
    | checked =>
      simp only [nextProposing, bind_eq_ok] at ran
      obtain ⟨existing, _, -, ran⟩ := ran
      split at ran
      · cases ((pure_eq_ok _ _ _ _).mp ran).1
        exact Nat.zero_le 2
      · cases ((pure_eq_ok _ _ _ _).mp ran).1
        exact Nat.le_refl 2
    | unrouted =>
      simp only [nextProposing, bind_eq_ok, pure_eq_ok] at ran
      obtain ⟨_, _, -, _, _, -, rfl, -⟩ := ran
      exact Nat.le_refl 1
    | chosen selected =>
      simp only [nextProposing, bind_eq_ok, pure_eq_ok] at ran
      obtain ⟨_, _, -, rfl, -⟩ := ran
      exact Nat.le_refl 0
    | answered outcome =>
      cases ((pure_eq_ok _ _ _ _).mp ran).1
      exact Nat.le_refl 0

/-- A call that nothing interrupts is the routing. -/
theorem advanced_proposeRouting (s : Session Store) :
    let routed := (proposeRouting env call.context call.order call.supplierOptions call.expectedOrderVersion).run s
    (fun state => advanceProposing env call state.1 state.2)^[5] (.called, s) = (.answered routed.1, routed.2) := by
  have whole : ∀ (count : Nat) (phase : Proposing) (s : Session Store), phase.steps ≤ count →
      (fun state => advanceProposing env call state.1 state.2)^[count] (phase, s) =
        (.answered ((proposingLeft env call phase).run s).1, ((proposingLeft env call phase).run s).2) := by
    intro count
    induction count with
    | zero =>
      intro phase s done
      cases phase with
      | answered outcome => cases outcome <;> rfl
      | _ => simp [Proposing.steps] at done
    | succ count ih =>
      intro phase s left
      have fewer : (advanceProposing env call phase s).1.steps ≤ phase.steps - 1 := steps_advance phase s
      have fits : (advanceProposing env call phase s).1.steps ≤ count := by omega
      rw [Function.iterate_succ_apply, ih _ _ fits, proposingLeft_advance]
  exact whole 5 .called s (Nat.le_refl 5)

/-! ## What a step changes -/

/-- Induction on the suppliers that are left. -/
theorem purchases_orders {context : TenantContext} {order : Uuid} {targetVersion : Nat} {now : Timestamp}
    {selected : List Selection} {remaining : List String} {result : List SupplierPurchaseOrder}
    (ran : (collect remaining (purchaseFrom env context order targetVersion now selected)).run s = (.ok result, t)) :
    t.db.channelOrders = s.db.channelOrders := by
  induction remaining generalizing s result with
  | nil =>
    obtain ⟨-, rfl⟩ := (collect_nil_eq_ok _ _ _ _).mp ran
    rfl
  | cons supplier rest ih =>
    obtain ⟨first, middle, others, saving, continuing, -⟩ := (collect_cons_eq_ok _ _ _ _ _ _).mp ran
    exact (ih continuing).trans ((keeps_purchaseFrom fun _ _ _ _ _ _ _ _ _ _ => rfl).of_run saving)

/-- The order moves on from the version that was expected. -/
structure Advanced (tenant order : Uuid) (version : Int) (before after : Store) : Prop where
  row : ∃ current advanced, before.channelOrders.get? (tenant, order) = some current ∧ (current.version : Int) = version ∧
    advanced.key = current.key ∧ advanced.version = current.version + 1 ∧
      after.channelOrders = before.channelOrders.put advanced

theorem routeSelected_advanced {context : TenantContext} {order : Uuid} {expectedOrderVersion : Int}
    {selected : Except String (List Selection)} {result : List SupplierPurchaseOrder}
    (ran : (routeSelected env context order expectedOrderVersion selected).run s = (.ok result, t)) :
    Advanced context.tenantId order expectedOrderVersion s.db t.db := by
  cases selected with
  | error sku =>
    simp only [routeSelected, failRouting, transaction_eq_ok, bind_eq_ok, auditBy_eq_ok, pure_eq_ok] at ran
    obtain ⟨advanced, middle, advancing, _, _, rfl, -, rfl⟩ := ran
    obtain ⟨current, found, version, same, written⟩ := advanceOrder_ok advancing
    have moved : middle.db.channelOrders = s.db.channelOrders.put advanced := by rw [written]
    exact ⟨current, advanced, found, version, by rw [same]; rfl, by rw [same], moved⟩
  | ok selected =>
    simp only [routeSelected, commitRouting, bind_eq_ok, now_eq_ok, transaction_eq_ok, auditBy_eq_ok, pure_eq_ok] at ran
    obtain ⟨_, _, ⟨-, rfl⟩, advanced, middle, advancing, _, routed, routing, _, last, purchasing, _, _, rfl, -, rfl⟩ := ran
    obtain ⟨current, found, version, same, written⟩ := advanceOrder_ok advancing
    have moved : middle.db.channelOrders = s.db.channelOrders.put advanced := by rw [written]
    have lines : Keeps Store.channelOrders (each selected (routeLine context.tenantId)) :=
      Keeps.each _ fun selection => keeps_routeLine (fun _ _ _ => rfl) selection
    exact ⟨current, advanced, found, version, by rw [same]; rfl, by rw [same],
      (purchases_orders purchasing).trans ((lines.of_run routing).trans moved)⟩

theorem Advanced.ages {tenant order : Uuid} {version : Int} {before after : Store}
    (advanced : Advanced tenant order version before after) : Ages before after := by
  obtain ⟨current, row, found, -, named, newer, written⟩ := advanced.row
  have keyed : before.channelOrders.get? row.key = some current := by
    rw [named, Table.key_of_get? found]
    exact found
  exact .put keyed (newer ▸ Nat.le_succ current.version) written

/-- Behind a commit the order has passed the version that was expected. -/
theorem Advanced.passed {tenant order : Uuid} {version : Int} {before after : Store}
    (advanced : Advanced tenant order version before after) :
    ∃ row, after.channelOrders.get? (tenant, order) = some row ∧ version < row.version := by
  obtain ⟨current, row, found, same, named, newer, written⟩ := advanced.row
  refine ⟨row, ?_, ?_⟩
  · rw [written, ← Table.key_of_get? found, ← named]
    exact Table.get?_put_self _ row
  · rw [newer]
    omega

/-- A step of a call changes nothing, or it is the commit. -/
theorem advance_changes (env : Env) (call : Proposal) (phase : Proposing) (s : Session Store) :
    (advanceProposing env call phase s).2.db = s.db ∨
      Advanced call.context.tenantId call.order call.expectedOrderVersion s.db (advanceProposing env call phase s).2.db := by
  have reads : ∀ {phase}, Keeps id (nextProposing env call phase) → (advanceProposing env call phase s).2.db = s.db := by
    intro phase keeps
    have same := keeps s
    unfold advanceProposing
    rcases ran : (nextProposing env call phase).run s with ⟨_ | _, t⟩ <;> rw [ran] at same <;> exact same
  cases phase with
  | called => exact .inl (reads ((keeps_require _).bind fun _ => keeps_pure _))
  | permitted =>
    refine .inl (reads ((keeps_getChannelOrder _ _).bind fun _ => (keeps_ensure _ _).bind fun _ => ?_))
    exact (keeps_ensure _ _).bind fun _ => keeps_pure _
  | checked =>
    refine .inl (reads ((keeps_purchaseOrdersFor _ _).bind fun existing => ?_))
    split
    · exact keeps_pure _
    · exact keeps_pure _
  | unrouted =>
    exact .inl (reads ((keeps_orderLinesFor _ _).bind fun _ => (keeps_ofExcept _).bind fun _ => keeps_pure _))
  | chosen selected =>
    simp only [advanceProposing, nextProposing, run_bind]
    rcases ran : (routeSelected env call.context call.order call.expectedOrderVersion selected).run s with ⟨why | result, t⟩
    · have unwinds : Unwinds id (routeSelected env call.context call.order call.expectedOrderVersion selected) := by
        cases selected with
        | error sku => exact unwinds_transaction _
        | ok selected => exact Unwinds.bind keeps_now fun _ => unwinds_transaction _
      have same : t.db = s.db := unwinds s why t ran
      exact .inl same
    · exact .inr (routeSelected_advanced ran)
  | answered outcome => exact .inl (reads (keeps_pure _))

theorem Advanced.changes {tenant order : Uuid} {version : Int} {before after : Store}
    (advanced : Advanced tenant order version before after) : after ≠ before := by
  intro same
  obtain ⟨row, found, newer⟩ := advanced.passed
  obtain ⟨current, -, current_found, current_version, -⟩ := advanced.row
  rw [same] at found
  cases Option.some.inj (found.symm.trans current_found)
  omega

/-- A call that returns without a change returns the purchase orders that the order has. -/
theorem answered_unchanged {result : List SupplierPurchaseOrder} (pending : ∀ outcome, phase ≠ .answered outcome)
    (answered : (advanceProposing env call phase s).1 = .answered (.ok result))
    (unchanged : (advanceProposing env call phase s).2.db = s.db) :
    result ≠ [] ∧ result = s.db.purchaseOrders.rows.filter fun row =>
      row.tenantId = call.context.tenantId ∧ row.channelOrderId = call.order := by
  rcases ran : (nextProposing env call phase).run s with ⟨why | next, t⟩
  · simp [advanceProposing, ran] at answered
  · simp only [advanceProposing, ran] at answered unchanged
    subst answered
    cases phase with
    | called =>
      simp only [nextProposing, bind_eq_ok, pure_eq_ok] at ran
      obtain ⟨_, _, -, impossible, -⟩ := ran
      cases impossible
    | permitted =>
      simp only [nextProposing, bind_eq_ok, pure_eq_ok] at ran
      obtain ⟨_, _, -, _, _, -, _, _, -, impossible, -⟩ := ran
      cases impossible
    | checked =>
      simp only [nextProposing, bind_eq_ok, purchaseOrdersFor_eq_ok] at ran
      obtain ⟨existing, _, ⟨-, listed, rfl⟩, ran⟩ := ran
      split at ran
      · next some =>
        cases ((pure_eq_ok _ _ _ _).mp ran).1
        exact ⟨some, listed.symm⟩
      · cases ((pure_eq_ok _ _ _ _).mp ran).1
    | unrouted =>
      simp only [nextProposing, bind_eq_ok, pure_eq_ok] at ran
      obtain ⟨_, _, -, _, _, -, impossible, -⟩ := ran
      cases impossible
    | chosen selected =>
      simp only [nextProposing, bind_eq_ok, pure_eq_ok] at ran
      obtain ⟨_, _, routing, -, rfl⟩ := ran
      exact absurd unchanged (routeSelected_advanced routing).changes
    | answered outcome => exact absurd rfl (pending outcome)

/-! ## Overlapping calls -/

/-- Whose turn it is: a caller takes its next step, or some other call runs. -/
inductive RaceTurn (env : Env) where
  | caller (index : Nat)
  | other (call : RoutingCall env)

namespace Race

def step (env : Env) (callers : Nat → Proposal) :
    RaceTurn env → (Nat → Proposing) × Session Store → Unit × ((Nat → Proposing) × Session Store)
  | .caller index, (phases, s) =>
      let advanced := advanceProposing env (callers index) (phases index) s
      ((), (Function.update phases index advanced.1, advanced.2))
  | .other call, (phases, s) => ((), (phases, (Routing.step env call s).2))

end Race

theorem proposeRouting_ages {context : TenantContext} {order : Uuid} {supplierOptions : Mapping} {expectedOrderVersion : Int}
    (s : Session Store) : Ages s.db ((proposeRouting env context order supplierOptions expectedOrderVersion).run s).2.db := by
  rcases ran : (proposeRouting env context order supplierOptions expectedOrderVersion).run s with ⟨why | result, t⟩
  · have same : t.db = s.db := proposeRouting_unwinds s why t ran
    rw [same]
    exact .refl _
  · rcases proposeRouting_ok ran with ⟨-, rfl, -⟩ | ⟨-, selected, -, routing⟩
    · exact .refl _
    · exact (routeSelected_advanced routing).ages

theorem step_ages (call : RoutingCall env) (s : Session Store) : Ages s.db (Routing.step env call s).2.db := by
  have still : ∀ {α : Type} {operation : Op α}, Obeys Steady operation → Ages s.db ((quietly operation).run s).2.db := by
    intro α operation steady
    rw [quietly_session]
    exact (steady s).ages
  cases call with
  | ingestOrder => exact still ingestOrder_steady
  | proposeRouting context order supplierOptions expectedOrderVersion =>
    change Ages s.db ((quietly _).run s).2.db
    rw [quietly_session]
    exact proposeRouting_ages s
  | approveDemoPo => exact still approveDemoPo_steady
  | decide => exact still decide_steady
  | expireDueApprovals => exact still expireDueApprovals_steady
  | submitDemoPo => exact still submitDemoPo_steady
  | regenerateDemoPo => exact still regenerateDemoPo_steady
  | reconcileDemoPo => exact still reconcileDemoPo_steady
  | requestDemoCancel => exact still requestDemoCancel_steady
  | elsewhere operation changes steady => exact (steady s).ages

section

variable {callers : Nat → Proposal} {state : (Nat → Proposing) × Session Store}

theorem race_ages (turn : RaceTurn env) : Ages state.2.db (Race.step env callers turn state).2.2.db := by
  obtain ⟨phases, s⟩ := state
  cases turn with
  | caller index =>
    rcases advance_changes env (callers index) (phases index) s with same | advanced
    · exact .of_same (congrArg _ same)
    · exact advanced.ages
  | other call => exact step_ages call s

theorem races_age (turns : List (RaceTurn env)) : Ages state.2.db (final (Race.step env callers) state turns).2.db := by
  induction turns generalizing state with
  | nil => exact .refl _
  | cons turn rest ih => exact (race_ages turn).trans ih

/-- Of callers with the same order and version, one at most makes a change: behind it the version has passed. -/
theorem one_commits {tenant order : Uuid} {version : Int}
    (alike : ∀ index, (callers index).context.tenantId = tenant ∧ (callers index).order = order ∧
      (callers index).expectedOrderVersion = version) (between : List (RaceTurn env)) (first second : Nat) :
    let after := (Race.step env callers (.caller first) state).2
    let later := final (Race.step env callers) after between
    after.2.db ≠ state.2.db → (Race.step env callers (.caller second) later).2.2.db = later.2.db := by
  intro after later changed
  obtain ⟨tenant_first, order_first, version_first⟩ := alike first
  obtain ⟨tenant_second, order_second, version_second⟩ := alike second
  rcases advance_changes env (callers first) (state.1 first) state.2 with same | advanced
  · exact absurd same changed
  · rcases advance_changes env (callers second) (later.1 second) later.2 with same | again
    · exact same
    · rw [tenant_first, order_first, version_first] at advanced
      rw [tenant_second, order_second, version_second] at again
      obtain ⟨row, found, passed⟩ := advanced.passed
      have aged : Ages after.2.db later.2.db := races_age between
      obtain ⟨now, now_found, newer⟩ := aged _ row found
      obtain ⟨current, -, current_found, current_version, -⟩ := again.row
      cases Option.some.inj (now_found.symm.trans current_found)
      omega

end

theorem founded_keeps {υ : Type} {view : Store → υ} (unread : ∀ db tenants users memberships events,
    view { db with tenants := tenants, users := users, memberships := memberships, auditEvents := events } = view db) :
    Keeps view (quietly (bootstrapTenant idleEnv "Demo" "master@demo.test")) :=
  (keeps_bootstrapTenant unread).bind fun _ => keeps_pure _

theorem sold_steady : Obeys Steady (transaction saveSold) := by
  apply obeys_transaction_of_returning
  intro s result t ran
  simp only [saveSold, bind_eq_ok] at ran
  obtain ⟨⟨order, existed⟩, middle, saving, lines⟩ := ran
  have kept : Keeps routedTables (saveOrderLine soldLine) := keeps_write fun _ => rfl
  have last : Steady middle.db t.db := .of_same (kept.of_run lines)
  exact (saveChannelOrder_steady saving).trans last

/-- A tenant and an order of its shop. -/
def soldCalls : List (RoutingCall idleEnv) :=
  [.elsewhere _ (settles_of_frame (founded_keeps fun _ _ _ _ _ => rfl)) (steady_of_keeps (founded_keeps fun _ _ _ _ _ => rfl)),
   .elsewhere _ (settles_of_frame (Keeps.transaction (keeps_saveSold fun _ _ _ => rfl))) sold_steady]

/-- Two suppliers offer the article, one at a lower price. -/
def soldOffers : Mapping := [("sku", .list [
  .dict [("supplier_id", .text "dear"), ("unit_cost_minor", .int 7), ("available_quantity", .int 3)],
  .dict [("supplier_id", .text "cheap"), ("unit_cost_minor", .int 5), ("available_quantity", .int 3)]])]

def soldCaller (_ : Nat) : Proposal := ⟨Execution.demoMaster, 100, soldOffers, 1⟩

/-- Two callers read the order and select, each before the other commits. -/
def bothChosen : List (RaceTurn idleEnv) :=
  [.caller 0, .caller 1, .caller 0, .caller 1, .caller 0, .caller 1, .caller 0, .caller 1]

def Proposing.returned : Proposing → Bool
  | answered (.ok _) => true
  | _ => false

/-- Behind the check of one caller the other runs to its end, and then the first one reads what it has bought. -/
def overtaken : List (RaceTurn idleEnv) :=
  [.caller 0, .caller 0, .caller 1, .caller 1, .caller 1, .caller 1, .caller 1, .caller 0]

end AiStore.Purchasing
