import AiStore.Approval.Backing
import AiStore.Purchasing.Frames

/-! When a decision on a purchase order goes through: the key of its event has to be free. -/

set_option autoImplicit false

namespace AiStore.Purchasing

open Library (Session Table final)
open Library.Txn Failure Repository Service Approvals
open Relation (ReflTransGen)

variable {env : Env} {s t u : Session Store} {context : TenantContext}

/-! ## Changes -/

theorem change_allows : Allows env (Change env) where
  idles := change_idles
  frame {_ body} keeps s := by
    have same := keeps s
    simp only [besideOrders, Prod.mk.injEq] at same
    exact .single (.other (quiet_of_same same.1 same.2.1 (body.advances s)))
  save _ _ _ := .other (quiet_of_same rfl rfl ⟨Nat.le_refl _, Nat.le_refl _⟩)
  publish silent _ s _ t ran := by
    rw [publish_eq_ok] at ran
    obtain ⟨-, rfl⟩ := ran
    exact .single (.other (quiet_published rfl rfl (Nat.le_refl _) (Nat.lt_succ_self _) (Nat.le_refl _) silent))
  request s result t ran := by
    obtain ⟨command, approval⟩ := result
    exact requestApproval_changes ran
  decide s result t ran := by
    obtain ⟨approval, expired⟩ := result
    exact decideWithin_changes ran

/-! ## What binds the key of a decision -/

/-- The key of a decision is bound by its event only, and every command is for a purchase. -/
structure Told (s : Session Store) : Prop where
  events : EventsDrawn s
  decided : ∀ tenant approval, s.db.outbox.outboxIdempotency.get? (tenant, .approvalDecided approval) ≠ none →
    decisions s.db.journal approval ≠ 0
  purchases : ∀ row ∈ s.db.commands.rows, row.kind = .purchase

abbrev Tells (s t : Session Store) : Prop := Told s → Told t

theorem Told.of_same (told : Told s) (outbox : t.db.outbox = s.db.outbox) (uuids : s.uuids ≤ t.uuids)
    (purchases : ∀ row ∈ t.db.commands.rows, row.kind = .purchase) : Told t where
  events := told.events.later outbox uuids
  decided tenant approval := by
    rw [Store.journal, outbox]
    exact told.decided tenant approval
  purchases := purchases

/-- An event under the key of a decision has to be that decision. -/
theorem Told.published (told : Told s) {id tenant aggregate : Uuid} {topic : String} {payload : Mapping} {key : OutboxKey}
    {createdAt : Timestamp} (written : t.db.outbox = published s.db.outbox
      (.pendingEvent (.uuid id) (.uuid tenant) topic (.uuid aggregate) payload key createdAt))
    (new : s.uuids ≤ id) (used : id < t.uuids)
    (named : ∀ approval, key = .approvalDecided approval → topic = "approval.decided")
    (purchases : ∀ row ∈ t.db.commands.rows, row.kind = .purchase) : Told t where
  events := told.events.published new used written
  purchases := purchases
  decided other approval bound := by
    have journal := told.events.journal_published new written
    rw [journal, decisions, told_append]
    by_cases same : key = .approvalDecided approval
    · have about : About "approval.decided" (.approvalDecided approval) (noticeOf tenant topic aggregate payload key) :=
        ⟨named approval same, same⟩
      have counted : Approvals.told [noticeOf tenant topic aggregate payload key] "approval.decided"
          (.approvalDecided approval) = 1 := by
        simp [Approvals.told, about]
      rw [counted]
      exact Nat.succ_ne_zero _
    · rw [written] at bound
      have older : s.db.outbox.outboxIdempotency.get? (other, .approvalDecided approval) ≠ none := by
        intro free
        apply bound
        exact (Library.Dict.get?_set_of_ne _ (fun equal => same (congrArg Prod.snd equal)) _).trans free
      exact Nat.ne_of_gt (Nat.lt_of_lt_of_le (Nat.pos_of_ne_zero (told.decided other approval older)) (Nat.le_add_right _ _))

theorem commands_put {table : Table Command.key} {row : Command} (kind : row.kind = .purchase)
    (purchases : ∀ other ∈ table.rows, other.kind = .purchase) : ∀ other ∈ (table.put row).rows, other.kind = .purchase :=
  Table.forall_put purchases kind

theorem request_tells {targetRef : TargetRef} {payload : Mapping} {idempotencyKey : CommandKey}
    {policyVersion targetVersion : Int} {command : Command} {approval : Approval}
    (ran : (requestApproval env context .purchase targetRef payload idempotencyKey policyVersion targetVersion).run s =
      (.ok (command, approval), t)) : Tells s t := by
  intro told
  obtain ⟨-, -, middle, creating, outcome⟩ := requestApproval_ok ran
  have between : Told middle := by
    obtain ⟨-, created | replayed⟩ := createCommand_ok creating
    · have kind : command.kind = .purchase := congrArg Command.kind created.command_eq
      obtain ⟨_, rfl⟩ := created.written
      apply told.published rfl (Nat.le_add_right _ 4) (Nat.lt_succ_self _) (by simp)
      exact commands_put kind told.purchases
    · rw [replayed.unchanged]
      exact told
  rcases outcome with attached | ⟨_, -, -, -, rfl⟩
  · obtain ⟨_, -, -, -, -, rfl⟩ := attached.written
    exact between.of_same rfl (Nat.le_refl _) between.purchases
  · exact between

theorem decide_tells {commandId : Uuid} {approve expired : Bool} {reason : String} {result : Approval}
    (ran : (decideWithin env context commandId approve reason).run s = (.ok (result, expired), t)) : Tells s t := by
  intro told
  obtain ⟨-, -, command, approval, undecided, ⟨-, -, late⟩ | ⟨-, -, timely⟩⟩ := decideWithin_ok ran
  · have kind := told.purchases command (Table.mem_of_get? undecided.command_found)
    obtain ⟨_, rfl⟩ := late.written
    apply told.published rfl (Nat.le_add_right _ 2) (Nat.lt_succ_self _) (by simp)
    exact commands_put kind told.purchases
  · have kind := told.purchases command (Table.mem_of_get? undecided.command_found)
    obtain ⟨_, rfl⟩ := timely.written
    apply told.published rfl (Nat.le_add_right _ 2) (Nat.lt_succ_self _) (fun _ _ => rfl)
    exact commands_put kind told.purchases

theorem tells_allows : Allows env Tells where
  idles s t same advances told := told.of_same (congrArg Store.outbox same) advances.2 (by rw [same]; exact told.purchases)
  frame {_ body} keeps s := by
    have same := keeps s
    simp only [besideOrders, serviceTables, lifecycleTables, Prod.mk.injEq] at same
    apply ReflTransGen.single
    intro told
    apply told.of_same same.2.1 (body.advances s).2
    rw [same.1.1.1]
    exact told.purchases
  save _ _ _ told := told.of_same rfl (Nat.le_refl _) told.purchases
  publish _ other s _ t ran := by
    rw [publish_eq_ok] at ran
    obtain ⟨-, rfl⟩ := ran
    apply ReflTransGen.single
    intro told
    exact told.published rfl (Nat.le_refl _) (Nat.lt_succ_self _) (fun approval same => absurd same (other approval))
      told.purchases
  request s result t ran := by
    obtain ⟨command, approval⟩ := result
    exact .single (request_tells ran)
  decide s result t ran := by
    obtain ⟨approval, expired⟩ := result
    exact .single (decide_tells ran)

/-! ## Runs -/

/-- A call on purchases and their approvals, or any operation that decides on none and asks for no other. -/
inductive PurchaseCall (env : Env) where
  | proposeRouting (context : TenantContext) (order : Uuid) (supplierOptions : Mapping) (expectedOrderVersion : Int)
  | approveDemoPo (context : TenantContext) (purchaseId : Uuid) (approve : Bool) (reason : String)
  | decide (context : TenantContext) (commandId : Uuid) (approve : Bool) (reason : String)
  | regenerateDemoPo (context : TenantContext) (purchaseId : Uuid) (reason : String) (expectedPoVersion : Int)
  | expireDueApprovals (tenant : Uuid) (limit : Int)
  | reconcileDemoPo (context : TenantContext) (purchaseId : Uuid) (response : Mapping)
  | requestDemoCancel (context : TenantContext) (orderId : Uuid) (reason : String) (expectedOrderVersion : Int)
  | elsewhere (operation : Op Unit) (changes : Settles (Change env) operation) (tells : Settles Tells operation)

namespace Purchase

def perform : PurchaseCall env → Op Unit
  | .proposeRouting context order supplierOptions expectedOrderVersion =>
      quietly (Purchasing.proposeRouting env context order supplierOptions expectedOrderVersion)
  | .approveDemoPo context purchaseId approve reason =>
      quietly (Purchasing.approveDemoPo env context purchaseId approve reason)
  | .decide context commandId approve reason => quietly (Purchasing.decide env context commandId approve reason)
  | .regenerateDemoPo context purchaseId reason expectedPoVersion =>
      quietly (Purchasing.regenerateDemoPo env context purchaseId reason expectedPoVersion)
  | .expireDueApprovals tenant limit => quietly (Service.expireDueApprovals env tenant limit)
  | .reconcileDemoPo context purchaseId response => quietly (Purchasing.reconcileDemoPo env context purchaseId response)
  | .requestDemoCancel context orderId reason expectedOrderVersion =>
      quietly (Purchasing.requestDemoCancel env context orderId reason expectedOrderVersion)
  | .elsewhere operation _ _ => operation

def step (env : Env) (call : PurchaseCall env) (s : Session Store) : Except Failure Unit × Session Store :=
  (perform call).run s

end Purchase

theorem expireDue_tells {tenant : Uuid} {now : Timestamp} {due : Approval} {result : Option Uuid}
    (ran : (expireDue env tenant now due).run s = (.ok result, t)) : Tells s t := by
  intro told
  rcases expireDue_ok ran with rfl | ⟨command, approval, command_found, -, -, -, -, ranOut⟩
  · exact told
  · have kind := told.purchases command (Table.mem_of_get? command_found)
    obtain ⟨_, rfl⟩ := ranOut.written
    apply told.published rfl (Nat.le_add_right _ 2) (Nat.lt_succ_self _) (by simp)
    exact commands_put kind told.purchases

/-- Expiry is made of steps that a relation allows if it allows the expiry of one approval. -/
theorem expireDueApprovals_settles {R : Session Store → Session Store → Prop} (allows : Allows env R)
    (each : ∀ tenant now due, Follows R (expireDue env tenant now due)) {tenant : Uuid} {limit : Int} :
    Settles R (expireDueApprovals env tenant limit) := by
  refine (allows.frame (keeps_ensure _ _)).bind fun _ => (allows.frame keeps_now).bind fun now => ?_
  apply Follows.transaction allows.idles
  apply (allows.follows (keeps_query _)).bind
  intro due
  apply Follows.bind (Follows.collect due fun approval => each tenant now approval)
  intro expired
  exact allows.pure _

/-- Along a call, a relation holds that allows the steps of purchases and the expiry of approvals. -/
theorem purchase_settles {R : Session Store → Session Store → Prop} (allows : Allows env R)
    (each : ∀ tenant now due, Follows R (expireDue env tenant now due)) (call : PurchaseCall env)
    (elsewhere : ∀ operation changes tells, call = .elsewhere operation changes tells → Settles R operation) :
    Settles R (Purchase.perform call) := by
  cases call with
  | proposeRouting => exact quietly_settles (proposeRouting_settles allows)
  | approveDemoPo => exact quietly_settles (approveDemoPo_settles allows)
  | decide => exact quietly_settles (decide_settles allows)
  | regenerateDemoPo => exact quietly_settles (regenerateDemoPo_settles allows)
  | expireDueApprovals => exact quietly_settles (expireDueApprovals_settles allows each)
  | reconcileDemoPo => exact quietly_settles (reconcileDemoPo_settles allows)
  | requestDemoCancel => exact quietly_settles (requestDemoCancel_settles allows)
  | elsewhere operation changes tells => exact elsewhere operation changes tells rfl

theorem tells_of_steps (steps : ReflTransGen Tells s t) (told : Told s) : Told t := by
  induction steps with
  | refl => exact told
  | tail _ last ih => exact last ih

/-- What the runs of purchases reach. -/
structure Traded (env : Env) (s : Session Store) : Prop where
  history : ReflTransGen (Evolution env) Execution.newSession s
  told : Told s

theorem traded_newSession : Traded env Execution.newSession where
  history := .refl
  told := ⟨fun _ member => absurd member List.not_mem_nil, fun _ _ bound => absurd rfl bound,
    fun _ member => absurd member List.not_mem_nil⟩

theorem purchase_changes (call : PurchaseCall env) (s : Session Store) :
    ReflTransGen (Change env) s (Purchase.step env call s).2 :=
  purchase_settles change_allows (fun _ _ _ _ _ _ ran => expireDue_changes ran) call (fun _ changes _ _ => changes) s

theorem step_traded (traded : Traded env s) (call : PurchaseCall env) : Traded env (Purchase.step env call s).2 := by
  have allows : Allows env Tells := tells_allows
  have tells : ReflTransGen Tells s (Purchase.step env call s).2 :=
    purchase_settles allows (fun _ _ _ _ _ _ ran => .single (expireDue_tells ran)) call
      (fun _ _ tells _ => tells) s
  exact ⟨traded.history.trans (ReflTransGen.mono (fun _ _ change => .inl change) _ _ (purchase_changes call s)),
    tells_of_steps tells traded.told⟩

theorem run_traded (calls : List (PurchaseCall env)) :
    Traded env (final (Purchase.step env) Execution.newSession calls) :=
  Library.final_invariant (Traded env) traded_newSession fun call _ _ traded => step_traded traded call

/-! ## Decisions that are due -/

section

variable {purchaseId : Uuid} {purchase : SupplierPurchaseOrder} {command : Command} {approval : Approval}
  {approve : Bool} {reason : String}

theorem routedPayload_session {tenant : Uuid} {order : ChannelOrder} {payload : Mapping}
    (ran : (routedPayload tenant purchase order).run s = (.ok payload, t)) : t = s := by
  simp only [routedPayload, purchaseLinesFor, routingFor, bind_eq_ok, query_eq_ok, orderLinesFor_eq_ok, ofExcept_eq_ok,
    pure_eq_ok] at ran
  obtain ⟨_, _, ⟨-, rfl⟩, _, _, ⟨_, _, ⟨-, -, rfl⟩, -, rfl⟩, _, _, ⟨-, -, rfl⟩, _, _, ⟨-, rfl⟩, -, rfl⟩ := ran
  rfl

/-- What `_verify_po` has found. -/
theorem verifyPo_ok {tenant : Uuid} (ran : (verifyPo env tenant purchaseId).run s = (.ok (purchase, command), t)) :
    t = s ∧ s.db.purchaseOrders.get? (tenant, purchaseId) = some purchase ∧ purchase.status = .approvalPending ∧
      purchase.approvalCommandId = some command.id ∧ s.db.commands.get? (tenant, command.id) = some command ∧
      command.state = .awaitingApproval ∧ ∃ approval, s.db.approvals.get? (tenant, command.id) = some approval ∧ approval.state = .pending := by
  simp only [verifyPo, bind_eq_ok, getPurchaseOrder_eq_ok, ensure_eq_ok, fetch_eq_ok, getChannelOrder_eq_ok,
    getCommand_eq_ok, getApprovalForCommand_eq_ok, getApprovalIntent, query_eq_ok, pure_eq_ok, Prod.mk.injEq] at ran
  obtain ⟨found, _, ⟨purchase_found, rfl⟩, _, _, ⟨pending, rfl⟩, commandId, _, ⟨linked, rfl⟩, order, _, ⟨-, rfl⟩, _, _,
    ⟨-, rfl⟩, expected, middle, reading, other, _, ⟨command_found, rfl⟩, approval, _, ⟨-, approval_found, rfl⟩, _, _,
    ⟨⟨-, awaiting, waiting⟩, rfl⟩, _, _, ⟨-, rfl⟩, _, _, ⟨-, rfl⟩, _, _, ⟨-, rfl⟩, ⟨rfl, rfl⟩, rfl⟩ := ran
  obtain rfl := routedPayload_session reading
  have named := congrArg Prod.snd (Table.key_of_get? command_found)
  change command.id = commandId at named
  subst named
  exact ⟨rfl, purchase_found, pending, linked, command_found, awaiting, approval, approval_found, waiting⟩

theorem settle_returns {now : Timestamp}
    (free : s.db.outbox.outboxIdempotency.get? (.uuid context.tenantId, .approvalDecided approval.id) = none) :
    ∃ result t, (settle env context command approval approve reason now).run s = (.ok result, t) := by
  simp only [settle, bind_eq_ok, auditBy_eq_ok, saveApproval, saveCommand, write_eq_ok, publish_eq_ok, pure_eq_ok]
  exact ⟨_, _, (), _, rfl, (), _, rfl, (), _, rfl, (), _, ⟨free, rfl⟩, rfl, rfl⟩

/-- A decision in time on a waiting approval goes through if the key of its event is free. -/
theorem decideWithin_returns {commandId : Uuid} (undecided : Undecided context s commandId env command approval)
    (reasoned : ¬ blank reason ∧ reason.length ≤ 1000) (timely : env.clock s.reads < approval.expiresAt)
    (free : s.db.outbox.outboxIdempotency.get? (.uuid context.tenantId, .approvalDecided approval.id) = none) :
    ∃ result t, (decideWithin env context commandId approve reason).run s = (.ok (result, false), t) := by
  have settling : ∃ result t, (settle env context command approval approve reason (env.clock s.reads)).run
      { s with reads := s.reads + 1 } = (.ok result, t) := settle_returns free
  obtain ⟨result, t, settled⟩ := settling
  refine ⟨result, t, ?_⟩
  simp only [decideWithin, bind_eq_ok, ensure_eq_ok, getCommand_eq_ok, getApprovalForCommand_eq_ok, require_eq_ok,
    getApprovalIntent, query_eq_ok, checkAttached_eq_ok, now_eq_ok]
  refine ⟨(), s, ⟨reasoned, rfl⟩, command, s, ⟨undecided.command_found, rfl⟩, approval, s,
    ⟨⟨command, undecided.command_found⟩, undecided.approval_found, rfl⟩, (), s, ⟨undecided.authorized, rfl⟩, _, s,
    ⟨rfl, rfl⟩, (), s, ⟨undecided.intent_matches, rfl⟩, (), s, ⟨undecided.pending, rfl⟩, _, _, ⟨rfl, rfl⟩, ?_⟩
  rw [if_neg ((Library.Timestamp.not_le _ _).mpr timely), bind_eq_ok]
  exact ⟨result, t, settled, (pure_eq_ok _ _ _ _).mpr ⟨rfl, rfl⟩⟩

/-- In a state that purchases reach, the intent of a pending approval still matches it. -/
theorem Traded.intent_matches (traded : Traded env s) {key : Uuid × Uuid} {intent : ApprovalIntent}
    (command_found : s.db.commands.get? key = some command) (approval_found : s.db.approvals.get? key = some approval)
    (intent_found : s.db.approvalIntents.get? key = some intent) : IntentMatches env command approval intent := by
  obtain ⟨before, after, older, first, start, evolution, rest, -, -, older_found, first_found, -, strict, digest⟩ :=
    (history_attached traded.history key intent intent_found).exists_attachment
  obtain ⟨lockstep, -⟩ := evolutions_lockstep lockstep_newSession start
  obtain ⟨-, onward⟩ := evolutions_lockstep lockstep (ReflTransGen.head evolution rest)
  obtain ⟨later, later_found, kind, target, payload⟩ := onward.commands key older older_found
  obtain ⟨last, last_found, request, -⟩ := onward.approvals key first first_found
  cases Option.some.inj (later_found.symm.trans command_found)
  cases Option.some.inj (last_found.symm.trans approval_found)
  rw [← kind, ← target, ← payload, ← request.evidence, ← request.expiresAt] at strict digest
  exact ⟨strict, digest⟩

/-- And the key of its decision is free. -/
theorem Traded.decision_free (traded : Traded env s) {key : Uuid × Uuid} (found : s.db.approvals.get? key = some approval)
    (pending : approval.state = .pending) (tenant : Ident) :
    s.db.outbox.outboxIdempotency.get? (tenant, .approvalDecided approval.id) = none := by
  obtain ⟨lockstep, -⟩ := evolutions_lockstep lockstep_newSession traded.history
  have recorded := lockstep.recorded approval (Table.mem_of_get? found)
  by_contra bound
  apply traded.told.decided tenant approval.id bound
  rw [recorded.decided, recorded.undecided (.inl pending)]
  rfl

/-- A purchase order that `_verify_po` accepts, with a reason and a member to decide in time. -/
structure Due (env : Env) (s : Session Store) (context : TenantContext) (purchaseId : Uuid) (reason : String)
    (purchase : SupplierPurchaseOrder) (command : Command) : Prop where
  verified : (verifyPo env context.tenantId purchaseId).run s = (.ok (purchase, command), s)
  authorized : Authorized s.db context .approvePurchase
  reasoned : ¬ blank reason ∧ reason.length ≤ 1000
  unexpired : ∀ approval, s.db.approvals.get? (context.tenantId, command.id) = some approval →
    env.clock s.reads < approval.expiresAt

/-- The key of the event that tells of the decision. -/
def decisionKey (context : TenantContext) (purchaseId : Uuid) (approve : Bool) : Ident × OutboxKey :=
  (.uuid context.tenantId, .po purchaseId (if approve then .approved else .cancelled))

theorem projectDecision_returns_iff (found : s.db.purchaseOrders.get? purchase.key = some purchase) :
    (∃ decided t, (projectDecision env context purchase command approve).run s = (.ok decided, t)) ↔
      s.db.outbox.outboxIdempotency.get? (decisionKey context purchase.id approve) = none := by
  simp only [projectDecision, saveInTurn, bind_eq_ok, updatePurchaseOrder_eq_ok, now_eq_ok, auditBy_eq_ok, publish_eq_ok,
    pure_eq_ok]
  constructor
  · rintro ⟨_, _, _, _, ⟨_, -, -, -, rfl⟩, _, _, ⟨rfl, rfl⟩, _, _, rfl, _, _, ⟨free, -⟩, -, -⟩
    exact free
  · intro free
    exact ⟨_, _, (), _, ⟨purchase, found, rfl, rfl, rfl⟩, _, _, ⟨rfl, rfl⟩, (), _, rfl, (), _, ⟨free, rfl⟩, rfl, rfl⟩

theorem approveWithin_returns_iff (traded : Traded env s)
    (due : Due env s context purchaseId reason purchase command) :
    (∃ decided t, (approveWithin env context purchaseId approve reason).run s = (.ok (decided, false), t)) ↔
      s.db.outbox.outboxIdempotency.get? (decisionKey context purchaseId approve) = none := by
  obtain ⟨-, purchase_found, status, linked, command_found, -, approval, approval_found, pending⟩ := verifyPo_ok due.verified
  have kind := traded.told.purchases command (Table.mem_of_get? command_found)
  have named : purchase.key = (context.tenantId, purchaseId) := Table.key_of_get? purchase_found
  have undecided : Undecided context s command.id env command approval := by
    refine ⟨command_found, approval_found, ?_, ?_, pending⟩
    · rw [kind]
      exact due.authorized
    · intro intent intent_found
      exact traded.intent_matches command_found approval_found intent_found
  have timely := due.unexpired approval approval_found
  have returning : ∃ result t, (decideWithin env context command.id approve reason).run s = (.ok (result, false), t) :=
    decideWithin_returns undecided due.reasoned timely (traded.decision_free approval_found pending _)
  obtain ⟨result, middle, deciding⟩ := returning
  -- the decision itself touches neither the purchase order nor its key
  have kept : middle.db.purchaseOrders.get? purchase.key = some purchase := by
    have same : controlledTables middle.db = controlledTables s.db := decideWithin_keeps (fun _ _ _ _ _ => rfl) deciding
    simp only [controlledTables, Prod.mk.injEq] at same
    rw [same.2.2, named]
    exact purchase_found
  have key_kept : middle.db.outbox.outboxIdempotency.get? (decisionKey context purchaseId approve) =
      s.db.outbox.outboxIdempotency.get? (decisionKey context purchaseId approve) := by
    obtain ⟨-, -, _, _, -, ⟨expired, -⟩ | ⟨-, -, settled⟩⟩ := decideWithin_ok deciding
    · cases expired
    · obtain ⟨_, rfl⟩ := settled.written
      exact Library.Dict.get?_set_of_ne _ (fun same => by cases congrArg Prod.snd same) _
  have projecting : (∃ decided t, (projectDecision env context purchase command approve).run middle = (.ok decided, t)) ↔
      middle.db.outbox.outboxIdempotency.get? (decisionKey context purchase.id approve) = none :=
    projectDecision_returns_iff kept
  have id_eq : purchase.id = purchaseId := congrArg Prod.snd named
  rw [id_eq, key_kept] at projecting
  rw [← projecting]
  constructor
  · rintro ⟨decided, t, ran⟩
    simp only [approveWithin, bind_eq_ok, require_eq_ok] at ran
    obtain ⟨_, _, ⟨-, rfl⟩, ⟨other, about⟩, _, verifying, ⟨answer, expired⟩, last, decides, ran⟩ := ran
    cases due.verified.symm.trans verifying
    cases deciding.symm.trans decides
    simp only [Bool.false_eq_true, if_false, bind_eq_ok, pure_eq_ok] at ran
    obtain ⟨written, after, project, -⟩ := ran
    exact ⟨written, after, project⟩
  · rintro ⟨decided, t, ran⟩
    refine ⟨decided, t, ?_⟩
    simp only [approveWithin, bind_eq_ok, require_eq_ok]
    refine ⟨(), s, ⟨due.authorized, rfl⟩, _, _, due.verified, _, _, deciding, ?_⟩
    simp only [Bool.false_eq_true, if_false, bind_eq_ok, pure_eq_ok]
    exact ⟨decided, t, ran, rfl, rfl⟩

/-- A decision on a purchase order that awaits it goes through exactly when no event has the key of its direction:
in every state that purchases reach, whatever decisions, expiries and renewals led there. -/
theorem decision_goes_through_iff (env : Env) (calls : List (PurchaseCall env)) (context : TenantContext)
    (purchaseId : Uuid) (approve : Bool) (reason : String) (purchase : SupplierPurchaseOrder) (command : Command)
    (due : Due env (final (Purchase.step env) Execution.newSession calls) context purchaseId reason purchase command) :
    let reached := final (Purchase.step env) Execution.newSession calls
    (∃ decided, ((approveDemoPo env context purchaseId approve reason).run reached).1 = .ok decided) ↔
      reached.db.outbox.outboxIdempotency.get? (decisionKey context purchaseId approve) = none := by
  intro reached
  -- the checks before the transaction pass, so the call returns where its transaction does
  rw [← approveWithin_returns_iff (run_traded calls) due]
  constructor
  · rintro ⟨decided, returned⟩
    rcases ran : (approveDemoPo env context purchaseId approve reason).run reached with ⟨outcome, t⟩
    rw [ran] at returned
    cases returned
    simp only [approveDemoPo, bind_eq_ok, require_eq_ok, ensure_eq_ok, transaction_eq_ok, pure_eq_ok] at ran
    obtain ⟨_, _, ⟨-, rfl⟩, _, _, ⟨-, rfl⟩, ⟨other, expired⟩, middle, ran, _, _, ⟨rfl, -⟩, -⟩ := ran
    exact ⟨other, middle, ran⟩
  · rintro ⟨decided, t, ran⟩
    refine ⟨decided, ?_⟩
    have returned : (approveDemoPo env context purchaseId approve reason).run reached = (.ok decided, t) := by
      simp only [approveDemoPo, bind_eq_ok, require_eq_ok, ensure_eq_ok, transaction_eq_ok, pure_eq_ok]
      exact ⟨(), _, ⟨due.authorized, rfl⟩, (), _, ⟨due.reasoned.1, rfl⟩, _, _, ran, (), _, ⟨rfl, rfl⟩, rfl, rfl⟩
    rw [returned]

end

/-! ## A second rejection -/

/-- What keeps the outbox and the tables of the service changes no command and tells of no decision. -/
theorem settles_tells_of_frame {operation : Op Unit} (frame : Keeps (fun db => (serviceTables db, db.outbox)) operation) :
    Settles Tells operation := by
  intro s
  have same := Prod.mk.inj (frame s)
  have commands := congrArg (fun tables => tables.1.1) same.1
  apply ReflTransGen.single
  intro told
  apply told.of_same same.2 (operation.advances s).2
  have rows : (operation.run s).2.db.commands = s.db.commands := commands
  rw [rows]
  exact told.purchases

def outside {env : Env} (operation : Op Unit) (frame : Keeps (fun db => (serviceTables db, db.outbox)) operation) :
    PurchaseCall env := .elsewhere operation (settles_of_frame frame) (settles_tells_of_frame frame)

def soldOrder : ChannelOrder where
  id := 100
  tenantId := 0
  channelId := "shop"
  externalOrderKey := "order-1"
  payloadRef := "payload"
  currency := "KRW"
  totalMinor := 10
  status := .accepted
  receivedAt := .utc 0
  idempotencyKey := "order-1"

def soldLine : OrderLine where
  id := 101
  tenantId := 0
  channelOrderId := 100
  sku := "sku"
  quantity := 1
  unitMinor := 10

def saveSold : Op Unit := do
  let _ ← saveChannelOrder soldOrder
  saveOrderLine soldLine

theorem keeps_saveSold {υ : Type} {view : Store → υ}
    (unread : ∀ db orders lines, view { db with channelOrders := orders, orderLines := lines } = view db) :
    Keeps view saveSold :=
  (keeps_saveChannelOrder (fun db orders => unread db orders db.orderLines) _).bind fun _ =>
    keeps_write fun db => unread db db.channelOrders _

/-- An order is routed to its one supplier. -/
def routedSale : List (PurchaseCall idleEnv) :=
  [outside (do let _ ← bootstrapTenant idleEnv "Demo" "master@demo.test")
      ((keeps_bootstrapTenant fun _ _ _ _ _ => rfl).bind fun _ => keeps_pure _),
   outside saveSold (keeps_saveSold fun _ _ _ => rfl),
   .proposeRouting Execution.demoMaster 100 [("sku", .list [.dict [("supplier_id", .text "supplier"),
     ("unit_cost_minor", .int 5), ("available_quantity", .int 3)]])] 1]

/-- The purchase order is rejected and then renewed. -/
def renewedSale : List (PurchaseCall idleEnv) :=
  routedSale ++ [.approveDemoPo Execution.demoMaster 10 false "no", .regenerateDemoPo Execution.demoMaster 10 "again" 2]

theorem renewedSale_due : ∃ purchase command, Due idleEnv (final (Purchase.step idleEnv) Execution.newSession renewedSale)
    Execution.demoMaster 10 "no" purchase command := by
  have checked : ((verifyPo idleEnv Execution.demoMaster.tenantId 10).run
      (final (Purchase.step idleEnv) Execution.newSession renewedSale)).1.isOk = true := by
    decide +kernel
  have member : ((require Execution.demoMaster .approvePurchase).run
      (final (Purchase.step idleEnv) Execution.newSession renewedSale)).1.isOk = true := by
    decide +kernel
  have live : ∀ approval ∈ (final (Purchase.step idleEnv) Execution.newSession renewedSale).db.approvals.rows,
      Library.Timestamp.utc 0 < approval.expiresAt := by
    decide +kernel
  rcases verifying : (verifyPo idleEnv Execution.demoMaster.tenantId 10).run
      (final (Purchase.step idleEnv) Execution.newSession renewedSale) with ⟨_ | ⟨purchase, command⟩, t⟩
  · rw [verifying] at checked
    cases checked
  · rcases requiring : (require Execution.demoMaster .approvePurchase).run
        (final (Purchase.step idleEnv) Execution.newSession renewedSale) with ⟨_ | _, u⟩
    · rw [requiring] at member
      cases member
    · obtain ⟨same, -⟩ := verifyPo_ok verifying
      rw [same] at verifying
      refine ⟨purchase, command, verifying, (require_eq_ok.mp requiring).1, by decide, ?_⟩
      intro approval found
      exact live approval (Table.mem_of_get? found)

/-- Nobody has approved it yet, so that goes through. -/
theorem decision_goes_through_renewed : ∃ purchase command,
    Due idleEnv (final (Purchase.step idleEnv) Execution.newSession renewedSale) Execution.demoMaster 10 "no" purchase
      command ∧
    ∃ decided, ((approveDemoPo idleEnv Execution.demoMaster 10 true "no").run
      (final (Purchase.step idleEnv) Execution.newSession renewedSale)).1 = .ok decided := by
  obtain ⟨purchase, command, due⟩ := renewedSale_due
  exact ⟨purchase, command, due, (decision_goes_through_iff idleEnv renewedSale Execution.demoMaster 10 true "no" purchase
    command due).mpr (by decide +kernel)⟩

/-- It cannot be rejected a second time. -/
theorem second_rejection_raises : ∃ purchase command,
    Due idleEnv (final (Purchase.step idleEnv) Execution.newSession renewedSale) Execution.demoMaster 10 "no" purchase
      command ∧
    ¬ ∃ decided, ((approveDemoPo idleEnv Execution.demoMaster 10 false "no").run
      (final (Purchase.step idleEnv) Execution.newSession renewedSale)).1 = .ok decided := by
  obtain ⟨purchase, command, due⟩ := renewedSale_due
  have raised : ((approveDemoPo idleEnv Execution.demoMaster 10 false "no").run
      (final (Purchase.step idleEnv) Execution.newSession renewedSale)).1.isOk = false := by
    decide +kernel
  refine ⟨purchase, command, due, ?_⟩
  rintro ⟨decided, returned⟩
  rw [returned] at raised
  cases raised

end AiStore.Purchasing
