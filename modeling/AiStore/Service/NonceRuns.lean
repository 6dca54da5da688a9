import AiStore.Library.Preorder
import AiStore.Purchasing.Deciding
import AiStore.Service.MemberRuns

/-! Confirmation nonces under any interleaving of requests: each is spent at most once, by the request it is bound to. -/

set_option autoImplicit false

namespace AiStore.Service

open Library (Session Table Timestamp final)
open Library.Txn Failure Repository Purchasing

/-! ## Requests -/

def decideApprovalAuthenticated (env : BrowserEnv) (backend : Backend) (sessionToken : String) (approvalId : Uuid)
    (approve : Bool) (reason nonceToken : String) : Op Approval := do
  ensure (¬ blank reason ∧ reason.length ≤ 1000) (conflictError "invalid approval decision")
  let context ← authenticateBrowserSession env sessionToken
  -- a nonce that is spent stays spent if the decision is refused
  let commandId ← confirmDecision env backend context sessionToken approvalId nonceToken
  Purchasing.decide env.toEnv context commandId approve reason

inductive Request where
  | issue (sessionToken : String) (approvalId : Uuid) (ttl : Int)
  | decide (sessionToken : String) (approvalId : Uuid) (approve : Bool) (reason nonceToken : String)

/-- How far a request has come. -/
inductive Stage where
  | asked
  | authenticated (context : TenantContext)
  | issued (context : TenantContext) (nonce : Issued)
  | confirmed (context : TenantContext) (commandId : Uuid) (deciding : Deciding)
  | refused (why : Failure)

section

variable (env : BrowserEnv) (backend : Backend)

/-- The steps of a request before it decides. -/
def enter : Request → Stage → Op Stage
  | .issue sessionToken _ ttl, .asked => do
      ensure (30000000 ≤ ttl ∧ ttl ≤ minutes 10) (conflictError "invalid approval confirmation request")
      let context ← authenticateBrowserSession env sessionToken
      pure (.authenticated context)
  | .issue sessionToken approvalId ttl, .authenticated context => do
      let nonce ← issueNonceFor env context sessionToken approvalId ttl
      pure (.issued context nonce)
  | .decide sessionToken _ _ reason _, .asked => do
      ensure (¬ blank reason ∧ reason.length ≤ 1000) (conflictError "invalid approval decision")
      let context ← authenticateBrowserSession env sessionToken
      pure (.authenticated context)
  | .decide sessionToken approvalId _ _ nonceToken, .authenticated context => do
      let commandId ← confirmDecision env backend context sessionToken approvalId nonceToken
      pure (.confirmed context commandId .called)
  | _, stage => pure stage

def advance (s : Session Store) : Request → Stage → Stage × Session Store
  | .decide _ _ approve reason _, .confirmed context commandId deciding =>
      let resumed := resume env.toEnv ⟨context, commandId, approve, reason⟩ deciding s
      (.confirmed context commandId resumed.1, resumed.2)
  | request, stage => match (enter env backend request stage).run s with
      | (.ok next, t) => (next, t)
      | (.error why, t) => (.refused why, t)

/-- What is left of a request to decide. -/
def leftOf (sessionToken : String) (approvalId : Uuid) (approve : Bool) (reason nonceToken : String) : Stage → Op Approval
  | .asked => decideApprovalAuthenticated env backend sessionToken approvalId approve reason nonceToken
  | .authenticated context => do
      let commandId ← confirmDecision env backend context sessionToken approvalId nonceToken
      Purchasing.decide env.toEnv context commandId approve reason
  | .confirmed context commandId deciding => remaining env.toEnv ⟨context, commandId, approve, reason⟩ deciding
  | .issued _ _ => raise (conflictError "invalid approval decision")
  | .refused why => raise why

end

variable {env : BrowserEnv} {backend : Backend} {s t : Session Store}

/-- The steps of a request that nothing interrupts are the request. -/
theorem leftOf_advance (sessionToken : String) (approvalId : Uuid) (approve : Bool) (reason nonceToken : String)
    (stage : Stage) (s : Session Store) :
    let stepped := advance env backend s (.decide sessionToken approvalId approve reason nonceToken) stage
    (leftOf env backend sessionToken approvalId approve reason nonceToken stepped.1).run stepped.2 =
      (leftOf env backend sessionToken approvalId approve reason nonceToken stage).run s := by
  cases stage with
  | asked =>
    simp only [advance, enter, leftOf, decideApprovalAuthenticated, run_bind]
    rcases (ensure (¬ blank reason ∧ reason.length ≤ 1000) (conflictError "invalid approval decision") : Op Unit).run s
      with ⟨_ | _, t⟩
    · rfl
    · dsimp only
      rcases (authenticateBrowserSession env sessionToken).run t with ⟨_ | _, u⟩ <;> rfl
  | authenticated context =>
    simp only [advance, enter, leftOf, run_bind]
    rcases (confirmDecision env backend context sessionToken approvalId nonceToken).run s with ⟨_ | _, t⟩ <;> rfl
  | confirmed context commandId deciding => exact remaining_resume deciding s
  | issued context nonce => rfl
  | refused why => rfl

/-! ## What others may do -/

/-- In a zone that the clock keeps to, every approval runs out at a time of that zone. -/
def Dated (env : BrowserEnv) (before after : Store) : Prop :=
  ∀ zone, (∀ count, (env.clock count).offset = zone) → (∀ row ∈ before.approvals.rows, row.expiresAt.offset = zone) →
    ∀ row ∈ after.approvals.rows, row.expiresAt.offset = zone

/-- The nonces stay, and approvals run out at times of the clock. -/
structure Undisturbed (env : BrowserEnv) (before after : Store) : Prop where
  nonces : after.approvalConfirmationNonces = before.approvalConfirmationNonces
  dated : Dated env before after

instance (env : BrowserEnv) : Std.Refl (Undisturbed env) := ⟨fun _ => ⟨rfl, fun _ _ dated => dated⟩⟩

instance (env : BrowserEnv) : IsTrans Store (Undisturbed env) :=
  ⟨fun _ _ _ first second => ⟨second.nonces.trans first.nonces,
    fun zone clocked dated => second.dated zone clocked (first.dated zone clocked dated)⟩⟩

/-- The tables that a decision's bookkeeping leaves alone. -/
def nonceTables (db : Store) := (db.approvals, db.approvalConfirmationNonces)

theorem undisturbed_of_same {before after : Store} (same : nonceTables after = nonceTables before) :
    Undisturbed env before after := by
  obtain ⟨approvals, nonces⟩ := Prod.mk.inj same
  refine ⟨nonces, fun zone _ dated => ?_⟩
  rw [approvals]
  exact dated

theorem undisturbed_of_keeps {α : Type} {body : Op α} (keeps : Keeps nonceTables body) : Obeys (Undisturbed env) body :=
  fun s => undisturbed_of_same (keeps s)

/-- An approval that is written back with the time it had. -/
theorem undisturbed_put {before after : Store} {key : Uuid × Uuid} {approval row : Approval}
    (found : before.approvals.get? key = some approval) (approvals : after.approvals = before.approvals.put row)
    (expiresAt : row.expiresAt = approval.expiresAt)
    (nonces : after.approvalConfirmationNonces = before.approvalConfirmationNonces) : Undisturbed env before after := by
  refine ⟨nonces, fun zone _ dated => ?_⟩
  rw [approvals]
  apply Table.forall_put dated
  rw [expiresAt]
  exact dated approval (Table.mem_of_get? found)

section

variable {context : TenantContext} {commandId : Uuid} {approve expired : Bool} {reason : String}

theorem decideWithin_undisturbed {result : Approval}
    (ran : (decideWithin env.toEnv context commandId approve reason).run s = (.ok (result, expired), t)) :
    Undisturbed env s.db t.db := by
  obtain ⟨-, -, command, approval, undecided, ⟨-, -, late⟩ | ⟨-, -, timely⟩⟩ := decideWithin_ok ran
  · obtain ⟨_, rfl⟩ := late.written
    exact undisturbed_put undecided.approval_found rfl rfl rfl
  · obtain ⟨_, rfl⟩ := timely.written
    exact undisturbed_put undecided.approval_found rfl rfl rfl

theorem keeps_projectDecision {purchase : SupplierPurchaseOrder} {command : Command} :
    Keeps nonceTables (projectDecision env.toEnv context purchase command approve) := by
  have saved : ∀ row, Keeps nonceTables (saveInTurn row) := by
    intro row
    apply keeps_getPurchaseOrder _ _ |>.bind
    intro _
    exact (keeps_ensure _ _).bind fun _ => keeps_write fun _ => rfl
  apply (saved _).bind
  intro _
  apply keeps_now.bind
  intro _
  apply (keeps_auditBy fun _ _ => rfl).bind
  intro _
  exact (keeps_publish fun _ _ => rfl).bind fun _ => keeps_pure _

theorem approveWithin_undisturbed {purchase : Uuid} {row : SupplierPurchaseOrder}
    (ran : (approveWithin env.toEnv context purchase approve reason).run s = (.ok (row, expired), t)) :
    Undisturbed env s.db t.db := by
  simp only [approveWithin, bind_eq_ok, require_eq_ok] at ran
  obtain ⟨_, start, ⟨-, rfl⟩, ⟨verified, current⟩, _, verifying, ⟨result, late⟩, middle, deciding, ran⟩ := ran
  obtain ⟨rfl, -⟩ := verifyPo_ok verifying
  have decided : Undisturbed env _ middle.db := decideWithin_undisturbed deciding
  cases late with
  | true =>
    simp only [if_true, pure_eq_ok] at ran
    obtain ⟨-, rfl⟩ := ran
    exact decided
  | false =>
    simp only [Bool.false_eq_true, if_false, bind_eq_ok, pure_eq_ok] at ran
    obtain ⟨_, _, projecting, -, rfl⟩ := ran
    exact IsTrans.trans _ _ _ decided (undisturbed_of_same (keeps_projectDecision.of_run projecting))

end

theorem proceed_undisturbed (call : DecideCall) (phase : Deciding) :
    Obeys (Undisturbed env) (proceed env.toEnv call phase) := by
  cases phase with
  | called =>
    refine (keeps_getCommand _).caught.obeys.bind fun found => ?_
    cases found with
    | error why =>
      refine Obeys.bind (undisturbed_of_keeps ?_) fun _ => (keeps_raise _).obeys
      unfold reportBoundary
      split
      · apply Keeps.transaction
        intro s
        rfl
      · exact keeps_pure _
    | ok command => exact (keeps_pure _).obeys
  | found command => exact ((Approvals.keeps_linkedPurchases _ _ _).bind fun _ => keeps_pure _).obeys
  | linked command purchase =>
    cases purchase with
    | none =>
      refine Obeys.bind ?_ fun _ => (keeps_pure _).obeys
      refine Obeys.bind (obeys_transaction_of_returning fun _ _ _ ran => decideWithin_undisturbed ran) fun _ => ?_
      exact ((keeps_ensure _ _).bind fun _ => keeps_pure _).obeys
    | some purchase => exact ((keeps_require _).bind fun _ => (keeps_ensure _ _).bind fun _ => keeps_pure _).obeys
  | permitted command purchase =>
    refine Obeys.bind (obeys_transaction_of_returning fun _ _ _ ran => approveWithin_undisturbed ran) fun _ => ?_
    exact ((keeps_ensure _ _).bind fun _ => keeps_pure _).obeys
  | acted command => exact ((keeps_getApprovalForCommand _).bind fun _ => keeps_pure _).obeys
  | answered outcome => exact (keeps_pure _).obeys

theorem resume_undisturbed (call : DecideCall) (phase : Deciding) (s : Session Store) :
    Undisturbed env s.db (resume env.toEnv call phase s).2.db := by
  have obeys : Undisturbed env s.db ((proceed env.toEnv call phase).run s).2.db := proceed_undisturbed call phase s
  rw [resume]
  rcases ran : (proceed env.toEnv call phase).run s with ⟨_ | _, t⟩ <;> rw [ran] at obeys <;> exact obeys

/-! ## Nonces -/

/-- A nonce was spent by the request it is bound to, before it ran out. -/
structure Spent (env : BrowserEnv) (db : Store) (sessionToken : String) (tenant approval command : Uuid)
    (nonceToken : String) : Prop where
  spent : ∃ row time, db.approvalConfirmationNonces.get? (env.hexdigest nonceToken) = some row ∧
    row.sessionDigest = env.hexdigest sessionToken ∧ row.tenantId = tenant ∧ row.approvalId = approval ∧
    row.commandId = command ∧ row.consumedAt = some time ∧ time < row.expiresAt

/-- The transaction that spends a nonce. -/
structure Spending (env : BrowserEnv) (backend : Backend) (context : TenantContext) (sessionToken : String)
    (approvalId : Uuid) (nonceToken : String) (s t : Session Store) (commandId : Uuid) (row : ApprovalConfirmationNonce) :
    Prop where
  found : s.db.approvalConfirmationNonces.get? (env.hexdigest nonceToken) = some row
  consumable : Consumable backend row (env.hexdigest sessionToken) context.tenantId approvalId commandId (env.clock s.reads)
  written : t.db = { s.db with approvalConfirmationNonces :=
    s.db.approvalConfirmationNonces.put { row with consumedAt := some (env.clock s.reads) } }

theorem confirmDecision_ok {context : TenantContext} {sessionToken nonceToken : String} {approvalId commandId : Uuid}
    (ran : (confirmDecision env backend context sessionToken approvalId nonceToken).run s = (.ok commandId, t)) :
    ∃ row, Spending env backend context sessionToken approvalId nonceToken s t commandId row := by
  simp only [confirmDecision, transaction_eq_ok, getApproval, consumeApprovalConfirmationNonce, bind_eq_ok, query_eq_ok,
    fetch_eq_ok, require_eq_ok, tokenDigest_eq_ok, now_eq_ok, ensure_eq_ok, write_eq_ok, pure_eq_ok] at ran
  obtain ⟨approval, _, ⟨_, _, ⟨rfl, rfl⟩, searched, rfl⟩, _, _, ⟨-, rfl⟩, _, _, ⟨-, rfl, rfl⟩, _, _, ⟨-, rfl, rfl⟩, _, _,
    ⟨rfl, rfl⟩, _, start, ⟨_, _, ⟨rfl, rfl⟩, row, _, ⟨found, rfl⟩, _, _, ⟨consumable, rfl⟩, rfl⟩, rfl, rfl⟩ := ran
  have kept := List.find?_some searched
  have named : approval.id = approvalId := Ident.uuid.inj (of_decide_eq_true kept).2
  rw [named] at consumable
  exact ⟨row, found, consumable, rfl⟩

/-- A nonce that is issued has a new digest, is unspent and runs out no later than its approval. -/
theorem issueNonceFor_ok {context : TenantContext} {sessionToken : String} {approvalId : Uuid} {ttl : Int} {issued : Issued}
    (ran : (issueNonceFor env context sessionToken approvalId ttl).run s = (.ok issued, t)) :
    ∃ row approval, approval ∈ s.db.approvals.rows ∧ row.consumedAt = none ∧
      row.expiresAt = earlier (later (env.clock s.reads) ttl) approval.expiresAt ∧
      s.db.approvalConfirmationNonces.get? row.tokenDigest = none ∧
      t.db = { s.db with approvalConfirmationNonces := s.db.approvalConfirmationNonces.put row } := by
  simp only [issueNonceFor, transaction_eq_ok, getApproval, saveApprovalConfirmationNonce, bind_eq_ok, query_eq_ok,
    fetch_eq_ok, require_eq_ok, getCommand_eq_ok, now_eq_ok, ensure_eq_ok, freshUuid_eq_ok, tokenDigest_eq_ok, write_eq_ok,
    pure_eq_ok] at ran
  obtain ⟨approval, _, ⟨_, _, ⟨rfl, rfl⟩, searched, rfl⟩, _, _, ⟨-, rfl⟩, command, _, ⟨-, rfl⟩, _, _, ⟨rfl, rfl⟩, _, _,
    ⟨-, rfl⟩, draw, _, ⟨rfl, rfl⟩, _, _, ⟨-, rfl, rfl⟩, _, _, ⟨-, rfl, rfl⟩, _, _, ⟨_, _, ⟨rfl, rfl⟩, _, _, ⟨fresh, rfl⟩, rfl⟩,
    -, rfl⟩ := ran
  exact ⟨_, approval, List.mem_of_find?_eq_some searched, rfl, rfl, fresh, rfl⟩

/-! ## The desk -/

/-- The store and the requests that have come in. -/
structure Desk where
  session : Session Store
  tickets : List (Request × Stage)

/-- A request comes in, one takes its next step, or an operation runs that leaves the nonces alone. -/
inductive Visit (env : BrowserEnv) where
  | arrive (request : Request)
  | advance (ticket : Nat)
  | elsewhere (operation : Op Unit) (undisturbed : Obeys (Undisturbed env) operation)

namespace Desk

def opened : Desk := ⟨⟨{}, 0, 0⟩, []⟩

def nonces (desk : Desk) : Table ApprovalConfirmationNonce.tokenDigest := desk.session.db.approvalConfirmationNonces

def step (env : BrowserEnv) (backend : Backend) : Visit env → Desk → Unit × Desk
  | .arrive request, desk => ((), { desk with tickets := desk.tickets ++ [(request, .asked)] })
  | .advance ticket, desk => match desk.tickets[ticket]? with
      | none => ((), desk)
      | some (request, stage) =>
          let advanced := Service.advance env backend desk.session request stage
          ((), ⟨advanced.2, desk.tickets.set ticket (request, advanced.1)⟩)
  | .elsewhere operation _, desk => ((), { desk with session := (operation.run desk.session).2 })

end Desk

/-- The digest of the nonce that a request has spent. -/
def spends (env : BrowserEnv) : Request × Stage → Option String
  | (.decide _ _ _ _ nonceToken, .confirmed ..) => some (env.hexdigest nonceToken)
  | _ => none

/-- What a request that has spent its nonce can show for it. -/
def Accounted (env : BrowserEnv) (db : Store) : Request × Stage → Prop
  | (.decide sessionToken approvalId _ _ nonceToken, .confirmed context commandId _) =>
      Spent env db sessionToken context.tenantId approvalId commandId nonceToken
  | _ => True

theorem Accounted.spent {db : Store} {ticket : Request × Stage} {digest : String} (accounted : Accounted env db ticket)
    (spends : spends env ticket = some digest) :
    ∃ row time, db.approvalConfirmationNonces.get? digest = some row ∧ row.consumedAt = some time := by
  obtain ⟨request, stage⟩ := ticket
  cases request <;> cases stage <;> simp only [Service.spends, Option.some.injEq, reduceCtorEq] at spends
  subst spends
  obtain ⟨⟨row, time, found, -, -, -, -, consumed, -⟩⟩ := accounted
  exact ⟨row, time, found, consumed⟩

/-- A nonce keeps what it is bound to, and a spent one does not change at all. -/
def NoncesKept (before after : Table ApprovalConfirmationNonce.tokenDigest) : Prop :=
  ∀ digest row, before.get? digest = some row → ∃ later, after.get? digest = some later ∧
    later = { row with consumedAt := later.consumedAt } ∧ (row.consumedAt ≠ none → later = row)

theorem NoncesKept.refl (table : Table ApprovalConfirmationNonce.tokenDigest) : NoncesKept table table :=
  fun _ row found => ⟨row, found, rfl, fun _ => rfl⟩

theorem NoncesKept.trans {first second third : Table ApprovalConfirmationNonce.tokenDigest} (left : NoncesKept first second)
    (right : NoncesKept second third) : NoncesKept first third := by
  intro digest row found
  obtain ⟨middle, middle_found, bound, kept⟩ := left digest row found
  obtain ⟨later, later_found, rebound, rekept⟩ := right digest middle middle_found
  refine ⟨later, later_found, ?_, fun spent => ?_⟩
  · rw [rebound, bound]
  · have same := kept spent
    rw [same] at rekept
    exact rekept spent

theorem held_put_fresh {table : Table ApprovalConfirmationNonce.tokenDigest} {row : ApprovalConfirmationNonce}
    (fresh : table.get? row.tokenDigest = none) : NoncesKept table (table.put row) := by
  intro digest other found
  have different : row.tokenDigest ≠ digest := by
    intro same
    rw [same, found] at fresh
    cases fresh
  exact ⟨other, (Table.get?_put_of_ne _ different).trans found, rfl, fun _ => rfl⟩

theorem held_put_spent {table : Table ApprovalConfirmationNonce.tokenDigest} {digest : String}
    {row : ApprovalConfirmationNonce} {now : Timestamp} (found : table.get? digest = some row)
    (unspent : row.consumedAt = none) : NoncesKept table (table.put { row with consumedAt := some now }) := by
  have named : row.tokenDigest = digest := Table.key_of_get? found
  intro other old old_found
  by_cases same : digest = other
  · subst same
    cases Option.some.inj (found.symm.trans old_found)
    refine ⟨{ row with consumedAt := some now }, ?_, rfl, fun spent => absurd unspent spent⟩
    rw [← named]
    exact Table.get?_put_self table { row with consumedAt := some now }
  · refine ⟨old, ?_, rfl, fun _ => rfl⟩
    have different : ApprovalConfirmationNonce.tokenDigest { row with consumedAt := some now } ≠ other := by
      rw [← named] at same
      exact same
    exact (Table.get?_put_of_ne table different).trans old_found

/-- What a request has to show for stays. -/
theorem Accounted.later {before after : Store} {ticket : Request × Stage} (accounted : Accounted env before ticket)
    (held : NoncesKept before.approvalConfirmationNonces after.approvalConfirmationNonces) : Accounted env after ticket := by
  obtain ⟨request, stage⟩ := ticket
  cases request <;> cases stage <;> try exact trivial
  obtain ⟨⟨row, time, found, session, tenant, approval, command, consumed, timely⟩⟩ := accounted
  obtain ⟨later, later_found, -, kept⟩ := held _ row found
  have same : later = row := kept (by rw [consumed]; exact Option.some_ne_none time)
  rw [same] at later_found
  exact ⟨⟨row, time, later_found, session, tenant, approval, command, consumed, timely⟩⟩

/-! ## A step of a request -/

/-- What a step of a request does to the nonces. -/
inductive Advance (env : BrowserEnv) (backend : Backend) (s t : Session Store) : Request → Stage → Stage → Prop where
  | quiet {request : Request} {stage next : Stage} : Undisturbed env s.db t.db →
      spends env (request, next) = spends env (request, stage) →
      (∀ db, Accounted env db (request, stage) → Accounted env db (request, next)) →
      (spends env (request, stage) = none → t.db.approvals = s.db.approvals) →
      Advance env backend s t request stage next
  | issued {sessionToken : String} {approvalId : Uuid} {ttl : Int} {stage next : Stage} {row : ApprovalConfirmationNonce}
      {approval : Approval} : approval ∈ s.db.approvals.rows → row.consumedAt = none →
      row.expiresAt = earlier (later (env.clock s.reads) ttl) approval.expiresAt →
      s.db.approvalConfirmationNonces.get? row.tokenDigest = none →
      t.db = { s.db with approvalConfirmationNonces := s.db.approvalConfirmationNonces.put row } →
      Advance env backend s t (.issue sessionToken approvalId ttl) stage next
  | spent {sessionToken nonceToken reason : String} {approvalId commandId : Uuid} {approve : Bool} {context : TenantContext}
      {row : ApprovalConfirmationNonce} : Spending env backend context sessionToken approvalId nonceToken s t commandId row →
      Advance env backend s t (.decide sessionToken approvalId approve reason nonceToken) (.authenticated context)
        (.confirmed context commandId .called)

/-- A step that changes nothing and spends nothing. -/
theorem Advance.idle {request : Request} {stage next : Stage} (same : t.db = s.db)
    (unspent : spends env (request, stage) = none) (still : spends env (request, next) = none) :
    Advance env backend s t request stage next := by
  refine .quiet ?_ (still.trans unspent.symm) (fun db _ => ?_) fun _ => congrArg Store.approvals same
  · rw [same]
    exact Std.Refl.refl s.db
  · cases request <;> cases next <;> first | exact trivial | cases still

theorem advance_advances (request : Request) (stage : Stage) (s : Session Store) :
    Advance env backend s (advance env backend s request stage).2 request stage
      (advance env backend s request stage).1 := by
  cases request with
  | issue sessionToken approvalId ttl =>
    cases stage with
    | asked =>
      have keeps : Keeps id (enter env backend (.issue sessionToken approvalId ttl) .asked) :=
        (keeps_ensure _ _).bind fun _ => keeps_authenticateBrowserSession.bind fun _ => keeps_pure _
      simp only [advance]
      rcases ran : (enter env backend (.issue sessionToken approvalId ttl) .asked).run s with ⟨_ | _, t⟩ <;>
        exact .idle (keeps.of_run ran) rfl rfl
    | authenticated context =>
      simp only [advance, enter, run_bind]
      rcases ran : (issueNonceFor env context sessionToken approvalId ttl).run s with ⟨_ | nonce, t⟩
      · exact .idle (transaction_error_db ran) rfl rfl
      · obtain ⟨row, approval, member, unspent, expiresAt, fresh, written⟩ := issueNonceFor_ok ran
        exact .issued member unspent expiresAt fresh written
    | _ => exact .idle rfl rfl rfl
  | decide sessionToken approvalId approve reason nonceToken =>
    cases stage with
    | asked =>
      have keeps : Keeps id (enter env backend (.decide sessionToken approvalId approve reason nonceToken) .asked) :=
        (keeps_ensure _ _).bind fun _ => keeps_authenticateBrowserSession.bind fun _ => keeps_pure _
      simp only [advance]
      rcases ran : (enter env backend (.decide sessionToken approvalId approve reason nonceToken) .asked).run s
        with ⟨_ | next, t⟩
      · exact .idle (keeps.of_run ran) rfl rfl
      · have same := keeps.of_run ran
        simp only [enter, bind_eq_ok, pure_eq_ok] at ran
        obtain ⟨_, _, -, _, _, -, rfl, -⟩ := ran
        exact .idle same rfl rfl
    | authenticated context =>
      simp only [advance, enter, run_bind]
      rcases ran : (confirmDecision env backend context sessionToken approvalId nonceToken).run s with ⟨_ | commandId, t⟩
      · exact .idle (transaction_error_db ran) rfl rfl
      · obtain ⟨row, spending⟩ := confirmDecision_ok ran
        exact .spent spending
    | confirmed context commandId deciding =>
      exact .quiet (resume_undisturbed _ deciding s) rfl (fun _ accounted => accounted) fun unspent => by cases unspent
    | _ => exact .idle rfl rfl rfl

/-! ## Whole runs -/

/-- Every request that has spent a nonce can show for it, and no two have spent the same one. -/
structure Booked (env : BrowserEnv) (desk : Desk) : Prop where
  accounted : ∀ ticket ∈ desk.tickets, Accounted env desk.session.db ticket
  single : ∀ (i j : Nat) (first second : Request × Stage) (digest : String), desk.tickets[i]? = some first → desk.tickets[j]? = some second →
    spends env first = some digest → spends env second = some digest → i = j
  approvals : ∀ zone, (∀ count, (env.clock count).offset = zone) →
    ∀ row ∈ desk.session.db.approvals.rows, row.expiresAt.offset = zone
  nonces : ∀ zone, (∀ count, (env.clock count).offset = zone) →
    ∀ row ∈ desk.nonces.rows, row.expiresAt.offset = zone

theorem booked_opened : Booked env .opened where
  accounted _ member := absurd member List.not_mem_nil
  single _ _ _ _ _ found := by simp [Desk.opened] at found
  approvals _ _ _ member := absurd member List.not_mem_nil
  nonces _ _ _ member := absurd member List.not_mem_nil

/-- Within one zone a live nonce has not run out, in either repository. -/
theorem live_lt {now expiresAt : Timestamp} (live : backend.Live now expiresAt)
    (zoned : backend = .sqlite → expiresAt.offset = now.offset) : now < expiresAt := by
  cases backend with
  | memory => exact live
  | sqlite =>
    rw [← Timestamp.not_le, ← Timestamp.textLe_iff_le (zoned rfl)]
    exact live

theorem earlier_offset {first second : Timestamp} {zone : Int} (left : first.offset = zone) (right : second.offset = zone) :
    (earlier first second).offset = zone := by
  unfold earlier
  split
  · exact right
  · exact left

/-- The clock keeps to one zone where the repository compares texts, as the service's own does, which reads UTC. -/
def ClockZoned (env : BrowserEnv) (backend : Backend) : Prop :=
  backend = .sqlite → ∃ zone, ∀ count, (env.clock count).offset = zone

theorem Booked.undisturbed {desk : Desk} {session : Session Store} (booked : Booked env desk)
    (undisturbed : Undisturbed env desk.session.db session.db) : Booked env { desk with session := session } where
  accounted ticket member := (booked.accounted ticket member).later (by rw [undisturbed.nonces]; exact .refl _)
  single := booked.single
  approvals zone clocked := undisturbed.dated zone clocked (booked.approvals zone clocked)
  nonces zone clocked := by
    have same : session.db.approvalConfirmationNonces = desk.session.db.approvalConfirmationNonces := undisturbed.nonces
    rw [Desk.nonces, same]
    exact booked.nonces zone clocked

section

variable {desk : Desk} {ticket : Nat} {request : Request} {stage next : Stage}

/-- The requests keep what they have to show, and the one that moved has it too. -/
theorem accounted_set (booked : Booked env desk) (kept : NoncesKept desk.nonces t.db.approvalConfirmationNonces)
    (moved : Accounted env t.db (request, next)) :
    ∀ other ∈ desk.tickets.set ticket (request, next), Accounted env t.db other := by
  intro other member
  rcases List.mem_or_eq_of_mem_set member with old | rfl
  · exact (booked.accounted other old).later kept
  · exact moved

/-- A request that moves spends what no other has spent. -/
theorem single_set (booked : Booked env desk) (found : desk.tickets[ticket]? = some (request, stage))
    (alone : ∀ (other : Nat) (second : Request × Stage) (digest : String), other ≠ ticket →
      desk.tickets[other]? = some second → spends env second = some digest → spends env (request, next) ≠ some digest) :
    ∀ (i j : Nat) (first second : Request × Stage) (digest : String),
      (desk.tickets.set ticket (request, next))[i]? = some first →
      (desk.tickets.set ticket (request, next))[j]? = some second →
      spends env first = some digest → spends env second = some digest → i = j := by
  have bound : ticket < desk.tickets.length := (List.getElem?_eq_some_iff.mp found).1
  have here : (desk.tickets.set ticket (request, next))[ticket]? = some (request, next) := by
    rw [List.getElem?_set_self bound]
  have there : ∀ other, other ≠ ticket → (desk.tickets.set ticket (request, next))[other]? = desk.tickets[other]? :=
    fun other different => List.getElem?_set_ne (Ne.symm different)
  intro i j first second digest first_found second_found first_spends second_spends
  by_cases left : i = ticket <;> by_cases right : j = ticket
  · exact left.trans right.symm
  · rw [left, here] at first_found
    cases first_found
    rw [there j right] at second_found
    exact absurd first_spends (alone j second digest right second_found second_spends)
  · rw [right, here] at second_found
    cases second_found
    rw [there i left] at first_found
    exact absurd second_spends (alone i first digest left first_found first_spends)
  · rw [there i left] at first_found
    rw [there j right] at second_found
    exact booked.single i j first second digest first_found second_found first_spends second_spends

/-- A step of a request keeps the books, case by what it does to the nonces. -/
theorem advance_booked (clocked : ClockZoned env backend) (booked : Booked env desk)
    (found : desk.tickets[ticket]? = some (request, stage)) (advance : Advance env backend desk.session t request stage next) :
    Booked env ⟨t, desk.tickets.set ticket (request, next)⟩ ∧ NoncesKept desk.nonces t.db.approvalConfirmationNonces := by
  have member : (request, stage) ∈ desk.tickets := List.mem_of_getElem? found
  cases advance with
  | quiet undisturbed same shown _ =>
    have kept : NoncesKept desk.nonces t.db.approvalConfirmationNonces := by
      rw [undisturbed.nonces]
      exact .refl _
    have moved := booked.undisturbed undisturbed
    refine ⟨⟨accounted_set booked kept (shown _ (moved.accounted _ member)), single_set booked found ?_, moved.approvals,
      moved.nonces⟩, kept⟩
    intro other second digest different other_found other_spends
    rw [same]
    intro spends
    exact different (booked.single other ticket second _ digest other_found found other_spends spends)
  | @issued sessionToken approvalId ttl _ _ row approval approval_member unspent expiresAt fresh written =>
    have kept : NoncesKept desk.nonces t.db.approvalConfirmationNonces := by
      rw [written]
      exact held_put_fresh fresh
    refine ⟨⟨accounted_set booked kept trivial, single_set booked found ?_, ?_, ?_⟩, kept⟩
    · intro _ _ _ _ _ _ spends
      cases spends
    · intro zone clock
      rw [written]
      exact booked.approvals zone clock
    · intro zone clock
      rw [Desk.nonces, written]
      apply Table.forall_put (booked.nonces zone clock)
      rw [expiresAt]
      exact earlier_offset (clock _) (booked.approvals zone clock approval approval_member)
  | @spent sessionToken nonceToken reason approvalId commandId approve context row spending =>
    obtain ⟨session, tenant, approval, command, unspent, live⟩ := spending.consumable
    have kept : NoncesKept desk.nonces t.db.approvalConfirmationNonces := by
      rw [spending.written]
      exact held_put_spent spending.found unspent
    have row_member : row ∈ desk.nonces.rows := Table.mem_of_get? spending.found
    have timely : env.clock desk.session.reads < row.expiresAt := by
      apply live_lt live
      intro sqlite
      obtain ⟨zone, clock⟩ := clocked sqlite
      rw [clock, booked.nonces zone clock row row_member]
    have named : row.tokenDigest = env.hexdigest nonceToken := Table.key_of_get? spending.found
    have now_found : t.db.approvalConfirmationNonces.get? (env.hexdigest nonceToken) =
        some { row with consumedAt := some (env.clock desk.session.reads) } := by
      rw [spending.written, ← named]
      exact Table.get?_put_self desk.nonces { row with consumedAt := some (env.clock desk.session.reads) }
    refine ⟨⟨accounted_set booked kept ⟨⟨_, _, now_found, session, tenant, approval, command, rfl, timely⟩⟩,
      single_set booked found ?_, ?_, ?_⟩, kept⟩
    · -- whoever has spent it before can show the spent nonce, but it was still unspent
      intro other second digest different other_found other_spends same
      cases Option.some.inj same
      have accounted := booked.accounted second (List.mem_of_getElem? other_found)
      obtain ⟨earlier, time, earlier_found, consumed⟩ := accounted.spent other_spends
      cases Option.some.inj (earlier_found.symm.trans spending.found)
      rw [unspent] at consumed
      cases consumed
    · intro zone clock
      rw [spending.written]
      exact booked.approvals zone clock
    · intro zone clock
      rw [Desk.nonces, spending.written]
      apply Table.forall_put (booked.nonces zone clock)
      exact booked.nonces zone clock row row_member

end

theorem step_booked (clocked : ClockZoned env backend) (visit : Visit env) {desk : Desk} (booked : Booked env desk) :
    Booked env (Desk.step env backend visit desk).2 ∧ NoncesKept desk.nonces (Desk.step env backend visit desk).2.nonces := by
  cases visit with
  | arrive request =>
    refine ⟨⟨?_, ?_, booked.approvals, booked.nonces⟩, .refl _⟩
    · intro ticket member
      rcases List.mem_append.mp member with old | new
      · exact booked.accounted ticket old
      · rw [List.mem_singleton.mp new]
        cases request <;> exact trivial
    · -- a request that has just come in has spent nothing
      have unspent : spends env (request, .asked) = none := by cases request <;> rfl
      have known : ∀ (i : Nat) (ticket : Request × Stage) (digest : String),
          (desk.tickets ++ [(request, .asked)])[i]? = some ticket → spends env ticket = some digest →
          desk.tickets[i]? = some ticket := by
        intro i ticket digest found spent
        rw [List.getElem?_append] at found
        split at found
        · exact found
        · rw [List.getElem?_singleton] at found
          split at found
          · cases found
            rw [unspent] at spent
            cases spent
          · cases found
      intro i j first second digest first_found second_found first_spends second_spends
      exact booked.single i j first second digest (known i first digest first_found first_spends)
        (known j second digest second_found second_spends) first_spends second_spends
  | advance ticket =>
    cases found : desk.tickets[ticket]? with
    | none =>
      simp only [Desk.step, found]
      exact ⟨booked, .refl _⟩
    | some entry =>
      obtain ⟨request, stage⟩ := entry
      simp only [Desk.step, found]
      exact advance_booked clocked booked found (advance_advances request stage desk.session)
  | elsewhere operation undisturbed =>
    have obeyed : Undisturbed env desk.session.db (operation.run desk.session).2.db := undisturbed desk.session
    refine ⟨booked.undisturbed obeyed, ?_⟩
    change NoncesKept desk.nonces (operation.run desk.session).2.db.approvalConfirmationNonces
    rw [obeyed.nonces]
    exact .refl _

/-- Induction on the visits, with the books as the invariant. -/
theorem run_booked (clocked : ClockZoned env backend) (visits : List (Visit env)) {desk : Desk} (booked : Booked env desk) :
    Booked env (final (Desk.step env backend) desk visits) ∧
      NoncesKept desk.nonces (final (Desk.step env backend) desk visits).nonces := by
  induction visits generalizing desk with
  | nil => exact ⟨booked, .refl _⟩
  | cons visit rest ih =>
    obtain ⟨stepped, kept⟩ := step_booked clocked visit booked
    obtain ⟨ended, later⟩ := ih stepped
    exact ⟨ended, kept.trans later⟩

/-- Before it has spent a nonce, a request changes no approval. -/
theorem advance_undecided {request : Request} {stage next : Stage} (advance : Advance env backend s t request stage next)
    (unspent : spends env (request, stage) = none) : t.db.approvals = s.db.approvals := by
  cases advance with
  | quiet _ _ _ same => exact same unspent
  | issued _ _ _ _ written => rw [written]
  | spent spending => rw [spending.written]

/-- The decision that a step of the desk makes is one of a request that has spent its nonce. -/
theorem step_decided {desk : Desk} {ticket : Nat}
    (decided : (Desk.step env backend (.advance ticket) desk).2.session.db.approvals ≠ desk.session.db.approvals) :
    ∃ entry digest, desk.tickets[ticket]? = some entry ∧ spends env entry = some digest := by
  cases found : desk.tickets[ticket]? with
  | none =>
    simp only [Desk.step, found] at decided
    exact absurd rfl decided
  | some entry =>
    obtain ⟨request, stage⟩ := entry
    simp only [Desk.step, found] at decided
    cases spent : spends env (request, stage) with
    | some digest => exact ⟨_, digest, rfl, spent⟩
    | none => exact absurd (advance_undecided (advance_advances request stage desk.session) spent) decided

/-- Over any interleaving of requests and other operations: no two requests have spent the same nonce, each that has
spent one is the request it was issued for and came in time, a spent nonce stays as it is whatever becomes of the
decision, and only a request that has spent its nonce decides. -/
theorem nonces_spent_once (env : BrowserEnv) (backend : Backend) (clocked : ClockZoned env backend)
    (visits : List (Visit env)) :
    let desk := final (Desk.step env backend) .opened visits
    (∀ (i j : Nat) (first second : Request × Stage) (digest : String), desk.tickets[i]? = some first →
      desk.tickets[j]? = some second → spends env first = some digest → spends env second = some digest → i = j) ∧
    (∀ ticket ∈ desk.tickets, Accounted env desk.session.db ticket) ∧
    (∀ before after, visits = before ++ after →
      NoncesKept (final (Desk.step env backend) .opened before).nonces desk.nonces) ∧
    ∀ before ticket after, visits = before ++ .advance ticket :: after →
      let reached := final (Desk.step env backend) .opened before
      (Desk.step env backend (.advance ticket) reached).2.session.db.approvals ≠ reached.session.db.approvals →
      ∃ entry digest, reached.tickets[ticket]? = some entry ∧ spends env entry = some digest ∧
        Accounted env reached.session.db entry := by
  intro desk
  -- the book of the desk along the visits, from the opened one on
  have booked : Booked env desk := (run_booked clocked visits booked_opened).1
  refine ⟨booked.single, booked.accounted, ?_, ?_⟩
  · rintro before after rfl
    have earlier : Booked env (final (Desk.step env backend) .opened before) := (run_booked clocked before booked_opened).1
    have kept := (run_booked clocked after earlier).2
    rwa [← Library.final_append] at kept
  · intro before ticket after _ reached decided
    have earlier : Booked env reached := (run_booked clocked before booked_opened).1
    obtain ⟨entry, digest, found, spent⟩ := step_decided decided
    exact ⟨entry, digest, found, spent, earlier.accounted entry (List.mem_of_getElem? found)⟩

/-- A refund waits for a master who has a session. -/
def waitingRefund : Op Unit := write fun store => { store with
  memberships := store.memberships.put { tenantId := 0, userId := 1, roles := [.master] }
  browserSessions := store.browserSessions.put {
    tokenDigest := plainEnv.token 0
    tenantId := 0
    userId := 1
    membershipVersion := 1
    identityAssertionRef := "workforce:master"
    issuedAt := .utc 0
    expiresAt := .utc 3600 }
  commands := store.commands.put {
    id := 2
    tenantId := 0
    kind := .refund
    targetRef := .text "order"
    payload := []
    payloadDigest := "digest"
    idempotencyKey := .text "refund"
    state := .awaitingApproval
    createdAt := .utc 0 }
  approvals := store.approvals.put {
    id := 3
    tenantId := 0
    commandId := 2
    kind := .refund
    state := .pending
    requestedAt := .utc 0
    expiresAt := .utc 86400 } }

theorem waitingRefund_undisturbed : Obeys (Undisturbed plainEnv) waitingRefund := by
  apply obeys_write
  intro db
  refine ⟨rfl, fun zone clock dated => ?_⟩
  have utc : (0 : Int) = zone := clock 0
  apply Table.forall_put dated
  rw [← utc]
  rfl

/-- The nonce that is issued confirms one decision, and a replay is refused. -/
def confirmedRefund : List (Visit plainEnv) :=
  [.elsewhere waitingRefund waitingRefund_undisturbed, .arrive (.issue (plainEnv.token 0) 3 60000000), .advance 0, .advance 0,
   .arrive (.decide (plainEnv.token 0) 3 true "reviewed" (plainEnv.token 0)),
   .arrive (.decide (plainEnv.token 0) 3 true "replayed" (plainEnv.token 0)),
   .advance 1, .advance 2, .advance 1, .advance 2, .advance 1, .advance 1, .advance 1]

theorem nonces_spent_once_confirmed :
    ((final (Desk.step plainEnv .sqlite) .opened confirmedRefund).tickets.map fun ticket => (spends plainEnv ticket).isSome) =
        [false, true, false] ∧
      ∀ ticket ∈ (final (Desk.step plainEnv .sqlite) .opened confirmedRefund).tickets,
        Accounted plainEnv (final (Desk.step plainEnv .sqlite) .opened confirmedRefund).session.db ticket := by
  have clocked : ClockZoned plainEnv .sqlite := fun _ => ⟨0, fun _ => rfl⟩
  exact ⟨by decide +kernel, (nonces_spent_once plainEnv .sqlite clocked confirmedRefund).2.1⟩

end AiStore.Service
