import Mathlib.Logic.Function.Iterate
import AiStore.Purchasing.Decisions

/-! A decision step by step, with whatever other callers do between its reads and its transaction. -/

set_option autoImplicit false

namespace AiStore.Purchasing

open Library (Session Table final)
open Library.Txn Failure Repository Service Approvals
open Relation (ReflTransGen)

/-- How far a call of `decide` has come. -/
inductive Deciding where
  | called
  | found (command : Command)
  | linked (command : Command) (purchase : Option Uuid)
  | permitted (command : Command) (purchase : Uuid)
  | acted (command : Command)
  | answered (outcome : Except Failure Approval)

structure DecideCall where
  context : TenantContext
  commandId : Uuid
  approve : Bool
  reason : String

section

variable (env : Env) (call : DecideCall)

/-- The next step: a read of the repository, or a whole transaction. -/
def proceed : Deciding → Op Deciding
  | .called => do
      match ← caught (getCommand call.context.tenantId call.commandId) with
      | .ok command => pure (.found command)
      | .error why =>
        reportBoundary env call.context why
        raise why
  | .found command => do
      let purchases ← linkedPurchases call.context.tenantId command
      pure (.linked command (purchases.head?.map (·.id)))
  | .linked command none => do
      let approval ← decideUnlinked env call.context command.id call.approve call.reason
      pure (.answered (.ok approval))
  | .linked command (some purchase) => do
      require call.context .approvePurchase
      ensure (¬ blank call.reason) (conflictError "approval decision and reason are required")
      pure (.permitted command purchase)
  | .permitted command purchase => do
      let (_, expired) ← transaction (approveWithin env call.context purchase call.approve call.reason)
      ensure (expired = false) (conflictError "approval expired")
      pure (.acted command)
  | .acted command => do
      let approval ← getApprovalForCommand call.context.tenantId command.id
      pure (.answered (.ok approval))
  | .answered outcome => pure (.answered outcome)

/-- A step that raises ends the call. -/
def resume (phase : Deciding) (s : Session Store) : Deciding × Session Store := match (proceed env call phase).run s with
  | (.ok next, t) => (next, t)
  | (.error why, t) => (.answered (.error why), t)

/-- What is left of the call. -/
def remaining : Deciding → Op Approval
  | .called => decide env call.context call.commandId call.approve call.reason
  | .found command => decideFound env call.context command call.approve call.reason
  | .linked command none => decideUnlinked env call.context command.id call.approve call.reason
  | .linked command (some purchase) => do
      let _ ← approveDemoPo env call.context purchase call.approve call.reason
      getApprovalForCommand call.context.tenantId command.id
  | .permitted command purchase => do
      let (_, expired) ← transaction (approveWithin env call.context purchase call.approve call.reason)
      ensure (expired = false) (conflictError "approval expired")
      getApprovalForCommand call.context.tenantId command.id
  | .acted command => getApprovalForCommand call.context.tenantId command.id
  | .answered outcome => ofExcept outcome

end

def Deciding.steps : Deciding → Nat
  | called => 5
  | found _ => 4
  | linked _ none => 1
  | linked _ (some _) => 3
  | permitted .. => 2
  | acted _ => 1
  | answered _ => 0

variable {env : Env} {call : DecideCall} {phase : Deciding} {s t : Session Store}

/-- What is left of a call is its next step and what is left then. -/
theorem remaining_step (phase : Deciding) (s : Session Store) :
    (remaining env call phase).run s = (proceed env call phase >>= remaining env call).run s := by
  cases phase with
  | called =>
    simp only [remaining, proceed, decide, run_bind]
    rcases (caught (getCommand call.context.tenantId call.commandId)).run s with ⟨_ | (why | command), t⟩
    · rfl
    · simp only [run_bind]
      rcases (reportBoundary env call.context why).run t with ⟨_ | _, u⟩ <;> rfl
    · rfl
  | found command =>
    simp only [remaining, proceed, decideFound, run_bind]
    rcases (linkedPurchases call.context.tenantId command).run s with ⟨_ | (_ | ⟨purchase, rest⟩), t⟩ <;> rfl
  | linked command purchase =>
    cases purchase with
    | none =>
      simp only [remaining, proceed, run_bind]
      rcases (decideUnlinked env call.context command.id call.approve call.reason).run s with ⟨_ | _, t⟩ <;> rfl
    | some purchase =>
      simp only [remaining, proceed, approveDemoPo, run_bind]
      rcases (require call.context .approvePurchase).run s with ⟨_ | _, t⟩
      · rfl
      · rcases given : (ensure (¬ blank call.reason) (conflictError "approval decision and reason are required") : Op Unit).run t
          with ⟨_ | _, u⟩
        · simp only [given]
        · simp only [given]
          change _ = (remaining env call (.permitted command purchase)).run u
          simp only [remaining, run_bind]
          rcases (transaction (approveWithin env call.context purchase call.approve call.reason)).run u
            with ⟨_ | ⟨_, expired⟩, v⟩
          · rfl
          · cases expired <;> rfl
  | permitted command purchase =>
    simp only [remaining, proceed, run_bind]
    rcases (transaction (approveWithin env call.context purchase call.approve call.reason)).run s with ⟨_ | ⟨_, expired⟩, t⟩
    · rfl
    · cases expired <;> rfl
  | acted command =>
    simp only [remaining, proceed, run_bind]
    rcases (getApprovalForCommand call.context.tenantId command.id).run s with ⟨_ | _, t⟩ <;> rfl
  | answered outcome => rfl

theorem remaining_resume (phase : Deciding) (s : Session Store) :
    (remaining env call (resume env call phase s).1).run (resume env call phase s).2 = (remaining env call phase).run s := by
  rw [remaining_step phase s, run_bind, resume]
  rcases (proceed env call phase).run s with ⟨why | next, t⟩ <;> rfl

theorem steps_resume (phase : Deciding) (s : Session Store) :
    (resume env call phase s).1.steps ≤ phase.steps - 1 := by
  rcases ran : (proceed env call phase).run s with ⟨why | next, t⟩
  · simp [resume, ran, Deciding.steps]
  · simp only [resume, ran]
    cases phase with
    | called =>
      simp only [proceed, bind_eq_ok] at ran
      obtain ⟨found, middle, -, ran⟩ := ran
      cases found with
      | error why =>
        simp only [bind_eq_ok, raise_eq_ok] at ran
        obtain ⟨_, _, -, impossible⟩ := ran
        exact impossible.elim
      | ok command =>
        cases ((pure_eq_ok _ _ _ _).mp ran).1
        exact Nat.le_refl 4
    | found command =>
      simp only [proceed, bind_eq_ok, pure_eq_ok] at ran
      obtain ⟨purchases, _, -, rfl, -⟩ := ran
      cases purchases <;> simp [Deciding.steps]
    | linked command purchase =>
      cases purchase with
      | none =>
        simp only [proceed, bind_eq_ok, pure_eq_ok] at ran
        obtain ⟨_, _, -, rfl, -⟩ := ran
        exact Nat.le_refl 0
      | some purchase =>
        simp only [proceed, bind_eq_ok, pure_eq_ok] at ran
        obtain ⟨_, _, -, _, _, -, rfl, -⟩ := ran
        exact Nat.le_refl 2
    | permitted command purchase =>
      simp only [proceed, bind_eq_ok, pure_eq_ok] at ran
      obtain ⟨_, _, -, _, _, -, rfl, -⟩ := ran
      exact Nat.le_refl 1
    | acted command =>
      simp only [proceed, bind_eq_ok, pure_eq_ok] at ran
      obtain ⟨_, _, -, rfl, -⟩ := ran
      exact Nat.le_refl 0
    | answered outcome =>
      cases ((pure_eq_ok _ _ _ _).mp ran).1
      exact Nat.le_refl 0

/-- A call that nothing interrupts is the decision. -/
theorem resumed_decide (s : Session Store) :
    let decided := (decide env call.context call.commandId call.approve call.reason).run s
    (fun state => resume env call state.1 state.2)^[5] (.called, s) = (.answered decided.1, decided.2) := by
  have whole : ∀ (count : Nat) (phase : Deciding) (s : Session Store), phase.steps ≤ count →
      (fun state => resume env call state.1 state.2)^[count] (phase, s) =
        (.answered ((remaining env call phase).run s).1, ((remaining env call phase).run s).2) := by
    intro count
    induction count with
    | zero =>
      intro phase s done
      cases phase with
      | answered outcome => cases outcome <;> rfl
      | linked command purchase => cases purchase <;> simp [Deciding.steps] at done
      | _ => simp [Deciding.steps] at done
    | succ count ih =>
      intro phase s left
      have fewer : (resume env call phase s).1.steps ≤ phase.steps - 1 := steps_resume phase s
      have fits : (resume env call phase s).1.steps ≤ count := by omega
      rw [Function.iterate_succ_apply, ih _ _ fits, remaining_resume]
  exact whole 5 .called s (Nat.le_refl 5)

/-! ## Relations -/

/-- Whatever a relation has to allow for the whole decision, it allows for each step. -/
theorem proceed_settles {R : Session Store → Session Store → Prop} (allows : Allows env R) (phase : Deciding) :
    Settles R (proceed env call phase) := by
  cases phase with
  | called =>
    apply (allows.frame (keeps_getCommand _).caught).bind
    intro found
    cases found with
    | error why => exact (reportBoundary_settles allows).bind fun _ => allows.frame (keeps_raise _)
    | ok command => exact allows.frame (keeps_pure _)
  | found command =>
    apply allows.frame
    exact (Approvals.keeps_linkedPurchases _ _ _).bind fun _ => keeps_pure _
  | linked command purchase =>
    cases purchase with
    | none => exact (decideUnlinked_settles allows).bind fun _ => allows.frame (keeps_pure _)
    | some purchase =>
      apply allows.frame
      exact (keeps_require _).bind fun _ => (keeps_ensure _ _).bind fun _ => keeps_pure _
  | permitted command purchase =>
    apply Settles.bind (Follows.transaction allows.idles (approveWithin_follows allows))
    intro _
    exact (allows.frame (keeps_ensure _ _)).bind fun _ => allows.frame (keeps_pure _)
  | acted command =>
    apply allows.frame
    exact (keeps_getApprovalForCommand _).bind fun _ => keeps_pure _
  | answered outcome => exact allows.frame (keeps_pure _)

theorem resume_settles {R : Session Store → Session Store → Prop} (allows : Allows env R) (phase : Deciding)
    (s : Session Store) : ReflTransGen R s (resume env call phase s).2 := by
  have settles : ReflTransGen R s ((proceed env call phase).run s).2 := proceed_settles allows phase s
  rw [resume]
  rcases ran : (proceed env call phase).run s with ⟨_ | _, u⟩ <;> rw [ran] at settles <;> exact settles

/-! ## Interleavings -/

/-- A call of others: on approvals, or on purchases. -/
inductive OtherCall (env : Env) where
  | lifecycle (call : LifecycleCall env)
  | purchase (call : PurchaseCall env)

/-- The next step of the decision, or a call of others. -/
inductive Turn (env : Env) where
  | proceed
  | other (call : OtherCall env)

namespace Turns

def other (env : Env) : OtherCall env → Session Store → Unit × Session Store
  | .lifecycle call, s => ((), (Approvals.step env call s).2)
  | .purchase call, s => ((), (Purchase.step env call s).2)

def step (env : Env) (call : DecideCall) : Turn env → Deciding × Session Store → Unit × (Deciding × Session Store)
  | .proceed, (phase, s) => ((), resume env call phase s)
  | .other turn, (phase, s) => ((), (phase, (other env turn s).2))

end Turns

theorem other_evolves (turn : OtherCall env) (s : Session Store) :
    ReflTransGen (Evolution env) s (Turns.other env turn s).2 := by
  cases turn with
  | lifecycle call => exact step_evolves call s
  | purchase call => exact ReflTransGen.mono (fun _ _ change => .inl change) _ _ (purchase_changes call s)

theorem turn_evolves (turn : Turn env) (phase : Deciding) (s : Session Store) :
    ReflTransGen (Evolution env) s (Turns.step env call turn (phase, s)).2.2 := by
  cases turn with
  | proceed =>
    have changes : ReflTransGen (Change env) s (resume env call phase s).2 := resume_settles change_allows phase s
    exact ReflTransGen.mono (fun _ _ change => .inl change) _ _ changes
  | other turn => exact other_evolves turn s

theorem final_proceed (turns : List (Turn env)) (start : Deciding × Session Store) :
    final (Turns.step env call) start (turns ++ [.proceed]) =
      resume env call (final (Turns.step env call) start turns).1 (final (Turns.step env call) start turns).2 := by
  rw [Library.final_concat]
  rfl

theorem turns_evolve (turns : List (Turn env)) (start : Deciding × Session Store) :
    ReflTransGen (Evolution env) start.2 (final (Turns.step env call) start turns).2 := by
  induction turns using List.reverseRecOn with
  | nil => exact .refl
  | append_singleton turns turn ih =>
    rw [Library.final_concat]
    exact ih.trans (turn_evolves turn _ _)

theorem others_evolve (calls : List (OtherCall env)) (s : Session Store) :
    ReflTransGen (Evolution env) s (final (Turns.other env) s calls) := by
  induction calls using List.reverseRecOn with
  | nil => exact .refl
  | append_singleton calls call ih =>
    rw [Library.final_concat]
    exact ih.trans (other_evolves call _)

/-! ## Where a decision lands -/

/-- The approval of one command changes, and no other. -/
structure Touches (tenant commandId : Uuid) (before after : Store) : Prop where
  changed : after.approvals.get? (tenant, commandId) ≠ before.approvals.get? (tenant, commandId)
  others : ∀ key, key ≠ (tenant, commandId) → after.approvals.get? key = before.approvals.get? key

theorem touches_put {tenant commandId : Uuid} {before after : Store} {approval : Approval} {state : ApprovalState}
    {decidedBy : Option Uuid} {reason : Option String}
    (found : before.approvals.get? (tenant, commandId) = some approval) (moved : state ≠ approval.state)
    (written : after.approvals =
      before.approvals.put { approval with state := state, decidedBy := decidedBy, decisionReason := reason }) :
    Touches tenant commandId before after := by
  have named : approval.key = (tenant, commandId) := Table.key_of_get? found
  constructor
  · intro same
    rw [written, ← named] at same
    have kept := (Table.get?_put_self before.approvals
      { approval with state := state, decidedBy := decidedBy, decisionReason := reason }).symm.trans
      (same.trans ((congrArg before.approvals.get? named).trans found))
    exact moved (congrArg Approval.state (Option.some.inj kept))
  · intro key different
    rw [written]
    apply Table.get?_put_of_ne
    intro same
    exact different (same.symm.trans named)

theorem decideWithin_touches {context : TenantContext} {commandId : Uuid} {approve expired : Bool} {reason : String}
    {result : Approval}
    (ran : (decideWithin env context commandId approve reason).run s = (.ok (result, expired), t)) :
    Touches context.tenantId commandId s.db t.db := by
  obtain ⟨-, -, command, approval, undecided, ⟨-, -, late⟩ | ⟨-, -, timely⟩⟩ := decideWithin_ok ran
  · obtain ⟨_, rfl⟩ := late.written
    apply touches_put undecided.approval_found _ rfl
    rw [undecided.pending]
    decide
  · obtain ⟨_, rfl⟩ := timely.written
    apply touches_put undecided.approval_found _ rfl
    rw [undecided.pending]
    cases approve <;> decide

/-- The purchase order that was linked now awaits a decision on another command, and this one would count as that. -/
structure Strays (env : Env) (call : DecideCall) (s : Session Store) (command : Command) (purchase : Uuid)
    (current : Command) : Prop where
  verified : ∃ row, (verifyPo env call.context.tenantId purchase).run s = (.ok (row, current), s)
  other : current.id ≠ command.id
  authorized : Authorized s.db call.context .approvePurchase
  reasoned : ¬ blank call.reason ∧ call.reason.length ≤ 1000
  free : ∀ approval, s.db.approvals.get? (call.context.tenantId, current.id) = some approval →
    env.clock s.reads < approval.expiresAt →
    s.db.outbox.outboxIdempotency.get? (decisionKey call.context purchase call.approve) = none

/-- A purchase decision touches the approval that its order has then, and nothing else goes astray. -/
theorem approveWithin_touches {command : Command} {purchase : Uuid} {row : SupplierPurchaseOrder} {expired : Bool}
    (ran : (approveWithin env call.context purchase call.approve call.reason).run s = (.ok (row, expired), t)) :
    ∃ current, Touches call.context.tenantId current.id s.db t.db ∧
      (current.id ≠ command.id → Strays env call s command purchase current) := by
  simp only [approveWithin, bind_eq_ok, require_eq_ok] at ran
  obtain ⟨_, start, ⟨authorized, rfl⟩, ⟨verified, current⟩, _, verifying, ⟨result, late⟩, middle, deciding, ran⟩ := ran
  obtain ⟨rfl, purchase_found, -⟩ := verifyPo_ok verifying
  have touches := decideWithin_touches deciding
  obtain ⟨reason_given, bounded, _, approval, undecided, outcome⟩ := decideWithin_ok deciding
  refine ⟨current, ?_, fun other => ⟨⟨verified, verifying⟩, other, authorized, ⟨reason_given, bounded⟩, ?_⟩⟩
  · cases late with
    | true =>
      simp only [if_true, pure_eq_ok] at ran
      obtain ⟨-, rfl⟩ := ran
      exact touches
    | false =>
      simp only [Bool.false_eq_true, if_false, bind_eq_ok, projectDecision, saveInTurn, updatePurchaseOrder_eq_ok, now_eq_ok,
        auditBy_eq_ok, publish_eq_ok, pure_eq_ok] at ran
      obtain ⟨_, _, ⟨_, _, ⟨_, -, -, -, rfl⟩, _, _, ⟨-, rfl⟩, _, _, rfl, _, _, ⟨-, rfl⟩, -, rfl⟩, -, rfl⟩ := ran
      exact ⟨touches.changed, touches.others⟩
  · intro found_approval found timely
    cases Option.some.inj (found.symm.trans undecided.approval_found)
    rcases outcome with ⟨-, passed, -⟩ | ⟨rfl, -, settled⟩
    · exact absurd passed ((Library.Timestamp.not_le _ _).mpr timely)
    · simp only [Bool.false_eq_true, if_false, bind_eq_ok, projectDecision, saveInTurn, updatePurchaseOrder_eq_ok, now_eq_ok,
        auditBy_eq_ok, publish_eq_ok, pure_eq_ok] at ran
      obtain ⟨_, _, ⟨_, _, ⟨_, -, -, -, rfl⟩, _, _, ⟨-, rfl⟩, _, _, rfl, _, _, ⟨free, -⟩, -, rfl⟩, -, -⟩ := ran
      -- the event of the decision has another key
      obtain ⟨_, rfl⟩ := settled.written
      have named : verified.id = purchase := congrArg Prod.snd (Table.key_of_get? purchase_found)
      rw [← named]
      exact (Library.Dict.get?_set_of_ne _ (fun same => by cases congrArg Prod.snd same) _).symm.trans free

/-- The commands that a phase names are the one decided on. -/
def Deciding.About (commandId : Uuid) : Deciding → Prop
  | found command | linked command _ | permitted command _ | acted command => command.id = commandId
  | called | answered _ => True

/-- The transaction is behind the call, and went through. -/
def Deciding.Done : Deciding → Prop
  | acted _ | answered (.ok _) => True
  | _ => False

/-- A step of the decision changes nothing or touches the approval of its command, unless it strays. -/
theorem resume_touches (about : phase.About call.commandId)
    (known : ∃ row, s.db.commands.get? (call.context.tenantId, call.commandId) = some row)
    (straight : ∀ command purchase, phase = .permitted command purchase → ¬ ∃ current, Strays env call s command purchase current) :
    (resume env call phase s).1.About call.commandId ∧
      ((resume env call phase s).2.db = s.db ∧ ((resume env call phase s).1.Done → phase.Done) ∨
        Touches call.context.tenantId call.commandId s.db (resume env call phase s).2.db) := by
  rw [resume]
  cases phase with
  | called =>
    obtain ⟨row, found⟩ := known
    have reading : (getCommand call.context.tenantId call.commandId).run s = (.ok row, s) := getCommand_eq_ok.mpr ⟨found, rfl⟩
    have named : row.id = call.commandId := congrArg Prod.snd (Table.key_of_get? found)
    have whole : (proceed env call .called).run s = (.ok (.found row), s) := by
      simp only [proceed, run_bind, caught, reading]
      rfl
    rw [whole]
    exact ⟨named, .inl ⟨rfl, id⟩⟩
  | found command =>
    rcases ran : (proceed env call (.found command)).run s with ⟨why | next, t⟩
    · have same : t.db = s.db := ((Approvals.keeps_linkedPurchases _ _ _).bind fun _ => keeps_pure _ : Keeps id _).of_run ran
      exact ⟨trivial, .inl ⟨same, False.elim⟩⟩
    · have same : t.db = s.db := ((Approvals.keeps_linkedPurchases _ _ _).bind fun _ => keeps_pure _ : Keeps id _).of_run ran
      simp only [proceed, bind_eq_ok, pure_eq_ok] at ran
      obtain ⟨_, _, -, rfl, -⟩ := ran
      exact ⟨about, .inl ⟨same, False.elim⟩⟩
  | linked command purchase =>
    cases purchase with
    | none =>
      change command.id = call.commandId at about
      simp only [proceed, decideUnlinked, run_bind]
      rcases transaction_cases (decideWithin env call.context command.id call.approve call.reason) s with
        ⟨⟨result, expired⟩, t, ran, whole⟩ | ⟨why, t, whole, same, -⟩ <;> rw [whole]
      · have touches := decideWithin_touches ran
        rw [about] at touches
        cases expired <;> exact ⟨trivial, .inr touches⟩
      · exact ⟨trivial, .inl ⟨same, False.elim⟩⟩
    | some purchase =>
      have keeps : Keeps id (proceed env call (.linked command (some purchase))) :=
        (keeps_require _).bind fun _ => (keeps_ensure _ _).bind fun _ => keeps_pure _
      rcases ran : (proceed env call (.linked command (some purchase))).run s with ⟨why | next, t⟩
      · exact ⟨trivial, .inl ⟨keeps.of_run ran, False.elim⟩⟩
      · have same := keeps.of_run ran
        simp only [proceed, bind_eq_ok, pure_eq_ok] at ran
        obtain ⟨_, _, -, _, _, -, rfl, -⟩ := ran
        exact ⟨about, .inl ⟨same, False.elim⟩⟩
  | permitted command purchase =>
    change command.id = call.commandId at about
    simp only [proceed, run_bind]
    rcases transaction_cases (approveWithin env call.context purchase call.approve call.reason) s with
      ⟨⟨row, expired⟩, t, ran, whole⟩ | ⟨why, t, whole, same, -⟩ <;> rw [whole]
    · have reached : ∃ current, Touches call.context.tenantId current.id s.db t.db ∧
          (current.id ≠ command.id → Strays env call s command purchase current) := approveWithin_touches ran
      obtain ⟨current, touches, strays⟩ := reached
      have here : current.id = command.id := by
        by_contra other
        exact straight command purchase rfl ⟨current, strays other⟩
      rw [here, about] at touches
      cases expired
      · exact ⟨about, .inr touches⟩
      · exact ⟨trivial, .inr touches⟩
    · exact ⟨trivial, .inl ⟨same, False.elim⟩⟩
  | acted command =>
    have same : ((proceed env call (.acted command)).run s).2.db = s.db :=
      ((keeps_getApprovalForCommand _).bind fun _ => keeps_pure _ : Keeps id _) s
    rcases ran : (proceed env call (.acted command)).run s with ⟨why | next, t⟩ <;> rw [ran] at same
    · exact ⟨trivial, .inl ⟨same, fun _ => trivial⟩⟩
    · simp only [proceed, bind_eq_ok, pure_eq_ok] at ran
      obtain ⟨_, _, -, rfl, -⟩ := ran
      exact ⟨trivial, .inl ⟨same, fun _ => trivial⟩⟩
  | answered outcome => exact ⟨trivial, .inl ⟨rfl, id⟩⟩

/-- A decision that went through touched the approval of its command. -/
structure Lands (call : DecideCall) (payload : Mapping) (before after : Store) : Prop where
  touches : Touches call.context.tenantId call.commandId before after
  payload : ∃ row, before.commands.get? (call.context.tenantId, call.commandId) = some row ∧ row.payload = payload

/-- At every step of the decision, the purchase order it goes on has not strayed. -/
def Straight (env : Env) (call : DecideCall) (start : Deciding × Session Store) (turns : List (Turn env)) : Prop :=
  ∀ before after command purchase, turns = before ++ .proceed :: after →
    (final (Turns.step env call) start before).1 = .permitted command purchase →
    ¬ ∃ current, Strays env call (final (Turns.step env call) start before).2 command purchase current

section

variable {start : Session Store} {command : Command} {turns before after : List (Turn env)}

/-- The command keeps its payload whatever happens in between. -/
theorem payload_kept (history : ReflTransGen (Evolution env) Execution.newSession start)
    (found : start.db.commands.get? (call.context.tenantId, call.commandId) = some command) (turns : List (Turn env)) :
    ∃ row, (final (Turns.step env call) (.called, start) turns).2.db.commands.get?
      (call.context.tenantId, call.commandId) = some row ∧ row.payload = command.payload := by
  obtain ⟨lockstep, -⟩ := evolutions_lockstep lockstep_newSession history
  have later : ReflTransGen (Evolution env) start (final (Turns.step env call) (.called, start) turns).2 :=
    turns_evolve turns (.called, start)
  obtain ⟨-, onward⟩ := evolutions_lockstep lockstep later
  obtain ⟨row, kept, -, -, payload⟩ := onward.commands _ command found
  exact ⟨row, kept, payload⟩

theorem Straight.shorter (straight : Straight env call (.called, start) (before ++ after)) :
    Straight env call (.called, start) before := by
  intro earlier later command purchase split
  rw [split, List.append_assoc] at straight
  exact straight earlier _ command purchase rfl

/-- A step of a straight run: nothing changes, or the decision lands on its command. -/
theorem proceed_lands (history : ReflTransGen (Evolution env) Execution.newSession start)
    (found : start.db.commands.get? (call.context.tenantId, call.commandId) = some command)
    (straight : Straight env call (.called, start) (before ++ .proceed :: after))
    (about : (final (Turns.step env call) (.called, start) before).1.About call.commandId) :
    let reached := final (Turns.step env call) (.called, start) before
    (resume env call reached.1 reached.2).1.About call.commandId ∧
      ((resume env call reached.1 reached.2).2.db = reached.2.db ∧
          ((resume env call reached.1 reached.2).1.Done → reached.1.Done) ∨
        Lands call command.payload reached.2.db (resume env call reached.1 reached.2).2.db) := by
  intro reached
  have known : ∃ row, reached.2.db.commands.get? (call.context.tenantId, call.commandId) = some row ∧
      row.payload = command.payload := payload_kept history found before
  have here : ∀ command purchase, reached.1 = .permitted command purchase →
      ¬ ∃ current, Strays env call reached.2 command purchase current :=
    fun command purchase => straight before after command purchase rfl
  have kept : ∃ row, reached.2.db.commands.get? (call.context.tenantId, call.commandId) = some row := by
    obtain ⟨row, kept, -⟩ := known
    exact ⟨row, kept⟩
  obtain ⟨onward, same | touches⟩ := resume_touches about kept here
  · exact ⟨onward, .inl same⟩
  · exact ⟨onward, .inr ⟨touches, known⟩⟩

/-- Induction on the turns: the phase is about the command, and is done only if some step landed on it. -/
theorem straight_run (history : ReflTransGen (Evolution env) Execution.newSession start)
    (found : start.db.commands.get? (call.context.tenantId, call.commandId) = some command)
    (straight : Straight env call (.called, start) turns) :
    (final (Turns.step env call) (.called, start) turns).1.About call.commandId ∧
      ((final (Turns.step env call) (.called, start) turns).1.Done → ∃ before after, turns = before ++ .proceed :: after ∧
        let reached := final (Turns.step env call) (.called, start) before
        Lands call command.payload reached.2.db (resume env call reached.1 reached.2).2.db) := by
  induction turns using List.reverseRecOn with
  | nil => exact ⟨trivial, False.elim⟩
  | append_singleton turns turn ih =>
    obtain ⟨about, landed⟩ := ih straight.shorter
    rw [Library.final_concat]
    cases turn with
    | other turn =>
      refine ⟨about, fun done => ?_⟩
      obtain ⟨before, after, rfl, lands⟩ := landed done
      exact ⟨before, after ++ [.other turn], by simp, lands⟩
    | proceed =>
      obtain ⟨onward, ⟨-, earlier⟩ | lands⟩ := proceed_lands history found straight about
      · refine ⟨onward, fun done => ?_⟩
        obtain ⟨before, after, rfl, lands⟩ := landed (earlier done)
        exact ⟨before, after ++ [.proceed], by simp, lands⟩
      · exact ⟨onward, fun _ => ⟨turns, [], rfl, lands⟩⟩

end

/-- A decision never lands on another approval while the purchase order it found still awaits a decision on its command:
with any calls of others before and between its steps, each of them changes nothing or the approval of the command, with
the payload of the call, and one of them does if it succeeds. -/
theorem decision_lands (env : Env) (others : List (OtherCall env)) (call : DecideCall) (command : Command)
    (turns : List (Turn env)) :
    let start : Deciding × Session Store := (.called, final (Turns.other env) Execution.newSession others)
    start.2.db.commands.get? (call.context.tenantId, call.commandId) = some command → Straight env call start turns →
    (∀ before after, turns = before ++ .proceed :: after →
      let reached := final (Turns.step env call) start before
      (resume env call reached.1 reached.2).2.db = reached.2.db ∨
        Lands call command.payload reached.2.db (resume env call reached.1 reached.2).2.db) ∧
    ∀ approval, (final (Turns.step env call) start turns).1 = .answered (.ok approval) →
      ∃ before after, turns = before ++ .proceed :: after ∧
        let reached := final (Turns.step env call) start before
        Lands call command.payload reached.2.db (resume env call reached.1 reached.2).2.db := by
  intro start found straight
  have history : ReflTransGen (Evolution env) Execution.newSession start.2 := others_evolve others Execution.newSession
  constructor
  · rintro before after rfl reached
    have about : reached.1.About call.commandId := (straight_run history found straight.shorter).1
    obtain ⟨-, ⟨same, -⟩ | lands⟩ := proceed_lands history found straight about
    · exact .inl same
    · exact .inr lands
  · intro approval answered
    apply (straight_run history found straight).2
    rw [answered]
    trivial

/-! ## A renewal in between -/

def routedBefore : List (OtherCall idleEnv) := routedSale.map .purchase

/-- The master means to approve the first purchase command. -/
def hastyCall : DecideCall := ⟨Execution.demoMaster, 5, true, "as shown"⟩

def hastyStart : Deciding × Session Store := (.called, final (Turns.other idleEnv) Execution.newSession routedBefore)

/-- Another member rejects it and has it renewed behind the reads. -/
def renewedBetween : List (Turn idleEnv) :=
  [.proceed, .proceed, .proceed, .other (.purchase (.approveDemoPo Execution.demoMaster 10 false "no")),
   .other (.purchase (.regenerateDemoPo Execution.demoMaster 10 "again" 2))]

def stateOf (db : Store) (commandId : Uuid) : Option ApprovalState :=
  (db.approvals.get? (Execution.demoMaster.tenantId, commandId)).map Approval.state

/-- Read by a check that a finite run can be put to. -/
def keepsCourse : Deciding × Session Store → Bool
  | (.permitted command purchase, s) =>
      match ((verifyPo idleEnv Execution.demoMaster.tenantId purchase).run s).1 with
      | .ok (_, current) => current.id = command.id
      | .error _ => true
  | _ => true

theorem not_strays {command : Command} {purchase : Uuid} (checked : keepsCourse (.permitted command purchase, s) = true) :
    ¬ ∃ current, Strays idleEnv hastyCall s command purchase current := by
  rintro ⟨current, strays⟩
  obtain ⟨row, verified⟩ := strays.verified
  have known : (verifyPo idleEnv Execution.demoMaster.tenantId purchase).run s = (.ok (row, current), s) := verified
  simp only [keepsCourse, known, decide_eq_true_eq] at checked
  exact strays.other checked

/-- Without the others the decision lands on its command. -/
theorem decision_lands_undisturbed : ∃ command,
    hastyStart.2.db.commands.get? (0, 5) = some command ∧
    Straight idleEnv hastyCall hastyStart (List.replicate 5 .proceed) ∧
    (final (Turns.step idleEnv hastyCall) hastyStart (List.replicate 5 .proceed)).1.steps = 0 ∧
    ∀ approval, (final (Turns.step idleEnv hastyCall) hastyStart (List.replicate 5 .proceed)).1 = .answered (.ok approval) →
      ∃ before after, List.replicate 5 .proceed = before ++ .proceed :: after ∧
        let reached := final (Turns.step idleEnv hastyCall) hastyStart before
        Lands hastyCall command.payload reached.2.db (resume idleEnv hastyCall reached.1 reached.2).2.db := by
  have known : (hastyStart.2.db.commands.get? (0, 5)).isSome = true := by decide +kernel
  obtain ⟨command, found⟩ := Option.isSome_iff_exists.mp known
  have checked : ∀ count ∈ List.range 5, keepsCourse
      (final (Turns.step idleEnv hastyCall) hastyStart ((List.replicate 5 .proceed).take count)) = true :=
    List.all_eq_true.mp (by decide +kernel)
  have straight : Straight idleEnv hastyCall hastyStart (List.replicate 5 .proceed) := by
    intro before after command purchase split phase
    have short : before.length < 5 := by
      have lengths := congrArg List.length split
      simp only [List.length_replicate, List.length_append, List.length_cons] at lengths
      omega
    have course := checked before.length (List.mem_range.mpr short)
    rw [split, List.take_left] at course
    apply not_strays
    rw [← phase]
    exact course
  have ended : (final (Turns.step idleEnv hastyCall) hastyStart (List.replicate 5 .proceed)).1.steps = 0 := by
    decide +kernel
  exact ⟨command, found, straight, ended, (decision_lands idleEnv routedBefore hastyCall command _ found straight).2⟩

theorem not_lands {payload : Mapping} {before after : Store} (waiting : stateOf before 20 = some .pending)
    (approved : stateOf after 20 = some .approved) : ¬ (after = before ∨ Lands hastyCall payload before after) := by
  rintro (same | lands)
  · rw [same] at approved
    exact absurd (waiting.symm.trans approved) (by decide)
  · have other : (0, 20) ≠ (hastyCall.context.tenantId, hastyCall.commandId) := by decide
    have kept : stateOf after 20 = stateOf before 20 :=
      congrArg (Option.map Approval.state) (lands.touches.others (0, 20) other)
    exact absurd (waiting.symm.trans (kept.symm.trans approved)) (by decide)

/-- With them it approves the command of the renewal, which the master has never seen. -/
theorem decision_lands_elsewhere : ¬ ∀ (env : Env) (others : List (OtherCall env)) (call : DecideCall) (command : Command)
    (turns : List (Turn env)),
    let start : Deciding × Session Store := (.called, final (Turns.other env) Execution.newSession others)
    start.2.db.commands.get? (call.context.tenantId, call.commandId) = some command →
    ∀ before after, turns = before ++ .proceed :: after →
      let reached := final (Turns.step env call) start before
      (resume env call reached.1 reached.2).2.db = reached.2.db ∨
        Lands call command.payload reached.2.db (resume env call reached.1 reached.2).2.db := by
  intro lands
  have known : (hastyStart.2.db.commands.get? (0, 5)).isSome = true := by decide +kernel
  obtain ⟨command, found⟩ := Option.isSome_iff_exists.mp known
  have waiting : stateOf (final (Turns.step idleEnv hastyCall) hastyStart renewedBetween).2.db 20 = some .pending := by
    decide +kernel
  have approved : stateOf (final (Turns.step idleEnv hastyCall) hastyStart (renewedBetween ++ [.proceed])).2.db 20 =
      some .approved := by
    decide +kernel
  rw [final_proceed] at approved
  have landing := lands idleEnv routedBefore hastyCall command _ found renewedBetween [] rfl
  dsimp only at landing
  unfold hastyStart at waiting approved
  exact not_lands waiting approved landing

end AiStore.Purchasing
