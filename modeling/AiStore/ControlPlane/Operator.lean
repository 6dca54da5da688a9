import AiStore.ControlPlane.Operations

/-! The operator's actions as a state machine.

Only `approve` and `reject` look at the status that an action starts from, beyond
`ACTIVE_STATES`; the others take any task that nobody works on.
-/

set_option autoImplicit false

namespace AiStore.ControlPlane

open Library

section

variable (texts : Texts)

/-- Whether an operation that comes behind a run is carried out. -/
def Succeeds (data : Data) (call : LedgerCall) : Prop := (step texts call data).1 = .ok ()

/-- What the transition table promises of a run. -/
structure Obeyed (start : Data) (calls : List LedgerCall) : Prop where
  /-- A superseded task stays superseded. -/
  terminal : ∀ before later after, calls = before ++ later ++ after →
    ∀ id task, (ledger texts start before).get? id = some task → task.status = .superseded →
      ∃ moved, (ledger texts start (before ++ later)).get? id = some moved ∧ moved.status = .superseded
  retried : ∀ before call after, calls = before ++ call :: after →
    ∀ id reason, call.operation = .operatorAction id .retry reason → Succeeds texts (ledger texts start before) call →
      ∃ task, (ledger texts start before).get? id = some task ∧
        (task.status = .blocked ∨ task.status = .needsDecision ∨ task.status = .planned)
  rereviewed : ∀ before call after, calls = before ++ call :: after →
    ∀ id reason, call.operation = .operatorAction id .rereview reason →
      Succeeds texts (ledger texts start before) call →
      ∃ task, (ledger texts start before).get? id = some task ∧ task.status = .blocked
  refused : ∀ before call after, calls = before ++ call :: after →
    ∀ id action reason, call.operation = .operatorAction id action reason →
      ¬ Succeeds texts (ledger texts start before) call →
      ledger texts start (before ++ [call]) = ledger texts start before

end

/-- What an action would have to check of its task, where nobody works on it. -/
def Expected (action : OperatorAction) (task : Task) : Prop :=
  match action with
  | .retry => task.status = .blocked ∨ task.status = .needsDecision ∨ task.status = .planned
  | .rereview => task.artifact = "" ∨ task.status = .blocked
  | .park => task.status ≠ .superseded
  | .approve | .reject | .supersede => True

/-- An action meets a task that it is meant for, and no result comes in for a superseded one. -/
def Careful (data : Data) (call : LedgerCall) : Prop :=
  match call.operation with
  | .operatorAction id action _ => ∀ task, data.get? id = some task → ¬ task.status.Active → Expected action task
  | .finish id status _ _ => ∀ task, data.get? id = some task → task.status = .superseded → status = .superseded
  | .finishReview id _ _ _ => ∀ task, data.get? id = some task → task.status ≠ .superseded
  | _ => True

variable {texts : Texts} {data start : Data} {call : LedgerCall} {calls : List LedgerCall} {id : Nat} {task moved : Task}

/-! ## One step -/

theorem refused_unchanged (refused : ¬ Succeeds texts data call) : (step texts call data).2 = data := by
  cases ran : perform texts call.operation call.now data with
  | error why => rw [step_error ran]
  | ok after => exact absurd (congrArg Prod.fst (step_ok ran)) refused

/-- An action that is carried out has met its task idle. -/
theorem idle_of_succeeds {action : OperatorAction} {reason : String}
    (called : call.operation = .operatorAction id action reason) (done : Succeeds texts data call) :
    ∃ task change, data.get? id = some task ∧ ¬ task.status.Active ∧
      operatorChange action (operatorName reason) call.now task = .ok change := by
  unfold Succeeds at done
  cases ran : perform texts call.operation call.now data with
  | error why =>
    rw [step_error ran] at done
    cases done
  | ok after =>
    rw [called] at ran
    change (operatorAction id action reason call.now data).map (·.2) = .ok after at ran
    unfold operatorAction at ran
    split at ran
    · cases ran
    · next task found =>
      split at ran
      · cases ran
      · next idle =>
        split at ran
        · cases ran
        · next change allowed => exact ⟨task, change, found, idle, allowed⟩

/-- An action that its task allows is carried out. -/
theorem operatorAction_step {action : OperatorAction} {reason : String} {change : Task → Task}
    (called : call.operation = .operatorAction id action reason) (found : data.get? id = some task)
    (idle : ¬ task.status.Active)
    (allowed : operatorChange action (operatorName reason) call.now task = .ok change) :
    step texts call data = (.ok (), data.edit id change) := by
  apply step_ok
  rw [called]
  change (operatorAction id action reason call.now data).map (·.2) = .ok _
  simp only [operatorAction, found, if_neg idle, allowed, onTask, Except.map]

theorem triaged_superseded (around : Surroundings) (now : Time) (others : List Task)
    (ended : task.status = .superseded) : triaged texts around now others task = task := by
  have unguarded : ¬ Guardable task := by
    simp only [Guardable, ended, reduceCtorEq, or_self, false_and, not_false_eq_true]
  simp only [triaged, loopGuard, if_pos unguarded, ended, reduceCtorEq, if_false]

/-- A careful operation leaves a superseded task superseded. -/
theorem moved_superseded (careful : Careful data call) (found : data.get? id = some task)
    (ended : task.status = .superseded) (moves : Moved texts call task moved) : moved.status = .superseded := by
  have named := Data.named found
  cases moves with
  | annotated => exact ended
  | claimed _ ready => cases ended.symm.trans ready
  | reviewClaimed _ waiting => cases ended.symm.trans waiting
  | reopened _ _ blocked => cases ended.symm.trans blocked
  | landed _ reviewed => cases ended.symm.trans reviewed
  | requeued _ stale =>
    rcases stale.1 with held | held
    · cases ended.symm.trans held
    · cases ended.symm.trans held
  | triaged others _ =>
    rw [triaged_superseded _ _ _ ended]
    exact ended
  | finished called =>
    unfold Careful at careful
    rw [called] at careful
    exact careful task (named.symm ▸ found) ended
  | reviewFinished called =>
    unfold Careful at careful
    rw [called] at careful
    exact absurd ended (careful task (named.symm ▸ found))
  | @operated action reason change called idle allowed =>
    unfold Careful at careful
    rw [called] at careful
    have expected := careful task (named.symm ▸ found) idle
    cases action with
    | retry =>
      unfold Expected at expected
      rw [ended] at expected
      rcases expected with wrong | wrong | wrong <;> cases wrong
    | approve => simp [operatorChange, ended] at allowed
    | reject => simp [operatorChange, ended] at allowed
    | rereview =>
      unfold Expected at expected
      rcases expected with bare | blocked
      · simp [operatorChange, bare] at allowed
      · cases ended.symm.trans blocked
    | park => exact absurd ended expected
    | supersede =>
      cases allowed
      rfl

/-- A hasty operation takes a superseded task out of its state, or carries out a retry or a re-review that
the table does not have. -/
theorem hasty_breaks (texts : Texts) (hasty : ¬ Careful data call) :
    (∃ id task, data.get? id = some task ∧ task.status = .superseded ∧
      ∀ moved, (step texts call data).2.get? id = some moved → moved.status ≠ .superseded) ∨
    (∃ id reason task, call.operation = .operatorAction id .retry reason ∧ Succeeds texts data call ∧
      data.get? id = some task ∧ ¬ Expected .retry task) ∨
    (∃ id reason task, call.operation = .operatorAction id .rereview reason ∧ Succeeds texts data call ∧
      data.get? id = some task ∧ task.status ≠ .blocked) := by
  obtain ⟨operation, now⟩ := call
  cases operation with
  | finish id status artifact note =>
    simp only [Careful, not_forall] at hasty
    obtain ⟨task, found, ended, other⟩ := hasty
    have acts : step texts ⟨.finish id status artifact note, now⟩ data =
        (.ok (), data.edit id (finished texts status artifact note now)) := by
      apply step_ok
      simp only [perform, finish, onTask, found, Except.map]
    left
    refine ⟨id, task, found, ended, fun moved there => ?_⟩
    rw [acts, Data.get?_edit_self (finished_id ..) found] at there
    cases there
    exact other
  | finishReview id decision artifact note =>
    simp only [Careful, not_forall, not_not] at hasty
    obtain ⟨task, found, ended⟩ := hasty
    have acts : step texts ⟨.finishReview id decision artifact note, now⟩ data =
        (.ok (), data.edit id (reviewFinished texts decision artifact note now)) := by
      apply step_ok
      simp only [perform, finishReview, onTask, found, Except.map]
    left
    refine ⟨id, task, found, ended, fun moved there => ?_⟩
    rw [acts, Data.get?_edit_self (reviewFinished_id ..) found] at there
    cases there
    change reviewedStatus decision ≠ .superseded
    unfold reviewedStatus
    split
    · decide
    · split <;> decide
  | operatorAction id action reason =>
    simp only [Careful, not_forall] at hasty
    obtain ⟨task, found, idle, unexpected⟩ := hasty
    cases action with
    | retry =>
      have acts : step texts ⟨.operatorAction id .retry reason, now⟩ data =
          (.ok (), data.edit id (retried (operatorName reason) now)) := operatorAction_step rfl found idle rfl
      right; left
      exact ⟨id, reason, task, rfl, congrArg Prod.fst acts, found, unexpected⟩
    | rereview =>
      simp only [Expected, not_or] at unexpected
      have acts : step texts ⟨.operatorAction id .rereview reason, now⟩ data =
          (.ok (), data.edit id (requeuedForGate (operatorName reason) now)) :=
        operatorAction_step rfl found idle (if_neg unexpected.1)
      right; right
      exact ⟨id, reason, task, rfl, congrArg Prod.fst acts, found, unexpected.2⟩
    | park =>
      have ended : task.status = .superseded := not_not.mp unexpected
      have acts : step texts ⟨.operatorAction id .park reason, now⟩ data =
          (.ok (), data.edit id (parked (operatorName reason) now)) := operatorAction_step rfl found idle rfl
      left
      refine ⟨id, task, found, ended, fun moved there => ?_⟩
      rw [acts, Data.get?_edit_self (by rfl) found] at there
      cases there
      exact fun same => TaskStatus.noConfusion same
    | approve | reject | supersede => exact absurd trivial unexpected
  | _ => exact absurd trivial hasty

/-! ## A run -/

/-- Careful steps keep a superseded task superseded. -/
theorem superseded_run (later : List LedgerCall) (before : List LedgerCall)
    (careful : ∀ first call rest, later = first ++ call :: rest →
      Careful (ledger texts start (before ++ first)) call)
    (found : (ledger texts start before).get? id = some task) (ended : task.status = .superseded) :
    ∃ moved, (ledger texts start (before ++ later)).get? id = some moved ∧ moved.status = .superseded := by
  apply Library.run_induction fun later =>
    ∃ moved, (ledger texts start (before ++ later)).get? id = some moved ∧ moved.status = .superseded
  · exact ⟨task, by rwa [List.append_nil], ended⟩
  · rintro first call after split ⟨middle, reached, still⟩
    obtain ⟨moved, there, moves⟩ := step_moved texts call reached
    refine ⟨moved, ?_, moved_superseded (careful first call after split) reached still moves⟩
    rw [← List.append_assoc, ledger, final_concat]
    exact there

/-- The table is kept all along a run exactly when each operation of it is careful. -/
theorem obeyed_iff (texts : Texts) (start : Data) (calls : List LedgerCall) :
    Obeyed texts start calls ↔
      ∀ before call after, calls = before ++ call :: after → Careful (ledger texts start before) call := by
  constructor
  · rintro obeyed before call after rfl
    by_contra hasty
    -- a hasty call breaks one of the three rules, where it is made
    rcases hasty_breaks texts hasty with
      ⟨id, task, found, ended, left⟩ | ⟨id, reason, task, called, done, found, unexpected⟩ |
        ⟨id, reason, task, called, done, found, other⟩
    · obtain ⟨moved, there, still⟩ := obeyed.terminal before [call] after (by simp) id task found ended
      rw [ledger, final_concat] at there
      exact left moved there still
    · obtain ⟨same, there, expected⟩ := obeyed.retried before call after rfl id reason called done
      cases there.symm.trans found
      exact unexpected expected
    · obtain ⟨same, there, blocked⟩ := obeyed.rereviewed before call after rfl id reason called done
      cases there.symm.trans found
      exact other blocked
  · intro careful
    constructor
    · intro before later after split id task found ended
      apply superseded_run later before _ found ended
      rintro first call rest rfl
      exact careful (before ++ first) call (rest ++ after) (by simp [split])
    · intro before call after split id reason called done
      obtain ⟨task, change, found, idle, -⟩ := idle_of_succeeds called done
      have expected := careful before call after split
      unfold Careful at expected
      rw [called] at expected
      exact ⟨task, found, expected task found idle⟩
    · intro before call after split id reason called done
      obtain ⟨task, change, found, idle, allowed⟩ := idle_of_succeeds called done
      have expected := careful before call after split
      unfold Careful at expected
      rw [called] at expected
      rcases expected task found idle with bare | blocked
      · simp [operatorChange, bare] at allowed
      · exact ⟨task, found, blocked⟩
    · intro before call after _ id action reason _ refused
      rw [ledger, final_concat]
      exact refused_unchanged refused

/-! A task that is superseded and then retried. -/

def resurrected : List LedgerCall :=
  [⟨.createOperatorTask "title" "instruction" "OPERATOR" "" 98 [] [], 0⟩,
    ⟨.operatorAction 1 .supersede "", 1⟩,
    ⟨.operatorAction 1 .retry "", 2⟩]

theorem superseded_retried : ¬ ∀ texts start calls, Obeyed texts start calls := by
  intro obeyed
  obtain ⟨terminal, -, -, -⟩ := obeyed plainTexts .empty resurrected
  have ended : ((ledger plainTexts .empty (resurrected.take 2)).get? 1).map (·.status) = some .superseded := by
    decide +kernel
  have ready : ((ledger plainTexts .empty resurrected).get? 1).map (·.status) = some .ready := by
    decide +kernel
  obtain ⟨task, found, superseded⟩ := Option.map_eq_some_iff.mp ended
  obtain ⟨moved, there, still⟩ := terminal (resurrected.take 2) (resurrected.drop 2) []
    (by simp) 1 task found superseded
  rw [List.take_append_drop] at there
  rw [there, Option.map_some, still] at ready
  cases ready

end AiStore.ControlPlane
