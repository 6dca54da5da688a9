import AiStore.ControlPlane.Operations

/-! Workers that lose their task to `requeue_stale` and come back.

`touch` compares the holder with its caller. `finish` and `finish_review` get the id
of the task alone, so the ledger cannot tell who calls them: the caller stands in
a turn for the statements only.
-/

set_option autoImplicit false

namespace AiStore.ControlPlane

open Library

/-- An operation with the worker that calls it. -/
structure Turn where
  caller : String
  call : LedgerCall

section

variable (texts : Texts)

/-- The ledger behind a run of turns. -/
def turned (start : Data) (turns : List Turn) : Data := ledger texts start (turns.map (·.call))

/-- A worker holds a task. -/
def Holds (data : Data) (worker : String) (id : Nat) : Prop :=
  ∃ task, data.get? id = some task ∧ task.status.Active ∧ holder task = worker

/-- `requeue_stale` takes a task from its holder. -/
def Takes (data : Data) (call : LedgerCall) (worker : String) (id : Nat) : Prop :=
  ∃ staleAfterSeconds note task, call.operation = .requeueStale staleAfterSeconds note ∧ data.get? id = some task ∧
    Stale (call.now - 1000000 * staleAfterSeconds) task ∧ holder task = worker

/-- A claim of the worker returns the task. -/
def Hands (data : Data) (call : LedgerCall) (worker : String) (id : Nat) : Prop :=
  ∃ task, task.id = id ∧
    ((∃ role effective, call.operation = .claim worker role effective ∧
        (claim texts worker role effective call.now data).1 = some task) ∨
      ∃ effective, call.operation = .claimReview worker effective ∧
        (claimReview worker effective call.now data).1 = some task)

/-- A task has been taken from the worker, which has not claimed it again. -/
def Lost (start : Data) (turns : List Turn) (worker : String) (id : Nat) : Prop :=
  ∃ before turn after, turns = before ++ turn :: after ∧ Takes (turned texts start before) turn.call worker id ∧
    ∀ first again rest, after = first ++ again :: rest →
      ¬ Hands texts (turned texts start (before ++ turn :: first)) again.call worker id

/-- A call of `finish` or `finish_review` on a task. -/
def Reports (operation : Operation) (id : Nat) : Prop :=
  (∃ status artifact note, operation = .finish id status artifact note) ∨
    ∃ decision artifact note, operation = .finishReview id decision artifact note

/-- The status, the owners and the results of a task. -/
structure SameResult (task moved : Task) : Prop where
  status : moved.status = task.status
  worker : moved.worker = task.worker
  reviewer : moved.reviewer = task.reviewer
  artifact : moved.artifact = task.artifact
  note : moved.note = task.note
  decision : moved.reviewDecision = task.reviewDecision
  review : moved.reviewArtifact = task.reviewArtifact

/-- What a worker reports of a task that it has lost does not reach the task. -/
def Fenced (start : Data) (turns : List Turn) : Prop :=
  ∀ before turn after, turns = before ++ turn :: after → ∀ id, Reports turn.call.operation id →
    Lost texts start before turn.caller id → ∀ task, (turned texts start before).get? id = some task →
      ∃ moved, (turned texts start (before ++ [turn])).get? id = some moved ∧ SameResult task moved

/-- A report says what the task says already. -/
def Repeats (operation : Operation) (task : Task) : Prop :=
  match operation with
  | .finish _ status artifact note => task.status = status ∧ task.artifact = artifact ∧ task.note = note
  | .finishReview _ decision artifact note =>
      task.status = reviewedStatus decision ∧ task.reviewDecision = some decision ∧ task.reviewArtifact = artifact ∧
        task.note = note
  | _ => True

/-- A late report repeats what its task says. -/
def NoNews (start : Data) (turns : List Turn) : Prop :=
  ∀ before turn after, turns = before ++ turn :: after → ∀ id, Reports turn.call.operation id →
    Lost texts start before turn.caller id → ∀ task, (turned texts start before).get? id = some task →
      Repeats turn.call.operation task

/-- Every report comes from the holder of its task, and ends its work. -/
def HoldersReport (start : Data) (turns : List Turn) : Prop :=
  ∀ before turn after, turns = before ++ turn :: after → ∀ id, Reports turn.call.operation id →
    Holds (turned texts start before) turn.caller id ∧
      ∀ status artifact note, turn.call.operation = .finish id status artifact note → ¬ status.Active

end

variable {texts : Texts} {data start : Data} {call : LedgerCall} {turns : List Turn} {id : Nat} {task moved : Task}
  {worker : String}

theorem turned_concat (before : List Turn) (turn : Turn) :
    turned texts start (before ++ [turn]) = (step texts turn.call (turned texts start before)).2 := by
  unfold turned ledger
  rw [List.map_append, List.map_singleton, final_concat]

/-! ## One report -/

/-- Whoever calls it, `finish` writes what it is given. -/
theorem finished_same (status : TaskStatus) (artifact note : String) (now : Time) (task : Task) :
    SameResult task (finished texts status artifact note now task) ↔
      task.status = status ∧ task.artifact = artifact ∧ task.note = note := by
  have owners : (finished texts status artifact note now task).worker = task.worker ∧
      (finished texts status artifact note now task).reviewer = task.reviewer ∧
      (finished texts status artifact note now task).reviewDecision = task.reviewDecision ∧
      (finished texts status artifact note now task).reviewArtifact = task.reviewArtifact := by
    unfold finished
    dsimp only
    split <;> exact ⟨rfl, rfl, rfl, rfl⟩
  constructor
  · intro same
    exact ⟨same.status.symm, same.artifact.symm, same.note.symm⟩
  · rintro ⟨status, artifact, note⟩
    exact ⟨status.symm, owners.1, owners.2.1, artifact.symm, note.symm, owners.2.2.1, owners.2.2.2⟩

theorem reviewFinished_same (decision artifact note : String) (now : Time) (task : Task) :
    SameResult task (reviewFinished texts decision artifact note now task) ↔
      task.status = reviewedStatus decision ∧ task.reviewDecision = some decision ∧ task.reviewArtifact = artifact ∧
        task.note = note := by
  have owners : (reviewFinished texts decision artifact note now task).worker = task.worker ∧
      (reviewFinished texts decision artifact note now task).reviewer = task.reviewer ∧
      (reviewFinished texts decision artifact note now task).artifact = task.artifact := by
    unfold reviewFinished
    dsimp only
    split <;> exact ⟨rfl, rfl, rfl⟩
  constructor
  · intro same
    exact ⟨same.status.symm, same.decision.symm, same.review.symm, same.note.symm⟩
  · rintro ⟨status, decision, review, note⟩
    exact ⟨status.symm, owners.1, owners.2.1, owners.2.2, note.symm, decision.symm, review.symm⟩

/-- A report leaves the result of its task alone exactly when it repeats it. -/
theorem report_same (reports : Reports call.operation id) (found : data.get? id = some task) :
    (∃ moved, (step texts call data).2.get? id = some moved ∧ SameResult task moved) ↔
      Repeats call.operation task := by
  rcases reports with ⟨status, artifact, note, called⟩ | ⟨decision, artifact, note, called⟩
  · rw [finish_step called found, called]
    simp only [Option.some.injEq, exists_eq_left', Repeats, finished_same]
  · rw [finishReview_step called found, called]
    simp only [Option.some.injEq, exists_eq_left', Repeats, reviewFinished_same]

theorem fenced_iff_noNews : Fenced texts start turns ↔ NoNews texts start turns := by
  constructor
  · intro fenced before turn after split id reports lost task found
    have same := fenced before turn after split id reports lost task found
    rw [turned_concat] at same
    exact (report_same reports found).mp same
  · intro repeats before turn after split id reports lost task found
    rw [turned_concat]
    exact (report_same reports found).mpr (repeats before turn after split id reports lost task found)

/-! ## Where only holders report -/

theorem triaged_active {around : Surroundings} {now : Time} {others : List Task}
    (active : (triaged texts around now others task).status.Active) : triaged texts around now others task = task := by
  have move := triaged_move texts around now others task
  have left : ∀ record cause task, ¬ (escalate record cause now task).status.Active := by
    intro record cause task active
    rcases escalate_left record cause now task with escalated | ⟨blocked, -⟩
    · rw [escalated] at active
      exact absurd active (by decide)
    · rw [blocked] at active
      exact absurd active (by decide)
  generalize triaged texts around now others task = moved at move active ⊢
  cases move with
  | kept => rfl
  | remediated | requeued => exact absurd active (show ¬ TaskStatus.ready.Active by decide)
  | diagnosed | exhausted => exact absurd active (left _ _ _)
  | escalated _ waiting =>
    rcases triageEscalated_status around now waiting with status | status | status
    all_goals
      rw [status] at active
      exact absurd active (by decide)
  | decided _ deciding =>
    rw [(triageDecision_frame now task).2.2.2.2, deciding] at active
    exact absurd active (by decide)

/-- Whoever holds a task behind a step has held it before, or claims it there. -/
theorem active_moved (moves : Moved texts call task moved) (active : moved.status.Active)
    (ends : ∀ status artifact note, call.operation = .finish task.id status artifact note → ¬ status.Active) :
    (task.status.Active ∧ holder moved = holder task) ∨
      (task.status = .ready ∧ ∃ role effective, call.operation = .claim (holder moved) role effective) ∨
      (task.status = .needsReview ∧ ∃ effective, call.operation = .claimReview (holder moved) effective) := by
  have idle : ∀ {status : TaskStatus}, status ≠ .inProgress → status ≠ .reviewing → ¬ status.Active := by
    intro status one two held
    rcases held with held | held
    · exact one held
    · exact two held
  cases moves with
  | annotated => exact .inl ⟨active, rfl⟩
  | @claimed claimant role effective called ready => exact .inr (.inl ⟨ready, role, effective, called⟩)
  | @reviewClaimed claimant effective called waiting => exact .inr (.inr ⟨waiting, effective, called⟩)
  | @finished status artifact note called => exact absurd active (ends status artifact note called)
  | @reviewFinished decision artifact note called =>
    have resting : ¬ (reviewedStatus decision).Active := by
      unfold reviewedStatus
      split
      · decide
      · split <;> decide
    exact absurd active resting
  | @requeued _ note called stale =>
    revert active
    unfold requeued
    dsimp only
    split <;> exact fun active => absurd active (by decide)
  | reopened => exact absurd active (idle (by simp [reopened]) (by simp [reopened]))
  | triaged others called =>
    have still := triaged_active active
    rw [still] at active ⊢
    exact .inl ⟨active, rfl⟩
  | @landed landing _ called reviewed =>
    revert active
    unfold landedTask
    split
    · exact fun active => absurd active (idle (by simp) (by simp))
    · split <;> exact fun active => absurd active (idle (by simp) (by simp))
  | @operated action reason change called waiting allowed =>
    cases action <;> simp only [operatorChange] at allowed <;> try split at allowed
    all_goals cases allowed
    all_goals exact absurd active (idle (by simp [retried, approved, rejected, requeuedForGate, parked, superseded])
      (by simp [retried, approved, rejected, requeuedForGate, parked, superseded]))

/-- A task that is there and that the worker does not hold. -/
def Free (data : Data) (worker : String) (id : Nat) : Prop :=
  ∃ task, data.get? id = some task ∧ ¬ (task.status.Active ∧ holder task = worker)

theorem free_taken (takes : Takes data call worker id) : Free (step texts call data).2 worker id := by
  obtain ⟨staleAfterSeconds, note, task, called, found, stale, -⟩ := takes
  refine ⟨_, requeueStale_step called found stale, ?_⟩
  rintro ⟨active, -⟩
  revert active
  unfold requeued
  dsimp only
  split <;> decide

theorem free_step (free : Free data worker id) (unclaimed : ¬ Hands texts data call worker id)
    (ends : ∀ status artifact note, call.operation = .finish id status artifact note → ¬ status.Active) :
    Free (step texts call data).2 worker id := by
  obtain ⟨task, found, spare⟩ := free
  obtain ⟨moved, reached, moves⟩ := step_moved texts call found
  refine ⟨moved, reached, ?_⟩
  rintro ⟨active, rfl⟩
  have named := Data.named found
  rcases active_moved moves active (named.symm ▸ ends) with
    ⟨before, same⟩ | ⟨ready, role, effective, called⟩ | ⟨waiting, effective, called⟩
  · exact spare ⟨before, same.symm⟩
  · apply unclaimed
    have ran : step texts call data = (.ok (), (claim texts (holder moved) role effective call.now data).2) := by
      apply step_ok
      rw [called]
      rfl
    rw [ran] at reached
    rcases (claim_picks texts (holder moved) role effective call.now data).moved (fun _ => rfl) found with
      same | ⟨-, returned, -⟩
    · cases reached.symm.trans same
      rw [ready] at active
      exact absurd active (by decide)
    · exact ⟨taken (holder moved) call.now task, named, .inl ⟨role, effective, called, returned⟩⟩
  · apply unclaimed
    have ran : step texts call data = (.ok (), (claimReview (holder moved) effective call.now data).2) := by
      apply step_ok
      rw [called]
      rfl
    rw [ran] at reached
    rcases (claimReview_picks (holder moved) effective call.now data).moved (fun _ => rfl) found with
      same | ⟨-, returned, -⟩
    · cases reached.symm.trans same
      rw [waiting] at active
      exact absurd active (by decide)
    · exact ⟨takenForReview (holder moved) call.now task, named, .inr ⟨effective, called, returned⟩⟩

/-- A worker that has lost a task does not hold it while each report ends its caller's work. -/
theorem free_of_lost (ends : ∀ turn ∈ turns, ∀ status artifact note,
      turn.call.operation = .finish id status artifact note → ¬ status.Active)
    (lost : Lost texts start turns worker id) : Free (turned texts start turns) worker id := by
  obtain ⟨before, turn, after, rfl, takes, unclaimed⟩ := lost
  apply Library.run_induction fun after => Free (turned texts start (before ++ turn :: after)) worker id
  · rw [turned_concat]
    exact free_taken takes
  · intro first again rest split free
    rw [← List.cons_append, ← List.append_assoc, turned_concat]
    exact free_step free (unclaimed first again rest split) (ends again (by simp [split]))

theorem fenced_of_holders (holders : HoldersReport texts start turns) : Fenced texts start turns := by
  rintro before turn after rfl id reports lost
  have free := free_of_lost (fun earlier member status artifact note called => by
    obtain ⟨first, rest, rfl⟩ := List.append_of_mem member
    exact (holders first earlier (rest ++ turn :: after) (by simp) id (.inl ⟨status, artifact, note, called⟩)).2
      status artifact note called) lost
  obtain ⟨task, found, spare⟩ := free
  obtain ⟨held, there, active, same⟩ := (holders before turn after rfl id reports).1
  cases there.symm.trans found
  exact absurd ⟨active, same⟩ spare

/-- Late reports leave their tasks alone exactly when they bring no news; no report is late where each comes
from the holder of its task. -/
theorem late_reports_fenced (texts : Texts) (start : Data) (turns : List Turn) :
    (Fenced texts start turns ↔ NoNews texts start turns) ∧
      (HoldersReport texts start turns → Fenced texts start turns) :=
  ⟨fenced_iff_noNews, fenced_of_holders⟩

/-! A worker whose task another one has claimed, and that finishes it for the other. -/

def lateReport : List Turn :=
  [⟨"operator", .createOperatorTask "title" "instruction" "OPERATOR" "" 98 [] [], 0⟩,
    ⟨"local-impl-1", .claim "local-impl-1" "local-impl" 2, 0⟩,
    ⟨"supervisor", .requeueStale 300 "supervisor requeued stale worker", 300000000⟩,
    ⟨"local-impl-2", .claim "local-impl-2" "local-impl" 2, 300000001⟩,
    ⟨"local-impl-1", .finish 1 .needsReview "task-1.patch" "", 300000002⟩]

theorem report_overtakes_holder : ¬ ∀ texts start turns, Fenced texts start turns := by
  intro fenced
  let claims := lateReport.take 2
  let before := lateReport.take 4
  have held : ((turned plainTexts .empty claims).get? 1).map (fun task => (task.status, task.worker, task.heartbeatAt)) =
      some (.inProgress, "local-impl-1", some 0) := by decide +kernel
  have again : ((turned plainTexts .empty before).get? 1).map (fun task => (task.status, task.worker)) =
      some (.inProgress, "local-impl-2") := by decide +kernel
  have ended : ((turned plainTexts .empty lateReport).get? 1).map (·.status) = some .needsReview := by decide +kernel
  obtain ⟨task, found, shown⟩ := Option.map_eq_some_iff.mp held
  obtain ⟨other, there, now⟩ := Option.map_eq_some_iff.mp again
  simp only [Prod.mk.injEq] at shown now
  have taken : Takes (turned plainTexts .empty claims)
      ⟨.requeueStale 300 "supervisor requeued stale worker", 300000000⟩ "local-impl-1" 1 := by
    refine ⟨300, _, task, rfl, found, ⟨.inl shown.1, ?_⟩, ?_⟩
    · rw [shown.2.2]
      exact Int.le_refl 0
    · rw [holder, if_pos shown.1, shown.2.1]
  have lost : Lost plainTexts .empty before "local-impl-1" 1 := by
    refine ⟨claims, _, [⟨"local-impl-2", .claim "local-impl-2" "local-impl" 2, 300000001⟩], rfl, taken, ?_⟩
    intro first turn rest split hands
    have member : turn ∈ [Turn.mk "local-impl-2" ⟨.claim "local-impl-2" "local-impl" 2, 300000001⟩] := by
      rw [split]
      exact List.mem_append_right _ List.mem_cons_self
    cases List.mem_singleton.mp member
    obtain ⟨task, -, ⟨role, effective, called, -⟩ | ⟨effective, called, -⟩⟩ := hands
    · simp only [Operation.claim.injEq, String.reduceEq, false_and] at called
    · cases called
  obtain ⟨moved, reached, same⟩ := fenced plainTexts .empty lateReport before
    ⟨"local-impl-1", .finish 1 .needsReview "task-1.patch" "", 300000002⟩ [] rfl 1 (.inl ⟨_, _, _, rfl⟩) lost other there
  have last : ((turned plainTexts .empty lateReport).get? 1) = some moved := reached
  rw [last, Option.map_some, same.status, now.1] at ended
  cases ended

end AiStore.ControlPlane
