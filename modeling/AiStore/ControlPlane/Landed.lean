import Std.Data.String.ToNat
import AiStore.ControlPlane.Artifacts

/-! What is landed, where the artifacts are left alone behind their gates. -/

set_option autoImplicit false

namespace AiStore.ControlPlane

open Library

variable {texts : Texts} {data : Data} {call : LedgerCall} {id : Nat} {task moved : Task} {shop : Workshop}
  {files : String → Option Patch} {events : List Event}

theorem artifactOf_inj {first second : Nat} : artifactOf first = artifactOf second ↔ first = second := by
  constructor
  · intro same
    have texts : (artifactOf first).toList = (artifactOf second).toList := congrArg String.toList same
    simp only [artifactOf, String.toList_append, List.append_assoc, List.append_cancel_left_eq,
      List.append_cancel_right_eq] at texts
    exact Nat.repr_injective (String.toList_inj.mp texts)
  · exact congrArg artifactOf

/-! ## New tasks -/

/-- What an operation leaves under an id that was not given out. -/
def Newborn (data : Data) (id : Nat) : Prop :=
  ∀ task, data.get? id = some task → task.artifact = "" ∧ task.status = .ready

theorem newborn_absent (absent : data.get? id = none) : Newborn data id := by
  intro task found
  cases absent.symm.trans found

theorem append_newborn {make : Nat → Task} (newborn : Newborn data id)
    (fresh : ∀ id, (make id).artifact = "" ∧ (make id).status = .ready) : Newborn (data.append make) id := by
  intro task found
  rw [Data.get?_append] at found
  split at found
  · cases found
    exact fresh data.nextId
  · exact newborn task found

theorem onTask_absent {target : Nat} {change : Task → Task} {result : Task × Data} (absent : data.get? id = none)
    (ran : onTask target data change = .ok result) : result.2.get? id = none := by
  unfold onTask at ran
  split at ran
  · cases ran
  · cases ran
    exact Data.edit_absent target change absent

theorem queueMilestone_newborn (now : Time) (item : Milestone) (newborn : Newborn data id) :
    Newborn (queueMilestone now data item) id := by
  have queued : Newborn (enqueueMilestone item now data) id := append_newborn newborn fun _ => ⟨rfl, rfl⟩
  unfold queueMilestone
  cases ran : markLast (enqueueMilestone item now data) with
  | none => exact queued
  | some marked =>
    intro task found
    unfold markLast at ran
    obtain ⟨last, -, rfl⟩ := Option.map_eq_some_iff.mp ran
    change ((enqueueMilestone item now data).edit last.id _).get? id = some task at found
    rw [Data.get?_edit] at found
    split at found
    · obtain ⟨old, there, rfl⟩ := Option.map_eq_some_iff.mp found
      next same => exact queued old (same ▸ there)
    · exact queued task found

theorem ensureWorkflowTasks_newborn (items : List Milestone) (now : Time) (newborn : Newborn data id) :
    Newborn (items.foldl (queueMilestone now) data) id := by
  induction items generalizing data with
  | nil => exact newborn
  | cons item rest ih => exact ih (queueMilestone_newborn now item newborn)

/-- A task that an operation creates is ready and has no artifact. -/
theorem step_newborn (texts : Texts) (call : LedgerCall) (absent : data.get? id = none) :
    Newborn (step texts call data).2 id := by
  cases ran : perform texts call.operation call.now data with
  | error why =>
    rw [step_error ran]
    exact newborn_absent absent
  | ok after =>
    rw [step_ok ran]
    obtain ⟨operation, now⟩ := call
    cases operation with
    | claim worker role effective =>
      cases ran
      exact newborn_absent ((claim_picks texts worker role effective now data).absent absent)
    | finish target status artifact note =>
      obtain ⟨pair, finishes, rfl⟩ := map_ok ran
      exact newborn_absent (onTask_absent absent finishes)
    | touch target worker phase =>
      cases ran
      apply newborn_absent
      unfold touch
      split
      · exact absent
      · split
        · exact Data.edit_absent _ _ absent
        · exact absent
    | claimReview worker effective =>
      cases ran
      exact newborn_absent ((claimReview_picks worker effective now data).absent absent)
    | finishReview target decision artifact note =>
      obtain ⟨pair, finishes, rfl⟩ := map_ok ran
      exact newborn_absent (onTask_absent absent finishes)
    | requeueStale staleAfterSeconds note =>
      cases ran
      exact newborn_absent (Data.edits_absent _ (fun _ => requeued texts note now) absent)
    | requeueBlocked failing limit maxRetries =>
      cases ran
      exact newborn_absent (Data.edits_absent _ (fun _ => reopened maxRetries now) absent)
    | runTriage around =>
      cases ran
      exact newborn_absent (Data.edits_absent _ (fun data => triaged texts around now data.tasks.rows) absent)
    | landReviewed landing limit =>
      cases ran
      exact newborn_absent (Data.edits_absent _ (fun _ => landedTask landing now) absent)
    | operatorAction target action reason =>
      obtain ⟨pair, acts, rfl⟩ := map_ok ran
      apply newborn_absent
      unfold operatorAction at acts
      split at acts
      · cases acts
      · split at acts
        · cases acts
        · split at acts
          · cases acts
          · exact onTask_absent absent acts
    | addInstruction target text =>
      obtain ⟨pair, adds, rfl⟩ := map_ok ran
      unfold addInstruction at adds
      split at adds
      · cases adds
      · exact newborn_absent (onTask_absent absent adds)
    | createOperatorTask title instruction milestone lane priority files lanes =>
      change createOperatorTask title instruction milestone lane priority files lanes now data = .ok after at ran
      unfold createOperatorTask at ran
      split at ran
      · cases ran
      · split at ran
        · cases ran
        · cases ran
          exact append_newborn (newborn_absent absent) fun _ => ⟨rfl, rfl⟩
    | enqueue title prompt milestone priority =>
      cases ran
      exact append_newborn (newborn_absent absent) fun _ => ⟨rfl, rfl⟩
    | ensureWorkflowTasks milestones limit =>
      cases ran
      exact ensureWorkflowTasks_newborn _ now (newborn_absent absent)

/-! ## Tasks that wait for the landing -/

def TaskStatus.settled : TaskStatus → Bool
  | .needsDecision | .reviewed => true
  | _ => false

/-- A task behind a review that has not failed it. -/
def Settled (task : Task) : Prop := task.status.settled = true

theorem settled_iff : Settled task ↔ task.status = .needsDecision ∨ task.status = .reviewed := by
  unfold Settled
  cases task.status <;> decide

theorem escalate_unsettled (record : Option Escalation) (cause : String) (now : Time) (task : Task) :
    ¬ Settled (escalate record cause now task) := by
  cases record <;> exact Bool.false_ne_true

/-- A triage keeps the artifact, and settles nothing. -/
theorem triaged_frame (around : Surroundings) (now : Time) (others : List Task) (task : Task) :
    (triaged texts around now others task).artifact = task.artifact ∧
      (Settled (triaged texts around now others task) → Settled task) := by
  have move := triaged_move texts around now others task
  generalize triaged texts around now others task = moved at move ⊢
  cases move with
  | kept => exact ⟨rfl, fun settled => settled⟩
  | remediated | requeued => exact ⟨rfl, fun settled => Bool.noConfusion settled⟩
  | diagnosed record =>
    exact ⟨(escalate_frame record _ now _).2, fun settled => absurd settled (escalate_unsettled record _ now _)⟩
  | exhausted record =>
    exact ⟨(escalate_frame record _ now task).2, fun settled => absurd settled (escalate_unsettled record _ now task)⟩
  | escalated _ waiting =>
    refine ⟨(triageEscalated_frame around now task).2.1, fun settled => ?_⟩
    unfold Settled at settled
    rcases triageEscalated_status around now waiting with status | status | status
    all_goals
      rw [status] at settled
      cases settled
  | decided =>
    obtain ⟨-, artifact, -, -, status⟩ := triageDecision_frame now task
    exact ⟨artifact, fun settled => by rwa [Settled, status] at settled⟩

theorem landedTask_frame (landing : Landing) (now : Time) (task : Task) :
    (landedTask landing now task).artifact = task.artifact ∧ ¬ Settled (landedTask landing now task) := by
  unfold landedTask
  split
  · exact ⟨rfl, Bool.false_ne_true⟩
  · split <;> exact ⟨rfl, Bool.false_ne_true⟩

theorem operatorChange_frame {action : OperatorAction} {who : String} {now : Time} {change : Task → Task}
    (allowed : operatorChange action who now task = .ok change) :
    (change task).artifact = task.artifact ∧ (Settled (change task) → Settled task) := by
  cases action <;> simp only [operatorChange] at allowed
  case approve =>
    split at allowed
    · cases allowed
    · next deciding =>
      cases allowed
      exact ⟨rfl, fun _ => settled_iff.mpr (.inl (not_not.mp deciding))⟩
  all_goals try split at allowed
  all_goals cases allowed
  all_goals exact ⟨rfl, fun settled => Bool.noConfusion settled⟩

/-- The reports that no worker or review makes by itself. -/
def Quiet (operation : Operation) : Prop :=
  match operation with
  | .finish id status artifact _ => WorkerStatus status ∧ (artifact = "" ∨ artifact = artifactOf id)
  | .finishReview .. => False
  | _ => True

/-- Beside the end of a review, nothing settles a task, and its artifact is the one of its own. -/
theorem moved_frame (quiet : Quiet call.operation) (moves : Moved texts call task moved)
    (known : task.artifact = "" ∨ task.artifact = artifactOf task.id) :
    (moved.artifact = "" ∨ moved.artifact = artifactOf task.id) ∧ (Settled moved → Settled task) := by
  cases moves with
  | annotated => exact ⟨known, fun settled => settled⟩
  | claimed => exact ⟨known, fun settled => Bool.noConfusion settled⟩
  | reviewClaimed => exact ⟨known, fun settled => Bool.noConfusion settled⟩
  | reopened => exact ⟨known, fun settled => Bool.noConfusion settled⟩
  | @finished status artifact note called =>
    unfold Quiet at quiet
    rw [called] at quiet
    refine ⟨quiet.2, fun settled => absurd settled ?_⟩
    rcases quiet.1 with rfl | rfl | rfl <;> exact Bool.false_ne_true
  | reviewFinished called =>
    unfold Quiet at quiet
    rw [called] at quiet
    exact quiet.elim
  | requeued =>
    refine ⟨known, fun settled => absurd settled ?_⟩
    unfold Settled requeued
    dsimp only
    split <;> exact Bool.false_ne_true
  | triaged others =>
    obtain ⟨artifact, open_⟩ := triaged_frame _ call.now others task
    exact ⟨artifact ▸ known, open_⟩
  | @landed landing =>
    obtain ⟨artifact, open_⟩ := landedTask_frame landing call.now task
    exact ⟨artifact ▸ known, fun settled => absurd settled open_⟩
  | operated _ _ allowed =>
    obtain ⟨artifact, open_⟩ := operatorChange_frame allowed
    exact ⟨artifact ▸ known, open_⟩

/-- Each task in a ledger behind a quiet operation. -/
theorem quiet_step_frame (quiet : Quiet call.operation)
    (known : ∀ id task, data.get? id = some task → task.artifact = "" ∨ task.artifact = artifactOf id)
    (found : (step texts call data).2.get? id = some moved) :
    (moved.artifact = "" ∨ moved.artifact = artifactOf id) ∧
      (Settled moved → ∃ task, data.get? id = some task ∧ Settled task) := by
  cases before : data.get? id with
  | none =>
    obtain ⟨bare, ready⟩ := step_newborn texts call before moved found
    refine ⟨.inl bare, fun settled => ?_⟩
    unfold Settled at settled
    rw [ready] at settled
    cases settled
  | some task =>
    have named := Data.named before
    obtain ⟨after, reached, moves⟩ := step_moved texts call before
    cases found.symm.trans reached
    have frame := moved_frame quiet moves (named.symm ▸ known id task before)
    rw [named] at frame
    exact ⟨frame.1, fun settled => ⟨task, rfl, frame.2 settled⟩⟩

/-! ## The end of a review -/

theorem finishReview_other {other : Nat} {decision artifact note : String}
    (called : call.operation = .finishReview other decision artifact note) (apart : id ≠ other) :
    (step texts call data).2.get? id = data.get? id := by
  cases ran : perform texts call.operation call.now data with
  | error why => rw [step_error ran]
  | ok after =>
    rw [step_ok ran]
    rw [called] at ran
    change (onTask other data (reviewFinished texts decision artifact note call.now)).map (·.2) = .ok after at ran
    unfold onTask at ran
    split at ran
    · cases ran
    · cases ran
      exact Data.get?_edit_other data apart _

theorem finishReview_absent {decision artifact note : String}
    (called : call.operation = .finishReview id decision artifact note) (absent : data.get? id = none) :
    (step texts call data).2.get? id = none := by
  have failed : perform texts call.operation call.now data = .error (.unknownTask id) := by
    rw [called]
    simp only [perform, finishReview, onTask, absent, Except.map]
  rw [step_error failed]
  exact absent

theorem reviewFinished_frame (decision artifact note : String) (now : Time) (task : Task) :
    (reviewFinished texts decision artifact note now task).artifact = task.artifact ∧
      (reviewFinished texts decision artifact note now task).status = reviewedStatus decision := by
  unfold reviewFinished
  dsimp only
  split <;> exact ⟨rfl, rfl⟩

/-! ## The workshop -/

/-- What the gates have passed on is still in the files. -/
structure Kept (shop : Workshop) : Prop where
  artifacts : ∀ id task, shop.data.get? id = some task → task.artifact = "" ∨ task.artifact = artifactOf id
  reviews : ∀ review ∈ shop.reviews, review.artifact = "" ∨ review.artifact = artifactOf review.id
  gated : ∀ review ∈ shop.reviews, ∀ bytes, review.gated = some bytes → shop.files (artifactOf review.id) = some bytes
  passed : ∀ id task, shop.data.get? id = some task → Settled task →
    ∃ bytes, shop.passed id = some bytes ∧ shop.files (artifactOf id) = some bytes

theorem kept_start (files : String → Option Patch) : Kept { data := .empty, files } where
  artifacts := fun _ _ found => by cases found
  reviews := fun _ member => by cases member
  gated := fun _ member => by cases member
  passed := fun _ _ found => by cases found

/-- A quiet operation keeps the files, the reviews and what they stand for. -/
theorem kept_quiet (kept : Kept shop) (quiet : Quiet call.operation) :
    Kept { shop with data := (step texts call shop.data).2 } where
  artifacts := fun _ _ found => (quiet_step_frame quiet kept.artifacts found).1
  reviews := kept.reviews
  gated := kept.gated
  passed := fun id _ found settled => by
    obtain ⟨task, before, waiting⟩ := (quiet_step_frame quiet kept.artifacts found).2 settled
    exact kept.passed id task before waiting

theorem quiet_of_not_separate {operation : Operation} (plain : ¬ Separate operation) : Quiet operation := by
  cases operation with
  | finish | finishReview => exact absurd trivial plain
  | _ => trivial

theorem kept_work {written : Option Patch} (kept : Kept shop) (alone : LeavesAlone shop (.work id written)) :
    Kept { shop with files := Function.update shop.files (artifactOf id) written } where
  artifacts := kept.artifacts
  reviews := kept.reviews
  gated := fun review member bytes passed => by
    by_cases same : review.id = id
    · cases (alone.1 review member same).symm.trans passed
    · change Function.update shop.files (artifactOf id) written (artifactOf review.id) = some bytes
      rw [Function.update_of_ne (fun equal => same (artifactOf_inj.mp equal))]
      exact kept.gated review member bytes passed
  passed := fun other task found settled => by
    by_cases same : other = id
    · subst same
      obtain ⟨undecided, unreviewed⟩ := alone.2 task found
      rcases settled_iff.mp settled with deciding | reviewed
      · exact absurd deciding undecided
      · exact absurd reviewed unreviewed
    · obtain ⟨bytes, passed, there⟩ := kept.passed other task found settled
      refine ⟨bytes, passed, ?_⟩
      change Function.update shop.files (artifactOf id) written (artifactOf other) = some bytes
      rw [Function.update_of_ne (fun equal => same (artifactOf_inj.mp equal))]
      exact there

theorem kept_claimReview (kept : Kept shop) (worker : String) (effective : Int) (now : Time) :
    Kept (happen texts (.claimReview worker effective now) shop) := by
  have after : Kept { shop with data := (step texts ⟨.claimReview worker effective, now⟩ shop.data).2 } :=
    kept_quiet kept trivial
  have ran : (step texts ⟨.claimReview worker effective, now⟩ shop.data).2 =
      (claimReview worker effective now shop.data).2 := rfl
  -- the new review has its artifact from the ledger behind the claim, and its gate is still to come
  have added : ∀ review ∈ (((claimReview worker effective now shop.data).1).map fun task =>
      ({ id := task.id, artifact := task.artifact } : Review)).toList,
      (review.artifact = "" ∨ review.artifact = artifactOf review.id) ∧ review.gated = none := by
    intro review member
    cases returned : (claimReview worker effective now shop.data).1 with
    | none =>
      rw [returned] at member
      cases member
    | some task =>
      rw [returned] at member
      cases List.mem_singleton.mp member
      exact ⟨after.artifacts task.id task (ran ▸ (claimReview_picks worker effective now shop.data).returned (fun _ => rfl) returned), rfl⟩
  constructor
  · exact after.artifacts
  · intro review member
    rcases List.mem_append.mp member with old | new
    · exact kept.reviews review old
    · exact (added review new).1
  · intro review member bytes passed
    rcases List.mem_append.mp member with old | new
    · exact kept.gated review old bytes passed
    · cases (added review new).2.symm.trans passed
  · exact after.passed

theorem kept_gate (kept : Kept shop) (review : Nat) (passes : Bool) : Kept (happen texts (.gate review passes) shop) := by
  unfold happen
  dsimp only
  split
  · exact kept
  · next current there =>
    split
    · exact kept
    · next runs =>
      rw [not_or] at runs
      have member := List.mem_of_getElem? there
      have own := (kept.reviews current member).resolve_left runs.1
      constructor
      · exact kept.artifacts
      · intro other listed
        rcases List.mem_or_eq_of_mem_set listed with old | rfl
        · exact kept.reviews other old
        · exact kept.reviews current member
      · intro other listed bytes passed
        rcases List.mem_or_eq_of_mem_set listed with old | rfl
        · exact kept.gated other old bytes passed
        · exact own ▸ passed
      · exact kept.passed

theorem kept_finishReview (kept : Kept shop) (review : Nat) (decision reviewArtifact note : String) (now : Time) :
    Kept (happen texts (.finishReview review decision reviewArtifact note now) shop) := by
  unfold happen
  dsimp only
  split
  · exact kept
  · next current there =>
    split
    · exact kept
    · next ends =>
      have member := List.mem_of_getElem? there
      have reached : ∀ id moved, (step texts ⟨.finishReview current.id decision reviewArtifact note, now⟩ shop.data).2.get?
          id = some moved → (id ≠ current.id ∧ shop.data.get? id = some moved) ∨
            (id = current.id ∧ ∃ task, shop.data.get? id = some task ∧ moved.artifact = task.artifact ∧
              moved.status = reviewedStatus decision) := by
        intro id moved found
        by_cases same : id = current.id
        · subst same
          cases before : shop.data.get? current.id with
          | none =>
            rw [finishReview_absent rfl before] at found
            cases found
          | some task =>
            rw [finishReview_step rfl before] at found
            cases found
            exact .inr ⟨rfl, task, rfl, reviewFinished_frame decision reviewArtifact note now task⟩
        · rw [finishReview_other rfl same] at found
          exact .inl ⟨same, found⟩
      constructor
      · intro id moved found
        rcases reached id moved found with ⟨-, before⟩ | ⟨-, task, before, artifact, -⟩
        · exact kept.artifacts id moved before
        · rw [artifact]
          exact kept.artifacts id task before
      · exact fun other listed => kept.reviews other (List.mem_of_mem_eraseIdx listed)
      · exact fun other listed => kept.gated other (List.mem_of_mem_eraseIdx listed)
      · intro id moved found settled
        rcases reached id moved found with ⟨apart, before⟩ | ⟨rfl, task, before, -, status⟩
        · obtain ⟨bytes, passed, file⟩ := kept.passed id moved before settled
          refine ⟨bytes, ?_, file⟩
          dsimp only
          split
          · exact passed
          · rw [Function.update_of_ne apart]
            exact passed
        · have passes : reviewedStatus decision ≠ .blocked := by
            intro blocked
            unfold Settled at settled
            rw [status, blocked] at settled
            cases settled
          obtain ⟨bytes, gated⟩ := Option.ne_none_iff_exists'.mp fun open_ => ends ⟨passes, open_⟩
          refine ⟨bytes, ?_, kept.gated current member bytes gated⟩
          dsimp only
          rw [if_neg passes, Function.update_self]
          exact gated

/-- An event that leaves the artifacts alone keeps what the gates have passed on in the files. -/
theorem kept_step (kept : Kept shop) (event : Event) (alone : LeavesAlone shop event) :
    Kept (happen texts event shop) := by
  cases event with
  | operate call =>
    unfold happen
    dsimp only
    split
    · exact kept
    · next plain => exact kept_quiet kept (quiet_of_not_separate plain)
  | work id written => exact kept_work kept alone
  | finish id status patched note now =>
    unfold happen
    dsimp only
    split
    · next worker =>
      apply kept_quiet kept
      refine ⟨worker, ?_⟩
      cases patched with
      | false => exact .inl rfl
      | true => exact .inr rfl
    · exact kept
  | claimReview worker effective now => exact kept_claimReview kept worker effective now
  | gate review passes => exact kept_gate kept review passes
  | finishReview review decision reviewArtifact note now => exact kept_finishReview kept review decision reviewArtifact note now
  | land outcome limit now =>
    have quiet : Quiet (LedgerCall.operation ⟨.landReviewed (landingOf outcome shop.files) limit, now⟩) := trivial
    exact kept_quiet kept quiet

theorem workshop_concat (before : List Event) (event : Event) :
    workshop texts files (before ++ [event]) = happen texts event (workshop texts files before) := by
  unfold workshop
  rw [List.foldl_append]
  rfl

theorem kept_run (alone : ∀ before event after, events = before ++ event :: after →
      LeavesAlone (workshop texts files before) event) : Kept (workshop texts files events) := by
  apply Library.run_induction fun events => Kept (workshop texts files events)
  · exact kept_start files
  · intro before event after split kept
    rw [workshop_concat]
    exact kept_step kept event (alone before event after split)

/-- Where nobody writes an artifact behind its gate, what is landed is what was reviewed. -/
theorem lands_reviewed (texts : Texts) (files : String → Option Patch) (events : List Event)
    (alone : ∀ before event after, events = before ++ event :: after →
      LeavesAlone (workshop texts files before) event) : LandsReviewed texts files events := by
  rintro before event after rfl id bytes commits
  have kept : Kept (workshop texts files before) :=
    kept_run fun first other rest parts => alone first other (rest ++ event :: after) (by simp [parts])
  -- only a landing commits, and it lands the artifact that the gate has passed
  generalize workshop texts files before = shop at commits kept ⊢
  cases event with
  | land outcome limit now =>
    obtain ⟨task, chosen, rfl, named, file, -⟩ := commits
    obtain ⟨stored, reviewed⟩ := List.mem_filter.mp (List.mem_of_mem_take chosen)
    have found := shop.data.tasks.get?_key stored
    obtain ⟨same, passed, there⟩ := kept.passed task.id task found
      (settled_iff.mpr (.inr (of_decide_eq_true reviewed)))
    rw [(kept.artifacts task.id task found).resolve_left named, there] at file
    cases file
    exact passed
  | _ => exact commits.elim

/-! A task that is worked on, reviewed and landed; and the same with a worker that has lost it and writes behind
the gate. -/

def landsAll : Task → Patch → LandOutcome := fun _ _ => .landed "a1b2c3d"

def queuedAndClaimed : List Event :=
  [.operate ⟨.enqueue "title" "prompt" "M1" 50, 0⟩,
    .operate ⟨.claim "local-impl-1" "local-impl" 2, 0⟩,
    .operate ⟨.requeueStale 300 "supervisor requeued stale worker", 300000000⟩,
    .operate ⟨.claim "local-impl-2" "local-impl" 2, 300000001⟩]

def reviewedPatch : List Event :=
  [.work 1 (some [1]), .finish 1 .needsReview true "" 300000002, .claimReview "local-review-1" 2 300000003, .gate 0 true]

def passedReview : List Event := [.finishReview 0 "pass" "task-1.md" "" 300000004]

def landingOfAll : Event := .land landsAll 2 300000005

theorem lands_reviewed_alone : LandsReviewed plainTexts (fun _ => none)
    (queuedAndClaimed ++ reviewedPatch ++ passedReview ++ [landingOfAll]) := by
  apply lands_reviewed
  intro before event after parts
  have checked : ∀ n : Fin (queuedAndClaimed ++ reviewedPatch ++ passedReview ++ [landingOfAll]).length,
      LeavesAlone (workshop plainTexts (fun _ => none)
        ((queuedAndClaimed ++ reviewedPatch ++ passedReview ++ [landingOfAll]).take n))
        ((queuedAndClaimed ++ reviewedPatch ++ passedReview ++ [landingOfAll]).get n) := by decide +kernel
  generalize queuedAndClaimed ++ reviewedPatch ++ passedReview ++ [landingOfAll] = events at parts checked
  subst parts
  have here := checked ⟨before.length, by simp⟩
  simpa using here

theorem other_bytes_landed : ¬ ∀ texts files events, LandsReviewed texts files events := by
  intro lands
  let before := queuedAndClaimed ++ reviewedPatch ++ [.work 1 (some [2])] ++ passedReview
  have chosen : (((workshop plainTexts (fun _ => none) before).data.tasks.rows.filter fun task =>
      task.status = .reviewed).take 2).map (fun task => (task.id, task.artifact)) = [(1, "artifacts/task-1.patch")] := by
    decide +kernel
  have written : (workshop plainTexts (fun _ => none) before).files "artifacts/task-1.patch" = some [2] := by
    decide +kernel
  have gated : (workshop plainTexts (fun _ => none) before).passed 1 = some [1] := by decide +kernel
  obtain ⟨task, member, shown⟩ := List.mem_map.mp (chosen ▸ List.mem_singleton_self _)
  obtain ⟨named, path⟩ := Prod.mk.inj shown
  have commits : Commits (workshop plainTexts (fun _ => none) before) landingOfAll 1 [2] := by
    refine ⟨task, member, named, ?_, ?_, "a1b2c3d", rfl⟩
    · rw [path]
      decide
    · rw [path]
      exact written
  have passed := lands plainTexts (fun _ => none) (before ++ [landingOfAll]) before landingOfAll [] rfl 1 [2] commits
  cases gated.symm.trans passed

end AiStore.ControlPlane
