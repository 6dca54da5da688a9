import AiStore.ControlPlane.Operations

/-! Which milestones `ensure_workflow_tasks` queues a task for, over a run of the ledger. -/

set_option autoImplicit false

namespace AiStore.ControlPlane

open Library (Table final_cons)

variable {texts : Texts} {data : Data} {milestones candidates created : List Milestone} {tasks : List Task} {limit : Nat}

/-! ## One call -/

/-- The milestones in the order in which the loop looks at them. -/
def openMilestones (milestones : List Milestone) : List Milestone :=
  (milestones.filter fun item => item.status = "ready" ∨ item.status = "in_progress").insertionSort
    fun first second => milestoneSooner first second

/-- Neither generated before nor waiting for a dependency. -/
def Eligible (milestones : List Milestone) (tasks : List Task) (item : Milestone) : Prop :=
  ¬ Generated tasks item.id ∧ DependenciesDone milestones item

/-- The loop picks in order. -/
theorem wantedLoop_sublist :
    (wantedLoop milestones tasks limit created candidates).Sublist (created ++ candidates) := by
  induction candidates generalizing created with
  | nil => simp [wantedLoop]
  | cons item rest ih =>
    unfold wantedLoop
    split
    · exact List.sublist_append_left _ _
    split
    · exact ih.trans ((List.sublist_cons_self item rest).append_left created)
    · have picked := @ih (created ++ [item])
      rwa [List.append_assoc, List.singleton_append] at picked

theorem created_mem_wantedLoop {item : Milestone} (member : item ∈ created) :
    item ∈ wantedLoop milestones tasks limit created candidates := by
  induction candidates generalizing created with
  | nil => exact member
  | cons next rest ih =>
    unfold wantedLoop
    split
    · exact member
    split
    · exact ih member
    · exact ih (List.mem_append_left _ member)

theorem wantedLoop_eligible {item : Milestone}
    (member : item ∈ wantedLoop milestones tasks limit created candidates) :
    item ∈ created ∨ Eligible milestones tasks item := by
  induction candidates generalizing created with
  | nil => exact .inl member
  | cons next rest ih =>
    unfold wantedLoop at member
    split at member
    · exact .inl member
    split at member
    · exact ih member
    · next passed =>
      simp only [not_or, not_not] at passed
      rcases ih member with earlier | eligible
      · rcases List.mem_append.mp earlier with old | new
        · exact .inl old
        · rw [List.mem_singleton.mp new]
          exact .inr ⟨passed.1, passed.2.2⟩
      · exact .inr eligible

theorem wantedLoop_nodup (distinct : (created.map (·.id)).Nodup) :
    ((wantedLoop milestones tasks limit created candidates).map (·.id)).Nodup := by
  induction candidates generalizing created with
  | nil => exact distinct
  | cons next rest ih =>
    unfold wantedLoop
    split
    · exact distinct
    split
    · exact ih distinct
    · next passed =>
      simp only [not_or, not_not] at passed
      apply ih
      rw [List.map_append, List.nodup_append_comm]
      exact List.nodup_cons.mpr ⟨passed.2.1, distinct⟩

theorem wantedLoop_length (room : created.length ≤ limit) :
    (wantedLoop milestones tasks limit created candidates).length ≤ limit := by
  induction candidates generalizing created with
  | nil => exact room
  | cons next rest ih =>
    unfold wantedLoop
    split
    · exact room
    · next below =>
      split
      · exact ih room
      · apply ih
        rw [List.length_append, List.length_singleton]
        omega

/-- Only the limit leaves an eligible milestone out, and what is queued instead comes before it. -/
theorem wantedLoop_urgent (sorted : candidates.Pairwise fun first second => milestoneSooner first second = true)
    {item : Milestone} (member : item ∈ candidates) (eligible : Eligible milestones tasks item) :
    item.id ∈ (wantedLoop milestones tasks limit created candidates).map (·.id) ∨
      limit ≤ (wantedLoop milestones tasks limit created candidates).length ∧
        ∀ queued ∈ wantedLoop milestones tasks limit created candidates,
          queued ∈ created ∨ milestoneSooner queued item = true := by
  induction candidates generalizing created with
  | nil => cases member
  | cons next rest ih =>
    have ⟨before, later_sorted⟩ := List.pairwise_cons.mp sorted
    unfold wantedLoop
    split
    · next full => exact .inr ⟨full, fun queued inside => .inl inside⟩
    split
    · next passed_over =>
      rcases List.mem_cons.mp member with rfl | later
      · -- another milestone of its id has been queued
        have again : item.id ∈ created.map (·.id) := by
          rcases passed_over with generated | again | waiting
          · exact absurd generated eligible.1
          · exact again
          · exact absurd eligible.2 waiting
        obtain ⟨earlier, inside, same⟩ := List.mem_map.mp again
        exact .inl (List.mem_map.mpr ⟨earlier, created_mem_wantedLoop inside, same⟩)
      · exact ih later_sorted later
    · rcases List.mem_cons.mp member with rfl | later
      · exact .inl (List.mem_map_of_mem (created_mem_wantedLoop (by simp)))
      · refine (ih later_sorted later).imp_right fun ⟨full, sooner⟩ => ⟨full, fun queued inside => ?_⟩
        rcases sooner queued inside with picked | sooner
        · rcases List.mem_append.mp picked with old | new
          · exact .inl old
          · rw [List.mem_singleton.mp new]
            exact .inr (before item later)
        · exact .inr sooner

instance : Std.Total fun first second : Milestone => milestoneSooner first second = true where
  total first second := by
    simp only [milestoneSooner, Bool.or_eq_true, Bool.and_eq_true, decide_eq_true_eq]
    rcases lt_trichotomy first.priority second.priority with less | same | more
    · exact .inr (.inl less)
    · exact (le_total first.id.toList second.id.toList).imp (fun le => .inr ⟨same, le⟩) fun le => .inr ⟨same.symm, le⟩
    · exact .inl (.inl more)

instance : IsTrans Milestone fun first second => milestoneSooner first second = true where
  trans first second third left right := by
    simp only [milestoneSooner, Bool.or_eq_true, Bool.and_eq_true, decide_eq_true_eq] at left right ⊢
    rcases left with left | ⟨left_same, left⟩ <;> rcases right with right | ⟨right_same, right⟩
    · exact .inl (right.trans left)
    · exact .inl (right_same ▸ left)
    · exact .inl (left_same ▸ right)
    · exact .inr ⟨left_same.trans right_same, left.trans right⟩

theorem mem_openMilestones {item : Milestone} :
    item ∈ openMilestones milestones ↔ item ∈ milestones ∧ (item.status = "ready" ∨ item.status = "in_progress") := by
  unfold openMilestones
  rw [(List.perm_insertionSort _ _).mem_iff, List.mem_filter, decide_eq_true_eq]

/-- A call queues the most urgent milestones whose time has come, at most as many as its limit and one for each id. -/
theorem wanted_urgent_first (milestones : List Milestone) (limit : Nat) (data : Data) :
    (wanted milestones limit data).Pairwise (fun first second => milestoneSooner first second = true) ∧
      ((wanted milestones limit data).map (·.id)).Nodup ∧ (wanted milestones limit data).length ≤ limit ∧
      (∀ item ∈ wanted milestones limit data,
        item ∈ milestones ∧ (item.status = "ready" ∨ item.status = "in_progress") ∧
          Eligible milestones data.tasks.rows item) ∧
      ∀ item ∈ milestones, item.status = "ready" ∨ item.status = "in_progress" →
        Eligible milestones data.tasks.rows item →
          item.id ∈ (wanted milestones limit data).map (·.id) ∨
            (wanted milestones limit data).length = limit ∧
              ∀ queued ∈ wanted milestones limit data, milestoneSooner queued item = true := by
  have sorted : (openMilestones milestones).Pairwise fun first second => milestoneSooner first second = true :=
    List.pairwise_insertionSort _ _
  have among : (wanted milestones limit data).Sublist (openMilestones milestones) := wantedLoop_sublist
  have short : (wanted milestones limit data).length ≤ limit := wantedLoop_length (Nat.zero_le _)
  refine ⟨sorted.sublist among, wantedLoop_nodup List.nodup_nil, short, fun item queued => ?_,
    fun item member status eligible => ?_⟩
  · have ⟨member, status⟩ := mem_openMilestones.mp (among.subset queued)
    exact ⟨member, status, (wantedLoop_eligible queued).resolve_left List.not_mem_nil⟩
  · apply (wantedLoop_urgent sorted (mem_openMilestones.mpr ⟨member, status⟩) eligible).imp_right
    intro ⟨full, sooner⟩
    exact ⟨Nat.le_antisymm short full, fun queued inside => (sooner queued inside).resolve_left List.not_mem_nil⟩

/-! ## What keeps a milestone generated -/

/-- A call by which a worker reports the task as completed. -/
def Completes (call : LedgerCall) (task : Task) : Prop :=
  ∃ artifact note, call.operation = .finish task.id .completed artifact note

/-- The task stays with its milestone, and is not completed where it was not. -/
def Follows (task moved : Task) : Prop :=
  moved.milestone = task.milestone ∧ (moved.status = .completed → task.status = .completed)

theorem follows_escalate (record : Option Escalation) (cause : String) (now : Time) (task : Task) :
    Follows task (escalate record cause now task) := by
  cases record <;> exact ⟨rfl, fun completed => by cases completed⟩

theorem follows_triageEscalated (around : Surroundings) (now : Time) (task : Task) :
    Follows task (triageEscalated around now task) := by
  unfold triageEscalated
  dsimp only
  split
  · exact ⟨rfl, fun completed => by cases completed⟩
  · exact ⟨rfl, fun completed => by cases completed⟩
  · exact ⟨rfl, fun completed => by cases completed⟩
  · exact ⟨rfl, id⟩

theorem follows_triaged (around : Surroundings) (now : Time) (others : List Task) (task : Task) :
    Follows task (triaged texts around now others task) := by
  have move := triaged_move texts around now others task
  generalize triaged texts around now others task = moved at move ⊢
  cases move with
  | kept => exact ⟨rfl, id⟩
  | remediated | requeued => exact ⟨rfl, fun completed => by cases completed⟩
  | diagnosed record =>
    obtain ⟨milestone, status⟩ := follows_escalate record _ now (diagnosed _ now task)
    exact ⟨milestone, status⟩
  | exhausted record => exact follows_escalate record _ now task
  | escalated => exact follows_triageEscalated around now task
  | decided =>
    refine ⟨?_, fun completed => ?_⟩
    · unfold triageDecision
      split <;> rfl
    · rwa [(triageDecision_frame now task).2.2.2.2] at completed

theorem follows_landedTask (landing : Landing) (now : Time) (task : Task) : Follows task (landedTask landing now task) := by
  unfold landedTask
  split
  · exact ⟨rfl, fun completed => by cases completed⟩
  · split <;> exact ⟨rfl, fun completed => by cases completed⟩

theorem follows_operatorChange {action : OperatorAction} {who : String} {now : Time} {task : Task} {change : Task → Task}
    (allowed : operatorChange action who now task = .ok change) : Follows task (change task) := by
  cases action <;> simp only [operatorChange] at allowed <;> try split at allowed
  all_goals cases allowed
  all_goals exact ⟨rfl, fun completed => by cases completed⟩

theorem reviewedStatus_open (decision : String) : reviewedStatus decision ≠ .completed := by
  unfold reviewedStatus
  split
  · decide
  · split <;> decide

/-- Only a report completes a task. -/
theorem Moved.follows {call : LedgerCall} {task moved : Task} (move : Moved texts call task moved)
    (going : ¬ Completes call task) : Follows task moved := by
  cases move with
  | annotated => exact ⟨rfl, id⟩
  | claimed | reviewClaimed | reopened => exact ⟨rfl, fun completed => by cases completed⟩
  | @finished status artifact note called =>
    refine ⟨?_, fun completed => ?_⟩
    · unfold ControlPlane.finished
      dsimp only
      split <;> rfl
    · have reported : status = .completed := completed
      exact absurd ⟨artifact, note, reported ▸ called⟩ going
  | reviewFinished called =>
    refine ⟨?_, fun completed => absurd completed (reviewedStatus_open _)⟩
    unfold ControlPlane.reviewFinished
    dsimp only
    split <;> rfl
  | requeued =>
    refine ⟨rfl, fun completed => ?_⟩
    unfold ControlPlane.requeued at completed
    dsimp only at completed
    split at completed <;> cases completed
  | triaged others => exact follows_triaged _ _ others task
  | landed => exact follows_landedTask _ _ task
  | operated _ _ allowed => exact follows_operatorChange allowed

theorem generated_of_get? {id : Nat} {task : Task} (found : data.get? id = some task) (going : task.status ≠ .completed) :
    Generated data.tasks.rows task.milestone :=
  ⟨task, Table.mem_of_get? found, rfl, going⟩

/-- A generated milestone stays generated until one of its tasks is reported as completed. -/
theorem generated_step {call : LedgerCall} {milestone : String} (generated : Generated data.tasks.rows milestone)
    (going : ∀ task, ¬ Completes call task) : Generated (step texts call data).2.tasks.rows milestone := by
  obtain ⟨task, member, rfl, unfinished⟩ := generated
  obtain ⟨moved, found, move⟩ := step_moved texts call (data.tasks.get?_key member)
  obtain ⟨milestone, status⟩ := move.follows (going task)
  rw [← milestone]
  exact generated_of_get? found fun completed => unfinished (status completed)

theorem get?_enqueue (title prompt milestone : String) (priority : Int) (now : Time) (data : Data) :
    (enqueue title prompt milestone priority now data).get? data.nextId =
      some (queuedTask title prompt milestone priority now data.nextId) := by
  rw [enqueue, Data.get?_append, if_pos rfl]
  rfl

/-- The task of a queued milestone is there. -/
theorem generated_queueMilestone (now : Time) (item : Milestone) :
    Generated (queueMilestone now data item).tasks.rows item.id := by
  obtain ⟨task, queued, about, ready⟩ : ∃ task, (enqueueMilestone item now data).get? data.nextId = some task ∧
      task.milestone = item.id ∧ task.status = .ready := by
    unfold enqueueMilestone
    exact ⟨_, get?_enqueue .., rfl, rfl⟩
  have unfinished : task.status ≠ .completed := by
    rw [ready]
    decide
  unfold queueMilestone
  cases marks : markLast (enqueueMilestone item now data) with
  | none => exact ⟨task, Table.mem_of_get? queued, about, unfinished⟩
  | some marked =>
    obtain ⟨source, found⟩ := markLast_source marks queued
    exact ⟨{ task with source }, Table.mem_of_get? found, about, unfinished⟩

theorem generated_queued (now : Time) {items : List Milestone} {milestone : String}
    (known : Generated data.tasks.rows milestone ∨ milestone ∈ items.map (·.id)) :
    Generated (items.foldl (queueMilestone now) data).tasks.rows milestone := by
  induction items generalizing data with
  | nil => exact known.resolve_right List.not_mem_nil
  | cons item rest ih =>
    rw [List.foldl_cons]
    apply ih
    rcases known with ⟨task, member, rfl, unfinished⟩ | queued
    · obtain ⟨source, found⟩ := queueMilestone_source now item (data.tasks.get?_key member)
      exact .inl ⟨_, Table.mem_of_get? found, rfl, unfinished⟩
    · rcases List.mem_cons.mp queued with rfl | later
      · exact .inl (generated_queueMilestone now item)
      · exact .inr later

/-! ## A run -/

/-- The milestones for which a call queues a task. -/
def queuedBy (call : LedgerCall) (data : Data) : List Milestone :=
  match call.operation with
  | .ensureWorkflowTasks milestones limit => wanted milestones limit data
  | _ => []

/-- The milestones for which the calls of a run queue a task, in the order of the calls. -/
def queuedAlong (texts : Texts) : Data → List LedgerCall → List Milestone
  | _, [] => []
  | data, call :: rest => queuedBy call data ++ queuedAlong texts (step texts call data).2 rest

/-- A call queues for distinct milestones, of which none was generated before and all are afterwards. -/
theorem queuedBy_generated (texts : Texts) (call : LedgerCall) (data : Data) :
    ((queuedBy call data).map (·.id)).Nodup ∧
      ∀ item ∈ queuedBy call data,
        ¬ Generated data.tasks.rows item.id ∧ Generated (step texts call data).2.tasks.rows item.id := by
  obtain ⟨operation, now⟩ := call
  cases operation with
  | ensureWorkflowTasks milestones limit =>
    refine ⟨wantedLoop_nodup List.nodup_nil, fun item queued => ?_⟩
    have eligible := (wantedLoop_eligible queued).resolve_left List.not_mem_nil
    exact ⟨eligible.1, generated_queued now (.inr (List.mem_map_of_mem queued))⟩
  | _ => exact ⟨List.nodup_nil, by simp [queuedBy]⟩

theorem generated_ledger {calls : List LedgerCall} {milestone : String} (generated : Generated data.tasks.rows milestone)
    (going : ∀ call ∈ calls, ∀ task, ¬ Completes call task) :
    Generated (ledger texts data calls).tasks.rows milestone := by
  induction calls generalizing data with
  | nil => exact generated
  | cons call rest ih =>
    rw [ledger, final_cons]
    apply ih (generated_step generated (going call (List.mem_cons_self ..)))
    exact fun later member => going later (List.mem_cons_of_mem _ member)

/-- As long as no worker reports a task as completed, no milestone is queued twice, however the scheduler's calls
    are interleaved with everything else that rewrites the ledger. -/
theorem milestones_queued_once (texts : Texts) (start : Data) (calls : List LedgerCall)
    (going : ∀ call ∈ calls, ∀ task, ¬ Completes call task) :
    ((queuedAlong texts start calls).map (·.id)).Nodup ∧
      ∀ item ∈ queuedAlong texts start calls,
        ¬ Generated start.tasks.rows item.id ∧ Generated (ledger texts start calls).tasks.rows item.id := by
  induction calls generalizing start with
  | nil => exact ⟨List.nodup_nil, by simp [queuedAlong]⟩
  | cons call rest ih =>
    have now_going := going call (List.mem_cons_self ..)
    have later_going : ∀ later ∈ rest, ∀ task, ¬ Completes later task :=
      fun later member => going later (List.mem_cons_of_mem _ member)
    obtain ⟨distinct, here⟩ := queuedBy_generated texts call start
    obtain ⟨later_distinct, later⟩ := ih (step texts call start).2 later_going
    rw [queuedAlong, ledger, final_cons]
    refine ⟨?_, fun item queued => ?_⟩
    · rw [List.map_append]
      refine List.Nodup.append distinct later_distinct fun id now_queued later_queued => ?_
      obtain ⟨item, member, rfl⟩ := List.mem_map.mp now_queued
      obtain ⟨other, there, same⟩ := List.mem_map.mp later_queued
      exact (later other there).1 (same ▸ (here item member).2)
    · rcases List.mem_append.mp queued with now_queued | later_queued
      · exact ⟨(here item now_queued).1, generated_ledger (here item now_queued).2 later_going⟩
      · obtain ⟨fresh, reached⟩ := later item later_queued
        -- what was generated at the start would be so after the call
        exact ⟨fun before => fresh (generated_step before now_going), reached⟩

def sampleMilestones : List Milestone :=
  [⟨"M1", "Orders", "ready", 50, [], "", ""⟩, ⟨"M2", "Returns", "in_progress", 90, [], "", ""⟩,
    ⟨"M3", "Claims", "ready", 99, ["M2"], "", ""⟩]

def sampleCalls (report : TaskStatus) : List LedgerCall :=
  [⟨.ensureWorkflowTasks sampleMilestones 1, 0⟩, ⟨.claim "worker" "local-impl" 1, 1⟩, ⟨.finish 1 report "" "", 2⟩,
    ⟨.ensureWorkflowTasks sampleMilestones 1, 3⟩, ⟨.ensureWorkflowTasks sampleMilestones 2, 4⟩]

theorem milestones_queued_once_blocked :
    (queuedAlong plainTexts .empty (sampleCalls .blocked)).map (·.id) = ["M2", "M1"] ∧
      ((queuedAlong plainTexts .empty (sampleCalls .blocked)).map (·.id)).Nodup := by
  refine ⟨by decide +kernel, (milestones_queued_once plainTexts .empty (sampleCalls .blocked) ?_).1⟩
  intro call member task completes
  obtain ⟨artifact, note, called⟩ := completes
  simp only [sampleCalls, List.mem_cons, List.not_mem_nil, or_false] at member
  rcases member with rfl | rfl | rfl | rfl | rfl <;> simp at called

-- A milestone whose task has been completed is queued again.
example : (queuedAlong plainTexts .empty (sampleCalls .completed)).map (·.id) = ["M2", "M2", "M1"] := by decide +kernel

end AiStore.ControlPlane
