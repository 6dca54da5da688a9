import AiStore.ControlPlane.Operations

/-! Lanes and their capacity: `claim` counts its own lane, `claim_review` every active task.

The capacity of a lane is what `effective_capacity` reads for it; a pool of
negative size has no slots.
-/

set_option autoImplicit false

namespace AiStore.ControlPlane

section

variable (texts : Texts)

/-- The task is in progress in the hands of a worker of the lane. -/
def HeldIn (lane : String) (task : Task) : Prop := task.status = .inProgress ∧ laneOf texts task.worker = lane

instance (lane : String) : DecidablePred (HeldIn texts lane) := fun task => by
  unfold HeldIn
  exact inferInstance

def heldIn (lane : String) (data : Data) : Int := countStatus data fun task => HeldIn texts lane task

def reviewing (data : Data) : Int := countStatus data fun task => task.status = .reviewing

/-- The tasks that count against a lane; reviews share the local slots. -/
def load (lane : String) (data : Data) : Int :=
  if lane = implRole then heldIn texts lane data + reviewing data else heldIn texts lane data

/-- A ready task that the workers of a lane may take. -/
def Takeable (lane : String) (task : Task) : Prop :=
  task.role = implRole ∧ task.status = .ready ∧ (task.preferredLane = "" ∨ task.preferredLane = lane)

instance (lane : String) : DecidablePred (Takeable lane) := fun task => by
  unfold Takeable
  exact inferInstance

/-- The calls of the lanes' workers, each named after its lane, and of those around them. -/
inductive LaneCall (capacity : String → Int) : Operation → Prop where
  | claim (worker : String) :
      LaneCall capacity (.claim worker (laneOf texts worker) (capacity (laneOf texts worker)))
  | claimReview (worker : String) : LaneCall capacity (.claimReview worker (capacity implRole))
  | finish (id : Nat) {status : TaskStatus} (artifact note : String) : ¬ status.Active →
      LaneCall capacity (.finish id status artifact note)
  | finishReview (id : Nat) (decision artifact note : String) :
      LaneCall capacity (.finishReview id decision artifact note)
  | requeueStale (staleAfterSeconds : Int) (note : String) :
      LaneCall capacity (.requeueStale staleAfterSeconds note)

/-- No lane holds more than its slots, nor a task that prefers another lane. -/
structure WithinCapacity (capacity : String → Int) (data : Data) : Prop where
  lanes : ∀ lane, heldIn texts lane data ≤ max (capacity lane) 0
  shared : heldIn texts implRole data + reviewing data ≤ max (capacity implRole) 0
  preferred : ∀ task ∈ data.tasks.rows, task.status = .inProgress →
    task.preferredLane = "" ∨ task.preferredLane = laneOf texts task.worker

end

variable {texts : Texts} {capacity : String → Int} {data : Data} {id : Nat} {task : Task}

/-! ## Counts -/

/-- An edit writes the task that it finds, or nothing. -/
theorem tasks_edit (data : Data) (id : Nat) {change : Task → Task} (kept : ∀ task, (change task).id = task.id) :
    (data.edit id change).tasks = data.tasks ∨
      ∃ task, data.get? id = some task ∧ (data.edit id change).tasks = data.tasks.put (change task) := by
  unfold Data.edit
  split
  · exact .inl rfl
  · next task found =>
    refine .inr ⟨task, found, ?_⟩
    have same : { change task with id := task.id } = change task := by rw [← kept task]
    change data.tasks.put { change task with id := task.id } = _
    rw [same]

theorem countStatus_edit_le (data : Data) (id : Nat) (counted : Task → Bool) {change : Task → Task}
    (kept : ∀ task, (change task).id = task.id) (uncounted : ∀ task, counted (change task) = false) :
    countStatus (data.edit id change) counted ≤ countStatus data counted := by
  unfold countStatus
  rcases tasks_edit data id kept with same | ⟨task, -, put⟩
  · rw [same]
  · have bound := Library.Table.countP_put_le data.tasks counted (change task)
    rw [put]
    simpa [uncounted task] using bound

/-- One edit adds at most the task that it writes. -/
theorem countStatus_edit_le_succ (counted : Task → Bool) {change : Task → Task}
    (kept : ∀ task, (change task).id = task.id) :
    countStatus (data.edit id change) counted ≤ countStatus data counted + 1 := by
  unfold countStatus
  rcases tasks_edit data id kept with same | ⟨task, -, put⟩
  · rw [same]
    omega
  · have bound := Library.Table.countP_put_le data.tasks counted (change task)
    rw [put]
    split at bound <;> omega

theorem mem_edit {change : Task → Task} (kept : ∀ task, (change task).id = task.id)
    (member : task ∈ (data.edit id change).tasks.rows) :
    task ∈ data.tasks.rows ∨ ∃ old, data.get? id = some old ∧ task = change old := by
  rcases tasks_edit data id kept with same | ⟨old, found, put⟩
  · exact .inl (same ▸ member)
  · rw [put] at member
    exact ((Library.Table.mem_put _ _ _).mp member).symm.imp (·.1) fun same => ⟨old, found, same⟩

/-! ## Edits that leave a task inactive -/

theorem reviewedStatus_inactive (decision : String) : ¬ (reviewedStatus decision).Active := by
  unfold reviewedStatus
  split
  · decide
  · split <;> decide

theorem WithinCapacity.released (within : WithinCapacity texts capacity data) {change : Task → Task}
    (kept : ∀ task, (change task).id = task.id) (inactive : ∀ task, ¬ (change task).status.Active) :
    WithinCapacity texts capacity (data.edit id change) := by
  have unheld : ∀ lane task, decide (HeldIn texts lane (change task)) = false := fun lane task =>
    decide_eq_false fun held => inactive task (.inl held.1)
  have unreviewed : ∀ task, decide ((change task).status = .reviewing) = false := fun task =>
    decide_eq_false fun reviews => inactive task (.inr reviews)
  have fewer_held := fun lane => countStatus_edit_le data id (fun task => decide (HeldIn texts lane task)) kept
    (unheld lane)
  have fewer_reviews := countStatus_edit_le data id (fun task => decide (task.status = .reviewing)) kept unreviewed
  constructor
  · exact fun lane => (fewer_held lane).trans (within.lanes lane)
  · exact (Int.add_le_add (fewer_held implRole) fewer_reviews).trans within.shared
  · intro task member held
    rcases mem_edit kept member with there | ⟨old, -, rfl⟩
    · exact within.preferred task there held
    · exact absurd (.inl held) (inactive old)

theorem WithinCapacity.released_each (within : WithinCapacity texts capacity data) {change : Task → Task}
    (kept : ∀ task, (change task).id = task.id) (inactive : ∀ task, ¬ (change task).status.Active) (ids : List Nat) :
    WithinCapacity texts capacity (ids.foldl (fun data id => data.edit id change) data) := by
  induction ids generalizing data with
  | nil => exact within
  | cons first rest ih => exact ih (within.released kept inactive)

theorem WithinCapacity.reported (within : WithinCapacity texts capacity data) {change : Task → Task}
    (kept : ∀ task, (change task).id = task.id) (inactive : ∀ task, ¬ (change task).status.Active)
    {result : Task × Data} (ran : onTask id data change = .ok result) : WithinCapacity texts capacity result.2 := by
  unfold onTask at ran
  split at ran
  · cases ran
  · cases ran
    exact within.released kept inactive

/-! ## Claims -/

/-- A claim takes nothing, or a task that its lane may take, into a free slot. -/
theorem claim_takes (texts : Texts) (worker role : String) (effective : Int) (now : Time) (data : Data) :
    (claim texts worker role effective now data).2 = data ∨
      ∃ chosen, data.get? chosen.id = some chosen ∧ Takeable role chosen ∧ load texts role data < effective ∧
        (claim texts worker role effective now data).2 = data.edit chosen.id (taken worker now) := by
  unfold claim
  extract_lets held active
  split
  · exact .inl rfl
  · next room =>
    dsimp only
    split
    · exact .inl rfl
    · next chosen first =>
      obtain ⟨stored, opened⟩ := List.mem_filter.mp (firstOf_mem first)
      exact .inr ⟨chosen, data.tasks.get?_key stored, of_decide_eq_true opened, Int.not_le.mp room, rfl⟩

theorem claimReview_takes (worker : String) (effective : Int) (now : Time) (data : Data) :
    (claimReview worker effective now data).2 = data ∨
      ∃ chosen, data.get? chosen.id = some chosen ∧ chosen.status = .needsReview ∧
        (countStatus data fun task => task.status.Active) < effective ∧
        (claimReview worker effective now data).2 = data.edit chosen.id (takenForReview worker now) := by
  unfold claimReview
  dsimp only
  split
  · exact .inl rfl
  · next room =>
    split
    · exact .inl rfl
    · next chosen first =>
      obtain ⟨stored, waiting⟩ := List.mem_filter.mp (firstOf_mem first)
      exact .inr ⟨chosen, data.tasks.get?_key stored, of_decide_eq_true waiting, Int.not_le.mp room, rfl⟩

/-- What a lane holds and what is reviewed is active. -/
theorem load_le_active (texts : Texts) (lane : String) (data : Data) :
    heldIn texts lane data + reviewing data ≤ countStatus data fun task => task.status.Active := by
  unfold heldIn reviewing countStatus
  induction data.tasks.rows with
  | nil => simp
  | cons first rest ih =>
    simp only [List.countP_cons, decide_eq_true_eq]
    -- a task is held or under review, never both
    by_cases held : HeldIn texts lane first
    · have active : first.status.Active := .inl held.1
      have unreviewed : first.status ≠ .reviewing := fun reviews => TaskStatus.noConfusion (held.1.symm.trans reviews)
      rw [if_pos held, if_pos active, if_neg unreviewed]
      omega
    · rw [if_neg held]
      by_cases reviews : first.status = .reviewing
      · have active : first.status.Active := .inr reviews
        rw [if_pos reviews, if_pos active]
        omega
      · rw [if_neg reviews]
        omega

theorem WithinCapacity.claimed (within : WithinCapacity texts capacity data) (worker : String) (now : Time)
    {chosen : Task} (present : data.get? chosen.id = some chosen) (takeable : Takeable (laneOf texts worker) chosen)
    (room : load texts (laneOf texts worker) data < capacity (laneOf texts worker)) :
    WithinCapacity texts capacity (data.edit chosen.id (taken worker now)) := by
  have other : ∀ lane, laneOf texts worker ≠ lane →
      heldIn texts lane (data.edit chosen.id (taken worker now)) ≤ heldIn texts lane data := by
    intro lane apart
    exact countStatus_edit_le _ _ _ (fun _ => rfl) fun task =>
      decide_eq_false fun held : HeldIn texts lane (taken worker now task) => apart held.2
  have reviews : reviewing (data.edit chosen.id (taken worker now)) ≤ reviewing data :=
    countStatus_edit_le _ _ _ (fun _ => rfl) fun _ => rfl
  have own : ∀ lane, heldIn texts lane (data.edit chosen.id (taken worker now)) ≤ heldIn texts lane data + 1 :=
    fun lane => countStatus_edit_le_succ _ fun _ => rfl
  have none_lost : 0 ≤ reviewing data := Int.natCast_nonneg _
  constructor
  · intro lane
    -- only the lane of the worker holds more, and that one had room
    by_cases same : laneOf texts worker = lane
    · subst same
      have more := own (laneOf texts worker)
      unfold load at room
      split at room <;> omega
    · exact (other lane same).trans (within.lanes lane)
  -- the local lane counts the reviews with its own tasks, so its room is the shared one
  · by_cases same : laneOf texts worker = implRole
    · have more := own implRole
      rw [same] at room
      rw [load, if_pos rfl] at room
      omega
    · exact (Int.add_le_add (other implRole same) reviews).trans within.shared
  · intro task member held
    have kept : ∀ task, (taken worker now task).id = task.id := fun _ => rfl
    rcases mem_edit kept member with there | ⟨old, found, rfl⟩
    · exact within.preferred task there held
    · cases present.symm.trans found
      exact takeable.2.2

theorem WithinCapacity.reviewClaimed (within : WithinCapacity texts capacity data) (worker : String) (now : Time)
    {chosen : Task} (room : (countStatus data fun task => task.status.Active) < capacity implRole) :
    WithinCapacity texts capacity (data.edit chosen.id (takenForReview worker now)) := by
  have held : ∀ lane, heldIn texts lane (data.edit chosen.id (takenForReview worker now)) ≤ heldIn texts lane data :=
    fun lane => countStatus_edit_le _ _ _ (fun _ => rfl) fun _ => rfl
  have reviews : reviewing (data.edit chosen.id (takenForReview worker now)) ≤ reviewing data + 1 :=
    countStatus_edit_le_succ _ fun _ => rfl
  have active := load_le_active texts implRole data
  constructor
  · exact fun lane => (held lane).trans (within.lanes lane)
  -- all active tasks bound the shared load, and there was room for one more
  · have before := held implRole
    omega
  · intro task member holds
    have kept : ∀ task, (takenForReview worker now task).id = task.id := fun _ => rfl
    rcases mem_edit kept member with there | ⟨old, -, rfl⟩
    · exact within.preferred task there holds
    · cases holds

/-! ## Runs -/

theorem within_step {call : LedgerCall} (allowed : LaneCall texts capacity call.operation)
    (within : WithinCapacity texts capacity data) : WithinCapacity texts capacity (step texts call data).2 := by
  obtain ⟨operation, now⟩ := call
  cases ran : perform texts operation now data with
  | error why =>
    rw [step_error ran]
    exact within
  | ok after =>
    rw [step_ok ran]
    -- claims move a task into a lane that had room; the other three operations only take tasks out
    cases allowed with
    | claim worker =>
      cases ran
      rcases claim_takes texts worker (laneOf texts worker) (capacity (laneOf texts worker)) now data with
        same | ⟨chosen, present, takeable, room, taken⟩
      · rwa [same]
      · rw [taken]
        exact within.claimed worker now present takeable room
    | claimReview worker =>
      cases ran
      rcases claimReview_takes worker (capacity implRole) now data with same | ⟨chosen, -, -, room, taken⟩
      · rwa [same]
      · rw [taken]
        exact within.reviewClaimed worker now room
    | finish id artifact note inactive =>
      obtain ⟨pair, finishes, rfl⟩ := map_ok ran
      exact within.reported (fun task => finished_id ..) (fun _ => inactive) finishes
    | finishReview id decision artifact note =>
      obtain ⟨pair, finishes, rfl⟩ := map_ok ran
      exact within.reported (fun task => reviewFinished_id ..) (fun _ => reviewedStatus_inactive decision) finishes
    | requeueStale staleAfterSeconds note =>
      cases ran
      have kept : ∀ task, (requeued texts note now task).id = task.id := fun _ => rfl
      apply within.released_each kept
      intro task
      change ¬ (if task.status = .reviewing then TaskStatus.needsReview else .ready).Active
      split <;> decide

theorem within_idle (capacity : String → Int) (idle : ∀ task ∈ data.tasks.rows, ¬ task.status.Active) :
    WithinCapacity texts capacity data := by
  have unheld : ∀ lane, heldIn texts lane data = 0 := by
    intro lane
    simp only [heldIn, countStatus, Int.natCast_eq_zero, List.countP_eq_zero, decide_eq_true_eq]
    exact fun task member held => idle task member (.inl held.1)
  have unreviewed : reviewing data = 0 := by
    simp only [reviewing, countStatus, Int.natCast_eq_zero, List.countP_eq_zero, decide_eq_true_eq]
    exact fun task member reviews => idle task member (.inr reviews)
  constructor
  · intro lane
    rw [unheld]
    exact le_max_right _ _
  · rw [unheld, unreviewed]
    exact le_max_right _ _
  · exact fun task member held => absurd (.inl held) (idle task member)

theorem firstOf_none {candidates : List Task} (empty : firstOf candidates = none) : candidates = [] := by
  have sorted := List.perm_insertionSort (fun first second => sooner first second = true) candidates
  rw [firstOf, List.head?_eq_none_iff] at empty
  rw [empty] at sorted
  exact sorted.symm.eq_nil

/-- A lane with room takes a task that it may take, however full the others are. -/
theorem claim_of_room (worker role : String) (effective : Int) (now : Time) (room : load texts role data < effective)
    (takeable : ∃ task ∈ data.tasks.rows, Takeable role task) :
    ∃ task ∈ data.tasks.rows, Takeable role task ∧
      (claim texts worker role effective now data).1 = some (taken worker now task) := by
  obtain ⟨task, member, opened⟩ := takeable
  -- the room of the lane is all that `claim` looks at, then the best of the tasks that the lane may take
  have free : ¬ effective ≤ load texts role data := Int.not_le.mpr room
  unfold claim
  extract_lets held active
  rw [show active = load texts role data from rfl, if_neg free]
  dsimp only
  split
  · next empty =>
    exact absurd (decide_eq_true opened) (List.filter_eq_nil_iff.mp (firstOf_none empty) task member)
  · next chosen first =>
    obtain ⟨stored, may⟩ := List.mem_filter.mp (firstOf_mem first)
    exact ⟨chosen, stored, of_decide_eq_true may, Data.get?_edit_self rfl (data.tasks.get?_key stored)⟩

/-- However the lanes' workers, reviews and the recovery of stale tasks interleave, every lane keeps within its
slots and off the tasks of others, and finds the tasks that it has room for. -/
theorem lanes_within_capacity (texts : Texts) (capacity : String → Int) (start : Data) (calls : List LedgerCall)
    (idle : ∀ task ∈ start.tasks.rows, ¬ task.status.Active)
    (allowed : ∀ call ∈ calls, LaneCall texts capacity call.operation) :
    WithinCapacity texts capacity (ledger texts start calls) ∧
      ∀ worker now, load texts (laneOf texts worker) (ledger texts start calls) < capacity (laneOf texts worker) →
        (∃ task ∈ (ledger texts start calls).tasks.rows, Takeable (laneOf texts worker) task) →
        ∃ task ∈ (ledger texts start calls).tasks.rows, Takeable (laneOf texts worker) task ∧
          (claim texts worker (laneOf texts worker) (capacity (laneOf texts worker)) now
            (ledger texts start calls)).1 = some (taken worker now task) := by
  constructor
  · unfold ledger
    apply Library.final_invariant (WithinCapacity texts capacity) (within_idle capacity idle)
    exact fun call member data within => within_step (allowed call member) within
  · exact fun worker now room takeable => claim_of_room worker _ _ now room takeable

/-- One ready task, which any lane may take. -/
def oneReady : Data :=
  Data.empty.append fun id =>
    { id, milestone := "OPERATOR", title := "title", role := implRole, priority := 98, status := .ready
      prompt := "instruction", createdAt := 0, updatedAt := 0 }

theorem lanes_within_capacity_claimed :
    WithinCapacity plainTexts (fun _ => 1) (ledger plainTexts oneReady [⟨.claim "cursor-impl" "cursor-impl" 1, 0⟩]) :=
  (lanes_within_capacity plainTexts (fun _ => 1) oneReady [⟨.claim "cursor-impl" "cursor-impl" 1, 0⟩]
    (by decide) fun call member => by
      cases List.mem_singleton.mp member
      have lane : laneOf plainTexts "cursor-impl" = "cursor-impl" := by decide +kernel
      have claims : LaneCall plainTexts (fun _ => 1) _ := .claim "cursor-impl"
      rwa [lane] at claims).1

end AiStore.ControlPlane
