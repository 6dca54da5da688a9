import AiStore.ControlPlane.Triage

/-! What an edit, a claim and a triage can do to the tasks of the ledger. -/

set_option autoImplicit false

namespace AiStore.ControlPlane

/-! ## Edits -/

variable {texts : Texts} {data : Data} {id : Nat} {task : Task}

theorem Data.named (found : data.get? id = some task) : task.id = id := Library.Table.key_of_get? found

theorem Data.get?_edit_self {change : Task → Task} (kept : (change task).id = task.id) (found : data.get? id = some task) :
    (data.edit id change).get? id = some (change task) := by
  rw [Data.get?_edit, if_pos rfl, found, Option.map_some, ← Data.named found, ← kept]

theorem Data.get?_edit_other (data : Data) {id other : Nat} (apart : other ≠ id) (change : Task → Task) :
    (data.edit id change).get? other = data.get? other := by
  rw [Data.get?_edit, if_neg apart]

/-- A loop of edits changes each task that it names once, and no other. -/
theorem Data.get?_edits {ids : List Nat} (distinct : ids.Nodup) (change : Data → Task → Task)
    (kept : ∀ data task, (change data task).id = task.id) (found : data.get? id = some task) :
    ∃ middle, (ids.foldl (fun data id => data.edit id (change data)) data).get? id =
      some (if id ∈ ids then change middle task else task) := by
  induction ids generalizing data with
  | nil => exact ⟨data, by simpa using found⟩
  | cons first rest ih =>
    obtain ⟨absent, apart⟩ := List.nodup_cons.mp distinct
    rw [List.foldl_cons]
    by_cases same : id = first
    · subst same
      have changed := Data.get?_edit_self (kept data task) found
      have later : ∀ (others : List Nat) (data : Data), id ∉ others →
          (others.foldl (fun data id => data.edit id (change data)) data).get? id = data.get? id := by
        intro others
        induction others with
        | nil => exact fun _ _ => rfl
        | cons head tail again =>
          intro data unnamed
          rw [List.mem_cons, not_or] at unnamed
          rw [List.foldl_cons, again _ unnamed.2, Data.get?_edit_other _ unnamed.1]
      exact ⟨data, by rw [later rest _ absent, changed, if_pos List.mem_cons_self]⟩
    · rw [← Data.get?_edit_other data same (change data)] at found
      obtain ⟨middle, reached⟩ := ih apart found
      refine ⟨middle, reached.trans ?_⟩
      simp only [List.mem_cons, same, false_or]

theorem Data.ids_nodup (data : Data) : data.ids.Nodup := data.tasks.unique

theorem Data.filtered_nodup (data : Data) (holds : Task → Bool) : ((data.tasks.rows.filter holds).map (·.id)).Nodup :=
  data.tasks.unique.sublist (List.filter_sublist.map _)

theorem Data.mem_filtered {holds : Task → Bool} (found : data.get? id = some task)
    (member : id ∈ (data.tasks.rows.filter holds).map (·.id)) : holds task = true := by
  obtain ⟨other, listed, named⟩ := List.mem_map.mp member
  obtain ⟨stored, held⟩ := List.mem_filter.mp listed
  have same : data.get? other.id = some other := data.tasks.get?_key stored
  rw [named, found] at same
  cases same
  exact held

theorem Data.get?_append_old (data : Data) (make : Nat → Task) (found : data.get? id = some task) :
    (data.append make).get? id = some task := by
  have known : id < data.nextId := Data.named found ▸ data.fresh task (Library.Table.mem_of_get? found)
  rw [Data.get?_append, if_neg (Nat.ne_of_lt known), found]

theorem Data.edit_absent (other : Nat) (change : Task → Task) (absent : data.get? id = none) :
    (data.edit other change).get? id = none := by
  rw [Data.get?_edit]
  split
  · next same => rw [← same, absent, Option.map_none]
  · exact absent

theorem Data.edits_absent (ids : List Nat) (change : Data → Task → Task) (absent : data.get? id = none) :
    (ids.foldl (fun data id => data.edit id (change data)) data).get? id = none := by
  induction ids generalizing data with
  | nil => exact absent
  | cons first rest ih => exact ih (Data.edit_absent first (change data) absent)

/-- The ids of a sorted and cut choice among the tasks. -/
theorem Data.chosen_nodup (data : Data) (holds : Task → Bool) (limit : Nat) :
    ((((data.tasks.rows.filter holds).insertionSort fun first second => sooner first second).take limit).map
      (·.id)).Nodup := by
  have sorted : (((data.tasks.rows.filter holds).insertionSort fun first second => sooner first second).map
      (·.id)).Nodup := ((List.perm_insertionSort _ _).map _).nodup_iff.mpr (data.filtered_nodup holds)
  exact sorted.sublist ((List.take_sublist _ _).map _)

theorem Data.mem_chosen {holds : Task → Bool} {limit : Nat} (found : data.get? id = some task)
    (member : id ∈ (((data.tasks.rows.filter holds).insertionSort fun first second => sooner first second).take
      limit).map (·.id)) : holds task = true := by
  apply Data.mem_filtered found
  obtain ⟨other, listed, named⟩ := List.mem_map.mp member
  apply List.mem_map.mpr
  exact ⟨other, (List.perm_insertionSort _ _).mem_iff.mp (List.mem_of_mem_take listed), named⟩

/-! ## Claims -/

def taken (worker : String) (now : Time) (task : Task) : Task :=
  { task with
    status := .inProgress
    worker := worker
    phase := "claimed"
    heartbeatAt := some now
    startedAt := some now
    updatedAt := now
    lastError := "" }

def takenForReview (worker : String) (now : Time) (task : Task) : Task :=
  { task with
    status := .reviewing
    reviewer := worker
    phase := "review_llm"
    heartbeatAt := some now
    updatedAt := now }

/-- A claim takes nothing, or one task of the status, which it returns. -/
def Picks (data : Data) (status : TaskStatus) (change : Task → Task) (result : Option Task × Data) : Prop :=
  result = (none, data) ∨
    ∃ chosen, data.get? chosen.id = some chosen ∧ chosen.status = status ∧
      result = (some (change chosen), data.edit chosen.id change)

theorem firstOf_mem {candidates : List Task} (first : firstOf candidates = some task) : task ∈ candidates := by
  unfold firstOf at first
  exact (List.perm_insertionSort _ _).mem_iff.mp (List.mem_of_mem_head? first)

theorem claim_picks (texts : Texts) (worker role : String) (effective : Int) (now : Time) (data : Data) :
    Picks data .ready (taken worker now) (claim texts worker role effective now data) := by
  unfold claim
  extract_lets held active
  split
  · exact .inl rfl
  · dsimp only
    split
    · exact .inl rfl
    · next chosen first =>
      obtain ⟨stored, opened⟩ := List.mem_filter.mp (firstOf_mem first)
      have present := data.tasks.get?_key stored
      exact .inr ⟨chosen, present, (of_decide_eq_true opened).2.1, Prod.ext (Data.get?_edit_self rfl present) rfl⟩

theorem claimReview_picks (worker : String) (effective : Int) (now : Time) (data : Data) :
    Picks data .needsReview (takenForReview worker now) (claimReview worker effective now data) := by
  unfold claimReview
  dsimp only
  split
  · exact .inl rfl
  · split
    · exact .inl rfl
    · next chosen first =>
      obtain ⟨stored, waiting⟩ := List.mem_filter.mp (firstOf_mem first)
      have present := data.tasks.get?_key stored
      exact .inr ⟨chosen, present, of_decide_eq_true waiting, Prod.ext (Data.get?_edit_self rfl present) rfl⟩

section

variable {status : TaskStatus} {change : Task → Task} {result : Option Task × Data} {picked : Task}

/-- A task through a claim is as it was, or the claim has taken it. -/
theorem Picks.moved (picks : Picks data status change result) (kept : ∀ task, (change task).id = task.id)
    (found : data.get? id = some task) :
    result.2.get? id = some task ∨
      (task.status = status ∧ result.1 = some (change task) ∧ result.2.get? id = some (change task)) := by
  rcases picks with rfl | ⟨chosen, present, waiting, rfl⟩
  · exact .inl found
  · by_cases same : id = chosen.id
    · subst same
      cases present.symm.trans found
      exact .inr ⟨waiting, rfl, Data.get?_edit_self (kept _) present⟩
    · exact .inl ((Data.get?_edit_other data same change).trans found)

theorem Picks.unchanged (picks : Picks data status change result) (empty : result.1 = none) : result.2 = data := by
  rcases picks with rfl | ⟨chosen, -, -, rfl⟩
  · rfl
  · cases empty

/-- What a claim returns is what the ledger then has. -/
theorem Picks.returned (picks : Picks data status change result) (kept : ∀ task, (change task).id = task.id)
    (some_task : result.1 = some picked) : result.2.get? picked.id = some picked := by
  rcases picks with rfl | ⟨chosen, present, -, rfl⟩
  · cases some_task
  · cases some_task
    rw [kept chosen]
    exact Data.get?_edit_self (kept chosen) present

theorem Picks.absent (picks : Picks data status change result) (absent : data.get? id = none) :
    result.2.get? id = none := by
  rcases picks with rfl | ⟨chosen, -, -, rfl⟩
  · exact absent
  · exact Data.edit_absent chosen.id change absent

end

/-! ## Triages -/

section

variable (texts : Texts) (around : Surroundings) (now : Time) (others : List Task) (task : Task)

/-- The loop guard does not act on the task. -/
def Unlooped : Prop := Guardable task → LoopGuard.verdict texts around.failing task others = none

/-- What one turn of a triage can do to a task. -/
inductive TriageMove : Task → Prop where
  | kept : Unlooped texts around others task → TriageMove task
  | remediated {verdict : LoopGuard.Verdict} {instruction : String} : Guardable task →
      LoopGuard.verdict texts around.failing task others = some verdict → verdict.action = .remediate instruction →
      TriageMove (remediated verdict instruction now task)
  | diagnosed {verdict : LoopGuard.Verdict} (record : Option Escalation) : Guardable task →
      TriageMove (escalate record ("loop:" ++ verdict.cause) now (diagnosed verdict now task))
  | requeued {cause : String} {remedy : Remedy} : Unlooped texts around others task → task.status = .blocked →
      TriageMove (requeuedFree cause remedy now task)
  | exhausted {cause : String} (record : Option Escalation) : Unlooped texts around others task →
      task.status = .blocked → TriageMove (escalate record cause now task)
  | escalated : Unlooped texts around others task → task.status = .escalated →
      TriageMove (triageEscalated around now task)
  | decided : Unlooped texts around others task → task.status = .needsDecision → TriageMove (triageDecision now task)

theorem triaged_move : TriageMove texts around now others task (triaged texts around now others task) := by
  unfold triaged
  split
  · next guarded acted =>
    unfold loopGuard at acted
    split at acted
    · cases acted
    · next guardable =>
      rw [not_not] at guardable
      split at acted
      · cases acted
      · next verdict told =>
        split at acted
        · next instruction remedy =>
          cases acted
          exact .remediated guardable told remedy
        · cases acted
          exact .diagnosed _ guardable
  · next idle =>
    have silent : Unlooped texts around others task := by
      intro guardable
      unfold loopGuard at idle
      rw [if_neg (not_not.mpr guardable)] at idle
      split at idle
      · next silent => exact silent
      · split at idle <;> cases idle
    split
    · next blocked =>
      unfold triageBlocked
      split
      · exact .requeued silent blocked
      · split
        · exact .exhausted _ silent blocked
        · exact .kept silent
    · split
      · next escalated => exact .escalated silent escalated
      · split
        · next deciding => exact .decided silent deciding
        · exact .kept silent

end

/-- An escalation leaves the task with Codex or to Claude Code, and its history as it was. -/
theorem escalate_left (record : Option Escalation) (cause : String) (now : Time) (task : Task) :
    (escalate record cause now task).status = .escalated ∨
      (escalate record cause now task).status = .blocked ∧ (escalate record cause now task).phase = "needs_claude" := by
  cases record with
  | none => exact .inr ⟨rfl, rfl⟩
  | some record => exact .inl rfl

theorem escalate_frame (record : Option Escalation) (cause : String) (now : Time) (task : Task) :
    (escalate record cause now task).id = task.id ∧ (escalate record cause now task).artifact = task.artifact := by
  cases record <;> exact ⟨rfl, rfl⟩

theorem triageEscalated_frame (around : Surroundings) (now : Time) (task : Task) :
    (triageEscalated around now task).id = task.id ∧ (triageEscalated around now task).artifact = task.artifact ∧
      (triageEscalated around now task).attempts = task.attempts ∧
      (triageEscalated around now task).loopGuard = task.loopGuard := by
  unfold triageEscalated
  dsimp only
  split <;> exact ⟨rfl, rfl, rfl, rfl⟩

/-- A task at Codex is done, is left to Claude Code, or stays there. -/
theorem triageEscalated_status (around : Surroundings) (now : Time) (waiting : task.status = .escalated) :
    (triageEscalated around now task).status = .done ∨ (triageEscalated around now task).status = .blocked ∨
      (triageEscalated around now task).status = .escalated := by
  unfold triageEscalated
  dsimp only
  split
  · exact .inl rfl
  · exact .inr (.inl rfl)
  · exact .inr (.inl rfl)
  · exact .inr (.inr waiting)

theorem triageDecision_frame (now : Time) (task : Task) :
    (triageDecision now task).id = task.id ∧ (triageDecision now task).artifact = task.artifact ∧
      (triageDecision now task).attempts = task.attempts ∧ (triageDecision now task).loopGuard = task.loopGuard ∧
      (triageDecision now task).status = task.status := by
  unfold triageDecision
  split <;> exact ⟨rfl, rfl, rfl, rfl, rfl⟩

end AiStore.ControlPlane
