import Mathlib.Logic.Function.Basic
import AiStore.Pipeline.Acceptance

/-! Two tasks in one repository, each in a worktree of its own. -/

set_option autoImplicit false

namespace AiStore.Pipeline

open Library

/-- Files by path. -/
abbrev Tree := Text → Option Text

/-- The commit of the main checkout, the tips of the branches and the files of the worktrees. -/
structure Repository where
  head : Tree
  branches : Text → Option Tree
  worktrees : Text → Option Tree

/-- A job, by its slug and the number of its acceptance criteria. -/
structure Identity where
  name : Text
  criteria : Nat

/-- What the stages do to the repository. -/
inductive Effect where
  /-- `_ensure_worktree`. -/
  | ensure
  /-- A model call in its sandbox, a test run, or the write of the evidence: whatever it makes of the worktree. -/
  | write (change : Tree → Tree)
  /-- `git commit` of the spec. -/
  | commitSpec
  /-- `git add -A` and `git commit`. -/
  | commitAll

namespace Identity

def branch (task : Identity) : Text := branchName task.name

def worktree (task : Identity) : Text := worktreePath task.name

def spec (task : Identity) : Text := specPath task.name

def perform (task : Identity) (effect : Effect) (repository : Repository) : Repository :=
  match effect with
  | .ensure =>
      match repository.worktrees task.worktree, repository.branches task.branch with
      | some _, _ => repository
      | none, some tip =>
          { repository with worktrees := Function.update repository.worktrees task.worktree (some tip) }
      | none, none =>
          { repository with
            branches := Function.update repository.branches task.branch (some repository.head)
            worktrees := Function.update repository.worktrees task.worktree (some repository.head) }
  | .write change =>
      { repository with
        worktrees := Function.update repository.worktrees task.worktree
          ((repository.worktrees task.worktree).map change) }
  | .commitSpec =>
      match repository.worktrees task.worktree, repository.branches task.branch with
      | some files, some tip =>
          { repository with
            branches := Function.update repository.branches task.branch
              (some (Function.update tip task.spec (files task.spec))) }
      | _, _ => repository
  | .commitAll =>
      match repository.worktrees task.worktree with
      | some files => { repository with branches := Function.update repository.branches task.branch (some files) }
      | none => repository

def performAll (task : Identity) (effects : List Effect) (repository : Repository) : Repository :=
  effects.foldl (fun current effect => task.perform effect current) repository

/-- The effects of two jobs, in the order in which they happen; the flag tells those of the second. -/
def performBoth (first second : Identity) (steps : List (Bool × Effect)) (repository : Repository) : Repository :=
  steps.foldl (fun current step => (if step.1 then second else first).perform step.2 current) repository

/-- The files, the tip of the branch and the acceptance digest, as the job finds them. -/
def sees (hash : Text → Text) (task : Identity) (repository : Repository) : Option Tree × Option Tree × Option Text :=
  (repository.worktrees task.worktree, repository.branches task.branch,
    ((repository.worktrees task.worktree).bind fun files => files task.spec).map
      (acceptanceDigest hash (acceptanceIds task.name task.criteria)))

/-- Different names, and no interleaving with the other job changes what a job sees. -/
structure Isolated (hash : Text → Text) (first second : Identity) : Prop where
  branches : first.branch ≠ second.branch
  worktrees : first.worktree ≠ second.worktree
  specs : first.spec ≠ second.spec
  unseen : ∀ (steps : List (Bool × Effect)) (repository : Repository),
    sees hash second (performBoth first second steps repository) =
      sees hash second (performAll second ((steps.filter Prod.fst).map Prod.snd) repository)

variable {task first second : Identity} {left right : Repository} {hash lower : Text → Text}

/-- Two repositories that are one to the task. -/
structure Agree (task : Identity) (left right : Repository) : Prop where
  head : left.head = right.head
  branch : left.branches task.branch = right.branches task.branch
  worktree : left.worktrees task.worktree = right.worktrees task.worktree

theorem Agree.refl (task : Identity) (repository : Repository) : Agree task repository repository := ⟨rfl, rfl, rfl⟩

theorem Agree.sees (agree : Agree task left right) : sees hash task left = sees hash task right := by
  rw [Identity.sees, Identity.sees, agree.branch, agree.worktree]

/-- An effect of a task with other names passes unseen. -/
theorem Agree.foreign (agree : Agree second left right) (branches : first.branch ≠ second.branch)
    (worktrees : first.worktree ≠ second.worktree) (effect : Effect) : Agree second (first.perform effect left) right := by
  obtain ⟨head, branch, worktree⟩ := agree
  cases effect with
  | ensure =>
    simp only [perform]
    split
    · exact ⟨head, branch, worktree⟩
    · exact ⟨head, branch, by simpa [Function.update_of_ne worktrees.symm] using worktree⟩
    · exact ⟨head, by simpa [Function.update_of_ne branches.symm] using branch,
        by simpa [Function.update_of_ne worktrees.symm] using worktree⟩
  | write change => exact ⟨head, branch, by simpa [perform, Function.update_of_ne worktrees.symm] using worktree⟩
  | commitSpec =>
    simp only [perform]
    split
    · exact ⟨head, by simpa [Function.update_of_ne branches.symm] using branch, worktree⟩
    · exact ⟨head, branch, worktree⟩
  | commitAll =>
    simp only [perform]
    split
    · exact ⟨head, by simpa [Function.update_of_ne branches.symm] using branch, worktree⟩
    · exact ⟨head, branch, worktree⟩

/-- A task does the same where it sees the same. -/
theorem Agree.perform (agree : Agree task left right) (effect : Effect) :
    Agree task (task.perform effect left) (task.perform effect right) := by
  obtain ⟨head, branch, worktree⟩ := agree
  cases effect with
  | ensure =>
    simp only [Identity.perform, branch, worktree]
    split
    · next files here _ => exact ⟨head, branch, worktree⟩
    · exact ⟨head, branch, by simp⟩
    · exact ⟨head, by simp [head], by simp [head]⟩
  | write change => exact ⟨head, branch, by simp [Identity.perform, worktree]⟩
  | commitSpec =>
    simp only [Identity.perform, branch, worktree]
    split
    · next files tip here there => exact ⟨head, by simp, worktree⟩
    · exact ⟨head, branch, worktree⟩
  | commitAll =>
    simp only [Identity.perform, worktree]
    split
    · next files here => exact ⟨head, by simp, worktree⟩
    · exact ⟨head, branch, worktree⟩

theorem agree_interleaved (branches : first.branch ≠ second.branch) (worktrees : first.worktree ≠ second.worktree)
    (steps : List (Bool × Effect)) (agree : Agree second left right) :
    Agree second (performBoth first second steps left) (performAll second ((steps.filter Prod.fst).map Prod.snd) right) := by
  -- on the steps: the second job stays behind two repositories that agree for it
  induction steps generalizing left right with
  | nil => exact agree
  | cons step rest ih =>
    obtain ⟨own, effect⟩ := step
    cases own with
    | true => exact ih (agree.perform effect)
    | false => exact ih (agree.foreign branches worktrees effect)

/-- Tasks are isolated from each other exactly where their slugs differ. -/
theorem isolated_iff (hash : Text → Text) {firstId secondId one another : Text} (criteria others : Nat)
    (left : slug lower firstId = .ok one) (right : slug lower secondId = .ok another) :
    Isolated hash ⟨one, criteria⟩ ⟨another, others⟩ ↔ slug lower firstId ≠ slug lower secondId := by
  rw [left, right]
  constructor
  · rintro isolated same
    cases same
    exact isolated.branches rfl
  · intro apart
    -- the three names are the slug between fixed texts
    have different : one ≠ another := fun same => apart (congrArg Except.ok same)
    have branches : Identity.branch ⟨one, criteria⟩ ≠ Identity.branch ⟨another, others⟩ :=
      fun same => different (List.append_cancel_left same)
    have worktrees : Identity.worktree ⟨one, criteria⟩ ≠ Identity.worktree ⟨another, others⟩ :=
      fun same => different (List.append_cancel_left same)
    refine ⟨branches, worktrees, ?_, fun steps repository => ?_⟩
    · exact fun same => different (List.append_cancel_left (List.append_cancel_right same))
    · exact (agree_interleaved branches worktrees steps (.refl _ repository)).sees

/-- Two tasks of the same letters and digits share everything. -/
theorem isolated_iff_names :
    Isolated id ⟨"demo".toList, 1⟩ ⟨"other".toList, 1⟩ ↔ slug id "demo".toList ≠ slug id "other".toList :=
  isolated_iff id 1 1 (by rfl) (by rfl)

/-- Different ids, one slug. -/
theorem slug_shared :
    "demo 1".toList ≠ "demo-1".toList ∧ slug id "demo 1".toList = .ok "demo-1".toList ∧
      slug id "demo-1".toList = .ok "demo-1".toList ∧ ¬ Isolated id ⟨"demo-1".toList, 1⟩ ⟨"demo-1".toList, 1⟩ :=
  ⟨by decide, by rfl, by rfl, fun isolated => isolated.branches rfl⟩

end Identity

end AiStore.Pipeline
