import Mathlib.Logic.Function.Basic
import AiStore.ControlPlane.Operations

/-! The patches between the workers, the reviews and the landing.

The ledger keeps the path of a patch only. The file is written and removed outside
the lock, by whoever runs the task or has run it; a review reads it for its gate, and
the landing reads it again.
-/

set_option autoImplicit false

namespace AiStore.ControlPlane

open Library

abbrev Patch := List UInt8

/-- The artifact of a task, below the directory of the control plane. -/
def artifactOf (id : Nat) : String := "artifacts/task-" ++ toString id ++ ".patch"

/-- A review behind its claim: what the claim returned of the task, and the bytes on which the gate has passed. -/
structure Review where
  id : Nat
  artifact : String
  gated : Option Patch := none

/-- The ledger, the artifacts and the reviews that have not ended. -/
structure Workshop where
  data : Data
  files : String → Option Patch
  reviews : List Review := []
  /-- For the statements only: what the gate of the last review that did not fail a task has passed on. -/
  passed : Nat → Option Patch := fun _ => none

inductive Event where
  /-- Any operation that a worker, a review or a landing does not make by the events below. -/
  | operate (call : LedgerCall)
  /-- A worker of the task writes its artifact, or removes it. -/
  | work (id : Nat) (written : Option Patch)
  | finish (id : Nat) (status : TaskStatus) (patched : Bool) (note : String) (now : Time)
  | claimReview (worker : String) (effective : Int) (now : Time)
  | gate (review : Nat) (passes : Bool)
  | finishReview (review : Nat) (decision reviewArtifact note : String) (now : Time)
  | land (outcome : Task → Patch → LandOutcome) (limit : Nat) (now : Time)

/-- The operations that are events of their own. -/
def Separate (operation : Operation) : Prop :=
  match operation with
  | .finish .. | .claimReview .. | .finishReview .. | .landReviewed .. => True
  | _ => False

instance (operation : Operation) : Decidable (Separate operation) := by
  unfold Separate
  split <;> exact inferInstance

/-- The statuses with which a worker ends. -/
def WorkerStatus (status : TaskStatus) : Prop := status = .needsReview ∨ status = .blocked ∨ status = .completed

instance (status : TaskStatus) : Decidable (WorkerStatus status) := by
  unfold WorkerStatus
  exact inferInstance

/-- A landing reads the artifacts as they are. -/
def landingOf (outcome : Task → Patch → LandOutcome) (files : String → Option Patch) : Landing where
  isFile path := (files path).isSome
  landPatch task :=
    match files task.artifact with
    | some bytes => outcome task bytes
    | none => .failed "no such file"

section

variable (texts : Texts)

def happen (event : Event) (shop : Workshop) : Workshop :=
  match event with
  | .operate call => if Separate call.operation then shop else { shop with data := (step texts call shop.data).2 }
  | .work id written => { shop with files := Function.update shop.files (artifactOf id) written }
  | .finish id status patched note now =>
      if WorkerStatus status then
        let artifact := if patched then artifactOf id else ""
        { shop with data := (step texts ⟨.finish id status artifact note, now⟩ shop.data).2 }
      else shop
  | .claimReview worker effective now =>
      let claimed := (claimReview worker effective now shop.data).1
      { shop with
        data := (step texts ⟨.claimReview worker effective, now⟩ shop.data).2
        reviews := shop.reviews ++ (claimed.map fun task => { id := task.id, artifact := task.artifact }).toList }
  | .gate review passes =>
      match shop.reviews[review]? with
      | none => shop
      | some current =>
          if current.artifact = "" ∨ passes = false ∨ current.gated ≠ none then shop
          else { shop with
            reviews := shop.reviews.set review { current with gated := shop.files current.artifact } }
  | .finishReview review decision reviewArtifact note now =>
      match shop.reviews[review]? with
      | none => shop
      | some current =>
          -- only a review whose gate has passed ends without a failure
          if reviewedStatus decision ≠ .blocked ∧ current.gated = none then shop
          else
            { shop with
              data := (step texts ⟨.finishReview current.id decision reviewArtifact note, now⟩ shop.data).2
              reviews := shop.reviews.eraseIdx review
              passed := if reviewedStatus decision = .blocked then shop.passed
                else Function.update shop.passed current.id current.gated }
  | .land outcome limit now =>
      { shop with data := (step texts ⟨.landReviewed (landingOf outcome shop.files) limit, now⟩ shop.data).2 }

/-- The workshop behind a run that starts on an empty ledger. -/
def workshop (files : String → Option Patch) (events : List Event) : Workshop :=
  events.foldl (fun shop event => happen texts event shop) { data := .empty, files }

end

/-- A landing commits these bytes for a task. -/
def Commits (shop : Workshop) (event : Event) (id : Nat) (bytes : Patch) : Prop :=
  match event with
  | .land outcome limit _ =>
      ∃ task ∈ (shop.data.tasks.rows.filter fun task => task.status = .reviewed).take limit, task.id = id ∧
        task.artifact ≠ "" ∧ shop.files task.artifact = some bytes ∧ ∃ sha, outcome task bytes = .landed sha
  | _ => False

/-- Whatever a landing of the run commits is what the gate passed on in the review behind it. -/
def LandsReviewed (texts : Texts) (files : String → Option Patch) (events : List Event) : Prop :=
  ∀ before event after, events = before ++ event :: after → ∀ id bytes,
    Commits (workshop texts files before) event id bytes → (workshop texts files before).passed id = some bytes

/-- Nobody writes the artifact of a task between the gate and the end of a review of it, or while it waits for the
decision or the landing. -/
def LeavesAlone (shop : Workshop) (event : Event) : Prop :=
  match event with
  | .work id _ =>
      (∀ review ∈ shop.reviews, review.id = id → review.gated = none) ∧
        ∀ task, shop.data.get? id = some task → task.status ≠ .needsDecision ∧ task.status ≠ .reviewed
  | _ => True

instance (shop : Workshop) (event : Event) : Decidable (LeavesAlone shop event) := by
  unfold LeavesAlone
  split
  · next id _ =>
    exact inferInstanceAs (Decidable ((∀ review ∈ shop.reviews, review.id = id → review.gated = none) ∧
      ∀ task ∈ shop.data.get? id, task.status ≠ .needsDecision ∧ task.status ≠ .reviewed))
  · exact inferInstance

end AiStore.ControlPlane
