import AiStore.Library.Transaction

/-! Operations on a part of a larger store. -/

set_option autoImplicit false

namespace AiStore.Library

/-- A part that can be read and replaced. -/
structure Part (σ τ : Type) where
  get : τ → σ
  set : σ → τ → τ
  get_set : ∀ part whole, get (set part whole) = part
  set_get : ∀ whole, set (get whole) whole = whole

variable {σ τ υ ε α : Type}

namespace Part

variable (part : Part σ τ)

def view (s : Session τ) : Session σ := { s with db := part.get s.db }

/-- The whole session, with its part and its supplies taken from another. -/
def back (s : Session τ) (after : Session σ) : Session τ := ⟨part.set after.db s.db, after.reads, after.uuids⟩

@[simp] theorem back_view (s : Session τ) : part.back s (part.view s) = s := by
  simp only [back, view, part.set_get]

end Part

namespace Txn

/-- An operation on the part, in the whole. -/
def on (part : Part σ τ) (body : Txn σ ε α) : Txn τ ε α where
  run s := ((body.run (part.view s)).1, part.back s (body.run (part.view s)).2)
  advances s := body.advances (part.view s)

variable {part : Part σ τ}

@[simp] theorem on_eq_ok (body : Txn σ ε α) (result : α) (s t : Session τ) :
    (on part body).run s = (.ok result, t) ↔
      ∃ after, body.run (part.view s) = (.ok result, after) ∧ t = part.back s after := by
  simp only [on, Prod.mk.injEq]
  constructor
  · rintro ⟨returned, rfl⟩
    exact ⟨_, Prod.ext returned rfl, rfl⟩
  · rintro ⟨after, ran, rfl⟩
    rw [ran]
    exact ⟨rfl, rfl⟩

/-- What lies beside the part stays. -/
theorem keeps_on {view : τ → υ} (beside : ∀ inner whole, view (part.set inner whole) = view whole) (body : Txn σ ε α) :
    Keeps view (on part body) := fun s => beside _ s.db

/-- What leaves the part alone leaves the whole alone. -/
theorem Keeps.on {body : Txn σ ε α} (keeps : Keeps (fun inner => inner) body) : Keeps (fun whole => whole) (on part body) :=
  fun s => (congrArg (part.set · s.db) (keeps (part.view s))).trans (part.set_get s.db)

end Txn

end AiStore.Library
