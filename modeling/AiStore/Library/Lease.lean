import Mathlib.Order.Basic

/-! Leases with fencing tokens.

A cell records at most one lease and the last token it gave out. Workers keep
their grants after the cell has forgotten them, so the question is not who is
written in the cell but whose grant is still live.
-/

set_option autoImplicit false

namespace AiStore.Library

variable {ω τ : Type}

structure Grant (ω τ : Type) where
  holder : ω
  token : Nat
  expiry : τ
  deriving DecidableEq, Repr

inductive LeaseEvent (ω τ : Type) where
  | granted : Grant ω τ → LeaseEvent ω τ
  | returned : Nat → LeaseEvent ω τ

def LeaseEvent.isGrant : LeaseEvent ω τ → Bool
  | .granted _ => true
  | .returned _ => false

/-- The grants a history (newest event first) leaves with their workers. -/
def outstanding : List (LeaseEvent ω τ) → List (Grant ω τ)
  | [] => []
  | .granted grant :: older => grant :: outstanding older
  | .returned token :: older => (outstanding older).filter fun grant => grant.token ≠ token

structure LeaseCell (ω τ : Type) where
  lease : Option (Grant ω τ)
  token : Nat

variable [Preorder τ]

/-- Histories of a cell that grants only when no recorded lease is live and gives
every grant a larger token; the index is the time of the last access. -/
inductive Leased : List (LeaseEvent ω τ) → LeaseCell ω τ → τ → Prop where
  | start {token : Nat} {now : τ} : Leased [] ⟨none, token⟩ now
  | grant {history : List (LeaseEvent ω τ)} {cell : LeaseCell ω τ} {before now : τ} {grant : Grant ω τ} :
      Leased history cell before → before ≤ now → (∀ held, cell.lease = some held → ¬ now < held.expiry) →
      cell.token < grant.token → Leased (.granted grant :: history) ⟨some grant, grant.token⟩ now
  | giveBack {history : List (LeaseEvent ω τ)} {cell : LeaseCell ω τ} {before now : τ} :
      Leased history cell before → before ≤ now →
      Leased (.returned cell.token :: history) ⟨none, cell.token⟩ now
  | idle {history : List (LeaseEvent ω τ)} {cell : LeaseCell ω τ} {before now : τ} :
      Leased history cell before → before ≤ now → Leased history cell now

namespace Leased

variable {history : List (LeaseEvent ω τ)} {cell : LeaseCell ω τ} {last now : τ}

theorem lease_token (leased : Leased history cell last) {held : Grant ω τ}
    (recorded : cell.lease = some held) : held.token = cell.token := by
  induction leased with
  | start => simp at recorded
  | grant => simp_all
  | giveBack => simp at recorded
  | idle _ _ ih => exact ih recorded

/-- A grant the cell has forgotten has run out. -/
theorem outstanding_cases (leased : Leased history cell last) {grant : Grant ω τ}
    (member : grant ∈ outstanding history) : cell.lease = some grant ∨ ¬ last < grant.expiry := by
  induction leased with
  | start => simp [outstanding] at member
  | grant _ later free _ ih =>
    rcases List.mem_cons.mp member with rfl | older
    · exact .inl rfl
    · rcases ih older with recorded | expired
      · exact .inr (free _ recorded)
      · exact .inr fun live => expired (lt_of_le_of_lt later live)
  | giveBack leased later ih =>
    simp only [outstanding, List.mem_filter, decide_eq_true_eq] at member
    rcases ih member.1 with recorded | expired
    · exact absurd (leased.lease_token recorded) member.2
    · exact .inr fun live => expired (lt_of_le_of_lt later live)
  | idle _ later ih =>
    rcases ih member with recorded | expired
    · exact .inl recorded
    · exact .inr fun live => expired (lt_of_le_of_lt later live)

/-- A live grant is the one the cell records. -/
theorem live_recorded (leased : Leased history cell last) (later : last ≤ now) {grant : Grant ω τ}
    (member : grant ∈ outstanding history) (live : now < grant.expiry) : cell.lease = some grant :=
  (leased.outstanding_cases member).resolve_right fun expired => expired (lt_of_le_of_lt later live)

/-- No two workers hold live grants at once. -/
theorem live_unique (leased : Leased history cell last) (later : last ≤ now) {first second : Grant ω τ}
    (first_member : first ∈ outstanding history) (first_live : now < first.expiry)
    (second_member : second ∈ outstanding history) (second_live : now < second.expiry) : first = second :=
  Option.some.inj ((leased.live_recorded later first_member first_live).symm.trans
    (leased.live_recorded later second_member second_live))

end Leased

end AiStore.Library
