import AiStore.Library.Timestamp
import Mathlib.Data.List.Sort

/-! Rows in the order of the ISO texts of their times, and of their identifiers where the texts are equal. -/

set_option autoImplicit false

namespace AiStore.Library

namespace Timestamp

theorem textLe_total (first second : Timestamp) : first.textLe second ∨ second.textLe first := by
  simp only [textLe]
  rcases lt_trichotomy first.wallSecond second.wallSecond with less | same | more
  · exact .inl (.inl less)
  · exact (codesLe_total first.textTail second.textTail).imp (fun le => .inr ⟨same, le⟩) fun le => .inr ⟨same.symm, le⟩
  · exact .inr (.inl more)

theorem textLe_trans {first second third : Timestamp} (left : first.textLe second) (right : second.textLe third) :
    first.textLe third := by
  simp only [textLe] at left right ⊢
  rcases left with left | ⟨left_same, left⟩ <;> rcases right with right | ⟨right_same, right⟩
  · exact .inl (left.trans right)
  · exact .inl (right_same ▸ left)
  · exact .inl (left_same ▸ right)
  · exact .inr ⟨left_same.trans right_same, codesLe_trans left right⟩

end Timestamp

variable {ρ : Type} (time : ρ → Timestamp) (id : ρ → Nat)

/-- `ORDER BY time, id`. -/
def RowLe (first second : ρ) : Prop :=
  (time first).textLe (time second) ∧ ((time second).textLe (time first) → id first ≤ id second)

instance : DecidableRel (RowLe time id) := fun first second => by
  unfold RowLe
  exact inferInstance

instance : Std.Total (RowLe time id) where
  total first second := by
    simp only [RowLe]
    rcases Timestamp.textLe_total (time first) (time second) with less | less
    · by_cases equal : (time second).textLe (time first)
      · rcases Nat.le_total (id first) (id second) with below | below
        · exact .inl ⟨less, fun _ => below⟩
        · exact .inr ⟨equal, fun _ => below⟩
      · exact .inl ⟨less, fun same => absurd same equal⟩
    · by_cases equal : (time first).textLe (time second)
      · rcases Nat.le_total (id first) (id second) with below | below
        · exact .inl ⟨equal, fun _ => below⟩
        · exact .inr ⟨less, fun _ => below⟩
      · exact .inr ⟨less, fun same => absurd same equal⟩

instance : IsTrans ρ (RowLe time id) where
  trans first second third left right := by
    refine ⟨Timestamp.textLe_trans left.1 right.1, fun equal => ?_⟩
    exact Nat.le_trans (left.2 (Timestamp.textLe_trans right.1 equal)) (right.2 (Timestamp.textLe_trans equal left.1))

def byText (rows : List ρ) : List ρ := rows.insertionSort (RowLe time id)

variable {time id}

/-- The last row is the greatest. -/
theorem getLast?_byText {rows : List ρ} (distinct : ∀ first ∈ rows, ∀ second ∈ rows, id first = id second → first = second)
    (row : ρ) : (byText time id rows).getLast? = some row ↔ row ∈ rows ∧ ∀ other ∈ rows, RowLe time id other row := by
  have sorted := List.pairwise_insertionSort (RowLe time id) rows
  have members : ∀ other, other ∈ byText time id rows ↔ other ∈ rows := fun other => List.mem_insertionSort _
  have greatest : ∀ last, (byText time id rows).getLast? = some last →
      last ∈ rows ∧ ∀ other ∈ rows, RowLe time id other last := by
    intro last found
    obtain ⟨before, split⟩ := List.getLast?_eq_some_iff.mp found
    refine ⟨(members last).mp (split ▸ by simp), fun other member => ?_⟩
    have held := (members other).mpr member
    rw [byText] at split
    rw [split] at sorted
    rw [byText, split, List.mem_append, List.mem_singleton] at held
    rcases held with earlier | rfl
    · exact (List.pairwise_append.mp sorted).2.2 other earlier last (List.mem_singleton_self last)
    · exact or_self_iff.mp (Std.Total.total other other)
  constructor
  · exact greatest row
  · rintro ⟨member, above⟩
    have some_row : (byText time id rows).getLast?.isSome := by
      rw [List.getLast?_isSome]
      exact List.ne_nil_of_mem ((members row).mpr member)
    obtain ⟨last, found⟩ := Option.isSome_iff_exists.mp some_row
    obtain ⟨last_member, last_above⟩ := greatest last found
    have below := last_above row member
    have beyond := above last last_member
    rw [found, distinct last last_member row member (Nat.le_antisymm (beyond.2 below.1) (below.2 beyond.1))]

end AiStore.Library
