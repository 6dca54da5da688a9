import AiStore.Library.Json

/-! Objects have one sorted form, in whatever order their entries are given. -/

set_option autoImplicit false

namespace AiStore.Library

theorem Timestamp.codesLe_antisymm {first second : List Nat} (left : codesLe first second = true)
    (right : codesLe second first = true) : first = second := by
  induction first generalizing second with
  | nil =>
    cases second with
    | nil => rfl
    | cons code rest => cases right
  | cons code rest ih =>
    cases second with
    | nil => cases left
    | cons other others =>
      rw [codesLe_cons] at left right
      rcases left with less | ⟨rfl, behind⟩
      · rcases right with more | ⟨rfl, -⟩ <;> omega
      · rcases right with more | ⟨-, back⟩
        · omega
        · rw [ih behind back]

namespace Json

instance : Std.Total fun first second : String × Json => keyLe first second = true where
  total _ _ := Timestamp.codesLe_total _ _

instance : IsTrans (String × Json) fun first second => keyLe first second = true where
  trans _ _ _ := Timestamp.codesLe_trans

theorem key_eq_of_keyLe {first second : String × Json} (left : keyLe first second = true) (right : keyLe second first = true) :
    first.1 = second.1 := by
  have codes := Timestamp.codesLe_antisymm left right
  have letters := List.map_injective_iff.mpr (fun _ _ => Char.toNat_inj.mp) codes
  exact String.toList_injective letters

/-- Two entries under one of several distinct keys are one. -/
theorem entry_eq {entries : List (String × Json)} (distinct : (entries.map Prod.fst).Nodup) {first second : String × Json}
    (one : first ∈ entries) (other : second ∈ entries) (same : first.1 = second.1) : first = second :=
  List.inj_on_of_nodup_map distinct one other same

theorem sortKeys_perm {first second : List (String × Json)} (perm : first.Perm second)
    (distinct : (first.map Prod.fst).Nodup) : sortKeys (.object first) = sortKeys (.object second) := by
  rw [sortKeys, sortKeys, sortEntries_eq_map, sortEntries_eq_map]
  have moved := perm.map fun entry => (entry.1, sortKeys entry.2)
  have left := List.perm_insertionSort (fun one other => keyLe one other = true) (first.map fun entry => (entry.1, sortKeys entry.2))
  have right := List.perm_insertionSort (fun one other => keyLe one other = true) (second.map fun entry => (entry.1, sortKeys entry.2))
  have names : ((first.map fun entry => (entry.1, sortKeys entry.2)).map Prod.fst).Nodup := by
    rw [List.map_map]
    exact distinct
  rw [List.Perm.eq_of_pairwise (fun one other here there up down => ?_) (List.pairwise_insertionSort _ _)
    (List.pairwise_insertionSort _ _) ((left.trans moved).trans right.symm)]
  exact entry_eq names (left.mem_iff.mp here) (moved.mem_iff.mpr (right.mem_iff.mp there)) (key_eq_of_keyLe up down)

end Json

end AiStore.Library
