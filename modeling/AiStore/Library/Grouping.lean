import AiStore.Library.Dict
import Mathlib.Algebra.BigOperators.Group.List.Basic
import Mathlib.Data.List.Forall2
import Mathlib.Data.List.Induction
import Mathlib.Tactic.Abel

/-! Grouping a list by a partial key, in the order in which the keys appear. -/

set_option autoImplicit false

namespace AiStore.Library

variable {κ ν α M : Type} [DecidableEq κ]

/-! ## Sums over a dictionary -/

section

variable [AddCommGroup M] (measure : κ × ν → M)

theorem sum_bindEntry (entries : List (κ × ν)) (key : κ) (value : ν) :
    ((bindEntry entries key value).map measure).sum =
      (entries.map measure).sum + measure (key, value) -
        (lookupEntry entries key).elim 0 fun old => measure (key, old) := by
  induction entries with
  | nil => simp [bindEntry, lookupEntry]
  | cons entry rest ih =>
    obtain ⟨other, old⟩ := entry
    by_cases same : other = key
    · subst same
      simp only [bindEntry, lookupEntry, if_true, List.map_cons, List.sum_cons, Option.elim_some]
      abel
    · simp only [bindEntry, lookupEntry, same, if_false, List.map_cons, List.sum_cons, ih]
      abel

theorem Dict.sum_set (dict : Dict κ ν) (key : κ) (value : ν) :
    ((dict.set key value).entries.map measure).sum =
      (dict.entries.map measure).sum + measure (key, value) - (dict.get? key).elim 0 fun old => measure (key, old) :=
  sum_bindEntry measure dict.entries key value

end

/-! ## Groups -/

/-- `groups.setdefault(key, []).append(item)`. -/
def Dict.append (groups : Dict κ (List α)) (key : κ) (item : α) : Dict κ (List α) :=
  groups.set key ((groups.get? key).getD [] ++ [item])

variable (key : α → Option κ)

/-- With one more item, under its key if it has one. -/
def grouped (groups : Dict κ (List α)) (item : α) : Dict κ (List α) :=
  (key item).elim groups fun found => groups.append found item

def groupBy (items : List α) : Dict κ (List α) := items.foldl (grouped key) .empty

theorem groupBy_concat (items : List α) (item : α) : groupBy key (items ++ [item]) = grouped key (groupBy key items) item := by
  simp [groupBy]

/-- The items under a key. -/
def under (items : List α) (wanted : κ) : List α := items.filter fun item => key item = some wanted

theorem under_concat (items : List α) (item : α) (wanted : κ) :
    under key (items ++ [item]) wanted = under key items wanted ++ if key item = some wanted then [item] else [] := by
  rw [under, List.filter_append]
  by_cases same : key item = some wanted
  · simp [under, same]
  · simp [under, same]

/-- A group holds the items under its key, and no group is empty. -/
theorem get?_groupBy (items : List α) (wanted : κ) :
    (groupBy key items).get? wanted = if under key items wanted = [] then none else some (under key items wanted) := by
  induction items using List.reverseRecOn with
  | nil => rfl
  | append_singleton items item ih =>
    rw [groupBy_concat, under_concat, grouped]
    cases named : key item with
    | none => simpa using ih
    | some found =>
      rw [Option.elim_some, Dict.append, Dict.get?_set]
      by_cases same : found = wanted
      · subst same
        -- the group so far, which is empty where there is none
        have before : ((groupBy key items).get? found).getD [] = under key items found := by
          rw [ih]
          split
          · next none_yet => exact none_yet.symm
          · rfl
        simp [before]
      · simpa [same] using ih

theorem mem_groupBy (items : List α) (wanted : κ) (group : List α) :
    (wanted, group) ∈ (groupBy key items).entries ↔ group = under key items wanted ∧ group ≠ [] := by
  rw [Dict.mem_entries, get?_groupBy]
  split
  · next empty =>
    constructor
    · rintro ⟨⟩
    · rintro ⟨rfl, some_item⟩
      exact absurd empty some_item
  · next some_item =>
    constructor
    · rintro ⟨rfl⟩
      exact ⟨rfl, some_item⟩
    · rintro ⟨rfl, -⟩
      rfl

theorem mem_keys_groupBy (items : List α) (wanted : κ) :
    wanted ∈ (groupBy key items).entries.map Prod.fst ↔ ∃ item ∈ items, key item = some wanted := by
  simp only [List.mem_map, Prod.exists, mem_groupBy]
  constructor
  · rintro ⟨_, _, ⟨rfl, some_item⟩, rfl⟩
    obtain ⟨item, member⟩ := List.exists_mem_of_ne_nil _ some_item
    simp only [under, List.mem_filter, decide_eq_true_eq] at member
    exact ⟨item, member⟩
  · rintro ⟨item, member, named⟩
    have held : item ∈ under key items wanted := by simp [under, member, named]
    exact ⟨wanted, _, ⟨rfl, List.ne_nil_of_mem held⟩, rfl⟩

/-- The groups share out the sum of the items that have a key. -/
theorem sum_groupBy [AddCommGroup M] (measure : α → M) (items : List α) :
    ((groupBy key items).entries.map fun entry => (entry.2.map measure).sum).sum =
      ((items.filter fun item => (key item).isSome).map measure).sum := by
  induction items using List.reverseRecOn with
  | nil => rfl
  | append_singleton items item ih =>
    rw [groupBy_concat, grouped, List.filter_append]
    cases named : key item with
    | none => simpa [named] using ih
    | some found =>
      rw [Option.elim_some, Dict.append, Dict.sum_set, ih]
      cases held : (groupBy key items).get? found with
      | none => simp [named]
      | some group =>
        simp only [named, Option.getD_some, Option.elim_some, List.map_append, List.sum_append, List.map_cons, List.map_nil,
          List.sum_cons, List.sum_nil, add_zero, List.filter_cons, Option.isSome_some, if_true, List.filter_nil]
        abel

/-! ## Related lists -/

section

omit [DecidableEq κ]

variable {relation : κ → ν → Prop} {keys : List κ} {values : List ν}

theorem exists_right_of_mem (every : List.Forall₂ relation keys values) {key : κ} (member : key ∈ keys) :
    ∃ value ∈ values, relation key value := by
  induction every with
  | nil => exact absurd member List.not_mem_nil
  | cons related _ ih =>
    rcases List.mem_cons.mp member with rfl | later
    · exact ⟨_, List.mem_cons_self, related⟩
    · obtain ⟨value, held, later_related⟩ := ih later
      exact ⟨value, List.mem_cons_of_mem _ held, later_related⟩

theorem exists_left_of_mem (every : List.Forall₂ relation keys values) {value : ν} (member : value ∈ values) :
    ∃ key ∈ keys, relation key value := exists_right_of_mem every.flip member

/-- Where related items look the same, so do the lists. -/
theorem map_eq_map_of_related {first : κ → α} {second : ν → α} (every : List.Forall₂ relation keys values)
    (same : ∀ key value, relation key value → first key = second value) : keys.map first = values.map second := by
  induction every with
  | nil => rfl
  | cons related _ ih => rw [List.map_cons, List.map_cons, same _ _ related, ih]

end

end AiStore.Library
