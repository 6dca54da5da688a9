import Mathlib.Data.List.Nodup

/-! Tables of rows that carry their own key.

A row is stored under the key it computes, so a table never holds a row under a
foreign key. Rewriting a row keeps its place and a new row goes to the end.
-/

set_option autoImplicit false

namespace AiStore.Library

variable {κ ν : Type} {key : ν → κ}

/-- Rows with pairwise different keys. -/
structure Table (key : ν → κ) where
  rows : List ν
  unique : (rows.map key).Nodup

namespace Table

def empty : Table key := ⟨[], List.nodup_nil⟩

@[simp] theorem rows_empty : (empty : Table key).rows = [] := rfl

theorem ext {first second : Table key} (same : first.rows = second.rows) : first = second := by
  cases first; cases second; cases same; rfl

theorem key_inj (table : Table key) {first second : ν} (first_member : first ∈ table.rows)
    (second_member : second ∈ table.rows) (same : key first = key second) : first = second :=
  List.inj_on_of_nodup_map table.unique first_member second_member same

end Table

/-! ## Rows that a measure tells apart -/

/-- The only element that a test holds of is the one it finds. -/
theorem find?_of_unique {α : Type} {rows : List α} {holds : α → Bool} {found : α} (member : found ∈ rows)
    (here : holds found = true) (unique : ∀ other ∈ rows, holds other = true → other = found) :
    rows.find? holds = some found := by
  obtain ⟨other, first⟩ := Option.isSome_iff_exists.mp (List.find?_isSome.mpr ⟨found, member, here⟩)
  rw [first, unique other (List.mem_of_find?_eq_some first) (List.find?_some first)]

section

variable {ρ μ α β : Type} {before after : List ρ} (added : ρ)

/-- What tells rows apart tells them apart still, with one more row that is like none of them. -/
theorem distinct_added {measure : ρ → μ}
    (rows : ∀ row ∈ after, row = added ∨ row ∈ before ∧ measure row ≠ measure added)
    (distinct : ∀ first ∈ before, ∀ second ∈ before, measure first = measure second → first = second) :
    ∀ first ∈ after, ∀ second ∈ after, measure first = measure second → first = second := by
  intro first first_member second second_member same
  rcases rows first first_member with rfl | ⟨first_old, first_apart⟩
  · rcases rows second second_member with rfl | ⟨-, second_apart⟩
    · rfl
    · exact absurd same.symm second_apart
  · rcases rows second second_member with rfl | ⟨second_old, -⟩
    · exact absurd same first_apart
    · exact distinct first first_old second second_old same

/-- The same among the rows of one scope. -/
theorem distinct_added_within {scope : ρ → α} {measure : ρ → β}
    (rows : ∀ row ∈ after, row = added ∨ row ∈ before ∧ (scope row = scope added → measure row ≠ measure added))
    (distinct : ∀ first ∈ before, ∀ second ∈ before, scope first = scope second → measure first = measure second →
      first = second) :
    ∀ first ∈ after, ∀ second ∈ after, scope first = scope second → measure first = measure second → first = second := by
  have together := @distinct_added ρ (α × β) before after added (fun row => (scope row, measure row))
    (fun row member => (rows row member).imp_right fun held =>
      ⟨held.1, fun same => held.2 (congrArg Prod.fst same) (congrArg Prod.snd same)⟩)
    fun first first_member second second_member same =>
      distinct first first_member second second_member (congrArg Prod.fst same) (congrArg Prod.snd same)
  exact fun first first_member second second_member within same =>
    together first first_member second second_member (Prod.ext within same)

end

variable [DecidableEq κ]

def putRow (key : ν → κ) : List ν → ν → List ν
  | [], row => [row]
  | first :: rest, row => if key first = key row then row :: rest else first :: putRow key rest row

theorem mem_putRow (rows : List ν) (row other : ν) (unique : (rows.map key).Nodup) :
    other ∈ putRow key rows row ↔ other = row ∨ other ∈ rows ∧ key other ≠ key row := by
  induction rows with
  | nil => simp [putRow]
  | cons first rest ih =>
    simp only [List.map_cons, List.nodup_cons] at unique
    by_cases same : key first = key row
    · have apart : ∀ later ∈ rest, key later ≠ key row := fun later member equal =>
        unique.1 (List.mem_map.mpr ⟨later, member, equal.trans same.symm⟩)
      simp only [putRow, same, if_true, List.mem_cons]
      constructor
      · rintro (rfl | member)
        · exact .inl rfl
        · exact .inr ⟨.inr member, apart other member⟩
      · rintro (rfl | ⟨rfl | member, distinct⟩)
        · exact .inl rfl
        · exact absurd same distinct
        · exact .inr member
    · simp only [putRow, same, if_false, List.mem_cons, ih unique.2]
      constructor
      · rintro (rfl | rfl | ⟨member, distinct⟩)
        · exact .inr ⟨.inl rfl, same⟩
        · exact .inl rfl
        · exact .inr ⟨.inr member, distinct⟩
      · rintro (rfl | ⟨rfl | member, distinct⟩)
        · exact .inr (.inl rfl)
        · exact .inl rfl
        · exact .inr (.inr ⟨member, distinct⟩)

theorem putRow_of_fresh (rows : List ν) (row : ν) (fresh : ∀ other ∈ rows, key other ≠ key row) :
    putRow key rows row = rows ++ [row] := by
  induction rows with
  | nil => rfl
  | cons first rest ih =>
    have apart := fresh first List.mem_cons_self
    simp [putRow, apart, ih fun other member => fresh other (List.mem_cons_of_mem _ member)]

theorem putRow_of_bound (rows : List ν) (row : ν) (unique : (rows.map key).Nodup)
    (bound : ∃ old ∈ rows, key old = key row) :
    putRow key rows row = rows.map fun other => if key other = key row then row else other := by
  induction rows with
  | nil => simp at bound
  | cons first rest ih =>
    simp only [List.map_cons, List.nodup_cons] at unique
    by_cases same : key first = key row
    · have untouched : rest.map (fun other => if key other = key row then row else other) = rest := by
        refine (List.map_congr_left fun other member => ?_).trans (List.map_id _)
        have apart : key other ≠ key row := fun equal =>
          unique.1 (List.mem_map.mpr ⟨other, member, equal.trans same.symm⟩)
        simp [apart]
      simp [putRow, same, untouched]
    · have later : ∃ old ∈ rest, key old = key row := by simpa [same] using bound
      simp [putRow, same, ih unique.2 later]

theorem map_key_putRow (rows : List ν) (row : ν) :
    (putRow key rows row).map key =
      if key row ∈ rows.map key then rows.map key else rows.map key ++ [key row] := by
  induction rows with
  | nil => simp [putRow]
  | cons first rest ih =>
    by_cases same : key first = key row
    · simp [putRow, same]
    · simp only [putRow, same, if_false, List.map_cons, ih, List.mem_cons, Ne.symm same, false_or]
      split <;> simp

theorem countP_putRow_le (counted : ν → Bool) (rows : List ν) (row : ν) :
    (putRow key rows row).countP counted ≤ rows.countP counted + if counted row then 1 else 0 := by
  induction rows with
  | nil => simp only [putRow, List.countP_singleton, List.countP_nil, Nat.zero_add, Nat.le_refl]
  | cons first rest ih =>
    simp only [putRow]
    split
    · rw [List.countP_cons, List.countP_cons]
      omega
    · rw [List.countP_cons, List.countP_cons]
      omega

namespace Table

def get? (table : Table key) (wanted : κ) : Option ν := table.rows.find? fun row => key row = wanted

def put (table : Table key) (row : ν) : Table key where
  rows := putRow key table.rows row
  unique := by
    rw [map_key_putRow]
    split
    · exact table.unique
    · next fresh => exact List.Nodup.append table.unique (List.nodup_singleton _) (by simpa using fresh)

@[simp] theorem get?_empty (wanted : κ) : (empty : Table key).get? wanted = none := rfl

theorem get?_eq_some (table : Table key) (wanted : κ) (row : ν) :
    table.get? wanted = some row ↔ row ∈ table.rows ∧ key row = wanted := by
  constructor
  · intro found
    exact ⟨List.mem_of_find?_eq_some found, by simpa using List.find?_some found⟩
  · rintro ⟨member, rfl⟩
    unfold get?
    refine find?_of_unique member (decide_eq_true rfl) fun other among same => ?_
    exact table.key_inj among member (of_decide_eq_true same)

theorem get?_eq_none (table : Table key) (wanted : κ) :
    table.get? wanted = none ↔ ∀ row ∈ table.rows, key row ≠ wanted := by
  simp [get?]

theorem get?_key (table : Table key) {row : ν} (member : row ∈ table.rows) : table.get? (key row) = some row :=
  (table.get?_eq_some _ _).mpr ⟨member, rfl⟩

theorem mem_of_get? {table : Table key} {wanted : κ} {row : ν} (found : table.get? wanted = some row) :
    row ∈ table.rows := ((table.get?_eq_some _ _).mp found).1

theorem key_of_get? {table : Table key} {wanted : κ} {row : ν} (found : table.get? wanted = some row) :
    key row = wanted := ((table.get?_eq_some _ _).mp found).2

theorem mem_put (table : Table key) (row other : ν) :
    other ∈ (table.put row).rows ↔ other = row ∨ other ∈ table.rows ∧ key other ≠ key row :=
  mem_putRow _ _ _ table.unique

theorem get?_put (table : Table key) (row : ν) (wanted : κ) :
    (table.put row).get? wanted = if key row = wanted then some row else table.get? wanted := by
  apply Option.ext
  intro other
  rw [get?_eq_some, mem_put]
  split
  · next same =>
    subst same
    rw [Option.some.injEq]
    constructor
    · rintro ⟨rfl | ⟨-, apart⟩, same⟩
      · rfl
      · exact absurd same apart
    · rintro rfl
      exact ⟨.inl rfl, rfl⟩
  · next apart =>
    rw [get?_eq_some]
    constructor
    · rintro ⟨rfl | ⟨member, -⟩, same⟩
      · exact absurd same apart
      · exact ⟨member, same⟩
    · rintro ⟨member, rfl⟩
      exact ⟨.inr ⟨member, Ne.symm apart⟩, rfl⟩

@[simp] theorem get?_put_self (table : Table key) (row : ν) : (table.put row).get? (key row) = some row := by
  simp [get?_put]

theorem get?_put_of_ne (table : Table key) {row : ν} {wanted : κ} (apart : key row ≠ wanted) :
    (table.put row).get? wanted = table.get? wanted := by simp [get?_put, apart]

/-- A new row goes behind every older one. -/
theorem rows_put_of_fresh (table : Table key) {row : ν} (fresh : table.get? (key row) = none) :
    (table.put row).rows = table.rows ++ [row] :=
  putRow_of_fresh _ _ ((table.get?_eq_none _).mp fresh)

theorem mem_put_of_fresh {table : Table key} {row other : ν} (fresh : table.get? (key row) = none) :
    other ∈ (table.put row).rows ↔ other = row ∨ other ∈ table.rows := by
  rw [rows_put_of_fresh table fresh, List.mem_append, List.mem_singleton, or_comm]

/-- Rows under new keys go to the end, in their order. -/
theorem rows_foldl_put_of_fresh (table : Table key) {added : List ν} (unique : (added.map key).Nodup)
    (fresh : ∀ row ∈ added, ∀ other ∈ table.rows, key other ≠ key row) :
    (added.foldl Table.put table).rows = table.rows ++ added := by
  induction added generalizing table with
  | nil => simp
  | cons row rest ih =>
    simp only [List.map_cons, List.nodup_cons] at unique
    have first : (table.put row).rows = table.rows ++ [row] :=
      table.rows_put_of_fresh ((table.get?_eq_none _).mpr fun other member => fresh row List.mem_cons_self other member)
    rw [List.foldl_cons, ih (table.put row) unique.2 ?_, first, List.append_assoc, List.singleton_append]
    intro later member other held
    rw [first, List.mem_append, List.mem_singleton] at held
    rcases held with old | rfl
    · exact fresh later (List.mem_cons_of_mem _ member) other old
    · exact fun same => unique.1 (List.mem_map.mpr ⟨later, member, same.symm⟩)

/-- A known row is rewritten where it stands. -/
theorem rows_put_of_bound (table : Table key) {row old : ν} (bound : table.get? (key row) = some old) :
    (table.put row).rows = table.rows.map fun other => if key other = key row then row else other :=
  putRow_of_bound _ _ table.unique ⟨old, mem_of_get? bound, key_of_get? bound⟩

theorem countP_put_le (table : Table key) (counted : ν → Bool) (row : ν) :
    (table.put row).rows.countP counted ≤ table.rows.countP counted + if counted row then 1 else 0 :=
  countP_putRow_le counted table.rows row

/-- A row that is rewritten counts at most where it counted before. -/
theorem countP_put_of_bound (table : Table key) (counted : ν → Bool) {row old : ν}
    (bound : table.get? (key row) = some old) (same : counted row = true → counted old = true) :
    (table.put row).rows.countP counted ≤ table.rows.countP counted := by
  rw [rows_put_of_bound table bound, List.countP_map]
  apply List.countP_mono_left
  intro other member holds
  simp only [Function.comp_apply] at holds
  split at holds
  · next named =>
    rw [table.key_inj member (mem_of_get? bound) (named.trans (key_of_get? bound).symm)]
    exact same holds
  · exact holds

/-- What holds of every row survives the writing of a row of which it holds. -/
theorem forall_put {holds : ν → Prop} {table : Table key} {row : ν} (rows : ∀ other ∈ table.rows, holds other)
    (written : holds row) : ∀ other ∈ (table.put row).rows, holds other := by
  intro other member
  rcases (table.mem_put row other).mp member with rfl | ⟨old, -⟩
  · exact written
  · exact rows other old

end Table

end AiStore.Library
