import Mathlib.Data.List.Nodup

/-! Insertion-ordered dictionaries.

Rebinding a key keeps its position and a new key goes to the end, so a scan of
the entries sees the keys in the order of their first binding.
-/

set_option autoImplicit false

namespace AiStore.Library

variable {κ ν : Type}

def lookupEntry [DecidableEq κ] : List (κ × ν) → κ → Option ν
  | [], _ => none
  | (key, value) :: rest, wanted => if key = wanted then some value else lookupEntry rest wanted

def bindEntry [DecidableEq κ] : List (κ × ν) → κ → ν → List (κ × ν)
  | [], wanted, value => [(wanted, value)]
  | (key, old) :: rest, wanted, value =>
      if key = wanted then (key, value) :: rest else (key, old) :: bindEntry rest wanted value

theorem lookupEntry_eq_none [DecidableEq κ] (entries : List (κ × ν)) (wanted : κ) :
    lookupEntry entries wanted = none ↔ wanted ∉ entries.map Prod.fst := by
  induction entries with
  | nil => simp [lookupEntry]
  | cons entry rest ih =>
    by_cases same : entry.1 = wanted
    · simp [lookupEntry, same]
    · simp [lookupEntry, same, ih, Ne.symm same]

theorem lookupEntry_eq_some [DecidableEq κ] {entries : List (κ × ν)}
    (unique : (entries.map Prod.fst).Nodup) (wanted : κ) (value : ν) :
    lookupEntry entries wanted = some value ↔ (wanted, value) ∈ entries := by
  induction entries with
  | nil => simp [lookupEntry]
  | cons entry rest ih =>
    obtain ⟨key, first⟩ := entry
    simp only [List.map_cons, List.nodup_cons] at unique
    by_cases same : key = wanted
    · subst same
      have absent : (key, value) ∉ rest := fun member =>
        unique.1 (List.mem_map.mpr ⟨(key, value), member, rfl⟩)
      simp [lookupEntry, absent, eq_comm]
    · simp [lookupEntry, same, Ne.symm same, ih unique.2]

theorem keys_bindEntry [DecidableEq κ] (entries : List (κ × ν)) (wanted : κ) (value : ν) :
    (bindEntry entries wanted value).map Prod.fst =
      if wanted ∈ entries.map Prod.fst then entries.map Prod.fst
      else entries.map Prod.fst ++ [wanted] := by
  induction entries with
  | nil => simp [bindEntry]
  | cons entry rest ih =>
    by_cases same : entry.1 = wanted
    · simp [bindEntry, same]
    · simp only [bindEntry, same, if_false, List.map_cons, ih, List.mem_cons, Ne.symm same, false_or]
      split <;> simp

theorem lookupEntry_bindEntry [DecidableEq κ] (entries : List (κ × ν)) (wanted other : κ) (value : ν) :
    lookupEntry (bindEntry entries wanted value) other =
      if wanted = other then some value else lookupEntry entries other := by
  induction entries with
  | nil => simp [bindEntry, lookupEntry]
  | cons entry rest ih =>
    by_cases same : entry.1 = wanted
    · by_cases here : wanted = other <;> simp [bindEntry, lookupEntry, same, here]
    · by_cases here : entry.1 = other
      · subst here
        simp [bindEntry, lookupEntry, same, Ne.symm same]
      · simp [bindEntry, lookupEntry, same, here, ih]

/-- The dictionary; no key is bound twice. -/
structure Dict (κ ν : Type) where
  entries : List (κ × ν)
  unique : (entries.map Prod.fst).Nodup

namespace Dict

def empty : Dict κ ν := ⟨[], List.nodup_nil⟩

instance : Inhabited (Dict κ ν) := ⟨empty⟩

def values (dict : Dict κ ν) : List ν := dict.entries.map Prod.snd

theorem ext {first second : Dict κ ν} (same : first.entries = second.entries) : first = second := by
  cases first; cases second; cases same; rfl

@[simp] theorem values_empty : (empty : Dict κ ν).values = [] := rfl

/-- Only the keys that satisfy a condition, in their order. -/
def retain (dict : Dict κ ν) (wanted : κ → Bool) : Dict κ ν where
  entries := dict.entries.filter fun entry => wanted entry.1
  unique := by
    apply List.Sublist.nodup _ dict.unique
    exact List.filter_sublist.map Prod.fst

theorem keys_retain (dict : Dict κ ν) (wanted : κ → Bool) :
    (dict.retain wanted).entries.map Prod.fst = (dict.entries.map Prod.fst).filter wanted := by
  rw [List.filter_map]
  rfl

variable [DecidableEq κ]

def get? (dict : Dict κ ν) (key : κ) : Option ν := lookupEntry dict.entries key

def set (dict : Dict κ ν) (key : κ) (value : ν) : Dict κ ν where
  entries := bindEntry dict.entries key value
  unique := by
    rw [keys_bindEntry]
    split
    · exact dict.unique
    · next fresh => exact List.Nodup.append dict.unique (List.nodup_singleton _) (by simpa using fresh)

@[simp] theorem get?_empty (key : κ) : (empty : Dict κ ν).get? key = none := rfl

theorem get?_set (dict : Dict κ ν) (key other : κ) (value : ν) :
    (dict.set key value).get? other = if key = other then some value else dict.get? other :=
  lookupEntry_bindEntry _ _ _ _

@[simp] theorem get?_set_self (dict : Dict κ ν) (key : κ) (value : ν) :
    (dict.set key value).get? key = some value := by simp [get?_set]

theorem get?_set_of_ne (dict : Dict κ ν) {key other : κ} (apart : key ≠ other) (value : ν) :
    (dict.set key value).get? other = dict.get? other := by simp [get?_set, apart]

theorem mem_entries (dict : Dict κ ν) (key : κ) (value : ν) :
    (key, value) ∈ dict.entries ↔ dict.get? key = some value :=
  (lookupEntry_eq_some dict.unique key value).symm

theorem mem_values (dict : Dict κ ν) (value : ν) :
    value ∈ dict.values ↔ ∃ key, dict.get? key = some value := by
  simp only [values, List.mem_map, Prod.exists, mem_entries]
  constructor
  · rintro ⟨key, found, member, rfl⟩
    exact ⟨key, member⟩
  · rintro ⟨key, member⟩
    exact ⟨key, value, member, rfl⟩

theorem mem_values_of_get? {dict : Dict κ ν} {key : κ} {value : ν}
    (bound : dict.get? key = some value) : value ∈ dict.values :=
  (dict.mem_values value).mpr ⟨key, bound⟩

theorem bindEntry_of_fresh (entries : List (κ × ν)) (key : κ) (value : ν)
    (fresh : lookupEntry entries key = none) :
    bindEntry entries key value = entries ++ [(key, value)] := by
  induction entries with
  | nil => rfl
  | cons entry rest ih =>
    have apart : entry.1 ≠ key := fun same => by simp [lookupEntry, same] at fresh
    simp only [lookupEntry, apart, if_false] at fresh
    simp [bindEntry, apart, ih fresh]

/-- A new key is bound behind every older one. -/
theorem entries_set_of_fresh (dict : Dict κ ν) (key : κ) (value : ν) (fresh : dict.get? key = none) :
    (dict.set key value).entries = dict.entries ++ [(key, value)] :=
  bindEntry_of_fresh _ _ _ fresh

theorem values_set_of_fresh (dict : Dict κ ν) (key : κ) (value : ν) (fresh : dict.get? key = none) :
    (dict.set key value).values = dict.values ++ [value] := by
  simp [values, entries_set_of_fresh dict key value fresh]

theorem bindEntry_of_bound (entries : List (κ × ν)) (key : κ) (value : ν)
    (unique : (entries.map Prod.fst).Nodup) (bound : key ∈ entries.map Prod.fst) :
    bindEntry entries key value =
      entries.map fun entry => if entry.1 = key then (key, value) else entry := by
  induction entries with
  | nil => simp at bound
  | cons entry rest ih =>
    simp only [List.map_cons, List.nodup_cons] at unique
    by_cases same : entry.1 = key
    · have untouched : rest.map (fun entry => if entry.1 = key then (key, value) else entry) = rest := by
        refine (List.map_congr_left fun other member => ?_).trans (List.map_id _)
        have apart : other.1 ≠ key := fun equal =>
          unique.1 (List.mem_map.mpr ⟨other, member, equal.trans same.symm⟩)
        simp [apart]
      simp [bindEntry, same, untouched]
    · have later : key ∈ rest.map Prod.fst := by
        simpa [List.map_cons, Ne.symm same] using bound
      simp [bindEntry, same, ih unique.2 later]

/-- Rebinding a key rewrites its entry in place. -/
theorem entries_set_of_bound (dict : Dict κ ν) (key : κ) (value old : ν)
    (bound : dict.get? key = some old) :
    (dict.set key value).entries =
      dict.entries.map fun entry => if entry.1 = key then (key, value) else entry :=
  bindEntry_of_bound _ _ _ dict.unique
    (List.mem_map.mpr ⟨(key, old), (dict.mem_entries key old).mpr bound, rfl⟩)

theorem keys_set_of_mem (dict : Dict κ ν) {key : κ} (value : ν) (bound : key ∈ dict.entries.map Prod.fst) :
    (dict.set key value).entries.map Prod.fst = dict.entries.map Prod.fst := by
  rw [set, keys_bindEntry, if_pos bound]

/-- The keys in order and the value of each make the dictionary. -/
theorem ext_of_keys {first second : Dict κ ν} (keys : first.entries.map Prod.fst = second.entries.map Prod.fst)
    (values : ∀ key ∈ second.entries.map Prod.fst, first.get? key = second.get? key) : first = second := by
  have pointwise : ∀ (xs ys : List (κ × ν)), (xs.map Prod.fst).Nodup → xs.map Prod.fst = ys.map Prod.fst →
      (∀ key ∈ ys.map Prod.fst, lookupEntry xs key = lookupEntry ys key) → xs = ys := by
    intro xs
    induction xs with
    | nil =>
      intro ys _ same _
      exact (List.map_eq_nil_iff.mp same.symm).symm
    | cons x xs ih =>
      intro ys unique same agree
      cases ys with
      | nil => cases same
      | cons y ys =>
        obtain ⟨key, value⟩ := x
        obtain ⟨other, held⟩ := y
        simp only [List.map_cons, List.cons.injEq] at same
        obtain ⟨rfl, rest⟩ := same
        have here := agree key (by simp)
        simp only [lookupEntry, if_true, Option.some.injEq] at here
        subst here
        simp only [List.map_cons, List.nodup_cons] at unique
        rw [ih ys unique.2 rest]
        intro later member
        have apart : key ≠ later := by
          rintro rfl
          exact unique.1 (rest ▸ member)
        have there := agree later (List.mem_cons_of_mem _ member)
        simpa [lookupEntry, apart] using there
  exact ext (pointwise _ _ first.unique keys values)

end Dict

end AiStore.Library
