import AiStore.Library.Dict
import Mathlib.Data.List.Induction

/-! Dictionaries of lists of entries, and dictionaries that are equal as mappings. -/

set_option autoImplicit false

namespace AiStore.Library.Dict

variable {κ ν : Type} [DecidableEq κ]

/-- A later entry under a key replaces the earlier one, in its place. -/
def ofEntries (entries : List (κ × ν)) : Dict κ ν := entries.foldl (fun dict entry => dict.set entry.1 entry.2) .empty

def keys (dict : Dict κ ν) : List κ := dict.entries.map Prod.fst

theorem get?_eq_none (dict : Dict κ ν) (key : κ) : dict.get? key = none ↔ key ∉ dict.keys :=
  (lookupEntry_eq_none dict.entries key).trans (by simp [keys])

/-- Under distinct keys every entry is kept. -/
theorem entries_ofEntries {entries : List (κ × ν)} (distinct : (entries.map Prod.fst).Nodup) :
    (ofEntries entries).entries = entries := by
  induction entries using List.reverseRecOn with
  | nil => rfl
  | append_singleton before entry ih =>
    rw [List.map_append, List.map_singleton, List.nodup_append] at distinct
    obtain ⟨front, -, apart⟩ := distinct
    have fresh : (ofEntries before).get? entry.1 = none := by
      rw [get?_eq_none, keys, ih front]
      exact fun member => apart entry.1 member entry.1 (List.mem_singleton_self _) rfl
    rw [ofEntries, List.foldl_append]
    exact (entries_set_of_fresh _ _ _ fresh).trans (congrArg (· ++ [entry]) (ih front))

theorem keys_ofEntries {entries : List (κ × ν)} (distinct : (entries.map Prod.fst).Nodup) :
    (ofEntries entries).keys = entries.map Prod.fst := congrArg (List.map Prod.fst) (entries_ofEntries distinct)

theorem get?_ofEntries {entries : List (κ × ν)} (distinct : (entries.map Prod.fst).Nodup) (key : κ) (value : ν) :
    (ofEntries entries).get? key = some value ↔ (key, value) ∈ entries := by
  rw [← mem_entries, entries_ofEntries distinct]

/-- Lists of the same entries make equal mappings. -/
theorem get?_ofEntries_perm {first second : List (κ × ν)} (perm : first.Perm second)
    (distinct : (first.map Prod.fst).Nodup) (key : κ) : (ofEntries first).get? key = (ofEntries second).get? key := by
  apply Option.ext
  intro value
  have other : (second.map Prod.fst).Nodup := (perm.map Prod.fst).nodup_iff.mp distinct
  rw [get?_ofEntries distinct, get?_ofEntries other, perm.mem_iff]

/-- `==` of dictionaries. -/
def Same (first second : Dict κ ν) : Prop := ∀ key ∈ first.keys ++ second.keys, first.get? key = second.get? key

instance [DecidableEq ν] (first second : Dict κ ν) : Decidable (first.Same second) :=
  inferInstanceAs (Decidable (∀ key ∈ first.keys ++ second.keys, first.get? key = second.get? key))

theorem same_iff (first second : Dict κ ν) : first.Same second ↔ ∀ key, first.get? key = second.get? key := by
  refine ⟨fun same key => ?_, fun same key _ => same key⟩
  by_cases member : key ∈ first.keys ++ second.keys
  · exact same key member
  · rw [List.mem_append, not_or] at member
    rw [(get?_eq_none first key).mpr member.1, (get?_eq_none second key).mpr member.2]

end AiStore.Library.Dict
