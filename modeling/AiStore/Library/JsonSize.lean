import Mathlib.Algebra.BigOperators.Group.List.Basic
import Mathlib.Algebra.Order.BigOperators.Group.List
import AiStore.Library.Json

/-! How long canonical JSON is. The order of keys and of items makes no difference. -/

set_option autoImplicit false

namespace AiStore.Library.Json

open String (utf8Len)

theorem length_le_utf8Len (text : List Char) : text.length ≤ utf8Len text := by
  induction text with
  | nil => exact Nat.zero_le _
  | cons c rest ih =>
    have positive := c.utf8Size_pos
    rw [String.utf8Len_cons, List.length_cons]
    omega

def size (value : Json) : Nat := utf8Len (chars value)

/-- Every item with the comma or bracket behind it. -/
def itemsSize (items : List Json) : Nat := (items.map fun item => size item + 1).sum

def entriesSize (entries : List (String × Json)) : Nat :=
  (entries.map fun entry => utf8Len (quoted entry.1) + 1 + size entry.2 + 1).sum

theorem itemsSize_perm {first second : List Json} (same : first.Perm second) : itemsSize first = itemsSize second :=
  (same.map _).sum_eq

theorem entriesSize_perm {first second : List (String × Json)} (same : first.Perm second) :
    entriesSize first = entriesSize second :=
  (same.map _).sum_eq

theorem utf8Len_moreItems (items : List Json) : utf8Len (moreItems items) = itemsSize items + 1 := by
  induction items with
  | nil => rfl
  | cons item rest ih =>
    simp only [moreItems, String.utf8Len_cons, String.utf8Len_append, ih, itemsSize, List.map_cons, List.sum_cons, size]
    rw [show Char.utf8Size ',' = 1 from rfl]
    omega

theorem size_list (items : List Json) : size (.list items) = 1 + max 1 (itemsSize items) := by
  cases items with
  | nil => rfl
  | cons item rest =>
    simp only [size, chars, itemChars, String.utf8Len_cons, String.utf8Len_append, utf8Len_moreItems, itemsSize, List.map_cons, List.sum_cons]
    rw [show Char.utf8Size '[' = 1 from rfl]
    omega

theorem utf8Len_moreEntries (entries : List (String × Json)) : utf8Len (moreEntries entries) = entriesSize entries + 1 := by
  induction entries with
  | nil => rfl
  | cons entry rest ih =>
    simp only [moreEntries, String.utf8Len_cons, String.utf8Len_append, ih, entriesSize, List.map_cons, List.sum_cons, size]
    rw [show Char.utf8Size ',' = 1 from rfl, show Char.utf8Size ':' = 1 from rfl]
    omega

theorem size_object (entries : List (String × Json)) : size (.object entries) = 1 + max 1 (entriesSize entries) := by
  cases entries with
  | nil => rfl
  | cons entry rest =>
    simp only [size, chars, entryChars, String.utf8Len_cons, String.utf8Len_append, utf8Len_moreEntries, entriesSize, List.map_cons, List.sum_cons]
    rw [show Char.utf8Size '\x7b' = 1 from rfl, show Char.utf8Size ':' = 1 from rfl]
    omega

mutual

theorem size_sortKeys : ∀ value, size (sortKeys value) = size value
  | .list items => by rw [sortKeys, size_list, size_list, itemsSize_sortItems items]
  | .object entries => by
      rw [sortKeys, size_object, size_object, entriesSize_perm (List.perm_insertionSort _ _), entriesSize_sortEntries entries]
  | .null | .bool _ | .int _ | .float _ | .text _ => rfl

theorem itemsSize_sortItems : ∀ items, itemsSize (sortItems items) = itemsSize items
  | [] => rfl
  | item :: rest => by
      have others := itemsSize_sortItems rest
      simp only [itemsSize] at others
      simp only [sortItems, itemsSize, List.map_cons, List.sum_cons, size_sortKeys item, others]

theorem entriesSize_sortEntries : ∀ entries, entriesSize (sortEntries entries) = entriesSize entries
  | [] => rfl
  | (key, item) :: rest => by
      have others := entriesSize_sortEntries rest
      simp only [entriesSize] at others
      simp only [sortEntries, entriesSize, List.map_cons, List.sum_cons, size_sortKeys item, others]

end

theorem utf8ByteSize_canonical (value : Json) : (canonical value).utf8ByteSize = size value := by
  rw [canonical, String.utf8ByteSize_ofList, ← size_sortKeys]
  rfl

theorem length_le_escaped (text : List Char) : text.length ≤ (escaped text).length := by
  induction text with
  | nil => exact Nat.zero_le _
  | cons c rest ih =>
    have nonempty : 0 < (escape c).length := by
      unfold escape
      repeat' split
      all_goals exact Nat.zero_lt_succ _
    simp only [escaped, List.length_append, List.length_cons]
    omega

/-- A text is not shorter between quotes. -/
theorem length_le_size_text (content : String) : content.length ≤ size (.text content) := by
  have inside := length_le_escaped content.toList
  have outside := length_le_utf8Len (quoted content)
  rw [String.length_toList] at inside
  rw [quoted, List.length_cons] at outside
  exact le_trans (le_trans inside (Nat.le_succ _)) outside

/-- A value is not shorter than what it holds. -/
theorem size_le_object {key : String} {item : Json} {entries : List (String × Json)} (member : (key, item) ∈ entries) :
    size item ≤ size (.object entries) := by
  have part := List.le_sum_of_mem
    (List.mem_map_of_mem (f := fun entry : String × Json => utf8Len (quoted entry.1) + 1 + size entry.2 + 1) member)
  rw [size_object, entriesSize]
  simp only at part
  omega

end AiStore.Library.Json
