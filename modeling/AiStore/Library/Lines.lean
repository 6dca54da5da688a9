import Mathlib.Data.List.Infix

/-! Lines of a text, and what a search in joined texts finds. -/

set_option autoImplicit false

namespace AiStore.Library

/-- Texts that part at a separator which neither of their heads holds have the same head and the same rest. -/
theorem parted_inj {α : Type} {separator : α} {first second before after : List α} (left : separator ∉ first)
    (right : separator ∉ second) (same : first ++ separator :: before = second ++ separator :: after) :
    first = second ∧ before = after := by
  induction first generalizing second with
  | nil =>
    cases second with
    | nil => exact ⟨rfl, (List.cons.inj same).2⟩
    | cons c rest =>
      rw [← (List.cons.inj same).1] at right
      exact absurd List.mem_cons_self right
  | cons c rest ih =>
    cases second with
    | nil =>
      rw [(List.cons.inj same).1] at left
      exact absurd List.mem_cons_self left
    | cons d others =>
      obtain ⟨rfl, tails⟩ := List.cons.inj same
      obtain ⟨rfl, rests⟩ := ih (fun member => left (List.mem_cons_of_mem _ member))
        (fun member => right (List.mem_cons_of_mem _ member)) tails
      exact ⟨rfl, rests⟩

abbrev Text := List Char

namespace Lines

/-- Where `str.splitlines` breaks. -/
def lineBreak (c : Char) : Bool :=
  c.toNat ∈ [0x85, 0x2028, 0x2029] ∨ 10 ≤ c.toNat ∧ c.toNat ≤ 13 ∨ 28 ≤ c.toNat ∧ c.toNat ≤ 30

/-- `str.splitlines`. -/
def splitlines : Text → List Text
  | [] => []
  | '\r' :: '\n' :: rest => [] :: splitlines rest
  | c :: rest =>
      if lineBreak c then [] :: splitlines rest
      else match splitlines rest with
        | [] => [[c]]
        | line :: lines => (c :: line) :: lines

/-- `"\n".join`. -/
def joined : List Text → Text
  | [] => []
  | [line] => line
  | line :: next :: rest => line ++ '\n' :: joined (next :: rest)

/-- `str.strip`, by what counts as blank. -/
def strip (blank : Char → Bool) (text : Text) : Text := ((text.dropWhile blank).reverse.dropWhile blank).reverse

theorem subset_strip (blank : Char → Bool) (text : Text) : strip blank text ⊆ text := by
  intro c member
  rw [strip, List.mem_reverse] at member
  have inner := (List.dropWhile_sublist _).subset member
  rw [List.mem_reverse] at inner
  exact (List.dropWhile_sublist _).subset inner

theorem unbroken {text line : Text} (member : line ∈ splitlines text) : ∀ c ∈ line, lineBreak c = false := by
  fun_induction splitlines text generalizing line with
  | case1 => cases member
  | case2 rest ih =>
    rcases List.mem_cons.mp member with rfl | later
    · exact fun c inside => absurd inside List.not_mem_nil
    · exact ih later
  | case3 c rest _ breaks ih =>
    rcases List.mem_cons.mp member with rfl | later
    · exact fun c inside => absurd inside List.not_mem_nil
    · exact ih later
  | case4 c rest _ plain none_left ih =>
    rw [List.mem_singleton.mp member]
    intro d inside
    rw [List.mem_singleton.mp inside]
    simpa using plain
  | case5 c rest _ plain line lines split ih =>
    rcases List.mem_cons.mp member with rfl | later
    · intro d inside
      rcases List.mem_cons.mp inside with rfl | inside
      · simpa using plain
      · exact ih (by rw [split]; exact List.mem_cons_self) d inside
    · exact ih (by rw [split]; exact List.mem_cons_of_mem _ later)

theorem joined_terminated {lines : List Text} (some_line : lines ≠ []) :
    joined lines ++ ['\n'] = lines.flatMap (· ++ ['\n']) := by
  fun_induction joined lines with
  | case1 => exact absurd rfl some_line
  | case2 line => simp
  | case3 line next rest ih => simpa using ih (List.cons_ne_nil _ _)

theorem terminated_inj {first second : List Text} (left : ∀ line ∈ first, '\n' ∉ line)
    (right : ∀ line ∈ second, '\n' ∉ line) (same : first.flatMap (· ++ ['\n']) = second.flatMap (· ++ ['\n'])) :
    first = second := by
  induction first generalizing second with
  | nil =>
    cases second with
    | nil => rfl
    | cons line rest => simp at same
  | cons line rest ih =>
    cases second with
    | nil => simp at same
    | cons other others =>
      simp only [List.flatMap_cons, List.append_assoc, List.singleton_append] at same
      -- the first line ends at the first line feed of the text
      obtain ⟨rfl, rests⟩ := parted_inj (left line List.mem_cons_self) (right other List.mem_cons_self) same
      rw [ih (fun line member => left line (List.mem_cons_of_mem _ member))
        (fun line member => right line (List.mem_cons_of_mem _ member)) rests]

theorem joined_ne_nil {lines : List Text} (some_line : lines ≠ []) (full : ∀ line ∈ lines, line ≠ []) :
    joined lines ≠ [] := by
  fun_cases joined lines with
  | case1 => exact absurd rfl some_line
  | case2 line => exact full line List.mem_cons_self
  | case3 line next rest => simp

/-- Lines that are not empty and hold no line feed are told by their join. -/
theorem joined_inj {first second : List Text} (left : ∀ line ∈ first, line ≠ [] ∧ '\n' ∉ line)
    (right : ∀ line ∈ second, line ≠ [] ∧ '\n' ∉ line) (same : joined first = joined second) : first = second := by
  -- only no lines at all join to the empty text; else each line is ended by a line feed, the last one too
  rcases eq_or_ne first [] with rfl | one
  · rcases eq_or_ne second [] with rfl | another
    · rfl
    · exact absurd same.symm (joined_ne_nil another fun line member => (right line member).1)
  · rcases eq_or_ne second [] with rfl | another
    · exact absurd same (joined_ne_nil one fun line member => (left line member).1)
    · refine terminated_inj (fun line member => (left line member).2) (fun line member => (right line member).2) ?_
      rw [← joined_terminated one, ← joined_terminated another, same]

/-- What holds no line feed lies on one side of it. -/
theorem infix_parted {needle first rest : Text} (plain : '\n' ∉ needle) (found : needle <:+: first ++ '\n' :: rest) :
    needle <:+: first ∨ needle <:+: rest := by
  obtain ⟨before, after, same⟩ := found
  rcases List.append_eq_append_iff.mp same with ⟨middle, whole, -⟩ | ⟨middle, whole, tail⟩
  · exact .inl ⟨before, middle, whole.symm⟩
  · cases middle with
    | nil => exact .inl ⟨before, [], by simpa using whole⟩
    | cons c middle =>
      -- the line feed lies in `before ++ needle`, so in `before`
      obtain ⟨rfl, rest_eq⟩ := List.cons.inj tail
      rcases List.append_eq_append_iff.mp whole with ⟨inner, -, split⟩ | ⟨inner, -, split⟩
      · rw [split] at plain
        exact absurd (List.mem_append_right _ List.mem_cons_self) plain
      · cases inner with
        | nil =>
          rw [show needle = '\n' :: middle by simpa using split.symm] at plain
          exact absurd List.mem_cons_self plain
        | cons d inner =>
          obtain ⟨rfl, middle_eq⟩ := List.cons.inj split
          exact .inr ⟨inner, after, by rw [rest_eq, middle_eq]; rfl⟩

/-- A search for a text without line feeds in joined texts finds it in one of them. -/
theorem infix_joined {needle : Text} {texts : List Text} (plain : '\n' ∉ needle) (some_text : needle ≠ [])
    (found : needle <:+: joined texts) : ∃ text ∈ texts, needle <:+: text := by
  fun_induction joined texts with
  | case1 => exact absurd (List.eq_nil_of_infix_nil found) some_text
  | case2 line => exact ⟨line, List.mem_cons_self, found⟩
  | case3 line next rest ih =>
    rcases infix_parted plain found with here | later
    · exact ⟨line, List.mem_cons_self, here⟩
    · obtain ⟨text, member, inside⟩ := ih later
      exact ⟨text, List.mem_cons_of_mem _ member, inside⟩

end Lines

end AiStore.Library
