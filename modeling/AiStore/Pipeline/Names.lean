import Mathlib.Tactic.IntervalCases
import AiStore.Library.Lines

/-! The names that a task goes by: its slug, and what is called after it. -/

set_option autoImplicit false

namespace AiStore.Pipeline

open Library

/-- `[a-z0-9]`. -/
def slugChar (c : Char) : Bool := 'a' ≤ c ∧ c ≤ 'z' ∨ '0' ≤ c ∧ c ≤ '9'

/-- `re.sub(r"[^a-z0-9]+", "-", value)`, with whether the run of other characters has been replaced already. -/
def dashed : Bool → Text → Text
  | _, [] => []
  | replaced, c :: rest =>
      if slugChar c then c :: dashed false rest
      else if replaced then dashed true rest
      else '-' :: dashed true rest

section

variable (lower : Text → Text)

/-- `_slug`. -/
def slug (value : Text) : Except String Text :=
  match Lines.strip (· = '-') (dashed false (lower value)) with
  | [] => .error "task_id must contain letters or digits"
  | c :: rest => .ok ((c :: rest).take 40)

end

/-! ## What is called after the slug -/

def branchName (name : Text) : Text := "worker/".toList ++ name

def worktreePath (name : Text) : Text := "data/worktrees/".toList ++ name

def specPath (name : Text) : Text := "docs/implementation/".toList ++ name ++ "-l4.md".toList

def upperChar (c : Char) : Char := if 'a' ≤ c ∧ c ≤ 'z' then Char.ofNat (c.toNat - 32) else c

/-- `{number:02d}`. -/
def twoDigits (number : Nat) : Text := if number < 10 then '0' :: Nat.toDigits 10 number else Nat.toDigits 10 number

def acceptanceId (name : Text) (number : Nat) : Text := name.map upperChar ++ '-' :: twoDigits number

/-- `acceptance_ids`, of as many criteria as the payload lists. -/
def acceptanceIds (name : Text) (criteria : Nat) : List Text :=
  (List.range criteria).map fun position => acceptanceId name (position + 1)

variable {lower : Text → Text} {value name : Text}

theorem mem_dashed {replaced : Bool} {text : Text} {c : Char} (member : c ∈ dashed replaced text) :
    slugChar c = true ∨ c = '-' := by
  -- a character that is kept, the second of a run that is dropped, the first that becomes a dash
  fun_induction dashed replaced text with
  | case1 => cases member
  | case2 replaced d rest plain ih =>
    rcases List.mem_cons.mp member with rfl | later
    · exact .inl plain
    · exact ih later
  | case3 d rest _ ih => exact ih member
  | case4 replaced d rest _ _ ih =>
    rcases List.mem_cons.mp member with rfl | later
    · exact .inr rfl
    · exact ih later

/-- A slug holds lower case letters, digits and dashes. -/
theorem mem_slug (named : slug lower value = .ok name) {c : Char} (member : c ∈ name) : slugChar c = true ∨ c = '-' := by
  unfold slug at named
  split at named
  · cases named
  · next d rest stripped =>
    cases named
    have inside := List.mem_of_mem_take member
    rw [← stripped] at inside
    exact mem_dashed (Lines.subset_strip _ _ inside)

theorem upperChar_ne_newline {c : Char} (plain : slugChar c = true ∨ c = '-') : upperChar c ≠ '\n' := by
  unfold upperChar
  split
  · next letter =>
    have least : 97 ≤ c.toNat := letter.1
    have most : c.toNat ≤ 122 := letter.2
    generalize c.toNat = code at least most
    interval_cases code <;> decide
  · rintro rfl
    rcases plain with plain | plain
    · revert plain
      decide
    · cases plain

theorem newline_notMem_twoDigits (number : Nat) : '\n' ∉ twoDigits number := by
  have digits : '\n' ∉ Nat.toDigits 10 number := fun member => by
    have digit := Nat.isDigit_of_mem_toDigits (by decide) (by decide) member
    revert digit
    decide
  unfold twoDigits
  split
  · simpa using digits
  · exact digits

/-- An acceptance ID is a piece of one line. -/
theorem acceptanceId_line (named : slug lower value = .ok name) {criteria : Nat} {aid : Text}
    (member : aid ∈ acceptanceIds name criteria) : aid ≠ [] ∧ '\n' ∉ aid := by
  obtain ⟨position, -, rfl⟩ := List.mem_map.mp member
  refine ⟨by simp [acceptanceId], ?_⟩
  rw [acceptanceId, List.mem_append, List.mem_cons]
  rintro (inside | same | inside)
  · obtain ⟨c, letter, upper⟩ := List.mem_map.mp inside
    exact upperChar_ne_newline (mem_slug named letter) upper
  · cases same
  · exact newline_notMem_twoDigits _ inside

end AiStore.Pipeline
