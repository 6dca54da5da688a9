import AiStore.Pipeline.Names
import AiStore.Service.Core

/-! The acceptance table of a spec: what is checked of it, and what that protects. -/

set_option autoImplicit false

namespace AiStore.Pipeline

open Library

structure TestFile where
  path : Text
  content : Text

/-- The stripped lines of a text. -/
def rows (text : Text) : List Text := (Lines.splitlines text).map (Lines.strip Service.isSpace)

/-- Whether a row starts with an acceptance ID as the table of the prompt writes it. -/
def guarded (aids : List Text) (row : Text) : Bool := aids.any fun aid => ('|' :: ' ' :: aid ++ [' ']).isPrefixOf row

/-- What `_stage_spec` demands of the text. -/
def listsIds (aids : List Text) (text : Text) : Bool := aids.all fun aid => aid <:+: text

def corpus (tests : List TestFile) : Text :=
  Lines.joined ((tests.filter fun file => ".py".toList.isSuffixOf file.path).map TestFile.content)

def unreferencedAcceptance (aids : List Text) (tests : List TestFile) : List Text :=
  aids.filter fun aid => ¬ aid <:+: corpus tests

section

variable (hash : Text → Text)

def acceptanceDigest (aids : List Text) (text : Text) : Text := hash (Lines.joined ((rows text).filter (guarded aids)))

/-- Whether `_stage_verify` goes on to publication. -/
def verifies (aids : List Text) (digest text : Text) (tests : List TestFile) (passed : Bool) : Bool :=
  acceptanceDigest hash aids text = digest && passed && (unreferencedAcceptance aids tests).isEmpty

end

/-! ## Tables and identifiers -/

/-- A row without its leading bar. -/
def cells (row : Text) : Text := match row with
  | '|' :: rest => rest
  | other => other

def firstCell (row : Text) : Text := Lines.strip Service.isSpace ((cells row).takeWhile (· ≠ '|'))

def criterion (row : Text) : Text := Lines.strip Service.isSpace (((cells row).dropWhile (· ≠ '|')).drop 1)

/-- A table row whose first cell is the ID. -/
def rowOf (aid row : Text) : Bool := '|' ∈ row && firstCell row = aid

/-- The criteria of an ID, in whatever layout. -/
def criteria (aid text : Text) : List Text := ((rows text).filter (rowOf aid)).map criterion

/-- The criteria of an ID in rows that the digest leaves out. -/
def unguarded (aids : List Text) (aid text : Text) : List Text :=
  (((rows text).filter fun row => !guarded aids row).filter (rowOf aid)).map criterion

def identifierChar (c : Char) : Bool := c.isAlphanum || c = '_' || c = '-'

/-- The text holds the ID, and not inside a longer identifier. -/
def complete (aid text : Text) : Bool := (List.range (text.length + 1)).any fun place =>
  aid.isPrefixOf (text.drop place) && !(text.take place).getLast?.any identifierChar &&
    !(text.drop (place + aid.length)).head?.any identifierChar

/-- What verification is meant to protect. -/
structure Protected (aids : List Text) (old new : Text) (tests : List TestFile) : Prop where
  criteria : ∀ aid ∈ aids, (criteria aid new).Perm (criteria aid old)
  referenced : ∀ aid ∈ aids, ∃ file ∈ tests, complete aid file.content = true

/-- Rows in other layouts are left alone, and no ID is found in longer identifiers only. -/
structure Recognised (aids : List Text) (old new : Text) (tests : List TestFile) : Prop where
  criteria : ∀ aid ∈ aids, (unguarded aids aid new).Perm (unguarded aids aid old)
  referenced : ∀ aid ∈ aids, (∃ file ∈ tests, aid <:+: file.content) → ∃ file ∈ tests, complete aid file.content = true

variable {hash : Text → Text} {lower : Text → Text} {value name old new text : Text} {aids : List Text}
variable {tests : List TestFile}

theorem row_line {row : Text} (member : row ∈ rows text) : '\n' ∉ row := by
  obtain ⟨line, split, rfl⟩ := List.mem_map.mp member
  intro inside
  have plain := Lines.unbroken split '\n' (Lines.subset_strip _ _ inside)
  revert plain
  decide

theorem guarded_ne_nil {row : Text} (held : guarded aids row = true) : row ≠ [] := by
  rintro rfl
  simp [guarded] at held

/-- One digest, one list of guarded rows. -/
theorem guarded_rows_eq (injective : Function.Injective hash)
    (same : acceptanceDigest hash aids new = acceptanceDigest hash aids old) :
    (rows new).filter (guarded aids) = (rows old).filter (guarded aids) := by
  have plain : ∀ text, ∀ row ∈ (rows text).filter (guarded aids), row ≠ [] ∧ '\n' ∉ row := by
    intro text row member
    obtain ⟨inside, held⟩ := List.mem_filter.mp member
    exact ⟨guarded_ne_nil held, row_line inside⟩
  exact Lines.joined_inj (plain new) (plain old) (injective same)

/-- The criteria of an ID are those that the digest guards and those that it does not. -/
theorem criteria_perm (aids : List Text) (aid text : Text) :
    (criteria aid text).Perm
      ((((rows text).filter (guarded aids)).filter (rowOf aid)).map criterion ++ unguarded aids aid text) := by
  rw [unguarded, ← List.map_append, ← List.filter_append]
  exact ((List.filter_append_perm (guarded aids) (rows text)).symm.filter _).map _

theorem verifies_iff {digest : Text} {passed : Bool} :
    verifies hash aids digest text tests passed = true ↔
      acceptanceDigest hash aids text = digest ∧ passed = true ∧ ∀ aid ∈ aids, aid <:+: corpus tests := by
  simp [verifies, unreferencedAcceptance, List.filter_eq_nil_iff, and_assoc]

/-- What verification lets through is protected exactly where every row and every reference is recognised. -/
theorem protected_iff (injective : Function.Injective hash) (named : slug lower value = .ok name) (number : Nat)
    {passed : Bool}
    (published : verifies hash (acceptanceIds name number) (acceptanceDigest hash (acceptanceIds name number) old) new tests
      passed = true) :
    Protected (acceptanceIds name number) old new tests ↔ Recognised (acceptanceIds name number) old new tests := by
  obtain ⟨same, -, found⟩ := verifies_iff.mp published
  have guarded_same := guarded_rows_eq injective same
  -- the guarded rows are the same on both sides and cancel
  have rows_iff : ∀ aid, (criteria aid new).Perm (criteria aid old) ↔
      (unguarded (acceptanceIds name number) aid new).Perm (unguarded (acceptanceIds name number) aid old) := by
    intro aid
    have left := criteria_perm (acceptanceIds name number) aid new
    have right := criteria_perm (acceptanceIds name number) aid old
    rw [guarded_same] at left
    constructor
    · exact fun perm => (List.perm_append_left_iff _).mp (left.symm.trans (perm.trans right))
    · exact fun perm => left.trans (((List.perm_append_left_iff _).mpr perm).trans right.symm)
  -- an ID has no line feed, so it lies within one of the files that are joined by line feeds
  have located : ∀ aid ∈ acceptanceIds name number, ∃ file ∈ tests, aid <:+: file.content := by
    intro aid member
    have plain := acceptanceId_line named member
    obtain ⟨content, inside, here⟩ := Lines.infix_joined plain.2 plain.1 (found aid member)
    obtain ⟨file, listed, rfl⟩ := List.mem_map.mp inside
    exact ⟨file, (List.mem_filter.mp listed).1, here⟩
  constructor
  · exact fun kept => ⟨fun aid member => (rows_iff aid).mp (kept.criteria aid member),
      fun aid member _ => kept.referenced aid member⟩
  · exact fun clear => ⟨fun aid member => (rows_iff aid).mpr (clear.criteria aid member),
      fun aid member => clear.referenced aid member (located aid member)⟩

theorem protected_iff_table :
    Protected (acceptanceIds "demo".toList 1) "| DEMO-01 | works |".toList "| DEMO-01 | works |\n".toList
        [⟨"tests/test_demo.py".toList, "# DEMO-01".toList⟩] ↔
      Recognised (acceptanceIds "demo".toList 1) "| DEMO-01 | works |".toList "| DEMO-01 | works |\n".toList
        [⟨"tests/test_demo.py".toList, "# DEMO-01".toList⟩] :=
  @protected_iff id id "demo".toList "demo".toList _ _ _ Function.injective_id (by rfl) 1 true (by decide)

/-- A table without blanks, whose criterion is weakened, and a test that names a three-digit ID. -/
theorem weakened_criterion_published :
    listsIds (acceptanceIds "demo".toList 1) "|DEMO-01|works|".toList = true ∧
      verifies id (acceptanceIds "demo".toList 1) (acceptanceDigest id (acceptanceIds "demo".toList 1) "|DEMO-01|works|".toList)
        "|DEMO-01|exists|".toList [⟨"tests/test_demo.py".toList, "# DEMO-011".toList⟩] true = true ∧
      ¬ (criteria "DEMO-01".toList "|DEMO-01|exists|".toList).Perm (criteria "DEMO-01".toList "|DEMO-01|works|".toList) ∧
      complete "DEMO-01".toList "# DEMO-011".toList = false ∧
      ¬ Protected (acceptanceIds "demo".toList 1) "|DEMO-01|works|".toList "|DEMO-01|exists|".toList
        [⟨"tests/test_demo.py".toList, "# DEMO-011".toList⟩] := by
  have changed : ¬ (criteria "DEMO-01".toList "|DEMO-01|exists|".toList).Perm (criteria "DEMO-01".toList "|DEMO-01|works|".toList) := by
    decide
  refine ⟨by decide, by decide, changed, by decide, fun kept => changed (kept.criteria "DEMO-01".toList (by decide))⟩

end AiStore.Pipeline
