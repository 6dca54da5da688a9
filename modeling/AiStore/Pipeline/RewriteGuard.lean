import AiStore.Pipeline.FilePatch
import Mathlib.Algebra.Order.Group.Multiset
import Mathlib.Data.Finset.Card
import Mathlib.Data.Multiset.OrderedMonoid

/-! The guard against wholesale rewrites, and what it says of the lines that a file loses. -/

set_option autoImplicit false

namespace AiStore.Pipeline.FilePatch

open Library
open Lines (splitlines)

/-! ## Lines -/

/-- Line ends of `"\n"`, by which the guard counts. -/
def newlines (text : Text) : Nat := text.count '\n'

/-- How many lines are gone, each as often as it stands there. -/
def absent (original content : Text) : Nat := ((splitlines original : Multiset Text) - splitlines content).card

/-- How many different lines both texts have. -/
def shared (original content : Text) : Nat := ((splitlines original).toFinset ∩ (splitlines content).toFinset).card

/-- How many different lines a text has. -/
def different (original : Text) : Nat := (splitlines original).toFinset.card

section

variable {original content : Text}

theorem newlines_le_lines (text : Text) : newlines text ≤ (splitlines text).length := by
  rw [newlines]
  fun_induction splitlines text with
  | case1 => exact Nat.zero_le _
  | case2 rest ih =>
    rw [List.count_cons_of_ne (by decide), List.count_cons_self, List.length_cons]
    omega
  | case3 c rest _ _ ih =>
    have most : (c :: rest).count '\n' ≤ rest.count '\n' + 1 := by
      rw [List.count_cons]
      split <;> omega
    rw [List.length_cons]
    omega
  | case4 c rest _ joins none ih =>
    have other : c ≠ '\n' := by
      rintro rfl
      exact joins (by decide)
    rw [none] at ih
    rw [List.count_cons_of_ne other]
    exact Nat.le_succ_of_le ih
  | case5 c rest _ joins line lines some ih =>
    have other : c ≠ '\n' := by
      rintro rfl
      exact joins (by decide)
    rw [some] at ih
    rw [List.count_cons_of_ne other]
    exact ih

/-- The lines that are gone and those that both texts have make up the original. -/
theorem absent_add_shared_le (original content : Text) : absent original content + shared original content ≤
    (splitlines original).length := by
  have parts := congrArg Multiset.card (Multiset.sub_add_inter (splitlines original : Multiset Text) (splitlines content))
  rw [Multiset.card_add, Multiset.coe_card] at parts
  have kinds : shared original content ≤ ((splitlines original : Multiset Text) ∩ splitlines content).card := by
    have most := Multiset.toFinset_card_le ((splitlines original : Multiset Text) ∩ splitlines content)
    rw [Multiset.toFinset_inter] at most
    exact most
  rw [absent]
  omega

theorem shared_of_kept (kept : (splitlines original).Sublist (splitlines content)) : shared original content = different original := by
  have all : (splitlines original).toFinset ⊆ (splitlines content).toFinset := fun line member =>
    List.mem_toFinset.mpr (kept.subset (List.mem_toFinset.mp member))
  rw [shared, different, Finset.inter_eq_left.mpr all]

/-- `kept` of the guard. -/
theorem kept_eq_shared (original content : Text) :
    ((splitlines content).dedup.filter (· ∈ splitlines original)).length = shared original content := by
  have single : ((splitlines content).dedup.filter (· ∈ splitlines original)).Nodup := (List.nodup_dedup _).filter _
  rw [← List.toFinset_card_of_nodup single, shared]
  congr 1
  ext line
  simp [and_comm]

theorem wholesale_iff (original content : Text) : wholesale (some original) content = true ↔
    40 ≤ newlines original ∧ 5 * shared original content < newlines original := by
  simp only [wholesale, kept_eq_shared, rewrites, Bool.and_eq_true, decide_eq_true_eq]
  rw [newlines, rewriteMinLines]
  omega

end

/-! ## The turn of a file -/

section

variable {scratch : Scratch} {tree now : Worktree} {before after : Files} {path content original : Text} {planned : List Text}

/-- The files before a file have been written. -/
inductive Reaches (scratch : Scratch) : Worktree → Files → Worktree → Prop where
  | here {tree : Worktree} : Reaches scratch tree [] tree
  | written {tree now : Worktree} {path content : Text} {rest : Files} (kept : wholesale (tree (place path)) content = false)
      (writable : scratch.unwritable tree (place path) = false)
      (later : Reaches scratch (Function.update tree (place path) (some content)) rest now) :
      Reaches scratch tree ((path, content) :: rest) now

def rewriteMessage (path : Text) : Text := "wholesale rewrite rejected: ".toList ++ path

theorem reaches_ending (reached : Reaches scratch tree before now) (files : Files) :
    (writeFiles scratch tree (before ++ files)).ending = (writeFiles scratch now files).ending := by
  induction reached with
  | here => rfl
  | written kept writable later ih =>
    rw [List.cons_append, writeFiles, if_neg (by rw [kept]; decide), if_neg (by rw [writable]; decide)]
    exact ih

/-- A file is named only by its own refusal. -/
theorem not_refused_for {files : Files} (absent : path ∉ files.map Prod.fst) :
    (writeFiles scratch tree files).ending ≠ .refused (rewriteMessage path) := by
  induction files generalizing tree with
  | nil =>
    rw [writeFiles]
    split
    · intro same
      cases (List.cons.inj (Ending.refused.inj same)).1
    · exact Ending.noConfusion
  | cons file rest ih =>
    obtain ⟨other, content⟩ := file
    rw [List.map_cons, List.mem_cons, not_or] at absent
    rw [writeFiles]
    split
    · intro same
      exact absent.1 (List.append_cancel_left (Ending.refused.inj same)).symm
    split
    · exact Ending.noConfusion
    · exact ih absent.2

/-- The refusal of a file whose turn has come. -/
theorem refused_iff (distinct : ((before ++ (path, content) :: after).map Prod.fst).Nodup)
    (reached : Reaches scratch tree before now) :
    (writeFiles scratch tree (before ++ (path, content) :: after)).ending = .refused (rewriteMessage path) ↔
      wholesale (now (place path)) content = true := by
  rw [List.map_append, List.map_cons, List.nodup_append'] at distinct
  have alone := (List.nodup_cons.mp distinct.2.1).1
  rw [reaches_ending reached, writeFiles]
  split
  · next lost => exact ⟨fun _ => lost, fun _ => rfl⟩
  · next kept =>
    refine ⟨fun refused => absurd refused ?_, fun lost => absurd lost kept⟩
    split
    · exact Ending.noConfusion
    · exact not_refused_for alone

/-! ## Deletions -/

/-- What the guard is for, over an existing file and its new content. -/
structure Measured (original content : Text) (rejected : Prop) : Prop where
  inserting : 40 ≤ (splitlines original).length → (splitlines original).Sublist (splitlines content) → ¬ rejected
  gutted : 40 ≤ (splitlines original).length → 4 * (splitlines original).length < 5 * absent original content → rejected
  short : (splitlines original).length < 40 → ¬ rejected

theorem measured_iff : Measured original content (wholesale (some original) content = true) ↔
    ((splitlines original).Sublist (splitlines content) → newlines original < 40 ∨ newlines original ≤ 5 * different original) ∧
    (40 ≤ (splitlines original).length → 4 * (splitlines original).length < 5 * absent original content →
      40 ≤ newlines original ∧ 5 * shared original content < newlines original) := by
  have fewer := newlines_le_lines original
  simp only [wholesale_iff]
  constructor
  · rintro ⟨inserting, gutted, -⟩
    refine ⟨fun kept => ?_, gutted⟩
    have allowed := fun long => inserting long kept
    rw [shared_of_kept kept] at allowed
    omega
  · rintro ⟨varied, ended⟩
    refine ⟨fun _ kept => ?_, ended, fun short => ?_⟩
    · have varied := varied kept
      rw [shared_of_kept kept]
      omega
    · omega

/-- Of a file whose lines all end with a newline, the guard finds it when more than four fifths are gone. -/
theorem gutted_of_ended (ended : (splitlines original).length = newlines original) (long : 40 ≤ (splitlines original).length)
    (lost : 4 * (splitlines original).length < 5 * absent original content) :
    40 ≤ newlines original ∧ 5 * shared original content < newlines original := by
  have parts := absent_add_shared_le original content
  omega

/-- The guard measures the deletions of a file whose turn has come exactly if a new content that keeps every line keeps
enough different ones, and one that loses four fifths keeps few different ones by newlines, as it always does where every
line ends with one. -/
theorem rewrite_guard_iff (allowed : ∀ file ∈ before ++ (path, content) :: after, allowedTarget file.1 planned = true)
    (opened : scratch.failure = none) (distinct : ((before ++ (path, content) :: after).map Prod.fst).Nodup)
    (reached : Reaches scratch scratch.head before now) (existing : now (place path) = some original) :
    (Measured original content
        ((buildPatch scratch (before ++ (path, content) :: after) planned).ending = .refused (rewriteMessage path)) ↔
      ((splitlines original).Sublist (splitlines content) →
        newlines original < 40 ∨ newlines original ≤ 5 * different original) ∧
      (40 ≤ (splitlines original).length → 4 * (splitlines original).length < 5 * absent original content →
        40 ≤ newlines original ∧ 5 * shared original content < newlines original)) ∧
    ((splitlines original).length = newlines original → 40 ≤ (splitlines original).length →
      4 * (splitlines original).length < 5 * absent original content →
        40 ≤ newlines original ∧ 5 * shared original content < newlines original) := by
  have nothing_bad : (((before ++ (path, content) :: after).map Prod.fst).filter fun path => !allowedTarget path planned) = [] := by
    refine List.filter_eq_nil_iff.mpr fun name member => ?_
    obtain ⟨file, inside, rfl⟩ := List.mem_map.mp member
    rw [allowed file inside]
    decide
  have built : buildPatch scratch (before ++ (path, content) :: after) planned =
      writeFiles scratch scratch.head (before ++ (path, content) :: after) := by
    rw [buildPatch, if_neg (by simp), if_neg (by rw [nothing_bad]; simp), opened]
  refine ⟨?_, gutted_of_ended⟩
  rw [built, refused_iff distinct reached, existing]
  exact measured_iff

/-- Forty blank lines. -/
def blankFile : Text := List.replicate 40 '\n'

/-- A checkout of one file. -/
def blankScratch : Scratch where
  failure := none
  head path := if path = place "pkg/a.py".toList then some blankFile else none
  unwritable _ _ := false
  diff _ := "diff".toList

/-- A line is added to a file of blank lines, and nothing is deleted. -/
theorem insertion_rejected : ¬ Measured blankFile ('A' :: '\n' :: blankFile)
    ((buildPatch blankScratch [("pkg/a.py".toList, 'A' :: '\n' :: blankFile)] ["pkg/a.py".toList]).ending =
      .refused (rewriteMessage "pkg/a.py".toList)) := by
  intro measured
  refine measured.inserting (by decide) (by decide) ?_
  rw [buildPatch, if_neg (by decide), if_neg (by decide)]
  have turn := @refused_iff blankScratch blankScratch.head blankScratch.head [] [] "pkg/a.py".toList
    ('A' :: '\n' :: blankFile) (by simp) .here
  exact turn.mpr (by decide)

theorem rewrite_guard_iff_blank :
    Measured blankFile ['A', '\n']
        ((buildPatch blankScratch ([] ++ ("pkg/a.py".toList, ['A', '\n']) :: []) ["pkg/a.py".toList]).ending =
          .refused (rewriteMessage "pkg/a.py".toList)) :=
  (rewrite_guard_iff (by simp [allowedTarget]) rfl (by simp) .here rfl).1.mpr (by decide)

end

end AiStore.Pipeline.FilePatch
