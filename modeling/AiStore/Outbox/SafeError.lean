import AiStore.Approval.Preview
import AiStore.Outbox.Sqlite
import AiStore.Service.Core
import Mathlib.Data.List.Infix
import Mathlib.Data.List.TakeWhile

/-! The errors that the outbox stores, and what they tell of the credentials in them. -/

set_option autoImplicit false

namespace AiStore.SQLiteRepository

open Approval (foldCase)
open Service (isSpace)

/-! ## The pattern -/

/-- `api[_-]?key|authorization|token|password|secret`. -/
def secretNames : List (List Char) :=
  ["apikey", "api_key", "api-key", "authorization", "token", "password", "secret"].map String.toList

/-- How long the name at the head of a text is, in any case. -/
def nameAt (text : List Char) : Option Nat :=
  (secretNames.find? fun name => name.isPrefixOf (text.map foldCase)).map List.length

def sign (c : Char) : Bool := c = ':' || c = '='

/-- `[^\s,;]`. -/
def valueCharacter (c : Char) : Bool := !isSpace c && c ≠ ',' && c ≠ ';'

/-- The first two groups of the match at the head of a text, and how long it is. Giving blanks back never helps, so
nothing is tried twice. -/
def secretAt (text : List Char) : Option (List Char × Nat) := match nameAt text with
  | none => none
  | some length =>
      let left := (text.drop length).takeWhile isSpace
      match (text.drop length).dropWhile isSpace with
      | [] => none
      | c :: rest =>
          let right := rest.takeWhile isSpace
          let value := (rest.dropWhile isSpace).takeWhile valueCharacter
          if sign c && !value.isEmpty then
            let kept := text.take length ++ left ++ c :: right
            some (kept, kept.length + value.length)
          else none

/-- `_SECRET.sub`, behind so many characters of the last match. -/
def redactFrom : Nat → List Char → List Char
  | _, [] => []
  | skip + 1, _ :: rest => redactFrom skip rest
  | 0, c :: rest => match secretAt (c :: rest) with
      | none => c :: redactFrom 0 rest
      | some (kept, length) => kept ++ "[REDACTED]".toList ++ redactFrom (length - 1) rest

def maxErrorLength : Nat := 500

/-- `_safe_error`. -/
def safeError (value : String) : String := .ofList ((redactFrom 0 value.toList).take maxErrorLength)

example : safeError "Api-Key : one, TOKEN=two;" = "Api-Key : [REDACTED], TOKEN=[REDACTED];" := by decide

/-! ## Where a secret is withheld -/

def SecretName (name : List Char) : Prop := name.map foldCase ∈ secretNames

/-- Blanks, a colon or an equals sign, and blanks. -/
inductive Separator : List Char → Prop where
  | around {left right : List Char} {c : Char} (before : ∀ d ∈ left, isSpace d = true) (here : sign c = true)
      (after : ∀ d ∈ right, isSpace d = true) : Separator (left ++ c :: right)

/-- No value goes on here. -/
def Ended (text : List Char) : Prop := ∀ c ∈ text.head?, valueCharacter c = false

def SecretValue (value : List Char) : Prop := value ≠ [] ∧ ∀ c ∈ value, valueCharacter c = true

/-- Texts that agree but in the values that the pattern finds. -/
inductive Disguised : List Char → List Char → Prop where
  | done : Disguised [] []
  | same {c : Char} {first second : List Char} (left : secretAt (c :: first) = none) (right : secretAt (c :: second) = none)
      (rest : Disguised first second) : Disguised (c :: first) (c :: second)
  | secret {name gap value other first second : List Char} (named : SecretName name) (separated : Separator gap)
      (left : SecretValue value) (right : SecretValue other) (ended : Ended first) (closed : Ended second)
      (rest : Disguised first second) : Disguised (name ++ gap ++ value ++ first) (name ++ gap ++ other ++ second)

section

variable {name gap value text first second : List Char}

theorem secretNames_apart : ∀ one ∈ secretNames, ∀ other ∈ secretNames, one <+: other → one = other := by
  have apart : ∀ one ∈ secretNames, ∀ other ∈ secretNames, one.isPrefixOf other = true → one = other := by decide
  exact fun one member other among begins => apart one member other among (List.isPrefixOf_iff_prefix.mpr begins)

theorem nameAt_append (named : SecretName name) (rest : List Char) : nameAt (name ++ rest) = some name.length := by
  have begins : name.map foldCase <+: (name ++ rest).map foldCase := by
    rw [List.map_append]
    exact List.prefix_append _ _
  cases found : secretNames.find? fun other => other.isPrefixOf ((name ++ rest).map foldCase) with
  | none =>
    have missing := List.find?_eq_none.mp found _ named
    exact absurd (List.isPrefixOf_iff_prefix.mpr begins) missing
  | some other =>
    have held := List.find?_some found
    have shown : other <+: (name ++ rest).map foldCase := List.isPrefixOf_iff_prefix.mp held
    have listed := List.mem_of_find?_eq_some found
    -- of two names that begin a text one begins the other
    have same : other = name.map foldCase := by
      rcases List.prefix_or_prefix_of_prefix shown begins with one | another
      · exact secretNames_apart _ listed _ named one
      · exact (secretNames_apart _ named _ listed another).symm
    rw [nameAt, found, same]
    exact congrArg some (List.length_map _)

theorem takeWhile_ended {accepts : Char → Bool} {run rest : List Char} (all : ∀ c ∈ run, accepts c = true)
    (stops : ∀ c ∈ rest.head?, accepts c = false) :
    (run ++ rest).takeWhile accepts = run ∧ (run ++ rest).dropWhile accepts = rest := by
  rw [List.takeWhile_append_of_pos all, List.dropWhile_append_of_pos all]
  cases rest with
  | nil => simp
  | cons c rest => simp [stops c rfl]

theorem sign_solid {c : Char} (here : sign c = true) : isSpace c = false := by
  rw [sign, Bool.or_eq_true, decide_eq_true_eq, decide_eq_true_eq] at here
  rcases here with rfl | rfl
  · decide
  · decide

theorem value_solid {c : Char} (here : valueCharacter c = true) : isSpace c = false := by
  simp only [valueCharacter, Bool.and_eq_true, Bool.not_eq_true'] at here
  exact here.1.1

/-- A name with its separator and a value is found, however long the value is. -/
theorem secretAt_value (named : SecretName name) (separated : Separator gap) (filled : SecretValue value) (ended : Ended text) :
    secretAt (name ++ gap ++ value ++ text) = some (name ++ gap, (name ++ gap).length + value.length) := by
  obtain ⟨before, here, after⟩ := separated
  rename_i left right c
  obtain ⟨d, others, rfl⟩ := List.exists_cons_of_ne_nil filled.1
  have shape : name ++ (left ++ c :: right) ++ (d :: others) ++ text = name ++ (left ++ (c :: (right ++ (d :: others ++ text)))) := by
    simp
  obtain ⟨blanks, signed⟩ := @takeWhile_ended isSpace left (c :: (right ++ (d :: others ++ text))) before fun e member => by
    cases member
    exact sign_solid here
  obtain ⟨more, behind⟩ := @takeWhile_ended isSpace right (d :: others ++ text) after fun e member => by
    cases member
    exact value_solid (filled.2 d List.mem_cons_self)
  obtain ⟨whole, -⟩ := takeWhile_ended filled.2 ended
  rw [shape, secretAt, nameAt_append named]
  simp only [List.drop_left, List.take_left, blanks, signed, more, behind, whole, here, List.isEmpty_cons, Bool.not_false,
    Bool.and_self, if_true, List.append_assoc]

theorem redactFrom_drop (skip : Nat) (text : List Char) : redactFrom skip text = redactFrom 0 (text.drop skip) := by
  induction text generalizing skip with
  | nil => rw [List.drop_nil, redactFrom, redactFrom]
  | cons c rest ih =>
    cases skip with
    | zero => rfl
    | succ skip => rw [redactFrom, ih, List.drop_succ_cons]

theorem redact_value (named : SecretName name) (separated : Separator gap) (filled : SecretValue value) (ended : Ended text) :
    redactFrom 0 (name ++ gap ++ value ++ text) = name ++ gap ++ "[REDACTED]".toList ++ redactFrom 0 text := by
  have found := secretAt_value named separated filled ended
  have behind : (name ++ gap ++ value ++ text).drop ((name ++ gap).length + value.length) = text := by
    rw [← List.length_append, List.drop_left]
  have positive : 0 < (name ++ gap).length + value.length := by
    have := List.length_pos_of_ne_nil filled.1
    omega
  cases whole : name ++ gap ++ value ++ text with
  | nil =>
    rw [whole] at behind found
    cases found
  | cons c rest =>
    rw [whole] at found behind
    rw [redactFrom, found]
    dsimp only
    rw [redactFrom_drop, ← List.drop_succ_cons (a := c), Nat.sub_add_cancel positive, behind]

theorem redact_disguised (disguised : Disguised first second) : redactFrom 0 first = redactFrom 0 second := by
  induction disguised with
  | done => rfl
  | same left right _ ih => rw [redactFrom, left, redactFrom, right, ih]
  | secret named separated left right ended closed _ ih =>
    rw [redact_value named separated left ended, redact_value named separated right closed, ih]

/-! ## What is told apart -/

/-- No name has the character. -/
def Foreign (c : Char) : Prop := ∀ name ∈ secretNames, foldCase c ∉ name

theorem foreign_of_absent {c : Char} (absent : ∀ name ∈ secretNames, name.contains (foldCase c) = false) : Foreign c := by
  intro name listed inside
  have missing := absent name listed
  rw [List.contains_iff_mem.mpr inside] at missing
  cases missing

theorem foreign_bracket : Foreign '[' := foreign_of_absent (by decide)

theorem foreign_sign {c : Char} (here : sign c = true) : Foreign c := by
  rw [sign, Bool.or_eq_true, decide_eq_true_eq, decide_eq_true_eq] at here
  rcases here with rfl | rfl
  · exact foreign_of_absent (by decide)
  · exact foreign_of_absent (by decide)

theorem foldCase_space {c : Char} (blank : isSpace c = true) : foldCase c = c := by
  simp only [isSpace, List.mem_cons, List.not_mem_nil, or_false, decide_eq_true_eq] at blank
  have small : ¬ ('A'.val ≤ c.val ∧ c.val ≤ 'Z'.val) := by
    rintro ⟨low, high⟩
    have lower : 65 ≤ c.toNat := low
    have upper : c.toNat ≤ 90 := high
    omega
  have others : ¬ (c.toNat = 0x130 ∨ c.toNat = 0x131) ∧ c.toNat ≠ 0x17F ∧ c.toNat ≠ 0x212A := by omega
  simp only [foldCase, List.mem_cons, List.not_mem_nil, or_false]
  have lower : c.toLower = c := dif_neg small
  rw [if_neg others.1, if_neg others.2.1, if_neg others.2.2, lower]

theorem foreign_space {c : Char} (blank : isSpace c = true) : Foreign c := by
  have solid : ∀ name ∈ secretNames, name.all (fun d => !isSpace d) = true := by decide
  intro name member inside
  rw [foldCase_space blank] at inside
  have apart := List.all_eq_true.mp (solid name member) c inside
  rw [blank] at apart
  cases apart

theorem nameAt_some {length : Nat} (found : nameAt text = some length) :
    ∃ name rest, text = name ++ rest ∧ SecretName name ∧ name.length = length := by
  rw [nameAt, Option.map_eq_some_iff] at found
  obtain ⟨other, held, rfl⟩ := found
  have begins := List.find?_some held
  have shown : other <+: text.map foldCase := List.isPrefixOf_iff_prefix.mp begins
  have same : (text.take other.length).map foldCase = other := by
    rw [List.map_take]
    exact (List.prefix_iff_eq_take.mp shown).symm
  have listed := List.mem_of_find?_eq_some held
  refine ⟨text.take other.length, text.drop other.length, (List.take_append_drop _ _).symm, ?_, ?_⟩
  · rw [SecretName, same]
    exact listed
  · rw [← List.length_map foldCase, same]

/-- A name at the head of a text does not go past a character that no name has. -/
theorem nameAt_before {word : List Char} {c : Char} {length : Nat} (foreign : Foreign c)
    (found : nameAt (word ++ c :: text) = some length) : ∃ name ∈ secretNames, name <+: word.map foldCase := by
  obtain ⟨name, rest, shape, named, -⟩ := nameAt_some found
  refine ⟨name.map foldCase, named, ?_⟩
  have begins : name <+: word ++ c :: text := shape ▸ List.prefix_append name rest
  rcases List.prefix_or_prefix_of_prefix begins (List.prefix_append word (c :: text)) with shorter | ⟨further, longer⟩
  · exact shorter.map foldCase
  · subst longer
    cases further with
    | nil => rw [List.append_nil]
    | cons d further =>
      have headed : d :: further <+: c :: text := (List.prefix_append_right_inj word).mp begins
      have inside : foldCase d ∈ (word ++ d :: further).map foldCase := List.mem_map_of_mem (by simp)
      rw [(List.cons_prefix_cons.mp headed).1] at inside
      exact absurd inside (foreign _ (by rw [← (List.cons_prefix_cons.mp headed).1]; exact named))

theorem secretNames_filled : ∀ name ∈ secretNames, name ≠ [] := by
  have filled : ∀ name ∈ secretNames, name.isEmpty = false := by decide
  rintro name member rfl
  cases filled [] member

theorem nameAt_foreign {c : Char} (foreign : Foreign c) (text : List Char) : nameAt (c :: text) = none := by
  cases found : nameAt (c :: text) with
  | none => rfl
  | some length =>
    obtain ⟨name, listed, begins⟩ := @nameAt_before text [] c length foreign found
    exact absurd (List.prefix_nil.mp begins) (secretNames_filled name listed)

theorem ended_dropWhile (text : List Char) : Ended (text.dropWhile valueCharacter) := fun c member => by
  have stopped := List.head?_dropWhile_not valueCharacter text
  rw [Option.mem_def.mp member] at stopped
  exact stopped

theorem secretValue_takeWhile (filled : text.takeWhile valueCharacter ≠ []) : SecretValue (text.takeWhile valueCharacter) :=
  ⟨filled, fun _ member => List.mem_takeWhile_imp member⟩

/-- What a named secret in front of a text is made of. -/
theorem secretAt_some {kept : List Char} {length : Nat} (found : secretAt text = some (kept, length)) :
    ∃ name gap value rest, text = name ++ gap ++ value ++ rest ∧ SecretName name ∧ Separator gap ∧ SecretValue value ∧
      Ended rest := by
  rw [secretAt] at found
  cases first : nameAt text with
  | none =>
    rw [first] at found
    cases found
  | some length =>
    obtain ⟨name, behind, rfl, named, rfl⟩ := nameAt_some first
    rw [first] at found
    simp only [List.drop_left, List.take_left] at found
    have blanks : ∀ d ∈ behind.takeWhile isSpace, isSpace d = true := fun d member => List.mem_takeWhile_imp member
    cases shown : behind.dropWhile isSpace with
    | nil =>
      rw [shown] at found
      cases found
    | cons c rest =>
      rw [shown] at found
      simp only [Option.ite_none_right_eq_some, Bool.and_eq_true, Bool.not_eq_true', List.isEmpty_eq_false_iff] at found
      obtain ⟨⟨signed, filled⟩, -⟩ := found
      have split : behind = behind.takeWhile isSpace ++ c :: rest := by
        rw [← shown, List.takeWhile_append_dropWhile]
      refine ⟨name, behind.takeWhile isSpace ++ c :: rest.takeWhile isSpace,
        (rest.dropWhile isSpace).takeWhile valueCharacter, (rest.dropWhile isSpace).dropWhile valueCharacter, ?_, named,
        .around blanks signed fun d member => List.mem_takeWhile_imp member,
        secretValue_takeWhile filled, ended_dropWhile _⟩
      conv_lhs => rw [split, ← List.takeWhile_append_dropWhile (p := isSpace) (l := rest),
        ← List.takeWhile_append_dropWhile (p := valueCharacter) (l := rest.dropWhile isSpace)]
      simp only [List.append_assoc, List.cons_append]

theorem redact_none {c : Char} {rest : List Char} (plain : secretAt (c :: rest) = none) :
    redactFrom 0 (c :: rest) = c :: redactFrom 0 rest := by
  rw [redactFrom, plain]

/-- A character that no name begins at stands for itself. -/
theorem literal_head {c : Char} {shown : List Char} (quiet : nameAt (c :: shown) = none)
    (redacted : redactFrom 0 text = c :: shown) : ∃ rest, text = c :: rest ∧ redactFrom 0 rest = shown := by
  cases text with
  | nil =>
    rw [redactFrom] at redacted
    cases redacted
  | cons d rest =>
    cases found : secretAt (d :: rest) with
    | none =>
      rw [redact_none found] at redacted
      cases redacted
      exact ⟨rest, rfl, rfl⟩
    | some secret =>
      obtain ⟨name, gap, value, behind, shape, named, separated, filled, ended⟩ := secretAt_some found
      rw [shape, redact_value named separated filled ended, List.append_assoc, List.append_assoc] at redacted
      rw [← redacted, nameAt_append named] at quiet
      cases quiet

theorem literal_foreign {run shown : List Char} (foreign : ∀ c ∈ run, Foreign c) (redacted : redactFrom 0 text = run ++ shown) :
    ∃ rest, text = run ++ rest ∧ redactFrom 0 rest = shown := by
  induction run generalizing text with
  | nil => exact ⟨text, rfl, redacted⟩
  | cons c run ih =>
    obtain ⟨rest, rfl, same⟩ := literal_head (nameAt_foreign (foreign c List.mem_cons_self) _) redacted
    obtain ⟨behind, rfl, shown⟩ := ih (fun d member => foreign d (List.mem_cons_of_mem _ member)) same
    exact ⟨behind, rfl, shown⟩

theorem literal_tail {run shown : List Char} {c : Char} (foreign : Foreign c)
    (quiet : ∀ part, part <:+ run → ∀ name ∈ secretNames, ¬ name <+: part.map foldCase)
    (redacted : redactFrom 0 text = run ++ c :: shown) : ∃ rest, text = run ++ rest ∧ redactFrom 0 rest = c :: shown := by
  induction run generalizing text with
  | nil => exact ⟨text, rfl, redacted⟩
  | cons d run ih =>
    have silent : nameAt (d :: (run ++ c :: shown)) = none := by
      cases found : nameAt (d :: (run ++ c :: shown)) with
      | none => rfl
      | some length =>
        obtain ⟨name, listed, begins⟩ := @nameAt_before shown (d :: run) c length foreign found
        exact absurd begins (quiet _ List.suffix_rfl name listed)
    obtain ⟨rest, rfl, same⟩ := literal_head silent redacted
    obtain ⟨behind, rfl, shown⟩ := ih (fun part inside => quiet part (inside.trans (List.suffix_cons d run))) same
    exact ⟨behind, rfl, shown⟩

/-- No name begins inside another. -/
theorem name_tail_quiet {c : Char} {run : List Char} (named : SecretName (c :: run)) :
    ∀ part, part <:+ run → ∀ name ∈ secretNames, ¬ name <+: part.map foldCase := by
  have quiet : ∀ whole ∈ secretNames, ∀ part ∈ whole.tail.tails, ∀ name ∈ secretNames, name.isPrefixOf part = false := by
    decide
  intro part inside name listed begins
  have among : part.map foldCase ∈ ((c :: run).map foldCase).tail.tails := (List.mem_tails _ _).mpr (inside.map foldCase)
  have missing := quiet _ named _ among name listed
  rw [List.isPrefixOf_iff_prefix.mpr begins] at missing
  cases missing

theorem run_inj {accepts : Char → Bool} {run other rest further : List Char} (all : ∀ c ∈ run, accepts c = true)
    (every : ∀ c ∈ other, accepts c = true) (stops : ∀ c ∈ rest.head?, accepts c = false)
    (ends : ∀ c ∈ further.head?, accepts c = false) (same : run ++ rest = other ++ further) : run = other ∧ rest = further := by
  obtain ⟨taken, left⟩ := takeWhile_ended all stops
  obtain ⟨retaken, releft⟩ := takeWhile_ended every ends
  rw [same] at taken left
  exact ⟨taken.symm.trans retaken, left.symm.trans releft⟩

/-- A separator ends where the bracket stands. -/
theorem separator_inj {other shown further : List Char} (one : Separator gap) (another : Separator other)
    (same : gap ++ '[' :: shown = other ++ '[' :: further) : gap = other ∧ shown = further := by
  obtain @⟨left, right, c, before, here, after⟩ := one
  obtain @⟨front, back, d, fore, there, behind⟩ := another
  rw [List.append_assoc, List.append_assoc, List.cons_append, List.cons_append] at same
  obtain ⟨rfl, signs⟩ := run_inj before fore (fun e member => by cases member; exact sign_solid here)
    (fun e member => by cases member; exact sign_solid there) same
  obtain ⟨rfl, rests⟩ := List.cons.inj signs
  have bracket {text : List Char} : ∀ e ∈ ('[' :: text).head?, isSpace e = false := fun e member => by
    cases member
    decide
  obtain ⟨rfl, brackets⟩ := run_inj after behind bracket bracket rests
  exact ⟨rfl, (List.cons.inj brackets).2⟩

theorem separator_foreign (separated : Separator gap) : ∀ c ∈ gap, Foreign c := by
  obtain ⟨before, here, after⟩ := separated
  intro d member
  rcases List.mem_append.mp member with blank | others
  · exact foreign_space (before d blank)
  · rcases List.mem_cons.mp others with rfl | blank
    · exact foreign_sign here
    · exact foreign_space (after d blank)

theorem separator_filled (separated : Separator gap) : gap ≠ [] := by
  obtain ⟨-, -, -⟩ := separated
  simp

theorem name_filled (named : SecretName name) : name ≠ [] := by
  rintro rfl
  exact secretNames_filled _ named rfl

/-- Where no secret is found, the redacted text shows none. -/
theorem not_withheld {shown : List Char} (named : SecretName name) (separated : Separator gap) (plain : secretAt text = none) :
    redactFrom 0 text ≠ name ++ gap ++ "[REDACTED]".toList ++ shown := by
  intro redacted
  obtain ⟨c, run, rfl⟩ := List.exists_cons_of_ne_nil (name_filled named)
  obtain ⟨g, gaps, rfl⟩ := List.exists_cons_of_ne_nil (separator_filled separated)
  have foreign := separator_foreign separated
  cases text with
  | nil =>
    rw [redactFrom] at redacted
    cases redacted
  | cons d rest =>
    rw [redact_none plain] at redacted
    have shape : c :: run ++ (g :: gaps) ++ "[REDACTED]".toList ++ shown =
        c :: (run ++ g :: (gaps ++ '[' :: ("REDACTED]".toList ++ shown))) := by simp
    rw [shape] at redacted
    obtain ⟨rfl, behind⟩ := List.cons.inj redacted
    -- the name, the separator and the bracket stand in the text as they are shown
    obtain ⟨rest, rfl, after⟩ := literal_tail (foreign g List.mem_cons_self) (name_tail_quiet named) behind
    have solid : ∀ e ∈ g :: gaps ++ ['['], Foreign e := fun e member => by
      rcases List.mem_append.mp member with inside | last
      · exact foreign e inside
      · rw [List.mem_singleton.mp last]
        exact foreign_bracket
    obtain ⟨rest, rfl, -⟩ := @literal_foreign rest (g :: gaps ++ ['[']) ("REDACTED]".toList ++ shown) solid (by
      rw [after]
      simp)
    have filled : ('[' :: rest).takeWhile valueCharacter ≠ [] := by
      rw [List.takeWhile_cons_of_pos (by decide)]
      exact List.cons_ne_nil _ _
    have found := secretAt_value named separated (secretValue_takeWhile filled) (ended_dropWhile ('[' :: rest))
    rw [List.append_assoc _ (List.takeWhile _ _), List.takeWhile_append_dropWhile] at found
    have whole : d :: run ++ (g :: gaps) ++ '[' :: rest = d :: (run ++ (g :: gaps ++ ['['] ++ rest)) := by simp
    rw [whole, plain] at found
    cases found

theorem redact_filled {c : Char} {rest : List Char} : redactFrom 0 (c :: rest) ≠ [] := by
  rw [redactFrom]
  cases secretAt (c :: rest) with
  | none => exact List.cons_ne_nil _ _
  | some found => simp

/-- Texts that are redacted to the same text agree but in the values of named secrets. -/
theorem disguised_of_redacted (same : redactFrom 0 first = redactFrom 0 second) : Disguised first second := by
  induction many : first.length using Nat.strong_induction_on generalizing first second with
  | _ n ih =>
    cases first with
    | nil =>
      cases second with
      | nil => exact .done
      | cons d others => exact absurd same.symm redact_filled
    | cons c rest =>
      cases second with
      | nil => exact absurd same redact_filled
      | cons d others =>
        cases found : secretAt (c :: rest) with
        | none =>
          cases refound : secretAt (d :: others) with
          | none =>
            rw [redact_none found, redact_none refound] at same
            obtain ⟨rfl, shown⟩ := List.cons.inj same
            exact .same found refound (ih _ (by rw [← many, List.length_cons]; omega) shown rfl)
          | some secret =>
            obtain ⟨name, gap, value, text, shape, named, separated, filled, ended⟩ := secretAt_some refound
            rw [shape, redact_value named separated filled ended] at same
            exact absurd same (not_withheld named separated found)
        | some secret =>
          obtain ⟨name, gap, value, text, shape, named, separated, filled, ended⟩ := secretAt_some found
          rw [shape, redact_value named separated filled ended] at same
          cases refound : secretAt (d :: others) with
          | none => exact absurd same.symm (not_withheld named separated refound)
          | some secret =>
            obtain ⟨word, blank, other, further, reshape, renamed, reseparated, refilled, closed⟩ := secretAt_some refound
            rw [reshape, redact_value renamed reseparated refilled closed] at same
            have lengths : name.length = word.length := by
              have one := nameAt_append named (gap ++ "[REDACTED]".toList ++ redactFrom 0 text)
              have another := nameAt_append renamed (blank ++ "[REDACTED]".toList ++ redactFrom 0 further)
              simp only [← List.append_assoc] at one another
              rw [same, another] at one
              exact (Option.some.inj one).symm
            simp only [List.append_assoc] at same
            obtain ⟨rfl, gaps⟩ := List.append_inj same lengths
            obtain ⟨rfl, shown⟩ := separator_inj separated reseparated gaps
            have behind : redactFrom 0 text = redactFrom 0 further := List.append_cancel_left shown
            have shorter : text.length < n := by
              rw [← many, shape]
              have := List.length_pos_of_ne_nil (name_filled named)
              simp only [List.length_append]
              omega
            rw [shape, reshape]
            exact .secret named separated filled refilled ended closed (ih _ shorter behind rfl)

/-- The redacted error is stored whole. -/
def Whole (error : String) : Prop := (redactFrom 0 error.toList).length ≤ maxErrorLength

theorem safeError_disguised {error other : String} (disguised : Disguised error.toList other.toList) :
    safeError error = safeError other := by
  rw [safeError, safeError, redact_disguised disguised]

theorem disguised_of_safeError {error other : String} (whole : Whole error) (entire : Whole other)
    (same : safeError error = safeError other) : Disguised error.toList other.toList := by
  rw [safeError, safeError, List.take_of_length_le whole, List.take_of_length_le entire] at same
  exact disguised_of_redacted (String.ofList_inj.mp same)

section

variable {ι κ : Type} [DecidableEq ι]

theorem failOutbox_lastError {error : String} {tenant id worker : ι} {token : Nat} {now : Timestamp} {maxAttempts : Int}
    {box after : Outbox ι κ} {event : OutboxEvent ι κ}
    (failed : failOutbox safeError tenant id worker token error now maxAttempts box = .ok (event, after)) :
    event.lastError = some (safeError error) := by
  rw [failOutbox] at failed
  split at failed
  · cases failed
  · cases leased : leasedRow tenant id worker token now box with
    | error why =>
      rw [leased] at failed
      cases failed
    | ok row =>
      rw [leased] at failed
      cases failed
      rfl

/-- Texts that agree but in the values of named secrets leave the same outbox. Errors that are stored whole are stored as
the same error only if they agree so. -/
theorem stored_error_independent (error other : String) (tenant id worker : ι) (token : Nat) (now : Timestamp)
    (maxAttempts : Int) (box : Outbox ι κ) :
    (Disguised error.toList other.toList → failOutbox safeError tenant id worker token error now maxAttempts box =
      failOutbox safeError tenant id worker token other now maxAttempts box) ∧
    (Whole error → Whole other → ∀ event after again later,
      failOutbox safeError tenant id worker token error now maxAttempts box = .ok (event, after) →
      failOutbox safeError tenant id worker token other now maxAttempts box = .ok (again, later) →
      (event.lastError = again.lastError ↔ Disguised error.toList other.toList)) := by
  refine ⟨fun disguised => ?_, fun whole entire event after again later failed refailed => ⟨fun same => ?_, fun disguised => ?_⟩⟩
  · simp only [failOutbox, failDelivery, safeError_disguised disguised]
  · rw [failOutbox_lastError failed, failOutbox_lastError refailed] at same
    exact disguised_of_safeError whole entire (Option.some.inj same)
  · rw [failOutbox_lastError failed, failOutbox_lastError refailed, safeError_disguised disguised]

end

/-- An outbox with one leased event. -/
def leasedBox : Outbox Nat Nat where
  tenants := [0]
  rows := [{
    state := .leased, leaseOwner := some 1, leaseUntil := some (.utc 60), fencingToken := 1, attempts := 1, id := 0
    tenantId := 0, topic := "command", aggregateRef := 0, payload := [], idempotencyKey := 0, createdAt := .utc 0 }]
  primaryKey := by decide
  uniqueKey := by decide

/-- What an event is left with. -/
def storedError (error : String) : Option String :=
  match failOutbox safeError 0 0 1 1 error (.utc 0) 5 leasedBox with
  | .ok (event, _) => event.lastError
  | .error _ => none

/-- The scheme is taken for the value, and the credential behind it is stored. -/
theorem bearer_credential_stored :
    storedError "Authorization: Bearer alpha" = some "Authorization: [REDACTED] alpha" ∧
      storedError "Authorization: Bearer alpha" ≠ storedError "Authorization: Bearer omega" := by
  have alpha : storedError "Authorization: Bearer alpha" = some "Authorization: [REDACTED] alpha" := by decide
  have omega : storedError "Authorization: Bearer omega" = some "Authorization: [REDACTED] omega" := by decide
  refine ⟨alpha, ?_⟩
  rw [alpha, omega]
  decide

theorem secretValue_of_all {value : List Char} (filled : value ≠ []) (all : value.all valueCharacter = true) :
    SecretValue value :=
  ⟨filled, List.all_eq_true.mp all⟩

theorem ended_nil : Ended [] := fun _ none => nomatch none

theorem ended_cons {c : Char} {text : List Char} (here : valueCharacter c = false) : Ended (c :: text) := fun d member => by
  cases member
  exact here

theorem password_values_disguised : Disguised "Password: one, token=two".toList "Password: three, token=four".toList := by
  have comma : secretAt ", token=two".toList = none ∧ secretAt ", token=four".toList = none ∧
      secretAt " token=two".toList = none ∧ secretAt " token=four".toList = none := by decide
  have colon : Separator ": ".toList :=
    @Separator.around [] [' '] ':' (fun _ none => absurd none List.not_mem_nil) rfl fun d blank => by
      rw [List.mem_singleton.mp blank]
      rfl
  have equals : Separator "=".toList :=
    @Separator.around [] [] '=' (fun _ none => absurd none List.not_mem_nil) rfl fun _ none => absurd none List.not_mem_nil
  have tokens : Disguised "token=two".toList "token=four".toList :=
    @Disguised.secret "token".toList "=".toList "two".toList "four".toList [] []
      (by unfold SecretName; decide) equals (secretValue_of_all (by decide) (by decide))
      (secretValue_of_all (by decide) (by decide)) ended_nil ended_nil .done
  exact @Disguised.secret "Password".toList ": ".toList "one".toList "three".toList ", token=two".toList ", token=four".toList
    (by unfold SecretName; decide) colon (secretValue_of_all (by decide) (by decide))
    (secretValue_of_all (by decide) (by decide)) (ended_cons (c := ',') (by decide)) (ended_cons (c := ',') (by decide))
    (.same comma.1 comma.2.1 (.same comma.2.2.1 comma.2.2.2 tokens))

theorem password_errors_stored_alike :
    failOutbox safeError 0 0 1 1 "Password: one, token=two" (.utc 0) 5 leasedBox =
        failOutbox safeError 0 0 1 1 "Password: three, token=four" (.utc 0) 5 leasedBox ∧
      ∃ event after again later,
        failOutbox safeError 0 0 1 1 "Authorization: Bearer alpha" (.utc 0) 5 leasedBox = .ok (event, after) ∧
        failOutbox safeError 0 0 1 1 "Authorization: Bearer omega" (.utc 0) 5 leasedBox = .ok (again, later) ∧
        (event.lastError = again.lastError ↔
          Disguised "Authorization: Bearer alpha".toList "Authorization: Bearer omega".toList) := by
  have alpha : Whole "Authorization: Bearer alpha" := by unfold Whole; decide
  have omega : Whole "Authorization: Bearer omega" := by unfold Whole; decide
  refine ⟨(stored_error_independent _ _ 0 0 1 1 (.utc 0) 5 leasedBox).1 password_values_disguised, _, _, _, _, rfl, rfl, ?_⟩
  exact (stored_error_independent _ _ 0 0 1 1 (.utc 0) 5 leasedBox).2 alpha omega _ _ _ _ rfl rfl

end

end AiStore.SQLiteRepository
