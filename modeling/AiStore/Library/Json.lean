import Mathlib.Data.List.Sort
import Mathlib.Data.String.Basic
import Mathlib.Tactic.IntervalCases
import AiStore.Library.Timestamp

/-! Canonical JSON: sorted keys, no blanks, only the characters escaped that must be.

A text without floats is read back in one way, also in front of other text, so
the encoding is injective.
-/

set_option autoImplicit false

namespace AiStore.Library

inductive Json where
  | null
  | bool (flag : Bool)
  | int (number : Int)
  /-- A float, by its shortest representation. -/
  | float (shown : String)
  | text (content : String)
  | list (items : List Json)
  | object (entries : List (String × Json))

namespace Json

/-! ## Rendering -/

def hexDigit (value : Nat) : Char := if value < 10 then Char.ofNat ('0'.toNat + value) else Char.ofNat ('a'.toNat + value - 10)

def escape (c : Char) : List Char :=
  if c = '"' then ['\\', '"']
  else if c = '\\' then ['\\', '\\']
  else if c = '\n' then ['\\', 'n']
  else if c = '\r' then ['\\', 'r']
  else if c = '\t' then ['\\', 't']
  else if c = '\x0c' then ['\\', 'f']
  else if c = '\x08' then ['\\', 'b']
  else if c.toNat < 32 then ['\\', 'u', '0', '0', hexDigit (c.toNat / 16), hexDigit (c.toNat % 16)]
  else [c]

/-- The characters of a string and the quote behind them. -/
def escaped : List Char → List Char
  | [] => ['"']
  | c :: rest => escape c ++ escaped rest

def quoted (text : String) : List Char := '"' :: escaped text.toList

def digits (number : Int) : List Char :=
  match number with
  | .ofNat size => Nat.toDigits 10 size
  | .negSucc size => '-' :: Nat.toDigits 10 (size + 1)

mutual

def chars : Json → List Char
  | .null => ['n', 'u', 'l', 'l']
  | .bool true => ['t', 'r', 'u', 'e']
  | .bool false => ['f', 'a', 'l', 's', 'e']
  | .int number => digits number
  | .float shown => shown.toList
  | .text content => quoted content
  | .list items => '[' :: itemChars items
  | .object entries => '{' :: entryChars entries

def itemChars : List Json → List Char
  | [] => [']']
  | item :: rest => chars item ++ moreItems rest

def moreItems : List Json → List Char
  | [] => [']']
  | item :: rest => ',' :: (chars item ++ moreItems rest)

def entryChars : List (String × Json) → List Char
  | [] => ['}']
  | (key, item) :: rest => quoted key ++ ':' :: (chars item ++ moreEntries rest)

def moreEntries : List (String × Json) → List Char
  | [] => ['}']
  | (key, item) :: rest => ',' :: (quoted key ++ ':' :: (chars item ++ moreEntries rest))

end

def keyLe (first second : String × Json) : Bool :=
  Timestamp.codesLe (first.1.toList.map Char.toNat) (second.1.toList.map Char.toNat)

mutual

/-- `sort_keys`. -/
def sortKeys : Json → Json
  | .list items => .list (sortItems items)
  | .object entries => .object ((sortEntries entries).insertionSort fun first second => keyLe first second)
  | leaf => leaf

def sortItems : List Json → List Json
  | [] => []
  | item :: rest => sortKeys item :: sortItems rest

def sortEntries : List (String × Json) → List (String × Json)
  | [] => []
  | (key, item) :: rest => (key, sortKeys item) :: sortEntries rest

end

def canonical (value : Json) : String := .ofList (chars (sortKeys value))

mutual

/-- No floats below. -/
def exact : Json → Bool
  | .float _ => false
  | .list items => exactItems items
  | .object entries => exactEntries entries
  | _ => true

def exactItems : List Json → Bool
  | [] => true
  | item :: rest => exact item && exactItems rest

def exactEntries : List (String × Json) → Bool
  | [] => true
  | (_, item) :: rest => exact item && exactEntries rest

end

/-! ## Strings -/

/-- Reads one character of a string back. -/
def unescape : List Char → Option (Char × List Char)
  | '\\' :: 'u' :: '0' :: '0' :: high :: low :: rest =>
      let value := fun digit : Char => if digit.isDigit then digit.toNat - '0'.toNat else digit.toNat - 'a'.toNat + 10
      some (Char.ofNat (16 * value high + value low), rest)
  | '\\' :: 'n' :: rest => some ('\n', rest)
  | '\\' :: 'r' :: rest => some ('\r', rest)
  | '\\' :: 't' :: rest => some ('\t', rest)
  | '\\' :: 'f' :: rest => some ('\x0c', rest)
  | '\\' :: 'b' :: rest => some ('\x08', rest)
  | '\\' :: c :: rest => some (c, rest)
  | c :: rest => some (c, rest)
  | [] => none

theorem unescape_control (rest : List Char) : ∀ code < 32,
    unescape (['\\', 'u', '0', '0', hexDigit (code / 16), hexDigit (code % 16)] ++ rest) = some (Char.ofNat code, rest) := by
  intro code small
  interval_cases code <;> rfl

theorem unescape_escape (c : Char) (rest : List Char) : unescape (escape c ++ rest) = some (c, rest) := by
  unfold escape
  split
  · next same => subst same; rfl
  split
  · next same => subst same; rfl
  split
  · next same => subst same; rfl
  split
  · next same => subst same; rfl
  split
  · next same => subst same; rfl
  split
  · next same => subst same; rfl
  split
  · next same => subst same; rfl
  split
  · next small =>
    have read := unescape_control rest c.toNat small
    rwa [Char.ofNat_toNat] at read
  · next quote slash _ _ _ _ _ _ =>
    unfold unescape
    simp only [List.cons_append, List.nil_append]
    split <;> simp_all

theorem escape_head (c : Char) : (escape c).head? ≠ some '"' := by
  unfold escape
  split
  · simp
  · next other =>
    repeat' split
    all_goals simp [other]

theorem escaped_inj (first second : List Char) {before after : List Char}
    (same : escaped first ++ before = escaped second ++ after) : first = second ∧ before = after := by
  -- no character is written as the quote that ends the string
  have closed : ∀ (c : Char) (rest more others : List Char), ¬ ['"'] ++ more = escape c ++ rest ++ others := by
    intro c rest more others equal
    have heads := congrArg List.head? equal
    have nonempty : escape c ≠ [] := fun empty => by
      have read := unescape_escape c []
      rw [empty] at read
      cases read
    rw [List.append_assoc, List.head?_append_of_ne_nil _ nonempty] at heads
    exact escape_head c heads.symm
  induction first generalizing second with
  | nil =>
    cases second with
    | nil => exact ⟨rfl, List.append_cancel_left same⟩
    | cons c rest => exact absurd same (closed c (escaped rest) before after)
  | cons c rest ih =>
    cases second with
    | nil => exact absurd same.symm (closed c (escaped rest) after before)
    | cons d others =>
      simp only [escaped, List.append_assoc] at same
      -- one character is read back from both, and the rests agree again
      have read := congrArg unescape same
      rw [unescape_escape, unescape_escape, Option.some.injEq, Prod.mk.injEq] at read
      obtain ⟨rfl, rests⟩ := read
      obtain ⟨rfl, rfl⟩ := ih others rests
      exact ⟨rfl, rfl⟩

theorem quoted_inj {first second : String} {before after : List Char}
    (same : quoted first ++ before = quoted second ++ after) : first = second ∧ before = after := by
  obtain ⟨texts, rests⟩ := escaped_inj _ _ (List.cons.inj same).2
  exact ⟨String.toList_inj.mp texts, rests⟩

/-! ## Numbers -/

/-- No digit follows. -/
def Closed (rest : List Char) : Prop := ∀ c ∈ rest.head?, c.isDigit = false

theorem toDigits_inj {first second : Nat} {before after : List Char} (closed : Closed before) (other : Closed after)
    (same : Nat.toDigits 10 first ++ before = Nat.toDigits 10 second ++ after) : first = second ∧ before = after := by
  -- the digits of the number are the digits that the text begins with, since none follows
  have taken : ∀ (number : Nat) (rest : List Char), Closed rest →
      (Nat.toDigits 10 number ++ rest).takeWhile Char.isDigit = Nat.toDigits 10 number := by
    intro number rest ends
    rw [List.takeWhile_append_of_pos fun c member => Nat.isDigit_of_mem_toDigits (by decide) (by decide) member]
    cases rest with
    | nil => simp
    | cons c more => simp [ends c rfl]
  have texts := congrArg (List.takeWhile Char.isDigit) same
  rw [taken _ _ closed, taken _ _ other] at texts
  rw [texts] at same
  have numbers := congrArg (fun text => Nat.ofDigitChars 10 text 0) texts
  simp only [Nat.ofDigitChars_ten_toDigits] at numbers
  exact ⟨numbers, List.append_cancel_left same⟩

theorem toDigits_head (number : Nat) : ∃ c rest, Nat.toDigits 10 number = c :: rest ∧ c.isDigit = true := by
  cases shape : Nat.toDigits 10 number with
  | nil => exact absurd shape Nat.toDigits_ne_nil
  | cons c rest =>
    refine ⟨c, rest, rfl, Nat.isDigit_of_mem_toDigits (b := 10) (n := number) (by decide) (by decide) ?_⟩
    rw [shape]
    exact List.mem_cons_self

theorem digits_inj {first second : Int} {before after : List Char} (closed : Closed before) (other : Closed after)
    (same : digits first ++ before = digits second ++ after) : first = second ∧ before = after := by
  have unsigned : ∀ (number : Nat) (rest more : List Char), ¬ Nat.toDigits 10 number ++ rest = '-' :: more := by
    intro number rest more equal
    obtain ⟨c, later, shape, digit⟩ := toDigits_head number
    rw [shape, List.cons_append] at equal
    rw [(List.cons.inj equal).1] at digit
    cases digit
  cases first with
  | ofNat size =>
    cases second with
    | ofNat length =>
      obtain ⟨rfl, rfl⟩ := toDigits_inj closed other same
      exact ⟨rfl, rfl⟩
    | negSucc length => exact absurd same (unsigned size before _)
  | negSucc size =>
    cases second with
    | ofNat length => exact absurd same.symm (unsigned length after _)
    | negSucc length =>
      obtain ⟨sizes, rfl⟩ := toDigits_inj closed other (List.cons.inj same).2
      cases sizes
      exact ⟨rfl, rfl⟩

/-! ## Values -/

/-- What the first character tells of a value. -/
def headClass (c : Char) : Nat :=
  if c = 'n' then 0 else if c = 't' then 1 else if c = 'f' then 2 else if c = '"' then 3 else if c = '[' then 4
  else if c = '{' then 5 else if c = '-' || c.isDigit then 6 else 7

def valueClass : Json → Nat
  | null => 0
  | bool true => 1
  | bool false => 2
  | text _ => 3
  | list _ => 4
  | object _ => 5
  | int _ | float _ => 6

theorem headClass_digit {c : Char} (digit : c.isDigit = true) : headClass c = 6 := by
  have apart : ∀ other : Char, other.isDigit = false → c ≠ other := by
    rintro other plain rfl
    cases digit.symm.trans plain
  unfold headClass
  simp only [apart 'n' rfl, apart 't' rfl, apart 'f' rfl, apart '"' rfl, apart '[' rfl, apart '{' rfl, if_false, digit,
    Bool.or_true, if_true]

theorem chars_head (value : Json) (plain : exact value = true) :
    ∃ c rest, chars value = c :: rest ∧ headClass c = valueClass value := by
  cases value with
  | null | text | list | object => exact ⟨_, _, rfl, rfl⟩
  | bool flag => cases flag <;> exact ⟨_, _, rfl, rfl⟩
  | float shown => cases plain
  | int number =>
    cases number with
    | ofNat size =>
      obtain ⟨c, rest, shape, digit⟩ := toDigits_head size
      exact ⟨c, rest, shape, headClass_digit digit⟩
    | negSucc size => exact ⟨_, _, rfl, rfl⟩

theorem closed_cons {c : Char} (rest : List Char) (plain : c.isDigit = false) : Closed (c :: rest) := by
  rintro d ⟨⟩
  exact plain

theorem closed_moreItems (items : List Json) (rest : List Char) : Closed (moreItems items ++ rest) := by
  cases items <;> exact closed_cons _ rfl

theorem closed_moreEntries (entries : List (String × Json)) (rest : List Char) : Closed (moreEntries entries ++ rest) := by
  rcases entries with _ | ⟨⟨key, item⟩, more⟩ <;> exact closed_cons _ rfl

/-- Two values at the heads of one text are of one class. -/
theorem class_eq {first second : Json} {before after : List Char} (left : exact first = true)
    (right : exact second = true) (same : chars first ++ before = chars second ++ after) :
    valueClass first = valueClass second := by
  obtain ⟨c, rest, shape, told⟩ := chars_head first left
  obtain ⟨d, others, form, shown⟩ := chars_head second right
  rw [shape, form] at same
  rw [← told, ← shown, (List.cons.inj same).1]

/-- No value begins like the end of a list. -/
theorem chars_ne_bracket {value : Json} (plain : exact value = true) (before after : List Char) :
    ¬ chars value ++ before = ']' :: after := by
  intro same
  obtain ⟨c, rest, shape, told⟩ := chars_head value plain
  rw [shape] at same
  rw [(List.cons.inj same).1] at told
  cases value with
  | bool flag => cases flag <;> cases told
  | _ => cases told

mutual

theorem chars_inj : ∀ (first second : Json) (before after : List Char), exact first = true → exact second = true →
    Closed before → Closed after → chars first ++ before = chars second ++ after → first = second ∧ before = after
  | first, second, before, after, left, right, closed, other, same => by
    -- values of two kinds differ in their first characters, which leaves the pairs of one kind
    have classes := class_eq left right same
    match first, second with
    | .null, .null | .bool true, .bool true | .bool false, .bool false =>
      exact ⟨rfl, List.append_cancel_left same⟩
    | .int number, .int size =>
      obtain ⟨rfl, rests⟩ := digits_inj closed other same
      exact ⟨rfl, rests⟩
    | .text content, .text shown =>
      obtain ⟨rfl, rests⟩ := quoted_inj same
      exact ⟨rfl, rests⟩
    | .list items, .list others =>
      obtain ⟨rfl, rests⟩ := itemChars_inj items others before after left right (List.cons.inj same).2
      exact ⟨rfl, rests⟩
    | .object entries, .object others =>
      obtain ⟨rfl, rests⟩ := entryChars_inj entries others before after left right (List.cons.inj same).2
      exact ⟨rfl, rests⟩

theorem itemChars_inj : ∀ (first second : List Json) (before after : List Char), exactItems first = true →
    exactItems second = true → itemChars first ++ before = itemChars second ++ after → first = second ∧ before = after
  | [], [], before, after, left, right, same => ⟨rfl, List.append_cancel_left same⟩
  | [], item :: rest, before, after, left, right, same => by
    simp only [itemChars, List.append_assoc] at same
    exact absurd same.symm (chars_ne_bracket (Bool.and_eq_true_iff.mp right).1 _ _)
  | item :: rest, [], before, after, left, right, same => by
    simp only [itemChars, List.append_assoc] at same
    exact absurd same (chars_ne_bracket (Bool.and_eq_true_iff.mp left).1 _ _)
  | item :: rest, one :: others, before, after, left, right, same => by
    obtain ⟨item_left, rest_left⟩ := Bool.and_eq_true_iff.mp left
    obtain ⟨item_right, rest_right⟩ := Bool.and_eq_true_iff.mp right
    simp only [itemChars, List.append_assoc] at same
    obtain ⟨rfl, rests⟩ := chars_inj item one _ _ item_left item_right (closed_moreItems _ _) (closed_moreItems _ _) same
    obtain ⟨rfl, ends⟩ := moreItems_inj rest others before after rest_left rest_right rests
    exact ⟨rfl, ends⟩

theorem moreItems_inj : ∀ (first second : List Json) (before after : List Char), exactItems first = true →
    exactItems second = true → moreItems first ++ before = moreItems second ++ after → first = second ∧ before = after
  | [], [], before, after, left, right, same => ⟨rfl, List.append_cancel_left same⟩
  | [], item :: rest, before, after, left, right, same => by cases (List.cons.inj same).1
  | item :: rest, [], before, after, left, right, same => by cases (List.cons.inj same).1
  | item :: rest, one :: others, before, after, left, right, same => by
    obtain ⟨item_left, rest_left⟩ := Bool.and_eq_true_iff.mp left
    obtain ⟨item_right, rest_right⟩ := Bool.and_eq_true_iff.mp right
    have tails : chars item ++ (moreItems rest ++ before) = chars one ++ (moreItems others ++ after) := by
      simpa [moreItems] using same
    obtain ⟨rfl, rests⟩ := chars_inj item one _ _ item_left item_right (closed_moreItems _ _) (closed_moreItems _ _) tails
    obtain ⟨rfl, ends⟩ := moreItems_inj rest others before after rest_left rest_right rests
    exact ⟨rfl, ends⟩

theorem entryChars_inj : ∀ (first second : List (String × Json)) (before after : List Char),
    exactEntries first = true → exactEntries second = true →
    entryChars first ++ before = entryChars second ++ after → first = second ∧ before = after
  | [], [], before, after, left, right, same => ⟨rfl, List.append_cancel_left same⟩
  | [], (key, item) :: rest, before, after, left, right, same => by cases (List.cons.inj same).1
  | (key, item) :: rest, [], before, after, left, right, same => by cases (List.cons.inj same).1
  | (key, item) :: rest, (name, one) :: others, before, after, left, right, same => by
    obtain ⟨item_left, rest_left⟩ := Bool.and_eq_true_iff.mp left
    obtain ⟨item_right, rest_right⟩ := Bool.and_eq_true_iff.mp right
    simp only [entryChars, List.append_assoc, List.cons_append] at same
    obtain ⟨rfl, values⟩ := quoted_inj same
    obtain ⟨rfl, rests⟩ := chars_inj item one _ _ item_left item_right (closed_moreEntries _ _) (closed_moreEntries _ _)
      (List.cons.inj values).2
    obtain ⟨rfl, ends⟩ := moreEntries_inj rest others before after rest_left rest_right rests
    exact ⟨rfl, ends⟩

theorem moreEntries_inj : ∀ (first second : List (String × Json)) (before after : List Char),
    exactEntries first = true → exactEntries second = true →
    moreEntries first ++ before = moreEntries second ++ after → first = second ∧ before = after
  | [], [], before, after, left, right, same => ⟨rfl, List.append_cancel_left same⟩
  | [], (key, item) :: rest, before, after, left, right, same => by cases (List.cons.inj same).1
  | (key, item) :: rest, [], before, after, left, right, same => by cases (List.cons.inj same).1
  | (key, item) :: rest, (name, one) :: others, before, after, left, right, same => by
    obtain ⟨item_left, rest_left⟩ := Bool.and_eq_true_iff.mp left
    obtain ⟨item_right, rest_right⟩ := Bool.and_eq_true_iff.mp right
    have tails : quoted key ++ (':' :: (chars item ++ (moreEntries rest ++ before))) =
        quoted name ++ (':' :: (chars one ++ (moreEntries others ++ after))) := by
      simpa [moreEntries] using same
    obtain ⟨rfl, values⟩ := quoted_inj tails
    obtain ⟨rfl, rests⟩ := chars_inj item one _ _ item_left item_right (closed_moreEntries _ _) (closed_moreEntries _ _)
      (List.cons.inj values).2
    obtain ⟨rfl, ends⟩ := moreEntries_inj rest others before after rest_left rest_right rests
    exact ⟨rfl, ends⟩

end

/-! ## Sorted keys -/

theorem sortEntries_eq_map (entries : List (String × Json)) :
    sortEntries entries = entries.map fun entry => (entry.1, sortKeys entry.2) := by
  induction entries with
  | nil => rfl
  | cons entry rest ih => rw [sortEntries, List.map_cons, ih]

theorem exactEntries_eq_all (entries : List (String × Json)) :
    exactEntries entries = entries.all fun entry => exact entry.2 := by
  induction entries with
  | nil => rfl
  | cons entry rest ih => rw [exactEntries, List.all_cons, ih]

mutual

theorem exact_sortKeys : ∀ value, exact (sortKeys value) = exact value
  | .list items => by rw [sortKeys, exact, exact, exact_sortItems items]
  | .object entries => by
    have perm := List.perm_insertionSort (fun first second => keyLe first second = true) (sortEntries entries)
    rw [sortKeys, exact, exact, exactEntries_eq_all, perm.all_eq, ← exactEntries_eq_all, exact_sortEntries entries]
  | .null | .bool _ | .int _ | .float _ | .text _ => rfl

theorem exact_sortItems : ∀ items, exactItems (sortItems items) = exactItems items
  | [] => rfl
  | item :: rest => by rw [sortItems, exactItems, exactItems, exact_sortKeys item, exact_sortItems rest]

theorem exact_sortEntries : ∀ entries, exactEntries (sortEntries entries) = exactEntries entries
  | [] => rfl
  | (_, item) :: rest => by rw [sortEntries, exactEntries, exactEntries, exact_sortKeys item, exact_sortEntries rest]

end

/-- Canonical texts without floats are the same for the same value only, up to the order of keys. -/
theorem canonical_inj {first second : Json} (left : exact first = true) (right : exact second = true)
    (same : canonical first = canonical second) : sortKeys first = sortKeys second := by
  have texts : chars (sortKeys first) ++ [] = chars (sortKeys second) ++ [] := by
    rw [List.append_nil, List.append_nil]
    exact String.ofList_injective same
  have closed : Closed [] := by rintro c ⟨⟩
  exact (chars_inj _ _ [] [] ((exact_sortKeys first).trans left) ((exact_sortKeys second).trans right) closed closed
    texts).1

/-- Objects with one sorted form have the same keys. -/
theorem keys_of_sorted {first second : List (String × Json)} (same : sortKeys (.object first) = sortKeys (.object second)) :
    (first.map Prod.fst).Perm (second.map Prod.fst) := by
  have keys : ∀ entries : List (String × Json), (sortEntries entries).map Prod.fst = entries.map Prod.fst := by
    intro entries
    rw [sortEntries_eq_map, List.map_map]
    rfl
  simp only [sortKeys, object.injEq] at same
  have left := (List.perm_insertionSort (fun one other => keyLe one other = true) (sortEntries first)).map Prod.fst
  have right := (List.perm_insertionSort (fun one other => keyLe one other = true) (sortEntries second)).map Prod.fst
  rw [same] at left
  rw [← keys first, ← keys second]
  exact left.symm.trans right

/-- Permuted entries under one list of distinct keys are the same. -/
theorem entries_of_perm {first second : List (String × Json)} (perm : first.Perm second)
    (keys : first.map Prod.fst = second.map Prod.fst) (distinct : (first.map Prod.fst).Nodup) : first = second := by
  induction first generalizing second with
  | nil => exact (List.nil_perm.mp perm).symm
  | cons entry rest ih =>
    obtain ⟨key, item⟩ := entry
    rcases second with _ | ⟨⟨name, other⟩, others⟩
    · cases keys
    · simp only [List.map_cons, List.cons.injEq] at keys
      obtain ⟨rfl, tails⟩ := keys
      obtain ⟨absent, apart⟩ := List.nodup_cons.mp distinct
      -- the entry is among the others, and under a key that is not taken twice only as the first
      have member := perm.mem_iff.mp (List.mem_cons_self (a := (key, item)) (l := rest))
      rcases List.mem_cons.mp member with same | later
      · cases same
        rw [ih (List.perm_cons _ |>.mp perm) tails apart]
      · rw [tails] at absent
        exact absurd (List.mem_map.mpr ⟨_, later, rfl⟩) absent

/-- Objects under one list of distinct keys have one sorted form only where their sorted values agree. -/
theorem entries_of_sorted {first second : List (String × Json)}
    (same : sortKeys (.object first) = sortKeys (.object second)) (keys : first.map Prod.fst = second.map Prod.fst)
    (distinct : (first.map Prod.fst).Nodup) :
    (first.map fun entry => (entry.1, sortKeys entry.2)) = second.map fun entry => (entry.1, sortKeys entry.2) := by
  simp only [sortKeys, object.injEq, sortEntries_eq_map] at same
  have left := List.perm_insertionSort (fun one other => keyLe one other = true)
    (first.map fun entry => (entry.1, sortKeys entry.2))
  have right := List.perm_insertionSort (fun one other => keyLe one other = true)
    (second.map fun entry => (entry.1, sortKeys entry.2))
  rw [same] at left
  have names : ∀ entries : List (String × Json),
      (entries.map fun entry => (entry.1, sortKeys entry.2)).map Prod.fst = entries.map Prod.fst := by
    intro entries
    rw [List.map_map]
    rfl
  apply entries_of_perm (left.symm.trans right)
  · rw [names, names, keys]
  · rwa [names]

/-- Objects that hold nothing to sort have one sorted form only where they are one. -/
theorem flat_of_sorted {first second : List (String × Json)}
    (same : sortKeys (.object first) = sortKeys (.object second)) (keys : first.map Prod.fst = second.map Prod.fst)
    (distinct : (first.map Prod.fst).Nodup) (left : (first.map fun entry => (entry.1, sortKeys entry.2)) = first)
    (right : (second.map fun entry => (entry.1, sortKeys entry.2)) = second) : first = second :=
  calc first
    _ = first.map fun entry => (entry.1, sortKeys entry.2) := left.symm
    _ = second.map fun entry => (entry.1, sortKeys entry.2) := entries_of_sorted same keys distinct
    _ = second := right

/-- Lists of values have one sorted form only where the values agree one by one. -/
theorem sortItems_inj {α : Type} {shown : α → Json}
    (injective : ∀ first second, sortKeys (shown first) = sortKeys (shown second) → first = second) {items others : List α}
    (same : sortItems (items.map shown) = sortItems (others.map shown)) : items = others := by
  induction items generalizing others with
  | nil =>
    cases others with
    | nil => rfl
    | cons item rest => simp [sortItems] at same
  | cons item rest ih =>
    cases others with
    | nil => simp [sortItems] at same
    | cons other more =>
      simp only [List.map_cons, sortItems, List.cons.injEq] at same
      rw [injective _ _ same.1, ih same.2]

/-! ## Control characters -/

def Printing (text : List Char) : Prop := ∀ c ∈ text, 32 ≤ c.toNat

theorem printing_of_all {text : List Char} (all : (text.all fun c => decide (32 ≤ c.toNat)) = true) : Printing text :=
  fun c member => of_decide_eq_true (List.all_eq_true.mp all c member)

theorem printing_append {first second : List Char} (left : Printing first) (right : Printing second) :
    Printing (first ++ second) := by
  intro c member
  exact (List.mem_append.mp member).elim (left c) (right c)

theorem printing_cons {c : Char} {rest : List Char} (head : 32 ≤ c.toNat) (tail : Printing rest) :
    Printing (c :: rest) := by
  intro d member
  rcases List.mem_cons.mp member with rfl | later
  · exact head
  · exact tail d later

theorem printing_escape (c : Char) : Printing (escape c) := by
  unfold escape
  repeat' split
  case isFalse.isFalse.isFalse.isFalse.isFalse.isFalse.isFalse.isFalse large =>
    intro d member
    rw [List.mem_singleton.mp member]
    omega
  case isFalse.isFalse.isFalse.isFalse.isFalse.isFalse.isFalse.isTrue small =>
    have pairs : ∀ code < 32, 32 ≤ (hexDigit (code / 16)).toNat ∧ 32 ≤ (hexDigit (code % 16)).toNat := by decide
    obtain ⟨high, low⟩ := pairs c.toNat small
    simp only [Printing, List.mem_cons, List.not_mem_nil, or_false, forall_eq_or_imp, forall_eq]
    exact ⟨by decide, by decide, by decide, by decide, high, low⟩
  all_goals
    simp only [Printing, List.mem_cons, List.not_mem_nil, or_false, forall_eq_or_imp, forall_eq]
    decide

theorem printing_quoted (text : String) : Printing (quoted text) := by
  apply printing_cons (by decide)
  induction text.toList with
  | nil => exact printing_cons (by decide) fun _ member => by cases member
  | cons c rest ih => exact printing_append (printing_escape c) ih

theorem printing_digits (number : Int) : Printing (digits number) := by
  have unsigned : ∀ size : Nat, Printing (Nat.toDigits 10 size) := by
    intro size c member
    have digit := Nat.isDigit_of_mem_toDigits (b := 10) (n := size) (by decide) (by decide) member
    simp only [Char.isDigit, Bool.and_eq_true, decide_eq_true_eq] at digit
    have low : '0'.toNat ≤ c.toNat := digit.1
    exact Nat.le_trans (by decide) low
  cases number with
  | ofNat size => exact unsigned size
  | negSucc size => exact printing_cons (by decide) (unsigned (size + 1))

mutual

theorem printing_chars : ∀ value, exact value = true → Printing (chars value)
  | .null, _ => printing_of_all (by decide)
  | .bool true, _ => printing_of_all (by decide)
  | .bool false, _ => printing_of_all (by decide)
  | .int number, _ => printing_digits number
  | .text content, _ => printing_quoted content
  | .list items, plain => printing_cons (by decide) (printing_itemChars items plain)
  | .object entries, plain => printing_cons (by decide) (printing_entryChars entries plain)

theorem printing_itemChars : ∀ items, exactItems items = true → Printing (itemChars items)
  | [], _ => printing_of_all (by decide)
  | item :: rest, plain =>
    have both := Bool.and_eq_true_iff.mp plain
    printing_append (printing_chars item both.1) (printing_moreItems rest both.2)

theorem printing_moreItems : ∀ items, exactItems items = true → Printing (moreItems items)
  | [], _ => printing_of_all (by decide)
  | item :: rest, plain =>
    have both := Bool.and_eq_true_iff.mp plain
    printing_cons (by decide) (printing_append (printing_chars item both.1) (printing_moreItems rest both.2))

theorem printing_entryChars : ∀ entries, exactEntries entries = true → Printing (entryChars entries)
  | [], _ => printing_of_all (by decide)
  | (key, item) :: rest, plain =>
    have both := Bool.and_eq_true_iff.mp plain
    printing_append (printing_quoted key)
      (printing_cons (by decide) (printing_append (printing_chars item both.1) (printing_moreEntries rest both.2)))

theorem printing_moreEntries : ∀ entries, exactEntries entries = true → Printing (moreEntries entries)
  | [], _ => printing_of_all (by decide)
  | (key, item) :: rest, plain =>
    have both := Bool.and_eq_true_iff.mp plain
    printing_cons (by decide) (printing_append (printing_quoted key)
      (printing_cons (by decide) (printing_append (printing_chars item both.1) (printing_moreEntries rest both.2))))

end

theorem printing_canonical {value : Json} (plain : exact value = true) : Printing (canonical value).toList := by
  rw [canonical, String.toList_ofList]
  exact printing_chars _ ((exact_sortKeys value).trans plain)

end Json

end AiStore.Library
