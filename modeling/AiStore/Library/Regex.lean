import AiStore.Library.Lines

/-! Backtracking search for patterns whose stars range over single characters.

The outcomes of a pattern are listed in the order in which they are tried, so
the first one is the match.
-/

set_option autoImplicit false

namespace AiStore.Library

inductive Regex where
  | empty
  /-- `^`. -/
  | start
  | char (accepts : Char → Bool)
  | seq (first second : Regex)
  | alt (first second : Regex)
  /-- A star, as long as possible first or as short as possible first. -/
  | many (greedy : Bool) (accepts : Char → Bool)
  | group (name : String) (inner : Regex)

namespace Regex

/-- What has been read, what its groups hold, and what is left. -/
structure Outcome where
  matched : Text
  captures : List (String × Text)
  rest : Text

/-- The ways to part a text behind characters that are accepted, shortest first. -/
def parts (accepts : Char → Bool) : Text → List (Text × Text)
  | [] => [([], [])]
  | c :: rest =>
      ([], c :: rest) :: if accepts c then (parts accepts rest).map fun part => (c :: part.1, part.2) else []

/-- All outcomes at the head of a text, which may be the start of the searched one. -/
def outcomes : Regex → Bool → Text → List Outcome
  | .empty, _, text => [⟨[], [], text⟩]
  | .start, atStart, text => if atStart then [⟨[], [], text⟩] else []
  | .char _, _, [] => []
  | .char accepts, _, c :: rest => if accepts c then [⟨[c], [], rest⟩] else []
  | .seq first second, atStart, text => (outcomes first atStart text).flatMap fun head =>
      (outcomes second (atStart && head.matched.isEmpty) head.rest).map fun tail =>
        ⟨head.matched ++ tail.matched, head.captures ++ tail.captures, tail.rest⟩
  | .alt first second, atStart, text => outcomes first atStart text ++ outcomes second atStart text
  | .many greedy accepts, _, text =>
      let ways := parts accepts text
      (if greedy then ways.reverse else ways).map fun part => ⟨part.1, [], part.2⟩
  | .group name inner, atStart, text => (outcomes inner atStart text).map fun outcome =>
      { outcome with captures := (name, outcome.matched) :: outcome.captures }

/-- The match at the head of a text. -/
def head (pattern : Regex) (atStart : Bool) (text : Text) : Option Outcome := (outcomes pattern atStart text).head?

/-- What a group holds; the empty text where it took no part. -/
def Outcome.captured (outcome : Outcome) (name : String) : Text :=
  ((outcome.captures.find? fun capture => capture.1 = name).map Prod.snd).getD []

/-- `finditer`, behind so many characters of the last match. -/
def search (pattern : Regex) (atStart : Bool) : Nat → Text → List Outcome
  | _, [] => []
  | skip + 1, _ :: rest => search pattern false skip rest
  | 0, c :: rest => match head pattern atStart (c :: rest) with
      | none => search pattern false 0 rest
      | some outcome => outcome :: search pattern false (outcome.matched.length - 1) rest

def findAll (pattern : Regex) (text : Text) : List Outcome := search pattern true 0 text

/-! ## Patterns -/

/-- All of them behind each other. -/
def sequence : List Regex → Regex
  | [] => .empty
  | [pattern] => pattern
  | pattern :: rest => .seq pattern (sequence rest)

/-- A text letter by letter. -/
def literal (text : String) : Regex := sequence (text.toList.map fun c => .char (· = c))

def optional (pattern : Regex) : Regex := .alt pattern .empty

/-- A plus. -/
def plus (greedy : Bool) (accepts : Char → Bool) : Regex := .seq (.char accepts) (.many greedy accepts)

end Regex

end AiStore.Library
