import AiStore.Library.Regex
import AiStore.Offline.Reading
import AiStore.Pipeline.Scope

/-! Patches from whole files that a local model writes: its plan, its answer, and what of it becomes a patch. -/

set_option autoImplicit false

namespace AiStore.Pipeline.FilePatch

open Library
open Offline (get truthy Entries)

def maxPlanFiles : Nat := 4

/-- `CREATE_PREFIXES`. -/
def createPrefixes : List String :=
  ["packages/", "smart_store_aios/", "smart_store_control/", "tests/", "docs/implementation/", "scripts/"]

/-- `removeprefix("./")`. -/
def withoutDot : Text → Text
  | '.' :: '/' :: rest => rest
  | path => path

/-- `_clean`. -/
def clean (path : Text) : Text := withoutDot (slashes (Lines.strip Service.isSpace path))

/-- `path.split("/")`. -/
def components (path : Text) : List Text := path.splitOn '/'

def parent : Text := ['.', '.']

/-! ## Patterns -/

section

open Regex

def blanks : Regex := many true Service.isSpace

def newline : Regex := char (· = '\n')

/-- `.*?` over lines. -/
def anything : Regex := many false fun _ => true

/-- `\{.*\}`. -/
def objectPattern : Regex := sequence [literal "\x7b", many true fun _ => true, literal "\x7d"]

/-- `_JSON`. -/
def listPattern : Regex := sequence [char (· = '['), many true (fun c => c ≠ '[' ∧ c ≠ ']'), char (· = ']')]

/-- `_BLOCK`. -/
def blockPattern : Regex := sequence [literal "<<<FILE", plus true Service.isSpace, group "path" (plus false fun _ => true),
  literal ">>>", blanks, newline, group "body" anything, optional newline, literal "<<<END>>>"]

-- `\w` is a parameter
variable (word : Char → Bool)

/-- What stands between the brackets of a path. -/
def pathCharacter (c : Char) : Bool := word c || c ∈ ['.', '/', '-']

/-- `[\w+-]`. -/
def languageCharacter (c : Char) : Bool := word c || c ∈ ['+', '-']

/-- Path characters, a dot, and the letters of an extension. -/
def filePattern : Regex := sequence [plus true (pathCharacter word), char (· = '.'), plus true word]

/-- The line behind the opening of a fence, its body and its end. -/
def fenceBody : List Regex := [blanks, newline, group "body" anything, literal "\n```"]

/-- `_FENCE_INFO`. -/
def fenceInfoPattern : Regex := sequence ([alt start newline, literal "```", many true (languageCharacter word),
  plus true (· ∈ [' ', ':']), group "path" (filePattern word)] ++ fenceBody)

/-- `(?:#+\s*|\*\*|File:\s*|FILE:\s*|``)?`, with one backtick. -/
def fenceLead : Regex := optional (alt (seq (plus true (· = '#')) blanks) (alt (literal "**")
  (alt (seq (literal "File:") blanks) (alt (seq (literal "FILE:") blanks) (literal "`")))))

/-- `_FENCE`. -/
def fencePattern : Regex := sequence ([alt start newline, fenceLead, group "lead" (filePattern word), optional (literal "`"),
  optional (seq (char (· = '*')) (optional (char (· = '*')))), optional (char (· = ':')), blanks, newline, literal "```",
  many true (languageCharacter word), many true (· ∈ [' ', ':']), group "lead_path" (many true (pathCharacter word))] ++
  fenceBody)

end

/-! ## The plan -/

/-- How `json.loads` ends. -/
inductive Loads where
  | value (loaded : Json)
  | undecodable
  | raised

/-- `search(...).group(0)`. -/
def found (pattern : Regex) (text : Text) : Option Text := (Regex.findAll pattern text).head?.map Regex.Outcome.matched

/-- What a `for` iterates over, falsy values replaced by the empty list; anything else that is no iterable raises. -/
def iterated (value : Json) : Option (List Json) :=
  if truthy value then match value with
    | .list items => some items
    | .object entries => some (entries.map fun entry => .text entry.1)
    | .text content => some (content.toList.map fun c => .text (String.singleton c))
    | _ => none
  else some []

section

variable (loads : Text → Loads)

/-- A bare list is taken as files to modify. -/
def listItems (raw : Text) : Option Entries := match found listPattern raw with
  | none => some []
  | some listed => match loads listed with
      | .value loaded => some [("modify", loaded)]
      | .undecodable => some []
      | .raised => none

def planItems (raw : Text) : Option Entries := match found objectPattern raw with
  | none => listItems loads raw
  | some whole => match loads whole with
      | .value (.object (entry :: entries)) => some (entry :: entries)
      | .value _ => listItems loads raw
      | .undecodable => some []
      | .raised => none

/-- The accepted paths among the items, each once. -/
def addPath (accepts : Text → Bool) (paths : List Text) : Json → List Text
  | .text item =>
      let path := clean item.toList
      if accepts path && path ∉ paths then paths ++ [path] else paths
  | _ => paths

def paths (accepts : Text → Bool) (items : List Json) : List Text := items.foldl (addPath accepts) []

def creatable (existing : List Text) (path : Text) : Bool :=
  path ∉ existing && createPrefixes.any (fun start => start.toList.isPrefixOf path) && parent ∉ components path

/-- `parse_plan`. -/
def parsePlan (text : Text) (existing : List Text) : Option (List Text × List Text) := do
  let items ← planItems loads text
  let modify ← iterated (get items "modify")
  let create ← iterated (get items "create")
  pure ((paths (· ∈ existing) modify).take maxPlanFiles, (paths (creatable existing) create).take maxPlanFiles)

end

/-! ## The answer -/

abbrev Files := List (Text × Text)

def terminated (body : Text) : Text := (body.reverse.dropWhile (· = '\n')).reverse ++ ['\n']

/-- `_add`. -/
def add (out : Files) (raw body : Text) : Files :=
  let path := clean raw
  if path ≠ [] ∧ '/' ∈ path ∧ parent ∉ components path ∧ path ∉ out.map Prod.fst then out ++ [(path, terminated body)] else out

/-- `a or b`. -/
def orElse (first second : Text) : Text := if first = [] then second else first

/-- `parse_files`. -/
def parseFiles (word : Char → Bool) (text : Text) : Files :=
  let blocks := (Regex.findAll blockPattern text).foldl (fun out block => add out (block.captured "path") (block.captured "body")) []
  if blocks ≠ [] then blocks
  else
    let informed := (Regex.findAll (fenceInfoPattern word) text).foldl
      (fun out fence => add out (fence.captured "path") (fence.captured "body")) []
    (Regex.findAll (fencePattern word) text).foldl
      (fun out fence => add out (orElse (fence.captured "lead_path") (fence.captured "lead")) (fence.captured "body")) informed

example : parseFiles Char.isAlphanum "<<<FILE ./pkg/a.py>>>\nA = 1\n<<<END>>>\n<<<FILE ../b.py>>>\n<<<END>>>".toList =
    [("pkg/a.py".toList, "A = 1\n".toList)] := by decide

example : parseFiles Char.isAlphanum "**tests/a.py**\n```python\nA = 1\n```".toList =
    [("tests/a.py".toList, "A = 1\n".toList)] := by decide

/-! ## The patch -/

/-- `allowed_target`. -/
def allowedTarget (path : Text) (planned : List Text) : Bool :=
  path ∈ planned || ("tests/".toList.isPrefixOf path && ".py".toList.isSuffixOf path)

/-- Where a path leads below the scratch worktree. -/
def place (path : Text) : List Text := (components path).filter fun part => part ≠ [] ∧ part ≠ ['.']

abbrev Worktree := List Text → Option Text

/-- The scratch worktree: how `git worktree add` fails, what is checked out, which writes the system refuses, and the
staged difference. -/
structure Scratch where
  failure : Option Text
  head : Worktree
  unwritable : Worktree → List Text → Bool
  diff : Worktree → Text

/-- Most of a long file is gone. -/
def wholesale (original : Option Text) (content : Text) : Bool := match original with
  | none => false
  | some original =>
      let lines := original.count '\n'
      let kept := ((Lines.splitlines content).dedup.filter (· ∈ Lines.splitlines original)).length
      rewriteMinLines ≤ lines && rewrites (lines - kept) lines

inductive Ending where
  | refused (message : Text)
  | raised
  | patch (diff : Text)

/-- How a build ends, and the files that it has written. -/
structure Built where
  ending : Ending
  written : Files

/-- The files one by one; behind the last one the difference is taken. -/
def writeFiles (scratch : Scratch) (tree : Worktree) : Files → Built
  | [] =>
      let diff := scratch.diff tree
      if Lines.strip Service.isSpace diff = [] then
        ⟨.refused "response reproduced the existing files unchanged".toList, []⟩
      else ⟨.patch diff, []⟩
  | (path, content) :: rest =>
      if wholesale (tree (place path)) content then ⟨.refused ("wholesale rewrite rejected: ".toList ++ path), []⟩
      else if scratch.unwritable tree (place path) then ⟨.raised, []⟩
      else
        let later := writeFiles scratch (Function.update tree (place path) (some content)) rest
        ⟨later.ending, (path, content) :: later.written⟩

/-- `", ".join`. -/
def commaJoined (paths : List Text) : Text := (paths.intersperse ", ".toList).flatten

/-- `build_patch`. -/
def buildPatch (scratch : Scratch) (files : Files) (planned : List Text) : Built :=
  let bad := (files.map Prod.fst).filter fun path => !allowedTarget path planned
  if files = [] then ⟨.refused "no <<<FILE path>>> blocks in the response".toList, []⟩
  else if bad ≠ [] then ⟨.refused ("files outside the plan or tests/: ".toList ++ commaJoined bad), []⟩
  else match scratch.failure with
    | some failure => ⟨.refused ("scratch worktree failed: ".toList ++ (Lines.strip Service.isSpace failure).take 300), []⟩
    | none => writeFiles scratch scratch.head files

/-! ## What a plan names -/

section

variable {loads : Text → Loads} {accepts : Text → Bool} {items : List Json} {path : Text} {existing : List Text}

/-- The plan names the path in one of its lists. -/
def Named (loads : Text → Loads) (planText : Text) (field : String) (path : Text) : Prop :=
  ∃ entries items item, planItems loads planText = some entries ∧ iterated (get entries field) = some items ∧
    .text item ∈ items ∧ path = clean item.toList

theorem mem_addPath {before : List Text} {item : Json} (member : path ∈ addPath accepts before item) :
    path ∈ before ∨ accepts path = true ∧ ∃ named, item = .text named ∧ path = clean named.toList := by
  cases item with
  | text named =>
    simp only [addPath] at member
    split at member
    · next taken =>
      rcases List.mem_append.mp member with prior | added
      · exact .inl prior
      · obtain rfl := List.mem_singleton.mp added
        rw [Bool.and_eq_true] at taken
        exact .inr ⟨taken.1, named, rfl, rfl⟩
    · exact .inl member
  | _ => exact .inl member

theorem mem_paths_from {before : List Text} (member : path ∈ items.foldl (addPath accepts) before) :
    path ∈ before ∨ accepts path = true ∧ ∃ item, .text item ∈ items ∧ path = clean item.toList := by
  induction items generalizing before with
  | nil => exact .inl member
  | cons item rest ih =>
    rcases ih member with here | ⟨accepted, named, listed, same⟩
    · rcases mem_addPath here with prior | ⟨accepted, named, rfl, same⟩
      · exact .inl prior
      · exact .inr ⟨accepted, named, List.mem_cons_self, same⟩
    · exact .inr ⟨accepted, named, List.mem_cons_of_mem _ listed, same⟩

/-- What a list of the plan comes to is accepted and named there. -/
theorem mem_paths (member : path ∈ paths accepts items) :
    accepts path = true ∧ ∃ item, .text item ∈ items ∧ path = clean item.toList :=
  (mem_paths_from member).resolve_left List.not_mem_nil

structure Plan (loads : Text → Loads) (planText : Text) (existing modify create : List Text) : Prop where
  modify_few : modify.length ≤ maxPlanFiles
  create_few : create.length ≤ maxPlanFiles
  modified : ∀ path ∈ modify, path ∈ existing ∧ Named loads planText "modify" path
  created : ∀ path ∈ create, path ∉ existing ∧ (∃ start ∈ createPrefixes, start.toList <+: path) ∧
    parent ∉ components path ∧ Named loads planText "create" path

theorem creatable_iff : creatable existing path = true ↔ path ∉ existing ∧
    (∃ start ∈ createPrefixes, start.toList <+: path) ∧ parent ∉ components path := by
  simp only [creatable, Bool.and_eq_true, decide_eq_true_eq, List.any_eq_true, List.isPrefixOf_iff_prefix, and_assoc]

theorem parsePlan_plan {planText : Text} {modify create : List Text}
    (parsed : parsePlan loads planText existing = some (modify, create)) : Plan loads planText existing modify create := by
  simp only [parsePlan, Option.bind_eq_bind, Option.bind_eq_some_iff, Option.pure_def, Option.some.injEq,
    Prod.mk.injEq] at parsed
  obtain ⟨entries, read, modified, some_modified, created, some_created, rfl, rfl⟩ := parsed
  refine ⟨List.length_take_le _ _, List.length_take_le _ _, fun path member => ?_, fun path member => ?_⟩
  · obtain ⟨accepted, item, listed, same⟩ := mem_paths (List.mem_of_mem_take member)
    exact ⟨of_decide_eq_true accepted, entries, modified, item, read, some_modified, listed, same⟩
  · obtain ⟨accepted, item, listed, same⟩ := mem_paths (List.mem_of_mem_take member)
    obtain ⟨new, prefixed, below⟩ := creatable_iff.mp accepted
    exact ⟨new, prefixed, below, entries, created, item, read, some_created, listed, same⟩

end

/-! ## What an answer writes -/

section

variable {scratch : Scratch} {tree : Worktree} {files : Files} {planned : List Text}

/-- No path leads upwards. -/
def Tidy (files : Files) : Prop := ∀ file ∈ files, parent ∉ components file.1

theorem tidy_add {raw body : Text} (tidy : Tidy files) : Tidy (add files raw body) := by
  rw [add]
  split
  · next kept =>
    intro file member
    rcases List.mem_append.mp member with prior | added
    · exact tidy file prior
    · rw [List.mem_singleton.mp added]
      exact kept.2.2.1
  · exact tidy

theorem tidy_added {α : Type} (path body : α → Text) (found : List α) (tidy : Tidy files) :
    Tidy (found.foldl (fun out one => add out (path one) (body one)) files) := by
  induction found generalizing files with
  | nil => exact tidy
  | cons one rest ih => exact ih (tidy_add tidy)

theorem tidy_parseFiles (word : Char → Bool) (answer : Text) : Tidy (parseFiles word answer) := by
  have none_yet : Tidy [] := fun file member => absurd member List.not_mem_nil
  rw [parseFiles]
  dsimp only
  split
  · exact tidy_added _ _ _ none_yet
  · exact tidy_added _ _ _ (tidy_added _ _ _ none_yet)

theorem written_subset : (writeFiles scratch tree files).written ⊆ files := by
  induction files generalizing tree with
  | nil =>
    rw [writeFiles]
    split <;> exact List.nil_subset _
  | cons file rest ih =>
    obtain ⟨path, content⟩ := file
    rw [writeFiles]
    split
    · exact List.nil_subset _
    split
    · exact List.nil_subset _
    · exact List.cons_subset_cons _ ih

theorem written_allowed : ∀ file ∈ (buildPatch scratch files planned).written,
    file ∈ files ∧ allowedTarget file.1 planned = true := by
  intro file member
  rw [buildPatch] at member
  split at member
  · cases member
  split at member
  · cases member
  next allowed =>
  split at member
  · cases member
  · have inside := written_subset member
    refine ⟨inside, ?_⟩
    by_contra outside
    refine allowed (List.ne_nil_of_mem (a := file.1) (List.mem_filter.mpr ⟨List.mem_map_of_mem inside, ?_⟩))
    simpa using outside

/-- A file is refused when its turn comes. -/
inductive Rewritten : Worktree → Files → Prop where
  | here {tree : Worktree} {path content : Text} {rest : Files} (lost : wholesale (tree (place path)) content = true) :
      Rewritten tree ((path, content) :: rest)
  | later {tree : Worktree} {path content : Text} {rest : Files}
      (refused : Rewritten (Function.update tree (place path) (some content)) rest) : Rewritten tree ((path, content) :: rest)

/-- The build refuses one of the files. -/
def Refused (scratch : Scratch) (files : Files) (planned : List Text) : Prop :=
  (∃ file ∈ files, allowedTarget file.1 planned = false) ∨ Rewritten scratch.head files

theorem rewritten_unpatched (refused : Rewritten tree files) (diff : Text) :
    (writeFiles scratch tree files).ending ≠ .patch diff := by
  induction refused with
  | here lost =>
    rw [writeFiles, if_pos lost]
    exact Ending.noConfusion
  | later refused ih =>
    rw [writeFiles]
    split
    · exact Ending.noConfusion
    split
    · exact Ending.noConfusion
    · exact ih

theorem refused_unpatched (refused : Refused scratch files planned) (diff : Text) :
    (buildPatch scratch files planned).ending ≠ .patch diff := by
  rw [buildPatch]
  split
  · exact Ending.noConfusion
  split
  · exact Ending.noConfusion
  next allowed =>
  split
  · exact Ending.noConfusion
  · rcases refused with ⟨file, member, outside⟩ | rewritten
    · refine absurd (List.ne_nil_of_mem (a := file.1) (List.mem_filter.mpr ⟨List.mem_map_of_mem member, ?_⟩)) allowed
      rw [outside]
      rfl
    · exact rewritten_unpatched rewritten diff

end

/-! ## Containment -/

/-- Where a build may write. -/
inductive Inside (loads : Text → Loads) (planText : Text) (existing : List Text) (path : Text) : Prop where
  | modified : path ∈ existing → Named loads planText "modify" path → Inside loads planText existing path
  | created : path ∉ existing → (∃ start ∈ createPrefixes, start.toList <+: path) → Named loads planText "create" path →
      Inside loads planText existing path
  | test : "tests/".toList <+: path → ".py".toList <:+ path → Inside loads planText existing path

def Relative (path : Text) : Prop := path.head? ≠ some '/'

theorem relative_of_prefix {start path : Text} (begins : start <+: path) (nonempty : start ≠ []) (relative : Relative start) :
    Relative path := by
  obtain ⟨rest, rfl⟩ := begins
  rw [Relative, List.head?_append_of_ne_nil _ nonempty]
  exact relative

theorem createPrefixes_relative : ∀ start ∈ createPrefixes, start.toList ≠ [] ∧ Relative start.toList := by
  unfold Relative
  decide

/-- Whatever a model answers, the patch is made of planned files and of tests, below the checkout, and of all files or of
none. -/
theorem patches_stay_inside (loads : Text → Loads) (word : Char → Bool) (scratch : Scratch) (planText answer : Text)
    {existing modify create : List Text} (relative : ∀ path ∈ existing, Relative path)
    (parsed : parsePlan loads planText existing = some (modify, create)) :
    Plan loads planText existing modify create ∧
    (∀ file ∈ (buildPatch scratch (parseFiles word answer) (modify ++ create)).written,
      Inside loads planText existing file.1 ∧ Relative file.1 ∧ parent ∉ components file.1) ∧
    (Refused scratch (parseFiles word answer) (modify ++ create) →
      ∀ diff, (buildPatch scratch (parseFiles word answer) (modify ++ create)).ending ≠ .patch diff) := by
  have plan := parsePlan_plan parsed
  refine ⟨plan, fun file member => ?_, refused_unpatched⟩
  obtain ⟨inside, allowed⟩ := written_allowed file member
  have below := tidy_parseFiles word answer file inside
  simp only [allowedTarget, Bool.or_eq_true, decide_eq_true_eq, List.mem_append, Bool.and_eq_true,
    List.isPrefixOf_iff_prefix, List.isSuffixOf_iff_suffix] at allowed
  rcases allowed with (modified | created) | ⟨test, python⟩
  · obtain ⟨known, named⟩ := plan.modified _ modified
    exact ⟨.modified known named, relative _ known, below⟩
  · obtain ⟨new, ⟨start, listed, begins⟩, -, named⟩ := plan.created _ created
    obtain ⟨nonempty, from_here⟩ := createPrefixes_relative start listed
    exact ⟨.created new ⟨start, listed, begins⟩ named, relative_of_prefix begins nonempty from_here, below⟩
  · exact ⟨.test test python, relative_of_prefix test (by decide) (by unfold Relative; decide), below⟩

def listedPlan : Text := "[\"pkg/a.py\"]".toList

def listLoads (text : Text) : Loads := if text = listedPlan then .value (.list [.text "pkg/a.py"]) else .undecodable

/-- A checkout of no files, in which any file can be written. -/
def bareScratch : Scratch where
  failure := none
  head _ := none
  unwritable _ _ := false
  diff _ := "diff".toList

theorem listed_plan_stays_inside :
    let answer := "<<<FILE pkg/a.py>>>\nA = 1\n<<<END>>>".toList
    let built := buildPatch bareScratch (parseFiles Char.isAlphanum answer) (["pkg/a.py".toList] ++ [])
    Plan listLoads listedPlan ["pkg/a.py".toList] ["pkg/a.py".toList] [] ∧
    (∀ file ∈ built.written, Inside listLoads listedPlan ["pkg/a.py".toList] file.1 ∧ Relative file.1 ∧
      parent ∉ components file.1) ∧
    (Refused bareScratch (parseFiles Char.isAlphanum answer) (["pkg/a.py".toList] ++ []) →
      ∀ diff, built.ending ≠ .patch diff) :=
  patches_stay_inside listLoads Char.isAlphanum bareScratch listedPlan _
    (by unfold Relative; decide) (by decide)

end AiStore.Pipeline.FilePatch
