import AiStore.Pipeline.Isolation

/-! The file scope of a task: what the guard reads of two `git` outputs, and what it lets through. -/

set_option autoImplicit false

namespace AiStore.Pipeline

open Library

/-- What an entry of `git diff --numstat` stands for. -/
inductive Change where
  | file (path : Text)
  | rename (old new : Text)
  deriving DecidableEq

def Change.touches : Change → Text → Prop
  | .file path, other => other = path
  | .rename old new, other => other = old ∨ other = new

/-- An entry of `git diff --numstat`; the guard reads the printed path and the count, which is `-` for a binary file. -/
structure Entry where
  change : Change
  shown : Text
  deleted : Option Nat
  deriving DecidableEq

/-- Both outputs, and in the second one the untracked paths, a directory ending in a slash. -/
structure Report where
  numstat : List Entry
  untracked : List Text

/-- `f.replace("\\", "/")`. -/
def slashes (path : Text) : Text := path.map fun c => if c = '\\' then '/' else c

/-- `files` of a validated payload. -/
def allowedFiles (files : List Text) : List Text := files.map fun file => Lines.strip (· = '/') (slashes file)

/-- `f.rstrip("/")`. -/
def withoutSlash (file : Text) : Text := (file.reverse.dropWhile (· = '/')).reverse

def pathAllowed (name : Text) (allowed : List Text) (path : Text) : Bool :=
  path = specPath name || "tests/".toList.isPrefixOf path || "data/".toList.isPrefixOf path ||
    allowed.any fun file => path = file || (withoutSlash file ++ ['/']).isPrefixOf path

def rewriteMinLines : Nat := 40

/-- The ratio is above `REWRITE_MAX_RATIO`, four fifths. -/
def rewrites (deleted lines : Nat) : Bool := 4 * max lines 1 < 5 * deleted

def entryCheck (name : Text) (allowed : List Text) (base : Tree) (entry : Entry) : Except String Unit := do
  let path := Lines.strip Service.isSpace entry.shown
  if allowed ≠ [] ∧ pathAllowed name allowed path = false then
    throw ("change outside the allowed file list: " ++ String.ofList path)
  match entry.deleted, base path with
  | some deleted, some original =>
      let lines := original.count '\n'
      if rewriteMinLines ≤ lines ∧ rewrites deleted lines = true then
        throw ("wholesale rewrite of existing file rejected: " ++ String.ofList path)
  | _, _ => pure ()

def untrackedCheck (name : Text) (allowed : List Text) (path : Text) : Except String Unit := do
  if allowed ≠ [] ∧ pathAllowed name allowed (slashes path) = false then
    throw ("new file outside the allowed file list: " ++ String.ofList path)

def checkAll {α : Type} (check : α → Except String Unit) : List α → Except String Unit
  | [] => .ok ()
  | item :: rest => check item >>= fun _ => checkAll check rest

/-- `_guard_diff`, behind its comparison of the acceptance digests. -/
def guardDiff (name : Text) (allowed : List Text) (base : Tree) (unmodified : Bool) (report : Report) : Except String Unit := do
  if unmodified = false then throw "acceptance table in the spec was modified after the spec stage"
  checkAll (entryCheck name allowed base) report.numstat
  checkAll (untrackedCheck name allowed) report.untracked

/-- `_stage_publish` up to the feature commit: the scan may write files, and `git add -A` takes what it leaves. -/
def publish (name : Text) (allowed : List Text) (base : Tree) (unmodified : Bool) (report : Report)
    (scan : Tree → Bool × Tree) (work : Tree) : Except String Tree := do
  guardDiff name allowed base unmodified report
  if (scan work).1 = false then throw "security scan rejected the change"
  pure (scan work).2

/-! ## What `git` reports -/

/-- A name without blanks at its ends that `git` prints as it is. -/
def ordinary (path : Text) : Bool :=
  Lines.strip Service.isSpace path = path && path.all fun c => 32 ≤ c.toNat && c.toNat ≤ 126 && c ≠ '"' && c ≠ '\\'

def lineCount (content : Text) : Nat :=
  content.count '\n' + if content.getLast?.any (· ≠ '\n') then 1 else 0

/-- The documented behaviour of the two commands, for a worktree against the spec commit. -/
structure Documented (lost : Text → Option Text → Nat) (base work : Tree) (report : Report) : Prop where
  reported : ∀ path, base path ≠ work path → ordinary path = true →
    (∃ entry ∈ report.numstat, entry.change.touches path) ∨
      ∃ shown ∈ report.untracked, shown = path ∨ shown.getLast? = some '/' ∧ shown <+: path
  tracked : ∀ path content, base path = some content → base path ≠ work path →
    ∃ entry ∈ report.numstat, entry.change.touches path
  printed : ∀ entry ∈ report.numstat, ∀ path, entry.change = .file path → ordinary path = true → entry.shown = path
  counted : ∀ entry ∈ report.numstat, ∀ path content deleted, entry.change = .file path → base path = some content →
    entry.deleted = some deleted → lost content (work path) ≤ deleted

/-- The published change stays in scope and rewrites no file wholesale. -/
structure InScope (lost : Text → Option Text → Nat) (name : Text) (allowed : List Text) (base published : Tree) : Prop where
  paths : ∀ path, base path ≠ published path → pathAllowed name allowed path = true
  lines : ∀ path content, base path = some content → base path ≠ published path → rewriteMinLines ≤ lineCount content →
    5 * lost content (published path) ≤ 4 * lineCount content

/-- An end of a detected rename, a name that is not printed as it is, or a path that the security scan has written. -/
def Peculiar (work published : Tree) (report : Report) (path : Text) : Prop :=
  (∃ entry ∈ report.numstat, ∃ old new, entry.change = .rename old new ∧ (path = old ∨ path = new)) ∨
    ordinary path = false ∨ published path ≠ work path

/-- Peculiar paths are in scope, and so are the line counts of those, of binary files and of files of 39 line feeds. -/
structure Unexceptional (lost : Text → Option Text → Nat) (name : Text) (allowed : List Text) (base work published : Tree)
    (report : Report) : Prop where
  paths : ∀ path, base path ≠ published path → Peculiar work published report path → pathAllowed name allowed path = true
  lines : ∀ path content, base path = some content → base path ≠ published path → rewriteMinLines ≤ lineCount content →
    Peculiar work published report path ∨ (∃ entry ∈ report.numstat, entry.change = .file path ∧ entry.deleted = none) ∨
        content.count '\n' < rewriteMinLines →
      5 * lost content (published path) ≤ 4 * lineCount content

variable {name : Text} {allowed files : List Text} {base work published : Tree} {report : Report}
variable {lost : Text → Option Text → Nat}

theorem checkAll_ok {α : Type} {check : α → Except String Unit} {items : List α} :
    checkAll check items = .ok () ↔ ∀ item ∈ items, check item = .ok () := by
  induction items with
  | nil => simp [checkAll]
  | cons item rest ih =>
    rw [List.forall_mem_cons, ← ih, checkAll]
    cases check item with
    | error why => simp [bind, Except.bind]
    | ok done => simp [bind, Except.bind]

theorem guardDiff_ok {unmodified : Bool} (passed : guardDiff name allowed base unmodified report = .ok ()) :
    (∀ entry ∈ report.numstat, entryCheck name allowed base entry = .ok ()) ∧
      ∀ shown ∈ report.untracked, untrackedCheck name allowed shown = .ok () := by
  cases unmodified with
  | false => cases passed
  | true =>
    change (checkAll (entryCheck name allowed base) report.numstat >>= fun _ =>
      checkAll (untrackedCheck name allowed) report.untracked) = .ok () at passed
    cases entries : checkAll (entryCheck name allowed base) report.numstat with
    | error why =>
      rw [entries] at passed
      cases passed
    | ok done =>
      rw [entries] at passed
      exact ⟨checkAll_ok.mp entries, checkAll_ok.mp passed⟩

theorem entryCheck_ok {entry : Entry} (passed : entryCheck name allowed base entry = .ok ()) :
    (allowed ≠ [] → pathAllowed name allowed (Lines.strip Service.isSpace entry.shown) = true) ∧
      ∀ deleted original, entry.deleted = some deleted →
        base (Lines.strip Service.isSpace entry.shown) = some original → rewriteMinLines ≤ original.count '\n' →
        rewrites deleted (original.count '\n') = false := by
  unfold entryCheck at passed
  simp only [] at passed
  split at passed
  · cases passed
  · next inside =>
    refine ⟨fun listed => ?_, fun deleted original counted found long => ?_⟩
    · by_contra outside
      exact inside ⟨listed, Bool.not_eq_true _ ▸ outside⟩
    · simp only [counted, found] at passed
      split at passed
      · cases passed
      · next kept =>
        by_contra rewritten
        exact kept ⟨long, Bool.not_eq_false _ ▸ rewritten⟩

theorem untrackedCheck_ok {shown : Text} (passed : untrackedCheck name allowed shown = .ok ()) (listed : allowed ≠ []) :
    pathAllowed name allowed (slashes shown) = true := by
  unfold untrackedCheck at passed
  split at passed
  · cases passed
  · next inside =>
    by_contra outside
    exact inside ⟨listed, Bool.not_eq_true _ ▸ outside⟩

/-- A file of the list does not end in a slash. -/
theorem allowedFiles_trimmed {file : Text} (member : file ∈ allowedFiles files) : file.getLast? ≠ some '/' := by
  obtain ⟨given, -, rfl⟩ := List.mem_map.mp member
  intro ended
  rw [Lines.strip, List.getLast?_reverse] at ended
  have first := List.head?_dropWhile_not (fun c : Char => c = '/')
    ((slashes given).dropWhile fun c => c = '/').reverse
  rw [ended] at first
  simp at first

theorem getLast?_specPath : (specPath name).getLast? = some 'd' := by
  have ended : (specPath name).getLast? = "-l4.md".toList.getLast? :=
    List.getLast?_append_of_ne_nil _ (by decide)
  exact ended

/-- What covers a directory covers the paths below it. -/
theorem pathAllowed_below {directory path : Text} (covered : pathAllowed name (allowedFiles files) directory = true)
    (ended : directory.getLast? = some '/') (below : directory <+: path) :
    pathAllowed name (allowedFiles files) path = true := by
  have under : ∀ {start : Text}, start.isPrefixOf directory = true → start.isPrefixOf path = true := fun inside =>
    List.isPrefixOf_iff_prefix.mpr ((List.isPrefixOf_iff_prefix.mp inside).trans below)
  simp only [pathAllowed, Bool.or_eq_true, decide_eq_true_eq, List.any_eq_true] at covered ⊢
  -- the four rules of `_path_allowed`; neither the spec nor a file of the list ends in a slash
  rcases covered with ((same | tests) | data) | ⟨file, member, same | inside⟩
  · rw [same, getLast?_specPath] at ended
    cases ended
  · exact .inl (.inl (.inr (under tests)))
  · exact .inl (.inr (under data))
  · rw [same] at ended
    exact absurd ended (allowedFiles_trimmed member)
  · exact .inr ⟨file, member, .inr (under inside)⟩

theorem slashes_ordinary {path shown : Text} (plain : ordinary path = true) (below : shown <+: path) :
    slashes shown = shown := by
  simp only [ordinary, Bool.and_eq_true, List.all_eq_true] at plain
  refine (List.map_congr_left fun c member => ?_).trans (List.map_id _)
  have kept := plain.2 c (below.subset member)
  simp only [decide_eq_true_eq] at kept
  exact if_neg kept.2

theorem strip_ordinary {path : Text} (plain : ordinary path = true) : Lines.strip Service.isSpace path = path := by
  simp only [ordinary, Bool.and_eq_true, decide_eq_true_eq] at plain
  exact plain.1

theorem publish_guarded {unmodified : Bool} {scan : Tree → Bool × Tree}
    (done : publish name allowed base unmodified report scan work = .ok published) :
    guardDiff name allowed base unmodified report = .ok () := by
  unfold publish at done
  cases guarded : guardDiff name allowed base unmodified report with
  | ok passed => rfl
  | error why =>
    rw [guarded] at done
    cases done

/-- What the guard makes of an entry that it can read. -/
theorem entry_read {entry : Entry} {path : Text} (documented : Documented lost base work report)
    (member : entry ∈ report.numstat) (file : entry.change = .file path) (plain : ordinary path = true) :
    Lines.strip Service.isSpace entry.shown = path := by
  rw [documented.printed entry member path file plain, strip_ordinary plain]

/-- A changed path that is not peculiar has an entry of its own or is untracked. -/
theorem reported_plainly {path : Text} (documented : Documented lost base work report) (changed : base path ≠ published path)
    (usual : ¬ Peculiar work published report path) :
    ordinary path = true ∧ published path = work path ∧
      ((∃ entry ∈ report.numstat, entry.change = .file path) ∨
        ∃ shown ∈ report.untracked, shown = path ∨ shown.getLast? = some '/' ∧ shown <+: path) := by
  simp only [Peculiar, not_or, Bool.not_eq_false, ne_eq, not_not] at usual
  obtain ⟨unrenamed, plain, kept⟩ := usual
  refine ⟨plain, kept, ?_⟩
  rw [kept] at changed
  -- an entry of its own, a rename that it is an end of, or an untracked path
  rcases documented.reported path changed plain with ⟨entry, member, touched⟩ | new
  · cases change : entry.change with
    | file other =>
      rw [change] at touched
      cases (show path = other from touched)
      exact .inl ⟨entry, member, change⟩
    | rename old new =>
      rw [change] at touched
      exact absurd ⟨entry, member, old, new, change, touched⟩ unrenamed
  · exact .inr new

/-- What is published is in scope exactly where its exceptions are. -/
theorem inScope_iff {unmodified : Bool} {scan : Tree → Bool × Tree} (documented : Documented lost base work report)
    (listed : allowedFiles files ≠ [])
    (done : publish name (allowedFiles files) base unmodified report scan work = .ok published) :
    InScope lost name (allowedFiles files) base published ↔
      Unexceptional lost name (allowedFiles files) base work published report := by
  obtain ⟨entries, untracked⟩ := guardDiff_ok (publish_guarded done)
  constructor
  · exact fun kept => ⟨fun path changed _ => kept.paths path changed,
      fun path content found changed long _ => kept.lines path content found changed long⟩
  intro clear
  refine ⟨fun path changed => ?_, fun path content found changed long => ?_⟩
  -- a path that the guard has read has passed its check; the others are the exceptions
  · by_cases usual : Peculiar work published report path
    · exact clear.paths path changed usual
    · obtain ⟨plain, -, ⟨entry, member, file⟩ | ⟨shown, member, same | ⟨ended, below⟩⟩⟩ :=
        reported_plainly documented changed usual
      · have allowed := (entryCheck_ok (entries entry member)).1 listed
        rwa [entry_read documented member file plain] at allowed
      · have allowed := untrackedCheck_ok (untracked shown member) listed
        rwa [same, slashes_ordinary plain List.prefix_rfl] at allowed
      -- an untracked directory stands for the new files below it
      · have allowed := untrackedCheck_ok (untracked shown member) listed
        rw [slashes_ordinary plain below] at allowed
        exact pathAllowed_below allowed ended below
  · by_cases exception : Peculiar work published report path ∨
        (∃ entry ∈ report.numstat, entry.change = .file path ∧ entry.deleted = none) ∨ content.count '\n' < rewriteMinLines
    · exact clear.lines path content found changed long exception
    · obtain ⟨usual, counted, many⟩ : ¬ Peculiar work published report path ∧
          (¬ ∃ entry ∈ report.numstat, entry.change = .file path ∧ entry.deleted = none) ∧
            ¬ content.count '\n' < rewriteMinLines := by simpa only [not_or] using exception
      obtain ⟨plain, kept, -⟩ := reported_plainly documented changed usual
      rw [kept] at changed ⊢
      obtain ⟨entry, member, touched⟩ := documented.tracked path content found changed
      have file : entry.change = .file path := by
        cases change : entry.change with
        | file other =>
          rw [change] at touched
          rw [show path = other from touched]
        | rename old new =>
          rw [change] at touched
          exact absurd (.inl ⟨entry, member, old, new, change, touched⟩) usual
      cases deleted : entry.deleted with
      | none => exact absurd ⟨entry, member, file, deleted⟩ counted
      | some number =>
        -- the guard has compared the count that `git` printed with the line feeds of the file
        have few := (entryCheck_ok (entries entry member)).2 number content deleted
          (by rw [entry_read documented member file plain, found]) (Nat.le_of_not_lt many)
        have bound := documented.counted entry member path content number file found deleted
        have least : content.count '\n' ≤ lineCount content := Nat.le_add_right _ _
        simp only [rewrites, decide_eq_false_iff_not, Nat.not_lt] at few
        have most : max (content.count '\n') 1 = content.count '\n' :=
          Nat.max_eq_left (Nat.le_trans (by decide) (Nat.le_of_not_lt many))
        rw [most] at few
        omega

/-! ## A rename out of scope -/

def holding (path content : Text) : Tree := fun other => if other = path then some content else none

def allLost (content : Text) : Option Text → Nat
  | none => lineCount content
  | some _ => 0

/-- `git` prints a rename between two directories as one entry, and the entry starts with a path in scope. -/
def renameReport : Report :=
  ⟨[⟨.rename "pkg/a.py".toList "other/b.py".toList, "pkg/a.py => other/b.py".toList, some 0⟩], []⟩

def editReport : Report := ⟨[⟨.file "pkg/a.py".toList, "pkg/a.py".toList, some 1⟩], []⟩

theorem documented_edit :
    Documented allLost (holding "pkg/a.py".toList "x\n".toList) (holding "pkg/a.py".toList "y\n".toList) editReport where
  reported path changed _ := by
    have same : path = "pkg/a.py".toList := by
      by_contra apart
      exact changed (by simp only [holding, if_neg apart])
    exact .inl ⟨_, List.mem_cons_self, same⟩
  tracked path content found _ := by
    have same : path = "pkg/a.py".toList := by
      by_contra apart
      simp only [holding, if_neg apart] at found
      cases found
    exact ⟨_, List.mem_cons_self, same⟩
  printed entry member path file _ := by
    rw [List.mem_singleton.mp member] at file ⊢
    exact Change.file.inj file
  counted entry member path content deleted file found _ := by
    rw [List.mem_singleton.mp member] at file
    cases file
    simp [holding, allLost]

theorem inScope_iff_edit :
    InScope allLost "demo".toList (allowedFiles ["pkg/".toList]) (holding "pkg/a.py".toList "x\n".toList)
        (holding "pkg/a.py".toList "y\n".toList) ↔
      Unexceptional allLost "demo".toList (allowedFiles ["pkg/".toList]) (holding "pkg/a.py".toList "x\n".toList)
        (holding "pkg/a.py".toList "y\n".toList) (holding "pkg/a.py".toList "y\n".toList) editReport :=
  @inScope_iff "demo".toList ["pkg/".toList] _ _ _ editReport allLost true (fun work => (true, work)) documented_edit (by decide)
    (by rfl)

/-- With the file list `pkg/`, `pkg/a.py` has become `other/b.py`. -/
theorem renamed_out_of_scope :
    Documented allLost (holding "pkg/a.py".toList "x\n".toList) (holding "other/b.py".toList "x\n".toList) renameReport ∧
      publish "demo".toList (allowedFiles ["pkg/".toList]) (holding "pkg/a.py".toList "x\n".toList) true renameReport
        (fun work => (true, work)) (holding "other/b.py".toList "x\n".toList) =
          .ok (holding "other/b.py".toList "x\n".toList) ∧
      ¬ InScope allLost "demo".toList (allowedFiles ["pkg/".toList]) (holding "pkg/a.py".toList "x\n".toList)
        (holding "other/b.py".toList "x\n".toList) := by
  have touched : ∀ path, holding "pkg/a.py".toList "x\n".toList path ≠ holding "other/b.py".toList "x\n".toList path →
      path = "pkg/a.py".toList ∨ path = "other/b.py".toList := by
    intro path changed
    by_contra apart
    obtain ⟨left, right⟩ := not_or.mp apart
    exact changed (by simp only [holding, if_neg left, if_neg right])
  refine ⟨⟨?_, ?_, ?_, ?_⟩, by rfl, fun kept => ?_⟩
  · exact fun path changed _ => .inl ⟨_, List.mem_cons_self, touched path changed⟩
  · exact fun path content _ changed => ⟨_, List.mem_cons_self, touched path changed⟩
  · intro entry member path file
    rw [List.mem_singleton.mp member] at file
    cases file
  · intro entry member path content deleted file
    rw [List.mem_singleton.mp member] at file
    cases file
  · have covered := kept.paths "other/b.py".toList (by decide)
    revert covered
    decide

end AiStore.Pipeline
