import Mathlib.Data.List.Dedup
import Mathlib.Data.List.Induction
import AiStore.Offline.Contracts
import AiStore.Library.Lines
import AiStore.Library.Runs
import AiStore.Library.Table

/-! The journal of offline fixture pages: one checkpoint a scope, one row a page. -/

set_option autoImplicit false

namespace AiStore.Offline

open Library

/-- Tenant, connection and provider. -/
structure Scope where
  tenant : String
  connection : String
  provider : String
  deriving DecidableEq

structure CheckpointRow where
  scope : Scope
  version : Nat
  cursor : Option String
  deriving DecidableEq

structure PageRow where
  scope : Scope
  pageKey : String
  digest : String
  payload : String
  deriving DecidableEq

def PageRow.key (row : PageRow) : Scope × String := (row.scope, row.pageKey)

structure Journal where
  checkpoints : Table CheckpointRow.scope
  pages : Table PageRow.key

def Journal.empty : Journal := ⟨.empty, .empty⟩

/-- What a caller hands over as a page. -/
inductive Given where
  | order (page : OfflineOrderPage)
  | settlement (page : OfflineSettlementPage)
  | other

namespace Given

def provider : Given → String
  | order page => page.provider
  | settlement page => page.provider
  | other => ""

/-- `provider_scope`. -/
def scopeProvider : Given → String
  | settlement page => page.provider ++ "_settlement"
  | given => given.provider

def nextCursor : Given → Option String
  | order page => page.nextCursor
  | settlement page => page.nextCursor
  | other => none

def asdict : Given → Json
  | order page => page.asdict
  | settlement page => page.asdict
  | other => .null

def isPage : Given → Bool
  | other => false
  | _ => true

end Given

structure RecordCall where
  tenant : String
  connection : String
  pageKey : String
  page : Given
  expectedVersion : Int
  continuation : Option String

def RecordCall.scope (call : RecordCall) : Scope := ⟨call.tenant, call.connection, call.page.scopeProvider⟩

/-- `_scope`. -/
def checkScope (scope : Scope) : Checked Unit := do
  let _ ← identifier scope.tenant
  let _ ← identifier scope.connection
  require (scope.provider ∈ ["naver", "coupang", "naver_settlement", "coupang_settlement"]) "unsupported_provider"

def Journal.checkpoint (journal : Journal) (scope : Scope) : Nat × Option String :=
  match journal.checkpoints.get? scope with
  | none => (0, none)
  | some row => (row.version, row.cursor)

section

variable (hash : String → String) (printable : String → Bool)

/-- The digest frames the payload and the continuation by a newline. -/
def pageDigest (payload : String) (continuation : Option String) : String :=
  hash (payload ++ "\n" ++ continuation.getD "")

def checkContinuation : Option String → Checked Unit
  | none => .ok ()
  | some text => (cursorText printable text).map fun _ => ()

/-- What `record` checks before its transaction, and the payload of the page. -/
def RecordCall.checked (call : RecordCall) : Checked String := do
  require (call.page.isPage = true) "normalized_page_required"
  checkScope call.scope
  let _ ← identifier call.pageKey
  let _ ← integer call.expectedVersion
  checkContinuation printable call.continuation
  require (call.page.provider = "coupang" → call.continuation = call.page.nextCursor) "continuation_mismatch"
  canonicalJson call.page.asdict

def Journal.store (journal : Journal) (call : RecordCall) (payload : String) (version : Nat) : Journal where
  checkpoints := journal.checkpoints.put ⟨call.scope, version, call.continuation⟩
  pages := journal.pages.put ⟨call.scope, call.pageKey, pageDigest hash payload call.continuation, payload⟩

/-- The version of the scope, and whether the page had been recorded before. -/
def record (call : RecordCall) (journal : Journal) : Checked ((Nat × Bool) × Journal) := do
  let payload ← call.checked printable
  let current := (journal.checkpoint call.scope).1
  match journal.pages.get? (call.scope, call.pageKey) with
  | some existing =>
      require (existing.digest = pageDigest hash payload call.continuation) "page_identity_content_conflict"
      pure ((current, true), journal)
  | none =>
      require ((current : Int) = call.expectedVersion) "checkpoint_version_conflict"
      pure ((current + 1, false), journal.store hash call payload (current + 1))

/-- A call that raises rolls back. -/
def Journal.step (call : RecordCall) (journal : Journal) : Checked (Nat × Bool) × Journal :=
  attempt journal (record hash printable call journal)

/-- The journal behind a sequence of calls. -/
def journalAfter (calls : List RecordCall) : Journal := final (Journal.step hash printable) .empty calls

/-- Every call with what it has returned. -/
def journalTrace (calls : List RecordCall) : List (RecordCall × Checked (Nat × Bool)) :=
  trace (Journal.step hash printable) .empty calls

end

/-! ## What the calls tell -/

abbrev Steps := List (RecordCall × Checked (Nat × Bool))

/-- The page keys that calls in the scope have recorded, replays included. -/
def recordedKeys (scope : Scope) (steps : Steps) : List String :=
  steps.filterMap fun step => match step.2 with
    | .ok _ => if step.1.scope = scope then some step.1.pageKey else none
    | .error _ => none

/-- The new pages of a scope, oldest first, each with its continuation. -/
def newPages (scope : Scope) (steps : Steps) : List (String × Option String) :=
  steps.filterMap fun step => match step.2 with
    | .ok (_, false) => if step.1.scope = scope then some (step.1.pageKey, step.1.continuation) else none
    | _ => none

variable {hash : String → String} {printable : String → Bool} {call : RecordCall} {journal after : Journal}
variable {steps : Steps} {scope : Scope}

/-! ## Framing -/

theorem exact_given (page : Given) : Json.exact page.asdict = true := by
  cases page with
  | order page => exact exact_order page
  | settlement page => exact exact_settlement page
  | other => rfl

/-- A payload is one line. -/
theorem payload_line {page : Given} {payload : String} (encoded : canonicalJson page.asdict = .ok payload) :
    '\n' ∉ payload.toList := by
  simp only [canonicalJson, except_bind_eq_ok, require_eq_ok] at encoded
  obtain ⟨-, -, rest⟩ := encoded
  cases rest
  intro member
  have visible := Json.printing_canonical (exact_given page) '\n' member
  revert visible
  decide

theorem checked_ok {payload : String} (accepted : call.checked printable = .ok payload) :
    canonicalJson call.page.asdict = .ok payload ∧
      ∀ text ∈ call.continuation, 1 ≤ text.length ∧ text.length ≤ 4096 ∧ printable text = true := by
  simp only [RecordCall.checked, except_bind_eq_ok] at accepted
  obtain ⟨_, -, _, -, _, -, _, -, _, continued, _, -, encoded⟩ := accepted
  refine ⟨encoded, fun text given => ?_⟩
  rw [show call.continuation = some text from given] at continued
  cases accepts : cursorText printable text with
  | error why =>
    simp only [checkContinuation, accepts, Except.map] at continued
    cases continued
  | ok value =>
    simp only [cursorText, except_bind_eq_ok, require_eq_ok] at accepts
    exact accepts.choose_spec.1

/-- Two accepted pages with one digest have the same payload and the same continuation. -/
theorem pageDigest_inj (injective : Function.Injective hash) {first second : RecordCall} {payload other : String}
    (left : first.checked printable = .ok payload) (right : second.checked printable = .ok other)
    (same : pageDigest hash payload first.continuation = pageDigest hash other second.continuation) :
    payload = other ∧ first.continuation = second.continuation := by
  obtain ⟨left_encoded, left_cursor⟩ := checked_ok left
  obtain ⟨right_encoded, right_cursor⟩ := checked_ok right
  have texts := congrArg String.toList (injective same)
  simp only [String.toList_append] at texts
  have newline : "\n".toList = ['\n'] := rfl
  rw [newline, List.append_assoc, List.append_assoc] at texts
  -- the payload ends at the first line feed of the framed text, since it is one line
  obtain ⟨payloads, rests⟩ := parted_inj (payload_line left_encoded) (payload_line right_encoded) texts
  refine ⟨String.toList_inj.mp payloads, ?_⟩
  have cursors := String.toList_inj.mp rests
  -- an absent continuation is framed as the empty text, which no cursor is
  cases one : first.continuation with
  | none =>
    cases another : second.continuation with
    | none => rfl
    | some text =>
      rw [one, another] at cursors
      have long := (right_cursor text another).1
      rw [show text = "" from cursors.symm] at long
      exact absurd long (by decide)
  | some text =>
    cases another : second.continuation with
    | none =>
      rw [one, another] at cursors
      have long := (left_cursor text one).1
      rw [show text = "" from cursors] at long
      exact absurd long (by decide)
    | some shown =>
      rw [one, another] at cursors
      exact congrArg some cursors

/-! ## Steps -/

theorem checkpoint_store (payload : String) (version : Nat) (scope : Scope) :
    (journal.store hash call payload version).checkpoint scope =
      if call.scope = scope then (version, call.continuation) else journal.checkpoint scope := by
  simp only [Journal.checkpoint, Journal.store, Table.get?_put]
  by_cases same : call.scope = scope <;> simp [same]

theorem page_store (payload : String) (version : Nat) (wanted : Scope × String) :
    (journal.store hash call payload version).pages.get? wanted =
      if (call.scope, call.pageKey) = wanted then
        some ⟨call.scope, call.pageKey, pageDigest hash payload call.continuation, payload⟩
      else journal.pages.get? wanted :=
  Table.get?_put _ _ _

/-- A known page is replayed, or it is another content under the same key. -/
theorem step_known {payload : String} {existing : PageRow} (accepted : call.checked printable = .ok payload)
    (known : journal.pages.get? (call.scope, call.pageKey) = some existing) :
    Journal.step hash printable call journal =
      (if existing.digest = pageDigest hash payload call.continuation
        then .ok ((journal.checkpoint call.scope).1, true) else .error ⟨"page_identity_content_conflict"⟩, journal) := by
  have ran : record hash printable call journal = (do
      require (existing.digest = pageDigest hash payload call.continuation) "page_identity_content_conflict"
      pure (((journal.checkpoint call.scope).1, true), journal)) := by
    simp only [record, accepted, known]
    rfl
  rw [Journal.step, ran, require]
  by_cases same : existing.digest = pageDigest hash payload call.continuation
  · rw [if_pos same, if_pos same]
    rfl
  · rw [if_neg same, if_neg same]
    rfl

/-- An unknown page is stored, or the caller has not seen the current version. -/
theorem step_fresh {payload : String} (accepted : call.checked printable = .ok payload)
    (fresh : journal.pages.get? (call.scope, call.pageKey) = none) :
    Journal.step hash printable call journal =
      if ((journal.checkpoint call.scope).1 : Int) = call.expectedVersion then
        (.ok ((journal.checkpoint call.scope).1 + 1, false),
          journal.store hash call payload ((journal.checkpoint call.scope).1 + 1))
      else (.error ⟨"checkpoint_version_conflict"⟩, journal) := by
  have ran : record hash printable call journal = (do
      require (((journal.checkpoint call.scope).1 : Int) = call.expectedVersion) "checkpoint_version_conflict"
      pure (((journal.checkpoint call.scope).1 + 1, false),
        journal.store hash call payload ((journal.checkpoint call.scope).1 + 1))) := by
    simp only [record, accepted, fresh]
    rfl
  rw [Journal.step, ran, require]
  by_cases same : ((journal.checkpoint call.scope).1 : Int) = call.expectedVersion
  · rw [if_pos same, if_pos same]
    rfl
  · rw [if_neg same, if_neg same]
    rfl

theorem step_rejected {why : ContractQuarantine} (rejected : call.checked printable = .error why) :
    Journal.step hash printable call journal = (.error why, journal) := by
  simp only [Journal.step, record, rejected]
  rfl

/-- Whatever a call does: it raises, replays a known page or stores a new one. -/
theorem step_cases (hash : String → String) (printable : String → Bool) (call : RecordCall) (journal : Journal) :
    (∃ why, Journal.step hash printable call journal = (.error why, journal)) ∨
    (∃ payload existing, call.checked printable = .ok payload ∧
      journal.pages.get? (call.scope, call.pageKey) = some existing ∧
      existing.digest = pageDigest hash payload call.continuation ∧
      Journal.step hash printable call journal = (.ok ((journal.checkpoint call.scope).1, true), journal)) ∨
    (∃ payload, call.checked printable = .ok payload ∧
      journal.pages.get? (call.scope, call.pageKey) = none ∧
      Journal.step hash printable call journal =
        (.ok ((journal.checkpoint call.scope).1 + 1, false),
          journal.store hash call payload ((journal.checkpoint call.scope).1 + 1))) := by
  cases accepted : call.checked printable with
  | error why => exact .inl ⟨why, step_rejected accepted⟩
  | ok payload =>
    cases known : journal.pages.get? (call.scope, call.pageKey) with
    | some existing =>
      have stepped : Journal.step hash printable call journal = _ := step_known accepted known
      by_cases same : existing.digest = pageDigest hash payload call.continuation
      · rw [if_pos same] at stepped
        exact .inr (.inl ⟨payload, existing, rfl, rfl, same, stepped⟩)
      · rw [if_neg same] at stepped
        exact .inl ⟨_, stepped⟩
    | none =>
      have stepped : Journal.step hash printable call journal = _ := step_fresh accepted known
      by_cases current : ((journal.checkpoint call.scope).1 : Int) = call.expectedVersion
      · rw [if_pos current] at stepped
        exact .inr (.inr ⟨payload, rfl, rfl, stepped⟩)
      · rw [if_neg current] at stepped
        exact .inl ⟨_, stepped⟩

/-! ## The invariant of a run -/

@[simp] theorem recordedKeys_concat (last : RecordCall × Checked (Nat × Bool)) :
    recordedKeys scope (steps ++ [last]) = recordedKeys scope steps ++ recordedKeys scope [last] :=
  List.filterMap_append

@[simp] theorem newPages_concat (last : RecordCall × Checked (Nat × Bool)) :
    newPages scope (steps ++ [last]) = newPages scope steps ++ newPages scope [last] :=
  List.filterMap_append

theorem mem_recordedKeys_single {scope : Scope} {key : String} {result : Nat × Bool} :
    key ∈ recordedKeys scope [(call, .ok result)] ↔ call.scope = scope ∧ call.pageKey = key := by
  by_cases home : call.scope = scope
  · simp [recordedKeys, home, eq_comm]
  · simp [recordedKeys, home]

/-- The journal behind the steps of a run. -/
structure Kept (hash : String → String) (printable : String → Bool) (steps : Steps) (journal : Journal) : Prop where
  checkpoint : ∀ scope, journal.checkpoint scope =
    ((newPages scope steps).length, (newPages scope steps).getLast?.bind Prod.snd)
  known : ∀ scope key, (journal.pages.get? (scope, key)).isSome ↔ key ∈ recordedKeys scope steps
  distinct : ∀ scope, ((newPages scope steps).map Prod.fst).Nodup
  new : ∀ scope key, key ∈ (newPages scope steps).map Prod.fst ↔ key ∈ recordedKeys scope steps
  digests : ∀ step ∈ steps, ∀ result, step.2 = .ok result → ∃ payload row,
    step.1.checked printable = .ok payload ∧ journal.pages.get? (step.1.scope, step.1.pageKey) = some row ∧
      row.digest = pageDigest hash payload step.1.continuation

theorem Kept.start : Kept hash printable [] .empty where
  checkpoint _ := rfl
  known scope key := by simp [Journal.empty, recordedKeys]
  distinct _ := List.nodup_nil
  new _ _ := Iff.rfl
  digests step member := absurd member List.not_mem_nil

theorem Kept.raised (kept : Kept hash printable steps journal) (call : RecordCall) (why : ContractQuarantine) :
    Kept hash printable (steps ++ [(call, .error why)]) journal where
  checkpoint scope := by simpa [newPages] using kept.checkpoint scope
  known scope key := by simpa [recordedKeys] using kept.known scope key
  distinct scope := by simpa [newPages] using kept.distinct scope
  new scope key := by simpa [newPages, recordedKeys] using kept.new scope key
  digests step member result ok := by
    rcases List.mem_append.mp member with earlier | last
    · exact kept.digests step earlier result ok
    · rw [List.mem_singleton.mp last] at ok
      cases ok

theorem Kept.replayed (kept : Kept hash printable steps journal) {payload : String} {existing : PageRow} {version : Nat}
    (accepted : call.checked printable = .ok payload)
    (found : journal.pages.get? (call.scope, call.pageKey) = some existing)
    (same : existing.digest = pageDigest hash payload call.continuation) :
    Kept hash printable (steps ++ [(call, .ok (version, true))]) journal where
  checkpoint scope := by simpa [newPages] using kept.checkpoint scope
  known scope key := by
    rw [kept.known, recordedKeys_concat, List.mem_append]
    refine ⟨.inl, fun either => either.elim id fun last => ?_⟩
    obtain ⟨home, named⟩ := mem_recordedKeys_single.mp last
    rw [← home, ← named, ← kept.known, found]
    rfl
  distinct scope := by simpa [newPages] using kept.distinct scope
  new scope key := by
    -- a replay adds no new page, and its key has been recorded before
    rw [newPages_concat, List.map_append, List.mem_append, kept.new, recordedKeys_concat, List.mem_append]
    refine or_congr_right' fun unknown => ?_
    constructor
    · exact fun listed => absurd listed (by simp [newPages])
    · intro last
      obtain ⟨home, named⟩ := mem_recordedKeys_single.mp last
      rw [← home, ← named, ← kept.known, found] at unknown
      exact absurd rfl unknown
  digests step member result ok := by
    rcases List.mem_append.mp member with earlier | last
    · exact kept.digests step earlier result ok
    · rw [List.mem_singleton.mp last]
      exact ⟨payload, existing, accepted, found, same⟩

theorem Kept.stored (kept : Kept hash printable steps journal) {payload : String}
    (accepted : call.checked printable = .ok payload)
    (fresh : journal.pages.get? (call.scope, call.pageKey) = none) :
    Kept hash printable (steps ++ [(call, .ok ((journal.checkpoint call.scope).1 + 1, false))])
      (journal.store hash call payload ((journal.checkpoint call.scope).1 + 1)) where
  -- in the scope of the call the page is one more and the last; the other scopes stand as they stood
  checkpoint scope := by
    rw [checkpoint_store, newPages_concat]
    by_cases home : call.scope = scope
    · subst home
      simp [newPages, kept.checkpoint call.scope]
    · simpa [newPages, home] using kept.checkpoint scope
  known scope key := by
    rw [page_store, recordedKeys_concat, List.mem_append, ← kept.known scope key, mem_recordedKeys_single]
    by_cases home : call.scope = scope
    · by_cases named : call.pageKey = key <;> simp [home, named]
    · simp [home]
  distinct scope := by
    rw [newPages_concat, List.map_append]
    by_cases home : call.scope = scope
    · subst home
      -- the key is new to the journal, so to what has been recorded
      have unknown : call.pageKey ∉ (newPages call.scope steps).map Prod.fst := by
        rw [kept.new, ← kept.known, fresh]
        exact Bool.false_ne_true
      refine List.Nodup.append (kept.distinct _) (by simp [newPages]) ?_
      simpa [newPages] using unknown
    · simpa [newPages, home] using kept.distinct scope
  new scope key := by
    rw [newPages_concat, List.map_append, List.mem_append, kept.new, recordedKeys_concat, List.mem_append]
    refine or_congr_right ?_
    by_cases home : call.scope = scope <;> simp [newPages, recordedKeys, home]
  digests step member result ok := by
    rcases List.mem_append.mp member with earlier | last
    · obtain ⟨old, row, checked, found, same⟩ := kept.digests step earlier result ok
      refine ⟨old, row, checked, ?_, same⟩
      rw [page_store, if_neg, found]
      intro equal
      rw [equal, found] at fresh
      cases fresh
    · rw [List.mem_singleton.mp last]
      exact ⟨payload, _, accepted, (page_store _ _ _).trans (if_pos rfl), rfl⟩

/-- The journal behind every sequence of calls is the one that their results tell. -/
theorem kept (hash : String → String) (printable : String → Bool) (calls : List RecordCall) :
    Kept hash printable (journalTrace hash printable calls) (journalAfter hash printable calls) := by
  -- on the calls, the last one apart, by what it does: it raises, replays or stores
  induction calls using List.reverseRecOn with
  | nil => exact .start
  | append_singleton before call ih =>
    rw [journalTrace, journalAfter, trace_concat, final_concat]
    change Kept _ _ (journalTrace hash printable before ++
      [(call, (Journal.step hash printable call (journalAfter hash printable before)).1)])
      (Journal.step hash printable call (journalAfter hash printable before)).2
    rcases step_cases hash printable call (journalAfter hash printable before) with
      ⟨why, raised⟩ | ⟨payload, existing, accepted, found, same, replayed⟩ | ⟨payload, accepted, fresh, stored⟩
    · rw [raised]
      exact ih.raised call why
    · rw [replayed]
      exact ih.replayed accepted found same
    · rw [stored]
      exact ih.stored accepted fresh

theorem Kept.version (kept : Kept hash printable steps journal) (scope : Scope) :
    (journal.checkpoint scope).1 = (recordedKeys scope steps).dedup.length := by
  have same : (recordedKeys scope steps).dedup.Perm ((newPages scope steps).map Prod.fst) := by
    refine (List.perm_ext_iff_of_nodup (List.nodup_dedup _) (kept.distinct scope)).mpr fun key => ?_
    rw [List.mem_dedup, kept.new]
  rw [kept.checkpoint, same.length_eq, List.length_map]

/-! ## The law -/

/-- What callers rely on, after the steps and for whatever comes next. -/
structure JournalLaw (hash : String → String) (printable : String → Bool) (steps : Steps) (journal : Journal) :
    Prop where
  version : ∀ scope, (journal.checkpoint scope).1 = (recordedKeys scope steps).dedup.length
  cursor : ∀ scope, (journal.checkpoint scope).2 = (newPages scope steps).getLast?.bind Prod.snd
  replay : ∀ earlier result, (earlier, .ok result) ∈ steps → ∀ call : RecordCall, call.scope = earlier.scope →
    call.pageKey = earlier.pageKey → call.page = earlier.page → call.continuation = earlier.continuation →
    0 ≤ call.expectedVersion → call.expectedVersion ≤ maxInteger →
    Journal.step hash printable call journal = (.ok ((journal.checkpoint call.scope).1, true), journal)
  conflict : ∀ earlier result, (earlier, .ok result) ∈ steps → ∀ (call : RecordCall) (payload other : String),
    call.scope = earlier.scope → call.pageKey = earlier.pageKey → earlier.checked printable = .ok other →
    call.checked printable = .ok payload →
    pageDigest hash payload call.continuation ≠ pageDigest hash other earlier.continuation →
    Journal.step hash printable call journal = (.error ⟨"page_identity_content_conflict"⟩, journal)
  stale : ∀ (call : RecordCall) (payload : String), call.checked printable = .ok payload →
    call.pageKey ∉ recordedKeys call.scope steps → call.expectedVersion ≠ (journal.checkpoint call.scope).1 →
    Journal.step hash printable call journal = (.error ⟨"checkpoint_version_conflict"⟩, journal)
  foreign : ∀ (call : RecordCall) (why : ContractQuarantine), checkScope call.scope = .error why →
    ∃ reason, Journal.step hash printable call journal = (.error reason, journal)
  advance : ∀ (call : RecordCall) (payload : String), call.checked printable = .ok payload →
    call.pageKey ∉ recordedKeys call.scope steps → call.expectedVersion = (journal.checkpoint call.scope).1 →
    (Journal.step hash printable call journal).1 = .ok ((journal.checkpoint call.scope).1 + 1, false)
  raises : ∀ (call : RecordCall) (why : ContractQuarantine),
    (Journal.step hash printable call journal).1 = .error why → (Journal.step hash printable call journal).2 = journal

theorem Kept.fresh_of_unrecorded (kept : Kept hash printable steps journal)
    (unrecorded : call.pageKey ∉ recordedKeys call.scope steps) :
    journal.pages.get? (call.scope, call.pageKey) = none := by
  rw [← kept.known] at unrecorded
  simpa using unrecorded

/-- The checks of a call read its version apart from everything else. -/
theorem checked_again {earlier : RecordCall} {payload : String} (accepted : earlier.checked printable = .ok payload)
    (home : call.scope = earlier.scope) (named : call.pageKey = earlier.pageKey) (page : call.page = earlier.page)
    (continued : call.continuation = earlier.continuation) (least : 0 ≤ call.expectedVersion)
    (most : call.expectedVersion ≤ maxInteger) : call.checked printable = .ok payload := by
  simp only [RecordCall.checked, except_bind_eq_ok, home, named, page, continued] at accepted ⊢
  obtain ⟨_, known, _, homed, _, keyed, _, -, rest⟩ := accepted
  refine ⟨(), known, (), homed, _, keyed, call.expectedVersion, ?_, rest⟩
  simp only [integer, except_bind_eq_ok, require_eq_ok]
  exact ⟨(), ⟨least, most⟩, rfl⟩

theorem Kept.law (kept : Kept hash printable steps journal) : JournalLaw hash printable steps journal where
  version := kept.version
  cursor scope := congrArg Prod.snd (kept.checkpoint scope)
  replay earlier result member call home named page continued least most := by
    obtain ⟨payload, row, accepted, found, same⟩ := kept.digests _ member result rfl
    rw [← home, ← named] at found
    rw [step_known (checked_again accepted home named page continued least most) found, continued, if_pos same]
  conflict earlier result member call payload other home named accepted offered apart := by
    obtain ⟨stored, row, checked, found, same⟩ := kept.digests _ member result rfl
    rw [← home, ← named] at found
    rw [accepted] at checked
    cases checked
    rw [step_known offered found, if_neg]
    exact fun equal => apart (equal.symm.trans same)
  stale call payload accepted unrecorded apart := by
    rw [step_fresh accepted (kept.fresh_of_unrecorded unrecorded), if_neg (Ne.symm apart)]
  foreign call why wrong := by
    cases accepted : call.checked printable with
    | error reason => exact ⟨reason, step_rejected accepted⟩
    | ok payload =>
      simp only [RecordCall.checked, except_bind_eq_ok] at accepted
      obtain ⟨_, -, _, homed, -⟩ := accepted
      rw [wrong] at homed
      cases homed
  advance call payload accepted unrecorded current := by
    rw [step_fresh accepted (kept.fresh_of_unrecorded unrecorded), if_pos current.symm]
  raises call why raised := by
    rcases step_cases hash printable call journal with
      ⟨_, stepped⟩ | ⟨_, _, -, -, -, stepped⟩ | ⟨_, -, -, stepped⟩
    · rw [stepped]
    · rw [stepped]
    · rw [stepped] at raised
      cases raised

/-- Every sequence of calls keeps the law, and the digest of a page tells its payload and its continuation. -/
theorem journal_law (injective : Function.Injective hash) (calls : List RecordCall) :
    JournalLaw hash printable (journalTrace hash printable calls) (journalAfter hash printable calls) ∧
      ∀ (first second : RecordCall) (payload other : String), first.checked printable = .ok payload →
        second.checked printable = .ok other →
        pageDigest hash payload first.continuation = pageDigest hash other second.continuation →
        payload = other ∧ first.continuation = second.continuation :=
  ⟨(kept hash printable calls).law, fun _ _ _ _ left right same => pageDigest_inj injective left right same⟩

def emptyPage : Given := .order ⟨"naver", [], none, "d"⟩

theorem journal_law_pages :
    JournalLaw id (fun _ => true)
      (journalTrace id (fun _ => true) [⟨"t", "c", "one", emptyPage, 0, none⟩, ⟨"t", "c", "two", emptyPage, 1, some "n"⟩])
      (journalAfter id (fun _ => true) [⟨"t", "c", "one", emptyPage, 0, none⟩, ⟨"t", "c", "two", emptyPage, 1, some "n"⟩]) :=
  (journal_law Function.injective_id _).1

end AiStore.Offline
