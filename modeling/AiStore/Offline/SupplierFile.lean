import AiStore.Library.JsonOrder
import AiStore.Offline.ReviewSafety

/-! The local supplier file: its records, the rows that are accepted, and the errors.

What `csv.reader` yields is given: the header, the records, and how it ends.
-/

set_option autoImplicit false

namespace AiStore.Offline.SupplierFile

open Library

def headers : List String := ["supplier_sku", "barcode", "model", "brand", "spec", "color", "configuration", "quantity",
  "unit_cost_minor", "currency", "observed_at"]

def maxFileBytes : Nat := 1024 * 1024
def maxRows : Nat := 1000

structure SupplierFileRow where
  recordNumber : Nat
  firstLine : Nat
  lastLine : Nat
  supplierSku : String
  identity : List (String × String)
  quantity : Nat
  unitCostMinor : Nat
  currency : String
  observedAt : String
  rowDigest : String
  deriving DecidableEq

structure SupplierRowError where
  recordNumber : Nat
  firstLine : Nat
  lastLine : Nat
  code : String
  deriving DecidableEq

structure SupplierImportReport where
  supplierRef : String
  sourceDigest : String
  rows : List SupplierFileRow
  errors : List SupplierRowError
  deriving DecidableEq

def SupplierImportReport.ready (report : SupplierImportReport) : Bool := !report.rows.isEmpty && report.errors.isEmpty

/-! ## What the reader yields -/

/-- A record with the line that the reader stands on behind it. -/
structure Record where
  cells : List String
  line : Nat
  deriving DecidableEq

/-- How the reader ends: with `StopIteration`, or with `csv.Error` on some line. -/
inductive Ending where
  | stopped
  | malformed (line : Nat)
  deriving DecidableEq

/-- Without a header there is nothing else. -/
structure Reading where
  header : Option Record
  records : List Record
  ending : Ending

/-! ## Cells -/

/-- `\r` and `\n` are the only control characters that a cell may hold. -/
def control (c : Char) : Bool := (c.toNat < 32 && c ≠ '\r' && c ≠ '\n') || c = '\x7f'

def formula (text : String) : Bool := match text.toList.dropWhile Service.isSpace with
  | c :: _ => c ∈ ['=', '+', '-', '@']
  | [] => false

/-- `_cell`. -/
def cell (value : String) : Checked Unit := do
  require (Service.blank value = false ∧ value.length ≤ 1024) "invalid_cell_length"
  require (value.toList.any control = false) "control_character"
  require (formula value = false) "formula_cell"

def checkCells : List String → Checked Unit
  | [] => pure ()
  | value :: rest => do
      cell value
      checkCells rest

/-- `0|[1-9][0-9]{0,14}`. -/
def unsigned (text : String) : Bool := match text.toList with
  | ['0'] => true
  | first :: rest => first.isDigit && first ≠ '0' && rest.all Char.isDigit && rest.length ≤ 14
  | [] => false

/-- `_number`. -/
def number (value : String) : Checked Nat := do
  require (unsigned value = true) "unsigned_integer_required"
  pure (Nat.ofDigitChars 10 value.toList 0)

/-- What is there, or the reason. -/
def given {α : Type} (reason : String) : Option α → Checked α
  | some value => pure value
  | none => .error ⟨reason⟩

/-- `values[key]`. -/
def valueOf (values : List (String × String)) (key : String) : Checked String :=
  match values.find? fun entry => entry.1 = key with
  | some entry => pure entry.2
  -- never: the header holds every name
  | none => .error ⟨"KeyError"⟩

def identityOf (values : List (String × String)) : List String → Checked (List (String × String))
  | [] => pure []
  | key :: rest => do
      let value ← valueOf values key
      let others ← identityOf values rest
      pure ((key, value) :: others)

section

variable (hash : String → String) (fromisoformat : String → Option (Option Timestamp))

/-- `_stamp`. -/
def stamp (value : String) : Checked String := match fromisoformat (zuluOffset value) with
  | none => .error ⟨"invalid_timestamp"⟩
  | some none => .error ⟨"timezone_required"⟩
  | some (some _) => pure value

/-! ## Records -/

/-- What has been read so far. -/
structure Import where
  rows : List SupplierFileRow
  errors : List SupplierRowError
  seen : List String

def Import.refused (state : Import) (number firstLine lastLine : Nat) (code : String) : Import :=
  { state with errors := state.errors ++ [⟨number, firstLine, lastLine, code⟩] }

def Import.accepted (state : Import) (row : SupplierFileRow) : Import :=
  { state with rows := state.rows ++ [row] }

/-- The values of a record up to the one that is looked for among the earlier ones. -/
def named (header seen cells : List String) : Checked (List (String × String) × String) := do
  require (cells.length = header.length) "column_count_mismatch"
  checkCells cells
  let values := header.zip cells
  let sku ← valueOf values "supplier_sku" >>= identifier
  require (sku ∉ seen) "duplicate_supplier_sku"
  pure (values, sku)

/-- What is checked behind it. -/
def rowOf (values : List (String × String)) (sku : String) (recordNumber firstLine lastLine : Nat) :
    Checked SupplierFileRow := do
  let currency ← valueOf values "currency"
  require (currency = "KRW") "unsupported_currency"
  let quantity ← valueOf values "quantity" >>= number
  let cost ← valueOf values "unit_cost_minor" >>= number
  let observedAt ← valueOf values "observed_at" >>= stamp fromisoformat
  let identity ← identityOf values ((headers.drop 1).take 6)
  let rowDigest ← digestOf hash (.object (values.map fun entry => (entry.1, .text entry.2)))
  pure { recordNumber, firstLine, lastLine, supplierSku := sku, identity, quantity, unitCostMinor := cost, currency := "KRW",
         observedAt, rowDigest }

/-- One record within the limit. -/
def readRecord (header : List String) (state : Import) (number firstLine : Nat) (record : Record) : Import :=
  match named header state.seen record.cells with
  | .error reason => state.refused number firstLine record.line reason.reason
  | .ok (values, sku) =>
      -- the name is taken even by a record that is refused below
      let state := { state with seen := sku :: state.seen }
      match rowOf hash fromisoformat values sku number firstLine record.line with
      | .error reason => state.refused number firstLine record.line reason.reason
      | .ok row => state.accepted row

/-- The loop, behind as many records and on this line. -/
def readRecords (header : List String) (ending : Ending) (state : Import) (number line : Nat) : List Record → Import
  | [] => match ending with
      | .stopped => state
      | .malformed last => state.refused (number + 1) (line + 1) last "malformed_csv"
  | record :: rest =>
      if maxRows < number + 1 then state.refused (number + 1) (line + 1) record.line "row_limit_exceeded"
      else readRecords header ending (readRecord hash fromisoformat header state (number + 1) (line + 1) record) (number + 1)
        record.line rest

/-- What is reported of the records behind a header. -/
def readFile (header : Record) (records : List Record) (ending : Ending) : Import :=
  let state := readRecords hash fromisoformat header.cells ending ⟨[], [], []⟩ 0 header.line records
  if state.rows = [] ∧ state.errors = [] then state.refused 0 1 header.line "empty_catalog" else state

/-- `parse_supplier_csv`; the hash of the file, its text and what the reader makes of it are parameters. -/
def parseSupplierCsv (sha256 : List UInt8 → String) (decode : List UInt8 → Option String) (reader : String → Reading)
    (payload : List UInt8) (supplierRef fileFormat : String) : Checked SupplierImportReport := do
  let _ ← identifier supplierRef
  require (fileFormat = "CSV") "unsupported_file_format"
  require (1 ≤ payload.length ∧ payload.length ≤ maxFileBytes) "invalid_file_size"
  let text ← given "utf8_required" (decode payload)
  let reading := reader text
  let header ← given "invalid_header" reading.header
  require (header.cells.length = headers.length ∧ header.cells ⊆ headers ∧ headers ⊆ header.cells) "header_schema_mismatch"
  let state := readFile hash fromisoformat header reading.records reading.ending
  pure { supplierRef, sourceDigest := sha256 payload, rows := state.rows, errors := state.errors }

end

/-! ## Conservation -/

/-- How many records there are behind those that have been read. -/
def Ending.unread : Ending → Nat
  | .stopped => 0
  | .malformed _ => 1

/-- How many records are told of: the first one beyond the limit and the one that cannot be read are among them. -/
def reached (records : List Record) (ending : Ending) : Nat :=
  if maxRows < records.length then maxRows + 1 else records.length + ending.unread

/-- The numbers that rows and errors have; an empty file has an error without a record. -/
def reported (records : List Record) (ending : Ending) : List Nat :=
  if reached records ending = 0 then [0] else List.range' 1 (reached records ending)

section

variable {hash : String → String} {fromisoformat : String → Option (Option Timestamp)}

/-- The row that an accepted record is read as. -/
def RowFrom (hash : String → String) (fromisoformat : String → Option (Option Timestamp)) (header : List String)
    (records : List Record) (row : SupplierFileRow) : Prop :=
  1 ≤ row.recordNumber ∧ ∃ record seen values, records[row.recordNumber - 1]? = some record ∧
    named header seen record.cells = .ok (values, row.supplierSku) ∧
    rowOf hash fromisoformat values row.supplierSku row.recordNumber row.firstLine record.line = .ok row

/-- Nothing is lost and nothing is told twice. -/
structure Accounted (hash : String → String) (fromisoformat : String → Option (Option Timestamp)) (header : Record)
    (records : List Record) (ending : Ending) (report : SupplierImportReport) : Prop where
  once : (report.rows.map SupplierFileRow.recordNumber ++ report.errors.map SupplierRowError.recordNumber).Perm
    (reported records ending)
  content : ∀ row ∈ report.rows, RowFrom hash fromisoformat header.cells records row
  distinct : (report.rows.map SupplierFileRow.supplierSku).Nodup
  ready : report.ready = true ↔ records ≠ [] ∧ ending = .stopped ∧ records.length ≤ maxRows ∧
    ∀ number ∈ List.range' 1 records.length, number ∈ report.rows.map SupplierFileRow.recordNumber

variable {header : List String} {ending : Ending} {state : Import} {count firstLine line : Nat} {record : Record}
  {records : List Record}

/-- The numbers of what has been reported of so far. -/
def Import.numbers (state : Import) : List Nat :=
  state.rows.map SupplierFileRow.recordNumber ++ state.errors.map SupplierRowError.recordNumber

theorem refused_numbers (last : Nat) (code : String) :
    (state.refused count firstLine last code).numbers = state.numbers ++ [count] := by
  simp [Import.numbers, Import.refused]

theorem accepted_numbers (row : SupplierFileRow) : (state.accepted row).numbers.Perm (state.numbers ++ [row.recordNumber]) := by
  simp only [Import.numbers, Import.accepted, List.map_append, List.map_cons, List.map_nil, List.append_assoc]
  exact List.perm_append_comm.append_left _

theorem rowOf_ok {values : List (String × String)} {sku : String} {last : Nat} {row : SupplierFileRow}
    (read : rowOf hash fromisoformat values sku count firstLine last = .ok row) :
    row.recordNumber = count ∧ row.firstLine = firstLine ∧ row.supplierSku = sku := by
  simp only [rowOf, except_bind_eq_ok] at read
  obtain ⟨_, -, _, -, _, -, _, -, _, -, _, -, _, -, made⟩ := read
  cases made
  exact ⟨rfl, rfl, rfl⟩

theorem named_fresh {seen cells : List String} {values : List (String × String)} {sku : String}
    (read : named header seen cells = .ok (values, sku)) : sku ∉ seen := by
  simp only [named, except_bind_eq_ok, require_eq_ok] at read
  obtain ⟨_, -, _, -, _, -, _, fresh, made⟩ := read
  cases made
  exact fresh

/-- A record within the limit becomes one row or one error. -/
inductive Reads (hash : String → String) (fromisoformat : String → Option (Option Timestamp)) (header : List String)
    (state : Import) (count firstLine : Nat) (record : Record) : Import → Prop where
  | refused (seen : List String) (code : String) (grown : state.seen ⊆ seen) :
      Reads hash fromisoformat header state count firstLine record
        ({ state with seen }.refused count firstLine record.line code)
  | accepted (values : List (String × String)) (row : SupplierFileRow)
      (known : named header state.seen record.cells = .ok (values, row.supplierSku))
      (read : rowOf hash fromisoformat values row.supplierSku count firstLine record.line = .ok row) :
      Reads hash fromisoformat header state count firstLine record
        ({ state with seen := row.supplierSku :: state.seen }.accepted row)

theorem readRecord_reads : Reads hash fromisoformat header state count firstLine record
    (readRecord hash fromisoformat header state count firstLine record) := by
  unfold readRecord
  split
  · exact .refused state.seen _ (List.Subset.refl _)
  · next values sku known =>
    dsimp only
    split
    · exact .refused _ _ (List.subset_cons_self _ _)
    · next row read =>
      obtain ⟨-, -, rfl⟩ := rowOf_ok read
      exact .accepted values row known read

theorem Reads.numbers {after : Import} (reads : Reads hash fromisoformat header state count firstLine record after) :
    after.numbers.Perm (state.numbers ++ [count]) := by
  cases reads with
  | refused seen code =>
    rw [refused_numbers]
    exact .refl _
  | accepted values row known read =>
    rw [← (rowOf_ok read).1]
    exact accepted_numbers row

/-- The names of the rows are distinct and have all been seen. -/
def Import.Named (state : Import) : Prop :=
  (state.rows.map SupplierFileRow.supplierSku).Nodup ∧ ∀ row ∈ state.rows, row.supplierSku ∈ state.seen

theorem Reads.names {after : Import} (reads : Reads hash fromisoformat header state count firstLine record after)
    (names : state.Named) : after.Named := by
  cases reads with
  | refused seen code grown => exact ⟨names.1, fun row member => grown (names.2 row member)⟩
  | accepted values row known read =>
    have fresh := named_fresh known
    constructor
    · simp only [Import.accepted, List.map_append, List.map_cons, List.map_nil]
      refine List.nodup_append.mpr ⟨names.1, List.nodup_singleton _, fun name member other same equal => fresh ?_⟩
      obtain ⟨earlier, among, rfl⟩ := List.mem_map.mp member
      rw [← List.mem_singleton.mp same, ← equal]
      exact names.2 earlier among
    · intro earlier member
      rcases List.mem_append.mp member with before | here
      · exact List.mem_cons_of_mem _ (names.2 earlier before)
      · rw [List.mem_singleton.mp here]
        exact List.mem_cons_self

theorem Reads.content {after : Import} {all before rest : List Record} (whole : all = before ++ record :: rest)
    (reads : Reads hash fromisoformat header state (before.length + 1) firstLine record after)
    (known : ∀ row ∈ state.rows, RowFrom hash fromisoformat header all row) :
    ∀ row ∈ after.rows, RowFrom hash fromisoformat header all row := by
  cases reads with
  | refused => exact known
  | accepted values row name read =>
    intro other member
    rcases List.mem_append.mp member with earlier | here
    · exact known other earlier
    · obtain rfl := List.mem_singleton.mp here
      obtain ⟨counted, lined, -⟩ := rowOf_ok read
      refine ⟨by omega, record, state.seen, values, ?_, name, ?_⟩
      · rw [counted, whole, Nat.add_sub_cancel, List.getElem?_append_right (Nat.le_refl _), Nat.sub_self]
        rfl
      · rw [counted, lined]
        exact read

/-! ### The whole loop -/

/-- What holds of the state behind the loop, by what held before it. -/
structure Looped (hash : String → String) (fromisoformat : String → Option (Option Timestamp)) (header : List String)
    (all : List Record) (count : Nat) (records : List Record) (ending : Ending) (state after : Import) : Prop where
  numbers : after.numbers.Perm (state.numbers ++ List.range' (count + 1)
    (if maxRows < count + records.length then maxRows + 1 - count else records.length + ending.unread))
  names : state.Named → after.Named
  content : (∀ row ∈ state.rows, RowFrom hash fromisoformat header all row) →
    ∀ row ∈ after.rows, RowFrom hash fromisoformat header all row
  complete : after.errors = [] → count + records.length ≤ maxRows ∧ ending = .stopped

theorem readRecords_looped {all before : List Record} (whole : all = before ++ records) (few : before.length ≤ maxRows) :
    Looped hash fromisoformat header all before.length records ending state
      (readRecords hash fromisoformat header ending state before.length line records) := by
  induction records generalizing before state line with
  | nil =>
    unfold readRecords
    cases ending with
    | stopped =>
      refine ⟨?_, id, id, fun _ => ⟨few, rfl⟩⟩
      rw [if_neg (by simpa using few)]
      simp [Ending.unread]
    | malformed last =>
      refine ⟨?_, id, id, fun none => absurd none (by simp [Import.refused])⟩
      rw [refused_numbers, if_neg (by simpa using few)]
      exact .refl _
  | cons record rest ih =>
    rw [readRecords]
    split
    · next full =>
      have exactly : maxRows + 1 - before.length = 1 := by omega
      refine ⟨?_, id, id, fun none => absurd none (by simp [Import.refused])⟩
      rw [refused_numbers, if_pos (by rw [List.length_cons]; omega), exactly]
      exact .refl _
    · next room =>
      have reads := @readRecord_reads hash fromisoformat header state (before.length + 1) (line + 1) record
      have whole' : all = (before ++ [record]) ++ rest := by rw [whole, List.append_assoc, List.singleton_append]
      have behind := @ih (readRecord hash fromisoformat header state (before.length + 1) (line + 1) record) record.line
        (before ++ [record]) whole' (by rw [List.length_append, List.length_singleton]; omega)
      rw [List.length_append, List.length_singleton] at behind
      have length : before.length + (record :: rest).length = before.length + 1 + rest.length := by
        rw [List.length_cons]
        omega
      refine ⟨?_, fun names => behind.names (reads.names names), fun known => behind.content (reads.content whole known),
        fun none => length ▸ behind.complete none⟩
      -- the record is the first of those that are still to be told of
      have counted : (if maxRows < before.length + (record :: rest).length then maxRows + 1 - before.length
          else (record :: rest).length + ending.unread) =
          (if maxRows < before.length + 1 + rest.length then maxRows + 1 - (before.length + 1)
            else rest.length + ending.unread) + 1 := by
        rw [List.length_cons]
        split <;> split <;> omega
      rw [counted, List.range'_succ]
      refine behind.numbers.trans ((reads.numbers.append_right _).trans ?_)
      rw [List.append_assoc, List.singleton_append]

variable {titles : Record} {supplierRef sourceDigest : String}

theorem readFile_accounted {after : Import} (read : readFile hash fromisoformat titles records ending = after) :
    Accounted hash fromisoformat titles records ending ⟨supplierRef, sourceDigest, after.rows, after.errors⟩ := by
  have looped := @readRecords_looped hash fromisoformat titles.cells ending ⟨[], [], []⟩ titles.line records records []
    rfl (Nat.zero_le _)
  rw [readFile] at read
  rw [List.length_nil] at looped
  generalize readRecords hash fromisoformat titles.cells ending ⟨[], [], []⟩ 0 titles.line records = state at looped read
  have numbers : state.numbers.Perm (List.range' 1 (reached records ending)) := by
    have known := looped.numbers
    simp only [Nat.zero_add, Nat.sub_zero] at known
    exact known
  have names := looped.names ⟨List.nodup_nil, List.forall_mem_nil _⟩
  have content := looped.content (List.forall_mem_nil _)
  have nothing : (state.rows = [] ∧ state.errors = []) ↔ reached records ending = 0 := by
    have sizes := numbers.length_eq
    simp only [Import.numbers, List.length_append, List.length_map, List.length_range'] at sizes
    rw [← List.length_eq_zero_iff, ← List.length_eq_zero_iff]
    omega
  split at read
  · next empty =>
    -- the file holds no record at all
    have none := nothing.mp empty
    subst read
    have no_records : records = [] := by
      unfold reached at none
      split at none
      · cases none
      · exact List.eq_nil_of_length_eq_zero (by omega)
    refine ⟨?_, ?_, ?_, ?_⟩
    · simp [Import.refused, empty, reported, none]
    · simp [Import.refused, empty]
    · simp [Import.refused, empty]
    · simp [SupplierImportReport.ready, Import.refused, empty, no_records]
  · next some =>
    subst read
    rw [nothing] at some
    refine ⟨?_, content, names.1, ?_⟩
    · rw [reported, if_neg some]
      exact numbers
    · simp only [SupplierImportReport.ready, Bool.and_eq_true, Bool.not_eq_true', List.isEmpty_iff, List.isEmpty_eq_false_iff]
      constructor
      · rintro ⟨-, none⟩
        obtain ⟨few, rfl⟩ := looped.complete none
        rw [Nat.zero_add] at few
        have all : reached records .stopped = records.length := if_neg (Nat.not_lt.mpr few)
        rw [all] at some numbers
        refine ⟨fun empty => some (by rw [empty]; rfl), rfl, few, fun number member => ?_⟩
        have told := numbers.mem_iff.mpr member
        simpa [Import.numbers, none] using told
      · rintro ⟨present, rfl, few, each⟩
        have all : reached records .stopped = records.length := if_neg (Nat.not_lt.mpr few)
        rw [all] at numbers
        -- the rows alone have all the numbers there are
        have enough := (List.subperm_of_subset (List.nodup_range' 1) each).length_le
        have sizes := numbers.length_eq
        simp only [Import.numbers, List.length_append, List.length_map, List.length_range'] at sizes enough
        have positive := List.length_pos_of_ne_nil present
        exact ⟨fun empty => by rw [empty, List.length_nil] at enough; omega, List.eq_nil_of_length_eq_zero (by omega)⟩

/-! ## Columns in another order -/

/-- The entries in the order of these positions. -/
def rearrange {α : Type} (order : List Nat) (entries : List α) : List α := order.filterMap fun position => entries[position]?

/-- A record in the order of the columns, if it has as many cells as there are columns. -/
def Record.rearranged (order : List Nat) (record : Record) : Record :=
  if record.cells.length = order.length then { record with cells := rearrange order record.cells } else record

def Reading.rearranged (order : List Nat) (reading : Reading) : Reading where
  header := reading.header.map (Record.rearranged order)
  records := reading.records.map (Record.rearranged order)
  ending := reading.ending

theorem rearrange_range {α : Type} (entries : List α) : rearrange (List.range entries.length) entries = entries := by
  induction entries with
  | nil => rfl
  | cons entry rest ih =>
    rw [rearrange, List.length_cons, List.range_succ_eq_map, List.filterMap_cons, List.filterMap_map]
    exact congrArg (entry :: ·) ih

theorem rearrange_perm {α : Type} {order : List Nat} {entries : List α} (all : order.Perm (List.range entries.length)) :
    (rearrange order entries).Perm entries :=
  (all.filterMap _).trans (List.Perm.of_eq (rearrange_range entries))

theorem zip_rearrange {α β : Type} {order : List Nat} {first : List α} {second : List β} (same : first.length = second.length)
    (inside : ∀ position ∈ order, position < first.length) :
    (rearrange order first).zip (rearrange order second) = rearrange order (first.zip second) := by
  induction order with
  | nil => rfl
  | cons position rest ih =>
    obtain ⟨here, others⟩ := List.forall_mem_cons.mp inside
    have there : position < second.length := same ▸ here
    have both : position < (first.zip second).length := by rw [List.length_zip, ← same, Nat.min_self]; exact here
    have behind := ih others
    unfold rearrange at behind ⊢
    rw [List.filterMap_cons_some (List.getElem?_eq_getElem here), List.filterMap_cons_some (List.getElem?_eq_getElem there),
      List.filterMap_cons_some (List.getElem?_eq_getElem both), List.zip_cons_cons, behind, List.getElem_zip]

/-! ### The values of a record -/

theorem find?_perm {first second : List (String × String)} (perm : first.Perm second) (distinct : (first.map Prod.fst).Nodup)
    (key : String) : (first.find? fun entry => entry.1 = key) = second.find? fun entry => entry.1 = key := by
  induction perm with
  | nil => rfl
  | cons entry _ ih =>
    rw [List.find?_cons, List.find?_cons, ih (List.nodup_cons.mp distinct).2]
  | swap one other rest =>
    simp only [List.map_cons, List.nodup_cons, List.mem_cons, not_or] at distinct
    simp only [List.find?_cons]
    split <;> split <;> simp_all
  | trans left _ first_ih second_ih =>
    exact (first_ih distinct).trans (second_ih ((left.map Prod.fst).nodup_iff.mp distinct))

variable {values others : List (String × String)}

theorem valueOf_perm (perm : values.Perm others) (distinct : (values.map Prod.fst).Nodup) (key : String) :
    valueOf values key = valueOf others key := by
  rw [valueOf, valueOf, find?_perm perm distinct]

theorem identityOf_perm (perm : values.Perm others) (distinct : (values.map Prod.fst).Nodup) (keys : List String) :
    identityOf values keys = identityOf others keys := by
  induction keys with
  | nil => rfl
  | cons key rest ih => rw [identityOf, identityOf, valueOf_perm perm distinct, ih]

/-- The order of the columns makes no difference for the row of a record. -/
theorem rowOf_perm (perm : values.Perm others) (distinct : (values.map Prod.fst).Nodup) (sku : String) (last : Nat) :
    rowOf hash fromisoformat values sku count firstLine last = rowOf hash fromisoformat others sku count firstLine last := by
  have entries := perm.map fun entry => (entry.1, Json.text entry.2)
  have names : ((values.map fun entry => (entry.1, Json.text entry.2)).map Prod.fst).Nodup := by
    rw [List.map_map]
    exact distinct
  have digest : digestOf hash (.object (values.map fun entry => (entry.1, .text entry.2))) =
      digestOf hash (.object (others.map fun entry => (entry.1, .text entry.2))) := by
    have text := congrArg (fun value => String.ofList (Json.chars value)) (Json.sortKeys_perm entries names)
    change Json.canonical _ = Json.canonical _ at text
    rw [digestOf, digestOf, canonicalJson, canonicalJson, text]
  simp only [rowOf, valueOf_perm perm distinct, identityOf_perm perm distinct, digest]

theorem checkCells_eq_ok {cells : List String} {u : Unit} : checkCells cells = .ok u ↔ ∀ value ∈ cells, cell value = .ok () := by
  induction cells with
  | nil => simp [checkCells, pure, Except.pure]
  | cons value rest ih =>
    simp only [checkCells, except_bind_eq_ok, List.forall_mem_cons]
    constructor
    · rintro ⟨_, first, others⟩
      exact ⟨first, ih.mp others⟩
    · rintro ⟨first, others⟩
      exact ⟨(), first, ih.mpr others⟩

theorem identifier_eq_ok {given value : String} : identifier given = .ok value ↔ value = given ∧ externalId given = true := by
  simp only [identifier, except_bind_eq_ok, require_eq_ok, pure, Except.pure, Except.ok.injEq]
  exact ⟨fun ⟨_, accepted, same⟩ => ⟨same.symm, accepted⟩, fun ⟨same, accepted⟩ => ⟨(), accepted, same.symm⟩⟩

theorem named_eq_ok {seen cells : List String} {sku : String} : named header seen cells = .ok (values, sku) ↔
    cells.length = header.length ∧ (∀ value ∈ cells, cell value = .ok ()) ∧ values = header.zip cells ∧
      valueOf values "supplier_sku" = .ok sku ∧ externalId sku = true ∧ sku ∉ seen := by
  simp only [named, except_bind_eq_ok, require_eq_ok, checkCells_eq_ok, identifier_eq_ok, pure, Except.pure, Except.ok.injEq,
    Prod.mk.injEq]
  constructor
  · rintro ⟨_, length, _, cells, _, ⟨_, found, rfl, accepted⟩, _, fresh, rfl, rfl⟩
    exact ⟨length, cells, rfl, found, accepted, fresh⟩
  · rintro ⟨length, cells, rfl, found, accepted, fresh⟩
    exact ⟨(), length, (), cells, sku, ⟨sku, found, rfl, accepted⟩, (), fresh, rfl, rfl⟩

/-- The columns of a file, and their new order. -/
structure Columns (header : List String) (order : List Nat) : Prop where
  distinct : header.Nodup
  all : order.Perm (List.range header.length)

variable {order : List Nat} {seen cells : List String}

theorem Columns.length (columns : Columns header order) : order.length = header.length := by
  rw [columns.all.length_eq, List.length_range]

theorem Columns.header_perm (columns : Columns header order) : (rearrange order header).Perm header :=
  rearrange_perm columns.all

theorem Columns.cells_perm (columns : Columns header order) (length : cells.length = header.length) :
    (rearrange order cells).Perm cells :=
  rearrange_perm (length ▸ columns.all)

theorem Columns.names (columns : Columns header order) (length : cells.length = header.length) :
    ((header.zip cells).map Prod.fst).Nodup := by
  rw [List.map_fst_zip length.ge]
  exact columns.distinct

theorem Columns.zip_perm (columns : Columns header order) (length : cells.length = header.length) :
    (header.zip cells).Perm ((rearrange order header).zip (rearrange order cells)) := by
  have lengths : (header.zip cells).length = header.length := by rw [List.length_zip, length, Nat.min_self]
  rw [zip_rearrange length.symm fun position member => List.mem_range.mp (columns.all.mem_iff.mp member)]
  exact (rearrange_perm (lengths ▸ columns.all)).symm

/-- A record passes for named in both orders or in none. -/
theorem Columns.named_iff (columns : Columns header order) (length : cells.length = header.length) (sku : String) :
    named header seen cells = .ok (header.zip cells, sku) ↔ named (rearrange order header) seen (rearrange order cells) =
      .ok ((rearrange order header).zip (rearrange order cells), sku) := by
  have moved_length : (rearrange order cells).length = (rearrange order header).length := by
    rw [(columns.cells_perm length).length_eq, columns.header_perm.length_eq, length]
  have fits : (∀ value ∈ rearrange order cells, cell value = .ok ()) ↔ ∀ value ∈ cells, cell value = .ok () :=
    forall_congr' fun value => by rw [(columns.cells_perm length).mem_iff]
  simp only [named_eq_ok, length, moved_length, fits, valueOf_perm (columns.zip_perm length) (columns.names length)]

/-- What does not depend on the order of the columns. -/
structure Alike (first second : Import) : Prop where
  rows : first.rows = second.rows
  seen : first.seen = second.seen
  errors : first.errors.map SupplierRowError.recordNumber = second.errors.map SupplierRowError.recordNumber

theorem Alike.refused {first second : Import} (alike : Alike first second) (number one other last next : Nat)
    (code reason : String) : Alike (first.refused number one last code) (second.refused number other next reason) where
  rows := alike.rows
  seen := alike.seen
  errors := by simp [Import.refused, alike.errors]

theorem named_length {u : List (String × String) × String} (read : named header seen cells = .ok u) :
    cells.length = header.length := (named_eq_ok.mp read).1

theorem rearranged_line : (record.rearranged order).line = record.line := by
  unfold Record.rearranged
  split <;> rfl

theorem readRecord_alike (columns : Columns header order) {other : Import} (alike : Alike state other) :
    Alike (readRecord hash fromisoformat header state count firstLine record)
      (readRecord hash fromisoformat (rearrange order header) other count firstLine (record.rearranged order)) := by
  unfold readRecord
  rw [alike.seen, rearranged_line]
  by_cases length : record.cells.length = header.length
  · have cells : (record.rearranged order).cells = rearrange order record.cells := by
      rw [Record.rearranged, if_pos (length.trans columns.length.symm)]
    rw [cells]
    split
    · next reason refused =>
      split
      · exact alike.refused ..
      · next values sku known =>
        -- it would have been accepted in the first order as well
        obtain ⟨-, -, rfl, -⟩ := named_eq_ok.mp known
        rw [(columns.named_iff length sku).mpr known] at refused
        cases refused
    · next values sku known =>
      obtain ⟨-, -, rfl, -⟩ := named_eq_ok.mp known
      rw [(columns.named_iff length sku).mp known]
      dsimp only
      rw [← rowOf_perm (columns.zip_perm length) (columns.names length)]
      have grown : Alike { state with seen := sku :: other.seen } { other with seen := sku :: other.seen } :=
        ⟨alike.rows, rfl, alike.errors⟩
      split
      · exact grown.refused ..
      · next row _ => exact ⟨by simp only [Import.accepted, alike.rows], rfl, alike.errors⟩
  · -- such a record is left as it is, and fits into neither order
    have cells : (record.rearranged order).cells = record.cells := by
      rw [Record.rearranged, if_neg fun same => length (same.trans columns.length)]
    rw [cells]
    split
    · split
      · exact alike.refused ..
      · next known => exact absurd ((named_length known).trans columns.header_perm.length_eq) length
    · next known => exact absurd (named_length known) length

theorem readRecords_alike (columns : Columns header order) {other : Import} (alike : Alike state other) :
    Alike (readRecords hash fromisoformat header ending state count line records)
      (readRecords hash fromisoformat (rearrange order header) ending other count line
        (records.map (Record.rearranged order))) := by
  induction records generalizing state other count line with
  | nil =>
    unfold readRecords
    cases ending with
    | stopped => exact alike
    | malformed last => exact alike.refused ..
  | cons record rest ih =>
    rw [List.map_cons, readRecords, readRecords, rearranged_line]
    split
    · exact alike.refused ..
    · exact ih (readRecord_alike columns alike)

/-- The order of the columns changes neither the rows nor the numbers of the errors. -/
theorem readFile_alike (columns : Columns titles.cells order) : Alike (readFile hash fromisoformat titles records ending)
    (readFile hash fromisoformat (titles.rearranged order) (records.map (Record.rearranged order)) ending) := by
  have cells : (titles.rearranged order).cells = rearrange order titles.cells := by
    rw [Record.rearranged, if_pos columns.length.symm]
  have alike := @readRecords_alike hash fromisoformat titles.cells ending ⟨[], [], []⟩ 0 titles.line records order columns
    ⟨[], [], []⟩ ⟨rfl, rfl, rfl⟩
  unfold readFile
  rw [cells, rearranged_line]
  generalize readRecords hash fromisoformat titles.cells ending ⟨[], [], []⟩ 0 titles.line records = first at alike
  generalize readRecords hash fromisoformat (rearrange order titles.cells) ending ⟨[], [], []⟩ 0 titles.line
    (records.map (Record.rearranged order)) = second at alike
  have empty : (first.rows = [] ∧ first.errors = []) ↔ second.rows = [] ∧ second.errors = [] := by
    rw [alike.rows, ← List.map_eq_nil_iff (f := SupplierRowError.recordNumber), alike.errors, List.map_eq_nil_iff]
  dsimp only
  rw [if_congr empty rfl rfl]
  split
  · exact alike.refused ..
  · exact alike

/-! ## Files -/

/-- The header has each name once. -/
theorem header_perm {cells : List String} (length : cells.length = headers.length) (whole : headers ⊆ cells) :
    headers.Perm cells :=
  (List.subperm_of_subset (by decide) whole).perm_of_length_le length.le

variable {sha256 : List UInt8 → String} {decode : List UInt8 → Option String} {reader : String → Reading}
  {payload : List UInt8} {fileFormat : String} {report : SupplierImportReport}

theorem given_eq_ok {α : Type} {reason : String} {found : Option α} {value : α} :
    given reason found = .ok value ↔ found = some value := by
  cases found <;> simp [given, pure, Except.pure]

/-- What a file that is parsed holds. -/
theorem parseSupplierCsv_eq_ok : parseSupplierCsv hash fromisoformat sha256 decode reader payload supplierRef fileFormat =
      .ok report ↔ externalId supplierRef = true ∧ fileFormat = "CSV" ∧ (1 ≤ payload.length ∧ payload.length ≤ maxFileBytes) ∧
    ∃ text titles, decode payload = some text ∧ (reader text).header = some titles ∧
      (titles.cells.length = headers.length ∧ titles.cells ⊆ headers ∧ headers ⊆ titles.cells) ∧
      report = ⟨supplierRef, sha256 payload,
        (readFile hash fromisoformat titles (reader text).records (reader text).ending).rows,
        (readFile hash fromisoformat titles (reader text).records (reader text).ending).errors⟩ := by
  simp only [parseSupplierCsv, except_bind_eq_ok, require_eq_ok, identifier_eq_ok, given_eq_ok]
  constructor
  · rintro ⟨_, ⟨-, accepted⟩, _, format, _, size, text, decoded, titles, headed, _, known, made⟩
    exact ⟨accepted, format, size, text, titles, decoded, headed, known, (Except.ok.inj made).symm⟩
  · rintro ⟨accepted, format, size, text, titles, decoded, headed, known, rfl⟩
    exact ⟨_, ⟨rfl, accepted⟩, (), format, (), size, text, decoded, titles, headed, (), known, rfl⟩

/-- Every record is told of once, also when the columns stand in another order. -/
theorem supplier_file_conserved
    (parsed : parseSupplierCsv hash fromisoformat sha256 decode reader payload supplierRef fileFormat = .ok report) :
    ∃ text titles, decode payload = some text ∧ (reader text).header = some titles ∧
      Accounted hash fromisoformat titles (reader text).records (reader text).ending report ∧
      ∀ (order : List Nat) (other : List UInt8) (written : String), order.Perm (List.range headers.length) →
        decode other = some written → reader written = (reader text).rearranged order →
        1 ≤ other.length ∧ other.length ≤ maxFileBytes →
        ∃ again, parseSupplierCsv hash fromisoformat sha256 decode reader other supplierRef fileFormat = .ok again ∧
          again.rows = report.rows ∧
          again.errors.map SupplierRowError.recordNumber = report.errors.map SupplierRowError.recordNumber := by
  obtain ⟨accepted, format, -, text, titles, shown, headed, ⟨length, only, whole⟩, rfl⟩ := parseSupplierCsv_eq_ok.mp parsed
  refine ⟨text, titles, shown, headed, readFile_accounted rfl, fun order other written all decoded read size => ?_⟩
  have names := header_perm length whole
  have columns : Columns titles.cells order := ⟨names.nodup_iff.mp (by decide), length ▸ all⟩
  have alike := @readFile_alike hash fromisoformat (reader text).ending (reader text).records titles order columns
  have cells : (titles.rearranged order).cells = rearrange order titles.cells := by
    rw [Record.rearranged, if_pos columns.length.symm]
  have perm : (titles.rearranged order).cells.Perm titles.cells := cells ▸ columns.header_perm
  have again : (reader written).header = some (titles.rearranged order) := by
    rw [read, Reading.rearranged, headed]
    rfl
  refine ⟨_, parseSupplierCsv_eq_ok.mpr ⟨accepted, format, size, written, _, decoded, again,
    ⟨perm.length_eq.trans length, fun name member => only (perm.mem_iff.mp member),
      fun name member => perm.mem_iff.mpr (whole member)⟩, rfl⟩, ?_, ?_⟩
  · rw [read]
    exact alike.rows.symm
  · rw [read]
    exact alike.errors.symm

/-! ### A file of two records -/

def sampleReading : Reading where
  header := some ⟨headers, 1⟩
  records := [⟨["sku-1", "b", "m", "b", "s", "c", "x", "3", "100", "KRW", "2026-01-01T00:00:00Z"], 2⟩, ⟨["sku-2"], 3⟩]
  ending := .stopped

def sampleRow : SupplierFileRow where
  recordNumber := 1
  firstLine := 2
  lastLine := 2
  supplierSku := "sku-1"
  identity := [("barcode", "b"), ("model", "m"), ("brand", "b"), ("spec", "s"), ("color", "c"), ("configuration", "x")]
  quantity := 3
  unitCostMinor := 100
  currency := "KRW"
  observedAt := "2026-01-01T00:00:00Z"
  rowDigest := sampleDigest

theorem sample_parsed : parseSupplierCsv (fun _ => sampleDigest) (fun _ => some (some (.utc 0))) (fun _ => sampleDigest)
    (fun _ => some "file") (fun _ => sampleReading) [1] "supplier" "CSV" =
      .ok ⟨"supplier", sampleDigest, [sampleRow], [⟨2, 3, 3, "column_count_mismatch"⟩]⟩ := by
  decide +kernel

theorem sample_file_conserved : ∃ text titles, some "file" = some text ∧ sampleReading.header = some titles ∧
    Accounted (fun _ => sampleDigest) (fun _ => some (some (.utc 0))) titles sampleReading.records sampleReading.ending
      ⟨"supplier", sampleDigest, [sampleRow], [⟨2, 3, 3, "column_count_mismatch"⟩]⟩ ∧
    ∀ (order : List Nat) (other : List UInt8) (written : String), order.Perm (List.range headers.length) →
      some "file" = some written → sampleReading = sampleReading.rearranged order →
      1 ≤ other.length ∧ other.length ≤ maxFileBytes →
      ∃ again, parseSupplierCsv (fun _ => sampleDigest) (fun _ => some (some (.utc 0))) (fun _ => sampleDigest)
          (fun _ => some "file") (fun _ => sampleReading) other "supplier" "CSV" = .ok again ∧
        again.rows = [sampleRow] ∧ again.errors.map SupplierRowError.recordNumber = [2] :=
  supplier_file_conserved sample_parsed

/-! ## What the listing and catalog reviews read of a report -/

def SupplierFileRow.summary (row : SupplierFileRow) : Offline.SupplierFileRow :=
  ⟨row.supplierSku, row.quantity, row.unitCostMinor, row.currency, row.observedAt, row.rowDigest⟩

def SupplierImportReport.summary (report : SupplierImportReport) : Offline.SupplierImportReport :=
  ⟨report.supplierRef, report.sourceDigest, report.rows.map SupplierFileRow.summary, report.errors.map SupplierRowError.code⟩

theorem ready_summary (report : SupplierImportReport) : report.summary.ready = report.ready := by
  cases report with
  | mk supplierRef sourceDigest rows errors => cases rows <;> cases errors <;> rfl

end

end AiStore.Offline.SupplierFile
