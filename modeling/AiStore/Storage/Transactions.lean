import AiStore.Library.Dict

/-! Nested transactions of the two repositories.

The body of a `transaction()` block is any work on the tables: it reads and
writes them, opens further blocks, raises, and catches what inner work raised.
-/

set_option autoImplicit false

namespace AiStore.Storage

open Library (Dict)

/-! ## Work on the tables -/

/-- What a statement raises: an `Exception`, or a `BaseException` that is none, such as an interruption. -/
inductive Raised where
  | exception
  | interruption
  deriving DecidableEq, Repr

abbrev Ended := Except Raised Unit

/-- Work in and around transaction blocks. Each write changes the tables the way the repository's writes do. -/
inductive Work (σ : Type) (Writes : σ → σ → Prop) where
  | done
  | write (change : σ → σ) (writes : ∀ tables, Writes tables (change tables))
  | reading (next : σ → Work σ Writes)
  | raise (what : Raised)
  | seq (first second : Work σ Writes)
  | transaction (body : Work σ Writes)
  | catching (caught : Raised → Bool) (body : Work σ Writes)

/-- A repository: the tables it shows, how it writes them, and its `transaction` around a body. -/
structure Engine (σ τ : Type) where
  tables : τ → σ
  write : (σ → σ) → τ → τ
  transaction : (τ → Ended × τ) → τ → Ended × τ

variable {σ τ : Type} {Writes : σ → σ → Prop}

def Work.run (engine : Engine σ τ) : Work σ Writes → τ → Ended × τ
  | .done, state => (.ok (), state)
  | .write change _, state => (.ok (), engine.write change state)
  | .reading next, state => (next (engine.tables state)).run engine state
  | .raise what, state => (.error what, state)
  | .seq first second, state => match first.run engine state with
      | (.ok (), middle) => second.run engine middle
      | (.error what, middle) => (.error what, middle)
  | .transaction body, state => engine.transaction (body.run engine) state
  | .catching caught body, state => match body.run engine state with
      | (.ok (), after) => (.ok (), after)
      | (.error what, after) => if caught what then (.ok (), after) else (.error what, after)

/-- All or nothing: a block that is left by whatever was raised leaves the tables as it found them. -/
def allOrNothing : Engine σ σ where
  tables := id
  write change tables := change tables
  transaction body tables := match body tables with
    | (.ok (), after) => (.ok (), after)
    | (.error what, _) => (.error what, tables)

theorem run_allOrNothing_transaction (body : Work σ Writes) (tables : σ) :
    (Work.transaction body).run allOrNothing tables = match body.run allOrNothing tables with
      | (.ok (), after) => (.ok (), after)
      | (.error what, _) => (.error what, tables) := rfl

/-- No block of the work is left by an interruption. -/
def Work.Uninterrupted : Work σ Writes → σ → Prop
  | .done, _ | .write .., _ | .raise _, _ => True
  | .reading next, tables => (next tables).Uninterrupted tables
  | .seq first second, tables => first.Uninterrupted tables ∧
      ((first.run allOrNothing tables).1 = .ok () → second.Uninterrupted (first.run allOrNothing tables).2)
  | .transaction body, tables => body.Uninterrupted tables ∧
      (body.run allOrNothing tables).1 ≠ .error .interruption
  | .catching _ body, tables => body.Uninterrupted tables

/-! ## The snapshots of `InMemoryRepository` -/

namespace InMemory

variable {ν : Type} {κ υ : ν → Type} {ρ : Type}

/-- The attributes of the repository: its dictionaries by name, and the rest. -/
structure Memory {ν : Type} (κ υ : ν → Type) (ρ : Type) where
  tables : ∀ name, Dict (κ name) (υ name)
  rest : ρ

/-- The repository's writes bind keys and never delete one. -/
def Binds (before after : Memory κ υ ρ) : Prop :=
  ∀ name, (before.tables name).entries.map Prod.fst <+: (after.tables name).entries.map Prod.fst

theorem Binds.refl (memory : Memory κ υ ρ) : Binds memory memory := fun _ => List.prefix_rfl

theorem Binds.trans {first second third : Memory κ υ ρ} (left : Binds first second) (right : Binds second third) :
    Binds first third := fun name => (left name).trans (right name)

theorem run_binds (work : Work (Memory κ υ ρ) Binds) (memory : Memory κ υ ρ) :
    Binds memory (work.run allOrNothing memory).2 := by
  induction work generalizing memory with
  | done => exact .refl _
  | write change writes => exact writes memory
  | reading next ih => exact ih memory memory
  | raise what => exact .refl _
  | seq first second first_ih second_ih =>
    have start := first_ih memory
    rw [Work.run]
    rcases ran : first.run allOrNothing memory with ⟨_ | _, middle⟩ <;> rw [ran] at start
    · exact start
    · exact start.trans (second_ih middle)
  | transaction body ih =>
    have start := ih memory
    rw [run_allOrNothing_transaction]
    rcases ran : body.run allOrNothing memory with ⟨_ | _, after⟩ <;> rw [ran] at start
    · exact .refl _
    · exact start
  | catching caught body ih =>
    have start := ih memory
    rw [Work.run]
    rcases ran : body.run allOrNothing memory with ⟨what | _, after⟩ <;> rw [ran] at start
    · dsimp only
      split <;> exact start
    · exact start

variable [∀ name, DecidableEq (κ name)] [∀ name, DecidableEq (υ name)]

/-- Delete the keys that are new, then write back the values that differ. -/
def restoreTable {key value : Type} [DecidableEq key] [DecidableEq value] (previous current : Dict key value) :
    Dict key value :=
  previous.entries.foldl (fun dict entry => if dict.get? entry.1 = some entry.2 then dict else dict.set entry.1 entry.2)
    (current.retain fun name => (previous.get? name).isSome)

def restore (snapshot current : Memory κ υ ρ) : Memory κ υ ρ where
  tables name := restoreTable (snapshot.tables name) (current.tables name)
  rest := snapshot.rest

/-- `InMemoryRepository.transaction`. -/
def repository : Engine (Memory κ υ ρ) (Memory κ υ ρ) where
  tables := id
  write change memory := change memory
  transaction body memory := match body memory with
    | (.ok (), after) => (.ok (), after)
    | (.error what, after) => (.error what, restore memory after)

/-! ### A snapshot is restored as it was -/

section

variable {key value : Type} [DecidableEq key] [DecidableEq value]

/-- Writing an entry back keeps the keys and binds that one. -/
theorem writeBack_spec (dict : Dict key value) (entry : key × value) (bound : entry.1 ∈ dict.entries.map Prod.fst) :
    let written := if dict.get? entry.1 = some entry.2 then dict else dict.set entry.1 entry.2
    written.entries.map Prod.fst = dict.entries.map Prod.fst ∧
      ∀ other, written.get? other = if entry.1 = other then some entry.2 else dict.get? other := by
  dsimp only
  split
  · next same =>
    refine ⟨rfl, ?_⟩
    intro other
    split
    · next here => rw [← here, same]
    · rfl
  · exact ⟨Dict.keys_set_of_mem dict entry.2 bound, fun other => Dict.get?_set dict entry.1 other entry.2⟩

theorem writeBack_all (entries : List (key × value)) (unique : (entries.map Prod.fst).Nodup) (dict : Dict key value)
    (bound : ∀ entry ∈ entries, entry.1 ∈ dict.entries.map Prod.fst) :
    let written := entries.foldl
      (fun dict entry => if dict.get? entry.1 = some entry.2 then dict else dict.set entry.1 entry.2) dict
    written.entries.map Prod.fst = dict.entries.map Prod.fst ∧ ∀ other, written.get? other =
      (Library.lookupEntry entries other).elim (dict.get? other) some := by
  induction entries generalizing dict with
  | nil => exact ⟨rfl, fun _ => rfl⟩
  | cons entry rest ih =>
    obtain ⟨keys, values⟩ := writeBack_spec dict entry (bound entry List.mem_cons_self)
    simp only [List.map_cons, List.nodup_cons] at unique
    obtain ⟨rest_keys, rest_values⟩ := ih unique.2 _ fun other member => by
      rw [keys]
      exact bound other (List.mem_cons_of_mem _ member)
    refine ⟨rest_keys.trans keys, ?_⟩
    intro other
    rw [List.foldl_cons, rest_values, values]
    by_cases here : entry.1 = other
    · -- the key is not written again by the rest
      have absent : Library.lookupEntry rest other = none := by
        rw [Library.lookupEntry_eq_none, ← here]
        exact unique.1
      simp [Library.lookupEntry, here, absent]
    · simp [Library.lookupEntry, here]

theorem restoreTable_eq {previous current : Dict key value}
    (binds : previous.entries.map Prod.fst <+: current.entries.map Prod.fst) :
    restoreTable previous current = previous := by
  obtain ⟨fresh, split⟩ := binds
  have known : ∀ name, (previous.get? name).isSome = true ↔ name ∈ previous.entries.map Prod.fst := by
    intro name
    rw [Option.isSome_iff_ne_none, ne_eq, Dict.get?, Library.lookupEntry_eq_none, not_not]
  have retained : (current.retain fun name => (previous.get? name).isSome).entries.map Prod.fst =
      previous.entries.map Prod.fst := by
    have unique := current.unique
    rw [← split, List.nodup_append] at unique
    rw [Dict.keys_retain, ← split, List.filter_append, List.filter_eq_self.mpr fun name => (known name).mpr,
      List.filter_eq_nil_iff.mpr, List.append_nil]
    intro name new old
    exact unique.2.2 name ((known name).mp old) name new rfl
  obtain ⟨keys, values⟩ := writeBack_all previous.entries previous.unique
    (current.retain fun name => (previous.get? name).isSome) fun entry member => by
      rw [retained]
      exact List.mem_map_of_mem member
  apply Dict.ext_of_keys (keys.trans retained)
  intro name member
  refine (values name).trans ?_
  have bound := (known name).mpr member
  simp only [Dict.get?] at bound ⊢
  rcases looked : Library.lookupEntry previous.entries name with _ | value
  · rw [looked] at bound
    cases bound
  · rfl

end

theorem restore_eq {snapshot current : Memory κ υ ρ} (binds : Binds snapshot current) :
    restore snapshot current = snapshot := by
  obtain ⟨tables, rest⟩ := snapshot
  have same : (fun name => restoreTable (tables name) (current.tables name)) = tables := by
    funext name
    exact restoreTable_eq (binds name)
  rw [restore, same]

/-- The repository in memory does what all or nothing says, whatever was raised. -/
theorem run_repository (work : Work (Memory κ υ ρ) Binds) (memory : Memory κ υ ρ) :
    work.run repository memory = work.run allOrNothing memory := by
  induction work generalizing memory with
  | done | write | raise => rfl
  | reading next ih => exact ih memory memory
  | seq first second first_ih second_ih =>
    rw [Work.run, Work.run, first_ih]
    rcases first.run allOrNothing memory with ⟨_ | _, middle⟩
    · rfl
    · exact second_ih middle
  | transaction body ih =>
    have binds := run_binds body memory
    rw [run_allOrNothing_transaction]
    change (match body.run repository memory with
      | (.ok (), after) => _
      | (.error what, after) => _) = _
    rw [ih]
    rcases ran : body.run allOrNothing memory with ⟨what | _, after⟩
    · rw [ran] at binds
      exact congrArg (Prod.mk (Except.error what)) (restore_eq binds)
    · rfl
  | catching caught body ih => rw [Work.run, Work.run, ih]

end InMemory

/-! ## The savepoints of `SQLiteRepository` -/

namespace Sqlite

/-- A connection: what it sees, what others see, its transaction and savepoints with the tables at their opening,
innermost first, and the repository's `_depth`. -/
structure Connection (σ : Type) where
  tables : σ
  committed : σ
  frames : List (Option String × σ)
  depth : Nat

inductive Statement where
  | beginImmediate
  | savepoint (name : String)
  | rollback
  | rollbackTo (name : String)
  | release (name : String)
  | commit

/-- The frames from the innermost savepoint of that name outwards. -/
def framesFrom (frames : List (Option String × σ)) (name : String) : List (Option String × σ) :=
  frames.dropWhile fun frame => frame.1 ≠ some name

/-- `connection.execute`; `none` is an `OperationalError`. -/
def execute (connection : Connection σ) : Statement → Option (Connection σ)
  | .beginImmediate => match connection.frames with
      | [] => some { connection with frames := [(none, connection.tables)] }
      | _ :: _ => none
  | .savepoint name => some { connection with frames := (some name, connection.tables) :: connection.frames }
  | .rollback => match connection.frames.getLast? with
      | none => none
      | some (_, base) => some { connection with tables := base, frames := [] }
  | .rollbackTo name => match framesFrom connection.frames name with
      | [] => none
      | (_, saved) :: outer => some { connection with tables := saved, frames := (some name, saved) :: outer }
  | .release name => match framesFrom connection.frames name with
      | [] => none
      | [_] => some { connection with frames := [], committed := connection.tables }
      | _ :: next :: outer => some { connection with frames := next :: outer }
  | .commit => match connection.frames with
      | [] => none
      | _ :: _ => some { connection with frames := [], committed := connection.tables }

/-- Statements in turn, up to the first that fails. -/
def executeAll (connection : Connection σ) : List Statement → Ended × Connection σ
  | [] => (.ok (), connection)
  | statement :: rest => match execute connection statement with
      | none => (.error .exception, connection)
      | some after => executeAll after rest

def savepointName (depth : Nat) : String := "uow_" ++ toString depth

/-- A write outside a transaction is committed at once. -/
def write (change : σ → σ) (connection : Connection σ) : Connection σ :=
  { connection with
    tables := change connection.tables
    committed := if connection.frames = [] then change connection.tables else connection.committed }

/-- The depth goes down first, then the statements for the depth reached are executed. -/
def leave (connection : Connection σ) (statements : Nat → List Statement) (ended : Ended) : Ended × Connection σ :=
  match executeAll { connection with depth := connection.depth - 1 } (statements (connection.depth - 1)) with
  | (.ok (), after) => (ended, after)
  | (.error what, after) => (.error what, after)

/-- `SQLiteRepository.transaction`; its `except Exception` lets an interruption through untouched. -/
def repository : Engine σ (Connection σ) where
  tables := Connection.tables
  write := write
  transaction body connection :=
    let name := savepointName connection.depth
    match execute connection (if connection.depth = 0 then .beginImmediate else .savepoint name) with
    | none => (.error .exception, connection)
    | some opened => match body { opened with depth := opened.depth + 1 } with
      | (.ok (), left) => leave left (fun depth => if depth = 0 then [.commit] else [.release name]) (.ok ())
      | (.error .exception, left) => leave left
          (fun depth => if depth = 0 then [.rollback] else [.rollbackTo name, .release name]) (.error .exception)
      | (.error .interruption, left) => (.error .interruption, left)

/-! ### Blocks that no interruption leaves -/

/-- `_depth` counts the open frames, and without one everything is committed. -/
structure Balanced (connection : Connection σ) : Prop where
  depth : connection.depth = connection.frames.length
  settled : connection.frames = [] → connection.committed = connection.tables

/-- The connection after work that left it these tables, with the frames and the depth it had. -/
def showing (connection : Connection σ) (tables : σ) : Connection σ :=
  { connection with
    tables := tables
    committed := if connection.frames = [] then tables else connection.committed }

theorem Balanced.shown {connection : Connection σ} (balanced : Balanced connection) (tables : σ) :
    Balanced (showing connection tables) where
  depth := balanced.depth
  settled idle := if_pos idle

theorem showing_showing (connection : Connection σ) (first second : σ) :
    showing (showing connection first) second = showing connection second := by
  simp only [showing]
  split <;> rfl

theorem Balanced.showing_self {connection : Connection σ} (balanced : Balanced connection) :
    showing connection connection.tables = connection := by
  obtain ⟨tables, committed, frames, depth⟩ := connection
  simp only [showing]
  split
  · next idle =>
    have settled : committed = tables := balanced.settled idle
    rw [settled]
  · rfl

/-- The connection inside a block. -/
def opened (connection : Connection σ) : Connection σ :=
  { connection with
    frames := (if connection.depth = 0 then none else some (savepointName connection.depth), connection.tables) ::
      connection.frames
    depth := connection.depth + 1 }

theorem Balanced.inside {connection : Connection σ} (balanced : Balanced connection) : Balanced (opened connection) where
  depth := congrArg (· + 1) balanced.depth
  settled idle := by cases idle

theorem transaction_opened {connection : Connection σ} (balanced : Balanced connection)
    (body : Connection σ → Ended × Connection σ) :
    repository.transaction body connection = match body (opened connection) with
      | (.ok (), left) => leave left
          (fun depth => if depth = 0 then [.commit] else [.release (savepointName connection.depth)]) (.ok ())
      | (.error .exception, left) => leave left
          (fun depth => if depth = 0 then [.rollback]
            else [.rollbackTo (savepointName connection.depth), .release (savepointName connection.depth)])
          (.error .exception)
      | (.error .interruption, left) => (.error .interruption, left) := by
  obtain ⟨tables, committed, frames, depth⟩ := connection
  have counted := balanced.depth
  cases frames with
  | nil =>
    cases counted
    rfl
  | cons frame outer =>
    cases counted
    rfl

/-- A block whose body returned. -/
theorem leave_returned {connection : Connection σ} (balanced : Balanced connection) (tables : σ) :
    leave (showing (opened connection) tables)
      (fun depth => if depth = 0 then [.commit] else [.release (savepointName connection.depth)]) (.ok ()) =
      (.ok (), showing connection tables) := by
  obtain ⟨before, committed, frames, depth⟩ := connection
  have counted := balanced.depth
  cases frames with
  | nil =>
    cases counted
    rfl
  | cons frame outer =>
    cases counted
    simp [leave, showing, opened, executeAll, execute, framesFrom]

/-- A block whose body raised an `Exception`. -/
theorem leave_raised {connection : Connection σ} (balanced : Balanced connection) (tables : σ) :
    leave (showing (opened connection) tables)
      (fun depth => if depth = 0 then [.rollback]
        else [.rollbackTo (savepointName connection.depth), .release (savepointName connection.depth)])
      (.error .exception) = (.error .exception, connection) := by
  obtain ⟨before, committed, frames, depth⟩ := connection
  have counted := balanced.depth
  cases frames with
  | nil =>
    cases counted
    rfl
  | cons frame outer =>
    cases counted
    simp [leave, showing, opened, executeAll, execute, framesFrom]

theorem run_uninterrupted (work : Work σ Writes) {connection : Connection σ} (balanced : Balanced connection)
    (uninterrupted : work.Uninterrupted connection.tables) :
    work.run repository connection = ((work.run allOrNothing connection.tables).1,
      showing connection (work.run allOrNothing connection.tables).2) := by
  induction work generalizing connection with
  | done | raise => exact congrArg (Prod.mk _) balanced.showing_self.symm
  | write change writes => rfl
  | reading next ih => exact ih connection.tables balanced uninterrupted
  | seq first second first_ih second_ih =>
    rw [Work.run, Work.run, first_ih balanced uninterrupted.1]
    rcases ran : first.run allOrNothing connection.tables with ⟨what | _, middle⟩
    · rfl
    · have rest := uninterrupted.2 (by rw [ran])
      rw [ran] at rest
      have second_run := second_ih (balanced.shown middle) rest
      rw [showing_showing] at second_run
      exact second_run
  | transaction body ih =>
    have inner := ih balanced.inside uninterrupted.1
    have whole : (Work.transaction body).run repository connection =
        repository.transaction (body.run repository) connection := rfl
    rw [whole, transaction_opened balanced, run_allOrNothing_transaction, inner]
    have quiet := uninterrupted.2
    change (match ((body.run allOrNothing connection.tables).1,
      showing (opened connection) (body.run allOrNothing connection.tables).2) with
      | (.ok (), left) => _
      | (.error .exception, left) => _
      | (.error .interruption, left) => _) = _
    rcases ran : body.run allOrNothing connection.tables with ⟨what | _, after⟩ <;> rw [ran] at quiet
    · cases what with
      | interruption => exact absurd rfl quiet
      | exception => exact (leave_raised balanced after).trans (congrArg (Prod.mk _) balanced.showing_self.symm)
    · exact leave_returned balanced after
  | catching caught body ih =>
    rw [Work.run, Work.run, ih balanced uninterrupted]
    rcases body.run allOrNothing connection.tables with ⟨what | _, after⟩
    · dsimp only
      split <;> rfl
    · rfl

/-! ### Blocks that an interruption leaves -/

theorem execute_depth {connection after : Connection σ} {statement : Statement}
    (executed : execute connection statement = some after) : after.depth = connection.depth := by
  cases statement <;> simp only [execute] at executed
  case savepoint => cases executed; rfl
  all_goals
    split at executed <;> cases executed
    all_goals rfl

theorem executeAll_depth (connection : Connection σ) (statements : List Statement) :
    (executeAll connection statements).2.depth = connection.depth := by
  induction statements generalizing connection with
  | nil => rfl
  | cons statement rest ih =>
    rw [executeAll]
    rcases executed : execute connection statement with _ | after
    · rfl
    · exact (ih after).trans (execute_depth executed)

theorem leave_depth (connection : Connection σ) (statements : Nat → List Statement) (ended : Ended) :
    (leave connection statements ended).2.depth = connection.depth - 1 := by
  have same := executeAll_depth { connection with depth := connection.depth - 1 } (statements (connection.depth - 1))
  rw [leave]
  rcases ran : executeAll { connection with depth := connection.depth - 1 } (statements (connection.depth - 1)) with
    ⟨_ | _, after⟩ <;> rw [ran] at same <;> exact same

/-- A block takes back the one level it added, unless an interruption leaves it. -/
theorem transaction_depth (body : Connection σ → Ended × Connection σ) (connection : Connection σ) :
    (repository.transaction body connection).2.depth = connection.depth ∨
      ∃ start, start.depth = connection.depth + 1 ∧
        (repository.transaction body connection).2.depth =
          (if (body start).1 = .error .interruption then (body start).2.depth else (body start).2.depth - 1) := by
  simp only [repository]
  rcases executed : execute connection (if connection.depth = 0 then .beginImmediate
    else .savepoint (savepointName connection.depth)) with _ | begun
  · exact .inl rfl
  · refine .inr ⟨{ begun with depth := begun.depth + 1 }, congrArg (· + 1) (execute_depth executed), ?_⟩
    dsimp only
    rcases body { begun with depth := begun.depth + 1 } with ⟨what | _, left⟩
    · cases what
      · exact (leave_depth _ _ _).trans (if_neg (by simp)).symm
      · exact (if_pos rfl).symm
    · exact (leave_depth _ _ _).trans (if_neg (by simp)).symm

theorem run_depth (work : Work σ Writes) (connection : Connection σ) :
    connection.depth ≤ (work.run repository connection).2.depth := by
  induction work generalizing connection with
  | done | write | raise => exact Nat.le_refl _
  | reading next ih => exact ih _ connection
  | seq first second first_ih second_ih =>
    have start := first_ih connection
    rw [Work.run]
    rcases ran : first.run repository connection with ⟨_ | _, middle⟩ <;> rw [ran] at start
    · exact start
    · exact Nat.le_trans start (second_ih middle)
  | transaction body ih =>
    rcases transaction_depth (body.run repository) connection with same | ⟨start, deeper, ended⟩
    · exact Nat.le_of_eq same.symm
    · have inner := ih start
      rw [Work.run, ended]
      split <;> omega
  | catching caught body ih =>
    have start := ih connection
    rw [Work.run]
    rcases ran : body.run repository connection with ⟨what | _, after⟩ <;> rw [ran] at start
    · dsimp only
      split <;> exact start
    · exact start

/-- Once an interruption leaves a block, the depth is never what it was. -/
theorem run_interrupted (work : Work σ Writes) {connection : Connection σ} (balanced : Balanced connection)
    (interrupted : ¬ work.Uninterrupted connection.tables) :
    connection.depth < (work.run repository connection).2.depth := by
  induction work generalizing connection with
  | done | write | raise => exact absurd trivial interrupted
  | reading next ih => exact ih _ balanced interrupted
  | seq first second first_ih second_ih =>
    by_cases calm : first.Uninterrupted connection.tables
    · have first_run := run_uninterrupted first balanced calm
      rcases ran : first.run allOrNothing connection.tables with ⟨what | _, middle⟩
      · -- the second part is never reached
        refine absurd ⟨calm, ?_⟩ interrupted
        rw [ran]
        exact fun returned => by cases returned
      · rw [ran] at first_run
        rw [Work.run, first_run]
        apply second_ih (balanced.shown middle)
        intro rest
        apply interrupted
        refine ⟨calm, ?_⟩
        rw [ran]
        exact fun _ => rest
    · have grown := first_ih balanced calm
      rw [Work.run]
      rcases ran : first.run repository connection with ⟨_ | _, middle⟩ <;> rw [ran] at grown
      · exact grown
      · exact Nat.lt_of_lt_of_le grown (run_depth second middle)
  | transaction body ih =>
    have whole : (Work.transaction body).run repository connection =
        repository.transaction (body.run repository) connection := rfl
    rw [whole, transaction_opened balanced]
    by_cases calm : body.Uninterrupted connection.tables
    · have inner := run_uninterrupted body balanced.inside calm
      have left : (body.run allOrNothing connection.tables).1 = .error .interruption := by
        by_contra other
        exact interrupted ⟨calm, other⟩
      have left_here : (body.run allOrNothing (opened connection).tables).1 = .error .interruption := left
      rw [inner, left_here]
      exact Nat.lt_succ_self connection.depth
    · have grown := ih balanced.inside calm
      have deeper : connection.depth + 1 < (body.run repository (opened connection)).2.depth := grown
      rcases ran : body.run repository (opened connection) with ⟨what | _, left⟩ <;> rw [ran] at deeper <;>
        change connection.depth + 1 < left.depth at deeper
      · cases what with
        | exception =>
          dsimp only
          rw [leave_depth]
          omega
        | interruption => exact Nat.lt_of_succ_lt deeper
      · dsimp only
        rw [leave_depth]
        omega
  | catching caught body ih =>
    have grown := ih balanced interrupted
    rw [Work.run]
    rcases ran : body.run repository connection with ⟨what | _, after⟩ <;> rw [ran] at grown
    · dsimp only
      split <;> exact grown
    · exact grown

end Sqlite

/-- In memory every block is all or nothing, whatever leaves it. In SQLite work ends as all or nothing says, with the
frames and the depth it began with, exactly when no block of it is left by an interruption. -/
theorem all_or_nothing_iff {ν : Type} {κ υ : ν → Type} {ρ : Type} [∀ name, DecidableEq (κ name)]
    [∀ name, DecidableEq (υ name)] :
    (∀ (work : Work (InMemory.Memory κ υ ρ) InMemory.Binds) (memory : InMemory.Memory κ υ ρ),
      work.run InMemory.repository memory = work.run allOrNothing memory) ∧
    ∀ (work : Work σ Writes) (connection : Sqlite.Connection σ), Sqlite.Balanced connection →
      (work.run Sqlite.repository connection = ((work.run allOrNothing connection.tables).1,
          Sqlite.showing connection (work.run allOrNothing connection.tables).2) ↔
        work.Uninterrupted connection.tables) := by
  refine ⟨InMemory.run_repository, ?_⟩
  intro work connection balanced
  constructor
  · intro ended
    by_contra interrupted
    -- an interrupted transaction leaves its depth behind
    have grown := Sqlite.run_interrupted work balanced interrupted
    rw [ended] at grown
    exact Nat.lt_irrefl _ grown
  · exact Sqlite.run_uninterrupted work balanced

/-! ## A block left by an interruption -/

namespace Sqlite

/-- A connection just opened, on a table that holds a number. -/
def fresh : Connection Nat := ⟨0, 0, [], 0⟩

/-- A block writes and is interrupted, its caller goes on, and a later block writes and returns. -/
def interruptedWork : Work Nat fun _ _ => True :=
  .seq (.catching (fun _ => true) (.transaction (.seq (.write (· + 1) fun _ => trivial) (.raise .interruption))))
    (.transaction (.write (· + 10) fun _ => trivial))

/-- The first block is not undone, the depth stays at one, and the later block is never committed. -/
theorem interrupted_block_stays :
    (interruptedWork.run repository fresh).1 = .ok () ∧
      (interruptedWork.run repository fresh).2.tables = 11 ∧
      (interruptedWork.run repository fresh).2.committed = 0 ∧
      (interruptedWork.run repository fresh).2.depth = 1 ∧
      interruptedWork.run allOrNothing 0 = (.ok (), 10) := by
  decide +kernel

theorem fresh_balanced : Balanced fresh := ⟨rfl, fun _ => rfl⟩

/-- A block that raises an `Exception` behind its write, and a later block that returns. -/
def rejectedWork : Work Nat fun _ _ => True :=
  .seq (.catching (fun _ => true) (.transaction (.seq (.write (· + 1) fun _ => trivial) (.raise .exception))))
    (.transaction (.write (· + 10) fun _ => trivial))

theorem rejected_block_undone :
    rejectedWork.run repository fresh = (.ok (), showing fresh 10) :=
  ((all_or_nothing_iff (ν := Unit) (κ := fun _ => Nat) (υ := fun _ => Nat) (ρ := Unit)).2 rejectedWork fresh
    fresh_balanced).mpr ⟨⟨⟨trivial, fun _ => trivial⟩, by decide⟩, fun _ => ⟨trivial, by decide⟩⟩

end Sqlite

end AiStore.Storage
