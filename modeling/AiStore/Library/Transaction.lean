import Mathlib.Logic.Relation

/-! Operations over a transactional store.

An operation reads and writes a database, may read a clock, may draw fresh
identifiers, and either returns a value or raises. Raising keeps the writes
made so far: only an enclosing `transaction` puts the database back. Clock
readings and identifiers are consumed for good, also by work that is undone.
-/

set_option autoImplicit false

namespace AiStore.Library

/-- A database with the number of clock readings and identifiers consumed. -/
structure Session (σ : Type) where
  db : σ
  reads : Nat
  uuids : Nat

variable {σ ε α β ι τ : Type}

/-- A chain of checks returns what its last part returns. -/
theorem except_bind_eq_ok {first : Except ε α} {next : α → Except ε β} {result : β} :
    (first >>= next) = .ok result ↔ ∃ value, first = .ok value ∧ next value = .ok result := by
  cases first with
  | error why =>
    constructor
    · exact fun same => by cases same
    · rintro ⟨_, same, -⟩
      cases same
  | ok value =>
    constructor
    · exact fun same => ⟨value, rfl, same⟩
    · rintro ⟨_, same, rest⟩
      cases same
      exact rest

/-- Neither supply runs backwards. -/
def Session.Advances (before after : Session σ) : Prop :=
  before.reads ≤ after.reads ∧ before.uuids ≤ after.uuids

theorem Session.Advances.refl (s : Session σ) : s.Advances s := ⟨Nat.le_refl _, Nat.le_refl _⟩

theorem Session.Advances.trans {first second third : Session σ}
    (left : first.Advances second) (right : second.Advances third) : first.Advances third :=
  ⟨Nat.le_trans left.1 right.1, Nat.le_trans left.2 right.2⟩

structure Txn (σ ε α : Type) where
  run : Session σ → Except ε α × Session σ
  advances : ∀ s : Session σ, s.Advances (run s).2

namespace Txn

protected def pure (value : α) : Txn σ ε α := ⟨fun s => (.ok value, s), fun s => .refl s⟩

protected def bind (first : Txn σ ε α) (next : α → Txn σ ε β) : Txn σ ε β where
  run s := match first.run s with
    | (.ok value, middle) => (next value).run middle
    | (.error why, middle) => (.error why, middle)
  advances s := by
    have start := first.advances s
    rcases ran : first.run s with ⟨_ | value, middle⟩ <;> rw [ran] at start
    · exact start
    · exact start.trans ((next value).advances middle)

instance : Monad (Txn σ ε) where
  pure := Txn.pure
  bind := Txn.bind

def raise (why : ε) : Txn σ ε α := ⟨fun s => (.error why, s), fun s => .refl s⟩

def ensure (condition : Prop) [Decidable condition] (why : ε) : Txn σ ε Unit :=
  if condition then Txn.pure () else raise why

/-- The value of a lookup that must succeed. -/
def fetch (why : ε) : Option α → Txn σ ε α
  | some value => Txn.pure value
  | none => raise why

def query (view : σ → α) : Txn σ ε α := ⟨fun s => (.ok (view s.db), s), fun s => .refl s⟩

def write (change : σ → σ) : Txn σ ε Unit :=
  ⟨fun s => (.ok (), { s with db := change s.db }), fun _ => ⟨Nat.le_refl _, Nat.le_refl _⟩⟩

def freshUuid : Txn σ ε Nat :=
  ⟨fun s => (.ok s.uuids, { s with uuids := s.uuids + 1 }), fun _ => ⟨Nat.le_refl _, Nat.le_succ _⟩⟩

/-- One reading of a clock given by its successive readings. -/
def readClock (clock : Nat → τ) : Txn σ ε τ :=
  ⟨fun s => (.ok (clock s.reads), { s with reads := s.reads + 1 }), fun _ => ⟨Nat.le_succ _, Nat.le_refl _⟩⟩

/-- Keep the writes of a body that returns, undo those of a body that raises. -/
def transaction (body : Txn σ ε α) : Txn σ ε α where
  run s := match body.run s with
    | (.ok value, after) => (.ok value, after)
    | (.error why, after) => (.error why, { after with db := s.db })
  advances s := by
    have body_advances := body.advances s
    rcases ran : body.run s with ⟨_ | _, after⟩ <;> rw [ran] at body_advances <;> exact body_advances

/-- Catch what the body raises; its writes stay unless it undid them itself. -/
def caught (body : Txn σ ε α) : Txn σ ε (Except ε α) where
  run s := (.ok (body.run s).1, (body.run s).2)
  advances := body.advances

def ofExcept : Except ε α → Txn σ ε α
  | .ok value => Txn.pure value
  | .error why => raise why

def each : List ι → (ι → Txn σ ε Unit) → Txn σ ε Unit
  | [], _ => Txn.pure ()
  | item :: rest, body => Txn.bind (body item) fun _ => each rest body

def collect : List ι → (ι → Txn σ ε α) → Txn σ ε (List α)
  | [], _ => Txn.pure []
  | item :: rest, body =>
      Txn.bind (body item) fun value => Txn.bind (collect rest body) fun values => Txn.pure (value :: values)

/-! ## Returning runs -/

@[simp] theorem pure_eq_ok (value result : α) (s t : Session σ) :
    (pure value : Txn σ ε α).run s = (.ok result, t) ↔ result = value ∧ t = s := by
  change (Except.ok value, s) = (Except.ok result, t) ↔ _
  simp only [Prod.mk.injEq, Except.ok.injEq]
  exact ⟨fun same => ⟨same.1.symm, same.2.symm⟩, fun same => ⟨same.1.symm, same.2.symm⟩⟩

theorem run_bind (first : Txn σ ε α) (next : α → Txn σ ε β) (s : Session σ) :
    (first >>= next).run s = match first.run s with
      | (.ok value, middle) => (next value).run middle
      | (.error why, middle) => (.error why, middle) := rfl

@[simp] theorem bind_eq_ok (first : Txn σ ε α) (next : α → Txn σ ε β) (s t : Session σ) (result : β) :
    (first >>= next).run s = (.ok result, t) ↔
      ∃ value middle, first.run s = (.ok value, middle) ∧ (next value).run middle = (.ok result, t) := by
  rw [run_bind]
  rcases first.run s with ⟨why | value, middle⟩
  · simp
  · constructor
    · exact fun ran => ⟨value, middle, rfl, ran⟩
    · rintro ⟨other, state, same, ran⟩
      cases same
      exact ran

@[simp] theorem raise_eq_ok (why : ε) (result : α) (s t : Session σ) :
    (raise why : Txn σ ε α).run s = (.ok result, t) ↔ False := by
  simp [raise]

@[simp] theorem ensure_eq_ok (condition : Prop) [Decidable condition] (why : ε) (s t : Session σ) (u : Unit) :
    (ensure condition why : Txn σ ε Unit).run s = (.ok u, t) ↔ condition ∧ t = s := by
  unfold ensure
  split
  · next holds =>
    refine (pure_eq_ok () u s t).trans ?_
    simp [holds]
  · next fails => simp [raise, fails]

@[simp] theorem fetch_eq_ok (why : ε) (found : Option α) (result : α) (s t : Session σ) :
    (fetch why found : Txn σ ε α).run s = (.ok result, t) ↔ found = some result ∧ t = s := by
  cases found with
  | none => simp [fetch, raise]
  | some value =>
    refine (pure_eq_ok value result s t).trans ?_
    simp [eq_comm]

@[simp] theorem query_eq_ok (view : σ → α) (result : α) (s t : Session σ) :
    (query view : Txn σ ε α).run s = (.ok result, t) ↔ view s.db = result ∧ t = s := by
  simp [query, eq_comm]

@[simp] theorem write_eq_ok (change : σ → σ) (u : Unit) (s t : Session σ) :
    (write change : Txn σ ε Unit).run s = (.ok u, t) ↔ t = { s with db := change s.db } := by
  simp [write, eq_comm]

@[simp] theorem freshUuid_eq_ok (result : Nat) (s t : Session σ) :
    (freshUuid : Txn σ ε Nat).run s = (.ok result, t) ↔
      result = s.uuids ∧ t = { s with uuids := s.uuids + 1 } := by
  simp [freshUuid, eq_comm]

@[simp] theorem readClock_eq_ok (clock : Nat → τ) (result : τ) (s t : Session σ) :
    (readClock clock : Txn σ ε τ).run s = (.ok result, t) ↔
      result = clock s.reads ∧ t = { s with reads := s.reads + 1 } := by
  simp [readClock, eq_comm]

@[simp] theorem transaction_eq_ok (body : Txn σ ε α) (result : α) (s t : Session σ) :
    (transaction body).run s = (.ok result, t) ↔ body.run s = (.ok result, t) := by
  simp only [transaction]
  rcases body.run s with ⟨_ | _, _⟩ <;> simp

@[simp] theorem caught_eq_ok (body : Txn σ ε α) (result : Except ε α) (s t : Session σ) :
    (caught body).run s = (.ok result, t) ↔ body.run s = (result, t) := by
  simp [caught, Prod.ext_iff]

@[simp] theorem ofExcept_eq_ok (outcome : Except ε α) (result : α) (s t : Session σ) :
    (ofExcept outcome : Txn σ ε α).run s = (.ok result, t) ↔ outcome = .ok result ∧ t = s := by
  cases outcome with
  | error why => simp [ofExcept, raise]
  | ok value =>
    refine (pure_eq_ok value result s t).trans ?_
    simp [eq_comm]

@[simp] theorem each_nil_eq_ok (body : ι → Txn σ ε Unit) (u : Unit) (s t : Session σ) :
    (each [] body).run s = (.ok u, t) ↔ t = s := by
  refine (pure_eq_ok () u s t).trans ?_
  simp

@[simp] theorem each_cons_eq_ok (item : ι) (rest : List ι) (body : ι → Txn σ ε Unit) (u : Unit)
    (s t : Session σ) :
    (each (item :: rest) body).run s = (.ok u, t) ↔
      ∃ middle, (body item).run s = (.ok (), middle) ∧ (each rest body).run middle = (.ok (), t) := by
  refine (bind_eq_ok (body item) (fun _ => each rest body) s t u).trans ?_
  constructor
  · rintro ⟨⟨⟩, middle, first, second⟩
    exact ⟨middle, first, second⟩
  · rintro ⟨middle, first, second⟩
    exact ⟨(), middle, first, second⟩

@[simp] theorem collect_nil_eq_ok (body : ι → Txn σ ε α) (result : List α) (s t : Session σ) :
    (collect [] body).run s = (.ok result, t) ↔ result = [] ∧ t = s :=
  pure_eq_ok [] result s t

@[simp] theorem collect_cons_eq_ok (item : ι) (rest : List ι) (body : ι → Txn σ ε α) (result : List α)
    (s t : Session σ) :
    (collect (item :: rest) body).run s = (.ok result, t) ↔
      ∃ value middle values, (body item).run s = (.ok value, middle) ∧
        (collect rest body).run middle = (.ok values, t) ∧ result = value :: values := by
  refine (bind_eq_ok (body item) _ s t result).trans ?_
  constructor
  · rintro ⟨value, middle, first, second⟩
    obtain ⟨values, last, tail, final⟩ := (bind_eq_ok (collect rest body) _ middle t result).mp second
    obtain ⟨same, rfl⟩ := (pure_eq_ok (value :: values) result last t).mp final
    exact ⟨value, middle, values, first, tail, same⟩
  · rintro ⟨value, middle, values, first, tail, same⟩
    refine ⟨value, middle, first, (bind_eq_ok (collect rest body) _ middle t result).mpr ?_⟩
    exact ⟨values, t, tail, (pure_eq_ok (value :: values) result t t).mpr ⟨same, rfl⟩⟩

/-! ## Raising runs -/

theorem bind_eq_error (first : Txn σ ε α) (next : α → Txn σ ε β) (s t : Session σ) (why : ε) :
    (first >>= next).run s = (.error why, t) ↔
      first.run s = (.error why, t) ∨
        ∃ value middle, first.run s = (.ok value, middle) ∧ (next value).run middle = (.error why, t) := by
  rw [run_bind]
  rcases first.run s with ⟨other | value, middle⟩
  · simp
  · constructor
    · exact fun raised => .inr ⟨value, middle, rfl, raised⟩
    · rintro (raised | ⟨other, state, same, raised⟩)
      · cases raised
      · cases same
        exact raised

theorem ensure_eq_error (condition : Prop) [Decidable condition] (why raised : ε) (s t : Session σ) :
    (ensure condition why : Txn σ ε Unit).run s = (.error raised, t) ↔ ¬ condition ∧ raised = why ∧ t = s := by
  unfold ensure
  split
  · next holds =>
    constructor
    · intro ran
      cases ran
    · exact fun fails => absurd holds fails.1
  · next fails => simp [raise, fails, eq_comm]

theorem query_eq_error (view : σ → α) (why : ε) (s t : Session σ) :
    ¬ (query view : Txn σ ε α).run s = (.error why, t) := fun ran => by cases ran

theorem pure_eq_error (value : α) (why : ε) (s t : Session σ) :
    ¬ (pure value : Txn σ ε α).run s = (.error why, t) := fun ran => by cases ran

/-- A condition in front of an answer. -/
theorem run_ensure_pure (condition : Prop) [Decidable condition] (why : ε) (value : α) (s : Session σ) :
    (ensure condition why >>= fun _ => pure value : Txn σ ε α).run s =
      (if condition then .ok value else .error why, s) := by
  by_cases holds : condition
  · rw [run_bind, ensure, if_pos holds, if_pos holds]
    rfl
  · rw [run_bind, ensure, if_neg holds, if_neg holds]
    rfl

/-- A transaction that raises leaves the database alone. -/
theorem transaction_error_db {body : Txn σ ε α} {why : ε} {s t : Session σ}
    (raised : (transaction body).run s = (.error why, t)) : t.db = s.db := by
  simp only [transaction] at raised
  rcases ran : body.run s with ⟨_ | _, after⟩ <;> rw [ran] at raised <;> simp at raised
  rw [← raised.2]

theorem transaction_raises {body : Txn σ ε α} {why : ε} {s t : Session σ} (ran : body.run s = (.error why, t)) :
    (transaction body).run s = (.error why, { t with db := s.db }) := by
  simp only [transaction, ran]

theorem transaction_cases (body : Txn σ ε α) (s : Session σ) :
    (∃ result t, body.run s = (.ok result, t) ∧ (transaction body).run s = (.ok result, t)) ∨
    (∃ why t, (transaction body).run s = (.error why, t) ∧ t.db = s.db ∧ s.Advances t) := by
  rcases ran : (transaction body).run s with ⟨why | result, t⟩
  · refine .inr ⟨why, t, rfl, transaction_error_db ran, ?_⟩
    have := (transaction body).advances s
    rwa [ran] at this
  · exact .inl ⟨result, t, (transaction_eq_ok body result s t).mp ran, rfl⟩

/-! ## Frames -/

section

variable {υ : Type} {view : σ → υ}

/-- Whatever the body does, the view of the database stays. -/
def Keeps (view : σ → υ) (body : Txn σ ε α) : Prop := ∀ s, view (body.run s).2.db = view s.db

theorem Keeps.of_run {body : Txn σ ε α} (keeps : Keeps view body) {s t : Session σ} {outcome : Except ε α}
    (ran : body.run s = (outcome, t)) : view t.db = view s.db := by
  have := keeps s
  rwa [ran] at this

theorem Keeps.mono {other : Type} {coarse : σ → other} {body : Txn σ ε α} (keeps : Keeps view body)
    (through : ∀ first second, view first = view second → coarse first = coarse second) : Keeps coarse body :=
  fun s => through _ _ (keeps s)

@[simp] theorem keeps_pure (value : α) : Keeps view (pure value : Txn σ ε α) := fun _ => rfl

@[simp] theorem keeps_raise (why : ε) : Keeps view (raise why : Txn σ ε α) := fun _ => rfl

@[simp] theorem keeps_ensure (condition : Prop) [Decidable condition] (why : ε) :
    Keeps view (ensure condition why : Txn σ ε Unit) := by
  unfold ensure
  split <;> exact fun _ => rfl

@[simp] theorem keeps_fetch (why : ε) (found : Option α) : Keeps view (fetch why found : Txn σ ε α) := by
  cases found <;> exact fun _ => rfl

@[simp] theorem keeps_query (read : σ → α) : Keeps view (query read : Txn σ ε α) := fun _ => rfl

@[simp] theorem keeps_freshUuid : Keeps view (freshUuid : Txn σ ε Nat) := fun _ => rfl

@[simp] theorem keeps_readClock (clock : Nat → τ) : Keeps view (readClock clock : Txn σ ε τ) := fun _ => rfl

@[simp] theorem keeps_ofExcept (outcome : Except ε α) : Keeps view (ofExcept outcome : Txn σ ε α) := by
  cases outcome <;> exact fun _ => rfl

theorem keeps_write {change : σ → σ} (same : ∀ db, view (change db) = view db) :
    Keeps view (write change : Txn σ ε Unit) := fun s => same s.db

theorem Keeps.bind {first : Txn σ ε α} {next : α → Txn σ ε β} (left : Keeps view first)
    (right : ∀ value, Keeps view (next value)) : Keeps view (first >>= next) := by
  intro s
  have start := left s
  rw [run_bind]
  rcases ran : first.run s with ⟨_ | value, middle⟩ <;> rw [ran] at start
  · exact start
  · exact (right value middle).trans start

/-- A body that raises inside a transaction keeps everything, so only its returning runs count. -/
theorem keeps_transaction {body : Txn σ ε α}
    (returning : ∀ s result t, body.run s = (.ok result, t) → view t.db = view s.db) :
    Keeps view (transaction body) := by
  intro s
  rcases transaction_cases body s with ⟨result, t, ran, whole⟩ | ⟨why, t, whole, same, -⟩
  · rw [whole]
    exact returning s result t ran
  · rw [whole, same]

theorem Keeps.transaction {body : Txn σ ε α} (keeps : Keeps view body) : Keeps view (transaction body) :=
  keeps_transaction fun _ _ _ ran => keeps.of_run ran

theorem Keeps.each {body : ι → Txn σ ε Unit} (items : List ι) (every : ∀ item, Keeps view (body item)) :
    Keeps view (each items body) := by
  induction items with
  | nil => exact keeps_pure ()
  | cons item rest ih => exact (every item).bind fun _ => ih

theorem Keeps.collect {body : ι → Txn σ ε α} (items : List ι) (every : ∀ item, Keeps view (body item)) :
    Keeps view (collect items body) := by
  induction items with
  | nil => exact keeps_pure []
  | cons item rest ih => exact (every item).bind fun _ => ih.bind fun _ => keeps_pure _

theorem Keeps.ite {condition : Prop} [Decidable condition] {first second : Txn σ ε α}
    (left : Keeps view first) (right : Keeps view second) : Keeps view (if condition then first else second) := by
  split
  · exact left
  · exact right

/-- A run that raises keeps the view. -/
def Unwinds (view : σ → υ) (body : Txn σ ε α) : Prop :=
  ∀ s why t, body.run s = (.error why, t) → view t.db = view s.db

theorem Keeps.unwinds {body : Txn σ ε α} (keeps : Keeps view body) : Unwinds view body :=
  fun _ _ _ raised => keeps.of_run raised

theorem unwinds_transaction (body : Txn σ ε α) : Unwinds view (transaction body) :=
  fun _ _ _ raised => congrArg view (transaction_error_db raised)

/-- What runs before a part that unwinds only has to keep the view. -/
theorem Unwinds.bind {first : Txn σ ε α} {next : α → Txn σ ε β} (left : Keeps view first)
    (right : ∀ value, Unwinds view (next value)) : Unwinds view (first >>= next) := by
  intro s why t raised
  have start := left s
  rw [run_bind] at raised
  rcases ran : first.run s with ⟨_ | value, middle⟩ <;> rw [ran] at start raised
  · cases raised
    exact start
  · exact (right value middle why t raised).trans start

/-- Whatever a run raises satisfies the predicate. -/
def Raises (holds : ε → Prop) (body : Txn σ ε α) : Prop :=
  ∀ s why t, body.run s = (.error why, t) → holds why

section

variable {holds : ε → Prop}

theorem raises_pure (value : α) : Raises holds (pure value : Txn σ ε α) := fun _ _ _ raised => by cases raised

theorem raises_query (read : σ → α) : Raises holds (query read : Txn σ ε α) := fun _ _ _ raised => by cases raised

theorem raises_write (change : σ → σ) : Raises holds (write change : Txn σ ε Unit) := fun _ _ _ raised => by cases raised

theorem raises_freshUuid : Raises holds (freshUuid : Txn σ ε Nat) := fun _ _ _ raised => by cases raised

theorem raises_readClock (clock : Nat → τ) : Raises holds (readClock clock : Txn σ ε τ) :=
  fun _ _ _ raised => by cases raised

theorem raises_raise {why : ε} (known : holds why) : Raises holds (raise why : Txn σ ε α) := by
  intro s other t raised
  cases raised
  exact known

theorem raises_ensure (condition : Prop) [Decidable condition] {why : ε} (known : holds why) :
    Raises holds (ensure condition why : Txn σ ε Unit) := by
  unfold ensure
  split
  · exact raises_pure ()
  · exact raises_raise known

theorem raises_fetch {why : ε} (known : holds why) (found : Option α) :
    Raises holds (fetch why found : Txn σ ε α) := by
  cases found with
  | none => exact raises_raise known
  | some value => exact raises_pure value

theorem raises_ofExcept {outcome : Except ε α} (known : ∀ why, outcome = .error why → holds why) :
    Raises holds (ofExcept outcome : Txn σ ε α) := by
  cases outcome with
  | error why => exact raises_raise (known why rfl)
  | ok value => exact raises_pure value

theorem Raises.mono {weaker : ε → Prop} {body : Txn σ ε α} (raises : Raises holds body)
    (through : ∀ why, holds why → weaker why) : Raises weaker body :=
  fun s why t raised => through why (raises s why t raised)

theorem Raises.bind {first : Txn σ ε α} {next : α → Txn σ ε β} (left : Raises holds first)
    (right : ∀ value, Raises holds (next value)) : Raises holds (first >>= next) := by
  intro s why t raised
  rw [run_bind] at raised
  rcases ran : first.run s with ⟨_ | value, middle⟩ <;> rw [ran] at raised
  · cases raised
    exact left s _ _ ran
  · exact right value _ why t raised

theorem Raises.ite {condition : Prop} [Decidable condition] {first second : Txn σ ε α}
    (left : Raises holds first) (right : Raises holds second) : Raises holds (if condition then first else second) := by
  split
  · exact left
  · exact right

theorem Raises.transaction {body : Txn σ ε α} (raises : Raises holds body) : Raises holds (transaction body) := by
  intro s why t raised
  simp only [Txn.transaction] at raised
  rcases ran : body.run s with ⟨other | value, after⟩ <;> rw [ran] at raised
  · cases raised
    exact raises s _ _ ran
  · cases raised

end

theorem Keeps.caught {body : Txn σ ε α} (keeps : Keeps view body) : Keeps view (caught body) := keeps

end

/-! ## Rules for step relations

`Follows R x` speaks of the returning runs of `x` only: it is the obligation of
code that runs inside a transaction. `Settles R x` speaks of every run.
-/

open Relation (ReflTransGen)

variable {R : Session σ → Session σ → Prop}

def Follows (R : Session σ → Session σ → Prop) (body : Txn σ ε α) : Prop :=
  ∀ s result t, body.run s = (.ok result, t) → ReflTransGen R s t

def Settles (R : Session σ → Session σ → Prop) (body : Txn σ ε α) : Prop :=
  ∀ s, ReflTransGen R s (body.run s).2

/-- Consuming readings and identifiers is a step of `R`. -/
def Idles (R : Session σ → Session σ → Prop) : Prop :=
  ∀ s t : Session σ, t.db = s.db → s.Advances t → R s t

theorem Settles.follows {body : Txn σ ε α} (settles : Settles R body) : Follows R body := by
  intro s result t ran
  have := settles s
  rwa [ran] at this

theorem Follows.bind {first : Txn σ ε α} {next : α → Txn σ ε β}
    (left : Follows R first) (right : ∀ value, Follows R (next value)) : Follows R (first >>= next) := by
  intro s result t ran
  obtain ⟨value, middle, start, rest⟩ := (bind_eq_ok first next s t result).mp ran
  exact (left s value middle start).trans (right value middle result t rest)

theorem Settles.bind {first : Txn σ ε α} {next : α → Txn σ ε β}
    (left : Settles R first) (right : ∀ value, Settles R (next value)) : Settles R (first >>= next) := by
  intro s
  have start := left s
  rw [run_bind]
  rcases ran : first.run s with ⟨_ | value, middle⟩ <;> rw [ran] at start
  · exact start
  · exact start.trans (right value middle)

theorem Follows.collect {body : ι → Txn σ ε α} (items : List ι) (each : ∀ item, Follows R (body item)) :
    Follows R (collect items body) := by
  induction items with
  | nil =>
    intro s result t ran
    obtain ⟨-, rfl⟩ := (collect_nil_eq_ok body result s t).mp ran
    exact .refl
  | cons item rest ih =>
    intro s result t ran
    obtain ⟨value, middle, values, first, later, -⟩ := (collect_cons_eq_ok item rest body result s t).mp ran
    exact (each item s value middle first).trans (ih middle values t later)

theorem Follows.each {body : ι → Txn σ ε Unit} (items : List ι) (every : ∀ item, Follows R (body item)) :
    Follows R (each items body) := by
  induction items with
  | nil =>
    intro s result t ran
    obtain ⟨-, rfl⟩ := (pure_eq_ok () result s t).mp ran
    exact .refl
  | cons item rest ih => exact (every item).bind fun _ => ih

/-- What keeps every view of the database is a step of its own. -/
theorem settles_of_keeps (idles : Idles R) {body : Txn σ ε α} (keeps : ∀ {υ : Type} (view : σ → υ), Keeps view body) :
    Settles R body :=
  fun s => .single (idles _ _ (keeps id s) (body.advances s))

/-- A transaction turns an obligation on returning runs into one on all runs. -/
theorem Follows.transaction (idles : Idles R) {body : Txn σ ε α} (follows : Follows R body) :
    Settles R (transaction body) := by
  intro s
  rcases transaction_cases body s with ⟨result, t, ran, whole⟩ | ⟨why, t, whole, same, advances⟩
  · rw [whole]
    exact follows s result t ran
  · rw [whole]
    exact .single (idles s t same advances)

end Txn

end AiStore.Library
