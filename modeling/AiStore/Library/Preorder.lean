import Mathlib.Order.Defs.Unbundled
import AiStore.Library.Dict
import AiStore.Library.Table
import AiStore.Library.Transaction

/-! Operations that move the database along a preorder, and the rows of others that a write leaves alone. -/

set_option autoImplicit false

namespace AiStore.Library

namespace Txn

variable {σ ε α β ι : Type} {R : σ → σ → Prop}

/-- The databases before and behind every run are related, also behind one that raises. -/
def Obeys (R : σ → σ → Prop) (body : Txn σ ε α) : Prop := ∀ s, R s.db (body.run s).2.db

/-- A value that some run returns. -/
def Returns (body : Txn σ ε α) (value : α) : Prop := ∃ s t, body.run s = (.ok value, t)

theorem Obeys.of_run {body : Txn σ ε α} (obeys : Obeys R body) {s t : Session σ} {outcome : Except ε α}
    (ran : body.run s = (outcome, t)) : R s.db t.db := by
  have := obeys s
  rwa [ran] at this

theorem Obeys.mono {S : σ → σ → Prop} {body : Txn σ ε α} (obeys : Obeys R body)
    (through : ∀ before after, R before after → S before after) : Obeys S body :=
  fun s => through _ _ (obeys s)

theorem obeys_write {change : σ → σ} (changes : ∀ db, R db (change db)) :
    Obeys R (write change : Txn σ ε Unit) := fun s => changes s.db

theorem Obeys.ite {condition : Prop} [Decidable condition] {first second : Txn σ ε α}
    (left : Obeys R first) (right : Obeys R second) : Obeys R (if condition then first else second) := by
  split
  · exact left
  · exact right

theorem Obeys.caught {body : Txn σ ε α} (obeys : Obeys R body) : Obeys R (caught body) := obeys

section

variable [Std.Refl R]

/-- What changes nothing obeys every preorder. -/
theorem Keeps.obeys {body : Txn σ ε α} (keeps : Keeps id body) : Obeys R body := by
  intro s
  have same : (body.run s).2.db = s.db := keeps s
  rw [same]
  exact Std.Refl.refl s.db

/-- Where nothing is raised behind a write, only the runs that return count. -/
theorem obeys_of_returning {body : Txn σ ε α} (unwinds : Unwinds id body)
    (returning : ∀ s result t, body.run s = (.ok result, t) → R s.db t.db) : Obeys R body := by
  intro s
  rcases ran : body.run s with ⟨why | result, t⟩
  · have same : t.db = s.db := unwinds s why t ran
    rw [same]
    exact Std.Refl.refl s.db
  · exact returning s result t ran

/-- A transaction undoes what raises, so only the returning runs of its body count. -/
theorem obeys_transaction_of_returning {body : Txn σ ε α}
    (returning : ∀ s result t, body.run s = (.ok result, t) → R s.db t.db) : Obeys R (transaction body) := by
  refine obeys_of_returning (unwinds_transaction body) ?_
  intro s result t ran
  exact returning s result t ((transaction_eq_ok body result s t).mp ran)

theorem Obeys.transaction {body : Txn σ ε α} (obeys : Obeys R body) : Obeys R (transaction body) := by
  intro s
  rcases transaction_cases body s with ⟨result, t, ran, whole⟩ | ⟨why, t, whole, same, -⟩
  · rw [whole]
    exact obeys.of_run ran
  · rw [whole, same]
    exact Std.Refl.refl s.db

end

section

variable [IsTrans σ R]

/-- The rest of a run may rely on what the first part returned. -/
theorem Obeys.bind_returning {first : Txn σ ε α} {next : α → Txn σ ε β} (left : Obeys R first)
    (right : ∀ value, Returns first value → Obeys R (next value)) : Obeys R (first >>= next) := by
  intro s
  have start := left s
  rw [run_bind]
  rcases ran : first.run s with ⟨_ | value, middle⟩ <;> rw [ran] at start
  · exact start
  · exact IsTrans.trans _ _ _ start (right value ⟨s, middle, ran⟩ middle)

theorem Obeys.bind {first : Txn σ ε α} {next : α → Txn σ ε β} (left : Obeys R first)
    (right : ∀ value, Obeys R (next value)) : Obeys R (first >>= next) :=
  left.bind_returning fun value _ => right value

variable [Std.Refl R]

theorem Obeys.each {body : ι → Txn σ ε Unit} (items : List ι) (every : ∀ item ∈ items, Obeys R (body item)) :
    Obeys R (each items body) := by
  induction items with
  | nil => exact (keeps_pure ()).obeys
  | cons item rest ih =>
    apply (every item List.mem_cons_self).bind
    intro _
    exact ih fun other member => every other (List.mem_cons_of_mem _ member)

theorem Obeys.collect {body : ι → Txn σ ε α} (items : List ι) (every : ∀ item ∈ items, Obeys R (body item)) :
    Obeys R (collect items body) := by
  induction items with
  | nil => exact (keeps_pure []).obeys
  | cons item rest ih =>
    apply (every item List.mem_cons_self).bind
    intro _
    apply (ih fun other member => every other (List.mem_cons_of_mem _ member)).bind
    intro _
    exact (keeps_pure _).obeys

/-- Bodies that keep the relation when they return keep it when all of them have returned. -/
theorem collect_returning {body : ι → Txn σ ε α} {items : List ι} {results : List α} {s t : Session σ}
    (every : ∀ item s result t, (body item).run s = (.ok result, t) → R s.db t.db)
    (ran : (collect items body).run s = (.ok results, t)) : R s.db t.db := by
  induction items generalizing s results with
  | nil =>
    obtain ⟨-, rfl⟩ := (collect_nil_eq_ok _ _ _ _).mp ran
    exact Std.Refl.refl _
  | cons item rest ih =>
    obtain ⟨_, middle, _, first, others, -⟩ := (collect_cons_eq_ok _ _ _ _ _ _).mp ran
    exact IsTrans.trans _ _ _ (every item _ _ _ first) (ih others)

end

end Txn

/-! ## The rows of others -/

section

variable {κ ν : Type} {key : ν → κ} [DecidableEq κ]

theorem filter_putRow (rows : List ν) (row : ν) (kept : ν → Bool) (unkept : ∀ other, key other = key row → kept other = false) :
    (putRow key rows row).filter kept = rows.filter kept := by
  induction rows with
  | nil => simp [putRow, unkept row rfl]
  | cons first rest ih =>
    by_cases same : key first = key row
    · simp [putRow, same, unkept row rfl, unkept first same]
    · simp [putRow, same, List.filter_cons, ih]

/-- A row under a key that is not kept leaves the kept rows as they are. -/
theorem Table.filter_put (table : Table key) (row : ν) (kept : ν → Bool)
    (unkept : ∀ other, key other = key row → kept other = false) :
    (table.put row).rows.filter kept = table.rows.filter kept :=
  filter_putRow table.rows row kept unkept

theorem filter_bindEntry (entries : List (κ × ν)) (wanted : κ) (value : ν) (kept : κ → Bool) (unkept : kept wanted = false) :
    (bindEntry entries wanted value).filter (fun entry => kept entry.1) = entries.filter fun entry => kept entry.1 := by
  induction entries with
  | nil => simp [bindEntry, unkept]
  | cons entry rest ih =>
    by_cases same : entry.1 = wanted
    · simp [bindEntry, same, unkept]
    · simp [bindEntry, same, List.filter_cons, ih]

theorem Dict.filter_set (dict : Dict κ ν) (wanted : κ) (value : ν) (kept : κ → Bool) (unkept : kept wanted = false) :
    (dict.set wanted value).entries.filter (fun entry => kept entry.1) = dict.entries.filter fun entry => kept entry.1 :=
  filter_bindEntry dict.entries wanted value kept unkept

end

end AiStore.Library
