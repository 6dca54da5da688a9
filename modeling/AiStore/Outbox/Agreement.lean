import Mathlib.Data.List.Forall2
import AiStore.Outbox.DeliveryOrder

/-! Where the two repositories implement the same outbox.

`Sim` relates the dictionary to the table while every call so far was answered
alike. A call keeps the relation, and is answered alike, exactly if it is one of
the harmless ones: the repositories part at every claim that goes through (only
SQLite counts attempts) and at every retry (the backoffs differ).
-/

set_option autoImplicit false

namespace AiStore.Agreement

open DeliveryOrder Failure

variable {ι κ : Type} [DecidableEq ι]

/-- The same event in the same condition, or the same kind of error. -/
def SameResult : OutboxResult ι κ → OutboxResult ι κ → Prop
  | .error first, .error second => first.kind = second.kind
  | .ok none, .ok none => True
  | .ok (some first), .ok (some second) => first.Named second.tenantId second.id ∧ first.view = second.view
  | _, _ => False

instance (first second : OutboxResult ι κ) : Decidable (SameResult first second) := by
  unfold SameResult
  split <;> exact inferInstance

variable [DecidableEq κ]

/-- Every event is in the same condition in both repositories. -/
def SameEvents (box : InMemoryRepository.Outbox ι κ) (table : SQLiteRepository.Outbox ι κ) : Prop :=
  ∀ tenant id, (box.find tenant id).map (·.view) = (table.find tenant id).map (·.view)

section

variable (safeError : String → String)

/-- The repositories answer a call alike and leave the same events. -/
def SameStep (call : OutboxCall ι κ) (box : InMemoryRepository.Outbox ι κ)
    (table : SQLiteRepository.Outbox ι κ) : Prop :=
  SameResult (InMemoryRepository.step call box).1 (SQLiteRepository.step safeError call table).1 ∧
    SameEvents (InMemoryRepository.step call box).2 (SQLiteRepository.step safeError call table).2

/-- The repositories agree at every step of a run. -/
def Agree : InMemoryRepository.Outbox ι κ → SQLiteRepository.Outbox ι κ → List (OutboxCall ι κ) → Prop
  | _, _, [] => True
  | box, table, call :: rest =>
      SameStep safeError call box table ∧
        Agree (InMemoryRepository.step call box).2 (SQLiteRepository.step safeError call table).2 rest

end

/-- The calls that the repositories answer alike. -/
def Harmless (call : OutboxCall ι κ) (box : InMemoryRepository.Outbox ι κ)
    (table : SQLiteRepository.Outbox ι κ) : Prop :=
  match call.action with
  | .append event =>
      (Value.serialisableMapping event.payload ∧ Value.serialisableMapping event.checkpoint) ∧
        ((box.outboxIdempotency.get? (event.tenantId, event.idempotencyKey)).isSome ∨
          event.tenantId ∈ table.tenants ∧ (∀ known ∈ box.events, known.id ≠ event.id) ∧
            event.availableAt.isSome)
  | .claim tenant id worker _ =>
      ∀ event, box.find tenant id = some event → InMemoryRepository.Refuses event.toDelivery worker call.now
  | .claimNext tenant worker _ =>
      ((∀ event, ¬ Due (InMemoryRepository.Ready call.now) tenant [] box.events event) ∧
        ∀ row, ¬ Due (SQLiteRepository.Ready call.now) tenant [] table.rows row) ∨
      ∃ event row,
        (FirstDue (InMemoryRepository.Ready call.now) tenant [] box.events event ∧
          InMemoryRepository.Refuses event.toDelivery worker call.now) ∧
        FirstDue (SQLiteRepository.Ready call.now) tenant [] table.rows row ∧
          SQLiteRepository.Refuses row.toDelivery call.now
  | .checkpoint tenant id worker token checkpoint _ =>
      ∀ event, box.find tenant id = some event → event.HeldBy worker token call.now →
        Value.serialisableMapping checkpoint
  | .fail tenant id worker token _ maxAttempts =>
      1 ≤ maxAttempts → ∀ event, box.find tenant id = some event → event.HeldBy worker token call.now →
        maxAttempts ≤ event.attempts

/-- Every call of a run is harmless where it is made. -/
def AllHarmless (safeError : String → String) :
    InMemoryRepository.Outbox ι κ → SQLiteRepository.Outbox ι κ → List (OutboxCall ι κ) → Prop
  | _, _, [] => True
  | box, table, call :: rest =>
      Harmless call box table ∧
        AllHarmless safeError (InMemoryRepository.step call box).2 (SQLiteRepository.step safeError call table).2 rest

/-! ## The simulation -/

structure Matches (event row : OutboxEvent ι κ) : Prop where
  named : row.Named event.tenantId event.id
  key : row.idempotencyKey = event.idempotencyKey
  view : row.view = event.view

structure Sim (box : InMemoryRepository.Outbox ι κ) (table : SQLiteRepository.Outbox ι κ) : Prop where
  events : List.Forall₂ Matches box.events table.rows
  keys : ∀ tenant key, (box.outboxIdempotency.get? (tenant, key)).isSome ↔
    (tenant, key) ∈ table.rows.map fun row => (row.tenantId, row.idempotencyKey)

theorem sim_empty (tenants : List ι) :
    Sim (InMemoryRepository.Outbox.empty : InMemoryRepository.Outbox ι κ) (.empty tenants) :=
  ⟨.nil, by simp [InMemoryRepository.Outbox.empty, SQLiteRepository.Outbox.empty]⟩

omit [DecidableEq ι] [DecidableEq κ] in
theorem Matches.named_iff {event row : OutboxEvent ι κ} (matched : Matches event row) (tenant id : ι) :
    row.Named tenant id ↔ event.Named tenant id := by
  rw [OutboxEvent.Named, matched.named.1, matched.named.2, OutboxEvent.Named]

omit [DecidableEq κ] in
theorem Matches.deliver {event row : OutboxEvent ι κ} (matched : Matches event row) (tenant id : ι)
    {first second : Delivery ι} (same : second.view = first.view) :
    Matches (event.deliver tenant id first) (row.deliver tenant id second) := by
  have renamed := matched.named_iff tenant id
  by_cases named : event.Named tenant id
  · rw [OutboxEvent.deliver_of_named _ _ _ _ named, OutboxEvent.deliver_of_named _ _ _ _ (renamed.mpr named)]
    exact ⟨matched.named, matched.key, same⟩
  · rw [OutboxEvent.deliver_of_not_named _ _ _ _ named,
      OutboxEvent.deliver_of_not_named _ _ _ _ (mt renamed.mp named)]
    exact matched

omit [DecidableEq ι] [DecidableEq κ] in
theorem ids_eq {events rows : List (OutboxEvent ι κ)} (matched : List.Forall₂ Matches events rows) :
    rows.map (·.id) = events.map (·.id) := by
  induction matched with
  | nil => rfl
  | cons first _ ih => simp [first.named.2, ih]

omit [DecidableEq ι] [DecidableEq κ] in
theorem exists_event {events rows : List (OutboxEvent ι κ)} (matched : List.Forall₂ Matches events rows)
    {row : OutboxEvent ι κ} (member : row ∈ rows) : ∃ event ∈ events, Matches event row := by
  induction matched with
  | nil => cases member
  | @cons event first _ _ head _ ih =>
    rcases List.mem_cons.mp member with rfl | later
    · exact ⟨event, List.mem_cons_self, head⟩
    · obtain ⟨event, event_member, found⟩ := ih later
      exact ⟨event, List.mem_cons_of_mem _ event_member, found⟩

omit [DecidableEq ι] [DecidableEq κ] in
theorem exists_row {events rows : List (OutboxEvent ι κ)} (matched : List.Forall₂ Matches events rows)
    {event : OutboxEvent ι κ} (member : event ∈ events) : ∃ row ∈ rows, Matches event row := by
  induction matched with
  | nil => cases member
  | @cons _ row _ _ head _ ih =>
    rcases List.mem_cons.mp member with rfl | later
    · exact ⟨row, List.mem_cons_self, head⟩
    · obtain ⟨row, row_member, found⟩ := ih later
      exact ⟨row, List.mem_cons_of_mem _ row_member, found⟩

namespace Sim

variable {box : InMemoryRepository.Outbox ι κ} {table : SQLiteRepository.Outbox ι κ}

/-- Both repositories know an event of that name, or neither does. -/
theorem find (sim : Sim box table) (tenant id : ι) :
    (box.find tenant id = none ∧ table.find tenant id = none) ∨
      ∃ event row, box.find tenant id = some event ∧ table.find tenant id = some row ∧ Matches event row := by
  cases found : box.find tenant id with
  | none =>
    refine .inl ⟨rfl, (table.find_eq_none _ _).mpr fun row member named => ?_⟩
    obtain ⟨event, event_member, matched⟩ := exists_event sim.events member
    have := (box.find_eq_some _ _ _).mpr ⟨event_member, (matched.named_iff tenant id).mp named⟩
    simp [found] at this
  | some event =>
    obtain ⟨member, named⟩ := (box.find_eq_some _ _ _).mp found
    obtain ⟨row, row_member, matched⟩ := exists_row sim.events member
    exact .inr ⟨event, row, rfl,
      (table.find_eq_some _ _ _).mpr ⟨row_member, (matched.named_iff tenant id).mpr named⟩, matched⟩

theorem sameEvents (sim : Sim box table) : SameEvents box table := by
  intro tenant id
  rcases sim.find tenant id with ⟨absent, missing⟩ | ⟨event, row, found, read, matched⟩
  · rw [absent, missing]
  · rw [found, read, Option.map_some, Option.map_some, matched.view]

theorem id_known (sim : Sim box table) (id : ι) :
    (∃ event ∈ box.events, event.id = id) ↔ ∃ row ∈ table.rows, row.id = id := by
  have same := ids_eq sim.events
  rw [← List.mem_map, ← List.mem_map, same]

theorem rewrite (sim : Sim box table) {tenant id : ι} {event : OutboxEvent ι κ}
    (found : box.find tenant id = some event) {first second : Delivery ι} (same : second.view = first.view) :
    Sim (box.put { event with toDelivery := first }) (table.update tenant id second) where
  events := by
    rw [InMemoryRepository.Outbox.events_put_of_bound box first found]
    refine List.forall₂_map_left_iff.mpr (List.forall₂_map_right_iff.mpr (sim.events.imp ?_))
    exact fun event row matched => matched.deliver tenant id same
  keys other key := by
    simp only [InMemoryRepository.Outbox.put, SQLiteRepository.Outbox.update, List.map_map]
    rw [sim.keys]
    simp [Function.comp_def]

theorem append (sim : Sim box table) {event row : OutboxEvent ι κ} (matched : Matches event row)
    (fresh : box.find event.tenantId event.id = none) (id_fresh : row.id ∉ table.rows.map (·.id))
    (key_fresh : (row.tenantId, row.idempotencyKey) ∉
      table.rows.map fun row => (row.tenantId, row.idempotencyKey)) :
    Sim ((box.put event).bindKey event.tenantId event.idempotencyKey event.id)
      (table.insert row id_fresh key_fresh) where
  events := by
    have grown := box.events_put_of_fresh event fresh
    change List.Forall₂ Matches (box.put event).events _
    rw [grown]
    exact List.rel_append sim.events (.cons matched .nil)
  keys tenant key := by
    simp only [InMemoryRepository.Outbox.bindKey, InMemoryRepository.Outbox.put, Library.Dict.get?_set,
      SQLiteRepository.Outbox.insert, List.map_append, List.mem_append, List.map_cons, List.map_nil,
      List.mem_singleton]
    rw [matched.named.1, matched.key]
    split
    · next same => simp [same]
    · next apart => simp [sim.keys, Ne.symm apart]

end Sim

/-! ## Single calls -/

section

variable {box : InMemoryRepository.Outbox ι κ} {table : SQLiteRepository.Outbox ι κ}
  (safeError : String → String) (now : Timestamp)

/-- A harmless call is answered alike and keeps the simulation, and no other call is. -/
def Decided (safeError : String → String) (call : OutboxCall ι κ) (box : InMemoryRepository.Outbox ι κ)
    (table : SQLiteRepository.Outbox ι κ) : Prop :=
  (Harmless call box table →
    SameResult (InMemoryRepository.step call box).1 (SQLiteRepository.step safeError call table).1 ∧
      Sim (InMemoryRepository.step call box).2 (SQLiteRepository.step safeError call table).2) ∧
  (SameStep safeError call box table → Harmless call box table)

omit [DecidableEq ι] [DecidableEq κ] in
theorem Matches.refuses {event row : OutboxEvent ι κ} (matched : Matches event row) {worker : ι}
    (refuses : InMemoryRepository.Refuses event.toDelivery worker now) :
    SQLiteRepository.Refuses row.toDelivery now := by
  rcases refuses with completed | ⟨leased, -⟩
  · have := congrArg Delivery.View.state matched.view
    exact .inl (.inl (this.trans completed))
  · exact .inr (.inr ((Delivery.leased_of_view matched.view now).mpr leased))

omit [DecidableEq ι] [DecidableEq κ] in
/-- Only SQLite counts the attempt. -/
theorem Matches.claims_differ {event row : OutboxEvent ι κ} (matched : Matches event row) (worker : ι)
    (leaseUntil : Timestamp) :
    (InMemoryRepository.leaseTo event.toDelivery worker leaseUntil).view ≠
      (SQLiteRepository.leaseTo row.toDelivery worker leaseUntil).view := by
  intro same
  have attempts := congrArg Delivery.View.attempts same
  have before := congrArg Delivery.View.attempts matched.view
  simp only [Delivery.view, InMemoryRepository.leaseTo, SQLiteRepository.leaseTo] at attempts before
  omega

/-- Two claims, of whatever events, are answered alike only if both are refused. -/
theorem claims_refused (sim : Sim box table) {tenant id other : ι} {event row : OutboxEvent ι κ}
    (found : box.find tenant id = some event) (read : table.find tenant other = some row) (worker : ι)
    (leaseUntil : Timestamp)
    (alike : SameResult
      (Library.attempt box ((InMemoryRepository.claimOutbox tenant id worker now leaseUntil box).map
        (Prod.map some (·)))).1
      (Library.attempt table ((SQLiteRepository.claimOutbox tenant other worker now leaseUntil table).map
        (Prod.map some (·)))).1) :
    InMemoryRepository.Refuses event.toDelivery worker now ∧ SQLiteRepository.Refuses row.toDelivery now := by
  by_cases refuses : InMemoryRepository.Refuses event.toDelivery worker now
  · refine ⟨refuses, ?_⟩
    by_contra accepts
    obtain ⟨message, denied⟩ := InMemoryRepository.claimOutbox_of_refuses found refuses leaseUntil
    rw [denied, SQLiteRepository.claimOutbox_of_accepts read accepts] at alike
    exact alike
  · rw [InMemoryRepository.claimOutbox_of_accepts found refuses] at alike
    by_cases rejects : SQLiteRepository.Refuses row.toDelivery now
    · obtain ⟨message, rejected⟩ := SQLiteRepository.claimOutbox_of_refuses read rejects worker leaseUntil
      rw [rejected] at alike
      exact alike.elim
    · rw [SQLiteRepository.claimOutbox_of_accepts read rejects] at alike
      have same_id : id = other := by
        rw [← ((box.find_eq_some _ _ _).mp found).2.2, ← ((table.find_eq_some _ _ _).mp read).2.2]
        exact alike.1.2
      rcases sim.find tenant id with ⟨absent, -⟩ | ⟨known, stored, known_found, stored_read, matched⟩
      · simp [absent] at found
      · rw [found] at known_found
        rw [same_id, read] at stored_read
        cases known_found
        cases stored_read
        exact absurd alike.2 (matched.claims_differ worker leaseUntil)

theorem claim_decided (sim : Sim box table) (tenant id worker : ι) (leaseUntil : Timestamp) :
    Decided safeError ⟨now, .claim tenant id worker leaseUntil⟩ box table := by
  rcases sim.find tenant id with ⟨absent, missing⟩ | ⟨event, row, found, read, matched⟩
  · refine ⟨fun _ => ?_, fun _ event found => by simp [absent] at found⟩
    have known := sim.id_known id
    simp only [InMemoryRepository.step, InMemoryRepository.perform, InMemoryRepository.claimOutbox, absent,
      SQLiteRepository.step, SQLiteRepository.perform, SQLiteRepository.claimOutbox, missing, known]
    split <;> exact ⟨rfl, sim⟩
  · refine ⟨fun harmless => ?_, fun same other other_found => ?_⟩
    · have refuses := harmless event found
      obtain ⟨message, denied⟩ := InMemoryRepository.claimOutbox_of_refuses found refuses leaseUntil
      obtain ⟨reason, rejected⟩ :=
        SQLiteRepository.claimOutbox_of_refuses read (matched.refuses now refuses) worker leaseUntil
      simp only [InMemoryRepository.step, InMemoryRepository.perform, denied, SQLiteRepository.step,
        SQLiteRepository.perform, rejected]
      exact ⟨rfl, sim⟩
    · rw [found] at other_found
      cases other_found
      exact (claims_refused now sim found read worker leaseUntil same.1).1

theorem claimNext_decided (sim : Sim box table) (tenant worker : ι) (leaseUntil : Timestamp) :
    Decided safeError ⟨now, .claimNext tenant worker leaseUntil⟩ box table := by
  have picks : Selects (InMemoryRepository.Ready now) tenant [] box.events
      (InMemoryRepository.nextReady tenant now [] box.events) :=
    inMemory_selects now [] fun aggregate => by simp [Settled]
  have queries : Selects (SQLiteRepository.Ready now) tenant [] table.rows
      (SQLiteRepository.nextReady tenant now [] table.rows) := sqlite_selects now
  constructor
  · rintro (⟨none_due, none_ready⟩ | ⟨event, row, ⟨first, refuses⟩, head, rejects⟩)
    · simp only [InMemoryRepository.step, InMemoryRepository.perform, InMemoryRepository.claimNextOutbox,
        picks.eq_none.mpr none_due, SQLiteRepository.step, SQLiteRepository.perform,
        SQLiteRepository.claimNextOutbox, queries.eq_none.mpr none_ready]
      exact ⟨trivial, sim⟩
    · have found := box.find_of_mem first.due.mem.1
      have read := table.find_of_mem head.due.mem.1
      rw [first.due.mem.2] at found
      rw [head.due.mem.2] at read
      obtain ⟨message, denied⟩ := InMemoryRepository.claimOutbox_of_refuses found refuses leaseUntil
      obtain ⟨reason, rejected⟩ := SQLiteRepository.claimOutbox_of_refuses read rejects worker leaseUntil
      simp only [InMemoryRepository.step, InMemoryRepository.perform, InMemoryRepository.claimNextOutbox,
        (picks.eq_some event).mpr first, denied, SQLiteRepository.step, SQLiteRepository.perform,
        SQLiteRepository.claimNextOutbox, (queries.eq_some row).mpr head, rejected]
      exact ⟨rfl, sim⟩
  · intro same
    have alike := same.1
    simp only [InMemoryRepository.step, InMemoryRepository.perform, InMemoryRepository.claimNextOutbox,
      SQLiteRepository.step, SQLiteRepository.perform, SQLiteRepository.claimNextOutbox] at alike
    cases picked : InMemoryRepository.nextReady tenant now [] box.events with
    | none =>
      cases queried : SQLiteRepository.nextReady tenant now [] table.rows with
      | none => exact .inl ⟨picks.eq_none.mp picked, queries.eq_none.mp queried⟩
      | some row =>
        simp only [picked, queried] at alike
        rcases taken : SQLiteRepository.claimOutbox tenant row.id worker now leaseUntil table with _ | _ <;>
          rw [taken] at alike <;> exact alike.elim
    | some event =>
      have first := (picks.eq_some event).mp picked
      have found := box.find_of_mem first.due.mem.1
      rw [first.due.mem.2] at found
      cases queried : SQLiteRepository.nextReady tenant now [] table.rows with
      | none =>
        simp only [picked, queried] at alike
        rcases taken : InMemoryRepository.claimOutbox tenant event.id worker now leaseUntil box with _ | _ <;>
          rw [taken] at alike <;> exact alike.elim
      | some row =>
        have head := (queries.eq_some row).mp queried
        have read := table.find_of_mem head.due.mem.1
        rw [head.due.mem.2] at read
        simp only [picked, queried] at alike
        obtain ⟨refuses, rejects⟩ := claims_refused now sim found read worker leaseUntil alike
        exact .inr ⟨event, row, ⟨first, refuses⟩, head, rejects⟩

section

variable {event : OutboxEvent ι κ}

theorem memory_append_new (new : ¬ (box.outboxIdempotency.get? (event.tenantId, event.idempotencyKey)).isSome) :
    InMemoryRepository.step ⟨now, .append event⟩ box =
      (.ok none, (box.put event).bindKey event.tenantId event.idempotencyKey event.id) := by
  simp [InMemoryRepository.step, InMemoryRepository.perform, InMemoryRepository.appendOutbox, new, Except.map]

theorem sqlite_append_inserted
    (serialisable : Value.serialisableMapping event.payload ∧ Value.serialisableMapping event.checkpoint)
    (id_fresh : (SQLiteRepository.stored event).id ∉ table.rows.map (·.id))
    (key_fresh : ((SQLiteRepository.stored event).tenantId, (SQLiteRepository.stored event).idempotencyKey) ∉
      table.rows.map fun row => (row.tenantId, row.idempotencyKey)) (tenant_known : event.tenantId ∈ table.tenants) :
    SQLiteRepository.step safeError ⟨now, .append event⟩ table =
      (.ok none, table.insert (SQLiteRepository.stored event) id_fresh key_fresh) := by
  have accepted : SQLiteRepository.appendOutbox event table =
      .ok (table.insert (SQLiteRepository.stored event) id_fresh key_fresh) := by
    rw [SQLiteRepository.appendOutbox, if_neg (not_not.mpr serialisable)]
    exact dif_pos ⟨id_fresh, key_fresh, tenant_known⟩
  simp only [SQLiteRepository.step, SQLiteRepository.perform, accepted, Except.map, Library.attempt_ok]

theorem sqlite_append_refused
    (serialisable : Value.serialisableMapping event.payload ∧ Value.serialisableMapping event.checkpoint)
    (taken : ¬ ((SQLiteRepository.stored event).id ∉ table.rows.map (·.id) ∧ event.tenantId ∈ table.tenants)) :
    SQLiteRepository.step safeError ⟨now, .append event⟩ table =
      (.error (conflictError "outbox idempotency key already exists"), table) := by
  have rejected : SQLiteRepository.appendOutbox event table =
      .error (conflictError "outbox idempotency key already exists") := by
    rw [SQLiteRepository.appendOutbox, if_neg (not_not.mpr serialisable)]
    exact dif_neg fun ok => taken ⟨ok.1, ok.2.2⟩
  simp only [SQLiteRepository.step, SQLiteRepository.perform, rejected, Except.map, Library.attempt_error]

theorem sqlite_append_unserialisable
    (unserialisable : ¬ (Value.serialisableMapping event.payload ∧ Value.serialisableMapping event.checkpoint)) :
    SQLiteRepository.step safeError ⟨now, .append event⟩ table =
      (.error (typeError "Object is not JSON serializable"), table) := by
  simp only [SQLiteRepository.step, SQLiteRepository.perform, SQLiteRepository.appendOutbox, unserialisable,
    not_false_eq_true, if_true, Except.map, Library.attempt_error]

end

theorem append_decided (sim : Sim box table) (event : OutboxEvent ι κ) :
    Decided safeError ⟨now, .append event⟩ box table := by
  have taken := sim.keys event.tenantId event.idempotencyKey
  by_cases serialisable : Value.serialisableMapping event.payload ∧ Value.serialisableMapping event.checkpoint
  · by_cases known : (box.outboxIdempotency.get? (event.tenantId, event.idempotencyKey)).isSome
    · refine ⟨fun _ => ?_, fun _ => ⟨serialisable, .inl known⟩⟩
      simp [InMemoryRepository.step, InMemoryRepository.perform, InMemoryRepository.appendOutbox, known,
        SQLiteRepository.step, SQLiteRepository.perform, SQLiteRepository.appendOutbox, serialisable,
        taken.mp known, Except.map, SameResult, sim]
    · have key_fresh : ((SQLiteRepository.stored event).tenantId, (SQLiteRepository.stored event).idempotencyKey) ∉
          table.rows.map fun row => (row.tenantId, row.idempotencyKey) := mt taken.mpr known
      have written := memory_append_new now known
      by_cases free : (SQLiteRepository.stored event).id ∉ table.rows.map (·.id) ∧ event.tenantId ∈ table.tenants
      · have inserted := sqlite_append_inserted safeError now serialisable free.1 key_fresh free.2
        have id_fresh : ∀ other ∈ box.events, other.id ≠ event.id := fun other member same => free.1 <| by
          rw [ids_eq sim.events]
          exact List.mem_map.mpr ⟨other, member, same⟩
        rw [Decided, SameStep, written, inserted]
        constructor
        · rintro ⟨-, known_now | ⟨-, -, given⟩⟩
          · exact absurd known_now known
          · obtain ⟨available, given⟩ := Option.isSome_iff_exists.mp given
            have absent : box.find event.tenantId event.id = none := by
              rw [Option.eq_none_iff_forall_ne_some]
              intro other found
              obtain ⟨member, named⟩ := (box.find_eq_some _ _ _).mp found
              exact id_fresh other member named.2
            have matched : Matches event (SQLiteRepository.stored event) :=
              ⟨⟨rfl, rfl⟩, rfl, by simp [SQLiteRepository.stored, Delivery.view, given]⟩
            exact ⟨trivial, sim.append matched absent free.1 key_fresh⟩
        · rintro ⟨-, same⟩
          refine ⟨serialisable, .inr ⟨free.2, id_fresh, ?_⟩⟩
          have view := same event.tenantId event.id
          have bound : ((box.put event).bindKey event.tenantId event.idempotencyKey event.id).find
              event.tenantId event.id = some event := Library.Dict.get?_set_self _ _ _
          have stored_bound : (table.insert (SQLiteRepository.stored event) free.1 key_fresh).find
              event.tenantId event.id = some (SQLiteRepository.stored event) := by
            rw [SQLiteRepository.Outbox.find_insert, if_pos ⟨rfl, rfl⟩]
          simp only [bound, stored_bound, Option.map_some, Option.some.injEq] at view
          have available := congrArg Delivery.View.availableAt view
          exact Option.isSome_iff_exists.mpr ⟨_, available⟩
      · have refused := sqlite_append_refused safeError now serialisable free
        rw [Decided, SameStep, written, refused]
        refine ⟨?_, fun same => same.1.elim⟩
        rintro ⟨-, known_now | ⟨tenant_known, id_fresh, -⟩⟩
        · exact absurd known_now known
        · refine absurd ⟨?_, tenant_known⟩ free
          rw [ids_eq sim.events]
          rintro member
          obtain ⟨other, other_member, same⟩ := List.mem_map.mp member
          exact id_fresh other other_member same
  · refine ⟨fun harmless => absurd harmless.1 serialisable, fun same => ?_⟩
    have alike := same.1
    rw [sqlite_append_unserialisable safeError now serialisable] at alike
    simp only [InMemoryRepository.step, InMemoryRepository.perform, InMemoryRepository.appendOutbox] at alike
    split at alike
    · cases alike
    · exact alike.elim

/-- The lease test gives the same answer in both repositories. -/
theorem lease_alike (sim : Sim box table) (tenant id worker : ι) (token : Nat) :
    (∃ first second,
      InMemoryRepository.claimedOutbox tenant id worker token now box = .error first ∧
      SQLiteRepository.leasedRow tenant id worker token now table = .error second ∧ first.kind = second.kind ∧
      ∀ event, box.find tenant id = some event → ¬ event.HeldBy worker token now) ∨
    ∃ event row, box.find tenant id = some event ∧ Matches event row ∧ event.HeldBy worker token now ∧
      InMemoryRepository.claimedOutbox tenant id worker token now box = .ok event ∧
      SQLiteRepository.leasedRow tenant id worker token now table = .ok row := by
  rcases sim.find tenant id with ⟨absent, missing⟩ | ⟨event, row, found, read, matched⟩
  · refine .inl ⟨notFoundError "outbox event not found", notFoundError "outbox event not found", ?_, ?_, rfl, ?_⟩
    · simp only [InMemoryRepository.claimedOutbox_eq, absent]
    · simp only [SQLiteRepository.leasedRow, missing]
    · simp [absent]
  · have same_lease := Delivery.heldBy_of_view matched.view worker token now
    by_cases held : event.HeldBy worker token now
    · refine .inr ⟨event, row, found, matched, held, ?_, ?_⟩
      · simp only [InMemoryRepository.claimedOutbox_eq, found, held, if_true]
      · simp only [SQLiteRepository.leasedRow, read, same_lease.mpr held, if_true]
    · refine .inl ⟨conflictError "stale or expired outbox lease", conflictError "stale or expired outbox lease",
        ?_, ?_, rfl, ?_⟩
      · simp only [InMemoryRepository.claimedOutbox_eq, found, held, if_false]
      · simp only [SQLiteRepository.leasedRow, read, mt same_lease.mp held, if_false]
      · intro other other_found
        rw [found] at other_found
        cases other_found
        exact held

theorem checkpoint_decided (sim : Sim box table) (tenant id worker : ι) (token : Nat) (checkpoint : Mapping)
    (completed : Bool) :
    Decided safeError ⟨now, .checkpoint tenant id worker token checkpoint completed⟩ box table := by
  rcases lease_alike now sim tenant id worker token with
    ⟨first, second, denied, rejected, kind, unheld⟩ | ⟨event, row, found, matched, held, granted, leased⟩
  · refine ⟨fun _ => ?_, fun _ event found held => absurd held (unheld event found)⟩
    simp only [InMemoryRepository.step, InMemoryRepository.perform, InMemoryRepository.checkpointOutbox, denied,
      SQLiteRepository.step, SQLiteRepository.perform, SQLiteRepository.checkpointOutbox, rejected]
    exact ⟨kind, sim⟩
  · by_cases serialisable : Value.serialisableMapping checkpoint
    · refine ⟨fun _ => ?_, fun _ _ _ _ => serialisable⟩
      have same_view : (SQLiteRepository.checkpointDelivery row.toDelivery worker checkpoint now completed).view =
          (InMemoryRepository.checkpointDelivery event.toDelivery checkpoint now completed).view := by
        have view := matched.view
        simp only [Delivery.view, Delivery.View.mk.injEq] at view
        obtain ⟨-, attempts, available, -, expiry, fencing⟩ := view
        cases completed <;>
          simp [SQLiteRepository.checkpointDelivery, InMemoryRepository.checkpointDelivery, Delivery.view,
            attempts, available, expiry, fencing, held.1, held.2.1]
      simp only [InMemoryRepository.step, InMemoryRepository.perform, InMemoryRepository.checkpointOutbox, granted,
        SQLiteRepository.step, SQLiteRepository.perform, SQLiteRepository.checkpointOutbox, leased, serialisable,
        if_true, Except.map, Prod.map, Library.attempt_ok]
      exact ⟨⟨⟨matched.named.1.symm, matched.named.2.symm⟩, same_view.symm⟩, sim.rewrite found same_view⟩
    · refine ⟨fun harmless => absurd (harmless event found held) serialisable, fun same => ?_⟩
      have alike := same.1
      simp only [InMemoryRepository.step, InMemoryRepository.perform, InMemoryRepository.checkpointOutbox, granted,
        SQLiteRepository.step, SQLiteRepository.perform, SQLiteRepository.checkpointOutbox, leased,
        serialisable] at alike
      exact alike.elim

theorem backoffs_differ (attempts : Nat) :
    InMemoryRepository.backoffSeconds attempts ≠ SQLiteRepository.backoffSeconds attempts := by
  cases attempts with
  | zero => decide
  | succ retries =>
    have positive : 0 < (2 : Int) ^ retries := Int.pow_pos (by decide)
    simp only [InMemoryRepository.backoffSeconds, SQLiteRepository.backoffSeconds, Nat.add_sub_cancel, Int.pow_succ]
    omega

theorem fail_decided (sim : Sim box table) (tenant id worker : ι) (token : Nat) (error : String)
    (maxAttempts : Int) :
    Decided safeError ⟨now, .fail tenant id worker token error maxAttempts⟩ box table := by
  by_cases few : maxAttempts < 1
  · refine ⟨fun _ => ?_, fun _ enough => absurd enough (by omega)⟩
    simp only [InMemoryRepository.step, InMemoryRepository.perform, InMemoryRepository.failOutbox, few,
      SQLiteRepository.step, SQLiteRepository.perform, SQLiteRepository.failOutbox, if_true]
    exact ⟨rfl, sim⟩
  · rcases lease_alike now sim tenant id worker token with
      ⟨first, second, denied, rejected, kind, unheld⟩ | ⟨event, row, found, matched, held, granted, leased⟩
    · refine ⟨fun _ => ?_, fun _ _ event found held => absurd held (unheld event found)⟩
      simp only [InMemoryRepository.step, InMemoryRepository.perform, InMemoryRepository.failOutbox, few, denied,
        SQLiteRepository.step, SQLiteRepository.perform, SQLiteRepository.failOutbox, rejected, if_false]
      exact ⟨kind, sim⟩
    · have attempts : row.attempts = event.attempts := congrArg Delivery.View.attempts matched.view
      have fencing : row.fencingToken = event.fencingToken := congrArg Delivery.View.fencingToken matched.view
      have written : InMemoryRepository.step ⟨now, .fail tenant id worker token error maxAttempts⟩ box =
          (.ok (some { event with toDelivery :=
              InMemoryRepository.failDelivery event.toDelivery error now maxAttempts }),
            box.put { event with toDelivery :=
              InMemoryRepository.failDelivery event.toDelivery error now maxAttempts }) := by
        simp only [InMemoryRepository.step, InMemoryRepository.perform, InMemoryRepository.failOutbox, few, granted,
          if_false, Except.map, Prod.map, Library.attempt_ok]
      have stored : SQLiteRepository.step safeError ⟨now, .fail tenant id worker token error maxAttempts⟩ table =
          (.ok (some { row with toDelivery :=
              SQLiteRepository.failDelivery safeError row.toDelivery error now maxAttempts }),
            table.update tenant id
              (SQLiteRepository.failDelivery safeError row.toDelivery error now maxAttempts)) := by
        simp only [SQLiteRepository.step, SQLiteRepository.perform, SQLiteRepository.failOutbox, few, leased,
          if_false, Except.map, Prod.map, Library.attempt_ok]
      rw [Decided, SameStep, written, stored]
      constructor
      · intro harmless
        have reached := harmless (by omega) event found held
        have same_view : (SQLiteRepository.failDelivery safeError row.toDelivery error now maxAttempts).view =
            (InMemoryRepository.failDelivery event.toDelivery error now maxAttempts).view := by
          simp [SQLiteRepository.failDelivery, InMemoryRepository.failDelivery, Delivery.view, attempts, fencing,
            reached]
        exact ⟨⟨⟨matched.named.1.symm, matched.named.2.symm⟩, same_view.symm⟩, sim.rewrite found same_view⟩
      · rintro ⟨⟨-, view⟩, -⟩ - other other_found -
        rw [found] at other_found
        cases other_found
        by_contra early
        have available := congrArg Delivery.View.availableAt view
        simp only [Delivery.view, InMemoryRepository.failDelivery, SQLiteRepository.failDelivery, attempts, early,
          if_false, Option.some.injEq] at available
        exact backoffs_differ event.attempts ((Library.Timestamp.addSeconds_inj now _ _).mp (by simpa using available))

end

theorem call_decided (safeError : String → String) (call : OutboxCall ι κ)
    {box : InMemoryRepository.Outbox ι κ} {table : SQLiteRepository.Outbox ι κ} (sim : Sim box table) :
    Decided safeError call box table := by
  obtain ⟨now, action⟩ := call
  cases action with
  | append event => exact append_decided safeError now sim event
  | claim tenant id worker leaseUntil => exact claim_decided safeError now sim tenant id worker leaseUntil
  | claimNext tenant worker leaseUntil => exact claimNext_decided safeError now sim tenant worker leaseUntil
  | checkpoint tenant id worker token checkpoint completed =>
    exact checkpoint_decided safeError now sim tenant id worker token checkpoint completed
  | fail tenant id worker token error maxAttempts =>
    exact fail_decided safeError now sim tenant id worker token error maxAttempts

theorem Sim.agree_iff (safeError : String → String) {box : InMemoryRepository.Outbox ι κ}
    {table : SQLiteRepository.Outbox ι κ} (sim : Sim box table) (calls : List (OutboxCall ι κ)) :
    Agree safeError box table calls ↔ AllHarmless safeError box table calls := by
  induction calls generalizing box table with
  | nil => exact Iff.rfl
  | cons call rest ih =>
    obtain ⟨answered, only⟩ := call_decided safeError call sim
    constructor
    · rintro ⟨same, later⟩
      have harmless := only same
      exact ⟨harmless, (ih (answered harmless).2).mp later⟩
    · rintro ⟨harmless, later⟩
      obtain ⟨result, kept⟩ := answered harmless
      exact ⟨⟨result, kept.sameEvents⟩, (ih kept).mpr later⟩

/-- From the start, the repositories agree along a run exactly if all its calls are harmless. -/
theorem repositories_agree_iff (safeError : String → String) (tenants : List ι) (calls : List (OutboxCall ι κ)) :
    Agree safeError .empty (.empty tenants) calls ↔ AllHarmless safeError .empty (.empty tenants) calls :=
  (sim_empty tenants).agree_iff safeError calls

/-- One event that its only worker fails on the last permitted attempt. -/
def lastAttempt : List (OutboxCall String String) :=
  [⟨.utc 0, .append { OutboxEvent.pendingEvent "event" "shop" "tool.command" "command" [] "key" (.utc 0) with
      availableAt := some (.utc 0) }⟩,
   ⟨.utc 1, .claim "shop" "event" "worker" (.utc 31)⟩,
   ⟨.utc 2, .fail "shop" "event" "worker" 1 "timeout" 1⟩]

/-- SQLite buries the event, the dictionary retries it for ever. -/
theorem repositories_disagree :
    ClockAdvances lastAttempt ∧ ¬ Agree id .empty (.empty ["shop"]) lastAttempt ∧
      ((Library.final (InMemoryRepository.step) .empty lastAttempt).find "shop" "event").map (·.state) =
        some .retry ∧
      ((Library.final (SQLiteRepository.step id) (.empty ["shop"]) lastAttempt).find "shop" "event").map (·.state) =
        some .dead := by
  refine ⟨by simp [lastAttempt, ClockAdvances, Library.Timestamp.le_iff, Library.Timestamp.utc], ?_, ?_, ?_⟩
  · rintro ⟨-, ⟨claimed, -⟩, -⟩
    revert claimed
    decide
  · decide
  · decide

end AiStore.Agreement
