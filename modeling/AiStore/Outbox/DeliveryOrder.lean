import AiStore.Outbox.InMemory
import AiStore.Outbox.SqliteSteps

/-! Which event `claim_next_outbox` hands out.

An aggregate's events are delivered one behind the other: an event is due once
it is ready and every earlier event of its tenant and aggregate is completed or
dead. Both repositories select the first due event, each by its own readiness
test.
-/

set_option autoImplicit false

namespace AiStore.DeliveryOrder

variable {ι κ : Type}

/-- Nothing of the aggregate is still open among the given events. -/
def Settled (tenant aggregate : ι) (events : List (OutboxEvent ι κ)) : Prop :=
  ∀ prior ∈ events, prior.tenantId = tenant → prior.aggregateRef = aggregate → prior.state.Terminal

/-- `event` is due in a table whose rows before `events` are `earlier`. -/
def Due (ready : OutboxEvent ι κ → Prop) (tenant : ι) (earlier events : List (OutboxEvent ι κ))
    (event : OutboxEvent ι κ) : Prop :=
  ∃ before after, events = before ++ event :: after ∧ event.tenantId = tenant ∧ ready event ∧
    Settled tenant event.aggregateRef (earlier ++ before)

variable {ready : OutboxEvent ι κ → Prop} {tenant : ι} {earlier events : List (OutboxEvent ι κ)}

theorem not_due_nil (event : OutboxEvent ι κ) : ¬ Due ready tenant earlier [] event := by
  rintro ⟨before, after, shape, -⟩
  simp at shape

theorem due_cons (first event : OutboxEvent ι κ) :
    Due ready tenant earlier (first :: events) event ↔
      (event = first ∧ first.tenantId = tenant ∧ ready first ∧ Settled tenant first.aggregateRef earlier) ∨
        Due ready tenant (earlier ++ [first]) events event := by
  constructor
  · rintro ⟨before, after, shape, owned, is_ready, settled⟩
    cases before with
    | nil =>
      cases shape
      exact .inl ⟨rfl, owned, is_ready, by simpa using settled⟩
    | cons head before =>
      cases shape
      exact .inr ⟨before, after, rfl, owned, is_ready, by simpa using settled⟩
  · rintro (⟨rfl, owned, is_ready, settled⟩ | ⟨before, after, rfl, owned, is_ready, settled⟩)
    · exact ⟨[], events, rfl, owned, is_ready, by simpa using settled⟩
    · exact ⟨first :: before, after, rfl, owned, is_ready, by simpa using settled⟩

theorem settled_concat (aggregate : ι) (event : OutboxEvent ι κ) :
    Settled tenant aggregate (earlier ++ [event]) ↔
      Settled tenant aggregate earlier ∧
        (event.tenantId = tenant → event.aggregateRef = aggregate → event.state.Terminal) := by
  constructor
  · exact fun settled => ⟨fun prior member => settled prior (by simp [member]), settled event (by simp)⟩
  · rintro ⟨before, last⟩ prior member
    rcases List.mem_append.mp member with older | new
    · exact before prior older
    · rw [List.mem_singleton.mp new]
      exact last

/-- `event` is due and no event before it is. -/
def FirstDue (ready : OutboxEvent ι κ → Prop) (tenant : ι) (earlier events : List (OutboxEvent ι κ))
    (event : OutboxEvent ι κ) : Prop :=
  ∃ before after, events = before ++ event :: after ∧ event.tenantId = tenant ∧ ready event ∧
    Settled tenant event.aggregateRef (earlier ++ before) ∧ ∀ other, ¬ Due ready tenant earlier before other

theorem FirstDue.due {event : OutboxEvent ι κ} (first : FirstDue ready tenant earlier events event) :
    Due ready tenant earlier events event := by
  obtain ⟨before, after, shape, owned, is_ready, settled, -⟩ := first
  exact ⟨before, after, shape, owned, is_ready, settled⟩

theorem FirstDue.unique {first second : OutboxEvent ι κ} (left : FirstDue ready tenant earlier events first)
    (right : FirstDue ready tenant earlier events second) : first = second := by
  obtain ⟨before, after, shape, owned, is_ready, settled, none_before⟩ := left
  obtain ⟨other_before, other_after, other_shape, other_owned, other_ready, other_settled, other_none⟩ := right
  rw [shape] at other_shape
  rcases List.append_eq_append_iff.mp other_shape with ⟨rest, rfl, tail⟩ | ⟨rest, rfl, tail⟩
  · cases rest with
    | nil => exact (List.cons.inj tail).1
    | cons head rest =>
      cases tail
      exact absurd ⟨before, rest, rfl, owned, is_ready, settled⟩ (other_none first)
  · cases rest with
    | nil => exact (List.cons.inj tail).1.symm
    | cons head rest =>
      cases tail
      exact absurd ⟨other_before, rest, rfl, other_owned, other_ready, other_settled⟩ (none_before second)

/-- What a selection must satisfy. -/
def Selects (ready : OutboxEvent ι κ → Prop) (tenant : ι) (earlier events : List (OutboxEvent ι κ)) :
    Option (OutboxEvent ι κ) → Prop
  | some event => FirstDue ready tenant earlier events event
  | none => ∀ event, ¬ Due ready tenant earlier events event

theorem Selects.here {first : OutboxEvent ι κ} (owned : first.tenantId = tenant) (is_ready : ready first)
    (settled : Settled tenant first.aggregateRef earlier) :
    Selects ready tenant earlier (first :: events) (some first) :=
  ⟨[], events, rfl, owned, is_ready, by simpa using settled, not_due_nil⟩

theorem Selects.skip {first : OutboxEvent ι κ} {selection : Option (OutboxEvent ι κ)}
    (passed : ¬ (first.tenantId = tenant ∧ ready first ∧ Settled tenant first.aggregateRef earlier))
    (selects : Selects ready tenant (earlier ++ [first]) events selection) :
    Selects ready tenant earlier (first :: events) selection := by
  cases selection with
  | some event =>
    obtain ⟨before, after, rfl, owned, is_ready, settled, none_before⟩ := selects
    refine ⟨first :: before, after, rfl, owned, is_ready, by simpa using settled, fun other due => ?_⟩
    rcases (due_cons first other).mp due with ⟨-, here⟩ | later
    · exact passed here
    · exact none_before other later
  | none =>
    rintro event due
    rcases (due_cons first event).mp due with ⟨-, here⟩ | later
    · exact passed here
    · exact selects event later

theorem Selects.eq_some {selection : Option (OutboxEvent ι κ)} (selects : Selects ready tenant earlier events selection)
    (event : OutboxEvent ι κ) : selection = some event ↔ FirstDue ready tenant earlier events event := by
  cases selection with
  | none => exact iff_of_false nofun fun first => selects event first.due
  | some selected =>
    rw [Option.some.injEq]
    exact ⟨fun same => same ▸ selects, fun first => FirstDue.unique selects first⟩

theorem Selects.eq_none {selection : Option (OutboxEvent ι κ)} (selects : Selects ready tenant earlier events selection) :
    selection = none ↔ ∀ event, ¬ Due ready tenant earlier events event := by
  cases selection with
  | none => exact iff_of_true rfl selects
  | some selected => exact iff_of_false nofun fun absent => absent selected (FirstDue.due selects)

variable [DecidableEq ι]

/-- `blocked` holds the aggregates with an open event among those passed. -/
theorem inMemory_selects (now : Timestamp) (blocked : List ι)
    (tracks : ∀ aggregate, aggregate ∉ blocked ↔ Settled tenant aggregate earlier) :
    Selects (InMemoryRepository.Ready now) tenant earlier events
      (InMemoryRepository.nextReady tenant now blocked events) := by
  induction events generalizing blocked earlier with
  | nil => exact not_due_nil
  | cons event rest ih =>
    rw [InMemoryRepository.nextReady]
    split
    · next foreign =>
      refine Selects.skip (fun here => foreign here.1) (ih blocked fun aggregate => ?_)
      rw [tracks, settled_concat]
      simp [foreign]
    · next owned =>
      rw [not_not] at owned
      split
      · next chosen =>
        exact Selects.here owned chosen.1 ((tracks _).mp chosen.2)
      · next passed =>
        have skipped : ¬ (event.tenantId = tenant ∧ InMemoryRepository.Ready now event ∧
            Settled tenant event.aggregateRef earlier) := fun here =>
          passed ⟨here.2.1, (tracks _).mpr here.2.2⟩
        split
        · next terminal =>
          refine Selects.skip skipped (ih blocked fun aggregate => ?_)
          rw [tracks, settled_concat]
          simp [terminal]
        · next opened =>
          refine Selects.skip skipped (ih _ fun aggregate => ?_)
          rw [settled_concat, ← tracks, List.mem_cons, not_or]
          simp only [owned, opened, true_implies, imp_false]
          exact ⟨fun apart => ⟨apart.2, Ne.symm apart.1⟩, fun apart => ⟨Ne.symm apart.2, apart.1⟩⟩

theorem sqlite_selects (now : Timestamp) :
    Selects (SQLiteRepository.Ready now) tenant earlier events
      (SQLiteRepository.nextReady tenant now earlier events) := by
  induction events generalizing earlier with
  | nil => exact not_due_nil
  | cons row rest ih =>
    have query : (¬ ∃ other ∈ earlier, other.tenantId = row.tenantId ∧
        other.aggregateRef = row.aggregateRef ∧ ¬ other.state.Terminal) ↔
          Settled row.tenantId row.aggregateRef earlier := by
      simp [Settled]
    rw [SQLiteRepository.nextReady]
    split
    · next chosen =>
      obtain ⟨rfl, is_ready, unblocked⟩ := chosen
      exact Selects.here rfl is_ready (query.mp unblocked)
    · next passed =>
      refine Selects.skip (fun here => passed ⟨here.1, here.2.1, query.mpr ?_⟩) ih
      rw [here.1]
      exact here.2.2

/-- A call of `claim_next_outbox` hands out the delivery of a due event, and comes
back empty-handed only if no event is due. -/
structure InOrder {σ : Type} (ready : OutboxEvent ι κ → Prop) (tenant : ι) (events : List (OutboxEvent ι κ))
    (outcome : Except Failure (Option (OutboxEvent ι κ) × σ)) : Prop where
  safe : ∀ event after, outcome = .ok (some event, after) →
    ∃ row, Due ready tenant [] events row ∧ event = { row with toDelivery := event.toDelivery }
  complete : ∀ after, outcome = .ok (none, after) → ∀ row, ¬ Due ready tenant [] events row

omit [DecidableEq ι] in
theorem Due.mem {row : OutboxEvent ι κ} (due : Due ready tenant earlier events row) :
    row ∈ events ∧ row.tenantId = tenant := by
  obtain ⟨before, after, rfl, owned, -⟩ := due
  exact ⟨by simp, owned⟩

omit [DecidableEq ι] in
theorem InOrder.of_ready {σ : Type} {other : OutboxEvent ι κ → Prop}
    {outcome : Except Failure (Option (OutboxEvent ι κ) × σ)}
    (same : ∀ row ∈ events, ready row ↔ other row) (ordered : InOrder ready tenant events outcome) :
    InOrder other tenant events outcome := by
  have due_same : ∀ row, Due ready tenant [] events row ↔ Due other tenant [] events row := by
    intro row
    constructor <;> intro due <;> have member := due.mem.1 <;>
      obtain ⟨before, after, shape, owned, is_ready, settled⟩ := due
    · exact ⟨before, after, shape, owned, (same row member).mp is_ready, settled⟩
    · exact ⟨before, after, shape, owned, (same row member).mpr is_ready, settled⟩
  refine ⟨fun event after ran => ?_, fun after ran row due => ?_⟩
  · obtain ⟨row, due, shape⟩ := ordered.safe event after ran
    exact ⟨row, (due_same row).mp due, shape⟩
  · exact ordered.complete after ran row ((due_same row).mpr due)

theorem inMemory_inOrder [DecidableEq κ] (box : InMemoryRepository.Outbox ι κ) (worker : ι)
    (now leaseUntil : Timestamp) :
    InOrder (InMemoryRepository.Ready now) tenant box.events
      (InMemoryRepository.claimNextOutbox tenant worker now leaseUntil box) := by
  have selects : Selects (InMemoryRepository.Ready now) tenant [] box.events
      (InMemoryRepository.nextReady tenant now [] box.events) :=
    inMemory_selects now [] fun aggregate => by simp [Settled]
  refine ⟨fun event after claimed => ?_, fun after claimed => ?_⟩
  · obtain ⟨row, selected, taken⟩ := InMemoryRepository.claimNextOutbox_eq_some claimed
    rw [selected] at selects
    obtain ⟨found, delivery, bound, -, rfl, -⟩ := InMemoryRepository.claimOutbox_eq_ok taken
    have same : row = found := by
      have row_bound := box.find_of_mem selects.due.mem.1
      rw [selects.due.mem.2, bound] at row_bound
      exact (Option.some.inj row_bound).symm
    exact ⟨row, selects.due, by rw [same]⟩
  · rwa [(InMemoryRepository.claimNextOutbox_eq_none claimed).1] at selects

theorem sqlite_inOrder (box : SQLiteRepository.Outbox ι κ) (worker : ι) (now leaseUntil : Timestamp) :
    InOrder (SQLiteRepository.Ready now) tenant box.rows
      (SQLiteRepository.claimNextOutbox tenant worker now leaseUntil box) := by
  have selects : Selects (SQLiteRepository.Ready now) tenant [] box.rows
      (SQLiteRepository.nextReady tenant now [] box.rows) := sqlite_selects now
  refine ⟨fun event after claimed => ?_, fun after claimed => ?_⟩
  · obtain ⟨row, selected, taken⟩ := SQLiteRepository.claimNextOutbox_eq_some claimed
    rw [selected] at selects
    obtain ⟨found, delivery, member, named, -, rfl, -⟩ := SQLiteRepository.claimOutbox_eq_ok taken
    have same : row = found := by
      have row_bound := box.find_of_mem selects.due.mem.1
      rw [selects.due.mem.2, (box.find_eq_some _ _ _).mpr ⟨member, named⟩] at row_bound
      exact (Option.some.inj row_bound).symm
    exact ⟨row, selects.due, by rw [same]⟩
  · rwa [(SQLiteRepository.claimNextOutbox_eq_none claimed).1] at selects

/-! ## Insertion order -/

/-- The names of the events, in the order of the table. -/
def names (events : List (OutboxEvent ι κ)) : List (ι × ι) := events.map fun event => (event.tenantId, event.id)

theorem names_deliver (rows : List (OutboxEvent ι κ)) (tenant id : ι) (delivery : Delivery ι) :
    names (rows.map (·.deliver tenant id delivery)) = names rows := by
  simp [names, Function.comp_def]

/-- A call keeps the events where they are and lists a new one behind them. -/
def KeepsOrder (action : OutboxAction ι κ) (before after : List (OutboxEvent ι κ)) : Prop :=
  names after = names before ∨
    ∃ event, action = .append event ∧ names after = names before ++ [(event.tenantId, event.id)]

theorem inMemory_keepsOrder [DecidableEq κ] (call : OutboxCall ι κ) (box : InMemoryRepository.Outbox ι κ) :
    KeepsOrder call.action box.events (InMemoryRepository.step call box).2.events := by
  rcases InMemoryRepository.step_cases call box with
    same | ⟨event, action, same⟩ | ⟨id, event, delivery, bound, same⟩
  · exact .inl (by rw [same])
  · rw [same]
    have written := Library.keys_bindEntry box.outbox.entries (event.tenantId, event.id) event
    change KeepsOrder _ _ (box.put event).events
    simp only [KeepsOrder, names, ← InMemoryRepository.Outbox.keys_eq]
    by_cases known : (event.tenantId, event.id) ∈ box.outbox.entries.map Prod.fst
    · exact .inl (written.trans (if_pos known))
    · exact .inr ⟨event, action, written.trans (if_neg known)⟩
  · refine .inl ?_
    rw [same, box.events_put_of_bound delivery bound, names_deliver]

theorem sqlite_keepsOrder [DecidableEq κ] (safeError : String → String) (call : OutboxCall ι κ)
    (table : SQLiteRepository.Outbox ι κ) :
    KeepsOrder call.action table.rows (SQLiteRepository.step safeError call table).2.rows := by
  have stepped := SQLiteRepository.step_stepped safeError call table
  generalize (SQLiteRepository.step safeError call table).1 = result at stepped
  generalize (SQLiteRepository.step safeError call table).2 = after at stepped ⊢
  cases stepped with
  | refused | idle => exact .inl rfl
  | @appended event _ _ action =>
    exact .inr ⟨event, action, by simp [names, SQLiteRepository.Outbox.insert, SQLiteRepository.stored]⟩
  | claimed | checkpointed | failed => exact .inl (names_deliver _ _ _ _)

/-! ## One zone -/

/-- All times of the event are written in one zone. -/
def InZone (zone : Int) (event : OutboxEvent ι κ) : Prop :=
  event.createdAt.offset = zone ∧ (∀ time ∈ event.availableAt, time.offset = zone) ∧
    ∀ time ∈ event.leaseUntil, time.offset = zone

/-- All times that a call passes are written in one zone. -/
def CallInZone (zone : Int) (call : OutboxCall ι κ) : Prop :=
  call.now.offset = zone ∧ match call.action with
    | .append event => InZone zone event
    | .claim _ _ _ leaseUntil | .claimNext _ _ leaseUntil => leaseUntil.offset = zone
    | .checkpoint .. | .fail .. => True

omit [DecidableEq ι] in
/-- Within one zone the query of SQLite is chronological. -/
theorem ready_iff {now : Timestamp} {row : OutboxEvent ι κ} (zoned : InZone now.offset row) :
    SQLiteRepository.Ready now row ↔ InMemoryRepository.Ready now row := by
  obtain ⟨created, available, expiries⟩ := zoned
  have start : (row.availableAt.getD row.createdAt).offset = now.offset := by
    cases given : row.availableAt with
    | none => exact created
    | some time => exact available time given
  have expired : (∃ expiry ∈ row.leaseUntil, expiry.textLe now) ↔ ∃ expiry ∈ row.leaseUntil, expiry ≤ now :=
    exists_congr fun expiry => and_congr_right fun member =>
      Library.Timestamp.textLe_iff_le (expiries expiry member)
  rw [SQLiteRepository.Ready, InMemoryRepository.Ready, Library.Timestamp.textLe_iff_le start, expired]

theorem step_inZone [DecidableEq κ] (safeError : String → String) {zone : Int} {call : OutboxCall ι κ}
    {box : SQLiteRepository.Outbox ι κ} (zoned : CallInZone zone call)
    (rows : ∀ row ∈ box.rows, InZone zone row) :
    ∀ row ∈ (SQLiteRepository.step safeError call box).2.rows, InZone zone row := by
  have stepped := SQLiteRepository.step_stepped safeError call box
  generalize (SQLiteRepository.step safeError call box).1 = result at stepped
  generalize (SQLiteRepository.step safeError call box).2 = after at stepped ⊢
  cases stepped with
  | refused | idle => exact rows
  | @appended event id_fresh key_fresh action =>
    intro row member
    rcases List.mem_append.mp member with old | new
    · exact rows row old
    · rw [List.mem_singleton.mp new]
      have created := zoned.2
      simp only [action] at created
      refine ⟨created.1, fun time given => ?_, created.2.2⟩
      simp only [SQLiteRepository.stored, Option.mem_def, Option.some.injEq] at given
      subst given
      cases available : event.availableAt with
      | none => exact created.1
      | some time => exact created.2.1 time available
  | @claimed row worker leaseUntil delivery member claims delivered =>
    refine SQLiteRepository.Outbox.forall_update member rows ?_
    obtain ⟨-, rfl⟩ := SQLiteRepository.claimDelivery_eq_ok.mp delivered
    have expiry_zoned : leaseUntil.offset = zone := by
      rcases claims with action | ⟨action, -⟩ <;> simpa [CallInZone, action] using zoned.2
    exact ⟨(rows row member).1, (rows row member).2.1, by simpa [SQLiteRepository.leaseTo] using expiry_zoned⟩
  | @checkpointed row worker token checkpoint completed member =>
    refine SQLiteRepository.Outbox.forall_update member rows ?_
    refine ⟨(rows row member).1, (rows row member).2.1, fun time kept => (rows row member).2.2 time ?_⟩
    simp only [SQLiteRepository.checkpointDelivery] at kept
    split at kept
    · cases kept
    · exact kept
  | @failed row worker token error maxAttempts member =>
    refine SQLiteRepository.Outbox.forall_update member rows ?_
    refine ⟨(rows row member).1, fun time given => ?_, nofun⟩
    simp only [SQLiteRepository.failDelivery, Option.mem_def, Option.some.injEq] at given
    subst given
    split
    · exact zoned.1
    · exact zoned.1

/-- Either repository delivers every aggregate in order; SQLite's readiness is the
chronological one whenever a run writes its times in the zone of the clock. -/
theorem claimNextOutbox_inOrder [DecidableEq κ] (tenant worker : ι) (now leaseUntil : Timestamp) :
    (∀ box : InMemoryRepository.Outbox ι κ, InOrder (InMemoryRepository.Ready now) tenant box.events
      (InMemoryRepository.claimNextOutbox tenant worker now leaseUntil box)) ∧
    (∀ box : SQLiteRepository.Outbox ι κ, InOrder (SQLiteRepository.Ready now) tenant box.rows
      (SQLiteRepository.claimNextOutbox tenant worker now leaseUntil box)) ∧
    ∀ (safeError : String → String) (tenants : List ι) (calls : List (OutboxCall ι κ)),
      (∀ call ∈ calls, CallInZone now.offset call) →
      let box := Library.final (SQLiteRepository.step safeError) (SQLiteRepository.Outbox.empty tenants) calls
      InOrder (InMemoryRepository.Ready now) tenant box.rows
        (SQLiteRepository.claimNextOutbox tenant worker now leaseUntil box) := by
  refine ⟨fun box => inMemory_inOrder box worker now leaseUntil,
    fun box => sqlite_inOrder box worker now leaseUntil, fun safeError tenants calls zoned => ?_⟩
  -- all texts of the run are of one zone, where they compare like the instants
  have rows_zoned : ∀ row ∈ (Library.final (SQLiteRepository.step safeError)
      (SQLiteRepository.Outbox.empty tenants) calls).rows, InZone now.offset row :=
    Library.final_invariant (fun box : SQLiteRepository.Outbox ι κ => ∀ row ∈ box.rows, InZone now.offset row)
      (by simp [SQLiteRepository.Outbox.empty])
      fun call member box rows => step_inZone safeError (zoned call member) rows
  exact (sqlite_inOrder _ worker now leaseUntil).of_ready fun row member => ready_iff (rows_zoned row member)

/-- Two events of one aggregate and one of another, all in UTC. -/
def backlog : List (OutboxCall String String) :=
  [⟨.utc 0, .append (.pendingEvent "a" "shop" "tool.command" "first" [] "key-a" (.utc 0))⟩,
   ⟨.utc 0, .append (.pendingEvent "b" "shop" "tool.command" "first" [] "key-b" (.utc 0))⟩,
   ⟨.utc 0, .append (.pendingEvent "c" "shop" "tool.command" "second" [] "key-c" (.utc 0))⟩,
   ⟨.utc 1, .claimNext "shop" "worker" (.utc 31)⟩]

theorem claimNextOutbox_inOrder_backlog :
    InOrder (InMemoryRepository.Ready (.utc 2)) "shop"
      (Library.final (SQLiteRepository.step id) (SQLiteRepository.Outbox.empty ["shop"]) backlog).rows
      (SQLiteRepository.claimNextOutbox "shop" "worker" (.utc 2) (.utc 32)
        (Library.final (SQLiteRepository.step id) (SQLiteRepository.Outbox.empty ["shop"]) backlog)) :=
  (claimNextOutbox_inOrder "shop" "worker" (.utc 2) (.utc 32)).2.2 id ["shop"] backlog (by
    intro call member
    simp only [backlog, List.mem_cons, List.not_mem_nil, or_false] at member
    rcases member with rfl | rfl | rfl | rfl <;>
      simp [CallInZone, InZone, OutboxEvent.pendingEvent, Library.Timestamp.utc])

end AiStore.DeliveryOrder
