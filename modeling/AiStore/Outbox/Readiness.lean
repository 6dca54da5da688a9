import AiStore.Outbox.DeliveryOrder

/-! When the readiness test of SQLite is chronological.

The query of `claim_next_outbox` compares ISO texts, `claim_outbox` then compares
instants. The two part where a time was written with another offset than the clock's.
-/

set_option autoImplicit false

namespace AiStore.DeliveryOrder

open Library (Timestamp)

variable {ι κ : Type}

/-- The time of the event that readiness depends on stands to the clock as text as it does as instant. -/
def Agrees (now : Timestamp) (event : OutboxEvent ι κ) : Prop :=
  (event.state = .pending ∨ event.state = .retry →
    ((event.availableAt.getD event.createdAt).textLe now ↔ event.availableAt.getD event.createdAt ≤ now)) ∧
  (event.state = .leased → ∀ expiry ∈ event.leaseUntil, (expiry.textLe now ↔ expiry ≤ now))

/-- The event's turn has come: nothing of its aggregate is open before it. -/
def Reached (tenant : ι) (events : List (OutboxEvent ι κ)) (event : OutboxEvent ι κ) : Prop :=
  ∃ before after, events = before ++ event :: after ∧ event.tenantId = tenant ∧ Settled tenant event.aggregateRef before

theorem due_iff {ready : OutboxEvent ι κ → Prop} {tenant : ι} {events : List (OutboxEvent ι κ)} (event : OutboxEvent ι κ) :
    Due ready tenant [] events event ↔ Reached tenant events event ∧ ready event := by
  constructor
  · rintro ⟨before, after, shape, owned, is_ready, settled⟩
    exact ⟨⟨before, after, shape, owned, settled⟩, is_ready⟩
  · rintro ⟨⟨before, after, shape, owned, settled⟩, is_ready⟩
    exact ⟨before, after, shape, owned, is_ready, settled⟩

/-- The two readiness tests agree on an event exactly when its text and its instant do. -/
theorem ready_iff_agrees (now : Timestamp) (event : OutboxEvent ι κ) :
    (SQLiteRepository.Ready now event ↔ InMemoryRepository.Ready now event) ↔ Agrees now event := by
  unfold SQLiteRepository.Ready InMemoryRepository.Ready Agrees
  cases event.leaseUntil with
  | none => cases event.state <;> simp
  | some expiry => cases event.state <;> simp

variable [DecidableEq ι]

/-- Claims go by the instants: an event satisfies the query exactly when its time has come,
the first such event is handed out, and only a lease that an unleased row carries is refused. -/
structure Chronological (tenant : ι) (now : Timestamp) (box : SQLiteRepository.Outbox ι κ) : Prop where
  claimable : ∀ event, Due (SQLiteRepository.Ready now) tenant [] box.rows event ↔
    Due (InMemoryRepository.Ready now) tenant [] box.rows event
  ordered : ∀ worker leaseUntil, InOrder (InMemoryRepository.Ready now) tenant box.rows
    (SQLiteRepository.claimNextOutbox tenant worker now leaseUntil box)
  raises : ∀ worker leaseUntil why, SQLiteRepository.claimNextOutbox tenant worker now leaseUntil box = .error why →
    ∃ event ∈ box.rows, event.tenantId = tenant ∧ event.state ≠ .leased ∧ event.Leased now

variable {tenant : ι} {now : Timestamp} {box : SQLiteRepository.Outbox ι κ}

omit [DecidableEq ι] in
/-- A due event that is refused carries a live lease although nobody holds it. -/
theorem refused_of_agrees {event : OutboxEvent ι κ} (ready : SQLiteRepository.Ready now event) (agrees : Agrees now event)
    (refuses : SQLiteRepository.Refuses event.toDelivery now) : event.state ≠ .leased ∧ event.Leased now := by
  have timely : InMemoryRepository.Ready now event := ((ready_iff_agrees now event).mpr agrees).mp ready
  rcases timely with ⟨waiting, arrived⟩ | ⟨leased, expiry, recorded, expired⟩
  · have unleased : event.state ≠ .leased := by
      rcases waiting with pending | retry
      · simp [pending]
      · simp [retry]
    rcases refuses with terminal | ⟨retry, available, recorded, later⟩ | live
    · rcases waiting with state | state <;> rcases terminal with other | other <;> cases state.symm.trans other
    · rw [Option.mem_def.mp recorded, Option.getD_some] at arrived
      exact absurd (lt_of_lt_of_le later arrived) (lt_irrefl _)
    · exact ⟨unleased, live⟩
  · rcases refuses with terminal | ⟨retry, -⟩ | ⟨other, also, live⟩
    · rcases terminal with other | other <;> cases leased.symm.trans other
    · cases leased.symm.trans retry
    · cases (Option.mem_def.mp recorded).symm.trans also
      exact absurd (lt_of_lt_of_le live expired) (lt_irrefl _)

/-- SQLite claims chronologically exactly when, of the events whose turn has come, each has
its time ordered as text as it is as instant. -/
theorem chronological_iff (tenant : ι) (now : Timestamp) (box : SQLiteRepository.Outbox ι κ) :
    Chronological tenant now box ↔ ∀ event, Reached tenant box.rows event → Agrees now event := by
  constructor
  · intro chronological event reached
    have claimable := chronological.claimable event
    rw [due_iff, due_iff] at claimable
    apply (ready_iff_agrees now event).mp
    exact ⟨fun ready => (claimable.mp ⟨reached, ready⟩).2, fun ready => (claimable.mpr ⟨reached, ready⟩).2⟩
  · intro agrees
    have claimable : ∀ event, Due (SQLiteRepository.Ready now) tenant [] box.rows event ↔
        Due (InMemoryRepository.Ready now) tenant [] box.rows event := by
      intro event
      rw [due_iff, due_iff]
      exact and_congr_right fun reached => (ready_iff_agrees now event).mpr (agrees event reached)
    refine ⟨claimable, fun worker leaseUntil => ?_, fun worker leaseUntil why raised => ?_⟩
    · have ordered : InOrder (SQLiteRepository.Ready now) tenant box.rows
          (SQLiteRepository.claimNextOutbox tenant worker now leaseUntil box) := sqlite_inOrder box worker now leaseUntil
      refine ⟨fun event after claimed => ?_, fun after claimed row due => ?_⟩
      · obtain ⟨row, due, shape⟩ := ordered.safe event after claimed
        exact ⟨row, (claimable row).mp due, shape⟩
      · exact ordered.complete after claimed row ((claimable row).mpr due)
    · have selects : Selects (SQLiteRepository.Ready now) tenant [] box.rows
          (SQLiteRepository.nextReady tenant now [] box.rows) := sqlite_selects now
      unfold SQLiteRepository.claimNextOutbox at raised
      split at raised
      · cases raised
      · next event selected =>
        rw [selected] at selects
        obtain ⟨reached, ready⟩ := (due_iff event).mp selects.due
        obtain ⟨member, owned⟩ := selects.due.mem
        have found := box.find_of_mem member
        rw [owned] at found
        -- the query has selected an event that the claim itself refuses
        have refuses : SQLiteRepository.Refuses event.toDelivery now := by
          by_contra accepts
          rw [SQLiteRepository.claimOutbox_of_accepts found accepts] at raised
          cases raised
        exact ⟨event, member, owned, refused_of_agrees ready (agrees event reached) refuses⟩

/-! A pending event whose time was written nine hours east of the clock, and one that waits for
its retry and was written five hours west of it. -/

def eastward : List (OutboxCall String String) :=
  [⟨.utc 0, .append (.pendingEvent "a" "shop" "tool.command" "first" [] "key-a" ⟨0, 9 * 3600000000⟩)⟩]

def westward : List (OutboxCall String String) :=
  [⟨.utc 0, .append (.pendingEvent "b" "shop" "tool.command" "second" [] "key-b" (.utc 0))⟩,
   ⟨.utc 1, .claim "shop" "b" "worker" (.utc 14430)⟩,
   ⟨⟨14400000000, -5 * 3600000000⟩, .fail "shop" "b" "worker" 1 "down" 3⟩]

def outboxBehind (calls : List (OutboxCall String String)) : SQLiteRepository.Outbox String String :=
  Library.final (SQLiteRepository.step id) (SQLiteRepository.Outbox.empty ["shop"]) calls

/-- The first event is due and is not claimed; the second is not due, and claiming it raises. -/
theorem offsets_mislead :
    (¬ Chronological "shop" (.utc 3600) (outboxBehind eastward) ∧
      ((SQLiteRepository.claimNextOutbox "shop" "worker" (.utc 3600) (.utc 3630) (outboxBehind eastward)).map
        (·.1)) = .ok none) ∧
    ¬ Chronological "shop" (.utc 14410) (outboxBehind westward) ∧
      (SQLiteRepository.claimNextOutbox "shop" "worker" (.utc 14410) (.utc 14440) (outboxBehind westward)).map
        (·.1) = .error (Failure.conflictError "outbox event is not available") := by
  have unclaimed : ((SQLiteRepository.claimNextOutbox "shop" "worker" (.utc 3600) (.utc 3630)
      (outboxBehind eastward)).map (·.1)) = .ok none := by
    decide +kernel
  have raised : ((SQLiteRepository.claimNextOutbox "shop" "worker" (.utc 14410) (.utc 14440)
      (outboxBehind westward)).map (·.1)) = .error (Failure.conflictError "outbox event is not available") := by
    decide +kernel
  refine ⟨⟨fun chronological => ?_, unclaimed⟩, fun chronological => ?_, raised⟩
  · have timely : ∃ event ∈ (outboxBehind eastward).rows.head?, (outboxBehind eastward).rows = [event] ∧
        event.tenantId = "shop" ∧ InMemoryRepository.Ready (.utc 3600) event := by
      decide +kernel
    obtain ⟨event, -, only, owned, ready⟩ := timely
    cases claimed : SQLiteRepository.claimNextOutbox "shop" "worker" (.utc 3600) (.utc 3630) (outboxBehind eastward) with
    | error why =>
      rw [claimed] at unclaimed
      cases unclaimed
    | ok pair =>
      obtain ⟨found, after⟩ := pair
      rw [claimed] at unclaimed
      cases unclaimed
      apply (chronological.ordered "worker" (.utc 3630)).complete after claimed event
      exact (due_iff event).mpr ⟨⟨[], [], only, owned, fun prior member => by cases member⟩, ready⟩
  · have unleased : ∀ event ∈ (outboxBehind westward).rows, event.leaseUntil = none := by
      decide +kernel
    cases claimed : SQLiteRepository.claimNextOutbox "shop" "worker" (.utc 14410) (.utc 14440)
        (outboxBehind westward) with
    | error why =>
      obtain ⟨event, member, -, -, expiry, recorded, -⟩ := chronological.raises "worker" (.utc 14440) why claimed
      cases (unleased event member).symm.trans (Option.mem_def.mp recorded)
    | ok pair =>
      rw [claimed] at raised
      cases raised

end AiStore.DeliveryOrder
