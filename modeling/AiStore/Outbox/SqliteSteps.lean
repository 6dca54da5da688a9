import AiStore.Outbox.Sqlite

/-! What one call can do to the outbox table. -/

set_option autoImplicit false

namespace AiStore.SQLiteRepository

open Library Failure

variable {ι κ : Type} [DecidableEq ι]

namespace Outbox

theorem find_eq_some (box : Outbox ι κ) (tenant id : ι) (row : OutboxEvent ι κ) :
    box.find tenant id = some row ↔ row ∈ box.rows ∧ row.Named tenant id := by
  constructor
  · intro found
    exact ⟨List.mem_of_find?_eq_some found, by simpa using List.find?_some found⟩
  · rintro ⟨member, named⟩
    rw [find, List.find?_eq_some_iff_append]
    obtain ⟨before, after, shape⟩ := List.append_of_mem member
    refine ⟨by simpa using named, before, after, shape, fun other earlier => ?_⟩
    have unique := box.primaryKey
    rw [shape, List.map_append, List.map_cons, List.nodup_append] at unique
    have apart := unique.2.2 other.id (List.mem_map_of_mem earlier) row.id List.mem_cons_self
    have unnamed : ¬ other.Named tenant id := fun other_named => apart (other_named.2.trans named.2.symm)
    simp [unnamed]

theorem find_eq_none (box : Outbox ι κ) (tenant id : ι) :
    box.find tenant id = none ↔ ∀ row ∈ box.rows, ¬ row.Named tenant id := by
  simp [find]

theorem find_of_mem (box : Outbox ι κ) {row : OutboxEvent ι κ} (member : row ∈ box.rows) :
    box.find row.tenantId row.id = some row :=
  (box.find_eq_some _ _ _).mpr ⟨member, rfl, rfl⟩

theorem find_update (box : Outbox ι κ) (tenant id other_tenant other_id : ι) (delivery : Delivery ι) :
    (box.update tenant id delivery).find other_tenant other_id =
      (box.find other_tenant other_id).map (·.deliver tenant id delivery) := by
  simp [find, update, List.find?_map, Function.comp_def]

theorem find_insert (box : Outbox ι κ) (row : OutboxEvent ι κ) (id_fresh : row.id ∉ box.rows.map (·.id))
    (key_fresh : (row.tenantId, row.idempotencyKey) ∉ box.rows.map fun row => (row.tenantId, row.idempotencyKey))
    (tenant id : ι) :
    (box.insert row id_fresh key_fresh).find tenant id =
      if row.Named tenant id then some row else box.find tenant id := by
  simp only [find, insert, List.find?_append, List.find?_singleton]
  by_cases named : row.Named tenant id
  · have absent : box.rows.find? (fun row => row.Named tenant id) = none := by
      refine (box.find_eq_none tenant id).mpr fun other member other_named => ?_
      exact id_fresh (List.mem_map.mpr ⟨other, member, other_named.2.trans named.2.symm⟩)
    simp [absent, named]
  · simp [named]

/-- What holds of every row survives an update that keeps it on the row it names. -/
theorem forall_update {holds : OutboxEvent ι κ → Prop} {box : Outbox ι κ} {row : OutboxEvent ι κ}
    {delivery : Delivery ι} (member : row ∈ box.rows) (rows : ∀ other ∈ box.rows, holds other)
    (updated : holds { row with toDelivery := delivery }) :
    ∀ other ∈ (box.update row.tenantId row.id delivery).rows, holds other := by
  intro other other_member
  obtain ⟨old, old_member, rfl⟩ := List.mem_map.mp other_member
  by_cases named : old.Named row.tenantId row.id
  · have same : old = row := Option.some.inj
      (((box.find_eq_some _ _ _).mpr ⟨old_member, named⟩).symm.trans (box.find_of_mem member))
    rw [OutboxEvent.deliver_of_named _ _ _ _ named, same]
    exact updated
  · rw [OutboxEvent.deliver_of_not_named _ _ _ _ named]
    exact rows old old_member

end Outbox

/-- Terminal, waiting for its retry, or leased. -/
def Refuses (delivery : Delivery ι) (now : Timestamp) : Prop :=
  delivery.state.Terminal ∨ (delivery.state = .retry ∧ ∃ available ∈ delivery.availableAt, now < available) ∨
    delivery.Leased now

omit [DecidableEq ι] in
theorem claimDelivery_of_refuses {delivery : Delivery ι} {now : Timestamp} (refuses : Refuses delivery now)
    (worker : ι) (leaseUntil : Timestamp) :
    ∃ message, claimDelivery delivery worker now leaseUntil = .error (conflictError message) := by
  unfold claimDelivery
  split
  · exact ⟨_, rfl⟩
  · next opened =>
    split
    · exact ⟨_, rfl⟩
    · next due => exact ⟨_, if_pos ((refuses.resolve_left opened).resolve_left due)⟩

omit [DecidableEq ι] in
theorem claimDelivery_of_accepts {delivery : Delivery ι} {now : Timestamp} (accepts : ¬ Refuses delivery now)
    (worker : ι) (leaseUntil : Timestamp) :
    claimDelivery delivery worker now leaseUntil = .ok (leaseTo delivery worker leaseUntil) := by
  rw [Refuses, not_or, not_or] at accepts
  rw [claimDelivery, if_neg accepts.1, if_neg accepts.2.1, if_neg accepts.2.2]

omit [DecidableEq ι] in
theorem claimDelivery_eq_ok {delivery claimed : Delivery ι} {worker : ι} {now leaseUntil : Timestamp} :
    claimDelivery delivery worker now leaseUntil = .ok claimed ↔
      ¬ Refuses delivery now ∧ claimed = leaseTo delivery worker leaseUntil := by
  by_cases refuses : Refuses delivery now
  · obtain ⟨message, refused⟩ := claimDelivery_of_refuses refuses worker leaseUntil
    simp [refused, refuses]
  · simp [claimDelivery_of_accepts refuses, refuses, eq_comm]

section

variable {box : Outbox ι κ} {tenant id : ι} {row : OutboxEvent ι κ} {now : Timestamp}

theorem claimOutbox_of_refuses (found : box.find tenant id = some row) (refuses : Refuses row.toDelivery now)
    (worker : ι) (leaseUntil : Timestamp) :
    ∃ message, claimOutbox tenant id worker now leaseUntil box = .error (conflictError message) := by
  obtain ⟨message, refused⟩ := claimDelivery_of_refuses refuses worker leaseUntil
  exact ⟨message, by simp only [claimOutbox, found, refused, Except.map]⟩

theorem claimOutbox_of_accepts (found : box.find tenant id = some row) (accepts : ¬ Refuses row.toDelivery now)
    (worker : ι) (leaseUntil : Timestamp) :
    claimOutbox tenant id worker now leaseUntil box =
      .ok ({ row with toDelivery := leaseTo row.toDelivery worker leaseUntil },
        box.update tenant id (leaseTo row.toDelivery worker leaseUntil)) := by
  simp only [claimOutbox, found, claimDelivery_of_accepts accepts, Except.map]

end

variable [DecidableEq κ]

/-- The stored form of an appended event. -/
def stored (event : OutboxEvent ι κ) : OutboxEvent ι κ :=
  { event with availableAt := some (event.availableAt.getD event.createdAt) }

/-- A claim by name, or one of the next event that turned out to be `row`. -/
def Claims (call : OutboxCall ι κ) (box : Outbox ι κ) (row : OutboxEvent ι κ) (worker : ι)
    (leaseUntil : Timestamp) : Prop :=
  call.action = .claim row.tenantId row.id worker leaseUntil ∨
    call.action = .claimNext row.tenantId worker leaseUntil ∧
      nextReady row.tenantId call.now [] box.rows = some row

inductive Stepped (safeError : String → String) (call : OutboxCall ι κ) (box : Outbox ι κ) :
    OutboxResult ι κ → Outbox ι κ → Prop where
  | refused (why : Failure) : Stepped safeError call box (.error why) box
  | idle {tenant worker : ι} {leaseUntil : Timestamp} :
      call.action = .claimNext tenant worker leaseUntil → nextReady tenant call.now [] box.rows = none →
      Stepped safeError call box (.ok none) box
  | appended {event : OutboxEvent ι κ} (id_fresh : (stored event).id ∉ box.rows.map (·.id))
      (key_fresh : ((stored event).tenantId, (stored event).idempotencyKey) ∉
        box.rows.map fun row => (row.tenantId, row.idempotencyKey)) :
      call.action = .append event →
      Stepped safeError call box (.ok none) (box.insert (stored event) id_fresh key_fresh)
  | claimed {row : OutboxEvent ι κ} {worker : ι} {leaseUntil : Timestamp} {delivery : Delivery ι} :
      row ∈ box.rows → Claims call box row worker leaseUntil →
      claimDelivery row.toDelivery worker call.now leaseUntil = .ok delivery →
      Stepped safeError call box (.ok (some { row with toDelivery := delivery }))
        (box.update row.tenantId row.id delivery)
  | checkpointed {row : OutboxEvent ι κ} {worker : ι} {token : Nat} {checkpoint : Mapping} {completed : Bool} :
      row ∈ box.rows → call.action = .checkpoint row.tenantId row.id worker token checkpoint completed →
      row.HeldBy worker token call.now →
      Stepped safeError call box
        (.ok (some { row with toDelivery :=
          { checkpointDelivery row.toDelivery worker checkpoint call.now completed with
            completedAt := if completed then some call.now else row.completedAt } }))
        (box.update row.tenantId row.id (checkpointDelivery row.toDelivery worker checkpoint call.now completed))
  | failed {row : OutboxEvent ι κ} {worker : ι} {token : Nat} {error : String} {maxAttempts : Int} :
      row ∈ box.rows → call.action = .fail row.tenantId row.id worker token error maxAttempts →
      row.HeldBy worker token call.now → 1 ≤ maxAttempts →
      Stepped safeError call box
        (.ok (some { row with toDelivery := failDelivery safeError row.toDelivery error call.now maxAttempts }))
        (box.update row.tenantId row.id (failDelivery safeError row.toDelivery error call.now maxAttempts))

omit [DecidableEq κ] in
theorem claimOutbox_eq_ok {tenant id worker : ι} {now leaseUntil : Timestamp} {box after : Outbox ι κ}
    {event : OutboxEvent ι κ} (claimed : claimOutbox tenant id worker now leaseUntil box = .ok (event, after)) :
    ∃ row delivery, row ∈ box.rows ∧ row.Named tenant id ∧
      claimDelivery row.toDelivery worker now leaseUntil = .ok delivery ∧
      event = { row with toDelivery := delivery } ∧ after = box.update tenant id delivery := by
  unfold claimOutbox at claimed
  split at claimed
  · split at claimed <;> cases claimed
  · next row found =>
    obtain ⟨member, named⟩ := (box.find_eq_some _ _ _).mp found
    cases delivered : claimDelivery row.toDelivery worker now leaseUntil with
    | error why => simp [delivered, Except.map] at claimed
    | ok delivery =>
      simp only [delivered, Except.map, Except.ok.injEq, Prod.mk.injEq] at claimed
      exact ⟨row, delivery, member, named, delivered, claimed.1.symm, claimed.2.symm⟩

omit [DecidableEq κ] in
theorem leasedRow_eq_ok {tenant id worker : ι} {token : Nat} {now : Timestamp} {box : Outbox ι κ}
    {row : OutboxEvent ι κ} (leased : leasedRow tenant id worker token now box = .ok row) :
    row ∈ box.rows ∧ row.Named tenant id ∧ row.HeldBy worker token now := by
  unfold leasedRow at leased
  split at leased
  · cases leased
  · next found_row found =>
    split at leased
    · next held =>
      cases leased
      exact ⟨((box.find_eq_some _ _ _).mp found).1, ((box.find_eq_some _ _ _).mp found).2, held⟩
    · cases leased

omit [DecidableEq κ] in
theorem nextReady_mem {tenant : ι} {now : Timestamp} {prior rows : List (OutboxEvent ι κ)}
    {row : OutboxEvent ι κ} (selected : nextReady tenant now prior rows = some row) :
    row ∈ rows ∧ row.tenantId = tenant := by
  induction rows generalizing prior with
  | nil => simp [nextReady] at selected
  | cons first rest ih =>
    rw [nextReady] at selected
    split at selected
    · next chosen =>
      cases selected
      exact ⟨List.mem_cons_self, chosen.1⟩
    · exact ⟨List.mem_cons_of_mem _ (ih selected).1, (ih selected).2⟩

omit [DecidableEq κ] in
theorem claimNextOutbox_eq_some {tenant worker : ι} {now leaseUntil : Timestamp} {box after : Outbox ι κ}
    {event : OutboxEvent ι κ}
    (claimed : claimNextOutbox tenant worker now leaseUntil box = .ok (some event, after)) :
    ∃ row, nextReady tenant now [] box.rows = some row ∧
      claimOutbox tenant row.id worker now leaseUntil box = .ok (event, after) := by
  unfold claimNextOutbox at claimed
  split at claimed
  · cases claimed
  · next row selected =>
    refine ⟨row, selected, ?_⟩
    cases delivered : claimOutbox tenant row.id worker now leaseUntil box with
    | error why => simp [delivered, Except.map] at claimed
    | ok pair => simpa [delivered, Except.map, Prod.ext_iff] using claimed

omit [DecidableEq κ] in
theorem claimNextOutbox_eq_none {tenant worker : ι} {now leaseUntil : Timestamp} {box after : Outbox ι κ}
    (claimed : claimNextOutbox tenant worker now leaseUntil box = .ok (none, after)) :
    nextReady tenant now [] box.rows = none ∧ after = box := by
  unfold claimNextOutbox at claimed
  split at claimed
  · next none_ready =>
    cases claimed
    exact ⟨none_ready, rfl⟩
  · next row selected =>
    cases delivered : claimOutbox tenant row.id worker now leaseUntil box <;>
      simp [delivered, Except.map, Prod.ext_iff] at claimed

theorem step_stepped (safeError : String → String) (call : OutboxCall ι κ) (box : Outbox ι κ) :
    Stepped safeError call box (step safeError call box).1 (step safeError call box).2 := by
  rw [step]
  cases performed : perform safeError call box with
  | error why => exact .refused why
  | ok outcome =>
    obtain ⟨now, action⟩ := call
    cases action with
    | append event =>
      simp only [perform, appendOutbox] at performed
      split at performed
      · cases performed
      · split at performed
        · next free =>
          cases performed
          exact .appended free.1 free.2.1 rfl
        · cases performed
    | claim tenant id worker leaseUntil =>
      simp only [perform] at performed
      cases claimed : claimOutbox tenant id worker now leaseUntil box with
      | error why => simp [claimed, Except.map] at performed
      | ok pair =>
        rw [claimed] at performed
        cases performed
        obtain ⟨row, delivery, member, ⟨rfl, rfl⟩, delivered, event_eq, after_eq⟩ := claimOutbox_eq_ok claimed
        simp only [Prod.map, event_eq, after_eq, attempt]
        exact .claimed member (.inl rfl) delivered
    | claimNext tenant worker leaseUntil =>
      simp only [perform] at performed
      obtain ⟨event | event, after⟩ := outcome
      · obtain ⟨none_ready, rfl⟩ := claimNextOutbox_eq_none performed
        exact .idle rfl none_ready
      · obtain ⟨row, selected, claimed⟩ := claimNextOutbox_eq_some performed
        obtain ⟨row_member, rfl⟩ := nextReady_mem selected
        obtain ⟨other, delivery, member, named, delivered, rfl, rfl⟩ := claimOutbox_eq_ok claimed
        have same : other = row := Option.some.inj
          (((box.find_eq_some _ _ _).mpr ⟨member, named⟩).symm.trans (box.find_of_mem row_member))
        subst same
        exact .claimed member (.inr ⟨rfl, selected⟩) delivered
    | checkpoint tenant id worker token checkpoint completed =>
      simp only [perform, checkpointOutbox] at performed
      cases leased : leasedRow tenant id worker token now box with
      | error why => simp [leased, Except.map] at performed
      | ok row =>
        rw [leased] at performed
        obtain ⟨member, ⟨rfl, rfl⟩, held⟩ := leasedRow_eq_ok leased
        simp only at performed
        split at performed
        · cases performed
          exact .checkpointed member rfl held
        · cases performed
    | fail tenant id worker token error maxAttempts =>
      simp only [perform, failOutbox] at performed
      split at performed
      · cases performed
      · next enough =>
        cases leased : leasedRow tenant id worker token now box with
        | error why => simp [leased, Except.map] at performed
        | ok row =>
          rw [leased] at performed
          obtain ⟨member, ⟨rfl, rfl⟩, held⟩ := leasedRow_eq_ok leased
          cases performed
          exact .failed member rfl held (by omega)

/-! ## One row -/

/-- A claim, by name or of the next event, on behalf of `worker`. -/
def ClaimsAs (action : OutboxAction ι κ) (worker : ι) (leaseUntil : Timestamp) : Prop :=
  (∃ tenant id, action = .claim tenant id worker leaseUntil) ∨ ∃ tenant, action = .claimNext tenant worker leaseUntil

/-- What a call can do to one row: nothing, unless it returns the row. -/
inductive RowStepped (safeError : String → String) (call : OutboxCall ι κ) (row : OutboxEvent ι κ) :
    OutboxResult ι κ → OutboxEvent ι κ → Prop where
  | untouched {result : OutboxResult ι κ} :
      (∀ event, result = .ok (some event) → ¬ event.Named row.tenantId row.id) →
      RowStepped safeError call row result row
  | claimed {worker : ι} {leaseUntil : Timestamp} {delivery : Delivery ι} :
      ClaimsAs call.action worker leaseUntil →
      claimDelivery row.toDelivery worker call.now leaseUntil = .ok delivery →
      RowStepped safeError call row (.ok (some { row with toDelivery := delivery }))
        { row with toDelivery := delivery }
  | checkpointed {worker : ι} {token : Nat} {checkpoint : Mapping} {completed : Bool}
      {event : OutboxEvent ι κ} :
      call.action = .checkpoint row.tenantId row.id worker token checkpoint completed →
      row.HeldBy worker token call.now → event.Named row.tenantId row.id →
      RowStepped safeError call row (.ok (some event))
        { row with toDelivery := checkpointDelivery row.toDelivery worker checkpoint call.now completed }
  | failed {worker : ι} {token : Nat} {error : String} {maxAttempts : Int} :
      call.action = .fail row.tenantId row.id worker token error maxAttempts →
      row.HeldBy worker token call.now → 1 ≤ maxAttempts →
      RowStepped safeError call row
        (.ok (some { row with toDelivery := failDelivery safeError row.toDelivery error call.now maxAttempts }))
        { row with toDelivery := failDelivery safeError row.toDelivery error call.now maxAttempts }

omit [DecidableEq κ] in
theorem Claims.as {call : OutboxCall ι κ} {box : Outbox ι κ} {row : OutboxEvent ι κ} {worker : ι}
    {leaseUntil : Timestamp} (claims : Claims call box row worker leaseUntil) :
    ClaimsAs call.action worker leaseUntil := by
  rcases claims with action | ⟨action, -⟩
  · exact .inl ⟨_, _, action⟩
  · exact .inr ⟨_, action⟩

/-- Every row is still there behind a call. -/
theorem step_row (safeError : String → String) (call : OutboxCall ι κ) {box : Outbox ι κ}
    {tenant id : ι} {row : OutboxEvent ι κ} (found : box.find tenant id = some row) :
    ∃ after, (step safeError call box).2.find tenant id = some after ∧
      RowStepped safeError call row (step safeError call box).1 after := by
  have stepped := step_stepped safeError call box
  generalize (step safeError call box).1 = result at stepped ⊢
  generalize (step safeError call box).2 = behind at stepped ⊢
  obtain ⟨row_member, rfl, rfl⟩ := (box.find_eq_some _ _ _).mp found
  have elsewhere : ∀ (other : OutboxEvent ι κ) (delivery : Delivery ι), ¬ row.Named other.tenantId other.id →
      (box.update other.tenantId other.id delivery).find row.tenantId row.id = some row := by
    intro other delivery apart
    rw [Outbox.find_update, found, Option.map_some, OutboxEvent.deliver_of_not_named _ _ _ _ apart]
  have here : ∀ delivery : Delivery ι, (box.update row.tenantId row.id delivery).find row.tenantId row.id =
      some { row with toDelivery := delivery } := by
    intro delivery
    rw [Outbox.find_update, found, Option.map_some, OutboxEvent.deliver_of_named _ _ _ _ ⟨rfl, rfl⟩]
  have named_eq : ∀ other ∈ box.rows, row.Named other.tenantId other.id → other = row := by
    intro other member named
    have other_found := box.find_of_mem member
    rw [← named.1, ← named.2, found] at other_found
    exact (Option.some.inj other_found).symm
  cases stepped with
  | refused | idle => exact ⟨row, found, .untouched (by simp)⟩
  | @appended event id_fresh key_fresh action =>
    have apart : ¬ (stored event).Named row.tenantId row.id := fun named =>
      id_fresh (List.mem_map.mpr ⟨row, row_member, named.2.symm⟩)
    refine ⟨row, ?_, .untouched (by simp)⟩
    rw [Outbox.find_insert, if_neg apart, found]
  | @claimed other worker leaseUntil delivery member claims delivered =>
    by_cases named : row.Named other.tenantId other.id
    · cases named_eq other member named
      exact ⟨_, here delivery, .claimed claims.as delivered⟩
    · refine ⟨row, elsewhere other delivery named, .untouched fun event same => ?_⟩
      cases same
      exact fun other_named => named ⟨other_named.1.symm, other_named.2.symm⟩
  | @checkpointed other worker token checkpoint completed member action held =>
    by_cases named : row.Named other.tenantId other.id
    · cases named_eq other member named
      exact ⟨_, here _, .checkpointed action held ⟨rfl, rfl⟩⟩
    · refine ⟨row, elsewhere other _ named, .untouched fun event same => ?_⟩
      cases same
      exact fun other_named => named ⟨other_named.1.symm, other_named.2.symm⟩
  | @failed other worker token error maxAttempts member action held enough =>
    by_cases named : row.Named other.tenantId other.id
    · cases named_eq other member named
      exact ⟨_, here _, .failed action held enough⟩
    · refine ⟨row, elsewhere other _ named, .untouched fun event same => ?_⟩
      cases same
      exact fun other_named => named ⟨other_named.1.symm, other_named.2.symm⟩

/-- A call returns only events that were there before it. -/
theorem step_returns (safeError : String → String) (call : OutboxCall ι κ) {box : Outbox ι κ}
    {event : OutboxEvent ι κ} (returned : (step safeError call box).1 = .ok (some event)) :
    (box.find event.tenantId event.id).isSome := by
  have stepped := step_stepped safeError call box
  rw [returned] at stepped
  generalize (step safeError call box).2 = behind at stepped
  cases stepped with
  | @claimed row _ _ _ member => exact Option.isSome_iff_exists.mpr ⟨row, box.find_of_mem member⟩
  | @checkpointed row _ _ _ _ member => exact Option.isSome_iff_exists.mpr ⟨row, box.find_of_mem member⟩
  | @failed row _ _ _ _ member => exact Option.isSome_iff_exists.mpr ⟨row, box.find_of_mem member⟩

/-- A row that a call brings into being is the stored form of the event it appends. -/
theorem step_appears (safeError : String → String) (call : OutboxCall ι κ) {box : Outbox ι κ}
    {tenant id : ι} {row : OutboxEvent ι κ} (absent : box.find tenant id = none)
    (appears : (step safeError call box).2.find tenant id = some row) :
    (step safeError call box).1 = .ok none ∧ ∃ event, call.action = .append event ∧ row = stored event := by
  have stepped := step_stepped safeError call box
  generalize (step safeError call box).1 = result at stepped ⊢
  generalize (step safeError call box).2 = behind at stepped appears
  cases stepped with
  | refused | idle => simp [absent] at appears
  | @appended event id_fresh key_fresh action =>
    rw [Outbox.find_insert] at appears
    split at appears
    · exact ⟨rfl, event, action, (Option.some.inj appears).symm⟩
    · simp [absent] at appears
  | claimed | checkpointed | failed => simp [Outbox.find_update, absent] at appears

end AiStore.SQLiteRepository
