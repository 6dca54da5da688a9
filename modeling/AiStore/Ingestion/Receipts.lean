import AiStore.Ingestion.Checkpoints

/-! Each event of a connection is received once, whatever pages bring it. -/

set_option autoImplicit false

namespace AiStore.Ingestion

open Library (Session Table final final_invariant)
open Library.Txn Failure Repository Service
open Relation (ReflTransGen)

variable {env : Env} {s t : Session Store}

/-! ## Changes -/

def inboxTables (db : Store) := (db.inbox, db.normalizedPayloads, inboxKeys db)

/-- One change to the receipts and their payloads. -/
inductive Intake (s t : Session Store) : Prop where
  | other (quiet : Quiet inboxTables ingestionTopics s t)
  | stored {row : NormalizedInboundPayload} (missing : s.db.normalizedPayloads.get? row.key = none)
      (written : t = { s with db := { s.db with normalizedPayloads := s.db.normalizedPayloads.put row } })
  | received {message : InboxMessage} (received : Received s message t)
  | processed {key : Uuid × Uuid} {prior message : InboxMessage} (found : s.db.inbox.get? key = some prior)
      (processed : Processed s prior message t)

theorem intake_of_same (same : t.db = s.db) (advances : s.Advances t) : Intake s t :=
  .other (quiet_of_same (congrArg inboxTables same) (congrArg Store.outbox same) advances)

theorem ingestItem_intake {context : TenantContext} {connection : Connection} {now : Timestamp} (item : NormalizedItem) :
    Follows (Intake) (ingestItem env context connection now item) := by
  intro s result t ran
  obtain ⟨message, replayed⟩ := result
  obtain ⟨middle, kept, -, outcome⟩ := ingestItem_ok ran
  have storing : ReflTransGen Intake s middle := by
    cases kept with
    | known => exact .refl
    | new missing => exact .single (.stored missing rfl)
  rcases outcome with ⟨-, rfl⟩ | ⟨-, received⟩
  · exact storing.tail (intake_of_same rfl ⟨Nat.le_succ _, Nat.le_succ _⟩)
  · exact storing.tail (.received received)

theorem commitPage_intake {context : TenantContext} {connection : Connection} {expectedVersion : Nat}
    {description : DemoAdapterDescription} {reading : PollReading} {page : DemoPage} {result : DemoPollResult}
    (ran : (commitPage env context connection expectedVersion description reading page).run s = (.ok result, t)) :
    ReflTransGen Intake s t := by
  obtain ⟨-, items, -, committed⟩ := commitPage_eq_ok.mp ran
  obtain ⟨-, -, receipts, middle, collected, -, -, rfl⟩ := commitItems_eq_ok.mp committed
  have clock : Intake s { s with reads := s.reads + 1 } := intake_of_same rfl ⟨Nat.le_succ _, Nat.le_refl _⟩
  have each : ∀ item, Follows Intake (ingestItem env context connection (env.clock s.reads) item) :=
    fun item => ingestItem_intake item
  have loop := Follows.collect items each _ _ _ collected
  refine (ReflTransGen.head clock loop).tail (.other ?_)
  exact quiet_of_same rfl rfl (.refl _)

/-- Every step of the world is made of such changes. -/
theorem step_intake (event : Event) (world : World) :
    ReflTransGen Intake world.session (World.step env event world).2.session := by
  cases event with
  | expect context connection => exact .refl
  | fetch index description overlapFrom page =>
    simp only [World.step, World.fetch]
    split
    · next context connection expectedVersion found =>
      have frame : Keeps (fun db : Store => db)
          (readCheckpoint context connection expectedVersion description overlapFrom) := by
        refine (keeps_require _).bind fun _ => (keeps_ensure _ _).bind fun _ => (keeps_ensure _ _).bind fun _ => ?_
        refine (keeps_ensure _ _).bind fun _ => Keeps.bind ?_ fun _ => (keeps_query _).bind fun _ => ?_
        · exact ((keeps_query _).bind fun _ => keeps_fetch _ _).bind fun _ => keeps_ensure _ _
        · exact (keeps_ensure _ _).bind fun _ => keeps_pure _
      have advances := (readCheckpoint context connection expectedVersion description overlapFrom).advances world.session
      split
      · next reading session ran =>
        rw [ran] at advances
        exact .single (intake_of_same (frame.of_run ran) advances)
      · next why session ran =>
        rw [ran] at advances
        exact .single (intake_of_same (frame.of_run ran) advances)
    · exact .refl
  | commit index =>
    simp only [World.step, World.commit]
    split
    · next context connection expectedVersion description reading page found =>
      split
      · next result session ran => exact commitPage_intake ran
      · next why session ran =>
        have advances :=
          (commitPage env context connection expectedVersion description reading page).advances world.session
        rw [ran] at advances
        exact .single (intake_of_same (commitPage_error ran) advances)
    · exact .refl
  | process context inboxId expectedVersion =>
    simp only [World.step]
    have advances := (processInbound env context inboxId expectedVersion).advances world.session
    rcases ran : (processInbound env context inboxId expectedVersion).run world.session with ⟨why | result, session⟩ <;>
      rw [ran] at advances
    · exact .single (intake_of_same (transaction_error_db ran) advances)
    · obtain ⟨prior, found, ⟨-, -, -, same⟩ | ⟨-, processed⟩⟩ := processInbound_ok ran
      · exact .single (intake_of_same (congrArg _ same) advances)
      · exact .single (.processed found processed)
  | elsewhere operation quiet =>
    refine .single (.other ((quiet world.session).weaken ?_ fun _ told => told))
    intro first second same
    simp only [ingestionView, Prod.mk.injEq] at same
    simp only [inboxTables, same]

/-! ## What is never lost -/

/-- No payload changes, and no receipt changes but in its state. -/
structure Retained (before after : Store) : Prop where
  payloads : ∀ key row, before.normalizedPayloads.get? key = some row → after.normalizedPayloads.get? key = some row
  receipts : ∀ row ∈ before.inbox.rows, ∃ later ∈ after.inbox.rows, later.id = row.id ∧ later.identity = row.identity ∧
    later.payloadDigest = row.payloadDigest ∧ later.rawPayloadRef = row.rawPayloadRef ∧
    (row.state = .processed → later.state = .processed)

theorem Retained.refl (db : Store) : Retained db db :=
  ⟨fun _ _ found => found, fun row member => ⟨row, member, rfl, rfl, rfl, rfl, id⟩⟩

theorem Retained.trans {first second third : Store} (left : Retained first second) (right : Retained second third) :
    Retained first third := by
  constructor
  · intro key row found
    exact right.payloads key row (left.payloads key row found)
  · intro row member
    obtain ⟨middle, middle_member, id, identity, digest, ref, state⟩ := left.receipts row member
    obtain ⟨later, later_member, later_id, later_identity, later_digest, later_ref, later_state⟩ :=
      right.receipts middle middle_member
    exact ⟨later, later_member, later_id.trans id, later_identity.trans identity, later_digest.trans digest,
      later_ref.trans ref, later_state ∘ state⟩

theorem Received.rows {message : InboxMessage} (received : Received s message t) (row : InboxMessage) :
    row ∈ t.db.inbox.rows ↔ row ∈ s.db.inbox.rows ∨ row = message := by
  obtain ⟨_, rfl⟩ := received.written
  rw [Table.rows_put_of_fresh _ received.id_free, List.mem_append, List.mem_singleton]

theorem Processed.rows {prior message : InboxMessage} (processed : Processed s prior message t) (row : InboxMessage) :
    row ∈ t.db.inbox.rows ↔ row = message ∨ row ∈ s.db.inbox.rows ∧ row.key ≠ message.key := by
  obtain ⟨_, _, rfl⟩ := processed.written
  exact Table.mem_put _ _ _

theorem Processed.same {prior message : InboxMessage} (processed : Processed s prior message t) :
    message.key = prior.key ∧ message.id = prior.id ∧ message.identity = prior.identity ∧
      message.payloadDigest = prior.payloadDigest ∧ message.rawPayloadRef = prior.rawPayloadRef ∧
      message.state = .processed := by
  obtain ⟨time, rfl⟩ := processed.result
  exact ⟨rfl, rfl, rfl, rfl, rfl, rfl⟩

theorem intake_retained (intake : Intake s t) : Retained s.db t.db := by
  cases intake with
  | other quiet =>
    have tables := quiet.same
    simp only [inboxTables, Prod.mk.injEq] at tables
    refine ⟨?_, ?_⟩
    · rw [tables.2.1]
      exact fun _ _ found => found
    · rw [tables.1]
      exact (Retained.refl s.db).receipts
  | @stored row missing written =>
    refine ⟨?_, by rw [written]; exact (Retained.refl s.db).receipts⟩
    intro key prior found
    rw [written]
    have apart : row.key ≠ key := by
      rintro rfl
      rw [missing] at found
      cases found
    rw [Table.get?_put_of_ne _ apart]
    exact found
  | received received =>
    refine ⟨?_, ?_⟩
    · obtain ⟨_, rfl⟩ := received.written
      exact fun _ _ found => found
    · intro row member
      exact ⟨row, (received.rows row).mpr (.inl member), rfl, rfl, rfl, rfl, id⟩
  | @processed _ prior message found processed =>
    refine ⟨?_, ?_⟩
    · obtain ⟨_, _, rfl⟩ := processed.written
      exact fun _ _ found => found
    · intro row member
      obtain ⟨key, same_id, identity, digest, ref, state⟩ := processed.same
      by_cases here : row.key = message.key
      · have same := Table.key_inj _ member (Table.mem_of_get? found) (here.trans key)
        rw [same]
        exact ⟨_, (processed.rows _).mpr (.inl rfl), same_id, identity, digest, ref, fun _ => state⟩
      · exact ⟨row, (processed.rows row).mpr (.inr ⟨member, here⟩), rfl, rfl, rfl, rfl, id⟩

theorem intakes_retained (history : ReflTransGen Intake s t) : Retained s.db t.db := by
  induction history with
  | refl => exact .refl _
  | tail _ intake ih => exact ih.trans (intake_retained intake)

/-! ## The invariant -/

/-- The events of a topic about a message. -/
def noticesOf (journal : List Notice) (topic : String) (message : Uuid) : Nat :=
  (journal.filter fun notice => notice.topic = topic ∧ notice.aggregateRef = .uuid message).length

theorem noticesOf_append (journal extra : List Notice) (topic : String) (message : Uuid) :
    noticesOf (journal ++ extra) topic message = noticesOf journal topic message + noticesOf extra topic message := by
  rw [noticesOf, List.filter_append, List.length_append, noticesOf, noticesOf]

theorem noticesOf_eq_zero {journal : List Notice} {topic : String} {message : Uuid}
    (silent : ∀ notice ∈ journal, notice.topic = topic → notice.aggregateRef ≠ .uuid message) :
    noticesOf journal topic message = 0 := by
  rw [noticesOf, List.length_eq_zero_iff, List.filter_eq_nil_iff]
  intro notice member
  simpa using silent notice member

/-- The journal has one request to process the message, and one acceptance once it has been processed. -/
structure Acknowledged (journal : List Notice) (row : InboxMessage) : Prop where
  requested : noticesOf journal "inbox.process_requested" row.id = 1
  accepted : noticesOf journal "inbound.accepted" row.id = if row.state = .processed then 1 else 0

structure InboxBook (s : Session Store) : Prop where
  events : EventsDrawn s
  ids : ∀ row ∈ s.db.inbox.rows, row.id < s.uuids
  single : ∀ first ∈ s.db.inbox.rows, ∀ second ∈ s.db.inbox.rows, first.identity = second.identity → first = second
  distinct : ∀ first ∈ s.db.inbox.rows, ∀ second ∈ s.db.inbox.rows, first.id = second.id → first = second
  acknowledged : ∀ row ∈ s.db.inbox.rows, Acknowledged s.db.journal row
  owned : ∀ notice ∈ s.db.journal, notice.topic ∈ ingestionTopics →
    ∃ row ∈ s.db.inbox.rows, notice.tenantId = .uuid row.tenantId ∧ notice.aggregateRef = .uuid row.id

theorem inboxBook_newSession : InboxBook Execution.newSession := by
  refine ⟨?_, ?_, ?_, ?_, ?_, ?_⟩ <;> intro row member <;> cases member

/-- Nothing has been said of a message whose identifier has not been drawn. -/
theorem InboxBook.unborn (book : InboxBook s) {topic : String} (known : topic ∈ ingestionTopics) {id : Uuid}
    (unborn : s.uuids ≤ id) : noticesOf s.db.journal topic id = 0 := by
  apply noticesOf_eq_zero
  intro notice member same aggregate
  obtain ⟨row, row_member, -, named⟩ := book.owned notice member (same ▸ known)
  have below := book.ids row row_member
  rw [Ident.uuid.inj (named.symm.trans aggregate)] at below
  exact Nat.lt_irrefl _ (Nat.lt_of_lt_of_le below unborn)

theorem InboxBook.other (book : InboxBook s) (quiet : Quiet inboxTables ingestionTopics s t) : InboxBook t := by
  obtain ⟨extra, journal, silent⟩ := quiet.journal book.events
  have inbox : t.db.inbox = s.db.inbox := congrArg Prod.fst quiet.same
  have untold : ∀ topic ∈ ingestionTopics, ∀ message, noticesOf extra topic message = 0 := by
    intro topic known message
    apply noticesOf_eq_zero
    rintro notice member rfl
    exact absurd known (silent notice member)
  refine ⟨quiet.drawn book.events, ?_, ?_, ?_, ?_, ?_⟩
  · rw [inbox]
    exact fun row member => Nat.lt_of_lt_of_le (book.ids row member) quiet.advances.2
  · rw [inbox]
    exact book.single
  · rw [inbox]
    exact book.distinct
  · rw [inbox, journal]
    intro row member
    obtain ⟨requested, accepted⟩ := book.acknowledged row member
    constructor
    · rw [noticesOf_append, requested, untold _ (by decide)]
    · rw [noticesOf_append, accepted, untold _ (by decide), Nat.add_zero]
  · rw [inbox, journal]
    intro notice member known
    rcases List.mem_append.mp member with old | new
    · exact book.owned notice old known
    · exact absurd known (silent notice new)

/-- A notice about one message counts for that message. -/
theorem noticesOf_single (tenant message other : Uuid) (topic asked : String) (payload : Mapping) (key : OutboxKey) :
    noticesOf [noticeOf tenant asked message payload key] topic other = if asked = topic ∧ message = other then 1 else 0 := by
  by_cases here : asked = topic ∧ message = other
  · simp [noticesOf, noticeOf, here]
  · simp [noticesOf, noticeOf, here]

theorem InboxBook.received (book : InboxBook s) {message : InboxMessage} (received : Received s message t) :
    InboxBook t := by
  have rows := received.rows
  have fresh : ∀ row ∈ s.db.inbox.rows, row.id ≠ message.id := by
    intro row member same
    have below := book.ids row member
    rw [same, received.id] at below
    exact Nat.lt_irrefl _ below
  have unknown : ∀ row ∈ s.db.inbox.rows, row.identity ≠ message.identity := by
    intro row member same
    have tenant : row.tenantId = message.tenantId := congrArg Prod.fst same
    have missing := received.fresh
    rw [receivedAs, List.find?_eq_none] at missing
    have here : row ∈ s.db.inbox.rows.filter (·.tenantId = message.tenantId) :=
      List.mem_filter.mpr ⟨member, by simp [tenant]⟩
    exact absurd same (by simpa using missing row here)
  obtain ⟨audit, written⟩ := received.written
  have journal := book.events.journal_published (t := t) (Nat.le_add_right s.uuids 3) (by rw [written])
  have uuids : t.uuids = s.uuids + 4 := by rw [written]
  refine ⟨?_, ?_, ?_, ?_, ?_, ?_⟩
  · refine book.events.published (Nat.le_add_right s.uuids 3) ?_ (by rw [written])
    rw [uuids]
    exact Nat.lt_succ_self _
  · intro row member
    rw [uuids]
    rcases (rows row).mp member with old | rfl
    · exact Nat.lt_add_right 4 (book.ids row old)
    · rw [received.id]
      exact Nat.lt_add_of_pos_right (by decide)
  · refine Library.distinct_added message (fun row member => ?_) book.single
    exact ((rows row).mp member).symm.imp_right fun old => ⟨old, unknown row old⟩
  · refine Library.distinct_added message (fun row member => ?_) book.distinct
    exact ((rows row).mp member).symm.imp_right fun old => ⟨old, fresh row old⟩
  · intro row member
    rw [journal]
    rcases (rows row).mp member with old | rfl
    · obtain ⟨requested, accepted⟩ := book.acknowledged row old
      have apart : message.id ≠ row.id := (fresh row old).symm
      constructor
      · simp [noticesOf_append, requested, noticesOf_single, apart]
      · simp [noticesOf_append, accepted, noticesOf_single]
    · have untold : ∀ topic ∈ ingestionTopics, noticesOf s.db.journal topic row.id = 0 := by
        intro topic known
        exact book.unborn known (Nat.le_of_eq received.id.symm)
      constructor
      · rw [noticesOf_append, untold _ (by decide), noticesOf_single]
        simp
      · rw [noticesOf_append, untold _ (by decide), noticesOf_single]
        simp [received.waiting.1]
  · rw [journal]
    intro notice member known
    rcases List.mem_append.mp member with old | new
    · obtain ⟨row, row_member, facts⟩ := book.owned notice old known
      exact ⟨row, (rows row).mpr (.inl row_member), facts⟩
    · rw [List.mem_singleton] at new
      refine ⟨message, (rows message).mpr (.inr rfl), ?_, ?_⟩ <;> rw [new] <;> rfl

theorem InboxBook.processed (book : InboxBook s) {key : Uuid × Uuid} {prior message : InboxMessage}
    (found : s.db.inbox.get? key = some prior) (processed : Processed s prior message t) : InboxBook t := by
  have rows := processed.rows
  have prior_member := Table.mem_of_get? found
  obtain ⟨same_key, same_id, same_identity, -, -, state⟩ := processed.same
  -- every other row keeps its identifier to itself
  have apart : ∀ row ∈ s.db.inbox.rows, row.key ≠ message.key → row.id ≠ message.id ∧ row.identity ≠ message.identity := by
    intro row member other
    constructor
    · intro same
      exact other ((congrArg InboxMessage.key (book.distinct row member prior prior_member (same.trans same_id))).trans
        same_key.symm)
    · intro same
      exact other ((congrArg InboxMessage.key (book.single row member prior prior_member (same.trans same_identity))).trans
        same_key.symm)
  obtain ⟨audit, now, written⟩ := processed.written
  have journal := book.events.journal_published (t := t) (Nat.le_refl s.uuids) (by rw [written])
  have uuids : t.uuids = s.uuids + 3 := by rw [written]
  refine ⟨?_, ?_, ?_, ?_, ?_, ?_⟩
  · refine book.events.published (Nat.le_refl s.uuids) ?_ (by rw [written])
    rw [uuids]
    exact Nat.lt_add_of_pos_right (by decide)
  · intro row member
    rw [uuids]
    rcases (rows row).mp member with rfl | ⟨old, -⟩
    · rw [same_id]
      exact Nat.lt_add_right 3 (book.ids prior prior_member)
    · exact Nat.lt_add_right 3 (book.ids row old)
  · refine Library.distinct_added message (fun row member => ?_) book.single
    exact ((rows row).mp member).imp_right fun held => ⟨held.1, (apart row held.1 held.2).2⟩
  · refine Library.distinct_added message (fun row member => ?_) book.distinct
    exact ((rows row).mp member).imp_right fun held => ⟨held.1, (apart row held.1 held.2).1⟩
  · intro row member
    rw [journal]
    rcases (rows row).mp member with rfl | ⟨old, other⟩
    · obtain ⟨requested, accepted⟩ := book.acknowledged prior prior_member
      rw [← same_id] at requested accepted
      constructor
      · simp [noticesOf_append, requested, noticesOf_single]
      · rw [noticesOf_append, accepted, noticesOf_single]
        simp [state, processed.waiting, same_id]
    · obtain ⟨requested, accepted⟩ := book.acknowledged row old
      have elsewhere : prior.id ≠ row.id := fun same => (apart row old other).1 (same.symm.trans same_id.symm)
      constructor
      · simp [noticesOf_append, requested, noticesOf_single]
      · simp [noticesOf_append, accepted, noticesOf_single, elsewhere]
  · rw [journal]
    intro notice member known
    have retained := (intake_retained (.processed found processed)).receipts
    rcases List.mem_append.mp member with old | new
    · obtain ⟨row, row_member, tenant, aggregate⟩ := book.owned notice old known
      obtain ⟨later, later_member, id, identity, -⟩ := retained row row_member
      have same_tenant : later.tenantId = row.tenantId := congrArg Prod.fst identity
      exact ⟨later, later_member, by rw [tenant, same_tenant], by rw [aggregate, id]⟩
    · rw [List.mem_singleton] at new
      obtain ⟨later, later_member, id, identity, -⟩ := retained prior prior_member
      have same_tenant : later.tenantId = prior.tenantId := congrArg Prod.fst identity
      refine ⟨later, later_member, ?_, ?_⟩
      · rw [new, same_tenant]
        rfl
      · rw [new, id]
        rfl

theorem InboxBook.intake (book : InboxBook s) (intake : Intake s t) : InboxBook t := by
  cases intake with
  | other quiet => exact book.other quiet
  | received received => exact book.received received
  | processed found processed => exact book.processed found processed
  | stored missing written =>
    rw [written]
    exact ⟨book.events, book.ids, book.single, book.distinct, book.acknowledged, book.owned⟩

theorem InboxBook.intakes (book : InboxBook s) (history : ReflTransGen Intake s t) : InboxBook t := by
  induction history with
  | refl => exact book
  | tail _ intake ih => exact ih.intake intake

/-! ## Pages -/

/-- What the sender calls the event of an item. -/
def itemIdentity (tenant : Uuid) (connection : Connection) (item : NormalizedItem) : Uuid × String × String × String :=
  (tenant, connection.provider, connection.connectionId, item.order.eventId)

theorem ingestItem_receipt {context : TenantContext} {connection : Connection} {now : Timestamp} {item : NormalizedItem}
    {result : InboxMessage × Bool} (ran : (ingestItem env context connection now item).run s = (.ok result, t)) :
    ∃ row ∈ t.db.inbox.rows, row.identity = itemIdentity context.tenantId connection item := by
  obtain ⟨message, replayed⟩ := result
  obtain ⟨middle, -, -, ⟨known, rfl⟩ | ⟨rfl, received⟩⟩ := ingestItem_ok ran
  · have identity := List.find?_some known
    simp only [decide_eq_true_eq] at identity
    exact ⟨message, (List.mem_filter.mp (List.mem_of_find?_eq_some known)).1, identity⟩
  · exact ⟨_, (received.rows _).mpr (.inr rfl), rfl⟩

/-- Every item of a page that went through has its receipt. -/
theorem collect_receipts {context : TenantContext} {connection : Connection} {now : Timestamp}
    (items : List NormalizedItem) {results : List (InboxMessage × Bool)}
    (ran : (collect items (ingestItem env context connection now)).run s = (.ok results, t)) :
    ∀ item ∈ items, ∃ row ∈ t.db.inbox.rows, row.identity = itemIdentity context.tenantId connection item := by
  induction items generalizing s t results with
  | nil => exact fun item member => absurd member List.not_mem_nil
  | cons item rest ih =>
    obtain ⟨result, middle, others, first, later, -⟩ := (collect_cons_eq_ok item rest _ results s t).mp ran
    intro other member
    rcases List.mem_cons.mp member with rfl | behind
    · obtain ⟨row, row_member, identity⟩ := ingestItem_receipt first
      -- the later items lose no receipt
      have history : ReflTransGen Intake middle t :=
        Follows.collect rest (fun item => ingestItem_intake item) _ _ _ later
      obtain ⟨kept, kept_member, -, same, -⟩ := (intakes_retained history).receipts row row_member
      exact ⟨kept, kept_member, same.trans identity⟩
    · exact ih later other behind

theorem run_intake (events : List Event) (world : World) :
    ReflTransGen Intake world.session (final (World.step env) world events).session := by
  induction events generalizing world with
  | nil => exact .refl
  | cons event rest ih => exact (step_intake event world).trans (ih _)

/-- Whatever pages the pollers of any number of connections bring and whatever comes in between, an event has one
receipt; the outbox has been asked once to process it and has been told once of its acceptance
if it has been processed, never otherwise, and of nothing else; no payload and no receipt is
lost or changed later on; a page that is committed leaves a receipt for each of its items, and a
page that fails anywhere leaves everything as it was. -/
theorem ingested_once (env : Env) (events : List Event) :
    let reached := final (World.step env) newWorld events
    (∀ first ∈ reached.session.db.inbox.rows, ∀ second ∈ reached.session.db.inbox.rows,
      first.identity = second.identity → first = second) ∧
    (∀ row ∈ reached.session.db.inbox.rows, Acknowledged reached.session.db.journal row) ∧
    (∀ notice ∈ reached.session.db.journal, notice.topic ∈ ingestionTopics →
      ∃ row ∈ reached.session.db.inbox.rows, notice.tenantId = .uuid row.tenantId ∧ notice.aggregateRef = .uuid row.id) ∧
    (∀ later, Retained reached.session.db (final (World.step env) reached later).session.db) ∧
    ∀ index context connection expectedVersion description reading page,
      reached.pollers[index]? = some ⟨context, connection, expectedVersion, .fetched description reading page⟩ →
      let (outcome, after) := World.step env (.commit index) reached
      (∃ result items, outcome = .ok (some result) ∧ normalizeItems env page.items = .ok items ∧
        ∀ item ∈ items, ∃ row ∈ after.session.db.inbox.rows,
          row.identity = itemIdentity context.tenantId connection item) ∨
      ∃ why, outcome = .error why ∧ after.session.db = reached.session.db := by
  intro reached
  -- what every intake keeps of the inbox, from the empty one on
  have book : InboxBook reached.session := inboxBook_newSession.intakes (run_intake events newWorld)
  refine ⟨book.single, book.acknowledged, book.owned, ?_, ?_⟩
  · intro later
    exact intakes_retained (run_intake later reached)
  · intro index context connection expectedVersion description reading page found
    simp only [World.step, World.commit, found]
    rcases ran : (commitPage env context connection expectedVersion description reading page).run reached.session with
      ⟨why | result, session⟩
    · exact .inr ⟨why, rfl, commitPage_error ran⟩
    · obtain ⟨-, items, normalized, committed⟩ := commitPage_eq_ok.mp ran
      obtain ⟨-, -, receipts, middle, collected, -, -, rfl⟩ := commitItems_eq_ok.mp committed
      refine .inl ⟨result, items, rfl, normalized, ?_⟩
      exact collect_receipts (t := middle) items collected

end AiStore.Ingestion
