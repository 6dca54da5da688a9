import AiStore.Ingestion.Receipts
import AiStore.Service.Members
import AiStore.Execution.Attempts

/-! Pages that are accepted item by item, and whether they can be committed. -/

set_option autoImplicit false

namespace AiStore.Ingestion

open Library (Session Table final except_bind_eq_ok)
open Library.Txn Failure Repository Service
open Relation (ReflTransGen)

variable {env : Env} {s t : Session Store}

/-! ## References -/

/-- What `hexdigest` promises. -/
def HexDigests (env : Env) : Prop := ∀ value, sha256Text (env.digest value) = true

theorem immutableRefOf_toList (eventId : String) (revision : Nat) (digest : String) :
    (immutableRefOf eventId revision digest).toList =
      'd' :: (['e', 'm', 'o', '-'] ++ eventId.toList ++ ['-', 'r'] ++ Nat.toDigits 10 revision ++ ['-'] ++
        digest.toList.take 16) := by
  simp [immutableRefOf, String.toList_append]

theorem hex_identifier {digest : String} (hex : sha256Text digest = true) :
    (∀ c ∈ digest.toList.take 16, identifierRest c = true) ∧ (digest.toList.take 16).length = 16 := by
  simp only [sha256Text, Bool.and_eq_true, decide_eq_true_eq, List.all_eq_true, Bool.or_eq_true] at hex
  obtain ⟨length, letters⟩ := hex
  constructor
  · intro c member
    rcases letters c (List.mem_of_mem_take member) with digit | ⟨low, high⟩
    · simp [identifierRest, identifierStart, digit]
    · have lower : c.isLower = true :=
        (Bool.and_eq_true _ _).mpr ⟨decide_eq_true low, decide_eq_true (Nat.le_trans high (by decide))⟩
      have alpha : c.isAlpha = true := (Bool.or_eq_true _ _).mpr (.inr lower)
      simp [identifierRest, identifierStart, alpha]
  · rw [List.length_take, length]
    rfl

/-- The reference of an accepted event passes for an identifier as long as it is short enough. -/
theorem opaqueIdentifier_ref {eventId digest : String} {revision : Nat} (event : opaqueIdentifier eventId = true)
    (hex : sha256Text digest = true) :
    opaqueIdentifier (immutableRefOf eventId revision digest) = true ↔
      eventId.length + (Nat.toDigits 10 revision).length ≤ 231 := by
  obtain ⟨hex_rest, hex_length⟩ := hex_identifier hex
  have event_rest : ∀ c ∈ eventId.toList, identifierRest c = true := by
    intro c member
    rw [opaqueIdentifier] at event
    cases letters : eventId.toList with
    | nil =>
      rw [letters] at member
      cases member
    | cons first rest =>
      rw [letters] at event member
      simp only [Bool.and_eq_true, List.all_eq_true] at event
      rcases List.mem_cons.mp member with rfl | behind
      · simp [identifierRest, event.1.1]
      · exact event.1.2 c behind
  have fixed : ∀ c ∈ ['e', 'm', 'o', '-'] ++ (['-', 'r'] ++ ['-']), identifierRest c = true :=
    List.all_eq_true.mp (by decide)
  have digits : ∀ c ∈ Nat.toDigits 10 revision, identifierRest c = true := by
    intro c member
    have digit := Nat.isDigit_of_mem_toDigits (by decide) (by decide) member
    simp [identifierRest, identifierStart, digit]
  have rest : (['e', 'm', 'o', '-'] ++ eventId.toList ++ ['-', 'r'] ++ Nat.toDigits 10 revision ++ ['-'] ++
      digest.toList.take 16).all identifierRest = true := by
    rw [List.all_eq_true]
    intro c member
    simp only [List.mem_append] at member
    rcases member with ((((first | second) | third) | fourth) | fifth) | sixth
    · exact fixed c (List.mem_append_left _ first)
    · exact event_rest c second
    · exact fixed c (List.mem_append_right _ (List.mem_append_left _ third))
    · exact digits c fourth
    · exact fixed c (List.mem_append_right _ (List.mem_append_right _ fifth))
    · exact hex_rest c sixth
  rw [opaqueIdentifier, immutableRefOf_toList]
  simp only [rest, show identifierStart 'd' = true from by decide, Bool.true_and, decide_eq_true_eq]
  simp only [List.length_append, hex_length, String.length_toList, List.length_cons, List.length_nil]
  omega

/-- Two events have two references. -/
theorem immutableRefOf_inj {first second digest other : String} {revision later : Nat}
    (hex : sha256Text digest = true) (other_hex : sha256Text other = true)
    (same : immutableRefOf first revision digest = immutableRefOf second later other) : first = second := by
  have letters := congrArg String.toList same
  rw [immutableRefOf_toList, immutableRefOf_toList] at letters
  have suffix := List.append_inj' (List.cons.inj letters).2 ((hex_identifier hex).2.trans (hex_identifier other_hex).2.symm)
  have revisions := List.append_cancel_right suffix.1
  -- the revision is what the digits at the end spell
  have digits : ∀ number : Nat, ∀ c ∈ (Nat.toDigits 10 number).reverse, c.isDigit = true := by
    intro number c member
    exact Nat.isDigit_of_mem_toDigits (by decide) (by decide) (List.mem_reverse.mp member)
  have spelled := congrArg (fun word => word.reverse.takeWhile Char.isDigit) revisions
  simp only [List.append_assoc, List.reverse_append, List.reverse_cons, List.nil_append,
    List.cons_append] at spelled
  rw [List.takeWhile_append_of_pos (digits _), List.takeWhile_append_of_pos (digits _)] at spelled
  simp only [List.takeWhile_cons, show Char.isDigit 'r' = false from by decide, Bool.false_eq_true, if_false,
    List.append_nil] at spelled
  rw [List.reverse_injective spelled] at revisions
  have events := List.append_cancel_left (List.append_cancel_right (List.append_cancel_right revisions))
  exact String.toList_injective events

/-! ## Accepted items -/

theorem check_eq_ok {condition : Prop} [Decidable condition] {message : String} {u : Unit} :
    check condition message = .ok u ↔ condition := by
  unfold check refuse
  split <;> simp_all

theorem intField_eq_ok {value : Option Value} {least number : Int} {message : String} :
    intField value least message = .ok number ↔ value = some (.int number) ∧ least ≤ number := by
  unfold intField refuse
  split
  · split <;> simp_all <;> omega
  · simp_all

theorem opaqueField_eq_ok {value : Option Value} {label text : String} :
    opaqueField value label = .ok text ↔ value = some (.text text) ∧ opaqueIdentifier text = true := by
  unfold opaqueField refuse
  split
  · split
    · next accepted =>
      constructor
      · intro same
        cases same
        exact ⟨rfl, accepted⟩
      · rintro ⟨same, -⟩
        cases same
        rfl
    · next refused =>
      constructor
      · exact fun same => by cases same
      · rintro ⟨same, accepted⟩
        cases same
        exact absurd accepted refused
  · simp_all

/-- What an accepted item is known for. -/
structure Accepted (env : Env) (item : NormalizedItem) : Prop where
  event : opaqueIdentifier item.order.eventId = true
  ref : item.immutableRef = immutableRefOf item.order.eventId item.order.revision (env.digest item.payload)

theorem normalizeDemoOrder_ok {raw : Value} {item : NormalizedItem} (ran : normalizeDemoOrder env raw = .ok item) :
    Accepted env item := by
  unfold normalizeDemoOrder at ran
  split at ran
  · simp only [except_bind_eq_ok] at ran
    obtain ⟨_, -, _, -, _, -, eventId, event, _, -, _, -, _, -, _, -, _, -, _, -, _, -, _, -, ran⟩ := ran
    cases ran
    exact ⟨(opaqueField_eq_ok.mp event).2, rfl⟩
  · cases ran

theorem normalizeItems_ok {raws : List Value} {items : List NormalizedItem} (ran : normalizeItems env raws = .ok items) :
    ∀ item ∈ items, Accepted env item := by
  induction raws generalizing items with
  | nil =>
    cases ran
    exact fun item member => absurd member List.not_mem_nil
  | cons raw rest ih =>
    simp only [normalizeItems, except_bind_eq_ok] at ran
    obtain ⟨first, accepted, others, behind, ran⟩ := ran
    cases ran
    intro item member
    rcases List.mem_cons.mp member with rfl | later
    · exact normalizeDemoOrder_ok accepted
    · exact ih behind item later

/-- The reference is within the length that a receipt admits. -/
def Fits (item : NormalizedItem) : Prop :=
  item.order.eventId.length + (Nat.toDigits 10 item.order.revision).length ≤ 231

theorem Accepted.fits {item : NormalizedItem} (accepted : Accepted env item) (hex : HexDigests env) :
    opaqueIdentifier item.immutableRef = true ↔ Fits item := by
  rw [accepted.ref]
  exact opaqueIdentifier_ref accepted.event (hex _)

/-! ## Room for new messages -/

/-- No outbox key stands for a message that has not been drawn. -/
def KeysFree (s : Session Store) : Prop :=
  ∀ tenant id suffix, s.uuids ≤ id → inboxKeys s.db tenant id suffix = none

theorem inboxKeys_published {box : InMemoryRepository.Outbox Ident OutboxKey} {event : OutboxEvent Ident OutboxKey}
    {tenant : Ident} {message id : Uuid} {suffix asked : String} (key : event.idempotencyKey = .inbox message suffix)
    (apart : message ≠ id) :
    (published box event).outboxIdempotency.get? (tenant, .inbox id asked) =
      box.outboxIdempotency.get? (tenant, .inbox id asked) := by
  apply Library.Dict.get?_set_of_ne
  rw [key]
  intro same
  simp only [Prod.mk.injEq, OutboxKey.inbox.injEq] at same
  exact apart same.2.1

theorem KeysFree.intake (keys : KeysFree s) (book : InboxBook s) (intake : Intake s t) : KeysFree t := by
  intro tenant id suffix unborn
  cases intake with
  | other quiet =>
    have tables := quiet.same
    simp only [inboxTables, Prod.mk.injEq] at tables
    rw [tables.2.2]
    exact keys tenant id suffix (Nat.le_trans quiet.advances.2 unborn)
  | stored missing written =>
    subst written
    exact keys tenant id suffix unborn
  | @received message received =>
    obtain ⟨_, rfl⟩ := received.written
    have older : s.uuids < id := Nat.lt_of_lt_of_le (Nat.lt_add_of_pos_right (by decide)) unborn
    refine (inboxKeys_published rfl ?_).trans (keys tenant id suffix (Nat.le_of_lt older))
    rw [received.id]
    exact Nat.ne_of_lt older
  | @processed _ prior message found processed =>
    obtain ⟨_, _, rfl⟩ := processed.written
    have older : s.uuids ≤ id := Nat.le_trans (Nat.le_add_right _ _) unborn
    refine (inboxKeys_published rfl ?_).trans (keys tenant id suffix older)
    exact Nat.ne_of_lt (Nat.lt_of_lt_of_le (book.ids prior (Table.mem_of_get? found)) older)

theorem intakes_room (keys : KeysFree s) (book : InboxBook s) (history : ReflTransGen Intake s t) :
    KeysFree t ∧ InboxBook t := by
  induction history with
  | refl => exact ⟨keys, book⟩
  | tail _ intake ih => exact ⟨ih.1.intake ih.2 intake, ih.2.intake intake⟩

/-- Nothing is known of the event or of its reference. -/
structure New (db : Store) (tenant : Uuid) (connection : Connection) (item : NormalizedItem) : Prop where
  event : ∀ row ∈ db.inbox.rows, row.identity ≠ itemIdentity tenant connection item
  ref : db.normalizedPayloads.get? (tenant, item.immutableRef) = none

/-- What an item needs of the store besides being new. -/
structure Open (s : Session Store) (context : TenantContext) (connection : Connection) : Prop where
  authorized : Authorized s.db context .tenantAdmin
  named : opaqueIdentifier connection.provider = true ∧ opaqueIdentifier connection.connectionId = true
  manifest : ∃ manifest, s.db.manifests.get? (context.tenantId, connection.provider, connection.connectionId) =
    some manifest ∧ AdapterCapability.inboundEvents ∈ manifest.capabilities ∧ 1 ∈ manifest.inboundSchemaVersions
  tenant_known : s.db.tenants.get? context.tenantId ≠ none
  keys : KeysFree s
  book : InboxBook s

section

variable {context : TenantContext} {connection : Connection} {now : Timestamp} {item : NormalizedItem}

theorem Open.later (here : Open s context connection) (history : ReflTransGen Intake s t)
    (same : (t.db.memberships, t.db.manifests, t.db.tenants) = (s.db.memberships, s.db.manifests, s.db.tenants)) :
    Open t context connection := by
  simp only [Prod.mk.injEq] at same
  obtain ⟨memberships, manifests, tenants⟩ := same
  obtain ⟨keys, book⟩ := intakes_room here.keys here.book history
  refine ⟨?_, here.named, ?_, ?_, keys, book⟩
  · rw [Authorized, memberships]
    exact here.authorized
  · rw [manifests]
    exact here.manifest
  · rw [tenants]
    exact here.tenant_known

/-- The session behind a new payload. -/
def withPayload (s : Session Store) (row : NormalizedInboundPayload) : Session Store :=
  { s with db := { s.db with normalizedPayloads := s.db.normalizedPayloads.put row } }

theorem ingestItem_returns (here : Open s context connection) (hex : HexDigests env) (accepted : Accepted env item)
    (fits : Fits item) (new : New s.db context.tenantId connection item) :
    ∃ result t, (ingestItem env context connection now item).run s = (.ok result, t) := by
  have saved : (saveNormalizedPayload (payloadRow env context.tenantId item now)).run s =
      (.ok (payloadRow env context.tenantId item now), withPayload s (payloadRow env context.tenantId item now)) :=
    saveNormalizedPayload_eq_ok.mpr (.inr ⟨new.ref, rfl, rfl⟩)
  have fresh : receivedAs s.db (itemMessage env s context.tenantId connection item) = none := by
    rw [receivedAs, List.find?_eq_none]
    intro row member
    simp only [decide_eq_true_eq]
    exact new.event row (List.mem_filter.mp member).1
  have id_free : s.db.inbox.get? (context.tenantId, s.uuids) = none := by
    rw [Table.get?_eq_none]
    intro row member same
    have id : row.id = s.uuids := congrArg Prod.snd same
    exact Nat.lt_irrefl _ (id ▸ here.book.ids row member)
  have ref : ∀ ref ∈ some item.immutableRef, opaqueIdentifier ref = true := by
    intro ref member
    cases member
    exact (accepted.fits hex).mpr fits
  obtain ⟨t, received⟩ : ∃ t, (receiveInbound env context connection.provider connection.connectionId
      item.order.eventId 1 (env.digest item.payload) (some item.immutableRef)).run
        (withPayload s (payloadRow env context.tenantId item now)) = (.ok (_, false), t) :=
    receiveInbound_returns ⟨here.authorized, rfl, ⟨here.named.1, here.named.2, accepted.event⟩, le_refl 1,
      hex item.payload, ref, here.manifest⟩ fresh here.tenant_known id_free (here.keys _ _ _ (Nat.le_refl _))
  have ran : (ingestItem env context connection now item).run s = _ := (bind_eq_ok _ _ s t _).mpr ⟨_, _, saved, received⟩
  exact ⟨_, t, ran⟩

/-- A new item is stored and received, and the other new items stay new. -/
theorem ingestItem_new {result : InboxMessage × Bool} (new : New s.db context.tenantId connection item)
    (ran : (ingestItem env context connection now item).run s = (.ok result, t)) :
    (t.db.memberships, t.db.manifests, t.db.tenants) = (s.db.memberships, s.db.manifests, s.db.tenants) ∧
      ∀ other, New s.db context.tenantId connection other → item.order.eventId ≠ other.order.eventId →
        item.immutableRef ≠ other.immutableRef → New t.db context.tenantId connection other := by
  obtain ⟨message, replayed⟩ := result
  obtain ⟨middle, kept, -, outcome⟩ := ingestItem_ok ran
  cases kept with
  | known found =>
    have ref := new.ref
    have known : s.db.normalizedPayloads.get? (context.tenantId, item.immutableRef) = some _ := found
    rw [ref] at known
    cases known
  | new missing =>
    rcases outcome with ⟨known, -⟩ | ⟨rfl, received⟩
    · have identity := List.find?_some known
      have member := (List.mem_filter.mp (List.mem_of_find?_eq_some known)).1
      simp only [decide_eq_true_eq] at identity
      exact absurd identity (new.event message member)
    · have rows := received.rows
      obtain ⟨_, rfl⟩ := received.written
      refine ⟨rfl, ?_⟩
      intro other other_new events refs
      constructor
      · intro row member
        rcases (rows row).mp member with old | rfl
        · exact other_new.event row old
        · intro same
          exact events (congrArg (fun identity => identity.2.2.2) same)
      · have apart : (payloadRow env context.tenantId item now).key ≠ (context.tenantId, other.immutableRef) :=
          fun same => refs (congrArg Prod.snd same)
        exact (Table.get?_put_of_ne _ apart).trans other_new.ref

theorem collect_returns (hex : HexDigests env) (items : List NormalizedItem) (here : Open s context connection)
    (accepted : ∀ item ∈ items, Accepted env item) (fits : ∀ item ∈ items, Fits item)
    (distinct : items.Pairwise fun first second => first.order.eventId ≠ second.order.eventId)
    (new : ∀ item ∈ items, New s.db context.tenantId connection item) :
    ∃ results t, (collect items (ingestItem env context connection now)).run s = (.ok results, t) := by
  induction items generalizing s with
  | nil => exact ⟨[], s, rfl⟩
  | cons item rest ih =>
    obtain ⟨apart, rest_distinct⟩ := List.pairwise_cons.mp distinct
    have head := List.mem_cons_self (a := item) (l := rest)
    obtain ⟨result, middle, ran⟩ : ∃ result middle, (ingestItem env context connection now item).run s =
        (.ok result, middle) :=
      ingestItem_returns here hex (accepted item head) (fits item head) (new item head)
    obtain ⟨same, stays⟩ := ingestItem_new (new item head) ran
    have later := here.later (ingestItem_intake item s result middle ran) same
    have rest_new : ∀ other ∈ rest, New middle.db context.tenantId connection other := by
      intro other member
      apply stays other (new other (List.mem_cons_of_mem _ member)) (apart other member)
      intro refs
      rw [(accepted item head).ref, (accepted other (List.mem_cons_of_mem _ member)).ref] at refs
      exact apart other member (immutableRefOf_inj (hex _) (hex _) refs)
    obtain ⟨results, t, rest_ran⟩ := ih later (fun other member => accepted other (List.mem_cons_of_mem _ member))
      (fun other member => fits other (List.mem_cons_of_mem _ member)) rest_distinct rest_new
    exact ⟨result :: results, t, (collect_cons_eq_ok item rest _ _ s t).mpr
      ⟨result, middle, results, ran, rest_ran, rfl⟩⟩

/-- Only items whose references fit are received. -/
theorem collect_fits (hex : HexDigests env) (items : List NormalizedItem) (accepted : ∀ item ∈ items, Accepted env item)
    {results : List (InboxMessage × Bool)}
    (ran : (collect items (ingestItem env context connection now)).run s = (.ok results, t)) :
    ∀ item ∈ items, Fits item := by
  induction items generalizing s t results with
  | nil => exact fun item member => absurd member List.not_mem_nil
  | cons item rest ih =>
    obtain ⟨⟨message, replayed⟩, middle, others, first, later, -⟩ := (collect_cons_eq_ok item rest _ results s t).mp ran
    intro other member
    rcases List.mem_cons.mp member with rfl | behind
    · obtain ⟨_, -, receivable, -⟩ := ingestItem_ok first
      exact ((accepted other List.mem_cons_self).fits hex).mp (receivable.ref _ rfl)
    · exact ih (fun item member => accepted item (List.mem_cons_of_mem _ member)) later other behind

end

/-! ## Pages -/

/-- A page that a poll may be given, every item of it accepted and new, with a matching checkpoint version. -/
structure Fresh (env : Env) (s : Session Store) (context : TenantContext) (connection : Connection)
    (expectedVersion : Nat) (description : DemoAdapterDescription) (page : DemoPage) (items : List NormalizedItem) :
    Prop where
  polled : Polled s.db context connection description
  named : opaqueIdentifier connection.provider = true ∧ opaqueIdentifier connection.connectionId = true
  described : description.provider = connection.provider ∧ description.mode = "DEMO" ∧
    description.capability = .ordersRead ∧ description.normalizedSchemaVersion = 1
  same_adapter : ∀ row ∈ checkpointOf s.db context.tenantId connection, row.adapterVersion = description.adapterVersion
  tenant_known : s.db.tenants.get? context.tenantId ≠ none
  version : checkpointVersion s.db context.tenantId connection = expectedVersion
  valid : validateDemoPage page = .ok ()
  normalized : normalizeItems env page.items = .ok items
  distinct : items.Pairwise fun first second => first.order.eventId ≠ second.order.eventId
  new : ∀ item ∈ items, New s.db context.tenantId connection item

/-- A poll that returns has found every reference short enough. -/
theorem poll_fits {context : TenantContext} {connection : Connection} {expectedVersion : Int}
    {description : DemoAdapterDescription} {overlapFrom : Option Timestamp} {page : DemoPage}
    {items : List NormalizedItem} {result : DemoPollResult} (hex : HexDigests env)
    (normalized : normalizeItems env page.items = .ok items)
    (returned : ((pollDemoConnection env context connection expectedVersion description overlapFrom fun _ => page).run s).1 =
      .ok result) : ∀ item ∈ items, Fits item := by
  rcases ran : (pollDemoConnection env context connection expectedVersion description overlapFrom fun _ => page).run s
    with ⟨outcome, t⟩
  rw [ran] at returned
  cases returned
  simp only [pollDemoConnection, bind_eq_ok] at ran
  obtain ⟨reading, middle, -, ran⟩ := ran
  obtain ⟨-, others, again, committed⟩ := commitPage_eq_ok.mp ran
  cases again.symm.trans normalized
  obtain ⟨-, -, receipts, after, collected, -⟩ := commitItems_eq_ok.mp committed
  exact collect_fits hex items (normalizeItems_ok normalized) collected

theorem readCheckpoint_returns {context : TenantContext} {connection : Connection} {expectedVersion : Nat}
    {description : DemoAdapterDescription} {page : DemoPage} {items : List NormalizedItem}
    (overlapFrom : Option Timestamp)
    (fresh : Fresh env s context connection expectedVersion description page items) :
    ∃ reading, (readCheckpoint context connection expectedVersion description overlapFrom).run s = (.ok reading, s) := by
  obtain ⟨provider, mode, capability, schema⟩ := fresh.described
  apply Exists.intro
  simp only [readCheckpoint, getPollCheckpoint, bind_eq_ok, require_eq_ok, ensure_eq_ok, supportedManifest_eq_ok,
    query_eq_ok, pure_eq_ok]
  exact ⟨(), s, ⟨fresh.polled.authorized, rfl⟩, (), s, ⟨Int.natCast_nonneg _, rfl⟩, (), s, ⟨⟨provider, mode, capability⟩, rfl⟩,
    (), s, ⟨schema, rfl⟩, (), s, ⟨fresh.polled.manifest, rfl⟩, _, s, ⟨rfl, rfl⟩, (), s, ⟨fresh.same_adapter, rfl⟩, rfl, rfl⟩

/-- In every state the service can reach, a poll commits a fresh page exactly when each event identifier and the digits
of its revision come to 231 characters at most. -/
theorem fresh_page_committed_iff (env : Env) (hex : HexDigests env) (events : List Event) (context : TenantContext)
    (connection : Connection) (expectedVersion : Nat) (description : DemoAdapterDescription)
    (overlapFrom : Option Timestamp) (page : DemoPage) (items : List NormalizedItem)
    (fresh : Fresh env (final (World.step env) newWorld events).session context connection expectedVersion description
      page items) :
    (∃ result, ((pollDemoConnection env context connection expectedVersion description overlapFrom fun _ => page).run
      (final (World.step env) newWorld events).session).1 = .ok result) ↔ ∀ item ∈ items, Fits item := by
  have history : ReflTransGen Intake newWorld.session (final (World.step env) newWorld events).session :=
    run_intake events newWorld
  have start : KeysFree newWorld.session := fun _ _ _ _ => rfl
  obtain ⟨keys, book⟩ := intakes_room start inboxBook_newSession history
  -- nothing else about the run is needed
  revert fresh keys book
  generalize (final (World.step env) newWorld events).session = s
  intro fresh keys book
  constructor
  · rintro ⟨result, returned⟩
    exact poll_fits hex fresh.normalized returned
  · intro fits
    obtain ⟨manifest, found, version, reads, inbound, schema⟩ := fresh.polled.manifest
    have here : Open { s with reads := s.reads + 1 } context connection :=
      ⟨fresh.polled.authorized, fresh.named, ⟨manifest, found, inbound, schema⟩, fresh.tenant_known, keys,
        book.intake (intake_of_same rfl ⟨Nat.le_succ _, Nat.le_refl _⟩)⟩
    -- every item that fits is ingested, and the checkpoint is still the expected one behind them
    obtain ⟨receipts, middle, collected⟩ : ∃ receipts middle,
        (collect items (ingestItem env context connection (env.clock s.reads))).run { s with reads := s.reads + 1 } =
          (.ok receipts, middle) :=
      collect_returns hex items here (normalizeItems_ok fresh.normalized) fits fresh.distinct fresh.new
    have frame : Keeps Store.pollCheckpoints (collect items (ingestItem env context connection (env.clock s.reads))) :=
      keeps_collect items fun item => keeps_ingestItem item
    have kept := frame.of_run collected
    have current : checkpointVersion middle.db context.tenantId connection = expectedVersion := by
      rw [← fresh.version, checkpointVersion, checkpointVersion, checkpointOf, checkpointOf, kept]
    obtain ⟨reading, read⟩ := readCheckpoint_returns overlapFrom fresh
    have committed : (commitItems env context connection expectedVersion description reading page items
        (env.clock s.reads)).run { s with reads := s.reads + 1 } = (.ok _, _) :=
      commitItems_eq_ok.mpr ⟨fresh.polled, fresh.version, receipts, middle, collected, current, rfl, rfl⟩
    have ran := commitPage_eq_ok.mpr ⟨fresh.valid, items, fresh.normalized, committed⟩
    have polled : (pollDemoConnection env context connection expectedVersion description overlapFrom fun _ => page).run s = _ :=
      (bind_eq_ok _ _ s _ _).mpr ⟨_, _, read, ran⟩
    exact ⟨_, congrArg Prod.fst polled⟩

/-! ## A registered connection -/

/-- A clock that stands still, and a digest of the right shape. -/
def hexEnv : Env where
  clock _ := .utc 0
  digest _ := String.ofList (List.replicate 64 '0')
  lower := id

theorem hexDigests_hexEnv : HexDigests hexEnv := by
  intro value
  change sha256Text (String.ofList (List.replicate 64 '0')) = true
  decide +kernel

theorem keeps_register {context : TenantContext} {manifest : AdapterCapabilityManifest} :
    Keeps (fun db => (ingestionView db, db.outbox)) (Execution.registerAdapterManifest env context manifest) := by
  apply keeps_transaction
  intro s result t ran
  simp only [saveAdapterManifest, bind_eq_ok, require_eq_ok, ensure_eq_ok, inboundIdentifier_eq_ok, query_eq_ok,
    write_eq_ok, audit_eq_ok] at ran
  obtain ⟨_, _, ⟨-, rfl⟩, _, _, ⟨-, rfl⟩, _, _, ⟨-, rfl⟩, _, _, ⟨-, rfl⟩, _, _, ⟨-, rfl⟩, _, _, ⟨-, rfl⟩, _, _,
    ⟨_, _, ⟨-, rfl⟩, _, _, ⟨-, rfl⟩, rfl⟩, rfl⟩ := ran
  rfl

def shop : Connection := ⟨"demo", "shop"⟩

def shopManifest : AdapterCapabilityManifest where
  tenantId := 0
  provider := "demo"
  connectionId := "shop"
  adapterVersion := "demo-orders-v1"
  capabilities := [.ordersRead, .inboundEvents]
  inboundSchemaVersions := [1]
  updatedAt := .utc 0

/-- A tenant and the connection of its shop. -/
def registered : List Event :=
  [.elsewhere (do let _ ← bootstrapTenant hexEnv "Demo" "master@demo.test")
    (quiet_of_frame ((keeps_bootstrapTenant fun _ _ _ _ _ => rfl).bind fun _ => keeps_pure _)),
   .elsewhere (Execution.registerAdapterManifest hexEnv Execution.demoMaster shopManifest) (quiet_of_frame keeps_register)]

def oneOrder (eventId : String) : DemoPage where
  items := [.dict [("external_order_id", .text "order-1"), ("event_id", .text eventId), ("revision", .int 1),
    ("currency", .text "KRW"), ("total_minor", .int 100),
    ("lines", .list [.dict [("sku", .text "sku-1"), ("quantity", .int 1), ("unit_minor", .int 100)]])]]
  nextCursor := some "p1"
  hasMore := false
  observedAt := .utc 0

def oneItem (eventId : String) : NormalizedItem :=
  let order : NormalizedDemoOrder := ⟨"order-1", eventId, 1, "KRW", 100,
    [.dict [("sku", .text "sku-1"), ("quantity", .int 1), ("unit_minor", .int 100)]], none⟩
  ⟨order, orderPayload order, immutableRefOf eventId 1 (hexEnv.digest (orderPayload order))⟩

theorem oneItem_size (eventId : String) : Gateway.jsonSize (oneItem eventId).payload = Gateway.textSize eventId + 147 := by
  have names : Gateway.textSize "external_order_id" = 19 ∧ Gateway.textSize "order-1" = 9 ∧
      Gateway.textSize "event_id" = 10 ∧ Gateway.textSize "revision" = 10 ∧ Gateway.textSize "currency" = 10 ∧
      Gateway.textSize "KRW" = 5 ∧ Gateway.textSize "total_minor" = 13 ∧ Gateway.textSize "lines" = 7 ∧
      Gateway.textSize "sku" = 5 ∧ Gateway.textSize "sku-1" = 7 ∧ Gateway.textSize "quantity" = 10 ∧
      Gateway.textSize "unit_minor" = 12 := by decide
  have numbers : (toString ((1 : Nat) : Int)).length = 1 ∧ (toString (1 : Int)).length = 1 ∧
      (toString (100 : Int)).length = 3 := by decide
  rw [oneItem, orderPayload, Gateway.jsonSize_sorted]
  simp only [Gateway.jsonSize, Gateway.entriesSize, Gateway.itemsSize, names, numbers]
  omega

/-- A name of so many letters. -/
def letters (count : Nat) : String := String.ofList (List.replicate count 'a')

theorem opaqueIdentifier_letters {count : Nat} (short : count ≤ 254) : opaqueIdentifier (letters (count + 1)) = true := by
  have rest : identifierRest 'a' = true := by decide
  have start : identifierStart 'a' = true := by decide
  simp [opaqueIdentifier, letters, List.replicate_succ, List.all_replicate, rest, start, short]

theorem textSize_letters (count : Nat) : Gateway.textSize (letters count) = count + 2 := by
  have one : Gateway.escapedSize 'a' = 1 := by decide
  simp [Gateway.textSize, letters, one, Nat.add_comm]

theorem fits_letters (count : Nat) : Fits (oneItem (letters count)) ↔ count ≤ 230 := by
  have digits : (Nat.toDigits 10 1).length = 1 := by decide
  have length : (letters count).length = count := by simp [letters]
  have spelled : Fits (oneItem (letters count)) ↔ (letters count).length + (Nat.toDigits 10 1).length ≤ 231 := Iff.rfl
  rw [spelled, length, digits]
  omega

theorem oneOrder_normalized {eventId : String} (event : opaqueIdentifier eventId = true)
    (small : Gateway.textSize eventId ≤ 257) :
    normalizeItems hexEnv (oneOrder eventId).items = .ok [oneItem eventId] := by
  have size : Gateway.jsonSize (oneItem eventId).payload ≤ 64 * 1024 := by
    rw [oneItem_size]
    omega
  have known : normalizeDemoOrder hexEnv (.dict [("external_order_id", .text "order-1"), ("event_id", .text eventId),
      ("revision", .int 1), ("currency", .text "KRW"), ("total_minor", .int 100),
      ("lines", .list [.dict [("sku", .text "sku-1"), ("quantity", .int 1), ("unit_minor", .int 100)]])]) =
        .ok (oneItem eventId) := by
    simp only [normalizeDemoOrder, except_bind_eq_ok]
    refine ⟨(), ?_, (), by rfl, "order-1", by rfl, eventId, ?_, 1, by rfl, "KRW", by rfl, 100, by rfl, _, rfl,
      ⟨[], 100, _⟩, rfl, (), by rfl, none, rfl, (), ?_, rfl⟩
    · simp [check, requiredFields]
    · simp [opaqueField, Mapping.get?, event]
    · exact if_pos size
  simp only [normalizeItems, oneOrder, known]
  rfl

/-- The page of one accepted order is fresh for the registered connection. -/
theorem oneOrder_fresh {eventId : String} (event : opaqueIdentifier eventId = true)
    (small : Gateway.textSize eventId ≤ 257) :
    Fresh hexEnv (final (World.step hexEnv) newWorld registered).session Execution.demoMaster shop 0
      { provider := "demo", adapterVersion := "demo-orders-v1" } (oneOrder eventId) [oneItem eventId] where
  polled := ⟨⟨⟨0, 1, [.master], true, 1⟩, by decide +kernel, rfl, rfl, by decide⟩,
    ⟨shopManifest, by decide +kernel, by decide⟩⟩
  named := by decide
  described := by decide
  same_adapter row found := by
    have missing : checkpointOf (final (World.step hexEnv) newWorld registered).session.db 0 shop = none := by decide +kernel
    rw [show Execution.demoMaster.tenantId = 0 from rfl, missing] at found
    cases found
  tenant_known := by decide +kernel
  version := by decide +kernel
  valid := rfl
  normalized := oneOrder_normalized event small
  distinct := List.pairwise_singleton _ _
  new item member := by
    have inbox : (final (World.step hexEnv) newWorld registered).session.db.inbox.rows = [] := by decide +kernel
    have payloads : (final (World.step hexEnv) newWorld registered).session.db.normalizedPayloads.rows = [] := by
      decide +kernel
    constructor
    · rw [inbox]
      exact fun row member => absurd member List.not_mem_nil
    · rw [Table.get?_eq_none, payloads]
      exact fun row member => absurd member List.not_mem_nil

/-- A page with an ordinary event is committed. -/
theorem fresh_page_committed :
    (∃ result, ((pollDemoConnection hexEnv Execution.demoMaster shop (0 : Nat)
      { provider := "demo", adapterVersion := "demo-orders-v1" } none fun _ => oneOrder "event-1").run
        (final (World.step hexEnv) newWorld registered).session).1 = .ok result) ↔
      ∀ item ∈ [oneItem "event-1"], Fits item :=
  fresh_page_committed_iff hexEnv hexDigests_hexEnv registered Execution.demoMaster shop 0 _ none (oneOrder "event-1")
    [oneItem "event-1"] (oneOrder_fresh (by decide) (by decide))

/-- A page of one accepted order whose event has a long name is refused, whenever it is polled. -/
theorem long_event_poisons_page :
    Fresh hexEnv (final (World.step hexEnv) newWorld registered).session Execution.demoMaster shop 0
        { provider := "demo", adapterVersion := "demo-orders-v1" } (oneOrder (letters 240)) [oneItem (letters 240)] ∧
      ∀ result, ((pollDemoConnection hexEnv Execution.demoMaster shop (0 : Nat)
        { provider := "demo", adapterVersion := "demo-orders-v1" } none fun _ => oneOrder (letters 240)).run
          (final (World.step hexEnv) newWorld registered).session).1 ≠ .ok result := by
  have event : opaqueIdentifier (letters 240) = true := opaqueIdentifier_letters (by decide : 239 ≤ 254)
  have normalized := oneOrder_normalized event (by rw [textSize_letters]; decide)
  refine ⟨oneOrder_fresh event (by rw [textSize_letters]; decide), ?_⟩
  intro result returned
  have fits := poll_fits hexDigests_hexEnv normalized returned _ (List.mem_singleton_self _)
  exact absurd ((fits_letters 240).mp fits) (by decide)

end AiStore.Ingestion
