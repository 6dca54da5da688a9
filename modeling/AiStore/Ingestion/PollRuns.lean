import AiStore.Ingestion.Polling
import AiStore.Approval.Lifecycle

/-! What a returning receipt, processing or poll has found and written. -/

set_option autoImplicit false

namespace AiStore.Ingestion

open Library (Session Table)
open Library.Txn Failure Repository Service

variable {env : Env} {s t : Session Store} {context : TenantContext}

/-! ## Receipts -/

/-- What a receipt is checked for. -/
structure Receivable (db : Store) (context : TenantContext) (message : InboxMessage) : Prop where
  authorized : Authorized db context .tenantAdmin
  tenant : message.tenantId = context.tenantId
  named : opaqueIdentifier message.provider = true ∧ opaqueIdentifier message.connectionId = true ∧
    opaqueIdentifier message.externalEventId = true
  schema_version : 1 ≤ message.schemaVersion
  digest : sha256Text message.payloadDigest = true
  ref : ∀ ref ∈ message.rawPayloadRef, opaqueIdentifier ref = true
  manifest : ∃ manifest, db.manifests.get? (context.tenantId, message.provider, message.connectionId) = some manifest ∧
    AdapterCapability.inboundEvents ∈ manifest.capabilities ∧ message.schemaVersion ∈ manifest.inboundSchemaVersions

/-- The message of an identity that has been received. -/
def receivedAs (db : Store) (message : InboxMessage) : Option InboxMessage :=
  (db.inbox.rows.filter (·.tenantId = message.tenantId)).find? fun prior => prior.identity = message.identity

/-- The session behind the first receipt of a message. -/
structure Received (s : Session Store) (message : InboxMessage) (t : Session Store) : Prop where
  fresh : receivedAs s.db message = none
  tenant_known : s.db.tenants.get? message.tenantId ≠ none
  id_free : s.db.inbox.get? message.key = none
  event_free : s.db.outbox.outboxIdempotency.get? (.uuid message.tenantId, .inbox message.id "process") = none
  waiting : message.state = .received ∧ message.version = 1
  id : message.id = s.uuids
  written : ∃ row, t = ⟨{ s.db with
      inbox := s.db.inbox.put message
      auditEvents := s.db.auditEvents ++ [row]
      outbox := published s.db.outbox (.pendingEvent (.uuid (s.uuids + 3)) (.uuid message.tenantId)
        "inbox.process_requested" (.uuid message.id)
        [("inbox_id", .uuid message.id), ("payload_digest", .text message.payloadDigest)]
        (.inbox message.id "process") message.receivedAt) }, s.reads + 2, s.uuids + 4⟩

theorem receiveInbox_eq_ok {message result : InboxMessage} {replayed : Bool} :
    (receiveInbox message).run s = (.ok (result, replayed), t) ↔
      receivedAs s.db message = some result ∧
          (result.payloadDigest, result.schemaVersion) = (message.payloadDigest, message.schemaVersion) ∧
          replayed = true ∧ t = s ∨
        receivedAs s.db message = none ∧ s.db.tenants.get? message.tenantId ≠ none ∧
          s.db.inbox.get? message.key = none ∧ result = message ∧ replayed = false ∧
          t = { s with db := { s.db with inbox := s.db.inbox.put message } } := by
  rw [receiveInbox, transaction_eq_ok, bind_eq_ok]
  simp only [inboxFor, query_eq_ok]
  have known : (s.db.inbox.rows.filter (·.tenantId = message.tenantId)).find?
      (fun prior => decide (prior.identity = message.identity)) = receivedAs s.db message := rfl
  constructor
  · rintro ⟨rows, middle, ⟨rows_eq, here⟩, ran⟩
    rw [here, ← rows_eq, known] at ran
    cases found : receivedAs s.db message with
    | some prior =>
      rw [found] at ran
      simp only [bind_eq_ok, ensure_eq_ok, pure_eq_ok, Prod.mk.injEq] at ran
      obtain ⟨_, _, ⟨same, rfl⟩, ⟨rfl, rfl⟩, rfl⟩ := ran
      exact .inl ⟨rfl, Prod.ext same.1 same.2, rfl, rfl⟩
    | none =>
      rw [found] at ran
      simp only [bind_eq_ok, query_eq_ok, ensure_eq_ok, write_eq_ok, pure_eq_ok, Prod.mk.injEq] at ran
      obtain ⟨_, _, ⟨rfl, rfl⟩, _, _, ⟨tenant, rfl⟩, _, _, ⟨rfl, rfl⟩, _, _, ⟨free, rfl⟩, _, _, rfl, ⟨rfl, rfl⟩, rfl⟩ := ran
      exact .inr ⟨rfl, tenant, free, rfl, rfl, rfl⟩
  · rintro (⟨found, same, rfl, rfl⟩ | ⟨found, tenant, free, rfl, rfl, rfl⟩)
    · refine ⟨_, _, ⟨rfl, rfl⟩, ?_⟩
      rw [known, found]
      simp only [bind_eq_ok, ensure_eq_ok, pure_eq_ok]
      exact ⟨(), _, ⟨same, rfl⟩, trivial, rfl⟩
    · refine ⟨_, _, ⟨rfl, rfl⟩, ?_⟩
      rw [known, found]
      simp only [bind_eq_ok, query_eq_ok, ensure_eq_ok, write_eq_ok, pure_eq_ok]
      exact ⟨_, _, ⟨rfl, rfl⟩, (), _, ⟨tenant, rfl⟩, _, _, ⟨rfl, rfl⟩, (), _, ⟨free, rfl⟩, (), _, rfl, trivial, rfl⟩

theorem acknowledge_eq_ok {message : InboxMessage} {now : Timestamp} {u : Unit} :
    (acknowledge env context message now).run s = (.ok u, t) ↔
      s.db.outbox.outboxIdempotency.get? (.uuid message.tenantId, .inbox message.id "process") = none ∧
        t = ⟨{ s.db with
            auditEvents := s.db.auditEvents ++ [auditRow env s context.tenantId (.uuid context.userId) "inbox.received"
              (.uuid message.id) "accepted" [("payload_digest", .text message.payloadDigest)]]
            outbox := published s.db.outbox (.pendingEvent (.uuid (s.uuids + 2)) (.uuid message.tenantId)
              "inbox.process_requested" (.uuid message.id)
              [("inbox_id", .uuid message.id), ("payload_digest", .text message.payloadDigest)]
              (.inbox message.id "process") now) }, s.reads + 1, s.uuids + 3⟩ := by
  simp only [acknowledge, inboxOutbox, bind_eq_ok, auditBy_eq_ok, publish_eq_ok]
  constructor
  · rintro ⟨_, _, rfl, free, rfl⟩
    exact ⟨free, rfl⟩
  · rintro ⟨free, rfl⟩
    exact ⟨(), _, rfl, free, rfl⟩

section

variable {provider connectionId externalEventId payloadDigest : String} {schemaVersion : Int}
  {rawPayloadRef : Option String} {message : InboxMessage}

/-- The message that a session would receive. -/
def incoming (env : Env) (s : Session Store) (tenant : Uuid) (provider connectionId externalEventId : String)
    (schemaVersion : Int) (payloadDigest : String) (rawPayloadRef : Option String) : InboxMessage where
  id := s.uuids
  tenantId := tenant
  provider := provider
  connectionId := connectionId
  externalEventId := externalEventId
  schemaVersion := schemaVersion
  receivedAt := env.clock s.reads
  payloadDigest := payloadDigest
  rawPayloadRef := rawPayloadRef

theorem receiveInbound_ok {replayed : Bool}
    (ran : (receiveInbound env context provider connectionId externalEventId schemaVersion payloadDigest
      rawPayloadRef).run s = (.ok (message, replayed), t)) :
    let candidate := incoming env s context.tenantId provider connectionId externalEventId schemaVersion payloadDigest
      rawPayloadRef
    Receivable s.db context candidate ∧
      (replayed = true ∧ receivedAs s.db candidate = some message ∧
          (message.payloadDigest, message.schemaVersion) = (payloadDigest, schemaVersion) ∧
          t = { s with reads := s.reads + 1, uuids := s.uuids + 1 } ∨
        replayed = false ∧ message = candidate ∧ Received s candidate t) := by
  intro candidate
  rw [receiveInbound, transaction_eq_ok] at ran
  simp only [bind_eq_ok, require_eq_ok, inboundIdentifier_eq_ok, ensure_eq_ok, getAdapterManifest, query_eq_ok,
    fetch_eq_ok, now_eq_ok, freshUuid_eq_ok] at ran
  obtain ⟨_, _, ⟨authorized, rfl⟩, _, _, ⟨provider_named, rfl⟩, _, _, ⟨connection_named, rfl⟩, _, _, ⟨event_named, rfl⟩,
    _, _, ⟨schema, rfl⟩, _, _, ⟨digest, rfl⟩, _, _, ⟨ref, rfl⟩, manifest, _, ⟨_, _, ⟨rfl, rfl⟩, found, rfl⟩, _, _,
    ⟨supported, rfl⟩, _, _, ⟨rfl, rfl⟩, _, _, ⟨rfl, rfl⟩, ⟨result, already⟩, _, receiving, ran⟩ := ran
  refine ⟨⟨authorized, rfl, ⟨provider_named, connection_named, event_named⟩, schema, digest, ref, manifest, found,
    supported⟩, ?_⟩
  rcases receiveInbox_eq_ok.mp receiving with ⟨prior, same, rfl, rfl⟩ | ⟨fresh, tenant, free, rfl, rfl, rfl⟩
  · simp only [if_true, pure_eq_ok, Prod.mk.injEq] at ran
    obtain ⟨⟨rfl, rfl⟩, rfl⟩ := ran
    exact .inl ⟨rfl, prior, same, rfl⟩
  · simp only [Bool.false_eq_true, if_false, bind_eq_ok, acknowledge_eq_ok, pure_eq_ok, Prod.mk.injEq] at ran
    obtain ⟨_, _, ⟨event_free, rfl⟩, ⟨rfl, rfl⟩, rfl⟩ := ran
    exact .inr ⟨rfl, rfl, fresh, tenant, free, event_free, ⟨rfl, rfl⟩, rfl, _, rfl⟩

/-- A new message that passes every check is received. -/
theorem receiveInbound_returns
    (receivable : Receivable s.db context (incoming env s context.tenantId provider connectionId externalEventId
      schemaVersion payloadDigest rawPayloadRef))
    (fresh : receivedAs s.db (incoming env s context.tenantId provider connectionId externalEventId schemaVersion
      payloadDigest rawPayloadRef) = none)
    (tenant_known : s.db.tenants.get? context.tenantId ≠ none)
    (id_free : s.db.inbox.get? (context.tenantId, s.uuids) = none)
    (event_free : s.db.outbox.outboxIdempotency.get? (.uuid context.tenantId, .inbox s.uuids "process") = none) :
    ∃ t, (receiveInbound env context provider connectionId externalEventId schemaVersion payloadDigest
      rawPayloadRef).run s = (.ok (incoming env s context.tenantId provider connectionId externalEventId schemaVersion
        payloadDigest rawPayloadRef, false), t) := by
  obtain ⟨manifest, found, supported⟩ := receivable.manifest
  apply Exists.intro
  rw [receiveInbound, transaction_eq_ok]
  simp only [bind_eq_ok, require_eq_ok, inboundIdentifier_eq_ok, ensure_eq_ok, getAdapterManifest, query_eq_ok,
    fetch_eq_ok, now_eq_ok, freshUuid_eq_ok]
  refine ⟨(), _, ⟨receivable.authorized, rfl⟩, (), _, ⟨receivable.named.1, rfl⟩, (), _, ⟨receivable.named.2.1, rfl⟩,
    (), _, ⟨receivable.named.2.2, rfl⟩, (), _, ⟨receivable.schema_version, rfl⟩, (), _, ⟨receivable.digest, rfl⟩, (), _,
    ⟨receivable.ref, rfl⟩, manifest, _, ⟨_, _, ⟨rfl, rfl⟩, found, rfl⟩, (), _, ⟨supported, rfl⟩, _, _, ⟨rfl, rfl⟩, _, _,
    ⟨rfl, rfl⟩, (_, false), _, receiveInbox_eq_ok.mpr (.inr ⟨fresh, tenant_known, id_free, rfl, rfl, rfl⟩), ?_⟩
  simp only [Bool.false_eq_true, if_false, bind_eq_ok, acknowledge_eq_ok, pure_eq_ok]
  exact ⟨(), _, ⟨event_free, rfl⟩, rfl, rfl⟩

end

/-! ## Processing -/

/-- The session behind the processing of a received message. -/
structure Processed (s : Session Store) (prior message : InboxMessage) (t : Session Store) : Prop where
  waiting : prior.state = .received
  result : ∃ time, message =
    { prior with state := .processed, version := prior.version + 1, processedAt := some time }
  event_free : s.db.outbox.outboxIdempotency.get? (.uuid prior.tenantId, .inbox prior.id "processed") = none
  written : ∃ row now, t = ⟨{ s.db with
      inbox := s.db.inbox.put message
      auditEvents := s.db.auditEvents ++ [row]
      outbox := published s.db.outbox (.pendingEvent (.uuid s.uuids) (.uuid prior.tenantId) "inbound.accepted"
        (.uuid prior.id) [("inbox_id", .uuid prior.id), ("payload_digest", .text prior.payloadDigest)]
        (.inbox prior.id "processed") now) }, s.reads + 2, s.uuids + 3⟩

theorem processInbound_ok {inboxId : Uuid} {expectedVersion : Int} {message : InboxMessage} {replayed : Bool}
    (ran : (processInbound env context inboxId expectedVersion).run s = (.ok (message, replayed), t)) :
    ∃ prior, s.db.inbox.get? (context.tenantId, inboxId) = some prior ∧
      (replayed = true ∧ prior.state = .processed ∧ message = prior ∧ t = s ∨
        replayed = false ∧ Processed s prior message t) := by
  rw [processInbound, transaction_eq_ok] at ran
  simp only [bind_eq_ok, require_eq_ok, ensure_eq_ok, getInbox, query_eq_ok, fetch_eq_ok] at ran
  obtain ⟨_, _, ⟨authorized, rfl⟩, _, _, ⟨version, rfl⟩, prior, _, ⟨_, _, ⟨rfl, rfl⟩, found, rfl⟩, ran⟩ := ran
  refine ⟨prior, found, ?_⟩
  split at ran
  · next processed =>
    simp only [pure_eq_ok, Prod.mk.injEq] at ran
    obtain ⟨⟨rfl, rfl⟩, rfl⟩ := ran
    exact .inl ⟨rfl, processed, rfl, rfl⟩
  · next unprocessed =>
    have waiting : prior.state = .received := by
      cases state : prior.state with
      | received => rfl
      | processed => exact absurd state unprocessed
    simp only [bind_eq_ok, now_eq_ok, markInboxProcessed, transaction_eq_ok, getInbox, query_eq_ok, fetch_eq_ok,
      ensure_eq_ok, write_eq_ok, inboxOutbox, publish_eq_ok, auditBy_eq_ok, pure_eq_ok, Prod.mk.injEq] at ran
    obtain ⟨_, _, ⟨rfl, rfl⟩, _, _, ⟨again, _, ⟨_, _, ⟨rfl, rfl⟩, refound, rfl⟩, _, _, ⟨-, rfl⟩, _, _, rfl, rfl, rfl⟩, _, _,
      ⟨free, rfl⟩, _, _, rfl, ⟨rfl, rfl⟩, rfl⟩ := ran
    cases Option.some.inj (refound.symm.trans found)
    exact .inr ⟨rfl, waiting, ⟨_, rfl⟩, free, _, _, rfl⟩

/-! ## Items -/

theorem saveNormalizedPayload_eq_ok {row result : NormalizedInboundPayload} :
    (saveNormalizedPayload row).run s = (.ok result, t) ↔
      s.db.normalizedPayloads.get? row.key = some result ∧
          (result.canonicalDigest = row.canonicalDigest ∧ result.payload = row.payload) ∧ t = s ∨
        s.db.normalizedPayloads.get? row.key = none ∧ result = row ∧
          t = { s with db := { s.db with normalizedPayloads := s.db.normalizedPayloads.put row } } := by
  simp only [saveNormalizedPayload, bind_eq_ok, query_eq_ok]
  constructor
  · rintro ⟨stored, middle, ⟨stored_eq, here⟩, ran⟩
    rw [here] at ran
    cases stored with
    | some prior =>
      simp only [bind_eq_ok, ensure_eq_ok, pure_eq_ok] at ran
      obtain ⟨_, _, ⟨same, rfl⟩, rfl, rfl⟩ := ran
      exact .inl ⟨stored_eq, same, rfl⟩
    | none =>
      simp only [bind_eq_ok, write_eq_ok, pure_eq_ok] at ran
      obtain ⟨_, _, rfl, rfl, rfl⟩ := ran
      exact .inr ⟨stored_eq, rfl, rfl⟩
  · rintro (⟨found, same, rfl⟩ | ⟨missing, rfl, rfl⟩)
    · refine ⟨_, _, ⟨found, rfl⟩, ?_⟩
      simp only [bind_eq_ok, ensure_eq_ok, pure_eq_ok]
      exact ⟨(), _, ⟨same, rfl⟩, trivial, rfl⟩
    · refine ⟨_, _, ⟨missing, rfl⟩, ?_⟩
      simp only [bind_eq_ok, write_eq_ok, pure_eq_ok]
      exact ⟨(), _, rfl, trivial, rfl⟩

/-- The payload row of an item. -/
def payloadRow (env : Env) (tenant : Uuid) (item : NormalizedItem) (now : Timestamp) : NormalizedInboundPayload where
  tenantId := tenant
  immutableRef := item.immutableRef
  canonicalDigest := env.digest item.payload
  schemaVersion := 1
  payload := item.payload
  sourceDigest := item.order.sourceDigest
  createdAt := now

/-- The message of an item. -/
def itemMessage (env : Env) (s : Session Store) (tenant : Uuid) (connection : Connection) (item : NormalizedItem) :
    InboxMessage :=
  incoming env s tenant connection.provider connection.connectionId item.order.eventId 1 (env.digest item.payload)
    (some item.immutableRef)

/-- The reference of a payload keeps what it was first bound to. -/
inductive PayloadKept (s : Session Store) (row : NormalizedInboundPayload) : Session Store → Prop where
  | known {prior : NormalizedInboundPayload} : s.db.normalizedPayloads.get? row.key = some prior →
      prior.canonicalDigest = row.canonicalDigest ∧ prior.payload = row.payload → PayloadKept s row s
  | new : s.db.normalizedPayloads.get? row.key = none →
      PayloadKept s row { s with db := { s.db with normalizedPayloads := s.db.normalizedPayloads.put row } }

theorem ingestItem_ok {connection : Connection} {now : Timestamp} {item : NormalizedItem} {message : InboxMessage}
    {replayed : Bool}
    (ran : (ingestItem env context connection now item).run s = (.ok (message, replayed), t)) :
    ∃ middle, PayloadKept s (payloadRow env context.tenantId item now) middle ∧
      Receivable middle.db context (itemMessage env middle context.tenantId connection item) ∧
      (receivedAs middle.db (itemMessage env middle context.tenantId connection item) = some message ∧
          t = { middle with reads := middle.reads + 1, uuids := middle.uuids + 1 } ∨
        message = itemMessage env middle context.tenantId connection item ∧ Received middle message t) := by
  simp only [ingestItem, bind_eq_ok, saveNormalizedPayload_eq_ok] at ran
  obtain ⟨kept, middle, saved, received⟩ := ran
  obtain ⟨receivable, outcome⟩ := receiveInbound_ok received
  have payload : PayloadKept s (payloadRow env context.tenantId item now) middle := by
    rcases saved with ⟨found, same, rfl⟩ | ⟨missing, -, rfl⟩
    · exact .known found same
    · exact .new missing
  refine ⟨middle, payload, receivable, ?_⟩
  rcases outcome with ⟨-, known, -, after⟩ | ⟨-, rfl, first⟩
  · exact .inl ⟨known, after⟩
  · exact .inr ⟨rfl, first⟩

/-! ## Polls -/

/-- What a poll is checked for before the page is read, and again in its transaction. -/
structure Polled (db : Store) (context : TenantContext) (connection : Connection)
    (description : DemoAdapterDescription) : Prop where
  authorized : Authorized db context .tenantAdmin
  manifest : ∃ manifest, db.manifests.get? (context.tenantId, connection.provider, connection.connectionId) =
    some manifest ∧ SupportedManifest manifest description

def checkpointOf (db : Store) (tenant : Uuid) (connection : Connection) : Option AdapterPollCheckpoint :=
  db.pollCheckpoints.get? (tenant, connection.provider, connection.connectionId)

def checkpointVersion (db : Store) (tenant : Uuid) (connection : Connection) : Nat :=
  (checkpointOf db tenant connection).elim 0 (·.version)

def checkpointCursor (db : Store) (tenant : Uuid) (connection : Connection) : Option String :=
  (checkpointOf db tenant connection).bind (·.cursor)

/-- The session behind a new checkpoint. -/
def advanced (s : Session Store) (row : AdapterPollCheckpoint) : Session Store :=
  { s with db := { s.db with pollCheckpoints := s.db.pollCheckpoints.put row } }

@[simp] theorem supportedManifest_eq_ok {connection : Connection} {description : DemoAdapterDescription} {u : Unit} :
    (supportedManifest context connection description).run s = (.ok u, t) ↔
      (∃ manifest, s.db.manifests.get? (context.tenantId, connection.provider, connection.connectionId) = some manifest ∧
        SupportedManifest manifest description) ∧ t = s := by
  simp only [supportedManifest, getAdapterManifest, bind_eq_ok, query_eq_ok, fetch_eq_ok, ensure_eq_ok]
  constructor
  · rintro ⟨manifest, _, ⟨_, _, ⟨rfl, rfl⟩, found, rfl⟩, supported, rfl⟩
    exact ⟨⟨manifest, found, supported⟩, rfl⟩
  · rintro ⟨⟨manifest, found, supported⟩, rfl⟩
    exact ⟨manifest, _, ⟨_, _, ⟨rfl, rfl⟩, found, rfl⟩, supported, rfl⟩

/-- A reading is what the checkpoint holds. -/
theorem readCheckpoint_ok {connection : Connection} {expectedVersion : Int} {description : DemoAdapterDescription}
    {overlapFrom : Option Timestamp} {reading : PollReading}
    (ran : (readCheckpoint context connection expectedVersion description overlapFrom).run s = (.ok reading, t)) :
    Polled s.db context connection description ∧ 0 ≤ expectedVersion ∧
      reading.cursor = checkpointCursor s.db context.tenantId connection ∧ t = s := by
  simp only [readCheckpoint, getPollCheckpoint, bind_eq_ok, require_eq_ok, ensure_eq_ok, supportedManifest_eq_ok,
    query_eq_ok, pure_eq_ok] at ran
  obtain ⟨_, _, ⟨authorized, rfl⟩, _, _, ⟨nonnegative, rfl⟩, _, _, ⟨-, rfl⟩, _, _, ⟨-, rfl⟩, _, _, ⟨manifest, rfl⟩, _, _,
    ⟨rfl, rfl⟩, _, _, ⟨-, rfl⟩, rfl, rfl⟩ := ran
  exact ⟨⟨authorized, manifest⟩, nonnegative, rfl, rfl⟩

section

variable {connection : Connection} {expectedVersion : Nat} {description : DemoAdapterDescription}
  {reading : PollReading} {page : DemoPage}

theorem commitItems_eq_ok {items : List NormalizedItem} {now : Timestamp} {result : DemoPollResult} :
    (commitItems env context connection expectedVersion description reading page items now).run s = (.ok result, t) ↔
      Polled s.db context connection description ∧
      checkpointVersion s.db context.tenantId connection = expectedVersion ∧
      ∃ receipts middle, (collect items (ingestItem env context connection now)).run s = (.ok receipts, middle) ∧
        checkpointVersion middle.db context.tenantId connection = expectedVersion ∧
        result = ⟨nextCheckpoint context connection expectedVersion description reading page now,
          items.map (·.immutableRef), receipts.map (·.1.id), receipts.countP (·.2), page.hasMore⟩ ∧
        t = advanced middle (nextCheckpoint context connection expectedVersion description reading page now) := by
  have versions : ∀ found : Option AdapterPollCheckpoint, ((found.elim 0 (·.version) : Nat) : Int) =
      found.elim (0 : Int) fun row => (row.version : Int) := by
    intro found
    cases found <;> rfl
  rw [commitItems, transaction_eq_ok]
  simp only [bind_eq_ok, require_eq_ok, supportedManifest_eq_ok, getPollCheckpoint, query_eq_ok, ensure_eq_ok,
    insertOrAdvancePollCheckpoint, write_eq_ok, pure_eq_ok]
  constructor
  · rintro ⟨_, _, ⟨authorized, rfl⟩, _, _, ⟨manifest, rfl⟩, _, _, ⟨rfl, rfl⟩, _, _, ⟨current, rfl⟩, receipts, _, ran,
      _, _, ⟨_, _, ⟨rfl, rfl⟩, _, held, ⟨⟨actual, -⟩, rfl⟩, _, _, rfl, rfl, rfl⟩, rfl, rfl⟩
    refine ⟨⟨authorized, manifest⟩, current, receipts, held, ran, ?_, rfl, rfl⟩
    rw [← versions] at actual
    exact Int.ofNat.inj actual
  · rintro ⟨⟨authorized, manifest⟩, current, receipts, middle, ran, actual, rfl, rfl⟩
    refine ⟨(), _, ⟨authorized, rfl⟩, (), _, ⟨manifest, rfl⟩, _, _, ⟨rfl, rfl⟩, (), _, ⟨current, rfl⟩, receipts, middle, ran,
      _, _, ⟨_, _, ⟨rfl, rfl⟩, (), _, ⟨⟨?_, rfl⟩, rfl⟩, (), _, rfl, rfl, rfl⟩, rfl, rfl⟩
    rw [← versions]
    exact congrArg Int.ofNat actual

theorem commitPage_eq_ok {result : DemoPollResult} :
    (commitPage env context connection expectedVersion description reading page).run s = (.ok result, t) ↔
      validateDemoPage page = .ok () ∧ ∃ items, normalizeItems env page.items = .ok items ∧
        (commitItems env context connection expectedVersion description reading page items (env.clock s.reads)).run
          { s with reads := s.reads + 1 } = (.ok result, t) := by
  simp only [commitPage, bind_eq_ok, ofExcept_eq_ok, now_eq_ok]
  constructor
  · rintro ⟨_, _, ⟨valid, rfl⟩, items, _, ⟨normalized, rfl⟩, _, _, ⟨rfl, rfl⟩, ran⟩
    exact ⟨valid, items, normalized, ran⟩
  · rintro ⟨valid, items, normalized, ran⟩
    exact ⟨(), _, ⟨valid, rfl⟩, items, _, ⟨normalized, rfl⟩, _, _, ⟨rfl, rfl⟩, ran⟩

/-- A page whose commit is refused has changed nothing. -/
theorem commitPage_error {why : Failure}
    (raised : (commitPage env context connection expectedVersion description reading page).run s = (.error why, t)) :
    t.db = s.db := by
  have unwinds : Unwinds (fun db : Store => db)
      (commitPage env context connection expectedVersion description reading page) :=
    .bind (keeps_ofExcept _) fun _ => .bind (keeps_ofExcept _) fun _ => .bind keeps_now fun _ => unwinds_transaction _
  exact unwinds s why t raised

end

end AiStore.Ingestion
