import AiStore.Gateway.Canonical

/-! Ingestion of demo orders: a page is read outside any transaction, and its payloads, receipts
and cursor are written in one. -/

set_option autoImplicit false

namespace AiStore.Ingestion

open Library.Txn Failure Repository Service

/-! ## Orders -/

structure NormalizedDemoOrder where
  externalOrderId : String
  eventId : String
  revision : Nat
  currency : String
  totalMinor : Int
  lines : List Value
  sourceDigest : Option String
  deriving DecidableEq

/-- A normalized order with its canonical payload and the reference the payload is kept under. -/
structure NormalizedItem where
  order : NormalizedDemoOrder
  payload : Value
  immutableRef : String
  deriving DecidableEq

variable (env : Env)

def allowedCurrencies : List String := ["KRW", "USD", "JPY", "EUR", "GBP", "CNY"]

def requiredFields : List String := ["external_order_id", "event_id", "revision", "currency", "total_minor", "lines"]

def refuse {α : Type} (message : String) : Except Failure α := .error (conflictError message)

def check (condition : Prop) [Decidable condition] (message : String) : Except Failure Unit :=
  if condition then .ok () else refuse message

/-- `_opaque`; unlike the names of the gateway these have no colon. -/
def opaqueField (value : Option Value) (label : String) : Except Failure String := match value with
  | some (.text text) => if opaqueIdentifier text then .ok text else refuse ("invalid " ++ label)
  | _ => refuse ("invalid " ++ label)

/-- An `int` from a lower bound on; a `bool` is none. -/
def intField (value : Option Value) (least : Int) (message : String) : Except Failure Int := match value with
  | some (.int number) => if least ≤ number then .ok number else refuse message
  | _ => refuse message

/-- The keys of the lines so far and the amount they come to. -/
structure LineTally where
  sourceLineKeys : List String := []
  calculated : Int := 0
  lines : List Value := []

def sourceLineKey (tally : LineTally) (entry : Value) : Except Failure String := match entry with
  | .text key => do
      check (Gateway.opaqueText key = true) "invalid source_line_key"
      check (key ∉ tally.sourceLineKeys) "duplicate source_line_key"
      pure key
  | _ => refuse "invalid source_line_key"

def normalizeLine (tally : LineTally) : Value → Except Failure LineTally
  | .dict raw => do
      check ((∀ field ∈ ["sku", "quantity", "unit_minor"], (Mapping.get? raw field).isSome) ∧
        ∀ entry ∈ raw, entry.1 ∈ ["sku", "quantity", "unit_minor", "source_line_key"]) "invalid DEMO order line schema"
      let sku ← opaqueField (Mapping.get? raw "sku") "sku"
      let quantity ← intField (Mapping.get? raw "quantity") 1 "line quantity must be a positive integer"
      let unit ← intField (Mapping.get? raw "unit_minor") 0 "line unit_minor must be a nonnegative integer"
      let line : Mapping := [("sku", .text sku), ("quantity", .int quantity), ("unit_minor", .int unit)]
      let calculated := tally.calculated + quantity * unit
      match Mapping.get? raw "source_line_key" with
      | none => pure { tally with calculated := calculated, lines := tally.lines ++ [.dict line] }
      | some entry => do
        let key ← sourceLineKey tally entry
        pure ⟨key :: tally.sourceLineKeys, calculated, tally.lines ++ [.dict (line ++ [("source_line_key", .text key)])]⟩
  | _ => refuse "invalid DEMO order line schema"

def normalizeLines (tally : LineTally) : List Value → Except Failure LineTally
  | [] => pure tally
  | raw :: rest => do
      let tally ← normalizeLine tally raw
      normalizeLines tally rest

def sourceDigestField : Option Value → Except Failure (Option String)
  | none | some .none => pure none
  | some (.text digest) =>
      if sha256Text digest then pure (some digest) else refuse "source_digest must be a SHA-256 hex digest"
  | some _ => refuse "source_digest must be a SHA-256 hex digest"

def orderPayload (order : NormalizedDemoOrder) : Value := Gateway.sorted (.dict [
  ("external_order_id", .text order.externalOrderId), ("event_id", .text order.eventId),
  ("revision", .int order.revision), ("currency", .text order.currency), ("total_minor", .int order.totalMinor),
  ("lines", .list order.lines)])

/-- `demo-{event_id}-r{revision}-{digest[:16]}`. -/
def immutableRefOf (eventId : String) (revision : Nat) (digest : String) : String :=
  "demo-" ++ eventId ++ "-r" ++ String.ofList (Nat.toDigits 10 revision) ++ "-" ++ String.ofList (digest.toList.take 16)

def currencyField : Option Value → Except Failure String
  | some (.text currency) =>
      if currency ∈ allowedCurrencies then pure currency else refuse "currency is not allowlisted"
  | _ => refuse "currency is not allowlisted"

def linesField : Option Value → Except Failure (List Value)
  | some (.list lines) =>
      if lines ≠ [] ∧ lines.length ≤ 100 then pure lines else refuse "lines must be a nonempty bounded list"
  | _ => refuse "lines must be a nonempty bounded list"

def normalizeDemoOrder : Value → Except Failure NormalizedItem
  | .dict item => do
      check (∀ entry ∈ item, entry.1 ∈ "source_digest" :: requiredFields) "unknown DEMO order field"
      check (∀ field ∈ requiredFields, (Mapping.get? item field).isSome) "missing DEMO order field"
      let externalId ← opaqueField (Mapping.get? item "external_order_id") "external_order_id"
      let eventId ← opaqueField (Mapping.get? item "event_id") "event_id"
      let revision ← intField (Mapping.get? item "revision") 1 "revision must be a positive integer"
      let currency ← currencyField (Mapping.get? item "currency")
      let total ← intField (Mapping.get? item "total_minor") 0 "total_minor must be a nonnegative integer"
      let rawLines ← linesField (Mapping.get? item "lines")
      let tally ← normalizeLines {} rawLines
      check (tally.calculated = total) "order amount does not match line amounts"
      let sourceDigest ← sourceDigestField (Mapping.get? item "source_digest")
      let order : NormalizedDemoOrder := ⟨externalId, eventId, revision.toNat, currency, total, tally.lines, sourceDigest⟩
      let payload := orderPayload order
      check (Gateway.jsonSize payload ≤ 64 * 1024) "normalized DEMO payload exceeds size limit"
      pure ⟨order, payload, immutableRefOf eventId revision.toNat (env.digest payload)⟩
  | _ => refuse "DEMO order must be an object"

/-! ## Pages -/

structure DemoAdapterDescription where
  provider : String
  adapterVersion : String
  normalizedSchemaVersion : Int := 1
  capability : AdapterCapability := .ordersRead
  mode : String := "DEMO"
  deriving DecidableEq

structure DemoPage where
  items : List Value
  nextCursor : Option String
  hasMore : Bool
  observedAt : Timestamp
  deriving DecidableEq

/-- `p[1-9][0-9]{0,8}`. -/
def pageCursor (cursor : String) : Bool := match cursor.toList with
  | 'p' :: first :: rest => first.isDigit && first ≠ '0' && rest.all Char.isDigit && rest.length ≤ 8
  | _ => false

/-- `validate_demo_page`; every timestamp of this model has a zone. -/
def validateDemoPage (page : DemoPage) : Except Failure Unit := do
  check (page.items.length ≤ 100) "DEMO page exceeds item limit"
  check (∀ cursor ∈ page.nextCursor, pageCursor cursor = true) "invalid DEMO page cursor"
  check (page.hasMore → page.nextCursor.isSome) "page with more results requires next_cursor"

/-- Every item of a page, in its order. -/
def normalizeItems : List Value → Except Failure (List NormalizedItem)
  | [] => pure []
  | item :: rest => do
      let normalized ← normalizeDemoOrder env item
      let others ← normalizeItems rest
      pure (normalized :: others)

/-! ## Receipts -/

/-- `_inbox_outbox`. -/
def inboxOutbox (message : InboxMessage) (topic suffix : String) (now : Timestamp) : Op Unit :=
  publish message.tenantId topic message.id
    [("inbox_id", .uuid message.id), ("payload_digest", .text message.payloadDigest)] (.inbox message.id suffix) now

/-- What is done about a message that has not been received before. -/
def acknowledge (context : TenantContext) (message : InboxMessage) (now : Timestamp) : Op Unit := do
  auditBy env context "inbox.received" message.id "accepted" [("payload_digest", .text message.payloadDigest)]
  inboxOutbox message "inbox.process_requested" "process" now

def receiveInbound (context : TenantContext) (provider connectionId externalEventId : String) (schemaVersion : Int)
    (payloadDigest : String) (rawPayloadRef : Option String) : Op (InboxMessage × Bool) := transaction do
  require context .tenantAdmin
  inboundIdentifier provider
  inboundIdentifier connectionId
  inboundIdentifier externalEventId
  ensure (1 ≤ schemaVersion) (conflictError "invalid inbound schema version")
  ensure (sha256Text payloadDigest) (conflictError "invalid SHA-256 digest")
  ensure (∀ ref ∈ rawPayloadRef, opaqueIdentifier ref = true) (conflictError "invalid opaque inbound identifier")
  let manifest ← getAdapterManifest context.tenantId provider connectionId
  ensure (AdapterCapability.inboundEvents ∈ manifest.capabilities ∧ schemaVersion ∈ manifest.inboundSchemaVersions)
    (conflictError "unsupported inbound capability/schema")
  let now ← now env
  let id ← freshUuid
  let (message, replayed) ← receiveInbox {
    id := id
    tenantId := context.tenantId
    provider := provider
    connectionId := connectionId
    externalEventId := externalEventId
    schemaVersion := schemaVersion
    receivedAt := now
    payloadDigest := payloadDigest
    rawPayloadRef := rawPayloadRef }
  if replayed then pure (message, true)
  else do
    acknowledge env context message now
    pure (message, false)

def processInbound (context : TenantContext) (inboxId : Uuid) (expectedVersion : Int) : Op (InboxMessage × Bool) :=
  transaction do
    require context .tenantAdmin
    ensure (1 ≤ expectedVersion) (conflictError "invalid expected version")
    let message ← getInbox context.tenantId inboxId
    if message.state = .processed then pure (message, true)
    else do
      let now ← now env
      let message ← markInboxProcessed context.tenantId inboxId expectedVersion now
      inboxOutbox message "inbound.accepted" "processed" now
      auditBy env context "inbox.processed" message.id "accepted" [("payload_digest", .text message.payloadDigest)]
      pure (message, false)

/-! ## Polling -/

/-- The connection a poll is about. -/
structure Connection where
  provider : String
  connectionId : String
  deriving DecidableEq

def SupportedManifest (manifest : AdapterCapabilityManifest) (description : DemoAdapterDescription) : Prop :=
  manifest.adapterVersion = description.adapterVersion ∧ .ordersRead ∈ manifest.capabilities ∧
    .inboundEvents ∈ manifest.capabilities ∧ 1 ∈ manifest.inboundSchemaVersions

instance (manifest : AdapterCapabilityManifest) (description : DemoAdapterDescription) :
    Decidable (SupportedManifest manifest description) := by
  unfold SupportedManifest
  exact inferInstance

def supportedManifest (context : TenantContext) (connection : Connection) (description : DemoAdapterDescription) :
    Op Unit := do
  let manifest ← getAdapterManifest context.tenantId connection.provider connection.connectionId
  ensure (SupportedManifest manifest description) (conflictError "unsupported DEMO adapter manifest")

/-- What a poll asks the adapter for. -/
structure PollReading where
  cursor : Option String
  overlapFrom : Option Timestamp
  deriving DecidableEq

/-- `poll_demo_connection` up to `list_changes`. -/
def readCheckpoint (context : TenantContext) (connection : Connection) (expectedVersion : Int)
    (description : DemoAdapterDescription) (overlapFrom : Option Timestamp) : Op PollReading := do
  require context .tenantAdmin
  ensure (0 ≤ expectedVersion) (conflictError "expected checkpoint version must be nonnegative")
  ensure (description.provider = connection.provider ∧ description.mode = "DEMO" ∧ description.capability = .ordersRead)
    (conflictError "DEMO ORDERS_READ adapter required")
  ensure (description.normalizedSchemaVersion = 1) (conflictError "unsupported normalized DEMO schema version")
  supportedManifest context connection description
  let checkpoint ← getPollCheckpoint context.tenantId connection.provider connection.connectionId
  ensure (∀ row ∈ checkpoint, row.adapterVersion = description.adapterVersion)
    (conflictError "adapter version does not match poll checkpoint")
  pure ⟨checkpoint.bind (·.cursor), if overlapFrom.isSome then overlapFrom else checkpoint.bind (·.overlapFrom)⟩

/-- One item of a page: its payload, then its receipt. -/
def ingestItem (context : TenantContext) (connection : Connection) (now : Timestamp) (item : NormalizedItem) :
    Op (InboxMessage × Bool) := do
  let _ ← saveNormalizedPayload {
    tenantId := context.tenantId
    immutableRef := item.immutableRef
    canonicalDigest := env.digest item.payload
    schemaVersion := 1
    payload := item.payload
    sourceDigest := item.order.sourceDigest
    createdAt := now }
  receiveInbound env context connection.provider connection.connectionId item.order.eventId 1
    (env.digest item.payload) (some item.immutableRef)

structure DemoPollResult where
  checkpoint : AdapterPollCheckpoint
  payloadRefs : List String
  inboxIds : List Uuid
  replayedCount : Nat
  hasMore : Bool
  deriving DecidableEq

def nextCheckpoint (context : TenantContext) (connection : Connection) (expectedVersion : Nat)
    (description : DemoAdapterDescription) (reading : PollReading) (page : DemoPage) (now : Timestamp) :
    AdapterPollCheckpoint where
  tenantId := context.tenantId
  provider := connection.provider
  connectionId := connection.connectionId
  adapterVersion := description.adapterVersion
  cursor := if page.nextCursor.isSome then page.nextCursor else reading.cursor
  overlapFrom := reading.overlapFrom
  version := expectedVersion + 1
  updatedAt := now
  lastSuccessAt := some now

/-- The transaction of `poll_demo_connection`. -/
def commitItems (context : TenantContext) (connection : Connection) (expectedVersion : Nat)
    (description : DemoAdapterDescription) (reading : PollReading) (page : DemoPage) (items : List NormalizedItem)
    (now : Timestamp) : Op DemoPollResult := transaction do
  require context .tenantAdmin
  supportedManifest context connection description
  let current ← getPollCheckpoint context.tenantId connection.provider connection.connectionId
  ensure (current.elim 0 (·.version) = expectedVersion) (conflictError "adapter poll checkpoint version conflict")
  let receipts ← collect items (ingestItem env context connection now)
  let checkpoint ← insertOrAdvancePollCheckpoint
    (nextCheckpoint context connection expectedVersion description reading page now) expectedVersion
  pure ⟨checkpoint, items.map (·.immutableRef), receipts.map (·.1.id), receipts.countP (·.2), page.hasMore⟩

/-- `poll_demo_connection` from the page on. -/
def commitPage (context : TenantContext) (connection : Connection) (expectedVersion : Nat)
    (description : DemoAdapterDescription) (reading : PollReading) (page : DemoPage) : Op DemoPollResult := do
  ofExcept (validateDemoPage page)
  let items ← ofExcept (normalizeItems env page.items)
  let now ← now env
  commitItems env context connection expectedVersion description reading page items now

/-- `poll_demo_connection`; the adapter answers with a page for the cursor it is asked about. -/
def pollDemoConnection (context : TenantContext) (connection : Connection) (expectedVersion : Int)
    (description : DemoAdapterDescription) (overlapFrom : Option Timestamp) (listChanges : PollReading → DemoPage) :
    Op DemoPollResult := do
  let reading ← readCheckpoint context connection expectedVersion description overlapFrom
  commitPage env context connection expectedVersion.toNat description reading (listChanges reading)

end AiStore.Ingestion
