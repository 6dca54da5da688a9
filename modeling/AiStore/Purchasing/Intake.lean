import AiStore.Ingestion.Polling

/-! Orders made of the payloads that a poll has kept. -/

set_option autoImplicit false

namespace AiStore.Purchasing

open Library.Txn Failure Repository Service

variable (env : Env)

/-- `_load_payload`. -/
def loadPayload (context : TenantContext) (payloadRef : String) : Op Mapping := do
  require context .tenantAdmin
  inboundIdentifier payloadRef
  let payload ← getNormalizedPayload context.tenantId payloadRef
  ensure (payload.schemaVersion = 1 ∧ env.digest payload.payload = payload.canonicalDigest)
    (conflictError "normalized payload digest/schema verification failed")
  match payload.payload with
  | .dict value => pure value
  | _ => raise (conflictError "normalized order payload must be an object")

structure OrderFields where
  currency : String
  totalMinor : Int
  lines : List Value

/-- An `int`, which a `bool` is too. -/
def asInt : Value → Option Int
  | .int number => some number
  | .bool flag => some (if flag then 1 else 0)
  | _ => none

def orderFields (payload : Mapping) : Except Failure OrderFields :=
  match payload.get? "currency", (payload.get? "total_minor").bind asInt, payload.get? "lines" with
  | some (.text currency), some total, some (.list (line :: rest)) =>
      if 0 ≤ total then .ok ⟨currency, total, line :: rest⟩
      else .error (conflictError "invalid normalized order projection")
  | _, _, _ => .error (conflictError "invalid normalized order projection")

/-- `line[field]` of a number; a line keeps integers only. -/
def lineNumber (line : Mapping) (field : String) : Except Failure Int := match line.get? field with
  | none => .error (keyError field)
  | some value => match asInt value with
    | some number => .ok number
    | none => .error (typeError "an order line keeps integers")

def lineSku (line : Mapping) : Except Failure String := match line.get? "sku" with
  | none => .error (keyError "sku")
  | some value => Ingestion.opaqueField (some value) "sku"

def lineKey (line : Mapping) : Option String := match line.get? "source_line_key" with
  | some (.text key) => some key
  | _ => none

/-- The row of one line of the payload. -/
def orderLine (id tenant order : Uuid) : Value → Except Failure OrderLine
  | .dict line => do
      let sku ← lineSku line
      let quantity ← lineNumber line "quantity"
      let unitMinor ← lineNumber line "unit_minor"
      pure {
        id := id
        tenantId := tenant
        channelOrderId := order
        sku := sku
        quantity := quantity
        unitMinor := unitMinor
        sourceLineKey := lineKey line }
  | _ => .error (typeError "order line indices must be integers")

theorem orderLine_tenant {id tenant order : Uuid} {line : Value} {row : OrderLine}
    (taken : orderLine id tenant order line = .ok row) : row.tenantId = tenant := by
  unfold orderLine at taken
  split at taken
  · simp only [bind, Except.bind] at taken
    repeat' split at taken
    all_goals cases taken
    rfl
  · cases taken

def takeLine (tenant order : Uuid) (line : Value) : Op Unit := do
  let id ← freshUuid
  let row ← ofExcept (orderLine id tenant order line)
  saveOrderLine row

/-- `idempotency_key or ...`: an empty key is none. -/
def orderKey (channelId external : String) : Option String → String
  | none => "order:" ++ channelId ++ ":" ++ external
  | some key => if key = "" then "order:" ++ channelId ++ ":" ++ external else key

/-- The transaction of `ingest_order`. -/
def acceptOrder (context : TenantContext) (channelId external payloadRef eventId key : String) (fields : OrderFields)
    (now : Timestamp) : Op (ChannelOrder × Bool) := transaction do
  let id ← freshUuid
  let (order, replayed) ← saveChannelOrder {
    id := id
    tenantId := context.tenantId
    channelId := channelId
    externalOrderKey := external
    payloadRef := payloadRef
    currency := fields.currency
    totalMinor := fields.totalMinor
    status := .accepted
    receivedAt := now
    idempotencyKey := key }
  if replayed then pure (order, true)
  else do
    each fields.lines (takeLine context.tenantId order.id)
    auditBy env context "order.accepted" order.id "succeeded" [("external_order_key", .text external),
      ("payload_ref", .text payloadRef), ("event_id", .text eventId)]
    publish context.tenantId "order.accepted" order.id
      [("order_id", .uuid order.id), ("payload_ref", .text payloadRef)] (.orderAccepted order.id) now
    pure (order, false)

def ingestOrder (context : TenantContext) (channelId payloadRef : String) (idempotencyKey : Option String) :
    Op (ChannelOrder × Bool) := do
  require context .tenantAdmin
  let channelId ← ofExcept (Ingestion.opaqueField (some (.text channelId)) "channel_id")
  let payload ← loadPayload env context payloadRef
  let external ← ofExcept (Ingestion.opaqueField (payload.get? "external_order_id") "external_order_id")
  let eventId ← ofExcept (Ingestion.opaqueField (payload.get? "event_id") "event_id")
  let fields ← ofExcept (orderFields payload)
  let key := orderKey channelId external idempotencyKey
  ensure (¬ blank key ∧ key.length ≤ 255) (conflictError "invalid idempotency_key")
  let now ← now env
  acceptOrder env context channelId external payloadRef eventId key fields now

end AiStore.Purchasing
