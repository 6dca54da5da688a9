import AiStore.Domain.Store

/-! What every operation of the service starts and ends with: the member's
session, the digests, the audit trail and the outbox. -/

set_option autoImplicit false

namespace AiStore

open Library.Txn Failure Repository

/-- The clock by successive readings, SHA-256 over canonical JSON, and `str.lower`. -/
structure Env where
  clock : Nat → Timestamp
  digest : Value → String
  lower : String → String

namespace Service

variable (env : Env)

def now : Op Timestamp := readClock env.clock

/-! ## Texts -/

/-- `str.isspace`. -/
def isSpace (c : Char) : Bool :=
  c.toNat ∈ [32, 0x85, 0xA0, 0x1680, 0x2028, 0x2029, 0x202F, 0x205F, 0x3000] ∨
    9 ≤ c.toNat ∧ c.toNat ≤ 13 ∨ 28 ≤ c.toNat ∧ c.toNat ≤ 31 ∨ 0x2000 ≤ c.toNat ∧ c.toNat ≤ 0x200A

def strip (text : String) : String :=
  String.ofList ((text.toList.dropWhile isSpace).reverse.dropWhile isSpace).reverse

/-- `not text.strip()`. -/
def blank (text : String) : Bool := text.toList.all isSpace

def blankKey : CommandKey → Bool
  | .text words => blank words
  | .routing .. | .renewal .. => false

def identifierStart (c : Char) : Bool := c.isAlpha || c.isDigit

def identifierRest (c : Char) : Bool := identifierStart c || c = '_' || c = '.' || c = '-'

/-- `[A-Za-z0-9][A-Za-z0-9_.-]{0,254}`. -/
def opaqueIdentifier (text : String) : Bool := match text.toList with
  | [] => false
  | first :: rest => identifierStart first && rest.all identifierRest && rest.length ≤ 254

def inboundIdentifier (text : String) : Op Unit :=
  ensure (opaqueIdentifier text) (conflictError "invalid opaque inbound identifier")

/-- `[0-9a-f]{64}`. -/
def sha256Text (text : String) : Bool :=
  text.toList.length = 64 && text.toList.all fun c => c.isDigit || 'a' ≤ c && c ≤ 'f'

def strictIntentDigest (value : Value) : Op String := do
  ensure value.strictJson (conflictError "intent must contain finite JSON values with string keys")
  pure (env.digest value)

/-! ## Sessions -/

def membership (context : TenantContext) : Op Membership := do
  let row ← getMembership context.tenantId context.userId
  ensure (row.active ∧ row.version = context.membershipVersion) (authorizationError "session is stale or revoked")
  pure row

def require (context : TenantContext) (capability : Capability) : Op Unit := do
  let row ← membership context
  ensure (row.Available capability) (authorizationError ("missing capability: " ++ capability.value))

def contextFor (tenant user : Uuid) : Op TenantContext := do
  let row ← getMembership tenant user
  ensure row.active (authorizationError "membership revoked")
  pure ⟨tenant, user, row.version⟩

/-! ## Audit trail -/

def auditMaterial (event : AuditEvent) : Value := .dict [
  ("id", .uuid event.id), ("tenant_id", .uuid event.tenantId), ("occurred_at", .time event.occurredAt),
  ("actor_ref", event.actorRef.material), ("action", .text event.action), ("target_ref", event.targetRef.material),
  ("outcome", .text event.outcome), ("correlation_id", .uuid event.correlationId), ("metadata", .dict event.metadata),
  ("prev_hash", event.prevHash.elim .none .text)]

/-- `_audit`. -/
def audit (tenant : Uuid) (actor : Ident) (action : String) (target : Ident) (outcome : String)
    (metadata : Mapping) : Op Unit := do
  let previous := (← auditsFor tenant).getLast?.map (·.eventHash)
  let id ← freshUuid
  let correlation ← freshUuid
  let now ← now env
  let event : AuditEvent := {
    id := id
    tenantId := tenant
    occurredAt := now
    actorRef := actor
    action := action
    targetRef := target
    outcome := outcome
    correlationId := correlation
    metadata := metadata
    prevHash := previous
    eventHash := "" }
  appendAudit { event with eventHash := env.digest (auditMaterial event) }

def auditBy (context : TenantContext) (action : String) (target : Uuid) (outcome : String) (metadata : Mapping) :
    Op Unit :=
  audit env context.tenantId (.uuid context.userId) action (.uuid target) outcome metadata

/-- `append_outbox` of a new pending event. -/
def publish (tenant : Uuid) (topic : String) (aggregate : Uuid) (payload : Mapping) (key : OutboxKey)
    (createdAt : Timestamp) : Op Unit := do
  let id ← freshUuid
  appendOutbox (OutboxEvent.pendingEvent (.uuid id) (.uuid tenant) topic (.uuid aggregate) payload key createdAt)

/-! ## Returning runs and frames -/

/-- The session of an active member whose roles allow the capability. -/
def Authorized (store : Store) (context : TenantContext) (capability : Capability) : Prop :=
  ∃ row, store.memberships.get? (context.tenantId, context.userId) = some row ∧ row.active = true ∧
    row.version = context.membershipVersion ∧ row.Available capability

/-- The outbox behind `append_outbox`. -/
def published (box : InMemoryRepository.Outbox Ident OutboxKey) (event : OutboxEvent Ident OutboxKey) :
    InMemoryRepository.Outbox Ident OutboxKey :=
  (box.put event).bindKey event.tenantId event.idempotencyKey event.id

section

variable {env} {s t : Library.Session Store} {u : Unit} {context : TenantContext}

@[simp] theorem now_eq_ok {time : Timestamp} :
    (now env).run s = (.ok time, t) ↔ time = env.clock s.reads ∧ t = { s with reads := s.reads + 1 } :=
  readClock_eq_ok _ _ _ _

@[simp] theorem inboundIdentifier_eq_ok {text : String} :
    (inboundIdentifier text).run s = (.ok u, t) ↔ opaqueIdentifier text = true ∧ t = s :=
  ensure_eq_ok _ _ _ _ _

@[simp] theorem strictIntentDigest_eq_ok {value : Value} {digest : String} :
    (strictIntentDigest env value).run s = (.ok digest, t) ↔
      value.strictJson = true ∧ digest = env.digest value ∧ t = s := by
  simp [strictIntentDigest, and_assoc]

@[simp] theorem membership_eq_ok {row : Membership} :
    (membership context).run s = (.ok row, t) ↔
      s.db.memberships.get? (context.tenantId, context.userId) = some row ∧ row.active = true ∧
        row.version = context.membershipVersion ∧ t = s := by
  simp only [membership, bind_eq_ok, getMembership_eq_ok, ensure_eq_ok, pure_eq_ok]
  constructor
  · rintro ⟨found, _, ⟨bound, rfl⟩, _, _, ⟨⟨active, same⟩, rfl⟩, rfl, rfl⟩
    exact ⟨bound, active, same, rfl⟩
  · rintro ⟨bound, active, same, rfl⟩
    exact ⟨row, _, ⟨bound, rfl⟩, (), _, ⟨⟨active, same⟩, rfl⟩, rfl, rfl⟩

@[simp] theorem require_eq_ok {capability : Capability} :
    (require context capability).run s = (.ok u, t) ↔ Authorized s.db context capability ∧ t = s := by
  simp only [require, bind_eq_ok, membership_eq_ok, ensure_eq_ok, Authorized]
  constructor
  · rintro ⟨row, _, ⟨bound, active, same, rfl⟩, available, rfl⟩
    exact ⟨⟨row, bound, active, same, available⟩, rfl⟩
  · rintro ⟨⟨row, bound, active, same, available⟩, rfl⟩
    exact ⟨row, _, ⟨bound, active, same, rfl⟩, available, rfl⟩

@[simp] theorem contextFor_eq_ok {tenant user : Uuid} {result : TenantContext} :
    (contextFor tenant user).run s = (.ok result, t) ↔
      ∃ row, s.db.memberships.get? (tenant, user) = some row ∧ row.active = true ∧
        result = ⟨tenant, user, row.version⟩ ∧ t = s := by
  simp only [contextFor, bind_eq_ok, getMembership_eq_ok, ensure_eq_ok, pure_eq_ok]
  constructor
  · rintro ⟨row, _, ⟨found, rfl⟩, _, _, ⟨active, rfl⟩, rfl, rfl⟩
    exact ⟨row, found, active, rfl, rfl⟩
  · rintro ⟨row, found, active, rfl, rfl⟩
    exact ⟨row, _, ⟨found, rfl⟩, (), _, ⟨active, rfl⟩, rfl, rfl⟩

/-- The row an audit writes in a given session. -/
def auditRow (env : Env) (s : Library.Session Store) (tenant : Uuid) (actor : Ident) (action : String) (target : Ident)
    (outcome : String) (metadata : Mapping) : AuditEvent :=
  let event : AuditEvent := {
    id := s.uuids
    tenantId := tenant
    occurredAt := env.clock s.reads
    actorRef := actor
    action := action
    targetRef := target
    outcome := outcome
    correlationId := s.uuids + 1
    metadata := metadata
    prevHash := (s.db.auditEvents.filter (·.tenantId = tenant)).getLast?.map (·.eventHash)
    eventHash := "" }
  { event with eventHash := env.digest (auditMaterial event) }

@[simp] theorem audit_eq_ok {tenant : Uuid} {actor : Ident} {action : String} {target : Ident} {outcome : String}
    {metadata : Mapping} :
    (audit env tenant actor action target outcome metadata).run s = (.ok u, t) ↔
      t = ⟨{ s.db with auditEvents := s.db.auditEvents ++ [auditRow env s tenant actor action target outcome metadata] },
        s.reads + 1, s.uuids + 2⟩ := by
  change (Except.ok (), _) = (_, _) ↔ _
  simp only [Prod.mk.injEq, true_and]
  exact eq_comm

@[simp] theorem auditBy_eq_ok {action : String} {target : Uuid} {outcome : String} {metadata : Mapping} :
    (auditBy env context action target outcome metadata).run s = (.ok u, t) ↔
      t = ⟨{ s.db with auditEvents := s.db.auditEvents ++
          [auditRow env s context.tenantId (.uuid context.userId) action (.uuid target) outcome metadata] },
        s.reads + 1, s.uuids + 2⟩ := audit_eq_ok

@[simp] theorem publish_eq_ok {tenant : Uuid} {topic : String} {aggregate : Uuid} {payload : Mapping}
    {key : OutboxKey} {createdAt : Timestamp} :
    (publish tenant topic aggregate payload key createdAt).run s = (.ok u, t) ↔
      s.db.outbox.outboxIdempotency.get? (.uuid tenant, key) = none ∧
        t = ⟨{ s.db with
          outbox := published s.db.outbox
            (.pendingEvent (.uuid s.uuids) (.uuid tenant) topic (.uuid aggregate) payload key createdAt) },
          s.reads, s.uuids + 1⟩ := by
  simp [publish, published, OutboxEvent.pendingEvent]

end

section

variable {env} {υ : Type} {view : Store → υ} {context : TenantContext}

@[simp] theorem keeps_now : Library.Txn.Keeps view (now env) := keeps_readClock _

@[simp] theorem keeps_inboundIdentifier (text : String) : Library.Txn.Keeps view (inboundIdentifier text) :=
  keeps_ensure _ _

@[simp] theorem keeps_strictIntentDigest (value : Value) : Library.Txn.Keeps view (strictIntentDigest env value) :=
  (keeps_ensure _ _).bind fun _ => keeps_pure _

@[simp] theorem keeps_membership : Library.Txn.Keeps view (membership context) :=
  (keeps_getMembership _).bind fun _ => (keeps_ensure _ _).bind fun _ => keeps_pure _

@[simp] theorem keeps_require (capability : Capability) : Library.Txn.Keeps view (require context capability) :=
  keeps_membership.bind fun _ => keeps_ensure _ _

theorem keeps_auditBy (unread : ∀ db events, view { db with auditEvents := events } = view db) {action : String}
    {target : Uuid} {outcome : String} {metadata : Mapping} :
    Library.Txn.Keeps view (auditBy env context action target outcome metadata) :=
  (keeps_query _).bind fun _ => keeps_freshUuid.bind fun _ => keeps_freshUuid.bind fun _ =>
    (keeps_readClock _).bind fun _ => keeps_write fun db => unread db _

theorem keeps_publish (unread : ∀ db box, view { db with outbox := box } = view db) {tenant aggregate : Uuid}
    {topic : String} {payload : Mapping} {key : OutboxKey} {createdAt : Timestamp} :
    Library.Txn.Keeps view (publish tenant topic aggregate payload key createdAt) :=
  keeps_freshUuid.bind fun _ => (keeps_query _).bind fun _ => (keeps_ofExcept _).bind fun _ =>
    keeps_write fun db => unread db _

end

end Service

end AiStore
