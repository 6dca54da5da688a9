import Mathlib.Data.List.Induction
import AiStore.Gateway.Canonical
import AiStore.Service.Core

/-! The hash chain of the audit trail: each event names the hash of the one before it. -/

set_option autoImplicit false

namespace AiStore.Service

open Library.Txn Repository

variable (env : Env)

/-- What `verify_audit_chain` asks of an event behind the hash found so far. -/
def linked (previous : Option String) (event : AuditEvent) : Bool :=
  event.prevHash = previous && event.eventHash = env.digest (auditMaterial { event with prevHash := previous })

/-- The loop of `verify_audit_chain`. -/
def verifyEvents : Option String → List AuditEvent → Bool
  | _, [] => true
  | previous, event :: rest => linked env previous event && verifyEvents (some event.eventHash) rest

def verifyAuditChain (tenant : Uuid) : Op Bool := do
  let events ← auditsFor tenant
  pure (verifyEvents env none events)

variable {env}

/-- The hash that the next event has to name. -/
def lastHash (previous : Option String) (events : List AuditEvent) : Option String :=
  (events.getLast?.map (·.eventHash)).or previous

theorem lastHash_cons (previous : Option String) (event : AuditEvent) (rest : List AuditEvent) :
    lastHash previous (event :: rest) = lastHash (some event.eventHash) rest := by
  cases rest with
  | nil => rfl
  | cons next rest =>
    obtain ⟨last, found⟩ : ∃ last, (next :: rest).getLast? = some last :=
      ⟨_, List.getLast?_eq_getLast_of_ne_nil (List.cons_ne_nil _ _)⟩
    rw [lastHash, lastHash, List.getLast?_cons_cons, found]
    rfl

theorem verifyEvents_concat (previous : Option String) (events : List AuditEvent) (event : AuditEvent) :
    verifyEvents env previous (events ++ [event]) =
      (verifyEvents env previous events && linked env (lastHash previous events) event) := by
  induction events generalizing previous with
  | nil => simp [verifyEvents, lastHash]
  | cons first rest ih => rw [List.cons_append, verifyEvents, verifyEvents, ih, lastHash_cons, Bool.and_assoc]

/-- The events of one tenant. -/
def auditsOf (tenant : Uuid) (events : List AuditEvent) : List AuditEvent := events.filter (·.tenantId = tenant)

theorem auditsOf_concat (tenant : Uuid) (events : List AuditEvent) (event : AuditEvent) :
    auditsOf tenant (events ++ [event]) =
      if event.tenantId = tenant then auditsOf tenant events ++ [event] else auditsOf tenant events := by
  rw [auditsOf, List.filter_append]
  split
  · next own => simp [auditsOf, own]
  · next apart => simp [auditsOf, apart]

/-- The chain of every tenant verifies. -/
def Chained (env : Env) (db : Store) : Prop := ∀ tenant, verifyEvents env none (auditsOf tenant db.auditEvents) = true

/-- What an audit writes is linked to the events of its tenant. -/
theorem linked_auditRow (s : Library.Session Store) (tenant : Uuid) (actor : Ident) (action : String) (target : Ident)
    (outcome : String) (metadata : Mapping) :
    linked env (lastHash none (auditsOf tenant s.db.auditEvents))
      (auditRow env s tenant actor action target outcome metadata) = true := by
  have hash : lastHash none (auditsOf tenant s.db.auditEvents) =
      (auditsOf tenant s.db.auditEvents).getLast?.map (·.eventHash) := Option.or_none
  rw [hash]
  exact Bool.and_eq_true_iff.mpr ⟨decide_eq_true rfl, decide_eq_true rfl⟩

theorem Chained.audit {s : Library.Session Store} (chained : Chained env s.db) (tenant : Uuid) (actor : Ident)
    (action : String) (target : Ident) (outcome : String) (metadata : Mapping) :
    Chained env { s.db with
      auditEvents := s.db.auditEvents ++ [auditRow env s tenant actor action target outcome metadata] } := by
  intro other
  have named : (auditRow env s tenant actor action target outcome metadata).tenantId = tenant := rfl
  rw [auditsOf_concat, named]
  split
  · next same =>
    subst same
    rw [verifyEvents_concat, chained, linked_auditRow, Bool.and_self]
  · exact chained other

/-! ## Tampering -/

/-- Two events that are equal as Python compares them: the order of the metadata's keys does not count. -/
structure SameEvent (first second : AuditEvent) : Prop where
  fields : { first with metadata := [] } = { second with metadata := [] }
  metadata : Gateway.sorted (.dict first.metadata) = Gateway.sorted (.dict second.metadata)

/-- The names of an event's fields in the order of the encoder. -/
theorem insertionSort_fields (id tenant occurred actor action target outcome correlation metadata previous : Value) :
    List.insertionSort (fun first second => Gateway.keyLe first second) [("id", id), ("tenant_id", tenant),
      ("occurred_at", occurred), ("actor_ref", actor), ("action", action), ("target_ref", target), ("outcome", outcome),
      ("correlation_id", correlation), ("metadata", metadata), ("prev_hash", previous)] =
    [("action", action), ("actor_ref", actor), ("correlation_id", correlation), ("id", id), ("metadata", metadata),
      ("occurred_at", occurred), ("outcome", outcome), ("prev_hash", previous), ("target_ref", target),
      ("tenant_id", tenant)] := by
  simp +decide [List.insertionSort, List.orderedInsert, Gateway.keyLe, Library.Timestamp.codesLe]

/-- The sorted material of an event spells out each of its fields. -/
theorem sorted_auditMaterial (event : AuditEvent) : Gateway.sorted (auditMaterial event) = .dict [
    ("action", .text event.action), ("actor_ref", event.actorRef.material), ("correlation_id", .uuid event.correlationId),
    ("id", .uuid event.id), ("metadata", Gateway.sorted (.dict event.metadata)), ("occurred_at", .time event.occurredAt),
    ("outcome", .text event.outcome), ("prev_hash", event.prevHash.elim .none .text),
    ("target_ref", event.targetRef.material), ("tenant_id", .uuid event.tenantId)] := by
  have actor : Gateway.sorted event.actorRef.material = event.actorRef.material := by
    cases event.actorRef <;> rfl
  have target : Gateway.sorted event.targetRef.material = event.targetRef.material := by
    cases event.targetRef <;> rfl
  have previous : Gateway.sorted (event.prevHash.elim .none .text) = event.prevHash.elim .none .text := by
    cases event.prevHash <;> rfl
  rw [auditMaterial, Gateway.sorted]
  simp only [Gateway.sortedEntries, actor, target, previous, insertionSort_fields]
  simp only [Gateway.sorted]

theorem material_inj {first second : Ident} (same : first.material = second.material) : first = second := by
  cases first <;> cases second <;> simp_all [Ident.material]

theorem prevHash_inj {first second : Option String}
    (same : first.elim Value.none .text = second.elim Value.none .text) : first = second := by
  cases first <;> cases second <;> simp_all

/-- No field of an event is left out of its material. -/
theorem sameEvent_of_material {first second : AuditEvent} (hash : first.eventHash = second.eventHash)
    (same : Gateway.sorted (auditMaterial first) = Gateway.sorted (auditMaterial second)) : SameEvent first second := by
  rw [sorted_auditMaterial, sorted_auditMaterial] at same
  simp only [Value.dict.injEq, List.cons.injEq, Prod.mk.injEq, true_and, and_true, Value.text.injEq, Value.uuid.injEq,
    Value.time.injEq] at same
  obtain ⟨action, actor, correlation, id, metadata, occurred, outcome, previous, target, tenant⟩ := same
  refine ⟨?_, metadata⟩
  rw [AuditEvent.mk.injEq]
  exact ⟨id, tenant, occurred, material_inj actor, action, material_inj target, outcome, correlation, rfl,
    prevHash_inj previous, hash⟩

/-- The materials that a log hashes. -/
def materials (events : List AuditEvent) : List Value := events.map auditMaterial

theorem linked_eq_true {previous : Option String} {event : AuditEvent} :
    linked env previous event = true ↔ event.prevHash = previous ∧ event.eventHash = env.digest (auditMaterial event) := by
  rw [linked, Bool.and_eq_true_iff, decide_eq_true_iff, decide_eq_true_iff]
  constructor
  · rintro ⟨rfl, hash⟩
    exact ⟨rfl, hash⟩
  · rintro ⟨rfl, hash⟩
    exact ⟨rfl, hash⟩

/-- A digest of one text for everything. -/
def oneHash : Env where
  clock _ := .utc 0
  digest _ := "digest"
  lower := id

/-- The first event of a log, with these metadata. -/
def signed (metadata : Mapping) : AuditEvent where
  id := 2
  tenantId := 0
  occurredAt := .utc 0
  actorRef := .uuid 1
  action := "tenant.bootstrap"
  targetRef := .uuid 0
  outcome := "succeeded"
  correlationId := 3
  metadata := metadata
  prevHash := none
  eventHash := "digest"

end AiStore.Service
