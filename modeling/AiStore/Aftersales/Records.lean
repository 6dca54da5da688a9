import AiStore.Service.Core
import AiStore.Library.Focus

/-! The records of what follows a sale, and the tables that keep them beside the store. -/

set_option autoImplicit false

namespace AiStore.Aftersales

open Library (Session Table Txn)

/-! ## Records -/

/-- The columns of an order line that its tracking writes. -/
structure LineTracking where
  tenantId : Uuid
  orderLineId : Uuid
  trackingKey : Option String := none
  trackingStatus : Option String := none
  trackingVersion : Nat := 0
  trackingObservedAt : Option Timestamp := none
  deriving DecidableEq

def LineTracking.key (row : LineTracking) : Uuid × Uuid := (row.tenantId, row.orderLineId)

structure TrackingObservation where
  id : Uuid
  tenantId : Uuid
  orderLineId : Uuid
  trackingKey : String
  status : String
  observedAt : Timestamp
  responseDigest : String
  deriving DecidableEq

inductive ClaimStatus where
  | opened
  | evidencePending
  | approved
  | rejected
  | refundPending
  | refunded
  | closed
  deriving DecidableEq, Repr

namespace ClaimStatus

def value : ClaimStatus → String
  | opened => "OPEN"
  | evidencePending => "EVIDENCE_PENDING"
  | approved => "APPROVED"
  | rejected => "REJECTED"
  | refundPending => "REFUND_PENDING"
  | refunded => "REFUNDED"
  | closed => "CLOSED"

/-- `ClaimStatus(value)`. -/
def ofValue : String → Option ClaimStatus
  | "OPEN" => some opened
  | "EVIDENCE_PENDING" => some evidencePending
  | "APPROVED" => some approved
  | "REJECTED" => some rejected
  | "REFUND_PENDING" => some refundPending
  | "REFUNDED" => some refunded
  | "CLOSED" => some closed
  | _ => none

end ClaimStatus

/-- Whose view of a claim a status is. -/
inductive StatusKind where
  | consumer
  | channel
  | supplier
  deriving DecidableEq, Repr

namespace StatusKind

def value : StatusKind → String
  | consumer => "consumer"
  | channel => "channel"
  | supplier => "supplier"

def ofValue : String → Option StatusKind
  | "consumer" => some consumer
  | "channel" => some channel
  | "supplier" => some supplier
  | _ => none

end StatusKind

structure DemoClaim where
  id : Uuid
  tenantId : Uuid
  channelOrderId : Uuid
  claimType : String
  amountMinor : Int
  consumerStatus : ClaimStatus
  channelStatus : ClaimStatus
  supplierStatus : ClaimStatus
  idempotencyKey : String
  createdAt : Timestamp
  version : Nat := 1
  deriving DecidableEq

namespace DemoClaim

def key (row : DemoClaim) : Uuid × Uuid := (row.tenantId, row.id)

def status (row : DemoClaim) : StatusKind → ClaimStatus
  | .consumer => row.consumerStatus
  | .channel => row.channelStatus
  | .supplier => row.supplierStatus

/-- `setattr(claim, f"{status_kind}_status", target)`. -/
def setStatus (row : DemoClaim) (kind : StatusKind) (target : ClaimStatus) : DemoClaim := match kind with
  | .consumer => { row with consumerStatus := target }
  | .channel => { row with channelStatus := target }
  | .supplier => { row with supplierStatus := target }

end DemoClaim

structure ClaimStatusObservation where
  id : Uuid
  tenantId : Uuid
  claimId : Uuid
  statusKind : StatusKind
  status : ClaimStatus
  observedAt : Timestamp
  responseDigest : String
  deriving DecidableEq

inductive SettlementStatus where
  | imported
  | reconciled
  | exception
  deriving DecidableEq, Repr

def SettlementStatus.value : SettlementStatus → String
  | imported => "IMPORTED"
  | reconciled => "RECONCILED"
  | exception => "EXCEPTION"

structure DemoSettlementBatch where
  id : Uuid
  tenantId : Uuid
  channelId : String
  period : String
  sourceDigest : String
  status : SettlementStatus
  idempotencyKey : String
  createdAt : Timestamp
  version : Nat := 1
  deriving DecidableEq

def DemoSettlementBatch.key (row : DemoSettlementBatch) : Uuid × Uuid := (row.tenantId, row.id)

structure DemoSettlementLine where
  id : Uuid
  tenantId : Uuid
  batchId : Uuid
  externalOrderKey : String
  kind : String
  amountMinor : Int
  currency : String
  sourceRowRef : String
  orderId : Option Uuid
  matchStatus : String
  deriving DecidableEq

def DemoSettlementLine.key (row : DemoSettlementLine) : Uuid × Uuid := (row.tenantId, row.id)

structure DemoRealizedProfit where
  id : Uuid
  tenantId : Uuid
  batchId : Uuid
  orderId : Uuid
  projectedMinor : Option Int
  realizedMinor : Option Int
  status : String
  calculatedAt : Timestamp
  deriving DecidableEq

def DemoRealizedProfit.key (row : DemoRealizedProfit) : Uuid × Uuid × Uuid := (row.tenantId, row.batchId, row.orderId)

/-! ## Tables -/

structure Books where
  store : Store := {}
  lineTracking : Table LineTracking.key := .empty
  trackingObservations : List TrackingObservation := []
  claims : Table DemoClaim.key := .empty
  claimStatusObservations : List ClaimStatusObservation := []
  settlementBatches : Table DemoSettlementBatch.key := .empty
  settlementLines : Table DemoSettlementLine.key := .empty
  realizedProfits : Table DemoRealizedProfit.key := .empty

abbrev BookOp := Txn Books Failure

/-- The books before the first call. -/
def newBooks : Session Books := ⟨{}, 0, 0⟩

/-- The store among the books. -/
def storePart : Library.Part Store Books where
  get := Books.store
  set store books := { books with store := store }
  get_set _ _ := rfl
  set_get _ := rfl

/-- An operation of the store, which leaves the other tables alone. -/
def inStore {α : Type} (operation : Op α) : BookOp α := Txn.on storePart operation

/-- The session of the store. -/
def storeSession (s : Session Books) : Session Store := storePart.view s

/-- A session with the store and the supplies of another. -/
def withStore (s : Session Books) (after : Session Store) : Session Books := storePart.back s after

@[simp] theorem withStore_self (s : Session Books) : withStore s (storeSession s) = s := storePart.back_view s

@[simp] theorem inStore_eq_ok {α : Type} (operation : Op α) (result : α) (s t : Session Books) :
    (inStore operation).run s = (.ok result, t) ↔
      ∃ after, operation.run (storeSession s) = (.ok result, after) ∧ t = withStore s after := Txn.on_eq_ok _ _ _ _

section

variable {env : Env} {context : TenantContext} {s t : Session Books} {u : Unit}

open Service Repository

@[simp] theorem storeSession_db (s : Session Books) : (storeSession s).db = s.db.store := rfl

/-- An operation that only reads the store leaves the books alone. -/
theorem inStore_read_eq_ok {α : Type} {operation : Op α} {result : α} {holds : Prop}
    (reads : ∀ after, operation.run (storeSession s) = (.ok result, after) ↔ holds ∧ after = storeSession s) :
    (inStore operation).run s = (.ok result, t) ↔ holds ∧ t = s := by
  simp only [inStore_eq_ok, reads]
  constructor
  · rintro ⟨_, ⟨held, rfl⟩, rfl⟩
    exact ⟨held, withStore_self s⟩
  · rintro ⟨held, rfl⟩
    exact ⟨_, ⟨held, rfl⟩, (withStore_self t).symm⟩

@[simp] theorem inStore_require_eq_ok {capability : Capability} :
    (inStore (require context capability)).run s = (.ok u, t) ↔ Authorized s.db.store context capability ∧ t = s :=
  inStore_read_eq_ok fun _ => require_eq_ok

@[simp] theorem inStore_now_eq_ok {time : Timestamp} :
    (inStore (now env)).run s = (.ok time, t) ↔ time = env.clock s.reads ∧ t = { s with reads := s.reads + 1 } := by
  simp only [inStore_eq_ok, now_eq_ok]
  constructor
  · rintro ⟨_, ⟨rfl, rfl⟩, rfl⟩
    exact ⟨rfl, rfl⟩
  · rintro ⟨rfl, rfl⟩
    exact ⟨_, ⟨rfl, rfl⟩, rfl⟩

@[simp] theorem inStore_getChannelOrder_eq_ok {tenant order : Uuid} {row : ChannelOrder} :
    (inStore (getChannelOrder tenant order)).run s = (.ok row, t) ↔
      s.db.store.channelOrders.get? (tenant, order) = some row ∧ t = s :=
  inStore_read_eq_ok fun _ => getChannelOrder_eq_ok

/-- What an operation of the store leaves of the books: all but the store. -/
theorem inStore_beside {α : Type} {operation : Op α} {outcome : Except Failure α}
    (ran : (inStore operation).run s = (outcome, t)) :
    t.db = { s.db with store := t.db.store } ∧ s.uuids ≤ t.uuids ∧ s.reads ≤ t.reads := by
  have advances := (inStore operation).advances s
  rw [ran] at advances
  cases ran
  exact ⟨rfl, advances.2, advances.1⟩

/-- The same where the operation is all that a call does. -/
theorem elsewhere_beside {α : Type} {operation : Op Unit} {answer : α} {outcome : Except Failure α}
    (ran : (do inStore operation; pure answer : BookOp α).run s = (outcome, t)) :
    t.db = { s.db with store := t.db.store } ∧ s.uuids ≤ t.uuids ∧ s.reads ≤ t.reads := by
  rw [Library.Txn.run_bind] at ran
  rcases ended : (inStore operation).run s with ⟨why | u, after⟩
  · rw [ended] at ran
    cases ran
    exact inStore_beside ended
  · rw [ended] at ran
    cases ran
    exact inStore_beside ended

end

/-! ## A sale -/

/-- A clock of whole seconds; no digest is looked at. -/
def deskEnv : Env where
  clock reading := .utc reading
  digest _ := ""
  lower := id

def deskMaster : TenantContext := ⟨70, 71, 1⟩

def deskOrder (id : Uuid) (external : String) (totalMinor : Int) : ChannelOrder where
  id := id
  tenantId := 70
  channelId := "shop"
  externalOrderKey := external
  payloadRef := external
  currency := "KRW"
  totalMinor := totalMinor
  status := .poPending
  receivedAt := .utc 0
  idempotencyKey := external

/-- Two orders of one tenant; a line of the first is routed. -/
def deskStore : Store where
  tenants := Table.empty.put ⟨70, "desk", .utc 0⟩
  memberships := Table.empty.put { tenantId := 70, userId := 71, roles := [.master] }
  channelOrders := (Table.empty.put (deskOrder 72 "E-1" 1000)).put (deskOrder 73 "E-2" 500)
  orderLines := Table.empty.put {
    id := 74, tenantId := 70, channelOrderId := 72, sku := "cup", quantity := 2, unitMinor := 500, routedStatus := "routed" }

end AiStore.Aftersales
