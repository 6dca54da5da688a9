import AiStore.Aftersales.Records
import AiStore.Library.Grouping
import AiStore.Library.Json

/-! Import of a channel's settlement, matched against the orders that it pays for. -/

set_option autoImplicit false

namespace AiStore.Aftersales

open Library (Dict Json Session Table Txn)
open Library.Txn Failure Repository Service

/-! ## Repositories

Both repositories write the same rows; they differ in what they refuse to write.
-/

structure SettlementRepository where
  refusesBatch : DemoSettlementBatch → Books → Option Failure
  refusesLine : DemoSettlementLine → Books → Option Failure
  refusesProfit : DemoRealizedProfit → Books → Option Failure
  refusesUpdate : DemoSettlementBatch → Nat → Books → Option Failure

/-- Raise what is refused. -/
def admitted (refusal : Books → Option Failure) : BookOp Unit := do
  match ← query refusal with
  | some why => raise why
  | none => pure ()

namespace InMemoryRepository

def settlement : SettlementRepository where
  refusesBatch _ _ := none
  refusesLine _ _ := none
  refusesProfit _ _ := none
  refusesUpdate value expectedVersion books := match books.settlementBatches.get? value.key with
    | none => some (notFoundError "settlement batch not found")
    | some current =>
        if current.version = expectedVersion ∧ value.version = expectedVersion + 1 then none
        else some (conflictError "settlement version conflict")

end InMemoryRepository

namespace SQLiteRepository

/-- An integer column takes 64 bits. -/
def Fits (number : Int) : Prop := -2 ^ 63 ≤ number ∧ number < 2 ^ 63

instance (number : Int) : Decidable (Fits number) := inferInstanceAs (Decidable (_ ∧ _))

def settlement : SettlementRepository where
  refusesBatch value books :=
    if (∃ row ∈ books.settlementBatches.rows, row.id = value.id) ∨ books.store.tenants.get? value.tenantId = none then
      some (conflictError "settlement batch already exists")
    else none
  refusesLine value books :=
    if ¬ Fits value.amountMinor then some (overflowError "Python int too large to convert to SQLite INTEGER")
    else if (∃ row ∈ books.settlementLines.rows, row.id = value.id ∨
        row.tenantId = value.tenantId ∧ row.batchId = value.batchId ∧ row.sourceRowRef = value.sourceRowRef) ∨
      books.settlementBatches.get? (value.tenantId, value.batchId) = none ∨
      (∃ order ∈ value.orderId, books.store.channelOrders.get? (value.tenantId, order) = none) then
      some (integrityError "demo_settlement_lines")
    else none
  refusesProfit value books :=
    if ¬ ((∀ minor ∈ value.projectedMinor, Fits minor) ∧ ∀ minor ∈ value.realizedMinor, Fits minor) then
      some (overflowError "Python int too large to convert to SQLite INTEGER")
    else if books.settlementBatches.get? (value.tenantId, value.batchId) = none ∨
      books.store.channelOrders.get? (value.tenantId, value.orderId) = none then
      some (integrityError "demo_realized_profit")
    else none
  refusesUpdate value expectedVersion books :=
    if value.version = expectedVersion + 1 ∧ ∃ current ∈ books.settlementBatches.get? value.key, current.version = expectedVersion
    then none
    else some (conflictError "settlement version conflict")

end SQLiteRepository

section

variable (repository : SettlementRepository)

def saveSettlementBatch (value : DemoSettlementBatch) : BookOp (DemoSettlementBatch × Bool) := do
  let batches ← query Books.settlementBatches
  match batches.rows.find? fun row => row.tenantId = value.tenantId ∧ row.idempotencyKey = value.idempotencyKey with
  | some prior =>
    ensure (prior.sourceDigest = value.sourceDigest) (conflictError "settlement idempotency key reused")
    pure (prior, true)
  | none =>
    admitted (repository.refusesBatch value)
    write fun books => { books with settlementBatches := books.settlementBatches.put value }
    pure (value, false)

def saveSettlementLine (value : DemoSettlementLine) : BookOp Unit := do
  admitted (repository.refusesLine value)
  write fun books => { books with settlementLines := books.settlementLines.put value }

/-- The row of the same batch and order is replaced. -/
def saveRealizedProfit (value : DemoRealizedProfit) : BookOp Unit := do
  admitted (repository.refusesProfit value)
  write fun books => { books with realizedProfits := books.realizedProfits.put value }

def updateSettlementBatch (value : DemoSettlementBatch) (expectedVersion : Nat) : BookOp Unit := do
  admitted (repository.refusesUpdate value expectedVersion)
  write fun books => { books with settlementBatches := books.settlementBatches.put value }

end

/-! ## Rows -/

structure SettlementRow where
  externalOrderKey : String
  kind : String
  amountMinor : Int
  currency : String
  sourceRowRef : String
  deriving DecidableEq

/-- `_KINDS`. -/
def settlementKinds : List String := ["SALE", "FEE", "REFUND"]

/-- `_CURRENCIES`. -/
def settlementCurrencies : List String := ["KRW", "USD", "JPY", "EUR", "GBP", "CNY"]

def SettlementRow.Valid (row : SettlementRow) : Prop :=
  opaqueIdentifier row.externalOrderKey = true ∧ row.kind ∈ settlementKinds ∧ row.currency ∈ settlementCurrencies ∧
    opaqueIdentifier row.sourceRowRef = true

instance (row : SettlementRow) : Decidable row.Valid := by
  unfold SettlementRow.Valid
  exact inferInstance

def SettlementIntake (channelId period : String) (rows : List SettlementRow) (idempotencyKey : String) : Prop :=
  opaqueIdentifier channelId = true ∧ opaqueIdentifier period = true ∧ ¬ blank idempotencyKey ∧
    idempotencyKey.length ≤ 255 ∧ rows ≠ []

instance (channelId period : String) (rows : List SettlementRow) (idempotencyKey : String) :
    Decidable (SettlementIntake channelId period rows idempotencyKey) := by
  unfold SettlementIntake
  exact inferInstance

/-- No row is malformed, and no source is used twice. -/
def RowsValid (rows : List SettlementRow) : Prop := (∀ row ∈ rows, row.Valid) ∧ (rows.map (·.sourceRowRef)).Nodup

instance (rows : List SettlementRow) : Decidable (RowsValid rows) := by
  unfold RowsValid
  exact inferInstance

def SettlementRow.asJson (row : SettlementRow) : Json := .object [
  ("external_order_key", .text row.externalOrderKey), ("kind", .text row.kind), ("amount_minor", .int row.amountMinor),
  ("currency", .text row.currency), ("source_row_ref", .text row.sourceRowRef)]

/-- `_digest(canonical_rows)`. -/
def sourceDigest (hash : String → String) (rows : List SettlementRow) : String :=
  hash (Json.canonical (.list (rows.map SettlementRow.asJson)))

/-! ## Matching -/

def findChannelOrder (tenant : Uuid) (channelId externalKey : String) (store : Store) : Option ChannelOrder :=
  store.channelOrders.rows.find? fun row =>
    row.tenantId = tenant ∧ row.channelId = channelId ∧ row.externalOrderKey = externalKey

/-- An order was found for the row, in the currency of the row. -/
def matched (order : Option ChannelOrder) (row : SettlementRow) : Bool := order.any fun found => found.currency = row.currency

def settlementLine (id tenant batch : Uuid) (row : SettlementRow) (order : Option ChannelOrder) : DemoSettlementLine where
  id := id
  tenantId := tenant
  batchId := batch
  externalOrderKey := row.externalOrderKey
  kind := row.kind
  amountMinor := row.amountMinor
  currency := row.currency
  sourceRowRef := row.sourceRowRef
  orderId := order.map (·.id)
  matchStatus := if matched order row then "matched" else "exception"

variable (repository : SettlementRepository) (tenant : Uuid)

/-- The first loop of an import: a line for each row, grouped by the orders found. -/
def matchRows (channelId : String) (batch : Uuid) : List SettlementRow → Dict Uuid (List DemoSettlementLine) → Bool →
    BookOp (Dict Uuid (List DemoSettlementLine) × Bool)
  | [], groups, allMatch => pure (groups, allMatch)
  | row :: rest, groups, allMatch => do
    let order ← inStore (query (findChannelOrder tenant channelId row.externalOrderKey))
    let id ← freshUuid
    let line := settlementLine id tenant batch row order
    saveSettlementLine repository line
    matchRows channelId batch rest (Library.grouped DemoSettlementLine.orderId groups line) (allMatch && matched order row)

/-- What the sales among some lines come to. -/
def saleTotal (lines : List DemoSettlementLine) : Int := ((lines.filter (·.kind = "SALE")).map (·.amountMinor)).sum

/-- The lines of an order are all matched, and its sales come to its total. -/
def Reconciled (order : ChannelOrder) (lines : List DemoSettlementLine) : Prop :=
  saleTotal lines = order.totalMinor ∧ ∀ line ∈ lines, line.matchStatus = "matched"

instance (order : ChannelOrder) (lines : List DemoSettlementLine) : Decidable (Reconciled order lines) :=
  inferInstanceAs (Decidable (_ ∧ _))

def purchaseCost (purchases : List SupplierPurchaseOrder) : BookOp Int := do
  let costs ← collect purchases fun purchase => do
    let lines ← inStore (purchaseLinesFor tenant purchase.id)
    pure (lines.map fun line => line.quantity * line.unitCostMinor).sum
  pure costs.sum

def realizedProfit (id batch : Uuid) (order : ChannelOrder) (lines : List DemoSettlementLine) (cost : Int)
    (now : Timestamp) : DemoRealizedProfit where
  id := id
  tenantId := tenant
  batchId := batch
  orderId := order.id
  projectedMinor := if cost ≠ 0 ∧ Reconciled order lines then some (order.totalMinor - cost) else none
  realizedMinor := if Reconciled order lines then some (lines.map (·.amountMinor)).sum else none
  status := if Reconciled order lines then "reconciled" else "exception"
  calculatedAt := now

/-- The second loop of an import: a profit for each order found. -/
def judgeOrders (batch : Uuid) (now : Timestamp) : List (Uuid × List DemoSettlementLine) → Bool → BookOp Bool
  | [], allMatch => pure allMatch
  | (orderId, lines) :: rest, allMatch => do
    let order ← inStore (getChannelOrder tenant orderId)
    let purchases ← inStore (purchaseOrdersFor tenant orderId)
    let cost ← purchaseCost tenant purchases
    let id ← freshUuid
    saveRealizedProfit repository (realizedProfit tenant id batch order lines cost now)
    judgeOrders batch now rest (allMatch && Reconciled order lines)

/-! ## Import -/

variable (env : Env) (hash : String → String)

/-- The batch with its verdict. -/
def judgedBatch (batch : DemoSettlementBatch) (allMatch : Bool) : DemoSettlementBatch :=
  { batch with status := if allMatch then .reconciled else .exception, version := batch.version + 1 }

def newBatch (id tenant : Uuid) (channelId period digest idempotencyKey : String) (now : Timestamp) : DemoSettlementBatch where
  id := id
  tenantId := tenant
  channelId := channelId
  period := period
  sourceDigest := digest
  status := .imported
  idempotencyKey := idempotencyKey
  createdAt := now

def importDemoSettlement (context : TenantContext) (channelId period : String) (rows : List SettlementRow)
    (idempotencyKey : String) : BookOp (DemoSettlementBatch × Bool) := do
  inStore (require context .tenantAdmin)
  ensure (SettlementIntake channelId period rows idempotencyKey) (conflictError "invalid settlement import")
  ensure (RowsValid rows) (conflictError "invalid settlement row")
  let digest := sourceDigest hash rows
  let now ← inStore (now env)
  transaction do
    let id ← freshUuid
    let (batch, replay) ← saveSettlementBatch repository
      (newBatch id context.tenantId channelId period digest idempotencyKey now)
    if replay then pure (batch, true)
    else do
      let (groups, allMatch) ← matchRows repository context.tenantId channelId batch.id rows .empty true
      let allMatch ← judgeOrders repository context.tenantId batch.id now groups.entries allMatch
      let imported := judgedBatch batch allMatch
      updateSettlementBatch repository imported 1
      inStore (auditBy env context "settlement.imported" batch.id "succeeded"
        [("status", .text imported.status.value), ("source_digest", .text digest)])
      inStore (publish context.tenantId "settlement.imported" batch.id
        [("batch_id", .uuid batch.id), ("status", .text imported.status.value)] (.settlement batch.id) now)
      pure (imported, false)

end AiStore.Aftersales
