import AiStore.Catalog.Offers
import AiStore.Offline.PriceGate

/-! Stock and margins that are put on record, and what a recorded margin is worth. -/

set_option autoImplicit false

namespace AiStore.Catalog

open Library (Decimal)
open Library.Txn Failure Repository Service
open Aftersales.SQLiteRepository (Fits)
open Offline (DemoPriceCalculation FeeRate PriceStatus WithinContext calculateDemoPrice computedContribution
  exactContribution)

variable (backend : Backend) (env : Env) (context : TenantContext)

/-! ## Recording -/

structure DemoInventoryObservation where
  sku : String
  supplierId : String
  quantity : Int
  observedAt : Timestamp
  deriving DecidableEq

def observeDemoInventory (sku supplierId : String) (quantity : Int) (observedAt : Timestamp) :
    Except Failure DemoInventoryObservation :=
  if opaqueIdentifier sku = true ∧ opaqueIdentifier supplierId = true ∧ 0 ≤ quantity then
    .ok ⟨sku, supplierId, quantity, observedAt⟩
  else .error (conflictError "invalid DEMO inventory observation")

/-- What an insert into a table of evidence takes: integers that fit, an identifier of its own, and a tenant. -/
def admitEvidence (table : String) (tenant : Uuid) (numbers : List Int) (taken : Market → Bool) : MarketOp Unit :=
  match backend with
  | .memory => pure ()
  | .sqlite => do
      -- the values are bound before the constraints are checked
      ensure (∀ number ∈ numbers, Fits number) (overflowError "Python int too large to convert to SQLite INTEGER")
      let used ← query taken
      ensure (used = false) (integrityError ("UNIQUE constraint failed: " ++ table ++ ".id"))
      let owner ← query fun market => (market.shelf.store.tenants.get? tenant).isSome
      ensure (owner = true) (integrityError "FOREIGN KEY constraint failed")

def saveInventorySnapshot (value : DemoInventorySnapshot) : MarketOp DemoInventorySnapshot := do
  admitEvidence backend "demo_inventory_snapshots" value.tenantId [value.quantity]
    fun market => market.evidence.inventory.rows.any fun row => decide (row.id = value.id)
  write fun market => { market with evidence := market.evidence.saveInventorySnapshot value }
  pure value

def savePriceProjection (value : DemoPriceProjection) : MarketOp DemoPriceProjection := do
  admitEvidence backend "demo_price_projections" value.tenantId
    [value.sellingPriceMinor, value.supplyCostMinor, value.variableCostMinor, value.projectedContributionMinor]
    fun market => market.evidence.projections.rows.any fun row => decide (row.id = value.id)
  write fun market => { market with evidence := market.evidence.savePriceProjection value }
  pure value

def fileInventory (value : DemoInventoryObservation) : MarketOp DemoInventorySnapshot := do
  let id ← freshUuid
  let result ← saveInventorySnapshot backend
    ⟨id, context.tenantId, value.sku, value.supplierId, value.quantity, value.observedAt⟩
  onStore (auditBy env context "inventory.observed_demo" result.id "succeeded"
    [("sku", .text value.sku), ("supplier_id", .text value.supplierId)])
  pure result

/-- `observed_at or service._clock()`. -/
def observationTime (observedAt : Option Timestamp) : MarketOp Timestamp := match observedAt with
  | some time => pure time
  | none => onStore (now env)

def recordDemoInventory (sku supplierId : String) (quantity : Int) (observedAt : Option Timestamp) :
    MarketOp DemoInventorySnapshot := do
  onStore (require context .tenantAdmin)
  let observedAt ← observationTime env observedAt
  let value ← ofExcept (observeDemoInventory sku supplierId quantity observedAt)
  transaction (fileInventory backend env context value)

def newProjection (id tenant : Uuid) (sku : String) (result : DemoPriceCalculation) (calculatedAt : Timestamp) :
    DemoPriceProjection where
  id := id
  tenantId := tenant
  sku := sku
  sellingPriceMinor := result.sellingPriceMinor
  supplyCostMinor := result.supplyCostMinor
  variableCostMinor := result.variableCostMinor
  feeRate := result.feeRate.text
  projectedContributionMinor := result.projectedContributionMinor
  projectedMargin := result.projectedMargin.text
  status := result.status
  calculatedAt := calculatedAt

def statusText : PriceStatus → String
  | .ready => "READY"
  | .blocked => "BLOCKED"

def filePriceProjection (sku : String) (result : DemoPriceCalculation) : MarketOp DemoPriceProjection := do
  let id ← freshUuid
  let calculatedAt ← onStore (now env)
  let value ← savePriceProjection backend (newProjection id context.tenantId sku result calculatedAt)
  onStore (auditBy env context "price.projected_demo" value.id (if result.status = .ready then "succeeded" else "blocked")
    [("sku", .text sku), ("status", .text (statusText result.status))])
  pure value

/-- `record_demo_price_projection`. Nothing is recorded where the decimals give up: their error is none of the service's,
and ends the call before the transaction. -/
def recordDemoPriceProjection (sku : String) (sellingPriceMinor supplyCostMinor variableCostMinor : Int)
    (feeRate : FeeRate) : MarketOp (Option DemoPriceProjection) := do
  onStore (require context .tenantAdmin)
  ensure (opaqueIdentifier sku = true) (conflictError "invalid sku")
  match calculateDemoPrice sellingPriceMinor supplyCostMinor variableCostMinor feeRate with
  | .error (.conflict message) => raise (conflictError message)
  -- `decimal.InvalidOperation`
  | .error .invalidOperation => pure none
  | .ok result => transaction do
      let value ← filePriceProjection backend env context sku result
      pure (some value)

/-! ## What the guard lets through -/

/-- The price leaves a tenth of itself over its costs and the fee: as far as the decimals go, and exactly where no step of
theirs rounds. -/
structure Pays (selling supply variableCost : Int) (rate : Decimal) : Prop where
  positive : 0 < selling
  supplied : 0 ≤ supply
  varied : 0 ≤ variableCost
  least : 0 ≤ rate.value
  most : rate.value < 1
  computed : ((Decimal.ofInt selling).mul ⟨false, 10, -2⟩).value ≤
    (computedContribution selling supply variableCost rate).value
  precise : WithinContext selling supply variableCost rate.value →
    (selling : ℚ) / 10 ≤ exactContribution selling supply variableCost rate.value

section

variable {selling supply variableCost : Int} {feeRate : FeeRate} {result : DemoPriceCalculation}

theorem calculateDemoPrice_given
    (calculated : calculateDemoPrice selling supply variableCost feeRate = .ok result) :
    result.sellingPriceMinor = selling ∧ result.supplyCostMinor = supply ∧ result.variableCostMinor = variableCost ∧
      (result.status = .ready → ∃ rate, feeRate = .finite rate ∧ Pays selling supply variableCost rate) := by
  simp only [calculateDemoPrice] at calculated
  -- the inputs are checked first, then the rate, and then both results have to be quantized
  split at calculated
  · cases calculated
  next inputs =>
  cases feeRate with
  | special => cases calculated
  | unreadable => cases calculated
  | finite rate =>
    simp only [pure_bind] at calculated
    split at calculated
    · cases calculated
    next rated =>
    simp only [not_or, not_lt, Bool.not_eq_true', Bool.not_eq_false, not_le] at inputs rated
    obtain ⟨least, most, positive⟩ := rated
    obtain ⟨minor, -, calculated⟩ := Library.except_bind_eq_ok.mp calculated
    obtain ⟨margin, -, calculated⟩ := Library.except_bind_eq_ok.mp calculated
    cases calculated
    refine ⟨rfl, rfl, rfl, fun ready => ⟨rate, rfl, ?_⟩⟩
    have eligible : ((Decimal.ofInt selling).mul ⟨false, 10, -2⟩).le
        (computedContribution selling supply variableCost rate) = true := by
      by_contra short
      rw [computedContribution] at short
      rw [if_neg short] at ready
      cases ready
    rw [Decimal.le_iff_value] at eligible
    rw [Decimal.lt_iff_value, Decimal.value_ofInt] at least most
    refine ⟨positive, inputs.2.1, inputs.2.2, by simpa using least, by simpa using most, eligible, fun within => ?_⟩
    rwa [← Offline.computedContribution_value within, ← Offline.threshold_value within]

end

end AiStore.Catalog
