import AiStore.Library.TextOrder
import AiStore.Offline.Price
import AiStore.Service.BrowserAuth

/-! The margin and stock gates of an offer, on the latest evidence for its SKU. -/

set_option autoImplicit false

namespace AiStore.Catalog

open Library (Table Timestamp RowLe byText getLast?_byText)
open Failure
open Offline (PriceStatus)
open Repository (Backend)

structure DemoInventorySnapshot where
  id : Uuid
  tenantId : Uuid
  sku : String
  supplierId : String
  quantity : Int
  observedAt : Timestamp
  deriving DecidableEq

structure DemoPriceProjection where
  id : Uuid
  tenantId : Uuid
  sku : String
  sellingPriceMinor : Int
  supplyCostMinor : Int
  variableCostMinor : Int
  feeRate : String
  projectedContributionMinor : Int
  projectedMargin : String
  status : PriceStatus
  calculatedAt : Timestamp
  deriving DecidableEq

/-- The rows of both tables, in the order in which they were saved. -/
structure Evidence where
  projections : Table fun row : DemoPriceProjection => (row.tenantId, row.id)
  inventory : Table fun row : DemoInventorySnapshot => (row.tenantId, row.id)

namespace Evidence

def empty : Evidence := ⟨.empty, .empty⟩

def saveInventorySnapshot (evidence : Evidence) (value : DemoInventorySnapshot) : Evidence :=
  { evidence with inventory := evidence.inventory.put value }

def savePriceProjection (evidence : Evidence) (value : DemoPriceProjection) : Evidence :=
  { evidence with projections := evidence.projections.put value }

section

variable (evidence : Evidence) (tenant : Uuid) (sku : String)

/-- The rows for a SKU, in the order in which they were saved. -/
def savedProjections : List DemoPriceProjection :=
  evidence.projections.rows.filter fun row => row.tenantId = tenant ∧ row.sku = sku

def savedInventory : List DemoInventorySnapshot :=
  evidence.inventory.rows.filter fun row => row.tenantId = tenant ∧ row.sku = sku

/-- `price_projections_for`: one store keeps the order of the saves, the other sorts by the ISO texts of the times. -/
def priceProjectionsFor : Backend → List DemoPriceProjection
  | .memory => evidence.savedProjections tenant sku
  | .sqlite => byText DemoPriceProjection.calculatedAt DemoPriceProjection.id (evidence.savedProjections tenant sku)

/-- `inventory_snapshots_for`. -/
def inventorySnapshotsFor : Backend → List DemoInventorySnapshot
  | .memory => evidence.savedInventory tenant sku
  | .sqlite => byText DemoInventorySnapshot.observedAt DemoInventorySnapshot.id (evidence.savedInventory tenant sku)

end

end Evidence

structure GateEvidence where
  priceProjectionId : Option Uuid
  projectedMargin : Option String
  inventorySnapshotId : Option Uuid
  inventoryQuantity : Option Int
  deriving DecidableEq

def gate (passed : Prop) [Decidable passed] (message : String) : Except Failure Unit :=
  if passed then .ok () else .error (conflictError message)

/-- What the gates say of one projection and one observation. A request for approval gives its price, and then both
have to be there. -/
def verdict (now : Timestamp) (maxAgeSeconds : Int) (priceMinor : Option Int) (projection : Option DemoPriceProjection)
    (observation : Option DemoInventorySnapshot) : Except Failure GateEvidence := do
  gate (priceMinor.isSome → projection.isSome ∧ observation.isSome) "approval requires DEMO margin and inventory evidence"
  gate (∀ row ∈ projection, row.status = .ready) "projected margin below DEMO threshold"
  let cutoff := now.addSeconds (-maxAgeSeconds)
  gate (∀ row ∈ projection, cutoff ≤ row.calculatedAt) "DEMO price projection is stale; reapproval required"
  gate (∀ row ∈ observation, cutoff ≤ row.observedAt) "DEMO inventory observation is stale; reapproval required"
  gate (∀ price ∈ priceMinor, ∀ row ∈ projection, row.sellingPriceMinor = price)
    "margin was projected for a different price; reapproval required"
  gate (priceMinor.isSome → ∀ row ∈ observation, 1 ≤ row.quantity) "no DEMO inventory observed for the offer"
  pure {
    priceProjectionId := projection.map (·.id)
    projectedMargin := projection.map (·.projectedMargin)
    inventorySnapshotId := observation.map (·.id)
    inventoryQuantity := observation.map (·.quantity) }

/-- `_gates`: the judged rows are the last ones that the repository returns. -/
def gates (backend : Backend) (evidence : Evidence) (tenant : Uuid) (sku : String) (now : Timestamp)
    (maxAgeSeconds : Int) (priceMinor : Option Int) : Except Failure GateEvidence :=
  let projections := evidence.priceProjectionsFor tenant sku backend
  let inventory := evidence.inventorySnapshotsFor tenant sku backend
  verdict now maxAgeSeconds priceMinor projections.getLast? inventory.getLast?

/-! ## The latest rows -/

section

variable {ρ : Type} (time : ρ → Timestamp) (id : ρ → Nat) (rows : List ρ)

/-- A row that is as new as all of them. -/
def IsLatest (row : ρ) : Prop := row ∈ rows ∧ ∀ other ∈ rows, time other ≤ time row

/-- What is read ends with the newest row. -/
def EndsWithLatest (read : List ρ) : Prop := ∀ row, IsLatest time rows row → read.getLast? = some row

/-- The newest row was saved last, and the text of its time is not less than another's. -/
def NewestSavedLast : Prop :=
  ∀ row, IsLatest time rows row → rows.getLast? = some row ∧ ∀ other ∈ rows, RowLe time id other row

end

section

variable {ρ : Type} {time : ρ → Timestamp} {id : ρ → Nat} {rows : List ρ}

theorem exists_latest (time : ρ → Timestamp) (some_row : rows ≠ []) : ∃ row, IsLatest time rows row := by
  induction rows with
  | nil => exact absurd rfl some_row
  | cons first rest ih =>
    -- the first row against the newest one of the rest
    by_cases last : rest = []
    · subst last
      exact ⟨first, by simp, by simp [Timestamp.le_iff]⟩
    · obtain ⟨row, member, above⟩ := ih last
      by_cases later : time first ≤ time row
      · exact ⟨row, .tail first member, List.forall_mem_cons.mpr ⟨later, above⟩⟩
      · have before : time row ≤ time first := ((Timestamp.not_le _ _).mp later).le
        exact ⟨first, .head rest, List.forall_mem_cons.mpr ⟨le_refl _, fun other held => (above other held).trans before⟩⟩

/-- Two reads that end with the newest row end alike. -/
theorem EndsWithLatest.getLast?_eq {first second : List ρ} (left : EndsWithLatest time rows first)
    (right : EndsWithLatest time rows second) (left_empty : rows = [] → first = []) (right_empty : rows = [] → second = []) :
    first.getLast? = second.getLast? := by
  by_cases none : rows = []
  · rw [left_empty none, right_empty none]
  · obtain ⟨row, latest⟩ := exists_latest time none
    rw [left row latest, right row latest]

theorem both_end_with_latest (ids : ∀ first ∈ rows, ∀ second ∈ rows, id first = id second → first = second) :
    EndsWithLatest time rows rows ∧ EndsWithLatest time rows (byText time id rows) ↔ NewestSavedLast time id rows := by
  constructor
  · rintro ⟨saved, sorted⟩ row latest
    exact ⟨saved row latest, ((getLast?_byText ids row).mp (sorted row latest)).2⟩
  · intro newest
    constructor
    · exact fun row latest => (newest row latest).1
    · exact fun row latest => (getLast?_byText ids row).mpr ⟨latest.1, (newest row latest).2⟩

end

namespace Evidence

variable (evidence : Evidence) (tenant : Uuid) (sku : String)

/-- The gates of this store judge the newest projection and the newest observation. -/
def JudgesLatest (backend : Backend) : Prop :=
  EndsWithLatest DemoPriceProjection.calculatedAt (evidence.savedProjections tenant sku)
      (evidence.priceProjectionsFor tenant sku backend) ∧
    EndsWithLatest DemoInventorySnapshot.observedAt (evidence.savedInventory tenant sku)
      (evidence.inventorySnapshotsFor tenant sku backend)

variable {evidence tenant sku}

theorem savedProjections_id_inj {first second : DemoPriceProjection}
    (first_member : first ∈ evidence.savedProjections tenant sku)
    (second_member : second ∈ evidence.savedProjections tenant sku) (same : first.id = second.id) : first = second := by
  simp only [savedProjections, List.mem_filter, decide_eq_true_eq] at first_member second_member
  refine evidence.projections.key_inj first_member.1 second_member.1 ?_
  rw [first_member.2.1, second_member.2.1, same]

theorem savedInventory_id_inj {first second : DemoInventorySnapshot}
    (first_member : first ∈ evidence.savedInventory tenant sku)
    (second_member : second ∈ evidence.savedInventory tenant sku) (same : first.id = second.id) : first = second := by
  simp only [savedInventory, List.mem_filter, decide_eq_true_eq] at first_member second_member
  refine evidence.inventory.key_inj first_member.1 second_member.1 ?_
  rw [first_member.2.1, second_member.2.1, same]

theorem gates_agree (memory : evidence.JudgesLatest tenant sku .memory) (sqlite : evidence.JudgesLatest tenant sku .sqlite)
    (now : Timestamp) (maxAgeSeconds : Int) (priceMinor : Option Int) :
    gates .memory evidence tenant sku now maxAgeSeconds priceMinor =
      gates .sqlite evidence tenant sku now maxAgeSeconds priceMinor := by
  have projections := memory.1.getLast?_eq sqlite.1 (fun none => none) fun none => by
    rw [priceProjectionsFor, none]
    rfl
  have inventory := memory.2.getLast?_eq sqlite.2 (fun none => none) fun none => by
    rw [inventorySnapshotsFor, none]
    rfl
  rw [gates, gates, projections, inventory]

end Evidence

/-- Both stores judge the newest evidence and agree in every verdict exactly where the newest rows were saved last and
no other row's time has a greater text. -/
theorem gates_judge_latest_iff (evidence : Evidence) (tenant : Uuid) (sku : String) :
    (evidence.JudgesLatest tenant sku .memory ∧ evidence.JudgesLatest tenant sku .sqlite ∧
      ∀ now maxAgeSeconds priceMinor, gates .memory evidence tenant sku now maxAgeSeconds priceMinor =
        gates .sqlite evidence tenant sku now maxAgeSeconds priceMinor) ↔
    NewestSavedLast DemoPriceProjection.calculatedAt DemoPriceProjection.id (evidence.savedProjections tenant sku) ∧
      NewestSavedLast DemoInventorySnapshot.observedAt DemoInventorySnapshot.id (evidence.savedInventory tenant sku) := by
  rw [← both_end_with_latest fun _ first _ second => evidence.savedProjections_id_inj first second,
    ← both_end_with_latest fun _ first _ second => evidence.savedInventory_id_inj first second]
  constructor
  · rintro ⟨memory, sqlite, -⟩
    exact ⟨⟨memory.1, sqlite.1⟩, memory.2, sqlite.2⟩
  · rintro ⟨projections, inventory⟩
    have memory : evidence.JudgesLatest tenant sku .memory := ⟨projections.1, inventory.1⟩
    have sqlite : evidence.JudgesLatest tenant sku .sqlite := ⟨projections.2, inventory.2⟩
    exact ⟨memory, sqlite, Evidence.gates_agree memory sqlite⟩

/-! ## An older observation -/

def readyProjection : DemoPriceProjection where
  id := 1
  tenantId := 1
  sku := "sku-1"
  sellingPriceMinor := 1000
  supplyCostMinor := 500
  variableCostMinor := 0
  feeRate := "0"
  projectedContributionMinor := 500
  projectedMargin := "0.5000"
  status := .ready
  calculatedAt := .utc 10000

def stockOf (id : Uuid) (quantity : Int) (observedAt : Timestamp) : DemoInventorySnapshot where
  id := id
  tenantId := 1
  sku := "sku-1"
  supplierId := "supplier-1"
  quantity := quantity
  observedAt := observedAt

/-- One projection, and two observations in the order of their saves. -/
def observed (first second : DemoInventorySnapshot) : Evidence :=
  ((Evidence.empty.savePriceProjection readyProjection).saveInventorySnapshot first).saveInventorySnapshot second

/-- Saved out of order, the older observation is judged in memory. Of observations saved in order, the older one is
judged in SQLite where its zone is ahead. -/
theorem gates_judge_older :
    (gates .memory (observed (stockOf 2 0 (.utc 9000)) (stockOf 1 5 (.utc 8000))) 1 "sku-1" (.utc 10000) 86400 (some 1000) =
        .ok ⟨some 1, some "0.5000", some 1, some 5⟩ ∧
      gates .sqlite (observed (stockOf 2 0 (.utc 9000)) (stockOf 1 5 (.utc 8000))) 1 "sku-1" (.utc 10000) 86400 (some 1000) =
        .error (conflictError "no DEMO inventory observed for the offer")) ∧
    (gates .memory (observed (stockOf 1 5 ⟨8000000000, 3600000000⟩) (stockOf 2 0 (.utc 9000))) 1 "sku-1" (.utc 10000) 86400
        (some 1000) = .error (conflictError "no DEMO inventory observed for the offer") ∧
      gates .sqlite (observed (stockOf 1 5 ⟨8000000000, 3600000000⟩) (stockOf 2 0 (.utc 9000))) 1 "sku-1" (.utc 10000) 86400
        (some 1000) = .ok ⟨some 1, some "0.5000", some 1, some 5⟩) := by
  decide +kernel

end AiStore.Catalog
