import AiStore.Catalog.OfferRuns
import AiStore.Catalog.Recording

/-! Runs of a market whose evidence is all recorded: what an approved offer can be read back on. -/

set_option autoImplicit false

namespace AiStore.Catalog

open Library (Session Table final)
open Library.Txn Failure Repository Service
open Offline (DemoPriceCalculation FeeRate calculateDemoPrice)

variable (backend : Backend) (env : Env) (hash : String → String) (context : TenantContext)

/-! ## Calls -/

def Unrecorded : MarketCall env → Prop
  | .record _ => False
  | _ => True

/-- The calls of a market whose evidence is all recorded. -/
inductive RecordedCall (env : Env) where
  | inventory (context : TenantContext) (sku supplierId : String) (quantity : Int) (observedAt : Option Timestamp)
  | price (context : TenantContext) (sku : String) (sellingPriceMinor supplyCostMinor variableCostMinor : Int)
      (feeRate : FeeRate)
  | market (call : MarketCall env) (unrecorded : Unrecorded env call)

def performRecorded : RecordedCall env → MarketOp Unit
  | .inventory context sku supplierId quantity observedAt => do
      let _ ← recordDemoInventory backend env context sku supplierId quantity observedAt
      pure ()
  | .price context sku sellingPriceMinor supplyCostMinor variableCostMinor feeRate => do
      let _ ← recordDemoPriceProjection backend env context sku sellingPriceMinor supplyCostMinor variableCostMinor feeRate
      pure ()
  | .market call _ => performMarket backend env hash call

def recordedStep (call : RecordedCall env) (s : Session Market) : Except Failure Unit × Session Market :=
  (performRecorded backend env hash call).run s

namespace RecordedCall

variable {env}

/-- The projection is what an administrator of its tenant has the call record. -/
def Prices (s : Session Market) (row : DemoPriceProjection) : RecordedCall env → Prop
  | .price context sku sellingPriceMinor supplyCostMinor variableCostMinor feeRate =>
      Authorized s.db.shelf.store context .tenantAdmin ∧ ∃ result,
        calculateDemoPrice sellingPriceMinor supplyCostMinor variableCostMinor feeRate = .ok result ∧
          row = newProjection row.id context.tenantId sku result row.calculatedAt
  | _ => False

/-- The observation is what an administrator of its tenant has the call record. -/
def Observes (s : Session Market) (row : DemoInventorySnapshot) : RecordedCall env → Prop
  | .inventory context sku supplierId quantity observedAt =>
      Authorized s.db.shelf.store context .tenantAdmin ∧ 0 ≤ quantity ∧ (∀ time ∈ observedAt, row.observedAt = time) ∧
        row = ⟨row.id, context.tenantId, sku, supplierId, quantity, row.observedAt⟩
  | _ => False

end RecordedCall

/-! ## What a call records -/

section

variable {backend env hash context}
variable {s t : Session Market}

/-- The evidence lies beside the store. -/
theorem evidence_onStore {α : Type} (operation : Op α) : Keeps Market.evidence (onStore operation) :=
  keeps_on (fun _ _ => rfl) operation

/-- What leaves the market alone leaves its evidence alone. -/
theorem evidence_still {α : Type} {body : MarketOp α} (keeps : Keeps (fun market => market) body) :
    Keeps Market.evidence body := keeps.mono fun _ _ same => congrArg Market.evidence same

theorem keeps_admitEvidence {table : String} {tenant : Uuid} {numbers : List Int} {taken : Market → Bool} :
    Keeps (fun market => market) (admitEvidence backend table tenant numbers taken) := by
  cases backend with
  | memory => exact keeps_pure _
  | sqlite =>
    refine (keeps_ensure _ _).bind fun _ => (keeps_query _).bind fun _ => (keeps_ensure _ _).bind fun _ => ?_
    exact (keeps_query _).bind fun _ => keeps_ensure _ _

theorem keeps_observationTime (observedAt : Option Timestamp) :
    Keeps (fun market => market) (observationTime env observedAt) := by
  cases observedAt with
  | none => exact keeps_now.on
  | some time => exact keeps_pure _

theorem fileInventory_ok {value : DemoInventoryObservation} {row : DemoInventorySnapshot}
    (ran : (fileInventory backend env context value).run s = (.ok row, t)) :
    row = ⟨s.uuids, context.tenantId, value.sku, value.supplierId, value.quantity, value.observedAt⟩ ∧
      t.db.evidence = s.db.evidence.saveInventorySnapshot row := by
  simp only [fileInventory, saveInventorySnapshot, bind_eq_ok, freshUuid_eq_ok, write_eq_ok, pure_eq_ok] at ran
  obtain ⟨_, _, ⟨rfl, rfl⟩, _, _, ⟨_, middle, admitted, _, _, rfl, rfl, rfl⟩, _, _, audited, rfl, rfl⟩ := ran
  have same := keeps_admitEvidence.of_run admitted
  -- the audit comes after the row, and beside it
  have evidence := (evidence_onStore _).of_run audited
  refine ⟨rfl, ?_⟩
  rw [evidence]
  change middle.db.evidence.saveInventorySnapshot _ = _
  rw [same]

theorem filePriceProjection_ok {sku : String} {result : DemoPriceCalculation} {row : DemoPriceProjection}
    (ran : (filePriceProjection backend env context sku result).run s = (.ok row, t)) :
    row = newProjection row.id context.tenantId sku result row.calculatedAt ∧
      t.db.evidence = s.db.evidence.savePriceProjection row := by
  simp only [filePriceProjection, savePriceProjection, bind_eq_ok, freshUuid_eq_ok, onStore_now_eq_ok, write_eq_ok,
    pure_eq_ok] at ran
  obtain ⟨_, _, ⟨rfl, rfl⟩, _, _, ⟨rfl, rfl⟩, _, _, ⟨_, middle, admitted, _, _, rfl, rfl, rfl⟩, _, _, audited, rfl, rfl⟩ := ran
  have same := keeps_admitEvidence.of_run admitted
  have evidence := (evidence_onStore _).of_run audited
  refine ⟨rfl, ?_⟩
  rw [evidence]
  change middle.db.evidence.savePriceProjection _ = _
  rw [same]

/-- What a call adds to the evidence: nothing, or one row that it records. -/
inductive Adds (call : RecordedCall env) (s t : Session Market) : Prop where
  | nothing (same : t.db.evidence = s.db.evidence)
  | price (row : DemoPriceProjection) (prices : call.Prices s row)
      (added : t.db.evidence = s.db.evidence.savePriceProjection row)
  | stock (row : DemoInventorySnapshot) (observes : call.Observes s row)
      (added : t.db.evidence = s.db.evidence.saveInventorySnapshot row)

theorem keeps_projectDemoOffer (canonicalProductId : Uuid) (channelId : String) (priceMinor : Option Int)
    (maxAgeSeconds : Int) : Keeps Market.evidence
      (projectDemoOffer backend env context canonicalProductId channelId priceMinor maxAgeSeconds) := by
  refine (evidence_onStore _).bind fun _ => (keeps_ofExcept _).bind fun _ => (keeps_ensure _ _).bind fun _ => ?_
  apply Keeps.transaction
  refine ((keeps_query _).bind fun _ => keeps_fetch _ _).bind fun product => (keeps_ensure _ _).bind fun _ => ?_
  refine (evidence_still keeps_gatesOn).bind fun _ => ?_
  refine keeps_freshUuid.bind fun id => (evidence_onStore _).bind fun now => Keeps.bind ?_ fun (offer, replay) => ?_
  · refine (keeps_query _).bind fun found => ?_
    cases found with
    | some prior => exact (keeps_ensure _ _).bind fun _ => keeps_pure _
    | none =>
      refine (evidence_still keeps_admitOffer).bind fun _ => ?_
      refine Keeps.bind (keeps_write ?_) fun _ => keeps_pure _
      exact fun _ => rfl
  · cases replay with
    | true => exact keeps_pure _
    | false =>
      refine Keeps.bind ?_ fun _ => keeps_pure _
      exact (evidence_onStore _).bind fun _ => (evidence_onStore _).bind fun _ => evidence_onStore _

/-- The other calls of a market leave the evidence alone. -/
theorem keeps_performMarket (call : MarketCall env) (unrecorded : Unrecorded env call) :
    Keeps Market.evidence (performMarket backend env hash call) := by
  cases call with
  | ingest context supplierId rows idempotencyKey => exact (keeps_on (fun _ _ => rfl) _).bind fun _ => keeps_pure _
  | project context canonicalProductId channelId priceMinor maxAgeSeconds =>
    exact (keeps_projectDemoOffer _ _ _ _).bind fun _ => keeps_pure _
  | record change => exact unrecorded.elim
  | request context offerId idempotencyKey maxAgeSeconds =>
    refine Keeps.bind ?_ fun _ => keeps_pure _
    refine (evidence_onStore _).bind fun _ => (keeps_ensure _ _).bind fun _ => (keeps_ofExcept _).bind fun _ => ?_
    apply Keeps.transaction
    refine (evidence_still keeps_offerIntent).bind fun (offer, product) => ?_
    exact (evidence_still keeps_gatesOn).bind fun _ => evidence_onStore _
  | verify context offerId commandId maxAgeSeconds =>
    refine Keeps.bind ?_ fun _ => keeps_pure _
    exact evidence_still (keeps_verifyApprovedDemoOffer _ _ _)
  | lifecycle call => exact (evidence_onStore _).bind fun _ => keeps_pure _

/-- A call that is refused, or rolled back, has recorded nothing. -/
theorem unwinds_recordDemoInventory {sku supplierId : String} {quantity : Int} {observedAt : Option Timestamp} :
    Unwinds Market.evidence (recordDemoInventory backend env context sku supplierId quantity observedAt) := by
  refine Unwinds.bind (evidence_still (keeps_require _).on) fun _ => ?_
  refine Unwinds.bind (evidence_still (keeps_observationTime _)) fun _ => ?_
  exact Unwinds.bind (keeps_ofExcept _) fun _ => unwinds_transaction _

theorem observed_time {observedAt : Option Timestamp} {time : Timestamp}
    (ran : (observationTime env observedAt).run s = (.ok time, t)) : ∀ given ∈ observedAt, time = given := by
  rintro given ⟨⟩
  exact ((pure_eq_ok _ _ _ _).mp ran).1

theorem recordDemoInventory_adds (sku supplierId : String) (quantity : Int) (observedAt : Option Timestamp) :
    Adds (.inventory context sku supplierId quantity observedAt : RecordedCall env) s
      ((recordDemoInventory backend env context sku supplierId quantity observedAt).run s).2 := by
  rcases ran : (recordDemoInventory backend env context sku supplierId quantity observedAt).run s with ⟨why | row, t⟩
  · exact .nothing (unwinds_recordDemoInventory _ _ _ ran)
  · simp only [recordDemoInventory, bind_eq_ok, onStore_require_eq_ok, ofExcept_eq_ok, transaction_eq_ok] at ran
    obtain ⟨_, _, ⟨authorized, rfl⟩, time, middle, timed, value, _, ⟨observed, rfl⟩, filed⟩ := ran
    have same := (keeps_observationTime _).of_run timed
    simp only [observeDemoInventory] at observed
    split at observed
    · next valid =>
      cases observed
      obtain ⟨rfl, added⟩ := fileInventory_ok filed
      exact .stock _ ⟨authorized, valid.2.2, observed_time timed, rfl⟩ (same ▸ added)
    · cases observed

theorem unwinds_recordDemoPriceProjection {sku : String} {selling supply variableCost : Int} {feeRate : FeeRate} :
    Unwinds Market.evidence (recordDemoPriceProjection backend env context sku selling supply variableCost feeRate) := by
  refine Unwinds.bind (evidence_still (keeps_require _).on) fun _ => ?_
  refine Unwinds.bind (keeps_ensure _ _) fun _ => ?_
  split
  · exact (keeps_raise _).unwinds
  · exact (keeps_pure _).unwinds
  · exact unwinds_transaction _

theorem recordDemoPriceProjection_adds (sku : String) (selling supply variableCost : Int) (feeRate : FeeRate) :
    Adds (.price context sku selling supply variableCost feeRate : RecordedCall env) s
      ((recordDemoPriceProjection backend env context sku selling supply variableCost feeRate).run s).2 := by
  rcases ran : (recordDemoPriceProjection backend env context sku selling supply variableCost feeRate).run s with
    ⟨why | row, t⟩
  · exact .nothing (unwinds_recordDemoPriceProjection _ _ _ ran)
  · simp only [recordDemoPriceProjection, bind_eq_ok, onStore_require_eq_ok, ensure_eq_ok] at ran
    obtain ⟨_, _, ⟨authorized, rfl⟩, _, _, ⟨-, rfl⟩, ran⟩ := ran
    split at ran
    · exact ((raise_eq_ok _ _ _ _).mp ran).elim
    · obtain ⟨-, rfl⟩ := (pure_eq_ok _ _ _ _).mp ran
      exact .nothing rfl
    · next result calculated =>
      simp only [bind_eq_ok, transaction_eq_ok, pure_eq_ok] at ran
      obtain ⟨value, _, filed, -, rfl⟩ := ran
      obtain ⟨shown, added⟩ := filePriceProjection_ok filed
      exact .price value ⟨authorized, result, calculated, shown⟩ added

/-- A step adds what its call records, or nothing. -/
theorem step_adds (call : RecordedCall env) (s : Session Market) :
    Adds call s (recordedStep backend env hash call s).2 := by
  cases call with
  | inventory context sku supplierId quantity observedAt =>
    have adds := @recordDemoInventory_adds backend env context s sku supplierId quantity observedAt
    simp only [recordedStep, performRecorded, run_bind]
    rcases ran : (recordDemoInventory backend env context sku supplierId quantity observedAt).run s with ⟨_ | _, t⟩ <;>
      rwa [ran] at adds
  | price context sku selling supply variableCost feeRate =>
    have adds := @recordDemoPriceProjection_adds backend env context s sku selling supply variableCost feeRate
    simp only [recordedStep, performRecorded, run_bind]
    rcases ran : (recordDemoPriceProjection backend env context sku selling supply variableCost feeRate).run s with
      ⟨_ | _, t⟩ <;> rwa [ran] at adds
  | market call unrecorded => exact .nothing (keeps_performMarket call unrecorded s)

/-- A new projection is the one that the call records. -/
theorem Adds.priced {call : RecordedCall env} (adds : Adds call s t) {row : DemoPriceProjection}
    (unknown : row ∉ s.db.evidence.projections.rows) (known : row ∈ t.db.evidence.projections.rows) :
    call.Prices s row := by
  cases adds with
  | nothing same => exact absurd (same ▸ known) unknown
  | price other prices added =>
    rw [added] at known
    rcases (Table.mem_put _ _ _).mp known with rfl | ⟨old, -⟩
    · exact prices
    · exact absurd old unknown
  | stock other _ added =>
    rw [added] at known
    exact absurd known unknown

/-- A new observation is the one that the call records. -/
theorem Adds.observed {call : RecordedCall env} (adds : Adds call s t) {row : DemoInventorySnapshot}
    (unknown : row ∉ s.db.evidence.inventory.rows) (known : row ∈ t.db.evidence.inventory.rows) :
    call.Observes s row := by
  cases adds with
  | nothing same => exact absurd (same ▸ known) unknown
  | price other _ added =>
    rw [added] at known
    exact absurd known unknown
  | stock other observes added =>
    rw [added] at known
    rcases (Table.mem_put _ _ _).mp known with rfl | ⟨old, -⟩
    · exact observes
    · exact absurd old unknown

theorem projection_recorded {calls : List (RecordedCall env)} {row : DemoPriceProjection}
    (member : row ∈ (final (recordedStep backend env hash) newMarket calls).db.evidence.projections.rows) :
    ∃ before call after, calls = before ++ call :: after ∧
      call.Prices (final (recordedStep backend env hash) newMarket before) row := by
  obtain ⟨before, call, after, split, unknown, known⟩ := Library.exists_crossing
    (fun state : Session Market => row ∈ state.db.evidence.projections.rows) List.not_mem_nil member
  exact ⟨before, call, after, split, (step_adds call _).priced unknown known⟩

theorem observation_recorded {calls : List (RecordedCall env)} {row : DemoInventorySnapshot}
    (member : row ∈ (final (recordedStep backend env hash) newMarket calls).db.evidence.inventory.rows) :
    ∃ before call after, calls = before ++ call :: after ∧
      call.Observes (final (recordedStep backend env hash) newMarket before) row := by
  obtain ⟨before, call, after, split, unknown, known⟩ := Library.exists_crossing
    (fun state : Session Market => row ∈ state.db.evidence.inventory.rows) List.not_mem_nil member
  exact ⟨before, call, after, split, (step_adds call _).observed unknown known⟩

/-! ## Runs -/

/-- Rows of evidence come beside the offers and the catalog. -/
theorem trades_evidence (change : Evidence → Evidence) : Settles (Trades env)
    (write fun market => { market with evidence := change market.evidence } : MarketOp Unit) := by
  intro s
  exact .single fun offered => ⟨offered.beside offered.shelved (fun _ member => member) rfl (Nat.le_refl _), .refl,
    fun _ member => member, fun _ member => member⟩

theorem trades_recordDemoInventory (sku supplierId : String) (quantity : Int) (observedAt : Option Timestamp) :
    Settles (Trades env) (recordDemoInventory backend env context sku supplierId quantity observedAt) := by
  refine (trades_still (keeps_require _).on).bind fun _ => (trades_still (keeps_observationTime _)).bind fun _ => ?_
  refine (trades_still (keeps_ofExcept _)).bind fun _ => Follows.transaction trades_idles ?_
  refine (trades_still keeps_freshUuid).follows.bind fun _ => Follows.bind ?_ fun _ => ?_
  · refine (trades_still keeps_admitEvidence).follows.bind fun _ => ?_
    exact (trades_evidence fun evidence => evidence.saveInventorySnapshot _).follows.bind fun _ =>
      (trades_still (keeps_pure _)).follows
  · exact (trades_onStore_follows follows_auditBy).bind fun _ => (trades_still (keeps_pure _)).follows

theorem trades_recordDemoPriceProjection (sku : String) (selling supply variableCost : Int) (feeRate : FeeRate) :
    Settles (Trades env) (recordDemoPriceProjection backend env context sku selling supply variableCost feeRate) := by
  refine (trades_still (keeps_require _).on).bind fun _ => (trades_still (keeps_ensure _ _)).bind fun _ => ?_
  split
  · exact trades_still (keeps_raise _)
  · exact trades_still (keeps_pure _)
  · refine Follows.transaction trades_idles (Follows.bind ?_ fun _ => (trades_still (keeps_pure _)).follows)
    refine (trades_still keeps_freshUuid).follows.bind fun _ => (trades_still keeps_now.on).follows.bind fun _ => ?_
    refine Follows.bind ?_ fun _ => ?_
    · refine (trades_still keeps_admitEvidence).follows.bind fun _ => ?_
      exact (trades_evidence fun evidence => evidence.savePriceProjection _).follows.bind fun _ =>
        (trades_still (keeps_pure _)).follows
    · exact (trades_onStore_follows follows_auditBy).bind fun _ => (trades_still (keeps_pure _)).follows

theorem recorded_offered (calls : List (RecordedCall env)) :
    Offered (final (recordedStep backend env hash) newMarket calls) := by
  refine Library.final_invariant Offered offered_new fun call _ s offered => ?_
  have done : ∀ _ : Unit, Settles (Trades env) (pure () : MarketOp Unit) := fun _ => trades_still (keeps_pure _)
  cases call with
  | inventory context sku supplierId quantity observedAt =>
    exact (trades_of_steps ((trades_recordDemoInventory _ _ _ _).bind (fun _ => done ()) s) offered).1
  | price context sku selling supply variableCost feeRate =>
    exact (trades_of_steps ((trades_recordDemoPriceProjection _ _ _ _ _).bind (fun _ => done ()) s) offered).1
  | market call unrecorded => exact (step_trades call s offered).1

theorem gate_eq_ok {passed : Prop} [Decidable passed] {message : String} {u : Unit} :
    gate passed message = .ok u ↔ passed := by
  unfold gate
  split
  · next holds => simp [holds]
  · next fails => simp [fails]

/-- What the gates say of an offer that gives its price. -/
theorem verdict_given {now : Timestamp} {maxAgeSeconds price : Int} {projection : Option DemoPriceProjection}
    {observation : Option DemoInventorySnapshot} {evidence : GateEvidence}
    (passed : verdict now maxAgeSeconds (some price) projection observation = .ok evidence) :
    ∃ row stock, projection = some row ∧ observation = some stock ∧ row.status = .ready ∧ row.sellingPriceMinor = price ∧
      1 ≤ stock.quantity ∧ evidence = ⟨some row.id, some row.projectedMargin, some stock.id, some stock.quantity⟩ := by
  simp only [verdict, Library.except_bind_eq_ok, gate_eq_ok] at passed
  obtain ⟨_, present, _, ready, _, -, _, -, _, priced, _, stocked, made⟩ := passed
  obtain ⟨some_row, some_stock⟩ := present rfl
  obtain ⟨row, rfl⟩ := Option.isSome_iff_exists.mp some_row
  obtain ⟨stock, rfl⟩ := Option.isSome_iff_exists.mp some_stock
  cases made
  exact ⟨row, stock, rfl, rfl, ready row rfl, priced price rfl row rfl, stocked rfl stock rfl, rfl⟩

theorem mem_projectionsFor {evidence : Evidence} {tenant : Uuid} {sku : String} {row : DemoPriceProjection}
    (read : row ∈ evidence.priceProjectionsFor tenant sku backend) :
    row ∈ evidence.projections.rows ∧ row.tenantId = tenant ∧ row.sku = sku := by
  have saved : row ∈ evidence.savedProjections tenant sku := by
    cases backend with
    | memory => exact read
    | sqlite => exact (List.mem_insertionSort _).mp read
  obtain ⟨member, named⟩ := List.mem_filter.mp saved
  exact ⟨member, of_decide_eq_true named⟩

theorem mem_inventoryFor {evidence : Evidence} {tenant : Uuid} {sku : String} {row : DemoInventorySnapshot}
    (read : row ∈ evidence.inventorySnapshotsFor tenant sku backend) :
    row ∈ evidence.inventory.rows ∧ row.tenantId = tenant ∧ row.sku = sku := by
  have saved : row ∈ evidence.savedInventory tenant sku := by
    cases backend with
    | memory => exact read
    | sqlite => exact (List.mem_insertionSort _).mp read
  obtain ⟨member, named⟩ := List.mem_filter.mp saved
  exact ⟨member, of_decide_eq_true named⟩

/-- What a readback has found of its offer. -/
theorem verified_rows {offerId commandId : Uuid} {maxAgeSeconds : Int} {result : VerifiedOffer}
    (ran : (verifyApprovedDemoOffer backend env context offerId commandId maxAgeSeconds).run s = (.ok result, t)) :
    ∃ offer product time, s.db.channelOffers.get? (context.tenantId, offerId) = some offer ∧
      s.db.shelf.canonicalProducts.get? (context.tenantId, offer.canonicalProductId) = some product ∧
      gates backend s.db.evidence context.tenantId product.sku time maxAgeSeconds (some offer.priceMinor) =
        .ok result.evidence := by
  simp only [verifyApprovedDemoOffer, bind_eq_ok, onStore_require_eq_ok, onStore_getCommand_eq_ok,
    onStore_getApprovalForCommand_eq_ok, onStore_getApprovalIntent_eq_ok, onStore_now_eq_ok, ensure_eq_ok, ofExcept_eq_ok,
    fetch_eq_ok, gatesOn_eq_ok, pure_eq_ok] at ran
  obtain ⟨_, _, ⟨-, rfl⟩, ⟨offer, product⟩, _, intended, ran⟩ := ran
  obtain ⟨found, made, -, rfl⟩ := offerIntent_eq_ok.mp intended
  obtain ⟨_, _, ⟨-, rfl⟩, _, _, ⟨-, rfl⟩, _, _, ⟨-, rfl⟩, _, _, ⟨-, rfl⟩, _, _, ⟨rfl, rfl⟩, ran⟩ := ran
  obtain ⟨_, _, ⟨-, rfl⟩, _, _, ⟨-, rfl⟩, _, _, ⟨-, rfl⟩, _, _, ⟨-, rfl⟩, _, _, ⟨-, rfl⟩, _, _, ⟨-, rfl⟩, _, _, ⟨-, rfl⟩,
    evidence, _, ⟨passed, rfl⟩, rfl, -⟩ := ran
  exact ⟨offer, product, _, found, made, passed⟩

end

/-! ## An offer that is read back -/

open Execution (demoMaster)
open Approvals (idleEnv bootstrapped)

/-- A cup with its stock and its margin recorded, offered, and approved. -/
def recordedCup : List (RecordedCall idleEnv) := [
  .market (.lifecycle bootstrapped) trivial, .market (.ingest demoMaster "supplier" (cupRow "Cup") "catalog-1") trivial,
  .inventory demoMaster "cup" "supplier" 5 none, .price demoMaster "cup" 900 500 0 (.finite ⟨false, 125, -3⟩),
  .market (.project demoMaster 6 "channel" none 60) trivial, .market (.request demoMaster 17 "offer-1" 60) trivial,
  .market (.lifecycle (.decide demoMaster 21 true "yes")) trivial]

end AiStore.Catalog
