import AiStore.Catalog.Gates
import AiStore.Catalog.LineageRuns

/-! Offers of canonical products on a channel: their projection, the approval that is asked for one, and the readback of
an approved one. -/

set_option autoImplicit false

namespace AiStore.Catalog

open Library (Session Table Txn)
open Library.Txn Failure Repository Service
open Aftersales.SQLiteRepository (Fits)

/-! ## Records -/

structure DemoChannelOffer where
  id : Uuid
  tenantId : Uuid
  channelId : String
  canonicalProductId : Uuid
  sourceSnapshotId : Uuid
  externalKey : String
  priceMinor : Int
  currency : String
  version : Nat
  createdAt : Timestamp
  deriving DecidableEq

def DemoChannelOffer.key (row : DemoChannelOffer) : Uuid × Uuid := (row.tenantId, row.id)

/-- The catalog with its offers, and what was recorded of margins and stock. -/
structure Market where
  shelf : Shelf := {}
  channelOffers : Table DemoChannelOffer.key := .empty
  evidence : Evidence := .empty

abbrev MarketOp := Txn Market Failure

def newMarket : Session Market := ⟨{}, 0, 0⟩

def shelfPart : Library.Part Shelf Market where
  get := Market.shelf
  set shelf market := { market with shelf := shelf }
  get_set _ _ := rfl
  set_get _ := rfl

def marketStore : Library.Part Store Market where
  get market := market.shelf.store
  set store market := { market with shelf := { market.shelf with store := store } }
  get_set _ _ := rfl
  set_get _ := rfl

def onShelf {α : Type} (operation : ShelfOp α) : MarketOp α := Txn.on shelfPart operation

def onStore {α : Type} (operation : Op α) : MarketOp α := Txn.on marketStore operation

/-! ## Repositories -/

def getCanonicalProduct (tenant product : Uuid) : MarketOp DemoCanonicalProduct := do
  let row ← query (·.shelf.canonicalProducts.get? (tenant, product))
  fetch (notFoundError "canonical product not found") row

def getChannelOffer (tenant offer : Uuid) : MarketOp DemoChannelOffer := do
  let row ← query (·.channelOffers.get? (tenant, offer))
  fetch (notFoundError "channel offer not found") row

/-- The offer of a product on a channel. -/
def offerOn (market : Market) (tenant : Uuid) (channel : String) (product : Uuid) : Option DemoChannelOffer :=
  market.channelOffers.rows.find? fun row =>
    row.tenantId = tenant ∧ row.channelId = channel ∧ row.canonicalProductId = product

/-- What the schema refuses. -/
def RefusesOffer (value : DemoChannelOffer) (market : Market) : Prop :=
  (∃ row ∈ market.channelOffers.rows, row.id = value.id ∨ row.tenantId = value.tenantId ∧
    row.channelId = value.channelId ∧ row.canonicalProductId = value.canonicalProductId) ∨
  value.priceMinor < 0 ∨ value.version = 0 ∨
  market.shelf.canonicalProducts.get? (value.tenantId, value.canonicalProductId) = none ∨
  market.shelf.catalogSnapshots.get? (value.tenantId, value.sourceSnapshotId) = none

instance (value : DemoChannelOffer) (market : Market) : Decidable (RefusesOffer value market) :=
  inferInstanceAs (Decidable (_ ∨ _))

/-- What an insert into the repository takes. -/
def admitOffer : Backend → DemoChannelOffer → MarketOp Unit
  | .memory, _ => pure ()
  | .sqlite, value => do
      ensure (Fits value.priceMinor) (overflowError "Python int too large to convert to SQLite INTEGER")
      let refused ← query fun market => decide (RefusesOffer value market)
      ensure (refused = false) (conflictError "channel offer already exists")

def saveChannelOffer (backend : Backend) (value : DemoChannelOffer) : MarketOp (DemoChannelOffer × Bool) := do
  match ← query (offerOn · value.tenantId value.channelId value.canonicalProductId) with
  | some prior =>
    ensure (prior.priceMinor = value.priceMinor ∧ prior.currency = value.currency)
      (conflictError "channel offer already exists with different content")
    pure (prior, true)
  | none =>
    admitOffer backend value
    write fun market => { market with channelOffers := market.channelOffers.put value }
    pure (value, false)

/-! ## Projection -/

section

variable (backend : Backend) (env : Env) (context : TenantContext)

/-- `_gates`, on the evidence as it stands. -/
def gatesOn (sku : String) (maxAgeSeconds : Int) (priceMinor : Option Int) : MarketOp GateEvidence := do
  let evidence ← query Market.evidence
  let now ← onStore (now env)
  ofExcept (gates backend evidence context.tenantId sku now maxAgeSeconds priceMinor)

def newOffer (id tenant : Uuid) (channelId : String) (product : DemoCanonicalProduct) (priceMinor : Int)
    (now : Timestamp) : DemoChannelOffer where
  id := id
  tenantId := tenant
  channelId := channelId
  canonicalProductId := product.id
  sourceSnapshotId := product.sourceSnapshotId
  externalKey := product.sku
  priceMinor := priceMinor
  currency := product.currency
  version := 1
  createdAt := now

/-- `catalog:offer:{offer}:projected`. -/
def offerKey (offer : Uuid) : OutboxKey := .elsewhere ("catalog:offer:" ++ toString offer ++ ":projected")

/-- What is told of a new offer. -/
def announceOffer (offer : DemoChannelOffer) (channelId : String) (product : Uuid) : MarketOp Unit := do
  onStore (auditBy env context "catalog.offer_projected" offer.id "succeeded"
    [("channel_id", .text channelId), ("canonical_product_id", .uuid product)])
  let now ← onStore (now env)
  onStore (publish context.tenantId "catalog.offer_projected" offer.id
    [("offer_id", .uuid offer.id), ("channel_id", .text channelId)] (offerKey offer.id) now)

/-- The transaction of `project_demo_offer`. -/
def projectOffer (canonicalProductId : Uuid) (channelId : String) (priceMinor : Option Int) (maxAgeSeconds : Int) :
    MarketOp (DemoChannelOffer × Bool) := do
  let product ← getCanonicalProduct context.tenantId canonicalProductId
  let priceMinor := priceMinor.getD product.priceMinor
  ensure (0 ≤ priceMinor) (conflictError "invalid offer price")
  let _ ← gatesOn backend env context product.sku maxAgeSeconds none
  let id ← freshUuid
  let now ← onStore (now env)
  let (offer, replay) ← saveChannelOffer backend (newOffer id context.tenantId channelId product priceMinor now)
  if replay then pure (offer, true)
  else do
    announceOffer env context offer channelId product.id
    pure (offer, false)

def projectDemoOffer (canonicalProductId : Uuid) (channelId : String) (priceMinor : Option Int) (maxAgeSeconds : Int) :
    MarketOp (DemoChannelOffer × Bool) := do
  onStore (require context .tenantAdmin)
  let channelId ← ofExcept (identifier (.text channelId) "channel_id")
  ensure (1 ≤ maxAgeSeconds) (conflictError "invalid freshness window")
  transaction (projectOffer backend env context canonicalProductId channelId priceMinor maxAgeSeconds)

/-! ## Approval -/

/-- `offer:{offer}`. -/
def offerRef (offer : Uuid) : TargetRef := .text ("offer:" ++ toString offer)

/-- What is approved of an offer. -/
def offerPayload (offer : DemoChannelOffer) (product : DemoCanonicalProduct) : Mapping := [
  ("offer_id", .uuid offer.id), ("channel_id", .text offer.channelId), ("canonical_product_id", .uuid product.id),
  ("source_snapshot_id", .uuid offer.sourceSnapshotId), ("sku", .text product.sku), ("title", .text product.title),
  ("price_minor", .int offer.priceMinor), ("currency", .text offer.currency), ("mode", .text "DEMO"),
  ("external_write_authorized", .bool false)]

/-- `_offer_intent`: the offer, and the product whose data go into the payload with it. -/
def offerIntent (offerId : Uuid) : MarketOp (DemoChannelOffer × DemoCanonicalProduct) := do
  let offer ← getChannelOffer context.tenantId offerId
  let product ← getCanonicalProduct context.tenantId offer.canonicalProductId
  ensure (offer.sourceSnapshotId = product.sourceSnapshotId ∧ offer.currency = product.currency)
    (conflictError "offer no longer matches its canonical product; reapproval required")
  pure (offer, product)

def evidenceMaterial (evidence : GateEvidence) : Mapping := [
  ("risk", .text "DEMO_ONLY"), ("price_projection_id", evidence.priceProjectionId.elim .none .uuid),
  ("projected_margin", evidence.projectedMargin.elim .none .text),
  ("inventory_snapshot_id", evidence.inventorySnapshotId.elim .none .uuid),
  ("inventory_quantity", evidence.inventoryQuantity.elim .none .int)]

/-- The transaction of `request_demo_offer_approval`. -/
def askApproval (offerId : Uuid) (idempotencyKey : String) (maxAgeSeconds : Int) : MarketOp (Command × Approval) := do
  let (offer, product) ← offerIntent context offerId
  let evidence ← gatesOn backend env context product.sku maxAgeSeconds (some offer.priceMinor)
  onStore (requestApproval env context .product (offerRef offer.id) (offerPayload offer product) (.text idempotencyKey)
    1 offer.version [evidenceMaterial evidence])

def requestDemoOfferApproval (offerId : Uuid) (idempotencyKey : String) (maxAgeSeconds : Int) :
    MarketOp (Command × Approval) := do
  onStore (require context .tenantAdmin)
  ensure (1 ≤ maxAgeSeconds) (conflictError "invalid freshness window")
  let idempotencyKey ← ofExcept (catalogText (.text idempotencyKey) "idempotency_key")
  transaction (askApproval backend env context offerId idempotencyKey maxAgeSeconds)

structure VerifiedOffer where
  offerId : Uuid
  commandId : Uuid
  approvedBy : Option Uuid
  evidence : GateEvidence
  mode : String := "DEMO"
  externalWriteAuthorized : Bool := false
  deriving DecidableEq

/-- `_digest` of a payload, where `json.dumps` raises what it raises. -/
def payloadDigest (payload : Mapping) : Except Failure String :=
  if (Value.dict payload).strictJson then .ok (env.digest (.dict payload))
  else .error (typeError "payload is not JSON serializable")

def verifyApprovedDemoOffer (offerId commandId : Uuid) (maxAgeSeconds : Int) : MarketOp VerifiedOffer := do
  onStore (require context .tenantAdmin)
  let (offer, product) ← offerIntent context offerId
  let command ← onStore (getCommand context.tenantId commandId)
  let approval ← onStore (getApprovalForCommand context.tenantId command.id)
  ensure (command.kind = .product ∧ command.targetRef = offerRef offer.id) (conflictError "approval is not for this offer")
  ensure (command.state = .approved ∧ approval.state = .approved) (conflictError "offer is not approved")
  let now ← onStore (now env)
  ensure (now < approval.expiresAt) (conflictError "offer approval expired; reapproval required")
  let approved ← ofExcept (payloadDigest env command.payload)
  let shown ← ofExcept (payloadDigest env (offerPayload offer product))
  ensure (approved = shown) (conflictError "offer changed since approval; reapproval required")
  let intent ← onStore (getApprovalIntent context.tenantId command.id)
  let intent ← fetch (conflictError "offer approval target version is stale") intent
  ensure (intent.targetVersion = offer.version) (conflictError "offer approval target version is stale")
  let evidence ← gatesOn backend env context product.sku maxAgeSeconds (some offer.priceMinor)
  pure { offerId := offer.id, commandId := command.id, approvedBy := approval.decidedBy, evidence := evidence }

end

end AiStore.Catalog
