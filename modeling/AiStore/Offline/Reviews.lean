import AiStore.Offline.Reading

/-! Reviews of synthetic changes, their digests and their verification. -/

set_option autoImplicit false

namespace AiStore.Offline

open Library

/-- `datetime.isoformat`, as the instant and the offset it spells. -/
def isoformat (time : Timestamp) : Json := .list [.int time.instant, .int time.offset]

/-- `_aware`; a `datetime` without a zone is no timestamp. -/
def aware : Option Timestamp → Checked Timestamp
  | some time => pure time
  | none => .error ⟨"aware_timestamp_required"⟩

/-- `_ref`. -/
def ref (value : String) : Checked String := do
  require (externalId value = true) "invalid_fixture_reference"
  pure value

/-- `_hash_ref`. -/
def hashRef (value : String) : Checked String := do
  require (Service.sha256Text value = true) "invalid_evidence_digest"
  pure value

/-! ## The reviews -/

structure FixtureTrackingReview where
  tenantRef : String
  connectionRef : String
  orderId : String
  shipmentId : String
  vendorItemId : String
  invoiceNumber : String
  sourceDigest : String
  preparationReviewDigest : String
  claimSourceDigest : String
  claimsObservedAt : Timestamp
  observedAt : Timestamp
  reviewExpiresAt : Timestamp
  carrier : String
  deriving DecidableEq

def FixtureTrackingReview.fields (plan : FixtureTrackingReview) : Entries :=
  [("tenant_ref", .text plan.tenantRef), ("connection_ref", .text plan.connectionRef), ("order_id", .text plan.orderId),
    ("shipment_id", .text plan.shipmentId), ("vendor_item_id", .text plan.vendorItemId),
    ("invoice_number", .text plan.invoiceNumber), ("source_digest", .text plan.sourceDigest),
    ("preparation_review_digest", .text plan.preparationReviewDigest),
    ("claim_source_digest", .text plan.claimSourceDigest), ("claims_observed_at", isoformat plan.claimsObservedAt),
    ("observed_at", isoformat plan.observedAt), ("review_expires_at", isoformat plan.reviewExpiresAt),
    ("carrier", .text plan.carrier), ("split_shipping", .bool false), ("pre_split_shipped", .bool false),
    ("estimated_shipping_date", .text ""), ("mode", .text "OFFLINE_CONTRACT"), ("external_write_authorized", .bool false)]

structure FixtureNaverDispatchReview where
  tenantRef : String
  connectionRef : String
  productOrderId : String
  invoiceNumber : String
  sourceDigest : String
  observedAt : Timestamp
  reviewExpiresAt : Timestamp
  dispatchDate : Timestamp
  deriving DecidableEq

def FixtureNaverDispatchReview.fields (plan : FixtureNaverDispatchReview) : Entries :=
  [("tenant_ref", .text plan.tenantRef), ("connection_ref", .text plan.connectionRef),
    ("product_order_id", .text plan.productOrderId), ("invoice_number", .text plan.invoiceNumber),
    ("source_digest", .text plan.sourceDigest), ("observed_at", isoformat plan.observedAt),
    ("review_expires_at", isoformat plan.reviewExpiresAt), ("dispatch_date", isoformat plan.dispatchDate),
    ("delivery_method", .text "DELIVERY"), ("carrier", .text "CJGLS"), ("mode", .text "OFFLINE_CONTRACT"),
    ("external_write_authorized", .bool false)]

structure FixtureSplitItem where
  vendorItemId : String
  shipmentId : String
  quantity : Int
  invoiceNumber : String
  estimatedShippingDate : String
  preSplitShipped : Bool
  deriving DecidableEq

def FixtureSplitItem.asdict (item : FixtureSplitItem) : Json :=
  .object [("vendor_item_id", .text item.vendorItemId), ("shipment_id", .text item.shipmentId),
    ("quantity", .int item.quantity), ("invoice_number", .text item.invoiceNumber),
    ("estimated_shipping_date", .text item.estimatedShippingDate), ("split_shipping", .bool true),
    ("pre_split_shipped", .bool item.preSplitShipped), ("carrier", .text "KDEXP")]

structure FixtureSplitReview where
  tenantRef : String
  connectionRef : String
  orderId : String
  phase : String
  items : List FixtureSplitItem
  sourceDigest : String
  claimDigest : String
  preparationDigest : String
  priorReviewDigest : Option String
  observedAt : Timestamp
  claimsObservedAt : Timestamp
  createdAt : Timestamp
  expiresAt : Timestamp
  deriving DecidableEq

def FixtureSplitReview.fields (plan : FixtureSplitReview) : Entries :=
  [("tenant_ref", .text plan.tenantRef), ("connection_ref", .text plan.connectionRef), ("order_id", .text plan.orderId),
    ("phase", .text plan.phase), ("items", .list (plan.items.map FixtureSplitItem.asdict)),
    ("source_digest", .text plan.sourceDigest), ("claim_digest", .text plan.claimDigest),
    ("preparation_digest", .text plan.preparationDigest), ("prior_review_digest", optionalText plan.priorReviewDigest),
    ("observed_at", isoformat plan.observedAt), ("claims_observed_at", isoformat plan.claimsObservedAt),
    ("created_at", isoformat plan.createdAt), ("expires_at", isoformat plan.expiresAt),
    ("external_write_authorized", .bool false)]

structure FixtureListingReview where
  tenantRef : String
  connectionRef : String
  vendorId : String
  supplierRef : String
  supplierSku : String
  payloadDigest : String
  supplierDigest : String
  metadataDigest : String
  rightsDigest : String
  policyDigest : String
  priceKrw : Int
  quantity : Int
  createdAt : Timestamp
  expiresAt : Timestamp
  deriving DecidableEq

def FixtureListingReview.fields (plan : FixtureListingReview) : Entries :=
  [("tenant_ref", .text plan.tenantRef), ("connection_ref", .text plan.connectionRef), ("vendor_id", .text plan.vendorId),
    ("supplier_ref", .text plan.supplierRef), ("supplier_sku", .text plan.supplierSku),
    ("payload_digest", .text plan.payloadDigest), ("supplier_digest", .text plan.supplierDigest),
    ("metadata_digest", .text plan.metadataDigest), ("rights_digest", .text plan.rightsDigest),
    ("policy_digest", .text plan.policyDigest), ("price_krw", .int plan.priceKrw), ("quantity", .int plan.quantity),
    ("created_at", isoformat plan.createdAt), ("expires_at", isoformat plan.expiresAt),
    ("mode", .text "OFFLINE_CONTRACT"), ("external_write_authorized", .bool false)]

structure FixtureCatalogReview where
  tenantRef : String
  connectionRef : String
  vendorItemId : Int
  supplierRef : String
  supplierSku : String
  kind : String
  beforeValue : Int
  proposedValue : Int
  sourceDigest : String
  supplierDigest : String
  mappingDigest : String
  policyDigest : String
  createdAt : Timestamp
  expiresAt : Timestamp
  deriving DecidableEq

def FixtureCatalogReview.fields (plan : FixtureCatalogReview) : Entries :=
  [("tenant_ref", .text plan.tenantRef), ("connection_ref", .text plan.connectionRef),
    ("vendor_item_id", .int plan.vendorItemId), ("supplier_ref", .text plan.supplierRef),
    ("supplier_sku", .text plan.supplierSku), ("kind", .text plan.kind), ("before_value", .int plan.beforeValue),
    ("proposed_value", .int plan.proposedValue), ("source_digest", .text plan.sourceDigest),
    ("supplier_digest", .text plan.supplierDigest), ("mapping_digest", .text plan.mappingDigest),
    ("policy_digest", .text plan.policyDigest), ("created_at", isoformat plan.createdAt),
    ("expires_at", isoformat plan.expiresAt), ("mode", .text "OFFLINE_CONTRACT"),
    ("force_sale_price_update", .bool false), ("external_write_authorized", .bool false)]

structure FixtureReturnReview where
  tenantRef : String
  connectionRef : String
  vendorRef : String
  receiptId : String
  orderId : String
  shipmentId : String
  vendorItemId : String
  cancelQuantity : Int
  purchaseQuantity : Int
  fixtureAmountKrw : Int
  fixtureAmountCapKrw : Int
  sourceDigest : String
  withdrawalReviewDigest : String
  observedAt : Timestamp
  withdrawalObservedAt : Timestamp
  createdAt : Timestamp
  expiresAt : Timestamp
  deriving DecidableEq

def FixtureReturnReview.fields (plan : FixtureReturnReview) : Entries :=
  [("tenant_ref", .text plan.tenantRef), ("connection_ref", .text plan.connectionRef), ("vendor_ref", .text plan.vendorRef),
    ("receipt_id", .text plan.receiptId), ("order_id", .text plan.orderId), ("shipment_id", .text plan.shipmentId),
    ("vendor_item_id", .text plan.vendorItemId), ("cancel_quantity", .int plan.cancelQuantity),
    ("purchase_quantity", .int plan.purchaseQuantity), ("fixture_amount_krw", .int plan.fixtureAmountKrw),
    ("fixture_amount_cap_krw", .int plan.fixtureAmountCapKrw), ("source_digest", .text plan.sourceDigest),
    ("withdrawal_review_digest", .text plan.withdrawalReviewDigest), ("observed_at", isoformat plan.observedAt),
    ("withdrawal_observed_at", isoformat plan.withdrawalObservedAt), ("created_at", isoformat plan.createdAt),
    ("expires_at", isoformat plan.expiresAt), ("mode", .text "OFFLINE_CONTRACT"),
    ("external_write_authorized", .bool false)]

/-- A review of any kind. -/
inductive Review where
  | tracking (plan : FixtureTrackingReview)
  | dispatch (plan : FixtureNaverDispatchReview)
  | split (plan : FixtureSplitReview)
  | listing (plan : FixtureListingReview)
  | catalog (plan : FixtureCatalogReview)
  | returned (plan : FixtureReturnReview)
  deriving DecidableEq

namespace Review

def fields : Review → Entries
  | tracking plan => plan.fields
  | dispatch plan => plan.fields
  | split plan => plan.fields
  | listing plan => plan.fields
  | catalog plan => plan.fields
  | returned plan => plan.fields

def tenantRef : Review → String
  | tracking plan => plan.tenantRef
  | dispatch plan => plan.tenantRef
  | split plan => plan.tenantRef
  | listing plan => plan.tenantRef
  | catalog plan => plan.tenantRef
  | returned plan => plan.tenantRef

def connectionRef : Review → String
  | tracking plan => plan.connectionRef
  | dispatch plan => plan.connectionRef
  | split plan => plan.connectionRef
  | listing plan => plan.connectionRef
  | catalog plan => plan.connectionRef
  | returned plan => plan.connectionRef

/-- From when on the review may be accepted: the tracking and dispatch reviews store no creation time. -/
def startsAt : Review → Timestamp
  | tracking plan => plan.observedAt
  | dispatch plan => plan.observedAt
  | split plan => plan.createdAt
  | listing plan => plan.createdAt
  | catalog plan => plan.createdAt
  | returned plan => plan.createdAt

def expiresAt : Review → Timestamp
  | tracking plan => plan.reviewExpiresAt
  | dispatch plan => plan.reviewExpiresAt
  | split plan => plan.expiresAt
  | listing plan => plan.expiresAt
  | catalog plan => plan.expiresAt
  | returned plan => plan.expiresAt

end Review

/-- What a caller presents for verification. -/
structure Presented where
  approvalDigest : String
  tenantRef : String
  connectionRef : String
  now : Option Timestamp

section

variable (hash : String → String)

/-- `approval_digest`. -/
def Review.approvalDigest (plan : Review) : Checked String := digestOf hash (.object plan.fields)

def Review.verifyScope (plan : Review) (presented : Presented) : Checked Unit := do
  require (presented.tenantRef = plan.tenantRef ∧ presented.connectionRef = plan.connectionRef) "approval_scope_mismatch"
  let shown ← hashRef presented.approvalDigest
  let own ← plan.approvalDigest hash
  require (shown = own) "approval_digest_mismatch"

def Review.verifyTime (plan : Review) (now : Timestamp) : Checked String := do
  require (plan.startsAt ≤ now ∧ now < plan.expiresAt) "approval_time_invalid"
  pure "FIXTURE_REVIEW_ONLY"

/-- What the verifications of the other reviews do alike. -/
def Review.verifyPlanned (plan : Review) (presented : Presented) : Checked String := do
  plan.verifyScope hash presented
  let now ← aware presented.now
  plan.verifyTime now

/-- `verify_fixture_review`, of a tracking or a dispatch review: it looks at the time first. -/
def Review.verifyFixture (plan : Review) (presented : Presented) : Checked String := do
  let now ← aware presented.now
  plan.verifyScope hash presented
  plan.verifyTime now

def verifySplitReview (plan : FixtureSplitReview) (presented : Presented) : Checked String :=
  (Review.split plan).verifyPlanned hash presented

def verifyListingFixtureReview (plan : FixtureListingReview) (presented : Presented) : Checked String :=
  (Review.listing plan).verifyPlanned hash presented

def verifyCatalogFixtureReview (plan : FixtureCatalogReview) (presented : Presented) : Checked String :=
  (Review.catalog plan).verifyPlanned hash presented

def verifyReturnFixtureReview (plan : FixtureReturnReview) (presented : Presented) : Checked String :=
  (Review.returned plan).verifyPlanned hash presented

/-- The verification that matches the kind of the review. -/
def Review.verify (plan : Review) (presented : Presented) : Checked String := match plan with
  | .tracking _ | .dispatch _ => plan.verifyFixture hash presented
  | .split review => verifySplitReview hash review presented
  | .listing review => verifyListingFixtureReview hash review presented
  | .catalog review => verifyCatalogFixtureReview hash review presented
  | .returned review => verifyReturnFixtureReview hash review presented

end

end AiStore.Offline
