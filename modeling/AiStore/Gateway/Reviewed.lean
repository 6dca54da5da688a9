import AiStore.Gateway.ToolSafety
import AiStore.Offline.ReturnBatch

/-! The bridges from reviewed fixtures to approvals and to the tool gateway.

Every bridge verifies its review under the tenant and the connection at the time of
the call, and then asks for an approval of the review's projection, or submits it.
-/

set_option autoImplicit false

namespace AiStore.Gateway

open Library.Txn Failure Repository Service
open Offline (Checked ContractQuarantine Presented Review FixtureTrackingReview FixtureNaverDispatchReview
  FixtureSplitItem FixtureSplitReview FixtureListingReview FixtureReturnReview FixtureTrackingBatch FixtureReturnBatch)

/-- What a bridge carries; a listing review comes with the offer it is for. -/
inductive Reviewed where
  | tracking (review : FixtureTrackingReview)
  | dispatch (review : FixtureNaverDispatchReview)
  | split (review : FixtureSplitReview)
  | listing (review : FixtureListingReview) (offerId : String)
  | returned (review : FixtureReturnReview)
  | trackingBatch (batch : FixtureTrackingBatch)
  | returnBatch (batch : FixtureReturnBatch)
  deriving DecidableEq

/-- `ContractQuarantine` is a `ValueError`. -/
def quarantined {α : Type} : Checked α → Op α
  | .ok result => pure result
  | .error failure => raise (valueError failure.reason)

namespace Reviewed

def tenantRef : Reviewed → String
  | tracking review => review.tenantRef
  | dispatch review => review.tenantRef
  | split review => review.tenantRef
  | listing review _ => review.tenantRef
  | returned review => review.tenantRef
  | trackingBatch batch => batch.tenantRef
  | returnBatch batch => batch.tenantRef

def connectionRef : Reviewed → String
  | tracking review => review.connectionRef
  | dispatch review => review.connectionRef
  | split review => review.connectionRef
  | listing review _ => review.connectionRef
  | returned review => review.connectionRef
  | trackingBatch batch => batch.connectionRef
  | returnBatch batch => batch.connectionRef

/-- The name of the projection. -/
def contract : Reviewed → String
  | tracking _ => "coupang-tracking-fixture-v1"
  | dispatch _ => "naver-dispatch-fixture-v1"
  | split _ => "coupang-split-tracking-fixture-v1"
  | listing .. => "coupang-listing-fixture-v1"
  | returned _ => "coupang-return-fixture-v1"
  | trackingBatch _ => "tracking-batch-fixture-v1"
  | returnBatch _ => "return-batch-fixture-v1"

def kind : Reviewed → ApprovalKind
  | tracking _ | dispatch _ | split _ | trackingBatch _ => .purchase
  | returned _ | returnBatch _ => .refund
  | listing .. => .product

def tool : Reviewed → String
  | tracking _ | dispatch _ | split _ | trackingBatch _ => "dispatch_shipment"
  | returned _ | returnBatch _ => "claim_action"
  | listing .. => "publish_offer"

def actorId : Reviewed → String
  | tracking _ | dispatch _ => "tracking-fixture-v1"
  | split _ => "split-tracking-fixture-v1"
  | listing .. => "listing-fixture-v1"
  | returned _ => "return-fixture-v1"
  | trackingBatch _ => "tracking-batch-fixture-v1"
  | returnBatch _ => "return-batch-fixture-v1"

def targetType : Reviewed → String
  | tracking _ | dispatch _ | split _ | trackingBatch _ => "shipment"
  | returned _ | returnBatch _ => "order"
  | listing .. => "offer"

/-- What the operator is shown beside the projection. -/
def evidence (reviewed : Reviewed) (connectionRef : String) : Mapping :=
  let common : Mapping := [("risk", .text "OFFLINE_FIXTURE_ONLY"), ("connection_ref", .text connectionRef)]
  match reviewed with
  | tracking _ | dispatch _ | split _ => common ++ [("real_shipment_confirmed", .bool false)]
  | listing .. => common
  | returned _ => common ++ [("bank_refund_verified", .bool false)]
  | trackingBatch batch =>
      common ++ [("real_shipment_confirmed", .bool false), ("batch_size", .int batch.reviews.length)]
  | returnBatch batch => common ++ [("bank_refund_verified", .bool false), ("batch_size", .int batch.reviews.length)]

section

variable (hash : String → String)

def approvalDigest : Reviewed → Checked String
  | tracking review => (Review.tracking review).approvalDigest hash
  | dispatch review => (Review.dispatch review).approvalDigest hash
  | split review => (Review.split review).approvalDigest hash
  | listing review _ => (Review.listing review).approvalDigest hash
  | returned review => (Review.returned review).approvalDigest hash
  | trackingBatch batch => batch.approvalDigest hash
  | returnBatch batch => batch.approvalDigest hash

/-- The verification that the bridge of the review calls. -/
def verify (reviewed : Reviewed) (presented : Presented) : Checked String := match reviewed with
  | tracking review => (Review.tracking review).verifyFixture hash presented
  | dispatch review => (Review.dispatch review).verifyFixture hash presented
  | split review => Offline.verifySplitReview hash review presented
  | listing review _ => Offline.verifyListingFixtureReview hash review presented
  | returned review => Offline.verifyReturnFixtureReview hash review presented
  | trackingBatch batch => Offline.verifyTrackingBatch hash batch presented
  | returnBatch batch => Offline.verifyReturnBatch hash batch presented

/-- `_target_id` of a split review: its items name one shipment. -/
def splitTarget (review : FixtureSplitReview) : Checked String := match review.items with
  | [] => .error ⟨"split review requires at least one item"⟩
  | first :: rest => do
      Offline.require (∀ item ∈ rest, item.shipmentId = first.shipmentId) "split review must bind one shipment target"
      pure first.shipmentId

/-- `_target_id`; a batch is named by its digest. -/
def targetId : Reviewed → Checked String
  | tracking review => pure review.shipmentId
  | dispatch review => pure review.productOrderId
  | split review => splitTarget review
  | listing _ offerId => pure offerId
  | returned review => pure review.orderId
  | trackingBatch batch => do
      let digest ← batch.approvalDigest hash
      pure ("batch." ++ batch.provider ++ "." ++ digest)
  | returnBatch batch => do
      let digest ← batch.approvalDigest hash
      pure ("batch.return." ++ digest)

def splitItem (item : FixtureSplitItem) : Value := .dict [("vendor_item_id", .text item.vendorItemId),
  ("shipment_id", .text item.shipmentId), ("quantity", .int item.quantity), ("invoice_number", .text item.invoiceNumber),
  ("estimated_shipping_date", .text item.estimatedShippingDate), ("split_shipping", .bool true),
  ("pre_split_shipped", .bool item.preSplitShipped), ("carrier", .text "KDEXP")]

def returnItem (review : FixtureReturnReview) : Checked Value := do
  let digest ← (Review.returned review).approvalDigest hash
  pure (.dict [("fixture_review_digest", .text digest), ("receipt_id", .text review.receiptId),
    ("order_id", .text review.orderId), ("vendor_item_id", .text review.vendorItemId),
    ("cancel_quantity", .int review.cancelQuantity), ("fixture_amount_krw", .int review.fixtureAmountKrw)])

/-- The key under which the projection holds the digest of what has been reviewed. -/
def digestKey : Reviewed → String
  | trackingBatch _ | returnBatch _ => "fixture_batch_digest"
  | tracking _ | dispatch _ | split _ | listing .. | returned _ => "fixture_review_digest"

/-- What `_payload` holds before the digest. -/
def lead : Reviewed → Mapping
  | trackingBatch batch => [("provider", .text batch.provider)]
  | tracking _ | dispatch _ | split _ | listing .. | returned _ | returnBatch _ => []

/-- What `_payload` holds behind the digest. -/
def details : Reviewed → Checked Mapping
  | tracking review => pure [("shipment_id", .text review.shipmentId), ("vendor_item_id", .text review.vendorItemId),
      ("invoice_number", .text review.invoiceNumber), ("carrier", .text review.carrier),
      ("preparation_review_digest", .text review.preparationReviewDigest),
      ("claim_source_digest", .text review.claimSourceDigest)]
  | dispatch review => pure [("product_order_id", .text review.productOrderId),
      ("invoice_number", .text review.invoiceNumber), ("carrier", .text "CJGLS"),
      ("dispatch_date", Service.isoformat review.dispatchDate)]
  | split review => pure [("order_ref", .text review.orderId), ("phase", .text review.phase),
      ("items", .list (review.items.map splitItem)), ("source_digest", .text review.sourceDigest),
      ("claim_digest", .text review.claimDigest), ("preparation_digest", .text review.preparationDigest),
      ("prior_review_digest", review.priorReviewDigest.elim .none .text)]
  | listing review _ => pure [("supplier_sku", .text review.supplierSku), ("price_minor", .int review.priceKrw),
      ("quantity", .int review.quantity)]
  | returned review => pure [("vendor_ref", .text review.vendorRef), ("receipt_id", .text review.receiptId),
      ("shipment_id", .text review.shipmentId), ("vendor_item_id", .text review.vendorItemId),
      ("cancel_quantity", .int review.cancelQuantity), ("fixture_amount_krw", .int review.fixtureAmountKrw),
      ("fixture_amount_cap_krw", .int review.fixtureAmountCapKrw),
      ("withdrawal_review_digest", .text review.withdrawalReviewDigest)]
  | trackingBatch batch => do
      let digests ← batch.reviews.mapM (Review.approvalDigest hash)
      let identities ← Offline.identities batch.provider batch.reviews
      pure [("fixture_review_digests", .list (digests.map .text)), ("tracking_identities", .list (identities.map .text))]
  | returnBatch batch => do
      let items ← batch.reviews.mapM (returnItem hash)
      pure [("vendor_ref", .text batch.vendorRef), ("fixture_amount_krw", .int batch.fixtureAmountKrw), ("items", .list items)]

/-- `_payload`. -/
def payload (reviewed : Reviewed) : Checked Mapping := do
  let digest ← reviewed.approvalDigest hash
  let details ← reviewed.details hash
  pure (("contract", .text reviewed.contract) :: reviewed.lead ++ (reviewed.digestKey, .text digest) :: details)

end

end Reviewed

/-! ## The bridges -/

section

variable (env : Env) (hash : String → String) (spelled : Uuid → String)

/-- `_verify`; the tenant's id is compared as the text it is. -/
def verifyReviewed (context : TenantContext) (reviewed : Reviewed) (connectionRef : String) : Op Unit := do
  let approvalDigest ← quarantined (reviewed.approvalDigest hash)
  let now ← now env
  let _ ← quarantined (reviewed.verify hash
    { approvalDigest, tenantRef := spelled context.tenantId, connectionRef, now := some now })
  pure ()

/-- `request_*_approval`. -/
def requestReviewed (context : TenantContext) (reviewed : Reviewed) (connectionRef idempotencyKey : String)
    (policyVersion targetVersion : Int) : Op (Command × Approval) := do
  verifyReviewed env hash spelled context reviewed connectionRef
  let targetId ← quarantined (reviewed.targetId hash)
  let payload ← quarantined (reviewed.payload hash)
  requestApproval env context reviewed.kind (.text (reviewed.targetType ++ ":" ++ targetId)) payload
    (.text idempotencyKey) policyVersion targetVersion [reviewed.evidence connectionRef]

def reviewedSubmission (reviewed : Reviewed) (targetId : String) (payload : Mapping) (approvalId : Ident)
    (idempotencyKey : String) (policyVersion : Int) : ToolSubmission where
  actorType := "workflow"
  actorId := reviewed.actorId
  tool := reviewed.tool
  targetType := reviewed.targetType
  targetId := targetId
  input := payload
  idempotencyKey := idempotencyKey
  requestedPolicyVersion := policyVersion
  approvalId := some approvalId

/-- `submit_approved_*`. -/
def submitReviewed (context : TenantContext) (reviewed : Reviewed) (connectionRef : String) (approvalId : Ident)
    (idempotencyKey : String) (policyVersion : Int) : Op ToolReply := do
  verifyReviewed env hash spelled context reviewed connectionRef
  let targetId ← quarantined (reviewed.targetId hash)
  let payload ← quarantined (reviewed.payload hash)
  submitDemoTool env context (reviewedSubmission reviewed targetId payload approvalId idempotencyKey policyVersion)

/-- Either tracking review: `request_tracking_approval` and `submit_approved_tracking` take both. -/
def trackingReviewed : FixtureTrackingReview ⊕ FixtureNaverDispatchReview → Reviewed
  | .inl review => .tracking review
  | .inr review => .dispatch review

def requestTrackingApproval (context : TenantContext) (review : FixtureTrackingReview ⊕ FixtureNaverDispatchReview) :
    String → String → Int → Int → Op (Command × Approval) :=
  requestReviewed env hash spelled context (trackingReviewed review)

def submitApprovedTracking (context : TenantContext) (review : FixtureTrackingReview ⊕ FixtureNaverDispatchReview) :
    String → Ident → String → Int → Op ToolReply :=
  submitReviewed env hash spelled context (trackingReviewed review)

def requestSplitTrackingApproval (context : TenantContext) (review : FixtureSplitReview) :
    String → String → Int → Int → Op (Command × Approval) :=
  requestReviewed env hash spelled context (.split review)

def submitApprovedSplitTracking (context : TenantContext) (review : FixtureSplitReview) :
    String → Ident → String → Int → Op ToolReply :=
  submitReviewed env hash spelled context (.split review)

def requestListingApproval (context : TenantContext) (review : FixtureListingReview) (offerId : String) :
    String → String → Int → Int → Op (Command × Approval) :=
  requestReviewed env hash spelled context (.listing review offerId)

def submitApprovedListing (context : TenantContext) (review : FixtureListingReview) (offerId : String) :
    String → Ident → String → Int → Op ToolReply :=
  submitReviewed env hash spelled context (.listing review offerId)

def requestReturnApproval (context : TenantContext) (review : FixtureReturnReview) :
    String → String → Int → Int → Op (Command × Approval) :=
  requestReviewed env hash spelled context (.returned review)

def submitApprovedReturn (context : TenantContext) (review : FixtureReturnReview) :
    String → Ident → String → Int → Op ToolReply :=
  submitReviewed env hash spelled context (.returned review)

def requestTrackingBatchApproval (context : TenantContext) (batch : FixtureTrackingBatch) :
    String → String → Int → Int → Op (Command × Approval) :=
  requestReviewed env hash spelled context (.trackingBatch batch)

def submitApprovedTrackingBatch (context : TenantContext) (batch : FixtureTrackingBatch) :
    String → Ident → String → Int → Op ToolReply :=
  submitReviewed env hash spelled context (.trackingBatch batch)

def requestReturnBatchApproval (context : TenantContext) (batch : FixtureReturnBatch) :
    String → String → Int → Int → Op (Command × Approval) :=
  requestReviewed env hash spelled context (.returnBatch batch)

def submitApprovedReturnBatch (context : TenantContext) (batch : FixtureReturnBatch) :
    String → Ident → String → Int → Op ToolReply :=
  submitReviewed env hash spelled context (.returnBatch batch)

end

end AiStore.Gateway
