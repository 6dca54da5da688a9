import Mathlib.Data.List.Sort
import AiStore.Offline.Price
import AiStore.Offline.Reviews

/-! The builders of the order, split, catalog and return reviews. -/

set_option autoImplicit false

namespace AiStore.Offline

open Library

/-! ## What builders check alike -/

def freshnessPolicy (maxAgeSeconds : Int) : Checked Unit :=
  require (1 ≤ maxAgeSeconds ∧ maxAgeSeconds ≤ 3600) "invalid_freshness_policy"

/-- The observation is fresh, and the review expires before it no longer is. -/
def freshFor (stale : String) (now expiresAt : Timestamp) (maxAgeSeconds : Int) (observed : Timestamp) : Checked Unit := do
  require (observed ≤ now ∧ now < observed.addSeconds maxAgeSeconds) stale
  require (now < expiresAt ∧ expiresAt ≤ observed.addSeconds maxAgeSeconds) "invalid_review_expiry"

/-- `[0-9]{1,40}`. -/
def invoice (value : String) : Checked String := do
  require (1 ≤ value.length ∧ value.length ≤ 40 ∧ value.toList.all Char.isDigit = true) "invalid_fixture_invoice"
  pure value

/-- The one element of a list, or the reason. -/
def single {α : Type} (reason : String) : List α → Checked α
  | [item] => pure item
  | _ => .error ⟨reason⟩

/-- `value.replace("Z", "+00:00")`. -/
def zuluOffset (value : String) : String :=
  String.ofList (value.toList.flatMap fun c => if c = 'Z' then "+00:00".toList else [c])

/-! ## Claims -/

structure OfflineClaimLine where
  receiptId : String
  orderId : String
  shipmentId : String
  vendorItemId : String
  receiptType : String
  receiptStatus : String
  purchaseQuantity : Int
  cancelQuantity : Int
  preRefundObserved : Bool

structure OfflineClaimPage where
  lines : List OfflineClaimLine
  sourceDigest : String
  nextCursor : Option String

/-! ## Tracking and dispatch -/

structure TrackingRequest where
  page : OfflineOrderPage
  tenantRef : String
  connectionRef : String
  orderId : String
  shipmentId : String
  vendorItemId : String
  invoiceNumber : String
  observedAt : Option Timestamp
  now : Option Timestamp
  reviewExpiresAt : Option Timestamp
  preparationReviewDigest : String
  postPreparationReviewed : Bool
  claimPage : OfflineClaimPage
  claimsObservedAt : Option Timestamp
  maxAgeSeconds : Int

/-- The one line of the shipment, and what is asked of it. -/
def trackedLine (request : TrackingRequest) : Checked OfflineOrderSnapshot := do
  let line ← single "single_item_shipment_required"
    (request.page.snapshots.filter fun line => line.shipmentId = some request.shipmentId)
  require (line.provider = "coupang" ∧ line.orderId = request.orderId ∧ line.productId = request.vendorItemId)
    "external_identity_mismatch"
  require (line.status = "INSTRUCT" ∧ line.claimReviewRequired = false ∧ 0 < line.remainingQuantity)
    "shipment_state_review_required"
  pure line

/-- `build_coupang_tracking_review`. -/
def buildCoupangTrackingReview (request : TrackingRequest) : Checked FixtureTrackingReview := do
  require (request.page.provider = "coupang") "coupang_page_required"
  freshnessPolicy request.maxAgeSeconds
  let now ← aware request.now
  let observedAt ← aware request.observedAt
  let reviewExpiresAt ← aware request.reviewExpiresAt
  freshFor "stale_or_future_observation" now reviewExpiresAt request.maxAgeSeconds observedAt
  require (request.postPreparationReviewed = true) "post_preparation_review_required"
  require (request.claimPage.nextCursor = none) "complete_claim_fixture_required"
  let claimsObservedAt ← aware request.claimsObservedAt
  require (claimsObservedAt ≤ now ∧ now < claimsObservedAt.addSeconds request.maxAgeSeconds)
    "stale_or_future_claim_observation"
  require (reviewExpiresAt ≤ claimsObservedAt.addSeconds request.maxAgeSeconds) "claim_review_expiry_exceeded"
  require (∀ claim ∈ request.claimPage.lines, ¬ (claim.orderId = request.orderId ∧ claim.vendorItemId = request.vendorItemId))
    "separate_claim_feed_requires_review"
  let tenantRef ← ref request.tenantRef
  let connectionRef ← ref request.connectionRef
  let orderId ← ref request.orderId
  let shipmentId ← ref request.shipmentId
  let vendorItemId ← ref request.vendorItemId
  let invoiceNumber ← invoice request.invoiceNumber
  let _ ← trackedLine request
  let sourceDigest ← hashRef request.page.sourceDigest
  let preparationReviewDigest ← hashRef request.preparationReviewDigest
  let claimSourceDigest ← hashRef request.claimPage.sourceDigest
  pure {
    tenantRef, connectionRef, orderId, shipmentId, vendorItemId, invoiceNumber, sourceDigest, preparationReviewDigest
    claimSourceDigest, claimsObservedAt, observedAt, reviewExpiresAt, carrier := "KDEXP" }

structure DispatchRequest where
  body : Json
  tenantRef : String
  connectionRef : String
  productOrderId : String
  invoiceNumber : String
  observedAt : Option Timestamp
  now : Option Timestamp
  reviewExpiresAt : Option Timestamp
  dispatchDate : Option Timestamp
  maxAgeSeconds : Int

def textIs (expected : String) : Json → Bool
  | .text value => value = expected
  | _ => false

def intIs (expected : Int) : Json → Bool
  | .int value => value = expected
  | _ => false

/-- `str` of an integer. -/
def str (number : Int) : String := .ofList (Json.digits number)

section

variable (hash : String → String) (fromisoformat : String → Option (Option Timestamp))

/-- The confirmation time of the order; a text without a zone is read, and then refused. -/
def confirmedAt : Json → Checked Timestamp
  | .text value => match fromisoformat (zuluOffset value) with
      | none => .error ⟨"invalid_order_confirmation_time"⟩
      | some read => aware read
  | _ => .error ⟨"invalid_order_confirmation_time"⟩

/-- What is asked of the first line, and of the row that it was read from. -/
def dispatchableRow (page : OfflineOrderPage) (body : Json) : Checked Entries := do
  let line ← match page.snapshots with
    | line :: _ => pure line
    -- never: the page covers the one id that was requested
    | [] => .error ⟨"IndexError"⟩
  let entries ← object body
  let data ← rowsOf 300 (get entries "data")
  let row ← object (data.headD .null)
  let product ← object (get row "productOrder")
  require (line.status = "PAYED" ∧ line.claimReviewRequired = false ∧ 0 < line.remainingQuantity)
    "shipment_state_review_required"
  require (textIs "OK" (get product "placeOrderStatus") = true) "order_confirmation_required"
  pure product

/-- `build_naver_dispatch_review`. -/
def buildNaverDispatchReview (request : DispatchRequest) : Checked FixtureNaverDispatchReview := do
  let tenantRef ← ref request.tenantRef
  let connectionRef ← ref request.connectionRef
  let productOrderId ← ref request.productOrderId
  let page ← parseNaverDetails hash request.body [request.productOrderId]
  let now ← aware request.now
  let observedAt ← aware request.observedAt
  let reviewExpiresAt ← aware request.reviewExpiresAt
  let dispatchDate ← aware request.dispatchDate
  freshnessPolicy request.maxAgeSeconds
  freshFor "stale_or_future_observation" now reviewExpiresAt request.maxAgeSeconds observedAt
  let invoiceNumber ← invoice request.invoiceNumber
  let product ← dispatchableRow page request.body
  let confirmed ← confirmedAt fromisoformat (get product "placeOrderDate")
  require (confirmed ≤ dispatchDate ∧ dispatchDate ≤ observedAt) "dispatch_time_invalid"
  pure {
    tenantRef, connectionRef, productOrderId, invoiceNumber, sourceDigest := page.sourceDigest
    observedAt, reviewExpiresAt, dispatchDate }

end

/-! ## Split shipments -/

/-- The complete two-item order, and the times behind it. -/
structure SplitSources where
  lines : List OfflineOrderSnapshot
  observedAt : Timestamp
  claimsObservedAt : Timestamp
  now : Timestamp
  expiresAt : Timestamp

structure SplitTimes where
  observedAt : Option Timestamp
  claimsObservedAt : Option Timestamp
  now : Option Timestamp
  expiresAt : Option Timestamp
  maxAgeSeconds : Int

/-- `_sources`. -/
def sources (page : OfflineOrderPage) (claims : OfflineClaimPage) (orderId : String) (times : SplitTimes) :
    Checked SplitSources := do
  require (page.provider = "coupang" ∧ page.nextCursor = none) "complete_split_order_fixture_required"
  require (claims.nextCursor = none) "complete_claim_fixture_required"
  require (∀ line ∈ claims.lines, line.orderId ≠ orderId) "separate_claim_feed_requires_review"
  let observedAt ← aware times.observedAt
  let claimsObservedAt ← aware times.claimsObservedAt
  let now ← aware times.now
  let expiresAt ← aware times.expiresAt
  freshnessPolicy times.maxAgeSeconds
  freshFor "stale_or_future_observation" now expiresAt times.maxAgeSeconds observedAt
  freshFor "stale_or_future_observation" now expiresAt times.maxAgeSeconds claimsObservedAt
  let lines := page.snapshots.filter fun line => line.orderId = orderId
  require (lines.length = 2 ∧ (lines.map OfflineOrderSnapshot.productId).Nodup ∧ ∀ line ∈ lines,
      line.claimReviewRequired = false ∧ 0 < line.remainingQuantity ∧ line.initialQuantity = line.remainingQuantity)
    "two_complete_unclaimed_items_required"
  pure { lines, observedAt, claimsObservedAt, now, expiresAt }

/-- The number of a text of digits. -/
def digitsValue (digits : List Char) : Option Nat :=
  if digits.all Char.isDigit then some (digits.foldl (fun value c => 10 * value + (c.toNat - '0'.toNat)) 0) else none

def daysInMonth (year month : Nat) : Nat :=
  if month = 2 then if year % 4 = 0 ∧ (year % 100 ≠ 0 ∨ year % 400 = 0) then 29 else 28
  else if month ∈ [4, 6, 9, 11] then 30 else 31

/-- Days since the epoch, on the proleptic Gregorian calendar. -/
def dayNumber (year month day : Nat) : Int :=
  let years : Int := if month ≤ 2 then year - 1 else year
  let march := if month ≤ 2 then month + 9 else month - 3
  let yearOfEra := years % 400
  let dayOfYear : Int := (153 * march + 2) / 5 + day - 1
  years / 400 * 146097 + yearOfEra * 365 + yearOfEra / 4 - yearOfEra / 100 + dayOfYear - 719468

/-- The year and the day of a text `YYYY-MM-DD`, the only one that `date.fromisoformat` reads and that is its own
`isoformat`. -/
def isoDate : List Char → Option (Nat × Int)
  | [a, b, c, d, '-', e, f, '-', g, h] => do
      let year ← digitsValue [a, b, c, d]
      let month ← digitsValue [e, f]
      let day ← digitsValue [g, h]
      if 1 ≤ year ∧ 1 ≤ month ∧ month ≤ 12 ∧ 1 ≤ day ∧ day ≤ daysInMonth year month
      then some (year, dayNumber year month day) else none
  | _ => none

/-- The date nine hours east of UTC, in days since the epoch. -/
def koreanDay (time : Timestamp) : Int := (time.instant + 9 * 3600 * 1000000) / 86400000000

def deferredDay (text : String) : Checked Int := match isoDate text.toList with
  | some (_, day) => pure day
  | none => .error ⟨"invalid_deferred_date"⟩

structure InitialSplitRequest where
  page : OfflineOrderPage
  claims : OfflineClaimPage
  tenantRef : String
  connectionRef : String
  orderId : String
  shipmentId : String
  shippingItemId : String
  invoiceNumber : String
  deferredDate : String
  preparationDigest : String
  postPreparationReviewed : Bool
  times : SplitTimes

def initialItems (request : InitialSplitRequest) (lines : List OfflineOrderSnapshot) : List FixtureSplitItem :=
  (lines.insertionSort fun first second => first.productId ≤ second.productId).map fun line => {
    vendorItemId := line.productId
    shipmentId := request.shipmentId
    quantity := line.remainingQuantity
    invoiceNumber := if line.productId = request.shippingItemId then request.invoiceNumber else ""
    estimatedShippingDate := if line.productId = request.shippingItemId then "" else request.deferredDate
    preSplitShipped := false }

section

variable (hash : String → String)

/-- `build_initial_split_review`. -/
def buildInitialSplitReview (request : InitialSplitRequest) : Checked FixtureSplitReview := do
  let tenantRef ← ref request.tenantRef
  let connectionRef ← ref request.connectionRef
  let orderId ← ref request.orderId
  let shipmentId ← ref request.shipmentId
  let shippingItemId ← ref request.shippingItemId
  let found ← sources request.page request.claims orderId request.times
  require (request.postPreparationReviewed = true) "post_preparation_review_required"
  require (∀ line ∈ found.lines, line.shipmentId = some shipmentId ∧ line.status = "INSTRUCT") "initial_split_state_mismatch"
  require (shippingItemId ∈ found.lines.map OfflineOrderSnapshot.productId) "split_item_identity_mismatch"
  let _ ← invoice request.invoiceNumber
  let deferred ← deferredDay request.deferredDate
  require (koreanDay found.now ≤ deferred ∧ deferred ≤ koreanDay found.now + 7) "deferred_date_outside_fixture_window"
  let sourceDigest ← hashRef request.page.sourceDigest
  let claimDigest ← hashRef request.claims.sourceDigest
  let preparationDigest ← hashRef request.preparationDigest
  pure {
    tenantRef, connectionRef, orderId, phase := "INITIAL", items := initialItems request found.lines
    sourceDigest, claimDigest, preparationDigest, priorReviewDigest := none
    observedAt := found.observedAt, claimsObservedAt := found.claimsObservedAt
    createdAt := found.now, expiresAt := found.expiresAt }

structure FollowupSplitRequest where
  prior : FixtureSplitReview
  page : OfflineOrderPage
  claims : OfflineClaimPage
  priorApprovalDigest : String
  tenantRef : String
  connectionRef : String
  invoiceNumber : String
  preparationDigest : String
  postPreparationReviewed : Bool
  times : SplitTimes

/-- The line of an item, among the two of the order. -/
def lineOf (lines : List OfflineOrderSnapshot) (item : FixtureSplitItem) : Checked OfflineOrderSnapshot :=
  match lines.find? fun line => line.productId = item.vendorItemId with
  | some line => pure line
  | none => .error ⟨"split_item_identity_mismatch"⟩

/-- The item that is sent now: the two items of the first review, found again in the order. -/
def remappedItem (request : FollowupSplitRequest) (lines : List OfflineOrderSnapshot) : Checked FixtureSplitItem := do
  let sent ← single "initial_split_review_required" (request.prior.items.filter fun item => item.invoiceNumber ≠ "")
  let deferred ← single "initial_split_review_required"
    (request.prior.items.filter fun item => item.estimatedShippingDate ≠ "")
  require (∀ line ∈ lines, line.productId = sent.vendorItemId ∨ line.productId = deferred.vendorItemId)
    "split_item_identity_mismatch"
  let shipped ← lineOf lines sent
  let waiting ← lineOf lines deferred
  require (shipped.shipmentId ≠ some sent.shipmentId ∧ shipped.status ∈ ["DEPARTURE", "DELIVERING", "FINAL_DELIVERY"] ∧
      shipped.remainingQuantity = sent.quantity ∧ waiting.shipmentId = some deferred.shipmentId ∧
      waiting.status = "INSTRUCT" ∧ waiting.remainingQuantity = deferred.quantity)
    "split_remapping_reconciliation_required"
  let invoiceNumber ← invoice request.invoiceNumber
  require (invoiceNumber ≠ sent.invoiceNumber) "split_invoice_reuse_requires_review"
  pure {
    vendorItemId := waiting.productId, shipmentId := deferred.shipmentId, quantity := waiting.remainingQuantity
    invoiceNumber, estimatedShippingDate := "", preSplitShipped := true }

/-- `build_followup_split_review`. -/
def buildFollowupSplitReview (request : FollowupSplitRequest) : Checked FixtureSplitReview := do
  require (request.prior.phase = "INITIAL" ∧ request.prior.items.length = 2) "initial_split_review_required"
  require (request.tenantRef = request.prior.tenantRef ∧ request.connectionRef = request.prior.connectionRef)
    "approval_scope_mismatch"
  let shown ← hashRef request.priorApprovalDigest
  let approved ← (Review.split request.prior).approvalDigest hash
  require (shown = approved) "approval_digest_mismatch"
  let found ← sources request.page request.claims request.prior.orderId request.times
  require (request.postPreparationReviewed = true ∧ request.prior.createdAt ≤ found.observedAt) "fresh_post_split_review_required"
  let item ← remappedItem request found.lines
  let sourceDigest ← hashRef request.page.sourceDigest
  let claimDigest ← hashRef request.claims.sourceDigest
  let preparationDigest ← hashRef request.preparationDigest
  pure {
    tenantRef := request.tenantRef, connectionRef := request.connectionRef, orderId := request.prior.orderId
    phase := "FOLLOWUP", items := [item], sourceDigest, claimDigest, preparationDigest
    priorReviewDigest := some approved, observedAt := found.observedAt, claimsObservedAt := found.claimsObservedAt
    createdAt := found.now, expiresAt := found.expiresAt }

end

/-! ## Returns -/

structure ReturnRequest where
  page : OfflineClaimPage
  tenantRef : String
  connectionRef : String
  vendorRef : String
  receiptId : String
  orderId : String
  shipmentId : String
  vendorItemId : String
  cancelQuantity : Int
  fixtureAmountKrw : Int
  fixtureAmountCapKrw : Int
  withdrawalReviewDigest : String
  withdrawalReviewed : Bool
  observedAt : Option Timestamp
  withdrawalObservedAt : Option Timestamp
  now : Option Timestamp
  expiresAt : Option Timestamp
  maxAgeSeconds : Int

/-- `_one_receipt`. -/
def oneReceipt (page : OfflineClaimPage) (receiptId : String) : Checked OfflineClaimLine := do
  require (page.nextCursor = none) "complete_claim_fixture_required"
  single "single_exact_receipt_line_required" (page.lines.filter fun line => line.receiptId = receiptId)

/-- The line of the receipt, and what is asked of it. -/
def returnableLine (request : ReturnRequest) : Checked OfflineClaimLine := do
  let line ← oneReceipt request.page request.receiptId
  require (line.orderId = request.orderId ∧ line.shipmentId = request.shipmentId ∧ line.vendorItemId = request.vendorItemId)
    "return_identity_mismatch"
  require (line.receiptType = "RETURN" ∧ line.receiptStatus = "VENDOR_WAREHOUSE_CONFIRM" ∧ line.preRefundObserved = false)
    "return_state_requires_reconciliation"
  let cancelQuantity ← positiveInteger request.cancelQuantity
  require (cancelQuantity = line.cancelQuantity) "return_quantity_mismatch"
  pure line

/-- `build_coupang_return_review`. -/
def buildCoupangReturnReview (request : ReturnRequest) : Checked FixtureReturnReview := do
  let tenantRef ← ref request.tenantRef
  let connectionRef ← ref request.connectionRef
  let vendorRef ← ref request.vendorRef
  let receiptId ← ref request.receiptId
  let orderId ← ref request.orderId
  let shipmentId ← ref request.shipmentId
  let vendorItemId ← ref request.vendorItemId
  let line ← returnableLine request
  let fixtureAmountKrw ← positiveInteger request.fixtureAmountKrw
  let fixtureAmountCapKrw ← positiveInteger request.fixtureAmountCapKrw
  require (fixtureAmountKrw ≤ fixtureAmountCapKrw) "fixture_return_amount_cap_exceeded"
  require (request.withdrawalReviewed = true) "withdrawal_review_required"
  let withdrawalReviewDigest ← hashRef request.withdrawalReviewDigest
  let now ← aware request.now
  let observedAt ← aware request.observedAt
  let withdrawalObservedAt ← aware request.withdrawalObservedAt
  let expiresAt ← aware request.expiresAt
  freshnessPolicy request.maxAgeSeconds
  freshFor "stale_or_future_claim_observation" now expiresAt request.maxAgeSeconds observedAt
  freshFor "stale_or_future_claim_observation" now expiresAt request.maxAgeSeconds withdrawalObservedAt
  let sourceDigest ← hashRef request.page.sourceDigest
  pure {
    tenantRef, connectionRef, vendorRef, receiptId, orderId, shipmentId, vendorItemId
    cancelQuantity := request.cancelQuantity, purchaseQuantity := line.purchaseQuantity
    fixtureAmountKrw, fixtureAmountCapKrw, sourceDigest, withdrawalReviewDigest
    observedAt, withdrawalObservedAt, createdAt := now, expiresAt }

end AiStore.Offline
