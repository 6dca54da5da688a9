import AiStore.Offline.Builders

/-! The builders of the catalog and listing reviews, from a supplier report. -/

set_option autoImplicit false

namespace AiStore.Offline

open Library

structure SupplierFileRow where
  supplierSku : String
  quantity : Int
  unitCostMinor : Int
  currency : String
  observedAt : String
  rowDigest : String

structure SupplierImportReport where
  supplierRef : String
  sourceDigest : String
  rows : List SupplierFileRow
  /-- The codes of the rejected rows. -/
  errors : List String

def SupplierImportReport.ready (report : SupplierImportReport) : Bool := !report.rows.isEmpty && report.errors.isEmpty

/-- The costs and quantities that bound what is proposed. -/
structure SalePolicy where
  reservedQuantity : Int
  safetyBuffer : Int
  quantityCap : Int
  variableCostMinor : Int
  feeRate : FeeRate
  maxAgeSeconds : Int

/-- `str` of a decimal, as the parts it spells. -/
def decimalText (rate : Decimal) : Json := .list [.bool rate.negative, .int rate.coefficient, .int rate.exponent]

/-- The price calculation, of which only a margin above the threshold is accepted. -/
def projectedPrice (price unitCostMinor : Int) (policy : SalePolicy) : Checked DemoPriceCalculation := do
  let projection ← match calculateDemoPrice price unitCostMinor policy.variableCostMinor policy.feeRate with
    | .ok projection => pure projection
    | .error (.conflict _) => .error ⟨"invalid_fixture_cost_policy"⟩
    -- an error of the decimals is not caught, but it is no review either
    | .error .invalidOperation => .error ⟨"InvalidOperation"⟩
  require (projection.status = .ready) "projected_margin_below_threshold"
  pure projection

section

variable (fromisoformat : String → Option (Option Timestamp))

/-- A text without a zone is refused like one that cannot be read. -/
def supplierTime (row : SupplierFileRow) : Checked Timestamp := match fromisoformat (zuluOffset row.observedAt) with
  | some (some time) => pure time
  | _ => .error ⟨"invalid_supplier_timestamp"⟩

end

/-! ## Catalog changes -/

structure CatalogRequest where
  body : Json
  report : SupplierImportReport
  tenantRef : String
  connectionRef : String
  vendorItemId : Int
  supplierSku : String
  mappingDigest : String
  kind : String
  proposedValue : Int
  channelObservedAt : Option Timestamp
  now : Option Timestamp
  expiresAt : Option Timestamp
  policy : SalePolicy

structure CatalogListing where
  quantity : Int
  price : Int
  onSale : Bool

/-- `_inventory`. -/
def inventory (body : Json) (expectedId : Int) : Checked CatalogListing := do
  let expected ← positiveInteger expectedId
  let data ← match body with
    | .object entries => match textIs "SUCCESS" (get entries "code"), get entries "data" with
        | true, .object data => pure data
        | _, _ => .error ⟨"invalid_catalog_response"⟩
    | _ => .error ⟨"invalid_catalog_response"⟩
  let sellerItemId ← positiveField (get data "sellerItemId")
  require (sellerItemId = expected) "catalog_identity_mismatch"
  let quantity ← integerField (get data "amountInStock")
  let price ← positiveField (get data "salePrice")
  match get data "onSale" with
  | .bool onSale => pure { quantity, price, onSale }
  | _ => .error ⟨"invalid_catalog_sale_state"⟩

/-- The one supplier row of a catalog change. -/
def catalogRow (report : SupplierImportReport) (supplierSku : String) : Checked SupplierFileRow := do
  require (report.ready = true) "ready_supplier_report_required"
  let row ← single "supplier_row_unavailable" (report.rows.filter fun row => row.supplierSku = supplierSku)
  require (row.currency = "KRW") "supplier_row_unavailable"
  pure row

/-- The change against the stock and the price of the channel and of the supplier, and the digest of the policy. -/
def catalogPolicy (hash : String → String) (request : CatalogRequest) (row : SupplierFileRow) (listed : CatalogListing) :
    Checked String := do
  require (listed.onSale = true) "stopped_listing_requires_review"
  let reservedQuantity ← integer request.policy.reservedQuantity
  let safetyBuffer ← integer request.policy.safetyBuffer
  let quantityCap ← integer request.policy.quantityCap
  let available := max 0 (row.quantity - reservedQuantity - safetyBuffer)
  let proposedPrice := if request.kind = "PRICE" then request.proposedValue else listed.price
  require (request.kind = "PRICE" → 0 < request.proposedValue ∧ request.proposedValue % 10 = 0 ∧
      listed.price ≤ request.proposedValue * 2 ∧ request.proposedValue ≤ listed.price * 2)
    "price_step_or_default_range_violation"
  require (request.kind = "QUANTITY" → request.proposedValue ≤ min available quantityCap) "quantity_exceeds_fixture_availability"
  let projection ← projectedPrice proposedPrice row.unitCostMinor request.policy
  digestOf hash (.object [("reserved_quantity", .int reservedQuantity), ("safety_buffer", .int safetyBuffer),
    ("quantity_cap", .int quantityCap), ("max_age_seconds", .int request.policy.maxAgeSeconds),
    ("variable_cost_minor", .int request.policy.variableCostMinor), ("fee_rate", decimalText projection.feeRate),
    ("supplier_row_digest", .text row.rowDigest)])

section

variable (hash : String → String) (fromisoformat : String → Option (Option Timestamp))

/-- `build_coupang_catalog_review`. -/
def buildCoupangCatalogReview (request : CatalogRequest) : Checked FixtureCatalogReview := do
  let tenantRef ← ref request.tenantRef
  let connectionRef ← ref request.connectionRef
  let supplierSku ← ref request.supplierSku
  let mappingDigest ← hashRef request.mappingDigest
  require (request.kind = "PRICE" ∨ request.kind = "QUANTITY") "unsupported_catalog_change"
  let proposedValue ← integer request.proposedValue
  let row ← catalogRow request.report supplierSku
  let now ← aware request.now
  let channelObservedAt ← aware request.channelObservedAt
  let expiresAt ← aware request.expiresAt
  let supplierObservedAt ← supplierTime fromisoformat row
  freshnessPolicy request.policy.maxAgeSeconds
  freshFor "stale_or_future_observation" now expiresAt request.policy.maxAgeSeconds channelObservedAt
  freshFor "stale_or_future_observation" now expiresAt request.policy.maxAgeSeconds supplierObservedAt
  let listed ← inventory request.body request.vendorItemId
  let policyDigest ← catalogPolicy hash request row listed
  let sourceDigest ← digestOf hash request.body
  let supplierDigest ← hashRef request.report.sourceDigest
  pure {
    tenantRef, connectionRef, vendorItemId := request.vendorItemId, supplierRef := request.report.supplierRef, supplierSku
    kind := request.kind, beforeValue := if request.kind = "PRICE" then listed.price else listed.quantity, proposedValue
    sourceDigest, supplierDigest, mappingDigest, policyDigest, createdAt := now, expiresAt }

end

/-! ## Listings -/

/-- `_keys`. -/
def keysAre (entries : Entries) (keys : List String) : Checked Unit :=
  require (entries.map Prod.fst ⊆ keys ∧ keys ⊆ entries.map Prod.fst) "unsupported_or_missing_listing_field"

/-- The same text, number or flag. -/
def sameLeaf : Json → Json → Bool
  | .text value, .text expected => value = expected
  | .int value, .int expected => value = expected
  | .bool value, .bool expected => value = expected
  | _, _ => false

/-- `_exact`. -/
def exactly (entries : Entries) (expected : Entries) : Checked Unit :=
  require (expected.all (fun entry => sameLeaf (get entries entry.1) entry.2) = true) "unsupported_listing_variant"

/-- The year, and the seconds since the epoch, of a text `YYYY-MM-DDTHH:MM:SS`. Years below 1000 are not written with
four digits by `strftime`. -/
def saleTime (text : String) : Option (Nat × Int) :=
  match text.toList.drop 10 with
  | ['T', a, b, ':', c, d, ':', e, f] => do
      let (year, day) ← isoDate (text.toList.take 10)
      let hour ← digitsValue [a, b]
      let minute ← digitsValue [c, d]
      let second ← digitsValue [e, f]
      if 1000 ≤ year ∧ hour ≤ 23 ∧ minute ≤ 59 ∧ second ≤ 59
      then some (year, 86400 * day + 3600 * hour + 60 * minute + second) else none
  | _ => none

section

variable (printable : String → Bool)

/-- `_text`. -/
def textField (maximum : Nat) : Json → Checked String
  | .text value => do
      require (Service.blank value = false ∧ value.length ≤ maximum ∧ printable value = true) "invalid_listing_text"
      pure value
  | _ => .error ⟨"invalid_listing_text"⟩

def textFields (maximum : Nat) : List Json → Checked (List String)
  | [] => pure []
  | item :: rest => do
      let first ← textField printable maximum item
      let others ← textFields maximum rest
      pure (first :: others)

def shippingKeys : List String :=
  ["displayCategoryCode", "sellerProductName", "vendorId", "saleStartedAt", "saleEndedAt", "deliveryMethod",
    "deliveryCompanyCode", "deliveryChargeType", "deliveryCharge", "freeShipOverAmount", "deliveryChargeOnReturn",
    "remoteAreaDeliverable", "unionDeliveryType", "returnCenterCode", "returnChargeName", "companyContactNumber",
    "returnZipCode", "returnAddress", "returnAddressDetail", "returnCharge", "outboundShippingPlaceCode", "vendorUserId",
    "requested", "items"]

/-- The shipping half of a listing body. -/
def shippingFields (body : Entries) (vendorId : String) : Checked Unit := do
  keysAre body shippingKeys
  exactly body [("vendorId", .text vendorId), ("deliveryMethod", .text "SEQUENCIAL"), ("deliveryCompanyCode", .text "KDEXP"),
    ("deliveryChargeType", .text "FREE"), ("deliveryCharge", .int 0), ("freeShipOverAmount", .int 0),
    ("remoteAreaDeliverable", .text "N"), ("unionDeliveryType", .text "NOT_UNION_DELIVERY"), ("requested", .bool false)]
  let _ ← textField printable 100 (get body "sellerProductName")
  let _ ← textFields printable 200 (["returnCenterCode", "returnChargeName", "companyContactNumber", "returnZipCode",
    "returnAddress", "returnAddressDetail", "vendorUserId"].map (get body))
  let _ ← positiveField (get body "outboundShippingPlaceCode")
  let outboundFee ← positiveField (get body "deliveryChargeOnReturn")
  let returnFee ← positiveField (get body "returnCharge")
  require (outboundFee ≤ returnFee ∧ returnFee * 2 ≤ outboundFee * 3) "invalid_fixture_return_charge"

def saleField (body : Entries) (key : String) : Checked (Nat × Int) := do
  let raw ← textField printable 19 (get body key)
  match saleTime raw with
  | some time => pure time
  | none => .error ⟨"invalid_listing_sale_window"⟩

def saleWindow (body : Entries) : Checked Unit := do
  let started ← saleField printable body "saleStartedAt"
  let ended ← saleField printable body "saleEndedAt"
  require (started.2 < ended.2 ∧ ended.1 ≤ 2099) "invalid_listing_sale_window"

/-- What the category asks for. -/
structure Category where
  attributes : List String
  notices : List String

def category (body metadata : Entries) : Checked Category := do
  keysAre metadata ["fixtureSchema", "categoryCode", "requiredAttributes", "noticeCategory", "requiredNotices",
    "certificationRequired"]
  exactly metadata [("fixtureSchema", .text "listing-category-v1"), ("certificationRequired", .bool false)]
  let displayed ← positiveField (get body "displayCategoryCode")
  let code ← positiveField (get metadata "categoryCode")
  require (displayed = code) "listing_category_mismatch"
  let attributeRows ← rowsOf 50 (get metadata "requiredAttributes")
  let attributes ← textFields printable 25 attributeRows
  let noticeRows ← rowsOf 50 (get metadata "requiredNotices")
  let notices ← textFields printable 200 noticeRows
  require (attributes ≠ [] ∧ notices ≠ [] ∧ attributes.Nodup ∧ notices.Nodup) "invalid_fixture_category_requirements"
  pure { attributes, notices }

def attributeNames : List Json → Checked (List String)
  | [] => pure []
  | item :: rest => do
      let named ← object item
      keysAre named ["attributeTypeName", "attributeValueName"]
      let name ← textField printable 25 (get named "attributeTypeName")
      let _ ← textField printable 30 (get named "attributeValueName")
      let others ← attributeNames rest
      pure (name :: others)

def noticeNames (metadata : Entries) : List Json → Checked (List String)
  | [] => pure []
  | item :: rest => do
      let notice ← object item
      keysAre notice ["noticeCategoryName", "noticeCategoryDetailName", "content"]
      let shown ← textField printable 200 (get notice "noticeCategoryName")
      let expected ← textField printable 200 (get metadata "noticeCategory")
      require (shown = expected) "listing_notice_category_mismatch"
      let name ← textField printable 200 (get notice "noticeCategoryDetailName")
      let _ ← textField printable 2000 (get notice "content")
      let others ← noticeNames metadata rest
      pure (name :: others)

/-- Each required name once, and no other. -/
def covers (names required : List String) (reason : String) : Checked Unit :=
  require (names.Nodup ∧ names ⊆ required ∧ required ⊆ names) reason

def certified (certifications : Json) : Bool := match certifications with
  | .list [.object entries] =>
      entries.length = 2 && textIs "NOT_REQUIRED" (get entries "certificationType") &&
        textIs "" (get entries "certificationCode")
  | _ => false

def representation (item : Entries) : Checked Unit := do
  let images ← rowsOf 1 (get item "images")
  let image ← single "fixture_representation_image_required" images
  let picture ← object image
  keysAre picture ["imageOrder", "imageType", "vendorPath"]
  exactly picture [("imageOrder", .int 0), ("imageType", .text "REPRESENTATION")]
  let path ← textField printable 200 (get picture "vendorPath")
  require (path = "https://fixture.invalid/product.png") "synthetic_image_reference_required"

def description (item : Entries) : Checked Unit := do
  let contents ← rowsOf 1 (get item "contents")
  let one ← single "fixture_text_content_required" contents
  let content ← object one
  keysAre content ["contentsType", "contentDetails"]
  exactly content [("contentsType", .text "TEXT")]
  let details ← rowsOf 1 (get content "contentDetails")
  let other ← single "fixture_text_content_required" details
  let detail ← object other
  keysAre detail ["detailType", "content"]
  exactly detail [("detailType", .text "TEXT")]
  let shown ← textField printable 2000 (get detail "content")
  require ('<' ∉ shown.toList ∧ '>' ∉ shown.toList) "fixture_plain_text_required"

/-- The price and the quantity of the one item of the listing. -/
def listingItem (body metadata : Entries) (required : Category) (supplierSku : String) : Checked (Int × Int) := do
  let items ← rowsOf 1 (get body "items")
  let one ← single "single_listing_item_required" items
  let item ← object one
  keysAre item ["itemName", "originalPrice", "salePrice", "maximumBuyCount", "maximumBuyForPerson",
    "maximumBuyForPersonPeriod", "outboundShippingTimeDay", "unitCount", "adultOnly", "taxType", "parallelImported",
    "overseasPurchased", "pccNeeded", "externalVendorSku", "images", "attributes", "notices", "contents", "certifications",
    "offerCondition"]
  exactly item [("maximumBuyForPerson", .int 0), ("maximumBuyForPersonPeriod", .int 1), ("unitCount", .int 1),
    ("adultOnly", .text "EVERYONE"), ("taxType", .text "TAX"), ("parallelImported", .text "NOT_PARALLEL_IMPORTED"),
    ("overseasPurchased", .text "NOT_OVERSEAS_PURCHASED"), ("pccNeeded", .bool false),
    ("externalVendorSku", .text supplierSku), ("offerCondition", .text "NEW")]
  let _ ← textField printable 150 (get item "itemName")
  let _ ← positiveField (get item "outboundShippingTimeDay")
  let price ← positiveField (get item "salePrice")
  let quantity ← positiveField (get item "maximumBuyCount")
  let originalPrice ← positiveField (get item "originalPrice")
  require (originalPrice = price ∧ quantity ≤ 99999 ∧ price % 10 = 0) "unsupported_listing_price_or_quantity"
  require (certified (get item "certifications") = true) "unsupported_listing_certification"
  let attributes ← rowsOf 50 (get item "attributes")
  let named ← attributeNames printable attributes
  covers named required.attributes "listing_attribute_coverage_mismatch"
  let notices ← rowsOf 50 (get item "notices")
  let told ← noticeNames printable metadata notices
  covers told required.notices "listing_notice_coverage_mismatch"
  representation printable item
  description printable item
  pure (price, quantity)

structure ListingRequest where
  body : Json
  report : SupplierImportReport
  metadata : Json
  tenantRef : String
  connectionRef : String
  vendorId : String
  supplierSku : String
  rightsDigest : String
  now : Option Timestamp
  observedAt : Option Timestamp
  expiresAt : Option Timestamp
  policy : SalePolicy

/-- What is asked of the body and its metadata; the price and the quantity of the item. -/
def listingBody (body metadata : Json) (vendorId supplierSku : String) : Checked (Int × Int) := do
  let shipping ← object body
  let fixture ← object metadata
  shippingFields printable shipping vendorId
  saleWindow printable shipping
  let required ← category printable shipping fixture
  listingItem printable shipping fixture required supplierSku

/-- The one supplier row of a listing; rows of other currencies do not count. -/
def listingRow (report : SupplierImportReport) (supplierSku : String) : Checked SupplierFileRow := do
  require (report.ready = true) "ready_supplier_report_required"
  single "supplier_row_unavailable" (report.rows.filter fun row => row.supplierSku = supplierSku ∧ row.currency = "KRW")

def listingPolicy (hash : String → String) (request : ListingRequest) (row : SupplierFileRow) (observedAt : Timestamp)
    (price quantity : Int) : Checked String := do
  let reservedQuantity ← integer request.policy.reservedQuantity
  let safetyBuffer ← integer request.policy.safetyBuffer
  let quantityCap ← integer request.policy.quantityCap
  require (quantity ≤ min quantityCap (max 0 (row.quantity - reservedQuantity - safetyBuffer)))
    "quantity_exceeds_fixture_availability"
  let projection ← projectedPrice price row.unitCostMinor request.policy
  let rowDigest ← hashRef row.rowDigest
  digestOf hash (.object [("reserved", .int reservedQuantity), ("buffer", .int safetyBuffer), ("cap", .int quantityCap),
    ("variable_cost", .int request.policy.variableCostMinor), ("fee_rate", decimalText projection.feeRate),
    ("age", .int request.policy.maxAgeSeconds), ("observed_at", isoformat observedAt), ("supplier_row_digest", .text rowDigest)])

variable (hash : String → String) (fromisoformat : String → Option (Option Timestamp))

/-- `build_coupang_listing_review`. -/
def buildCoupangListingReview (request : ListingRequest) : Checked FixtureListingReview := do
  let payloadDigest ← digestOf hash request.body
  let metadataDigest ← digestOf hash request.metadata
  let tenantRef ← ref request.tenantRef
  let connectionRef ← ref request.connectionRef
  let vendorId ← ref request.vendorId
  let supplierSku ← ref request.supplierSku
  let rightsDigest ← hashRef request.rightsDigest
  let offered ← listingBody printable request.body request.metadata vendorId supplierSku
  let row ← listingRow request.report supplierSku
  let now ← aware request.now
  let observedAt ← aware request.observedAt
  let expiresAt ← aware request.expiresAt
  freshnessPolicy request.policy.maxAgeSeconds
  let supplierObservedAt ← supplierTime fromisoformat row
  freshFor "stale_or_future_observation" now expiresAt request.policy.maxAgeSeconds observedAt
  freshFor "stale_or_future_observation" now expiresAt request.policy.maxAgeSeconds supplierObservedAt
  let policyDigest ← listingPolicy hash request row observedAt offered.1 offered.2
  let supplierDigest ← hashRef request.report.sourceDigest
  pure {
    tenantRef, connectionRef, vendorId, supplierRef := request.report.supplierRef, supplierSku, payloadDigest
    supplierDigest, metadataDigest, rightsDigest, policyDigest, priceKrw := offered.1, quantity := offered.2
    createdAt := now, expiresAt }

end

end AiStore.Offline
