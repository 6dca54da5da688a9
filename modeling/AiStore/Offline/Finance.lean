import AiStore.Offline.Builders

/-! Settlement pages of the channels, and how they are compared with a ledger. -/

set_option autoImplicit false

namespace AiStore.Offline

open Library

def naverSettleTypes : List String :=
  ["NORMAL_SETTLE_ORIGINAL", "NORMAL_SETTLE_AFTER_CANCEL", "NORMAL_SETTLE_BEFORE_CANCEL", "QUICK_SETTLE_ORIGINAL",
    "QUICK_SETTLE_CANCEL", "QUANTITY_CANCEL_DEDUCTION", "QUANTITY_CANCEL_RESTORE"]

def naverTargets : List String :=
  ["PROD_ORDER", "DELIVERY", "EXTRAFEE", "WITHDRAW", "REFUND", "PL_REFUND", "DEDUCTION_RESTORE", "PROD_PAY",
    "PURCHASE_REVIEW", "PREMIUM_PURCHASE_REVIEW", "REGULAR_PURCHASE_REVIEW", "ONE_MONTH_PURCHASE_REVIEW",
    "ONE_MONTH_PREMIUM_PURCHASE_REVIEW", "REVIEW", "ETC_COUPON", "QUICK_SETTLE", "QUANTITY_CANCEL", "DIFFERENCE_SETTLE",
    "DEPOSIT_SETTLE", "RENTAL_ORDER", "MANUAL_ORDER", "RENTAL_SCHEDULED_ORDER", "PREFERENTIAL_COMMISSION",
    "POINT_ACCUMULATION", "POST_ORDER_ADJUSTMENT_AMOUNT", "CSF", "CONCESSION"]

/-! ## Fields -/

/-- `_signed`. -/
def signed : Json → Checked Int
  | .int value => do
      require (-(2 ^ 63) ≤ value ∧ value ≤ maxInteger) "integral_krw_amount_required"
      pure value
  | _ => .error ⟨"integral_krw_amount_required"⟩

/-- `_date`. -/
def calendarDate : Json → Checked String
  | .text value => do
      require ((isoDate value.toList).isSome = true) "calendar_date_required"
      pure value
  | _ => .error ⟨"calendar_date_required"⟩

/-- A field that may be absent. -/
def optional {α : Type} (read : Json → Checked α) : Json → Checked (Option α)
  | .null => pure none
  | value => do
      let known ← read value
      pure (some known)

/-- A field that may be absent unless it is among the required ones. -/
def fieldOf {α : Type} (read : Json → Checked α) (required : List String) (row : Entries) (key : String) :
    Checked (Option α) :=
  if key ∈ required then do
    let known ← read (get row key)
    pure (some known)
  else optional read (get row key)

/-- Fields by their keys. -/
def fieldsOf {α : Type} (read : Json → Checked α) (required : List String) (row : Entries) :
    List String → Checked (List (String × Option α))
  | [] => pure []
  | key :: rest => do
      let value ← fieldOf read required row key
      let others ← fieldsOf read required row rest
      pure ((key, value) :: others)

/-- `dict(amounts)[key]`, of a required amount. -/
def amountOf (amounts : List (String × Option Int)) (key : String) : Int :=
  ((amounts.find? fun amount => amount.1 = key).bind Prod.snd).getD 0

def among (reason : String) (known : List String) : Json → Checked String
  | .text value => do
      require (value ∈ known) reason
      pure value
  | _ => .error ⟨reason⟩

section

variable (hash : String → String) (printable : String → Bool)

/-! ## Naver -/

/-- One row, behind the digests that have been seen. -/
def naverSettlement (seen : List String) (row : Json) : Checked SettlementObservation := do
  let entries ← object row
  let target ← among "unknown_settlement_kind" naverTargets (get entries "productOrderType")
  let kind ← among "unknown_settlement_kind" naverSettleTypes (get entries "settleType")
  let rowDigest ← digestOf hash row
  require (rowDigest ∉ seen) "duplicate_settlement_record"
  let dates ← fieldsOf calendarDate [] entries ["settleBasisDate", "settleExpectDate", "settleCompleteDate", "payDate"]
  let amounts ← fieldsOf signed ["paySettleAmount", "benefitSettleAmount", "settleExpectAmount"] entries
    ["paySettleAmount", "benefitSettleAmount", "settleExpectAmount", "totalPayCommissionAmount",
      "freeInstallmentCommissionAmount", "sellingInterlockCommissionAmount"]
  let orderId ← optional identifierField (get entries "orderId")
  let productRef ← optional identifierField (get entries "productOrderId")
  pure {
    provider := "naver", sourceRecordRef := rowDigest, orderId, productRef, kind := target ++ ":" ++ kind, dates
    amountsKrw := amounts, expectedMinor := amountOf amounts "settleExpectAmount", sourceDigest := rowDigest }

def naverSettlements (seen : List String) : List Json → Checked (List SettlementObservation)
  | [] => pure []
  | row :: rest => do
      let observation ← naverSettlement hash seen row
      let others ← naverSettlements (observation.sourceRecordRef :: seen) rest
      pure (observation :: others)

def paginationOf (pagination : Entries) : List String → Checked (List (String × Int))
  | [] => pure []
  | key :: rest => do
      let value ← integerField (get pagination key)
      let others ← paginationOf pagination rest
      pure ((key, value) :: others)

def metadataOf (metadata : List (String × Int)) (key : String) : Int :=
  ((metadata.find? fun entry => entry.1 = key).map Prod.snd).getD 0

/-- `parse_naver_settlement_page`. -/
def parseNaverSettlementPage (body : Json) : Checked OfflineSettlementPage := do
  let digest ← digestOf hash body
  let entries ← object body
  let rows ← rowsOf 1000 (get entries "elements")
  let pagination ← object (get entries "pagination")
  let metadata ← paginationOf pagination ["page", "size", "totalPages", "totalElements"]
  require (1 ≤ metadataOf metadata "size" ∧ metadataOf metadata "size" ≤ 1000 ∧
    rows.length ≤ metadataOf metadata "size" ∧ rows.length ≤ metadataOf metadata "totalElements") "invalid_settlement_pagination"
  let observations ← naverSettlements hash [] rows
  pure {
    provider := "naver", observations, nextCursor := none, warnings := ["pagination_requires_request_context"]
    sourceDigest := digest, pagination := metadata }

/-! ## Coupang -/

def revenueAmounts : List String :=
  ["salePrice", "saleAmount", "serviceFee", "serviceFeeVat", "settlementAmount", "coupangDiscountCoupon",
    "sellerDiscountCoupon", "downloadableCoupon", "couranteeFee", "couranteeFeeVat", "storeFeeDiscount",
    "storeFeeDiscountVat"]

/-- What the observations of a row have in common. -/
structure RevenueRow where
  orderId : String
  kind : String
  dates : List (String × Option String)
  digest : String

/-- An observation with the warning that it gives. -/
abbrev Observed := SettlementObservation × List String

def revenueItem (row : RevenueRow) (index : Nat) (item : Json) : Checked Observed := do
  let item ← object item
  let vendorItem ← integerField (get item "vendorItemId")
  let amounts ← fieldsOf signed ["saleAmount", "serviceFee", "serviceFeeVat", "settlementAmount"] item revenueAmounts
  let sourceRecordRef ← digestOf hash (.list [.text row.digest, .text "item", .int index])
  let observation : SettlementObservation := {
    provider := "coupang", sourceRecordRef, orderId := some row.orderId
    productRef := if vendorItem = 0 then none else some (str vendorItem), kind := row.kind ++ ":ITEM"
    dates := row.dates, amountsKrw := amounts, expectedMinor := amountOf amounts "settlementAmount"
    sourceDigest := row.digest }
  pure (observation, if vendorItem = 0 then ["unbound_adjustment_item"] else [])

/-- The items from an index on. -/
def revenueItems (row : RevenueRow) (index : Nat) : List Json → Checked (List Observed)
  | [] => pure []
  | item :: rest => do
      let first ← revenueItem hash row index item
      let others ← revenueItems row (index + 1) rest
      pure (first :: others)

/-- The delivery of a row, then its items. -/
def revenueRow (seen : List String) (row : Json) : Checked (String × List Observed) := do
  let entries ← object row
  let digest ← digestOf hash row
  require (digest ∉ seen) "duplicate_settlement_record"
  let orderNumber ← positiveField (get entries "orderId")
  let kind ← among "unknown_settlement_kind" ["SALE", "REFUND"] (get entries "saleType")
  let dates ← fieldsOf calendarDate ["saleDate", "recognitionDate", "settlementDate"] entries
    ["saleDate", "recognitionDate", "settlementDate", "finalSettlementDate"]
  let delivery ← object (get entries "deliveryFee")
  let amounts ← fieldsOf signed ["amount", "fee", "feeVat", "settlementAmount"] delivery
    ["amount", "fee", "feeVat", "settlementAmount"]
  let sourceRecordRef ← digestOf hash (.list [.text digest, .text "delivery"])
  let common : RevenueRow := ⟨str orderNumber, kind, dates, digest⟩
  let observation : SettlementObservation := {
    provider := "coupang", sourceRecordRef, orderId := some common.orderId, productRef := none, kind := kind ++ ":DELIVERY"
    dates, amountsKrw := amounts, expectedMinor := amountOf amounts "settlementAmount", sourceDigest := digest }
  let items ← rowsOf 100 (get entries "items")
  let others ← revenueItems hash common 0 items
  pure (digest, (observation, if items.isEmpty then ["items_unavailable_not_zero_revenue"] else []) :: others)

def revenueRows (seen : List String) : List Json → Checked (List Observed)
  | [] => pure []
  | row :: rest => do
      let (digest, first) ← revenueRow hash seen row
      let others ← revenueRows (digest :: seen) rest
      pure (first ++ others)

/-- The cursor of the next page, when there is one. -/
def revenueCursor (entries : Entries) : Checked (Option String) := match get entries "hasNext", get entries "nextToken" with
  | .bool true, .text token => do
      let cursor ← cursorText printable token
      pure (some cursor)
  | .bool true, _ => .error ⟨"invalid_cursor"⟩
  | .bool false, .null | .bool false, .text "" => pure none
  | .bool false, _ => .error ⟨"contradictory_revenue_cursor"⟩
  | _, _ => .error ⟨"has_next_required"⟩

/-- `parse_coupang_revenue_page`. -/
def parseCoupangRevenuePage (body : Json) : Checked OfflineSettlementPage := do
  let digest ← digestOf hash body
  let entries ← object body
  require (intIs 200 (get entries "code") = true) "provider_response_error"
  let nextCursor ← revenueCursor printable entries
  let rows ← rowsOf 50 (get entries "data")
  let observed ← revenueRows hash [] rows
  pure {
    provider := "coupang", observations := observed.map Prod.fst, nextCursor
    warnings := ((observed.flatMap Prod.snd).dedup).insertionSort (· ≤ ·), sourceDigest := digest, pagination := [] }

end

/-! ## Ledgers -/

structure FixtureLedgerComparison where
  sourceRecordRef : String
  expectedMinor : Int
  ledgerMinor : Option Int
  status : String
  deriving DecidableEq

def ledgerKeys : List String := ["source_record_ref", "ledger_ref", "amount_minor", "currency", "date"]

/-- The rows that have been taken: the amounts by the observations they are for, and their own names. -/
structure Received where
  amounts : List (String × Int)
  refs : List String

/-- One row of the ledger, for an observation that has none yet. -/
def receiveRow (expected : List String) (state : Received) (row : Json) : Checked Received := do
  let entries ← object row
  require (entries.map Prod.fst ⊆ ledgerKeys ∧ ledgerKeys ⊆ entries.map Prod.fst) "ledger_schema_mismatch"
  let ref ← identifierField (get entries "source_record_ref")
  let ledgerRef ← identifierField (get entries "ledger_ref")
  require (ref ∈ expected ∧ ref ∉ state.amounts.map Prod.fst ∧ ledgerRef ∉ state.refs) "unmatched_or_duplicate_ledger_row"
  let _ ← calendarDate (get entries "date")
  let amount ← signed (get entries "amount_minor")
  require (textIs "KRW" (get entries "currency") = true) "ledger_currency_mismatch"
  pure ⟨state.amounts ++ [(ref, amount)], ledgerRef :: state.refs⟩

def receiveRows (expected : List String) (state : Received) : List Json → Checked Received
  | [] => pure state
  | row :: rest => do
      let state ← receiveRow expected state row
      receiveRows expected state rest

def ledgerAmount (amounts : List (String × Int)) (ref : String) : Option Int :=
  (amounts.find? fun entry => entry.1 = ref).map Prod.snd

def ledgerComparison (amounts : List (String × Int)) (observation : SettlementObservation) : FixtureLedgerComparison where
  sourceRecordRef := observation.sourceRecordRef
  expectedMinor := observation.expectedMinor
  ledgerMinor := ledgerAmount amounts observation.sourceRecordRef
  status := match ledgerAmount amounts observation.sourceRecordRef with
    | none => "MISSING_LEDGER"
    | some amount => if amount = observation.expectedMinor then "MATCHED_FIXTURE" else "AMOUNT_MISMATCH"

/-- `compare_fixture_ledger`. -/
def compareFixtureLedger (page : OfflineSettlementPage) (ledger : Json) : Checked (List FixtureLedgerComparison) := do
  let expected := page.observations.map SettlementObservation.sourceRecordRef
  require expected.Nodup "duplicate_settlement_record"
  let rows ← rowsOf 1000 ledger
  let received ← receiveRows expected ⟨[], []⟩ rows
  pure (page.observations.map (ledgerComparison received.amounts))

end AiStore.Offline
