import AiStore.Ingestion.Polling
import AiStore.Library.Grouping
import AiStore.Offline.Finance

/-! Fixture pages of the channels, and the adapter that brings the orders of one page to the demo ingestion. -/

set_option autoImplicit false

namespace AiStore.Offline

open Library
open Ingestion (DemoPage normalizeDemoOrder)

/-! ## Reading lists -/

/-- Every element, or the failure of the first that fails. -/
def each {ε α β : Type} (read : α → Except ε β) : List α → Except ε (List β)
  | [] => pure []
  | item :: rest => do
      let first ← read item
      let others ← each read rest
      pure (first :: others)

/-- Every element behind the names that have been seen. -/
def readAll {α β κ : Type} (name : β → κ) (read : List κ → α → Checked (List β)) (seen : List κ) : List α → Checked (List β)
  | [] => pure []
  | item :: rest => do
      let found ← read seen item
      let others ← readAll name read (found.map name ++ seen) rest
      pure (found ++ others)

def alone {α : Type} (read : Checked α) : Checked (List α) := do
  let found ← read
  pure [found]

/-! ## Order pages of Coupang -/

def coupangStates : List String := ["ACCEPT", "INSTRUCT", "DEPARTURE", "DELIVERING", "FINAL_DELIVERY", "NONE_TRACKING"]

/-- `_identifier` with `numeric=True`. -/
def numericField (value : Json) : Checked String := do
  let number ← positiveField value
  pure (str number)

/-- `_krw`. -/
def krw (value : Json) : Checked Int := do
  let money ← object value
  require (textIs "KRW" (get money "currencyCode") = true ∧ intIs 0 (get money "nanos") = true) "unsupported_money"
  integerField (get money "units")

/-- `[0-9]{3}`. -/
def sequenceField : Json → Checked String
  | .text value => do
      require (value.length = 3 ∧ value.toList.all Char.isDigit = true) "invalid_sequence"
      pure value
  | _ => .error ⟨"invalid_sequence"⟩

/-- What the lines of a shipment have in common. -/
structure ShipmentRow where
  row : Json
  orderId : String
  shipmentId : String
  status : String
  shipping : Int
  remote : Option Int

section

variable (hash : String → String) (printable : String → Bool)

def coupangLine (shipment : ShipmentRow) (seen : List String) (line : Json) : Checked OfflineOrderSnapshot := do
  let entries ← object line
  let sequence ← sequenceField (get entries "sequenceNo")
  let lineId := shipment.shipmentId ++ ":" ++ sequence
  require (lineId ∉ seen) "duplicate_shipment_line"
  let initial ← positiveField (get entries "shippingCount")
  let cancelled ← integerField (get entries "cancelCount")
  let pending ← integerField (get entries "holdCountForCancel")
  require (0 ≤ initial - cancelled - pending) "contradictory_cancellation_count"
  let unit ← krw (get entries "salesPrice")
  let orderPrice ← krw (get entries "orderPrice")
  let discount ← optional krw (get entries "discountPrice")
  require (orderPrice = unit * initial) "order_price_mismatch"
  let productId ← numericField (get entries "vendorItemId")
  let sourceDigest ← digestOf hash shipment.row
  pure {
    provider := "coupang", orderId := shipment.orderId, lineId, productId, shipmentId := some shipment.shipmentId
    status := shipment.status, initialQuantity := initial, remainingQuantity := initial - cancelled - pending
    amountsKrw := [("unit_price", some unit), ("order_price", some orderPrice), ("discount", discount),
      ("shipment_shipping", some shipment.shipping), ("shipment_remote", shipment.remote)]
    claimReviewRequired := cancelled ≠ 0 || pending ≠ 0, sourceDigest }

def coupangShipment (seen : List String) (row : Json) : Checked (List OfflineOrderSnapshot) := do
  let entries ← object row
  let orderId ← numericField (get entries "orderId")
  let shipmentId ← numericField (get entries "shipmentBoxId")
  let status ← stateField coupangStates (get entries "status")
  let shipping ← krw (get entries "shippingPrice")
  let remote ← optional krw (get entries "remotePrice")
  let lines ← rowsOf 100 (get entries "orderItems")
  require (lines ≠ []) "empty_order_items"
  readAll OfflineOrderSnapshot.lineId
    (fun seen line => alone (coupangLine hash ⟨row, orderId, shipmentId, status, shipping, remote⟩ seen line)) seen lines

def nextToken : Json → Checked (Option String)
  | .null | .text "" => pure none
  | .text token => do
      let cursor ← cursorText printable token
      pure (some cursor)
  | _ => .error ⟨"invalid_cursor"⟩

/-- `parse_coupang_day_page`. -/
def parseCoupangDayPage (body : Json) : Checked OfflineOrderPage := do
  let digest ← digestOf hash body
  let entries ← object body
  require (intIs 200 (get entries "code") = true) "provider_response_error"
  let rows ← rowsOf 50 (get entries "data")
  let snapshots ← readAll OfflineOrderSnapshot.lineId (coupangShipment hash) [] rows
  let nextCursor ← nextToken printable (get entries "nextToken")
  pure { provider := "coupang", snapshots, nextCursor, sourceDigest := digest }

/-! ## Claim pages of Coupang -/

def receiptStates : List String :=
  ["RELEASE_STOP_UNCHECKED", "RETURNS_UNCHECKED", "VENDOR_WAREHOUSE_CONFIRM", "REQUEST_COUPANG_CHECK",
    "RETURNS_COMPLETED"]

def anyInteger : Json → Checked Int
  | .int value => pure value
  | _ => .error ⟨"unsupported_claim_money"⟩

def chargeOf (value : Json) : Checked Int := do
  let charge ← object value
  let units ← anyInteger (get charge "units")
  require (textIs "KRW" (get charge "currencyCode") = true ∧ -(2 ^ 63) ≤ units ∧ units < 2 ^ 63 ∧
    intIs 0 (get charge "nanos") = true) "unsupported_claim_money"
  pure units

def flagField : Json → Checked Bool
  | .bool flag => pure flag
  | _ => .error ⟨"invalid_pre_refund_observation"⟩

/-- What the lines of a receipt have in common. -/
structure ReceiptRow where
  receiptId : String
  orderId : String
  kind : String
  state : String
  preRefund : Bool

def claimItem (receipt : ReceiptRow) (seen : List (String × String)) (item : Json) : Checked OfflineClaimLine := do
  let entries ← object item
  let shipmentId ← numericField (get entries "shipmentBoxId")
  let vendorItemId ← numericField (get entries "vendorItemId")
  require ((shipmentId, vendorItemId) ∉ seen) "duplicate_claim_item"
  let purchase ← positiveField (get entries "purchaseCount")
  let cancel ← positiveField (get entries "cancelCount")
  require (cancel ≤ purchase) "claim_quantity_exceeds_purchase"
  pure ⟨receipt.receiptId, receipt.orderId, shipmentId, vendorItemId, receipt.kind, receipt.state, purchase, cancel,
    receipt.preRefund⟩

/-- The lines of a receipt; the charge is checked, and not among what a claim line keeps here. -/
def claimReceipt (seen : List String) (row : Json) : Checked (String × List OfflineClaimLine) := do
  let entries ← object row
  let receiptId ← numericField (get entries "receiptId")
  let orderId ← numericField (get entries "orderId")
  require (receiptId ∉ seen) "duplicate_claim_receipt"
  let kind ← among "unknown_receipt_type" ["RETURN", "CANCEL"] (get entries "receiptType")
  let state ← among "unknown_receipt_state" receiptStates (get entries "receiptStatus")
  let preRefund ← flagField (get entries "preRefund")
  let _ ← optional chargeOf (get entries "returnShippingCharge")
  let items ← rowsOf 1000 (get entries "returnItems")
  require (items ≠ []) "claim_items_required"
  let lines ← readAll (fun line : OfflineClaimLine => (line.shipmentId, line.vendorItemId))
    (fun seen item => alone (claimItem ⟨receiptId, orderId, kind, state, preRefund⟩ seen item)) [] items
  let _ ← digestOf hash row
  let sum ← positiveField (get entries "cancelCountSum")
  require ((lines.map OfflineClaimLine.cancelQuantity).sum = sum) "claim_count_sum_mismatch"
  pure (receiptId, lines)

def claimReceipts (seen : List String) : List Json → Checked (List OfflineClaimLine)
  | [] => pure []
  | row :: rest => do
      let (receiptId, lines) ← claimReceipt hash seen row
      let others ← claimReceipts (receiptId :: seen) rest
      pure (lines ++ others)

/-- `parse_coupang_claim_page`. -/
def parseCoupangClaimPage (body : Json) : Checked OfflineClaimPage := do
  let digest ← digestOf hash body
  let entries ← object body
  require (intIs 200 (get entries "code") = true) "claim_response_not_success"
  let rows ← rowsOf 50 (get entries "data")
  let lines ← claimReceipts hash [] rows
  let nextCursor ← nextToken printable (get entries "nextToken")
  pure { lines, sourceDigest := digest, nextCursor }

end

/-! ## The adapter -/

/-- A page is quarantined, or one of its orders is refused as a demo order. -/
inductive BridgeFailure where
  | quarantine (failure : ContractQuarantine)
  | conflict (failure : Failure)

abbrev Bridged := Except BridgeFailure

def bridged {α : Type} : Checked α → Bridged α
  | .ok result => .ok result
  | .error failure => .error (.quarantine failure)

/-- `_fresh`. -/
def freshAt (observedAt now : Option Timestamp) : Checked Timestamp := match observedAt, now with
  | some observedAt, some now => do
      require (observedAt ≤ now ∧ now ≤ observedAt.addSeconds 900) "fresh_fixture_observation_required"
      pure observedAt
  | _, _ => .error ⟨"fresh_fixture_observation_required"⟩

def bindingsOf : Json → Checked Entries
  | .object entries => pure entries
  | _ => .error ⟨"unsupported_fixture_provider_or_mapping"⟩

def bindingOf : Json → Checked String
  | .text sku => pure sku
  | _ => .error ⟨"explicit_fixture_sku_binding_required"⟩

/-- A row of the page with what is bound and computed for it. -/
structure FixtureRow where
  row : OfflineOrderSnapshot
  sku : String
  unit : Int
  quantity : Int
  deriving DecidableEq

/-- `dict(row.amounts_krw)[key]`. -/
def moneyOf (row : OfflineOrderSnapshot) (key : String) : Option Int :=
  (row.amountsKrw.find? fun amount => amount.1 = key).bind Prod.snd

/-- Nothing but the price of the goods. -/
def plainPayment (provider : String) (row : OfflineOrderSnapshot) (amount : Int) : Checked Unit :=
  if provider = "naver" then
    require (moneyOf row "initial_payment" = some amount ∧ moneyOf row "remaining_payment" = some amount)
      "fixture_discount_or_partial_payment_unsupported"
  else
    require (∀ key ∈ ["discount", "shipment_shipping", "shipment_remote"], moneyOf row key = some 0)
      "fixture_extra_or_unknown_amount_unsupported"

def fixtureRow (provider : String) (bindings : Entries) (row : OfflineOrderSnapshot) : Checked FixtureRow := do
  require (row.status = (if provider = "naver" then "PAYED" else "INSTRUCT") ∧ row.claimReviewRequired = false ∧
    row.initialQuantity = row.remainingQuantity) "unsupported_fixture_order_state"
  let unit := amountOf row.amountsKrw "unit_price"
  plainPayment provider row (unit * row.remainingQuantity)
  let sku ← bindingOf (get bindings row.productId)
  pure ⟨row, sku, unit, row.remainingQuantity⟩

/-- How `sorted` compares texts. -/
def textLe (first second : String) : Bool := Timestamp.codesLe (first.toList.map Char.toNat) (second.toList.map Char.toNat)

def lineLe (first second : FixtureRow) : Bool := textLe first.row.lineId second.row.lineId

/-- The order of the triples `(row.line_id, row.source_digest, sku)`. -/
def tripleLe (first second : FixtureRow) : Bool :=
  if first.row.lineId ≠ second.row.lineId then textLe first.row.lineId second.row.lineId
  else if first.row.sourceDigest ≠ second.row.sourceDigest then textLe first.row.sourceDigest second.row.sourceDigest
  else textLe first.sku second.sku

/-- `sorted(grouped.items())`. -/
def sortedGroups (rows : List FixtureRow) : List (String × List FixtureRow) :=
  (groupBy (fun row => some row.row.orderId) rows).entries.insertionSort fun first second => textLe first.1 second.1

structure FixtureLine where
  sku : String
  quantity : Int
  unitMinor : Int
  sourceLineKey : String
  deriving DecidableEq

def FixtureRow.line (row : FixtureRow) : FixtureLine := ⟨row.sku, row.quantity, row.unit, row.row.lineId⟩

structure FixtureItem where
  externalOrderId : String
  eventId : String
  totalMinor : Int
  lines : List FixtureLine
  sourceDigest : String

def FixtureItem.value (item : FixtureItem) : Value := .dict [
  ("external_order_id", .text item.externalOrderId), ("event_id", .text item.eventId), ("revision", .int 1),
  ("currency", .text "KRW"), ("total_minor", .int item.totalMinor),
  ("lines", .list (item.lines.map fun line => .dict [("sku", .text line.sku), ("quantity", .int line.quantity),
    ("unit_minor", .int line.unitMinor), ("source_line_key", .text line.sourceLineKey)])),
  ("source_digest", .text item.sourceDigest)]

section

variable (env : Env) (hash : String → String) (printable : String → Bool)

/-- What the digest of an order is about. -/
def orderMaterial (provider : String) (claimsDigest : Option String) (rows : List FixtureRow) : Json := .object [
  ("provider", .text provider), ("claims", optionalText claimsDigest),
  ("lines", .list ((rows.insertionSort fun first second => tripleLe first second).map fun row =>
    .list [.text row.row.lineId, .text row.row.sourceDigest, .text row.sku]))]

def normalizes (item : Value) : Bridged Unit := match normalizeDemoOrder env item with
  | .ok _ => .ok ()
  | .error failure => .error (.conflict failure)

/-- The order of a group. -/
def fixtureItem (provider : String) (claimsDigest : Option String) (group : String × List FixtureRow) :
    Bridged FixtureItem := do
  let (orderId, rows) := group
  bridged (require (rows.map FixtureRow.sku).Nodup "duplicate_fixture_sku_mapping")
  let digest ← bridged (digestOf hash (orderMaterial provider claimsDigest rows))
  let item : FixtureItem := {
    externalOrderId := orderId, eventId := "fixture-" ++ digest
    totalMinor := (rows.map fun row => row.unit * row.quantity).sum
    lines := (rows.insertionSort fun first second => lineLe first second).map FixtureRow.line, sourceDigest := digest }
  normalizes env item.value
  pure item

/-- The page of a provider, and the digest of its claims. -/
def fixturePage (provider : String) (body : Json) (requestedIds : List String) (claimBody : Json) :
    Checked (OfflineOrderPage × Option String) :=
  if provider = "naver" then do
    let page ← parseNaverDetails hash body requestedIds
    pure (page, none)
  else do
    let page ← parseCoupangDayPage hash printable body
    let claims ← parseCoupangClaimPage hash printable claimBody
    require (claims.nextCursor = none ∧ claims.lines.isEmpty = true) "fixture_claim_reconciliation_required"
    pure (page, some claims.sourceDigest)

/-- What an adapter is made from. -/
structure FixtureRequest where
  provider : String
  skuBindings : Json
  observedAt : Option Timestamp
  requestedIds : List String
  claimBody : Json

/-- An adapter; `_items_json` is kept as the values that it decodes to. -/
structure ContractFixtureReadAdapter where
  provider : String
  observedAt : Timestamp
  items : List Value

/-- `ContractFixtureReadAdapter.__init__`, up to the orders. -/
def fixtureItems (request : FixtureRequest) (body : Json) (now : Option Timestamp) : Bridged (Timestamp × List FixtureItem) := do
  let observedAt ← bridged (freshAt request.observedAt now)
  bridged (require (request.provider ∈ ["naver", "coupang"]) "unsupported_fixture_provider_or_mapping")
  let bindings ← bridged (bindingsOf request.skuBindings)
  let (page, claimsDigest) ← bridged (fixturePage hash printable request.provider body request.requestedIds request.claimBody)
  bridged (require (page.nextCursor = none ∧ page.snapshots ≠ []) "complete_nonempty_fixture_page_required")
  let rows ← bridged (each (fixtureRow request.provider bindings) page.snapshots)
  let items ← each (fixtureItem env hash request.provider claimsDigest) (sortedGroups rows)
  bridged (require (items.length ≤ 100) "fixture_order_count_exceeded")
  pure (observedAt, items)

/-- `ContractFixtureReadAdapter.__init__`. -/
def contractFixtureReadAdapter (request : FixtureRequest) (body : Json) (now : Option Timestamp) :
    Bridged ContractFixtureReadAdapter := do
  let (observedAt, items) ← fixtureItems env hash printable request body now
  bridged (require (Gateway.jsonSize (.list (items.map FixtureItem.value)) ≤ 2 * 1024 * 1024) "page_size_exceeded")
  pure { provider := "fixture-" ++ request.provider, observedAt, items := items.map fun item => Gateway.sorted item.value }

/-- `list_changes`. -/
def ContractFixtureReadAdapter.listChanges (adapter : ContractFixtureReadAdapter) (now : Option Timestamp)
    (cursor : Option String) (overlapFrom : Option Timestamp) : Checked DemoPage := do
  let observedAt ← freshAt (some adapter.observedAt) now
  require (cursor = none ∧ overlapFrom = none) "fixture_continuation_unsupported"
  pure ⟨adapter.items, none, false, observedAt⟩

end

end AiStore.Offline
