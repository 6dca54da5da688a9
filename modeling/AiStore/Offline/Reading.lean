import AiStore.Offline.Contracts

/-! Reading provider responses: typed fields, and the details of Naver orders. -/

set_option autoImplicit false

namespace AiStore.Offline

open Library

abbrev Entries := List (String × Json)

/-- `_object`. -/
def object : Json → Checked Entries
  | .object entries => pure entries
  | _ => .error ⟨"object_required"⟩

/-- `dict.get`. -/
def get (entries : Entries) (key : String) : Json := match entries.find? fun entry => entry.1 = key with
  | none => .null
  | some entry => entry.2

/-- `_rows`. -/
def rowsOf (maximum : Nat) : Json → Checked (List Json)
  | .list rows => do
      require (rows.length ≤ maximum) "invalid_row_list"
      pure rows
  | _ => .error ⟨"invalid_row_list"⟩

/-- `_integer` with `positive=True`. -/
def positiveInteger (value : Int) : Checked Int := do
  require (1 ≤ value ∧ value ≤ maxInteger) "invalid_integer"
  pure value

def integerField : Json → Checked Int
  | .int value => integer value
  | _ => .error ⟨"invalid_integer"⟩

def positiveField : Json → Checked Int
  | .int value => positiveInteger value
  | _ => .error ⟨"invalid_integer"⟩

def identifierField : Json → Checked String
  | .text value => identifier value
  | _ => .error ⟨"invalid_external_id"⟩

/-- `_state`. -/
def stateField (states : List String) : Json → Checked String
  | .text value => do
      require (value ∈ states) "unknown_order_state"
      pure value
  | _ => .error ⟨"unknown_order_state"⟩

/-- `bool(value)`. -/
def truthy : Json → Bool
  | .null => false
  | .bool flag => flag
  | .int number => number ≠ 0
  | .float shown => shown ∉ ["0.0", "-0.0"]
  | .text content => content ≠ ""
  | .list items => !items.isEmpty
  | .object entries => !entries.isEmpty

def naverStates : List String :=
  ["PAYMENT_WAITING", "PAYED", "DELIVERING", "DELIVERED", "PURCHASE_DECIDED", "EXCHANGED", "CANCELED", "RETURNED",
    "CANCELED_BY_NOPAYMENT"]

section

variable (hash : String → String)

/-- `_hash`, and `_digest`. -/
def digestOf (value : Json) : Checked String := do
  let encoded ← canonicalJson value
  pure (hash encoded)

/-- One row, behind the lines that have been seen. -/
def naverSnapshot (seen : List String) (row : Json) : Checked OfflineOrderSnapshot := do
  let entries ← object row
  let order ← object (get entries "order")
  let product ← object (get entries "productOrder")
  let lineId ← identifierField (get product "productOrderId")
  require (lineId ∉ seen) "duplicate_product_order"
  let initial ← positiveField (get product "initialQuantity")
  let remaining ← integerField (get product "remainQuantity")
  let initialPayment ← integerField (get product "initialPaymentAmount")
  let remainingPayment ← integerField (get product "remainPaymentAmount")
  require (remaining ≤ initial ∧ remainingPayment ≤ initialPayment) "contradictory_remaining_amount"
  let orderId ← identifierField (get order "orderId")
  let productId ← identifierField (get product "productId")
  let status ← stateField naverStates (get product "productOrderStatus")
  let unitPrice ← integerField (get product "unitPrice")
  let sourceDigest ← digestOf hash row
  pure {
    provider := "naver", orderId, lineId, productId, shipmentId := none, status
    initialQuantity := initial, remainingQuantity := remaining
    amountsKrw := [("initial_payment", some initialPayment), ("remaining_payment", some remainingPayment),
      ("unit_price", some unitPrice)]
    claimReviewRequired := truthy (get product "claimStatus") || truthy (get entries "currentClaim") ||
      truthy (get entries "cancel") || truthy (get entries "return") || truthy (get entries "exchange")
    sourceDigest }

def naverSnapshots (seen : List String) : List Json → Checked (List OfflineOrderSnapshot)
  | [] => pure []
  | row :: rest => do
      let line ← naverSnapshot hash seen row
      let others ← naverSnapshots (line.lineId :: seen) rest
      pure (line :: others)

def identifiers : List String → Checked (List String)
  | [] => pure []
  | value :: rest => do
      let first ← identifier value
      let others ← identifiers rest
      pure (first :: others)

/-- `parse_naver_details`. -/
def parseNaverDetails (body : Json) (requestedIds : List String) : Checked OfflineOrderPage := do
  let digest ← digestOf hash body
  let entries ← object body
  let data ← rowsOf 300 (get entries "data")
  require (1 ≤ requestedIds.length ∧ requestedIds.length ≤ 300) "requested_ids_required"
  let expected ← identifiers requestedIds
  require expected.Nodup "duplicate_requested_id"
  let snapshots ← naverSnapshots hash [] data
  let found := snapshots.map OfflineOrderSnapshot.lineId
  require (found ⊆ expected ∧ expected ⊆ found) "requested_id_coverage_mismatch"
  pure { provider := "naver", snapshots, nextCursor := none, sourceDigest := digest }

end

end AiStore.Offline
