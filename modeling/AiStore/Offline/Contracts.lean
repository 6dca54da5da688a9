import AiStore.Library.Json
import AiStore.Service.Core

/-! What the offline fixture contracts check alike, and the pages that they exchange. -/

set_option autoImplicit false

namespace AiStore.Offline

open Library

/-- `ContractQuarantine`, with its fixed reason. -/
structure ContractQuarantine where
  reason : String
  deriving DecidableEq, Repr

abbrev Checked := Except ContractQuarantine

/-- The reason unless the condition holds. -/
def require (condition : Prop) [Decidable condition] (reason : String) : Checked Unit :=
  if condition then .ok () else .error ⟨reason⟩

@[simp] theorem require_eq_ok {condition : Prop} [Decidable condition] {reason : String} {u : Unit} :
    require condition reason = .ok u ↔ condition := by
  unfold require
  split <;> simp_all

/-- `[A-Za-z0-9][A-Za-z0-9_.-]{0,149}`. -/
def externalId (text : String) : Bool := match text.toList with
  | [] => false
  | first :: rest => Service.identifierStart first && rest.all Service.identifierRest && rest.length ≤ 149

/-- `_identifier`. -/
def identifier (value : String) : Checked String := do
  require (externalId value) "invalid_external_id"
  pure value

def maxInteger : Int := 2 ^ 63 - 1

/-- `_integer`. -/
def integer (value : Int) : Checked Int := do
  require (0 ≤ value ∧ value ≤ maxInteger) "invalid_integer"
  pure value

def canonicalJson (value : Json) : Checked String := do
  require ((Json.canonical value).utf8ByteSize ≤ 2 * 1024 * 1024) "page_size_exceeded"
  pure (Json.canonical value)

/-- `isprintable` is a parameter. -/
def cursorText (printable : String → Bool) (value : String) : Checked String := do
  require (1 ≤ value.length ∧ value.length ≤ 4096 ∧ printable value) "invalid_cursor"
  pure value

/-! ## Pages -/

def optionalText : Option String → Json
  | none => .null
  | some text => .text text

def optionalInt : Option Int → Json
  | none => .null
  | some number => .int number

structure OfflineOrderSnapshot where
  provider : String
  orderId : String
  lineId : String
  productId : String
  shipmentId : Option String
  status : String
  initialQuantity : Int
  remainingQuantity : Int
  amountsKrw : List (String × Option Int)
  claimReviewRequired : Bool
  sourceDigest : String
  deriving DecidableEq

def OfflineOrderSnapshot.asdict (line : OfflineOrderSnapshot) : Json :=
  .object [("provider", .text line.provider), ("order_id", .text line.orderId), ("line_id", .text line.lineId),
    ("product_id", .text line.productId), ("shipment_id", optionalText line.shipmentId), ("status", .text line.status),
    ("initial_quantity", .int line.initialQuantity), ("remaining_quantity", .int line.remainingQuantity),
    ("amounts_krw", .list (line.amountsKrw.map fun amount => .list [.text amount.1, optionalInt amount.2])),
    ("claim_review_required", .bool line.claimReviewRequired), ("source_digest", .text line.sourceDigest),
    ("executable", .bool false)]

structure OfflineOrderPage where
  provider : String
  snapshots : List OfflineOrderSnapshot
  nextCursor : Option String
  sourceDigest : String
  deriving DecidableEq

def OfflineOrderPage.asdict (page : OfflineOrderPage) : Json :=
  .object [("provider", .text page.provider), ("snapshots", .list (page.snapshots.map OfflineOrderSnapshot.asdict)),
    ("next_cursor", optionalText page.nextCursor), ("source_digest", .text page.sourceDigest)]

structure SettlementObservation where
  provider : String
  sourceRecordRef : String
  orderId : Option String
  productRef : Option String
  kind : String
  dates : List (String × Option String)
  amountsKrw : List (String × Option Int)
  expectedMinor : Int
  sourceDigest : String
  deriving DecidableEq

def SettlementObservation.asdict (observation : SettlementObservation) : Json :=
  .object [("provider", .text observation.provider), ("source_record_ref", .text observation.sourceRecordRef),
    ("order_id", optionalText observation.orderId), ("product_ref", optionalText observation.productRef),
    ("kind", .text observation.kind),
    ("dates", .list (observation.dates.map fun date => .list [.text date.1, optionalText date.2])),
    ("amounts_krw", .list (observation.amountsKrw.map fun amount => .list [.text amount.1, optionalInt amount.2])),
    ("expected_minor", .int observation.expectedMinor), ("source_digest", .text observation.sourceDigest),
    ("received_minor", .null), ("cash_receipt_verified", .bool false)]

structure OfflineSettlementPage where
  provider : String
  observations : List SettlementObservation
  nextCursor : Option String
  warnings : List String
  sourceDigest : String
  pagination : List (String × Int)
  deriving DecidableEq

def OfflineSettlementPage.asdict (page : OfflineSettlementPage) : Json :=
  .object [("provider", .text page.provider), ("observations", .list (page.observations.map SettlementObservation.asdict)),
    ("next_cursor", optionalText page.nextCursor), ("warnings", .list (page.warnings.map .text)),
    ("source_digest", .text page.sourceDigest),
    ("pagination", .list (page.pagination.map fun entry => .list [.text entry.1, .int entry.2]))]

/-! Pages hold no floats. -/

theorem exactItems_map {α : Type} (make : α → Json) (items : List α) (plain : ∀ item, Json.exact (make item) = true) :
    Json.exactItems (items.map make) = true := by
  induction items with
  | nil => rfl
  | cons item rest ih => rw [List.map_cons, Json.exactItems, plain, ih, Bool.and_true]

@[simp] theorem exact_optionalText (value : Option String) : Json.exact (optionalText value) = true := by
  cases value <;> rfl

@[simp] theorem exact_optionalInt (value : Option Int) : Json.exact (optionalInt value) = true := by
  cases value <;> rfl

theorem exact_order (page : OfflineOrderPage) : Json.exact page.asdict = true := by
  have lines := exactItems_map OfflineOrderSnapshot.asdict page.snapshots fun line => by
    have amounts := exactItems_map (fun amount : String × Option Int => .list [.text amount.1, optionalInt amount.2])
      line.amountsKrw fun amount => by simp [Json.exact, Json.exactItems]
    simp [OfflineOrderSnapshot.asdict, Json.exact, Json.exactEntries, amounts]
  simp [OfflineOrderPage.asdict, Json.exact, Json.exactEntries, lines]

theorem exact_settlement (page : OfflineSettlementPage) : Json.exact page.asdict = true := by
  have observations := exactItems_map SettlementObservation.asdict page.observations fun observation => by
    have dates := exactItems_map (fun date : String × Option String => .list [.text date.1, optionalText date.2])
      observation.dates fun date => by simp [Json.exact, Json.exactItems]
    have amounts := exactItems_map (fun amount : String × Option Int => .list [.text amount.1, optionalInt amount.2])
      observation.amountsKrw fun amount => by simp [Json.exact, Json.exactItems]
    simp [SettlementObservation.asdict, Json.exact, Json.exactEntries, dates, amounts]
  have warnings := exactItems_map Json.text page.warnings fun _ => rfl
  have pagination := exactItems_map (fun entry : String × Int => .list [.text entry.1, .int entry.2]) page.pagination
    fun _ => rfl
  simp [OfflineSettlementPage.asdict, Json.exact, Json.exactEntries, observations, warnings, pagination]

end AiStore.Offline
