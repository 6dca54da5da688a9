import AiStore.Aftersales.Settlement
import AiStore.Library.JsonSize

/-! Import of a supplier's catalog: snapshots of its rows, the products that they describe, and the lineage between
the two, in both repositories. -/

set_option autoImplicit false

namespace AiStore.Catalog

open Library (Json Session Table Txn lookupEntry)
open Library.Txn Failure Repository Service
open Aftersales.SQLiteRepository (Fits)

/-! ## Records -/

structure DemoCatalogImport where
  id : Uuid
  tenantId : Uuid
  supplierId : String
  sourceDigest : String
  idempotencyKey : String
  createdAt : Timestamp
  deriving DecidableEq

def DemoCatalogImport.key (row : DemoCatalogImport) : Uuid × Uuid := (row.tenantId, row.id)

structure DemoCatalogSnapshot where
  id : Uuid
  tenantId : Uuid
  importId : Uuid
  supplierId : String
  externalKey : String
  sourceDigest : String
  payloadJson : String
  createdAt : Timestamp
  deriving DecidableEq

def DemoCatalogSnapshot.key (row : DemoCatalogSnapshot) : Uuid × Uuid := (row.tenantId, row.id)

structure DemoCanonicalProduct where
  id : Uuid
  tenantId : Uuid
  sku : String
  title : String
  category : String
  priceMinor : Int
  currency : String
  attributesJson : String
  sourceSnapshotId : Uuid
  version : Nat
  createdAt : Timestamp
  deriving DecidableEq

namespace DemoCanonicalProduct

def key (row : DemoCanonicalProduct) : Uuid × Uuid := (row.tenantId, row.id)

/-- What two products of one SKU have to agree in. -/
def content (row : DemoCanonicalProduct) : String × String × Int × String × String :=
  (row.title, row.category, row.priceMinor, row.currency, row.attributesJson)

end DemoCanonicalProduct

structure DemoProductLineage where
  id : Uuid
  tenantId : Uuid
  sourceSnapshotId : Uuid
  canonicalProductId : Uuid
  transformVersion : Nat
  createdAt : Timestamp
  deriving DecidableEq

def DemoProductLineage.key (row : DemoProductLineage) : Uuid × Uuid := (row.tenantId, row.sourceSnapshotId)

/-! ## Tables -/

structure Shelf where
  store : Store := {}
  catalogImports : Table DemoCatalogImport.key := .empty
  catalogSnapshots : Table DemoCatalogSnapshot.key := .empty
  canonicalProducts : Table DemoCanonicalProduct.key := .empty
  productLineage : Table DemoProductLineage.key := .empty

abbrev ShelfOp := Txn Shelf Failure

def newShelf : Session Shelf := ⟨{}, 0, 0⟩

def storePart : Library.Part Store Shelf where
  get := Shelf.store
  set store shelf := { shelf with store := store }
  get_set _ _ := rfl
  set_get _ := rfl

def inStore {α : Type} (operation : Op α) : ShelfOp α := Txn.on storePart operation

/-! ## Repositories -/

structure CatalogRepository where
  saveCatalogImport : DemoCatalogImport → ShelfOp (DemoCatalogImport × Bool)
  saveCatalogSnapshot : DemoCatalogSnapshot → ShelfOp DemoCatalogSnapshot
  saveCanonicalProduct : DemoCanonicalProduct → ShelfOp DemoCanonicalProduct
  saveProductLineage : DemoProductLineage → ShelfOp DemoProductLineage

section

variable (shelf : Shelf)

/-- The import of the tenant under the key. -/
def importUnder (tenant : Uuid) (idempotencyKey : String) : Option DemoCatalogImport :=
  shelf.catalogImports.rows.find? fun row => row.tenantId = tenant ∧ row.idempotencyKey = idempotencyKey

def productOf (tenant : Uuid) (sku : String) : Option DemoCanonicalProduct :=
  shelf.canonicalProducts.rows.find? fun row => row.tenantId = tenant ∧ row.sku = sku

end

namespace InMemoryRepository

def saveCatalogImport (value : DemoCatalogImport) : ShelfOp (DemoCatalogImport × Bool) := do
  match ← query (importUnder · value.tenantId value.idempotencyKey) with
  | some prior =>
    ensure (prior.sourceDigest = value.sourceDigest ∧ prior.supplierId = value.supplierId)
      (conflictError "catalog idempotency key reused")
    pure (prior, true)
  | none =>
    write fun shelf => { shelf with catalogImports := shelf.catalogImports.put value }
    pure (value, false)

def saveCatalogSnapshot (value : DemoCatalogSnapshot) : ShelfOp DemoCatalogSnapshot := do
  match ← query (·.catalogSnapshots.get? value.key) with
  | some prior =>
    ensure (prior.payloadJson = value.payloadJson) (conflictError "catalog snapshot identity reused")
    pure prior
  | none =>
    write fun shelf => { shelf with catalogSnapshots := shelf.catalogSnapshots.put value }
    pure value

def saveCanonicalProduct (value : DemoCanonicalProduct) : ShelfOp DemoCanonicalProduct := do
  match ← query (productOf · value.tenantId value.sku) with
  | some prior =>
    ensure (prior.content = value.content) (conflictError "canonical SKU reused with different content")
    pure prior
  | none =>
    write fun shelf => { shelf with canonicalProducts := shelf.canonicalProducts.put value }
    pure value

def saveProductLineage (value : DemoProductLineage) : ShelfOp DemoProductLineage := do
  match ← query (·.productLineage.get? value.key) with
  | some prior =>
    ensure (prior.canonicalProductId = value.canonicalProductId) (conflictError "catalog lineage conflict")
    pure prior
  | none =>
    write fun shelf => { shelf with productLineage := shelf.productLineage.put value }
    pure value

def catalog : CatalogRepository := ⟨saveCatalogImport, saveCatalogSnapshot, saveCanonicalProduct, saveProductLineage⟩

end InMemoryRepository

namespace SQLiteRepository

/-! What the schema refuses. -/

def RefusesImport (value : DemoCatalogImport) (shelf : Shelf) : Prop :=
  (∃ row ∈ shelf.catalogImports.rows, row.id = value.id ∨
    row.tenantId = value.tenantId ∧ row.idempotencyKey = value.idempotencyKey) ∨
  value.sourceDigest.length ≠ 64 ∨ shelf.store.tenants.get? value.tenantId = none

def RefusesSnapshot (value : DemoCatalogSnapshot) (shelf : Shelf) : Prop :=
  (∃ row ∈ shelf.catalogSnapshots.rows, row.id = value.id ∨
    row.tenantId = value.tenantId ∧ row.importId = value.importId ∧ row.externalKey = value.externalKey) ∨
  value.sourceDigest.length ≠ 64 ∨ shelf.catalogImports.get? (value.tenantId, value.importId) = none

def RefusesProduct (value : DemoCanonicalProduct) (shelf : Shelf) : Prop :=
  (∃ row ∈ shelf.canonicalProducts.rows, row.id = value.id ∨ row.tenantId = value.tenantId ∧ row.sku = value.sku) ∨
  value.priceMinor < 0 ∨ value.version = 0 ∨ shelf.catalogSnapshots.get? (value.tenantId, value.sourceSnapshotId) = none

def RefusesLineage (value : DemoProductLineage) (shelf : Shelf) : Prop :=
  (∃ row ∈ shelf.productLineage.rows, row.id = value.id ∨
    row.tenantId = value.tenantId ∧ row.sourceSnapshotId = value.sourceSnapshotId) ∨
  value.transformVersion = 0 ∨ shelf.catalogSnapshots.get? (value.tenantId, value.sourceSnapshotId) = none ∨
  shelf.canonicalProducts.get? (value.tenantId, value.canonicalProductId) = none

section

variable (shelf : Shelf)

instance (value : DemoCatalogImport) : Decidable (RefusesImport value shelf) := inferInstanceAs (Decidable (_ ∨ _))

instance (value : DemoCatalogSnapshot) : Decidable (RefusesSnapshot value shelf) := inferInstanceAs (Decidable (_ ∨ _))

instance (value : DemoCanonicalProduct) : Decidable (RefusesProduct value shelf) := inferInstanceAs (Decidable (_ ∨ _))

instance (value : DemoProductLineage) : Decidable (RefusesLineage value shelf) := inferInstanceAs (Decidable (_ ∨ _))

end

def saveCatalogImport (value : DemoCatalogImport) : ShelfOp (DemoCatalogImport × Bool) := do
  match ← query (importUnder · value.tenantId value.idempotencyKey) with
  | some prior =>
    ensure (prior.sourceDigest = value.sourceDigest ∧ prior.supplierId = value.supplierId)
      (conflictError "catalog idempotency key reused")
    pure (prior, true)
  | none =>
    let refused ← query fun shelf => decide (RefusesImport value shelf)
    ensure (refused = false) (conflictError "catalog import already exists")
    write fun shelf => { shelf with catalogImports := shelf.catalogImports.put value }
    pure (value, false)

/-- The row is looked for when the insert has been refused. -/
def saveCatalogSnapshot (value : DemoCatalogSnapshot) : ShelfOp DemoCatalogSnapshot := do
  let refused ← query fun shelf => decide (RefusesSnapshot value shelf)
  if refused then
    match ← query (·.catalogSnapshots.get? value.key) with
    | some row =>
      ensure (row.payloadJson = value.payloadJson) (conflictError "catalog snapshot already exists")
      pure row
    | none => raise (conflictError "catalog snapshot already exists")
  else
    write fun shelf => { shelf with catalogSnapshots := shelf.catalogSnapshots.put value }
    pure value

def saveCanonicalProduct (value : DemoCanonicalProduct) : ShelfOp DemoCanonicalProduct := do
  match ← query (productOf · value.tenantId value.sku) with
  | some prior =>
    ensure (prior.content = value.content) (conflictError "canonical SKU reused with different content")
    pure prior
  | none =>
    ensure (Fits value.priceMinor) (overflowError "Python int too large to convert to SQLite INTEGER")
    let refused ← query fun shelf => decide (RefusesProduct value shelf)
    ensure (refused = false) (conflictError "canonical product already exists")
    write fun shelf => { shelf with canonicalProducts := shelf.canonicalProducts.put value }
    pure value

def saveProductLineage (value : DemoProductLineage) : ShelfOp DemoProductLineage := do
  match ← query (·.productLineage.get? value.key) with
  | some prior =>
    ensure (prior.canonicalProductId = value.canonicalProductId) (conflictError "catalog lineage conflict")
    pure prior
  | none =>
    let refused ← query fun shelf => decide (RefusesLineage value shelf)
    ensure (refused = false) (conflictError "catalog lineage already exists")
    write fun shelf => { shelf with productLineage := shelf.productLineage.put value }
    pure value

def catalog : CatalogRepository := ⟨saveCatalogImport, saveCatalogSnapshot, saveCanonicalProduct, saveProductLineage⟩

end SQLiteRepository

/-! ## Rows -/

/-- A row that has been checked, with its texts stripped and its attributes decoded. -/
structure CatalogRow where
  externalKey : String
  sku : String
  title : String
  category : String
  priceMinor : Int
  currency : String
  attributes : Json

def CatalogRow.asJson (row : CatalogRow) : Json := .object [
  ("external_key", .text row.externalKey), ("sku", .text row.sku), ("title", .text row.title),
  ("category", .text row.category), ("price_minor", .int row.priceMinor), ("currency", .text row.currency),
  ("attributes", row.attributes)]

/-- `_FIELDS`. -/
def catalogFields : List String :=
  ["external_key", "sku", "title", "category", "price_minor", "currency", "attributes"]

/-- `_CURRENCIES`. -/
def catalogCurrencies : List String := ["KRW", "USD", "JPY", "EUR", "GBP", "CNY"]

/-- `_PII_NAMES`. -/
def piiNames : List String := ["email", "phone", "address", "name", "customer", "buyer", "recipient"]

/-- `_id`. -/
def identifier (value : Json) (label : String) : Except Failure String := match value with
  | .text content => if opaqueIdentifier content then .ok content else .error (conflictError ("invalid " ++ label))
  | _ => .error (conflictError ("invalid " ++ label))

/-- `_text`. -/
def catalogText (value : Json) (label : String) : Except Failure String := match value with
  | .text content =>
      if blank content ∨ 500 < content.length ∨ '\x00' ∈ content.toList then .error (conflictError ("invalid " ++ label))
      else .ok (strip content)
  | _ => .error (conflictError ("invalid " ++ label))

/-- What `str(number)` takes. -/
def Printable (number : Int) : Prop := (Nat.toDigits 10 number.natAbs).length ≤ 4300

instance (number : Int) : Decidable (Printable number) := inferInstanceAs (Decidable (_ ≤ _))

section

variable (lower : String → String)

mutual

/-- No name below is one of a person. -/
def safe : Json → Bool
  | .list items => safeItems items
  | .object entries => safeEntries entries
  | _ => true

def safeItems : List Json → Bool
  | [] => true
  | item :: rest => safe item && safeItems rest

def safeEntries : List (String × Json) → Bool
  | [] => true
  | (name, item) :: rest => lower name ∉ piiNames && safe item && safeEntries rest

end

mutual

/-- `json.dumps` without infinities and NaN takes the value. -/
def finite : Json → Bool
  | .int number => Printable number
  | .float shown => shown ∉ ["NaN", "Infinity", "-Infinity"]
  | .list items => finiteItems items
  | .object entries => finiteEntries entries
  | _ => true

def finiteItems : List Json → Bool
  | [] => true
  | item :: rest => finite item && finiteItems rest

def finiteEntries : List (String × Json) → Bool
  | [] => true
  | (_, item) :: rest => finite item && finiteEntries rest

end

/-- `_attributes`. What is decoded again has its keys in order; the interpreter's stack is taken to be deep enough. -/
def attributes (value : Json) : Except Failure Json := match value with
  | .object entries =>
      if safeEntries lower entries = false then .error (conflictError "invalid or PII catalog attributes")
      else if finite value = false then .error (conflictError "catalog attributes must be finite JSON")
      else if 16 * 1024 < (Json.canonical value).utf8ByteSize then .error (conflictError "catalog attributes too large")
      else .ok (Json.sortKeys value)
  | _ => .error (conflictError "invalid or PII catalog attributes")

def price : Json → Option Int
  | .int number => if 0 ≤ number then some number else none
  | _ => none

/-- A list or a mapping cannot be looked for in a set. -/
def currency : Json → Except Failure String
  | .text code =>
      if code ∈ catalogCurrencies then .ok code else .error (conflictError "invalid catalog price or currency")
  | .list _ => .error (typeError "unhashable type: 'list'")
  | .object _ => .error (typeError "unhashable type: 'dict'")
  | _ => .error (conflictError "invalid catalog price or currency")

/-- The mapping has the fields of a row, and no others. -/
def HasFields (entries : List (String × Json)) : Prop :=
  (∀ field ∈ catalogFields, field ∈ entries.map Prod.fst) ∧ ∀ field ∈ entries.map Prod.fst, field ∈ catalogFields

instance (entries : List (String × Json)) : Decidable (HasFields entries) := inferInstanceAs (Decidable (_ ∧ _))

def normalizeRow (row : Json) (seenExternal seenSku : List String) : Except Failure CatalogRow := match row with
  | .object entries =>
      if HasFields entries then do
        let field := fun name => (lookupEntry entries name).getD .null
        let external ← identifier (field "external_key") "external_key"
        let sku ← identifier (field "sku") "sku"
        if external ∈ seenExternal ∨ sku ∈ seenSku then .error (conflictError "duplicate catalog key")
        else match price (field "price_minor") with
          | none => .error (conflictError "invalid catalog price or currency")
          | some priceMinor => do
            let currency ← currency (field "currency")
            let title ← catalogText (field "title") "title"
            let category ← catalogText (field "category") "category"
            let attributes ← attributes lower (field "attributes")
            .ok ⟨external, sku, title, category, priceMinor, currency, attributes⟩
      else .error (conflictError "invalid catalog row schema")
  | _ => .error (conflictError "invalid catalog row schema")

/-- The loop over the rows, with the keys seen before. -/
def normalizeRows : List Json → List String → List String → Except Failure (List CatalogRow)
  | [], _, _ => .ok []
  | row :: rest, seenExternal, seenSku => do
      let normalized ← normalizeRow lower row seenExternal seenSku
      let others ← normalizeRows rest (normalized.externalKey :: seenExternal) (normalized.sku :: seenSku)
      .ok (normalized :: others)

def normalize (rows : Json) : Except Failure (List CatalogRow) := match rows with
  | .list items =>
      if items = [] ∨ 10000 < items.length then .error (conflictError "catalog rows are required")
      else normalizeRows lower items [] []
  | _ => .error (conflictError "catalog rows are required")

/-- The text of rows whose digest an import keeps. -/
def sourceText (rows : List CatalogRow) : String := Json.canonical (.list (rows.map CatalogRow.asJson))

structure CatalogIntake where
  supplierId : String
  idempotencyKey : String
  rows : List CatalogRow

/-- `ingest_demo_catalog` up to its reading of the clock. -/
def readCatalog (supplierId : String) (rows : Json) (idempotencyKey : String) : Except Failure CatalogIntake := do
  let supplierId ← identifier (.text supplierId) "supplier_id"
  let idempotencyKey ← catalogText (.text idempotencyKey) "idempotency_key"
  if 255 < idempotencyKey.length then .error (conflictError "invalid idempotency_key")
  else do
    let rows ← normalize lower rows
    if ∀ row ∈ rows, Printable row.priceMinor then .ok ⟨supplierId, idempotencyKey, rows⟩
    else .error (valueError
      "Exceeds the limit (4300 digits) for integer string conversion; use sys.set_int_max_str_digits() to increase the limit")

end

/-! ## Import -/

section

variable (repository : CatalogRepository) (env : Env) (hash : String → String) (context : TenantContext)

def newSnapshot (id tenant batch : Uuid) (supplierId : String) (row : CatalogRow) (now : Timestamp) : DemoCatalogSnapshot where
  id := id
  tenantId := tenant
  importId := batch
  supplierId := supplierId
  externalKey := row.externalKey
  sourceDigest := hash (Json.canonical row.asJson)
  payloadJson := Json.canonical row.asJson
  createdAt := now

def newProduct (id tenant snapshot : Uuid) (row : CatalogRow) (now : Timestamp) : DemoCanonicalProduct where
  id := id
  tenantId := tenant
  sku := row.sku
  title := row.title
  category := row.category
  priceMinor := row.priceMinor
  currency := row.currency
  attributesJson := Json.canonical row.attributes
  sourceSnapshotId := snapshot
  version := 1
  createdAt := now

def newLineage (id tenant snapshot product : Uuid) (now : Timestamp) : DemoProductLineage where
  id := id
  tenantId := tenant
  sourceSnapshotId := snapshot
  canonicalProductId := product
  transformVersion := 1
  createdAt := now

/-- The body of the loop over the rows. -/
def importRow (tenant batch : Uuid) (supplierId : String) (now : Timestamp) (row : CatalogRow) : ShelfOp Unit := do
  let snapshotId ← freshUuid
  let _ ← repository.saveCatalogSnapshot (newSnapshot hash snapshotId tenant batch supplierId row now)
  let productId ← freshUuid
  let canonical ← repository.saveCanonicalProduct (newProduct productId tenant snapshotId row now)
  let lineageId ← freshUuid
  let _ ← repository.saveProductLineage (newLineage lineageId tenant snapshotId canonical.id now)
  pure ()

/-- `catalog:{batch}:imported`. -/
def catalogKey (batch : Uuid) : OutboxKey := .elsewhere ("catalog:" ++ toString batch ++ ":imported")

/-- The transaction of `ingest_demo_catalog`. -/
def keepCatalog (intake : CatalogIntake) (now : Timestamp) : ShelfOp (DemoCatalogImport × Bool) := do
  let sourceDigest := hash (sourceText intake.rows)
  let id ← freshUuid
  let (batch, replay) ← repository.saveCatalogImport
    ⟨id, context.tenantId, intake.supplierId, sourceDigest, intake.idempotencyKey, now⟩
  if replay then pure (batch, true)
  else do
    each intake.rows (importRow repository hash context.tenantId batch.id intake.supplierId now)
    inStore (auditBy env context "catalog.imported" batch.id "succeeded"
      [("source_digest", .text sourceDigest), ("row_count", .int intake.rows.length)])
    inStore (publish context.tenantId "catalog.imported" batch.id
      [("import_id", .uuid batch.id), ("source_digest", .text sourceDigest)] (catalogKey batch.id) now)
    pure (batch, false)

def ingestDemoCatalog (supplierId : String) (rows : Json) (idempotencyKey : String) :
    ShelfOp (DemoCatalogImport × Bool) := do
  inStore (require context .tenantAdmin)
  let intake ← ofExcept (readCatalog env.lower supplierId rows idempotencyKey)
  let now ← inStore (now env)
  transaction (keepCatalog repository env hash context intake now)

end

end AiStore.Catalog
