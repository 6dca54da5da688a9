import AiStore.Catalog.Lineage
import AiStore.Service.BrowserAuth

/-! Runs of catalog imports: every row that was imported leads to the product of its SKU, no import that raises leaves
anything behind, and a key is good for one supplier and one list of rows. -/

set_option autoImplicit false

namespace AiStore.Catalog

open Library (Json Session Table Txn final)
open Library.Txn Failure Repository Service
open Aftersales (deskEnv deskMaster deskStore)

/-! ## Calls -/

/-- An import, or any operation of the store. -/
inductive CatalogCall where
  | ingest (context : TenantContext) (supplierId : String) (rows : Json) (idempotencyKey : String)
  /-- A transaction that breaks off, whatever it has written by then. -/
  | broken (body : ShelfOp Unit) (why : Failure)
  | elsewhere (operation : Op Unit)

/-- The answer to a call: an import has one. -/
abbrev CatalogAnswer := Except Failure (Option (DemoCatalogImport × Bool))

section

variable (repository : CatalogRepository) (env : Env) (hash : String → String)

def performCatalog : CatalogCall → ShelfOp (Option (DemoCatalogImport × Bool))
  | .ingest context supplierId rows idempotencyKey => do
      let answer ← ingestDemoCatalog repository env hash context supplierId rows idempotencyKey
      pure (some answer)
  | .broken body why => transaction do
      body
      raise why
  | .elsewhere operation => do
      inStore operation
      pure none

def catalogStep (call : CatalogCall) (s : Session Shelf) : CatalogAnswer × Session Shelf :=
  (performCatalog repository env hash call).run s

end

section

variable {repository : CatalogRepository} {env : Env} {hash : String → String} {context : TenantContext}
  {supplierId idempotencyKey : String} {rows : Json} {batch : DemoCatalogImport} {s t : Session Shelf}

theorem catalogStep_ingest : catalogStep repository env hash (.ingest context supplierId rows idempotencyKey) s =
    (((ingestDemoCatalog repository env hash context supplierId rows idempotencyKey).run s).1.map some,
      ((ingestDemoCatalog repository env hash context supplierId rows idempotencyKey).run s).2) := by
  simp only [catalogStep, performCatalog, run_bind]
  rcases (ingestDemoCatalog repository env hash context supplierId rows idempotencyKey).run s with ⟨why | answer, after⟩
  · rfl
  · rfl

/-- An import that raises leaves everything that is kept. -/
theorem catalogStep_raised {why : Failure}
    (ran : catalogStep repository env hash (.ingest context supplierId rows idempotencyKey) s = (.error why, t)) :
    t.db = s.db := by
  rw [catalogStep_ingest] at ran
  rcases called : (ingestDemoCatalog repository env hash context supplierId rows idempotencyKey).run s with
    ⟨other | answer, after⟩
  · rw [called] at ran
    cases ran
    exact unwinds_ingestDemoCatalog s _ _ called
  · rw [called] at ran
    cases ran

theorem catalogStep_broken (body : ShelfOp Unit) (why : Failure) :
    (catalogStep repository env hash (.broken body why) s).2.db = s.db ∧
      SameShelf s (catalogStep repository env hash (.broken body why) s).2 := by
  have advances := (performCatalog repository env hash (.broken body why)).advances s
  rcases called : catalogStep repository env hash (.broken body why) s with ⟨other | answer, after⟩
  · have same := transaction_error_db called
    simp only [catalogStep] at called
    rw [called] at advances
    exact ⟨same, SameShelf.of_db same advances.2⟩
  · simp only [catalogStep, performCatalog, transaction_eq_ok, bind_eq_ok, raise_eq_ok, exists_false, and_false] at called

theorem catalogStep_taken (saves : CatalogSaves repository) (shelved : Shelved s)
    (first : (catalogStep repository env hash (.ingest context supplierId rows idempotencyKey) s).1 =
      .ok (some (batch, false))) :
    ∃ intake, readCatalog env.lower supplierId rows idempotencyKey = .ok intake ∧
      Taken s (catalogStep repository env hash (.ingest context supplierId rows idempotencyKey) s).2 hash context intake
        batch := by
  rw [catalogStep_ingest] at first ⊢
  rcases called : (ingestDemoCatalog repository env hash context supplierId rows idempotencyKey).run s with
    ⟨other | answer, after⟩
  · rw [called] at first
    cases first
  · rw [called] at first
    cases first
    rcases ingestDemoCatalog_ok saves shelved called with ⟨replay, -⟩ | ⟨-, taken⟩
    · cases replay
    · exact taken

/-- A call adds to the tables, and takes nothing from them. -/
theorem catalogStep_grown (saves : CatalogSaves repository) (shelved : Shelved s) (call : CatalogCall) :
    Shelved (catalogStep repository env hash call s).2 ∧ Grown s (catalogStep repository env hash call s).2 := by
  -- only an import that is accepted writes to the catalog
  have kept : ∀ after : Session Shelf, SameShelf s after → Shelved after ∧ Grown s after :=
    fun after same => ⟨shelved.of_same same, same.grown⟩
  cases call with
  | ingest context supplierId rows idempotencyKey =>
    have advances := (ingestDemoCatalog repository env hash context supplierId rows idempotencyKey).advances s
    rw [catalogStep_ingest]
    rcases called : (ingestDemoCatalog repository env hash context supplierId rows idempotencyKey).run s with
      ⟨why | ⟨batch, replay⟩, after⟩
    · rw [called] at advances
      exact kept after (SameShelf.of_db (unwinds_ingestDemoCatalog s why after called) advances.2)
    · rcases ingestDemoCatalog_ok saves shelved called with ⟨-, same⟩ | ⟨-, intake, -, taken⟩
      · exact kept after same
      · exact ⟨taken.shelved, taken.grown⟩
  | broken body why => exact kept _ (catalogStep_broken body why).2
  | elsewhere operation =>
    simp only [catalogStep, performCatalog, run_bind]
    rcases called : (inStore operation).run s with ⟨why | answer, after⟩
    · exact kept after (inStore_same called)
    · exact kept after (inStore_same called)

/-! ## Runs -/

theorem grown_run (saves : CatalogSaves repository) (shelved : Shelved s) (calls : List CatalogCall) :
    Shelved (final (catalogStep repository env hash) s calls) ∧ Grown s (final (catalogStep repository env hash) s calls) :=
  Library.final_invariant (fun state => Shelved state ∧ Grown s state)
    ⟨shelved, (SameShelf.of_db rfl (Nat.le_refl _)).grown⟩ fun call _ _ holds => by
      obtain ⟨after, grown⟩ := @catalogStep_grown repository env hash _ saves holds.1 call
      exact ⟨after, holds.2.trans grown⟩

theorem shelved_new : Shelved newShelf := by
  constructor <;> exact fun _ member => absurd member List.not_mem_nil

/-! ## Rows in a shelf -/

/-- The row has one snapshot in the import, the snapshot one entry in the lineage, and the entry leads to a product of
the SKU with the content of the row. -/
structure RowTraced (shelf : Shelf) (batch : DemoCatalogImport) (row : CatalogRow) : Prop where
  snapshot : ∃! snapshot, snapshot ∈ shelf.catalogSnapshots.rows ∧ snapshot.Of batch.tenantId batch.id row
  payload : ∀ snapshot ∈ shelf.catalogSnapshots.rows, snapshot.Of batch.tenantId batch.id row →
    snapshot.payloadJson = Json.canonical row.asJson
  lineage : ∀ snapshot ∈ shelf.catalogSnapshots.rows, snapshot.Of batch.tenantId batch.id row →
    ∃! entry, entry ∈ shelf.productLineage.rows ∧ entry.tenantId = batch.tenantId ∧ entry.sourceSnapshotId = snapshot.id
  product : ∀ snapshot ∈ shelf.catalogSnapshots.rows, snapshot.Of batch.tenantId batch.id row →
    ∀ entry ∈ shelf.productLineage.rows, entry.tenantId = batch.tenantId → entry.sourceSnapshotId = snapshot.id →
      ∃ product, shelf.canonicalProducts.get? (batch.tenantId, entry.canonicalProductId) = some product ∧
        product.sku = row.sku ∧ product.content = row.content

theorem RowKept.traced {row : CatalogRow} {snapshot : DemoCatalogSnapshot} {entry : DemoProductLineage}
    {product : DemoCanonicalProduct} (kept : RowKept s.db batch.tenantId batch.id row snapshot entry product)
    (shelved : Shelved s) : RowTraced s.db batch row := by
  -- no other snapshot of the import has the external key
  have one : ∀ other ∈ s.db.catalogSnapshots.rows, other.Of batch.tenantId batch.id row → other = snapshot := by
    rintro other member ⟨-, imported, external⟩
    exact shelved.externalOnce other member snapshot kept.snapshotMember (imported.trans kept.of.2.1.symm)
      (external.trans kept.of.2.2.symm)
  -- and the table has one entry for each snapshot
  have only : ∀ other ∈ s.db.productLineage.rows, other.tenantId = batch.tenantId →
      other.sourceSnapshotId = snapshot.id → other = entry := by
    intro other member owner source
    exact s.db.productLineage.key_inj member kept.entryMember ((Prod.ext owner source).trans kept.source.symm)
  have source : entry.tenantId = batch.tenantId ∧ entry.sourceSnapshotId = snapshot.id := Prod.mk.inj kept.source
  constructor
  · exact ⟨snapshot, ⟨kept.snapshotMember, kept.of⟩, fun other found => one other found.1 found.2⟩
  · intro other member of
    rw [one other member of]
    exact kept.payload
  · intro other member of
    rw [one other member of]
    exact ⟨entry, ⟨kept.entryMember, source⟩, fun another found => only another found.1 found.2.1 found.2.2⟩
  · intro other member of another among owner leads
    rw [one other member of] at leads
    rw [only another among owner leads, kept.leads]
    refine ⟨product, ?_, kept.sku, kept.content⟩
    have found := s.db.canonicalProducts.get?_key kept.productMember
    rwa [DemoCanonicalProduct.key, kept.owner] at found

theorem Shelved.importUnder (shelved : Shelved s) (member : batch ∈ s.db.catalogImports.rows) :
    importUnder s.db batch.tenantId batch.idempotencyKey = some batch := by
  refine Library.find?_of_unique member (decide_eq_true ⟨rfl, rfl⟩) fun other among same => ?_
  obtain ⟨owner, key⟩ := of_decide_eq_true same
  exact shelved.keyOnce other among batch member owner key

theorem RowTraced.of_taken {intake : CatalogIntake} {row : CatalogRow} (saves : CatalogSaves repository)
    (taken : Taken s t hash context intake batch) (later : List CatalogCall) (member : row ∈ intake.rows) :
    RowTraced (final (catalogStep repository env hash) t later).db batch row := by
  obtain ⟨snapshot, entry, product, kept⟩ := taken.rows row member
  obtain ⟨shelved, grown⟩ := @grown_run repository env hash t saves taken.shelved later
  have owner : batch.tenantId = context.tenantId := congrArg Prod.fst taken.request
  rw [← owner] at kept
  exact (kept.mono grown).traced shelved

/-! ## A repeated key -/

/-- The request is the one that the import was made for: the supplier is the same, and so is the text of the rows. -/
def CatalogIntake.Same (intake other : CatalogIntake) : Prop :=
  intake.supplierId = other.supplierId ∧ sourceText intake.rows = sourceText other.rows

/-- The import of a known key: its own request gets it again, any other is refused, and nothing is written. -/
structure KeyHonoured (s : Session Shelf) (batch : DemoCatalogImport) (same : Prop) (answer : CatalogAnswer × Session Shelf) :
    Prop where
  replayed : same → answer.1 = .ok (some (batch, true))
  refused : ¬ same → answer.1 = .error (conflictError "catalog idempotency key reused")
  nothing : answer.2.db = s.db

theorem keyHonoured_of_known {intake again : CatalogIntake} (saves : CatalogSaves repository) (shelved : Shelved s)
    (member : batch ∈ s.db.catalogImports.rows) (owner : batch.tenantId = context.tenantId)
    (supplier : batch.supplierId = intake.supplierId) (digest : batch.sourceDigest = hash (sourceText intake.rows))
    (key : batch.idempotencyKey = again.idempotencyKey) (authorized : Authorized s.db.store context .tenantAdmin)
    (read : readCatalog env.lower supplierId rows idempotencyKey = .ok again)
    (apart : hash (sourceText again.rows) = hash (sourceText intake.rows) → sourceText again.rows = sourceText intake.rows) :
    KeyHonoured s batch (again.Same intake)
      (catalogStep repository env hash (.ingest context supplierId rows idempotencyKey) s) := by
  have found := shelved.importUnder member
  rw [owner, key] at found
  obtain ⟨t, ran, same⟩ := @ingestDemoCatalog_known repository env hash context again batch s supplierId idempotencyKey rows
    saves authorized read found
  -- the digest stands for the text of the rows
  have alike : (batch.sourceDigest = hash (sourceText again.rows) ∧ batch.supplierId = again.supplierId) ↔
      again.Same intake := by
    rw [digest, supplier]
    exact ⟨fun equal => ⟨equal.2.symm, apart equal.1.symm⟩, fun equal => ⟨congrArg hash equal.2.symm, equal.1.symm⟩⟩
  rw [catalogStep_ingest, ran]
  refine ⟨fun equal => ?_, fun differs => ?_, same⟩
  · rw [if_pos (alike.mpr equal)]
    rfl
  · rw [if_neg (differs ∘ alike.mp)]
    rfl

end

/-! ## Catalogs -/

/-- What holds of a catalog that calls have reached, and of all the calls behind. -/
structure CatalogKept (repository : CatalogRepository) (env : Env) (hash : String → String) (s : Session Shelf) : Prop where
  /-- A SKU of a tenant has one product. -/
  oneProduct : ∀ product ∈ s.db.canonicalProducts.rows, ∀ other ∈ s.db.canonicalProducts.rows,
    product.tenantId = other.tenantId → product.sku = other.sku → product = other
  /-- Products stay, with all that they hold. -/
  productsStay : ∀ product ∈ s.db.canonicalProducts.rows, ∀ later : List CatalogCall,
    product ∈ (final (catalogStep repository env hash) s later).db.canonicalProducts.rows
  /-- An import that raises, at whichever row, leaves every table as it was. -/
  unwound : ∀ (context : TenantContext) (supplierId : String) (rows : Json) (idempotencyKey : String) (why : Failure)
    (t : Session Shelf), catalogStep repository env hash (.ingest context supplierId rows idempotencyKey) s = (.error why, t) →
      t.db = s.db
  /-- So does a transaction that breaks off. -/
  brokenOff : ∀ (body : ShelfOp Unit) (why : Failure),
    (catalogStep repository env hash (.broken body why) s).2.db = s.db
  /-- Rows that are not taken are refused whatever their key is, with a `ConflictError` as long as they are legible. -/
  refused : ∀ (context : TenantContext) (supplierId : String) (rows : Json) (idempotencyKey : String) (why : Failure),
    Authorized s.db.store context .tenantAdmin → readCatalog env.lower supplierId rows idempotencyKey = .error why →
      (catalogStep repository env hash (.ingest context supplierId rows idempotencyKey) s).1 = .error why ∧
        (LegibleRows rows → ∃ message, why = conflictError message)
  /-- Every row that was imported is traced to its product, whatever is called afterwards. -/
  traced : ∀ (context : TenantContext) (supplierId : String) (rows : Json) (idempotencyKey : String)
    (batch : DemoCatalogImport), (catalogStep repository env hash (.ingest context supplierId rows idempotencyKey) s).1 =
      .ok (some (batch, false)) → ∃ intake, readCatalog env.lower supplierId rows idempotencyKey = .ok intake ∧
        batch.tenantId = context.tenantId ∧ ∀ (later : List CatalogCall), ∀ row ∈ intake.rows,
          RowTraced (final (catalogStep repository env hash) s
            (.ingest context supplierId rows idempotencyKey :: later)).db batch row
  /-- The key of an import is honoured ever after, as far as no two different texts of rows have one digest. -/
  honoured : ∀ (context : TenantContext) (supplierId : String) (rows : Json) (idempotencyKey : String)
    (batch : DemoCatalogImport) (intake : CatalogIntake), (catalogStep repository env hash
      (.ingest context supplierId rows idempotencyKey) s).1 = .ok (some (batch, false)) →
    readCatalog env.lower supplierId rows idempotencyKey = .ok intake →
    ∀ (between : List CatalogCall) (reached : Session Shelf), reached = final (catalogStep repository env hash) s
      (.ingest context supplierId rows idempotencyKey :: between) →
    ∀ (later : TenantContext) (otherSupplier : String) (otherRows : Json) (otherKey : String) (again : CatalogIntake),
      later.tenantId = context.tenantId → Authorized reached.db.store later .tenantAdmin →
      readCatalog env.lower otherSupplier otherRows otherKey = .ok again → again.idempotencyKey = intake.idempotencyKey →
      (hash (sourceText again.rows) = hash (sourceText intake.rows) →
        sourceText again.rows = sourceText intake.rows) →
      KeyHonoured reached batch (again.Same intake)
        (catalogStep repository env hash (.ingest later otherSupplier otherRows otherKey) reached)

theorem CatalogKept.of_shelved {repository : CatalogRepository} (saves : CatalogSaves repository) (env : Env)
    (hash : String → String) {s : Session Shelf} (shelved : Shelved s) : CatalogKept repository env hash s where
  oneProduct := shelved.skuOnce
  productsStay product member later := (grown_run saves shelved later).2.products product member
  unwound _ _ _ _ _ _ ran := catalogStep_raised ran
  refused context supplierId rows idempotencyKey why authorized unread := by
    rw [catalogStep_ingest, ingestDemoCatalog_unread authorized unread]
    exact ⟨rfl, fun legible => refuses_readCatalog legible why unread⟩
  brokenOff body why := (catalogStep_broken body why).1
  traced context supplierId rows idempotencyKey batch first := by
    obtain ⟨intake, read, taken⟩ := catalogStep_taken saves shelved first
    refine ⟨intake, read, congrArg Prod.fst taken.request, fun later row member => ?_⟩
    exact RowTraced.of_taken saves taken later member
  honoured context supplierId rows idempotencyKey batch intake first read between reached same later otherSupplier otherRows
      otherKey again tenant authorized other key apart := by
    obtain ⟨made, reading, taken⟩ := catalogStep_taken saves shelved first
    cases reading.symm.trans read
    -- the import is still there when its key comes again
    obtain ⟨after, grown⟩ := @grown_run repository env hash _ saves taken.shelved between
    have request := taken.request
    simp only [Prod.mk.injEq] at request
    obtain ⟨owner, supplier, digest, named⟩ := request
    rw [Library.final_cons] at same
    rw [← same] at after grown
    exact keyHonoured_of_known saves after (grown.imports batch taken.member) (owner.trans tenant.symm) supplier digest
      (named.trans key.symm) authorized other apart

/-- The repositories by where they keep their rows. -/
def catalogRepository : Backend → CatalogRepository
  | .memory => InMemoryRepository.catalog
  | .sqlite => SQLiteRepository.catalog

theorem catalogRepository_saves (backend : Backend) : CatalogSaves (catalogRepository backend) := by
  cases backend with
  | memory => exact inMemory_saves
  | sqlite => exact sqlite_saves

/-- In both repositories, after any calls: rows lead to the products of their SKUs, products never change, imports that
raise leave nothing behind, and a key is good for one supplier and the text of one list of rows. -/
theorem catalog_kept (backend : Backend) (env : Env) (hash : String → String) (calls : List CatalogCall) :
    CatalogKept (catalogRepository backend) env hash
      (final (catalogStep (catalogRepository backend) env hash) newShelf calls) :=
  .of_shelved (catalogRepository_saves backend) env hash
    (grown_run (catalogRepository_saves backend) shelved_new calls).1

/-- The last digit of the size, 64 times, in place of SHA-256. -/
def sizeDigest (text : String) : String := String.ofList (List.replicate 64 (Nat.digitChar (text.utf8ByteSize % 10)))

/-- One row of a catalog, with its title as it is given. -/
def cupRow (title : String) : Json := .list [.object [
  ("external_key", .text "E-1"), ("sku", .text "cup"), ("title", .text title), ("category", .text "kitchen"),
  ("price_minor", .int 900), ("currency", .text "KRW"), ("attributes", .object [])]]

def cupImport (title : String) : CatalogCall := .ingest deskMaster "supplier" (cupRow title) "catalog-1"

/-- The desk, and a catalog with one cup. -/
def cupCalls : List CatalogCall := [.elsewhere (Txn.write fun _ => deskStore), cupImport "Cup"]

def cupBatch : DemoCatalogImport where
  id := 0
  tenantId := 70
  supplierId := "supplier"
  sourceDigest := sizeDigest (sourceText [⟨"E-1", "cup", "Cup", "kitchen", 900, "KRW", .object []⟩])
  idempotencyKey := "catalog-1"
  createdAt := .utc 0

/-- The answer to the key of the catalog, with another title. -/
def repeatedAnswer (backend : Backend) (title : String) : CatalogAnswer :=
  (catalogStep (catalogRepository backend) deskEnv sizeDigest (cupImport title)
    (final (catalogStep (catalogRepository backend) deskEnv sizeDigest) newShelf cupCalls)).1

theorem catalog_kept_cup :
    repeatedAnswer .sqlite "Mugs" = .error (conflictError "catalog idempotency key reused") ∧
      CatalogKept (catalogRepository .sqlite) deskEnv sizeDigest
        (final (catalogStep (catalogRepository .sqlite) deskEnv sizeDigest) newShelf cupCalls) :=
  ⟨by decide +kernel, catalog_kept .sqlite deskEnv sizeDigest cupCalls⟩

/-- Rows that differ in the blanks around a title are other rows, and the key of the first is good for them: both
repositories answer with the import that there is. -/
theorem spaced_title_replayed :
    cupRow " Cup " ≠ cupRow "Cup" ∧ ∀ backend, repeatedAnswer backend " Cup " = .ok (some (cupBatch, true)) ∧
      ∀ why, repeatedAnswer backend " Cup " ≠ .error why := by
  have answered : ∀ backend, repeatedAnswer backend " Cup " = .ok (some (cupBatch, true)) := by
    intro backend
    cases backend with
    | memory => decide +kernel
    | sqlite => decide +kernel
  refine ⟨fun same => ?_, fun backend => ⟨answered backend, fun why raised => ?_⟩⟩
  · simp only [cupRow, Json.list.injEq, Json.object.injEq, List.cons.injEq, Prod.mk.injEq, Json.text.injEq] at same
    exact absurd same.1.2.2.1.2 (by decide)
  · rw [answered backend] at raised
    cases raised

end AiStore.Catalog
