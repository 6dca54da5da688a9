import AiStore.Catalog.Imports
import AiStore.Library.Runs

/-! Runs of catalog imports: every row that was imported leads to the product of its SKU, and no import that raises
leaves anything behind. -/

set_option autoImplicit false

namespace AiStore.Catalog

open Library (Json Session Table Txn lookupEntry)
open Library.Txn Failure Repository Service

/-! ## What a repository does -/

def withImport (row : DemoCatalogImport) (s : Session Shelf) : Session Shelf :=
  { s with db := { s.db with catalogImports := s.db.catalogImports.put row } }

def withSnapshot (row : DemoCatalogSnapshot) (s : Session Shelf) : Session Shelf :=
  { s with db := { s.db with catalogSnapshots := s.db.catalogSnapshots.put row } }

def withProduct (row : DemoCanonicalProduct) (s : Session Shelf) : Session Shelf :=
  { s with db := { s.db with canonicalProducts := s.db.canonicalProducts.put row } }

def withLineage (row : DemoProductLineage) (s : Session Shelf) : Session Shelf :=
  { s with db := { s.db with productLineage := s.db.productLineage.put row } }

/-- What both repositories do with imports and products, and with snapshots and lineage that are new. -/
structure CatalogSaves (repository : CatalogRepository) : Prop where
  known : ∀ (value prior : DemoCatalogImport) (s : Session Shelf),
    importUnder s.db value.tenantId value.idempotencyKey = some prior → (repository.saveCatalogImport value).run s =
      (if prior.sourceDigest = value.sourceDigest ∧ prior.supplierId = value.supplierId then .ok (prior, true)
        else .error (conflictError "catalog idempotency key reused"), s)
  created : ∀ (value saved : DemoCatalogImport) (replay : Bool) (s t : Session Shelf),
    importUnder s.db value.tenantId value.idempotencyKey = none →
    (repository.saveCatalogImport value).run s = (.ok (saved, replay), t) →
      saved = value ∧ replay = false ∧ t = withImport value s
  snapshot : ∀ (value saved : DemoCatalogSnapshot) (s t : Session Shelf),
    s.db.catalogSnapshots.get? value.key = none →
    (repository.saveCatalogSnapshot value).run s = (.ok saved, t) → t = withSnapshot value s
  product : ∀ (value saved : DemoCanonicalProduct) (s t : Session Shelf),
    (repository.saveCanonicalProduct value).run s = (.ok saved, t) →
      (productOf s.db value.tenantId value.sku = some saved ∧ saved.content = value.content ∧ t = s) ∨
        (productOf s.db value.tenantId value.sku = none ∧ saved = value ∧ t = withProduct value s)
  lineage : ∀ (value saved : DemoProductLineage) (s t : Session Shelf),
    s.db.productLineage.get? value.key = none →
    (repository.saveProductLineage value).run s = (.ok saved, t) → t = withLineage value s

section

variable {s : Session Shelf}

theorem inMemory_saves : CatalogSaves InMemoryRepository.catalog where
  known value prior s found := by
    simp only [InMemoryRepository.catalog, InMemoryRepository.saveCatalogImport]
    rw [run_bind]
    simp only [query, found]
    exact run_ensure_pure _ _ _ _
  created value saved replay s t none ran := by
    simp only [InMemoryRepository.catalog, InMemoryRepository.saveCatalogImport, bind_eq_ok, query_eq_ok] at ran
    obtain ⟨_, _, ⟨rfl, rfl⟩, ran⟩ := ran
    rw [none] at ran
    simp only [bind_eq_ok, write_eq_ok, pure_eq_ok, Prod.mk.injEq] at ran
    obtain ⟨_, _, rfl, ⟨rfl, rfl⟩, rfl⟩ := ran
    exact ⟨rfl, rfl, rfl⟩
  snapshot value saved s t none ran := by
    simp only [InMemoryRepository.catalog, InMemoryRepository.saveCatalogSnapshot, bind_eq_ok, query_eq_ok] at ran
    obtain ⟨_, _, ⟨rfl, rfl⟩, ran⟩ := ran
    rw [none] at ran
    simp only [bind_eq_ok, write_eq_ok, pure_eq_ok] at ran
    obtain ⟨_, _, rfl, -, rfl⟩ := ran
    rfl
  product value saved s t ran := by
    simp only [InMemoryRepository.catalog, InMemoryRepository.saveCanonicalProduct, bind_eq_ok, query_eq_ok] at ran
    obtain ⟨_, _, ⟨rfl, rfl⟩, ran⟩ := ran
    split at ran
    · next found =>
      simp only [bind_eq_ok, ensure_eq_ok, pure_eq_ok] at ran
      obtain ⟨_, _, ⟨same, rfl⟩, rfl, rfl⟩ := ran
      exact .inl ⟨found, same, rfl⟩
    · next none =>
      simp only [bind_eq_ok, write_eq_ok, pure_eq_ok] at ran
      obtain ⟨_, _, rfl, rfl, rfl⟩ := ran
      exact .inr ⟨none, rfl, rfl⟩
  lineage value saved s t none ran := by
    simp only [InMemoryRepository.catalog, InMemoryRepository.saveProductLineage, bind_eq_ok, query_eq_ok] at ran
    obtain ⟨_, _, ⟨rfl, rfl⟩, ran⟩ := ran
    rw [none] at ran
    simp only [bind_eq_ok, write_eq_ok, pure_eq_ok] at ran
    obtain ⟨_, _, rfl, -, rfl⟩ := ran
    rfl

theorem sqlite_saves : CatalogSaves SQLiteRepository.catalog where
  known value prior s found := by
    simp only [SQLiteRepository.catalog, SQLiteRepository.saveCatalogImport]
    rw [run_bind]
    simp only [query, found]
    exact run_ensure_pure _ _ _ _
  created value saved replay s t none ran := by
    simp only [SQLiteRepository.catalog, SQLiteRepository.saveCatalogImport, bind_eq_ok, query_eq_ok] at ran
    obtain ⟨_, _, ⟨rfl, rfl⟩, ran⟩ := ran
    rw [none] at ran
    simp only [bind_eq_ok, query_eq_ok, ensure_eq_ok, write_eq_ok, pure_eq_ok, Prod.mk.injEq] at ran
    obtain ⟨_, _, ⟨-, rfl⟩, _, _, ⟨-, rfl⟩, _, _, rfl, ⟨rfl, rfl⟩, rfl⟩ := ran
    exact ⟨rfl, rfl, rfl⟩
  snapshot value saved s t none ran := by
    simp only [SQLiteRepository.catalog, SQLiteRepository.saveCatalogSnapshot, bind_eq_ok, query_eq_ok] at ran
    obtain ⟨_, _, ⟨-, rfl⟩, ran⟩ := ran
    split at ran
    · simp only [bind_eq_ok, query_eq_ok] at ran
      obtain ⟨_, _, ⟨rfl, rfl⟩, ran⟩ := ran
      rw [none] at ran
      exact absurd ran (by simp only [raise_eq_ok, not_false_iff])
    · simp only [bind_eq_ok, write_eq_ok, pure_eq_ok] at ran
      obtain ⟨_, _, rfl, -, rfl⟩ := ran
      rfl
  product value saved s t ran := by
    simp only [SQLiteRepository.catalog, SQLiteRepository.saveCanonicalProduct, bind_eq_ok, query_eq_ok] at ran
    obtain ⟨_, _, ⟨rfl, rfl⟩, ran⟩ := ran
    split at ran
    · next found =>
      simp only [bind_eq_ok, ensure_eq_ok, pure_eq_ok] at ran
      obtain ⟨_, _, ⟨same, rfl⟩, rfl, rfl⟩ := ran
      exact .inl ⟨found, same, rfl⟩
    · next none =>
      simp only [bind_eq_ok, query_eq_ok, ensure_eq_ok, write_eq_ok, pure_eq_ok] at ran
      obtain ⟨_, _, ⟨-, rfl⟩, _, _, ⟨-, rfl⟩, _, _, ⟨-, rfl⟩, _, _, rfl, rfl, rfl⟩ := ran
      exact .inr ⟨none, rfl, rfl⟩
  lineage value saved s t none ran := by
    simp only [SQLiteRepository.catalog, SQLiteRepository.saveProductLineage, bind_eq_ok, query_eq_ok] at ran
    obtain ⟨_, _, ⟨rfl, rfl⟩, ran⟩ := ran
    rw [none] at ran
    simp only [bind_eq_ok, query_eq_ok, ensure_eq_ok, write_eq_ok, pure_eq_ok] at ran
    obtain ⟨_, _, ⟨-, rfl⟩, _, _, ⟨-, rfl⟩, _, _, rfl, -, rfl⟩ := ran
    rfl

end

/-! ## Tables that only grow -/

/-- No row of the four tables is lost or changed. -/
structure Grown (s t : Session Shelf) : Prop where
  imports : ∀ row ∈ s.db.catalogImports.rows, row ∈ t.db.catalogImports.rows
  snapshots : ∀ row ∈ s.db.catalogSnapshots.rows, row ∈ t.db.catalogSnapshots.rows
  products : ∀ row ∈ s.db.canonicalProducts.rows, row ∈ t.db.canonicalProducts.rows
  lineage : ∀ row ∈ s.db.productLineage.rows, row ∈ t.db.productLineage.rows
  uuids : s.uuids ≤ t.uuids

/-- Identifiers were drawn; keys, external keys and SKUs are each used once. -/
structure Shelved (s : Session Shelf) : Prop where
  importDrawn : ∀ row ∈ s.db.catalogImports.rows, row.id < s.uuids
  snapshotDrawn : ∀ row ∈ s.db.catalogSnapshots.rows, row.id < s.uuids ∧ row.importId < s.uuids
  productDrawn : ∀ row ∈ s.db.canonicalProducts.rows, row.id < s.uuids
  lineageDrawn : ∀ row ∈ s.db.productLineage.rows, row.sourceSnapshotId < s.uuids
  keyOnce : ∀ row ∈ s.db.catalogImports.rows, ∀ other ∈ s.db.catalogImports.rows, row.tenantId = other.tenantId →
    row.idempotencyKey = other.idempotencyKey → row = other
  externalOnce : ∀ row ∈ s.db.catalogSnapshots.rows, ∀ other ∈ s.db.catalogSnapshots.rows,
    row.importId = other.importId → row.externalKey = other.externalKey → row = other
  skuOnce : ∀ row ∈ s.db.canonicalProducts.rows, ∀ other ∈ s.db.canonicalProducts.rows, row.tenantId = other.tenantId →
    row.sku = other.sku → row = other

/-- The tables of the catalog and the identifiers drawn, beside the store. -/
structure SameShelf (s t : Session Shelf) : Prop where
  imports : t.db.catalogImports = s.db.catalogImports
  snapshots : t.db.catalogSnapshots = s.db.catalogSnapshots
  products : t.db.canonicalProducts = s.db.canonicalProducts
  lineage : t.db.productLineage = s.db.productLineage
  uuids : s.uuids ≤ t.uuids

section

variable {s t u : Session Shelf}

theorem Grown.trans (first : Grown s t) (second : Grown t u) : Grown s u where
  imports row member := second.imports row (first.imports row member)
  snapshots row member := second.snapshots row (first.snapshots row member)
  products row member := second.products row (first.products row member)
  lineage row member := second.lineage row (first.lineage row member)
  uuids := Nat.le_trans first.uuids second.uuids

theorem SameShelf.of_db (same : t.db = s.db) (uuids : s.uuids ≤ t.uuids) : SameShelf s t :=
  ⟨by rw [same], by rw [same], by rw [same], by rw [same], uuids⟩

theorem SameShelf.grown (same : SameShelf s t) : Grown s t where
  imports _ member := same.imports ▸ member
  snapshots _ member := same.snapshots ▸ member
  products _ member := same.products ▸ member
  lineage _ member := same.lineage ▸ member
  uuids := same.uuids

theorem Shelved.of_same (shelved : Shelved s) (same : SameShelf s t) : Shelved t := by
  obtain ⟨imports, snapshots, products, lineage, uuids⟩ := same
  constructor
  · exact fun row member => Nat.lt_of_lt_of_le (shelved.importDrawn row (imports ▸ member)) uuids
  · intro row member
    obtain ⟨drawn, batch⟩ := shelved.snapshotDrawn row (snapshots ▸ member)
    exact ⟨Nat.lt_of_lt_of_le drawn uuids, Nat.lt_of_lt_of_le batch uuids⟩
  · exact fun row member => Nat.lt_of_lt_of_le (shelved.productDrawn row (products ▸ member)) uuids
  · exact fun row member => Nat.lt_of_lt_of_le (shelved.lineageDrawn row (lineage ▸ member)) uuids
  · rw [imports]
    exact shelved.keyOnce
  · rw [snapshots]
    exact shelved.externalOnce
  · rw [products]
    exact shelved.skuOnce

/-- The operations of the store leave the catalog alone. -/
theorem inStore_same {α : Type} {operation : Op α} {outcome : Except Failure α}
    (ran : (inStore operation).run s = (outcome, t)) : SameShelf s t := by
  have advances := (inStore operation).advances s
  rw [ran] at advances
  cases ran
  exact ⟨rfl, rfl, rfl, rfl, advances.2⟩

/-! ## New rows -/

/-- With its identifier drawn. -/
def drawn (s : Session Shelf) : Session Shelf := { s with uuids := s.uuids + 1 }

theorem sameShelf_drawn (s : Session Shelf) : SameShelf s (drawn s) := ⟨rfl, rfl, rfl, rfl, Nat.le_succ _⟩

theorem get?_fresh {ν : Type} {key : ν → Uuid × Uuid} {table : Table key} {row : ν} {bound : Nat}
    (below : ∀ other ∈ table.rows, (key other).2 < bound) (here : (key row).2 = bound) : table.get? (key row) = none := by
  refine (table.get?_eq_none _).mpr fun other member same => ?_
  have under := below other member
  rw [same, here] at under
  exact Nat.lt_irrefl _ under

variable {batch : DemoCatalogImport} {snapshot : DemoCatalogSnapshot} {product : DemoCanonicalProduct}
  {entry : DemoProductLineage}

theorem Shelved.addImport (shelved : Shelved s) (id : batch.id = s.uuids)
    (unused : importUnder s.db batch.tenantId batch.idempotencyKey = none) :
    Shelved (withImport batch (drawn s)) ∧ Grown s (withImport batch (drawn s)) ∧
      batch ∈ (withImport batch (drawn s)).db.catalogImports.rows := by
  have fresh : s.db.catalogImports.get? batch.key = none := get?_fresh shelved.importDrawn id
  have old := shelved.of_same (sameShelf_drawn s)
  refine ⟨{ old with importDrawn := ?_, keyOnce := ?_ },
    { (sameShelf_drawn s).grown with imports := fun _ member => (Table.mem_put_of_fresh fresh).mpr (.inr member) },
    (Table.mem_put_of_fresh fresh).mpr (.inl rfl)⟩
  · exact Table.forall_put old.importDrawn (id ▸ Nat.lt_succ_self _)
  · refine Library.distinct_added_within batch (fun row member => ?_) old.keyOnce
    refine ((Table.mem_put_of_fresh fresh).mp member).imp_right fun member => ⟨member, fun tenant key => ?_⟩
    exact List.find?_eq_none.mp unused row member (decide_eq_true ⟨tenant, key⟩)

theorem Shelved.addSnapshot (shelved : Shelved s) (id : snapshot.id = s.uuids) (batch : snapshot.importId < s.uuids)
    (apart : ∀ row ∈ s.db.catalogSnapshots.rows, row.importId = snapshot.importId →
      row.externalKey ≠ snapshot.externalKey) :
    Shelved (withSnapshot snapshot (drawn s)) ∧ Grown s (withSnapshot snapshot (drawn s)) := by
  have fresh : s.db.catalogSnapshots.get? snapshot.key = none :=
    get?_fresh (fun row member => (shelved.snapshotDrawn row member).1) id
  have old := shelved.of_same (sameShelf_drawn s)
  refine ⟨{ old with snapshotDrawn := ?_, externalOnce := ?_ },
    { (sameShelf_drawn s).grown with snapshots := fun _ member => (Table.mem_put_of_fresh fresh).mpr (.inr member) }⟩
  · exact Table.forall_put old.snapshotDrawn ⟨id ▸ Nat.lt_succ_self _, Nat.lt_succ_of_lt batch⟩
  · refine Library.distinct_added_within snapshot (fun row member => ?_) old.externalOnce
    exact ((Table.mem_put_of_fresh fresh).mp member).imp_right fun member => ⟨member, apart row member⟩

theorem Shelved.addProduct (shelved : Shelved s) (id : product.id = s.uuids)
    (unknown : productOf s.db product.tenantId product.sku = none) :
    Shelved (withProduct product (drawn s)) ∧ Grown s (withProduct product (drawn s)) := by
  have fresh : s.db.canonicalProducts.get? product.key = none := get?_fresh shelved.productDrawn id
  have old := shelved.of_same (sameShelf_drawn s)
  refine ⟨{ old with productDrawn := ?_, skuOnce := ?_ },
    { (sameShelf_drawn s).grown with products := fun _ member => (Table.mem_put_of_fresh fresh).mpr (.inr member) }⟩
  · exact Table.forall_put old.productDrawn (id ▸ Nat.lt_succ_self _)
  · refine Library.distinct_added_within product (fun row member => ?_) old.skuOnce
    refine ((Table.mem_put_of_fresh fresh).mp member).imp_right fun member => ⟨member, fun tenant sku => ?_⟩
    exact List.find?_eq_none.mp unknown row member (decide_eq_true ⟨tenant, sku⟩)

theorem Shelved.addLineage (shelved : Shelved s) (source : entry.sourceSnapshotId < s.uuids)
    (fresh : s.db.productLineage.get? entry.key = none) :
    Shelved (withLineage entry (drawn s)) ∧ Grown s (withLineage entry (drawn s)) := by
  have old := shelved.of_same (sameShelf_drawn s)
  refine ⟨{ old with lineageDrawn := ?_ },
    { (sameShelf_drawn s).grown with lineage := fun _ member => (Table.mem_put_of_fresh fresh).mpr (.inr member) }⟩
  exact Table.forall_put old.lineageDrawn (Nat.lt_succ_of_lt source)

end

/-! ## A row -/

/-- What a product has to agree with a row in. -/
def CatalogRow.content (row : CatalogRow) : String × String × Int × String × String :=
  (row.title, row.category, row.priceMinor, row.currency, Json.canonical row.attributes)

/-- The snapshot is of the row, in the import. -/
def DemoCatalogSnapshot.Of (snapshot : DemoCatalogSnapshot) (tenant batch : Uuid) (row : CatalogRow) : Prop :=
  snapshot.tenantId = tenant ∧ snapshot.importId = batch ∧ snapshot.externalKey = row.externalKey

/-- The row has a snapshot that leads to a product like it. -/
structure RowKept (shelf : Shelf) (tenant batch : Uuid) (row : CatalogRow) (snapshot : DemoCatalogSnapshot)
    (entry : DemoProductLineage) (product : DemoCanonicalProduct) : Prop where
  snapshotMember : snapshot ∈ shelf.catalogSnapshots.rows
  entryMember : entry ∈ shelf.productLineage.rows
  productMember : product ∈ shelf.canonicalProducts.rows
  of : snapshot.Of tenant batch row
  payload : snapshot.payloadJson = Json.canonical row.asJson
  source : entry.key = (tenant, snapshot.id)
  leads : entry.canonicalProductId = product.id
  owner : product.tenantId = tenant
  sku : product.sku = row.sku
  content : product.content = row.content

section

variable {repository : CatalogRepository} {hash : String → String} {tenant batch : Uuid} {supplierId : String}
  {now : Timestamp} {row : CatalogRow} {rows : List CatalogRow} {s t : Session Shelf} {u : Unit}

theorem RowKept.mono {snapshot : DemoCatalogSnapshot} {entry : DemoProductLineage} {product : DemoCanonicalProduct}
    (kept : RowKept s.db tenant batch row snapshot entry product) (grown : Grown s t) :
    RowKept t.db tenant batch row snapshot entry product :=
  { kept with
    snapshotMember := grown.snapshots _ kept.snapshotMember
    entryMember := grown.lineage _ kept.entryMember
    productMember := grown.products _ kept.productMember }

theorem productOf_some {product : DemoCanonicalProduct} {sku : String} (found : productOf s.db tenant sku = some product) :
    product ∈ s.db.canonicalProducts.rows ∧ product.tenantId = tenant ∧ product.sku = sku := by
  unfold productOf at found
  have holds := List.find?_some found
  exact ⟨List.mem_of_find?_eq_some found, of_decide_eq_true holds⟩

/-- The product of the SKU, found or added. -/
theorem saveCanonicalProduct_ok (saves : CatalogSaves repository) (shelved : Shelved s) {value saved : DemoCanonicalProduct}
    (id : value.id = s.uuids) (ran : (repository.saveCanonicalProduct value).run (drawn s) = (.ok saved, t)) :
    Shelved t ∧ Grown s t ∧ t.db.productLineage = s.db.productLineage ∧ t.db.catalogSnapshots = s.db.catalogSnapshots ∧
      saved ∈ t.db.canonicalProducts.rows ∧ saved.tenantId = value.tenantId ∧ saved.sku = value.sku ∧
      saved.content = value.content := by
  -- the SKU may be known from an earlier import, whose product is then this one's
  rcases saves.product _ _ _ _ ran with ⟨found, same, rfl⟩ | ⟨unknown, rfl, rfl⟩
  · obtain ⟨member, owner, sku⟩ := productOf_some found
    exact ⟨shelved.of_same (sameShelf_drawn s), (sameShelf_drawn s).grown, rfl, rfl, member, owner, sku, same⟩
  · obtain ⟨after, grown⟩ := shelved.addProduct id unknown
    have fresh : s.db.canonicalProducts.get? saved.key = none := get?_fresh shelved.productDrawn id
    exact ⟨after, grown, rfl, rfl, (Table.mem_put_of_fresh fresh).mpr (.inl rfl), rfl, rfl, rfl⟩

theorem importRow_ok (saves : CatalogSaves repository) (shelved : Shelved s) (opened : batch < s.uuids)
    (apart : ∀ other ∈ s.db.catalogSnapshots.rows, other.importId = batch → other.externalKey ≠ row.externalKey)
    (ran : (importRow repository hash tenant batch supplierId now row).run s = (.ok u, t)) :
    Shelved t ∧ Grown s t ∧ (∃ snapshot entry product, RowKept t.db tenant batch row snapshot entry product) ∧
      ∀ other ∈ t.db.catalogSnapshots.rows,
        other ∈ s.db.catalogSnapshots.rows ∨ other.externalKey = row.externalKey := by
  simp only [importRow, bind_eq_ok, freshUuid_eq_ok, pure_eq_ok] at ran
  obtain ⟨_, _, ⟨rfl, rfl⟩, _, middle, kept, _, _, ⟨rfl, rfl⟩, canonical, sold, bought, _, _, ⟨rfl, rfl⟩, _, _, led,
    -, rfl⟩ := ran
  have fresh : s.db.catalogSnapshots.get? (newSnapshot hash s.uuids tenant batch supplierId row now).key = none :=
    get?_fresh (fun other member => (shelved.snapshotDrawn other member).1) rfl
  -- the three saves, one after the other, each under an identifier that was just drawn
  have snapshotted : middle = withSnapshot (newSnapshot hash s.uuids tenant batch supplierId row now) (drawn s) :=
    saves.snapshot _ _ _ _ fresh kept
  obtain ⟨first, grew⟩ : Shelved middle ∧ Grown s middle := snapshotted ▸ shelved.addSnapshot rfl opened apart
  obtain ⟨second, added, entries, snapshots, member, owner, sku, content⟩ := saveCanonicalProduct_ok saves first rfl bought
  -- entries lead from snapshots that were drawn before, so none leads from this one
  have unlinked : sold.db.productLineage.get? (newLineage sold.uuids tenant s.uuids canonical.id now).key = none := by
    rw [entries, snapshotted]
    exact get?_fresh shelved.lineageDrawn rfl
  have linked : t = withLineage (newLineage sold.uuids tenant s.uuids canonical.id now) (drawn sold) :=
    saves.lineage _ _ _ _ unlinked led
  have source : s.uuids < sold.uuids := by
    have one := snapshotted ▸ added.uuids
    exact Nat.lt_of_lt_of_le (Nat.lt_succ_self _) one
  obtain ⟨third, last⟩ : Shelved t ∧ Grown sold t := linked ▸ second.addLineage source unlinked
  refine ⟨third, grew.trans (added.trans last), ⟨newSnapshot hash s.uuids tenant batch supplierId row now,
    newLineage sold.uuids tenant s.uuids canonical.id now, canonical, ?_⟩, ?_⟩
  · refine ⟨?_, ?_, last.products _ member, ⟨rfl, rfl, rfl⟩, rfl, rfl, rfl, owner, sku, content⟩
    · refine last.snapshots _ ?_
      rw [snapshots, snapshotted]
      exact (Table.mem_put_of_fresh fresh).mpr (.inl rfl)
    · rw [linked]
      exact (Table.mem_put_of_fresh unlinked).mpr (.inl rfl)
  · intro other among
    rw [linked] at among
    have among : other ∈ middle.db.catalogSnapshots.rows := snapshots ▸ among
    rw [snapshotted] at among
    rcases (Table.mem_put_of_fresh fresh).mp among with rfl | old
    · exact .inr rfl
    · exact .inl old

/-- The loop over the rows: the rows behind are about external keys that the import has not used. -/
theorem importRows_ok (saves : CatalogSaves repository) (shelved : Shelved s) (opened : batch < s.uuids)
    (distinct : (rows.map CatalogRow.externalKey).Nodup)
    (apart : ∀ row ∈ rows, ∀ other ∈ s.db.catalogSnapshots.rows, other.importId = batch →
      other.externalKey ≠ row.externalKey)
    (ran : (each rows (importRow repository hash tenant batch supplierId now)).run s = (.ok u, t)) :
    Shelved t ∧ Grown s t ∧
      ∀ row ∈ rows, ∃ snapshot entry product, RowKept t.db tenant batch row snapshot entry product := by
  induction rows generalizing s with
  | nil =>
    obtain rfl := (each_nil_eq_ok _ _ _ _).mp ran
    exact ⟨shelved, (SameShelf.of_db rfl (Nat.le_refl _)).grown, fun row member => absurd member List.not_mem_nil⟩
  | cons row rest ih =>
    obtain ⟨middle, one, others⟩ := (each_cons_eq_ok _ _ _ _ _ _).mp ran
    rw [List.map_cons, List.nodup_cons] at distinct
    obtain ⟨next, grew, kept, snapshots⟩ := importRow_ok saves shelved opened (apart row List.mem_cons_self) one
    -- the snapshot of this row is under another external key than those of the rows behind
    have behind : ∀ later ∈ rest, ∀ other ∈ middle.db.catalogSnapshots.rows, other.importId = batch →
        other.externalKey ≠ later.externalKey := by
      intro later among other member same
      rcases snapshots other member with old | here
      · exact apart later (List.mem_cons_of_mem _ among) other old same
      · exact fun equal => distinct.1 (here ▸ equal ▸ List.mem_map_of_mem among)
    obtain ⟨last, grown, all⟩ := ih next (Nat.lt_of_lt_of_le opened grew.uuids) distinct.2 behind others
    refine ⟨last, grew.trans grown, fun other member => ?_⟩
    rcases List.mem_cons.mp member with rfl | later
    · obtain ⟨snapshot, entry, product, kept⟩ := kept
      exact ⟨snapshot, entry, product, kept.mono grown⟩
    · exact all other later

end

/-! ## Rows that are refused -/

/-- Whatever is raised is a `ConflictError`. -/
def Refuses {α : Type} (outcome : Except Failure α) : Prop :=
  ∀ why, outcome = .error why → ∃ message, why = conflictError message

/-- The currency can be looked for in a set, and the price can be written out. -/
structure Legible (entries : List (String × Json)) : Prop where
  noList : ∀ items, lookupEntry entries "currency" ≠ some (.list items)
  noObject : ∀ nested, lookupEntry entries "currency" ≠ some (.object nested)
  printable : ∀ number, lookupEntry entries "price_minor" = some (.int number) → Printable number

def LegibleRows (rows : Json) : Prop :=
  ∀ items, rows = .list items → ∀ entries, .object entries ∈ items → Legible entries

section

variable {α β : Type} {lower : String → String} {label : String}

theorem refuses_ok (value : α) : Refuses (.ok value) := fun _ raised => by cases raised

theorem refuses_conflict (message : String) : Refuses (.error (conflictError message) : Except Failure α) := by
  intro why raised
  cases raised
  exact ⟨message, rfl⟩

theorem Refuses.bind {first : Except Failure α} {next : α → Except Failure β} (left : Refuses first)
    (right : ∀ value, first = .ok value → Refuses (next value)) : Refuses (first >>= next) := by
  intro why raised
  cases first with
  | error other =>
    cases raised
    exact left _ rfl
  | ok value => exact right value rfl why raised

theorem refuses_identifier (value : Json) : Refuses (identifier value label) := by
  unfold identifier
  split
  · split
    · exact refuses_ok _
    · exact refuses_conflict _
  · exact refuses_conflict _

theorem refuses_catalogText (value : Json) : Refuses (catalogText value label) := by
  unfold catalogText
  split
  · split
    · exact refuses_conflict _
    · exact refuses_ok _
  · exact refuses_conflict _

theorem refuses_attributes (value : Json) : Refuses (attributes lower value) := by
  unfold attributes
  split
  · repeat' split
    · exact refuses_conflict _
    · exact refuses_conflict _
    · exact refuses_conflict _
    · exact refuses_ok _
  · exact refuses_conflict _

theorem refuses_currency {value : Json} (noList : ∀ items, value ≠ .list items)
    (noObject : ∀ nested, value ≠ .object nested) : Refuses (currency value) := by
  unfold currency
  split
  · split
    · exact refuses_ok _
    · exact refuses_conflict _
  · exact absurd rfl (noList _)
  · exact absurd rfl (noObject _)
  · exact refuses_conflict _

theorem price_some {value : Json} {number : Int} (priced : price value = some number) : value = .int number := by
  unfold price at priced
  split at priced
  · split at priced
    · cases priced
      rfl
    · cases priced
  · cases priced

/-- A field that is not null is an entry of the row. -/
theorem lookup_of_field {entries : List (String × Json)} {name : String} {value : Json}
    (shown : (lookupEntry entries name).getD .null = value) (there : value ≠ .null) :
    lookupEntry entries name = some value := by
  cases found : lookupEntry entries name with
  | none =>
    rw [found] at shown
    exact absurd shown.symm there
  | some other =>
    rw [found] at shown
    exact congrArg some shown

variable {row : Json} {seenExternal seenSku : List String}

theorem refuses_normalizeRow (legible : ∀ entries, row = .object entries → Legible entries) :
    Refuses (normalizeRow lower row seenExternal seenSku) := by
  unfold normalizeRow
  split
  · next entries =>
    obtain ⟨noList, noObject, -⟩ := legible entries rfl
    split
    · refine (refuses_identifier _).bind fun external _ => (refuses_identifier _).bind fun sku _ => ?_
      split
      · exact refuses_conflict _
      · split
        · exact refuses_conflict _
        · refine Refuses.bind (refuses_currency ?_ ?_) fun code _ => (refuses_catalogText _).bind fun title _ =>
            (refuses_catalogText _).bind fun category _ => (refuses_attributes _).bind fun kept _ => refuses_ok _
          · exact fun items same => noList items (lookup_of_field same (by simp))
          · exact fun nested same => noObject nested (lookup_of_field same (by simp))
    · exact refuses_conflict _
  · exact refuses_conflict _

/-- What a row that is taken had to be. -/
theorem normalizeRow_ok {result : CatalogRow} (ok : normalizeRow lower row seenExternal seenSku = .ok result) :
    result.externalKey ∉ seenExternal ∧
      ∃ entries, row = .object entries ∧ lookupEntry entries "price_minor" = some (.int result.priceMinor) := by
  unfold normalizeRow at ok
  split at ok
  · next entries =>
    split at ok
    · simp only [Library.except_bind_eq_ok] at ok
      obtain ⟨external, -, sku, -, ok⟩ := ok
      split at ok
      · cases ok
      · next unseen =>
        split at ok
        · cases ok
        · next number priced =>
          simp only [Library.except_bind_eq_ok] at ok
          obtain ⟨_, -, _, -, _, -, _, -, ok⟩ := ok
          cases ok
          have written := lookup_of_field (price_some priced) (by simp)
          exact ⟨fun seen => unseen (.inl seen), entries, rfl, written⟩
    · cases ok
  · cases ok

theorem refuses_normalizeRows {rows : List Json} (legible : ∀ entries, .object entries ∈ rows → Legible entries) :
    Refuses (normalizeRows lower rows seenExternal seenSku) ∧ ∀ result,
      normalizeRows lower rows seenExternal seenSku = .ok result → ∀ row ∈ result, Printable row.priceMinor := by
  induction rows generalizing seenExternal seenSku with
  | nil =>
    refine ⟨refuses_ok _, fun result ok row member => ?_⟩
    cases ok
    exact absurd member List.not_mem_nil
  | cons first rest ih =>
    have behind : ∀ entries, Json.object entries ∈ rest → Legible entries :=
      fun entries member => legible entries (List.mem_cons_of_mem _ member)
    constructor
    · refine (refuses_normalizeRow fun entries same => ?_).bind fun normalized _ => (ih behind).1.bind fun _ _ => refuses_ok _
      exact legible entries (same ▸ List.mem_cons_self)
    · intro result ok row member
      simp only [normalizeRows, Library.except_bind_eq_ok] at ok
      obtain ⟨normalized, one, others, more, ok⟩ := ok
      cases ok
      rcases List.mem_cons.mp member with rfl | later
      · obtain ⟨-, entries, rfl, priced⟩ := normalizeRow_ok one
        exact (legible entries List.mem_cons_self).printable _ priced
      · exact (ih behind).2 others more row later

/-- What an import refuses before its transaction, it refuses with a `ConflictError`, as long as the rows are legible. -/
theorem refuses_readCatalog {supplierId idempotencyKey : String} {rows : Json} (legible : LegibleRows rows) :
    Refuses (readCatalog lower supplierId rows idempotencyKey) := by
  have normalized : Refuses (normalize lower rows) ∧
      ∀ result, normalize lower rows = .ok result → ∀ row ∈ result, Printable row.priceMinor := by
    unfold normalize
    split
    · next items =>
      split
      · exact ⟨refuses_conflict _, fun result ok => by cases ok⟩
      · exact refuses_normalizeRows (legible items rfl)
    · exact ⟨refuses_conflict _, fun result ok => by cases ok⟩
  refine (refuses_identifier _).bind fun supplier _ => (refuses_catalogText _).bind fun key _ => ?_
  split
  · exact refuses_conflict _
  · refine normalized.1.bind fun result ok => ?_
    rw [if_pos (normalized.2 result ok)]
    exact refuses_ok _

end

/-! ## An import -/

section

variable {lower : String → String}

theorem normalizeRows_distinct {rows : List Json} {seenExternal seenSku : List String} {result : List CatalogRow}
    (ok : normalizeRows lower rows seenExternal seenSku = .ok result) :
    (result.map CatalogRow.externalKey).Nodup ∧ ∀ row ∈ result, row.externalKey ∉ seenExternal := by
  induction rows generalizing seenExternal seenSku result with
  | nil =>
    cases ok
    exact ⟨List.nodup_nil, fun row member => absurd member List.not_mem_nil⟩
  | cons row rest ih =>
    simp only [normalizeRows, Library.except_bind_eq_ok] at ok
    obtain ⟨first, one, others, more, ok⟩ := ok
    cases ok
    obtain ⟨distinct, unseen⟩ := ih more
    refine ⟨List.nodup_cons.mpr ⟨fun among => ?_, distinct⟩, fun other member => ?_⟩
    · obtain ⟨later, member, same⟩ := List.mem_map.mp among
      exact unseen later member (same ▸ List.mem_cons_self)
    · rcases List.mem_cons.mp member with rfl | later
      · exact (normalizeRow_ok one).1
      · exact fun seen => unseen other later (List.mem_cons_of_mem _ seen)

/-- No external key is used twice in what an import takes. -/
theorem readCatalog_distinct {supplierId idempotencyKey : String} {rows : Json} {intake : CatalogIntake}
    (ok : readCatalog lower supplierId rows idempotencyKey = .ok intake) :
    (intake.rows.map CatalogRow.externalKey).Nodup := by
  simp only [readCatalog, Library.except_bind_eq_ok] at ok
  obtain ⟨_, -, key, -, ok⟩ := ok
  split at ok
  · cases ok
  · simp only [Library.except_bind_eq_ok] at ok
    obtain ⟨normalized, ok, taken⟩ := ok
    split at taken
    · cases taken
      unfold normalize at ok
      split at ok
      · split at ok
        · cases ok
        · exact (normalizeRows_distinct ok).1
      · cases ok
    · cases taken

end

/-- What an import that is not a replay leaves behind. -/
structure Taken (s t : Session Shelf) (hash : String → String) (context : TenantContext) (intake : CatalogIntake)
    (batch : DemoCatalogImport) : Prop where
  shelved : Shelved t
  grown : Grown s t
  member : batch ∈ t.db.catalogImports.rows
  request : (batch.tenantId, batch.supplierId, batch.sourceDigest, batch.idempotencyKey) =
    (context.tenantId, intake.supplierId, hash (sourceText intake.rows), intake.idempotencyKey)
  rows : ∀ row ∈ intake.rows, ∃ snapshot entry product,
    RowKept t.db context.tenantId batch.id row snapshot entry product

section

variable {repository : CatalogRepository} {env : Env} {hash : String → String} {context : TenantContext}
  {intake : CatalogIntake} {now : Timestamp} {batch prior : DemoCatalogImport} {replay : Bool} {s t : Session Shelf}

/-- A key that is known is honoured, or refused, before any row. -/
theorem keepCatalog_known (saves : CatalogSaves repository)
    (found : importUnder s.db context.tenantId intake.idempotencyKey = some prior) :
    (keepCatalog repository env hash context intake now).run s =
      (if prior.sourceDigest = hash (sourceText intake.rows) ∧ prior.supplierId = intake.supplierId then .ok (prior, true)
        else .error (conflictError "catalog idempotency key reused"), drawn s) := by
  unfold keepCatalog
  have saved := saves.known ⟨s.uuids, context.tenantId, intake.supplierId, hash (sourceText intake.rows),
    intake.idempotencyKey, now⟩ prior (drawn s) found
  by_cases same : prior.sourceDigest = hash (sourceText intake.rows) ∧ prior.supplierId = intake.supplierId
  · rw [if_pos same] at saved ⊢
    refine (bind_eq_ok _ _ _ _ _).mpr ⟨_, drawn s, (freshUuid_eq_ok _ _ _).mpr ⟨rfl, rfl⟩, ?_⟩
    exact (bind_eq_ok _ _ _ _ _).mpr ⟨_, _, saved, rfl⟩
  · rw [if_neg same] at saved ⊢
    refine (bind_eq_error _ _ _ _ _).mpr (.inr ⟨_, drawn s, (freshUuid_eq_ok _ _ _).mpr ⟨rfl, rfl⟩, ?_⟩)
    exact (bind_eq_error _ _ _ _ _).mpr (.inl saved)

theorem keepCatalog_ok (saves : CatalogSaves repository) (shelved : Shelved s)
    (distinct : (intake.rows.map CatalogRow.externalKey).Nodup)
    (ran : (keepCatalog repository env hash context intake now).run s = (.ok (batch, replay), t)) :
    (replay = true ∧ SameShelf s t ∧ t.db = s.db) ∨ (replay = false ∧ Taken s t hash context intake batch) := by
  cases found : importUnder s.db context.tenantId intake.idempotencyKey with
  | some prior =>
    rw [keepCatalog_known saves found] at ran
    split at ran
    · cases ran
      exact .inl ⟨rfl, sameShelf_drawn s, rfl⟩
    · cases ran
  | none =>
    -- the key is new: the import is written, and its rows behind it
    simp only [keepCatalog, bind_eq_ok, freshUuid_eq_ok] at ran
    obtain ⟨_, _, ⟨rfl, rfl⟩, ⟨saved, replayed⟩, middle, kept, ran⟩ := ran
    obtain ⟨rfl, rfl, rfl⟩ := saves.created _ _ _ _ _ found kept
    simp only [Bool.false_eq_true, if_false, bind_eq_ok, pure_eq_ok, Prod.mk.injEq] at ran
    obtain ⟨_, filled, looped, _, audited, logged, _, _, published, ⟨rfl, rfl⟩, rfl⟩ := ran
    obtain ⟨opened, grew, member⟩ := @Shelved.addImport s ⟨s.uuids, context.tenantId, intake.supplierId,
      hash (sourceText intake.rows), intake.idempotencyKey, now⟩ shelved rfl found
    -- older snapshots are of imports that were drawn before
    have apart : ∀ row ∈ intake.rows, ∀ other ∈ s.db.catalogSnapshots.rows, other.importId = s.uuids →
        other.externalKey ≠ row.externalKey := by
      intro row _ other among same
      exact absurd (shelved.snapshotDrawn other among).2 (same ▸ Nat.lt_irrefl _)
    obtain ⟨full, filling, rows⟩ := importRows_ok saves opened (Nat.lt_succ_self _) distinct apart looped
    have one := inStore_same logged
    have two := inStore_same published
    have grown := filling.trans (one.grown.trans two.grown)
    refine .inr ⟨rfl, (full.of_same one).of_same two, grew.trans grown, grown.imports _ member, rfl, fun row among => ?_⟩
    obtain ⟨snapshot, entry, product, kept⟩ := rows row among
    exact ⟨snapshot, entry, product, kept.mono (one.grown.trans two.grown)⟩

variable {supplierId idempotencyKey : String} {rows : Json}

theorem ingestDemoCatalog_ok (saves : CatalogSaves repository) (shelved : Shelved s)
    (ran : (ingestDemoCatalog repository env hash context supplierId rows idempotencyKey).run s = (.ok (batch, replay), t)) :
    (replay = true ∧ SameShelf s t) ∨
      (replay = false ∧ ∃ intake, readCatalog env.lower supplierId rows idempotencyKey = .ok intake ∧
        Taken s t hash context intake batch) := by
  simp only [ingestDemoCatalog, bind_eq_ok, ofExcept_eq_ok, transaction_eq_ok] at ran
  obtain ⟨_, first, required, intake, _, ⟨read, rfl⟩, time, second, read_clock, ran⟩ := ran
  have one := inStore_same required
  have two := inStore_same read_clock
  have before : SameShelf s second := ⟨two.imports.trans one.imports, two.snapshots.trans one.snapshots,
    two.products.trans one.products, two.lineage.trans one.lineage, Nat.le_trans one.uuids two.uuids⟩
  have kept := keepCatalog_ok saves (shelved.of_same before) (readCatalog_distinct read) ran
  rcases kept with ⟨again, same, -⟩ | ⟨fresh, taken⟩
  · exact .inl ⟨again, same.imports.trans before.imports, same.snapshots.trans before.snapshots,
      same.products.trans before.products, same.lineage.trans before.lineage, Nat.le_trans before.uuids same.uuids⟩
  · exact .inr ⟨fresh, intake, read, { taken with grown := before.grown.trans taken.grown }⟩

/-- A call that raises leaves every table as it was. -/
theorem unwinds_ingestDemoCatalog : Unwinds (fun shelf : Shelf => shelf)
    (ingestDemoCatalog repository env hash context supplierId rows idempotencyKey) :=
  Unwinds.bind (Keeps.on (keeps_require _)) fun _ => Unwinds.bind (keeps_ofExcept _) fun _ =>
    Unwinds.bind (Keeps.on keeps_now) fun _ => unwinds_transaction _

theorem require_run (authorized : Authorized s.db.store context .tenantAdmin) :
    (inStore (require context .tenantAdmin)).run s = (.ok (), s) :=
  (Library.Txn.on_eq_ok _ _ _ _).mpr ⟨_, require_eq_ok.mpr ⟨authorized, rfl⟩, (storePart.back_view s).symm⟩

theorem ingestDemoCatalog_unread {why : Failure} (authorized : Authorized s.db.store context .tenantAdmin)
    (unread : readCatalog env.lower supplierId rows idempotencyKey = .error why) :
    (ingestDemoCatalog repository env hash context supplierId rows idempotencyKey).run s = (.error why, s) := by
  unfold ingestDemoCatalog
  refine (bind_eq_error _ _ _ _ _).mpr (.inr ⟨(), s, require_run authorized, ?_⟩)
  refine (bind_eq_error _ _ _ _ _).mpr (.inl ?_)
  rw [unread]
  rfl

theorem ingestDemoCatalog_known (saves : CatalogSaves repository) (authorized : Authorized s.db.store context .tenantAdmin)
    (read : readCatalog env.lower supplierId rows idempotencyKey = .ok intake)
    (found : importUnder s.db context.tenantId intake.idempotencyKey = some prior) :
    ∃ t, (ingestDemoCatalog repository env hash context supplierId rows idempotencyKey).run s =
      (if prior.sourceDigest = hash (sourceText intake.rows) ∧ prior.supplierId = intake.supplierId then .ok (prior, true)
        else .error (conflictError "catalog idempotency key reused"), t) ∧ t.db = s.db := by
  have required := require_run authorized
  have timed : (inStore (Service.now env)).run s = (.ok (env.clock s.reads), { s with reads := s.reads + 1 }) := rfl
  have kept := @keepCatalog_known repository env hash context intake (env.clock s.reads) prior
    { s with reads := s.reads + 1 } saves found
  unfold ingestDemoCatalog
  by_cases same : prior.sourceDigest = hash (sourceText intake.rows) ∧ prior.supplierId = intake.supplierId
  · rw [if_pos same] at kept ⊢
    refine ⟨drawn { s with reads := s.reads + 1 }, (bind_eq_ok _ _ _ _ _).mpr ⟨(), s, required, ?_⟩, rfl⟩
    refine (bind_eq_ok _ _ _ _ _).mpr ⟨intake, s, (ofExcept_eq_ok _ _ _ _).mpr ⟨read, rfl⟩, ?_⟩
    exact (bind_eq_ok _ _ _ _ _).mpr ⟨_, _, timed, (transaction_eq_ok _ _ _ _).mpr kept⟩
  · rw [if_neg same] at kept ⊢
    refine ⟨drawn { s with reads := s.reads + 1 }, (bind_eq_error _ _ _ _ _).mpr (.inr ⟨(), s, required, ?_⟩), rfl⟩
    refine (bind_eq_error _ _ _ _ _).mpr (.inr ⟨intake, s, (ofExcept_eq_ok _ _ _ _).mpr ⟨read, rfl⟩, ?_⟩)
    exact (bind_eq_error _ _ _ _ _).mpr (.inr ⟨_, _, timed, transaction_raises kept⟩)

end

end AiStore.Catalog
