import AiStore.Approval.Backing
import AiStore.Catalog.Offers

/-! Runs of a market: an offer stays what it was projected to be, and an approved one stays good as long as its
approval and the evidence on it are. -/

set_option autoImplicit false

namespace AiStore.Catalog

open Library (Json Session Table Txn final)
open Library.Txn Failure Repository Service
open Approvals (Evolution LifecycleCall)
open Relation (ReflTransGen)

variable {env : Env} {backend : Backend} {hash : String → String} {context : TenantContext}

/-! ## Calls -/

inductive MarketCall (env : Env) where
  | ingest (context : TenantContext) (supplierId : String) (rows : Json) (idempotencyKey : String)
  | project (context : TenantContext) (canonicalProductId : Uuid) (channelId : String) (priceMinor : Option Int)
      (maxAgeSeconds : Int)
  /-- Margins and stock are recorded, or taken back. -/
  | record (change : Evidence → Evidence)
  | request (context : TenantContext) (offerId : Uuid) (idempotencyKey : String) (maxAgeSeconds : Int)
  | verify (context : TenantContext) (offerId commandId : Uuid) (maxAgeSeconds : Int)
  | lifecycle (call : LifecycleCall env)

section

variable (backend : Backend) (env : Env) (hash : String → String)

def performMarket : MarketCall env → MarketOp Unit
  | .ingest context supplierId rows idempotencyKey => do
      let _ ← onShelf (ingestDemoCatalog (catalogRepository backend) env hash context supplierId rows idempotencyKey)
      pure ()
  | .project context canonicalProductId channelId priceMinor maxAgeSeconds => do
      let _ ← projectDemoOffer backend env context canonicalProductId channelId priceMinor maxAgeSeconds
      pure ()
  | .record change => write fun market => { market with evidence := change market.evidence }
  | .request context offerId idempotencyKey maxAgeSeconds => do
      let _ ← requestDemoOfferApproval backend env context offerId idempotencyKey maxAgeSeconds
      pure ()
  | .verify context offerId commandId maxAgeSeconds => do
      let _ ← verifyApprovedDemoOffer backend env context offerId commandId maxAgeSeconds
      pure ()
  | .lifecycle call => do
      let _ ← onStore (Approvals.perform call)
      pure ()

def marketStep (call : MarketCall env) (s : Session Market) : Except Failure Unit × Session Market :=
  (performMarket backend env hash call).run s

end

/-! ## The store behind a catalog -/

section

variable {s t : Session Store}

theorem follows_auditBy {action : String} {target : Uuid} {outcome : String} {metadata : Mapping} :
    Follows (Change env) (auditBy env context action target outcome metadata) := by
  intro s result t ran
  obtain rfl := auditBy_eq_ok.mp ran
  exact .single (.other (quiet_of_same rfl rfl ⟨Nat.le_succ _, Nat.le_add_right _ _⟩))

theorem follows_publish {tenant aggregate : Uuid} {topic : String} {payload : Mapping} {key : OutboxKey}
    {createdAt : Timestamp} (silent : topic ∉ serviceTopics) :
    Follows (Change env) (publish tenant topic aggregate payload key createdAt) := by
  intro s result t ran
  obtain ⟨-, rfl⟩ := publish_eq_ok.mp ran
  exact .single (.other (quiet_published rfl rfl (Nat.le_refl _) (Nat.lt_succ_self _) (Nat.le_refl _) silent))

end

section

variable {s t : Session Shelf}

/-- What a step on the shelf does to the store. -/
def Stored (env : Env) (s t : Session Shelf) : Prop := ReflTransGen (Change env) (storePart.view s) (storePart.view t)

theorem stored_of_steps (steps : ReflTransGen (Stored env) s t) : Stored env s t := by
  induction steps with
  | refl => exact .refl
  | tail _ step ih => exact ih.trans step

theorem stored_beside {α : Type} {body : ShelfOp α} (keeps : Keeps Shelf.store body) : Settles (Stored env) body := by
  intro s
  have same : (body.run s).2.db.store = s.db.store := keeps s
  exact .single (.single (change_idles _ _ same (body.advances s)))

theorem stored_idles : Idles (Stored env) := fun _ _ same advances =>
  .single (change_idles _ _ (congrArg Shelf.store same) advances)

theorem stored_inStore {α : Type} {operation : Op α} (follows : Follows (Change env) operation) :
    Follows (Stored env) (inStore operation) := by
  intro s result t ran
  obtain ⟨after, returned, rfl⟩ := (on_eq_ok _ _ _ _).mp ran
  exact .single (follows _ _ after returned)

/-- A new row is written beside the store. -/
theorem keeps_put {α : Type} (value : α) {change : Shelf → Shelf} (same : ∀ shelf, (change shelf).store = shelf.store) :
    Keeps Shelf.store (do
      write change
      pure value : ShelfOp α) :=
  (keeps_write same).bind fun _ => keeps_pure _

theorem keeps_saveCatalogImport (value : DemoCatalogImport) :
    Keeps Shelf.store ((catalogRepository backend).saveCatalogImport value) := by
  cases backend with
  | memory =>
    refine (keeps_query _).bind fun found => ?_
    cases found with
    | some prior => exact (keeps_ensure _ _).bind fun _ => keeps_pure _
    | none => exact keeps_put _ fun _ => rfl
  | sqlite =>
    refine (keeps_query _).bind fun found => ?_
    cases found with
    | some prior => exact (keeps_ensure _ _).bind fun _ => keeps_pure _
    | none =>
      exact (keeps_query _).bind fun _ => (keeps_ensure _ _).bind fun _ => keeps_put _ fun _ => rfl

theorem keeps_saveCatalogSnapshot (value : DemoCatalogSnapshot) :
    Keeps Shelf.store ((catalogRepository backend).saveCatalogSnapshot value) := by
  cases backend with
  | memory =>
    refine (keeps_query _).bind fun found => ?_
    cases found with
    | some prior => exact (keeps_ensure _ _).bind fun _ => keeps_pure _
    | none => exact keeps_put _ fun _ => rfl
  | sqlite =>
    refine (keeps_query _).bind fun refused => Keeps.ite ?_ ?_
    · refine (keeps_query _).bind fun found => ?_
      cases found with
      | some row => exact (keeps_ensure _ _).bind fun _ => keeps_pure _
      | none => exact keeps_raise _
    · exact keeps_put _ fun _ => rfl

theorem keeps_saveCanonicalProduct (value : DemoCanonicalProduct) :
    Keeps Shelf.store ((catalogRepository backend).saveCanonicalProduct value) := by
  cases backend with
  | memory =>
    refine (keeps_query _).bind fun found => ?_
    cases found with
    | some prior => exact (keeps_ensure _ _).bind fun _ => keeps_pure _
    | none => exact keeps_put _ fun _ => rfl
  | sqlite =>
    refine (keeps_query _).bind fun found => ?_
    cases found with
    | some prior => exact (keeps_ensure _ _).bind fun _ => keeps_pure _
    | none =>
      exact (keeps_ensure _ _).bind fun _ => (keeps_query _).bind fun _ => (keeps_ensure _ _).bind fun _ =>
        keeps_put _ fun _ => rfl

theorem keeps_saveProductLineage (value : DemoProductLineage) :
    Keeps Shelf.store ((catalogRepository backend).saveProductLineage value) := by
  cases backend with
  | memory =>
    refine (keeps_query _).bind fun found => ?_
    cases found with
    | some prior => exact (keeps_ensure _ _).bind fun _ => keeps_pure _
    | none => exact keeps_put _ fun _ => rfl
  | sqlite =>
    refine (keeps_query _).bind fun found => ?_
    cases found with
    | some prior => exact (keeps_ensure _ _).bind fun _ => keeps_pure _
    | none =>
      exact (keeps_query _).bind fun _ => (keeps_ensure _ _).bind fun _ => keeps_put _ fun _ => rfl

theorem stored_ingest (supplierId : String) (rows : Json) (idempotencyKey : String) :
    Settles (Stored env)
      (ingestDemoCatalog (catalogRepository backend) env hash context supplierId rows idempotencyKey) := by
  have still : ∀ {α : Type} {body : ShelfOp α}, Keeps (fun shelf => shelf) body → Settles (Stored env) body :=
    fun keeps => stored_beside (keeps.mono fun _ _ same => congrArg Shelf.store same)
  refine (still (keeps_require _).on).bind fun _ => (still (keeps_ofExcept _)).bind fun intake => ?_
  refine (still keeps_now.on).bind fun now => Follows.transaction stored_idles ?_
  refine (still keeps_freshUuid).follows.bind fun id => ?_
  refine (stored_beside (keeps_saveCatalogImport _)).follows.bind fun (batch, replay) => ?_
  cases replay with
  | true => exact (still (keeps_pure _)).follows
  | false =>
    refine (Follows.each intake.rows fun row => ?_).bind fun _ => ?_
    · refine (still keeps_freshUuid).follows.bind fun _ => ?_
      refine (stored_beside (keeps_saveCatalogSnapshot _)).follows.bind fun _ => ?_
      refine (still keeps_freshUuid).follows.bind fun _ => ?_
      refine (stored_beside (keeps_saveCanonicalProduct _)).follows.bind fun _ => ?_
      refine (still keeps_freshUuid).follows.bind fun _ => ?_
      exact (stored_beside (keeps_saveProductLineage _)).follows.bind fun _ => (still (keeps_pure _)).follows
    · refine (stored_inStore follows_auditBy).bind fun _ => ?_
      exact (stored_inStore (follows_publish (by decide))).bind fun _ => (still (keeps_pure _)).follows

end

/-! ## What a market keeps -/

/-- The offer is of the product as it was projected. -/
structure DemoChannelOffer.Of (offer : DemoChannelOffer) (product : DemoCanonicalProduct) : Prop where
  snapshot : offer.sourceSnapshotId = product.sourceSnapshotId
  currency : offer.currency = product.currency
  sku : offer.externalKey = product.sku

/-- Where an offer is made: of what product, and on what channel. -/
def DemoChannelOffer.place (offer : DemoChannelOffer) : Uuid × String × Uuid :=
  (offer.tenantId, offer.channelId, offer.canonicalProductId)

/-- The product of every offer is there, and a product has one offer on a channel. -/
structure Offered (s : Session Market) : Prop where
  shelved : Shelved (shelfPart.view s)
  drawn : ∀ row ∈ s.db.channelOffers.rows, row.id < s.uuids
  matching : ∀ row ∈ s.db.channelOffers.rows, ∃ product,
    s.db.shelf.canonicalProducts.get? (row.tenantId, row.canonicalProductId) = some product ∧ row.Of product
  once : ∀ row ∈ s.db.channelOffers.rows, ∀ other ∈ s.db.channelOffers.rows, row.place = other.place → row = other

/-- Offers and products stay, and the store only evolves. -/
structure Traded (env : Env) (s t : Session Market) : Prop where
  history : ReflTransGen (Evolution env) (marketStore.view s) (marketStore.view t)
  products : ∀ row ∈ s.db.shelf.canonicalProducts.rows, row ∈ t.db.shelf.canonicalProducts.rows
  offers : ∀ row ∈ s.db.channelOffers.rows, row ∈ t.db.channelOffers.rows

/-- From a state in which offers are kept. -/
def Trades (env : Env) (s t : Session Market) : Prop := Offered s → Offered t ∧ Traded env s t

def withOffer (row : DemoChannelOffer) (s : Session Market) : Session Market :=
  { s with db := { s.db with channelOffers := s.db.channelOffers.put row } }

section

variable {s t u : Session Market}

theorem Traded.refl (s : Session Market) : Traded env s s := ⟨.refl, fun _ member => member, fun _ member => member⟩

theorem Traded.trans (first : Traded env s t) (second : Traded env t u) : Traded env s u where
  history := first.history.trans second.history
  products row member := second.products row (first.products row member)
  offers row member := second.offers row (first.offers row member)

theorem trades_of_steps (steps : ReflTransGen (Trades env) s t) : Trades env s t := by
  intro offered
  induction steps with
  | refl => exact ⟨offered, .refl _⟩
  | tail _ step ih =>
    obtain ⟨holds, traded⟩ := step ih.1
    exact ⟨holds, ih.2.trans traded⟩

/-- A step that leaves the offers alone, and the products where they are. -/
theorem Offered.beside (offered : Offered s) (shelved : Shelved (shelfPart.view t))
    (products : ∀ row ∈ s.db.shelf.canonicalProducts.rows, row ∈ t.db.shelf.canonicalProducts.rows)
    (offers : t.db.channelOffers = s.db.channelOffers) (uuids : s.uuids ≤ t.uuids) : Offered t where
  shelved := shelved
  drawn row member := Nat.lt_of_lt_of_le (offered.drawn row (offers ▸ member)) uuids
  matching row member := by
    obtain ⟨product, found, of⟩ := offered.matching row (offers ▸ member)
    have stays := t.db.shelf.canonicalProducts.get?_key (products _ (Table.mem_of_get? found))
    rw [Table.key_of_get? found] at stays
    exact ⟨product, stays, of⟩
  once := by
    rw [offers]
    exact offered.once

theorem trades_idles : Idles (Trades env) := by
  intro s t same advances offered
  have shelf : SameShelf (shelfPart.view s) (shelfPart.view t) :=
    SameShelf.of_db (congrArg Market.shelf same) advances.2
  refine ⟨offered.beside (offered.shelved.of_same shelf) ?_ (congrArg Market.channelOffers same) advances.2, ?_, ?_, ?_⟩
  · rw [same]
    exact fun _ member => member
  · exact .single (.inl (change_idles _ _ (congrArg (fun market => market.shelf.store) same) advances))
  · rw [same]
    exact fun _ member => member
  · rw [same]
    exact fun _ member => member

theorem trades_still {α : Type} {body : MarketOp α} (keeps : Keeps (fun market => market) body) :
    Settles (Trades env) body := fun s => .single (trades_idles _ _ (keeps s) (body.advances s))

/-- What happens in the store leaves the offers and the catalog alone. -/
theorem trades_history {α : Type} {operation : Op α} {s : Session Market}
    (history : ReflTransGen (Evolution env) (marketStore.view s) (operation.run (marketStore.view s)).2) :
    Trades env s ((onStore operation).run s).2 := by
  intro offered
  have advances := (onStore operation).advances s
  exact ⟨offered.beside (offered.shelved.of_same ⟨rfl, rfl, rfl, rfl, advances.2⟩) (fun _ member => member) rfl advances.2,
    history, fun _ member => member, fun _ member => member⟩

theorem trades_onStore {α : Type} {operation : Op α} (settles : Settles (Evolution env) operation) :
    Settles (Trades env) (onStore operation) := fun s => .single (trades_history (settles (marketStore.view s)))

theorem trades_onStore_follows {α : Type} {operation : Op α} (follows : Follows (Change env) operation) :
    Follows (Trades env) (onStore operation) := by
  intro s result t ran
  obtain ⟨after, returned, -⟩ := (on_eq_ok _ _ _ _).mp ran
  have history : ReflTransGen (Evolution env) (marketStore.view s) (operation.run (marketStore.view s)).2 := by
    rw [returned]
    exact ReflTransGen.mono (fun _ _ change => .inl change) _ _ (follows _ _ _ returned)
  have step := trades_history history
  rw [ran] at step
  exact .single step

theorem trades_ingest (supplierId : String) (rows : Json) (idempotencyKey : String) :
    Settles (Trades env) (onShelf
      (ingestDemoCatalog (catalogRepository backend) env hash context supplierId rows idempotencyKey)) := by
  intro s
  refine .single fun offered => ?_
  have stored := @stored_ingest env backend hash context supplierId rows idempotencyKey (shelfPart.view s)
  have kept := @catalogStep_grown (catalogRepository backend) env hash _ (catalogRepository_saves backend) offered.shelved
    (.ingest context supplierId rows idempotencyKey)
  rw [catalogStep_ingest] at kept
  obtain ⟨shelved, grown⟩ := kept
  exact ⟨offered.beside shelved grown.products rfl grown.uuids,
    ReflTransGen.mono (fun _ _ change => .inl change) _ _ (stored_of_steps stored), grown.products, fun _ member => member⟩

/-! ## Operations -/

@[simp] theorem getCanonicalProduct_eq_ok {tenant product : Uuid} {row : DemoCanonicalProduct} :
    (getCanonicalProduct tenant product).run s = (.ok row, t) ↔
      s.db.shelf.canonicalProducts.get? (tenant, product) = some row ∧ t = s := by
  simp only [getCanonicalProduct, bind_eq_ok, query_eq_ok, fetch_eq_ok, exists_and_left, exists_eq_left', and_assoc,
    exists_eq_left]

@[simp] theorem getChannelOffer_eq_ok {tenant offer : Uuid} {row : DemoChannelOffer} :
    (getChannelOffer tenant offer).run s = (.ok row, t) ↔ s.db.channelOffers.get? (tenant, offer) = some row ∧ t = s := by
  simp only [getChannelOffer, bind_eq_ok, query_eq_ok, fetch_eq_ok, exists_and_left, exists_eq_left', and_assoc,
    exists_eq_left]

@[simp] theorem onStore_now_eq_ok {time : Timestamp} :
    (onStore (now env)).run s = (.ok time, t) ↔ time = env.clock s.reads ∧ t = { s with reads := s.reads + 1 } := by
  simp only [onStore, on_eq_ok, now_eq_ok]
  constructor
  · rintro ⟨_, ⟨rfl, rfl⟩, rfl⟩
    exact ⟨rfl, rfl⟩
  · rintro ⟨rfl, rfl⟩
    exact ⟨_, ⟨rfl, rfl⟩, rfl⟩

@[simp] theorem gatesOn_eq_ok {sku : String} {maxAgeSeconds : Int} {priceMinor : Option Int} {result : GateEvidence} :
    (gatesOn backend env context sku maxAgeSeconds priceMinor).run s = (.ok result, t) ↔
      gates backend s.db.evidence context.tenantId sku (env.clock s.reads) maxAgeSeconds priceMinor = .ok result ∧
        t = { s with reads := s.reads + 1 } := by
  simp only [gatesOn, bind_eq_ok, query_eq_ok, onStore_now_eq_ok, ofExcept_eq_ok, exists_and_left, exists_eq_left',
    exists_eq_left, and_assoc]

theorem keeps_gatesOn {sku : String} {maxAgeSeconds : Int} {priceMinor : Option Int} :
    Keeps (fun market => market) (gatesOn backend env context sku maxAgeSeconds priceMinor) :=
  (keeps_query _).bind fun _ => keeps_now.on.bind fun _ => keeps_ofExcept _

theorem keeps_offerIntent {offerId : Uuid} : Keeps (fun market => market) (offerIntent context offerId) :=
  ((keeps_query _).bind fun _ => keeps_fetch _ _).bind fun _ =>
    ((keeps_query _).bind fun _ => keeps_fetch _ _).bind fun _ => (keeps_ensure _ _).bind fun _ => keeps_pure _

theorem keeps_admitOffer {value : DemoChannelOffer} : Keeps (fun market => market) (admitOffer backend value) := by
  cases backend with
  | memory => exact keeps_pure _
  | sqlite => exact (keeps_ensure _ _).bind fun _ => (keeps_query _).bind fun _ => keeps_ensure _ _

/-- The offer of the product on the channel, found or added. -/
theorem saveChannelOffer_ok {value saved : DemoChannelOffer} {replay : Bool}
    (ran : (saveChannelOffer backend value).run s = (.ok (saved, replay), t)) :
    (replay = true ∧ t = s) ∨
      (replay = false ∧ offerOn s.db value.tenantId value.channelId value.canonicalProductId = none ∧ saved = value ∧
        ∃ middle : Session Market, middle.db = s.db ∧ s.Advances middle ∧ t = withOffer saved middle) := by
  simp only [saveChannelOffer, bind_eq_ok, query_eq_ok] at ran
  obtain ⟨found, s, ⟨lookup, rfl⟩, ran⟩ := ran
  cases found with
  | some prior =>
    simp only [bind_eq_ok, ensure_eq_ok, pure_eq_ok, Prod.mk.injEq] at ran
    obtain ⟨_, _, ⟨-, rfl⟩, ⟨-, rfl⟩, rfl⟩ := ran
    exact .inl ⟨rfl, rfl⟩
  | none =>
    simp only [bind_eq_ok, write_eq_ok, pure_eq_ok, Prod.mk.injEq] at ran
    obtain ⟨_, middle, admitted, _, _, rfl, ⟨rfl, rfl⟩, rfl⟩ := ran
    have same := keeps_admitOffer.of_run admitted
    have advances := (admitOffer backend saved).advances s
    rw [admitted] at advances
    refine .inr ⟨rfl, lookup, rfl, middle, same, advances, ?_⟩
    rfl

/-- A new offer of a product that is there. -/
theorem Offered.add (offered : Offered s) {offer : DemoChannelOffer} {product : DemoCanonicalProduct}
    (of : offer.Of product) (drawn : offer.id < s.uuids) (fresh : s.db.channelOffers.get? offer.key = none)
    (found : s.db.shelf.canonicalProducts.get? (offer.tenantId, offer.canonicalProductId) = some product)
    (unused : offerOn s.db offer.tenantId offer.channelId offer.canonicalProductId = none) :
    Offered (withOffer offer s) ∧ Traded env s (withOffer offer s) := by
  refine ⟨⟨offered.shelved, ?_, ?_, ?_⟩, .refl, fun _ member => member,
    fun _ member => (Table.mem_put_of_fresh fresh).mpr (.inr member)⟩
  · exact Table.forall_put offered.drawn drawn
  · exact Table.forall_put offered.matching ⟨product, found, of⟩
  · refine Library.distinct_added offer (fun row member => ?_) offered.once
    refine ((Table.mem_put_of_fresh fresh).mp member).imp_right fun member => ⟨member, fun same => ?_⟩
    simp only [DemoChannelOffer.place, Prod.mk.injEq] at same
    exact List.find?_eq_none.mp unused row member (decide_eq_true same)

theorem follows_announceOffer {offer : DemoChannelOffer} {channelId : String} {product : Uuid} :
    Follows (Trades env) (announceOffer env context offer channelId product) := by
  refine (trades_onStore_follows follows_auditBy).bind fun _ => ?_
  exact (trades_still keeps_now.on).follows.bind fun _ => trades_onStore_follows (follows_publish (by decide))

theorem follows_projectOffer (canonicalProductId : Uuid) (channelId : String) (priceMinor : Option Int)
    (maxAgeSeconds : Int) :
    Follows (Trades env) (projectOffer backend env context canonicalProductId channelId priceMinor maxAgeSeconds) := by
  rintro s ⟨offer, replay⟩ t ran
  simp only [projectOffer, bind_eq_ok, getCanonicalProduct_eq_ok, ensure_eq_ok, gatesOn_eq_ok, freshUuid_eq_ok,
    onStore_now_eq_ok] at ran
  obtain ⟨product, s, ⟨found, rfl⟩, _, s, ⟨-, rfl⟩, _, _, ⟨-, rfl⟩, _, _, ⟨rfl, rfl⟩, _, _, ⟨rfl, rfl⟩,
    ⟨saved, again⟩, u, kept, ran⟩ := ran
  have product_id : product.id = canonicalProductId := congrArg Prod.snd (Table.key_of_get? found)
  -- the price, the identifier and the time are there, and the save finds an offer or adds this one
  have saving : Trades env s u := by
    intro offered
    rcases saveChannelOffer_ok kept with ⟨-, rfl⟩ | ⟨-, unused, rfl, middle, same, advances, rfl⟩
    · exact trades_idles s _ rfl ⟨Nat.le_add_right _ 2, Nat.le_succ _⟩ offered
    · have between : s.Advances middle :=
        ⟨Nat.le_trans (Nat.le_add_right _ 2) advances.1, Nat.le_trans (Nat.le_succ _) advances.2⟩
      obtain ⟨holds, traded⟩ := trades_idles s middle same between offered
      have of : (newOffer s.uuids context.tenantId channelId product (priceMinor.getD product.priceMinor)
          (env.clock (s.reads + 1))).Of product := ⟨rfl, rfl, rfl⟩
      have added := @Offered.add env middle holds _ product of advances.2 ?_ ?_ ?_
      · exact ⟨added.1, traded.trans added.2⟩
      · rw [same]
        exact get?_fresh offered.drawn rfl
      · rw [same]
        simp only [newOffer, product_id]
        exact found
      · rw [same]
        exact unused
  cases again with
  | true =>
    obtain ⟨-, rfl⟩ := (pure_eq_ok _ _ _ _).mp ran
    exact .single saving
  | false =>
    simp only [Bool.false_eq_true, ↓reduceIte, bind_eq_ok, pure_eq_ok] at ran
    obtain ⟨_, _, told, -, rfl⟩ := ran
    exact ReflTransGen.head saving (follows_announceOffer _ _ _ told)

theorem evolves_of_settles {α : Type} {operation : Op α} (settles : Settles (Change env) operation) :
    Settles (Evolution env) operation := fun s => ReflTransGen.mono (fun _ _ change => .inl change) _ _ (settles s)

theorem trades_projectDemoOffer (canonicalProductId : Uuid) (channelId : String) (priceMinor : Option Int)
    (maxAgeSeconds : Int) : Settles (Trades env)
      (projectDemoOffer backend env context canonicalProductId channelId priceMinor maxAgeSeconds) := by
  refine (trades_still (keeps_require _).on).bind fun _ => (trades_still (keeps_ofExcept _)).bind fun _ => ?_
  exact (trades_still (keeps_ensure _ _)).bind fun _ => Follows.transaction trades_idles (follows_projectOffer _ _ _ _)

theorem trades_requestDemoOfferApproval (offerId : Uuid) (idempotencyKey : String) (maxAgeSeconds : Int) :
    Settles (Trades env) (requestDemoOfferApproval backend env context offerId idempotencyKey maxAgeSeconds) := by
  refine (trades_still (keeps_require _).on).bind fun _ => (trades_still (keeps_ensure _ _)).bind fun _ => ?_
  refine (trades_still (keeps_ofExcept _)).bind fun _ => Follows.transaction trades_idles ?_
  refine (trades_still keeps_offerIntent).follows.bind fun _ => (trades_still keeps_gatesOn).follows.bind fun _ => ?_
  exact (trades_onStore (evolves_of_settles requestApproval_settles)).follows

theorem keeps_verifyApprovedDemoOffer (offerId commandId : Uuid) (maxAgeSeconds : Int) :
    Keeps (fun market => market) (verifyApprovedDemoOffer backend env context offerId commandId maxAgeSeconds) := by
  refine (keeps_require _).on.bind fun _ => keeps_offerIntent.bind fun _ => (keeps_getCommand _).on.bind fun _ => ?_
  refine (keeps_getApprovalForCommand _).on.bind fun _ => (keeps_ensure _ _).bind fun _ => (keeps_ensure _ _).bind fun _ => ?_
  refine keeps_now.on.bind fun _ => (keeps_ensure _ _).bind fun _ => (keeps_ofExcept _).bind fun _ => ?_
  refine (keeps_ofExcept _).bind fun _ => (keeps_ensure _ _).bind fun _ => (keeps_query _).on.bind fun _ => ?_
  exact (keeps_fetch _ _).bind fun _ => (keeps_ensure _ _).bind fun _ => keeps_gatesOn.bind fun _ => keeps_pure _

/-! ## Runs -/

theorem step_trades (call : MarketCall env) (s : Session Market) :
    Trades env s (marketStep backend env hash call s).2 := by
  apply trades_of_steps
  have done : ∀ _ : Unit, Settles (Trades env) (pure () : MarketOp Unit) := fun _ => trades_still (keeps_pure _)
  cases call with
  | ingest context supplierId rows idempotencyKey =>
    exact (trades_ingest supplierId rows idempotencyKey).bind (fun _ => done ()) s
  | project context canonicalProductId channelId priceMinor maxAgeSeconds =>
    exact (trades_projectDemoOffer canonicalProductId channelId priceMinor maxAgeSeconds).bind (fun _ => done ()) s
  | record change =>
    exact .single fun offered =>
      ⟨offered.beside offered.shelved (fun _ member => member) rfl (Nat.le_refl _), .refl, fun _ member => member,
        fun _ member => member⟩
  | request context offerId idempotencyKey maxAgeSeconds =>
    exact (trades_requestDemoOfferApproval offerId idempotencyKey maxAgeSeconds).bind (fun _ => done ()) s
  | verify context offerId commandId maxAgeSeconds =>
    exact (trades_still (keeps_verifyApprovedDemoOffer offerId commandId maxAgeSeconds)).bind (fun _ => done ()) s
  | lifecycle call =>
    exact (trades_onStore fun store => Approvals.step_evolves call store).bind (fun _ => done ()) s

theorem run_traded (offered : Offered s) (calls : List (MarketCall env)) :
    Offered (final (marketStep backend env hash) s calls) ∧ Traded env s (final (marketStep backend env hash) s calls) :=
  Library.final_invariant (fun state => Offered state ∧ Traded env s state) ⟨offered, .refl s⟩ fun call _ _ holds => by
    obtain ⟨after, traded⟩ := @step_trades env backend hash call _ holds.1
    exact ⟨after, holds.2.trans traded⟩

theorem offered_new : Offered newMarket := by
  refine ⟨shelved_new, ?_, ?_, ?_⟩
  · exact fun _ member => absurd member List.not_mem_nil
  · exact fun _ member => absurd member List.not_mem_nil
  · exact fun _ member => absurd member List.not_mem_nil

end

/-! ## Offers that stay -/

section

variable {s t : Session Market}

@[simp] theorem offerIntent_eq_ok {offerId : Uuid} {offer : DemoChannelOffer} {product : DemoCanonicalProduct} :
    (offerIntent context offerId).run s = (.ok (offer, product), t) ↔
      s.db.channelOffers.get? (context.tenantId, offerId) = some offer ∧
        s.db.shelf.canonicalProducts.get? (context.tenantId, offer.canonicalProductId) = some product ∧
        (offer.sourceSnapshotId = product.sourceSnapshotId ∧ offer.currency = product.currency) ∧ t = s := by
  simp only [offerIntent, bind_eq_ok, getChannelOffer_eq_ok, getCanonicalProduct_eq_ok, ensure_eq_ok, pure_eq_ok,
    Prod.mk.injEq]
  constructor
  · rintro ⟨_, _, ⟨found, rfl⟩, _, _, ⟨made, rfl⟩, _, _, ⟨same, rfl⟩, ⟨rfl, rfl⟩, rfl⟩
    exact ⟨found, made, same, rfl⟩
  · rintro ⟨found, made, same, rfl⟩
    exact ⟨offer, _, ⟨found, rfl⟩, product, _, ⟨made, rfl⟩, (), _, ⟨same, rfl⟩, ⟨rfl, rfl⟩, rfl⟩

theorem Traded.offer_stays (traded : Traded env s t) {key : Uuid × Uuid} {offer : DemoChannelOffer}
    (found : s.db.channelOffers.get? key = some offer) : t.db.channelOffers.get? key = some offer := by
  have stays := t.db.channelOffers.get?_key (traded.offers _ (Table.mem_of_get? found))
  rwa [Table.key_of_get? found] at stays

theorem Traded.product_stays (traded : Traded env s t) {key : Uuid × Uuid} {product : DemoCanonicalProduct}
    (found : s.db.shelf.canonicalProducts.get? key = some product) :
    t.db.shelf.canonicalProducts.get? key = some product := by
  have stays := t.db.shelf.canonicalProducts.get?_key (traded.products _ (Table.mem_of_get? found))
  rwa [Table.key_of_get? found] at stays

end

/-- Whatever calls follow, an offer is read back unchanged with the product that it was projected from, never refused as
one that no longer matches it, and stays the only offer of the product on its channel. -/
theorem offers_kept (backend : Backend) (env : Env) (hash : String → String) (before after : List (MarketCall env)) :
    let reached := final (marketStep backend env hash) newMarket
    ∀ offer ∈ (reached before).db.channelOffers.rows, ∃ product : DemoCanonicalProduct, product.sku = offer.externalKey ∧
      (∀ reader : TenantContext, reader.tenantId = offer.tenantId →
        (offerIntent reader offer.id).run (reached (before ++ after)) =
          (.ok (offer, product), reached (before ++ after))) ∧
      ∀ other ∈ (reached (before ++ after)).db.channelOffers.rows, other.place = offer.place → other = offer := by
  intro reached offer member
  obtain ⟨offered, -⟩ := @run_traded env backend hash _ offered_new before
  obtain ⟨later, traded⟩ := @run_traded env backend hash _ offered after
  rw [← Library.final_append] at later traded
  obtain ⟨product, found, of⟩ := offered.matching offer member
  refine ⟨product, of.sku.symm, fun reader ours => ?_, fun other among same => ?_⟩
  · rw [offerIntent_eq_ok, ours]
    exact ⟨traded.offer_stays ((reached before).db.channelOffers.get?_key member), traded.product_stays found,
      ⟨of.snapshot, of.currency⟩, rfl⟩
  · exact later.once other among offer (traded.offers offer member) same

/-! ## An approved offer -/

section

variable {s t : Session Market}

/-- What only reads the store, in the market. -/
theorem onStore_reads {α : Type} {operation : Op α} {result : α} {holds : Prop}
    (reads : ∀ after, operation.run (marketStore.view s) = (.ok result, after) ↔ holds ∧ after = marketStore.view s) :
    (onStore operation).run s = (.ok result, t) ↔ holds ∧ t = s := by
  simp only [onStore, on_eq_ok, reads]
  constructor
  · rintro ⟨_, ⟨holds, rfl⟩, rfl⟩
    exact ⟨holds, rfl⟩
  · rintro ⟨holds, rfl⟩
    exact ⟨_, ⟨holds, rfl⟩, rfl⟩

@[simp] theorem onStore_require_eq_ok {capability : Capability} {u : Unit} :
    (onStore (require context capability)).run s = (.ok u, t) ↔
      Authorized s.db.shelf.store context capability ∧ t = s :=
  onStore_reads fun _ => require_eq_ok

@[simp] theorem onStore_getCommand_eq_ok {tenant command : Uuid} {row : Command} :
    (onStore (getCommand tenant command)).run s = (.ok row, t) ↔
      s.db.shelf.store.commands.get? (tenant, command) = some row ∧ t = s :=
  onStore_reads fun _ => getCommand_eq_ok

@[simp] theorem onStore_getApprovalForCommand_eq_ok {tenant command : Uuid} {row : Approval} :
    (onStore (getApprovalForCommand tenant command)).run s = (.ok row, t) ↔
      ((∃ found, s.db.shelf.store.commands.get? (tenant, command) = some found) ∧
        s.db.shelf.store.approvals.get? (tenant, command) = some row) ∧ t = s :=
  onStore_reads fun _ => getApprovalForCommand_eq_ok.trans and_assoc.symm

@[simp] theorem onStore_getApprovalIntent_eq_ok {tenant command : Uuid} {row : Option ApprovalIntent} :
    (onStore (getApprovalIntent tenant command)).run s = (.ok row, t) ↔
      s.db.shelf.store.approvalIntents.get? (tenant, command) = row ∧ t = s :=
  onStore_reads fun _ => query_eq_ok _ _ _ _

theorem payload_strict (offer : DemoChannelOffer) (product : DemoCanonicalProduct) :
    (Value.dict (offerPayload offer product)).strictJson = true := rfl

/-- The rows behind an approval that was asked for an offer. -/
structure Asked (db : Market) (tenant : Uuid) (offer : DemoChannelOffer) (product : DemoCanonicalProduct)
    (command : Command) (approval : Approval) : Prop where
  offer_found : db.channelOffers.get? (tenant, offer.id) = some offer
  product_found : db.shelf.canonicalProducts.get? (tenant, offer.canonicalProductId) = some product
  matching : offer.sourceSnapshotId = product.sourceSnapshotId ∧ offer.currency = product.currency
  command_found : db.shelf.store.commands.get? (tenant, command.id) = some command
  approval_found : db.shelf.store.approvals.get? (tenant, command.id) = some approval
  kind : command.kind = .product
  target : command.targetRef = offerRef offer.id
  payload : command.payload = offerPayload offer product
  intent : ∃ intent, db.shelf.store.approvalIntents.get? (tenant, command.id) = some intent ∧
    intent.targetVersion = offer.version

theorem Asked.later {tenant : Uuid} {offer : DemoChannelOffer} {product : DemoCanonicalProduct} {command : Command}
    {approval : Approval} (asked : Asked s.db tenant offer product command approval) (traded : Traded env s t)
    (lockstep : Approvals.Lockstep (marketStore.view s)) :
    ∃ row decided, Asked t.db tenant offer product row decided ∧ row.id = command.id ∧
      row.state = Approvals.commandState decided.state ∧ decided.expiresAt = approval.expiresAt := by
  obtain ⟨holds, onward⟩ := Approvals.evolutions_lockstep lockstep traded.history
  obtain ⟨row, row_found, kind, target, payload⟩ := onward.commands _ _ asked.command_found
  obtain ⟨decided, decided_found, same, -⟩ := onward.approvals _ _ asked.approval_found
  have named : row.id = command.id := congrArg Prod.snd (Table.key_of_get? row_found)
  obtain ⟨intent, intent_found, version⟩ := asked.intent
  refine ⟨row, decided, ?_, named, holds.paired.state row_found decided_found, same.expiresAt⟩
  rw [← named] at row_found decided_found
  exact ⟨traded.offer_stays asked.offer_found, traded.product_stays asked.product_found, asked.matching, row_found,
    decided_found, kind.trans asked.kind, target.trans asked.target, payload.trans asked.payload,
    intent, named ▸ onward.intents _ _ intent_found, version⟩

/-- The readback of an offer, on the rows behind its approval. -/
theorem verify_asked {offer : DemoChannelOffer} {product : DemoCanonicalProduct} {command : Command}
    {approval : Approval} (asked : Asked s.db context.tenantId offer product command approval)
    (states : command.state = Approvals.commandState approval.state) (maxAgeSeconds : Int) (result : VerifiedOffer) :
    (verifyApprovedDemoOffer backend env context offer.id command.id maxAgeSeconds).run s = (.ok result, t) ↔
      Authorized s.db.shelf.store context .tenantAdmin ∧ approval.state = .approved ∧
        env.clock s.reads < approval.expiresAt ∧ ∃ evidence,
          gates backend s.db.evidence context.tenantId product.sku (env.clock (s.reads + 1)) maxAgeSeconds
            (some offer.priceMinor) = .ok evidence ∧
          result = { offerId := offer.id, commandId := command.id, approvedBy := approval.decidedBy, evidence := evidence } ∧
          t = { s with reads := s.reads + 2 } := by
  obtain ⟨intent, intent_found, version⟩ := asked.intent
  have intended : ∀ middle : Session Market, ∀ rows : DemoChannelOffer × DemoCanonicalProduct,
      (offerIntent context offer.id).run s = (.ok rows, middle) ↔ rows = (offer, product) ∧ middle = s := by
    rintro middle ⟨other, made⟩
    rw [offerIntent_eq_ok, asked.offer_found]
    constructor
    · rintro ⟨found, made_found, -, rfl⟩
      cases found
      cases made_found.symm.trans asked.product_found
      exact ⟨rfl, rfl⟩
    · rintro ⟨same, rfl⟩
      cases same
      exact ⟨rfl, asked.product_found, asked.matching, rfl⟩
  have shown : payloadDigest env (offerPayload offer product) = .ok (env.digest (.dict (offerPayload offer product))) :=
    if_pos (payload_strict offer product)
  -- the rows are found and agree, so that what is left are the states, the times and the gates
  simp only [verifyApprovedDemoOffer, bind_eq_ok, onStore_require_eq_ok, onStore_getCommand_eq_ok,
    onStore_getApprovalForCommand_eq_ok, onStore_getApprovalIntent_eq_ok, onStore_now_eq_ok, ensure_eq_ok, ofExcept_eq_ok,
    fetch_eq_ok, gatesOn_eq_ok, pure_eq_ok, exists_and_left, exists_eq_left, exists_eq_left', exists_const, exists_eq',
    and_assoc, Prod.exists, Prod.mk.injEq, Option.some.injEq, Except.ok.injEq, true_and, intended, shown, version,
    intent_found, asked.command_found, asked.approval_found, asked.payload, asked.kind, asked.target]
  refine and_congr_right fun _ => ⟨And.right, fun rest => ⟨?_, rest⟩⟩
  rw [states, rest.1]
  rfl

/-- A request under a key of its own makes a command, its approval and their intent. -/
theorem requested_rows {store after : Session Store} {kind : ApprovalKind} {targetRef : TargetRef} {payload : Mapping}
    {idempotencyKey : CommandKey} {policyVersion targetVersion : Int} {evidence : List Mapping} {command : Command}
    {approval : Approval} (history : ReflTransGen (Evolution env) Execution.newSession store)
    (unused : store.db.commandIdempotency.get? (context.tenantId, idempotencyKey) = none)
    (ran : (requestApproval env context kind targetRef payload idempotencyKey policyVersion targetVersion evidence).run
      store = (.ok (command, approval), after)) :
    after.db.commands.get? (context.tenantId, command.id) = some command ∧
      after.db.approvals.get? (context.tenantId, command.id) = some approval ∧
      (command.kind = kind ∧ command.targetRef = targetRef ∧ command.payload = payload) ∧
      ∃ intent, after.db.approvalIntents.get? (context.tenantId, command.id) = some intent ∧
        intent.targetVersion = targetVersion := by
  obtain ⟨-, -, middle, created, rest⟩ := requestApproval_ok ran
  obtain ⟨-, made | replayed⟩ := createCommand_ok created
  swap
  · cases unused.symm.trans replayed.key_bound
  obtain ⟨-, command_found, approval_found⟩ := createCommand_changes created
  have lockstep := (Approvals.evolutions_lockstep Approvals.lockstep_newSession history).1
  obtain ⟨unborn, -⟩ := Approvals.created_fresh made lockstep
  obtain ⟨-, rfl, -, -, _, rfl⟩ := made
  rcases rest with attached | ⟨prior, prior_found, -, -, rfl⟩
  · obtain ⟨-, -, intent, named, -, version, -, rfl⟩ := attached
    exact ⟨command_found, approval_found, ⟨rfl, rfl, rfl⟩, intent, named ▸ Table.get?_put_self _ _, version⟩
  · -- an intent that is there already stands on a command that is there already
    obtain ⟨early, late, row, _, start, first, later, -, -, row_found, -⟩ :=
      (Approvals.history_attached history _ prior prior_found).exists_attachment
    have begun := (Approvals.evolutions_lockstep Approvals.lockstep_newSession start).1
    obtain ⟨known, known_found, -⟩ :=
      (Approvals.evolutions_lockstep begun (ReflTransGen.head first later)).2.commands _ row row_found
    cases unborn.symm.trans known_found

/-- Behind the request that made a command. -/
theorem asked_of_request {offerId : Uuid} {idempotencyKey : String} {maxAgeSeconds : Int} {command : Command}
    {approval : Approval} (history : ReflTransGen (Evolution env) Execution.newSession (marketStore.view s))
    (unused : s.db.shelf.store.commandIdempotency.get? (context.tenantId, .text (strip idempotencyKey)) = none)
    (ran : (requestDemoOfferApproval backend env context offerId idempotencyKey maxAgeSeconds).run s =
      (.ok (command, approval), t)) :
    ∃ offer product, offer.id = offerId ∧ Asked t.db context.tenantId offer product command approval := by
  simp only [requestDemoOfferApproval, askApproval, bind_eq_ok, onStore_require_eq_ok, ensure_eq_ok, ofExcept_eq_ok,
    transaction_eq_ok, gatesOn_eq_ok] at ran
  obtain ⟨_, s, ⟨-, rfl⟩, _, s, ⟨-, rfl⟩, key, s, ⟨read, rfl⟩, ⟨offer, product⟩, s, intended, ran⟩ := ran
  obtain ⟨found, made, same, rfl⟩ := offerIntent_eq_ok.mp intended
  obtain ⟨evidence, _, ⟨-, rfl⟩, ran⟩ := ran
  obtain ⟨after, requested, rfl⟩ := (on_eq_ok _ _ _ _).mp ran
  have stripped : key = strip idempotencyKey := by
    simp only [catalogText] at read
    split at read
    · cases read
    · exact (Except.ok.inj read).symm
  have evolved : Evolution env (marketStore.view s) (marketStore.view { s with reads := s.reads + 1 }) :=
    .inl (change_idles _ _ rfl ⟨Nat.le_succ _, Nat.le_refl _⟩)
  obtain ⟨command_found, approval_found, ⟨kind, target, payload⟩, intent⟩ :=
    requested_rows (history.tail evolved) (stripped ▸ unused) requested
  have named : offer.id = offerId := congrArg Prod.snd (Table.key_of_get? found)
  subst named
  exact ⟨offer, product, rfl, found, made, same, command_found, approval_found, kind, target, payload, intent⟩

end

/-- From the request that made the command on, whatever else happens: a readback of the offer under the command
succeeds exactly while the approval is approved and has not run out, and the latest margin and stock pass the gates for
the price that was approved. -/
theorem approved_offer_stands (backend : Backend) (env : Env) (hash : String → String) (before after : List (MarketCall env))
    (context reader : TenantContext) (ours : reader.tenantId = context.tenantId) (offerId : Uuid) (idempotencyKey : String)
    (maxAgeSeconds limit : Int) (command : Command) (approval : Approval) (t : Session Market)
    (asked : (requestDemoOfferApproval backend env context offerId idempotencyKey maxAgeSeconds).run
      (final (marketStep backend env hash) newMarket before) = (.ok (command, approval), t))
    (unused : (final (marketStep backend env hash) newMarket before).db.shelf.store.commandIdempotency.get?
      (context.tenantId, .text (strip idempotencyKey)) = none) :
    let now := final (marketStep backend env hash) t after
    ∃ offer row, t.db.channelOffers.get? (context.tenantId, offerId) = some offer ∧
      now.db.shelf.store.approvals.get? (context.tenantId, command.id) = some row ∧
      ∀ (result : VerifiedOffer) (later : Session Market),
        (verifyApprovedDemoOffer backend env reader offerId command.id limit).run now = (.ok result, later) ↔
          Authorized now.db.shelf.store reader .tenantAdmin ∧ row.state = .approved ∧
            env.clock now.reads < approval.expiresAt ∧ ∃ evidence,
              gates backend now.db.evidence context.tenantId offer.externalKey (env.clock (now.reads + 1)) limit
                (some offer.priceMinor) = .ok evidence ∧
              result = { offerId := offerId, commandId := command.id, approvedBy := row.decidedBy, evidence := evidence } ∧
              later = { now with reads := now.reads + 2 } := by
  intro now
  obtain ⟨offered, begun⟩ := @run_traded env backend hash _ offered_new before
  -- the request itself is a step of the market
  have step := trades_of_steps (@trades_requestDemoOfferApproval env backend context offerId idempotencyKey maxAgeSeconds
    (final (marketStep backend env hash) newMarket before)) offered
  rw [asked] at step
  obtain ⟨between, requested⟩ := step
  obtain ⟨-, lasted⟩ := @run_traded env backend hash _ between after
  obtain ⟨offer, product, rfl, rows⟩ := asked_of_request begun.history unused asked
  have lockstep := (Approvals.evolutions_lockstep Approvals.lockstep_newSession
    (begun.history.trans requested.history)).1
  obtain ⟨row, decided, later, named, states, expires⟩ := rows.later lasted lockstep
  obtain ⟨made, made_found, of⟩ := between.matching offer (Table.mem_of_get? rows.offer_found)
  rw [show offer.tenantId = context.tenantId from congrArg Prod.fst (Table.key_of_get? rows.offer_found)] at made_found
  cases made_found.symm.trans rows.product_found
  refine ⟨offer, decided, rows.offer_found, named ▸ later.approval_found, fun result last => ?_⟩
  rw [← ours] at later
  rw [← named, ← expires, of.sku, ← ours]
  exact verify_asked later states limit result

/-! ## A cup on a channel -/

open Execution (demoMaster)
open Approvals (idleEnv bootstrapped)

def cupProjection : DemoPriceProjection where
  id := 50
  tenantId := 0
  sku := "cup"
  sellingPriceMinor := 900
  supplyCostMinor := 500
  variableCostMinor := 0
  feeRate := "0"
  projectedContributionMinor := 400
  projectedMargin := "0.4444"
  status := .ready
  calculatedAt := .utc 0

def cupStock : DemoInventorySnapshot where
  id := 51
  tenantId := 0
  sku := "cup"
  supplierId := "supplier"
  quantity := 5
  observedAt := .utc 0

/-- A catalog with one cup, its offer, and the evidence on it. -/
def cupOffers : List (MarketCall idleEnv) := [
  .lifecycle bootstrapped, .ingest demoMaster "supplier" (cupRow "Cup") "catalog-1",
  .project demoMaster 6 "channel" none 60,
  .record fun evidence => (evidence.savePriceProjection cupProjection).saveInventorySnapshot cupStock]

def offeredCup : Session Market := final (marketStep .sqlite idleEnv sizeDigest) newMarket cupOffers

theorem offers_kept_cup : ∃ offer ∈ offeredCup.db.channelOffers.rows, ∃ product : DemoCanonicalProduct,
    product.sku = offer.externalKey ∧
      (offerIntent demoMaster offer.id).run offeredCup = (.ok (offer, product), offeredCup) := by
  have there : (offeredCup.db.channelOffers.get? (0, 11)).isSome = true := by decide +kernel
  obtain ⟨offer, found⟩ := Option.isSome_iff_exists.mp there
  have member := Table.mem_of_get? found
  obtain ⟨product, sku, intents, -⟩ :=
    offers_kept .sqlite idleEnv sizeDigest cupOffers [] offer member
  have owner : offer.tenantId = 0 := congrArg Prod.fst (Table.key_of_get? found)
  have read := intents demoMaster owner.symm
  rw [List.append_nil, ← offeredCup] at read
  exact ⟨offer, member, product, sku, read⟩

def askedCup : Except Failure (Command × Approval) × Session Market :=
  (requestDemoOfferApproval .sqlite idleEnv demoMaster 11 "offer-1" 60).run offeredCup

/-- Behind the decision on its approval. -/
def approvedCup : Session Market :=
  final (marketStep .sqlite idleEnv sizeDigest) askedCup.2 [.lifecycle (.decide demoMaster 15 true "yes")]

theorem approved_offer_stands_cup : ∃ result later,
    (verifyApprovedDemoOffer .sqlite idleEnv demoMaster 11 15 60).run approvedCup =
      (.ok result, later) := by
  obtain ⟨made, shown, decided, allowed, passed⟩ :
      askedCup.1.map (fun rows => (rows.1.id, rows.2.expiresAt)) = .ok (15, .utc 86400) ∧
        (askedCup.2.db.channelOffers.get? (demoMaster.tenantId, 11)).map (fun row => (row.externalKey, row.priceMinor)) =
          some ("cup", 900) ∧
        (approvedCup.db.shelf.store.approvals.get? (demoMaster.tenantId, 15)).map (·.state) = some .approved ∧
        ((onStore (require demoMaster .tenantAdmin)).run approvedCup).1.isOk = true ∧
        gates .sqlite approvedCup.db.evidence demoMaster.tenantId "cup" (.utc 0) 60 (some 900) =
          .ok ⟨some 50, some "0.4444", some 51, some 5⟩ := by
    decide +kernel
  have authorized : Authorized approvedCup.db.shelf.store demoMaster .tenantAdmin := by
    rcases ran : (onStore (require demoMaster .tenantAdmin)).run approvedCup with ⟨why | _, after⟩
    · rw [ran] at allowed
      cases allowed
    · exact (onStore_require_eq_ok.mp ran).1
  rcases ran : askedCup with ⟨why | ⟨command, approval⟩, t⟩
  · rw [ran] at made
    cases made
  rw [ran] at made shown
  have behind : approvedCup = final (marketStep .sqlite idleEnv sizeDigest) t
      [.lifecycle (.decide demoMaster 15 true "yes")] := by rw [approvedCup, ran]
  obtain ⟨named, expires⟩ : command.id = 15 ∧ approval.expiresAt = .utc 86400 := Prod.mk.inj (Except.ok.inj made)
  rw [askedCup, offeredCup] at ran
  obtain ⟨offer, row, offer_found, row_found, verified⟩ := approved_offer_stands .sqlite idleEnv sizeDigest
    cupOffers [.lifecycle (.decide demoMaster 15 true "yes")] demoMaster demoMaster rfl 11
    "offer-1" 60 60 command approval t ran (by decide +kernel)
  rw [← behind, named] at row_found verified
  rw [row_found] at decided
  rw [offer_found] at shown
  obtain ⟨sku, price⟩ := Prod.mk.inj (Option.some.inj shown)
  refine ⟨_, _, (verified _ _).mpr ⟨authorized, Option.some.inj decided, ?_,
    ⟨some 50, some "0.4444", some 51, some 5⟩, ?_, rfl, rfl⟩⟩
  · rw [expires]
    decide
  · rw [sku, price]
    exact passed

end AiStore.Catalog
