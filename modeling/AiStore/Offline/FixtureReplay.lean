import AiStore.Ingestion.PoisonPages
import AiStore.Ingestion.Receipts
import AiStore.Library.JsonOrder
import AiStore.Offline.FixtureOrders
import AiStore.Offline.TrackingBatch

/-! The orders of a fixture page do not depend on the order of its rows. -/

set_option autoImplicit false

namespace AiStore.Offline

open Library
open Ingestion (DemoPage)

/-! ## Lists read element by element -/

section

variable {ε α β κ : Type}

theorem each_eq_ok {read : α → Except ε β} {items : List α} {results : List β} :
    each read items = .ok results ↔ List.Forall₂ (fun item result => read item = .ok result) items results := by
  induction items generalizing results with
  | nil =>
    rw [List.forall₂_nil_left_iff]
    constructor
    · rintro ⟨⟩
      rfl
    · rintro rfl
      rfl
  | cons item rest ih =>
    simp only [each, except_bind_eq_ok, ih, List.forall₂_cons_left_iff]
    constructor
    · rintro ⟨first, one, others, behind, made⟩
      cases made
      exact ⟨first, others, one, behind, rfl⟩
    · rintro ⟨first, others, one, behind, rfl⟩
      exact ⟨first, one, others, behind, rfl⟩

theorem each_perm {read : α → Except ε β} {items moved : List α} {results : List β} (perm : items.Perm moved)
    (ran : each read items = .ok results) : ∃ others, each read moved = .ok others ∧ results.Perm others := by
  obtain ⟨others, related, same⟩ := List.perm_comp_forall₂ perm.symm (each_eq_ok.mp ran)
  exact ⟨others, each_eq_ok.mpr related, same.symm⟩

variable {name : β → κ} {read : List κ → α → Checked (List β)}

/-- The names that have been seen matter only for the refusal of seen ones. -/
structure Local (name : β → κ) (read : List κ → α → Checked (List β)) : Prop where
  fresh : ∀ seen item found, read seen item = .ok found ↔ read [] item = .ok found ∧ ∀ one ∈ found, name one ∉ seen
  distinct : ∀ item found, read [] item = .ok found → (found.map name).Nodup

/-- A list is read when its elements are, under distinct names that have not been seen. -/
theorem readAll_eq_ok (here : Local name read) {seen : List κ} {items : List α} {results : List β} :
    readAll name read seen items = .ok results ↔
      ∃ parts, List.Forall₂ (fun item found => read [] item = .ok found) items parts ∧ results = parts.flatten ∧
        (results.map name).Nodup ∧ ∀ one ∈ results, name one ∉ seen := by
  induction items generalizing seen results with
  | nil =>
    constructor
    · rintro ⟨⟩
      exact ⟨[], .nil, rfl, List.nodup_nil, List.forall_mem_nil _⟩
    · rintro ⟨parts, none_left, rfl, -⟩
      cases none_left
      rfl
  | cons item rest ih =>
    simp only [readAll, except_bind_eq_ok, ih, here.fresh seen]
    constructor
    · rintro ⟨found, ⟨one, unseen⟩, others, ⟨parts, related, rfl, distinct, apart⟩, made⟩
      cases made
      refine ⟨found :: parts, .cons one related, rfl, ?_, ?_⟩
      · rw [List.map_append, List.nodup_append']
        refine ⟨here.distinct _ _ one, distinct, fun key left right => ?_⟩
        obtain ⟨later, behind, rfl⟩ := List.mem_map.mp right
        exact apart later behind (List.mem_append_left _ left)
      · exact List.forall_mem_append.mpr ⟨unseen, fun later member known => apart later member (List.mem_append_right _ known)⟩
    · rintro ⟨all, every, rfl, distinct, unseen⟩
      obtain ⟨found, parts, one, related, rfl⟩ := List.forall₂_cons_left_iff.mp every
      obtain ⟨fresh, behind⟩ := List.forall_mem_append.mp unseen
      rw [List.flatten_cons, List.map_append, List.nodup_append'] at distinct
      obtain ⟨-, others, apart⟩ := distinct
      refine ⟨found, ⟨one, fresh⟩, _, ⟨parts, related, rfl, others, fun later member known => ?_⟩, rfl⟩
      rcases List.mem_append.mp known with among | before
      · exact apart among (List.mem_map_of_mem member)
      · exact behind later member before

theorem Local.readAll (here : Local name read) : Local name fun seen items => readAll name read seen items where
  fresh seen items found := by
    rw [readAll_eq_ok here, readAll_eq_ok here]
    constructor
    · rintro ⟨parts, related, same, distinct, unseen⟩
      exact ⟨⟨parts, related, same, distinct, fun _ _ => List.not_mem_nil⟩, unseen⟩
    · rintro ⟨⟨parts, related, same, distinct, -⟩, unseen⟩
      exact ⟨parts, related, same, distinct, unseen⟩
  distinct items found ran := by
    obtain ⟨-, -, -, distinct, -⟩ := (readAll_eq_ok here).mp ran
    exact distinct

theorem readAll_perm (here : Local name read) {seen : List κ} {items moved : List α} {results : List β}
    (perm : items.Perm moved) (ran : Offline.readAll name read seen items = .ok results) :
    ∃ others, Offline.readAll name read seen moved = .ok others ∧ results.Perm others := by
  obtain ⟨parts, related, rfl, distinct, unseen⟩ := (readAll_eq_ok here).mp ran
  obtain ⟨others, again, same⟩ := List.perm_comp_forall₂ perm.symm related
  have flat : parts.flatten.Perm others.flatten := same.symm.flatten
  refine ⟨others.flatten, (readAll_eq_ok here).mpr ⟨others, again, rfl, ?_, fun one member => ?_⟩, flat⟩
  · exact (flat.map name).nodup_iff.mp distinct
  · exact unseen one (flat.mem_iff.mpr member)

end

/-! ## Rows of a page -/

section

variable {hash : String → String} {printable : String → Bool}

theorem naverSnapshots_eq (seen : List String) (rows : List Json) : naverSnapshots hash seen rows =
    readAll OfflineOrderSnapshot.lineId (fun seen row => alone (naverSnapshot hash seen row)) seen rows := by
  induction rows generalizing seen with
  | nil => rfl
  | cons row rest ih =>
    rw [naverSnapshots, readAll, alone]
    cases naverSnapshot hash seen row with
    | error why => rfl
    | ok line =>
      change (naverSnapshots hash (line.lineId :: seen) rest >>= fun others => pure (line :: others)) = _
      rw [ih]
      rfl

theorem alone_eq_ok {α : Type} {read : Checked α} {found : List α} :
    alone read = .ok found ↔ ∃ one, read = .ok one ∧ found = [one] := by
  rw [alone, except_bind_eq_ok]
  constructor
  · rintro ⟨one, ran, made⟩
    cases made
    exact ⟨one, ran, rfl⟩
  · rintro ⟨one, ran, rfl⟩
    exact ⟨one, ran, rfl⟩

/-- Elements that are read alone are told apart by their names, if seen names do nothing but refuse them. -/
theorem local_alone {α β κ : Type} {name : β → κ} {read : List κ → α → Checked β}
    (fresh : ∀ seen item one, read seen item = .ok one ↔ read [] item = .ok one ∧ name one ∉ seen) :
    Local name fun seen item => alone (read seen item) where
  fresh seen item found := by
    rw [alone_eq_ok, alone_eq_ok]
    constructor
    · rintro ⟨one, ran, rfl⟩
      obtain ⟨here, unseen⟩ := (fresh seen item one).mp ran
      exact ⟨⟨one, here, rfl⟩, List.forall_mem_singleton.mpr unseen⟩
    · rintro ⟨⟨one, ran, rfl⟩, unseen⟩
      exact ⟨one, (fresh seen item one).mpr ⟨ran, unseen one List.mem_cons_self⟩, rfl⟩
  distinct item found ran := by
    obtain ⟨one, -, rfl⟩ := alone_eq_ok.mp ran
    exact List.nodup_singleton _

theorem local_naver : Local OfflineOrderSnapshot.lineId fun seen row => alone (naverSnapshot hash seen row) := by
  refine local_alone fun seen row line => ?_
  simp only [naverSnapshot, except_bind_eq_ok, require_eq_ok]
  constructor
  · rintro ⟨entries, a, order, b, product, c, lineId, d, u, fresh, rest⟩
    obtain ⟨initial, e, remaining, f, paid, g, left, h, v, i, orderId, j, productId, k, status, l, price, m, digest, n, made⟩ := rest
    cases made
    exact ⟨⟨entries, a, order, b, product, c, lineId, d, u, List.not_mem_nil, initial, e, remaining, f, paid, g, left, h, v, i,
      orderId, j, productId, k, status, l, price, m, digest, n, rfl⟩, fresh⟩
  · rintro ⟨⟨entries, a, order, b, product, c, lineId, d, u, -, rest⟩, fresh⟩
    obtain ⟨initial, e, remaining, f, paid, g, left, h, v, i, orderId, j, productId, k, status, l, price, m, digest, n, made⟩ := rest
    cases made
    exact ⟨entries, a, order, b, product, c, lineId, d, u, fresh, initial, e, remaining, f, paid, g, left, h, v, i,
      orderId, j, productId, k, status, l, price, m, digest, n, rfl⟩

theorem local_line (shipment : ShipmentRow) :
    Local OfflineOrderSnapshot.lineId fun seen line => alone (coupangLine hash shipment seen line) := by
  refine local_alone fun seen line snapshot => ?_
  simp only [coupangLine, except_bind_eq_ok, require_eq_ok]
  constructor
  · rintro ⟨entries, a, number, b, u, fresh, initial, c, cancelled, d, pending, e, v, f, unit, g, price, h, discount, i, w, j,
      productId, k, digest, l, made⟩
    cases made
    exact ⟨⟨entries, a, number, b, u, List.not_mem_nil, initial, c, cancelled, d, pending, e, v, f, unit, g, price, h, discount,
      i, w, j, productId, k, digest, l, rfl⟩, fresh⟩
  · rintro ⟨⟨entries, a, number, b, u, -, initial, c, cancelled, d, pending, e, v, f, unit, g, price, h, discount, i, w, j,
      productId, k, digest, l, made⟩, fresh⟩
    cases made
    exact ⟨entries, a, number, b, u, fresh, initial, c, cancelled, d, pending, e, v, f, unit, g, price, h, discount, i, w, j,
      productId, k, digest, l, rfl⟩

theorem local_shipment : Local OfflineOrderSnapshot.lineId (coupangShipment hash) where
  fresh seen row found := by
    simp only [coupangShipment, except_bind_eq_ok, require_eq_ok]
    constructor
    · rintro ⟨entries, a, orderId, b, shipmentId, c, status, d, shipping, e, remote, f, lines, g, u, h, ran⟩
      obtain ⟨here, unseen⟩ := ((local_line _).readAll.fresh seen lines found).mp ran
      exact ⟨⟨entries, a, orderId, b, shipmentId, c, status, d, shipping, e, remote, f, lines, g, u, h, here⟩, unseen⟩
    · rintro ⟨⟨entries, a, orderId, b, shipmentId, c, status, d, shipping, e, remote, f, lines, g, u, h, here⟩, unseen⟩
      exact ⟨entries, a, orderId, b, shipmentId, c, status, d, shipping, e, remote, f, lines, g, u, h,
        ((local_line _).readAll.fresh seen lines found).mpr ⟨here, unseen⟩⟩
  distinct row found ran := by
    simp only [coupangShipment, except_bind_eq_ok, require_eq_ok] at ran
    obtain ⟨_, -, _, -, _, -, _, -, _, -, _, -, lines, -, _, -, ran⟩ := ran
    exact (local_line _).readAll.distinct lines found ran

end

/-! ## Moved rows -/

/-- The rows of a page in another order; a `dict` holds them under one key. -/
inductive RowsMoved : Json → Json → Prop where
  | data {before after : Entries} {rows moved : List Json} (outer : "data" ∉ before.map Prod.fst) (perm : rows.Perm moved) :
      RowsMoved (.object (before ++ ("data", .list rows) :: after)) (.object (before ++ ("data", .list moved) :: after))

section

variable {hash : String → String} {printable : String → Bool} {before after : Entries} {rows moved : List Json}

theorem rowsOf_moved {maximum : Nat} {found : List Json} (outer : "data" ∉ before.map Prod.fst) (perm : rows.Perm moved)
    (read : rowsOf maximum (get (before ++ ("data", .list rows) :: after) "data") = .ok found) :
    ∃ others, rowsOf maximum (get (before ++ ("data", .list moved) :: after) "data") = .ok others ∧ found.Perm others := by
  rw [get_here outer] at read ⊢
  obtain ⟨same, few⟩ := rowsOf_eq_ok.mp read
  cases same
  exact ⟨moved, rowsOf_eq_ok.mpr ⟨rfl, perm.length_eq ▸ few⟩, perm⟩

/-- The order of the rows makes no difference for the size of a body. -/
theorem digestOf_moved {digest : String} (perm : rows.Perm moved)
    (read : digestOf hash (.object (before ++ ("data", .list rows) :: after)) = .ok digest) :
    ∃ other, digestOf hash (.object (before ++ ("data", .list moved) :: after)) = .ok other := by
  have sizes : Json.size (.list rows) = Json.size (.list moved) := by
    rw [Json.size_list, Json.size_list, Json.itemsSize_perm perm]
  have same : (Json.canonical (.object (before ++ ("data", .list moved) :: after))).utf8ByteSize =
      (Json.canonical (.object (before ++ ("data", .list rows) :: after))).utf8ByteSize := by
    simp only [Json.utf8ByteSize_canonical, Json.size_object, Json.entriesSize, List.map_append, List.map_cons, sizes]
  by_cases small : (Json.canonical (.object (before ++ ("data", .list rows) :: after))).utf8ByteSize ≤ 2 * 1024 * 1024
  · exact ⟨_, digestOf_small (same ▸ small)⟩
  · rw [digestOf_large small] at read
    cases read

/-- A page in another order: the same lines, and nothing else that an adapter reads. -/
structure SamePage (page other : OfflineOrderPage) : Prop where
  lines : page.snapshots.Perm other.snapshots
  cursor : other.nextCursor = page.nextCursor
  distinct : (page.snapshots.map OfflineOrderSnapshot.lineId).Nodup

theorem parseNaverDetails_moved {page : OfflineOrderPage} {requestedIds : List String}
    (outer : "data" ∉ before.map Prod.fst) (perm : rows.Perm moved)
    (parsed : parseNaverDetails hash (.object (before ++ ("data", .list rows) :: after)) requestedIds = .ok page) :
    ∃ other, parseNaverDetails hash (.object (before ++ ("data", .list moved) :: after)) requestedIds = .ok other ∧
      SamePage page other := by
  simp only [parseNaverDetails, except_bind_eq_ok, require_eq_ok, naverSnapshots_eq, object, pure, Except.pure,
    Except.ok.injEq] at parsed ⊢
  obtain ⟨_, digested, _, rfl, data, listed, _, few, expected, named, _, once, snapshots, ran, _, covered, rfl⟩ := parsed
  obtain ⟨digest, again⟩ := digestOf_moved perm digested
  obtain ⟨others, relisted, movedRows⟩ := rowsOf_moved outer perm listed
  obtain ⟨lines, reran, same⟩ := readAll_perm local_naver movedRows ran
  have names := same.map OfflineOrderSnapshot.lineId
  refine ⟨_, ⟨digest, again, _, rfl, others, relisted, (), few, expected, named, (), once, lines, reran, (), ?_, rfl⟩, same, rfl,
    local_naver.readAll.distinct data snapshots ran⟩
  exact ⟨fun _ member => covered.1 (names.symm.subset member), fun _ member => names.subset (covered.2 member)⟩

theorem parseCoupangDayPage_moved {page : OfflineOrderPage} (outer : "data" ∉ before.map Prod.fst)
    (perm : rows.Perm moved)
    (parsed : parseCoupangDayPage hash printable (.object (before ++ ("data", .list rows) :: after)) = .ok page) :
    ∃ other, parseCoupangDayPage hash printable (.object (before ++ ("data", .list moved) :: after)) = .ok other ∧
      SamePage page other := by
  simp only [parseCoupangDayPage, except_bind_eq_ok, require_eq_ok, object, pure, Except.pure, Except.ok.injEq] at parsed ⊢
  obtain ⟨_, digested, _, rfl, _, code, data, listed, snapshots, ran, cursor, token, rfl⟩ := parsed
  obtain ⟨digest, again⟩ := digestOf_moved perm digested
  obtain ⟨others, relisted, movedRows⟩ := rowsOf_moved outer perm listed
  obtain ⟨lines, reran, same⟩ := readAll_perm local_shipment movedRows ran
  refine ⟨_, ⟨digest, again, _, rfl, (), ?_, others, relisted, lines, reran, cursor, ?_, rfl⟩, same, rfl,
    local_shipment.readAll.distinct data snapshots ran⟩
  · rw [get_elsewhere (by decide)]
    exact code
  · rw [get_elsewhere (by decide)]
    exact token

theorem fixturePage_moved {provider : String} {body other claimBody : Json} {requestedIds : List String}
    {page : OfflineOrderPage} {claims : Option String} (rowsMoved : RowsMoved body other)
    (parsed : fixturePage hash printable provider body requestedIds claimBody = .ok (page, claims)) :
    ∃ again, fixturePage hash printable provider other requestedIds claimBody = .ok (again, claims) ∧ SamePage page again := by
  obtain ⟨outer, perm⟩ := rowsMoved
  unfold fixturePage at parsed ⊢
  split at parsed
  · next naver =>
    obtain ⟨_, read, made⟩ := except_bind_eq_ok.mp parsed
    cases made
    obtain ⟨again, reread, same⟩ := parseNaverDetails_moved outer perm read
    exact ⟨again, by rw [if_pos naver, reread]; rfl, same⟩
  · next other =>
    simp only [except_bind_eq_ok, require_eq_ok] at parsed
    obtain ⟨_, read, claimed, claim, _, none_open, made⟩ := parsed
    cases made
    obtain ⟨again, reread, same⟩ := parseCoupangDayPage_moved outer perm read
    refine ⟨again, ?_, same⟩
    rw [if_neg other]
    simp only [except_bind_eq_ok, require_eq_ok]
    exact ⟨again, reread, claimed, claim, (), none_open, rfl⟩

end

/-! ## Groups -/

section

variable {rows moved : List FixtureRow}

theorem textLe_antisymm {first second : String} (left : textLe first second = true) (right : textLe second first = true) :
    first = second :=
  String.toList_injective (List.map_injective_iff.mpr (fun _ _ => Char.toNat_inj.mp) (Timestamp.codesLe_antisymm left right))

theorem textLe_total (first second : String) : textLe first second = true ∨ textLe second first = true :=
  Timestamp.codesLe_total _ _

theorem textLe_trans {first second third : String} (left : textLe first second = true) (right : textLe second third = true) :
    textLe first third = true := Timestamp.codesLe_trans left right

instance : Std.Total fun first second : String => textLe first second = true := ⟨textLe_total⟩

instance : IsTrans String fun first second => textLe first second = true := ⟨fun _ _ _ => textLe_trans⟩

instance : Std.Total fun first second : FixtureRow => lineLe first second = true := ⟨fun _ _ => textLe_total _ _⟩

instance : IsTrans FixtureRow fun first second => lineLe first second = true := ⟨fun _ _ _ => textLe_trans⟩

/-- The rows under the number of an order. -/
def ordered (rows : List FixtureRow) (orderId : String) : List FixtureRow := under (fun row => some row.row.orderId) rows orderId

/-- The numbers of the orders, sorted. -/
def orderIds (rows : List FixtureRow) : List String :=
  ((groupBy (fun row => some row.row.orderId) rows).entries.map Prod.fst).insertionSort fun first second => textLe first second

theorem sortedGroups_eq (rows : List FixtureRow) :
    sortedGroups rows = (orderIds rows).map fun orderId => (orderId, ordered rows orderId) := by
  have same : (groupBy (fun row => some row.row.orderId) rows).entries =
      ((groupBy (fun row => some row.row.orderId) rows).entries.map Prod.fst).map fun orderId => (orderId, ordered rows orderId) := by
    rw [List.map_map]
    refine (List.map_id _).symm.trans (List.map_congr_left fun entry member => ?_)
    exact Prod.ext rfl ((mem_groupBy _ _ _ _).mp member).1
  rw [sortedGroups, same, orderIds]
  exact (List.map_insertionSort (fun first second => textLe first second = true)
    (fun first second : String × List FixtureRow => textLe first.1 second.1 = true)
    (fun orderId => (orderId, ordered rows orderId)) _ fun _ _ _ _ => Iff.rfl).symm

theorem mem_orderIds {orderId : String} : orderId ∈ orderIds rows ↔ ∃ row ∈ rows, row.row.orderId = orderId := by
  rw [orderIds, List.mem_insertionSort, mem_keys_groupBy]
  simp only [Option.some.injEq]

theorem orderIds_nodup (rows : List FixtureRow) : (orderIds rows).Nodup :=
  (List.perm_insertionSort _ _).nodup_iff.mpr (groupBy (fun row : FixtureRow => some row.row.orderId) rows).unique

theorem orderIds_perm (perm : rows.Perm moved) : orderIds rows = orderIds moved := by
  refine List.Perm.eq_of_pairwise (fun _ _ _ _ => textLe_antisymm) (List.pairwise_insertionSort _ _)
    (List.pairwise_insertionSort _ _) ((List.perm_ext_iff_of_nodup (orderIds_nodup rows) (orderIds_nodup moved)).mpr ?_)
  intro orderId
  rw [mem_orderIds, mem_orderIds]
  simp only [perm.mem_iff]

/-- Rows under distinct lines have one sorted order. -/
theorem sortedLines_perm (perm : rows.Perm moved) (distinct : (rows.map fun row => row.row.lineId).Nodup) :
    rows.insertionSort (fun first second => lineLe first second) = moved.insertionSort fun first second => lineLe first second := by
  have left := List.perm_insertionSort (fun first second => lineLe first second = true) rows
  have right := List.perm_insertionSort (fun first second => lineLe first second = true) moved
  refine List.Perm.eq_of_pairwise (fun first second one other up down => ?_) (List.pairwise_insertionSort _ _)
    (List.pairwise_insertionSort _ _) ((left.trans perm).trans right.symm)
  exact List.inj_on_of_nodup_map distinct (left.mem_iff.mp one) (perm.mem_iff.mpr (right.mem_iff.mp other))
    (textLe_antisymm up down)

theorem textLe_refl (text : String) : textLe text text = true := (textLe_total text text).elim id id

/-- Under distinct lines the rest of a triple is never compared. -/
theorem sortedTriples_eq (distinct : (rows.map fun row => row.row.lineId).Nodup) :
    rows.insertionSort (fun first second => tripleLe first second) =
      rows.insertionSort fun first second => lineLe first second := by
  have same := List.map_insertionSort (fun first second => tripleLe first second = true)
    (fun first second => lineLe first second = true) id rows fun first one second other => by
      by_cases equal : first.row.lineId = second.row.lineId
      · obtain rfl := List.inj_on_of_nodup_map distinct one other equal
        simp [tripleLe, lineLe, textLe_refl]
      · rw [tripleLe, if_pos equal]
        rfl
  rwa [List.map_id, List.map_id] at same

theorem orderMaterial_perm {provider : String} {claims : Option String} (perm : rows.Perm moved)
    (distinct : (rows.map fun row => row.row.lineId).Nodup) :
    orderMaterial provider claims rows = orderMaterial provider claims moved := by
  have others : (moved.map fun row => row.row.lineId).Nodup := (perm.map _).nodup_iff.mp distinct
  rw [orderMaterial, orderMaterial, sortedTriples_eq distinct, sortedTriples_eq others, sortedLines_perm perm distinct]

theorem fixtureItem_perm {env : Env} {hash : String → String} {provider orderId : String} {claims : Option String}
    (perm : rows.Perm moved) (distinct : (rows.map fun row => row.row.lineId).Nodup) :
    fixtureItem env hash provider claims (orderId, rows) = fixtureItem env hash provider claims (orderId, moved) := by
  have skus : (rows.map FixtureRow.sku).Nodup ↔ (moved.map FixtureRow.sku).Nodup := (perm.map _).nodup_iff
  have totals : (rows.map fun row => row.unit * row.quantity).sum = (moved.map fun row => row.unit * row.quantity).sum :=
    (perm.map _).sum_eq
  simp only [fixtureItem, require, skus, totals, orderMaterial_perm perm distinct, sortedLines_perm perm distinct]

theorem each_groups_perm {env : Env} {hash : String → String} {provider : String} {claims : Option String}
    (perm : rows.Perm moved) (distinct : (rows.map fun row => row.row.lineId).Nodup) :
    each (fixtureItem env hash provider claims) (sortedGroups rows) =
      each (fixtureItem env hash provider claims) (sortedGroups moved) := by
  rw [sortedGroups_eq, sortedGroups_eq, orderIds_perm perm]
  induction orderIds moved with
  | nil => rfl
  | cons orderId rest ih =>
    have group : (ordered rows orderId).Perm (ordered moved orderId) := perm.filter _
    have apart : ((ordered rows orderId).map fun row => row.row.lineId).Nodup :=
      distinct.sublist (List.filter_sublist.map _)
    rw [List.map_cons, List.map_cons, each, each, ih, fixtureItem_perm group apart]

/-! ## The adapter of moved rows -/

theorem fixtureRow_row {provider : String} {bindings : Entries} {line : OfflineOrderSnapshot} {row : FixtureRow}
    (made : fixtureRow provider bindings line = .ok row) : row.row = line ∧ row.quantity = line.remainingQuantity ∧
      row.unit = amountOf line.amountsKrw "unit_price" ∧ get bindings line.productId = .text row.sku := by
  simp only [fixtureRow, except_bind_eq_ok] at made
  obtain ⟨_, -, _, -, sku, bound, made⟩ := made
  cases made
  refine ⟨rfl, rfl, rfl, ?_⟩
  cases value : get bindings line.productId with
  | text content =>
    rw [value] at bound
    cases bound
    rfl
  | _ =>
    rw [value] at bound
    cases bound

theorem fixtureRows_lines {provider : String} {bindings : Entries} {lines : List OfflineOrderSnapshot}
    (made : each (fixtureRow provider bindings) lines = .ok rows) : rows.map FixtureRow.row = lines := by
  have related := each_eq_ok.mp made
  clear made
  induction related with
  | nil => rfl
  | cons one _ ih => rw [List.map_cons, ih, (fixtureRow_row one).1]

theorem bridged_eq_ok {α : Type} {ran : Checked α} {result : α} : bridged ran = .ok result ↔ ran = .ok result := by
  cases ran <;> simp [bridged]

end

section

variable {env : Env} {hash : String → String} {printable : String → Bool} {request : FixtureRequest} {body other : Json}
  {now : Option Timestamp} {observedAt : Timestamp} {items : List FixtureItem}

theorem fixtureItems_moved (rowsMoved : RowsMoved body other)
    (ran : fixtureItems env hash printable request body now = .ok (observedAt, items)) :
    fixtureItems env hash printable request other now = .ok (observedAt, items) := by
  simp only [fixtureItems, except_bind_eq_ok, bridged_eq_ok, require_eq_ok] at ran ⊢
  obtain ⟨observed, fresh, _, known, bindings, bound, ⟨page, claims⟩, parsed, _, ⟨final, some_line⟩, rows, made, found, ordered,
    _, few, same⟩ := ran
  cases same
  obtain ⟨again, reparsed, page_same⟩ := fixturePage_moved rowsMoved parsed
  obtain ⟨moved, remade, perm⟩ := each_perm page_same.lines made
  have distinct : (rows.map fun row => row.row.lineId).Nodup := by
    have lines := page_same.distinct
    rw [← fixtureRows_lines made, List.map_map] at lines
    exact lines
  have some_moved : again.snapshots ≠ [] := fun none => some_line (none ▸ page_same.lines).eq_nil
  exact ⟨observedAt, fresh, (), known, bindings, bound, (again, claims), reparsed, (), ⟨page_same.cursor.trans final, some_moved⟩,
    moved, remade, items, each_groups_perm perm distinct ▸ ordered, (), few, rfl⟩

theorem contractFixtureReadAdapter_moved {adapter : ContractFixtureReadAdapter} (rowsMoved : RowsMoved body other)
    (ran : contractFixtureReadAdapter env hash printable request body now = .ok adapter) :
    contractFixtureReadAdapter env hash printable request other now = .ok adapter := by
  simp only [contractFixtureReadAdapter, except_bind_eq_ok] at ran ⊢
  obtain ⟨⟨observed, found⟩, items, ran⟩ := ran
  exact ⟨(observed, found), fixtureItems_moved rowsMoved items, ran⟩

end

/-! ## Lines and orders -/

/-- The lines of a row, by the keys that the provider gives them. -/
def field (key : String) : Json → Json
  | .object entries => get entries key
  | _ => .null

def textOf : Json → String
  | .text content => content
  | _ => ""

def numberOf : Json → String
  | .int number => str number
  | _ => ""

def itemsOf : Json → List Json
  | .list items => items
  | _ => []

def naverKeys (row : Json) : List String := [textOf (field "productOrderId" (field "productOrder" row))]

def coupangKeys (row : Json) : List String :=
  (itemsOf (field "orderItems" row)).map fun line =>
    numberOf (field "shipmentBoxId" row) ++ ":" ++ textOf (field "sequenceNo" line)

/-- The keys of all lines of a page. -/
def sourceKeys (provider : String) (body : Json) : List String :=
  (itemsOf (field "data" body)).flatMap (if provider = "naver" then naverKeys else coupangKeys)

section

variable {hash : String → String} {printable : String → Bool}

theorem readAll_names {α β κ : Type} {name : β → κ} {read : List κ → α → Checked (List β)} (here : Local name read)
    {keys : α → List κ} (named : ∀ item found, read [] item = .ok found → found.map name = keys item) {seen : List κ}
    {items : List α} {results : List β} (ran : readAll name read seen items = .ok results) :
    results.map name = items.flatMap keys := by
  obtain ⟨parts, related, rfl, -, -⟩ := (readAll_eq_ok here).mp ran
  clear ran
  induction related with
  | nil => rfl
  | cons one _ ih => rw [List.flatten_cons, List.map_append, named _ _ one, ih, List.flatMap_cons]

theorem identifierField_text {value : Json} {text : String} (read : identifierField value = .ok text) :
    textOf value = text := by
  cases value with
  | text content =>
    obtain ⟨_, -, made⟩ := except_bind_eq_ok.mp read
    cases made
    rfl
  | _ => cases read

theorem numericField_number {value : Json} {text : String} (read : numericField value = .ok text) :
    numberOf value = text := by
  obtain ⟨number, positive, made⟩ := except_bind_eq_ok.mp read
  cases made
  rw [(positiveField_eq_ok.mp positive).1]
  rfl

theorem sequenceField_text {value : Json} {text : String} (read : sequenceField value = .ok text) : textOf value = text := by
  cases value with
  | text content =>
    obtain ⟨_, -, made⟩ := except_bind_eq_ok.mp read
    cases made
    rfl
  | _ => cases read

theorem naver_keys {row : Json} {found : List OfflineOrderSnapshot} (read : alone (naverSnapshot hash [] row) = .ok found) :
    found.map OfflineOrderSnapshot.lineId = naverKeys row := by
  obtain ⟨line, ran, rfl⟩ := alone_eq_ok.mp read
  simp only [naverSnapshot, except_bind_eq_ok, object_eq_ok] at ran
  obtain ⟨entries, rfl, _, -, product, shape, lineId, named, _, -, _, -, _, -, _, -, _, -, _, -, _, -, _, -, _, -, _, -, _, -, made⟩ := ran
  cases made
  rw [naverKeys, field, shape, field, identifierField_text named]
  rfl

theorem coupang_keys {row : Json} {found : List OfflineOrderSnapshot} (read : coupangShipment hash [] row = .ok found) :
    found.map OfflineOrderSnapshot.lineId = coupangKeys row := by
  simp only [coupangShipment, except_bind_eq_ok, object_eq_ok, rowsOf_eq_ok] at read
  obtain ⟨entries, rfl, _, -, shipmentId, number, _, -, _, -, _, -, lines, ⟨listed, -⟩, _, -, ran⟩ := read
  have keys : found.map OfflineOrderSnapshot.lineId =
      lines.flatMap fun line => [shipmentId ++ ":" ++ textOf (field "sequenceNo" line)] := by
    refine readAll_names (local_line _) (fun line found read => ?_) ran
    obtain ⟨snapshot, ran, rfl⟩ := alone_eq_ok.mp read
    simp only [coupangLine, except_bind_eq_ok, object_eq_ok] at ran
    obtain ⟨_, rfl, sequence, named, _, -, _, -, _, -, _, -, _, -, _, -, _, -, _, -, _, -, _, -, _, -, made⟩ := ran
    cases made
    rw [field, sequenceField_text named]
    rfl
  have rows : field "orderItems" (.object entries) = .list lines := listed
  have box : numberOf (field "shipmentBoxId" (.object entries)) = shipmentId := numericField_number number
  rw [keys, coupangKeys, rows, box, itemsOf, ← List.map_eq_flatMap]

/-- A page has one line for each line of its rows. -/
theorem fixturePage_keys {provider : String} {body claimBody : Json} {requestedIds : List String} {page : OfflineOrderPage}
    {claims : Option String} (parsed : fixturePage hash printable provider body requestedIds claimBody = .ok (page, claims)) :
    page.snapshots.map OfflineOrderSnapshot.lineId = sourceKeys provider body ∧
      (page.snapshots.map OfflineOrderSnapshot.lineId).Nodup := by
  unfold fixturePage at parsed
  rw [sourceKeys]
  split at parsed
  · next naver =>
    obtain ⟨_, read, made⟩ := except_bind_eq_ok.mp parsed
    cases made
    simp only [parseNaverDetails, except_bind_eq_ok, naverSnapshots_eq, object_eq_ok, rowsOf_eq_ok] at read
    obtain ⟨_, -, entries, rfl, rows, ⟨listed, -⟩, _, -, _, -, _, -, snapshots, ran, _, -, made⟩ := read
    cases made
    rw [if_pos naver, field, listed, itemsOf]
    exact ⟨readAll_names local_naver (fun _ _ => naver_keys) ran, local_naver.readAll.distinct _ _ ran⟩
  · next other =>
    simp only [except_bind_eq_ok] at parsed
    obtain ⟨_, read, _, -, _, -, made⟩ := parsed
    cases made
    simp only [parseCoupangDayPage, except_bind_eq_ok, object_eq_ok, rowsOf_eq_ok] at read
    obtain ⟨_, -, entries, rfl, _, -, rows, ⟨listed, -⟩, snapshots, ran, _, -, made⟩ := read
    cases made
    rw [if_neg other, field, listed, itemsOf]
    exact ⟨readAll_names local_shipment (fun _ _ => coupang_keys) ran, local_shipment.readAll.distinct _ _ ran⟩

end

/-! ## Shared lines -/

/-- The items under the keys of a list that has them all. -/
theorem flatMap_under_perm {α κ : Type} [DecidableEq κ] {key : α → Option κ} {keys : List κ} {items : List α}
    (distinct : keys.Nodup) (covered : ∀ item ∈ items, ∃ named ∈ keys, key item = some named) :
    (keys.flatMap (under key items)).Perm items := by
  induction keys generalizing items with
  | nil =>
    cases items with
    | nil => exact .refl _
    | cons item rest =>
      obtain ⟨_, member, -⟩ := covered item List.mem_cons_self
      cases member
  | cons first rest ih =>
    obtain ⟨fresh, others⟩ := List.nodup_cons.mp distinct
    -- what is not under the first key is under the others
    have later := @ih (items.filter fun item => !decide (key item = some first)) others fun item member => by
      obtain ⟨inside, apart⟩ := List.mem_filter.mp member
      obtain ⟨named, listed, same⟩ := covered item inside
      rcases List.mem_cons.mp listed with rfl | behind
      · simp [same] at apart
      · exact ⟨named, behind, same⟩
    have groups : (rest.flatMap (under key (items.filter fun item => !decide (key item = some first)))) =
        rest.flatMap (under key items) := by
      refine List.flatMap_congr fun named member => ?_
      rw [under, under, List.filter_filter]
      refine List.filter_congr fun item _ => ?_
      by_cases same : key item = some named
      · have apart : named ≠ first := fun equal => fresh (equal ▸ member)
        simp [same, apart]
      · simp [same]
    rw [List.flatMap_cons, ← groups]
    exact (later.append_left _).trans (List.filter_append_perm _ items)

/-- What an order keeps of a line. -/
def boundLine (bindings : Entries) (line : OfflineOrderSnapshot) : FixtureLine :=
  ⟨textOf (get bindings line.productId), line.remainingQuantity, amountOf line.amountsKrw "unit_price", line.lineId⟩

/-- The orders share out the lines of a page. -/
structure SharedOut (bindings : Entries) (page : OfflineOrderPage) (items : List FixtureItem) : Prop where
  lines : (items.flatMap fun item => item.lines.map fun line => (item.externalOrderId, line)).Perm
    (page.snapshots.map fun line => (line.orderId, boundLine bindings line))
  totals : ∀ item ∈ items, item.totalMinor = (item.lines.map fun line => line.unitMinor * line.quantity).sum
  orders : (items.map FixtureItem.externalOrderId).Nodup

section

variable {env : Env} {hash : String → String} {printable : String → Bool} {rows : List FixtureRow}

theorem fixtureItem_group {provider : String} {claims : Option String} {group : String × List FixtureRow} {item : FixtureItem}
    (made : fixtureItem env hash provider claims group = .ok item) : item.externalOrderId = group.1 ∧
      item.lines.Perm (group.2.map FixtureRow.line) ∧
      item.totalMinor = (item.lines.map fun line => line.unitMinor * line.quantity).sum := by
  obtain ⟨orderId, rows⟩ := group
  simp only [fixtureItem, except_bind_eq_ok] at made
  obtain ⟨_, -, digest, -, _, -, same⟩ := made
  cases same
  have sorted := (List.perm_insertionSort (fun first second => lineLe first second = true) rows).map FixtureRow.line
  refine ⟨rfl, sorted, ?_⟩
  rw [(sorted.map fun line => line.unitMinor * line.quantity).sum_eq, List.map_map]
  rfl

theorem sortedGroups_shared {provider : String} {claims : Option String} {items : List FixtureItem}
    (made : each (fixtureItem env hash provider claims) (sortedGroups rows) = .ok items) :
    (items.flatMap fun item => item.lines.map fun line => (item.externalOrderId, line)).Perm
      (rows.map fun row => (row.row.orderId, row.line)) ∧ items.map FixtureItem.externalOrderId = orderIds rows ∧
    ∀ item ∈ items, item.totalMinor = (item.lines.map fun line => line.unitMinor * line.quantity).sum := by
  rw [sortedGroups_eq] at made
  have covered : ((orderIds rows).flatMap (ordered rows)).Perm rows :=
    flatMap_under_perm (orderIds_nodup rows) fun row member => ⟨row.row.orderId, mem_orderIds.mpr ⟨row, member, rfl⟩, rfl⟩
  have related := each_eq_ok.mp made
  have groups : (items.flatMap fun item => item.lines.map fun line => (item.externalOrderId, line)).Perm
      (((orderIds rows).flatMap (ordered rows)).map fun row => (row.row.orderId, row.line)) ∧
      items.map FixtureItem.externalOrderId = orderIds rows ∧
      ∀ item ∈ items, item.totalMinor = (item.lines.map fun line => line.unitMinor * line.quantity).sum := by
    clear covered made
    generalize orderIds rows = ids at related
    induction ids generalizing items with
    | nil =>
      cases related
      exact ⟨.refl _, rfl, List.forall_mem_nil _⟩
    | cons orderId rest ih =>
      obtain ⟨item, others, one, behind, rfl⟩ := List.forall₂_cons_left_iff.mp related
      obtain ⟨named, lines, total⟩ := fixtureItem_group one
      obtain ⟨perm, ids, totals⟩ := ih behind
      refine ⟨?_, by rw [List.map_cons, named, ids], List.forall_mem_cons.mpr ⟨total, totals⟩⟩
      rw [List.flatMap_cons, List.flatMap_cons, List.map_append]
      refine (List.Perm.append (lines.map _) perm).trans (List.Perm.append_right _ (.of_eq ?_))
      rw [List.map_map]
      refine List.map_congr_left fun row member => Prod.ext ?_ rfl
      exact named.trans (Option.some.inj (of_decide_eq_true (List.mem_filter.mp member).2)).symm
  exact ⟨groups.1.trans (covered.map _), groups.2⟩

theorem fixtureRows_shared {provider : String} {bindings : Entries} {lines : List OfflineOrderSnapshot}
    (made : each (fixtureRow provider bindings) lines = .ok rows) :
    (rows.map fun row => (row.row.orderId, row.line)) = lines.map fun line => (line.orderId, boundLine bindings line) := by
  have related := each_eq_ok.mp made
  clear made
  induction related with
  | nil => rfl
  | @cons line row _ _ one _ ih =>
    obtain ⟨rfl, quantity, unit, bound⟩ := fixtureRow_row one
    rw [List.map_cons, List.map_cons, ih, FixtureRow.line, boundLine, quantity, unit, bound]
    rfl

end

/-! ## Replays -/

section

open Library (Session)
open Library.Txn Relation
open Ingestion (Connection DemoAdapterDescription DemoPollResult Intake NormalizedItem PollReading collect_receipts commitItems_eq_ok
  commitPage commitPage_eq_ok ingestItem intakes_retained itemIdentity normalizeItems receiveInbound_ok
  saveNormalizedPayload_eq_ok)

variable {env : Env} {s t u w : Session Store} {context : TenantContext} {connection : Connection} {now : Timestamp}

/-- An item whose event has been received is a replay, and adds no receipt. -/
theorem ingestItem_known {item : NormalizedItem} {result : InboxMessage × Bool}
    (known : ∃ row ∈ s.db.inbox.rows, row.identity = itemIdentity context.tenantId connection item)
    (ran : (ingestItem env context connection now item).run s = (.ok result, t)) :
    result.2 = true ∧ t.db.inbox = s.db.inbox := by
  obtain ⟨message, replayed⟩ := result
  simp only [ingestItem, bind_eq_ok, saveNormalizedPayload_eq_ok] at ran
  obtain ⟨kept, middle, saved, received⟩ := ran
  have inbox : middle.db.inbox = s.db.inbox := by
    rcases saved with ⟨-, -, rfl⟩ | ⟨-, -, rfl⟩
    · rfl
    · rfl
  obtain ⟨-, ⟨rfl, -, -, rfl⟩ | ⟨-, -, first⟩⟩ := receiveInbound_ok received
  · exact ⟨rfl, inbox⟩
  · obtain ⟨row, member, identity⟩ := known
    rw [← inbox] at member
    have missing := List.find?_eq_none.mp first.fresh row (List.mem_filter.mpr ⟨member, decide_eq_true (Prod.mk.inj identity).1⟩)
    exact absurd (decide_eq_true identity) missing

theorem collect_known (items : List NormalizedItem) {results : List (InboxMessage × Bool)}
    (known : ∀ item ∈ items, ∃ row ∈ s.db.inbox.rows, row.identity = itemIdentity context.tenantId connection item)
    (ran : (collect items (ingestItem env context connection now)).run s = (.ok results, t)) :
    results.countP (·.2) = items.length ∧ t.db.inbox = s.db.inbox := by
  induction items generalizing s results with
  | nil =>
    cases ran
    exact ⟨rfl, rfl⟩
  | cons item rest ih =>
    obtain ⟨first, behind⟩ := List.forall_mem_cons.mp known
    obtain ⟨result, middle, others, one, later, rfl⟩ := (collect_cons_eq_ok item rest _ results s t).mp ran
    obtain ⟨replayed, inbox⟩ := ingestItem_known first one
    obtain ⟨count, kept⟩ := ih (by rw [inbox]; exact behind) later
    exact ⟨by rw [List.countP_cons_of_pos replayed, count, List.length_cons], kept.trans inbox⟩

theorem normalizeItems_length {raws : List Value} {items : List NormalizedItem} (ran : normalizeItems env raws = .ok items) :
    items.length = raws.length := by
  induction raws generalizing items with
  | nil =>
    cases ran
    rfl
  | cons raw rest ih =>
    simp only [normalizeItems, except_bind_eq_ok] at ran
    obtain ⟨_, -, others, behind, made⟩ := ran
    cases made
    rw [List.length_cons, List.length_cons, ih behind]

/-- The second poll that brings the items of a page finds every one of them received, whatever came in between. -/
def FullReplay (env : Env) (page repage : DemoPage) : Prop :=
  ∀ (context : TenantContext) (connection : Connection) (version reversion : Nat)
    (description redescription : DemoAdapterDescription) (reading rereading : PollReading) (result again : DemoPollResult)
    (s t u w : Session Store),
    (commitPage env context connection version description reading page).run s = (.ok result, t) →
    ReflTransGen Intake t u →
    (commitPage env context connection reversion redescription rereading repage).run u = (.ok again, w) →
    again.replayedCount = page.items.length ∧ again.payloadRefs = result.payloadRefs ∧ w.db.inbox = u.db.inbox

theorem fullReplay_of_items {page repage : DemoPage} (same : repage.items = page.items) : FullReplay env page repage := by
  intro context connection version reversion description redescription reading rereading result again s t u w first history second
  obtain ⟨-, items, normalized, committed⟩ := commitPage_eq_ok.mp first
  obtain ⟨-, -, receipts, middle, collected, -, rfl, rfl⟩ := commitItems_eq_ok.mp committed
  obtain ⟨-, others, renormalized, recommitted⟩ := commitPage_eq_ok.mp second
  rw [same, normalized] at renormalized
  cases renormalized
  obtain ⟨-, -, results, last, replayed, -, rfl, rfl⟩ := commitItems_eq_ok.mp recommitted
  -- the receipts of the first poll are still there
  have known : ∀ item ∈ items, ∃ row ∈ u.db.inbox.rows, row.identity = itemIdentity context.tenantId connection item := by
    intro item member
    obtain ⟨row, held, identity⟩ := collect_receipts items collected item member
    obtain ⟨later, kept, -, unchanged, -⟩ := (intakes_retained history).receipts row held
    exact ⟨later, kept, unchanged.trans identity⟩
  obtain ⟨count, inbox⟩ := collect_known (s := { u with reads := u.reads + 1 }) items known replayed
  exact ⟨count.trans (normalizeItems_length normalized), rfl, inbox⟩

end

/-! ## The adapter -/

section

variable {env : Env} {hash : String → String} {printable : String → Bool} {request : FixtureRequest} {body other : Json}
  {now later : Option Timestamp} {adapter : ContractFixtureReadAdapter}

/-- The adapter does not depend on the observation but in when it was made. -/
theorem fixtureItems_again {first second : Timestamp} {items others : List FixtureItem} {observed : Option Timestamp}
    (ran : fixtureItems env hash printable request body now = .ok (first, items))
    (again : fixtureItems env hash printable { request with observedAt := observed } body later = .ok (second, others)) :
    others = items := by
  simp only [fixtureItems, except_bind_eq_ok, bridged_eq_ok] at ran again
  obtain ⟨_, -, _, -, bindings, bound, page, parsed, _, -, rows, made, found, ordered, _, -, same⟩ := ran
  obtain ⟨_, -, _, -, _, rebound, _, reparsed, _, -, _, remade, _, reordered, _, -, resame⟩ := again
  cases same
  cases resame
  cases bound.symm.trans rebound
  cases parsed.symm.trans reparsed
  cases made.symm.trans remade
  exact (Except.ok.inj (ordered.symm.trans reordered)).symm

theorem contractFixtureReadAdapter_ok (ran : contractFixtureReadAdapter env hash printable request body now = .ok adapter) :
    ∃ items, fixtureItems env hash printable request body now = .ok (adapter.observedAt, items) ∧
      adapter.items = items.map fun item => Gateway.sorted item.value := by
  simp only [contractFixtureReadAdapter, except_bind_eq_ok] at ran
  obtain ⟨⟨observed, items⟩, found, _, -, made⟩ := ran
  cases made
  exact ⟨items, found, rfl⟩

theorem fixtureItems_shared {observedAt : Timestamp} {items : List FixtureItem}
    (ran : fixtureItems env hash printable request body now = .ok (observedAt, items)) :
    ∃ bindings page claims, request.skuBindings = .object bindings ∧
      fixturePage hash printable request.provider body request.requestedIds request.claimBody = .ok (page, claims) ∧
      SharedOut bindings page items ∧ page.snapshots.map OfflineOrderSnapshot.lineId = sourceKeys request.provider body ∧
      (page.snapshots.map OfflineOrderSnapshot.lineId).Nodup := by
  simp only [fixtureItems, except_bind_eq_ok, bridged_eq_ok] at ran
  obtain ⟨_, -, _, -, bindings, bound, ⟨page, claims⟩, parsed, _, -, rows, made, found, ordered, _, -, same⟩ := ran
  cases same
  have given : request.skuBindings = .object bindings := by
    cases shape : request.skuBindings with
    | object entries =>
      rw [shape] at bound
      cases bound
      rfl
    | _ =>
      rw [shape] at bound
      cases bound
  obtain ⟨lines, orders, totals⟩ := sortedGroups_shared ordered
  rw [fixtureRows_shared made] at lines
  exact ⟨bindings, page, claims, given, parsed, ⟨lines, totals, orders ▸ orderIds_nodup rows⟩, fixturePage_keys parsed⟩

theorem listChanges_items {page : DemoPage} {cursor : Option String} {overlapFrom : Option Timestamp}
    (listed : adapter.listChanges now cursor overlapFrom = .ok page) : page.items = adapter.items := by
  simp only [ContractFixtureReadAdapter.listChanges, except_bind_eq_ok] at listed
  obtain ⟨_, -, _, -, made⟩ := listed
  cases made
  rfl

/-- An accepted page gives the same adapter in whatever order its rows stand; a poll of the reordered page is a full
replay, also under a later observation; and each line of the page is in one order, whose total is that of its lines. -/
theorem fixture_adapter_order_insensitive
    (ran : contractFixtureReadAdapter env hash printable request body now = .ok adapter) :
    (∀ other, RowsMoved body other → contractFixtureReadAdapter env hash printable request other now = .ok adapter) ∧
    (∀ other observed later again, RowsMoved body other →
      contractFixtureReadAdapter env hash printable { request with observedAt := observed } other later = .ok again →
      again.items = adapter.items ∧ ∀ first second page repage, adapter.listChanges first none none = .ok page →
        again.listChanges second none none = .ok repage → FullReplay env page repage) ∧
    ∃ items bindings page claims, adapter.items = items.map (fun item => Gateway.sorted item.value) ∧
      request.skuBindings = .object bindings ∧
      fixturePage hash printable request.provider body request.requestedIds request.claimBody = .ok (page, claims) ∧
      SharedOut bindings page items ∧ page.snapshots.map OfflineOrderSnapshot.lineId = sourceKeys request.provider body ∧
      (page.snapshots.map OfflineOrderSnapshot.lineId).Nodup := by
  obtain ⟨items, found, held⟩ := contractFixtureReadAdapter_ok ran
  refine ⟨fun other moved => contractFixtureReadAdapter_moved moved ran, fun other observed later again moved reran => ?_, ?_⟩
  · obtain ⟨others, refound, reheld⟩ := contractFixtureReadAdapter_ok reran
    have same : again.items = adapter.items := by
      rw [reheld, held, fixtureItems_again (fixtureItems_moved moved found) refound]
    refine ⟨same, fun first second page repage listed relisted => fullReplay_of_items ?_⟩
    rw [listChanges_items relisted, listChanges_items listed, same]
  · obtain ⟨bindings, page, claims, given, parsed, shared, keys⟩ := fixtureItems_shared found
    exact ⟨items, bindings, page, claims, held, given, parsed, shared, keys⟩

end

/-! ### Two lines -/

def samplePayedRow (line product : String) : Json := .object [("order", .object [("orderId", .text "o")]),
  ("productOrder", .object [("productOrderId", .text line), ("productId", .text product), ("initialQuantity", .int 2),
    ("remainQuantity", .int 2), ("initialPaymentAmount", .int 20), ("remainPaymentAmount", .int 20), ("unitPrice", .int 10),
    ("productOrderStatus", .text "PAYED")])]

def samplePayedBody : Json := .object [("data", .list [samplePayedRow "b" "q", samplePayedRow "a" "p"])]

def sampleFixtureRequest : FixtureRequest where
  provider := "naver"
  skuBindings := .object [("p", .text "sku-p"), ("q", .text "sku-q")]
  observedAt := some (.utc 0)
  requestedIds := ["a", "b"]
  claimBody := .null

/-- Whether an adapter is made. -/
def made (ran : Bridged ContractFixtureReadAdapter) : Bool := match ran with
  | .ok _ => true
  | .error _ => false

theorem sample_adapter_order_insensitive :
    ∃ adapter, contractFixtureReadAdapter Ingestion.hexEnv (fun _ => sampleDigest) (fun _ => true) sampleFixtureRequest
        samplePayedBody (some (.utc 60)) = .ok adapter ∧
      ∀ other, RowsMoved samplePayedBody other → contractFixtureReadAdapter Ingestion.hexEnv (fun _ => sampleDigest)
        (fun _ => true) sampleFixtureRequest other (some (.utc 60)) = .ok adapter := by
  have accepted : made (contractFixtureReadAdapter Ingestion.hexEnv (fun _ => sampleDigest) (fun _ => true)
      sampleFixtureRequest samplePayedBody (some (.utc 60))) = true := by decide +kernel
  cases ran : contractFixtureReadAdapter Ingestion.hexEnv (fun _ => sampleDigest) (fun _ => true) sampleFixtureRequest
      samplePayedBody (some (.utc 60)) with
  | ok adapter => exact ⟨adapter, rfl, (fixture_adapter_order_insensitive ran).1⟩
  | error why =>
    rw [ran] at accepted
    cases accepted

end AiStore.Offline
