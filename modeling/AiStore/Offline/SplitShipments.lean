import AiStore.Offline.ReviewSafety

/-! A split order is invoiced exactly once: what is sent first, and what follows. -/

set_option autoImplicit false

namespace AiStore.Offline

open Library

/-- The lines of the order that a page shows. -/
def OfflineOrderPage.linesOf (page : OfflineOrderPage) (orderId : String) : List OfflineOrderSnapshot :=
  page.snapshots.filter fun line => line.orderId = orderId

/-- The items are all that the page shows of the order, in full. -/
structure CoversOrder (page : OfflineOrderPage) (orderId : String) (items : List FixtureSplitItem) : Prop where
  ordered : ((page.linesOf orderId).map fun line => (line.productId, line.initialQuantity)).Perm
    (items.map fun item => (item.vendorItemId, item.quantity))
  remaining : ∀ line ∈ page.linesOf orderId, line.remainingQuantity = line.initialQuantity

/-- The order is sent in two parts: one item at first, the other behind it. -/
structure SplitsOrder (firstPage secondPage : OfflineOrderPage) (initial followup : FixtureSplitReview)
    (sent deferred waiting : FixtureSplitItem) : Prop where
  scope : followup.tenantRef = initial.tenantRef ∧ followup.connectionRef = initial.connectionRef ∧
    followup.orderId = initial.orderId
  invoiced : (initial.items.filter fun item => item.invoiceNumber ≠ "") = [sent]
  uninvoiced : (initial.items.filter fun item => item.invoiceNumber = "") = [deferred]
  follows : followup.items = [waiting]
  same : waiting.vendorItemId = deferred.vendorItemId ∧ waiting.shipmentId = deferred.shipmentId ∧
    waiting.quantity = deferred.quantity ∧ deferred.estimatedShippingDate ≠ ""
  distinct : sent.vendorItemId ≠ waiting.vendorItemId
  invoices : waiting.invoiceNumber ≠ "" ∧ waiting.invoiceNumber ≠ sent.invoiceNumber
  first : CoversOrder firstPage initial.orderId [sent, waiting]
  second : CoversOrder secondPage initial.orderId [sent, waiting]
  shipped : ∃ line ∈ secondPage.linesOf initial.orderId, line.productId = sent.vendorItemId ∧
    line.shipmentId ≠ some sent.shipmentId ∧ line.status ∈ ["DEPARTURE", "DELIVERING", "FINAL_DELIVERY"]

/-! ## The lines of the order -/

/-- What the sources tell about the lines. -/
structure TwoLines (page : OfflineOrderPage) (orderId : String) (lines : List OfflineOrderSnapshot) : Prop where
  shown : lines = page.linesOf orderId
  two : lines.length = 2
  distinct : (lines.map OfflineOrderSnapshot.productId).Nodup
  full : ∀ line ∈ lines, line.initialQuantity = line.remainingQuantity

theorem sources_lines {page : OfflineOrderPage} {claims : OfflineClaimPage} {orderId : String} {times : SplitTimes}
    {found : SplitSources} (read : sources page claims orderId times = .ok found) : TwoLines page orderId found.lines := by
  simp only [sources, except_bind_eq_ok, require_eq_ok] at read
  obtain ⟨_, -, _, -, _, -, _, -, _, -, _, -, _, -, _, -, _, -, _, -, _, ⟨two, distinct, lines⟩, made⟩ := read
  cases made
  exact ⟨rfl, two, distinct, fun line member => (lines line member).2.2⟩

/-- Two elements of a list of two are the whole list. -/
theorem perm_pair {α : Type} {items : List α} {first second : α} (two : items.length = 2) (one : first ∈ items)
    (other : second ∈ items) (apart : first ≠ second) : items.Perm [first, second] := by
  have inside : [first, second] ⊆ items := by simp [one, other]
  have part := List.subperm_of_subset (by simp [apart]) inside
  exact (part.perm_of_length_le two.le).symm

/-- A line of the order and an item for it, in full. -/
def MatchesLine (line : OfflineOrderSnapshot) (item : FixtureSplitItem) : Prop :=
  line.productId = item.vendorItemId ∧ line.remainingQuantity = item.quantity

theorem TwoLines.covers {page : OfflineOrderPage} {orderId : String} {lines : List OfflineOrderSnapshot}
    (two : TwoLines page orderId lines) {here there : OfflineOrderSnapshot} {sent waiting : FixtureSplitItem}
    (both : lines.Perm [here, there]) (one : MatchesLine here sent) (other : MatchesLine there waiting) :
    CoversOrder page orderId [sent, waiting] := by
  have full_here := two.full here (both.mem_iff.mpr (by simp))
  have full_there := two.full there (both.mem_iff.mpr (by simp))
  constructor
  · rw [← two.shown]
    refine (both.map _).trans (List.Perm.of_eq ?_)
    simp [full_here, full_there, one.1, one.2, other.1, other.2]
  · intro line member
    exact (two.full line (two.shown ▸ member)).symm

/-! ## The first review -/

/-- The item of a line that is sent at once. -/
def sentItem (request : InitialSplitRequest) (line : OfflineOrderSnapshot) : FixtureSplitItem :=
  ⟨line.productId, request.shipmentId, line.remainingQuantity, request.invoiceNumber, "", false⟩

/-- The item of a line that waits. -/
def deferredItem (request : InitialSplitRequest) (line : OfflineOrderSnapshot) : FixtureSplitItem :=
  ⟨line.productId, request.shipmentId, line.remainingQuantity, "", request.deferredDate, false⟩

/-- What the first builder has made of the two lines. -/
structure FirstPart (request : InitialSplitRequest) (initial : FixtureSplitReview)
    (here there : OfflineOrderSnapshot) : Prop where
  order : initial.orderId = request.orderId
  lines : TwoLines request.page request.orderId (request.page.linesOf request.orderId)
  both : (request.page.linesOf request.orderId).Perm [here, there]
  apart : here.productId ≠ there.productId
  items : initial.items.Perm [sentItem request here, deferredItem request there]
  invoice : request.invoiceNumber ≠ ""
  date : request.deferredDate ≠ ""

theorem invoice_ok {given value : String} (read : invoice given = .ok value) : value = given ∧ given ≠ "" := by
  simp only [invoice, except_bind_eq_ok, require_eq_ok] at read
  obtain ⟨_, ⟨nonempty, -⟩, same⟩ := read
  cases same
  refine ⟨rfl, fun empty => ?_⟩
  simp [empty] at nonempty

theorem deferredDay_ok {text : String} {day : Int} (read : deferredDay text = .ok day) : text ≠ "" := by
  rintro rfl
  cases read

/-- The shipping item is one of the two lines, and the other one is the rest. -/
theorem pair_of_shipping {lines : List OfflineOrderSnapshot} {shippingItemId : String} (two : lines.length = 2)
    (distinct : (lines.map OfflineOrderSnapshot.productId).Nodup)
    (member : shippingItemId ∈ lines.map OfflineOrderSnapshot.productId) :
    ∃ here there, lines.Perm [here, there] ∧ here.productId = shippingItemId ∧ there.productId ≠ shippingItemId := by
  obtain ⟨a, b, rfl⟩ := List.length_eq_two.mp two
  have apart : a.productId ≠ b.productId := by simpa using distinct
  simp only [List.map_cons, List.map_nil, List.mem_cons, List.not_mem_nil, or_false] at member
  rcases member with rfl | rfl
  · exact ⟨a, b, .refl _, rfl, apart.symm⟩
  · exact ⟨b, a, .swap _ _ _, rfl, apart⟩

theorem initial_part {request : InitialSplitRequest} {initial : FixtureSplitReview}
    (built : buildInitialSplitReview request = .ok initial) : ∃ here there, FirstPart request initial here there := by
  simp only [buildInitialSplitReview, except_bind_eq_ok, require_eq_ok] at built
  obtain ⟨_, -, _, -, orderId, named, _, -, shippingItemId, shipping, found, read, _, -, _, -, _, member, _, invoiced, day, dated,
    _, -, _, -, _, -, _, -, made⟩ := built
  cases made
  obtain rfl := ref_ok named
  have two := sources_lines read
  obtain ⟨here, there, both, rfl, apart⟩ := pair_of_shipping two.two two.distinct member
  refine ⟨here, there, rfl, two.shown ▸ two, two.shown ▸ both, apart.symm, ?_, (invoice_ok invoiced).2,
    deferredDay_ok dated⟩
  -- the items are made line by line, so their order does not matter
  have sorted := (List.perm_insertionSort (fun a b : OfflineOrderSnapshot => a.productId ≤ b.productId) found.lines).trans both
  refine (sorted.map _).trans (List.Perm.of_eq ?_)
  rw [← ref_ok shipping]
  simp [sentItem, deferredItem, apart]

/-! ## The second review -/

/-- What the second builder has compared. -/
structure SecondPart (request : FollowupSplitRequest) (followup : FixtureSplitReview) (sent deferred : FixtureSplitItem)
    (shipped waiting : OfflineOrderSnapshot) : Prop where
  scope : followup.tenantRef = request.prior.tenantRef ∧ followup.connectionRef = request.prior.connectionRef ∧
    followup.orderId = request.prior.orderId
  lines : TwoLines request.page request.prior.orderId (request.page.linesOf request.prior.orderId)
  invoiced : (request.prior.items.filter fun item => item.invoiceNumber ≠ "") = [sent]
  dated : (request.prior.items.filter fun item => item.estimatedShippingDate ≠ "") = [deferred]
  ships : shipped ∈ request.page.linesOf request.prior.orderId ∧ MatchesLine shipped sent ∧
    shipped.shipmentId ≠ some sent.shipmentId ∧ shipped.status ∈ ["DEPARTURE", "DELIVERING", "FINAL_DELIVERY"]
  waits : waiting ∈ request.page.linesOf request.prior.orderId ∧ MatchesLine waiting deferred
  invoices : request.invoiceNumber ≠ "" ∧ request.invoiceNumber ≠ sent.invoiceNumber
  items : followup.items = [⟨waiting.productId, deferred.shipmentId, waiting.remainingQuantity, request.invoiceNumber, "", true⟩]

theorem lineOf_ok {lines : List OfflineOrderSnapshot} {item : FixtureSplitItem} {line : OfflineOrderSnapshot}
    (found : lineOf lines item = .ok line) : line ∈ lines ∧ line.productId = item.vendorItemId := by
  unfold lineOf at found
  split at found
  · next known =>
    cases found
    exact ⟨List.mem_of_find?_eq_some known, by simpa using List.find?_some known⟩
  · cases found

theorem followup_part {hash : String → String} {request : FollowupSplitRequest} {followup : FixtureSplitReview}
    (built : buildFollowupSplitReview hash request = .ok followup) :
    ∃ sent deferred shipped waiting, SecondPart request followup sent deferred shipped waiting := by
  simp only [buildFollowupSplitReview, except_bind_eq_ok, require_eq_ok] at built
  obtain ⟨_, -, _, scope, _, -, _, -, _, -, found, read, _, -, item, remapped, _, -, _, -, _, -, made⟩ := built
  cases made
  have two := sources_lines read
  simp only [remappedItem, except_bind_eq_ok, require_eq_ok] at remapped
  obtain ⟨sent, one, deferred, other, _, -, shipped, first, waiting, second, _, ⟨moved, status, quantity, -, -, rest⟩, number,
    invoiced, _, fresh, made⟩ := remapped
  cases made
  obtain ⟨rfl, nonempty⟩ := invoice_ok invoiced
  have first := lineOf_ok first
  have second := lineOf_ok second
  exact ⟨sent, deferred, shipped, waiting, {
    scope := ⟨scope.1, scope.2, rfl⟩
    lines := two.shown ▸ two
    invoiced := single_ok one
    dated := single_ok other
    ships := ⟨two.shown ▸ first.1, ⟨first.2, quantity⟩, moved, status⟩
    waits := ⟨two.shown ▸ second.1, second.2, rest⟩
    invoices := ⟨nonempty, fresh⟩
    items := rfl }⟩

/-! ## Both together -/

/-- Of the two items of the first review, one has an invoice and the other one a date. -/
theorem FirstPart.filters {request : InitialSplitRequest} {initial : FixtureSplitReview} {here there : OfflineOrderSnapshot}
    (part : FirstPart request initial here there) :
    (initial.items.filter fun item => item.invoiceNumber ≠ "") = [sentItem request here] ∧
      (initial.items.filter fun item => item.invoiceNumber = "") = [deferredItem request there] ∧
      (initial.items.filter fun item => item.estimatedShippingDate ≠ "") = [deferredItem request there] := by
  have invoice := part.invoice
  have date := part.date
  refine ⟨?_, ?_, ?_⟩
  all_goals
    rw [← List.perm_singleton]
    refine (part.items.filter _).trans (List.Perm.of_eq ?_)
    simp [sentItem, deferredItem, invoice, date]

/-- Whenever both builders accept, the two invoiced items are the order, each once and in full. -/
theorem split_shipment_covers_order {hash : String → String} {first : InitialSplitRequest} {initial followup : FixtureSplitReview}
    {second : FollowupSplitRequest} (built : buildInitialSplitReview first = .ok initial) (follows : second.prior = initial)
    (built_followup : buildFollowupSplitReview hash second = .ok followup) :
    ∃ sent deferred waiting, SplitsOrder first.page second.page initial followup sent deferred waiting := by
  subst follows
  obtain ⟨here, there, part⟩ := initial_part built
  obtain ⟨sent, deferred, shipped, line, next⟩ := followup_part built_followup
  obtain ⟨invoiced, uninvoiced, dated⟩ := part.filters
  obtain rfl : sent = sentItem first here := by simpa using next.invoiced.symm.trans invoiced
  obtain rfl : deferred = deferredItem first there := by simpa using next.dated.symm.trans dated
  have waits := next.waits.2
  have ships := next.ships.2.1
  have apart : shipped ≠ line := by
    rintro rfl
    exact part.apart (ships.1.symm.trans waits.1)
  have both := perm_pair next.lines.two next.ships.1 next.waits.1 apart
  refine ⟨sentItem first here, deferredItem first there,
    ⟨line.productId, first.shipmentId, line.remainingQuantity, second.invoiceNumber, "", true⟩, ?_⟩
  exact {
    scope := next.scope
    invoiced := invoiced
    uninvoiced := uninvoiced
    follows := next.items
    same := ⟨waits.1, rfl, waits.2, part.date⟩
    distinct := fun same => part.apart (same.trans waits.1)
    invoices := next.invoices
    first := part.order ▸ part.lines.covers part.both ⟨rfl, rfl⟩ ⟨waits.1.symm, waits.2.symm⟩
    second := next.lines.covers both ships ⟨rfl, rfl⟩
    shipped := ⟨shipped, next.ships.1, ships.1, next.ships.2.2⟩ }

/-! ## An order of two items -/

def orderLine (productId shipmentId status : String) : OfflineOrderSnapshot :=
  ⟨"coupang", "o", "l", productId, some shipmentId, status, 2, 2, [], false, sampleDigest⟩

def splitTimes (seconds : Int) : SplitTimes where
  observedAt := some (.utc seconds)
  claimsObservedAt := some (.utc seconds)
  now := some (.utc seconds)
  expiresAt := some (.utc (seconds + 60))
  maxAgeSeconds := 300

def firstRequest : InitialSplitRequest where
  page := ⟨"coupang", [orderLine "v" "s" "INSTRUCT", orderLine "w" "s" "INSTRUCT"], none, sampleDigest⟩
  claims := ⟨[], sampleDigest, none⟩
  tenantRef := "t"
  connectionRef := "c"
  orderId := "o"
  shipmentId := "s"
  shippingItemId := "w"
  invoiceNumber := "1"
  deferredDate := "1970-01-02"
  preparationDigest := sampleDigest
  postPreparationReviewed := true
  times := splitTimes 0

def firstReview : FixtureSplitReview :=
  ⟨"t", "c", "o", "INITIAL", [deferredItem firstRequest (orderLine "v" "s" "INSTRUCT"),
    sentItem firstRequest (orderLine "w" "s" "INSTRUCT")], sampleDigest, sampleDigest, sampleDigest, none, .utc 0, .utc 0, .utc 0,
    .utc 60⟩

def secondRequest : FollowupSplitRequest where
  prior := firstReview
  page := ⟨"coupang", [orderLine "w" "x" "DELIVERING", orderLine "v" "s" "INSTRUCT"], none, sampleDigest⟩
  claims := ⟨[], sampleDigest, none⟩
  priorApprovalDigest := sampleDigest
  tenantRef := "t"
  connectionRef := "c"
  invoiceNumber := "2"
  preparationDigest := sampleDigest
  postPreparationReviewed := true
  times := splitTimes 30

def secondReview : FixtureSplitReview :=
  ⟨"t", "c", "o", "FOLLOWUP", [⟨"v", "s", 2, "2", "", true⟩], sampleDigest, sampleDigest, sampleDigest, some sampleDigest,
    .utc 30, .utc 30, .utc 30, .utc 90⟩

theorem first_built : buildInitialSplitReview firstRequest = .ok firstReview := by
  decide +kernel

theorem first_digest : (Review.split firstReview).approvalDigest (fun _ => sampleDigest) = .ok sampleDigest := by
  have small : (Json.canonical (.object (Review.split firstReview).fields)).utf8ByteSize ≤ 2 * 1024 * 1024 := by
    rw [Json.canonical, String.utf8ByteSize_ofList]
    decide +kernel
  exact digestOf_small small

theorem second_built : buildFollowupSplitReview (fun _ => sampleDigest) secondRequest = .ok secondReview := by
  have digest : (Review.split secondRequest.prior).approvalDigest (fun _ => sampleDigest) = .ok sampleDigest := first_digest
  rw [buildFollowupSplitReview, digest]
  decide +kernel

theorem split_shipment_covers_two_items : ∃ sent deferred waiting,
    SplitsOrder firstRequest.page secondRequest.page firstReview secondReview sent deferred waiting :=
  split_shipment_covers_order first_built rfl second_built

end AiStore.Offline
