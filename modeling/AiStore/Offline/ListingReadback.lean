import AiStore.Offline.ReturnBatch

/-! What is read back of a reviewed listing. -/

set_option autoImplicit false

namespace AiStore.Offline

open Library

/-! ## Creation -/

structure FixtureListingResult where
  decision : String
  sellerProductId : Option Int := none
  resendAuthorized : Bool := false
  realListingConfirmed : Bool := false
  deriving DecidableEq

structure FixtureListingReadback where
  decision : String
  sellerProductId : Option Int := none
  vendorItemId : Option Int := none
  sourceDigest : Option String := none
  resendAuthorized : Bool := false
  realListingConfirmed : Bool := false
  deriving DecidableEq

def unset : Json → Bool
  | .null => true
  | _ => false

/-- Absent, or one of the texts. -/
def textAmong (texts : List String) : Json → Bool
  | .null => true
  | .text shown => texts.contains shown
  | _ => false

/-- Absent, or an empty list. -/
def noRows : Json → Bool
  | .null | .list [] => true
  | _ => false

/-- Absent, or an empty object. -/
def noEntries : Json → Bool
  | .null | .object [] => true
  | _ => false

/-- A reply that tells of nothing amiss. -/
def unremarked (messages : List String) (body : Entries) : Bool :=
  textAmong messages (get body "message") && textAmong [""] (get body "details") && noRows (get body "errorItems")

section

variable (hash : String → String)

/-- The number of the product that a reply says was created. The reply may wrap the one that counts. -/
def createdProduct (response : Json) : Checked Int := do
  let _ ← digestOf hash response
  let reply ← object response
  let body ←
    if textIs "200" (get reply "code") then do
      require (unremarked [""] reply = true ∧ noRows (get reply "ettorItems") = true) "RECONCILE_REQUIRED"
      object (get reply "data")
    else pure reply
  require (textIs "SUCCESS" (get body "code") = true ∧ unremarked ["", "[]"] body = true ∧
    noRows (get body "ettorItems") = true) "RECONCILE_REQUIRED"
  positiveField (get body "data")

def interpretListingCreationFixture (response : Json) : FixtureListingResult := match createdProduct hash response with
  | .ok product => { decision := "CREATED_ID_REQUIRES_READBACK", sellerProductId := some product }
  | .error _ => { decision := "RECONCILE_REQUIRED" }

/-! ## Readback -/

/-- Every field is read back with the digest that was reviewed. -/
def sameFields (shown : Entries) : Entries → Checked Unit
  | [] => pure ()
  | (key, value) :: rest => do
      let read ← digestOf hash (get shown key)
      let reviewed ← digestOf hash value
      require (read = reviewed) "RECONCILE_REQUIRED"
      sameFields shown rest

/-- Whether the product is a draft yet, or approved. -/
def draftStatus (status : Json) : Checked Bool :=
  if textIs "임시저장" status then pure true
  else do
    require (textIs "승인완료" status = true) "RECONCILE_REQUIRED"
    pure false

/-- `submitted["items"][0].items()`. -/
def firstItem (submitted : Entries) : Option Entries := match get submitted "items" with
  | .list (.object item :: _) => some item
  | _ => none

/-- The reply of a readback, down to the data of the product. -/
def readbackData (product : Int) (readback : Json) : Checked Entries := do
  let body ← object readback
  require (textIs "SUCCESS" (get body "code") = true ∧ unremarked ["", "OK"] body = true) "RECONCILE_REQUIRED"
  let data ← object (get body "data")
  let shown ← positiveField (get data "sellerProductId")
  require (shown = product) "RECONCILE_REQUIRED"
  pure data

/-- The decision on an item whose fields have been compared. -/
def itemDecision (draft : Bool) (product : Int) (sourceDigest : String) (item : Entries) :
    Checked FixtureListingReadback := do
  require (noEntries (get item "autoPricingInfoView") = true ∧ textAmong ["false"] (get item "isAutoGenerated") = true)
    "RECONCILE_REQUIRED"
  let _ ← positiveField (get item "sellerProductItemId")
  if draft then do
    require (unset (get item "vendorItemId") = true) "RECONCILE_REQUIRED"
    pure {
      decision := "MATCHED_DRAFT_FIXTURE", sellerProductId := some product, sourceDigest := some sourceDigest }
  else do
    let vendorItemId ← positiveField (get item "vendorItemId")
    pure {
      decision := "MATCHED_APPROVED_FIXTURE", sellerProductId := some product, vendorItemId := some vendorItemId
      sourceDigest := some sourceDigest }

variable (plan : FixtureListingReview) (creation original readback : Json) (observedAt now : Option Timestamp)

/-- The part of `reconcile_listing_fixture` where a quarantine and an early return come to the same. Nothing where the
item of the payload is missing, an exception that is not caught. -/
def matchedListing : Checked (Option FixtureListingReadback) := do
  let payloadDigest ← digestOf hash original
  require (payloadDigest = plan.payloadDigest) "listing_payload_digest_mismatch"
  let product ← createdProduct hash creation
  let observed ← aware observedAt
  let time ← aware now
  require (plan.createdAt ≤ observed ∧ observed ≤ time ∧ time < plan.expiresAt) "RECONCILE_REQUIRED"
  let sourceDigest ← digestOf hash readback
  let data ← readbackData product readback
  let draft ← draftStatus (get data "statusName")
  let submitted ← object original
  sameFields hash data (submitted.filter fun entry => entry.1 ≠ "items")
  let items ← rowsOf 1 (get data "items")
  let one ← single "RECONCILE_REQUIRED" items
  let item ← object one
  match firstItem submitted with
  | none => pure none
  | some reviewed => do
      sameFields hash item reviewed
      let decided ← itemDecision draft product sourceDigest item
      pure (some decided)

/-- `reconcile_listing_fixture`. -/
def reconcileListingFixture : Option FixtureListingReadback :=
  match matchedListing hash plan creation original readback observedAt now with
  | .ok result => result
  | .error _ => some { decision := "RECONCILE_REQUIRED" }

end

/-! ## Fields up to the order of keys -/

section

variable {entries others : Entries} {key : String}

/-- Sorting keeps the first entry of a key before the others. -/
theorem find_orderedInsert (entry : String × Json) (rest : Entries) :
    (rest.orderedInsert (fun first second => Json.keyLe first second = true) entry).find? (fun shown => shown.1 = key) =
      if entry.1 = key then some entry else rest.find? fun shown => shown.1 = key := by
  induction rest with
  | nil => by_cases here : entry.1 = key <;> simp [here]
  | cons other rest ih =>
    by_cases before : Json.keyLe entry other = true
    · rw [List.orderedInsert, if_pos before]
      by_cases here : entry.1 = key <;> simp [here]
    · -- an entry goes behind another of a smaller key only, which is then another key
      have apart : other.1 ≠ entry.1 := by
        intro same
        apply before
        rw [Json.keyLe, same]
        exact (Timestamp.codesLe_total _ _).elim id id
      rw [List.orderedInsert, if_neg before, List.find?_cons, List.find?_cons, ih]
      by_cases there : other.1 = key
      · have elsewhere : entry.1 ≠ key := fun same => apart (there.trans same.symm)
        simp [there, elsewhere]
      · simp [there]

theorem sortKeys_get (entries : Entries) (key : String) :
    get ((Json.sortEntries entries).insertionSort fun first second => Json.keyLe first second = true) key =
      Json.sortKeys (get entries key) := by
  induction entries with
  | nil => rfl
  | cons entry rest ih =>
    obtain ⟨name, value⟩ := entry
    simp only [get] at ih ⊢
    rw [Json.sortEntries, List.insertionSort_cons, find_orderedInsert, List.find?_cons]
    by_cases here : name = key
    · simp [here]
    · simp only [here, decide_false, if_false]
      exact ih

theorem get_of_sorted (same : Json.sortKeys (.object entries) = Json.sortKeys (.object others)) (key : String) :
    Json.sortKeys (get entries key) = Json.sortKeys (get others key) := by
  rw [← sortKeys_get, ← sortKeys_get]
  simp only [Json.sortKeys, Json.object.injEq] at same
  rw [same]

theorem get_mem (held : key ∈ entries.map Prod.fst) : (key, get entries key) ∈ entries := by
  obtain ⟨⟨name, value⟩, member, rfl⟩ := List.mem_map.mp held
  obtain ⟨entry, found⟩ := Option.isSome_iff_exists.mp (List.find?_isSome.mpr ⟨_, member, decide_eq_true rfl⟩ :
    (entries.find? fun entry => entry.1 = name).isSome = true)
  have named : entry.1 = name := by simpa using List.find?_some found
  have first := List.mem_of_find?_eq_some found
  simp only [get, found]
  rwa [← named]

theorem exact_get (exact : Json.exact (.object entries) = true) (key : String) : Json.exact (get entries key) = true := by
  rw [Json.exact, Json.exactEntries_eq_all, List.all_eq_true] at exact
  by_cases held : key ∈ entries.map Prod.fst
  · exact exact _ (get_mem held)
  · have missing : entries.find? (fun entry => entry.1 = key) = none := by
      rw [List.find?_eq_none]
      intro entry member same
      exact held (List.mem_map.mpr ⟨entry, member, of_decide_eq_true same⟩)
    simp only [get, missing]
    rfl

theorem get_filter {dropped : String} (other : key ≠ dropped) :
    get (entries.filter fun entry => entry.1 ≠ dropped) key = get entries key := by
  have kept : (entries.filter fun entry => entry.1 ≠ dropped).find? (fun entry => entry.1 = key) =
      entries.find? fun entry => entry.1 = key := by
    induction entries with
    | nil => rfl
    | cons entry rest ih =>
      by_cases here : entry.1 = key
      · have stays : entry.1 ≠ dropped := here ▸ other
        simp [here, other]
      · by_cases stays : entry.1 = dropped
        · simp only [List.filter_cons, List.find?_cons, stays]
          simpa [stays, other.symm] using ih
        · simp only [List.filter_cons, List.find?_cons, here]
          simpa [stays, here] using ih
  simp only [get, kept]

theorem sortKeys_eq_int {value : Json} {number : Int} (same : Json.sortKeys value = .int number) : value = .int number := by
  cases value <;> simp_all [Json.sortKeys]

theorem sortKeys_eq_text {value : Json} {text : String} (same : Json.sortKeys value = .text text) : value = .text text := by
  cases value <;> simp_all [Json.sortKeys]

/-- A list of one object sorts to a list of one object only. -/
theorem sortKeys_eq_single {value : Json} (same : Json.sortKeys value = Json.sortKeys (.list [.object entries])) :
    ∃ item, value = .list [.object item] ∧ Json.sortKeys (.object item) = Json.sortKeys (.object entries) := by
  cases value with
  | list items =>
    rw [Json.sortKeys, Json.sortKeys, Json.list.injEq] at same
    cases items with
    | nil => cases same
    | cons first rest =>
      cases rest with
      | nil =>
        simp only [Json.sortItems, List.cons.injEq, and_true] at same
        cases first with
        | object item => exact ⟨item, rfl, same⟩
        | _ => simp [Json.sortKeys] at same
      | cons second rest => simp [Json.sortItems] at same
  | _ => simp [Json.sortKeys] at same

theorem sameLeaf_text {value : Json} {text : String} : sameLeaf value (.text text) = true ↔ value = .text text := by
  cases value <;> simp [sameLeaf]

end

/-! ## Fields that are read back -/

section

variable {hash : String → String}

theorem sameFields_ok (injective : Function.Injective hash) {shown reviewed : Entries}
    (shown_exact : Json.exact (.object shown) = true) (reviewed_exact : ∀ entry ∈ reviewed, Json.exact entry.2 = true)
    (same : sameFields hash shown reviewed = .ok ()) : ∀ entry ∈ reviewed,
      Json.sortKeys (get shown entry.1) = Json.sortKeys entry.2 := by
  induction reviewed with
  | nil => exact fun _ member => absurd member List.not_mem_nil
  | cons entry rest ih =>
    obtain ⟨key, value⟩ := entry
    simp only [sameFields, except_bind_eq_ok, require_eq_ok] at same
    obtain ⟨read, read_digest, _, reviewed_digest, _, rfl, later⟩ := same
    rintro other member
    rcases List.mem_cons.mp member with rfl | behind
    · exact sortKeys_of_digest injective (exact_get shown_exact key) (reviewed_exact _ List.mem_cons_self) read_digest
        reviewed_digest
    · exact ih (fun entry member => reviewed_exact entry (List.mem_cons_of_mem _ member)) later other behind

theorem sameFields_get (injective : Function.Injective hash) {shown reviewed : Entries}
    (shown_exact : Json.exact (.object shown) = true) (reviewed_exact : Json.exact (.object reviewed) = true)
    (same : sameFields hash shown reviewed = .ok ()) {key : String} (held : key ∈ reviewed.map Prod.fst) :
    Json.sortKeys (get shown key) = Json.sortKeys (get reviewed key) := by
  rw [Json.exact, Json.exactEntries_eq_all, List.all_eq_true] at reviewed_exact
  exact sameFields_ok injective shown_exact reviewed_exact same _ (get_mem held)

/-- The reviewed body, with its one item and what the review took from both. -/
structure Submitted (plan : FixtureListingReview) (body item : Entries) : Prop where
  one : get body "items" = .list [.object item]
  vendor : get body "vendorId" = .text plan.vendorId
  sku : get item "externalVendorSku" = .text plan.supplierSku
  price : get item "salePrice" = .int plan.priceKrw
  quantity : get item "maximumBuyCount" = .int plan.quantity
  fields : ∀ key, key = "vendorId" ∨ key = "items" → key ∈ body.map Prod.fst
  itemFields : ∀ key, key = "externalVendorSku" ∨ key = "salePrice" ∨ key = "maximumBuyCount" → key ∈ item.map Prod.fst

variable {printable : String → Bool} {fromisoformat : String → Option (Option Timestamp)}

theorem built_submitted {request : ListingRequest} {plan : FixtureListingReview}
    (built : buildCoupangListingReview printable hash fromisoformat request = .ok plan) :
    digestOf hash request.body = .ok plan.payloadDigest ∧ ∃ body item, request.body = .object body ∧
      Submitted plan body item := by
  simp only [buildCoupangListingReview, except_bind_eq_ok] at built
  obtain ⟨payloadDigest, digest, _, -, _, -, _, -, vendorId, -, supplierSku, -, _, -, offered, body_read, _, -, _, -, _, -,
    _, -, _, -, _, -, _, -, _, -, _, -, _, -, made⟩ := built
  cases made
  refine ⟨digest, ?_⟩
  simp only [listingBody, except_bind_eq_ok, object_eq_ok] at body_read
  obtain ⟨body, shape, _, -, _, shipped, _, -, _, -, itemed⟩ := body_read
  simp only [shippingFields, keysAre, exactly, except_bind_eq_ok, require_eq_ok] at shipped
  obtain ⟨_, ⟨-, body_keys⟩, _, leaves, -⟩ := shipped
  simp only [listingItem, keysAre, exactly, except_bind_eq_ok, require_eq_ok, rowsOf_eq_ok, object_eq_ok,
    positiveField_eq_ok] at itemed
  obtain ⟨_, ⟨listed, -⟩, one, alone, item, rfl, _, ⟨-, item_keys⟩, _, item_leaves, _, -, _, -, price, ⟨priced, -⟩,
    quantity, ⟨counted, -⟩, rest⟩ := itemed
  rw [single_ok alone] at listed
  have offered_is : offered = (price, quantity) := by
    obtain ⟨_, -, _, -, _, -, _, -, _, -, _, -, _, -, _, -, _, -, _, -, _, -, made⟩ := rest
    exact (Except.ok.inj made).symm
  refine ⟨body, item, shape, listed, ?_, ?_, ?_, ?_, ?_, ?_⟩
  · exact sameLeaf_text.mp (List.all_eq_true.mp leaves _ List.mem_cons_self)
  · exact sameLeaf_text.mp (List.all_eq_true.mp item_leaves ("externalVendorSku", .text supplierSku) (by simp))
  · rw [priced, offered_is]
  · rw [counted, offered_is]
  · rintro key (rfl | rfl) <;> exact body_keys (by simp [shippingKeys])
  · rintro key (rfl | rfl | rfl) <;> exact item_keys (by simp)

/-- What a payload with the digest of the reviewed one submits. -/
theorem submitted_again (injective : Function.Injective hash) {plan : FixtureListingReview} {body item submitted : Entries}
    {digest : String} (known : Submitted plan body item) (reviewed : digestOf hash (.object body) = .ok digest)
    (presented : digestOf hash (.object submitted) = .ok digest) (body_exact : Json.exact (.object body) = true)
    (submitted_exact : Json.exact (.object submitted) = true) :
    ∃ again, firstItem submitted = some again ∧ Json.sortKeys (.object submitted) = Json.sortKeys (.object body) ∧
      Json.sortKeys (.object again) = Json.sortKeys (.object item) := by
  have same := sortKeys_of_digest injective submitted_exact body_exact presented reviewed
  have items := get_of_sorted same "items"
  rw [known.one] at items
  obtain ⟨again, listed, sorted⟩ := sortKeys_eq_single items
  exact ⟨again, by simp [firstItem, listed], same, sorted⟩

theorem itemDecision_ok {draft : Bool} {product : Int} {sourceDigest : String} {item : Entries}
    {result : FixtureListingReadback} (decided : itemDecision draft product sourceDigest item = .ok result) :
    result.sellerProductId = some product ∧
      (draft = true ∧ result.decision = "MATCHED_DRAFT_FIXTURE" ∧ get item "vendorItemId" = .null ∨
        draft = false ∧ result.decision = "MATCHED_APPROVED_FIXTURE" ∧
          ∃ vendorItem, get item "vendorItemId" = .int vendorItem ∧ result.vendorItemId = some vendorItem) := by
  simp only [itemDecision, except_bind_eq_ok, require_eq_ok, positiveField_eq_ok] at decided
  obtain ⟨_, -, _, -, decided⟩ := decided
  cases draft with
  | true =>
    simp only [if_true, except_bind_eq_ok, require_eq_ok] at decided
    obtain ⟨_, missing, made⟩ := decided
    cases made
    refine ⟨rfl, .inl ⟨rfl, rfl, ?_⟩⟩
    unfold unset at missing
    split at missing
    · assumption
    · cases missing
  | false =>
    simp only [Bool.false_eq_true, if_false, except_bind_eq_ok, positiveField_eq_ok] at decided
    obtain ⟨vendorItem, ⟨there, -⟩, made⟩ := decided
    cases made
    exact ⟨rfl, .inr ⟨rfl, rfl, vendorItem, there, rfl⟩⟩

theorem readbackData_ok {product : Int} {readback : Json} {data : Entries}
    (read : readbackData product readback = .ok data) : ∃ body, readback = .object body ∧ get body "data" = .object data ∧
      get data "sellerProductId" = .int product := by
  simp only [readbackData, except_bind_eq_ok, require_eq_ok, object_eq_ok, positiveField_eq_ok] at read
  obtain ⟨body, rfl, _, -, _, inner, _, ⟨shown, -⟩, _, rfl, made⟩ := read
  cases made
  exact ⟨body, rfl, inner, shown⟩

theorem draftStatus_ok {status : Json} {draft : Bool} (read : draftStatus status = .ok draft) :
    status = .text (if draft then "임시저장" else "승인완료") := by
  have text_of : ∀ text, textIs text status = true → status = .text text := by
    intro text is
    unfold textIs at is
    split at is
    · rw [of_decide_eq_true is]
    · cases is
  unfold draftStatus at read
  split at read
  · next drafted =>
    cases read
    exact text_of _ drafted
  · simp only [except_bind_eq_ok, require_eq_ok] at read
    obtain ⟨_, approved, made⟩ := read
    cases made
    exact text_of _ approved

end

/-- Whatever was created and is read back, from whoever presents the payload: a readback is only ever reported as matched
within the time of the review, on the product that the creation named, and where it shows the reviewed vendor, SKU, price
and quantity, and every other field of the reviewed listing and of its item, with the reviewed values. It is a draft that
has no vendor item yet, or approved with one. -/
theorem listing_read_back (printable : String → Bool) (hash : String → String) (injective : Function.Injective hash)
    (fromisoformat : String → Option (Option Timestamp)) (request : ListingRequest) (plan : FixtureListingReview)
    (built : buildCoupangListingReview printable hash fromisoformat request = .ok plan) (creation original readback : Json)
    (observedAt now : Option Timestamp) (reviewed_exact : Json.exact request.body = true)
    (original_exact : Json.exact original = true) (readback_exact : Json.exact readback = true)
    (result : FixtureListingReadback)
    (reconciled : reconcileListingFixture hash plan creation original readback observedAt now = some result)
    (matched : result.decision ≠ "RECONCILE_REQUIRED") :
    ∃ body item data shown product observed time,
      request.body = .object body ∧ get body "items" = .list [.object item] ∧
      interpretListingCreationFixture hash creation =
        { decision := "CREATED_ID_REQUIRES_READBACK", sellerProductId := some product } ∧
      observedAt = some observed ∧ now = some time ∧
      (plan.createdAt ≤ observed ∧ observed ≤ time ∧ time < plan.expiresAt) ∧
      (∃ reply, readback = .object reply ∧ get reply "data" = .object data) ∧
      get data "items" = .list [.object shown] ∧
      (get data "sellerProductId" = .int product ∧ result.sellerProductId = some product) ∧
      (get data "vendorId" = .text plan.vendorId ∧ get shown "externalVendorSku" = .text plan.supplierSku ∧
        get shown "salePrice" = .int plan.priceKrw ∧ get shown "maximumBuyCount" = .int plan.quantity) ∧
      (∀ key ∈ body.map Prod.fst, key ≠ "items" → Json.sortKeys (get data key) = Json.sortKeys (get body key)) ∧
      (∀ key ∈ item.map Prod.fst, Json.sortKeys (get shown key) = Json.sortKeys (get item key)) ∧
      (result.decision = "MATCHED_DRAFT_FIXTURE" ∧ get data "statusName" = .text "임시저장" ∧
          get shown "vendorItemId" = .null ∨
        result.decision = "MATCHED_APPROVED_FIXTURE" ∧ get data "statusName" = .text "승인완료" ∧
          ∃ vendorItem, get shown "vendorItemId" = .int vendorItem ∧ result.vendorItemId = some vendorItem) := by
  obtain ⟨reviewed_digest, body, item, body_is, known⟩ := built_submitted built
  have whole : matchedListing hash plan creation original readback observedAt now = .ok (some result) := by
    unfold reconcileListingFixture at reconciled
    split at reconciled
    · next ran =>
      rw [reconciled] at ran
      exact ran
    · cases reconciled
      exact absurd rfl matched
  simp only [matchedListing, except_bind_eq_ok, require_eq_ok, aware_ok, object_eq_ok, rowsOf_eq_ok] at whole
  obtain ⟨_, presented, _, rfl, product, created, observed, seen, time, known_time, _, window, sourceDigest, -, data, read,
    draft, status, submitted, rfl, _, fields, rows, ⟨listed, -⟩, one, alone, shown, rfl, whole⟩ := whole
  rw [single_ok alone] at listed
  obtain ⟨reply, rfl, inner, numbered⟩ := readbackData_ok read
  rw [body_is] at reviewed_digest reviewed_exact
  -- the payload that was presented submits what was reviewed
  obtain ⟨again, first, same, item_same⟩ :=
    submitted_again injective known reviewed_digest presented reviewed_exact original_exact
  rw [first] at whole
  simp only [except_bind_eq_ok] at whole
  obtain ⟨_, item_fields, decided, decision, made⟩ := whole
  cases made
  have data_exact : Json.exact (.object data) = true := inner ▸ exact_get readback_exact "data"
  have shown_exact : Json.exact (.object shown) = true := by
    have all := exact_get data_exact "items"
    rw [listed] at all
    simpa [Json.exact, Json.exactItems] using all
  have again_exact : Json.exact (.object again) = true := by
    have all := exact_get reviewed_exact "items"
    rw [known.one] at all
    rw [← Json.exact_sortKeys, item_same, Json.exact_sortKeys]
    simpa [Json.exact, Json.exactItems] using all
  have top : ∀ key ∈ body.map Prod.fst, key ≠ "items" → Json.sortKeys (get data key) = Json.sortKeys (get body key) := by
    intro key held other
    obtain ⟨entry, member, rfl⟩ := List.mem_map.mp ((Json.keys_of_sorted same).mem_iff.mpr held)
    have kept : entry ∈ submitted.filter fun entry => entry.1 ≠ "items" :=
      List.mem_filter.mpr ⟨member, decide_eq_true other⟩
    have kept_exact : Json.exact (.object (submitted.filter fun entry => entry.1 ≠ "items")) = true := by
      rw [Json.exact, Json.exactEntries_eq_all, List.all_eq_true] at original_exact ⊢
      exact fun entry among => original_exact entry (List.mem_of_mem_filter among)
    rw [sameFields_get injective data_exact kept_exact fields (List.mem_map.mpr ⟨entry, kept, rfl⟩), get_filter other]
    exact get_of_sorted same entry.1
  have below : ∀ key ∈ item.map Prod.fst, Json.sortKeys (get shown key) = Json.sortKeys (get item key) := by
    intro key held
    rw [sameFields_get injective shown_exact again_exact item_fields ((Json.keys_of_sorted item_same).mem_iff.mpr held)]
    exact get_of_sorted item_same key
  obtain ⟨named, state⟩ := itemDecision_ok decision
  refine ⟨body, item, data, shown, product, observed, time, body_is, known.one, ?_, seen, known_time, window,
    ⟨reply, rfl, inner⟩, listed, ⟨numbered, named⟩, ⟨?_, ?_, ?_, ?_⟩, top, below, ?_⟩
  · simp only [interpretListingCreationFixture, created]
  · have read := top "vendorId" (known.fields _ (.inl rfl)) (by decide)
    rw [known.vendor] at read
    exact sortKeys_eq_text read
  · have read := below "externalVendorSku" (known.itemFields _ (.inl rfl))
    rw [known.sku] at read
    exact sortKeys_eq_text read
  · have read := below "salePrice" (known.itemFields _ (.inr (.inl rfl)))
    rw [known.price] at read
    exact sortKeys_eq_int read
  · have read := below "maximumBuyCount" (known.itemFields _ (.inr (.inr rfl)))
    rw [known.quantity] at read
    exact sortKeys_eq_int read
  · rcases state with ⟨rfl, decision, missing⟩ | ⟨rfl, decision, there⟩
    · exact .inl ⟨decision, draftStatus_ok status, missing⟩
    · exact .inr ⟨decision, draftStatus_ok status, there⟩


/-! ## A listing of one cup -/

def cupNotice : Json := .object [("noticeCategoryName", .text "n"), ("noticeCategoryDetailName", .text "d"),
  ("content", .text "c")]

def cupItem : Entries :=
  [("itemName", .text "cup"), ("originalPrice", .int 900), ("salePrice", .int 900), ("maximumBuyCount", .int 5),
    ("maximumBuyForPerson", .int 0), ("maximumBuyForPersonPeriod", .int 1), ("outboundShippingTimeDay", .int 1),
    ("unitCount", .int 1), ("adultOnly", .text "EVERYONE"), ("taxType", .text "TAX"),
    ("parallelImported", .text "NOT_PARALLEL_IMPORTED"), ("overseasPurchased", .text "NOT_OVERSEAS_PURCHASED"),
    ("pccNeeded", .bool false), ("externalVendorSku", .text "cup"),
    ("images", .list [.object [("imageOrder", .int 0), ("imageType", .text "REPRESENTATION"),
      ("vendorPath", .text "https://fixture.invalid/product.png")]]),
    ("attributes", .list [.object [("attributeTypeName", .text "color"), ("attributeValueName", .text "red")]]),
    ("notices", .list [cupNotice]),
    ("contents", .list [.object [("contentsType", .text "TEXT"),
      ("contentDetails", .list [.object [("detailType", .text "TEXT"), ("content", .text "c")]])]]),
    ("certifications", .list [.object [("certificationType", .text "NOT_REQUIRED"), ("certificationCode", .text "")]]),
    ("offerCondition", .text "NEW")]

def cupFields : Entries :=
  [("displayCategoryCode", .int 1), ("sellerProductName", .text "cup"), ("vendorId", .text "v"),
    ("saleStartedAt", .text "2026-01-01T00:00:00"), ("saleEndedAt", .text "2027-01-01T00:00:00"),
    ("deliveryMethod", .text "SEQUENCIAL"), ("deliveryCompanyCode", .text "KDEXP"), ("deliveryChargeType", .text "FREE"),
    ("deliveryCharge", .int 0), ("freeShipOverAmount", .int 0), ("deliveryChargeOnReturn", .int 3000),
    ("remoteAreaDeliverable", .text "N"), ("unionDeliveryType", .text "NOT_UNION_DELIVERY"), ("returnCenterCode", .text "r"),
    ("returnChargeName", .text "r"), ("companyContactNumber", .text "r"), ("returnZipCode", .text "r"),
    ("returnAddress", .text "r"), ("returnAddressDetail", .text "r"), ("returnCharge", .int 3000),
    ("outboundShippingPlaceCode", .int 1), ("vendorUserId", .text "u"), ("requested", .bool false)]

def cupListing (item : Entries) : Entries := cupFields ++ [("items", .list [.object item])]

def cupRequest : ListingRequest where
  body := .object (cupListing cupItem)
  report := ⟨"s", sampleDigest, [⟨"cup", 10, 500, "KRW", "1970-01-01T00:00:00Z", sampleDigest⟩], []⟩
  metadata := .object [("fixtureSchema", .text "listing-category-v1"), ("categoryCode", .int 1),
    ("requiredAttributes", .list [.text "color"]), ("noticeCategory", .text "n"), ("requiredNotices", .list [.text "d"]),
    ("certificationRequired", .bool false)]
  tenantRef := "t"
  connectionRef := "c"
  vendorId := "v"
  supplierSku := "cup"
  rightsDigest := sampleDigest
  now := some (.utc 20)
  observedAt := some (.utc 0)
  expiresAt := some (.utc 300)
  policy := ⟨0, 0, 10, 0, .finite ⟨false, 0, 0⟩, 300⟩

/-- The item of the cup, approved with a vendor item. -/
def cupShown : Entries := ("sellerProductItemId", .int 8) :: ("vendorItemId", .int 9) :: cupItem

def cupData : Entries := ("sellerProductId", .int 7) :: ("statusName", .text "승인완료") :: cupListing cupShown

def cupReadback : Json := .object [("code", .text "SUCCESS"), ("data", .object cupData)]

def cupCreation : Json := .object [("code", .text "SUCCESS"), ("data", .int 7)]

section

variable {hash : String → String}

theorem small_canonical {value : Json} (few : (Json.chars (Json.sortKeys value)).length ≤ 524288) :
    (Json.canonical value).utf8ByteSize ≤ 2 * 1024 * 1024 := by
  have sizes : ∀ letters : List Char, String.utf8Len letters ≤ 4 * letters.length := by
    intro letters
    induction letters with
    | nil => exact le_rfl
    | cons letter rest ih =>
      have size := Char.utf8Size_le_four letter
      rw [String.utf8Len_cons, List.length_cons]
      omega
  rw [Json.canonical, String.utf8ByteSize_ofList]
  have whole := sizes (Json.chars (Json.sortKeys value))
  omega

/-- A readback that shows every reviewed value as it is. -/
theorem sameFields_self {shown reviewed : Entries} (same : ∀ entry ∈ reviewed, get shown entry.1 = entry.2)
    (few : ∀ entry ∈ reviewed, (Json.chars (Json.sortKeys entry.2)).length ≤ 524288) :
    sameFields hash shown reviewed = .ok () := by
  induction reviewed with
  | nil => rfl
  | cons entry rest ih =>
    obtain ⟨key, value⟩ := entry
    have encoded : digestOf hash value = .ok (hash (Json.canonical value)) :=
      digestOf_small (small_canonical (few _ List.mem_cons_self))
    have behind := ih (fun entry member => same entry (List.mem_cons_of_mem _ member))
      fun entry member => few entry (List.mem_cons_of_mem _ member)
    have here : get shown key = value := same _ List.mem_cons_self
    -- one value is encoded twice, and compared with itself
    simp only [sameFields, here, except_bind_eq_ok, require_eq_ok]
    exact ⟨_, encoded, _, encoded, (), rfl, behind⟩

end

theorem cup_digest : digestOf id cupRequest.body = .ok (Json.canonical cupRequest.body) :=
  digestOf_small (small_canonical (by decide +kernel))

theorem cup_read : digestOf id cupReadback = .ok (Json.canonical cupReadback) :=
  digestOf_small (small_canonical (by decide +kernel))

theorem cup_built : ∃ plan,
    buildCoupangListingReview (fun _ => true) id (fun _ => some (some (.utc 0))) cupRequest = .ok plan ∧
      plan.createdAt = .utc 20 ∧ plan.expiresAt = .utc 300 := by
  have times : (buildCoupangListingReview (fun _ => true) id (fun _ => some (some (.utc 0))) cupRequest).toOption.map
      (fun plan => (plan.createdAt, plan.expiresAt)) = some (.utc 20, .utc 300) := by
    -- the digest of the body is only passed on
    rw [buildCoupangListingReview, cup_digest]
    decide +kernel
  rcases built : buildCoupangListingReview (fun _ => true) id (fun _ => some (some (.utc 0))) cupRequest with why | plan
  · rw [built] at times
    cases times
  · rw [built] at times
    obtain ⟨created, expires⟩ := Prod.mk.inj (Option.some.inj times)
    exact ⟨plan, rfl, created, expires⟩

theorem cup_fields : sameFields id cupData cupFields = .ok () := by
  apply sameFields_self
  · simp [cupFields, cupData, cupListing, get]
  · decide +kernel

theorem cup_item : sameFields id cupShown cupItem = .ok () := by
  apply sameFields_self
  · simp [cupItem, cupShown, get]
  · decide +kernel

def cupResult : FixtureListingReadback where
  decision := "MATCHED_APPROVED_FIXTURE"
  sellerProductId := some 7
  vendorItemId := some 9
  sourceDigest := some (Json.canonical cupReadback)

theorem listing_read_back_cup : ∃ plan data shown,
    buildCoupangListingReview (fun _ => true) id (fun _ => some (some (.utc 0))) cupRequest = .ok plan ∧
      reconcileListingFixture id plan cupCreation cupRequest.body cupReadback (some (.utc 30)) (some (.utc 40)) =
        some cupResult ∧ (∃ reply, cupReadback = .object reply ∧ get reply "data" = .object data) ∧
      get data "items" = .list [.object shown] ∧
      get shown "salePrice" = .int plan.priceKrw := by
  obtain ⟨plan, built, created, expires⟩ := cup_built
  obtain ⟨reviewed, -⟩ := built_submitted built
  have presented : plan.payloadDigest = Json.canonical cupRequest.body :=
    Except.ok.inj (reviewed.symm.trans cup_digest)
  have product : createdProduct id cupCreation = .ok 7 := by rfl
  have data : readbackData 7 cupReadback = .ok cupData := by rfl
  have alone : get cupData "items" = .list [.object cupShown] := by rfl
  have first : firstItem (cupListing cupItem) = some cupItem := by rfl
  have others : (cupListing cupItem).filter (fun entry => entry.1 ≠ "items") = cupFields := by
    simp [cupListing, cupFields]
  have decision : itemDecision false 7 (Json.canonical cupReadback) cupShown = .ok cupResult := by rfl
  have whole : matchedListing id plan cupCreation cupRequest.body cupReadback (some (.utc 30)) (some (.utc 40)) =
      .ok (some cupResult) := by
    simp only [matchedListing, except_bind_eq_ok, require_eq_ok, aware_ok, object_eq_ok, rowsOf_eq_ok]
    refine ⟨_, cup_digest, (), presented.symm, 7, product, _, rfl, _, rfl, (), ?_, _, cup_read, cupData, data, false, rfl,
      _, rfl, (), ?_, [.object cupShown], ⟨alone, by decide⟩, .object cupShown, rfl, cupShown, rfl, ?_⟩
    · rw [created, expires]
      decide
    · rw [others]
      exact cup_fields
    · rw [first]
      simp only [except_bind_eq_ok]
      exact ⟨(), cup_item, _, decision, rfl⟩
  have reconciled : reconcileListingFixture id plan cupCreation cupRequest.body cupReadback (some (.utc 30))
      (some (.utc 40)) = some cupResult := by
    rw [reconcileListingFixture, whole]
  obtain ⟨_, _, data, shown, _, _, _, -, -, -, -, -, -, inner, listed, -, ⟨-, -, priced, -⟩, -⟩ :=
    listing_read_back (fun _ => true) id Function.injective_id (fun _ => some (some (.utc 0))) cupRequest plan built
      cupCreation cupRequest.body cupReadback (some (.utc 30)) (some (.utc 40)) (by decide +kernel) (by decide +kernel)
      (by decide +kernel) cupResult reconciled (by decide)
  exact ⟨plan, data, shown, built, reconciled, inner, listed, priced⟩

end AiStore.Offline
