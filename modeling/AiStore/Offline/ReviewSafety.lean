import AiStore.Offline.Listing

/-! Which reviews are accepted, and how fresh what they were built from then is. -/

set_option autoImplicit false

namespace AiStore.Offline

open Library

/-- The one supplier row that a review was built from, by the time that it tells. -/
def supplierObservation (fromisoformat : String → Option (Option Timestamp)) : List SupplierFileRow → Option Timestamp
  | [row] => (fromisoformat (zuluOffset row.observedAt)).join
  | _ => none

/-- A review as its builder has made it, with the observations that it was made from and their greatest age. -/
inductive Built (hash : String → String) (printable : String → Bool)
    (fromisoformat : String → Option (Option Timestamp)) : Review → List (Option Timestamp) → Int → Prop where
  | tracking (request : TrackingRequest) (plan : FixtureTrackingReview) :
      buildCoupangTrackingReview request = .ok plan →
        Built hash printable fromisoformat (.tracking plan) [request.observedAt, request.claimsObservedAt] request.maxAgeSeconds
  | dispatch (request : DispatchRequest) (plan : FixtureNaverDispatchReview) :
      buildNaverDispatchReview hash fromisoformat request = .ok plan →
        Built hash printable fromisoformat (.dispatch plan) [request.observedAt] request.maxAgeSeconds
  | initial (request : InitialSplitRequest) (plan : FixtureSplitReview) :
      buildInitialSplitReview request = .ok plan →
        Built hash printable fromisoformat (.split plan) [request.times.observedAt, request.times.claimsObservedAt]
          request.times.maxAgeSeconds
  | followup (request : FollowupSplitRequest) (plan : FixtureSplitReview) :
      buildFollowupSplitReview hash request = .ok plan →
        Built hash printable fromisoformat (.split plan) [request.times.observedAt, request.times.claimsObservedAt]
          request.times.maxAgeSeconds
  | listing (request : ListingRequest) (plan : FixtureListingReview) :
      buildCoupangListingReview printable hash fromisoformat request = .ok plan →
        Built hash printable fromisoformat (.listing plan)
          [request.observedAt, supplierObservation fromisoformat
            (request.report.rows.filter fun row => row.supplierSku = request.supplierSku ∧ row.currency = "KRW")]
          request.policy.maxAgeSeconds
  | catalog (request : CatalogRequest) (plan : FixtureCatalogReview) :
      buildCoupangCatalogReview hash fromisoformat request = .ok plan →
        Built hash printable fromisoformat (.catalog plan)
          [request.channelObservedAt, supplierObservation fromisoformat
            (request.report.rows.filter fun row => row.supplierSku = request.supplierSku)]
          request.policy.maxAgeSeconds
  | returned (request : ReturnRequest) (plan : FixtureReturnReview) :
      buildCoupangReturnReview request = .ok plan →
        Built hash printable fromisoformat (.returned plan) [request.observedAt, request.withdrawalObservedAt]
          request.maxAgeSeconds

/-- What an accepted verification tells about the review. -/
structure Honoured (hash : String → String) (plan : Review) (observations : List (Option Timestamp)) (maxAgeSeconds : Int)
    (presented : Presented) : Prop where
  digest : plan.approvalDigest hash = .ok presented.approvalDigest
  only : ∀ other : Review, other.approvalDigest hash = .ok presented.approvalDigest → other = plan
  scope : presented.tenantRef = plan.tenantRef ∧ presented.connectionRef = plan.connectionRef
  fresh : ∃ now, presented.now = some now ∧ ∀ observation ∈ observations, ∃ observed, observation = some observed ∧
    now < observed.addSeconds maxAgeSeconds

variable {hash : String → String} {printable : String → Bool} {fromisoformat : String → Option (Option Timestamp)}
variable {plan other : Review} {presented : Presented}

/-! ## Digests -/

@[simp] theorem exact_isoformat (time : Timestamp) : Json.exact (isoformat time) = true := rfl

@[simp] theorem isoformat_inj {first second : Timestamp} : isoformat first = isoformat second ↔ first = second := by
  simp only [isoformat, Json.list.injEq, List.cons.injEq, Json.int.injEq, and_true]
  exact (Timestamp.ext_iff (x := first) (y := second)).symm

@[simp] theorem sortKeys_isoformat (time : Timestamp) : Json.sortKeys (isoformat time) = isoformat time := rfl

theorem exact_item (item : FixtureSplitItem) : Json.exact item.asdict = true := by
  simp [FixtureSplitItem.asdict, Json.exact, Json.exactEntries]

/-- No review holds a float. -/
theorem Review.exact_fields (plan : Review) : Json.exact (.object plan.fields) = true := by
  cases plan with
  | split plan =>
    have items := exactItems_map FixtureSplitItem.asdict plan.items exact_item
    simp [Review.fields, FixtureSplitReview.fields, Json.exact, Json.exactEntries, items]
  | tracking plan => simp [Review.fields, FixtureTrackingReview.fields, Json.exact, Json.exactEntries]
  | dispatch plan => simp [Review.fields, FixtureNaverDispatchReview.fields, Json.exact, Json.exactEntries]
  | listing plan => simp [Review.fields, FixtureListingReview.fields, Json.exact, Json.exactEntries]
  | catalog plan => simp [Review.fields, FixtureCatalogReview.fields, Json.exact, Json.exactEntries]
  | returned plan => simp [Review.fields, FixtureReturnReview.fields, Json.exact, Json.exactEntries]

theorem item_inj {first second : FixtureSplitItem} (same : Json.sortKeys first.asdict = Json.sortKeys second.asdict) :
    first = second := by
  have entries := Json.entries_of_sorted same rfl (by simp)
  simp [Json.sortKeys] at entries
  cases first
  cases second
  simp_all

theorem optionalText_inj {first second : Option String}
    (same : Json.sortKeys (optionalText first) = Json.sortKeys (optionalText second)) : first = second := by
  cases first <;> cases second <;> simp_all [optionalText, Json.sortKeys]

/-- Reviews of two kinds have different numbers of fields. -/
theorem Review.fields_length (plan : Review) : plan.fields.length = match plan with
    | .tracking _ => 18
    | .dispatch _ => 12
    | .split _ => 14
    | .listing _ => 16
    | .catalog _ => 17
    | .returned _ => 19 := by
  cases plan <;> rfl

theorem FixtureTrackingReview.fields_inj {first second : FixtureTrackingReview}
    (same : Json.sortKeys (.object first.fields) = Json.sortKeys (.object second.fields)) : first = second := by
  have entries := Json.flat_of_sorted same rfl (by simp [FixtureTrackingReview.fields]) rfl rfl
  simp only [FixtureTrackingReview.fields, List.cons.injEq, Prod.mk.injEq, true_and, and_true, isoformat_inj,
    Json.text.injEq] at entries
  cases first
  cases second
  simp_all only

theorem FixtureNaverDispatchReview.fields_inj {first second : FixtureNaverDispatchReview}
    (same : Json.sortKeys (.object first.fields) = Json.sortKeys (.object second.fields)) : first = second := by
  have entries := Json.flat_of_sorted same rfl (by simp [FixtureNaverDispatchReview.fields]) rfl rfl
  simp only [FixtureNaverDispatchReview.fields, List.cons.injEq, Prod.mk.injEq, true_and, and_true, isoformat_inj,
    Json.text.injEq] at entries
  cases first
  cases second
  simp_all only

theorem FixtureListingReview.fields_inj {first second : FixtureListingReview}
    (same : Json.sortKeys (.object first.fields) = Json.sortKeys (.object second.fields)) : first = second := by
  have entries := Json.flat_of_sorted same rfl (by simp [FixtureListingReview.fields]) rfl rfl
  simp only [FixtureListingReview.fields, List.cons.injEq, Prod.mk.injEq, true_and, and_true, isoformat_inj, Json.text.injEq,
    Json.int.injEq] at entries
  cases first
  cases second
  simp_all only

theorem FixtureCatalogReview.fields_inj {first second : FixtureCatalogReview}
    (same : Json.sortKeys (.object first.fields) = Json.sortKeys (.object second.fields)) : first = second := by
  have entries := Json.flat_of_sorted same rfl (by simp [FixtureCatalogReview.fields]) rfl rfl
  simp only [FixtureCatalogReview.fields, List.cons.injEq, Prod.mk.injEq, true_and, and_true, isoformat_inj, Json.text.injEq,
    Json.int.injEq] at entries
  cases first
  cases second
  simp_all only

theorem FixtureReturnReview.fields_inj {first second : FixtureReturnReview}
    (same : Json.sortKeys (.object first.fields) = Json.sortKeys (.object second.fields)) : first = second := by
  have entries := Json.flat_of_sorted same rfl (by simp [FixtureReturnReview.fields]) rfl rfl
  simp only [FixtureReturnReview.fields, List.cons.injEq, Prod.mk.injEq, true_and, and_true, isoformat_inj, Json.text.injEq,
    Json.int.injEq] at entries
  cases first
  cases second
  simp_all only

theorem FixtureSplitReview.fields_inj {first second : FixtureSplitReview}
    (same : Json.sortKeys (.object first.fields) = Json.sortKeys (.object second.fields)) : first = second := by
  have entries := Json.entries_of_sorted same rfl (by simp [FixtureSplitReview.fields])
  simp only [FixtureSplitReview.fields, List.map_cons, List.map_nil, List.cons.injEq, Prod.mk.injEq, true_and, and_true,
    sortKeys_isoformat, isoformat_inj, Json.sortKeys, Json.text.injEq, Json.list.injEq] at entries
  obtain ⟨tenant, connection, order, phase, items, source, claim, preparation, prior, times⟩ := entries
  have same_items := Json.sortItems_inj (fun _ _ => item_inj) items
  have same_prior := optionalText_inj prior
  cases first
  cases second
  simp_all only

/-- One sorted form, one review. -/
theorem Review.fields_inj {first second : Review}
    (same : Json.sortKeys (.object first.fields) = Json.sortKeys (.object second.fields)) : first = second := by
  have lengths : first.fields.length = second.fields.length := by
    simpa using (Json.keys_of_sorted same).length_eq
  -- the kinds of reviews are told apart by how many fields they have
  rw [first.fields_length, second.fields_length] at lengths
  cases first <;> cases second <;> dsimp only at lengths <;> try exact absurd lengths (by decide)
  case tracking.tracking => exact congrArg Review.tracking (FixtureTrackingReview.fields_inj same)
  case dispatch.dispatch => exact congrArg Review.dispatch (FixtureNaverDispatchReview.fields_inj same)
  case split.split => exact congrArg Review.split (FixtureSplitReview.fields_inj same)
  case listing.listing => exact congrArg Review.listing (FixtureListingReview.fields_inj same)
  case catalog.catalog => exact congrArg Review.catalog (FixtureCatalogReview.fields_inj same)
  case returned.returned => exact congrArg Review.returned (FixtureReturnReview.fields_inj same)

/-- One digest, one review. -/
theorem approvalDigest_inj (injective : Function.Injective hash) {digest : String} (left : plan.approvalDigest hash = .ok digest)
    (right : other.approvalDigest hash = .ok digest) : other = plan := by
  simp only [Review.approvalDigest, digestOf, canonicalJson, except_bind_eq_ok, require_eq_ok] at left right
  obtain ⟨_, ⟨-, -, left_text⟩, left_hash⟩ := left
  obtain ⟨_, ⟨-, -, right_text⟩, right_hash⟩ := right
  cases left_text
  cases right_text
  -- one hash, one canonical text, one sorted object, one review
  have hashes := Except.ok.inj (right_hash.trans left_hash.symm)
  exact Review.fields_inj (Json.canonical_inj other.exact_fields plan.exact_fields (injective hashes))

/-! ## Verification -/

theorem aware_ok {given : Option Timestamp} {time : Timestamp} : aware given = .ok time ↔ given = some time := by
  cases given with
  | none => simp [aware]
  | some known =>
    rw [Option.some.injEq]
    exact ⟨Except.ok.inj, congrArg Except.ok⟩

theorem verifyScope_ok {u : Unit} (accepted : plan.verifyScope hash presented = .ok u) :
    (presented.tenantRef = plan.tenantRef ∧ presented.connectionRef = plan.connectionRef) ∧
      plan.approvalDigest hash = .ok presented.approvalDigest := by
  simp only [Review.verifyScope, hashRef, except_bind_eq_ok, require_eq_ok] at accepted
  obtain ⟨_, scope, shown, ⟨_, -, same⟩, own, digest, equal⟩ := accepted
  cases same
  rw [digest, equal]
  exact ⟨scope, rfl⟩

theorem verifyTime_ok {now : Timestamp} {result : String} (accepted : plan.verifyTime now = .ok result) :
    plan.startsAt ≤ now ∧ now < plan.expiresAt := by
  simp only [Review.verifyTime, except_bind_eq_ok, require_eq_ok] at accepted
  exact accepted.choose_spec.1

theorem verifyFixture_ok {result : String} (accepted : plan.verifyFixture hash presented = .ok result) :
    (presented.tenantRef = plan.tenantRef ∧ presented.connectionRef = plan.connectionRef) ∧
      plan.approvalDigest hash = .ok presented.approvalDigest ∧
      ∃ now, presented.now = some now ∧ plan.startsAt ≤ now ∧ now < plan.expiresAt := by
  simp only [Review.verifyFixture, except_bind_eq_ok] at accepted
  obtain ⟨now, known, _, scope, time⟩ := accepted
  exact ⟨(verifyScope_ok scope).1, (verifyScope_ok scope).2, now, aware_ok.mp known, verifyTime_ok time⟩

/-- Whichever verification it is, it has compared the scope, the digest and the time. -/
theorem verify_ok {result : String} (accepted : plan.verify hash presented = .ok result) :
    (presented.tenantRef = plan.tenantRef ∧ presented.connectionRef = plan.connectionRef) ∧
      plan.approvalDigest hash = .ok presented.approvalDigest ∧
      ∃ now, presented.now = some now ∧ plan.startsAt ≤ now ∧ now < plan.expiresAt := by
  -- the first two kinds read the clock before the scope, the others behind it
  have either : plan.verifyFixture hash presented = .ok result ∨ plan.verifyPlanned hash presented = .ok result := by
    cases plan with
    | tracking | dispatch => exact .inl accepted
    | split | listing | catalog | returned => exact .inr accepted
  rcases either with fixture | planned
  · exact verifyFixture_ok fixture
  · simp only [Review.verifyPlanned, except_bind_eq_ok] at planned
    obtain ⟨_, scope, now, known, time⟩ := planned
    exact ⟨(verifyScope_ok scope).1, (verifyScope_ok scope).2, now, aware_ok.mp known, verifyTime_ok time⟩

/-! ## Builders -/

/-- A known observation that is fresh for as long as the review lasts. -/
def Bounds (expiresAt : Timestamp) (maxAgeSeconds : Int) (observation : Option Timestamp) : Prop :=
  ∃ observed, observation = some observed ∧ expiresAt ≤ observed.addSeconds maxAgeSeconds

theorem freshFor_ok {stale : String} {now expiresAt observed : Timestamp} {maxAgeSeconds : Int} {u : Unit}
    (fresh : freshFor stale now expiresAt maxAgeSeconds observed = .ok u) : expiresAt ≤ observed.addSeconds maxAgeSeconds := by
  simp only [freshFor, except_bind_eq_ok, require_eq_ok] at fresh
  obtain ⟨_, -, -, bound⟩ := fresh
  exact bound

theorem Bounds.observed {given : Option Timestamp} {stale : String} {now expiresAt observed : Timestamp}
    {maxAgeSeconds : Int} {u : Unit} (known : aware given = .ok observed)
    (fresh : freshFor stale now expiresAt maxAgeSeconds observed = .ok u) : Bounds expiresAt maxAgeSeconds given :=
  ⟨observed, aware_ok.mp known, freshFor_ok fresh⟩

theorem single_ok {α : Type} {reason : String} {items : List α} {item : α} (found : single reason items = .ok item) :
    items = [item] := by
  unfold single at found
  split at found
  · rw [Except.ok.inj found]
  · cases found

theorem supplierTime_ok {row : SupplierFileRow} {time : Timestamp} (read : supplierTime fromisoformat row = .ok time) :
    supplierObservation fromisoformat [row] = some time := by
  unfold supplierTime at read
  split at read
  · next known =>
    rw [supplierObservation, known, Except.ok.inj read]
    rfl
  · cases read

theorem tracking_bounds {request : TrackingRequest} {plan : FixtureTrackingReview}
    (built : buildCoupangTrackingReview request = .ok plan) :
    Bounds plan.reviewExpiresAt request.maxAgeSeconds request.observedAt ∧
      Bounds plan.reviewExpiresAt request.maxAgeSeconds request.claimsObservedAt := by
  simp only [buildCoupangTrackingReview, except_bind_eq_ok, require_eq_ok] at built
  obtain ⟨_, -, _, -, now, -, observedAt, seen, expires, -, _, fresh, _, -, _, -, claims, claimed, _, -, _, bound, _, -, _, -,
    _, -, _, -, _, -, _, -, _, -, _, -, _, -, _, -, _, -, made⟩ := built
  cases made
  exact ⟨.observed seen fresh, claims, aware_ok.mp claimed, bound⟩

theorem dispatch_bounds {request : DispatchRequest} {plan : FixtureNaverDispatchReview}
    (built : buildNaverDispatchReview hash fromisoformat request = .ok plan) :
    Bounds plan.reviewExpiresAt request.maxAgeSeconds request.observedAt := by
  simp only [buildNaverDispatchReview, except_bind_eq_ok, require_eq_ok] at built
  obtain ⟨_, -, _, -, _, -, _, -, now, -, observedAt, seen, expires, -, _, -, _, -, _, fresh, _, -, _, -, _, -, _, -, made⟩ := built
  cases made
  exact .observed seen fresh

theorem sources_bounds {page : OfflineOrderPage} {claims : OfflineClaimPage} {orderId : String} {times : SplitTimes}
    {found : SplitSources} (read : sources page claims orderId times = .ok found) :
    Bounds found.expiresAt times.maxAgeSeconds times.observedAt ∧
      Bounds found.expiresAt times.maxAgeSeconds times.claimsObservedAt := by
  simp only [sources, except_bind_eq_ok, require_eq_ok] at read
  obtain ⟨_, -, _, -, _, -, observedAt, seen, claimsObservedAt, claimed, now, -, expires, -, _, -, _, fresh, _, fresh_claims, _, -,
    made⟩ := read
  cases made
  exact ⟨.observed seen fresh, .observed claimed fresh_claims⟩

theorem initial_bounds {request : InitialSplitRequest} {plan : FixtureSplitReview}
    (built : buildInitialSplitReview request = .ok plan) :
    Bounds plan.expiresAt request.times.maxAgeSeconds request.times.observedAt ∧
      Bounds plan.expiresAt request.times.maxAgeSeconds request.times.claimsObservedAt := by
  simp only [buildInitialSplitReview, except_bind_eq_ok, require_eq_ok] at built
  obtain ⟨_, -, _, -, _, -, _, -, _, -, found, read, _, -, _, -, _, -, _, -, _, -, _, -, _, -, _, -, _, -, made⟩ := built
  cases made
  exact sources_bounds read

theorem followup_bounds {request : FollowupSplitRequest} {plan : FixtureSplitReview}
    (built : buildFollowupSplitReview hash request = .ok plan) :
    Bounds plan.expiresAt request.times.maxAgeSeconds request.times.observedAt ∧
      Bounds plan.expiresAt request.times.maxAgeSeconds request.times.claimsObservedAt := by
  simp only [buildFollowupSplitReview, except_bind_eq_ok, require_eq_ok] at built
  obtain ⟨_, -, _, -, _, -, _, -, _, -, found, read, _, -, _, -, _, -, _, -, _, -, made⟩ := built
  cases made
  exact sources_bounds read

theorem return_bounds {request : ReturnRequest} {plan : FixtureReturnReview}
    (built : buildCoupangReturnReview request = .ok plan) :
    Bounds plan.expiresAt request.maxAgeSeconds request.observedAt ∧
      Bounds plan.expiresAt request.maxAgeSeconds request.withdrawalObservedAt := by
  simp only [buildCoupangReturnReview, except_bind_eq_ok, require_eq_ok] at built
  obtain ⟨_, -, _, -, _, -, _, -, _, -, _, -, _, -, _, -, _, -, _, -, _, -, _, -, _, -, now, -, observedAt, seen,
    withdrawalObservedAt, withdrawn, expires, -, _, -, _, fresh, _, fresh_withdrawal, _, -, made⟩ := built
  cases made
  exact ⟨.observed seen fresh, .observed withdrawn fresh_withdrawal⟩

theorem catalogRow_ok {report : SupplierImportReport} {sku : String} {row : SupplierFileRow}
    (found : catalogRow report sku = .ok row) : (report.rows.filter fun row => row.supplierSku = sku) = [row] := by
  simp only [catalogRow, except_bind_eq_ok, require_eq_ok] at found
  obtain ⟨_, -, one, only, _, -, same⟩ := found
  cases same
  exact single_ok only

theorem listingRow_ok {report : SupplierImportReport} {sku : String} {row : SupplierFileRow}
    (found : listingRow report sku = .ok row) :
    (report.rows.filter fun row => row.supplierSku = sku ∧ row.currency = "KRW") = [row] := by
  simp only [listingRow, except_bind_eq_ok, require_eq_ok] at found
  obtain ⟨_, -, only⟩ := found
  exact single_ok only

theorem ref_ok {given value : String} (read : ref given = .ok value) : value = given := by
  simp only [ref, except_bind_eq_ok, require_eq_ok] at read
  obtain ⟨_, -, same⟩ := read
  cases same
  rfl

theorem catalog_bounds {request : CatalogRequest} {plan : FixtureCatalogReview}
    (built : buildCoupangCatalogReview hash fromisoformat request = .ok plan) :
    Bounds plan.expiresAt request.policy.maxAgeSeconds request.channelObservedAt ∧
      Bounds plan.expiresAt request.policy.maxAgeSeconds (supplierObservation fromisoformat
        (request.report.rows.filter fun row => row.supplierSku = request.supplierSku)) := by
  simp only [buildCoupangCatalogReview, except_bind_eq_ok, require_eq_ok] at built
  obtain ⟨_, -, _, -, sku, named, _, -, _, -, _, -, row, found, now, -, observedAt, seen, expires, -, supplied, read, _, -, _, fresh,
    _, fresh_supplier, _, -, _, -, _, -, _, -, made⟩ := built
  cases made
  refine ⟨.observed seen fresh, supplied, ?_, freshFor_ok fresh_supplier⟩
  rw [← ref_ok named, catalogRow_ok found]
  exact supplierTime_ok read

theorem listing_bounds {request : ListingRequest} {plan : FixtureListingReview}
    (built : buildCoupangListingReview printable hash fromisoformat request = .ok plan) :
    Bounds plan.expiresAt request.policy.maxAgeSeconds request.observedAt ∧
      Bounds plan.expiresAt request.policy.maxAgeSeconds (supplierObservation fromisoformat
        (request.report.rows.filter fun row => row.supplierSku = request.supplierSku ∧ row.currency = "KRW")) := by
  simp only [buildCoupangListingReview, except_bind_eq_ok] at built
  obtain ⟨_, -, _, -, _, -, _, -, _, -, sku, named, _, -, _, -, row, found, now, -, observedAt, seen, expires, -, _, -, supplied, read,
    _, fresh, _, fresh_supplier, _, -, _, -, made⟩ := built
  cases made
  refine ⟨.observed seen fresh, supplied, ?_, freshFor_ok fresh_supplier⟩
  rw [← ref_ok named, listingRow_ok found]
  exact supplierTime_ok read

theorem Bounds.pair {expiresAt : Timestamp} {maxAgeSeconds : Int} {first second : Option Timestamp}
    (both : Bounds expiresAt maxAgeSeconds first ∧ Bounds expiresAt maxAgeSeconds second) :
    ∀ observation ∈ [first, second], Bounds expiresAt maxAgeSeconds observation := by
  simpa using both

/-- Every builder bounds the expiry by each observation that it uses. -/
theorem Built.bounds {observations : List (Option Timestamp)} {maxAgeSeconds : Int}
    (built : Built hash printable fromisoformat plan observations maxAgeSeconds) :
    ∀ observation ∈ observations, Bounds plan.expiresAt maxAgeSeconds observation := by
  cases built with
  | tracking request plan made => exact .pair (tracking_bounds made)
  | dispatch request plan made =>
    intro observation member
    rw [List.mem_singleton.mp member]
    exact dispatch_bounds made
  | initial request plan made => exact .pair (initial_bounds made)
  | followup request plan made => exact .pair (followup_bounds made)
  | listing request plan made => exact .pair (listing_bounds made)
  | catalog request plan made => exact .pair (catalog_bounds made)
  | returned request plan made => exact .pair (return_bounds made)

/-- An accepted review is the one that was presented, in its own scope, and built from fresh observations only. -/
theorem accepted_honoured (injective : Function.Injective hash) {observations : List (Option Timestamp)} {maxAgeSeconds : Int}
    (built : Built hash printable fromisoformat plan observations maxAgeSeconds) {result : String}
    (accepted : plan.verify hash presented = .ok result) : Honoured hash plan observations maxAgeSeconds presented := by
  obtain ⟨scope, digest, now, known, -, unexpired⟩ := verify_ok accepted
  refine ⟨digest, fun other same => approvalDigest_inj injective digest same, scope, now, known, fun observation member => ?_⟩
  -- the review has not expired, and its expiry is bounded by the age of the observation
  obtain ⟨observed, seen, bound⟩ := built.bounds observation member
  exact ⟨observed, seen, lt_of_lt_of_le unexpired bound⟩

/-! ## An accepted return -/

/-- A digest of the right form for one text. -/
def marking (special text : String) : String :=
  if text = special then String.ofList (List.replicate 64 'a') else "x" ++ text

theorem marking_injective (special : String) : Function.Injective (marking special) := by
  have apart : ∀ text : String, String.ofList (List.replicate 64 'a') ≠ "x" ++ text := by
    intro text same
    have heads := congrArg (fun shown : String => shown.toList.head?) same
    rw [String.toList_append, String.toList_ofList] at heads
    cases heads
  intro first second same
  unfold marking at same
  split at same <;> split at same
  · next left right => rw [left, right]
  · exact absurd same (apart second)
  · exact absurd same.symm (apart first)
  · have texts := congrArg String.toList same
    rw [String.toList_append, String.toList_append] at texts
    exact String.toList_inj.mp (List.append_cancel_left texts)

def sampleDigest : String := String.ofList (List.replicate 64 'b')

def sampleRequest : ReturnRequest where
  page := ⟨[⟨"r", "o", "s", "v", "RETURN", "VENDOR_WAREHOUSE_CONFIRM", 1, 1, false⟩], sampleDigest, none⟩
  tenantRef := "t"
  connectionRef := "c"
  vendorRef := "w"
  receiptId := "r"
  orderId := "o"
  shipmentId := "s"
  vendorItemId := "v"
  cancelQuantity := 1
  fixtureAmountKrw := 1
  fixtureAmountCapKrw := 1
  withdrawalReviewDigest := sampleDigest
  withdrawalReviewed := true
  observedAt := some (.utc 0)
  withdrawalObservedAt := some (.utc 10)
  now := some (.utc 20)
  expiresAt := some (.utc 300)
  maxAgeSeconds := 300

def sampleReview : FixtureReturnReview :=
  ⟨"t", "c", "w", "r", "o", "s", "v", 1, 1, 1, 1, sampleDigest, sampleDigest, .utc 0, .utc 10, .utc 20, .utc 300⟩

def sampleHash : String → String := marking (Json.canonical (.object sampleReview.fields))

def samplePresented : Presented := ⟨String.ofList (List.replicate 64 'a'), "t", "c", some (.utc 299)⟩

theorem sample_built : buildCoupangReturnReview sampleRequest = .ok sampleReview := by
  rfl

/-- A small value has the hash of its canonical text. -/
theorem digestOf_small {value : Json} (small : (Json.canonical value).utf8ByteSize ≤ 2 * 1024 * 1024) :
    digestOf hash value = .ok (hash (Json.canonical value)) := by
  have encoded : canonicalJson value = .ok (Json.canonical value) := by
    rw [canonicalJson, require, if_pos small]
    rfl
  rw [digestOf, encoded]
  rfl

theorem sample_digest : (Review.returned sampleReview).approvalDigest sampleHash = .ok samplePresented.approvalDigest := by
  have small : (Json.canonical (.object sampleReview.fields)).utf8ByteSize ≤ 2 * 1024 * 1024 := by
    rw [Json.canonical, String.utf8ByteSize_ofList]
    decide +kernel
  have hashed : sampleHash (Json.canonical (.object sampleReview.fields)) = samplePresented.approvalDigest := by
    rw [sampleHash, marking, if_pos rfl]
    rfl
  rw [← hashed]
  exact digestOf_small small

theorem sample_accepted : (Review.returned sampleReview).verify sampleHash samplePresented = .ok "FIXTURE_REVIEW_ONLY" := by
  have hex : Service.sha256Text samplePresented.approvalDigest = true := by decide
  change (Review.returned sampleReview).verifyPlanned sampleHash samplePresented = _
  rw [Review.verifyPlanned, Review.verifyScope, hashRef, require, if_pos ⟨rfl, rfl⟩, require, if_pos hex, sample_digest]
  rfl

theorem accepted_honoured_return :
    Honoured sampleHash (.returned sampleReview) [some (.utc 0), some (.utc 10)] 300 samplePresented :=
  accepted_honoured (marking_injective _)
    (@Built.returned sampleHash (fun _ => true) (fun _ => none) sampleRequest sampleReview sample_built) sample_accepted

end AiStore.Offline
