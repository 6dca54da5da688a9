import AiStore.Library.DictEntries
import AiStore.Offline.ReviewSafety
import AiStore.Offline.TrackingBatch

/-! Reviewed returns, their batches, and what is read back of them. -/

set_option autoImplicit false

namespace AiStore.Offline

open Library

/-! ## Reading one return back -/

structure FixtureReturnResult where
  decision : String
  resendAuthorized : Bool := false
  bankRefundVerified : Bool := false
  realReturnConfirmed : Bool := false
  deriving DecidableEq

def returnDecision (decision : String) : FixtureReturnResult := { decision := decision }

/-- The reply `{"code": 200, "message": "OK"}`, or one with the code as a text, and nothing else in it. -/
def acknowledged : Json → Bool
  | .object entries =>
      entries.all (fun entry => entry.1 = "code" || entry.1 = "message") &&
        (intIs 200 (get entries "code") || textIs "200" (get entries "code")) && textIs "OK" (get entries "message")
  | _ => false

/-- What is read back after a return has been acknowledged. -/
structure ReturnReadback where
  response : Json
  page : Option OfflineClaimPage
  observedAt : Option Timestamp

variable (hash : String → String)

/-- The part of `reconcile_return_fixture` behind the reply, where a quarantine is a reason to reconcile. -/
def completedLine (plan : FixtureReturnReview) (page : OfflineClaimPage) (observedAt now : Option Timestamp) :
    Checked FixtureReturnResult := do
  let line ← oneReceipt page plan.receiptId
  let observed ← aware observedAt
  let now ← aware now
  if ¬ (plan.createdAt ≤ observed ∧ observed ≤ now ∧ now < plan.expiresAt) then pure (returnDecision "RECONCILE_REQUIRED")
  else if (line.orderId, line.shipmentId, line.vendorItemId, line.cancelQuantity, line.purchaseQuantity) ≠
      (plan.orderId, plan.shipmentId, plan.vendorItemId, plan.cancelQuantity, plan.purchaseQuantity) then
    pure (returnDecision "RECONCILE_REQUIRED")
  else if line.receiptType ≠ "RETURN" ∨ line.receiptStatus ≠ "RETURNS_COMPLETED" then
    pure (returnDecision "RECONCILE_REQUIRED")
  else pure (returnDecision "MATCHED_COMPLETED_FIXTURE")

/-- `reconcile_return_fixture`. -/
def reconcileReturnFixture (plan : FixtureReturnReview) (readback : ReturnReadback) (now : Option Timestamp) :
    FixtureReturnResult :=
  match digestOf hash readback.response with
  | .error _ => returnDecision "RECONCILE_REQUIRED"
  | .ok _ =>
    if acknowledged readback.response = false then returnDecision "RECONCILE_REQUIRED"
    else match readback.page with
      | none => returnDecision "READBACK_REQUIRED"
      | some page => match completedLine plan page readback.observedAt now with
        | .error _ => returnDecision "RECONCILE_REQUIRED"
        | .ok result => result

/-- The channel shows the return as completed, under this receipt alone and exactly as it was reviewed. -/
structure ReturnCompleted (plan : FixtureReturnReview) (readback : ReturnReadback) (now : Option Timestamp) : Prop where
  small : (Json.canonical readback.response).utf8ByteSize ≤ 2 * 1024 * 1024
  acknowledged : acknowledged readback.response = true
  shown : ∃ page line observed time, readback.page = some page ∧ page.nextCursor = none ∧
    page.lines.filter (fun line => line.receiptId = plan.receiptId) = [line] ∧
    readback.observedAt = some observed ∧ now = some time ∧
    (plan.createdAt ≤ observed ∧ observed ≤ time ∧ time < plan.expiresAt) ∧
    (line.orderId, line.shipmentId, line.vendorItemId, line.cancelQuantity, line.purchaseQuantity) =
      (plan.orderId, plan.shipmentId, plan.vendorItemId, plan.cancelQuantity, plan.purchaseQuantity) ∧
    line.receiptType = "RETURN" ∧ line.receiptStatus = "RETURNS_COMPLETED"

variable {hash} {plan : FixtureReturnReview} {readback : ReturnReadback} {now : Option Timestamp}

theorem oneReceipt_eq_ok {page : OfflineClaimPage} {receiptId : String} {line : OfflineClaimLine} :
    oneReceipt page receiptId = .ok line ↔
      page.nextCursor = none ∧ page.lines.filter (fun line => line.receiptId = receiptId) = [line] := by
  simp only [oneReceipt, except_bind_eq_ok, require_eq_ok]
  constructor
  · rintro ⟨_, complete, found⟩
    exact ⟨complete, single_ok found⟩
  · rintro ⟨complete, found⟩
    exact ⟨(), complete, by rw [found]; rfl⟩

theorem digestOf_returns {value : Json} : (∃ digest, digestOf hash value = .ok digest) ↔
    (Json.canonical value).utf8ByteSize ≤ 2 * 1024 * 1024 := by
  simp only [digestOf, canonicalJson, except_bind_eq_ok, require_eq_ok]
  constructor
  · rintro ⟨_, _, ⟨_, small, -⟩, -⟩
    exact small
  · intro small
    exact ⟨_, _, ⟨(), small, rfl⟩, rfl⟩

theorem completedLine_matched {page : OfflineClaimPage} {observedAt : Option Timestamp} :
    completedLine plan page observedAt now = .ok (returnDecision "MATCHED_COMPLETED_FIXTURE") ↔
      ∃ line observed time, oneReceipt page plan.receiptId = .ok line ∧ observedAt = some observed ∧ now = some time ∧
        (plan.createdAt ≤ observed ∧ observed ≤ time ∧ time < plan.expiresAt) ∧
        (line.orderId, line.shipmentId, line.vendorItemId, line.cancelQuantity, line.purchaseQuantity) =
          (plan.orderId, plan.shipmentId, plan.vendorItemId, plan.cancelQuantity, plan.purchaseQuantity) ∧
        line.receiptType = "RETURN" ∧ line.receiptStatus = "RETURNS_COMPLETED" := by
  have apart : (pure (returnDecision "RECONCILE_REQUIRED") : Checked FixtureReturnResult) ≠
      .ok (returnDecision "MATCHED_COMPLETED_FIXTURE") := by
    intro same
    exact absurd (Except.ok.inj same) (by decide)
  simp only [completedLine, except_bind_eq_ok, aware_ok]
  constructor
  · rintro ⟨line, found, observed, seen, time, known, ran⟩
    split at ran
    · exact absurd ran apart
    · next within =>
      split at ran
      · exact absurd ran apart
      · next same =>
        split at ran
        · exact absurd ran apart
        · next completed =>
          exact ⟨line, observed, time, found, seen, known, not_not.mp within, not_not.mp same,
            not_or.mp completed |>.imp not_not.mp not_not.mp⟩
  · rintro ⟨line, observed, time, found, seen, known, within, same, kind, state⟩
    refine ⟨line, found, observed, seen, time, known, ?_⟩
    rw [if_neg (not_not.mpr within), if_neg (not_not.mpr same),
      if_neg (not_or.mpr ⟨not_not.mpr kind, not_not.mpr state⟩)]
    rfl

theorem reconcileReturnFixture_matched : reconcileReturnFixture hash plan readback now =
    returnDecision "MATCHED_COMPLETED_FIXTURE" ↔ ReturnCompleted plan readback now := by
  have apart : ∀ decision, decision ≠ "MATCHED_COMPLETED_FIXTURE" →
      returnDecision decision ≠ returnDecision "MATCHED_COMPLETED_FIXTURE" := by
    intro decision other same
    exact other (congrArg FixtureReturnResult.decision same)
  unfold reconcileReturnFixture
  constructor
  · intro matched
    split at matched
    · exact absurd matched (apart _ (by decide))
    · next digest known =>
      split at matched
      · exact absurd matched (apart _ (by decide))
      · next reply =>
        split at matched
        · exact absurd matched (apart _ (by decide))
        · next page shown =>
          split at matched
          · exact absurd matched (apart _ (by decide))
          · next result completed =>
            rw [matched] at completed
            obtain ⟨line, observed, time, found, seen, clock, facts⟩ := completedLine_matched.mp completed
            obtain ⟨complete, only⟩ := oneReceipt_eq_ok.mp found
            exact ⟨digestOf_returns.mp ⟨digest, known⟩, by simpa using reply,
              page, line, observed, time, shown, complete, only, seen, clock, facts⟩
  · rintro ⟨small, reply, page, line, observed, time, shown, complete, only, seen, clock, facts⟩
    obtain ⟨digest, known⟩ := digestOf_returns.mpr small
    have completed : completedLine plan page readback.observedAt now = .ok (returnDecision "MATCHED_COMPLETED_FIXTURE") :=
      completedLine_matched.mpr ⟨line, observed, time, oneReceipt_eq_ok.mpr ⟨complete, only⟩, seen, clock, facts⟩
    rw [known, shown]
    simp only [reply, Bool.true_eq_false, if_false, completed]

/-! ## Batches -/

structure FixtureReturnBatch where
  tenantRef : String
  connectionRef : String
  vendorRef : String
  reviews : List FixtureReturnReview
  deriving DecidableEq

namespace FixtureReturnBatch

def fields (batch : FixtureReturnBatch) : Entries :=
  [("tenant_ref", .text batch.tenantRef), ("connection_ref", .text batch.connectionRef),
    ("vendor_ref", .text batch.vendorRef), ("reviews", .list (batch.reviews.map fun review => .object review.fields)),
    ("external_write_authorized", .bool false)]

def fixtureAmountKrw (batch : FixtureReturnBatch) : Int := (batch.reviews.map (·.fixtureAmountKrw)).sum

variable (hash : String → String)

def approvalDigest (batch : FixtureReturnBatch) : Checked String := digestOf hash (.object batch.fields)

end FixtureReturnBatch

section

variable (hash : String → String)

/-- The line that a return is about. -/
def FixtureReturnReview.identity (review : FixtureReturnReview) : String × String := (review.orderId, review.vendorItemId)

/-- The loop of `build_return_batch`, behind the receipts and identities that have been seen. -/
def returnReviews (vendorRef tenantRef connectionRef : String) (now : Option Timestamp) (receipts : List String)
    (identities : List (String × String)) : List FixtureReturnReview → Checked Unit
  | [] => pure ()
  | review :: rest => do
      let approvalDigest ← (Review.returned review).approvalDigest hash
      let _ ← verifyReturnFixtureReview hash review { approvalDigest, tenantRef, connectionRef, now }
      require (review.vendorRef = vendorRef) "mixed_return_vendor"
      require (review.receiptId ∉ receipts ∧ ∀ seen ∈ identities, review.identity ≠ seen) "duplicate_return_batch_identity"
      returnReviews vendorRef tenantRef connectionRef now (review.receiptId :: receipts) (review.identity :: identities) rest

/-- `build_return_batch`. -/
def buildReturnBatch (reviews : List FixtureReturnReview) (tenantRef connectionRef : String) (now : Option Timestamp) :
    Checked FixtureReturnBatch := do
  require (1 ≤ reviews.length ∧ reviews.length ≤ 30) "bounded_return_batch_required"
  match reviews with
  -- never: the batch has been found to hold a review
  | [] => .error ⟨"IndexError"⟩
  | first :: _ => do
      returnReviews hash first.vendorRef tenantRef connectionRef now [] [] reviews
      pure { tenantRef, connectionRef, vendorRef := first.vendorRef, reviews }

/-- `verify_return_batch`. -/
def verifyReturnBatch (batch : FixtureReturnBatch) (presented : Presented) : Checked String := do
  let rebuilt ← buildReturnBatch hash batch.reviews presented.tenantRef presented.connectionRef presented.now
  let shown ← hashRef presented.approvalDigest
  let own ← batch.approvalDigest hash
  require (shown = own ∧ rebuilt = batch) "batch_approval_digest_mismatch"
  pure "FIXTURE_REVIEW_ONLY"

end

/-- `reconcile_return_batch`, over the results by receipt. -/
def reconcileReturnBatch (batch : FixtureReturnBatch) (results : Dict String FixtureReturnResult) : FixtureReturnResult :=
  if ¬ (results.keys ⊆ batch.reviews.map (·.receiptId) ∧ batch.reviews.map (·.receiptId) ⊆ results.keys) then
    returnDecision "RECONCILE_REQUIRED"
  else if results.values.any (fun result => result.decision ≠ "MATCHED_COMPLETED_FIXTURE") then
    returnDecision "RECONCILE_REQUIRED"
  else returnDecision "MATCHED_COMPLETED_BATCH"

/-! ## What a batch takes -/

/-- The review may be accepted under the scope at the time. -/
def Live (hash : String → String) (tenantRef connectionRef : String) (now : Option Timestamp)
    (review : FixtureReturnReview) : Prop :=
  (tenantRef = review.tenantRef ∧ connectionRef = review.connectionRef) ∧
    (∃ digest, (Review.returned review).approvalDigest hash = .ok digest ∧ Service.sha256Text digest = true) ∧
    ∃ time, now = some time ∧ review.createdAt ≤ time ∧ time < review.expiresAt

variable {tenantRef connectionRef vendorRef : String} {reviews : List FixtureReturnReview} {batch : FixtureReturnBatch}

theorem verifyReturn_live {review : FixtureReturnReview} :
    (∃ digest result, (Review.returned review).approvalDigest hash = .ok digest ∧
      verifyReturnFixtureReview hash review ⟨digest, tenantRef, connectionRef, now⟩ = .ok result) ↔
      Live hash tenantRef connectionRef now review := by
  simp only [verifyReturnFixtureReview, Review.verifyPlanned, Review.verifyScope, Review.verifyTime, hashRef,
    except_bind_eq_ok, require_eq_ok, aware_ok]
  constructor
  · rintro ⟨digest, _, own, _, ⟨_, scope, _, ⟨_, shape, -⟩, -⟩, time, known, _, window, -⟩
    exact ⟨scope, ⟨digest, own, shape⟩, time, known, window⟩
  · rintro ⟨scope, ⟨digest, own, shape⟩, time, known, window⟩
    exact ⟨digest, _, own, (), ⟨(), scope, _, ⟨(), shape, rfl⟩, _, own, rfl⟩, time, known, (), window, rfl⟩

theorem returnReviews_eq_ok {receipts : List String} {identities : List (String × String)} {u : Unit} :
    returnReviews hash vendorRef tenantRef connectionRef now receipts identities reviews = .ok u ↔
      (∀ review ∈ reviews, Live hash tenantRef connectionRef now review ∧ review.vendorRef = vendorRef) ∧
      ((reviews.map (·.receiptId)).Nodup ∧ ∀ review ∈ reviews, review.receiptId ∉ receipts) ∧
      (reviews.map FixtureReturnReview.identity).Nodup ∧ ∀ review ∈ reviews, review.identity ∉ identities := by
  induction reviews generalizing receipts identities with
  | nil =>
    simp only [returnReviews, List.not_mem_nil, false_imp_iff, implies_true, List.map_nil, List.nodup_nil, true_and, iff_true]
    rfl
  | cons review rest ih =>
    simp only [returnReviews, except_bind_eq_ok, require_eq_ok, ih, List.forall_mem_cons, List.map_cons, List.nodup_cons,
      ne_eq, List.forall_mem_ne]
    simp only [List.mem_cons, List.mem_map, not_or]
    constructor
    · rintro ⟨digest, own, result, verified, _, vendor, _, ⟨receipt, identity⟩, others, ⟨receipts, unseen⟩, identities, fresh⟩
      refine ⟨⟨⟨verifyReturn_live.mp ⟨digest, result, own, verified⟩, vendor⟩, others⟩,
        ⟨⟨?_, receipts⟩, receipt, fun later member => (unseen later member).2⟩,
        ⟨?_, identities⟩, identity, fun later member => (fresh later member).2⟩
      · rintro ⟨later, member, same⟩
        exact (unseen later member).1 same
      · rintro ⟨later, member, same⟩
        exact (fresh later member).1 same
    · rintro ⟨⟨⟨live, vendor⟩, others⟩, ⟨⟨receipt_fresh, receipts⟩, receipt, unseen⟩, ⟨identity_fresh, identities⟩,
        identity, fresh⟩
      obtain ⟨digest, result, own, verified⟩ := verifyReturn_live.mpr live
      refine ⟨digest, own, result, verified, (), vendor, (), ⟨receipt, identity⟩, others, ⟨receipts, fun later member => ?_⟩,
        identities, fun later member => ?_⟩
      · exact ⟨fun same => receipt_fresh ⟨later, member, same⟩, unseen later member⟩
      · exact ⟨fun same => identity_fresh ⟨later, member, same⟩, fresh later member⟩

/-- What a list of reviews has to be for a batch. -/
structure Batchable (hash : String → String) (tenantRef connectionRef vendorRef : String) (now : Option Timestamp)
    (reviews : List FixtureReturnReview) : Prop where
  bounded : 1 ≤ reviews.length ∧ reviews.length ≤ 30
  live : ∀ review ∈ reviews, Live hash tenantRef connectionRef now review
  vendor : ∀ review ∈ reviews, review.vendorRef = vendorRef
  receipts : (reviews.map (·.receiptId)).Nodup
  identities : (reviews.map FixtureReturnReview.identity).Nodup

theorem buildReturnBatch_eq_ok : buildReturnBatch hash reviews tenantRef connectionRef now = .ok batch ↔
    Batchable hash tenantRef connectionRef batch.vendorRef now reviews ∧
      batch = ⟨tenantRef, connectionRef, batch.vendorRef, reviews⟩ := by
  cases reviews with
  | nil =>
    constructor
    · intro built
      exact absurd built (by simp [buildReturnBatch, require, bind, Except.bind])
    · rintro ⟨batchable, -⟩
      exact absurd batchable.bounded.1 (by decide)
  | cons first rest =>
    simp only [buildReturnBatch, except_bind_eq_ok, require_eq_ok, returnReviews_eq_ok]
    constructor
    · rintro ⟨_, bounded, _, ⟨taken, ⟨receipts, -⟩, identities, -⟩, made⟩
      cases made
      exact ⟨⟨bounded, fun review member => (taken review member).1, fun review member => (taken review member).2,
        receipts, identities⟩, rfl⟩
    · rintro ⟨batchable, made⟩
      have vendor := batchable.vendor first List.mem_cons_self
      refine ⟨(), batchable.bounded, (), ⟨fun review member => ⟨batchable.live review member, ?_⟩,
        ⟨batchable.receipts, fun _ _ => List.not_mem_nil⟩, batchable.identities, fun _ _ => List.not_mem_nil⟩, ?_⟩
      · rw [vendor]
        exact batchable.vendor review member
      · rw [vendor]
        exact congrArg Except.ok made.symm

theorem verifyReturnBatch_ok {presented : Presented} : (∃ result, verifyReturnBatch hash batch presented = .ok result) ↔
    buildReturnBatch hash batch.reviews presented.tenantRef presented.connectionRef presented.now = .ok batch ∧
      batch.approvalDigest hash = .ok presented.approvalDigest ∧ Service.sha256Text presented.approvalDigest = true := by
  simp only [verifyReturnBatch, hashRef, except_bind_eq_ok, require_eq_ok]
  constructor
  · rintro ⟨_, rebuilt, built, shown, ⟨_, shape, same⟩, own, digest, _, ⟨equal, again⟩, -⟩
    cases same
    exact ⟨again ▸ built, equal ▸ digest, shape⟩
  · rintro ⟨built, digest, shape⟩
    exact ⟨_, batch, built, _, ⟨(), shape, rfl⟩, _, digest, (), ⟨rfl, rfl⟩, rfl⟩

/-- A batch is built of one to thirty live reviews of one vendor with distinct receipts and lines, and a batch that has
been built is accepted later exactly under its scope, with its digest, and while every one of its reviews is live. -/
theorem return_batch_lasts (hash : String → String) (reviews : List FixtureReturnReview)
    (tenantRef connectionRef : String) (now : Option Timestamp) (batch : FixtureReturnBatch) :
    (buildReturnBatch hash reviews tenantRef connectionRef now = .ok batch ↔
      Batchable hash tenantRef connectionRef batch.vendorRef now reviews ∧
        batch = ⟨tenantRef, connectionRef, batch.vendorRef, reviews⟩) ∧
    (buildReturnBatch hash reviews tenantRef connectionRef now = .ok batch → ∀ presented : Presented,
      ((∃ result, verifyReturnBatch hash batch presented = .ok result) ↔
        (presented.tenantRef = tenantRef ∧ presented.connectionRef = connectionRef) ∧
        (batch.approvalDigest hash = .ok presented.approvalDigest ∧ Service.sha256Text presented.approvalDigest = true) ∧
        ∃ time, presented.now = some time ∧ ∀ review ∈ reviews, review.createdAt ≤ time ∧ time < review.expiresAt)) := by
  refine ⟨buildReturnBatch_eq_ok, ?_⟩
  intro built presented
  obtain ⟨batchable, made⟩ := buildReturnBatch_eq_ok.mp built
  have same : batch.reviews = reviews := congrArg FixtureReturnBatch.reviews made
  have tenant : batch.tenantRef = tenantRef := congrArg FixtureReturnBatch.tenantRef made
  have connection : batch.connectionRef = connectionRef := congrArg FixtureReturnBatch.connectionRef made
  rw [verifyReturnBatch_ok, buildReturnBatch_eq_ok, same]
  constructor
  · rintro ⟨⟨later, again⟩, digest⟩
    obtain ⟨first, member⟩ := List.exists_mem_of_length_pos (Nat.lt_of_lt_of_le Nat.zero_lt_one later.bounded.1)
    obtain ⟨_, _, time, known, _⟩ := later.live first member
    refine ⟨⟨?_, ?_⟩, digest, time, known, fun review member => ?_⟩
    · exact (congrArg FixtureReturnBatch.tenantRef again).symm.trans tenant
    · exact (congrArg FixtureReturnBatch.connectionRef again).symm.trans connection
    · obtain ⟨_, _, moment, told, window⟩ := later.live review member
      rw [Option.some.inj (known.symm.trans told)]
      exact window
  · rintro ⟨⟨tenant_shown, connection_shown⟩, digest, time, known, windows⟩
    rw [tenant_shown, connection_shown]
    refine ⟨⟨⟨batchable.bounded, fun review member => ?_, batchable.vendor, batchable.receipts, batchable.identities⟩,
      made⟩, digest⟩
    obtain ⟨scope, own, -⟩ := batchable.live review member
    exact ⟨scope, own, time, known, windows review member⟩

theorem FixtureReturnBatch.fields_inj {first second : FixtureReturnBatch}
    (same : Json.sortKeys (.object first.fields) = Json.sortKeys (.object second.fields)) : first = second := by
  have entries := Json.entries_of_sorted same rfl (by simp [FixtureReturnBatch.fields])
  simp only [FixtureReturnBatch.fields, List.map_cons, List.map_nil, List.cons.injEq, Prod.mk.injEq, true_and, and_true,
    Json.sortKeys, Json.text.injEq, Json.list.injEq] at entries
  obtain ⟨tenant, connection, vendor, reviews⟩ := entries
  have same_reviews := Json.sortItems_inj (fun _ _ => FixtureReturnReview.fields_inj) reviews
  cases first
  cases second
  simp_all only

theorem FixtureReturnBatch.exact_fields (batch : FixtureReturnBatch) : Json.exact (.object batch.fields) = true := by
  have reviews := exactItems_map (fun review : FixtureReturnReview => .object review.fields) batch.reviews
    fun review => (Review.returned review).exact_fields
  simp [FixtureReturnBatch.fields, Json.exact, Json.exactEntries, reviews]

/-- One digest, one value without floats, up to the order of its keys. -/
theorem sortKeys_of_digest (injective : Function.Injective hash) {first second : Json} (left_exact : Json.exact first = true)
    (right_exact : Json.exact second = true) {digest : String} (left : digestOf hash first = .ok digest)
    (right : digestOf hash second = .ok digest) : Json.sortKeys first = Json.sortKeys second := by
  simp only [digestOf, canonicalJson, except_bind_eq_ok, require_eq_ok] at left right
  obtain ⟨_, ⟨-, -, left_text⟩, left_hash⟩ := left
  obtain ⟨_, ⟨-, -, right_text⟩, right_hash⟩ := right
  cases left_text
  cases right_text
  exact Json.canonical_inj left_exact right_exact (injective (Except.ok.inj (left_hash.trans right_hash.symm)))

theorem returnBatchDigest_inj (injective : Function.Injective hash) {other : FixtureReturnBatch} {digest : String}
    (left : batch.approvalDigest hash = .ok digest) (right : other.approvalDigest hash = .ok digest) : batch = other :=
  FixtureReturnBatch.fields_inj (sortKeys_of_digest injective batch.exact_fields other.exact_fields left right)

/-! ## What a batch is read back as -/

theorem reconcileReturnFixture_decision : (reconcileReturnFixture hash plan readback now).decision =
    "MATCHED_COMPLETED_FIXTURE" ↔ ReturnCompleted plan readback now := by
  have plain : ∀ {page observedAt result}, completedLine plan page observedAt now = .ok result →
      result = returnDecision result.decision := by
    intro page observedAt result ran
    simp only [completedLine, except_bind_eq_ok] at ran
    obtain ⟨_, -, _, -, _, -, ran⟩ := ran
    split at ran
    · cases ran
      rfl
    · split at ran
      · cases ran
        rfl
      · split at ran
        · cases ran
          rfl
        · cases ran
          rfl
  have whole : reconcileReturnFixture hash plan readback now =
      returnDecision (reconcileReturnFixture hash plan readback now).decision := by
    unfold reconcileReturnFixture
    split
    · rfl
    · split
      · rfl
      · split
        · rfl
        · split
          · rfl
          · next completed => exact plain completed
  rw [← reconcileReturnFixture_matched]
  constructor
  · intro decided
    rw [whole, decided]
  · intro matched
    rw [matched]
    rfl

theorem reconcileReturnBatch_matched {results : Dict String FixtureReturnResult} :
    reconcileReturnBatch batch results = returnDecision "MATCHED_COMPLETED_BATCH" ↔
      (∀ key, key ∈ results.keys ↔ ∃ review ∈ batch.reviews, review.receiptId = key) ∧
        ∀ review ∈ batch.reviews, ∃ result, results.get? review.receiptId = some result ∧
          result.decision = "MATCHED_COMPLETED_FIXTURE" := by
  have apart : returnDecision "RECONCILE_REQUIRED" ≠ returnDecision "MATCHED_COMPLETED_BATCH" := by decide
  have names : ∀ key, key ∈ batch.reviews.map (·.receiptId) ↔ ∃ review ∈ batch.reviews, review.receiptId = key :=
    fun key => List.mem_map
  unfold reconcileReturnBatch
  constructor
  · intro matched
    split at matched
    · exact absurd matched apart
    · next exactly =>
      split at matched
      · exact absurd matched apart
      · next agreed =>
        obtain ⟨within, covered⟩ := not_not.mp exactly
        refine ⟨fun key => ⟨fun member => (names key).mp (within member), fun named => covered ((names key).mpr named)⟩, ?_⟩
        intro review member
        cases found : results.get? review.receiptId with
        | none =>
          exact absurd (covered ((names _).mpr ⟨review, member, rfl⟩)) ((results.get?_eq_none _).mp found)
        | some result =>
          refine ⟨result, rfl, ?_⟩
          by_contra other
          exact agreed (List.any_eq_true.mpr ⟨result, Dict.mem_values_of_get? found, by simpa using other⟩)
  · rintro ⟨exactly, matched⟩
    rw [if_neg, if_neg]
    · intro disagreed
      obtain ⟨result, member, other⟩ := List.any_eq_true.mp disagreed
      obtain ⟨key, found⟩ := (results.mem_values result).mp member
      obtain ⟨review, inside, rfl⟩ := (exactly key).mp (by
        by_contra absent
        rw [(results.get?_eq_none key).mpr absent] at found
        cases found)
      obtain ⟨shown, known, decided⟩ := matched review inside
      rw [Option.some.inj (found.symm.trans known)] at other
      exact absurd decided (by simpa using other)
    · rw [not_not]
      exact ⟨fun key member => (names key).mpr ((exactly key).mp member),
        fun key named => (exactly key).mpr ((names key).mp named)⟩

/-- The results of a batch, one under every receipt. -/
def reconciled (hash : String → String) (reviews : List FixtureReturnReview) (readbacks : String → ReturnReadback)
    (now : Option Timestamp) : Dict String FixtureReturnResult :=
  .ofEntries (reviews.map fun review =>
    (review.receiptId, reconcileReturnFixture hash review (readbacks review.receiptId) now))

/-- A batch is matched exactly by one matched result under every receipt and none beside them, so that the results of
its reviews match it exactly when the channel shows every one of its returns as completed. -/
theorem return_batch_matched {hash : String → String} {reviews : List FixtureReturnReview} {tenantRef connectionRef : String}
    {now : Option Timestamp} {batch : FixtureReturnBatch}
    (built : buildReturnBatch hash reviews tenantRef connectionRef now = .ok batch) :
    (∀ results : Dict String FixtureReturnResult,
      reconcileReturnBatch batch results = returnDecision "MATCHED_COMPLETED_BATCH" ↔
        (∀ key, key ∈ results.keys ↔ ∃ review ∈ reviews, review.receiptId = key) ∧
          ∀ review ∈ reviews, ∃ result, results.get? review.receiptId = some result ∧
            result.decision = "MATCHED_COMPLETED_FIXTURE") ∧
    ∀ (readbacks : String → ReturnReadback) (later : Option Timestamp),
      reconcileReturnBatch batch (reconciled hash reviews readbacks later) = returnDecision "MATCHED_COMPLETED_BATCH" ↔
        ∀ review ∈ reviews, ReturnCompleted review (readbacks review.receiptId) later := by
  obtain ⟨batchable, made⟩ := buildReturnBatch_eq_ok.mp built
  have same : batch.reviews = reviews := congrArg FixtureReturnBatch.reviews made
  have matched := fun results => @reconcileReturnBatch_matched batch results
  rw [same] at matched
  refine ⟨matched, ?_⟩
  intro readbacks later
  have names : (reviews.map fun review => (review.receiptId,
      reconcileReturnFixture hash review (readbacks review.receiptId) later)).map Prod.fst = reviews.map (·.receiptId) := by
    rw [List.map_map]
    rfl
  have distinct := names ▸ batchable.receipts
  have found : ∀ review ∈ reviews, (reconciled hash reviews readbacks later).get? review.receiptId =
      some (reconcileReturnFixture hash review (readbacks review.receiptId) later) := fun review member =>
    (Dict.get?_ofEntries distinct _ _).mpr (List.mem_map_of_mem member)
  rw [matched]
  constructor
  · rintro ⟨-, decided⟩ review member
    obtain ⟨result, known, decision⟩ := decided review member
    rw [← Option.some.inj ((found review member).symm.trans known)] at decision
    exact reconcileReturnFixture_decision.mp decision
  · intro completed
    refine ⟨fun key => ?_, fun review member => ⟨_, found review member,
      reconcileReturnFixture_decision.mpr (completed review member)⟩⟩
    rw [reconciled, Dict.keys_ofEntries distinct, names, List.mem_map]

theorem sampleBatch_live : Live sampleHash "t" "c" (some (.utc 20)) sampleReview :=
  ⟨⟨rfl, rfl⟩, ⟨_, sample_digest, by decide⟩, .utc 20, rfl, by decide, by decide⟩

/-- Without a page to read back nothing is matched. -/
theorem return_batch_matched_unread :
    reconcileReturnBatch ⟨"t", "c", "w", [sampleReview]⟩
      (reconciled sampleHash [sampleReview] (fun _ => ⟨.null, none, none⟩) (some (.utc 30))) ≠
      returnDecision "MATCHED_COMPLETED_BATCH" := by
  have built : buildReturnBatch sampleHash [sampleReview] "t" "c" (some (.utc 20)) =
      .ok ⟨"t", "c", "w", [sampleReview]⟩ :=
    buildReturnBatch_eq_ok.mpr ⟨⟨by decide, by simpa using sampleBatch_live, by simp [sampleReview], by simp, by simp⟩, rfl⟩
  intro matched
  obtain ⟨_, _, _, _, _, _, shown, -⟩ := ((return_batch_matched built).2 _ _).mp matched sampleReview (List.mem_singleton_self _)
  cases shown

end AiStore.Offline
