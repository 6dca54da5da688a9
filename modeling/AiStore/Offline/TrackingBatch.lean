import Mathlib.Data.List.Dedup
import Mathlib.Data.List.Perm.Basic
import AiStore.Library.JsonSize
import AiStore.Offline.ReviewSafety

/-! Batches of tracking reviews, and what a response says about one. -/

set_option autoImplicit false

namespace AiStore.Offline

open Library

structure FixtureTrackingBatch where
  provider : String
  tenantRef : String
  connectionRef : String
  reviews : List Review
  deriving DecidableEq

def FixtureTrackingBatch.fields (batch : FixtureTrackingBatch) : Entries :=
  [("provider", .text batch.provider), ("tenant_ref", .text batch.tenantRef), ("connection_ref", .text batch.connectionRef),
    ("reviews", .list (batch.reviews.map fun review => .object review.fields)), ("external_write_authorized", .bool false)]

namespace Review

/-- The provider of the two types of reviews that a batch takes. -/
def trackingProvider : Review → Option String
  | tracking _ => some "coupang"
  | dispatch _ => some "naver"
  | _ => none

/-- `review.shipment_id`. -/
def shipmentId : Review → Checked String
  | tracking plan => pure plan.shipmentId
  | returned plan => pure plan.shipmentId
  | _ => .error ⟨"AttributeError"⟩

/-- `review.product_order_id`. -/
def productOrderId : Review → Checked String
  | dispatch plan => pure plan.productOrderId
  | _ => .error ⟨"AttributeError"⟩

/-- What the response names the review by. -/
def identity (provider : String) (review : Review) : Checked String :=
  if provider = "coupang" then review.shipmentId else review.productOrderId

end Review

/-- The identities of all reviews, in their order. -/
def identities (provider : String) : List Review → Checked (List String)
  | [] => pure []
  | review :: rest => do
      let first ← review.identity provider
      let others ← identities provider rest
      pure (first :: others)

structure FixtureTrackingResult where
  decision : String
  responseDigest : Option String
  deriving DecidableEq

/-! ## Building and verifying -/

section

variable (hash : String → String)

def FixtureTrackingBatch.approvalDigest (batch : FixtureTrackingBatch) : Checked String := digestOf hash (.object batch.fields)

/-- The loop of `build_tracking_batch`, behind the identities that have been seen. -/
def batchReviews (provider : String) (tenantRef connectionRef : String) (now : Option Timestamp) (seen : List String) :
    List Review → Checked Unit
  | [] => pure ()
  | review :: rest => do
      require (review.trackingProvider = some provider) "mixed_tracking_provider"
      let approvalDigest ← review.approvalDigest hash
      let _ ← review.verifyFixture hash { approvalDigest, tenantRef, connectionRef, now }
      let identity ← review.identity provider
      require (identity ∉ seen) "duplicate_tracking_batch_identity"
      batchReviews provider tenantRef connectionRef now (identity :: seen) rest

/-- The type of the first review. -/
def batchProvider : List Review → Checked String
  | review :: _ => match review.trackingProvider with
      | some provider => pure provider
      | none => .error ⟨"tracking_review_required"⟩
  -- never: the batch has been found to hold a review
  | [] => .error ⟨"IndexError"⟩

/-- `build_tracking_batch`. -/
def buildTrackingBatch (reviews : List Review) (tenantRef connectionRef : String) (now : Option Timestamp) :
    Checked FixtureTrackingBatch := do
  require (1 ≤ reviews.length ∧ reviews.length ≤ 30) "bounded_tracking_batch_required"
  let provider ← batchProvider reviews
  batchReviews hash provider tenantRef connectionRef now [] reviews
  pure { provider, tenantRef, connectionRef, reviews }

/-- `verify_tracking_batch`. -/
def verifyTrackingBatch (batch : FixtureTrackingBatch) (presented : Presented) : Checked String := do
  let rebuilt ← buildTrackingBatch hash batch.reviews presented.tenantRef presented.connectionRef presented.now
  let shown ← hashRef presented.approvalDigest
  let own ← batch.approvalDigest hash
  require (shown = own ∧ rebuilt = batch) "batch_approval_digest_mismatch"
  pure "FIXTURE_REVIEW_ONLY"

/-! ## Responses -/

def boolIs (expected : Bool) : Json → Bool
  | .bool flag => flag = expected
  | _ => false

/-- The texts of a list that holds nothing else. -/
def textsOf : List Json → Option (List String)
  | [] => some []
  | .text value :: rest => (textsOf rest).map (value :: ·)
  | _ :: _ => none

def emptyList : Json → Bool
  | .list [] => true
  | _ => false

/-- Whether the ids of the response are the expected ones. -/
def naverMatches (reviews : List Review) (data : Entries) : Checked Bool := do
  let expected ← identities "naver" reviews
  let ids ← rowsOf 30 (get data "successProductOrderIds")
  match textsOf ids with
  | none => pure false
  | some ids => pure (ids.length = expected.dedup.length ∧ ids.dedup.length = ids.length ∧ ids ⊆ expected ∧ expected ⊆ ids ∧
      emptyList (get data "failProductOrderInfos") = true : Bool)

/-- What a row says of its delivery. -/
def succeeded (row : Entries) : Bool :=
  boolIs true (get row "succeed") && boolIs false (get row "retryRequired") && textIs "OK" (get row "resultCode")

/-- The identities of all rows, behind those that have been seen; nothing when a row settles the matter. -/
def coupangRows (expected seen : List String) : List Json → Checked (Option (List String))
  | [] => pure (some seen)
  | row :: rest => do
      let row ← object row
      let number ← positiveField (get row "shipmentBoxId")
      if str number ∈ seen ∨ str number ∉ expected ∨ succeeded row = false then pure none
      else coupangRows expected (str number :: seen) rest

def coupangMatches (reviews : List Review) (body data : Entries) : Checked Bool :=
  if (intIs 200 (get body "code") || textIs "200" (get body "code")) && intIs 0 (get data "responseCode") then do
    let expected ← identities "coupang" reviews
    let rows ← rowsOf 30 (get data "responseList")
    match ← coupangRows expected [] rows with
    | none => pure false
    | some seen => pure (seen ⊆ expected ∧ expected ⊆ seen : Bool)
  else pure false

/-- What `interpret_tracking_batch` does with the body. -/
def batchMatches (batch : FixtureTrackingBatch) (body : Json) : Checked Bool := do
  let body ← object body
  let data ← object (get body "data")
  if batch.provider = "naver" then naverMatches batch.reviews data
  else if batch.provider = "coupang" then coupangMatches batch.reviews body data
  else pure false

/-- `interpret_tracking_batch`. -/
def interpretTrackingBatch (batch : FixtureTrackingBatch) (body : Json) : FixtureTrackingResult :=
  match digestOf hash body with
  | .error _ => ⟨"RECONCILE_REQUIRED", none⟩
  | .ok digest => match batchMatches batch body with
    | .ok true => ⟨"MATCHED_BATCH_FIXTURE", some digest⟩
    | _ => ⟨"RECONCILE_REQUIRED", some digest⟩

end

/-! ## Matching -/

/-- A row of a delivery that has succeeded and need not be tried again. -/
def Delivered (row : Json) (identity : String) : Prop :=
  ∃ entries number, row = .object entries ∧ get entries "shipmentBoxId" = .int number ∧
    (1 ≤ number ∧ number ≤ maxInteger) ∧ identity = str number ∧ get entries "succeed" = .bool true ∧
    get entries "retryRequired" = .bool false ∧ get entries "resultCode" = .text "OK"

/-- A successful response of the provider, and the identities that its rows name. -/
inductive Response (provider : String) (body data : Entries) (named : List String) : Prop where
  | coupang {rows : List Json} (asked : provider = "coupang") (code : get body "code" = .int 200 ∨ get body "code" = .text "200")
      (responseCode : get data "responseCode" = .int 0) (listed : get data "responseList" = .list rows)
      (delivered : List.Forall₂ Delivered rows named)
  | naver {rows : List Json} (asked : provider = "naver") (failures : get data "failProductOrderInfos" = .list [])
      (listed : get data "successProductOrderIds" = .list rows)
      (ids : List.Forall₂ (fun row identity => row = .text identity) rows named)

/-- The response tells of each review of the batch once, and of nothing else. -/
def Conclusive (batch : FixtureTrackingBatch) (body : Json) : Prop :=
  ∃ entries data named expected, body = .object entries ∧ get entries "data" = .object data ∧
    Response batch.provider entries data named ∧ identities batch.provider batch.reviews = .ok expected ∧
    named.Nodup ∧ ∀ identity, identity ∈ named ↔ identity ∈ expected

section

variable {provider : String} {reviews : List Review} {body data : Entries} {expected seen named : List String}

theorem object_eq_ok {value : Json} {entries : Entries} : object value = .ok entries ↔ value = .object entries := by
  cases value <;> simp [object, pure, Except.pure]

theorem rowsOf_eq_ok {maximum : Nat} {value : Json} {rows : List Json} :
    rowsOf maximum value = .ok rows ↔ value = .list rows ∧ rows.length ≤ maximum := by
  cases value with
  | list items =>
    simp only [rowsOf, except_bind_eq_ok, require_eq_ok, Json.list.injEq, pure, Except.pure, Except.ok.injEq]
    constructor
    · rintro ⟨-, few, rfl⟩
      exact ⟨rfl, few⟩
    · rintro ⟨rfl, few⟩
      exact ⟨(), few, rfl⟩
  | _ => simp [rowsOf]

theorem positiveField_eq_ok {value : Json} {number : Int} :
    positiveField value = .ok number ↔ value = .int number ∧ 1 ≤ number ∧ number ≤ maxInteger := by
  cases value with
  | int given =>
    simp only [positiveField, positiveInteger, except_bind_eq_ok, require_eq_ok, Json.int.injEq, pure, Except.pure,
      Except.ok.injEq]
    constructor
    · rintro ⟨-, bounds, rfl⟩
      exact ⟨rfl, bounds⟩
    · rintro ⟨rfl, bounds⟩
      exact ⟨(), bounds, rfl⟩
  | _ => simp [positiveField]

theorem textIs_iff {text : String} {value : Json} : textIs text value = true ↔ value = .text text := by
  cases value <;> simp [textIs]

theorem intIs_iff {number : Int} {value : Json} : intIs number value = true ↔ value = .int number := by
  cases value <;> simp [intIs]

theorem boolIs_iff {flag : Bool} {value : Json} : boolIs flag value = true ↔ value = .bool flag := by
  cases value <;> simp [boolIs]

theorem emptyList_iff {value : Json} : emptyList value = true ↔ value = .list [] := by
  cases value with
  | list items => cases items <;> simp [emptyList]
  | _ => simp [emptyList]

theorem textsOf_eq_some {rows : List Json} {ids : List String} :
    textsOf rows = some ids ↔ List.Forall₂ (fun row identity => row = .text identity) rows ids := by
  induction rows generalizing ids with
  | nil => simp [textsOf, eq_comm]
  | cons row rest ih =>
    cases row with
    | text value =>
      simp only [textsOf, Option.map_eq_some_iff, List.forall₂_cons_left_iff, Json.text.injEq]
      constructor
      · rintro ⟨others, read, rfl⟩
        exact ⟨value, others, rfl, ih.mp read, rfl⟩
      · rintro ⟨_, others, rfl, read, rfl⟩
        exact ⟨others, ih.mpr read, rfl⟩
    | _ => simp [textsOf, List.forall₂_cons_left_iff]

theorem identities_length (read : identities provider reviews = .ok expected) : expected.length = reviews.length := by
  induction reviews generalizing expected with
  | nil =>
    cases read
    rfl
  | cons review rest ih =>
    simp only [identities, except_bind_eq_ok] at read
    obtain ⟨first, -, others, behind, same⟩ := read
    cases same
    rw [List.length_cons, List.length_cons, ih behind]

/-- Rows that name only expected identities are no more than these. -/
theorem named_few (read : identities provider reviews = .ok expected) (few : reviews.length ≤ 30) (apart : named.Nodup)
    (only : ∀ identity ∈ named, identity ∈ expected) : named.length ≤ 30 := by
  have bound := (List.subperm_of_subset apart only).length_le
  rw [identities_length read] at bound
  exact le_trans bound few

/-! ### Naver -/

theorem naver_exactly {ids : List String} : (ids.length = expected.dedup.length ∧ ids.dedup.length = ids.length ∧
    ids ⊆ expected ∧ expected ⊆ ids) ↔ ids.Nodup ∧ ∀ identity, identity ∈ ids ↔ identity ∈ expected := by
  constructor
  · rintro ⟨-, full, left, right⟩
    have same := (List.dedup_sublist ids).eq_of_length full
    exact ⟨same ▸ ids.nodup_dedup, fun identity => ⟨fun member => left member, fun member => right member⟩⟩
  · rintro ⟨apart, same⟩
    have perm : ids.Perm expected.dedup :=
      (List.perm_ext_iff_of_nodup apart expected.nodup_dedup).mpr fun identity => by rw [same, List.mem_dedup]
    exact ⟨perm.length_eq, by rw [apart.dedup], fun _ member => (same _).mp member, fun _ member => (same _).mpr member⟩

theorem naverMatches_iff (few : reviews.length ≤ 30) : naverMatches reviews data = .ok true ↔
    ∃ named expected, Response "naver" body data named ∧ identities "naver" reviews = .ok expected ∧
      named.Nodup ∧ ∀ identity, identity ∈ named ↔ identity ∈ expected := by
  simp only [naverMatches, except_bind_eq_ok, rowsOf_eq_ok]
  constructor
  · rintro ⟨expected, read, rows, ⟨listed, -⟩, matched⟩
    split at matched
    · cases matched
    · next ids texts =>
      simp only [pure, Except.pure, Except.ok.injEq, decide_eq_true_eq] at matched
      obtain ⟨count, full, left, right, failures⟩ := matched
      exact ⟨ids, expected, .naver rfl (emptyList_iff.mp failures) listed (textsOf_eq_some.mp texts), read,
        naver_exactly.mp ⟨count, full, left, right⟩⟩
  · rintro ⟨named, expected, response, read, apart, same⟩
    cases response with
    | coupang asked => exact absurd asked (by decide)
    | naver _ failures listed ids =>
      refine ⟨expected, read, _, ⟨listed, ?_⟩, ?_⟩
      · rw [ids.length_eq]
        exact named_few read few apart fun identity => (same identity).mp
      · obtain ⟨count, full, left, right⟩ := naver_exactly.mpr ⟨apart, same⟩
        rw [textsOf_eq_some.mpr ids]
        simp only [pure, Except.pure, Except.ok.injEq, decide_eq_true_eq]
        exact ⟨count, full, left, right, emptyList_iff.mpr failures⟩

/-! ### Coupang -/

theorem succeeded_iff {row : Entries} : succeeded row = true ↔ get row "succeed" = .bool true ∧
    get row "retryRequired" = .bool false ∧ get row "resultCode" = .text "OK" := by
  simp only [succeeded, Bool.and_eq_true, boolIs_iff, textIs_iff, and_assoc]

/-- The loop goes on to its end when every row has been delivered and names an expected identity for the first time. -/
theorem coupangRows_eq_ok {rows : List Json} {after : List String} :
    coupangRows expected seen rows = .ok (some after) ↔ ∃ named, List.Forall₂ Delivered rows named ∧
      after = named.reverse ++ seen ∧ named.Nodup ∧ ∀ identity ∈ named, identity ∈ expected ∧ identity ∉ seen := by
  induction rows generalizing seen with
  | nil =>
    simp only [coupangRows, pure, Except.pure, Except.ok.injEq, Option.some.injEq, List.forall₂_nil_left_iff]
    constructor
    · rintro rfl
      exact ⟨[], rfl, rfl, List.nodup_nil, List.forall_mem_nil _⟩
    · rintro ⟨_, rfl, rfl, -⟩
      rfl
  | cons row rest ih =>
    simp only [coupangRows, except_bind_eq_ok, object_eq_ok, positiveField_eq_ok, List.forall₂_cons_left_iff]
    constructor
    · rintro ⟨entries, rfl, number, ⟨numbered, bounds⟩, ran⟩
      split at ran
      · cases ran
      · next accepted =>
        simp only [not_or, not_not, Bool.not_eq_false] at accepted
        obtain ⟨fresh, known, success⟩ := accepted
        obtain ⟨others, delivered, rfl, apart, only⟩ := ih.mp ran
        refine ⟨_, ⟨_, others, ⟨entries, number, rfl, numbered, bounds, rfl, succeeded_iff.mp success⟩, delivered, rfl⟩, ?_, ?_, ?_⟩
        · simp
        · exact List.nodup_cons.mpr ⟨fun again => (only _ again).2 List.mem_cons_self, apart⟩
        · exact List.forall_mem_cons.mpr ⟨⟨known, fresh⟩, fun identity member =>
            ⟨(only identity member).1, fun taken => (only identity member).2 (List.mem_cons_of_mem _ taken)⟩⟩
    · rintro ⟨_, ⟨_, others, ⟨entries, number, rfl, numbered, bounds, rfl, success⟩, delivered, rfl⟩, rfl, apart, only⟩
      obtain ⟨absent, apart⟩ := List.nodup_cons.mp apart
      obtain ⟨⟨known, fresh⟩, only⟩ := List.forall_mem_cons.mp only
      refine ⟨entries, rfl, number, ⟨numbered, bounds⟩, ?_⟩
      rw [if_neg (by simp [fresh, known, succeeded_iff.mpr success])]
      refine ih.mpr ⟨others, delivered, by simp, apart, fun identity member => ⟨(only identity member).1, ?_⟩⟩
      rintro taken
      rcases List.mem_cons.mp taken with rfl | before
      · exact absent member
      · exact (only identity member).2 before

theorem coupangMatches_iff (few : reviews.length ≤ 30) : coupangMatches reviews body data = .ok true ↔
    ∃ named expected, Response "coupang" body data named ∧ identities "coupang" reviews = .ok expected ∧
      named.Nodup ∧ ∀ identity, identity ∈ named ↔ identity ∈ expected := by
  unfold coupangMatches
  constructor
  · intro matched
    split at matched
    · next envelope =>
      simp only [Bool.and_eq_true, Bool.or_eq_true, intIs_iff, textIs_iff] at envelope
      simp only [except_bind_eq_ok, rowsOf_eq_ok] at matched
      obtain ⟨expected, read, rows, ⟨listed, -⟩, outcome, ran, matched⟩ := matched
      split at matched
      · cases matched
      · simp only [pure, Except.pure, Except.ok.injEq, decide_eq_true_eq] at matched
        obtain ⟨named, delivered, rfl, apart, only⟩ := coupangRows_eq_ok.mp ran
        rw [List.append_nil] at matched
        exact ⟨named, expected, .coupang rfl envelope.1 envelope.2 listed delivered, read, apart, fun identity =>
          ⟨fun member => (only identity member).1, fun member => List.mem_reverse.mp (matched.2 member)⟩⟩
    · cases matched
  · rintro ⟨named, expected, response, read, apart, same⟩
    cases response with
    | naver asked => exact absurd asked (by decide)
    | coupang _ code responseCode listed delivered =>
      have envelope : ((intIs 200 (get body "code") || textIs "200" (get body "code")) &&
          intIs 0 (get data "responseCode")) = true := by
        simp only [Bool.and_eq_true, Bool.or_eq_true, intIs_iff, textIs_iff]
        exact ⟨code, responseCode⟩
      have ran : coupangRows expected [] _ = .ok (some (named.reverse ++ [])) :=
        coupangRows_eq_ok.mpr ⟨named, delivered, rfl, apart, fun identity member => ⟨(same identity).mp member, List.not_mem_nil⟩⟩
      rw [if_pos envelope]
      simp only [except_bind_eq_ok, rowsOf_eq_ok]
      refine ⟨expected, read, _, ⟨listed, ?_⟩, _, ran, ?_⟩
      · rw [delivered.length_eq]
        exact named_few read few apart fun identity => (same identity).mp
      · simp only [pure, Except.pure, Except.ok.injEq, decide_eq_true_eq, List.append_nil]
        exact ⟨fun identity member => (same identity).mp (List.mem_reverse.mp member),
          fun identity member => List.mem_reverse.mpr ((same identity).mpr member)⟩

theorem batchMatches_iff {batch : FixtureTrackingBatch} {body : Json} (few : batch.reviews.length ≤ 30) :
    batchMatches batch body = .ok true ↔ Conclusive batch body := by
  simp only [batchMatches, Conclusive, except_bind_eq_ok, object_eq_ok]
  constructor
  · rintro ⟨entries, shown, data, found, matched⟩
    split at matched
    · next asked =>
      obtain ⟨named, expected, response, read, exactly⟩ := (naverMatches_iff few).mp matched
      exact ⟨entries, data, named, expected, shown, found, asked ▸ response, asked ▸ read, exactly⟩
    split at matched
    · next asked =>
      obtain ⟨named, expected, response, read, exactly⟩ := (coupangMatches_iff few).mp matched
      exact ⟨entries, data, named, expected, shown, found, asked ▸ response, asked ▸ read, exactly⟩
    · cases matched
  · rintro ⟨entries, data, named, expected, shown, found, response, read, exactly⟩
    refine ⟨entries, shown, data, found, ?_⟩
    -- the response is of the provider that the batch asked
    have asked : batch.provider = "coupang" ∨ batch.provider = "naver" := by
      cases response with
      | coupang asked => exact .inl asked
      | naver asked => exact .inr asked
    rcases asked with asked | asked
    · rw [if_neg (by rw [asked]; decide), if_pos asked]
      rw [asked] at response read
      exact (coupangMatches_iff few).mpr ⟨named, expected, response, read, exactly⟩
    · rw [if_pos asked]
      rw [asked] at response read
      exact (naverMatches_iff few).mpr ⟨named, expected, response, read, exactly⟩

end

/-! ## Decisions -/

/-- The rows of the response stand in another order. -/
inductive Reordered : Json → Json → Prop where
  | rows {before after front back : Entries} {key : String} {rows others : List Json}
      (outer : "data" ∉ before.map Prod.fst) (inner : key ∉ front.map Prod.fst)
      (named : key = "responseList" ∨ key = "successProductOrderIds") (perm : rows.Perm others) :
      Reordered (.object (before ++ ("data", .object (front ++ (key, .list rows) :: back)) :: after))
        (.object (before ++ ("data", .object (front ++ (key, .list others) :: back)) :: after))

/-- What an accepted batch is known for. -/
structure Authorized (hash : String → String) (batch : FixtureTrackingBatch) (presented : Presented) : Prop where
  scope : ∀ review ∈ batch.reviews,
    presented.tenantRef = review.tenantRef ∧ presented.connectionRef = review.connectionRef
  digest : batch.approvalDigest hash = .ok presented.approvalDigest
  only : ∀ other : FixtureTrackingBatch, other.approvalDigest hash = .ok presented.approvalDigest → other = batch
  valid : ∃ now, presented.now = some now ∧ ∀ review ∈ batch.reviews, review.startsAt ≤ now ∧ now < review.expiresAt
  apart : ∃ names, identities batch.provider batch.reviews = .ok names ∧ names.Nodup

section

variable {hash : String → String} {batch other : FixtureTrackingBatch} {body first second : Json}

def Small (body : Json) : Prop := (Json.canonical body).utf8ByteSize ≤ 2 * 1024 * 1024

theorem digestOf_large (large : ¬ (Json.canonical body).utf8ByteSize ≤ 2 * 1024 * 1024) : digestOf hash body = .error ⟨"page_size_exceeded"⟩ := by
  have refused : canonicalJson body = .error ⟨"page_size_exceeded"⟩ := by
    rw [canonicalJson, require, if_neg large]
    rfl
  rw [digestOf, refused]
  rfl

/-- A batch matches when the response is conclusive, and small enough to have a digest. -/
theorem matched_iff (few : batch.reviews.length ≤ 30) :
    (interpretTrackingBatch hash batch body).decision = "MATCHED_BATCH_FIXTURE" ↔ Small body ∧ Conclusive batch body := by
  rw [← batchMatches_iff few]
  by_cases small : Small body
  · rw [interpretTrackingBatch, digestOf_small small]
    dsimp only
    split
    · next matched => simp [matched, small]
    · next unmatched => simp [show ¬ batchMatches batch body = .ok true from unmatched]
  · rw [interpretTrackingBatch, digestOf_large small]
    simp [small]

theorem decision_cases : (interpretTrackingBatch hash batch body).decision = "MATCHED_BATCH_FIXTURE" ∨
    (interpretTrackingBatch hash batch body).decision = "RECONCILE_REQUIRED" := by
  unfold interpretTrackingBatch
  split
  · exact .inr rfl
  · split
    · exact .inl rfl
    · exact .inr rfl

/-! ### Reordered rows -/

theorem Reordered.symm (moved : Reordered first second) : Reordered second first := by
  cases moved with
  | rows outer inner named perm => exact .rows outer inner named perm.symm

theorem Reordered.small (moved : Reordered first second) (small : Small first) : Small second := by
  cases moved with
  | rows _ _ _ perm =>
    unfold Small at *
    rw [Json.utf8ByteSize_canonical] at *
    simp only [Json.size_object, Json.entriesSize, Json.size_list, List.map_append, List.map_cons, List.sum_append,
      List.sum_cons, Json.itemsSize_perm perm] at *
    exact small

theorem get_here {front back : Entries} {key : String} {value : Json} (absent : key ∉ front.map Prod.fst) :
    get (front ++ (key, value) :: back) key = value := by
  have none : front.find? (fun entry => entry.1 = key) = none := by
    rw [List.find?_eq_none]
    intro entry member same
    exact absent (List.mem_map.mpr ⟨entry, member, of_decide_eq_true same⟩)
  rw [get, List.find?_append, none]
  simp

theorem get_elsewhere {front back : Entries} {key asked : String} {value replaced : Json} (apart : asked ≠ key) :
    get (front ++ (key, value) :: back) asked = get (front ++ (key, replaced) :: back) asked := by
  have skipped : decide (key = asked) = false := decide_eq_false apart.symm
  simp only [get, List.find?_append, List.find?_cons, skipped]

/-- The response to the same request, whose rows name the same identities in their order. -/
theorem Response.reordered {provider key : String} {entries front back : Entries} {rows others : List Json}
    {named : List String} {moved : Entries} (same : get moved "code" = get entries "code")
    (inner : key ∉ front.map Prod.fst) (shown : key = "responseList" ∨ key = "successProductOrderIds")
    (perm : rows.Perm others) (response : Response provider entries (front ++ (key, .list rows) :: back) named) :
    ∃ renamed, named.Perm renamed ∧ Response provider moved (front ++ (key, .list others) :: back) renamed := by
  have kept : ∀ asked, asked ≠ key →
      get (front ++ (key, .list others) :: back) asked = get (front ++ (key, .list rows) :: back) asked :=
    fun asked apart => get_elsewhere apart
  cases response with
  | coupang asked code responseCode listed delivered =>
    have envelope := (kept "responseCode" (by rintro rfl; revert shown; decide)).trans responseCode
    rw [← same] at code
    by_cases here : key = "responseList"
    · subst here
      rw [get_here inner, Json.list.injEq] at listed
      subst listed
      obtain ⟨renamed, matched, perm⟩ := List.perm_comp_forall₂ perm.symm delivered
      exact ⟨renamed, perm.symm, .coupang asked code envelope (get_here inner) matched⟩
    · exact ⟨named, .refl _, .coupang asked code envelope ((kept _ (Ne.symm here)).trans listed) delivered⟩
  | naver asked failures listed ids =>
    have empty := (kept "failProductOrderInfos" (by rintro rfl; revert shown; decide)).trans failures
    by_cases here : key = "successProductOrderIds"
    · subst here
      rw [get_here inner, Json.list.injEq] at listed
      subst listed
      obtain ⟨renamed, matched, perm⟩ := List.perm_comp_forall₂ perm.symm ids
      exact ⟨renamed, perm.symm, .naver asked empty (get_here inner) matched⟩
    · exact ⟨named, .refl _, .naver asked empty ((kept _ (Ne.symm here)).trans listed) ids⟩

theorem Reordered.conclusive (moved : Reordered first second) (settled : Conclusive batch first) : Conclusive batch second := by
  cases moved with
  | rows outer inner shown perm =>
    obtain ⟨entries, data, named, expected, whole, found, response, read, apart, same⟩ := settled
    cases whole
    rw [get_here outer] at found
    cases found
    obtain ⟨renamed, names, again⟩ := response.reordered (get_elsewhere (by decide)) inner shown perm
    exact ⟨_, _, renamed, expected, rfl, get_here outer, again, read, names.nodup_iff.mp apart, fun identity => by
      rw [← names.mem_iff, same]⟩

/-- The decision does not depend on the order of the rows. -/
theorem Reordered.decision (few : batch.reviews.length ≤ 30) (moved : Reordered first second) :
    (interpretTrackingBatch hash batch first).decision = (interpretTrackingBatch hash batch second).decision := by
  have same : (interpretTrackingBatch hash batch first).decision = "MATCHED_BATCH_FIXTURE" ↔
      (interpretTrackingBatch hash batch second).decision = "MATCHED_BATCH_FIXTURE" := by
    rw [matched_iff few, matched_iff few]
    exact ⟨fun both => ⟨moved.small both.1, moved.conclusive both.2⟩,
      fun both => ⟨moved.symm.small both.1, moved.symm.conclusive both.2⟩⟩
  rcases @decision_cases hash batch first with left | left <;> rcases @decision_cases hash batch second with right | right
  · rw [left, right]
  · rw [same.mp left, left]
  · rw [same.mpr right, right]
  · rw [left, right]

end

/-! ## Verification -/

section

variable {hash : String → String} {batch other : FixtureTrackingBatch}

theorem FixtureTrackingBatch.fields_inj (same : Json.sortKeys (.object batch.fields) = Json.sortKeys (.object other.fields)) :
    batch = other := by
  have entries := Json.entries_of_sorted same rfl (by simp [FixtureTrackingBatch.fields])
  simp only [FixtureTrackingBatch.fields, List.map_cons, List.map_nil, List.cons.injEq, Prod.mk.injEq, true_and, and_true,
    Json.sortKeys, Json.text.injEq, Json.list.injEq] at entries
  obtain ⟨provider, tenant, connection, reviews⟩ := entries
  have same_reviews := Json.sortItems_inj (fun one two => Review.fields_inj) reviews
  cases batch
  cases other
  simp_all only

theorem FixtureTrackingBatch.exact_fields (batch : FixtureTrackingBatch) : Json.exact (.object batch.fields) = true := by
  have reviews := exactItems_map (fun review : Review => .object review.fields) batch.reviews Review.exact_fields
  simp [FixtureTrackingBatch.fields, Json.exact, Json.exactEntries, reviews]

/-- One digest, one batch with its reviews in their order. -/
theorem batchDigest_inj (injective : Function.Injective hash) {digest : String} (left : batch.approvalDigest hash = .ok digest)
    (right : other.approvalDigest hash = .ok digest) : other = batch := by
  simp only [FixtureTrackingBatch.approvalDigest, digestOf, canonicalJson, except_bind_eq_ok, require_eq_ok] at left right
  obtain ⟨_, ⟨-, -, left_text⟩, left_hash⟩ := left
  obtain ⟨_, ⟨-, -, right_text⟩, right_hash⟩ := right
  cases left_text
  cases right_text
  have hashes := Except.ok.inj (right_hash.trans left_hash.symm)
  exact FixtureTrackingBatch.fields_inj (Json.canonical_inj other.exact_fields batch.exact_fields (injective hashes))

/-- Each review has been verified, and none has the identity of an earlier one. -/
theorem batchReviews_ok {provider tenantRef connectionRef : String} {given : Option Timestamp} {seen : List String}
    {reviews : List Review} {u : Unit} (ran : batchReviews hash provider tenantRef connectionRef given seen reviews = .ok u) :
    (∀ review ∈ reviews, (tenantRef = review.tenantRef ∧ connectionRef = review.connectionRef) ∧
      ∃ now, given = some now ∧ review.startsAt ≤ now ∧ now < review.expiresAt) ∧
    ∃ names, identities provider reviews = .ok names ∧ names.Nodup ∧ ∀ name ∈ names, name ∉ seen := by
  induction reviews generalizing seen with
  | nil => exact ⟨List.forall_mem_nil _, [], rfl, List.nodup_nil, List.forall_mem_nil _⟩
  | cons review rest ih =>
    simp only [batchReviews, except_bind_eq_ok, require_eq_ok] at ran
    obtain ⟨_, -, digest, -, _, verified, name, named, _, fresh, ran⟩ := ran
    obtain ⟨scope, -, times⟩ := verifyFixture_ok verified
    obtain ⟨others, names, read, apart, unseen⟩ := ih ran
    refine ⟨List.forall_mem_cons.mpr ⟨⟨scope, times⟩, others⟩, name :: names, ?_, ?_, ?_⟩
    · simp only [identities, except_bind_eq_ok]
      exact ⟨name, named, names, read, rfl⟩
    · exact List.nodup_cons.mpr ⟨fun again => unseen name again List.mem_cons_self, apart⟩
    · exact List.forall_mem_cons.mpr ⟨fresh, fun other member taken => unseen other member (List.mem_cons_of_mem _ taken)⟩

theorem verifyTrackingBatch_ok (injective : Function.Injective hash) {presented : Presented} {result : String}
    (accepted : verifyTrackingBatch hash batch presented = .ok result) : Authorized hash batch presented := by
  simp only [verifyTrackingBatch, hashRef, except_bind_eq_ok, require_eq_ok] at accepted
  obtain ⟨rebuilt, built, shown, ⟨_, -, same⟩, own, digest, _, ⟨equal, rfl⟩, -⟩ := accepted
  cases same
  rw [← equal] at digest
  simp only [buildTrackingBatch, except_bind_eq_ok, require_eq_ok] at built
  obtain ⟨_, ⟨some, -⟩, provider, typed, _, checked, same⟩ := built
  obtain rfl : provider = rebuilt.provider := congrArg FixtureTrackingBatch.provider (Except.ok.inj same)
  obtain ⟨each, apart⟩ := batchReviews_ok checked
  refine ⟨fun review member => (each review member).1, digest, fun other => batchDigest_inj injective digest, ?_,
    apart.imp fun names known => ⟨known.1, known.2.1⟩⟩
  -- the batch holds a review, which knows the time
  obtain ⟨first, member⟩ := List.exists_mem_of_length_pos some
  obtain ⟨now, known, -⟩ := (each first member).2
  refine ⟨now, known, fun review among => ?_⟩
  obtain ⟨time, same, valid⟩ := (each review among).2
  rw [Option.some.inj (known.symm.trans same)]
  exact valid

def sampleTracking : FixtureTrackingReview :=
  ⟨"t", "c", "o", "1", "v", "5", sampleDigest, sampleDigest, sampleDigest, .utc 0, .utc 0, .utc 300, "KDEXP"⟩

def sampleBatch : FixtureTrackingBatch := ⟨"coupang", "t", "c", [.tracking sampleTracking]⟩

theorem sampleBatch_built : buildTrackingBatch (fun _ => sampleDigest) [.tracking sampleTracking] "t" "c" (some (.utc 10)) =
    .ok sampleBatch := by
  have small : (Json.canonical (.object (Review.tracking sampleTracking).fields)).utf8ByteSize ≤ 2 * 1024 * 1024 := by
    rw [Json.canonical, String.utf8ByteSize_ofList]
    decide +kernel
  have digest : (Review.tracking sampleTracking).approvalDigest (fun _ => sampleDigest) = .ok sampleDigest := digestOf_small small
  simp only [buildTrackingBatch, batchProvider, Review.trackingProvider, batchReviews, Review.verifyFixture, Review.verifyScope, digest]
  decide +kernel

/-- A response about the one shipment of the batch, and a field that is as large as the limit. -/
def paddedResponse : Json := .object [("code", .int 200),
  ("data", .object [("responseCode", .int 0), ("responseList", .list [.object [("shipmentBoxId", .int 1),
    ("succeed", .bool true), ("retryRequired", .bool false), ("resultCode", .text "OK")]])]),
  ("message", .text (String.ofList (List.replicate (2 * 1024 * 1024 + 1) 'a')))]

theorem paddedResponse_large : ¬ Small paddedResponse := by
  have inside : Json.size (.text (String.ofList (List.replicate (2 * 1024 * 1024 + 1) 'a'))) ≤ Json.size paddedResponse :=
    @Json.size_le_object "message" _ _ (.tail _ (.tail _ (.head _)))
  have text := Json.length_le_size_text (String.ofList (List.replicate (2 * 1024 * 1024 + 1) 'a'))
  rw [← String.length_toList, String.toList_ofList, List.length_replicate] at text
  unfold Small
  rw [Json.utf8ByteSize_canonical]
  omega

end

end AiStore.Offline
