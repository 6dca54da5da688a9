import AiStore.Aftersales.Claims

/-! The statuses of a claim over whole histories. -/

set_option autoImplicit false

namespace AiStore.Aftersales

open Library (Session Table Txn final)
open Library.Txn Failure Repository Service

variable {env : Env} {context : TenantContext} {s t : Session Books}

/-! ## Calls -/

/-- A call on the claims, or any operation of the store. -/
inductive ClaimCall where
  | openClaim (context : TenantContext) (orderId : Uuid) (claimType : String) (amountMinor : Int)
      (idempotencyKey : String)
  | record (context : TenantContext) (claimId : Uuid) (statusKind status : String) (expectedVersion : Int)
  | elsewhere (operation : Op Unit)

def performClaim (env : Env) : ClaimCall → BookOp (Option (DemoClaim × Bool))
  | .openClaim context orderId claimType amountMinor idempotencyKey => do
      let answer ← openDemoClaim env context orderId claimType amountMinor idempotencyKey
      pure (some answer)
  | .record context claimId statusKind status expectedVersion => do
      let answer ← recordDemoClaimStatus env context claimId statusKind status expectedVersion
      pure (some answer)
  | .elsewhere operation => do
      inStore operation
      pure none

def claimStep (env : Env) (call : ClaimCall) (s : Session Books) :
    Except Failure (Option (DemoClaim × Bool)) × Session Books := (performClaim env call).run s

/-! ## What a call does -/

/-- A status that was recorded before is answered with the claim as it stands. -/
structure Replayed (s : Session Books) (tenant claimId : Uuid) (kind : StatusKind) (target : ClaimStatus)
    (claim result : DemoClaim) (t : Session Books) : Prop where
  result_eq : result = claim
  recorded : ∃ row ∈ claimHistory tenant claimId s.db, row.statusKind = kind ∧ row.status = target
  unchanged : t = s

structure NewlyRecorded (s : Session Books) (tenant claimId : Uuid) (kind : StatusKind) (target : ClaimStatus)
    (claim result : DemoClaim) (t : Session Books) : Prop where
  result_eq : result = movedClaim claim kind target
  unrecorded : ∀ row ∈ claimHistory tenant claimId s.db, ¬ (row.statusKind = kind ∧ row.status = target)
  claims : t.db.claims = s.db.claims.put (movedClaim claim kind target)
  observed : ∃ row : ClaimStatusObservation, row.tenantId = tenant ∧ row.claimId = claimId ∧ row.statusKind = kind ∧
    row.status = target ∧ t.db.claimStatusObservations = s.db.claimStatusObservations ++ [row]
  uuids : s.uuids ≤ t.uuids

theorem saveClaimObservation_of_new {value result : ClaimStatusObservation}
    (unrecorded : ∀ row ∈ claimHistory value.tenantId value.claimId s.db,
      ¬ (row.statusKind = value.statusKind ∧ row.status = value.status)) :
    (saveClaimObservation value).run s = (.ok result, t) ↔ result = value ∧
      t = { s with db := { s.db with claimStatusObservations := s.db.claimStatusObservations ++ [value] } } := by
  have looked : (claimHistory value.tenantId value.claimId s.db).find?
      (fun row => row.statusKind = value.statusKind ∧ row.status = value.status) = none :=
    List.find?_eq_none.mpr fun row member => by simpa using unrecorded row member
  simp only [saveClaimObservation, claimObservationFor, bind_eq_ok, query_eq_ok, and_assoc, exists_and_left,
    exists_eq_left', looked, write_eq_ok, pure_eq_ok, exists_eq_left, exists_const]

theorem recordDemoClaimStatus_ok {claimId : Uuid} {statusKind status : String} {expectedVersion : Int}
    {result : DemoClaim} {replayed : Bool}
    (ran : (recordDemoClaimStatus env context claimId statusKind status expectedVersion).run s =
      (.ok (result, replayed), t)) :
    ∃ kind target claim, spelledStatus statusKind status = some (kind, target) ∧
      s.db.claims.get? (context.tenantId, claimId) = some claim ∧
      (Replayed s context.tenantId claimId kind target claim result t ∨
        NewlyRecorded s context.tenantId claimId kind target claim result t) := by
  simp only [recordDemoClaimStatus, bind_eq_ok, inStore_require_eq_ok, fetch_eq_ok, transaction_eq_ok, getClaim,
    claimObservationFor, query_eq_ok, exists_and_left, exists_eq_left, exists_eq_left', exists_const, and_assoc] at ran
  obtain ⟨-, ⟨kind, target⟩, spelled, claim, found, ran⟩ := ran
  have named : claim.tenantId = context.tenantId ∧ claim.id = claimId := by
    simpa [DemoClaim.key] using Table.key_of_get? found
  rw [named.2] at ran
  refine ⟨kind, target, claim, spelled, found, ?_⟩
  split at ran
  -- the status was recorded before, whatever came behind it
  · next row looked =>
    obtain ⟨same, rfl⟩ := (pure_eq_ok _ _ _ _).mp ran
    have known := List.find?_some looked
    exact .inl ⟨(Prod.mk.inj same).1, ⟨row, List.mem_of_find?_eq_some looked, by simpa using known⟩, rfl⟩
  · next looked =>
    have unrecorded : ∀ row ∈ claimHistory context.tenantId claimId s.db, ¬ (row.statusKind = kind ∧ row.status = target) := by
      simpa using List.find?_eq_none.mp looked
    simp only [bind_eq_ok, ensure_eq_ok, inStore_now_eq_ok, freshUuid_eq_ok, updateClaim, getClaim, query_eq_ok,
      fetch_eq_ok, write_eq_ok, pure_eq_ok, Prod.mk.injEq, exists_and_left, exists_eq_left, exists_eq_left', exists_const,
      and_assoc] at ran
    obtain ⟨-, row, _, saved, _, ⟨_, -, -, -, rfl⟩, _, _, audited, _, _, published, rfl, -, rfl⟩ := ran
    obtain ⟨row_eq, rfl⟩ := (saveClaimObservation_of_new unrecorded).mp saved
    obtain ⟨audited_db, audited_uuids, -⟩ := inStore_beside audited
    obtain ⟨published_db, published_uuids, -⟩ := inStore_beside published
    refine .inr ⟨rfl, unrecorded, ?_, ⟨row, ?_, ?_, ?_, ?_, ?_⟩, ?_⟩
    · rw [published_db, audited_db]
    · rw [row_eq]
    · rw [row_eq]
    · rw [row_eq]
    · rw [row_eq]
    · rw [published_db, audited_db, row_eq]
    · simp only at audited_uuids published_uuids
      omega

/-! ## What is shown and what was recorded -/

/-- The last recorded status of a kind. -/
def latestStatus (kind : StatusKind) (history : List ClaimStatusObservation) : ClaimStatus :=
  ((history.filter (·.statusKind = kind)).getLast?).elim .opened (·.status)

/-- Claims and their history name identifiers that are drawn, and each field shows the last status of its kind. -/
structure Reported (s : Session Books) : Prop where
  claim_drawn : ∀ claim ∈ s.db.claims.rows, claim.id < s.uuids
  status_drawn : ∀ row ∈ s.db.claimStatusObservations, row.claimId < s.uuids
  shown : ∀ claim ∈ s.db.claims.rows, ∀ kind,
    claim.status kind = latestStatus kind (claimHistory claim.tenantId claim.id s.db)

theorem status_setStatus (claim : DemoClaim) (kind other : StatusKind) (target : ClaimStatus) :
    (claim.setStatus kind target).status other = if other = kind then target else claim.status other := by
  cases kind <;> cases other <;> rfl

theorem latestStatus_append (kind : StatusKind) (history : List ClaimStatusObservation) (row : ClaimStatusObservation) :
    latestStatus kind (history ++ [row]) = if row.statusKind = kind then row.status else latestStatus kind history := by
  unfold latestStatus
  rw [List.filter_append]
  by_cases same : row.statusKind = kind
  · simp [same]
  · simp [same]

theorem claimHistory_append (tenant claimId : Uuid) (books : Books) (row : ClaimStatusObservation) :
    claimHistory tenant claimId { books with claimStatusObservations := books.claimStatusObservations ++ [row] } =
      claimHistory tenant claimId books ++ if row.tenantId = tenant ∧ row.claimId = claimId then [row] else [] := by
  unfold claimHistory
  rw [List.filter_append]
  by_cases same : row.tenantId = tenant ∧ row.claimId = claimId
  · simp [same]
  · simp [same]

/-- Tables that stay, and supplies that advance. -/
theorem Reported.of_same (reported : Reported s) (claims : t.db.claims = s.db.claims)
    (observations : t.db.claimStatusObservations = s.db.claimStatusObservations) (uuids : s.uuids ≤ t.uuids) :
    Reported t where
  claim_drawn claim member := Nat.lt_of_lt_of_le (reported.claim_drawn claim (claims ▸ member)) uuids
  status_drawn row member := Nat.lt_of_lt_of_le (reported.status_drawn row (observations ▸ member)) uuids
  shown claim member kind := by
    rw [claims] at member
    rw [reported.shown claim member kind, claimHistory, claimHistory, observations]

theorem Reported.recorded (reported : Reported s) {tenant claimId : Uuid} {kind : StatusKind} {target : ClaimStatus}
    {claim result : DemoClaim} (found : s.db.claims.get? (tenant, claimId) = some claim)
    (new : NewlyRecorded s tenant claimId kind target claim result t) : Reported t := by
  obtain ⟨row, row_tenant, row_claim, row_kind, row_status, observations⟩ := new.observed
  have named : claim.tenantId = tenant ∧ claim.id = claimId := by simpa [DemoClaim.key] using Table.key_of_get? found
  have moved_id : (movedClaim claim kind target).id = claim.id := by cases kind <;> rfl
  have moved_tenant : (movedClaim claim kind target).tenantId = claim.tenantId := by cases kind <;> rfl
  have drawn := reported.claim_drawn claim (Table.mem_of_get? found)
  have history : ∀ other_tenant other, claimHistory other_tenant other t.db = claimHistory other_tenant other s.db ++
      if row.tenantId = other_tenant ∧ row.claimId = other then [row] else [] := by
    intro other_tenant other
    rw [← claimHistory_append, claimHistory, claimHistory, observations]
  constructor
  · rw [new.claims]
    refine Table.forall_put (fun other member => Nat.lt_of_lt_of_le (reported.claim_drawn other member) new.uuids) ?_
    rw [moved_id]
    exact Nat.lt_of_lt_of_le drawn new.uuids
  · intro other member
    rw [observations, List.mem_append, List.mem_singleton] at member
    rcases member with old | rfl
    · exact Nat.lt_of_lt_of_le (reported.status_drawn other old) new.uuids
    · rw [row_claim, ← named.2]
      exact Nat.lt_of_lt_of_le drawn new.uuids
  · intro other member other_kind
    rw [new.claims, Table.mem_put] at member
    rw [history]
    rcases member with rfl | ⟨old, apart⟩
    -- the claim that moved, whose history has one row more
    · rw [moved_id, moved_tenant, if_pos ⟨row_tenant.trans named.1.symm, row_claim.trans named.2.symm⟩, latestStatus_append,
        row_kind, row_status, ← reported.shown claim (Table.mem_of_get? found) other_kind]
      exact (status_setStatus claim kind other_kind target).trans (by simp only [eq_comm])
    -- another claim, whose history is what it was
    · have elsewhere : ¬ (row.tenantId = other.tenantId ∧ row.claimId = other.id) := by
        rintro ⟨same_tenant, same_claim⟩
        refine apart (Prod.ext ?_ ?_)
        · exact same_tenant.symm.trans (row_tenant.trans (named.1.symm.trans moved_tenant.symm))
        · exact same_claim.symm.trans (row_claim.trans (named.2.symm.trans moved_id.symm))
      rw [if_neg elsewhere, List.append_nil]
      exact reported.shown other old other_kind

/-! ## Runs -/

theorem openDemoClaim_ok {orderId : Uuid} {claimType idempotencyKey : String} {amountMinor : Int} {result : DemoClaim}
    {replayed : Bool}
    (ran : (openDemoClaim env context orderId claimType amountMinor idempotencyKey).run s = (.ok (result, replayed), t)) :
    t.db.claimStatusObservations = s.db.claimStatusObservations ∧ s.uuids ≤ t.uuids ∧
      (t.db.claims = s.db.claims ∨ s.uuids < t.uuids ∧ t.db.claims = s.db.claims.put result ∧ result.id = s.uuids ∧
        ∀ kind, result.status kind = .opened) := by
  simp only [openDemoClaim, bind_eq_ok, inStore_require_eq_ok, ensure_eq_ok, transaction_eq_ok, inStore_getChannelOrder_eq_ok,
    inStore_now_eq_ok, freshUuid_eq_ok, saveClaim, query_eq_ok, exists_and_left, exists_eq_left, exists_eq_left',
    exists_const, and_assoc] at ran
  obtain ⟨-, -, order, found, -, ⟨claim, replay⟩, middle, saved, ran⟩ := ran
  split at saved
  -- the key is known: an identifier is drawn for nothing
  · simp only [bind_eq_ok, ensure_eq_ok, pure_eq_ok, Prod.mk.injEq] at saved
    obtain ⟨_, _, ⟨-, rfl⟩, ⟨rfl, rfl⟩, rfl⟩ := saved
    obtain ⟨-, rfl⟩ := (pure_eq_ok _ _ _ _).mp ran
    exact ⟨rfl, Nat.le_succ _, .inl rfl⟩
  · simp only [bind_eq_ok, write_eq_ok, pure_eq_ok, Prod.mk.injEq] at saved
    obtain ⟨_, _, rfl, ⟨rfl, rfl⟩, rfl⟩ := saved
    simp only [Bool.false_eq_true, if_false, bind_eq_ok, pure_eq_ok, Prod.mk.injEq] at ran
    obtain ⟨_, _, audited, _, _, published, ⟨rfl, -⟩, rfl⟩ := ran
    obtain ⟨audited_db, audited_uuids, -⟩ := inStore_beside audited
    obtain ⟨published_db, published_uuids, -⟩ := inStore_beside published
    simp only at audited_uuids published_uuids
    refine ⟨?_, by omega, .inr ⟨by omega, ?_, rfl, ?_⟩⟩
    · rw [published_db, audited_db]
    · rw [published_db, audited_db]
    · intro kind
      cases kind <;> rfl

theorem Reported.opened (reported : Reported s) {claim : DemoClaim}
    (observations : t.db.claimStatusObservations = s.db.claimStatusObservations) (uuids : s.uuids < t.uuids)
    (claims : t.db.claims = s.db.claims.put claim) (id : claim.id = s.uuids) (new : ∀ kind, claim.status kind = .opened) :
    Reported t where
  claim_drawn := by
    rw [claims]
    refine Table.forall_put (fun other member => Nat.lt_trans (reported.claim_drawn other member) uuids) ?_
    rw [id]
    exact uuids
  status_drawn row member := Nat.lt_trans (reported.status_drawn row (observations ▸ member)) uuids
  shown other member kind := by
    have same : claimHistory other.tenantId other.id t.db = claimHistory other.tenantId other.id s.db := by
      rw [claimHistory, claimHistory, observations]
    rw [same]
    rw [claims, Table.mem_put] at member
    rcases member with rfl | ⟨old, -⟩
    · -- nothing is recorded under an identifier that was not drawn
      have unrecorded : claimHistory other.tenantId other.id s.db = [] := by
        refine List.filter_eq_nil_iff.mpr fun row member named => ?_
        simp only [decide_eq_true_eq] at named
        have drawn := reported.status_drawn row member
        rw [named.2, id] at drawn
        exact Nat.lt_irrefl _ drawn
      rw [new, unrecorded]
      rfl
    · exact reported.shown other old kind

/-- The tables of the claims. -/
def claimTables (books : Books) : Table DemoClaim.key × List ClaimStatusObservation :=
  (books.claims, books.claimStatusObservations)

theorem unwinds_openDemoClaim {orderId : Uuid} {claimType idempotencyKey : String} {amountMinor : Int} :
    Unwinds claimTables (openDemoClaim env context orderId claimType amountMinor idempotencyKey) :=
  Unwinds.bind (keeps_on (fun _ _ => rfl) _) fun _ => Unwinds.bind (keeps_ensure _ _) fun _ => unwinds_transaction _

theorem unwinds_recordDemoClaimStatus {claimId : Uuid} {statusKind status : String} {expectedVersion : Int} :
    Unwinds claimTables (recordDemoClaimStatus env context claimId statusKind status expectedVersion) :=
  Unwinds.bind (keeps_on (fun _ _ => rfl) _) fun _ => Unwinds.bind (keeps_fetch _ _) fun _ => unwinds_transaction _

/-- A call that raises leaves the claims as they were. -/
theorem Reported.raised {α : Type} {operation : BookOp α} {why : Failure} (reported : Reported s)
    (unwinds : Unwinds claimTables operation) (raised : operation.run s = (.error why, t)) : Reported t := by
  have same := unwinds s why t raised
  have advances := operation.advances s
  rw [raised] at advances
  exact reported.of_same (congrArg Prod.fst same) (congrArg Prod.snd same) advances.2

theorem reported_step (reported : Reported s) (call : ClaimCall) : Reported (claimStep env call s).2 := by
  rcases stepped : claimStep env call s with ⟨outcome, t⟩
  cases call with
  | openClaim context orderId claimType amountMinor idempotencyKey =>
    simp only [claimStep, performClaim, run_bind] at stepped
    rcases ran : (openDemoClaim env context orderId claimType amountMinor idempotencyKey).run s with
      ⟨why | ⟨claim, replayed⟩, after⟩
    · simp only [ran] at stepped
      cases stepped
      exact reported.raised unwinds_openDemoClaim ran
    · simp only [ran] at stepped
      cases stepped
      obtain ⟨observations, uuids, same | ⟨drawn, claims, id, new⟩⟩ := openDemoClaim_ok ran
      · exact reported.of_same same observations uuids
      · exact reported.opened observations drawn claims id new
  | record context claimId statusKind status expectedVersion =>
    simp only [claimStep, performClaim, run_bind] at stepped
    rcases ran : (recordDemoClaimStatus env context claimId statusKind status expectedVersion).run s with
      ⟨why | ⟨claim, replayed⟩, after⟩
    · simp only [ran] at stepped
      cases stepped
      exact reported.raised unwinds_recordDemoClaimStatus ran
    · simp only [ran] at stepped
      cases stepped
      obtain ⟨kind, target, claim, -, found, replay | new⟩ := recordDemoClaimStatus_ok ran
      · rw [replay.unchanged]
        exact reported
      · exact reported.recorded found new
  | elsewhere operation =>
    obtain ⟨books, uuids, -⟩ := elsewhere_beside stepped
    exact reported.of_same (by rw [books]) (by rw [books]) uuids

theorem reported_run (calls : List ClaimCall) : Reported (final (claimStep env) newBooks calls) := by
  apply Library.final_invariant
  · exact ⟨fun _ member => absurd member List.not_mem_nil, fun _ member => absurd member List.not_mem_nil,
      fun _ member => absurd member List.not_mem_nil⟩
  · exact fun call _ state reported => reported_step reported call

/-! ## Following the updates -/

/-- The claim shows the status, and its history ends with it. -/
def Follows (s : Session Books) (tenant claimId : Uuid) (kind : StatusKind) (target : ClaimStatus) : Prop :=
  (∃ claim, s.db.claims.get? (tenant, claimId) = some claim ∧ claim.status kind = target) ∧
    ∃ row, (claimHistory tenant claimId s.db).getLast? = some row ∧ row.statusKind = kind ∧ row.status = target

/-- The status is new to the history of the claim, or is the last change of it. -/
def NewOrLast (s : Session Books) (tenant claimId : Uuid) (kind : StatusKind) (target : ClaimStatus) : Prop :=
  (∀ row ∈ claimHistory tenant claimId s.db, ¬ (row.statusKind = kind ∧ row.status = target)) ∨
    ∃ row, (claimHistory tenant claimId s.db).getLast? = some row ∧ row.statusKind = kind ∧ row.status = target

instance (s : Session Books) (tenant claimId : Uuid) (kind : StatusKind) (target : ClaimStatus) :
    Decidable (NewOrLast s tenant claimId kind target) :=
  decidable_of_iff ((∀ row ∈ claimHistory tenant claimId s.db, ¬ (row.statusKind = kind ∧ row.status = target)) ∨
    ((claimHistory tenant claimId s.db).getLast?.any fun row => row.statusKind = kind ∧ row.status = target) = true) (by
      rw [NewOrLast, Option.any_eq_true]
      simp only [decide_eq_true_eq])

instance (s : Session Books) (tenant claimId : Uuid) (kind : StatusKind) (target : ClaimStatus) :
    Decidable (Follows s tenant claimId kind target) :=
  decidable_of_iff (((s.db.claims.get? (tenant, claimId)).any fun claim => claim.status kind = target) = true ∧
    ((claimHistory tenant claimId s.db).getLast?.any fun row => row.statusKind = kind ∧ row.status = target) = true) (by
      rw [Follows, Option.any_eq_true, Option.any_eq_true]
      simp only [decide_eq_true_eq])

theorem NewlyRecorded.follows {tenant claimId : Uuid} {kind : StatusKind} {target : ClaimStatus} {claim result : DemoClaim}
    (found : s.db.claims.get? (tenant, claimId) = some claim)
    (new : NewlyRecorded s tenant claimId kind target claim result t) : Follows t tenant claimId kind target := by
  obtain ⟨row, row_tenant, row_claim, row_kind, row_status, observations⟩ := new.observed
  constructor
  · refine ⟨movedClaim claim kind target, ?_, ?_⟩
    · have same : (movedClaim claim kind target).key = (tenant, claimId) := by
        rw [← Table.key_of_get? found]
        cases kind <;> rfl
      rw [new.claims, ← same]
      exact Table.get?_put_self _ _
    · cases kind <;> rfl
  · refine ⟨row, ?_, row_kind, row_status⟩
    rw [claimHistory, observations, List.filter_append]
    simp [row_tenant, row_claim]

theorem Reported.shows_last (reported : Reported s) {tenant claimId : Uuid} {kind : StatusKind} {target : ClaimStatus}
    {claim : DemoClaim} (found : s.db.claims.get? (tenant, claimId) = some claim) {row : ClaimStatusObservation}
    (last : (claimHistory tenant claimId s.db).getLast? = some row) (row_kind : row.statusKind = kind)
    (row_status : row.status = target) : claim.status kind = target := by
  have named : claim.tenantId = tenant ∧ claim.id = claimId := by simpa [DemoClaim.key] using Table.key_of_get? found
  obtain ⟨before, split⟩ := List.getLast?_eq_some_iff.mp last
  rw [reported.shown claim (Table.mem_of_get? found), named.1, named.2, split, latestStatus_append, if_pos row_kind, row_status]

/-- In every history of the claims, an update that returns is what the claim shows and its history ends with, exactly
where its status is new to the history or the last change of it: a status that comes back is taken for a replay. -/
theorem update_followed_iff (env : Env) (before : List ClaimCall) (context : TenantContext) (claimId : Uuid)
    (statusKind status : String) (expectedVersion : Int) {answer : Option (DemoClaim × Bool)} {s t : Session Books}
    (reached : s = final (claimStep env) newBooks before)
    (returned : claimStep env (.record context claimId statusKind status expectedVersion) s = (.ok answer, t)) :
    ∃ kind target, spelledStatus statusKind status = some (kind, target) ∧
      (Follows t context.tenantId claimId kind target ↔ NewOrLast s context.tenantId claimId kind target) := by
  simp only [claimStep, performClaim, bind_eq_ok, pure_eq_ok] at returned
  obtain ⟨⟨result, replayed⟩, _, ran, -, rfl⟩ := returned
  obtain ⟨kind, target, claim, spelled, found, replay | new⟩ := recordDemoClaimStatus_ok ran
  -- a replay moves nothing, so the status shows only if it was the last one
  · refine ⟨kind, target, spelled, ?_⟩
    rw [replay.unchanged]
    constructor
    · exact fun follows => .inr follows.2
    · rintro (unrecorded | ⟨row, last, row_kind, row_status⟩)
      · obtain ⟨row, member, same⟩ := replay.recorded
        exact absurd same (unrecorded row member)
      · have reported : Reported s := reached ▸ reported_run before
        exact ⟨⟨claim, found, reported.shows_last found last row_kind row_status⟩, row, last, row_kind, row_status⟩
  · exact ⟨kind, target, spelled, fun _ => .inl new.unrecorded, fun _ => new.follows found⟩

/-- A claim is approved by the consumer and then rejected. -/
def reversedClaim : List ClaimCall :=
  [.elsewhere (Txn.write fun _ => deskStore), .openClaim deskMaster 72 "REFUND" 400 "claim-1",
   .record deskMaster 0 "consumer" "APPROVED" 1, .record deskMaster 0 "consumer" "REJECTED" 2]

def reversedAnswer (consumer : ClaimStatus) (version : Nat) : DemoClaim where
  id := 0
  tenantId := 70
  channelOrderId := 72
  claimType := "REFUND"
  amountMinor := 400
  consumerStatus := consumer
  channelStatus := .opened
  supplierStatus := .opened
  idempotencyKey := "claim-1"
  createdAt := .utc 0
  version := version

theorem update_followed_iff_new :
    Follows (claimStep deskEnv (.record deskMaster 0 "consumer" "CLOSED" 3) (final (claimStep deskEnv) newBooks reversedClaim)).2
      70 0 .consumer .closed := by
  have returned : (claimStep deskEnv (.record deskMaster 0 "consumer" "CLOSED" 3)
      (final (claimStep deskEnv) newBooks reversedClaim)).1 = .ok (some (reversedAnswer .closed 4, false)) := by decide +kernel
  obtain ⟨kind, target, spelled, followed⟩ := update_followed_iff deskEnv reversedClaim deskMaster 0 "consumer" "CLOSED" 3
    rfl (Prod.ext returned rfl)
  cases spelled
  exact followed.mpr (by decide +kernel)

/-- The second approval is answered as a replay, and the claim stays rejected. -/
theorem returning_status_dropped :
    (claimStep deskEnv (.record deskMaster 0 "consumer" "APPROVED" 3)
        (final (claimStep deskEnv) newBooks reversedClaim)).1 = .ok (some (reversedAnswer .rejected 3, true)) ∧
      ¬ Follows (claimStep deskEnv (.record deskMaster 0 "consumer" "APPROVED" 3)
        (final (claimStep deskEnv) newBooks reversedClaim)).2 70 0 .consumer .approved :=
  ⟨by decide +kernel, by decide +kernel⟩

end AiStore.Aftersales
