import AiStore.Aftersales.Records
import AiStore.Library.Runs

/-! Claims of customers, and the statuses that each party reports of them. -/

set_option autoImplicit false

namespace AiStore.Aftersales

open Library (Session Table Txn final)
open Library.Txn Failure Repository Service

/-! ## Repository -/

section

variable (tenant : Uuid)

def saveClaim (value : DemoClaim) : BookOp (DemoClaim × Bool) := do
  let claims ← query Books.claims
  match claims.rows.find? fun row => row.tenantId = value.tenantId ∧ row.idempotencyKey = value.idempotencyKey with
  | some prior =>
    ensure ((prior.channelOrderId, prior.claimType, prior.amountMinor) =
        (value.channelOrderId, value.claimType, value.amountMinor)) (conflictError "claim idempotency key reused")
    pure (prior, true)
  | none =>
    write fun books => { books with claims := books.claims.put value }
    pure (value, false)

def getClaim (claim : Uuid) : BookOp DemoClaim := do
  fetch (notFoundError "claim not found") (← query fun books => books.claims.get? (tenant, claim))

def updateClaim (value : DemoClaim) (expectedVersion : Int) : BookOp Unit := do
  let current ← getClaim value.tenantId value.id
  ensure (current.version = expectedVersion ∧ value.version = expectedVersion + 1) (conflictError "claim version conflict")
  write fun books => { books with claims := books.claims.put value }

/-- The recorded statuses of a claim, in their order. -/
def claimHistory (claim : Uuid) (books : Books) : List ClaimStatusObservation :=
  books.claimStatusObservations.filter fun row => row.tenantId = tenant ∧ row.claimId = claim

def claimObservationFor (claim : Uuid) (kind : StatusKind) (status : ClaimStatus) :
    BookOp (Option ClaimStatusObservation) :=
  query fun books => (claimHistory tenant claim books).find? fun row => row.statusKind = kind ∧ row.status = status

def saveClaimObservation (value : ClaimStatusObservation) : BookOp ClaimStatusObservation := do
  match ← claimObservationFor value.tenantId value.claimId value.statusKind value.status with
  | some prior =>
    ensure (prior.responseDigest = value.responseDigest) (conflictError "claim status reused with different content")
    pure prior
  | none =>
    write fun books => { books with claimStatusObservations := books.claimStatusObservations ++ [value] }
    pure value

end

/-! ## Operations -/

variable (env : Env)

/-- `[A-Za-z0-9][A-Za-z0-9_.-]{0,254}` of a claim type, and a bounded key. -/
def ClaimIntake (claimType : String) (amountMinor : Int) (idempotencyKey : String) : Prop :=
  opaqueIdentifier claimType = true ∧ 0 ≤ amountMinor ∧ ¬ blank idempotencyKey ∧ idempotencyKey.length ≤ 255

instance (claimType : String) (amountMinor : Int) (idempotencyKey : String) :
    Decidable (ClaimIntake claimType amountMinor idempotencyKey) := by
  unfold ClaimIntake
  exact inferInstance

def openDemoClaim (context : TenantContext) (orderId : Uuid) (claimType : String) (amountMinor : Int)
    (idempotencyKey : String) : BookOp (DemoClaim × Bool) := do
  inStore (require context .tenantAdmin)
  ensure (ClaimIntake claimType amountMinor idempotencyKey) (conflictError "invalid claim intake")
  transaction do
    let order ← inStore (getChannelOrder context.tenantId orderId)
    ensure (amountMinor ≤ order.totalMinor) (conflictError "claim amount exceeds order total")
    let now ← inStore (now env)
    let id ← freshUuid
    let (claim, replay) ← saveClaim {
      id := id
      tenantId := context.tenantId
      channelOrderId := order.id
      claimType := claimType
      amountMinor := amountMinor
      consumerStatus := .opened
      channelStatus := .opened
      supplierStatus := .opened
      idempotencyKey := idempotencyKey
      createdAt := now }
    if replay then pure (claim, true)
    else do
      inStore (auditBy env context "claim.opened" claim.id "succeeded" [("order_id", .uuid order.id),
        ("claim_type", .text claimType), ("amount_minor", .int amountMinor)])
      inStore (publish context.tenantId "claim.opened" claim.id [("claim_id", .uuid claim.id), ("order_id", .uuid order.id)]
        (.claimOpened claim.id) now)
      pure (claim, false)

/-- The claim behind a status that was not recorded before. -/
def movedClaim (claim : DemoClaim) (kind : StatusKind) (target : ClaimStatus) : DemoClaim :=
  { claim.setStatus kind target with version := claim.version + 1 }

/-- The kind and the status that a caller spells. -/
def spelledStatus (statusKind status : String) : Option (StatusKind × ClaimStatus) := do
  let kind ← StatusKind.ofValue statusKind
  let target ← ClaimStatus.ofValue status
  pure (kind, target)

def recordDemoClaimStatus (context : TenantContext) (claimId : Uuid) (statusKind status : String)
    (expectedVersion : Int) : BookOp (DemoClaim × Bool) := do
  inStore (require context .tenantAdmin)
  let (kind, target) ← fetch (conflictError "invalid claim status transition") (spelledStatus statusKind status)
  transaction do
    let claim ← getClaim context.tenantId claimId
    match ← claimObservationFor context.tenantId claim.id kind target with
    | some _ => pure (claim, true)
    | none =>
      ensure (claim.version = expectedVersion) (conflictError "claim version conflict")
      let observed ← inStore (now env)
      let digest := env.digest (.dict [("status_kind", .text statusKind), ("status", .text status)])
      let id ← freshUuid
      let _ ← saveClaimObservation {
        id := id
        tenantId := context.tenantId
        claimId := claim.id
        statusKind := kind
        status := target
        observedAt := observed
        responseDigest := digest }
      updateClaim (movedClaim claim kind target) expectedVersion
      let metadata : Mapping :=
        [("status_kind", .text statusKind), ("status", .text status), ("response_digest", .text digest)]
      inStore (auditBy env context "claim.status_observed" claim.id "succeeded" metadata)
      inStore (publish context.tenantId "claim.status_observed" claim.id (("claim_id", .uuid claim.id) :: metadata)
        (.claimStatus claim.id statusKind status) observed)
      pure (movedClaim claim kind target, false)

end AiStore.Aftersales
