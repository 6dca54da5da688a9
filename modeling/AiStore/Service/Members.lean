import AiStore.Service.Core

/-! Tenants and their members. -/

set_option autoImplicit false

namespace AiStore.Service

open Library.Txn Failure Repository

variable (env : Env)

def bootstrapTenant (legalName masterEmail : String) : Op TenantContext := transaction do
  let now ← now env
  let tenantId ← freshUuid
  let userId ← freshUuid
  addTenant { id := tenantId, legalName := legalName, createdAt := now }
  addUser { id := userId, email := env.lower (strip masterEmail), createdAt := now }
  let membership : Membership := { tenantId := tenantId, userId := userId, roles := [.master] }
  saveMembership membership
  audit env tenantId (.uuid userId) "tenant.bootstrap" (.uuid tenantId) "succeeded" []
  pure ⟨tenantId, userId, membership.version⟩

/-- The `roles` entry of an audit row. -/
def rolesMetadata (roles : List Role) : Mapping :=
  [("roles", .list (((roles.map Role.value).insertionSort (· ≤ ·)).map .text))]

def addMember (context : TenantContext) (email : String) (roles : List Role) : Op TenantContext := transaction do
  require context .tenantAdmin
  let roleSet := roles.dedup
  ensure (roleSet ≠ [] ∧ .master ∉ roleSet) (conflictError "delegated member requires non-master role(s)")
  let active := (← tenantMemberships context.tenantId).filter (·.active)
  ensure (active.length < 3) (conflictError "a tenant supports one master plus two active members")
  let normalized := env.lower (strip email)
  let userId ← match ← findUserByEmail normalized with
    | some user => pure user.id
    | none => do
      let id ← freshUuid
      let now ← now env
      addUser { id := id, email := normalized, createdAt := now }
      pure id
  let version := (← findMembership context.tenantId userId).elim 1 (·.version + 1)
  saveMembership { tenantId := context.tenantId, userId := userId, roles := roleSet, version := version }
  auditBy env context "membership.add" userId "succeeded" (rolesMetadata roleSet)
  pure ⟨context.tenantId, userId, version⟩

def changeMemberRoles (context : TenantContext) (userId : Uuid) (roles : List Role) : Op Unit := transaction do
  require context .tenantAdmin
  let membership ← getMembership context.tenantId userId
  ensure (.master ∉ membership.roles) (conflictError "master role cannot be delegated or changed")
  let roleSet := roles.dedup
  ensure (roleSet ≠ [] ∧ .master ∉ roleSet) (conflictError "invalid delegated roles")
  saveMembership { membership with roles := roleSet, version := membership.version + 1 }
  auditBy env context "membership.roles_changed" userId "succeeded" (rolesMetadata roleSet)

def revokeMember (context : TenantContext) (userId : Uuid) : Op Unit := transaction do
  require context .tenantAdmin
  let membership ← getMembership context.tenantId userId
  ensure (.master ∉ membership.roles) (conflictError "master membership cannot be revoked")
  saveMembership { membership with active := false, version := membership.version + 1 }
  auditBy env context "membership.revoke" userId "succeeded" []

variable {env}

/-- A new tenant changes the tables of tenants and members and the audit trail only. -/
theorem bootstrapTenant_ok {legalName masterEmail : String} {context : TenantContext} {s t : Library.Session Store}
    (ran : (bootstrapTenant env legalName masterEmail).run s = (.ok context, t)) :
    ∃ tenants users memberships auditEvents, t.db = { s.db with
      tenants := tenants, users := users, memberships := memberships, auditEvents := auditEvents } := by
  rw [bootstrapTenant, transaction_eq_ok] at ran
  simp only [bind_eq_ok, now_eq_ok, freshUuid_eq_ok, addTenant, addUser, findUserByEmail, query_eq_ok, ensure_eq_ok,
    write_eq_ok, saveMembership, audit_eq_ok, pure_eq_ok] at ran
  obtain ⟨_, _, ⟨rfl, rfl⟩, _, _, ⟨rfl, rfl⟩, _, _, ⟨rfl, rfl⟩, _, _, rfl, _, _, ⟨_, _, ⟨-, rfl⟩, _, _, ⟨-, rfl⟩, rfl⟩, _, _,
    rfl, _, _, rfl, -, rfl⟩ := ran
  exact ⟨_, _, _, _, rfl⟩

theorem keeps_bootstrapTenant {υ : Type} {view : Store → υ} (unread : ∀ db tenants users memberships events,
      view { db with tenants := tenants, users := users, memberships := memberships, auditEvents := events } = view db)
    {legalName masterEmail : String} : Keeps view (bootstrapTenant env legalName masterEmail) := by
  apply keeps_transaction
  intro s result t ran
  obtain ⟨_, _, _, _, written⟩ := bootstrapTenant_ok ((transaction_eq_ok _ _ _ _).mpr ran)
  rw [written]
  exact unread _ _ _ _ _

end AiStore.Service
