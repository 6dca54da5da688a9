import Mathlib.Data.List.Induction
import AiStore.Library.Runs
import AiStore.Service.BrowserAuth
import AiStore.Service.Members

/-! Members over whole runs: who leads a tenant, how many it has, and which credentials still count. -/

set_option autoImplicit false

namespace AiStore.Service

open Library (Session Table final)
open Library.Txn Failure Repository

variable {env : BrowserEnv} {s t : Session Store} {context : TenantContext}

/-! ## What an operation does to the members -/

/-- The tables of tenants, users, members and their sessions. -/
def memberTables (db : Store) := (db.tenants, db.users, db.memberships, db.browserSessions)

/-- The members of a tenant that are active. -/
def activeMembers (db : Store) (tenant : Uuid) : Nat :=
  db.memberships.rows.countP fun row => row.tenantId = tenant ∧ row.active

/-- A new tenant with its master. -/
structure Founded (env : Env) (s t : Session Store) (legalName email : String) (result : TenantContext) : Prop where
  result_eq : result = ⟨s.uuids, s.uuids + 1, 1⟩
  tenants : ∃ row, row.id = s.uuids ∧ t.db.tenants = s.db.tenants.put row
  users : ∃ row, row.id = s.uuids + 1 ∧ t.db.users = s.db.users.put row
  memberships : t.db.memberships =
    s.db.memberships.put { tenantId := s.uuids, userId := s.uuids + 1, roles := [.master] }
  sessions : t.db.browserSessions = s.db.browserSessions
  uuids : s.uuids + 2 ≤ t.uuids

/-- A member who has joined, for the first time or again. -/
structure Joined (env : Env) (context : TenantContext) (s t : Session Store) (email : String) (row : Membership) :
    Prop where
  authorized : Authorized s.db context .tenantAdmin
  tenant : row.tenantId = context.tenantId
  active : row.active = true
  delegated : Role.master ∉ row.roles
  room : activeMembers s.db context.tenantId < 3
  version : row.version = (s.db.memberships.get? row.key).elim 1 (·.version + 1)
  tenants : t.db.tenants = s.db.tenants
  memberships : t.db.memberships = s.db.memberships.put row
  sessions : t.db.browserSessions = s.db.browserSessions
  user : (∃ user, s.db.users.rows.find? (·.email = env.lower (strip email)) = some user ∧ row.userId = user.id ∧
      t.db.users = s.db.users) ∨
    row.userId = s.uuids ∧ s.uuids < t.uuids ∧ ∃ user, user.id = s.uuids ∧ t.db.users = s.db.users.put user

/-- A member who has other roles now, or is revoked. -/
structure Changed (s t : Session Store) (old row : Membership) : Prop where
  found : s.db.memberships.get? row.key = some old
  delegated : Role.master ∉ old.roles
  active : row.active = true → old.active = true
  version : row.version = old.version + 1
  tenants : t.db.tenants = s.db.tenants
  users : t.db.users = s.db.users
  memberships : t.db.memberships = s.db.memberships.put row
  sessions : t.db.browserSessions = s.db.browserSessions

section

variable {env : Env}

theorem bootstrapTenant_founded {legalName email : String} {result : TenantContext}
    (ran : (bootstrapTenant env legalName email).run s = (.ok result, t)) :
    Founded env s t legalName email result := by
  rw [bootstrapTenant, transaction_eq_ok] at ran
  simp only [bind_eq_ok, now_eq_ok, freshUuid_eq_ok, addTenant, addUser, findUserByEmail, query_eq_ok, ensure_eq_ok,
    write_eq_ok, saveMembership, audit_eq_ok, pure_eq_ok] at ran
  obtain ⟨_, _, ⟨rfl, rfl⟩, _, _, ⟨rfl, rfl⟩, _, _, ⟨rfl, rfl⟩, _, _, rfl, _, _, ⟨_, _, ⟨-, rfl⟩, _, _, ⟨-, rfl⟩, rfl⟩, _, _,
    rfl, _, _, rfl, rfl, rfl⟩ := ran
  exact ⟨rfl, ⟨_, rfl, rfl⟩, ⟨_, rfl, rfl⟩, rfl, rfl, Nat.le_add_right _ 2⟩

theorem addMember_joined {email : String} {roles : List Role} {result : TenantContext}
    (ran : (addMember env context email roles).run s = (.ok result, t)) :
    ∃ row, result = ⟨context.tenantId, row.userId, row.version⟩ ∧ Joined env context s t email row := by
  rw [addMember, transaction_eq_ok] at ran
  simp only [bind_eq_ok, require_eq_ok, ensure_eq_ok, tenantMemberships, findUserByEmail, query_eq_ok] at ran
  obtain ⟨_, _, ⟨authorized, rfl⟩, _, _, ⟨⟨-, delegated⟩, rfl⟩, members, _, ⟨rfl, rfl⟩, _, _, ⟨room, rfl⟩, found, start,
    ⟨rfl, rfl⟩, ran⟩ := ran
  have room : activeMembers start.db context.tenantId < 3 := by
    rw [List.filter_filter, ← List.countP_eq_length_filter] at room
    refine Nat.lt_of_le_of_lt (Nat.le_of_eq ?_) room
    apply List.countP_congr
    intro row _
    simp [and_comm]
  split at ran
  · next user user_found =>
    simp only [bind_eq_ok, findMembership, query_eq_ok, saveMembership, write_eq_ok, auditBy_eq_ok, pure_eq_ok] at ran
    obtain ⟨_, _, ⟨rfl, rfl⟩, _, _, ⟨rfl, rfl⟩, _, _, rfl, _, _, rfl, rfl, rfl⟩ := ran
    exact ⟨_, rfl, authorized, rfl, rfl, delegated, room, rfl, rfl, rfl, rfl, .inl ⟨user, user_found, rfl, rfl⟩⟩
  · simp only [bind_eq_ok, freshUuid_eq_ok, now_eq_ok, addUser, findUserByEmail, ensure_eq_ok, findMembership,
      query_eq_ok, saveMembership, write_eq_ok, auditBy_eq_ok, pure_eq_ok] at ran
    obtain ⟨_, _, ⟨rfl, rfl⟩, _, _, ⟨rfl, rfl⟩, _, _, ⟨_, _, ⟨-, rfl⟩, _, _, ⟨-, rfl⟩, rfl⟩, _, _, ⟨rfl, rfl⟩, _, _, ⟨rfl, rfl⟩, _, _,
      rfl, _, _, rfl, rfl, rfl⟩ := ran
    refine ⟨_, rfl, authorized, rfl, rfl, delegated, room, rfl, rfl, rfl, rfl, .inr ⟨rfl, ?_, _, rfl, rfl⟩⟩
    exact Nat.lt_of_lt_of_le (Nat.lt_succ_self _) (Nat.le_add_right _ 2)

theorem changeMemberRoles_changed {userId : Uuid} {roles : List Role} {u : Unit}
    (ran : (changeMemberRoles env context userId roles).run s = (.ok u, t)) : ∃ old row, Changed s t old row := by
  rw [changeMemberRoles, transaction_eq_ok] at ran
  simp only [bind_eq_ok, require_eq_ok, ensure_eq_ok, getMembership_eq_ok, saveMembership, write_eq_ok,
    auditBy_eq_ok] at ran
  obtain ⟨_, _, ⟨-, rfl⟩, old, _, ⟨found, rfl⟩, _, _, ⟨delegated, rfl⟩, _, start, ⟨-, rfl⟩, _, _, rfl, rfl⟩ := ran
  have named := Table.key_of_get? found
  refine ⟨old, { old with roles := roles.dedup, version := old.version + 1 }, ?_, delegated, id, rfl, rfl, rfl, rfl, rfl⟩
  exact (congrArg start.db.memberships.get? named).trans found

theorem revokeMember_changed {userId : Uuid} {u : Unit}
    (ran : (revokeMember env context userId).run s = (.ok u, t)) : ∃ old row, Changed s t old row := by
  rw [revokeMember, transaction_eq_ok] at ran
  simp only [bind_eq_ok, require_eq_ok, ensure_eq_ok, getMembership_eq_ok, saveMembership, write_eq_ok,
    auditBy_eq_ok] at ran
  obtain ⟨_, _, ⟨-, rfl⟩, old, _, ⟨found, rfl⟩, _, start, ⟨delegated, rfl⟩, _, _, rfl, rfl⟩ := ran
  have named := Table.key_of_get? found
  have inactive : false = true → old.active = true := fun active => absurd active Bool.false_ne_true
  refine ⟨old, { old with active := false, version := old.version + 1 }, ?_, delegated, inactive, rfl, rfl, rfl, rfl, rfl⟩
  exact (congrArg start.db.memberships.get? named).trans found

end

/-- A browser session that has been issued. -/
structure SessionIssued (env : BrowserEnv) (context : TenantContext) (s t : Session Store) (issued : Issued)
    (session : BrowserSession) : Prop where
  member : ∃ row, s.db.memberships.get? (context.tenantId, context.userId) = some row ∧
    session.membershipVersion = row.version
  digest : session.tokenDigest = env.hexdigest issued.token
  tenant : session.tenantId = context.tenantId
  user : session.userId = context.userId
  fresh : s.db.browserSessions.get? session.tokenDigest = none
  tenants : t.db.tenants = s.db.tenants
  users : t.db.users = s.db.users
  memberships : t.db.memberships = s.db.memberships
  sessions : t.db.browserSessions = s.db.browserSessions.put session

theorem tokenDigest_eq_ok {token digest : String} :
    (tokenDigest env token).run s = (.ok digest, t) ↔
      browserToken token = true ∧ digest = env.hexdigest token ∧ t = s := by
  simp [tokenDigest, and_assoc]

theorem issueBrowserSession_issued {identityAssertionRef : String} {ttl : Int} {issued : Issued}
    (ran : (issueBrowserSession env context identityAssertionRef ttl).run s = (.ok issued, t)) :
    ∃ session, SessionIssued env context s t issued session := by
  simp only [issueBrowserSession, bind_eq_ok, ensure_eq_ok, membership_eq_ok, now_eq_ok, freshUuid_eq_ok,
    transaction_eq_ok, tokenDigest_eq_ok, saveBrowserSession, query_eq_ok, write_eq_ok, pure_eq_ok] at ran
  obtain ⟨_, _, ⟨-, rfl⟩, row, _, ⟨found, -, -, rfl⟩, _, _, ⟨rfl, rfl⟩, draw, _, ⟨rfl, rfl⟩, _, _, ⟨_, _, ⟨-, -, -, rfl⟩, _, _,
    ⟨-, rfl, rfl⟩, _, _, ⟨rfl, rfl⟩, _, _, ⟨fresh, rfl⟩, rfl⟩, rfl, rfl⟩ := ran
  exact ⟨_, ⟨row, found, rfl⟩, rfl, rfl, rfl, fresh, rfl, rfl, rfl, rfl⟩

/-- A context that authentication returns is the one the session keeps, and still counts. -/
theorem authenticateBrowserSession_ok {token : String} {result : TenantContext}
    (ran : (authenticateBrowserSession env token).run s = (.ok result, t)) :
    t.db = s.db ∧ ∃ session row, s.db.browserSessions.get? (env.hexdigest token) = some session ∧
      result = ⟨session.tenantId, session.userId, session.membershipVersion⟩ ∧
      s.db.memberships.get? (result.tenantId, result.userId) = some row ∧ row.version = result.membershipVersion := by
  simp only [authenticateBrowserSession, bind_eq_ok, tokenDigest_eq_ok, getBrowserSession, query_eq_ok, fetch_eq_ok,
    now_eq_ok, ensure_eq_ok, membership_eq_ok, pure_eq_ok] at ran
  obtain ⟨_, _, ⟨-, rfl, rfl⟩, _, _, ⟨rfl, rfl⟩, session, _, ⟨found, rfl⟩, _, _, ⟨rfl, rfl⟩, _, _, ⟨-, rfl⟩, row, _,
    ⟨held, -, version, rfl⟩, rfl, rfl⟩ := ran
  exact ⟨rfl, session, row, found, rfl, held, version⟩

theorem keeps_authenticateBrowserSession {υ : Type} {view : Store → υ} {token : String} :
    Keeps view (authenticateBrowserSession env token) :=
  ((keeps_ensure _ _).bind fun _ => keeps_pure _).bind fun _ => (keeps_query _).bind fun _ => (keeps_fetch _ _).bind
    fun _ => keeps_now.bind fun _ => (keeps_ensure _ _).bind fun _ => keeps_membership.bind fun _ => keeps_pure _

/-! ## Calls -/

/-- What a call hands out to be shown again later. -/
inductive Credential where
  | context (context : TenantContext)
  | session (token : String)
  deriving DecidableEq

/-- A call on members or their sessions, or any operation that leaves them alone. -/
inductive MemberCall (env : BrowserEnv) where
  | bootstrapTenant (legalName masterEmail : String)
  | addMember (context : TenantContext) (email : String) (roles : List Role)
  | changeMemberRoles (context : TenantContext) (userId : Uuid) (roles : List Role)
  | revokeMember (context : TenantContext) (userId : Uuid)
  | contextFor (tenant user : Uuid)
  | issueBrowserSession (context : TenantContext) (identityAssertionRef : String) (ttl : Int)
  | authenticateBrowserSession (token : String)
  | elsewhere (operation : Op Unit) (keeps : Keeps memberTables operation)

namespace Members

def perform : MemberCall env → Op (Option Credential)
  | .bootstrapTenant legalName masterEmail => do
      let context ← Service.bootstrapTenant env.toEnv legalName masterEmail
      pure (some (.context context))
  | .addMember context email roles => do
      let joined ← Service.addMember env.toEnv context email roles
      pure (some (.context joined))
  | .changeMemberRoles context userId roles => do
      Service.changeMemberRoles env.toEnv context userId roles
      pure none
  | .revokeMember context userId => do
      Service.revokeMember env.toEnv context userId
      pure none
  | .contextFor tenant user => do
      let context ← Service.contextFor tenant user
      pure (some (.context context))
  | .issueBrowserSession context identityAssertionRef ttl => do
      let issued ← Service.issueBrowserSession env context identityAssertionRef ttl
      pure (some (.session issued.token))
  | .authenticateBrowserSession token => do
      let context ← Service.authenticateBrowserSession env token
      pure (some (.context context))
  | .elsewhere operation _ => do
      operation
      pure none

def step (env : BrowserEnv) (call : MemberCall env) (s : Session Store) :
    Except Failure (Option Credential) × Session Store := (perform call).run s

end Members

/-- What a call makes of the members and their sessions. -/
inductive Enrolment (s t : Session Store) : MemberCall env → Prop where
  | kept {call : MemberCall env} : memberTables t.db = memberTables s.db → Enrolment s t call
  | founded {legalName email : String} {result : TenantContext} : Founded env.toEnv s t legalName email result →
      Enrolment s t (.bootstrapTenant legalName email)
  | joined {context : TenantContext} {email : String} {roles : List Role} {row : Membership} :
      Joined env.toEnv context s t email row → Enrolment s t (.addMember context email roles)
  | changed {call : MemberCall env} {old row : Membership} : Changed s t old row → Enrolment s t call
  | issued {context : TenantContext} {identityAssertionRef : String} {ttl : Int} {issued : Issued}
      {session : BrowserSession} : SessionIssued env context s t issued session →
      Enrolment s t (.issueBrowserSession context identityAssertionRef ttl)

/-- The session behind a call that only passes its result on. -/
theorem session_passed {α : Type} {operation : Op α} {pass : α → Option Credential} :
    ((do let value ← operation; pure (pass value)).run s).2 = (operation.run s).2 := by
  rw [run_bind]
  rcases operation.run s with ⟨_ | _, t⟩ <;> rfl

/-- Nothing is raised behind the operation. -/
theorem unwinds_passed {α β υ : Type} {view : Store → υ} {operation : Op α} {pass : α → β}
    (unwinds : Unwinds view operation) : Unwinds view (do let value ← operation; pure (pass value)) := by
  intro s why t raised
  rw [run_bind] at raised
  rcases ran : operation.run s with ⟨_ | value, middle⟩ <;> rw [ran] at raised
  · cases raised
    exact unwinds s _ _ ran
  · cases raised

theorem step_enrolment (call : MemberCall env) (s : Session Store) :
    Enrolment s (Members.step env call s).2 call := by
  cases call with
  | bootstrapTenant legalName email =>
    rw [Members.step, Members.perform, session_passed]
    rcases ran : (bootstrapTenant env.toEnv legalName email).run s with ⟨why | result, t⟩
    · exact .kept (congrArg memberTables (transaction_error_db ran))
    · exact .founded (bootstrapTenant_founded ran)
  | addMember context email roles =>
    rw [Members.step, Members.perform, session_passed]
    rcases ran : (addMember env.toEnv context email roles).run s with ⟨why | result, t⟩
    · exact .kept (congrArg memberTables (transaction_error_db ran))
    · obtain ⟨row, -, joined⟩ := addMember_joined ran
      exact .joined joined
  | changeMemberRoles context userId roles =>
    rw [Members.step, Members.perform, session_passed]
    rcases ran : (changeMemberRoles env.toEnv context userId roles).run s with ⟨why | result, t⟩
    · exact .kept (congrArg memberTables (transaction_error_db ran))
    · obtain ⟨old, row, changed⟩ := changeMemberRoles_changed ran
      exact .changed changed
  | revokeMember context userId =>
    rw [Members.step, Members.perform, session_passed]
    rcases ran : (revokeMember env.toEnv context userId).run s with ⟨why | result, t⟩
    · exact .kept (congrArg memberTables (transaction_error_db ran))
    · obtain ⟨old, row, changed⟩ := revokeMember_changed ran
      exact .changed changed
  | contextFor tenant user =>
    rw [Members.step, Members.perform, session_passed]
    have keeps : Keeps memberTables (contextFor tenant user) :=
      (keeps_getMembership _).bind fun _ => (keeps_ensure _ _).bind fun _ => keeps_pure _
    exact .kept (keeps s)
  | issueBrowserSession context identityAssertionRef ttl =>
    rw [Members.step, Members.perform, session_passed]
    have unwinds : Unwinds memberTables (issueBrowserSession env context identityAssertionRef ttl) := by
      apply Unwinds.bind (keeps_ensure _ _)
      intro _
      apply Unwinds.bind keeps_membership
      intro _
      apply Unwinds.bind keeps_now
      intro _
      apply Unwinds.bind keeps_freshUuid
      intro _
      exact unwinds_passed (unwinds_transaction _)
    rcases ran : (issueBrowserSession env context identityAssertionRef ttl).run s with ⟨why | result, t⟩
    · exact .kept (unwinds s why t ran)
    · obtain ⟨session, issued⟩ := issueBrowserSession_issued ran
      exact .issued issued
  | authenticateBrowserSession token =>
    rw [Members.step, Members.perform, session_passed]
    exact .kept (keeps_authenticateBrowserSession s)
  | elsewhere operation keeps =>
    rw [Members.step, Members.perform, session_passed]
    exact .kept (keeps s)

/-! ## Masters -/

/-- Identifiers are drawn once, every tenant has an active master and none more than three active members. -/
structure Staffed (s : Session Store) : Prop where
  users : ∀ row ∈ s.db.users.rows, row.id < s.uuids
  members : ∀ row ∈ s.db.memberships.rows, row.tenantId < s.uuids ∧ row.userId < s.uuids
  capped : ∀ tenant, activeMembers s.db tenant ≤ 3

/-- A tenant has an active member with the role of the master. -/
def Led (s : Session Store) : Prop :=
  ∀ tenant ∈ s.db.tenants.rows, ∃ row ∈ s.db.memberships.rows, row.tenantId = tenant.id ∧ row.active = true ∧
    Role.master ∈ row.roles

theorem staffed_newSession : Staffed ⟨{}, 0, 0⟩ where
  users _ member := absurd member List.not_mem_nil
  members _ member := absurd member List.not_mem_nil
  capped _ := Nat.zero_le 3

/-- A tenant that is new has no members yet. -/
theorem Staffed.none_yet (staffed : Staffed s) : activeMembers s.db s.uuids = 0 := by
  rw [activeMembers, List.countP_eq_zero]
  intro row member
  have older := (staffed.members row member).1
  simp only [decide_eq_true_eq]
  rintro ⟨same, -⟩
  rw [same] at older
  exact Nat.lt_irrefl _ older

/-- A tenant with room may take in one more. -/
theorem Staffed.capped_put (staffed : Staffed s) {row : Membership} (room : activeMembers s.db row.tenantId < 3)
    (tenant : Uuid) :
    ((s.db.memberships.put row).rows.countP fun other => other.tenantId = tenant ∧ other.active) ≤ 3 := by
  have grown := s.db.memberships.countP_put_le (fun other => other.tenantId = tenant ∧ other.active) row
  by_cases here : row.tenantId = tenant
  · rw [here, activeMembers] at room
    split at grown <;> omega
  · rw [if_neg (by simp [here])] at grown
    exact grown.trans (staffed.capped tenant)

theorem Staffed.step (staffed : Staffed s) {call : MemberCall env} (enrolment : Enrolment s t call)
    (uuids : s.uuids ≤ t.uuids) : Staffed t := by
  have users : ∀ row ∈ s.db.users.rows, row.id < t.uuids :=
    fun row member => Nat.lt_of_lt_of_le (staffed.users row member) uuids
  have members : ∀ row ∈ s.db.memberships.rows, row.tenantId < t.uuids ∧ row.userId < t.uuids := by
    intro row member
    obtain ⟨tenant, user⟩ := staffed.members row member
    exact ⟨Nat.lt_of_lt_of_le tenant uuids, Nat.lt_of_lt_of_le user uuids⟩
  cases enrolment with
  | kept same =>
    simp only [memberTables, Prod.mk.injEq] at same
    refine ⟨?_, ?_, ?_⟩
    · rw [same.2.1]
      exact users
    · rw [same.2.2.1]
      exact members
    · intro tenant
      rw [activeMembers, same.2.2.1]
      exact staffed.capped tenant
  | founded founded =>
    obtain ⟨user, named, written⟩ := founded.users
    refine ⟨?_, ?_, ?_⟩
    · rw [written]
      apply Table.forall_put users
      rw [named]
      exact founded.uuids
    · rw [founded.memberships]
      exact Table.forall_put members ⟨Nat.lt_of_succ_lt founded.uuids, founded.uuids⟩
    · intro tenant
      rw [activeMembers, founded.memberships]
      refine staffed.capped_put ?_ tenant
      change activeMembers s.db s.uuids < 3
      rw [staffed.none_yet]
      decide
  | @joined context email roles row joined =>
    refine ⟨?_, ?_, ?_⟩
    · rcases joined.user with ⟨user, -, -, same⟩ | ⟨-, drawn, user, named, written⟩
      · rw [same]
        exact users
      · rw [written]
        apply Table.forall_put users
        rw [named]
        exact drawn
    · rw [joined.memberships]
      apply Table.forall_put members
      constructor
      · obtain ⟨admin, found, -⟩ := joined.authorized
        have known : admin.tenantId = context.tenantId := congrArg Prod.fst (Table.key_of_get? found)
        rw [joined.tenant, ← known]
        exact (members admin (Table.mem_of_get? found)).1
      · rcases joined.user with ⟨user, found, same, -⟩ | ⟨named, drawn, -⟩
        · rw [same]
          exact users user (List.mem_of_find?_eq_some found)
        · rw [named]
          exact drawn
    · intro tenant
      rw [activeMembers, joined.memberships]
      exact staffed.capped_put (joined.tenant ▸ joined.room) tenant
  | changed changed =>
    have member := Table.mem_of_get? changed.found
    have named := Table.key_of_get? changed.found
    refine ⟨?_, ?_, ?_⟩
    · rw [changed.users]
      exact users
    · rw [changed.memberships]
      obtain ⟨tenant, user⟩ := Prod.mk.inj named
      refine Table.forall_put members ?_
      rw [← tenant, ← user]
      exact members _ member
    · intro tenant
      rw [activeMembers, changed.memberships]
      refine Nat.le_trans (Table.countP_put_of_bound _ _ changed.found ?_) (staffed.capped tenant)
      simp only [decide_eq_true_eq]
      rintro ⟨here, active⟩
      exact ⟨(congrArg Prod.fst named).trans here, changed.active active⟩
  | issued issued =>
    refine ⟨?_, ?_, ?_⟩
    · rw [issued.users]
      exact users
    · rw [issued.memberships]
      exact members
    · intro tenant
      rw [activeMembers, issued.memberships]
      exact staffed.capped tenant

/-- Nobody who leads the tenant is added to it again under another role. -/
def Delegating (s : Session Store) : MemberCall env → Prop
  | .addMember context email _ => ∀ user row, s.db.users.rows.find? (·.email = env.lower (strip email)) = some user →
      s.db.memberships.get? (context.tenantId, user.id) = some row → Role.master ∉ row.roles
  | _ => True

/-- A master keeps leading through the writing of any row but the master's own. -/
theorem Led.put (led : Led s) {row : Membership} (tenants : t.db.tenants = s.db.tenants)
    (memberships : t.db.memberships = s.db.memberships.put row)
    (other : ∀ old, s.db.memberships.get? row.key = some old → Role.master ∉ old.roles) : Led t := by
  intro tenant member
  rw [tenants] at member
  obtain ⟨master, known, of, active, leading⟩ := led tenant member
  refine ⟨master, ?_, of, active, leading⟩
  rw [memberships, Table.mem_put]
  refine .inr ⟨known, ?_⟩
  intro same
  have found := Table.get?_key _ known
  rw [same] at found
  exact other master found leading

theorem Led.step (staffed : Staffed s) (led : Led s) {call : MemberCall env} (enrolment : Enrolment s t call)
    (delegating : Delegating s call) : Led t := by
  cases enrolment with
  | kept same =>
    simp only [memberTables, Prod.mk.injEq] at same
    intro tenant member
    rw [same.1] at member
    rw [same.2.2.1]
    exact led tenant member
  | founded founded =>
    obtain ⟨row, named, written⟩ := founded.tenants
    intro tenant member
    rw [written, Table.mem_put] at member
    rcases member with rfl | ⟨old, -⟩
    · refine ⟨{ tenantId := s.uuids, userId := s.uuids + 1, roles := [.master] }, ?_, named.symm, rfl,
        List.mem_singleton_self _⟩
      rw [founded.memberships, Table.mem_put]
      exact .inl rfl
    · obtain ⟨master, known, of, active, leading⟩ := led tenant old
      refine ⟨master, ?_, of, active, leading⟩
      rw [founded.memberships, Table.mem_put]
      refine .inr ⟨known, ?_⟩
      intro same
      have older := (staffed.members master known).1
      have new : master.tenantId = s.uuids := congrArg Prod.fst same
      rw [new] at older
      exact Nat.lt_irrefl _ older
  | @joined context email roles row joined =>
    apply led.put joined.tenants joined.memberships
    intro old found
    rcases joined.user with ⟨user, user_found, same, -⟩ | ⟨named, -⟩
    · have key : row.key = (context.tenantId, user.id) := Prod.ext joined.tenant same
      rw [key] at found
      exact delegating user old user_found found
    · -- a user who is new is no member yet
      have older := (staffed.members old (Table.mem_of_get? found)).2
      have drawn : old.userId = s.uuids := (congrArg Prod.snd (Table.key_of_get? found)).trans named
      rw [drawn] at older
      exact absurd older (Nat.lt_irrefl _)
  | changed changed =>
    apply led.put changed.tenants changed.memberships
    intro old found
    cases Option.some.inj (changed.found.symm.trans found)
    exact changed.delegated
  | issued issued =>
    intro tenant member
    rw [issued.tenants] at member
    rw [issued.memberships]
    exact led tenant member

theorem run_staffed (calls : List (MemberCall env)) : Staffed (final (Members.step env) ⟨{}, 0, 0⟩ calls) :=
  Library.final_invariant Staffed staffed_newSession fun call _ state staffed =>
    staffed.step (step_enrolment call state) ((Members.perform call).advances state).2

/-- No tenant ever has more than three active members; and in every run that adds nobody a second time who leads
the tenant, every tenant keeps an active master. -/
theorem tenants_led_and_capped (env : BrowserEnv) (calls : List (MemberCall env)) :
    (∀ tenant, activeMembers (final (Members.step env) ⟨{}, 0, 0⟩ calls).db tenant ≤ 3) ∧
      ((∀ before call after, calls = before ++ call :: after →
          Delegating (final (Members.step env) ⟨{}, 0, 0⟩ before) call) →
        Led (final (Members.step env) ⟨{}, 0, 0⟩ calls)) := by
  refine ⟨(run_staffed calls).capped, ?_⟩
  -- on the calls; whoever enrols a member has the roles it hands out, as the run so far shows
  intro delegating
  apply Library.run_induction fun calls => Led (final (Members.step env) ⟨{}, 0, 0⟩ calls)
  · exact fun _ member => absurd member List.not_mem_nil
  · intro before call after whole led
    rw [Library.final_concat]
    exact Led.step (run_staffed before) led (step_enrolment call _) (delegating before call after whole)

/-- A clock that stands still, tokens and digests that are all one text. -/
def plainEnv : BrowserEnv where
  clock _ := .utc 0
  digest _ := "digest"
  lower := id
  token _ := "browser-token-of-a-test-environment"
  hexdigest := id

/-- The first master, when the tenant is founded. -/
def firstMaster : TenantContext := ⟨0, 1, 1⟩

/-- The master adds her own address, as an auditor. -/
def selfDelegation : List (MemberCall plainEnv) :=
  [.bootstrapTenant "Demo" "master@demo.test", .addMember firstMaster "master@demo.test" [.auditor]]

/-- Then nobody leads the tenant. -/
theorem tenant_without_master :
    ∃ tenant ∈ (final (Members.step plainEnv) ⟨{}, 0, 0⟩ selfDelegation).db.tenants.rows,
      ¬ ∃ row ∈ (final (Members.step plainEnv) ⟨{}, 0, 0⟩ selfDelegation).db.memberships.rows,
        row.tenantId = tenant.id ∧ row.active = true ∧ Role.master ∈ row.roles := by
  decide +kernel

/-- A second member is added without harm. -/
def delegation : List (MemberCall plainEnv) :=
  [.bootstrapTenant "Demo" "master@demo.test", .addMember firstMaster "second@demo.test" [.auditor]]

theorem delegation_delegating (before : List (MemberCall plainEnv)) (call : MemberCall plainEnv)
    (after : List (MemberCall plainEnv)) (whole : delegation = before ++ call :: after) :
    Delegating (final (Members.step plainEnv) ⟨{}, 0, 0⟩ before) call := by
  rcases before with _ | ⟨first, _ | ⟨second, rest⟩⟩
  · cases whole
    trivial
  · cases whole
    intro user row found
    have unknown : (final (Members.step plainEnv) ⟨{}, 0, 0⟩
        [.bootstrapTenant "Demo" "master@demo.test"]).db.users.rows.find?
          (·.email = plainEnv.lower (strip "second@demo.test")) = none := by
      decide +kernel
    cases unknown.symm.trans found
  · simp [delegation] at whole

theorem tenants_led_and_capped_delegation :
    Led (final (Members.step plainEnv) ⟨{}, 0, 0⟩ delegation) :=
  (tenants_led_and_capped plainEnv delegation).2 delegation_delegating

/-! ## Credentials -/

/-- Versions of memberships only grow where a membership changes, and sessions stay. -/
structure Onward (s t : Session Store) : Prop where
  members : ∀ key old, s.db.memberships.get? key = some old →
    ∃ new, t.db.memberships.get? key = some new ∧ (new = old ∨ old.version < new.version)
  sessions : ∀ digest session, s.db.browserSessions.get? digest = some session →
    t.db.browserSessions.get? digest = some session

theorem Onward.refl (s : Session Store) : Onward s s where
  members _ old found := ⟨old, found, .inl rfl⟩
  sessions _ _ found := found

theorem Onward.trans {u : Session Store} (first : Onward s t) (second : Onward t u) : Onward s u where
  members key old found := by
    obtain ⟨middle, middle_found, earlier⟩ := first.members key old found
    obtain ⟨new, new_found, later⟩ := second.members key middle middle_found
    refine ⟨new, new_found, ?_⟩
    rcases earlier with rfl | grown
    · exact later
    · rcases later with rfl | more
      · exact .inr grown
      · exact .inr (grown.trans more)
  sessions digest session found := second.sessions digest session (first.sessions digest session found)

/-- A membership is written over an older version of itself, if there is one. -/
theorem versions_put {row : Membership} (memberships : t.db.memberships = s.db.memberships.put row)
    (newer : ∀ old, s.db.memberships.get? row.key = some old → old.version < row.version) (key : Uuid × Uuid)
    (old : Membership) (found : s.db.memberships.get? key = some old) :
    ∃ new, t.db.memberships.get? key = some new ∧ (new = old ∨ old.version < new.version) := by
  rw [memberships]
  by_cases same : row.key = key
  · subst same
    exact ⟨row, Table.get?_put_self _ _, .inr (newer old found)⟩
  · exact ⟨old, (Table.get?_put_of_ne _ same).trans found, .inl rfl⟩

theorem Enrolment.onward (staffed : Staffed s) {call : MemberCall env} (enrolment : Enrolment s t call) : Onward s t := by
  have kept : t.db.browserSessions = s.db.browserSessions → ∀ digest session,
      s.db.browserSessions.get? digest = some session → t.db.browserSessions.get? digest = some session := by
    intro same digest session found
    rw [same]
    exact found
  cases enrolment with
  | kept same =>
    simp only [memberTables, Prod.mk.injEq] at same
    refine ⟨?_, kept same.2.2.2⟩
    intro key old found
    rw [same.2.2.1]
    exact ⟨old, found, .inl rfl⟩
  | founded founded =>
    refine ⟨versions_put founded.memberships ?_, kept founded.sessions⟩
    intro old found
    have older := (staffed.members old (Table.mem_of_get? found)).1
    have new : old.tenantId = s.uuids := congrArg Prod.fst (Table.key_of_get? found)
    rw [new] at older
    exact absurd older (Nat.lt_irrefl _)
  | joined joined =>
    refine ⟨versions_put joined.memberships ?_, kept joined.sessions⟩
    intro old found
    rw [joined.version, found]
    exact Nat.lt_succ_self old.version
  | changed changed =>
    refine ⟨versions_put changed.memberships ?_, kept changed.sessions⟩
    intro old found
    cases Option.some.inj (changed.found.symm.trans found)
    rw [changed.version]
    exact Nat.lt_succ_self _
  | @issued context identityAssertionRef ttl given session issued =>
    constructor
    · intro key old found
      rw [issued.memberships]
      exact ⟨old, found, .inl rfl⟩
    · intro digest other found
      rw [issued.sessions]
      by_cases same : session.tokenDigest = digest
      · have fresh := issued.fresh
        rw [same] at fresh
        cases fresh.symm.trans found
      · exact (Table.get?_put_of_ne _ same).trans found

theorem run_onward (before after : List (MemberCall env)) :
    Onward (final (Members.step env) ⟨{}, 0, 0⟩ before) (final (Members.step env) ⟨{}, 0, 0⟩ (before ++ after)) := by
  induction after using List.reverseRecOn with
  | nil =>
    rw [List.append_nil]
    exact .refl _
  | append_singleton rest call ih =>
    rw [← List.append_assoc, Library.final_concat]
    exact ih.trans ((step_enrolment call _).onward (run_staffed _))

/-- A version that a member of the tenant has had. -/
def Held (s : Session Store) (tenant user : Uuid) (version : Nat) : Prop :=
  ∃ row, s.db.memberships.get? (tenant, user) = some row ∧ version ≤ row.version

theorem Held.onward {tenant user : Uuid} {version : Nat} (held : Held s tenant user version) (onward : Onward s t) :
    Held t tenant user version := by
  obtain ⟨row, found, bound⟩ := held
  obtain ⟨new, new_found, rfl | grown⟩ := onward.members _ _ found
  · exact ⟨new, new_found, bound⟩
  · exact ⟨new, new_found, bound.trans (Nat.le_of_lt grown)⟩

/-- Every session keeps a version that its member has had. -/
def Sound (s : Session Store) : Prop :=
  ∀ session ∈ s.db.browserSessions.rows, Held s session.tenantId session.userId session.membershipVersion

theorem Enrolment.sound (staffed : Staffed s) (sound : Sound s) {call : MemberCall env} (enrolment : Enrolment s t call) :
    Sound t := by
  have onward := enrolment.onward staffed
  have kept : t.db.browserSessions = s.db.browserSessions → Sound t := by
    intro same session member
    rw [same] at member
    exact (sound session member).onward onward
  cases enrolment with
  | kept same =>
    simp only [memberTables, Prod.mk.injEq] at same
    exact kept same.2.2.2
  | founded founded => exact kept founded.sessions
  | joined joined => exact kept joined.sessions
  | changed changed => exact kept changed.sessions
  | @issued context identityAssertionRef ttl given session issued =>
    intro other member
    rw [issued.sessions, Table.mem_put] at member
    rcases member with rfl | ⟨old, -⟩
    · obtain ⟨row, found, version⟩ := issued.member
      refine ⟨row, ?_, Nat.le_of_eq version⟩
      rw [issued.memberships, issued.tenant, issued.user]
      exact found
    · exact (sound other old).onward onward

theorem run_sound (calls : List (MemberCall env)) : Sound (final (Members.step env) ⟨{}, 0, 0⟩ calls) := by
  induction calls using List.reverseRecOn with
  | nil => exact fun _ member => absurd member List.not_mem_nil
  | append_singleton before call ih =>
    rw [Library.final_concat]
    exact (step_enrolment call _).sound (run_staffed before) ih

/-- A context that a call hands out names a version its member has. -/
theorem step_issues {call : MemberCall env} {result : TenantContext}
    (issued : (Members.step env call s).1 = .ok (some (.context result))) :
    Held (Members.step env call s).2 result.tenantId result.userId result.membershipVersion := by
  have passed : ∀ {α : Type} {operation : Op α} {pass : α → Option Credential},
      ((do let value ← operation; pure (pass value)).run s).1 = .ok (some (.context result)) →
      ∃ value t, operation.run s = (.ok value, t) ∧ pass value = some (.context result) := by
    intro α operation pass returned
    rw [run_bind] at returned
    rcases ran : operation.run s with ⟨_ | value, t⟩ <;> rw [ran] at returned
    · cases returned
    · exact ⟨value, t, rfl, Except.ok.inj returned⟩
  rw [Members.step] at issued ⊢
  cases call with
  | bootstrapTenant legalName masterEmail =>
    obtain ⟨value, t, ran, same⟩ := passed issued
    cases same
    rw [Members.perform, session_passed, ran]
    have founded := bootstrapTenant_founded ran
    rw [founded.result_eq]
    refine ⟨{ tenantId := s.uuids, userId := s.uuids + 1, roles := [.master] }, ?_, Nat.le_refl 1⟩
    rw [founded.memberships]
    exact Table.get?_put_self _ _
  | addMember context email roles =>
    obtain ⟨value, t, ran, same⟩ := passed issued
    cases same
    rw [Members.perform, session_passed, ran]
    obtain ⟨row, result_eq, joined⟩ := addMember_joined ran
    rw [result_eq]
    refine ⟨row, ?_, Nat.le_refl _⟩
    rw [joined.memberships, ← joined.tenant]
    exact Table.get?_put_self _ _
  | changeMemberRoles context userId roles =>
    obtain ⟨_, _, _, none⟩ := passed issued
    cases none
  | revokeMember context userId =>
    obtain ⟨_, _, _, none⟩ := passed issued
    cases none
  | contextFor tenant user =>
    obtain ⟨value, t, ran, same⟩ := passed issued
    cases same
    rw [Members.perform, session_passed, ran]
    obtain ⟨row, found, -, rfl, rfl⟩ := contextFor_eq_ok.mp ran
    exact ⟨row, found, Nat.le_refl _⟩
  | issueBrowserSession context identityAssertionRef ttl =>
    obtain ⟨_, _, _, none⟩ := passed issued
    cases none
  | authenticateBrowserSession token =>
    obtain ⟨value, t, ran, same⟩ := passed issued
    cases same
    rw [Members.perform, session_passed, ran]
    obtain ⟨db, session, row, -, -, found, version⟩ := authenticateBrowserSession_ok ran
    refine ⟨row, ?_, Nat.le_of_eq version.symm⟩
    rw [db]
    exact found
  | elsewhere operation keeps =>
    obtain ⟨_, _, _, none⟩ := passed issued
    cases none

/-- A version that a change has left behind is no member's any more. -/
theorem left_behind {before : List (MemberCall env)} {call : MemberCall env} {after : List (MemberCall env)}
    {tenant user : Uuid} {version : Nat}
    (held : Held (final (Members.step env) ⟨{}, 0, 0⟩ before) tenant user version)
    (changed : (final (Members.step env) ⟨{}, 0, 0⟩ (before ++ [call])).db.memberships.get? (tenant, user) ≠
      (final (Members.step env) ⟨{}, 0, 0⟩ before).db.memberships.get? (tenant, user)) :
    ∃ row, (final (Members.step env) ⟨{}, 0, 0⟩ (before ++ call :: after)).db.memberships.get? (tenant, user) = some row ∧
      version < row.version := by
  obtain ⟨row, found, bound⟩ := held
  obtain ⟨new, new_found, step⟩ := (run_onward before [call]).members _ _ found
  have grown : row.version < new.version := by
    rcases step with rfl | grown
    · exact absurd (new_found.trans found.symm) changed
    · exact grown
  have onward := run_onward (before ++ [call]) after
  rw [List.append_assoc, List.singleton_append] at onward
  obtain ⟨last, last_found, rfl | more⟩ := onward.members _ _ new_found
  · exact ⟨last, last_found, bound.trans_lt grown⟩
  · exact ⟨last, last_found, (bound.trans_lt grown).trans more⟩

theorem membership_stale {row : Membership}
    (found : s.db.memberships.get? (context.tenantId, context.userId) = some row)
    (stale : context.membershipVersion < row.version) :
    (membership context).run s = (.error (authorizationError "session is stale or revoked"), s) := by
  have got : (getMembership context.tenantId context.userId).run s = (.ok row, s) := getMembership_eq_ok.mpr ⟨found, rfl⟩
  have refused : ¬ (row.active = true ∧ row.version = context.membershipVersion) :=
    fun both => Nat.ne_of_gt stale both.2
  rw [membership, run_bind, got]
  simp only [run_bind, ensure, if_neg refused]
  rfl

theorem require_stale {row : Membership} {capability : Capability}
    (found : s.db.memberships.get? (context.tenantId, context.userId) = some row)
    (stale : context.membershipVersion < row.version) :
    (require context capability).run s = (.error (authorizationError "session is stale or revoked"), s) := by
  rw [require, run_bind, membership_stale found stale]

theorem authenticateBrowserSession_stale {token : String} {session : BrowserSession} {row : Membership}
    (stored : s.db.browserSessions.get? (env.hexdigest token) = some session)
    (found : s.db.memberships.get? (session.tenantId, session.userId) = some row)
    (stale : session.membershipVersion < row.version) :
    ∃ why, ((authenticateBrowserSession env token).run s).1 = .error why := by
  rcases ran : (authenticateBrowserSession env token).run s with ⟨why | result, t⟩
  · exact ⟨why, rfl⟩
  · obtain ⟨-, other, holder, other_stored, result_eq, holder_found, version⟩ := authenticateBrowserSession_ok ran
    cases Option.some.inj (stored.symm.trans other_stored)
    rw [result_eq] at holder_found version
    cases Option.some.inj (found.symm.trans holder_found)
    exact absurd version (Nat.ne_of_gt stale)

/-- Each change of a membership raises its version. A context handed out before a change, and a browser session
stored before it, are refused in every state after it, whatever became of the member since. -/
theorem stale_credentials_refused (env : BrowserEnv) (before between after : List (MemberCall env))
    (call : MemberCall env) :
    (∀ key old, (final (Members.step env) ⟨{}, 0, 0⟩ before).db.memberships.get? key = some old →
      ∃ new, (final (Members.step env) ⟨{}, 0, 0⟩ (before ++ [call])).db.memberships.get? key = some new ∧
        (new = old ∨ old.version < new.version)) ∧
    (∀ issuing result, (Members.step env issuing (final (Members.step env) ⟨{}, 0, 0⟩ before)).1 =
        .ok (some (.context result)) →
      (final (Members.step env) ⟨{}, 0, 0⟩ (before ++ issuing :: between ++ [call])).db.memberships.get?
          (result.tenantId, result.userId) ≠
        (final (Members.step env) ⟨{}, 0, 0⟩ (before ++ issuing :: between)).db.memberships.get?
          (result.tenantId, result.userId) →
      ∀ capability, ((require result capability).run
        (final (Members.step env) ⟨{}, 0, 0⟩ (before ++ issuing :: between ++ call :: after))).1 =
          .error (authorizationError "session is stale or revoked")) ∧
    (∀ token session, (final (Members.step env) ⟨{}, 0, 0⟩ before).db.browserSessions.get? (env.hexdigest token) =
        some session →
      (final (Members.step env) ⟨{}, 0, 0⟩ (before ++ between ++ [call])).db.memberships.get?
          (session.tenantId, session.userId) ≠
        (final (Members.step env) ⟨{}, 0, 0⟩ (before ++ between)).db.memberships.get?
          (session.tenantId, session.userId) →
      ∃ why, ((authenticateBrowserSession env token).run
        (final (Members.step env) ⟨{}, 0, 0⟩ (before ++ between ++ call :: after))).1 = .error why) := by
  refine ⟨(run_onward before [call]).members, ?_, ?_⟩
  · intro issuing result issued changed capability
    have held := step_issues issued
    rw [← Library.final_concat] at held
    have later := run_onward (before ++ [issuing]) between
    rw [List.append_assoc, List.singleton_append] at later
    obtain ⟨row, found, stale⟩ := left_behind (held.onward later) changed
    rw [require_stale found stale]
  · intro token session stored changed
    have held := run_sound before session (Table.mem_of_get? stored)
    obtain ⟨row, found, stale⟩ := left_behind (held.onward (run_onward before between)) changed
    -- sessions are never rewritten, so the one stored first is the one read last
    have onward := run_onward before (between ++ call :: after)
    rw [← List.append_assoc] at onward
    exact authenticateBrowserSession_stale (onward.sessions _ _ stored) found stale

/-- The second member of `delegation`, before she is revoked and added again with the same roles. -/
def secondMember : TenantContext := ⟨0, 4, 1⟩

def signIn : MemberCall plainEnv := .issueBrowserSession secondMember "workforce:second" (minutes 60)

def signedIn : BrowserSession where
  tokenDigest := plainEnv.token 0
  tenantId := 0
  userId := 4
  membershipVersion := 1
  identityAssertionRef := "workforce:second"
  issuedAt := .utc 0
  expiresAt := .utc 3600

def revocation : MemberCall plainEnv := .revokeMember firstMaster 4

def restoration : MemberCall plainEnv := .addMember firstMaster "second@demo.test" [.auditor]

theorem stale_credentials_refused_restored :
    ((require secondMember .readAudit).run
        (final (Members.step plainEnv) ⟨{}, 0, 0⟩ (delegation ++ [signIn, revocation, restoration]))).1 =
      .error (authorizationError "session is stale or revoked") ∧
    ∃ why, ((authenticateBrowserSession plainEnv (plainEnv.token 0)).run
        (final (Members.step plainEnv) ⟨{}, 0, 0⟩ (delegation ++ [signIn, revocation, restoration]))).1 = .error why := by
  constructor
  · have refused := (stale_credentials_refused plainEnv [.bootstrapTenant "Demo" "master@demo.test"] [signIn]
      [restoration] revocation).2.1 restoration secondMember
    exact refused (by decide +kernel) (by decide +kernel) .readAudit
  · have refused := (stale_credentials_refused plainEnv (delegation ++ [signIn]) [] [restoration] revocation).2.2
      (plainEnv.token 0)
    exact refused signedIn (by decide +kernel) (by decide +kernel)

end AiStore.Service
