import AiStore.Service.Approvals

/-! Browser sessions and the one-use nonces that confirm a decision. -/

set_option autoImplicit false

namespace AiStore

open Library.Txn Failure Repository

/-- The random tokens by successive draws, and SHA-256 over a token in hex. -/
structure BrowserEnv extends Env where
  token : Nat → String
  hexdigest : String → String

namespace Repository

def saveBrowserSession (value : BrowserSession) : Op Unit := do
  let sessions ← query Store.browserSessions
  ensure (sessions.get? value.tokenDigest = none) (conflictError "browser session already exists")
  write fun store => { store with browserSessions := store.browserSessions.put value }

def getBrowserSession (tokenDigest : String) : Op (Option BrowserSession) :=
  query fun store => store.browserSessions.get? tokenDigest

def saveApprovalConfirmationNonce (value : ApprovalConfirmationNonce) : Op Unit := do
  let nonces ← query Store.approvalConfirmationNonces
  ensure (nonces.get? value.tokenDigest = none) (conflictError "approval confirmation nonce already exists")
  write fun store => { store with approvalConfirmationNonces := store.approvalConfirmationNonces.put value }

/-- The repositories differ in how they compare a nonce's expiry: one compares times, the other their ISO texts. -/
inductive Backend where
  | memory
  | sqlite
  deriving DecidableEq, Repr

def Backend.Live (backend : Backend) (now expiresAt : Timestamp) : Prop := match backend with
  | memory => now < expiresAt
  | sqlite => ¬ expiresAt.textLe now

instance (backend : Backend) (now expiresAt : Timestamp) : Decidable (backend.Live now expiresAt) := by
  unfold Backend.Live
  cases backend <;> exact inferInstance

/-- A nonce that is bound to the request and can be consumed. -/
def Consumable (backend : Backend) (nonce : ApprovalConfirmationNonce) (sessionDigest : String)
    (tenant approval command : Uuid) (now : Timestamp) : Prop :=
  nonce.sessionDigest = sessionDigest ∧ nonce.tenantId = tenant ∧ nonce.approvalId = approval ∧
    nonce.commandId = command ∧ nonce.consumedAt = none ∧ backend.Live now nonce.expiresAt

instance (backend : Backend) (nonce : ApprovalConfirmationNonce) (sessionDigest : String)
    (tenant approval command : Uuid) (now : Timestamp) :
    Decidable (Consumable backend nonce sessionDigest tenant approval command now) := by
  unfold Consumable
  exact inferInstance

def consumeApprovalConfirmationNonce (backend : Backend) (tokenDigest sessionDigest : String)
    (tenant approval command : Uuid) (now : Timestamp) : Op Unit := do
  let nonce ← fetch (conflictError "invalid or expired approval confirmation nonce")
    (← query fun store => store.approvalConfirmationNonces.get? tokenDigest)
  ensure (Consumable backend nonce sessionDigest tenant approval command now)
    (conflictError "invalid or expired approval confirmation nonce")
  write fun store => { store with
    approvalConfirmationNonces := store.approvalConfirmationNonces.put { nonce with consumedAt := some now } }

end Repository

namespace Service

variable (env : BrowserEnv)

def tokenLetter (c : Char) : Bool := c.isAlpha || c.isDigit || c = '_' || c = '-'

/-- `[A-Za-z0-9_-]{32,128}`. -/
def browserToken (text : String) : Bool :=
  text.toList.all tokenLetter && 32 ≤ text.toList.length && text.toList.length ≤ 128

/-- `_digest`. -/
def tokenDigest (token : String) : Op String := do
  ensure (browserToken token) (authorizationError "invalid browser credential")
  pure (env.hexdigest token)

/-- `[A-Za-z0-9][A-Za-z0-9_.:-]{0,254}`. -/
def assertionRef (text : String) : Bool := match text.toList with
  | [] => false
  | first :: rest => identifierStart first && rest.all (fun c => identifierRest c || c = ':') && rest.length ≤ 254

/-- A time so many microseconds later. -/
def later (time : Timestamp) (micros : Int) : Timestamp := { time with instant := time.instant + micros }

structure Issued where
  token : String
  expiresAt : Timestamp

def minutes (count : Int) : Int := 60000000 * count

def issueBrowserSession (context : TenantContext) (identityAssertionRef : String) (ttl : Int) : Op Issued := do
  ensure (assertionRef identityAssertionRef ∧ minutes 1 ≤ ttl ∧ ttl ≤ minutes 1440)
    (conflictError "invalid verified identity assertion")
  let row ← membership context
  let now ← now env.toEnv
  let draw ← freshUuid
  transaction do
    let _ ← membership context
    let digest ← tokenDigest env (env.token draw)
    saveBrowserSession {
      tokenDigest := digest
      tenantId := context.tenantId
      userId := context.userId
      membershipVersion := row.version
      identityAssertionRef := identityAssertionRef
      issuedAt := now
      expiresAt := later now ttl }
  pure ⟨env.token draw, later now ttl⟩

def authenticateBrowserSession (token : String) : Op TenantContext := do
  let digest ← tokenDigest env token
  let session ← fetch (authorizationError "browser session expired or unknown") (← getBrowserSession digest)
  let now ← now env.toEnv
  ensure (now < session.expiresAt) (authorizationError "browser session expired or unknown")
  let context : TenantContext := ⟨session.tenantId, session.userId, session.membershipVersion⟩
  let _ ← membership context
  pure context

def earlier (first second : Timestamp) : Timestamp := if second < first then second else first

/-- The transaction that issues a nonce. -/
def issueNonceFor (context : TenantContext) (sessionToken : String) (approvalId : Uuid) (ttl : Int) : Op Issued := transaction do
  let approval ← getApproval context.tenantId (.uuid approvalId)
  require context approval.kind.capability
  let command ← getCommand context.tenantId approval.commandId
  let now ← now env.toEnv
  ensure (approval.state = .pending ∧ now < approval.expiresAt) (conflictError "approval is not pending")
  let draw ← freshUuid
  let expires := earlier (later now ttl) approval.expiresAt
  let digest ← tokenDigest env (env.token draw)
  let sessionDigest ← tokenDigest env sessionToken
  saveApprovalConfirmationNonce {
    tokenDigest := digest
    sessionDigest := sessionDigest
    tenantId := context.tenantId
    approvalId := approval.id
    commandId := command.id
    issuedAt := now
    expiresAt := expires }
  pure ⟨env.token draw, expires⟩

def issueApprovalConfirmationNonce (sessionToken : String) (approvalId : Uuid) (ttl : Int) : Op Issued := do
  ensure (30000000 ≤ ttl ∧ ttl ≤ minutes 10) (conflictError "invalid approval confirmation request")
  let context ← authenticateBrowserSession env sessionToken
  issueNonceFor env context sessionToken approvalId ttl

/-- The transaction that spends the nonce; it returns the command to decide on. -/
def confirmDecision (backend : Backend) (context : TenantContext) (sessionToken : String) (approvalId : Uuid)
    (nonceToken : String) : Op Uuid := transaction do
  let approval ← getApproval context.tenantId (.uuid approvalId)
  require context approval.kind.capability
  let digest ← tokenDigest env nonceToken
  let sessionDigest ← tokenDigest env sessionToken
  let now ← now env.toEnv
  consumeApprovalConfirmationNonce backend digest sessionDigest context.tenantId approval.id approval.commandId now
  pure approval.commandId

end Service

end AiStore
