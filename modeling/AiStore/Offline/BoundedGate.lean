import AiStore.Library.Binary64
import AiStore.Library.Calendar
import AiStore.Library.Dict
import AiStore.Library.Runs
import AiStore.Offline.Contracts

/-! The gate of bounded writes. It decides whether a proposed write may proceed, under caps and an approval of its own, and
stops and goes on by request. -/

set_option autoImplicit false

namespace AiStore.Offline

open Library

/-- A `datetime`: an instant with the offset of its zone, or a wall clock without a zone. -/
inductive Moment where
  | aware (time : Timestamp)
  | naive (wall : Int)
  deriving DecidableEq

inductive GateFailure where
  | blocked (text : String)
  | valueError (text : String)
  | typeError (text : String)
  | quarantine (why : ContractQuarantine)
  deriving DecidableEq

/-- What `__post_init__` admits. -/
structure BoundedPolicy where
  version : Int
  capability : String
  maxAmountMinor : Int
  maxSkus : Int
  maxWritesPerDay : Int
  maxAgeSeconds : Int
  halted : Bool := false
  version_pos : 0 < version
  named : capability ≠ ""
  amount_nonneg : 0 ≤ maxAmountMinor
  skus_pos : 0 < maxSkus
  writes_pos : 0 < maxWritesPerDay
  age_pos : 0 < maxAgeSeconds
  deriving DecidableEq

structure ScopedApproval where
  capability : String
  targetRef : String
  payloadDigest : String
  approvedAt : Moment
  approver : String
  deriving DecidableEq

structure ProposedWrite (Payload : Type) where
  capability : String
  targetRef : String
  payload : Payload
  amountMinor : Int
  skuCount : Int
  proposedAt : Moment

inductive GateReason where
  | halted | scopeMismatch | digestMismatch | approvalExpired | amountCap | skuCap | dailyCap
  deriving DecidableEq

/-- `REASONS`, in their order. -/
def gateReasons : List GateReason :=
  [.halted, .scopeMismatch, .digestMismatch, .approvalExpired, .amountCap, .skuCap, .dailyCap]

inductive RecordKind where
  | decision | halt | restore
  deriving DecidableEq

inductive GateDecision where
  | admitted | reject
  deriving DecidableEq

/-- An entry of the `reasons` of a record. -/
inductive GateNote where
  | reason (code : GateReason)
  | operator (name : String)
  deriving DecidableEq

structure AuditRecord where
  sequence : Nat
  kind : RecordKind
  decision : Option GateDecision
  reasons : List GateNote
  capability : String
  targetRef : Option String
  payloadDigest : Option String
  policyVersion : Int
  at' : Moment
  deriving DecidableEq

/-- `json.dumps` of a payload, where it returns, and the hash of its text. -/
structure Encoder (Payload : Type) where
  dumps : Payload → Option String
  sha256 : String → String

section

variable {Payload : Type} (encoder : Encoder Payload)

/-- `payload_digest`. -/
def payloadDigest (payload : Payload) : Except GateFailure String := match encoder.dumps payload with
  | none => .error (.quarantine ⟨"invalid_json"⟩)
  | some encoded =>
    if encoded.utf8ByteSize ≤ 2 * 1024 * 1024 then .ok (encoder.sha256 encoded)
    else .error (.quarantine ⟨"page_size_exceeded"⟩)

structure BoundedGate where
  gates : List (String × String)
  policy : BoundedPolicy
  ledger : List AuditRecord
  admittedDays : Dict Int Nat

/-- The modes of the required gates, which `approval_modes` has read from the approval records. -/
def demoGates (required : List String) (modes : String → Option String) : Except String (List (String × String)) :=
  let missing := required.filter fun gate => modes gate ≠ some "DEMO"
  if missing ≠ [] then .error ("no DEMO approval record for " ++ ", ".intercalate missing)
  else .ok (required.map fun gate => (gate, (modes gate).getD ""))

def BoundedGate.requiredGates : List String := ["G4", "G5"]

/-- The constructor. -/
def BoundedGate.create (modes : String → Option String) (policy : BoundedPolicy) : Except GateFailure BoundedGate :=
  match demoGates BoundedGate.requiredGates modes with
  | .error text => .error (.blocked text)
  | .ok gates => .ok ⟨gates, policy, [], .empty⟩

namespace BoundedGate

def append (gate : BoundedGate) (kind : RecordKind) (decision : Option GateDecision) (reasons : List GateNote)
    (capability : String) (targetRef digest : Option String) (at' : Moment) : AuditRecord × BoundedGate :=
  let record : AuditRecord :=
    ⟨gate.ledger.length + 1, kind, decision, reasons, capability, targetRef, digest, gate.policy.version, at'⟩
  (record, { gate with ledger := gate.ledger ++ [record] })

/-- What stands against the approval. -/
def approvalReason (policy : BoundedPolicy) (write : ProposedWrite Payload) (proposed : Timestamp) (digest : String) :
    Option ScopedApproval → Except GateFailure (Option GateReason)
  | none => .ok (some .scopeMismatch)
  | some approval =>
    if (approval.capability, approval.targetRef) ≠ (write.capability, write.targetRef) ∨
        write.capability ≠ policy.capability then .ok (some .scopeMismatch)
    else if approval.payloadDigest ≠ digest then .ok (some .digestMismatch)
    else match approval.approvedAt with
      | .naive _ => .error (.typeError "can't subtract offset-naive and offset-aware datetimes")
      | .aware approved =>
        if policy.maxAgeSeconds < totalSeconds (proposed.instant - approved.instant) ∨ proposed < approved then
          .ok (some .approvalExpired)
        else .ok none

def writesOn (gate : BoundedGate) (day : Int) : Nat := (gate.admittedDays.get? day).getD 0

/-- What stands against the write; the day is that of its own wall clock. -/
def raised (gate : BoundedGate) (write : ProposedWrite Payload) (proposed : Timestamp) (approval : Option GateReason) :
    List GateReason :=
  (if gate.policy.halted then [.halted] else []) ++ approval.toList ++
  (if gate.policy.maxAmountMinor < write.amountMinor then [.amountCap] else []) ++
  (if gate.policy.maxSkus < write.skuCount then [.skuCap] else []) ++
  (if gate.policy.maxWritesPerDay < gate.writesOn proposed.localDay + 1 then [.dailyCap] else [])

def decide (write : ProposedWrite Payload) (approval : Option ScopedApproval) (gate : BoundedGate) :
    Except GateFailure (AuditRecord × BoundedGate) := match write.proposedAt with
  | .naive _ => .error (.valueError "proposed_at must be timezone-aware")
  | .aware proposed => do
    let digest ← payloadDigest encoder write.payload
    let found ← approvalReason gate.policy write proposed digest approval
    let reasons := gate.raised write proposed found
    let ordered := gateReasons.filter (· ∈ reasons)
    let day := proposed.localDay
    if ordered = [] then
      pure ({ gate with admittedDays := gate.admittedDays.set day (gate.writesOn day + 1) }.append .decision (some .admitted)
        [] write.capability (some write.targetRef) (some digest) write.proposedAt)
    else
      pure (gate.append .decision (some .reject) (ordered.map .reason) write.capability (some write.targetRef) (some digest)
        write.proposedAt)

def halt (at' : Moment) (operator : String) (gate : BoundedGate) : AuditRecord × BoundedGate :=
  { gate with policy := { gate.policy with halted := true } }.append .halt none [.operator operator] gate.policy.capability
    none none at'

def restore (at' : Moment) (operator : String) (gate : BoundedGate) : AuditRecord × BoundedGate :=
  { gate with policy := { gate.policy with halted := false } }.append .restore none [.operator operator]
    gate.policy.capability none none at'

end BoundedGate

/-! ## Runs -/

inductive GateCall (Payload : Type) where
  | decide (write : ProposedWrite Payload) (approval : Option ScopedApproval)
  | halt (at' : Moment) (operator : String)
  | restore (at' : Moment) (operator : String)

def gateStep (call : GateCall Payload) (gate : BoundedGate) : Except GateFailure AuditRecord × BoundedGate :=
  match call with
  | .decide write approval => attempt gate (gate.decide encoder write approval)
  | .halt at' operator => attempt gate (.ok (gate.halt at' operator))
  | .restore at' operator => attempt gate (.ok (gate.restore at' operator))

def admits : Except GateFailure AuditRecord → Bool
  | .ok record => record.decision = some .admitted
  | .error _ => false

/-- The proposals of a run that are admitted. -/
def admittedWrites (events : List (GateCall Payload × Except GateFailure AuditRecord)) : List (ProposedWrite Payload) :=
  events.filterMap fun event => match event.1 with
    | .decide write _ => if admits event.2 then some write else none
    | _ => none

def GateCall.restores : GateCall Payload → Bool
  | .restore _ _ => true
  | _ => false

/-- The proposal of a call with its instant. -/
def GateCall.proposes (call : GateCall Payload) (time : Timestamp) : Prop :=
  ∃ write approval, call = .decide write approval ∧ write.proposedAt = .aware time

def ProposedWrite.on (write : ProposedWrite Payload) (day : Timestamp → Int) (number : Int) : Bool :=
  match write.proposedAt with
  | .aware time => day time = number
  | .naive _ => false

end

end AiStore.Offline
