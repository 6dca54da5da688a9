import AiStore.Approval.Backing
import AiStore.Gateway.Canonical

/-! A request under a key that is taken: the same one is answered with what stands, another one is refused. -/

set_option autoImplicit false

namespace AiStore.Approvals

open Library (Session Txn Table final)
open Library.Txn Failure Repository Service
open Relation (ReflTransGen)

variable {env : Env} {s t : Session Store}

/-! ## What is kept -/

/-- A key stays bound to its command, and a command keeps the digest of its request. -/
structure Retained (before after : Store) : Prop where
  keys : ∀ key id, before.commandIdempotency.get? key = some id → after.commandIdempotency.get? key = some id
  digests : ∀ key row, before.commands.get? key = some row →
    ∃ later, after.commands.get? key = some later ∧ later.payloadDigest = row.payloadDigest

theorem Retained.refl (db : Store) : Retained db db := ⟨fun _ _ bound => bound, fun _ row found => ⟨row, found, rfl⟩⟩

theorem Retained.trans {first second third : Store} (left : Retained first second) (right : Retained second third) :
    Retained first third where
  keys key id bound := right.keys key id (left.keys key id bound)
  digests key row found := by
    obtain ⟨middle, middle_found, middle_digest⟩ := left.digests key row found
    obtain ⟨later, later_found, later_digest⟩ := right.digests key middle middle_found
    exact ⟨later, later_found, later_digest.trans middle_digest⟩

theorem Retained.of_same {before after : Store} (commands : after.commands = before.commands)
    (keys : after.commandIdempotency = before.commandIdempotency) : Retained before after where
  keys _ _ bound := by rwa [keys]
  digests _ row found := ⟨row, by rwa [commands], rfl⟩

/-- Rewriting a command under its digest retains it. -/
theorem Retained.of_put {before after : Store} {key : Uuid × Uuid} {row rewritten : Command}
    (found : before.commands.get? key = some row) (commands : after.commands = before.commands.put rewritten)
    (keys : after.commandIdempotency = before.commandIdempotency) (named : rewritten.key = row.key)
    (digest : rewritten.payloadDigest = row.payloadDigest) : Retained before after where
  keys _ _ bound := by rwa [keys]
  digests wanted old old_found := by
    rw [commands, Table.get?_put, named, Table.key_of_get? found]
    split
    · next same =>
      subst same
      cases Option.some.inj (found.symm.trans old_found)
      exact ⟨rewritten, rfl, digest⟩
    · exact ⟨old, old_found, rfl⟩

section

variable {context : TenantContext} {kind : ApprovalKind} {targetRef : TargetRef} {payload : Mapping}
  {idempotencyKey : CommandKey} {evidence : List Mapping} {command : Command} {approval : Approval}

theorem created_retained (created : Created env context s kind targetRef payload idempotencyKey evidence command approval t)
    (lockstep : Lockstep s) : Retained s.db t.db := by
  obtain ⟨fresh, -⟩ := created_fresh created lockstep
  obtain ⟨free, -, -, -, _, rfl⟩ := created
  constructor
  · intro key id bound
    simp only
    rw [Library.Dict.get?_set_of_ne _ fun same => ?_]
    · exact bound
    · rw [← same, free] at bound
      cases bound
  · exact fun key row found => ⟨row, kept_put fresh key row found, rfl⟩

theorem change_retained (lockstep : Lockstep s) (change : Change env s t) : Retained s.db t.db := by
  cases change with
  | other quiet =>
    have same := quiet.lifecycle.same
    simp only [lifecycleTables, Prod.mk.injEq] at same
    exact .of_same same.1 same.2.2.1
  | created created => exact created_retained created lockstep
  | attached _ _ attached =>
    obtain ⟨-, -, _, -, -, -, -, rfl⟩ := attached
    exact .of_same rfl rfl
  | ranOut waiting _ ranOut =>
    obtain ⟨-, _, rfl⟩ := ranOut
    exact .of_put waiting.command_found rfl rfl rfl rfl
  | settled waiting _ _ _ settled =>
    obtain ⟨-, _, rfl⟩ := settled
    exact .of_put waiting.command_found rfl rfl rfl rfl
  | prepared _ prepared =>
    obtain ⟨-, -, -, _, rfl⟩ := prepared
    exact .of_same rfl rfl
  | toolFiled _ filed =>
    have same := (quiet_of_toolFiled filed).same
    simp only [lifecycleTables, Prod.mk.injEq] at same
    exact .of_same same.1 same.2.2.1

theorem superseded_retained {old replacement : Command} {oldApproval : Approval} {middle : Session Store}
    (lockstep : Lockstep s)
    (superseded : Superseded env context s idempotencyKey old oldApproval replacement approval middle t) :
    Retained s.db t.db := by
  obtain ⟨retired_holds, -⟩ :=
    retired_lockstep superseded.old_found superseded.old_approval_found superseded.old_open lockstep
  have first : Retained s.db (retired s old oldApproval).db := .of_put superseded.old_found rfl rfl rfl rfl
  have second : Retained (retired s old oldApproval).db middle.db := by
    obtain ⟨_, -, created | replayed⟩ := superseded.change
    · exact created_retained created retired_holds
    · rw [replayed.unchanged]
      exact .refl _
  obtain ⟨-, -, found, -⟩ := superseded_middle superseded lockstep
  obtain ⟨_, written⟩ := superseded.written
  have commands : t.db.commands = middle.db.commands.put { replacement with supersedesId := some old.id } := by rw [written]
  have keys : t.db.commandIdempotency = middle.db.commandIdempotency := by rw [written]
  exact (first.trans second).trans (.of_put found commands keys rfl rfl)

end

theorem history_retained (lockstep : Lockstep s) (history : ReflTransGen (Evolution env) s t) : Retained s.db t.db := by
  induction history with
  | refl => exact .refl _
  | tail history evolution ih =>
    have holds := (evolutions_lockstep lockstep history).1
    rcases evolution with change | ⟨_, _, _, _, _, _, _, superseded⟩
    · exact ih.trans (change_retained holds change)
    · exact ih.trans (superseded_retained holds superseded)

/-! ## Requests -/

/-- What a command is asked for. -/
structure CommandRequest where
  kind : ApprovalKind
  targetRef : TargetRef
  payload : Mapping

/-- What an approval is asked for. -/
structure ApprovalRequest extends CommandRequest where
  evidence : List Mapping
  policyVersion : Int
  targetVersion : Int

def CommandRequest.material (request : CommandRequest) : Value :=
  commandMaterial request.kind request.targetRef request.payload

def ApprovalRequest.intentMaterial (request : ApprovalRequest) (expiresAt : Timestamp) : Value :=
  Service.intentMaterial request.kind request.targetRef request.payload request.evidence expiresAt request.policyVersion
    request.targetVersion

/-- The same kind and target, and payloads that are equal as JSON, up to the order of keys. -/
structure CommandRequest.Equal (request other : CommandRequest) : Prop where
  kind : request.kind = other.kind
  targetRef : request.targetRef = other.targetRef
  payload : Gateway.sorted (.dict request.payload) = Gateway.sorted (.dict other.payload)

structure ApprovalRequest.Equal (request other : ApprovalRequest) : Prop where
  command : request.toCommandRequest.Equal other.toCommandRequest
  evidence : Gateway.sorted (.list (request.evidence.map .dict)) = Gateway.sorted (.list (other.evidence.map .dict))
  policyVersion : request.policyVersion = other.policyVersion
  targetVersion : request.targetVersion = other.targetVersion

theorem kind_value_injective : Function.Injective ApprovalKind.value := by
  intro first second same
  cases first <;> cases second <;> first | rfl | exact absurd same (by decide)

theorem targetRef_material_injective : Function.Injective TargetRef.material := by
  intro first second same
  cases first <;> cases second <;> simp_all [TargetRef.material]

theorem sorted_targetRef (targetRef : TargetRef) : Gateway.sorted targetRef.material = targetRef.material := by
  cases targetRef <;> rfl

theorem sorted_material (request : CommandRequest) :
    Gateway.sorted request.material = .dict [("kind", .text request.kind.value),
      ("payload", Gateway.sorted (.dict request.payload)), ("target_ref", request.targetRef.material)] := by
  rw [CommandRequest.material, commandMaterial, Gateway.sorted]
  simp +decide only [Gateway.sortedEntries, sorted_targetRef, List.insertionSort, List.foldr, List.orderedInsert,
    Gateway.keyLe_names, ↓reduceIte]
  rfl

theorem material_eq_iff (request other : CommandRequest) :
    Gateway.sorted request.material = Gateway.sorted other.material ↔ request.Equal other := by
  rw [sorted_material, sorted_material]
  simp only [Value.dict.injEq, List.cons.injEq, Prod.mk.injEq, Value.text.injEq, true_and, and_true]
  constructor
  · rintro ⟨kind, payload, targetRef⟩
    exact ⟨kind_value_injective kind, targetRef_material_injective targetRef, payload⟩
  · rintro ⟨kind, targetRef, payload⟩
    exact ⟨congrArg _ kind, payload, congrArg _ targetRef⟩

theorem sorted_intentMaterial (request : ApprovalRequest) (expiresAt : Timestamp) :
    Gateway.sorted (request.intentMaterial expiresAt) = .dict [
      ("evidence", Gateway.sorted (.list (request.evidence.map .dict))), ("expires_at", isoformat expiresAt),
      ("kind", .text request.kind.value), ("payload", Gateway.sorted (.dict request.payload)),
      ("policy_version", .int request.policyVersion), ("target_ref", request.targetRef.material),
      ("target_version", .int request.targetVersion)] := by
  simp +decide only [ApprovalRequest.intentMaterial, intentMaterial, isoformat, Gateway.sorted, Gateway.sortedEntries,
    Gateway.sortedItems, sorted_targetRef, List.insertionSort, List.foldr, List.orderedInsert, Gateway.keyLe_names, ↓reduceIte]

theorem intentMaterial_eq_iff (request other : ApprovalRequest) (expiresAt : Timestamp) :
    Gateway.sorted (request.intentMaterial expiresAt) = Gateway.sorted (other.intentMaterial expiresAt) ↔
      request.Equal other := by
  rw [sorted_intentMaterial, sorted_intentMaterial]
  simp only [Value.dict.injEq, List.cons.injEq, Prod.mk.injEq, Value.text.injEq, Value.int.injEq, true_and, and_true]
  constructor
  · rintro ⟨evidence, kind, payload, policy, targetRef, target⟩
    exact ⟨⟨kind_value_injective kind, targetRef_material_injective targetRef, payload⟩, evidence, policy, target⟩
  · rintro ⟨⟨kind, targetRef, payload⟩, evidence, policy, target⟩
    exact ⟨evidence, congrArg _ kind, payload, policy, congrArg _ targetRef, target⟩

/-- The digest of these two values is the same exactly where their JSON texts with sorted keys are. -/
def Faithful (env : Env) (first second : Value) : Prop :=
  env.digest first = env.digest second ↔ Gateway.sorted first = Gateway.sorted second

/-! ## What stands under a key -/

/-- The key of a request names a command with its digest, and the approval of that command. -/
structure Standing (env : Env) (db : Store) (tenant : Uuid) (idempotencyKey : CommandKey) (request : CommandRequest)
    (command : Command) (approval : Approval) : Prop where
  bound : db.commandIdempotency.get? (tenant, idempotencyKey) = some command.id
  command_found : db.commands.get? (tenant, command.id) = some command
  digest : command.payloadDigest = env.digest request.material
  approval_found : db.approvals.get? (tenant, command.id) = some approval

theorem Standing.later {tenant : Uuid} {idempotencyKey : CommandKey} {request : CommandRequest} {command : Command}
    {approval : Approval} (standing : Standing env s.db tenant idempotencyKey request command approval)
    (retained : Retained s.db t.db) (onward : Onward s.db t.db) :
    ∃ now later, Standing env t.db tenant idempotencyKey request now later ∧ now.id = command.id ∧
      SameRequest approval later := by
  obtain ⟨now, now_found, digest⟩ := retained.digests _ _ standing.command_found
  obtain ⟨later, later_found, same, -⟩ := onward.approvals _ _ standing.approval_found
  have named : now.id = command.id := congrArg Prod.snd (Table.key_of_get? now_found)
  refine ⟨now, later, ⟨?_, ?_, digest.trans standing.digest, ?_⟩, named, same⟩
  · rw [named]
    exact retained.keys _ _ standing.bound
  · rwa [named]
  · rwa [named]

/-- The intent of an approval is bound to the request. -/
structure Intended (env : Env) (db : Store) (tenant : Uuid) (request : ApprovalRequest) (command : Command)
    (approval : Approval) (intent : ApprovalIntent) : Prop where
  intent_found : db.approvalIntents.get? (tenant, command.id) = some intent
  digest : intent.canonicalDigest = env.digest (request.intentMaterial approval.expiresAt)
  matching : IntentMatches env command approval intent

section

variable {context : TenantContext} {idempotencyKey : CommandKey} {request : CommandRequest} {evidence : List Mapping}
  {command : Command} {approval : Approval}

/-- Behind a creation that returned, its rows stand under the key. -/
theorem createCommand_standing
    (ran : (createCommand env context request.kind request.targetRef request.payload idempotencyKey evidence).run s =
      (.ok (command, approval), t)) :
    ¬ blankKey idempotencyKey ∧ Standing env t.db context.tenantId idempotencyKey request command approval := by
  have written : ¬ blankKey idempotencyKey := by
    rw [createCommand, transaction_eq_ok] at ran
    simp only [bind_eq_ok, require_eq_ok, ensure_eq_ok, exists_and_left, exists_eq_left, exists_const, and_assoc] at ran
    exact ran.2.1
  refine ⟨written, ?_⟩
  obtain ⟨-, created | replayed⟩ := createCommand_ok ran
  · obtain ⟨-, rfl, rfl, -, _, rfl⟩ := created
    exact ⟨Library.Dict.get?_set_self _ _ _, Table.get?_put_self _ _, rfl, Table.get?_put_self _ _⟩
  · obtain ⟨bound, found, approval_found, digest, rfl⟩ := replayed
    exact ⟨bound, found, digest, approval_found⟩

theorem createCommand_replays (authorized : Authorized s.db context request.kind.capability)
    (written : ¬ blankKey idempotencyKey) {first : CommandRequest}
    (standing : Standing env s.db context.tenantId idempotencyKey first command approval)
    (same : env.digest first.material = env.digest request.material) :
    (createCommand env context request.kind request.targetRef request.payload idempotencyKey evidence).run s =
      (.ok (command, approval), s) := by
  rw [createCommand, transaction_eq_ok]
  simp only [bind_eq_ok, require_eq_ok, ensure_eq_ok, commandIdForKey, query_eq_ok, exists_and_left, exists_eq_left,
    exists_eq_left', exists_const, and_assoc]
  refine ⟨authorized, written, ?_⟩
  rw [standing.bound]
  simp only [bind_eq_ok, getCommand_eq_ok, ensure_eq_ok, getApprovalForCommand_eq_ok, pure_eq_ok, exists_and_left,
    exists_eq_left, exists_const, and_assoc]
  exact ⟨command, standing.command_found, standing.digest.trans same, ⟨command, standing.command_found⟩, approval,
    standing.approval_found, rfl, trivial⟩

theorem createCommand_refuses (authorized : Authorized s.db context request.kind.capability)
    (written : ¬ blankKey idempotencyKey) {first : CommandRequest}
    (standing : Standing env s.db context.tenantId idempotencyKey first command approval)
    (differs : env.digest first.material ≠ env.digest request.material) :
    (createCommand env context request.kind request.targetRef request.payload idempotencyKey evidence).run s =
      (.error (conflictError "idempotency key reused for different command"), s) := by
  have required : (require context request.kind.capability).run s = (.ok (), s) := require_eq_ok.mpr ⟨authorized, rfl⟩
  have keyed : (ensure (¬ blankKey idempotencyKey) (conflictError "idempotency key is required") : Op Unit).run s = (.ok (), s) :=
    (ensure_eq_ok _ _ _ _ _).mpr ⟨written, rfl⟩
  have known : (commandIdForKey context.tenantId idempotencyKey).run s = (.ok (some command.id), s) :=
    (query_eq_ok _ _ _ _).mpr ⟨standing.bound, rfl⟩
  have existing : (getCommand context.tenantId command.id).run s = (.ok command, s) :=
    getCommand_eq_ok.mpr ⟨standing.command_found, rfl⟩
  refine transaction_raises ?_
  refine (bind_eq_error _ _ _ _ _).mpr (.inr ⟨_, _, required, (bind_eq_error _ _ _ _ _).mpr (.inr ⟨_, _, keyed, ?_⟩)⟩)
  refine (bind_eq_error _ _ _ _ _).mpr (.inr ⟨_, _, known, (bind_eq_error _ _ _ _ _).mpr (.inr ⟨_, _, existing, ?_⟩)⟩)
  refine (bind_eq_error _ _ _ _ _).mpr (.inl ((ensure_eq_error _ _ _ _ _).mpr ⟨?_, rfl, rfl⟩))
  exact fun equal => differs (standing.digest.symm.trans equal)

end

/-! ## Requests for approval -/

/-- The payload and the evidence are JSON. -/
structure ApprovalRequest.Json (request : ApprovalRequest) : Prop where
  payload : (Value.dict request.payload).strictJson = true
  evidence : (Value.list (request.evidence.map .dict)).strictJson = true

/-- What `request_approval` has to encode before it looks for the key. -/
def ApprovalRequest.given (request : ApprovalRequest) : Value :=
  .dict [("payload", .dict request.payload), ("evidence", .list (request.evidence.map .dict)),
    ("target_ref", request.targetRef.material)]

theorem everyLeafMapping_iff (holds : Value → Bool) (entries : Mapping) :
    Value.everyLeafMapping holds entries = true ↔ ∀ entry ∈ entries, Value.everyLeaf holds entry.2 = true := by
  induction entries with
  | nil => exact iff_of_true rfl nofun
  | cons entry rest ih => rw [Value.everyLeafMapping, Bool.and_eq_true, List.forall_mem_cons, ih]

theorem strictJson_dict (entries : Mapping) :
    (Value.dict entries).strictJson = true ↔ ∀ entry ∈ entries, entry.2.strictJson = true :=
  everyLeafMapping_iff _ entries

theorem strictJson_targetRef (targetRef : TargetRef) : targetRef.material.strictJson = true := by
  cases targetRef <;> rfl

theorem given_strict (request : ApprovalRequest) : request.given.strictJson = true ↔ request.Json := by
  rw [ApprovalRequest.given, strictJson_dict]
  simp only [List.forall_mem_cons, strictJson_targetRef]
  exact ⟨fun ⟨payload, evidence, _⟩ => ⟨payload, evidence⟩, fun json => ⟨json.payload, json.evidence, trivial, nofun⟩⟩

theorem intentMaterial_strict {request : ApprovalRequest} (json : request.Json) (expiresAt : Timestamp) :
    (request.intentMaterial expiresAt).strictJson = true := by
  rw [ApprovalRequest.intentMaterial, intentMaterial, strictJson_dict]
  simp only [List.forall_mem_cons, strictJson_targetRef]
  exact ⟨rfl, trivial, json.payload, json.evidence, rfl, rfl, rfl, nofun⟩

section

variable {context : TenantContext} {idempotencyKey : CommandKey} {request first : ApprovalRequest}
  {command : Command} {approval : Approval} {intent : ApprovalIntent}

/-- Behind a request that returned, its rows stand under the key, with its intent. -/
theorem requestApproval_standing
    (ran : (requestApproval env context request.kind request.targetRef request.payload idempotencyKey
      request.policyVersion request.targetVersion request.evidence).run s = (.ok (command, approval), t)) :
    ¬ blankKey idempotencyKey ∧ 1 ≤ request.policyVersion ∧ 1 ≤ request.targetVersion ∧
      Standing env t.db context.tenantId idempotencyKey request.toCommandRequest command approval ∧
      ∃ intent, Intended env t.db context.tenantId request command approval intent := by
  rw [requestApproval, transaction_eq_ok] at ran
  simp only [bind_eq_ok, ensure_eq_ok, strictIntentDigest_eq_ok, getApprovalIntent, query_eq_ok] at ran
  obtain ⟨_, _, ⟨⟨policy, target⟩, rfl⟩, _, _, ⟨-, -, rfl⟩, ⟨found, approved⟩, middle, created, digest, _,
    ⟨-, rfl, rfl⟩, prior, _, ⟨lookup, rfl⟩, ran⟩ := ran
  obtain ⟨written, standing⟩ := createCommand_standing created
  refine ⟨written, policy, target, ?_⟩
  cases prior with
  | none =>
    simp only [bind_eq_ok, ensure_eq_ok, intentDigest, strictIntentDigest_eq_ok, now_eq_ok, saveApprovalIntent_eq_ok,
      pure_eq_ok, Prod.mk.injEq] at ran
    obtain ⟨_, _, ⟨-, rfl⟩, _, _, ⟨strict, rfl, rfl⟩, _, _, ⟨same, rfl⟩, _, _, ⟨rfl, rfl⟩, _, _, ⟨-, -, rfl⟩,
      ⟨rfl, rfl⟩, rfl⟩ := ran
    refine ⟨⟨standing.bound, standing.command_found, standing.digest, standing.approval_found⟩, ?_⟩
    exact ⟨_, Table.get?_put_self _ _, rfl, strict, same⟩
  | some prior =>
    simp only [bind_eq_ok, ensure_eq_ok, checkIntent_eq_ok, pure_eq_ok, Prod.mk.injEq] at ran
    obtain ⟨_, _, ⟨same, rfl⟩, _, _, ⟨matching, rfl⟩, ⟨rfl, rfl⟩, rfl⟩ := ran
    exact ⟨standing, prior, lookup, same, matching⟩

theorem requestApproval_replays (authorized : Authorized s.db context request.kind.capability)
    (written : ¬ blankKey idempotencyKey) (versions : 1 ≤ request.policyVersion ∧ 1 ≤ request.targetVersion) (json : request.Json)
    (standing : Standing env s.db context.tenantId idempotencyKey first.toCommandRequest command approval)
    (intended : Intended env s.db context.tenantId first command approval intent)
    (same : env.digest first.material = env.digest request.material)
    (same_intent : env.digest (first.intentMaterial approval.expiresAt) = env.digest (request.intentMaterial approval.expiresAt)) :
    (requestApproval env context request.kind request.targetRef request.payload idempotencyKey request.policyVersion
      request.targetVersion request.evidence).run s = (.ok (command, approval), s) := by
  have created : (createCommand env context request.kind request.targetRef request.payload idempotencyKey
      request.evidence).run s = (.ok (command, approval), s) := createCommand_replays authorized written standing same
  rw [requestApproval, transaction_eq_ok]
  simp only [bind_eq_ok, ensure_eq_ok, strictIntentDigest_eq_ok, getApprovalIntent, query_eq_ok, exists_and_left,
    exists_eq_left, exists_eq_left', exists_const, and_assoc]
  refine ⟨versions.1, versions.2, (given_strict request).mpr json, (command, approval), _, created, ?_⟩
  simp only [intended.intent_found, bind_eq_ok, ensure_eq_ok, checkIntent_eq_ok, pure_eq_ok, exists_and_left,
    exists_eq_left, exists_const, and_assoc]
  exact ⟨intentMaterial_strict json _, intended.digest.trans same_intent, intended.matching, trivial, trivial⟩

theorem requestApproval_refuses (authorized : Authorized s.db context request.kind.capability)
    (written : ¬ blankKey idempotencyKey)
    (standing : Standing env s.db context.tenantId idempotencyKey first.toCommandRequest command approval)
    (intended : Intended env s.db context.tenantId first command approval intent)
    (differs : env.digest first.material ≠ env.digest request.material ∨
      env.digest (first.intentMaterial approval.expiresAt) ≠ env.digest (request.intentMaterial approval.expiresAt)) :
    ∃ message, (requestApproval env context request.kind request.targetRef request.payload idempotencyKey
      request.policyVersion request.targetVersion request.evidence).run s = (.error (conflictError message), s) := by
  by_cases versions : 1 ≤ request.policyVersion ∧ 1 ≤ request.targetVersion
  swap
  · refine ⟨"positive policy and target versions required", transaction_raises ((bind_eq_error _ _ _ _ _).mpr (.inl ?_))⟩
    exact (ensure_eq_error _ _ _ _ _).mpr ⟨versions, rfl, rfl⟩
  have passed := (ensure_eq_ok (1 ≤ request.policyVersion ∧ 1 ≤ request.targetVersion)
    (conflictError "positive policy and target versions required") s s ()).mpr ⟨versions, rfl⟩
  by_cases json : request.Json
  swap
  · refine ⟨"intent must contain finite JSON values with string keys", transaction_raises ((bind_eq_error _ _ _ _ _).mpr
      (.inr ⟨_, _, passed, (bind_eq_error _ _ _ _ _).mpr (.inl ?_)⟩))⟩
    refine (bind_eq_error _ _ _ _ _).mpr (.inl ((ensure_eq_error _ _ _ _ _).mpr ⟨?_, rfl, rfl⟩))
    exact fun strict => json ((given_strict request).mp strict)
  have encoded : (strictIntentDigest env request.given).run s = (.ok (env.digest request.given), s) :=
    strictIntentDigest_eq_ok.mpr ⟨(given_strict request).mpr json, rfl, rfl⟩
  by_cases same : env.digest first.material = env.digest request.material
  swap
  · refine ⟨"idempotency key reused for different command", transaction_raises ((bind_eq_error _ _ _ _ _).mpr
      (.inr ⟨_, _, passed, (bind_eq_error _ _ _ _ _).mpr (.inr ⟨_, _, encoded, ?_⟩)⟩))⟩
    exact (bind_eq_error _ _ _ _ _).mpr (.inl (createCommand_refuses authorized written standing same))
  -- the command is the same, so what differs is its evidence or a version
  have created : (createCommand env context request.kind request.targetRef request.payload idempotencyKey
      request.evidence).run s = (.ok (command, approval), s) := createCommand_replays authorized written standing same
  have digested : (strictIntentDigest env (request.intentMaterial approval.expiresAt)).run s =
      (.ok (env.digest (request.intentMaterial approval.expiresAt)), s) :=
    strictIntentDigest_eq_ok.mpr ⟨intentMaterial_strict json _, rfl, rfl⟩
  have prior : (getApprovalIntent context.tenantId command.id).run s = (.ok (some intent), s) :=
    (query_eq_ok _ _ _ _).mpr ⟨intended.intent_found, rfl⟩
  refine ⟨"idempotent approval intent mismatch", transaction_raises ((bind_eq_error _ _ _ _ _).mpr
    (.inr ⟨_, _, passed, (bind_eq_error _ _ _ _ _).mpr (.inr ⟨_, _, encoded, ?_⟩)⟩))⟩
  refine (bind_eq_error _ _ _ _ _).mpr (.inr ⟨_, _, created, (bind_eq_error _ _ _ _ _).mpr (.inr ⟨_, _, digested, ?_⟩)⟩)
  refine (bind_eq_error _ _ _ _ _).mpr (.inr ⟨_, _, prior, (bind_eq_error _ _ _ _ _).mpr (.inl ?_)⟩)
  refine (ensure_eq_error _ _ _ _ _).mpr ⟨fun equal => ?_, rfl, rfl⟩
  exact differs.elim (fun other => other same) fun other => other (intended.digest.symm.trans equal)

theorem Intended.later (intended : Intended env s.db context.tenantId first command approval intent) {now : Command}
    {later : Approval} (found : s.db.commands.get? (context.tenantId, command.id) = some command)
    (now_found : t.db.commands.get? (context.tenantId, now.id) = some now) (named : now.id = command.id)
    (same : SameRequest approval later) (onward : Onward s.db t.db) :
    Intended env t.db context.tenantId first now later intent := by
  obtain ⟨other, other_found, kind, targetRef, payload⟩ := onward.commands _ _ found
  rw [← named, now_found] at other_found
  cases other_found
  refine ⟨?_, ?_, ?_⟩
  · rw [named]
    exact onward.intents _ _ intended.intent_found
  · rw [same.expiresAt]
    exact intended.digest
  · constructor <;> rw [kind, targetRef, payload, same.evidence, same.expiresAt]
    · exact intended.matching.strict
    · exact intended.matching.digest

end

/-! ## Every later state -/

/-- From the state behind a call of a run to one that the run reaches later. -/
theorem run_onward (before : List (LifecycleCall env)) (call : LifecycleCall env) (after : List (LifecycleCall env)) :
    Retained (step env call (final (step env) Execution.newSession before)).2.db
        (final (step env) Execution.newSession (before ++ call :: after)).db ∧
      Onward (step env call (final (step env) Execution.newSession before)).2.db
        (final (step env) Execution.newSession (before ++ call :: after)).db := by
  have lockstep := (step_lockstep (@run_lockstep env before) call).1
  rw [Library.final_split, Library.final_concat]
  have history : ReflTransGen (Evolution env) (step env call (final (step env) Execution.newSession before)).2
      (final (step env) (step env call (final (step env) Execution.newSession before)).2 after) :=
    Library.final_relates (ReflTransGen (Evolution env)) (fun _ => .refl) (fun _ _ _ left right => left.trans right)
      fun call _ state => step_evolves call state
  exact ⟨history_retained lockstep history, (evolutions_lockstep lockstep history).2⟩

/-- A call that answers with rows has run the operation that returns them. -/
theorem rows_returned {operation : Op (Command × Approval)} {command : Command} {approval : Approval}
    (returned : ((do
      let rows ← operation
      pure (some rows) : Op (Option (Command × Approval))).run s).1 = .ok (some (command, approval))) :
    operation.run s = (.ok (command, approval), ((do
      let rows ← operation
      pure (some rows) : Op (Option (Command × Approval))).run s).2) := by
  rw [run_bind] at returned ⊢
  rcases ran : operation.run s with ⟨why | rows, t⟩ <;> rw [ran] at returned
  · cases returned
  · cases returned
    rfl

/-- Behind every run in which a request has succeeded, an equal request of a member of the tenant under the same key
returns the same command and approval and writes nothing, and any other request under the key is refused and writes
nothing; for an approval the evidence and the versions count too. -/
theorem commands_idempotent (env : Env) (before after : List (LifecycleCall env)) (context member : TenantContext)
    (tenant : member.tenantId = context.tenantId) (idempotencyKey : CommandKey) (command : Command) (approval : Approval) :
    let reached := final (step env) Execution.newSession
    (∀ (request other : CommandRequest) (evidence otherEvidence : List Mapping),
      let call := LifecycleCall.createCommand context request.kind request.targetRef request.payload idempotencyKey evidence
      let now := reached (before ++ call :: after)
      let again := createCommand env member other.kind other.targetRef other.payload idempotencyKey otherEvidence
      (step env call (reached before)).1 = .ok (some (command, approval)) →
      Authorized now.db member other.kind.capability → Faithful env request.material other.material →
      (request.Equal other → ∃ sameCommand sameApproval, again.run now = (.ok (sameCommand, sameApproval), now) ∧
        sameCommand.id = command.id ∧ sameApproval.id = approval.id) ∧
      (¬ request.Equal other → ∃ message, again.run now = (.error (conflictError message), now))) ∧
    (∀ request other : ApprovalRequest,
      let call := LifecycleCall.requestApproval context request.kind request.targetRef request.payload idempotencyKey
        request.policyVersion request.targetVersion request.evidence
      let now := reached (before ++ call :: after)
      let again := requestApproval env member other.kind other.targetRef other.payload idempotencyKey other.policyVersion
        other.targetVersion other.evidence
      (step env call (reached before)).1 = .ok (some (command, approval)) →
      Authorized now.db member other.kind.capability → Faithful env request.material other.material →
      Faithful env (request.intentMaterial approval.expiresAt) (other.intentMaterial approval.expiresAt) →
      (request.Equal other → other.Json → ∃ sameCommand sameApproval, again.run now = (.ok (sameCommand, sameApproval), now) ∧
        sameCommand.id = command.id ∧ sameApproval.id = approval.id) ∧
      (¬ request.Equal other → ∃ message, again.run now = (.error (conflictError message), now))) := by
  intro reached
  constructor
  · intro request other evidence otherEvidence call now again returned authorized faithful
    obtain ⟨written, standing⟩ := createCommand_standing (rows_returned returned)
    obtain ⟨retained, onward⟩ := run_onward before call after
    obtain ⟨row, later, stands, named, same⟩ := standing.later retained onward
    rw [← tenant] at stands
    constructor
    · intro equal
      refine ⟨row, later, createCommand_replays authorized written stands ?_, named, same.id⟩
      exact faithful.mpr ((material_eq_iff _ _).mpr equal)
    · intro differs
      refine ⟨_, createCommand_refuses authorized written stands fun digests => differs ?_⟩
      exact (material_eq_iff _ _).mp (faithful.mp digests)
  · intro request other call now again returned authorized faithful faithful_intent
    obtain ⟨written, policy, target, standing, intent, intended⟩ := requestApproval_standing (rows_returned returned)
    obtain ⟨retained, onward⟩ := run_onward before call after
    obtain ⟨row, later, stands, named, same⟩ := standing.later retained onward
    have intends := intended.later standing.command_found stands.command_found named same onward
    rw [← tenant] at stands intends
    rw [← same.expiresAt] at faithful_intent
    constructor
    · intro equal json
      have versions : 1 ≤ other.policyVersion ∧ 1 ≤ other.targetVersion := by
        rw [← equal.policyVersion, ← equal.targetVersion]
        exact ⟨policy, target⟩
      refine ⟨row, later, requestApproval_replays authorized written versions json stands intends ?_ ?_, named, same.id⟩
      · exact faithful.mpr ((material_eq_iff _ _).mpr equal.command)
      · exact faithful_intent.mpr ((intentMaterial_eq_iff _ _ _).mpr equal)
    · intro differs
      apply requestApproval_refuses authorized written stands intends
      by_cases digests : env.digest request.material = env.digest other.material
      · refine .inr fun intent_digests => differs ?_
        exact (intentMaterial_eq_iff _ _ _).mp (faithful_intent.mp intent_digests)
      · exact .inl digests

/-! ## A rejected refund -/

/-- A refund of nothing, and the request that its key is tried with next. -/
def refundRequest (payload : Mapping) : CommandRequest := ⟨.refund, .text "order", payload⟩

def requestedRefund : LifecycleCall idleEnv :=
  .createCommand Execution.demoMaster .refund (.text "order") [] (.text "refund") []

def rejectedRefund : Session Store :=
  final (step idleEnv) Execution.newSession ([bootstrapped] ++ requestedRefund :: [.decide Execution.demoMaster 4 false "no"])

theorem commands_idempotent_rejected : ∃ command approval,
    (step idleEnv requestedRefund (final (step idleEnv) Execution.newSession [bootstrapped])).1 =
      .ok (some (command, approval)) ∧
    (∃ sameCommand sameApproval,
      (createCommand idleEnv Execution.demoMaster .refund (.text "order") [] (.text "refund") []).run rejectedRefund =
        (.ok (sameCommand, sameApproval), rejectedRefund) ∧ sameCommand.id = command.id ∧ sameApproval.id = approval.id) ∧
    ∃ message, (createCommand idleEnv Execution.demoMaster .refund (.text "order") [("amount", .int 1)] (.text "refund")
      []).run rejectedRefund = (.error (conflictError message), rejectedRefund) := by
  have allowed : ((require Execution.demoMaster ApprovalKind.refund.capability).run rejectedRefund).1.isOk = true := by
    decide +kernel
  have answered : (step idleEnv requestedRefund
      (final (step idleEnv) Execution.newSession [bootstrapped])).1.toOption.join.isSome = true := by
    decide +kernel
  have authorized : Authorized rejectedRefund.db Execution.demoMaster ApprovalKind.refund.capability := by
    rcases ran : (require Execution.demoMaster ApprovalKind.refund.capability).run rejectedRefund with ⟨why | _, t⟩
    · rw [ran] at allowed
      cases allowed
    · exact (require_eq_ok.mp ran).1
  rcases outcome : (step idleEnv requestedRefund
      (final (step idleEnv) Execution.newSession [bootstrapped])).1 with why | _ | ⟨command, approval⟩
  · rw [outcome] at answered
    cases answered
  · rw [outcome] at answered
    cases answered
  · have idempotent := (commands_idempotent idleEnv [bootstrapped] [.decide Execution.demoMaster 4 false "no"]
      Execution.demoMaster Execution.demoMaster rfl (.text "refund") command approval).1 (refundRequest [])
    have same := idempotent (refundRequest []) [] [] outcome authorized (iff_of_true rfl rfl)
    have other := idempotent (refundRequest [("amount", .int 1)]) [] [] outcome authorized
      (iff_of_false (by decide +kernel) (by decide +kernel))
    refine ⟨command, approval, rfl, same.1 ⟨rfl, rfl, rfl⟩, other.2 fun equal => ?_⟩
    exact absurd equal.payload (by decide +kernel)

end AiStore.Approvals
