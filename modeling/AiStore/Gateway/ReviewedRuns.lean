import AiStore.Gateway.Reviewed
import AiStore.Gateway.ToolReplay

/-! What an accepted submission of a reviewed fixture stands on, over whole runs of the service. -/

set_option autoImplicit false

namespace AiStore.Gateway

open Library (Session Table final except_bind_eq_ok)
open Library.Txn Failure Repository Service Approvals
open Relation (ReflTransGen)
open Offline (Checked Presented Review)

variable {env : Env} {hash : String → String} {spelled : Uuid → String} {context : TenantContext} {s t : Session Store}
  {reviewed other : Reviewed} {connectionRef : String}

/-! ## Reviews in force -/

namespace Reviewed

/-- The reviews that a bridge carries, one or those of its batch. -/
def reviews : Reviewed → List Review
  | tracking review => [.tracking review]
  | dispatch review => [.dispatch review]
  | split review => [.split review]
  | listing review _ => [.listing review]
  | returned review => [.returned review]
  | trackingBatch batch => batch.reviews
  | returnBatch batch => batch.reviews.map .returned

/-- Every review may be accepted under the scope at the time. -/
def InForce (reviewed : Reviewed) (tenantRef connectionRef : String) (time : Timestamp) : Prop :=
  ∀ review ∈ reviewed.reviews, (tenantRef = review.tenantRef ∧ connectionRef = review.connectionRef) ∧
    review.startsAt ≤ time ∧ time < review.expiresAt

theorem inForce_single (reviewed : Reviewed) {review : Review} (alone : reviewed.reviews = [review]) {presented : Presented} {time : Timestamp}
    (known : presented.now = some time) {result : String} (accepted : review.verify hash presented = .ok result) :
    reviewed.InForce presented.tenantRef presented.connectionRef time := by
  obtain ⟨scope, -, now, told, window⟩ := Offline.verify_ok accepted
  rw [InForce, alone, List.forall_mem_singleton, Option.some.inj (known.symm.trans told)]
  exact ⟨scope, window⟩

theorem inForce_of_verify {presented : Presented} {time : Timestamp} (known : presented.now = some time) {result : String}
    (accepted : reviewed.verify hash presented = .ok result) :
    reviewed.InForce presented.tenantRef presented.connectionRef time := by
  cases reviewed with
  | tracking review => exact inForce_single (.tracking review) rfl known accepted
  | dispatch review => exact inForce_single (.dispatch review) rfl known accepted
  | split review => exact inForce_single (.split review) rfl known accepted
  | listing review offerId => exact inForce_single (.listing review offerId) rfl known accepted
  | returned review => exact inForce_single (.returned review) rfl known accepted
  | trackingBatch batch =>
    simp only [verify, Offline.verifyTrackingBatch, Offline.buildTrackingBatch, except_bind_eq_ok] at accepted
    obtain ⟨_, ⟨_, -, _, -, _, checked, -⟩, -⟩ := accepted
    intro review member
    obtain ⟨scope, now, told, window⟩ := (Offline.batchReviews_ok checked).1 review member
    rw [Option.some.inj (known.symm.trans told)]
    exact ⟨scope, window⟩
  | returnBatch batch =>
    obtain ⟨built, -⟩ := Offline.verifyReturnBatch_ok.mp ⟨result, accepted⟩
    obtain ⟨batchable, -⟩ := Offline.buildReturnBatch_eq_ok.mp built
    intro review member
    obtain ⟨returned, inside, rfl⟩ := List.mem_map.mp member
    obtain ⟨scope, -, now, told, window⟩ := batchable.live returned inside
    rw [Option.some.inj (known.symm.trans told)]
    exact ⟨scope, window⟩

/-- The tool of a bridge takes the kind of approval that the bridge asks for, and no other. -/
theorem toolApprovalKinds_tool (reviewed : Reviewed) : toolApprovalKinds reviewed.tool = [reviewed.kind] := by
  cases reviewed <;> simp only [tool, kind] <;> decide

theorem mutating_tool (reviewed : Reviewed) : Mutating reviewed.tool := by
  cases reviewed <;> simp only [tool] <;> decide

end Reviewed

/-! ## What the bridges read -/

@[simp] theorem quarantined_eq_ok {α : Type} {outcome : Checked α} {result : α} :
    (quarantined outcome).run s = (.ok result, t) ↔ outcome = .ok result ∧ t = s := by
  cases outcome with
  | ok found => rw [quarantined, pure_eq_ok, Except.ok.injEq, eq_comm (a := found)]
  | error failure => simp [quarantined]

theorem keeps_quarantined {α υ : Type} {view : Store → υ} (outcome : Checked α) : Keeps view (quarantined outcome) := by
  cases outcome with
  | ok found => exact keeps_pure _
  | error failure => exact keeps_raise _

theorem keeps_verifyReviewed {υ : Type} {view : Store → υ} :
    Keeps view (verifyReviewed env hash spelled context reviewed connectionRef) :=
  (keeps_quarantined _).bind fun _ => keeps_now.bind fun _ => (keeps_quarantined _).bind fun _ => keeps_pure _

theorem verifyReviewed_ok {u : Unit}
    (ran : (verifyReviewed env hash spelled context reviewed connectionRef).run s = (.ok u, t)) :
    reviewed.InForce (spelled context.tenantId) connectionRef (env.clock s.reads) ∧
      t = { s with reads := s.reads + 1 } := by
  simp only [verifyReviewed, bind_eq_ok, quarantined_eq_ok, now_eq_ok, pure_eq_ok] at ran
  obtain ⟨digest, _, ⟨-, rfl⟩, _, _, ⟨rfl, rfl⟩, result, _, ⟨accepted, rfl⟩, -, rfl⟩ := ran
  exact ⟨Reviewed.inForce_of_verify rfl accepted, rfl⟩

theorem submitReviewed_ok {approvalId : Ident} {idempotencyKey : String} {policyVersion : Int} {reply : ToolReply}
    (ran : (submitReviewed env hash spelled context reviewed connectionRef approvalId idempotencyKey policyVersion).run s =
      (.ok reply, t)) :
    reviewed.InForce (spelled context.tenantId) connectionRef (env.clock s.reads) ∧
      ∃ targetId payload, reviewed.targetId hash = .ok targetId ∧ reviewed.payload hash = .ok payload ∧
        (submitDemoTool env context (reviewedSubmission reviewed targetId payload approvalId idempotencyKey policyVersion)).run
          { s with reads := s.reads + 1 } = (.ok reply, t) := by
  simp only [submitReviewed, bind_eq_ok, quarantined_eq_ok] at ran
  obtain ⟨_, _, verified, targetId, _, ⟨target, rfl⟩, payload, _, ⟨projection, rfl⟩, ran⟩ := ran
  obtain ⟨inForce, rfl⟩ := verifyReviewed_ok verified
  exact ⟨inForce, targetId, payload, target, projection, ran⟩

/-- Behind a review in force, a bridge is the call that it makes with the projection. -/
theorem bridged_run {α : Type} {next : String → Mapping → Op α} {digest result targetId : String} {payload : Mapping}
    (digested : reviewed.approvalDigest hash = .ok digest)
    (verified : reviewed.verify hash ⟨digest, spelled context.tenantId, connectionRef, some (env.clock s.reads)⟩ = .ok result)
    (target : reviewed.targetId hash = .ok targetId) (projection : reviewed.payload hash = .ok payload) :
    (do
      verifyReviewed env hash spelled context reviewed connectionRef
      let targetId ← quarantined (reviewed.targetId hash)
      let payload ← quarantined (reviewed.payload hash)
      next targetId payload).run s = (next targetId payload).run { s with reads := s.reads + 1 } := by
  have pass : ∀ {β : Type} (value : β) (s : Session Store), (quarantined (.ok value)).run s = (.ok value, s) :=
    fun _ _ => rfl
  have checked : (verifyReviewed env hash spelled context reviewed connectionRef).run s =
      (.ok (), { s with reads := s.reads + 1 }) := by
    simp only [verifyReviewed, bind_eq_ok, quarantined_eq_ok, now_eq_ok, pure_eq_ok]
    exact ⟨digest, s, ⟨digested, rfl⟩, _, _, ⟨rfl, rfl⟩, result, _, ⟨verified, rfl⟩, trivial, rfl⟩
  simp only [run_bind, checked, target, projection, pass]

/-! ## Calls -/

/-- A call of a bridge, or of the service behind the bridges. -/
inductive BridgeCall (env : Env) where
  | request (context : TenantContext) (reviewed : Reviewed) (connectionRef idempotencyKey : String)
      (policyVersion targetVersion : Int)
  | submit (context : TenantContext) (reviewed : Reviewed) (connectionRef : String) (approvalId : Ident)
      (idempotencyKey : String) (policyVersion : Int)
  | tool (call : ToolCall env)

namespace Bridge

def perform (hash : String → String) (spelled : Uuid → String) : BridgeCall env → Op (Option ToolReply)
  | .request context reviewed connectionRef idempotencyKey policyVersion targetVersion => do
      let _ ← requestReviewed env hash spelled context reviewed connectionRef idempotencyKey policyVersion targetVersion
      pure none
  | .submit context reviewed connectionRef approvalId idempotencyKey policyVersion => do
      let reply ← submitReviewed env hash spelled context reviewed connectionRef approvalId idempotencyKey policyVersion
      pure (some reply)
  | .tool call => Tool.perform call

def step (env : Env) (hash : String → String) (spelled : Uuid → String) (call : BridgeCall env) (s : Session Store) :
    ToolResult × Session Store := (perform hash spelled call).run s

end Bridge

theorem submitDemoTool_settles {submission : ToolSubmission} :
    Settles (Change env) (submitDemoTool env context submission) := by
  intro s
  rcases ran : (submitDemoTool env context submission).run s with ⟨why | reply, t⟩
  · have advances := (submitDemoTool env context submission).advances s
    rw [ran] at advances
    exact .single (change_idles _ _ (submitDemoTool_error ran) advances)
  · exact submitDemoTool_changes ran

/-- A bridge reads before it hands the projection on. -/
theorem bridged_settles {α : Type} {next : String → Mapping → Op α}
    (settles : ∀ targetId payload, Settles (Change env) (next targetId payload)) :
    Settles (Change env) (do
      verifyReviewed env hash spelled context reviewed connectionRef
      let targetId ← quarantined (reviewed.targetId hash)
      let payload ← quarantined (reviewed.payload hash)
      next targetId payload) := by
  apply Settles.bind (settles_reading fun _ => keeps_verifyReviewed)
  intro _
  apply Settles.bind (settles_reading fun _ => keeps_quarantined _)
  intro targetId
  apply Settles.bind (settles_reading fun _ => keeps_quarantined _)
  exact settles targetId

theorem bridge_step_evolves (call : BridgeCall env) (s : Session Store) :
    ReflTransGen (Evolution env) s (Bridge.step env hash spelled call s).2 := by
  have pass : ∀ {α : Type} (value : α), Settles (Change env) (pure value : Op α) := fun _ =>
    settles_reading fun _ => keeps_pure _
  have lift : ∀ {t : Session Store}, ReflTransGen (Change env) s t → ReflTransGen (Evolution env) s t := fun changes =>
    ReflTransGen.mono (fun _ _ change => .inl change) _ _ changes
  cases call with
  | request context reviewed connectionRef idempotencyKey policyVersion targetVersion =>
    have requesting : Settles (Change env) (requestReviewed env hash spelled context reviewed connectionRef idempotencyKey
        policyVersion targetVersion) := bridged_settles fun _ _ => requestApproval_settles
    exact lift ((requesting.bind fun _ => pass _) s)
  | submit context reviewed connectionRef approvalId idempotencyKey policyVersion =>
    have submitting : Settles (Change env) (submitReviewed env hash spelled context reviewed connectionRef approvalId
        idempotencyKey policyVersion) := bridged_settles fun _ _ => submitDemoTool_settles
    exact lift ((submitting.bind fun _ => pass _) s)
  | tool call => exact tool_step_evolves call s

theorem bridge_run_evolves (calls : List (BridgeCall env)) (s : Session Store) :
    ReflTransGen (Evolution env) s (final (Bridge.step env hash spelled) s calls) := by
  induction calls generalizing s with
  | nil => exact .refl
  | cons call rest ih => exact (bridge_step_evolves call s).trans (ih _)

theorem bridge_run_reached (calls : List (BridgeCall env)) :
    Reached (final (Bridge.step env hash spelled) Execution.newSession calls) :=
  reached_newSession.evolutions (bridge_run_evolves calls _)

theorem Bridge.step_submit_ok {approvalId : Ident} {idempotencyKey : String} {policyVersion : Int} {reply : ToolReply}
    (answered : (Bridge.step env hash spelled
      (.submit context reviewed connectionRef approvalId idempotencyKey policyVersion) s).1 = .ok (some reply)) :
    (submitReviewed env hash spelled context reviewed connectionRef approvalId idempotencyKey policyVersion).run s =
      (.ok reply, (Bridge.step env hash spelled
        (.submit context reviewed connectionRef approvalId idempotencyKey policyVersion) s).2) := by
  simp only [Bridge.step, Bridge.perform, run_bind] at answered ⊢
  rcases ran : (submitReviewed env hash spelled context reviewed connectionRef approvalId idempotencyKey policyVersion).run s
    with ⟨why | result, t⟩ <;> rw [ran] at answered
  · cases answered
  · cases answered
    rfl

section

variable {digest result targetId : String} {payload : Mapping}
  (digested : reviewed.approvalDigest hash = .ok digest)
  (verified : reviewed.verify hash ⟨digest, spelled context.tenantId, connectionRef, some (env.clock s.reads)⟩ = .ok result)
  (target : reviewed.targetId hash = .ok targetId) (projection : reviewed.payload hash = .ok payload)

include digested verified target projection

/-- Behind its verification a bridge is a call of the service. -/
theorem Bridge.step_request_run {idempotencyKey : String} {policyVersion targetVersion : Int} :
    Bridge.step env hash spelled
      (.request context reviewed connectionRef idempotencyKey policyVersion targetVersion) s =
        Tool.step env (.lifecycle (.requestApproval context reviewed.kind (.text (reviewed.targetType ++ ":" ++ targetId))
          payload (.text idempotencyKey) policyVersion targetVersion [reviewed.evidence connectionRef]))
          { s with reads := s.reads + 1 } := by
  have asked : (requestReviewed env hash spelled context reviewed connectionRef idempotencyKey policyVersion
      targetVersion).run s = _ := bridged_run digested verified target projection
  simp only [Bridge.step, Bridge.perform, Tool.step, Tool.perform, Approvals.perform, run_bind, asked]
  rcases (requestApproval env context reviewed.kind (.text (reviewed.targetType ++ ":" ++ targetId)) payload
    (.text idempotencyKey) policyVersion targetVersion [reviewed.evidence connectionRef]).run
      { s with reads := s.reads + 1 } with ⟨why | rows, t⟩ <;> rfl

theorem Bridge.step_submit_run {approvalId : Ident} {idempotencyKey : String} {policyVersion : Int} :
    Bridge.step env hash spelled (.submit context reviewed connectionRef approvalId idempotencyKey policyVersion) s =
      Tool.step env (.submit context (reviewedSubmission reviewed targetId payload approvalId idempotencyKey policyVersion))
        { s with reads := s.reads + 1 } := by
  have asked : (submitReviewed env hash spelled context reviewed connectionRef approvalId idempotencyKey policyVersion).run
      s = _ := bridged_run digested verified target projection
  simp only [Bridge.step, Bridge.perform, Tool.step, Tool.perform, run_bind, asked]

end

/-! ## Warrants -/

/-- What an accepted submission of a bridge rests on when it is answered. -/
structure Warranted (env : Env) (hash : String → String) (s : Session Store) (tenantRef : String) (context : TenantContext)
    (reviewed : Reviewed) (connectionRef : String) (approvalId : Ident) (policyVersion : Int) (approval : Approval)
    (command : Command) (intent : ApprovalIntent) : Prop where
  inForce : reviewed.InForce tenantRef connectionRef (env.clock s.reads)
  named : approval ∈ s.db.approvals.rows ∧ approval.tenantId = context.tenantId ∧ .uuid approval.id = approvalId
  kind : command.kind = reviewed.kind
  target : ∃ targetId, reviewed.targetId hash = .ok targetId ∧
    command.targetRef = .text (reviewed.targetType ++ ":" ++ targetId)
  payload : ∃ payload, reviewed.payload hash = .ok payload ∧ sorted (.dict command.payload) = sorted (.dict payload)
  /-- The gateway reads the clock behind the bridge. -/
  executable : Service.Executable env s.db context command.id policyVersion intent.targetVersion (env.clock (s.reads + 1))
    command approval intent

/-- A mutating command that an answer reports as accepted has just stood the check of its approval. -/
theorem unblocked_of_accepted (reached : Reached s) {submission : ToolSubmission} {reply : ToolReply}
    (mutating : Mutating submission.tool) (ran : (submitDemoTool env context submission).run s = (.ok reply, t))
    (accepted : reply.state = .accepted) : reply.nextAction = none := by
  have later : ReflTransGen (Evolution env) s t :=
    ReflTransGen.mono (fun _ _ change => .inl change) _ _ (submitDemoTool_changes ran)
  obtain ⟨row, member, -, -, -, state, request⟩ := (submitDemoTool_kept reached ran).row
  have tool : row.tool = submission.tool := congrArg ToolRequest.tool request
  obtain ⟨approval, command, intent, stands⟩ :=
    (reached.evolutions later).book.stands row member ⟨state.trans accepted, tool ▸ mutating⟩
  -- a blocked answer would be kept without its approval
  have approvals : row.approvalId = (keptRequest submission reply.nextAction).approvalId :=
    congrArg ToolRequest.approvalId request
  rw [stands.named.1] at approvals
  by_contra blocked
  simp [keptRequest, blocked] at approvals

theorem Matched.approval {db : Store} {tenant : Uuid} {submission : ToolSubmission} {approvalId : Ident} {approval : Approval}
    {command : Command} {intent : ApprovalIntent} (matched : Matched env db tenant submission approvalId approval command intent) :
    (approval ∈ db.approvals.rows ∧ approval.tenantId = tenant ∧ .uuid approval.id = approvalId) ∧
      db.approvals.get? (tenant, command.id) = some approval ∧ db.commands.get? (tenant, command.id) = some command := by
  have member := List.mem_of_find?_eq_some matched.approval_found
  have named := List.find?_some matched.approval_found
  simp only [decide_eq_true_eq] at named
  have id := (command_named matched.command_found).2
  have key := Table.get?_key _ member
  rw [id]
  refine ⟨⟨member, named⟩, ?_, matched.command_found⟩
  rw [← named.1]
  exact key

theorem warranted_of_accepted (reached : Reached s) {approvalId : Ident} {idempotencyKey : String} {policyVersion : Int}
    {reply : ToolReply} (accepted : reply.state = .accepted)
    (ran : (submitReviewed env hash spelled context reviewed connectionRef approvalId idempotencyKey policyVersion).run s =
      (.ok reply, t)) :
    ∃ approval command intent, Warranted env hash s (spelled context.tenantId) context reviewed connectionRef approvalId
      policyVersion approval command intent := by
  obtain ⟨inForce, targetId, payload, target, projection, ran⟩ := submitReviewed_ok ran
  have idle : Evolution env s { s with reads := s.reads + 1 } :=
    .inl (change_idles _ _ rfl ⟨Nat.le_succ _, Nat.le_refl _⟩)
  have mutating : Mutating
      (reviewedSubmission reviewed targetId payload approvalId idempotencyKey policyVersion).tool := reviewed.mutating_tool
  have unblocked := unblocked_of_accepted (reached.evolution idle) mutating ran accepted
  obtain ⟨-, -, verdict, middle, value, judging, -, shape⟩ := submitDemoTool_eq_ok.mp ran
  have decides := (judge_ok judging).decides
  have blocked : verdict.blocked = none := by rw [← unblocked, shape]
  rw [blocked] at decides
  cases decides with
  | bookkeeping _ reading => exact absurd mutating reading
  | @cleared given _ _ presented cleared =>
    cases presented
    obtain ⟨approval, command, intent, matched, -, preparable⟩ := cleared
    obtain ⟨_, _, executable⟩ := preparable.executable
    obtain ⟨named, approval_found, command_found⟩ := matched.approval
    cases Option.some.inj (executable.command_found.symm.trans command_found)
    cases Option.some.inj (executable.approval_found.symm.trans approval_found)
    have kind : command.kind ∈ toolApprovalKinds reviewed.tool := matched.kind
    rw [reviewed.toolApprovalKinds_tool, List.mem_singleton] at kind
    have policy : intent.policyVersion = policyVersion := matched.policy_version
    rw [policy] at executable
    exact ⟨approval, command, intent, inForce, named, kind, ⟨targetId, target, matched.target⟩,
      ⟨payload, projection, matched.payload⟩, executable⟩

/-- In every run of the bridges, the gateway and the approvals, a submission of a bridge that is answered as accepted
rests on reviews in force under its scope and on an executable approval of this very projection, target and kind. -/
theorem accepted_review_warranted (env : Env) (hash : String → String) (spelled : Uuid → String)
    (calls : List (BridgeCall env)) (context : TenantContext) (reviewed : Reviewed) (connectionRef : String)
    (approvalId : Ident) (idempotencyKey : String) (policyVersion : Int) (reply : ToolReply)
    (answered : (Bridge.step env hash spelled
      (.submit context reviewed connectionRef approvalId idempotencyKey policyVersion)
      (final (Bridge.step env hash spelled) Execution.newSession calls)).1 = .ok (some reply))
    (accepted : reply.state = .accepted) :
    ∃ approval command intent, Warranted env hash (final (Bridge.step env hash spelled) Execution.newSession calls)
      (spelled context.tenantId) context reviewed connectionRef approvalId policyVersion approval command intent :=
  warranted_of_accepted (bridge_run_reached calls) accepted (Bridge.step_submit_ok answered)

/-! ## One review for one approval -/

theorem sortedEntries_eq_map (entries : Mapping) :
    sortedEntries entries = entries.map fun entry => (entry.1, sorted entry.2) := by
  induction entries with
  | nil => rfl
  | cons entry rest ih => rw [sortedEntries, ih, List.map_cons]

theorem eq_text_of_sorted {value : Value} {text : String} (same : sorted value = .text text) : value = .text text := by
  cases value with
  | text other => exact same
  | _ => simp [sorted] at same

/-- Two objects of one encoding hold the same texts under the same names. -/
theorem text_mem_of_sorted {first second : Mapping} (same : sorted (.dict first) = sorted (.dict second))
    {key text : String} (member : (key, .text text) ∈ first) : (key, .text text) ∈ second := by
  rw [sorted, sorted, Value.dict.injEq] at same
  have here : (key, .text text) ∈ sortedEntries first := by
    rw [sortedEntries_eq_map]
    exact List.mem_map.mpr ⟨_, member, rfl⟩
  rw [← List.mem_insertionSort (fun first second => keyLe first second), same, List.mem_insertionSort,
    sortedEntries_eq_map] at here
  obtain ⟨entry, inside, equal⟩ := List.mem_map.mp here
  obtain ⟨name, kept⟩ := Prod.mk.inj equal
  rwa [← name, ← eq_text_of_sorted kept]

namespace Reviewed

variable {payload : Mapping} {digest : String}

theorem payload_eq_ok : reviewed.payload hash = .ok payload ↔ ∃ digest, reviewed.approvalDigest hash = .ok digest ∧
    ∃ details, reviewed.details hash = .ok details ∧
      payload = ("contract", .text reviewed.contract) :: reviewed.lead ++
        (reviewed.digestKey, .text digest) :: details := by
  simp only [Reviewed.payload, except_bind_eq_ok]
  constructor
  · rintro ⟨digest, named, details, shown, same⟩
    exact ⟨digest, named, details, shown, (Except.ok.inj same).symm⟩
  · rintro ⟨digest, named, details, shown, rfl⟩
    exact ⟨digest, named, details, shown, rfl⟩

/-- The names that the two heads of a projection have for themselves. -/
def ownNames : List String := ["contract", "fixture_review_digest", "fixture_batch_digest"]

theorem details_names {details : Mapping} (shown : reviewed.details hash = .ok details) :
    ∀ entry ∈ details, entry.1 ∉ ownNames := by
  cases reviewed with
  | tracking review | dispatch review | split review | listing review _ | returned review =>
    cases shown
    simp [ownNames]
  | trackingBatch batch =>
    simp only [Reviewed.details, except_bind_eq_ok] at shown
    obtain ⟨digests, -, identities, -, same⟩ := shown
    cases same
    simp [ownNames]
  | returnBatch batch =>
    simp only [Reviewed.details, except_bind_eq_ok] at shown
    obtain ⟨items, -, same⟩ := shown
    cases same
    simp [ownNames]

theorem lead_names (reviewed : Reviewed) : ∀ entry ∈ reviewed.lead, entry.1 ∉ ownNames := by
  cases reviewed <;> simp [lead, ownNames]

theorem contract_of_mem {text : String} (projection : reviewed.payload hash = .ok payload)
    (member : ("contract", .text text) ∈ payload) : text = reviewed.contract := by
  obtain ⟨digest, -, details, shown, rfl⟩ := payload_eq_ok.mp projection
  rcases List.mem_cons.mp member with same | member
  · exact Value.text.inj (Prod.mk.inj same).2
  rcases List.mem_append.mp member with member | member
  · exact absurd (by simp [ownNames]) (reviewed.lead_names _ member)
  rcases List.mem_cons.mp member with same | member
  · cases reviewed <;> simp [digestKey] at same
  · exact absurd (by simp [ownNames]) (details_names shown _ member)

theorem digest_of_mem (projection : reviewed.payload hash = .ok payload)
    (member : (reviewed.digestKey, .text digest) ∈ payload) : reviewed.approvalDigest hash = .ok digest := by
  obtain ⟨kept, named, details, shown, rfl⟩ := payload_eq_ok.mp projection
  have own : reviewed.digestKey ∈ ownNames := by cases reviewed <;> simp [digestKey, ownNames]
  rcases List.mem_cons.mp member with same | member
  · cases reviewed <;> simp [digestKey] at same
  rcases List.mem_append.mp member with member | member
  · exact absurd own (reviewed.lead_names _ member)
  rcases List.mem_cons.mp member with same | member
  · rw [Value.text.inj (Prod.mk.inj same).2]
    exact named
  · exact absurd own (details_names shown _ member)

/-- The contract, the digest and the target leave one review. -/
theorem eq_of_digest (injective : Function.Injective hash) (same : reviewed.contract = other.contract)
    (targets : reviewed.targetId hash = other.targetId hash) (left : reviewed.approvalDigest hash = .ok digest)
    (right : other.approvalDigest hash = .ok digest) : reviewed = other := by
  cases reviewed with
  | tracking review =>
    cases other with
    | tracking second => exact congrArg tracking (Review.tracking.inj (Offline.approvalDigest_inj injective right left))
    | _ => simp [contract] at same
  | dispatch review =>
    cases other with
    | dispatch second => exact congrArg dispatch (Review.dispatch.inj (Offline.approvalDigest_inj injective right left))
    | _ => simp [contract] at same
  | split review =>
    cases other with
    | split second => exact congrArg split (Review.split.inj (Offline.approvalDigest_inj injective right left))
    | _ => simp [contract] at same
  | listing review offerId =>
    cases other with
    | listing second secondId =>
      have reviews := Review.listing.inj (Offline.approvalDigest_inj injective right left)
      rw [reviews, show offerId = secondId from Except.ok.inj targets]
    | _ => simp [contract] at same
  | returned review =>
    cases other with
    | returned second => exact congrArg returned (Review.returned.inj (Offline.approvalDigest_inj injective right left))
    | _ => simp [contract] at same
  | trackingBatch batch =>
    cases other with
    | trackingBatch second => exact congrArg trackingBatch (Offline.batchDigest_inj injective right left)
    | _ => simp [contract] at same
  | returnBatch batch =>
    cases other with
    | returnBatch second => exact congrArg returnBatch (Offline.returnBatchDigest_inj injective left right)
    | _ => simp [contract] at same

theorem eq_of_payload (injective : Function.Injective hash) {first second : Mapping}
    (targets : reviewed.targetId hash = other.targetId hash) (left : reviewed.payload hash = .ok first)
    (right : other.payload hash = .ok second) (same : sorted (.dict first) = sorted (.dict second)) : reviewed = other := by
  obtain ⟨digest, named, details, -, shape⟩ := payload_eq_ok.mp left
  have contracts : reviewed.contract = other.contract := by
    apply contract_of_mem right
    apply text_mem_of_sorted same
    rw [shape]
    exact List.mem_cons_self
  have keys : reviewed.digestKey = other.digestKey := by
    cases reviewed <;> cases other <;> first | rfl | simp [contract] at contracts
  apply eq_of_digest injective contracts targets named
  apply digest_of_mem right
  rw [← keys]
  apply text_mem_of_sorted same
  rw [shape]
  exact List.mem_append_right _ List.mem_cons_self

end Reviewed

/-- What an accepted submission of a bridge has left in the tables of the gateway. -/
theorem kept_of_accepted (reached : Reached s) {approvalId : Ident} {idempotencyKey : String} {policyVersion : Int}
    {reply : ToolReply} (accepted : reply.state = .accepted)
    (ran : (submitReviewed env hash spelled context reviewed connectionRef approvalId idempotencyKey policyVersion).run s =
      (.ok reply, t)) :
    ∃ targetId payload, reviewed.targetId hash = .ok targetId ∧ reviewed.payload hash = .ok payload ∧
      reply.nextAction = none ∧ Kept t.db context.tenantId
        (reviewedSubmission reviewed targetId payload approvalId idempotencyKey policyVersion) reply := by
  obtain ⟨-, targetId, payload, target, projection, ran⟩ := submitReviewed_ok ran
  have idle : Evolution env s { s with reads := s.reads + 1 } :=
    .inl (change_idles _ _ rfl ⟨Nat.le_succ _, Nat.le_refl _⟩)
  have before := reached.evolution idle
  have mutating : Mutating
      (reviewedSubmission reviewed targetId payload approvalId idempotencyKey policyVersion).tool := reviewed.mutating_tool
  exact ⟨targetId, payload, target, projection, unblocked_of_accepted before mutating ran accepted,
    submitDemoTool_kept before ran⟩

/-- Two accepted submissions under one approval are answered by one command. -/
theorem one_review_of_accepted (injective : Function.Injective hash) {u w : Session Store} {context later : TenantContext}
    {first second : Reviewed} {connectionRef otherRef : String} {approvalId : Ident} {firstKey secondKey : String}
    {firstPolicy secondPolicy : Int} {reply answer : ToolReply} (reached : Reached s) (tenant : later.tenantId = context.tenantId)
    (asked : (submitReviewed env hash spelled context first connectionRef approvalId firstKey firstPolicy).run s = (.ok reply, t))
    (accepted : reply.state = .accepted) (history : ReflTransGen (Evolution env) t u) (middle : Reached u)
    (again : (submitReviewed env hash spelled later second otherRef approvalId secondKey secondPolicy).run u = (.ok answer, w))
    (also_accepted : answer.state = .accepted) (rest : ReflTransGen (Evolution env) u w) (behind : Reached t) :
    (second = first ∧ secondKey = firstKey ∧ secondPolicy = firstPolicy ∧ answer.commandId = reply.commandId) ∧
      offers w.db.journal answer.commandId = 1 := by
  obtain ⟨targetId, payload, target, projection, unblocked, kept⟩ := kept_of_accepted reached accepted asked
  obtain ⟨otherId, otherPayload, otherTarget, otherProjection, also_unblocked, also_kept⟩ :=
    kept_of_accepted middle also_accepted again
  have book := (middle.evolutions rest).book
  -- the first answer is still kept behind the second
  obtain ⟨row, member, row_tenant, row_key, id, state, request⟩ := (kept.evolutions behind (history.trans rest)).row
  obtain ⟨other, also_member, other_tenant, other_key, other_id, other_state, other_request⟩ := also_kept.row
  rw [unblocked] at request
  rw [also_unblocked] at other_request
  have approval : row.approvalId = some approvalId := by
    rw [show row.approvalId = _ from congrArg ToolRequest.approvalId request, keptRequest]
    exact if_pos ⟨rfl, first.mutating_tool⟩
  have other_approval : other.approvalId = some approvalId := by
    rw [show other.approvalId = _ from congrArg ToolRequest.approvalId other_request, keptRequest]
    exact if_pos ⟨rfl, second.mutating_tool⟩
  have row_accepted := state.trans accepted
  have same := book.single row member other also_member (row_tenant.trans (tenant.symm.trans other_tenant.symm)) row_accepted
    (other_state.trans also_accepted) (by rw [approval]; rfl) (approval.trans other_approval.symm)
  cases same
  have requests := request.symm.trans other_request
  have targets : targetId = otherId := congrArg ToolRequest.targetId requests
  have inputs : sorted (.dict payload) = sorted (.dict otherPayload) := congrArg ToolRequest.input requests
  have reviews : first = second := Reviewed.eq_of_payload injective (by rw [target, otherTarget, targets]) projection
    otherProjection inputs
  refine ⟨⟨reviews.symm, other_key.symm.trans row_key, ?_, other_id.symm.trans id⟩, ?_⟩
  · exact (congrArg ToolRequest.requestedPolicyVersion requests).symm
  · have tool : row.tool = first.tool := congrArg ToolRequest.tool request
    rw [← other_id, book.offered row member, if_pos ⟨row_accepted, tool ▸ first.mutating_tool⟩]

/-- However the calls between them run, two accepted submissions under one approval are one submission of one review:
the second is answered with the command of the first, which the workers have been offered once. -/
theorem approval_executes_one_review (env : Env) (hash : String → String) (injective : Function.Injective hash)
    (spelled : Uuid → String) (before between : List (BridgeCall env)) (context later : TenantContext)
    (tenant : later.tenantId = context.tenantId) (first second : Reviewed) (connectionRef otherRef : String)
    (approvalId : Ident) (firstKey secondKey : String) (firstPolicy secondPolicy : Int) (reply answer : ToolReply) :
    let asked := Bridge.step env hash spelled (.submit context first connectionRef approvalId firstKey firstPolicy)
      (final (Bridge.step env hash spelled) Execution.newSession before)
    let again := Bridge.step env hash spelled (.submit later second otherRef approvalId secondKey secondPolicy)
      (final (Bridge.step env hash spelled) asked.2 between)
    asked.1 = .ok (some reply) → reply.state = .accepted → again.1 = .ok (some answer) → answer.state = .accepted →
      (second = first ∧ secondKey = firstKey ∧ secondPolicy = firstPolicy ∧ answer.commandId = reply.commandId) ∧
        offers again.2.db.journal answer.commandId = 1 := by
  intro asked again replied accepted answered also_accepted
  have start : Reached (final (Bridge.step env hash spelled) Execution.newSession before) := bridge_run_reached before
  have behind : Reached asked.2 := start.evolutions (bridge_step_evolves _ _)
  have history : ReflTransGen (Evolution env) asked.2 (final (Bridge.step env hash spelled) asked.2 between) :=
    bridge_run_evolves between _
  have rest : ReflTransGen (Evolution env) (final (Bridge.step env hash spelled) asked.2 between) again.2 :=
    bridge_step_evolves _ _
  exact one_review_of_accepted injective start tenant (Bridge.step_submit_ok replied) accepted history
    (behind.evolutions history) (Bridge.step_submit_ok answered) also_accepted rest behind

/-! ## A run -/

/-- Every reading falls into the window of the review. -/
def reviewEnv : Env := { idleEnv with clock := fun _ => .utc 299 }

def samplePayload : Mapping := [("contract", .text "coupang-return-fixture-v1"),
  ("fixture_review_digest", .text (String.ofList (List.replicate 64 'a'))), ("vendor_ref", .text "w"),
  ("receipt_id", .text "r"), ("shipment_id", .text "s"), ("vendor_item_id", .text "v"), ("cancel_quantity", .int 1),
  ("fixture_amount_krw", .int 1), ("fixture_amount_cap_krw", .int 1),
  ("withdrawal_review_digest", .text Offline.sampleDigest)]

abbrev sampleReviewed : Reviewed := .returned Offline.sampleReview

theorem sample_payload : sampleReviewed.payload Offline.sampleHash = .ok samplePayload :=
  Reviewed.payload_eq_ok.mpr ⟨_, Offline.sample_digest, _, rfl, rfl⟩

def sampleSubmission : ToolSubmission := reviewedSubmission sampleReviewed "o" samplePayload (.uuid 5) "pay" 1

def askSample : BridgeCall reviewEnv := .request Execution.demoMaster sampleReviewed "c" "key" 1 1

def submitSample : BridgeCall reviewEnv := .submit Execution.demoMaster sampleReviewed "c" (.uuid 5) "pay" 1

/-- The bridges of the sample's tenant. -/
def sampleStep : BridgeCall reviewEnv → Session Store → ToolResult × Session Store :=
  Bridge.step reviewEnv Offline.sampleHash fun _ => "t"

theorem sample_digested :
    sampleReviewed.approvalDigest Offline.sampleHash = .ok Offline.samplePresented.approvalDigest :=
  Offline.sample_digest

theorem sample_verified : sampleReviewed.verify Offline.sampleHash Offline.samplePresented = .ok "FIXTURE_REVIEW_ONLY" :=
  Offline.sample_accepted

theorem step_askSample (s : Session Store) : sampleStep askSample s =
    Tool.step reviewEnv (.lifecycle (.requestApproval Execution.demoMaster .refund (.text ("order" ++ ":" ++ "o"))
      samplePayload (.text "key") 1 1 [sampleReviewed.evidence "c"])) { s with reads := s.reads + 1 } := by
  rw [sampleStep, askSample]
  exact @Bridge.step_request_run reviewEnv Offline.sampleHash (fun _ => "t") Execution.demoMaster s sampleReviewed "c" _ _ "o"
    samplePayload sample_digested sample_verified rfl sample_payload "key" 1 1

theorem step_submitSample (s : Session Store) : sampleStep submitSample s =
    Tool.step reviewEnv (.submit Execution.demoMaster sampleSubmission) { s with reads := s.reads + 1 } := by
  rw [sampleStep, submitSample]
  exact @Bridge.step_submit_run reviewEnv Offline.sampleHash (fun _ => "t") Execution.demoMaster s sampleReviewed "c" _ _ "o"
    samplePayload sample_digested sample_verified rfl sample_payload (.uuid 5) "pay" 1

/-- The approval has been asked for and granted. -/
def granted : List (BridgeCall reviewEnv) :=
  [.tool (.lifecycle bootstrapped), askSample, .tool (.lifecycle (.decide Execution.demoMaster 4 true "checked"))]

def sampleReply : ToolReply := { commandId := 16, state := .accepted, nextAction := none }

/-- The submission is accepted, and accepted again when it is repeated. -/
theorem submitSample_accepted :
    (sampleStep submitSample (final sampleStep Execution.newSession granted)).1 = .ok (some sampleReply) ∧
      (sampleStep submitSample (final sampleStep (sampleStep submitSample
        (final sampleStep Execution.newSession granted)).2 [])).1 = .ok (some sampleReply) := by
  rw [step_submitSample, Library.final_nil, step_submitSample, granted, Library.final_cons, Library.final_cons, step_askSample]
  decide +kernel

theorem sampleStep_eq : sampleStep = Bridge.step reviewEnv Offline.sampleHash (fun _ => "t") := rfl

theorem accepted_review_warranted_return :
    ∃ approval command intent, Warranted reviewEnv Offline.sampleHash (final sampleStep Execution.newSession granted) "t"
      Execution.demoMaster sampleReviewed "c" (.uuid 5) 1 approval command intent := by
  have first := submitSample_accepted.1
  rw [submitSample, sampleStep_eq] at first
  rw [sampleStep_eq]
  exact accepted_review_warranted reviewEnv Offline.sampleHash (fun _ => "t") granted Execution.demoMaster sampleReviewed "c"
    (.uuid 5) "pay" 1 sampleReply first rfl

theorem approval_executes_one_return :
    (sampleReviewed = sampleReviewed ∧ "pay" = "pay" ∧ (1 : Int) = 1 ∧ sampleReply.commandId = sampleReply.commandId) ∧
      offers (sampleStep submitSample (final sampleStep (sampleStep submitSample
        (final sampleStep Execution.newSession granted)).2 [])).2.db.journal sampleReply.commandId = 1 := by
  have both := approval_executes_one_review reviewEnv Offline.sampleHash (Offline.marking_injective _) (fun _ => "t") granted []
    Execution.demoMaster Execution.demoMaster rfl sampleReviewed sampleReviewed "c" "c" (.uuid 5) "pay" "pay" 1 1
    sampleReply sampleReply
  have accepted := submitSample_accepted
  rw [submitSample, sampleStep_eq] at accepted ⊢
  exact both accepted.1 rfl accepted.2 rfl

end AiStore.Gateway
