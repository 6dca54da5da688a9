import AiStore.Approval.Backing
import AiStore.Approval.Preview
import Mathlib.Data.List.Dedup

/-! The inbox of approvals, and what its items offer. -/

set_option autoImplicit false

namespace AiStore.Approvals

open Library (Session Txn Table final)
open Library.Txn Failure Repository Service
open Relation (ReflTransGen)

/-! ## The inbox -/

/-- `_permissions`, of a member. -/
def permissionsOf (row : Membership) : List String :=
  (((row.roles.flatMap Role.capabilities).map Capability.value).dedup).insertionSort (· ≤ ·)

def CanRead (approval : Approval) (permissions : List String) : Prop :=
  approval.kind.capability.value ∈ permissions ∨ Capability.readAudit.value ∈ permissions

instance (approval : Approval) (permissions : List String) : Decidable (CanRead approval permissions) := by
  unfold CanRead
  exact inferInstance

structure InboxItem where
  approvalId : Uuid
  state : ApprovalState
  kind : ApprovalKind
  riskBadges : List String
  target : TargetRef
  before : Value
  after : Value
  profit : Value
  evidence : Value
  policyVersion : String
  policyDecision : String
  expiresAt : Timestamp
  actions : List String

/-- `_item`, of the rows it reads. -/
def itemOf (permissions : List String) (now : Timestamp) (approval : Approval) (command : Command)
    (intent : Option ApprovalIntent) : InboxItem :=
  let due := approval.state = .pending ∧ approval.expiresAt ≤ now
  let pending := approval.state = .pending ∧ ¬ due
  let effective := if due then .expired else approval.state
  let preview := Approval.materialPreview (.dict command.payload) (.list (approval.evidence.map .dict))
  { approvalId := approval.id
    state := effective
    kind := approval.kind
    riskBadges := if due then preview.badges ++ ["approval_expired"] else preview.badges
    target := command.targetRef
    before := preview.before
    after := preview.after
    profit := preview.profit
    evidence := preview.evidence
    policyVersion := intent.elim "unknown" fun intent => "v" ++ toString intent.policyVersion
    policyDecision := if pending then "approval_required" else if effective = .approved then "allow" else "deny"
    expiresAt := approval.expiresAt
    actions := if pending ∧ approval.kind.capability.value ∈ permissions then ["approve", "reject", "ask_question"] else [] }

def approvalsFor (tenant : Uuid) : Op (List Approval) :=
  query fun store => store.approvals.rows.filter (·.tenantId = tenant)

structure Inbox where
  items : List InboxItem
  asOf : Timestamp
  permissions : List String

/-- The turn of an approval in the loop of `approval_inbox`. -/
def inboxItem (context : TenantContext) (permissions : List String) (now : Timestamp) (approval : Approval) :
    Op (Option InboxItem) := do
  if ¬ CanRead approval permissions ∨ approval.state ≠ .pending then pure none
  else do
    let command ← getCommand context.tenantId approval.commandId
    let intent ← getApprovalIntent context.tenantId command.id
    let item := itemOf permissions now approval command intent
    pure (if item.state = .pending then some item else none)

def approvalInbox (env : Env) (context : TenantContext) : Op Inbox := do
  let now ← now env
  let row ← membership context
  let permissions := permissionsOf row
  ensure (Capability.readAudit.value ∈ permissions ∨
      ∃ kind ∈ [ApprovalKind.purchase, .product, .supplierReplacement, .refund, .cs, .pause],
        kind.capability.value ∈ permissions)
    (authorizationError "missing approval read capability")
  let approvals ← approvalsFor context.tenantId
  let shown ← collect approvals (inboxItem context permissions now)
  pure ⟨shown.filterMap id, now, permissions⟩

/-- `approval_detail`, of an id that has the form of one. -/
def approvalDetail (env : Env) (context : TenantContext) (approvalId : Uuid) : Op InboxItem := do
  let now ← now env
  let row ← membership context
  let permissions := permissionsOf row
  let approval ← getApproval context.tenantId (.uuid approvalId)
  ensure (CanRead approval permissions) (authorizationError "missing approval read capability")
  let command ← getCommand context.tenantId approval.commandId
  let intent ← getApprovalIntent context.tenantId command.id
  pure (itemOf permissions now approval command intent)

variable {env : Env} {s t : Session Store}

/-! ## Permissions -/

theorem capability_value_injective : Function.Injective Capability.value := by
  intro first second same
  cases first <;> cases second <;> first | rfl | exact absurd same (by decide)

theorem mem_permissionsOf {row : Membership} {capability : Capability} :
    capability.value ∈ permissionsOf row ↔ row.Available capability := by
  unfold permissionsOf Membership.Available
  rw [(List.perm_insertionSort _ _).mem_iff, List.mem_dedup, List.mem_map_of_injective capability_value_injective,
    List.mem_flatMap]

/-! ## An approval is of the kind of its command -/

def Akin (db : Store) : Prop := ∀ key approval command, db.approvals.get? key = some approval →
  db.commands.get? key = some command → approval.kind = command.kind

theorem Akin.of_same {before after : Store} (akin : Akin before) (commands : after.commands = before.commands)
    (approvals : after.approvals = before.approvals) : Akin after := by
  intro key approval command approval_found command_found
  rw [approvals] at approval_found
  rw [commands] at command_found
  exact akin key approval command approval_found command_found

/-- A command is written with its approval. -/
theorem Akin.of_put {before after : Store} (akin : Akin before) {command : Command} {approval : Approval}
    (commands : after.commands = before.commands.put command) (approvals : after.approvals = before.approvals.put approval)
    (named : approval.key = command.key) (kind : approval.kind = command.kind) : Akin after := by
  intro key other row other_found row_found
  rw [approvals, Table.get?_put, named] at other_found
  rw [commands, Table.get?_put] at row_found
  split at row_found
  · next here =>
    rw [if_pos here] at other_found
    cases other_found
    cases row_found
    exact kind
  · next apart =>
    rw [if_neg apart] at other_found
    exact akin key other row other_found row_found

/-- A command is rewritten alone. -/
theorem Akin.of_rewritten {before after : Store} (akin : Akin before) {key : Uuid × Uuid} {row rewritten : Command}
    (found : before.commands.get? key = some row) (commands : after.commands = before.commands.put rewritten)
    (approvals : after.approvals = before.approvals) (named : rewritten.key = row.key) (kind : rewritten.kind = row.kind) :
    Akin after := by
  intro wanted approval command approval_found command_found
  rw [approvals] at approval_found
  rw [commands, Table.get?_put, named, Table.key_of_get? found] at command_found
  split at command_found
  · next same =>
    subst same
    cases command_found
    exact (akin key approval row approval_found found).trans kind.symm
  · exact akin wanted approval command approval_found command_found

theorem created_akin {context : TenantContext} {kind : ApprovalKind} {targetRef : TargetRef} {payload : Mapping}
    {idempotencyKey : CommandKey} {evidence : List Mapping} {command : Command} {approval : Approval}
    (created : Created env context s kind targetRef payload idempotencyKey evidence command approval t)
    (akin : Akin s.db) : Akin t.db := by
  obtain ⟨-, rfl, rfl, -, _, rfl⟩ := created
  exact akin.of_put rfl rfl rfl rfl

theorem waiting_akin {tenant commandId : Uuid} {command : Command} {approval : Approval} {state : CommandState}
    {after : Approval} {db : Store} (waiting : Waiting s.db tenant commandId command approval) (akin : Akin s.db)
    (commands : db.commands = s.db.commands.put { command with state }) (approvals : db.approvals = s.db.approvals.put after)
    (named : after.key = approval.key) (kind : after.kind = approval.kind) : Akin db := by
  have command_key := Table.key_of_get? waiting.command_found
  have approval_key := Table.key_of_get? waiting.approval_found
  refine akin.of_put commands approvals ?_ ?_
  · rw [named, approval_key, ← command_key]
    rfl
  · exact kind.trans (akin _ approval command waiting.approval_found waiting.command_found)

theorem change_akin (change : Change env s t) (akin : Akin s.db) : Akin t.db := by
  cases change with
  | other quiet =>
    have same := quiet.lifecycle.same
    simp only [lifecycleTables, Prod.mk.injEq] at same
    exact akin.of_same same.1 same.2.1
  | created created => exact created_akin created akin
  | attached _ _ attached =>
    obtain ⟨-, -, _, -, -, -, -, rfl⟩ := attached
    exact akin.of_same rfl rfl
  | ranOut waiting _ ranOut =>
    obtain ⟨-, _, rfl⟩ := ranOut
    exact waiting_akin waiting akin rfl rfl rfl rfl
  | settled waiting _ _ _ settled =>
    obtain ⟨-, _, rfl⟩ := settled
    exact waiting_akin waiting akin rfl rfl rfl rfl
  | prepared _ prepared =>
    obtain ⟨-, -, -, _, rfl⟩ := prepared
    exact akin.of_same rfl rfl
  | toolFiled _ filed =>
    have same := (quiet_of_toolFiled filed).same
    simp only [lifecycleTables, Prod.mk.injEq] at same
    exact akin.of_same same.1 same.2.1

theorem superseded_akin {context : TenantContext} {key : CommandKey} {old replacement : Command}
    {oldApproval approval : Approval} {middle : Session Store} (lockstep : Lockstep s)
    (superseded : Superseded env context s key old oldApproval replacement approval middle t) (akin : Akin s.db) :
    Akin t.db := by
  have old_key := Table.key_of_get? superseded.old_found
  have approval_key := Table.key_of_get? superseded.old_approval_found
  have retired : Akin (retired s old oldApproval).db := by
    refine akin.of_put rfl rfl (approval_key.trans old_key.symm) ?_
    exact akin _ oldApproval old superseded.old_approval_found superseded.old_found
  have between : Akin middle.db := by
    obtain ⟨_, -, created | replayed⟩ := superseded.change
    · exact created_akin created retired
    · rw [replayed.unchanged]
      exact retired
  obtain ⟨-, -, found, -⟩ := superseded_middle superseded lockstep
  obtain ⟨_, rfl⟩ := superseded.written
  exact between.of_rewritten found rfl rfl rfl rfl

theorem history_akin (history : ReflTransGen (Evolution env) Execution.newSession s) : Akin s.db := by
  induction history with
  | refl =>
    intro key approval command approval_found
    cases approval_found
  | tail history evolution ih =>
    rcases evolution with change | ⟨_, _, _, _, _, _, _, superseded⟩
    · exact change_akin change ih
    · exact superseded_akin (evolutions_lockstep lockstep_newSession history).1 superseded ih

/-- An intent fits the rows as they are now: what it was made of has stayed. -/
theorem history_intent {key : Uuid × Uuid} {command : Command} {approval : Approval} {intent : ApprovalIntent}
    (history : ReflTransGen (Evolution env) Execution.newSession s) (intent_found : s.db.approvalIntents.get? key = some intent)
    (command_found : s.db.commands.get? key = some command) (approval_found : s.db.approvals.get? key = some approval) :
    IntentMatches env command approval intent := by
  obtain ⟨before, after, early, waiting, start, first, rest, -, -, early_found, waiting_found, -, matching⟩ :=
    (history_attached history key intent intent_found).exists_attachment
  have begun := (evolutions_lockstep lockstep_newSession start).1
  have onward := (evolutions_lockstep begun (ReflTransGen.head first rest)).2
  obtain ⟨later, later_found, kind, target, payload⟩ := onward.commands key early early_found
  obtain ⟨last, last_found, same, -⟩ := onward.approvals key waiting waiting_found
  cases command_found.symm.trans later_found
  cases approval_found.symm.trans last_found
  obtain ⟨strict, digest⟩ := matching
  constructor
  · rw [kind, target, payload, same.evidence, same.expiresAt]
    exact strict
  · rw [kind, target, payload, same.evidence, same.expiresAt]
    exact digest

/-! ## What the inbox lists -/

/-- What a member may read. -/
def Readable (row : Membership) (approval : Approval) : Prop :=
  row.Available approval.kind.capability ∨ row.Available .readAudit

theorem canRead_iff {row : Membership} {approval : Approval} :
    CanRead approval (permissionsOf row) ↔ Readable row approval := by
  unfold CanRead Readable
  rw [mem_permissionsOf, mem_permissionsOf]

instance (row : Membership) (approval : Approval) : Decidable (Readable row approval) := by
  unfold Readable
  exact inferInstance

/-- What is pending at a time, and may be read. -/
def Listed (row : Membership) (tenant : Uuid) (now : Timestamp) (approval : Approval) : Prop :=
  approval.tenantId = tenant ∧ Readable row approval ∧ approval.state = .pending ∧ now < approval.expiresAt

instance (row : Membership) (tenant : Uuid) (now : Timestamp) (approval : Approval) :
    Decidable (Listed row tenant now approval) := by
  unfold Listed
  exact inferInstance

/-- A loop whose turns only read collects what they return. -/
theorem collect_reads {α β : Type} {items : List α} {body : α → Op β} {value : α → β}
    (reads : ∀ item ∈ items, (body item).run s = (.ok (value item), s)) :
    (collect items body).run s = (.ok (items.map value), s) := by
  induction items with
  | nil => exact (collect_nil_eq_ok body [] s s).mpr ⟨rfl, rfl⟩
  | cons item rest ih =>
    rw [collect_cons_eq_ok]
    have later := ih fun other member => reads other (List.mem_cons_of_mem _ member)
    exact ⟨_, _, _, reads item List.mem_cons_self, later, rfl⟩

/-- The command of an approval, in a state in which every approval has one. -/
theorem command_of_approval (paired : Paired s.db) {key : Uuid × Uuid} {approval : Approval}
    (found : s.db.approvals.get? key = some approval) : ∃ command, s.db.commands.get? key = some command := by
  have states := paired key
  rw [found] at states
  obtain ⟨command, command_found, -⟩ := Option.map_eq_some_iff.mp states
  exact ⟨command, command_found⟩

/-- The item of an approval, as the store has it. -/
def itemIn (db : Store) (permissions : List String) (now : Timestamp) (approval : Approval) : Option InboxItem :=
  if ¬ CanRead approval permissions ∨ approval.state ≠ .pending then none
  else (db.commands.get? approval.key).bind fun command =>
    let item := itemOf permissions now approval command (db.approvalIntents.get? (approval.tenantId, command.id))
    if item.state = .pending then some item else none

theorem inboxItem_reads (paired : Paired s.db) {context : TenantContext} {permissions : List String} {now : Timestamp}
    {approval : Approval} (member : approval ∈ s.db.approvals.rows) (ours : approval.tenantId = context.tenantId) :
    (inboxItem context permissions now approval).run s = (.ok (itemIn s.db permissions now approval), s) := by
  unfold inboxItem itemIn
  split
  · exact (pure_eq_ok _ _ _ _).mpr ⟨rfl, rfl⟩
  · obtain ⟨command, found⟩ := command_of_approval paired (s.db.approvals.get?_key member)
    have read : s.db.commands.get? (context.tenantId, approval.commandId) = some command := by
      rw [← ours]
      exact found
    simp only [bind_eq_ok, getCommand_eq_ok, getApprovalIntent, query_eq_ok, pure_eq_ok]
    refine ⟨command, s, ⟨read, rfl⟩, _, s, ⟨rfl, rfl⟩, ?_, rfl⟩
    rw [found, ours]
    rfl

/-- An approval is in the inbox while it is pending and may be read, and is offered to those who may decide it. -/
theorem itemIn_some {row : Membership} {now : Timestamp} {approval : Approval} {item : InboxItem}
    (listed : itemIn s.db (permissionsOf row) now approval = some item) :
    Listed row approval.tenantId now approval ∧ item.approvalId = approval.id ∧
      (item.actions ≠ [] ↔ row.Available approval.kind.capability) ∧
      ∃ command, s.db.commands.get? approval.key = some command ∧
        item = itemOf (permissionsOf row) now approval command (s.db.approvalIntents.get? (approval.tenantId, command.id)) := by
  unfold itemIn at listed
  split at listed
  · cases listed
  · next shown =>
    rw [not_or, not_not, not_not] at shown
    obtain ⟨readable, pending⟩ := shown
    obtain ⟨command, found, made⟩ := Option.bind_eq_some_iff.mp listed
    dsimp only at made
    split at made
    · next still =>
      cases made
      have unexpired : ¬ approval.expiresAt ≤ now := by
        intro due
        simp [itemOf, pending, due] at still
      refine ⟨⟨rfl, canRead_iff.mp readable, pending, (Library.Timestamp.not_le _ _).mp unexpired⟩, rfl, ?_, command, found, rfl⟩
      rw [← mem_permissionsOf]
      simp only [itemOf, pending, unexpired, and_false, not_false_eq_true, and_self, true_and]
      split
      · next may => exact iff_of_true (by simp) may
      · next may => exact iff_of_false (by simp) may
    · cases made

theorem itemIn_none {row : Membership} {now : Timestamp} {approval : Approval} (paired : Paired s.db)
    (member : approval ∈ s.db.approvals.rows) (left_out : itemIn s.db (permissionsOf row) now approval = none) :
    ¬ Listed row approval.tenantId now approval := by
  rintro ⟨-, readable, pending, unexpired⟩
  obtain ⟨command, found⟩ := command_of_approval paired (s.db.approvals.get?_key member)
  have undue : ¬ approval.expiresAt ≤ now := (Library.Timestamp.not_le _ _).mpr unexpired
  unfold itemIn at left_out
  rw [if_neg (not_or.mpr ⟨not_not.mpr (canRead_iff.mpr readable), not_not.mpr pending⟩), found] at left_out
  simp [itemOf, pending, undue] at left_out

/-- The run of the inbox for a session that may read anything at all. -/
theorem approvalInbox_reads (paired : Paired s.db) {context : TenantContext} {row : Membership}
    (found : s.db.memberships.get? (context.tenantId, context.userId) = some row) (active : row.active = true)
    (version : row.version = context.membershipVersion)
    (reads : row.Available .readAudit ∨ ∃ kind : ApprovalKind, row.Available kind.capability) :
    (approvalInbox env context).run s =
      (.ok ⟨(s.db.approvals.rows.filter (·.tenantId = context.tenantId)).filterMap
        (itemIn s.db (permissionsOf row) (env.clock s.reads)), env.clock s.reads, permissionsOf row⟩,
        { s with reads := s.reads + 1 }) := by
  have allowed : Capability.readAudit.value ∈ permissionsOf row ∨
      ∃ kind ∈ [ApprovalKind.purchase, .product, .supplierReplacement, .refund, .cs, .pause],
        kind.capability.value ∈ permissionsOf row := by
    refine reads.imp mem_permissionsOf.mpr fun ⟨kind, available⟩ => ⟨kind, ?_, mem_permissionsOf.mpr available⟩
    cases kind <;> simp
  let later : Session Store := { s with reads := s.reads + 1 }
  have collected : (collect (s.db.approvals.rows.filter (·.tenantId = context.tenantId))
      (inboxItem context (permissionsOf row) (env.clock s.reads))).run later =
      (.ok ((s.db.approvals.rows.filter (·.tenantId = context.tenantId)).map
        (itemIn s.db (permissionsOf row) (env.clock s.reads))), later) := by
    apply collect_reads
    intro approval member
    obtain ⟨stored, ours⟩ := List.mem_filter.mp member
    exact inboxItem_reads (s := later) paired stored (of_decide_eq_true ours)
  simp only [approvalInbox, bind_eq_ok, now_eq_ok, membership_eq_ok, ensure_eq_ok, approvalsFor, query_eq_ok, pure_eq_ok]
  refine ⟨_, _, ⟨rfl, rfl⟩, row, _, ⟨found, active, version, rfl⟩, (), _, ⟨allowed, rfl⟩, _, _, ⟨rfl, rfl⟩, _, _, collected, ?_,
    rfl⟩
  rw [List.filterMap_map]
  rfl

theorem listed_items (paired : Paired s.db) (row : Membership) (tenant : Uuid) (now : Timestamp) {rows : List Approval}
    (stored : ∀ approval ∈ rows, approval ∈ s.db.approvals.rows) :
    ((rows.filter (·.tenantId = tenant)).filterMap (itemIn s.db (permissionsOf row) now)).map (·.approvalId) =
      (rows.filter fun approval => Listed row tenant now approval).map (·.id) := by
  induction rows with
  | nil => rfl
  | cons approval rest ih =>
    have later := ih fun other member => stored other (List.mem_cons_of_mem _ member)
    by_cases ours : approval.tenantId = tenant
    · subst ours
      rw [List.filter_cons_of_pos (by simp)]
      cases shown : itemIn s.db (permissionsOf row) now approval with
      | none =>
        have absent := itemIn_none paired (stored approval List.mem_cons_self) shown
        rw [List.filterMap_cons_none shown, List.filter_cons_of_neg (by simpa using absent)]
        exact later
      | some item =>
        obtain ⟨listed, named, -, -⟩ := itemIn_some shown
        rw [List.filterMap_cons_some shown, List.filter_cons_of_pos (by simpa using listed), List.map_cons, List.map_cons, named,
          later]
    · have absent : ¬ Listed row tenant now approval := fun listed => ours listed.1
      rw [List.filter_cons_of_neg (by simpa using ours), List.filter_cons_of_neg (by simpa using absent)]
      exact later

/-- The detail of an approval of the tenant that a session may read. -/
theorem approvalDetail_reads {context : TenantContext} {row : Membership} {approval : Approval} {command : Command}
    (lockstep : Lockstep s) (member_found : s.db.memberships.get? (context.tenantId, context.userId) = some row)
    (active : row.active = true) (version : row.version = context.membershipVersion)
    (stored : approval ∈ s.db.approvals.rows) (ours : approval.tenantId = context.tenantId)
    (readable : Readable row approval) (found : s.db.commands.get? approval.key = some command) :
    (approvalDetail env context approval.id).run s =
      (.ok (itemOf (permissionsOf row) (env.clock s.reads) approval command
        (s.db.approvalIntents.get? (approval.tenantId, command.id))), { s with reads := s.reads + 1 }) := by
  have first : (s.db.approvals.rows.find? fun other => other.tenantId = context.tenantId ∧ Ident.uuid other.id = .uuid approval.id) =
      some approval := by
    apply Library.find?_of_unique stored
    · simp [ours]
    · intro other member same
      have same := of_decide_eq_true same
      exact lockstep.distinct other member approval stored (Ident.uuid.inj same.2)
  have command_found : s.db.commands.get? (context.tenantId, approval.commandId) = some command := by
    rw [← ours]
    exact found
  simp only [approvalDetail, bind_eq_ok, now_eq_ok, membership_eq_ok, getApproval, query_eq_ok, fetch_eq_ok, ensure_eq_ok,
    getCommand_eq_ok, getApprovalIntent, pure_eq_ok]
  refine ⟨_, _, ⟨rfl, rfl⟩, row, _, ⟨member_found, active, version, rfl⟩, approval, _, ⟨_, _, ⟨rfl, rfl⟩, first, rfl⟩, (), _,
    ⟨canRead_iff.mpr readable, rfl⟩, command, _, ⟨command_found, rfl⟩, _, _, ⟨rfl, rfl⟩, ?_, rfl⟩
  rw [ours]

/-- In every state that a run from a new repository reaches, the inbox of a session that may read approvals lists, in
stored order, exactly the approvals of the tenant that are pending at the time and of a kind the member may read; the
detail of each is the same item, and the decision is offered exactly where `_decide` would find it open to this session. -/
theorem inbox_offers_open (env : Env) (calls : List (LifecycleCall env)) (context : TenantContext) (row : Membership)
    (found : (final (step env) Execution.newSession calls).db.memberships.get? (context.tenantId, context.userId) = some row)
    (active : row.active = true) (version : row.version = context.membershipVersion)
    (reads : row.Available .readAudit ∨ ∃ kind : ApprovalKind, row.Available kind.capability) :
    ∃ inbox, (approvalInbox env context).run (final (step env) Execution.newSession calls) =
        (.ok inbox, { final (step env) Execution.newSession calls with
          reads := (final (step env) Execution.newSession calls).reads + 1 }) ∧
      inbox.asOf = env.clock (final (step env) Execution.newSession calls).reads ∧
      inbox.items.map (·.approvalId) =
        ((final (step env) Execution.newSession calls).db.approvals.rows.filter fun approval =>
          Listed row context.tenantId inbox.asOf approval).map (·.id) ∧
      ∀ item ∈ inbox.items, ∃ approval ∈ (final (step env) Execution.newSession calls).db.approvals.rows,
        approval.id = item.approvalId ∧ inbox.asOf < approval.expiresAt ∧
          (approvalDetail env context approval.id).run (final (step env) Execution.newSession calls) =
            (.ok item, { final (step env) Execution.newSession calls with
              reads := (final (step env) Execution.newSession calls).reads + 1 }) ∧
          (item.actions ≠ [] ↔ ∃ command,
            Undecided context (final (step env) Execution.newSession calls) approval.commandId env command approval) := by
  have history := run_evolves calls
  generalize final (step env) Execution.newSession calls = s at history found ⊢
  have lockstep := (evolutions_lockstep lockstep_newSession history).1
  refine ⟨_, approvalInbox_reads lockstep.paired found active version reads, rfl, ?_, fun item shown => ?_⟩
  · exact listed_items lockstep.paired row context.tenantId _ fun _ member => member
  · obtain ⟨approval, kept, made⟩ := List.mem_filterMap.mp shown
    obtain ⟨stored, ours⟩ := List.mem_filter.mp kept
    obtain ⟨⟨-, readable, pending, unexpired⟩, named, offers, _, item_command, rfl⟩ := itemIn_some made
    have ours : approval.tenantId = context.tenantId := of_decide_eq_true ours
    have approval_found : s.db.approvals.get? (context.tenantId, approval.commandId) = some approval := by
      rw [← ours]
      exact s.db.approvals.get?_key stored
    obtain ⟨command, command_found⟩ := command_of_approval lockstep.paired approval_found
    have kind := history_akin history _ approval command approval_found command_found
    have detail : (approvalDetail env context approval.id).run s = _ :=
      approvalDetail_reads lockstep found active version stored ours readable item_command
    refine ⟨approval, stored, named.symm, unexpired, detail, offers.trans ?_⟩
    constructor
    · intro available
      refine ⟨command, command_found, approval_found, ⟨row, found, active, version, kind ▸ available⟩, ?_, pending⟩
      exact fun intent intent_found => history_intent history intent_found command_found approval_found
    · rintro ⟨other, other_found, -, ⟨member, member_found, -, -, available⟩, -, -⟩
      cases command_found.symm.trans other_found
      cases found.symm.trans member_found
      exact kind ▸ available

/-- A refund is requested. -/
def pendingRefund : List (LifecycleCall idleEnv) :=
  [bootstrapped, .requestApproval Execution.demoMaster .refund (.text "order") [] (.text "refund") 1 1 []]

theorem inbox_offers_open_refund : ∃ inbox,
    ((approvalInbox idleEnv Execution.demoMaster).run (final (step idleEnv) Execution.newSession pendingRefund)).1 = .ok inbox ∧
      inbox.items.map (·.approvalId) = [5] := by
  have member : (final (step idleEnv) Execution.newSession pendingRefund).db.memberships.get? (0, 1) =
      some ⟨0, 1, [.master], true, 1⟩ := by decide +kernel
  obtain ⟨inbox, ran, asOf, listed, -⟩ := inbox_offers_open idleEnv pendingRefund Execution.demoMaster
    ⟨0, 1, [.master], true, 1⟩ member rfl rfl (.inl (by decide))
  refine ⟨inbox, by rw [ran], ?_⟩
  rw [listed, asOf]
  decide +kernel

end AiStore.Approvals
