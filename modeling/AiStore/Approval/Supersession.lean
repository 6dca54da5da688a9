import AiStore.Approval.Lockstep
import AiStore.Service.Members

/-! Chains of commands that supersede one another. -/

set_option autoImplicit false

namespace AiStore.Approvals

open Library (Session Txn Table final)
open Library.Txn Repository Service
open Relation (ReflTransGen TransGen)

/-! ## Acyclic relations -/

section

variable {α : Type} {before after : α → α → Prop}

/-- A relation that only gains an edge out of a node nothing leads to has no new cycle. -/
theorem acyclic_of_new_edge (source target : α) (acyclic : ∀ node, ¬ TransGen before node node)
    (edges : ∀ first second, after first second → before first second ∨ first = source ∧ second = target)
    (unreached : ∀ node, ¬ before node source) (apart : target ≠ source) :
    ∀ node, ¬ TransGen after node node := by
  have avoids : ∀ first second, after first second → second ≠ source := by
    intro first second edge
    rcases edges first second edge with old | ⟨-, rfl⟩
    · rintro rfl
      exact unreached first old
    · exact apart
  -- a path that does not start at the source never uses the new edge
  have older : ∀ first second, first ≠ source → TransGen after first second → TransGen before first second := by
    intro first second away path
    induction path with
    | single edge =>
      rcases edges _ _ edge with old | ⟨here, -⟩
      · exact .single old
      · exact absurd here away
    | tail path edge ih =>
      rcases edges _ _ edge with old | ⟨here, -⟩
      · exact ih.tail old
      · obtain ⟨_, -, last⟩ := Relation.TransGen.tail'_iff.mp path
        exact absurd here (avoids _ _ last)
  intro node cycle
  obtain ⟨_, -, last⟩ := Relation.TransGen.tail'_iff.mp cycle
  exact acyclic node (older node node (avoids _ _ last) cycle)

end

variable {env : Env} {s t : Session Store}

/-! ## Chains -/

/-- The command records the other as the one it supersedes. -/
def Supersedes (db : Store) (tenant command old : Uuid) : Prop :=
  ∃ row, db.commands.get? (tenant, command) = some row ∧ row.supersedesId = some old

/-- Whoever is superseded is so for good, by one command only, and no chain closes. -/
structure Chained (db : Store) : Prop where
  retired : ∀ tenant command old, Supersedes db tenant command old →
    ∃ row, db.commands.get? (tenant, old) = some row ∧ row.state = .superseded
  single : ∀ tenant first second old, Supersedes db tenant first old → Supersedes db tenant second old → first = second
  acyclic : ∀ tenant command, ¬ TransGen (Supersedes db tenant) command command

/-- A superseded command stays superseded. -/
def Settled (before after : Store) : Prop := ∀ key row, before.commands.get? key = some row → row.state = .superseded →
  ∃ later, after.commands.get? key = some later ∧ later.state = .superseded

theorem Lockstep.settled (lockstep : Lockstep s) (later : Lockstep t) (onward : Onward s.db t.db) :
    Settled s.db t.db := by
  intro key row found superseded
  obtain ⟨approval, approval_found, same⟩ := lockstep.paired.approval_of_command found
  obtain ⟨row', found', -⟩ := onward.commands key row found
  obtain ⟨approval', approval_found', -, moves⟩ := onward.approvals key approval approval_found
  refine ⟨row', found', ?_⟩
  rw [later.paired.state found' approval_found']
  rw [superseded] at same
  rcases moves with stays | pending | ⟨approved, -⟩
  · rw [stays]
    exact same.symm
  · rw [pending] at same
    cases same
  · rw [approved] at same
    cases same

theorem Chained.shrink {before after : Store} (chained : Chained before)
    (links : ∀ tenant command old, Supersedes after tenant command old → Supersedes before tenant command old)
    (settled : Settled before after) : Chained after where
  retired tenant command old link := by
    obtain ⟨row, found, superseded⟩ := chained.retired tenant command old (links tenant command old link)
    exact settled _ row found superseded
  single tenant first second old left right :=
    chained.single tenant first second old (links _ _ _ left) (links _ _ _ right)
  acyclic tenant command cycle := by
    refine chained.acyclic tenant command (Relation.TransGen.mono ?_ _ _ cycle)
    exact fun first second => links tenant first second

theorem command_named {db : Store} {tenant id : Uuid} {row : Command}
    (found : db.commands.get? (tenant, id) = some row) : row.tenantId = tenant ∧ row.id = id := by
  have named := Table.key_of_get? found
  exact Prod.mk.inj named

theorem supersedes_of_found {db : Store} {tenant id old : Uuid} {row : Command}
    (found : db.commands.get? (tenant, id) = some row) (records : row.supersedesId = some old) :
    Supersedes db row.tenantId row.id old := by
  obtain ⟨rfl, rfl⟩ := command_named found
  exact ⟨row, found, records⟩

/-- A rewritten command records what it recorded. -/
theorem supersedes_put {before after : Store} {row : Command} (commands : after.commands = before.commands.put row)
    (recorded : ∀ old, row.supersedesId = some old → Supersedes before row.tenantId row.id old)
    (tenant command old : Uuid) (link : Supersedes after tenant command old) : Supersedes before tenant command old := by
  obtain ⟨other, found, links⟩ := link
  rw [commands, Table.get?_put] at found
  split at found
  · next same =>
    cases found
    have named := Prod.mk.inj same
    rw [← named.1, ← named.2]
    exact recorded old links
  · exact ⟨other, found, links⟩

theorem change_links (change : Change env s t) (tenant command old : Uuid) (link : Supersedes t.db tenant command old) :
    Supersedes s.db tenant command old := by
  have same : t.db.commands = s.db.commands → Supersedes s.db tenant command old := by
    intro commands
    rw [Supersedes, commands] at link
    exact link
  cases change with
  | other quiet => exact same (congrArg Prod.fst quiet.lifecycle.same)
  | created created =>
    obtain ⟨-, rfl, -, -, row, written⟩ := created
    refine supersedes_put (by rw [written]) ?_ tenant command old link
    intro older links
    cases links
  | attached _ _ attached =>
    obtain ⟨-, -, intent, -, -, -, -, written⟩ := attached
    exact same (by rw [written])
  | @ranOut _ _ row _ _ _ waiting _ ranOut =>
    obtain ⟨-, _, written⟩ := ranOut
    refine supersedes_put (by rw [written]) ?_ tenant command old link
    intro older links
    have linked := supersedes_of_found waiting.command_found links
    exact linked
  | @settled _ _ row _ _ _ _ waiting _ _ _ settled =>
    obtain ⟨-, _, written⟩ := settled
    refine supersedes_put (by rw [written]) ?_ tenant command old link
    intro older links
    have linked := supersedes_of_found waiting.command_found links
    exact linked
  | prepared _ prepared =>
    obtain ⟨-, -, -, row, written⟩ := prepared
    exact same (by rw [written])
  | toolFiled _ filed => exact same (congrArg Prod.fst (quiet_of_toolFiled filed).same)

theorem changes_chained (lockstep : Lockstep s) (chained : Chained s.db) (changes : ReflTransGen (Change env) s t) :
    Chained t.db := by
  refine chained.shrink ?_ (lockstep.settled (changes_lockstep lockstep changes).1 (changes_lockstep lockstep changes).2)
  induction changes with
  | refl => exact fun _ _ _ link => link
  | tail _ change ih => exact fun tenant command old link => ih tenant command old (change_links change _ _ _ link)

/-! ## Supersession -/

/-- The key names no command, or one that still waits for its decision. -/
def KeyOpen (db : Store) (tenant : Uuid) (idempotencyKey : CommandKey) : Prop :=
  ∀ id, db.commandIdempotency.get? (tenant, idempotencyKey) = some id →
    ∃ row, db.commands.get? (tenant, id) = some row ∧ row.state = .awaitingApproval

/-- A pending command of its own that records the old one. -/
structure FreshReplacement (oldId : Uuid) (command : Command) (approval : Approval) : Prop where
  waiting : command.state = .awaitingApproval
  pending : approval.state = .pending
  different : command.id ≠ oldId
  records : command.supersedesId = some oldId

section

variable {context : TenantContext} {idempotencyKey : CommandKey} {old replacement : Command}
  {oldApproval approval : Approval} {middle : Session Store}

theorem retired_found {tenant : Uuid} (found : s.db.commands.get? (tenant, old.id) = some old) :
    (retired s old oldApproval).db.commands.get? (tenant, old.id) = some { old with state := .superseded } := by
  rw [← Table.key_of_get? found]
  exact Table.get?_put_self s.db.commands { old with state := .superseded }

/-- The command a bound key returns is not the old one, whose material differs. -/
theorem superseded_different
    (superseded : Superseded env context s idempotencyKey old oldApproval replacement approval middle t)
    (lockstep : Lockstep s) : replacement.id ≠ old.id := by
  obtain ⟨payload, changed, created | replayed⟩ := superseded.change
  · intro same
    have drawn := lockstep.command_ids old (Table.mem_of_get? superseded.old_found)
    rw [← same, created.command_eq] at drawn
    exact Nat.lt_irrefl _ drawn
  · intro same
    have found := replayed.command_found
    rw [same] at found
    cases Option.some.inj (found.symm.trans (retired_found superseded.old_found))
    exact changed replayed.same_digest.symm

theorem superseded_fresh_iff
    (superseded : Superseded env context s idempotencyKey old oldApproval replacement approval middle t)
    (lockstep : Lockstep s) :
    FreshReplacement old.id { replacement with supersedesId := some old.id } approval ↔
      KeyOpen s.db context.tenantId idempotencyKey := by
  have different := superseded_different superseded lockstep
  obtain ⟨middle_holds, -, found, approval_found⟩ := superseded_middle superseded lockstep
  have paired := middle_holds.paired.state found approval_found
  obtain ⟨payload, -, created | replayed⟩ := superseded.change
  · constructor
    · intro _ id bound
      have free : s.db.commandIdempotency.get? (context.tenantId, idempotencyKey) = none := created.key_free
      rw [free] at bound
      cases bound
    · intro _
      refine ⟨?_, ?_, different, rfl⟩
      · rw [created.command_eq]
        rfl
      · rw [created.approval_eq]
        rfl
  · -- the rows that the key returns are those of the state before the call
    have bound : s.db.commandIdempotency.get? (context.tenantId, idempotencyKey) = some replacement.id := replayed.key_bound
    have before : s.db.commands.get? (context.tenantId, replacement.id) = some replacement := by
      have kept := replayed.command_found
      have named := Table.key_of_get? superseded.old_found
      rw [retired, Table.get?_put_of_ne] at kept
      · exact kept
      · intro same
        exact different (congrArg Prod.snd same).symm
    constructor
    · rintro ⟨waiting, -, -, -⟩ id named
      cases Option.some.inj (named.symm.trans bound)
      exact ⟨replacement, before, waiting⟩
    · intro key_open
      obtain ⟨row, row_found, waiting⟩ := key_open replacement.id bound
      cases Option.some.inj (row_found.symm.trans before)
      refine ⟨waiting, ?_, different, rfl⟩
      rw [waiting] at paired
      cases state : approval.state <;> rw [state] at paired <;> cases paired

/-- Nobody has superseded a command that can still be superseded. -/
theorem unlinked_of_open (lockstep : Lockstep s) (chained : Chained s.db) {tenant : Uuid}
    (found : s.db.commands.get? (tenant, old.id) = some old)
    (approval_found : s.db.approvals.get? (tenant, old.id) = some oldApproval)
    (old_open : oldApproval.state = .pending ∨ oldApproval.state = .approved) (command : Uuid) :
    ¬ Supersedes s.db tenant command old.id := by
  intro link
  obtain ⟨row, row_found, superseded⟩ := chained.retired _ _ _ link
  cases Option.some.inj (row_found.symm.trans found)
  have same := lockstep.paired.state found approval_found
  rw [superseded] at same
  rcases old_open with pending | approved
  · rw [pending] at same
    cases same
  · rw [approved] at same
    cases same

/-- The links before the replacement is linked are links of the state before the call. -/
theorem middle_links
    (superseded : Superseded env context s idempotencyKey old oldApproval replacement approval middle t)
    (tenant command older : Uuid) (link : Supersedes middle.db tenant command older) :
    Supersedes s.db tenant command older := by
  have retired_links : ∀ tenant command older, Supersedes (retired s old oldApproval).db tenant command older →
      Supersedes s.db tenant command older := by
    apply supersedes_put (show (retired s old oldApproval).db.commands =
      s.db.commands.put { old with state := .superseded } from rfl)
    intro older links
    have linked := supersedes_of_found superseded.old_found links
    exact linked
  obtain ⟨payload, -, created | replayed⟩ := superseded.change
  · exact retired_links _ _ _ (change_links (.created created) _ _ _ link)
  · rw [replayed.unchanged] at link
    exact retired_links _ _ _ link

/-- The links of the new state: the old ones, and the one from the replacement to the old command. -/
theorem superseded_links
    (superseded : Superseded env context s idempotencyKey old oldApproval replacement approval middle t)
    (lockstep : Lockstep s) (tenant command older : Uuid) (link : Supersedes t.db tenant command older) :
    Supersedes s.db tenant command older ∨ tenant = context.tenantId ∧ command = replacement.id ∧ older = old.id := by
  obtain ⟨-, -, found, -⟩ := superseded_middle superseded lockstep
  have named := command_named found
  obtain ⟨row, written⟩ := superseded.written
  obtain ⟨other, other_found, records⟩ := link
  rw [written, Table.get?_put] at other_found
  split at other_found
  · next same =>
    cases other_found
    have here := Prod.mk.inj same
    exact .inr ⟨here.1.symm.trans named.1, here.2.symm, (Option.some.inj records).symm⟩
  · exact .inl (middle_links superseded _ _ _ ⟨other, other_found, records⟩)

theorem superseded_retired
    (superseded : Superseded env context s idempotencyKey old oldApproval replacement approval middle t)
    (lockstep : Lockstep s) :
    ∃ later, t.db.commands.get? (context.tenantId, old.id) = some later ∧ later.state = .superseded := by
  obtain ⟨retired_holds, -⟩ :=
    retired_lockstep superseded.old_found superseded.old_approval_found superseded.old_open lockstep
  obtain ⟨middle_holds, middle_onward, -, -⟩ := superseded_middle superseded lockstep
  obtain ⟨later, later_found, state⟩ :=
    (retired_holds.settled middle_holds middle_onward) _ _ (retired_found superseded.old_found) rfl
  obtain ⟨row, written⟩ := superseded.written
  refine ⟨later, ?_, state⟩
  rw [written, Table.get?_put_of_ne]
  · exact later_found
  · intro same
    exact superseded_different superseded lockstep (congrArg Prod.snd same)

theorem superseded_chained
    (superseded : Superseded env context s idempotencyKey old oldApproval replacement approval middle t)
    (lockstep : Lockstep s) (chained : Chained s.db) (key_open : KeyOpen s.db context.tenantId idempotencyKey) :
    Chained t.db := by
  have fresh := (superseded_fresh_iff superseded lockstep).mpr key_open
  have unlinked := unlinked_of_open lockstep chained superseded.old_found superseded.old_approval_found superseded.old_open
  obtain ⟨-, -, found, -⟩ := superseded_middle superseded lockstep
  obtain ⟨holds, onward⟩ := superseded_lockstep superseded lockstep
  have settled := lockstep.settled holds onward
  have links := superseded_links superseded lockstep
  have commands : t.db.commands = middle.db.commands.put { replacement with supersedesId := some old.id } := by
    obtain ⟨row, written⟩ := superseded.written
    rw [written]
  refine ⟨?_, ?_, ?_⟩
  · intro tenant command older link
    rcases links tenant command older link with before | ⟨rfl, -, rfl⟩
    · obtain ⟨other, other_found, state⟩ := chained.retired _ _ _ before
      exact settled _ other other_found state
    · exact superseded_retired superseded lockstep
  · intro tenant first second older left right
    rcases links _ _ _ left with left | ⟨rfl, rfl, rfl⟩ <;> rcases links _ _ _ right with right | ⟨same, rfl, here⟩
    · exact chained.single _ _ _ _ left right
    · subst same here
      exact absurd left (unlinked first)
    · exact absurd right (unlinked second)
    · rfl
  · intro tenant
    by_cases here : tenant = context.tenantId
    · subst here
      apply acyclic_of_new_edge replacement.id old.id (chained.acyclic context.tenantId)
      · exact fun first second link => (links _ _ _ link).imp id And.right
      · -- the replacement waits for its decision, so nothing has superseded it
        intro command link
        have waits := fresh.waiting
        obtain ⟨other, other_found, state⟩ := chained.retired _ _ _ link
        obtain ⟨later, later_found, later_state⟩ := settled _ other other_found state
        have written_row : t.db.commands.get? (context.tenantId, replacement.id) =
            some { replacement with supersedesId := some old.id } := by
          rw [commands, ← Table.key_of_get? found]
          exact Table.get?_put_self middle.db.commands { replacement with supersedesId := some old.id }
        cases Option.some.inj (later_found.symm.trans written_row)
        rw [waits] at later_state
        cases later_state
      · exact fun same => fresh.different same.symm
    · intro command cycle
      apply chained.acyclic tenant command
      refine Relation.TransGen.mono ?_ _ _ cycle
      intro first second link
      rcases links _ _ _ link with before | ⟨same, -⟩
      · exact before
      · exact absurd same here

end

/-! ## Runs -/

/-- Every supersession of the run finds its key free, or bound to a command that waits for its decision. -/
def KeysOpen (calls : List (LifecycleCall env)) : Prop :=
  ∀ before context commandId payload key after, calls = before ++ .supersede context commandId payload key :: after →
    KeyOpen (final (step env) Execution.newSession before).db context.tenantId key

theorem step_chained (lockstep : Lockstep s) (chained : Chained s.db) {call : LifecycleCall env}
    (key_open : ∀ context commandId payload key, call = .supersede context commandId payload key →
      KeyOpen s.db context.tenantId key) : Chained (step env call s).2.db := by
  rcases step_cases call s with changes | ⟨context, commandId, payload, key, _, _, _, _, _, same, -, -, superseded⟩
  · exact changes_chained lockstep chained changes
  · exact superseded_chained superseded lockstep chained (key_open context commandId payload key same)

theorem chained_newSession : Chained Execution.newSession.db := by
  have unlinked : ∀ tenant command old, ¬ Supersedes Execution.newSession.db tenant command old := by
    rintro tenant command old ⟨row, found, -⟩
    cases found
  refine ⟨?_, ?_, ?_⟩
  · exact fun tenant command old link => absurd link (unlinked tenant command old)
  · exact fun tenant first second old link => absurd link (unlinked tenant first old)
  · intro tenant command cycle
    obtain ⟨_, -, last⟩ := TransGen.tail'_iff.mp cycle
    exact unlinked _ _ _ last

theorem run_chained (calls : List (LifecycleCall env)) (keys_open : KeysOpen calls) :
    Chained (final (step env) Execution.newSession calls).db := by
  apply Library.run_induction fun calls => Chained (final (step env) Execution.newSession calls).db
  · exact chained_newSession
  · intro before call after split chained
    rw [Library.final_concat]
    apply step_chained (run_lockstep before) chained
    rintro context commandId payload key rfl
    exact keys_open before context commandId payload key after split

/-- A supersession that returns has replaced the old command by a fresh pending one exactly when its
key was free or named a command still waiting; in a run of such supersessions the links are
acyclic, every command is superseded once at most, and whatever another supersedes, at whatever
distance, is dead. -/
theorem supersede_fresh (env : Env) (calls : List (LifecycleCall env)) :
    let reached := final (step env) Execution.newSession calls
    (∀ context commandId payload key command approval,
      (step env (.supersede context commandId payload key) reached).1 = .ok (some (command, approval)) →
      (FreshReplacement commandId command approval ↔ KeyOpen reached.db context.tenantId key)) ∧
    (KeysOpen calls → ∀ tenant,
      (∀ command, ¬ TransGen (Supersedes reached.db tenant) command command) ∧
      (∀ first second old, Supersedes reached.db tenant first old → Supersedes reached.db tenant second old →
        first = second) ∧
      ∀ command old row, TransGen (Supersedes reached.db tenant) command old →
        reached.db.commands.get? (tenant, old) = some row → row.state = .superseded) := by
  intro reached
  have lockstep : Lockstep reached := run_lockstep calls
  constructor
  · intro context commandId payload key command approval returned
    simp only [step, perform, run_bind] at returned
    rcases ran : (supersede env context commandId payload key).run reached with ⟨why | rows, t⟩ <;> rw [ran] at returned
    · cases returned
    · cases returned
      obtain ⟨old, oldApproval, replacement, middle, rfl, rfl, superseded⟩ := supersede_superseded ran
      exact superseded_fresh_iff superseded lockstep
  · intro keys_open tenant
    have chained : Chained reached.db := run_chained calls keys_open
    refine ⟨chained.acyclic tenant, chained.single tenant, ?_⟩
    intro command old row path found
    -- the last link of the path retires the command it starts from
    obtain ⟨_, -, last⟩ := TransGen.tail'_iff.mp path
    obtain ⟨other, other_found, state⟩ := chained.retired _ _ _ last
    cases Option.some.inj (other_found.symm.trans found)
    exact state

/-! ## A key of an earlier command -/

/-- A clock that stands still and a digest that tells the empty request from every other. -/
def idleEnv : Env where
  clock _ := .utc 0
  digest material := if material = commandMaterial .refund (.text "order") [] then "empty" else "other"
  lower := id

theorem settles_of_frame {operation : Op Unit}
    (frame : Keeps (fun db => (serviceTables db, db.outbox)) operation) : Settles (Change env) operation := by
  intro s
  have same := Prod.mk.inj (frame s)
  exact .single (.other (quiet_of_same same.1 same.2 (operation.advances s)))

/-- A first tenant with its master. -/
def bootstrapped : LifecycleCall env :=
  .elsewhere (do let _ ← bootstrapTenant env "Demo" "master@demo.test")
    (settles_of_frame ((keeps_bootstrapTenant fun _ _ _ _ _ => rfl).bind fun _ => keeps_pure _))

/-- The key of a rejected command is given to a supersession. -/
def reusedKey : List (LifecycleCall idleEnv) :=
  [bootstrapped, .createCommand Execution.demoMaster .refund (.text "order") [] (.text "refund") [],
   .decide Execution.demoMaster 4 false "no",
   .createCommand Execution.demoMaster .refund (.text "order") [("amount", .int 1)] (.text "second") []]

/-- The supersession returns the rejected command, and nothing waits for a decision any more. -/
theorem supersede_returns_rejected :
    ∃ command approval,
      (step idleEnv (.supersede Execution.demoMaster 12 [] (.text "refund"))
        (final (step idleEnv) Execution.newSession reusedKey)).1 = .ok (some (command, approval)) ∧
      command.state = .rejected ∧ approval.state = .rejected ∧ ¬ FreshReplacement 12 command approval := by
  have returned : (step idleEnv (.supersede Execution.demoMaster 12 [] (.text "refund"))
      (final (step idleEnv) Execution.newSession reusedKey)).1.toOption.join.map (fun rows => (rows.1.state, rows.2.state)) =
        some (.rejected, .rejected) := by
    decide +kernel
  cases outcome : (step idleEnv (.supersede Execution.demoMaster 12 [] (.text "refund"))
      (final (step idleEnv) Execution.newSession reusedKey)).1 with
  | error why =>
    rw [outcome] at returned
    cases returned
  | ok rows =>
    rw [outcome] at returned
    obtain _ | ⟨command, approval⟩ := rows
    · cases returned
    · obtain ⟨command_state, approval_state⟩ := Prod.mk.inj (Option.some.inj returned)
      refine ⟨command, approval, rfl, command_state, approval_state, ?_⟩
      intro fresh
      cases command_state.symm.trans fresh.waiting

end AiStore.Approvals
