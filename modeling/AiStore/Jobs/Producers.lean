import Mathlib.Data.List.MinMax
import AiStore.Jobs.Leases

/-! The producers of jobs: each looks for a live job of its task, and enqueues one in a second transaction. -/

set_option autoImplicit false

namespace AiStore.StoreDB

open Library

/-- What a packet asks for, beside the id of its task. -/
structure Packet where
  title : String
  goal : String
  acceptance : List String
  files : List String
  deriving DecidableEq

inductive Producer where
  /-- `BlockedTriage.run` at a blocked item. -/
  | triage (item : String) (packet : Packet)
  /-- `hand_to_codex` for a task of the ledger. -/
  | handOver (task : Nat) (packet : Packet)
  /-- `run_forever` on an idle queue. -/
  | idle
  deriving DecidableEq

def Packet.entries (packet : Packet) : Mapping :=
  [("title", .text packet.title), ("goal", .text packet.goal),
    ("acceptance", .list (packet.acceptance.map .text)), ("files", .list (packet.files.map .text))]

/-! `lower` is `str.lower`, `taskIdOf` is `json_extract(payload, '$.task_id')`. -/

section

variable (lower : String → String) (dumps : Value → String) (loads : String → Except String Value)
variable (taskIdOf : String → Option String)

namespace Producer

def kind : Producer → String
  | triage .. | handOver .. => "dev.task"
  | idle => "blocked.triage"

def taskId : Producer → String
  | triage item _ => "prep-" ++ lower item
  | handOver task _ => "ctl-" ++ toString task
  | idle => "blocked-triage"

def payload : Producer → Value
  | triage item packet =>
      .dict (("task_id", .text ("prep-" ++ lower item)) :: packet.entries ++ [("source_item", .text item)])
  | handOver task packet =>
      .dict (("task_id", .text ("ctl-" ++ toString task)) :: packet.entries ++
        [("max_fix_rounds", .int 3), ("source_item", .text ("control-task-" ++ toString task))])
  | idle => .dict [("task_id", .text "blocked-triage"), ("auto", .bool true)]

/-- The producer enqueues a new job where the one it has found is in such a status. -/
def Replaces : Producer → JobStatus → Prop
  | triage .., status => status = .dead
  | handOver .., status | idle, status => status = .done ∨ status = .dead

instance (producer : Producer) : DecidablePred producer.Replaces := fun status => by
  cases producer <;> unfold Replaces <;> exact inferInstance

end Producer

def Named (kind taskId : String) (job : Job) : Prop := job.kind = kind ∧ taskIdOf job.payload = some taskId

instance (kind taskId : String) : DecidablePred (Named taskIdOf kind taskId) := fun job => by
  unfold Named
  exact inferInstance

/-- `find_job`, whose `ORDER BY id DESC LIMIT 1` takes the newest. -/
def findJob (kind taskId : String) (db : Database) : Option Job :=
  (db.jobs.rows.filter fun job => Named taskIdOf kind taskId job).argmax (·.id)

/-- A call of a worker; workers enqueue as producers only. -/
structure Work where
  call : Call
  works : ∀ kind payload, call.command ≠ .enqueue kind payload

inductive Action where
  | work (work : Work)
  | look (process : String) (producer : Producer)
  | enqueue (process : String) (now : UtcTime)

/-- The store, and the processes that are about to enqueue, each with the id of the job it has found. -/
structure Floor where
  store : State
  waiting : String → Option (Producer × Option Nat)

def Floor.start : Floor := ⟨.start, fun _ => none⟩

def Floor.look (process : String) (producer : Producer) (floor : Floor) : Floor :=
  match findJob taskIdOf producer.kind (producer.taskId lower) floor.store.db with
  | none => { floor with waiting := Function.update floor.waiting process (some (producer, none)) }
  | some live =>
      if producer.Replaces live.status then
        { floor with waiting := Function.update floor.waiting process (some (producer, some live.id)) }
      else floor

def Floor.enqueue (process : String) (now : UtcTime) (floor : Floor) : Floor :=
  match floor.waiting process with
  | none => floor
  | some (producer, _) =>
      let waiting := Function.update floor.waiting process none
      match StoreDB.enqueue dumps producer.kind (producer.payload lower) now floor.store.db with
      | .error _ => { floor with waiting }
      | .ok (_, db) => ⟨{ floor.store with db }, waiting⟩

/-- A process between its two transactions does not look again. -/
def Floor.act (action : Action) (floor : Floor) : Floor :=
  match action with
  | .work work => { floor with store := (step dumps loads work.call floor.store).2 }
  | .look process producer =>
      if floor.waiting process = none then floor.look lower taskIdOf process producer else floor
  | .enqueue process now => floor.enqueue lower dumps process now

def Floor.after (actions : List Action) : Floor :=
  final (fun action floor => ((), floor.act lower dumps loads taskIdOf action)) .start actions

/-- A job that is still to be done. -/
def Job.Live (job : Job) : Prop := job.status = .queued ∨ job.status = .running

instance : DecidablePred Job.Live := fun job => by
  unfold Job.Live
  exact inferInstance

/-- At most one live job of a kind and a task. -/
def OneLive (db : Database) : Prop :=
  ∀ kind taskId, ∀ first ∈ db.jobs.rows, ∀ second ∈ db.jobs.rows, Named taskIdOf kind taskId first →
    Named taskIdOf kind taskId second → first.Live → second.Live → first = second

/-- A live job of the producer's task has come in since the producer looked. -/
def Overtaken (floor : Floor) (process : String) : Prop :=
  ∃ producer found, floor.waiting process = some (producer, found) ∧
    ∃ row ∈ floor.store.db.jobs.rows, Named taskIdOf producer.kind (producer.taskId lower) row ∧ row.Live ∧
      ∀ old ∈ found, old < row.id

end

variable {lower : String → String} {dumps : Value → String} {loads : String → Except String Value}
variable {taskIdOf : String → Option String} {state after : State} {call : Call} {floor : Floor}

/-! ## Jobs through the calls of the workers -/

/-- No job is born, renamed or brought back to life. -/
structure Continues (state after : State) : Prop where
  sequence : after.db.sequence = state.db.sequence
  rows : ∀ row ∈ after.db.jobs.rows, ∃ old ∈ state.db.jobs.rows,
    old.id = row.id ∧ old.kind = row.kind ∧ old.payload = row.payload ∧ (row.Live → old.Live)

theorem Continues.refl (state : State) : Continues state state :=
  ⟨rfl, fun row member => ⟨row, member, rfl, rfl, rfl, fun live => live⟩⟩

theorem continues_put {row : Job} (written : Job) (found : state.db.jobs.get? row.id = some row)
    (same : written.kind = row.kind ∧ written.payload = row.payload) (named : written.id = row.id)
    (live : written.Live → row.Live) (log : List AuditRow) (burying : String → Option (Nat × String)) :
    Continues state ⟨{ state.db with jobs := state.db.jobs.put written, auditLog := log }, burying⟩ where
  sequence := rfl
  rows := Table.forall_put (fun other there => ⟨other, there, rfl, rfl, rfl, fun live => live⟩)
    ⟨row, Table.mem_of_get? found, named.symm, same.1.symm, same.2.symm, live⟩

theorem Owned.live {worker : String} {now : UtcTime} {row : Job} (owned : Owned worker now row) : row.Live :=
  .inr owned.1

theorem Acts.continues {id : Nat} {act : Deed} (acted : Acts loads state call id act after)
    (unborn : act ≠ .enqueued) : Continues state after := by
  cases acted with
  | enqueued => exact absurd rfl unborn
  -- each deed of a worker rewrites one row, and leaves it live only where it was
  | @leased row lease free found claimable sound =>
    exact continues_put (row.leaseTo call.worker lease call.now) found ⟨rfl, rfl⟩ rfl (fun _ => claimable.status) _ _
  | @corrupt row lease why free found claimable failed =>
    exact continues_put (row.leaseTo call.worker lease call.now) found ⟨rfl, rfl⟩ rfl (fun _ => claimable.status) _ _
  | @buried id why pending =>
    unfold bury
    split
    · exact ⟨rfl, (Continues.refl state).rows⟩
    · next row found =>
      have named := Table.key_of_get? found
      rw [← named] at found
      have dead : ¬ (row.bury why call.now).Live := by rintro (queued | running) <;> contradiction
      exact continues_put (row.bury why call.now) found ⟨rfl, rfl⟩ rfl (fun live => absurd live dead) _ _
  | @renewed row lease free found owned =>
    exact continues_put (row.renew lease call.now) found ⟨rfl, rfl⟩ rfl (fun _ => owned.live) _ _
  | @saved row text free found owned =>
    exact continues_put (row.save text call.now) found ⟨rfl, rfl⟩ rfl (fun _ => owned.live) _ _
  | @deferred row available reason free found owned =>
    exact continues_put (row.postpone available reason call.now) found ⟨rfl, rfl⟩ rfl (fun _ => owned.live) _ _
  | @completed row event text details free found owned =>
    exact continues_put (row.finish call.now) found ⟨rfl, rfl⟩ rfl (fun _ => owned.live) _ _
  | @failed row available message text details maxAttempts permanent free found owned =>
    exact continues_put (row.release _ available text call.now) found ⟨rfl, rfl⟩ rfl (fun _ => owned.live) _ _

theorem deed_enqueued {call : Call} {result : Result} {id : Nat} (born : deed (call, result) = some (id, .enqueued)) :
    ∃ kind payload, call.command = .enqueue kind payload := by
  obtain ⟨worker, now, command⟩ := call
  unfold deed at born
  split at born <;> cases born
  next same => exact ⟨_, _, congrArg (fun step => step.1.command) same⟩

theorem work_continues (work : Work) (state : State) : Continues state (step dumps loads work.call state).2 := by
  rcases @step_cases dumps loads work.call state with ⟨-, same⟩ | ⟨⟨id, act⟩, done, acted⟩
  · rw [same]
    exact .refl state
  · apply acted.continues
    rintro rfl
    obtain ⟨kind, payload, called⟩ := deed_enqueued done
    exact work.works kind payload called

/-! ## The newest job -/

/-- A live job is the newest of its task, and the job that a waiting producer has found is not live. -/
structure Solitary (lower : String → String) (taskIdOf : String → Option String) (floor : Floor) : Prop where
  fresh : ∀ row ∈ floor.store.db.jobs.rows, row.id ≤ floor.store.db.sequence
  newest : ∀ kind taskId, ∀ first ∈ floor.store.db.jobs.rows, ∀ second ∈ floor.store.db.jobs.rows,
    Named taskIdOf kind taskId first → Named taskIdOf kind taskId second → first.Live → second.id ≤ first.id
  known : ∀ process producer found, floor.waiting process = some (producer, found) →
    ∀ old ∈ found, old ≤ floor.store.db.sequence
  waiting : ∀ process producer found, floor.waiting process = some (producer, found) →
    ∀ row ∈ floor.store.db.jobs.rows, Named taskIdOf producer.kind (producer.taskId lower) row → row.Live →
      ∀ old ∈ found, old < row.id

theorem solitary_start : Solitary lower taskIdOf .start where
  fresh row member := by cases member
  newest kind taskId first member := by cases member
  known process producer found none_waits := by cases none_waits
  waiting process producer found none_waits := by cases none_waits

theorem Solitary.oneLive (solitary : Solitary lower taskIdOf floor) : OneLive taskIdOf floor.store.db := by
  intro kind taskId first first_there second second_there first_named second_named first_live second_live
  have le := solitary.newest kind taskId first first_there second second_there first_named second_named first_live
  have ge := solitary.newest kind taskId second second_there first first_there second_named first_named second_live
  exact Table.key_inj _ first_there second_there (Nat.le_antisymm ge le)

theorem Solitary.continued (solitary : Solitary lower taskIdOf floor) (continues : Continues floor.store after) :
    Solitary lower taskIdOf { floor with store := after } where
  fresh row member := by
    obtain ⟨old, there, same, -⟩ := continues.rows row member
    rw [continues.sequence, ← same]
    exact solitary.fresh old there
  newest kind taskId first first_there second second_there first_named second_named live := by
    obtain ⟨old, there, same, kept, text, lived⟩ := continues.rows first first_there
    obtain ⟨other, other_there, other_same, other_kept, other_text, -⟩ := continues.rows second second_there
    rw [← same, ← other_same]
    rw [Named, ← kept, ← text] at first_named
    rw [Named, ← other_kept, ← other_text] at second_named
    exact solitary.newest kind taskId old there other other_there first_named second_named (lived live)
  known process producer found waits := by
    rw [continues.sequence]
    exact solitary.known process producer found waits
  waiting process producer found waits row member named live := by
    obtain ⟨old, there, same, kept, text, lived⟩ := continues.rows row member
    rw [← same]
    rw [Named, ← kept, ← text] at named
    exact solitary.waiting process producer found waits old there named (lived live)

theorem mem_findJob {kind taskId : String} {db : Database} {live : Job} (found : findJob taskIdOf kind taskId db = some live) :
    live ∈ db.jobs.rows ∧ Named taskIdOf kind taskId live ∧
      ∀ row ∈ db.jobs.rows, Named taskIdOf kind taskId row → row.id ≤ live.id := by
  obtain ⟨there, named⟩ := List.mem_filter.mp (List.argmax_mem found)
  refine ⟨there, of_decide_eq_true named, fun row member matched => ?_⟩
  exact List.le_of_mem_argmax (List.mem_filter.mpr ⟨member, decide_eq_true matched⟩) found

theorem findJob_none {kind taskId : String} {db : Database} (absent : findJob taskIdOf kind taskId db = none) :
    ∀ row ∈ db.jobs.rows, ¬ Named taskIdOf kind taskId row := by
  intro row member named
  have nothing := List.argmax_eq_none.mp absent
  exact List.filter_eq_nil_iff.mp nothing row member (decide_eq_true named)

theorem Producer.Replaces.not_live {producer : Producer} {job : Job} (replaces : producer.Replaces job.status) :
    ¬ job.Live := by
  have ended : job.status = .done ∨ job.status = .dead := by
    cases producer with
    | triage => exact .inr replaces
    | handOver | idle => exact replaces
  rintro (queued | running) <;> rcases ended with done | dead <;> simp_all

theorem Solitary.waits (solitary : Solitary lower taskIdOf floor) (process : String) {producer : Producer}
    {found : Option Nat} (known : ∀ old ∈ found, old ≤ floor.store.db.sequence)
    (behind : ∀ row ∈ floor.store.db.jobs.rows, Named taskIdOf producer.kind (producer.taskId lower) row → row.Live →
      ∀ old ∈ found, old < row.id) :
    Solitary lower taskIdOf
      { floor with waiting := Function.update floor.waiting process (some (producer, found)) } where
  fresh := solitary.fresh
  newest := solitary.newest
  known other same was waits := by
    dsimp only at waits
    by_cases own : other = process
    · subst own
      rw [Function.update_self] at waits
      cases waits
      exact known
    · rw [Function.update_of_ne own] at waits
      exact solitary.known other same was waits
  waiting other same was waits := by
    dsimp only at waits
    by_cases own : other = process
    · subst own
      rw [Function.update_self] at waits
      cases waits
      exact behind
    · rw [Function.update_of_ne own] at waits
      exact solitary.waiting other same was waits

theorem Solitary.looked (solitary : Solitary lower taskIdOf floor) (process : String) (producer : Producer) :
    Solitary lower taskIdOf (floor.look lower taskIdOf process producer) := by
  unfold Floor.look
  split
  · next absent =>
    apply solitary.waits process (by rintro old ⟨⟩)
    exact fun row member named => absurd named (findJob_none absent row member)
  · next live found =>
    split
    · next replaces =>
      obtain ⟨there, named, -⟩ := mem_findJob found
      apply solitary.waits process (by rintro old ⟨⟩; exact solitary.fresh live there)
      rintro row member matched alive old ⟨⟩
      -- the job found is over, so a live one of its task is newer
      have newer := solitary.newest _ _ row member live there matched named alive
      apply lt_of_le_of_ne newer
      intro same
      cases Table.key_inj _ there member same
      exact replaces.not_live alive
    · exact solitary

/-! ## New jobs -/

theorem serialisable_texts (texts : List String) : (Value.list (texts.map .text)).serialisable = true := by
  unfold Value.serialisable
  rw [Value.everyLeaf]
  induction texts with
  | nil => rfl
  | cons first rest ih =>
    rw [List.map_cons, Value.everyLeafList, ih]
    rfl

theorem Producer.serialisable (producer : Producer) : (producer.payload lower).serialisable = true := by
  cases producer with
  | idle => rfl
  | triage item packet | handOver task packet =>
    have acceptance := serialisable_texts packet.acceptance
    have files := serialisable_texts packet.files
    unfold Value.serialisable at acceptance files ⊢
    simp [Producer.payload, Packet.entries, Value.everyLeaf, Value.everyLeafMapping] at acceptance files ⊢
    exact ⟨acceptance, files⟩

/-- A process that enqueues adds one queued job of its task, under a new id. -/
theorem enqueued_row (extracts : ∀ producer : Producer, taskIdOf (dumps (producer.payload lower)) = some (producer.taskId lower))
    (process : String) (now : UtcTime) {producer : Producer} {found : Option Nat}
    (waits : floor.waiting process = some (producer, found)) :
    ∃ row : Job, row.id = floor.store.db.sequence + 1 ∧ Named taskIdOf producer.kind (producer.taskId lower) row ∧
      row.Live ∧ floor.enqueue lower dumps process now =
        ⟨{ floor.store with db := { floor.store.db with jobs := floor.store.db.jobs.put row, sequence := row.id } },
          Function.update floor.waiting process none⟩ := by
  unfold Floor.enqueue
  rw [waits]
  dsimp only [enqueue, dumped]
  rw [if_pos producer.serialisable]
  exact ⟨_, rfl, ⟨rfl, extracts producer⟩, .inl rfl, rfl⟩

theorem Solitary.unborn (solitary : Solitary lower taskIdOf floor) {row : Job}
    (new : row.id = floor.store.db.sequence + 1) {other : Job} (there : other ∈ floor.store.db.jobs.rows) :
    other.id < row.id := by
  have bound := solitary.fresh other there
  omega

theorem Solitary.enqueued (solitary : Solitary lower taskIdOf floor)
    (extracts : ∀ producer : Producer, taskIdOf (dumps (producer.payload lower)) = some (producer.taskId lower))
    (process : String) (now : UtcTime) (first_in : ¬ Overtaken lower taskIdOf floor process) :
    Solitary lower taskIdOf (floor.enqueue lower dumps process now) := by
  cases waits : floor.waiting process with
  | none =>
    unfold Floor.enqueue
    rw [waits]
    exact solitary
  | some pending =>
    obtain ⟨producer, found⟩ := pending
    obtain ⟨row, new, named, live, written⟩ := enqueued_row extracts process now waits
    rw [written]
    have members : ∀ {other : Job}, other ∈ (floor.store.db.jobs.put row).rows →
        other = row ∨ other ∈ floor.store.db.jobs.rows := fun member =>
      ((Table.mem_put _ _ _).mp member).imp_right And.left
    have others_wait_before : ∀ (other : String) {pending : Producer × Option Nat},
        Function.update floor.waiting process none other = some pending → floor.waiting other = some pending := by
      intro other pending waits_still
      by_cases own : other = process
      · rw [own, Function.update_self] at waits_still
        cases waits_still
      · rwa [Function.update_of_ne own] at waits_still
    constructor
    · intro other member
      rcases members member with rfl | there
      · exact Nat.le_refl _
      · exact Nat.le_of_lt (solitary.unborn new there)
    · intro kind taskId first first_there second second_there first_named second_named alive
      rcases members first_there with rfl | there <;> rcases members second_there with rfl | other_there
      · exact Nat.le_refl _
      · exact Nat.le_of_lt (solitary.unborn new other_there)
      · -- an older live job of the same task would have overtaken the producer
        exfalso
        obtain rfl : producer.kind = kind := named.1.symm.trans second_named.1
        obtain rfl : producer.taskId lower = taskId := Option.some.inj (named.2.symm.trans second_named.2)
        exact first_in ⟨producer, found, waits, first, there, first_named, alive,
          solitary.waiting process producer found waits first there first_named alive⟩
      · exact solitary.newest kind taskId first there second other_there first_named second_named alive
    -- the sequence has grown, so what the others have found is still behind it
    · intro other same was others_wait old is_old
      have bound := solitary.known other same was (others_wait_before other others_wait) old is_old
      dsimp only
      omega
    · intro other same was others_wait one member matched alive old is_old
      have waited := others_wait_before other others_wait
      rcases members member with rfl | there
      · have bound := solitary.known other same was waited old is_old
        omega
      · exact solitary.waiting other same was waited one there matched alive old is_old

/-! ## Runs -/

section

variable (lower : String → String) (dumps : Value → String) (loads : String → Except String Value)
variable (taskIdOf : String → Option String)

/-- No process enqueues behind another producer's job that is still live. -/
def InTurn (actions : List Action) : Prop :=
  ∀ before process now rest, actions = before ++ .enqueue process now :: rest →
    ¬ Overtaken lower taskIdOf (Floor.after lower dumps loads taskIdOf before) process

end

theorem after_concat (before : List Action) (action : Action) :
    Floor.after lower dumps loads taskIdOf (before ++ [action]) =
      (Floor.after lower dumps loads taskIdOf before).act lower dumps loads taskIdOf action := by
  simp only [Floor.after, final_concat]

section

variable (extracts : ∀ producer : Producer, taskIdOf (dumps (producer.payload lower)) = some (producer.taskId lower))

include extracts

theorem solitary_act (solitary : Solitary lower taskIdOf floor) {action : Action}
    (first_in : ∀ process now, action = .enqueue process now → ¬ Overtaken lower taskIdOf floor process) :
    Solitary lower taskIdOf (floor.act lower dumps loads taskIdOf action) := by
  cases action with
  | work work => exact solitary.continued (work_continues work floor.store)
  | look process producer =>
    unfold Floor.act
    dsimp only
    split
    · exact solitary.looked process producer
    · exact solitary
  | enqueue process now => exact solitary.enqueued extracts process now (first_in process now rfl)

theorem solitary_run (actions : List Action) (in_turn : InTurn lower dumps loads taskIdOf actions) :
    Solitary lower taskIdOf (Floor.after lower dumps loads taskIdOf actions) := by
  -- `Solitary` along the run, as long as nobody enqueues behind a live job of its task
  apply run_induction fun actions => Solitary lower taskIdOf (Floor.after lower dumps loads taskIdOf actions)
  · exact solitary_start
  · intro before action rest split solitary
    rw [after_concat]
    apply solitary_act extracts solitary
    rintro process now rfl
    exact in_turn before process now rest split

/-- Behind a live job of its task a process enqueues a second one. -/
theorem overtaken_doubles (process : String) (now : UtcTime) (solitary : ∀ row ∈ floor.store.db.jobs.rows,
    row.id ≤ floor.store.db.sequence) (overtaken : Overtaken lower taskIdOf floor process) :
    ¬ OneLive taskIdOf (floor.enqueue lower dumps process now).store.db := by
  obtain ⟨producer, found, waits, other, there, matched, alive, -⟩ := overtaken
  obtain ⟨row, new, named, live, written⟩ := enqueued_row extracts process now waits
  rw [written]
  intro one
  have apart : other.id ≠ row.id := by
    have bound := solitary other there
    omega
  -- the new row and the old one are both live and of one task, under two ids
  have both := one _ _ row ((Table.mem_put _ _ _).mpr (.inl rfl)) other ((Table.mem_put _ _ _).mpr (.inr ⟨there, apart⟩))
    named matched live alive
  exact apart (congrArg Job.id both.symm)

theorem fresh_act {action : Action} (fresh : ∀ row ∈ floor.store.db.jobs.rows, row.id ≤ floor.store.db.sequence) :
    ∀ row ∈ (floor.act lower dumps loads taskIdOf action).store.db.jobs.rows,
      row.id ≤ (floor.act lower dumps loads taskIdOf action).store.db.sequence := by
  cases action with
  | work work =>
    have continues : Continues floor.store (step dumps loads work.call floor.store).2 :=
      work_continues work floor.store
    intro row member
    obtain ⟨old, there, same, -⟩ := continues.rows row member
    change row.id ≤ (step dumps loads work.call floor.store).2.db.sequence
    rw [continues.sequence, ← same]
    exact fresh old there
  | look process producer =>
    unfold Floor.act Floor.look
    dsimp only
    repeat' split
    all_goals exact fresh
  | enqueue process now =>
    unfold Floor.act
    dsimp only
    cases waits : floor.waiting process with
    | none =>
      unfold Floor.enqueue
      rw [waits]
      exact fresh
    | some pending =>
      obtain ⟨producer, found⟩ := pending
      obtain ⟨row, new, -, -, written⟩ := enqueued_row extracts process now waits
      rw [written]
      refine Table.forall_put (fun other there => ?_) (Nat.le_refl row.id)
      have bound := fresh other there
      change other.id ≤ row.id
      omega

/-- Every reached state has one live job a task exactly when no process enqueues behind a live job that has come
in since it looked. -/
theorem one_live_iff (loads : String → Except String Value) (actions : List Action) :
    (∀ before rest, actions = before ++ rest → OneLive taskIdOf (Floor.after lower dumps loads taskIdOf before).store.db) ↔
      InTurn lower dumps loads taskIdOf actions := by
  constructor
  · rintro one before process now rest rfl overtaken
    -- if one process did enqueue behind a live job, the state right after it would hold two
    have fresh : ∀ row ∈ (Floor.after lower dumps loads taskIdOf before).store.db.jobs.rows,
        row.id ≤ (Floor.after lower dumps loads taskIdOf before).store.db.sequence := by
      apply final_invariant fun floor : Floor => ∀ row ∈ floor.store.db.jobs.rows, row.id ≤ floor.store.db.sequence
      · exact (show Solitary lower taskIdOf .start from solitary_start).fresh
      · exact fun action _ floor fresh => fresh_act extracts fresh
    have doubled := overtaken_doubles extracts process now fresh overtaken
    apply doubled
    have behind := one (before ++ [.enqueue process now]) rest (by simp)
    rwa [after_concat] at behind
  · rintro in_turn before rest rfl
    apply (solitary_run extracts before ?_).oneLive
    rintro first process now later rfl
    exact in_turn first process now (later ++ rest) (by simp)

end

/-! Two daemons on an idle queue, which both look before either enqueues. -/

def triageText : String := "\x7b\"task_id\": \"blocked-triage\", \"auto\": true\x7d"

/-- The texts of the idle loop's payload, and bare task ids for the others. -/
def idleDumps (value : Value) : String :=
  if value = Producer.payload (fun text => text) .idle then triageText
  else match value with
    | .dict ((_, .text taskId) :: _) => taskId
    | _ => ""

def idleTaskId (text : String) : Option String := if text = triageText then some "blocked-triage" else some text

theorem idle_extracts (producer : Producer) :
    idleTaskId (idleDumps (producer.payload fun text => text)) = some (producer.taskId fun text => text) := by
  have prep : ∀ item : String, "prep-" ++ item ≠ triageText := fun item same => by
    have heads := congrArg (fun text => text.toList.head?) same
    simp [triageText] at heads
  have control : ∀ task : String, "ctl-" ++ task ≠ triageText := fun task same => by
    have heads := congrArg (fun text => text.toList.head?) same
    simp [triageText] at heads
  cases producer with
  | idle => decide
  | triage item packet => simp [idleTaskId, idleDumps, Producer.payload, Producer.taskId, Packet.entries, prep]
  | handOver task packet => simp [idleTaskId, idleDumps, Producer.payload, Producer.taskId, Packet.entries, control]

theorem one_live_inTurn :
    OneLive idleTaskId (Floor.after (fun text => text) idleDumps (fun _ => .ok .none) idleTaskId
      [.look "daemon-1" .idle, .enqueue "daemon-1" ⟨0⟩]).store.db := by
  apply (one_live_iff idle_extracts (fun _ => .ok .none)
    [.look "daemon-1" .idle, .enqueue "daemon-1" ⟨0⟩]).mpr ?_ _ [] (List.append_nil _).symm
  rintro before process now rest split ⟨producer, found, -, row, member, -⟩
  -- the queue is empty where the only process enqueues
  rcases before with _ | ⟨first, _ | ⟨second, later⟩⟩
  · cases split
  · cases split
    cases member
  · have length := congrArg List.length split
    simp only [List.length_cons, List.length_nil, List.length_append] at length
    omega

def bothLook : List Action :=
  [.look "daemon-1" .idle, .look "daemon-2" .idle, .enqueue "daemon-1" ⟨0⟩, .enqueue "daemon-2" ⟨0⟩]

theorem triage_enqueued_twice :
    ¬ ∀ lower dumps loads taskIdOf,
      (∀ producer : Producer, taskIdOf (dumps (producer.payload lower)) = some (producer.taskId lower)) →
      ∀ actions before rest, actions = before ++ rest →
        OneLive taskIdOf (Floor.after lower dumps loads taskIdOf before).store.db := by
  intro one
  have live := one (fun text => text) idleDumps (fun _ => .ok .none) idleTaskId idle_extracts bothLook bothLook []
    (List.append_nil _).symm "blocked.triage" "blocked-triage"
  have rows : (Floor.after (fun text => text) idleDumps (fun _ => .ok .none) idleTaskId bothLook).store.db.jobs.rows.map
      (fun job => (job.id, job.kind, job.payload, job.status)) =
      [(1, "blocked.triage", triageText, .queued), (2, "blocked.triage", triageText, .queued)] := by decide +kernel
  obtain ⟨first, tail, listed, shown, more⟩ := List.map_eq_cons_iff.mp rows
  obtain ⟨second, last, others, again, -⟩ := List.map_eq_cons_iff.mp more
  simp only [Prod.mk.injEq] at shown again
  have named : ∀ job : Job, job.kind = "blocked.triage" → job.payload = triageText →
      Named idleTaskId "blocked.triage" "blocked-triage" job := by
    rintro job kind text
    exact ⟨kind, by rw [text]; decide⟩
  have same := live first (by rw [listed]; exact List.mem_cons_self) second
    (by rw [listed, others]; exact List.mem_cons_of_mem _ List.mem_cons_self)
    (named first shown.2.1 shown.2.2.1) (named second again.2.1 again.2.2.1)
    (.inl shown.2.2.2) (.inl again.2.2.2)
  have ids := congrArg Job.id same
  rw [shown.1, again.1] at ids
  cases ids

end AiStore.StoreDB
