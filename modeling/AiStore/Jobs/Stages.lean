import AiStore.Jobs.Leases

/-! Workers inside the stages of a job: one heartbeat before a stage, none in it.

The two model and test calls of a stage have timeouts of their own; the `git`
calls around them are taken to need no time.
-/

set_option autoImplicit false

namespace AiStore.StoreDB

open Library

/-- The settings that decide how long a stage may take and how long its lease lasts. -/
structure StageSettings where
  leaseSeconds : Int
  stageTimeoutSeconds : Int
  testTimeoutSeconds : Int

/-- `_stage_verify` runs the tests and, where they fail, the model; no other stage makes more calls. -/
def StageSettings.longestStage (settings : StageSettings) : Int :=
  settings.testTimeoutSeconds + settings.stageTimeoutSeconds

inductive StageMove where
  /-- Any call of a worker that is inside no stage. -/
  | call (worker : String) (command : Command)
  /-- The heartbeat of `run`, and the stage behind it. -/
  | enter (worker : String) (id : Nat)
  /-- A `_save` inside the stage. -/
  | save (worker : String) (data : Value)
  /-- The stage returns or raises. -/
  | leave (worker : String)

structure StageEvent where
  now : UtcTime
  move : StageMove

/-- The store, and for each worker inside a stage the job and the time of its heartbeat. -/
structure Shop where
  store : State
  inside : String → Option (Nat × UtcTime)

def Shop.start : Shop := ⟨.start, fun _ => none⟩

section

variable (dumps : Value → String) (loads : String → Except String Value) (settings : StageSettings)

def Shop.act (event : StageEvent) (shop : Shop) : Shop :=
  match event.move with
  | .call worker command =>
      match shop.inside worker with
      | some _ => shop
      | none => { shop with store := (step dumps loads ⟨worker, event.now, command⟩ shop.store).2 }
  | .enter worker id =>
      match shop.inside worker with
      | some _ => shop
      | none =>
          match step dumps loads ⟨worker, event.now, .heartbeat id settings.leaseSeconds⟩ shop.store with
          | (.ok .done, store) => ⟨store, Function.update shop.inside worker (some (id, event.now))⟩
          | (_, store) => { shop with store }
  | .save worker data =>
      match shop.inside worker with
      | none => shop
      | some (id, _) => { shop with store := (step dumps loads ⟨worker, event.now, .checkpoint id data⟩ shop.store).2 }
  | .leave worker => { shop with inside := Function.update shop.inside worker none }

def Shop.after (events : List StageEvent) : Shop :=
  final (fun event shop => ((), shop.act dumps loads settings event)) .start events

/-- Time passes, and no stage has taken longer than `seconds` at any event. -/
def StagesWithin (seconds : Int) (events : List StageEvent) : Prop :=
  ∀ before event rest, events = before ++ event :: rest → ∀ worker id entered,
    (Shop.after dumps loads settings before).inside worker = some (id, entered) →
      entered.micros ≤ event.now.micros ∧ event.now.micros ≤ (entered.addSeconds seconds).micros

end

/-- No two workers are inside a stage of one job. -/
def Shop.Exclusive (shop : Shop) : Prop :=
  ∀ first second id entered other, shop.inside first = some (id, entered) → shop.inside second = some (id, other) →
    first = second

variable {dumps : Value → String} {loads : String → Except String Value} {settings : StageSettings}
variable {state after : State} {call : Call} {shop : Shop} {worker : String} {id : Nat} {limit : UtcTime}

/-- The worker holds the job up to the limit at least, and nobody is about to bury it. -/
structure Holding (state : State) (worker : String) (id : Nat) (limit : UtcTime) : Prop where
  row : ∃ row lease, state.db.jobs.get? id = some row ∧ row.status = .running ∧ row.workerId = some worker ∧
    row.leasedUntil = some lease ∧ limit.micros ≤ lease.micros
  unburied : ∀ other why, state.burying other ≠ some (id, why)

theorem Holding.owner {other : String} {now : UtcTime} {row : Job} (holding : Holding state worker id limit)
    (found : state.db.jobs.get? id = some row) (owned : Owned other now row) : other = worker := by
  obtain ⟨held, lease, there, -, named, -⟩ := holding.row
  cases there.symm.trans found
  exact Option.some.inj (owned.2.1.symm.trans named)

theorem Holding.unclaimable {now : UtcTime} {row : Job} (holding : Holding state worker id limit)
    (found : state.db.jobs.get? id = some row) (early : now.micros ≤ limit.micros) : ¬ Claimable now row := by
  obtain ⟨held, lease, there, running, -, until_, later⟩ := holding.row
  cases there.symm.trans found
  rintro ⟨-, queued | ⟨-, other, is_other, passed⟩⟩
  · cases running.symm.trans queued
  · cases until_.symm.trans is_other
    rw [UtcTime.textLe_iff] at passed
    omega

/-- What another worker does before the limit leaves the job with its holder. -/
theorem Holding.spared {changed : Nat} {act : Deed} (valid : Valid loads state)
    (holding : Holding state worker id limit) (acted : Acts loads state call changed act after)
    (other : call.worker ≠ worker) (early : call.now.micros ≤ limit.micros) : Holding after worker id limit := by
  -- whatever the other worker may change, it is not this job: the lease has not run out, and it has another owner
  have apart : id ≠ changed := by
    rintro rfl
    obtain ⟨row, lease, found, -⟩ := holding.row
    cases acted with
    | enqueued named =>
      rw [named, valid.get?_next] at found
      cases found
    | leased _ there claimable => exact holding.unclaimable there early claimable
    | corrupt _ there claimable => exact holding.unclaimable there early claimable
    | buried pending => exact holding.unburied _ _ pending
    | renewed _ there owned | saved _ there owned | deferred _ there owned | completed _ there owned
    | failed _ there owned => exact other (holding.owner there owned)
  refine ⟨?_, ?_⟩
  · rw [acted.other apart]
    exact holding.row
  · intro owner why
    cases acted with
    | corrupt =>
      dsimp only
      by_cases same : owner = call.worker
      · rw [same, Function.update_self]
        rintro ⟨⟩
        exact apart rfl
      · rw [Function.update_of_ne same]
        exact holding.unburied owner why
    | buried =>
      dsimp only
      by_cases same : owner = call.worker
      · rw [same, Function.update_self]
        rintro ⟨⟩
      · rw [Function.update_of_ne same]
        exact holding.unburied owner why
    | _ => exact holding.unburied owner why

theorem Holding.stepped (valid : Valid loads state) (holding : Holding state worker id limit) (call : Call)
    (other : call.worker ≠ worker) (early : call.now.micros ≤ limit.micros) :
    Holding (step dumps loads call state).2 worker id limit := by
  rcases @step_cases dumps loads call state with ⟨-, same⟩ | ⟨act, -, acted⟩
  · rwa [same]
  · exact holding.spared valid acted other early

/-- A checkpoint of the holder keeps its lease. -/
theorem Holding.saved (holding : Holding state worker id limit) (now : UtcTime) (data : Value) :
    Holding (step dumps loads ⟨worker, now, .checkpoint id data⟩ state).2 worker id limit := by
  unfold step perform
  cases pending : state.burying worker with
  | some held => exact holding
  | none =>
    dsimp only [checkpoint]
    cases owned : ownedRunning id worker now state.db with
    | error why => exact holding
    | ok row =>
      cases dumped dumps data with
      | error why => exact holding
      | ok text =>
        obtain ⟨rfl, found, -⟩ := ownedRunning_ok owned
        obtain ⟨held, lease, there, running, named, until_, later⟩ := holding.row
        cases there.symm.trans found
        have written := get?_written state.db.jobs (show (row.save text now).id = row.id from rfl)
        exact ⟨⟨_, lease, written, running, named, until_, later⟩, holding.unburied⟩

/-- A heartbeat that goes through leaves the job with the worker for a lease. -/
theorem heartbeat_holding (dumps : Value → String) (valid : Valid loads state) (worker : String) (id : Nat)
    (now : UtcTime) (seconds : Int)
    (done : (step dumps loads ⟨worker, now, .heartbeat id seconds⟩ state).1 = .ok .done) :
    Holding (step dumps loads ⟨worker, now, .heartbeat id seconds⟩ state).2 worker id (now.addSeconds seconds) := by
  unfold step perform at done ⊢
  cases pending : state.burying worker with
  | some held =>
    rw [pending] at done
    cases done
  | none =>
    rw [pending] at done
    dsimp only [heartbeat] at done ⊢
    cases owned : ownedRunning id worker now state.db with
    | error why =>
      rw [owned] at done
      cases done
    | ok row =>
      obtain ⟨rfl, found, held⟩ := ownedRunning_ok owned
      have written := get?_written state.db.jobs (show (row.renew (now.addSeconds seconds) now).id = row.id from rfl)
      have nobody : ∀ other why, state.burying other ≠ some (row.id, why) :=
        @Valid.not_burying_owned _ _ ⟨worker, now, .bury⟩ valid row pending found held
      exact ⟨⟨_, _, written, held.1, held.2.1, rfl, Int.le_refl _⟩, nobody⟩

/-! ## Runs -/

/-- Every worker inside a stage holds its job for the lease of its heartbeat. -/
structure Leased (loads : String → Except String Value) (settings : StageSettings) (shop : Shop) : Prop where
  valid : Valid loads shop.store
  holding : ∀ worker id entered, shop.inside worker = some (id, entered) →
    Holding shop.store worker id (entered.addSeconds settings.leaseSeconds)

theorem leased_start : Leased loads settings .start := ⟨valid_start, fun worker id entered nobody => by cases nobody⟩

theorem Leased.exclusive (leased : Leased loads settings shop) : shop.Exclusive := by
  intro first second id entered other inside again
  obtain ⟨row, lease, found, -, named, -⟩ := (leased.holding first id entered inside).row
  -- one row has one owner
  obtain ⟨same, until_, there, -, owner, -⟩ := (leased.holding second id other again).row
  cases found.symm.trans there
  exact Option.some.inj (named.symm.trans owner)

theorem Leased.stepped (dumps : Value → String) (leased : Leased loads settings shop) (call : Call)
    (outside : shop.inside call.worker = none)
    (early : ∀ worker id entered, shop.inside worker = some (id, entered) →
      call.now.micros ≤ (entered.addSeconds settings.leaseSeconds).micros) :
    Leased loads settings { shop with store := (step dumps loads call shop.store).2 } where
  valid := valid_step leased.valid call
  holding worker id entered inside := by
    have other : call.worker ≠ worker := by
      rintro rfl
      cases outside.symm.trans inside
    exact (leased.holding worker id entered inside).stepped leased.valid call other (early worker id entered inside)

theorem leased_act (leased : Leased loads settings shop) {event : StageEvent}
    (early : ∀ worker id entered, shop.inside worker = some (id, entered) →
      event.now.micros ≤ (entered.addSeconds settings.leaseSeconds).micros) :
    Leased loads settings (shop.act dumps loads settings event) := by
  obtain ⟨now, move⟩ := event
  unfold Shop.act
  cases move with
  | call worker command =>
    dsimp only
    cases outside : shop.inside worker with
    | some stage => exact leased
    | none => exact leased.stepped dumps ⟨worker, now, command⟩ outside early
  | enter worker id =>
    dsimp only
    cases outside : shop.inside worker with
    | some stage => exact leased
    | none =>
      have kept := leased.stepped dumps ⟨worker, now, .heartbeat id settings.leaseSeconds⟩ outside early
      have held := heartbeat_holding dumps leased.valid worker id now settings.leaseSeconds
      cases ran : step dumps loads ⟨worker, now, .heartbeat id settings.leaseSeconds⟩ shop.store with
      | mk result store =>
        rw [ran] at kept held
        dsimp only
        split
        · next same =>
          cases same
          refine ⟨kept.valid, fun other job entered inside => ?_⟩
          dsimp only at inside
          -- the heartbeat renews the lease of the worker that enters; the others keep theirs, as nobody takes a job that is leased
          by_cases own : other = worker
          · subst own
            rw [Function.update_self] at inside
            cases inside
            exact held rfl
          · rw [Function.update_of_ne own] at inside
            exact kept.holding other job entered inside
        · next same =>
          cases same
          exact kept
  | save worker data =>
    dsimp only
    cases within : shop.inside worker with
    | none => exact leased
    | some stage =>
      obtain ⟨id, entered⟩ := stage
      refine ⟨valid_step leased.valid _, fun other job since inside => ?_⟩
      by_cases own : other = worker
      · subst own
        cases within.symm.trans inside
        exact (leased.holding other id entered within).saved now data
      · exact (leased.holding other job since inside).stepped leased.valid ⟨worker, now, .checkpoint id data⟩
          (Ne.symm own) (early other job since inside)
  | leave worker =>
    refine ⟨leased.valid, fun other job entered inside => ?_⟩
    dsimp only at inside
    by_cases own : other = worker
    · rw [own, Function.update_self] at inside
      cases inside
    · rw [Function.update_of_ne own] at inside
      exact leased.holding other job entered inside

theorem leased_run (events : List StageEvent) (within : StagesWithin dumps loads settings settings.leaseSeconds events) :
    Leased loads settings (Shop.after dumps loads settings events) := by
  -- `Leased` along the run; no event comes after the lease of a stage that is under way
  apply run_induction fun events => Leased loads settings (Shop.after dumps loads settings events)
  · exact leased_start
  · intro before event rest split leased
    have reached : Shop.after dumps loads settings (before ++ [event]) =
        (Shop.after dumps loads settings before).act dumps loads settings event := by
      simp only [Shop.after, final_concat]
    rw [reached]
    exact leased_act leased fun worker id entered inside => (within before event rest split worker id entered inside).2

/-! A second worker that comes one microsecond after the lease of a stage that still runs. -/

def takeover (seconds : Int) : List StageEvent :=
  let late : UtcTime := ⟨1000000 * seconds + 1⟩
  [⟨⟨0⟩, .call "daemon" (.enqueue "dev.task" (.dict []))⟩,
    ⟨⟨0⟩, .call "first" (.claim seconds)⟩, ⟨⟨0⟩, .enter "first" 1⟩,
    ⟨late, .call "second" (.claim seconds)⟩, ⟨late, .enter "second" 1⟩]

def anyText : Value → String := fun _ => ""
def anyValue : String → Except String Value := fun _ => .ok .none

/-- A store with one job. -/
def single (job : Job) : State := ⟨⟨Table.empty.put job, 1, []⟩, fun _ => none⟩

theorem single_put {job written : Job} (named : written.id = job.id) :
    (Table.empty.put job).put written = (Table.empty.put written : Table Job.id) := by
  apply Table.ext
  simp [Table.put, putRow, named]

theorem claim_taken {seconds : Int} {now : UtcTime} {db : Database} {row : Job} {saved : Value × Value}
    (claimed : claimRow worker seconds now state.db = (some row, db)) (readable : decode loads row = .ok saved) :
    claim loads worker seconds now state = (.claimed row saved.1 saved.2, { state with db }) := by
  unfold claim
  rw [claimed]
  dsimp only
  rw [readable]

theorem single_claim {job : Job} {now : UtcTime} (worker : String) (seconds : Int) (claimable : Claimable now job)
    (unsaved : job.checkpoint = none) :
    (step anyText anyValue ⟨worker, now, .claim seconds⟩ (single job)).2 =
      single (job.leaseTo worker (now.addSeconds seconds) now) := by
  have found : (single job).db.jobs.rows.find? (fun job => Claimable now job) = some job := by
    simp [single, Table.put, putRow, claimable]
  have readable : decode anyValue job = .ok (.none, .dict []) := by
    unfold decode
    rw [unsaved]
    rfl
  have claimed : claimRow worker seconds now (single job).db =
      (some job, (single (job.leaseTo worker (now.addSeconds seconds) now)).db) := by
    unfold claimRow
    rw [found]
    simp only [single, single_put (show (job.leaseTo worker (now.addSeconds seconds) now).id = job.id from rfl)]
  have replied := claim_taken claimed readable
  change (attempt (single job) (.ok (claim anyValue worker seconds now (single job)))).2 = _
  rw [replied]
  rfl

theorem single_heartbeat {job : Job} {worker : String} {now : UtcTime} (seconds : Int) (owned : Owned worker now job) :
    step anyText anyValue ⟨worker, now, .heartbeat job.id seconds⟩ (single job) =
      (.ok .done, single (job.renew (now.addSeconds seconds) now)) := by
  have held : ownedRunning job.id worker now (single job).db = .ok job := by
    unfold ownedRunning
    rw [show (single job).db.jobs.get? job.id = some job from Table.get?_put_self _ job]
    exact if_pos owned
  unfold step perform
  dsimp only [single]
  unfold heartbeat
  change attempt _ (State.leave _ _ ((ownedRunning job.id worker now (single job).db).map _)) = _
  rw [held]
  simp only [Except.map, State.leave, attempt_ok,
    single_put (show (job.renew (now.addSeconds seconds) now).id = job.id from rfl)]

def queuedJob : Job :=
  { id := 1, kind := "dev.task", payload := "", status := .queued, attempts := 0, availableAt := ⟨0⟩, leasedUntil := none
    workerId := none, lastError := none, checkpoint := none, createdAt := ⟨0⟩, updatedAt := ⟨0⟩ }

theorem inside_first {worker : String} {id : Nat} {entered : UtcTime}
    (inside : Function.update (fun _ => none) "first" (some (1, (⟨0⟩ : UtcTime))) worker = some (id, entered)) :
    id = 1 ∧ entered = ⟨0⟩ := by
  by_cases same : worker = "first"
  · rw [same, Function.update_self] at inside
    cases inside
    exact ⟨rfl, rfl⟩
  · rw [Function.update_of_ne same] at inside
    cases inside

theorem inside_call (now : UtcTime) (worker : String) (command : Command) (shop : Shop) :
    (shop.act dumps loads settings ⟨now, .call worker command⟩).inside = shop.inside := by
  unfold Shop.act
  dsimp only
  split <;> rfl

theorem late_within (positive : 0 < settings.leaseSeconds) (longer : settings.leaseSeconds < settings.longestStage) :
    (0 : Int) ≤ 1000000 * settings.leaseSeconds + 1 ∧
      1000000 * settings.leaseSeconds + 1 ≤ (UtcTime.addSeconds ⟨0⟩ settings.longestStage).micros := by
  simp only [UtcTime.addSeconds]
  omega

section

variable (positive : 0 < settings.leaseSeconds)

include positive

/-- The first worker is inside the stage of the only job. -/
theorem takeover_first : Shop.after anyText anyValue settings ((takeover settings.leaseSeconds).take 3) =
    ⟨single ((queuedJob.leaseTo "first" (UtcTime.addSeconds ⟨0⟩ settings.leaseSeconds) ⟨0⟩).renew
      (UtcTime.addSeconds ⟨0⟩ settings.leaseSeconds) ⟨0⟩), Function.update (fun _ => none) "first" (some (1, ⟨0⟩))⟩ := by
  have born : (Shop.act anyText anyValue settings ⟨⟨0⟩, .call "daemon" (.enqueue "dev.task" (.dict []))⟩ .start) =
      ⟨single queuedJob, fun _ => none⟩ := rfl
  have claimable : Claimable ⟨0⟩ queuedJob := ⟨(UtcTime.textLe_iff _ _).mpr (Int.le_refl 0), .inl rfl⟩
  have claimed := single_claim "first" settings.leaseSeconds claimable rfl
  have owned : Owned "first" ⟨0⟩ (queuedJob.leaseTo "first" (UtcTime.addSeconds ⟨0⟩ settings.leaseSeconds) ⟨0⟩) := by
    refine ⟨rfl, rfl, _, rfl, ?_⟩
    rw [UtcTime.textLe_iff]
    simp only [UtcTime.addSeconds]
    omega
  have entered := single_heartbeat settings.leaseSeconds owned
  simp only [Shop.after, takeover, List.take, final_cons, final_nil, born]
  unfold Shop.act
  dsimp only
  rw [claimed]
  exact congrArg (fun turn : Result × State => match turn with
    | (.ok .done, store) => (⟨store, Function.update (fun _ => none) "first" (some (1, ⟨0⟩))⟩ : Shop)
    | (_, store) => ⟨store, fun _ => none⟩) entered

theorem takeover_both : ¬ (Shop.after anyText anyValue settings (takeover settings.leaseSeconds)).Exclusive := by
  intro exclusive
  let late : UtcTime := ⟨1000000 * settings.leaseSeconds + 1⟩
  let held := (queuedJob.leaseTo "first" (UtcTime.addSeconds ⟨0⟩ settings.leaseSeconds) ⟨0⟩).renew
      (UtcTime.addSeconds ⟨0⟩ settings.leaseSeconds) ⟨0⟩
  -- one microsecond behind the lease of the first worker
  have claimable : Claimable late held := by
    refine ⟨?_, .inr ⟨rfl, _, rfl, ?_⟩⟩
    · rw [UtcTime.textLe_iff]
      change (0 : Int) ≤ 1000000 * settings.leaseSeconds + 1
      omega
    · rw [UtcTime.textLe_iff]
      change ¬ (1000000 * settings.leaseSeconds + 1 ≤ 0 + 1000000 * settings.leaseSeconds)
      omega
  have claimed := single_claim "second" settings.leaseSeconds claimable rfl
  have owned : Owned "second" late (held.leaseTo "second" (late.addSeconds settings.leaseSeconds) late) := by
    refine ⟨rfl, rfl, _, rfl, ?_⟩
    rw [UtcTime.textLe_iff]
    simp only [UtcTime.addSeconds]
    omega
  have entered := single_heartbeat settings.leaseSeconds owned
  have reached : Shop.after anyText anyValue settings (takeover settings.leaseSeconds) =
      ⟨single ((held.leaseTo "second" (late.addSeconds settings.leaseSeconds) late).renew
        (late.addSeconds settings.leaseSeconds) late),
        Function.update (Function.update (fun _ => none) "first" (some (1, ⟨0⟩))) "second" (some (1, late))⟩ := by
    have first := takeover_first positive
    rw [show takeover settings.leaseSeconds = (takeover settings.leaseSeconds).take 3 ++
      [⟨late, .call "second" (.claim settings.leaseSeconds)⟩, ⟨late, .enter "second" 1⟩] from rfl]
    simp only [Shop.after, final_append, final_cons, final_nil] at first ⊢
    rw [first]
    unfold Shop.act
    dsimp only
    rw [claimed]
    exact congrArg (fun turn : Result × State => match turn with
      | (.ok .done, store) => (⟨store, Function.update (Function.update (fun _ => none) "first" (some (1, ⟨0⟩)))
          "second" (some (1, late))⟩ : Shop)
      | (_, store) => ⟨store, Function.update (fun _ => none) "first" (some (1, ⟨0⟩))⟩) entered
  rw [reached] at exclusive
  exact absurd (exclusive "first" "second" 1 ⟨0⟩ late rfl rfl) (by decide)

theorem takeover_within (longer : settings.leaseSeconds < settings.longestStage) :
    StagesWithin anyText anyValue settings settings.longestStage (takeover settings.leaseSeconds) := by
  rintro before event rest split worker id entered inside
  have first := takeover_first positive
  simp only [takeover, List.take] at first
  rcases before with _ | ⟨born, _ | ⟨claimed, _ | ⟨begun, _ | ⟨again, _ | ⟨last, more⟩⟩⟩⟩⟩ <;>
    simp only [takeover, List.nil_append, List.cons_append, List.cons.injEq] at split
  · cases inside
  · obtain ⟨rfl, rfl, rfl⟩ := split
    cases inside
  · obtain ⟨rfl, rfl, rfl, rfl⟩ := split
    cases inside
  · obtain ⟨rfl, rfl, rfl, rfl, rfl⟩ := split
    rw [first] at inside
    obtain ⟨-, rfl⟩ := inside_first inside
    exact late_within positive longer
  · obtain ⟨rfl, rfl, rfl, rfl, rfl, rfl⟩ := split
    rw [show ∀ one two three four : StageEvent, [one, two, three, four] = [one, two, three] ++ [four] from
      fun _ _ _ _ => rfl] at inside
    simp only [Shop.after, final_concat] at inside first
    rw [first, inside_call] at inside
    obtain ⟨-, rfl⟩ := inside_first inside
    exact late_within positive longer
  · have length := congrArg List.length split.2.2.2.2.2
    simp only [List.length_nil, List.length_append, List.length_cons] at length
    omega

end

/-- Workers whose stages all end within the lease of their heartbeats exclude one another, and where the lease is
positive that is so for every schedule exactly when it lasts as long as the two calls of a stage may take. -/
theorem stages_exclusive (settings : StageSettings) :
    (∀ dumps loads events, StagesWithin dumps loads settings settings.leaseSeconds events →
      (Shop.after dumps loads settings events).Exclusive) ∧
    (0 < settings.leaseSeconds →
      ((∀ dumps loads events, StagesWithin dumps loads settings settings.longestStage events →
        (Shop.after dumps loads settings events).Exclusive) ↔ settings.longestStage ≤ settings.leaseSeconds)) := by
  have held : ∀ dumps loads events, StagesWithin dumps loads settings settings.leaseSeconds events →
      (Shop.after dumps loads settings events).Exclusive := fun dumps loads events within =>
    (leased_run events within).exclusive
  refine ⟨held, fun positive => ⟨fun exclusive => ?_, fun bounded dumps loads events within => ?_⟩⟩
  · by_contra longer
    have within := takeover_within positive (Int.not_le.mp longer)
    exact takeover_both positive (exclusive anyText anyValue _ within)
  · apply held
    intro before event rest split worker id entered inside
    have bound := within before event rest split worker id entered inside
    simp only [UtcTime.addSeconds] at bound ⊢
    omega

theorem stages_exclusive_long_lease :
    (∀ dumps loads events, StagesWithin dumps loads ⟨2700, 1800, 900⟩ 2700 events →
      (Shop.after dumps loads ⟨2700, 1800, 900⟩ events).Exclusive) ↔ (2700 : Int) ≤ 2700 :=
  (stages_exclusive ⟨2700, 1800, 900⟩).2 (by decide)

/-- The default settings lease a job for less time than its stage may take. -/
theorem stage_executed_twice :
    ¬ ∀ settings dumps loads events, StagesWithin dumps loads settings settings.longestStage events →
      (Shop.after dumps loads settings events).Exclusive := by
  intro exclusive
  have positive : 0 < (StageSettings.mk 300 1800 900).leaseSeconds := by decide
  have within := takeover_within positive (by decide)
  exact takeover_both positive (exclusive _ anyText anyValue _ within)

end AiStore.StoreDB
