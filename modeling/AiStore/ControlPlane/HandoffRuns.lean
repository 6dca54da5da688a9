import AiStore.ControlPlane.Capacity
import AiStore.ControlPlane.Fencing
import AiStore.ControlPlane.Handoff
import AiStore.ControlPlane.Landed

/-! The threads of the control plane around `runtime.json` and the ledger.

Whoever writes the runtime loads the file and saves it again without a lock; a claim
reads the capacity of its lane before it takes a task. Everything else the
threads do to the ledger comes in between as it likes.
-/

set_option autoImplicit false

namespace AiStore.ControlPlane

open Library

inductive Update where
  | grant
  | revoke
  | pause (lane reason : String) (seconds : Int)

/-- What the probe and the clock say at a moment. -/
structure Reading where
  available : Int
  now : Time
  deriving DecidableEq, Repr

def Update.apply (update : Update) (reading : Reading) : Runtime → Runtime :=
  match update with
  | .grant => grantHandoff reading.available reading.now
  | .revoke => revokeHandoff reading.now
  | .pause lane reason seconds => pauseLane lane reason seconds reading.now

/-- Where a thread stands. A tick that has passed its checks is approved until its `grant_handoff` loads the file. -/
inductive Progress where
  | idle
  | approved
  | writing (update : Update) (loaded : Runtime)
  | claiming (worker : String) (effective : Int)
  | claimingReview (worker : String) (effective : Int)

/-- What `autopilot.json` says about the handoff. -/
structure AutopilotConfig where
  enabled : Bool := false
  localFirst : Bool := false
  autoHandoff : Bool := true
  deriving DecidableEq, Repr

/-- The check before which no tick grants the handoff by itself. -/
def AutoHandoff (config : AutopilotConfig) (runtime : Runtime) (available : Int) : Prop :=
  config.enabled = true ∧ config.localFirst = true ∧ config.autoHandoff = true ∧ runtime.handoffGranted = false ∧
    runtime.autoHandoffBlocked = false ∧ 0 < available

instance (config : AutopilotConfig) (runtime : Runtime) (available : Int) :
    Decidable (AutoHandoff config runtime available) := by
  unfold AutoHandoff
  exact inferInstance

/-- An operation that claims nothing, nor reports a task as active; no worker does the latter. -/
def Bystander : Operation → Prop
  | .claim .. | .claimReview .. => False
  | .finish _ status _ _ => ¬ status.Active
  | _ => True

/-- The files, and where each thread stands. -/
structure Plant (ι : Type) where
  runtime : Runtime
  progress : ι → Progress
  data : Data

inductive PlantEvent (ι : Type) where
  | load (i : ι) (update : Update)
  | check (i : ι) (available : Int)
  | autoLoad (i : ι)
  | save (i : ι) (reading : Reading)
  | ask (i : ι) (worker : String) (reading : Reading)
  | askReview (i : ι) (worker : String) (reading : Reading)
  | take (i : ι) (now : Time)
  | aside (call : LedgerCall) (bystander : Bystander call.operation)

section

variable {ι : Type} [DecidableEq ι]

def Plant.goOn (plant : Plant ι) (i : ι) (progress : Progress) : Plant ι :=
  { plant with progress := Function.update plant.progress i progress }

variable (texts : Texts) (config : AutopilotConfig) (pools : Pools)

/-- A thread that is not at the place an event is about stays where it is. A claim that is carried out returns its task. -/
def plantStep (event : PlantEvent ι) (plant : Plant ι) : Option Task × Plant ι :=
  match event with
  | .load i update => match plant.progress i with
      | .idle => (none, plant.goOn i (.writing update plant.runtime))
      | _ => (none, plant)
  | .check i available => match plant.progress i with
      | .idle => (none, if AutoHandoff config plant.runtime available then plant.goOn i .approved else plant)
      | _ => (none, plant)
  | .autoLoad i => match plant.progress i with
      | .approved => (none, plant.goOn i (.writing .grant plant.runtime))
      | _ => (none, plant)
  | .save i reading => match plant.progress i with
      | .writing update loaded => (none, { plant.goOn i .idle with runtime := update.apply reading loaded })
      | _ => (none, plant)
  | .ask i worker reading => match plant.progress i with
      | .idle =>
          let capacity := effectiveCapacity pools plant.runtime reading.available reading.now (laneOf texts worker)
          (none, plant.goOn i (.claiming worker capacity.effective))
      | _ => (none, plant)
  | .askReview i worker reading => match plant.progress i with
      | .idle =>
          let capacity := effectiveCapacity pools plant.runtime reading.available reading.now implRole
          (none, plant.goOn i (.claimingReview worker capacity.effective))
      | _ => (none, plant)
  | .take i now => match plant.progress i with
      | .claiming worker effective =>
          let (task, data) := claim texts worker (laneOf texts worker) effective now plant.data
          (task, { plant.goOn i .idle with data })
      | .claimingReview worker effective =>
          let (task, data) := claimReview worker effective now plant.data
          (task, { plant.goOn i .idle with data })
      | _ => (none, plant)
  | .aside call _ => (none, { plant with data := (step texts call plant.data).2 })

/-- What holds of the runtime, also as far as a thread has loaded it, of every thread and of the ledger. -/
structure Plant.Meets (file : Runtime → Prop) (thread : Progress → Prop) (ledger : Data → Prop) (plant : Plant ι) : Prop where
  file : file plant.runtime
  threads : ∀ i, thread (plant.progress i)
  ledger : ledger plant.data

/-- What each thing a thread does has to keep. -/
structure Steady (file : Runtime → Prop) (thread : Progress → Prop) (ledger : Data → Prop) (may : Update → Prop) : Prop where
  idle : thread .idle
  loads : ∀ {runtime update}, file runtime → may update → thread (.writing update runtime)
  checks : ∀ {runtime available}, file runtime → AutoHandoff config runtime available → thread .approved
  proceeds : ∀ {runtime}, file runtime → thread .approved → thread (.writing .grant runtime)
  saves : ∀ {loaded update} reading, thread (.writing update loaded) → file (update.apply reading loaded)
  asks : ∀ {runtime} worker (reading : Reading), file runtime → thread
    (.claiming worker (effectiveCapacity pools runtime reading.available reading.now (laneOf texts worker)).effective)
  asksReview : ∀ {runtime} worker (reading : Reading), file runtime → thread
    (.claimingReview worker (effectiveCapacity pools runtime reading.available reading.now implRole).effective)
  takes : ∀ {worker effective data} now, thread (.claiming worker effective) → ledger data →
    ledger (claim texts worker (laneOf texts worker) effective now data).2
  takesReview : ∀ {worker effective data} now, thread (.claimingReview worker effective) → ledger data →
    ledger (claimReview worker effective now data).2
  asides : ∀ {call data}, Bystander call.operation → ledger data → ledger (step texts call data).2

variable {texts config pools} {file : Runtime → Prop} {thread : Progress → Prop} {ledger : Data → Prop}
  {may : Update → Prop} {plant : Plant ι}

theorem threads_goOn (threads : ∀ j, thread (plant.progress j)) (i : ι) {progress : Progress} (here : thread progress)
    (j : ι) : thread ((plant.goOn i progress).progress j) := by
  change thread (Function.update plant.progress i progress j)
  by_cases same : j = i
  · subst same
    rwa [Function.update_self]
  · rw [Function.update_of_ne same]
    exact threads j

/-- An event whose loads are admitted. -/
def PlantEvent.May (may : Update → Prop) (event : PlantEvent ι) : Prop := ∀ i update, event = .load i update → may update

theorem meets_step (steady : Steady texts config pools file thread ledger may) {event : PlantEvent ι}
    (admitted : event.May may) (meets : plant.Meets file thread ledger) :
    (plantStep texts config pools event plant).2.Meets file thread ledger := by
  obtain ⟨runtime, threads, data⟩ := meets
  cases event <;> unfold plantStep <;> dsimp only
  case load i update =>
    split
    · exact ⟨runtime, threads_goOn threads i (steady.loads runtime (admitted i update rfl)), data⟩
    · exact ⟨runtime, threads, data⟩
  case check i available =>
    split
    · split
      · next passed => exact ⟨runtime, threads_goOn threads i (steady.checks runtime passed), data⟩
      · exact ⟨runtime, threads, data⟩
    · exact ⟨runtime, threads, data⟩
  case autoLoad i =>
    split
    · next approved => exact ⟨runtime, threads_goOn threads i (steady.proceeds runtime (approved ▸ threads i)), data⟩
    · exact ⟨runtime, threads, data⟩
  case save i reading =>
    split
    · next writing => exact ⟨steady.saves reading (writing ▸ threads i), threads_goOn threads i steady.idle, data⟩
    · exact ⟨runtime, threads, data⟩
  case ask i worker reading =>
    split
    · exact ⟨runtime, threads_goOn threads i (steady.asks worker reading runtime), data⟩
    · exact ⟨runtime, threads, data⟩
  case askReview i worker reading =>
    split
    · exact ⟨runtime, threads_goOn threads i (steady.asksReview worker reading runtime), data⟩
    · exact ⟨runtime, threads, data⟩
  case take i now =>
    split
    · next claiming =>
      exact ⟨runtime, threads_goOn threads i steady.idle, steady.takes now (claiming ▸ threads i) data⟩
    · next claiming =>
      exact ⟨runtime, threads_goOn threads i steady.idle, steady.takesReview now (claiming ▸ threads i) data⟩
    · exact ⟨runtime, threads, data⟩
  case aside call bystander => exact ⟨runtime, threads, steady.asides bystander data⟩

theorem meets_run (steady : Steady texts config pools file thread ledger may) {events : List (PlantEvent ι)}
    (admitted : ∀ event ∈ events, event.May may) (meets : plant.Meets file thread ledger) :
    (final (plantStep texts config pools) plant events).Meets file thread ledger :=
  final_invariant _ meets fun event member _ => meets_step steady (admitted event member)

/-- What a thread has saved while all others are idle. -/
theorem meets_saved {i : ι} {update : Update} {loaded : Runtime} (reading : Reading)
    (writing : plant.progress i = .writing update loaded) (others : ∀ j, j ≠ i → plant.progress j = .idle)
    (idle : thread .idle) (written : file (update.apply reading loaded)) (there : ledger plant.data) :
    (plantStep texts config pools (.save i reading) plant).2.Meets file thread ledger := by
  have saved : (plantStep texts config pools (.save i reading) plant).2 =
      { plant.goOn i .idle with runtime := update.apply reading loaded } := by
    simp only [plantStep, writing]
  rw [saved]
  refine ⟨written, fun j => ?_, there⟩
  change thread (Function.update plant.progress i .idle j)
  by_cases same : j = i
  · subst same
    rwa [Function.update_self]
  · rwa [Function.update_of_ne same, others j same]

/-! ## A revoked handoff -/

/-- The runtime as a revocation leaves it. -/
def Off (runtime : Runtime) : Prop :=
  runtime.handoffGranted = false ∧ runtime.autoHandoffBlocked = true ∧
    runtime.localLlm.map (·.enabled) = some false ∧ runtime.slots.bind (·.active) = some 0

/-- No thread is about to undo the revocation, and no claim of a local slot has room. -/
def Resting (texts : Texts) (pools : Pools) : Progress → Prop
  | .idle => True
  | .approved => False
  | .writing update loaded => update ≠ .grant ∧ Off loaded
  | .claiming worker effective => (poolOf pools (laneOf texts worker)).External ∨ effective = 0
  | .claimingReview _ effective => effective = 0

theorem off_revoked (now : Time) (runtime : Runtime) : Off (revokeHandoff now runtime) := ⟨rfl, rfl, rfl, rfl⟩

theorem steady_off (shared : ¬ (poolOf pools implRole).External) :
    Steady texts config pools Off (Resting texts pools) (fun _ => True) (· ≠ .grant) where
  idle := trivial
  loads := fun off may => ⟨may, off⟩
  checks := by
    intro runtime available off passed
    have free := passed.2.2.2.2.1
    rw [off.2.1] at free
    cases free
  proceeds := fun _ approved => approved.elim
  saves := by
    intro loaded update reading writing
    cases update with
    | grant => exact absurd rfl writing.1
    | revoke => exact off_revoked reading.now loaded
    | pause lane reason seconds => exact writing.2
  asks := by
    intro runtime worker reading off
    by_cases external : (poolOf pools (laneOf texts worker)).External
    · exact .inl external
    · exact .inr (effective_of_off external off.1)
  asksReview := fun _ _ off => effective_of_off shared off.1
  takes := fun _ _ _ => trivial
  takesReview := fun _ _ _ => trivial
  asides := fun _ _ => trivial

theorem countStatus_nonneg (data : Data) (holds : Task → Bool) : 0 ≤ countStatus data holds := Int.natCast_nonneg _

theorem load_nonneg (texts : Texts) (lane : String) (data : Data) : 0 ≤ load texts lane data := by
  unfold load
  split
  · exact Int.add_nonneg (countStatus_nonneg _ _) (countStatus_nonneg _ _)
  · exact countStatus_nonneg _ _

/-- A claim without room returns nothing. -/
theorem claim_none {worker role : String} {effective : Int} {now : Time} {data : Data} (full : effective ≤ 0) :
    (claim texts worker role effective now data).1 = none := by
  have held := load_nonneg texts role data
  unfold claim
  extract_lets held_count active
  have none_left : effective ≤ active := full.trans held
  rw [if_pos none_left]

theorem claimReview_none {worker : String} {effective : Int} {now : Time} {data : Data} (full : effective ≤ 0) :
    (claimReview worker effective now data).1 = none := by
  have held := countStatus_nonneg data fun task => task.status.Active
  unfold claimReview
  rw [if_pos (full.trans held)]

/-- What is handed out goes to a lane of its own engine. -/
theorem external_of_taken (meets : plant.Meets Off (Resting texts pools) fun _ => True) {event : PlantEvent ι} {task : Task}
    (handed : (plantStep texts config pools event plant).1 = some task) :
    task.status = .inProgress ∧ (poolOf pools (laneOf texts task.worker)).External := by
  cases event <;> unfold plantStep at handed <;> dsimp only at handed
  case take i now =>
    split at handed
    · next worker effective claiming =>
      have resting := meets.threads i
      rw [claiming] at resting
      rcases resting with external | full
      · rcases claim_picks texts worker (laneOf texts worker) effective now plant.data with same | ⟨chosen, -, -, same⟩
        · rw [same] at handed
          cases handed
        · rw [same] at handed
          cases handed
          exact ⟨rfl, external⟩
      · rw [claim_none (Int.le_of_eq full)] at handed
        cases handed
    · next worker effective claiming =>
      have full := meets.threads i
      rw [claiming] at full
      rw [claimReview_none (Int.le_of_eq full)] at handed
      cases handed
    · cases handed
  case aside => cases handed
  all_goals split at handed <;> cases handed

/-- Once a revocation is saved while no other thread is under way, and until the operator asks for the handoff again,
the runtime stays off: no tick grants it by itself, and no task is handed to a worker of the shared local slots or
to a reviewer, however ticks, pauses, claims and the rest of the ledger's operations interleave. -/
theorem revoked_until_granted (texts : Texts) (config : AutopilotConfig) (pools : Pools) (start : Plant ι) (i : ι)
    (loaded : Runtime) (reading : Reading) (events : List (PlantEvent ι))
    (shared : ¬ (poolOf pools implRole).External) (revoking : start.progress i = .writing .revoke loaded)
    (others : ∀ j, j ≠ i → start.progress j = .idle) (ungranted : ∀ event ∈ events, event.May (· ≠ .grant)) :
    Off (final (plantStep texts config pools) start (.save i reading :: events)).runtime ∧
      ∀ event task,
        (plantStep texts config pools event
          (final (plantStep texts config pools) start (.save i reading :: events))).1 = some task →
        task.status = .inProgress ∧ (poolOf pools (laneOf texts task.worker)).External := by
  have resting : (plantStep texts config pools (.save i reading) start).2.Meets Off (Resting texts pools) fun _ => True :=
    meets_saved reading revoking others trivial (off_revoked reading.now loaded) trivial
  rw [final_cons]
  have meets : Plant.Meets Off (Resting texts pools) (fun _ => True)
      (final (plantStep texts config pools) (plantStep texts config pools (.save i reading) start).2 events) :=
    meets_run (steady_off shared) ungranted resting
  exact ⟨meets.file, fun event task handed => external_of_taken meets handed⟩

/-! ## A paused lane -/

/-- No thread is about to write another pause of the lane, or a runtime without this one. -/
def Pausing (lane : String) (pause : LanePause) : Progress → Prop
  | .writing update loaded => (∀ reason seconds, update ≠ .pause lane reason seconds) ∧ loaded.lanes lane = some pause
  | _ => True

theorem lanes_grantHandoff (available : Int) (now : Time) (runtime : Runtime) :
    (grantHandoff available now runtime).lanes = runtime.lanes := by
  unfold grantHandoff
  split <;> rfl

theorem steady_paused (lane : String) (pause : LanePause) :
    Steady texts config pools (fun runtime => runtime.lanes lane = some pause) (Pausing lane pause) (fun _ => True)
      (fun update => ∀ reason seconds, update ≠ .pause lane reason seconds) where
  idle := trivial
  loads := fun paused may => ⟨may, paused⟩
  checks := fun _ _ => trivial
  proceeds := fun paused _ => ⟨by simp, paused⟩
  saves := by
    intro loaded update reading writing
    obtain ⟨apart, paused⟩ := writing
    cases update with
    | grant =>
      change (grantHandoff reading.available reading.now loaded).lanes lane = some pause
      rw [lanes_grantHandoff]
      exact paused
    | revoke => exact paused
    | pause other reason seconds =>
      have different : lane ≠ other := fun same => apart reason seconds (same ▸ rfl)
      change Function.update loaded.lanes other _ lane = some pause
      rw [Function.update_of_ne different]
      exact paused
  asks := fun _ _ _ => trivial
  asksReview := fun _ _ _ => trivial
  takes := fun _ _ _ => trivial
  takesReview := fun _ _ _ => trivial
  asides := fun _ _ => trivial

/-- Once the pause of a lane is saved while no other thread is under way, and until the lane is paused again, whoever
asks for the capacity of the lane finds none as long as the text of the pause is later than that of the clock, and the
whole pool afterwards, however grants, revocations and the pauses of other lanes interleave. -/
theorem lane_paused (texts : Texts) (config : AutopilotConfig) (pools : Pools) (start : Plant ι) (i : ι)
    (lane reason : String) (seconds : Int) (loaded : Runtime) (reading : Reading) (events : List (PlantEvent ι))
    (external : (poolOf pools lane).External) (pausing : start.progress i = .writing (.pause lane reason seconds) loaded)
    (others : ∀ j, j ≠ i → start.progress j = .idle)
    (once : ∀ event ∈ events, event.May fun update => ∀ reason seconds, update ≠ .pause lane reason seconds)
    (available : Int) (now : Time) :
    (effectiveCapacity pools (final (plantStep texts config pools) start (.save i reading :: events)).runtime available now
      lane).effective =
      if asRead now < asRead (reading.now + 1000000 * seconds) then 0 else (poolOf pools lane).configured := by
  let pause : LanePause := ⟨reading.now + 1000000 * seconds, cut 200 reason, reading.now⟩
  have written : (Update.apply (.pause lane reason seconds) reading loaded).lanes lane = some pause :=
    Function.update_self ..
  have meets : Plant.Meets (fun runtime => runtime.lanes lane = some pause) (Pausing lane pause) (fun _ => True)
      (final (plantStep texts config pools) (plantStep texts config pools (.save i reading) start).2 events) :=
    meets_run (steady_paused lane pause) once (meets_saved reading pausing others trivial written trivial)
  rw [final_cons]
  simp only [effectiveCapacity, if_pos external, pausedUntil, meets.file, Option.map_some, Option.isSome_filter,
    Option.any_some, decide_eq_true_eq, textAfter_iff, pause]

/-! ## The pools -/

theorem landedTask_inactive (landing : Landing) (now : Time) (task : Task) :
    ¬ (landedTask landing now task).status.Active := by
  unfold landedTask
  split
  · simp [TaskStatus.Active]
  · split <;> simp [TaskStatus.Active]

theorem operatorChange_inactive {action : OperatorAction} {who : String} {now : Time} {task : Task} {change : Task → Task}
    (allowed : operatorChange action who now task = .ok change) : ¬ (change task).status.Active := by
  cases action <;> simp only [operatorChange] at allowed <;> try split at allowed
  all_goals cases allowed
  all_goals simp [TaskStatus.Active, retried, approved, rejected, requeuedForGate, parked, superseded]

/-- What an operation beside the claims leaves active it has left with its holder. -/
theorem Moved.held {call : LedgerCall} {task moved : Task} (move : Moved texts call task moved)
    (bystander : Bystander call.operation) (active : moved.status.Active) :
    moved.status = task.status ∧ moved.worker = task.worker ∧ moved.preferredLane = task.preferredLane := by
  cases move with
  | annotated => exact ⟨rfl, rfl, rfl⟩
  | claimed called | reviewClaimed called =>
    rw [called] at bystander
    exact bystander.elim
  | finished called =>
    rw [called] at bystander
    exact absurd active bystander
  | reviewFinished => exact absurd active (reviewedStatus_inactive _)
  | requeued =>
    have status : ¬ (if task.status = .reviewing then TaskStatus.needsReview else .ready).Active := by
      split <;> decide
    exact absurd active status
  | reopened =>
    have status : ¬ TaskStatus.ready.Active := by decide
    exact absurd active status
  | triaged others =>
    rw [triaged_active active]
    exact ⟨rfl, rfl, rfl⟩
  | landed => exact absurd active (landedTask_inactive _ _ task)
  | operated _ _ allowed => exact absurd active (operatorChange_inactive allowed)

/-- A task that is active beside the claims was so before, in the same hands. -/
theorem active_before {call : LedgerCall} (bystander : Bystander call.operation) {data : Data} {task : Task}
    (member : task ∈ (step texts call data).2.tasks.rows) (active : task.status.Active) :
    ∃ old ∈ data.tasks.rows, old.id = task.id ∧ task.status = old.status ∧ task.worker = old.worker ∧
      task.preferredLane = old.preferredLane := by
  have found := (step texts call data).2.tasks.get?_key member
  cases known : data.get? task.id with
  | none =>
    have ready := (step_newborn texts call known task found).2
    rw [ready] at active
    exact absurd active (by decide)
  | some old =>
    obtain ⟨moved, there, move⟩ := step_moved texts call known
    cases found.symm.trans there
    exact ⟨old, Table.mem_of_get? known, Data.named known, move.held bystander active⟩

theorem countStatus_le {data after : Data} {counted : Task → Bool}
    (before : ∀ task ∈ after.tasks.rows, counted task = true →
      ∃ old ∈ data.tasks.rows, old.id = task.id ∧ counted old = true) :
    countStatus after counted ≤ countStatus data counted := by
  unfold countStatus
  rw [List.countP_eq_length_filter, List.countP_eq_length_filter, ← @List.length_map _ _ (after.tasks.rows.filter counted)
    Task.id, ← @List.length_map _ _ (data.tasks.rows.filter counted) Task.id]
  refine Int.ofNat_le.mpr (List.Nodup.length_le_of_subset (after.filtered_nodup counted) fun id listed => ?_)
  obtain ⟨task, member, rfl⟩ := List.mem_map.mp listed
  obtain ⟨stored, holds⟩ := List.mem_filter.mp member
  obtain ⟨old, there, same, held⟩ := before task stored holds
  exact List.mem_map.mpr ⟨old, List.mem_filter.mpr ⟨there, held⟩, same⟩

theorem within_aside {capacity : String → Int} {call : LedgerCall} {data : Data} (bystander : Bystander call.operation)
    (within : WithinCapacity texts capacity data) : WithinCapacity texts capacity (step texts call data).2 := by
  have held : ∀ lane, heldIn texts lane (step texts call data).2 ≤ heldIn texts lane data := by
    intro lane
    apply countStatus_le
    intro task member holds
    have ⟨held, ours⟩ := of_decide_eq_true holds
    obtain ⟨old, there, same, status, worker, -⟩ := active_before bystander member (.inl held)
    exact ⟨old, there, same, decide_eq_true ⟨status ▸ held, worker ▸ ours⟩⟩
  have reviews : reviewing (step texts call data).2 ≤ reviewing data := by
    apply countStatus_le
    intro task member holds
    have under := of_decide_eq_true holds
    obtain ⟨old, there, same, status, -⟩ := active_before bystander member (.inr under)
    exact ⟨old, there, same, decide_eq_true (status ▸ under)⟩
  constructor
  · exact fun lane => (held lane).trans (within.lanes lane)
  · exact (Int.add_le_add (held implRole) reviews).trans within.shared
  · intro task member holds
    obtain ⟨old, there, -, status, worker, preferred⟩ := active_before bystander member (.inl holds)
    rw [worker, preferred]
    exact within.preferred old there (status ▸ holds)

/-- Where a claim has seen any room at all, it has seen no more than the pool. -/
def Bounded (texts : Texts) (pools : Pools) : Progress → Prop
  | .claiming worker effective => 0 < effective → effective ≤ (poolOf pools (laneOf texts worker)).configured
  | .claimingReview _ effective => 0 < effective → effective ≤ (poolOf pools implRole).configured
  | _ => True

theorem steady_bounded : Steady texts config pools (fun _ => True) (Bounded texts pools)
    (WithinCapacity texts fun lane => (poolOf pools lane).configured) (fun _ => True) where
  idle := trivial
  loads := fun _ _ => trivial
  checks := fun _ _ => trivial
  proceeds := fun _ _ => trivial
  saves := fun _ _ => trivial
  asks := fun _ _ _ room => effective_le_configured room
  asksReview := fun _ _ _ room => effective_le_configured room
  takes := by
    intro worker effective data now bounded within
    rcases claim_takes texts worker (laneOf texts worker) effective now data with
      same | ⟨chosen, present, takeable, room, taken⟩
    · rwa [same]
    · rw [taken]
      have positive := (load_nonneg texts (laneOf texts worker) data).trans_lt room
      exact within.claimed worker now present takeable (room.trans_le (bounded positive))
  takesReview := by
    intro worker effective data now bounded within
    rcases claimReview_takes worker effective now data with same | ⟨chosen, -, -, room, taken⟩
    · rwa [same]
    · rw [taken]
      have positive := (countStatus_nonneg data fun task => task.status.Active).trans_lt room
      exact within.reviewClaimed worker now (room.trans_le (bounded positive))
  asides := fun bystander within => within_aside bystander within

/-- However grants, revocations, pauses, probes, claims and everything else interleave, no lane holds more tasks than
its pool is configured for, and the local pool bounds its tasks and the reviews together. -/
theorem pools_never_exceeded (texts : Texts) (config : AutopilotConfig) (pools : Pools) (start : Plant ι)
    (events : List (PlantEvent ι)) (idle : ∀ i, start.progress i = .idle)
    (unheld : ∀ task ∈ start.data.tasks.rows, ¬ task.status.Active) :
    WithinCapacity texts (fun lane => (poolOf pools lane).configured)
      (final (plantStep texts config pools) start events).data := by
  have meets : start.Meets (fun _ => True) (Bounded texts pools)
      (WithinCapacity texts fun lane => (poolOf pools lane).configured) := by
    refine ⟨trivial, fun i => ?_, within_idle _ unheld⟩
    rw [idle i]
    trivial
  exact (meets_run steady_bounded (fun _ _ _ _ _ => trivial) meets).ledger

end

/-! ## Sample runs -/

def samplePools : Pools := [("local-impl", { size := some 2 }), ("cursor-impl", { size := some 1, engine := some "cursor" })]

def grantedRuntime : Runtime := { handoffGranted := true, localLlm := some { enabled := true } }

/-- An operator who revokes the handoff, beside an idle thread and a task that any lane may take. -/
def revokingPlant : Plant Bool where
  runtime := grantedRuntime
  progress := fun i => if i then .writing .revoke grantedRuntime else .idle
  data := oneReady

def busyTicks : List (PlantEvent Bool) :=
  [.check false 4, .autoLoad false, .save false ⟨4, 3⟩, .load false (.pause "cursor-impl" "quota" 60), .save false ⟨4, 4⟩,
    .ask false "local-impl" ⟨4, 5⟩, .take false 6]

theorem revoked_until_granted_ticked :
    Off (final (plantStep plainTexts ⟨true, true, true⟩ samplePools) revokingPlant (.save true ⟨4, 2⟩ :: busyTicks)).runtime :=
  (revoked_until_granted plainTexts ⟨true, true, true⟩ samplePools revokingPlant true grantedRuntime ⟨4, 2⟩ busyTicks
    (by decide) rfl (fun j apart => by cases j <;> [rfl; exact absurd rfl apart])
    (fun event member i update loads => by
      subst loads
      simp only [busyTicks, List.mem_cons, List.not_mem_nil, or_false, reduceCtorEq, false_or, or_self,
        PlantEvent.load.injEq] at member
      rw [member.2]
      simp)).1

-- A pause that was loaded before the revocation and is saved behind it grants the handoff again.
example : (final (plantStep plainTexts ⟨true, true, true⟩ samplePools)
    { revokingPlant with progress := fun _ : Bool => .idle }
    [.load false (.pause "cursor-impl" "quota" 60), .load true .revoke, .save true ⟨4, 1⟩,
      .save false ⟨4, 2⟩]).runtime.handoffGranted = true := rfl

def pausingPlant : Plant Bool where
  runtime := grantedRuntime
  progress := fun i => if i then .writing (.pause "cursor-impl" "quota" 60) grantedRuntime else .idle
  data := oneReady

theorem lane_paused_revoked :
    (effectiveCapacity samplePools (final (plantStep plainTexts ⟨true, true, true⟩ samplePools) pausingPlant
      [.save true ⟨4, 0⟩, .load false .revoke, .save false ⟨4, 1⟩]).runtime 4 59000000 "cursor-impl").effective = 0 := by
  rw [lane_paused plainTexts ⟨true, true, true⟩ samplePools pausingPlant true "cursor-impl" "quota" 60 grantedRuntime ⟨4, 0⟩
    [.load false .revoke, .save false ⟨4, 1⟩] (by decide) rfl (fun j apart => by cases j <;> [rfl; exact absurd rfl apart])
    (fun event member i update loads => by
      subst loads
      simp only [List.mem_cons, List.not_mem_nil, or_false, reduceCtorEq, PlantEvent.load.injEq] at member
      simp [member]) 4 59000000]
  decide

theorem pools_never_exceeded_claimed :
    WithinCapacity plainTexts (fun lane => (poolOf samplePools lane).configured)
      (final (plantStep plainTexts ⟨true, true, true⟩ samplePools) ⟨grantedRuntime, fun _ : Bool => .idle, oneReady⟩
        [.ask true "cursor-impl" ⟨0, 0⟩, .take true 1]).data :=
  pools_never_exceeded plainTexts ⟨true, true, true⟩ samplePools ⟨grantedRuntime, fun _ : Bool => .idle, oneReady⟩
    [.ask true "cursor-impl" ⟨0, 0⟩, .take true 1] (fun _ => rfl) (by decide)

end AiStore.ControlPlane
