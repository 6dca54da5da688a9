import AiStore.Ingestion.PollRuns
import AiStore.Execution.Fencing

/-! Any number of pollers over one store, and what their checkpoints go through.

A poller learns a version, later asks the adapter about the cursor it finds, and later still
tries to commit the page; every other step of the service may come in between.
-/

set_option autoImplicit false

namespace AiStore.Ingestion

open Library (Session Table final final_invariant)
open Library.Txn Failure Repository Service

variable {env : Env}

/-! ## Pollers -/

inductive Stage where
  | expecting
  /-- The adapter was asked about the reading's cursor and answered with the page. -/
  | fetched (description : DemoAdapterDescription) (reading : PollReading) (page : DemoPage)
  | finished
  deriving DecidableEq

structure Poller where
  context : TenantContext
  connection : Connection
  expectedVersion : Nat
  stage : Stage
  deriving DecidableEq

structure World where
  session : Session Store
  pollers : List Poller

def newWorld : World := ⟨Execution.newSession, []⟩

/-- The outbox keys of the messages that have been received. -/
def inboxKeys (db : Store) (tenant : Ident) (message : Uuid) (suffix : String) : Option Ident :=
  db.outbox.outboxIdempotency.get? (tenant, .inbox message suffix)

def ingestionView (db : Store) := (db.inbox, db.normalizedPayloads, inboxKeys db, db.pollCheckpoints)

def ingestionTopics : List String := ["inbox.process_requested", "inbound.accepted"]

inductive Event where
  | expect (context : TenantContext) (connection : Connection)
  | fetch (poller : Nat) (description : DemoAdapterDescription) (overlapFrom : Option Timestamp) (page : DemoPage)
  | commit (poller : Nat)
  | process (context : TenantContext) (inboxId : Uuid) (expectedVersion : Int)
  | elsewhere (operation : Op Unit) (quiet : ∀ s, Quiet ingestionView ingestionTopics s (operation.run s).2)

/-- What leaves the tables of the ingestion and the outbox alone may happen at any time. -/
theorem quiet_of_frame {operation : Op Unit} (frame : Keeps (fun db => (ingestionView db, db.outbox)) operation)
    (s : Session Store) : Quiet ingestionView ingestionTopics s (operation.run s).2 :=
  quiet_of_same (congrArg Prod.fst (frame s)) (congrArg Prod.snd (frame s)) (operation.advances s)

abbrev Outcome := Except Failure (Option DemoPollResult)

namespace World

def finish (world : World) (index : Nat) (poller : Poller) (stage : Stage) (session : Session Store) : World :=
  ⟨session, world.pollers.set index { poller with stage := stage }⟩

def fetch (world : World) (index : Nat) (description : DemoAdapterDescription) (overlapFrom : Option Timestamp)
    (page : DemoPage) : Outcome × World := match world.pollers[index]? with
  | some ⟨context, connection, expectedVersion, .expecting⟩ =>
      let poller : Poller := ⟨context, connection, expectedVersion, .expecting⟩
      match (readCheckpoint context connection expectedVersion description overlapFrom).run world.session with
      | (.ok reading, session) => (.ok none, world.finish index poller (.fetched description reading page) session)
      | (.error why, session) => (.error why, world.finish index poller .finished session)
  | _ => (.ok none, world)

def commit (env : Env) (world : World) (index : Nat) : Outcome × World := match world.pollers[index]? with
  | some ⟨context, connection, expectedVersion, .fetched description reading page⟩ =>
      let poller : Poller := ⟨context, connection, expectedVersion, .fetched description reading page⟩
      match (commitPage env context connection expectedVersion description reading page).run world.session with
      | (.ok result, session) => (.ok (some result), world.finish index poller .finished session)
      | (.error why, session) => (.error why, world.finish index poller .finished session)
  | _ => (.ok none, world)

def step (env : Env) : Event → World → Outcome × World
  | .expect context connection, world =>
      (.ok none, ⟨world.session, world.pollers ++
        [⟨context, connection, checkpointVersion world.session.db context.tenantId connection, .expecting⟩]⟩)
  | .fetch index description overlapFrom page, world => world.fetch index description overlapFrom page
  | .commit index, world => world.commit env index
  | .process context inboxId expectedVersion, world =>
      let ran := (processInbound env context inboxId expectedVersion).run world.session
      (ran.1.map fun _ => none, ⟨ran.2, world.pollers⟩)
  | .elsewhere operation _, world =>
      let ran := operation.run world.session
      (ran.1.map fun _ => none, ⟨ran.2, world.pollers⟩)

end World

/-! ## Frames -/

theorem keeps_collect {ι α υ : Type} {view : Store → υ} {body : ι → Op α} (items : List ι)
    (each : ∀ item, Keeps view (body item)) : Keeps view (collect items body) := by
  induction items with
  | nil => exact keeps_pure []
  | cons item rest ih => exact (each item).bind fun _ => ih.bind fun _ => keeps_pure _

theorem keeps_ingestItem {context : TenantContext} {connection : Connection} {now : Timestamp} (item : NormalizedItem) :
    Keeps Store.pollCheckpoints (ingestItem env context connection now item) := by
  have saving : ∀ row, Keeps Store.pollCheckpoints (saveNormalizedPayload row) := by
    intro row
    refine (keeps_query _).bind fun stored => ?_
    cases stored with
    | some prior => exact (keeps_ensure _ _).bind fun _ => keeps_pure _
    | none =>
      refine Keeps.bind (keeps_write ?_) fun _ => keeps_pure _
      intro db
      rfl
  refine (saving _).bind fun _ => keeps_transaction ?_
  intro s result t ran
  obtain ⟨-, ⟨-, -, -, rfl⟩ | ⟨-, -, received⟩⟩ := receiveInbound_ok ((transaction_eq_ok _ _ _ _).mpr ran)
  · rfl
  · obtain ⟨_, rfl⟩ := received.written
    rfl

theorem keeps_processInbound {context : TenantContext} {inboxId : Uuid} {expectedVersion : Int} :
    Keeps Store.pollCheckpoints (processInbound env context inboxId expectedVersion) := by
  apply keeps_transaction
  intro s result t ran
  obtain ⟨prior, -, ⟨-, -, -, rfl⟩ | ⟨-, processed⟩⟩ := processInbound_ok ((transaction_eq_ok _ _ _ _).mpr ran)
  · rfl
  · obtain ⟨_, _, rfl⟩ := processed.written
    rfl

/-! ## Checkpoints -/

/-- No version goes back, and a version stands for one checkpoint. -/
structure Forward (before after : Store) : Prop where
  version : ∀ tenant connection, checkpointVersion before tenant connection ≤ checkpointVersion after tenant connection
  same : ∀ tenant connection, checkpointVersion after tenant connection = checkpointVersion before tenant connection →
    checkpointOf after tenant connection = checkpointOf before tenant connection

theorem forward_of_same {before after : Store} (same : after.pollCheckpoints = before.pollCheckpoints) :
    Forward before after := by
  constructor
  · intro tenant connection
    rw [checkpointVersion, checkpointVersion, checkpointOf, checkpointOf, same]
  · intro tenant connection _
    rw [checkpointOf, checkpointOf, same]

theorem Forward.trans {first second third : Store} (left : Forward first second) (right : Forward second third) :
    Forward first third := by
  constructor
  · intro tenant connection
    exact (left.version tenant connection).trans (right.version tenant connection)
  · intro tenant connection same
    have middle := left.version tenant connection
    have later := right.version tenant connection
    have here : checkpointVersion second tenant connection = checkpointVersion first tenant connection := by omega
    exact (right.same tenant connection (by omega)).trans (left.same tenant connection here)

/-- What a poller knows about the store. -/
structure Poller.Sound (db : Store) (poller : Poller) : Prop where
  expected : poller.expectedVersion ≤ checkpointVersion db poller.context.tenantId poller.connection
  fetched : ∀ description reading page, poller.stage = .fetched description reading page →
    checkpointVersion db poller.context.tenantId poller.connection = poller.expectedVersion →
      reading.cursor = checkpointCursor db poller.context.tenantId poller.connection

theorem Poller.Sound.forward {before after : Store} {poller : Poller} (sound : poller.Sound before)
    (forward : Forward before after) : poller.Sound after := by
  have later := forward.version poller.context.tenantId poller.connection
  constructor
  · exact sound.expected.trans later
  · intro description reading page stage current
    -- a version that has been reached since is above the expected one
    have then_current : checkpointVersion before poller.context.tenantId poller.connection = poller.expectedVersion := by
      have expected := sound.expected
      omega
    have same := forward.same poller.context.tenantId poller.connection (current.trans then_current.symm)
    rw [sound.fetched description reading page stage then_current, checkpointCursor, checkpointCursor, same]

/-- One page further along a connection. -/
structure Advanced (before after : Store) (poller : Poller) (reading : PollReading) (page : DemoPage) : Prop where
  fetched_at : reading.cursor = checkpointCursor before poller.context.tenantId poller.connection
  version : checkpointVersion after poller.context.tenantId poller.connection =
    checkpointVersion before poller.context.tenantId poller.connection + 1
  cursor : checkpointCursor after poller.context.tenantId poller.connection =
    if page.nextCursor.isSome then page.nextCursor
    else checkpointCursor before poller.context.tenantId poller.connection
  elsewhere : ∀ tenant connection, (tenant, connection) ≠ (poller.context.tenantId, poller.connection) →
    checkpointOf after tenant connection = checkpointOf before tenant connection

theorem Advanced.forward {before after : Store} {poller : Poller} {reading : PollReading} {page : DemoPage}
    (advanced : Advanced before after poller reading page) : Forward before after := by
  constructor
  · intro tenant connection
    by_cases here : (tenant, connection) = (poller.context.tenantId, poller.connection)
    · obtain ⟨rfl, rfl⟩ := Prod.mk.inj here
      rw [advanced.version]
      exact Nat.le_succ _
    · rw [checkpointVersion, checkpointVersion, advanced.elsewhere tenant connection here]
  · intro tenant connection same
    by_cases here : (tenant, connection) = (poller.context.tenantId, poller.connection)
    · obtain ⟨rfl, rfl⟩ := Prod.mk.inj here
      rw [advanced.version] at same
      exact absurd same (Nat.succ_ne_self _)
    · exact advanced.elsewhere tenant connection here

section

variable {s t : Session Store} {context : TenantContext} {connection : Connection} {expectedVersion : Nat}
  {description : DemoAdapterDescription} {reading : PollReading} {page : DemoPage}

/-- A page that is committed moves its connection on by one. -/
theorem commitPage_advances {result : DemoPollResult}
    (sound : (Poller.mk context connection expectedVersion (.fetched description reading page)).Sound s.db)
    (ran : (commitPage env context connection expectedVersion description reading page).run s = (.ok result, t)) :
    Advanced s.db t.db ⟨context, connection, expectedVersion, .fetched description reading page⟩ reading page := by
  obtain ⟨-, items, -, committed⟩ := commitPage_eq_ok.mp ran
  obtain ⟨-, current, receipts, middle, collected, -, -, rfl⟩ := commitItems_eq_ok.mp committed
  have frame : Keeps Store.pollCheckpoints (collect items (ingestItem env context connection (env.clock s.reads))) :=
    keeps_collect items fun item => keeps_ingestItem item
  have kept := frame.of_run collected
  change middle.db.pollCheckpoints = s.db.pollCheckpoints at kept
  have fetched_at := sound.fetched description reading page rfl current
  have here : checkpointOf (advanced middle (nextCheckpoint context connection expectedVersion description reading page
      (env.clock s.reads))).db context.tenantId connection =
        some (nextCheckpoint context connection expectedVersion description reading page (env.clock s.reads)) :=
    Table.get?_put_self _ _
  refine ⟨fetched_at, ?_, ?_, ?_⟩
  · rw [checkpointVersion, here]
    exact congrArg (· + 1) current.symm
  · rw [checkpointCursor, here, ← fetched_at]
    rfl
  · intro tenant other apart
    have keys : (nextCheckpoint context connection expectedVersion description reading page (env.clock s.reads)).key ≠
        (tenant, other.provider, other.connectionId) := by
      intro same
      simp only [AdapterPollCheckpoint.key, nextCheckpoint, Prod.mk.injEq] at same
      obtain ⟨rfl, provider, id⟩ := same
      apply apart
      rw [show connection = other from by
        cases connection
        cases other
        simp_all]
    exact (Table.get?_put_of_ne middle.db.pollCheckpoints keys).trans (by rw [kept, checkpointOf])

end

/-! ## Runs -/

/-- Every poller is sound. -/
def AllSound (world : World) : Prop := ∀ poller ∈ world.pollers, poller.Sound world.session.db

theorem AllSound.finish {world : World} (sound : AllSound world) {session : Session Store} {index : Nat} {poller : Poller}
    {stage : Stage} (forward : Forward world.session.db session.db)
    (here : (Poller.mk poller.context poller.connection poller.expectedVersion stage).Sound session.db) :
    AllSound (world.finish index poller stage session) := by
  intro other member
  rcases List.mem_or_eq_of_mem_set member with old | rfl
  · exact (sound other old).forward forward
  · exact here

/-- What a step does to the checkpoints of a world in which every poller is sound. -/
structure Steps (env : Env) (event : Event) (before : World) (result : Outcome) (after : World) : Prop where
  sound : AllSound after
  forward : Forward before.session.db after.session.db
  /-- A result is that of a commit, and every other step leaves the checkpoints alone. -/
  committed : (∃ poll, result = .ok (some poll)) ∧ (∃ index poller description reading page, event = .commit index ∧
      before.pollers[index]? = some poller ∧ poller.stage = .fetched description reading page ∧
      poller.expectedVersion = checkpointVersion before.session.db poller.context.tenantId poller.connection ∧
      Advanced before.session.db after.session.db poller reading page) ∨
    (∀ poll, result ≠ .ok (some poll)) ∧ after.session.db.pollCheckpoints = before.session.db.pollCheckpoints
  refused : ∀ index why, event = .commit index → result = .error why → after.session.db = before.session.db

theorem steps_of_same {event : Event} {before after : World} {result : Outcome} (sound : AllSound after)
    (silent : ∀ poll, result ≠ .ok (some poll))
    (same : after.session.db.pollCheckpoints = before.session.db.pollCheckpoints)
    (refused : ∀ index why, event = .commit index → result = .error why → after.session.db = before.session.db) :
    Steps env event before result after :=
  ⟨sound, forward_of_same same, .inr ⟨silent, same⟩, refused⟩

theorem none_silent (poll : DemoPollResult) : (.ok none : Outcome) ≠ .ok (some poll) := by
  intro same
  cases same

theorem error_silent (why : Failure) (poll : DemoPollResult) : (.error why : Outcome) ≠ .ok (some poll) := by
  intro same
  cases same

theorem map_none_ne {α : Type} (result : Except Failure α) (poll : DemoPollResult) :
    (result.map fun _ => (none : Option DemoPollResult)) ≠ .ok (some poll) := by
  cases result with
  | error why => exact fun same => by cases same
  | ok value => exact fun same => by cases same

theorem step_steps (event : Event) {world : World} (sound : AllSound world) :
    Steps env event world (World.step env event world).1 (World.step env event world).2 := by
  have keep : ∀ {session : Session Store}, session.db.pollCheckpoints = world.session.db.pollCheckpoints →
      AllSound ⟨session, world.pollers⟩ :=
    fun same poller member => (sound poller member).forward (forward_of_same same)
  cases event with
  | expect context connection =>
    refine steps_of_same ?_ none_silent rfl fun _ _ same => by cases same
    intro poller member
    rcases List.mem_append.mp member with old | new
    · exact sound poller old
    · rw [List.mem_singleton] at new
      rw [new]
      exact ⟨Nat.le_refl _, fun _ _ _ stage => by cases stage⟩
  | fetch index description overlapFrom page =>
    simp only [World.step, World.fetch]
    split
    · next context connection expectedVersion found =>
      have known := sound _ (List.mem_of_getElem? found)
      split
      · next reading session ran =>
        obtain ⟨-, -, cursor, rfl⟩ := readCheckpoint_ok ran
        refine steps_of_same ?_ none_silent rfl fun _ _ same => by cases same
        apply sound.finish (forward_of_same rfl)
        refine ⟨known.expected, ?_⟩
        intro _ _ _ stage _
        cases stage
        exact cursor
      · next why session ran =>
        have frame : Keeps Store.pollCheckpoints
            (readCheckpoint context connection expectedVersion description overlapFrom) := by
          refine (keeps_require _).bind fun _ => (keeps_ensure _ _).bind fun _ => (keeps_ensure _ _).bind fun _ => ?_
          refine (keeps_ensure _ _).bind fun _ => Keeps.bind ?_ fun _ => (keeps_query _).bind fun _ => ?_
          · exact ((keeps_query _).bind fun _ => keeps_fetch _ _).bind fun _ => keeps_ensure _ _
          · exact (keeps_ensure _ _).bind fun _ => keeps_pure _
        have same : session.db.pollCheckpoints = world.session.db.pollCheckpoints := frame.of_run ran
        refine steps_of_same ?_ (error_silent why) same fun _ _ same => by cases same
        apply sound.finish (forward_of_same same)
        exact ⟨(known.forward (forward_of_same same)).expected, fun _ _ _ stage => by cases stage⟩
    · exact steps_of_same sound none_silent rfl fun _ _ same => by cases same
  | commit index =>
    simp only [World.step, World.commit]
    split
    · next context connection expectedVersion description reading page found =>
      have known := sound _ (List.mem_of_getElem? found)
      split
      · next result session ran =>
        have advanced := commitPage_advances known ran
        obtain ⟨-, _, -, committed⟩ := commitPage_eq_ok.mp ran
        obtain ⟨-, current, -⟩ := commitItems_eq_ok.mp committed
        refine ⟨?_, advanced.forward, .inl ⟨⟨result, rfl⟩, index, _, description, reading, page, rfl, found, rfl,
          current.symm, advanced⟩, ?_⟩
        · apply sound.finish advanced.forward
          exact ⟨(known.forward advanced.forward).expected, fun _ _ _ stage => by cases stage⟩
        · intro _ _ _ same
          cases same
      · next why session ran =>
        have same := commitPage_error ran
        refine steps_of_same ?_ (error_silent why) (congrArg Store.pollCheckpoints same) fun _ _ _ _ => same
        apply sound.finish (forward_of_same (congrArg Store.pollCheckpoints same))
        refine ⟨?_, fun _ _ _ stage => by cases stage⟩
        exact (known.forward (forward_of_same (congrArg Store.pollCheckpoints same))).expected
    · exact steps_of_same sound none_silent rfl fun _ _ _ same => by cases same
  | process context inboxId expectedVersion =>
    have frame : Keeps Store.pollCheckpoints (processInbound env context inboxId expectedVersion) := keeps_processInbound
    have same := frame world.session
    exact steps_of_same (keep same) (map_none_ne _) same (fun _ _ same => by cases same)
  | elsewhere operation quiet =>
    have same := congrArg (fun view => view.2.2.2) (quiet world.session).same
    exact steps_of_same (keep same) (map_none_ne _) same (fun _ _ same => by cases same)

theorem run_sound (events : List Event) : AllSound (final (World.step env) newWorld events) :=
  final_invariant AllSound (fun _ member => absurd member List.not_mem_nil)
    fun event _ _ sound => (step_steps event sound).sound

theorem run_forward (events : List Event) {world : World} (sound : AllSound world) :
    Forward world.session.db (final (World.step env) world events).session.db := by
  induction events generalizing world with
  | nil => exact forward_of_same rfl
  | cons event rest ih =>
    have steps : Steps env event world _ _ := step_steps event sound
    exact steps.forward.trans (ih steps.sound)

/-! ## The tables of both repositories -/

/-- `insert_or_advance_poll_checkpoint` of the SQLite repository; the update goes to the row of the primary key
with the expected version, and its `rowcount` is checked. -/
def sqliteInsertOrAdvance (value : AdapterPollCheckpoint) (expectedVersion : Int) : Op AdapterPollCheckpoint := do
  let prior ← getPollCheckpoint value.tenantId value.provider value.connectionId
  let actual : Int := prior.elim 0 fun row => row.version
  ensure (actual = expectedVersion ∧ value.version = expectedVersion + 1)
    (conflictError "adapter poll checkpoint version conflict")
  match prior with
  | none => do
    let manifest ← query fun store => store.manifests.get? (value.tenantId, value.provider, value.connectionId)
    ensure (manifest.isSome ∧ 0 < value.version) (conflictError "adapter poll checkpoint insert conflict")
    write fun store => { store with pollCheckpoints := store.pollCheckpoints.put value }
  | some _ => do
    let updated ← query fun store =>
      (store.pollCheckpoints.get? value.key).filter fun row => (row.version : Int) = expectedVersion
    ensure (updated.toList.length = 1) (conflictError "adapter poll checkpoint version conflict")
    write fun store => { store with pollCheckpoints := store.pollCheckpoints.put value }
  pure value

/-- A transaction that has seen the manifest finds both repositories alike. -/
theorem sqliteInsertOrAdvance_agrees {s : Session Store} {value : AdapterPollCheckpoint} {expectedVersion : Int}
    (known : (s.db.manifests.get? (value.tenantId, value.provider, value.connectionId)).isSome) :
    (sqliteInsertOrAdvance value expectedVersion).run s =
      (insertOrAdvancePollCheckpoint value expectedVersion).run s := by
  have key : value.key = (value.tenantId, value.provider, value.connectionId) := rfl
  simp only [sqliteInsertOrAdvance, insertOrAdvancePollCheckpoint, getPollCheckpoint, run_bind, query]
  cases stored : s.db.pollCheckpoints.get? (value.tenantId, value.provider, value.connectionId) with
  | none =>
    by_cases current : (0 : Int) = expectedVersion ∧ value.version = expectedVersion + 1
    · have positive : 0 < value.version := by
        have next := current.2
        omega
      simp [ensure, current, positive, known, run_bind, Library.Txn.pure]
    · simp [ensure, current, raise]
  | some prior =>
    by_cases current : (prior.version : Int) = expectedVersion ∧ value.version = expectedVersion + 1
    · simp [ensure, current, run_bind, stored, key, Library.Txn.pure]
    · simp [ensure, current, raise]

/-- Whatever the interleaving, a step changes a checkpoint only by committing a page that was fetched with the
cursor stored at the version it replaces; a refused commit changes nothing; no version goes back
or stands for two checkpoints; and both repositories advance alike. -/
theorem checkpoints_chained (env : Env) (events : List Event) :
    let reached := final (World.step env) newWorld events
    (∀ event, Steps env event reached (World.step env event reached).1 (World.step env event reached).2) ∧
    (∀ later, Forward reached.session.db (final (World.step env) reached later).session.db) ∧
    ∀ value expectedVersion,
      (reached.session.db.manifests.get? (value.tenantId, value.provider, value.connectionId)).isSome →
      (sqliteInsertOrAdvance value expectedVersion).run reached.session =
        (insertOrAdvancePollCheckpoint value expectedVersion).run reached.session := by
  intro reached
  have sound : AllSound reached := run_sound events
  exact ⟨fun event => step_steps event sound, fun later => run_forward later sound,
    fun _ _ known => sqliteInsertOrAdvance_agrees known⟩

end AiStore.Ingestion
