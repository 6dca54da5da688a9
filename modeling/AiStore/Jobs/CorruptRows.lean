import AiStore.Jobs.Deeds
import Mathlib.Data.List.Perm.Subperm
import Mathlib.Data.List.TakeWhile

/-! A whole `claim`: it buries one corrupt row after another, each in a call nested in the last one. -/

set_option autoImplicit false

namespace AiStore.StoreDB

open Library

/-! ## The nested calls -/

/-- What `json.loads` makes of the texts of a row. -/
inductive Reading where
  | value (payload checkpoint : Value)
  /-- A `JSONDecodeError`. -/
  | undecodable (why : String)
  /-- Another error: the text nests too deep, or a number has too many digits. -/
  | raised

inductive Claimed where
  | empty
  | claimed (row : Job) (payload checkpoint : Value)
  | raised

section

/-! `overruns` tells on which texts `json.loads` raises another error; `torn` is what a call that does not fit on the stack
any more has done when it raises. -/

variable (loads : String → Except String Value) (overruns : String → Bool) (torn : UtcTime → Database → Database)

def readRow (job : Job) : Reading :=
  if overruns job.payload then .raised
  else match loads job.payload with
    | .error why => .undecodable why
    | .ok payload =>
        match job.checkpoint with
        | none | some "" => .value payload (.dict [])
        | some text =>
            if overruns text then .raised
            else match loads text with
              | .error why => .undecodable why
              | .ok checkpoint => .value payload checkpoint

/-- The text of a row is not what a worker has written. -/
def corrupt (job : Job) : Bool := match readRow loads overruns job with
  | .value _ _ => false
  | _ => true

/-- `claim`, with room for so many calls nested in each other, at the given depth; each reads the clock anew. -/
def claimNested (worker : String) (leaseSeconds : Int) (clock : Nat → UtcTime) :
    Nat → Nat → Database → Claimed × Database
  | 0, depth, db => (.raised, torn (clock depth) db)
  | room + 1, depth, db => match claimRow worker leaseSeconds (clock depth) db with
      | (none, db) => (.empty, db)
      | (some row, db) => match readRow loads overruns row with
          | .value payload checkpoint => (.claimed row payload checkpoint, db)
          | .raised => (.raised, db)
          | .undecodable why => claimNested worker leaseSeconds clock room (depth + 1) (bury row.id why (clock depth) db)

end

/-! ## What a call has done -/

section

variable {loads : String → Except String Value} {overruns : String → Bool} {torn : UtcTime → Database → Database}
  {worker : String} {leaseSeconds : Int} {clock : Nat → UtcTime} {before current after : Database} {buried : List Job}

/-- The row was claimable at a reading at which no row before it that can be read was. -/
def Met (loads : String → Except String Value) (overruns : String → Bool) (now : UtcTime) (before : Database) (row : Job) :
    Prop :=
  Claimable now row ∧ ∃ ahead behind, before.jobs.rows = ahead ++ row :: behind ∧
    ∀ other ∈ ahead, corrupt loads overruns other = false → ¬ Claimable now other

/-- Rows that have been met one after the other, each undecodable. -/
structure Cleared (loads : String → Except String Value) (overruns : String → Bool) (clock : Nat → UtcTime)
    (before : Database) (buried : List Job) : Prop where
  distinct : buried.Nodup
  undecodable : ∀ row ∈ buried, ∃ why, readRow loads overruns row = .undecodable why
  met : ∀ row ∈ buried, ∃ depth, Met loads overruns (clock depth) before row

/-- Every row stands where it stood: those are dead, one may be leased, and the others are as before. -/
structure Rewritten (before after : Database) (buried : List Job) (leased : Option (Job × Job)) : Prop where
  rows : ∃ rewrite : Job → Job, after.jobs.rows = before.jobs.rows.map rewrite ∧ (∀ row, (rewrite row).id = row.id) ∧
    (∀ row ∈ buried, (rewrite row).status = .dead) ∧ (∀ pair ∈ leased, rewrite pair.1 = pair.2) ∧
    ∀ row ∈ before.jobs.rows, row ∉ buried → row ∉ leased.map Prod.fst → rewrite row = row
  sequence : after.sequence = before.sequence
  auditLog : after.auditLog = before.auditLog

theorem Met.member {now : UtcTime} {row : Job} (met : Met loads overruns now before row) : row ∈ before.jobs.rows := by
  obtain ⟨-, ahead, behind, split, -⟩ := met
  rw [split]
  exact List.mem_append_right _ List.mem_cons_self

theorem claimable_alive {now : UtcTime} {row : Job} (claimable : Claimable now row) : row.status ≠ .dead := by
  intro dead
  rcases claimable.2 with queued | ⟨running, -⟩
  · rw [queued] at dead
    cases dead
  · rw [running] at dead
    cases dead

/-- The row that a call reads: of the rows before it only buried ones were claimable. -/
structure First (now : UtcTime) (before : Database) (buried : List Job) (row : Job) : Prop where
  claimable : Claimable now row
  spared : row ∉ buried
  place : ∃ ahead behind, before.jobs.rows = ahead ++ row :: behind ∧ ∀ other ∈ ahead, Claimable now other → other ∈ buried

theorem First.met {now : UtcTime} {row : Job} (first : First now before buried row)
    (cleared : Cleared loads overruns clock before buried) : Met loads overruns now before row := by
  obtain ⟨ahead, behind, split, earlier⟩ := first.place
  refine ⟨first.claimable, ahead, behind, split, fun other member legible wanted => ?_⟩
  obtain ⟨why, unread⟩ := cleared.undecodable other (earlier other member wanted)
  rw [corrupt, unread] at legible
  cases legible

theorem claimRow_first {now : UtcTime} {row : Job} (rewritten : Rewritten before current buried none)
    (claimed : claimRow worker leaseSeconds now current = (some row, after)) : First now before buried row := by
  obtain ⟨rewrite, rows, -, dead, -, same⟩ := rewritten.rows
  have found : current.jobs.rows.find? (fun job => Claimable now job) = some row := by
    unfold claimRow at claimed
    split at claimed
    · cases claimed
    · next found =>
      cases claimed
      exact found
  rw [rows, List.find?_map, Option.map_eq_some_iff] at found
  obtain ⟨old, found, rfl⟩ := found
  obtain ⟨claimable, ahead, behind, split, earlier⟩ := List.find?_eq_some_iff_append.mp found
  simp only [Function.comp_apply, decide_eq_true_eq] at claimable
  have inside : old ∈ before.jobs.rows := by
    rw [split]
    exact List.mem_append_right _ List.mem_cons_self
  have spared : old ∉ buried := fun member => claimable_alive claimable (dead old member)
  have kept : rewrite old = old := same old inside spared (by simp)
  rw [kept] at claimable ⊢
  refine ⟨claimable, spared, ahead, behind, split, fun other member wanted => ?_⟩
  by_contra alive
  have untouched : rewrite other = other := by
    refine same other ?_ alive (by simp)
    rw [split]
    exact List.mem_append_left _ member
  have refused := earlier other member
  simp [untouched, wanted] at refused

theorem claimRow_last {now : UtcTime} (rewritten : Rewritten before current buried none)
    (claimed : claimRow worker leaseSeconds now current = (none, after)) :
    ∀ row ∈ before.jobs.rows, Claimable now row → row ∈ buried := by
  obtain ⟨rewrite, rows, -, -, -, same⟩ := rewritten.rows
  intro row inside wanted
  by_contra alive
  have missing : current.jobs.rows.find? (fun job => Claimable now job) = none := by
    unfold claimRow at claimed
    split at claimed
    · next missing => exact missing
    · cases claimed
  have untouched : rewrite row = row := same row inside alive (by simp)
  have refused := List.find?_eq_none.mp missing row (by
    rw [rows]
    exact List.mem_map.mpr ⟨row, inside, untouched⟩)
  exact refused (decide_eq_true wanted)

/-! ## The steps -/

theorem put_put {key : Job → Nat} (table : Table key) {first second old : Job} (same : key second = key first)
    (bound : table.get? (key first) = some old) : (table.put first).put second = table.put second := by
  apply Table.ext
  have again : (table.put first).get? (key second) = some first := by
    rw [same]
    exact Table.get?_put_self _ _
  have bound' : table.get? (key second) = some old := by
    rw [same]
    exact bound
  rw [Table.rows_put_of_bound _ again, Table.rows_put_of_bound _ bound, Table.rows_put_of_bound _ bound', List.map_map]
  refine List.map_congr_left fun row _ => ?_
  simp only [Function.comp_apply, same]
  by_cases here : key row = key first
  · rw [if_pos here, if_pos rfl, if_pos here]
  · rw [if_neg here, if_neg here]

/-- Where one more row is rewritten. -/
theorem Rewritten.put {row written : Job} (rewritten : Rewritten before current buried none)
    (members : ∀ old ∈ buried, old ∈ before.jobs.rows) (inside : row ∈ before.jobs.rows) (spared : row ∉ buried)
    (named : written.id = row.id) :
    ∃ rewrite : Job → Job, (current.jobs.put written).rows = before.jobs.rows.map rewrite ∧ (∀ row, (rewrite row).id = row.id) ∧
      (∀ old ∈ buried, (rewrite old).status = .dead) ∧ rewrite row = written ∧
      ∀ other ∈ before.jobs.rows, other ∉ buried → other ≠ row → rewrite other = other := by
  obtain ⟨rewrite, rows, ids, dead, -, same⟩ := rewritten.rows
  have kept : rewrite row = row := same row inside spared (by simp)
  have bound : current.jobs.get? written.id = some row := by
    rw [named]
    refine current.jobs.get?_key ?_
    rw [rows]
    exact List.mem_map.mpr ⟨row, inside, kept⟩
  have apart : ∀ other ∈ before.jobs.rows, other ≠ row → other.id ≠ written.id := fun other member distinct equal =>
    distinct (before.jobs.key_inj member inside (equal.trans named))
  refine ⟨fun other => if other.id = written.id then written else rewrite other, ?_, fun other => ?_, fun old member => ?_, ?_,
    fun other member alive distinct => ?_⟩
  · rw [Table.rows_put_of_bound _ bound, rows, List.map_map]
    refine List.map_congr_left fun other _ => ?_
    simp only [Function.comp_apply, ids]
  · dsimp only
    split
    · next equal => exact equal.symm
    · exact ids other
  · have distinct : old ≠ row := fun equal => spared (equal ▸ member)
    dsimp only
    rw [if_neg (apart old (members old member) distinct)]
    exact dead old member
  · exact if_pos named.symm
  · dsimp only
    rw [if_neg (apart other member distinct)]
    exact same other member alive (by simp)

theorem Rewritten.leased {row : Job} {lease now : UtcTime} (rewritten : Rewritten before current buried none)
    (members : ∀ old ∈ buried, old ∈ before.jobs.rows) (inside : row ∈ before.jobs.rows) (spared : row ∉ buried) :
    Rewritten before { current with jobs := current.jobs.put (row.leaseTo worker lease now) } buried
      (some (row, row.leaseTo worker lease now)) := by
  obtain ⟨rewrite, rows, ids, dead, here, same⟩ := rewritten.put members inside spared
    (show (row.leaseTo worker lease now).id = row.id from rfl)
  refine ⟨⟨rewrite, rows, ids, dead, fun pair member => ?_, fun other member alive free => ?_⟩, rewritten.sequence,
    rewritten.auditLog⟩
  · cases member
    exact here
  · exact same other member alive fun equal => free (by simp [equal])

theorem Rewritten.interred {row : Job} {why : String} {lease now : UtcTime} (rewritten : Rewritten before current buried none)
    (members : ∀ old ∈ buried, old ∈ before.jobs.rows) (inside : row ∈ before.jobs.rows) (spared : row ∉ buried)
    (found : current.jobs.get? row.id = some row) :
    Rewritten before (bury row.id why now { current with jobs := current.jobs.put (row.leaseTo worker lease now) })
      (buried ++ [row]) none := by
  have leased : (current.jobs.put (row.leaseTo worker lease now)).get? row.id = some (row.leaseTo worker lease now) :=
    Table.get?_put_self _ (row.leaseTo worker lease now)
  obtain ⟨rewrite, rows, ids, dead, here, same⟩ := rewritten.put members inside spared
    (show ((row.leaseTo worker lease now).bury why now).id = row.id from rfl)
  have once := @put_put Job.id current.jobs (row.leaseTo worker lease now) ((row.leaseTo worker lease now).bury why now) row
    rfl found
  rw [bury, leased]
  refine ⟨⟨rewrite, ?_, ids, ?_, fun pair member => (by cases member), fun other member alive _ => ?_⟩, rewritten.sequence,
    rewritten.auditLog⟩
  · dsimp only
    rw [once]
    exact rows
  · refine List.forall_mem_append.mpr ⟨dead, List.forall_mem_singleton.mpr ?_⟩
    rw [here]
    rfl
  · rw [List.mem_append, List.mem_singleton, not_or] at alive
    exact same other member alive.1 alive.2

/-! ## The run -/

/-- How a call ends that returns. -/
inductive Answered (loads : String → Except String Value) (overruns : String → Bool) (worker : String) (leaseSeconds : Int)
    (clock : Nat → UtcTime) (before : Database) (buried : List Job) : Option (Job × Job) → Claimed → Prop where
  | empty {depth : Nat} (done : ∀ row ∈ before.jobs.rows, Claimable (clock depth) row → row ∈ buried) :
      Answered loads overruns worker leaseSeconds clock before buried none .empty
  | claimed {depth : Nat} {row : Job} {payload checkpoint : Value}
      (legible : readRow loads overruns row = .value payload checkpoint) (first : First (clock depth) before buried row) :
      Answered loads overruns worker leaseSeconds clock before buried
        (some (row, row.leaseTo worker ((clock depth).addSeconds leaseSeconds) (clock depth)))
        (.claimed row payload checkpoint)

/-- What a call comes to that has buried rows already. -/
inductive Ended (loads : String → Except String Value) (overruns : String → Bool) (worker : String) (leaseSeconds : Int)
    (clock : Nat → UtcTime) (before : Database) (limit : Nat) : Claimed × Database → Prop where
  | returned {result : Claimed} {after : Database} {buried : List Job} {leased : Option (Job × Job)}
      (cleared : Cleared loads overruns clock before buried) (few : buried.length < limit)
      (rewritten : Rewritten before after buried leased)
      (answered : Answered loads overruns worker leaseSeconds clock before buried leased result) :
      Ended loads overruns worker leaseSeconds clock before limit (result, after)
  | overflow {after : Database} {buried : List Job} (cleared : Cleared loads overruns clock before buried)
      (many : buried.length = limit) : Ended loads overruns worker leaseSeconds clock before limit (.raised, after)
  | unread {depth : Nat} {after : Database} {row : Job} (met : Met loads overruns (clock depth) before row)
      (raises : readRow loads overruns row = .raised) :
      Ended loads overruns worker leaseSeconds clock before limit (.raised, after)

theorem Cleared.members (cleared : Cleared loads overruns clock before buried) : ∀ old ∈ buried, old ∈ before.jobs.rows := by
  intro old member
  obtain ⟨depth, met⟩ := cleared.met old member
  exact met.member

/-- By the calls that still fit on the stack: each buries one more row of those that were there at first. -/
theorem claimNested_ended (room depth : Nat) (cleared : Cleared loads overruns clock before buried)
    (many : buried.length = depth) (rewritten : Rewritten before current buried none) :
    Ended loads overruns worker leaseSeconds clock before (depth + room)
      (claimNested loads overruns torn worker leaseSeconds clock room depth current) := by
  induction room generalizing depth current buried with
  | zero => exact .overflow cleared many
  | succ room ih =>
    rw [claimNested]
    cases claimed : claimRow worker leaseSeconds (clock depth) current with
    | mk found after =>
      cases found with
      | none =>
        have last := claimRow_last rewritten claimed
        cases claimRow_none claimed
        exact .returned cleared (by omega) rewritten (.empty last)
      | some row =>
        have first := claimRow_first rewritten claimed
        have met := first.met cleared
        obtain ⟨held, -, rfl⟩ := claimRow_some claimed
        dsimp only
        cases read : readRow loads overruns row with
        | value payload checkpoint =>
          exact .returned cleared (by omega) (rewritten.leased cleared.members met.member first.spared) (.claimed read first)
        | raised => exact .unread met read
        | undecodable why =>
          dsimp only
          have more : Cleared loads overruns clock before (buried ++ [row]) := by
            refine ⟨?_, List.forall_mem_append.mpr ⟨cleared.undecodable, List.forall_mem_singleton.mpr ⟨why, read⟩⟩,
              List.forall_mem_append.mpr ⟨cleared.met, List.forall_mem_singleton.mpr ⟨depth, met⟩⟩⟩
            refine List.nodup_append'.mpr ⟨cleared.distinct, List.nodup_singleton _, fun other member last => ?_⟩
            rw [List.mem_singleton.mp last] at member
            exact first.spared member
          have interred := @Rewritten.interred worker before current buried row why ((clock depth).addSeconds leaseSeconds)
            (clock depth) rewritten cleared.members met.member first.spared held
          have again := ih (depth + 1) more (by simp [many]) interred
          rw [show depth + 1 + room = depth + (room + 1) from by omega] at again
          exact again

theorem Rewritten.congr {others : List Job} {leased : Option (Job × Job)} (rewritten : Rewritten before after buried leased)
    (same : ∀ row, row ∈ buried ↔ row ∈ others) : Rewritten before after others leased := by
  obtain ⟨⟨rewrite, rows, ids, dead, written, kept⟩, sequence, auditLog⟩ := rewritten
  exact ⟨⟨rewrite, rows, ids, fun row member => dead row ((same row).mpr member), written,
    fun row inside alive => kept row inside fun member => alive ((same row).mp member)⟩, sequence, auditLog⟩

theorem claimNested_started (loads : String → Except String Value) (overruns : String → Bool)
    (torn : UtcTime → Database → Database) (worker : String) (leaseSeconds : Int) (clock : Nat → UtcTime) (room : Nat)
    (before : Database) : Ended loads overruns worker leaseSeconds clock before room
      (claimNested loads overruns torn worker leaseSeconds clock room 0 before) := by
  have cleared : Cleared loads overruns clock before [] :=
    ⟨List.nodup_nil, List.forall_mem_nil _, List.forall_mem_nil _⟩
  have ended := @claimNested_ended loads overruns torn worker leaseSeconds clock before before [] room 0 cleared rfl
    ⟨⟨id, (List.map_id _).symm, fun _ => rfl, List.forall_mem_nil _, fun pair member => (by cases member), fun _ _ _ _ => rfl⟩,
      rfl, rfl⟩
  rwa [Nat.zero_add] at ended

/-! ## At one instant -/

/-- The corrupt rows that are claimable and before the first one that can be read. -/
def backlog (loads : String → Except String Value) (overruns : String → Bool) (now : UtcTime) (before : Database) : List Job :=
  (before.jobs.rows.filter fun row => Claimable now row).takeWhile (corrupt loads overruns)

/-- The first claimable row that can be read. -/
def firstLegible (loads : String → Except String Value) (overruns : String → Bool) (now : UtcTime) (before : Database) :
    Option Job :=
  ((before.jobs.rows.filter fun row => Claimable now row).dropWhile (corrupt loads overruns)).head?

/-- The backlog is dead, the first row that can be read is leased and handed back, and all other rows are as before. -/
structure Unwedged (loads : String → Except String Value) (overruns : String → Bool) (worker : String) (leaseSeconds : Int)
    (now : UtcTime) (before : Database) (outcome : Claimed × Database) : Prop where
  rows : Rewritten before outcome.2 (backlog loads overruns now before) ((firstLegible loads overruns now before).map fun row =>
    (row, row.leaseTo worker (now.addSeconds leaseSeconds) now))
  answer : match firstLegible loads overruns now before with
    | none => outcome.1 = .empty
    | some row => ∃ payload checkpoint, readRow loads overruns row = .value payload checkpoint ∧
        outcome.1 = .claimed row payload checkpoint

theorem corrupt_of_undecodable {row : Job} {why : String} (unread : readRow loads overruns row = .undecodable why) :
    corrupt loads overruns row = true := by
  rw [corrupt, unread]

theorem filter_claimable {now : UtcTime} {row : Job} (claimable : Claimable now row) (behind : List Job) :
    ((row :: behind).filter fun row => Claimable now row) = row :: behind.filter fun row => Claimable now row :=
  List.filter_cons_of_pos (by simpa using claimable)

theorem Met.backlog {now : UtcTime} {row : Job} (met : Met loads overruns now before row)
    (unread : corrupt loads overruns row = true) : row ∈ backlog loads overruns now before := by
  obtain ⟨claimable, ahead, behind, split, earlier⟩ := met
  have all : ∀ other ∈ ahead.filter fun row => Claimable now row, corrupt loads overruns other = true := by
    intro other member
    rw [List.mem_filter, decide_eq_true_eq] at member
    by_contra legible
    exact earlier other member.1 (Bool.eq_false_of_not_eq_true legible) member.2
  rw [StoreDB.backlog, split, List.filter_append, List.takeWhile_append_of_pos all,
    filter_claimable claimable, List.takeWhile_cons_of_pos unread]
  exact List.mem_append_right _ List.mem_cons_self

theorem backlog_claimed {now : UtcTime} {row : Job} {payload checkpoint : Value}
    (cleared : ∀ other ∈ buried, corrupt loads overruns other = true)
    (legible : readRow loads overruns row = .value payload checkpoint) (first : First now before buried row) :
    firstLegible loads overruns now before = some row ∧ ∀ other ∈ backlog loads overruns now before, other ∈ buried := by
  obtain ⟨claimable, -, ahead, behind, split, earlier⟩ := first
  have all : ∀ other ∈ ahead.filter fun row => Claimable now row, corrupt loads overruns other = true := by
    intro other member
    rw [List.mem_filter, decide_eq_true_eq] at member
    exact cleared other (earlier other member.1 member.2)
  have stops : ¬ corrupt loads overruns row = true := by
    rw [corrupt, legible]
    exact Bool.false_ne_true
  have parted : (before.jobs.rows.filter fun row => Claimable now row) = (ahead.filter fun row => Claimable now row) ++
      row :: behind.filter fun row => Claimable now row := by
    rw [split, List.filter_append, filter_claimable claimable]
  rw [firstLegible, backlog, parted, List.takeWhile_append_of_pos all, List.dropWhile_append_of_pos all,
    List.takeWhile_cons_of_neg stops, List.dropWhile_cons_of_neg stops, List.append_nil]
  refine ⟨rfl, fun other member => ?_⟩
  rw [List.mem_filter, decide_eq_true_eq] at member
  exact earlier other member.1 member.2

theorem backlog_empty {now : UtcTime} (cleared : ∀ other ∈ buried, corrupt loads overruns other = true)
    (done : ∀ row ∈ before.jobs.rows, Claimable now row → row ∈ buried) :
    firstLegible loads overruns now before = none ∧ ∀ other ∈ backlog loads overruns now before, other ∈ buried := by
  have inside : ∀ other ∈ before.jobs.rows.filter fun row => Claimable now row, other ∈ buried := by
    intro other member
    rw [List.mem_filter, decide_eq_true_eq] at member
    exact done other member.1 member.2
  refine ⟨?_, fun other member => inside other ((List.takeWhile_prefix _).subset member)⟩
  rw [firstLegible, List.dropWhile_eq_nil_iff.mpr fun other member => cleared other (inside other member)]
  rfl

/-- With a clock that stands, a call clears its way exactly if the backlog fits on the stack and none of it raises
another error. -/
theorem unwedged_iff (room : Nat) (now : UtcTime) (before : Database) :
    Unwedged loads overruns worker leaseSeconds now before
        (claimNested loads overruns torn worker leaseSeconds (fun _ => now) room 0 before) ↔
      (backlog loads overruns now before).length < room ∧
        ∀ row ∈ backlog loads overruns now before, readRow loads overruns row ≠ .raised := by
  have ended := claimNested_started loads overruns torn worker leaseSeconds (fun _ => now) room before
  generalize claimNested loads overruns torn worker leaseSeconds (fun _ => now) room 0 before = outcome at ended ⊢
  have returns : Unwedged loads overruns worker leaseSeconds now before outcome → outcome.1 ≠ .raised := by
    rintro ⟨-, answer⟩ raised
    rw [raised] at answer
    split at answer
    · cases answer
    · obtain ⟨payload, checkpoint, legible, never⟩ := answer
      cases never
  have inside : ∀ {buried : List Job}, Cleared loads overruns (fun _ => now) before buried →
      ∀ row ∈ buried, row ∈ backlog loads overruns now before := by
    intro buried cleared row member
    obtain ⟨_, met⟩ := cleared.met row member
    obtain ⟨why, unread⟩ := cleared.undecodable row member
    exact met.backlog (corrupt_of_undecodable unread)
  cases ended with
  | @overflow after buried cleared many =>
    refine iff_of_false (fun unwedged => returns unwedged rfl) fun fits => ?_
    have fewer := (List.subperm_of_subset cleared.distinct (inside cleared)).length_le
    omega
  | unread met raises =>
    refine iff_of_false (fun unwedged => returns unwedged rfl) fun fits => fits.2 _ (met.backlog ?_) raises
    rw [corrupt, raises]
  | @returned result after buried leased cleared few rewritten answered =>
    have unread : ∀ other ∈ buried, corrupt loads overruns other = true := fun other member => by
      obtain ⟨why, unread⟩ := cleared.undecodable other member
      exact corrupt_of_undecodable unread
    have single : (backlog loads overruns now before).Nodup :=
      ((List.Nodup.of_map _ before.jobs.unique).filter _).sublist (List.takeWhile_prefix _).sublist
    -- the buried rows are the backlog
    have cond : (∀ row ∈ backlog loads overruns now before, row ∈ buried) → (backlog loads overruns now before).length < room ∧
        ∀ row ∈ backlog loads overruns now before, readRow loads overruns row ≠ .raised := by
      intro outside
      refine ⟨Nat.lt_of_le_of_lt (List.subperm_of_subset single outside).length_le few, fun row member raises => ?_⟩
      obtain ⟨why, undecodable⟩ := cleared.undecodable row (outside row member)
      rw [raises] at undecodable
      cases undecodable
    cases answered with
    | empty done =>
      obtain ⟨none, outside⟩ := backlog_empty unread done
      refine iff_of_true ⟨?_, ?_⟩ (cond outside)
      · rw [none]
        exact rewritten.congr fun row => ⟨inside cleared row, outside row⟩
      · rw [none]
    | claimed legible first =>
      obtain ⟨some, outside⟩ := backlog_claimed unread legible first
      refine iff_of_true ⟨?_, ?_⟩ (cond outside)
      · rw [some]
        exact rewritten.congr fun row => ⟨inside cleared row, outside row⟩
      · rw [some]
        exact ⟨_, _, legible, rfl⟩

/-- A call clears its way through the corrupt rows exactly if the backlog fits on the stack and none of it raises another
error; and with any clock, if all corrupt rows fit and none raises another error, it buries those that it meets and
answers with the first row that can be read. -/
theorem corrupt_rows_cleared_iff (loads : String → Except String Value) (overruns : String → Bool)
    (torn : UtcTime → Database → Database) (worker : String) (leaseSeconds : Int) (room : Nat) (before : Database) :
    (∀ now, Unwedged loads overruns worker leaseSeconds now before
        (claimNested loads overruns torn worker leaseSeconds (fun _ => now) room 0 before) ↔
      (backlog loads overruns now before).length < room ∧
        ∀ row ∈ backlog loads overruns now before, readRow loads overruns row ≠ .raised) ∧
    ∀ clock, before.jobs.rows.countP (corrupt loads overruns) < room →
      (∀ row ∈ before.jobs.rows, readRow loads overruns row ≠ .raised) →
      let outcome := claimNested loads overruns torn worker leaseSeconds clock room 0 before
      ∃ buried leased, Cleared loads overruns clock before buried ∧ Rewritten before outcome.2 buried leased ∧
        Answered loads overruns worker leaseSeconds clock before buried leased outcome.1 := by
  refine ⟨fun now => unwedged_iff room now before, fun clock few readable => ?_⟩
  have ended := claimNested_started loads overruns torn worker leaseSeconds clock room before
  dsimp only
  generalize claimNested loads overruns torn worker leaseSeconds clock room 0 before = outcome at ended ⊢
  cases ended with
  | returned cleared _ rewritten answered => exact ⟨_, _, cleared, rewritten, answered⟩
  | unread met raises => exact absurd raises (readable _ met.member)
  | @overflow after buried cleared many =>
    have inside : ∀ row ∈ buried, row ∈ before.jobs.rows.filter (corrupt loads overruns) := fun row member => by
      obtain ⟨why, unread⟩ := cleared.undecodable row member
      exact List.mem_filter.mpr ⟨cleared.members row member, corrupt_of_undecodable unread⟩
    have fewer := (List.subperm_of_subset cleared.distinct inside).length_le
    rw [← List.countP_eq_length_filter] at fewer
    omega

/-! ### Empty payloads -/

/-- Only `"{}"` decodes. -/
def bracesOnly (text : String) : Except String Value :=
  if text = "\x7b\x7d" then .ok (.dict []) else .error "Expecting value: line 1 column 1 (char 0)"

def emptyJob (id : Nat) : Job :=
  { id, kind := "dev.task", payload := "", status := .queued, attempts := 0, availableAt := ⟨0⟩, leasedUntil := none
    workerId := none, lastError := none, checkpoint := none, createdAt := ⟨0⟩, updatedAt := ⟨0⟩ }

/-- A queue of rows with empty payloads. -/
def emptyQueue (rows : Nat) : Database where
  jobs := ⟨(List.range rows).map emptyJob, by
    rw [List.map_map, show Job.id ∘ emptyJob = id from rfl, List.map_id]
    exact List.nodup_range⟩
  sequence := rows
  auditLog := []

theorem backlog_emptyQueue (rows : Nat) (now : UtcTime) (late : 0 ≤ now.micros) :
    (backlog bracesOnly (fun _ => false) now (emptyQueue rows)).length = rows := by
  have claimable : ∀ job ∈ (emptyQueue rows).jobs.rows, decide (Claimable now job) = true := by
    intro job member
    obtain ⟨id, -, rfl⟩ := List.mem_map.mp member
    exact decide_eq_true ⟨(UtcTime.textLe_iff _ _).mpr late, .inl rfl⟩
  have unread : ∀ job ∈ (emptyQueue rows).jobs.rows, corrupt bracesOnly (fun _ => false) job = true := by
    intro job member
    obtain ⟨id, -, rfl⟩ := List.mem_map.mp member
    rfl
  rw [backlog, List.filter_eq_self.mpr claimable, List.takeWhile_eq_self_iff.mpr unread]
  simp [emptyQueue]

/-- A thousand calls nest in each other, and a thousand rows are corrupt. -/
theorem thousand_rows_overflow : ¬ Unwedged bracesOnly (fun _ => false) "worker" 600 ⟨0⟩ (emptyQueue 1000)
    (claimNested bracesOnly (fun _ => false) (fun _ db => db) "worker" 600 (fun _ => ⟨0⟩) 1000 0 (emptyQueue 1000)) := by
  rw [unwedged_iff, backlog_emptyQueue 1000 ⟨0⟩ (by decide)]
  exact fun fits => absurd fits.1 (Nat.lt_irrefl _)

theorem corrupt_rows_cleared_iff_few :
    let outcome := claimNested bracesOnly (fun _ => false) (fun _ db => db) "worker" 600 (fun _ => ⟨0⟩) 3 0 (emptyQueue 2)
    Unwedged bracesOnly (fun _ => false) "worker" 600 ⟨0⟩ (emptyQueue 2) outcome ∧
      ∃ buried leased, Cleared bracesOnly (fun _ => false) (fun _ => ⟨0⟩) (emptyQueue 2) buried ∧
        Rewritten (emptyQueue 2) outcome.2 buried leased ∧
        Answered bracesOnly (fun _ => false) "worker" 600 (fun _ => ⟨0⟩) (emptyQueue 2) buried leased outcome.1 := by
  have law := corrupt_rows_cleared_iff bracesOnly (fun _ => false) (fun _ db => db) "worker" 600 3 (emptyQueue 2)
  have readable : ∀ row ∈ (emptyQueue 2).jobs.rows, readRow bracesOnly (fun _ => false) row ≠ .raised := by
    intro row member
    obtain ⟨id, -, rfl⟩ := List.mem_map.mp member
    exact Reading.noConfusion
  refine ⟨(law.1 ⟨0⟩).mpr ⟨?_, fun row member => readable row ?_⟩, law.2 (fun _ => ⟨0⟩) (by decide) readable⟩
  · rw [backlog_emptyQueue 2 ⟨0⟩ (by decide)]
    decide
  · exact (List.filter_sublist.subset ((List.takeWhile_prefix _).subset member))

end

end AiStore.StoreDB
