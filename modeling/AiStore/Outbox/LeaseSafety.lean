import Mathlib.Data.List.Induction
import AiStore.Library.Lease
import AiStore.Outbox.SqliteSteps

/-! Leases, retries and dead letters of the SQLite outbox.

The log of a run tells which leases were given out; the row of an event is a
cell of the lease discipline, and its attempts count the grants of the log.
-/

set_option autoImplicit false

namespace AiStore.SQLiteRepository

open Library

variable {ι κ : Type} [DecidableEq ι] [DecidableEq κ]

abbrev Log (ι κ : Type) := List (OutboxCall ι κ × OutboxResult ι κ)

/-- What an entry of the log did to the lease of the named event. -/
def leaseEvent (tenant id : ι) (entry : OutboxCall ι κ × OutboxResult ι κ) : Option (LeaseEvent ι Timestamp) :=
  match entry.2 with
  | .ok (some event) =>
      if event.Named tenant id then
        match entry.1.action with
        | .claim _ _ worker leaseUntil | .claimNext _ worker leaseUntil =>
            some (.granted ⟨worker, event.fencingToken, leaseUntil⟩)
        | .checkpoint _ _ _ token _ completed => if completed then some (.returned token) else none
        | .fail _ _ _ token _ _ => some (.returned token)
        | .append _ => none
      else none
  | _ => none

/-- The newest event first. -/
def leaseHistory (tenant id : ι) (log : Log ι κ) : List (LeaseEvent ι Timestamp) :=
  (log.filterMap (leaseEvent tenant id)).reverse

/-- How often the event was claimed. -/
def claimCount (tenant id : ι) (log : Log ι κ) : Nat :=
  (leaseHistory tenant id log).countP LeaseEvent.isGrant

def leaseCell : Option (OutboxEvent ι κ) → LeaseCell ι Timestamp
  | none => ⟨none, 0⟩
  | some row =>
      { lease := match row.leaseOwner, row.leaseUntil with
          | some owner, some expiry => some ⟨owner, row.fencingToken, expiry⟩
          | _, _ => none
        token := row.fencingToken }

def attemptsOf : Option (OutboxEvent ι κ) → Nat
  | none => 0
  | some row => row.attempts

/-- How the row of an event follows from the log. -/
structure Tracks (tenant id : ι) (log : Log ι κ) (row : Option (OutboxEvent ι κ)) : Prop where
  counted : claimCount tenant id log = attemptsOf row
  leased : ∀ now, (∀ entry ∈ log, entry.1.now ≤ now) → Leased (leaseHistory tenant id log) (leaseCell row) now

omit [DecidableEq κ]

theorem leaseHistory_concat (tenant id : ι) (log : Log ι κ) (entry : OutboxCall ι κ × OutboxResult ι κ) :
    leaseHistory tenant id (log ++ [entry]) =
      (leaseEvent tenant id entry).toList ++ leaseHistory tenant id log := by
  unfold leaseHistory
  rw [List.filterMap_append, List.reverse_append]
  cases same : leaseEvent tenant id entry <;> simp [same]

theorem leaseEvent_of_not_named {tenant id : ι} {call : OutboxCall ι κ} {result : OutboxResult ι κ}
    (apart : ∀ event, result = .ok (some event) → ¬ event.Named tenant id) :
    leaseEvent tenant id (call, result) = none := by
  unfold leaseEvent
  split
  · next event same => rw [if_neg (apart event same)]
  · rfl

section

variable {tenant id : ι} {log : Log ι κ} {call : OutboxCall ι κ} {result : OutboxResult ι κ}
  {before after : Option (OutboxEvent ι κ)}

/-- An entry without a lease event keeps a row that keeps its lease, its token and its attempts. -/
theorem Tracks.quiet (tracks : Tracks tenant id log before) (quiet : leaseEvent tenant id (call, result) = none)
    (cell : leaseCell after = leaseCell before) (attempts : attemptsOf after = attemptsOf before) :
    Tracks tenant id (log ++ [(call, result)]) after := by
  have history := leaseHistory_concat tenant id log (call, result)
  rw [quiet, Option.toList_none, List.nil_append] at history
  refine ⟨?_, fun now bound => ?_⟩
  · rw [claimCount, history, ← claimCount, tracks.counted, attempts]
  · rw [history, cell]
    exact tracks.leased now fun older member => bound older (List.mem_append_left _ member)

/-- An entry with a lease event moves the cell as the discipline allows. -/
theorem Tracks.event (tracks : Tracks tenant id log before) (clock : ∀ entry ∈ log, entry.1.now ≤ call.now)
    {event : LeaseEvent ι Timestamp} (recorded : leaseEvent tenant id (call, result) = some event)
    (allowed : Leased (leaseHistory tenant id log) (leaseCell before) call.now →
      Leased (event :: leaseHistory tenant id log) (leaseCell after) call.now)
    (attempts : attemptsOf after = attemptsOf before + if event.isGrant then 1 else 0) :
    Tracks tenant id (log ++ [(call, result)]) after := by
  have history := leaseHistory_concat tenant id log (call, result)
  rw [recorded, Option.toList_some, List.singleton_append] at history
  refine ⟨?_, fun now bound => ?_⟩
  · rw [claimCount, history, List.countP_cons, ← claimCount, tracks.counted, attempts]
  · rw [history]
    exact .idle (allowed (tracks.leased call.now clock)) (bound (call, result) (by simp))

omit [DecidableEq ι] in
theorem leaseCell_free {row : OutboxEvent ι κ} {now : Timestamp} (free : ¬ row.Leased now)
    (held : Grant ι Timestamp) (recorded : (leaseCell (some row)).lease = some held) : ¬ now < held.expiry := by
  simp only [leaseCell] at recorded
  split at recorded
  · next owner expiry _ written =>
    cases recorded
    exact fun live => free ⟨expiry, written, live⟩
  · cases recorded

end

theorem step_tracks [DecidableEq κ] (safeError : String → String) (call : OutboxCall ι κ) {box : Outbox ι κ}
    {tenant id : ι} {log : Log ι κ} (tracks : Tracks tenant id log (box.find tenant id))
    (clock : ∀ entry ∈ log, entry.1.now ≤ call.now)
    (fresh : ∀ event, call.action = .append event → event.Fresh) :
    Tracks tenant id (log ++ [(call, (step safeError call box).1)])
      ((step safeError call box).2.find tenant id) := by
  cases found : box.find tenant id with
  | none =>
    rw [found] at tracks
    have apart : ∀ event, (step safeError call box).1 = .ok (some event) → ¬ event.Named tenant id := by
      rintro event returned ⟨rfl, rfl⟩
      simpa [found] using step_returns safeError call returned
    cases appears : (step safeError call box).2.find tenant id with
    | none => exact tracks.quiet (leaseEvent_of_not_named apart) rfl rfl
    | some row =>
      obtain ⟨-, event, action, rfl⟩ := step_appears safeError call found appears
      obtain ⟨-, owner, expiry, token, attempts⟩ := fresh event action
      refine tracks.quiet (leaseEvent_of_not_named apart) ?_ attempts
      simp [leaseCell, stored, owner, expiry, token]
  | some row =>
    rw [found] at tracks
    obtain ⟨after, found_after, stepped⟩ := step_row safeError call found
    rw [found_after]
    obtain ⟨-, rfl, rfl⟩ := (box.find_eq_some _ _ _).mp found
    generalize (step safeError call box).1 = result at stepped ⊢
    cases stepped with
    | untouched apart => exact tracks.quiet (leaseEvent_of_not_named apart) rfl rfl
    | @claimed worker leaseUntil delivery claims delivered =>
      obtain ⟨accepts, rfl⟩ := claimDelivery_eq_ok.mp delivered
      have free : ¬ row.Leased call.now := fun leased => accepts (.inr (.inr leased))
      have granted : leaseEvent row.tenantId row.id
          (call, .ok (some { row with toDelivery := leaseTo row.toDelivery worker leaseUntil })) =
            some (.granted ⟨worker, row.fencingToken + 1, leaseUntil⟩) := by
        refine (if_pos ⟨rfl, rfl⟩).trans ?_
        rcases claims with ⟨_, _, action⟩ | ⟨_, action⟩ <;> simp only [action] <;> rfl
      exact tracks.event clock granted
        (fun leased => .grant leased (le_refl _) (leaseCell_free free) (Nat.lt_succ_self _)) rfl
    | @checkpointed worker token checkpoint completed event action held named =>
      have recorded : leaseEvent row.tenantId row.id (call, .ok (some event)) =
          if completed then some (.returned token) else none := by
        refine (if_pos named).trans ?_
        simp only [action]
      cases completed with
      | false =>
        refine tracks.quiet recorded ?_ rfl
        simp [leaseCell, checkpointDelivery, held.2.1]
      | true =>
        refine tracks.event clock recorded (fun leased => ?_) rfl
        rw [← held.2.2.1]
        exact .giveBack leased (le_refl _)
    | @failed worker token error maxAttempts action held enough =>
      have recorded : leaseEvent row.tenantId row.id (call, .ok (some { row with
          toDelivery := failDelivery safeError row.toDelivery error call.now maxAttempts })) =
            some (.returned token) := by
        refine (if_pos ⟨rfl, rfl⟩).trans ?_
        simp only [action]
      refine tracks.event clock recorded (fun leased => ?_) rfl
      rw [← held.2.2.1]
      exact .giveBack leased (le_refl _)

theorem run_tracks [DecidableEq κ] (safeError : String → String) (tenants : List ι) (tenant id : ι)
    {calls : List (OutboxCall ι κ)} (clock : ClockAdvances calls)
    (fresh : ∀ call ∈ calls, ∀ event, call.action = .append event → event.Fresh) :
    Tracks tenant id (trace (step safeError) (Outbox.empty tenants) calls)
      ((final (step safeError) (Outbox.empty tenants) calls).find tenant id) := by
  induction calls using List.reverseRecOn with
  | nil => exact ⟨rfl, fun now _ => .start⟩
  | append_singleton before call ih =>
    obtain ⟨earlier, -, last⟩ := List.pairwise_append.mp clock
    rw [trace_concat, final_concat]
    refine step_tracks safeError call (ih earlier fun other member => fresh other (by simp [member])) ?_
      (fresh call (by simp))
    intro entry member
    have : entry.1 ∈ before := by
      rw [← trace_inputs (step safeError) (Outbox.empty tenants) before]
      exact List.mem_map_of_mem member
    exact last _ this call (by simp)

/-! ## Single calls -/

/-- The worker and the token that a checkpoint or a failure of the named event presents. -/
def Presents (action : OutboxAction ι κ) (tenant id worker : ι) (token : Nat) : Prop :=
  (∃ checkpoint completed, action = .checkpoint tenant id worker token checkpoint completed) ∨
    ∃ error maxAttempts, action = .fail tenant id worker token error maxAttempts

/-- What every call owes to a row it finds. -/
structure CallSafe [DecidableEq κ] (safeError : String → String) (call : OutboxCall ι κ) (box : Outbox ι κ)
    (tenant id : ι) (row : OutboxEvent ι κ) : Prop where
  /-- A successful claim writes a larger token. -/
  fenced : ∀ event worker leaseUntil, ClaimsAs call.action worker leaseUntil →
    (step safeError call box).1 = .ok (some event) → event.Named tenant id →
    row.fencingToken < event.fencingToken ∧ (step safeError call box).2.find tenant id = some event
  /-- A worker whose lease is stale is turned away. -/
  rejected : ∀ worker token, Presents call.action tenant id worker token →
    (token ≠ row.fencingToken ∨ row.leaseOwner ≠ some worker ∨ ¬ row.Leased call.now) →
    ∃ why, step safeError call box = (.error why, box)
  /-- A reported failure buries the event or sends it round again, by its attempts. -/
  retried : ∀ worker token error maxAttempts, call.action = .fail tenant id worker token error maxAttempts →
    row.HeldBy worker token call.now → 1 ≤ maxAttempts →
    ∃ event, (step safeError call box).1 = .ok (some event) ∧
      (step safeError call box).2.find tenant id = some event ∧
      (maxAttempts ≤ row.attempts → event.state = .dead) ∧
      (row.attempts < maxAttempts →
        event.state = .retry ∧ ∃ available ∈ event.availableAt, call.now < available)

theorem backoffSeconds_pos (attempts : Nat) : 0 < backoffSeconds attempts :=
  lt_min (by decide) (Int.mul_pos (by decide) (Int.pow_pos (by decide)))

theorem leasedRow_of_stale {tenant id worker : ι} {token : Nat} {now : Timestamp} {box : Outbox ι κ}
    {row : OutboxEvent ι κ} (found : box.find tenant id = some row) (stale : ¬ row.HeldBy worker token now) :
    leasedRow tenant id worker token now box = .error (.conflictError "stale or expired outbox lease") := by
  simp [leasedRow, found, stale]

theorem leasedRow_of_held {tenant id worker : ι} {token : Nat} {now : Timestamp} {box : Outbox ι κ}
    {row : OutboxEvent ι κ} (found : box.find tenant id = some row) (held : row.HeldBy worker token now) :
    leasedRow tenant id worker token now box = .ok row := by
  simp [leasedRow, found, held]

theorem step_terminal [DecidableEq κ] (safeError : String → String) (call : OutboxCall ι κ) {box : Outbox ι κ}
    {tenant id : ι} {row : OutboxEvent ι κ} (found : box.find tenant id = some row)
    (terminal : row.state.Terminal) : (step safeError call box).2.find tenant id = some row := by
  obtain ⟨after, found_after, stepped⟩ := step_row safeError call found
  generalize (step safeError call box).1 = result at stepped
  have open_state : row.state ≠ .leased := by
    rintro leased
    rw [leased] at terminal
    rcases terminal with same | same <;> cases same
  cases stepped with
  | untouched => exact found_after
  | claimed _ delivered => exact absurd (.inl terminal) (claimDelivery_eq_ok.mp delivered).1
  | checkpointed _ held => exact absurd held.1 open_state
  | failed _ held => exact absurd held.1 open_state

theorem callSafe [DecidableEq κ] (safeError : String → String) (call : OutboxCall ι κ) {box : Outbox ι κ}
    {tenant id : ι} {row : OutboxEvent ι κ} (found : box.find tenant id = some row) :
    CallSafe safeError call box tenant id row where
  fenced event worker leaseUntil claims returned named := by
    obtain ⟨after, found_after, stepped⟩ := step_row safeError call found
    obtain ⟨-, rfl, rfl⟩ := (box.find_eq_some _ _ _).mp found
    rw [returned] at stepped
    rw [found_after]
    cases stepped with
    | untouched apart => exact absurd named (apart event rfl)
    | claimed _ delivered =>
      obtain ⟨-, rfl⟩ := claimDelivery_eq_ok.mp delivered
      exact ⟨Nat.lt_succ_self _, rfl⟩
    | checkpointed action => rcases claims with ⟨_, _, other⟩ | ⟨_, other⟩ <;> simp [action] at other
    | failed action => rcases claims with ⟨_, _, other⟩ | ⟨_, other⟩ <;> simp [action] at other
  rejected worker token presents stale := by
    have unheld : ¬ row.HeldBy worker token call.now := by
      rintro ⟨-, owner, same, live⟩
      rcases stale with wrong | wrong | wrong
      · exact wrong same.symm
      · exact wrong owner
      · exact wrong live
    have refused := leasedRow_of_stale found unheld
    obtain ⟨now, action⟩ := call
    rcases presents with ⟨checkpoint, completed, rfl⟩ | ⟨error, maxAttempts, rfl⟩
    · exact ⟨_, by simp [step, perform, checkpointOutbox, refused, Except.map, attempt]; rfl⟩
    · by_cases few : maxAttempts < 1
      · exact ⟨_, by simp [step, perform, failOutbox, few, Except.map, attempt]; rfl⟩
      · exact ⟨_, by simp [step, perform, failOutbox, few, refused, Except.map, attempt]; rfl⟩
  retried worker token error maxAttempts action held enough := by
    obtain ⟨now, _⟩ := call
    cases action
    have granted := leasedRow_of_held found held
    have few : ¬ maxAttempts < 1 := by omega
    refine ⟨{ row with toDelivery := failDelivery safeError row.toDelivery error now maxAttempts }, ?_, ?_, ?_, ?_⟩
    · simp [step, perform, failOutbox, few, granted, Except.map, attempt]
    · obtain ⟨-, named⟩ := (box.find_eq_some _ _ _).mp found
      simp [step, perform, failOutbox, few, granted, Except.map, attempt, Outbox.find_update, found,
        OutboxEvent.deliver_of_named _ _ _ _ named]
    · intro reached
      simp [failDelivery, reached]
    · intro early
      have late : ¬ maxAttempts ≤ row.attempts := by omega
      simpa [failDelivery, late] using Timestamp.lt_addSeconds now (backoffSeconds_pos row.attempts)

/-- Leases of the SQLite outbox are safe in every run whose clock does not go back
and whose events are appended unclaimed. -/
theorem outbox_lease_safety [DecidableEq κ] (safeError : String → String) (tenants : List ι)
    (calls : List (OutboxCall ι κ)) (clock : ClockAdvances calls)
    (fresh : ∀ call ∈ calls, ∀ event, call.action = .append event → event.Fresh) (tenant id : ι) :
    let reached := final (step safeError) (Outbox.empty tenants)
    let history := leaseHistory tenant id (trace (step safeError) (Outbox.empty tenants) calls)
    (∀ before after row, calls = before ++ after → (reached before).find tenant id = some row →
      row.state.Terminal → (reached calls).find tenant id = some row) ∧
    (∀ now, (∀ call ∈ calls, call.now ≤ now) →
      ∀ first ∈ outstanding history, ∀ second ∈ outstanding history,
        now < first.expiry → now < second.expiry → first = second) ∧
    (∀ row, (reached calls).find tenant id = some row →
      row.attempts = claimCount tenant id (trace (step safeError) (Outbox.empty tenants) calls)) ∧
    (∀ before call after row, calls = before ++ call :: after → (reached before).find tenant id = some row →
      CallSafe safeError call (reached before) tenant id row) := by
  -- the row is tracked along the run: its leases, and how often it was claimed
  have tracks := run_tracks safeError tenants tenant id clock fresh
  refine ⟨?_, fun now bound first first_member second second_member first_live second_live => ?_,
    fun row found => ?_, fun before call after row _ found => callSafe safeError call found⟩
  · rintro before after row rfl found terminal
    rw [final_append]
    exact final_invariant (fun box : Outbox ι κ => box.find tenant id = some row) found
      fun call _ box found => step_terminal safeError call found terminal
  · have times : ∀ entry ∈ trace (step safeError) (Outbox.empty tenants) calls, entry.1.now ≤ now := by
      intro entry member
      refine bound entry.1 ?_
      rw [← trace_inputs (step safeError) (Outbox.empty tenants) calls]
      exact List.mem_map_of_mem member
    exact (tracks.leased now times).live_unique (le_refl _) first_member first_live second_member second_live
  · have counted := tracks.counted
    rw [found] at counted
    exact counted.symm

/-- One event, whose first lease runs out and whose second worker reports a failure. -/
def takeover : List (OutboxCall String String) :=
  [⟨.utc 0, .append (.pendingEvent "event" "shop" "tool.command" "command" [] "key" (.utc 0))⟩,
   ⟨.utc 1, .claim "shop" "event" "first" (.utc 31)⟩,
   ⟨.utc 40, .claimNext "shop" "second" (.utc 70)⟩,
   ⟨.utc 41, .checkpoint "shop" "event" "first" 1 [] true⟩,
   ⟨.utc 42, .fail "shop" "event" "second" 2 "timeout" 5⟩]

theorem outbox_lease_safety_takeover :
    ∃ row, (final (step id) (Outbox.empty ["shop"]) takeover).find "shop" "event" = some row ∧
      row.state = .retry ∧ row.attempts = 2 := by
  have safety := outbox_lease_safety id ["shop"] takeover
    (by simp [takeover, ClockAdvances, Timestamp.le_iff, Timestamp.utc])
    (by
      intro call member event action
      simp only [takeover, List.mem_cons, List.not_mem_nil, or_false] at member
      rcases member with rfl | rfl | rfl | rfl | rfl <;> cases action
      exact OutboxEvent.fresh_pendingEvent ..)
    "shop" "event"
  obtain ⟨row, found⟩ := Option.isSome_iff_exists.mp (show ((final (step id) (Outbox.empty ["shop"])
    takeover).find "shop" "event").isSome = true by decide)
  refine ⟨row, found, ?_, (safety.2.2.1 row found).trans (by decide)⟩
  have state : ((final (step id) (Outbox.empty ["shop"]) takeover).find "shop" "event").map (·.state) =
      some .retry := by decide
  rw [found] at state
  exact Option.some.inj state

end AiStore.SQLiteRepository
