import Mathlib.Logic.Function.Basic
import AiStore.Library.Timestamp
import AiStore.ControlPlane.Scheduler

/-! What `runtime.json` and `pools.json` make of the capacity of a lane.

The handoff and the pauses are kept in the runtime; the times of the pauses are
texts and are compared as texts.
-/

set_option autoImplicit false

namespace AiStore.ControlPlane

open Library (Timestamp)

/-! ## Times as texts -/

/-- The text of a UTC time behind its second, with `Z` for the zone. -/
def zuluTail (time : Int) : List Nat := Timestamp.fraction (time % 1000000).toNat ++ ['Z'.toNat]

/-- `first > second` on the texts of two times. -/
def TextAfter (first second : Int) : Prop :=
  second / 1000000 < first / 1000000 ∨
    second / 1000000 = first / 1000000 ∧ Timestamp.codesLe (zuluTail first) (zuluTail second) = false

instance (first second : Int) : Decidable (TextAfter first second) := by
  unfold TextAfter
  exact inferInstance

/-! ## The files -/

structure LocalLlm where
  enabled : Bool := false
  endpoint : Option String := none
  deriving DecidableEq, Repr

structure Slots where
  aiosReserved : Option Int := none
  smartStoreReserved : Option Int := none
  active : Option Int := none
  operatorFloor : Option Int := none
  deriving DecidableEq, Repr

structure LanePause where
  pausedUntil : Time
  reason : String
  pausedAt : Time
  deriving DecidableEq, Repr

/-- A flag that is missing reads as false. -/
structure Runtime where
  aiosPriority : Bool := false
  handoffGranted : Bool := false
  autoHandoffBlocked : Bool := false
  localLlm : Option LocalLlm := none
  slots : Option Slots := none
  lanes : String → Option LanePause := fun _ => none
  handoffBlockedReason : Option String := none
  updatedAt : Option Time := none

structure Pool where
  size : Option Int := none
  maxSize : Option Int := none
  engine : Option String := none
  deriving DecidableEq, Repr

abbrev Pools := List (String × Pool)

def Pool.configured (pool : Pool) : Int := min (pool.size.getD 0) (pool.maxSize.getD (pool.size.getD 0))

/-- The engine does not use the shared local slots. -/
def Pool.External (pool : Pool) : Prop := pool.engine = some "cursor" ∨ pool.engine = some "gemini"

instance : DecidablePred Pool.External := fun pool => by
  unfold Pool.External
  exact inferInstance

def poolOf (pools : Pools) (role : String) : Pool := (pools.lookup role).getD {}

def implementerLanes (pools : Pools) : List String :=
  (pools.filter fun entry => entry.1 = implRole ∨ entry.2.External).map (·.1)

/-- The slots that `_probe_now` finds free: none where the total is unknown, else what neither AIOS' own tasks nor
the requests in progress use. -/
def availableSlots (total processing : Option Int) (tasks : Nat) : Int :=
  match total with
  | none => 0
  | some total => if total < 1 then 0 else max (total - (processing.elim (tasks : Int) fun used => max used tasks)) 0

/-! ## What is written -/

def grantHandoff (available : Int) (now : Time) (runtime : Runtime) : Runtime :=
  if available < 1 then
    { runtime with
      handoffGranted := false
      updatedAt := some now
      localLlm := some { runtime.localLlm.getD {} with enabled := false }
      slots := some { runtime.slots.getD {} with active := some 0 }
      handoffBlockedReason := some "AIOS is using all verified local LLM slots" }
  else
    let llm := runtime.localLlm.getD { endpoint := some "http://127.0.0.1:8081" }
    let slots := runtime.slots.getD { aiosReserved := some 6, smartStoreReserved := some 2, active := some 0 }
    let reserved := max 1 (slots.smartStoreReserved.getD 2)
    { runtime with
      aiosPriority := true
      handoffGranted := true
      autoHandoffBlocked := false
      updatedAt := some now
      localLlm := some { llm with enabled := true }
      slots := some { slots with smartStoreReserved := some reserved, active := some (min reserved available) }
      handoffBlockedReason := none }

def revokeHandoff (now : Time) (runtime : Runtime) : Runtime :=
  { runtime with
    handoffGranted := false
    autoHandoffBlocked := true
    updatedAt := some now
    localLlm := some { runtime.localLlm.getD {} with enabled := false }
    slots := some { runtime.slots.getD {} with active := some 0 } }

def lanePauseSeconds : Int := 30 * 60

def pauseLane (lane reason : String) (seconds : Int) (now : Time) (runtime : Runtime) : Runtime :=
  { runtime with lanes := Function.update runtime.lanes lane (some ⟨now + 1000000 * seconds, cut 200 reason, now⟩) }

def laneFaultMarkers : List String :=
  ["usage limit", "quota", "rate limit", "not trusted", "not logged in", "unauthorized", "authentication", "429",
    "actionrequirederror", "503", "high demand", "overloaded", "temporarily unavailable", "resource_exhausted"]

/-- The provider-side reason why an external lane cannot work right now. -/
def laneFault (texts : Texts) (text : String) : Option String :=
  laneFaultMarkers.find? fun marker => within marker (texts.lower text)

/-! ## What is read -/

structure Capacity where
  role : String
  engine : String
  configured : Int
  aiosAvailable : Int
  operatorFloor : Int
  pausedUntil : Option Time
  effective : Int
  handoffGranted : Bool
  deriving DecidableEq, Repr

/-- The pause of a lane as far as its text is later than the clock's. -/
def pausedUntil (runtime : Runtime) (now : Time) (role : String) : Option Time :=
  ((runtime.lanes role).map (·.pausedUntil)).filter fun until_ => TextAfter until_ now

def effectiveCapacity (pools : Pools) (runtime : Runtime) (available : Int) (now : Time) (role : String) : Capacity :=
  let pool := poolOf pools role
  let configured := pool.configured
  let floor := max 0 ((runtime.slots.bind (·.operatorFloor)).getD 0)
  let paused := pausedUntil runtime now role
  let effective :=
    if pool.External then if paused.isSome then 0 else configured
    else if runtime.handoffGranted then max (min configured available) (min configured floor)
    else 0
  { role
    engine := pool.engine.getD "local-http"
    configured
    aiosAvailable := available
    operatorFloor := floor
    pausedUntil := paused
    effective
    handoffGranted := runtime.handoffGranted }

section

variable {pools : Pools} {runtime : Runtime} {available : Int} {now : Time} {role : String}

/-- A whole second has no fraction, and its text comes behind those of the rest of the second. -/
def asRead (time : Int) : Int := if time % 1000000 = 0 then time + 1000000 else time

theorem textAfter_iff (first second : Int) : TextAfter first second ↔ asRead second < asRead first := by
  have digits := Timestamp.digits_append_le 6 (first % 1000000).toNat (second % 1000000).toNat ['Z'.toNat]
  rw [Nat.mod_eq_of_lt (by omega), Nat.mod_eq_of_lt (by omega)] at digits
  have order : second / 1000000 = first / 1000000 →
      (Timestamp.codesLe (zuluTail first) (zuluTail second) = false ↔ asRead second < asRead first) := by
    intro same
    rw [← Bool.not_eq_true]
    unfold zuluTail Timestamp.fraction asRead
    -- the point of a fraction comes before the `Z`
    by_cases left : first % 1000000 = 0 <;> by_cases right : second % 1000000 = 0
    · simp only [left, right, Int.toNat_zero, if_true, List.nil_append, Timestamp.codesLe]
      exact iff_of_false (by decide) (by omega)
    · have fraction : (second % 1000000).toNat ≠ 0 := by omega
      simp only [left, right, fraction, Int.toNat_zero, if_true, if_false, List.nil_append, List.cons_append,
        Timestamp.codesLe_cons]
      refine iff_of_true (fun le => ?_) (by omega)
      rcases le with less | ⟨equal, -⟩
      · exact absurd less (by decide)
      · exact absurd equal (by decide)
    · have fraction : (first % 1000000).toNat ≠ 0 := by omega
      simp only [left, right, fraction, Int.toNat_zero, if_true, if_false, List.nil_append, List.cons_append,
        Timestamp.codesLe_cons]
      exact iff_of_false (fun neither => neither (.inl (by decide))) (by omega)
    · have first_fraction : (first % 1000000).toNat ≠ 0 := by omega
      have second_fraction : (second % 1000000).toNat ≠ 0 := by omega
      simp only [left, right, first_fraction, second_fraction, if_false, List.cons_append, Timestamp.codesLe_cons,
        Nat.lt_irrefl, true_and, false_or, digits]
      omega
  constructor
  · rintro (earlier | ⟨same, after⟩)
    · unfold asRead
      split <;> split <;> omega
    · exact (order same).mp after
  · intro later
    by_cases same : second / 1000000 = first / 1000000
    · exact .inr ⟨same, (order same).mpr later⟩
    · refine .inl ?_
      unfold asRead at later
      split at later <;> split at later <;> omega

/-- A lane with any room at all stays within its pool. -/
theorem effective_le_configured (room : 0 < (effectiveCapacity pools runtime available now role).effective) :
    (effectiveCapacity pools runtime available now role).effective ≤ (poolOf pools role).configured := by
  revert room
  simp only [effectiveCapacity]
  split
  · split <;> omega
  · split <;> omega

theorem effective_of_off (shared : ¬ (poolOf pools role).External) (off : runtime.handoffGranted = false) :
    (effectiveCapacity pools runtime available now role).effective = 0 := by
  simp [effectiveCapacity, shared, off]

end

end AiStore.ControlPlane
