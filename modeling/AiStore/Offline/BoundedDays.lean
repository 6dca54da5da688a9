import AiStore.Offline.BoundedGate

/-! What the gate of bounded writes keeps over its runs, and whose days it counts. -/

set_option autoImplicit false

namespace AiStore.Offline

open Library

variable {Payload : Type} {encoder : Encoder Payload} {gate after : BoundedGate} {write : ProposedWrite Payload}
  {approval : Option ScopedApproval} {proposed : Timestamp} {digest : String} {record : AuditRecord}

/-! ## Decisions -/

theorem mem_gateReasons (reason : GateReason) : reason ∈ gateReasons := by cases reason <;> decide

theorem ordered_eq_nil (reasons : List GateReason) : gateReasons.filter (· ∈ reasons) = [] ↔ reasons = [] := by
  rw [List.filter_eq_nil_iff, List.eq_nil_iff_forall_not_mem]
  constructor
  · exact fun none reason member => none reason (mem_gateReasons reason) (decide_eq_true member)
  · exact fun none reason _ member => none reason (of_decide_eq_true member)

theorem raised_eq_nil {found : Option GateReason} : gate.raised write proposed found = [] ↔
    gate.policy.halted = false ∧ found = none ∧ write.amountMinor ≤ gate.policy.maxAmountMinor ∧
      write.skuCount ≤ gate.policy.maxSkus ∧ (gate.writesOn proposed.localDay : Int) + 1 ≤ gate.policy.maxWritesPerDay := by
  unfold BoundedGate.raised
  cases found with
  | some reason => simp
  | none => cases gate.policy.halted <;> simp

/-- A proposal that nothing stands against. -/
structure Admission (encoder : Encoder Payload) (gate : BoundedGate) (write : ProposedWrite Payload)
    (approval : Option ScopedApproval) (proposed : Timestamp) (digest : String) : Prop where
  aware : write.proposedAt = .aware proposed
  digested : payloadDigest encoder write.payload = .ok digest
  approved : BoundedGate.approvalReason gate.policy write proposed digest approval = .ok none
  clear : gate.raised write proposed none = []

/-- The gate behind an admission. -/
def BoundedGate.counting (gate : BoundedGate) (day : Int) : BoundedGate :=
  { gate with admittedDays := gate.admittedDays.set day (gate.writesOn day + 1) }

theorem decide_of_admission (admission : Admission encoder gate write approval proposed digest) :
    gate.decide encoder write approval = .ok ((gate.counting proposed.localDay).append .decision (some .admitted) []
      write.capability (some write.targetRef) (some digest) write.proposedAt) := by
  have ordered := (ordered_eq_nil _).mpr admission.clear
  unfold BoundedGate.decide
  rw [admission.aware]
  simp only [admission.digested, admission.approved, bind, Except.bind, ordered, if_true]
  rfl

/-- A decision admits, or it changes nothing but the ledger. -/
theorem decide_cases (decided : gate.decide encoder write approval = .ok (record, after)) :
    (∃ proposed digest, Admission encoder gate write approval proposed digest) ∨
      record.decision = some .reject ∧ after.policy = gate.policy ∧ after.admittedDays = gate.admittedDays := by
  unfold BoundedGate.decide at decided
  split at decided
  · cases decided
  · next proposed aware =>
    simp only [except_bind_eq_ok] at decided
    obtain ⟨digest, digested, found, approved, decided⟩ := decided
    split at decided
    · next ordered =>
      have clear := (ordered_eq_nil _).mp ordered
      obtain ⟨-, rfl, -⟩ := raised_eq_nil.mp clear
      exact .inl ⟨proposed, digest, aware, digested, approved, clear⟩
    · cases decided
      exact .inr ⟨rfl, rfl, rfl⟩

/-- What an approval without a reason against it says. -/
theorem approvalReason_none (approved : BoundedGate.approvalReason gate.policy write proposed digest approval = .ok none) :
    ∃ given time, approval = some given ∧ given.capability = write.capability ∧ given.targetRef = write.targetRef ∧
      write.capability = gate.policy.capability ∧ given.payloadDigest = digest ∧ given.approvedAt = .aware time ∧
      totalSeconds (proposed.instant - time.instant) ≤ gate.policy.maxAgeSeconds ∧ time ≤ proposed := by
  unfold BoundedGate.approvalReason at approved
  split at approved
  · cases approved
  · next given =>
    split at approved
    · cases approved
    · next scope =>
      split at approved
      · cases approved
      · next digest_same =>
        split at approved
        · cases approved
        · next time aware =>
          split at approved
          · cases approved
          · next timely =>
            rw [not_or, not_not, not_not, Prod.mk.injEq] at scope
            rw [not_or, not_lt, Timestamp.not_lt] at timely
            exact ⟨given, time, rfl, scope.1.1, scope.1.2, scope.2, not_not.mp digest_same, aware, timely.1, timely.2⟩

/-! ## Steps -/

/-- The terms of a policy, which no step changes. -/
def SameTerms (policy other : BoundedPolicy) : Prop := other = { policy with halted := other.halted }

theorem SameTerms.refl (policy : BoundedPolicy) : SameTerms policy policy := rfl

theorem SameTerms.trans {first second third : BoundedPolicy} (front : SameTerms first second)
    (back : SameTerms second third) : SameTerms first third := by
  unfold SameTerms at *
  rw [back, front]

theorem gateStep_admits (admission : Admission encoder gate write approval proposed digest) :
    admits (gateStep encoder (.decide write approval) gate).1 = true ∧
      (gateStep encoder (.decide write approval) gate).2.policy = gate.policy ∧
      (gateStep encoder (.decide write approval) gate).2.admittedDays = (gate.counting proposed.localDay).admittedDays := by
  rw [gateStep, decide_of_admission admission]
  exact ⟨rfl, rfl, rfl⟩

/-- A step admits a proposal, or it admits none and leaves the counters. -/
theorem gateStep_cases (call : GateCall Payload) (gate : BoundedGate) :
    (∃ write approval proposed digest, call = .decide write approval ∧
      Admission encoder gate write approval proposed digest) ∨
    admits (gateStep encoder call gate).1 = false ∧
      (gateStep encoder call gate).2.admittedDays = gate.admittedDays ∧
      SameTerms gate.policy (gateStep encoder call gate).2.policy ∧
      (call.restores = false → gate.policy.halted = true → (gateStep encoder call gate).2.policy.halted = true) := by
  cases call with
  | halt at' operator => exact .inr ⟨rfl, rfl, rfl, fun _ _ => rfl⟩
  | restore at' operator => exact .inr ⟨rfl, rfl, rfl, fun kept => by cases kept⟩
  | decide write approval =>
    rcases decided : gate.decide encoder write approval with why | ⟨record, after⟩
    · right
      rw [gateStep, decided]
      exact ⟨rfl, rfl, .refl _, fun _ stopped => stopped⟩
    · rcases decide_cases decided with ⟨proposed, digest, admission⟩ | ⟨rejected, policy, days⟩
      · exact .inl ⟨write, approval, proposed, digest, rfl, admission⟩
      · right
        rw [gateStep, decided]
        refine ⟨?_, days, ?_, fun _ stopped => ?_⟩
        · simp only [attempt, admits, rejected, Option.some.injEq, reduceCtorEq, decide_false]
        · exact policy ▸ .refl _
        · exact policy ▸ stopped

theorem gateStep_terms (call : GateCall Payload) (gate : BoundedGate) :
    SameTerms gate.policy (gateStep encoder call gate).2.policy := by
  rcases @gateStep_cases _ encoder call gate with ⟨write, approval, proposed, digest, rfl, admission⟩ | ⟨-, -, terms, -⟩
  · rw [(gateStep_admits admission).2.1]
    exact .refl _
  · exact terms

/-- A stopped gate admits nothing and stays stopped until it is restored. -/
theorem gateStep_halted {call : GateCall Payload} (stopped : gate.policy.halted = true) :
    admits (gateStep encoder call gate).1 = false ∧
      (call.restores = false → (gateStep encoder call gate).2.policy.halted = true) := by
  rcases @gateStep_cases _ encoder call gate with ⟨write, approval, proposed, digest, rfl, admission⟩ | ⟨none, -, -, stays⟩
  · have going := (raised_eq_nil.mp admission.clear).1
    rw [stopped] at going
    cases going
  · exact ⟨none, fun kept => stays kept stopped⟩

theorem decide_admitted (admitted : admits (gateStep encoder (.decide write approval) gate).1 = true) :
    ∃ proposed digest, Admission encoder gate write approval proposed digest := by
  rcases @gateStep_cases _ encoder (.decide write approval) gate with
    ⟨_, _, proposed, digest, same, admission⟩ | ⟨none, -⟩
  · cases same
    exact ⟨proposed, digest, admission⟩
  · rw [none] at admitted
    cases admitted

/-! ## Runs -/

variable {calls : List (GateCall Payload)} {policy : BoundedPolicy} {modes : String → Option String}

theorem create_ok (created : BoundedGate.create modes policy = .ok gate) :
    gate.policy = policy ∧ gate.admittedDays = .empty := by
  unfold BoundedGate.create at created
  split at created
  · cases created
  · cases created
    exact ⟨rfl, rfl⟩

theorem final_terms (calls : List (GateCall Payload)) (gate : BoundedGate) :
    SameTerms gate.policy (final (gateStep encoder) gate calls).policy :=
  final_relates (fun first second => SameTerms first.policy second.policy) (fun _ => .refl _)
    (fun _ _ _ => SameTerms.trans) fun call _ state => gateStep_terms call state

theorem final_halted (quiet : ∀ call ∈ calls, call.restores = false) (stopped : gate.policy.halted = true) :
    (final (gateStep encoder) gate calls).policy.halted = true :=
  final_invariant (fun gate : BoundedGate => gate.policy.halted = true) stopped fun call member _ stopped =>
    (gateStep_halted stopped).2 (quiet call member)

/-- The counter of a day on the wall clock never exceeds the cap. -/
theorem final_capped (capped : ∀ day, (gate.writesOn day : Int) ≤ gate.policy.maxWritesPerDay) (day : Int) :
    ((final (gateStep encoder) gate calls).writesOn day : Int) ≤ gate.policy.maxWritesPerDay := by
  have kept : (∀ day, ((final (gateStep encoder) gate calls).writesOn day : Int) ≤
      (final (gateStep encoder) gate calls).policy.maxWritesPerDay) := by
    refine final_invariant (fun gate : BoundedGate => ∀ day, (gate.writesOn day : Int) ≤ gate.policy.maxWritesPerDay) capped ?_
    intro call _ state capped other
    rcases @gateStep_cases _ encoder call state with ⟨write, approval, proposed, digest, rfl, admission⟩ | ⟨-, days, terms, -⟩
    · obtain ⟨-, policy, days⟩ := gateStep_admits admission
      have room := (raised_eq_nil.mp admission.clear).2.2.2.2
      rw [policy, BoundedGate.writesOn, days, BoundedGate.counting, Dict.get?_set]
      split
      · exact_mod_cast room
      · exact capped other
    · rw [BoundedGate.writesOn, days, terms]
      exact capped other
  rw [@final_terms _ encoder calls gate] at kept
  exact kept day

theorem admittedWrites_concat (events : List (GateCall Payload × Except GateFailure AuditRecord))
    (event : GateCall Payload × Except GateFailure AuditRecord) :
    admittedWrites (events ++ [event]) = admittedWrites events ++ admittedWrites [event] := List.filterMap_append

theorem admittedWrites_none {call : GateCall Payload} {output : Except GateFailure AuditRecord}
    (none : admits output = false) : admittedWrites [(call, output)] = [] := by
  cases call <;> simp [admittedWrites, none]

theorem admittedWrites_one {output : Except GateFailure AuditRecord} (one : admits output = true) :
    admittedWrites [(.decide write approval, output)] = [write] := by
  simp [admittedWrites, one]

/-- The counter of a day counts the admitted proposals that are written with the day. -/
theorem final_counts (fresh : gate.admittedDays = .empty) (day : Int) :
    (admittedWrites (trace (gateStep encoder) gate calls)).countP (·.on Timestamp.localDay day) =
      (final (gateStep encoder) gate calls).writesOn day := by
  refine run_induction (fun calls => (admittedWrites (trace (gateStep encoder) gate calls)).countP
    (·.on Timestamp.localDay day) = (final (gateStep encoder) gate calls).writesOn day) ?_ ?_
  · simp only [trace, admittedWrites, List.filterMap_nil, List.countP_nil, final_nil, BoundedGate.writesOn, fresh,
      Dict.get?_empty, Option.getD_none]
  · intro before call after _ counted
    rw [trace_concat, admittedWrites_concat, List.countP_append, final_concat, counted]
    generalize final (gateStep encoder) gate before = state
    rcases @gateStep_cases _ encoder call state with ⟨write, approval, proposed, digest, rfl, admission⟩ | ⟨none, days, -⟩
    · obtain ⟨one, -, days⟩ := gateStep_admits admission
      rw [admittedWrites_one one, List.countP_singleton]
      simp only [BoundedGate.writesOn, days, BoundedGate.counting, Dict.get?_set, ProposedWrite.on, admission.aware,
        decide_eq_true_eq]
      split
      · next same =>
        rw [← same, Option.getD_some]
      · rfl
    · rw [admittedWrites_none none, List.countP_nil, Nat.add_zero, BoundedGate.writesOn, BoundedGate.writesOn, days]

/-- An admitted proposal is one of a call. -/
theorem mem_admittedWrites (member : write ∈ admittedWrites (trace (gateStep encoder) gate calls)) :
    ∃ approval, .decide write approval ∈ calls := by
  obtain ⟨⟨call, output⟩, among, taken⟩ := List.mem_filterMap.mp member
  have called : call ∈ calls := @trace_inputs _ _ _ (gateStep encoder) gate calls ▸ List.mem_map_of_mem among
  cases call with
  | halt _ _ => cases taken
  | restore _ _ => cases taken
  | decide other approval =>
    simp only at taken
    split at taken
    · cases taken
      exact ⟨approval, called⟩
    · cases taken

/-! ## Days -/

/-- In no run over the instants are more proposals of a UTC day admitted than the policy allows. -/
def DaysCapped (allowed : Timestamp → Prop) : Prop :=
  ∀ (Payload : Type) (encoder : Encoder Payload) (modes : String → Option String) (policy : BoundedPolicy)
    (gate : BoundedGate), BoundedGate.create modes policy = .ok gate → ∀ calls : List (GateCall Payload),
    (∀ call ∈ calls, ∀ time, call.proposes time → allowed time) → ∀ day,
    ((admittedWrites (trace (gateStep encoder) gate calls)).countP (·.on Timestamp.utcDay day) : Int) ≤
      policy.maxWritesPerDay

/-- The proposals of one UTC day are all written with one date. -/
def OneDate (allowed : Timestamp → Prop) : Prop :=
  ∀ first second, allowed first → allowed second → first.utcDay = second.utcDay → first.localDay = second.localDay

theorem on_eq_true {day : Timestamp → Int} {number : Int} (here : write.on day number = true) :
    ∃ time, write.proposedAt = .aware time ∧ day time = number := by
  unfold ProposedWrite.on at here
  split at here
  · next time aware => exact ⟨time, aware, of_decide_eq_true here⟩
  · cases here

theorem daysCapped_of_oneDate {allowed : Timestamp → Prop} (one : OneDate allowed) : DaysCapped allowed := by
  intro Payload encoder modes policy gate created calls among day
  obtain ⟨same, fresh⟩ := create_ok created
  by_cases none : ∃ write ∈ admittedWrites (trace (gateStep encoder) gate calls), write.on Timestamp.utcDay day = true
  · -- the date of one admitted proposal is that of all of the day
    obtain ⟨write, member, here⟩ := none
    obtain ⟨time, aware, rfl⟩ := on_eq_true here
    obtain ⟨approval, called⟩ := mem_admittedWrites member
    have admitted := among _ called time ⟨write, approval, rfl, aware⟩
    have dated : (admittedWrites (trace (gateStep encoder) gate calls)).countP (·.on Timestamp.utcDay time.utcDay) ≤
        (admittedWrites (trace (gateStep encoder) gate calls)).countP (·.on Timestamp.localDay time.localDay) := by
      refine List.countP_mono_left fun other known here => ?_
      obtain ⟨instant, stamped, day⟩ := on_eq_true here
      obtain ⟨approval, called⟩ := mem_admittedWrites known
      have date := one instant time (among _ called instant ⟨other, approval, rfl, stamped⟩) admitted day
      simp only [ProposedWrite.on, stamped, date, decide_true]
    have capped : ∀ day, (gate.writesOn day : Int) ≤ gate.policy.maxWritesPerDay := by
      intro day
      rw [BoundedGate.writesOn, fresh, same]
      exact Int.le_of_lt policy.writes_pos
    have counted := @final_counts _ encoder gate calls fresh time.localDay
    have kept := @final_capped _ encoder gate calls capped time.localDay
    rw [same] at kept
    omega
  · rw [List.countP_eq_zero.mpr fun write member here => none ⟨write, member, here⟩]
    exact Int.le_of_lt policy.writes_pos

/-! Two proposals of one day under two dates. -/

def onePerDay : BoundedPolicy where
  version := 1
  capability := "update_price"
  maxAmountMinor := 0
  maxSkus := 50
  maxWritesPerDay := 1
  maxAgeSeconds := 86400
  version_pos := by decide
  named := by decide
  amount_nonneg := by decide
  skus_pos := by decide
  writes_pos := by decide
  age_pos := by decide

def openGate : BoundedGate := ⟨[("G4", "DEMO"), ("G5", "DEMO")], onePerDay, [], .empty⟩

def plainEncoder : Encoder Unit := ⟨fun _ => some "{}", fun _ => "digest"⟩

/-- A proposal that is approved in its own instant. -/
def proposal (time : Timestamp) : GateCall Unit :=
  .decide ⟨"update_price", "offer:offer-1", (), 0, 1, .aware time⟩
    (some ⟨"update_price", "offer:offer-1", "digest", .aware time, "operator"⟩)

theorem openGate_created : BoundedGate.create (fun _ => some "DEMO") onePerDay = .ok openGate := rfl

theorem proposal_admission {gate : BoundedGate} {time : Timestamp} (policy : gate.policy = onePerDay)
    (room : gate.writesOn time.localDay = 0) : Admission plainEncoder gate
      ⟨"update_price", "offer:offer-1", (), 0, 1, .aware time⟩
      (some ⟨"update_price", "offer:offer-1", "digest", .aware time, "operator"⟩) time "digest" where
  aware := rfl
  digested := by simp only [payloadDigest, plainEncoder]; rfl
  approved := by
    have now : totalSeconds (time.instant - time.instant) = 0 := by
      rw [Int.sub_self, totalSeconds, Int.cast_zero, zero_div, binary64_zero]
    have late : ¬ ((gate.policy.maxAgeSeconds : ℚ) < 0 ∨ time < time) := by
      rw [policy]
      exact not_or.mpr ⟨by decide, lt_irrefl time⟩
    simp only [BoundedGate.approvalReason, policy, now]
    rw [policy] at late
    rw [if_neg (by decide), if_neg (by decide), if_neg late]
  clear := by
    rw [raised_eq_nil, room, policy]
    exact ⟨rfl, rfl, Int.le_refl 0, show (1 : Int) ≤ 50 by decide, Int.le_refl 1⟩

theorem proposal_admitted {gate : BoundedGate} {time : Timestamp} (policy : gate.policy = onePerDay)
    (room : gate.writesOn time.localDay = 0) : admits (gateStep plainEncoder (proposal time) gate).1 = true ∧
      (gateStep plainEncoder (proposal time) gate).2.policy = onePerDay ∧
      (gateStep plainEncoder (proposal time) gate).2.admittedDays = (gate.counting time.localDay).admittedDays := by
  obtain ⟨admitted, kept, days⟩ := gateStep_admits (proposal_admission policy room)
  exact ⟨admitted, kept.trans policy, days⟩

/-- Proposals of two dates are admitted both, on whatever day. -/
theorem two_dates_admitted {first second : Timestamp} (apart : first.localDay ≠ second.localDay) :
    (admittedWrites (trace (gateStep plainEncoder) openGate [proposal first, proposal second])).map
      ProposedWrite.proposedAt = [.aware first, .aware second] := by
  obtain ⟨one, policy, days⟩ := @proposal_admitted openGate first rfl rfl
  have room : (gateStep plainEncoder (proposal first) openGate).2.writesOn second.localDay = 0 := by
    rw [BoundedGate.writesOn, days, BoundedGate.counting, Dict.get?_set_of_ne _ apart]
    rfl
  obtain ⟨two, -, -⟩ := proposal_admitted policy room
  rw [trace, trace, trace, ← List.singleton_append, admittedWrites_concat]
  exact congrArg (List.map ProposedWrite.proposedAt)
    (congrArg₂ (· ++ ·) (admittedWrites_one one) (admittedWrites_one two))

theorem daysCapped_iff (allowed : Timestamp → Prop) : DaysCapped allowed ↔ OneDate allowed := by
  refine ⟨fun capped first second first_allowed second_allowed same => ?_, daysCapped_of_oneDate⟩
  by_contra apart
  have few := capped Unit plainEncoder (fun _ => some "DEMO") onePerDay openGate openGate_created
    [proposal first, proposal second] ?_ second.utcDay
  · have both := two_dates_admitted apart
    obtain ⟨write, others, writes, first_at, rest⟩ := List.map_eq_cons_iff.mp both
    obtain ⟨other, _, rfl, second_at, ended⟩ := List.map_eq_cons_iff.mp rest
    cases List.map_eq_nil_iff.mp ended
    rw [writes] at few
    simp only [List.countP_cons, List.countP_nil, ProposedWrite.on, first_at, second_at, same, decide_true, if_true,
      onePerDay] at few
    exact absurd few (by decide)
  · intro call member time proposes
    obtain ⟨write, approval, called, aware⟩ := proposes
    rcases List.mem_cons.mp member with rfl | later
    · cases called
      cases aware
      exact first_allowed
    · cases List.mem_singleton.mp later
      cases called
      cases aware
      exact second_allowed

/-- Proposals that are written in UTC are counted by their day. -/
theorem daysCapped_utc : DaysCapped fun time => time.offset = 0 :=
  (daysCapped_iff _).mpr fun first second first_utc second_utc same => by
    simp only [Timestamp.utcDay, Timestamp.localDay, first_utc, second_utc, Int.add_zero] at same ⊢
    exact same

/-! ## What is promised -/

/-- An approval that is older than the policy admits, and whose age is rounded down to what it admits. -/
def RoundedDown (policy : BoundedPolicy) (proposed approved : Timestamp) : Prop :=
  policy.maxAgeSeconds * 1000000 < proposed.instant - approved.instant ∧
    totalSeconds (proposed.instant - approved.instant) ≤ policy.maxAgeSeconds

/-- Ages of up to 272 years are not rounded across a second. -/
theorem not_roundedDown {approved : Timestamp} (short : policy.maxAgeSeconds < 2 ^ 33) :
    ¬ RoundedDown policy proposed approved := by
  rintro ⟨older, rounded⟩
  have small : |policy.maxAgeSeconds| < 2 ^ 33 := by rwa [abs_of_pos policy.age_pos]
  exact absurd rounded (totalSeconds_gt small older).not_ge

/-- The write is within the caps and carries an approval of its own, which is not older than the policy admits unless its
age is rounded. -/
def Vouched (encoder : Encoder Payload) (policy : BoundedPolicy) (write : ProposedWrite Payload)
    (approval : Option ScopedApproval) : Prop :=
  write.amountMinor ≤ policy.maxAmountMinor ∧ write.skuCount ≤ policy.maxSkus ∧
    ∃ given proposed approved, approval = some given ∧ given.capability = write.capability ∧
      write.capability = policy.capability ∧ given.targetRef = write.targetRef ∧
      payloadDigest encoder write.payload = .ok given.payloadDigest ∧ write.proposedAt = .aware proposed ∧
      given.approvedAt = .aware approved ∧ approved ≤ proposed ∧
      (proposed.instant - approved.instant ≤ policy.maxAgeSeconds * 1000000 ↔ ¬ RoundedDown policy proposed approved)

theorem vouched_of_admission (terms : SameTerms policy gate.policy)
    (admission : Admission encoder gate write approval proposed digest) : Vouched encoder policy write approval := by
  obtain ⟨-, -, amount, skus, -⟩ := raised_eq_nil.mp admission.clear
  obtain ⟨given, approved, some, capability, target, scope, same, aware, timely, ordered⟩ :=
    approvalReason_none admission.approved
  rw [terms] at amount skus scope timely
  refine ⟨amount, skus, given, proposed, approved, some, capability, scope, target, same ▸ admission.digested, admission.aware,
    aware, ordered, ?_⟩
  unfold RoundedDown
  rw [not_and]
  constructor
  · exact fun young older => absurd older (Int.not_lt.mpr young)
  · exact fun exact => Int.not_lt.mp fun older => exact older timely

/-- The gate over every run. A stop holds until the restoration, an admitted write is within the caps and carries its
approval, and the writes of a UTC day are capped where all of them are written with one date, and nowhere else. -/
theorem bounded_writes_iff (encoder : Encoder Payload) (allowed : Timestamp → Prop) :
    (∀ modes policy gate, BoundedGate.create modes policy = .ok gate → ∀ before : List (GateCall Payload),
      (∀ at' operator middle write approval, (∀ call ∈ middle, call.restores = false) →
        admits (gateStep encoder (.decide write approval)
          (final (gateStep encoder) gate (before ++ .halt at' operator :: middle))).1 = false) ∧
      ∀ write approval, admits (gateStep encoder (.decide write approval) (final (gateStep encoder) gate before)).1 = true →
        Vouched encoder policy write approval) ∧
    (DaysCapped allowed ↔ OneDate allowed) := by
  refine ⟨fun modes policy gate created before => ⟨?_, ?_⟩, daysCapped_iff allowed⟩
  · intro at' operator middle write approval quiet
    refine (gateStep_halted ?_).1
    rw [final_split, final_concat]
    exact final_halted quiet rfl
  · intro write approval admitted
    obtain ⟨proposed, digest, admission⟩ := decide_admitted admitted
    have terms := @final_terms _ encoder before gate
    rw [(create_ok created).1] at terms
    exact vouched_of_admission terms admission

/-- Two proposals within ten minutes of one UTC day, the second of them written with an offset of nine hours, are both
admitted where one a day is allowed. -/
theorem two_admitted_of_one :
    BoundedGate.create (fun _ => some "DEMO") onePerDay = .ok openGate ∧
    (⟨84600000000, 0⟩ : Timestamp).utcDay = (⟨85200000000, 32400000000⟩ : Timestamp).utcDay ∧
      openGate.policy.maxWritesPerDay = 1 ∧
      (admittedWrites (trace (gateStep plainEncoder) openGate
        [proposal ⟨84600000000, 0⟩, proposal ⟨85200000000, 32400000000⟩])).countP (·.on Timestamp.utcDay 0) = 2 := by
  refine ⟨openGate_created, by decide, rfl, ?_⟩
  have both := @two_dates_admitted ⟨84600000000, 0⟩ ⟨85200000000, 32400000000⟩ (by decide)
  obtain ⟨write, others, writes, first_at, rest⟩ := List.map_eq_cons_iff.mp both
  obtain ⟨other, _, rfl, second_at, ended⟩ := List.map_eq_cons_iff.mp rest
  cases List.map_eq_nil_iff.mp ended
  rw [writes]
  simp only [List.countP_cons, List.countP_nil, ProposedWrite.on, first_at, second_at]
  decide

end AiStore.Offline
