import AiStore.Execution.Attempts

/-! The durable synthetic provider: a ledger of effects that only execution adds to. -/

set_option autoImplicit false

namespace AiStore.SyntheticProvider

open Library (Session Table Txn)
open Library.Txn Failure Execution

structure SyntheticEffect where
  tenantId : Uuid
  operationKey : String
  intentDigest : String
  kind : ObservationKind
  providerReference : String
  hiddenLookups : Nat := 0
  deriving DecidableEq

def SyntheticEffect.key (row : SyntheticEffect) : Uuid × String := (row.tenantId, row.operationKey)

abbrev Ledger := Table SyntheticEffect.key

abbrev ProviderOp := Txn Ledger Failure

inductive SyntheticMode where
  | success
  | refusal
  | timeoutBefore
  | timeoutAfter
  | delayedLookup
  | lookupUnavailable
  | staleResponse
  deriving DecidableEq, Repr

def adapterVersion : String := "synthetic-v1"

variable (env : Env) (mode : SyntheticMode) (tenant : Uuid) (operationKey intentDigest : String)

/-- `_result`. -/
def answer (kind : ObservationKind) (reference : Value) (authoritative : Bool) : Mapping :=
  [("kind", .text kind.value),
    ("response_digest", .text (env.digest (.list [.text kind.value, .uuid tenant, .text operationKey,
      .text intentDigest, reference, .bool authoritative]))),
    ("provider_reference", reference), ("authoritative_absence", .bool authoritative)]

/-- `_existing`. -/
def existing : ProviderOp (Option SyntheticEffect) := do
  ensure (operationKey ≠ "" ∧ intentDigest ≠ "")
    (valueError "Nonempty tenant, operation key and intent digest required")
  let row ← query fun ledger => ledger.get? (tenant, operationKey)
  ensure (∀ effect ∈ row, effect.intentDigest = intentDigest)
    (conflictError "Synthetic operation key already binds a different intent")
  pure row

/-- The effect an execution writes. -/
def newEffect : SyntheticEffect where
  tenantId := tenant
  operationKey := operationKey
  intentDigest := intentDigest
  kind := if mode = .refusal then .foundFailure else .foundSuccess
  providerReference := env.digest (.list [.uuid tenant, .text operationKey])
  hiddenLookups := if mode = .delayedLookup then 1 else 0

/-- The durable part of an execution: the effect there is, or a new one. -/
def effect : ProviderOp SyntheticEffect := transaction do
  match ← existing tenant operationKey intentDigest with
  | some row => pure row
  | none =>
    ensure (mode ≠ .timeoutBefore) (timeoutError "Synthetic timeout before effect")
    write fun ledger => ledger.put (newEffect env mode tenant operationKey intentDigest)
    let row ← existing tenant operationKey intentDigest
    fetch (typeError "'NoneType' object is not subscriptable") row

/-- The answer to an execution, if it is not lost on the way. -/
def respond (row : SyntheticEffect) : ProviderOp Mapping := do
  ensure (mode ∉ [SyntheticMode.timeoutAfter, .delayedLookup, .lookupUnavailable])
    (timeoutError "Synthetic response lost after durable effect")
  if mode = .staleResponse then
    pure (answer env tenant operationKey intentDigest .inconclusive .none false)
  else pure (answer env tenant operationKey intentDigest row.kind (.text row.providerReference) false)

def execute : ProviderOp Mapping := do
  let row ← effect env mode tenant operationKey intentDigest
  respond env mode tenant operationKey intentDigest row

def lookup (authoritativeAbsence : Bool) : ProviderOp Mapping := transaction do
  let row ← existing tenant operationKey intentDigest
  if mode = .lookupUnavailable ∨ mode = .staleResponse then
    pure (answer env tenant operationKey intentDigest .inconclusive .none false)
  else match row with
    | none => pure (answer env tenant operationKey intentDigest .absent .none authoritativeAbsence)
    | some row =>
      if row.hiddenLookups ≠ 0 then do
        write fun ledger => ledger.put { row with hiddenLookups := row.hiddenLookups - 1 }
        pure (answer env tenant operationKey intentDigest .inconclusive .none false)
      else pure (answer env tenant operationKey intentDigest row.kind (.text row.providerReference) false)

/-! ## What a call leaves in the ledger -/

/-- The same effect, however often it was looked up. -/
def SameEffect (first second : SyntheticEffect) : Prop :=
  { first with hiddenLookups := 0 } = { second with hiddenLookups := 0 }

theorem SameEffect.fields {first second : SyntheticEffect} (same : SameEffect first second) :
    first.key = second.key ∧ first.intentDigest = second.intentDigest ∧ first.kind = second.kind := by
  simp only [SameEffect, SyntheticEffect.mk.injEq] at same
  obtain ⟨tenant, operation, intent, kind, -, -⟩ := same
  exact ⟨congrArg₂ Prod.mk tenant operation, intent, kind⟩

/-- No effect is lost or changed. -/
def Durable (before after : Ledger) : Prop :=
  ∀ key row, before.get? key = some row → ∃ later, after.get? key = some later ∧ SameEffect row later

theorem Durable.refl (ledger : Ledger) : Durable ledger ledger := fun _ row found => ⟨row, found, rfl⟩

theorem Durable.trans {first second third : Ledger} (left : Durable first second) (right : Durable second third) :
    Durable first third := by
  intro key row found
  obtain ⟨middle, middle_found, same⟩ := left key row found
  obtain ⟨last, last_found, again⟩ := right key middle middle_found
  exact ⟨last, last_found, same.trans again⟩

/-- A call is about one operation: it adds no other effect, and an effect it reports is in the ledger. -/
structure Served (tenant : Uuid) (operationKey intentDigest : String) (before after : Ledger)
    (outcome : Except Failure Mapping) : Prop where
  durable : Durable before after
  origin : ∀ row ∈ after.rows, (∃ old ∈ before.rows, SameEffect old row) ∨
    row.key = (tenant, operationKey) ∧ row.intentDigest = intentDigest
  reported : ∀ result kind, outcome = .ok result → readKind (result.get? "kind") = .ok kind →
    kind = .foundSuccess ∨ kind = .foundFailure →
    ∃ row, after.get? (tenant, operationKey) = some row ∧ row.kind = kind

section

variable {env} {mode} {tenant} {operationKey} {intentDigest} {s t : Session Ledger}

@[simp] theorem existing_eq_ok {found : Option SyntheticEffect} :
    (existing tenant operationKey intentDigest).run s = (.ok found, t) ↔
      (operationKey ≠ "" ∧ intentDigest ≠ "") ∧ s.db.get? (tenant, operationKey) = found ∧
        (∀ effect ∈ found, effect.intentDigest = intentDigest) ∧ t = s := by
  simp only [existing, bind_eq_ok, ensure_eq_ok, query_eq_ok, pure_eq_ok]
  constructor
  · rintro ⟨_, _, ⟨named, rfl⟩, _, _, ⟨rfl, rfl⟩, _, _, ⟨same, rfl⟩, rfl, rfl⟩
    exact ⟨named, rfl, same, rfl⟩
  · rintro ⟨named, rfl, same, rfl⟩
    exact ⟨(), _, ⟨named, rfl⟩, _, _, ⟨rfl, rfl⟩, (), _, ⟨same, rfl⟩, rfl, rfl⟩

@[simp] theorem readKind_answer (kind : ObservationKind) (reference : Value) (authoritative : Bool) :
    readKind ((answer env tenant operationKey intentDigest kind reference authoritative).get? "kind") = .ok kind := by
  cases kind <;> rfl

/-- Writing an effect under a free key adds that effect only. -/
theorem durable_put_fresh {ledger : Ledger} {row : SyntheticEffect} (fresh : ledger.get? row.key = none) :
    Durable ledger (ledger.put row) := by
  intro key old found
  refine ⟨old, ?_, rfl⟩
  rw [Table.get?_put_of_ne _ fun same => ?_]
  · exact found
  · rw [same, found] at fresh
    cases fresh

theorem durable_put_same {ledger : Ledger} {old row : SyntheticEffect} (found : ledger.get? row.key = some old)
    (same : SameEffect old row) : Durable ledger (ledger.put row) := by
  intro key other other_found
  by_cases here : row.key = key
  · subst here
    cases Option.some.inj (found.symm.trans other_found)
    exact ⟨row, Table.get?_put_self _ _, same⟩
  · exact ⟨other, (Table.get?_put_of_ne _ here).trans other_found, rfl⟩

theorem effect_ok {row : SyntheticEffect}
    (ran : (effect env mode tenant operationKey intentDigest).run s = (.ok row, t)) :
    t.db.get? (tenant, operationKey) = some row ∧ (t.db = s.db ∨
      s.db.get? (tenant, operationKey) = none ∧ t.db = s.db.put (newEffect env mode tenant operationKey intentDigest)) := by
  rw [effect, transaction_eq_ok] at ran
  simp only [bind_eq_ok, existing_eq_ok] at ran
  obtain ⟨found, _, ⟨-, lookup, -, rfl⟩, ran⟩ := ran
  cases found with
  | some old =>
    obtain ⟨rfl, rfl⟩ := (pure_eq_ok _ _ _ _).mp ran
    exact ⟨lookup, .inl rfl⟩
  | none =>
    simp only [bind_eq_ok, ensure_eq_ok, write_eq_ok, existing_eq_ok, fetch_eq_ok] at ran
    obtain ⟨_, _, ⟨-, rfl⟩, _, _, rfl, found, _, ⟨-, again, -, rfl⟩, rfl, rfl⟩ := ran
    exact ⟨again, .inr ⟨lookup, rfl⟩⟩

theorem origin_put {ledger : Ledger} {row : SyntheticEffect} (written : (∃ old ∈ ledger.rows, SameEffect old row) ∨
      row.key = (tenant, operationKey) ∧ row.intentDigest = intentDigest) :
    ∀ other ∈ (ledger.put row).rows, (∃ old ∈ ledger.rows, SameEffect old other) ∨
      other.key = (tenant, operationKey) ∧ other.intentDigest = intentDigest :=
  Table.forall_put (fun other member => .inl ⟨other, member, rfl⟩) written

/-- A call that raises inside its transaction serves nothing. -/
theorem served_error (ledger : Ledger) (why : Failure) :
    Served tenant operationKey intentDigest ledger ledger (.error why) :=
  ⟨.refl ledger, fun row member => .inl ⟨row, member, rfl⟩, nofun⟩

/-- The answer leaves the ledger alone, and a found kind in it is that of the effect. -/
theorem respond_kept {row : SyntheticEffect} {outcome : Except Failure Mapping}
    (ran : (respond env mode tenant operationKey intentDigest row).run s = (outcome, t)) :
    t.db = s.db ∧ ∀ result kind, outcome = .ok result → readKind (result.get? "kind") = .ok kind →
      kind = .foundSuccess ∨ kind = .foundFailure → row.kind = kind := by
  refine ⟨?_, ?_⟩
  · have kept : Keeps (fun ledger : Ledger => ledger) (respond env mode tenant operationKey intentDigest row) :=
      (keeps_ensure _ _).bind fun _ => (keeps_pure _).ite (keeps_pure _)
    exact kept.of_run ran
  · rintro result kind rfl read found
    simp only [respond, bind_eq_ok, ensure_eq_ok] at ran
    obtain ⟨_, _, ⟨-, rfl⟩, ran⟩ := ran
    split at ran
    · obtain ⟨rfl, rfl⟩ := (pure_eq_ok _ _ _ _).mp ran
      simp only [readKind_answer, Except.ok.injEq] at read
      subst read
      simp at found
    · obtain ⟨rfl, rfl⟩ := (pure_eq_ok _ _ _ _).mp ran
      simpa using read

theorem execute_served {outcome : Except Failure Mapping}
    (ran : (execute env mode tenant operationKey intentDigest).run s = (outcome, t)) :
    Served tenant operationKey intentDigest s.db t.db outcome := by
  rw [execute, run_bind] at ran
  rcases effected : (effect env mode tenant operationKey intentDigest).run s with ⟨why | row, middle⟩
  · simp only [effected, Prod.mk.injEq] at ran
    obtain ⟨rfl, rfl⟩ := ran
    rw [show middle.db = s.db from transaction_error_db effected]
    exact served_error _ _
  · simp only [effected] at ran
    obtain ⟨kept, reports⟩ := respond_kept ran
    obtain ⟨found, same | ⟨fresh, written⟩⟩ := effect_ok effected
    · rw [kept]
      rw [same] at found ⊢
      refine ⟨.refl _, fun other member => .inl ⟨other, member, rfl⟩, fun result kind ok read asked => ?_⟩
      exact ⟨row, found, reports result kind ok read asked⟩
    · rw [kept]
      rw [written] at found ⊢
      refine ⟨durable_put_fresh fresh, origin_put (.inr ⟨rfl, rfl⟩), fun result kind ok read asked => ?_⟩
      exact ⟨row, found, reports result kind ok read asked⟩

theorem lookup_served {authoritativeAbsence : Bool} {outcome : Except Failure Mapping}
    (ran : (lookup env mode tenant operationKey intentDigest authoritativeAbsence).run s = (outcome, t)) :
    Served tenant operationKey intentDigest s.db t.db outcome := by
  cases outcome with
  | error why =>
    rw [show t.db = s.db from transaction_error_db ran]
    exact served_error _ _
  | ok result =>
    rw [lookup, transaction_eq_ok] at ran
    simp only [bind_eq_ok, existing_eq_ok] at ran
    obtain ⟨found, middle, ⟨-, looked, -, same⟩, ran⟩ := ran
    subst middle
    -- the ledger may only have counted a hidden lookup, and a silent answer reports nothing
    have kept : ∀ kind reference authoritative, result = answer env tenant operationKey intentDigest kind reference
        authoritative → ((kind = .foundSuccess ∨ kind = .foundFailure) →
          ∃ row, s.db.get? (tenant, operationKey) = some row ∧ row.kind = kind) →
        Served tenant operationKey intentDigest s.db s.db (.ok result) := by
      rintro kind reference authoritative rfl reports
      refine ⟨.refl _, fun row member => .inl ⟨row, member, rfl⟩, fun other asked same read wanted => ?_⟩
      cases same
      simp only [readKind_answer, Except.ok.injEq] at read
      subst read
      exact reports wanted
    split at ran
    · obtain ⟨rfl, rfl⟩ := (pure_eq_ok _ _ _ _).mp ran
      exact kept _ _ _ rfl (by simp)
    · cases found with
      | none =>
        obtain ⟨rfl, rfl⟩ := (pure_eq_ok _ _ _ _).mp ran
        exact kept _ _ _ rfl (by simp)
      | some row =>
        simp only at ran
        split at ran
        · simp only [bind_eq_ok, write_eq_ok, pure_eq_ok] at ran
          obtain ⟨_, _, rfl, rfl, rfl⟩ := ran
          have named := Table.key_of_get? looked
          have bound : s.db.get? ({ row with hiddenLookups := row.hiddenLookups - 1 } : SyntheticEffect).key = some row :=
            (congrArg s.db.get? named).trans looked
          refine ⟨durable_put_same bound rfl, origin_put (.inl ⟨row, Table.mem_of_get? looked, rfl⟩), ?_⟩
          intro other asked same read wanted
          cases same
          simp only [readKind_answer, Except.ok.injEq] at read
          subst read
          simp at wanted
        · obtain ⟨rfl, rfl⟩ := (pure_eq_ok _ _ _ _).mp ran
          exact kept _ _ _ rfl fun _ => ⟨row, looked, rfl⟩

end

end AiStore.SyntheticProvider
