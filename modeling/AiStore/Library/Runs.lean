import Mathlib.Data.List.Basic

/-! Runs of a machine with inputs and outputs.

A run is a list of inputs; nothing is said about which inputs come when, so a
statement about every run is one about every interleaving of its callers.
-/

set_option autoImplicit false

namespace AiStore.Library

variable {σ ι ο : Type}

/-- The state behind a run. -/
def final (step : ι → σ → ο × σ) (start : σ) (inputs : List ι) : σ :=
  inputs.foldl (fun state input => (step input state).2) start

/-- What each input of a run returned. -/
def trace (step : ι → σ → ο × σ) : σ → List ι → List (ι × ο)
  | _, [] => []
  | state, input :: rest => (input, (step input state).1) :: trace step (step input state).2 rest

/-- The step of a call that leaves the state alone when it raises. -/
def attempt {ε ρ : Type} (state : σ) : Except ε (ρ × σ) → Except ε ρ × σ
  | .ok (result, after) => (.ok result, after)
  | .error why => (.error why, state)

@[simp] theorem attempt_ok {ε ρ : Type} (state after : σ) (result : ρ) :
    attempt state (.ok (result, after) : Except ε (ρ × σ)) = (.ok result, after) := rfl

@[simp] theorem attempt_error {ε ρ : Type} (state : σ) (why : ε) :
    attempt state (.error why : Except ε (ρ × σ)) = (.error why, state) := rfl

section

variable (step : ι → σ → ο × σ) (start : σ)

@[simp] theorem final_nil : final step start [] = start := rfl

@[simp] theorem final_cons (input : ι) (rest : List ι) :
    final step start (input :: rest) = final step (step input start).2 rest := rfl

theorem final_append (before after : List ι) :
    final step start (before ++ after) = final step (final step start before) after :=
  List.foldl_append

@[simp] theorem final_concat (before : List ι) (input : ι) :
    final step start (before ++ [input]) = (step input (final step start before)).2 := by
  simp [final_append]

theorem trace_append (before after : List ι) :
    trace step start (before ++ after) = trace step start before ++ trace step (final step start before) after := by
  induction before generalizing start with
  | nil => rfl
  | cons input rest ih => simp [trace, ih]

theorem trace_inputs (inputs : List ι) : (trace step start inputs).map Prod.fst = inputs := by
  induction inputs generalizing start with
  | nil => rfl
  | cons input rest ih => simp [trace, ih]

@[simp] theorem trace_concat (before : List ι) (input : ι) :
    trace step start (before ++ [input]) =
      trace step start before ++ [(input, (step input (final step start before)).1)] :=
  trace_append step start before [input]

end

variable {step : ι → σ → ο × σ} {start : σ}

/-- What holds of no inputs, and with each input that comes next, holds of all of them. -/
theorem run_induction (holds : List ι → Prop) {inputs : List ι} (none_yet : holds [])
    (next : ∀ before input after, inputs = before ++ input :: after → holds before → holds (before ++ [input])) :
    holds inputs := by
  induction inputs generalizing holds with
  | nil => exact none_yet
  | cons input rest ih =>
    -- the inputs that came first move into the property
    refine ih (fun inputs => holds (input :: inputs)) (next [] input rest rfl none_yet) ?_
    intro before later after split
    exact next (input :: before) later after (congrArg (input :: ·) split)

theorem final_split (step : ι → σ → ο × σ) (start : σ) (before : List ι) (input : ι) (after : List ι) :
    final step start (before ++ input :: after) = final step (final step start (before ++ [input])) after := by
  rw [List.append_cons, final_append]

/-- What holds at the start and survives each admitted input holds behind every run of them. -/
theorem final_invariant (invariant : σ → Prop) {inputs : List ι} (holds : invariant start)
    (preserved : ∀ input ∈ inputs, ∀ state, invariant state → invariant (step input state).2) :
    invariant (final step start inputs) := by
  induction inputs generalizing start with
  | nil => exact holds
  | cons input rest ih =>
    refine ih (preserved input List.mem_cons_self start holds) fun later member => ?_
    exact preserved later (List.mem_cons_of_mem _ member)

/-- A reflexive and transitive relation that each admitted step satisfies relates the ends of a run. -/
theorem final_relates (relation : σ → σ → Prop) {inputs : List ι} (refl : ∀ state, relation state state)
    (compose : ∀ first second third, relation first second → relation second third → relation first third)
    (stepped : ∀ input ∈ inputs, ∀ state, relation state (step input state).2) :
    relation start (final step start inputs) := by
  induction inputs generalizing start with
  | nil => exact refl start
  | cons input rest ih =>
    refine compose _ _ _ (stepped input List.mem_cons_self start) (ih fun later member => ?_)
    exact stepped later (List.mem_cons_of_mem _ member)

/-- Where a run turns a condition on, some first input of it does. -/
theorem exists_crossing (holds : σ → Prop) [DecidablePred holds] {inputs : List ι}
    (off : ¬ holds start) (on : holds (final step start inputs)) :
    ∃ before input after, inputs = before ++ input :: after ∧
      ¬ holds (final step start before) ∧ holds (step input (final step start before)).2 := by
  induction inputs generalizing start with
  | nil => exact absurd on off
  | cons input rest ih =>
    by_cases now : holds (step input start).2
    · exact ⟨[], input, rest, rfl, off, now⟩
    · obtain ⟨before, later, after, rfl, start_off, turned⟩ := ih now on
      exact ⟨input :: before, later, after, rfl, start_off, turned⟩

end AiStore.Library
