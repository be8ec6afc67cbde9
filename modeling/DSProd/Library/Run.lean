import Mathlib.Data.List.Basic
import Mathlib.Tactic.Common

/-!
# Runs of a deterministic machine

A machine is a function from a state and an input to the next state, and a run
is its iteration over a list of inputs.  A property of *every step* of a run
relates the state before the step to the input it consumes; this module gives
the induction rules for such properties.

The rule used most is `along_iff_of_invariant`: when an invariant makes a step
meet its specification exactly under a condition, a whole run meets its
specification exactly when all of its steps meet the condition.
-/

namespace DSProd.Library

universe u v

variable {σ : Type u} {ι : Type v}

/-- The state a list of inputs leads to. -/
def run (step : σ → ι → σ) (start : σ) (inputs : List ι) : σ :=
  inputs.foldl step start

@[simp]
theorem run_nil (step : σ → ι → σ) (start : σ) : run step start [] = start :=
  rfl

@[simp]
theorem run_cons (step : σ → ι → σ) (start : σ) (input : ι) (rest : List ι) :
    run step start (input :: rest) = run step (step start input) rest :=
  rfl

theorem run_append (step : σ → ι → σ) (start : σ) (first second : List ι) :
    run step start (first ++ second) = run step (run step start first) second :=
  List.foldl_append

theorem run_concat (step : σ → ι → σ) (start : σ) (inputs : List ι) (input : ι) :
    run step start (inputs ++ [input]) = step (run step start inputs) input := by
  rw [run_append, run_cons, run_nil]

/-- A property of a state and of the inputs still to come, kept as each of them
is consumed, holds of the final state with none to come. -/
theorem run_of_remaining {step : σ → ι → σ} (holds : List ι → σ → Prop)
    (keeps : ∀ input rest state, holds (input :: rest) state → holds rest (step state input))
    {start : σ} {inputs : List ι} (initially : holds inputs start) :
    holds [] (run step start inputs) := by
  induction inputs generalizing start with
  | nil => exact initially
  | cons input rest ih => exact ih (keeps input rest start initially)

/-- A property of every step of a run: of the state before it and its input. -/
def Along (step : σ → ι → σ) (property : σ → ι → Prop) : σ → List ι → Prop
  | _, [] => True
  | state, input :: rest => property state input ∧ Along step property (step state input) rest

@[simp]
theorem along_nil (step : σ → ι → σ) (property : σ → ι → Prop) (state : σ) :
    Along step property state [] :=
  trivial

@[simp]
theorem along_cons (step : σ → ι → σ) (property : σ → ι → Prop) (state : σ) (input : ι)
    (rest : List ι) :
    Along step property state (input :: rest) ↔
      property state input ∧ Along step property (step state input) rest :=
  Iff.rfl

instance decidableAlong (step : σ → ι → σ) (property : σ → ι → Prop)
    [∀ state input, Decidable (property state input)] :
    (start : σ) → (inputs : List ι) → Decidable (Along step property start inputs)
  | _, [] => isTrue trivial
  | start, input :: rest =>
      have := decidableAlong step property (step start input) rest
      inferInstanceAs (Decidable (property start input ∧ _))

/-- A property along a run, spelled out at every cut of its input list. -/
theorem along_iff_forall_cut {step : σ → ι → σ} {property : σ → ι → Prop} {start : σ}
    {inputs : List ι} :
    Along step property start inputs ↔
      ∀ before input after, inputs = before ++ input :: after →
        property (run step start before) input := by
  induction inputs generalizing start with
  | nil => simp
  | cons head tail ih =>
      rw [along_cons, ih]
      constructor
      · rintro ⟨first, rest⟩ before input after cut
        cases before with
        | nil =>
            cases cut
            exact first
        | cons _ before =>
            cases cut
            exact rest before input after rfl
      · intro everywhere
        refine ⟨everywhere [] head tail rfl, fun before input after cut => ?_⟩
        exact everywhere (head :: before) input after (by rw [cut, List.cons_append])

/-- Two properties of a step that are the same are the same along a run. -/
theorem along_congr {step : σ → ι → σ} {first second : σ → ι → Prop}
    (same : ∀ state input, first state input ↔ second state input) {start : σ}
    {inputs : List ι} : Along step first start inputs ↔ Along step second start inputs := by
  induction inputs generalizing start with
  | nil => exact Iff.rfl
  | cons head tail ih => rw [along_cons, along_cons, same, ih]

theorem along_append {step : σ → ι → σ} {property : σ → ι → Prop} {start : σ}
    {first second : List ι} :
    Along step property start (first ++ second) ↔
      Along step property start first ∧ Along step property (run step start first) second := by
  induction first generalizing start with
  | nil => simp
  | cons head tail ih => simp [ih, and_assoc]

section Emitted

variable {ω : Type*} {step : σ → ι → σ} {emits : σ → ι → List ω}

/-- What the steps of a run emit, in order. -/
def emitted (step : σ → ι → σ) (emits : σ → ι → List ω) : σ → List ι → List ω
  | _, [] => []
  | state, input :: rest => emits state input ++ emitted step emits (step state input) rest

@[simp]
theorem emitted_nil (state : σ) : emitted step emits state [] = [] :=
  rfl

@[simp]
theorem emitted_cons (state : σ) (input : ι) (rest : List ι) :
    emitted step emits state (input :: rest) =
      emits state input ++ emitted step emits (step state input) rest :=
  rfl

theorem emitted_append (state : σ) (first second : List ι) :
    emitted step emits state (first ++ second) =
      emitted step emits state first ++ emitted step emits (run step state first) second := by
  induction first generalizing state with
  | nil => rfl
  | cons head tail ih => simp [ih]

/-- What a run emits is emitted by one of its steps. -/
theorem mem_emitted_iff {start : σ} {inputs : List ι} {value : ω} :
    value ∈ emitted step emits start inputs ↔
      ∃ before input after, inputs = before ++ input :: after ∧
        value ∈ emits (run step start before) input := by
  induction inputs generalizing start with
  | nil => simp
  | cons head tail ih =>
      rw [emitted_cons, List.mem_append, ih]
      constructor
      · rintro (now | ⟨before, input, after, rfl, later⟩)
        · exact ⟨[], head, tail, rfl, now⟩
        · exact ⟨head :: before, input, after, rfl, later⟩
      · rintro ⟨before, input, after, cut, member⟩
        cases before with
        | nil =>
            cases cut
            exact Or.inl member
        | cons _ before =>
            cases cut
            exact Or.inr ⟨before, input, after, rfl, member⟩

/-- An invariant of the state and of what has been emitted so far. -/
theorem invariant_run_emitted {invariant : σ → List ω → Prop}
    (keeps : ∀ state log input, invariant state log →
      invariant (step state input) (log ++ emits state input))
    {start : σ} {log : List ω} (initially : invariant start log) (inputs : List ι) :
    invariant (run step start inputs) (log ++ emitted step emits start inputs) := by
  induction inputs generalizing start log with
  | nil => simpa using initially
  | cons head tail ih =>
      rw [run_cons, emitted_cons, ← List.append_assoc]
      exact ih (keeps start log head initially)

/-- An invariant of that kind that the allowed steps keep. -/
theorem invariant_emitted_of_along {allowed : σ → ι → Prop} {invariant : σ → List ω → Prop}
    (keeps : ∀ state log input, invariant state log → allowed state input →
      invariant (step state input) (log ++ emits state input))
    {start : σ} {log : List ω} (initially : invariant start log) {inputs : List ι}
    (along : Along step allowed start inputs) :
    invariant (run step start inputs) (log ++ emitted step emits start inputs) := by
  induction inputs generalizing start log with
  | nil => simpa using initially
  | cons head tail ih =>
      rw [run_cons, emitted_cons, ← List.append_assoc]
      exact ih (keeps start log head initially along.1) along.2

end Emitted

section Invariant

variable {step : σ → ι → σ} {condition property : σ → ι → Prop} {invariant : σ → Prop}

/-- An invariant kept by every step holds after every run. -/
theorem invariant_run_of_forall
    (keeps : ∀ state input, invariant state → invariant (step state input))
    {start : σ} (initially : invariant start) (inputs : List ι) :
    invariant (run step start inputs) := by
  induction inputs generalizing start with
  | nil => exact initially
  | cons head tail ih => exact ih (keeps start head initially)

/-- An invariant kept by the allowed steps holds after a run of them. -/
theorem invariant_run_of_along {allowed : σ → ι → Prop}
    (keeps : ∀ state input, invariant state → allowed state input → invariant (step state input))
    {start : σ} (initially : invariant start) {inputs : List ι}
    (along : Along step allowed start inputs) : invariant (run step start inputs) := by
  induction inputs generalizing start with
  | nil => exact initially
  | cons head tail ih => exact ih (keeps start head initially along.1) along.2

/-- An invariant kept by the allowed inputs holds after a run over them. -/
theorem invariant_run_of_mem {allowed : ι → Prop}
    (keeps : ∀ state input, invariant state → allowed input → invariant (step state input))
    {start : σ} (initially : invariant start) {inputs : List ι}
    (inputsAllowed : ∀ input ∈ inputs, allowed input) : invariant (run step start inputs) := by
  induction inputs generalizing start with
  | nil => exact initially
  | cons head tail ih =>
      apply ih (keeps start head initially (inputsAllowed head List.mem_cons_self))
      exact fun input member => inputsAllowed input (List.mem_cons_of_mem head member)

/-- When an invariant makes an allowed input meet its specification exactly
under a condition, and is kept by the steps that meet the condition, a run of
allowed inputs meets the specification exactly when its steps all meet the
condition. -/
theorem along_iff_of_invariant {allowed : ι → Prop}
    (exact : ∀ state input, invariant state → allowed input →
      (property state input ↔ condition state input))
    (keeps : ∀ state input, invariant state → allowed input → condition state input →
      invariant (step state input))
    {start : σ} {inputs : List ι} (initially : invariant start)
    (inputsAllowed : ∀ input ∈ inputs, allowed input) :
    Along step property start inputs ↔ Along step condition start inputs := by
  induction inputs generalizing start with
  | nil => simp
  | cons head tail ih =>
      have headAllowed : allowed head := inputsAllowed head List.mem_cons_self
      have tailAllowed : ∀ input ∈ tail, allowed input := fun input member =>
        inputsAllowed input (List.mem_cons_of_mem head member)
      rw [along_cons, along_cons, exact start head initially headAllowed]
      apply and_congr_right
      intro meets
      exact ih (keeps start head initially headAllowed meets) tailAllowed

end Invariant

end DSProd.Library
