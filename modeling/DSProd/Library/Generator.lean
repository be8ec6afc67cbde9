import DSProd.Library.Run

/-!
# Programs that wait for their dependencies

A generator acts on a state and yields dependencies.  A scheduler resumes it
past a dependency that is complete.  One that is incomplete ends the pass: the
scheduler satisfies it and executes the generator again, from the top, on the
state that is left.  What bounds the passes is therefore in the state only, as a
measure that decreases whenever a pass waits and its dependency is satisfied.
-/

namespace DSProd.Library

universe u v w

/-- A program that yields dependencies.  What follows an effect reads the state
the effect leaves. -/
inductive Generator (σ : Type u) (ε : Type v) (δ : Type w) where
  | done
  | raise (error : ε)
  | effect (update : σ → σ) (next : σ → Generator σ ε δ)
  | yield (dependency : δ) (next : Generator σ ε δ)

/-- How a pass of a generator ends. -/
inductive PassResult (ε : Type v) (δ : Type w) where
  | finished
  | raised (error : ε)
  | waits (dependency : δ)
  deriving DecidableEq

/-- A pass that was executed: the state it began in, the one it left, its result. -/
structure Pass (σ : Type u) (ε : Type v) (δ : Type w) where
  before : σ
  after : σ
  result : PassResult ε δ
  deriving DecidableEq

/-- How the passes of a generator end. -/
inductive Ending (ε : Type v) (δ : Type w) where
  | unfinished
  | finished
  | raised (error : ε)
  | dependencyFailed (dependency : δ)
  deriving DecidableEq

/-- The passes of a generator, the state they leave, and how they end. -/
structure Driven (σ : Type u) (ε : Type v) (δ : Type w) where
  passes : List (Pass σ ε δ)
  final : σ
  ending : Ending ε δ
  deriving DecidableEq

namespace Generator

variable {σ : Type u} {ε : Type v} {δ : Type w}

/-- One pass from the top: the state it leaves, and its result. -/
def pass (complete : σ → δ → Bool) : Generator σ ε δ → σ → σ × PassResult ε δ
  | done, state => (state, .finished)
  | raise error, state => (state, .raised error)
  | effect update next, state => pass complete (next (update state)) (update state)
  | yield dependency next, state =>
      if complete state dependency then pass complete next state else (state, .waits dependency)

section Pass

variable {complete : σ → δ → Bool}

@[simp]
theorem pass_done (state : σ) :
    pass complete (done : Generator σ ε δ) state = (state, .finished) :=
  rfl

@[simp]
theorem pass_raise (error : ε) (state : σ) :
    pass complete (raise error : Generator σ ε δ) state = (state, .raised error) :=
  rfl

@[simp]
theorem pass_effect (update : σ → σ) (next : σ → Generator σ ε δ) (state : σ) :
    pass complete (effect update next) state =
      pass complete (next (update state)) (update state) :=
  rfl

theorem pass_yield_of_complete {dependency : δ} {state : σ}
    (isComplete : complete state dependency = true) (next : Generator σ ε δ) :
    pass complete (yield dependency next) state = pass complete next state :=
  if_pos isComplete

theorem pass_yield_of_incomplete {dependency : δ} {state : σ}
    (incomplete : complete state dependency = false) (next : Generator σ ε δ) :
    pass complete (yield dependency next) state = (state, .waits dependency) := by
  simp [pass, incomplete]

/-- A pass waits for incomplete dependencies only. -/
theorem incomplete_of_waits {program : Generator σ ε δ} {state after : σ} {dependency : δ}
    (waits : program.pass complete state = (after, .waits dependency)) :
    complete after dependency = false := by
  induction program generalizing state with
  | done => cases waits
  | raise error => cases waits
  | effect update next ih => exact ih _ waits
  | yield other next ih =>
      cases known : complete state other with
      | true => exact ih ((pass_yield_of_complete known next).symm.trans waits)
      | false =>
          have same := (pass_yield_of_incomplete known next).symm.trans waits
          cases same
          exact known

end Pass

/-- A generator under a scheduler, for a number of passes at most. -/
def drive (complete : σ → δ → Bool) (satisfy : σ → δ → Option σ) (program : Generator σ ε δ) :
    Nat → σ → Driven σ ε δ
  | 0, state => ⟨[], state, .unfinished⟩
  | fuel + 1, state =>
      let attempt := program.pass complete state
      let record := ⟨state, attempt.1, attempt.2⟩
      match attempt.2 with
      | .finished => ⟨[record], attempt.1, .finished⟩
      | .raised error => ⟨[record], attempt.1, .raised error⟩
      | .waits dependency =>
          match satisfy attempt.1 dependency with
          | none => ⟨[record], attempt.1, .dependencyFailed dependency⟩
          | some next =>
              let rest := drive complete satisfy program fuel next
              { rest with passes := record :: rest.passes }

section Drive

variable {complete : σ → δ → Bool} {satisfy : σ → δ → Option σ} {program : Generator σ ε δ}

/-- A pass after which the generator is executed again: it waited, and its
dependency was satisfied. -/
def Resumes (complete : σ → δ → Bool) (satisfy : σ → δ → Option σ) (program : Generator σ ε δ)
    (before after next : σ) (dependency : δ) : Prop :=
  program.pass complete before = (after, .waits dependency) ∧ satisfy after dependency = some next

variable (complete satisfy program) in
/-- What can follow one pass of a driven generator. -/
theorem drive_succ_cases (fuel : Nat) (state : σ) :
    let driven := drive complete satisfy program (fuel + 1) state
    let record : Pass σ ε δ :=
      ⟨state, (program.pass complete state).1, (program.pass complete state).2⟩
    (driven = ⟨[record], record.after, .finished⟩ ∧ record.result = .finished) ∨
      (∃ error, driven = ⟨[record], record.after, .raised error⟩ ∧
        record.result = .raised error) ∨
      (∃ dependency, driven = ⟨[record], record.after, .dependencyFailed dependency⟩ ∧
        record.result = .waits dependency ∧ satisfy record.after dependency = none) ∨
      ∃ dependency next,
        Resumes complete satisfy program state (program.pass complete state).1 next dependency ∧
        record.result = .waits dependency ∧
        driven = { drive complete satisfy program fuel next with
          passes := record :: (drive complete satisfy program fuel next).passes } := by
  intro driven record
  cases result : (program.pass complete state).2 with
  | finished =>
      refine Or.inl ⟨?_, result⟩
      simp [driven, record, drive, result]
  | raised error =>
      refine Or.inr (Or.inl ⟨error, ?_, result⟩)
      simp [driven, record, drive, result]
  | waits dependency =>
      cases satisfied : satisfy (program.pass complete state).1 dependency with
      | none =>
          refine Or.inr (Or.inr (Or.inl ⟨dependency, ?_, result, satisfied⟩))
          simp [driven, record, drive, result, satisfied]
      | some next =>
          refine Or.inr (Or.inr (Or.inr ⟨dependency, next, ⟨?_, satisfied⟩, result, ?_⟩))
          · rw [← result]
          · simp [driven, record, drive, result, satisfied]

/-- Every pass of a driven generator is one from the top. -/
theorem pass_of_mem_passes {fuel : Nat} {start : σ} {executed : Pass σ ε δ}
    (member : executed ∈ (drive complete satisfy program fuel start).passes) :
    program.pass complete executed.before = (executed.after, executed.result) := by
  induction fuel generalizing start with
  | zero => cases member
  | succ fuel ih =>
      rcases drive_succ_cases complete satisfy program fuel start with
        ⟨driven, _⟩ | ⟨error, driven, _⟩ | ⟨dependency, driven, _, _⟩ |
        ⟨dependency, next, _, _, driven⟩
      all_goals rw [driven] at member
      · rw [List.mem_singleton.mp member]
      · rw [List.mem_singleton.mp member]
      · rw [List.mem_singleton.mp member]
      · rcases List.mem_cons.mp member with now | later
        · rw [now]
        · exact ih later

/-- A driven generator that finished did so in a pass from the top. -/
theorem pass_of_finished {fuel : Nat} {start : σ}
    (finished : (drive complete satisfy program fuel start).ending = .finished) :
    ∃ before, program.pass complete before =
      ((drive complete satisfy program fuel start).final, .finished) := by
  induction fuel generalizing start with
  | zero => cases finished
  | succ fuel ih =>
      rcases drive_succ_cases complete satisfy program fuel start with
        ⟨driven, result⟩ | ⟨error, driven, _⟩ | ⟨dependency, driven, _, _⟩ |
        ⟨dependency, next, _, _, driven⟩
      all_goals rw [driven] at finished ⊢
      · exact ⟨start, Prod.ext rfl result⟩
      · cases finished
      · cases finished
      · exact ih finished

/-- A driven generator that ends with a dependency ends with one that could not
be satisfied. -/
theorem unsatisfied_of_dependencyFailed {fuel : Nat} {start : σ} {dependency : δ}
    (failed : (drive complete satisfy program fuel start).ending = .dependencyFailed dependency) :
    satisfy (drive complete satisfy program fuel start).final dependency = none := by
  induction fuel generalizing start with
  | zero => cases failed
  | succ fuel ih =>
      rcases drive_succ_cases complete satisfy program fuel start with
        ⟨driven, _⟩ | ⟨error, driven, _⟩ | ⟨other, driven, _, unsatisfied⟩ |
        ⟨other, next, _, _, driven⟩
      all_goals rw [driven] at failed ⊢
      · cases failed
      · cases failed
      · cases failed
        exact unsatisfied
      · exact ih failed

/-- A measure that decreases whenever the generator is executed again bounds its passes. -/
theorem ends_of_measure (measure : σ → Nat)
    (decreases : ∀ before after next dependency,
      Resumes complete satisfy program before after next dependency →
        measure next < measure before)
    {fuel : Nat} {start : σ} (enough : measure start < fuel) :
    (drive complete satisfy program fuel start).ending ≠ .unfinished := by
  induction fuel generalizing start with
  | zero => exact absurd enough (Nat.not_lt_zero _)
  | succ fuel ih =>
      rcases drive_succ_cases complete satisfy program fuel start with
        ⟨driven, _⟩ | ⟨error, driven, _⟩ | ⟨dependency, driven, _, _⟩ |
        ⟨dependency, next, resumes, _, driven⟩
      all_goals rw [driven]
      · exact fun unfinished => by cases unfinished
      · exact fun unfinished => by cases unfinished
      · exact fun unfinished => by cases unfinished
      · have less := decreases start _ next dependency resumes
        exact ih (by omega)

/-- A credit that pays for each pass of a kind, and is not regained, bounds the
passes of that kind. -/
theorem countP_passes_le (counts : Pass σ ε δ → Bool) (credit : σ → Nat)
    (pays : ∀ before after result, program.pass complete before = (after, result) →
      counts ⟨before, after, result⟩ → 0 < credit before)
    (spends : ∀ before after next dependency,
      Resumes complete satisfy program before after next dependency →
        credit next + (if counts ⟨before, after, .waits dependency⟩ then 1 else 0) ≤
          credit before)
    (fuel : Nat) (start : σ) :
    (drive complete satisfy program fuel start).passes.countP counts ≤ credit start := by
  induction fuel generalizing start with
  | zero => exact Nat.zero_le _
  | succ fuel ih =>
      have first : (if counts ⟨start, (program.pass complete start).1,
          (program.pass complete start).2⟩ then 1 else 0) ≤ credit start := by
        split
        · exact pays start _ _ rfl (by assumption)
        · exact Nat.zero_le _
      rcases drive_succ_cases complete satisfy program fuel start with
        ⟨driven, _⟩ | ⟨error, driven, _⟩ | ⟨dependency, driven, _, _⟩ |
        ⟨dependency, next, resumes, result, driven⟩
      all_goals rw [driven]
      · simpa [List.countP_cons] using first
      · simpa [List.countP_cons] using first
      · simpa [List.countP_cons] using first
      · have later := ih next
        have spent := spends start _ next dependency resumes
        have waits : (program.pass complete start).2 = .waits dependency := result
        rw [List.countP_cons, waits]
        omega

end Drive

end Generator

end DSProd.Library
