import Mathlib.Tactic.Common

/-!
# Actions over a mutable state that may raise

An action reads and writes a state and either returns a value or raises an
error.  Raising does not roll the state back: what was written before the raise
stays written, as in an imperative program with exceptions.

`Keeps` is the partial-correctness judgement used for invariants: the action
keeps the invariant whether it returns or raises, and a returned value meets
its postcondition.
-/

namespace DSProd.Library

universe u v w

/-- An action over states `σ` that returns an `α` or raises an `ε`. -/
def Action (σ : Type u) (ε : Type v) (α : Type w) : Type (max u v w) :=
  σ → Except ε α × σ

namespace Action

variable {σ : Type} {ε : Type} {α β : Type}

instance : Monad (Action σ ε) where
  pure value := fun state => (.ok value, state)
  bind action next := fun state =>
    match action state with
    | (.ok value, after) => next value after
    | (.error error, after) => (.error error, after)

/-- Raise an error, leaving the state as it is. -/
def raise (error : ε) : Action σ ε α := fun state => (.error error, state)

/-- Run an action and hand the error it raises to a handler. -/
def recover (action : Action σ ε α) (handler : ε → Action σ ε α) : Action σ ε α := fun state =>
  match action state with
  | (.ok value, after) => (.ok value, after)
  | (.error error, after) => handler error after

/-- Read the state through a projection. -/
def read (view : σ → α) : Action σ ε α := fun state => (.ok (view state), state)

/-- Rewrite the state. -/
def modify (change : σ → σ) : Action σ ε Unit := fun state => (.ok (), change state)

/-- Run an action on each element of a list, in order. -/
def forEach (values : List β) (body : β → Action σ ε Unit) : Action σ ε Unit :=
  match values with
  | [] => pure ()
  | value :: rest => do
      body value
      forEach rest body

theorem bind_apply (action : Action σ ε α) (next : α → Action σ ε β) (state : σ) :
    (action >>= next) state =
      match action state with
      | (.ok value, after) => next value after
      | (.error error, after) => (.error error, after) :=
  rfl

theorem bind_apply_ok {action : Action σ ε α} {next : α → Action σ ε β} {state after : σ}
    {value : α} (returned : action state = (.ok value, after)) :
    (action >>= next) state = next value after := by
  rw [bind_apply, returned]

/-- A sequence returns when its first action does and the rest does from there. -/
theorem bind_eq_ok_iff {action : Action σ ε α} {next : α → Action σ ε β} {state after : σ}
    {result : β} :
    (action >>= next) state = (.ok result, after) ↔
      ∃ value middle, action state = (.ok value, middle) ∧
        next value middle = (.ok result, after) := by
  rw [bind_apply]
  cases outcome : action state with
  | mk returned middle =>
      cases returned with
      | ok value => simp
      | error error => simp

/-- Go on with a result that is there, or raise the error that is there instead. -/
def lift (result : Except ε α) : Action σ ε α := fun state => (result, state)

theorem lift_eq_ok_iff {returned : Except ε α} {state after : σ} {value : α} :
    (lift returned : Action σ ε α) state = (.ok value, after) ↔
      returned = .ok value ∧ state = after := by
  rw [lift, Prod.mk.injEq]

theorem pure_eq_ok_iff {given value : α} {state after : σ} :
    (pure given : Action σ ε α) state = (.ok value, after) ↔ given = value ∧ state = after := by
  change ((.ok given, state) : Except ε α × σ) = (.ok value, after) ↔ _
  rw [Prod.mk.injEq, Except.ok.injEq]

theorem modify_eq_ok_iff {change : σ → σ} {state after : σ} {value : Unit} :
    (modify change : Action σ ε Unit) state = (.ok value, after) ↔ change state = after := by
  simp [modify]

/-! ## Keeping an invariant -/

/-- The action keeps `invariant`, and what it returns satisfies `post`. -/
def Keeps (invariant : σ → Prop) (action : Action σ ε α) (post : α → Prop) : Prop :=
  ∀ state, invariant state →
    invariant (action state).2 ∧ ∀ value, (action state).1 = .ok value → post value

variable {invariant : σ → Prop} {post : α → Prop}

theorem keeps_pure {value : α} (holds : post value) :
    Keeps invariant (pure value : Action σ ε α) post := by
  intro state initially
  refine ⟨initially, fun returned same => ?_⟩
  cases same
  exact holds

theorem keeps_raise {error : ε} : Keeps invariant (raise error : Action σ ε α) post := by
  intro state initially
  exact ⟨initially, fun _ same => by cases same⟩

theorem keeps_bind {action : Action σ ε α} {next : α → Action σ ε β} {final : β → Prop}
    (first : Keeps invariant action post)
    (second : ∀ value, post value → Keeps invariant (next value) final) :
    Keeps invariant (action >>= next) final := by
  intro state initially
  rcases first state initially with ⟨kept, returns⟩
  rw [bind_apply]
  cases outcome : action state with
  | mk result after =>
      rw [outcome] at kept returns
      cases result with
      | ok value => exact second value (returns value rfl) after kept
      | error error => exact ⟨kept, fun _ same => by cases same⟩

/-- A result that is there, or the error in its place, leaves the state as it is. -/
theorem keeps_lift {returned : Except ε α} :
    Keeps invariant (lift returned : Action σ ε α) fun value => returned = .ok value :=
  fun _ initially => ⟨initially, fun _ same => same⟩

theorem keeps_read {view : σ → α} :
    Keeps invariant (read view : Action σ ε α) fun _ => True :=
  fun _ initially => ⟨initially, fun _ _ => trivial⟩

theorem keeps_recover {action : Action σ ε α} {handler : ε → Action σ ε α}
    (first : Keeps invariant action post)
    (second : ∀ error, Keeps invariant (handler error) post) :
    Keeps invariant (recover action handler) post := by
  intro state initially
  rcases first state initially with ⟨kept, returns⟩
  rw [recover]
  cases outcome : action state with
  | mk result after =>
      rw [outcome] at kept returns
      cases result with
      | ok value => exact ⟨kept, returns⟩
      | error error => exact second error after kept

theorem keeps_modify {change : σ → σ}
    (keeps : ∀ state, invariant state → invariant (change state)) :
    Keeps invariant (modify change : Action σ ε Unit) fun _ => True :=
  fun state initially => ⟨keeps state initially, fun _ _ => trivial⟩

theorem keeps_forEach {values : List β} {body : β → Action σ ε Unit}
    (each : ∀ value ∈ values, Keeps invariant (body value) fun _ => True) :
    Keeps invariant (forEach values body) fun _ => True := by
  induction values with
  | nil => exact keeps_pure trivial
  | cons value rest ih =>
      exact keeps_bind (each value List.mem_cons_self) fun _ _ =>
        ih fun later member => each later (List.mem_cons_of_mem value member)

/-! ## Actions that always return -/

/-- The action never raises. -/
def Total (action : Action σ ε α) : Prop :=
  ∀ state, ∃ value after, action state = (.ok value, after)

theorem total_pure (value : α) : Total (pure value : Action σ ε α) :=
  fun state => ⟨value, state, rfl⟩

theorem total_read (view : σ → α) : Total (read view : Action σ ε α) :=
  fun state => ⟨view state, state, rfl⟩

theorem total_modify (change : σ → σ) : Total (modify change : Action σ ε Unit) :=
  fun state => ⟨(), change state, rfl⟩

theorem total_bind {action : Action σ ε α} {next : α → Action σ ε β} (first : Total action)
    (second : ∀ value, Total (next value)) : Total (action >>= next) := by
  intro state
  obtain ⟨value, middle, returned⟩ := first state
  obtain ⟨result, after, finished⟩ := second value middle
  exact ⟨result, after, (bind_apply_ok returned).trans finished⟩

theorem total_forEach {values : List β} {body : β → Action σ ε Unit}
    (each : ∀ value, Total (body value)) : Total (forEach values body) := by
  induction values with
  | nil => exact total_pure ()
  | cons value rest ih => exact total_bind (each value) fun _ => ih

end Action

end DSProd.Library
