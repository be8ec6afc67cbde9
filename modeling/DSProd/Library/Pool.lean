import DSProd.Library.Run

/-!
# Workers over a shared state

A pool is a shared state and the workers that act on it.  Workers join at any
time, take their steps in any order, and can be lost between any two of them.
A worker's step may depend on an input that nothing else determines.

`Discipline` is the rely-guarantee method for such pools: a worker relies on an
assertion about the shared state that no step of any worker falsifies, because
every step guarantees a relation the assertions are stable under.
-/

namespace DSProd.Library

universe u v w x

/-- A shared state and the workers that act on it. -/
structure Pool (σ : Type u) (κ : Type v) where
  shared : σ
  workers : List κ
  deriving DecidableEq

/-- What can happen to a pool: a request for a worker, a step of one of them,
or the loss of one. -/
inductive PoolEvent (β : Type w) (ε : Type x) where
  | spawn (request : β)
  | advance (index : Nat) (input : ε)
  | crash (index : Nat)

namespace Pool

variable {σ : Type u} {κ : Type v} {β : Type w} {ε : Type x}

/-- The workers when the one at an index goes on or ends. -/
def replace (workers : List κ) (index : Nat) : Option κ → List κ
  | some next => workers.set index next
  | none => workers.eraseIdx index

/-- One event of a pool. -/
def step (begins : β → Option κ) (advance : σ → κ → ε → σ × Option κ) (pool : Pool σ κ) :
    PoolEvent β ε → Pool σ κ
  | .spawn request => { pool with workers := pool.workers ++ (begins request).toList }
  | .advance index input =>
      match pool.workers[index]? with
      | none => pool
      | some worker =>
          let moved := advance pool.shared worker input
          ⟨moved.1, replace pool.workers index moved.2⟩
  | .crash index => { pool with workers := pool.workers.eraseIdx index }

/-- After a step of a worker, the workers are the old ones and what it became. -/
theorem mem_replace {workers : List κ} {index : Nat} {outcome : Option κ} {worker : κ}
    (member : worker ∈ replace workers index outcome) :
    worker ∈ workers ∨ outcome = some worker := by
  cases outcome with
  | none => exact Or.inl (List.mem_of_mem_eraseIdx member)
  | some next =>
      rcases List.mem_or_eq_of_mem_set member with old | same
      · exact Or.inl old
      · exact Or.inr (congrArg some same.symm)

end Pool

/-- A rely-guarantee discipline: `holds` is what a worker relies on, `guarantee`
what each step ensures, and `invariant` what is true of the shared state
between steps. -/
structure Discipline {σ : Type u} {κ : Type v} {β : Type w} {ε : Type x}
    (begins : β → Option κ) (advance : σ → κ → ε → σ × Option κ) where
  invariant : σ → Prop
  holds : σ → κ → Prop
  guarantee : σ → σ → Prop
  refl : ∀ shared, guarantee shared shared
  stable : ∀ shared later worker, guarantee shared later → holds shared worker → holds later worker
  atStart : ∀ shared request worker, begins request = some worker → holds shared worker
  kept : ∀ shared worker input, invariant shared → holds shared worker →
    invariant (advance shared worker input).1
  guaranteed : ∀ shared worker input, invariant shared → holds shared worker →
    guarantee shared (advance shared worker input).1
  goesOn : ∀ shared worker input next, invariant shared → holds shared worker →
    (advance shared worker input).2 = some next → holds (advance shared worker input).1 next

namespace Discipline

variable {σ : Type u} {κ : Type v} {β : Type w} {ε : Type x} {begins : β → Option κ}
  {advance : σ → κ → ε → σ × Option κ} (discipline : Discipline begins advance)

/-- The invariant holds, and every worker can rely on its assertion. -/
structure Sound (pool : Pool σ κ) : Prop where
  invariant : discipline.invariant pool.shared
  holds : ∀ worker ∈ pool.workers, discipline.holds pool.shared worker

variable {discipline} {pool : Pool σ κ}

/-- One event of a pool. -/
theorem sound_step (sound : discipline.Sound pool) (event : PoolEvent β ε) :
    discipline.Sound (pool.step begins advance event) ∧
      discipline.guarantee pool.shared (pool.step begins advance event).shared := by
  cases event with
  | spawn request =>
      constructor
      · refine ⟨sound.invariant, fun worker member => ?_⟩
        rcases List.mem_append.mp member with old | new
        · exact sound.holds worker old
        · exact discipline.atStart pool.shared request worker (Option.mem_toList.mp new)
      · exact discipline.refl pool.shared
  | crash index =>
      constructor
      · exact ⟨sound.invariant, fun worker member =>
          sound.holds worker (List.mem_of_mem_eraseIdx member)⟩
      · exact discipline.refl pool.shared
  | advance index input =>
      cases present : pool.workers[index]? with
      | none =>
          simp only [Pool.step, present]
          exact ⟨sound, discipline.refl pool.shared⟩
      | some worker =>
          have relied := sound.holds worker (List.mem_of_getElem? present)
          have guaranteed := discipline.guaranteed pool.shared worker input sound.invariant relied
          simp only [Pool.step, present]
          constructor
          · refine ⟨discipline.kept pool.shared worker input sound.invariant relied, ?_⟩
            intro other member
            rcases Pool.mem_replace member with old | next
            · exact discipline.stable _ _ other guaranteed (sound.holds other old)
            · exact discipline.goesOn pool.shared worker input other sound.invariant relied next
          · exact guaranteed

/-- A pool that is sound stays so, whatever happens to it. -/
theorem sound_run (sound : discipline.Sound pool) (events : List (PoolEvent β ε)) :
    discipline.Sound (run (Pool.step begins advance) pool events) := by
  have keeps : ∀ state event, discipline.Sound state →
      discipline.Sound (Pool.step begins advance state event) :=
    fun _ event holds => (sound_step holds event).1
  exact invariant_run_of_forall keeps sound events

/-- Every event of a run that begins soundly ensures the guarantee. -/
theorem guarantee_step (sound : discipline.Sound pool) (events : List (PoolEvent β ε))
    (event : PoolEvent β ε) :
    discipline.guarantee (run (Pool.step begins advance) pool events).shared
      (Pool.step begins advance (run (Pool.step begins advance) pool events) event).shared :=
  (sound_step (sound_run sound events) event).2

end Discipline

end DSProd.Library
