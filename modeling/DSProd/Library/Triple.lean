import DSProd.Library.Action

/-!
# What holds before and after an action

`Meets` is the judgement with a condition on the state an action starts from, a
condition on what it returns together with the state it leaves, and one on the
state that an error leaves.  Where `Keeps` carries one invariant through an
action, a condition here may relate a returned value to the state it is
returned in.
-/

namespace DSProd.Library.Action

variable {σ ε α β : Type} {pre pre' raised raised' : σ → Prop} {post post' : α → σ → Prop}

/-- From a state with `pre`, what is returned and the state left satisfy `post`,
and an error leaves a state with `raised`. -/
def Meets (pre : σ → Prop) (action : Action σ ε α) (post : α → σ → Prop) (raised : σ → Prop) :
    Prop :=
  ∀ state, pre state →
    (∀ value, (action state).1 = .ok value → post value (action state).2) ∧
      ∀ error, (action state).1 = .error error → raised (action state).2

theorem Meets.weaken {action : Action σ ε α} (meets : Meets pre action post raised)
    (before : ∀ state, pre' state → pre state)
    (returns : ∀ value state, post value state → post' value state)
    (raises : ∀ state, raised state → raised' state) : Meets pre' action post' raised' := by
  intro state initially
  obtain ⟨returned, failed⟩ := meets state (before state initially)
  exact ⟨fun value same => returns _ _ (returned value same),
    fun error same => raises _ (failed error same)⟩

/-- It is enough to judge an action from each state it may start from. -/
theorem meets_of_start {action : Action σ ε α}
    (each : ∀ start, pre start → Meets (fun state => state = start) action post raised) :
    Meets pre action post raised :=
  fun state initially => each state initially state rfl

/-- Two judgements about one action. -/
theorem Meets.and {action : Action σ ε α} (first : Meets pre action post raised)
    (second : Meets pre' action post' raised') :
    Meets (fun state => pre state ∧ pre' state) action
      (fun value state => post value state ∧ post' value state)
      fun state => raised state ∧ raised' state := by
  intro state ⟨initially, also⟩
  obtain ⟨returned, failed⟩ := first state initially
  obtain ⟨alsoReturned, alsoFailed⟩ := second state also
  exact ⟨fun value same => ⟨returned value same, alsoReturned value same⟩,
    fun error same => ⟨failed error same, alsoFailed error same⟩⟩

/-- What an action keeps holds before it, after it and of its errors. -/
theorem Keeps.meets {invariant : σ → Prop} {action : Action σ ε α} {returns : α → Prop}
    (keeps : Keeps invariant action returns) :
    Meets invariant action (fun value state => invariant state ∧ returns value) invariant := by
  intro state initially
  obtain ⟨kept, returned⟩ := keeps state initially
  exact ⟨fun value same => ⟨kept, returned value same⟩, fun _ _ => kept⟩

/-- An action that ends in a state with the invariant, whatever becomes of it. -/
theorem Meets.outcome {invariant : σ → Prop} {action : Action σ ε α} {good : α → σ → Prop}
    (meets : Meets invariant action (fun value state => invariant state ∧ good value state)
      invariant) {state : σ} (initially : invariant state) :
    invariant (action state).2 ∧
      ∀ value, (action state).1 = .ok value → good value (action state).2 := by
  obtain ⟨returned, failed⟩ := meets state initially
  cases outcome : (action state).1 with
  | ok value =>
      refine ⟨(returned value outcome).1, fun other same => ?_⟩
      cases same
      exact (returned value outcome).2
  | error error => exact ⟨failed error outcome, fun _ same => by cases same⟩

theorem Meets.keeps {invariant : σ → Prop} {action : Action σ ε α} {returns : α → Prop}
    (meets : Meets invariant action (fun value state => invariant state ∧ returns value)
      invariant) : Keeps invariant action returns :=
  fun _ initially => meets.outcome initially

theorem meets_pure {value : α} (holds : ∀ state, pre state → post value state) :
    Meets pre (pure value : Action σ ε α) post raised := by
  intro state initially
  refine ⟨fun other same => ?_, fun _ same => by cases same⟩
  cases same
  exact holds state initially

theorem meets_raise {error : ε} (holds : ∀ state, pre state → raised state) :
    Meets pre (raise error : Action σ ε α) post raised :=
  fun state initially => ⟨fun _ same => (by cases same), fun _ _ => holds state initially⟩

theorem meets_bind {action : Action σ ε α} {next : α → Action σ ε β} {final : β → σ → Prop}
    (first : Meets pre action post raised)
    (second : ∀ value, Meets (post value) (next value) final raised) :
    Meets pre (action >>= next) final raised := by
  intro state initially
  obtain ⟨returned, failed⟩ := first state initially
  rw [bind_apply]
  cases outcome : action state with
  | mk result after =>
      rw [outcome] at returned failed
      cases result with
      | ok value => exact second value after (returned value rfl)
      | error error => exact ⟨fun _ same => (by cases same), fun _ _ => failed error rfl⟩

theorem meets_recover {action : Action σ ε α} {handler : ε → Action σ ε α}
    (first : Meets pre action post raised)
    (second : ∀ error, Meets raised (handler error) post raised') :
    Meets pre (recover action handler) post raised' := by
  intro state initially
  obtain ⟨returned, failed⟩ := first state initially
  rw [recover]
  cases outcome : action state with
  | mk result after =>
      rw [outcome] at returned failed
      cases result with
      | ok value => exact ⟨returned, fun _ same => by cases same⟩
      | error error => exact second error after (failed error rfl)

end DSProd.Library.Action
