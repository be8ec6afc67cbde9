import DSProd.Crab.Conservation
import Mathlib.Tactic.Linarith

/-!
# The wave gate

The gate of `submit` holds jobs back until a CRAB task is worth creating.  What
is held back has to come out again: with nothing active and no retry offered
nothing else will ever change, so the gate must be open then.

It is whenever the size of a wave is a number: the wave asks for at most
`n_parallel` jobs, and a backlog either reaches that or can no longer reach it.
A `nan` passes the clamping of `refill_fraction`, and no comparison with it
holds, so only the timer of the parked retries opens the gate.
-/

namespace DSProd.Crab

open DSProd.Library
open DSProd.Watchdog (JobNum Branch)

variable {settings : Settings} {round : Round} {retryJobs : Dict JobNum (List Branch)}
  {proxy : Proxy}

/-- The gate as `submit` consults it. -/
def waveGate (settings : Settings) (round : Round) (retryJobs : Dict JobNum (List Branch))
    (proxy : Proxy) : Except String Bool :=
  let clocked := updateRetryReleaseClock round.now false proxy
  shouldSubmitCrabGroup settings round clocked clocked.jobData.unsubmittedJobs.size retryJobs.size

/-- The round releases jobs: law's tree is readable, and the gate is open. -/
def Releases (settings : Settings) (round : Round) (retryJobs : Dict JobNum (List Branch))
    (proxy : Proxy) : Prop :=
  round.treeReadable = true ∧ waveGate settings round retryJobs proxy = .ok true

instance (settings : Settings) (round : Round) (retryJobs : Dict JobNum (List Branch))
    (proxy : Proxy) : Decidable (Releases settings round retryJobs proxy) :=
  inferInstanceAs (Decidable (_ ∧ _))

/-- A production that waits for nothing is not held back: a closed gate leaves
jobs active or retries offered, and without either the gate is open and law
submits the backlog, all of it or as much as fits. -/
structure NeverDeadlocks (settings : Settings) (round : Round)
    (retryJobs : Dict JobNum (List Branch)) (proxy : Proxy) : Prop where
  closed : waveGate settings round retryJobs proxy = .ok false →
    0 < round.nActive ∨ 0 < retryJobs.size
  opens : round.nActive = 0 → retryJobs.size = 0 →
    waveGate settings round retryJobs proxy = .ok true
  goesOut : round.nActive = 0 → retryJobs.size = 0 → round.treeReadable = true →
    ∀ existing, ∃ after submitted,
      submit settings existing round retryJobs proxy = .ok (after, submitted) ∧
      (after.jobData.unsubmittedJobs.items = [] ∨ round.nParallel ≤ submitted.size)

/-! ## What law submits -/

/-- Either the slots are full, or nothing but the jobs still to come waits. -/
def Filling (round : Round) (pending : List (JobNum × List Branch)) (hand : Hand) : Prop :=
  round.nParallel ≤ round.nActive + hand.held.size ∨
    ∀ jobNum ∈ hand.proxy.jobData.unsubmittedJobs.keys, jobNum ∈ pending.map Prod.fst

/-- A job of the backlog leaves it, unless the slots are full. -/
theorem filling_takeBacklog {existing : Finset Branch} {item : JobNum × List Branch}
    {pending : List (JobNum × List Branch)} {hand : Hand}
    (filling : Filling round (item :: pending) hand) :
    Filling round pending (takeBacklog existing round hand item) := by
  have popped : (∀ jobNum ∈ hand.proxy.jobData.unsubmittedJobs.keys,
        jobNum ∈ (item :: pending).map Prod.fst) →
      ∀ jobNum ∈ ((canSkipJob existing hand.proxy item.1 item.2).2.jobData.unsubmittedJobs.pop
        item.1).keys, jobNum ∈ pending.map Prod.fst := by
    intro waiting jobNum member
    rw [unsubmittedJobs_canSkipJob, Dict.mem_keys_pop] at member
    have among := waiting jobNum member.2
    rw [List.map_cons, List.mem_cons] at among
    exact among.resolve_left member.1
  rw [takeBacklog]
  by_cases skipped : (canSkipJob existing hand.proxy item.1 item.2).1 = true
  · rw [if_pos skipped]
    exact filling.imp_right popped
  rw [if_neg skipped]
  by_cases full : round.nParallel ≤ round.nActive + hand.held.size
  · rw [if_pos full]
    exact Or.inl full
  · rw [if_neg full]
    exact Or.inr (popped (filling.resolve_left full))

/-- After law's `submit` the backlog is empty or the slots are full. -/
theorem filling_lawTake (existing : Finset Branch) (round : Round)
    (retryJobs : Dict JobNum (List Branch)) (proxy : Proxy) :
    Filling round [] (lawTake existing round retryJobs proxy) := by
  apply run_of_remaining (Filling round)
  · exact fun _ _ _ filling => filling_takeBacklog filling
  · exact Or.inr fun _ member => member

/-- With an open gate, nothing active and no retry offered, the backlog goes out. -/
theorem goesOut_of_open (opened : waveGate settings round retryJobs proxy = .ok true)
    (idle : round.nActive = 0) (noRetry : retryJobs.size = 0) (readable : round.treeReadable = true)
    (existing : Finset Branch) :
    ∃ after submitted, submit settings existing round retryJobs proxy = .ok (after, submitted) ∧
      (after.jobData.unsubmittedJobs.items = [] ∨ round.nParallel ≤ submitted.size) := by
  have noKeys : retryJobs.keys = [] := by
    rw [← List.length_eq_zero_iff, Dict.length_keys, noRetry]
  let clocked := updateRetryReleaseClock round.now false proxy
  let taken := lawTake existing round retryJobs clocked
  apply Exists.intro (updateRetryReleaseClock round.now true
    (lawSubmit existing round retryJobs clocked).1)
  apply Exists.intro taken.held
  constructor
  · rw [waveGate] at opened
    simp only [submit, stopOnMassInitialRetry, noKeys, true_or, if_true, readable, Bool.not_true,
      Bool.false_eq_true, if_false, opened, bind, Except.bind]
    rfl
  · rw [jobData_updateRetryReleaseClock]
    rcases filling_lawTake existing round retryJobs clocked with full | emptied
    · right
      rwa [idle, Nat.zero_add] at full
    · left
      have noJobs : taken.proxy.jobData.unsubmittedJobs.keys = [] :=
        List.eq_nil_iff_forall_not_mem.mpr fun jobNum member => by simpa using emptied jobNum member
      exact List.map_eq_nil_iff.mp noJobs

/-! ## When the gate opens -/

/-- `refill_fraction` reads as a number, `nan` apart. -/
def RefillIsNumber (settings : Settings) : Prop :=
  ∃ number, readFloat crabDefaultRefillFraction settings.refillFraction = .ok number ∧
    number ≠ .nan

/-- What keeps the gate from holding jobs back for nothing: something active or
offered, no limit on the parallel jobs, a `refill_fraction` that is a number,
or, for a `nan`, parked retries that are due. -/
def Released (settings : Settings) (round : Round) (retryJobs : Dict JobNum (List Branch))
    (proxy : Proxy) : Prop :=
  0 < round.nActive ∨ 0 < retryJobs.size ∨ settings.nParallelMax ≤ round.nParallel ∨
    RefillIsNumber settings ∨
    readFloat crabDefaultRefillFraction settings.refillFraction = .ok .nan ∧
      parkedRetriesAreDue settings round.now (updateRetryReleaseClock round.now false proxy) =
        .ok true

/-- A fraction of the slots is reached by the backlog, or out of its reach. -/
theorem shouldSubmit_of_refillIsNumber (isNumber : RefillIsNumber settings) {clocked : Proxy}
    {nBacklog : Nat} (idle : round.nActive = 0) :
    shouldSubmitCrabGroup settings round clocked nBacklog 0 = .ok true := by
  obtain ⟨number, read, notNan⟩ := isNumber
  obtain ⟨fraction, clamped, atLeast, atMost⟩ :=
    Number.clamp_of_ne_nan notNan (zero_le_one (α := ℚ))
  have refill : crabRefillFraction settings = .ok (.finite fraction) := by
    rw [crabRefillFraction, read]
    exact congrArg Except.ok clamped
  rw [shouldSubmitCrabGroup]
  by_cases unlimited : settings.nParallelMax ≤ round.nParallel
  · rw [if_pos unlimited]
    rfl
  rw [if_neg unlimited]
  by_cases nothing : nBacklog + 0 = 0
  · rw [if_pos nothing]
    rfl
  rw [if_neg nothing, refill]
  simp only [bind, Except.bind, Number.mulNat, Number.le_finite, Number.lt_finite, idle]
  by_cases reached : fraction * round.nParallel ≤ nBacklog
  · have fits : fraction * round.nParallel ≤ round.nParallel :=
      mul_le_of_le_one_left (Nat.cast_nonneg _) atMost
    have room : fraction * round.nParallel ≤
        ((min (nBacklog : ℤ) (round.nParallel - (0 : ℕ)) : ℤ) : ℚ) := by
      push_cast
      simp [reached, fits]
    simp only [room, decide_true, if_true]
    rfl
  · have outOfReach : ((0 + (nBacklog + 0) : ℕ) : ℚ) < fraction * round.nParallel := by
      push_cast
      linarith [not_le.mp reached]
    simp only [outOfReach, decide_true, if_true]
    split <;> rfl

/-- Without a limit on the parallel jobs the gate is open. -/
theorem shouldSubmit_of_unlimited (unlimited : settings.nParallelMax ≤ round.nParallel)
    (clocked : Proxy) (nBacklog nRetry : Nat) :
    shouldSubmitCrabGroup settings round clocked nBacklog nRetry = .ok true := by
  rw [shouldSubmitCrabGroup, if_pos unlimited]
  rfl

/-- No comparison with a `nan` holds, so only the timer is left. -/
theorem shouldSubmit_of_nan
    (read : readFloat crabDefaultRefillFraction settings.refillFraction = .ok .nan)
    (limited : ¬ settings.nParallelMax ≤ round.nParallel) {nBacklog nRetry : Nat}
    (waiting : ¬ nBacklog + nRetry = 0) (clocked : Proxy) :
    shouldSubmitCrabGroup settings round clocked nBacklog nRetry =
      parkedRetriesAreDue settings round.now clocked := by
  have refill : crabRefillFraction settings = .ok .nan := by
    rw [crabRefillFraction, read]
    rfl
  have compares : ∀ number : Number,
      (Number.nan.mulNat round.nParallel).le number = false ∧
        number.lt (Number.nan.mulNat round.nParallel) = false := fun number =>
    ⟨Number.nan_le number, Number.lt_nan number⟩
  rw [shouldSubmitCrabGroup, if_neg limited, if_neg waiting, refill]
  simp only [bind, Except.bind, compares, Bool.false_eq_true, if_false]

/-- A setting that `float` rejects with an error nothing catches ends the run. -/
theorem shouldSubmit_of_error {message : String}
    (read : readFloat crabDefaultRefillFraction settings.refillFraction = .error message)
    (limited : ¬ settings.nParallelMax ≤ round.nParallel) {nBacklog nRetry : Nat}
    (waiting : ¬ nBacklog + nRetry = 0) (clocked : Proxy) :
    shouldSubmitCrabGroup settings round clocked nBacklog nRetry = .error message := by
  have refill : crabRefillFraction settings = .error message := by
    rw [crabRefillFraction, read]
    rfl
  rw [shouldSubmitCrabGroup, if_neg limited, if_neg waiting, refill]
  rfl

/-- The gate of an idle production is open exactly when it is released. -/
theorem waveGate_eq_ok_true_iff
    (waiting : 0 < proxy.jobData.unsubmittedJobs.size + retryJobs.size)
    (idle : round.nActive = 0) (noRetry : retryJobs.size = 0) :
    waveGate settings round retryJobs proxy = .ok true ↔
      Released settings round retryJobs proxy := by
  have someWait : ¬ (updateRetryReleaseClock round.now false proxy).jobData.unsubmittedJobs.size +
      retryJobs.size = 0 := by
    rw [jobData_updateRetryReleaseClock]
    exact Nat.pos_iff_ne_zero.mp waiting
  simp only [waveGate, Released, idle, noRetry, Nat.lt_irrefl, false_or]
  rw [noRetry] at someWait
  by_cases unlimited : settings.nParallelMax ≤ round.nParallel
  · simp [shouldSubmit_of_unlimited unlimited, unlimited]
  cases read : readFloat crabDefaultRefillFraction settings.refillFraction with
  | error message =>
      rw [shouldSubmit_of_error read unlimited someWait]
      simp [unlimited, RefillIsNumber, read]
  | ok number =>
      by_cases isNan : number = .nan
      · rw [isNan] at read
        rw [shouldSubmit_of_nan read unlimited someWait]
        simp [unlimited, RefillIsNumber, read, isNan]
      · have isNumber : RefillIsNumber settings := ⟨number, read, isNan⟩
        simp [shouldSubmit_of_refillIsNumber isNumber idle, isNumber]

/-- Jobs that wait are held back for nothing exactly when the gate is not
released. -/
theorem neverDeadlocks_iff_released
    (waiting : 0 < proxy.jobData.unsubmittedJobs.size + retryJobs.size) :
    NeverDeadlocks settings round retryJobs proxy ↔
      Released settings round retryJobs proxy := by
  constructor
  · intro live
    by_cases active : 0 < round.nActive
    · exact Or.inl active
    by_cases offered : 0 < retryJobs.size
    · exact Or.inr (Or.inl offered)
    have idle : round.nActive = 0 := Nat.eq_zero_of_not_pos active
    have noRetry : retryJobs.size = 0 := Nat.eq_zero_of_not_pos offered
    exact (waveGate_eq_ok_true_iff waiting idle noRetry).mp (live.opens idle noRetry)
  · intro released
    have opens : round.nActive = 0 → retryJobs.size = 0 →
        waveGate settings round retryJobs proxy = .ok true := fun idle noRetry =>
      (waveGate_eq_ok_true_iff waiting idle noRetry).mpr released
    constructor
    case closed =>
      intro closed
      by_contra held
      rw [not_or] at held
      rw [opens (Nat.eq_zero_of_not_pos held.1) (Nat.eq_zero_of_not_pos held.2)] at closed
      cases closed
    case opens => exact opens
    case goesOut =>
      intro idle noRetry readable existing
      exact goesOut_of_open (opens idle noRetry) idle noRetry readable existing

/-- A backlog of one job, nothing of which has been tried. -/
def oneWaiting : Proxy :=
  ⟨⟨Dict.empty, Dict.ofList [(1, [0])], Dict.empty⟩, Dict.empty, none, true⟩

/-- A round with 5000 free slots and nothing to report. -/
def idleRound : Round :=
  ⟨fun _ => none, [], 5000, 0, true, true, 0⟩

/-- Settings with a `refill_fraction` of their own. -/
def refilledBy (setting : Setting) : Settings :=
  { nParallelMax := 99999999, refillFraction := setting }

theorem neverDeadlocks_half :
    NeverDeadlocks (refilledBy (.float (.finite (1 / 2)))) idleRound Dict.empty oneWaiting := by
  apply (neverDeadlocks_iff_released (by decide)).mpr
  exact Or.inr (Or.inr (Or.inr (Or.inl ⟨_, rfl, by decide⟩)))

/-- With `refill_fraction: .nan` a backlog of one job is held back for ever. -/
theorem not_neverDeadlocks_nan :
    0 < oneWaiting.jobData.unsubmittedJobs.size ∧
      ¬ NeverDeadlocks (refilledBy (.float .nan)) idleRound Dict.empty oneWaiting := by
  constructor
  · decide
  · intro live
    have closed : waveGate (refilledBy (.float .nan)) idleRound Dict.empty oneWaiting =
        .ok false := by
      decide +kernel
    rcases live.closed closed with active | offered
    · exact absurd active (by decide)
    · exact absurd offered (by decide)

end DSProd.Crab
