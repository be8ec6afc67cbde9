import DSProd.Library.Instants
import Mathlib.Algebra.Order.Archimedean.Basic
import Mathlib.Algebra.Order.Field.Rat
import Mathlib.Tactic.Linarith
import Mathlib.Tactic.NormNum
import Mathlib.Tactic.Positivity

/-!
# The heartbeat of a job

`Heartbeat._loop` of `watchdog.py`, which writes the flag of a job for as long
as its payload runs.  After a write it waits: for an interval when the write
succeeded, and after a failure for a time that doubles with each further one,
up to a quarter of an interval.

Times are seconds, as exact rationals, and a wait takes as long as it is told.
The sequence of writes has no end here; a payload that ends cuts it off.
-/

namespace DSProd

namespace Watchdog

/-- `write_timeout_seconds`. -/
def writeTimeoutSeconds : ℚ :=
  300

/-- `retry_seconds`. -/
def retrySeconds : ℚ :=
  60

/-- A write of the flag: whether it succeeds, and how long it takes. -/
structure FlagWrite where
  succeeds : Bool
  seconds : ℚ
  nonneg : 0 ≤ seconds
  inTime : seconds ≤ writeTimeoutSeconds

end Watchdog

open Watchdog

/-- The counters of a heartbeat. -/
structure Heartbeat where
  interval : ℚ
  beats : Nat
  failures : Nat

namespace Heartbeat

open DSProd.Library

/-! ## The loop -/

/-- `Heartbeat.__init__`. -/
def new (intervalSeconds : ℚ) : Heartbeat :=
  ⟨max 1 intervalSeconds, 0, 0⟩

/-- The heartbeat after a write that succeeded or not. -/
def written (heartbeat : Heartbeat) : Bool → Heartbeat
  | true => { heartbeat with beats := heartbeat.beats + 1, failures := 0 }
  | false => { heartbeat with failures := heartbeat.failures + 1 }

/-- How long to wait after a failure, with the number of failures in a row. -/
def backoff (heartbeat : Heartbeat) : ℚ :=
  min (retrySeconds * 2 ^ min (heartbeat.failures - 1) 16) (heartbeat.interval / 4)

/-- The `wait` of an iteration, from the heartbeat after its write. -/
def wait (heartbeat : Heartbeat) (succeeds : Bool) : ℚ :=
  if succeeds then heartbeat.interval else heartbeat.backoff

/-- An iteration of the loop is about to begin. -/
structure Iteration where
  heartbeat : Heartbeat
  now : ℚ

/-- The end of the write of an iteration. -/
def Iteration.ended (iteration : Iteration) (write : FlagWrite) : ℚ :=
  iteration.now + write.seconds

/-- An iteration of `_loop`. -/
def Iteration.next (iteration : Iteration) (write : FlagWrite) : Iteration :=
  let after := iteration.heartbeat.written write.succeeds
  ⟨after, iteration.ended write + after.wait write.succeeds⟩

/-- `_loop`, from the moment it begins: what each iteration finds. -/
def loop (intervalSeconds begins : ℚ) (writes : ℕ → FlagWrite) : ℕ → Iteration
  | 0 => ⟨new intervalSeconds, begins⟩
  | n + 1 => (loop intervalSeconds begins writes n).next (writes n)

/-! ## What it keeps to -/

section Times

variable (intervalSeconds begins : ℚ) (writes : ℕ → FlagWrite)

/-- The `interval` of a heartbeat. -/
def intervalOf : ℚ :=
  (new intervalSeconds).interval

/-- When a write starts. -/
def started (n : ℕ) : ℚ :=
  (loop intervalSeconds begins writes n).now

/-- When a write has ended. -/
def ended (n : ℕ) : ℚ :=
  (loop intervalSeconds begins writes n).ended (writes n)

/-- How long the loop waits after a write. -/
def waited (n : ℕ) : ℚ :=
  started intervalSeconds begins writes (n + 1) - ended intervalSeconds begins writes n

/-- The longest time from a write that fails to the next one. -/
def longestRetry : ℚ :=
  intervalOf intervalSeconds / 4 + writeTimeoutSeconds

/-- A heartbeat whose writes fail tries again before long. -/
structure TriesAgain : Prop where
  afterSuccess : ∀ n, (writes n).succeeds = true →
    started intervalSeconds begins writes (n + 1) =
      ended intervalSeconds begins writes n + intervalOf intervalSeconds
  afterFailure : ∀ n, (writes n).succeeds = false →
    started intervalSeconds begins writes (n + 1) - started intervalSeconds begins writes n ≤
      longestRetry intervalSeconds
  firstWait : ∀ n, (writes n).succeeds = false → (∀ m, n = m + 1 → (writes m).succeeds = true) →
    waited intervalSeconds begins writes n = min retrySeconds (intervalOf intervalSeconds / 4)
  laterWaits : ∀ n, (writes n).succeeds = false → (writes (n + 1)).succeeds = false →
    waited intervalSeconds begins writes n ≤ waited intervalSeconds begins writes (n + 1)
  everySpan : ∀ last, (writes last).succeeds = true → ∀ first final,
    ended intervalSeconds begins writes last + intervalOf intervalSeconds ≤ first →
    longestRetry intervalSeconds < final - first →
    (∀ n, last < n → ended intervalSeconds begins writes n ≤ final →
      (writes n).succeeds = false) →
    ∃ n, last < n ∧ first < started intervalSeconds begins writes n ∧
      started intervalSeconds begins writes n < final

end Times

/-! ## Waits -/

theorem interval_pos (intervalSeconds : ℚ) : 0 < intervalOf intervalSeconds :=
  lt_of_lt_of_le one_pos (le_max_left 1 intervalSeconds)

@[simp]
theorem interval_written (heartbeat : Heartbeat) (succeeds : Bool) :
    (heartbeat.written succeeds).interval = heartbeat.interval := by
  cases succeeds <;> rfl

theorem backoff_le (heartbeat : Heartbeat) : heartbeat.backoff ≤ heartbeat.interval / 4 :=
  min_le_right _ _

/-- More failures in a row never shorten the wait. -/
theorem backoff_mono {first second : Heartbeat} (same : first.interval = second.interval)
    (fewer : first.failures ≤ second.failures) : first.backoff ≤ second.backoff := by
  have exponents : min (first.failures - 1) 16 ≤ min (second.failures - 1) 16 :=
    min_le_min_right 16 (Nat.sub_le_sub_right fewer 1)
  have powers : (2 : ℚ) ^ min (first.failures - 1) 16 ≤ 2 ^ min (second.failures - 1) 16 :=
    pow_le_pow_right₀ one_le_two exponents
  rw [backoff, backoff, same]
  apply min_le_min_right
  exact mul_le_mul_of_nonneg_left powers (by norm_num [retrySeconds])

/-- The first wait after a failure is the shortest one. -/
theorem backoff_first {heartbeat : Heartbeat} (once : heartbeat.failures = 1) :
    heartbeat.backoff = min retrySeconds (heartbeat.interval / 4) := by
  rw [backoff, once, Nat.sub_self, Nat.zero_min, pow_zero, mul_one]

theorem le_backoff (heartbeat : Heartbeat) :
    min retrySeconds (heartbeat.interval / 4) ≤ heartbeat.backoff := by
  have power : (1 : ℚ) ≤ 2 ^ min (heartbeat.failures - 1) 16 := one_le_pow₀ one_le_two
  rw [backoff]
  apply min_le_min_right
  exact le_mul_of_one_le_right (by norm_num [retrySeconds]) power

/-! ## Iterations -/

section Loop

variable {intervalSeconds begins : ℚ} {writes : ℕ → FlagWrite}

/-- An iteration never changes the interval. -/
theorem interval_loop (n : ℕ) :
    (loop intervalSeconds begins writes n).heartbeat.interval = intervalOf intervalSeconds := by
  induction n with
  | zero => rfl
  | succ n ih => rw [loop, Iteration.next, interval_written, ih]

/-- The heartbeat after a write. -/
theorem heartbeat_loop (n : ℕ) :
    (loop intervalSeconds begins writes (n + 1)).heartbeat =
      (loop intervalSeconds begins writes n).heartbeat.written (writes n).succeeds :=
  rfl

theorem waited_eq (n : ℕ) :
    waited intervalSeconds begins writes n =
      (loop intervalSeconds begins writes (n + 1)).heartbeat.wait (writes n).succeeds :=
  add_sub_cancel_left _ _

theorem waited_of_succeeds {n : ℕ} (succeeds : (writes n).succeeds = true) :
    waited intervalSeconds begins writes n = intervalOf intervalSeconds := by
  rw [waited_eq, wait, if_pos succeeds, interval_loop]

theorem waited_of_fails {n : ℕ} (fails : (writes n).succeeds = false) :
    waited intervalSeconds begins writes n =
      (loop intervalSeconds begins writes (n + 1)).heartbeat.backoff := by
  rw [waited_eq, wait, if_neg (by rw [fails]; exact Bool.false_ne_true)]

theorem started_succ (n : ℕ) :
    started intervalSeconds begins writes (n + 1) =
      ended intervalSeconds begins writes n + waited intervalSeconds begins writes n :=
  (add_sub_cancel _ _).symm

/-- No wait is shorter than the first one after a failure. -/
theorem le_waited (n : ℕ) :
    min retrySeconds (intervalOf intervalSeconds / 4) ≤
      waited intervalSeconds begins writes n := by
  cases outcome : (writes n).succeeds with
  | true =>
      have positive := interval_pos intervalSeconds
      rw [waited_of_succeeds outcome]
      exact (min_le_right _ _).trans (by linarith)
  | false =>
      rw [waited_of_fails outcome]
      have least := le_backoff (loop intervalSeconds begins writes (n + 1)).heartbeat
      rwa [interval_loop] at least

/-- Writes start at least the shortest wait apart. -/
theorem started_advances (n : ℕ) :
    started intervalSeconds begins writes n + min retrySeconds (intervalOf intervalSeconds / 4) ≤
      started intervalSeconds begins writes (n + 1) := by
  have taken := (writes n).nonneg
  have least : min retrySeconds (intervalOf intervalSeconds / 4) ≤
      waited intervalSeconds begins writes n := le_waited n
  rw [started_succ]
  have ends : ended intervalSeconds begins writes n =
      started intervalSeconds begins writes n + (writes n).seconds := rfl
  linarith

/-- A write that fails is followed by another within the longest retry. -/
theorem started_succ_le_of_fails {n : ℕ} (fails : (writes n).succeeds = false) :
    started intervalSeconds begins writes (n + 1) ≤
      started intervalSeconds begins writes n + longestRetry intervalSeconds := by
  have taken := (writes n).inTime
  have most := backoff_le (loop intervalSeconds begins writes (n + 1)).heartbeat
  rw [interval_loop, ← waited_of_fails fails] at most
  rw [started_succ, longestRetry]
  have ends : ended intervalSeconds begins writes n =
      started intervalSeconds begins writes n + (writes n).seconds := rfl
  linarith

/-- The failures are counted from the last success. -/
theorem failures_of_first_fails {n : ℕ} (fails : (writes n).succeeds = false)
    (first : ∀ m, n = m + 1 → (writes m).succeeds = true) :
    (loop intervalSeconds begins writes (n + 1)).heartbeat.failures = 1 := by
  have before : (loop intervalSeconds begins writes n).heartbeat.failures = 0 := by
    cases n with
    | zero => rfl
    | succ m =>
        rw [heartbeat_loop, first m rfl]
        rfl
  rw [heartbeat_loop, fails, written, before]

/-- After a write that starts at or before a moment and fails if it has ended
by the end of a span, the next one starts within the span. -/
theorem started_succ_lt {n : ℕ} {first final : ℚ}
    (early : started intervalSeconds begins writes n ≤ first)
    (long : longestRetry intervalSeconds < final - first)
    (fails : ended intervalSeconds begins writes n ≤ final → (writes n).succeeds = false) :
    started intervalSeconds begins writes (n + 1) < final := by
  have taken := (writes n).inTime
  have positive := interval_pos intervalSeconds
  have endsWithin : ended intervalSeconds begins writes n ≤ final := by
    have ends : ended intervalSeconds begins writes n =
        started intervalSeconds begins writes n + (writes n).seconds := rfl
    rw [longestRetry] at long
    linarith
  have retried : started intervalSeconds begins writes (n + 1) ≤
      started intervalSeconds begins writes n + longestRetry intervalSeconds :=
    started_succ_le_of_fails (fails endsWithin)
  linarith

end Loop

/-- Whatever becomes of the writes, and however long each takes within its
timeout, a heartbeat tries again before long. -/
theorem triesAgain (intervalSeconds begins : ℚ) (writes : ℕ → FlagWrite) :
    TriesAgain intervalSeconds begins writes where
  afterSuccess n succeeds := by
    rw [started_succ, waited_of_succeeds succeeds]
  afterFailure n fails := by
    have retried : started intervalSeconds begins writes (n + 1) ≤
        started intervalSeconds begins writes n + longestRetry intervalSeconds :=
      started_succ_le_of_fails fails
    linarith
  firstWait n fails first := by
    rw [waited_of_fails fails, backoff_first (failures_of_first_fails fails first), interval_loop]
  laterWaits n fails failsAgain := by
    rw [waited_of_fails fails, waited_of_fails failsAgain]
    apply backoff_mono
    · rw [interval_loop, interval_loop]
    · rw [heartbeat_loop (n + 1), failsAgain]
      exact Nat.le_succ _
  everySpan last succeeds first final later long fail := by
    have gap : 0 < min retrySeconds (intervalOf intervalSeconds / 4) := by
      have positive := interval_pos intervalSeconds
      exact lt_min (by norm_num [retrySeconds]) (by linarith)
    have begun : started intervalSeconds begins writes (last + 1) ≤ first := by
      rw [started_succ, waited_of_succeeds succeeds]
      exact later
    obtain ⟨n, after, early, late⟩ := Instants.exists_between started_advances gap begun
    exact ⟨n + 1, by omega, late, started_succ_lt early long (fail n (by omega))⟩

example : (List.range 7).map (waited 1800 0 fun n => ⟨n = 5, 1, by decide, by decide⟩) =
    [60, 120, 240, 450, 450, 1800, 60] := by
  decide +kernel

end Heartbeat

end DSProd
