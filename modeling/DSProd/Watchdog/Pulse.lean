import DSProd.Watchdog.Healthy
import DSProd.Watchdog.Heartbeat

/-!
# From writes to beats

The driver sees a heartbeat by the time its flag was last modified, which is
some moment of the last write that succeeded.  As long as no more than so many
writes fail in a row, the flag moves again within an interval, the time of two
writes, and a retry for each failure.
-/

namespace DSProd.Watchdog

open DSProd.Library
open Heartbeat

/-- The heartbeat of a payload: when it begins, how its writes go, and when each
of them lands if it succeeds, which is while it is under way. -/
structure Pulse (cfg : Config) where
  begins : ℚ
  writes : ℕ → FlagWrite
  landed : ℕ → ℚ
  afterStart : ∀ n, started (intervalSeconds cfg) begins writes n ≤ landed n
  beforeEnd : ∀ n, landed n ≤ ended (intervalSeconds cfg) begins writes n

/-- The longest time from one beat to the next beyond an interval, when at most
some writes fail in a row. -/
def longestDelay (cfg : Config) (failures : ℕ) : ℚ :=
  2 * writeTimeoutSeconds + failures * longestRetry (intervalSeconds cfg)

namespace Pulse

variable {cfg : Config} {pulse : Pulse cfg} {failures : ℕ}

/-- At most some writes fail in a row. -/
def FailsAtMost (pulse : Pulse cfg) (failures : ℕ) : Prop :=
  ∀ n, ∃ more ≤ failures, (pulse.writes (n + more)).succeeds = true

/-- The moments at which the first writes of a pulse move its flag. -/
def beats (pulse : Pulse cfg) (count : ℕ) : List ℚ :=
  ((List.range count).filter fun n => (pulse.writes n).succeeds).map pulse.landed

theorem mem_beats {count : ℕ} {beat : ℚ} :
    beat ∈ pulse.beats count ↔
      ∃ n < count, (pulse.writes n).succeeds = true ∧ pulse.landed n = beat := by
  simp [beats, and_assoc]

/-- When a write of a pulse starts. -/
def startedAt (pulse : Pulse cfg) (n : ℕ) : ℚ :=
  started (intervalSeconds cfg) pulse.begins pulse.writes n

theorem longestRetry_nonneg (cfg : Config) : 0 ≤ longestRetry (intervalSeconds cfg) := by
  have positive := interval_pos (intervalSeconds cfg : ℚ)
  rw [longestRetry, writeTimeoutSeconds]
  linarith

/-- A write lands at most a timeout after it starts. -/
theorem landed_le (pulse : Pulse cfg) (n : ℕ) :
    pulse.landed n ≤ pulse.startedAt n + writeTimeoutSeconds := by
  have ends : ended (intervalSeconds cfg) pulse.begins pulse.writes n =
      pulse.startedAt n + (pulse.writes n).seconds := rfl
  have taken := (pulse.writes n).inTime
  have before := pulse.beforeEnd n
  linarith

/-- Writes start one after the other. -/
theorem startedAt_mono (pulse : Pulse cfg) : Monotone pulse.startedAt := by
  apply monotone_nat_of_le_succ
  intro n
  have positive := interval_pos (intervalSeconds cfg : ℚ)
  have least : 0 ≤ min retrySeconds (intervalOf (intervalSeconds cfg) / 4) :=
    le_min (by norm_num [retrySeconds]) (by linarith)
  have advances : pulse.startedAt n + min retrySeconds (intervalOf (intervalSeconds cfg) / 4) ≤
      pulse.startedAt (n + 1) := started_advances n
  linarith

/-- From some write on, the first one that succeeds is not far. -/
theorem exists_success (fails : pulse.FailsAtMost failures) (first : ℕ) :
    ∃ n, first ≤ n ∧ n ≤ first + failures ∧ (pulse.writes n).succeeds = true ∧
      pulse.startedAt n ≤
        pulse.startedAt first + failures * longestRetry (intervalSeconds cfg) := by
  let Succeeds : ℕ → Prop := fun more => (pulse.writes (first + more)).succeeds = true
  obtain ⟨most, within, succeeds⟩ := fails first
  have some : ∃ more, Succeeds more := ⟨most, succeeds⟩
  have few : Nat.find some ≤ failures := (Nat.find_min' some succeeds).trans within
  have retries : ∀ more ≤ Nat.find some, pulse.startedAt (first + more) ≤
      pulse.startedAt first + more * longestRetry (intervalSeconds cfg) := by
    intro more
    induction more with
    | zero => simp
    | succ more ih =>
        intro early
        have failed : (pulse.writes (first + more)).succeeds = false :=
          Bool.eq_false_iff.mpr (Nat.find_min some early)
        have next : pulse.startedAt (first + more + 1) ≤
            pulse.startedAt (first + more) + longestRetry (intervalSeconds cfg) :=
          started_succ_le_of_fails failed
        have before := ih (Nat.le_of_succ_le early)
        push_cast
        rw [← Nat.add_assoc]
        linarith
  refine ⟨first + Nat.find some, Nat.le_add_right _ _, Nat.add_le_add_left few first,
    Nat.find_spec some, (retries _ le_rfl).trans ?_⟩
  have fewer : (Nat.find some : ℚ) ≤ failures := by exact_mod_cast few
  have nonneg := mul_le_mul_of_nonneg_right fewer (longestRetry_nonneg cfg)
  linarith

/-- A beat is followed by another within an interval and the longest delay. -/
theorem exists_next (whole : 1 ≤ intervalSeconds cfg) (fails : pulse.FailsAtMost failures)
    {n : ℕ} (succeeds : (pulse.writes n).succeeds = true) :
    ∃ next, n < next ∧ (pulse.writes next).succeeds = true ∧
      pulse.landed n < pulse.landed next ∧
      pulse.landed next ≤ pulse.landed n + (intervalSeconds cfg + longestDelay cfg failures) := by
  have same : intervalOf (intervalSeconds cfg) = (intervalSeconds cfg : ℚ) :=
    max_eq_right (by exact_mod_cast whole)
  obtain ⟨next, later, _, succeedsNext, soon⟩ := exists_success fails (n + 1)
  have restarts : pulse.startedAt (n + 1) =
      ended (intervalSeconds cfg) pulse.begins pulse.writes n + intervalSeconds cfg := by
    rw [startedAt, started_succ, waited_of_succeeds succeeds, same]
  have ends : ended (intervalSeconds cfg) pulse.begins pulse.writes n =
      pulse.startedAt n + (pulse.writes n).seconds := rfl
  have taken := (pulse.writes n).inTime
  have positive : (1 : ℚ) ≤ intervalSeconds cfg := by exact_mod_cast whole
  have begun := pulse.afterStart n
  have begunNext := pulse.afterStart next
  have mono := pulse.startedAt_mono later
  have landsNext := pulse.landed_le next
  have lands := pulse.beforeEnd n
  refine ⟨next, later, succeedsNext, ?_, ?_⟩
  · change pulse.startedAt next ≤ _ at begunNext
    linarith
  · change pulse.startedAt n ≤ _ at begun
    rw [longestDelay]
    linarith

/-- The beats of a pulse, up to a moment at which it has started no more of its
writes, are those of a running job. -/
theorem beating (whole : 1 ≤ intervalSeconds cfg) (fails : pulse.FailsAtMost failures)
    {branch : Branch} {branches : List Branch} (among : branch ∈ branches)
    {beats : Branch → List ℚ} {count : ℕ} (flagged : ∀ beat ∈ pulse.beats count,
      beat ∈ beats branch) {clock : ℚ} (covers : clock ≤ pulse.startedAt count) :
    Beating cfg (longestDelay cfg failures) branches beats (pulse.beats count) clock := by
  constructor
  case onBranch => exact fun beat member => ⟨branch, among, flagged beat member⟩
  case regular =>
    intro beat member due
    obtain ⟨n, _, succeeds, rfl⟩ := mem_beats.mp member
    obtain ⟨next, _, succeedsNext, increases, soon⟩ := exists_next whole fails succeeds
    have counted : next < count := by
      by_contra late
      have mono := pulse.startedAt_mono (not_lt.mp late)
      have begun := pulse.afterStart next
      change pulse.startedAt next ≤ _ at begun
      linarith
    exact ⟨_, mem_beats.mpr ⟨next, counted, succeedsNext, rfl⟩, increases, soon⟩

end Pulse

end DSProd.Watchdog
