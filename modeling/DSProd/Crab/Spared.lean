import DSProd.Crab.PollCallback
import DSProd.Watchdog.Pulse

/-!
# A job that beats is spared

The two halves of the watchdog together: the heartbeat of a job, whose writes
take their time and fail now and then, and the driver, which polls, lists the
flags through a throttle, and turns the jobs that look stale into failed ones.
The settings decide how many failed writes in a row and how slow a poll the two
can bear.
-/

namespace DSProd.Crab

open DSProd.Library
open DSProd.Watchdog

/-- What the turns of a run keep to, as far as the job of a key goes: CRAB does
not report it running before some moment, law has it on the same branches, and
listings show the beats of its branches. -/
def Turn.Respects (key : Key) (branches : List Branch) (beats : Branch → List ℚ)
    (runningFrom : ℚ) : Turn → Prop
  | .query asked => ∀ item ∈ asked.result.items, keyOf item.1 = key →
      item.2.status = .running → runningFrom ≤ asked.clock
  | .callback jobs clock entries =>
      (∀ found, jobs = some found →
        ∀ job, (jobsById found).get? key = some job → job.2 = branches) ∧
      ∀ found, entries = some found → Shows branches beats (agesOf found) clock

/-- What holds of one job after some turns, the last callback having been called
at some moment. -/
structure Sound (cfg : Config) (pause : ℚ) (key : Key) (branches : List Branch)
    (beats : Branch → List ℚ) (runningFrom : ℚ) (called : Option ℚ) (driver : Driver) :
    Prop where
  tracked : Tracked cfg (intervalSeconds cfg + pause) key branches beats driver.lastUpdate
    driver.manager.watchdog
  running : ∀ seen, driver.manager.watchdog.firstSeen.get? key = some seen → runningFrom ≤ seen
  throttled : ∀ update, driver.lastUpdate = some update →
    ∃ last, called = some last ∧ update ≤ last ∧ last ≤ update + intervalSeconds cfg

variable {cfg : Config} {pause runningFrom : ℚ} {key : Key} {branches : List Branch}
  {beats : Branch → List ℚ} {called : Option ℚ} {driver : Driver}

namespace Sound

/-- The clock of a turn is at most an interval and a pause after the last
listing. -/
theorem inTime (sound : Sound cfg pause key branches beats runningFrom called driver) {clock : ℚ}
    (timely : ∀ last, called = some last → last ≤ clock ∧ clock ≤ last + pause) :
    ∀ attempt, driver.lastUpdate = some attempt →
      attempt ≤ clock ∧ clock ≤ attempt + (intervalSeconds cfg + pause) := by
  intro attempt listed
  obtain ⟨last, isLast, before, recent⟩ := sound.throttled attempt listed
  obtain ⟨later, soon⟩ := timely last isLast
  constructor <;> linarith

/-- A call for verdicts keeps when a job was first seen, or sees it now. -/
theorem running_verdicts (sound : Sound cfg pause key branches beats runningFrom called driver)
    (enabled : cfg.enabled = true) {query : Query}
    (respects : (Turn.query query).Respects key branches beats runningFrom) :
    ∀ seen, (driver.manager.watchdog.verdicts query.result none query.clock).2.firstSeen.get? key =
      some seen → runningFrom ≤ seen := by
  intro seen found
  have stillEnabled : driver.manager.watchdog.cfg.enabled = true := by
    rw [sound.tracked.sameCfg, enabled]
  cases inForce : driver.manager.watchdog.listing with
  | none =>
      rw [verdicts_of_idle (Or.inr inForce)] at found
      exact sound.running seen found
  | some listing =>
      obtain ⟨scan, perBranch, issued, passed, after⟩ :=
        verdicts_state stillEnabled inForce query.result none query.clock
      rw [after] at found
      have same : scan.dog.firstSeen.getD key query.clock =
          driver.manager.watchdog.firstSeen.getD key query.clock := passed.firstSeen key
      have isSeen : driver.manager.watchdog.firstSeen.getD key query.clock = seen := by
        rw [← same, Dict.getD, found, Option.getD_some]
      by_cases known : key ∈ driver.manager.watchdog.firstSeen.keys
      · exact sound.running seen (by rw [← isSeen]; exact getD_of_mem query.clock known)
      · -- it was seen by this call, which reports it running
        rw [getD_of_not_mem query.clock known] at isSeen
        have sighted := (passed.seenKeys key).mp (Dict.mem_keys_of_get? found)
        obtain ⟨item, member, sameKey, isKnown⟩ := sighted.resolve_left known
        obtain ⟨job, isJob⟩ := Option.isSome_iff_exists.mp isKnown
        rw [← isSeen]
        exact respects item member sameKey (knownRunning_eq_some_iff.mp isJob).1

/-- What a query that names no job of the key keeps. -/
theorem query (sound : Sound cfg pause key branches beats runningFrom called driver)
    (enabled : cfg.enabled = true) {query : Query}
    (respects : (Turn.query query).Respects key branches beats runningFrom)
    (timely : ∀ last, called = some last → last ≤ query.clock ∧ query.clock ≤ last + pause)
    (unnamed : ∀ jobId, keyOf jobId = key →
      jobId ∉ (driver.manager.watchdog.verdicts query.result none query.clock).1.keys) :
    Sound cfg pause key branches beats runningFrom called (driver.step (.query query)) := by
  have stillEnabled : driver.manager.watchdog.cfg.enabled = true := by
    rw [sound.tracked.sameCfg, enabled]
  have judged := tracked_verdicts sound.tracked stillEnabled query.result (sound.inTime timely)
  have others : ∀ verdict ∈
      (driver.manager.watchdog.verdicts query.result none query.clock).1.items,
        keyOf verdict.1 ≠ key := fun verdict member sameKey =>
    unnamed verdict.1 sameKey (List.mem_map_of_mem member)
  let start : JobManager × Dict JobId StatusEntry :=
    ({ driver.manager with
      watchdog := (driver.manager.watchdog.verdicts query.result none query.clock).2 },
      query.result)
  have judgedStart : Tracked cfg (intervalSeconds cfg + pause) key branches beats
      driver.lastUpdate start.1.watchdog := judged
  obtain ⟨kept, sameSeen⟩ := tracked_foldl_failJob enabled query.clock others judgedStart
  have after : (driver.step (.query query)).manager.watchdog =
      ((driver.manager.watchdog.verdicts query.result none query.clock).1.items.foldl
        (failJob query.clock) ({ driver.manager with
          watchdog := (driver.manager.watchdog.verdicts query.result none query.clock).2 },
          query.result)).1.watchdog := by
    simp [Driver.step, afterQuery, applyWatchdog, stillEnabled]
  constructor
  case tracked =>
    rw [after]
    exact kept
  case running =>
    rw [after, sameSeen]
    exact sound.running_verdicts enabled respects
  case throttled => exact sound.throttled

/-- What a callback keeps. -/
theorem callback (sound : Sound cfg pause key branches beats runningFrom called driver)
    (enabled : cfg.enabled = true) (positive : 0 ≤ intervalSeconds cfg)
    {jobs : Option (Dict JobNum JobDataEntry)}
    {clock : ℚ} {entries : Option (List FlagEntry)}
    (respects : (Turn.callback jobs clock entries).Respects key branches beats runningFrom)
    (timely : ∀ last, called = some last → last ≤ clock ∧ clock ≤ last + pause) :
    Sound cfg pause key branches beats runningFrom (some clock)
      (driver.step (.callback jobs clock entries)) := by
  have stillEnabled : driver.manager.watchdog.cfg.enabled = true := by
    rw [sound.tracked.sameCfg, enabled]
  let informed := (jobs.map driver.manager.watchdog.setJobs).getD driver.manager.watchdog
  have told : Tracked cfg (intervalSeconds cfg + pause) key branches beats driver.lastUpdate
      informed ∧ informed.firstSeen = driver.manager.watchdog.firstSeen := by
    cases jobs with
    | none => exact ⟨sound.tracked, rfl⟩
    | some found =>
        let op : Op := .setJobs found
        have published : op.Respects key branches beats := respects.1 found rfl
        have noClock : ∀ attempt, driver.lastUpdate = some attempt →
            ∀ moment, op.clock? = some moment →
              attempt ≤ moment ∧ moment ≤ attempt + (intervalSeconds cfg + pause) := by
          intro _ _ _ reads
          cases reads
        exact ⟨tracked_apply sound.tracked enabled published noClock, rfl⟩
  obtain ⟨tracked, sameSeen⟩ := told
  have running : ∀ seen, informed.firstSeen.get? key = some seen → runningFrom ≤ seen := by
    rw [sameSeen]
    exact sound.running
  have stepped : driver.step (.callback jobs clock entries) =
      if callIsDue (intervalSeconds cfg) driver.lastUpdate clock then
        ⟨{ driver.manager with watchdog := (informed.refresh none clock entries).2 }, some clock⟩
      else { driver with manager.watchdog := informed } := by
    simp [Driver.step, crabPollCallback, enabled, sound.tracked.sameCfg, informed]
  rw [stepped]
  by_cases due : callIsDue (intervalSeconds cfg) driver.lastUpdate clock = true
  · have informedEnabled : informed.cfg.enabled = true := by rw [tracked.sameCfg, enabled]
    rw [if_pos due]
    constructor
    case tracked => exact tracked_refresh tracked informedEnabled respects.2
    case running =>
      intro seen found
      have sameFirst : (informed.refresh none clock entries).2.firstSeen = informed.firstSeen := by
        unfold Watchdog.refresh
        split
        · rfl
        · split <;> rfl
      rw [sameFirst] at found
      exact running seen found
    case throttled =>
      rintro update ⟨⟩
      have nonneg : (0 : ℚ) ≤ intervalSeconds cfg := by exact_mod_cast positive
      exact ⟨clock, rfl, le_rfl, by linarith⟩
  · rw [if_neg due]
    constructor
    case tracked => exact tracked
    case running => exact running
    case throttled =>
      intro update listed
      obtain ⟨last, isLast, before, _⟩ := sound.throttled update listed
      have later := (timely last isLast).1
      change driver.lastUpdate = some update at listed
      simp only [callIsDue, listed, Option.all_some, decide_eq_true_eq, not_le] at due
      exact ⟨clock, rfl, by linarith, by linarith⟩

end Sound

end DSProd.Crab
