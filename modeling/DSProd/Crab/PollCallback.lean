import DSProd.Crab.JobManager
import DSProd.Watchdog.Healthy

/-!
# Queries and callbacks

law queries its CRAB projects and then calls `crab_poll_callback` of `crab.py`,
poll after poll.  Each query asks the watchdog for verdicts.  The callback tells
it which jobs there are and has it list their flags, through a throttle of
`timed_call_wrapper` that lets a call pass once an interval is over.

A poll takes its time, so the throttle does not keep the listings an interval
apart, but an interval and the longest pause between two callbacks.
-/

namespace DSProd.Crab

open DSProd.Library
open DSProd.Watchdog

/-! ## The driver -/

/-- `timed_call_wrapper`: whether a call passes. -/
def callIsDue (updateInterval : ℚ) (lastUpdate : Option ℚ) (now : ℚ) : Bool :=
  lastUpdate.all fun last => updateInterval ≤ now - last

/-- The job manager, and when the throttle of `refresh` last let a call pass. -/
structure Driver where
  manager : JobManager
  lastUpdate : Option ℚ

/-- What happens to a driver: the response of a project is read, or the callback
is called, with the job data of law, if it has any, the clock, and the listing
that the storage would give. -/
inductive Turn where
  | query (query : Query)
  | callback (jobs : Option (Dict JobNum JobDataEntry)) (clock : ℚ)
      (entries : Option (List FlagEntry))

/-- When a turn reads the clock. -/
def Turn.clock : Turn → ℚ
  | .query asked => asked.clock
  | .callback _ clock _ => clock

/-- The watchdog's part of `crab_poll_callback`. -/
def crabPollCallback (driver : Driver) (jobs : Option (Dict JobNum JobDataEntry)) (clock : ℚ)
    (entries : Option (List FlagEntry)) : Driver :=
  let dog := driver.manager.watchdog
  if !dog.cfg.enabled then driver
  else
    let informed := (jobs.map dog.setJobs).getD dog
    if callIsDue (intervalSeconds dog.cfg) driver.lastUpdate clock then
      ⟨{ driver.manager with watchdog := (informed.refresh none clock entries).2 }, some clock⟩
    else { driver with manager.watchdog := informed }

/-- The driver a turn leaves. -/
def Driver.step (driver : Driver) : Turn → Driver
  | .query query => { driver with manager := afterQuery driver.manager query }
  | .callback jobs clock entries => crabPollCallback driver jobs clock entries

/-- The driver of a new run. -/
def Driver.new (cfg : Config) (siteStats : Option SiteStats) : Driver :=
  ⟨⟨Watchdog.new cfg, siteStats, none, ∅⟩, none⟩

variable {cfg : Config} {gap : ℚ} {key : Key} {branches : List Branch} {beats : Branch → List ℚ}
  {last : Option ℚ} {dog : Watchdog}

/-- Failing a job leaves the watchdog as it is, or has it forget the job. -/
theorem watchdog_failJob_cases (clock : ℚ) (state : JobManager × Dict JobId StatusEntry)
    (verdict : JobId × String) :
    (failJob clock state verdict).1.watchdog = state.1.watchdog ∨
      (failJob clock state verdict).1.watchdog = state.1.watchdog.forget verdict.1 := by
  have recorded : ∀ manager site,
      (recordStall manager clock verdict.1 site).watchdog = manager.watchdog := by
    intro manager site
    rw [recordStall]
    split
    · rfl
    · split <;> rfl
  rw [failJob]
  split
  · exact Or.inl rfl
  · split
    · exact Or.inl rfl
    · exact Or.inr (recorded _ _)

/-- Failing other jobs keeps what is known of a job. -/
theorem tracked_foldl_failJob (enabled : cfg.enabled = true) (clock : ℚ)
    {verdicts : List (JobId × String)} (others : ∀ verdict ∈ verdicts, keyOf verdict.1 ≠ key)
    {state : JobManager × Dict JobId StatusEntry}
    (tracked : Tracked cfg gap key branches beats last state.1.watchdog) :
    Tracked cfg gap key branches beats last
        (verdicts.foldl (failJob clock) state).1.watchdog ∧
      (verdicts.foldl (failJob clock) state).1.watchdog.firstSeen.get? key =
        state.1.watchdog.firstSeen.get? key := by
  induction verdicts generalizing state with
  | nil => exact ⟨tracked, rfl⟩
  | cons first rest ih =>
      have other := others first List.mem_cons_self
      have othersRest : ∀ verdict ∈ rest, keyOf verdict.1 ≠ key := fun verdict member =>
        others verdict (List.mem_cons_of_mem first member)
      have forgets : Tracked cfg gap key branches beats last
          (state.1.watchdog.forget first.1) := by
        let op : Op := .forget first.1
        have respects : op.Respects key branches beats := other
        have noClock : ∀ attempt, last = some attempt → ∀ moment, op.clock? = some moment →
            attempt ≤ moment ∧ moment ≤ attempt + gap := by
          intro _ _ _ reads
          cases reads
        exact tracked_apply tracked enabled respects noClock
      have keeps : (state.1.watchdog.forget first.1).firstSeen.get? key =
          state.1.watchdog.firstSeen.get? key := by
        simp [forget, Dict.get?_pop, Ne.symm other]
      rcases watchdog_failJob_cases clock state first with same | forgotten
      · obtain ⟨after, seen⟩ := ih othersRest (same ▸ tracked)
        exact ⟨after, seen.trans (by rw [same])⟩
      · obtain ⟨after, seen⟩ := ih othersRest (forgotten ▸ forgets)
        exact ⟨after, seen.trans (by rw [forgotten, keeps])⟩

end DSProd.Crab
