import DSProd.SiteStats.Core
import DSProd.Watchdog.Scanning

/-!
# Verdicts in the job manager

`_apply_watchdog` of `DSProdCrabJobManager` in `crab.py`: each query of a CRAB
project asks the watchdog about the jobs of that project, and turns those it
names into failed ones.  The storage-fault guard counts inside one query, so a
poll over several projects can pass it although most of its jobs look stale.
-/

namespace DSProd.Crab

open DSProd.Library
open DSProd.Watchdog

/-! ## The job manager -/

/-- What a job was recorded for: an outcome, or a verdict of the watchdog. -/
inductive Mark where
  | outcome (ok : Bool)
  | watchdog
  deriving DecidableEq

/-- What the job manager keeps for the watchdog: the watchdog itself, the
record of the sites, its file, and the jobs already recorded. -/
structure JobManager where
  watchdog : Watchdog
  siteStats : Option SiteStats
  statsFile : Option (Dict String SiteStats.SiteRecord)
  statsSeen : Finset (JobId × Mark)

/-- One query of a CRAB project: its status response, and the clock. -/
structure Query where
  result : Dict JobId StatusEntry
  clock : ℚ

/-- Record the first stall of a job at its last site. -/
def recordStall (manager : JobManager) (clock : ℚ) (jobId : JobId) (site : String) : JobManager :=
  match manager.siteStats with
  | none => manager
  | some stats =>
      if site = "" ∨ (jobId, Mark.watchdog) ∈ manager.statsSeen then manager
      else
        let recorded := stats.record site false clock
        { manager with
          statsSeen := insert (jobId, Mark.watchdog) manager.statsSeen
          siteStats := some { recorded with dirty := false }
          statsFile := if recorded.dirty then some recorded.sites else manager.statsFile }

/-- The loop body of `_apply_watchdog`. -/
def failJob (clock : ℚ) (state : JobManager × Dict JobId StatusEntry)
    (verdict : JobId × String) : JobManager × Dict JobId StatusEntry :=
  match state.2.get? verdict.1 with
  | none => state
  | some data =>
      if data.status ≠ .running then state
      else
        let failed := { data with status := .failed, code := none, error := some verdict.2 }
        let forgetful := { state.1 with watchdog := state.1.watchdog.forget verdict.1 }
        (recordStall forgetful clock verdict.1 (data.siteHistory.getLast?.getD ""),
          state.2.set verdict.1 failed)

/-- `_apply_watchdog`: the manager and the response it leaves. -/
def applyWatchdog (manager : JobManager) (query : Query) :
    JobManager × Dict JobId StatusEntry :=
  if !manager.watchdog.cfg.enabled then (manager, query.result)
  else
    let named := manager.watchdog.verdicts query.result none query.clock
    named.1.items.foldl (failJob query.clock)
      ({ manager with watchdog := named.2 }, query.result)

/-- The manager a query leaves. -/
def afterQuery (manager : JobManager) (query : Query) : JobManager :=
  (applyWatchdog manager query).1

/-! ## Quiet queries -/

/-- No job of a query is turned into a failed one. -/
def FailsNone (manager : JobManager) (query : Query) : Prop :=
  ∀ jobId after, (applyWatchdog manager query).2.get? jobId = some after →
    after.status = .failed →
    ∃ before, query.result.get? jobId = some before ∧ before.status = .failed

/-- The known jobs that a query reports running. -/
def knownRunningOf (dog : Watchdog) (query : Query) : List (JobId × StatusEntry) :=
  query.result.items.filter fun item => (knownRunning dog item).isSome

/-- The jobs of a query that look stale against the listing in force. -/
def lookingStale (dog : Watchdog) (query : Query) : List Stale :=
  match dog.listing with
  | none => []
  | some listing =>
      query.result.items.filterMap (staleOf dog listing.ages listing.listedAt query.clock)

/-- A query that issues no verdict: nothing looks stale to it, or too much of
what it reports itself, or there is no verdict left to issue. -/
def Quiet (manager : JobManager) (query : Query) : Prop :=
  let dog := manager.watchdog
  dog.cfg.enabled = false ∨ lookingStale dog query = [] ∨
    faultGuard dog.cfg (knownRunningOf dog query).length (lookingStale dog query).length = true ∨
    dog.cfg.maxPerInterval ≤ dog.issuedThisInterval ∨ dog.cfg.dryRun = true ∨
    ∀ job ∈ lookingStale dog query, dog.cfg.maxPerBranch ≤ repeats dog job.branches

instance (manager : JobManager) (query : Query) : Decidable (Quiet manager query) :=
  inferInstanceAs (Decidable (_ ∨ _ ∨ _ ∨ _ ∨ _ ∨ _))

/-- A verdict that was issued stays issued. -/
theorem mem_keys_issue_of_mem {dog : Watchdog} {out : Dict JobId String} {stale : List Stale}
    {jobId : JobId} (named : jobId ∈ out.keys) : jobId ∈ (issue dog out stale).1.keys := by
  induction stale generalizing dog out with
  | nil => exact named
  | cons first rest ih =>
      rw [issue]
      split
      · exact named
      split
      · exact ih named
      split
      · exact ih named
      · exact ih (Dict.mem_keys_set.mpr (Or.inr named))

/-- When the loop over the stale jobs issues no verdict. -/
theorem issue_eq_empty_iff (dog : Watchdog) (stale : List Stale) :
    (issue dog Dict.empty stale).1.keys = [] ↔
      stale = [] ∨ dog.cfg.maxPerInterval ≤ dog.issuedThisInterval ∨ dog.cfg.dryRun = true ∨
        ∀ job ∈ stale, dog.cfg.maxPerBranch ≤ repeats dog job.branches := by
  induction stale with
  | nil => simp [issue]
  | cons first rest ih =>
      rw [issue]
      by_cases spent : dog.cfg.maxPerInterval ≤ dog.issuedThisInterval
      · simp [spent]
      by_cases capped : dog.cfg.maxPerBranch ≤ repeats dog first.branches
      · rw [if_neg spent, if_pos capped, ih]
        by_cases empty : rest = []
        · simp [empty, spent, capped]
        · simp [empty, spent, capped]
      by_cases dry : dog.cfg.dryRun = true
      · rw [if_neg spent, if_neg capped, if_pos dry, ih]
        simp [dry]
      · rw [if_neg spent, if_neg capped, if_neg dry]
        constructor
        · intro unnamed
          have named : first.jobId ∈ (issue { dog with
              perBranch := chargeBranches dog.perBranch first.branches
              issuedThisInterval := dog.issuedThisInterval + 1 }
              (Dict.empty.set first.jobId (reason dog.cfg first)) rest).1.keys :=
            mem_keys_issue_of_mem (Dict.mem_keys_set.mpr (Or.inl rfl))
          rw [unnamed] at named
          cases named
        · rintro (impossible | impossible | impossible | all)
          · cases impossible
          · exact absurd impossible spent
          · exact absurd impossible dry
          · exact absurd (all first List.mem_cons_self) capped

/-- A query gets no verdict exactly when it is quiet. -/
theorem verdicts_eq_empty_iff (manager : JobManager) (query : Query) :
    (manager.watchdog.verdicts query.result none query.clock).1.keys = [] ↔
      Quiet manager query := by
  unfold Quiet
  generalize manager.watchdog = dog
  cases enabled : dog.cfg.enabled with
  | false => simp [verdicts_of_idle (Or.inl enabled), enabled]
  | true =>
      cases inForce : dog.listing with
      | none => simp [verdicts_of_idle (Or.inr inForce), lookingStale, inForce]
      | some listing =>
          have passed := passed_scanJobs listing.ages listing.listedAt query.clock dog
            query.result.items
          have staleEq : (scanJobs dog listing.ages listing.listedAt query.clock
              query.result.items).stale = lookingStale dog query := by
            rw [passed.stale]
            simp [lookingStale, inForce]
          have runningEq : (scanJobs dog listing.ages listing.listedAt query.clock
              query.result.items).running.length = (knownRunningOf dog query).length := by
            rw [passed.running]
            simp [knownRunningOf]
          simp only [verdicts, enabled, Bool.not_true, Bool.false_eq_true, if_false, inForce,
            Option.getD_none, decideScan, staleEq, runningEq, passed.cfg]
          by_cases fresh : lookingStale dog query = []
          · simp [fresh]
          by_cases tripped : faultGuard dog.cfg (knownRunningOf dog query).length
              (lookingStale dog query).length = true
          · simp [tripped]
          rw [if_neg (by simp [fresh, tripped]), issue_eq_empty_iff]
          have sameRepeats : ∀ branches : List Branch,
              repeats (scanJobs dog listing.ages listing.listedAt query.clock
                query.result.items).dog branches = repeats dog branches := by
            intro branches
            rw [repeats, passed.perBranch]
            rfl
          simp [fresh, tripped, passed.cfg, passed.issued, sameRepeats]

/-! ## Failed jobs -/

/-- The entry of a job that is named by a verdict. -/
def failEntry (reason : String) (data : StatusEntry) : StatusEntry :=
  if data.status ≠ .running then data
  else { data with status := .failed, code := none, error := some reason }

theorem get?_failJob (clock : ℚ) (state : JobManager × Dict JobId StatusEntry)
    (verdict : JobId × String) (jobId : JobId) :
    (failJob clock state verdict).2.get? jobId =
      if jobId = verdict.1 then (state.2.get? jobId).map (failEntry verdict.2)
      else state.2.get? jobId := by
  rw [failJob]
  cases found : state.2.get? verdict.1 with
  | none =>
      by_cases same : jobId = verdict.1
      · simp [same, found]
      · simp [same]
  | some data =>
      dsimp only
      by_cases same : jobId = verdict.1
      · subst same
        unfold failEntry
        by_cases running : data.status = .running <;> simp [running, found]
      · by_cases running : data.status = .running <;> simp [running, same, Dict.get?_set]

theorem get?_foldl_failJob (clock : ℚ) (verdicts : List (JobId × String))
    (nodup : (verdicts.map Prod.fst).Nodup) (state : JobManager × Dict JobId StatusEntry)
    (jobId : JobId) :
    (verdicts.foldl (failJob clock) state).2.get? jobId =
      match Dict.lookupItems jobId verdicts with
      | none => state.2.get? jobId
      | some reason => (state.2.get? jobId).map (failEntry reason) := by
  induction verdicts generalizing state with
  | nil => rfl
  | cons verdict rest ih =>
      rw [List.map_cons, List.nodup_cons] at nodup
      rw [List.foldl_cons, ih nodup.2, get?_failJob]
      by_cases same : verdict.1 = jobId
      · have notLater : Dict.lookupItems jobId rest = none := by
          rw [Dict.lookupItems_eq_none_iff, ← same]
          exact nodup.1
        simp [Dict.lookupItems, same, notLater]
      · simp [Dict.lookupItems, same, Ne.symm same]

/-- A query fails none of its jobs exactly when it is quiet. -/
theorem failsNone_iff_quiet (manager : JobManager) (query : Query) :
    FailsNone manager query ↔ Quiet manager query := by
  rw [← verdicts_eq_empty_iff]
  rw [FailsNone, applyWatchdog]
  cases enabled : manager.watchdog.cfg.enabled with
  | false =>
      simp only [Bool.not_false, if_true, verdicts_of_idle (Or.inl enabled), Dict.keys_empty,
        iff_true]
      exact fun jobId after found failed => ⟨after, found, failed⟩
  | true =>
      simp only [Bool.not_true, Bool.false_eq_true, if_false]
      constructor
      · intro failsNone
        by_contra someNamed
        obtain ⟨jobId, named⟩ := List.exists_mem_of_ne_nil _ someNamed
        rcases Dict.mem_keys_iff.mp named with ⟨reason, verdict⟩
        obtain ⟨listing, _, item, itemMem, isItem, judged⟩ := stale_of_mem_keys_verdicts named
        have known := isSome_knownRunning judged
        obtain ⟨job, isJob⟩ := Option.isSome_iff_exists.mp known
        have running := (knownRunning_eq_some_iff.mp isJob).1
        have reported : query.result.get? jobId = some item.2 := by
          rw [Dict.get?_eq_some_iff, ← isItem]
          exact itemMem
        have failed := get?_foldl_failJob query.clock
          (manager.watchdog.verdicts query.result none query.clock).1.items
          (manager.watchdog.verdicts query.result none query.clock).1.nodupKeys
          ({ manager with
            watchdog := (manager.watchdog.verdicts query.result none query.clock).2 },
            query.result) jobId
        rw [show Dict.lookupItems jobId
          (manager.watchdog.verdicts query.result none query.clock).1.items = some reason
          from verdict] at failed
        simp only [reported, Option.map_some] at failed
        rcases failsNone jobId _ failed (by simp [failEntry, running]) with
          ⟨before, found, wasFailed⟩
        rw [reported, Option.some.injEq] at found
        rw [← found, running] at wasFailed
        cases wasFailed
      · intro unnamed jobId after found failed
        have noVerdict : (manager.watchdog.verdicts query.result none query.clock).1.items = [] :=
          List.map_eq_nil_iff.mp unnamed
        rw [noVerdict] at found
        exact ⟨after, found, failed⟩

/-! ## A poll over several projects -/

/-- The known running jobs of a poll, and those that look stale, each counted
in the state its query finds. -/
def pollTally (manager : JobManager) : List Query → Nat × Nat
  | [] => (0, 0)
  | query :: rest =>
      ((knownRunningOf manager.watchdog query).length +
          (pollTally (afterQuery manager query) rest).1,
        (lookingStale manager.watchdog query).length +
          (pollTally (afterQuery manager query) rest).2)

/-- Over a whole poll, enough jobs run and too many of them look stale. -/
def MostlyStale (manager : JobManager) (poll : List Query) : Prop :=
  minRunningForFaultGuard ≤ (pollTally manager poll).1 ∧
    manager.watchdog.cfg.maxStaleFraction * (pollTally manager poll).1 <
      (pollTally manager poll).2

theorem truncate_lt {value : ℚ} {bound : ℕ} (below : value < bound) (positive : 0 < bound) :
    truncate value < bound := by
  rw [truncate]
  by_cases negative : value.num < 0
  · have atLeast := Int.tdiv_nonneg (Int.neg_nonneg.mpr negative.le) (Int.natCast_nonneg value.den)
    rw [Int.neg_tdiv] at atLeast
    omega
  · rw [not_lt] at negative
    rw [Int.tdiv_eq_ediv_of_nonneg negative]
    have floorLt : ⌊value⌋ < (bound : ℤ) := Int.floor_lt.mpr (by exact_mod_cast below)
    rwa [Rat.floor_def'] at floorLt

/-- In a poll of one project, the guard of the query is that of the poll. -/
theorem quiet_of_mostlyStale {manager : JobManager} {query : Query}
    (mostly : MostlyStale manager [query]) : Quiet manager query := by
  rcases mostly with ⟨enough, tooMany⟩
  simp only [pollTally, Nat.add_zero] at enough tooMany
  by_cases fresh : lookingStale manager.watchdog query = []
  · exact Or.inr (Or.inl fresh)
  · right
    right
    left
    have positive := List.length_pos_iff.mpr fresh
    simp only [faultGuard, enough, decide_true, Bool.true_and, decide_eq_true_eq]
    exact truncate_lt tooMany positive

/-- A poll in which most running jobs look stale fails none of them exactly when
each of its queries is quiet by itself. -/
theorem mostlyStale_failsNone_iff (manager : JobManager) (poll : List Query) :
    (MostlyStale manager poll → Along afterQuery FailsNone manager poll) ↔
      (MostlyStale manager poll → Along afterQuery Quiet manager poll) := by
  have same : Along afterQuery FailsNone manager poll ↔ Along afterQuery Quiet manager poll := by
    rw [along_iff_forall_cut, along_iff_forall_cut]
    simp only [failsNone_iff_quiet]
  rw [same]

/-- The running jobs of a project of five branches. -/
def projectOf (task : String) : List JobId :=
  [1, 2, 3, 4, 5].map fun crabNum => ⟨crabNum, task, task⟩

/-- A query that reports all jobs of a project running. -/
def allRunning (task : String) (clock : ℚ) : Query :=
  ⟨Dict.ofList ((projectOf task).map fun jobId => (jobId, { status := .running })), clock⟩

/-- Two projects of five jobs each, running since an hour and a half ago on a
storage that takes no flags. -/
def flaglessStorage : JobManager where
  watchdog := run Watchdog.apply (Watchdog.new {})
    [.setJobs (Dict.ofList ((projectOf "first" ++ projectOf "second").zipIdx.map fun job =>
        (job.2, ⟨some job.1, [job.2]⟩))),
      .refresh none 0 (some []),
      .verdicts (allRunning "first" 10).result none 10,
      .verdicts (allRunning "second" 11).result none 11,
      .refresh none 5400 (some [])]
  siteStats := none
  statsFile := none
  statsSeen := ∅

/-- All ten running jobs look stale, and yet the first query fails its five. -/
theorem mostlyStale_not_failsNone :
    ¬ (MostlyStale flaglessStorage [allRunning "first" 5410, allRunning "second" 5411] →
      Along afterQuery FailsNone flaglessStorage
        [allRunning "first" 5410, allRunning "second" 5411]) := by
  intro promise
  have mostly : MostlyStale flaglessStorage
      [allRunning "first" 5410, allRunning "second" 5411] := by
    constructor <;> decide +kernel
  have quiet := (failsNone_iff_quiet _ _).mp (promise mostly).1
  revert quiet
  decide +kernel

end DSProd.Crab
