import DSProd.Crab.SiteRecord

/-!
# A branch that stalls again

A job that is failed for a stall comes back under a new job id, and the mark of
its first stall does not stop the record of its second.  So the promise about
the record of the sites holds for exactly the settings under which the watchdog
names no branch twice.
-/

namespace DSProd.Crab

open DSProd.Library
open DSProd.Watchdog

/-! ## One stall -/

/-- The only job of a project. -/
def onlyJob (task : String) : JobId :=
  ⟨1, task, task⟩

/-- A listing with one flag, that of the first branch. -/
def flagAt (date : ℚ) : List FlagEntry :=
  [⟨"0", some date, false⟩]

/-- A response that says of the only job that it runs. -/
def stillRunning (task : String) : Dict JobId StatusEntry :=
  Dict.empty.set (onlyJob task) { status := .running, siteHistory := ["T2_CH_CERN"] }

/-- The first branch runs as the only job of a project, and its flag is never
renewed. -/
def oneStall (cfg : Config) (task : String) (start : ℚ) : List Event :=
  [.setJobs (Dict.ofList [(1, ⟨some (onlyJob task), [0]⟩)]),
    .refresh start (some (flagAt start)),
    .query ⟨task, stillRunning task, start⟩,
    .refresh (start + staleSeconds cfg) (some (flagAt start)),
    .query ⟨task, stillRunning task, start + staleSeconds cfg⟩]

theorem age_flagAt {date since : ℚ} (now : ℚ) (counts : since ≤ date) :
    age (agesOf (flagAt date)) [0] now (some since) = some (max 0 (now - date)) := by
  have listed : (agesOf (flagAt date)).get? (flagName 0) = some date := rfl
  simp [age, stamps, listed, counts]

/-- A watchdog that knows the only job of a project, and the flag of its branch. -/
structure Watching (dog : Watchdog) (task : String) (date listedAt : ℚ) : Prop where
  enabled : dog.cfg.enabled = true
  positive : 0 < staleSeconds dog.cfg
  known : dog.byId.get? (keyOf (onlyJob task)) = some (1, [0])
  listing : dog.listing = some ⟨agesOf (flagAt date), listedAt⟩

/-- What a call of `verdicts` leaves of the fields that the next one reads. -/
structure Sighted (dog after : Watchdog) (task : String) (seen : ℚ) : Prop where
  cfg : after.cfg = dog.cfg
  byId : after.byId = dog.byId
  firstSeen : ∀ key, after.firstSeen.get? key =
    if key = keyOf (onlyJob task) then some (dog.firstSeen.getD key seen)
    else dog.firstSeen.get? key

theorem sighted_sight (dog : Watchdog) (task : String) (now seen : ℚ) (flags : Finset Key) :
    Sighted dog { dog.sight (keyOf (onlyJob task)) now seen with seenFlag := flags } task seen := by
  constructor
  case cfg | byId => rfl
  case firstSeen =>
    intro key
    simp only [sight, Dict.get?_setdefault]
    split
    · rename_i same
      rw [same]
    · rfl

/-- The call that first sees the job names nothing. -/
theorem verdicts_of_fresh {dog : Watchdog} {task : String} {date : ℚ}
    (watching : Watching dog task date date)
    (unsighted : dog.firstSeen.get? (keyOf (onlyJob task)) = none) :
    ∃ after, dog.verdicts (stillRunning task) none date = (Dict.empty, after) ∧
      Sighted dog after task date ∧ after.perBranch = dog.perBranch := by
  have known : knownRunning dog (onlyJob task,
      { status := .running, siteHistory := ["T2_CH_CERN"] }) = some (1, [0]) := watching.known
  have aged : ageOf dog (agesOf (flagAt date)) (keyOf (onlyJob task)) [0] date date = some 0 := by
    rw [ageOf, Dict.getD, unsighted, Option.getD_none, age_flagAt date (by simp [stampResolution])]
    simp
  have young : ¬ (staleSeconds dog.cfg : ℚ) ≤ 0 := not_le.mpr (by exact_mod_cast watching.positive)
  have scanned : scanJobs dog (agesOf (flagAt date)) date date (stillRunning task).items =
      scanJob (agesOf (flagAt date)) date date ⟨dog, [], []⟩
        (onlyJob task, { status := .running, siteHistory := ["T2_CH_CERN"] }) := rfl
  refine ⟨_, ?_, sighted_sight dog task date date
    (insert (keyOf (onlyJob task)) dog.seenFlag), rfl⟩
  simp only [verdicts, watching.enabled, Bool.not_true, Bool.false_eq_true, if_false,
    watching.listing, Option.getD_none, scanned, scanJob, known, ageOf_sight, aged]
  simp only [sight, young, if_false, decideScan, true_or, if_true]

theorem issue_of_affordable {dog : Watchdog} {out : Dict JobId String} {stale : Stale}
    (affordable : Affordable dog stale) :
    issue dog out [stale] = (out.set stale.jobId (reason dog.cfg stale), spend dog stale) := by
  rw [issue, if_neg (not_le.mpr affordable.interval), if_neg (not_le.mpr affordable.branches),
    affordable.earnest]
  rfl

/-- The job is named once its flag is old enough, while its branch has verdicts
left. -/
theorem verdicts_of_stale {dog : Watchdog} {task : String} {date : ℚ} (clock : ℚ)
    (watching : Watching dog task date (date + staleSeconds dog.cfg))
    (sighted : dog.firstSeen.get? (keyOf (onlyJob task)) = some date)
    (affordable : Affordable dog ⟨onlyJob task, 1, [0], some (staleSeconds dog.cfg : ℚ)⟩) :
    ∃ reason after,
      dog.verdicts (stillRunning task) none clock = (Dict.empty.set (onlyJob task) reason, after) ∧
        Sighted dog after task clock ∧ after.perBranch = chargeBranches dog.perBranch [0] := by
  have known : knownRunning dog (onlyJob task,
      { status := .running, siteHistory := ["T2_CH_CERN"] }) = some (1, [0]) := watching.known
  have aged : ageOf dog (agesOf (flagAt date)) (keyOf (onlyJob task)) [0]
      (date + staleSeconds dog.cfg) clock = some (staleSeconds dog.cfg : ℚ) := by
    rw [ageOf, Dict.getD, sighted, Option.getD_some, age_flagAt _ (by simp [stampResolution]),
      add_sub_cancel_left, max_eq_right (by exact_mod_cast watching.positive.le)]
  have scanned : scanJobs dog (agesOf (flagAt date)) (date + staleSeconds dog.cfg) clock
      (stillRunning task).items =
      scanJob (agesOf (flagAt date)) (date + staleSeconds dog.cfg) clock ⟨dog, [], []⟩
        (onlyJob task, { status := .running, siteHistory := ["T2_CH_CERN"] }) := rfl
  have few : ∀ cfg : Config, faultGuard cfg 1 1 = false := fun _ => rfl
  let sighted := { dog.sight (keyOf (onlyJob task)) (date + staleSeconds dog.cfg) clock with
    seenFlag := insert (keyOf (onlyJob task)) dog.seenFlag }
  have after := sighted_sight dog task (date + staleSeconds dog.cfg) clock
    (insert (keyOf (onlyJob task)) dog.seenFlag)
  let named : Stale := ⟨onlyJob task, 1, [0], some (staleSeconds dog.cfg : ℚ)⟩
  refine ⟨reason dog.cfg named, spend sighted named, ?_, ⟨after.cfg, after.byId, after.firstSeen⟩,
    rfl⟩
  have decided : decideScan ⟨sighted, [onlyJob task], [named]⟩ =
      (Dict.empty.set (onlyJob task) (reason dog.cfg named), spend sighted named) := by
    have alone : ¬ ([named] = [] ∨ faultGuard sighted.cfg 1 1 = true) := by
      rw [few]
      simp
    rw [decideScan, List.length_singleton, List.length_singleton, if_neg alone]
    exact issue_of_affordable ⟨affordable.interval, affordable.branches, affordable.earnest⟩
  simp only [verdicts, watching.enabled, Bool.not_true, Bool.false_eq_true, if_false,
    watching.listing, Option.getD_none, scanned, scanJob, known, ageOf_sight, aged]
  rw [← decided]
  simp only [sight, le_refl, if_true]
  rfl

/-- The job manager before the only job of a project is submitted. -/
structure Ready (cfg : Config) (harvester : Harvester) (task : String) (count : Nat) : Prop where
  cfg : harvester.manager.watchdog.cfg = cfg
  recorded : harvester.manager.siteStats.isSome = true
  unmarked : (onlyJob task, Mark.watchdog) ∉ harvester.manager.statsSeen
  unsighted : harvester.manager.watchdog.firstSeen.get? (keyOf (onlyJob task)) = none
  spent : harvester.manager.watchdog.perBranch.getD 0 0 = count

/-- The harvest marks no stall. -/
theorem mem_statsSeen_harvestSiteStats (harvester : Harvester) (projDir : String)
    (result : Dict JobId StatusEntry) (clock : ℚ) (jobId : JobId) :
    (jobId, Mark.watchdog) ∈ (harvestSiteStats harvester projDir result clock).manager.statsSeen ↔
      (jobId, Mark.watchdog) ∈ harvester.manager.statsSeen := by
  have one : ∀ harvest item, (jobId, Mark.watchdog) ∈ (harvestJob clock harvest item).seen ↔
      (jobId, Mark.watchdog) ∈ harvest.seen := by
    intro harvest item
    have noted : ∀ site ok, (jobId, Mark.watchdog) ∈
        (noteOutcome clock harvest item.1 site ok).seen ↔
          (jobId, Mark.watchdog) ∈ harvest.seen := by
      intro site ok
      rw [noteOutcome]
      split <;> simp
    rw [harvestJob]
    split
    · rfl
    · split <;> simp [noted]
  have loop : ∀ (items : List (JobId × StatusEntry)) (harvest : Harvest),
      (jobId, Mark.watchdog) ∈ (run (harvestJob clock) harvest items).seen ↔
        (jobId, Mark.watchdog) ∈ harvest.seen := by
    intro items
    induction items with
    | nil => exact fun _ => Iff.rfl
    | cons first rest ih => exact fun harvest => (ih _).trans (one harvest first)
  rw [harvestSiteStats]
  split
  · rfl
  · split
    · rfl
    · exact loop _ _

theorem isSome_harvestSiteStats (harvester : Harvester) (projDir : String)
    (result : Dict JobId StatusEntry) (clock : ℚ) :
    (harvestSiteStats harvester projDir result clock).manager.siteStats.isSome =
      harvester.manager.siteStats.isSome := by
  rw [harvestSiteStats]
  split
  · rfl
  · rename_i stats present
    split
    · rfl
    · rw [present]
      rfl

/-- A response none of whose jobs is named. -/
theorem step_of_unnamed {harvester : Harvester} {query : ProjectQuery} {after : Watchdog}
    (unnamed : harvester.manager.watchdog.verdicts query.query.result none query.query.clock =
      (Dict.empty, after)) :
    (harvester.step (.query query)).manager.watchdog = after ∧
      (harvester.step (.query query)).manager.siteStats.isSome =
        harvester.manager.siteStats.isSome ∧
      ∀ jobId, (jobId, Mark.watchdog) ∈ (harvester.step (.query query)).manager.statsSeen ↔
        (jobId, Mark.watchdog) ∈ harvester.manager.statsSeen := by
  have applied : applyWatchdog harvester.manager query.query =
      ({ harvester.manager with watchdog := after }, query.query.result) := by
    rw [applyWatchdog_eq_run, asked, unnamed]
    rfl
  simp only [Harvester.step, digest, applied, watchdog_harvestSiteStats, isSome_harvestSiteStats,
    mem_statsSeen_harvestSiteStats]
  simp

/-- A response whose only job is named: its stall is recorded, and the job is
forgotten. -/
theorem step_of_named {harvester : Harvester} {task reason : String} {clock : ℚ}
    {after : Watchdog}
    (isNamed : harvester.manager.watchdog.verdicts (stillRunning task) none clock =
      (Dict.empty.set (onlyJob task) reason, after))
    (known : after.byId.get? (keyOf (onlyJob task)) = some (1, [0]))
    (recorded : harvester.manager.siteStats.isSome = true)
    (unmarked : (onlyJob task, Mark.watchdog) ∉ harvester.manager.statsSeen) :
    1 ≤ stallsOf 0 (outcomes harvester (.query ⟨task, stillRunning task, clock⟩)) ∧
      (harvester.step (.query ⟨task, stillRunning task, clock⟩)).manager.watchdog =
        after.forget (onlyJob task) ∧
      (harvester.step (.query ⟨task, stillRunning task, clock⟩)).manager.siteStats.isSome = true ∧
      ∀ jobId, (jobId, Mark.watchdog) ∈
          (harvester.step (.query ⟨task, stillRunning task, clock⟩)).manager.statsSeen ↔
        jobId = onlyJob task ∨ (jobId, Mark.watchdog) ∈ harvester.manager.statsSeen := by
  obtain ⟨stats, present⟩ := Option.isSome_iff_exists.mp recorded
  have verdict : asked harvester.manager ⟨stillRunning task, clock⟩ =
      ([(onlyJob task, reason)], { harvester.manager with watchdog := after }) := by
    rw [asked, isNamed]
    rfl
  have reported : (stillRunning task).get? (onlyJob task) =
      some { status := .running, siteHistory := ["T2_CH_CERN"] } := by
    rw [stillRunning, Dict.get?_set_self]
  have one : stalls harvester.manager ⟨stillRunning task, clock⟩ =
      [⟨onlyJob task, .watchdog, "T2_CH_CERN", [0]⟩] := by
    rw [stalls, verdict, emitted_cons, emitted_nil, List.append_nil, stallOf]
    simp [reported, present, unmarked, branchesOf, known]
  have applied : (applyWatchdog harvester.manager ⟨stillRunning task, clock⟩).1 =
      recordStall { harvester.manager with watchdog := after.forget (onlyJob task) } clock
        (onlyJob task) "T2_CH_CERN" := by
    rw [applyWatchdog_eq_run, verdict, run_cons, run_nil, failJob]
    simp [reported]
  refine ⟨?_, ?_, ?_, ?_⟩
  · rw [outcomes, one, stallsOf_append]
    exact Nat.le_add_right 1 _
  · simp only [Harvester.step, digest, watchdog_harvestSiteStats, applied]
    simp [recordStall, present, unmarked]
  · simp only [Harvester.step, digest, isSome_harvestSiteStats, applied]
    simp [recordStall, present, unmarked]
  · intro jobId
    simp only [Harvester.step, digest, mem_statsSeen_harvestSiteStats, applied]
    simp [recordStall, present, unmarked]

/-- A refresh that works starts a new interval with its listing. -/
theorem watchdog_refresh {harvester : Harvester}
    (enabled : harvester.manager.watchdog.cfg.enabled = true) (clock : ℚ)
    (entries : List FlagEntry) :
    (harvester.step (.refresh clock (some entries))).manager.watchdog =
      { harvester.manager.watchdog with
        issuedThisInterval := 0
        listing := some ⟨agesOf entries, clock⟩ } := by
  simp [Harvester.step, refresh, enabled]

theorem jobsById_onlyJob (task : String) :
    (jobsById (Dict.ofList [(1, ⟨some (onlyJob task), [0]⟩)])).get? (keyOf (onlyJob task)) =
      some (1, [0]) := by
  have alone : jobsById (Dict.ofList [(1, ⟨some (onlyJob task), [0]⟩)]) =
      Dict.empty.set (keyOf (onlyJob task)) (1, [0]) := rfl
  rw [alone, Dict.get?_set_self]

/-- Settings under which the watchdog names jobs. -/
structure Names (cfg : Config) : Prop where
  enabled : cfg.enabled = true
  earnest : cfg.dryRun = false
  interval : 0 < cfg.maxPerInterval
  positive : 0 < staleSeconds cfg

theorem key_onlyJob_ne {task other : String} (different : other ≠ task) :
    keyOf (onlyJob other) ≠ keyOf (onlyJob task) := by
  simpa [keyOf, onlyJob] using different

/-- The job manager once the only job of a project has been seen running. -/
structure Seen (cfg : Config) (harvester : Harvester) (task : String) (date : ℚ) (count : Nat) :
    Prop where
  cfg : harvester.manager.watchdog.cfg = cfg
  recorded : harvester.manager.siteStats.isSome = true
  unmarked : (onlyJob task, Mark.watchdog) ∉ harvester.manager.statsSeen
  known : harvester.manager.watchdog.byId.get? (keyOf (onlyJob task)) = some (1, [0])
  sighted : harvester.manager.watchdog.firstSeen.get? (keyOf (onlyJob task)) = some date
  spent : harvester.manager.watchdog.perBranch.getD 0 0 = count

/-- The first three events of `oneStall`. -/
def sighting (task : String) (start : ℚ) : List Event :=
  [.setJobs (Dict.ofList [(1, ⟨some (onlyJob task), [0]⟩)]),
    .refresh start (some (flagAt start)),
    .query ⟨task, stillRunning task, start⟩]

/-- The last two events of `oneStall`. -/
def condemning (cfg : Config) (task : String) (start : ℚ) : List Event :=
  [.refresh (start + staleSeconds cfg) (some (flagAt start)),
    .query ⟨task, stillRunning task, start + staleSeconds cfg⟩]

theorem seen_of_ready {cfg : Config} (names : Names cfg) {harvester : Harvester} {task : String}
    {count : Nat} (ready : Ready cfg harvester task count) (start : ℚ) :
    Seen cfg (run Harvester.step harvester (sighting task start)) task start count ∧
      ∀ other, other ≠ task → Ready cfg harvester other count →
        Ready cfg (run Harvester.step harvester (sighting task start)) other count := by
  let known := harvester.step (.setJobs (Dict.ofList [(1, ⟨some (onlyJob task), [0]⟩)]))
  let listed := known.step (.refresh start (some (flagAt start)))
  have enabled : known.manager.watchdog.cfg.enabled = true := by
    rw [show known.manager.watchdog.cfg = cfg from ready.cfg]
    exact names.enabled
  have listedDog : listed.manager.watchdog = _ := watchdog_refresh enabled start (flagAt start)
  have watching : Watching listed.manager.watchdog task start start := by
    rw [listedDog]
    constructor
    case enabled => exact enabled
    case positive =>
      rw [show known.manager.watchdog.cfg = cfg from ready.cfg]
      exact names.positive
    case known => exact jobsById_onlyJob task
    case listing => rfl
  have unsighted : listed.manager.watchdog.firstSeen.get? (keyOf (onlyJob task)) = none := by
    rw [listedDog]
    exact ready.unsighted
  obtain ⟨after, verdicts, sighted, charged⟩ := verdicts_of_fresh watching unsighted
  let query : ProjectQuery := ⟨task, stillRunning task, start⟩
  have unnamed : listed.manager.watchdog.verdicts query.query.result none query.query.clock =
    (Dict.empty, after) := verdicts
  obtain ⟨dog, stats, marks⟩ := step_of_unnamed unnamed
  have cfgAfter : after.cfg = cfg := by
    rw [sighted.cfg, listedDog]
    exact ready.cfg
  have spentAfter : after.perBranch.getD 0 0 = count := by
    rw [charged, listedDog]
    exact ready.spent
  have final : run Harvester.step harvester (sighting task start) =
    listed.step (.query query) := rfl
  rw [final]
  constructor
  · constructor
    case cfg => exact dog ▸ cfgAfter
    case recorded => exact stats.trans ready.recorded
    case unmarked => exact fun marked => ready.unmarked ((marks _).mp marked)
    case known =>
      rw [dog, sighted.byId]
      exact watching.known
    case sighted =>
      rw [dog, sighted.firstSeen, if_pos rfl, Dict.getD, unsighted]
      rfl
    case spent => exact dog ▸ spentAfter
  · intro other different readyOther
    constructor
    case cfg => exact dog ▸ cfgAfter
    case recorded => exact stats.trans ready.recorded
    case unmarked => exact fun marked => readyOther.unmarked ((marks _).mp marked)
    case unsighted =>
      rw [dog, sighted.firstSeen, if_neg (key_onlyJob_ne different), listedDog]
      exact readyOther.unsighted
    case spent => exact dog ▸ spentAfter

theorem stalled_of_seen {cfg : Config} (names : Names cfg) {harvester : Harvester}
    {task : String} {start : ℚ} {count : Nat} (spare : (count : ℤ) < cfg.maxPerBranch)
    (seen : Seen cfg harvester task start count) :
    1 ≤ stallsOf 0 (emitted Harvester.step outcomes harvester (condemning cfg task start)) ∧
      ∀ other, other ≠ task → Ready cfg harvester other count →
        Ready cfg (run Harvester.step harvester (condemning cfg task start)) other (count + 1) := by
  let listed := harvester.step (.refresh (start + staleSeconds cfg) (some (flagAt start)))
  have enabled : harvester.manager.watchdog.cfg.enabled = true := by
    rw [seen.cfg]
    exact names.enabled
  have listedDog : listed.manager.watchdog = _ :=
    watchdog_refresh enabled (start + staleSeconds cfg) (flagAt start)
  have sameCfg : listed.manager.watchdog.cfg = cfg := by
    rw [listedDog]
    exact seen.cfg
  have watching : Watching listed.manager.watchdog task start
      (start + staleSeconds listed.manager.watchdog.cfg) := by
    constructor
    case enabled => exact sameCfg ▸ names.enabled
    case positive => exact sameCfg ▸ names.positive
    case known =>
      rw [listedDog]
      exact seen.known
    case listing =>
      rw [sameCfg, listedDog]
  have sighted : listed.manager.watchdog.firstSeen.get? (keyOf (onlyJob task)) = some start := by
    rw [listedDog]
    exact seen.sighted
  have spent : listed.manager.watchdog.perBranch.getD 0 0 = count := by
    rw [listedDog]
    exact seen.spent
  have affordable : ∀ age, Affordable listed.manager.watchdog ⟨onlyJob task, 1, [0], age⟩ := by
    intro age
    constructor
    case interval =>
      rw [sameCfg, listedDog]
      exact names.interval
    case branches =>
      rw [sameCfg]
      simpa [repeats, spent] using spare
    case earnest => exact sameCfg ▸ names.earnest
  obtain ⟨reason, after, verdicts, kept, charged⟩ :=
    verdicts_of_stale (start + staleSeconds cfg) watching sighted (affordable _)
  have known : after.byId.get? (keyOf (onlyJob task)) = some (1, [0]) := by
    rw [kept.byId]
    exact watching.known
  have unmarked : (onlyJob task, Mark.watchdog) ∉ listed.manager.statsSeen := seen.unmarked
  obtain ⟨stall, dog, stats, marks⟩ := step_of_named verdicts known seen.recorded unmarked
  let query : ProjectQuery := ⟨task, stillRunning task, start + staleSeconds cfg⟩
  have final : run Harvester.step harvester (condemning cfg task start) =
    listed.step (.query query) := rfl
  constructor
  · have emits : emitted Harvester.step outcomes harvester (condemning cfg task start) =
        outcomes listed (.query query) ++ [] := rfl
    rw [emits, List.append_nil]
    exact stall
  · intro other different ready
    rw [final]
    constructor
    case cfg =>
      rw [dog]
      exact kept.cfg.trans sameCfg
    case recorded => exact stats
    case unmarked =>
      intro marked
      rcases (marks _).mp marked with same | earlier
      · exact different (congrArg JobId.taskName same)
      · exact ready.unmarked earlier
    case unsighted =>
      rw [dog]
      have notTask := key_onlyJob_ne different
      simp only [forget, Dict.get?_pop, notTask, if_false, kept.firstSeen]
      rw [listedDog]
      exact ready.unsighted
    case spent =>
      rw [dog]
      have total := getD_chargeBranches listed.manager.watchdog.perBranch [0] 0
      rw [spent] at total
      simpa [forget, charged] using total

/-- While the branch has verdicts left, its stall in a new project is recorded,
and charged to the branch. -/
theorem stallsOf_oneStall {cfg : Config} (names : Names cfg) {harvester : Harvester}
    {task : String} {count : Nat} (spare : (count : ℤ) < cfg.maxPerBranch)
    (ready : Ready cfg harvester task count) (start : ℚ) :
    1 ≤ stallsOf 0 (emitted Harvester.step outcomes harvester (oneStall cfg task start)) ∧
      ∀ other, other ≠ task → Ready cfg harvester other count →
        Ready cfg (run Harvester.step harvester (oneStall cfg task start)) other (count + 1) := by
  have parts : oneStall cfg task start = sighting task start ++ condemning cfg task start := rfl
  obtain ⟨seen, others⟩ := seen_of_ready names ready start
  obtain ⟨stall, charged⟩ := stalled_of_seen names spare seen
  rw [parts, emitted_append, stallsOf_append, run_append]
  constructor
  · exact stall.trans (Nat.le_add_left _ _)
  · intro other different readyOther
    exact charged other different (others other different readyOther)

/-- An empty record of sites. -/
def emptyStats : SiteStats :=
  SiteStats.new {}

/-- A branch whose job stalls, is submitted again, and stalls again. -/
def stallsTwice (cfg : Config) : List Event :=
  oneStall cfg "first" 0 ++ oneStall cfg "second" (staleSeconds cfg)

/-- With two verdicts for a branch, both of its stalls are recorded. -/
theorem two_le_stallsOf_stallsTwice {cfg : Config} (names : Names cfg)
    (two : 2 ≤ cfg.maxPerBranch) :
    2 ≤ stallsOf 0 (emitted Harvester.step outcomes (Harvester.new cfg (some emptyStats))
      (stallsTwice cfg)) := by
  have ready : ∀ task, Ready cfg (Harvester.new cfg (some emptyStats)) task 0 := by
    intro task
    constructor <;> simp [Harvester.new, new, Dict.getD]
  obtain ⟨first, others⟩ := stallsOf_oneStall names (by push_cast; omega) (ready "first") 0
  have again := others "second" (by decide) (ready "second")
  obtain ⟨second, _⟩ := stallsOf_oneStall names (by push_cast; omega) again (staleSeconds cfg)
  rw [stallsTwice, emitted_append, stallsOf_append]
  omega

theorem names_of_accepted {raw : RawConfig} {cfg : Config} (accepted : watchdogConfig raw = .ok cfg)
    (notOnce : ¬ OncePerBranch cfg) : Names cfg ∧ 2 ≤ cfg.maxPerBranch := by
  obtain ⟨missed, interval⟩ := watchdogConfig_bounds accepted
  rw [OncePerBranch, not_or, not_or, not_or] at notOnce
  obtain ⟨branch, enabled, dry, budget⟩ := notOnce
  constructor
  · constructor
    case enabled => simpa using enabled
    case earnest => simpa using dry
    case interval => omega
    case positive =>
      rw [staleSeconds, intervalSeconds]
      rw [minIntervalMinutes] at interval
      positivity
  · omega

/-- The promise about the record of the sites is kept in every run for exactly
the settings under which the watchdog names no branch twice. -/
theorem whatEnters_iff_oncePerBranch {raw : RawConfig} {cfg : Config}
    (accepted : watchdogConfig raw = .ok cfg) :
    (∀ siteStats events, WhatEnters (Harvester.new cfg siteStats) events) ↔ OncePerBranch cfg := by
  constructor
  · intro always
    by_contra notOnce
    obtain ⟨names, two⟩ := names_of_accepted accepted notOnce
    have twice := two_le_stallsOf_stallsTwice names two
    have once := (always (some emptyStats) (stallsTwice cfg)).branch 0
    rw [stallsOf] at twice
    omega
  · intro once siteStats events
    exact whatEnters_of_oncePerBranch once siteStats events

theorem whatEnters_stallsTwice :
    WhatEnters (Harvester.new {} (some emptyStats)) (stallsTwice {}) := by
  have accepted : watchdogConfig .absent = .ok {} := rfl
  have once : OncePerBranch {} := Or.inl (by decide)
  exact (whatEnters_iff_oncePerBranch accepted).mpr once _ _

/-- With `max_per_branch: 2` a branch that stalls twice is recorded twice. -/
theorem not_whatEnters_stallsTwice :
    watchdogConfig (.block { maxPerBranch := some 2 }) = .ok { maxPerBranch := 2 } ∧
      ¬ WhatEnters (Harvester.new { maxPerBranch := 2 } (some emptyStats))
        (stallsTwice { maxPerBranch := 2 }) := by
  constructor
  · rfl
  · intro promise
    have names : Names { maxPerBranch := 2 } := by
      constructor <;> decide
    have twice := two_le_stallsOf_stallsTwice names (by decide)
    have once := promise.branch 0
    rw [stallsOf] at twice
    omega

end DSProd.Crab
