import DSProd.Crab.InFlight

/-!
# What enters the site record

Outcomes reach the record from two loops, each keeping its own marks in one set
of jobs already recorded.  A run of events is followed by the list of what it
records, and what holds of that list is carried by the marks and by the budget
of the watchdog.

The marks of the watchdog name a job, not a branch.  A branch comes back under
a new job, so its stalls are recorded once only where the watchdog itself
names a branch once.
-/

namespace DSProd.Crab

open DSProd.Library
open DSProd.Watchdog

/-! ## The promise -/

/-- The outcome a mark stands for is what CRAB said of a job. -/
def Said (result : Dict JobId StatusEntry) (outcome : Outcome) : Prop :=
  ∃ data, result.get? outcome.jobId = some data ∧ data.siteHistory.getLast? = some outcome.site ∧
    match outcome.mark with
    | .outcome true => data.status = .finished
    | .outcome false => data.status = .failed ∧ data.code.isSome = true
    | .watchdog => data.status = .running

/-- The promise about a run of events.  Each job adds one outcome of each kind
at most; each outcome is what CRAB said of the job, a failure with its code,
but for those of the watchdog, which it adds for running jobs it names, one for
each branch at most; nothing else enters the record; and a harvest leaves the
jobs in flight of every site as they are in the latest responses. -/
structure WhatEnters (start : Harvester) (events : List Event) : Prop where
  once : ∀ jobId ok, (emitted Harvester.step outcomes start events).countP
    (fun outcome => outcome.key = (jobId, Mark.outcome ok)) ≤ 1
  said : ∀ before query after, events = before ++ .query query :: after →
    ∀ outcome ∈ outcomes (run Harvester.step start before) (.query query),
      Said query.query.result outcome ∧
        (outcome.mark = .watchdog →
          outcome.jobId ∈ named (run Harvester.step start before).manager.watchdog
            (.verdicts query.query.result none query.query.clock))
  branch : ∀ branch, (emitted Harvester.step outcomes start events).countP
    (fun outcome => outcome.mark = .watchdog ∧ branch ∈ outcome.branches) ≤ 1
  entered : ∀ before query after, events = before ++ .query query :: after →
    ∀ stats, (run Harvester.step start before).manager.siteStats = some stats →
      ∃ recorded, ((run Harvester.step start before).step (.query query)).manager.siteStats =
          some recorded ∧
        recorded.sites = (enter query.query.clock stats
          (outcomes (run Harvester.step start before) (.query query))).sites
  inFlight : ∀ before query after, events = before ++ .query query :: after →
    counts (run Harvester.step start before) (.query query) ≠ [] →
    ∃ stats, ((run Harvester.step start before).step (.query query)).manager.siteStats =
        some stats ∧
      ∀ site, SiteStats.isSite site = true →
        stats.inFlight.getD site 0 =
          let log := emitted Harvester.step counts start (before ++ [.query query])
          ∑ projDir ∈ (log.map Counted.projDir).toFinset,
            (latest projDir log).elim 0 fun counted => inFlightAt counted.result site

/-! ## Marks -/

/-- What has been recorded is marked, each outcome by a mark of its own. -/
structure Keyed (seen : Finset (JobId × Mark)) (log : List Outcome) : Prop where
  distinct : (log.map Outcome.key).Nodup
  marked : ∀ outcome ∈ log, outcome.key ∈ seen

theorem keyed_concat {seen : Finset (JobId × Mark)} {log : List Outcome} {outcome : Outcome}
    {key : JobId × Mark} (keyed : Keyed seen log) (isKey : outcome.key = key)
    (fresh : key ∉ seen) : Keyed (insert key seen) (log ++ [outcome]) := by
  subst isKey
  constructor
  · rw [List.map_append, List.map_singleton, ← List.concat_eq_append, List.nodup_concat]
    constructor
    · intro earlier
      rcases List.mem_map.mp earlier with ⟨other, member, same⟩
      exact fresh (same ▸ keyed.marked other member)
    · exact keyed.distinct
  · intro other member
    rw [List.mem_append, List.mem_singleton] at member
    rcases member with earlier | rfl
    · exact Finset.mem_insert_of_mem (keyed.marked other earlier)
    · exact Finset.mem_insert_self _ _

/-- A mark is there once at most. -/
theorem countP_key_le_one {seen : Finset (JobId × Mark)} {log : List Outcome}
    (keyed : Keyed seen log) (key : JobId × Mark) :
    log.countP (fun outcome => outcome.key = key) ≤ 1 := by
  have counted := List.nodup_iff_count_le_one.mp keyed.distinct key
  rw [List.count_eq_countP, List.countP_map] at counted
  have same : (fun outcome : Outcome => decide (outcome.key = key)) =
      (fun found => found == key) ∘ Outcome.key := by
    funext outcome
    exact (beq_eq_decide _ _).symm
  rwa [same]

theorem keyed_failJob (clock : ℚ) (state : JobManager × Dict JobId StatusEntry)
    (log : List Outcome) (verdict : JobId × String) (keyed : Keyed state.1.statsSeen log) :
    Keyed (failJob clock state verdict).1.statsSeen (log ++ stallOf state verdict) := by
  rw [failJob, stallOf]
  cases found : state.2.get? verdict.1 with
  | none => simpa using keyed
  | some data =>
      by_cases running : data.status = .running
      · cases recorded : state.1.siteStats with
        | none => simpa [running, recordStall, recorded] using keyed
        | some stats =>
            by_cases nowhere : data.siteHistory.getLast?.getD "" = ""
            · simpa [running, recordStall, recorded, nowhere] using keyed
            by_cases seen : (verdict.1, Mark.watchdog) ∈ state.1.statsSeen
            · simpa [running, recordStall, recorded, nowhere, seen] using keyed
            · simp only [running, recordStall, recorded, nowhere, seen, ne_eq, not_true_eq_false,
                or_self, if_false]
              exact keyed_concat keyed rfl seen
      · cases recorded : state.1.siteStats <;> simpa [running, recorded] using keyed

theorem keyed_harvestJob (clock : ℚ) (dog : Watchdog) (harvest : Harvest) (log : List Outcome)
    (item : JobId × StatusEntry) (keyed : Keyed harvest.seen log) :
    Keyed (harvestJob clock harvest item).seen (log ++ outcomeOf dog harvest item) := by
  have noted : ∀ site ok, Keyed (noteOutcome clock harvest item.1 site ok).seen
      (log ++ if (item.1, Mark.outcome ok) ∈ harvest.seen then []
        else [⟨item.1, .outcome ok, site, branchesOf dog item.1⟩]) := by
    intro site ok
    rw [noteOutcome]
    split
    · simpa using keyed
    · rename_i fresh
      exact keyed_concat keyed rfl fresh
  rw [harvestJob, outcomeOf]
  cases item.2.siteHistory.getLast? with
  | none => simpa using keyed
  | some site =>
      cases status : item.2.status with
      | finished => exact noted site true
      | pending | running | retry => simpa using keyed
      | failed =>
          cases item.2.code with
          | none => simpa using keyed
          | some code => exact noted site false

/-- The loop of `_apply_watchdog` as a run, whether or not the watchdog is on. -/
theorem applyWatchdog_eq_run (manager : JobManager) (query : Query) :
    applyWatchdog manager query =
      run (failJob query.clock) ((asked manager query).2, query.result)
        (asked manager query).1 := by
  rw [applyWatchdog, asked]
  cases enabled : manager.watchdog.cfg.enabled with
  | true => rfl
  | false =>
      rw [verdicts_of_idle (Or.inl enabled)]
      rfl

theorem keyed_applyWatchdog (manager : JobManager) (query : Query) {log : List Outcome}
    (keyed : Keyed manager.statsSeen log) :
    Keyed (applyWatchdog manager query).1.statsSeen (log ++ stalls manager query) := by
  let marked : JobManager × Dict JobId StatusEntry → List Outcome → Prop := fun state log =>
    Keyed state.1.statsSeen log
  have keeps : ∀ state log verdict, marked state log →
      marked (failJob query.clock state verdict) (log ++ stallOf state verdict) :=
    keyed_failJob query.clock
  have start : marked ((asked manager query).2, query.result) log := keyed
  rw [applyWatchdog_eq_run]
  exact invariant_run_emitted keeps start (asked manager query).1

theorem keyed_harvestSiteStats (harvester : Harvester) (projDir : String)
    (result : Dict JobId StatusEntry) (clock : ℚ) {log : List Outcome}
    (keyed : Keyed harvester.manager.statsSeen log) :
    Keyed (harvestSiteStats harvester projDir result clock).manager.statsSeen
      (log ++ harvested harvester result clock) := by
  rw [harvestSiteStats, harvested]
  cases harvester.manager.siteStats with
  | none => simpa using keyed
  | some stats =>
      dsimp only
      split
      · rename_i empty
        simpa [empty] using keyed
      · let marked : Harvest → List Outcome → Prop := fun harvest log => Keyed harvest.seen log
        have keeps : ∀ harvest log item, marked harvest log →
            marked (harvestJob clock harvest item)
              (log ++ outcomeOf harvester.manager.watchdog harvest item) :=
          keyed_harvestJob clock harvester.manager.watchdog
        have start : marked ⟨harvester.manager.statsSeen, stats, Dict.empty⟩ log := keyed
        exact invariant_run_emitted keeps start result.items

theorem keyed_step (harvester : Harvester) (log : List Outcome) (event : Event)
    (keyed : Keyed harvester.manager.statsSeen log) :
    Keyed (harvester.step event).manager.statsSeen (log ++ outcomes harvester event) := by
  cases event with
  | setJobs | refresh | blacklist => simpa [Harvester.step, outcomes] using keyed
  | query query =>
      rw [outcomes, ← List.append_assoc]
      exact keyed_harvestSiteStats
        { harvester with manager := (applyWatchdog harvester.manager query.query).1 } _ _ _
        (keyed_applyWatchdog harvester.manager query.query keyed)

/-! ## What CRAB said -/

/-- What a response says of a job after the verdicts: what CRAB said, or a
failure without a code. -/
theorem get?_applyWatchdog {manager : JobManager} {query : Query} {jobId : JobId}
    {after : StatusEntry} (found : (applyWatchdog manager query).2.get? jobId = some after) :
    query.result.get? jobId = some after ∨ after.status = .failed ∧ after.code = none := by
  rw [applyWatchdog_eq_run] at found
  have spec := get?_foldl_failJob query.clock (asked manager query).1
    (manager.watchdog.verdicts query.result none query.clock).1.nodupKeys
    ((asked manager query).2, query.result) jobId
  have same := found.symm.trans spec
  cases verdict : Dict.lookupItems jobId (asked manager query).1 with
  | none =>
      rw [verdict] at same
      exact Or.inl same.symm
  | some reason =>
      cases said : query.result.get? jobId with
      | none => simp [verdict, said] at same
      | some before =>
          simp only [verdict, said, Option.map_some, Option.some.injEq, failEntry] at same
          split at same
          · exact Or.inl (by rw [same])
          · rw [same]
            exact Or.inr ⟨rfl, rfl⟩

/-- The verdict of a job is read while its entry is still what CRAB said. -/
theorem get?_run_failJob {clock : ℚ} {before after : List (JobId × String)}
    {verdict : JobId × String}
    (distinct : ((before ++ verdict :: after).map Prod.fst).Nodup)
    (state : JobManager × Dict JobId StatusEntry) :
    (run (failJob clock) state before).2.get? verdict.1 = state.2.get? verdict.1 := by
  rw [List.map_append, List.map_cons, List.nodup_middle, List.nodup_cons] at distinct
  have notBefore : verdict.1 ∉ before.map Prod.fst := fun earlier =>
    distinct.1 (List.mem_append_left _ earlier)
  have spec := get?_foldl_failJob clock before (List.nodup_append.mp distinct.2).1 state verdict.1
  rw [Dict.lookupItems_eq_none_iff.mpr notBefore] at spec
  exact spec

/-- What `failJob` records, it records of a job that is running. -/
theorem eq_of_mem_stallOf {state : JobManager × Dict JobId StatusEntry}
    {verdict : JobId × String} {outcome : Outcome} (recorded : outcome ∈ stallOf state verdict) :
    outcome.jobId = verdict.1 ∧ outcome.mark = .watchdog ∧
      outcome.branches = branchesOf state.1.watchdog verdict.1 ∧
      ∃ data, state.2.get? verdict.1 = some data ∧ data.status = .running ∧
        data.siteHistory.getLast? = some outcome.site := by
  rw [stallOf] at recorded
  split at recorded
  · rename_i data stats found _
    dsimp only at recorded
    split at recorded
    · simp at recorded
    · rename_i fresh
      rw [List.mem_singleton] at recorded
      subst recorded
      simp only [not_or, not_not] at fresh
      refine ⟨rfl, rfl, rfl, data, found, fresh.1, ?_⟩
      cases last : data.siteHistory.getLast? with
      | none => simp [last] at fresh
      | some site => rfl
  · simp at recorded

theorem said_of_mem_stalls {manager : JobManager} {query : Query} {outcome : Outcome}
    (member : outcome ∈ stalls manager query) :
    outcome.mark = .watchdog ∧ Said query.result outcome ∧
      outcome.jobId ∈ named manager.watchdog (.verdicts query.result none query.clock) := by
  obtain ⟨before, verdict, after, cut, recorded⟩ := mem_emitted_iff.mp member
  have distinct : ((asked manager query).1.map Prod.fst).Nodup :=
    (manager.watchdog.verdicts query.result none query.clock).1.nodupKeys
  have isNamed : verdict.1 ∈ (asked manager query).1.map Prod.fst := by
    rw [cut]
    simp
  obtain ⟨sameJob, isStall, _, data, found, running, last⟩ := eq_of_mem_stallOf recorded
  rw [cut] at distinct
  rw [get?_run_failJob distinct] at found
  refine ⟨isStall, ⟨data, sameJob ▸ found, last, ?_⟩, sameJob ▸ isNamed⟩
  rw [isStall]
  exact running

/-- What the harvest records is what the response says. -/
theorem said_of_mem_outcomeOf {dog : Watchdog} {harvest : Harvest} {item : JobId × StatusEntry}
    {outcome : Outcome} (recorded : outcome ∈ outcomeOf dog harvest item) :
    outcome.jobId = item.1 ∧ item.2.siteHistory.getLast? = some outcome.site ∧
      (outcome.mark = .outcome true ∧ item.2.status = .finished ∨
        outcome.mark = .outcome false ∧ item.2.status = .failed ∧ item.2.code.isSome = true) := by
  have noted : ∀ site ok, item.2.siteHistory.getLast? = some site →
      (outcome ∈ if (item.1, Mark.outcome ok) ∈ harvest.seen then []
        else [(⟨item.1, .outcome ok, site, branchesOf dog item.1⟩ : Outcome)]) →
      outcome.jobId = item.1 ∧ item.2.siteHistory.getLast? = some outcome.site ∧
        outcome.mark = .outcome ok := by
    intro site ok last member
    split at member
    · simp at member
    · rw [List.mem_singleton] at member
      subst member
      exact ⟨rfl, last, rfl⟩
  rw [outcomeOf] at recorded
  cases last : item.2.siteHistory.getLast? with
  | none => simp [last] at recorded
  | some site =>
      rw [last] at recorded
      cases status : item.2.status with
      | finished =>
          rw [status] at recorded
          obtain ⟨sameJob, sameSite, mark⟩ := noted site true last recorded
          exact ⟨sameJob, last ▸ sameSite, Or.inl ⟨mark, rfl⟩⟩
      | pending | running | retry => simp [status] at recorded
      | failed =>
          cases code : item.2.code with
          | none => simp [status, code] at recorded
          | some exitCode =>
              rw [status, code] at recorded
              obtain ⟨sameJob, sameSite, mark⟩ := noted site false last recorded
              exact ⟨sameJob, last ▸ sameSite, Or.inr ⟨mark, rfl, rfl⟩⟩

theorem said_of_mem_harvested {manager : JobManager} {query : Query} {harvester : Harvester}
    {outcome : Outcome}
    (member : outcome ∈ harvested harvester (applyWatchdog manager query).2 query.clock) :
    outcome.mark ≠ .watchdog ∧ Said query.result outcome := by
  rw [harvested] at member
  split at member
  · simp at member
  obtain ⟨before, item, after, cut, recorded⟩ := mem_emitted_iff.mp member
  have listed : item ∈ (applyWatchdog manager query).2.items := by
    rw [cut]
    simp
  have found := Dict.get?_eq_some_iff.mpr listed
  obtain ⟨sameJob, last, kind⟩ := said_of_mem_outcomeOf recorded
  have untouched : query.result.get? item.1 = some item.2 := by
    rcases get?_applyWatchdog found with said | ⟨failed, noCode⟩
    · exact said
    · rcases kind with ⟨_, finished⟩ | ⟨_, _, coded⟩
      · rw [failed] at finished
        cases finished
      · rw [noCode] at coded
        cases coded
  rcases kind with ⟨mark, finished⟩ | ⟨mark, failed⟩
  · refine ⟨by simp [mark], item.2, sameJob ▸ untouched, last, ?_⟩
    rw [mark]
    exact finished
  · refine ⟨by simp [mark], item.2, sameJob ▸ untouched, last, ?_⟩
    rw [mark]
    exact failed

/-- Every outcome of a response is what CRAB said in it. -/
theorem said_of_mem_outcomes {harvester : Harvester} {query : ProjectQuery} {outcome : Outcome}
    (member : outcome ∈ outcomes harvester (.query query)) :
    Said query.query.result outcome ∧
      (outcome.mark = .watchdog → outcome.jobId ∈ named harvester.manager.watchdog
        (.verdicts query.query.result none query.query.clock)) := by
  rw [outcomes, List.mem_append] at member
  rcases member with stall | ended
  · obtain ⟨_, said, isNamed⟩ := said_of_mem_stalls stall
    exact ⟨said, fun _ => isNamed⟩
  · obtain ⟨notStall, said⟩ := said_of_mem_harvested ended
    exact ⟨said, fun stall => absurd stall notStall⟩

/-! ## Nothing else enters -/

/-- A record that differs from another one by some outcomes. -/
structure Entered (clock : ℚ) (start : SiteStats) (log : List Outcome) (current : SiteStats) :
    Prop where
  cfg : current.cfg = start.cfg
  sites : current.sites = (enter clock start log).sites

theorem cfg_enter (clock : ℚ) (start : SiteStats) (log : List Outcome) :
    (enter clock start log).cfg = start.cfg := by
  induction log generalizing start with
  | nil => rfl
  | cons first rest ih =>
      rw [enter, List.foldl_cons]
      refine (ih _).trans ?_
      rw [SiteStats.record]
      split <;> rfl

/-- What a record becomes depends on its settings and its sites alone. -/
theorem entered_record {clock : ℚ} {start current : SiteStats} {log : List Outcome}
    (entered : Entered clock start log current) (outcome : Outcome) :
    Entered clock start (log ++ [outcome])
      (current.record outcome.site outcome.ok clock) := by
  have cfg : current.cfg = (enter clock start log).cfg :=
    entered.cfg.trans (cfg_enter clock start log).symm
  constructor
  · rw [SiteStats.record]
    split
    · exact entered.cfg
    · exact entered.cfg
  · rw [enter, List.foldl_append, List.foldl_cons, List.foldl_nil, ← enter]
    simp only [SiteStats.record]
    split
    · exact entered.sites
    · simp only [SiteStats.prune, entered.sites, cfg]

/-- The record of a state, entered from the record a query starts with. -/
def EnteredInto (clock : ℚ) (start : SiteStats) (current : Option SiteStats)
    (log : List Outcome) : Prop :=
  ∃ stats, current = some stats ∧ Entered clock start log stats

theorem entered_failJob {clock : ℚ} {start : SiteStats}
    (state : JobManager × Dict JobId StatusEntry) (log : List Outcome)
    (verdict : JobId × String) (entered : EnteredInto clock start state.1.siteStats log) :
    EnteredInto clock start (failJob clock state verdict).1.siteStats
      (log ++ stallOf state verdict) := by
  obtain ⟨stats, present, entered⟩ := entered
  have unchanged : EnteredInto clock start (some stats) log := ⟨stats, rfl, entered⟩
  rw [failJob, stallOf]
  cases found : state.2.get? verdict.1 with
  | none =>
      rw [List.append_nil]
      exact ⟨stats, present, entered⟩
  | some data =>
      by_cases running : data.status = .running
      · by_cases nowhere : data.siteHistory.getLast?.getD "" = ""
        · simpa [running, recordStall, present, nowhere] using unchanged
        by_cases seen : (verdict.1, Mark.watchdog) ∈ state.1.statsSeen
        · simpa [running, recordStall, present, nowhere, seen] using unchanged
        · simp only [running, recordStall, present, nowhere, seen, ne_eq, not_true_eq_false,
            or_self, if_false]
          have recorded := entered_record entered ⟨verdict.1, .watchdog,
            data.siteHistory.getLast?.getD "", branchesOf state.1.watchdog verdict.1⟩
          exact ⟨_, rfl, recorded.cfg, recorded.sites⟩
      · simpa [running, present] using unchanged

theorem entered_harvestJob {clock : ℚ} {start : SiteStats} (dog : Watchdog) (harvest : Harvest)
    (log : List Outcome) (item : JobId × StatusEntry)
    (entered : Entered clock start log harvest.stats) :
    Entered clock start (log ++ outcomeOf dog harvest item)
      (harvestJob clock harvest item).stats := by
  have noted : ∀ site ok, Entered clock start
      (log ++ if (item.1, Mark.outcome ok) ∈ harvest.seen then []
        else [⟨item.1, .outcome ok, site, branchesOf dog item.1⟩])
      (noteOutcome clock harvest item.1 site ok).stats := by
    intro site ok
    rw [noteOutcome]
    split
    · simpa using entered
    · exact entered_record entered ⟨item.1, .outcome ok, site, branchesOf dog item.1⟩
  rw [harvestJob, outcomeOf]
  cases item.2.siteHistory.getLast? with
  | none => simpa using entered
  | some site =>
      cases status : item.2.status with
      | finished => exact noted site true
      | pending | running | retry => simpa using entered
      | failed =>
          cases item.2.code with
          | none => simpa using entered
          | some code => exact noted site false

theorem entered_applyWatchdog {manager : JobManager} (query : Query) {start : SiteStats}
    (present : manager.siteStats = some start) :
    EnteredInto query.clock start (applyWatchdog manager query).1.siteStats
      (stalls manager query) := by
  let into : JobManager × Dict JobId StatusEntry → List Outcome → Prop := fun state log =>
    EnteredInto query.clock start state.1.siteStats log
  have keeps : ∀ state log verdict, into state log →
      into (failJob query.clock state verdict) (log ++ stallOf state verdict) :=
    entered_failJob
  have initially : into ((asked manager query).2, query.result) [] := ⟨start, present, rfl, rfl⟩
  rw [applyWatchdog_eq_run]
  exact invariant_run_emitted keeps initially (asked manager query).1

theorem entered_harvestSiteStats {harvester : Harvester} (projDir : String)
    (result : Dict JobId StatusEntry) {clock : ℚ} {start : SiteStats} {log : List Outcome}
    (entered : EnteredInto clock start harvester.manager.siteStats log) :
    EnteredInto clock start (harvestSiteStats harvester projDir result clock).manager.siteStats
      (log ++ harvested harvester result clock) := by
  obtain ⟨stats, present, entered⟩ := entered
  rw [harvestSiteStats, harvested, present]
  dsimp only
  split
  · rename_i empty
    rw [empty, emitted_nil, List.append_nil]
    exact ⟨stats, present, entered⟩
  · let into : Harvest → List Outcome → Prop := fun harvest log =>
      Entered clock start log harvest.stats
    have keeps : ∀ harvest log item, into harvest log →
        into (harvestJob clock harvest item)
          (log ++ outcomeOf harvester.manager.watchdog harvest item) :=
      entered_harvestJob harvester.manager.watchdog
    have initially : into ⟨harvester.manager.statsSeen, stats, Dict.empty⟩ log := entered
    have final := invariant_run_emitted keeps initially result.items
    exact ⟨_, rfl, final.cfg, final.sites⟩

/-- A response enters the record as the outcomes it adds, one after the other. -/
theorem entered_query {harvester : Harvester} (query : ProjectQuery) {start : SiteStats}
    (present : harvester.manager.siteStats = some start) :
    EnteredInto query.query.clock start (harvester.step (.query query)).manager.siteStats
      (outcomes harvester (.query query)) := by
  have stalled : EnteredInto query.query.clock start
      { harvester with
        manager := (applyWatchdog harvester.manager query.query).1 }.manager.siteStats
      (stalls harvester.manager query.query) := entered_applyWatchdog query.query present
  exact entered_harvestSiteStats query.projDir _ stalled

/-! ## Stalls -/

theorem byId_verdicts (dog : Watchdog) (result : Dict JobId StatusEntry) (time : Option ℚ)
    (clock : ℚ) : (dog.verdicts result time clock).2.byId = dog.byId := by
  cases enabled : dog.cfg.enabled with
  | false => rw [verdicts_of_idle (Or.inl enabled)]
  | true =>
      cases inForce : dog.listing with
      | none => rw [verdicts_of_idle (Or.inr inForce)]
      | some listing =>
          obtain ⟨scan, perBranch, issued, passed, after⟩ :=
            verdicts_state enabled inForce result time clock
          rw [after]
          exact passed.byId

/-- What failing a job leaves of the watchdog. -/
theorem watchdog_failJob (clock : ℚ) (state : JobManager × Dict JobId StatusEntry)
    (verdict : JobId × String) :
    (failJob clock state verdict).1.watchdog.byId = state.1.watchdog.byId ∧
      (failJob clock state verdict).1.watchdog.perBranch = state.1.watchdog.perBranch ∧
      (failJob clock state verdict).1.watchdog.cfg = state.1.watchdog.cfg := by
  have recorded : ∀ manager site,
      (recordStall manager clock verdict.1 site).watchdog = manager.watchdog := by
    intro manager site
    rw [recordStall]
    split
    · rfl
    · split <;> rfl
  rw [failJob]
  split
  · exact ⟨rfl, rfl, rfl⟩
  · split
    · exact ⟨rfl, rfl, rfl⟩
    · simp only [recorded]
      exact ⟨rfl, rfl, rfl⟩

/-- Stalls are recorded for some of the jobs named, in order. -/
theorem sublist_emitted_stallOf (clock : ℚ) (dog : Watchdog) (verdicts : List (JobId × String))
    (state : JobManager × Dict JobId StatusEntry) (same : state.1.watchdog.byId = dog.byId) :
    ((emitted (failJob clock) stallOf state verdicts).map fun outcome =>
      (outcome.jobId, outcome.branches)).Sublist
        (verdicts.map fun verdict => (verdict.1, branchesOf dog verdict.1)) := by
  induction verdicts generalizing state with
  | nil => exact List.Sublist.refl []
  | cons first rest ih =>
      have others := ih (failJob clock state first)
        ((watchdog_failJob clock state first).1.trans same)
      rw [emitted_cons, List.map_append, List.map_cons]
      have sameBranches : branchesOf state.1.watchdog first.1 = branchesOf dog first.1 := by
        rw [branchesOf, branchesOf, same]
      have either : stallOf state first = [] ∨ ∃ site,
          stallOf state first = [⟨first.1, .watchdog, site, branchesOf dog first.1⟩] := by
        rw [stallOf, sameBranches]
        split
        · dsimp only
          split
          · exact Or.inl rfl
          · exact Or.inr ⟨_, rfl⟩
        · exact Or.inl rfl
      rcases either with none | ⟨site, one⟩
      · rw [none]
        exact others.cons _
      · rw [one]
        exact others.cons_cons _

theorem sublist_stalls (manager : JobManager) (query : Query) :
    ((stalls manager query).map fun outcome => (outcome.jobId, outcome.branches)).Sublist
      (naming manager.watchdog (.verdicts query.result none query.clock)) := by
  rw [naming, named, Dict.keys, List.map_map]
  exact sublist_emitted_stallOf query.clock manager.watchdog (asked manager query).1 _
    (byId_verdicts _ _ _ _)

/-- The stalls a log has for a branch. -/
def stallsOf (branch : Branch) (log : List Outcome) : Nat :=
  log.countP fun outcome => outcome.mark = .watchdog ∧ branch ∈ outcome.branches

theorem stallsOf_append (branch : Branch) (first second : List Outcome) :
    stallsOf branch (first ++ second) = stallsOf branch first + stallsOf branch second :=
  List.countP_append

/-- A response adds no more stalls of a branch than it has jobs of it named. -/
theorem stallsOf_outcomes_le (branch : Branch) (harvester : Harvester) (query : ProjectQuery) :
    stallsOf branch (outcomes harvester (.query query)) ≤
      (naming harvester.manager.watchdog
        (.verdicts query.query.result none query.query.clock)).countP fun job =>
          branch ∈ job.2 := by
  have noneHarvested : stallsOf branch (harvested
      { harvester with manager := (applyWatchdog harvester.manager query.query).1 }
      (applyWatchdog harvester.manager query.query).2 query.query.clock) = 0 := by
    rw [stallsOf, List.countP_eq_zero]
    intro outcome member isStall
    simp only [decide_eq_true_eq] at isStall
    exact (said_of_mem_harvested member).1 isStall.1
  rw [outcomes, stallsOf_append, noneHarvested, Nat.add_zero]
  have named : ((stalls harvester.manager query.query).map fun outcome =>
      (outcome.jobId, outcome.branches)).countP (fun job => branch ∈ job.2) ≤ _ :=
    (sublist_stalls harvester.manager query.query).countP_le
  rw [List.countP_map] at named
  refine le_trans ?_ named
  apply List.countP_mono_left
  intro outcome _ isStall
  simp only [decide_eq_true_eq] at isStall
  simpa using isStall.2

theorem watchdog_harvestSiteStats (harvester : Harvester) (projDir : String)
    (result : Dict JobId StatusEntry) (clock : ℚ) :
    (harvestSiteStats harvester projDir result clock).manager.watchdog =
      harvester.manager.watchdog := by
  rw [harvestSiteStats]
  split
  · rfl
  · split <;> rfl

/-- The watchdog after a response: that of its verdicts, but for what `forget`
drops. -/
theorem watchdog_query (harvester : Harvester) (query : ProjectQuery) :
    let named := harvester.manager.watchdog.apply
      (.verdicts query.query.result none query.query.clock)
    (harvester.step (.query query)).manager.watchdog.perBranch = named.perBranch ∧
      (harvester.step (.query query)).manager.watchdog.cfg = named.cfg := by
  have loop : ∀ (verdicts : List (JobId × String)) (state : JobManager × Dict JobId StatusEntry),
      (run (failJob query.query.clock) state verdicts).1.watchdog.perBranch =
          state.1.watchdog.perBranch ∧
        (run (failJob query.query.clock) state verdicts).1.watchdog.cfg =
          state.1.watchdog.cfg := by
    intro verdicts
    induction verdicts with
    | nil => exact fun _ => ⟨rfl, rfl⟩
    | cons first rest ih =>
        intro state
        obtain ⟨_, perBranch, cfg⟩ := watchdog_failJob query.query.clock state first
        obtain ⟨others, otherCfg⟩ := ih (failJob query.query.clock state first)
        exact ⟨others.trans perBranch, otherCfg.trans cfg⟩
  simp only [Harvester.step, digest, watchdog_harvestSiteStats, applyWatchdog_eq_run]
  exact loop _ _

/-- No branch is charged more often than the watchdog named it. -/
theorem withinBranchBudget_step (branch : Branch) (harvester : Harvester) (log : List Outcome)
    (event : Event)
    (within : WithinBranchBudget branch (stallsOf branch log) harvester.manager.watchdog) :
    WithinBranchBudget branch (stallsOf branch (log ++ outcomes harvester event))
      (harvester.step event).manager.watchdog := by
  rw [stallsOf_append]
  cases event with
  | setJobs jobs => exact withinBranchBudget_apply _ (.setJobs jobs) within
  | refresh clock entries => exact withinBranchBudget_apply _ (.refresh none clock entries) within
  | blacklist clock => exact within
  | query query =>
      have charged := withinBranchBudget_apply _
        (.verdicts query.query.result none query.query.clock) within
      have fewer := charged.mono (Nat.add_le_add_left (stallsOf_outcomes_le branch harvester query)
        (stallsOf branch log))
      obtain ⟨perBranch, cfg⟩ := watchdog_query harvester query
      constructor
      · rw [perBranch]
        exact fewer.counted
      · rw [cfg]
        exact fewer.budget

theorem cfg_step (harvester : Harvester) (event : Event) :
    (harvester.step event).manager.watchdog.cfg = harvester.manager.watchdog.cfg := by
  cases event with
  | setJobs jobs => exact cfg_apply _ (.setJobs jobs)
  | refresh clock entries => exact cfg_apply _ (.refresh none clock entries)
  | blacklist clock => rfl
  | query query => exact (watchdog_query harvester query).2.trans (cfg_apply _ _)

/-- The settings under which no branch is recorded as stalled twice. -/
def OncePerBranch (cfg : Config) : Prop :=
  cfg.maxPerBranch ≤ 1 ∨ cfg.enabled = false ∨ cfg.dryRun = true ∨ cfg.maxPerInterval ≤ 0

/-- A watchdog that names nothing charges no branch. -/
theorem stallsOf_step_of_idle (branch : Branch) (harvester : Harvester) (event : Event)
    (idle : harvester.manager.watchdog.cfg.enabled = false ∨
      harvester.manager.watchdog.cfg.dryRun = true ∨
      harvester.manager.watchdog.cfg.maxPerInterval ≤ 0) :
    stallsOf branch (outcomes harvester event) = 0 := by
  cases event with
  | setJobs | refresh | blacklist => rfl
  | query query =>
      have none : named harvester.manager.watchdog
          (.verdicts query.query.result none query.query.clock) = [] := by
        apply named_eq_nil
        tauto
      have least := stallsOf_outcomes_le branch harvester query
      rw [naming, none] at least
      exact Nat.le_zero.mp least

theorem stallsOf_run_le_one {cfg : Config} (once : OncePerBranch cfg)
    (siteStats : Option SiteStats) (events : List Event) (branch : Branch) :
    stallsOf branch (emitted Harvester.step outcomes (Harvester.new cfg siteStats) events) ≤ 1 := by
  rcases once with budget | idle
  · let within : Harvester → List Outcome → Prop := fun harvester log =>
      WithinBranchBudget branch (stallsOf branch log) harvester.manager.watchdog
    have start : within (Harvester.new cfg siteStats) [] := ⟨Nat.zero_le _, le_max_left 0 _⟩
    have cfgs : (run Harvester.step (Harvester.new cfg siteStats) events).manager.watchdog.cfg =
        cfg := by
      induction events using List.reverseRecOn with
      | nil => rfl
      | append_singleton events event ih => rw [run_concat, cfg_step, ih]
    have final := (invariant_run_emitted (withinBranchBudget_step branch) start events).budget
    rw [List.nil_append, cfgs] at final
    omega
  · let silent : Harvester → List Outcome → Prop := fun harvester log =>
      harvester.manager.watchdog.cfg = cfg ∧ stallsOf branch log = 0
    have keeps : ∀ harvester log event, silent harvester log →
        silent (harvester.step event) (log ++ outcomes harvester event) := by
      rintro harvester log event ⟨same, none⟩
      constructor
      · exact (cfg_step harvester event).trans same
      · rw [stallsOf_append, none, stallsOf_step_of_idle branch harvester event (same ▸ idle)]
    have start : silent (Harvester.new cfg siteStats) [] := ⟨rfl, rfl⟩
    have final := (invariant_run_emitted keeps start events).2
    rw [List.nil_append] at final
    omega

/-- With such settings the promise is kept, whatever happens. -/
theorem whatEnters_of_oncePerBranch {cfg : Config} (once : OncePerBranch cfg)
    (siteStats : Option SiteStats) (events : List Event) :
    WhatEnters (Harvester.new cfg siteStats) events := by
  constructor
  case once =>
    intro jobId ok
    let marked : Harvester → List Outcome → Prop := fun harvester log =>
      Keyed harvester.manager.statsSeen log
    have keeps : ∀ harvester log event, marked harvester log →
        marked (harvester.step event) (log ++ outcomes harvester event) := keyed_step
    have start : marked (Harvester.new cfg siteStats) [] := ⟨List.nodup_nil, by simp⟩
    have keyed := invariant_run_emitted keeps start events
    exact countP_key_le_one keyed _
  case said =>
    intro before query after _ outcome member
    exact said_of_mem_outcomes member
  case branch => exact stallsOf_run_le_one once siteStats events
  case entered =>
    intro before query after _ stats present
    obtain ⟨recorded, isRecorded, entered⟩ := entered_query query present
    exact ⟨recorded, isRecorded, entered.sites⟩
  case inFlight =>
    intro before query after _ harvests
    obtain ⟨stats, present, same⟩ := inFlight_of_counts_ne_nil harvests
    refine ⟨stats, present, ?_⟩
    intro site isSite
    let kept : Harvester → List Counted → Prop := fun harvester log => Kept harvester.inFlight log
    have start : kept (Harvester.new cfg siteStats) [] := by
      intro projDir
      exact Option.Rel.none
    have keeps : ∀ harvester log event, kept harvester log →
        kept (harvester.step event) (log ++ counts harvester event) := kept_step
    have final := invariant_run_emitted keeps start (before ++ [.query query])
    rw [List.nil_append, run_concat] at final
    rw [same site isSite]
    exact getD_combined_of_kept final site

end DSProd.Crab
