import DSProd.Crab.JobManager
import DSProd.Watchdog.Budgets

/-!
# The harvest of a status response

`harvest_site_stats` of `DSProdCrabJobManager`: what CRAB said about each job
enters the record of the sites, outcomes once per job, and jobs in flight by
project.  A response reaches the harvest as `_apply_watchdog` leaves it, which
records stalls of its own.
-/

namespace DSProd.Crab

open DSProd.Library
open DSProd.Watchdog

/-! ## Counts in flight -/

/-- `counter[key] += number`. -/
def addTo (counter : Dict String Nat) (key : String) (number : Nat) : Dict String Nat :=
  counter.set key (counter.getD key 0 + number)

/-- `counter.update(counts)`. -/
def addCounts (counter counts : Dict String Nat) : Dict String Nat :=
  counts.items.foldl (fun total item => addTo total item.1 item.2) counter

/-- The jobs in flight of every project, by site. -/
def combined (inFlight : Dict String (ℚ × Dict String Nat)) : Dict String Nat :=
  inFlight.values.foldl (fun total entry => addCounts total entry.2) Dict.empty

/-! ## The harvest -/

/-- `in_flight_stale_seconds`. -/
def inFlightStaleSeconds : ℚ :=
  3600

/-- The job manager with the jobs in flight of each project, and when they were
counted. -/
structure Harvester where
  manager : JobManager
  inFlight : Dict String (ℚ × Dict String Nat)

/-- The state of the loop of `harvest_site_stats`. -/
structure Harvest where
  seen : Finset (JobId × Mark)
  stats : SiteStats
  inFlight : Dict String Nat

/-- Record how a job ended, once. -/
def noteOutcome (clock : ℚ) (harvest : Harvest) (jobId : JobId) (site : String) (ok : Bool) :
    Harvest :=
  if (jobId, Mark.outcome ok) ∈ harvest.seen then harvest
  else
    { harvest with
      seen := insert (jobId, Mark.outcome ok) harvest.seen
      stats := harvest.stats.record site ok clock }

/-- The loop body of `harvest_site_stats`. -/
def harvestJob (clock : ℚ) (harvest : Harvest) (item : JobId × StatusEntry) : Harvest :=
  match item.2.siteHistory.getLast? with
  | none => harvest
  | some site =>
      match item.2.status, item.2.code with
      | .finished, _ => noteOutcome clock harvest item.1 site true
      | .failed, some _ => noteOutcome clock harvest item.1 site false
      | .failed, none => harvest
      | _, _ => { harvest with inFlight := addTo harvest.inFlight site 1 }

/-- `harvest_site_stats`. -/
def harvestSiteStats (harvester : Harvester) (projDir : String) (result : Dict JobId StatusEntry)
    (clock : ℚ) : Harvester :=
  match harvester.manager.siteStats with
  | none => harvester
  | some stats =>
      if result.items = [] then harvester
      else
        let harvest :=
          run (harvestJob clock) ⟨harvester.manager.statsSeen, stats, Dict.empty⟩ result.items
        let inFlight := (harvester.inFlight.set projDir (clock, harvest.inFlight)).filter
          fun _ entry => clock - inFlightStaleSeconds ≤ entry.1
        let counted := harvest.stats.setInFlight (combined inFlight)
        { manager :=
            { harvester.manager with
              statsSeen := harvest.seen
              siteStats := some { counted with dirty := false }
              statsFile :=
                if counted.dirty then some counted.sites else harvester.manager.statsFile }
          inFlight := inFlight }

/-- A status response of one project that law could read. -/
structure ProjectQuery where
  projDir : String
  query : Query

/-- What `query` does with such a response: the state it leaves, and the
response as law sees it. -/
def digest (harvester : Harvester) (query : ProjectQuery) :
    Harvester × Dict JobId StatusEntry :=
  let applied := applyWatchdog harvester.manager query.query
  (harvestSiteStats { harvester with manager := applied.1 } query.projDir applied.2
    query.query.clock, applied.2)

/-- What happens to the job manager: the job data of the watchdog change, its
flags are listed, a blacklist is asked for, or a response arrives. -/
inductive Event where
  | setJobs (jobs : Dict JobNum JobDataEntry)
  | refresh (clock : ℚ) (entries : Option (List FlagEntry))
  | blacklist (clock : ℚ)
  | query (query : ProjectQuery)

/-- The state an event leaves. -/
def Harvester.step (harvester : Harvester) : Event → Harvester
  | .setJobs jobs =>
      { harvester with
        manager.watchdog := harvester.manager.watchdog.setJobs jobs }
  | .refresh clock entries =>
      { harvester with
        manager.watchdog := (harvester.manager.watchdog.refresh none clock entries).2 }
  | .blacklist clock =>
      { harvester with
        manager.siteStats :=
          harvester.manager.siteStats.map fun stats => (stats.blacklist clock).2 }
  | .query query => (digest harvester query).1

/-- The job manager of a new driver. -/
def Harvester.new (cfg : Config) (siteStats : Option SiteStats) : Harvester :=
  ⟨⟨Watchdog.new cfg, siteStats, none, ∅⟩, Dict.empty⟩

/-! ## What is recorded -/

/-- An outcome that enters the record: of which job, from where, at which site,
and the branches the watchdog knew the job for. -/
structure Outcome where
  jobId : JobId
  mark : Mark
  site : String
  branches : List Branch
  deriving DecidableEq

/-- What an outcome is recorded under. -/
def Outcome.key (outcome : Outcome) : JobId × Mark :=
  (outcome.jobId, outcome.mark)

/-- Whether the record counts an outcome as a success. -/
def Outcome.ok (outcome : Outcome) : Bool :=
  match outcome.mark with
  | .outcome ok => ok
  | .watchdog => false

/-- What `harvestJob` records. -/
def outcomeOf (dog : Watchdog) (harvest : Harvest) (item : JobId × StatusEntry) : List Outcome :=
  let noted (site : String) (ok : Bool) : List Outcome :=
    if (item.1, Mark.outcome ok) ∈ harvest.seen then []
    else [⟨item.1, .outcome ok, site, branchesOf dog item.1⟩]
  match item.2.siteHistory.getLast? with
  | none => []
  | some site =>
      match item.2.status, item.2.code with
      | .finished, _ => noted site true
      | .failed, some _ => noted site false
      | _, _ => []

/-- What `failJob` records. -/
def stallOf (state : JobManager × Dict JobId StatusEntry) (verdict : JobId × String) :
    List Outcome :=
  match state.2.get? verdict.1, state.1.siteStats with
  | some data, some _ =>
      let site := data.siteHistory.getLast?.getD ""
      if data.status ≠ .running ∨ site = "" ∨ (verdict.1, Mark.watchdog) ∈ state.1.statsSeen then []
      else [⟨verdict.1, .watchdog, site, branchesOf state.1.watchdog verdict.1⟩]
  | _, _ => []

/-- The state the loop of `_apply_watchdog` starts from, and its verdicts. -/
def asked (manager : JobManager) (query : Query) : List (JobId × String) × JobManager :=
  let named := manager.watchdog.verdicts query.result none query.clock
  (named.1.items, { manager with watchdog := named.2 })

/-- What `applyWatchdog` records. -/
def stalls (manager : JobManager) (query : Query) : List Outcome :=
  emitted (failJob query.clock) stallOf ((asked manager query).2, query.result)
    (asked manager query).1

/-- What `harvestSiteStats` records. -/
def harvested (harvester : Harvester) (result : Dict JobId StatusEntry) (clock : ℚ) :
    List Outcome :=
  match harvester.manager.siteStats with
  | none => []
  | some stats =>
      emitted (harvestJob clock) (outcomeOf harvester.manager.watchdog)
        ⟨harvester.manager.statsSeen, stats, Dict.empty⟩ result.items

/-- What an event adds to the record. -/
def outcomes (harvester : Harvester) : Event → List Outcome
  | .query query =>
      let applied := applyWatchdog harvester.manager query.query
      stalls harvester.manager query.query ++
        harvested { harvester with manager := applied.1 } applied.2 query.query.clock
  | _ => []

/-- Outcomes enter the record one after the other. -/
def enter (clock : ℚ) (stats : SiteStats) (recorded : List Outcome) : SiteStats :=
  recorded.foldl (fun current outcome => current.record outcome.site outcome.ok clock) stats

end DSProd.Crab
