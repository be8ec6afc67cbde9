import DSProd.Library.Dict
import DSProd.Library.Run
import Mathlib.Algebra.Order.Field.Rat
import Mathlib.Data.Finset.Basic
import Mathlib.Data.List.Sort
import Mathlib.Data.Rat.Floor

/-!
# The stall watchdog

`StallWatchdog` of `watchdog.py`: one listing of the flag directory per
interval, and a verdict on each running job whose flag has stopped moving.
Times are seconds, as exact rationals.  The messages it publishes, and the
counters that only keep it from repeating them, are left out.
-/

namespace DSProd.Watchdog

open DSProd.Library

/-! ## Settings -/

/-- The `crab.watchdog` settings, with `DEFAULTS`. -/
structure Config where
  enabled : Bool := true
  intervalMinutes : ℤ := 30
  missedChecks : ℤ := 2
  maxPerInterval : ℤ := 5
  maxPerBranch : ℤ := 1
  maxStaleFraction : ℚ := 1 / 2
  dryRun : Bool := false
  deriving DecidableEq

/-- A `watchdog` block as the configuration file has it: the settings it names,
and the names that are no settings. -/
structure Block where
  enabled : Option Bool := none
  intervalMinutes : Option ℤ := none
  missedChecks : Option ℤ := none
  maxPerInterval : Option ℤ := none
  maxPerBranch : Option ℤ := none
  maxStaleFraction : Option ℚ := none
  dryRun : Option Bool := none
  unknown : List String := []

/-- What the configuration file may have for `watchdog`. -/
inductive RawConfig where
  | absent
  | null
  | switch (on : Bool)
  | block (settings : Block)

/-- Why a block is refused. -/
inductive ConfigError where
  | unknownSettings (names : List String)
  | missedChecks
  | intervalMinutes
  deriving DecidableEq

/-- `MIN_INTERVAL_MINUTES`. -/
def minIntervalMinutes : ℤ :=
  10

/-- A block merged over the defaults. -/
def Block.merged (settings : Block) : Config :=
  let defaults : Config := {}
  { enabled := settings.enabled.getD defaults.enabled
    intervalMinutes := settings.intervalMinutes.getD defaults.intervalMinutes
    missedChecks := settings.missedChecks.getD defaults.missedChecks
    maxPerInterval := settings.maxPerInterval.getD defaults.maxPerInterval
    maxPerBranch := settings.maxPerBranch.getD defaults.maxPerBranch
    maxStaleFraction := settings.maxStaleFraction.getD defaults.maxStaleFraction
    dryRun := settings.dryRun.getD defaults.dryRun }

/-- `watchdog_config`. -/
def watchdogConfig : RawConfig → Except ConfigError Config
  | .absent => watchdogBlock {}
  | .null => .ok { enabled := false }
  | .switch on => .ok { enabled := on }
  | .block settings => watchdogBlock settings
where
  watchdogBlock (settings : Block) : Except ConfigError Config :=
    if settings.unknown ≠ [] then .error (.unknownSettings settings.unknown)
    else if settings.merged.missedChecks < 2 then .error .missedChecks
    else if settings.merged.intervalMinutes < minIntervalMinutes then .error .intervalMinutes
    else .ok settings.merged

/-- Every accepted configuration leaves a healthy flag time to be renewed. -/
theorem watchdogConfig_bounds {raw : RawConfig} {cfg : Config}
    (accepted : watchdogConfig raw = .ok cfg) :
    2 ≤ cfg.missedChecks ∧ minIntervalMinutes ≤ cfg.intervalMinutes := by
  have block : ∀ settings : Block, watchdogConfig.watchdogBlock settings = .ok cfg →
      2 ≤ cfg.missedChecks ∧ minIntervalMinutes ≤ cfg.intervalMinutes := by
    intro settings passed
    rw [watchdogConfig.watchdogBlock] at passed
    split at passed
    · cases passed
    split at passed
    · cases passed
    split at passed
    · cases passed
    · cases passed
      constructor <;> omega
  cases raw with
  | absent => exact block {} accepted
  | null =>
      cases accepted
      decide
  | switch on =>
      cases accepted
      cases on <;> decide
  | block settings => exact block settings accepted

/-! ## Data -/

/-- law's identifier of a CRAB job. -/
structure JobId where
  crabNum : ℤ
  taskName : String
  projDir : String
  deriving DecidableEq

/-- What identifies a job over resubmissions of its project directory. -/
abbrev Key := ℤ × String

/-- `_key`. -/
def keyOf (jobId : JobId) : Key :=
  (jobId.crabNum, jobId.taskName)

/-- law's number of a job. -/
abbrev JobNum := Nat

/-- A branch of the workflow. -/
abbrev Branch := Nat

/-- An entry of law's job data. -/
structure JobDataEntry where
  jobId : Option JobId
  branches : List Branch

/-- law's job states. -/
inductive Status where
  | pending
  | running
  | finished
  | retry
  | failed
  deriving DecidableEq

/-- An entry of a status response. -/
structure StatusEntry where
  status : Status
  code : Option ℤ := none
  error : Option String := none
  siteHistory : List String := []
  deriving DecidableEq

/-- A line of a directory listing. -/
structure FlagEntry where
  name : String
  date : Option ℚ
  isDir : Bool := false

/-- A listing of the flag directory that worked: modification times by flag
name, and when it was taken. -/
structure Listing where
  ages : Dict String ℚ
  listedAt : ℚ
  deriving DecidableEq

end Watchdog

open Library Watchdog in
/-- The state of the watchdog. -/
structure Watchdog where
  cfg : Config
  listing : Option Listing
  firstRunning : Dict Key ℚ
  firstSeen : Dict Key ℚ
  perBranch : Dict Branch Nat
  byId : Dict Key (JobNum × List Branch)
  seenFlag : Finset Key
  issuedThisInterval : Nat

namespace Watchdog

open DSProd.Library

/-- `StallWatchdog.__init__`. -/
def new (cfg : Config) : Watchdog :=
  ⟨cfg, none, Dict.empty, Dict.empty, Dict.empty, Dict.empty, ∅, 0⟩

/-- `interval_seconds`. -/
def intervalSeconds (cfg : Config) : ℤ :=
  cfg.intervalMinutes * 60

/-- `stale_seconds`. -/
def staleSeconds (cfg : Config) : ℤ :=
  intervalSeconds cfg * cfg.missedChecks

/-- `min_running_for_fault_guard`. -/
def minRunningForFaultGuard : Nat :=
  10

/-- `_stamp_resolution`. -/
def stampResolution : ℚ :=
  60

/-! ## Listings and jobs -/

/-- The flags of a listing, by name. -/
def agesOf (entries : List FlagEntry) : Dict String ℚ :=
  Dict.ofList (entries.filterMap fun entry =>
    if entry.isDir then none else entry.date.map fun date => (entry.name, date))

/-- `refresh`, from the time it is given, the clock, and the listing it got. -/
def refresh (dog : Watchdog) (now : Option ℚ) (clock : ℚ) (entries : Option (List FlagEntry)) :
    Bool × Watchdog :=
  if !dog.cfg.enabled then (false, dog)
  else
    match entries with
    | none => (false, { dog with issuedThisInterval := 0, listing := none })
    | some found =>
        (true, { dog with issuedThisInterval := 0, listing := some ⟨agesOf found, now.getD clock⟩ })

/-- The jobs that can be named, by key: the loop of `set_jobs`. -/
def jobsById (jobs : Dict JobNum JobDataEntry) : Dict Key (JobNum × List Branch) :=
  Dict.ofList (jobs.items.filterMap fun item =>
    item.2.jobId.bind fun jobId =>
      if item.2.branches = [] then none else some (keyOf jobId, item.1, item.2.branches))

/-- `set_jobs`. -/
def setJobs (dog : Watchdog) (jobs : Dict JobNum JobDataEntry) : Watchdog :=
  { dog with byId := jobsById jobs }

/-- The name of the flag of a branch. -/
def flagName (branch : Branch) : String :=
  toString branch

/-- The stamps `_age` goes by: those of the branches, not older than `since`. -/
def stamps (ages : Dict String ℚ) (branches : List Branch) (since : Option ℚ) : List ℚ :=
  (branches.filterMap fun branch => ages.get? (flagName branch)).filter fun stamp =>
    since.all fun oldest => oldest ≤ stamp

/-- `_age`: seconds since the freshest flag of some branches. -/
def age (ages : Dict String ℚ) (branches : List Branch) (now : ℚ) (since : Option ℚ) : Option ℚ :=
  (stamps ages branches since).max?.map fun newest => max 0 (now - newest)

/-! ## Verdicts -/

/-- A job that may be condemned, with the age of its flag. -/
structure Stale where
  jobId : JobId
  jobNum : JobNum
  branches : List Branch
  age : Option ℚ

/-- The state of the loop of `verdicts` over the reported jobs. -/
structure Scan where
  dog : Watchdog
  running : List JobId
  stale : List Stale

/-- Note when a job was first seen running. -/
def sight (dog : Watchdog) (key : Key) (now seen : ℚ) : Watchdog :=
  { dog with
    firstRunning := dog.firstRunning.setdefault key now
    firstSeen := dog.firstSeen.setdefault key seen }

/-- Whether a job is reported running, and what is known of it. -/
def knownRunning (dog : Watchdog) (item : JobId × StatusEntry) : Option (JobNum × List Branch) :=
  if item.2.status = .running then dog.byId.get? (keyOf item.1) else none

/-- The age of the flag of a job that has been sighted. -/
def ageOf (dog : Watchdog) (ages : Dict String ℚ) (key : Key) (branches : List Branch)
    (now seen : ℚ) : Option ℚ :=
  age ages branches now (some (dog.firstSeen.getD key seen - stampResolution))

/-- The loop body of `verdicts` over the reported jobs. -/
def scanJob (ages : Dict String ℚ) (now seen : ℚ) (scan : Scan) (item : JobId × StatusEntry) :
    Scan :=
  match knownRunning scan.dog item with
  | none => scan
  | some (jobNum, branches) =>
      let key := keyOf item.1
      let dog := scan.dog.sight key now seen
      let running := scan.running ++ [item.1]
      match ageOf dog ages key branches now seen with
      | some seconds =>
          { dog := { dog with seenFlag := insert key dog.seenFlag }
            running := running
            stale :=
              if staleSeconds dog.cfg ≤ seconds then
                scan.stale ++ [⟨item.1, jobNum, branches, some seconds⟩]
              else scan.stale }
      | none =>
          { dog := dog
            running := running
            stale :=
              if key ∉ dog.seenFlag ∧
                  staleSeconds dog.cfg + intervalSeconds dog.cfg ≤
                    now - dog.firstRunning.getD key now then
                scan.stale ++ [⟨item.1, jobNum, branches, none⟩]
              else scan.stale }

/-- The loop of `verdicts` over the reported jobs. -/
def scanJobs (dog : Watchdog) (ages : Dict String ℚ) (now seen : ℚ)
    (items : List (JobId × StatusEntry)) : Scan :=
  items.foldl (scanJob ages now seen) ⟨dog, [], []⟩

/-- `int(...)` of a number: towards zero. -/
def truncate (value : ℚ) : ℤ :=
  value.num.tdiv value.den

/-- The storage-fault guard: enough jobs run, and too many of them look stale. -/
def faultGuard (cfg : Config) (running stale : Nat) : Bool :=
  minRunningForFaultGuard ≤ running && truncate (cfg.maxStaleFraction * running) < stale

/-- A number rounded to an integer as `:.0f` does: halves go to the even one. -/
def roundHalfEven (value : ℚ) : ℤ :=
  let below := ⌊value⌋
  if value - below < 1 / 2 then below
  else if 1 / 2 < value - below then below + 1
  else if below % 2 = 0 then below
  else below + 1

/-- Why a job is failed. -/
def reason (cfg : Config) (stale : Stale) : String :=
  let seen :=
    match stale.age with
    | none => "no heartbeat"
    | some seconds => "heartbeat " ++ toString (roundHalfEven (seconds / 60)) ++ " min old"
  "stalled: " ++ seen ++ ", threshold " ++
    toString (roundHalfEven (staleSeconds cfg / 60)) ++ " min (" ++
    toString cfg.missedChecks ++ " x " ++ toString cfg.intervalMinutes ++ " min)"

/-- The most verdicts issued so far for one of some branches. -/
def repeats (dog : Watchdog) (branches : List Branch) : Nat :=
  (branches.map fun branch => dog.perBranch.getD branch 0).foldl max 0

/-- Count a verdict for each of some branches. -/
def chargeBranches (perBranch : Dict Branch Nat) (branches : List Branch) : Dict Branch Nat :=
  branches.foldl (fun counts branch => counts.set branch (counts.getD branch 0 + 1)) perBranch

/-- The loop of `verdicts` over the stale jobs. -/
def issue (dog : Watchdog) (out : Dict JobId String) : List Stale → Dict JobId String × Watchdog
  | [] => (out, dog)
  | stale :: rest =>
      if dog.cfg.maxPerInterval ≤ dog.issuedThisInterval then (out, dog)
      else if dog.cfg.maxPerBranch ≤ repeats dog stale.branches then issue dog out rest
      else if dog.cfg.dryRun then issue dog out rest
      else
        issue
          { dog with
            perBranch := chargeBranches dog.perBranch stale.branches
            issuedThisInterval := dog.issuedThisInterval + 1 }
          (out.set stale.jobId (reason dog.cfg stale)) rest

/-- The stale jobs in the order of their verdicts. -/
def inOrder (stale : List Stale) : List Stale :=
  stale.insertionSort fun first second => toString first.jobNum ≤ toString second.jobNum

/-- What `verdicts` makes of a finished scan. -/
def decideScan (scan : Scan) : Dict JobId String × Watchdog :=
  if scan.stale = [] ∨ faultGuard scan.dog.cfg scan.running.length scan.stale.length then
    (Dict.empty, scan.dog)
  else issue scan.dog Dict.empty (inOrder scan.stale)

/-- `verdicts`, from the reported jobs, the time it is given, and the clock. -/
def verdicts (dog : Watchdog) (result : Dict JobId StatusEntry) (now : Option ℚ) (clock : ℚ) :
    Dict JobId String × Watchdog :=
  if !dog.cfg.enabled then (Dict.empty, dog)
  else
    match dog.listing with
    | none => (Dict.empty, dog)
    | some listing =>
        decideScan
          (scanJobs dog listing.ages (now.getD listing.listedAt) (now.getD clock) result.items)

/-- `forget`. -/
def forget (dog : Watchdog) (jobId : JobId) : Watchdog :=
  { dog with
    firstRunning := dog.firstRunning.pop (keyOf jobId)
    firstSeen := dog.firstSeen.pop (keyOf jobId)
    seenFlag := dog.seenFlag.erase (keyOf jobId) }

/-- A call on the watchdog. -/
inductive Op where
  | setJobs (jobs : Dict JobNum JobDataEntry)
  | refresh (now : Option ℚ) (clock : ℚ) (entries : Option (List FlagEntry))
  | verdicts (result : Dict JobId StatusEntry) (now : Option ℚ) (clock : ℚ)
  | forget (jobId : JobId)

/-- The state a call leaves. -/
def apply (dog : Watchdog) : Op → Watchdog
  | .setJobs jobs => dog.setJobs jobs
  | .refresh now clock entries => (dog.refresh now clock entries).2
  | .verdicts result now clock => (dog.verdicts result now clock).2
  | .forget jobId => dog.forget jobId

end Watchdog

end DSProd
