import DSProd.Library.Number
import DSProd.Watchdog.Core

/-!
# The submission loop

`DSProdCrabWorkflowProxy` of `crab.py` over law's workflow proxy: a wave gate
holds jobs back until a CRAB task is worth creating, and a round is skipped
while law's own tree cannot be read.  Either way the retries of the round are
parked in `unsubmitted_jobs`, which is what law fills its free slots from.

law is taken as the proxy relies on it.  It asks once per run which branches
exist, and once per run whether a job can be skipped.  Its `submit` passes by
the jobs that can be, submits the retries it is handed and fills the remaining
slots from the backlog in order.  What it does with a retry that it has no slot
for is left open: it submits the retry all the same, or puts it at the end of
the backlog.  Its `poll` counts the jobs once, and then in
each round rewrites what it knows about them and offers some of them as
retries.  Messages and the dumps of the job data are left out.
-/

namespace DSProd.Crab

open DSProd.Library
open DSProd.Watchdog (JobNum Branch Status)

/-! ## Job data -/

/-- What law records about a job it has submitted. -/
structure Job where
  branches : List Branch
  status : Status
  error : Option String := none
  deriving DecidableEq

/-- law's job data. -/
structure JobData where
  jobs : Dict JobNum Job
  unsubmittedJobs : Dict JobNum (List Branch)
  attempts : Dict JobNum Nat
  deriving DecidableEq

/-- `JobData.__len__`. -/
def JobData.len (data : JobData) : Nat :=
  data.jobs.size + data.unsubmittedJobs.size

/-- The distinct job numbers of the job data. -/
def JobData.jobNums (data : JobData) : Finset JobNum :=
  data.jobs.keys.toFinset ∪ data.unsubmittedJobs.keys.toFinset

/-- The part of the workflow proxy that the submission reads and writes. -/
structure Proxy where
  jobData : JobData
  skipJobs : Dict JobNum Bool
  retryParkedSince : Option ℚ
  submitted : Bool
  deriving DecidableEq

namespace Proxy

/-- Replace the submitted jobs. -/
def setJobs (proxy : Proxy) (jobs : Dict JobNum Job) : Proxy :=
  { proxy with jobData := { proxy.jobData with jobs := jobs } }

/-- Replace the backlog. -/
def setUnsubmitted (proxy : Proxy) (unsubmitted : Dict JobNum (List Branch)) : Proxy :=
  { proxy with jobData := { proxy.jobData with unsubmittedJobs := unsubmitted } }

end Proxy

/-- The branches of a job all exist. -/
def Complete (existing : Finset Branch) (branches : List Branch) : Prop :=
  ∀ branch ∈ branches, branch ∈ existing

instance (existing : Finset Branch) (branches : List Branch) :
    Decidable (Complete existing branches) :=
  inferInstanceAs (Decidable (∀ branch ∈ branches, branch ∈ existing))

/-- law's `_can_skip_job`: the verdict, taken once per job, and the proxy with
a job that can be skipped recorded as finished. -/
def canSkipJob (existing : Finset Branch) (proxy : Proxy) (jobNum : JobNum)
    (branches : List Branch) : Bool × Proxy :=
  match proxy.skipJobs.get? jobNum with
  | some verdict => (verdict, proxy)
  | none =>
      let judged := { proxy with
        skipJobs := proxy.skipJobs.set jobNum (decide (Complete existing branches)) }
      if Complete existing branches then
        (true, judged.setJobs (judged.jobData.jobs.set jobNum ⟨branches, .finished, none⟩))
      else (false, judged)

/-! ## Settings -/

/-- A setting as `float` finds it in the configuration. -/
inductive Setting where
  | missing
  | noNumber
  | tooLarge
  | float (number : Number)
  deriving DecidableEq

/-- The settings of the submission. -/
structure Settings where
  nParallelMax : Nat
  refillFraction : Setting := .missing
  retryReleaseMinutes : Setting := .missing

/-- What `float` raises for an integer beyond its range, which nothing catches. -/
def overflowError : String :=
  "int too large to convert to float"

/-- `float(raw)`, with a default for what is missing or no number. -/
def readFloat (default : ℚ) : Setting → Except String Number
  | .missing => .ok (.finite default)
  | .noNumber => .ok (.finite default)
  | .tooLarge => .error overflowError
  | .float number => .ok number

/-- `_CRAB_DEFAULT_REFILL_FRACTION`. -/
def crabDefaultRefillFraction : ℚ :=
  1 / 5

/-- `_CRAB_DEFAULT_RETRY_RELEASE_MINUTES`. -/
def crabDefaultRetryReleaseMinutes : ℚ :=
  45

/-- `_crab_refill_fraction`. -/
def crabRefillFraction (settings : Settings) : Except String Number := do
  let fraction ← readFloat crabDefaultRefillFraction settings.refillFraction
  return (fraction.max (.finite 0)).min (.finite 1)

/-- `_crab_retry_release_minutes`. -/
def crabRetryReleaseMinutes (settings : Settings) : Except String ℚ := do
  match ← readFloat crabDefaultRetryReleaseMinutes settings.retryReleaseMinutes with
  | .finite minutes => return max minutes 0
  | _ => return max crabDefaultRetryReleaseMinutes 0

/-! ## The wave gate -/

/-- What a round of the poll loop brings: what law read about the jobs, the
retries it offers, the slots, whether its tree is readable, whether it puts a
retry in the backlog that it has no slot for, and the clock. -/
structure Round where
  reports : JobNum → Option (Status × Option String)
  offers : List JobNum
  nParallel : Nat
  nActive : Nat
  treeReadable : Bool
  parksRetries : Bool
  now : ℚ

/-- `_parked_retries`. -/
def parkedRetries (proxy : Proxy) : List JobNum :=
  proxy.jobData.unsubmittedJobs.keys.filter fun jobNum => jobNum ∈ proxy.jobData.attempts.keys

/-- `_update_retry_release_clock`. -/
def updateRetryReleaseClock (now : ℚ) (afterRelease : Bool) (proxy : Proxy) : Proxy :=
  if parkedRetries proxy = [] then { proxy with retryParkedSince := none }
  else if afterRelease ∨ proxy.retryParkedSince = none then
    { proxy with retryParkedSince := some now }
  else proxy

/-- `_parked_retries_are_due`. -/
def parkedRetriesAreDue (settings : Settings) (now : ℚ) (proxy : Proxy) : Except String Bool :=
  match proxy.retryParkedSince with
  | none => .ok false
  | some since => do
      let minutes ← crabRetryReleaseMinutes settings
      return minutes * 60 ≤ now - since

/-- `_should_submit_crab_group`. -/
def shouldSubmitCrabGroup (settings : Settings) (round : Round) (proxy : Proxy)
    (nBacklog nRetry : Nat) : Except String Bool := do
  if settings.nParallelMax ≤ round.nParallel then return true
  if nBacklog + nRetry = 0 then return true
  let minWave := (← crabRefillFraction settings).mulNat round.nParallel
  let room : ℤ := min nBacklog (round.nParallel - round.nActive)
  if minWave.le (.finite room) then return true
  if (Number.finite (round.nActive + (nBacklog + nRetry) : ℕ)).lt minWave then return true
  parkedRetriesAreDue settings round.now proxy

/-! ## Moving jobs between the two maps -/

/-- The loop body of `_drop_complete_backlog`. -/
def dropComplete (existing : Finset Branch) (proxy : Proxy) (item : JobNum × List Branch) : Proxy :=
  let asked := canSkipJob existing proxy item.1 item.2
  if asked.1 then asked.2.setUnsubmitted (asked.2.jobData.unsubmittedJobs.pop item.1)
  else asked.2

/-- `_drop_complete_backlog`. -/
def dropCompleteBacklog (existing : Finset Branch) (proxy : Proxy) : Proxy :=
  proxy.jobData.unsubmittedJobs.items.foldl (dropComplete existing) proxy

/-- The jobs a loop has taken in hand, and the proxy. -/
structure Hand where
  held : Dict JobNum (List Branch)
  proxy : Proxy

/-- The loop body of `_park_retries`. -/
def parkRetry (existing : Finset Branch) (hand : Hand) (item : JobNum × List Branch) : Hand :=
  let asked := canSkipJob existing hand.proxy item.1 item.2
  if asked.1 then ⟨hand.held, asked.2⟩
  else
    ⟨hand.held.set item.1 item.2, asked.2.setJobs (asked.2.jobData.jobs.pop item.1)⟩

/-- `_park_retries`. -/
def parkRetries (existing : Finset Branch) (now : ℚ) (retryJobs : Dict JobNum (List Branch))
    (proxy : Proxy) : Proxy :=
  let parked := retryJobs.items.foldl (parkRetry existing) ⟨Dict.empty, proxy⟩
  if parked.held.items = [] then parked.proxy
  else
    updateRetryReleaseClock now false (parked.proxy.setUnsubmitted
      (parked.held.update parked.proxy.jobData.unsubmittedJobs.items))

/-- law's `submit`, on a retry it is handed. -/
def handRetry (existing : Finset Branch) (round : Round) (hand : Hand)
    (item : JobNum × List Branch) : Hand :=
  let asked := canSkipJob existing hand.proxy item.1 item.2
  if asked.1 then ⟨hand.held, asked.2⟩
  else if round.parksRetries ∧ round.nParallel ≤ round.nActive + hand.held.size then
    ⟨hand.held, (asked.2.setJobs (asked.2.jobData.jobs.pop item.1)).setUnsubmitted
      (asked.2.jobData.unsubmittedJobs.set item.1 item.2)⟩
  else ⟨hand.held.set item.1 item.2, asked.2⟩

/-- law's `submit`, on a job of the backlog. -/
def takeBacklog (existing : Finset Branch) (round : Round) (hand : Hand)
    (item : JobNum × List Branch) : Hand :=
  let asked := canSkipJob existing hand.proxy item.1 item.2
  let popped := asked.2.setUnsubmitted (asked.2.jobData.unsubmittedJobs.pop item.1)
  if asked.1 then ⟨hand.held, popped⟩
  else if round.nParallel ≤ round.nActive + hand.held.size then ⟨hand.held, asked.2⟩
  else ⟨hand.held.set item.1 item.2, popped⟩

/-- The jobs law's `submit` takes in hand. -/
def lawTake (existing : Finset Branch) (round : Round) (retryJobs : Dict JobNum (List Branch))
    (proxy : Proxy) : Hand :=
  let retried := retryJobs.items.foldl (handRetry existing round) ⟨Dict.empty, proxy⟩
  retried.proxy.jobData.unsubmittedJobs.items.foldl (takeBacklog existing round) retried

/-- law's `submit`: the proxy it leaves, and the jobs submitted. -/
def lawSubmit (existing : Finset Branch) (round : Round) (retryJobs : Dict JobNum (List Branch))
    (proxy : Proxy) : Proxy × Dict JobNum (List Branch) :=
  let taken := lawTake existing round retryJobs proxy
  let submissions := taken.held.items.map fun item => (item.1, (⟨item.2, .pending, none⟩ : Job))
  (taken.proxy.setJobs (taken.proxy.jobData.jobs.update submissions), taken.held)

/-! ## Submitting -/

/-- `max_initial_retry_fraction`. -/
def maxInitialRetryFraction : ℚ :=
  1 / 10

/-- `missing_outputs_error`. -/
def missingOutputsError : String :=
  "initially missing task outputs"

/-- What `stop_on_mass_initial_retry` raises. -/
def massRetryError (nMissing nJobs : Nat) : String :=
  s!"{nMissing} of {nJobs} jobs recorded as finished no longer have their outputs, " ++
    "so this run would regenerate most of the sample. Nothing was submitted.\n" ++
    "  - if the outputs were consumed downstream (NanoMergeTask deletes each nano file " ++
    "it merges), those seeds are done and their `produced/` records are what says so -- " ++
    "check that the records exist before doing anything else;\n" ++
    "  - if the storage was unreachable while the outputs were checked, run again once " ++
    "it is back;\n" ++
    "  - to redo the work deliberately, delete this workflow's submission file under " ++
    "data/jobs/ and start again."

/-- `stop_on_mass_initial_retry`. -/
def stopOnMassInitialRetry (proxy : Proxy) (retryJobs : Dict JobNum (List Branch)) :
    Except String Unit :=
  let nMissing := (retryJobs.keys.filter fun jobNum =>
    (proxy.jobData.jobs.get? jobNum).bind Job.error = some missingOutputsError).length
  if retryJobs.keys = [] ∨ proxy.submitted = false ∨ nMissing < 2 ∨
      nMissing ≤ maxInitialRetryFraction * proxy.jobData.len then .ok ()
  else .error (massRetryError nMissing proxy.jobData.len)

/-- `DSProdCrabWorkflowProxy.submit`. -/
def submit (settings : Settings) (existing : Finset Branch) (round : Round)
    (retryJobs : Dict JobNum (List Branch)) (proxy : Proxy) :
    Except String (Proxy × Dict JobNum (List Branch)) := do
  stopOnMassInitialRetry proxy retryJobs
  if !round.treeReadable then
    return (parkRetries existing round.now retryJobs proxy, Dict.empty)
  let clocked := updateRetryReleaseClock round.now false proxy
  if ← shouldSubmitCrabGroup settings round clocked clocked.jobData.unsubmittedJobs.size
      retryJobs.size then
    let released := lawSubmit existing round retryJobs clocked
    return (updateRetryReleaseClock round.now true released.1, released.2)
  return (parkRetries existing round.now retryJobs clocked, Dict.empty)

/-! ## The poll loop -/

/-- What a round reports about a job replaces its status and its error. -/
def Round.report (round : Round) (jobNum : JobNum) (job : Job) : Job :=
  match round.reports jobNum with
  | none => job
  | some (status, error) => { job with status := status, error := error }

/-- law counts the attempt of a retry before it offers it. -/
def countAttempt (attempts : Dict JobNum Nat) (jobNum : JobNum) : Dict JobNum Nat :=
  attempts.set jobNum (attempts.getD jobNum 0 + 1)

/-- The retries of a round: those of its offers that are among the jobs. -/
def Round.retryJobs (round : Round) (jobs : Dict JobNum Job) : Dict JobNum (List Branch) :=
  Dict.ofList (round.offers.filterMap fun jobNum =>
    (jobs.get? jobNum).map fun job => (jobNum, job.branches))

/-- The proxy a round finds when it offers its retries. -/
def Round.reported (round : Round) (proxy : Proxy) : Proxy :=
  let jobs := proxy.jobData.jobs.mapValues round.report
  { proxy with
    jobData := { proxy.jobData with
      jobs := jobs
      attempts := (round.retryJobs jobs).keys.foldl countAttempt proxy.jobData.attempts } }

/-- A poll loop: the proxy, and the number of jobs it waits for. -/
structure PollLoop where
  proxy : Proxy
  nJobs : Nat
  deriving DecidableEq

/-- The beginning of `poll`: the complete backlog is dropped, and the jobs are counted. -/
def startPoll (existing : Finset Branch) (proxy : Proxy) : PollLoop :=
  let dropped := dropCompleteBacklog existing proxy
  ⟨dropped, dropped.jobData.len⟩

/-- A round of `poll`. -/
def pollRound (settings : Settings) (existing : Finset Branch) (loop : PollLoop) (round : Round) :
    Except String PollLoop := do
  let reported := round.reported loop.proxy
  let submitted ← submit settings existing round (round.retryJobs reported.jobData.jobs) reported
  return { loop with proxy := submitted.1 }

/-- Rounds of `poll`, until one raises. -/
def pollRounds (settings : Settings) (existing : Finset Branch) (loop : PollLoop) :
    List Round → Except String PollLoop
  | [] => .ok loop
  | round :: rest => do
      let after ← pollRound settings existing loop round
      pollRounds settings existing after rest

/-! ## Beginning a run -/

/-- How a run begins: with the chunks of the branch map, the branches that
existed when it was scheduled, and the round law submits before it polls; or
with the job data that an earlier run has left. -/
inductive Launch where
  | fresh (chunks : Dict JobNum (List Branch)) (scheduled : Finset Branch) (round : Round)
  | resumed (jobData : JobData)

/-- The job data of a fresh run: `process_resources` recorded the chunks that
were complete when the run was scheduled, and `_run_impl` puts all of them in
the backlog. -/
def freshJobData (chunks : Dict JobNum (List Branch)) (scheduled : Finset Branch) : JobData where
  jobs := (chunks.filter fun _ branches => decide (Complete scheduled branches)).mapValues
    fun _ branches => ⟨branches, .finished, none⟩
  unsubmittedJobs := chunks
  attempts := Dict.empty

/-- The job data a run begins with. -/
def Launch.jobData : Launch → JobData
  | .fresh chunks scheduled _ => freshJobData chunks scheduled
  | .resumed jobData => jobData

/-- The proxy when a run begins: `ResyncExistingBranchesProxy.run` has cleared
the verdicts. -/
def beginRun (jobData : JobData) (submitted : Bool) : Proxy :=
  ⟨jobData, Dict.empty, none, submitted⟩

/-- law's `_run_impl` up to the beginning of `poll`. -/
def Launch.start (settings : Settings) (existing : Finset Branch) : Launch → Except String PollLoop
  | .fresh chunks scheduled round => do
      let first ← submit settings existing round Dict.empty
        (beginRun (freshJobData chunks scheduled) false)
      return startPoll existing first.1
  | .resumed jobData => .ok (startPoll existing (beginRun jobData true))

end DSProd.Crab
