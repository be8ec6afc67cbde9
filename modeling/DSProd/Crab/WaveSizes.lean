import DSProd.Crab.ReleaseClock
import DSProd.Library.Instants

/-!
# The sizes of the CRAB tasks

Creating a CRAB task is expensive, so the gate waits for a wave of
`refill_fraction * parallel_jobs` jobs as long as one can still come.  Only the
timer of the parked retries lets a smaller task out.

The gate measures the backlog, and law submits from it what cannot be skipped.
In the poll loop these are the same: `_drop_complete_backlog` leaves only jobs
that were judged, and parking adds only such jobs.  The timer is started anew by
every release, so a smaller task comes a whole release window after any task
before it.
-/

namespace DSProd.Crab

open DSProd.Library
open DSProd.Watchdog (JobNum Branch)

variable {settings : Settings} {existing : Finset Branch} {round : Round}
  {retryJobs : Dict JobNum (List Branch)} {proxy : Proxy}

/-! ## CRAB tasks -/

/-- A CRAB task as a round creates it: when, of how many jobs, and the slots,
the active jobs and the waiting ones that the round found. -/
structure SentTask where
  createdAt : ℚ
  size : Nat
  nParallel : Nat
  nActive : Nat
  nWaiting : Nat
  deriving DecidableEq

namespace SentTask

/-- The task is a whole wave. -/
def isWave (settings : Settings) (task : SentTask) : Bool :=
  match crabRefillFraction settings with
  | .error _ => false
  | .ok fraction => (fraction.mulNat task.nParallel).le (.finite task.size)

/-- No wave could come any more, whatever happened to the active jobs. -/
def isTail (settings : Settings) (task : SentTask) : Bool :=
  match crabRefillFraction settings with
  | .error _ => false
  | .ok fraction =>
      (Number.finite (task.nActive + task.nWaiting : ℕ)).lt (fraction.mulNat task.nParallel)

/-- The task is smaller than a wave while a wave was still possible, in a
production that limits its parallel jobs. -/
def isUndersized (settings : Settings) (task : SentTask) : Bool :=
  !task.isWave settings && !task.isTail settings && decide (task.nParallel < settings.nParallelMax)

end SentTask

/-- The task that a round creates of the jobs it submitted, if there are any. -/
def sentTask (round : Round) (nWaiting : Nat) (submitted : Dict JobNum (List Branch)) :
    List SentTask :=
  if submitted.items = [] then []
  else [⟨round.now, submitted.size, round.nParallel, round.nActive, nWaiting⟩]

/-- The CRAB tasks that the rounds of a poll loop create. -/
def sentTasks (settings : Settings) (existing : Finset Branch) (loop : PollLoop) :
    List Round → List SentTask
  | [] => []
  | round :: rest =>
      let reported := round.reported loop.proxy
      let retryJobs := round.retryJobs reported.jobData.jobs
      match submit settings existing round retryJobs reported with
      | .error _ => []
      | .ok (after, submitted) =>
          sentTask round (reported.jobData.unsubmittedJobs.size + retryJobs.size) submitted ++
            sentTasks settings existing { loop with proxy := after } rest

/-! ## What a round creates -/

/-- law submits at least as many jobs as the gate found room for. -/
theorem room_le_size {submitted : Dict JobNum (List Branch)} (judged : Judged proxy)
    (isSubmitted : submitted = (lawSubmit existing round retryJobs proxy).2) :
    min (proxy.jobData.unsubmittedJobs.size : ℤ) (round.nParallel - round.nActive) ≤
      submitted.size := by
  rcases filling_lawTake existing round retryJobs proxy with full | emptied
  · -- the slots are full
    have slots : round.nParallel ≤ round.nActive + submitted.size := isSubmitted ▸ full
    omega
  · -- or every job of the backlog was taken
    obtain ⟨putBack, left, _, taken⟩ := lawSubmit_backlog existing round retryJobs judged
    have nothing := List.eq_nil_iff_forall_not_mem.mpr fun jobNum member =>
      List.not_mem_nil (emptied jobNum member)
    have noneLeft := List.drop_eq_nil_iff.mp
      (List.append_eq_nil_iff.mp (left.symm.trans nothing)).1
    rw [List.take_of_length_le noneLeft] at taken
    have fewer : proxy.jobData.unsubmittedJobs.keys.length ≤ submitted.keys.length :=
      (proxy.jobData.unsubmittedJobs.keys_nodup.subperm
        fun jobNum waits => isSubmitted ▸ taken jobNum waits).length_le
    rw [Dict.length_keys, Dict.length_keys] at fewer
    omega

/-- Without a waiting job and without a retry law submits nothing. -/
theorem submitted_of_nothing {submitted : Dict JobNum (List Branch)}
    (nothing : proxy.jobData.unsubmittedJobs.size + retryJobs.size = 0)
    (isSubmitted : submitted = (lawSubmit existing round retryJobs proxy).2) :
    submitted.items = [] := by
  obtain ⟨noBacklog, noRetry⟩ := Nat.add_eq_zero_iff.mp nothing
  have backlog : proxy.jobData.unsubmittedJobs.items = [] := List.length_eq_zero_iff.mp noBacklog
  have retries : retryJobs.items = [] := List.length_eq_zero_iff.mp noRetry
  rw [isSubmitted, lawSubmit, lawTake, retries]
  simp [backlog]

/-- Only the timer lets an undersized task out. -/
theorem due_of_isUndersized {submitted : Dict JobNum (List Branch)} {task : SentTask}
    (judged : Judged proxy)
    (opened : shouldSubmitCrabGroup settings round proxy proxy.jobData.unsubmittedJobs.size
      retryJobs.size = .ok true)
    (isSubmitted : submitted = (lawSubmit existing round retryJobs proxy).2)
    (created : task ∈
      sentTask round (proxy.jobData.unsubmittedJobs.size + retryJobs.size) submitted)
    (undersized : task.isUndersized settings = true) :
    parkedRetriesAreDue settings round.now proxy = .ok true := by
  rw [sentTask] at created
  split at created
  · cases created
  rename_i something
  rw [List.mem_singleton] at created
  subst created
  simp only [SentTask.isUndersized, SentTask.isWave, SentTask.isTail, Bool.and_eq_true,
    Bool.not_eq_true', decide_eq_true_eq] at undersized
  obtain ⟨⟨noWave, noTail⟩, limited⟩ := undersized
  have someWait : ¬ proxy.jobData.unsubmittedJobs.size + retryJobs.size = 0 := fun nothing =>
    something (submitted_of_nothing nothing isSubmitted)
  rw [shouldSubmitCrabGroup, if_neg (not_le.mpr limited), if_neg someWait] at opened
  cases refill : crabRefillFraction settings with
  | error message =>
      rw [refill] at opened
      cases opened
  | ok fraction =>
      rw [refill] at opened noWave noTail
      have noRoom : (fraction.mulNat round.nParallel).le (.finite
          ((min (proxy.jobData.unsubmittedJobs.size : ℤ)
            (round.nParallel - round.nActive) : ℤ) : ℚ)) = false := by
        by_contra fits
        have size : ((min (proxy.jobData.unsubmittedJobs.size : ℤ)
            (round.nParallel - round.nActive) : ℤ) : ℚ) ≤ submitted.size := by
          exact_mod_cast room_le_size judged isSubmitted
        have wave := Number.le_finite_of_le (Bool.not_eq_false _ ▸ fits) size
        exact Bool.false_ne_true (noWave.symm.trans wave)
      have outOfReach : (Number.finite (round.nActive +
          (proxy.jobData.unsubmittedJobs.size + retryJobs.size) : ℕ)).lt
            (fraction.mulNat round.nParallel) = false := noTail
      simpa only [bind, Except.bind, noRoom, outOfReach, Bool.false_eq_true, if_false] using opened

/-- The clock of the retries, if it runs, was started at some time or later. -/
def ClockAfter (time : ℚ) (proxy : Proxy) : Prop :=
  ∀ since, proxy.retryParkedSince = some since → time ≤ since

theorem clockAfter_reported {time : ℚ} (round : Round) :
    ClockAfter time (round.reported proxy) ↔ ClockAfter time proxy :=
  Iff.rfl

theorem clockAfter_updateRetryReleaseClock {time now : ℚ} {afterRelease : Bool}
    (later : time ≤ now) (clock : ClockAfter time proxy) :
    ClockAfter time (updateRetryReleaseClock now afterRelease proxy) := by
  intro since runs
  rw [updateRetryReleaseClock] at runs
  split at runs
  · cases runs
  split at runs
  · cases runs
    exact later
  · exact clock since runs

/-- A release leaves the clock stopped, or started anew. -/
theorem clockAfter_of_release (now : ℚ) (proxy : Proxy) :
    ClockAfter now (updateRetryReleaseClock now true proxy) := by
  intro since runs
  rw [updateRetryReleaseClock] at runs
  split at runs
  · cases runs
  · rw [if_pos (Or.inl rfl)] at runs
    cases runs
    exact le_rfl

theorem clockAfter_parkRetries {time now : ℚ} (later : time ≤ now)
    (clock : ClockAfter time proxy) :
    ClockAfter time (parkRetries existing now retryJobs proxy) := by
  have leaves := (handles_parkRetry existing).leaves retryJobs.items ⟨Dict.empty, proxy⟩
  have parked : ClockAfter time
      (retryJobs.items.foldl (parkRetry existing) ⟨Dict.empty, proxy⟩).proxy := by
    intro since runs
    rw [leaves.2] at runs
    exact clock since runs
  rw [parkRetries]
  split
  · exact parked
  · exact clockAfter_updateRetryReleaseClock later parked

/-- A `submit` does not move the clock back. -/
theorem clockAfter_submit {time : ℚ} {result : Proxy × Dict JobNum (List Branch)}
    (later : time ≤ round.now) (clock : ClockAfter time proxy)
    (returned : submit settings existing round retryJobs proxy = .ok result) :
    ClockAfter time result.1 := by
  rcases submit_cases returned with ⟨_, rfl⟩ | ⟨_, _, rfl⟩ | ⟨_, _, rfl⟩
  · exact clockAfter_parkRetries later clock
  · exact clockAfter_parkRetries later (clockAfter_updateRetryReleaseClock later clock)
  · exact fun since runs => later.trans (clockAfter_of_release _ _ since runs)

/-- Behind a task that it creates, a `submit` has started the clock anew. -/
theorem clockAfter_of_created {nWaiting : Nat} {result : Proxy × Dict JobNum (List Branch)}
    {task : SentTask} (returned : submit settings existing round retryJobs proxy = .ok result)
    (created : task ∈ sentTask round nWaiting result.2) :
    task.createdAt = round.now ∧ ClockAfter round.now result.1 := by
  have isNow : task.createdAt = round.now := by
    rw [sentTask] at created
    split at created
    · cases created
    · rw [List.mem_singleton.mp created]
  rcases submit_cases returned with ⟨_, rfl⟩ | ⟨_, _, rfl⟩ | ⟨_, _, rfl⟩
  · simp [sentTask] at created
  · simp [sentTask] at created
  · exact ⟨isNow, clockAfter_of_release _ _⟩

/-- Before an undersized task the clock has run for a release window. -/
theorem waited_of_isUndersized {time minutes : ℚ} {result : Proxy × Dict JobNum (List Branch)}
    {task : SentTask} (judged : Judged proxy)
    (reads : crabRetryReleaseMinutes settings = .ok minutes)
    (later : time ≤ round.now) (clock : ClockAfter time proxy)
    (returned : submit settings existing round retryJobs proxy = .ok result)
    (created : task ∈
      sentTask round (proxy.jobData.unsubmittedJobs.size + retryJobs.size) result.2)
    (undersized : task.isUndersized settings = true) : time + minutes * 60 ≤ round.now := by
  rcases submit_cases returned with ⟨_, rfl⟩ | ⟨_, _, rfl⟩ | ⟨_, opened, rfl⟩
  · simp [sentTask] at created
  · simp [sentTask] at created
  · have judgedClocked := judged_updateRetryReleaseClock round.now false judged
    have due := due_of_isUndersized judgedClocked opened rfl
      (by rwa [jobData_updateRetryReleaseClock]) undersized
    rw [parkedRetriesAreDue] at due
    split at due
    · cases due
    · rename_i since runs
      simp only [reads, bind, Except.bind, pure, Except.pure, Except.ok.injEq,
        decide_eq_true_eq] at due
      have afterTime := clockAfter_updateRetryReleaseClock later clock since runs
      linarith

/-! ## Whole runs -/

/-- Undersized tasks come a release window after any task before them, so a
stretch of time holds few of them. -/
structure WavesKept (settings : Settings) (minutes : ℚ) (tasks : List SentTask) : Prop where
  spaced : tasks.Pairwise fun earlier later =>
    later.isUndersized settings = true → earlier.createdAt + minutes * 60 ≤ later.createdAt
  few : ∀ begins ends, begins ≤ ends →
    (∀ task ∈ tasks, begins ≤ task.createdAt ∧ task.createdAt ≤ ends) →
    begins + ((tasks.filter (SentTask.isUndersized settings)).length - 1) • (minutes * 60) ≤ ends

/-- Tasks that are spaced are few. -/
theorem WavesKept.of_spaced {minutes : ℚ} {tasks : List SentTask}
    (spaced : tasks.Pairwise fun earlier later =>
      later.isUndersized settings = true → earlier.createdAt + minutes * 60 ≤ later.createdAt) :
    WavesKept settings minutes tasks := by
  refine ⟨spaced, fun begins ends ordered within => ?_⟩
  have apart : ((tasks.filter (SentTask.isUndersized settings)).map SentTask.createdAt).Pairwise
      fun earlier later => earlier + minutes * 60 ≤ later := by
    rw [List.pairwise_map]
    apply (spaced.sublist List.filter_sublist).imp_of_mem
    intro earlier later _ isUndersized spacedBy
    exact spacedBy (List.of_mem_filter isUndersized)
  cases undersized : tasks.filter (SentTask.isUndersized settings) with
  | nil => simpa using ordered
  | cons first rest =>
      rw [undersized] at apart
      have isTask : ∀ task ∈ first :: rest, task ∈ tasks := by
        intro task member
        rw [← undersized] at member
        exact List.mem_of_mem_filter member
      have passed : first.createdAt + (rest.map SentTask.createdAt).length • (minutes * 60) ≤
          ends := by
        apply Instants.add_nsmul_length_le apart
        intro moment member
        rw [← List.map_cons, List.mem_map] at member
        obtain ⟨task, among, rfl⟩ := member
        exact (within task (isTask task among)).2
      have begun := (within first (isTask first List.mem_cons_self)).1
      simp only [List.length_map, List.length_cons, Nat.add_sub_cancel] at passed ⊢
      linarith

/-- Every undersized task of some rounds comes a release window after the time
the clock was started at. -/
theorem spaced_of_clockAfter {time minutes : ℚ} {rounds : List Round} {loop : PollLoop}
    (reads : crabRetryReleaseMinutes settings = .ok minutes)
    (judged : Judged loop.proxy)
    (clock : ClockAfter time loop.proxy) (later : ∀ round ∈ rounds, time ≤ round.now) :
    ∀ task ∈ sentTasks settings existing loop rounds, task.isUndersized settings = true →
      time + minutes * 60 ≤ task.createdAt := by
  induction rounds generalizing loop with
  | nil => simp [sentTasks]
  | cons round rest ih =>
      intro task created undersized
      rw [sentTasks] at created
      cases returned : submit settings existing round
          (round.retryJobs (round.reported loop.proxy).jobData.jobs)
          (round.reported loop.proxy) with
      | error message =>
          simp only [returned] at created
          cases created
      | ok result =>
          simp only [returned] at created
          have judgedReported := (judged_reported round).mpr judged
          have clockReported := (clockAfter_reported round).mpr clock
          have notBefore := later round List.mem_cons_self
          rcases List.mem_append.mp created with now | afterwards
          · rw [(clockAfter_of_created returned now).1]
            exact waited_of_isUndersized judgedReported reads notBefore clockReported returned now
              undersized
          · exact ih (judged_submit judgedReported returned)
              (clockAfter_submit notBefore clockReported returned)
              (fun round member => later round (List.mem_cons_of_mem _ member)) task afterwards
              undersized

/-- On a clock that never goes back, undersized tasks are spaced. -/
theorem wavesKept_of_judged {minutes : ℚ} {rounds : List Round} {loop : PollLoop}
    (reads : crabRetryReleaseMinutes settings = .ok minutes)
    (judged : Judged loop.proxy)
    (inOrder : rounds.Pairwise fun earlier later => earlier.now ≤ later.now) :
    WavesKept settings minutes (sentTasks settings existing loop rounds) := by
  apply WavesKept.of_spaced
  induction rounds generalizing loop with
  | nil => exact List.Pairwise.nil
  | cons round rest ih =>
      obtain ⟨first, inOrderRest⟩ := List.pairwise_cons.mp inOrder
      rw [sentTasks]
      cases returned : submit settings existing round
          (round.retryJobs (round.reported loop.proxy).jobData.jobs)
          (round.reported loop.proxy) with
      | error message => exact List.Pairwise.nil
      | ok result =>
          have judgedAfter := judged_submit ((judged_reported round).mpr judged) returned
          apply List.pairwise_append.mpr
          refine ⟨?_, ih judgedAfter inOrderRest, fun earlier created later afterwards => ?_⟩
          · rw [sentTask]
            split
            · exact List.Pairwise.nil
            · exact List.pairwise_singleton _ _
          · -- the round that created the earlier task has started the clock anew
            obtain ⟨isNow, restarted⟩ := clockAfter_of_created returned created
            rw [isNow]
            exact spaced_of_clockAfter reads judgedAfter restarted first later afterwards

/-- In the poll loop of any run a CRAB task smaller than a wave, with a wave
still possible, comes a release window after every task before it. -/
theorem undersized_tasks_are_rare {minutes : ℚ} {launch : Launch} {rounds : List Round}
    {loop : PollLoop} (reads : crabRetryReleaseMinutes settings = .ok minutes)
    (started : launch.start settings existing = .ok loop)
    (inOrder : rounds.Pairwise fun earlier later => earlier.now ≤ later.now) :
    WavesKept settings minutes (sentTasks settings existing loop rounds) :=
  wavesKept_of_judged reads (judged_start started) inOrder

/-- A run that resumes two retries. -/
def twoParked : Launch :=
  .resumed ⟨Dict.empty, Dict.ofList [(1, [0]), (2, [1])], Dict.ofList [(1, 1), (2, 1)]⟩

/-- A round that finds one free slot. -/
def lastSlotAt (now : ℚ) : Round :=
  ⟨fun _ => none, [], 5000, 4999, true, true, now⟩

/-- The two retries go out in tasks of their own, 45 minutes apart. -/
theorem undersized_tasks_are_rare_twoParked :
    ∃ tasks, tasks = [⟨2700, 1, 5000, 4999, 2⟩, ⟨5400, 1, 5000, 4999, 1⟩] ∧
      tasks.filter (SentTask.isUndersized { nParallelMax := 99999999 }) = tasks ∧
      WavesKept { nParallelMax := 99999999 } 45 tasks := by
  let settings : Settings := { nParallelMax := 99999999 }
  let loop := startPoll ∅ (beginRun twoParked.jobData true)
  let rounds := [lastSlotAt 0, lastSlotAt 2700, lastSlotAt 5400]
  have inOrder : rounds.Pairwise fun earlier later => earlier.now ≤ later.now := by
    decide +kernel
  have started : twoParked.start settings ∅ = .ok loop := rfl
  refine ⟨sentTasks settings ∅ loop rounds, by decide +kernel, by decide +kernel, ?_⟩
  exact undersized_tasks_are_rare (by decide +kernel) started inOrder

end DSProd.Crab
