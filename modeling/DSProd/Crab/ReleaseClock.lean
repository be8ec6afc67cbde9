import DSProd.Crab.Backlog
import DSProd.Crab.WaveGate

/-!
# The release window of the parked retries

The clock of `_update_retry_release_clock` should run exactly while a retry is
held back, since only it lets a handful of retries out before they fill a wave.
Parking keeps a running clock, and a release starts it anew for what it leaves
behind.

A skipped round updates the clock only when it parks a retry.  The retries that
a resumed run reads from its job data are therefore off the clock until a round
consults the gate, or parks one more.
-/

namespace DSProd.Crab

open DSProd.Library
open DSProd.Watchdog (JobNum Branch)

variable {settings : Settings} {existing : Finset Branch} {round : Round}
  {retryJobs : Dict JobNum (List Branch)} {proxy : Proxy}

/-! ## What is asked of the clock -/

/-- A retry is held back: a job waits that was tried before. -/
def HoldsRetry (proxy : Proxy) : Prop :=
  ∃ jobNum, jobNum ∈ proxy.jobData.unsubmittedJobs.keys ∧ jobNum ∈ proxy.jobData.attempts.keys

/-- What a `submit` has to do about the clock: it runs afterwards exactly while
a retry is held back, a round that parks does not move it, and a release starts
it for the retries that it leaves. -/
structure KeepsWindow (settings : Settings) (round : Round) (retryJobs : Dict JobNum (List Branch))
    (before after : Proxy) : Prop where
  runs : after.retryParkedSince ≠ none ↔ HoldsRetry after
  parks : round.treeReadable = false ∨ waveGate settings round retryJobs before = .ok false →
    ∀ since, before.retryParkedSince = some since → after.retryParkedSince = some since
  releases : round.treeReadable = true → waveGate settings round retryJobs before = .ok true →
    HoldsRetry after → after.retryParkedSince = some round.now

/-- Every `submit` of some rounds of a poll loop does so. -/
def LoopKeepsWindow (settings : Settings) (existing : Finset Branch) :
    PollLoop → List Round → Prop
  | _, [] => True
  | loop, round :: rest =>
      let reported := round.reported loop.proxy
      ∀ after, pollRound settings existing loop round = .ok after →
        KeepsWindow settings round (round.retryJobs reported.jobData.jobs) reported after.proxy ∧
          LoopKeepsWindow settings existing after rest

/-- Every `submit` of a run does so: the one before the poll loop of a fresh
run, and those of the rounds of the loop. -/
def Launch.KeepsWindow (settings : Settings) (existing : Finset Branch) (rounds : List Round) :
    Launch → Prop
  | .fresh chunks scheduled round =>
      let begun := beginRun (freshJobData chunks scheduled) false
      ∀ first, submit settings existing round Dict.empty begun = .ok first →
        DSProd.Crab.KeepsWindow settings round Dict.empty begun first.1 ∧
          LoopKeepsWindow settings existing (startPoll existing first.1) rounds
  | .resumed jobData =>
      LoopKeepsWindow settings existing (startPoll existing (beginRun jobData true)) rounds

/-! ## The clock -/

theorem holdsRetry_iff : HoldsRetry proxy ↔ parkedRetries proxy ≠ [] := by
  constructor
  · rintro ⟨jobNum, waits, tried⟩
    exact List.ne_nil_of_mem (mem_parkedRetries.mpr ⟨waits, tried⟩)
  · intro parked
    obtain ⟨jobNum, member⟩ := List.exists_mem_of_ne_nil _ parked
    exact ⟨jobNum, mem_parkedRetries.mp member⟩

/-- The clock runs exactly while a retry is held back. -/
def OnClock (proxy : Proxy) : Prop :=
  proxy.retryParkedSince ≠ none ↔ HoldsRetry proxy

@[simp]
theorem holdsRetry_updateRetryReleaseClock (now : ℚ) (afterRelease : Bool) :
    HoldsRetry (updateRetryReleaseClock now afterRelease proxy) ↔ HoldsRetry proxy := by
  rw [HoldsRetry, HoldsRetry, jobData_updateRetryReleaseClock]

theorem onClock_updateRetryReleaseClock (now : ℚ) (afterRelease : Bool) (proxy : Proxy) :
    OnClock (updateRetryReleaseClock now afterRelease proxy) := by
  rw [OnClock, holdsRetry_updateRetryReleaseClock, holdsRetry_iff, updateRetryReleaseClock]
  split
  · rename_i nothing
    simp [nothing]
  · rename_i something
    split
    · simp [something]
    · rename_i runs
      simp only [something, ne_eq, not_false_eq_true, iff_true]
      exact fun stopped => runs (Or.inr stopped)

/-- Updating a running clock does not move it while a retry is held back. -/
theorem updateRetryReleaseClock_of_running {now since : ℚ} (holds : HoldsRetry proxy)
    (running : proxy.retryParkedSince = some since) :
    (updateRetryReleaseClock now false proxy).retryParkedSince = some since := by
  rw [updateRetryReleaseClock, if_neg (holdsRetry_iff.mp holds), if_neg (by simp [running])]
  exact running

/-- A release starts the clock anew. -/
theorem updateRetryReleaseClock_of_release {now : ℚ} (holds : HoldsRetry proxy) :
    (updateRetryReleaseClock now true proxy).retryParkedSince = some now := by
  rw [updateRetryReleaseClock, if_neg (holdsRetry_iff.mp holds), if_pos (Or.inl rfl)]

/-! ## Parking -/

/-- Parking keeps the retries that are held back already. -/
theorem holdsRetry_parkRetries (existing : Finset Branch) (now : ℚ)
    (retryJobs : Dict JobNum (List Branch)) (holds : HoldsRetry proxy) :
    HoldsRetry (parkRetries existing now retryJobs proxy) := by
  obtain ⟨jobNum, waits, tried⟩ := holds
  apply Exists.intro jobNum
  constructor
  · exact mem_keys_parkRetries.mpr (Or.inr waits)
  · rw [attempts_parkRetries]
    exact tried

/-- A round that parks something puts what is held back on the clock. -/
theorem onClock_parkRetries_of_some {now : ℚ}
    (something : handedRetries existing retryJobs proxy ≠ []) :
    OnClock (parkRetries existing now retryJobs proxy) := by
  have held := (parkRetries_loop existing retryJobs proxy).1
  rw [parkRetries, if_neg (held ▸ something)]
  exact onClock_updateRetryReleaseClock _ _ _

/-- A round that parks nothing leaves the clock as it was. -/
theorem onClock_parkRetries_of_nothing {now : ℚ}
    (nothing : handedRetries existing retryJobs proxy = []) :
    OnClock (parkRetries existing now retryJobs proxy) ↔ OnClock proxy := by
  obtain ⟨unsubmitted, attempts, clock⟩ := parkRetries_of_nothing now nothing
  rw [OnClock, OnClock, HoldsRetry, HoldsRetry, unsubmitted, attempts, clock]

theorem onClock_parkRetries {now : ℚ} (onClock : OnClock proxy) :
    OnClock (parkRetries existing now retryJobs proxy) := by
  by_cases nothing : handedRetries existing retryJobs proxy = []
  · exact (onClock_parkRetries_of_nothing nothing).mpr onClock
  · exact onClock_parkRetries_of_some nothing

/-- Parking does not move a running clock. -/
theorem parkRetries_of_running {now since : ℚ} (holds : HoldsRetry proxy)
    (running : proxy.retryParkedSince = some since) :
    (parkRetries existing now retryJobs proxy).retryParkedSince = some since := by
  have after := holdsRetry_parkRetries existing now retryJobs holds
  have leaves := (handles_parkRetry existing).leaves retryJobs.items ⟨Dict.empty, proxy⟩
  rw [parkRetries] at after ⊢
  split
  · exact leaves.2.trans running
  · rename_i something
    rw [if_neg something, holdsRetry_updateRetryReleaseClock] at after
    exact updateRetryReleaseClock_of_running after (leaves.2.trans running)

/-! ## A round -/

/-- What a `submit` does about the clock, from a proxy whose clock runs only
while a retry is held back.  It can only fail to start it. -/
theorem keepsWindow_iff {result : Proxy × Dict JobNum (List Branch)}
    (justified : proxy.retryParkedSince ≠ none → HoldsRetry proxy)
    (returned : submit settings existing round retryJobs proxy = .ok result) :
    KeepsWindow settings round retryJobs proxy result.1 ↔
      OnClock proxy ∨ round.treeReadable = true ∨
        handedRetries existing retryJobs proxy ≠ [] := by
  have running : ∀ since, proxy.retryParkedSince = some since → HoldsRetry proxy := by
    intro since runs
    exact justified (by simp [runs])
  rcases submit_cases returned with ⟨unreadable, rfl⟩ | ⟨readable, closed, rfl⟩ |
    ⟨readable, opened, rfl⟩
  · -- a skipped round updates the clock only when it parks something
    constructor
    · intro keeps
      by_cases nothing : handedRetries existing retryJobs proxy = []
      · exact Or.inl ((onClock_parkRetries_of_nothing nothing).mp keeps.runs)
      · exact Or.inr (Or.inr nothing)
    · intro starts
      constructor
      case runs =>
        rcases starts with onClock | readable | something
        · exact onClock_parkRetries onClock
        · rw [unreadable] at readable
          cases readable
        · exact onClock_parkRetries_of_some something
      case parks =>
        intro _ since runs
        exact parkRetries_of_running (running since runs) runs
      case releases =>
        intro readable
        rw [unreadable] at readable
        cases readable
  · -- a closed gate has updated it before it parks
    refine iff_of_true ?_ (Or.inr (Or.inl readable))
    constructor
    case runs => exact onClock_parkRetries (onClock_updateRetryReleaseClock _ _ _)
    case parks =>
      intro _ since runs
      have holds := running since runs
      apply parkRetries_of_running
      · exact (holdsRetry_updateRetryReleaseClock _ _).mpr holds
      · exact updateRetryReleaseClock_of_running holds runs
    case releases =>
      intro _ opened
      rw [waveGate, closed] at opened
      cases opened
  · -- and a release starts it anew
    refine iff_of_true ?_ (Or.inr (Or.inl readable))
    constructor
    case runs => exact onClock_updateRetryReleaseClock _ _ _
    case parks =>
      rintro (unreadable | closed)
      · rw [readable] at unreadable
        cases unreadable
      · rw [waveGate, opened] at closed
        cases closed
    case releases =>
      intro _ _ holds
      exact updateRetryReleaseClock_of_release ((holdsRetry_updateRetryReleaseClock _ _).mp holds)

/-- What law reports and offers takes no retry back. -/
theorem holdsRetry_reported (round : Round) (holds : HoldsRetry proxy) :
    HoldsRetry (round.reported proxy) := by
  obtain ⟨jobNum, waits, tried⟩ := holds
  exact ⟨jobNum, waits, mem_attempts_reported.mpr (Or.inl tried)⟩

/-- A job that waits becomes a retry when it is offered as one, and then the
round parks it. -/
theorem onClock_reported (judged : Judged proxy) (onClock : OnClock proxy) (round : Round) :
    OnClock (round.reported proxy) ∨
      handedRetries existing (round.retryJobs (round.reported proxy).jobData.jobs)
        (round.reported proxy) ≠ [] := by
  by_cases right : OnClock (round.reported proxy)
  · exact Or.inl right
  right
  have notHeld : ¬HoldsRetry proxy := fun holds =>
    right ⟨fun _ => holdsRetry_reported round holds, fun _ => onClock.mpr holds⟩
  have stopped : (round.reported proxy).retryParkedSince = none :=
    not_not.mp fun runs => notHeld (onClock.mp runs)
  have holds : HoldsRetry (round.reported proxy) := by
    by_contra notReported
    exact right ⟨fun runs => absurd stopped runs, fun holds => absurd holds notReported⟩
  obtain ⟨jobNum, waits, tried⟩ := holds
  rcases mem_attempts_reported.mp tried with before | offered
  · exact absurd ⟨jobNum, waits, before⟩ notHeld
  have handed := handed_of_judged existing ((judged_reported round).mpr judged) waits
    offered
  intro nothing
  rw [nothing] at handed
  cases handed

/-- Once the clock is right it stays so, in every round. -/
theorem loopKeepsWindow_of_onClock {loop : PollLoop} (judged : Judged loop.proxy)
    (onClock : OnClock loop.proxy) (rounds : List Round) :
    LoopKeepsWindow settings existing loop rounds := by
  induction rounds generalizing loop with
  | nil => trivial
  | cons round rest ih =>
      intro after returned
      obtain ⟨submitted, outcome⟩ := submit_of_pollRound returned
      have judgedReported := (judged_reported round).mpr judged
      have keeps := (keepsWindow_iff
        (fun runs => holdsRetry_reported round (onClock.mp runs)) outcome).mpr
          ((onClock_reported judged onClock round).imp_right Or.inr)
      exact ⟨keeps, ih (judged_submit judgedReported outcome) keeps.runs⟩

/-! ## Whole runs -/

/-- What takes the retries of resumed job data on the clock: the first round
finds none of them left, consults the gate, parks a retry, or is stopped by the
brake on mass retries. -/
def StartsClock (existing : Finset Branch) (jobData : JobData) (round : Round) : Prop :=
  let reported := round.reported (startPoll existing (beginRun jobData true)).proxy
  let retryJobs := round.retryJobs reported.jobData.jobs
  ¬HoldsRetry reported ∨ round.treeReadable = true ∨
    (∃ retry ∈ retryJobs.items, (canSkipJob existing reported retry.1 retry.2).1 = false) ∨
    ∃ message, stopOnMassInitialRetry reported retryJobs = .error message

/-- The runs whose clock is right after every `submit`: all but those that
resume retries and skip their first round without parking another one. -/
def Launch.StartsClock (existing : Finset Branch) : Launch → List Round → Prop
  | .resumed jobData, round :: _ => DSProd.Crab.StartsClock existing jobData round
  | _, _ => True

theorem exists_unskipped_iff :
    (∃ retry ∈ retryJobs.items, (canSkipJob existing proxy retry.1 retry.2).1 = false) ↔
      handedRetries existing retryJobs proxy ≠ [] := by
  rw [handedRetries, ne_eq, List.filter_eq_nil_iff]
  simp [skips]

/-- A stopped clock is right exactly when no retry is held back. -/
theorem onClock_of_stopped (stopped : proxy.retryParkedSince = none) :
    OnClock proxy ↔ ¬HoldsRetry proxy := by
  simp [OnClock, stopped]

theorem not_holdsRetry_of_untried (untried : proxy.jobData.attempts = Dict.empty) :
    ¬HoldsRetry proxy := by
  rintro ⟨jobNum, _, tried⟩
  rw [untried] at tried
  cases tried

/-- Nothing was tried before a fresh run, so its first `submit` does right by
the clock, and the poll loop finds it right. -/
theorem keepsWindow_of_fresh {chunks : Dict JobNum (List Branch)} {scheduled : Finset Branch}
    {result : Proxy × Dict JobNum (List Branch)}
    (returned : submit settings existing round Dict.empty
      (beginRun (freshJobData chunks scheduled) false) = .ok result) :
    KeepsWindow settings round Dict.empty (beginRun (freshJobData chunks scheduled) false)
        result.1 ∧
      OnClock (startPoll existing result.1).proxy := by
  have begun : OnClock (beginRun (freshJobData chunks scheduled) false) :=
    (onClock_of_stopped rfl).mpr (not_holdsRetry_of_untried rfl)
  have keeps := (keepsWindow_iff begun.mp returned).mpr (Or.inl begun)
  have untried : result.1.jobData.attempts = Dict.empty := attempts_submit returned
  have leaves := dropCompleteBacklog_leaves existing result.1
  have stopped : result.1.retryParkedSince = none := by
    by_contra runs
    exact not_holdsRetry_of_untried untried (keeps.runs.mp runs)
  constructor
  · exact keeps
  · exact (onClock_of_stopped (leaves.2.trans stopped)).mpr
      (not_holdsRetry_of_untried (leaves.1.trans untried))

/-- A skipped round with nothing to park leaves the proxy as it found it. -/
theorem submit_of_unreadable (settings : Settings) (existing : Finset Branch)
    (unreadable : round.treeReadable = false)
    (unbraked : ¬∃ message, stopOnMassInitialRetry proxy retryJobs = .error message) :
    submit settings existing round retryJobs proxy =
      .ok (parkRetries existing round.now retryJobs proxy, Dict.empty) := by
  cases braked : stopOnMassInitialRetry proxy retryJobs with
  | error message => exact absurd ⟨message, braked⟩ unbraked
  | ok _ => simp [submit, braked, unreadable, bind, Except.bind, pure, Except.pure]

/-- A resumed run does right by the clock in every round exactly when its first
round takes the retries of its job data on the clock. -/
theorem loopKeepsWindow_resumed_iff {jobData : JobData} {rest : List Round} :
    LoopKeepsWindow settings existing (startPoll existing (beginRun jobData true))
        (round :: rest) ↔ StartsClock existing jobData round := by
  let loop := startPoll existing (beginRun jobData true)
  let offered := round.retryJobs (round.reported loop.proxy).jobData.jobs
  have stopped : (round.reported loop.proxy).retryParkedSince = none :=
    (dropCompleteBacklog_leaves existing (beginRun jobData true)).2
  have justified : (round.reported loop.proxy).retryParkedSince ≠ none →
      HoldsRetry (round.reported loop.proxy) := fun runs => absurd stopped runs
  have judged : Judged (round.reported loop.proxy) :=
    (judged_reported round).mpr (judged_dropCompleteBacklog existing _)
  constructor
  · intro keeps
    by_cases braked : ∃ message,
        stopOnMassInitialRetry (round.reported loop.proxy) offered = .error message
    · exact Or.inr (Or.inr (Or.inr braked))
    by_cases readable : round.treeReadable = true
    · exact Or.inr (Or.inl readable)
    have outcome := submit_of_unreadable settings existing (Bool.eq_false_iff.mpr readable) braked
    have returned : pollRound settings existing loop round = .ok { loop with
        proxy := parkRetries existing round.now offered (round.reported loop.proxy) } := by
      rw [pollRound, outcome]
      rfl
    rcases (keepsWindow_iff justified outcome).mp (keeps _ returned).1 with
      onClock | unreadable | something
    · exact Or.inl ((onClock_of_stopped stopped).mp onClock)
    · exact Or.inr (Or.inl unreadable)
    · exact Or.inr (Or.inr (Or.inl (exists_unskipped_iff.mpr something)))
  · intro starts after returned
    obtain ⟨submitted, outcome⟩ := submit_of_pollRound returned
    have keeps := (keepsWindow_iff justified outcome).mpr (by
      rcases starts with released | readable | unskipped | ⟨message, braked⟩
      · exact Or.inl ((onClock_of_stopped stopped).mpr released)
      · exact Or.inr (Or.inl readable)
      · exact Or.inr (Or.inr (exists_unskipped_iff.mp unskipped))
      · rw [submit, braked] at outcome
        cases outcome)
    exact ⟨keeps, loopKeepsWindow_of_onClock (judged_submit judged outcome) keeps.runs rest⟩

/-- A run does right by the clock after every `submit` exactly when it does not
resume retries that its first round leaves off the clock. -/
theorem keepsWindow_iff_startsClock {launch : Launch} {rounds : List Round} :
    launch.KeepsWindow settings existing rounds ↔ launch.StartsClock existing rounds := by
  cases launch with
  | fresh chunks scheduled first =>
      refine iff_of_true ?_ (by cases rounds <;> trivial)
      intro result returned
      obtain ⟨keeps, onClock⟩ := keepsWindow_of_fresh returned
      have judged := judged_dropCompleteBacklog existing result.1
      exact ⟨keeps, loopKeepsWindow_of_onClock judged onClock rounds⟩
  | resumed jobData =>
      cases rounds with
      | nil => exact Iff.rfl
      | cons round rest => exact loopKeepsWindow_resumed_iff

/-- The job data of a driver that was killed while it held back a retry. -/
def killedWhileHolding : Launch :=
  .resumed ⟨Dict.empty, Dict.ofList [(1, [0])], Dict.ofList [(1, 1)]⟩

/-- A round that reports and offers nothing. -/
def quietRound (treeReadable : Bool) : Round :=
  ⟨fun _ => none, [], 5000, 0, treeReadable, true, 60⟩

/-- With its first round skipped, the resumed run holds back the retry with the
clock stopped. -/
theorem not_keepsWindow_skipped :
    ¬killedWhileHolding.KeepsWindow { nParallelMax := 99999999 } ∅ [quietRound false] := by
  intro keeps
  let loop := startPoll ∅ (beginRun killedWhileHolding.jobData true)
  have returned : pollRound { nParallelMax := 99999999 } ∅ loop (quietRound false) = .ok loop := by
    decide +kernel
  have holds : HoldsRetry loop.proxy := ⟨1, by decide +kernel, by decide +kernel⟩
  have stopped : loop.proxy.retryParkedSince = none := by
    decide +kernel
  exact (keeps loop returned).1.runs.mpr holds stopped

end DSProd.Crab
