import DSProd.Crab.Backlog
import DSProd.Crab.WaveGate

/-!
# The number of jobs a run waits for

`poll` counts the jobs once, as the sum of the two maps, and waits for so many.
The count is right when no job is in both maps as it starts, and then it stays
right.

A fresh run records the jobs that were complete when it was scheduled, and puts
all of its jobs in the backlog.  A job that is complete no more when the run
asks for itself stays in both maps, unless the first `submit` takes it out of
the backlog.
-/

namespace DSProd.Crab

open DSProd.Library
open DSProd.Watchdog (JobNum Branch Status)

variable {settings : Settings} {existing : Finset Branch} {round : Round} {proxy : Proxy}

/-! ## What is asked of the count -/

/-- No job is in both maps, the jobs are those the run began with, and the
count is their number. -/
structure CountsJobs (launch : Launch) (loop : PollLoop) : Prop where
  apart : ∀ jobNum ∈ loop.proxy.jobData.jobs.keys,
    jobNum ∉ loop.proxy.jobData.unsubmittedJobs.keys
  sameJobs : loop.proxy.jobData.jobNums = launch.jobData.jobNums
  counted : loop.nJobs = loop.proxy.jobData.jobNums.card

/-- The jobs of a fresh run that wait when its poll loop starts: those that are
not complete, but for the ones its first `submit` has slots for. -/
def leftToWait (settings : Settings) (existing : Finset Branch)
    (chunks : Dict JobNum (List Branch)) (scheduled : Finset Branch) (round : Round) :
    List (JobNum × List Branch) :=
  let begun := beginRun (freshJobData chunks scheduled) false
  let slots := if Releases settings round Dict.empty begun then round.nParallel - round.nActive
    else 0
  (chunks.items.filter fun chunk => ¬Complete existing chunk.2).drop slots

/-- No job is recorded and incomplete when the poll loop starts. -/
def Launch.Settled (settings : Settings) (existing : Finset Branch) : Launch → Prop
  | .fresh chunks scheduled round =>
      ∀ chunk ∈ leftToWait settings existing chunks scheduled round, ¬Complete scheduled chunk.2
  | .resumed jobData => ∀ chunk ∈ jobData.unsubmittedJobs.items,
      chunk.1 ∈ jobData.jobs.keys → Complete existing chunk.2

instance (settings : Settings) (existing : Finset Branch) :
    (launch : Launch) → Decidable (launch.Settled settings existing)
  | .fresh chunks scheduled round => inferInstanceAs (Decidable (∀ chunk ∈
      leftToWait settings existing chunks scheduled round, ¬Complete scheduled chunk.2))
  | .resumed jobData => inferInstanceAs (Decidable (∀ chunk ∈ jobData.unsubmittedJobs.items,
      chunk.1 ∈ jobData.jobs.keys → Complete existing chunk.2))

/-! ## What a run asks about its jobs -/

/-- The run has judged the jobs of its backlog as they are, and recorded those
that can be skipped with the jobs it began with. -/
structure Asked (existing : Finset Branch) (chunks : Dict JobNum (List Branch))
    (jobs : List JobNum) (proxy : Proxy) : Prop where
  truthful : ∀ chunk ∈ chunks.items,
    skips existing proxy chunk = decide (Complete existing chunk.2)
  recorded : ∀ jobNum, jobNum ∈ proxy.jobData.jobs.keys ↔
    jobNum ∈ jobs ∨ proxy.skipJobs.get? jobNum = some true

namespace Asked

variable {chunks : Dict JobNum (List Branch)} {jobs : List JobNum} {chunk : JobNum × List Branch}

/-- A run has asked about nothing when it begins. -/
theorem beginRun (existing : Finset Branch) (jobData : JobData) (submitted : Bool) :
    Asked existing jobData.unsubmittedJobs jobData.jobs.keys
      (beginRun jobData submitted) where
  truthful chunk _ := by simp [skips_eq, Crab.beginRun]
  recorded jobNum := by simp [Crab.beginRun]

theorem canSkipJob (asked : Asked existing chunks jobs proxy) (member : chunk ∈ chunks.items) :
    Asked existing chunks jobs (canSkipJob existing proxy chunk.1 chunk.2).2 where
  truthful other otherMember := by
    by_cases same : other.1 = chunk.1
    · have equal : other = chunk :=
        List.inj_on_of_nodup_map chunks.nodupKeys otherMember member same
      rw [skips_eq, get?_skipJobs_canSkipJob, if_pos same, equal]
      exact asked.truthful chunk member
    · rw [skips_canSkipJob same]
      exact asked.truthful other otherMember
  recorded jobNum := by
    have recorded : Recorded proxy := fun jobNum skipped =>
      (asked.recorded jobNum).mpr (Or.inr skipped)
    rw [mem_jobs_canSkipJob recorded, asked.recorded, get?_skipJobs_canSkipJob]
    by_cases same : jobNum = chunk.1
    · subst same
      constructor
      · rintro ((began | skipped) | ⟨_, skipped⟩)
        · exact Or.inl began
        · right
          rw [if_pos rfl, canSkipJob_of_get? skipped]
        · right
          rw [if_pos rfl, skipped]
      · rintro (began | skipped)
        · exact Or.inl (Or.inl began)
        · rw [if_pos rfl, Option.some.injEq] at skipped
          exact Or.inr ⟨rfl, skipped⟩
    · simp [same]

theorem setUnsubmitted (asked : Asked existing chunks jobs proxy)
    (unsubmitted : Dict JobNum (List Branch)) :
    Asked existing chunks jobs (proxy.setUnsubmitted unsubmitted) where
  truthful chunk member := by
    rw [skips_setUnsubmitted]
    exact asked.truthful chunk member
  recorded := asked.recorded

theorem updateClock (asked : Asked existing chunks jobs proxy) (now : ℚ) (afterRelease : Bool) :
    Asked existing chunks jobs (updateRetryReleaseClock now afterRelease proxy) where
  truthful chunk member := by
    rw [skips_updateRetryReleaseClock]
    exact asked.truthful chunk member
  recorded jobNum := by
    rw [jobData_updateRetryReleaseClock, skipJobs_updateRetryReleaseClock]
    exact asked.recorded jobNum

/-- Jobs that are submitted are recorded. -/
theorem submit (asked : Asked existing chunks jobs proxy) {submitted : List JobNum}
    {after : Dict JobNum Job} (added : ∀ jobNum, jobNum ∈ after.keys ↔
      jobNum ∈ proxy.jobData.jobs.keys ∨ jobNum ∈ submitted) :
    Asked existing chunks (jobs ++ submitted) (proxy.setJobs after) where
  truthful chunk member := by
    rw [skips_setJobs]
    exact asked.truthful chunk member
  recorded jobNum := by
    have before := asked.recorded jobNum
    simp only [Proxy.setJobs, added, List.mem_append]
    tauto

theorem dropComplete (asked : Asked existing chunks jobs proxy) (member : chunk ∈ chunks.items) :
    Asked existing chunks jobs (dropComplete existing proxy chunk) := by
  rw [Crab.dropComplete]
  split
  · exact (asked.canSkipJob member).setUnsubmitted _
  · exact asked.canSkipJob member

theorem takeBacklog {hand : Hand} (asked : Asked existing chunks jobs hand.proxy)
    (member : chunk ∈ chunks.items) :
    Asked existing chunks jobs (takeBacklog existing round hand chunk).proxy := by
  rw [Crab.takeBacklog]
  split
  · exact (asked.canSkipJob member).setUnsubmitted _
  split
  · exact asked.canSkipJob member
  · exact (asked.canSkipJob member).setUnsubmitted _

/-- The incomplete jobs are those that are not passed by. -/
theorem waitingJobs_eq (asked : Asked existing chunks jobs proxy)
    (among : ∀ chunk ∈ proxy.jobData.unsubmittedJobs.items, chunk ∈ chunks.items) :
    waitingJobs existing proxy = proxy.jobData.unsubmittedJobs.items.filter fun chunk =>
      ¬Complete existing chunk.2 := by
  apply List.filter_congr
  intro chunk member
  rw [asked.truthful chunk (among chunk member)]
  simp

/-- The maps share no job when the poll loop starts exactly when no job that
waits is among those the run began with. -/
theorem apart_iff (asked : Asked existing chunks jobs proxy)
    (among : ∀ chunk ∈ proxy.jobData.unsubmittedJobs.items, chunk ∈ chunks.items) :
    (∀ jobNum ∈ (startPoll existing proxy).proxy.jobData.jobs.keys,
        jobNum ∉ (startPoll existing proxy).proxy.jobData.unsubmittedJobs.keys) ↔
      ∀ chunk ∈ waitingJobs existing proxy, chunk.1 ∉ jobs := by
  have started : Asked existing chunks jobs (startPoll existing proxy).proxy :=
    List.foldlRecOn _ _ asked fun _ asked chunk member => asked.dropComplete (among chunk member)
  have waits : (startPoll existing proxy).proxy.jobData.unsubmittedJobs.keys =
      (waitingJobs existing proxy).map Prod.fst :=
    congrArg (List.map Prod.fst) (items_dropCompleteBacklog existing proxy)
  have began : ∀ chunk ∈ waitingJobs existing proxy,
      (chunk.1 ∈ (startPoll existing proxy).proxy.jobData.jobs.keys ↔ chunk.1 ∈ jobs) := by
    intro chunk waiting
    have unskipped : (startPoll existing proxy).proxy.skipJobs.get? chunk.1 = some false := by
      apply judged_dropCompleteBacklog existing proxy
      exact waits ▸ List.mem_map_of_mem waiting
    rw [started.recorded, unskipped]
    simp
  rw [waits]
  constructor
  · intro apart chunk waiting isJob
    exact apart chunk.1 ((began chunk waiting).mpr isJob) (List.mem_map_of_mem waiting)
  · intro apart jobNum submitted waiting
    obtain ⟨chunk, isWaiting, rfl⟩ := List.mem_map.mp waiting
    exact apart chunk isWaiting ((began chunk isWaiting).mp submitted)

end Asked

/-! ## The first `submit` of a fresh run -/

theorem mem_jobs_freshJobData {chunks : Dict JobNum (List Branch)} {scheduled : Finset Branch}
    {chunk : JobNum × List Branch} (member : chunk ∈ chunks.items) :
    chunk.1 ∈ (freshJobData chunks scheduled).jobs.keys ↔ Complete scheduled chunk.2 := by
  have found : chunks.get? chunk.1 = some chunk.2 := Dict.get?_eq_some_iff.mpr member
  simp [freshJobData, Dict.mem_keys_filter, found]

/-- What law's `submit` makes of a backlog without retries: it submits the first
jobs that are not complete, and leaves the others. -/
theorem asked_lawSubmit {chunks : Dict JobNum (List Branch)} {jobs : List JobNum}
    (asked : Asked existing chunks jobs proxy) (backlog : proxy.jobData.unsubmittedJobs = chunks)
    (round : Round) :
    let slots := round.nParallel - round.nActive
    let incomplete := chunks.items.filter fun chunk => ¬Complete existing chunk.2
    Asked existing chunks (jobs ++ (incomplete.take slots).map Prod.fst)
        (lawSubmit existing round Dict.empty proxy).1 ∧
      (lawSubmit existing round Dict.empty proxy).1.jobData.unsubmittedJobs.items =
        incomplete.drop slots := by
  intro slots incomplete
  have waiting : (chunks.items.filter fun chunk => !skips existing proxy chunk) = incomplete := by
    rw [← backlog, ← waitingJobs, asked.waitingJobs_eq (by simp [backlog]), backlog]
  have reached : reach [] slots (incomplete.map Prod.fst) = min slots incomplete.length := by
    rw [reach_of_apart _ (by simp), List.length_map]
  have cutLeft : incomplete.drop (min slots incomplete.length) = incomplete.drop slots :=
    List.drop_eq_drop_iff.mpr (by omega)
  have cutTaken : incomplete.take (min slots incomplete.length) = incomplete.take slots :=
    List.take_eq_take_min.symm
  have isTaken : lawTake existing round Dict.empty proxy =
      chunks.items.foldl (takeBacklog existing round) ⟨Dict.empty, proxy⟩ :=
    congrArg (List.foldl (takeBacklog existing round) ⟨Dict.empty, proxy⟩)
      (congrArg Dict.items backlog)
  have askedTaken : Asked existing chunks jobs (lawTake existing round Dict.empty proxy).proxy := by
    rw [isTaken]
    exact List.foldlRecOn (motive := fun hand : Hand => Asked existing chunks jobs hand.proxy) _ _
      asked fun _ asked chunk member => asked.takeBacklog member
  obtain ⟨left, held⟩ := foldl_takeBacklog existing round chunks.items [] ⟨Dict.empty, proxy⟩
    (congrArg Dict.items backlog)
  have noneHeld : (Dict.empty : Dict JobNum (List Branch)).size = 0 := rfl
  rw [← isTaken] at left held
  simp only [waiting, Dict.keys_empty, noneHeld, Nat.add_zero, List.nil_append, List.not_mem_nil,
    false_or, ← List.map_take] at left held
  have isLeft : (lawTake existing round Dict.empty proxy).proxy.jobData.unsubmittedJobs.items =
      incomplete.drop slots := by
    rw [left, reached, cutLeft]
  have isHeld : ∀ jobNum, jobNum ∈ (lawTake existing round Dict.empty proxy).held.keys ↔
      jobNum ∈ (incomplete.take slots).map Prod.fst := by
    intro jobNum
    rw [held, reached, cutTaken]
  refine ⟨askedTaken.submit fun jobNum => ?_, isLeft⟩
  rw [← isHeld]
  exact mem_jobs_lawSubmit jobNum

/-- A `submit` without retries leaves the backlog alone, or takes from it the
first jobs that are not complete. -/
theorem asked_submit {chunks : Dict JobNum (List Branch)} {jobs : List JobNum}
    {result : Proxy × Dict JobNum (List Branch)} (asked : Asked existing chunks jobs proxy)
    (backlog : proxy.jobData.unsubmittedJobs = chunks)
    (returned : submit settings existing round Dict.empty proxy = .ok result) :
    let slots := if Releases settings round Dict.empty proxy then round.nParallel - round.nActive
      else 0
    let incomplete := chunks.items.filter fun chunk => ¬Complete existing chunk.2
    Asked existing chunks (jobs ++ (incomplete.take slots).map Prod.fst) result.1 ∧
      (∀ chunk ∈ result.1.jobData.unsubmittedJobs.items, chunk ∈ chunks.items) ∧
      waitingJobs existing result.1 = incomplete.drop slots := by
  intro slots incomplete
  have askedClocked := asked.updateClock round.now false
  have backlogClocked :
      (updateRetryReleaseClock round.now false proxy).jobData.unsubmittedJobs = chunks := by
    rw [jobData_updateRetryReleaseClock]
    exact backlog
  have nothing : ∀ after : Proxy, slots = 0 → Asked existing chunks jobs after →
      after.jobData.unsubmittedJobs = chunks →
        Asked existing chunks (jobs ++ (incomplete.take slots).map Prod.fst) after ∧
          (∀ chunk ∈ after.jobData.unsubmittedJobs.items, chunk ∈ chunks.items) ∧
          waitingJobs existing after = incomplete.drop slots := by
    intro after noSlot askedAfter same
    rw [noSlot, askedAfter.waitingJobs_eq (by simp [same]), same]
    simpa [incomplete] using askedAfter
  rcases submit_cases returned with ⟨unreadable, rfl⟩ | ⟨readable, closed, rfl⟩ |
    ⟨readable, opened, rfl⟩
  · apply nothing _ (if_neg _) asked backlog
    exact fun released => absurd released.1 (by simp [unreadable])
  · apply nothing _ (if_neg _) askedClocked backlogClocked
    intro released
    have opened := released.2
    rw [waveGate, closed] at opened
    cases opened
  · have isSlots : slots = round.nParallel - round.nActive := if_pos ⟨readable, opened⟩
    obtain ⟨submitted, left⟩ := asked_lawSubmit askedClocked backlogClocked round
    rw [← isSlots] at submitted left
    have askedAfter := submitted.updateClock round.now true
    have among : ∀ chunk ∈ incomplete.drop slots, chunk ∈ chunks.items :=
      fun chunk member => List.mem_of_mem_filter (List.mem_of_mem_drop member)
    have leftAfter : (updateRetryReleaseClock round.now true
        (lawSubmit existing round Dict.empty
          (updateRetryReleaseClock round.now false proxy)).1).jobData.unsubmittedJobs.items =
            incomplete.drop slots := by
      rw [jobData_updateRetryReleaseClock]
      exact left
    refine ⟨askedAfter, fun chunk member => among chunk (leftAfter ▸ member), ?_⟩
    rw [askedAfter.waitingJobs_eq fun chunk member => among chunk (leftAfter ▸ member), leftAfter]
    apply List.filter_eq_self.mpr
    intro chunk member
    have kept : chunk ∈ incomplete := List.mem_of_mem_drop member
    exact (List.mem_filter.mp kept).2

/-! ## Whole runs -/

/-- A run begins with all of its jobs in the two maps. -/
theorem covered_beginRun (jobData : JobData) (submitted : Bool) :
    Covered jobData.jobNums ⟨Dict.empty, beginRun jobData submitted⟩ where
  covers jobNum := by
    rw [JobData.mem_jobNums]
    simp [beginRun]
  recorded := by
    intro jobNum skipped
    simp [beginRun] at skipped

/-- What the poll loop of a run starts from: all jobs of the run, in both maps
at once only if the run is not settled. -/
theorem apart_start_iff {launch : Launch} {loop : PollLoop}
    (started : launch.start settings existing = .ok loop) :
    Covered launch.jobData.jobNums ⟨Dict.empty, loop.proxy⟩ ∧
      loop.nJobs = loop.proxy.jobData.len ∧
      ((∀ jobNum ∈ loop.proxy.jobData.jobs.keys,
          jobNum ∉ loop.proxy.jobData.unsubmittedJobs.keys) ↔
        launch.Settled settings existing) := by
  cases launch with
  | resumed jobData =>
      cases started
      refine ⟨covered_dropCompleteBacklog (covered_beginRun jobData true), rfl, ?_⟩
      have asked := Asked.beginRun existing jobData true
      rw [asked.apart_iff fun _ member => member, asked.waitingJobs_eq fun _ member => member]
      simp only [Launch.Settled, List.mem_filter, decide_eq_true_eq, and_imp]
      exact forall₂_congr fun chunk _ => not_imp_not
  | fresh chunks scheduled round =>
      rw [Launch.start] at started
      cases first : submit settings existing round Dict.empty
          (beginRun (freshJobData chunks scheduled) false) with
      | error message => simp [first, bind, Except.bind] at started
      | ok result =>
          simp only [first, bind, Except.bind, pure, Except.pure, Except.ok.injEq] at started
          subst started
          have covered := covered_submit
            (covered_beginRun (freshJobData chunks scheduled) false) first
          refine ⟨covered_dropCompleteBacklog covered, rfl, ?_⟩
          obtain ⟨asked, among, waits⟩ := asked_submit
            (Asked.beginRun existing (freshJobData chunks scheduled) false) rfl first
          rw [asked.apart_iff among, waits]
          apply forall₂_congr
          intro chunk waiting
          have isChunk : chunk ∈ chunks.items :=
            List.mem_of_mem_filter (List.mem_of_mem_drop waiting)
          rw [List.mem_append, not_or, mem_jobs_freshJobData isChunk]
          apply and_iff_left
          -- what the first submit took does not wait any more
          rw [List.map_take]
          intro taken
          apply List.disjoint_take_drop _ le_rfl taken
          · rw [← List.map_drop]
            exact List.mem_map_of_mem waiting
          · exact chunks.nodupKeys.sublist (List.filter_sublist.map Prod.fst)

/-- From a start without a job in both maps, the count is right in every state
that the rounds reach. -/
theorem countsJobs_of_apart {launch : Launch} {loop after : PollLoop} {rounds : List Round}
    (covered : Covered launch.jobData.jobNums ⟨Dict.empty, loop.proxy⟩)
    (counted : loop.nJobs = loop.proxy.jobData.len)
    (apart : ∀ jobNum ∈ loop.proxy.jobData.jobs.keys,
      jobNum ∉ loop.proxy.jobData.unsubmittedJobs.keys)
    (reached : pollRounds settings existing loop rounds = .ok after) :
    CountsJobs launch after := by
  have begins : Conserved launch.jobData.jobNums loop.proxy :=
    ⟨covered.jobNums_eq, apart, covered.recorded⟩
  obtain ⟨kept, sameCount⟩ := conserved_pollRounds begins reached
  refine ⟨kept.apart, kept.covers, ?_⟩
  rw [sameCount, counted, JobData.len_eq_card apart, begins.covers, kept.covers]

/-- A run keeps its jobs apart, loses none and waits for as many as there are,
in every state that its rounds reach, exactly when it is settled as it starts. -/
theorem countsJobs_iff_settled {launch : Launch} {loop : PollLoop}
    (started : launch.start settings existing = .ok loop) :
    (∀ rounds after, pollRounds settings existing loop rounds = .ok after →
        CountsJobs launch after) ↔
      launch.Settled settings existing := by
  obtain ⟨covered, counted, apart_iff⟩ := apart_start_iff started
  rw [← apart_iff]
  constructor
  · intro counts
    exact (counts [] loop rfl).apart
  · intro apart rounds after reached
    exact countsJobs_of_apart covered counted apart reached

/-- A round with ten slots: its reports, its retries, and whether law's tree is readable. -/
def plainRound (reports : JobNum → Option (Status × Option String)) (offers : List JobNum)
    (treeReadable : Bool) (now : ℚ) : Round :=
  ⟨reports, offers, 10, 0, treeReadable, true, now⟩

/-- Three jobs of which the first one was complete when the run was scheduled,
and a first round that is skipped. -/
def skippedFirstRound : Launch :=
  .fresh (Dict.ofList [(1, [0]), (2, [1]), (3, [2])]) {0} (plainRound (fun _ => none) [] false 0)

/-- The second job fails, and is parked by a round that is skipped. -/
def failedOnce : List Round :=
  [plainRound (fun _ => none) [] true 60,
    plainRound (fun jobNum => if jobNum = 2 then some (.failed, none) else none) [2] false 120,
    plainRound (fun _ => none) [] true 180]

/-- A loop over these jobs, with the verdicts of this run. -/
def loopOfThree (jobs : List (JobNum × Job)) (unsubmitted : List (JobNum × List Branch))
    (attempts : List (JobNum × Nat)) (skipJobs : List (JobNum × Bool)) (nJobs : Nat) : PollLoop :=
  ⟨⟨⟨Dict.ofList jobs, Dict.ofList unsubmitted, Dict.ofList attempts⟩, Dict.ofList skipJobs, none,
    false⟩, nJobs⟩

/-- The loop when it has counted the jobs. -/
def countedLoop : PollLoop :=
  loopOfThree [(1, ⟨[0], .finished, none⟩)] [(2, [1]), (3, [2])] []
    [(1, true), (2, false), (3, false)] 3

/-- The loop when the second job is submitted again. -/
def resubmittedLoop : PollLoop :=
  loopOfThree
    [(1, ⟨[0], .finished, none⟩), (3, ⟨[2], .pending, none⟩), (2, ⟨[1], .pending, none⟩)]
    [] [(2, 1)] [(1, true), (2, false), (3, false)] 3

theorem countsJobs_skippedRounds :
    skippedFirstRound.start { nParallelMax := 10 } {0} = .ok countedLoop ∧
      pollRounds { nParallelMax := 10 } {0} countedLoop failedOnce = .ok resubmittedLoop ∧
      CountsJobs skippedFirstRound resubmittedLoop := by
  have started : skippedFirstRound.start { nParallelMax := 10 } {0} = .ok countedLoop := by
    decide +kernel
  have reached : pollRounds { nParallelMax := 10 } {0} countedLoop failedOnce =
      .ok resubmittedLoop := by
    decide +kernel
  have settled : skippedFirstRound.Settled { nParallelMax := 10 } {0} := by
    decide +kernel
  exact ⟨started, reached, (countsJobs_iff_settled started).mpr settled _ _ reached⟩

/-- When the first job is complete no more as the run begins, the loop waits
for four jobs of three. -/
theorem not_countsJobs_recorded_incomplete :
    skippedFirstRound.start { nParallelMax := 10 } ∅ =
        .ok (loopOfThree [(1, ⟨[0], .finished, none⟩)] [(1, [0]), (2, [1]), (3, [2])] []
          [(1, false), (2, false), (3, false)] 4) ∧
      skippedFirstRound.jobData.jobNums.card = 3 ∧
      ¬∀ rounds after, pollRounds { nParallelMax := 10 } ∅
        (loopOfThree [(1, ⟨[0], .finished, none⟩)] [(1, [0]), (2, [1]), (3, [2])] []
          [(1, false), (2, false), (3, false)] 4) rounds = .ok after →
            CountsJobs skippedFirstRound after := by
  refine ⟨by decide +kernel, by decide +kernel, fun counts => ?_⟩
  have apart := (counts [] _ rfl).apart
  exact apart 1 (by decide +kernel) (by decide +kernel)

end DSProd.Crab
