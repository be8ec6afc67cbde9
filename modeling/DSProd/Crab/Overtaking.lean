import DSProd.Crab.Backlog
import DSProd.Crab.WaveGate
import Mathlib.Data.Finset.Max

/-!
# The order in which parked retries leave

A retry that waits should leave no later than one that was parked after it.
`_park_retries` puts each generation in front of the earlier ones, and law
takes from the front: a release with fewer free slots than parked retries takes
the youngest of them and leaves the oldest.

A production goes through the rounds of its drivers, and a driver begins with
the job data of the one before it.  A retry that law has no slot for may wait
at the end of the backlog, so the young may stand at either end, with the
oldest between them.
-/

namespace DSProd.Crab

open DSProd.Library
open DSProd.Watchdog (JobNum Branch)

variable {settings : Settings} {existing : Finset Branch} {round : Round}
  {retryJobs : Dict JobNum (List Branch)} {proxy : Proxy}

/-! ## The queue -/

/-- The proxy of a production with the number of its rounds, and the round in
which each job of the backlog was put where it waits. -/
structure Queue where
  proxy : Proxy
  rounds : Nat
  parkedIn : JobNum → Nat

/-- The queue when a production begins to poll. -/
def Queue.start (proxy : Proxy) : Queue :=
  ⟨proxy, 1, fun _ => 0⟩

/-- The retries that a round parks in front of the backlog, if they are not complete. -/
def parksInFront (settings : Settings) (round : Round) (retryJobs : Dict JobNum (List Branch))
    (proxy : Proxy) : List JobNum :=
  if Releases settings round retryJobs proxy then [] else retryJobs.keys

/-- The queue after a round: what it parks in front, and what did not wait
before, was parked in it. -/
def Queue.next (queue : Queue) (inFront : List JobNum) (proxy : Proxy) : Queue where
  proxy := proxy
  rounds := queue.rounds + 1
  parkedIn jobNum :=
    if jobNum ∈ queue.proxy.jobData.unsubmittedJobs.keys ∧ jobNum ∉ inFront then
      queue.parkedIn jobNum
    else queue.rounds

/-- The queue a driver resumes.  The one before it may have ended in a round
that it began to read. -/
def Queue.restart (existing : Finset Branch) (begun : Option Round) (queue : Queue) : Queue :=
  let left := match begun with
    | none => queue.proxy
    | some round => round.reported queue.proxy
  { queue with proxy := (startPoll existing (beginRun left.jobData true)).proxy }

/-- What a production goes through: the rounds of a driver, and the starts of
others, each with its settings and the branches that exist by then. -/
inductive QueueEvent where
  | round (round : Round)
  | restart (begun : Option Round) (settings : Settings) (existing : Finset Branch)

/-! ## What is asked of a release -/

/-- What a round submits is taken in turn: no retry is left waiting while one
that was parked in a later round leaves the backlog to be submitted, and a
release with a slot for the backlog takes one of the retries that have waited
longest. -/
structure TakesInTurn (settings : Settings) (existing : Finset Branch) (round : Round)
    (retryJobs : Dict JobNum (List Branch)) (parkedIn : JobNum → Nat) (before : Proxy)
    (result : Proxy × Dict JobNum (List Branch)) : Prop where
  inTurn : ∀ older ∈ parkedRetries before, ∀ younger ∈ parkedRetries before,
    parkedIn older < parkedIn younger → younger ∈ result.2.keys →
      younger ∉ result.1.jobData.unsubmittedJobs.keys →
        older ∉ result.1.jobData.unsubmittedJobs.keys
  oldest : Releases settings round retryJobs before →
    0 < freeSlots existing round retryJobs before → parkedRetries before ≠ [] →
      ∃ oldest ∈ parkedRetries before,
        (∀ other ∈ parkedRetries before, parkedIn oldest ≤ parkedIn other) ∧
          oldest ∉ result.1.jobData.unsubmittedJobs.keys

/-- Every round of a production takes what it submits in turn. -/
def NeverOvertaken : Settings → Finset Branch → Queue → List QueueEvent → Prop
  | _, _, _, [] => True
  | settings, existing, queue, .round round :: rest =>
      let reported := round.reported queue.proxy
      let retryJobs := round.retryJobs reported.jobData.jobs
      match submit settings existing round retryJobs reported with
      | .error _ => True
      | .ok result =>
          TakesInTurn settings existing round retryJobs queue.parkedIn reported result ∧
            NeverOvertaken settings existing
              (queue.next (parksInFront settings round retryJobs reported) result.1) rest
  | _, _, queue, .restart begun settings existing :: rest =>
      NeverOvertaken settings existing (queue.restart existing begun) rest

/-- So does every round of a production that this run begins. -/
def Launch.NeverOvertaken (settings : Settings) (existing : Finset Branch)
    (events : List QueueEvent) (launch : Launch) : Prop :=
  match launch.start settings existing with
  | .error _ => True
  | .ok loop => DSProd.Crab.NeverOvertaken settings existing (Queue.start loop.proxy) events

/-! ## When a release is in turn -/

/-- How many jobs of the backlog the slots of a round reach. -/
def reached (existing : Finset Branch) (round : Round) (retryJobs : Dict JobNum (List Branch))
    (before : Proxy) : Nat :=
  reach ((handedRetries existing retryJobs before).map Prod.fst)
    (freeSlots existing round retryJobs before) before.jobData.unsubmittedJobs.keys

/-- The parked retries within the reach of the slots. -/
def retriesWithin (existing : Finset Branch) (round : Round)
    (retryJobs : Dict JobNum (List Branch)) (before : Proxy) : List JobNum :=
  (before.jobData.unsubmittedJobs.keys.take (reached existing round retryJobs before)).filter
    fun jobNum => jobNum ∈ before.jobData.attempts.keys

/-- The parked retries beyond it. -/
def retriesBeyond (existing : Finset Branch) (round : Round)
    (retryJobs : Dict JobNum (List Branch)) (before : Proxy) : List JobNum :=
  (before.jobData.unsubmittedJobs.keys.drop (reached existing round retryJobs before)).filter
    fun jobNum => jobNum ∈ before.jobData.attempts.keys

/-- A release has no slot for the backlog, or its slots reach every parked
retry, or they reach the first one, and none beyond them was parked in an
earlier round than that. -/
def FitsGenerations (settings : Settings) (existing : Finset Branch) (round : Round)
    (retryJobs : Dict JobNum (List Branch)) (parkedIn : JobNum → Nat) (before : Proxy) : Prop :=
  Releases settings round retryJobs before →
    freeSlots existing round retryJobs before = 0 ∨
      retriesBeyond existing round retryJobs before = [] ∨
      ∃ first ∈ (retriesWithin existing round retryJobs before).head?,
        ∀ retry ∈ retriesBeyond existing round retryJobs before, parkedIn first ≤ parkedIn retry

instance (settings : Settings) (existing : Finset Branch) (round : Round)
    (retryJobs : Dict JobNum (List Branch)) (parkedIn : JobNum → Nat) (before : Proxy) :
    Decidable (FitsGenerations settings existing round retryJobs parkedIn before) :=
  inferInstanceAs (Decidable (_ → _))

/-- Every release of a production is so. -/
def AlwaysFits : Settings → Finset Branch → Queue → List QueueEvent → Prop
  | _, _, _, [] => True
  | settings, existing, queue, .round round :: rest =>
      let reported := round.reported queue.proxy
      let retryJobs := round.retryJobs reported.jobData.jobs
      match submit settings existing round retryJobs reported with
      | .error _ => True
      | .ok result =>
          FitsGenerations settings existing round retryJobs queue.parkedIn reported ∧
            AlwaysFits settings existing
              (queue.next (parksInFront settings round retryJobs reported) result.1) rest
  | _, _, queue, .restart begun settings existing :: rest =>
      AlwaysFits settings existing (queue.restart existing begun) rest

/-- So is every release of a production that this run begins. -/
def Launch.AlwaysFits (settings : Settings) (existing : Finset Branch)
    (events : List QueueEvent) (launch : Launch) : Prop :=
  match launch.start settings existing with
  | .error _ => True
  | .ok loop => DSProd.Crab.AlwaysFits settings existing (Queue.start loop.proxy) events

instance decideAlwaysFits (settings : Settings) (existing : Finset Branch) (queue : Queue) :
    (events : List QueueEvent) → Decidable (AlwaysFits settings existing queue events)
  | [] => isTrue trivial
  | .round round :: rest =>
      let reported := round.reported queue.proxy
      let retryJobs := round.retryJobs reported.jobData.jobs
      let inFront := parksInFront settings round retryJobs reported
      let releaseFits := FitsGenerations settings existing round retryJobs queue.parkedIn reported
      let outcome := submit settings existing round retryJobs reported
      show Decidable (match outcome with
        | .error _ => True
        | .ok result =>
            releaseFits ∧ AlwaysFits settings existing (queue.next inFront result.1) rest) from
      match outcome with
      | .error _ => isTrue trivial
      | .ok result =>
          have := decideAlwaysFits settings existing (queue.next inFront result.1) rest
          inferInstanceAs (Decidable (FitsGenerations _ _ _ _ _ _ ∧ _))
  | .restart begun settings existing :: rest =>
      decideAlwaysFits settings existing (queue.restart existing begun) rest

instance (settings : Settings) (existing : Finset Branch) (events : List QueueEvent)
    (launch : Launch) : Decidable (launch.AlwaysFits settings existing events) :=
  let outcome := launch.start settings existing
  show Decidable (match outcome with
    | .error _ => True
    | .ok loop => AlwaysFits settings existing (Queue.start loop.proxy) events) from
  match outcome with
  | .error _ => isTrue trivial
  | .ok loop => decideAlwaysFits settings existing (Queue.start loop.proxy) events

/-! ## The young at either end -/

section Valley

variable {α : Type*} {age : α → Nat} {list : List α}

/-- The young stand at either end of a list, the old between them. -/
def Valley (age : α → Nat) (list : List α) : Prop :=
  ∃ front back, list = front ++ back ∧
    (front.Pairwise fun earlier later => age later ≤ age earlier) ∧
      back.Pairwise fun earlier later => age earlier ≤ age later

theorem Valley.sublist {part : List α} (valley : Valley age list) (sublist : part.Sublist list) :
    Valley age part := by
  obtain ⟨front, back, rfl, falls, rises⟩ := valley
  obtain ⟨partFront, partBack, rfl, ofFront, ofBack⟩ := List.sublist_append_iff.mp sublist
  exact ⟨partFront, partBack, rfl, falls.sublist ofFront, rises.sublist ofBack⟩

/-- Only the ages of the members count. -/
theorem Valley.congr {others : α → Nat} (valley : Valley age list)
    (same : ∀ member ∈ list, others member = age member) : Valley others list := by
  obtain ⟨front, back, rfl, falls, rises⟩ := valley
  refine ⟨front, back, rfl, falls.imp_of_mem ?_, rises.imp_of_mem ?_⟩
  · intro earlier later earlierMem laterMem ordered
    rwa [same earlier (List.mem_append_left _ earlierMem),
      same later (List.mem_append_left _ laterMem)]
  · intro earlier later earlierMem laterMem ordered
    rwa [same earlier (List.mem_append_right _ earlierMem),
      same later (List.mem_append_right _ laterMem)]

/-- The youngest can be put in front. -/
theorem Valley.prepend {youngest : List α} {bound : Nat} (valley : Valley age list)
    (young : ∀ member ∈ youngest, age member = bound)
    (older : ∀ member ∈ list, age member ≤ bound) :
    Valley age (youngest ++ list) := by
  obtain ⟨front, back, rfl, falls, rises⟩ := valley
  refine ⟨youngest ++ front, back, (List.append_assoc _ _ _).symm, ?_, rises⟩
  apply List.pairwise_append.mpr
  refine ⟨List.pairwise_of_forall_mem_list ?_, falls, ?_⟩
  · intro earlier earlierMem later laterMem
    rw [young earlier earlierMem, young later laterMem]
  · intro earlier earlierMem later laterMem
    rw [young earlier earlierMem]
    exact older later (List.mem_append_left _ laterMem)

/-- Or at the end. -/
theorem Valley.append {youngest : List α} {bound : Nat} (valley : Valley age list)
    (young : ∀ member ∈ youngest, age member = bound)
    (older : ∀ member ∈ list, age member ≤ bound) :
    Valley age (list ++ youngest) := by
  obtain ⟨front, back, rfl, falls, rises⟩ := valley
  refine ⟨front, back ++ youngest, List.append_assoc _ _ _, falls, ?_⟩
  apply List.pairwise_append.mpr
  refine ⟨rises, List.pairwise_of_forall_mem_list ?_, ?_⟩
  · intro earlier earlierMem later laterMem
    rw [young earlier earlierMem, young later laterMem]
  · intro earlier earlierMem later laterMem
    rw [young later laterMem]
    exact older earlier (List.mem_append_right _ earlierMem)

/-- What stands between two others is not younger than both. -/
theorem Valley.between {first middle last : α} (valley : Valley age [first, middle, last]) :
    age middle ≤ age first ∨ age middle ≤ age last := by
  obtain ⟨front, back, split, falls, rises⟩ := valley
  rcases front with _ | ⟨head, _ | ⟨next, rest⟩⟩
  · rw [List.nil_append] at split
    rw [← split] at rises
    exact Or.inr ((List.pairwise_cons.mp (List.pairwise_cons.mp rises).2).1 last (by simp))
  · simp only [List.cons_append, List.nil_append, List.cons.injEq] at split
    rw [← split.2] at rises
    exact Or.inr ((List.pairwise_cons.mp rises).1 last (by simp))
  · simp only [List.cons_append, List.cons.injEq] at split
    rw [← split.1, ← split.2.1] at falls
    exact Or.inl ((List.pairwise_cons.mp falls).1 middle (by simp))

end Valley

/-! ## What a round does to the backlog -/

/-- A round parks its retries in front of the backlog, or releases the first
jobs of it. -/
theorem backlog_submit {result : Proxy × Dict JobNum (List Branch)} (judged : Judged proxy)
    (returned : submit settings existing round retryJobs proxy = .ok result) :
    let handed := (handedRetries existing retryJobs proxy).map Prod.fst
    let backlog := proxy.jobData.unsubmittedJobs.keys
    let n := reached existing round retryJobs proxy
    (¬Releases settings round retryJobs proxy ∧ result.2 = Dict.empty ∧
        result.1.jobData.unsubmittedJobs.keys = handed ++ backlog.filter (· ∉ handed)) ∨
      (Releases settings round retryJobs proxy ∧
        ∃ putBack, result.1.jobData.unsubmittedJobs.keys = backlog.drop n ++ putBack ∧
          (putBack ≠ [] → freeSlots existing round retryJobs proxy = 0) ∧
          ∀ jobNum ∈ backlog.take n, jobNum ∈ result.2.keys) := by
  intro handed backlog n
  let clocked := updateRetryReleaseClock round.now false proxy
  have parks : ∀ after : Proxy, after = proxy ∨ after = clocked →
      (parkRetries existing round.now retryJobs after).jobData.unsubmittedJobs.keys =
        handed ++ backlog.filter (· ∉ handed) := by
    rintro after (rfl | rfl)
    · exact keys_parkRetries existing round.now retryJobs after
    · rw [keys_parkRetries, handedRetries_updateRetryReleaseClock, jobData_updateRetryReleaseClock]
  rcases submit_cases returned with ⟨unreadable, rfl⟩ | ⟨readable, closed, rfl⟩ |
    ⟨readable, opened, rfl⟩
  · left
    refine ⟨?_, rfl, parks proxy (Or.inl rfl)⟩
    rintro ⟨readable, _⟩
    rw [unreadable] at readable
    cases readable
  · left
    refine ⟨?_, rfl, parks clocked (Or.inr rfl)⟩
    rintro ⟨_, opened⟩
    rw [waveGate, closed] at opened
    cases opened
  · right
    obtain ⟨putBack, left, without, taken⟩ := lawSubmit_backlog existing round retryJobs
      (judged_updateRetryReleaseClock round.now false judged)
    simp only [freeSlots, handedRetries_updateRetryReleaseClock, jobData_updateRetryReleaseClock]
      at left without taken
    refine ⟨⟨readable, opened⟩, putBack, ?_, fun some => ?_, taken⟩
    · rw [jobData_updateRetryReleaseClock]
      exact left
    · obtain ⟨jobNum, member⟩ := List.exists_mem_of_ne_nil putBack some
      exact (without jobNum member).2

/-- A job of the backlog leaves it in a release exactly when the slots reach it. -/
theorem gone_iff_of_release {result : Proxy × Dict JobNum (List Branch)} (judged : Judged proxy)
    (releases : Releases settings round retryJobs proxy)
    (returned : submit settings existing round retryJobs proxy = .ok result) {jobNum : JobNum}
    (waits : jobNum ∈ proxy.jobData.unsubmittedJobs.keys) :
    jobNum ∉ result.1.jobData.unsubmittedJobs.keys ↔
      jobNum ∈ proxy.jobData.unsubmittedJobs.keys.take
        (reached existing round retryJobs proxy) := by
  rcases backlog_submit judged returned with ⟨held, _⟩ | ⟨_, putBack, left, without, taken⟩
  · exact absurd releases held
  have once := proxy.jobData.unsubmittedJobs.keys_nodup
  rw [left, List.mem_append, not_or]
  constructor
  · rintro ⟨notLeft, _⟩
    rw [← List.take_append_drop (reached existing round retryJobs proxy)
      proxy.jobData.unsubmittedJobs.keys, List.mem_append] at waits
    exact waits.resolve_right notLeft
  · intro isTaken
    refine ⟨List.disjoint_take_drop once le_rfl isTaken, fun isPut => ?_⟩
    -- only a round without slots puts a job back, and then it takes none
    have noSlot := without (List.ne_nil_of_mem isPut)
    rw [reached, noSlot, reach_zero, List.take_zero] at isTaken
    cases isTaken

/-! ## A round -/

theorem mem_retriesWithin {jobNum : JobNum} :
    jobNum ∈ retriesWithin existing round retryJobs proxy ↔
      jobNum ∈ parkedRetries proxy ∧ jobNum ∈ proxy.jobData.unsubmittedJobs.keys.take
        (reached existing round retryJobs proxy) := by
  rw [retriesWithin, List.mem_filter, mem_parkedRetries, decide_eq_true_eq]
  constructor
  · exact fun ⟨taken, tried⟩ => ⟨⟨List.mem_of_mem_take taken, tried⟩, taken⟩
  · exact fun ⟨⟨_, tried⟩, taken⟩ => ⟨taken, tried⟩

theorem within_or_beyond (existing : Finset Branch) (round : Round)
    (retryJobs : Dict JobNum (List Branch)) {jobNum : JobNum}
    (parked : jobNum ∈ parkedRetries proxy) :
    jobNum ∈ retriesWithin existing round retryJobs proxy ∨
      jobNum ∈ retriesBeyond existing round retryJobs proxy := by
  obtain ⟨waits, tried⟩ := mem_parkedRetries.mp parked
  rw [← List.take_append_drop (reached existing round retryJobs proxy)
    proxy.jobData.unsubmittedJobs.keys, List.mem_append] at waits
  exact waits.imp (fun taken => List.mem_filter.mpr ⟨taken, decide_eq_true tried⟩)
    fun left => List.mem_filter.mpr ⟨left, decide_eq_true tried⟩

theorem parked_of_beyond {jobNum : JobNum}
    (beyond : jobNum ∈ retriesBeyond existing round retryJobs proxy) :
    jobNum ∈ parkedRetries proxy ∧ jobNum ∉ retriesWithin existing round retryJobs proxy := by
  obtain ⟨left, tried⟩ := List.mem_filter.mp beyond
  constructor
  · exact mem_parkedRetries.mpr ⟨List.mem_of_mem_drop left, of_decide_eq_true tried⟩
  · intro within
    exact List.disjoint_take_drop proxy.jobData.unsubmittedJobs.keys_nodup le_rfl
      (mem_retriesWithin.mp within).2 left

/-- When the first retry within reach is no younger than those beyond, neither
is any other. -/
theorem not_younger_of_first {parkedIn : JobNum → Nat}
    (valley : Valley parkedIn proxy.jobData.unsubmittedJobs.keys) {first : JobNum}
    (isFirst : first ∈ (retriesWithin existing round retryJobs proxy).head?)
    (inTurn : ∀ retry ∈ retriesBeyond existing round retryJobs proxy,
      parkedIn first ≤ parkedIn retry) :
    ∀ older ∈ retriesBeyond existing round retryJobs proxy,
      ∀ younger ∈ retriesWithin existing round retryJobs proxy,
        parkedIn younger ≤ parkedIn older := by
  intro older beyond younger within
  obtain ⟨rest, split⟩ := List.head?_eq_some_iff.mp isFirst
  rw [split] at within
  rcases List.mem_cons.mp within with rfl | later
  · exact inTurn older beyond
  have order : ([first, younger, older]).Sublist proxy.jobData.unsubmittedJobs.keys := by
    have taken : ([first, younger]).Sublist (retriesWithin existing round retryJobs proxy) :=
      split ▸ (List.singleton_sublist.mpr later).cons_cons first
    have both := (taken.trans List.filter_sublist).append
      ((List.singleton_sublist.mpr beyond).trans List.filter_sublist)
    rwa [List.take_append_drop] at both
  rcases (valley.sublist order).between with first | last
  · exact first.trans (inTurn older beyond)
  · exact last

/-- What a release does with the parked retries: those within reach are
submitted and leave the backlog, the others wait on. -/
theorem retries_of_release {result : Proxy × Dict JobNum (List Branch)} (judged : Judged proxy)
    (releases : Releases settings round retryJobs proxy)
    (returned : submit settings existing round retryJobs proxy = .ok result) :
    (∀ jobNum ∈ parkedRetries proxy, jobNum ∉ result.1.jobData.unsubmittedJobs.keys ↔
        jobNum ∈ retriesWithin existing round retryJobs proxy) ∧
      ∀ jobNum ∈ retriesWithin existing round retryJobs proxy, jobNum ∈ result.2.keys := by
  constructor
  · intro jobNum parked
    rw [mem_retriesWithin, and_iff_right parked]
    exact gone_iff_of_release judged releases returned (mem_parkedRetries.mp parked).1
  · intro jobNum within
    rcases backlog_submit judged returned with ⟨held, _⟩ | ⟨_, _, _, _, taken⟩
    · exact absurd releases held
    · exact taken jobNum (mem_retriesWithin.mp within).2

/-- A release in turn fits the generations. -/
theorem fits_of_takesInTurn {parkedIn : JobNum → Nat}
    {result : Proxy × Dict JobNum (List Branch)} (judged : Judged proxy)
    (returned : submit settings existing round retryJobs proxy = .ok result)
    (takes : TakesInTurn settings existing round retryJobs parkedIn proxy result) :
    FitsGenerations settings existing round retryJobs parkedIn proxy := by
  intro releases
  obtain ⟨gone, submitted⟩ := retries_of_release judged releases returned
  by_cases noSlot : freeSlots existing round retryJobs proxy = 0
  · exact Or.inl noSlot
  by_cases nothing : retriesBeyond existing round retryJobs proxy = []
  · exact Or.inr (Or.inl nothing)
  right
  right
  -- the oldest retry leaves, so there is a first one within reach
  obtain ⟨left, isLeft⟩ := List.exists_mem_of_ne_nil _ nothing
  obtain ⟨oldest, parked, _, leaves⟩ := takes.oldest releases (Nat.pos_of_ne_zero noSlot)
    (List.ne_nil_of_mem (parked_of_beyond isLeft).1)
  have within := (gone oldest parked).mp leaves
  obtain ⟨first, rest, split⟩ := List.exists_cons_of_ne_nil (List.ne_nil_of_mem within)
  refine ⟨first, by simp [split], fun retry beyond => ?_⟩
  have firstWithin : first ∈ retriesWithin existing round retryJobs proxy := by
    rw [split]
    exact List.mem_cons_self
  have firstParked := (mem_retriesWithin.mp firstWithin).1
  obtain ⟨retryParked, notWithin⟩ := parked_of_beyond beyond
  by_contra later
  apply notWithin
  apply (gone retry retryParked).mp
  exact takes.inTurn retry retryParked first firstParked (not_le.mp later)
    (submitted first firstWithin) ((gone first firstParked).mpr firstWithin)

/-- A release that fits the generations is in turn. -/
theorem takesInTurn_of_fits {parkedIn : JobNum → Nat}
    {result : Proxy × Dict JobNum (List Branch)} (judged : Judged proxy)
    (valley : Valley parkedIn proxy.jobData.unsubmittedJobs.keys)
    (releases : Releases settings round retryJobs proxy)
    (returned : submit settings existing round retryJobs proxy = .ok result)
    (fits : FitsGenerations settings existing round retryJobs parkedIn proxy) :
    TakesInTurn settings existing round retryJobs parkedIn proxy result := by
  obtain ⟨gone, _⟩ := retries_of_release judged releases returned
  have noneWithin : freeSlots existing round retryJobs proxy = 0 →
      retriesWithin existing round retryJobs proxy = [] := by
    intro noSlot
    rw [retriesWithin, reached, noSlot, reach_zero]
    rfl
  constructor
  case inTurn =>
    intro older olderParked younger youngerParked later _ leaves
    have youngerWithin := (gone younger youngerParked).mp leaves
    apply (gone older olderParked).mpr
    refine (within_or_beyond existing round retryJobs olderParked).resolve_right fun beyond => ?_
    rcases fits releases with noSlot | nothing | ⟨first, isFirst, inTurn⟩
    · rw [noneWithin noSlot] at youngerWithin
      cases youngerWithin
    · rw [nothing] at beyond
      cases beyond
    · have ordered := not_younger_of_first valley isFirst inTurn older beyond younger youngerWithin
      exact absurd later (not_lt.mpr ordered)
  case oldest =>
    intro _ slots something
    obtain ⟨oldest, parked, least⟩ := Finset.exists_min_image (parkedRetries proxy).toFinset
      parkedIn (by simpa [List.toFinset_nonempty_iff] using something)
    simp only [List.mem_toFinset] at parked least
    rcases within_or_beyond existing round retryJobs parked with within | beyond
    · exact ⟨oldest, parked, least, (gone oldest parked).mpr within⟩
    -- the first one within reach is as old
    rcases fits releases with noSlot | nothing | ⟨first, isFirst, inTurn⟩
    · exact absurd noSlot slots.ne'
    · rw [nothing] at beyond
      cases beyond
    · have firstWithin := List.mem_of_mem_head? isFirst
      have firstParked := (mem_retriesWithin.mp firstWithin).1
      refine ⟨first, firstParked, fun other isOther => ?_, (gone first firstParked).mpr firstWithin⟩
      exact (inTurn oldest beyond).trans (least other isOther)

/-- A round is in turn exactly when, if it is a release, its slots fit the
generations of the retries that wait. -/
theorem takesInTurn_iff {parkedIn : JobNum → Nat} {result : Proxy × Dict JobNum (List Branch)}
    (judged : Judged proxy) (valley : Valley parkedIn proxy.jobData.unsubmittedJobs.keys)
    (returned : submit settings existing round retryJobs proxy = .ok result) :
    TakesInTurn settings existing round retryJobs parkedIn proxy result ↔
      FitsGenerations settings existing round retryJobs parkedIn proxy := by
  by_cases releases : Releases settings round retryJobs proxy
  · exact ⟨fits_of_takesInTurn judged returned,
      takesInTurn_of_fits judged valley releases returned⟩
  · -- a round that releases nothing submits nothing
    refine iff_of_true ?_ fun released => absurd released releases
    constructor
    case inTurn =>
      intro _ _ younger _ _ taken
      rcases backlog_submit judged returned with ⟨_, nothing, _⟩ | ⟨released, _⟩
      · rw [nothing] at taken
        cases taken
      · exact absurd released releases
    case oldest => exact fun released => absurd released releases

/-! ## The queue from round to round -/

/-- Every job of the backlog was found incomplete, and the young stand at
either end of it. -/
structure Queued (queue : Queue) : Prop where
  judged : Judged queue.proxy
  valley : Valley queue.parkedIn queue.proxy.jobData.unsubmittedJobs.keys
  past : ∀ jobNum ∈ queue.proxy.jobData.unsubmittedJobs.keys,
    queue.parkedIn jobNum < queue.rounds

/-- What a round reports and offers leaves the queue in order. -/
theorem queued_reported {queue : Queue} (queued : Queued queue) (round : Round) :
    Queued { queue with proxy := round.reported queue.proxy } :=
  ⟨(judged_reported round).mpr queued.judged, queued.valley, queued.past⟩

/-- What a round did not put where it waits keeps the round it was parked in. -/
theorem parkedIn_next {queue : Queue} {inFront : List JobNum} {after : Proxy} {jobNum : JobNum}
    (waits : jobNum ∈ queue.proxy.jobData.unsubmittedJobs.keys) (stays : jobNum ∉ inFront) :
    (queue.next inFront after).parkedIn jobNum = queue.parkedIn jobNum :=
  if_pos ⟨waits, stays⟩

/-- And what it did was parked in it. -/
theorem parkedIn_next_of_parked {queue : Queue} {inFront : List JobNum} {after : Proxy}
    {jobNum : JobNum}
    (parked : jobNum ∈ inFront ∨ jobNum ∉ queue.proxy.jobData.unsubmittedJobs.keys) :
    (queue.next inFront after).parkedIn jobNum = queue.rounds :=
  if_neg fun ⟨waits, stays⟩ => parked.elim stays fun notWaits => notWaits waits

theorem parkedIn_next_le {queue : Queue} (queued : Queued queue) (inFront : List JobNum)
    (after : Proxy) (jobNum : JobNum) :
    (queue.next inFront after).parkedIn jobNum ≤ queue.rounds := by
  by_cases stays : jobNum ∈ queue.proxy.jobData.unsubmittedJobs.keys ∧ jobNum ∉ inFront
  · rw [parkedIn_next stays.1 stays.2]
    exact (queued.past jobNum stays.1).le
  · exact (if_neg stays).le

/-- A round leaves the queue in order. -/
theorem queued_next {queue : Queue} (queued : Queued queue)
    {result : Proxy × Dict JobNum (List Branch)}
    (returned : submit settings existing round
      (round.retryJobs (round.reported queue.proxy).jobData.jobs) (round.reported queue.proxy) =
        .ok result) :
    Queued (queue.next (parksInFront settings round
      (round.retryJobs (round.reported queue.proxy).jobData.jobs) (round.reported queue.proxy))
        result.1) := by
  let retryJobs := round.retryJobs (round.reported queue.proxy).jobData.jobs
  let inFront := parksInFront settings round retryJobs (round.reported queue.proxy)
  have reported := queued_reported queued round
  have latest := parkedIn_next_le queued inFront result.1
  constructor
  case judged => exact judged_submit reported.judged returned
  case valley =>
    rcases backlog_submit reported.judged returned with
      ⟨held, _, parks⟩ | ⟨releases, putBack, left, without, _⟩
    · -- the retries of this round are put in front
      have isFront : inFront = retryJobs.keys := if_neg held
      have others : ∀ jobNum ∈ queue.proxy.jobData.unsubmittedJobs.keys.filter (· ∉
          (handedRetries existing retryJobs (round.reported queue.proxy)).map Prod.fst),
          (queue.next inFront result.1).parkedIn jobNum = queue.parkedIn jobNum := by
        intro jobNum member
        obtain ⟨waits, notHanded⟩ := List.mem_filter.mp member
        apply parkedIn_next waits
        intro offered
        rw [isFront] at offered
        exact of_decide_eq_true notHanded
          (handed_of_judged existing reported.judged waits offered)
      have young : ∀ jobNum ∈
          (handedRetries existing retryJobs (round.reported queue.proxy)).map Prod.fst,
          (queue.next inFront result.1).parkedIn jobNum = queue.rounds := by
        intro jobNum member
        obtain ⟨item, handed, rfl⟩ := List.mem_map.mp member
        apply parkedIn_next_of_parked
        left
        rw [isFront]
        exact mem_keys_of_mem_handedRetries handed
      have valley := (queued.valley.sublist List.filter_sublist).congr others
      exact parks ▸ valley.prepend young fun jobNum _ => latest jobNum
    · -- law may have put some at the end
      have noFront : inFront = [] := if_pos releases
      have others : ∀ jobNum ∈ queue.proxy.jobData.unsubmittedJobs.keys.drop
          (reached existing round retryJobs (round.reported queue.proxy)),
          (queue.next inFront result.1).parkedIn jobNum = queue.parkedIn jobNum := by
        intro jobNum member
        apply parkedIn_next (List.mem_of_mem_drop member)
        simp [noFront]
      have young : ∀ jobNum ∈ putBack,
          (queue.next inFront result.1).parkedIn jobNum = queue.rounds := by
        intro jobNum member
        apply parkedIn_next_of_parked
        right
        have noSlot := without (List.ne_nil_of_mem member)
        have once := result.1.jobData.unsubmittedJobs.keys_nodup
        rw [left, reached, noSlot, reach_zero, List.drop_zero] at once
        exact fun waits => (List.nodup_append.mp once).2.2 jobNum waits jobNum member rfl
      have valley := (queued.valley.sublist (List.drop_sublist _ _)).congr others
      exact left ▸ valley.append young fun jobNum _ => latest jobNum
  case past => exact fun jobNum _ => Nat.lt_succ_of_le (latest jobNum)

/-- A queue from which jobs are taken out stays in order. -/
theorem queued_startPoll {queue : Queue} (queued : Queued queue) (existing : Finset Branch) :
    Queued { queue with
      proxy := (startPoll existing (beginRun queue.proxy.jobData true)).proxy } := by
  have sublist : ((startPoll existing (beginRun queue.proxy.jobData
      true)).proxy.jobData.unsubmittedJobs.keys).Sublist
        queue.proxy.jobData.unsubmittedJobs.keys := by
    rw [startPoll, Dict.keys, items_dropCompleteBacklog]
    exact List.filter_sublist.map Prod.fst
  constructor
  case judged => exact judged_dropCompleteBacklog existing _
  case valley => exact queued.valley.sublist sublist
  case past => exact fun jobNum member => queued.past jobNum (sublist.subset member)

/-- A driver that resumes a queue finds it in order. -/
theorem queued_restart {queue : Queue} (queued : Queued queue) (existing : Finset Branch)
    (begun : Option Round) : Queued (queue.restart existing begun) := by
  cases begun with
  | none => exact queued_startPoll queued existing
  | some round => exact queued_startPoll (queued_reported queued round) existing

/-- What waits when a production begins to poll is of one age. -/
theorem queued_start {launch : Launch} {loop : PollLoop}
    (started : launch.start settings existing = .ok loop) : Queued (Queue.start loop.proxy) where
  judged := judged_start started
  valley := by
    refine ⟨_, [], (List.append_nil _).symm, ?_, List.Pairwise.nil⟩
    exact List.pairwise_of_forall fun _ _ => le_rfl
  past := fun _ _ => Nat.zero_lt_one

/-! ## Whole productions -/

theorem neverOvertaken_iff_of_queued {queue : Queue} (queued : Queued queue)
    (events : List QueueEvent) :
    NeverOvertaken settings existing queue events ↔ AlwaysFits settings existing queue events := by
  induction events generalizing settings existing queue with
  | nil => exact Iff.rfl
  | cons event rest ih =>
      cases event with
      | round round =>
          rw [NeverOvertaken, AlwaysFits]
          split
          · exact Iff.rfl
          rename_i result returned
          have reported := queued_reported queued round
          have taken := takesInTurn_iff reported.judged reported.valley returned
          exact and_congr taken (ih (queued_next queued returned))
      | restart begun settings existing => exact ih (queued_restart queued existing begun)

/-- No parked retry of a production is overtaken by a younger one exactly when
the slots of each release, if it has any for the backlog, reach all parked
retries, or the first one and none that is younger than one beyond them. -/
theorem neverOvertaken_iff_alwaysFits {launch : Launch} {events : List QueueEvent} :
    launch.NeverOvertaken settings existing events ↔
      launch.AlwaysFits settings existing events := by
  rw [Launch.NeverOvertaken, Launch.AlwaysFits]
  cases started : launch.start settings existing with
  | error message => exact Iff.rfl
  | ok loop => exact neverOvertaken_iff_of_queued (queued_start started) events

/-- Two jobs that are submitted as the production begins. -/
def twoJobs : Launch :=
  .fresh (Dict.ofList [(1, [0]), (2, [1])]) ∅ ⟨fun _ => none, [], 2, 0, true, true, 0⟩

/-- A round that offers some retries, with one slot free when it releases. -/
def oneSlot (treeReadable : Bool) (offers : List JobNum) : QueueEvent :=
  .round ⟨fun _ => none, offers, 1, 0, treeReadable, true, 0⟩

/-- With one slot, the retry of the second skipped round leaves the one of the
first behind. -/
theorem not_neverOvertaken_two_rounds :
    ¬twoJobs.NeverOvertaken { nParallelMax := 0 } ∅
      [oneSlot false [1], oneSlot false [2], oneSlot true []] := by
  intro never
  let proxy : Proxy := ⟨⟨Dict.ofList [(1, ⟨[0], .pending, none⟩), (2, ⟨[1], .pending, none⟩)],
    Dict.empty, Dict.empty⟩, Dict.ofList [(1, false), (2, false)], none, false⟩
  have started : twoJobs.start { nParallelMax := 0 } ∅ = .ok ⟨proxy, 2⟩ := by
    decide +kernel
  rw [Launch.NeverOvertaken, started] at never
  have fits := (neverOvertaken_iff_of_queued (queued_start started) _).mp never
  revert fits
  decide +kernel

end DSProd.Crab
