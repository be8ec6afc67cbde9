import DSProd.Crab.Conservation

/-!
# The order of the backlog

law fills its free slots from `unsubmitted_jobs` in order, and `_park_retries`
puts the retries of a round in front of what waits there.  A job whose branches
all exist is passed by in either loop.  So parking prepends the retries that
are not complete, and a release takes the first jobs that are not complete, as
many as its slots reach.

Polling begins by dropping what is complete.  From then on every job of the
backlog was found incomplete, and none of them is passed by any more.
-/

namespace DSProd.Crab

open DSProd.Library
open DSProd.Watchdog (JobNum Branch)

variable {existing : Finset Branch} {round : Round} {retryJobs : Dict JobNum (List Branch)}
  {proxy : Proxy} {hand : Hand} {item other : JobNum × List Branch}

/-! ## Jobs that are passed by -/

/-- law passes by a job, by the verdict taken or still to take. -/
def skips (existing : Finset Branch) (proxy : Proxy) (item : JobNum × List Branch) : Bool :=
  (canSkipJob existing proxy item.1 item.2).1

theorem skips_eq (existing : Finset Branch) (proxy : Proxy) (item : JobNum × List Branch) :
    skips existing proxy item =
      (proxy.skipJobs.get? item.1).getD (decide (Complete existing item.2)) := by
  rw [skips, canSkipJob]
  cases proxy.skipJobs.get? item.1 with
  | some verdict => rfl
  | none => by_cases complete : Complete existing item.2 <;> simp [complete]

/-- Asking about a job leaves the verdicts of the others. -/
theorem skips_canSkipJob (different : other.1 ≠ item.1) :
    skips existing (canSkipJob existing proxy item.1 item.2).2 other =
      skips existing proxy other := by
  rw [skips_eq, skips_eq, get?_skipJobs_canSkipJob, if_neg different]

@[simp]
theorem skips_setUnsubmitted (unsubmitted : Dict JobNum (List Branch)) :
    skips existing (proxy.setUnsubmitted unsubmitted) item = skips existing proxy item := by
  rw [skips_eq, skips_eq]
  rfl

@[simp]
theorem skips_setJobs (jobs : Dict JobNum Job) :
    skips existing (proxy.setJobs jobs) item = skips existing proxy item := by
  rw [skips_eq, skips_eq]
  rfl

@[simp]
theorem skips_updateRetryReleaseClock (now : ℚ) (afterRelease : Bool) :
    skips existing (updateRetryReleaseClock now afterRelease proxy) item =
      skips existing proxy item := by
  obtain ⟨since, updated⟩ := updateRetryReleaseClock_eq now afterRelease proxy
  rw [skips_eq, skips_eq, updated]

/-- What asking about a job leaves alone. -/
theorem canSkipJob_leaves (existing : Finset Branch) (proxy : Proxy) (jobNum : JobNum)
    (branches : List Branch) :
    (canSkipJob existing proxy jobNum branches).2.jobData.attempts = proxy.jobData.attempts ∧
      (canSkipJob existing proxy jobNum branches).2.retryParkedSince = proxy.retryParkedSince := by
  rw [canSkipJob]
  split
  · exact ⟨rfl, rfl⟩
  · split <;> exact ⟨rfl, rfl⟩

/-! ## A backlog that was judged -/

/-- The jobs of the backlog were found incomplete. -/
def Judged (proxy : Proxy) : Prop :=
  ∀ jobNum ∈ proxy.jobData.unsubmittedJobs.keys, proxy.skipJobs.get? jobNum = some false

/-- So were the jobs in hand. -/
def JudgedHand (hand : Hand) : Prop :=
  Judged hand.proxy ∧ ∀ jobNum ∈ hand.held.keys, hand.proxy.skipJobs.get? jobNum = some false

/-- A verdict is never changed. -/
theorem get?_skipJobs_of_taken {jobNum asked : JobNum} {branches : List Branch} {verdict : Bool}
    (taken : proxy.skipJobs.get? jobNum = some verdict) :
    (canSkipJob existing proxy asked branches).2.skipJobs.get? jobNum = some verdict := by
  rw [get?_skipJobs_canSkipJob]
  by_cases same : jobNum = asked
  · subst same
    rw [if_pos rfl, canSkipJob_of_get? taken]
  · rw [if_neg same, taken]

theorem judged_canSkipJob {jobNum : JobNum} {branches : List Branch} (judged : Judged proxy) :
    Judged (canSkipJob existing proxy jobNum branches).2 := by
  intro waiting member
  rw [unsubmittedJobs_canSkipJob] at member
  exact get?_skipJobs_of_taken (judged waiting member)

/-- A job that was asked about and is not skipped was found incomplete. -/
theorem get?_skipJobs_of_unskipped {jobNum : JobNum} {branches : List Branch}
    (unskipped : ¬(canSkipJob existing proxy jobNum branches).1 = true) :
    (canSkipJob existing proxy jobNum branches).2.skipJobs.get? jobNum = some false := by
  rw [get?_skipJobs_canSkipJob, if_pos rfl, Bool.eq_false_iff.mpr unskipped]

/-- What a loop takes in hand was found incomplete. -/
theorem judged_set (judged : JudgedHand hand)
    (unskipped : ¬(canSkipJob existing hand.proxy item.1 item.2).1 = true) :
    ∀ jobNum ∈ (hand.held.set item.1 item.2).keys,
      (canSkipJob existing hand.proxy item.1 item.2).2.skipJobs.get? jobNum = some false := by
  intro jobNum member
  rcases Dict.mem_keys_set.mp member with rfl | before
  · exact get?_skipJobs_of_unskipped unskipped
  · exact get?_skipJobs_of_taken (judged.2 jobNum before)

theorem judgedHand_parkRetry (judged : JudgedHand hand) :
    JudgedHand (parkRetry existing hand item) := by
  rw [parkRetry]
  split
  · exact ⟨judged_canSkipJob judged.1, fun jobNum member =>
      get?_skipJobs_of_taken (judged.2 jobNum member)⟩
  · rename_i unskipped
    exact ⟨judged_canSkipJob judged.1, judged_set judged unskipped⟩

theorem judgedHand_handRetry (judged : JudgedHand hand) :
    JudgedHand (handRetry existing round hand item) := by
  have asked : Judged (canSkipJob existing hand.proxy item.1 item.2).2 := judged_canSkipJob judged.1
  have held : ∀ jobNum ∈ hand.held.keys,
      (canSkipJob existing hand.proxy item.1 item.2).2.skipJobs.get? jobNum = some false :=
    fun jobNum member => get?_skipJobs_of_taken (judged.2 jobNum member)
  rw [handRetry]
  split
  · exact ⟨asked, held⟩
  rename_i unskipped
  split
  · refine ⟨fun jobNum member => ?_, held⟩
    rcases Dict.mem_keys_set.mp member with rfl | before
    · exact get?_skipJobs_of_unskipped unskipped
    · exact asked jobNum before
  · exact ⟨asked, judged_set judged unskipped⟩

/-- Taking jobs out of the backlog leaves those that were judged. -/
theorem judged_pop {jobNum : JobNum} (judged : Judged proxy) :
    Judged (proxy.setUnsubmitted (proxy.jobData.unsubmittedJobs.pop jobNum)) := by
  intro waiting member
  exact judged waiting (Dict.mem_keys_pop.mp member).2

theorem judgedHand_takeBacklog (judged : JudgedHand hand) :
    JudgedHand (takeBacklog existing round hand item) := by
  have asked : Judged (canSkipJob existing hand.proxy item.1 item.2).2 := judged_canSkipJob judged.1
  have held : ∀ jobNum ∈ hand.held.keys,
      (canSkipJob existing hand.proxy item.1 item.2).2.skipJobs.get? jobNum = some false :=
    fun jobNum member => get?_skipJobs_of_taken (judged.2 jobNum member)
  rw [takeBacklog]
  split
  · exact ⟨judged_pop asked, held⟩
  rename_i unskipped
  split
  · exact ⟨asked, held⟩
  · exact ⟨judged_pop asked, judged_set judged unskipped⟩

/-- Dropping the complete jobs of a backlog judges the others. -/
theorem judged_dropCompleteBacklog (existing : Finset Branch) (proxy : Proxy) :
    Judged (dropCompleteBacklog existing proxy) := by
  let Judging (pending : List (JobNum × List Branch)) (after : Proxy) : Prop :=
    ∀ jobNum ∈ after.jobData.unsubmittedJobs.keys,
      jobNum ∈ pending.map Prod.fst ∨ after.skipJobs.get? jobNum = some false
  have judges : ∀ item rest after, Judging (item :: rest) after →
      Judging rest (dropComplete existing after item) := by
    intro item rest after judging
    -- the loop comes to the job of the item, and leaves it only when it is incomplete
    have others : ∀ jobNum ∈ after.jobData.unsubmittedJobs.keys, jobNum ≠ item.1 →
        jobNum ∈ rest.map Prod.fst ∨
          (canSkipJob existing after item.1 item.2).2.skipJobs.get? jobNum = some false := by
      intro jobNum member different
      rcases judging jobNum member with pending | judged
      · rw [List.map_cons, List.mem_cons] at pending
        exact Or.inl (pending.resolve_left different)
      · exact Or.inr (get?_skipJobs_of_taken judged)
    intro jobNum member
    rw [dropComplete] at member ⊢
    split at member
    · rename_i skipped
      rw [if_pos skipped]
      have popped := Dict.mem_keys_pop.mp member
      rw [unsubmittedJobs_canSkipJob] at popped
      exact others jobNum popped.2 popped.1
    · rename_i unskipped
      rw [if_neg unskipped]
      rw [unsubmittedJobs_canSkipJob] at member
      by_cases same : jobNum = item.1
      · rw [same]
        exact Or.inr (get?_skipJobs_of_unskipped unskipped)
      · exact others jobNum member same
  have judged : Judging [] (dropCompleteBacklog existing proxy) :=
    run_of_remaining Judging judges fun _ member => Or.inl member
  intro jobNum member
  exact (judged jobNum member).resolve_left List.not_mem_nil

theorem skipJobs_updateRetryReleaseClock (now : ℚ) (afterRelease : Bool) :
    (updateRetryReleaseClock now afterRelease proxy).skipJobs = proxy.skipJobs := by
  obtain ⟨since, updated⟩ := updateRetryReleaseClock_eq now afterRelease proxy
  rw [updated]

theorem judged_updateRetryReleaseClock (now : ℚ) (afterRelease : Bool) (judged : Judged proxy) :
    Judged (updateRetryReleaseClock now afterRelease proxy) := by
  rw [Judged, jobData_updateRetryReleaseClock, skipJobs_updateRetryReleaseClock]
  exact judged

theorem judged_parkRetries (now : ℚ) (judged : Judged proxy) :
    Judged (parkRetries existing now retryJobs proxy) := by
  have parked : JudgedHand (retryJobs.items.foldl (parkRetry existing) ⟨Dict.empty, proxy⟩) :=
    invariant_run_of_forall (fun _ _ => judgedHand_parkRetry) ⟨judged, by simp⟩ _
  rw [parkRetries]
  split
  · exact parked.1
  · apply judged_updateRetryReleaseClock
    intro jobNum member
    rcases Dict.mem_keys_update.mp member with held | waiting
    · exact parked.2 jobNum held
    · exact parked.1 jobNum waiting

theorem judged_lawSubmit (judged : Judged proxy) :
    Judged (lawSubmit existing round retryJobs proxy).1 := by
  have retried : JudgedHand (retryJobs.items.foldl (handRetry existing round)
      ⟨Dict.empty, proxy⟩) :=
    invariant_run_of_forall (fun _ _ => judgedHand_handRetry) ⟨judged, by simp⟩ _
  have taken : JudgedHand (lawTake existing round retryJobs proxy) :=
    invariant_run_of_forall (fun _ _ => judgedHand_takeBacklog) retried _
  exact taken.1

/-- A `submit` of the poll loop leaves a backlog that was judged. -/
theorem judged_submit {result : Proxy × Dict JobNum (List Branch)} (judged : Judged proxy)
    (returned : submit settings existing round retryJobs proxy = .ok result) :
    Judged result.1 := by
  have clocked := judged_updateRetryReleaseClock round.now false judged
  rcases submit_cases returned with ⟨_, rfl⟩ | ⟨_, _, rfl⟩ | ⟨_, _, rfl⟩
  · exact judged_parkRetries _ judged
  · exact judged_parkRetries _ clocked
  · exact judged_updateRetryReleaseClock _ _ (judged_lawSubmit clocked)

/-- What law reports changes no verdict. -/
theorem judged_reported (round : Round) : Judged (round.reported proxy) ↔ Judged proxy :=
  Iff.rfl

/-! ## Loops over retries -/

/-- A loop body that takes a job in hand, unless it is passed by or the hand is full. -/
structure Handles (existing : Finset Branch) (full : Nat → Bool)
    (body : Hand → JobNum × List Branch → Hand) : Prop where
  held : ∀ hand item, (body hand item).held =
    if skips existing hand.proxy item || full hand.held.size then hand.held
    else hand.held.set item.1 item.2
  others : ∀ hand item other, other.1 ≠ item.1 →
    skips existing (body hand item).proxy other = skips existing hand.proxy other
  unsubmitted : ∀ hand item, skips existing hand.proxy item = true ∨ full hand.held.size = false →
    (body hand item).proxy.jobData.unsubmittedJobs = hand.proxy.jobData.unsubmittedJobs
  attempts : ∀ hand item, (body hand item).proxy.jobData.attempts = hand.proxy.jobData.attempts
  clock : ∀ hand item, (body hand item).proxy.retryParkedSince = hand.proxy.retryParkedSince

/-- Parking finds room for every retry. -/
theorem handles_parkRetry (existing : Finset Branch) :
    Handles existing (fun _ => false) (parkRetry existing) := by
  have asks : ∀ (hand : Hand) (item : JobNum × List Branch),
      parkRetry existing hand item =
        if skips existing hand.proxy item then
          ⟨hand.held, (canSkipJob existing hand.proxy item.1 item.2).2⟩
        else ⟨hand.held.set item.1 item.2, (canSkipJob existing hand.proxy item.1 item.2).2.setJobs
          ((canSkipJob existing hand.proxy item.1 item.2).2.jobData.jobs.pop item.1)⟩ :=
    fun _ _ => rfl
  constructor
  case held =>
    intro hand item
    rw [asks, Bool.or_false]
    split <;> rfl
  case others =>
    intro hand item other different
    rw [asks]
    split
    · exact skips_canSkipJob different
    · exact (skips_setJobs _).trans (skips_canSkipJob different)
  case unsubmitted =>
    intro hand item _
    rw [asks]
    split <;> exact unsubmittedJobs_canSkipJob
  case attempts =>
    intro hand item
    rw [asks]
    split <;> exact (canSkipJob_leaves existing hand.proxy item.1 item.2).1
  case clock =>
    intro hand item
    rw [asks]
    split <;> exact (canSkipJob_leaves existing hand.proxy item.1 item.2).2

/-- law puts a retry in the backlog when it has so many jobs in hand. -/
def putsBack (round : Round) (nHeld : Nat) : Bool :=
  round.parksRetries && decide (round.nParallel ≤ round.nActive + nHeld)

/-- The three things law does with a retry. -/
theorem handRetry_eq (existing : Finset Branch) (round : Round) (hand : Hand)
    (item : JobNum × List Branch) :
    let asked := (canSkipJob existing hand.proxy item.1 item.2).2
    handRetry existing round hand item =
      if skips existing hand.proxy item then ⟨hand.held, asked⟩
      else if putsBack round hand.held.size then
        ⟨hand.held, (asked.setJobs (asked.jobData.jobs.pop item.1)).setUnsubmitted
          (asked.jobData.unsubmittedJobs.set item.1 item.2)⟩
      else ⟨hand.held.set item.1 item.2, asked⟩ := by
  simp only [handRetry, skips, putsBack, Bool.and_eq_true, decide_eq_true_eq]

theorem handles_handRetry (existing : Finset Branch) (round : Round) :
    Handles existing (putsBack round) (handRetry existing round) := by
  constructor
  case held =>
    intro hand item
    rw [handRetry_eq]
    by_cases passed : skips existing hand.proxy item = true
    · simp [passed]
    · by_cases full : putsBack round hand.held.size = true <;> simp [passed, full]
  case others =>
    intro hand item other different
    rw [handRetry_eq]
    split
    · exact skips_canSkipJob different
    split
    · rw [skips_setUnsubmitted, skips_setJobs, skips_canSkipJob different]
    · exact skips_canSkipJob different
  case unsubmitted =>
    intro hand item stays
    rw [handRetry_eq]
    rcases stays with passed | room
    · rw [if_pos passed]
      exact unsubmittedJobs_canSkipJob
    · rw [room]
      split <;> exact unsubmittedJobs_canSkipJob
  case attempts =>
    intro hand item
    have leaves := (canSkipJob_leaves existing hand.proxy item.1 item.2).1
    rw [handRetry_eq]
    split
    · exact leaves
    split <;> exact leaves
  case clock =>
    intro hand item
    have leaves := (canSkipJob_leaves existing hand.proxy item.1 item.2).2
    rw [handRetry_eq]
    split
    · exact leaves
    split <;> exact leaves

namespace Handles

variable {full : Nat → Bool} {body : Hand → JobNum × List Branch → Hand}
  (handles : Handles existing full body) (items : List (JobNum × List Branch))

include handles

/-- What such a loop leaves alone. -/
theorem leaves (hand : Hand) :
    (items.foldl body hand).proxy.jobData.attempts = hand.proxy.jobData.attempts ∧
      (items.foldl body hand).proxy.retryParkedSince = hand.proxy.retryParkedSince := by
  induction items generalizing hand with
  | nil => exact ⟨rfl, rfl⟩
  | cons first rest ih =>
      obtain ⟨attempts, clock⟩ := ih (body hand first)
      exact ⟨attempts.trans (handles.attempts hand first), clock.trans (handles.clock hand first)⟩

/-- A full hand takes nothing more. -/
theorem held_of_full (isFull : full hand.held.size = true) :
    (items.foldl body hand).held = hand.held := by
  induction items generalizing hand with
  | nil => rfl
  | cons first rest ih =>
      have same : (body hand first).held = hand.held := by
        rw [handles.held, isFull, Bool.or_true, if_pos rfl]
      rw [List.foldl_cons, ih (by rwa [same]), same]

/-- Either the hand becomes full, or it takes all jobs that are not passed by,
in order, and nothing is put in the backlog. -/
theorem full_or_all (hand : Hand) (once : (items.map Prod.fst).Nodup)
    (fresh : ∀ item ∈ items, item.1 ∉ hand.held.keys) :
    let unskipped := items.filter fun item => !skips existing hand.proxy item
    let after := items.foldl body hand
    (full after.held.size = true ∧ after.held.size ≤ hand.held.size + unskipped.length) ∨
      (after.held.items = hand.held.items ++ unskipped ∧
        after.proxy.jobData.unsubmittedJobs = hand.proxy.jobData.unsubmittedJobs) := by
  induction items generalizing hand with
  | nil => simp
  | cons first rest ih =>
      obtain ⟨notLater, onceRest⟩ := List.nodup_cons.mp once
      have different : ∀ item ∈ rest, item.1 ≠ first.1 := by
        intro item member same
        exact notLater (same ▸ List.mem_map_of_mem member)
      have verdicts : (rest.filter fun item => !skips existing (body hand first).proxy item) =
          rest.filter fun item => !skips existing hand.proxy item := by
        apply List.filter_congr
        intro item member
        rw [handles.others hand first item (different item member)]
      have freshRest : ∀ item ∈ rest, item.1 ∉ hand.held.keys :=
        fun item member => fresh item (List.mem_cons_of_mem first member)
      by_cases passed : skips existing hand.proxy first = true
      · have held : (body hand first).held = hand.held := by
          rw [handles.held, passed, Bool.true_or, if_pos rfl]
        have backlog := handles.unsubmitted hand first (Or.inl passed)
        have later := ih (body hand first) onceRest (by rwa [held])
        simpa [passed, verdicts, held, backlog] using later
      by_cases isFull : full hand.held.size = true
      · left
        rw [handles.held_of_full _ isFull]
        exact ⟨isFull, Nat.le_add_right _ _⟩
      · -- there is room for this one
        have held : (body hand first).held = hand.held.set first.1 first.2 := by
          rw [handles.held]
          simp [passed, isFull]
        have items := Dict.items_set_of_notMem first.2 (fresh first List.mem_cons_self)
        have size : (hand.held.set first.1 first.2).size = hand.held.size + 1 := by
          rw [Dict.size, items, List.length_append]
          rfl
        have backlog := handles.unsubmitted hand first (Or.inr (Bool.eq_false_iff.mpr isFull))
        have freshNext : ∀ item ∈ rest, item.1 ∉ (body hand first).held.keys := by
          intro item member
          rw [held, Dict.mem_keys_set, not_or]
          exact ⟨different item member, freshRest item member⟩
        have later := ih (body hand first) onceRest freshNext
        simpa [passed, verdicts, held, items, size, backlog, Nat.add_assoc, Nat.add_comm 1] using
          later

end Handles

/-! ## Parking -/

/-- The retries of a round that are not passed by. -/
def handedRetries (existing : Finset Branch) (retryJobs : Dict JobNum (List Branch))
    (proxy : Proxy) : List (JobNum × List Branch) :=
  retryJobs.items.filter fun item => !skips existing proxy item

theorem mem_keys_of_mem_handedRetries (handed : item ∈ handedRetries existing retryJobs proxy) :
    item.1 ∈ retryJobs.keys :=
  List.mem_map_of_mem (List.mem_of_mem_filter handed)

/-- A job of a backlog that was judged is not passed by as a retry either. -/
theorem handed_of_judged (existing : Finset Branch) {jobNum : JobNum} (judged : Judged proxy)
    (waits : jobNum ∈ proxy.jobData.unsubmittedJobs.keys) (offered : jobNum ∈ retryJobs.keys) :
    jobNum ∈ (handedRetries existing retryJobs proxy).map Prod.fst := by
  obtain ⟨item, member, rfl⟩ := List.mem_map.mp offered
  apply List.mem_map_of_mem
  apply List.mem_filter.mpr
  refine ⟨member, ?_⟩
  rw [skips_eq, judged item.1 waits]
  rfl

@[simp]
theorem handedRetries_updateRetryReleaseClock (now : ℚ) (afterRelease : Bool) :
    handedRetries existing retryJobs (updateRetryReleaseClock now afterRelease proxy) =
      handedRetries existing retryJobs proxy := by
  simp [handedRetries]

/-- What the loop of `_park_retries` holds, and leaves in the backlog. -/
theorem parkRetries_loop (existing : Finset Branch) (retryJobs : Dict JobNum (List Branch))
    (proxy : Proxy) :
    let parked := retryJobs.items.foldl (parkRetry existing) ⟨Dict.empty, proxy⟩
    parked.held.items = handedRetries existing retryJobs proxy ∧
      parked.proxy.jobData.unsubmittedJobs = proxy.jobData.unsubmittedJobs := by
  have all := (handles_parkRetry existing).full_or_all retryJobs.items ⟨Dict.empty, proxy⟩
    retryJobs.nodupKeys (by simp)
  simpa [handedRetries] using all

/-- Parking leaves a proxy alone when it has no retry to park. -/
theorem parkRetries_of_nothing (now : ℚ) (nothing : handedRetries existing retryJobs proxy = []) :
    (parkRetries existing now retryJobs proxy).jobData.unsubmittedJobs =
        proxy.jobData.unsubmittedJobs ∧
      (parkRetries existing now retryJobs proxy).jobData.attempts = proxy.jobData.attempts ∧
      (parkRetries existing now retryJobs proxy).retryParkedSince = proxy.retryParkedSince := by
  obtain ⟨held, backlog⟩ := parkRetries_loop existing retryJobs proxy
  rw [nothing] at held
  rw [parkRetries, if_pos held]
  exact ⟨backlog, (handles_parkRetry existing).leaves _ _⟩

/-- Parking puts the retries in front of the backlog. -/
theorem keys_parkRetries (existing : Finset Branch) (now : ℚ)
    (retryJobs : Dict JobNum (List Branch)) (proxy : Proxy) :
    (parkRetries existing now retryJobs proxy).jobData.unsubmittedJobs.keys =
      (handedRetries existing retryJobs proxy).map Prod.fst ++
        proxy.jobData.unsubmittedJobs.keys.filter fun jobNum =>
          jobNum ∉ (handedRetries existing retryJobs proxy).map Prod.fst := by
  obtain ⟨held, backlog⟩ := parkRetries_loop existing retryJobs proxy
  by_cases nothing : handedRetries existing retryJobs proxy = []
  · simp [(parkRetries_of_nothing now nothing).1, nothing]
  · rw [parkRetries, if_neg (held ▸ nothing), jobData_updateRetryReleaseClock]
    have heldKeys := congrArg (List.map Prod.fst) held
    simp only [Proxy.setUnsubmitted]
    rw [backlog, Dict.keys_update proxy.jobData.unsubmittedJobs.nodupKeys, Dict.keys, heldKeys]
    rfl

theorem mem_keys_parkRetries {now : ℚ} {jobNum : JobNum} :
    jobNum ∈ (parkRetries existing now retryJobs proxy).jobData.unsubmittedJobs.keys ↔
      jobNum ∈ (handedRetries existing retryJobs proxy).map Prod.fst ∨
        jobNum ∈ proxy.jobData.unsubmittedJobs.keys := by
  rw [keys_parkRetries, List.mem_append, List.mem_filter, decide_eq_true_eq]
  tauto

theorem attempts_parkRetries {now : ℚ} :
    (parkRetries existing now retryJobs proxy).jobData.attempts = proxy.jobData.attempts := by
  have leaves := (handles_parkRetry existing).leaves retryJobs.items ⟨Dict.empty, proxy⟩
  rw [parkRetries]
  split
  · exact leaves.1
  · rw [jobData_updateRetryReleaseClock]
    exact leaves.1

/-! ## Releasing -/

/-- The jobs of the backlog that are not passed by. -/
def waitingJobs (existing : Finset Branch) (proxy : Proxy) : List (JobNum × List Branch) :=
  proxy.jobData.unsubmittedJobs.items.filter fun item => !skips existing proxy item

/-- law passes by no job of a backlog that was judged. -/
theorem waitingJobs_of_judged (judged : Judged proxy) :
    waitingJobs existing proxy = proxy.jobData.unsubmittedJobs.items := by
  apply List.filter_eq_self.mpr
  intro item member
  rw [skips_eq, judged item.1 (List.mem_map_of_mem member)]
  rfl

/-- The slots that are free when the retries of the round are submitted again. -/
def freeSlots (existing : Finset Branch) (round : Round) (retryJobs : Dict JobNum (List Branch))
    (proxy : Proxy) : Nat :=
  round.nParallel - (round.nActive + (handedRetries existing retryJobs proxy).length)

/-- How many jobs of a backlog some slots reach.  A job that is submitted as a
retry already takes no slot of its own. -/
def reach (handed : List JobNum) (slots : Nat) : List JobNum → Nat
  | [] => 0
  | jobNum :: rest =>
      if slots = 0 then 0
      else if jobNum ∈ handed then reach handed slots rest + 1
      else reach handed (slots - 1) rest + 1

@[simp]
theorem reach_zero (handed backlog : List JobNum) : reach handed 0 backlog = 0 := by
  cases backlog <;> simp [reach]

/-- Only whether the jobs of the backlog are handed counts. -/
theorem reach_congr {handed others : List JobNum} {slots : Nat} {backlog : List JobNum}
    (same : ∀ jobNum ∈ backlog, (jobNum ∈ handed ↔ jobNum ∈ others)) :
    reach handed slots backlog = reach others slots backlog := by
  induction backlog generalizing slots with
  | nil => rfl
  | cons first rest ih =>
      have sameRest : ∀ jobNum ∈ rest, (jobNum ∈ handed ↔ jobNum ∈ others) :=
        fun jobNum member => same jobNum (List.mem_cons_of_mem first member)
      simp only [reach, same first List.mem_cons_self, ih sameRest]

/-- When no job of the backlog is a retry, the slots reach one job each. -/
theorem reach_of_apart {handed backlog : List JobNum} (slots : Nat)
    (apart : ∀ jobNum ∈ backlog, jobNum ∉ handed) :
    reach handed slots backlog = min slots backlog.length := by
  induction backlog generalizing slots with
  | nil => simp [reach]
  | cons first rest ih =>
      have notHanded := apart first List.mem_cons_self
      have apartRest : ∀ jobNum ∈ rest, jobNum ∉ handed :=
        fun jobNum member => apart jobNum (List.mem_cons_of_mem first member)
      by_cases none : slots = 0
      · simp [none]
      · simp only [reach, none, notHanded, if_false, ih _ apartRest, List.length_cons]
        omega

/-- A job that is taken in hand is the first that the slots reach. -/
theorem reach_set {held : Dict JobNum (List Branch)} (item : JobNum × List Branch)
    {later : List JobNum} (room : ¬round.nParallel ≤ round.nActive + held.size)
    (apart : item.1 ∉ later) :
    reach held.keys (round.nParallel - (round.nActive + held.size)) (item.1 :: later) =
      reach (held.set item.1 item.2).keys
        (round.nParallel - (round.nActive + (held.set item.1 item.2).size)) later + 1 := by
  have oneSlot : ¬round.nParallel - (round.nActive + held.size) = 0 := by omega
  have others : ∀ jobNum ∈ later,
      (jobNum ∈ held.keys ↔ jobNum ∈ (held.set item.1 item.2).keys) := by
    intro jobNum member
    have different : jobNum ≠ item.1 := fun same => apart (same ▸ member)
    simp [different]
  rw [reach, if_neg oneSlot, reach_congr others, reach_congr others]
  by_cases already : item.1 ∈ held.keys
  · rw [if_pos already, Dict.size_set_of_mem _ already]
  · rw [if_neg already, Dict.size_set_of_notMem _ already, Nat.sub_sub, Nat.add_assoc]

/-- The loop over the backlog takes the first jobs that are not passed by, as
many as its slots reach, and keeps the others in order. -/
theorem foldl_takeBacklog (existing : Finset Branch) (round : Round)
    (pending kept : List (JobNum × List Branch)) (hand : Hand)
    (backlog : hand.proxy.jobData.unsubmittedJobs.items = kept ++ pending) :
    let waiting := pending.filter fun item => !skips existing hand.proxy item
    let reached := reach hand.held.keys (round.nParallel - (round.nActive + hand.held.size))
      (waiting.map Prod.fst)
    (pending.foldl (takeBacklog existing round) hand).proxy.jobData.unsubmittedJobs.items =
        kept ++ waiting.drop reached ∧
      ∀ jobNum, jobNum ∈ (pending.foldl (takeBacklog existing round) hand).held.keys ↔
        jobNum ∈ hand.held.keys ∨ jobNum ∈ (waiting.map Prod.fst).take reached := by
  induction pending generalizing kept hand with
  | nil => simpa [reach] using backlog
  | cons first rest ih =>
      have once := hand.proxy.jobData.unsubmittedJobs.nodupKeys
      rw [backlog, List.map_append, List.map_cons, List.nodup_middle, List.nodup_cons,
        List.mem_append, not_or] at once
      have different : ∀ item ∈ rest, item.1 ≠ first.1 := by
        intro item member same
        exact once.1.2 (same ▸ List.mem_map_of_mem member)
      let judged := (canSkipJob existing hand.proxy first.1 first.2).2
      have verdicts : (rest.filter fun item => !skips existing judged item) =
          rest.filter fun item => !skips existing hand.proxy item := by
        apply List.filter_congr
        intro item member
        rw [skips_canSkipJob (different item member)]
      have judgedBacklog : judged.jobData.unsubmittedJobs.items = kept ++ first :: rest := by
        rw [unsubmittedJobs_canSkipJob]
        exact backlog
      have popped : (judged.jobData.unsubmittedJobs.pop first.1).items = kept ++ rest :=
        Dict.items_pop_of_append judgedBacklog
      intro waiting reached
      rw [List.foldl_cons]
      by_cases passed : skips existing hand.proxy first = true
      · -- a complete job leaves the backlog
        have body : takeBacklog existing round hand first = ⟨hand.held, judged.setUnsubmitted
            (judged.jobData.unsubmittedJobs.pop first.1)⟩ := if_pos passed
        have isWaiting : waiting = rest.filter fun item => !skips existing hand.proxy item := by
          simp [waiting, passed]
        have left := ih kept ⟨hand.held, judged.setUnsubmitted
          (judged.jobData.unsubmittedJobs.pop first.1)⟩ popped
        simp only [skips_setUnsubmitted, verdicts] at left
        simp only [reached, body, isWaiting]
        exact left
      have isWaiting : waiting =
          first :: rest.filter fun item => !skips existing hand.proxy item := by
        simp [waiting, passed]
      by_cases full : round.nParallel ≤ round.nActive + hand.held.size
      · -- without a free slot it stays where it is
        have body : takeBacklog existing round hand first = ⟨hand.held, judged⟩ :=
          (if_neg passed).trans (if_pos full)
        have noSlot : round.nParallel - (round.nActive + hand.held.size) = 0 :=
          Nat.sub_eq_zero_of_le full
        have left := ih (kept ++ [first]) ⟨hand.held, judged⟩ (by simpa using judgedBacklog)
        simp only [verdicts, noSlot, reach_zero] at left
        simp only [reached, noSlot, reach_zero, body, isWaiting]
        simpa using left
      · -- and otherwise it is taken
        have body : takeBacklog existing round hand first =
            ⟨hand.held.set first.1 first.2, judged.setUnsubmitted
              (judged.jobData.unsubmittedJobs.pop first.1)⟩ :=
          (if_neg passed).trans (if_neg full)
        obtain ⟨left, taken⟩ := ih kept ⟨hand.held.set first.1 first.2, judged.setUnsubmitted
          (judged.jobData.unsubmittedJobs.pop first.1)⟩ popped
        simp only [skips_setUnsubmitted, verdicts] at left taken
        have notFirst : first.1 ∉
            (rest.filter fun item => !skips existing hand.proxy item).map Prod.fst := by
          intro member
          obtain ⟨item, isRest, same⟩ := List.mem_map.mp member
          exact different item (List.mem_of_mem_filter isRest) same
        have sameReach := reach_set first full notFirst
        simp only [reached, isWaiting, List.map_cons, sameReach, body]
        rw [List.drop_succ_cons, List.take_succ_cons]
        refine ⟨left, fun jobNum => ?_⟩
        rw [taken, Dict.mem_keys_set, List.mem_cons]
        tauto

/-- What law's `submit` makes of the retries before it comes to the backlog:
it may put some at its end, but then all slots are taken. -/
theorem retried_backlog (existing : Finset Branch) (round : Round)
    (retryJobs : Dict JobNum (List Branch)) (proxy : Proxy) :
    let retried := retryJobs.items.foldl (handRetry existing round) ⟨Dict.empty, proxy⟩
    (retried.held.items = handedRetries existing retryJobs proxy ∧
        retried.proxy.jobData.unsubmittedJobs = proxy.jobData.unsubmittedJobs) ∨
      (round.nParallel ≤ round.nActive + retried.held.size ∧
        freeSlots existing round retryJobs proxy = 0) := by
  intro retried
  rcases (handles_handRetry existing round).full_or_all retryJobs.items ⟨Dict.empty, proxy⟩
    retryJobs.nodupKeys (by simp) with ⟨full, fits⟩ | all
  · right
    rw [putsBack, Bool.and_eq_true, decide_eq_true_eq] at full
    have fewer : retried.held.size ≤ (handedRetries existing retryJobs proxy).length := by
      simpa [handedRetries, Dict.size] using fits
    refine ⟨full.2, Nat.sub_eq_zero_of_le (full.2.trans ?_)⟩
    exact Nat.add_le_add_left fewer round.nActive
  · left
    simpa [handedRetries] using all

/-- law's loop over the retries appends jobs to the backlog, if anything. -/
theorem keys_retried (existing : Finset Branch) (round : Round)
    (items : List (JobNum × List Branch)) (hand : Hand) :
    ∃ putBack, (items.foldl (handRetry existing round) hand).proxy.jobData.unsubmittedJobs.keys =
        hand.proxy.jobData.unsubmittedJobs.keys ++ putBack ∧
      ∀ jobNum ∈ putBack, jobNum ∈ items.map Prod.fst := by
  induction items generalizing hand with
  | nil => exact ⟨[], by simp⟩
  | cons first rest ih =>
      obtain ⟨putBack, appended, among⟩ := ih (handRetry existing round hand first)
      have step : (handRetry existing round hand first).proxy.jobData.unsubmittedJobs.keys =
            hand.proxy.jobData.unsubmittedJobs.keys ∨
          (handRetry existing round hand first).proxy.jobData.unsubmittedJobs.keys =
            hand.proxy.jobData.unsubmittedJobs.keys ++ [first.1] := by
        rw [handRetry_eq]
        split
        · left
          rw [unsubmittedJobs_canSkipJob]
        split
        · simp only [Proxy.setUnsubmitted, unsubmittedJobs_canSkipJob, Dict.keys_set]
          split
          · exact Or.inl rfl
          · exact Or.inr rfl
        · left
          rw [unsubmittedJobs_canSkipJob]
      rw [List.foldl_cons, appended]
      rcases step with same | putFirst
      · rw [same]
        exact ⟨putBack, rfl, fun jobNum member => List.mem_cons_of_mem _ (among jobNum member)⟩
      · rw [putFirst]
        refine ⟨first.1 :: putBack, by simp, fun jobNum member => ?_⟩
        rcases List.mem_cons.mp member with rfl | later
        · exact List.mem_cons_self
        · exact List.mem_cons_of_mem _ (among jobNum later)

/-- A backlog that was judged loses to law's `submit` the first jobs, as many
as the slots reach.  Without a slot it may gain retries at its end. -/
theorem lawSubmit_backlog (existing : Finset Branch) (round : Round)
    (retryJobs : Dict JobNum (List Branch)) (judged : Judged proxy) :
    let backlog := proxy.jobData.unsubmittedJobs.keys
    let slots := freeSlots existing round retryJobs proxy
    let reached := reach ((handedRetries existing retryJobs proxy).map Prod.fst) slots backlog
    ∃ putBack, (lawSubmit existing round retryJobs proxy).1.jobData.unsubmittedJobs.keys =
        backlog.drop reached ++ putBack ∧
      (∀ jobNum ∈ putBack, jobNum ∈ retryJobs.keys ∧ slots = 0) ∧
      ∀ jobNum ∈ backlog.take reached,
        jobNum ∈ (lawSubmit existing round retryJobs proxy).2.keys := by
  intro backlog slots reached
  let retried := retryJobs.items.foldl (handRetry existing round) ⟨Dict.empty, proxy⟩
  have judgedRetried : JudgedHand retried :=
    invariant_run_of_forall (fun _ _ => judgedHand_handRetry) ⟨judged, by simp⟩ _
  have waiting : (retried.proxy.jobData.unsubmittedJobs.items.filter fun item =>
      !skips existing retried.proxy item) = retried.proxy.jobData.unsubmittedJobs.items :=
    waitingJobs_of_judged judgedRetried.1
  obtain ⟨left, held⟩ := foldl_takeBacklog existing round
    retried.proxy.jobData.unsubmittedJobs.items [] retried rfl
  rw [waiting, List.nil_append] at left
  simp only [waiting] at held
  have leftKeys := congrArg (List.map Prod.fst) left
  rw [List.map_drop] at leftKeys
  rcases retried_backlog existing round retryJobs proxy with ⟨all, same⟩ | ⟨full, noSlot⟩
  · -- all retries are submitted again, and the loop over the backlog has the slots left
    have sameSlots : round.nParallel - (round.nActive + retried.held.size) = slots := by
      rw [Dict.size, all]
      rfl
    have sameKeys : retried.proxy.jobData.unsubmittedJobs.items.map Prod.fst = backlog :=
      congrArg Dict.keys same
    have sameReach : reach retried.held.keys
        (round.nParallel - (round.nActive + retried.held.size)) backlog = reached := by
      rw [sameSlots, Dict.keys, all]
    rw [sameKeys, sameReach] at leftKeys
    rw [sameKeys, sameReach] at held
    refine ⟨[], ?_, by simp, fun jobNum taken => (held jobNum).mpr (Or.inr taken)⟩
    rw [List.append_nil]
    exact leftKeys
  · -- without a slot nothing is taken
    have noneReached : reached = 0 := by
      simp [reached, slots, noSlot]
    have noRoom : round.nParallel - (round.nActive + retried.held.size) = 0 :=
      Nat.sub_eq_zero_of_le full
    obtain ⟨putBack, appended, among⟩ := keys_retried existing round retryJobs.items
      ⟨Dict.empty, proxy⟩
    refine ⟨putBack, ?_, fun jobNum member => ⟨among jobNum member, noSlot⟩, ?_⟩
    · rw [noRoom, reach_zero] at leftKeys
      rw [noneReached, List.drop_zero]
      exact leftKeys.trans appended
    · simp [noneReached]

/-- law's `submit` counts no attempt and moves no clock. -/
theorem lawSubmit_leaves :
    (lawSubmit existing round retryJobs proxy).1.jobData.attempts = proxy.jobData.attempts ∧
      (lawSubmit existing round retryJobs proxy).1.retryParkedSince = proxy.retryParkedSince := by
  have takes : ∀ (hand : Hand) (item : JobNum × List Branch),
      (takeBacklog existing round hand item).proxy.jobData.attempts =
          hand.proxy.jobData.attempts ∧
        (takeBacklog existing round hand item).proxy.retryParkedSince =
          hand.proxy.retryParkedSince := by
    intro hand item
    have leaves := canSkipJob_leaves existing hand.proxy item.1 item.2
    rw [takeBacklog]
    split
    · exact leaves
    · split <;> exact leaves
  have retried := (handles_handRetry existing round).leaves retryJobs.items ⟨Dict.empty, proxy⟩
  have keeps : ∀ (hand : Hand) (item : JobNum × List Branch),
      hand.proxy.jobData.attempts = proxy.jobData.attempts ∧
          hand.proxy.retryParkedSince = proxy.retryParkedSince →
        (takeBacklog existing round hand item).proxy.jobData.attempts = proxy.jobData.attempts ∧
          (takeBacklog existing round hand item).proxy.retryParkedSince =
            proxy.retryParkedSince :=
    fun hand item same =>
      ⟨(takes hand item).1.trans same.1, (takes hand item).2.trans same.2⟩
  exact invariant_run_of_forall keeps retried _

/-! ## Dropping complete jobs -/

/-- A round that finds no slot. -/
def noSlots : Round :=
  ⟨fun _ => none, [], 0, 0, true, false, 0⟩

/-- Dropping the complete backlog is what law's `submit` does without a slot. -/
theorem dropComplete_eq_takeBacklog (existing : Finset Branch) (proxy : Proxy)
    (item : JobNum × List Branch) :
    takeBacklog existing noSlots ⟨Dict.empty, proxy⟩ item =
      ⟨Dict.empty, dropComplete existing proxy item⟩ := by
  rw [takeBacklog, dropComplete]
  dsimp only
  split
  · rfl
  · exact if_pos (Nat.zero_le _)

/-- Dropping the complete backlog leaves the jobs that are not passed by, in order. -/
theorem items_dropCompleteBacklog (existing : Finset Branch) (proxy : Proxy) :
    (dropCompleteBacklog existing proxy).jobData.unsubmittedJobs.items =
      waitingJobs existing proxy := by
  have same : ∀ (items : List (JobNum × List Branch)) (before : Proxy),
      items.foldl (takeBacklog existing noSlots) ⟨Dict.empty, before⟩ =
        ⟨Dict.empty, items.foldl (dropComplete existing) before⟩ := by
    intro items
    induction items with
    | nil => exact fun _ => rfl
    | cons first rest ih =>
        intro before
        rw [List.foldl_cons, dropComplete_eq_takeBacklog, ih, List.foldl_cons]
  have left := (foldl_takeBacklog existing noSlots proxy.jobData.unsubmittedJobs.items []
    ⟨Dict.empty, proxy⟩ rfl).1
  rw [same] at left
  simpa [noSlots, waitingJobs, dropCompleteBacklog] using left

/-- Dropping the complete backlog counts no attempt and moves no clock. -/
theorem dropCompleteBacklog_leaves (existing : Finset Branch) (proxy : Proxy) :
    (dropCompleteBacklog existing proxy).jobData.attempts = proxy.jobData.attempts ∧
      (dropCompleteBacklog existing proxy).retryParkedSince = proxy.retryParkedSince := by
  have keeps : ∀ (after : Proxy) (item : JobNum × List Branch),
      after.jobData.attempts = proxy.jobData.attempts ∧
          after.retryParkedSince = proxy.retryParkedSince →
        (dropComplete existing after item).jobData.attempts = proxy.jobData.attempts ∧
          (dropComplete existing after item).retryParkedSince = proxy.retryParkedSince := by
    intro after item same
    have leaves := canSkipJob_leaves existing after item.1 item.2
    rw [dropComplete]
    split <;> exact ⟨leaves.1.trans same.1, leaves.2.trans same.2⟩
  exact invariant_run_of_forall keeps ⟨rfl, rfl⟩ _

/-! ## Rounds -/

/-- `submit` counts no attempt. -/
theorem attempts_submit {settings : Settings} {result : Proxy × Dict JobNum (List Branch)}
    (returned : submit settings existing round retryJobs proxy = .ok result) :
    result.1.jobData.attempts = proxy.jobData.attempts := by
  rcases submit_cases returned with ⟨_, rfl⟩ | ⟨_, _, rfl⟩ | ⟨_, _, rfl⟩
  · exact attempts_parkRetries
  · rw [attempts_parkRetries, jobData_updateRetryReleaseClock]
  · rw [jobData_updateRetryReleaseClock, lawSubmit_leaves.1, jobData_updateRetryReleaseClock]

/-- A round that returns leaves the proxy of its `submit`. -/
theorem submit_of_pollRound {settings : Settings} {loop after : PollLoop}
    (returned : pollRound settings existing loop round = .ok after) :
    ∃ submitted, submit settings existing round
        (round.retryJobs (round.reported loop.proxy).jobData.jobs) (round.reported loop.proxy) =
          .ok (after.proxy, submitted) := by
  rw [pollRound] at returned
  cases outcome : submit settings existing round
      (round.retryJobs (round.reported loop.proxy).jobData.jobs) (round.reported loop.proxy) with
  | error message => simp [outcome, bind, Except.bind] at returned
  | ok result =>
      simp only [outcome, bind, Except.bind, pure, Except.pure, Except.ok.injEq] at returned
      subst returned
      exact ⟨result.2, rfl⟩

/-- law counts an attempt of the retries it offers. -/
theorem mem_attempts_reported {jobNum : JobNum} :
    jobNum ∈ (round.reported proxy).jobData.attempts.keys ↔
      jobNum ∈ proxy.jobData.attempts.keys ∨
        jobNum ∈ (round.retryJobs (round.reported proxy).jobData.jobs).keys := by
  have counted : ∀ (offers : List JobNum) (attempts : Dict JobNum Nat),
      jobNum ∈ (offers.foldl countAttempt attempts).keys ↔
        jobNum ∈ attempts.keys ∨ jobNum ∈ offers := by
    intro offers
    induction offers with
    | nil => simp
    | cons first rest ih =>
        intro attempts
        rw [List.foldl_cons, ih, countAttempt, Dict.mem_keys_set, List.mem_cons]
        tauto
  exact counted _ _

theorem mem_parkedRetries {jobNum : JobNum} :
    jobNum ∈ parkedRetries proxy ↔
      jobNum ∈ proxy.jobData.unsubmittedJobs.keys ∧ jobNum ∈ proxy.jobData.attempts.keys := by
  simp [parkedRetries]

/-- The poll loop begins with a backlog that was judged. -/
theorem judged_start {settings : Settings} {launch : Launch} {loop : PollLoop}
    (started : launch.start settings existing = .ok loop) : Judged loop.proxy := by
  cases launch with
  | resumed jobData =>
      cases started
      exact judged_dropCompleteBacklog existing _
  | fresh chunks scheduled round =>
      rw [Launch.start] at started
      cases first : submit settings existing round Dict.empty
          (beginRun (freshJobData chunks scheduled) false) with
      | error message => simp [first, bind, Except.bind] at started
      | ok result =>
          simp only [first, bind, Except.bind, pure, Except.pure, Except.ok.injEq] at started
          subst started
          exact judged_dropCompleteBacklog existing _

end DSProd.Crab
