import DSProd.Crab.Submission
import DSProd.Library.Run
import Mathlib.Data.Finset.Card

/-!
# No job is lost

Jobs move between `jobs` and `unsubmitted_jobs` in each of the loops of the
submission.  `Covered` says that none is lost while a loop runs: they are in
one of the two maps or in its hand.  `Ledger` says that none is counted twice
either, which every loop of a round keeps.
-/

namespace DSProd.Crab

open DSProd.Library
open DSProd.Watchdog (JobNum Branch Status)

variable {existing : Finset Branch} {all : Finset JobNum}

/-! ## Verdicts -/

section Verdicts

variable {proxy : Proxy} {jobNum other : JobNum} {branches : List Branch}

@[simp]
theorem unsubmittedJobs_canSkipJob :
    (canSkipJob existing proxy jobNum branches).2.jobData.unsubmittedJobs =
      proxy.jobData.unsubmittedJobs := by
  rw [canSkipJob]
  split
  · rfl
  · split <;> rfl

/-- A verdict that was taken is the one that is given. -/
theorem canSkipJob_of_get? {verdict : Bool} (taken : proxy.skipJobs.get? jobNum = some verdict) :
    canSkipJob existing proxy jobNum branches = (verdict, proxy) := by
  simp [canSkipJob, taken]

/-- Asking about a job leaves its verdict, and no other one. -/
theorem get?_skipJobs_canSkipJob :
    (canSkipJob existing proxy jobNum branches).2.skipJobs.get? other =
      if other = jobNum then some (canSkipJob existing proxy jobNum branches).1
      else proxy.skipJobs.get? other := by
  cases taken : proxy.skipJobs.get? jobNum with
  | some verdict =>
      rw [canSkipJob_of_get? taken]
      by_cases same : other = jobNum
      · rw [if_pos same, same, taken]
      · rw [if_neg same]
  | none =>
      by_cases complete : Complete existing branches
      · simp [canSkipJob, taken, complete, Proxy.setJobs, Dict.get?_set]
      · simp [canSkipJob, taken, complete, Dict.get?_set]

/-- The jobs that can be skipped are all recorded. -/
def Recorded (proxy : Proxy) : Prop :=
  ∀ jobNum, proxy.skipJobs.get? jobNum = some true → jobNum ∈ proxy.jobData.jobs.keys

/-- Asking about a job records it when it can be skipped, and no other one. -/
theorem mem_jobs_canSkipJob (recorded : Recorded proxy) :
    other ∈ (canSkipJob existing proxy jobNum branches).2.jobData.jobs.keys ↔
      other ∈ proxy.jobData.jobs.keys ∨
        other = jobNum ∧ (canSkipJob existing proxy jobNum branches).1 = true := by
  cases taken : proxy.skipJobs.get? jobNum with
  | some verdict =>
      rw [canSkipJob_of_get? taken]
      constructor
      · exact Or.inl
      · rintro (member | ⟨rfl, skipped⟩)
        · exact member
        · exact recorded _ (taken.trans (congrArg some skipped))
  | none =>
      by_cases complete : Complete existing branches
      · simp [canSkipJob, taken, complete, Proxy.setJobs, or_comm]
      · simp [canSkipJob, taken, complete]

/-- Asking about a job that is recorded already moves nothing. -/
theorem mem_jobs_canSkipJob_of_mem (recorded : Recorded proxy)
    (known : jobNum ∈ proxy.jobData.jobs.keys) :
    other ∈ (canSkipJob existing proxy jobNum branches).2.jobData.jobs.keys ↔
      other ∈ proxy.jobData.jobs.keys := by
  rw [mem_jobs_canSkipJob recorded]
  constructor
  · rintro (member | ⟨rfl, _⟩)
    · exact member
    · exact known
  · exact Or.inl

theorem recorded_canSkipJob (recorded : Recorded proxy) :
    Recorded (canSkipJob existing proxy jobNum branches).2 := by
  intro asked skipped
  rw [mem_jobs_canSkipJob recorded]
  rw [get?_skipJobs_canSkipJob] at skipped
  by_cases same : asked = jobNum
  · rw [if_pos same, Option.some.injEq] at skipped
    exact Or.inr ⟨same, skipped⟩
  · rw [if_neg same] at skipped
    exact Or.inl (recorded asked skipped)

end Verdicts

/-! ## The ledger -/

/-- The jobs are those of `all`: in one of the two maps, or in the hand of a
loop.  Those that can be skipped are recorded. -/
structure Covered (all : Finset JobNum) (hand : Hand) : Prop where
  covers : ∀ jobNum, jobNum ∈ all ↔
    jobNum ∈ hand.proxy.jobData.jobs.keys ∨ jobNum ∈ hand.proxy.jobData.unsubmittedJobs.keys ∨
      jobNum ∈ hand.held.keys
  recorded : Recorded hand.proxy

/-- And no job of the backlog is anywhere else. -/
structure Ledger (all : Finset JobNum) (hand : Hand) : Prop extends Covered all hand where
  apart : ∀ jobNum ∈ hand.proxy.jobData.jobs.keys,
    jobNum ∉ hand.proxy.jobData.unsubmittedJobs.keys
  heldApart : ∀ jobNum ∈ hand.held.keys, jobNum ∉ hand.proxy.jobData.unsubmittedJobs.keys

/-- The two maps share no job, and hold exactly the jobs of `all`. -/
structure Conserved (all : Finset JobNum) (proxy : Proxy) : Prop where
  covers : proxy.jobData.jobNums = all
  apart : ∀ jobNum ∈ proxy.jobData.jobs.keys, jobNum ∉ proxy.jobData.unsubmittedJobs.keys
  recorded : Recorded proxy

theorem JobData.mem_jobNums {data : JobData} {jobNum : JobNum} :
    jobNum ∈ data.jobNums ↔ jobNum ∈ data.jobs.keys ∨ jobNum ∈ data.unsubmittedJobs.keys := by
  simp [JobData.jobNums]

/-- When the two maps share no job, their lengths add up to the number of jobs. -/
theorem JobData.len_eq_card {data : JobData}
    (apart : ∀ jobNum ∈ data.jobs.keys, jobNum ∉ data.unsubmittedJobs.keys) :
    data.len = data.jobNums.card := by
  have disjoint : Disjoint data.jobs.keys.toFinset data.unsubmittedJobs.keys.toFinset := by
    rw [Finset.disjoint_left]
    intro jobNum submitted waiting
    exact apart jobNum (List.mem_toFinset.mp submitted) (List.mem_toFinset.mp waiting)
  rw [JobData.jobNums, Finset.card_union_of_disjoint disjoint,
    List.toFinset_card_of_nodup data.jobs.keys_nodup,
    List.toFinset_card_of_nodup data.unsubmittedJobs.keys_nodup, Dict.length_keys, Dict.length_keys]
  rfl

/-- With nothing in hand, the jobs are those of the job data. -/
theorem Covered.jobNums_eq {proxy : Proxy} (covered : Covered all ⟨Dict.empty, proxy⟩) :
    proxy.jobData.jobNums = all := by
  ext jobNum
  rw [JobData.mem_jobNums, covered.covers]
  simp

theorem Ledger.conserved {proxy : Proxy} (ledger : Ledger all ⟨Dict.empty, proxy⟩) :
    Conserved all proxy where
  covers := ledger.jobNums_eq
  apart := ledger.apart
  recorded := ledger.recorded

/-! ## The loops over the backlog -/

section Backlog

variable {round : Round} {item : JobNum × List Branch} {hand : Hand}

/-- A job that can be skipped leaves the backlog. -/
theorem Covered.drop (covered : Covered all hand) (known : item.1 ∈ all)
    (skipped : (canSkipJob existing hand.proxy item.1 item.2).1 = true) :
    Covered all ⟨hand.held, (canSkipJob existing hand.proxy item.1 item.2).2.setUnsubmitted
      (hand.proxy.jobData.unsubmittedJobs.pop item.1)⟩ where
  covers := by
    intro jobNum
    simp only [Proxy.setUnsubmitted, mem_jobs_canSkipJob covered.recorded, skipped,
      Dict.mem_keys_pop, covered.covers] at known ⊢
    by_cases same : jobNum = item.1
    · simp [same, known]
    · simp [same]
  recorded := recorded_canSkipJob covered.recorded

/-- A job that cannot be skipped yet stays where it is. -/
theorem Covered.leave (covered : Covered all hand)
    (unskipped : (canSkipJob existing hand.proxy item.1 item.2).1 = false) :
    Covered all ⟨hand.held, (canSkipJob existing hand.proxy item.1 item.2).2⟩ where
  covers := by
    intro jobNum
    rw [mem_jobs_canSkipJob covered.recorded, unsubmittedJobs_canSkipJob, covered.covers]
    simp [unskipped]
  recorded := recorded_canSkipJob covered.recorded

/-- A job can be taken from the backlog in hand. -/
theorem Covered.take (covered : Covered all hand) {jobNum : JobNum} (known : jobNum ∈ all)
    (branches : List Branch) :
    Covered all ⟨hand.held.set jobNum branches,
      hand.proxy.setUnsubmitted (hand.proxy.jobData.unsubmittedJobs.pop jobNum)⟩ where
  covers := by
    intro other
    simp only [Proxy.setUnsubmitted, Dict.mem_keys_pop, Dict.mem_keys_set, covered.covers]
      at known ⊢
    by_cases same : other = jobNum
    · simp [same, known]
    · simp [same]
  recorded := covered.recorded

theorem covered_dropComplete {proxy : Proxy} (covered : Covered all ⟨Dict.empty, proxy⟩)
    (known : item.1 ∈ all) : Covered all ⟨Dict.empty, dropComplete existing proxy item⟩ := by
  rw [dropComplete]
  cases asked : (canSkipJob existing proxy item.1 item.2).1 with
  | true => simpa [asked] using covered.drop known asked
  | false => simpa [asked] using covered.leave asked

theorem covered_takeBacklog (covered : Covered all hand) (known : item.1 ∈ all) :
    Covered all (takeBacklog existing round hand item) := by
  rw [takeBacklog]
  cases asked : (canSkipJob existing hand.proxy item.1 item.2).1 with
  | true => simpa [asked] using covered.drop known asked
  | false =>
      by_cases full : round.nParallel ≤ round.nActive + hand.held.size
      · simpa [asked, full] using covered.leave asked
      · simpa [asked, full] using (covered.leave asked).take known item.2

/-- The jobs of the backlog are among all jobs. -/
theorem Covered.known_backlog (covered : Covered all hand) :
    ∀ item ∈ hand.proxy.jobData.unsubmittedJobs.items, item.1 ∈ all :=
  fun _ member => (covered.covers _).mpr (Or.inr (Or.inl (List.mem_map_of_mem member)))

theorem covered_dropCompleteBacklog {proxy : Proxy} (covered : Covered all ⟨Dict.empty, proxy⟩) :
    Covered all ⟨Dict.empty, dropCompleteBacklog existing proxy⟩ := by
  have known := covered.known_backlog
  exact List.foldlRecOn (motive := fun after => Covered all ⟨Dict.empty, after⟩) _ _ covered
    fun _ covered item member => covered_dropComplete covered (known item member)

theorem ledger_takeBacklog (ledger : Ledger all hand) (known : item.1 ∈ all) :
    Ledger all (takeBacklog existing round hand item) where
  toCovered := covered_takeBacklog ledger.toCovered known
  apart := by
    intro jobNum
    rw [takeBacklog]
    cases asked : (canSkipJob existing hand.proxy item.1 item.2).1 with
    | true =>
        intro submitted waiting
        obtain ⟨different, before⟩ := Dict.mem_keys_pop.mp waiting
        rw [unsubmittedJobs_canSkipJob] at before
        rcases (mem_jobs_canSkipJob ledger.recorded).mp submitted with known | ⟨same, _⟩
        · exact ledger.apart jobNum known before
        · exact different same
    | false =>
        have kept : jobNum ∈ (canSkipJob existing hand.proxy item.1 item.2).2.jobData.jobs.keys →
            jobNum ∉ hand.proxy.jobData.unsubmittedJobs.keys := by
          intro submitted
          rcases (mem_jobs_canSkipJob ledger.recorded).mp submitted with known | ⟨_, skipped⟩
          · exact ledger.apart jobNum known
          · rw [asked] at skipped
            cases skipped
        by_cases full : round.nParallel ≤ round.nActive + hand.held.size
        · simpa [full] using kept
        · simpa [full, Proxy.setUnsubmitted] using fun submitted _ => kept submitted
  heldApart := by
    intro jobNum
    rw [takeBacklog]
    cases asked : (canSkipJob existing hand.proxy item.1 item.2).1 with
    | true =>
        intro held waiting
        obtain ⟨_, before⟩ := Dict.mem_keys_pop.mp waiting
        rw [unsubmittedJobs_canSkipJob] at before
        exact ledger.heldApart jobNum held before
    | false =>
        by_cases full : round.nParallel ≤ round.nActive + hand.held.size
        · simpa [full] using ledger.heldApart jobNum
        · simp only [full, Bool.false_eq_true, if_false, Proxy.setUnsubmitted,
            unsubmittedJobs_canSkipJob, Dict.mem_keys_set, Dict.mem_keys_pop, not_and]
          rintro (same | held) different
          · exact absurd same different
          · exact ledger.heldApart jobNum held

/-- What a loop takes in hand is submitted: it goes to the jobs. -/
theorem Covered.submit (covered : Covered all hand) {jobs : Dict JobNum Job}
    (submitted : ∀ jobNum, jobNum ∈ jobs.keys ↔
      jobNum ∈ hand.proxy.jobData.jobs.keys ∨ jobNum ∈ hand.held.keys) :
    Covered all ⟨Dict.empty, hand.proxy.setJobs jobs⟩ where
  covers := by
    intro jobNum
    rw [covered.covers]
    simp only [Proxy.setJobs, submitted, Dict.keys_empty, List.not_mem_nil, or_false]
    tauto
  recorded := fun jobNum skipped =>
    (submitted jobNum).mpr (Or.inl (covered.recorded jobNum skipped))

theorem Ledger.submit (ledger : Ledger all hand) {jobs : Dict JobNum Job}
    (submitted : ∀ jobNum, jobNum ∈ jobs.keys ↔
      jobNum ∈ hand.proxy.jobData.jobs.keys ∨ jobNum ∈ hand.held.keys) :
    Ledger all ⟨Dict.empty, hand.proxy.setJobs jobs⟩ where
  toCovered := ledger.toCovered.submit submitted
  apart := by
    intro jobNum member
    rcases (submitted jobNum).mp member with known | held
    · exact ledger.apart jobNum known
    · exact ledger.heldApart jobNum held
  heldApart := by simp

/-- law's `submit` adds the jobs in its hand to the jobs. -/
theorem mem_jobs_lawSubmit {retryJobs : Dict JobNum (List Branch)} {proxy : Proxy}
    (jobNum : JobNum) :
    jobNum ∈ (lawSubmit existing round retryJobs proxy).1.jobData.jobs.keys ↔
      jobNum ∈ (lawTake existing round retryJobs proxy).proxy.jobData.jobs.keys ∨
        jobNum ∈ (lawTake existing round retryJobs proxy).held.keys := by
  rw [lawSubmit]
  simp only [Proxy.setJobs, Dict.mem_keys_update, List.map_map]
  rfl

end Backlog

/-! ## The loops over the retries -/

/-- A loop over retries, which are offered from the jobs, each of them once. -/
structure Offered (all : Finset JobNum) (pending : List (JobNum × List Branch)) (hand : Hand) :
    Prop where
  ledger : Ledger all hand
  once : (pending.map Prod.fst).Nodup
  offered : ∀ item ∈ pending, item.1 ∈ hand.proxy.jobData.jobs.keys
  unheld : ∀ item ∈ pending, item.1 ∉ hand.held.keys

namespace Offered

variable {rest : List (JobNum × List Branch)} {item : JobNum × List Branch} {hand : Hand}

/-- Judging a retry moves nothing. -/
theorem judge (offer : Offered all (item :: rest) hand) :
    Offered all rest ⟨hand.held, (canSkipJob existing hand.proxy item.1 item.2).2⟩ := by
  have moved : ∀ jobNum,
      jobNum ∈ (canSkipJob existing hand.proxy item.1 item.2).2.jobData.jobs.keys ↔
        jobNum ∈ hand.proxy.jobData.jobs.keys := fun jobNum =>
    mem_jobs_canSkipJob_of_mem offer.ledger.recorded (offer.offered item List.mem_cons_self)
  constructor
  case ledger =>
    constructor
    · constructor
      · intro jobNum
        rw [moved, unsubmittedJobs_canSkipJob, offer.ledger.covers]
      · exact recorded_canSkipJob offer.ledger.recorded
    · intro jobNum submitted
      rw [unsubmittedJobs_canSkipJob]
      exact offer.ledger.apart jobNum ((moved jobNum).mp submitted)
    · intro jobNum held
      rw [unsubmittedJobs_canSkipJob]
      exact offer.ledger.heldApart jobNum held
  case once => exact (List.nodup_cons.mp offer.once).2
  case offered =>
    intro later member
    exact (moved later.1).mpr (offer.offered later (List.mem_cons_of_mem item member))
  case unheld => exact fun later member => offer.unheld later (List.mem_cons_of_mem item member)

variable {pending : List (JobNum × List Branch)} {jobNum : JobNum}

/-- A submitted job can be held for another submission. -/
theorem hold (offer : Offered all pending hand)
    (submitted : jobNum ∈ hand.proxy.jobData.jobs.keys) (passed : jobNum ∉ pending.map Prod.fst)
    (branches : List Branch) : Offered all pending ⟨hand.held.set jobNum branches, hand.proxy⟩ where
  ledger :=
    { offer.ledger with
      covers := by
        intro other
        rw [offer.ledger.covers, Dict.mem_keys_set]
        by_cases same : other = jobNum
        · simp [same, submitted]
        · simp [same]
      heldApart := by
        intro other held
        rcases Dict.mem_keys_set.mp held with rfl | earlier
        · exact offer.ledger.apart _ submitted
        · exact offer.ledger.heldApart other earlier }
  once := offer.once
  offered := offer.offered
  unheld := by
    intro later member held
    rcases Dict.mem_keys_set.mp held with same | earlier
    · exact passed (same ▸ List.mem_map_of_mem member)
    · exact offer.unheld later member earlier

/-- Taking a job that was judged and cannot be skipped from the jobs loses no
record, and leaves those that are still to come. -/
theorem recorded_pop (recorded : Recorded hand.proxy)
    (unskipped : hand.proxy.skipJobs.get? jobNum = some false) :
    Recorded (hand.proxy.setJobs (hand.proxy.jobData.jobs.pop jobNum)) := by
  intro other skipped
  have different : other ≠ jobNum := by
    rintro rfl
    rw [Proxy.setJobs, unskipped] at skipped
    cases skipped
  exact Dict.mem_keys_pop.mpr ⟨different, recorded other skipped⟩

theorem offered_pop (offer : Offered all pending hand) (passed : jobNum ∉ pending.map Prod.fst) :
    ∀ item ∈ pending, item.1 ∈ (hand.proxy.jobData.jobs.pop jobNum).keys := by
  intro later member
  have different : later.1 ≠ jobNum := by
    rintro rfl
    exact passed (List.mem_map_of_mem member)
  exact Dict.mem_keys_pop.mpr ⟨different, offer.offered later member⟩

/-- Such a job can be put in the backlog. -/
theorem shelve (offer : Offered all pending hand)
    (submitted : jobNum ∈ hand.proxy.jobData.jobs.keys)
    (unskipped : hand.proxy.skipJobs.get? jobNum = some false)
    (passed : jobNum ∉ pending.map Prod.fst) (unheld : jobNum ∉ hand.held.keys)
    (branches : List Branch) :
    Offered all pending
      ⟨hand.held, (hand.proxy.setJobs (hand.proxy.jobData.jobs.pop jobNum)).setUnsubmitted
        (hand.proxy.jobData.unsubmittedJobs.set jobNum branches)⟩ where
  ledger :=
    { covers := by
        intro other
        simp only [Proxy.setJobs, Proxy.setUnsubmitted, Dict.mem_keys_pop, Dict.mem_keys_set,
          offer.ledger.covers]
        by_cases same : other = jobNum
        · simp [same, submitted]
        · simp [same]
      recorded := recorded_pop offer.ledger.recorded unskipped
      apart := by
        intro other member waiting
        obtain ⟨different, before⟩ := Dict.mem_keys_pop.mp member
        rcases Dict.mem_keys_set.mp waiting with same | waited
        · exact different same
        · exact offer.ledger.apart other before waited
      heldApart := by
        intro other held waiting
        rcases Dict.mem_keys_set.mp waiting with rfl | waited
        · exact unheld held
        · exact offer.ledger.heldApart other held waited }
  once := offer.once
  offered := offer.offered_pop passed
  unheld := offer.unheld

end Offered

/-- A retry that was judged and cannot be skipped, and is among the jobs. -/
theorem judged_of_offered (existing : Finset Branch) {item : JobNum × List Branch}
    {rest : List (JobNum × List Branch)} {hand : Hand} (offer : Offered all (item :: rest) hand) :
    item.1 ∈ (canSkipJob existing hand.proxy item.1 item.2).2.jobData.jobs.keys ∧
      (canSkipJob existing hand.proxy item.1 item.2).2.skipJobs.get? item.1 =
        some (canSkipJob existing hand.proxy item.1 item.2).1 := by
  constructor
  · rw [mem_jobs_canSkipJob_of_mem offer.ledger.recorded (offer.offered item List.mem_cons_self)]
    exact offer.offered item List.mem_cons_self
  · rw [get?_skipJobs_canSkipJob, if_pos rfl]

theorem offered_handRetry {round : Round} {item : JobNum × List Branch}
    {rest : List (JobNum × List Branch)} {hand : Hand}
    (offer : Offered all (item :: rest) hand) :
    Offered all rest (handRetry existing round hand item) := by
  obtain ⟨submitted, verdict⟩ := judged_of_offered existing offer
  have passed := (List.nodup_cons.mp offer.once).1
  have unheld := offer.unheld item List.mem_cons_self
  rw [handRetry]
  split
  · exact offer.judge
  rename_i unskipped
  rw [Bool.eq_false_iff.mpr unskipped] at verdict
  split
  · exact offer.judge.shelve submitted verdict passed unheld item.2
  · exact offer.judge.hold submitted passed item.2

/-- A loop that parks retries: what it holds is among the jobs no more. -/
structure Parking (all : Finset JobNum) (pending : List (JobNum × List Branch)) (hand : Hand) :
    Prop extends Offered all pending hand where
  heldOut : ∀ jobNum ∈ hand.held.keys, jobNum ∉ hand.proxy.jobData.jobs.keys

namespace Parking

variable {pending rest : List (JobNum × List Branch)} {item : JobNum × List Branch} {hand : Hand}

theorem judge (parking : Parking all (item :: rest) hand) :
    Parking all rest ⟨hand.held, (canSkipJob existing hand.proxy item.1 item.2).2⟩ where
  toOffered := parking.toOffered.judge
  heldOut := by
    intro jobNum held
    rw [mem_jobs_canSkipJob_of_mem parking.ledger.recorded
      (parking.offered item List.mem_cons_self)]
    exact parking.heldOut jobNum held

/-- A job that is judged and cannot be skipped is moved from the jobs in hand. -/
theorem lift (parking : Parking all pending hand) {jobNum : JobNum}
    (submitted : jobNum ∈ hand.proxy.jobData.jobs.keys)
    (unskipped : hand.proxy.skipJobs.get? jobNum = some false)
    (passed : jobNum ∉ pending.map Prod.fst) (branches : List Branch) :
    Parking all pending
      ⟨hand.held.set jobNum branches, hand.proxy.setJobs (hand.proxy.jobData.jobs.pop jobNum)⟩ where
  ledger :=
    { covers := by
        intro other
        simp only [Proxy.setJobs, Dict.mem_keys_pop, Dict.mem_keys_set, parking.ledger.covers]
        by_cases same : other = jobNum
        · simp [same, submitted]
        · simp [same]
      recorded := Offered.recorded_pop parking.ledger.recorded unskipped
      apart := fun other member => parking.ledger.apart other (Dict.mem_keys_pop.mp member).2
      heldApart := (parking.toOffered.hold submitted passed branches).ledger.heldApart }
  once := parking.once
  offered := parking.offered_pop passed
  unheld := (parking.toOffered.hold submitted passed branches).unheld
  heldOut := by
    intro other held member
    rcases Dict.mem_keys_pop.mp member with ⟨different, earlier⟩
    rcases Dict.mem_keys_set.mp held with same | before
    · exact different same
    · exact parking.heldOut other before earlier

end Parking

theorem parking_parkRetry {item : JobNum × List Branch} {rest : List (JobNum × List Branch)}
    {hand : Hand} (parking : Parking all (item :: rest) hand) :
    Parking all rest (parkRetry existing hand item) := by
  obtain ⟨submitted, verdict⟩ := judged_of_offered existing parking.toOffered
  rw [parkRetry]
  split
  · exact parking.judge
  rename_i unskipped
  rw [Bool.eq_false_iff.mpr unskipped] at verdict
  exact parking.judge.lift submitted verdict (List.nodup_cons.mp parking.once).1 item.2

/-! ## A round of the loop -/

section Rounds

variable {settings : Settings} {round : Round} {retryJobs : Dict JobNum (List Branch)}
  {proxy : Proxy}

/-- The clock of the retries is all that its update changes. -/
theorem updateRetryReleaseClock_eq (now : ℚ) (afterRelease : Bool) (proxy : Proxy) :
    ∃ since, updateRetryReleaseClock now afterRelease proxy =
      { proxy with retryParkedSince := since } := by
  rw [updateRetryReleaseClock]
  split
  · exact ⟨none, rfl⟩
  · split
    · exact ⟨some now, rfl⟩
    · exact ⟨proxy.retryParkedSince, rfl⟩

@[simp]
theorem jobData_updateRetryReleaseClock {now : ℚ} {afterRelease : Bool} :
    (updateRetryReleaseClock now afterRelease proxy).jobData = proxy.jobData := by
  obtain ⟨since, updated⟩ := updateRetryReleaseClock_eq now afterRelease proxy
  rw [updated]

theorem Covered.updateClock (covered : Covered all ⟨Dict.empty, proxy⟩) (now : ℚ)
    (afterRelease : Bool) :
    Covered all ⟨Dict.empty, updateRetryReleaseClock now afterRelease proxy⟩ := by
  obtain ⟨since, updated⟩ := updateRetryReleaseClock_eq now afterRelease proxy
  rw [updated]
  exact ⟨covered.covers, covered.recorded⟩

namespace Conserved

theorem ledger (conserved : Conserved all proxy) : Ledger all ⟨Dict.empty, proxy⟩ where
  covers := by
    intro jobNum
    rw [← conserved.covers, JobData.mem_jobNums]
    simp
  recorded := conserved.recorded
  apart := conserved.apart
  heldApart := by simp

theorem updateClock (conserved : Conserved all proxy) (now : ℚ) (afterRelease : Bool) :
    Conserved all (updateRetryReleaseClock now afterRelease proxy) := by
  obtain ⟨since, updated⟩ := updateRetryReleaseClock_eq now afterRelease proxy
  rw [updated]
  exact ⟨conserved.covers, conserved.apart, conserved.recorded⟩

/-- Retries among the jobs can be offered. -/
theorem parking (conserved : Conserved all proxy)
    (offered : ∀ jobNum ∈ retryJobs.keys, jobNum ∈ proxy.jobData.jobs.keys) :
    Parking all retryJobs.items ⟨Dict.empty, proxy⟩ where
  ledger := conserved.ledger
  once := retryJobs.nodupKeys
  offered := fun _ member => offered _ (List.mem_map_of_mem member)
  unheld := by simp
  heldOut := by simp

end Conserved

/-- The outcomes of a `submit` that returns: a skipped round, a closed gate,
and a release. -/
theorem submit_cases {result : Proxy × Dict JobNum (List Branch)}
    (returned : submit settings existing round retryJobs proxy = .ok result) :
    let clocked := updateRetryReleaseClock round.now false proxy
    let gate := shouldSubmitCrabGroup settings round clocked
      clocked.jobData.unsubmittedJobs.size retryJobs.size
    (round.treeReadable = false ∧
        result = (parkRetries existing round.now retryJobs proxy, Dict.empty)) ∨
      (round.treeReadable = true ∧ gate = .ok false ∧
        result = (parkRetries existing round.now retryJobs clocked, Dict.empty)) ∨
      (round.treeReadable = true ∧ gate = .ok true ∧
        result = (updateRetryReleaseClock round.now true
            (lawSubmit existing round retryJobs clocked).1,
          (lawSubmit existing round retryJobs clocked).2)) := by
  intro clocked gate
  rw [submit] at returned
  cases braked : stopOnMassInitialRetry proxy retryJobs with
  | error message => simp [braked, bind, Except.bind] at returned
  | ok _ =>
      cases readable : round.treeReadable with
      | false =>
          left
          simpa [braked, readable, bind, Except.bind, pure, Except.pure, eq_comm] using returned
      | true =>
          right
          simp only [gate, clocked, jobData_updateRetryReleaseClock]
          cases opened : shouldSubmitCrabGroup settings round
              (updateRetryReleaseClock round.now false proxy)
              proxy.jobData.unsubmittedJobs.size retryJobs.size with
          | error message => simp [braked, readable, bind, Except.bind, opened] at returned
          | ok decision =>
              cases decision with
              | false =>
                  left
                  simpa [braked, readable, bind, Except.bind, pure, Except.pure, opened,
                    eq_comm] using returned
              | true =>
                  right
                  simpa [braked, readable, bind, Except.bind, pure, Except.pure, opened,
                    eq_comm] using returned

/-- Parking moves jobs from the one map to the other. -/
theorem conserved_parkRetries {now : ℚ} (conserved : Conserved all proxy)
    (offered : ∀ jobNum ∈ retryJobs.keys, jobNum ∈ proxy.jobData.jobs.keys) :
    Conserved all (parkRetries existing now retryJobs proxy) := by
  have parking : Parking all [] (retryJobs.items.foldl (parkRetry existing)
      ⟨Dict.empty, proxy⟩) :=
    run_of_remaining (Parking all) (fun _ _ _ => parking_parkRetry) (conserved.parking offered)
  rw [parkRetries]
  generalize retryJobs.items.foldl (parkRetry existing) ⟨Dict.empty, proxy⟩ = hand at parking ⊢
  cases hand with
  | mk held after =>
      by_cases none : held.items = []
      · have empty : held = Dict.empty := Dict.ext none
        rw [empty] at parking ⊢
        exact parking.ledger.conserved
      · simp only [none, if_false]
        apply Conserved.updateClock
        constructor
        · ext jobNum
          rw [JobData.mem_jobNums, parking.ledger.covers]
          simp only [Proxy.setUnsubmitted, Dict.mem_keys_update]
          exact or_congr_right or_comm
        · intro jobNum submitted waiting
          rcases Dict.mem_keys_update.mp waiting with kept | before
          · exact parking.heldOut jobNum kept submitted
          · exact parking.ledger.apart jobNum submitted before
        · exact parking.ledger.recorded

/-- law's `submit` moves jobs from the backlog to the jobs, or back. -/
theorem conserved_lawSubmit (conserved : Conserved all proxy)
    (offered : ∀ jobNum ∈ retryJobs.keys, jobNum ∈ proxy.jobData.jobs.keys) :
    Conserved all (lawSubmit existing round retryJobs proxy).1 := by
  have retried : Offered all [] (retryJobs.items.foldl (handRetry existing round)
      ⟨Dict.empty, proxy⟩) :=
    run_of_remaining (Offered all) (fun _ _ _ => offered_handRetry)
      (conserved.parking offered).toOffered
  have taken : Ledger all (lawTake existing round retryJobs proxy) :=
    List.foldlRecOn _ _ retried.ledger fun _ ledger item member =>
      ledger_takeBacklog ledger (retried.ledger.known_backlog item member)
  exact (taken.submit mem_jobs_lawSubmit).conserved

/-- `submit` loses no job and counts none twice. -/
theorem conserved_submit {result : Proxy × Dict JobNum (List Branch)}
    (conserved : Conserved all proxy)
    (offered : ∀ jobNum ∈ retryJobs.keys, jobNum ∈ proxy.jobData.jobs.keys)
    (returned : submit settings existing round retryJobs proxy = .ok result) :
    Conserved all result.1 := by
  have clocked := conserved.updateClock round.now false
  have offeredClocked : ∀ jobNum ∈ retryJobs.keys, jobNum ∈
      (updateRetryReleaseClock round.now false proxy).jobData.jobs.keys := by
    rw [jobData_updateRetryReleaseClock]
    exact offered
  rcases submit_cases returned with ⟨_, rfl⟩ | ⟨_, _, rfl⟩ | ⟨_, _, rfl⟩
  · exact conserved_parkRetries conserved offered
  · exact conserved_parkRetries clocked offeredClocked
  · exact (conserved_lawSubmit clocked offeredClocked).updateClock round.now true

/-- The round before the poll loop loses no job either. -/
theorem covered_submit {result : Proxy × Dict JobNum (List Branch)}
    (covered : Covered all ⟨Dict.empty, proxy⟩)
    (returned : submit settings existing round Dict.empty proxy = .ok result) :
    Covered all ⟨Dict.empty, result.1⟩ := by
  have clocked := covered.updateClock round.now false
  rcases submit_cases returned with ⟨_, rfl⟩ | ⟨_, _, rfl⟩ | ⟨_, _, rfl⟩
  · exact covered
  · exact clocked
  · have taken : Covered all (lawTake existing round Dict.empty
        (updateRetryReleaseClock round.now false proxy)) :=
      List.foldlRecOn _ _ clocked fun _ covered item member =>
        covered_takeBacklog covered (clocked.known_backlog item member)
    exact (taken.submit mem_jobs_lawSubmit).updateClock round.now true

end Rounds

section Loop

variable {settings : Settings} {round : Round} {rounds : List Round} {loop after : PollLoop}

/-- The retries of a round are among the jobs. -/
theorem mem_jobs_of_retryJobs {jobs : Dict JobNum Job} {jobNum : JobNum}
    (offered : jobNum ∈ (round.retryJobs jobs).keys) : jobNum ∈ jobs.keys := by
  simp only [Round.retryJobs, Dict.ofList, Dict.mem_keys_update, Dict.keys_empty, List.not_mem_nil,
    false_or, List.mem_map, List.mem_filterMap, Option.map_eq_some_iff] at offered
  rcases offered with ⟨_, ⟨asked, _, job, found, rfl⟩, rfl⟩
  exact Dict.mem_keys_of_get? found

/-- What law reports about the jobs moves none of them. -/
theorem conserved_reported {proxy : Proxy} (conserved : Conserved all proxy) :
    Conserved all (round.reported proxy) where
  covers := by
    rw [← conserved.covers]
    simp [Round.reported, JobData.jobNums]
  apart := by
    intro jobNum submitted
    simp only [Round.reported, Dict.keys_mapValues] at submitted
    exact conserved.apart jobNum submitted
  recorded := by
    intro jobNum skipped
    simp only [Round.reported, Dict.keys_mapValues]
    exact conserved.recorded jobNum skipped

/-- A round of the loop loses no job, counts none twice, and keeps the count. -/
theorem conserved_pollRound (conserved : Conserved all loop.proxy)
    (returned : pollRound settings existing loop round = .ok after) :
    Conserved all after.proxy ∧ after.nJobs = loop.nJobs := by
  rw [pollRound] at returned
  cases submitted : submit settings existing round
      (round.retryJobs (round.reported loop.proxy).jobData.jobs) (round.reported loop.proxy) with
  | error message => simp [submitted, bind, Except.bind] at returned
  | ok result =>
      simp only [submitted, bind, Except.bind, pure, Except.pure, Except.ok.injEq] at returned
      subst returned
      exact ⟨conserved_submit (conserved_reported conserved)
        (fun _ offered => mem_jobs_of_retryJobs offered) submitted, rfl⟩

/-- So do any rounds of it. -/
theorem conserved_pollRounds (conserved : Conserved all loop.proxy)
    (returned : pollRounds settings existing loop rounds = .ok after) :
    Conserved all after.proxy ∧ after.nJobs = loop.nJobs := by
  induction rounds generalizing loop with
  | nil =>
      cases returned
      exact ⟨conserved, rfl⟩
  | cons round rest ih =>
      rw [pollRounds] at returned
      cases first : pollRound settings existing loop round with
      | error message => simp [first, bind, Except.bind] at returned
      | ok middle =>
          simp only [first, bind, Except.bind] at returned
          rcases conserved_pollRound conserved first with ⟨kept, sameCount⟩
          rcases ih kept returned with ⟨final, count⟩
          exact ⟨final, count.trans sameCount⟩

end Loop

end DSProd.Crab
