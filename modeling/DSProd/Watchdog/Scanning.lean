import DSProd.Watchdog.Core

/-!
# One pass over the reported jobs

The loop of `verdicts` notes what it sees of a job while it judges the next
one.  What it notes of a job never changes a judgement of the same pass, so the
stale jobs are those of the state the pass starts from, one job at a time.
-/

namespace DSProd.Watchdog

open DSProd.Library

variable {dog : Watchdog} {ages : Dict String ℚ} {now seen : ℚ}

/-! ## The judgement of one job -/

theorem knownRunning_eq_some_iff {item : JobId × StatusEntry} {job : JobNum × List Branch} :
    knownRunning dog item = some job ↔
      item.2.status = .running ∧ dog.byId.get? (keyOf item.1) = some job := by
  unfold knownRunning
  split <;> simp_all

/-- The judgement of a job, from the state before the pass. -/
def staleOf (dog : Watchdog) (ages : Dict String ℚ) (now seen : ℚ) (item : JobId × StatusEntry) :
    Option Stale :=
  match knownRunning dog item with
  | none => none
  | some (jobNum, branches) =>
      match ageOf dog ages (keyOf item.1) branches now seen with
      | some seconds =>
          if staleSeconds dog.cfg ≤ seconds then some ⟨item.1, jobNum, branches, some seconds⟩
          else none
      | none =>
          if keyOf item.1 ∉ dog.seenFlag ∧
              staleSeconds dog.cfg + intervalSeconds dog.cfg ≤
                now - dog.firstRunning.getD (keyOf item.1) now then
            some ⟨item.1, jobNum, branches, none⟩
          else none

theorem isSome_knownRunning {item : JobId × StatusEntry}
    (judged : (staleOf dog ages now seen item).isSome = true) :
    (knownRunning dog item).isSome = true := by
  unfold staleOf at judged
  cases known : knownRunning dog item with
  | none => simp [known] at judged
  | some job => rfl

theorem getD_setdefault {K V : Type} [DecidableEq K] (dict : Dict K V) (key other : K)
    (default : V) :
    (dict.setdefault key default).getD other default = dict.getD other default := by
  simp only [Dict.getD, Dict.get?_setdefault]
  by_cases same : other = key
  · subst same
    simp
  · simp [same]

@[simp]
theorem cfg_scanJob (scan : Scan) (item : JobId × StatusEntry) :
    (scanJob ages now seen scan item).dog.cfg = scan.dog.cfg := by
  unfold scanJob
  split
  · rfl
  · dsimp only
    split <;> rfl

@[simp]
theorem byId_scanJob (scan : Scan) (item : JobId × StatusEntry) :
    (scanJob ages now seen scan item).dog.byId = scan.dog.byId := by
  unfold scanJob
  split
  · rfl
  · dsimp only
    split <;> rfl

@[simp]
theorem knownRunning_scanJob (scan : Scan) (item other : JobId × StatusEntry) :
    knownRunning (scanJob ages now seen scan item).dog other = knownRunning scan.dog other := by
  simp only [knownRunning, byId_scanJob]

@[simp]
theorem getD_firstSeen_scanJob (scan : Scan) (item : JobId × StatusEntry) (key : Key) :
    (scanJob ages now seen scan item).dog.firstSeen.getD key seen =
      scan.dog.firstSeen.getD key seen := by
  unfold scanJob
  split
  · rfl
  · dsimp only
    split <;> exact getD_setdefault _ _ _ _

@[simp]
theorem getD_firstRunning_scanJob (scan : Scan) (item : JobId × StatusEntry) (key : Key) :
    (scanJob ages now seen scan item).dog.firstRunning.getD key now =
      scan.dog.firstRunning.getD key now := by
  unfold scanJob
  split
  · rfl
  · dsimp only
    split <;> exact getD_setdefault _ _ _ _

@[simp]
theorem ageOf_scanJob (scan : Scan) (item : JobId × StatusEntry) (key : Key)
    (branches : List Branch) :
    ageOf (scanJob ages now seen scan item).dog ages key branches now seen =
      ageOf scan.dog ages key branches now seen := by
  simp only [ageOf, getD_firstSeen_scanJob]

theorem ageOf_sight (key other : Key) (branches : List Branch) :
    ageOf (dog.sight key now seen) ages other branches now seen =
      ageOf dog ages other branches now seen := by
  simp only [ageOf, sight, getD_setdefault]

/-- A flag is remembered when it was, or when the job is judged by its age. -/
theorem mem_seenFlag_scanJob (scan : Scan) (item : JobId × StatusEntry) (key : Key) :
    key ∈ (scanJob ages now seen scan item).dog.seenFlag ↔ key ∈ scan.dog.seenFlag ∨
      keyOf item.1 = key ∧ ∃ job, knownRunning scan.dog item = some job ∧
        (ageOf scan.dog ages key job.2 now seen).isSome = true := by
  unfold scanJob
  cases known : knownRunning scan.dog item with
  | none => simp
  | some job =>
      dsimp only
      rw [ageOf_sight]
      by_cases same : keyOf item.1 = key
      · subst same
        cases flag : ageOf scan.dog ages (keyOf item.1) job.2 now seen with
        | none => simp [sight, flag]
        | some seconds => simp [sight, flag, or_comm]
      · have other : key ≠ keyOf item.1 := Ne.symm same
        cases flag : ageOf scan.dog ages (keyOf item.1) job.2 now seen <;>
          simp [sight, same, other]

/-- What one job leaves behind does not change the judgement of another. -/
theorem staleOf_scanJob (scan : Scan) (item other : JobId × StatusEntry) :
    staleOf (scanJob ages now seen scan item).dog ages now seen other =
      staleOf scan.dog ages now seen other := by
  unfold staleOf
  rw [knownRunning_scanJob]
  cases known : knownRunning scan.dog other with
  | none => rfl
  | some job =>
      dsimp only
      rw [ageOf_scanJob, cfg_scanJob, getD_firstRunning_scanJob]
      cases flag : ageOf scan.dog ages (keyOf other.1) job.2 now seen with
      | some seconds => rfl
      | none =>
          dsimp only
          have remembered : keyOf other.1 ∈ (scanJob ages now seen scan item).dog.seenFlag ↔
              keyOf other.1 ∈ scan.dog.seenFlag := by
            rw [mem_seenFlag_scanJob]
            constructor
            · rintro (already | ⟨same, knownJob, knownItem, flagged⟩)
              · exact already
              · have sameJob : knownJob = job := by
                  rw [knownRunning_eq_some_iff] at known knownItem
                  rw [same, known.2] at knownItem
                  exact (Option.some.inj knownItem.2).symm
                rw [sameJob, flag] at flagged
                cases flagged
            · exact Or.inl
          simp only [remembered]

theorem running_scanJob (scan : Scan) (item : JobId × StatusEntry) :
    (scanJob ages now seen scan item).running =
      scan.running ++ if (knownRunning scan.dog item).isSome then [item.1] else [] := by
  unfold scanJob
  cases known : knownRunning scan.dog item with
  | none => simp
  | some job =>
      dsimp only
      split <;> rfl

theorem stale_scanJob (scan : Scan) (item : JobId × StatusEntry) :
    (scanJob ages now seen scan item).stale =
      scan.stale ++ (staleOf scan.dog ages now seen item).toList := by
  unfold scanJob staleOf
  cases known : knownRunning scan.dog item with
  | none => simp
  | some job =>
      dsimp only
      rw [ageOf_sight]
      cases flag : ageOf scan.dog ages (keyOf item.1) job.2 now seen with
      | some seconds =>
          by_cases old : (staleSeconds scan.dog.cfg : ℚ) ≤ seconds <;> simp [sight, old]
      | none =>
          simp only [sight, getD_setdefault]
          split <;> simp

/-- A job that is reported running and known has been sighted. -/
theorem mem_keys_firstSeen_scanJob (scan : Scan) (item : JobId × StatusEntry) (key : Key) :
    key ∈ (scanJob ages now seen scan item).dog.firstSeen.keys ↔
      key ∈ scan.dog.firstSeen.keys ∨
        keyOf item.1 = key ∧ (knownRunning scan.dog item).isSome = true := by
  unfold scanJob
  cases known : knownRunning scan.dog item with
  | none => simp
  | some job =>
      dsimp only
      split <;> simp [sight, Dict.mem_keys_setdefault, or_comm, eq_comm]

/-- Both clocks of a job start in the same pass. -/
theorem mem_keys_firstRunning_scanJob (scan : Scan) (item : JobId × StatusEntry) (key : Key) :
    key ∈ (scanJob ages now seen scan item).dog.firstRunning.keys ↔
      key ∈ scan.dog.firstRunning.keys ∨
        keyOf item.1 = key ∧ (knownRunning scan.dog item).isSome = true := by
  unfold scanJob
  cases known : knownRunning scan.dog item with
  | none => simp
  | some job =>
      dsimp only
      split <;> simp [sight, Dict.mem_keys_setdefault, or_comm, eq_comm]

/-! ## The pass -/

/-- What a pass leaves of the fields it reads. -/
structure Passed (ages : Dict String ℚ) (now seen : ℚ) (items : List (JobId × StatusEntry))
    (scan after : Scan) : Prop where
  cfg : after.dog.cfg = scan.dog.cfg
  byId : after.dog.byId = scan.dog.byId
  listing : after.dog.listing = scan.dog.listing
  perBranch : after.dog.perBranch = scan.dog.perBranch
  issued : after.dog.issuedThisInterval = scan.dog.issuedThisInterval
  firstSeen : ∀ key, after.dog.firstSeen.getD key seen = scan.dog.firstSeen.getD key seen
  firstRunning : ∀ key, after.dog.firstRunning.getD key now = scan.dog.firstRunning.getD key now
  seenKeys : ∀ key, key ∈ after.dog.firstSeen.keys ↔ key ∈ scan.dog.firstSeen.keys ∨
    ∃ item ∈ items, keyOf item.1 = key ∧ (knownRunning scan.dog item).isSome = true
  runningKeys : ∀ key, key ∈ after.dog.firstRunning.keys ↔ key ∈ scan.dog.firstRunning.keys ∨
    ∃ item ∈ items, keyOf item.1 = key ∧ (knownRunning scan.dog item).isSome = true
  seenFlag : ∀ key, key ∈ after.dog.seenFlag ↔ key ∈ scan.dog.seenFlag ∨
    ∃ item ∈ items, keyOf item.1 = key ∧ ∃ job, knownRunning scan.dog item = some job ∧
      (ageOf scan.dog ages key job.2 now seen).isSome = true
  running : after.running =
    scan.running ++ (items.filter fun item => (knownRunning scan.dog item).isSome).map Prod.fst
  stale : after.stale = scan.stale ++ items.filterMap (staleOf scan.dog ages now seen)

theorem passed_scanJob (ages : Dict String ℚ) (now seen : ℚ) (scan : Scan)
    (item : JobId × StatusEntry) :
    Passed ages now seen [item] scan (scanJob ages now seen scan item) := by
  constructor
  case cfg => exact cfg_scanJob scan item
  case byId => exact byId_scanJob scan item
  case listing | perBranch | issued =>
    unfold scanJob
    split
    · rfl
    · dsimp only
      split <;> rfl
  case firstSeen => exact getD_firstSeen_scanJob scan item
  case firstRunning => exact getD_firstRunning_scanJob scan item
  case seenKeys => simp [mem_keys_firstSeen_scanJob]
  case runningKeys => simp [mem_keys_firstRunning_scanJob]
  case seenFlag => simp [mem_seenFlag_scanJob]
  case running =>
    rw [running_scanJob]
    split <;> simp_all
  case stale =>
    rw [stale_scanJob]
    cases judged : staleOf scan.dog ages now seen item <;> simp [judged]

theorem passed_foldl (items : List (JobId × StatusEntry)) (scan : Scan) :
    Passed ages now seen items scan (items.foldl (scanJob ages now seen) scan) := by
  induction items generalizing scan with
  | nil => constructor <;> simp
  | cons item rest ih =>
      have one := passed_scanJob ages now seen scan item
      have others := ih (scanJob ages now seen scan item)
      have sameAge : ∀ key branches,
          ageOf (scanJob ages now seen scan item).dog ages key branches now seen =
            ageOf scan.dog ages key branches now seen := ageOf_scanJob scan item
      constructor
      case cfg => exact others.cfg.trans one.cfg
      case byId => exact others.byId.trans one.byId
      case listing => exact others.listing.trans one.listing
      case perBranch => exact others.perBranch.trans one.perBranch
      case issued => exact others.issued.trans one.issued
      case firstSeen => exact fun key => (others.firstSeen key).trans (one.firstSeen key)
      case firstRunning => exact fun key => (others.firstRunning key).trans (one.firstRunning key)
      case seenKeys =>
        intro key
        rw [List.foldl_cons, others.seenKeys, one.seenKeys]
        simp [or_assoc]
      case runningKeys =>
        intro key
        rw [List.foldl_cons, others.runningKeys, one.runningKeys]
        simp [or_assoc]
      case seenFlag =>
        intro key
        rw [List.foldl_cons, others.seenFlag, one.seenFlag]
        simp [or_assoc]
      case running =>
        rw [List.foldl_cons, others.running, one.running]
        simp [List.filter_cons]
        split <;> simp
      case stale =>
        have sameStale : staleOf (scanJob ages now seen scan item).dog ages now seen =
            staleOf scan.dog ages now seen := by
          funext other
          exact staleOf_scanJob scan item other
        rw [List.foldl_cons, others.stale, one.stale, sameStale, List.append_assoc,
          ← List.filterMap_append, List.singleton_append]

theorem passed_scanJobs (ages : Dict String ℚ) (now seen : ℚ) (dog : Watchdog)
    (items : List (JobId × StatusEntry)) :
    Passed ages now seen items ⟨dog, [], []⟩ (scanJobs dog ages now seen items) :=
  passed_foldl items _

/-! ## Verdicts -/

/-- Issuing verdicts counts them, and changes nothing else. -/
theorem issue_state (dog : Watchdog) (out : Dict JobId String) (stale : List Stale) :
    ∃ perBranch issued, (issue dog out stale).2 =
      { dog with perBranch := perBranch, issuedThisInterval := issued } := by
  induction stale generalizing dog out with
  | nil => exact ⟨dog.perBranch, dog.issuedThisInterval, rfl⟩
  | cons first rest ih =>
      unfold issue
      split
      · exact ⟨dog.perBranch, dog.issuedThisInterval, rfl⟩
      split
      · exact ih dog out
      split
      · exact ih dog out
      · rcases ih { dog with
            perBranch := chargeBranches dog.perBranch first.branches
            issuedThisInterval := dog.issuedThisInterval + 1 }
          (out.set first.jobId (reason dog.cfg first)) with ⟨perBranch, issued, same⟩
        exact ⟨perBranch, issued, same⟩

/-- Only stale jobs get a verdict. -/
theorem mem_keys_issue {dog : Watchdog} {out : Dict JobId String} {stale : List Stale}
    {jobId : JobId} (named : jobId ∈ (issue dog out stale).1.keys) :
    jobId ∈ out.keys ∨ ∃ job ∈ stale, job.jobId = jobId := by
  induction stale generalizing dog out with
  | nil => exact Or.inl named
  | cons first rest ih =>
      have later :
          (∃ job ∈ rest, job.jobId = jobId) → ∃ job ∈ first :: rest, job.jobId = jobId := by
        rintro ⟨job, member, same⟩
        exact ⟨job, List.mem_cons_of_mem _ member, same⟩
      unfold issue at named
      split at named
      · exact Or.inl named
      split at named
      · exact (ih named).imp_right later
      split at named
      · exact (ih named).imp_right later
      · rcases ih named with old | new
        · rcases Dict.mem_keys_set.mp old with same | old
          · exact Or.inr ⟨first, List.mem_cons_self, same.symm⟩
          · exact Or.inl old
        · exact Or.inr (later new)

theorem decideScan_state (scan : Scan) :
    ∃ perBranch issued, (decideScan scan).2 =
      { scan.dog with perBranch := perBranch, issuedThisInterval := issued } := by
  unfold decideScan
  split
  · exact ⟨scan.dog.perBranch, scan.dog.issuedThisInterval, rfl⟩
  · exact issue_state _ _ _

@[simp]
theorem mem_inOrder {stale : List Stale} {job : Stale} : job ∈ inOrder stale ↔ job ∈ stale :=
  List.mem_insertionSort _

@[simp]
theorem inOrder_eq_nil_iff {stale : List Stale} : inOrder stale = [] ↔ stale = [] := by
  simp only [List.eq_nil_iff_forall_not_mem, mem_inOrder]

/-- A job that gets a verdict is stale in the state before the call. -/
theorem stale_of_mem_keys_verdicts {result : Dict JobId StatusEntry} {time : Option ℚ} {clock : ℚ}
    {jobId : JobId} (named : jobId ∈ (dog.verdicts result time clock).1.keys) :
    ∃ listing, dog.listing = some listing ∧ ∃ item ∈ result.items, item.1 = jobId ∧
      (staleOf dog listing.ages (time.getD listing.listedAt) (time.getD clock) item).isSome =
        true := by
  unfold verdicts at named
  split at named
  · simp at named
  cases inForce : dog.listing with
  | none => simp [inForce] at named
  | some listing =>
      rw [inForce] at named
      dsimp only at named
      have passed := passed_scanJobs listing.ages (time.getD listing.listedAt)
        (time.getD clock) dog result.items
      unfold decideScan at named
      split at named
      · simp at named
      rcases mem_keys_issue named with impossible | ⟨job, member, same⟩
      · simp at impossible
      · rw [mem_inOrder, passed.stale, List.nil_append, List.mem_filterMap] at member
        rcases member with ⟨item, itemMem, judged⟩
        have sameJob : item.1 = job.jobId := by
          unfold staleOf at judged
          split at judged
          · cases judged
          · split at judged <;> split at judged <;> cases judged <;> rfl
        exact ⟨listing, rfl, item, itemMem, sameJob.trans same, by rw [judged]; rfl⟩

/-- The state after a call: that of a pass, up to the counts of verdicts. -/
theorem verdicts_state (enabled : dog.cfg.enabled = true) {listing : Listing}
    (inForce : dog.listing = some listing) (result : Dict JobId StatusEntry) (time : Option ℚ)
    (clock : ℚ) :
    ∃ scan perBranch issued,
      Passed listing.ages (time.getD listing.listedAt) (time.getD clock) result.items
        ⟨dog, [], []⟩ scan ∧
      (dog.verdicts result time clock).2 =
        { scan.dog with perBranch := perBranch, issuedThisInterval := issued } := by
  simp only [verdicts, enabled, Bool.not_true, Bool.false_eq_true, if_false, inForce]
  rcases decideScan_state (scanJobs dog listing.ages (time.getD listing.listedAt)
    (time.getD clock) result.items) with ⟨perBranch, issued, same⟩
  exact ⟨_, perBranch, issued, passed_scanJobs _ _ _ dog result.items, same⟩

/-- Without a listing in force a call does nothing. -/
theorem verdicts_of_idle (idle : dog.cfg.enabled = false ∨ dog.listing = none)
    (result : Dict JobId StatusEntry) (time : Option ℚ) (clock : ℚ) :
    dog.verdicts result time clock = (Dict.empty, dog) := by
  unfold verdicts
  rcases idle with disabled | noListing
  · simp [disabled]
  · simp [noListing]

/-! ## Settings over a run -/

theorem cfg_apply (dog : Watchdog) (op : Op) : (dog.apply op).cfg = dog.cfg := by
  cases op with
  | setJobs jobs => rfl
  | refresh time clock entries =>
      simp only [apply, refresh]
      split
      · rfl
      · cases entries <;> rfl
  | forget jobId => rfl
  | verdicts result time clock =>
      cases enabled : dog.cfg.enabled with
      | false => simp only [apply, verdicts_of_idle (Or.inl enabled)]
      | true =>
          cases inForce : dog.listing with
          | none => simp only [apply, verdicts_of_idle (Or.inr inForce)]
          | some listing =>
              rcases verdicts_state enabled inForce result time clock with
                ⟨scan, perBranch, issued, passed, after⟩
              simp only [apply, after]
              exact passed.cfg

theorem cfg_run (dog : Watchdog) (ops : List Op) : (run apply dog ops).cfg = dog.cfg := by
  induction ops generalizing dog with
  | nil => rfl
  | cons op rest ih => rw [run_cons, ih, cfg_apply]

end DSProd.Watchdog
