import DSProd.Watchdog.Scanning
import Mathlib.Tactic.Linarith

/-!
# The budgets of the watchdog

A verdict costs a branch one of its attempts, so verdicts are rationed: so many
between two refreshes, and so many on the jobs of one branch in a whole run.
Each verdict is paid for when it is issued, by both counters, and neither is
ever paid back except at a refresh; so what the counters say bounds what was
named, whatever else is called in between.
-/

namespace DSProd.Watchdog

open DSProd.Library

variable {dog : Watchdog} {cfg : Config} {branch : Branch}

/-! ## Paying for a verdict -/

/-- The watchdog after one verdict. -/
def spend (dog : Watchdog) (stale : Stale) : Watchdog :=
  { dog with
    perBranch := chargeBranches dog.perBranch stale.branches
    issuedThisInterval := dog.issuedThisInterval + 1 }

/-- A verdict is issued only while neither budget is spent, and in earnest. -/
structure Affordable (dog : Watchdog) (stale : Stale) : Prop where
  interval : (dog.issuedThisInterval : ℤ) < dog.cfg.maxPerInterval
  branches : (repeats dog stale.branches : ℤ) < dog.cfg.maxPerBranch
  earnest : dog.cfg.dryRun = false

/-- The verdicts of a loop over stale jobs: some of the jobs, in order, each
affordable when it is named. -/
structure Named (dog : Watchdog) (stale named : List Stale) (out : Dict JobId String)
    (result : Dict JobId String × Watchdog) : Prop where
  among : named.Sublist stale
  keys : result.1.keys = out.keys ++ named.map Stale.jobId
  state : result.2 = run spend dog named
  affordable : Along spend Affordable dog named

theorem named_issue (dog : Watchdog) (out : Dict JobId String) (stale : List Stale)
    (distinct : (stale.map Stale.jobId).Nodup) (fresh : ∀ job ∈ stale, job.jobId ∉ out.keys) :
    ∃ named, Named dog stale named out (issue dog out stale) := by
  induction stale generalizing dog out with
  | nil => exact ⟨[], List.Sublist.refl [], by simp [issue], rfl, trivial⟩
  | cons first rest ih =>
      rw [List.map_cons, List.nodup_cons] at distinct
      have later : ∀ job ∈ rest, job.jobId ∉ out.keys := fun job member =>
        fresh job (List.mem_cons_of_mem first member)
      have passedBy : (∃ named, Named dog rest named out (issue dog out rest)) →
          ∃ named, Named dog (first :: rest) named out (issue dog out rest) := by
        rintro ⟨named, spec⟩
        exact ⟨named, spec.among.cons first, spec.keys, spec.state, spec.affordable⟩
      rw [issue]
      split
      · exact ⟨[], List.nil_sublist _, by simp, rfl, trivial⟩
      rename_i within
      split
      · exact passedBy (ih dog out distinct.2 later)
      rename_i below
      split
      · exact passedBy (ih dog out distinct.2 later)
      rename_i earnest
      have absent := fresh first List.mem_cons_self
      have stillFresh : ∀ job ∈ rest,
          job.jobId ∉ (out.set first.jobId (reason dog.cfg first)).keys := by
        intro job member
        rw [Dict.mem_keys_set, not_or]
        constructor
        · intro same
          exact distinct.1 (List.mem_map.mpr ⟨job, member, same⟩)
        · exact later job member
      obtain ⟨named, spec⟩ := ih (dog.spend first) _ distinct.2 stillFresh
      refine ⟨first :: named, spec.among.cons_cons first, ?_, spec.state, ?_, spec.affordable⟩
      · have keys := spec.keys
        rw [Dict.keys_set, if_neg absent, List.append_assoc, List.singleton_append] at keys
        exact keys
      · exact ⟨not_le.mp within, not_le.mp below, Bool.eq_false_iff.mpr earnest⟩

/-- A stale job is the reported job it was judged from, with the branches the
watchdog knows for it. -/
theorem eq_of_staleOf_eq_some {ages : Dict String ℚ} {now seen : ℚ}
    {item : JobId × StatusEntry} {stale : Stale}
    (judged : staleOf dog ages now seen item = some stale) :
    stale.jobId = item.1 ∧ knownRunning dog item = some (stale.jobNum, stale.branches) := by
  rw [staleOf] at judged
  cases known : knownRunning dog item with
  | none => simp [known] at judged
  | some job =>
      simp only [known] at judged
      split at judged <;> split at judged <;> cases judged <;> exact ⟨rfl, rfl⟩

/-- Stale jobs have the job ids of what they were judged from, in that order. -/
theorem sublist_map_jobId (ages : Dict String ℚ) (now seen : ℚ)
    (items : List (JobId × StatusEntry)) :
    ((items.filterMap (staleOf dog ages now seen)).map Stale.jobId).Sublist
      (items.map Prod.fst) := by
  induction items with
  | nil => exact List.Sublist.refl []
  | cons item rest ih =>
      cases judged : staleOf dog ages now seen item with
      | none =>
          rw [List.filterMap_cons_none judged]
          exact ih.cons item.1
      | some stale =>
          rw [List.filterMap_cons_some judged, List.map_cons, List.map_cons,
            (eq_of_staleOf_eq_some judged).1]
          exact ih.cons_cons item.1

theorem perm_inOrder (stale : List Stale) : (inOrder stale).Perm stale :=
  List.perm_insertionSort _ stale

/-- What a call of `verdicts` issues: verdicts on known jobs that are reported
running, paid for from the budgets it finds. -/
structure Issued (dog : Watchdog) (result : Dict JobId StatusEntry)
    (outcome : Dict JobId String × Watchdog) (base : Watchdog) (named : List Stale) : Prop where
  cfg : base.cfg = dog.cfg
  perBranch : base.perBranch = dog.perBranch
  issued : base.issuedThisInterval = dog.issuedThisInterval
  keys : outcome.1.keys = named.map Stale.jobId
  state : outcome.2 = run spend base named
  affordable : Along spend Affordable base named
  running : ∀ job ∈ named, ∃ entry, result.get? job.jobId = some entry ∧ entry.status = .running
  known : ∀ job ∈ named, dog.byId.get? (keyOf job.jobId) = some (job.jobNum, job.branches)
  awake : named ≠ [] → dog.cfg.enabled = true ∧ dog.listing ≠ none

theorem issued_verdicts (dog : Watchdog) (result : Dict JobId StatusEntry) (time : Option ℚ)
    (clock : ℚ) :
    ∃ base named, Issued dog result (dog.verdicts result time clock) base named := by
  have silent : ∀ base : Watchdog, base.cfg = dog.cfg → base.perBranch = dog.perBranch →
      base.issuedThisInterval = dog.issuedThisInterval →
      Issued dog result (Dict.empty, base) base [] := by
    intro base cfg perBranch issued
    constructor <;> simp [cfg, perBranch, issued]
  cases enabled : dog.cfg.enabled with
  | false =>
      rw [verdicts_of_idle (Or.inl enabled)]
      exact ⟨dog, [], silent dog rfl rfl rfl⟩
  | true =>
  cases inForce : dog.listing with
  | none =>
      rw [verdicts_of_idle (Or.inr inForce)]
      exact ⟨dog, [], silent dog rfl rfl rfl⟩
  | some listing =>
      let now := time.getD listing.listedAt
      let seen := time.getD clock
      let scan := scanJobs dog listing.ages now seen result.items
      have passed : Passed listing.ages now seen result.items ⟨dog, [], []⟩ scan :=
        passed_scanJobs listing.ages now seen dog result.items
      have staleEq : scan.stale = result.items.filterMap (staleOf dog listing.ages now seen) := by
        rw [passed.stale, List.nil_append]
      have distinct : ((inOrder scan.stale).map Stale.jobId).Nodup := by
        rw [((perm_inOrder scan.stale).map Stale.jobId).nodup_iff, staleEq]
        exact result.nodupKeys.sublist (sublist_map_jobId _ _ _ _)
      obtain ⟨named, spec⟩ := named_issue scan.dog Dict.empty (inOrder scan.stale) distinct
        (by simp)
      have judged : ∀ job ∈ named, ∃ item ∈ result.items,
          staleOf dog listing.ages now seen item = some job := by
        intro job member
        have stale := mem_inOrder.mp (spec.among.subset member)
        rwa [staleEq, List.mem_filterMap] at stale
      have outcome : dog.verdicts result time clock = decideScan scan := by
        simp only [verdicts, enabled, inForce, Bool.not_true, Bool.false_eq_true, if_false]
        rfl
      rw [outcome, decideScan]
      split
      · exact ⟨scan.dog, [], silent scan.dog passed.cfg passed.perBranch passed.issued⟩
      refine ⟨scan.dog, named, passed.cfg, passed.perBranch, passed.issued, ?_, spec.state,
        spec.affordable, ?_, ?_, fun _ => ⟨enabled, by simp [inForce]⟩⟩
      · rw [spec.keys, Dict.keys_empty, List.nil_append]
      · intro job member
        obtain ⟨item, itemMem, isStale⟩ := judged job member
        obtain ⟨sameJob, known⟩ := eq_of_staleOf_eq_some isStale
        apply Exists.intro item.2
        constructor
        · rw [sameJob, Dict.get?_eq_some_iff]
          exact itemMem
        · exact (knownRunning_eq_some_iff.mp known).1
      · intro job member
        obtain ⟨item, itemMem, isStale⟩ := judged job member
        obtain ⟨sameJob, known⟩ := eq_of_staleOf_eq_some isStale
        rw [sameJob]
        exact (knownRunning_eq_some_iff.mp known).2

/-! ## What the counters say -/

theorem getD_chargeBranches (perBranch : Dict Branch Nat) (branches : List Branch)
    (branch : Branch) :
    (chargeBranches perBranch branches).getD branch 0 =
      perBranch.getD branch 0 + branches.count branch := by
  induction branches generalizing perBranch with
  | nil => rfl
  | cons first rest ih =>
      have step : chargeBranches perBranch (first :: rest) =
          chargeBranches (perBranch.set first (perBranch.getD first 0 + 1)) rest := rfl
      rw [step, ih, Dict.getD, Dict.get?_set]
      by_cases same : branch = first
      · subst same
        simp [Dict.getD]
        omega
      · simp [same, Ne.symm same, Dict.getD]

/-- The cap on a job compares with its most charged branch. -/
theorem getD_le_repeats {branches : List Branch} (among : branch ∈ branches) :
    dog.perBranch.getD branch 0 ≤ repeats dog branches := by
  have grows : ∀ (values : List Nat) (start : Nat), start ≤ values.foldl max start ∧
      ∀ value ∈ values, value ≤ values.foldl max start := by
    intro values
    induction values with
    | nil => simp
    | cons first rest ih =>
        intro start
        obtain ⟨least, all⟩ := ih (max start first)
        constructor
        · exact (le_max_left start first).trans least
        · intro value member
          rcases List.mem_cons.mp member with rfl | later
          · exact (le_max_right start value).trans least
          · exact all value later
  exact (grows _ 0).2 _ (List.mem_map_of_mem among)

/-- The interval counter counts the verdicts. -/
theorem issued_run_spend (dog : Watchdog) (named : List Stale) :
    (run spend dog named).issuedThisInterval = dog.issuedThisInterval + named.length := by
  induction named generalizing dog with
  | nil => rfl
  | cons first rest ih =>
      rw [run_cons, ih, List.length_cons]
      simp only [spend]
      omega

/-- Affordable verdicts leave the interval counter within its budget. -/
theorem issued_le_of_affordable (named : List Stale) (affordable : Along spend Affordable dog named)
    (within : (dog.issuedThisInterval : ℤ) ≤ max 0 dog.cfg.maxPerInterval) :
    ((run spend dog named).issuedThisInterval : ℤ) ≤ max 0 dog.cfg.maxPerInterval := by
  induction named generalizing dog with
  | nil => exact within
  | cons first rest ih =>
      obtain ⟨first, others⟩ := affordable
      apply ih others
      have spare := first.interval
      simp only [spend]
      push_cast
      omega

/-- How often a branch was named is bounded by its counter, and by its budget. -/
structure WithinBranchBudget (branch : Branch) (count : Nat) (dog : Watchdog) : Prop where
  counted : count ≤ dog.perBranch.getD branch 0
  budget : (count : ℤ) ≤ max 0 dog.cfg.maxPerBranch

theorem WithinBranchBudget.mono {count fewer : Nat} (within : WithinBranchBudget branch count dog)
    (least : fewer ≤ count) : WithinBranchBudget branch fewer dog := by
  constructor
  · exact least.trans within.counted
  · exact (Int.ofNat_le.mpr least).trans within.budget

theorem withinBranchBudget_run_spend (named : List Stale) {count : Nat}
    (affordable : Along spend Affordable dog named)
    (within : WithinBranchBudget branch count dog) :
    WithinBranchBudget branch (count + named.countP fun job => branch ∈ job.branches)
      (run spend dog named) := by
  induction named generalizing dog count with
  | nil => exact within
  | cons first rest ih =>
      obtain ⟨paid, others⟩ := affordable
      rw [run_cons, List.countP_cons]
      have charged := getD_chargeBranches dog.perBranch first.branches branch
      by_cases among : branch ∈ first.branches
      · have step : WithinBranchBudget branch (count + 1) (dog.spend first) := by
          have counted := within.counted
          have occurs := List.count_pos_iff.mpr among
          have least : dog.perBranch.getD branch 0 ≤ repeats dog first.branches :=
            getD_le_repeats among
          have spare := paid.branches
          constructor
          · simp only [spend, charged]
            omega
          · simp only [spend]
            omega
        have after := ih others step
        simp only [among, decide_true, if_true]
        rwa [Nat.add_right_comm, Nat.add_assoc] at after
      · have step : WithinBranchBudget branch count (dog.spend first) := by
          constructor
          · simp only [spend, charged]
            exact within.counted.trans (Nat.le_add_right _ _)
          · exact within.budget
        simpa [among] using ih others step

/-! ## Runs -/

/-- The jobs a call names. -/
def named (dog : Watchdog) : Op → List JobId
  | .verdicts result now clock => (dog.verdicts result now clock).1.keys
  | _ => []

/-- The branches the watchdog knows a job for. -/
def branchesOf (dog : Watchdog) (jobId : JobId) : List Branch :=
  (dog.byId.get? (keyOf jobId)).elim [] Prod.snd

/-- The jobs a call names, each with the branches it is known for. -/
def naming (dog : Watchdog) (op : Op) : List (JobId × List Branch) :=
  (named dog op).map fun jobId => (jobId, branchesOf dog jobId)

/-- The jobs a run of calls names, each with the branches it was known for. -/
def namings (dog : Watchdog) (ops : List Op) : List (JobId × List Branch) :=
  emitted apply naming dog ops

/-- The call is a refresh. -/
def Op.isRefresh : Op → Bool
  | .refresh _ _ _ => true
  | _ => false

/-- What the latest refresh got, if there was one and its listing worked. -/
def lastListing (ops : List Op) : Option (List FlagEntry) :=
  ops.foldl (fun last op =>
    match op with
    | .refresh _ _ entries => entries
    | _ => last) none

/-- What the latest `setJobs` said. -/
def lastJobs (ops : List Op) : Dict JobNum JobDataEntry :=
  ops.foldl (fun last op =>
    match op with
    | .setJobs jobs => jobs
    | _ => last) Dict.empty

/-- Some job data have an entry for a job, with some branches. -/
def KnownTo (jobs : Dict JobNum JobDataEntry) (jobId : JobId) (branches : List Branch) : Prop :=
  ∃ entry ∈ jobs.values, entry.jobId.map keyOf = some (keyOf jobId) ∧ entry.branches = branches

/-- The promise about a run of calls: what it names keeps to both budgets, and
it names only jobs that are known and reported running, in earnest, on the
evidence of the latest listing.  A negative budget is none. -/
structure Budgeted (cfg : Config) (ops : List Op) : Prop where
  interval : ∀ before during after, ops = before ++ during ++ after →
    (∀ op ∈ during, op.isRefresh = false) →
    (namings (run apply (new cfg) before) during).length ≤ cfg.maxPerInterval.toNat
  branches : ∀ branch,
    ((namings (new cfg) ops).countP fun job => branch ∈ job.2) ≤ cfg.maxPerBranch.toNat
  silent : ∀ before op after, ops = before ++ op :: after →
    (cfg.dryRun = true ∨ cfg.enabled = false ∨ lastListing before = none) →
    named (run apply (new cfg) before) op = []
  running : ∀ before result now clock after, ops = before ++ .verdicts result now clock :: after →
    ∀ job ∈ naming (run apply (new cfg) before) (.verdicts result now clock),
      (∃ entry, result.get? job.1 = some entry ∧ entry.status = .running) ∧
        KnownTo (lastJobs before) job.1 job.2

/-- Nothing is named in a dry run, by a watchdog that is off, without a listing,
or without a budget. -/
theorem named_eq_nil {op : Op}
    (idle : dog.cfg.dryRun = true ∨ dog.cfg.enabled = false ∨ dog.listing = none ∨
      dog.cfg.maxPerInterval ≤ 0) : named dog op = [] := by
  cases op with
  | setJobs | refresh | forget => rfl
  | verdicts result time clock =>
      obtain ⟨base, stale, issued⟩ := issued_verdicts dog result time clock
      rw [named, issued.keys]
      cases stale with
      | nil => rfl
      | cons first rest =>
          obtain ⟨enabled, inForce⟩ := issued.awake (List.cons_ne_nil first rest)
          have affordable := issued.affordable.1
          have spare := affordable.interval
          have earnest := affordable.earnest
          rw [issued.cfg] at spare earnest
          rcases idle with dry | disabled | unlisted | budget
          · exact absurd (earnest.symm.trans dry) Bool.false_ne_true
          · exact absurd (disabled.symm.trans enabled) Bool.false_ne_true
          · exact absurd unlisted inForce
          · omega

/-- What a call names is what the loop over its stale jobs names. -/
theorem naming_of_issued {result : Dict JobId StatusEntry} {time : Option ℚ} {clock : ℚ}
    {base : Watchdog} {stale : List Stale}
    (issued : Issued dog result (dog.verdicts result time clock) base stale) :
    naming dog (.verdicts result time clock) = stale.map fun job => (job.jobId, job.branches) := by
  simp only [naming, named, issued.keys, List.map_map]
  apply List.map_congr_left
  intro job member
  simp [branchesOf, issued.known job member]

/-- One call names no more than the interval counter grows by, up to its budget. -/
theorem interval_apply (dog : Watchdog) {op : Op} (inInterval : op.isRefresh = false)
    (within : dog.issuedThisInterval ≤ dog.cfg.maxPerInterval.toNat) :
    (dog.apply op).issuedThisInterval = dog.issuedThisInterval + (naming dog op).length ∧
      (dog.apply op).issuedThisInterval ≤ dog.cfg.maxPerInterval.toNat := by
  cases op with
  | setJobs jobs => exact ⟨rfl, within⟩
  | refresh time clock entries => cases inInterval
  | forget jobId => exact ⟨rfl, within⟩
  | verdicts result time clock =>
      obtain ⟨base, stale, issued⟩ := issued_verdicts dog result time clock
      rw [naming_of_issued issued, List.length_map]
      have after : (dog.apply (.verdicts result time clock)) = run spend base stale := issued.state
      constructor
      · rw [after, issued_run_spend, issued.issued]
      · have budget := issued_le_of_affordable stale issued.affordable
          (by rw [issued.issued, issued.cfg]; omega)
        rw [issued.cfg] at budget
        rw [after]
        omega

/-- Calls without a refresh among them share the budget of one interval. -/
theorem interval_run (dog : Watchdog) {during : List Op}
    (inInterval : ∀ op ∈ during, op.isRefresh = false)
    (within : dog.issuedThisInterval ≤ dog.cfg.maxPerInterval.toNat) :
    dog.issuedThisInterval + (namings dog during).length ≤ dog.cfg.maxPerInterval.toNat := by
  induction during generalizing dog with
  | nil => exact within
  | cons op rest ih =>
      obtain ⟨counted, budget⟩ := interval_apply dog (inInterval op List.mem_cons_self) within
      rw [← cfg_apply dog op] at budget
      have others := ih (dog.apply op)
        (fun later member => inInterval later (List.mem_cons_of_mem op member)) budget
      rw [counted, cfg_apply] at others
      rw [namings, emitted_cons, List.length_append]
      rw [namings] at others
      omega

/-- The interval counter has not overdrawn its budget. -/
def WithinInterval (dog : Watchdog) : Prop :=
  dog.issuedThisInterval ≤ dog.cfg.maxPerInterval.toNat

/-- A refresh starts the interval anew, and no other call overdraws it. -/
theorem withinInterval_apply (dog : Watchdog) (op : Op) (within : WithinInterval dog) :
    WithinInterval (dog.apply op) := by
  rw [WithinInterval, cfg_apply]
  cases kind : op.isRefresh with
  | false => exact (interval_apply dog kind within).2
  | true =>
      cases op with
      | refresh time clock entries =>
          simp only [apply, refresh]
          split
          · exact within
          · cases entries <;> exact Nat.zero_le _
      | setJobs | verdicts | forget => cases kind

/-- A call charges every branch it names a job of. -/
theorem withinBranchBudget_apply (dog : Watchdog) (op : Op) {count : Nat}
    (within : WithinBranchBudget branch count dog) :
    WithinBranchBudget branch (count + (naming dog op).countP fun job => branch ∈ job.2)
      (dog.apply op) := by
  cases op with
  | setJobs jobs => exact ⟨within.counted, within.budget⟩
  | forget jobId => exact ⟨within.counted, within.budget⟩
  | refresh time clock entries =>
      simp only [apply, refresh]
      split
      · exact ⟨within.counted, within.budget⟩
      · cases entries <;> exact ⟨within.counted, within.budget⟩
  | verdicts result time clock =>
      obtain ⟨base, stale, issued⟩ := issued_verdicts dog result time clock
      have after : (dog.apply (.verdicts result time clock)) = run spend base stale := issued.state
      have start : WithinBranchBudget branch count base := by
        constructor
        · rw [issued.perBranch]
          exact within.counted
        · rw [issued.cfg]
          exact within.budget
      have charged := withinBranchBudget_run_spend stale issued.affordable start
      rw [naming_of_issued issued, List.countP_map, after]
      exact charged

/-- The budget of a branch is for the whole run. -/
theorem withinBranchBudget_run (dog : Watchdog) (ops : List Op)
    (within : WithinBranchBudget branch 0 dog) :
    WithinBranchBudget branch ((namings dog ops).countP fun job => branch ∈ job.2)
      (run apply dog ops) := by
  let counted : Watchdog → List (JobId × List Branch) → Prop := fun state log =>
    WithinBranchBudget branch (log.countP fun job => branch ∈ job.2) state
  have keeps : ∀ state log op, counted state log →
      counted (state.apply op) (log ++ naming state op) := by
    intro state log op before
    have after := withinBranchBudget_apply state op before
    rwa [← List.countP_append] at after
  have start : counted dog [] := within
  exact invariant_run_emitted keeps start ops

/-- The listing in force is that of the latest refresh, the jobs known are those
of the latest `setJobs`. -/
theorem latest_run (enabled : cfg.enabled = true) (ops : List Op) :
    ((run apply (new cfg) ops).listing = none ↔ lastListing ops = none) ∧
      (run apply (new cfg) ops).byId = jobsById (lastJobs ops) := by
  induction ops using List.reverseRecOn with
  | nil => simp [lastListing, lastJobs, new, jobsById, Dict.ofList, Dict.update]
  | append_singleton ops op ih =>
      obtain ⟨listing, byId⟩ := ih
      have awake : (run apply (new cfg) ops).cfg.enabled = true := by
        rw [cfg_run]
        exact enabled
      simp only [lastListing, lastJobs, List.foldl_append, List.foldl_cons, List.foldl_nil,
        run_concat] at listing byId ⊢
      cases op with
      | setJobs jobs => exact ⟨listing, rfl⟩
      | forget jobId => exact ⟨listing, byId⟩
      | refresh time clock entries =>
          simp only [apply, refresh, awake]
          cases entries with
          | none => exact ⟨by simp, byId⟩
          | some found => exact ⟨by simp, byId⟩
      | verdicts result time clock =>
          simp only [apply]
          cases inForce : (run apply (new cfg) ops).listing with
          | none =>
              rw [verdicts_of_idle (Or.inr inForce)]
              exact ⟨listing, byId⟩
          | some found =>
              rcases verdicts_state awake inForce result time clock with
                ⟨scan, perBranch, issued, passed, after⟩
              rw [after]
              constructor
              · exact (iff_of_eq (congrArg (· = none) passed.listing)).trans listing
              · exact passed.byId.trans byId

/-- A key the watchdog knows is that of an entry of the job data it was given. -/
theorem knownTo_of_get?_jobsById {jobs : Dict JobNum JobDataEntry} {jobId : JobId}
    {job : JobNum × List Branch} (known : (jobsById jobs).get? (keyOf jobId) = some job) :
    KnownTo jobs jobId job.2 := by
  rcases Dict.mem_of_get?_update known with listed | impossible
  · rw [List.mem_filterMap] at listed
    rcases listed with ⟨item, member, selected⟩
    apply Exists.intro item.2
    constructor
    · exact List.mem_map_of_mem member
    · rw [Option.bind_eq_some_iff] at selected
      rcases selected with ⟨own, hasId, selected⟩
      split at selected
      · cases selected
      · simp only [Option.some.injEq, Prod.mk.injEq] at selected
        constructor
        · rw [hasId, Option.map_some, selected.1]
        · rw [← selected.2]
  · simp at impossible

/-- Every run of calls keeps to the budgets. -/
theorem budgeted (cfg : Config) (ops : List Op) : Budgeted cfg ops := by
  constructor
  case interval =>
    intro before during after cut inInterval
    have start : WithinInterval (new cfg) := Nat.zero_le _
    have within := invariant_run_of_forall withinInterval_apply start before
    have shared := interval_run _ inInterval within
    rw [cfg_run] at shared
    exact (Nat.le_add_left _ _).trans shared
  case branches =>
    intro branch
    have start : WithinBranchBudget branch 0 (new cfg) :=
      ⟨Nat.zero_le _, le_max_left 0 _⟩
    have final := (withinBranchBudget_run (new cfg) ops start).budget
    rw [cfg_run] at final
    simp only [new] at final ⊢
    omega
  case silent =>
    intro before op after cut idle
    apply named_eq_nil
    rw [cfg_run]
    rcases idle with dry | disabled | unlisted
    · exact Or.inl dry
    · exact Or.inr (Or.inl disabled)
    · cases enabled : cfg.enabled with
      | false => exact Or.inr (Or.inl enabled)
      | true => exact Or.inr (Or.inr (Or.inl ((latest_run enabled before).1.mpr unlisted)))
  case running =>
    intro before result time clock after cut job isNamed
    obtain ⟨base, stale, issued⟩ :=
      issued_verdicts (run apply (new cfg) before) result time clock
    rw [naming_of_issued issued, List.mem_map] at isNamed
    rcases isNamed with ⟨job, member, rfl⟩
    have enabled : cfg.enabled = true := by
      have awake := (issued.awake (List.ne_nil_of_mem member)).1
      rwa [cfg_run] at awake
    have known := issued.known job member
    rw [(latest_run enabled before).2] at known
    constructor
    · exact issued.running job member
    · exact knownTo_of_get?_jobsById known

end DSProd.Watchdog
