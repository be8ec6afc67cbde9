import DSProd.Watchdog.Scanning
import Mathlib.Algebra.Order.Floor.Ring
import Mathlib.Tactic.Linarith

/-!
# A healthy job is never condemned

Three clocks meet: a job beats, the driver lists the flags, and it polls.  An
age is measured at the listing, but which flags count is decided at the poll
that first saw the job.  The two are at most a gap of the listings apart, and
the threshold leaves room for this gap, for a late beat, and for the minute
that a listed time is rounded down to.
-/

namespace DSProd.Watchdog

open DSProd.Library

/-! ## Beats and listings -/

/-- The newest of some beats that landed before a moment. -/
def newestBefore (beats : List ℚ) (moment : ℚ) : Option ℚ :=
  (beats.filter fun beat => beat < moment).max?

/-- A time as a listing shows it. -/
def floorMinute (time : ℚ) : ℚ :=
  ⌊time / 60⌋ * 60

theorem sub_lt_floorMinute (time : ℚ) : time - 60 < floorMinute time := by
  rw [floorMinute]
  have below := Int.lt_floor_add_one (time / 60)
  linarith

theorem exists_newestBefore {beats : List ℚ} {beat moment : ℚ} (member : beat ∈ beats)
    (landed : beat < moment) :
    ∃ newest, newestBefore beats moment = some newest ∧ beat ≤ newest := by
  have among : beat ∈ beats.filter fun other => decide (other < moment) := by
    simp [member, landed]
  rw [newestBefore]
  cases found : (beats.filter fun other => decide (other < moment)).max? with
  | none =>
      rw [List.max?_eq_none_iff] at found
      rw [found] at among
      cases among
  | some newest =>
      rw [List.max?_eq_some_iff] at found
      exact ⟨newest, rfl, found.2 beat among⟩

/-- A listing shows, for each of some branches, the newest of its beats that
landed before it was taken, rounded down to the minute. -/
def Shows (branches : List Branch) (beats : Branch → List ℚ) (ages : Dict String ℚ)
    (moment : ℚ) : Prop :=
  ∀ branch ∈ branches,
    ages.get? (flagName branch) = (newestBefore (beats branch) moment).map floorMinute

/-- The beats of a running job up to a moment: each is on one of its branches,
and the next follows within an interval and a delay. -/
structure Beating (cfg : Config) (delay : ℚ) (branches : List Branch)
    (beats : Branch → List ℚ) (own : List ℚ) (clock : ℚ) : Prop where
  onBranch : ∀ beat ∈ own, ∃ branch ∈ branches, beat ∈ beats branch
  regular : ∀ beat ∈ own, beat + (intervalSeconds cfg + delay) < clock →
    ∃ next ∈ own, beat < next ∧ next ≤ beat + (intervalSeconds cfg + delay)

/-- Once a job beats, its newest beat before a moment is recent. -/
theorem Beating.recent {cfg : Config} {delay : ℚ} {branches : List Branch}
    {beats : Branch → List ℚ} {own : List ℚ} {clock moment beat : ℚ}
    (beating : Beating cfg delay branches beats own clock) (early : moment ≤ clock)
    (member : beat ∈ own) (landed : beat < moment) :
    ∃ newest ∈ own, newest < moment ∧ moment ≤ newest + (intervalSeconds cfg + delay) := by
  rcases exists_newestBefore member landed with ⟨newest, isNewest, _⟩
  rw [newestBefore, List.max?_eq_some_iff, List.mem_filter, decide_eq_true_eq] at isNewest
  obtain ⟨⟨newestMem, newestLanded⟩, maximal⟩ := isNewest
  apply Exists.intro newest
  constructor
  · exact newestMem
  constructor
  · exact newestLanded
  · by_contra late
    rw [not_le] at late
    rcases beating.regular newest newestMem (lt_of_lt_of_le late early) with
      ⟨next, nextMem, later, soon⟩
    have nextLanded : next < moment := lt_of_le_of_lt soon late
    have bounded := maximal next (by simp [nextMem, nextLanded])
    exact absurd later (not_lt.mpr bounded)

/-- A beat that landed before a listing leaves a stamp at most a minute older. -/
theorem Beating.stamp {cfg : Config} {delay : ℚ} {branches : List Branch}
    {beats : Branch → List ℚ} {own : List ℚ} {clock moment beat : ℚ} {ages : Dict String ℚ}
    (beating : Beating cfg delay branches beats own clock)
    (shows : Shows branches beats ages moment) (member : beat ∈ own) (landed : beat < moment) :
    ∃ branch ∈ branches, ∃ stamp, ages.get? (flagName branch) = some stamp ∧ beat - 60 < stamp := by
  rcases beating.onBranch beat member with ⟨branch, branchMem, beatMem⟩
  obtain ⟨newest, isNewest, newer⟩ := exists_newestBefore beatMem landed
  have shown := shows branch branchMem
  rw [isNewest, Option.map_some] at shown
  have rounded := sub_lt_floorMinute newest
  exact ⟨branch, branchMem, _, shown, by linarith⟩

/-! ## Ages -/

theorem mem_stamps {ages : Dict String ℚ} {branches : List Branch} {since stamp : ℚ} :
    stamp ∈ stamps ages branches (some since) ↔
      (∃ branch ∈ branches, ages.get? (flagName branch) = some stamp) ∧ since ≤ stamp := by
  simp [stamps]

theorem age_eq_none {ages : Dict String ℚ} {branches : List Branch} {now : ℚ}
    {since : Option ℚ} (noFlag : age ages branches now since = none) :
    stamps ages branches since = [] := by
  rw [age, Option.map_eq_none_iff, List.max?_eq_none_iff] at noFlag
  exact noFlag

theorem age_eq_some {ages : Dict String ℚ} {branches : List Branch} {now seconds : ℚ}
    {since : Option ℚ} (flag : age ages branches now since = some seconds) :
    ∃ newest ∈ stamps ages branches since, seconds = max 0 (now - newest) ∧
      ∀ stamp ∈ stamps ages branches since, stamp ≤ newest := by
  rw [age, Option.map_eq_some_iff] at flag
  rcases flag with ⟨newest, isNewest, same⟩
  rw [List.max?_eq_some_iff] at isNewest
  exact ⟨newest, isNewest.1, same.symm, isNewest.2⟩

/-! ## One listing, one job -/

/-- The times of one judgement: the job was first seen at `seen`, under a
listing taken at `first`, and is judged at `moment`; it beats in time. -/
structure InTime (cfg : Config) (slack delay : ℚ) (own : List ℚ) (first seen moment : ℚ) :
    Prop where
  polled : seen ≤ first + (intervalSeconds cfg + slack)
  begins : ∃ beat ∈ own, beat < seen ∨
    beat < seen + (staleSeconds cfg - max slack stampResolution)
  spaced : 0 < intervalSeconds cfg + delay
  margin : delay + max slack stampResolution ≤ staleSeconds cfg - intervalSeconds cfg

variable {cfg : Config} {slack delay clock : ℚ} {branches : List Branch}
  {beats : Branch → List ℚ} {own : List ℚ} {ages : Dict String ℚ} {first seen moment : ℚ}

/-- The flag of a job that beats in time is never too old. -/
theorem InTime.age_lt (inTime : InTime cfg slack delay own first seen moment)
    (beating : Beating cfg delay branches beats own clock) (early : moment ≤ clock)
    (shows : Shows branches beats ages moment) {seconds : ℚ}
    (flag : age ages branches moment (some (seen - stampResolution)) = some seconds) :
    seconds < staleSeconds cfg := by
  have slackLe : slack ≤ max slack stampResolution := le_max_left _ _
  have minuteLe : 60 ≤ max slack stampResolution := le_max_right _ _
  have margin := inTime.margin
  have spaced := inTime.spaced
  obtain ⟨newest, newestMem, rfl, maximal⟩ := age_eq_some flag
  rw [mem_stamps] at newestMem
  have counted : seen - 60 ≤ newest := newestMem.2
  have fresh : moment - newest < staleSeconds cfg := by
    by_cases beaten : ∃ beat ∈ own, beat < moment
    · rcases beaten with ⟨beat, beatMem, landed⟩
      obtain ⟨recent, recentMem, recentLanded, near⟩ := beating.recent early beatMem landed
      rcases beating.stamp shows recentMem recentLanded with
        ⟨branch, branchMem, stamp, shown, newer⟩
      have stampLe : stamp ≤ newest := by
        by_cases old : seen - stampResolution ≤ stamp
        · exact maximal stamp (mem_stamps.mpr ⟨⟨branch, branchMem, shown⟩, old⟩)
        · exact le_trans (not_le.mp old).le newestMem.2
      linarith
    · rcases inTime.begins with ⟨beat, beatMem, begins⟩
      have later : moment ≤ beat := by
        by_contra landed
        exact beaten ⟨beat, beatMem, not_le.mp landed⟩
      rcases begins with before | soon <;> linarith
  exact max_lt (by linarith) fresh

/-- A job that beats in time and shows no flag is still in its grace. -/
theorem InTime.lt_grace (inTime : InTime cfg slack delay own first seen moment)
    (beating : Beating cfg delay branches beats own clock) (early : moment ≤ clock)
    (shows : Shows branches beats ages moment)
    (noFlag : age ages branches moment (some (seen - stampResolution)) = none) :
    moment - first < staleSeconds cfg + intervalSeconds cfg := by
  have slackLe : slack ≤ max slack stampResolution := le_max_left _ _
  have minuteLe : 60 ≤ max slack stampResolution := le_max_right _ _
  have margin := inTime.margin
  have spaced := inTime.spaced
  have polled := inTime.polled
  by_contra expired
  rw [not_lt] at expired
  obtain ⟨beat, beatMem, begins⟩ := inTime.begins
  have landed : beat < moment := by
    rcases begins with before | soon <;> linarith
  rcases beating.recent early beatMem landed with ⟨recent, recentMem, recentLanded, near⟩
  obtain ⟨branch, branchMem, stamp, shown, newer⟩ := beating.stamp shows recentMem recentLanded
  have counted : seen - stampResolution ≤ stamp := by
    rw [stampResolution]
    linarith
  have member := mem_stamps.mpr ⟨⟨branch, branchMem, shown⟩, counted⟩
  rw [age_eq_none noFlag] at member
  cases member

/-! ## Runs on the default clock -/

/-- What the calls of a run keep to, as far as one job goes: it is published
with the same branches, the clock is the default one, listings show the beats
of its branches, and it is not replaced. -/
def Op.Respects (key : Key) (branches : List Branch) (beats : Branch → List ℚ) : Op → Prop
  | .setJobs jobs => ∀ job, (jobsById jobs).get? key = some job → job.2 = branches
  | .refresh now clock entries => now = none ∧
      ∀ found, entries = some found → Shows branches beats (agesOf found) clock
  | .verdicts _ now _ => now = none
  | .forget jobId => keyOf jobId ≠ key

/-- When a call reads the clock. -/
def Op.clock? : Op → Option ℚ
  | .refresh _ clock _ => some clock
  | .verdicts _ _ clock => some clock
  | _ => none

/-- When a call attempts a listing. -/
def Op.attempt? : Op → Option ℚ
  | .refresh _ clock _ => some clock
  | _ => none

/-- The listings of a run are attempted at most a gap apart, and time does not
run back to before the last attempt. -/
def Scheduled (gap : ℚ) : Option ℚ → List Op → Prop
  | _, [] => True
  | last, op :: rest =>
      (∀ attempt, last = some attempt → ∀ moment, op.clock? = some moment →
        attempt ≤ moment ∧ moment ≤ attempt + gap) ∧
      Scheduled gap (op.attempt?.or last) rest

/-- What holds of one job after some calls, the last listing having been
attempted at some moment. -/
structure Tracked (cfg : Config) (gap : ℚ) (key : Key) (branches : List Branch)
    (beats : Branch → List ℚ) (last : Option ℚ) (dog : Watchdog) : Prop where
  sameCfg : dog.cfg = cfg
  published : ∀ job, dog.byId.get? key = some job → job.2 = branches
  listed : ∀ listing, dog.listing = some listing →
    last = some listing.listedAt ∧ Shows branches beats listing.ages listing.listedAt
  together : key ∈ dog.firstRunning.keys ↔ key ∈ dog.firstSeen.keys
  polled : ∀ seen, dog.firstSeen.get? key = some seen →
    ∀ first, dog.firstRunning.get? key = some first → seen ≤ first + gap

theorem getD_of_mem {K V : Type} [DecidableEq K] {dict : Dict K V} {key : K} (default : V)
    (known : key ∈ dict.keys) : dict.get? key = some (dict.getD key default) := by
  rcases Dict.mem_keys_iff.mp known with ⟨value, found⟩
  simp [Dict.getD, found]

theorem getD_of_not_mem {K V : Type} [DecidableEq K] {dict : Dict K V} {key : K} (default : V)
    (absent : key ∉ dict.keys) : dict.getD key default = default := by
  simp [Dict.getD, Dict.get?_eq_none_iff.mpr absent]

variable {gap : ℚ} {key : Key} {last : Option ℚ} {dog : Watchdog}

theorem tracked_new (cfg : Config) (gap : ℚ) (key : Key) (branches : List Branch)
    (beats : Branch → List ℚ) : Tracked cfg gap key branches beats none (new cfg) := by
  constructor <;> simp [new]

/-- The clocks with which a call would judge a job. -/
theorem Tracked.polled_getD (tracked : Tracked cfg gap key branches beats last dog)
    {listing : Listing} (inForce : dog.listing = some listing)
    (scheduled : ∀ attempt, last = some attempt → attempt ≤ clock ∧ clock ≤ attempt + gap) :
    dog.firstSeen.getD key clock ≤ dog.firstRunning.getD key listing.listedAt + gap := by
  by_cases known : key ∈ dog.firstSeen.keys
  · exact tracked.polled _ (getD_of_mem clock known) _
      (getD_of_mem listing.listedAt (tracked.together.mpr known))
  · rw [getD_of_not_mem clock known,
      getD_of_not_mem listing.listedAt fun running => known (tracked.together.mp running)]
    exact (scheduled _ (tracked.listed listing inForce).1).2

/-- What a `verdicts` call keeps. -/
theorem tracked_verdicts (tracked : Tracked cfg gap key branches beats last dog)
    (enabled : dog.cfg.enabled = true) (result : Dict JobId StatusEntry)
    (scheduled : ∀ attempt, last = some attempt → attempt ≤ clock ∧ clock ≤ attempt + gap) :
    Tracked cfg gap key branches beats last (dog.apply (.verdicts result none clock)) := by
  cases inForce : dog.listing with
  | none =>
      simp only [apply, verdicts_of_idle (Or.inr inForce)]
      exact tracked
  | some listing =>
      obtain ⟨scan, perBranch, issued, passed, after⟩ :=
        verdicts_state enabled inForce result none clock
      simp only [apply, after]
      have polledNow := tracked.polled_getD inForce scheduled
      constructor
      case sameCfg => exact passed.cfg.trans tracked.sameCfg
      case published =>
        intro job found
        rw [passed.byId] at found
        exact tracked.published job found
      case listed =>
        intro other found
        rw [passed.listing] at found
        exact tracked.listed other found
      case together =>
        rw [passed.seenKeys, passed.runningKeys, tracked.together]
      case polled =>
        intro seen found first running
        have seenEq := passed.firstSeen key
        have firstEq := passed.firstRunning key
        simp only [Dict.getD, found, running, Option.getD_some] at seenEq firstEq
        rw [seenEq, firstEq]
        exact polledNow

/-- What a `refresh` call keeps. -/
theorem tracked_refresh (tracked : Tracked cfg gap key branches beats last dog)
    (enabled : dog.cfg.enabled = true) {moment : ℚ} {entries : Option (List FlagEntry)}
    (shows : ∀ found, entries = some found → Shows branches beats (agesOf found) moment) :
    Tracked cfg gap key branches beats (some moment)
      (dog.apply (.refresh none moment entries)) := by
  simp only [apply, refresh, enabled, Bool.not_true, Bool.false_eq_true, if_false]
  cases entries with
  | none =>
      constructor
      case listed =>
        intro listing inForce
        cases inForce
      case sameCfg => exact tracked.sameCfg
      case published => exact tracked.published
      case together => exact tracked.together
      case polled => exact tracked.polled
  | some found =>
      constructor
      case listed =>
        intro listing inForce
        cases inForce
        exact ⟨rfl, shows found rfl⟩
      case sameCfg => exact tracked.sameCfg
      case published => exact tracked.published
      case together => exact tracked.together
      case polled => exact tracked.polled

/-- What one call keeps. -/
theorem tracked_apply (tracked : Tracked cfg gap key branches beats last dog) {op : Op}
    (enabled : cfg.enabled = true) (respects : op.Respects key branches beats)
    (scheduled : ∀ attempt, last = some attempt → ∀ moment, op.clock? = some moment →
      attempt ≤ moment ∧ moment ≤ attempt + gap) :
    Tracked cfg gap key branches beats (op.attempt?.or last) (dog.apply op) := by
  have stillEnabled : dog.cfg.enabled = true := by rw [tracked.sameCfg, enabled]
  cases op with
  | setJobs jobs =>
      constructor
      case published => exact respects
      case sameCfg => exact tracked.sameCfg
      case listed => exact tracked.listed
      case together => exact tracked.together
      case polled => exact tracked.polled
  | refresh now moment entries =>
      obtain ⟨rfl, shows⟩ := respects
      exact tracked_refresh tracked stillEnabled shows
  | forget jobId =>
      have other : key ≠ keyOf jobId := Ne.symm respects
      constructor
      case sameCfg => exact tracked.sameCfg
      case published => exact tracked.published
      case listed => exact tracked.listed
      case together => simpa [apply, forget, other] using tracked.together
      case polled => simpa [apply, forget, Dict.get?_pop, other] using tracked.polled
  | verdicts result now moment =>
      cases (respects : now = none)
      exact tracked_verdicts tracked stillEnabled result fun attempt isLast =>
        scheduled attempt isLast moment rfl

/-- What a run keeps. -/
theorem tracked_run (tracked : Tracked cfg gap key branches beats last dog)
    (enabled : cfg.enabled = true) {ops rest : List Op}
    (respects : ∀ op ∈ ops, op.Respects key branches beats)
    (scheduled : Scheduled gap last (ops ++ rest)) :
    ∃ latest, Tracked cfg gap key branches beats latest (run apply dog ops) ∧
      Scheduled gap latest rest := by
  induction ops generalizing dog last with
  | nil => exact ⟨last, tracked, scheduled⟩
  | cons op ops ih =>
      rcases scheduled with ⟨first, later⟩
      exact ih (tracked_apply tracked enabled (respects op List.mem_cons_self) first)
        (fun other member => respects other (List.mem_cons_of_mem op member)) later

theorem staleSeconds_eq (cfg : Config) :
    (staleSeconds cfg : ℚ) = cfg.missedChecks * intervalSeconds cfg := by
  rw [staleSeconds]
  push_cast
  ring

/-- A call that judges a job has its first-seen time, the clock if it is new. -/
theorem firstSeen_verdicts (enabled : dog.cfg.enabled = true) {listing : Listing}
    (inForce : dog.listing = some listing) {result : Dict JobId StatusEntry}
    {item : JobId × StatusEntry} (member : item ∈ result.items) (sameKey : keyOf item.1 = key)
    (known : (knownRunning dog item).isSome) :
    (dog.apply (.verdicts result none clock)).firstSeen.get? key =
      some (dog.firstSeen.getD key clock) := by
  obtain ⟨scan, perBranch, issued, passed, after⟩ :=
    verdicts_state enabled inForce result none clock
  have sighted : key ∈ scan.dog.firstSeen.keys := by
    rw [passed.seenKeys]
    exact Or.inr ⟨item, member, sameKey, known⟩
  have sameSeen : scan.dog.firstSeen.getD key clock = dog.firstSeen.getD key clock :=
    passed.firstSeen key
  have recorded := getD_of_mem clock sighted
  rw [sameSeen] at recorded
  simpa only [apply, after] using recorded

/-- A running job that beats in time is never named by a call. -/
theorem healthy_not_named (cfg : Config) (slack delay : ℚ)
    (spaced : 0 < intervalSeconds cfg + delay)
    (margin : delay + max slack 60 ≤ (cfg.missedChecks - 1) * intervalSeconds cfg)
    (key : Key) (branches : List Branch) (beats : Branch → List ℚ) (ops : List Op)
    (result : Dict JobId StatusEntry) (clock : ℚ)
    (respects : ∀ op ∈ ops, op.Respects key branches beats)
    (scheduled : Scheduled (intervalSeconds cfg + slack) none
      (ops ++ [.verdicts result none clock]))
    (own : List ℚ) (beating : Beating cfg delay branches beats own clock)
    (begins : ∃ beat ∈ own, ∀ seen,
      (run apply (new cfg) (ops ++ [.verdicts result none clock])).firstSeen.get? key = some seen →
      beat < seen ∨ beat < seen + (cfg.missedChecks * intervalSeconds cfg - max slack 60))
    (jobId : JobId) (sameKey : keyOf jobId = key) :
    jobId ∉ ((run apply (new cfg) ops).verdicts result none clock).1.keys := by
  intro named
  cases enabled : cfg.enabled with
  | false =>
      have disabled : (run apply (new cfg) ops).cfg.enabled = false := by
        rw [cfg_run]
        exact enabled
      rw [verdicts_of_idle (Or.inl disabled)] at named
      simp at named
  | true =>
      rcases tracked_run (tracked_new cfg (intervalSeconds cfg + slack) key branches beats) enabled
        respects scheduled with ⟨last, tracked, rest⟩
      rw [run_concat] at begins
      generalize run apply (new cfg) ops = dog at named begins tracked
      obtain ⟨listing, inForce, item, itemMem, isItem, judged⟩ := stale_of_mem_keys_verdicts named
      rcases tracked.listed listing inForce with ⟨isLast, shows⟩
      have clocked := rest.1 listing.listedAt isLast clock rfl
      have stillEnabled : dog.cfg.enabled = true := by rw [tracked.sameCfg, enabled]
      have itemKey : keyOf item.1 = key := by rw [isItem, sameKey]
      have polled := tracked.polled_getD inForce fun attempt isAttempt =>
        rest.1 attempt isAttempt clock rfl
      have inTime : InTime cfg slack delay own
          (dog.firstRunning.getD key listing.listedAt) (dog.firstSeen.getD key clock)
          listing.listedAt := by
        constructor
        case polled => exact polled
        case begins =>
          obtain ⟨beat, beatMem, early⟩ := begins
          have recorded : (dog.apply (.verdicts result none clock)).firstSeen.get? key = _ :=
            firstSeen_verdicts stillEnabled inForce itemMem itemKey (isSome_knownRunning judged)
          apply Exists.intro beat
          constructor
          · exact beatMem
          · rw [staleSeconds_eq]
            exact early _ recorded
        case spaced => exact spaced
        case margin =>
          rw [staleSeconds_eq]
          change delay + max slack 60 ≤ _
          linarith
      cases known : knownRunning dog item with
      | none => simp [staleOf, known] at judged
      | some job =>
          have sameBranches : job.2 = branches := by
            rw [knownRunning_eq_some_iff, itemKey] at known
            exact tracked.published job known.2
          simp only [staleOf, known, itemKey, sameBranches, ageOf, Option.getD_none] at judged
          split at judged
          · rename_i seconds flag
            have fresh := inTime.age_lt beating clocked.1 shows flag
            rw [← tracked.sameCfg] at fresh
            simp [not_le.mpr fresh] at judged
          · rename_i noFlag
            have inGrace := inTime.lt_grace beating clocked.1 shows noFlag
            rw [← tracked.sameCfg] at inGrace
            simp [not_le.mpr inGrace] at judged

/-- A job on a branch whose earlier attempt left a flag behind, listed between
its own first beat and the second. -/
def youngJob : List Op :=
  [.setJobs (Dict.ofList [(1, ⟨some ⟨1, "task", "project"⟩, [7]⟩)]),
    .refresh none 7200 (some [⟨"7", some 3600, false⟩])]

theorem healthy_not_named_youngJob :
    (⟨1, "task", "project"⟩ : JobId) ∉ ((run apply (new {}) youngJob).verdicts
      (Dict.ofList [(⟨1, "task", "project"⟩, { status := .running })]) none 7300).1.keys := by
  apply healthy_not_named {} 300 10 (by decide +kernel) (by decide +kernel)
    (1, "task") [7] (fun _ => [3610, 7400, 9200]) youngJob _ 7300 _ _ [7400, 9200]
  · constructor
    · decide +kernel
    · decide +kernel
  · apply Exists.intro 7400
    constructor
    · decide +kernel
    · intro seen found
      have first : (run apply (new {}) (youngJob ++ [.verdicts
          (Dict.ofList [(⟨1, "task", "project"⟩, { status := .running })]) none
          7300])).firstSeen.get? (1, "task") = some 7300 := by decide +kernel
      rw [first, Option.some.injEq] at found
      right
      rw [← found]
      decide +kernel
  · rfl
  · intro op member
    rcases List.mem_cons.mp member with rfl | member
    · intro job published
      have only : (jobsById (Dict.ofList [(1, ⟨some ⟨1, "task", "project"⟩, [7]⟩)])).get?
          (1, "task") = some (1, [7]) := by decide +kernel
      rw [only, Option.some.injEq] at published
      rw [← published]
    · rw [List.mem_singleton.mp member]
      constructor
      · rfl
      · rintro found ⟨⟩ branch branchMem
        rw [List.mem_singleton.mp branchMem]
        decide +kernel
  · constructor
    · intro attempt none
      cases none
    constructor
    · intro attempt none
      cases none
    constructor
    · rintro attempt ⟨⟩ moment ⟨⟩
      decide +kernel
    · trivial

end DSProd.Watchdog
