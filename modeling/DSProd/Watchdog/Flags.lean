import DSProd.Watchdog.Scanning

/-!
# Flags that were taken away

A job that ends removes its flag, so a flag that was there and is gone is no
evidence of a stall.  That it was there is remembered by `verdicts` only; a
listing that no such call has read leaves no trace when the next one replaces
it.  This module says that nothing else is missing: when every listing that
shows the flag of a sighted job is read before it is replaced, the job is never
condemned for the missing flag.
-/

namespace DSProd.Watchdog

open DSProd.Library

/-- A listing shows a flag of some branches that counts for a job first seen at
some moment. -/
def Flagged (ages : Dict String ℚ) (branches : List Branch) (seen : ℚ) : Prop :=
  stamps ages branches (some (seen - stampResolution)) ≠ []

instance (ages : Dict String ℚ) (branches : List Branch) (seen : ℚ) :
    Decidable (Flagged ages branches seen) :=
  inferInstanceAs (Decidable (_ ≠ _))

/-- The promise for one job: once a listing taken after it was sighted has shown
its flag, no later call names it while the listing in force shows none. -/
def FlagRemembered (cfg : Config) (key : Key) (branches : List Branch) (ops : List Op) : Prop :=
  ∀ before now clock found middle result time later after,
    ops = before ++ .refresh now clock (some found) ::
      (middle ++ .verdicts result time later :: after) →
    ∀ seen, (run apply (new cfg) before).firstSeen.get? key = some seen →
    Flagged (agesOf found) branches seen →
    ∀ dog, dog = run apply (new cfg) (before ++ .refresh now clock (some found) :: middle) →
    ∀ listing, dog.listing = some listing → ¬ Flagged listing.ages branches seen →
    ∀ jobNum, dog.byId.get? key = some (jobNum, branches) →
    ∀ jobId, keyOf jobId = key → jobId ∉ (dog.verdicts result time later).1.keys

/-- What a call has to meet for the flag of a job to be remembered: a listing
that shows it is replaced only once a call has read the flag. -/
def ReadBeforeReplaced (key : Key) (branches : List Branch) (dog : Watchdog) : Op → Prop
  | .refresh _ _ _ => ∀ seen ∈ dog.firstSeen.get? key, ∀ listing ∈ dog.listing,
      Flagged listing.ages branches seen → key ∈ dog.seenFlag
  | _ => True

instance (key : Key) (branches : List Branch) (dog : Watchdog) :
    (op : Op) → Decidable (ReadBeforeReplaced key branches dog op)
  | .refresh _ _ _ => inferInstanceAs (Decidable (∀ seen ∈ _, ∀ listing ∈ _, _ → _))
  | .setJobs _ => isTrue trivial
  | .verdicts _ _ _ => isTrue trivial
  | .forget _ => isTrue trivial

/-- A job was sighted, and its flag is remembered or in the listing in force. -/
structure Noted (key : Key) (branches : List Branch) (seen : ℚ) (dog : Watchdog) : Prop where
  sighted : dog.firstSeen.get? key = some seen
  noted : key ∈ dog.seenFlag ∨
    ∃ listing, dog.listing = some listing ∧ Flagged listing.ages branches seen

variable {cfg : Config} {key : Key} {branches : List Branch} {seen : ℚ} {dog : Watchdog}

/-- A sighted job keeps the moment it was first seen, until it is replaced. -/
theorem firstSeen_apply {op : Op} (kept : ∀ jobId, op = .forget jobId → keyOf jobId ≠ key)
    (sighted : dog.firstSeen.get? key = some seen) :
    (dog.apply op).firstSeen.get? key = some seen := by
  cases op with
  | setJobs jobs => exact sighted
  | refresh now clock entries =>
      simp only [apply, refresh]
      split
      · exact sighted
      · cases entries <;> exact sighted
  | forget jobId =>
      have other : key ≠ keyOf jobId := Ne.symm (kept jobId rfl)
      simpa [apply, forget, Dict.get?_pop, other] using sighted
  | verdicts result time clock =>
      simp only [apply]
      cases enabled : dog.cfg.enabled with
      | false =>
          rw [verdicts_of_idle (Or.inl enabled)]
          exact sighted
      | true =>
          cases inForce : dog.listing with
          | none =>
              rw [verdicts_of_idle (Or.inr inForce)]
              exact sighted
          | some listing =>
              rcases verdicts_state enabled inForce result time clock with
                ⟨scan, perBranch, issued, passed, after⟩
              have known : key ∈ scan.dog.firstSeen.keys :=
                (passed.seenKeys key).mpr (Or.inl (Dict.mem_keys_of_get? sighted))
              have same := passed.firstSeen key
              rw [after]
              obtain ⟨value, found⟩ := Dict.mem_keys_iff.mp known
              simp only [Dict.getD, found, sighted, Option.getD_some] at same
              rw [found, same]

/-- What one call keeps. -/
theorem noted_apply {op : Op} (kept : ∀ jobId, op = .forget jobId → keyOf jobId ≠ key)
    (enabled : dog.cfg.enabled = true) (readFirst : ReadBeforeReplaced key branches dog op)
    (noted : Noted key branches seen dog) : Noted key branches seen (dog.apply op) := by
  constructor
  · exact firstSeen_apply kept noted.sighted
  cases op with
  | setJobs jobs => exact noted.noted
  | refresh now clock entries =>
      have remembered : key ∈ dog.seenFlag := by
        rcases noted.noted with already | ⟨listing, inForce, flagged⟩
        · exact already
        · exact readFirst seen noted.sighted listing inForce flagged
      left
      simp only [apply, refresh, enabled, Bool.not_true, Bool.false_eq_true, if_false]
      cases entries <;> exact remembered
  | forget jobId =>
      have other : key ≠ keyOf jobId := Ne.symm (kept jobId rfl)
      rcases noted.noted with already | inForce
      · left
        simp [apply, forget, other, already]
      · exact Or.inr inForce
  | verdicts result time clock =>
      cases inForce : dog.listing with
      | none =>
          simp only [apply, verdicts_of_idle (Or.inr inForce)]
          exact noted.noted
      | some listing =>
          rcases verdicts_state enabled inForce result time clock with
            ⟨scan, perBranch, issued, passed, after⟩
          simp only [apply, after]
          rcases noted.noted with already | ⟨other, otherInForce, flagged⟩
          · exact Or.inl ((passed.seenFlag key).mpr (Or.inl already))
          · right
            exact ⟨other, passed.listing.trans otherInForce, flagged⟩

/-- What a run keeps. -/
theorem noted_run {ops : List Op} (kept : ∀ jobId, .forget jobId ∈ ops → keyOf jobId ≠ key)
    (enabled : dog.cfg.enabled = true)
    (readFirst : Along apply (ReadBeforeReplaced key branches) dog ops)
    (noted : Noted key branches seen dog) : Noted key branches seen (run apply dog ops) := by
  induction ops generalizing dog with
  | nil => exact noted
  | cons op rest ih =>
      have opKept : ∀ jobId, op = .forget jobId → keyOf jobId ≠ key := fun jobId same =>
        kept jobId (by rw [← same]; exact List.mem_cons_self)
      apply ih
      · exact fun jobId member => kept jobId (List.mem_cons_of_mem op member)
      · rw [cfg_apply, enabled]
      · exact readFirst.2
      · exact noted_apply opKept enabled readFirst.1 noted

/-- A remembered flag that is not in the listing in force condemns nobody. -/
theorem not_named_of_noted (noted : Noted key branches seen dog) {listing : Listing}
    (inForce : dog.listing = some listing) (gone : ¬ Flagged listing.ages branches seen)
    {jobNum : JobNum} (published : dog.byId.get? key = some (jobNum, branches))
    (result : Dict JobId StatusEntry) (time : Option ℚ) (clock : ℚ) {jobId : JobId}
    (sameKey : keyOf jobId = key) : jobId ∉ (dog.verdicts result time clock).1.keys := by
  have remembered : key ∈ dog.seenFlag := by
    rcases noted.noted with already | ⟨other, otherInForce, flagged⟩
    · exact already
    · rw [inForce, Option.some.injEq] at otherInForce
      rw [← otherInForce] at flagged
      exact absurd flagged gone
  have firstSeenEq : dog.firstSeen.getD key (time.getD clock) = seen := by
    simp [Dict.getD, noted.sighted]
  have noStamp : stamps listing.ages branches (some (seen - stampResolution)) = [] :=
    not_not.mp gone
  intro named
  rcases stale_of_mem_keys_verdicts named with ⟨other, otherInForce, item, _, isItem, judged⟩
  rw [inForce, Option.some.injEq] at otherInForce
  rw [← otherInForce] at judged
  have itemKey : keyOf item.1 = key := by rw [isItem, sameKey]
  cases known : knownRunning dog item with
  | none => simp [staleOf, known] at judged
  | some job =>
      have sameJob := known
      rw [knownRunning_eq_some_iff, itemKey, published, Option.some.injEq] at sameJob
      simp [staleOf, known, itemKey, ← sameJob.2, ageOf, age, firstSeenEq, noStamp,
        remembered] at judged

/-- When every listing that shows the flag of a sighted job is read before it
is replaced, the job is never condemned for a flag it took away. -/
theorem flagRemembered_of_readBeforeReplaced (cfg : Config) (key : Key) (branches : List Branch)
    (ops : List Op) (kept : ∀ jobId, .forget jobId ∈ ops → keyOf jobId ≠ key)
    (readFirst : Along apply (ReadBeforeReplaced key branches) (new cfg) ops) :
    FlagRemembered cfg key branches ops := by
  intro before now clock found middle result time later after cut seen sighted flagged dog reached
    listing inForce gone jobNum published jobId sameKey
  subst reached
  cases enabled : cfg.enabled with
  | false =>
      intro named
      rw [verdicts_of_idle (Or.inl (by rw [cfg_run]; exact enabled))] at named
      simp at named
  | true =>
      rw [cut, along_append, along_cons, along_append] at readFirst
      obtain ⟨_, _, readMiddle, _⟩ := readFirst
      have stillEnabled : (run apply (new cfg) before).cfg.enabled = true := by
        rw [cfg_run]
        exact enabled
      rw [run_append, run_cons] at inForce published ⊢
      have shown : Noted key branches seen
          (apply (run apply (new cfg) before) (.refresh now clock (some found))) := by
        constructor
        · exact firstSeen_apply (fun other impossible => by cases impossible) sighted
        · right
          simp only [apply, refresh, stillEnabled, Bool.not_true, Bool.false_eq_true, if_false]
          exact ⟨_, rfl, flagged⟩
      apply not_named_of_noted _ inForce gone published result time later sameKey
      apply noted_run _ _ readMiddle shown
      · intro other member
        apply kept other
        rw [cut]
        simp [member]
      · rw [cfg_apply, stillEnabled]

/-- The job of the runs below, as law reports and publishes it. -/
def exitingJob : JobId :=
  ⟨1, "task", "project"⟩

/-- A job is sighted, shows its flag in the second listing, and has none from
the third on; between the two, its project is queried or it is not. -/
def takenAway (queries : List Op) : List Op :=
  [.setJobs (Dict.ofList [(1, ⟨some exitingJob, [7]⟩)]),
    .refresh none 0 (some []),
    .verdicts (Dict.ofList [(exitingJob, { status := .running })]) none 10,
    .refresh none 1800 (some [⟨"7", some 1740, false⟩])] ++ queries ++
  [.refresh none 3600 (some []), .refresh none 5400 (some []),
    .verdicts (Dict.ofList [(exitingJob, { status := .running })]) none 5410]

theorem flagRemembered_takenAway :
    FlagRemembered {} (keyOf exitingJob) [7]
      (takenAway [.verdicts (Dict.ofList [(exitingJob, { status := .running })]) none 1810]) := by
  apply flagRemembered_of_readBeforeReplaced
  · intro jobId member
    simp [takenAway] at member
  · decide +kernel

/-- Without a query between the two listings, the job is condemned. -/
theorem not_flagRemembered_takenAway :
    ¬ FlagRemembered {} (keyOf exitingJob) [7] (takenAway []) := by
  intro remembered
  have unnamed := remembered
    [.setJobs (Dict.ofList [(1, ⟨some exitingJob, [7]⟩)]), .refresh none 0 (some []),
      .verdicts (Dict.ofList [(exitingJob, { status := .running })]) none 10]
    none 1800 [⟨"7", some 1740, false⟩]
    [.refresh none 3600 (some []), .refresh none 5400 (some [])]
    (Dict.ofList [(exitingJob, { status := .running })]) none 5410 [] rfl
    10 (by decide +kernel) (by decide +kernel) _ rfl ⟨Dict.empty, 5400⟩ (by decide +kernel)
    (by decide +kernel) 1 (by decide +kernel) exitingJob rfl
  revert unnamed
  decide +kernel

end DSProd.Watchdog
