import DSProd.Crab.JobConfig
import DSProd.SiteStats.Cap
import DSProd.SiteStats.Persistence

/-!
# The pool of a CRAB task

Every CRAB task asks the record of the sites which of them are in quarantine,
and leaves these out along with the sites that are excluded by hand.  CRAB gives
the whitelist precedence, so what counts is which sites the submitted whitelist
still matches.

As long as the exclusions made by hand are names, these are the sites that the
configured whitelist matches, less the excluded ones.
-/

namespace DSProd.Crab

open DSProd.Library
open DSProd.Tasks
open DSProd.SiteStats (isSite isDecimalDigit isSiteBody)

/-! ## Names of sites -/

/-- A decimal digit is no wildcard. -/
theorem plain_of_isDecimalDigit {char : Char} (digit : isDecimalDigit char = true) :
    char ≠ '*' ∧ char ≠ '?' ∧ char ≠ '[' := by
  refine ⟨?_, ?_, ?_⟩ <;>
    · rintro rfl
      revert digit
      decide

/-- Nor is a character of the name behind it. -/
theorem plain_of_isSiteBody {chars : List Char} (body : isSiteBody chars = true) :
    ∀ char ∈ chars, char ≠ '*' ∧ char ≠ '?' ∧ char ≠ '[' := by
  have allowed : ∀ char : Char, (char.isAlphanum || char = '_') = true →
      char ≠ '*' ∧ char ≠ '?' ∧ char ≠ '[' := by
    intro char
    refine fun named => ⟨?_, ?_, ?_⟩ <;>
      · rintro rfl
        revert named
        decide
  intro char member
  simp only [isSiteBody, Bool.and_eq_true, List.all_eq_true] at body
  by_cases newline : chars.getLast? = some '\n'
  · rw [if_pos newline] at body
    obtain ⟨front, rfl⟩ := List.getLast?_eq_some_iff.mp newline
    rw [List.dropLast_concat] at body
    rw [List.mem_append, List.mem_singleton] at member
    rcases member with inFront | rfl
    · exact allowed char (body.2 char inFront)
    · decide
  · rw [if_neg newline] at body
    exact allowed char (body.2 char member)

/-- The name of a site has no wildcards. -/
theorem isPlain_of_isSite {name : String} (named : isSite name = true) : IsPlain name := by
  rw [isSite] at named
  split at named
  · rename_i digit rest spelled
    rw [Bool.and_eq_true] at named
    intro char member
    rw [spelled] at member
    simp only [List.mem_cons] at member
    rcases member with rfl | rfl | rfl | inRest
    · decide
    · exact plain_of_isDecimalDigit named.1
    · decide
    · exact plain_of_isSiteBody named.2 char inRest
  · cases named

/-! ## The pool -/

/-- The sites that are excluded by hand. -/
def handExcluded (cfg : CrabCfg) (task : CrabTask) : List String :=
  if task.crabBlacklist = [] then cfg.blacklist else task.crabBlacklist

/-- The whitelist that a submission resolves. -/
def handAllowed (cfg : CrabCfg) (task : CrabTask) : List String :=
  let configured := if task.crabWhitelist = [] then cfg.whitelist else task.crabWhitelist
  if configured = [] then crabAllSites else configured

/-- What is asked of a submitted whitelist: of the processing sites it matches
those that are allowed and not excluded, by hand or by the quarantine, and it
matches no excluded name at all. -/
structure PoolKept (allowed excluded quarantined sites whitelist : List String) : Prop where
  pool : ∀ site ∈ sites,
    Admits whitelist site ↔ Admits allowed site ∧ site ∉ excluded ∧ site ∉ quarantined
  keptOut : ∀ name, name ∈ excluded ∨ name ∈ quarantined → ¬Admits whitelist name

/-- What is asked of a submission: the pool of the task that is configured, or,
where the choice of sites fails, that no site was left. -/
def PoolDecided (cfg : CrabCfg) (task : CrabTask) (quarantined sites : List String) :
    Except JobConfigError JobConfig → Prop
  | .ok config => PoolKept (handAllowed cfg task) (handExcluded cfg task) quarantined sites
      config.terms.whitelist
  | .error (.selection _) => ∀ site ∈ sites, Admits (handAllowed cfg task) site →
      site ∈ handExcluded cfg task ∨ site ∈ quarantined
  | .error _ => True

section Pool

variable {cfg : CrabCfg} {task : CrabTask} {around : Surroundings} {sites : List String}

theorem mem_excludedSites {name : String} :
    name ∈ excludedSites cfg task around ↔
      name ∈ handExcluded cfg task ∨ name ∈ around.quarantined := by
  simp only [excludedSites, handExcluded, List.mem_append, List.mem_filter, decide_eq_true_eq]
  tauto

/-- A list of names matches its own names. -/
theorem admits_iff_of_plain {entries : List String} (plain : ∀ entry ∈ entries, IsPlain entry)
    {name : String} : Admits entries name ↔ name ∈ entries := by
  constructor
  · rintro ⟨entry, member, matched⟩
    rwa [(fnmatch_plain_iff (plain entry member)).mp matched]
  · intro member
    exact ⟨name, member, (fnmatch_plain_iff (plain name member)).mpr rfl⟩

/-- Every resolved entry is one of the whitelist, or matched by one. -/
theorem admits_of_left {whitelist blacklist : List String} {name : String}
    (plain : ∀ site ∈ sites, IsPlain site)
    (left : Admits (whitelist.flatMap (resolveEntry blacklist sites)) name) :
    Admits whitelist name := by
  obtain ⟨entry, member, resolved, isLeft, matched⟩ := admits_flatMap.mp left
  by_cases kept : hits blacklist entry = []
  · rw [resolveEntry_of_not_hit kept, List.mem_singleton] at isLeft
    exact ⟨entry, member, isLeft ▸ matched⟩
  · obtain ⟨listed, covered, _⟩ := (mem_resolveEntry_of_hit kept).mp isLeft
    rw [(fnmatch_plain_iff (plain resolved listed)).mp matched]
    exact ⟨entry, member, covered⟩

/-- What a resolved whitelist matches, when all exclusions are names. -/
theorem poolKept_of_resolved (plainSites : ∀ site ∈ sites, IsPlain site)
    (plain : ∀ name ∈ excludedSites cfg task around, IsPlain name) {whitelist : List String}
    (resolved : resolveWhitelist (handAllowed cfg task) (excludedSites cfg task around) sites =
      .ok whitelist) :
    PoolKept (handAllowed cfg task) (handExcluded cfg task) around.quarantined sites whitelist := by
  let blacklist := excludedSites cfg task around
  have notExcluded : ∀ name, name ∉ handExcluded cfg task ∧ name ∉ around.quarantined ↔
      name ∉ blacklist := by
    intro name
    rw [← not_or]
    exact not_congr mem_excludedSites.symm
  rw [resolveWhitelist] at resolved
  split at resolved
  · rename_i nothing
    cases resolved
    have free : ∀ name, name ∉ blacklist := by
      intro name
      simp [blacklist, nothing]
    constructor
    · exact fun site _ => (and_iff_left ((notExcluded site).mpr (free site))).symm
    · exact fun name excluded => absurd (mem_excludedSites.mpr excluded) (free name)
  · dsimp only at resolved
    split at resolved
    · cases resolved
    cases resolved
    have reachesNothing : PatternsReachNothing (fun _ => True) (handAllowed cfg task) blacklist
        sites := patternsReachNothing_of_plain plain
    have excludes := (excludes_left_iff plainSites).mpr reachesNothing
    have keptOut : ∀ name ∈ blacklist, ¬Admits ((handAllowed cfg task).flatMap
        (resolveEntry blacklist sites)) name := fun name member =>
      excludes name trivial ((admits_iff_of_plain plain).mpr member)
    constructor
    case pool =>
      intro site listed
      rw [notExcluded]
      constructor
      · intro admitted
        exact ⟨admits_of_left plainSites admitted, fun member => keptOut site member admitted⟩
      · rintro ⟨allowed, free⟩
        exact admits_left plainSites listed allowed fun excluded =>
          free ((admits_iff_of_plain plain).mp excluded)
    case keptOut => exact fun name excluded => keptOut name (mem_excludedSites.mpr excluded)

/-- A whitelist that leaves no site has only sites that are excluded. -/
theorem excluded_of_selectionError (plainSites : ∀ site ∈ sites, IsPlain site)
    (plain : ∀ name ∈ excludedSites cfg task around, IsPlain name) {error : SelectionError}
    (failed : resolveWhitelist (handAllowed cfg task) (excludedSites cfg task around) sites =
      .error error) {site : String} (listed : site ∈ sites)
    (allowed : Admits (handAllowed cfg task) site) :
    site ∈ handExcluded cfg task ∨ site ∈ around.quarantined := by
  rw [resolveWhitelist] at failed
  split at failed
  · cases failed
  dsimp only at failed
  split at failed
  · rename_i nothingLeft
    by_contra free
    have notExcluded : ¬Admits (excludedSites cfg task around) site := fun excluded =>
      free (mem_excludedSites.mp ((admits_iff_of_plain plain).mp excluded))
    obtain ⟨entry, member, _⟩ := nothingLeft ▸ admits_left plainSites listed allowed notExcluded
    cases member
  · cases failed

end Pool

/-! ## Why a task is refused -/

/-- A computation that never fails for the choice of the sites. -/
def NeverSelects {α : Type} (result : Except JobConfigError α) : Prop :=
  ∀ error, result ≠ .error (.selection error)

/-- A computation that fails for the choice of the sites fails behind a part
that never does. -/
theorem NeverSelects.rest {α β : Type} {first : Except JobConfigError α}
    {next : α → Except JobConfigError β} {error : SelectionError} (before : NeverSelects first)
    (failed : (first >>= next) = .error (.selection error)) :
    ∃ value, first = .ok value ∧ next value = .error (.selection error) := by
  cases outcome : first with
  | error other =>
      rw [outcome] at failed
      change (Except.error other : Except JobConfigError β) = _ at failed
      cases failed
      exact absurd outcome (before error)
  | ok value =>
      rw [outcome] at failed
      exact ⟨value, rfl, failed⟩

theorem neverSelects_bind {α β : Type} {first : Except JobConfigError α}
    {next : α → Except JobConfigError β} (before : NeverSelects first)
    (after : ∀ value, NeverSelects (next value)) : NeverSelects (first >>= next) := by
  intro error failed
  obtain ⟨value, _, behind⟩ := before.rest failed
  exact after value error behind

/-- Nor does what fails only as another error does. -/
theorem neverSelects_mapError {ε α : Type} {wrap : ε → JobConfigError}
    (other : ∀ fault error, wrap fault ≠ .selection error) (result : Except ε α) :
    NeverSelects (result.mapError wrap) := by
  intro error failed
  cases result with
  | ok value => cases failed
  | error fault => exact other fault error (Except.error.inj failed)

theorem neverSelects_getInt (cfg : CrabCfg) (name : String) (default : ℤ) :
    NeverSelects (cfg.getInt name default) :=
  neverSelects_mapError (by simp) _

theorem neverSelects_limits (cfg : CrabCfg) : NeverSelects cfg.limits := by
  rw [CrabCfg.limits]
  apply neverSelects_bind
  · intro error failed
    rw [CrabCfg.checked] at failed
    split at failed <;> cases failed
  intro _
  refine neverSelects_bind (neverSelects_getInt cfg _ _) fun _ => ?_
  refine neverSelects_bind (neverSelects_getInt cfg _ _) fun _ => ?_
  refine neverSelects_bind (neverSelects_getInt cfg _ _) fun _ => ?_
  refine neverSelects_bind (neverSelects_mapError (by simp) _) fun _ => ?_
  intro error failed
  cases failed

theorem neverSelects_resources (task : CrabTask) (limits : Limits) :
    NeverSelects (task.resources limits) := by
  intro error failed
  rw [CrabTask.resources] at failed
  split at failed
  · cases failed
  split at failed
  · cases failed
  split at failed
  · cases failed
  dsimp only at failed
  split at failed <;> cases failed

theorem neverSelects_runtimeMinutes (cfg : CrabCfg) (task : CrabTask) :
    NeverSelects (runtimeMinutes cfg task) := by
  rw [runtimeMinutes]
  split
  · intro error failed
    cases failed
  split
  · refine neverSelects_bind (neverSelects_getInt cfg _ _) fun _ => ?_
    intro error failed
    split at failed <;> cases failed
  · intro error failed
    cases failed

/-- A task that is refused for its sites has no whitelist left. -/
theorem allowedSites_of_selection {cfg : CrabCfg} {task : CrabTask} {around : Surroundings}
    {error : SelectionError} (failed : crabJobConfig cfg task around = .error (.selection error)) :
    allowedSites cfg task around = .error (.selection error) := by
  have terms : jobTerms cfg task around = .error (.selection error) := by
    rw [crabJobConfig] at failed
    obtain ⟨limits, _, behind⟩ := (neverSelects_limits cfg).rest failed
    obtain ⟨granted, _, inTerms⟩ := (neverSelects_resources task limits).rest behind
    cases outcome : jobTerms cfg task around with
    | error other =>
        rw [outcome] at inTerms
        cases inTerms
        rfl
    | ok terms =>
        rw [outcome] at inTerms
        cases inTerms
  rw [jobTerms] at terms
  obtain ⟨_, _, behind⟩ := (neverSelects_mapError (by simp) around.prepared).rest terms
  obtain ⟨_, _, inSites⟩ := (neverSelects_runtimeMinutes cfg task).rest behind
  cases outcome : allowedSites cfg task around with
  | error other =>
      rw [outcome] at inSites
      cases inSites
      rfl
  | ok whitelist =>
      rw [outcome] at inSites
      cases inSites

/-- A task that is configured has a whitelist. -/
theorem allowedSites_of_configured {cfg : CrabCfg} {task : CrabTask} {around : Surroundings}
    {config : JobConfig} (configured : crabJobConfig cfg task around = .ok config) :
    allowedSites cfg task around = .ok config.terms.whitelist := by
  have terms : jobTerms cfg task around = .ok config.terms := by
    cases readable : cfg.limits with
    | error error =>
        rw [crabJobConfig, readable] at configured
        cases configured
    | ok limits => exact ((crabJobConfig_eq_ok readable).mp configured).2
  rw [jobTerms] at terms
  cases prepared : around.prepared with
  | error error =>
      rw [prepared] at terms
      cases terms
  | ok _ =>
      rw [prepared] at terms
      cases minutes : runtimeMinutes cfg task with
      | error error =>
          rw [minutes] at terms
          cases terms
      | ok _ =>
          rw [minutes] at terms
          cases outcome : allowedSites cfg task around with
          | error error =>
              rw [outcome] at terms
              cases terms
          | ok whitelist =>
              rw [outcome] at terms
              exact congrArg Except.ok (congrArg JobTerms.whitelist (Except.ok.inj terms))

/-! ## Over a production -/

open SiteStats in
/-- The sites in quarantine have names. -/
theorem isSite_of_mem_blacklist {stats : SiteStats} {now : ℚ}
    (named : ∀ site ∈ stats.sites.keys, isSite site = true) {site : String}
    (quarantined : site ∈ (stats.blacklist now).1) : isSite site = true := by
  cases enabled : stats.cfg.enabled with
  | false =>
      rw [blacklist_of_disabled enabled] at quarantined
      cases quarantined
  | true =>
      rw [fst_blacklist enabled] at quarantined
      obtain ⟨entry, banned⟩ := exists_active_of_mem_listed quarantined
      have known := Dict.mem_keys_of_get? (mem_active.mp banned).1
      rcases (marks_blacklist stats now).keys site known with before | isNamed
      · exact named site before
      · exact isNamed

open SiteStats in
/-- Over every history of the site record, a CRAB task is submitted with a
whitelist that matches the processing sites that are allowed and neither
excluded by hand nor in quarantine, and it is refused for its sites only when
there are none. -/
theorem task_pool_kept (statsCfg : SiteStats.Config) (calls : List Call) (now : ℚ) (cfg : CrabCfg)
    (task : CrabTask) (prepared : Except String Unit) (sites : List String)
    (plainSites : ∀ site ∈ sites, IsPlain site)
    (plainExcluded : ∀ name ∈ handExcluded cfg task, IsPlain name) :
    let stats := (run Persisted.step (Persisted.new statsCfg) calls).stats
    let quarantined := (stats.blacklist now).1
    PoolDecided cfg task quarantined sites
      (crabJobConfig cfg task ⟨prepared, quarantined, .ok sites⟩) := by
  intro stats quarantined
  let around : Surroundings := ⟨prepared, quarantined, .ok sites⟩
  have synced := synced_run statsCfg calls
  have plain : ∀ name ∈ excludedSites cfg task around, IsPlain name := by
    intro name excluded
    rcases mem_excludedSites.mp excluded with byHand | inQuarantine
    · exact plainExcluded name byHand
    · exact isPlain_of_isSite (isSite_of_mem_blacklist synced.sites inQuarantine)
  have selects : allowedSites cfg task around =
      (resolveWhitelist (handAllowed cfg task) (excludedSites cfg task around) sites).mapError
        .selection := rfl
  cases configured : crabJobConfig cfg task around with
  | ok config =>
      have left := allowedSites_of_configured configured
      rw [selects] at left
      cases resolved : resolveWhitelist (handAllowed cfg task) (excludedSites cfg task around)
          sites with
      | error error =>
          rw [resolved] at left
          cases left
      | ok whitelist =>
          rw [resolved] at left
          have same : whitelist = config.terms.whitelist := Except.ok.inj left
          exact poolKept_of_resolved plainSites plain (same ▸ resolved)
  | error error =>
      cases error with
      | selection error =>
          have left := allowedSites_of_selection configured
          rw [selects] at left
          cases resolved : resolveWhitelist (handAllowed cfg task) (excludedSites cfg task around)
              sites with
          | ok whitelist =>
              rw [resolved] at left
              cases left
          | error other =>
              intro site listed allowed
              exact excluded_of_selectionError plainSites plain resolved listed allowed
      | _ => trivial

/-- Five failures in a row at one site, and twenty jobs that succeed elsewhere. -/
def oneBadSite : List SiteStats.Call :=
  List.replicate 5 (.op (.record "T2_DE_DESY" false 60)) ++
    List.replicate 20 (.op (.record "T1_DE_KIT" true 60))

/-- A submission that finds the site in quarantine. -/
def nextTask : Except JobConfigError JobConfig :=
  crabJobConfig {} ⟨1, 0, -1, none, [], []⟩
    ⟨.ok (), ["T2_DE_DESY"], .ok ["T1_DE_KIT", "T2_DE_DESY", "T2_US_MIT"]⟩

/-- The failing site is left out of the next task. -/
theorem task_pool_kept_oneBadSite :
    ((run SiteStats.Persisted.step (SiteStats.Persisted.new {}) oneBadSite).stats.blacklist 120).1 =
        ["T2_DE_DESY"] ∧
      PoolDecided {} ⟨1, 0, -1, none, [], []⟩ ["T2_DE_DESY"]
        ["T1_DE_KIT", "T2_DE_DESY", "T2_US_MIT"] nextTask ∧
      nextTask.toOption.map (fun config => config.terms.whitelist) =
        some ["T1_*", "T2_US_MIT", "T3_*"] := by
  have quarantined : ((run SiteStats.Persisted.step (SiteStats.Persisted.new {})
      oneBadSite).stats.blacklist 120).1 = ["T2_DE_DESY"] := by
    decide +kernel
  refine ⟨quarantined, ?_, by decide +kernel⟩
  simpa only [quarantined, nextTask] using task_pool_kept {} oneBadSite 120 {}
    ⟨1, 0, -1, none, [], []⟩ (.ok ()) ["T1_DE_KIT", "T2_DE_DESY", "T2_US_MIT"] (by decide)
    (by decide)

end DSProd.Crab
