import DSProd.Crab.Harvest
import Mathlib.Algebra.BigOperators.Group.Finset.Piecewise

/-!
# Jobs in flight

The job manager keeps the jobs in flight of each project, as its latest status
response had them, drops a project that has not been harvested for a while, and
gives the record of the sites the sum.
-/

namespace DSProd.Crab

open DSProd.Library
open DSProd.Watchdog

/-- A response that was harvested: of which project, and when. -/
structure Counted where
  projDir : String
  clock : ℚ
  result : Dict JobId StatusEntry

/-- What an event harvests: a response with jobs in it, as the watchdog left it. -/
def counts (harvester : Harvester) : Event → List Counted
  | .query query =>
      let applied := applyWatchdog harvester.manager query.query
      if applied.1.siteStats.isSome ∧ applied.2.items ≠ [] then
        [⟨query.projDir, query.query.clock, applied.2⟩]
      else []
  | _ => []

/-- The latest response of a project, unless a harvest since then took place
more than `in_flight_stale_seconds` after it. -/
def latest (projDir : String) : List Counted → Option Counted
  | [] => none
  | first :: rest =>
      if first.projDir = projDir ∧
          ∀ later ∈ rest, later.projDir ≠ projDir ∧
            later.clock - inFlightStaleSeconds ≤ first.clock then
        some first
      else latest projDir rest

/-- The jobs of a response that have not ended and were last at some site. -/
def inFlightAt (result : Dict JobId StatusEntry) (site : String) : Nat :=
  result.items.countP fun item =>
    item.2.status ≠ .finished && item.2.status ≠ .failed &&
      item.2.siteHistory.getLast? = some site

/-! ## Counters -/

theorem getD_addTo (counter : Dict String Nat) (key other : String) (number : Nat) :
    (addTo counter key number).getD other 0 =
      counter.getD other 0 + if key = other then number else 0 := by
  rw [addTo, Dict.getD, Dict.get?_set]
  by_cases same : other = key
  · subst same
    simp [Dict.getD]
  · simp [same, Ne.symm same, Dict.getD]

theorem getD_eq_sum (counts : Dict String Nat) (site : String) :
    counts.getD site 0 =
      (counts.items.map fun item => if item.1 = site then item.2 else 0).sum := by
  have total : ∀ items : List (String × Nat), (items.map Prod.fst).Nodup →
      (Dict.lookupItems site items).getD 0 =
        (items.map fun item => if item.1 = site then item.2 else 0).sum := by
    intro items distinct
    induction items with
    | nil => rfl
    | cons first rest ih =>
        rw [List.map_cons, List.nodup_cons] at distinct
        by_cases same : first.1 = site
        · have others : (Dict.lookupItems site rest).getD 0 = 0 := by
            rw [Dict.lookupItems_eq_none_iff.mpr (same ▸ distinct.1)]
            rfl
          rw [ih distinct.2] at others
          simp [Dict.lookupItems, same, others]
        · simp [Dict.lookupItems, same, ih distinct.2]
  exact total counts.items counts.nodupKeys

theorem getD_addCounts (counter counts : Dict String Nat) (site : String) :
    (addCounts counter counts).getD site 0 = counter.getD site 0 + counts.getD site 0 := by
  rw [getD_eq_sum counts, addCounts]
  generalize counts.items = items
  induction items generalizing counter with
  | nil => rfl
  | cons first rest ih =>
      rw [List.foldl_cons, ih, getD_addTo, List.map_cons, List.sum_cons, Nat.add_assoc]

/-- The sum over the projects, site by site. -/
theorem getD_combined (inFlight : Dict String (ℚ × Dict String Nat)) (site : String) :
    (combined inFlight).getD site 0 =
      (inFlight.values.map fun entry => entry.2.getD site 0).sum := by
  have total : ∀ (entries : List (ℚ × Dict String Nat)) (counter : Dict String Nat),
      (entries.foldl (fun total entry => addCounts total entry.2) counter).getD site 0 =
        counter.getD site 0 + (entries.map fun entry => entry.2.getD site 0).sum := by
    intro entries
    induction entries with
    | nil => simp
    | cons first rest ih =>
        intro counter
        rw [List.foldl_cons, ih, getD_addCounts, List.map_cons, List.sum_cons, Nat.add_assoc]
  rw [combined, total]
  exact Nat.zero_add _

/-- The loop counts the jobs that have not ended at their last sites. -/
theorem getD_inFlight_run (clock : ℚ) (harvest : Harvest) (items : List (JobId × StatusEntry))
    (site : String) :
    (run (harvestJob clock) harvest items).inFlight.getD site 0 =
      harvest.inFlight.getD site 0 + items.countP fun item =>
        item.2.status ≠ .finished && item.2.status ≠ .failed &&
          item.2.siteHistory.getLast? = some site := by
  induction items generalizing harvest with
  | nil => rfl
  | cons first rest ih =>
      have noted : ∀ last ok,
          (noteOutcome clock harvest first.1 last ok).inFlight = harvest.inFlight := by
        intro last ok
        rw [noteOutcome]
        split <;> rfl
      rw [run_cons, ih, List.countP_cons, harvestJob]
      cases first.2.siteHistory.getLast? with
      | none => simp
      | some last =>
          cases status : first.2.status with
          | finished => simp [noted]
          | failed => cases first.2.code <;> simp [noted]
          | pending | running | retry =>
              by_cases same : last = site
              · simp [getD_addTo, same]
                omega
              · simp [getD_addTo, same]

/-! ## Projects -/

/-- What is kept of each project is what its latest response says. -/
def Kept (inFlight : Dict String (ℚ × Dict String Nat)) (log : List Counted) : Prop :=
  ∀ projDir, Option.Rel
    (fun entry counted => entry.1 = counted.clock ∧
      ∀ site, entry.2.getD site 0 = inFlightAt counted.result site)
    (inFlight.get? projDir) (latest projDir log)

theorem latest_eq_none {projDir : String} {log : List Counted}
    (others : ∀ counted ∈ log, counted.projDir ≠ projDir) : latest projDir log = none := by
  induction log with
  | nil => rfl
  | cons first rest ih =>
      rw [latest, if_neg fun isLatest => others first List.mem_cons_self isLatest.1]
      exact ih fun counted member => others counted (List.mem_cons_of_mem first member)

/-- One more harvest: the latest of its project, and the end of older ones that
are stale by then. -/
theorem latest_concat (projDir : String) (log : List Counted) (counted : Counted) :
    latest projDir (log ++ [counted]) =
      if counted.projDir = projDir then some counted
      else (latest projDir log).filter fun earlier =>
        counted.clock - inFlightStaleSeconds ≤ earlier.clock := by
  induction log with
  | nil => simp [latest]
  | cons first rest ih =>
      rw [List.cons_append, latest, ih]
      by_cases same : counted.projDir = projDir
      · rw [if_pos same, if_pos same, if_neg]
        rintro ⟨_, others⟩
        exact (others counted (by simp)).1 same
      rw [if_neg same, if_neg same, latest]
      by_cases isLatest : first.projDir = projDir ∧ ∀ later ∈ rest,
          later.projDir ≠ projDir ∧ later.clock - inFlightStaleSeconds ≤ first.clock
      · rw [if_pos isLatest]
        by_cases fresh : counted.clock - inFlightStaleSeconds ≤ first.clock
        · rw [if_pos, Option.filter_some, if_pos (by simpa using fresh)]
          refine ⟨isLatest.1, ?_⟩
          intro later member
          rw [List.mem_append, List.mem_singleton] at member
          rcases member with earlier | rfl
          · exact isLatest.2 later earlier
          · exact ⟨same, fresh⟩
        · have noOther : latest projDir rest = none :=
            latest_eq_none fun later member => (isLatest.2 later member).1
          rw [if_neg, noOther, Option.filter_some, if_neg (by simpa using fresh)]
          · rfl
          · rintro ⟨_, others⟩
            exact fresh (others counted (by simp)).2
      · rw [if_neg isLatest, if_neg]
        rintro ⟨isProject, others⟩
        exact isLatest ⟨isProject, fun later member =>
          others later (List.mem_append_left _ member)⟩

/-- A harvest replaces what is kept of its project, and drops what is stale. -/
theorem kept_set {inFlight : Dict String (ℚ × Dict String Nat)} {log : List Counted}
    (kept : Kept inFlight log) (counted : Counted) {counts : Dict String Nat}
    (isCount : ∀ site, counts.getD site 0 = inFlightAt counted.result site) :
    Kept ((inFlight.set counted.projDir (counted.clock, counts)).filter fun _ entry =>
        counted.clock - inFlightStaleSeconds ≤ entry.1)
      (log ++ [counted]) := by
  intro projDir
  rw [Dict.get?_filter, latest_concat, Dict.get?_set]
  by_cases same : projDir = counted.projDir
  · have fresh : counted.clock - inFlightStaleSeconds ≤ counted.clock := by
      simp [inFlightStaleSeconds]
    rw [if_pos same, if_pos same.symm, Option.filter_some, if_pos (by simpa using fresh)]
    exact Option.Rel.some ⟨rfl, isCount⟩
  · rw [if_neg same, if_neg (Ne.symm same)]
    have related := kept projDir
    generalize inFlight.get? projDir = found at related ⊢
    generalize latest projDir log = newest at related ⊢
    cases related with
    | none => exact Option.Rel.none
    | @some entry earlier related =>
        rw [Option.filter_some, Option.filter_some, related.1]
        split
        · exact Option.Rel.some related
        · exact Option.Rel.none

theorem kept_step (harvester : Harvester) (log : List Counted) (event : Event)
    (kept : Kept harvester.inFlight log) :
    Kept (harvester.step event).inFlight (log ++ counts harvester event) := by
  cases event with
  | setJobs | refresh | blacklist => simpa [Harvester.step, counts] using kept
  | query query =>
      rw [counts, Harvester.step, digest, harvestSiteStats]
      cases present : (applyWatchdog harvester.manager query.query).1.siteStats with
      | none => simpa [present] using kept
      | some stats =>
          by_cases empty : (applyWatchdog harvester.manager query.query).2.items = []
          · simpa [present, empty] using kept
          · simp only [empty, Option.isSome_some, ne_eq, not_false_eq_true, and_self,
              if_true, if_false]
            apply kept_set kept ⟨query.projDir, query.query.clock,
              (applyWatchdog harvester.manager query.query).2⟩
            intro site
            rw [getD_inFlight_run]
            exact Nat.zero_add _

/-- The sum over the keys of a dictionary, each key once. -/
theorem sum_values (inFlight : Dict String (ℚ × Dict String Nat))
    (tally : ℚ × Dict String Nat → Nat) :
    (inFlight.values.map tally).sum =
      ∑ projDir ∈ inFlight.keys.toFinset, (inFlight.get? projDir).elim 0 tally := by
  rw [List.sum_toFinset _ inFlight.keys_nodup]
  congr 1
  rw [Dict.values, Dict.keys, List.map_map, List.map_map]
  apply List.map_congr_left
  intro item member
  have found := Dict.get?_eq_some_iff.mpr member
  simp [found]

/-- What is kept adds up to the latest responses. -/
theorem getD_combined_of_kept {inFlight : Dict String (ℚ × Dict String Nat)} {log : List Counted}
    (kept : Kept inFlight log) (site : String) :
    (combined inFlight).getD site 0 =
      ∑ projDir ∈ (log.map Counted.projDir).toFinset,
        (latest projDir log).elim 0 fun counted => inFlightAt counted.result site := by
  have each : ∀ projDir, ((inFlight.get? projDir).elim 0 fun entry => entry.2.getD site 0) =
      (latest projDir log).elim 0 fun counted => inFlightAt counted.result site := by
    intro projDir
    have related := kept projDir
    generalize inFlight.get? projDir = found at related ⊢
    generalize latest projDir log = newest at related ⊢
    cases related with
    | none => rfl
    | some related => exact related.2 site
  rw [getD_combined, sum_values]
  simp only [each]
  apply Finset.sum_subset
  · intro projDir known
    rw [List.mem_toFinset] at known ⊢
    obtain ⟨entry, found⟩ := Dict.mem_keys_iff.mp known
    by_contra absent
    have noLatest : latest projDir log = none :=
      latest_eq_none fun counted member same =>
        absent (List.mem_map.mpr ⟨counted, member, same⟩)
    have related := kept projDir
    rw [found, noLatest] at related
    cases related
  · intro projDir _ unknown
    rw [List.mem_toFinset] at unknown
    have missing : inFlight.get? projDir = none := Dict.get?_eq_none_iff.mpr unknown
    rw [← each, missing]
    rfl

/-- A harvest leaves the jobs in flight of a site as they are in the latest
responses. -/
theorem inFlight_of_counts_ne_nil {harvester : Harvester} {query : ProjectQuery}
    (harvests : counts harvester (.query query) ≠ []) :
    ∃ stats, (harvester.step (.query query)).manager.siteStats = some stats ∧
      ∀ site, SiteStats.isSite site = true → stats.inFlight.getD site 0 =
        (combined (harvester.step (.query query)).inFlight).getD site 0 := by
  rw [counts] at harvests
  rw [Harvester.step, digest, harvestSiteStats]
  cases present : (applyWatchdog harvester.manager query.query).1.siteStats with
  | none => simp [present] at harvests
  | some stats =>
      by_cases empty : (applyWatchdog harvester.manager query.query).2.items = []
      · simp [present, empty] at harvests
      · simp only [empty, if_false]
        refine ⟨_, rfl, ?_⟩
        intro site isSite
        simp only [SiteStats.setInFlight, Dict.getD, Dict.get?_filter]
        generalize Dict.get? _ site = number
        cases number <;> simp [isSite, Option.filter]

end DSProd.Crab
