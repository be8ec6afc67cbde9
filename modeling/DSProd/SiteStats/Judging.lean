import DSProd.SiteStats.Core

/-!
# What a call does to the record

The spec lemmas of `prune`, `expire`, `quarantine` and `blacklist`: for each
site, its record after the call as a function of the state before it.  The
loop of `_quarantine` writes the records while it reads them, but its tests
read outcomes only, and no ban changes an outcome; so the loop is one pass of
the tests over the state it starts from.
-/

namespace DSProd.SiteStats

open DSProd.Library

variable {stats : SiteStats}

/-! ## Pruning and expiry -/

theorem pruneRecord_eq (cutoff : ℚ) (entry : SiteRecord) :
    (pruneRecord cutoff entry).1 =
      { entry with events := entry.events.filter fun event => cutoff ≤ event.1 } := by
  by_cases sameLength :
      (entry.events.filter fun event => decide (cutoff ≤ event.1)).length = entry.events.length
  · have same := List.filter_sublist.eq_of_length sameLength
    simp only [pruneRecord, same, ne_eq, not_true_eq_false, if_false]
  · simp only [pruneRecord, ne_eq, sameLength, not_false_eq_true, if_true]

@[simp]
theorem cfg_settle (stats : SiteStats) (now : ℚ) : (stats.settle now).cfg = stats.cfg :=
  rfl

/-- The record of a site in the state `blacklist` judges. -/
def settleRecord (cfg : Config) (now : ℚ) (entry : SiteRecord) : SiteRecord :=
  (expireRecord now (pruneRecord (now - cfg.windowHours * 3600) entry).1).1

theorem settleRecord_eq (cfg : Config) (now : ℚ) (entry : SiteRecord) :
    settleRecord cfg now entry =
      { entry with
        events := entry.events.filter fun event => now - cfg.windowHours * 3600 ≤ event.1
        clearedAt := if 0 < entry.quarantinedUntil ∧ entry.quarantinedUntil ≤ now
          then entry.quarantinedUntil else entry.clearedAt
        quarantinedUntil := if 0 < entry.quarantinedUntil ∧ entry.quarantinedUntil ≤ now
          then 0 else entry.quarantinedUntil } := by
  rw [settleRecord, pruneRecord_eq, expireRecord]
  split <;> rfl

theorem get?_settle (stats : SiteStats) (now : ℚ) (site : String) :
    (stats.settle now).sites.get? site =
      (stats.sites.get? site).map (settleRecord stats.cfg now) := by
  simp only [settle, expire, prune, Dict.get?_mapValues, Option.map_map]
  rfl

theorem events_settleRecord (cfg : Config) (now : ℚ) (entry : SiteRecord) :
    (settleRecord cfg now entry).events =
      entry.events.filter fun event => now - cfg.windowHours * 3600 ≤ event.1 := by
  rw [settleRecord_eq]

theorem quarantines_settleRecord (cfg : Config) (now : ℚ) (entry : SiteRecord) :
    (settleRecord cfg now entry).quarantines = entry.quarantines := by
  rw [settleRecord_eq]

/-- A ban that still runs is left alone by the expiry. -/
theorem quarantinedUntil_settleRecord_of_lt {cfg : Config} {now : ℚ} {entry : SiteRecord}
    (running : now < entry.quarantinedUntil) :
    (settleRecord cfg now entry).quarantinedUntil = entry.quarantinedUntil := by
  rw [settleRecord_eq]
  apply if_neg
  intro expired
  exact not_lt_of_ge expired.2 running

/-- Whether a ban runs at a moment is not changed by settling at that moment. -/
theorem lt_quarantinedUntil_settleRecord (cfg : Config) (now : ℚ) (entry : SiteRecord) :
    now < (settleRecord cfg now entry).quarantinedUntil ↔ now < entry.quarantinedUntil := by
  constructor
  · intro running
    by_contra stopped
    rw [settleRecord_eq] at running
    dsimp only at running
    split at running
    case isTrue expired => exact not_lt_of_ge (expired.1.le.trans expired.2) running
    case isFalse => exact stopped running
  · intro running
    rwa [quarantinedUntil_settleRecord_of_lt running]

/-! ## The tests read outcomes only -/

/-- What the tests read of a state. -/
def evidenceOf (stats : SiteStats) : Config × Dict String Nat × List (String × List Event) :=
  (stats.cfg, stats.inFlight, stats.sites.items.map fun item => (item.1, item.2.events))

theorem sumOthers_congr (tally : String → List Event → Nat × Nat) (site : String)
    {first second : List (String × SiteRecord)}
    (same : (first.map fun item => (item.1, item.2.events)) =
      second.map fun item => (item.1, item.2.events)) :
    sumOthers (fun name entry => tally name entry.events) site first =
      sumOthers (fun name entry => tally name entry.events) site second := by
  have through : ∀ items : List (String × SiteRecord),
      sumOthers (fun name entry => tally name entry.events) site items =
        (items.map fun item => (item.1, item.2.events)).foldl
          (fun total item =>
            if item.1 = site then total
            else (total.1 + (tally item.1 item.2).1, total.2 + (tally item.1 item.2).2))
          (0, 0) := by
    intro items
    rw [List.foldl_map]
    rfl
  rw [through, through, same]

theorem condemned_congr {first second : SiteStats} (same : evidenceOf first = evidenceOf second)
    (now : ℚ) (site : String) (entry : SiteRecord) :
    condemned first now site entry = condemned second now site entry := by
  simp only [evidenceOf, Prod.mk.injEq] at same
  obtain ⟨cfgEq, inFlightEq, eventsEq⟩ := same
  have baselineEq : baseline first site = baseline second site := by
    have totals := sumOthers_congr
      (fun name events => (events.length + first.inFlight.getD name 0, (failures events).length))
      site eventsEq
    simp only [baseline, counts, countedEvents, ne_eq, not_true_eq_false, if_false]
    rw [totals, inFlightEq]
  have burstBaselineEq :
      ∀ since, burstBaseline first site since = burstBaseline second site since := by
    intro since
    have totals := sumOthers_congr
      (fun _ events =>
        ((events.filter fun event => decide (since ≤ event.1)).length,
          (failures (events.filter fun event => decide (since ≤ event.1))).length))
      site eventsEq
    simp only [burstBaseline, endedSince, eventsSince]
    rw [totals]
  simp only [condemned, isBurst, isFailing, burstSince, counts, cfgEq, inFlightEq, baselineEq,
    burstBaselineEq]

theorem evidenceOf_ban {site : String} {entry : SiteRecord} (now : ℚ)
    (found : stats.sites.get? site = some entry) :
    evidenceOf { stats with
      sites := stats.sites.set site (banRecord stats.cfg now entry), dirty := true } =
      evidenceOf stats := by
  have eventsEq := Dict.mapValues_set_of_same SiteRecord.events found
    (rfl : (banRecord stats.cfg now entry).events = entry.events)
  have itemsEq := congrArg Dict.items eventsEq
  simp only [Dict.mapValues] at itemsEq
  simp only [evidenceOf, itemsEq]

/-! ## The quarantine loop -/

/-- The record of a site after the loop of `_quarantine`. -/
def judgeRecord (stats : SiteStats) (now : ℚ) (site : String) (entry : SiteRecord) : SiteRecord :=
  if condemned stats now site entry then banRecord stats.cfg now entry else entry

theorem evidenceOf_quarantineSite (stats : SiteStats) (now : ℚ) (site : String) :
    evidenceOf (quarantineSite now stats site) = evidenceOf stats := by
  rw [quarantineSite]
  cases found : stats.sites.get? site with
  | none => rfl
  | some entry =>
      dsimp only
      split
      · exact evidenceOf_ban now found
      · rfl

theorem get?_quarantineSite (stats : SiteStats) (now : ℚ) (site other : String) :
    (quarantineSite now stats site).sites.get? other =
      if other = site then (stats.sites.get? site).map (judgeRecord stats now site)
      else stats.sites.get? other := by
  unfold quarantineSite judgeRecord
  cases found : stats.sites.get? site with
  | none =>
      by_cases asked : other = site
      · simp [asked, found]
      · simp [asked]
  | some entry =>
      by_cases asked : other = site <;> by_cases banned : condemned stats now site entry = true <;>
        simp [asked, banned, Dict.get?_set, found]

theorem get?_foldl_quarantineSite (now : ℚ) (sites : List String) (nodup : sites.Nodup)
    (site : String) :
    (sites.foldl (quarantineSite now) stats).sites.get? site =
      if site ∈ sites then (stats.sites.get? site).map (judgeRecord stats now site)
      else stats.sites.get? site := by
  induction sites generalizing stats with
  | nil => simp
  | cons head rest ih =>
      rw [List.nodup_cons] at nodup
      have sameEvidence := evidenceOf_quarantineSite stats now head
      have sameJudgement :
          judgeRecord (quarantineSite now stats head) now site = judgeRecord stats now site := by
        have cfgEq : (quarantineSite now stats head).cfg = stats.cfg :=
          congrArg Prod.fst sameEvidence
        funext entry
        simp only [judgeRecord, condemned_congr sameEvidence, cfgEq]
      rw [List.foldl_cons, ih nodup.2, sameJudgement, get?_quarantineSite]
      by_cases same : site = head
      · subst same
        simp [nodup.1]
      · simp [same]

theorem get?_quarantine (stats : SiteStats) (now : ℚ) (site : String) :
    (stats.quarantine now).sites.get? site =
      (stats.sites.get? site).map (judgeRecord stats now site) := by
  rw [quarantine, get?_foldl_quarantineSite now _ stats.sites.keys_nodup]
  split
  · rfl
  · rename_i absent
    rw [Dict.get?_eq_none_iff.mpr absent]
    rfl

theorem keys_quarantine (stats : SiteStats) (now : ℚ) :
    (stats.quarantine now).sites.keys = stats.sites.keys := by
  have general : ∀ (sites : List String) (state : SiteStats),
      (sites.foldl (quarantineSite now) state).sites.keys = state.sites.keys := by
    intro sites
    induction sites with
    | nil => exact fun _ => rfl
    | cons head rest ih =>
        intro state
        rw [List.foldl_cons, ih]
        rw [quarantineSite]
        cases found : state.sites.get? head with
        | none => rfl
        | some entry =>
            dsimp only
            split
            · exact Dict.keys_set_of_mem _ (Dict.mem_keys_of_get? found)
            · rfl
  exact general _ _

/-- The loop of `_quarantine` as one pass over the records. -/
theorem sites_quarantine (stats : SiteStats) (now : ℚ) :
    (stats.quarantine now).sites = stats.sites.mapValues (judgeRecord stats now) := by
  apply Dict.ext_get?
  · rw [keys_quarantine, Dict.keys_mapValues]
  · intro site
    rw [get?_quarantine, Dict.get?_mapValues]

theorem evidenceOf_quarantine (stats : SiteStats) (now : ℚ) :
    evidenceOf (stats.quarantine now) = evidenceOf stats := by
  have general : ∀ (sites : List String) (state : SiteStats),
      evidenceOf (sites.foldl (quarantineSite now) state) = evidenceOf state := by
    intro sites
    induction sites with
    | nil => exact fun _ => rfl
    | cons head rest ih =>
        intro state
        rw [List.foldl_cons, ih, evidenceOf_quarantineSite]
  exact general _ _

theorem cfg_quarantine (stats : SiteStats) (now : ℚ) : (stats.quarantine now).cfg = stats.cfg :=
  congrArg Prod.fst (evidenceOf_quarantine stats now)

/-! ## One call -/

theorem cfg_apply (stats : SiteStats) (op : Op) : (stats.apply op).cfg = stats.cfg := by
  cases op with
  | record site ok now =>
      simp only [apply, record]
      split <;> rfl
  | setInFlight jobs => rfl
  | blacklist now =>
      simp only [apply, blacklist]
      split
      · rfl
      · exact cfg_quarantine _ _

theorem cfg_run (stats : SiteStats) (ops : List Op) : (run apply stats ops).cfg = stats.cfg := by
  induction ops generalizing stats with
  | nil => rfl
  | cons op rest ih => rw [run_cons, ih, cfg_apply]

/-- The record of a site after `blacklist`. -/
theorem get?_blacklist (enabled : stats.cfg.enabled = true) (now : ℚ) (site : String) :
    (stats.blacklist now).2.sites.get? site =
      (stats.sites.get? site).map fun entry =>
        judgeRecord (stats.settle now) now site (settleRecord stats.cfg now entry) := by
  simp only [blacklist, enabled, Bool.not_true, Bool.false_eq_true, if_false, get?_quarantine,
    get?_settle, Option.map_map]
  rfl

/-- The state after `blacklist`, of the sites of the state it judges. -/
theorem sites_blacklist (enabled : stats.cfg.enabled = true) (now : ℚ) :
    (stats.blacklist now).2.sites =
      (stats.settle now).sites.mapValues (judgeRecord (stats.settle now) now) := by
  simp only [blacklist, enabled, Bool.not_true, Bool.false_eq_true, if_false, sites_quarantine]

theorem fst_blacklist (enabled : stats.cfg.enabled = true) (now : ℚ) :
    (stats.blacklist now).1 = listed (stats.blacklist now).2 now := by
  simp [blacklist, enabled]

theorem cfg_blacklist (stats : SiteStats) (now : ℚ) : (stats.blacklist now).2.cfg = stats.cfg :=
  cfg_apply stats (.blacklist now)

theorem blacklist_of_disabled (disabled : stats.cfg.enabled = false) (now : ℚ) :
    stats.blacklist now = ([], stats) := by
  simp [blacklist, disabled]

/-- The record of a site after `record`: pruned, with the new outcome if it is
the site's. -/
theorem get?_record (stats : SiteStats) (site : String) (ok : Bool) (now : ℚ)
    (named : isSite site = true) (other : String) :
    (stats.record site ok now).sites.get? other =
      Option.map (fun entry => (pruneRecord (now - stats.cfg.windowHours * 3600) entry).1)
        (if other = site then
          some { stats.sites.getD site newRecord with
            events := (stats.sites.getD site newRecord).events ++ [(now, ok)] }
        else stats.sites.get? other) := by
  simp only [record, named, Bool.not_true, Bool.false_eq_true, if_false, prune,
    Dict.get?_mapValues, Dict.get?_set, Dict.get?_setdefault]
  congr 1
  by_cases same : other = site <;> simp [same]

/-! ## One site across one call -/

/-- The record of a site, a fresh one if it has none yet. -/
def entryOf (stats : SiteStats) (site : String) : SiteRecord :=
  stats.sites.getD site newRecord

theorem entryOf_of_get? {site : String} {entry : SiteRecord}
    (found : stats.sites.get? site = some entry) : entryOf stats site = entry := by
  simp [entryOf, Dict.getD, found]

theorem settleRecord_newRecord (cfg : Config) (now : ℚ) :
    settleRecord cfg now newRecord = newRecord := by
  simp [settleRecord_eq, newRecord]

theorem entryOf_settle (stats : SiteStats) (now : ℚ) (site : String) :
    entryOf (stats.settle now) site = settleRecord stats.cfg now (entryOf stats site) := by
  have settled := get?_settle stats now site
  cases found : stats.sites.get? site with
  | none =>
      rw [found, Option.map_none] at settled
      simp [entryOf, Dict.getD, settled, found, settleRecord_newRecord]
  | some entry =>
      rw [found, Option.map_some] at settled
      rw [entryOf_of_get? settled, entryOf_of_get? found]

/-- The ban, the number of bans and the moment from which a site is judged. -/
def standing (entry : SiteRecord) : ℚ × ℤ × ℚ :=
  (entry.quarantinedUntil, entry.quarantines, entry.clearedAt)

/-- The outcome a call reports for a site. -/
def Op.outcome? (site : String) : Op → Option Event
  | .record named ok now => if named = site then some (now, ok) else none
  | _ => none

/-- The outcomes a history reports for a site, in order. -/
def outcomes (site : String) (ops : List Op) : List Event :=
  ops.filterMap (Op.outcome? site)

theorem outcomes_concat (site : String) (ops : List Op) (op : Op) :
    outcomes site (ops ++ [op]) = outcomes site ops ++ outcomes site [op] :=
  List.filterMap_append

theorem entryOf_of_get?_eq_none {site : String} (absent : stats.sites.get? site = none) :
    entryOf stats site = newRecord := by
  simp [entryOf, Dict.getD, absent]

/-- A call that keeps the standing of a site reports at most its outcome more. -/
def Reports (stats : SiteStats) (op : Op) (site : String) : Prop :=
  standing (entryOf (stats.apply op) site) = standing (entryOf stats site) ∧
    (entryOf (stats.apply op) site).events.Sublist
      ((entryOf stats site).events ++ outcomes site [op])

theorem reports_of_apply_eq {op : Op} (unchanged : stats.apply op = stats) (site : String) :
    stats.Reports op site := by
  rw [Reports, unchanged]
  exact ⟨rfl, List.sublist_append_left _ _⟩

/-- `record` adds its outcome to the record of its site, and prunes the others. -/
theorem reports_record (stats : SiteStats) (named : String) (ok : Bool) (now : ℚ) (site : String) :
    stats.Reports (.record named ok now) site := by
  cases isNamed : isSite named with
  | false =>
      apply reports_of_apply_eq
      simp [apply, record, isNamed]
  | true =>
      have recorded : (stats.apply (.record named ok now)).sites.get? site = _ :=
        get?_record stats named ok now isNamed site
      by_cases same : site = named
      · subst same
        rw [if_pos rfl, Option.map_some] at recorded
        have reported : outcomes site [.record site ok now] = [(now, ok)] := by
          simp [outcomes, Op.outcome?]
        rw [Reports, entryOf_of_get? recorded, pruneRecord_eq, reported]
        exact ⟨rfl, List.filter_sublist⟩
      · rw [if_neg same] at recorded
        cases found : stats.sites.get? site with
        | none =>
            rw [found, Option.map_none] at recorded
            rw [Reports, entryOf_of_get?_eq_none recorded, entryOf_of_get?_eq_none found]
            exact ⟨rfl, List.sublist_append_left _ _⟩
        | some entry =>
            rw [found, Option.map_some] at recorded
            rw [Reports, entryOf_of_get? recorded, entryOf_of_get? found, pruneRecord_eq]
            exact ⟨rfl, List.filter_sublist.trans (List.sublist_append_left _ _)⟩

/-- `blacklist` settles the record of a site, and bans it if it is condemned. -/
theorem entryOf_blacklist (enabled : stats.cfg.enabled = true) (now : ℚ) (site : String) :
    entryOf (stats.apply (.blacklist now)) site =
        settleRecord stats.cfg now (entryOf stats site) ∨
      stats.sites.get? site = some (entryOf stats site) ∧
        condemned (stats.settle now) now site
          (settleRecord stats.cfg now (entryOf stats site)) = true ∧
        entryOf (stats.apply (.blacklist now)) site =
          banRecord stats.cfg now (settleRecord stats.cfg now (entryOf stats site)) := by
  have judged : (stats.apply (.blacklist now)).sites.get? site = _ :=
    get?_blacklist enabled now site
  cases found : stats.sites.get? site with
  | none =>
      left
      rw [found, Option.map_none] at judged
      rw [entryOf_of_get?_eq_none judged, entryOf_of_get?_eq_none found, settleRecord_newRecord]
  | some entry =>
      rw [found, Option.map_some] at judged
      rw [entryOf_of_get? judged, entryOf_of_get? found, judgeRecord]
      split
      · rename_i banned
        exact Or.inr ⟨rfl, banned, rfl⟩
      · exact Or.inl rfl

/-- What a call can do to the record of a site: leave its standing, with at
most the reported outcome more; settle it; or ban the settled record. -/
theorem entryOf_apply_cases (stats : SiteStats) (op : Op) (site : String) :
    stats.Reports op site ∨
    (∃ now, op = .blacklist now ∧ stats.cfg.enabled = true ∧
      entryOf (stats.apply op) site = settleRecord stats.cfg now (entryOf stats site)) ∨
    ∃ now, op = .blacklist now ∧ stats.cfg.enabled = true ∧
      stats.sites.get? site = some (entryOf stats site) ∧
      condemned (stats.settle now) now site
        (settleRecord stats.cfg now (entryOf stats site)) = true ∧
      entryOf (stats.apply op) site =
        banRecord stats.cfg now (settleRecord stats.cfg now (entryOf stats site)) := by
  cases op with
  | setInFlight jobs => exact Or.inl ⟨rfl, List.sublist_append_left _ _⟩
  | record named ok now => exact Or.inl (reports_record stats named ok now site)
  | blacklist now =>
      cases enabled : stats.cfg.enabled with
      | false =>
          left
          apply reports_of_apply_eq
          simp [apply, blacklist, enabled]
      | true =>
          right
          rcases entryOf_blacklist enabled now site with settled | ⟨found, banned, after⟩
          · exact Or.inl ⟨now, rfl, rfl, settled⟩
          · exact Or.inr ⟨now, rfl, rfl, found, banned, after⟩

/-! ## The clock of a history -/

/-- The moment of a call that reads the clock. -/
def Op.time? : Op → Option ℚ
  | .record _ _ now => some now
  | .setInFlight _ => none
  | .blacklist now => some now

/-- The moments of a history, in the order of its calls. -/
def times (ops : List Op) : List ℚ :=
  ops.filterMap Op.time?

/-- A history whose moments are positive and never decrease. -/
structure Clocked (ops : List Op) : Prop where
  positive : ∀ time ∈ times ops, 0 < time
  ordered : (times ops).Pairwise (· ≤ ·)

theorem times_append (first second : List Op) :
    times (first ++ second) = times first ++ times second :=
  List.filterMap_append

theorem mem_times_cons {op : Op} {rest : List Op} {time : ℚ} :
    time ∈ times (op :: rest) ↔ op.time? = some time ∨ time ∈ times rest := by
  simp [times]

theorem times_concat (ops : List Op) (op : Op) :
    times (ops ++ [op]) = times ops ++ op.time?.toList := by
  simp only [times]
  rw [List.filterMap_append]
  cases moment : op.time? <;> simp [moment]

theorem Clocked.init {ops : List Op} {op : Op} (clocked : Clocked (ops ++ [op])) :
    Clocked ops := by
  have positive := clocked.positive
  have ordered := clocked.ordered
  rw [times_concat] at positive ordered
  constructor
  · intro time member
    exact positive time (List.mem_append_left _ member)
  · exact (List.pairwise_append.mp ordered).1

/-- The last moment of a history is positive, and none of the others is later. -/
theorem Clocked.last {ops : List Op} {op : Op} {now : ℚ} (clocked : Clocked (ops ++ [op]))
    (moment : op.time? = some now) : 0 < now ∧ ∀ time ∈ times ops, time ≤ now := by
  have positive := clocked.positive
  have ordered := clocked.ordered
  rw [times_concat, moment] at positive ordered
  constructor
  · exact positive now (by simp)
  · intro time member
    exact (List.pairwise_append.mp ordered).2.2 time member now (by simp)

end DSProd.SiteStats
