import DSProd.SiteStats.Judging
import Mathlib.Data.List.Induction

/-!
# The cap on quarantined sites

`max_sites` is to bound how many sites are under quarantine at once.  The cap
is applied to the list `blacklist` returns, while the bans themselves are
written without it.  This module says exactly when the cap holds all the same:
when no call ever finds more sites to hold back than the cap.
-/

namespace DSProd.SiteStats

open DSProd.Library

variable {stats : SiteStats}

/-! ## The returned list -/

theorem sliceTo_sublist {α : Type} (stop : ℤ) (values : List α) :
    (sliceTo stop values).Sublist values := by
  rw [sliceTo]
  split <;> exact List.take_sublist _ _

theorem sliceTo_of_length_le {α : Type} {stop : ℤ} {values : List α}
    (fits : (values.length : ℤ) ≤ stop) : sliceTo stop values = values := by
  rw [sliceTo]
  rw [if_pos (by omega)]
  exact List.take_of_length_le (by omega)

theorem mem_active {now : ℚ} {site : String} {entry : SiteRecord} :
    (site, entry) ∈ active stats now ↔
      stats.sites.get? site = some entry ∧ now < entry.quarantinedUntil := by
  rw [active, List.mem_filter, decide_eq_true_eq, Dict.get?_eq_some_iff]

theorem exists_active_of_mem_listed {now : ℚ} {site : String} (returned : site ∈ listed stats now) :
    ∃ entry, (site, entry) ∈ active stats now := by
  rcases List.mem_map.mp returned with ⟨item, member, rfl⟩
  exact ⟨item.2, (List.mem_insertionSort _).mp ((sliceTo_sublist _ _).subset member)⟩

theorem mem_listed_of_active {now : ℚ} {site : String} {entry : SiteRecord}
    (fits : ((active stats now).length : ℤ) ≤ stats.cfg.maxSites)
    (banned : (site, entry) ∈ active stats now) : site ∈ listed stats now := by
  rw [listed]
  rw [sliceTo_of_length_le (by rwa [List.length_insertionSort])]
  exact List.mem_map.mpr ⟨(site, entry), (List.mem_insertionSort _).mpr banned, rfl⟩

/-- Fewer sites are under quarantine at a later moment of one state. -/
theorem length_active_antitone (stats : SiteStats) {first second : ℚ} (later : first ≤ second) :
    (active stats second).length ≤ (active stats first).length := by
  apply List.Sublist.length_le
  apply List.monotone_filter_right
  intro item running
  rw [decide_eq_true_eq] at running ⊢
  exact lt_of_le_of_lt later running

/-! ## What a call holds back -/

/-- The sites of a judged state that a call holds back: their ban runs still,
or the tests condemn them. -/
def held (stats : SiteStats) (now : ℚ) : List (String × SiteRecord) :=
  stats.sites.items.filter fun item =>
    now < item.2.quarantinedUntil || condemned stats now item.1 item.2

/-- What a call has to meet for the cap to hold: `blacklist` finds no more
sites to hold back than the cap, and bans them for some time.  Before the
beginning of the clock, the zero of a fresh record counts as a ban. -/
def Roomy (stats : SiteStats) : Op → Prop
  | .blacklist now => stats.cfg.enabled = true →
      ((held (stats.settle now) now).length : ℤ) ≤ stats.cfg.maxSites ∧
      ∀ item ∈ (stats.settle now).sites.items,
        condemned (stats.settle now) now item.1 item.2 = true →
          0 < quarantineSeconds stats.cfg item.2
  | .record site _ now => now < 0 → isSite site = true → site ∉ stats.sites.keys →
      ((active stats now).length : ℤ) + 1 ≤ stats.cfg.maxSites
  | .setInFlight _ => True

instance (stats : SiteStats) : (op : Op) → Decidable (Roomy stats op)
  | .blacklist _ => inferInstanceAs (Decidable (_ → _ ∧ _))
  | .record _ _ _ => inferInstanceAs (Decidable (_ → _ → _ → _))
  | .setInFlight _ => isTrue trivial

/-- With bans of positive length, the sites under quarantine after a call are
those it holds back. -/
theorem length_active_blacklist (enabled : stats.cfg.enabled = true) {now : ℚ}
    (lasting : ∀ item ∈ (stats.settle now).sites.items,
      condemned (stats.settle now) now item.1 item.2 = true →
        0 < quarantineSeconds stats.cfg item.2) :
    (active (stats.blacklist now).2 now).length = (held (stats.settle now) now).length := by
  rw [active, sites_blacklist enabled]
  simp only [Dict.mapValues, List.filter_map, List.length_map, held]
  apply congrArg List.length
  apply List.filter_congr
  intro item member
  simp only [Function.comp_apply, judgeRecord]
  split
  · rename_i banned
    have longer := lasting item member banned
    have running : now < (banRecord stats.cfg now item.2).quarantinedUntil :=
      lt_add_of_pos_right now longer
    simp [running, banned]
  · rename_i spared
    simp [spared]

/-! ## The three promises -/

/-- What the cap promises over a history: no more sites under quarantine than
the cap at any moment, every site banned by a call in the list it returns, and
every site once returned in the list of every later call of its ban. -/
structure CapHolds (cfg : Config) (ops : List Op) : Prop where
  capped : ∀ first second, ops = first ++ second →
    ∀ moment, (∀ time ∈ times first, time ≤ moment) →
      ((active (run apply (new cfg) first) moment).length : ℤ) ≤ cfg.maxSites
  announced : ∀ first now second, ops = first ++ .blacklist now :: second →
    ∀ site, (entryOf (run apply (new cfg) first) site).quarantines <
        (entryOf ((run apply (new cfg) first).blacklist now).2 site).quarantines →
      site ∈ ((run apply (new cfg) first).blacklist now).1
  continued : ∀ first now middle later second,
    ops = first ++ .blacklist now :: (middle ++ .blacklist later :: second) →
    ∀ site ∈ ((run apply (new cfg) first).blacklist now).1,
      later < (entryOf ((run apply (new cfg) first).blacklist now).2 site).quarantinedUntil →
      site ∈ ((run apply ((run apply (new cfg) first).blacklist now).2 middle).blacklist later).1

/-! ## What a call keeps -/

theorem mem_keys_apply {site : String} (op : Op) (known : site ∈ stats.sites.keys) :
    site ∈ (stats.apply op).sites.keys := by
  cases op with
  | setInFlight jobs => exact known
  | record named ok now =>
      simp only [apply, record]
      split
      · exact known
      · simp [prune, Dict.mem_keys_setdefault, known]
  | blacklist now =>
      simp only [apply]
      cases enabled : stats.cfg.enabled with
      | false => rwa [blacklist_of_disabled enabled]
      | true => simpa [sites_blacklist enabled, settle, expire, prune] using known

/-- A ban is in force, unchanged, after every call before its end. -/
theorem banned_apply {site : String} {op : Op} {ending : ℚ}
    (early : ∀ now, op.time? = some now → now < ending)
    (banned : ∃ entry, stats.sites.get? site = some entry ∧ entry.quarantinedUntil = ending) :
    ∃ entry, (stats.apply op).sites.get? site = some entry ∧ entry.quarantinedUntil = ending := by
  obtain ⟨entry, found, endsThen⟩ := banned
  have known := mem_keys_apply op (Dict.mem_keys_of_get? found)
  rcases Dict.mem_keys_iff.mp known with ⟨after, foundAfter⟩
  have before := entryOf_of_get? found
  have same := entryOf_of_get? foundAfter
  apply Exists.intro after
  constructor
  · exact foundAfter
  rw [← same]
  rcases entryOf_apply_cases stats op site with ⟨kept, _⟩ | ⟨now, isBlacklist, _, settled⟩ |
    ⟨now, isBlacklist, _, _, condemnedNow, _⟩
  · have sameUntil : (entryOf (stats.apply op) site).quarantinedUntil =
        (entryOf stats site).quarantinedUntil := congrArg Prod.fst kept
    rw [sameUntil, before]
    exact endsThen
  · have running : now < entry.quarantinedUntil := by
      rw [endsThen]
      exact early now (by rw [isBlacklist]; rfl)
    rw [settled, before, quarantinedUntil_settleRecord_of_lt running]
    exact endsThen
  · have running : now < entry.quarantinedUntil := by
      rw [endsThen]
      exact early now (by rw [isBlacklist]; rfl)
    rw [before] at condemnedNow
    have stillRunning := (lt_quarantinedUntil_settleRecord stats.cfg now entry).mpr running
    simp [condemned, stillRunning] at condemnedNow

theorem banned_run {site : String} {ops : List Op} {ending : ℚ}
    (early : ∀ time ∈ times ops, time < ending)
    (banned : ∃ entry, stats.sites.get? site = some entry ∧ entry.quarantinedUntil = ending) :
    ∃ entry, (run apply stats ops).sites.get? site = some entry ∧
      entry.quarantinedUntil = ending := by
  induction ops generalizing stats with
  | nil => exact banned
  | cons op rest ih =>
      apply ih
      · intro time member
        exact early time (mem_times_cons.mpr (Or.inr member))
      · apply banned_apply _ banned
        intro now moment
        exact early now (mem_times_cons.mpr (Or.inl moment))

/-- The bans of a state, without the rest of the records. -/
def untils (stats : SiteStats) : Dict String ℚ :=
  stats.sites.mapValues fun _ entry => entry.quarantinedUntil

theorem length_active (stats : SiteStats) (moment : ℚ) :
    (active stats moment).length =
      ((untils stats).items.filter fun item => moment < item.2).length := by
  simp only [active, untils, Dict.mapValues, List.filter_map, List.length_map]
  rfl

/-- Recording an outcome makes no ban: at most the zero of a fresh record. -/
theorem items_untils_record (site : String) (ok : Bool) (now : ℚ) (named : isSite site = true) :
    (untils (stats.record site ok now)).items =
      (untils stats).items ++ if site ∈ stats.sites.keys then [] else [(site, 0)] := by
  have unpruned : ∀ dict : Dict String SiteRecord,
      ((dict.mapValues fun _ entry =>
        (pruneRecord (now - stats.cfg.windowHours * 3600) entry).1).mapValues
          fun _ entry => entry.quarantinedUntil) =
      dict.mapValues fun _ entry => entry.quarantinedUntil := by
    intro dict
    rw [Dict.mapValues_mapValues]
    simp only [pruneRecord_eq]
  simp only [untils, record, named, Bool.not_true, Bool.false_eq_true, if_false, prune, unpruned,
    Dict.set_setdefault]
  cases found : stats.sites.get? site with
  | some entry =>
      have known := Dict.mem_keys_of_get? found
      have fresh : stats.sites.getD site newRecord = entry := by simp [Dict.getD, found]
      rw [if_pos known, List.append_nil, fresh]
      exact congrArg Dict.items
        (Dict.mapValues_set_of_same SiteRecord.quarantinedUntil found rfl)
  | none =>
      have absent := Dict.get?_eq_none_iff.mp found
      have fresh : stats.sites.getD site newRecord = newRecord := by simp [Dict.getD, found]
      rw [if_neg absent, fresh]
      simp only [Dict.mapValues, Dict.items_set_of_notMem _ absent, List.map_append,
        List.map_singleton]
      rfl

/-- A call that meets the condition keeps the number of bans within the cap. -/
theorem capped_apply {op : Op} (roomy : Roomy stats op)
    {moment : ℚ} (later : ∀ now, op.time? = some now → now ≤ moment)
    (before : ((active stats moment).length : ℤ) ≤ stats.cfg.maxSites) :
    ((active (stats.apply op) moment).length : ℤ) ≤ stats.cfg.maxSites := by
  cases op with
  | setInFlight jobs => exact before
  | blacklist now =>
      have after := later now rfl
      cases enabled : stats.cfg.enabled with
      | false =>
          simp only [apply, blacklist_of_disabled enabled]
          exact before
      | true =>
          obtain ⟨fits, lasting⟩ := roomy enabled
          have atOnce := length_active_blacklist enabled lasting
          have fewer := length_active_antitone (stats.blacklist now).2 after
          simp only [apply]
          omega
  | record site ok now =>
      have after := later now rfl
      simp only [apply]
      cases named : isSite site with
      | false =>
          have unchanged : stats.record site ok now = stats := by simp [record, named]
          rwa [unchanged]
      | true =>
          rw [length_active, items_untils_record site ok now named, List.filter_append,
            List.length_append, ← length_active]
          by_cases known : site ∈ stats.sites.keys
          · simpa [known] using before
          · by_cases started : 0 ≤ moment
            · simpa [known, started] using before
            · have early : now < 0 := lt_of_le_of_lt after (not_le.mp started)
              have room := roomy early named known
              have fewer := length_active_antitone stats after
              simp only [known, if_false, not_le.mp started, List.filter_cons, decide_true, if_true,
                List.filter_nil, List.length_singleton]
              push_cast
              omega

/-- The cap holds at every moment of a history whose calls meet the condition. -/
theorem capped_run {cfg : Config} (room : 0 ≤ cfg.maxSites) {ops : List Op}
    (roomy : Along apply Roomy (new cfg) ops) {moment : ℚ}
    (later : ∀ time ∈ times ops, time ≤ moment) :
    ((active (run apply (new cfg) ops) moment).length : ℤ) ≤ cfg.maxSites := by
  induction ops using List.reverseRecOn with
  | nil => simpa [active, new] using room
  | append_singleton ops op ih =>
      rw [along_append] at roomy
      rw [times_concat] at later
      have sameCfg : (run apply (new cfg) ops).cfg = cfg := cfg_run (new cfg) ops
      have before := ih roomy.1 fun time member => later time (List.mem_append_left _ member)
      have opLater : ∀ now, op.time? = some now → now ≤ moment := fun now timed =>
        later now (List.mem_append_right _ (by simp [timed]))
      have within := capped_apply roomy.2.1 opLater (by rwa [sameCfg])
      rw [sameCfg] at within
      rw [run_concat]
      exact within

/-! ## The condemned sites of a call -/

/-- A site condemned in the judged state is banned, and counted once more. -/
theorem get?_blacklist_of_condemned (enabled : stats.cfg.enabled = true) {now : ℚ}
    {item : String × SiteRecord} (member : item ∈ (stats.settle now).sites.items)
    (banned : condemned (stats.settle now) now item.1 item.2 = true) :
    (stats.blacklist now).2.sites.get? item.1 = some (banRecord stats.cfg now item.2) := by
  rw [sites_blacklist enabled, Dict.get?_mapValues, Dict.get?_eq_some_iff.mpr member,
    Option.map_some, judgeRecord, if_pos banned]
  rfl

theorem quarantines_of_mem_settle {now : ℚ} {item : String × SiteRecord}
    (member : item ∈ (stats.settle now).sites.items) :
    item.2.quarantines = (entryOf stats item.1).quarantines := by
  have found : (stats.settle now).sites.get? item.1 = some item.2 :=
    Dict.get?_eq_some_iff.mpr member
  rw [← entryOf_of_get? found, entryOf_settle, quarantines_settleRecord]

/-- A call that counts a site once more condemned it. -/
theorem condemned_of_quarantines_lt {now : ℚ} {site : String}
    (counted : (entryOf stats site).quarantines <
      (entryOf (stats.blacklist now).2 site).quarantines) :
    stats.cfg.enabled = true ∧ ∃ entry, (site, entry) ∈ (stats.settle now).sites.items ∧
      condemned (stats.settle now) now site entry = true := by
  rcases entryOf_apply_cases stats (.blacklist now) site with ⟨kept, _⟩ |
    ⟨_, isBlacklist, _, settled⟩ | ⟨_, isBlacklist, enabled, found, banned, _⟩
  · have sameCount : (entryOf (stats.blacklist now).2 site).quarantines =
        (entryOf stats site).quarantines := congrArg (fun fields => fields.2.1) kept
    omega
  · have sameCount : (entryOf (stats.blacklist now).2 site).quarantines =
        (entryOf stats site).quarantines := by
      have settledCount := congrArg SiteRecord.quarantines settled
      rwa [quarantines_settleRecord] at settledCount
    omega
  · cases isBlacklist
    have settled := get?_settle stats now site
    rw [found, Option.map_some] at settled
    exact ⟨enabled, _, Dict.get?_eq_some_iff.mp settled, banned⟩

/-! ## When the cap holds -/

theorem le_of_cut {first second : List Op} {op : Op} {now : ℚ}
    (ordered : (times (first ++ op :: second)).Pairwise (· ≤ ·)) (moment : op.time? = some now) :
    (∀ time ∈ times first, time ≤ now) ∧ ∀ time ∈ times second, now ≤ time := by
  rw [times] at ordered
  rw [List.filterMap_append, List.filterMap_cons_some moment, List.pairwise_append,
    List.pairwise_cons] at ordered
  exact ⟨fun time member => ordered.2.2 time member now List.mem_cons_self, ordered.2.1.1⟩

/-- The times up to a call, and its own, are not after it. -/
theorem le_of_times_concat {first second : List Op} {op : Op} {now : ℚ}
    (ordered : (times (first ++ op :: second)).Pairwise (· ≤ ·)) (moment : op.time? = some now) :
    ∀ time ∈ times (first ++ [op]), time ≤ now := by
  intro time member
  rw [times_concat, moment] at member
  rcases List.mem_append.mp member with old | new
  · exact (le_of_cut ordered moment).1 time old
  · rw [Option.toList_some, List.mem_singleton] at new
    exact new.le

section Promises

variable {cfg : Config} {ops : List Op}

/-- Where the cap keeps its promises, every call meets the condition. -/
theorem roomy_of_capHolds (ordered : (times ops).Pairwise (· ≤ ·)) (holds : CapHolds cfg ops)
    {first second : List Op} {op : Op} (cut : ops = first ++ op :: second) :
    Roomy (run apply (new cfg) first) op := by
  have sameCfg : (run apply (new cfg) first).cfg = cfg := cfg_run (new cfg) first
  have cappedAfter : ∀ now, op.time? = some now →
      ((active ((run apply (new cfg) first).apply op) now).length : ℤ) ≤ cfg.maxSites := by
    intro now moment
    rw [← run_concat apply]
    apply holds.capped (first ++ [op]) second (by simp [cut])
    rw [cut] at ordered
    exact le_of_times_concat ordered moment
  cases op with
  | setInFlight jobs => trivial
  | record site ok now =>
      intro early named absent
      have within := cappedAfter now rfl
      simp only [apply] at within
      rw [length_active, items_untils_record site ok now named, List.filter_append,
        List.length_append, ← length_active] at within
      rw [sameCfg]
      simpa [absent, early] using within
  | blacklist now =>
      intro enabled
      have lasting : ∀ item ∈ ((run apply (new cfg) first).settle now).sites.items,
          condemned ((run apply (new cfg) first).settle now) now item.1 item.2 = true →
            0 < quarantineSeconds (run apply (new cfg) first).cfg item.2 := by
        intro item member banned
        have found := get?_blacklist_of_condemned enabled member banned
        have counted := quarantines_of_mem_settle member
        have returned := holds.announced first now second cut item.1 (by
          rw [entryOf_of_get? found, ← counted]
          exact Int.lt_succ _)
        rw [fst_blacklist enabled] at returned
        obtain ⟨entry, running⟩ := exists_active_of_mem_listed returned
        rw [mem_active, found, Option.some.injEq] at running
        rw [← running.1] at running
        exact (lt_add_iff_pos_right now).mp running.2
      constructor
      · rw [sameCfg, ← length_active_blacklist enabled lasting]
        exact cappedAfter now rfl
      · exact lasting

/-- A call leaves no more sites under quarantine than the cap. -/
theorem capped_blacklist (room : 0 ≤ cfg.maxSites) (roomy : Along apply Roomy (new cfg) ops)
    (ordered : (times ops).Pairwise (· ≤ ·)) {first second : List Op} {now : ℚ}
    (cut : ops = first ++ .blacklist now :: second) :
    ((active ((run apply (new cfg) first).blacklist now).2 now).length : ℤ) ≤
      ((run apply (new cfg) first).blacklist now).2.cfg.maxSites := by
  have sameCfg : ((run apply (new cfg) first).blacklist now).2.cfg = cfg := by
    rw [cfg_blacklist, cfg_run]
    rfl
  have whole : ops = (first ++ [.blacklist now]) ++ second := by simp [cut]
  rw [whole, along_append] at roomy
  rw [cut] at ordered
  have within := capped_run room roomy.1 (le_of_times_concat ordered rfl)
  rw [run_concat] at within
  rw [sameCfg]
  exact within

/-- A site whose count a call increments is in the list the call returns. -/
theorem announced_blacklist (room : 0 ≤ cfg.maxSites) (roomy : Along apply Roomy (new cfg) ops)
    (ordered : (times ops).Pairwise (· ≤ ·)) {first second : List Op} {now : ℚ}
    (cut : ops = first ++ .blacklist now :: second) {site : String}
    (counted : (entryOf (run apply (new cfg) first) site).quarantines <
      (entryOf ((run apply (new cfg) first).blacklist now).2 site).quarantines) :
    site ∈ ((run apply (new cfg) first).blacklist now).1 := by
  obtain ⟨enabled, entry, member, banned⟩ := condemned_of_quarantines_lt counted
  have within := capped_blacklist room roomy ordered cut
  rw [along_iff_forall_cut] at roomy
  have lasting := (roomy first _ second cut enabled).2 _ member banned
  rw [fst_blacklist enabled]
  apply mem_listed_of_active within
  rw [mem_active]
  exact ⟨get?_blacklist_of_condemned enabled member banned, lt_add_of_pos_right now lasting⟩

/-- A site that a call returned is returned by the later calls of its ban. -/
theorem continued_blacklist (room : 0 ≤ cfg.maxSites) (roomy : Along apply Roomy (new cfg) ops)
    (ordered : (times ops).Pairwise (· ≤ ·)) {first middle second : List Op} {now later : ℚ}
    (cut : ops = first ++ .blacklist now :: (middle ++ .blacklist later :: second)) {site : String}
    (returned : site ∈ ((run apply (new cfg) first).blacklist now).1)
    (early :
      later < (entryOf ((run apply (new cfg) first).blacklist now).2 site).quarantinedUntil) :
    site ∈
      ((run apply ((run apply (new cfg) first).blacklist now).2 middle).blacklist later).1 := by
  have split : ops = (first ++ .blacklist now :: middle) ++ .blacklist later :: second := by
    simp [cut]
  have reached : run apply (new cfg) (first ++ .blacklist now :: middle) =
      run apply ((run apply (new cfg) first).blacklist now).2 middle := by
    rw [run_append, run_cons]
    rfl
  have within := capped_blacklist room roomy ordered split
  rw [reached] at within
  cases enabled : (run apply (new cfg) first).cfg.enabled with
  | false =>
      rw [blacklist_of_disabled enabled] at returned
      cases returned
  | true =>
      rw [fst_blacklist enabled] at returned
      obtain ⟨entry, banned⟩ := exists_active_of_mem_listed returned
      rw [mem_active] at banned
      rw [entryOf_of_get? banned.1] at early
      have middleEarly : ∀ time ∈ times middle, time < entry.quarantinedUntil := by
        intro time member
        rw [split] at ordered
        have before : time ∈ times (first ++ .blacklist now :: middle) := by
          rw [times_append, List.mem_append, mem_times_cons]
          exact Or.inr (Or.inr member)
        exact lt_of_le_of_lt ((le_of_cut ordered rfl).1 time before) early
      have stillBanned := banned_run middleEarly ⟨entry, banned.1, rfl⟩
      have callEarly : ∀ time, (Op.blacklist later).time? = some time →
          time < entry.quarantinedUntil := by
        intro time moment
        cases moment
        exact early
      obtain ⟨last, found, endsThen⟩ := banned_apply callEarly stillBanned
      have stillEnabled :
          (run apply ((run apply (new cfg) first).blacklist now).2 middle).cfg.enabled = true := by
        rwa [cfg_run, cfg_blacklist]
      rw [fst_blacklist stillEnabled]
      apply mem_listed_of_active within
      rw [mem_active]
      exact ⟨found, endsThen ▸ early⟩

end Promises

/-- The cap keeps its promises over a history exactly when no call finds more
sites to hold back than the cap, nor bans one for no time at all. -/
theorem capHolds_iff (cfg : Config) (ops : List Op) (ordered : (times ops).Pairwise (· ≤ ·)) :
    CapHolds cfg ops ↔ 0 ≤ cfg.maxSites ∧ Along apply Roomy (new cfg) ops := by
  constructor
  · intro holds
    constructor
    · simpa [active, new] using holds.capped [] ops rfl 0 (by simp [times])
    · rw [along_iff_forall_cut]
      exact fun _ _ _ cut => roomy_of_capHolds ordered holds cut
  · rintro ⟨room, roomy⟩
    constructor
    · intro first second cut moment later
      rw [cut, along_append] at roomy
      exact capped_run room roomy.1 later
    · intro first now second cut site counted
      exact announced_blacklist room roomy ordered cut counted
    · intro first now middle later second cut site returned early
      exact continued_blacklist room roomy ordered cut returned early

/-- Two broken sites beside a healthy one. -/
def twoBroken : List Op :=
  List.replicate 20 (.record "T2_C" true 1) ++ List.replicate 5 (.record "T2_A" false 1) ++
    List.replicate 5 (.record "T2_B" false 1) ++ [.blacklist 1]

/-- A cap with room for both keeps its promises. -/
theorem capHolds_twoBroken : CapHolds { maxSites := 2 } twoBroken := by
  apply (capHolds_iff { maxSites := 2 } twoBroken (by decide +kernel)).mpr
  decide +kernel

/-- Under a cap of one site, both are banned and only one is returned. -/
theorem not_capHolds_twoBroken : ¬ CapHolds { maxSites := 1 } twoBroken := by
  intro holds
  have within := holds.capped twoBroken [] (by simp) 1 (by decide +kernel)
  revert within
  decide +kernel

end DSProd.SiteStats
