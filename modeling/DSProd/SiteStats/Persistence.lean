import DSProd.Library.Json
import DSProd.Library.Text
import DSProd.SiteStats.Core

/-!
# The record file

`load` and `save` of `SiteStats`.  The file is rewritten only when the record
is dirty, and read back field by field, dropping what does not convert; so a
restart loses nothing as long as every change of the record marks it dirty and
what `save` writes is what `load` reads.
-/

namespace DSProd.SiteStats

open DSProd.Library

/-! ## Texts as numbers -/

/-- The value of a decimal digit of any script. -/
def digitValue (char : Char) : Option Nat :=
  (decimalZeros.find? fun first => first ≤ char.toNat && char.toNat < first + 10).map fun first =>
    char.toNat - first

/-- The digits a text begins with, and the rest.  An underscore may stand
between two digits. -/
def takeDigits : List Char → List Nat × List Char
  | [] => ([], [])
  | char :: rest =>
      match digitValue char with
      | none => ([], char :: rest)
      | some digit =>
          match rest with
          | '_' :: next :: more =>
              if (digitValue next).isSome then
                (digit :: (takeDigits (next :: more)).1, (takeDigits (next :: more)).2)
              else ([digit], rest)
          | rest => (digit :: (takeDigits rest).1, (takeDigits rest).2)

/-- The number some decimal digits write. -/
def ofDecimal (digits : List Nat) : Nat :=
  digits.foldl (fun number digit => 10 * number + digit) 0

/-- Whether a text begins with a minus sign, and what follows the sign. -/
def splitSign : List Char → Bool × List Char
  | '-' :: rest => (true, rest)
  | '+' :: rest => (false, rest)
  | chars => (false, chars)

/-- The most digits `int` reads. -/
def maxStrDigits : Nat :=
  4300

/-- `int(text)`. -/
def intOfText (text : String) : Option ℤ :=
  let (negative, body) := splitSign (Text.strip text).toList
  let (digits, rest) := takeDigits body
  if digits.isEmpty || !rest.isEmpty || maxStrDigits < digits.length then none
  else some (if negative then -(ofDecimal digits : ℤ) else ofDecimal digits)

/-- The exponent a float literal ends with. -/
def exponentOf : List Char → Option ℤ
  | [] => some 0
  | mark :: rest =>
      let (negative, body) := splitSign rest
      let (digits, after) := takeDigits body
      if (mark ≠ 'e' && mark ≠ 'E') || digits.isEmpty || !after.isEmpty then none
      else some (if negative then -(ofDecimal digits : ℤ) else ofDecimal digits)

/-- The value of a float literal without its sign. -/
def magnitude (chars : List Char) : Option ℚ :=
  let (whole, afterWhole) := takeDigits chars
  let (fraction, afterFraction) :=
    match afterWhole with
    | '.' :: rest => takeDigits rest
    | rest => ([], rest)
  if whole.isEmpty && fraction.isEmpty then none
  else
    (exponentOf afterFraction).map fun exponent =>
      (ofDecimal (whole ++ fraction) : ℚ) * 10 ^ (exponent - fraction.length : ℤ)

/-- `float(text)`. -/
def floatOfText (text : String) : Option Number :=
  let (negative, body) := splitSign (Text.strip text).toList
  let word := String.ofList (body.map Char.toLower)
  if word = "nan" then some .nan
  else if word = "inf" ∨ word = "infinity" then some (if negative then .negInf else .posInf)
  else
    (magnitude body).map fun value =>
      if (Json.floatRange : ℚ) ≤ value then if negative then .negInf else .posInf
      else .finite (if negative then -value else value)

/-- `float(value)`. -/
def toFloat (value : Json) : Except Json.Fault Number :=
  value.toFloat floatOfText

/-- `int(value)`. -/
def toInt (value : Json) : Except Json.Fault ℤ :=
  value.toInt intOfText

/-! ## Reading the file -/

/-- The record of a site as `load` builds it. -/
structure LoadedRecord where
  events : List (Number × ℤ)
  quarantinedUntil : Number
  quarantines : ℤ
  clearedAt : Number
  deriving DecidableEq

/-- One entry of `events`. -/
def loadEvent (value : Json) : Except Json.Fault (Number × ℤ) := do
  let (time, ok) ← value.pair
  return (← toFloat time, ← toInt ok)

/-- The record of one site. -/
def loadRecord (fields : List (String × Json)) : Except Json.Fault LoadedRecord := do
  let events ← (← (Json.getOr fields "events" (.arr [])).iterate).mapM loadEvent
  let quarantinedUntil ← toFloat (Json.getOr fields "quarantined_until" (.float (.finite 0)))
  let quarantines ← toInt (Json.getOr fields "quarantines" (.int 0))
  let clearedAt ← toFloat (Json.getOr fields "cleared_at" (.float (.finite 0)))
  return ⟨events, quarantinedUntil, quarantines, clearedAt⟩

/-- The loop of `load` over the sites: an entry that raises one of the two
errors it expects is dropped. -/
def loadSites (loaded : Dict String LoadedRecord) :
    List (String × Json) → Except Json.Fault (Dict String LoadedRecord)
  | [] => .ok loaded
  | (name, .obj fields) :: rest =>
      if !isSite name then loadSites loaded rest
      else
        match loadRecord fields with
        | .ok entry => loadSites (loaded.set name entry) rest
        | .error .overflowError => .error .overflowError
        | .error _ => loadSites loaded rest
  | _ :: rest => loadSites loaded rest

/-- `load` on a new object, from what the file parses to, if it does. -/
def load : Option Json → Except Json.Fault (Dict String LoadedRecord)
  | some (.obj fields) =>
      match fields.lookup "sites" with
      | some (.obj sites) => loadSites Dict.empty sites
      | _ => .ok Dict.empty
  | _ => .ok Dict.empty

/-! ## Writing the file -/

/-- An outcome as `json.dump` writes it. -/
def eventJson (event : Event) : Json :=
  .arr [.float (.finite event.1), .int (if event.2 then 1 else 0)]

/-- The record of a site as `json.dump` writes it. -/
def recordJson (entry : SiteRecord) : Json :=
  .obj
    [("events", .arr (entry.events.map eventJson)),
      ("quarantined_until", .float (.finite entry.quarantinedUntil)),
      ("quarantines", .int entry.quarantines),
      ("cleared_at", .float (.finite entry.clearedAt))]

/-- The document `save` writes. -/
def document (sites : Dict String SiteRecord) : Json :=
  .obj
    [("version", .int 1),
      ("sites", .obj (sites.items.map fun item => (item.1, recordJson item.2)))]

/-- The statistics with their file, as a reader finds it. -/
structure Persisted where
  stats : SiteStats
  file : Option Json

/-- `save`.  One that is not `written` raises before it replaces the file. -/
def Persisted.save (driver : Persisted) (written : Bool) : Persisted :=
  if driver.stats.dirty && written then
    ⟨{ driver.stats with dirty := false }, some (document driver.stats.sites)⟩
  else driver

/-- A call on the statistics, or one of `save`. -/
inductive Call where
  | op (op : Op)
  | save (written : Bool)

/-- The state a call leaves. -/
def Persisted.step (driver : Persisted) : Call → Persisted
  | .op op => ⟨driver.stats.apply op, driver.file⟩
  | .save written => driver.save written

/-- What a call answers. -/
def Persisted.answer (driver : Persisted) : Call → Option (List String)
  | .op (.blacklist now) => some (driver.stats.blacklist now).1
  | _ => none

/-- What the calls of a run answer, one after the other. -/
def Persisted.answers (driver : Persisted) : List Call → List (Option (List String))
  | [] => []
  | call :: rest => driver.answer call :: (driver.step call).answers rest

/-- `__init__` without a record file. -/
def Persisted.new (cfg : Config) : Persisted :=
  ⟨SiteStats.new cfg, none⟩

/-! ## A restart -/

/-- A record in memory, as `load` would have built it. -/
def SiteRecord.loaded (entry : SiteRecord) : LoadedRecord :=
  ⟨entry.events.map fun event => (.finite event.1, if event.2 then 1 else 0),
    .finite entry.quarantinedUntil, entry.quarantines, .finite entry.clearedAt⟩

/-- The object that `__init__` makes with a record file. -/
structure Reloaded (cfg : Config) (file : Option Json) (fresh : SiteStats) : Prop where
  cfg : fresh.cfg = cfg
  sites : load file = .ok (fresh.sites.mapValues fun _ entry => entry.loaded)
  inFlight : fresh.inFlight = Dict.empty
  dirty : fresh.dirty = false

/-- The file says what is in memory; without one there is nothing. -/
def Holds (file : Option Json) (sites : Dict String SiteRecord) : Prop :=
  match file with
  | none => sites = Dict.empty
  | some found => found = document sites

/-- A restart right after a save goes unnoticed: the object read back from the
file, once it has the same counts in flight, answers every later call as the
one it replaces would have, and bans the same sites until the same moments. -/
structure RestartInvisible (cfg : Config) (saved : Persisted) : Prop where
  reloads : ∃ fresh, Reloaded cfg saved.file fresh
  counts : (saved.stats.setInFlight saved.stats.inFlight).inFlight = saved.stats.inFlight
  same : ∀ fresh, Reloaded cfg saved.file fresh →
    ∀ jobs, (saved.stats.setInFlight jobs).inFlight = saved.stats.inFlight →
    ∀ later, Persisted.answers ⟨fresh.setInFlight jobs, saved.file⟩ later = saved.answers later ∧
      run Persisted.step ⟨fresh.setInFlight jobs, saved.file⟩ later =
        run Persisted.step saved later

/-! ## What `save` writes reads back -/

theorem loaded_injective {first second : SiteRecord} (same : first.loaded = second.loaded) :
    first = second := by
  rcases first with ⟨firstEvents, firstUntil, firstCount, firstCleared⟩
  rcases second with ⟨secondEvents, secondUntil, secondCount, secondCleared⟩
  simp only [SiteRecord.loaded, LoadedRecord.mk.injEq, Number.finite.injEq] at same
  obtain ⟨events, sameUntil, sameCount, sameCleared⟩ := same
  have each : Function.Injective fun event : Event =>
      (Number.finite event.1, if event.2 then (1 : ℤ) else 0) := by
    rintro ⟨firstTime, firstOk⟩ ⟨secondTime, secondOk⟩ pair
    simp only [Prod.mk.injEq, Number.finite.injEq] at pair
    cases firstOk <;> cases secondOk <;> simp_all
  rw [List.map_injective_iff.mpr each events, sameUntil, sameCount, sameCleared]

theorem loadEvent_eventJson (event : Event) :
    loadEvent (eventJson event) = .ok (.finite event.1, if event.2 then 1 else 0) :=
  rfl

theorem mapM_loadEvent (events : List Event) :
    (events.map eventJson).mapM loadEvent =
      .ok (events.map fun event => (.finite event.1, if event.2 then 1 else 0)) := by
  induction events with
  | nil => rfl
  | cons first rest ih =>
      rw [List.map_cons, List.mapM_cons, loadEvent_eventJson, ih]
      rfl

/-- The record of a site reads back as it is. -/
theorem loadRecord_recordJson (entry : SiteRecord) {fields : List (String × Json)}
    (written : recordJson entry = .obj fields) : loadRecord fields = .ok entry.loaded := by
  cases written
  rw [loadRecord, Json.getOr_arr rfl, Json.getOr_float rfl, Json.getOr_int rfl,
    Json.getOr_float rfl]
  simp only [Json.iterate, bind, Except.bind, mapM_loadEvent, toFloat, toInt, Json.toFloat,
    Json.toInt]
  rfl

/-- The loop of `load` reads all that `save` wrote: nothing in it is dropped. -/
theorem loadSites_recordJson (items : List (String × SiteRecord))
    (loaded : Dict String LoadedRecord)
    (sites : ∀ item ∈ items, isSite item.1 = true)
    (distinct : (loaded.keys ++ items.map Prod.fst).Nodup) :
    ∃ result, loadSites loaded (items.map fun item => (item.1, recordJson item.2)) = .ok result ∧
      result.items = loaded.items ++ items.map fun item => (item.1, item.2.loaded) := by
  induction items generalizing loaded with
  | nil => exact ⟨loaded, rfl, by simp⟩
  | cons first rest ih =>
      have isSite := sites first List.mem_cons_self
      have absent : first.1 ∉ loaded.keys := by
        intro known
        rw [List.map_cons, List.nodup_append] at distinct
        exact distinct.2.2 _ known _ List.mem_cons_self rfl
      have grown : (loaded.set first.1 first.2.loaded).items =
          loaded.items ++ [(first.1, first.2.loaded)] :=
        Dict.items_set_of_notMem _ absent
      have distinctRest :
          ((loaded.set first.1 first.2.loaded).keys ++ rest.map Prod.fst).Nodup := by
        rw [Dict.keys_set, if_neg absent, List.append_assoc]
        exact distinct
      obtain ⟨result, loads, items⟩ := ih (loaded.set first.1 first.2.loaded)
        (fun item member => sites item (List.mem_cons_of_mem first member)) distinctRest
      apply Exists.intro result
      constructor
      · rw [List.map_cons, recordJson, loadSites, isSite,
          loadRecord_recordJson first.2 rfl]
        exact loads
      · rw [items, grown, List.append_assoc]
        rfl

/-- What the file says of some sites reads back as those sites. -/
theorem load_of_holds {file : Option Json} {sites : Dict String SiteRecord}
    (holds : Holds file sites) (areSites : ∀ site ∈ sites.keys, isSite site = true) :
    load file = .ok (sites.mapValues fun _ entry => entry.loaded) := by
  cases file with
  | none =>
      rw [show sites = Dict.empty from holds]
      rfl
  | some found =>
      obtain ⟨result, loads, items⟩ := loadSites_recordJson sites.items Dict.empty
        (fun item member => areSites item.1 (List.mem_map_of_mem member))
        (by simpa using sites.nodupKeys)
      rw [show found = document sites from holds]
      have reads : load (some (document sites)) = .ok result := loads
      rw [reads]
      congr 1
      apply Dict.ext
      rw [items]
      rfl

/-! ## Every change marks the record dirty -/

/-- A call leaves the record as it is, or dirty; what it records are sites. -/
structure Marks (before after : SiteStats) : Prop where
  cfg : after.cfg = before.cfg
  dirty : after.dirty = false → before.dirty = false ∧ after.sites = before.sites
  keys : ∀ site ∈ after.sites.keys, site ∈ before.sites.keys ∨ isSite site = true
  inFlight : after.inFlight = before.inFlight

theorem Marks.refl (stats : SiteStats) : Marks stats stats :=
  ⟨rfl, fun clean => ⟨clean, rfl⟩, fun _ known => Or.inl known, rfl⟩

theorem Marks.trans {first second third : SiteStats} (before : Marks first second)
    (after : Marks second third) : Marks first third := by
  constructor
  · exact after.cfg.trans before.cfg
  · intro clean
    obtain ⟨cleanSecond, sameThird⟩ := after.dirty clean
    obtain ⟨cleanFirst, sameSecond⟩ := before.dirty cleanSecond
    exact ⟨cleanFirst, sameThird.trans sameSecond⟩
  · intro site known
    rcases after.keys site known with earlier | isSite
    · exact before.keys site earlier
    · exact Or.inr isSite
  · exact after.inFlight.trans before.inFlight

theorem pruneRecord_of_clean {cutoff : ℚ} {entry : SiteRecord}
    (clean : (pruneRecord cutoff entry).2 = false) : (pruneRecord cutoff entry).1 = entry := by
  rw [pruneRecord] at clean ⊢
  split at clean
  case isTrue => cases clean
  case isFalse same => rw [if_neg same]

theorem expireRecord_of_clean {now : ℚ} {entry : SiteRecord}
    (clean : (expireRecord now entry).2 = false) : (expireRecord now entry).1 = entry := by
  rw [expireRecord] at clean ⊢
  split at clean
  case isTrue => cases clean
  case isFalse running => rw [if_neg running]

/-- A pass that rewrites records marks the record dirty when one of them changes. -/
theorem marks_mapValues (stats : SiteStats) {rewrite : SiteRecord → SiteRecord × Bool}
    (same : ∀ entry, (rewrite entry).2 = false → (rewrite entry).1 = entry) :
    Marks stats { stats with
      sites := stats.sites.mapValues fun _ entry => (rewrite entry).1
      dirty := stats.dirty || stats.sites.values.any fun entry => (rewrite entry).2 } := by
  constructor
  · rfl
  · intro clean
    simp only [Bool.or_eq_false_iff, List.any_eq_false, Bool.not_eq_true] at clean
    constructor
    · exact clean.1
    · apply Dict.ext
      have kept : ∀ item ∈ stats.sites.items, (item.1, (rewrite item.2).1) = item := by
        intro item member
        rw [same item.2 (clean.2 item.2 (List.mem_map_of_mem member))]
      exact (List.map_congr_left kept).trans (List.map_id _)
  · intro site known
    rw [Dict.keys_mapValues] at known
    exact Or.inl known
  · rfl

theorem marks_quarantineSite (now : ℚ) (stats : SiteStats) (site : String) :
    Marks stats (quarantineSite now stats site) := by
  rw [quarantineSite]
  cases found : stats.sites.get? site with
  | none => exact Marks.refl stats
  | some entry =>
      dsimp only
      split
      · constructor
        · rfl
        · intro clean
          cases clean
        · intro other known
          rcases Dict.mem_keys_set.mp known with same | earlier
          · rw [same]
            exact Or.inl (Dict.mem_keys_of_get? found)
          · exact Or.inl earlier
        · rfl
      · exact Marks.refl stats

theorem marks_quarantine (stats : SiteStats) (now : ℚ) : Marks stats (stats.quarantine now) := by
  rw [quarantine]
  generalize stats.sites.keys = sites
  induction sites generalizing stats with
  | nil => exact Marks.refl stats
  | cons first rest ih => exact (marks_quarantineSite now stats first).trans (ih _)

theorem marks_blacklist (stats : SiteStats) (now : ℚ) : Marks stats (stats.blacklist now).2 := by
  rw [blacklist]
  split
  · exact Marks.refl stats
  · have settled : Marks stats (stats.settle now) :=
      (marks_mapValues stats fun _ => pruneRecord_of_clean).trans
        (marks_mapValues (stats.prune now) fun _ => expireRecord_of_clean)
    exact settled.trans (marks_quarantine _ now)

theorem marks_record (stats : SiteStats) (site : String) (ok : Bool) (now : ℚ) :
    Marks stats (stats.record site ok now) := by
  rw [record]
  cases placeholder : isSite site with
  | false => exact Marks.refl stats
  | true =>
      refine Marks.trans ?_ (marks_mapValues _ fun _ => pruneRecord_of_clean)
      constructor
      · rfl
      · intro clean
        cases clean
      · intro other known
        rcases Dict.mem_keys_set.mp known with same | earlier
        · rw [same]
          exact Or.inr placeholder
        · rcases Dict.mem_keys_setdefault.mp earlier with same | old
          · rw [same]
            exact Or.inr placeholder
          · exact Or.inl old
      · rfl

/-! ## Runs -/

/-- The record is dirty, or the file says what is in memory; and everything in
memory is a site. -/
structure Synced (cfg : Config) (driver : Persisted) : Prop where
  cfg : driver.stats.cfg = cfg
  clean : driver.stats.dirty = false → Holds driver.file driver.stats.sites
  sites : ∀ site ∈ driver.stats.sites.keys, isSite site = true
  inFlight : ∀ site ∈ driver.stats.inFlight.keys, isSite site = true

theorem synced_of_marks {cfg : Config} {driver : Persisted} {after : SiteStats}
    (synced : Synced cfg driver) (marks : Marks driver.stats after) :
    Synced cfg ⟨after, driver.file⟩ := by
  constructor
  · exact marks.cfg.trans synced.cfg
  · intro clean
    obtain ⟨cleanBefore, same⟩ := marks.dirty clean
    rw [same]
    exact synced.clean cleanBefore
  · intro site known
    rcases marks.keys site known with earlier | isSite
    · exact synced.sites site earlier
    · exact isSite
  · rw [marks.inFlight]
    exact synced.inFlight

theorem synced_save {cfg : Config} {driver : Persisted} (synced : Synced cfg driver)
    (written : Bool) : Synced cfg (driver.save written) := by
  rw [Persisted.save]
  split
  · exact ⟨synced.cfg, fun _ => rfl, synced.sites, synced.inFlight⟩
  · exact synced

theorem synced_step {cfg : Config} (driver : Persisted) (call : Call)
    (synced : Synced cfg driver) : Synced cfg (driver.step call) := by
  cases call with
  | save written => exact synced_save synced written
  | op op =>
      cases op with
      | record site ok now => exact synced_of_marks synced (marks_record _ site ok now)
      | setInFlight jobs =>
          refine ⟨synced.cfg, synced.clean, synced.sites, ?_⟩
          intro site known
          obtain ⟨count, _, isSite⟩ := Dict.mem_keys_filter.mp known
          exact isSite
      | blacklist now => exact synced_of_marks synced (marks_blacklist _ now)

theorem synced_run (cfg : Config) (calls : List Call) :
    Synced cfg (run Persisted.step (Persisted.new cfg) calls) := by
  have start : Synced cfg (Persisted.new cfg) := by
    constructor <;> simp [Persisted.new, new, Holds]
  exact invariant_run_of_forall synced_step start calls

/-- A save that works leaves nothing dirty. -/
theorem dirty_save (driver : Persisted) : (driver.save true).stats.dirty = false := by
  rw [Persisted.save]
  split
  · rfl
  · rename_i clean
    simpa using clean

/-- From a record that is synced and clean, an object read back from its file
is the object it replaces, but for the counts in flight. -/
theorem restartInvisible_of_synced {cfg : Config} {saved : Persisted} (synced : Synced cfg saved)
    (clean : saved.stats.dirty = false) : RestartInvisible cfg saved := by
  have reads := load_of_holds (synced.clean clean) synced.sites
  constructor
  case reloads =>
    exact ⟨{ saved.stats with inFlight := Dict.empty }, synced.cfg, reads, rfl, clean⟩
  case counts =>
    apply Dict.ext
    apply List.filter_eq_self.mpr
    intro item member
    exact synced.inFlight item.1 (List.mem_map_of_mem member)
  case same =>
    intro fresh reloaded jobs sameJobs
    have sameSites : fresh.sites = saved.stats.sites := by
      have both := Except.ok.inj (reloaded.sites.symm.trans reads)
      apply Dict.ext
      have items := congrArg Dict.items both
      have injective : Function.Injective fun item : String × SiteRecord =>
          (item.1, item.2.loaded) := by
        rintro ⟨firstSite, first⟩ ⟨secondSite, second⟩ pair
        simp only [Prod.mk.injEq] at pair
        rw [pair.1, loaded_injective pair.2]
      exact List.map_injective_iff.mpr injective items
    have sameStats : fresh.setInFlight jobs = saved.stats := by
      rw [setInFlight] at sameJobs ⊢
      rcases saved with ⟨⟨savedCfg, savedSites, savedInFlight, savedDirty⟩, file⟩
      simp only [SiteStats.mk.injEq]
      exact ⟨reloaded.cfg.trans synced.cfg.symm, sameSites, sameJobs,
        reloaded.dirty.trans clean.symm⟩
    intro later
    rw [sameStats]
    exact ⟨rfl, rfl⟩

/-- A driver restart is invisible to the quarantine. -/
theorem restart_invisible (cfg : Config) (calls : List Call) :
    let driver := run Persisted.step (Persisted.new cfg) calls
    (driver.stats.dirty = false → Holds driver.file driver.stats.sites) ∧
      RestartInvisible cfg (driver.save true) := by
  have synced := synced_run cfg calls
  constructor
  · exact synced.clean
  · exact restartInvisible_of_synced (synced_save synced true) (dirty_save _)

end DSProd.SiteStats
