import DSProd.Library.Json
import DSProd.Library.Run
import Mathlib.Data.List.Dedup
import Mathlib.Data.List.Induction
import Mathlib.Data.List.Sort
import Mathlib.Data.String.Basic

/-!
# The list of processing sites

`processing_sites` of `crab.py`: the names that a whitelist may contain, as CRIC
answers them, cached in a file for a day.  A list that is too short is no list,
whichever way it came.  Beyond a day the file still stands in when CRIC does not
answer, and a refused submission drops it.

A list may take the writing of its file with it, or leave it broken: what reads
as no JSON is asked for again.
-/

namespace DSProd.Crab

open DSProd.Library

/-! ## What CRIC answers -/

/-- The last value under a name, in a row read by its columns. -/
def columnValue (columns row : List Json) (name : String) : Option Json :=
  (columns.zip row).reverse.findSome? fun entry =>
    match entry.1 with
    | .str column => if column = name then some entry.2 else none
    | _ => none

/-- A value that can be a key. -/
def hashable : Json → Bool
  | .arr _ => false
  | .obj _ => false
  | _ => true

/-- The alias in a row, if it is the row of a processing site and has one.  It
raises for columns that cannot be iterated, or one that cannot be a key. -/
def siteOfRow (columns : Json) (row : List Json) : Option (Option Json) := do
  let columns ← columns.iterate.toOption
  if !((columns.zip row).all fun entry => hashable entry.1) then none
  else
    match columnValue columns row "type", columnValue columns row "alias" with
    | some (.str "psn"), some value => some (if value.truthy then some value else none)
    | _, _ => some none

/-- The value under a name of an object, if it is an object. -/
def member (value : Json) (name : String) (default : Json) : Option Json :=
  match value with
  | .obj entries => some ((entries.lookup name).getD default)
  | _ => none

/-- `value or default`. -/
def orElse (value default : Json) : Json :=
  if value.truthy then value else default

/-- The aliases in some rows, or nothing where one of them raises. -/
def sitesOfRows (columns : Json) (rows : List Json) : Option (List Json) :=
  (rows.filterMap fun row => match row with
    | .arr values => some values
    | _ => none).foldr
      (fun row aliases => do
        let found ← siteOfRow columns row
        return found.toList ++ (← aliases)) (some [])

/-- The aliases of the processing sites in an answer of CRIC, or nothing where
reading them raises. -/
def cricAliases (payload : Json) : Option (List Json) := do
  let answer := orElse payload (.obj [])
  let columns := orElse (← member (← member answer "desc" (.obj [])) "columns" .null) (.arr [])
  let rows := orElse (← member answer "result" .null) (.arr [])
  match columns.truthy, rows with
  | true, .arr rows => sitesOfRows columns rows
  | _, _ => return []

section Sorting

variable (sortValues : List Json → Option (List Json))

/-- `sorted` of the set of some values.  Texts go by their characters; what the
set of other values gives, if they can be hashed and compared, is left open. -/
def sortedSet (values : List Json) : Option (List Json) :=
  if values.all fun value => value.text?.isSome then
    some (((values.filterMap Json.text?).dedup.insertionSort (· ≤ ·)).map .str)
  else sortValues values

/-- `_parse_cric_sites`, or nothing where it raises. -/
def parseCricSites (payload : Json) : Option (List Json) := do
  sortedSet sortValues (← cricAliases payload)

/-- `_CRIC_CACHE_SECONDS`. -/
def cricCacheSeconds : ℚ :=
  24 * 3600

/-- `_CRIC_MIN_SITES`. -/
def cricMinSites : Nat :=
  50

/-- `_checked`: the list, if it is long enough to be one. -/
def checked : Json → Option (List Json)
  | .arr sites => if sites.length < cricMinSites then none else some sites
  | _ => none

/-- The list that CRIC answers, if it answers and the list is long enough. -/
def cricSites (answer : Option Json) : Option (List Json) := do
  checked (.arr (← parseCricSites sortValues (← answer)))

end Sorting

/-! ## The cache -/

/-- The cached list: when it was written, and what a reader makes of it, if it
is JSON at all. -/
structure CacheFile where
  writtenAt : ℚ
  content : Option Json

/-- What a call does to the file it writes. -/
inductive Storing where
  | whole
  | broken
  | untouched
  deriving DecidableEq

/-- The file after a list is written to it. -/
def Storing.store (storing : Storing) (now : ℚ) (sites : List Json)
    (cache : Option CacheFile) : Option CacheFile :=
  match storing with
  | .whole => some ⟨now, some (.arr sites)⟩
  | .broken => some ⟨now, none⟩
  | .untouched => cache

/-- A list younger than a day. -/
def CacheFile.isFresh (file : CacheFile) (now : ℚ) : Bool :=
  now - file.writtenAt < cricCacheSeconds

/-- The list in a file, if it is one. -/
def CacheFile.sites (file : CacheFile) : Option (List Json) :=
  file.content.bind checked

/-- Why there is no list of sites. -/
inductive SiteListError where
  | unreadable
  | cric
  deriving DecidableEq

section Sites

variable (sortValues : List Json → Option (List Json))

/-- `processing_sites`: what it returns, and the file it leaves. -/
def processingSites (cache : Option CacheFile) (now : ℚ) (answer : Option Json)
    (storing : Storing) : Except SiteListError (List Json) × Option CacheFile :=
  match cache.bind fun file => if file.isFresh now then file.sites else none with
  | some sites => (.ok sites, cache)
  | none =>
      match cricSites sortValues answer with
      | some sites => (.ok sites, storing.store now sites cache)
      | none =>
          match cache with
          | none => (.error .cric, none)
          | some file =>
              match file.sites with
              | some sites => (.ok sites, cache)
              | none => (.error .unreadable, cache)

/-- What happens to the cache: a submission asks for the list, or a refusal
drops it, if it can. -/
inductive SiteListEvent where
  | ask (now : ℚ) (answer : Option Json) (storing : Storing)
  | drop (removed : Bool)

/-- `_invalidate_site_cache`. -/
def invalidateSiteCache (removed : Bool) (cache : Option CacheFile) : Option CacheFile :=
  if removed then none else cache

/-- The cache an event leaves. -/
def siteListStep (cache : Option CacheFile) : SiteListEvent → Option CacheFile
  | .ask now answer storing => (processingSites sortValues cache now answer storing).2
  | .drop removed => invalidateSiteCache removed cache

/-! ## Where a list comes from -/

/-- The events since the list was dropped last. -/
def sinceDrop (events : List SiteListEvent) : List SiteListEvent :=
  events.foldl (fun since event => match event with
    | .drop true => []
    | event => since ++ [event]) []

/-- A list that CRIC answered to one of some events, at some time. -/
def Answered (events : List SiteListEvent) (time : ℚ) (sites : List Json) : Prop :=
  ∃ answer storing, .ask time answer storing ∈ events ∧ cricSites sortValues answer = some sites

/-- A file that is broken, or holds a list that CRIC answered when it was written. -/
def FromCric (events : List SiteListEvent) (cache : Option CacheFile) : Prop :=
  ∀ file, cache = some file → file.content = none ∨
    ∃ sites, Answered sortValues events file.writtenAt sites ∧ file.content = some (.arr sites)

/-- The aliases in an answer of CRIC are texts, as they are. -/
def OfTexts (answer : Option Json) : Prop :=
  ∀ aliases, answer.bind cricAliases = some aliases → ∀ value ∈ aliases, value.text?.isSome = true

/-- What a submission may be given: the list of an answer of CRIC that came
since the list was dropped last, and not a day ago unless CRIC does not answer
now.  The names in it are in order, each once. -/
structure Recent (before : List SiteListEvent) (now : ℚ) (answer : Option Json)
    (sites : List Json) (given : Option Json) : Prop where
  isGiven : cricSites sortValues given = some sites
  enough : cricMinSites ≤ sites.length
  ordered : OfTexts given →
    ∃ names : List String, sites = names.map .str ∧ names.Pairwise (· < ·)
  source : given = answer ∨
    ∃ time storing, .ask time given storing ∈ sinceDrop before ∧
      (now - time < cricCacheSeconds ∨ cricSites sortValues answer = none)

end Sites

variable {sortValues : List Json → Option (List Json)}

theorem checked_arr {sites found : List Json} (isList : checked (.arr sites) = some found) :
    found = sites ∧ cricMinSites ≤ sites.length := by
  rw [checked] at isList
  split at isList
  · cases isList
  · rename_i long
    cases isList
    exact ⟨rfl, not_lt.mp long⟩

/-- The list of a file that holds one. -/
theorem answered_of_fromCric {events : List SiteListEvent} {file : CacheFile} {sites : List Json}
    (fromCric : FromCric sortValues events (some file)) (found : file.sites = some sites) :
    Answered sortValues events file.writtenAt sites := by
  rcases fromCric file rfl with broken | ⟨names, answered, content⟩
  · rw [CacheFile.sites, broken] at found
    cases found
  · rw [CacheFile.sites, content, Option.bind_some] at found
    rw [(checked_arr found).1]
    exact answered

/-- What a submission gets: the list of a file that is younger than a day, what
CRIC answers, or the list of an older file where CRIC does not answer. -/
theorem processingSites_cases (sortValues : List Json → Option (List Json))
    (cache : Option CacheFile) (now : ℚ) (answer : Option Json) (storing : Storing) :
    (∃ file sites, cache = some file ∧ file.sites = some sites ∧
      (file.isFresh now = true ∨ cricSites sortValues answer = none) ∧
      processingSites sortValues cache now answer storing = (.ok sites, cache)) ∨
    (∃ sites, cricSites sortValues answer = some sites ∧
      processingSites sortValues cache now answer storing =
        (.ok sites, storing.store now sites cache)) ∨
    (cricSites sortValues answer = none ∧ ∃ error,
      processingSites sortValues cache now answer storing = (.error error, cache)) := by
  unfold processingSites
  split
  · rename_i sites fresh
    obtain ⟨file, isCached, found⟩ := Option.bind_eq_some_iff.mp fresh
    split at found
    · rename_i young
      exact Or.inl ⟨file, sites, isCached, found, Or.inl young, rfl⟩
    · cases found
  · cases answered : cricSites sortValues answer with
    | some names => exact Or.inr (Or.inl ⟨names, rfl, rfl⟩)
    | none =>
        cases cache with
        | none => exact Or.inr (Or.inr ⟨rfl, _, rfl⟩)
        | some file =>
            cases found : file.sites with
            | some sites =>
                exact Or.inl ⟨file, sites, rfl, found, Or.inr rfl, by simp only [found]⟩
            | none => exact Or.inr (Or.inr ⟨rfl, .unreadable, by simp only [found]⟩)

theorem FromCric.mono {events more : List SiteListEvent} {cache : Option CacheFile}
    (fromCric : FromCric sortValues events cache) (among : ∀ event ∈ events, event ∈ more) :
    FromCric sortValues more cache := by
  intro file isCached
  rcases fromCric file isCached with broken | ⟨names, ⟨answer, storing, asked, answered⟩, content⟩
  · exact Or.inl broken
  · exact Or.inr ⟨names, ⟨answer, storing, among _ asked, answered⟩, content⟩

/-- An event keeps the file one of CRIC's answers since the last drop. -/
theorem fromCric_step {events : List SiteListEvent} {cache : Option CacheFile}
    (fromCric : FromCric sortValues (sinceDrop events) cache) (event : SiteListEvent) :
    FromCric sortValues (sinceDrop (events ++ [event])) (siteListStep sortValues cache event) := by
  cases event with
  | drop removed =>
      cases removed with
      | true =>
          intro file isCached
          cases isCached
      | false =>
          have since : sinceDrop (events ++ [.drop false]) = sinceDrop events ++ [.drop false] := by
            simp [sinceDrop]
          rw [since]
          exact fromCric.mono fun event member => List.mem_append_left _ member
  | ask now answer storing =>
      have since : sinceDrop (events ++ [.ask now answer storing]) =
          sinceDrop events ++ [.ask now answer storing] := by
        simp [sinceDrop]
      have kept : FromCric sortValues (sinceDrop events ++ [.ask now answer storing]) cache :=
        fromCric.mono fun event member => List.mem_append_left _ member
      rw [since, siteListStep]
      rcases processingSites_cases sortValues cache now answer storing with
        ⟨_, _, _, _, _, same⟩ | ⟨names, answered, same⟩ | ⟨_, _, same⟩
      · rw [same]
        exact kept
      · rw [same]
        cases storing with
        | untouched => exact kept
        | broken =>
            rintro file ⟨⟩
            exact Or.inl rfl
        | whole =>
            rintro file ⟨⟩
            exact Or.inr ⟨names, ⟨answer, .whole, by simp, answered⟩, rfl⟩
      · rw [same]
        exact kept

theorem fromCric_run (sortValues : List Json → Option (List Json)) (events : List SiteListEvent) :
    FromCric sortValues (sinceDrop events) (run (siteListStep sortValues) none events) := by
  induction events using List.reverseRecOn with
  | nil =>
      intro file isCached
      cases isCached
  | append_singleton events event ih =>
      rw [run_concat]
      exact fromCric_step ih event

/-- A set of texts is sorted, each once. -/
theorem ordered_of_sortedSet {values sites : List Json}
    (texts : ∀ value ∈ values, value.text?.isSome = true)
    (isSorted : sortedSet sortValues values = some sites) :
    ∃ names : List String, sites = names.map .str ∧ names.Pairwise (· < ·) := by
  rw [sortedSet, if_pos (List.all_eq_true.mpr texts)] at isSorted
  let names := values.filterMap Json.text?
  have ordered := List.pairwise_insertionSort (r := (· ≤ ·)) names.dedup
  have once : (names.dedup.insertionSort (· ≤ ·)).Nodup :=
    (List.perm_insertionSort _ _).nodup_iff.mpr (List.nodup_dedup names)
  refine ⟨names.dedup.insertionSort (· ≤ ·), (Option.some.inj isSorted).symm, ?_⟩
  exact (ordered.and once).imp fun both => lt_of_le_of_ne both.1 both.2

/-- The list that CRIC answers is long enough, and in order. -/
theorem ordered_of_cricSites {answer : Option Json} {sites : List Json}
    (answered : cricSites sortValues answer = some sites) :
    cricMinSites ≤ sites.length ∧ (OfTexts answer →
      ∃ names : List String, sites = names.map .str ∧ names.Pairwise (· < ·)) := by
  simp only [cricSites, parseCricSites, Option.bind_eq_bind, Option.bind_eq_some_iff] at answered
  obtain ⟨payload, rfl, parsed, ⟨aliases, areAliases, isSorted⟩, isList⟩ := answered
  obtain ⟨rfl, enough⟩ := checked_arr isList
  exact ⟨enough, fun texts => ordered_of_sortedSet (texts aliases areAliases) isSorted⟩

/-- Whatever becomes of the cache, a submission is given a list that CRIC has
answered, and it fails only when CRIC does not answer. -/
theorem site_list_is_recent (before : List SiteListEvent) (now : ℚ) (answer : Option Json)
    (storing : Storing) :
    match (processingSites sortValues (run (siteListStep sortValues) none before) now answer
      storing).1 with
    | .ok sites => ∃ given, Recent sortValues before now answer sites given
    | .error _ => cricSites sortValues answer = none := by
  have fromCric := fromCric_run sortValues before
  rcases processingSites_cases sortValues (run (siteListStep sortValues) none before) now answer
    storing with
    ⟨file, sites, isCached, found, young, same⟩ | ⟨sites, answered, same⟩ | ⟨failed, error, same⟩
  · rw [isCached] at fromCric
    obtain ⟨earlier, stored, asked, answered⟩ := answered_of_fromCric fromCric found
    obtain ⟨enough, ordered⟩ := ordered_of_cricSites answered
    rw [same]
    refine ⟨earlier, answered, enough, ordered, Or.inr ⟨file.writtenAt, stored, asked, ?_⟩⟩
    exact young.imp_left of_decide_eq_true
  · obtain ⟨enough, ordered⟩ := ordered_of_cricSites answered
    rw [same]
    exact ⟨answer, answered, enough, ordered, Or.inl rfl⟩
  · rw [same]
    exact failed

end DSProd.Crab
