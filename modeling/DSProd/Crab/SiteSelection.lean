import DSProd.SiteStats.Core
import DSProd.Tasks.Setup

/-!
# Sites of a submission

`resolve_whitelist` of `crab.py`.  CRAB keeps a site that both of its lists
match, so a whitelist has to be without the excluded sites: an entry that covers
one of them is expanded into the sites it matches, less the excluded ones.

Whether an entry covers an excluded site is asked of the text of the blacklist
entry, and the excluded sites are told by their text too.  For an entry without
wildcards this is what it matches; for a pattern it is not.
-/

namespace DSProd.Crab

open DSProd.Tasks

/-- Why no whitelist is left. -/
inductive SelectionError where
  | excludesAll (blacklist whitelist : List String)
  deriving DecidableEq

/-- The entries of the blacklist that an entry of the whitelist covers: `hit`. -/
def hits (blacklist : List String) (entry : String) : List String :=
  blacklist.filter fun excluded => fnmatch excluded entry

/-- What becomes of an entry of the whitelist. -/
def resolveEntry (blacklist sites : List String) (entry : String) : List String :=
  if hits blacklist entry = [] then [entry]
  else sites.filter fun site => fnmatch site entry && site ∉ blacklist

/-- `resolve_whitelist`. -/
def resolveWhitelist (whitelist blacklist sites : List String) :
    Except SelectionError (List String) :=
  if blacklist = [] then .ok whitelist
  else
    let out := whitelist.flatMap (resolveEntry blacklist sites)
    if out = [] then .error (.excludesAll blacklist whitelist) else .ok out

/-! ## What a whitelist admits -/

/-- One of some entries matches a name. -/
def Admits (entries : List String) (name : String) : Prop :=
  ∃ entry ∈ entries, fnmatch name entry = true

instance (entries : List String) (name : String) : Decidable (Admits entries name) :=
  inferInstanceAs (Decidable (∃ entry ∈ entries, _))

/-- A whitelist is resolved into entries that match no excluded name and each
listed site that is allowed, or there is no such site.  What counts as the name
of a site is a parameter. -/
def AdmitsAllowed (isName : String → Prop) (whitelist blacklist sites : List String) : Prop :=
  match resolveWhitelist whitelist blacklist sites with
  | .error _ => ∀ site ∈ sites, Admits whitelist site → Admits blacklist site
  | .ok resolved =>
      (∀ name, isName name → Admits blacklist name → ¬Admits resolved name) ∧
        ∀ site ∈ sites, Admits whitelist site → ¬Admits blacklist site → Admits resolved site

/-- No pattern of the blacklist reaches what is left of the whitelist: a listed
site that an expanded entry and a pattern match is excluded by its own name, and
an entry that is kept has no name in common with a pattern. -/
structure PatternsReachNothing (isName : String → Prop) (whitelist blacklist sites : List String) :
    Prop where
  expanded : ∀ entry ∈ whitelist, hits blacklist entry ≠ [] → ∀ site ∈ sites, isName site →
    fnmatch site entry = true → ∀ pattern ∈ blacklist, ¬IsPlain pattern →
      fnmatch site pattern = true → site ∈ blacklist
  kept : ∀ entry ∈ whitelist, hits blacklist entry = [] → ∀ name, isName name →
    fnmatch name entry = true → ∀ pattern ∈ blacklist, ¬IsPlain pattern →
      fnmatch name pattern = false

section Selection

variable {isName : String → Prop} {whitelist blacklist sites : List String}

/-- What is left of an entry that covers an excluded one is listed, matched by
it, and not excluded by name. -/
theorem mem_resolveEntry_of_hit {entry name : String} (hit : hits blacklist entry ≠ []) :
    name ∈ resolveEntry blacklist sites entry ↔
      name ∈ sites ∧ fnmatch name entry = true ∧ name ∉ blacklist := by
  rw [resolveEntry, if_neg hit, List.mem_filter, Bool.and_eq_true, decide_eq_true_eq]

theorem resolveEntry_of_not_hit {entry : String} (kept : hits blacklist entry = []) :
    resolveEntry blacklist sites entry = [entry] :=
  if_pos kept

/-- An entry that is kept covers no entry of the blacklist. -/
theorem hits_eq_nil_iff {entry : String} :
    hits blacklist entry = [] ↔ ∀ excluded ∈ blacklist, fnmatch excluded entry = false := by
  simp [hits]

/-- An allowed site is still matched by what is left of each entry that matches it. -/
theorem admits_resolveEntry {entry site : String} (plain : IsPlain site) (listed : site ∈ sites)
    (matched : fnmatch site entry = true) (allowed : ¬Admits blacklist site) :
    Admits (resolveEntry blacklist sites entry) site := by
  by_cases kept : hits blacklist entry = []
  · rw [resolveEntry_of_not_hit kept]
    exact ⟨entry, List.mem_singleton_self entry, matched⟩
  · have itself : fnmatch site site = true := (fnmatch_plain_iff plain).mpr rfl
    have notExcluded : site ∉ blacklist := fun excluded => allowed ⟨site, excluded, itself⟩
    exact ⟨site, (mem_resolveEntry_of_hit kept).mpr ⟨listed, matched, notExcluded⟩, itself⟩

/-- What is left of an entry matches an excluded name exactly when a pattern of
the blacklist reaches it. -/
theorem admits_resolveEntry_iff {entry name : String} (plain : ∀ site ∈ sites, IsPlain site) :
    Admits (resolveEntry blacklist sites entry) name ∧ Admits blacklist name ↔
      fnmatch name entry = true ∧ (hits blacklist entry ≠ [] → name ∈ sites ∧ name ∉ blacklist) ∧
        ∃ pattern ∈ blacklist, ¬IsPlain pattern ∧ fnmatch name pattern = true := by
  by_cases kept : hits blacklist entry = []
  · rw [resolveEntry_of_not_hit kept]
    constructor
    · rintro ⟨⟨_, isEntry, matched⟩, pattern, member, excluded⟩
      cases List.mem_singleton.mp isEntry
      refine ⟨matched, fun hit => absurd kept hit, pattern, member, ?_, excluded⟩
      intro isPlain
      cases (fnmatch_plain_iff isPlain).mp excluded
      rw [hits_eq_nil_iff.mp kept name member] at matched
      cases matched
    · rintro ⟨matched, _, pattern, member, _, excluded⟩
      exact ⟨⟨entry, List.mem_singleton_self entry, matched⟩, pattern, member, excluded⟩
  · constructor
    · rintro ⟨⟨site, isSite, same⟩, pattern, member, excluded⟩
      obtain ⟨listed, matched, notExcluded⟩ := (mem_resolveEntry_of_hit kept).mp isSite
      cases (fnmatch_plain_iff (plain site listed)).mp same
      refine ⟨matched, fun _ => ⟨listed, notExcluded⟩, pattern, member, ?_, excluded⟩
      intro isPlain
      cases (fnmatch_plain_iff isPlain).mp excluded
      exact notExcluded member
    · rintro ⟨matched, listed, pattern, member, _, excluded⟩
      obtain ⟨isSite, notExcluded⟩ := listed kept
      have itself : fnmatch name name = true := (fnmatch_plain_iff (plain name isSite)).mpr rfl
      exact ⟨⟨name, (mem_resolveEntry_of_hit kept).mpr ⟨isSite, matched, notExcluded⟩, itself⟩,
        pattern, member, excluded⟩

theorem admits_flatMap {left : String → List String} {name : String} :
    Admits (whitelist.flatMap left) name ↔ ∃ entry ∈ whitelist, Admits (left entry) name := by
  constructor
  · rintro ⟨other, member, matched⟩
    obtain ⟨entry, isEntry, isLeft⟩ := List.mem_flatMap.mp member
    exact ⟨entry, isEntry, other, isLeft, matched⟩
  · rintro ⟨entry, isEntry, other, isLeft, matched⟩
    exact ⟨other, List.mem_flatMap.mpr ⟨entry, isEntry, isLeft⟩, matched⟩

/-- A listed site that is allowed is matched by what is left of the whitelist. -/
theorem admits_left (plain : ∀ site ∈ sites, IsPlain site) {site : String} (listed : site ∈ sites)
    (admitted : Admits whitelist site) (allowed : ¬Admits blacklist site) :
    Admits (whitelist.flatMap (resolveEntry blacklist sites)) site := by
  obtain ⟨entry, member, matched⟩ := admitted
  exact admits_flatMap.mpr
    ⟨entry, member, admits_resolveEntry (plain site listed) listed matched allowed⟩

/-- What is left of the whitelist matches no excluded name exactly when no
pattern of the blacklist reaches it. -/
theorem excludes_left_iff (plain : ∀ site ∈ sites, IsPlain site) :
    (∀ name, isName name → Admits blacklist name →
        ¬Admits (whitelist.flatMap (resolveEntry blacklist sites)) name) ↔
      PatternsReachNothing isName whitelist blacklist sites := by
  constructor
  · intro excludes
    constructor
    · intro entry member hit site listed named matched pattern inBlacklist notPlain excluded
      by_contra notExcluded
      have both := (admits_resolveEntry_iff plain).mpr
        ⟨matched, fun _ => ⟨listed, notExcluded⟩, pattern, inBlacklist, notPlain, excluded⟩
      exact excludes site named both.2 (admits_flatMap.mpr ⟨entry, member, both.1⟩)
    · intro entry member kept name named matched pattern inBlacklist notPlain
      by_contra excluded
      have both := (admits_resolveEntry_iff plain).mpr ⟨matched, fun hit => absurd kept hit,
        pattern, inBlacklist, notPlain, Bool.not_eq_false _ ▸ excluded⟩
      exact excludes name named both.2 (admits_flatMap.mpr ⟨entry, member, both.1⟩)
  · intro reach name named excluded admitted
    obtain ⟨entry, member, left⟩ := admits_flatMap.mp admitted
    obtain ⟨matched, listed, pattern, inBlacklist, notPlain, isExcluded⟩ :=
      (admits_resolveEntry_iff plain).mp ⟨left, excluded⟩
    by_cases kept : hits blacklist entry = []
    · rw [reach.kept entry member kept name named matched pattern inBlacklist notPlain]
        at isExcluded
      cases isExcluded
    · obtain ⟨inSites, notExcluded⟩ := listed kept
      exact notExcluded (reach.expanded entry member kept name inSites named matched pattern
        inBlacklist notPlain isExcluded)

end Selection

/-- A whitelist is resolved into one that admits exactly the allowed sites when
no pattern of the blacklist reaches what is left of it, and only then. -/
theorem admitsAllowed_iff (isName : String → Prop) (whitelist blacklist sites : List String)
    (plain : ∀ site ∈ sites, IsPlain site) :
    AdmitsAllowed isName whitelist blacklist sites ↔
      PatternsReachNothing isName whitelist blacklist sites := by
  rw [← excludes_left_iff plain, AdmitsAllowed, resolveWhitelist]
  by_cases noBlacklist : blacklist = []
  · subst noBlacklist
    rw [if_pos rfl]
    have nothing : ∀ name, ¬Admits [] name := by
      rintro name ⟨entry, member, _⟩
      cases member
    exact iff_of_true ⟨fun name _ excluded => absurd excluded (nothing name),
      fun site _ admitted _ => admitted⟩ fun name _ excluded => absurd excluded (nothing name)
  · rw [if_neg noBlacklist]
    by_cases nothingLeft : whitelist.flatMap (resolveEntry blacklist sites) = []
    · rw [if_pos nothingLeft, nothingLeft]
      apply iff_of_true
      · intro site listed admitted
        by_contra allowed
        obtain ⟨entry, member, _⟩ := nothingLeft ▸ admits_left plain listed admitted allowed
        cases member
      · rintro name _ _ ⟨entry, member, _⟩
        cases member
    · rw [if_neg nothingLeft]
      exact and_iff_left fun site listed admitted allowed =>
        admits_left plain listed admitted allowed

/-- A blacklist of names reaches nothing: each is excluded by its text. -/
theorem patternsReachNothing_of_plain {isName : String → Prop}
    {whitelist blacklist sites : List String} (named : ∀ excluded ∈ blacklist, IsPlain excluded) :
    PatternsReachNothing isName whitelist blacklist sites where
  expanded _ _ _ _ _ _ _ pattern member notPlain := absurd (named pattern member) notPlain
  kept _ _ _ _ _ _ pattern member notPlain := absurd (named pattern member) notPlain

/-- A site that is excluded by its name is taken out of its tier. -/
theorem admitsAllowed_named :
    AdmitsAllowed (fun _ => True) ["T1_*", "T2_*"] ["T2_DE_DESY"]
      ["T1_DE_KIT", "T2_DE_DESY", "T2_US_MIT"] :=
  (admitsAllowed_iff _ _ _ _ (by decide)).mpr
    (patternsReachNothing_of_plain (by decide))

/-- A blacklist of a pattern leaves the sites of the pattern in. -/
theorem not_admitsAllowed_pattern :
    ¬AdmitsAllowed (fun name => SiteStats.isSite name = true) ["T2_*"] ["T2_US_*"]
      ["T2_DE_DESY", "T2_US_MIT"] := by
  intro admits
  have resolved : resolveWhitelist ["T2_*"] ["T2_US_*"] ["T2_DE_DESY", "T2_US_MIT"] =
      .ok ["T2_DE_DESY", "T2_US_MIT"] := by decide
  rw [AdmitsAllowed, resolved] at admits
  exact admits.1 "T2_US_MIT" (by decide) (by decide) (by decide)

end DSProd.Crab
