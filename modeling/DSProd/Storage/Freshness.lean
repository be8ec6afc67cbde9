import DSProd.Library.Triple
import DSProd.Storage.OwnWrites

/-!
# Answers about a storage that changes

Jobs write to the storage while the driver asks it.  A question is then
answered as of some moment: that of the listing its answer rests on.  Every
call of `gfal-ls` finds a tree of its own here, and an answer is good since a
call when one of the listings from there on bears it out.

A positive entry of a cache that was emptied is good since then, whatever the
clock does.  For a negative answer the entries must not expire meanwhile: a
directory that counts as listed denies every name whose own entry is gone.
-/

namespace DSProd.Storage

open DSProd.Library
open DSProd.Library.Action
open GFALFileInterface

/-! ## What the cache does between two listings -/

/-- An invariant that a reading of the clock and the loss of an entry keep. -/
structure Lasting (invariant : World → Prop) : Prop where
  tick : ∀ world, invariant world → invariant { world with ticks := world.ticks + 1 }
  lose : ∀ path world, invariant world →
    invariant { world with cache := world.cache.pop path }

/-- An invariant that a new entry of a path keeps, given what the entry says. -/
def Records (invariant : World → Prop) (path : Path) (pathExists : Bool) : Prop :=
  ∀ entry : PathCacheEntry, entry.pathExists = pathExists → ∀ world, invariant world →
    invariant { world with cache := world.cache.set path entry }

section Lasting

variable {env : Environment} {invariant : World → Prop} (lasting : Lasting invariant)

include lasting

theorem Lasting.keeps_time : Keeps invariant (PathCache.time env) fun _ => True :=
  fun world holds => ⟨lasting.tick world holds, fun _ _ => trivial⟩

theorem Lasting.keeps_isValid (entry : PathCacheEntry) :
    Keeps invariant (PathCache.isValid env entry) fun _ => True :=
  keeps_bind lasting.keeps_time fun _ _ => keeps_pure trivial

theorem Lasting.keeps_drop (path : Path) :
    Keeps invariant (PathCache.drop path) fun _ => True :=
  keeps_modify (lasting.lose path)

theorem Lasting.keeps_dropNegative (parent : Path) :
    Keeps invariant (PathCache.dropNegative parent) fun _ => True := by
  apply keeps_bind keeps_read
  intro found _
  cases found with
  | none => exact keeps_pure trivial
  | some pentry =>
      dsimp only
      split
      · exact lasting.keeps_drop parent
      · exact keeps_pure trivial

theorem Lasting.keeps_keepsListed (path : Path) (pathExists listed : Bool) :
    Keeps invariant (PathCache.keepsListed env path pathExists listed) fun _ => True := by
  apply keeps_bind keeps_read
  intro found _
  cases found with
  | none => exact keeps_pure trivial
  | some previous =>
      apply keeps_bind (lasting.keeps_isValid previous)
      exact fun _ _ => keeps_pure trivial

theorem Lasting.keeps_set {path : Path} {pathExists : Bool} (listed : Bool)
    (records : Records invariant path pathExists) :
    Keeps invariant (PathCache.set env path pathExists listed) fun _ => True := by
  apply keeps_bind (lasting.keeps_keepsListed path pathExists listed)
  intro kept _
  apply keeps_bind lasting.keeps_time
  intro now _
  apply keeps_bind (keeps_modify (records _ rfl))
  intro _ _
  split
  · exact keeps_forEach fun parent _ => lasting.keeps_dropNegative parent
  · exact keeps_pure trivial

theorem Lasting.keeps_setExists {dir : Path} {names : List String}
    (directory : Records invariant dir true)
    (children : ∀ name ∈ names, Records invariant (name :: dir) true) :
    Keeps invariant (PathCache.setExists env dir names) fun _ => True := by
  apply keeps_bind
  · exact keeps_forEach fun name member => lasting.keeps_set false (children name member)
  · exact fun _ _ => lasting.keeps_set true directory

theorem Lasting.keeps_inferFromParents (parents : List Path) :
    Keeps invariant (PathCache.inferFromParents env parents) fun inferred =>
      inferred ≠ some true := by
  induction parents with
  | nil => exact keeps_pure (by simp)
  | cons parent rest ih =>
      apply keeps_bind keeps_read
      intro found _
      cases found with
      | none => exact ih
      | some pentry =>
          apply keeps_bind (lasting.keeps_isValid pentry)
          intro valid _
          cases valid with
          | false => exact keeps_bind (lasting.keeps_drop parent) fun _ _ => ih
          | true => exact keeps_pure (by split <;> simp)

/-- `get` answers positively from a positive entry only. -/
theorem Lasting.keeps_get {path : Path} {good : Prop}
    (positive : ∀ world, invariant world → ∀ entry, world.cache.get? path = some entry →
      entry.pathExists = true → good) :
    Keeps invariant (PathCache.get env path) fun result => result = some true → good := by
  have inferred : Keeps invariant (PathCache.inferFromParents env path.iterParents) fun result =>
      result = some true → good := by
    intro world holds
    obtain ⟨kept, returned⟩ := lasting.keeps_inferFromParents path.iterParents world holds
    exact ⟨kept, fun result same isTrue => absurd isTrue (returned result same)⟩
  have cached : Keeps invariant (PathCache.cached path) fun found =>
      ∀ entry, found = some entry → entry.pathExists = true → good := by
    intro world holds
    refine ⟨holds, fun found same => ?_⟩
    cases same
    exact positive world holds
  apply keeps_bind cached
  intro found present
  cases found with
  | none => exact inferred
  | some entry =>
      apply keeps_bind (lasting.keeps_isValid entry)
      intro valid _
      cases valid with
      | false => exact keeps_bind (lasting.keeps_drop path) fun _ _ => inferred
      | true => exact keeps_pure fun same => present entry rfl (Option.some.inj same)

theorem Lasting.keeps_wasListed (path : Path) :
    Keeps invariant (PathCache.wasListed env path) fun _ => True := by
  apply keeps_bind keeps_read
  intro found _
  cases found with
  | none => exact keeps_pure trivial
  | some entry =>
      apply keeps_bind (lasting.keeps_isValid entry)
      exact fun _ _ => keeps_pure trivial

end Lasting

theorem Lasting.and {first second : World → Prop} (one : Lasting first) (other : Lasting second) :
    Lasting fun world => first world ∧ second world where
  tick := fun world holds => ⟨one.tick world holds.1, other.tick world holds.2⟩
  lose := fun path world holds => ⟨one.lose path world holds.1, other.lose path world holds.2⟩

/-- The cache never asks the storage. -/
theorem lasting_listings (holds : ℕ → Prop) : Lasting fun world => holds world.listings where
  tick := fun _ => id
  lose := fun _ _ => id

theorem records_listings (holds : ℕ → Prop) (path : Path) (pathExists : Bool) :
    Records (fun world => holds world.listings) path pathExists :=
  fun _ _ _ => id

theorem keeps_get_listings {env : Environment} (holds : ℕ → Prop) (path : Path) :
    Keeps (fun world => holds world.listings) (PathCache.get env path) fun _ => True := by
  intro world reached
  have asked : Keeps (fun world : World => holds world.listings) (PathCache.get env path)
      fun result => result = some true → True :=
    (lasting_listings holds).keeps_get fun _ _ _ _ _ => trivial
  exact ⟨(asked world reached).1, fun _ _ => trivial⟩

/-! ## Listings of a storage that changes -/

/-- Each call of `gfal-ls` is answered by the tree of its moment. -/
def Environment.TruthfulOver (env : Environment) (trees : ℕ → Tree) : Prop :=
  ∀ index path, (env.answer index path).Truthful (trees index) path

/-- The path was there at one of the listings from the first to the last. -/
def SeenIn (trees : ℕ → Tree) (first last : ℕ) (path : Path) : Prop :=
  ∃ index, first ≤ index ∧ index < last ∧ (trees index).Contains path

/-- The path was missing at one of the listings from the first to the last. -/
def MissedIn (trees : ℕ → Tree) (first last : ℕ) (path : Path) : Prop :=
  ∃ index, first ≤ index ∧ index < last ∧ ¬(trees index).Contains path

/-- A listing of a directory from the first to the last had just these names. -/
def ListedIn (trees : ℕ → Tree) (first last : ℕ) (dir : Path) (names : List String) : Prop :=
  ∃ index, first ≤ index ∧ index < last ∧ (trees index).node dir = some .directory ∧
    ∀ name, name ∈ names ↔ (trees index).Contains (name :: dir)

section Evidence

variable {trees : ℕ → Tree} {first last later : ℕ} {path dir : Path} {names : List String}

theorem SeenIn.mono (seen : SeenIn trees first last path) (grows : last ≤ later) :
    SeenIn trees first later path := by
  obtain ⟨index, since, before, present⟩ := seen
  exact ⟨index, since, before.trans_le grows, present⟩

theorem MissedIn.mono (missed : MissedIn trees first last path) (grows : last ≤ later) :
    MissedIn trees first later path := by
  obtain ⟨index, since, before, absent⟩ := missed
  exact ⟨index, since, before.trans_le grows, absent⟩

/-- Nothing lies below a path that is missing. -/
theorem MissedIn.below {ancestor : Path} (missed : MissedIn trees first last ancestor)
    (above : ancestor <:+ path) : MissedIn trees first last path := by
  obtain ⟨index, since, before, absent⟩ := missed
  exact ⟨index, since, before, fun present => absent (Tree.contains_of_suffix present above)⟩

theorem ListedIn.directory (listed : ListedIn trees first last dir names) :
    SeenIn trees first last dir := by
  obtain ⟨index, since, before, directory, _⟩ := listed
  exact ⟨index, since, before, by simp [Tree.Contains, directory]⟩

theorem ListedIn.seen (listed : ListedIn trees first last dir names) {name : String}
    (member : name ∈ names) : SeenIn trees first last (name :: dir) := by
  obtain ⟨index, since, before, _, exactly⟩ := listed
  exact ⟨index, since, before, (exactly name).mp member⟩

theorem ListedIn.missed (listed : ListedIn trees first last dir names) {name : String}
    (other : name ∉ names) : MissedIn trees first last (name :: dir) := by
  obtain ⟨index, since, before, _, exactly⟩ := listed
  exact ⟨index, since, before, fun present => other ((exactly name).mpr present)⟩

end Evidence

/-- What `gfal_ls_checked` returns is borne out by a listing it makes, and the
cache is left alone. -/
theorem gfalLsAttempts_over {env : Environment} {trees : ℕ → Tree}
    (truthful : env.TruthfulOver trees) (path : Path) (attempts : ℕ) (world : World) :
    (gfalLsAttempts env path attempts world).2.cache = world.cache ∧
      world.listings ≤ (gfalLsAttempts env path attempts world).2.listings ∧
      ∀ result, (gfalLsAttempts env path attempts world).1 = .ok result →
        ∃ index, world.listings ≤ index ∧
          index < (gfalLsAttempts env path attempts world).2.listings ∧
          BorneOut (trees index) path result := by
  induction attempts generalizing world with
  | zero => exact ⟨rfl, le_rfl, fun _ same => by cases same⟩
  | succ attemptsLeft ih =>
      have answered := truthful world.listings path
      cases answer : env.answer world.listings path with
      | entries names =>
          rw [answer] at answered
          simp only [gfalLsAttempts, recover, gfalLs, answer, Functor.map, pure]
          refine ⟨rfl, Nat.le_succ _, fun result same => ?_⟩
          cases same
          exact ⟨world.listings, le_rfl, Nat.lt_succ_self _, answered⟩
      | absent =>
          rw [answer] at answered
          simp only [gfalLsAttempts, recover, gfalLs, answer, Functor.map]
          refine ⟨rfl, Nat.le_succ _, fun result same => ?_⟩
          cases same
          exact ⟨world.listings, le_rfl, Nat.lt_succ_self _, answered⟩
      | failed =>
          simp only [gfalLsAttempts, recover, gfalLs, answer, Functor.map]
          by_cases final : attemptsLeft = 0
          · simp [isAbsentError, final, raise]
          · obtain ⟨sameCache, grows, borneOut⟩ := ih { world with listings := world.listings + 1 }
            simp only [isAbsentError, final, Bool.false_eq_true, if_false]
            refine ⟨sameCache, (Nat.le_succ _).trans grows, fun result same => ?_⟩
            obtain ⟨index, since, before, holds⟩ := borneOut result same
            exact ⟨index, (Nat.le_succ _).trans since, before, holds⟩

/-! ## Questions that keep an invariant -/

/-- What a checked listing says of a path. -/
def Found (trees : ℕ → Tree) (first last : ℕ) (path : Path) : Option (List String) → Prop
  | none => MissedIn trees first last path
  | some names => ListedIn trees first last path names

/-- An invariant that what is learned of the storage since a listing keeps. -/
structure Observes (env : Environment) (trees : ℕ → Tree) (first : ℕ)
    (invariant : World → Prop) : Prop where
  since : ∀ world, invariant world → first ≤ world.listings
  ofListing : ∀ world after : World, after.cache = world.cache →
    world.listings ≤ after.listings → invariant world → invariant after
  get : ∀ path, Keeps invariant (PathCache.get env path) fun _ => True
  setAbsent : ∀ path last, MissedIn trees first last path →
    Keeps (fun world => last ≤ world.listings ∧ invariant world)
      (PathCache.set env path false false) fun _ => True
  setExists : ∀ dir names last, ListedIn trees first last dir names →
    Keeps (fun world => last ≤ world.listings ∧ invariant world)
      (PathCache.setExists env dir names) fun _ => True

section Observes

variable {env : Environment} {trees : ℕ → Tree} {first : ℕ} {invariant : World → Prop}

/-- It may say too that some listings have been made. -/
theorem Observes.reached (observes : Observes env trees first invariant) (last : ℕ) :
    Observes env trees first fun world => last ≤ world.listings ∧ invariant world where
  since := fun world holds => observes.since world holds.2
  ofListing := fun world after sameCache grows holds =>
    ⟨holds.1.trans grows, observes.ofListing world after sameCache grows holds.2⟩
  get := fun path world holds =>
    ⟨⟨(keeps_get_listings (last ≤ ·) path world holds.1).1,
      (observes.get path world holds.2).1⟩, fun _ _ => trivial⟩
  setAbsent := fun path other missed world holds =>
    ⟨⟨(observes.setAbsent path other missed world ⟨holds.1, holds.2.2⟩).1.1,
      ((lasting_listings (last ≤ ·)).keeps_set false (records_listings _ _ _) world holds.2.1).1,
      (observes.setAbsent path other missed world ⟨holds.1, holds.2.2⟩).1.2⟩,
      fun _ _ => trivial⟩
  setExists := fun dir names other listed world holds =>
    ⟨⟨(observes.setExists dir names other listed world ⟨holds.1, holds.2.2⟩).1.1,
      ((lasting_listings (last ≤ ·)).keeps_setExists (records_listings _ _ _)
        (fun _ _ => records_listings _ _ _) world holds.2.1).1,
      (observes.setExists dir names other listed world ⟨holds.1, holds.2.2⟩).1.2⟩,
      fun _ _ => trivial⟩

variable (observes : Observes env trees first invariant)

include observes

theorem Observes.meets_gfalLsChecked (truthful : env.TruthfulOver trees) {path : Path}
    (noFile : ∀ index, (trees index).node path ≠ some .file) :
    Meets invariant (gfalLsChecked env path)
      (fun result world => invariant world ∧ Found trees first world.listings path result)
      invariant := by
  intro world holds
  obtain ⟨sameCache, grows, borneOut⟩ := gfalLsAttempts_over truthful path 3 world
  have kept := observes.ofListing world _ sameCache grows holds
  refine ⟨fun result same => ⟨kept, ?_⟩, fun _ _ => kept⟩
  obtain ⟨index, since, before, bears⟩ := borneOut result same
  have late : first ≤ index := (observes.since world holds).trans since
  cases result with
  | none => exact ⟨index, late, before, fun present => present bears⟩
  | some names => exact ⟨index, late, before, bears.resolve_left (noFile index)⟩

theorem Observes.meets_setAbsent (path : Path) :
    Meets (fun world => invariant world ∧ MissedIn trees first world.listings path)
      (PathCache.set env path false false)
      (fun _ world => invariant world ∧ MissedIn trees first world.listings path) invariant := by
  intro world ⟨holds, missed⟩
  obtain ⟨⟨grows, kept⟩, _⟩ := observes.setAbsent path _ missed world ⟨le_rfl, holds⟩
  exact ⟨fun _ _ => ⟨kept, missed.mono grows⟩, fun _ _ => kept⟩

theorem Observes.meets_setExists (dir : Path) (names : List String) :
    Meets (fun world => invariant world ∧ ListedIn trees first world.listings dir names)
      (PathCache.setExists env dir names)
      (fun _ world => invariant world ∧ ListedIn trees first world.listings dir names)
      invariant := by
  intro world ⟨holds, listed⟩
  obtain ⟨⟨grows, kept⟩, _⟩ := observes.setExists dir names _ listed world ⟨le_rfl, holds⟩
  obtain ⟨index, since, before, exactly⟩ := listed
  exact ⟨fun _ _ => ⟨kept, index, since, before.trans_le grows, exactly⟩, fun _ _ => kept⟩

/-- The climb of `_mark_absent_ancestors`, over what never becomes a file. -/
theorem Observes.keeps_markAbsentAncestorsFrom (truthful : env.TruthfulOver trees) (climbs : ℕ)
    (path : Path) (clear : ∀ index, (trees index).NoFileAbove path) :
    Keeps invariant (markAbsentAncestorsFrom env climbs path) fun _ => True := by
  induction climbs generalizing path with
  | zero => exact keeps_pure trivial
  | succ climbsLeft ih =>
      rcases path with _ | ⟨child, _ | ⟨name, dir⟩⟩
      · exact keeps_pure trivial
      · exact keeps_pure trivial
      · have above : (name :: dir) <:+ (child :: name :: dir) := List.suffix_cons child _
        have noFile : ∀ index, (trees index).node (name :: dir) ≠ some .file :=
          fun index => clear index _ above (Path.ne_cons_self child _)
        have asked : Meets invariant
            (recover (some <$> gfalLsChecked env (name :: dir)) fun _ => pure none)
            (fun entries world => invariant world ∧ ∀ result, entries = some result →
              Found trees first world.listings (name :: dir) result) invariant := by
          apply meets_recover
          · apply meets_bind (observes.meets_gfalLsChecked truthful noFile)
            intro result
            apply meets_pure
            rintro world ⟨holds, found⟩
            refine ⟨holds, fun other same => ?_⟩
            cases same
            exact found
          · exact fun _ => meets_pure fun world holds => ⟨holds, fun _ same => by cases same⟩
        rw [markAbsentAncestorsFrom]
        apply keeps_bind (observes.get _)
        intro cached _
        cases cached with
        | some _ => exact keeps_pure trivial
        | none =>
            apply Meets.keeps
            apply meets_bind asked
            intro entries
            rcases entries with _ | _ | names
            · exact meets_pure fun world holds => ⟨holds.1, trivial⟩
            · apply (meets_bind (observes.meets_setAbsent (name :: dir)) _).weaken
              · exact fun world holds => ⟨holds.1, holds.2 none rfl⟩
              · exact fun _ _ => id
              · exact fun _ => id
              · intro _
                apply (ih _ fun index => (clear index).of_suffix above).meets.weaken
                · exact fun _ holds => holds.1
                · exact fun _ _ => id
                · exact fun _ => id
            · apply (observes.meets_setExists (name :: dir) names).weaken
              · exact fun world holds => ⟨holds.1, holds.2 (some names) rfl⟩
              · exact fun _ _ holds => ⟨holds.1, trivial⟩
              · exact fun _ => id

/-- The names `listdir` returns were seen, and any other name was missed. -/
theorem Observes.meets_listdir (truthful : env.TruthfulOver trees) {path : Path}
    (clear : ∀ index, (trees index).NoFileAbove (uri env path))
    (noFile : ∀ index, (trees index).node (uri env path) ≠ some .file) (silent : Bool) :
    Meets invariant (listdir env path silent)
      (fun names world => invariant world ∧ ∀ name,
        (name ∈ names → SeenIn trees first world.listings (name :: uri env path)) ∧
          (name ∉ names → MissedIn trees first world.listings (name :: uri env path)))
      invariant := by
  apply meets_bind (observes.meets_gfalLsChecked truthful noFile)
  intro entries
  cases entries with
  | some names =>
      apply meets_bind (observes.meets_setExists (uri env path) names)
      intro _
      apply meets_pure
      rintro world ⟨holds, listed⟩
      exact ⟨holds, fun name => ⟨listed.seen, listed.missed⟩⟩
  | none =>
      cases silent with
      | false => exact meets_raise fun _ holds => holds.1
      | true =>
          apply meets_bind (observes.meets_setAbsent (uri env path))
          intro _
          apply meets_of_start
          rintro start ⟨holds, missed⟩
          have climbs :=
            (observes.reached start.listings).keeps_markAbsentAncestorsFrom truthful 32 _ clear
          apply meets_bind (climbs.meets.weaken _ (fun _ _ => id) fun _ kept => kept.2)
          · intro _
            apply meets_pure
            rintro world ⟨⟨grows, kept⟩, _⟩
            refine ⟨kept, fun name => ⟨fun member => (by cases member), fun _ => ?_⟩⟩
            exact (missed.mono grows).below (List.suffix_cons name _)
          · rintro _ rfl
            exact ⟨le_rfl, holds⟩

/-- What an answer of `exists` says of the listings up to it. -/
def Answered (trees : ℕ → Tree) (first last : ℕ) (path : Path) (answer : Bool) : Prop :=
  if answer then SeenIn trees first last path else MissedIn trees first last path

/-- `exists`, given the answers of the cache: those that are told rest on a
listing, as all do that come from listing the directory. -/
theorem Observes.meets_existsPath (truthful : env.TruthfulOver trees) {told : Bool → Prop}
    {path : Path} (named : path ≠ [])
    (clear : ∀ index, (trees index).NoFileAbove (uri env path))
    (fromCache : Meets invariant (answerFromCache env path)
      (fun answer world => invariant world ∧ ∀ result, answer = some result → told result →
        Answered trees first world.listings (uri env path) result) invariant) :
    Meets invariant (existsPath env path)
      (fun result world => invariant world ∧
        (told result → Answered trees first world.listings (uri env path) result)) invariant := by
  cases path with
  | nil => exact absurd rfl named
  | cons name dir =>
      apply meets_bind fromCache
      intro answer
      cases answer with
      | some result => exact meets_pure fun world holds => ⟨holds.1, holds.2 result rfl⟩
      | none =>
          have above : uri env dir <:+ uri env (name :: dir) := List.suffix_cons name _
          have listing := observes.meets_listdir truthful
            (fun index => (clear index).of_suffix above)
            (fun index => clear index _ above (Path.ne_cons_self name _)) true
          apply meets_bind (listing.weaken (fun _ holds => holds.1) (fun _ _ => id) fun _ => id)
          intro names
          by_cases member : name ∈ names
          · rw [Path.split, if_pos member]
            exact meets_pure fun world holds => ⟨holds.1, fun _ => (holds.2 name).1 member⟩
          · rw [Path.split, if_neg member]
            apply meets_bind ((observes.meets_setAbsent (uri env (name :: dir))).weaken
              (fun world holds => ⟨holds.1, (holds.2 name).2 member⟩) (fun _ _ => id) fun _ => id)
            intro _
            exact meets_pure fun world holds => ⟨holds.1, fun _ => holds.2⟩

end Observes

/-! ## What is cached as present -/

/-- Every path that is cached as present was there at a listing since the first. -/
def PresentSince (trees : ℕ → Tree) (first : ℕ) (world : World) : Prop :=
  first ≤ world.listings ∧ ∀ path entry, world.cache.get? path = some entry →
    entry.pathExists = true → SeenIn trees first world.listings path

section PresentSince

variable {env : Environment} {trees : ℕ → Tree} {first : ℕ}

theorem lasting_presentSince : Lasting (PresentSince trees first) where
  tick := fun _ => id
  lose := fun path world holds => by
    refine ⟨holds.1, fun other entry found positive => holds.2 other entry ?_ positive⟩
    rw [Dict.get?_pop] at found
    split at found
    · cases found
    · exact found

theorem records_present {last : ℕ} {holds : ℕ → Prop} {path : Path} {pathExists : Bool}
    (late : ∀ count, holds count → last ≤ count)
    (seen : pathExists = true → SeenIn trees first last path) :
    Records (fun world => holds world.listings ∧ PresentSince trees first world) path
      pathExists := by
  rintro entry told world ⟨reached, since, present⟩
  refine ⟨reached, since, fun other stored found positive => ?_⟩
  rw [Dict.get?_set] at found
  split at found
  · rename_i same
    cases found
    rw [same]
    exact (seen (told.symm.trans positive)).mono (late _ reached)
  · exact present other stored found positive

theorem observes_presentSince : Observes env trees first (PresentSince trees first) where
  since := fun _ holds => holds.1
  ofListing := fun world after sameCache grows holds => by
    refine ⟨holds.1.trans grows, fun path entry found positive => ?_⟩
    rw [sameCache] at found
    exact (holds.2 path entry found positive).mono grows
  get := fun path world holds => by
    have asked : Keeps (PresentSince trees first) (PathCache.get env path)
        fun result => result = some true → True :=
      lasting_presentSince.keeps_get fun _ _ _ _ _ => trivial
    exact ⟨(asked world holds).1, fun _ _ => trivial⟩
  setAbsent := fun path last _ =>
    ((lasting_listings (last ≤ ·)).and lasting_presentSince).keeps_set false
      (records_present (fun _ => id) fun same => by cases same)
  setExists := fun dir names last listed =>
    ((lasting_listings (last ≤ ·)).and lasting_presentSince).keeps_setExists
      (records_present (fun _ => id) fun _ => listed.directory)
      fun name member => records_present (fun _ => id) fun _ => listed.seen member

/-- The cache says yes of what was there at a listing since the first. -/
theorem answerFromCache_seen (path : Path) :
    Meets (PresentSince trees first) (answerFromCache env path)
      (fun answer world => PresentSince trees first world ∧ ∀ result, answer = some result →
        result = true → Answered trees first world.listings (uri env path) result)
      (PresentSince trees first) := by
  apply meets_of_start
  intro start holds
  -- no listing is made: the evidence is that of the cache as it is found
  have lasting : Lasting fun world => world.listings = start.listings ∧
      PresentSince trees first world :=
    (lasting_listings (· = start.listings)).and lasting_presentSince
  have asked : Keeps
      (fun world => world.listings = start.listings ∧ PresentSince trees first world)
      (answerFromCache env path)
      fun answer => answer = some true → SeenIn trees first start.listings (uri env path) := by
    have positive : ∀ world, world.listings = start.listings ∧ PresentSince trees first world →
        ∀ entry, world.cache.get? (uri env path) = some entry → entry.pathExists = true →
        SeenIn trees first start.listings (uri env path) := by
      rintro world ⟨same, _, present⟩ entry found isTrue
      rw [← same]
      exact present _ entry found isTrue
    apply keeps_bind (lasting.keeps_get positive)
    intro result seen
    cases result with
    | some answer => exact keeps_pure seen
    | none =>
        apply keeps_bind (lasting.keeps_wasListed _)
        intro listed _
        cases listed with
        | false => exact keeps_pure fun same => by cases same
        | true =>
            have records : Records
                (fun world => world.listings = start.listings ∧ PresentSince trees first world)
                (uri env path) false :=
              records_present (fun _ same => Nat.le_of_eq (Eq.symm same)) fun same => by cases same
            apply keeps_bind (lasting.keeps_set false records)
            exact fun _ _ => keeps_pure fun same => by cases same
  rintro _ rfl
  obtain ⟨⟨same, kept⟩, returned⟩ := asked _ ⟨rfl, holds⟩
  refine ⟨fun answer outcome => ⟨kept, fun result found isTrue => ?_⟩, fun _ _ => kept⟩
  rw [isTrue] at found ⊢
  rw [same]
  exact returned answer outcome found

/-- `exists` says yes of what was there at a listing since the first. -/
theorem existsPath_seen (truthful : env.TruthfulOver trees) {path : Path} (named : path ≠ [])
    (clear : ∀ index, (trees index).NoFileAbove (uri env path)) :
    Meets (PresentSince trees first) (existsPath env path)
      (fun result world => PresentSince trees first world ∧
        (result = true → SeenIn trees first world.listings (uri env path)))
      (PresentSince trees first) := by
  apply (observes_presentSince.meets_existsPath truthful named clear
    (answerFromCache_seen path)).weaken (fun _ => id) _ fun _ => id
  rintro result world ⟨holds, answered⟩
  refine ⟨holds, fun isTrue => ?_⟩
  have seen := answered isTrue
  rwa [Answered, if_pos isTrue] at seen

end PresentSince

/-! ## What is cached as absent -/

/-- What is true of a cache in which nothing expires before a time: what it
denies was missing at a listing since the first. -/
structure AbsentSince (horizon : ℚ) (trees : ℕ → Tree) (first : ℕ) (world : World) : Prop where
  since : first ≤ world.listings
  valid : ∀ path entry, world.cache.get? path = some entry → horizon ≤ entry.expirationTime
  absent : ∀ path entry, world.cache.get? path = some entry → entry.pathExists = false →
    MissedIn trees first world.listings path
  listed : ∀ dir entry, world.cache.get? dir = some entry → entry.listed = true →
    ∀ name, world.cache.get? (name :: dir) = none →
      MissedIn trees first world.listings (name :: dir)

section AbsentSince

variable {env : Environment} {trees : ℕ → Tree} {first : ℕ} {horizon opened : ℚ}
  {world after : World}

theorem AbsentSince.ofListing (holds : AbsentSince horizon trees first world)
    (sameCache : after.cache = world.cache) (grows : world.listings ≤ after.listings) :
    AbsentSince horizon trees first after where
  since := holds.since.trans grows
  valid := fun path entry found => holds.valid path entry (sameCache ▸ found)
  absent := fun path entry found negative =>
    (holds.absent path entry (sameCache ▸ found) negative).mono grows
  listed := fun dir entry found isListed name unknown =>
    (holds.listed dir entry (sameCache ▸ found) isListed name (sameCache ▸ unknown)).mono grows

/-- Recording what a listing told keeps it. -/
theorem AbsentSince.sets (holds : AbsentSince horizon trees first world) {path : Path}
    {pathExists listed : Bool}
    (sets : Sets horizon path pathExists listed world.cache after.cache)
    (grows : world.listings ≤ after.listings)
    (absent : pathExists = false → MissedIn trees first world.listings path)
    (children : listed = true → ∀ name, world.cache.get? (name :: path) = none →
      MissedIn trees first world.listings (name :: path)) :
    AbsentSince horizon trees first after where
  since := holds.since.trans grows
  valid := fun other entry found => by
    rcases sets.cases found with ⟨_, _, late, _⟩ | ⟨_, old⟩
    · exact late
    · exact holds.valid other entry old
  absent := fun other entry found negative => by
    rcases sets.cases found with ⟨rfl, told, _⟩ | ⟨_, old⟩
    · exact (absent (told.symm.trans negative)).mono grows
    · exact (holds.absent other entry old negative).mono grows
  listed := fun dir entry found isListed name unknown => by
    have different : name :: dir ≠ path := by
      rintro rfl
      obtain ⟨own, stored, _⟩ := sets.self
      rw [unknown] at stored
      cases stored
    rcases sets.others _ different with unchanged | ⟨_, _, old, dropped, negative⟩
    · rw [unknown] at unchanged
      rcases sets.cases found with ⟨rfl, _, _, byListing⟩ | ⟨_, old⟩
      · rcases byListing isListed with now | ⟨old, stored, before⟩
        · exact (children now name unchanged.symm).mono grows
        · exact (holds.listed dir old stored before name unchanged.symm).mono grows
      · exact (holds.listed dir entry old isListed name unchanged.symm).mono grows
    · exact (holds.absent _ old dropped negative).mono grows

/-- A positive entry of another path stays when a path is recorded as present. -/
theorem Sets.positive {path other : Path} {pathExists listed : Bool}
    {before later : Dict Path PathCacheEntry}
    (sets : Sets horizon path pathExists listed before later) (present : pathExists = true)
    (known : ∃ entry, before.get? other = some entry ∧ entry.pathExists = true) :
    ∃ entry, later.get? other = some entry ∧ entry.pathExists = true := by
  by_cases same : other = path
  · obtain ⟨own, stored, told, _⟩ := sets.self
    rw [same]
    exact ⟨own, stored, told.trans present⟩
  · obtain ⟨entry, found, positive⟩ := known
    rcases sets.others other same with unchanged | ⟨_, _, old, dropped, negative⟩
    · exact ⟨entry, unchanged.trans found, positive⟩
    · rw [found] at dropped
      cases dropped
      rw [positive] at negative
      cases negative

/-- `set`, with the listings it leaves as they are. -/
theorem set_apply_listings (within : env.Within opened) {path : Path}
    (valid : ∀ entry, world.cache.get? path = some entry →
      opened + env.validityPeriod ≤ entry.expirationTime)
    (pathExists listed : Bool) :
    ∃ after, PathCache.set env path pathExists listed world = (.ok (), after) ∧
      after.listings = world.listings ∧
      Sets (opened + env.validityPeriod) path pathExists listed world.cache after.cache := by
  obtain ⟨after, stored, sets⟩ := set_apply within valid pathExists listed
  have keeps : Keeps (fun other : World => other.listings = world.listings)
      (PathCache.set env path pathExists listed) fun _ => True :=
    (lasting_listings (· = world.listings)).keeps_set listed
      (records_listings (· = world.listings) path pathExists)
  have same := (keeps world rfl).1
  rw [stored] at same
  exact ⟨after, stored, same, sets⟩

/-- The loop of `set_exists` leaves a positive entry of each name. -/
theorem forEach_set_absentSince (within : env.Within opened) (dir : Path) (names : List String)
    (holds : AbsentSince (opened + env.validityPeriod) trees first world) :
    ∃ after, forEach names (fun name => PathCache.set env (name :: dir) true false) world =
        (.ok (), after) ∧
      after.listings = world.listings ∧
      AbsentSince (opened + env.validityPeriod) trees first after ∧
      (∀ other, (∃ entry, world.cache.get? other = some entry ∧ entry.pathExists = true) →
        ∃ entry, after.cache.get? other = some entry ∧ entry.pathExists = true) ∧
      ∀ name ∈ names, ∃ entry, after.cache.get? (name :: dir) = some entry ∧
        entry.pathExists = true := by
  induction names generalizing world with
  | nil => exact ⟨world, rfl, rfl, holds, fun _ => id, fun _ member => by cases member⟩
  | cons name rest ih =>
      obtain ⟨middle, stored, same, sets⟩ :=
        set_apply_listings within (holds.valid (name :: dir)) true false
      have kept := holds.sets sets same.ge (fun same => by cases same) fun same => by cases same
      obtain ⟨after, looped, sameAfter, keptAfter, positive, recorded⟩ := ih kept
      refine ⟨after, ?_, sameAfter.trans same, keptAfter,
        fun other known => positive other (sets.positive rfl known), ?_⟩
      · rw [forEach, bind_apply_ok stored]
        exact looped
      · intro other member
        rcases List.mem_cons.mp member with rfl | inRest
        · obtain ⟨own, found, told, _⟩ := sets.self
          exact positive _ ⟨own, found, told⟩
        · exact recorded other inRest

/-- `set_exists` of what a listing since the first told. -/
theorem setExists_absentSince (within : env.Within opened) {dir : Path} {names : List String}
    (holds : AbsentSince (opened + env.validityPeriod) trees first world)
    (told : ListedIn trees first world.listings dir names) :
    ∃ after, PathCache.setExists env dir names world = (.ok (), after) ∧
      after.listings = world.listings ∧
      AbsentSince (opened + env.validityPeriod) trees first after := by
  obtain ⟨middle, looped, same, kept, _, recorded⟩ :=
    forEach_set_absentSince within dir names holds
  obtain ⟨after, stored, sameAfter, sets⟩ :=
    set_apply_listings within (kept.valid dir) true true
  refine ⟨after, ?_, sameAfter.trans same, ?_⟩
  · rw [PathCache.setExists, bind_apply_ok looped]
    exact stored
  · apply kept.sets sets sameAfter.ge (fun same => by cases same)
    intro _ name unknown
    rw [same]
    apply told.missed
    intro member
    obtain ⟨entry, found, _⟩ := recorded name member
    rw [unknown] at found
    cases found

theorem get_absentSince (within : env.Within opened)
    (holds : AbsentSince (opened + env.validityPeriod) trees first world) (path : Path) :
    ∃ result after, PathCache.get env path world = (.ok result, after) ∧
      after.cache = world.cache ∧ after.listings = world.listings ∧
      (result = some false → MissedIn trees first world.listings path) ∧
      (result = none → world.cache.get? path = none) := by
  obtain ⟨result, after, looked, sameCache, cases⟩ := get_apply within holds.valid path
  have keeps : Keeps (fun other : World => other.listings = world.listings)
      (PathCache.get env path) fun _ => True := keeps_get_listings (· = world.listings) path
  have same := (keeps world rfl).1
  rw [looked] at same
  refine ⟨result, after, looked, sameCache, same, ?_, ?_⟩
  · intro denied
    rcases cases with ⟨entry, found, isResult⟩ |
      ⟨_, unknown | ⟨_, parent, above, entry, found, neg⟩⟩
    · rw [denied] at isResult
      exact holds.absent path entry found (Option.some.inj isResult).symm
    · rw [denied] at unknown
      cases unknown
    · exact (holds.absent parent entry found neg).below (Path.suffix_of_mem_iterParents above)
  · intro unknown
    rcases cases with ⟨entry, _, isResult⟩ | ⟨missing, _⟩
    · rw [unknown] at isResult
      cases isResult
    · exact missing

theorem observes_absentSince (within : env.Within opened) :
    Observes env trees first (AbsentSince (opened + env.validityPeriod) trees first) where
  since := fun _ holds => holds.since
  ofListing := fun _ _ sameCache grows holds => holds.ofListing sameCache grows
  get := fun path world holds => by
    obtain ⟨result, after, looked, sameCache, same, _⟩ := get_absentSince within holds path
    rw [looked]
    exact ⟨holds.ofListing sameCache same.ge, fun _ _ => trivial⟩
  setAbsent := fun path last missed world holds => by
    obtain ⟨after, stored, same, sets⟩ :=
      set_apply_listings within (holds.2.valid path) false false
    rw [stored]
    refine ⟨⟨holds.1.trans same.ge, holds.2.sets sets same.ge ?_ ?_⟩, fun _ _ => trivial⟩
    · exact fun _ => missed.mono holds.1
    · exact fun same => by cases same
  setExists := fun dir names last listed world holds => by
    obtain ⟨index, since, before, exactly⟩ := listed
    obtain ⟨after, stored, same, kept⟩ :=
      setExists_absentSince within holds.2 ⟨index, since, before.trans_le holds.1, exactly⟩
    rw [stored]
    exact ⟨⟨holds.1.trans same.ge, kept⟩, fun _ _ => trivial⟩

/-- The cache says no of what was missing at a listing since the first. -/
theorem answerFromCache_missed (within : env.Within opened) {path : Path} (named : path ≠ []) :
    Meets (AbsentSince (opened + env.validityPeriod) trees first) (answerFromCache env path)
      (fun answer world => AbsentSince (opened + env.validityPeriod) trees first world ∧
        ∀ result, answer = some result → result = false →
          Answered trees first world.listings (uri env path) result)
      (AbsentSince (opened + env.validityPeriod) trees first) := by
  intro world holds
  obtain ⟨result, looked, lookedEq, sameCache, same, denied, unknown⟩ :=
    get_absentSince within holds (uri env path)
  have kept := holds.ofListing sameCache same.ge
  rw [answerFromCache, bind_apply_ok lookedEq]
  cases result with
  | some answer =>
      refine ⟨fun found outcome => ⟨kept, fun said isSaid isFalse => ?_⟩, fun _ _ => kept⟩
      cases outcome
      cases isSaid
      cases isFalse
      rw [Answered, if_neg Bool.false_ne_true]
      exact (denied rfl).mono same.ge
  | none =>
      obtain ⟨isListed, asked, askedEq, sameAsked, listing⟩ :=
        wasListed_apply within kept.valid (uri env path.split.1)
      have asks : Keeps (fun other : World => other.listings = looked.listings)
          (PathCache.wasListed env (uri env path.split.1)) fun _ => True :=
        (lasting_listings (· = looked.listings)).keeps_wasListed _
      have sameListings := (asks looked rfl).1
      rw [askedEq] at sameListings
      have askedKept := kept.ofListing sameAsked sameListings.ge
      dsimp only
      rw [bind_apply_ok askedEq]
      cases isListed with
      | false =>
          refine ⟨fun found outcome => ⟨askedKept, fun said isSaid _ => ?_⟩, fun _ _ => askedKept⟩
          cases outcome
          cases isSaid
      | true =>
          -- its directory was listed since, and the name has no entry
          have missed : MissedIn trees first asked.listings (uri env path) := by
            obtain ⟨entry, found, isListed⟩ := listing rfl
            cases path with
            | nil => exact absurd rfl named
            | cons name dir =>
                have absent : looked.cache.get? (name :: uri env dir) = none := by
                  rw [sameCache]
                  exact unknown rfl
                exact (kept.listed _ entry found isListed name absent).mono sameListings.ge
          obtain ⟨after, stored, sameAfter, sets⟩ :=
            set_apply_listings within (askedKept.valid (uri env path)) false false
          have afterKept := askedKept.sets sets sameAfter.ge (fun _ => missed)
            fun same => by cases same
          rw [PathCache.setLocal, if_pos rfl, bind_apply_ok stored]
          refine ⟨fun found outcome => ⟨afterKept, fun said isSaid isFalse => ?_⟩,
            fun _ _ => afterKept⟩
          cases outcome
          cases isSaid
          rw [Answered, if_neg Bool.false_ne_true]
          exact missed.mono sameAfter.ge

/-- While nothing expires, `exists` says no of what was missing at a listing
since the first. -/
theorem existsPath_missed (truthful : env.TruthfulOver trees) (within : env.Within opened)
    {path : Path} (named : path ≠ [])
    (clear : ∀ index, (trees index).NoFileAbove (uri env path)) :
    Meets (AbsentSince (opened + env.validityPeriod) trees first) (existsPath env path)
      (fun result world => AbsentSince (opened + env.validityPeriod) trees first world ∧
        (result = false → MissedIn trees first world.listings (uri env path)))
      (AbsentSince (opened + env.validityPeriod) trees first) := by
  apply ((observes_absentSince within).meets_existsPath truthful named clear
    (answerFromCache_missed within named)).weaken (fun _ => id) _ fun _ => id
  rintro result world ⟨holds, answered⟩
  refine ⟨holds, fun isFalse => ?_⟩
  have missed := answered isFalse
  rwa [Answered, isFalse, if_neg Bool.false_ne_true] at missed

end AbsentSince

end DSProd.Storage
