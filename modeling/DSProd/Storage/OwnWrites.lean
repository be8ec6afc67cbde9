import DSProd.Storage.StaticTree
import DSProd.Storage.Writing

/-!
# Reading what was written

While no entry of the cache expires, the answers of `exists` rest on three
things: a positive entry names what is there, a negative one what is not, and a
directory that counts as listed has an entry for everything in it.  The
questions keep these, and so do the writes that the cache keeps up with.
-/

namespace DSProd.Storage

open DSProd.Library
open DSProd.Library.Action
open GFALFileInterface

/-! ## A cache that does not expire -/

/-- Whether the answers of `exists` depend on a path: temporary files do not matter. -/
def Tree.Matters (tree : Tree) (path : Path) : Prop :=
  tree.node path = some .directory ∨ isCopyRenameTmp path = false ∧ tree.Contains path

/-- What is true of the cache, with no entry that expires before a time. -/
structure Accurate (horizon : ℚ) (tree : Tree) (cache : Dict Path PathCacheEntry) : Prop where
  valid : ∀ path entry, cache.get? path = some entry → horizon ≤ entry.expirationTime
  present : ∀ path entry, cache.get? path = some entry → entry.pathExists = true →
    isCopyRenameTmp path = false → tree.Contains path
  absent : ∀ path entry, path ≠ [] → cache.get? path = some entry → entry.pathExists = false →
    ¬tree.Matters path
  listed : ∀ path entry, cache.get? path = some entry → entry.listed = true →
    ∀ name, tree.Matters (name :: path) → cache.get? (name :: path) ≠ none

theorem Accurate.ofCache {horizon : ℚ} {tree : Tree} {cache other : Dict Path PathCacheEntry}
    (accurate : Accurate horizon tree cache) (same : other = cache) :
    Accurate horizon tree other := by
  rw [same]
  exact accurate

theorem accurate_empty (horizon : ℚ) (tree : Tree) : Accurate horizon tree Dict.empty where
  valid := fun _ _ found => by simp at found
  present := fun _ _ found => by simp at found
  absent := fun _ _ _ found => by simp at found
  listed := fun _ _ found => by simp at found

/-- What `set` does to a cache in which nothing expires. -/
structure Sets (horizon : ℚ) (path : Path) (pathExists listed : Bool)
    (before after : Dict Path PathCacheEntry) : Prop where
  self : ∃ entry, after.get? path = some entry ∧ entry.pathExists = pathExists ∧
    horizon ≤ entry.expirationTime ∧
    (entry.listed = true → listed = true ∨
      ∃ old, before.get? path = some old ∧ old.listed = true)
  others : ∀ other, other ≠ path → after.get? other = before.get? other ∨
    (after.get? other = none ∧ other ∈ path.iterParents ∧
      ∃ old, before.get? other = some old ∧ old.pathExists = false)
  drops : pathExists = true → ∀ other ∈ path.iterParents, ∀ entry,
    after.get? other = some entry → entry.pathExists = true

section Unexpired

variable {env : Environment} {opened : ℚ}

theorem isValid_apply (within : env.Within opened) {entry : PathCacheEntry}
    (valid : opened + env.validityPeriod ≤ entry.expirationTime) (world : World) :
    ∃ after, PathCache.isValid env entry world = (.ok true, after) ∧
      after.cache = world.cache := by
  refine ⟨{ world with ticks := world.ticks + 1 }, ?_, rfl⟩
  have inTime : env.clock world.ticks ≤ entry.expirationTime := (within world.ticks).2.trans valid
  simp only [PathCache.isValid, bind_apply, PathCache.time, decide_eq_true inTime]
  rfl

theorem cached_apply (path : Path) (world : World) :
    PathCache.cached path world = (.ok (world.cache.get? path), world) :=
  rfl

/-- `keepsListed` leaves the cache, and finds the flag of the entry. -/
theorem keepsListed_apply (within : env.Within opened) {world : World} {path : Path}
    (valid : ∀ entry, world.cache.get? path = some entry →
      opened + env.validityPeriod ≤ entry.expirationTime)
    (pathExists listed : Bool) :
    ∃ kept after, PathCache.keepsListed env path pathExists listed world = (.ok kept, after) ∧
      after.cache = world.cache ∧
      (kept = true → ∃ old, world.cache.get? path = some old ∧ old.listed = true) := by
  rw [PathCache.keepsListed, bind_apply_ok (cached_apply path world)]
  cases found : world.cache.get? path with
  | none => exact ⟨false, world, rfl, rfl, fun same => by cases same⟩
  | some previous =>
      obtain ⟨after, checked, same⟩ := isValid_apply within (valid previous found) world
      dsimp only
      rw [bind_apply_ok checked]
      refine ⟨_, after, rfl, same, fun kept => ⟨previous, rfl, ?_⟩⟩
      simp only [Bool.true_and, Bool.and_eq_true] at kept
      exact kept.1.1

/-- One turn of the loop of `set`: a negative entry is dropped. -/
theorem dropNegative_apply (parent : Path) (world : World) :
    ∃ after, PathCache.dropNegative parent world = (.ok (), after) ∧
      (∀ other, after.cache.get? other = world.cache.get? other ∨
        (after.cache.get? other = none ∧ other = parent ∧
          ∃ old, world.cache.get? other = some old ∧ old.pathExists = false)) ∧
      ∀ entry, after.cache.get? parent = some entry → entry.pathExists = true := by
  rw [PathCache.dropNegative, bind_apply_ok (cached_apply parent world)]
  cases found : world.cache.get? parent with
  | none =>
      refine ⟨world, rfl, fun _ => Or.inl rfl, fun entry still => ?_⟩
      rw [found] at still
      cases still
  | some pentry =>
      by_cases negative : pentry.pathExists = false
      · dsimp only
        rw [if_pos negative]
        refine ⟨_, rfl, fun other => ?_, fun entry still => ?_⟩
        · simp only [Dict.get?_pop]
          by_cases same : other = parent
          · rw [if_pos same]
            rw [same]
            exact Or.inr ⟨rfl, rfl, pentry, found, negative⟩
          · rw [if_neg same]
            exact Or.inl rfl
        · simp [Dict.get?_pop] at still
      · dsimp only
        rw [if_neg negative]
        refine ⟨world, rfl, fun _ => Or.inl rfl, fun entry still => ?_⟩
        rw [found] at still
        cases still
        exact Bool.not_eq_false _ ▸ negative

/-- The loop of `set` drops the negative entries of the ancestors. -/
theorem dropNegatives_apply (parents : List Path) (world : World) :
    ∃ after, forEach parents PathCache.dropNegative world = (.ok (), after) ∧
      (∀ other, after.cache.get? other = world.cache.get? other ∨
        (after.cache.get? other = none ∧ other ∈ parents ∧
          ∃ old, world.cache.get? other = some old ∧ old.pathExists = false)) ∧
      ∀ other ∈ parents, ∀ entry, after.cache.get? other = some entry →
        entry.pathExists = true := by
  induction parents generalizing world with
  | nil => exact ⟨world, rfl, fun _ => Or.inl rfl, fun _ member => by cases member⟩
  | cons parent rest ih =>
      obtain ⟨middle, first, changed, dropped⟩ := dropNegative_apply parent world
      obtain ⟨after, later, changedLater, droppedLater⟩ := ih middle
      refine ⟨after, ?_, ?_, ?_⟩
      · rw [forEach, bind_apply_ok first]
        exact later
      · intro other
        rcases changedLater other with same | ⟨gone, member, old, found, negative⟩
        · rw [same]
          rcases changed other with still | ⟨gone, isParent, dropsIt⟩
          · exact Or.inl still
          · exact Or.inr ⟨gone, isParent ▸ List.mem_cons_self, dropsIt⟩
        · right
          refine ⟨gone, List.mem_cons_of_mem _ member, old, ?_, negative⟩
          rcases changed other with still | ⟨already, _, _⟩
          · rw [← still]
            exact found
          · rw [already] at found
            cases found
      · intro other member entry found
        rcases changedLater other with same | ⟨gone, _, _⟩
        · rcases List.mem_cons.mp member with rfl | inRest
          · exact dropped entry (same ▸ found)
          · exact droppedLater other inRest entry found
        · rw [gone] at found
          cases found

theorem self_notMem_iterParents (path : Path) : path ∉ path.iterParents := by
  intro member
  have shorter : ∀ path parent : Path, parent ∈ path.iterParents → parent.length < path.length := by
    intro path parent member
    induction path using Path.iterParents.induct with
    | case1 => simp [Path.iterParents] at member
    | case2 => simp [Path.iterParents] at member
    | case3 first name dir ih =>
        rw [Path.iterParents, List.mem_cons] at member
        rcases member with rfl | higher
        · simp
        · exact (ih higher).trans (by simp)
  exact lt_irrefl _ (shorter path path member)

/-- `set`, in a cache in which nothing expires. -/
theorem set_apply (within : env.Within opened) {world : World} {path : Path}
    (valid : ∀ entry, world.cache.get? path = some entry →
      opened + env.validityPeriod ≤ entry.expirationTime)
    (pathExists listed : Bool) :
    ∃ after, PathCache.set env path pathExists listed world = (.ok (), after) ∧
      Sets (opened + env.validityPeriod) path pathExists listed world.cache after.cache := by
  obtain ⟨kept, asked, keptEq, sameCache, keptListed⟩ :=
    keepsListed_apply within valid pathExists listed
  rw [PathCache.set, bind_apply_ok keptEq]
  have timed : PathCache.time env asked =
      (.ok (env.clock asked.ticks), { asked with ticks := asked.ticks + 1 }) := rfl
  rw [bind_apply_ok timed]
  generalize now : env.clock asked.ticks = time
  have late : opened + env.validityPeriod ≤ time + env.validityPeriod := by
    rw [← now]
    exact add_le_add_left (within asked.ticks).1 _
  generalize made : PathCacheEntry.make pathExists (time + env.validityPeriod) (listed || kept) =
    entry
  let stored : World :=
    { asked with ticks := asked.ticks + 1, cache := asked.cache.set path entry }
  have storing : PathCache.store path entry { asked with ticks := asked.ticks + 1 } =
      (.ok (), stored) := rfl
  rw [bind_apply_ok storing]
  have storedSelf : stored.cache.get? path = some entry := Dict.get?_set_self _ _ _
  have storedOther : ∀ other, other ≠ path → stored.cache.get? other = world.cache.get? other := by
    intro other different
    rw [← sameCache]
    exact (Dict.get?_set _ _ _ _).trans (if_neg different)
  have entrySays : entry.pathExists = pathExists ∧
      opened + env.validityPeriod ≤ entry.expirationTime ∧
      (entry.listed = true → listed = true ∨
        ∃ old, world.cache.get? path = some old ∧ old.listed = true) := by
    rw [← made]
    refine ⟨rfl, late, fun isListed => ?_⟩
    have either : listed = true ∨ kept = true := by
      have both : ((listed || kept) && pathExists) = true := isListed
      simp only [Bool.and_eq_true, Bool.or_eq_true] at both
      exact both.1
    exact either.imp_right keptListed
  cases pathExists with
  | false =>
      exact ⟨stored, rfl, ⟨entry, storedSelf, entrySays⟩,
        fun other different => Or.inl (storedOther other different), fun same => by cases same⟩
  | true =>
      obtain ⟨after, looped, changed, dropped⟩ := dropNegatives_apply path.iterParents stored
      refine ⟨after, looped, ?_, ?_, fun _ => dropped⟩
      · refine ⟨entry, ?_, entrySays⟩
        rcases changed path with same | ⟨_, isParent, _⟩
        · rw [same, storedSelf]
        · exact absurd isParent (self_notMem_iterParents path)
      · intro other different
        rw [← storedOther other different]
        exact changed other

/-! ## What the questions read -/

theorem inferFromParents_apply (within : env.Within opened) {world : World}
    (valid : ∀ path entry, world.cache.get? path = some entry →
      opened + env.validityPeriod ≤ entry.expirationTime)
    (parents : List Path) :
    ∃ result after, PathCache.inferFromParents env parents world = (.ok result, after) ∧
      after.cache = world.cache ∧ (result = none ∨ (result = some false ∧
        ∃ parent ∈ parents, ∃ entry, world.cache.get? parent = some entry ∧
          entry.pathExists = false)) := by
  induction parents generalizing world with
  | nil => exact ⟨none, world, rfl, rfl, Or.inl rfl⟩
  | cons parent rest ih =>
      rw [PathCache.inferFromParents, bind_apply_ok (cached_apply parent world)]
      cases found : world.cache.get? parent with
      | none =>
          obtain ⟨result, after, climbed, same, inferred⟩ := ih valid
          refine ⟨result, after, climbed, same, inferred.imp_right fun absent => ?_⟩
          obtain ⟨isFalse, higher, member, negative⟩ := absent
          exact ⟨isFalse, higher, List.mem_cons_of_mem _ member, negative⟩
      | some pentry =>
          obtain ⟨after, checked, same⟩ := isValid_apply within (valid parent pentry found) world
          dsimp only
          rw [bind_apply_ok checked]
          refine ⟨_, after, rfl, same, ?_⟩
          by_cases negative : pentry.pathExists = false
          · exact Or.inr ⟨if_pos negative, parent, List.mem_cons_self, pentry, found, negative⟩
          · exact Or.inl (if_neg negative)

/-- `get`, in a cache in which nothing expires. -/
theorem get_apply (within : env.Within opened) {world : World}
    (valid : ∀ path entry, world.cache.get? path = some entry →
      opened + env.validityPeriod ≤ entry.expirationTime)
    (path : Path) :
    ∃ result after, PathCache.get env path world = (.ok result, after) ∧
      after.cache = world.cache ∧
      ((∃ entry, world.cache.get? path = some entry ∧ result = some entry.pathExists) ∨
        (world.cache.get? path = none ∧ (result = none ∨ (result = some false ∧
          ∃ parent ∈ path.iterParents, ∃ entry, world.cache.get? parent = some entry ∧
            entry.pathExists = false)))) := by
  rw [PathCache.get, bind_apply_ok (cached_apply path world)]
  cases found : world.cache.get? path with
  | none =>
      obtain ⟨result, after, climbed, same, inferred⟩ :=
        inferFromParents_apply within valid path.iterParents
      exact ⟨result, after, climbed, same, Or.inr ⟨rfl, inferred⟩⟩
  | some entry =>
      obtain ⟨after, checked, same⟩ := isValid_apply within (valid path entry found) world
      dsimp only
      rw [bind_apply_ok checked]
      exact ⟨some entry.pathExists, after, rfl, same, Or.inl ⟨entry, rfl, rfl⟩⟩

/-- `was_listed`, in a cache in which nothing expires. -/
theorem wasListed_apply (within : env.Within opened) {world : World}
    (valid : ∀ path entry, world.cache.get? path = some entry →
      opened + env.validityPeriod ≤ entry.expirationTime)
    (path : Path) :
    ∃ listed after, PathCache.wasListed env path world = (.ok listed, after) ∧
      after.cache = world.cache ∧
      (listed = true → ∃ entry, world.cache.get? path = some entry ∧ entry.listed = true) := by
  rw [PathCache.wasListed, bind_apply_ok (cached_apply path world)]
  cases found : world.cache.get? path with
  | none => exact ⟨false, world, rfl, rfl, fun same => by cases same⟩
  | some entry =>
      obtain ⟨after, checked, same⟩ := isValid_apply within (valid path entry found) world
      dsimp only
      rw [bind_apply_ok checked]
      refine ⟨_, after, rfl, same, fun isListed => ⟨entry, rfl, ?_⟩⟩
      simp only [Bool.and_eq_true] at isListed
      exact isListed.2

end Unexpired

/-! ## The questions keep the cache accurate -/

theorem Tree.not_matters {tree : Tree} {path : Path} (absent : ¬tree.Contains path) :
    ¬tree.Matters path := by
  rintro (directory | ⟨_, present⟩)
  · exact absent (by simp [Contains, directory])
  · exact absent present

theorem Tree.Matters.contains {tree : Tree} {path : Path} (matters : tree.Matters path) :
    tree.Contains path := by
  by_contra absent
  exact Tree.not_matters absent matters

/-- Whatever is above a path of a tree is a directory. -/
theorem Tree.directory_of_mem_iterParents {tree : Tree} {path parent : Path}
    (present : tree.Contains path) (above : parent ∈ path.iterParents) :
    tree.node parent = some .directory := by
  induction path using Path.iterParents.induct with
  | case1 => simp [Path.iterParents] at above
  | case2 => simp [Path.iterParents] at above
  | case3 first name dir ih =>
      have parentDirectory := tree.parent_directory first (name :: dir) present
      rw [Path.iterParents, List.mem_cons] at above
      rcases above with rfl | higher
      · exact parentDirectory
      · exact ih (by simp [Contains, parentDirectory]) higher

theorem Path.ne_nil_of_mem_iterParents {path parent : Path} (above : parent ∈ path.iterParents) :
    parent ≠ [] := by
  induction path using Path.iterParents.induct with
  | case1 => simp [Path.iterParents] at above
  | case2 => simp [Path.iterParents] at above
  | case3 first name dir ih =>
      rw [Path.iterParents, List.mem_cons] at above
      rcases above with rfl | higher
      · exact List.cons_ne_nil _ _
      · exact ih higher

section Accurate

variable {horizon : ℚ} {tree : Tree} {path : Path} {pathExists listed : Bool}
  {before after : Dict Path PathCacheEntry}

/-- What matters keeps its entry. -/
theorem Sets.keeps (sets : Sets horizon path pathExists listed before after)
    (accurate : Accurate horizon tree before) {other : Path} (matters : tree.Matters other)
    (known : before.get? other ≠ none) : after.get? other ≠ none := by
  by_cases same : other = path
  · obtain ⟨entry, found, _⟩ := sets.self
    rw [same, found]
    exact Option.some_ne_none entry
  · rcases sets.others other same with unchanged | ⟨_, isParent, old, found, negative⟩
    · rwa [unchanged]
    · have named := Path.ne_nil_of_mem_iterParents isParent
      exact absurd matters (accurate.absent other old named found negative)

/-- An entry after `set` is the new one, or was there before. -/
theorem Sets.cases (sets : Sets horizon path pathExists listed before after) {other : Path}
    {entry : PathCacheEntry} (found : after.get? other = some entry) :
    (other = path ∧ entry.pathExists = pathExists ∧ horizon ≤ entry.expirationTime ∧
        (entry.listed = true → listed = true ∨
          ∃ old, before.get? path = some old ∧ old.listed = true)) ∨
      (other ≠ path ∧ before.get? other = some entry) := by
  by_cases same : other = path
  · obtain ⟨new, stored, told⟩ := sets.self
    rw [same, stored] at found
    cases found
    exact Or.inl ⟨same, told⟩
  · rcases sets.others other same with unchanged | ⟨gone, _⟩
    · exact Or.inr ⟨same, unchanged ▸ found⟩
    · rw [gone] at found
      cases found

/-- Recording what is true keeps the cache accurate. -/
theorem Accurate.sets (accurate : Accurate horizon tree before)
    (sets : Sets horizon path pathExists listed before after)
    (present : pathExists = true → tree.Contains path)
    (absent : pathExists = false → ¬tree.Matters path)
    (children : listed = true → ∀ name, tree.Matters (name :: path) →
      before.get? (name :: path) ≠ none) : Accurate horizon tree after where
  valid := fun other entry found => by
    rcases sets.cases found with ⟨_, _, late, _⟩ | ⟨_, old⟩
    · exact late
    · exact accurate.valid other entry old
  present := fun other entry found positive named => by
    rcases sets.cases found with ⟨rfl, told, _⟩ | ⟨_, old⟩
    · exact present (told.symm.trans positive)
    · exact accurate.present other entry old positive named
  absent := fun other entry named found negative => by
    rcases sets.cases found with ⟨rfl, told, _⟩ | ⟨_, old⟩
    · exact absent (told.symm.trans negative)
    · exact accurate.absent other entry named old negative
  listed := fun other entry found isListed name matters => by
    apply sets.keeps accurate matters
    rcases sets.cases found with ⟨rfl, _, _, byListing⟩ | ⟨_, old⟩
    · rcases byListing isListed with now | ⟨old, stored, before⟩
      · exact children now name matters
      · exact accurate.listed other old stored before name matters
    · exact accurate.listed other entry old isListed name matters

end Accurate

section Questions

variable {env : Environment} {opened : ℚ} {tree : Tree} {world : World}

/-- `set_exists` of the names of a directory. -/
theorem setExists_accurate (within : env.Within opened)
    (accurate : Accurate (opened + env.validityPeriod) tree world.cache) {dir : Path}
    {names : List String} (directory : tree.node dir = some .directory)
    (children : ∀ name, name ∈ names ↔ tree.Contains (name :: dir)) :
    ∃ after, PathCache.setExists env dir names world = (.ok (), after) ∧
      Accurate (opened + env.validityPeriod) tree after.cache := by
  have loop : ∀ (items : List String) (world : World), (∀ item ∈ items, item ∈ names) →
      Accurate (opened + env.validityPeriod) tree world.cache →
      ∃ after, forEach items (fun item => PathCache.set env (item :: dir) true false) world =
          (.ok (), after) ∧
        Accurate (opened + env.validityPeriod) tree after.cache ∧
        (∀ other, tree.Matters other → world.cache.get? other ≠ none →
          after.cache.get? other ≠ none) ∧
        ∀ item ∈ items, tree.Matters (item :: dir) → after.cache.get? (item :: dir) ≠ none := by
    intro items
    induction items with
    | nil =>
        exact fun world _ accurate =>
          ⟨world, rfl, accurate, fun _ _ known => known, fun _ member => by cases member⟩
    | cons item rest ih =>
        intro world inNames accurate
        obtain ⟨middle, first, sets⟩ := set_apply within
          (fun entry => accurate.valid (item :: dir) entry) true false
        have present : tree.Contains (item :: dir) :=
          (children item).mp (inNames item List.mem_cons_self)
        have middleAccurate := accurate.sets sets (fun _ => present) (fun same => by cases same)
          (fun same => by cases same)
        obtain ⟨after, later, afterAccurate, keeps, stored⟩ := ih middle
          (fun other member => inNames other (List.mem_cons_of_mem _ member)) middleAccurate
        refine ⟨after, ?_, afterAccurate, ?_, ?_⟩
        · rw [forEach, bind_apply_ok first]
          exact later
        · exact fun other matters known => keeps other matters (sets.keeps accurate matters known)
        · intro other member matters
          rcases List.mem_cons.mp member with rfl | inRest
          · apply keeps _ matters
            obtain ⟨entry, found, _⟩ := sets.self
            rw [found]
            exact Option.some_ne_none entry
          · exact stored other inRest matters
  obtain ⟨middle, looped, middleAccurate, _, stored⟩ := loop names world (fun _ => id) accurate
  obtain ⟨after, last, sets⟩ := set_apply within
    (fun entry => middleAccurate.valid dir entry) true true
  refine ⟨after, ?_, ?_⟩
  · rw [PathCache.setExists, bind_apply_ok looped]
    exact last
  · apply middleAccurate.sets sets
    · exact fun _ => by simp [Tree.Contains, directory]
    · exact fun same => by cases same
    · exact fun _ name matters => stored name ((children name).mpr matters.contains) matters

/-- Listings keep the cache accurate. -/
theorem supports_accurate (within : env.Within opened) :
    Supports env tree fun world => Accurate (opened + env.validityPeriod) tree world.cache where
  ofCache := fun _ _ sameCache accurate => Accurate.ofCache accurate sameCache
  get := fun path world accurate => by
    obtain ⟨result, after, looked, sameCache, _⟩ := get_apply within accurate.valid path
    rw [looked]
    exact ⟨Accurate.ofCache accurate sameCache, fun _ _ => trivial⟩
  setAbsent := fun path absent world accurate => by
    obtain ⟨after, stored, sets⟩ := set_apply within (accurate.valid path) false false
    rw [stored]
    refine ⟨accurate.sets sets ?_ ?_ ?_, fun _ _ => trivial⟩
    · exact fun same => by cases same
    · exact fun _ => Tree.not_matters absent
    · exact fun same => by cases same
  setExists := fun path names directory children world accurate => by
    obtain ⟨after, stored, afterAccurate⟩ := setExists_accurate within accurate directory children
    rw [stored]
    exact ⟨afterAccurate, fun _ _ => trivial⟩

/-- What the cache answers about a path. -/
theorem answerFromCache_accurate (within : env.Within opened)
    (accurate : Accurate (opened + env.validityPeriod) tree world.cache) (name : String)
    (dir : Path) :
    ∃ answer after, answerFromCache env (name :: dir) world = (.ok answer, after) ∧
      Accurate (opened + env.validityPeriod) tree after.cache ∧
      ∀ result, answer = some result → isCopyRenameTmp (uri env (name :: dir)) = false →
        (result = true ↔ tree.Contains (uri env (name :: dir))) := by
  have unmattering : ∀ path, isCopyRenameTmp path = false → ¬tree.Matters path →
      ¬tree.Contains path :=
    fun path noTmp notMatters present => notMatters (Or.inr ⟨noTmp, present⟩)
  obtain ⟨result, looked, lookedEq, sameCache, cases⟩ :=
    get_apply within accurate.valid (uri env (name :: dir))
  have lookedAccurate := accurate.ofCache sameCache
  rw [answerFromCache, bind_apply_ok lookedEq]
  rcases cases with ⟨entry, found, rfl⟩ | ⟨unknown, rfl | ⟨rfl, parent, above, entry, found, neg⟩⟩
  · refine ⟨some entry.pathExists, looked, rfl, lookedAccurate, fun answer same noTmp => ?_⟩
    cases same
    cases positive : entry.pathExists with
    | true => exact iff_of_true rfl (accurate.present _ entry found positive noTmp)
    | false =>
        exact iff_of_false Bool.false_ne_true (unmattering _ noTmp
          (accurate.absent _ entry (List.cons_ne_nil _ _) found positive))
  · -- the directory of the path is asked for next
    obtain ⟨isListed, asked, askedEq, sameAsked, listing⟩ :=
      wasListed_apply within lookedAccurate.valid (uri env (Path.split (name :: dir)).1)
    have askedAccurate := lookedAccurate.ofCache sameAsked
    dsimp only
    rw [bind_apply_ok askedEq]
    cases isListed with
    | false => exact ⟨none, asked, rfl, askedAccurate, fun _ same => by cases same⟩
    | true =>
        have notMatters : ¬tree.Matters (uri env (name :: dir)) := by
          intro matters
          obtain ⟨entry, found, isListed⟩ := listing rfl
          rw [sameCache] at found
          exact accurate.listed _ entry found isListed name matters unknown
        obtain ⟨after, stored, sets⟩ :=
          set_apply within (askedAccurate.valid (uri env (name :: dir))) false false
        refine ⟨some false, after, ?_, ?_, fun answer same noTmp => ?_⟩
        · exact bind_apply_ok stored
        · exact askedAccurate.sets sets (fun same => by cases same) (fun _ => notMatters)
            fun same => by cases same
        · cases same
          exact iff_of_false Bool.false_ne_true (unmattering _ noTmp notMatters)
  · refine ⟨some false, looked, rfl, lookedAccurate, fun answer same noTmp => ?_⟩
    cases same
    apply iff_of_false Bool.false_ne_true
    intro present
    exact accurate.absent parent entry (Path.ne_nil_of_mem_iterParents above) found neg
      (Or.inl (Tree.directory_of_mem_iterParents present above))

/-- `exists`, over an accurate cache. -/
theorem existsPath_accurate (within : env.Within opened) (truthful : env.Truthful tree)
    (accurate : Accurate (opened + env.validityPeriod) tree world.cache) {path : Path}
    (named : path ≠ []) (clear : tree.NoFileAbove (uri env path)) :
    Accurate (opened + env.validityPeriod) tree (existsPath env path world).2.cache ∧
      (isCopyRenameTmp (uri env path) = false →
        ∀ result, (existsPath env path world).1 = .ok result →
          (result = true ↔ tree.Contains (uri env path))) := by
  cases path with
  | nil => exact absurd rfl named
  | cons name dir =>
      obtain ⟨answer, after, answered, afterAccurate, truth⟩ :=
        answerFromCache_accurate within accurate name dir
      rw [existsPath, bind_apply_ok answered]
      cases answer with
      | some answer =>
          refine ⟨afterAccurate, fun noTmp result same => ?_⟩
          cases same
          exact truth answer rfl noTmp
      | none =>
          obtain ⟨kept, returns⟩ :=
            (supports_accurate within).keeps_listParent truthful clear after afterAccurate
          exact ⟨kept, fun _ => returns⟩

end Questions

/-! ## What the writes do to the cache -/

/-- A cache in which one path was written about: entries of other paths are old
ones, and the positive ones are all kept. -/
structure Rewrites (horizon : ℚ) (path : Path) (before after : Dict Path PathCacheEntry) :
    Prop where
  old : ∀ other entry, other ≠ path → after.get? other = some entry →
    before.get? other = some entry
  kept : ∀ other entry, other ≠ path → before.get? other = some entry →
    entry.pathExists = true → after.get? other = some entry
  self : ∀ entry, after.get? path = some entry →
    horizon ≤ entry.expirationTime ∧ entry.listed = false

section Rewrites

variable {horizon : ℚ} {path : Path} {before middle after : Dict Path PathCacheEntry}

theorem PathCacheEntry.unlisted_of_negative {entry : PathCacheEntry}
    (negative : entry.pathExists = false) : entry.listed = false := by
  cases isListed : entry.listed with
  | false => rfl
  | true =>
      rw [entry.exists_of_listed isListed] at negative
      cases negative

theorem Sets.old {pathExists listed : Bool}
    (sets : Sets horizon path pathExists listed before after) {other : Path}
    {entry : PathCacheEntry} (different : other ≠ path)
    (found : after.get? other = some entry) : before.get? other = some entry := by
  rcases sets.cases found with ⟨same, _⟩ | ⟨_, old⟩
  · exact absurd same different
  · exact old

theorem Sets.kept {pathExists listed : Bool}
    (sets : Sets horizon path pathExists listed before after) {other : Path}
    {entry : PathCacheEntry} (different : other ≠ path)
    (found : before.get? other = some entry) (positive : entry.pathExists = true) :
    after.get? other = some entry := by
  rcases sets.others other different with same | ⟨_, _, old, stored, negative⟩
  · rwa [same]
  · rw [found] at stored
    cases stored
    rw [positive] at negative
    cases negative

/-- A path that is recorded as absent. -/
theorem Sets.rewrites {listed : Bool} (sets : Sets horizon path false listed before after) :
    Rewrites horizon path before after where
  old := fun _ _ different found => sets.old different found
  kept := fun _ _ different found positive => sets.kept different found positive
  self := fun entry found => by
    rcases sets.cases found with ⟨_, negative, late, _⟩ | ⟨different, _⟩
    · exact ⟨late, PathCacheEntry.unlisted_of_negative negative⟩
    · exact absurd rfl different

/-- A path that is recorded as absent and then as present. -/
theorem Sets.rewrites_twice (first : Sets horizon path false false before middle)
    (second : Sets horizon path true false middle after) : Rewrites horizon path before after where
  old := fun _ _ different found => first.old different (second.old different found)
  kept := fun _ _ different found positive =>
    second.kept different (first.kept different found positive) positive
  self := fun entry found => by
    rcases second.cases found with ⟨_, _, late, byListing⟩ | ⟨different, _⟩
    · refine ⟨late, ?_⟩
      by_contra isListed
      rcases byListing (Bool.not_eq_false _ ▸ isListed) with same | ⟨old, stored, oldListed⟩
      · cases same
      · rw [(first.rewrites.self old stored).2] at oldListed
        cases oldListed
    · exact absurd rfl different

end Rewrites

/-! ## An upload -/

/-- A path off the way to the target that matters after the upload did so before. -/
theorem Uploads.matters_elsewhere {tree after : Tree} {dst path : Path} {succeeds : Bool}
    (uploads : Uploads tree dst succeeds after) (off : ¬path <:+ dst) :
    after.Matters path ↔ tree.Matters path := by
  rcases uploads.elsewhere path off with same | ⟨tmp, notBefore, notAfter⟩
  · simp only [Tree.Matters, Tree.Contains, same]
  · simp [Tree.Matters, tmp, notBefore, notAfter]

/-- A path on the way to the target that matters after the upload did so
before, or is a directory it created. -/
theorem Uploads.matters_above {tree after : Tree} {dst path : Path} {succeeds : Bool}
    (uploads : Uploads tree dst succeeds after) (on : path <:+ dst) (different : path ≠ dst)
    (matters : after.Matters path) :
    tree.Matters path ∨ (¬tree.Contains path ∧ after.Contains path) := by
  rcases uploads.above path on different with same | ⟨none, directory⟩
  · left
    simpa only [Tree.Matters, Tree.Contains, same] using matters
  · right
    simp [Tree.Contains, none, directory]

/-- What is there stays there, but for temporary files. -/
theorem Uploads.contains {tree after : Tree} {dst path : Path} {succeeds : Bool}
    (uploads : Uploads tree dst succeeds after) (different : path ≠ dst)
    (noTmp : isCopyRenameTmp path = false) (present : tree.Contains path) :
    after.Contains path := by
  by_cases on : path <:+ dst
  · rcases uploads.above path on different with same | ⟨none, _⟩
    · rwa [Tree.Contains, same]
    · exact absurd none present
  · exact ((uploads.matters_elsewhere on).mpr (Or.inr ⟨noTmp, present⟩)).contains

/-- The cache after an upload is accurate, when no directory was created in one
that counts as listed or is cached as absent, and the target is as recorded. -/
theorem Accurate.uploaded {horizon : ℚ} {tree later : Tree} {dst : Path} {succeeds : Bool}
    {before after : Dict Path PathCacheEntry} (accurate : Accurate horizon tree before)
    (rewrites : Rewrites horizon dst before after) (uploads : Uploads tree dst succeeds later)
    (unlisted : ∀ name dir entry, name :: dir <:+ dst → name :: dir ≠ dst →
      ¬tree.Contains (name :: dir) → later.Contains (name :: dir) →
      before.get? dir = some entry → entry.listed = false)
    (created : ∀ path entry, path <:+ dst → path ≠ dst → path ≠ [] → ¬tree.Contains path →
      later.Contains path → after.get? path = some entry → entry.pathExists = true)
    (target : ∃ entry, after.get? dst = some entry ∧
      (entry.pathExists = true → later.Contains dst) ∧
      (entry.pathExists = false → ¬later.Matters dst)) :
    Accurate horizon later after where
  valid := fun path entry found => by
    by_cases same : path = dst
    · exact (rewrites.self entry (same ▸ found)).1
    · exact accurate.valid path entry (rewrites.old path entry same found)
  present := fun path entry found positive noTmp => by
    obtain ⟨stored, isStored, present, _⟩ := target
    by_cases same : path = dst
    · rw [same, isStored] at found
      cases found
      rw [same]
      exact present positive
    · apply uploads.contains same noTmp
      exact accurate.present path entry (rewrites.old path entry same found) positive noTmp
  absent := fun path entry named found negative matters => by
    obtain ⟨stored, isStored, _, absent⟩ := target
    by_cases same : path = dst
    · rw [same, isStored] at found
      cases found
      exact absent negative (same ▸ matters)
    · have old := rewrites.old path entry same found
      have notBefore := accurate.absent path entry named old negative
      by_cases on : path <:+ dst
      · rcases uploads.matters_above on same matters with before | ⟨notThere, there⟩
        · exact notBefore before
        · rw [created path entry on same named notThere there found] at negative
          cases negative
      · exact notBefore ((uploads.matters_elsewhere on).mp matters)
  listed := fun path entry found isListed name matters => by
    obtain ⟨stored, isStored, _⟩ := target
    have notTarget : path ≠ dst := by
      rintro rfl
      rw [(rewrites.self entry found).2] at isListed
      cases isListed
    have old := rewrites.old path entry notTarget found
    by_cases same : name :: path = dst
    · rw [same, isStored]
      exact Option.some_ne_none stored
    · have mattered : tree.Matters (name :: path) := by
        by_cases on : name :: path <:+ dst
        · rcases uploads.matters_above on same matters with before | ⟨notThere, there⟩
          · exact before
          · rw [unlisted name path entry on same notThere there old] at isListed
            cases isListed
        · exact (uploads.matters_elsewhere on).mp matters
      obtain ⟨child, known⟩ := Option.ne_none_iff_exists'.mp
        (accurate.listed path entry old isListed name mattered)
      have positive : child.pathExists = true := by
        by_contra negative
        exact accurate.absent _ child (List.cons_ne_nil _ _) known
          (Bool.eq_false_iff.mpr negative) mattered
      rw [rewrites.kept _ child same known positive]
      exact Option.some_ne_none child

/-! ## A removal -/

/-- What matters after a removal did so before. -/
theorem Removes.matters {tree after : Tree} {path other : Path} {found succeeds : Bool}
    (removes : Removes tree path found succeeds after) (matters : after.Matters other) :
    tree.Matters other := by
  rcases removes.below other with same | ⟨_, _, none⟩
  · simpa only [Tree.Matters, Tree.Contains, same] using matters
  · exact absurd none matters.contains

section Removes

variable {horizon : ℚ} {tree later : Tree} {path : Path} {found succeeds : Bool}
  {cache after : Dict Path PathCacheEntry}

/-- The cache after a removal that raised is accurate, when nothing that is gone
is cached as present. -/
theorem Accurate.removed (accurate : Accurate horizon tree cache)
    (removes : Removes tree path found succeeds later)
    (unknown : ∀ other entry, isCopyRenameTmp other = false → tree.Contains other →
      ¬later.Contains other → cache.get? other = some entry → entry.pathExists = false) :
    Accurate horizon later cache where
  valid := accurate.valid
  present := fun other entry known positive noTmp => by
    have present := accurate.present other entry known positive noTmp
    by_contra gone
    rw [unknown other entry noTmp present gone known] at positive
    cases positive
  absent := fun other entry named known negative matters =>
    accurate.absent other entry named known negative (removes.matters matters)
  listed := fun other entry known isListed name matters =>
    accurate.listed other entry known isListed name (removes.matters matters)

/-- The cache after a removal is accurate, when the path is gone and nothing else
that is gone is cached as present. -/
theorem Accurate.removed_recorded (accurate : Accurate horizon tree cache)
    (removes : Removes tree path found succeeds later)
    (sets : Sets horizon path false false cache after) (gone : ¬later.Contains path)
    (unknown : ∀ other entry, other ≠ path → isCopyRenameTmp other = false →
      tree.Contains other → ¬later.Contains other → cache.get? other = some entry →
        entry.pathExists = false) :
    Accurate horizon later after where
  valid := fun other entry stored => by
    by_cases same : other = path
    · exact (sets.rewrites.self entry (same ▸ stored)).1
    · exact accurate.valid other entry (sets.old same stored)
  present := fun other entry stored positive noTmp => by
    rcases sets.cases stored with ⟨_, negative, _⟩ | ⟨different, known⟩
    · rw [negative] at positive
      cases positive
    · have present := accurate.present other entry known positive noTmp
      by_contra nowGone
      rw [unknown other entry different noTmp present nowGone known] at positive
      cases positive
  absent := fun other entry named stored negative matters => by
    rcases sets.cases stored with ⟨same, _⟩ | ⟨_, known⟩
    · exact gone (same ▸ matters.contains)
    · exact accurate.absent other entry named known negative (removes.matters matters)
  listed := fun other entry stored isListed name matters => by
    have notPath : other ≠ path := by
      rintro rfl
      rw [(sets.rewrites.self entry stored).2] at isListed
      cases isListed
    have mattered := removes.matters matters
    have known := accurate.listed other entry (sets.old notPath stored) isListed name mattered
    exact sets.keeps accurate mattered known

end Removes

/-! ## Every operation -/

section Steps

variable {base : Path} {validity opened : ℚ} {site : Site}

/-- An upload that fails. -/
theorem filecopy_error (env : Environment) (within : env.Within opened) {world : World}
    {dst : Path} (error : GfalError)
    (valid : ∀ entry, world.cache.get? (uri env dst) = some entry →
      opened + env.validityPeriod ≤ entry.expirationTime) :
    Sets (opened + env.validityPeriod) (uri env dst) false false world.cache
      (filecopy env dst (.error error) world).2.cache := by
  obtain ⟨after, stored, sets⟩ := set_apply within valid false false
  rw [filecopy]
  rw [bind_apply_ok stored]
  exact sets

/-- An upload that succeeds, up to the look at the directory of its target. -/
theorem filecopy_ok (env : Environment) (within : env.Within opened) (dst : Path)
    {world : World} (valid : ∀ path entry, world.cache.get? path = some entry →
      opened + env.validityPeriod ≤ entry.expirationTime) :
    ∃ middle last, Sets (opened + env.validityPeriod) (uri env dst) false false world.cache
        middle ∧
      Sets (opened + env.validityPeriod) (uri env dst) true false middle last.cache ∧
      filecopy env dst (.ok ()) world = (do
        match ← PathCache.get env (uri env dst).split.1 with
        | some false => PathCache.set env (uri env dst).split.1 true false
        | _ => pure () : GfalAction Unit) last := by
  obtain ⟨first, storedFirst, setsFirst⟩ := set_apply within (valid (uri env dst)) false false
  have validFirst : ∀ entry, first.cache.get? (uri env dst) = some entry →
      opened + env.validityPeriod ≤ entry.expirationTime :=
    fun entry found => (setsFirst.rewrites.self entry found).1
  obtain ⟨last, storedLast, setsLast⟩ := set_apply within validFirst true false
  refine ⟨first.cache, last, setsFirst, setsLast, ?_⟩
  rw [filecopy, bind_apply_ok storedFirst]
  exact bind_apply_ok storedLast

/-- The directory of the target is looked at last, and is recorded as there when
it reads as absent. -/
theorem recordDirectory_apply (env : Environment) (within : env.Within opened) {world : World}
    {tree : Tree} {dir : Path}
    (accurate : Accurate (opened + env.validityPeriod) tree world.cache)
    (directory : tree.node dir = some .directory) :
    Accurate (opened + env.validityPeriod) tree ((do
      match ← PathCache.get env dir with
      | some false => PathCache.set env dir true false
      | _ => pure () : GfalAction Unit) world).2.cache := by
  obtain ⟨result, asked, looked, sameCache, _⟩ := get_apply within accurate.valid dir
  have askedAccurate := accurate.ofCache sameCache
  rw [bind_apply_ok looked]
  match result with
  | none => exact askedAccurate
  | some true => exact askedAccurate
  | some false =>
      obtain ⟨after, stored, sets⟩ := set_apply within (askedAccurate.valid dir) true false
      dsimp only
      rw [stored]
      apply askedAccurate.sets sets
      · exact fun _ => by simp [Tree.Contains, directory]
      · exact fun same => by cases same
      · exact fun same => by cases same

theorem Path.mem_iterParents {path parent : Path} (on : parent <:+ path) (different : parent ≠ path)
    (named : parent ≠ []) : parent ∈ path.iterParents := by
  induction path using Path.iterParents.induct with
  | case1 => exact absurd (List.suffix_nil.mp on) named
  | case2 first =>
      rcases List.suffix_cons_iff.mp on with same | inRest
      · exact absurd same different
      · exact absurd (List.suffix_nil.mp inRest) named
  | case3 first name dir ih =>
      rw [Path.iterParents, List.mem_cons]
      rcases List.suffix_cons_iff.mp on with same | inRest
      · exact absurd same different
      · by_cases same : parent = name :: dir
        · exact Or.inl same
        · exact Or.inr (ih inRest same)

/-- An upload that the cache keeps up with. -/
theorem accurate_filecopy (env : Environment) (within : env.Within opened) {world : World}
    {tree later : Tree} {dst : Path} {copied : Except GfalError Unit}
    (accurate : Accurate (opened + env.validityPeriod) tree world.cache) (named : dst ≠ [])
    (uploads : Uploads tree (uri env dst) copied.isOk later)
    (created : ∀ path, path <:+ uri env dst → path ≠ uri env dst → ¬tree.Contains path →
      later.Contains path → ¬ParentListed ⟨tree, world⟩ path ∧
        (copied.isOk = false → ¬CachedAbsent ⟨tree, world⟩ path))
    (nothing : copied.isOk = false → ¬later.Contains (uri env dst)) :
    Accurate (opened + env.validityPeriod) later (filecopy env dst copied world).2.cache := by
  have unlisted : ∀ name dir entry, name :: dir <:+ uri env dst → name :: dir ≠ uri env dst →
      ¬tree.Contains (name :: dir) → later.Contains (name :: dir) →
      world.cache.get? dir = some entry → entry.listed = false := by
    intro name dir entry on different notThere there known
    by_contra isListed
    exact (created _ on different notThere there).1
      ⟨name, dir, entry, rfl, known, Bool.not_eq_false _ ▸ isListed⟩
  cases copied with
  | error error =>
      have sets := filecopy_error env within error (accurate.valid (uri env dst))
      apply accurate.uploaded sets.rewrites uploads unlisted
      · intro path entry on different _ notThere there stored
        by_contra negative
        exact (created path on different notThere there).2 rfl
          ⟨entry, sets.rewrites.old path entry different stored, Bool.eq_false_iff.mpr negative⟩
      · obtain ⟨entry, stored, negative, _⟩ := sets.self
        refine ⟨entry, stored, fun positive => ?_, fun _ => Tree.not_matters (nothing rfl)⟩
        rw [negative] at positive
        cases positive
  | ok =>
      obtain ⟨middle, last, first, second, rest⟩ := filecopy_ok env within dst accurate.valid
      rw [rest]
      have published : later.node (uri env dst) = some .file := by
        rcases uploads.target with file | ⟨failed, _⟩
        · exact file
        · cases failed
      have present : later.Contains (uri env dst) := by simp [Tree.Contains, published]
      have lastAccurate : Accurate (opened + env.validityPeriod) later last.cache := by
        apply accurate.uploaded (first.rewrites_twice second) uploads unlisted
        · intro path entry on different notRoot _ _ stored
          exact second.drops rfl path (Path.mem_iterParents on different notRoot) entry stored
        · obtain ⟨entry, stored, positive, _⟩ := second.self
          refine ⟨entry, stored, fun _ => present, fun negative => ?_⟩
          rw [positive] at negative
          cases negative
      apply recordDirectory_apply env within lastAccurate
      cases dst with
      | nil => exact absurd rfl named
      | cons name dir => exact later.parent_directory name (dir ++ env.base) present

/-- A removal that the cache keeps up with. -/
theorem accurate_remove (env : Environment) (within : env.Within opened) {world : World}
    {tree later : Tree} {path : Path} {found silent : Bool} {removed : Except GfalError Unit}
    (accurate : Accurate (opened + env.validityPeriod) tree world.cache)
    (removes : Removes tree (uri env path) found removed.isOk later)
    (unknown : ∀ other, isCopyRenameTmp other = false → tree.Contains other →
      ¬later.Contains other → (other = uri env path → removed.isOk = false) →
      ¬CachedPresent ⟨tree, world⟩ other)
    (truly : found = false → ¬tree.Contains (uri env path)) :
    Accurate (opened + env.validityPeriod) later
      (remove env path found removed silent world).2.cache := by
  have unknownEntry : ∀ other entry, isCopyRenameTmp other = false → tree.Contains other →
      ¬later.Contains other → (other = uri env path → removed.isOk = false) →
      world.cache.get? other = some entry → entry.pathExists = false := by
    intro other entry noTmp present gone own known
    by_contra positive
    exact unknown other noTmp present gone own ⟨entry, known, Bool.not_eq_false _ ▸ positive⟩
  have recorded : ¬later.Contains (uri env path) → ∃ after : World,
      ((do
        PathCache.set env (uri env path) false false
        pure true : GfalAction Bool) world) = (.ok true, after) ∧
      Accurate (opened + env.validityPeriod) later after.cache := by
    intro gone
    obtain ⟨after, stored, sets⟩ := set_apply within (accurate.valid (uri env path)) false false
    refine ⟨after, bind_apply_ok stored, accurate.removed_recorded removes sets gone ?_⟩
    intro other entry different noTmp present isGone known
    exact unknownEntry other entry noTmp present isGone (fun same => absurd same different) known
  cases found with
  | false =>
      have gone : ¬later.Contains (uri env path) := by
        rcases removes.below (uri env path) with same | ⟨isFound, _⟩
        · rw [Tree.Contains, same]
          exact truly rfl
        · cases isFound
      obtain ⟨after, wrote, afterAccurate⟩ := recorded gone
      rw [remove, wrote]
      · exact afterAccurate
      · exact fun _ same => by cases same
  | true =>
      cases removed with
      | ok =>
          obtain ⟨after, wrote, afterAccurate⟩ :=
            recorded fun present => present (removes.all rfl rfl)
          rw [remove, wrote]
          · exact afterAccurate
          · exact fun _ _ same => by cases same
      | error error =>
          have kept := accurate.removed removes fun other entry noTmp present gone known =>
            unknownEntry other entry noTmp present gone (fun _ => rfl) known
          cases silent with
          | true => exact kept
          | false => exact kept

/-- An operation that the cache keeps up with. -/
theorem accurate_exec {step : StorageStep}
    (accurate : Accurate (opened + validity) site.tree site.world.cache)
    (admissible : Admissible base validity opened site step) (careful : Careful base site step) :
    Accurate (opened + validity) (step.exec site).tree (step.exec site).world.cache := by
  obtain ⟨env, operation⟩ := step
  obtain ⟨rfl, rfl, within, truthful, does⟩ := admissible
  cases operation with
  | existsPath path => exact (existsPath_accurate within truthful accurate does careful).1
  | listdir path silent =>
      exact ((supports_accurate within).keeps_listdir truthful silent careful.1 careful.2
        site.world accurate).1
  | filecopy dst copied after =>
      exact accurate_filecopy env within accurate does.1 does.2 careful.1 careful.2
  | remove path found removed silent after =>
      exact accurate_remove env within accurate does.2 careful.1 careful.2

/-- A run of operations that the cache keeps up with. -/
theorem accurate_run (steps : List StorageStep)
    (accurate : Accurate (opened + validity) site.tree site.world.cache)
    (admissible : Along StorageStep.exec (Admissible base validity opened) site steps)
    (careful : Along StorageStep.exec (Careful base) site steps) :
    Accurate (opened + validity) (run StorageStep.exec site steps).tree
      (run StorageStep.exec site steps).world.cache := by
  induction steps generalizing site with
  | nil => exact accurate
  | cons step rest ih =>
      exact ih (accurate_exec accurate admissible.1 careful.1) admissible.2 careful.2

/-- Over an accurate cache, `exists` answers truly. -/
theorem readsTruly_of_accurate
    (accurate : Accurate (opened + validity) site.tree site.world.cache) :
    ReadsTruly base validity opened site := by
  rintro env rfl rfl within truthful path named noTmp clear result answered
  exact (existsPath_accurate within truthful accurate named clear).2 noTmp result answered

/-- The interface reads its own writes after every run of operations that the
cache keeps up with. -/
theorem reads_own_writes (tree : Tree) (steps : List StorageStep)
    (admissible : Along StorageStep.exec (Admissible base validity opened)
      ⟨tree, World.initial⟩ steps)
    (careful : Along StorageStep.exec (Careful base) ⟨tree, World.initial⟩ steps) :
    ReadsTruly base validity opened (run StorageStep.exec ⟨tree, World.initial⟩ steps) :=
  readsTruly_of_accurate (accurate_run steps (accurate_empty _ tree) admissible careful)

end Steps

/-! ## Three writes that the cache does not keep up with -/

/-- `/eos`, and nothing below it. -/
def emptyTree : Tree where
  node path := if path = [] ∨ path = ["eos"] then some .directory else none
  parent_directory := by
    intro name dir present
    simp only [List.cons.injEq, reduceCtorEq, false_or] at present ⊢
    split at present
    · rename_i directory
      simp [directory.2]
    · exact absurd rfl present

/-- Every listing of `/eos` succeeds, at one moment. -/
def emptyEnv : Environment where
  clock _ := 0
  answer _ path :=
    if path = [] then .entries ["eos"] else if path = ["eos"] then .entries [] else .absent
  base := ["eos"]
  validityPeriod := 600

theorem emptyEnv_truthful : emptyEnv.Truthful emptyTree := by
  intro index path
  simp only [emptyEnv]
  by_cases root : path = []
  · rw [if_pos root, root]
    refine Or.inr ⟨by decide, fun name => ?_⟩
    simp [emptyTree, Tree.Contains]
  · rw [if_neg root]
    by_cases eos : path = ["eos"]
    · rw [if_pos eos, eos]
      refine Or.inr ⟨by decide, fun name => ?_⟩
      simp [emptyTree, Tree.Contains]
    · rw [if_neg eos]
      simp [emptyTree, Listing.Truthful, root, eos]

/-- Every listing of `/eos/a/b/f` succeeds, at one moment. -/
def filledEnv : Environment :=
  { renewalEnv with clock := fun _ => 0 }

theorem filledEnv_truthful : filledEnv.Truthful renewalTree :=
  fun index path => renewalEnv_truthful index path

theorem within_of_clock_zero {env : Environment} (still : ∀ index, env.clock index = 0)
    (valid : 0 ≤ env.validityPeriod) : env.Within 0 := by
  intro index
  rw [still, zero_add]
  exact ⟨le_rfl, valid⟩

/-- The upload of `/eos/a/b/f` creates its directories. -/
theorem uploads_filled :
    Uploads emptyTree ["f", "b", "a", "eos"] true renewalTree where
  above := by
    intro path on different
    simp only [List.suffix_cons_iff, List.suffix_nil] at on
    rcases on with rfl | rfl | rfl | rfl | rfl
    · exact absurd rfl different
    · exact Or.inr (by decide)
    · exact Or.inr (by decide)
    · exact Or.inl (by decide)
    · exact Or.inl (by decide)
  elsewhere := by
    intro path off
    left
    simp only [List.suffix_cons_iff, List.suffix_nil, not_or] at off
    simp [emptyTree, renewalTree, off]
  target := Or.inl (by decide)

/-- The removal of `/eos/a`. -/
theorem removes_filled : Removes renewalTree ["a", "eos"] true true emptyTree where
  below := by
    intro other
    by_cases file : other = ["f", "b", "a", "eos"]
    · rw [file]
      exact Or.inr (by decide)
    · by_cases inner : other = ["b", "a", "eos"]
      · rw [inner]
        exact Or.inr (by decide)
      · by_cases top : other = ["a", "eos"]
        · rw [top]
          exact Or.inr (by decide)
        · left
          simp [emptyTree, renewalTree, file, inner, top]
  all := fun _ _ => by decide

theorem noFileAbove_filled : renewalTree.NoFileAbove ["f", "b", "a", "eos"] := by
  intro ancestor _ different
  simp only [renewalTree, if_neg different]
  split <;> simp

/-- `/eos/a/b/f` is uploaded, and then asked for. -/
def uploadAndAsk : List StorageStep :=
  [⟨emptyEnv, .filecopy ["f", "b", "a"] (.ok ()) renewalTree⟩,
    ⟨filledEnv, .existsPath ["f", "b", "a"]⟩]

/-- The storage reads truly after an upload and a question. -/
theorem reads_own_writes_uploaded :
    ReadsTruly ["eos"] 600 0 (run StorageStep.exec ⟨emptyTree, World.initial⟩ uploadAndAsk) := by
  apply reads_own_writes
  · refine ⟨⟨rfl, rfl, ?_, emptyEnv_truthful, by decide, uploads_filled⟩,
      ⟨rfl, rfl, ?_, filledEnv_truthful, by decide⟩, trivial⟩
    · exact within_of_clock_zero (fun _ => rfl) (by decide)
    · exact within_of_clock_zero (fun _ => rfl) (by decide)
  · refine ⟨⟨fun path _ _ _ _ => ⟨?_, ?_⟩, ?_⟩, noFileAbove_filled, trivial⟩
    · rintro ⟨name, dir, entry, _, found, _⟩
      simp [World.initial] at found
    · exact fun failed => by cases failed
    · exact fun failed => by cases failed

/-- `/eos` is listed before `/eos/a/b/f` is uploaded. -/
def listAndUpload : List StorageStep :=
  [⟨emptyEnv, .listdir [] false⟩, ⟨emptyEnv, .filecopy ["f", "b", "a"] (.ok ()) renewalTree⟩]

/-- An upload onto `/eos/a/b/f` fails, and leaves it in place. -/
def failOntoFile : List StorageStep :=
  [⟨filledEnv, .filecopy ["f", "b", "a"] (.error (.failed ["f", "b", "a", "eos"])) renewalTree⟩]

/-- `/eos/a/b/f` is asked for before `/eos/a` is removed. -/
def askAndRemove : List StorageStep :=
  [⟨filledEnv, .existsPath ["f", "b", "a"]⟩,
    ⟨filledEnv, .remove ["a"] true (.ok ()) false emptyTree⟩]

/-- After an upload into a listed directory a directory above the target reads
as absent; a failed upload makes the file that it leaves in place read as
absent; and after a removal a file that was below the path reads as present. -/
theorem misreads_own_writes :
    (Along StorageStep.exec (Admissible ["eos"] 600 0) ⟨emptyTree, World.initial⟩ listAndUpload ∧
      ¬ReadsTruly ["eos"] 600 0 (run StorageStep.exec ⟨emptyTree, World.initial⟩ listAndUpload)) ∧
    (Along StorageStep.exec (Admissible ["eos"] 600 0) ⟨renewalTree, World.initial⟩ failOntoFile ∧
      ¬ReadsTruly ["eos"] 600 0 (run StorageStep.exec ⟨renewalTree, World.initial⟩ failOntoFile)) ∧
    (Along StorageStep.exec (Admissible ["eos"] 600 0) ⟨renewalTree, World.initial⟩ askAndRemove ∧
      ¬ReadsTruly ["eos"] 600 0
        (run StorageStep.exec ⟨renewalTree, World.initial⟩ askAndRemove)) := by
  have emptyWithin : emptyEnv.Within 0 := within_of_clock_zero (fun _ => rfl) (by decide)
  have filledWithin : filledEnv.Within 0 := within_of_clock_zero (fun _ => rfl) (by decide)
  refine ⟨⟨?_, fun reads => ?_⟩, ⟨?_, fun reads => ?_⟩, ⟨?_, fun reads => ?_⟩⟩
  · exact ⟨⟨rfl, rfl, emptyWithin, emptyEnv_truthful, trivial⟩,
      ⟨rfl, rfl, emptyWithin, emptyEnv_truthful, by decide, uploads_filled⟩, trivial⟩
  · have denied := reads filledEnv rfl rfl filledWithin filledEnv_truthful ["a"] (by decide)
      (by decide +kernel) (noFileAbove_filled.of_suffix (by decide)) false (by decide +kernel)
    exact Bool.false_ne_true (denied.mpr (by decide))
  · refine ⟨⟨rfl, rfl, filledWithin, filledEnv_truthful, by decide, ?_⟩, trivial⟩
    exact ⟨fun _ _ _ => Or.inl rfl, fun _ _ => Or.inl rfl, Or.inr ⟨rfl, rfl⟩⟩
  · have denied := reads filledEnv rfl rfl filledWithin filledEnv_truthful ["f", "b", "a"]
      (by decide) (by decide +kernel) noFileAbove_filled false (by decide +kernel)
    exact Bool.false_ne_true (denied.mpr (by decide))
  · exact ⟨⟨rfl, rfl, filledWithin, filledEnv_truthful, by decide⟩,
      ⟨rfl, rfl, filledWithin, filledEnv_truthful, fun _ => by decide, removes_filled⟩, trivial⟩
  · have claimed := reads emptyEnv rfl rfl emptyWithin emptyEnv_truthful ["f", "b", "a"]
      (by decide) (by decide +kernel) ?_ true (by decide +kernel)
    · exact absurd (claimed.mp rfl) (by decide)
    · intro ancestor _ _
      simp only [emptyTree, run_cons, run_nil, StorageStep.exec, askAndRemove]
      split <;> simp

end DSProd.Storage
