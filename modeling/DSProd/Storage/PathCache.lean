import DSProd.Library.Dict
import DSProd.Storage.Tree

/-!
# The path cache

`PathCache` of `law_gfal.py`: positive and negative entries that expire, and
the flag of a directory whose own listing was stored.  Every method reads the
clock at each point where the source calls `time.time()`.
-/

namespace DSProd.Storage

open DSProd.Library

/-- `PathCacheEntry`.  The constructor of the source stores `listed and exists`,
so a listed entry always exists. -/
structure PathCacheEntry where
  pathExists : Bool
  expirationTime : ℚ
  listed : Bool
  exists_of_listed : listed = true → pathExists = true
  deriving DecidableEq

/-- `PathCacheEntry.__init__`. -/
def PathCacheEntry.make (pathExists : Bool) (expirationTime : ℚ) (listed : Bool) :
    PathCacheEntry where
  pathExists := pathExists
  expirationTime := expirationTime
  listed := listed && pathExists
  exists_of_listed both := (Bool.and_eq_true_iff.mp both).2

/-- Errors of the `gfal` helpers.  `is_absent_error` tells the one that says
the path is not there from every other failure. -/
inductive GfalError where
  | absent (path : Path)
  | failed (path : Path)
  deriving DecidableEq, Repr

/-- The cache, and how much of the environment's clock and answers is used. -/
structure World where
  cache : Dict Path PathCacheEntry
  ticks : Nat
  listings : Nat

/-- Nothing cached and nothing asked yet. -/
def World.initial : World :=
  ⟨Dict.empty, 0, 0⟩

/-- Interface code: it uses the storage and the clock and may raise. -/
abbrev GfalAction (α : Type) := Action World GfalError α

namespace PathCache

variable (env : Environment)

/-- `time.time()`. -/
def time : GfalAction ℚ := fun world =>
  (.ok (env.clock world.ticks), { world with ticks := world.ticks + 1 })

/-- `self.cache.get(path)`. -/
def cached (path : Path) : GfalAction (Option PathCacheEntry) :=
  Action.read fun world => world.cache.get? path

/-- `self.cache[path] = entry`. -/
def store (path : Path) (entry : PathCacheEntry) : GfalAction Unit :=
  Action.modify fun world => { world with cache := world.cache.set path entry }

/-- `self.cache.pop(path, None)`. -/
def drop (path : Path) : GfalAction Unit :=
  Action.modify fun world => { world with cache := world.cache.pop path }

/-- `PathCacheEntry.is_valid`. -/
def isValid (entry : PathCacheEntry) : GfalAction Bool := do
  let now ← time env
  pure (decide (now ≤ entry.expirationTime))

/-- Whether `set` carries the listed flag of the entry it replaces over: the
condition of its first `if`. -/
def keepsListed (path : Path) (pathExists listed : Bool) : GfalAction Bool := do
  match ← cached path with
  | none => pure false
  | some previous =>
      let valid ← isValid env previous
      pure (valid && previous.listed && pathExists && !listed)

/-- The loop of `set`: drop a negative entry of an ancestor. -/
def dropNegative (parent : Path) : GfalAction Unit := do
  match ← cached parent with
  | none => pure ()
  | some pentry => if pentry.pathExists = false then drop parent else pure ()

/-- `PathCache.set`. -/
def set (path : Path) (pathExists listed : Bool) : GfalAction Unit := do
  let kept ← keepsListed env path pathExists listed
  let now ← time env
  store path (PathCacheEntry.make pathExists (now + env.validityPeriod) (listed || kept))
  if pathExists then Action.forEach path.iterParents dropNegative else pure ()

/-- `PathCache.set_local`. -/
def setLocal (path : Path) (pathExists : Bool) : GfalAction Unit :=
  set env path pathExists false

/-- `PathCache.set_exists`: the names of a listing, then the directory itself. -/
def setExists (baseDir : Path) (items : List String) : GfalAction Unit := do
  Action.forEach items fun item => set env (item :: baseDir) true false
  set env baseDir true true

/-- The second half of `get`: inference from the nearest valid ancestor. -/
def inferFromParents : List Path → GfalAction (Option Bool)
  | [] => pure none
  | parent :: rest => do
      match ← cached parent with
      | none => inferFromParents rest
      | some pentry =>
          if ← isValid env pentry then
            pure (if pentry.pathExists = false then some false else none)
          else do
            drop parent
            inferFromParents rest

/-- `PathCache.get`, the first component of its result; the second is always
`True`. -/
def get (path : Path) : GfalAction (Option Bool) := do
  match ← cached path with
  | none => inferFromParents env path.iterParents
  | some entry =>
      if ← isValid env entry then pure (some entry.pathExists)
      else do
        drop path
        inferFromParents env path.iterParents

/-- `PathCache.was_listed`. -/
def wasListed (path : Path) : GfalAction Bool := do
  match ← cached path with
  | none => pure false
  | some entry =>
      let valid ← isValid env entry
      pure (valid && entry.pathExists && entry.listed)

end PathCache

/-! ## Truthful caches -/

/-- Every entry, expired or not, says whether its path is in the tree. -/
def CacheTruthful (tree : Tree) (world : World) : Prop :=
  ∀ path entry, world.cache.get? path = some entry →
    (entry.pathExists = true ↔ tree.Contains path)

theorem cacheTruthful_initial (tree : Tree) : CacheTruthful tree World.initial := by
  intro path entry found
  simp [World.initial] at found

namespace PathCache

variable {env : Environment} {tree : Tree}

open Action

theorem keeps_time : Keeps (CacheTruthful tree) (time env) fun _ => True :=
  fun _ truthful => ⟨truthful, fun _ _ => trivial⟩

theorem keeps_isValid (entry : PathCacheEntry) :
    Keeps (CacheTruthful tree) (isValid env entry) fun _ => True :=
  keeps_bind keeps_time fun _ _ => keeps_pure trivial

/-- A cached entry is read together with what it says about the tree. -/
theorem keeps_cached (path : Path) :
    Keeps (CacheTruthful tree) (cached path) fun found =>
      ∀ entry, found = some entry → (entry.pathExists = true ↔ tree.Contains path) := by
  intro world truthful
  refine ⟨truthful, fun found returned => ?_⟩
  cases returned
  exact truthful path

theorem keeps_drop (path : Path) : Keeps (CacheTruthful tree) (drop path) fun _ => True := by
  refine keeps_modify fun world truthful other entry found => truthful other entry ?_
  rw [Dict.get?_pop] at found
  split at found
  · cases found
  · exact found

theorem keeps_store {path : Path} {entry : PathCacheEntry}
    (honest : entry.pathExists = true ↔ tree.Contains path) :
    Keeps (CacheTruthful tree) (store path entry) fun _ => True := by
  refine keeps_modify fun world truthful other stored found => ?_
  rw [Dict.get?_set] at found
  split at found
  · rename_i same
    cases found
    rwa [same]
  · exact truthful other stored found

theorem keeps_dropNegative (parent : Path) :
    Keeps (CacheTruthful tree) (dropNegative parent) fun _ => True := by
  refine keeps_bind (keeps_cached parent) fun found _ => ?_
  cases found with
  | none => exact keeps_pure trivial
  | some pentry =>
      dsimp only
      split
      · exact keeps_drop parent
      · exact keeps_pure trivial

theorem keeps_keepsListed (path : Path) (pathExists listed : Bool) :
    Keeps (CacheTruthful tree) (keepsListed env path pathExists listed) fun _ => True := by
  refine keeps_bind (keeps_cached path) fun found _ => ?_
  cases found with
  | none => exact keeps_pure trivial
  | some previous => exact keeps_bind (keeps_isValid previous) fun _ _ => keeps_pure trivial

/-- Recording the truth about a path keeps the cache truthful. -/
theorem keeps_set {path : Path} {pathExists : Bool} (listed : Bool)
    (honest : pathExists = true ↔ tree.Contains path) :
    Keeps (CacheTruthful tree) (set env path pathExists listed) fun _ => True := by
  refine keeps_bind (keeps_keepsListed path pathExists listed) fun _ _ =>
    keeps_bind keeps_time fun now _ => keeps_bind (keeps_store honest) fun _ _ => ?_
  split
  · exact keeps_forEach fun parent _ => keeps_dropNegative parent
  · exact keeps_pure trivial

theorem keeps_setExists {baseDir : Path} {items : List String}
    (present : tree.Contains baseDir)
    (children : ∀ item ∈ items, tree.Contains (item :: baseDir)) :
    Keeps (CacheTruthful tree) (setExists env baseDir items) fun _ => True := by
  refine keeps_bind (keeps_forEach fun item member => ?_) fun _ _ => ?_
  · exact keeps_set false (iff_of_true rfl (children item member))
  · exact keeps_set true (iff_of_true rfl present)

/-- A negative ancestor is only ever inferred from above a path that is not
there. -/
theorem keeps_inferFromParents {path : Path} {parents : List Path}
    (above : ∀ parent ∈ parents, parent <:+ path) :
    Keeps (CacheTruthful tree) (inferFromParents env parents) fun inferred =>
      ∀ answer, inferred = some answer → (answer = true ↔ tree.Contains path) := by
  induction parents with
  | nil => exact keeps_pure fun _ same => by cases same
  | cons parent rest ih =>
      have climb := ih fun higher member => above higher (List.mem_cons_of_mem parent member)
      refine keeps_bind (keeps_cached parent) fun found honest => ?_
      cases found with
      | none => exact climb
      | some pentry =>
          refine keeps_bind (keeps_isValid pentry) fun valid _ => ?_
          cases valid with
          | false => exact keeps_bind (keeps_drop parent) fun _ _ => climb
          | true =>
              refine keeps_pure fun answer inferred => ?_
              split at inferred
              · rename_i negative
                cases inferred
                have gone : ¬ tree.Contains parent := by
                  rw [← honest pentry rfl, negative]
                  exact Bool.false_ne_true
                exact iff_of_false Bool.false_ne_true fun present =>
                  gone (Tree.contains_of_suffix present (above parent List.mem_cons_self))
              · cases inferred

variable (env) in
/-- A cached answer is the truth. -/
theorem keeps_get (path : Path) :
    Keeps (CacheTruthful tree) (get env path) fun result =>
      ∀ answer, result = some answer → (answer = true ↔ tree.Contains path) := by
  have inferred : Keeps (CacheTruthful tree) (inferFromParents env path.iterParents) fun result =>
      ∀ answer, result = some answer → (answer = true ↔ tree.Contains path) :=
    keeps_inferFromParents fun parent member => Path.suffix_of_mem_iterParents member
  refine keeps_bind (keeps_cached path) fun found honest => ?_
  cases found with
  | none => exact inferred
  | some entry =>
      refine keeps_bind (keeps_isValid entry) fun valid _ => ?_
      cases valid with
      | false => exact keeps_bind (keeps_drop path) fun _ _ => inferred
      | true =>
          refine keeps_pure fun answer same => ?_
          cases same
          exact honest entry rfl

variable (env) in
theorem keeps_wasListed (path : Path) :
    Keeps (CacheTruthful tree) (wasListed env path) fun _ => True := by
  refine keeps_bind (keeps_cached path) fun found _ => ?_
  cases found with
  | none => exact keeps_pure trivial
  | some entry => exact keeps_bind (keeps_isValid entry) fun _ _ => keeps_pure trivial

/-! ## The cache never raises -/

theorem total_isValid (entry : PathCacheEntry) : Total (isValid env entry) :=
  total_bind (fun _ => ⟨_, _, rfl⟩) fun _ => total_pure _

theorem total_dropNegative (parent : Path) : Total (dropNegative parent) := by
  apply total_bind (total_read _)
  intro found
  cases found with
  | none => exact total_pure ()
  | some pentry =>
      dsimp only
      split
      · exact total_modify _
      · exact total_pure ()

theorem total_keepsListed (path : Path) (pathExists listed : Bool) :
    Total (keepsListed env path pathExists listed) := by
  apply total_bind (total_read _)
  intro found
  cases found with
  | none => exact total_pure false
  | some previous => exact total_bind (total_isValid previous) fun _ => total_pure _

variable (env) in
theorem total_set (path : Path) (pathExists listed : Bool) :
    Total (set env path pathExists listed) := by
  apply total_bind (total_keepsListed path pathExists listed)
  intro kept
  apply total_bind fun _ => ⟨_, _, rfl⟩
  intro now
  apply total_bind (total_modify _)
  intro _
  split
  · exact total_forEach total_dropNegative
  · exact total_pure ()

theorem total_inferFromParents (parents : List Path) : Total (inferFromParents env parents) := by
  induction parents with
  | nil => exact total_pure none
  | cons parent rest ih =>
      apply total_bind (total_read _)
      intro found
      cases found with
      | none => exact ih
      | some pentry =>
          apply total_bind (total_isValid pentry)
          intro valid
          cases valid with
          | false => exact total_bind (total_modify _) fun _ => ih
          | true => exact total_pure _

variable (env) in
theorem total_get (path : Path) : Total (get env path) := by
  apply total_bind (total_read _)
  intro found
  cases found with
  | none => exact total_inferFromParents _
  | some entry =>
      apply total_bind (total_isValid entry)
      intro valid
      cases valid with
      | false => exact total_bind (total_modify _) fun _ => total_inferFromParents _
      | true => exact total_pure _

variable (env) in
theorem total_wasListed (path : Path) : Total (wasListed env path) := by
  apply total_bind (total_read _)
  intro found
  cases found with
  | none => exact total_pure false
  | some entry => exact total_bind (total_isValid entry) fun _ => total_pure _

end PathCache

end DSProd.Storage
