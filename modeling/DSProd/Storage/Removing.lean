import DSProd.Storage.OwnWrites

/-!
# Removals that are reported as done

`GFALFileInterface.remove` asks `gfal_exists` whether there is anything to
remove, and `gfal_exists` takes every `gfal-stat` that fails for a "no".  So an
endpoint that cannot be reached is told apart from a path that is not there
only by `gfal-rm`, which is then not called: the removal reports success and
records the path as absent.
-/

namespace DSProd.Storage

open DSProd.Library

/-! ## The two calls -/

/-- How a gfal command ends: it succeeds, says that there is no such path, or
fails for another reason. -/
inductive CommandEnd where
  | success
  | absent
  | failed
  deriving DecidableEq

/-- `gfal_exists`, of the `gfal-stat` it runs. -/
def gfalExists (stat : CommandEnd) : Bool :=
  match stat with
  | .success => true
  | .absent => false
  | .failed => false

/-- `gfal_rm`, of the `gfal-rm` it runs. -/
def gfalRm (path : Path) (rm : CommandEnd) : Except GfalError Unit :=
  match rm with
  | .success => .ok ()
  | .absent => .error (.absent path)
  | .failed => .error (.failed path)

/-- What `gfal-stat` says of a path is borne out by the tree. -/
def CommandEnd.Truthful (tree : Tree) (path : Path) : CommandEnd → Prop
  | .success => tree.Contains path
  | .absent => ¬tree.Contains path
  | .failed => True

/-- `remove` with the commands it runs. -/
def gfalRemove (env : Environment) (path : Path) (stat rm : CommandEnd) (silent : Bool) :
    GfalAction Bool :=
  GFALFileInterface.remove env path (gfalExists stat)
    (gfalRm (GFALFileInterface.uri env path) rm) silent

/-! ## What a removal promises -/

/-- A removal reported as done is done: unless it is silent it returns only if
the path is gone, and it never records a path as absent that is still there. -/
structure RemovalHonest (env : Environment) (path : Path) (stat rm : CommandEnd) (after : Tree)
    (world : World) : Prop where
  returns : ∀ answer, (gfalRemove env path stat rm false world).1 = .ok answer →
    ¬after.Contains (GFALFileInterface.uri env path)
  records : ∀ silent entry,
    (gfalRemove env path stat rm silent world).2.cache.get? (GFALFileInterface.uri env path) =
        some entry → entry.pathExists = false →
      world.cache.get? (GFALFileInterface.uri env path) = some entry ∨
        ¬after.Contains (GFALFileInterface.uri env path)

variable {env : Environment} {path : Path} {stat rm : CommandEnd} {before after : Tree}
  {world : World}

/-- Recording a path as absent always succeeds. -/
theorem set_absent (env : Environment) (path : Path) (world : World) :
    ∃ after, PathCache.set env path false false world = (.ok (), after) ∧
      ∃ entry, after.cache.get? path = some entry ∧ entry.pathExists = false := by
  obtain ⟨kept, asked, asks⟩ := @PathCache.total_keepsListed env path false false world
  rw [PathCache.set, Action.bind_apply_ok asks]
  exact ⟨_, rfl, _, Dict.get?_set_self _ _ _, rfl⟩

/-- What was not asked to be removed is there as before. -/
theorem contains_of_unasked
    (removes : Removes before (GFALFileInterface.uri env path) (gfalExists stat)
      (gfalRm (GFALFileInterface.uri env path) rm).isOk after)
    (unasked : gfalExists stat = false) :
    after.Contains (GFALFileInterface.uri env path) ↔
      before.Contains (GFALFileInterface.uri env path) := by
  rcases removes.below (GFALFileInterface.uri env path) with same | ⟨asked, _⟩
  · rw [Tree.Contains, Tree.Contains, same]
  · rw [unasked] at asked
    cases asked

/-- A removal that leaves nothing at the path is honest. -/
theorem removalHonest_of_gone (gone : ¬after.Contains (GFALFileInterface.uri env path)) :
    RemovalHonest env path stat rm after world :=
  ⟨fun _ _ => gone, fun _ _ _ _ => Or.inr gone⟩

/-- One that `gfal-rm` refuses is reported, and recorded nowhere. -/
theorem removalHonest_of_refused (refused : rm ≠ .success) :
    RemovalHonest env path .success rm after world := by
  have raises : ∃ error, gfalRm (GFALFileInterface.uri env path) rm = .error error := by
    cases rm with
    | success => exact absurd rfl refused
    | absent => exact ⟨_, rfl⟩
    | failed => exact ⟨_, rfl⟩
  obtain ⟨error, raised⟩ := raises
  constructor
  case returns =>
    intro answer returned
    rw [gfalRemove, raised] at returned
    cases returned
  case records =>
    intro silent entry recorded _
    left
    rw [gfalRemove, raised] at recorded
    cases silent <;> exact recorded

/-- A removal is honest exactly when no path is there whose `gfal-stat` fails
without saying that it is absent. -/
theorem removalHonest_iff
    (truthful : stat.Truthful before (GFALFileInterface.uri env path))
    (removes : Removes before (GFALFileInterface.uri env path) (gfalExists stat)
      (gfalRm (GFALFileInterface.uri env path) rm).isOk after) :
    RemovalHonest env path stat rm after world ↔
      (stat = .failed → ¬before.Contains (GFALFileInterface.uri env path)) := by
  cases stat with
  | success =>
      refine iff_of_true ?_ (fun failed => by cases failed)
      by_cases succeeds : rm = .success
      · apply removalHonest_of_gone
        rw [succeeds] at removes
        exact fun present => present (removes.all rfl rfl)
      · exact removalHonest_of_refused succeeds
  | absent =>
      refine iff_of_true ?_ (fun failed => by cases failed)
      apply removalHonest_of_gone
      rw [contains_of_unasked removes rfl]
      exact truthful
  | failed =>
      constructor
      · intro honest _ present
        obtain ⟨later, records, _⟩ := set_absent env (GFALFileInterface.uri env path) world
        have returned : (gfalRemove env path .failed rm false world).1 = .ok true := by
          have unasked : gfalRemove env path .failed rm false = (do
              PathCache.set env (GFALFileInterface.uri env path) false false
              pure true) := by
            cases rm <;> rfl
          rw [unasked, Action.bind_apply_ok records]
          rfl
        exact honest.returns true returned ((contains_of_unasked removes rfl).mpr present)
      · intro gone
        apply removalHonest_of_gone
        rw [contains_of_unasked removes rfl]
        exact gone rfl

theorem removalHonest_filled :
    RemovalHonest filledEnv ["a"] .success .success emptyTree World.initial := by
  have present : CommandEnd.success.Truthful renewalTree
      (GFALFileInterface.uri filledEnv ["a"]) := by
    rw [CommandEnd.Truthful]
    decide
  have removes : Removes renewalTree (GFALFileInterface.uri filledEnv ["a"])
      (gfalExists .success) (gfalRm (GFALFileInterface.uri filledEnv ["a"]) .success).isOk
      emptyTree := removes_filled
  apply (removalHonest_iff present removes).mpr
  exact fun failed => by cases failed

/-- When the endpoint cannot be reached, `/eos/a` is reported as removed and is
still there. -/
theorem not_removalHonest_unreachable :
    Removes renewalTree ["a", "eos"] (gfalExists .failed) (gfalRm ["a", "eos"] .failed).isOk
        renewalTree ∧
      ¬RemovalHonest filledEnv ["a"] .failed .failed renewalTree World.initial := by
  constructor
  · exact ⟨fun _ => Or.inl rfl, fun asked => by cases asked⟩
  · intro honest
    exact honest.returns true (by decide +kernel) (by decide)

end DSProd.Storage
