import DSProd.Library.Run
import DSProd.Storage.Interface
import Mathlib.Tactic.NormNum

/-!
# Existence questions over a tree that never changes

The calls of a run question a tree through the cache at whatever times the
clock reads.  Every positive and every negative entry the cache takes from a
listing is true of the tree for ever, whether it expires or not; the one answer
that rests on no entry of the path is "its directory was listed and this name
was not in it".  That answer is drawn from the listed flag of the directory,
whose lifetime a listing of the parent renews, while the names the directory's
own listing carried expire on their own clock.

The main result says exactly which runs answer every question truthfully: those
in which no name of the tree is asked for while its own entry is gone and its
directory still counts as listed.
-/

namespace DSProd.Storage

open DSProd.Library
open DSProd.Library.Action
open GFALFileInterface

variable {env : Environment} {tree : Tree}

/-! ## Listings -/

/-- What `gfal_ls_checked` returns about a path, measured against a tree. -/
def BorneOut (tree : Tree) (path : Path) : Option (List String) → Prop
  | none => tree.node path = none
  | some names => (Listing.entries names).Truthful tree path

/-- Listing never touches the cache, and what it returns is borne out. -/
theorem gfalLsAttempts_spec (truthful : env.Truthful tree) (path : Path) (attempts : Nat)
    (world : World) :
    (gfalLsAttempts env path attempts world).2.cache = world.cache ∧
      ∀ result, (gfalLsAttempts env path attempts world).1 = .ok result →
        BorneOut tree path result := by
  induction attempts generalizing world with
  | zero => exact ⟨rfl, fun _ same => by cases same⟩
  | succ attemptsLeft ih =>
      have answered := truthful world.listings path
      cases answer : env.answer world.listings path with
      | entries names =>
          rw [answer] at answered
          simp only [gfalLsAttempts, recover, gfalLs, answer, Functor.map, pure]
          refine ⟨rfl, fun result same => ?_⟩
          cases same
          exact answered
      | absent =>
          rw [answer] at answered
          simp only [gfalLsAttempts, recover, gfalLs, answer, Functor.map]
          refine ⟨rfl, fun result same => ?_⟩
          cases same
          exact answered
      | failed =>
          simp only [gfalLsAttempts, recover, gfalLs, answer, Functor.map]
          by_cases last : attemptsLeft = 0
          · simp [isAbsentError, last, raise]
          · simpa [isAbsentError, last] using ih { world with listings := world.listings + 1 }

/-- An invariant that the listings of a tree keep: it is about the cache, and is
kept when the cache is asked, told of a path that is not there, or told of all
that is in a directory. -/
structure Supports (env : Environment) (tree : Tree) (invariant : World → Prop) : Prop where
  ofCache : ∀ world after : World, after.cache = world.cache → invariant world → invariant after
  get : ∀ path, Keeps invariant (PathCache.get env path) fun _ => True
  setAbsent : ∀ path, ¬tree.Contains path →
    Keeps invariant (PathCache.set env path false false) fun _ => True
  setExists : ∀ path names, tree.node path = some .directory →
    (∀ name, name ∈ names ↔ tree.Contains (name :: path)) →
    Keeps invariant (PathCache.setExists env path names) fun _ => True

section Supports

variable {invariant : World → Prop} (supports : Supports env tree invariant)

include supports

theorem Supports.keeps_gfalLsChecked (truthful : env.Truthful tree) (path : Path) :
    Keeps invariant (gfalLsChecked env path) (BorneOut tree path) := by
  intro world initially
  rcases gfalLsAttempts_spec truthful path 3 world with ⟨sameCache, borneOut⟩
  exact ⟨supports.ofCache world _ sameCache initially, borneOut⟩

/-- A listing of something that is no regular file names its children. -/
theorem Supports.keeps_setExists {path : Path} {names : List String}
    (noFile : tree.node path ≠ some .file) (borneOut : BorneOut tree path (some names)) :
    Keeps invariant (PathCache.setExists env path names) fun _ => True := by
  obtain ⟨directory, children⟩ := borneOut.resolve_left noFile
  exact supports.setExists path names directory children

theorem Supports.keeps_markAbsentAncestorsFrom (truthful : env.Truthful tree) (climbs : Nat)
    (path : Path) (clear : tree.NoFileAbove path) :
    Keeps invariant (markAbsentAncestorsFrom env climbs path) fun _ => True := by
  induction climbs generalizing path with
  | zero => exact keeps_pure trivial
  | succ climbsLeft ih =>
      match path, clear with
      | [], _ => exact keeps_pure trivial
      | [_], _ => exact keeps_pure trivial
      | child :: name :: dir, clear =>
          have above : (name :: dir) <:+ (child :: name :: dir) := List.suffix_cons child _
          have noFile : tree.node (name :: dir) ≠ some .file :=
            clear _ above (Path.ne_cons_self child _)
          have asked : Keeps invariant
              (recover (some <$> gfalLsChecked env (name :: dir)) fun _ => pure none)
              fun entries => ∀ result, entries = some result →
                BorneOut tree (name :: dir) result := by
            apply keeps_recover
            · apply keeps_bind (supports.keeps_gfalLsChecked truthful _)
              intro result borneOut
              apply keeps_pure
              intro other same
              cases same
              exact borneOut
            · exact fun _ => keeps_pure fun _ same => by cases same
          rw [markAbsentAncestorsFrom]
          apply keeps_bind (supports.get _)
          intro found _
          cases found with
          | some _ => exact keeps_pure trivial
          | none =>
              apply keeps_bind asked
              intro entries borneOut
              match entries, borneOut with
              | none, _ => exact keeps_pure trivial
              | some none, borneOut =>
                  have absent : tree.node (name :: dir) = none := borneOut none rfl
                  apply keeps_bind (supports.setAbsent _ (by simpa [Tree.Contains] using absent))
                  exact fun _ _ => ih _ (clear.of_suffix above)
              | some (some names), borneOut =>
                  exact supports.keeps_setExists noFile (borneOut (some names) rfl)

/-- `listdir` of what is no regular file returns exactly the names in it. -/
theorem Supports.keeps_listdir (truthful : env.Truthful tree) {path : Path} (silent : Bool)
    (clear : tree.NoFileAbove (uri env path)) (noFile : tree.node (uri env path) ≠ some .file) :
    Keeps invariant (listdir env path silent) fun names =>
      ∀ name, name ∈ names ↔ tree.Contains (name :: uri env path) := by
  apply keeps_bind (supports.keeps_gfalLsChecked truthful _)
  intro entries borneOut
  cases entries with
  | some names =>
      apply keeps_bind (supports.keeps_setExists noFile borneOut)
      exact fun _ _ => keeps_pure (borneOut.resolve_left noFile).2
  | none =>
      have absent : tree.node (uri env path) = none := borneOut
      cases silent with
      | false => exact keeps_raise
      | true =>
          apply keeps_bind (supports.setAbsent _ (by simpa [Tree.Contains] using absent))
          intro _ _
          apply keeps_bind (supports.keeps_markAbsentAncestorsFrom truthful 32 _ clear)
          intro _ _
          apply keeps_pure
          intro name
          apply iff_of_false List.not_mem_nil
          intro present
          have parent := tree.parent_directory name _ present
          rw [absent] at parent
          cases parent

/-- The part of `exists` that lists the directory of a path. -/
theorem Supports.keeps_listParent (truthful : env.Truthful tree) {name : String} {dir : Path}
    (clear : tree.NoFileAbove (uri env (name :: dir))) :
    Keeps invariant
      (do
        let dirEntries ← listdir env dir true
        if name ∈ dirEntries then pure true
        else do
          PathCache.set env (uri env (name :: dir)) false false
          pure false)
      fun result => result = true ↔ tree.Contains (uri env (name :: dir)) := by
  have above : uri env dir <:+ uri env (name :: dir) := List.suffix_cons name _
  have noFile : tree.node (uri env dir) ≠ some .file :=
    clear _ above (Path.ne_cons_self name _)
  apply keeps_bind (supports.keeps_listdir truthful true (clear.of_suffix above) noFile)
  intro names exactly
  split
  · rename_i member
    exact keeps_pure (iff_of_true rfl ((exactly name).mp member))
  · rename_i missing
    have absent : ¬tree.Contains (uri env (name :: dir)) := fun present =>
      missing ((exactly name).mpr present)
    apply keeps_bind (supports.setAbsent _ absent)
    exact fun _ _ => keeps_pure (iff_of_false Bool.false_ne_true absent)

end Supports

/-- Recording the absence of what a listing did not find. -/
theorem keeps_set_absent {path : Path} (absent : ¬ tree.Contains path) :
    Keeps (CacheTruthful tree) (PathCache.set env path false false) fun _ => True :=
  PathCache.keeps_set false (iff_of_false Bool.false_ne_true absent)

/-- Listings keep the cache truthful. -/
theorem supports_cacheTruthful : Supports env tree (CacheTruthful tree) where
  ofCache := fun _ _ sameCache truthful other entry found =>
    truthful other entry (sameCache ▸ found)
  get := fun path world truthful =>
    ⟨(PathCache.keeps_get env path world truthful).1, fun _ _ => trivial⟩
  setAbsent := fun _ absent => keeps_set_absent absent
  setExists := fun path names directory children =>
    PathCache.keeps_setExists (by simp [Tree.Contains, directory])
      fun item member => (children item).mp member

/-! ## One existence question -/

/-- The name of a path is in the tree, its own entry is missing or expired, and
its directory counts as listed: the one state in which `exists` answers from a
listing that it does not have any more. -/
def Forgotten (tree : Tree) (env : Environment) (world : World) (path : Path) : Prop :=
  tree.Contains (uri env path) ∧
    ∃ missed after, PathCache.get env (uri env path) world = (.ok none, missed) ∧
      PathCache.wasListed env (uri env path.split.1) missed = (.ok true, after)

/-- The cached part of `exists` is truthful about a path that is not forgotten. -/
theorem answerFromCache_spec {world : World} {path : Path}
    (cacheTruthful : CacheTruthful tree world) (kept : ¬ Forgotten tree env world path) :
    CacheTruthful tree (answerFromCache env path world).2 ∧
      ∀ answer, (answerFromCache env path world).1 = .ok (some answer) →
        (answer = true ↔ tree.Contains (uri env path)) := by
  rcases PathCache.keeps_get env (uri env path) world cacheTruthful with ⟨getKeeps, getTruthful⟩
  obtain ⟨result, missed, looked⟩ := PathCache.total_get env (uri env path) world
  rw [looked] at getKeeps getTruthful
  rw [answerFromCache]
  rw [bind_apply_ok looked]
  cases result with
  | some answer =>
      refine ⟨getKeeps, fun other same => ?_⟩
      cases same
      exact getTruthful (some answer) rfl answer rfl
  | none =>
      have listedKeeps :=
        (PathCache.keeps_wasListed env (uri env path.split.1) missed getKeeps).1
      obtain ⟨listed, after, asked⟩ :=
        PathCache.total_wasListed env (uri env path.split.1) missed
      rw [asked] at listedKeeps
      dsimp only
      rw [bind_apply_ok asked]
      cases listed with
      | false => exact ⟨listedKeeps, fun _ same => by cases same⟩
      | true =>
          have absent : ¬ tree.Contains (uri env path) := fun present =>
            kept ⟨present, missed, after, looked, asked⟩
          have recorded : Keeps (CacheTruthful tree)
              (do PathCache.setLocal env (uri env path) false; pure (some false))
              fun found => ∀ answer, found = some answer →
                (answer = true ↔ tree.Contains (uri env path)) := by
            apply keeps_bind (keeps_set_absent absent)
            intro _ _
            apply keeps_pure
            intro answer same
            cases same
            exact iff_of_false Bool.false_ne_true absent
          rcases recorded after listedKeeps with ⟨keeps, answers⟩
          exact ⟨keeps, fun answer same => answers (some answer) same answer rfl⟩

/-- The answer of `exists` to a path that is not forgotten, and the state it
leaves. -/
theorem existsPath_spec (truthful : env.Truthful tree) {world : World} {path : Path}
    (named : path ≠ []) (clear : tree.NoFileAbove (uri env path))
    (cacheTruthful : CacheTruthful tree world) (kept : ¬ Forgotten tree env world path) :
    CacheTruthful tree (existsPath env path world).2 ∧
      ∀ result, (existsPath env path world).1 = .ok result →
        (result = true ↔ tree.Contains (uri env path)) := by
  rcases answerFromCache_spec cacheTruthful kept with ⟨cacheKeeps, cacheAnswers⟩
  rw [existsPath]
  rw [bind_apply]
  cases outcome : answerFromCache env path world with
  | mk result after =>
      rw [outcome] at cacheKeeps cacheAnswers
      match result, cacheAnswers with
      | .error error, _ => exact ⟨cacheKeeps, fun _ same => by cases same⟩
      | .ok (some answer), cacheAnswers =>
          refine ⟨cacheKeeps, fun other same => ?_⟩
          cases same
          exact cacheAnswers answer rfl
      | .ok none, _ =>
          cases path with
          | nil => exact absurd rfl named
          | cons name dir =>
              exact supports_cacheTruthful.keeps_listParent truthful clear after cacheKeeps

/-- A forgotten path is reported absent. -/
theorem existsPath_of_forgotten {world : World} {path : Path}
    (forgotten : Forgotten tree env world path) :
    (existsPath env path world).1 = .ok false := by
  obtain ⟨_, missed, after, looked, asked⟩ := forgotten
  obtain ⟨_, recorded, stored⟩ :=
    PathCache.total_set env (uri env path) false false after
  have cached : answerFromCache env path world = (.ok (some false), recorded) := by
    rw [answerFromCache]
    rw [bind_apply_ok looked]
    dsimp only
    rw [bind_apply_ok asked]
    exact bind_apply_ok stored
  rw [existsPath]
  rw [bind_apply_ok cached]
  rfl

/-! ## Runs of calls -/

/-- A call of the interface that questions the storage without changing it. -/
inductive Call where
  | existsPath (path : Path)
  | listdir (path : Path) (silent : Bool)
  deriving DecidableEq, Repr

/-- A call of a run: below the base, under no regular file, and a listing only
of a directory or of a path that is not there. -/
def Call.Admissible (tree : Tree) (env : Environment) : Call → Prop
  | .existsPath path => path ≠ [] ∧ tree.NoFileAbove (uri env path)
  | .listdir path _ =>
      tree.NoFileAbove (uri env path) ∧ tree.node (uri env path) ≠ some .file

/-- The state a call leaves, whether it returns or raises. -/
def Call.exec (env : Environment) (world : World) : Call → World
  | .existsPath path => (GFALFileInterface.existsPath env path world).2
  | .listdir path silent => (GFALFileInterface.listdir env path silent world).2

/-- An existence question either raises or is answered truthfully. -/
def AnsweredTruthfully (tree : Tree) (env : Environment) (world : World) (call : Call) : Prop :=
  ∀ path, call = .existsPath path → ∀ result, (existsPath env path world).1 = .ok result →
    (result = true ↔ tree.Contains (uri env path))

/-- The call does not ask for a forgotten name. -/
def NotForgotten (tree : Tree) (env : Environment) (world : World) (call : Call) : Prop :=
  ∀ path, call = .existsPath path → ¬ Forgotten tree env world path

/-- A truthful cache answers one admissible call truthfully exactly when the
call does not ask for a forgotten name. -/
theorem answeredTruthfully_iff_notForgotten (truthful : env.Truthful tree) {world : World}
    {call : Call} (cacheTruthful : CacheTruthful tree world)
    (admissible : call.Admissible tree env) :
    AnsweredTruthfully tree env world call ↔ NotForgotten tree env world call := by
  constructor
  · intro answered path asked forgotten
    have wrong := answered path asked false (existsPath_of_forgotten forgotten)
    exact Bool.false_ne_true (wrong.mpr forgotten.1)
  · rintro kept path rfl
    exact (existsPath_spec truthful admissible.1 admissible.2 cacheTruthful (kept path rfl)).2

theorem cacheTruthful_exec (truthful : env.Truthful tree) {world : World} {call : Call}
    (cacheTruthful : CacheTruthful tree world) (admissible : call.Admissible tree env)
    (kept : NotForgotten tree env world call) : CacheTruthful tree (call.exec env world) := by
  cases call with
  | existsPath path =>
      exact (existsPath_spec truthful admissible.1 admissible.2 cacheTruthful (kept path rfl)).1
  | listdir path silent =>
      exact (supports_cacheTruthful.keeps_listdir truthful silent admissible.1 admissible.2 world
        cacheTruthful).1

/-- Over a tree that never changes, the existence questions of a run are all
answered truthfully exactly when none of them asks for a name of the tree whose
own entry is gone while its directory still counts as listed. -/
theorem answers_truthful_iff (truthful : env.Truthful tree) (calls : List Call)
    (admissible : ∀ call ∈ calls, call.Admissible tree env) :
    Along (Call.exec env) (AnsweredTruthfully tree env)
        World.initial calls ↔
      Along (Call.exec env) (NotForgotten tree env)
        World.initial calls := by
  refine along_iff_of_invariant ?_ ?_ (cacheTruthful_initial tree) admissible
  · intro world call cacheTruthful allowed
    exact answeredTruthfully_iff_notForgotten truthful cacheTruthful allowed
  · intro world call cacheTruthful allowed kept
    exact cacheTruthful_exec truthful cacheTruthful allowed kept

/-! ## A listing of the parent hides a file -/

/-- `/eos/a/b/f`, and nothing else. -/
def renewalTree : Tree where
  node path :=
    if path = ["f", "b", "a", "eos"] then some .file
    else if path ∈ [[], ["eos"], ["a", "eos"], ["b", "a", "eos"]] then some .directory
    else none
  parent_directory := by
    intro name dir present
    simp only [List.mem_cons, List.cons.injEq, reduceCtorEq, List.not_mem_nil, false_or,
      or_false] at present ⊢
    split at present
    · rename_i file
      simp [file.2]
    · split at present
      · rename_i directory
        rcases directory with ⟨_, rfl⟩ | ⟨_, rfl⟩ | ⟨_, rfl⟩ <;> simp
      · exact absurd rfl present

/-- The names in a directory of `renewalTree`. -/
def renewalNames : Path → List String
  | [] => ["eos"]
  | ["eos"] => ["a"]
  | ["a", "eos"] => ["b"]
  | ["b", "a", "eos"] => ["f"]
  | _ => []

/-- Every listing succeeds.  The clock stands at 0 s during the first call, at
500 s during the second and at 700 s from the third on; entries live 600 s. -/
def renewalEnv : Environment where
  clock index := if index < 2 then 0 else if index < 5 then 500 else 700
  answer _ path :=
    match renewalTree.node path with
    | none => .absent
    | some _ => .entries (renewalNames path)
  base := ["eos"]
  validityPeriod := 600

/-- List `a/b`, list its parent `a` before the entries expire, and ask for
`a/b/f` after its own entry has expired. -/
def renewalCalls : List Call :=
  [.listdir ["b", "a"] false, .listdir ["a"] false, .existsPath ["f", "b", "a"]]

theorem renewalEnv_truthful : renewalEnv.Truthful renewalTree := by
  intro index path
  simp only [renewalEnv]
  cases found : renewalTree.node path with
  | none => exact found
  | some kind =>
      cases kind with
      | file => exact Or.inl found
      | directory =>
          right
          refine ⟨found, fun name => ?_⟩
          have member : path ∈ [[], ["eos"], ["a", "eos"], ["b", "a", "eos"]] := by
            simp only [renewalTree] at found
            split at found
            · cases found
            · split at found
              · assumption
              · cases found
          simp only [List.mem_cons, List.not_mem_nil, or_false] at member
          rcases member with rfl | rfl | rfl | rfl <;>
            simp [renewalNames, renewalTree, Tree.Contains]

theorem renewalCalls_admissible :
    ∀ call ∈ renewalCalls, call.Admissible renewalTree renewalEnv := by
  have clear : ∀ path : Path, path ≠ ["f", "b", "a", "eos"] →
      renewalTree.node path ≠ some .file := by
    intro path different
    simp only [renewalTree, if_neg different]
    split <;> simp
  have noFile : ∀ path : Path, ¬ ["f", "b", "a", "eos"] <:+ path ∨ path = ["f", "b", "a", "eos"] →
      renewalTree.NoFileAbove path := by
    intro path above ancestor suffix different
    apply clear
    rintro rfl
    rcases above with none | rfl
    · exact none suffix
    · exact different rfl
  intro call member
  simp only [renewalCalls, List.mem_cons, List.not_mem_nil, or_false] at member
  rcases member with rfl | rfl | rfl
  · exact ⟨noFile _ (Or.inl (by decide)), clear _ (by decide)⟩
  · exact ⟨noFile _ (Or.inl (by decide)), clear _ (by decide)⟩
  · exact ⟨by decide, noFile _ (Or.inr rfl)⟩

/-- The exact condition at work on `renewalCalls`. -/
theorem answers_truthful_iff_renewal :
    Along (Call.exec renewalEnv)
        (AnsweredTruthfully renewalTree renewalEnv) World.initial renewalCalls ↔
      Along (Call.exec renewalEnv)
        (NotForgotten renewalTree renewalEnv) World.initial renewalCalls :=
  answers_truthful_iff renewalEnv_truthful renewalCalls renewalCalls_admissible

/-- Two listings, at 0 s and at 500 s, make `exists` deny at 700 s a file that
is there: the parent's listing renewed the listed flag of the directory but not
the entry of the file. -/
theorem renewal_hides_file :
    renewalEnv.Truthful renewalTree ∧ Monotone renewalEnv.clock ∧
      (∀ call ∈ renewalCalls, call.Admissible renewalTree renewalEnv) ∧
      ¬ Along (Call.exec renewalEnv)
        (AnsweredTruthfully renewalTree renewalEnv) World.initial renewalCalls := by
  refine ⟨renewalEnv_truthful, ?_, renewalCalls_admissible, ?_⟩
  · intro first second ordered
    simp only [renewalEnv]
    split_ifs <;> norm_num <;> omega
  · intro answered
    have last := along_iff_forall_cut.mp answered
      [.listdir ["b", "a"] false, .listdir ["a"] false] (.existsPath ["f", "b", "a"]) [] rfl
    have denied : (existsPath renewalEnv ["f", "b", "a"]
        (run (Call.exec renewalEnv) World.initial
          [.listdir ["b", "a"] false, .listdir ["a"] false])).1 = .ok false := by
      decide +kernel
    have wrong := last ["f", "b", "a"] rfl false denied
    exact Bool.false_ne_true (wrong.mpr (by decide))

end DSProd.Storage
