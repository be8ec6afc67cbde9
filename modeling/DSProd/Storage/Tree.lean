import DSProd.Library.Action
import Mathlib.Data.Rat.Defs
import Mathlib.Algebra.Order.Ring.Unbundled.Rat

/-!
# Directory trees and their listings

A path is the list of its components, the last one first, so the directory of
`name :: dir` is `dir`.  A tree says which paths exist and as what; everything
that exists lies in a directory, which is a field of the structure.

The storage is asked through `gfal-ls`.  One call lists the names of a
directory, says that there is no such path, or fails for any other reason; the
answers of a run, and the readings of the clock, come from an environment.
-/

namespace DSProd.Storage

open DSProd.Library

/-- A storage path, last component first. -/
abbrev Path := List String

/-- Paths are looked up in lists. -/
instance : LawfulBEq Path :=
  inferInstance

/-- `os.path.split`: the directory and the last component.  The empty path
splits into two empty halves. -/
def Path.split : Path → Path × String
  | [] => ([], "")
  | name :: dir => (dir, name)

/-- `PathCache._iter_parents`: the proper ancestors, the nearest first.  The
climb stops when `dirname` has nothing left, so the empty path is not one. -/
def Path.iterParents : Path → List Path
  | [] => []
  | [_] => []
  | _ :: name :: dir => (name :: dir) :: Path.iterParents (name :: dir)

/-- What a path that exists is. -/
inductive Kind where
  | file
  | directory
  deriving DecidableEq, Repr

/-- A directory tree: what exists, with everything that exists in a directory. -/
structure Tree where
  node : Path → Option Kind
  parent_directory : ∀ name dir, node (name :: dir) ≠ none → node dir = some .directory

namespace Tree

/-- Whether a path is in the tree. -/
def Contains (tree : Tree) (path : Path) : Prop :=
  tree.node path ≠ none

instance (tree : Tree) (path : Path) : Decidable (tree.Contains path) :=
  inferInstanceAs (Decidable (_ ≠ _))

/-- None of the proper ancestors of a path is a regular file. -/
def NoFileAbove (tree : Tree) (path : Path) : Prop :=
  ∀ ancestor, ancestor <:+ path → ancestor ≠ path → tree.node ancestor ≠ some .file

theorem contains_of_suffix {tree : Tree} {path ancestor : Path} (present : tree.Contains path)
    (above : ancestor <:+ path) : tree.Contains ancestor := by
  induction path with
  | nil => rwa [List.suffix_nil.mp above]
  | cons name dir ih =>
      rcases List.suffix_cons_iff.mp above with rfl | further
      · exact present
      · apply ih _ further
        have parent := tree.parent_directory name dir present
        simp [Contains, parent]

theorem NoFileAbove.of_suffix {tree : Tree} {path ancestor : Path}
    (clear : tree.NoFileAbove path) (above : ancestor <:+ path) : tree.NoFileAbove ancestor := by
  intro higher higherAbove different
  apply clear higher (higherAbove.trans above)
  rintro rfl
  exact different (higherAbove.eq_of_length_le above.length_le)

/-- The tree of some files.  What is above one of them is a directory. -/
def ofFiles (files : List Path) : Tree where
  node path :=
    if ∃ file ∈ files, path <:+ file ∧ path ≠ file then some .directory
    else if path ∈ files then some .file
    else none
  parent_directory := by
    intro name dir present
    have above : ∃ file ∈ files, name :: dir <:+ file := by
      by_contra none
      have noDirectory : ¬∃ file ∈ files, name :: dir <:+ file ∧ name :: dir ≠ file :=
        fun ⟨file, member, below, _⟩ => none ⟨file, member, below⟩
      have noFile : name :: dir ∉ files := fun member => none ⟨_, member, List.suffix_refl _⟩
      rw [if_neg noDirectory, if_neg noFile] at present
      exact present rfl
    obtain ⟨file, member, below⟩ := above
    apply if_pos
    refine ⟨file, member, (List.suffix_cons name dir).trans below, ?_⟩
    rintro rfl
    exact absurd below.length_le (by simp)

theorem contains_ofFiles {files : List Path} {path : Path} :
    (ofFiles files).Contains path ↔ ∃ file ∈ files, path <:+ file := by
  rw [Contains, ofFiles]
  dsimp only
  split
  · rename_i directory
    obtain ⟨file, member, below, _⟩ := directory
    exact iff_of_true (Option.some_ne_none _) ⟨file, member, below⟩
  · rename_i noDirectory
    split
    · rename_i member
      exact iff_of_true (Option.some_ne_none _) ⟨path, member, List.suffix_refl path⟩
    · rename_i noFile
      apply iff_of_false (not_not.mpr rfl)
      rintro ⟨file, member, below⟩
      by_cases same : path = file
      · exact noFile (same ▸ member)
      · exact noDirectory ⟨file, member, below, same⟩

end Tree

/-- The parent of a cons path is a proper ancestor. -/
theorem Path.ne_cons_self (name : String) (dir : Path) : dir ≠ name :: dir := by
  intro same
  simpa using congrArg List.length same

theorem Path.suffix_of_mem_iterParents {path parent : Path} (member : parent ∈ path.iterParents) :
    parent <:+ path := by
  induction path using Path.iterParents.induct with
  | case1 => simp [Path.iterParents] at member
  | case2 => simp [Path.iterParents] at member
  | case3 first name dir ih =>
      rw [Path.iterParents, List.mem_cons] at member
      rcases member with rfl | higher
      · exact List.suffix_cons first _
      · exact (ih higher).trans (List.suffix_cons first _)

/-- The answer of one `gfal-ls`. -/
inductive Listing where
  | failed
  | absent
  | entries (names : List String)
  deriving DecidableEq, Repr

/-- An answer that a tree bears out: "no such file" only for a path that is not
there, and the names of a directory exactly.  Listing a regular file prints
that file, which nothing here relies on. -/
def Listing.Truthful (tree : Tree) (path : Path) : Listing → Prop
  | failed => True
  | absent => tree.node path = none
  | entries names =>
      tree.node path = some .file ∨
        tree.node path = some .directory ∧
          ∀ name, name ∈ names ↔ tree.Contains (name :: path)

/-- What a run does not decide itself: the readings of the clock and the
answers of `gfal-ls`, each by its index in the run, and the two settings of
the interface. -/
structure Environment where
  clock : Nat → ℚ
  answer : Nat → Path → Listing
  base : Path
  validityPeriod : ℚ

/-- Every answer of the storage is borne out by the tree. -/
def Environment.Truthful (env : Environment) (tree : Tree) : Prop :=
  ∀ index path, (env.answer index path).Truthful tree path

end DSProd.Storage
