import DSProd.Library.Run
import DSProd.Storage.Interface

/-!
# Writing through the interface

`GFALFileInterface.filecopy` of an upload and `remove`, over a storage that
changes: an operation comes with the tree it leaves, which is what the storage
did about it.  Uploads go through `gfal_copy_safe` by rename, so a failure may
leave directories it created and a temporary file, and the target as it was or
published; a removal that fails may have removed a part.
-/

namespace DSProd.Storage

open DSProd.Library

/-! ## Temporary names -/

/-- `is_copy_rename_tmp`, of the last component of a path. -/
def isCopyRenameTmp : Path → Bool
  | [] => false
  | name :: _ => name.toList.tails.any fun tail => ".dsprod-tmp-".toList.isPrefixOf tail

/-! ## The operations -/

namespace GFALFileInterface

variable (env : Environment)

/-- `filecopy` of a local file to a path of the storage; `copied` is how
`gfal_copy_safe` ends. -/
def filecopy (dst : Path) (copied : Except GfalError Unit) : GfalAction Unit := do
  let dstUri := uri env dst
  PathCache.set env dstUri false false
  match copied with
  | .error error => Action.raise error
  | .ok () => do
      PathCache.set env dstUri true false
      match ← PathCache.get env dstUri.split.1 with
      | some false => PathCache.set env dstUri.split.1 true false
      | _ => pure ()

/-- `remove`; `found` is what `gfal_exists` answers, and `removed` how
`gfal_rm` ends. -/
def remove (path : Path) (found : Bool) (removed : Except GfalError Unit) (silent : Bool) :
    GfalAction Bool :=
  match found, removed with
  | true, .error error => if silent then pure false else Action.raise error
  | _, _ => do
      PathCache.set env (uri env path) false false
      pure true

end GFALFileInterface

/-- An operation of the interface, with the tree that a write leaves. -/
inductive Operation where
  | existsPath (path : Path)
  | listdir (path : Path) (silent : Bool)
  | filecopy (dst : Path) (copied : Except GfalError Unit) (after : Tree)
  | remove (path : Path) (found : Bool) (removed : Except GfalError Unit) (silent : Bool)
      (after : Tree)

/-- An operation and the environment it runs in: what the clock reads and
`gfal-ls` answers meanwhile. -/
structure StorageStep where
  env : Environment
  operation : Operation

/-- The storage, and the interface it is modified through. -/
structure Site where
  tree : Tree
  world : World

/-- What the operation leaves of the storage and of the cache. -/
def StorageStep.exec (site : Site) (step : StorageStep) : Site :=
  match step.operation with
  | .existsPath path =>
      { site with world := (GFALFileInterface.existsPath step.env path site.world).2 }
  | .listdir path silent =>
      { site with world := (GFALFileInterface.listdir step.env path silent site.world).2 }
  | .filecopy dst copied after =>
      ⟨after, (GFALFileInterface.filecopy step.env dst copied site.world).2⟩
  | .remove path found removed silent after =>
      ⟨after, (GFALFileInterface.remove step.env path found removed silent site.world).2⟩

/-! ## What the storage does -/

/-- An upload: it creates directories above the target, leaves or clears
temporary files, and publishes the target, which it may have done too when it
fails. -/
structure Uploads (tree : Tree) (dst : Path) (succeeds : Bool) (after : Tree) : Prop where
  above : ∀ path, path <:+ dst → path ≠ dst → after.node path = tree.node path ∨
    (tree.node path = none ∧ after.node path = some .directory)
  elsewhere : ∀ path, ¬path <:+ dst → after.node path = tree.node path ∨
    (isCopyRenameTmp path = true ∧ tree.node path ≠ some .directory ∧
      after.node path ≠ some .directory)
  target : after.node dst = some .file ∨ (succeeds = false ∧ after.node dst = tree.node dst)

/-- A removal: what is gone is at or below the path, and all of it when the
removal succeeds. -/
structure Removes (tree : Tree) (path : Path) (found succeeds : Bool) (after : Tree) : Prop where
  below : ∀ other, after.node other = tree.node other ∨
    (found = true ∧ path <:+ other ∧ after.node other = none)
  all : found = true → succeeds = true → after.node path = none

/-- The clock of an operation reads no time that an entry of the cache could
have expired at, with nothing entered before a time. -/
def Environment.Within (opened : ℚ) (env : Environment) : Prop :=
  ∀ index, opened ≤ env.clock index ∧ env.clock index ≤ opened + env.validityPeriod

/-- The storage answers truthfully, within the validity of the cache, and does
what the operation asks of it or a part of that. -/
def Admissible (base : Path) (validity opened : ℚ) (site : Site) (step : StorageStep) : Prop :=
  step.env.base = base ∧ step.env.validityPeriod = validity ∧ step.env.Within opened ∧
    step.env.Truthful site.tree ∧
    match step.operation with
    | .existsPath path => path ≠ []
    | .listdir _ _ => True
    | .filecopy dst copied after => dst ≠ [] ∧ Uploads site.tree (dst ++ base) copied.isOk after
    | .remove path found removed _ after =>
        (found = true → site.tree.Contains (path ++ base)) ∧
          Removes site.tree (path ++ base) found removed.isOk after

/-- `exists` agrees with the storage about every path below no regular file
that is no temporary name, in whatever environment it is asked. -/
def ReadsTruly (base : Path) (validity opened : ℚ) (site : Site) : Prop :=
  ∀ env : Environment, env.base = base → env.validityPeriod = validity → env.Within opened →
    env.Truthful site.tree →
    ∀ path, path ≠ [] → isCopyRenameTmp (path ++ base) = false →
      site.tree.NoFileAbove (path ++ base) →
      ∀ result, (GFALFileInterface.existsPath env path site.world).1 = .ok result →
        (result = true ↔ site.tree.Contains (path ++ base))

/-! ## Which operations the cache keeps up with -/

/-- The cache has a positive entry of the path. -/
def CachedPresent (site : Site) (path : Path) : Prop :=
  ∃ entry, site.world.cache.get? path = some entry ∧ entry.pathExists = true

/-- The cache has a negative entry of the path. -/
def CachedAbsent (site : Site) (path : Path) : Prop :=
  ∃ entry, site.world.cache.get? path = some entry ∧ entry.pathExists = false

/-- The directory of the path counts as listed. -/
def ParentListed (site : Site) (path : Path) : Prop :=
  ∃ name dir entry, path = name :: dir ∧ site.world.cache.get? dir = some entry ∧
    entry.listed = true

/-- No regular file is listed; an upload creates no directory in a listed one,
and one that fails leaves nothing at its target and creates no directory that is
cached as absent; a removal takes nothing that is cached as present but its own
path, which is gone when it reports success. -/
def Careful (base : Path) (site : Site) (step : StorageStep) : Prop :=
  match step.operation with
  | .existsPath path => site.tree.NoFileAbove (path ++ base)
  | .listdir path _ =>
      site.tree.NoFileAbove (path ++ base) ∧ site.tree.node (path ++ base) ≠ some .file
  | .filecopy dst copied after =>
      (∀ path, path <:+ dst ++ base → path ≠ dst ++ base → ¬site.tree.Contains path →
        after.Contains path →
        ¬ParentListed site path ∧ (copied.isOk = false → ¬CachedAbsent site path)) ∧
      (copied.isOk = false → ¬after.Contains (dst ++ base))
  | .remove path found removed _ after =>
      (∀ other, isCopyRenameTmp other = false → site.tree.Contains other →
        ¬after.Contains other → (other = path ++ base → removed.isOk = false) →
        ¬CachedPresent site other) ∧
      (found = false → ¬site.tree.Contains (path ++ base))

end DSProd.Storage
