import DSProd.Storage.PathCache

/-!
# The gfal file interface

`GFALFileInterface.exists`, `listdir` and `_mark_absent_ancestors` over the
path cache, with the checked listing of `grid_tools.py` below them.  Paths are
given relative to the base of the interface, as its callers give them.
-/

namespace DSProd.Storage

open DSProd.Library

variable (env : Environment)

/-- `gfal_ls`: one call of the command, which raises unless it lists. -/
def gfalLs (path : Path) : GfalAction (List String) := fun world =>
  let after := { world with listings := world.listings + 1 }
  match env.answer world.listings path with
  | .failed => (.error (.failed path), after)
  | .absent => (.error (.absent path), after)
  | .entries names => (.ok names, after)

/-- `is_absent_error`. -/
def isAbsentError : GfalError → Bool
  | .absent _ => true
  | .failed _ => false

/-- The loop of `gfal_ls_checked`, by the number of attempts that are left. -/
def gfalLsAttempts (path : Path) : Nat → GfalAction (Option (List String))
  | 0 => Action.raise (.failed path)
  | attemptsLeft + 1 =>
      Action.recover (some <$> gfalLs env path) fun error =>
        if isAbsentError error then pure none
        else if attemptsLeft = 0 then Action.raise error
        else gfalLsAttempts path attemptsLeft

/-- `gfal_ls_checked` with its default of three attempts. -/
def gfalLsChecked (path : Path) : GfalAction (Option (List String)) :=
  gfalLsAttempts env path 3

namespace GFALFileInterface

/-- `self.uri(path, base=base)` for the interface's own base. -/
def uri (path : Path) : Path :=
  path ++ env.base

/-- The loop of `_mark_absent_ancestors`, by the climbs that are left. -/
def markAbsentAncestorsFrom : Nat → Path → GfalAction Unit
  | 0, _ => pure ()
  | _, [] => pure ()
  | _, [_] => pure ()
  | climbsLeft + 1, _ :: name :: dir => do
      match ← PathCache.get env (name :: dir) with
      | some _ => pure ()
      | none =>
          -- a listing that fails stops the climb without recording anything
          let entries ← Action.recover (some <$> gfalLsChecked env (name :: dir))
            fun _ => pure none
          match entries with
          | none => pure ()
          | some none => do
              PathCache.set env (name :: dir) false false
              markAbsentAncestorsFrom climbsLeft (name :: dir)
          | some (some names) => PathCache.setExists env (name :: dir) names

/-- `GFALFileInterface._mark_absent_ancestors`. -/
def markAbsentAncestors (dirUri : Path) : GfalAction Unit :=
  markAbsentAncestorsFrom env 32 dirUri

/-- `GFALFileInterface.listdir`. -/
def listdir (path : Path) (silent : Bool) : GfalAction (List String) := do
  let pathUri := uri env path
  match ← gfalLsChecked env pathUri with
  | none =>
      if silent then do
        PathCache.set env pathUri false false
        markAbsentAncestors env pathUri
        pure []
      else Action.raise (.absent pathUri)
  | some entryNames => do
      PathCache.setExists env pathUri entryNames
      pure entryNames

/-- The part of `exists` that answers without a listing: the cached answer of
the path, or absence inferred from a directory that counts as listed. -/
def answerFromCache (path : Path) : GfalAction (Option Bool) := do
  match ← PathCache.get env (uri env path) with
  | some answer => pure (some answer)
  | none =>
      if ← PathCache.wasListed env (uri env path.split.1) then do
        PathCache.setLocal env (uri env path) false
        pure (some false)
      else pure none

/-- `GFALFileInterface.exists`. -/
def existsPath (path : Path) : GfalAction Bool := do
  match ← answerFromCache env path with
  | some result => pure result
  | none => do
      let dirEntries ← listdir env path.split.1 true
      if path.split.2 ∈ dirEntries then pure true
      else do
        PathCache.set env (uri env path) false false
        pure false

end GFALFileInterface

end DSProd.Storage
