import DSProd.Library.Run
import DSProd.Library.Text

/-!
# Building the environment

`_dsprod_driver_env` and `_dsprod_vendor` of `env.sh`: two directories of
`soft/` that are built from a list of pins and record it in a marker, written
last.  One shell at a time; each command may fail, or be interrupted with the
shell, and leave its work half done.  A function that does not succeed is an
error that carries what it leaves of `soft/`.

The storage answers truly or not at all, so a listing that succeeds settles
whether a directory and its marker are there.
-/

namespace DSProd.Env

open DSProd.Library

/-! ## Pins -/

/-- A pin of the list: a word of the shell. -/
structure Pin where
  text : String
  some : text ≠ ""
  word : ' ' ∉ text.toList ∧ '\n' ∉ text.toList
  deriving DecidableEq

/-- The list that the two functions take, pip's pin first. -/
structure Pins where
  pip : Pin
  packages : List Pin
  deriving DecidableEq

/-- The pins as the words of a line. -/
def Pins.words (pins : Pins) : List String :=
  pins.pip.text :: pins.packages.map Pin.text

/-- `"$*"`, with `IFS` a space. -/
def Pins.line (pins : Pins) : String :=
  " ".intercalate pins.words

/-- What `printf '%s\n' "$*"` prints. -/
def Pins.marker (pins : Pins) : String :=
  pins.line ++ "\n"

/-! ## Directories -/

/-- What a directory holds besides its marker: less than all of a list, all of
it with compiled files among it, or all of it as it should be. -/
inductive Contents where
  | unfinished
  | compiled (pins : Pins)
  | complete (pins : Pins)
  deriving DecidableEq

/-- A directory, with the text of its `.installed`. -/
structure Copy where
  contents : Contents
  marker : Option String := none
  deriving DecidableEq

/-- `soft/`: `dsprod_env`, `vendor`, and the `vendor.tmp.*` next to it. -/
structure Soft where
  dsprodEnv : Option Copy := none
  vendor : Option Copy := none
  siblings : List Copy := []
  deriving DecidableEq

/-- A fresh clone. -/
def Soft.fresh : Soft :=
  {}

/-- What `_dsprod_installed` makes of a directory. -/
inductive Installed where
  | unreadable
  | absent
  | records (text : String)
  deriving DecidableEq

/-- The text that `_dsprod_installed` prints, as its callers read it. -/
def Installed.text : Installed → String
  | .records text => Text.dropNewlines text
  | _ => ""

/-- `_dsprod_installed`, where its listings and its reading are answered or not. -/
def installed (answered : Bool) (dir : Option Copy) : Installed :=
  match answered, dir with
  | false, _ => .unreadable
  | true, none => .absent
  | true, some copy => .records (copy.marker.getD "")

/-! ## How commands end -/

/-- What a removal that does not succeed leaves of a directory: nothing, or what
it has not come to. -/
inductive Leftover where
  | gone
  | left (touched unmarked : Bool)
  deriving DecidableEq

/-- What is left of a directory. -/
def Leftover.of (left : Leftover) (copy : Copy) : Option Copy :=
  match left with
  | .gone => none
  | .left touched unmarked =>
      some
        { contents := if touched then .unfinished else copy.contents
          marker := if unmarked then none else copy.marker }

/-- `rm -rf` of a directory. -/
inductive Removing where
  | done
  | stopped (left : Leftover)
  deriving DecidableEq

/-- The write of a marker: done, or cut short with no file or its first
characters in place. -/
inductive Marking where
  | done
  | stopped (written : Option Nat)
  deriving DecidableEq

/-- The marker that is left of a write that was cut short. -/
def cutMarker (pins : Pins) (written : Option Nat) : Option String :=
  written.map fun number => Text.take number pins.marker

/-- A rename.  One that fails has no effect; one that is interrupted may have. -/
inductive Renaming where
  | done
  | failed
  | interrupted (moved : Bool)
  deriving DecidableEq

/-- `mkdir` of the venv. -/
inductive Making where
  | done
  | stopped (made : Bool)
  deriving DecidableEq

/-- `find -exec rm -rf` of the siblings, or the removal of the old copy. -/
inductive Cleaning where
  | done
  | failed (left : List Copy)
  | interrupted (left : List Copy)
  deriving DecidableEq

/-- `pip install --target`: done, with compiled files among it or without, or
stopped, with a part of it in place or none. -/
inductive Filling where
  | done (compiled : Bool)
  | stopped (left : Bool)
  deriving DecidableEq

/-- `find -name "*.so" -delete`. -/
inductive Deleting where
  | done
  | failed
  | interrupted
  deriving DecidableEq

/-- A sourcing of `env.sh`: the pins of the checkout, whether it is a law batch
job, and how each of its commands ends. -/
structure Sourcing where
  pins : Pins
  inBatchJob : Bool := false
  envAnswered : Bool := true
  activatesOld : Bool := true
  removeEnv : Removing := .done
  makeEnv : Making := .done
  createsVenv : Bool := true
  activatesNew : Bool := true
  upgradesPip : Bool := true
  installsPackages : Bool := true
  markEnv : Marking := .done
  vendorAnswered : Bool := true
  cleanBefore : Cleaning := .done
  fill : Filling := .done true
  deleteCompiled : Deleting := .done
  markVendor : Marking := .done
  moveAside : Renaming := .done
  moveInPlace : Renaming := .done
  cleanAfter : Cleaning := .done
  -- whether the shell ignores the interrupt that `run_cmd` sends it
  ignoresInterrupt : Bool := false

/-! ## The driver environment -/

/-- A command whose failure ends the function, and which changes nothing that
is told of here. -/
def checked (succeeds : Bool) (soft : Soft) : Except Soft Soft :=
  if succeeds then .ok soft else .error soft

/-- `rm -rf "$dsprod_env"`, where it exists. -/
def removeEnv (sourcing : Sourcing) (soft : Soft) : Except Soft Soft :=
  match soft.dsprodEnv, sourcing.removeEnv with
  | none, _ => .ok soft
  | some _, .done => .ok { soft with dsprodEnv := none }
  | some copy, .stopped left => .error { soft with dsprodEnv := left.of copy }

/-- `mkdir "$dsprod_env"`. -/
def makeEnv (sourcing : Sourcing) (soft : Soft) : Except Soft Soft :=
  if soft.dsprodEnv.isSome then .error soft
  else
    match sourcing.makeEnv with
    | .done => .ok { soft with dsprodEnv := some ⟨.unfinished, none⟩ }
    | .stopped true => .error { soft with dsprodEnv := some ⟨.unfinished, none⟩ }
    | .stopped false => .error soft

/-- The venv, its pip and the packages. -/
def fillEnv (sourcing : Sourcing) (soft : Soft) : Except Soft Soft := do
  let soft ← checked sourcing.createsVenv soft
  let soft ← checked sourcing.activatesNew soft
  let soft ← checked sourcing.upgradesPip soft
  let soft ← checked sourcing.installsPackages soft
  return { soft with dsprodEnv := some ⟨.complete sourcing.pins, none⟩ }

/-- `printf '%s\n' "$*" > "$dsprod_env/.installed"`. -/
def markEnv (sourcing : Sourcing) (soft : Soft) : Except Soft Soft :=
  let contents := Contents.complete sourcing.pins
  match sourcing.markEnv with
  | .done => .ok { soft with dsprodEnv := some ⟨contents, some sourcing.pins.marker⟩ }
  | .stopped written =>
      .error { soft with dsprodEnv := some ⟨contents, cutMarker sourcing.pins written⟩ }

/-- `_dsprod_driver_env`. -/
def driverEnv (sourcing : Sourcing) (soft : Soft) : Except Soft Soft := do
  let found := installed sourcing.envAnswered soft.dsprodEnv
  if found = .unreadable then .error soft
  else if found.text = sourcing.pins.line then checked sourcing.activatesOld soft
  -- `_dsprod_may_build`
  else if sourcing.inBatchJob then .error soft
  else
    let soft ← removeEnv sourcing soft
    let soft ← makeEnv sourcing soft
    let soft ← fillEnv sourcing soft
    markEnv sourcing soft

/-! ## The vendored copy -/

/-- `soft/` with one more sibling. -/
def Soft.beside (soft : Soft) (building : Copy) : Soft :=
  { soft with siblings := building :: soft.siblings }

/-- The removal of what unfinished vendorings left. -/
def cleanBefore (sourcing : Sourcing) (soft : Soft) : Except Soft Soft :=
  match sourcing.cleanBefore with
  | .done => .ok { soft with siblings := [] }
  | .failed left => .error { soft with siblings := left }
  | .interrupted left => .error { soft with siblings := left }

/-- `pip install --target "$building"`. -/
def fillBuilding (sourcing : Sourcing) (soft : Soft) : Except Soft Copy :=
  match sourcing.fill with
  | .done true => .ok ⟨.compiled sourcing.pins, none⟩
  | .done false => .ok ⟨.complete sourcing.pins, none⟩
  | .stopped true => .error (soft.beside ⟨.unfinished, none⟩)
  | .stopped false => .error soft

/-- `find "$building" -name "*.so" -delete`, whose failure is not looked at. -/
def deleteCompiled (sourcing : Sourcing) (soft : Soft) (building : Copy) : Except Soft Copy :=
  match sourcing.deleteCompiled with
  | .done => .ok { building with contents := .complete sourcing.pins }
  | .failed => .ok building
  | .interrupted => .error (soft.beside building)

/-- `printf '%s\n' "$*" > "$building/.installed"`. -/
def markBuilding (sourcing : Sourcing) (soft : Soft) (building : Copy) : Except Soft Copy :=
  match sourcing.markVendor with
  | .done => .ok { building with marker := some sourcing.pins.marker }
  | .stopped written =>
      .error (soft.beside { building with marker := cutMarker sourcing.pins written })

/-- `mv "$vendor" "$building.old"`, where it exists. -/
def moveAside (sourcing : Sourcing) (soft : Soft) (building : Copy) : Except Soft Soft :=
  match soft.vendor, sourcing.moveAside with
  | none, _ => .ok soft
  | some old, .done => .ok { soft with vendor := none, siblings := old :: soft.siblings }
  | some old, .interrupted true =>
      .error (Soft.beside { soft with vendor := none, siblings := old :: soft.siblings } building)
  | some _, _ => .error (soft.beside building)

/-- `mv -T "$building" "$vendor"`. -/
def moveInPlace (sourcing : Sourcing) (soft : Soft) (building : Copy) : Except Soft Soft :=
  if soft.vendor.isSome then .error (soft.beside building)
  else
    match sourcing.moveInPlace with
    | .done => .ok { soft with vendor := some building }
    | .interrupted true => .error { soft with vendor := some building }
    | _ => .error (soft.beside building)

/-- `run_cmd rm -rf "$building.old"`. -/
def cleanAfter (sourcing : Sourcing) (soft : Soft) : Except Soft Soft :=
  match sourcing.cleanAfter with
  | .done => .ok { soft with siblings := [] }
  | .failed left =>
      if sourcing.ignoresInterrupt then .ok { soft with siblings := left }
      else .error { soft with siblings := left }
  | .interrupted left => .error { soft with siblings := left }

/-- `_dsprod_vendor`. -/
def vendor (sourcing : Sourcing) (soft : Soft) : Except Soft Soft := do
  let found := installed sourcing.vendorAnswered soft.vendor
  if found = .unreadable then .error soft
  else if found.text = sourcing.pins.line then .ok soft
  -- `_dsprod_may_build`
  else if sourcing.inBatchJob then .error soft
  else
    let soft ← cleanBefore sourcing soft
    let building ← fillBuilding sourcing soft
    let building ← deleteCompiled sourcing soft building
    let building ← markBuilding sourcing soft building
    let soft ← moveAside sourcing soft building
    let soft ← moveInPlace sourcing soft building
    cleanAfter sourcing soft

/-! ## Sourcing -/

/-- What a function leaves of `soft/`, whether it succeeds or not. -/
def left (outcome : Except Soft Soft) : Soft :=
  match outcome with
  | .ok soft => soft
  | .error soft => soft

/-- The two functions, as `action` calls them. -/
def build (soft : Soft) (sourcing : Sourcing) : Except Soft Soft := do
  let soft ← driverEnv sourcing soft
  vendor sourcing soft

/-- `soft/` after a sourcing. -/
def sourced (soft : Soft) (sourcing : Sourcing) : Soft :=
  left (build soft sourcing)

end DSProd.Env
