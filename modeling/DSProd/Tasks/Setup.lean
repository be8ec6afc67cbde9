import DSProd.Library.Dict
import Mathlib.Algebra.Order.Field.Rat
import Mathlib.Data.Rat.Floor

/-!
# Production setups and what a run selects of them

The points of `processes/base.py`, the conditions of `run_step.py`, and the
selection that `Task.__init__` of `tasks.py` makes of them.  The parameters of
a point are read by the process models only, so their type is a variable.
-/

namespace DSProd.Tasks

open DSProd.Library

/-! ## Patterns -/

/-- One item of a shell pattern. -/
inductive Glob where
  | many
  | one
  | literal (char : Char)
  | set (negated : Bool) (ranges : List (Char × Char))

/-- The ranges of a character set: `a-z`, or single characters. -/
def setRanges : List Char → List (Char × Char)
  | low :: '-' :: high :: rest => (low, high) :: setRanges rest
  | char :: rest => (char, char) :: setRanges rest
  | [] => []

/-- Split a character set from the rest of its pattern.  A bracket right at the
start of the set is one of its characters; a set that is not closed is none. -/
def splitSet : List Char → Option (List Char × List Char)
  | [] => none
  | first :: rest =>
      if ']' ∈ rest then
        some (first :: rest.takeWhile (· ≠ ']'), (rest.dropWhile (· ≠ ']')).drop 1)
      else none

/-- The items of a pattern, up to a number of them. -/
def parseGlob : Nat → List Char → List Glob
  | 0, _ => []
  | _, [] => []
  | fuel + 1, '*' :: rest => .many :: parseGlob fuel rest
  | fuel + 1, '?' :: rest => .one :: parseGlob fuel rest
  | fuel + 1, '[' :: '!' :: rest =>
      match splitSet rest with
      | some (chars, others) => .set true (setRanges chars) :: parseGlob fuel others
      | none => .literal '[' :: parseGlob fuel ('!' :: rest)
  | fuel + 1, '[' :: rest =>
      match splitSet rest with
      | some (chars, others) => .set false (setRanges chars) :: parseGlob fuel others
      | none => .literal '[' :: parseGlob fuel rest
  | fuel + 1, char :: rest => .literal char :: parseGlob fuel rest

/-- Whether a text matches the items of a pattern. -/
def matchGlob : List Glob → List Char → Bool
  | [], text => text.isEmpty
  | .many :: items, text => text.tails.any (matchGlob items)
  | .one :: items, _ :: text => matchGlob items text
  | .literal char :: items, first :: text => char = first && matchGlob items text
  | .set negated ranges :: items, first :: text =>
      (ranges.any fun range => range.1 ≤ first && first ≤ range.2) != negated &&
        matchGlob items text
  | _ :: _, [] => false

/-- `fnmatch.fnmatch`. -/
def fnmatch (name pattern : String) : Bool :=
  matchGlob (parseGlob pattern.length pattern.toList) name.toList

example : fnmatch "Radion_M-800" "*_M-[7-9]00" = true := by decide

/-- A pattern without wildcards. -/
def IsPlain (pattern : String) : Prop :=
  ∀ char ∈ pattern.toList, char ≠ '*' ∧ char ≠ '?' ∧ char ≠ '['

instance (pattern : String) : Decidable (IsPlain pattern) :=
  List.decidableBAll _ pattern.toList

theorem parseGlob_plain {chars : List Char}
    (plain : ∀ char ∈ chars, char ≠ '*' ∧ char ≠ '?' ∧ char ≠ '[') :
    parseGlob chars.length chars = chars.map .literal := by
  induction chars with
  | nil => rfl
  | cons char rest ih =>
      obtain ⟨notMany, notOne, notSet⟩ := plain char List.mem_cons_self
      rw [List.length_cons, List.map_cons,
        ← ih fun other member => plain other (List.mem_cons_of_mem char member)]
      rw [parseGlob]
      · exact notMany
      · exact notOne
      · exact fun _ isSet => absurd isSet notSet
      · exact notSet

theorem matchGlob_literals (chars text : List Char) :
    matchGlob (chars.map .literal) text = true ↔ text = chars := by
  induction chars generalizing text with
  | nil => simp [matchGlob]
  | cons char rest ih =>
      cases text with
      | nil => simp [matchGlob]
      | cons first others =>
          rw [List.map_cons, matchGlob, Bool.and_eq_true, decide_eq_true_eq, ih,
            List.cons.injEq, eq_comm]

/-- A pattern without wildcards matches itself and nothing else. -/
theorem fnmatch_plain_iff {name pattern : String} (plain : IsPlain pattern) :
    fnmatch name pattern = true ↔ name = pattern := by
  rw [fnmatch, ← String.length_toList, parseGlob_plain plain, matchGlob_literals,
    String.toList_inj]

/-! ## Errors -/

/-- Why a task cannot be built, or has no requirements. -/
inductive TaskError where
  | matchesNothing (option : String) (patterns : List String)
  | noEvents (eras : List String)
  | nothingToProduce (requested : List String) (era : String) (available : List String)
  | undefinedVersion (version era step : String)
  | missing (key : String)
  deriving DecidableEq

/-! ## Points -/

/-- `Point`: a physics point of a process. -/
structure Point (Params : Type) where
  name : String
  params : Params
  eventsTotal : Dict String ℤ
  eventsPerJob : ℤ
  deriving DecidableEq

variable {Params : Type}

/-- `n_events`. -/
def Point.nEvents (point : Point Params) (era : String) : ℤ :=
  point.eventsTotal.getD era 0

/-- `n_jobs`. -/
def Point.nJobs (point : Point Params) (era : String) : Nat :=
  if point.nEvents era ≤ 0 ∨ point.eventsPerJob ≤ 0 then 0
  else ⌈(point.nEvents era : ℚ) / point.eventsPerJob⌉.toNat

/-! ## Conditions -/

/-- The parameters of a step. -/
abbrev StepParams := Dict String String

/-- The parameters of a step in an era, and of the versions it has there. -/
structure StepConditions where
  params : StepParams
  versions : Option (Dict String StepParams)
  deriving DecidableEq

/-- The conditions of an era. -/
structure EraConditions where
  default : StepParams
  prodSteps : List String
  steps : Dict String StepConditions
  deriving DecidableEq

/-- The conditions file of a setup. -/
structure Conditions where
  default : StepParams
  defaultStep : Dict String StepParams
  eras : Dict String EraConditions
  deriving DecidableEq

/-- `resolve_step_params`. -/
def resolveStepParams (conditions : Conditions) (era step : String) (version : Option String) :
    Except TaskError StepParams :=
  match conditions.eras.get? era with
  | none => .error (.missing era)
  | some eraConditions =>
      let stepConditions := (eraConditions.steps.get? step).getD ⟨Dict.empty, none⟩
      let params :=
        ((conditions.default.update (conditions.defaultStep.getD step Dict.empty).items).update
          eraConditions.default.items).update stepConditions.params.items
      match version with
      | none => .ok params
      | some version =>
          match stepConditions.versions.bind fun versions => versions.get? version with
          | none => .error (.undefinedVersion version era step)
          | some extra => .ok (params.update extra.items)

/-- The loop of `premix_dataset_for_era` over the steps of an era. -/
def premixDatasetOf (conditions : Conditions) (era : String) :
    List String → Except TaskError (Option String)
  | [] => .ok none
  | step :: rest => do
      let params ← resolveStepParams conditions era step none
      let pileup := params.getD "pileup_input" ""
      if pileup.startsWith "dbs:" || pileup.startsWith "das:" then
        return some (String.ofList (pileup.toList.drop 4))
      else premixDatasetOf conditions era rest

/-- `premix_dataset_for_era`. -/
def premixDatasetForEra (conditions : Conditions) (era : String) :
    Except TaskError (Option String) :=
  match conditions.eras.get? era with
  | none => .error (.missing era)
  | some eraConditions => premixDatasetOf conditions era eraConditions.prodSteps

/-! ## Selection -/

/-- The `nano_versions` of a setup: by era with a default, or one list. -/
inductive NanoVersions where
  | perEra (versions : Dict String (List String))
  | everywhere (versions : List String)
  deriving DecidableEq

/-- What the tasks read of a setup; `points` are those its process enumerates. -/
structure Setup (Params : Type) where
  eras : List String
  points : List (Point Params)
  nanoVersions : NanoVersions := .perEra Dict.empty
  filesPerMerge : Nat := 20
  conditions : Conditions
  deriving DecidableEq

/-- The parameters of a task that select a part of its setup. -/
structure Options where
  eras : List String := []
  points : List String := []
  nanoVersions : List String := []
  test : ℤ := 0
  deriving DecidableEq

/-- `select_by_pattern`. -/
def selectByPattern {α : Type} (values : List α) (patterns : List String) (option : String)
    (key : α → String) : Except TaskError (List α) :=
  if patterns = [] then .ok values
  else
    let selected := values.filter fun value => patterns.any (fnmatch (key value))
    if selected = [] then .error (.matchesNothing option patterns) else .ok selected

/-- The point of a test run: one short job in every era that produces it. -/
def Point.shortened (point : Point Params) (test : ℤ) : Point Params :=
  { point with
    eventsTotal := (point.eventsTotal.filter fun _ total => 0 < total).mapValues fun _ _ => test
    eventsPerJob := test }

/-- `_select_points`, for the selected eras. -/
def selectPoints (points : List (Point Params)) (options : Options) (prodEras : List String) :
    Except TaskError (List (Point Params)) := do
  let matching ← selectByPattern points options.points "--points" Point.name
  let producing := matching.filter fun point => prodEras.any fun era => 0 < point.nEvents era
  if producing = [] then .error (.noEvents prodEras)
  else if 0 < options.test then return producing.map fun point => point.shortened options.test
  else return producing

/-- What a task works on: the eras and points its options select. -/
structure Selection (Params : Type) where
  setup : Setup Params
  options : Options
  prodEras : List String
  prodPoints : List (Point Params)
  deriving DecidableEq

/-- The selection part of `Task.__init__`. -/
def select (setup : Setup Params) (options : Options) : Except TaskError (Selection Params) := do
  let prodEras ← selectByPattern setup.eras options.eras "--eras" id
  let prodPoints ← selectPoints setup.points options prodEras
  return ⟨setup, options, prodEras, prodPoints⟩

/-- `era_nano_versions`. -/
def eraNanoVersions (selection : Selection Params) (era : String) :
    Except TaskError (List String) :=
  let versions :=
    match selection.setup.nanoVersions with
    | .perEra versions => versions.getD era (versions.getD "default" [])
    | .everywhere versions => versions
  if selection.options.nanoVersions = [] then .ok versions
  else
    let selected := versions.filter fun version => version ∈ selection.options.nanoVersions
    if selected = [] then
      .error (.nothingToProduce selection.options.nanoVersions era versions)
    else .ok selected

end DSProd.Tasks
