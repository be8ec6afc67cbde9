import DSProd.Tasks.Setup

/-!
# Branches and requirements

The branch maps of the tasks of `tasks.py`, and the requirements that name
branches of another task.  A branch map `dict(enumerate(values))` is the list of
its values, a branch number a position in it.  Required tasks are requested with
the parameters of the task itself, so they work on the same selection.
-/

namespace DSProd.Tasks

open DSProd.Library

variable {Params : Type}

/-! ## Numbering -/

/-- What a branch of `RunProd` produces: an era, the index of a point, and a
seed. -/
abbrev RunProdBranch := String × Nat × Nat

/-- `runprod_branches`. -/
def runprodBranches (eras : List String) (points : List (Point Params)) : List RunProdBranch :=
  eras.flatMap fun era =>
    points.zipIdx.flatMap fun indexed =>
      (List.range (indexed.1.nJobs era)).map fun job => (era, indexed.2, job + 1)

/-- `merge_groups`: the slices of a list of seeds that are merged into one file
each, with their indices. -/
def mergeGroups (seeds : List Nat) (filesPerMerge : Nat) : List (Nat × List Nat) :=
  (List.range ((seeds.length + filesPerMerge - 1) / filesPerMerge)).map fun group =>
    (group, (seeds.drop (group * filesPerMerge)).take filesPerMerge)

/-- `enumerate`, inverted: the positions of the values of a list. -/
def positions {α : Type} [DecidableEq α] (values : List α) : Dict α Nat :=
  Dict.ofList values.zipIdx

/-! ## Branch maps -/

/-- The branch map of `InstallCMSSW`. -/
def installCmsswBranches (selection : Selection Params) : List String :=
  selection.prodEras

/-- `gridpack_points`: the first point of every gridpack. -/
def gridpackPoints (gridpackName : Point Params → String) (selection : Selection Params) :
    List (Point Params) :=
  (selection.prodPoints.foldl (fun seen point => seen.setdefault (gridpackName point) point)
    (Dict.empty : Dict String (Point Params))).values

/-- The branch map of `MakeGridpack`. -/
def makeGridpackBranches (gridpackName : Point Params → String) (selection : Selection Params) :
    List (Point Params) :=
  gridpackPoints gridpackName selection

/-- `gridpack_index`. -/
def gridpackIndex (gridpackName : Point Params → String) (selection : Selection Params) :
    Dict String Nat :=
  positions ((gridpackPoints gridpackName selection).map gridpackName)

/-- The loop of `create_branch_map` of `PremixFileList`. -/
def erasWithPremix (conditions : Conditions) : List String → Except TaskError (List String)
  | [] => .ok []
  | era :: rest => do
      let dataset ← premixDatasetForEra conditions era
      let others ← erasWithPremix conditions rest
      if dataset.getD "" = "" then return others else return era :: others

/-- The branch map of `PremixFileList`. -/
def premixFileListBranches (selection : Selection Params) : Except TaskError (List String) :=
  erasWithPremix selection.setup.conditions selection.prodEras

/-- The branch map of `RunProd`. -/
def runProdBranchMap (selection : Selection Params) : List RunProdBranch :=
  runprodBranches selection.prodEras selection.prodPoints

/-- What a branch of `NanoMergeTask` merges. -/
structure MergeBranch where
  era : String
  pointIndex : Nat
  version : String
  group : Nat
  seeds : List Nat
  deriving DecidableEq

/-- The seeds of a point in an era. -/
def seedsOf (point : Point Params) (era : String) : List Nat :=
  List.range' 1 (point.nJobs era)

/-- The merge branches of a point in an era, of some versions. -/
def mergeBranchesOf (filesPerMerge : Nat) (era : String) (indexed : Point Params × Nat)
    (versions : List String) : List MergeBranch :=
  versions.flatMap fun version =>
    (mergeGroups (seedsOf indexed.1 era) filesPerMerge).map fun group =>
      ⟨era, indexed.2, version, group.1, group.2⟩

/-- The branch map of `NanoMergeTask`. -/
def nanoMergeBranchMap (selection : Selection Params) : Except TaskError (List MergeBranch) := do
  let byEra ← selection.prodEras.mapM fun era => do
    let byPoint ← selection.prodPoints.zipIdx.mapM fun indexed => do
      let versions ← eraNanoVersions selection era
      return mergeBranchesOf selection.setup.filesPerMerge era indexed versions
    return byPoint.flatten
  return byEra.flatten

/-! ## Requirements -/

/-- A lookup that raises when there is nothing to find. -/
def found {α : Type} (key : String) : Option α → Except TaskError α
  | none => .error (.missing key)
  | some value => .ok value

/-- `_runprod_index`. -/
def runprodIndex (selection : Selection Params) : Dict RunProdBranch Nat :=
  positions (runprodBranches selection.prodEras selection.prodPoints)

/-- `requires` of a branch of `NanoMergeTask`: the `RunProd` branch of each of
its seeds. -/
def nanoMergeRequires (selection : Selection Params) (branch : MergeBranch) :
    Except TaskError (List (Nat × Nat)) :=
  branch.seeds.mapM fun seed => do
    let required ← found branch.era
      ((runprodIndex selection).get? (branch.era, branch.pointIndex, seed))
    return (seed, required)

/-- The branches a branch of `RunProd` requires: of `InstallCMSSW`, of
`MakeGridpack`, and of `PremixFileList` where its era has one. -/
structure RunProdRequirements where
  cmssw : Nat
  gridpack : Nat
  premix : Option Nat
  deriving DecidableEq

/-- `requires` of a branch of `RunProd`. -/
def runProdRequires (gridpackName : Point Params → String) (selection : Selection Params)
    (branch : RunProdBranch) : Except TaskError RunProdRequirements := do
  let point ← found branch.1 selection.prodPoints[branch.2.1]?
  let gridpack ← found (gridpackName point)
    ((gridpackIndex gridpackName selection).get? (gridpackName point))
  let cmssw ← found branch.1 (selection.prodEras.idxOf? branch.1)
  let erasWithPremix ← premixFileListBranches selection
  if branch.1 ∈ erasWithPremix then
    let premix ← found branch.1 (erasWithPremix.idxOf? branch.1)
    return ⟨cmssw, gridpack, some premix⟩
  else return ⟨cmssw, gridpack, none⟩

end DSProd.Tasks
