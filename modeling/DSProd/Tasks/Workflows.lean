import DSProd.Library.Text
import DSProd.Tasks.Branches

/-!
# Workflows and where they keep their books

Every workflow of `tasks.py` with its branch map and the outputs it declares
for a branch, and `store_parts`, the directory of its job data and of its
watchdog flags.  The process names the gridpacks, so their names are a
parameter; so are the word characters of a regular expression and the first six
digits of a SHA-1 sum.
-/

namespace DSProd.Tasks

open DSProd.Library

variable {Params : Type}

/-! ## Names -/

/-- The workflows that number branches. -/
inductive TaskClass where
  | installCMSSW
  | importGridpack
  | makeGridpack
  | premixFileList
  | runProd
  | nanoMergeTask
  | backfillProducedRecords
  deriving DecidableEq

/-- `__class__.__name__`. -/
def TaskClass.name : TaskClass → String
  | installCMSSW => "InstallCMSSW"
  | importGridpack => "ImportGridpack"
  | makeGridpack => "MakeGridpack"
  | premixFileList => "PremixFileList"
  | runProd => "RunProd"
  | nanoMergeTask => "NanoMergeTask"
  | backfillProducedRecords => "BackfillProducedRecords"

/-- What names a production: the stem of its setup file, its `output`, and the
gridpacks of its process. -/
structure Naming (Params : Type) where
  setupName : String
  output : Option String
  gridpackName : Point Params → String

/-- `sorted` of texts. -/
def sortedTexts (texts : List String) : List String :=
  texts.mergeSort fun first second => first ≤ second

/-- What identifies a list of patterns: the patterns in order, between commas. -/
def joinedPatterns (patterns : List String) : String :=
  ",".intercalate (sortedTexts patterns)

/-- The readable part of a directory name. -/
def slug (isWord : Char → Bool) (patterns : List String) : String :=
  Text.take 24 (String.ofList ((String.join (sortedTexts patterns)).toList.filter isWord))

/-- One turn of the loop of `store_parts`. -/
def appendPatterns (isWord : Char → Bool) (sha6 : String → String) (name : String)
    (patterns : List String) : String :=
  if patterns = [] then name
  else name ++ "_" ++ slug isWord patterns ++ sha6 (joinedPatterns patterns)

/-- `store_parts`. -/
def storeParts (isWord : Char → Bool) (sha6 : String → String) (task : TaskClass)
    (setupName : String) (options : Options) : String × String :=
  let name := [options.eras, options.points].foldl (appendPatterns isWord sha6) setupName
  let name := if 0 < options.test then name ++ "_test" ++ toString options.test else name
  (task.name, name)

/-! ## Targets -/

/-- The file systems of the targets: the analysis data and the storage. -/
inductive Area where
  | analysisData
  | fsDefault
  deriving DecidableEq

/-- A target, by the components of its path. -/
structure Target where
  area : Area
  parts : List String
  deriving DecidableEq

section Targets

variable (naming : Naming Params) (options : Options)

/-- `prod_storage_name`. -/
def prodStorageName : String :=
  naming.output.getD naming.setupName

/-- `storage_name`. -/
def storageName : String :=
  if 0 < options.test then prodStorageName naming ++ "_test" else prodStorageName naming

/-- `storage_target`. -/
def storageTarget (parts : List String) : Target :=
  ⟨.fsDefault, storageName naming options :: parts⟩

/-- `staged_nano_target`. -/
def stagedNanoTarget (era : String) (point : Point Params) (version : String) (seed : Nat) :
    Target :=
  storageTarget naming options
    ["staging", s!"nanoAOD_{version}", era, point.name, s!"nano_{version}_{seed}.root"]

/-- `produced_nano_target`. -/
def producedNanoTarget (era : String) (point : Point Params) (version : String) (seed : Nat) :
    Target :=
  storageTarget naming options
    ["produced", s!"nanoAOD_{version}", era, point.name, s!"nano_{version}_{seed}.json"]

/-- `merged_nano_target`. -/
def mergedNanoTarget (era : String) (point : Point Params) (version : String) (group : Nat) :
    Target :=
  storageTarget naming options
    [s!"nanoAOD_{version}", era, point.name, s!"nano_{version}_{group}.root"]

/-- `premix_target`. -/
def premixTarget (era : String) : Target :=
  ⟨.fsDefault, [prodStorageName naming, "premix", s!"{era}.txt"]⟩

/-- `gridpack_target`. -/
def gridpackTarget (gridpackName : String) : Target :=
  ⟨.fsDefault, [prodStorageName naming, "gridpacks", gridpackName, "gridpack.tar.xz"]⟩

/-- `local_target`. -/
def localTarget (isWord : Char → Bool) (sha6 : String → String) (task : TaskClass)
    (path : String) : Target :=
  let parts := storeParts isWord sha6 task naming.setupName options
  ⟨.analysisData, [parts.1, parts.2, path]⟩

/-- `heartbeat_target`.  The flags may be kept on the file system of the products. -/
def heartbeatTarget (isWord : Char → Bool) (sha6 : String → String) (task : TaskClass)
    (branch : Nat) : Target :=
  let parts := storeParts isWord sha6 task naming.setupName options
  storageTarget naming options ["heartbeat", s!"{parts.1}_{parts.2}", toString branch]

end Targets

/-! ## Workflows -/

/-- What `output` returns: a target, or one for each version. -/
inductive Outputs where
  | one (target : Target)
  | perVersion (targets : List (String × Target))
  deriving DecidableEq

/-- A workflow: `create_branch_map`, and `output` of a branch. -/
structure Workflow (Params : Type) where
  Branch : Type
  createBranchMap : Selection Params → Except TaskError (List Branch)
  output : Selection Params → Branch → Except TaskError Outputs

/-- The branches of a run by their numbers, and what each declares. -/
def Workflow.declared (workflow : Workflow Params) (selection : Selection Params) :
    Except TaskError (List (workflow.Branch × Outputs)) := do
  let branches ← workflow.createBranchMap selection
  branches.mapM fun branch => do
    let outputs ← workflow.output selection branch
    return (branch, outputs)

/-- The branch map of `BackfillProducedRecords`. -/
def backfillBranchMap (selection : Selection Params) :
    Except TaskError (List (String × Nat × String)) := do
  let byEra ← selection.prodEras.mapM fun era => do
    let byPoint ← selection.prodPoints.zipIdx.mapM fun indexed => do
      let versions ← eraNanoVersions selection era
      return versions.map fun version => (era, indexed.2, version)
    return byPoint.flatten
  return byEra.flatten

section Classes

variable (isWord : Char → Bool) (sha6 : String → String) (naming : Naming Params)

/-- `InstallCMSSW`. -/
def installCMSSW : Workflow Params where
  Branch := String
  createBranchMap selection := .ok (installCmsswBranches selection)
  output selection era :=
    .ok (.one (localTarget naming selection.options isWord sha6 .installCMSSW s!"{era}.installed"))

/-- `GridpackTask`, of which `ImportGridpack` and `MakeGridpack` have the branch
map and the output. -/
def gridpackTask : Workflow Params where
  Branch := Point Params
  createBranchMap selection := .ok (makeGridpackBranches naming.gridpackName selection)
  output _ point := .ok (.one (gridpackTarget naming (naming.gridpackName point)))

/-- `PremixFileList`. -/
def premixFileList : Workflow Params where
  Branch := String
  createBranchMap := premixFileListBranches
  output _ era := .ok (.one (premixTarget naming era))

/-- `RunProd`. -/
def runProd : Workflow Params where
  Branch := RunProdBranch
  createBranchMap selection := .ok (runProdBranchMap selection)
  output selection branch := do
    let point ← found branch.1 selection.prodPoints[branch.2.1]?
    let versions ← eraNanoVersions selection branch.1
    return .perVersion (versions.map fun version => (version,
      producedNanoTarget naming selection.options branch.1 point version branch.2.2))

/-- `NanoMergeTask`. -/
def nanoMergeTask : Workflow Params where
  Branch := MergeBranch
  createBranchMap := nanoMergeBranchMap
  output selection branch := do
    let point ← found branch.era selection.prodPoints[branch.pointIndex]?
    return .one (mergedNanoTarget naming selection.options branch.era point branch.version
      branch.group)

/-- `BackfillProducedRecords`. -/
def backfillProducedRecords : Workflow Params where
  Branch := String × Nat × String
  createBranchMap := backfillBranchMap
  output selection branch := do
    let point ← found branch.1 selection.prodPoints[branch.2.1]?
    return .one (storageTarget naming selection.options
      ["produced", s!"nanoAOD_{branch.2.2}", branch.1, point.name, "backfill.done"])

/-- The workflow of a class. -/
def TaskClass.workflow : TaskClass → Workflow Params
  | .installCMSSW => DSProd.Tasks.installCMSSW isWord sha6 naming
  | .importGridpack => gridpackTask naming
  | .makeGridpack => gridpackTask naming
  | .premixFileList => DSProd.Tasks.premixFileList naming
  | .runProd => DSProd.Tasks.runProd naming
  | .nanoMergeTask => DSProd.Tasks.nanoMergeTask naming
  | .backfillProducedRecords => DSProd.Tasks.backfillProducedRecords naming

end Classes

/-! ## Runs that share a directory -/

/-- The runs of two parameter choices that keep their books in one directory
number the same branches and declare the same outputs, in every setup that
accepts both. -/
def SharedRunsAgree (Params : Type) (isWord : Char → Bool) (sha6 : String → String)
    (task : TaskClass) (first second : Options) : Prop :=
  ∀ (naming : Naming Params) (setup : Setup Params) (selection other : Selection Params),
    select setup first = .ok selection → select setup second = .ok other →
    storeParts isWord sha6 task naming.setupName first =
      storeParts isWord sha6 task naming.setupName second →
    ∀ run otherRun, (task.workflow isWord sha6 naming).declared selection = .ok run →
      (task.workflow isWord sha6 naming).declared other = .ok otherRun → run = otherRun

/-! ## What a choice selects -/

/-- Whether patterns select a name: one matches it, or there are none. -/
def Selects (patterns : List String) (name : String) : Prop :=
  patterns = [] ∨ patterns.any (fnmatch name) = true

instance (patterns : List String) (name : String) : Decidable (Selects patterns name) :=
  inferInstanceAs (Decidable (_ ∨ _))

/-- Whether `--nano-versions` keeps a version. -/
def KeepsVersion (nanoVersions : List String) (version : String) : Prop :=
  nanoVersions = [] ∨ version ∈ nanoVersions

instance (nanoVersions : List String) (version : String) :
    Decidable (KeepsVersion nanoVersions version) :=
  inferInstanceAs (Decidable (_ ∨ _))

/-- The workflows that number by points too. -/
def TaskClass.ByPoint : TaskClass → Prop
  | installCMSSW | premixFileList => False
  | _ => True

/-- The workflows that work on versions. -/
def TaskClass.ByVersion : TaskClass → Prop
  | runProd | nanoMergeTask | backfillProducedRecords => True
  | _ => False

/-- Two choices select the same, as far as a workflow works on it: the same
eras; the same points, both of a test or both of a production; and the same
versions. -/
structure SelectAlike (task : TaskClass) (first second : Options) : Prop where
  eras : ∀ name, Selects first.eras name ↔ Selects second.eras name
  points : task.ByPoint → ∀ name, Selects first.points name ↔ Selects second.points name
  test : task.ByPoint → (0 < first.test ↔ 0 < second.test)
  versions : task.ByVersion →
    ∀ version, KeepsVersion first.nanoVersions version ↔ KeepsVersion second.nanoVersions version

/-- Some setup accepts a choice: its patterns match something. -/
def Options.Acceptable (options : Options) : Prop :=
  (∃ era, Selects options.eras era) ∧ ∃ point, Selects options.points point

end DSProd.Tasks
