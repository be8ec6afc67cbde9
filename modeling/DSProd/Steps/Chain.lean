import DSProd.Steps.Counting

/-!
# The steps of a production job

`run_step`, `run_chain`, `run_nano`, `merge_params` and `hadd_nano` of
`run_step.py`.  What `cmsDriver.py` and `haddnano.py` do to the files of a job,
and whether they end well, is up to the shell; a step whose output does not
hold the events it was asked for is refused all the same.
-/

namespace DSProd.Steps

open DSProd.Library
open DSProd.Library.Text
open DSProd.Tasks

/-! ## One step -/

/-- What the first step of a job reads beside its parameters: the gridpack, the
fragment of the generator and the list of pileup files. -/
structure StepInputs where
  gridpack : Option String := none
  fragmentPath : String := ""
  pileupFilelist : Option String := none

/-- `_link_fragment`: the name of the fragment in the release. -/
def linkFragment (machine : Machine) (params : StepParams) (fragmentPath : String) :
    Except StepError String := do
  let _ ← cmsswDir machine params
  return "Configuration/GenProduction/python/" ++ basename fragmentPath

/-- The parameters that the command of a step names, in the order it reads them. -/
def driverKeys (step : String) : List String :=
  (if step = "LHEGS" then ["comEnergy", "beamspot"] else []) ++
    ["eventcontent", "datatier", "GlobalTag", "step", "geometry", "era"]

/-- The pileup that a step reads: what its parameters name, or the list that
stands for the dataset they name. -/
def pileupInput (params : StepParams) (pileupFilelist : Option String) : Option String :=
  let pileup := params.getD "pileup_input" ""
  if pileup = "" then none
  else match pileupFilelist with
    | none => some pileup
    | some list =>
        if pileup.startsWith "dbs:" || pileup.startsWith "das:" then some ("filelist:" ++ list)
        else some pileup

/-- `build_cmsdriver`, which raises where a parameter is missing. -/
def buildCmsdriver (step : String) (params : StepParams) (seed : Nat) (nEvt : ℤ)
    (filein fileout gridpack fragmentRel : Option String) (nThreads : ℤ)
    (pileupFilelist : Option String) : Except StepError Program := do
  let _ ← (driverKeys step).mapM (param params)
  return .cmsDriver step seed nEvt nThreads filein (fileout.getD (step ++ ".root")) gridpack
    fragmentRel (pileupInput params pileupFilelist)

/-- `assert_step_events`. -/
def assertStepEvents (machine : Machine) (shell : Shell) (step : String) (params : StepParams)
    (fileout : String) (nEvt : ℤ) : Action Local StepError Unit := do
  let counts ← countEvents machine shell params [join machine.workDir fileout] "Events"
  let produced := counts.headD 0
  if produced = nEvt then pure ()
  else Action.raise (.shortStep step nEvt fileout produced)

/-- `run_step`. -/
def runStep (machine : Machine) (shell : Shell) (step : String) (params : StepParams) (seed : Nat)
    (nEvt : ℤ) (filein fileout : Option String) (inputs : StepInputs) (nThreads : ℤ) :
    Action Local StepError Unit := do
  let fragmentRel ← Action.lift
    (if step = "LHEGS" then (linkFragment machine params inputs.fragmentPath).map some
      else .ok none)
  let driver ← Action.lift (buildCmsdriver step params seed nEvt filein fileout inputs.gridpack
    fragmentRel nThreads inputs.pileupFilelist)
  let entering ← Action.lift (cmsenvPrefix machine params)
  psCall shell ⟨params, entering, driver⟩
  match fileout with
  | none => pure ()
  | some fileout =>
      if nEvt = 0 then pure ()
      else assertStepEvents machine shell step params fileout nEvt

/-! ## The steps of a job -/

/-- The parameters of a step, or the error they raise. -/
def stepParams (conditions : Conditions) (era step : String) (version : Option String) :
    Except StepError StepParams :=
  match resolveStepParams conditions era step version with
  | .ok params => .ok params
  | .error error => .error (.task error)

/-- The loop of `run_chain` over its steps, from the file of the one before and
the path of the last one. -/
def chainSteps (machine : Machine) (shell : Shell) (conditions : Conditions) (era : String)
    (seed : Nat) (nEvt : ℤ) (inputs : StepInputs) (nThreads : ℤ) :
    List String → Option String → Option String → Action Local StepError (Option String)
  | [], _, lastOut => pure lastOut
  | step :: rest, prev, _ => do
      let out := step ++ ".root"
      let params ← Action.lift (stepParams conditions era step none)
      runStep machine shell step params seed nEvt prev (some out) inputs nThreads
      chainSteps machine shell conditions era seed nEvt inputs nThreads rest (some out)
        (some (join machine.workDir out))

/-- `list.index`. -/
def indexOf (steps : List String) (step : String) : Except StepError Nat :=
  if step ∈ steps then .ok (steps.idxOf step) else .error (.notListed step)

/-- The index of the first step of a chain, where it names one. -/
def firstIndex (prodSteps : List String) (firstStep : Option String) : Except StepError Nat :=
  match firstStep with
  | none => .ok 0
  | some step => if step = "" then .ok 0 else indexOf prodSteps step

/-- The steps from one to another. -/
def stepsBetween (prodSteps : List String) (firstStep : Option String) (lastStep : String) :
    Except StepError (List String) := do
  let i0 ← firstIndex prodSteps firstStep
  let i1 ← indexOf prodSteps lastStep
  return (prodSteps.take (i1 + 1)).drop i0

/-- `prod_steps` of an era. -/
def prodSteps (conditions : Conditions) (era : String) : Except StepError (List String) :=
  match conditions.eras.get? era with
  | none => .error (.missing era)
  | some eraConditions => .ok eraConditions.prodSteps

/-- `run_chain`. -/
def runChain (machine : Machine) (shell : Shell) (conditions : Conditions) (era : String)
    (firstStep : Option String) (lastStep : String) (seed : Nat) (nEvt : ℤ) (inputs : StepInputs)
    (nThreads : ℤ) : Action Local StepError (Option String) := do
  let listed ← Action.lift (prodSteps conditions era)
  let steps ← Action.lift (stepsBetween listed firstStep lastStep)
  chainSteps machine shell conditions era seed nEvt inputs nThreads steps none none

/-- `run_nano`. -/
def runNano (machine : Machine) (shell : Shell) (conditions : Conditions) (era version : String)
    (seed : Nat) (nEvt : ℤ) (miniaodFile : Option String) (nThreads : ℤ) :
    Action Local StepError String := do
  let params ← Action.lift (stepParams conditions era "NANO" (some version))
  let out := "NANO_" ++ version ++ ".root"
  match miniaodFile with
  | none => Action.raise .noFile
  | some miniaodFile =>
      runStep machine shell "NANO" params seed nEvt (some (basename miniaodFile)) (some out) {}
        nThreads
      pure (join machine.workDir out)

/-! ## Merging -/

/-- `merge_params`. -/
def mergeParams (params : StepParams) : StepParams :=
  let release := params.getD "merge_CMSSW" ""
  if release = "" then params
  else
    let moved := params.set "CMSSW" release
    let arch := params.getD "merge_SCRAM_ARCH" ""
    if arch = "" then moved else moved.set "SCRAM_ARCH" arch

/-- `hadd_nano`. -/
def haddNano (machine : Machine) (shell : Shell) (params : StepParams) (outPath : String)
    (inPaths : List String) : Action Local StepError Unit := do
  let entering ← Action.lift (cmsenvPrefix machine params)
  let command : Command := ⟨params, entering, .haddnano outPath inPaths⟩
  Action.recover (psCall shell command) fun error =>
    if error = .psCall command 127 then Action.raise (.haddMissing (params.getD "CMSSW" ""))
    else Action.raise error

/-! ## What a step delivers -/

variable {machine : Machine} {shell : Shell} {step : String} {params : StepParams} {seed : Nat}
  {nEvt nThreads : ℤ} {inputs : StepInputs} {conditions : Conditions} {era : String}

/-- A file that holds so many events. -/
def Holds (files : Files) (path : String) (nEvt : ℤ) : Prop :=
  ∃ events : Nat, entriesOf files "Events" path = some events ∧ (events : ℤ) = nEvt

/-- A ROOT file is none of the files that `count_events` keeps. -/
theorem root_notMem_countNames (stem : String) :
    join machine.workDir (stem ++ ".root") ∉ machine.countNames := by
  have endings : ∀ name ∈ ["_count_events.py", "_count_events_in.json", "_count_events_out.json"],
      name.toList.getLast? ≠ ".root".toList.getLast? := by decide
  intro member
  obtain ⟨name, kept, same⟩ := List.mem_map.mp member
  have ending := congrArg (fun text : String => text.toList.getLast?)
    (join_injective machine.workDir same)
  simp only [String.toList_append] at ending
  rw [List.getLast?_append_of_ne_nil _ (by decide)] at ending
  exact endings name kept ending

theorem holds_of_assertStepEvents {fileout : String} {state after : Local} {value : Unit}
    (apart : join machine.workDir fileout ∉ machine.countNames)
    (returned : assertStepEvents machine shell step params fileout nEvt state =
      (.ok value, after)) :
    Holds after.files (join machine.workDir fileout) nEvt := by
  obtain ⟨counts, counted, isCount, returned⟩ := Action.bind_eq_ok_iff.mp returned
  obtain ⟨counted', same⟩ := countEvents_true
    (fun path member => by rw [List.mem_singleton.mp member]; exact apart) isCount
  obtain ⟨events, found⟩ := Option.isSome_iff_exists.mp
    (counted' (join machine.workDir fileout) List.mem_cons_self)
  subst same
  simp only [List.map_cons, List.map_nil, List.headD_cons, found, Option.getD_some] at returned
  split at returned
  case isTrue asked =>
      obtain ⟨-, rfl⟩ := Action.pure_eq_ok_iff.mp returned
      refine ⟨events, ?_, asked⟩
      rw [entriesOf_congr (get?_of_countEvents apart isCount), found]
  case isFalse => cases returned

/-- A step that returns has left the events it was asked for, whatever its command did. -/
theorem holds_of_runStep {filein : Option String} {stem : String} {state after : Local}
    {value : Unit} (asked : nEvt ≠ 0)
    (returned : runStep machine shell step params seed nEvt filein (some (stem ++ ".root")) inputs
      nThreads state = (.ok value, after)) :
    Holds after.files (join machine.workDir (stem ++ ".root")) nEvt := by
  obtain ⟨_, _, _, returned⟩ := Action.bind_eq_ok_iff.mp returned
  obtain ⟨_, _, _, returned⟩ := Action.bind_eq_ok_iff.mp returned
  obtain ⟨_, _, _, returned⟩ := Action.bind_eq_ok_iff.mp returned
  obtain ⟨_, _, _, returned⟩ := Action.bind_eq_ok_iff.mp returned
  simp only [if_neg asked] at returned
  exact holds_of_assertStepEvents (root_notMem_countNames stem) returned

/-- The file that `run_nano` returns holds the events that were asked for. -/
theorem holds_of_runNano {version path : String} {miniaodFile : Option String}
    {state after : Local} (asked : nEvt ≠ 0)
    (returned : runNano machine shell conditions era version seed nEvt miniaodFile nThreads state =
      (.ok path, after)) :
    Holds after.files path nEvt := by
  obtain ⟨_, _, _, returned⟩ := Action.bind_eq_ok_iff.mp returned
  cases miniaodFile with
  | none => cases returned
  | some miniaodFile =>
      obtain ⟨_, _, ran, returned⟩ := Action.bind_eq_ok_iff.mp returned
      obtain ⟨rfl, rfl⟩ := Action.pure_eq_ok_iff.mp returned
      exact holds_of_runStep asked ran

end DSProd.Steps
