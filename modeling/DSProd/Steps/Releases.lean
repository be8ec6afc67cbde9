import DSProd.Library.Run
import DSProd.Steps.Chain
import DSProd.Tasks.Numbering
import Mathlib.Data.List.Dedup
import Mathlib.Data.List.Sort

/-!
# The releases that jobs enter

`cmssw_releases_for_era` and `InstallCMSSW` of `tasks.py`, `do_install_cmssw` of
`env.sh`, and the commands of a production job.  A release is built once, in a
directory of its version, and marked last; a command of an installation may
fail or be interrupted anywhere and leave its work half done.
-/

namespace DSProd.Steps

open DSProd.Library
open DSProd.Tasks

/-! ## The releases of an era -/

/-- `SCRAM_ARCH` and `CMSSW`. -/
abbrev Release := String × String

/-- The release that some parameters name. -/
def releaseOf (params : StepParams) : Except StepError Release := do
  let arch ← param params "SCRAM_ARCH"
  let cmssw ← param params "CMSSW"
  return (arch, cmssw)

/-- The releases of the nano versions of an era: those they run in, and those they are merged in. -/
def nanoReleases (conditions : Conditions) (era : String) :
    List String → Except StepError (List Release)
  | [] => .ok []
  | version :: rest => do
      let params ← stepParams conditions era "NANO" (some version)
      let nano ← releaseOf params
      let merge ← releaseOf (mergeParams params)
      let others ← nanoReleases conditions era rest
      return nano :: merge :: others

/-- `conditions[era]["NANO"].get("versions", {})`. -/
def nanoVersionsOf (conditions : Conditions) (era : String) : Except StepError (List String) :=
  match (conditions.eras.get? era).bind fun eraConditions => eraConditions.steps.get? "NANO" with
  | none => .error (.missing "NANO")
  | some nano => .ok ((nano.versions.map Dict.keys).getD [])

/-- The loop body of `cmssw_releases_for_era`. -/
def releasesOfStep (conditions : Conditions) (era step : String) :
    Except StepError (List Release) :=
  if step = "NANO" then do
    let versions ← nanoVersionsOf conditions era
    nanoReleases conditions era versions
  else do
    let params ← stepParams conditions era step none
    let release ← releaseOf params
    return [release]

/-- The loop of `cmssw_releases_for_era` over the steps of an era. -/
def stepReleases (conditions : Conditions) (era : String) :
    List String → Except StepError (List Release)
  | [] => .ok []
  | step :: rest => do
      let here ← releasesOfStep conditions era step
      let others ← stepReleases conditions era rest
      return here ++ others

/-- The order of the releases in a sorted list. -/
def Release.le (first second : Release) : Bool :=
  first.1 < second.1 || (first.1 = second.1 && first.2 ≤ second.2)

/-- `cmssw_releases_for_era`. -/
def cmsswReleasesForEra (conditions : Conditions) (era : String) :
    Except StepError (List Release) := do
  let steps ← prodSteps conditions era
  let releases ← stepReleases conditions era steps
  return releases.dedup.mergeSort Release.le

/-! ## Installing them -/

/-- A directory of `soft/` for a release: the architecture it is completely
built for, and whether it has its `.installed`. -/
structure Area where
  built : Option String
  marked : Bool
  deriving DecidableEq

/-- How much of its work a command that does not succeed has done. -/
inductive Extent where
  | whole
  | part
  | nothing
  deriving DecidableEq

/-- How a command of an installation ends: done, failed, or lost with its shell. -/
inductive CommandFate where
  | done
  | failed (extent : Extent)
  | lost (extent : Extent)
  deriving DecidableEq

/-- The commands of `do_install_cmssw` on a directory that has no marker: those
before `rm -rf`, it, `scramv1 project` with the setup of the area, `scram b`, and
`touch`. -/
inductive InstallCommand where
  | prepare
  | remove
  | create
  | build
  | mark
  deriving DecidableEq

/-- What a command makes of the directory.  `clean` says that no command before
it failed: what is built after one that did may lack anything. -/
def InstallCommand.work (arch : String) (clean : Bool) (area : Option Area) :
    InstallCommand → Extent → Option Area
  | _, .nothing => area
  | .prepare, _ => area
  | .remove, .whole => none
  | .remove, .part => area.map fun _ => ⟨none, false⟩
  | .create, _ => some ⟨none, false⟩
  | .build, .whole => area.map fun _ => ⟨if clean then some arch else none, false⟩
  | .build, .part => area.map fun _ => ⟨none, false⟩
  | .mark, .whole => area.map fun old => { old with marked := true }
  | .mark, .part => area

/-- An installation: how each of its commands ends. -/
structure Installing where
  prepare : CommandFate := .done
  remove : CommandFate := .done
  create : CommandFate := .done
  build : CommandFate := .done
  mark : CommandFate := .done
  -- whether its shells ignore the interrupt that `run_cmd` sends them
  ignoresInterrupt : Bool := false
  deriving DecidableEq

/-- The commands of an installation, in order. -/
def Installing.commands (ended : Installing) : List (InstallCommand × CommandFate) :=
  [(.prepare, ended.prepare), (.remove, ended.remove), (.create, ended.create),
    (.build, ended.build), (.mark, ended.mark)]

/-- An installation between two commands: its directory, whether every command
so far is done, and whether its shell is gone. -/
structure Building where
  area : Option Area
  clean : Bool := true
  gone : Bool := false

/-- A command of `do_install_cmssw`, as `run_cmd` runs it: the interrupt that
follows a failure ends the shell, unless the shell ignores it. -/
def Building.runCmd (arch : String) (ignoresInterrupt : Bool) (building : Building)
    (command : InstallCommand × CommandFate) : Building :=
  if building.gone then building
  else
    let work := command.1.work arch building.clean building.area
    match command.2 with
    | .done => { building with area := work .whole }
    | .failed extent => { area := work extent, clean := false, gone := !ignoresInterrupt }
    | .lost extent => { area := work extent, clean := false, gone := true }

/-- The commands of `do_install_cmssw` on a directory that has no marker. -/
def buildRelease (arch : String) (area : Option Area) (ended : Installing) : Building :=
  run (Building.runCmd arch ended.ignoresInterrupt) { area } ended.commands

/-- `do_install_cmssw`: the directory of the release it leaves, and whether
`env.sh install` succeeds.  That runs it in a shell of its own, by `run_cmd`:
where interrupts are ignored, what the shell returned is not looked at.  Where a
container is missing it is not called. -/
def doInstallCmssw (arch : String) (area : Option Area) (ended : Installing) :
    Option Area × Bool :=
  if area.any Area.marked then (area, true)
  else
    let building := buildRelease arch area ended
    (building.area, ended.ignoresInterrupt || !building.gone)

/-- `soft/` by the version of the release, and the eras whose `InstallCMSSW` has
written its output. -/
structure Installation where
  areas : Dict String Area
  flags : List String

/-- The directory of a version, replaced. -/
def setArea (areas : Dict String Area) (version : String) : Option Area → Dict String Area
  | none => areas.pop version
  | some area => areas.set version area

/-- The loop of `InstallCMSSW.run`; with no end given, the task is lost there. -/
def installAll (areas : Dict String Area) : List Release → List Installing → Dict String Area × Bool
  | [], _ => (areas, true)
  | _ :: _, [] => (areas, false)
  | release :: rest, ended :: later =>
      let installed := doInstallCmssw release.1 (areas.get? release.2) ended
      let after := setArea areas release.2 installed.1
      if installed.2 then installAll after rest later else (after, false)

/-- A run of `InstallCMSSW` for an era: how its installations end, and whether
it comes to write its output. -/
structure InstallRun where
  era : String
  ends : List Installing
  flagged : Bool

/-- `InstallCMSSW.run`. -/
def Installation.runInstall (conditions : Conditions) (soft : Installation) (event : InstallRun) :
    Installation :=
  match cmsswReleasesForEra conditions event.era with
  | .error _ => soft
  | .ok releases =>
      let installed := installAll soft.areas releases event.ends
      { areas := installed.1
        flags := if installed.2 && event.flagged then event.era :: soft.flags else soft.flags }

/-! ## The commands of a job -/

/-- The commands of `RunProd.run`, one after the other: the chain, and a nano
step for each version. -/
def produceSteps (machine : Machine) (shell : Shell) (conditions : Conditions) (era : String)
    (firstStep : Option String) (seed : Nat) (nEvt : ℤ) (inputs : StepInputs) (nThreads : ℤ)
    (versions : List String) : Action Local StepError Unit := do
  let miniaod ← runChain machine shell conditions era firstStep "MINIAOD" seed nEvt inputs nThreads
  Action.forEach versions fun version => do
    let _ ← runNano machine shell conditions era version seed nEvt miniaod nThreads
    pure ()

/-- Pileup that a step looks up. -/
def isDataset (pileup : String) : Bool :=
  pileup.startsWith "dbs:" || pileup.startsWith "das:"

/-- A step that has its pileup looked up. -/
def Program.queriesDas : Program → Bool
  | .cmsDriver _ _ _ _ _ _ _ _ (some pileup) => isDataset pileup
  | _ => false

/-- The step that a program runs, if it is one. -/
def Program.stepName : Program → Option String
  | .cmsDriver step _ _ _ _ _ _ _ _ => some step
  | _ => none

/-- Whether `RunProd` requires a premix list for an era. -/
def requiresPremix (conditions : Conditions) (era : String) : Bool :=
  match premixDatasetForEra conditions era with
  | .ok (some dataset) => dataset ≠ ""
  | _ => false

/-! ## What an installation keeps -/

variable {conditions : Conditions} {archOf : String → String} {era : String}

/-- A marked release is completely built, for the architecture of its version. -/
def MarksBuilt (archOf : String → String) (areas : Dict String Area) : Prop :=
  ∀ version area, areas.get? version = some area → area.marked = true →
    area.built = some (archOf version)

theorem get?_setArea {areas : Dict String Area} {version other : String} {area : Option Area} :
    (setArea areas version area).get? other =
      if other = version then area else areas.get? other := by
  cases area with
  | none => exact Dict.get?_pop areas version other
  | some area => exact Dict.get?_set areas version other area

/-- A failure ends the installation, or there is none. -/
def Installing.Stops (ended : Installing) : Prop :=
  ended.ignoresInterrupt = false ∨ ∀ command ∈ ended.commands, command.2 = .done

/-- An installation whose directory is not marked, and is as it should be unless
its shell is gone, as only one is that heeds the interrupt. -/
structure Building.On (ignores : Bool) (asExpected : Option Area → Prop) (building : Building) :
    Prop where
  unmarked : building.area.any Area.marked = false
  reached : building.gone = false → building.clean = true ∧ asExpected building.area
  heeded : building.gone = true → ignores = false

/-- A command before the last one makes no mark. -/
theorem unmarked_work {arch : String} {clean : Bool} {area : Option Area}
    {command : InstallCommand} {extent : Extent} (notLast : command ≠ .mark)
    (unmarked : area.any Area.marked = false) :
    (command.work arch clean area extent).any Area.marked = false := by
  cases command with
  | mark => exact absurd rfl notLast
  | _ => cases extent <;> cases area <;> simp_all [InstallCommand.work]

/-- A command before the last one leaves the directory as the next one expects it. -/
theorem on_runCmd (arch : String) (command : InstallCommand) {before : Option Area → Prop}
    (after : Option Area → Prop) {ignores : Bool} {building : Building}
    (on : building.On ignores before) {fate : CommandFate} (notLast : command ≠ .mark)
    (stops : ignores = false ∨ fate = .done)
    (works : ∀ area, before area → after (command.work arch true area .whole)) :
    (building.runCmd arch ignores (command, fate)).On ignores after := by
  rw [Building.runCmd]
  split
  case isTrue gone => exact ⟨on.unmarked, fun here => absurd gone (by simp [here]), on.heeded⟩
  case isFalse here =>
      have unmarked : ∀ extent, (command.work arch building.clean building.area extent).any
          Area.marked = false := fun _ => unmarked_work notLast on.unmarked
      obtain ⟨clean, expected⟩ := on.reached (Bool.eq_false_iff.mpr here)
      cases fate with
      | done =>
          refine ⟨unmarked .whole, fun _ => ⟨clean, ?_⟩, on.heeded⟩
          simp only [clean]
          exact works building.area expected
      | failed extent =>
          have heeds := stops.resolve_right (by simp)
          exact ⟨unmarked extent, fun stays => by simp [heeds] at stays, fun _ => heeds⟩
      | lost extent =>
          have heeds := stops.resolve_right (by simp)
          exact ⟨unmarked extent, fun stays => by simp at stays, fun _ => heeds⟩

/-- An installation whose directory is built for an architecture if it is marked,
and is marked unless its shell is gone. -/
structure Building.Finished (ignores : Bool) (arch : String) (building : Building) : Prop where
  built : ∀ new, building.area = some new → new.marked = true → new.built = some arch
  marked : building.gone = false → building.area.any Area.marked = true
  heeded : building.gone = true → ignores = false

/-- `touch` leaves what is built. -/
theorem built_work_mark {arch : String} {area : Option Area}
    (isBuilt : area = some ⟨some arch, false⟩) (clean : Bool) (extent : Extent) {new : Area}
    (same : InstallCommand.mark.work arch clean area extent = some new) :
    new.built = some arch := by
  subst isBuilt
  cases extent <;>
    simp only [InstallCommand.work, Option.map_some, Option.some.injEq] at same <;> rw [← same]

/-- `touch` marks what is built, or the shell is gone with it. -/
theorem finished_mark {arch : String} {ignores : Bool} {building : Building} {fate : CommandFate}
    (on : building.On ignores (· = some ⟨some arch, false⟩))
    (stops : ignores = false ∨ fate = .done) :
    (building.runCmd arch ignores (.mark, fate)).Finished ignores arch := by
  rw [Building.runCmd]
  split
  case isTrue gone =>
      refine ⟨fun new same marked => ?_, fun here => absurd gone (by simp [here]), on.heeded⟩
      have unmarked := on.unmarked
      rw [same, Option.any_some, marked] at unmarked
      cases unmarked
  case isFalse here =>
      have area := (on.reached (Bool.eq_false_iff.mpr here)).2
      have built : ∀ extent new, InstallCommand.mark.work arch building.clean building.area extent =
          some new → new.marked = true → new.built = some arch :=
        fun extent _ same _ => built_work_mark area building.clean extent same
      cases fate with
      | done => exact ⟨built .whole, fun _ => by rw [area]; rfl, on.heeded⟩
      | failed extent =>
          have heeds := stops.resolve_right (by simp)
          exact ⟨built extent, fun stays => by simp [heeds] at stays, fun _ => heeds⟩
      | lost extent =>
          have heeds := stops.resolve_right (by simp)
          exact ⟨built extent, fun stays => by simp at stays, fun _ => heeds⟩

/-- The commands of an installation that stops at a failure. -/
theorem finished_buildRelease (arch : String) {area : Option Area} {ended : Installing}
    (stops : ended.Stops) (unmarked : area.any Area.marked = false) :
    (buildRelease arch area ended).Finished ended.ignoresInterrupt arch := by
  have stopsAt : ∀ command ∈ ended.commands,
      ended.ignoresInterrupt = false ∨ command.2 = .done :=
    fun command member => stops.imp_right fun done => done command member
  simp only [Installing.commands, List.forall_mem_cons] at stopsAt
  obtain ⟨prepareStops, removeStops, createStops, buildStops, markStops, _⟩ := stopsAt
  have started : Building.On ended.ignoresInterrupt (fun _ => True) { area } :=
    ⟨unmarked, fun _ => ⟨rfl, trivial⟩, fun gone => by cases gone⟩
  have prepared := on_runCmd arch .prepare (fun _ => True) started (by decide) prepareStops
    fun _ _ => trivial
  have removed := on_runCmd arch .remove (· = none) prepared (by decide) removeStops
    fun _ _ => rfl
  have created := on_runCmd arch .create (· = some ⟨none, false⟩) removed (by decide) createStops
    fun _ _ => rfl
  have built := on_runCmd arch .build (· = some ⟨some arch, false⟩) created (by decide) buildStops
    fun area same => by rw [same]; rfl
  exact finished_mark built markStops

/-- An installation for the architecture of its version keeps what marks say, and
a directory is marked after it if it was, or if the installation succeeded. -/
theorem doInstallCmssw_sound {version : String} {area : Option Area} {ended : Installing}
    (stops : ended.Stops)
    (sound : ∀ old, area = some old → old.marked = true → old.built = some (archOf version)) :
    (∀ new, (doInstallCmssw (archOf version) area ended).1 = some new → new.marked = true →
        new.built = some (archOf version)) ∧
      (area.any Area.marked = true ∨ (doInstallCmssw (archOf version) area ended).2 = true →
        (doInstallCmssw (archOf version) area ended).1.any Area.marked = true) := by
  rw [doInstallCmssw]
  split
  case isTrue marked => exact ⟨sound, fun _ => marked⟩
  case isFalse unmarked =>
      rw [Bool.not_eq_true] at unmarked
      have finished := finished_buildRelease (archOf version) stops unmarked
      refine ⟨finished.built, fun before => ?_⟩
      rcases before with marked | succeeded
      · rw [unmarked] at marked
        cases marked
      · apply finished.marked
        cases gone : (buildRelease (archOf version) area ended).gone with
        | false => rfl
        | true => simp [gone, finished.heeded gone] at succeeded

/-- What a task of installations keeps, and leaves marked if it succeeds. -/
theorem installAll_sound {areas : Dict String Area} (sound : MarksBuilt archOf areas)
    {releases : List Release} (oneArch : ∀ release ∈ releases, release.1 = archOf release.2)
    {ends : List Installing} (stops : ∀ ended ∈ ends, ended.Stops) :
    MarksBuilt archOf (installAll areas releases ends).1 ∧
      (∀ version, (areas.get? version).any Area.marked = true →
        ((installAll areas releases ends).1.get? version).any Area.marked = true) ∧
      ((installAll areas releases ends).2 = true → ∀ release ∈ releases,
        ((installAll areas releases ends).1.get? release.2).any Area.marked = true) := by
  induction releases generalizing areas ends with
  | nil => exact ⟨sound, fun _ marked => marked, fun _ release member => by cases member⟩
  | cons release rest ih =>
      rcases release with ⟨arch, version⟩
      have isArch : arch = archOf version := oneArch (arch, version) List.mem_cons_self
      subst isArch
      cases ends with
      | nil => exact ⟨sound, fun _ marked => marked, fun succeeds => by cases succeeds⟩
      | cons ended later =>
          obtain ⟨built, marks⟩ :=
            doInstallCmssw_sound (stops ended List.mem_cons_self)
              fun old found => sound version old found
          have soundAfter : MarksBuilt archOf (setArea areas version
              (doInstallCmssw (archOf version) (areas.get? version) ended).1) := by
            intro other area found marked
            rw [get?_setArea] at found
            split at found
            case isTrue same =>
                rw [same]
                exact built area found marked
            case isFalse => exact sound other area found marked
          have keeps : ∀ other, (areas.get? other).any Area.marked = true →
              ((setArea areas version (doInstallCmssw (archOf version) (areas.get? version)
                ended).1).get? other).any Area.marked = true := by
            intro other marked
            rw [get?_setArea]
            split
            case isTrue same =>
                rw [same] at marked
                exact marks (Or.inl marked)
            case isFalse => exact marked
          rw [installAll]
          split
          case isFalse failed => exact ⟨soundAfter, keeps, fun succeeds => by cases succeeds⟩
          case isTrue succeeded =>
              obtain ⟨soundRest, keepsRest, all⟩ := ih soundAfter
                (fun release member => oneArch release (List.mem_cons_of_mem _ member))
                fun ended member => stops ended (List.mem_cons_of_mem _ member)
              refine ⟨soundRest, fun other marked => keepsRest other (keeps other marked), ?_⟩
              intro succeeds release member
              rcases List.mem_cons.mp member with rfl | isLater
              · apply keepsRest
                rw [get?_setArea, if_pos rfl]
                exact marks (Or.inr succeeded)
              · exact all succeeds release isLater

/-- Marks say the truth, and the releases of each era with a flag are marked. -/
structure Installation.Sound (conditions : Conditions) (archOf : String → String)
    (soft : Installation) : Prop where
  marks : MarksBuilt archOf soft.areas
  flagged : ∀ era ∈ soft.flags, ∃ releases, cmsswReleasesForEra conditions era = .ok releases ∧
    ∀ release ∈ releases, (soft.areas.get? release.2).any Area.marked = true

theorem sound_runInstall {soft : Installation} (sound : soft.Sound conditions archOf)
    (oneArch : ∀ era releases, cmsswReleasesForEra conditions era = .ok releases →
      ∀ release ∈ releases, release.1 = archOf release.2)
    {event : InstallRun} (stops : ∀ ended ∈ event.ends, ended.Stops) :
    (soft.runInstall conditions event).Sound conditions archOf := by
  rw [Installation.runInstall]
  split
  · exact sound
  · rename_i releases isReleases
    obtain ⟨marks, keeps, all⟩ :=
      installAll_sound sound.marks (oneArch event.era releases isReleases) stops
    constructor
    case marks => exact marks
    case flagged =>
        intro era flagged
        have before : era ∈ soft.flags → ∃ others,
            cmsswReleasesForEra conditions era = .ok others ∧ ∀ release ∈ others,
              ((installAll soft.areas releases event.ends).1.get? release.2).any Area.marked =
                true := by
          intro old
          obtain ⟨others, isOthers, marked⟩ := sound.flagged era old
          exact ⟨others, isOthers, fun release member => keeps release.2 (marked release member)⟩
        simp only at flagged
        split at flagged
        case isFalse => exact before flagged
        case isTrue done =>
            rw [Bool.and_eq_true] at done
            rcases List.mem_cons.mp flagged with rfl | old
            · exact ⟨releases, isReleases, all done.1⟩
            · exact before old

/-! ## The releases that parameters name -/

theorem release_of_nanoReleases {versions : List String} {releases : List Release}
    (listed : nanoReleases conditions era versions = .ok releases) {version : String}
    (member : version ∈ versions) {params : StepParams}
    (isParams : stepParams conditions era "NANO" (some version) = .ok params) :
    (∃ nano ∈ releases, releaseOf params = .ok nano) ∧
      ∃ merge ∈ releases, releaseOf (mergeParams params) = .ok merge := by
  induction versions generalizing releases with
  | nil => cases member
  | cons first rest ih =>
      obtain ⟨found, isFound, listed⟩ := bind_eq_ok listed
      obtain ⟨nano, isNano, listed⟩ := bind_eq_ok listed
      obtain ⟨merge, isMerge, listed⟩ := bind_eq_ok listed
      obtain ⟨others, isOthers, listed⟩ := bind_eq_ok listed
      cases listed
      rcases List.mem_cons.mp member with rfl | later
      · rw [isParams] at isFound
        cases isFound
        exact ⟨⟨nano, by simp, isNano⟩, ⟨merge, by simp, isMerge⟩⟩
      · obtain ⟨⟨release, releaseMem, isRelease⟩, other, otherMem, isOther⟩ := ih isOthers later
        exact ⟨⟨release, by simp [releaseMem], isRelease⟩, ⟨other, by simp [otherMem], isOther⟩⟩

/-- A version that has parameters is one of those of its era. -/
theorem mem_nanoVersionsOf {version : String} {params : StepParams} {versions : List String}
    (isParams : stepParams conditions era "NANO" (some version) = .ok params)
    (isVersions : nanoVersionsOf conditions era = .ok versions) : version ∈ versions := by
  rw [stepParams, resolveStepParams] at isParams
  rw [nanoVersionsOf] at isVersions
  cases known : conditions.eras.get? era with
  | none => simp [known] at isParams
  | some eraConditions =>
      simp only [known, Option.bind_some] at isParams isVersions
      cases nano : eraConditions.steps.get? "NANO" with
      | none => simp [nano] at isVersions
      | some stepConditions =>
          simp only [nano, Option.getD_some, Except.ok.injEq] at isParams isVersions
          subst isVersions
          cases defined : stepConditions.versions with
          | none => simp [defined] at isParams
          | some found =>
              simp only [defined, Option.bind_some] at isParams
              cases extra : found.get? version with
              | none => simp [extra] at isParams
              | some extra' => simpa using Dict.mem_keys_of_get? extra

/-- The parameters of a step other than the nano one name a release of its era. -/
theorem release_of_step {steps : List String} {releases : List Release}
    (listed : stepReleases conditions era steps = .ok releases) {step : String}
    (member : step ∈ steps) (notNano : step ≠ "NANO") {params : StepParams}
    (isParams : stepParams conditions era step none = .ok params) :
    ∃ release ∈ releases, releaseOf params = .ok release := by
  induction steps generalizing releases with
  | nil => cases member
  | cons first rest ih =>
      obtain ⟨here, isHere, listed⟩ := bind_eq_ok listed
      obtain ⟨others, isOthers, listed⟩ := bind_eq_ok listed
      cases listed
      rcases List.mem_cons.mp member with rfl | later
      · rw [releasesOfStep, if_neg notNano] at isHere
        rw [bind_of_ok isParams] at isHere
        obtain ⟨release, isRelease, single⟩ := bind_eq_ok isHere
        cases single
        exact ⟨release, List.mem_append_left _ List.mem_cons_self, isRelease⟩
      · obtain ⟨release, releaseMem, isRelease⟩ := ih isOthers later
        exact ⟨release, List.mem_append_right _ releaseMem, isRelease⟩

/-- So do those of a nano version, and those it is merged with. -/
theorem release_of_nano {steps : List String} {releases : List Release}
    (listed : stepReleases conditions era steps = .ok releases) (member : "NANO" ∈ steps)
    {version : String} {params : StepParams}
    (isParams : stepParams conditions era "NANO" (some version) = .ok params) :
    (∃ nano ∈ releases, releaseOf params = .ok nano) ∧
      ∃ merge ∈ releases, releaseOf (mergeParams params) = .ok merge := by
  induction steps generalizing releases with
  | nil => cases member
  | cons first rest ih =>
      obtain ⟨here, isHere, listed⟩ := bind_eq_ok listed
      obtain ⟨others, isOthers, listed⟩ := bind_eq_ok listed
      cases listed
      by_cases isNano : first = "NANO"
      · rw [releasesOfStep, if_pos isNano] at isHere
        obtain ⟨versions, isVersions, isHere⟩ := bind_eq_ok isHere
        obtain ⟨⟨nano, nanoMem, nanoRelease⟩, merge, mergeMem, mergeRelease⟩ :=
          release_of_nanoReleases isHere (mem_nanoVersionsOf isParams isVersions) isParams
        exact ⟨⟨nano, List.mem_append_left _ nanoMem, nanoRelease⟩,
          ⟨merge, List.mem_append_left _ mergeMem, mergeRelease⟩⟩
      · obtain ⟨⟨nano, nanoMem, nanoRelease⟩, merge, mergeMem, mergeRelease⟩ :=
          ih isOthers ((List.mem_cons.mp member).resolve_left (Ne.symm isNano))
        exact ⟨⟨nano, List.mem_append_right _ nanoMem, nanoRelease⟩,
          ⟨merge, List.mem_append_right _ mergeMem, mergeRelease⟩⟩

/-- The list of an era holds the releases that its steps name. -/
theorem mem_cmsswReleasesForEra {steps : List String} {releases : List Release}
    (isSteps : prodSteps conditions era = .ok steps)
    (listed : cmsswReleasesForEra conditions era = .ok releases) :
    ∃ named, stepReleases conditions era steps = .ok named ∧
      ∀ release ∈ named, release ∈ releases := by
  rw [cmsswReleasesForEra, bind_of_ok isSteps] at listed
  obtain ⟨named, isNamed, sorted⟩ := bind_eq_ok listed
  cases sorted
  refine ⟨named, isNamed, fun release member => ?_⟩
  rw [List.mem_mergeSort, List.mem_dedup]
  exact member

/-! ## Pileup -/

theorem isDataset_filelist (list : String) : isDataset ("filelist:" ++ list) = false := by
  rw [isDataset, Bool.or_eq_false_iff]
  constructor
  · rw [Bool.eq_false_iff, ne_eq, String.startsWith_string_iff]
    simp
  · rw [Bool.eq_false_iff, ne_eq, String.startsWith_string_iff]
    simp

/-- The first dataset of an era is found. -/
theorem exists_premixDatasetOf {steps : List String} {step : String} (member : step ∈ steps)
    {params : StepParams} (isParams : resolveStepParams conditions era step none = .ok params)
    (queried : isDataset (params.getD "pileup_input" "") = true) :
    ∃ dataset, premixDatasetOf conditions era steps = .ok (some dataset) := by
  induction steps with
  | nil => cases member
  | cons first rest ih =>
      obtain ⟨found, isFound⟩ : ∃ found,
          resolveStepParams conditions era first none = .ok found := by
        rw [resolveStepParams] at isParams ⊢
        cases known : conditions.eras.get? era with
        | none => simp [known] at isParams
        | some eraConditions => exact ⟨_, rfl⟩
      rw [premixDatasetOf, bind_of_ok isFound]
      simp only
      split
      · exact ⟨_, rfl⟩
      · rename_i notDataset
        rcases List.mem_cons.mp member with rfl | later
        · rw [isParams] at isFound
          cases isFound
          exact absurd queried notDataset
        · exact ih later

theorem exists_premixDatasetForEra {steps : List String}
    (isSteps : prodSteps conditions era = .ok steps) {step : String} (member : step ∈ steps)
    {params : StepParams} (isParams : stepParams conditions era step none = .ok params)
    (queried : isDataset (params.getD "pileup_input" "") = true) :
    ∃ dataset, premixDatasetForEra conditions era = .ok (some dataset) := by
  rw [prodSteps] at isSteps
  rw [premixDatasetForEra]
  cases known : conditions.eras.get? era with
  | none => simp [known] at isSteps
  | some eraConditions =>
      simp only [known, Except.ok.injEq] at isSteps
      subst isSteps
      rw [stepParams] at isParams
      split at isParams
      · rename_i found isFound
        rw [Except.ok.inj isParams] at isFound
        exact exists_premixDatasetOf member isFound queried
      · cases isParams

/-- With the list that the era requires, no step of it looks its pileup up. -/
theorem pileupInput_not_dataset {steps : List String} {filelist : Option String}
    (isSteps : prodSteps conditions era = .ok steps)
    (named : premixDatasetForEra conditions era ≠ .ok (some ""))
    (fetched : requiresPremix conditions era = true → filelist.isSome = true)
    {step : String} (member : step ∈ steps) {params : StepParams}
    (isParams : stepParams conditions era step none = .ok params) {pileup : String}
    (reads : pileupInput params filelist = some pileup) : isDataset pileup = false := by
  simp only [pileupInput] at reads
  split at reads
  · cases reads
  · cases filelist with
    | some list =>
        simp only at reads
        split at reads
        · rw [← Option.some.inj reads]
          exact isDataset_filelist list
        · rename_i notDataset
          rw [← Option.some.inj reads]
          exact Bool.eq_false_iff.mpr notDataset
    | none =>
        have none : requiresPremix conditions era = false := by
          cases required : requiresPremix conditions era with
          | false => rfl
          | true => cases fetched required
        rw [← Option.some.inj reads, ← Bool.not_eq_true]
        intro queried
        obtain ⟨dataset, found⟩ := exists_premixDatasetForEra isSteps member isParams queried
        have empty : dataset = "" := by simpa [requiresPremix, found] using none
        exact named (by rw [found, empty])

end DSProd.Steps
