import DSProd.Production.Delivered
import DSProd.Steps.Releases

/-!
# What the commands of a job find

A job of an era whose `InstallCMSSW` has written its output enters no release
that is not completely built, whichever steps, versions and merges it comes to
and however its commands end; and with the premix list that it requires, no
step of its chain has its pileup looked up.
-/

namespace DSProd.Production

open DSProd.Library
open DSProd.Steps
open DSProd.Tasks

variable {machine : Machine} {shell : Shell} {conditions : Conditions} {era : String}
  {prepared : Command → Prop}

/-! ## The commands that an action gives -/

/-- The commands given so far have a property. -/
def AllGiven (prepared : Command → Prop) (state : Local) : Prop :=
  ∀ command ∈ state.given, prepared command

/-- The action gives prepared commands only, whether it returns or raises. -/
abbrev Gives {α : Type} (prepared : Command → Prop) (action : Action Local StepError α)
    (post : α → Prop) : Prop :=
  Action.Keeps (AllGiven prepared) action post

theorem gives_psCall {command : Command} (holds : prepared command) :
    Gives prepared (psCall shell command) fun _ => True := by
  intro state before
  have after : AllGiven prepared ⟨((shell (command :: state.given)).perform command.program
      state.files).1, command :: state.given⟩ := by
    intro other member
    rcases List.mem_cons.mp member with rfl | earlier
    · exact holds
    · exact before other earlier
  rw [psCall]
  split
  · exact ⟨after, fun _ _ => trivial⟩
  · exact ⟨after, fun _ _ => trivial⟩

theorem gives_countEvents {params : StepParams} {paths : List String} {tree : String}
    (counting : ∀ entering script request counts,
      prepared ⟨params, entering, .countEvents script request counts⟩) :
    Gives prepared (countEvents machine shell params paths tree) fun _ => True := by
  apply Action.keeps_bind
  · exact Action.keeps_modify fun _ before => before
  intro _ _
  apply Action.keeps_bind
  · exact Action.keeps_modify fun _ before => before
  intro _ _
  apply Action.keeps_bind
  · exact Action.keeps_modify fun _ before => before
  intro _ _
  apply Action.keeps_bind Action.keeps_lift
  intro entering _
  apply Action.keeps_bind (gives_psCall (counting _ _ _ _))
  intro _ _
  apply Action.keeps_bind Action.keeps_read
  exact fun result _ state before => ⟨before, fun _ _ => trivial⟩

theorem buildCmsdriver_eq_ok {step : String} {params : StepParams} {seed : Nat} {nEvt nThreads : ℤ}
    {filein fileout gridpack fragmentRel filelist : Option String} {program : Program}
    (built : buildCmsdriver step params seed nEvt filein fileout gridpack fragmentRel nThreads
      filelist = .ok program) :
    program = .cmsDriver step seed nEvt nThreads filein (fileout.getD (step ++ ".root")) gridpack
      fragmentRel (pileupInput params filelist) := by
  rw [buildCmsdriver] at built
  obtain ⟨_, _, made⟩ := bind_eq_ok built
  exact (Except.ok.inj made).symm

/-- A step gives its own command, and those that count what it has left. -/
theorem gives_runStep {step : String} {params : StepParams} {seed : Nat} {nEvt nThreads : ℤ}
    {filein fileout : Option String} {inputs : StepInputs}
    (driving : ∀ entering gridpack fragmentRel out, prepared ⟨params, entering,
      .cmsDriver step seed nEvt nThreads filein out gridpack fragmentRel
        (pileupInput params inputs.pileupFilelist)⟩)
    (counting : ∀ entering script request counts,
      prepared ⟨params, entering, .countEvents script request counts⟩) :
    Gives prepared (runStep machine shell step params seed nEvt filein fileout inputs nThreads)
      fun _ => True := by
  apply Action.keeps_bind Action.keeps_lift
  intro fragmentRel _
  apply Action.keeps_bind Action.keeps_lift
  intro driver built
  rw [buildCmsdriver_eq_ok built]
  apply Action.keeps_bind Action.keeps_lift
  intro entering _
  apply Action.keeps_bind (gives_psCall (driving _ _ _ _))
  intro _ _
  cases fileout with
  | none => exact Action.keeps_pure trivial
  | some fileout =>
      simp only
      split
      · exact Action.keeps_pure trivial
      · apply Action.keeps_bind (gives_countEvents counting)
        intro counts _
        simp only
        split
        · exact Action.keeps_pure trivial
        · exact Action.keeps_raise

/-- The steps of a chain give the commands of their own parameters. -/
theorem gives_chainSteps {seed : Nat} {nEvt nThreads : ℤ} {inputs : StepInputs}
    {steps : List String} {prev lastOut : Option String}
    (driving : ∀ step ∈ steps, ∀ params, stepParams conditions era step none = .ok params →
      ∀ entering filein gridpack fragmentRel out, prepared ⟨params, entering,
        .cmsDriver step seed nEvt nThreads filein out gridpack fragmentRel
          (pileupInput params inputs.pileupFilelist)⟩)
    (counting : ∀ step ∈ steps, ∀ params, stepParams conditions era step none = .ok params →
      ∀ entering script request counts,
        prepared ⟨params, entering, .countEvents script request counts⟩) :
    Gives prepared (chainSteps machine shell conditions era seed nEvt inputs nThreads steps prev
      lastOut) fun _ => True := by
  induction steps generalizing prev lastOut with
  | nil => exact Action.keeps_pure trivial
  | cons step rest ih =>
      apply Action.keeps_bind Action.keeps_lift
      intro params isParams
      apply Action.keeps_bind
      · exact gives_runStep
          (fun entering => driving step List.mem_cons_self params isParams entering _)
          (counting step List.mem_cons_self params isParams)
      · exact fun _ _ => ih (fun other member => driving other (List.mem_cons_of_mem step member))
          fun other member => counting other (List.mem_cons_of_mem step member)

theorem gives_runNano {version : String} {seed : Nat} {nEvt nThreads : ℤ}
    {miniaodFile : Option String}
    (running : ∀ params, stepParams conditions era "NANO" (some version) = .ok params →
      ∀ entering program, (∀ step ∈ program.stepName, step = "NANO") →
        prepared ⟨params, entering, program⟩) :
    Gives prepared (runNano machine shell conditions era version seed nEvt miniaodFile nThreads)
      fun _ => True := by
  apply Action.keeps_bind Action.keeps_lift
  intro params isParams
  cases miniaodFile with
  | none => exact Action.keeps_raise
  | some miniaodFile =>
      apply Action.keeps_bind
      · apply gives_runStep
        · intro entering gridpack fragmentRel out
          apply running params isParams
          simp [Program.stepName]
        · intro entering script request counts
          apply running params isParams
          simp [Program.stepName]
      · exact fun _ _ => Action.keeps_pure trivial

theorem gives_haddNano {params : StepParams} {outPath : String} {inPaths : List String}
    (merging : ∀ entering, prepared ⟨params, entering, .haddnano outPath inPaths⟩) :
    Gives prepared (haddNano machine shell params outPath inPaths) fun _ => True := by
  apply Action.keeps_bind Action.keeps_lift
  intro entering _
  apply Action.keeps_recover (gives_psCall (merging entering))
  intro error
  split
  · exact Action.keeps_raise
  · exact Action.keeps_raise

/-! ## What is prepared for them -/

/-- A command enters a release that is completely built, and looks no pileup up
unless it is a nano step. -/
structure Prepared (soft : Installation) (command : Command) : Prop where
  built : ∃ arch cmssw, releaseOf command.params = .ok (arch, cmssw) ∧
    soft.areas.get? cmssw = some ⟨some arch, true⟩
  premixed : command.program.queriesDas = true → command.program.stepName = some "NANO"

/-- The steps of an era that its jobs rely on: the nano step is one, and comes
after those of the chain. -/
structure NanoLast (steps : List String) : Prop where
  listed : "NANO" ∈ steps
  afterwards : "NANO" ∉ steps.take (steps.idxOf "MINIAOD" + 1)

/-- The releases of an era are built where its flag is. -/
theorem built_of_flagged {soft : Installation} {archOf : String → String}
    (sound : soft.Sound conditions archOf) (flagged : era ∈ soft.flags)
    (oneArch : ∀ era releases, cmsswReleasesForEra conditions era = .ok releases →
      ∀ release ∈ releases, release.1 = archOf release.2) :
    ∃ releases, cmsswReleasesForEra conditions era = .ok releases ∧
      ∀ release ∈ releases, soft.areas.get? release.2 = some ⟨some release.1, true⟩ := by
  obtain ⟨releases, isReleases, marked⟩ := sound.flagged era flagged
  refine ⟨releases, isReleases, fun release member => ?_⟩
  have isMarked := marked release member
  cases found : soft.areas.get? release.2 with
  | none => simp [found] at isMarked
  | some area =>
      rw [found, Option.any_some] at isMarked
      have built := sound.marks release.2 area found isMarked
      rcases area with ⟨arch, mark⟩
      simp only at isMarked built
      rw [isMarked, built, oneArch era releases isReleases release member]

/-- The steps of a chain are steps of the era. -/
theorem mem_of_stepsBetween {steps between : List String} {firstStep : Option String}
    {lastStep : String} (isBetween : stepsBetween steps firstStep lastStep = .ok between)
    {step : String} (member : step ∈ between) :
    step ∈ steps.take (steps.idxOf lastStep + 1) := by
  obtain ⟨i0, _, rest⟩ := bind_eq_ok isBetween
  obtain ⟨i1, isLast, sliced⟩ := bind_eq_ok rest
  cases sliced
  rw [indexOf] at isLast
  split at isLast
  · rw [← Except.ok.inj isLast] at member
    exact List.mem_of_mem_drop member
  · cases isLast

/-- What is installed for an era, once its flag is there. -/
theorem sound_installation {archOf : String → String}
    (oneArch : ∀ era releases, cmsswReleasesForEra conditions era = .ok releases →
      ∀ release ∈ releases, release.1 = archOf release.2) {events : List InstallRun}
    (stops : ∀ event ∈ events, ∀ ended ∈ event.ends, ended.Stops) :
    (run (Installation.runInstall conditions) ⟨Dict.empty, []⟩ events).Sound conditions archOf := by
  have keeps : ∀ (soft : Installation) (event : InstallRun), soft.Sound conditions archOf →
      (∀ ended ∈ event.ends, ended.Stops) → (soft.runInstall conditions event).Sound conditions
        archOf := fun _ _ sound allStop => sound_runInstall sound oneArch allStop
  have fresh : Installation.Sound conditions archOf ⟨Dict.empty, []⟩ := by
    constructor
    · intro version area found
      simp at found
    · intro era member
      cases member
  exact invariant_run_of_mem keeps fresh stops

section Commands

variable {soft : Installation} {steps : List String} {named : List Release}
  (built : ∀ release ∈ named, soft.areas.get? release.2 = some ⟨some release.1, true⟩)
  (isSteps : prodSteps conditions era = .ok steps)
  (listed : stepReleases conditions era steps = .ok named) (nanoLast : NanoLast steps)

include built

/-- A command whose parameters name a release that is built. -/
theorem prepared_of_release {params : StepParams}
    (names : ∃ release ∈ named, releaseOf params = .ok release) (entering : String)
    {program : Program}
    (premixed : program.queriesDas = true → program.stepName = some "NANO") :
    Prepared soft ⟨params, entering, program⟩ := by
  obtain ⟨⟨arch, cmssw⟩, member, isRelease⟩ := names
  exact ⟨⟨arch, cmssw, isRelease, built _ member⟩, premixed⟩

include isSteps listed nanoLast

/-- The chain of a `RunProd` job. -/
theorem prepared_runChain {firstStep : Option String} {seed : Nat} {nEvt nThreads : ℤ}
    {inputs : StepInputs} (dataset : premixDatasetForEra conditions era ≠ .ok (some ""))
    (fetched : requiresPremix conditions era = true → inputs.pileupFilelist.isSome = true) :
    Gives (Prepared soft) (runChain machine shell conditions era firstStep "MINIAOD" seed nEvt
      inputs nThreads) fun _ => True := by
  apply Action.keeps_bind Action.keeps_lift
  intro found isFound
  rw [isSteps] at isFound
  cases isFound
  apply Action.keeps_bind Action.keeps_lift
  intro between isBetween
  have inEra : ∀ step ∈ between, step ∈ steps ∧ step ≠ "NANO" := by
    intro step member
    have before := mem_of_stepsBetween isBetween member
    refine ⟨List.mem_of_mem_take before, ?_⟩
    rintro rfl
    exact nanoLast.afterwards before
  apply gives_chainSteps
  · intro step member params isParams entering filein gridpack fragmentRel out
    obtain ⟨inSteps, notNano⟩ := inEra step member
    apply prepared_of_release built (release_of_step listed inSteps notNano isParams)
    intro queried
    cases reads : pileupInput params inputs.pileupFilelist with
    | none =>
        rw [reads] at queried
        cases queried
    | some pileup =>
        have looksUp : isDataset pileup = true := by
          rw [reads] at queried
          exact queried
        rw [pileupInput_not_dataset isSteps dataset fetched inSteps isParams reads] at looksUp
        cases looksUp
  · intro step member params isParams entering script request counts
    obtain ⟨inSteps, notNano⟩ := inEra step member
    apply prepared_of_release built (release_of_step listed inSteps notNano isParams)
    exact fun queried => by cases queried

/-- All of a `RunProd` job. -/
theorem prepared_produceSteps {firstStep : Option String} {seed : Nat} {nEvt nThreads : ℤ}
    {inputs : StepInputs} {versions : List String}
    (dataset : premixDatasetForEra conditions era ≠ .ok (some ""))
    (fetched : requiresPremix conditions era = true → inputs.pileupFilelist.isSome = true) :
    Gives (Prepared soft) (produceSteps machine shell conditions era firstStep seed nEvt inputs
      nThreads versions) fun _ => True := by
  apply Action.keeps_bind
  · exact prepared_runChain built isSteps listed nanoLast dataset fetched
  intro miniaod _
  apply Action.keeps_forEach
  intro version _
  apply Action.keeps_bind
  · apply gives_runNano
    intro params isParams entering program isNano
    apply prepared_of_release built (release_of_nano listed nanoLast.listed isParams).1
    intro queried
    cases ran : program.stepName with
    | none => cases program <;> cases ran <;> cases queried
    | some step => rw [isNano step ran]
  · exact fun _ _ => Action.keeps_pure trivial

omit isSteps in
/-- The merge of a `NanoMergeTask` job. -/
theorem prepared_mergeNano {plan : Plan} {host : Host} {version : String} {seeds inputs : Nat} :
    Gives (Prepared soft) (mergeNano plan host conditions era version seeds inputs)
      fun _ => True := by
  apply Action.keeps_bind Action.keeps_lift
  intro params isParams
  obtain ⟨nano, merge⟩ := release_of_nano listed nanoLast.listed isParams
  apply Action.keeps_bind
  · apply gives_haddNano
    exact fun entering => prepared_of_release built merge entering fun queried => by cases queried
  intro _ _
  apply Action.keeps_bind
  · apply gives_countEvents
    exact fun entering _ _ _ =>
      prepared_of_release built nano entering fun queried => by cases queried
  intro counts _
  simp only
  split
  · exact Action.keeps_raise
  split
  · exact Action.keeps_raise
  · exact Action.keeps_pure trivial

end Commands

/-- Every command of a job finds its release built, and no step of its chain
queries DAS. -/
theorem commands_prepared (conditions : Conditions) (archOf : String → String)
    (oneArch : ∀ era releases, cmsswReleasesForEra conditions era = .ok releases →
      ∀ release ∈ releases, release.1 = archOf release.2)
    (events : List InstallRun) (stops : ∀ event ∈ events, ∀ ended ∈ event.ends, ended.Stops)
    (era : String)
    (flagged : era ∈
      (run (Installation.runInstall conditions) ⟨Dict.empty, []⟩ events).flags)
    (nanoLast : ∀ steps, prodSteps conditions era = .ok steps → NanoLast steps)
    (dataset : premixDatasetForEra conditions era ≠ .ok (some ""))
    (machine : Machine) (shell : Shell) (files : Files) (firstStep : Option String) (seed : Nat)
    (nEvt nThreads : ℤ) (inputs : StepInputs)
    (fetched : requiresPremix conditions era = true → inputs.pileupFilelist.isSome = true)
    (versions : List String) (plan : Plan) (host : Host) (version : String)
    (seeds group : Nat) :
    let soft := run (Installation.runInstall conditions) ⟨Dict.empty, []⟩ events
    (∀ command ∈ (produceSteps machine shell conditions era firstStep seed nEvt inputs nThreads
        versions ⟨files, []⟩).2.given, Prepared soft command) ∧
      ∀ command ∈ (mergeNano plan host conditions era version seeds group ⟨files, []⟩).2.given,
        Prepared soft command := by
  intro soft
  have sound : soft.Sound conditions archOf := sound_installation oneArch stops
  obtain ⟨releases, isReleases, built⟩ := built_of_flagged sound flagged oneArch
  obtain ⟨steps, isSteps, _⟩ := bind_eq_ok isReleases
  obtain ⟨named, listed, included⟩ := mem_cmsswReleasesForEra isSteps isReleases
  have builtNamed := fun release member => built release (included release member)
  have nothing : AllGiven (Prepared soft) ⟨files, []⟩ := fun _ member => by cases member
  constructor
  · exact (prepared_produceSteps builtNamed isSteps listed (nanoLast steps isSteps) dataset fetched
      _ nothing).1
  · exact (prepared_mergeNano builtNamed listed (nanoLast steps isSteps) _ nothing).1

/-- An installation that stops while it builds, and the next one. -/
def stoppedOnce : List InstallRun :=
  [⟨"Run3_2022", [{ build := .failed .part }], true⟩, ⟨"Run3_2022", [{}], true⟩]

/-- Where the shells ignore the interrupt, a release whose build fails is marked,
and the era has its flag. -/
example :
    let soft := run (Installation.runInstall threeSteps) ⟨Dict.empty, []⟩
      [⟨"Run3_2022", [{ build := .failed .part, ignoresInterrupt := true }], true⟩]
    soft.areas.get? "CMSSW_15_0_2" = some ⟨none, true⟩ ∧ soft.flags = ["Run3_2022"] := by
  decide +kernel

theorem releases_threeSteps {era : String} {releases : List Release}
    (isReleases : cmsswReleasesForEra threeSteps era = .ok releases) :
    releases = [("el8_amd64_gcc12", "CMSSW_15_0_2")] := by
  by_cases known : era = "Run3_2022"
  · have listed : cmsswReleasesForEra threeSteps "Run3_2022" =
        .ok [("el8_amd64_gcc12", "CMSSW_15_0_2")] := by decide +kernel
    rw [known, listed] at isReleases
    exact (Except.ok.inj isReleases).symm
  · have unknown : threeSteps.eras.get? era = none := by
      rw [Dict.get?_eq_none_iff]
      exact fun member => known (List.mem_singleton.mp member)
    have raises : prodSteps threeSteps era = .error (.missing era) := by
      rw [prodSteps, unknown]
    obtain ⟨steps, isSteps, _⟩ := bind_eq_ok isReleases
    rw [raises] at isSteps
    cases isSteps

theorem commands_prepared_stoppedOnce :
    let soft := run (Installation.runInstall threeSteps) ⟨Dict.empty, []⟩ stoppedOnce
    let given := (produceSteps (hostOf 0).machine (shellOf 0) threeSteps "Run3_2022" none 1 100 {} 4
      ["v12"] ⟨Dict.empty, []⟩).2.given
    given.length = 6 ∧ ∀ command ∈ given, Prepared soft command := by
  constructor
  · decide +kernel
  · apply (commands_prepared threeSteps (fun _ => "el8_amd64_gcc12") _ stoppedOnce _ "Run3_2022" _ _
      _ (hostOf 0).machine (shellOf 0) Dict.empty none 1 100 4 {} _ ["v12"] onePlan (hostOf 0)
      "v12" 1 1).1
    · intro era releases isReleases release member
      rw [releases_threeSteps isReleases, List.mem_singleton] at member
      rw [member]
    · simp [stoppedOnce, Installing.Stops]
    · decide +kernel
    · intro steps isSteps
      have listed : prodSteps threeSteps "Run3_2022" = .ok ["LHEGS", "MINIAOD", "NANO"] := by
        decide +kernel
      rw [listed] at isSteps
      rw [← Except.ok.inj isSteps]
      exact ⟨by decide, by decide⟩
    · decide +kernel
    · decide +kernel

end DSProd.Production
