import DSProd.Production.Accounted
import DSProd.Steps.Chain

/-!
# The events that a production delivers

The jobs of `System.lean` with what they do where they run: the steps of
`RunProd.run`, and the merge of `NanoMergeTask.run` with its counts.  A number
that a job of the system is given as an input is here the entries of the file
it has made, and every step of such a job is one of the system, or reads, or
ends the job.
-/

namespace DSProd.Production

open DSProd.Library
open DSProd.Steps
open DSProd.Tasks

/-! ## Jobs where they run -/

/-- Where a job runs.  The files that law fetches or prepares for it are in a
directory of law's own, and none of those that `count_events` keeps. -/
structure Host where
  machine : Machine
  shell : Shell
  tmpPath : Nat → String
  apart : ∀ number, tmpPath number ∉ machine.countNames

/-- What the jobs of a setup read of it. -/
structure Recipe where
  conditions : Conditions
  firstStep : Option String

/-- A `RunProd` job where it runs, with the MiniAOD file of its chain once that has run. -/
structure ProducingJob where
  job : RunProdJob
  host : Host
  inputs : StepInputs
  nThreads : ℤ
  miniaod : Option (Option String)
  state : Local

/-- `RunProd.run`: the chain, and for each version the nano step with its upload,
and the record. -/
def ProducingJob.advance (recipe : Recipe) (worker : ProducingJob) (storage : Storage)
    (succeeds : Bool) : Storage × Option ProducingJob :=
  match worker.miniaod with
  | none =>
      match runChain worker.host.machine worker.host.shell recipe.conditions worker.job.era
          recipe.firstStep "MINIAOD" worker.job.seed worker.job.nEvents worker.inputs
          worker.nThreads worker.state with
      | (.error _, _) => (storage, none)
      | (.ok file, state) => (storage, some { worker with miniaod := some file, state := state })
  | some miniaod =>
      match worker.job.versions with
      | [] => (storage, none)
      | version :: _ =>
          if worker.job.staged then
            if succeeds then
              let moved := worker.job.advance storage {}
              (moved.1, moved.2.map fun job => { worker with job := job })
            else (storage, none)
          else
            match runNano worker.host.machine worker.host.shell recipe.conditions worker.job.era
                version worker.job.seed worker.job.nEvents miniaod worker.nThreads
                worker.state with
            | (.error _, _) => (storage, none)
            | (.ok path, state) =>
                match entriesOf state.files "Events" path with
                | none => (storage, none)
                | some events =>
                    if succeeds then
                      let moved := worker.job.advance storage { number := events }
                      (moved.1, moved.2.map fun job => { worker with job := job, state := state })
                    else (storage, none)

/-- A `NanoMergeTask` job where it runs. -/
structure MergingJob where
  job : MergeJob
  host : Host
  state : Local

/-- The path of the merged file until it is uploaded. -/
def Host.outPath (host : Host) : String :=
  host.tmpPath 0

/-- The paths of the inputs of a merge, once they are fetched. -/
def Host.inPaths (host : Host) (inputs : Nat) : List String :=
  (List.range inputs).map fun index => host.tmpPath (index + 1)

/-- The merge of `NanoMergeTask.run` and its checks: the entries of the merged file. -/
def mergeNano (plan : Plan) (host : Host) (conditions : Conditions) (era version : String)
    (seeds inputs : Nat) : Action Local StepError ℤ := do
  -- the source reads these before it looks at the storage
  let vparams ← Action.lift (stepParams conditions era "NANO" (some version))
  haddNano host.machine host.shell (mergeParams vparams) host.outPath (host.inPaths inputs)
  let counts ← countEvents host.machine host.shell vparams (host.outPath :: host.inPaths inputs)
    "Events"
  let nOut := counts.headD 0
  let nIn := (counts.drop 1).sum
  if nOut ≠ nIn then Action.raise (.entryMismatch nOut nIn)
  else
    let contracted := plan.eventsPerJob * seeds
    if plan.test = 0 ∧ nOut ≠ contracted then
      Action.raise (.notContracted nOut contracted seeds)
    else pure nOut

/-- `NanoMergeTask.run`: the steps on the storage, with the inputs fetched to
where the job runs and the merged file uploaded from there. -/
def MergingJob.advance (plan : Plan) (recipe : Recipe) (worker : MergingJob) (storage : Storage)
    (succeeds : Bool) : Storage × Option MergingJob :=
  let follow (job : MergeJob) (input : Input) (state : Local) : Storage × Option MergingJob :=
    let moved := job.advance plan storage input
    (moved.1, moved.2.toOption.join.map fun job => { worker with job := job, state := state })
  match worker.job.phase with
  | .localize (seed :: _) inputs =>
      match storage.staged.get? (worker.job.unit, seed) with
      | none => (storage, none)
      | some events =>
          let fetched := worker.state.write (worker.host.tmpPath (inputs.length + 1))
            (.root (some (Dict.ofList [("Events", events)])))
          follow worker.job {} fetched
  | .hadd inputs =>
      match mergeNano plan worker.host recipe.conditions worker.job.unit.era
          worker.job.unit.version worker.job.seeds.length inputs.length worker.state with
      | (.error _, _) => (storage, none)
      | (.ok _, state) =>
          match entriesOf state.files "Events" worker.host.outPath with
          | none => (storage, none)
          | some events =>
              (storage, some { worker with
                job := worker.job.to (.upload ⟨events, inputs⟩), state := state })
  | .upload _ => if succeeds then follow worker.job {} worker.state else (storage, none)
  | .remove _ => follow worker.job { succeeds := succeeds } worker.state
  | _ => follow worker.job {} worker.state

/-! ## The production -/

/-- A job of the production, where it runs. -/
inductive Worker where
  | produce (worker : ProducingJob)
  | merge (worker : MergingJob)
  | sweep (job : SweepJob)

/-- A worker as a job of the system. -/
def Worker.job : Worker → Job
  | .produce worker => .runProd worker.job
  | .merge worker => .merge worker.job
  | .sweep job => .sweep job

/-- A job that is submitted, with where it runs and the files it finds there. -/
inductive Submitted where
  | produce (era point : String) (seed : Nat) (versions : List String) (host : Host)
      (inputs : StepInputs) (nThreads : ℤ) (files : Files)
  | merge (unit : ProdUnit) (group : Nat) (host : Host) (files : Files)
  | sweep (unit : ProdUnit) (prune : Bool) (maxStaleFraction : Number)

/-- The worker of a submission, at its beginning.  A `RunProd` job asks for the
events of a job of its setup. -/
def starts (plan : Plan) : Submitted → Option Worker
  | .produce era point seed versions host inputs nThreads files =>
      some (.produce ⟨⟨era, point, seed, plan.eventsPerJob, versions, false⟩, host, inputs,
        nThreads, none, ⟨files, []⟩⟩)
  | .merge unit group host files => (plan.groups unit)[group]?.map fun found =>
      .merge ⟨⟨unit, found.1, found.2, .checkStaged found.2 []⟩, host, ⟨files, []⟩⟩
  | .sweep unit prune maxStaleFraction =>
      some (.sweep ⟨unit, prune, maxStaleFraction, .listRecords⟩)

/-- A step of a worker. -/
def works (plan : Plan) (recipe : Recipe) (storage : Storage) (worker : Worker) (input : Input) :
    Storage × Option Worker :=
  match worker with
  | .produce worker =>
      let moved := worker.advance recipe storage input.succeeds
      (moved.1, moved.2.map .produce)
  | .merge worker =>
      let moved := worker.advance plan recipe storage input.succeeds
      (moved.1, moved.2.map .merge)
  | .sweep job =>
      let moved := job.advance plan storage input
      (moved.1, moved.2.toOption.join.map .sweep)

/-- One event of a production whose jobs run somewhere. -/
def workStep (plan : Plan) (recipe : Recipe) :
    Pool Storage Worker → PoolEvent Submitted Input → Pool Storage Worker :=
  Pool.step (starts plan) (works plan recipe)

/-- Nothing is produced yet, and no job runs. -/
def workStart : Pool Storage Worker :=
  ⟨Storage.empty, []⟩

variable {plan : Plan} {recipe : Recipe} {storage : Storage}

/-! ## What a merge delivers -/

/-- A merge that returns has left a merged file of the events it was contracted for. -/
theorem holds_of_mergeNano {host : Host} {conditions : Conditions} {era version : String}
    {seeds inputs : Nat} {state after : Local} {nOut : ℤ} (production : plan.test = 0)
    (returned : mergeNano plan host conditions era version seeds inputs state = (.ok nOut, after)) :
    Holds after.files host.outPath (plan.eventsPerJob * seeds) := by
  obtain ⟨_, _, _, returned⟩ := Action.bind_eq_ok_iff.mp returned
  obtain ⟨_, merged, _, returned⟩ := Action.bind_eq_ok_iff.mp returned
  obtain ⟨counts, counted, isCount, returned⟩ := Action.bind_eq_ok_iff.mp returned
  have apartOut : host.outPath ∉ host.machine.countNames := host.apart 0
  have apart : ∀ path ∈ host.outPath :: host.inPaths inputs, path ∉ host.machine.countNames := by
    intro path member
    rcases List.mem_cons.mp member with rfl | isInput
    · exact apartOut
    · obtain ⟨index, _, rfl⟩ := List.mem_map.mp isInput
      exact host.apart (index + 1)
  obtain ⟨counts, same⟩ := countEvents_true apart isCount
  obtain ⟨events, found⟩ := Option.isSome_iff_exists.mp (counts host.outPath List.mem_cons_self)
  subst same
  simp only [List.map_cons, List.headD_cons, found, Option.getD_some, ne_eq] at returned
  split at returned
  · cases returned
  split at returned
  · cases returned
  rename_i contracted
  obtain ⟨-, rfl⟩ := Action.pure_eq_ok_iff.mp returned
  apply Exists.intro events
  constructor
  · rw [entriesOf_congr (get?_of_countEvents apartOut isCount), found]
  · by_contra odd
    exact contracted ⟨production, odd⟩

/-! ## What every file holds -/

/-- The staged files hold the events of a job, and the records ask for them. -/
structure Exact (plan : Plan) (storage : Storage) : Prop where
  staged : ∀ file events, storage.staged.get? file = some events →
    (events : ℤ) = plan.eventsPerJob
  produced : ∀ file requested, storage.produced.get? file = some requested →
    requested = plan.eventsPerJob

/-- A job asks for the events of a job of its setup; the inputs a merge has
fetched hold that many each. -/
def Job.Exact (plan : Plan) : Job → Prop
  | .runProd job => job.nEvents = plan.eventsPerJob
  | .merge job => match job.phase with
    | .localize _ inputs => (inputs.sum : ℤ) = plan.eventsPerJob * inputs.length
    | .hadd inputs => (inputs.sum : ℤ) = plan.eventsPerJob * inputs.length
    | _ => True
  | .sweep _ => True

/-- A job that stages a file is given one of the events of a job. -/
def Job.Given (plan : Plan) (input : Input) : Job → Prop
  | .runProd job => job.versions ≠ [] → job.staged = false →
      (input.number : ℤ) = plan.eventsPerJob
  | .merge _ => True
  | .sweep _ => True

theorem exact_stage (exact : Exact plan storage) {events : Nat}
    (delivered : (events : ℤ) = plan.eventsPerJob) (file : ProdUnit × Nat) :
    Exact plan { storage with staged := storage.staged.set file events } where
  staged := by
    intro other found stored
    rw [Dict.get?_set] at stored
    split at stored
    · rw [← Option.some.inj stored, delivered]
    · exact exact.staged other found stored
  produced := exact.produced

theorem exact_record (exact : Exact plan storage) (file : ProdUnit × Nat) :
    Exact plan { storage with produced := storage.produced.set file plan.eventsPerJob } where
  staged := exact.staged
  produced := by
    intro other found stored
    rw [Dict.get?_set] at stored
    split at stored
    · exact (Option.some.inj stored).symm
    · exact exact.produced other found stored

theorem exact_remove (exact : Exact plan storage) (file : ProdUnit × Nat) :
    Exact plan { storage with staged := storage.staged.pop file } where
  staged := by
    intro other found stored
    rw [Dict.get?_pop] at stored
    split at stored
    · cases stored
    · exact exact.staged other found stored
  produced := exact.produced

theorem exact_prune (exact : Exact plan storage) (file : ProdUnit × Nat) :
    Exact plan { storage with produced := storage.produced.pop file } where
  staged := exact.staged
  produced := by
    intro other found stored
    rw [Dict.get?_pop] at stored
    split at stored
    · cases stored
    · exact exact.produced other found stored

/-- What a step of a job has to show. -/
structure Delivers (plan : Plan) (moved : Storage × Option Job) : Prop where
  exact : Exact plan moved.1
  asks : ∀ next, moved.2 = some next → next.Exact plan

theorem Delivers.stops (exact : Exact plan storage) : Delivers plan (storage, none) where
  exact := exact
  asks := fun _ ended => by cases ended

theorem Delivers.goesOn {job : Job} (exact : Exact plan storage) (asks : job.Exact plan) :
    Delivers plan (storage, some job) where
  exact := exact
  asks := fun _ same => Option.some.inj same ▸ asks

theorem delivers_runProd {job : RunProdJob} {input : Input} (exact : Exact plan storage)
    (asks : job.nEvents = plan.eventsPerJob) (given : (Job.runProd job).Given plan input) :
    Delivers plan (advance plan storage (.runProd job) input) := by
  rcases job with ⟨era, point, seed, nEvents, versions, staged⟩
  subst asks
  cases versions with
  | nil => exact Delivers.stops exact
  | cons version rest =>
      cases staged with
      | false =>
          exact Delivers.goesOn (exact_stage exact (given (List.cons_ne_nil _ _) rfl) _) rfl
      | true => exact Delivers.goesOn (exact_record exact _) rfl

theorem delivers_merge {job : MergeJob} {input : Input} (exact : Exact plan storage)
    (asks : (Job.merge job).Exact plan) :
    Delivers plan (advance plan storage (.merge job) input) := by
  rcases job with ⟨unit, group, seeds, phase⟩
  have nothing : (([] : List Nat).sum : ℤ) = plan.eventsPerJob * ([] : List Nat).length := by simp
  cases phase with
  | checkStaged rest missing =>
      cases rest with
      | cons seed rest => exact Delivers.goesOn exact trivial
      | nil =>
          simp only [advance, MergeJob.advance]
          split
          · exact Delivers.stops exact
          split
          · exact Delivers.goesOn exact nothing
          · exact Delivers.goesOn exact trivial
  | checkContracted rest sizes =>
      cases rest with
      | cons seed rest =>
          simp only [advance, MergeJob.advance]
          split
          · exact Delivers.stops exact
          · exact Delivers.goesOn exact trivial
      | nil =>
          simp only [advance, MergeJob.advance]
          split
          · exact Delivers.stops exact
          · exact Delivers.goesOn exact nothing
  | localize rest inputs =>
      cases rest with
      | nil => exact Delivers.goesOn exact asks
      | cons seed rest =>
          simp only [advance, MergeJob.advance]
          split
          · exact Delivers.stops exact
          · rename_i events found
            have fetched : (inputs.sum : ℤ) = plan.eventsPerJob * inputs.length := asks
            have next : ((inputs ++ [events]).sum : ℤ) =
                plan.eventsPerJob * (inputs ++ [events]).length := by
              rw [List.sum_append, List.sum_singleton, List.length_append, List.length_singleton,
                Nat.cast_add, Nat.cast_add, fetched, exact.staged _ _ found]
              ring
            exact Delivers.goesOn exact next
  | hadd inputs =>
      simp only [advance, MergeJob.advance]
      cases checkMerged plan seeds inputs input.number with
      | error error => exact Delivers.stops exact
      | ok file => exact Delivers.goesOn exact trivial
  | upload file => exact Delivers.goesOn ⟨exact.staged, exact.produced⟩ trivial
  | remove rest =>
      cases rest with
      | nil => exact Delivers.stops exact
      | cons seed rest =>
          simp only [advance, MergeJob.advance]
          split
          · exact Delivers.goesOn (exact_remove exact _) trivial
          · exact Delivers.goesOn exact trivial

theorem delivers_sweep {job : SweepJob} {input : Input} (exact : Exact plan storage) :
    Delivers plan (advance plan storage (.sweep job) input) := by
  rcases job with ⟨unit, prune, maxStaleFraction, phase⟩
  have notMerged : ∀ next : Option SweepJob, Delivers plan (storage, next.map .sweep) := by
    intro next
    cases next with
    | none => exact Delivers.stops exact
    | some next => exact Delivers.goesOn exact trivial
  cases phase with
  | drop stale =>
      cases stale with
      | nil => exact Delivers.stops exact
      | cons first rest =>
          simp only [advance, SweepJob.advance]
          split
          · exact Delivers.goesOn exact trivial
          · split
            · exact Delivers.goesOn (exact_prune exact _) trivial
            · exact Delivers.goesOn exact trivial
  | _ => exact notMerged _

theorem delivers_advance {job : Job} {input : Input} (exact : Exact plan storage)
    (asks : job.Exact plan) (given : job.Given plan input) :
    Delivers plan (advance plan storage job input) := by
  cases job with
  | runProd job => exact delivers_runProd exact asks given
  | merge job => exact delivers_merge exact asks
  | sweep job => exact delivers_sweep exact

/-! ## Every step is one of the system -/

/-- A step of a worker is one of its job, or it reads, or it ends the job. -/
inductive Follows (plan : Plan) (storage : Storage) (job : Job)
    (moved : Storage × Option Worker) : Prop where
  | stops (ended : moved = (storage, none))
  | reads (sameStorage : moved.1 = storage) (sameJob : moved.2.map Worker.job = some job)
  | steps (input : Input) (given : job.Given plan input)
      (isStep : (moved.1, moved.2.map Worker.job) = advance plan storage job input)

theorem follows_produce (asked : plan.eventsPerJob ≠ 0) (worker : ProducingJob) (input : Input)
    (asks : worker.job.nEvents = plan.eventsPerJob) :
    Follows plan storage (.runProd worker.job)
      (works plan recipe storage (.produce worker) input) := by
  rw [works, ProducingJob.advance]
  split
  · -- the chain
    split
    · exact .stops rfl
    · exact .reads rfl rfl
  split
  · exact .stops rfl
  split
  · -- the record
    rename_i isStaged
    split
    · apply Follows.steps {}
      · intro _ unstaged
        rw [isStaged] at unstaged
        cases unstaged
      · rw [Option.map_map, Option.map_map]
        rfl
    · exact .stops rfl
  -- the nano step and its upload
  split
  · exact .stops rfl
  rename_i path state returned
  split
  · exact .stops rfl
  rename_i events found
  split
  · obtain ⟨counted, holds, isAsked⟩ := holds_of_runNano (by rw [asks]; exact asked) returned
    rw [found] at holds
    cases holds
    apply Follows.steps { number := events }
    · exact fun _ _ => isAsked.trans asks
    · rw [Option.map_map, Option.map_map]
      rfl
  · exact .stops rfl

/-- A worker that takes the step of its job. -/
theorem follows_of_advance (worker : MergingJob) (input : Input) (state : Local) :
    Follows plan storage (.merge worker.job)
      ((worker.job.advance plan storage input).1,
        ((worker.job.advance plan storage input).2.toOption.join.map fun job =>
          { worker with job := job, state := state }).map .merge) := by
  apply Follows.steps input
  · exact trivial
  · rw [Option.map_map, Option.map_map]
    rfl

/-- The merged file that a worker uploads is one that the system lets through. -/
theorem checkMerged_of_holds {seeds inputs : List Nat} {events : Nat}
    (fetched : (inputs.sum : ℤ) = plan.eventsPerJob * inputs.length)
    (complete : inputs.length = seeds.length)
    (merged : (events : ℤ) = plan.eventsPerJob * seeds.length) :
    checkMerged plan seeds inputs events = .ok ⟨events, inputs⟩ := by
  have same : events = inputs.sum := by
    rw [← complete, ← fetched] at merged
    exact Int.ofNat.inj merged
  rw [checkMerged, if_neg (not_not.mpr same), if_neg]
  rintro ⟨-, odd⟩
  exact odd merged

theorem follows_merge (production : plan.test = 0) (worker : MergingJob) (input : Input)
    (relies : worker.job.Relies plan storage) (asks : (Job.merge worker.job).Exact plan) :
    Follows plan storage (.merge worker.job) (works plan recipe storage (.merge worker) input) := by
  rcases worker with ⟨⟨unit, group, seeds, phase⟩, host, state⟩
  simp only [works, MergingJob.advance]
  cases phase with
  | checkStaged rest missing => exact follows_of_advance ⟨⟨unit, group, seeds, _⟩, host, state⟩ {} _
  | checkContracted rest sizes =>
      exact follows_of_advance ⟨⟨unit, group, seeds, _⟩, host, state⟩ {} _
  | localize rest inputs =>
      cases rest with
      | nil => exact follows_of_advance ⟨⟨unit, group, seeds, _⟩, host, state⟩ {} _
      | cons seed rest =>
          simp only
          split
          · exact .stops rfl
          · exact follows_of_advance ⟨⟨unit, group, seeds, _⟩, host, state⟩ {} _
  | hadd inputs =>
      simp only
      split
      · exact .stops rfl
      · rename_i after returned
        obtain ⟨events, found, isContracted⟩ := holds_of_mergeNano production returned
        apply Follows.steps { number := events }
        · exact trivial
        · simp [found, advance, MergeJob.advance, goesOn, Worker.job, Except.map,
            Except.toOption, checkMerged_of_holds asks relies.phase isContracted, MergeJob.to]
  | upload file =>
      simp only
      split
      · exact follows_of_advance ⟨⟨unit, group, seeds, _⟩, host, state⟩ {} _
      · exact .stops rfl
  | remove rest =>
      exact follows_of_advance ⟨⟨unit, group, seeds, _⟩, host, state⟩
        { succeeds := input.succeeds } _

theorem follows_sweep (job : SweepJob) (input : Input) :
    Follows plan storage (.sweep job) (works plan recipe storage (.sweep job) input) := by
  apply Follows.steps input
  · exact trivial
  · simp only [works, Option.map_map]
    rfl

theorem follows_works (asked : plan.eventsPerJob ≠ 0) (production : plan.test = 0)
    (worker : Worker) (input : Input) (relies : worker.job.Relies plan storage)
    (asks : worker.job.Exact plan) :
    Follows plan storage worker.job (works plan recipe storage worker input) := by
  cases worker with
  | produce worker => exact follows_produce asked worker input asks
  | merge worker => exact follows_merge production worker input relies asks
  | sweep job => exact follows_sweep job input

/-! ## The discipline of the workers -/

/-- The storage is consistent, and exact. -/
structure InOrder (plan : Plan) (storage : Storage) : Prop where
  consistent : Consistent plan storage
  exact : Exact plan storage

/-- What a worker relies on, and what it asks for. -/
structure Worker.Relies (plan : Plan) (storage : Storage) (worker : Worker) : Prop where
  relies : worker.job.Relies plan storage
  asks : worker.job.Exact plan

/-- What a step that follows the system has to show. -/
theorem kept_of_follows {worker : Worker} {moved : Storage × Option Worker}
    (inOrder : InOrder plan storage) (relies : worker.Relies plan storage)
    (follows : Follows plan storage worker.job moved) :
    InOrder plan moved.1 ∧ Preserves plan storage moved.1 ∧
      ∀ next, moved.2 = some next → next.Relies plan moved.1 := by
  cases follows with
  | stops ended =>
      subst ended
      exact ⟨inOrder, Preserves.refl plan storage, fun _ ended => by cases ended⟩
  | reads sameStorage sameJob =>
      rcases moved with ⟨later, next⟩
      subst sameStorage
      obtain ⟨next, rfl, isJob⟩ := Option.map_eq_some_iff.mp sameJob
      refine ⟨inOrder, Preserves.refl plan later, fun other same => ?_⟩
      cases same
      exact ⟨isJob ▸ relies.relies, isJob ▸ relies.asks⟩
  | steps input given isStep =>
      have safe : Safe plan storage (advance plan storage worker.job input) :=
        safe_advance inOrder.consistent relies.relies
      have delivers := delivers_advance inOrder.exact relies.asks given
      rw [← isStep] at safe delivers
      refine ⟨⟨safe.consistent, delivers.exact⟩, safe.preserves, fun next same => ?_⟩
      have isJob : moved.2.map Worker.job = some next.job := by rw [same, Option.map_some]
      exact ⟨safe.relies next.job isJob, delivers.asks next.job isJob⟩

/-- A job that is submitted is one that the system knows. -/
theorem relies_of_starts {request : Submitted} {worker : Worker}
    (started : starts plan request = some worker) : worker.Relies plan storage := by
  cases request with
  | produce era point seed versions host inputs nThreads files =>
      cases started
      refine ⟨fun staged => ?_, rfl⟩
      cases staged
  | merge unit group host files =>
      simp only [starts, Option.map_eq_some_iff] at started
      obtain ⟨found, present, rfl⟩ := started
      exact ⟨⟨List.mem_of_getElem? present, trivial⟩, trivial⟩
  | sweep unit prune maxStaleFraction =>
      cases started
      exact ⟨trivial, trivial⟩

/-- The workers of a production keep this discipline. -/
def workDiscipline (recipe : Recipe) (asked : plan.eventsPerJob ≠ 0) (production : plan.test = 0) :
    Discipline (starts plan) (works plan recipe) where
  invariant := InOrder plan
  holds := fun storage worker => worker.Relies plan storage
  guarantee := Preserves plan
  refl := Preserves.refl plan
  stable := fun _ _ _ preserves relies =>
    ⟨relies_of_preserves preserves relies.relies, relies.asks⟩
  atStart := fun _ _ _ => relies_of_starts
  kept := fun _ worker input inOrder relies =>
    (kept_of_follows inOrder relies
      (follows_works asked production worker input relies.relies relies.asks)).1
  guaranteed := fun _ worker input inOrder relies =>
    (kept_of_follows inOrder relies
      (follows_works asked production worker input relies.relies relies.asks)).2.1
  goesOn := fun _ worker input next inOrder relies =>
    (kept_of_follows inOrder relies
      (follows_works asked production worker input relies.relies relies.asks)).2.2 next

/-! ## What a production delivers -/

/-- The slices of a list, one after the other, are the beginning of it. -/
theorem flatMap_slices (seeds : List Nat) (size count : Nat) :
    (List.range count).flatMap (fun index => (seeds.drop (index * size)).take size) =
      seeds.take (count * size) := by
  induction count with
  | zero => simp
  | succ count ih =>
      rw [List.range_succ, List.flatMap_append, ih, List.flatMap_singleton, Nat.succ_mul,
        List.take_add]

/-- The groups of a unit have its seeds, each of them once. -/
theorem sum_length_groups (positive : 1 ≤ plan.filesPerMerge) (unit : ProdUnit) :
    ((plan.groups unit).map fun group => group.2.length).sum = plan.nJobs unit.era unit.point := by
  have enough : (plan.seeds unit).length ≤
      ((plan.seeds unit).length + plan.filesPerMerge - 1) / plan.filesPerMerge *
        plan.filesPerMerge := by
    have division := Nat.div_add_mod ((plan.seeds unit).length + plan.filesPerMerge - 1)
      plan.filesPerMerge
    have remainder := Nat.mod_lt ((plan.seeds unit).length + plan.filesPerMerge - 1) positive
    rw [Nat.mul_comm] at division
    omega
  have lengths : ((plan.groups unit).map fun group => group.2.length).sum =
      ((plan.groups unit).flatMap Prod.snd).length := by
    rw [List.length_flatMap]
  rw [lengths, Plan.groups, mergeGroups, List.flatMap_map, flatMap_slices,
    List.take_of_length_le enough]
  simp [Plan.seeds]

theorem sum_map_eq {α : Type} {values : List α} {entries jobs : α → Nat} {size : ℤ}
    (each : ∀ value ∈ values, (entries value : ℤ) = size * jobs value) :
    ((values.map entries).sum : ℤ) = size * (values.map jobs).sum := by
  induction values with
  | nil => simp
  | cons value rest ih =>
      have others := ih fun other member => each other (List.mem_cons_of_mem value member)
      rw [List.map_cons, List.map_cons, List.sum_cons, List.sum_cons, Nat.cast_add, Nat.cast_add,
        others, each value List.mem_cons_self, mul_add]

/-- The entries of the merged files of a unit. -/
def mergedEntries (plan : Plan) (storage : Storage) (unit : ProdUnit) : Nat :=
  ((plan.groups unit).map fun group =>
    ((storage.merged.get? (unit, group.1)).map MergedFile.entries).getD 0).sum

/-- A unit whose groups are all merged has the events of all of its jobs. -/
theorem mergedEntries_eq (production : plan.test = 0) (positive : 1 ≤ plan.filesPerMerge)
    (consistent : Consistent plan storage) {unit : ProdUnit}
    (complete : ∀ group ∈ plan.groups unit, (unit, group.1) ∈ storage.merged.keys) :
    (mergedEntries plan storage unit : ℤ) =
      plan.eventsPerJob * plan.nJobs unit.era unit.point := by
  have each : ∀ group ∈ plan.groups unit,
      ((((storage.merged.get? (unit, group.1)).map MergedFile.entries).getD 0 : Nat) : ℤ) =
        plan.eventsPerJob * group.2.length := by
    intro group member
    obtain ⟨file, stored⟩ := Dict.mem_keys_iff.mp (complete group member)
    rw [stored]
    exact (consistent.verified unit group member file stored).contracted production
  rw [mergedEntries, sum_map_eq each, sum_length_groups positive]

/-- Whatever the programs of its jobs do and however its jobs are lost, a
production holds what it says: each staged file has the events of a job, each
record asks for them and has its staged file or the merged file of its group,
each merged file has the events of all its seeds, and a unit that is merged has
those of all its jobs. -/
theorem production_delivers (plan : Plan) (recipe : Recipe) (asked : plan.eventsPerJob ≠ 0)
    (production : plan.test = 0) (positive : 1 ≤ plan.filesPerMerge)
    (events : List (PoolEvent Submitted Input)) :
    let storage := (run (workStep plan recipe) workStart events).shared
    (∀ file staged, storage.staged.get? file = some staged → (staged : ℤ) = plan.eventsPerJob) ∧
      (∀ unit seed requested, storage.produced.get? (unit, seed) = some requested →
        requested = plan.eventsPerJob ∧ Accounted plan storage unit seed) ∧
      (∀ unit, ∀ group ∈ plan.groups unit, ∀ file,
        storage.merged.get? (unit, group.1) = some file →
          (file.entries : ℤ) = plan.eventsPerJob * group.2.length) ∧
      ∀ unit, (∀ group ∈ plan.groups unit, (unit, group.1) ∈ storage.merged.keys) →
        (mergedEntries plan storage unit : ℤ) =
          plan.eventsPerJob * plan.nJobs unit.era unit.point := by
  have begins : (workDiscipline recipe asked production).Sound workStart := by
    constructor
    · constructor
      · exact ⟨by simp [workStart, Storage.empty], by simp [workStart, Storage.empty]⟩
      · exact ⟨by simp [workStart, Storage.empty], by simp [workStart, Storage.empty]⟩
    · simp [workStart]
  have inOrder : InOrder plan (run (workStep plan recipe) workStart events).shared :=
    (Discipline.sound_run begins events).invariant
  refine ⟨inOrder.exact.staged, fun unit seed requested stored => ⟨?_, ?_⟩, ?_, ?_⟩
  · exact inOrder.exact.produced (unit, seed) requested stored
  · exact inOrder.consistent.records unit seed (Dict.mem_keys_of_get? stored)
  · exact fun unit group member file stored =>
      (inOrder.consistent.verified unit group member file stored).contracted production
  · exact fun unit complete => mergedEntries_eq production positive inOrder.consistent complete

/-- The conditions of an era of three steps. -/
def threeSteps : Conditions where
  default := Dict.ofList [("CMSSW", "CMSSW_15_0_2"), ("SCRAM_ARCH", "el8_amd64_gcc12"),
    ("eventcontent", "AODSIM"), ("datatier", "AODSIM"), ("GlobalTag", "130X"), ("step", "PAT"),
    ("geometry", "DB:Extended"), ("era", "Run3"), ("comEnergy", "13600"), ("beamspot", "Realistic")]
  defaultStep := Dict.empty
  eras := Dict.ofList [("Run3_2022", ⟨Dict.empty, ["LHEGS", "MINIAOD", "NANO"],
    Dict.ofList [("NANO", ⟨Dict.empty, some (Dict.ofList [("v12", Dict.empty)])⟩)]⟩)]

/-- A shell whose steps leave the events they are asked for, but for the first
`lost` ones, which leave one less; its merges leave what their inputs hold. -/
def shellOf (lost : Nat) : Shell := fun given =>
  match given with
  | ⟨_, _, .cmsDriver _ _ nEvt _ _ fileout _ _ _⟩ :: earlier =>
      let events := if earlier.length < lost then nEvt.toNat - 1 else nEvt.toNat
      { leaves := fun files =>
          files.set ("/job/" ++ fileout) (.root (some (Dict.ofList [("Events", events)]))) }
  | ⟨_, _, .haddnano out inputs⟩ :: _ =>
      { leaves := fun files => files.set out (.root (some (Dict.ofList
          [("Events", (inputs.map fun path => (entriesOf files "Events" path).getD 0).sum)]))) }
  | _ => {}

/-- A worker node, with law's own directory beside that of the job. -/
def hostOf (lost : Nat) : Host where
  machine := ⟨Dict.ofList [("ANALYSIS_PATH", "/afs/DSProd")], ["VERSION_ID=\"8.10\""], "/job"⟩
  shell := shellOf lost
  tmpPath := fun number => "/law/" ++ number.repr
  apart := by
    intro number kept
    obtain ⟨name, _, same⟩ := List.mem_map.mp kept
    have beginning := congrArg (fun text : String => text.toList.take 2) same
    simp [join, String.toList_append] at beginning

/-- A job that comes up short, the same seed once more, and the merge of it. -/
def shortThenFull : List (PoolEvent Submitted Input) :=
  [.spawn (.produce "Run3_2022" "Radion_M-250" 1 ["v12"] (hostOf 1) {} 4 Dict.empty),
      .advance 0 {},
      .spawn (.produce "Run3_2022" "Radion_M-250" 1 ["v12"] (hostOf 0) {} 4 Dict.empty)] ++
    List.replicate 4 (.advance 0 {}) ++
    .spawn (.merge oneUnit 0 (hostOf 0) Dict.empty) :: List.replicate 10 (.advance 0 {})

theorem production_delivers_shortThenFull :
    let storage := (run (workStep onePlan ⟨threeSteps, none⟩) workStart shortThenFull).shared
    storage = ⟨Dict.ofList [((oneUnit, 1), 100)], Dict.empty,
        Dict.ofList [((oneUnit, 0), ⟨100, [100]⟩)]⟩ ∧
      (mergedEntries onePlan storage oneUnit : ℤ) = 100 * 1 := by
  have delivered : (run (workStep onePlan ⟨threeSteps, none⟩) workStart shortThenFull).shared =
      ⟨Dict.ofList [((oneUnit, 1), 100)], Dict.empty,
        Dict.ofList [((oneUnit, 0), ⟨100, [100]⟩)]⟩ := by
    decide +kernel
  refine ⟨delivered, ?_⟩
  apply (production_delivers onePlan ⟨threeSteps, none⟩ (by decide) rfl (by decide)
    shortThenFull).2.2.2 oneUnit
  rw [delivered]
  decide

end DSProd.Production
