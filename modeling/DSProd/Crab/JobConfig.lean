import DSProd.Crab.SiteSelection
import DSProd.SiteStats.Persistence

/-!
# What a CRAB job asks for

`crab_job_config` of `crab.py`: the cores, the memory, the run time and the
sites of a submission.  CRAB takes 1, 2, 4 or 8 cores and sells memory by the
core, so a request for memory may raise the cores, and `max_cores` bounds both.

The steps of a payload run with the `n_cpus` of the task, which are not the
cores that were asked for.
-/

namespace DSProd.Crab

open DSProd.Library
open DSProd.Tasks

/-! ## Settings -/

/-- The `crab` block of the configuration: its lists of sites, and its other
settings by name. -/
structure CrabCfg where
  whitelist : List String := []
  blacklist : List String := []
  settings : List (String × Json) := []

/-- Why no job is configured. -/
inductive JobConfigError where
  | legacySetting (name : String)
  | conversion (fault : Json.Fault)
  | notMegabytes (memory : ℤ)
  | divisionByZero
  | needsCores (memory wanted cores ceiling : ℤ)
  | unprepared (error : String)
  | selection (error : SelectionError)
  deriving DecidableEq

/-- `int(cfg.get(name, default))`. -/
def CrabCfg.getInt (cfg : CrabCfg) (name : String) (default : ℤ) : Except JobConfigError ℤ :=
  (SiteStats.toInt ((cfg.settings.lookup name).getD (.int default))).mapError .conversion

/-- `_crab_cfg`: a setting of an older version is refused. -/
def CrabCfg.checked (cfg : CrabCfg) : Except JobConfigError Unit :=
  match ["max_memory_mb", "max_memory_mb_per_core"].find? fun name =>
      (cfg.settings.lookup name).isSome with
  | some legacy => .error (.legacySetting legacy)
  | none => .ok ()

/-- `CRAB_MB_PER_CORE`. -/
def crabMbPerCore : ℤ :=
  2500

/-- `CRAB_MB_SINGLE_CORE`. -/
def crabMbSingleCore : ℤ :=
  3000

/-- `CRAB_ALLOWED_CORES`. -/
def crabAllowedCores : List ℤ :=
  [1, 2, 4, 8]

/-- `_crab_cores_up`. -/
def crabCoresUp (cores : ℤ) : ℤ :=
  (crabAllowedCores.find? fun allowed => cores ≤ allowed).getD 8

/-- `_crab_cores_down`. -/
def crabCoresDown (cores : ℤ) : ℤ :=
  (crabAllowedCores.reverse.find? fun allowed => allowed ≤ cores).getD 1

/-- `_CRAB_ALL_SITES`. -/
def crabAllSites : List String :=
  ["T1_*", "T2_*", "T3_*"]

/-- What `crab_job_config` reads of the configuration: CRAB's limits, the
setting for the most cores, and the memory of a job that names none. -/
structure Limits where
  mbPerCore : ℤ
  mbSingleCore : ℤ
  maxCores : ℤ
  memoryMb : ℤ

/-- The limits of a configuration. -/
def CrabCfg.limits (cfg : CrabCfg) : Except JobConfigError Limits := do
  cfg.checked
  let mbPerCore ← cfg.getInt "mb_per_core" crabMbPerCore
  let mbSingleCore ← cfg.getInt "mb_single_core" crabMbSingleCore
  let maxCores ← cfg.getInt "max_cores" 8
  let memoryMb ← (SiteStats.toInt (Json.getOr cfg.settings "memory_mb" (.int 0))).mapError
    .conversion
  return ⟨mbPerCore, mbSingleCore, maxCores, memoryMb⟩

/-! ## Cores and memory -/

/-- The parameters of a task that `crab_job_config` reads. -/
structure CrabTask where
  nCpus : ℤ
  memory : ℤ
  crabMemory : ℤ := -1
  maxRuntime : Option Number := none
  crabWhitelist : List String := []
  crabBlacklist : List String := []

/-- `n_cpus`, at least one. -/
def CrabTask.cpus (task : CrabTask) : ℤ :=
  max 1 (if task.nCpus = 0 then 1 else task.nCpus)

/-- The requests for memory, in the order of their precedence. -/
def CrabTask.requests (task : CrabTask) (limits : Limits) : List ℤ :=
  [task.crabMemory, task.memory, limits.memoryMb]

/-- The first request for memory: `mem`. -/
def CrabTask.request (task : CrabTask) (limits : Limits) : Option ℤ :=
  (task.requests limits).find? fun candidate => 0 < candidate

/-- `-(-mem // mb_per_core)`. -/
def coresFor (memory mbPerCore : ℤ) : ℤ :=
  -(Int.fdiv (-memory) mbPerCore)

/-- The most cores of a job: `max_cores`. -/
def Limits.cap (limits : Limits) : ℤ :=
  crabCoresDown (max 1 limits.maxCores)

/-- The cores of a job that needs some: `n_cores`. -/
def Limits.cores (limits : Limits) (needed : ℤ) : ℤ :=
  max 1 (min (crabCoresUp needed) limits.cap)

/-- The most memory CRAB allows with some cores: `ceiling`. -/
def Limits.ceiling (limits : Limits) (cores : ℤ) : ℤ :=
  max limits.mbSingleCore (cores * limits.mbPerCore)

/-- The cores and the memory a job asks for. -/
def CrabTask.resources (task : CrabTask) (limits : Limits) : Except JobConfigError (ℤ × ℤ) :=
  match task.request limits with
  | none =>
      let cores := limits.cores task.cpus
      .ok (cores, limits.ceiling cores)
  | some memory =>
      if memory < 1000 then .error (.notMegabytes memory)
      else if limits.mbPerCore = 0 then .error .divisionByZero
      else
        let cores := limits.cores (max task.cpus (coresFor memory limits.mbPerCore))
        -- an explicit request is never clamped
        if limits.ceiling cores < memory then
          .error (.needsCores memory (crabCoresUp (coresFor memory limits.mbPerCore)) cores
            (limits.ceiling cores))
        else .ok (cores, memory)

/-! ## The configuration -/

/-- What the submission finds around it: whether the pset and the tarball can
be written, the sites in quarantine, and the list of processing sites. -/
structure Surroundings where
  prepared : Except String Unit
  quarantined : List String
  processingSites : Except String (List String)

/-- The run time of a job, in minutes. -/
def runtimeMinutes (cfg : CrabCfg) (task : CrabTask) : Except JobConfigError (Option ℤ) :=
  match task.maxRuntime with
  | none => .ok none
  | some hours =>
      if (Number.finite 0).lt hours then do
        let least ← cfg.getInt "min_runtime_min" 60
        match hours with
        | .finite value => return some (max ⌊value * 60⌋ least)
        | _ => throw (.conversion .overflowError)
      else .ok none

/-- The blacklist of a submission. -/
def excludedSites (cfg : CrabCfg) (task : CrabTask) (around : Surroundings) : List String :=
  let configured := if task.crabBlacklist = [] then cfg.blacklist else task.crabBlacklist
  configured ++ around.quarantined.filter fun site => site ∉ configured

/-- The whitelist of a submission. -/
def allowedSites (cfg : CrabCfg) (task : CrabTask) (around : Surroundings) :
    Except JobConfigError (List String) := do
  let configured := if task.crabWhitelist = [] then cfg.whitelist else task.crabWhitelist
  let sites ← around.processingSites.mapError .unprepared
  (resolveWhitelist (if configured = [] then crabAllSites else configured)
    (excludedSites cfg task around) sites).mapError .selection

/-- What a submission asks for apart from cores and memory. -/
structure JobTerms where
  maxJobRuntimeMin : Option ℤ
  whitelist : List String
  blacklist : List String
  ignoreGlobalBlacklist : Bool

/-- `crab_job_config` after the cores and the memory. -/
def jobTerms (cfg : CrabCfg) (task : CrabTask) (around : Surroundings) :
    Except JobConfigError JobTerms := do
  around.prepared.mapError .unprepared
  let minutes ← runtimeMinutes cfg task
  let whitelist ← allowedSites cfg task around
  return ⟨minutes, whitelist, excludedSites cfg task around,
    (Json.getOr cfg.settings "ignore_global_blacklist" (.bool false)).truthy⟩

/-- The configuration of a job. -/
structure JobConfig where
  numCores : ℤ
  maxMemoryMb : ℤ
  terms : JobTerms

/-- `crab_job_config`. -/
def crabJobConfig (cfg : CrabCfg) (task : CrabTask) (around : Surroundings) :
    Except JobConfigError JobConfig := do
  let limits ← cfg.limits
  let (cores, memory) ← task.resources limits
  let terms ← jobTerms cfg task around
  return ⟨cores, memory, terms⟩

/-- The threads that the pset of a job declares: `_ensure_crab_pset`. -/
def JobConfig.psetThreads (config : JobConfig) : ℤ :=
  max 1 config.numCores

/-- The threads that `RunProd.run` gives the steps of its payload: `n_threads`. -/
def CrabTask.threads (task : CrabTask) : ℤ :=
  task.nCpus

/-! ## What is asked for and what runs -/

/-- A job asks for what CRAB takes, for the memory that is requested, and for
the threads that it runs. -/
structure FitsPayload (limits : Limits) (task : CrabTask) (config : JobConfig) : Prop where
  accepted : config.numCores ∈ crabAllowedCores
  capped : config.numCores ≤ max 1 limits.maxCores
  allowed : config.maxMemoryMb ≤ max limits.mbSingleCore (config.numCores * limits.mbPerCore)
  request : ∀ memory ∈ task.request limits, config.maxMemoryMb = memory
  threads : task.threads ≤ config.numCores

/-- A job that is configured fits its payload. -/
def AsksWhatItRuns (cfg : CrabCfg) (task : CrabTask) (around : Surroundings) : Prop :=
  ∀ limits config, cfg.limits = .ok limits → crabJobConfig cfg task around = .ok config →
    FitsPayload limits task config

/-- A request that is refused: it cannot be in MB, there is nothing to divide it
by, or the most cores do not hold it. -/
def RefusesMemory (limits : Limits) (task : CrabTask) : Prop :=
  ∃ memory ∈ task.request limits,
    memory < 1000 ∨ limits.mbPerCore = 0 ∨ limits.ceiling limits.cap < memory

/-! ## Cores -/

theorem crabCoresUp_eq (cores : ℤ) :
    crabCoresUp cores = if cores ≤ 1 then 1 else if cores ≤ 2 then 2 else if cores ≤ 4 then 4
      else 8 := by
  simp only [crabCoresUp, crabAllowedCores, List.find?_cons]
  split_ifs with one two four
  · simp [one]
  · simp [one, two]
  · simp [one, two, four]
  · cases decide (cores ≤ 8) <;> simp [one, two, four]

theorem crabCoresDown_eq (cores : ℤ) :
    crabCoresDown cores = if 8 ≤ cores then 8 else if 4 ≤ cores then 4 else if 2 ≤ cores then 2
      else 1 := by
  simp only [crabCoresDown, crabAllowedCores, List.reverse_cons, List.reverse_nil,
    List.nil_append, List.cons_append, List.find?_cons]
  split_ifs with eight four two
  · simp [eight]
  · simp [eight, four]
  · simp [eight, four, two]
  · cases decide (1 ≤ cores) <;> simp [eight, four, two]

section Cores

variable (limits : Limits)

theorem cap_eq :
    limits.cap = if 8 ≤ limits.maxCores then 8 else if 4 ≤ limits.maxCores then 4
      else if 2 ≤ limits.maxCores then 2 else 1 := by
  rw [Limits.cap, crabCoresDown_eq]
  grind

/-- The cores of a job are some that CRAB takes. -/
theorem cores_mem (needed : ℤ) : limits.cores needed ∈ crabAllowedCores := by
  rw [Limits.cores, crabCoresUp_eq, cap_eq]
  simp only [crabAllowedCores, List.mem_cons, List.not_mem_nil, or_false]
  grind

theorem cores_le_max (needed : ℤ) : limits.cores needed ≤ max 1 limits.maxCores := by
  rw [Limits.cores, crabCoresUp_eq, cap_eq]
  grind

/-- The cores of a job hold the threads that the cap holds, and no more. -/
theorem le_cores_iff {threads needed : ℤ} (fewer : threads ≤ needed) :
    threads ≤ limits.cores needed ↔ threads ≤ limits.cap := by
  rw [Limits.cores, crabCoresUp_eq, cap_eq]
  grind

/-- A job that needs more cores than the cap gets the cap. -/
theorem cores_of_cap_lt {needed : ℤ} (more : limits.cap < needed) :
    limits.cores needed = limits.cap := by
  rw [cap_eq] at more
  rw [Limits.cores, crabCoresUp_eq, cap_eq]
  grind

end Cores

section Task

variable {limits : Limits} {task : CrabTask}

theorem nCpus_le_cpus (task : CrabTask) : task.nCpus ≤ task.cpus := by
  rw [CrabTask.cpus]
  grind

/-- What a task gets: cores for its threads, and the memory it requests or all
that the cores hold. -/
theorem resources_ok {cores memory : ℤ} (granted : task.resources limits = .ok (cores, memory)) :
    (∃ needed, task.cpus ≤ needed ∧ cores = limits.cores needed) ∧
      memory ≤ limits.ceiling cores ∧ ∀ request ∈ task.request limits, memory = request := by
  rw [CrabTask.resources] at granted
  cases requested : task.request limits with
  | none =>
      rw [requested] at granted
      cases granted
      exact ⟨⟨task.cpus, le_rfl, rfl⟩, le_rfl, fun _ isNone => by cases isNone⟩
  | some request =>
      rw [requested] at granted
      dsimp only at granted
      split_ifs at granted with _ _ held
      cases granted
      refine ⟨⟨_, le_max_left _ _, rfl⟩, not_lt.mp held, fun other isOther => ?_⟩
      exact Option.some.inj isOther

/-- A task with more threads than the cap is refused exactly when its request
for memory is. -/
theorem resources_error_iff (more : limits.cap < task.cpus) :
    (∃ error, task.resources limits = .error error) ↔ RefusesMemory limits task := by
  rw [CrabTask.resources, RefusesMemory]
  cases requested : task.request limits with
  | none => simp
  | some memory =>
      have capped : limits.cores (max task.cpus (coresFor memory limits.mbPerCore)) = limits.cap :=
        cores_of_cap_lt limits (lt_of_lt_of_le more (le_max_left _ _))
      simp only [capped, Option.mem_def, Option.some.injEq, exists_eq_left']
      split_ifs <;> simp_all

end Task

/-- What a job is configured with: resources that are granted, and other terms. -/
theorem crabJobConfig_eq_ok {cfg : CrabCfg} {task : CrabTask} {around : Surroundings}
    {limits : Limits} (readable : cfg.limits = .ok limits) {config : JobConfig} :
    crabJobConfig cfg task around = .ok config ↔
      task.resources limits = .ok (config.numCores, config.maxMemoryMb) ∧
        jobTerms cfg task around = .ok config.terms := by
  obtain ⟨cores, memory, terms⟩ := config
  rw [crabJobConfig, readable]
  change (task.resources limits >>= fun resources =>
    jobTerms cfg task around >>= fun terms => _) = _ ↔ _
  cases task.resources limits with
  | error error => simp [bind, Except.bind]
  | ok resources =>
      cases jobTerms cfg task around with
      | error error => simp [bind, Except.bind]
      | ok others => simp [bind, Except.bind, pure, Except.pure, Prod.ext_iff, and_assoc]

/-- CRAB refuses a task whose pset declares other threads than its cores. -/
theorem psetThreads_eq {cfg : CrabCfg} {task : CrabTask} {around : Surroundings} {limits : Limits}
    (readable : cfg.limits = .ok limits) {config : JobConfig}
    (configured : crabJobConfig cfg task around = .ok config) :
    config.psetThreads = config.numCores := by
  obtain ⟨⟨needed, _, isCores⟩, _⟩ := resources_ok ((crabJobConfig_eq_ok readable).mp configured).1
  rw [JobConfig.psetThreads, isCores, Limits.cores]
  grind

/-- A job that is configured fits its payload when its threads are within the
cap, and only then: all else that it asks for is as it has to be. -/
theorem fitsPayload_iff {cfg : CrabCfg} {task : CrabTask} {around : Surroundings} {limits : Limits}
    (readable : cfg.limits = .ok limits) {config : JobConfig}
    (configured : crabJobConfig cfg task around = .ok config) :
    FitsPayload limits task config ↔ task.nCpus ≤ limits.cap := by
  obtain ⟨⟨needed, atLeast, isCores⟩, withinCeiling, asRequested⟩ :=
    resources_ok ((crabJobConfig_eq_ok readable).mp configured).1
  rw [← le_cores_iff limits ((nCpus_le_cpus task).trans atLeast), ← isCores]
  constructor
  · exact FitsPayload.threads
  · intro threads
    exact ⟨isCores ▸ cores_mem limits needed, isCores ▸ cores_le_max limits needed,
      withinCeiling, asRequested, threads⟩

/-- A task with more threads than the cap is refused exactly when its request
for memory is, or the other terms are. -/
theorem not_configured_iff {cfg : CrabCfg} {task : CrabTask} {around : Surroundings}
    {limits : Limits} (readable : cfg.limits = .ok limits) (more : limits.cap < task.nCpus) :
    (∀ config, crabJobConfig cfg task around ≠ .ok config) ↔
      RefusesMemory limits task ∨ ∃ error, jobTerms cfg task around = .error error := by
  rw [← resources_error_iff (lt_of_lt_of_le more (nCpus_le_cpus task))]
  constructor
  · intro refused
    cases granted : task.resources limits with
    | error error => exact Or.inl ⟨error, rfl⟩
    | ok resources =>
        cases agreed : jobTerms cfg task around with
        | error error => exact Or.inr ⟨error, rfl⟩
        | ok terms =>
            exact absurd ((crabJobConfig_eq_ok readable).mpr ⟨granted, agreed⟩)
              (refused ⟨resources.1, resources.2, terms⟩)
  · intro refused config configured
    obtain ⟨granted, agreed⟩ := (crabJobConfig_eq_ok readable).mp configured
    rw [granted, agreed] at refused
    rcases refused with ⟨error, isError⟩ | ⟨error, isError⟩ <;> cases isError

/-- A job asks for what it runs when its threads are within the cap, or nothing
is submitted: the request for memory is refused, or the other terms are. -/
theorem asksWhatItRuns_iff (cfg : CrabCfg) (task : CrabTask) (around : Surroundings) :
    AsksWhatItRuns cfg task around ↔ ∀ limits, cfg.limits = .ok limits →
      task.nCpus ≤ limits.cap ∨ RefusesMemory limits task ∨
        ∃ error, jobTerms cfg task around = .error error := by
  constructor
  · intro asks limits readable
    by_cases within : task.nCpus ≤ limits.cap
    · exact Or.inl within
    · right
      rw [← not_configured_iff readable (not_le.mp within)]
      intro config configured
      exact within ((fitsPayload_iff readable configured).mp
        (asks limits config readable configured))
  · intro held limits config readable configured
    rw [fitsPayload_iff readable configured]
    by_contra exceeds
    rcases held limits readable with within | refused
    · exact exceeds within
    · exact (not_configured_iff readable (not_le.mp exceeds)).mpr refused config configured

/-- With `max_cores: 2`, a task of four threads that requests 5000 MB asks for
two cores. -/
theorem not_asksWhatItRuns_twoCores :
    ¬AsksWhatItRuns { settings := [("max_cores", .int 2)] } { nCpus := 4, memory := 5000 }
      ⟨.ok (), [], .ok ["T2_DE_DESY"]⟩ := by
  intro asks
  have fits := asks ⟨2500, 3000, 2, 0⟩ ⟨2, 5000, ⟨none, crabAllSites, [], false⟩⟩ rfl rfl
  exact absurd fits.threads (by decide)

end DSProd.Crab
