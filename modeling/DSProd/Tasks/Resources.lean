import DSProd.Library.Yaml
import DSProd.SiteStats.Persistence
import DSProd.Tasks.Numbering

/-!
# The resources of a setup

`load_setup` and `setup_resources` of `tasks.py`.  A setup says what the jobs of
each task ask for, and reading it puts these requests into the configuration
of luigi, where the parameters of a task are resolved.  The block is read in
full before any of it is applied, and what was read is kept for later calls.

The classes luigi has registered are taken as it gives them, each with the
parameters it has and how a parameter parses a text.  No text of a number or a
duration is one that the configuration rejects.
-/

namespace DSProd.Tasks

open DSProd.Library

/-! ## Task classes -/

/-- A registered class: its task family, whether it is a `Task` of this
project, and how its parameters parse a text, where they do. -/
structure TaskCls where
  family : String
  isTask : Bool
  params : Dict String (String → Option Number)

/-- What a process has: the classes luigi has registered, none for a name that
several have, and how a rational is written as a float. -/
structure Runtime where
  register : Dict String (Option TaskCls)
  repr : ℚ → String

/-- `SETUP_RESOURCES`. -/
def setupResourceNames : List String :=
  ["max_runtime", "memory", "n_cpus"]

/-- `_resource_tasks`. -/
def resourceTasks (runtime : Runtime) : List (String × TaskCls) :=
  runtime.register.items.filterMap fun item =>
    item.2.bind fun cls =>
      if cls.isTask && setupResourceNames.all fun name => name ∈ cls.params.keys then
        some (item.1, cls)
      else none

/-! ## The block of a setup -/

/-- Why a setup is refused. -/
inductive ResourceError where
  | unreadable (error : String)
  | attributeError (got : Yaml)
  | notMapping (got : Yaml)
  | unknownTask (task : Yaml) (available : List String)
  | notResource (task : String) (name : Yaml)
  | notNumber (task name : String) (got : Yaml)
  | notTaken (task name : String) (got : Yaml)
  | asksForNothing (task name : String) (got : Yaml)

/-- A setting of luigi's configuration: a task family and a parameter, and a text. -/
abbrev Setting :=
  (String × String) × String

/-- A request of a setup: for a class, of a resource, of so much. -/
structure Request where
  cls : TaskCls
  name : String
  value : Yaml

namespace Request

/-- What the request sets. -/
def key (request : Request) : String × String :=
  (request.cls.family, request.name)

/-- The text of the value. -/
def text (request : Request) (runtime : Runtime) : Option String :=
  request.value.text runtime.repr

/-- What the parameter parses the text of the value as. -/
def parsed (request : Request) (runtime : Runtime) : Option Number :=
  (request.text runtime).bind fun text =>
    (request.cls.params.get? request.name).bind fun parse => parse text

end Request

/-- The checks of a request: the loop body of `setup_resources`. -/
def requestSetting (runtime : Runtime) (task : String) (cls : TaskCls) (entry : Yaml × Yaml) :
    Except ResourceError Setting :=
  match entry.1 with
  | .str name =>
      let request : Request := ⟨cls, name, entry.2⟩
      if name ∉ setupResourceNames then .error (.notResource task (.str name))
      else if !entry.2.isScalar then .error (.notNumber task name entry.2)
      else
        match request.text runtime, request.parsed runtime with
        | some text, some parsed =>
            if parsed.le (.finite 0) then .error (.asksForNothing task name entry.2)
            else .ok (request.key, text)
        | _, _ => .error (.notTaken task name entry.2)
  | name => .error (.notResource task name)

/-- `_resource_task_cls`. -/
def resourceTaskCls (runtime : Runtime) (task : Yaml) : Except ResourceError (String × TaskCls) :=
  let tasks := resourceTasks runtime
  match tasks.find? fun item => task.isText item.1 with
  | some item => .ok item
  | none => .error (.unknownTask task ((tasks.map Prod.fst).mergeSort fun a b => a ≤ b))

/-- `(value or {}).items()`. -/
def itemsOr (value : Yaml) : Except ResourceError (List (Yaml × Yaml)) :=
  match value with
  | .map entries => .ok entries
  | value => if value.truthy then .error (.attributeError value) else .ok []

/-- The settings of an entry of the block. -/
def entrySettings (runtime : Runtime) (entry : Yaml × Yaml) :
    Except ResourceError (List Setting) := do
  let (task, cls) ← resourceTaskCls runtime entry.1
  let requests ← itemsOr entry.2
  requests.mapM (requestSetting runtime task cls)

/-- The `resources` block of a setup, `{}` where it has none. -/
def resourcesBlock (setup : Yaml) : Except ResourceError (List (Yaml × Yaml)) :=
  match setup with
  | .map entries =>
      match (Yaml.lookup "resources" entries).getD .null with
      | .map resources => .ok resources
      | value => if value.truthy then .error (.notMapping value) else .ok []
  | value => .error (.attributeError value)

/-- `setup_resources`. -/
def setupResources (runtime : Runtime) (setup : Yaml) : Except ResourceError (List Setting) := do
  let resources ← resourcesBlock setup
  let settings ← resources.mapM (entrySettings runtime)
  return settings.flatten

/-! ## Loading a setup -/

/-- A setup as it is kept: with the settings that its block makes. -/
structure CachedSetup (runtime : Runtime) where
  setup : Yaml
  settings : List Setting
  reads : setupResources runtime setup = .ok settings

/-- luigi's configuration, and `_setup_cache`. -/
structure SetupState (runtime : Runtime) where
  config : Dict (String × String) String
  cache : Dict String (CachedSetup runtime)

/-- The loop of `load_setup` over the settings of a setup it has. -/
def SetupState.apply {runtime : Runtime} (state : SetupState runtime)
    (cached : CachedSetup runtime) : SetupState runtime :=
  { state with config := state.config.update cached.settings }

/-- `load_setup`, from what opening and parsing the file gives when it comes to that. -/
def loadSetup {runtime : Runtime} (state : SetupState runtime) (path : String)
    (file : Except String Yaml) : SetupState runtime × Except ResourceError Yaml :=
  match state.cache.get? path with
  | some cached => (state.apply cached, .ok cached.setup)
  | none =>
      match file with
      | .error error => (state, .error (.unreadable error))
      | .ok setup =>
          match reads : setupResources runtime setup with
          | .error error => (state, .error error)
          | .ok settings =>
              let cached : CachedSetup runtime := ⟨setup, settings, reads⟩
              ({ state with cache := state.cache.set path cached }.apply cached, .ok setup)

/-! ## All or nothing -/

/-- The request for a class that a key and a value make. -/
def namedRequest (cls : TaskCls) (entry : Yaml × Yaml) : Option Request :=
  match entry.1 with
  | .str name => some ⟨cls, name, entry.2⟩
  | _ => none

/-- The requests of an entry of the block. -/
def entryRequests (runtime : Runtime) (entry : Yaml × Yaml) : List Request :=
  match resourceTaskCls runtime entry.1, itemsOr entry.2 with
  | .ok (_, cls), .ok requests => requests.filterMap (namedRequest cls)
  | _, _ => []

/-- The requests a setup names. -/
def namedRequests (runtime : Runtime) (setup : Yaml) : List Request :=
  match resourcesBlock setup with
  | .ok resources => resources.flatMap (entryRequests runtime)
  | .error _ => []

/-- The setup a call works on: the one that is kept, or else the one it reads. -/
def SetupState.setupAt {runtime : Runtime} (state : SetupState runtime) (path : String)
    (file : Except String Yaml) : Option Yaml :=
  match state.cache.get? path with
  | some cached => some cached.setup
  | none => file.toOption

/-- A setup is applied: each request it names is positive and set, nothing else
is touched, and later calls find the setup. -/
structure AppliesNamed {runtime : Runtime} (path : String) (setup : Yaml)
    (before after : SetupState runtime) : Prop where
  positive : ∀ request ∈ namedRequests runtime setup,
    ∃ parsed, request.parsed runtime = some parsed ∧ (Number.finite 0).lt parsed = true
  set : ∀ request ∈ namedRequests runtime setup, ∃ other ∈ namedRequests runtime setup,
    other.key = request.key ∧
      ∃ text, other.text runtime = some text ∧ after.config.get? request.key = some text
  others : ∀ key, (∀ request ∈ namedRequests runtime setup, request.key ≠ key) →
    after.config.get? key = before.config.get? key
  kept : ∃ cached, after.cache.get? path = some cached ∧ cached.setup = setup
  otherPaths : ∀ other, other ≠ path → after.cache.get? other = before.cache.get? other

/-- A call raises and changes nothing, or applies the setup it works on. -/
def AllOrNothing {runtime : Runtime} (state : SetupState runtime) (path : String)
    (file : Except String Yaml) : Prop :=
  match loadSetup state path file with
  | (after, .error _) => after = state
  | (after, .ok setup) => state.setupAt path file = some setup ∧ AppliesNamed path setup state after

/-- What the checks of a request establish. -/
structure Grants (runtime : Runtime) (request : Request) (setting : Setting) : Prop where
  key : setting.1 = request.key
  text : request.text runtime = some setting.2
  parsed : ∃ parsed, request.parsed runtime = some parsed ∧ parsed.le (.finite 0) = false

/-! ## Reading the block -/

section Reading

variable {runtime : Runtime}

theorem requestSetting_ok {task : String} {cls : TaskCls} {entry : Yaml × Yaml} {setting : Setting}
    (passed : requestSetting runtime task cls entry = .ok setting) :
    ∃ request, namedRequest cls entry = some request ∧ Grants runtime request setting := by
  obtain ⟨key, value⟩ := entry
  cases key with
  | str name =>
      rw [requestSetting] at passed
      dsimp only at passed
      split_ifs at passed
      split at passed
      · rename_i text parsed isText isParsed
        split_ifs at passed with asksForNothing
        cases passed
        exact ⟨_, rfl, rfl, isText, parsed, isParsed, Bool.not_eq_true _ ▸ asksForNothing⟩
      · cases passed
  | _ => cases passed

theorem requestSettings_ok {task : String} {cls : TaskCls} {requests : List (Yaml × Yaml)}
    {settings : List Setting}
    (passed : List.Forall₂
      (fun entry setting => requestSetting runtime task cls entry = .ok setting)
      requests settings) :
    List.Forall₂ (Grants runtime) (requests.filterMap (namedRequest cls)) settings := by
  induction passed with
  | nil => exact .nil
  | cons isSetting _ ih =>
      obtain ⟨request, isRequest, grants⟩ := requestSetting_ok isSetting
      rw [List.filterMap_cons_some isRequest]
      exact .cons grants ih

theorem entrySettings_ok {entry : Yaml × Yaml} {settings : List Setting}
    (passed : entrySettings runtime entry = .ok settings) :
    List.Forall₂ (Grants runtime) (entryRequests runtime entry) settings := by
  rw [entrySettings] at passed
  obtain ⟨⟨task, cls⟩, isTask, passed⟩ := bind_eq_ok passed
  obtain ⟨requests, areRequests, passed⟩ := bind_eq_ok passed
  rw [entryRequests, isTask, areRequests]
  exact requestSettings_ok (mapM_eq_ok passed)

/-- The settings of a setup are its requests, each of which passed its checks. -/
theorem setupResources_ok {setup : Yaml} {settings : List Setting}
    (passed : setupResources runtime setup = .ok settings) :
    List.Forall₂ (Grants runtime) (namedRequests runtime setup) settings := by
  rw [setupResources] at passed
  obtain ⟨resources, areResources, passed⟩ := bind_eq_ok passed
  obtain ⟨perEntry, isPerEntry, passed⟩ := bind_eq_ok passed
  cases passed
  rw [namedRequests, areResources]
  dsimp only
  rw [List.flatMap_def]
  apply List.rel_flatten
  rw [List.forall₂_map_left_iff]
  exact (mapM_eq_ok isPerEntry).imp fun _ _ => entrySettings_ok

end Reading

/-! ## Loading -/

section Loading

variable {runtime : Runtime} {state : SetupState runtime} {path : String}
  {file : Except String Yaml}

/-- What a call may do: raise where the setup it works on is refused, if it
comes to one, or apply that setup and keep it. -/
theorem loadSetup_cases (state : SetupState runtime) (path : String) (file : Except String Yaml) :
    (∃ error, loadSetup state path file = (state, .error error) ∧
        ∀ setup, state.setupAt path file = some setup →
          ∃ error, setupResources runtime setup = .error error) ∨
      ∃ (cached : CachedSetup runtime) (cache : Dict String (CachedSetup runtime)),
        state.setupAt path file = some cached.setup ∧
          loadSetup state path file =
            ({ state with cache := cache }.apply cached, .ok cached.setup) ∧
          cache.get? path = some cached ∧
          ∀ other, other ≠ path → cache.get? other = state.cache.get? other := by
  rw [loadSetup.eq_def, SetupState.setupAt]
  cases known : state.cache.get? path with
  | some cached => exact Or.inr ⟨cached, state.cache, rfl, rfl, known, fun _ _ => rfl⟩
  | none =>
      cases file with
      | error error => exact Or.inl ⟨_, rfl, fun _ isSetup => by cases isSetup⟩
      | ok setup =>
          dsimp only
          split
          · rename_i error refused
            left
            refine ⟨error, rfl, fun other isSetup => ?_⟩
            cases isSetup
            exact ⟨error, refused⟩
          · rename_i settings reads
            right
            refine ⟨⟨setup, settings, reads⟩, _, rfl, rfl, Dict.get?_set_self _ _ _, ?_⟩
            intro other isOther
            rw [Dict.get?_set, if_neg isOther]

/-- A setup none of whose requests parses to nan is applied as it names them. -/
theorem appliesNamed_apply {cached : CachedSetup runtime}
    {cache : Dict String (CachedSetup runtime)} (isKept : cache.get? path = some cached)
    (otherPaths : ∀ other, other ≠ path → cache.get? other = state.cache.get? other)
    (numbers : ∀ request ∈ namedRequests runtime cached.setup,
      request.parsed runtime ≠ some .nan) :
    AppliesNamed path cached.setup state ({ state with cache := cache }.apply cached) where
  positive request member := by
    obtain ⟨setting, _, grants⟩ := exists_of_forall₂ (setupResources_ok cached.reads) member
    obtain ⟨parsed, isParsed, above⟩ := grants.parsed
    refine ⟨parsed, isParsed, Number.lt_of_not_le above ?_ Number.noConfusion⟩
    rintro rfl
    exact numbers request member isParsed
  set request member := by
    obtain ⟨setting, isSetting, grants⟩ :=
      exists_of_forall₂ (setupResources_ok cached.reads) member
    obtain ⟨text, assigned, found⟩ := Dict.exists_get?_update
      (show request.key ∈ cached.settings.map Prod.fst from
        grants.key ▸ List.mem_map_of_mem isSetting)
    obtain ⟨other, isOther, otherGrants⟩ :=
      exists_of_forall₂ (setupResources_ok cached.reads).flip assigned
    exact ⟨other, isOther, otherGrants.key.symm, text, otherGrants.text, found⟩
  others key notNamed := by
    apply Dict.get?_update_of_notMem
    intro assigned
    obtain ⟨setting, isSetting, isKey⟩ := List.mem_map.mp assigned
    obtain ⟨request, member, grants⟩ :=
      exists_of_forall₂ (setupResources_ok cached.reads).flip isSetting
    exact notNamed request member (grants.key.symm.trans isKey)
  kept := ⟨cached, isKept, rfl⟩
  otherPaths := otherPaths

/-- Two calls in a row raise alike. -/
theorem loadSetup_again {error : ResourceError}
    (raised : (loadSetup state path file).2 = .error error) :
    loadSetup (loadSetup state path file).1 path file = loadSetup state path file := by
  rcases loadSetup_cases state path file with ⟨other, isError, _⟩ | ⟨_, _, _, applied, _⟩
  · rw [isError]
    exact isError
  · rw [applied] at raised
    cases raised

end Loading

/-- A call of `load_setup` is all or nothing when the setup it works on is
refused, or no request of it parses to nan, and only then. -/
theorem allOrNothing_iff {runtime : Runtime} (state : SetupState runtime) (path : String)
    (file : Except String Yaml) :
    AllOrNothing state path file ↔ ∀ setup, state.setupAt path file = some setup →
      (∃ error, setupResources runtime setup = .error error) ∨
        ∀ request ∈ namedRequests runtime setup, request.parsed runtime ≠ some .nan := by
  rcases loadSetup_cases state path file with
    ⟨error, raised, refused⟩ | ⟨cached, cache, isSetup, applied, isKept, otherPaths⟩
  · rw [AllOrNothing, raised]
    exact iff_of_true rfl fun setup isAt => Or.inl (refused setup isAt)
  · rw [AllOrNothing, applied]
    constructor
    · rintro ⟨_, applies⟩ setup isAt
      cases isSetup.symm.trans isAt
      right
      intro request member isNan
      obtain ⟨parsed, isParsed, above⟩ := applies.positive request member
      cases isNan.symm.trans isParsed
      cases above
    · intro numbers
      rcases numbers cached.setup isSetup with ⟨error, refused⟩ | numbers
      · rw [cached.reads] at refused
        cases refused
      · exact ⟨isSetup, appliesNamed_apply isKept otherPaths numbers⟩

/-- A process that has registered `RunProd`, where a run time without a unit is
a number of hours. -/
def runProdRuntime : Runtime where
  register := Dict.ofList [("RunProd", some ⟨"RunProd", true, Dict.ofList
    [("max_runtime", SiteStats.floatOfText),
      ("memory", fun text => (SiteStats.intOfText text).map fun value => .finite value),
      ("n_cpus", fun text => (SiteStats.intOfText text).map fun value => .finite value)]⟩)]
  repr value := toString value

/-- `max_runtime: .nan` is applied, though it asks for nothing. -/
theorem not_allOrNothing_nan :
    ¬AllOrNothing (⟨Dict.empty, Dict.empty⟩ : SetupState runProdRuntime) "/setups/Run3.yaml"
      (.ok (.map [(.str "resources",
        .map [(.str "RunProd", .map [(.str "max_runtime", .float .nan)])])])) := by
  intro holds
  rcases loadSetup_cases (⟨Dict.empty, Dict.empty⟩ : SetupState runProdRuntime)
    "/setups/Run3.yaml" (.ok (.map [(.str "resources",
        .map [(.str "RunProd", .map [(.str "max_runtime", .float .nan)])])])) with
    ⟨error, _, refused⟩ | ⟨cached, cache, isSetup, applied, _⟩
  · obtain ⟨other, isRefused⟩ := refused _ rfl
    cases isRefused
  · rw [AllOrNothing, applied] at holds
    rw [← Option.some.inj isSetup] at holds
    obtain ⟨parsed, isParsed, above⟩ := holds.2.positive _ List.mem_cons_self
    cases isParsed
    cases above

end DSProd.Tasks
