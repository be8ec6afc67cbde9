import DSProd.Library.Action
import DSProd.Library.Text
import DSProd.Tasks.Setup

/-!
# Counting the events of a job's files

`count_events` of `run_step.py`: a job writes a script and a request into its
directory, enters a release, and reads the counts that the script leaves there.
The programs that a job runs come to any end they like; the script is the one
whose text is the program's own.

A ROOT file is its trees, with their entries.  A job that cannot write into its
own directory is one that is lost.
-/

namespace DSProd.Steps

open DSProd.Library
open DSProd.Library.Text
open DSProd.Tasks

/-! ## Files -/

/-- A file where a job runs: a ROOT file, which opens or does not, the request
and the result of the counting script, or any other text. -/
inductive LocalFile where
  | root (trees : Option (Dict String Nat))
  | request (tree : String) (paths : List String)
  | counts (entries : Dict String Nat)
  | text
  deriving DecidableEq

/-- The files where a job runs, by their paths. -/
abbrev Files := Dict String LocalFile

/-- The entries of a tree of a file that opens and has it. -/
def entriesOf (files : Files) (tree path : String) : Option Nat :=
  match files.get? path with
  | some (.root (some trees)) => trees.get? tree
  | _ => none

theorem entriesOf_congr {files later : Files} {tree path : String}
    (same : later.get? path = files.get? path) :
    entriesOf later tree path = entriesOf files tree path := by
  rw [entriesOf, entriesOf, same]

/-- `os.path.join` of a directory and a name in it. -/
def join (directory name : String) : String :=
  directory ++ "/" ++ name

theorem join_injective (directory : String) : Function.Injective (join directory) := by
  intro first second same
  have chars := congrArg String.toList same
  simp only [join, String.toList_append] at chars
  exact String.toList_inj.mp (List.append_cancel_left chars)

/-! ## Machines -/

/-- What a job finds where it runs: its environment, the lines of
`/etc/os-release`, and the directory it works in. -/
structure Machine where
  environ : Dict String String
  osRelease : List String
  workDir : String

/-- What a job runs in a release: a step, a merge, or the counting script. -/
inductive Program where
  | cmsDriver (step : String) (seed : Nat) (nEvt nThreads : ℤ) (filein : Option String)
      (fileout : String) (gridpack fragmentRel pileup : Option String)
  | haddnano (out : String) (inputs : List String)
  | countEvents (script request counts : String)
  deriving DecidableEq

/-- A command of a job: the parameters of the step it is for, the words that
enter its release, and the program. -/
structure Command where
  params : StepParams
  entering : String
  program : Program
  deriving DecidableEq

/-- How a command ends: the code it returns and what it leaves of the files.
The counting script may be stopped, with its result half written or not begun. -/
structure CommandEnd where
  code : ℤ := 0
  leaves : Files → Files := id
  stopped : Option Bool := none

/-- How the commands of a job end, by the commands it has given up to there. -/
abbrev Shell := List Command → CommandEnd

/-- Why a job of `run_step.py` raises. -/
inductive StepError where
  | task (error : TaskError)
  | missing (key : String)
  | notListed (step : String)
  | osUnknown
  | psCall (command : Command) (code : ℤ)
  | noResult (paths : Nat)
  | notCounted (missing paths : List String)
  | shortStep (step : String) (nEvt : ℤ) (fileout : String) (produced : ℤ)
  | haddMissing (release : String)
  | noFile
  | entryMismatch (nOut nIn : ℤ)
  | notContracted (nOut contracted : ℤ) (seeds : Nat)
  deriving DecidableEq

/-- The state of a job where it runs: its files, and the commands it has given,
the last one first. -/
structure Local where
  files : Files
  given : List Command

/-- Assign a file. -/
def Local.write (state : Local) (path : String) (file : LocalFile) : Local :=
  { state with files := state.files.set path file }

@[simp]
theorem Local.given_write (state : Local) (path : String) (file : LocalFile) :
    (state.write path file).given = state.given :=
  rfl

/-- `step_params[key]`. -/
def param (params : StepParams) (key : String) : Except StepError String :=
  match params.get? key with
  | none => .error (.missing key)
  | some value => .ok value

/-- `_worker_os`. -/
def workerOs : List String → Except StepError String
  | [] => .error .osUnknown
  | line :: rest =>
      if "VERSION_ID=".toList.isPrefixOf line.toList then
        -- what stands between the first `=` and the next one
        let value := ((line.toList.dropWhile (· ≠ '=')).drop 1).takeWhile (· ≠ '=')
        let quoted := (strip (String.ofList value)).toList
        let bare := ((quoted.dropWhile (· = '"')).reverse.dropWhile (· = '"')).reverse
        .ok ("el" ++ String.ofList (bare.takeWhile (· ≠ '.')))
      else workerOs rest

/-- `SINGULARITY`. -/
def singularity : Dict String String :=
  Dict.ofList [("el8", "/cvmfs/cms.cern.ch/common/cmssw-el8"),
    ("el9", "/cvmfs/cms.cern.ch/common/cmssw-el9")]

/-- `cmssw_dir`. -/
def cmsswDir (machine : Machine) (params : StepParams) : Except StepError String := do
  let release ← param params "CMSSW"
  let ana ← param machine.environ "ANALYSIS_PATH"
  return join (join ana "soft") release

/-- `_cmsenv_prefix`. -/
def cmsenvPrefix (machine : Machine) (params : StepParams) : Except StepError String := do
  let ana ← param machine.environ "ANALYSIS_PATH"
  let targetOs := params.getD "OS_VERSION" "el8"
  let base ← cmsswDir machine params
  let envVars := [("DEFAULT_CMSSW_BASE", base),
    ("X509_USER_PROXY", machine.environ.getD "X509_USER_PROXY" ""),
    ("HOME", machine.environ.getD "HOME" ""),
    ("KRB5CCNAME", machine.environ.getD "KRB5CCNAME" "")]
  let envStr := " ".intercalate
    ((envVars.filter fun entry => entry.2 ≠ "").map fun entry =>
      entry.1 ++ "=\"" ++ entry.2 ++ "\"")
  let inner := "env " ++ envStr ++ " bash " ++ ana ++ "/dsprod/cmsEnv.sh"
  let workerOs ← workerOs machine.osRelease
  if targetOs ≠ workerOs then
    let container ← param singularity targetOs
    return container ++ " --command-to-run " ++ inner
  else return inner

/-! ## The counting script -/

/-- The loop of `_COUNT_EVENTS_SCRIPT`, which raises at a file that it cannot count. -/
def countFiles (files : Files) (tree : String) :
    List String → Dict String Nat → Option (Dict String Nat)
  | [], counted => some counted
  | path :: rest, counted => do
      let entries ← entriesOf files tree path
      countFiles files tree rest (counted.set path entries)

/-- `_COUNT_EVENTS_SCRIPT`: what it leaves, and the code it returns. -/
def countEventsScript (files : Files) (request counts : String) : Files × ℤ :=
  match files.get? request with
  | some (.request tree paths) =>
      match countFiles files tree paths Dict.empty with
      | some counted => (files.set counts (.counts counted), 0)
      | none => (files, 1)
  | _ => (files, 1)

/-- What a command leaves of the files, and the code it returns. -/
def CommandEnd.perform (ended : CommandEnd) (program : Program) (files : Files) : Files × ℤ :=
  match program with
  | .countEvents _ request counts =>
      match ended.stopped with
      | none => countEventsScript files request counts
      | some halfWritten => (if halfWritten then files.set counts .text else files, ended.code)
  | _ => (ended.leaves files, ended.code)

/-- `ps_call`: a command that returns anything but zero raises. -/
def psCall (shell : Shell) (command : Command) : Action Local StepError Unit := fun state =>
  let performed :=
    (shell (command :: state.given)).perform command.program state.files
  let after : Local := ⟨performed.1, command :: state.given⟩
  if performed.2 = 0 then (.ok (), after) else (.error (.psCall command performed.2), after)

/-- `_read_event_counts`, of the file that is at its path. -/
def readEventCounts (result : Option LocalFile) (paths : List String) :
    Except StepError (List ℤ) :=
  match result with
  | some (.counts counts) =>
      let missing := paths.filter fun path => path ∉ counts.keys
      if missing ≠ [] then .error (.notCounted missing paths)
      else .ok (paths.map fun path => (counts.getD path 0 : ℤ))
  | _ => .error (.noResult paths.length)

/-- The files that `count_events` keeps in the directory of a job. -/
def Machine.countNames (machine : Machine) : List String :=
  ["_count_events.py", "_count_events_in.json", "_count_events_out.json"].map
    (join machine.workDir)

/-- `count_events`. -/
def countEvents (machine : Machine) (shell : Shell) (params : StepParams) (paths : List String)
    (tree : String) : Action Local StepError (List ℤ) := do
  let script := join machine.workDir "_count_events.py"
  let request := join machine.workDir "_count_events_in.json"
  let counts := join machine.workDir "_count_events_out.json"
  Action.modify fun state => state.write script .text
  Action.modify fun state => state.write request (.request tree paths)
  Action.modify fun state => { state with files := state.files.pop counts }
  let entering ← Action.lift (cmsenvPrefix machine params)
  psCall shell ⟨params, entering, .countEvents script request counts⟩
  let result ← Action.read fun state => state.files.get? counts
  Action.lift (readEventCounts result paths)

/-! ## What the counts say -/

variable {machine : Machine} {shell : Shell} {params : StepParams} {tree : String}

theorem countFiles_eq_some {files : Files} {paths : List String} {counted result : Dict String Nat}
    (returned : countFiles files tree paths counted = some result) (path : String) :
    result.get? path = if path ∈ paths then entriesOf files tree path else counted.get? path := by
  induction paths generalizing counted with
  | nil =>
      cases returned
      simp
  | cons first rest ih =>
      obtain ⟨entries, found, counts⟩ := Option.bind_eq_some_iff.mp returned
      rw [ih counts, Dict.get?_set]
      by_cases later : path ∈ rest
      · simp [later]
      · by_cases same : path = first
        · simp [same, found]
        · simp [later, same]

/-- A loop that ends has counted each of its files. -/
theorem isSome_of_countFiles {files : Files} {paths : List String}
    {counted result : Dict String Nat}
    (returned : countFiles files tree paths counted = some result)
    {path : String} (member : path ∈ paths) : (entriesOf files tree path).isSome := by
  induction paths generalizing counted with
  | nil => cases member
  | cons first rest ih =>
      obtain ⟨entries, found, counts⟩ := Option.bind_eq_some_iff.mp returned
      rcases List.mem_cons.mp member with rfl | later
      · rw [found]
        rfl
      · exact ih counts later

/-- A command that returned has returned zero. -/
theorem psCall_eq_ok_iff {command : Command} {state after : Local} {value : Unit} :
    psCall shell command state = (.ok value, after) ↔
      ((shell (command :: state.given)).perform command.program state.files).2 = 0 ∧
        after = ⟨((shell (command :: state.given)).perform command.program state.files).1,
          command :: state.given⟩ := by
  rw [psCall]
  split
  case isTrue zero => simp [zero, eq_comm]
  case isFalse nonzero => simp [nonzero]

/-- A result that is read has a count for each path. -/
theorem readEventCounts_eq_ok {result : Option LocalFile} {paths : List String} {counts : List ℤ}
    (returned : readEventCounts result paths = .ok counts) :
    ∃ counted : Dict String Nat, result = some (.counts counted) ∧
      counts = paths.map fun path => (counted.getD path 0 : ℤ) := by
  rcases result with _ | file
  · cases returned
  · cases file with
    | counts counted =>
        rw [readEventCounts] at returned
        split at returned
        · cases returned
        · exact ⟨counted, rfl, (Except.ok.inj returned).symm⟩
    | root trees => cases returned
    | request tree paths => cases returned
    | text => cases returned

/-- The files of the directory that `count_events` does not keep are as they were. -/
theorem get?_perform_count {ended : CommandEnd} {script request counts path : String}
    {files : Files} (other : path ≠ counts) :
    (ended.perform (.countEvents script request counts) files).1.get? path = files.get? path := by
  rw [CommandEnd.perform]
  cases ended.stopped with
  | none =>
      simp only [countEventsScript]
      split
      · split
        · rw [Dict.get?_set, if_neg other]
        · rfl
      · rfl
  | some halfWritten =>
      cases halfWritten with
      | false => rfl
      | true => simp [Dict.get?_set, other]

/-- The files that a call of `count_events` starts its command with. -/
def countRequested (machine : Machine) (paths : List String) (tree : String) (files : Files) :
    Files :=
  (((files.set (join machine.workDir "_count_events.py") .text).set
    (join machine.workDir "_count_events_in.json") (.request tree paths)).pop
      (join machine.workDir "_count_events_out.json"))

theorem get?_countRequested {paths : List String} {files : Files} {path : String}
    (other : path ∉ machine.countNames) :
    (countRequested machine paths tree files).get? path = files.get? path := by
  simp only [Machine.countNames, List.map_cons, List.map_nil, List.mem_cons, List.not_mem_nil,
    or_false, not_or] at other
  rw [countRequested, Dict.get?_pop, if_neg other.2.2, Dict.get?_set, if_neg other.2.1,
    Dict.get?_set, if_neg other.1]

theorem request_countRequested {paths : List String} {files : Files} :
    (countRequested machine paths tree files).get?
        (join machine.workDir "_count_events_in.json") = some (.request tree paths) := by
  have apart : join machine.workDir "_count_events_in.json" ≠
      join machine.workDir "_count_events_out.json" :=
    (join_injective machine.workDir).ne (by decide)
  rw [countRequested, Dict.get?_pop, if_neg apart, Dict.get?_set_self]

theorem counts_countRequested {paths : List String} {files : Files} :
    (countRequested machine paths tree files).get?
        (join machine.workDir "_count_events_out.json") = none := by
  rw [countRequested, Dict.get?_pop, if_pos rfl]

/-- `countEvents`, one statement after the other. -/
theorem countEvents_eq_ok {paths : List String} {state after : Local} {counts : List ℤ}
    (returned : countEvents machine shell params paths tree state = (.ok counts, after)) :
    ∃ (entering : String) (ended : CommandEnd),
      let program : Program := .countEvents (join machine.workDir "_count_events.py")
        (join machine.workDir "_count_events_in.json")
        (join machine.workDir "_count_events_out.json")
      let performed := ended.perform program (countRequested machine paths tree state.files)
      performed.2 = 0 ∧
        readEventCounts (performed.1.get? (join machine.workDir "_count_events_out.json")) paths =
          .ok counts ∧
        after = ⟨performed.1, ⟨params, entering, program⟩ :: state.given⟩ := by
  obtain ⟨_, _, wroteScript, returned⟩ := Action.bind_eq_ok_iff.mp returned
  obtain ⟨_, _, wroteRequest, returned⟩ := Action.bind_eq_ok_iff.mp returned
  obtain ⟨_, _, removed, returned⟩ := Action.bind_eq_ok_iff.mp returned
  obtain ⟨entering, _, prefixed, returned⟩ := Action.bind_eq_ok_iff.mp returned
  obtain ⟨_, _, called, returned⟩ := Action.bind_eq_ok_iff.mp returned
  obtain ⟨result, _, read, returned⟩ := Action.bind_eq_ok_iff.mp returned
  rw [Action.modify_eq_ok_iff] at wroteScript wroteRequest removed
  obtain ⟨_, rfl⟩ := Action.lift_eq_ok_iff.mp prefixed
  subst wroteScript wroteRequest removed
  obtain ⟨zero, rfl⟩ := psCall_eq_ok_iff.mp called
  obtain ⟨counted, rfl⟩ := Action.lift_eq_ok_iff.mp returned
  cases read
  exact ⟨entering, _, zero, counted, rfl⟩

/-- Counts that are returned are those of the files: none is left over, made
up, or taken for another, however the script ends. -/
theorem countEvents_true {paths : List String} {state after : Local} {counts : List ℤ}
    (apart : ∀ path ∈ paths, path ∉ machine.countNames)
    (returned : countEvents machine shell params paths tree state = (.ok counts, after)) :
    (∀ path ∈ paths, (entriesOf state.files tree path).isSome) ∧
      counts = paths.map fun path => ((entriesOf state.files tree path).getD 0 : ℤ) := by
  obtain ⟨_, ended, zero, read, -⟩ := countEvents_eq_ok returned
  obtain ⟨counted, result, rfl⟩ := readEventCounts_eq_ok read
  rw [CommandEnd.perform] at zero result
  cases stopped : ended.stopped with
  | some halfWritten =>
      cases halfWritten with
      | false => simp [stopped, counts_countRequested] at result
      | true => simp [stopped] at result
  | none =>
      simp only [stopped, countEventsScript, request_countRequested] at zero result
      cases counts : countFiles (countRequested machine paths tree state.files) tree paths
          Dict.empty with
      | none => simp [counts] at zero
      | some found =>
          simp only [counts, Dict.get?_set_self, Option.some.injEq, LocalFile.counts.injEq]
            at result
          subst result
          have unchanged : ∀ path ∈ paths,
              entriesOf (countRequested machine paths tree state.files) tree path =
                entriesOf state.files tree path := fun path member =>
            entriesOf_congr (get?_countRequested (apart path member))
          constructor
          · intro path member
            rw [← unchanged path member]
            exact isSome_of_countFiles counts member
          · apply List.map_congr_left
            intro path member
            rw [Dict.getD, countFiles_eq_some counts, if_pos member, unchanged path member]

/-- The other files are as they were. -/
theorem get?_of_countEvents {paths : List String} {state after : Local} {counts : List ℤ}
    {path : String} (other : path ∉ machine.countNames)
    (returned : countEvents machine shell params paths tree state = (.ok counts, after)) :
    after.files.get? path = state.files.get? path := by
  obtain ⟨_, ended, -, -, rfl⟩ := countEvents_eq_ok returned
  have notCounts : path ≠ join machine.workDir "_count_events_out.json" := by
    rintro rfl
    exact other (by simp [Machine.countNames])
  exact (get?_perform_count notCounts).trans (get?_countRequested other)

end DSProd.Steps
