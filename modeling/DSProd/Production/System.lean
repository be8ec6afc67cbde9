import DSProd.Library.Number
import DSProd.Library.Pool
import DSProd.Library.Rounding
import DSProd.Tasks.Numbering

/-!
# Jobs over the storage of a production

`RunProd.run`, `NanoMergeTask.run` and `PruneProducedRecords._check_and_prune`
of `tasks.py` as the steps they take on the storage, one remote operation a
step, so that any number of them can interleave and be lost between any two.

The storage loses nothing and shows a write at once.  What a job reads of its
own work, the events of a nano file and of a merged one and whether a removal
succeeds, is an input of its step.  A listing that cannot be read, and an
upload that fails, end the job as a crash does.
-/

namespace DSProd.Production

open DSProd.Library
open DSProd.Tasks

/-! ## The storage -/

/-- The sizes a production is asked for: the jobs of each era and point, and the
contract of a merged file. -/
structure Plan where
  nJobs : String → String → Nat
  filesPerMerge : Nat := 20
  eventsPerJob : ℤ
  test : ℤ := 0

/-- An era, a point and a nano version, whose files share their directories. -/
structure ProdUnit where
  era : String
  point : String
  version : String
  deriving DecidableEq

/-- A seed or a merge group, with its unit, is looked up in lists. -/
instance : LawfulBEq (ProdUnit × Nat) :=
  inferInstance

/-- The seeds of a unit. -/
def Plan.seeds (plan : Plan) (unit : ProdUnit) : List Nat :=
  List.range' 1 (plan.nJobs unit.era unit.point)

/-- The merge groups of a unit. -/
def Plan.groups (plan : Plan) (unit : ProdUnit) : List (Nat × List Nat) :=
  mergeGroups (plan.seeds unit) plan.filesPerMerge

/-- A merged file: its entries, and those of the inputs it was merged from. -/
structure MergedFile where
  entries : Nat
  inputs : List Nat
  deriving DecidableEq

/-- The files of a production: the records, with the events they were asked
for, the staged nano files, and the merged ones. -/
structure Storage where
  produced : Dict (ProdUnit × Nat) ℤ
  staged : Dict (ProdUnit × Nat) Nat
  merged : Dict (ProdUnit × Nat) MergedFile
  deriving DecidableEq

/-- The storage before anything is produced. -/
def Storage.empty : Storage :=
  ⟨Dict.empty, Dict.empty, Dict.empty⟩

/-- The name of a record in its directory. -/
def recordName (version : String) (seed : Nat) : String :=
  "nano_" ++ version ++ "_" ++ toString seed ++ ".json"

/-- The name of a staged or a merged nano file in its directory. -/
def nanoName (version : String) (number : Nat) : String :=
  "nano_" ++ version ++ "_" ++ toString number ++ ".root"

/-- The names in a directory of a unit. -/
def names {V : Type} (files : Dict (ProdUnit × Nat) V) (nameOf : String → Nat → String)
    (unit : ProdUnit) : List String :=
  (files.keys.filter fun file => file.1 = unit).map fun file => nameOf unit.version file.2

/-- What the world decides in a step of a job: a number, and whether it succeeds. -/
structure Input where
  number : Nat := 0
  succeeds : Bool := true

/-- Why a job raises. -/
inductive JobError where
  | stagedGone (missing : List Nat)
  | recordUnreadable (seed : Nat)
  | mixedSizes (odd : List (Nat × ℤ))
  | inputUnreadable (seed : Nat)
  | entryMismatch (nOut nIn : Nat)
  | notContracted (nOut : Nat) (contracted : ℤ)
  | staleShare (stale recorded : Nat)
  deriving DecidableEq

/-! ## Producing a seed -/

/-- A `RunProd` job: the versions still to do, and whether the file of the
first of them is staged. -/
structure RunProdJob where
  era : String
  point : String
  seed : Nat
  nEvents : ℤ
  versions : List String
  staged : Bool := false
  deriving DecidableEq

/-- The unit of a version of the job. -/
def RunProdJob.unit (job : RunProdJob) (version : String) : ProdUnit :=
  ⟨job.era, job.point, version⟩

/-- The loop of `RunProd.run` over its versions: stage the file, then write the record. -/
def RunProdJob.advance (job : RunProdJob) (storage : Storage) (input : Input) :
    Storage × Option RunProdJob :=
  match job.versions with
  | [] => (storage, none)
  | version :: rest =>
      if job.staged then
        ({ storage with produced := storage.produced.set (job.unit version, job.seed) job.nEvents },
          some { job with versions := rest, staged := false })
      else
        ({ storage with staged := storage.staged.set (job.unit version, job.seed) input.number },
          some { job with staged := true })

/-! ## Merging a group -/

/-- Where a `NanoMergeTask` job stands. -/
inductive MergePhase where
  | checkStaged (rest missing : List Nat)
  | checkContracted (rest : List Nat) (sizes : List (Nat × ℤ))
  | localize (rest inputs : List Nat)
  | hadd (inputs : List Nat)
  | upload (file : MergedFile)
  | remove (rest : List Nat)
  deriving DecidableEq

/-- A `NanoMergeTask` job. -/
structure MergeJob where
  unit : ProdUnit
  group : Nat
  seeds : List Nat
  phase : MergePhase
  deriving DecidableEq

/-- The job in another phase. -/
def MergeJob.to (job : MergeJob) (phase : MergePhase) : MergeJob :=
  { job with phase := phase }

/-- The checks of the merged file, before it is uploaded. -/
def checkMerged (plan : Plan) (seeds inputs : List Nat) (nOut : Nat) : Except JobError MergedFile :=
  if nOut ≠ inputs.sum then .error (.entryMismatch nOut inputs.sum)
  else if plan.test = 0 ∧ (nOut : ℤ) ≠ plan.eventsPerJob * seeds.length then
    .error (.notContracted nOut (plan.eventsPerJob * seeds.length))
  else .ok ⟨nOut, inputs⟩

/-- `NanoMergeTask.run`: `_check_staged_inputs`, `_check_contracted_inputs`, the
merge with its checks and its upload, and the removal of the staged inputs. -/
def MergeJob.advance (plan : Plan) (job : MergeJob) (storage : Storage) (input : Input) :
    Storage × Except JobError (Option MergeJob) :=
  match job.phase with
  | .checkStaged (seed :: rest) missing =>
      let gone := if (job.unit, seed) ∈ storage.staged.keys then [] else [seed]
      (storage, .ok (job.to (.checkStaged rest (missing ++ gone))))
  | .checkStaged [] missing =>
      if missing ≠ [] then (storage, .error (.stagedGone missing))
      else if 0 < plan.test then (storage, .ok (job.to (.localize job.seeds [])))
      else (storage, .ok (job.to (.checkContracted job.seeds [])))
  | .checkContracted (seed :: rest) sizes =>
      match storage.produced.get? (job.unit, seed) with
      | none => (storage, .error (.recordUnreadable seed))
      | some requested =>
          (storage, .ok (job.to (.checkContracted rest (sizes ++ [(seed, requested)]))))
  | .checkContracted [] sizes =>
      let odd := sizes.filter fun size => size.2 ≠ plan.eventsPerJob
      if odd ≠ [] then (storage, .error (.mixedSizes odd))
      else (storage, .ok (job.to (.localize job.seeds [])))
  | .localize (seed :: rest) inputs =>
      match storage.staged.get? (job.unit, seed) with
      | none => (storage, .error (.inputUnreadable seed))
      | some events => (storage, .ok (job.to (.localize rest (inputs ++ [events]))))
  | .localize [] inputs => (storage, .ok (job.to (.hadd inputs)))
  | .hadd inputs =>
      (storage, (checkMerged plan job.seeds inputs input.number).map fun file =>
        job.to (.upload file))
  | .upload file =>
      ({ storage with merged := storage.merged.set (job.unit, job.group) file },
        .ok (job.to (.remove job.seeds)))
  | .remove (seed :: rest) =>
      let removed := { storage with staged := storage.staged.pop (job.unit, seed) }
      (if input.succeeds then removed else storage, .ok (job.to (.remove rest)))
  | .remove [] => (storage, .ok none)

/-! ## Sweeping the records of a unit -/

/-- Where a sweep of a unit stands. -/
inductive SweepPhase where
  | listRecords
  | listStaged (haveRecords : List String)
  | listMerged (haveRecords haveStaged : List String)
  | drop (stale : List Nat)
  deriving DecidableEq

/-- `_check_and_prune` of a unit. -/
structure SweepJob where
  unit : ProdUnit
  prune : Bool
  maxStaleFraction : Number
  phase : SweepPhase
  deriving DecidableEq

/-- The job in another phase. -/
def SweepJob.to (job : SweepJob) (phase : SweepPhase) : SweepJob :=
  { job with phase := phase }

/-- `merged_seeds`: the seeds of the groups that are merged. -/
def mergedSeeds (plan : Plan) (unit : ProdUnit) (haveMerged : List String) : List Nat :=
  ((plan.groups unit).filter fun group => nanoName unit.version group.1 ∈ haveMerged).flatMap
    Prod.snd

/-- `recorded`. -/
def recorded (plan : Plan) (unit : ProdUnit) (haveRecords : List String) : List Nat :=
  (plan.seeds unit).filter fun seed => recordName unit.version seed ∈ haveRecords

/-- `stale`. -/
def stale (plan : Plan) (unit : ProdUnit) (haveRecords haveStaged haveMerged : List String) :
    List Nat :=
  (recorded plan unit haveRecords).filter fun seed =>
    seed ∉ mergedSeeds plan unit haveMerged ∧ nanoName unit.version seed ∉ haveStaged

/-- The stale records are too large a share of all: the quotient is the float
nearest to it, and is compared as one. -/
def staleShareExceeds (maxStaleFraction : Number) (nStale nRecorded : Nat) : Bool :=
  maxStaleFraction.lt (.finite (nearest ((nStale : ℚ) / nRecorded)))

/-- A share that is too large really is above the limit, which is a float itself. -/
theorem lt_share_of_exceeds {limit : ℚ} (isFloat : nearest limit = limit) {nStale nRecorded : Nat}
    (someStale : 0 < nStale) (someRecorded : 0 < nRecorded)
    (exceeds : staleShareExceeds (.finite limit) nStale nRecorded = true) :
    limit < (nStale : ℚ) / nRecorded := by
  rw [staleShareExceeds, Number.lt_finite, decide_eq_true_eq] at exceeds
  apply lt_of_lt_nearest isFloat _ exceeds
  exact div_pos (Nat.cast_pos.mpr someStale) (Nat.cast_pos.mpr someRecorded)

/-- A share a little above the limit may be rounded to it: three of ten are no
larger a share than 0.3, which as a float is less than three tenths. -/
example : nearest (3 / 10) < 3 / 10 ∧
    staleShareExceeds (.finite (nearest (3 / 10))) 3 10 = false := by
  decide +kernel

/-- What a sweep does about the stale ones among its recorded seeds. -/
def SweepJob.decide (job : SweepJob) (recorded stale : List Nat) :
    Except JobError (Option SweepJob) :=
  if stale = [] then .ok none
  else if staleShareExceeds job.maxStaleFraction stale.length recorded.length then
    .error (.staleShare stale.length recorded.length)
  else if !job.prune then .ok none
  else .ok (job.to (.drop stale))

/-- `_check_and_prune`: the three listings, and the removals, in any order. -/
def SweepJob.advance (plan : Plan) (job : SweepJob) (storage : Storage) (input : Input) :
    Storage × Except JobError (Option SweepJob) :=
  match job.phase with
  | .listRecords =>
      (storage, .ok (job.to (.listStaged (names storage.produced recordName job.unit))))
  | .listStaged haveRecords =>
      (storage, .ok (job.to (.listMerged haveRecords (names storage.staged nanoName job.unit))))
  | .listMerged haveRecords haveStaged =>
      let haveMerged := names storage.merged nanoName job.unit
      (storage, job.decide (recorded plan job.unit haveRecords)
        (stale plan job.unit haveRecords haveStaged haveMerged))
  | .drop [] => (storage, .ok none)
  | .drop (first :: rest) =>
      match (first :: rest)[input.number]? with
      | none => (storage, .ok job)
      | some seed =>
          let removed := { storage with produced := storage.produced.pop (job.unit, seed) }
          (if input.succeeds then removed else storage,
            .ok (job.to (.drop ((first :: rest).eraseIdx input.number))))

/-! ## The system -/

/-- A job of the production. -/
inductive Job where
  | runProd (job : RunProdJob)
  | merge (job : MergeJob)
  | sweep (job : SweepJob)
  deriving DecidableEq

/-- A job that is submitted: any seed, also one that was produced before; any
group; any sweep. -/
inductive Request where
  | runProd (era point : String) (seed : Nat) (nEvents : ℤ) (versions : List String)
  | merge (unit : ProdUnit) (group : Nat)
  | sweep (unit : ProdUnit) (prune : Bool) (maxStaleFraction : Number)

/-- The job of a request, at its beginning. -/
def begins (plan : Plan) : Request → Option Job
  | .runProd era point seed nEvents versions =>
      some (.runProd ⟨era, point, seed, nEvents, versions, false⟩)
  | .merge unit group => (plan.groups unit)[group]?.map fun found =>
      .merge ⟨unit, found.1, found.2, .checkStaged found.2 []⟩
  | .sweep unit prune maxStaleFraction =>
      some (.sweep ⟨unit, prune, maxStaleFraction, .listRecords⟩)

/-- The job that is left of one that went on, ended, or raised. -/
def goesOn {α : Type} (wrap : α → Job) (outcome : Except JobError (Option α)) : Option Job :=
  outcome.toOption.join.map wrap

/-- A step of a job. -/
def advance (plan : Plan) (storage : Storage) (job : Job) (input : Input) : Storage × Option Job :=
  match job with
  | .runProd job =>
      let moved := job.advance storage input
      (moved.1, moved.2.map .runProd)
  | .merge job =>
      let moved := job.advance plan storage input
      (moved.1, goesOn .merge moved.2)
  | .sweep job =>
      let moved := job.advance plan storage input
      (moved.1, goesOn .sweep moved.2)

/-- What happens in a production. -/
abbrev Event := PoolEvent Request Input

/-- One event of a production. -/
def step (plan : Plan) : Pool Storage Job → Event → Pool Storage Job :=
  Pool.step (begins plan) (advance plan)

/-- The sizes of the plan are those a selection works with.  A setup has one
plan, and every selection of it works with its sizes. -/
structure Plan.Describes {Params : Type} (plan : Plan) (selection : Selection Params) : Prop where
  nJobs : ∀ point ∈ selection.prodPoints, ∀ era, plan.nJobs era point.name = point.nJobs era
  filesPerMerge : plan.filesPerMerge = selection.setup.filesPerMerge

/-- The job of a branch of `NanoMergeTask` is one that can be requested. -/
theorem begins_of_mem_merges {Params : Type} {plan : Plan} {selection : Selection Params}
    {merges : List MergeBranch} (describes : plan.Describes selection)
    (built : nanoMergeBranchMap selection = .ok merges) {branch : MergeBranch}
    (member : branch ∈ merges) :
    ∃ point, selection.prodPoints[branch.pointIndex]? = some point ∧
      begins plan (.merge ⟨branch.era, point.name, branch.version⟩ branch.group) =
        some (.merge ⟨⟨branch.era, point.name, branch.version⟩, branch.group, branch.seeds,
          .checkStaged branch.seeds []⟩) := by
  obtain ⟨_, _, point, isPoint, groupMem⟩ := (mem_nanoMergeBranchMap built).mp member
  have sameSeeds : plan.seeds ⟨branch.era, point.name, branch.version⟩ =
      seedsOf point branch.era := by
    rw [Plan.seeds, describes.nJobs point (List.mem_of_getElem? isPoint)]
    rfl
  simp only [mergeGroups, List.mem_map, List.mem_range, Prod.mk.injEq] at groupMem
  obtain ⟨_, within, rfl, slice⟩ := groupMem
  apply Exists.intro point
  constructor
  · exact isPoint
  · simp only [begins, Plan.groups, sameSeeds, describes.filesPerMerge, mergeGroups,
      List.getElem?_map, List.getElem?_range within, Option.map_some, slice]

/-- A production of which nothing is produced yet, and no job runs. -/
def start : Pool Storage Job :=
  ⟨Storage.empty, []⟩

end DSProd.Production
