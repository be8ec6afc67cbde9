import DSProd.Library.Generator
import DSProd.Production.System

/-!
# Produce, repair, merge

`ProductionTask.run` of `tasks.py` with the sweep of `PruneProducedRecords` it
makes inline, under a scheduler that executes it from the top after every
dependency it waited for.

The storage is adversarial: what each sweep finds staged and merged of each
unit, which of its listings cannot be read and which removals fail are inputs.
Records disappear through a sweep only, and `RunProd` completes.
-/

namespace DSProd.Production

open DSProd.Library
open DSProd.Tasks

/-! ## The sweep -/

/-- What a sweep meets in a unit: the names that are staged and merged, unless
a listing cannot be read, and the records that cannot be removed. -/
structure UnitView where
  listing : Except String (List String × List String)
  removalFails : Nat → Bool := fun _ => false

/-- Why a unit cannot be checked. -/
inductive SweepError where
  | unreadable (error : String)
  | staleShare (stale recorded : Nat)
  | notRemoved (seed : Nat)
  deriving DecidableEq

/-- The records of a production, with the events they were asked for. -/
abbrev Records := Dict (ProdUnit × Nat) ℤ

/-- The records without those of some seeds of a unit. -/
def dropRecords (records : Records) (unit : ProdUnit) (seeds : List Nat) : Records :=
  records.filter fun file _ => ¬(file.1 = unit ∧ file.2 ∈ seeds)

/-- The parameters of a `ProductionTask`, and the units of its selection.
`timeout` is zero when no worker timeout is set. -/
structure ProductionTask where
  plan : Plan
  units : List ProdUnit
  maxRepairs : ℤ := 2
  maxStaleFraction : Number := .finite (1 / 2)
  workers : ℤ := 1
  timeout : ℤ := 0

/-- `_check_and_prune`, with `--prune`: the records that are left, and how many
were deleted.  Every removal is attempted before one that failed raises. -/
def ProductionTask.checkAndPrune (task : ProductionTask) (records : Records) (unit : ProdUnit)
    (view : UnitView) : Records × Except SweepError Nat :=
  match view.listing with
  | .error error => (records, .error (.unreadable error))
  | .ok (haveStaged, haveMerged) =>
      let haveRecords := names records recordName unit
      let found := recorded task.plan unit haveRecords
      let lost := stale task.plan unit haveRecords haveStaged haveMerged
      if lost = [] then (records, .ok 0)
      else if staleShareExceeds task.maxStaleFraction lost.length found.length then
        (records, .error (.staleShare lost.length found.length))
      else
        let left := dropRecords records unit (lost.filter fun seed => !view.removalFails seed)
        match lost.find? view.removalFails with
        | some seed => (left, .error (.notRemoved seed))
        | none => (left, .ok lost.length)

/-- A sweep that is under way: the records that are left, how many were deleted,
and the units that could not be checked. -/
structure Sweep where
  records : Records
  dropped : Nat := 0
  failures : List (ProdUnit × SweepError) := []

/-- `check`: one unit of a sweep. -/
def ProductionTask.check (task : ProductionTask) (views : ProdUnit → UnitView) (sweep : Sweep)
    (unit : ProdUnit) : Sweep :=
  let checked := task.checkAndPrune sweep.records unit (views unit)
  match checked.2 with
  | .ok dropped => { sweep with records := checked.1, dropped := sweep.dropped + dropped }
  | .error error =>
      { sweep with records := checked.1, failures := sweep.failures ++ [(unit, error)] }

/-- `PruneProducedRecords.run`, up to the error it raises about its failures. -/
def ProductionTask.prune (task : ProductionTask) (views : ProdUnit → UnitView)
    (records : Records) : Sweep :=
  Library.run (task.check views) { records } task.units

/-! ## The task -/

/-- What `ProductionTask.run` waits for. -/
inductive Stage where
  | runProd
  | nanoMerge
  deriving DecidableEq

/-- Why `ProductionTask.run` raises. -/
inductive RepairError where
  | twoProcesses (workers timeout : ℤ)
  | unchecked (failures : List (ProdUnit × SweepError)) (units : Nat)
  | stillLosing (pruned rounds : Nat)
  deriving DecidableEq

/-- A production under way: its records and its merged files, the sweeps that
were made, the last of them, and the repair rounds of the task. -/
structure Progress where
  records : Records
  merged : List (ProdUnit × Nat)
  sweeps : Nat := 0
  pruned : Nat := 0
  failures : List (ProdUnit × SweepError) := []
  rounds : Nat := 0

/-- One repair round more. -/
def Progress.nextRound (progress : Progress) : Progress :=
  { progress with rounds := progress.rounds + 1 }

namespace ProductionTask

variable (task : ProductionTask)

/-- The seeds of the production. -/
def seeds : List (ProdUnit × Nat) :=
  task.units.flatMap fun unit => (task.plan.seeds unit).map fun seed => (unit, seed)

/-- The merge groups of the production. -/
def groups : List (ProdUnit × Nat) :=
  task.units.flatMap fun unit => (task.plan.groups unit).map fun group => (unit, group.1)

/-- `complete` of the stages: every seed has its record, every group its file. -/
def complete (progress : Progress) : Stage → Bool
  | .runProd => task.seeds.all fun seed => seed ∈ progress.records.keys
  | .nanoMerge => task.groups.all fun group => group ∈ progress.merged

/-- The scheduler runs a stage: `RunProd` writes the records that are missing,
and `NanoMergeTask` merges every group, unless it fails. -/
def satisfy (mergeSucceeds : Bool) (progress : Progress) : Stage → Option Progress
  | .runProd =>
      let missing := task.seeds.filter fun seed => seed ∉ progress.records.keys
      some { progress with
        records := progress.records.update
          (missing.map fun seed => (seed, task.plan.eventsPerJob)) }
  | .nanoMerge =>
      if mergeSucceeds then some { progress with merged := progress.merged ++ task.groups }
      else none

/-- `_require_one_process`. -/
def requireOneProcess : Option RepairError :=
  if task.maxRepairs ≤ 0 then none
  else if 1 < task.workers ∨ task.timeout ≠ 0 then some (.twoProcesses task.workers task.timeout)
  else none

/-- `_repair`: the next sweep of the storage. -/
def repair (storage : Nat → ProdUnit → UnitView) (progress : Progress) : Progress :=
  let sweep := task.prune (storage progress.sweeps) progress.records
  { progress with
    records := sweep.records
    sweeps := progress.sweeps + 1
    pruned := sweep.dropped
    failures := sweep.failures }

/-- What `run` does once a sweep was made. -/
def afterRepair (progress : Progress) : Generator Progress RepairError Stage :=
  if progress.failures ≠ [] then .raise (.unchecked progress.failures task.units.length)
  else if progress.pruned ≠ 0 then
    if task.maxRepairs ≤ progress.rounds then
      .raise (.stillLosing progress.pruned progress.rounds)
    else
      .effect Progress.nextRound fun _ => .yield .runProd (.yield .nanoMerge .done)
  else .yield .nanoMerge .done

/-- `ProductionTask.run`. -/
def run (storage : Nat → ProdUnit → UnitView) : Generator Progress RepairError Stage :=
  match task.requireOneProcess with
  | some error => .raise error
  | none =>
      .yield .runProd <| .effect id fun progress =>
        if 0 < task.maxRepairs ∧ task.complete progress .nanoMerge = false then
          .effect (task.repair storage) task.afterRepair
        else .yield .nanoMerge .done

/-- A production of the task, for a number of passes at most.  One that is
merged is a no-op. -/
def build (storage : Nat → ProdUnit → UnitView) (mergeSucceeds : Bool) (fuel : Nat)
    (progress : Progress) : Driven Progress RepairError Stage :=
  if task.complete progress .nanoMerge then ⟨[], progress, .finished⟩
  else
    Generator.drive task.complete (task.satisfy mergeSucceeds) (task.run storage) fuel progress

end ProductionTask

/-! ## What a sweep deletes -/

theorem mem_dropRecords {records : Records} {unit : ProdUnit} {seeds : List Nat}
    {file : ProdUnit × Nat} :
    file ∈ (dropRecords records unit seeds).keys ↔
      file ∈ records.keys ∧ ¬(file.1 = unit ∧ file.2 ∈ seeds) := by
  rw [dropRecords, Dict.mem_keys_filter]
  constructor
  · rintro ⟨events, known, kept⟩
    exact ⟨Dict.mem_keys_of_get? known, of_decide_eq_true kept⟩
  · rintro ⟨member, kept⟩
    obtain ⟨events, known⟩ := Dict.mem_keys_iff.mp member
    exact ⟨events, known, decide_eq_true kept⟩

namespace ProductionTask

variable {task : ProductionTask}

/-- What a check of a unit does. -/
theorem checkAndPrune_cases (records : Records) (unit : ProdUnit) (view : UnitView) :
    (∃ error, task.checkAndPrune records unit view = (records, .error error)) ∨
      task.checkAndPrune records unit view = (records, .ok 0) ∨
      ∃ lost, lost ≠ [] ∧ (∀ seed ∈ lost, seed ∈ task.plan.seeds unit) ∧
        ((∃ removed seed, task.checkAndPrune records unit view =
            (dropRecords records unit removed, .error (.notRemoved seed))) ∨
          task.checkAndPrune records unit view =
            (dropRecords records unit lost, .ok lost.length)) := by
  unfold checkAndPrune
  cases view.listing with
  | error error => exact Or.inl ⟨_, rfl⟩
  | ok listed =>
      generalize found : recorded task.plan unit (names records recordName unit) = recorded
      generalize gone : stale task.plan unit (names records recordName unit) listed.1 listed.2 =
        lost
      simp only [found, gone]
      by_cases none : lost = []
      · exact Or.inr (Or.inl (if_pos none))
      · simp only [if_neg none]
        split
        · exact Or.inl ⟨_, rfl⟩
        · refine Or.inr (Or.inr ⟨lost, none, ?_, ?_⟩)
          · intro seed member
            rw [← gone] at member
            exact List.mem_of_mem_filter (List.mem_of_mem_filter member)
          · cases removed : lost.find? view.removalFails with
            | some seed => exact Or.inl ⟨_, seed, rfl⟩
            | none =>
                right
                have all : (lost.filter fun seed => !view.removalFails seed) = lost := by
                  rw [List.filter_eq_self]
                  intro seed member
                  simpa using List.find?_eq_none.mp removed seed member
                simp only [all]

/-- A check of a unit writes no record. -/
theorem checkAndPrune_keys {records : Records} {unit : ProdUnit} {view : UnitView}
    {file : ProdUnit × Nat} (left : file ∈ (task.checkAndPrune records unit view).1.keys) :
    file ∈ records.keys := by
  rcases checkAndPrune_cases records unit view with
    ⟨error, same⟩ | same | ⟨lost, _, _, ⟨removed, seed, same⟩ | same⟩
  all_goals rw [same] at left
  · exact left
  · exact left
  · exact (mem_dropRecords.mp left).1
  · exact (mem_dropRecords.mp left).1

/-- A check that deleted none left the records, and after one that deleted some
a seed of the unit has none. -/
theorem checkAndPrune_ok {records : Records} {unit : ProdUnit} {view : UnitView} {dropped : Nat}
    (checked : (task.checkAndPrune records unit view).2 = .ok dropped) :
    (dropped = 0 → (task.checkAndPrune records unit view).1 = records) ∧
      (dropped ≠ 0 → ∃ seed ∈ task.plan.seeds unit,
        (unit, seed) ∉ (task.checkAndPrune records unit view).1.keys) := by
  rcases checkAndPrune_cases records unit view with
    ⟨error, same⟩ | same | ⟨lost, some, inUnit, ⟨removed, seed, same⟩ | same⟩
  all_goals rw [same] at checked ⊢
  · cases checked
  · cases checked
    exact ⟨fun _ => rfl, fun some => absurd rfl some⟩
  · cases checked
  · cases checked
    constructor
    · intro none
      exact absurd (List.length_eq_zero_iff.mp none) some
    · intro _
      obtain ⟨seed, gone⟩ := List.exists_mem_of_ne_nil lost some
      exact ⟨seed, inUnit seed gone, fun left => (mem_dropRecords.mp left).2 ⟨rfl, gone⟩⟩

theorem check_of_ok {views : ProdUnit → UnitView} {sweep : Sweep} {unit : ProdUnit} {dropped : Nat}
    (checked : (task.checkAndPrune sweep.records unit (views unit)).2 = .ok dropped) :
    task.check views sweep unit =
      { sweep with
        records := (task.checkAndPrune sweep.records unit (views unit)).1
        dropped := sweep.dropped + dropped } := by
  simp only [check, checked]

theorem check_of_error {views : ProdUnit → UnitView} {sweep : Sweep} {unit : ProdUnit}
    {error : SweepError}
    (checked : (task.checkAndPrune sweep.records unit (views unit)).2 = .error error) :
    task.check views sweep unit =
      { sweep with
        records := (task.checkAndPrune sweep.records unit (views unit)).1
        failures := sweep.failures ++ [(unit, error)] } := by
  simp only [check, checked]

/-- What a sweep that is under way has done, with some units still to check. -/
structure Swept (task : ProductionTask) (records : Records) (remaining : List ProdUnit)
    (sweep : Sweep) : Prop where
  units : ∀ unit ∈ remaining, unit ∈ task.units
  untouched : sweep.failures = [] → sweep.dropped = 0 → sweep.records = records
  lost : sweep.dropped ≠ 0 → ∃ seed ∈ task.seeds, seed ∉ sweep.records.keys

/-- The check of the next unit. -/
theorem Swept.check {records : Records} {views : ProdUnit → UnitView} {unit : ProdUnit}
    {rest : List ProdUnit} {sweep : Sweep} (swept : Swept task records (unit :: rest) sweep) :
    Swept task records rest (task.check views sweep unit) := by
  have others : ∀ other ∈ rest, other ∈ task.units := fun other member =>
    swept.units other (List.mem_cons_of_mem unit member)
  have stays : sweep.dropped ≠ 0 → ∃ seed ∈ task.seeds,
      seed ∉ (task.checkAndPrune sweep.records unit (views unit)).1.keys := by
    intro some
    obtain ⟨seed, member, absent⟩ := swept.lost some
    exact ⟨seed, member, fun present => absent (checkAndPrune_keys present)⟩
  cases checked : (task.checkAndPrune sweep.records unit (views unit)).2 with
  | error error =>
      rw [check_of_error checked]
      exact ⟨others, fun none => by simp at none, stays⟩
  | ok dropped =>
      rw [check_of_ok checked]
      obtain ⟨unchanged, loses⟩ := checkAndPrune_ok checked
      refine ⟨others, ?_, ?_⟩
      · intro none total
        have both : sweep.dropped = 0 ∧ dropped = 0 := Nat.add_eq_zero_iff.mp total
        exact (unchanged both.2).trans (swept.untouched none both.1)
      · intro some
        by_cases now : dropped = 0
        · rw [now] at some
          exact stays some
        · obtain ⟨seed, inUnit, absent⟩ := loses now
          refine ⟨(unit, seed), ?_, absent⟩
          exact List.mem_flatMap.mpr
            ⟨unit, swept.units unit List.mem_cons_self, List.mem_map_of_mem inUnit⟩

/-- A whole sweep. -/
theorem swept_prune (views : ProdUnit → UnitView) (records : Records) :
    Swept task records [] (task.prune views records) :=
  run_of_remaining (Swept task records) (fun _ _ _ swept => swept.check)
    ⟨fun _ member => member, fun _ _ => rfl, fun some => absurd rfl some⟩

/-! ## The stages -/

theorem complete_runProd_iff {progress : Progress} :
    task.complete progress .runProd = true ↔ ∀ seed ∈ task.seeds, seed ∈ progress.records.keys := by
  simp [complete]

theorem complete_nanoMerge_iff {progress : Progress} :
    task.complete progress .nanoMerge = true ↔ ∀ group ∈ task.groups, group ∈ progress.merged := by
  simp [complete]

/-- What is left to do: to produce, to repair, and to merge. -/
def toDo (task : ProductionTask) (progress : Progress) : Nat :=
  (if task.complete progress .runProd then 0 else 1) +
    (task.maxRepairs.toNat - progress.rounds) +
    (if task.complete progress .nanoMerge then 0 else 1)

theorem toDo_le (task : ProductionTask) (progress : Progress) :
    task.toDo progress ≤ task.maxRepairs.toNat + 2 := by
  unfold toDo
  split
  · split <;> omega
  · split <;> omega

theorem complete_runProd_congr {progress other : Progress}
    (same : progress.records = other.records) :
    task.complete progress .runProd = task.complete other .runProd := by
  simp only [complete, same]

theorem complete_nanoMerge_congr {progress other : Progress}
    (same : progress.merged = other.merged) :
    task.complete progress .nanoMerge = task.complete other .nanoMerge := by
  simp only [complete, same]

/-- Production completes, and merges nothing. -/
theorem satisfy_runProd {mergeSucceeds : Bool} {progress next : Progress}
    (satisfied : task.satisfy mergeSucceeds progress .runProd = some next) :
    task.complete next .runProd = true ∧ next.merged = progress.merged ∧
      next.rounds = progress.rounds := by
  cases satisfied
  refine ⟨?_, rfl, rfl⟩
  rw [complete_runProd_iff]
  intro seed member
  rw [Dict.mem_keys_update]
  by_cases known : seed ∈ progress.records.keys
  · exact Or.inl known
  · right
    simp [member, known]

/-- A merge that succeeds completes, and leaves the records. -/
theorem satisfy_nanoMerge {mergeSucceeds : Bool} {progress next : Progress}
    (satisfied : task.satisfy mergeSucceeds progress .nanoMerge = some next) :
    task.complete next .nanoMerge = true ∧ next.records = progress.records ∧
      next.rounds = progress.rounds := by
  cases mergeSucceeds with
  | false => cases satisfied
  | true =>
      cases satisfied
      refine ⟨?_, rfl, rfl⟩
      rw [complete_nanoMerge_iff]
      exact fun group member => List.mem_append_right _ member

/-- A stage that is run leaves less to do. -/
theorem toDo_satisfy {mergeSucceeds : Bool} {progress next : Progress} {stage : Stage}
    (incomplete : task.complete progress stage = false)
    (satisfied : task.satisfy mergeSucceeds progress stage = some next) :
    task.toDo next < task.toDo progress := by
  unfold toDo
  cases stage with
  | runProd =>
      obtain ⟨produced, merged, rounds⟩ := satisfy_runProd satisfied
      rw [produced, incomplete, complete_nanoMerge_congr merged, rounds]
      simp
  | nanoMerge =>
      obtain ⟨merged, records, rounds⟩ := satisfy_nanoMerge satisfied
      rw [merged, incomplete, complete_runProd_congr records, rounds]
      simp

/-- After a sweep that deleted records production is incomplete. -/
theorem incomplete_of_pruned {storage : Nat → ProdUnit → UnitView} {progress : Progress}
    (pruned : (task.repair storage progress).pruned ≠ 0) :
    task.complete (task.repair storage progress) .runProd = false := by
  obtain ⟨seed, member, absent⟩ := (swept_prune _ _).lost pruned
  rw [Bool.eq_false_iff, ne_eq, complete_runProd_iff]
  exact fun all => absent (all seed member)

/-! ## A pass -/

/-- How a pass of the task ends. -/
inductive PassOf (task : ProductionTask) (storage : Nat → ProdUnit → UnitView)
    (before : Progress) : Progress → PassResult RepairError Stage → Prop where
  | raised {after : Progress} (error : RepairError) :
      PassOf task storage before after (.raised error)
  | produces (incomplete : task.complete before .runProd = false) :
      PassOf task storage before before (.waits .runProd)
  | repairs (produced : task.complete before .runProd = true)
      (within : (before.rounds : ℤ) < task.maxRepairs)
      (incomplete : task.complete (task.repair storage before).nextRound .runProd = false) :
      PassOf task storage before (task.repair storage before).nextRound (.waits .runProd)
  | merges (off : task.maxRepairs ≤ 0) : PassOf task storage before before (.waits .nanoMerge)
  | mergesSwept (unswept : (task.repair storage before).records = before.records) :
      PassOf task storage before (task.repair storage before) (.waits .nanoMerge)
  | finished {after : Progress} (merged : task.complete after .nanoMerge = true) :
      PassOf task storage before after .finished

/-- The end of a pass that made a sweep. -/
theorem passOf_afterRepair (storage : Nat → ProdUnit → UnitView) {before : Progress}
    (produced : task.complete before .runProd = true)
    (unmerged : task.complete before .nanoMerge = false) :
    PassOf task storage before
      ((task.afterRepair (task.repair storage before)).pass task.complete
        (task.repair storage before)).1
      ((task.afterRepair (task.repair storage before)).pass task.complete
        (task.repair storage before)).2 := by
  unfold afterRepair
  by_cases checked : (task.repair storage before).failures = []
  · rw [if_neg (not_not_intro checked)]
    by_cases clean : (task.repair storage before).pruned = 0
    · have stillUnmerged : task.complete (task.repair storage before) .nanoMerge = false := unmerged
      rw [if_neg (not_not_intro clean), Generator.pass_yield_of_incomplete stillUnmerged]
      exact .mergesSwept ((swept_prune _ _).untouched checked clean)
    · rw [if_pos clean]
      by_cases within : ((task.repair storage before).rounds : ℤ) < task.maxRepairs
      · have incomplete : task.complete (task.repair storage before).nextRound .runProd = false :=
          incomplete_of_pruned clean
        rw [if_neg (not_le_of_gt within), Generator.pass_effect]
        rw [Generator.pass_yield_of_incomplete incomplete]
        exact .repairs produced within incomplete
      · rw [if_pos (not_lt.mp within)]
        exact .raised _
  · rw [if_pos checked]
    exact .raised _

variable (task) in
/-- Every pass ends in one of these ways. -/
theorem passOf_run (storage : Nat → ProdUnit → UnitView) (before : Progress) :
    PassOf task storage before ((task.run storage).pass task.complete before).1
      ((task.run storage).pass task.complete before).2 := by
  unfold run
  cases task.requireOneProcess with
  | some error => exact .raised error
  | none =>
      cases produced : task.complete before .runProd with
      | false =>
          rw [Generator.pass_yield_of_incomplete produced]
          exact .produces produced
      | true =>
          rw [Generator.pass_yield_of_complete produced, Generator.pass_effect, id_eq]
          cases merged : task.complete before .nanoMerge with
          | true =>
              rw [if_neg (by simp), Generator.pass_yield_of_complete merged]
              exact .finished merged
          | false =>
              by_cases off : task.maxRepairs ≤ 0
              · rw [if_neg (by omega), Generator.pass_yield_of_incomplete merged]
                exact .merges off
              · rw [if_pos ⟨by omega, rfl⟩, Generator.pass_effect]
                exact passOf_afterRepair storage produced merged

theorem passOf {storage : Nat → ProdUnit → UnitView} {before after : Progress}
    {result : PassResult RepairError Stage}
    (passed : (task.run storage).pass task.complete before = (after, result)) :
    PassOf task storage before after result := by
  have shape := passOf_run task storage before
  rwa [passed] at shape

/-! ## All passes -/

/-- A pass that waits leaves no more to do than it found. -/
theorem toDo_pass {storage : Nat → ProdUnit → UnitView} {before after : Progress} {stage : Stage}
    (passed : PassOf task storage before after (.waits stage)) :
    task.toDo after ≤ task.toDo before := by
  cases passed with
  | produces incomplete => exact le_refl _
  | repairs produced within incomplete =>
      have sameMerged : task.complete (task.repair storage before).nextRound .nanoMerge =
          task.complete before .nanoMerge := complete_nanoMerge_congr rfl
      have oneMore : (task.repair storage before).nextRound.rounds = before.rounds + 1 := rfl
      unfold toDo
      rw [produced, incomplete, sameMerged, oneMore]
      simp only [if_true, Bool.false_eq_true, if_false]
      omega
  | merges off => exact le_refl _
  | mergesSwept unswept =>
      have sameMerged : task.complete (task.repair storage before) .nanoMerge =
          task.complete before .nanoMerge := complete_nanoMerge_congr rfl
      have sameRounds : (task.repair storage before).rounds = before.rounds := rfl
      unfold toDo
      rw [complete_runProd_congr unswept, sameMerged, sameRounds]

/-- A repair round: a pass that made a sweep and sends seeds back to production. -/
def repairs (pass : Pass Progress RepairError Stage) : Bool :=
  pass.result = .waits .runProd ∧ pass.before.sweeps < pass.after.sweeps

/-- A repair round is one of those the task may take. -/
theorem rounds_of_repairs {storage : Nat → ProdUnit → UnitView} {before after : Progress}
    {result : PassResult RepairError Stage} (passed : PassOf task storage before after result)
    (isRepair : repairs ⟨before, after, result⟩) :
    (before.rounds : ℤ) < task.maxRepairs ∧ after.rounds = before.rounds + 1 := by
  obtain ⟨waits, swept⟩ := of_decide_eq_true isRepair
  cases passed with
  | raised error => cases waits
  | produces incomplete => exact absurd swept (lt_irrefl _)
  | repairs produced within incomplete => exact ⟨within, rfl⟩
  | merges off => cases waits
  | mergesSwept unswept => cases waits
  | finished merged => cases waits

/-- A pass that waits takes no repair round back. -/
theorem rounds_pass {storage : Nat → ProdUnit → UnitView} {before after : Progress} {stage : Stage}
    (passed : PassOf task storage before after (.waits stage)) : before.rounds ≤ after.rounds := by
  cases passed with
  | produces incomplete => exact le_refl _
  | repairs produced within incomplete => exact Nat.le_succ _
  | merges off => exact le_refl _
  | mergesSwept unswept => exact le_refl _

theorem rounds_satisfy {mergeSucceeds : Bool} {progress next : Progress} {stage : Stage}
    (satisfied : task.satisfy mergeSucceeds progress stage = some next) :
    next.rounds = progress.rounds := by
  cases stage with
  | runProd => exact (satisfy_runProd satisfied).2.2
  | nanoMerge => exact (satisfy_nanoMerge satisfied).2.2

/-- The repair rounds of a task that is driven. -/
theorem countP_repairs_le (storage : Nat → ProdUnit → UnitView) (mergeSucceeds : Bool)
    (fuel : Nat) (start : Progress) :
    (Generator.drive task.complete (task.satisfy mergeSucceeds) (task.run storage) fuel
      start).passes.countP repairs ≤ task.maxRepairs.toNat - start.rounds := by
  apply Generator.countP_passes_le repairs fun progress => task.maxRepairs.toNat - progress.rounds
  · intro before after result passed isRepair
    have within := (rounds_of_repairs (passOf passed) isRepair).1
    omega
  · intro before after next stage resumes
    have shape := passOf (resumes.1)
    have later := rounds_pass shape
    rw [rounds_satisfy resumes.2]
    split
    · rename_i isRepair
      have spent := rounds_of_repairs shape isRepair
      omega
    · omega

/-- A pass that waits for the merge made a sweep that deleted nothing, unless
the repair is off. -/
theorem clean_of_waits {storage : Nat → ProdUnit → UnitView} {before after : Progress}
    {result : PassResult RepairError Stage} (passed : PassOf task storage before after result)
    (waits : result = .waits .nanoMerge) :
    task.maxRepairs ≤ 0 ∨
      (after.sweeps = before.sweeps + 1 ∧ after.records = before.records) := by
  cases passed with
  | raised error => cases waits
  | produces incomplete => cases waits
  | repairs produced within incomplete => cases waits
  | merges off => exact Or.inl off
  | mergesSwept unswept => exact Or.inr ⟨rfl, unswept⟩
  | finished merged => cases waits

/-- A pass that finishes leaves every group merged. -/
theorem merged_of_finished {storage : Nat → ProdUnit → UnitView} {before after : Progress}
    {result : PassResult RepairError Stage} (passed : PassOf task storage before after result)
    (finished : result = .finished) : task.complete after .nanoMerge = true := by
  cases passed with
  | raised error => cases finished
  | produces incomplete => cases finished
  | repairs produced within incomplete => cases finished
  | merges off => cases finished
  | mergesSwept unswept => cases finished
  | finished merged => exact merged

/-- A task that is driven for long enough merges or raises. -/
theorem ends (storage : Nat → ProdUnit → UnitView) (mergeSucceeds : Bool) {fuel : Nat}
    {start : Progress} (enough : task.toDo start < fuel) :
    let driven := Generator.drive task.complete (task.satisfy mergeSucceeds) (task.run storage)
      fuel start
    (driven.ending = .finished ∧ task.complete driven.final .nanoMerge = true) ∨
      (∃ error, driven.ending = .raised error) ∨
      (mergeSucceeds = false ∧ driven.ending = .dependencyFailed .nanoMerge) := by
  intro driven
  have stops : driven.ending ≠ .unfinished :=
    Generator.ends_of_measure task.toDo
      (fun _ _ _ _ resumes => lt_of_lt_of_le
        (toDo_satisfy (Generator.incomplete_of_waits resumes.1) resumes.2)
        (toDo_pass (passOf resumes.1)))
      enough
  cases ending : driven.ending with
  | unfinished => exact absurd ending stops
  | finished =>
      obtain ⟨before, last⟩ := Generator.pass_of_finished ending
      exact Or.inl ⟨rfl, merged_of_finished (passOf last) rfl⟩
  | raised error => exact Or.inr (Or.inl ⟨error, rfl⟩)
  | dependencyFailed stage =>
      have failed := Generator.unsatisfied_of_dependencyFailed ending
      right
      right
      cases stage with
      | runProd => cases failed
      | nanoMerge =>
          cases mergeSucceeds with
          | false => exact ⟨rfl, rfl⟩
          | true => cases failed

/-- However the storage loses what is staged, a production takes at most
`max_repairs` repair rounds; it waits for the merge only when the repair is off
or the sweep of that pass deleted nothing; and within `max_repairs + 3` passes
it has merged or raised, the merge it waited for included. -/
theorem repairs_bounded (task : ProductionTask) (storage : Nat → ProdUnit → UnitView)
    (mergeSucceeds : Bool) (records : Records) (merged : List (ProdUnit × Nat)) (fuel : Nat) :
    let built := task.build storage mergeSucceeds fuel { records, merged }
    built.passes.countP repairs ≤ task.maxRepairs.toNat ∧
      (∀ pass ∈ built.passes, pass.result = .waits .nanoMerge →
        task.maxRepairs ≤ 0 ∨
          (pass.after.sweeps = pass.before.sweeps + 1 ∧
            pass.after.records = pass.before.records)) ∧
      (task.maxRepairs.toNat + 3 ≤ fuel →
        (built.ending = .finished ∧ task.complete built.final .nanoMerge = true) ∨
          (∃ error, built.ending = .raised error) ∨
          (mergeSucceeds = false ∧ built.ending = .dependencyFailed .nanoMerge)) := by
  intro built
  by_cases already : task.complete { records, merged } .nanoMerge = true
  · have noop : built = ⟨[], { records, merged }, .finished⟩ := if_pos already
    rw [noop]
    exact ⟨Nat.zero_le _, fun _ member => absurd member List.not_mem_nil,
      fun _ => Or.inl ⟨rfl, already⟩⟩
  · have driven : built = Generator.drive task.complete (task.satisfy mergeSucceeds)
        (task.run storage) fuel { records, merged } := if_neg already
    rw [driven]
    refine ⟨countP_repairs_le storage mergeSucceeds fuel _, ?_, ?_⟩
    · intro pass member waits
      have shape := passOf (Generator.pass_of_mem_passes member)
      exact clean_of_waits shape waits
    · intro enough
      have bound := toDo_le task { records, merged }
      exact ends storage mergeSucceeds (by omega)

/-- A storage that keeps losing the file of the fourth seed stops the run after
the one repair round it may take. -/
example :
    let task : ProductionTask :=
      { plan := ⟨fun _ _ => 4, 2, 100, 0⟩, units := [⟨"Run3_2022", "Radion_M-250", "v12"⟩]
        maxRepairs := 1 }
    let loses := fun (_ : Nat) (_ : ProdUnit) =>
      { listing := .ok (["nano_v12_1.root", "nano_v12_2.root", "nano_v12_3.root"], []) : UnitView }
    (task.build loses true 5 { records := Dict.empty, merged := [] }).ending =
      .raised (.stillLosing 1 1) := by
  decide +kernel

end ProductionTask

end DSProd.Production
