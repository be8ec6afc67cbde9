import DSProd.Library.Run
import DSProd.Production.Pruning
import Mathlib.Data.Finset.Card
import Mathlib.Algebra.Order.BigOperators.Group.List

/-!
# What a sweep reports

`PruneProducedRecords.run` of `tasks.py` over any number of units, in the order
in which its threads finish them.  It counts what the units that succeed
returned, and says of the others that nothing was pruned for them.

A removal that raises fails its unit after the others of the unit have run, so
records of a failed unit may be gone, and a removal that returns without
removing anything is counted all the same.
-/

namespace DSProd.Production

open DSProd.Library

/-! ## The run -/

/-- What `run` has done: the records it counts, the units that it could not
check, and the records that are deleted. -/
structure PruneReport where
  nPruned : Nat := 0
  failures : List (ProdUnit × PruneError) := []
  deleted : List (ProdUnit × Nat) := []
  deriving DecidableEq

/-- The report with one unit more. -/
def PruneReport.add (report : PruneReport) (unit : ProdUnit) (pruned : Pruned) : PruneReport :=
  let deleted := report.deleted ++ pruned.removed.map fun seed => (unit, seed)
  match pruned.outcome with
  | .ok count => { report with nPruned := report.nPruned + count, deleted := deleted }
  | .error error =>
      { report with failures := report.failures ++ [(unit, error)], deleted := deleted }

/-- `PruneProducedRecords.run`, up to the error it raises about its failures. -/
def PruneProducedRecords.run (plan : Plan) (settings : PruneSettings)
    (answers : ProdUnit → UnitAnswers) (units : List ProdUnit) : PruneReport :=
  Library.run (fun report unit =>
    report.add unit (checkAndPrune plan settings unit (answers unit))) {} units

/-- `run` raises exactly when some unit failed, nothing was deleted for a unit
that it reports as failed, and it counts the records that were deleted. -/
structure ReportsHonestly (plan : Plan) (settings : PruneSettings)
    (answers : ProdUnit → UnitAnswers) (units : List ProdUnit) : Prop where
  raises : (PruneProducedRecords.run plan settings answers units).failures ≠ [] ↔
    ∃ unit ∈ units, ∃ error,
      (checkAndPrune plan settings unit (answers unit)).outcome = .error error
  kept : ∀ failure ∈ (PruneProducedRecords.run plan settings answers units).failures, ∀ seed,
    (failure.1, seed) ∉ (PruneProducedRecords.run plan settings answers units).deleted
  counted : (PruneProducedRecords.run plan settings answers units).nPruned =
    (PruneProducedRecords.run plan settings answers units).deleted.toFinset.card

/-- The removals of a unit are all done, or one of them raises and none takes
effect. -/
def RemovedTogether (removals : Nat → Removal) (stale : List Nat) : Prop :=
  (∀ seed ∈ stale, removals seed = .done) ∨
    ((∃ seed ∈ stale, (removals seed).raises = true) ∧
      ∀ seed ∈ stale, (removals seed).takesEffect = false)

/-- So are those of every unit that comes to its removals. -/
def AllTogether (plan : Plan) (settings : PruneSettings) (answers : ProdUnit → UnitAnswers)
    (units : List ProdUnit) : Prop :=
  ∀ unit ∈ units, ∀ stale, toDrop plan settings unit (answers unit) = .ok stale →
    RemovedTogether (answers unit).removals stale

/-! ## One unit -/

/-- What is counted of a unit. -/
def Pruned.counted (pruned : Pruned) : Nat :=
  match pruned.outcome with
  | .ok count => count
  | .error _ => 0

/-- The unit failed. -/
def Pruned.failure? (pruned : Pruned) : Option PruneError :=
  match pruned.outcome with
  | .ok _ => none
  | .error error => some error

theorem Pruned.failure?_eq_some_iff {pruned : Pruned} {error : PruneError} :
    pruned.failure? = some error ↔ pruned.outcome = .error error := by
  rw [Pruned.failure?]
  cases pruned.outcome <;> simp

/-- A unit deletes what is counted of it, and nothing if it failed. -/
structure Pruned.Exact (pruned : Pruned) : Prop where
  kept : pruned.failure? ≠ none → pruned.removed = []
  counted : pruned.counted = pruned.removed.length

section Units

variable {plan : Plan} {settings : PruneSettings} {unit : ProdUnit} {answers : UnitAnswers}
  {removals : Nat → Removal} {stale : List Nat}

/-- When no removal raises, all stale records are counted. -/
theorem dropStale_of_quiet (quiet : ¬∃ seed ∈ stale, (removals seed).raises = true) :
    dropStale removals stale =
      ⟨stale.filter fun seed => (removals seed).takesEffect, .ok stale.length⟩ := by
  have none : stale.find? (fun seed => (removals seed).raises) = none := by
    apply List.find?_eq_none.mpr
    exact fun seed member raises => quiet ⟨seed, member, raises⟩
  rw [dropStale, none]

/-- When one raises, the unit fails. -/
theorem dropStale_of_raises (raises : ∃ seed ∈ stale, (removals seed).raises = true) :
    ∃ error, dropStale removals stale =
      ⟨stale.filter fun seed => (removals seed).takesEffect, .error error⟩ := by
  obtain ⟨first, found⟩ := Option.isSome_iff_exists.mp (List.find?_isSome.mpr raises)
  rw [dropStale, found]
  exact ⟨_, rfl⟩

theorem exact_dropStale_iff :
    (dropStale removals stale).Exact ↔ RemovedTogether removals stale := by
  by_cases raises : ∃ seed ∈ stale, (removals seed).raises = true
  · obtain ⟨error, drops⟩ := dropStale_of_raises raises
    have unlike : ¬∀ seed ∈ stale, removals seed = .done := by
      intro done
      obtain ⟨seed, member, raised⟩ := raises
      rw [done seed member] at raised
      cases raised
    have none : (stale.filter fun seed => (removals seed).takesEffect) = [] ↔
        ∀ seed ∈ stale, (removals seed).takesEffect = false := by
      simp
    rw [drops, RemovedTogether]
    constructor
    · intro exactly
      exact Or.inr ⟨raises, none.mp (exactly.kept (by simp [Pruned.failure?]))⟩
    · intro together
      have empty := none.mpr (together.resolve_left unlike).2
      exact ⟨fun _ => empty, by rw [empty]; rfl⟩
  · rw [dropStale_of_quiet raises, RemovedTogether]
    constructor
    · intro exactly
      left
      intro seed member
      have all := List.length_filter_eq_length_iff.mp exactly.counted.symm seed member
      have quiet : (removals seed).raises = false :=
        Bool.eq_false_iff.mpr fun raised => raises ⟨seed, member, raised⟩
      rw [Removal.done, ← quiet, ← all]
    · intro together
      have done := together.resolve_right fun both => raises both.1
      constructor
      case kept => exact fun failed => absurd rfl failed
      case counted =>
        symm
        apply List.length_filter_eq_length_iff.mpr
        intro seed member
        rw [done seed member]
        rfl

/-- A unit that does not fail deletes no more than is counted of it. -/
theorem removed_le_counted (succeeds : (checkAndPrune plan settings unit answers).failure? = none) :
    (checkAndPrune plan settings unit answers).removed.length ≤
      (checkAndPrune plan settings unit answers).counted := by
  rw [checkAndPrune] at succeeds ⊢
  cases decided : toDrop plan settings unit answers with
  | error error => exact le_rfl
  | ok stale =>
      rw [decided] at succeeds
      by_cases raises : ∃ seed ∈ stale, (answers.removals seed).raises = true
      · obtain ⟨error, drops⟩ := dropStale_of_raises raises
        dsimp only at succeeds
        rw [drops] at succeeds
        cases succeeds
      · dsimp only
        rw [dropStale_of_quiet raises]
        exact List.length_filter_le _ _

theorem exact_checkAndPrune_iff : (checkAndPrune plan settings unit answers).Exact ↔
    ∀ stale, toDrop plan settings unit answers = .ok stale →
      RemovedTogether answers.removals stale := by
  rw [checkAndPrune]
  cases decided : toDrop plan settings unit answers with
  | error error =>
      apply iff_of_true
      · exact ⟨fun _ => rfl, rfl⟩
      · exact fun stale impossible => by cases impossible
  | ok stale =>
      dsimp only
      rw [exact_dropStale_iff]
      constructor
      · intro together other same
        cases same
        exact together
      · exact fun together => together stale rfl

end Units

/-! ## All units -/

section Run

variable {plan : Plan} {settings : PruneSettings} {answers : ProdUnit → UnitAnswers}
  {units : List ProdUnit}

/-- What a report says once it has some units more. -/
theorem run_add (prune : ProdUnit → Pruned) (units : List ProdUnit) (report : PruneReport) :
    Library.run (fun report unit => PruneReport.add report unit (prune unit)) report units =
      { nPruned := report.nPruned + (units.map fun unit => (prune unit).counted).sum
        failures := report.failures ++ units.filterMap fun unit =>
          (prune unit).failure?.map fun error => (unit, error)
        deleted := report.deleted ++ units.flatMap fun unit =>
          (prune unit).removed.map fun seed => (unit, seed) } := by
  induction units generalizing report with
  | nil => simp
  | cons unit rest ih =>
      rw [run_cons, ih, PruneReport.add]
      cases outcome : (prune unit).outcome with
      | ok count => simp [Pruned.counted, Pruned.failure?, outcome, Nat.add_assoc]
      | error error => simp [Pruned.counted, Pruned.failure?, outcome]

theorem run_eq : PruneProducedRecords.run plan settings answers units =
    { nPruned := (units.map fun unit =>
        (checkAndPrune plan settings unit (answers unit)).counted).sum
      failures := units.filterMap fun unit =>
        (checkAndPrune plan settings unit (answers unit)).failure?.map fun error => (unit, error)
      deleted := units.flatMap fun unit =>
        (checkAndPrune plan settings unit (answers unit)).removed.map fun seed =>
          (unit, seed) } := by
  rw [PruneProducedRecords.run, run_add]
  simp

/-- The seeds to drop are distinct. -/
theorem nodup_of_toDrop {unit : ProdUnit} {answers : UnitAnswers} {stale : List Nat}
    (decided : toDrop plan settings unit answers = .ok stale) : stale.Nodup := by
  have once : ∀ haveRecords haveStaged haveMerged : List String,
      staleToDrop plan settings unit haveRecords haveStaged haveMerged = .ok stale →
        stale.Nodup := by
    intro haveRecords haveStaged haveMerged listed
    rcases staleToDrop_cases plan settings unit haveRecords haveStaged haveMerged with
      ⟨all, _⟩ | ⟨none | ⟨error, stops⟩, _⟩
    · rw [all] at listed
      cases listed
      exact ((List.nodup_range' 1).filter _).filter _
    · rw [none] at listed
      cases listed
      exact List.nodup_nil
    · rw [stops] at listed
      cases listed
  rw [toDrop] at decided
  cases records : PruneProducedRecords.names answers.records
      (producedDir settings.storageName unit) with
  | error error =>
      rw [records] at decided
      cases decided
  | ok haveRecords =>
      cases staged : PruneProducedRecords.names answers.staged
          (stagedDir settings.storageName unit) with
      | error error =>
          rw [records, staged] at decided
          cases decided
      | ok haveStaged =>
          cases merged : PruneProducedRecords.names answers.merged
              (mergedDir settings.storageName unit) with
          | error error =>
              rw [records, staged, merged] at decided
              cases decided
          | ok haveMerged =>
              rw [records, staged, merged] at decided
              exact once haveRecords haveStaged haveMerged decided

theorem nodup_removed (unit : ProdUnit) (answers : UnitAnswers) :
    (checkAndPrune plan settings unit answers).removed.Nodup := by
  rw [checkAndPrune]
  cases decided : toDrop plan settings unit answers with
  | error error => exact List.nodup_nil
  | ok stale => exact (nodup_of_toDrop decided).filter _

/-- Every record is deleted once. -/
theorem card_deleted (once : units.Nodup) :
    (PruneProducedRecords.run plan settings answers units).deleted.toFinset.card =
      (units.map fun unit =>
        (checkAndPrune plan settings unit (answers unit)).removed.length).sum := by
  rw [run_eq, List.toFinset_card_of_nodup]
  · simp [List.length_flatMap]
  · apply List.nodup_flatMap.mpr
    constructor
    · intro unit _
      apply (nodup_removed unit (answers unit)).map
      exact fun first second same => (Prod.mk.inj same).2
    · apply once.imp
      intro first second different
      apply List.disjoint_left.mpr
      intro file inFirst inSecond
      obtain ⟨_, _, rfl⟩ := List.mem_map.mp inFirst
      obtain ⟨_, _, same⟩ := List.mem_map.mp inSecond
      exact different (Prod.mk.inj same).1.symm

theorem mem_deleted_iff {unit : ProdUnit} {seed : Nat} :
    (unit, seed) ∈ (PruneProducedRecords.run plan settings answers units).deleted ↔
      unit ∈ units ∧ seed ∈ (checkAndPrune plan settings unit (answers unit)).removed := by
  rw [run_eq]
  simp

theorem mem_failures_iff {unit : ProdUnit} {error : PruneError} :
    (unit, error) ∈ (PruneProducedRecords.run plan settings answers units).failures ↔
      unit ∈ units ∧ (checkAndPrune plan settings unit (answers unit)).failure? = some error := by
  rw [run_eq]
  simp

/-- The run raises exactly when some unit fails. -/
theorem failures_ne_nil_iff :
    (PruneProducedRecords.run plan settings answers units).failures ≠ [] ↔
      ∃ unit ∈ units, ∃ error,
        (checkAndPrune plan settings unit (answers unit)).outcome = .error error := by
  constructor
  · intro raises
    obtain ⟨⟨unit, error⟩, member⟩ := List.exists_mem_of_ne_nil _ raises
    obtain ⟨among, failed⟩ := mem_failures_iff.mp member
    exact ⟨unit, among, error, Pruned.failure?_eq_some_iff.mp failed⟩
  · rintro ⟨unit, among, error, failed⟩
    apply List.ne_nil_of_mem
    exact mem_failures_iff.mpr ⟨among, Pruned.failure?_eq_some_iff.mpr failed⟩

/-- When nothing is deleted for a failed unit, no unit deletes more than is
counted of it. -/
theorem removed_le_counted_of_kept {unit : ProdUnit} (among : unit ∈ units)
    (kept : ∀ failure ∈ (PruneProducedRecords.run plan settings answers units).failures, ∀ seed,
      (failure.1, seed) ∉ (PruneProducedRecords.run plan settings answers units).deleted) :
    ((checkAndPrune plan settings unit (answers unit)).failure? ≠ none →
        (checkAndPrune plan settings unit (answers unit)).removed = []) ∧
      (checkAndPrune plan settings unit (answers unit)).removed.length ≤
        (checkAndPrune plan settings unit (answers unit)).counted := by
  cases failed : (checkAndPrune plan settings unit (answers unit)).failure? with
  | none => exact ⟨fun impossible => absurd rfl impossible, removed_le_counted failed⟩
  | some error =>
      have reported := mem_failures_iff.mpr ⟨among, failed⟩
      have none : (checkAndPrune plan settings unit (answers unit)).removed = [] := by
        apply List.eq_nil_iff_forall_not_mem.mpr
        intro seed removed
        exact kept _ reported seed (mem_deleted_iff.mpr ⟨among, removed⟩)
      rw [none]
      exact ⟨fun _ => rfl, Nat.zero_le _⟩

/-- A sweep reports honestly exactly when each of its units is exact. -/
theorem reportsHonestly_iff_exact (once : units.Nodup) :
    ReportsHonestly plan settings answers units ↔
      ∀ unit ∈ units, (checkAndPrune plan settings unit (answers unit)).Exact := by
  constructor
  · rintro ⟨_, kept, counted⟩ unit among
    have each : ∀ unit ∈ units,
        ((checkAndPrune plan settings unit (answers unit)).failure? ≠ none →
            (checkAndPrune plan settings unit (answers unit)).removed = []) ∧
          (checkAndPrune plan settings unit (answers unit)).removed.length ≤
            (checkAndPrune plan settings unit (answers unit)).counted :=
      fun unit among => removed_le_counted_of_kept among kept
    apply Pruned.Exact.mk (each unit among).1
    -- the sums agree, and no term of the one exceeds that of the other
    rw [card_deleted once, run_eq] at counted
    apply le_antisymm _ (each unit among).2
    apply le_of_not_gt
    intro fewer
    apply counted.not_gt
    exact List.sum_lt_sum _ _ (fun unit among => (each unit among).2) ⟨unit, among, fewer⟩
  · intro exactly
    constructor
    case raises => exact failures_ne_nil_iff
    case kept =>
      rintro ⟨unit, error⟩ reported seed deleted
      obtain ⟨among, failed⟩ := mem_failures_iff.mp reported
      have none := (exactly unit among).kept (by simp [failed])
      have removed := (mem_deleted_iff.mp deleted).2
      rw [none] at removed
      cases removed
    case counted =>
      rw [card_deleted once, run_eq]
      exact congrArg List.sum <|
        List.map_congr_left fun unit among => (exactly unit among).counted

/-- A sweep reports honestly exactly when, in each unit that comes to its
removals, all of them are done, or one raises and none takes effect. -/
theorem reportsHonestly_iff (once : units.Nodup) :
    ReportsHonestly plan settings answers units ↔ AllTogether plan settings answers units := by
  rw [reportsHonestly_iff_exact once, AllTogether]
  exact forall₂_congr fun _ _ => exact_checkAndPrune_iff

end Run

/-! ## One removal of two fails -/

/-- The sweep of one unit whose lost record is deleted. -/
theorem reportsHonestly_mostlyFailing :
    ReportsHonestly twoSeeds ⟨"prod", true, .finite (1 / 2)⟩ (fun _ => mostlyFailing)
      [someUnit] := by
  apply (reportsHonestly_iff (List.nodup_singleton someUnit)).mpr
  intro unit _ stale _
  exact Or.inl fun _ _ => rfl

/-- Both seeds have a record and nothing else exists.  The first record is
deleted, and the removal of the second raises. -/
def halfRemoved : UnitAnswers where
  records _ := .entries ["nano_v15_1.json", "nano_v15_2.json"]
  staged _ := .entries []
  merged _ := .entries []
  removals seed := if seed = 1 then .done else ⟨true, false⟩

/-- The unit is reported as one for which nothing was pruned, and a record of it
is gone. -/
theorem not_reportsHonestly_halfRemoved :
    ¬ReportsHonestly twoSeeds ⟨"prod", true, .finite 1⟩ (fun _ => halfRemoved) [someUnit] := by
  intro honest
  have swept : PruneProducedRecords.run twoSeeds ⟨"prod", true, .finite 1⟩
      (fun _ => halfRemoved) [someUnit] =
        ⟨0, [(someUnit, .notRemoved 2)], [(someUnit, 1)]⟩ := by
    decide +kernel
  have kept := honest.kept
  rw [swept] at kept
  exact kept (someUnit, .notRemoved 2) (by simp) 1 (by simp)

end DSProd.Production
