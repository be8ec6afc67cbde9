import DSProd.Production.System
import DSProd.Storage.PathCache

/-!
# What the sweep deletes

`PruneProducedRecords._names` and `_check_and_prune` of `tasks.py` over a
storage that nobody else writes to, with any listing failing.

A directory that cannot be listed counts as absent only when a directory above
it answers and does not carry the branch below; so the names the sweep works
with are the true ones.  A removal is told what becomes of it: it may raise or
not, and take effect or not.
-/

namespace DSProd.Production

open DSProd.Library
open DSProd.Tasks
open DSProd.Storage (Path Tree Listing GfalError)

/-! ## Directories of a unit -/

/-- The directory of the `produced/` records of a unit. -/
def producedDir (storageName : String) (unit : ProdUnit) : Path :=
  [unit.point, unit.era, "nanoAOD_" ++ unit.version, "produced", storageName]

/-- The directory of its staged nano files. -/
def stagedDir (storageName : String) (unit : ProdUnit) : Path :=
  [unit.point, unit.era, "nanoAOD_" ++ unit.version, "staging", storageName]

/-- The directory of its merged nano files. -/
def mergedDir (storageName : String) (unit : ProdUnit) : Path :=
  [unit.point, unit.era, "nanoAOD_" ++ unit.version, storageName]

/-- `listdir` of a directory, by what the storage answers. -/
def listdir (answer : Path → Listing) (dir : Path) : Except GfalError (List String) :=
  match answer dir with
  | .failed => .error (.failed dir)
  | .absent => .error (.absent dir)
  | .entries names => .ok names

namespace PruneProducedRecords

/-- `_absence_climb_limit`. -/
def absenceClimbLimit : Nat :=
  5

/-- The climb of `_names` above a directory that does not list, by the climbs
that are left.  The base of the file system has no parent. -/
def climb (answer : Path → Listing) (error : GfalError) :
    Nat → Path → Except GfalError (List String)
  | 0, _ => .error error
  | _, [] => .error error
  | climbsLeft + 1, basename :: parent =>
      match listdir answer parent with
      | .error _ => climb answer error climbsLeft parent
      | .ok names => if basename ∈ names then .error error else .ok []

/-- `_names`. -/
def names (answer : Path → Listing) (dir : Path) : Except GfalError (List String) :=
  match listdir answer dir with
  | .ok found => .ok found
  | .error error => climb answer error absenceClimbLimit dir

end PruneProducedRecords

/-! ## The sweep of a unit -/

/-- What becomes of a removal.  One that neither raises nor takes effect
returned without removing anything, or was cancelled after another one raised. -/
structure Removal where
  raises : Bool
  takesEffect : Bool
  deriving DecidableEq

/-- The removal deletes the record and says so. -/
def Removal.done : Removal :=
  ⟨false, true⟩

/-- What a sweep meets in a unit: the answers to the listings of each of its
three `_names`, and what becomes of the removal of a record. -/
structure UnitAnswers where
  records : Path → Listing
  staged : Path → Listing
  merged : Path → Listing
  removals : Nat → Removal

/-- The directories a sweep asks about, with what it is answered. -/
def UnitAnswers.asked (answers : UnitAnswers) (storageName : String) (unit : ProdUnit) :
    List ((Path → Listing) × Path) :=
  [(answers.records, producedDir storageName unit), (answers.staged, stagedDir storageName unit),
    (answers.merged, mergedDir storageName unit)]

/-- Why a unit cannot be checked. -/
inductive PruneError where
  | unreadable (error : GfalError)
  | zeroStep
  | staleShare (stale recorded : Nat)
  | notRemoved (seed : Nat)
  deriving DecidableEq

/-- What the sweep of a unit did: the seeds whose records it deleted, and what
it returned. -/
structure Pruned where
  removed : List Nat
  outcome : Except PruneError Nat

/-- The settings of a sweep. -/
structure PruneSettings where
  storageName : String
  prune : Bool
  maxStaleFraction : Number

/-- `drop`, on every stale seed. -/
def dropStale (removals : Nat → Removal) (stale : List Nat) : Pruned where
  removed := stale.filter fun seed => (removals seed).takesEffect
  outcome :=
    match stale.find? fun seed => (removals seed).raises with
    | some seed => .error (.notRemoved seed)
    | none => .ok stale.length

/-- The seeds whose records are to be deleted, once the directories are listed. -/
def staleToDrop (plan : Plan) (settings : PruneSettings) (unit : ProdUnit)
    (haveRecords haveStaged haveMerged : List String) : Except PruneError (List Nat) :=
  let recorded := recorded plan unit haveRecords
  let stale := stale plan unit haveRecords haveStaged haveMerged
  -- a `range` whose step is zero raises
  if plan.filesPerMerge = 0 then .error .zeroStep
  else if stale = [] then .ok []
  else if staleShareExceeds settings.maxStaleFraction stale.length recorded.length then
    .error (.staleShare stale.length recorded.length)
  else if !settings.prune then .ok []
  else .ok stale

/-- `_check_and_prune` up to its removals. -/
def toDrop (plan : Plan) (settings : PruneSettings) (unit : ProdUnit) (answers : UnitAnswers) :
    Except PruneError (List Nat) := do
  let haveRecords ← (PruneProducedRecords.names answers.records
    (producedDir settings.storageName unit)).mapError .unreadable
  let haveStaged ← (PruneProducedRecords.names answers.staged
    (stagedDir settings.storageName unit)).mapError .unreadable
  let haveMerged ← (PruneProducedRecords.names answers.merged
    (mergedDir settings.storageName unit)).mapError .unreadable
  staleToDrop plan settings unit haveRecords haveStaged haveMerged

/-- `_check_and_prune`. -/
def checkAndPrune (plan : Plan) (settings : PruneSettings) (unit : ProdUnit)
    (answers : UnitAnswers) : Pruned :=
  match toDrop plan settings unit answers with
  | .error error => ⟨[], .error error⟩
  | .ok stale => dropStale answers.removals stale

/-! ## What is asked of it -/

/-- The names `_names` returns are the true ones, and none only if the
directory is empty or does not exist. -/
def NamesTrue (tree : Tree) (answer : Path → Listing) (dir : Path) : Prop :=
  ∀ found, PruneProducedRecords.names answer dir = .ok found →
    (tree.node dir = some .directory ∧ ∀ name, name ∈ found ↔ tree.Contains (name :: dir)) ∨
      (tree.node dir = none ∧ found = [])

/-- The names of each directory can be established. -/
def Established (settings : PruneSettings) (unit : ProdUnit) (answers : UnitAnswers) : Prop :=
  ∀ asked ∈ answers.asked settings.storageName unit,
    ∃ found, PruneProducedRecords.names asked.1 asked.2 = .ok found

/-- A seed of the unit has a record. -/
def HasRecord (plan : Plan) (storageName : String) (tree : Tree) (unit : ProdUnit) (seed : Nat) :
    Prop :=
  seed ∈ plan.seeds unit ∧
    tree.Contains (recordName unit.version seed :: producedDir storageName unit)

/-- Nothing accounts for the record of a seed: its nano file is not staged, and
its group is not merged. -/
def Unaccounted (plan : Plan) (storageName : String) (tree : Tree) (unit : ProdUnit)
    (seed : Nat) : Prop :=
  HasRecord plan storageName tree unit seed ∧
    ¬tree.Contains (nanoName unit.version seed :: stagedDir storageName unit) ∧
    ¬tree.Contains
      (nanoName unit.version ((seed - 1) / plan.filesPerMerge) :: mergedDir storageName unit)

instance (plan : Plan) (storageName : String) (tree : Tree) (unit : ProdUnit) (seed : Nat) :
    Decidable (HasRecord plan storageName tree unit seed) :=
  inferInstanceAs (Decidable (_ ∧ _))

instance (plan : Plan) (storageName : String) (tree : Tree) (unit : ProdUnit) (seed : Nat) :
    Decidable (Unaccounted plan storageName tree unit seed) :=
  inferInstanceAs (Decidable (_ ∧ _))

/-- The share of the recorded seeds that nothing accounts for exceeds the limit. -/
def StaleShareExceeds (plan : Plan) (settings : PruneSettings) (tree : Tree) (unit : ProdUnit) :
    Prop :=
  let recorded := (plan.seeds unit).filter (HasRecord plan settings.storageName tree unit ·)
  let stale := (plan.seeds unit).filter (Unaccounted plan settings.storageName tree unit ·)
  staleShareExceeds settings.maxStaleFraction stale.length recorded.length = true

/-- A sweep of a unit deletes only records that nothing accounts for: none when
a listing cannot be established or the share of these records is too large, and
otherwise, with `--prune`, all of them. -/
structure PrunesUnaccounted (plan : Plan) (settings : PruneSettings) (tree : Tree)
    (unit : ProdUnit) (answers : UnitAnswers) : Prop where
  names : ∀ asked ∈ answers.asked settings.storageName unit, NamesTrue tree asked.1 asked.2
  only : ∀ seed ∈ (checkAndPrune plan settings unit answers).removed,
    settings.prune = true ∧ Unaccounted plan settings.storageName tree unit seed
  none : ¬Established settings unit answers ∨ StaleShareExceeds plan settings tree unit →
    (checkAndPrune plan settings unit answers).removed = []
  all : settings.prune = true → 0 < plan.filesPerMerge → Established settings unit answers →
    ¬StaleShareExceeds plan settings tree unit → (∀ seed, answers.removals seed = .done) →
      (checkAndPrune plan settings unit answers).removed =
          (plan.seeds unit).filter (Unaccounted plan settings.storageName tree unit ·) ∧
        (checkAndPrune plan settings unit answers).outcome =
          .ok (checkAndPrune plan settings unit answers).removed.length

/-! ## Names -/

section Names

variable {tree : Tree} {answer : Path → Listing} {dir : Path}

/-- A listing that succeeds was answered. -/
theorem listdir_eq_ok_iff {names : List String} :
    listdir answer dir = .ok names ↔ answer dir = .entries names := by
  rw [listdir]
  cases answer dir <;> simp

/-- What the climb concludes to be absent is not there. -/
theorem notContains_of_climb (truthful : ∀ path, (answer path).Truthful tree path)
    {error : GfalError} {climbsLeft : Nat} {found : List String}
    (returned : PruneProducedRecords.climb answer error climbsLeft dir = .ok found) :
    found = [] ∧ ¬tree.Contains dir := by
  induction climbsLeft generalizing dir with
  | zero => cases returned
  | succ climbsLeft ih =>
      cases dir with
      | nil => cases returned
      | cons basename parent =>
          rw [PruneProducedRecords.climb] at returned
          cases listed : listdir answer parent with
          | error failure =>
              rw [listed] at returned
              obtain ⟨none, above⟩ := ih returned
              apply And.intro none
              intro present
              exact above (Tree.contains_of_suffix present (List.suffix_cons basename parent))
          | ok names =>
              rw [listed] at returned
              dsimp only at returned
              split at returned
              · cases returned
              rename_i unlisted
              have answered := truthful parent
              rw [listdir_eq_ok_iff.mp listed] at answered
              constructor
              · cases returned
                rfl
              · intro present
                rcases answered with file | ⟨_, entries⟩
                · rw [tree.parent_directory basename parent present] at file
                  cases file
                · exact unlisted ((entries basename).mpr present)

/-- The names of a directory are true whatever fails. -/
theorem namesTrue_of_truthful (truthful : ∀ path, (answer path).Truthful tree path)
    (laid : tree.node dir ≠ some .file) : NamesTrue tree answer dir := by
  intro found returned
  rw [PruneProducedRecords.names] at returned
  cases listed : listdir answer dir with
  | ok names =>
      rw [listed] at returned
      cases returned
      have answered := truthful dir
      rw [listdir_eq_ok_iff.mp listed] at answered
      exact Or.inl (answered.resolve_left laid)
  | error error =>
      rw [listed] at returned
      obtain ⟨none, absent⟩ := notContains_of_climb truthful returned
      exact Or.inr ⟨not_not.mp absent, none⟩

/-- True names are those of what is in the directory. -/
theorem NamesTrue.mem_iff (namesTrue : NamesTrue tree answer dir) {found : List String}
    (returned : PruneProducedRecords.names answer dir = .ok found) (name : String) :
    name ∈ found ↔ tree.Contains (name :: dir) := by
  rcases namesTrue found returned with ⟨_, entries⟩ | ⟨absent, none⟩
  · exact entries name
  · rw [none]
    apply iff_of_false List.not_mem_nil
    intro present
    rw [tree.parent_directory name dir present] at absent
    cases absent

end Names

/-! ## Seeds -/

/-- The merged seeds are those whose group is merged. -/
theorem mem_mergedSeeds_iff {plan : Plan} {unit : ProdUnit} {haveMerged : List String}
    {seed : Nat} (positive : 0 < plan.filesPerMerge) :
    seed ∈ mergedSeeds plan unit haveMerged ↔ seed ∈ plan.seeds unit ∧
      nanoName unit.version ((seed - 1) / plan.filesPerMerge) ∈ haveMerged := by
  have inGroup : ∀ group ∈ plan.groups unit, seed ∈ group.2 →
      group.1 = (seed - 1) / plan.filesPerMerge ∧ seed ∈ plan.seeds unit := by
    rintro ⟨group, seeds⟩ groupMem seedMem
    rcases (mem_mergeGroups positive).mp groupMem with ⟨_, rfl⟩
    rw [List.mem_range'_1, Nat.succ_mul] at seedMem
    have same : group = (seed - 1) / plan.filesPerMerge := by
      symm
      apply Nat.div_eq_of_lt_le
      · omega
      · rw [Nat.succ_mul]
        omega
    apply And.intro same
    rw [Plan.seeds, List.mem_range'_1]
    omega
  simp only [mergedSeeds, List.mem_flatMap, List.mem_filter, decide_eq_true_eq]
  constructor
  · rintro ⟨group, ⟨groupMem, merged⟩, seedMem⟩
    obtain ⟨same, member⟩ := inGroup group groupMem seedMem
    exact ⟨member, same ▸ merged⟩
  · rintro ⟨member, merged⟩
    obtain ⟨group, ⟨groupMem, seedMem⟩, _⟩ := existsUnique_mergeGroup positive member
    have same := (inGroup group groupMem seedMem).1
    exact ⟨group, ⟨groupMem, same ▸ merged⟩, seedMem⟩

section Listed

variable {plan : Plan} {settings : PruneSettings} {tree : Tree} {unit : ProdUnit}
  {haveRecords haveStaged haveMerged : List String}

/-- The listings are those of the storage. -/
structure Listed (storageName : String) (tree : Tree) (unit : ProdUnit)
    (haveRecords haveStaged haveMerged : List String) : Prop where
  records : ∀ name, name ∈ haveRecords ↔ tree.Contains (name :: producedDir storageName unit)
  staged : ∀ name, name ∈ haveStaged ↔ tree.Contains (name :: stagedDir storageName unit)
  merged : ∀ name, name ∈ haveMerged ↔ tree.Contains (name :: mergedDir storageName unit)

theorem recorded_of_listed
    (listed : Listed settings.storageName tree unit haveRecords haveStaged haveMerged) :
    recorded plan unit haveRecords =
      (plan.seeds unit).filter (HasRecord plan settings.storageName tree unit ·) := by
  apply List.filter_congr
  intro seed member
  simp [HasRecord, member, listed.records]

theorem stale_of_listed (positive : 0 < plan.filesPerMerge)
    (listed : Listed settings.storageName tree unit haveRecords haveStaged haveMerged) :
    stale plan unit haveRecords haveStaged haveMerged =
      (plan.seeds unit).filter (Unaccounted plan settings.storageName tree unit ·) := by
  rw [stale, recorded, List.filter_filter]
  apply List.filter_congr
  intro seed member
  rw [Bool.eq_iff_iff]
  simp only [Unaccounted, HasRecord, mem_mergedSeeds_iff positive, member, listed.records,
    listed.staged, listed.merged, Bool.and_eq_true, decide_eq_true_eq, true_and]
  tauto

end Listed

/-! ## The sweep of a unit, whatever fails -/

section Sweep

variable {plan : Plan} {settings : PruneSettings} {tree : Tree} {unit : ProdUnit}
  {answers : UnitAnswers}

/-- A sweep goes on from listings that are those of the storage, or stops. -/
theorem toDrop_cases (plan : Plan)
    (namesTrue : ∀ asked ∈ answers.asked settings.storageName unit,
      NamesTrue tree asked.1 asked.2) :
    (Established settings unit answers ∧ ∃ haveRecords haveStaged haveMerged,
        Listed settings.storageName tree unit haveRecords haveStaged haveMerged ∧
          toDrop plan settings unit answers =
            staleToDrop plan settings unit haveRecords haveStaged haveMerged) ∨
      (¬Established settings unit answers ∧ ∃ error,
        toDrop plan settings unit answers = .error (.unreadable error)) := by
  simp only [UnitAnswers.asked, List.forall_mem_cons] at namesTrue
  obtain ⟨recordsTrue, stagedTrue, mergedTrue, _⟩ := namesTrue
  simp only [Established, UnitAnswers.asked, List.forall_mem_cons]
  rw [toDrop]
  cases records : PruneProducedRecords.names answers.records
      (producedDir settings.storageName unit) with
  | error error =>
      right
      exact ⟨by simp, error, rfl⟩
  | ok haveRecords =>
      cases staged : PruneProducedRecords.names answers.staged
          (stagedDir settings.storageName unit) with
      | error error =>
          right
          exact ⟨by simp, error, rfl⟩
      | ok haveStaged =>
          cases merged : PruneProducedRecords.names answers.merged
              (mergedDir settings.storageName unit) with
          | error error =>
              right
              exact ⟨by simp, error, rfl⟩
          | ok haveMerged =>
              left
              constructor
              · exact ⟨⟨_, rfl⟩, ⟨_, rfl⟩, ⟨_, rfl⟩, fun _ none => by cases none⟩
              · exact ⟨haveRecords, haveStaged, haveMerged,
                  ⟨recordsTrue.mem_iff records, stagedTrue.mem_iff staged,
                    mergedTrue.mem_iff merged⟩, rfl⟩

/-- What the sweep of a unit deletes is stale, within the limit, and asked for;
and it deletes all of it. -/
theorem staleToDrop_cases (plan : Plan) (settings : PruneSettings) (unit : ProdUnit)
    (haveRecords haveStaged haveMerged : List String) :
    let recorded := recorded plan unit haveRecords
    let stale := stale plan unit haveRecords haveStaged haveMerged
    let exceeds := staleShareExceeds settings.maxStaleFraction stale.length recorded.length
    let decided := staleToDrop plan settings unit haveRecords haveStaged haveMerged
    (decided = .ok stale ∧ 0 < plan.filesPerMerge ∧
        (stale = [] ∨ settings.prune = true ∧ exceeds = false)) ∨
      ((decided = .ok [] ∨ ∃ error, decided = .error error) ∧
        (plan.filesPerMerge = 0 ∨ settings.prune = false ∨ exceeds = true)) := by
  intro recorded stale exceeds decided
  by_cases zero : plan.filesPerMerge = 0
  · have stops : decided = .error .zeroStep := if_pos zero
    exact Or.inr ⟨Or.inr ⟨_, stops⟩, Or.inl zero⟩
  by_cases fresh : stale = []
  · have none : decided = .ok [] := (if_neg zero).trans (if_pos fresh)
    rw [none, fresh]
    exact Or.inl ⟨rfl, Nat.pos_of_ne_zero zero, Or.inl rfl⟩
  by_cases tooMany : exceeds = true
  · have stops : decided = .error (.staleShare stale.length recorded.length) :=
      (if_neg zero).trans ((if_neg fresh).trans (if_pos tooMany))
    exact Or.inr ⟨Or.inr ⟨_, stops⟩, Or.inr (Or.inr tooMany)⟩
  have goesOn : decided = if !settings.prune then .ok [] else .ok stale :=
    (if_neg zero).trans ((if_neg fresh).trans (if_neg tooMany))
  cases prunes : settings.prune with
  | false =>
      rw [prunes] at goesOn
      exact Or.inr ⟨Or.inl goesOn, Or.inr (Or.inl rfl)⟩
  | true =>
      rw [prunes] at goesOn
      exact Or.inl ⟨goesOn, Nat.pos_of_ne_zero zero, Or.inr ⟨rfl, Bool.eq_false_iff.mpr tooMany⟩⟩

/-- When every removal is done, all of the stale records are deleted. -/
theorem dropStale_of_done {removals : Nat → Removal} {stale : List Nat}
    (done : ∀ seed ∈ stale, removals seed = .done) :
    dropStale removals stale = ⟨stale, .ok stale.length⟩ := by
  have none : stale.find? (fun seed => (removals seed).raises) = none := by
    apply List.find?_eq_none.mpr
    intro seed member
    simp [done seed member, Removal.done]
  have all : stale.filter (fun seed => (removals seed).takesEffect) = stale := by
    apply List.filter_eq_self.mpr
    intro seed member
    simp [done seed member, Removal.done]
  rw [dropStale, none, all]

/-- A sweep that deletes nothing, because it decided so or because it stopped. -/
theorem removed_of_decided
    (decided : toDrop plan settings unit answers = .ok [] ∨
      ∃ error, toDrop plan settings unit answers = .error error) :
    (checkAndPrune plan settings unit answers).removed = [] := by
  rw [checkAndPrune]
  rcases decided with decided | ⟨error, decided⟩
  · rw [decided]
    rfl
  · rw [decided]

/-- A sweep that deletes nothing is right where it has a reason to stop. -/
theorem prunesUnaccounted_of_decided
    (namesTrue : ∀ asked ∈ answers.asked settings.storageName unit, NamesTrue tree asked.1 asked.2)
    (decided : toDrop plan settings unit answers = .ok [] ∨
      ∃ error, toDrop plan settings unit answers = .error error)
    (stops : settings.prune = true → 0 < plan.filesPerMerge → Established settings unit answers →
      StaleShareExceeds plan settings tree unit) :
    PrunesUnaccounted plan settings tree unit answers where
  names := namesTrue
  only seed removed := by
    rw [removed_of_decided decided] at removed
    cases removed
  none _ := removed_of_decided decided
  all prunes positive established within _ := absurd (stops prunes positive established) within

/-- The sweep of a unit deletes only records that nothing accounts for,
whichever listings fail. -/
theorem prunesUnaccounted
    (truthful : ∀ asked ∈ answers.asked settings.storageName unit,
      ∀ path, (asked.1 path).Truthful tree path)
    (laid : ∀ asked ∈ answers.asked settings.storageName unit, tree.node asked.2 ≠ some .file) :
    PrunesUnaccounted plan settings tree unit answers := by
  have namesTrue : ∀ asked ∈ answers.asked settings.storageName unit,
      NamesTrue tree asked.1 asked.2 :=
    fun asked member => namesTrue_of_truthful (truthful asked member) (laid asked member)
  rcases toDrop_cases plan namesTrue with
    ⟨established, haveRecords, haveStaged, haveMerged, listed, goesOn⟩ |
      ⟨unestablished, error, raised⟩
  · rcases staleToDrop_cases plan settings unit haveRecords haveStaged haveMerged with
      ⟨decided, positive, why⟩ | ⟨decided, why⟩
    · rw [← goesOn, stale_of_listed positive listed] at decided
      rw [recorded_of_listed listed, stale_of_listed positive listed] at why
      have drops : checkAndPrune plan settings unit answers = dropStale answers.removals
          ((plan.seeds unit).filter (Unaccounted plan settings.storageName tree unit ·)) := by
        rw [checkAndPrune, decided]
      constructor
      case names => exact namesTrue
      case only =>
        intro seed removed
        rw [drops] at removed
        have member := (List.mem_filter.mp removed).1
        rcases why with none | ⟨prunes, _⟩
        · rw [none] at member
          cases member
        · exact ⟨prunes, of_decide_eq_true (List.mem_filter.mp member).2⟩
      case none =>
        rintro (unestablished | exceeds)
        · exact absurd established unestablished
        · rcases why with none | ⟨_, within⟩
          · rw [drops, none]
            rfl
          · exact absurd (exceeds.symm.trans within) Bool.noConfusion
      case all =>
        intro _ _ _ _ done
        rw [drops, dropStale_of_done fun seed _ => done seed]
        exact ⟨rfl, rfl⟩
    · rw [← goesOn] at decided
      apply prunesUnaccounted_of_decided namesTrue decided
      intro prunes positive _
      rcases why with zero | reports | exceeds
      · exact absurd zero positive.ne'
      · rw [prunes] at reports
        cases reports
      · rw [recorded_of_listed listed, stale_of_listed positive listed] at exceeds
        exact exceeds
  · apply prunesUnaccounted_of_decided namesTrue (Or.inr ⟨_, raised⟩)
    exact fun _ _ established => absurd established unestablished

end Sweep

/-! ## A unit with one stale record -/

/-- Two seeds of one unit. -/
def twoSeeds : Plan where
  nJobs _ _ := 2
  eventsPerJob := 1000

/-- The unit. -/
def someUnit : ProdUnit :=
  ⟨"Run3_2022", "ggF", "v15"⟩

/-- Both seeds have a record, one is staged, and nothing is merged. -/
def oneLost : Tree :=
  Tree.ofFiles
    ["nano_v15_1.json" :: producedDir "prod" someUnit,
      "nano_v15_2.json" :: producedDir "prod" someUnit,
      "nano_v15_2.root" :: stagedDir "prod" someUnit]

/-- Of the directories above the merged one only the topmost can be listed. -/
def mostlyFailing : UnitAnswers where
  records path :=
    if path = producedDir "prod" someUnit then .entries ["nano_v15_1.json", "nano_v15_2.json"]
    else .failed
  staged path := if path = stagedDir "prod" someUnit then .entries ["nano_v15_2.root"] else .failed
  merged path :=
    if path = mergedDir "prod" someUnit then .absent
    else if path = ["prod"] then .entries ["produced", "staging"]
    else .failed
  removals _ := .done

theorem mostlyFailing_truthful : ∀ asked ∈ mostlyFailing.asked "prod" someUnit,
    ∀ path, (asked.1 path).Truthful oneLost path := by
  have entriesOf : ∀ {dir : Path} {names : List String}, oneLost.node dir = some .directory →
      (∀ name, name ∈ names ↔ oneLost.Contains (name :: dir)) →
        (Listing.entries names).Truthful oneLost dir :=
    fun directory children => Or.inr ⟨directory, children⟩
  simp only [UnitAnswers.asked, List.forall_mem_cons]
  refine ⟨?_, ?_, ?_, fun _ none => by cases none⟩
  · intro path
    simp only [mostlyFailing]
    split
    · rename_i same
      rw [same]
      apply entriesOf (by decide)
      intro name
      simp [oneLost, Tree.contains_ofFiles, producedDir, stagedDir, someUnit,
        List.suffix_cons_iff]
    · trivial
  · intro path
    simp only [mostlyFailing]
    split
    · rename_i same
      rw [same]
      apply entriesOf (by decide)
      intro name
      simp [oneLost, Tree.contains_ofFiles, producedDir, stagedDir, someUnit,
        List.suffix_cons_iff]
    · trivial
  · intro path
    simp only [mostlyFailing]
    split
    · rename_i same
      have absent : oneLost.node (mergedDir "prod" someUnit) = none := by decide
      rw [same]
      exact absent
    split
    · rename_i same
      rw [same]
      apply entriesOf (by decide)
      intro name
      simp [oneLost, Tree.contains_ofFiles, producedDir, stagedDir, someUnit,
        List.suffix_cons_iff]
    · trivial

theorem prunesUnaccounted_oneLost :
    PrunesUnaccounted twoSeeds ⟨"prod", true, .finite (1 / 2)⟩ oneLost someUnit mostlyFailing := by
  apply prunesUnaccounted mostlyFailing_truthful
  decide

example : (checkAndPrune twoSeeds ⟨"prod", true, .finite (1 / 2)⟩ someUnit
    mostlyFailing).removed = [1] := by
  decide +kernel

end DSProd.Production
