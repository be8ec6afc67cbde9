import DSProd.Production.System

/-!
# No recorded seed is lost

A record outlives the nano file it stands for, so the file may only go once a
merged file covers its seed.  That holds under any interleaving because a seed
that is accounted for stays so: a staged file is only removed by a merge that
has uploaded, and nothing removes a merged file.  A sweep needs no more than
that, since it lists the staged files before the merged ones.
-/

namespace DSProd.Production

open DSProd.Library
open DSProd.Tasks (mergeGroups)

variable {plan : Plan} {storage later : Storage} {unit : ProdUnit} {seed : Nat}

/-! ## What accounts for a seed -/

/-- A merged file of a group of seeds passed the checks of its merge. -/
structure Verified (plan : Plan) (seeds : List Nat) (file : MergedFile) : Prop where
  inputs : file.inputs.length = seeds.length
  entries : file.entries = file.inputs.sum
  contracted : plan.test = 0 → (file.entries : ℤ) = plan.eventsPerJob * seeds.length

/-- A merged file covers the group of a seed. -/
def Covered (plan : Plan) (storage : Storage) (unit : ProdUnit) (seed : Nat) : Prop :=
  ∃ group ∈ plan.groups unit, seed ∈ group.2 ∧ (unit, group.1) ∈ storage.merged.keys

/-- The staged file of a seed is there, or a merged file that covers it. -/
def Accounted (plan : Plan) (storage : Storage) (unit : ProdUnit) (seed : Nat) : Prop :=
  (unit, seed) ∈ storage.staged.keys ∨ Covered plan storage unit seed

/-- Records have something that accounts for them, and merged files are verified. -/
structure Consistent (plan : Plan) (storage : Storage) : Prop where
  records : ∀ unit seed, (unit, seed) ∈ storage.produced.keys → Accounted plan storage unit seed
  verified : ∀ unit, ∀ group ∈ plan.groups unit, ∀ file,
    storage.merged.get? (unit, group.1) = some file → Verified plan group.2 file

/-- What no step of any job undoes. -/
structure Preserves (plan : Plan) (storage later : Storage) : Prop where
  accounted : ∀ unit seed, Accounted plan storage unit seed → Accounted plan later unit seed
  merged : ∀ file ∈ storage.merged.keys, file ∈ later.merged.keys
  records : ∀ record ∈ storage.produced.keys, record ∈ later.produced.keys

theorem Preserves.refl (plan : Plan) (storage : Storage) : Preserves plan storage storage :=
  ⟨fun _ _ holds => holds, fun _ member => member, fun _ member => member⟩

theorem Covered.mono (merged : ∀ file ∈ storage.merged.keys, file ∈ later.merged.keys)
    (covered : Covered plan storage unit seed) : Covered plan later unit seed := by
  obtain ⟨group, groupMem, seedMem, present⟩ := covered
  exact ⟨group, groupMem, seedMem, merged _ present⟩

/-- The index of a group determines its seeds. -/
theorem seeds_eq_of_mem_groups {group : Nat} {first second : List Nat}
    (firstMem : (group, first) ∈ plan.groups unit)
    (secondMem : (group, second) ∈ plan.groups unit) :
    first = second := by
  simp only [Plan.groups, mergeGroups, List.mem_map, Prod.mk.injEq] at firstMem secondMem
  rcases firstMem with ⟨_, _, rfl, rfl⟩
  obtain ⟨_, _, rfl, rfl⟩ := secondMem
  rfl

/-! ## The writes -/

/-- Staging a file. -/
theorem consistent_stage (consistent : Consistent plan storage) (file : ProdUnit × Nat)
    (events : Nat) :
    Consistent plan { storage with staged := storage.staged.set file events } ∧
      Preserves plan storage { storage with staged := storage.staged.set file events } := by
  have accounted : ∀ unit seed, Accounted plan storage unit seed →
      Accounted plan { storage with staged := storage.staged.set file events } unit seed := by
    rintro unit seed (staged | covered)
    · exact Or.inl (Dict.mem_keys_set.mpr (Or.inr staged))
    · exact Or.inr covered
  constructor
  · exact ⟨fun unit seed record => accounted unit seed (consistent.records unit seed record),
      consistent.verified⟩
  · exact ⟨accounted, fun _ member => member, fun _ member => member⟩

/-- Writing the record of a seed that is accounted for. -/
theorem consistent_record (consistent : Consistent plan storage)
    (accounted : Accounted plan storage unit seed) (nEvents : ℤ) :
    Consistent plan { storage with produced := storage.produced.set (unit, seed) nEvents } ∧
      Preserves plan storage
        { storage with produced := storage.produced.set (unit, seed) nEvents } := by
  constructor
  · constructor
    · intro other number record
      rcases Dict.mem_keys_set.mp record with same | old
      · cases same
        exact accounted
      · exact consistent.records other number old
    · exact consistent.verified
  · exact ⟨fun _ _ holds => holds, fun _ member => member,
      fun _ member => Dict.mem_keys_set.mpr (Or.inr member)⟩

/-- Uploading a merged file that passed its checks. -/
theorem consistent_upload (consistent : Consistent plan storage) {group : Nat} {seeds : List Nat}
    (groupMem : (group, seeds) ∈ plan.groups unit) {file : MergedFile}
    (verified : Verified plan seeds file) :
    Consistent plan { storage with merged := storage.merged.set (unit, group) file } ∧
      Preserves plan storage { storage with merged := storage.merged.set (unit, group) file } := by
  have merged : ∀ other ∈ storage.merged.keys,
      other ∈ (storage.merged.set (unit, group) file).keys :=
    fun _ member => Dict.mem_keys_set.mpr (Or.inr member)
  have accounted : ∀ unit' seed, Accounted plan storage unit' seed →
      Accounted plan { storage with merged := storage.merged.set (unit, group) file }
        unit' seed := by
    rintro unit' seed (staged | covered)
    · exact Or.inl staged
    · exact Or.inr (covered.mono merged)
  constructor
  · constructor
    · exact fun unit' seed record => accounted unit' seed (consistent.records unit' seed record)
    · rintro unit' ⟨index, others⟩ otherMem found stored
      rw [Dict.get?_set] at stored
      by_cases same : (unit', index) = (unit, group)
      · cases same
        rw [if_pos rfl, Option.some.injEq] at stored
        rw [← stored, seeds_eq_of_mem_groups otherMem groupMem]
        exact verified
      · rw [if_neg same] at stored
        exact consistent.verified unit' (index, others) otherMem found stored
  · exact ⟨accounted, merged, fun _ member => member⟩

/-- Removing the staged file of a seed that a merged file covers. -/
theorem consistent_remove (consistent : Consistent plan storage)
    (covered : Covered plan storage unit seed) :
    Consistent plan { storage with staged := storage.staged.pop (unit, seed) } ∧
      Preserves plan storage { storage with staged := storage.staged.pop (unit, seed) } := by
  have accounted : ∀ unit' seed', Accounted plan storage unit' seed' →
      Accounted plan { storage with staged := storage.staged.pop (unit, seed) } unit' seed' := by
    rintro unit' seed' (staged | others)
    · by_cases same : (unit', seed') = (unit, seed)
      · cases same
        exact Or.inr covered
      · exact Or.inl (Dict.mem_keys_pop.mpr ⟨same, staged⟩)
    · exact Or.inr others
  constructor
  · exact ⟨fun unit' seed' record => accounted unit' seed' (consistent.records unit' seed' record),
      consistent.verified⟩
  · exact ⟨accounted, fun _ member => member, fun _ member => member⟩

/-! ## What the jobs rely on -/

/-- A `RunProd` job that has staged a file relies on its seed being accounted for. -/
def RunProdJob.Relies (plan : Plan) (storage : Storage) (job : RunProdJob) : Prop :=
  job.staged = true → ∀ version ∈ job.versions.head?,
    Accounted plan storage (job.unit version) job.seed

/-- A merge that removes its inputs relies on its merged file being there. -/
def MergePhase.Relies (plan : Plan) (storage : Storage) (job : MergeJob) : MergePhase → Prop
  | .checkStaged _ _ => True
  | .checkContracted _ _ => True
  | .localize rest inputs => inputs.length + rest.length = job.seeds.length
  | .hadd inputs => inputs.length = job.seeds.length
  | .upload file => Verified plan job.seeds file
  | .remove rest => (job.unit, job.group) ∈ storage.merged.keys ∧ ∀ seed ∈ rest, seed ∈ job.seeds

/-- A `NanoMergeTask` job works on a group of its unit. -/
structure MergeJob.Relies (plan : Plan) (storage : Storage) (job : MergeJob) : Prop where
  group : (job.group, job.seeds) ∈ plan.groups job.unit
  phase : job.phase.Relies plan storage job

/-- A sweep relies on the seeds it has found recorded being accounted for: after
its second listing, by a name it has read or by a merged file. -/
def SweepJob.Relies (plan : Plan) (storage : Storage) (job : SweepJob) : Prop :=
  match job.phase with
  | .listRecords => True
  | .listStaged haveRecords => ∀ seed ∈ recorded plan job.unit haveRecords,
      Accounted plan storage job.unit seed
  | .listMerged haveRecords haveStaged => ∀ seed ∈ recorded plan job.unit haveRecords,
      nanoName job.unit.version seed ∈ haveStaged ∨ Covered plan storage job.unit seed
  | .drop _ => False

/-- What a job relies on. -/
def Job.Relies (plan : Plan) (storage : Storage) : Job → Prop
  | .runProd job => job.Relies plan storage
  | .merge job => job.Relies plan storage
  | .sweep job => job.Relies plan storage

/-- What a job relies on is never undone. -/
theorem relies_of_preserves {job : Job} (preserves : Preserves plan storage later)
    (relies : job.Relies plan storage) : job.Relies plan later := by
  cases job with
  | runProd job =>
      exact fun staged version first => preserves.accounted _ _ (relies staged version first)
  | merge job =>
      rcases job with ⟨unit, group, seeds, phase⟩
      constructor
      · exact relies.group
      · have phaseRelies := relies.phase
        cases phase with
        | remove rest => exact ⟨preserves.merged _ phaseRelies.1, phaseRelies.2⟩
        | _ => exact phaseRelies
  | sweep job =>
      obtain ⟨unit, prune, maxStaleFraction, phase⟩ := job
      cases phase with
      | listRecords => trivial
      | listStaged haveRecords =>
          exact fun seed found => preserves.accounted _ _ (relies seed found)
      | listMerged haveRecords haveStaged =>
          exact fun seed found => (relies seed found).imp_right (Covered.mono preserves.merged)
      | drop stale => exact relies

/-- A job that begins relies on nothing. -/
theorem relies_of_begins {request : Request} {job : Job} (begun : begins plan request = some job) :
    job.Relies plan storage := by
  cases request with
  | runProd era point seed nEvents versions =>
      cases begun
      intro staged
      cases staged
  | merge unit group =>
      simp only [begins, Option.map_eq_some_iff] at begun
      rcases begun with ⟨found, present, rfl⟩
      exact ⟨List.mem_of_getElem? present, trivial⟩
  | sweep unit prune maxStaleFraction =>
      cases begun
      trivial

/-! ## The steps -/

/-- What every step of a job has to show. -/
structure Safe (plan : Plan) (storage : Storage) (moved : Storage × Option Job) : Prop where
  consistent : Consistent plan moved.1
  preserves : Preserves plan storage moved.1
  relies : ∀ next, moved.2 = some next → next.Relies plan moved.1

/-- A job that ends or raises without writing. -/
theorem Safe.stops (consistent : Consistent plan storage) : Safe plan storage (storage, none) where
  consistent := consistent
  preserves := Preserves.refl plan storage
  relies := by
    intro next ended
    cases ended

/-- A job that goes on without writing. -/
theorem Safe.reads {job : Job} (consistent : Consistent plan storage)
    (relies : job.Relies plan storage) : Safe plan storage (storage, some job) where
  consistent := consistent
  preserves := Preserves.refl plan storage
  relies := by
    intro next same
    cases same
    exact relies

/-- A job that goes on after a write. -/
theorem Safe.writes {job : Job}
    (written : Consistent plan later ∧ Preserves plan storage later)
    (relies : job.Relies plan later) : Safe plan storage (later, some job) where
  consistent := written.1
  preserves := written.2
  relies := by
    intro next same
    cases same
    exact relies

theorem safe_runProd {job : RunProdJob} {input : Input} (consistent : Consistent plan storage)
    (relies : job.Relies plan storage) :
    Safe plan storage (advance plan storage (.runProd job) input) := by
  rcases job with ⟨era, point, seed, nEvents, versions, staged⟩
  cases versions with
  | nil => exact Safe.stops consistent
  | cons version rest =>
      cases staged with
      | false =>
          apply Safe.writes (consistent_stage consistent _ _)
          intro _ first firstMem
          cases firstMem
          exact Or.inl (Dict.mem_keys_set.mpr (Or.inl rfl))
      | true =>
          apply Safe.writes (consistent_record consistent (relies rfl version rfl) nEvents)
          intro staged
          cases staged

/-- The checks of a merge verify what it uploads. -/
theorem verified_of_checkMerged {seeds inputs : List Nat} {nOut : Nat} {file : MergedFile}
    (complete : inputs.length = seeds.length)
    (checked : checkMerged plan seeds inputs nOut = .ok file) : Verified plan seeds file := by
  rw [checkMerged] at checked
  split at checked
  · cases checked
  · rename_i entriesSame
    split at checked
    · cases checked
    · rename_i contractMet
      cases checked
      constructor
      · exact complete
      · exact not_not.mp entriesSame
      · intro untested
        by_contra differs
        exact contractMet ⟨untested, differs⟩

section Merge

variable {group : Nat} {seeds : List Nat} {input : Input} (consistent : Consistent plan storage)
  (groupMem : (group, seeds) ∈ plan.groups unit)

include consistent groupMem

theorem safe_checkStaged (rest missing : List Nat) :
    Safe plan storage
      (advance plan storage (.merge ⟨unit, group, seeds, .checkStaged rest missing⟩) input) := by
  cases rest with
  | cons seed rest => exact Safe.reads consistent ⟨groupMem, trivial⟩
  | nil =>
      simp only [advance, MergeJob.advance]
      split
      · exact Safe.stops consistent
      split
      · exact Safe.reads consistent ⟨groupMem, Nat.zero_add _⟩
      · exact Safe.reads consistent ⟨groupMem, trivial⟩

theorem safe_checkContracted (rest : List Nat) (sizes : List (Nat × ℤ)) :
    Safe plan storage
      (advance plan storage (.merge ⟨unit, group, seeds, .checkContracted rest sizes⟩) input) := by
  cases rest with
  | cons seed rest =>
      simp only [advance, MergeJob.advance]
      cases storage.produced.get? (unit, seed) with
      | none => exact Safe.stops consistent
      | some requested => exact Safe.reads consistent ⟨groupMem, trivial⟩
  | nil =>
      simp only [advance, MergeJob.advance]
      split
      · exact Safe.stops consistent
      · exact Safe.reads consistent ⟨groupMem, Nat.zero_add _⟩

theorem safe_localize (rest inputs : List Nat)
    (counted : inputs.length + rest.length = seeds.length) :
    Safe plan storage
      (advance plan storage (.merge ⟨unit, group, seeds, .localize rest inputs⟩) input) := by
  cases rest with
  | cons seed rest =>
      simp only [advance, MergeJob.advance]
      cases storage.staged.get? (unit, seed) with
      | none => exact Safe.stops consistent
      | some events =>
          have countedNext : (inputs ++ [events]).length + rest.length = seeds.length := by
            simp only [List.length_append, List.length_cons, List.length_nil] at counted ⊢
            omega
          exact Safe.reads consistent ⟨groupMem, countedNext⟩
  | nil => exact Safe.reads consistent ⟨groupMem, counted⟩

theorem safe_hadd (inputs : List Nat) (counted : inputs.length = seeds.length) :
    Safe plan storage
      (advance plan storage (.merge ⟨unit, group, seeds, .hadd inputs⟩) input) := by
  simp only [advance, MergeJob.advance]
  cases checked : checkMerged plan seeds inputs input.number with
  | error error => exact Safe.stops consistent
  | ok file =>
      exact Safe.reads consistent ⟨groupMem, verified_of_checkMerged counted checked⟩

theorem safe_remove (rest : List Nat) (uploaded : (unit, group) ∈ storage.merged.keys)
    (merged : ∀ seed ∈ rest, seed ∈ seeds) :
    Safe plan storage
      (advance plan storage (.merge ⟨unit, group, seeds, .remove rest⟩) input) := by
  cases rest with
  | nil => exact Safe.stops consistent
  | cons seed rest =>
      have covered : Covered plan storage unit seed :=
        ⟨(group, seeds), groupMem, merged seed List.mem_cons_self, uploaded⟩
      have mergedRest : ∀ later ∈ rest, later ∈ seeds :=
        fun later member => merged later (List.mem_cons_of_mem seed member)
      simp only [advance, MergeJob.advance]
      split
      · exact Safe.writes (consistent_remove consistent covered) ⟨groupMem, uploaded, mergedRest⟩
      · exact Safe.reads consistent ⟨groupMem, uploaded, mergedRest⟩

end Merge

theorem safe_merge {job : MergeJob} {input : Input} (consistent : Consistent plan storage)
    (relies : job.Relies plan storage) :
    Safe plan storage (advance plan storage (.merge job) input) := by
  rcases job with ⟨unit, group, seeds, phase⟩
  have groupMem := relies.group
  have phaseRelies := relies.phase
  cases phase with
  | checkStaged rest missing => exact safe_checkStaged consistent groupMem rest missing
  | checkContracted rest sizes => exact safe_checkContracted consistent groupMem rest sizes
  | localize rest inputs => exact safe_localize consistent groupMem rest inputs phaseRelies
  | hadd inputs => exact safe_hadd consistent groupMem inputs phaseRelies
  | upload file =>
      apply Safe.writes (consistent_upload consistent groupMem phaseRelies)
      exact ⟨groupMem, Dict.mem_keys_set.mpr (Or.inl rfl), fun _ member => member⟩
  | remove rest => exact safe_remove consistent groupMem rest phaseRelies.1 phaseRelies.2

/-! ## The listings of a sweep -/

/-- The digits of a number determine it. -/
theorem eq_of_repr_eq {first second : Nat} (same : first.repr = second.repr) : first = second := by
  have digits : Nat.toDigits 10 first = Nat.toDigits 10 second := by
    rw [← Nat.toList_repr, ← Nat.toList_repr, same]
  calc
    first = Nat.ofDigitChars 10 (Nat.toDigits 10 first) 0 :=
      (Nat.ofDigitChars_toDigits (by decide) (by decide)).symm
    _ = Nat.ofDigitChars 10 (Nat.toDigits 10 second) 0 := by rw [digits]
    _ = second := Nat.ofDigitChars_toDigits (by decide) (by decide)

theorem recordName_injective (version : String) : Function.Injective (recordName version) := by
  intro first second same
  apply eq_of_repr_eq
  simpa [recordName, String.append_left_inj, String.append_right_inj] using same

/-- A seed that a listing of the records carries is recorded. -/
theorem mem_produced_of_recorded
    (listed : seed ∈ recorded plan unit (names storage.produced recordName unit)) :
    (unit, seed) ∈ storage.produced.keys := by
  have named := of_decide_eq_true (List.mem_filter.mp listed).2
  simp only [names, List.mem_map, List.mem_filter, decide_eq_true_eq] at named
  obtain ⟨⟨owner, number⟩, ⟨present, rfl⟩, same⟩ := named
  have equal : number = seed := recordName_injective _ same
  rw [equal] at present
  exact present

/-- The listing of a directory carries the files in it. -/
theorem mem_names {V : Type} {files : Dict (ProdUnit × Nat) V} {nameOf : String → Nat → String}
    {number : Nat} (present : (unit, number) ∈ files.keys) :
    nameOf unit.version number ∈ names files nameOf unit := by
  simp only [names, List.mem_map, List.mem_filter, decide_eq_true_eq]
  exact ⟨(unit, number), ⟨present, rfl⟩, rfl⟩

/-- A seed that a merged file covers is among the merged seeds. -/
theorem mem_mergedSeeds (covered : Covered plan storage unit seed) :
    seed ∈ mergedSeeds plan unit (names storage.merged nanoName unit) := by
  rcases covered with ⟨group, groupMem, seedMem, present⟩
  simp only [mergedSeeds, List.mem_flatMap, List.mem_filter, decide_eq_true_eq]
  exact ⟨group, ⟨groupMem, mem_names present⟩, seedMem⟩

/-- Listed in this order, no recorded seed looks stale. -/
theorem stale_eq_nil {haveRecords haveStaged : List String}
    (relies : ∀ seed ∈ recorded plan unit haveRecords,
      nanoName unit.version seed ∈ haveStaged ∨ Covered plan storage unit seed) :
    stale plan unit haveRecords haveStaged (names storage.merged nanoName unit) = [] := by
  simp only [stale, List.filter_eq_nil_iff, decide_eq_true_eq]
  rintro seed listed ⟨unmerged, unstaged⟩
  rcases relies seed listed with staged | covered
  · exact unstaged staged
  · exact unmerged (mem_mergedSeeds covered)

theorem safe_sweep {job : SweepJob} {input : Input} (consistent : Consistent plan storage)
    (relies : job.Relies plan storage) :
    Safe plan storage (advance plan storage (.sweep job) input) := by
  rcases job with ⟨unit, prune, maxStaleFraction, phase⟩
  cases phase with
  | listRecords =>
      apply Safe.reads consistent
      intro seed listed
      exact consistent.records unit seed (mem_produced_of_recorded listed)
  | listStaged haveRecords =>
      apply Safe.reads consistent
      intro seed listed
      exact (relies seed listed).imp_left mem_names
  | listMerged haveRecords haveStaged =>
      have none : stale plan unit haveRecords haveStaged
          (names storage.merged nanoName unit) = [] := stale_eq_nil relies
      simp only [advance, SweepJob.advance, none, SweepJob.decide, if_true]
      exact Safe.stops consistent
  | drop stale => cases relies

/-! ## Whole runs -/

/-- A step of a job keeps the storage consistent, and undoes nothing that
another job relies on. -/
theorem safe_advance {job : Job} {input : Input} (consistent : Consistent plan storage)
    (relies : job.Relies plan storage) : Safe plan storage (advance plan storage job input) := by
  cases job with
  | runProd job => exact safe_runProd consistent relies
  | merge job => exact safe_merge consistent relies
  | sweep job => exact safe_sweep consistent relies

/-- The jobs of a production keep this discipline. -/
def discipline (plan : Plan) : Discipline (begins plan) (advance plan) where
  invariant := Consistent plan
  holds := fun storage job => job.Relies plan storage
  guarantee := Preserves plan
  refl := Preserves.refl plan
  stable := fun _ _ _ => relies_of_preserves
  atStart := fun _ _ _ => relies_of_begins
  kept := fun _ _ _ consistent relies => (safe_advance consistent relies).consistent
  guaranteed := fun _ _ _ consistent relies => (safe_advance consistent relies).preserves
  goesOn := fun _ _ _ next consistent relies => (safe_advance consistent relies).relies next

/-- A production begins consistently. -/
theorem sound_start (plan : Plan) : (discipline plan).Sound start where
  invariant := ⟨by simp [start, Storage.empty], by simp [start, Storage.empty]⟩
  holds := by simp [start]

/-- Whatever happens in a production, each recorded seed has its staged file or
the verified merged file of its group, and no event deletes a record. -/
theorem recorded_accounted (plan : Plan) (events : List Event) :
    (∀ unit seed, (unit, seed) ∈ (run (step plan) start events).shared.produced.keys →
      (unit, seed) ∈ (run (step plan) start events).shared.staged.keys ∨
        ∃ group ∈ plan.groups unit, seed ∈ group.2 ∧
          ∃ file, (run (step plan) start events).shared.merged.get? (unit, group.1) = some file ∧
            Verified plan group.2 file) ∧
      ∀ event, ∀ record ∈ (run (step plan) start events).shared.produced.keys,
        record ∈ (step plan (run (step plan) start events) event).shared.produced.keys := by
  have sound := Discipline.sound_run (sound_start plan) events
  constructor
  · intro unit seed record
    apply (sound.invariant.records unit seed record).imp_right
    rintro ⟨group, groupMem, seedMem, present⟩
    rcases Dict.mem_keys_iff.mp present with ⟨file, stored⟩
    exact ⟨group, groupMem, seedMem, file, stored,
      sound.invariant.verified unit group groupMem file stored⟩
  · exact fun event => (Discipline.guarantee_step (sound_start plan) events event).records

/-- A production of one job, whose seed is merged by itself. -/
def onePlan : Plan :=
  ⟨fun _ _ => 1, 1, 100, 0⟩

/-- Its unit. -/
def oneUnit : ProdUnit :=
  ⟨"Run3_2022", "Radion_M-250", "v12"⟩

/-- Steps of one job, whose numbers are those of a job that works. -/
def steps (index count : Nat) : List Event :=
  List.replicate count (.advance index { number := 100 })

/-- The group merges, and drops its staged file, between the second and the
third listing of the sweep. -/
example :
    run (step onePlan) start
        ([.spawn (.runProd "Run3_2022" "Radion_M-250" 1 100 ["v12"])] ++ steps 0 3 ++
          [.spawn (.sweep oneUnit true (.finite 1)), .spawn (.merge oneUnit 0)] ++ steps 0 2 ++
          steps 1 10 ++ steps 0 1) =
      ⟨⟨Dict.ofList [((oneUnit, 1), 100)], Dict.empty,
        Dict.ofList [((oneUnit, 0), ⟨100, [100]⟩)]⟩, []⟩ := by
  decide +kernel

/-- A sweep does delete the record of a seed whose file the storage has lost. -/
example :
    (run (step onePlan) ⟨⟨Dict.ofList [((oneUnit, 1), 100)], Dict.empty, Dict.empty⟩, []⟩
      (.spawn (.sweep oneUnit true (.finite 1)) :: List.replicate 4 (.advance 0 {}))).shared =
        Storage.empty := by
  decide +kernel

end DSProd.Production
