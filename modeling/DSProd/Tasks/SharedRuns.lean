import DSProd.Tasks.PairSetup

/-!
# Which choices may share a directory

In the setup of two choices each declares a branch for its own sample, so runs
that agree there agree about what the other choice selects.  Two choices that
share a directory have the same runs in every setup exactly when they select
the same.
-/

namespace DSProd.Tasks

open DSProd.Library

variable {Params : Type} {isWord : Char → Bool} {sha6 : String → String} {task : TaskClass}
  {first second : Options}

/-! ## What agreeing runs have in common -/

/-- A production named after its setup, with the gridpacks named after the
points. -/
def plainNaming (setupName : String) : Naming Params :=
  ⟨setupName, none, Point.name⟩

/-- Two choices and a sample that each takes, in their setup. -/
structure Sharing (Params : Type) [Inhabited Params] (isWord : Char → Bool)
    (sha6 : String → String) (task : TaskClass) (setupName : String) (first second : Options)
    (sample other : Sample) (size : ℤ) : Prop where
  agree : SharedRunsAgree Params isWord sha6 task first second
  shared : storeParts isWord sha6 task setupName first =
    storeParts isWord sha6 task setupName second
  takes : first.Takes sample
  otherTakes : second.Takes other
  positive : 0 < size

section Sharing

variable [Inhabited Params] {setupName : String} {sample other : Sample} {size : ℤ}

/-- Every branch of the first run is one of the second, with the same outputs. -/
theorem Sharing.branch (sharing : Sharing Params isWord sha6 task setupName first second sample
      other size)
    {branches others :
      List (task.workflow isWord sha6 (plainNaming setupName : Naming Params)).Branch}
    (built : (task.workflow isWord sha6 (plainNaming setupName)).createBranchMap
      (first.selectionOf (pairSetup sample other size)) = .ok branches)
    (otherBuilt : (task.workflow isWord sha6 (plainNaming setupName)).createBranchMap
      (second.selectionOf (pairSetup sample other size)) = .ok others)
    {branch : (task.workflow isWord sha6 (plainNaming setupName : Naming Params)).Branch}
    (member : branch ∈ branches) :
    branch ∈ others ∧
      (task.workflow isWord sha6 (plainNaming setupName)).output
          (first.selectionOf (pairSetup sample other size)) branch =
        (task.workflow isWord sha6 (plainNaming setupName)).output
          (second.selectionOf (pairSetup sample other size)) branch := by
  have selected := select_pair Params size (pairs_first sample other) sharing.takes
    sharing.positive
  have otherSelected := select_pair Params size (pairs_second sample other) sharing.otherTakes
    sharing.positive
  obtain ⟨run, ran⟩ := exists_declared isWord sha6 task (plainNaming setupName : Naming Params)
    size (pairs_first sample other) sharing.takes
  obtain ⟨otherRun, otherRan⟩ := exists_declared isWord sha6 task
    (plainNaming setupName : Naming Params) size (pairs_second sample other) sharing.otherTakes
  have same : run = otherRun := sharing.agree (plainNaming setupName) _ _ _ selected otherSelected
    sharing.shared run otherRun ran otherRan
  obtain ⟨outputs, declares⟩ := exists_output (plainNaming setupName)
    (pairs_first sample other) sharing.takes built member
  subst same
  exact branch_of_declared ran otherRan built otherBuilt member declares

/-- The first point of the first run is that of its sample. -/
theorem Sharing.firstPoint
    (sharing : Sharing Params isWord sha6 task setupName first second sample other size) :
    (first.selectionOf (pairSetup sample other size : Setup Params)).prodPoints[0]? =
      some (first.shorten (sample.source size)) :=
  pointsOf_pair Params size other sharing.takes sharing.positive

/-- Both runs have branch maps. -/
theorem Sharing.exists_maps
    (sharing : Sharing Params isWord sha6 task setupName first second sample other size) :
    ∃ branches others,
      (task.workflow isWord sha6 (plainNaming setupName : Naming Params)).createBranchMap
        (first.selectionOf (pairSetup sample other size)) = .ok branches ∧
      (task.workflow isWord sha6 (plainNaming setupName : Naming Params)).createBranchMap
        (second.selectionOf (pairSetup sample other size)) = .ok others := by
  obtain ⟨branches, built⟩ := exists_createBranchMap isWord sha6 task
    (plainNaming setupName : Naming Params) size (pairs_first sample other) sharing.takes
  obtain ⟨others, otherBuilt⟩ := exists_createBranchMap isWord sha6 task
    (plainNaming setupName : Naming Params) size (pairs_second sample other) sharing.otherTakes
  exact ⟨branches, others, built, otherBuilt⟩

/-- The first run keeps the version of its sample. -/
theorem Sharing.version_mem
    (sharing : Sharing Params isWord sha6 task setupName first second sample other size) :
    sample.version ∈
      keptVersions (first.selectionOf (pairSetup sample other size : Setup Params)) sample.era := by
  obtain ⟨versions, isVersions, member⟩ := exists_versions Params size (pairs_first sample other)
    sharing.takes sample.era
  rw [keptVersions_eq isVersions]
  exact member

/-- A point of the second run tells what the second choice selects. -/
theorem point_spec {point : Point Params}
    (member : point ∈ second.pointsOf (pairSetup sample other size)) :
    Selects second.points point.name ∧
      (∃ era ∈ second.erasOf (pairSetup sample other size : Setup Params),
        0 < point.nEvents era) ∧
      point.eventsPerJob = if 0 < second.test then second.test else size := by
  obtain ⟨source, inSetup, rfl, selects, era, eraMem, produces⟩ := exists_source member
  refine ⟨?_, ⟨era, eraMem, Options.shorten_nEvents_pos.mpr produces⟩, ?_⟩
  · rw [Options.shorten_name]
    exact selects
  · rw [Options.shorten_eventsPerJob]
    simp only [pairSetup, List.mem_cons, List.not_mem_nil, or_false] at inSetup
    rcases inSetup with rfl | rfl
    · rfl
    · rfl

/-- One job in the era of the sample. -/
theorem nJobs_first (first : Options) (sample : Sample) (positive : 0 < size) :
    (first.shorten (sample.source size : Point Params)).nJobs sample.era = 1 := by
  have events : (first.shorten (sample.source size : Point Params)).nEvents sample.era =
      (first.shorten (sample.source size : Point Params)).eventsPerJob := by
    rw [Options.shorten_nEvents, Options.shorten_eventsPerJob, nEvents_source, if_pos rfl]
    by_cases tested : 0 < first.test
    · rw [if_pos ⟨tested, positive⟩, if_pos tested]
    · rw [if_neg fun both => tested both.1, if_neg tested, if_neg tested]
      rfl
  have sized : 0 < (first.shorten (sample.source size : Point Params)).eventsPerJob := by
    rw [← events, Options.shorten_nEvents_pos, nEvents_source, if_pos rfl]
    exact positive
  exact nJobs_of_multiple sized (by rw [events, Nat.cast_one, mul_one])

/-- The second choice selects the sample of the first, as far as a workflow
works on it. -/
structure SelectsToo (task : TaskClass) (first second : Options) (sample : Sample) : Prop where
  era : Selects second.eras sample.era
  point : task.ByPoint → Selects second.points sample.point
  test : task.ByPoint → (0 < first.test ↔ 0 < second.test)
  version : task.ByVersion → KeepsVersion second.nanoVersions sample.version

/-- The point of the first run tells its era, its name and its size. -/
theorem selectsToo_of_point (large : first.test < size) (otherLarge : second.test < size)
    (member : first.shorten (sample.source size : Point Params) ∈
      second.pointsOf (pairSetup sample other size)) :
    Selects second.eras sample.era ∧ Selects second.points sample.point ∧
      (0 < first.test ↔ 0 < second.test) := by
  obtain ⟨named, ⟨era, eraMem, produces⟩, sized⟩ := point_spec member
  rw [Options.shorten_name] at named
  rw [Options.shorten_nEvents_pos, nEvents_source] at produces
  rw [Options.shorten_eventsPerJob] at sized
  change (if 0 < first.test then first.test else size) = _ at sized
  refine ⟨?_, named, ?_⟩
  · by_cases same : era = sample.era
    · exact same ▸ selects_of_mem_erasOf eraMem
    · rw [if_neg same] at produces
      exact absurd produces (lt_irrefl 0)
  · split_ifs at sized with tested otherTested otherTested
    · exact iff_of_true tested otherTested
    · omega
    · omega
    · exact iff_of_false tested otherTested

/-- The point of the second run, by its index. -/
theorem selects_of_getElem {point : Point Params} {index : Nat}
    (isPoint : (second.pointsOf (pairSetup sample other size : Setup Params))[index]? = some point)
    (named : point.name = sample.point) : Selects second.points sample.point :=
  named ▸ (point_spec (List.mem_of_getElem? isPoint)).1

theorem Sharing.runProd_selectsToo
    (sharing : Sharing Params isWord sha6 .runProd setupName first second sample other size) :
    SelectsToo .runProd first second sample := by
  have isPoint := sharing.firstPoint
  have member : (sample.era, 0, 1) ∈
      runProdBranchMap (first.selectionOf (pairSetup sample other size : Setup Params)) := by
    rw [runProdBranchMap, mem_runprodBranches]
    refine ⟨mem_erasOf_pair Params size (pairs_first sample other) sharing.takes, _, isPoint, ?_⟩
    rw [seedsOf, nJobs_first first sample sharing.positive]
    simp
  obtain ⟨otherMember, sameOutputs⟩ := sharing.branch rfl rfl member
  obtain ⟨eraMem, point, isOther, _⟩ := mem_runprodBranches.mp otherMember
  obtain ⟨versions, isVersions, versionMem⟩ := exists_versions Params size
    (pairs_first sample other) sharing.takes sample.era
  obtain ⟨others, isOthers, _⟩ := exists_versions Params size (pairs_second sample other)
    sharing.otherTakes sample.era
  have declares := runProd_output (plainNaming setupName) (sample.era, 0, 1) isPoint isVersions
  have otherDeclares := runProd_output (plainNaming setupName) (sample.era, 0, 1) isOther isOthers
  have sameTargets := Outputs.perVersion.inj
    (Except.ok.inj (declares.symm.trans (sameOutputs.trans otherDeclares)))
  obtain ⟨version, kept, isEntry⟩ := exists_of_map_eq sameTargets versionMem
  obtain ⟨rfl, sameTarget⟩ := Prod.mk.inj isEntry
  simp only [producedNanoTarget, storageTarget, Target.mk.injEq, List.cons.injEq,
    Options.shorten_name, true_and, and_true] at sameTarget
  constructor
  case era => exact selects_of_mem_erasOf eraMem
  case point => exact fun _ => selects_of_getElem isOther sameTarget.2
  case test => exact fun _ => (test_iff_of_storageName sameTarget.1).symm
  case version => exact fun _ => keepsVersion_of_mem ((keptVersions_eq isOthers).symm ▸ kept)

/-- The seeds of the first point are one group. -/
theorem mergeGroups_first (sample : Sample) (positive : 0 < size) :
    (0, [1]) ∈ mergeGroups (seedsOf (first.shorten (sample.source size : Point Params))
      sample.era) 1 := by
  rw [seedsOf, nJobs_first first sample positive]
  decide

theorem Sharing.nanoMergeTask_selectsToo
    (sharing : Sharing Params isWord sha6 .nanoMergeTask setupName first second sample other
      size) : SelectsToo .nanoMergeTask first second sample := by
  obtain ⟨branches, others, built, otherBuilt⟩ := sharing.exists_maps
  let branch : MergeBranch := ⟨sample.era, 0, sample.version, 0, [1]⟩
  have member : branch ∈ branches :=
    (mem_nanoMergeBranchMap built).mpr
      ⟨mem_erasOf_pair Params size (pairs_first sample other) sharing.takes, sharing.version_mem, _,
        sharing.firstPoint, mergeGroups_first sample sharing.positive⟩
  obtain ⟨otherMember, sameOutputs⟩ := sharing.branch built otherBuilt member
  obtain ⟨eraMem, kept, point, isOther, _⟩ := (mem_nanoMergeBranchMap otherBuilt).mp otherMember
  have declares := nanoMergeTask_output (plainNaming setupName) branch sharing.firstPoint
  have otherDeclares := nanoMergeTask_output (plainNaming setupName) branch isOther
  have sameTarget := Outputs.one.inj
    (Except.ok.inj (declares.symm.trans (sameOutputs.trans otherDeclares)))
  simp only [mergedNanoTarget, storageTarget, Target.mk.injEq, List.cons.injEq,
    Options.shorten_name, true_and, and_true] at sameTarget
  constructor
  case era => exact selects_of_mem_erasOf eraMem
  case point => exact fun _ => selects_of_getElem isOther sameTarget.2.symm
  case test => exact fun _ => test_iff_of_storageName sameTarget.1
  case version => exact fun _ => keepsVersion_of_mem kept

theorem Sharing.backfillProducedRecords_selectsToo
    (sharing : Sharing Params isWord sha6 .backfillProducedRecords setupName first second sample
      other size) : SelectsToo .backfillProducedRecords first second sample := by
  obtain ⟨branches, others, built, otherBuilt⟩ := sharing.exists_maps
  let branch : String × Nat × String := (sample.era, 0, sample.version)
  have member : branch ∈ branches :=
    (mem_backfillBranchMap built).mpr
      ⟨mem_erasOf_pair Params size (pairs_first sample other) sharing.takes, sharing.version_mem, _,
        sharing.firstPoint⟩
  obtain ⟨otherMember, sameOutputs⟩ := sharing.branch built otherBuilt member
  obtain ⟨eraMem, kept, point, isOther⟩ := (mem_backfillBranchMap otherBuilt).mp otherMember
  have declares := backfillProducedRecords_output (plainNaming setupName) branch sharing.firstPoint
  have otherDeclares := backfillProducedRecords_output (plainNaming setupName) branch isOther
  have sameTarget := Outputs.one.inj
    (Except.ok.inj (declares.symm.trans (sameOutputs.trans otherDeclares)))
  simp only [storageTarget, Target.mk.injEq, List.cons.injEq, Options.shorten_name, true_and,
    and_true] at sameTarget
  constructor
  case era => exact selects_of_mem_erasOf eraMem
  case point => exact fun _ => selects_of_getElem isOther sameTarget.2.symm
  case test => exact fun _ => test_iff_of_storageName sameTarget.1
  case version => exact fun _ => keepsVersion_of_mem kept

/-- Runs that agree select each other's sample. -/
theorem Sharing.selectsToo
    (sharing : Sharing Params isWord sha6 task setupName first second sample other size)
    (large : first.test < size) (otherLarge : second.test < size) :
    SelectsToo task first second sample := by
  have eraMem := mem_erasOf_pair Params size (pairs_first sample other) sharing.takes
  have ofGridpack (gridpackMem : first.shorten (sample.source size : Point Params) ∈
      makeGridpackBranches (plainNaming setupName : Naming Params).gridpackName
        (second.selectionOf (pairSetup sample other size))) :
      Selects second.eras sample.era ∧ Selects second.points sample.point ∧
        (0 < first.test ↔ 0 < second.test) :=
    selectsToo_of_point large otherLarge (mem_prodPoints_of_gridpackPoints gridpackMem)
  cases task with
  | installCMSSW =>
      obtain ⟨member, _⟩ := sharing.branch rfl rfl eraMem
      exact ⟨selects_of_mem_erasOf member, fun no => no.elim, fun no => no.elim, fun no => no.elim⟩
  | importGridpack =>
      obtain ⟨member, _⟩ := sharing.branch rfl rfl (first_mem_gridpackPoints sharing.firstPoint)
      obtain ⟨era, point, test⟩ := ofGridpack member
      exact ⟨era, fun _ => point, fun _ => test, fun no => no.elim⟩
  | makeGridpack =>
      obtain ⟨member, _⟩ := sharing.branch rfl rfl (first_mem_gridpackPoints sharing.firstPoint)
      obtain ⟨era, point, test⟩ := ofGridpack member
      exact ⟨era, fun _ => point, fun _ => test, fun no => no.elim⟩
  | premixFileList =>
      obtain ⟨member, _⟩ := sharing.branch (premixFileListBranches_pair first)
        (premixFileListBranches_pair second) eraMem
      exact ⟨selects_of_mem_erasOf member, fun no => no.elim, fun no => no.elim, fun no => no.elim⟩
  | runProd => exact sharing.runProd_selectsToo
  | nanoMergeTask => exact sharing.nanoMergeTask_selectsToo
  | backfillProducedRecords => exact sharing.backfillProducedRecords_selectsToo

end Sharing

theorem SharedRunsAgree.symm (agree : SharedRunsAgree Params isWord sha6 task first second) :
    SharedRunsAgree Params isWord sha6 task second first := by
  intro naming setup selection other selected otherSelected shared run otherRun ran otherRan
  exact (agree naming setup other selection otherSelected selected shared.symm otherRun run otherRan
    ran).symm

section Agreement

variable [Inhabited Params] {setupName : String} {sample other : Sample}

/-- Runs that agree in every setup select every sample of the first choice. -/
theorem selectsToo_of_agree (agree : SharedRunsAgree Params isWord sha6 task first second)
    (shared : storeParts isWord sha6 task setupName first =
      storeParts isWord sha6 task setupName second)
    (takes : first.Takes sample) (otherTakes : second.Takes other) :
    SelectsToo task first second sample := by
  have sharing : Sharing Params isWord sha6 task setupName first second sample other
      (max 0 (max first.test second.test) + 1) :=
    ⟨agree, shared, takes, otherTakes, by omega⟩
  exact sharing.selectsToo (by omega) (by omega)

/-- Runs that agree in every setup are of choices that select the same. -/
theorem selectAlike_of_agree (agree : SharedRunsAgree Params isWord sha6 task first second)
    (shared : storeParts isWord sha6 task setupName first =
      storeParts isWord sha6 task setupName second)
    (takes : first.Takes sample) (otherTakes : second.Takes other) :
    SelectAlike task first second := by
  have follows : ∀ {sample}, first.Takes sample → SelectsToo task first second sample :=
    fun taken => selectsToo_of_agree agree shared taken otherTakes
  have precedes : ∀ {sample}, second.Takes sample → SelectsToo task second first sample :=
    fun taken => selectsToo_of_agree agree.symm shared.symm taken takes
  constructor
  case eras =>
    intro name
    constructor
    · intro selects
      exact (@follows { sample with era := name } ⟨selects, takes.2, takes.3⟩).era
    · intro selects
      exact (@precedes { other with era := name }
        ⟨selects, otherTakes.2, otherTakes.3⟩).era
  case points =>
    intro byPoint name
    constructor
    · intro selects
      exact (@follows { sample with point := name }
        ⟨takes.1, selects, takes.3⟩).point byPoint
    · intro selects
      exact (@precedes { other with point := name }
        ⟨otherTakes.1, selects, otherTakes.3⟩).point byPoint
  case test => exact (follows takes).test
  case versions =>
    intro byVersion version
    constructor
    · intro keeps
      exact (@follows { sample with version := version }
        ⟨takes.1, takes.2, keeps⟩).version byVersion
    · intro keeps
      exact (@precedes { other with version := version }
        ⟨otherTakes.1, otherTakes.2, keeps⟩).version byVersion

end Agreement

/-- What the names of the directories are good for: choices of the same kinds of
patterns that keep the same versions have the same runs wherever they share one. -/
theorem sharedRunsAgree_of_sameKinds (comma : isWord ',' = false)
    (apart : TellsApart sha6 first second) (kinds : SameKinds first second)
    (versions : task.ByVersion → ∀ version,
      KeepsVersion first.nanoVersions version ↔ KeepsVersion second.nanoVersions version) :
    SharedRunsAgree Params isWord sha6 task first second := by
  intro naming setup selection other selected otherSelected shared
  obtain ⟨eras, points⟩ := selects_of_storeParts comma apart kinds shared
  have alike : SelectAlike task first second :=
    ⟨eras, fun _ => points, fun _ => kinds.test, versions⟩
  exact sharedRunsAgree_of_selectAlike alike naming setup selection other selected otherSelected
    shared

/-- Two choices have the same runs wherever they share a directory, exactly when
they select the same or one of them is accepted nowhere, if they share one. -/
theorem sharedRunsAgree_iff [Inhabited Params] (isWord : Char → Bool) (sha6 : String → String)
    (task : TaskClass) (setupName : String) (first second : Options) :
    SharedRunsAgree Params isWord sha6 task first second ↔
      (storeParts isWord sha6 task setupName first =
          storeParts isWord sha6 task setupName second →
        first.Acceptable → second.Acceptable → SelectAlike task first second) := by
  constructor
  · intro agree shared acceptable otherAcceptable
    obtain ⟨sample, takes⟩ := acceptable.exists_takes
    obtain ⟨other, otherTakes⟩ := otherAcceptable.exists_takes
    exact selectAlike_of_agree agree shared takes otherTakes
  · intro alike naming setup selection other selected otherSelected shared
    have selectAlike := alike (storeParts_congr setupName shared) (acceptable_of_select selected)
      (acceptable_of_select otherSelected)
    exact sharedRunsAgree_of_selectAlike selectAlike naming setup selection other selected
      otherSelected shared

/-! ## Two choices that share a directory -/

/-- Two eras in two versions, and two points, one of which has `20` in its name
as both eras do. -/
def twentySetup : Setup Unit where
  eras := ["Run3_2022", "Run3_2023"]
  points :=
    [⟨"Radion_M-450", (), Dict.ofList [("Run3_2022", 40), ("Run3_2023", 40)], 20⟩,
      ⟨"Radion_M-1200", (), Dict.ofList [("Run3_2022", 40), ("Run3_2023", 40)], 20⟩]
  nanoVersions := .everywhere ["v12", "v15"]
  filesPerMerge := 2
  conditions := ⟨Dict.empty, Dict.empty, Dict.empty⟩

/-- The word characters of plain text. -/
def isPlainWord (char : Char) : Bool :=
  char.isAlphanum || char = '_'

/-- The digits of the only text that is hashed here. -/
def twentyDigits : String → String :=
  fun _ => "ec38f5"

/-- Runs of different numbers of branches are different. -/
theorem not_agree_of_lengths {workflow : Workflow Params} {selection other : Selection Params}
    (number otherNumber : Nat)
    (counted : (workflow.declared selection).toOption.map List.length = some number)
    (otherCounted : (workflow.declared other).toOption.map List.length = some otherNumber)
    (different : number ≠ otherNumber) :
    ¬∀ run otherRun, workflow.declared selection = .ok run →
      workflow.declared other = .ok otherRun → run = otherRun := by
  intro agree
  cases ran : workflow.declared selection with
  | error error => simp [ran, Except.toOption] at counted
  | ok run =>
      cases otherRan : workflow.declared other with
      | error error => simp [otherRan, Except.toOption] at otherCounted
      | ok otherRun =>
          simp only [ran, otherRan, Except.toOption, Option.map_some, Option.some.injEq]
            at counted otherCounted
          rw [← counted, ← otherCounted, agree run otherRun ran otherRan] at different
          exact different rfl

/-- The versions a run is narrowed to, and whether its patterns are of eras or
of points, are not in the name of its directory. -/
theorem not_sharedRunsAgree :
    (TellsApart twentyDigits {} { nanoVersions := ["v12"] } ∧
      ¬SharedRunsAgree Unit isPlainWord twentyDigits .nanoMergeTask {}
        { nanoVersions := ["v12"] }) ∧
    (TellsApart twentyDigits { eras := ["*20*"] } { points := ["*20*"] } ∧
      ¬SharedRunsAgree Unit isPlainWord twentyDigits .runProd { eras := ["*20*"] }
        { points := ["*20*"] }) := by
  have six : ∀ text, (twentyDigits text).length = 6 := fun _ => (by decide : "ec38f5".length = 6)
  let naming : Naming Unit := ⟨"radion", none, Point.name⟩
  refine ⟨⟨⟨six, by simp⟩, fun agree => ?_⟩, ⟨⟨six, by simp⟩, fun agree => ?_⟩⟩
  · have same := agree naming twentySetup _ _ rfl rfl rfl
    refine not_agree_of_lengths 8 4 ?_ ?_ (by decide) same
    · decide +kernel
    · decide +kernel
  · have same := agree naming twentySetup _ _ rfl rfl rfl
    refine not_agree_of_lengths 8 4 ?_ ?_ (by decide) same
    · decide +kernel
    · decide +kernel

end DSProd.Tasks
