import DSProd.Tasks.Bookkeeping
import Mathlib.Data.List.Dedup

/-!
# A setup for two choices

A setup with an era and a point for each of two choices of parameters.  Both
choices are accepted there, every workflow has a branch map and declares
outputs, and the point of the first choice comes first.
-/

namespace DSProd.Tasks

open DSProd.Library

variable {Params : Type} {isWord : Char → Bool} {sha6 : String → String} {task : TaskClass}
  {first second : Options}

/-! ## A setup that tells two choices apart -/

/-- An era, a point and a version. -/
structure Sample where
  era : String
  point : String
  version : String

/-- Whether a choice selects a sample. -/
structure Options.Takes (options : Options) (sample : Sample) : Prop where
  era : Selects options.eras sample.era
  point : Selects options.points sample.point
  version : KeepsVersion options.nanoVersions sample.version

/-- A choice that some setup accepts takes some sample. -/
theorem Options.Acceptable.exists_takes {options : Options} (acceptable : options.Acceptable) :
    ∃ sample, options.Takes sample := by
  obtain ⟨⟨era, eraSelects⟩, point, pointSelects⟩ := acceptable
  cases given : options.nanoVersions with
  | nil => exact ⟨⟨era, point, ""⟩, eraSelects, pointSelects, Or.inl given⟩
  | cons version rest =>
      refine ⟨⟨era, point, version⟩, eraSelects, pointSelects, Or.inr ?_⟩
      rw [given]
      exact List.mem_cons_self

/-- The point of a sample: one job in its era. -/
def Sample.source [Inhabited Params] (sample : Sample) (size : ℤ) : Point Params :=
  ⟨sample.point, default, Dict.ofList [(sample.era, size)], size⟩

/-- The conditions of an era with a premix dataset. -/
def premixEra : EraConditions :=
  ⟨Dict.ofList [("pileup_input", "dbs:/Neutrino/PREMIX")], ["DIGI"], Dict.empty⟩

/-- A setup of two samples. -/
def pairSetup [Inhabited Params] (sample other : Sample) (size : ℤ) : Setup Params where
  eras := [sample.era, other.era].dedup
  points := [sample.source size, other.source size]
  nanoVersions := .everywhere [sample.version, other.version].dedup
  filesPerMerge := 1
  conditions := ⟨Dict.empty, Dict.empty,
    Dict.ofList [(sample.era, premixEra), (other.era, premixEra)]⟩

section Pair

variable [Inhabited Params] {options : Options} {sample other taken : Sample} {size : ℤ}

theorem get?_single {K V : Type} [DecidableEq K] (key other : K) (value : V) :
    (Dict.ofList [(key, value)]).get? other = if other = key then some value else none := by
  rw [Dict.ofList, Dict.update, List.foldl_cons, List.foldl_nil, Dict.get?_set, Dict.get?_empty]

theorem nEvents_source (sample : Sample) (size : ℤ) (era : String) :
    (sample.source size : Point Params).nEvents era = if era = sample.era then size else 0 := by
  rw [Point.nEvents, Sample.source, Dict.getD, get?_single]
  split
  · rfl
  · rfl

/-- The two samples of a pair. -/
def Pairs (sample other taken : Sample) : Prop :=
  taken = sample ∨ taken = other

theorem pairs_first (sample other : Sample) : Pairs sample other sample :=
  Or.inl rfl

theorem pairs_second (sample other : Sample) : Pairs sample other other :=
  Or.inr rfl

variable (Params size)

theorem mem_erasOf_pair (pairs : Pairs sample other taken) (takes : options.Takes taken) :
    taken.era ∈ options.erasOf (pairSetup sample other size : Setup Params) := by
  rw [Options.erasOf, List.mem_filter, decide_eq_true_eq]
  refine ⟨?_, takes.era⟩
  rcases pairs with rfl | rfl
  · simp [pairSetup]
  · simp [pairSetup]

/-- A sample that is taken has a point that produces. -/
theorem mem_producersOf_pair (pairs : Pairs sample other taken) (takes : options.Takes taken)
    (positive : 0 < size) :
    taken.source size ∈ options.producersOf (pairSetup sample other size : Setup Params) := by
  simp only [Options.producersOf, List.mem_filter, List.any_eq_true, decide_eq_true_eq]
  refine ⟨⟨?_, takes.point⟩, taken.era, mem_erasOf_pair Params size pairs takes, ?_⟩
  · rw [pairSetup]
    rcases pairs with rfl | rfl
    · simp
    · simp
  · rw [nEvents_source, if_pos rfl]
    exact positive

theorem select_pair (pairs : Pairs sample other taken) (takes : options.Takes taken)
    (positive : 0 < size) :
    select (pairSetup sample other size : Setup Params) options =
      .ok (options.selectionOf (pairSetup sample other size)) :=
  select_of_mem (mem_erasOf_pair Params size pairs takes)
    (mem_producersOf_pair Params size pairs takes positive)

/-- The point of the first sample comes first, when that is taken. -/
theorem pointsOf_pair (other : Sample) (takes : options.Takes sample) (positive : 0 < size) :
    (options.selectionOf (pairSetup sample other size : Setup Params)).prodPoints[0]? =
      some (options.shorten (sample.source size)) := by
  have first := mem_producersOf_pair Params size (pairs_first sample other) takes positive
  simp only [Options.producersOf, List.mem_filter] at first
  rw [Options.selectionOf, Options.pointsOf, Options.producersOf]
  have unfolded : (pairSetup sample other size : Setup Params).points =
      [sample.source size, other.source size] := rfl
  rw [unfolded, List.filter_cons, if_pos first.1.2, List.filter_cons, if_pos first.2]
  rfl

/-- The versions of a pair are kept for whoever takes one of its samples. -/
theorem exists_versions (pairs : Pairs sample other taken) (takes : options.Takes taken)
    (era : String) : ∃ versions,
      eraNanoVersions (options.selectionOf (pairSetup sample other size : Setup Params)) era =
        .ok versions ∧ taken.version ∈ versions := by
  have available : (pairSetup sample other size : Setup Params).versionsOf era =
      [sample.version, other.version].dedup := rfl
  have member : taken.version ∈ [sample.version, other.version].dedup := by
    rcases pairs with rfl | rfl
    · simp
    · simp
  rw [eraNanoVersions_eq]
  by_cases all : options.nanoVersions = []
  · exact ⟨_, if_pos all, member⟩
  · have kept : taken.version ∈ [sample.version, other.version].dedup.filter fun version =>
        version ∈ options.nanoVersions := by
      rw [List.mem_filter, decide_eq_true_eq]
      exact ⟨member, takes.version.resolve_left all⟩
    exact ⟨_, (if_neg all).trans (if_neg (List.ne_nil_of_mem kept)), kept⟩

variable {Params size}

theorem premixDataset_pair (era : String) (member : era = sample.era ∨ era = other.era) :
    premixDatasetForEra (pairSetup sample other size : Setup Params).conditions era =
      .ok (some "/Neutrino/PREMIX") := by
  have known : (pairSetup sample other size : Setup Params).conditions.eras.get? era =
      some premixEra := by
    simp only [pairSetup, Dict.ofList, Dict.update, List.foldl_cons, List.foldl_nil, Dict.get?_set]
    rcases member with rfl | rfl
    · simp
    · simp
  have resolved : resolveStepParams (pairSetup sample other size : Setup Params).conditions era
      "DIGI" none = .ok (Dict.ofList [("pileup_input", "dbs:/Neutrino/PREMIX")]) := by
    rw [resolveStepParams, known]
    rfl
  rw [premixDatasetForEra, known]
  change premixDatasetOf _ era ["DIGI"] = _
  have pileup : (Dict.ofList [("pileup_input", "dbs:/Neutrino/PREMIX")]).getD "pileup_input" "" =
      "dbs:/Neutrino/PREMIX" := by decide +kernel
  have queried : ("dbs:/Neutrino/PREMIX".startsWith "dbs:" ||
      "dbs:/Neutrino/PREMIX".startsWith "das:") = true := by decide +kernel
  have dataset : String.ofList ("dbs:/Neutrino/PREMIX".toList.drop 4) = "/Neutrino/PREMIX" := by
    decide +kernel
  rw [premixDatasetOf, resolved]
  simp only [bind, Except.bind, pileup, queried, if_true, dataset]
  rfl

end Pair

/-! ## What is declared in the setup of two samples -/

/-- Premix branches are eras of the selection. -/
theorem erasWithPremix_eq {conditions : Conditions} {eras : List String}
    (all : ∀ era ∈ eras, premixDatasetForEra conditions era = .ok (some "/Neutrino/PREMIX")) :
    erasWithPremix conditions eras = .ok eras := by
  induction eras with
  | nil => rfl
  | cons era rest ih =>
      rw [erasWithPremix, all era List.mem_cons_self,
        ih fun other member => all other (List.mem_cons_of_mem era member)]
      have dataset : ¬(some "/Neutrino/PREMIX").getD "" = "" := by decide
      rw [bind_of_ok rfl, bind_of_ok rfl, if_neg dataset]
      rfl

theorem mem_backfillBranchMap {selection : Selection Params}
    {branches : List (String × Nat × String)} (built : backfillBranchMap selection = .ok branches)
    {branch : String × Nat × String} :
    branch ∈ branches ↔ branch.1 ∈ selection.prodEras ∧
      branch.2.2 ∈ keptVersions selection branch.1 ∧
      ∃ point, selection.prodPoints[branch.2.1]? = some point := by
  obtain ⟨era, index, version⟩ := branch
  rw [mem_versionLoops (backfillBranchMap_eq built (keptVersions selection)
    fun _ _ => keptVersions_eq)]
  simp only [List.mem_map, Prod.mk.injEq]
  constructor
  · rintro ⟨_, eraMem, point, _, isPoint, _, versionMem, rfl, rfl, rfl⟩
    exact ⟨eraMem, versionMem, point, isPoint⟩
  · rintro ⟨eraMem, versionMem, point, isPoint⟩
    exact ⟨era, eraMem, point, index, isPoint, version, versionMem, rfl, rfl, rfl⟩

section Declared

variable [Inhabited Params] {options : Options} {sample other taken : Sample} {size : ℤ}

theorem premixFileListBranches_pair (options : Options) :
    premixFileListBranches (options.selectionOf (pairSetup sample other size : Setup Params)) =
      .ok (options.erasOf (pairSetup sample other size : Setup Params)) := by
  apply erasWithPremix_eq
  intro era member
  apply premixDataset_pair
  have inSetup := (List.mem_filter.mp member).1
  simpa [pairSetup] using inSetup

/-- Whoever takes a sample of a pair has a branch map there. -/
theorem exists_createBranchMap (isWord : Char → Bool) (sha6 : String → String)
    (task : TaskClass) (naming : Naming Params) (size : ℤ) (pairs : Pairs sample other taken)
    (takes : options.Takes taken) : ∃ branches,
      (task.workflow isWord sha6 naming).createBranchMap
        (options.selectionOf (pairSetup sample other size)) = .ok branches := by
  have versions : ∀ era, ∃ versions,
      eraNanoVersions (options.selectionOf (pairSetup sample other size : Setup Params)) era =
        .ok versions :=
    fun era => (exists_versions Params size pairs takes era).imp fun _ both => both.1
  cases task with
  | installCMSSW => exact ⟨_, rfl⟩
  | importGridpack => exact ⟨_, rfl⟩
  | makeGridpack => exact ⟨_, rfl⟩
  | premixFileList => exact ⟨_, premixFileListBranches_pair options⟩
  | runProd => exact ⟨_, rfl⟩
  | nanoMergeTask =>
      exact exists_versionLoops (mergeBranchesOf 1) versions
  | backfillProducedRecords =>
      exact exists_versionLoops (fun era indexed versions =>
        versions.map fun version => (era, indexed.2, version)) versions

/-- Whoever takes a sample of a pair declares outputs of every branch. -/
theorem exists_output (naming : Naming Params) (pairs : Pairs sample other taken)
    (takes : options.Takes taken) {branches : List (task.workflow isWord sha6 naming).Branch}
    (built : (task.workflow isWord sha6 naming).createBranchMap
      (options.selectionOf (pairSetup sample other size)) = .ok branches)
    {branch : (task.workflow isWord sha6 naming).Branch} (member : branch ∈ branches) :
    ∃ outputs, (task.workflow isWord sha6 naming).output
      (options.selectionOf (pairSetup sample other size)) branch = .ok outputs := by
  cases task with
  | installCMSSW => exact ⟨_, rfl⟩
  | importGridpack => exact ⟨_, rfl⟩
  | makeGridpack => exact ⟨_, rfl⟩
  | premixFileList => exact ⟨_, rfl⟩
  | runProd =>
      cases built
      obtain ⟨_, point, isPoint, _⟩ := mem_runprodBranches.mp member
      obtain ⟨versions, isVersions, _⟩ := exists_versions Params size pairs takes branch.1
      exact ⟨_, (bind_of_ok (congrArg (found branch.1) isPoint)).trans (bind_of_ok isVersions)⟩
  | nanoMergeTask =>
      obtain ⟨_, _, point, isPoint, _⟩ := (mem_nanoMergeBranchMap built).mp member
      exact ⟨_, bind_of_ok (congrArg (found branch.era) isPoint)⟩
  | backfillProducedRecords =>
      obtain ⟨_, _, point, isPoint⟩ := (mem_backfillBranchMap built).mp member
      exact ⟨_, bind_of_ok (congrArg (found branch.1) isPoint)⟩

/-- Whoever takes a sample of a pair has a run there. -/
theorem exists_declared (isWord : Char → Bool) (sha6 : String → String) (task : TaskClass)
    (naming : Naming Params) (size : ℤ) (pairs : Pairs sample other taken)
    (takes : options.Takes taken) : ∃ run, (task.workflow isWord sha6 naming).declared
      (options.selectionOf (pairSetup sample other size)) = .ok run := by
  obtain ⟨branches, built⟩ := exists_createBranchMap isWord sha6 task naming size pairs takes
  apply exists_declared_of_outputs built
  intro branch member
  exact exists_output naming pairs takes built member

end Declared

/-- The entries of a run are its branches with what they declare. -/
theorem mem_declared_iff {workflow : Workflow Params} {selection : Selection Params}
    {run : List (workflow.Branch × Outputs)} {branches : List workflow.Branch}
    (ran : workflow.declared selection = .ok run)
    (built : workflow.createBranchMap selection = .ok branches)
    {entry : workflow.Branch × Outputs} :
    entry ∈ run ↔ entry.1 ∈ branches ∧ workflow.output selection entry.1 = .ok entry.2 := by
  obtain ⟨others, otherBuilt, declares⟩ := forall₂_of_declared ran
  obtain rfl := Except.ok.inj (built.symm.trans otherBuilt)
  clear ran built otherBuilt
  induction declares with
  | nil => simp
  | @cons branch head branches rest isHead _ ih =>
      rw [List.mem_cons, List.mem_cons, ih]
      constructor
      · rintro (rfl | ⟨member, declares⟩)
        · rw [isHead.1]
          exact ⟨Or.inl rfl, isHead.2⟩
        · exact ⟨Or.inr member, declares⟩
      · rintro ⟨same | member, declares⟩
        · left
          rw [same, isHead.2, Except.ok.injEq] at declares
          exact Prod.ext (same.trans isHead.1.symm) declares.symm
        · exact Or.inr ⟨member, declares⟩

/-- Two selections that declare the same have their branches in common. -/
theorem branch_of_declared {workflow : Workflow Params} {selection other : Selection Params}
    {run : List (workflow.Branch × Outputs)} {branches others : List workflow.Branch}
    (ran : workflow.declared selection = .ok run) (otherRan : workflow.declared other = .ok run)
    (built : workflow.createBranchMap selection = .ok branches)
    (otherBuilt : workflow.createBranchMap other = .ok others) {branch : workflow.Branch}
    {outputs : Outputs} (member : branch ∈ branches)
    (declares : workflow.output selection branch = .ok outputs) :
    branch ∈ others ∧ workflow.output selection branch = workflow.output other branch := by
  have entry : (branch, outputs) ∈ run := (mem_declared_iff ran built).mpr ⟨member, declares⟩
  have otherEntry := (mem_declared_iff otherRan otherBuilt).mp entry
  exact ⟨otherEntry.1, declares.trans otherEntry.2.symm⟩

/-! ## The points of a run -/

@[simp]
theorem Options.shorten_name (options : Options) (point : Point Params) :
    (options.shorten point).name = point.name := by
  rw [Options.shorten]
  split
  · rfl
  · rfl

theorem Options.shorten_eventsPerJob (options : Options) (point : Point Params) :
    (options.shorten point).eventsPerJob =
      if 0 < options.test then options.test else point.eventsPerJob := by
  rw [Options.shorten]
  split
  · rfl
  · rfl

theorem Options.shorten_nEvents (options : Options) (point : Point Params) (era : String) :
    (options.shorten point).nEvents era =
      if 0 < options.test ∧ 0 < point.nEvents era then options.test
      else if 0 < options.test then 0 else point.nEvents era := by
  rw [Options.shorten]
  by_cases tested : 0 < options.test
  · simp only [tested, if_true, true_and, Point.shortened, Point.nEvents, Dict.getD,
      Dict.get?_mapValues, Dict.get?_filter]
    cases known : point.eventsTotal.get? era with
    | none => simp
    | some total =>
        by_cases positive : 0 < total
        · simp [Option.filter, positive]
        · simp [Option.filter, positive]
  · simp [tested]

/-- A test run produces where the production does. -/
theorem Options.shorten_nEvents_pos {options : Options} {point : Point Params} {era : String} :
    0 < (options.shorten point).nEvents era ↔ 0 < point.nEvents era := by
  rw [Options.shorten_nEvents]
  split_ifs with both tested
  · exact iff_of_true both.1 both.2
  · exact iff_of_false (lt_irrefl 0) fun positive => both ⟨tested, positive⟩
  · exact Iff.rfl

theorem selects_of_mem_erasOf {options : Options} {setup : Setup Params} {era : String}
    (member : era ∈ options.erasOf setup) : Selects options.eras era :=
  of_decide_eq_true (List.mem_filter.mp member).2

/-- The points of a run are points of its setup that are selected and produce in
an era that is selected. -/
theorem exists_source {options : Options} {setup : Setup Params} {point : Point Params}
    (member : point ∈ options.pointsOf setup) :
    ∃ source ∈ setup.points, point = options.shorten source ∧
      Selects options.points source.name ∧
        ∃ era ∈ options.erasOf setup, 0 < source.nEvents era := by
  obtain ⟨source, producing, rfl⟩ := List.mem_map.mp member
  simp only [Options.producersOf, List.mem_filter, List.any_eq_true, decide_eq_true_eq] at producing
  exact ⟨source, producing.1.1, rfl, producing.1.2, producing.2⟩

theorem keepsVersion_of_mem {selection : Selection Params} {era version : String}
    (member : version ∈ keptVersions selection era) :
    KeepsVersion selection.options.nanoVersions version := by
  cases computed : eraNanoVersions selection era with
  | error error => simp [keptVersions, computed, Except.toOption] at member
  | ok versions =>
      rw [keptVersions_eq computed, eq_of_eraNanoVersions computed, List.mem_filter] at member
      exact of_decide_eq_true member.2

theorem exists_of_map_eq {α β : Type} {f g : α → β} {values others : List α} {value : α}
    (same : values.map f = others.map g) (member : value ∈ values) :
    ∃ other ∈ others, g other = f value := by
  have image : f value ∈ values.map f := List.mem_map_of_mem member
  rw [same] at image
  exact List.mem_map.mp image

section Gridpacks

variable {gridpackName : Point Params → String}

/-- Whatever the first points of gridpacks are, they come from the points. -/
theorem mem_of_gridpackFold {points : List (Point Params)} {seen : Dict String (Point Params)}
    {name : String} {point : Point Params}
    (stored : (points.foldl (fun seen point => seen.setdefault (gridpackName point) point)
      seen).get? name = some point) : point ∈ points ∨ seen.get? name = some point := by
  induction points generalizing seen with
  | nil => exact Or.inr stored
  | cons head rest ih =>
      rcases ih stored with later | now
      · exact Or.inl (List.mem_cons_of_mem head later)
      · rw [Dict.get?_setdefault] at now
        split at now
        · rename_i same
          rw [Option.some.injEq, Dict.getD] at now
          cases known : seen.get? (gridpackName head) with
          | none =>
              rw [known, Option.getD_none] at now
              exact Or.inl (now ▸ List.mem_cons_self)
          | some first =>
              rw [known, Option.getD_some] at now
              rw [same, known, now]
              exact Or.inr rfl
        · exact Or.inr now

/-- The first point of a gridpack stays. -/
theorem gridpackFold_keeps {points : List (Point Params)} {seen : Dict String (Point Params)}
    {name : String} {point : Point Params} (stored : seen.get? name = some point) :
    (points.foldl (fun seen point => seen.setdefault (gridpackName point) point) seen).get? name =
      some point := by
  induction points generalizing seen with
  | nil => exact stored
  | cons head rest ih =>
      apply ih
      rw [Dict.get?_setdefault]
      split
      · rename_i same
        rw [Dict.getD, ← same, stored, Option.getD_some]
      · exact stored

theorem mem_prodPoints_of_gridpackPoints {selection : Selection Params} {point : Point Params}
    (member : point ∈ gridpackPoints gridpackName selection) : point ∈ selection.prodPoints := by
  obtain ⟨name, stored⟩ := Dict.mem_values_iff.mp member
  rcases mem_of_gridpackFold stored with among | impossible
  · exact among
  · simp at impossible

/-- The first point stands for its gridpack. -/
theorem first_mem_gridpackPoints {selection : Selection Params} {point : Point Params}
    (first : selection.prodPoints[0]? = some point) :
    point ∈ gridpackPoints gridpackName selection := by
  obtain ⟨rest, isRest⟩ : ∃ rest, selection.prodPoints = point :: rest := by
    cases points : selection.prodPoints with
    | nil => simp [points] at first
    | cons head rest =>
        rw [points, List.getElem?_cons_zero, Option.some.injEq] at first
        exact ⟨rest, by rw [first]⟩
  apply Dict.mem_values_iff.mpr
  refine ⟨gridpackName point, ?_⟩
  rw [isRest, List.foldl_cons]
  apply gridpackFold_keeps
  rw [Dict.get?_setdefault, if_pos rfl, Dict.getD, Dict.get?_empty, Option.getD_none]

end Gridpacks

end DSProd.Tasks
