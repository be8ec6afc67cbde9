import DSProd.Tasks.Directories
import DSProd.Tasks.Numbering

/-!
# Runs that keep their books together

When two choices of parameters select the same, their runs are the same run
wherever they keep their books.  When they do not, one setup tells them apart:
of two eras with a point each, the first choice selects the first and the second
choice the second.
-/

namespace DSProd.Tasks

open DSProd.Library

variable {Params : Type} {isWord : Char → Bool} {sha6 : String → String} {task : TaskClass}
  {first second : Options}

/-! ## What a selection is -/

/-- The point of a run of some options. -/
def Options.shorten (options : Options) (point : Point Params) : Point Params :=
  if 0 < options.test then point.shortened options.test else point

/-- The eras of a setup that a choice selects. -/
def Options.erasOf (options : Options) (setup : Setup Params) : List String :=
  setup.eras.filter fun era => Selects options.eras era

/-- The points of a setup that a choice selects, as the setup has them. -/
def Options.producersOf (options : Options) (setup : Setup Params) : List (Point Params) :=
  (setup.points.filter fun point => Selects options.points point.name).filter fun point =>
    (options.erasOf setup).any fun era => 0 < point.nEvents era

/-- The points of a setup that a choice selects. -/
def Options.pointsOf (options : Options) (setup : Setup Params) : List (Point Params) :=
  (options.producersOf setup).map options.shorten

/-- What a choice selects of a setup. -/
def Options.selectionOf (options : Options) (setup : Setup Params) : Selection Params :=
  ⟨setup, options, options.erasOf setup, options.pointsOf setup⟩

theorem filter_selects {α : Type} {patterns : List String} (given : patterns ≠ [])
    (values : List α) (key : α → String) :
    values.filter (fun value => Selects patterns (key value)) =
      values.filter fun value => patterns.any (fnmatch (key value)) := by
  simp only [Selects, given, false_or, Bool.decide_eq_true]

theorem selectByPattern_eq_ok {α : Type} {values selected : List α} {patterns : List String}
    {option : String} {key : α → String}
    (passed : selectByPattern values patterns option key = .ok selected) :
    selected = values.filter fun value => Selects patterns (key value) := by
  rw [selectByPattern] at passed
  by_cases none : patterns = []
  · rw [if_pos none, Except.ok.injEq] at passed
    simp [Selects, none, ← passed]
  · rw [if_neg none] at passed
    dsimp only at passed
    split at passed
    · cases passed
    · cases passed
      exact (filter_selects none values key).symm

theorem selectByPattern_of_mem {α : Type} {values : List α} {patterns : List String}
    {option : String} {key : α → String} {value : α} (member : value ∈ values)
    (selects : Selects patterns (key value)) :
    selectByPattern values patterns option key =
      .ok (values.filter fun value => Selects patterns (key value)) := by
  rw [selectByPattern]
  by_cases none : patterns = []
  · rw [if_pos none]
    simp [Selects, none]
  · have matched : patterns.any (fnmatch (key value)) = true := selects.resolve_left none
    rw [if_neg none]
    dsimp only
    rw [if_neg]
    · rw [filter_selects none]
    · exact List.ne_nil_of_mem (List.mem_filter.mpr ⟨member, matched⟩)

theorem map_shorten (options : Options) (points : List (Point Params)) :
    points.map options.shorten =
      if 0 < options.test then points.map fun point => point.shortened options.test
      else points := by
  split
  · rename_i test
    exact List.map_congr_left fun point _ => if_pos test
  · rename_i full
    exact (List.map_congr_left fun point _ => if_neg full).trans (List.map_id points)

/-- The points that are selected once the patterns of points match some. -/
theorem selectPoints_eq {setup : Setup Params} {options : Options}
    (matched : selectByPattern setup.points options.points "--points" Point.name =
      .ok (setup.points.filter fun point => Selects options.points point.name)) :
    selectPoints setup.points options (options.erasOf setup) =
      if options.producersOf setup = [] then .error (.noEvents (options.erasOf setup))
      else .ok (options.pointsOf setup) := by
  rw [selectPoints, matched, Options.pointsOf, map_shorten]
  change (if options.producersOf setup = [] then _ else _) = _
  split
  · rfl
  · split
    · rfl
    · rfl

/-- A selection is what its options select of its setup, some point at least. -/
theorem select_spec {setup : Setup Params} {options : Options} {selection : Selection Params}
    (selected : select setup options = .ok selection) :
    selection = options.selectionOf setup ∧ options.producersOf setup ≠ [] := by
  obtain ⟨prodEras, erasOk, rest⟩ := bind_eq_ok selected
  obtain ⟨prodPoints, pointsOk, isSelection⟩ := bind_eq_ok rest
  have isEras : prodEras = options.erasOf setup := selectByPattern_eq_ok erasOk
  obtain ⟨matching, matchingOk, _⟩ := bind_eq_ok pointsOk
  have isMatching := selectByPattern_eq_ok matchingOk
  rw [isMatching] at matchingOk
  rw [isEras, selectPoints_eq matchingOk] at pointsOk
  cases isSelection
  split at pointsOk
  · cases pointsOk
  · rename_i some
    cases pointsOk
    exact ⟨by rw [isEras, Options.selectionOf], some⟩

/-- Whoever is accepted can be. -/
theorem acceptable_of_select {setup : Setup Params} {options : Options}
    {selection : Selection Params} (selected : select setup options = .ok selection) :
    options.Acceptable := by
  obtain ⟨point, producing⟩ := List.exists_mem_of_ne_nil _ (select_spec selected).2
  simp only [Options.producersOf, Options.erasOf, List.mem_filter, List.any_eq_true,
    decide_eq_true_eq] at producing
  obtain ⟨⟨_, pointSelects⟩, era, ⟨_, eraSelects⟩, _⟩ := producing
  exact ⟨⟨era, eraSelects⟩, point.name, pointSelects⟩

/-- A choice that selects an era and a point of a setup is accepted by it. -/
theorem select_of_mem {setup : Setup Params} {options : Options} {era : String}
    {point : Point Params} (eraMem : era ∈ options.erasOf setup)
    (pointMem : point ∈ options.producersOf setup) :
    select setup options = .ok (options.selectionOf setup) := by
  obtain ⟨inSetup, eraSelects⟩ := List.mem_filter.mp eraMem
  obtain ⟨matching, _⟩ := List.mem_filter.mp pointMem
  obtain ⟨inPoints, pointSelects⟩ := List.mem_filter.mp matching
  have eras : selectByPattern setup.eras options.eras "--eras" id =
      .ok (options.erasOf setup) :=
    selectByPattern_of_mem inSetup (of_decide_eq_true eraSelects)
  have points := selectPoints_eq
    (selectByPattern_of_mem inPoints (of_decide_eq_true pointSelects))
  rw [if_neg (List.ne_nil_of_mem pointMem)] at points
  rw [select, eras]
  exact congrArg (fun points => points >>= fun points =>
    Except.ok (Selection.mk setup options (options.erasOf setup) points)) points

/-! ## Choices that select the same -/

/-- The versions that a setup can produce in an era. -/
def Setup.versionsOf (setup : Setup Params) (era : String) : List String :=
  match setup.nanoVersions with
  | .perEra versions => versions.getD era (versions.getD "default" [])
  | .everywhere versions => versions

theorem eraNanoVersions_eq (selection : Selection Params) (era : String) :
    eraNanoVersions selection era =
      if selection.options.nanoVersions = [] then .ok (selection.setup.versionsOf era)
      else if ((selection.setup.versionsOf era).filter fun version =>
          version ∈ selection.options.nanoVersions) = [] then
        .error (.nothingToProduce selection.options.nanoVersions era
          (selection.setup.versionsOf era))
      else .ok ((selection.setup.versionsOf era).filter fun version =>
        version ∈ selection.options.nanoVersions) :=
  rfl

theorem filter_keepsVersion {nanoVersions : List String} (given : nanoVersions ≠ [])
    (versions : List String) :
    versions.filter (fun version => KeepsVersion nanoVersions version) =
      versions.filter fun version => version ∈ nanoVersions := by
  simp only [KeepsVersion, given, false_or]

/-- The versions of an era are those of its setup that are kept. -/
theorem eq_of_eraNanoVersions {selection : Selection Params} {era : String}
    {versions : List String} (some : eraNanoVersions selection era = .ok versions) :
    versions = (selection.setup.versionsOf era).filter fun version =>
      KeepsVersion selection.options.nanoVersions version := by
  rw [eraNanoVersions_eq] at some
  by_cases all : selection.options.nanoVersions = []
  · rw [if_pos all] at some
    cases some
    simp [KeepsVersion, all]
  · rw [if_neg all] at some
    rw [filter_keepsVersion all]
    split at some
    · cases some
    · cases some
      rfl

/-- What a run declares, branch by branch. -/
theorem forall₂_of_declared {workflow : Workflow Params} {selection : Selection Params}
    {run : List (workflow.Branch × Outputs)} (ran : workflow.declared selection = .ok run) :
    ∃ branches, workflow.createBranchMap selection = .ok branches ∧
      List.Forall₂ (fun branch entry => entry.1 = branch ∧
        workflow.output selection branch = .ok entry.2) branches run := by
  obtain ⟨branches, mapped, outputs⟩ := bind_eq_ok ran
  refine ⟨branches, mapped, (mapM_eq_ok outputs).imp fun branch entry declares => ?_⟩
  obtain ⟨declared, isDeclared, isEntry⟩ := bind_eq_ok declares
  cases isEntry
  exact ⟨rfl, isDeclared⟩

/-- A run declares its branches where each of them has its outputs. -/
theorem exists_declared_of_outputs {workflow : Workflow Params} {selection : Selection Params}
    {branches : List workflow.Branch} (built : workflow.createBranchMap selection = .ok branches)
    (outputs : ∀ branch ∈ branches, ∃ outputs, workflow.output selection branch = .ok outputs) :
    ∃ run, workflow.declared selection = .ok run := by
  have total : ∀ branch ∈ branches, ∃ entry, (do
      let outputs ← workflow.output selection branch
      return (branch, outputs) : Except TaskError _) = .ok entry := by
    intro branch member
    obtain ⟨outputs, declares⟩ := outputs branch member
    exact ⟨_, bind_of_ok declares⟩
  obtain ⟨run, ran⟩ := exists_mapM total
  exact ⟨run, (bind_of_ok built).trans ran⟩

/-- What `RunProd` declares of a branch. -/
theorem runProd_output (naming : Naming Params) (branch : RunProdBranch)
    {selection : Selection Params} {point : Point Params} {versions : List String}
    (isPoint : selection.prodPoints[branch.2.1]? = some point)
    (isVersions : eraNanoVersions selection branch.1 = .ok versions) :
    (runProd naming).output selection branch = .ok (.perVersion (versions.map fun version =>
      (version, producedNanoTarget naming selection.options branch.1 point version branch.2.2))) :=
  (bind_of_ok (congrArg (found branch.1) isPoint)).trans (bind_of_ok isVersions)

/-- What `NanoMergeTask` declares of a branch. -/
theorem nanoMergeTask_output (naming : Naming Params) (branch : MergeBranch)
    {selection : Selection Params} {point : Point Params}
    (isPoint : selection.prodPoints[branch.pointIndex]? = some point) :
    (nanoMergeTask naming).output selection branch = .ok (.one (mergedNanoTarget naming
      selection.options branch.era point branch.version branch.group)) :=
  bind_of_ok (congrArg (found branch.era) isPoint)

/-- What `BackfillProducedRecords` declares of a branch. -/
theorem backfillProducedRecords_output (naming : Naming Params)
    (branch : String × Nat × String) {selection : Selection Params} {point : Point Params}
    (isPoint : selection.prodPoints[branch.2.1]? = some point) :
    (backfillProducedRecords naming).output selection branch = .ok (.one (storageTarget naming
      selection.options
        ["produced", s!"nanoAOD_{branch.2.2}", branch.1, point.name, "backfill.done"])) :=
  bind_of_ok (congrArg (found branch.1) isPoint)

/-- Runs with one branch map and the same outputs of each branch are the same. -/
theorem declared_unique {workflow : Workflow Params} {selection other : Selection Params}
    (maps : ∀ branches others, workflow.createBranchMap selection = .ok branches →
      workflow.createBranchMap other = .ok others → branches = others)
    (outputs : ∀ branch some others, workflow.output selection branch = .ok some →
      workflow.output other branch = .ok others → some = others)
    {run otherRun : List (workflow.Branch × Outputs)}
    (ran : workflow.declared selection = .ok run)
    (otherRan : workflow.declared other = .ok otherRun) : run = otherRun := by
  obtain ⟨branches, mapped, declares⟩ := forall₂_of_declared ran
  obtain ⟨others, otherMapped, otherDeclares⟩ := forall₂_of_declared otherRan
  obtain rfl := maps branches others mapped otherMapped
  clear ran otherRan mapped otherMapped
  induction declares generalizing otherRun with
  | nil =>
      cases otherDeclares
      rfl
  | @cons branch entry _ _ head _ ih =>
      cases otherDeclares with
      | @cons _ otherEntry _ _ otherHead otherTail =>
          rw [ih otherTail]
          congr 1
          apply Prod.ext
          · rw [head.1, otherHead.1]
          · exact outputs branch _ _ head.2 otherHead.2

theorem erasOf_eq (eras : ∀ name, Selects first.eras name ↔ Selects second.eras name)
    (setup : Setup Params) : first.erasOf setup = second.erasOf setup := by
  simp only [Options.erasOf, eras]

theorem shorten_eq {setupName : String}
    (shared : storeParts isWord sha6 task setupName first =
      storeParts isWord sha6 task setupName second)
    (test : 0 < first.test ↔ 0 < second.test) :
    (first.shorten : Point Params → Point Params) = second.shorten := by
  funext point
  by_cases tested : 0 < first.test
  · rw [Options.shorten, Options.shorten, if_pos tested, if_pos (test.mp tested),
      test_eq_of_storeParts shared tested (test.mp tested)]
  · have otherFull : ¬0 < second.test := fun other => tested (test.mpr other)
    rw [Options.shorten, Options.shorten, if_neg tested, if_neg otherFull]

theorem pointsOf_eq {setupName : String}
    (shared : storeParts isWord sha6 task setupName first =
      storeParts isWord sha6 task setupName second)
    (alike : SelectAlike task first second) (byPoint : task.ByPoint) (setup : Setup Params) :
    first.pointsOf setup = second.pointsOf setup := by
  simp only [Options.pointsOf, Options.producersOf, erasOf_eq alike.eras,
    alike.points byPoint, shorten_eq shared (alike.test byPoint)]

theorem storageTarget_eq (naming : Naming Params) (test : 0 < first.test ↔ 0 < second.test) :
    storageTarget naming first = storageTarget naming second := by
  funext parts
  simp only [storageTarget, storageName, test]

/-- A storage area tells a test from a production. -/
theorem test_iff_of_storageName {naming : Naming Params}
    (same : storageName naming first = storageName naming second) :
    0 < first.test ↔ 0 < second.test := by
  have longer : (prodStorageName naming ++ "_test").length ≠ (prodStorageName naming).length := by
    rw [String.length_append]
    have test : "_test".length = 5 := by decide
    omega
  have lengths := congrArg String.length same
  simp only [storageName] at lengths
  split_ifs at lengths with tested otherTested otherTested
  · exact iff_of_true tested otherTested
  · exact absurd lengths longer
  · exact absurd lengths.symm longer
  · exact iff_of_false tested otherTested

theorem filter_kept_eq
    (versions : ∀ version,
      KeepsVersion first.nanoVersions version ↔ KeepsVersion second.nanoVersions version)
    (values : List String) :
    values.filter (fun version => KeepsVersion first.nanoVersions version) =
      values.filter fun version => KeepsVersion second.nanoVersions version :=
  List.filter_congr fun version _ => decide_eq_decide.mpr (versions version)

theorem versions_agree
    (versions : ∀ version,
      KeepsVersion first.nanoVersions version ↔ KeepsVersion second.nanoVersions version)
    {setup : Setup Params} {era : String} {some others : List String}
    (isSome : eraNanoVersions (first.selectionOf setup) era = .ok some)
    (isOthers : eraNanoVersions (second.selectionOf setup) era = .ok others) : some = others := by
  rw [eq_of_eraNanoVersions isSome, eq_of_eraNanoVersions isOthers]
  exact filter_kept_eq versions _

/-- The branches of the versions are the same for two choices that select the
same. -/
theorem versionLoops_agree {β : Type} {setup : Setup Params}
    {branchesOf : String → Point Params × Nat → List String → List β}
    (eras : first.erasOf setup = second.erasOf setup)
    (points : first.pointsOf setup = second.pointsOf setup)
    (versions : ∀ version,
      KeepsVersion first.nanoVersions version ↔ KeepsVersion second.nanoVersions version)
    {branches others : List β}
    (isBranches : ∀ versionsOf : String → List String,
      (∀ era versions, eraNanoVersions (first.selectionOf setup) era = .ok versions →
        versionsOf era = versions) →
      branches = (first.erasOf setup).flatMap fun era =>
        (first.pointsOf setup).zipIdx.flatMap fun indexed =>
          branchesOf era indexed (versionsOf era))
    (isOthers : ∀ versionsOf : String → List String,
      (∀ era versions, eraNanoVersions (second.selectionOf setup) era = .ok versions →
        versionsOf era = versions) →
      others = (second.erasOf setup).flatMap fun era =>
        (second.pointsOf setup).zipIdx.flatMap fun indexed =>
          branchesOf era indexed (versionsOf era)) : branches = others := by
  have kept : ∀ (options : Options) era versions,
      eraNanoVersions (options.selectionOf setup) era = .ok versions →
      ((setup.versionsOf era).filter fun version =>
        KeepsVersion options.nanoVersions version) = versions :=
    fun options era versions isVersions => (eq_of_eraNanoVersions isVersions).symm
  rw [isBranches _ (kept first), isOthers _ (kept second)]
  simp only [eras, points, filter_kept_eq versions]

theorem backfillBranchMap_eq {selection : Selection Params}
    {branches : List (String × Nat × String)} (built : backfillBranchMap selection = .ok branches)
    (versionsOf : String → List String)
    (isVersions : ∀ era versions, eraNanoVersions selection era = .ok versions →
      versionsOf era = versions) :
    branches = selection.prodEras.flatMap fun era =>
      selection.prodPoints.zipIdx.flatMap fun indexed =>
        (versionsOf era).map fun version => (era, indexed.2, version) :=
  versionLoops_eq built versionsOf isVersions

/-- The branch maps of two choices that select the same are the same. -/
theorem branchMaps_agree (naming : Naming Params) (setup : Setup Params)
    (shared : storeParts isWord sha6 task naming.setupName first =
      storeParts isWord sha6 task naming.setupName second)
    (alike : SelectAlike task first second)
    (branches others : List (task.workflow isWord sha6 naming).Branch)
    (built : (task.workflow isWord sha6 naming).createBranchMap (first.selectionOf setup) =
      .ok branches)
    (otherBuilt : (task.workflow isWord sha6 naming).createBranchMap (second.selectionOf setup) =
      .ok others) : branches = others := by
  have eras := erasOf_eq alike.eras setup
  have gridpacks : task.ByPoint →
      makeGridpackBranches naming.gridpackName (first.selectionOf setup) =
        makeGridpackBranches naming.gridpackName (second.selectionOf setup) := by
    intro byPoint
    have points := pointsOf_eq shared alike byPoint setup
    simp only [makeGridpackBranches, gridpackPoints, Options.selectionOf, points]
  cases task with
  | installCMSSW =>
      cases built
      cases otherBuilt
      exact eras
  | importGridpack =>
      cases built
      cases otherBuilt
      exact gridpacks trivial
  | makeGridpack =>
      cases built
      cases otherBuilt
      exact gridpacks trivial
  | premixFileList =>
      have premix : premixFileListBranches (first.selectionOf setup) = .ok branches := built
      have otherPremix : premixFileListBranches (second.selectionOf setup) = .ok others :=
        otherBuilt
      simp only [premixFileListBranches, Options.selectionOf, eras] at premix otherPremix
      exact Except.ok.inj (premix.symm.trans otherPremix)
  | runProd =>
      cases built
      cases otherBuilt
      exact congrArg₂ runprodBranches eras (pointsOf_eq shared alike trivial setup)
  | nanoMergeTask =>
      exact versionLoops_agree eras (pointsOf_eq shared alike trivial setup)
        (alike.versions trivial) (fun _ => nanoMergeBranchMap_eq built _)
        fun _ => nanoMergeBranchMap_eq otherBuilt _
  | backfillProducedRecords =>
      exact versionLoops_agree eras (pointsOf_eq shared alike trivial setup)
        (alike.versions trivial) (fun _ => backfillBranchMap_eq built _)
        fun _ => backfillBranchMap_eq otherBuilt _

/-- An index is of the same point for two choices with the same points. -/
theorem point_agree {setup : Setup Params}
    (points : first.pointsOf setup = second.pointsOf setup) {era : String} {index : Nat}
    {point other : Point Params}
    (isPoint : found era (first.selectionOf setup).prodPoints[index]? = .ok point)
    (isOther : found era (second.selectionOf setup).prodPoints[index]? = .ok other) :
    point = other := by
  simp only [Options.selectionOf, points] at isPoint isOther
  exact Except.ok.inj (isPoint.symm.trans isOther)

/-- What two choices that select the same declare of a branch is the same. -/
theorem outputs_agree (naming : Naming Params) (setup : Setup Params)
    (shared : storeParts isWord sha6 task naming.setupName first =
      storeParts isWord sha6 task naming.setupName second)
    (alike : SelectAlike task first second)
    (branch : (task.workflow isWord sha6 naming).Branch) (some others : Outputs)
    (declares : (task.workflow isWord sha6 naming).output (first.selectionOf setup) branch =
      .ok some)
    (otherDeclares : (task.workflow isWord sha6 naming).output (second.selectionOf setup) branch =
      .ok others) : some = others := by
  cases task with
  | installCMSSW =>
      cases declares
      cases otherDeclares
      simp only [localTarget, Options.selectionOf, shared]
  | importGridpack =>
      cases declares
      cases otherDeclares
      rfl
  | makeGridpack =>
      cases declares
      cases otherDeclares
      rfl
  | premixFileList =>
      cases declares
      cases otherDeclares
      rfl
  | runProd =>
      have points := pointsOf_eq shared alike trivial setup
      obtain ⟨point, isPoint, rest⟩ := bind_eq_ok declares
      obtain ⟨otherPoint, isOtherPoint, otherRest⟩ := bind_eq_ok otherDeclares
      obtain ⟨versions, isVersions, isSome⟩ := bind_eq_ok rest
      obtain ⟨otherVersions, isOtherVersions, isOthers⟩ := bind_eq_ok otherRest
      cases isSome
      cases isOthers
      obtain rfl := point_agree points isPoint isOtherPoint
      obtain rfl := versions_agree (alike.versions trivial) isVersions isOtherVersions
      simp only [producedNanoTarget, Options.selectionOf,
        storageTarget_eq naming (alike.test trivial)]
  | nanoMergeTask =>
      have points := pointsOf_eq shared alike trivial setup
      obtain ⟨point, isPoint, isSome⟩ := bind_eq_ok declares
      obtain ⟨otherPoint, isOtherPoint, isOthers⟩ := bind_eq_ok otherDeclares
      cases isSome
      cases isOthers
      obtain rfl := point_agree points isPoint isOtherPoint
      simp only [mergedNanoTarget, Options.selectionOf,
        storageTarget_eq naming (alike.test trivial)]
  | backfillProducedRecords =>
      have points := pointsOf_eq shared alike trivial setup
      obtain ⟨point, isPoint, isSome⟩ := bind_eq_ok declares
      obtain ⟨otherPoint, isOtherPoint, isOthers⟩ := bind_eq_ok otherDeclares
      cases isSome
      cases isOthers
      obtain rfl := point_agree points isPoint isOtherPoint
      simp only [Options.selectionOf, storageTarget_eq naming (alike.test trivial)]

/-- Choices that select the same have the same runs wherever they share a
directory. -/
theorem sharedRunsAgree_of_selectAlike (alike : SelectAlike task first second) :
    SharedRunsAgree Params isWord sha6 task first second := by
  intro naming setup selection other selected otherSelected shared run otherRun ran otherRan
  obtain ⟨rfl, _⟩ := select_spec selected
  obtain ⟨rfl, _⟩ := select_spec otherSelected
  exact declared_unique (branchMaps_agree naming setup shared alike)
    (outputs_agree naming setup shared alike) ran otherRan

end DSProd.Tasks
