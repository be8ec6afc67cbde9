import DSProd.Tasks.Bookkeeping

/-!
# What a narrowed run produces

The products of `RunProd` and of `NanoMergeTask` under a selection of eras,
points and nano versions, by what they are of and not by the numbers of their
branches.  Without `--test` they are those of the full production that the
selection takes, in the same order, with the same seeds at the same paths.
-/

namespace DSProd.Tasks

open DSProd.Library

variable {Params : Type}

/-! ## Products -/

/-- What a branch produces for a version: the seed or the merge group it has the
number of, the seeds behind it, and where its files are. -/
structure Product where
  era : String
  point : String
  version : String
  number : Nat
  seeds : List Nat
  targets : List Target
  deriving DecidableEq

/-- The products of a branch of `RunProd`: its records, with the staged files. -/
def runProductsOf (naming : Naming Params) (selection : Selection Params)
    (entry : RunProdBranch × Outputs) : List Product :=
  match selection.prodPoints[entry.1.2.1]?, entry.2 with
  | some point, .perVersion targets =>
      targets.map fun target =>
        { era := entry.1.1
          point := point.name
          version := target.1
          number := entry.1.2.2
          seeds := [entry.1.2.2]
          targets := [target.2,
            stagedNanoTarget naming selection.options entry.1.1 point target.1 entry.1.2.2] }
  | _, _ => []

/-- The products of the `RunProd` that some options ask for. -/
def runProducts (naming : Naming Params) (setup : Setup Params) (options : Options) :
    Except TaskError (List Product) := do
  let selection ← select setup options
  let run ← (runProd naming).declared selection
  return run.flatMap (runProductsOf naming selection)

/-- The product of a branch of `NanoMergeTask`. -/
def mergeProductsOf (selection : Selection Params) (entry : MergeBranch × Outputs) :
    List Product :=
  match selection.prodPoints[entry.1.pointIndex]?, entry.2 with
  | some point, .one target =>
      [{ era := entry.1.era
         point := point.name
         version := entry.1.version
         number := entry.1.group
         seeds := entry.1.seeds
         targets := [target] }]
  | _, _ => []

/-- The products of the `NanoMergeTask` that some options ask for. -/
def mergeProducts (naming : Naming Params) (setup : Setup Params) (options : Options) :
    Except TaskError (List Product) := do
  let selection ← select setup options
  let run ← (nanoMergeTask naming).declared selection
  return run.flatMap (mergeProductsOf selection)

/-- The products that a selection takes: those of its eras, points and versions. -/
def Options.TakesProduct (options : Options) (product : Product) : Prop :=
  Selects options.eras product.era ∧ Selects options.points product.point ∧
    KeepsVersion options.nanoVersions product.version

instance (options : Options) (product : Product) : Decidable (options.TakesProduct product) :=
  inferInstanceAs (Decidable (_ ∧ _ ∧ _))

/-- The options of the full production. -/
def Options.full : Options :=
  {}

/-! ## What is asked of a selection -/

/-- A selection only narrows what a workflow produces: its products are those of
the full production that it takes. -/
def OnlyNarrows (products : Setup Params → Options → Except TaskError (List Product))
    (setup : Setup Params) : Prop :=
  ∀ options, options.test = 0 → ∀ narrowed, products setup options = .ok narrowed →
    ∃ all, products setup .full = .ok all ∧
      narrowed = all.filter fun product => options.TakesProduct product

/-- Some choices cover a setup: each of its eras, points and versions is taken
by one of them. -/
def Covers (family : Set Options) (setup : Setup Params) : Prop :=
  ∀ era ∈ setup.eras, ∀ point ∈ setup.points, ∀ version ∈ setup.versionsOf era,
    ∃ options ∈ family, Selects options.eras era ∧ Selects options.points point.name ∧
      KeepsVersion options.nanoVersions version

/-- Choices that cover a setup, and that it accepts, have every product of the
full production between them. -/
def CoversProducts (products : Setup Params → Options → Except TaskError (List Product))
    (setup : Setup Params) : Prop :=
  ∀ family : Set Options, Covers family setup →
    (∀ options ∈ family, options.test = 0 ∧ ∃ narrowed, products setup options = .ok narrowed) →
    ∀ all, products setup .full = .ok all → ∀ product ∈ all,
      ∃ options ∈ family, ∃ narrowed, products setup options = .ok narrowed ∧ product ∈ narrowed

/-- The paths on the storage that the tasks of a run write, whatever they work
on. -/
inductive Writes (isWord : Char → Bool) (sha6 : String → String) (naming : Naming Params)
    (options : Options) : Target → Prop
  | gridpack (name : String) : Writes isWord sha6 naming options (gridpackTarget naming name)
  | premix (era : String) : Writes isWord sha6 naming options (premixTarget naming era)
  | staged (era : String) (point : Point Params) (version : String) (seed : Nat) :
      Writes isWord sha6 naming options (stagedNanoTarget naming options era point version seed)
  | produced (era : String) (point : Point Params) (version : String) (seed : Nat) :
      Writes isWord sha6 naming options (producedNanoTarget naming options era point version seed)
  | merged (era : String) (point : Point Params) (version : String) (group : Nat) :
      Writes isWord sha6 naming options (mergedNanoTarget naming options era point version group)
  | backfilled (era : String) (point : Point Params) (version : String) :
      Writes isWord sha6 naming options (storageTarget naming options
        ["produced", s!"nanoAOD_{version}", era, point.name, "backfill.done"])
  | heartbeat (task : TaskClass) (branch : Nat) :
      Writes isWord sha6 naming options (heartbeatTarget naming options isWord sha6 task branch)

/-- What a test writes of a production is a gridpack or a premix list. -/
def TestsApart (isWord : Char → Bool) (sha6 : String → String) (naming : Naming Params) : Prop :=
  ∀ test production : Options, 0 < test.test → production.test = 0 → ∀ target,
    Writes isWord sha6 naming test target → Writes isWord sha6 naming production target →
      (∃ name, target = gridpackTarget naming name) ∨ ∃ era, target = premixTarget naming era

/-- Selecting a part of a setup only restricts it. -/
structure SelectionRestricts (isWord : Char → Bool) (sha6 : String → String)
    (naming : Naming Params) (setup : Setup Params) : Prop where
  runProd : OnlyNarrows (runProducts naming) setup
  nanoMerge : OnlyNarrows (mergeProducts naming) setup
  runProdCovered : CoversProducts (runProducts naming) setup
  nanoMergeCovered : CoversProducts (mergeProducts naming) setup
  tests : TestsApart isWord sha6 naming

/-! ## Loops over a part of a list -/

/-- A loop over a part of a list is one over the list, if nothing comes of the rest. -/
theorem flatMap_filter_eq {α β : Type} {keep : α → Bool} {f : α → List β} {values : List α}
    (rest : ∀ value ∈ values, keep value = false → f value = []) :
    (values.filter keep).flatMap f = values.flatMap f := by
  induction values with
  | nil => rfl
  | cons first others ih =>
      rw [List.forall_mem_cons] at rest
      have tail := ih rest.2
      cases kept : keep first with
      | true => rw [List.filter_cons_of_pos kept, List.flatMap_cons, List.flatMap_cons, tail]
      | false =>
          rw [List.filter_cons_of_neg (Bool.eq_false_iff.mp kept), List.flatMap_cons,
            rest.1 kept, List.nil_append, tail]

/-- A loop over the results of a traversal, as one over what was traversed. -/
theorem flatMap_eq_of_forall₂ {α β γ : Type} {related : α → β → Prop} {f : β → List γ}
    {g : α → List γ} {values : List α} {results : List β}
    (relates : List.Forall₂ related values results)
    (same : ∀ value result, related value result → f result = g value) :
    results.flatMap f = values.flatMap g := by
  induction relates with
  | nil => rfl
  | cons head _ ih => rw [List.flatMap_cons, List.flatMap_cons, ih, same _ _ head]

/-- A loop over branches that are numbered by eras and points, as one over the
eras and the points. -/
theorem flatMap_branches {β γ : Type} {eras : List String} {points : List (Point Params)}
    {branchesOf : String → Point Params × Nat → List β} {f : β → List γ}
    {productsOf : String → Point Params → List γ}
    (same : ∀ era point index, points[index]? = some point →
      (branchesOf era (point, index)).flatMap f = productsOf era point) :
    (eras.flatMap fun era => points.zipIdx.flatMap fun indexed =>
        branchesOf era indexed).flatMap f =
      eras.flatMap fun era => points.flatMap (productsOf era) := by
  rw [List.flatMap_assoc]
  apply List.flatMap_congr
  intro era _
  rw [List.flatMap_assoc]
  calc
    points.zipIdx.flatMap (fun indexed => (branchesOf era indexed).flatMap f) =
        points.zipIdx.flatMap (fun indexed => productsOf era indexed.1) := by
      apply List.flatMap_congr
      rintro ⟨point, index⟩ member
      exact same era point index (List.mem_zipIdx_iff_getElem?.mp member)
    _ = (points.zipIdx.map Prod.fst).flatMap (productsOf era) := by rw [List.flatMap_map]
    _ = points.flatMap (productsOf era) := by rw [List.zipIdx_map_fst]

/-! ## The products of a selection -/

section Products

variable {naming : Naming Params} {setup : Setup Params} {options : Options}

/-- The versions that a choice keeps of an era. -/
def Options.versionsOf (options : Options) (setup : Setup Params) (era : String) : List String :=
  (setup.versionsOf era).filter fun version => KeepsVersion options.nanoVersions version

/-- What `RunProd` produces of a seed. -/
def seedProduct (naming : Naming Params) (options : Options) (era : String)
    (point : Point Params) (seed : Nat) (version : String) : Product where
  era := era
  point := point.name
  version := version
  number := seed
  seeds := [seed]
  targets := [producedNanoTarget naming options era point version seed,
    stagedNanoTarget naming options era point version seed]

/-- What `NanoMergeTask` produces of a group of seeds. -/
def groupProduct (naming : Naming Params) (options : Options) (era : String)
    (point : Point Params) (version : String) (group : Nat × List Nat) : Product where
  era := era
  point := point.name
  version := version
  number := group.1
  seeds := group.2
  targets := [mergedNanoTarget naming options era point version group.1]

/-- The products of a point in an era, one for each seed and version. -/
def seedProducts (naming : Naming Params) (options : Options) (versions : List String)
    (era : String) (point : Point Params) : List Product :=
  (seedsOf point era).flatMap fun seed =>
    versions.map (seedProduct naming options era point seed)

/-- The merged files of a point in an era, one for each version and group. -/
def groupProducts (naming : Naming Params) (options : Options) (filesPerMerge : Nat)
    (versions : List String) (era : String) (point : Point Params) : List Product :=
  versions.flatMap fun version =>
    (mergeGroups (seedsOf point era) filesPerMerge).map
      (groupProduct naming options era point version)

theorem found_eq_ok {α : Type} {key : String} {value? : Option α} {value : α}
    (isFound : found key value? = .ok value) : value? = some value := by
  cases value? with
  | none => cases isFound
  | some other =>
      cases isFound
      rfl

/-- The products of a branch of `RunProd`, by what the setup says. -/
theorem runProductsOf_eq {branch : RunProdBranch} {outputs : Outputs}
    (declares : (runProd naming).output (options.selectionOf setup) branch = .ok outputs) :
    runProductsOf naming (options.selectionOf setup) (branch, outputs) =
      (options.pointsOf setup)[branch.2.1]?.toList.flatMap fun point =>
        (options.versionsOf setup branch.1).map
          (seedProduct naming options branch.1 point branch.2.2) := by
  obtain ⟨point, isPoint, rest⟩ := bind_eq_ok declares
  obtain ⟨versions, isVersions, isOutputs⟩ := bind_eq_ok rest
  have point? : (options.pointsOf setup)[branch.2.1]? = some point := found_eq_ok isPoint
  obtain rfl := Except.ok.inj isOutputs
  rw [runProductsOf, eq_of_eraNanoVersions isVersions]
  simp only [Options.selectionOf, point?, List.map_map, Option.toList_some,
    List.flatMap_singleton]
  rfl

/-- The products of a branch of `NanoMergeTask`, by what the setup says. -/
theorem mergeProductsOf_eq {branch : MergeBranch} {outputs : Outputs}
    (declares : (nanoMergeTask naming).output (options.selectionOf setup) branch = .ok outputs) :
    mergeProductsOf (options.selectionOf setup) (branch, outputs) =
      (options.pointsOf setup)[branch.pointIndex]?.toList.flatMap fun point =>
        [groupProduct naming options branch.era point branch.version
          (branch.group, branch.seeds)] := by
  obtain ⟨point, isPoint, isOutputs⟩ := bind_eq_ok declares
  have point? : (options.pointsOf setup)[branch.pointIndex]? = some point := found_eq_ok isPoint
  obtain rfl := Except.ok.inj isOutputs
  rw [mergeProductsOf]
  simp only [Options.selectionOf, point?, Option.toList_some, List.flatMap_singleton]
  rfl

/-- What some options ask `RunProd` for. -/
theorem runProducts_spec {products : List Product}
    (produced : runProducts naming setup options = .ok products) :
    products = (options.erasOf setup).flatMap fun era =>
      (options.pointsOf setup).flatMap
        (seedProducts naming options (options.versionsOf setup era) era) := by
  obtain ⟨selection, selected, rest⟩ := bind_eq_ok produced
  obtain ⟨run, ran, isProducts⟩ := bind_eq_ok rest
  cases isProducts
  rw [(select_spec selected).1] at ran ⊢
  obtain ⟨branches, built, declares⟩ := forall₂_of_declared ran
  cases built
  have products : run.flatMap (runProductsOf naming (options.selectionOf setup)) =
      (runProdBranchMap (options.selectionOf setup)).flatMap fun branch =>
        (options.pointsOf setup)[branch.2.1]?.toList.flatMap fun point =>
          (options.versionsOf setup branch.1).map
            (seedProduct naming options branch.1 point branch.2.2) := by
    apply flatMap_eq_of_forall₂ declares
    rintro _ ⟨branch, outputs⟩ ⟨rfl, declared⟩
    exact runProductsOf_eq declared
  rw [products]
  apply flatMap_branches
  intro era point index isPoint
  have point? : (options.pointsOf setup)[index]? = some point := isPoint
  simp only [List.flatMap_map, point?, Option.toList_some, List.flatMap_singleton, seedProducts,
    seedsOf, List.range'_eq_map_range, Nat.add_comm 1]

/-- What some options ask `NanoMergeTask` for. -/
theorem mergeProducts_spec {products : List Product}
    (produced : mergeProducts naming setup options = .ok products) :
    products = (options.erasOf setup).flatMap fun era =>
      (options.pointsOf setup).flatMap
        (groupProducts naming options setup.filesPerMerge (options.versionsOf setup era) era) := by
  obtain ⟨selection, selected, rest⟩ := bind_eq_ok produced
  obtain ⟨run, ran, isProducts⟩ := bind_eq_ok rest
  cases isProducts
  rw [(select_spec selected).1] at ran ⊢
  obtain ⟨(branches : List MergeBranch), built, declares⟩ := forall₂_of_declared ran
  have products : run.flatMap (mergeProductsOf (options.selectionOf setup)) =
      branches.flatMap fun branch =>
        (options.pointsOf setup)[branch.pointIndex]?.toList.flatMap fun point =>
          [groupProduct naming options branch.era point branch.version
            (branch.group, branch.seeds)] := by
    apply flatMap_eq_of_forall₂ declares
    rintro _ ⟨branch, outputs⟩ ⟨rfl, declared⟩
    exact mergeProductsOf_eq declared
  rw [products, nanoMergeBranchMap_eq built (options.versionsOf setup)
    fun era versions isVersions => (eq_of_eraNanoVersions isVersions).symm]
  apply flatMap_branches
  intro era point index isPoint
  have point? : (options.pointsOf setup)[index]? = some point := isPoint
  simp only [mergeBranchesOf, List.flatMap_assoc, List.flatMap_map, point?, Option.toList_some,
    List.flatMap_singleton, groupProducts]
  simp only [← List.map_eq_flatMap]
  rfl

/-! ## The full production -/

/-- A setup that accepts some choice accepts the full production. -/
theorem select_full {selection : Selection Params}
    (selected : select setup options = .ok selection) :
    select setup .full = .ok (Options.full.selectionOf setup) := by
  obtain ⟨point, producing⟩ := List.exists_mem_of_ne_nil _ (select_spec selected).2
  obtain ⟨matching, someEra⟩ := List.mem_filter.mp producing
  obtain ⟨era, eraMem, positive⟩ := List.any_eq_true.mp someEra
  have all : era ∈ Options.full.erasOf setup :=
    List.mem_filter.mpr ⟨(List.mem_filter.mp eraMem).1, decide_eq_true (Or.inl rfl)⟩
  apply select_of_mem all
  apply List.mem_filter.mpr
  constructor
  · exact List.mem_filter.mpr ⟨(List.mem_filter.mp matching).1, decide_eq_true (Or.inl rfl)⟩
  · exact List.any_eq_true.mpr ⟨era, all, positive⟩

theorem eraNanoVersions_full (setup : Setup Params) (era : String) :
    eraNanoVersions (Options.full.selectionOf setup) era = .ok (setup.versionsOf era) :=
  rfl

/-- The full production of a setup that accepts some choice has its products. -/
theorem exists_runProducts_full {narrowed : List Product}
    (produced : runProducts naming setup options = .ok narrowed) :
    ∃ all, runProducts naming setup .full = .ok all := by
  obtain ⟨selection, selected, _⟩ := bind_eq_ok produced
  obtain ⟨run, ran⟩ : ∃ run,
      (runProd naming).declared (Options.full.selectionOf setup) = .ok run := by
    apply exists_declared_of_outputs rfl
    intro branch member
    obtain ⟨_, point, isPoint, _⟩ := mem_runprodBranches.mp member
    exact ⟨_, runProd_output naming branch isPoint (eraNanoVersions_full setup branch.1)⟩
  exact ⟨_, (bind_of_ok (select_full selected)).trans (bind_of_ok ran)⟩

theorem exists_mergeProducts_full {narrowed : List Product}
    (produced : mergeProducts naming setup options = .ok narrowed) :
    ∃ all, mergeProducts naming setup .full = .ok all := by
  obtain ⟨selection, selected, _⟩ := bind_eq_ok produced
  obtain ⟨branches, built⟩ : ∃ branches,
      nanoMergeBranchMap (Options.full.selectionOf setup) = .ok branches :=
    exists_versionLoops (mergeBranchesOf setup.filesPerMerge)
      fun era => ⟨_, eraNanoVersions_full setup era⟩
  obtain ⟨run, ran⟩ : ∃ run,
      (nanoMergeTask naming).declared (Options.full.selectionOf setup) = .ok run := by
    apply exists_declared_of_outputs built
    intro branch member
    obtain ⟨_, _, point, isPoint, _⟩ := (mem_nanoMergeBranchMap built).mp member
    exact ⟨_, nanoMergeTask_output naming branch isPoint⟩
  exact ⟨_, (bind_of_ok (select_full selected)).trans (bind_of_ok ran)⟩

/-! ## Narrowing -/

section Loops

variable {narrowed all : String → Point Params → List Product}

variable (options) in
/-- The products of a point in an era that a selection takes: all that it keeps
the versions of, or none. -/
theorem filter_takes (owned : ∀ era point, ∀ product ∈ all era point,
      product.era = era ∧ product.point = point.name) (era : String) (point : Point Params) :
    ((all era point).filter fun product => options.TakesProduct product) =
      if Selects options.eras era ∧ Selects options.points point.name then
        (all era point).filter fun product => KeepsVersion options.nanoVersions product.version
      else [] := by
  split
  · rename_i selects
    apply List.filter_congr
    intro product member
    obtain ⟨sameEra, samePoint⟩ := owned era point product member
    simp [Options.TakesProduct, sameEra, samePoint, selects.1, selects.2]
  · rename_i leaves
    apply List.filter_eq_nil_iff.mpr
    intro product member taken
    obtain ⟨sameEra, samePoint⟩ := owned era point product member
    obtain ⟨eraSelects, pointSelects, _⟩ := of_decide_eq_true taken
    exact leaves ⟨sameEra ▸ eraSelects, samePoint ▸ pointSelects⟩

/-- A loop over the points that a selection produces in one of its eras, as one
over the points of the setup. -/
theorem flatMap_producersOf {f : Point Params → List Product} {era : String}
    (eraMem : era ∈ options.erasOf setup) (idle : ∀ point, point.nEvents era ≤ 0 → f point = [])
    (leaves : ∀ point, ¬Selects options.points point.name → f point = []) :
    (options.producersOf setup).flatMap f = setup.points.flatMap f := by
  rw [Options.producersOf, flatMap_filter_eq, flatMap_filter_eq]
  · intro point _ left
    exact leaves point (of_decide_eq_false left)
  · intro point _ producesNone
    apply idle
    rw [List.any_eq_false] at producesNone
    simpa using producesNone era eraMem

/-- The products that some loops over the eras and the points of a selection
make are those of the full production that the selection takes, if those of a
point in an era are, and there are none where the point produces nothing. -/
theorem loops_narrow
    (owned : ∀ era point, ∀ product ∈ all era point,
      product.era = era ∧ product.point = point.name)
    (idle : ∀ era point, point.nEvents era ≤ 0 → all era point = [])
    (kept : ∀ era point, narrowed era point = (all era point).filter fun product =>
      KeepsVersion options.nanoVersions product.version) :
    ((options.erasOf setup).flatMap fun era =>
        (options.producersOf setup).flatMap (narrowed era)) =
      ((Options.full.erasOf setup).flatMap fun era =>
        (Options.full.producersOf setup).flatMap (all era)).filter
          fun product => options.TakesProduct product := by
  have taken := filter_takes options owned
  -- both loops are over the setup, of the products that the selection takes
  have ofSelection : ∀ era ∈ options.erasOf setup,
      (options.producersOf setup).flatMap (narrowed era) = setup.points.flatMap fun point =>
        (all era point).filter fun product => options.TakesProduct product := by
    intro era eraMem
    rw [← flatMap_producersOf eraMem]
    · apply List.flatMap_congr
      intro point member
      have selects : Selects options.eras era ∧ Selects options.points point.name := by
        constructor
        · exact of_decide_eq_true (List.mem_filter.mp eraMem).2
        · have matching := (List.mem_filter.mp member).1
          exact of_decide_eq_true (List.mem_filter.mp matching).2
      rw [taken, if_pos selects, kept]
    · intro point none
      rw [idle era point none, List.filter_nil]
    · intro point leaves
      rw [taken, if_neg fun selects => leaves selects.2]
  have ofAll : ∀ era ∈ Options.full.erasOf setup,
      ((Options.full.producersOf setup).flatMap (all era)).filter
          (fun product => options.TakesProduct product) =
        setup.points.flatMap fun point =>
          (all era point).filter fun product => options.TakesProduct product := by
    intro era eraMem
    rw [flatMap_producersOf eraMem (idle era) fun _ leaves => absurd (Or.inl rfl) leaves,
      List.filter_flatMap]
  have everyEra : Options.full.erasOf setup = setup.eras :=
    List.filter_eq_self.mpr fun era _ => decide_eq_true (Or.inl rfl)
  rw [List.flatMap_congr ofSelection, List.filter_flatMap, List.flatMap_congr ofAll, everyEra,
    Options.erasOf, flatMap_filter_eq]
  intro era _ left
  apply List.flatMap_eq_nil_iff.mpr
  intro point _
  rw [taken, if_neg fun selects => of_decide_eq_false left selects.1]

end Loops

theorem seedsOf_of_idle {point : Point Params} {era : String} (idle : point.nEvents era ≤ 0) :
    seedsOf point era = [] := by
  rw [seedsOf, Point.nJobs, if_pos (Or.inl idle), List.range'_zero]

theorem versionsOf_full (setup : Setup Params) (era : String) :
    Options.full.versionsOf setup era = setup.versionsOf era :=
  List.filter_eq_self.mpr fun _ _ => decide_eq_true (Or.inl rfl)

/-- Without `--test` the points are as the setup has them. -/
theorem pointsOf_of_untested (untested : options.test = 0) :
    options.pointsOf setup = options.producersOf setup := by
  rw [Options.pointsOf, map_shorten, if_neg]
  rw [untested]
  exact lt_irrefl 0

theorem pointsOf_full (setup : Setup Params) :
    Options.full.pointsOf setup = Options.full.producersOf setup :=
  pointsOf_of_untested rfl

/-- Without `--test` a run works in the area of the full production. -/
theorem storageTarget_untested (naming : Naming Params) (untested : options.test = 0) :
    storageTarget naming options = storageTarget naming .full := by
  apply storageTarget_eq
  rw [untested]
  rfl

/-- A narrowed `RunProd` produces what the full one does of its selection. -/
theorem runProd_onlyNarrows (naming : Naming Params) (setup : Setup Params) :
    OnlyNarrows (runProducts naming) setup := by
  intro options untested narrowed produced
  obtain ⟨all, allProduced⟩ := exists_runProducts_full produced
  refine ⟨all, allProduced, ?_⟩
  have samePaths : seedProduct naming options = seedProduct naming .full := by
    funext era point seed _
    simp only [seedProduct, producedNanoTarget, stagedNanoTarget,
      storageTarget_untested naming untested]
  rw [runProducts_spec produced, runProducts_spec allProduced, pointsOf_of_untested untested,
    pointsOf_full]
  apply loops_narrow
  · intro era point product member
    simp only [seedProducts, List.mem_flatMap, List.mem_map] at member
    obtain ⟨_, _, _, _, rfl⟩ := member
    exact ⟨rfl, rfl⟩
  · intro era point idle
    rw [seedProducts, seedsOf_of_idle idle, List.flatMap_nil]
  · intro era point
    rw [seedProducts, seedProducts, samePaths, versionsOf_full, List.filter_flatMap]
    apply List.flatMap_congr
    intro seed _
    rw [List.filter_map]
    rfl

/-- A narrowed `NanoMergeTask` merges what the full one does of its selection. -/
theorem nanoMerge_onlyNarrows (naming : Naming Params) (setup : Setup Params) :
    OnlyNarrows (mergeProducts naming) setup := by
  intro options untested narrowed produced
  obtain ⟨all, allProduced⟩ := exists_mergeProducts_full produced
  refine ⟨all, allProduced, ?_⟩
  have samePaths : groupProduct naming options = groupProduct naming .full := by
    funext era point version group
    simp only [groupProduct, mergedNanoTarget, storageTarget_untested naming untested]
  rw [mergeProducts_spec produced, mergeProducts_spec allProduced, pointsOf_of_untested untested,
    pointsOf_full]
  apply loops_narrow
  · intro era point product member
    simp only [groupProducts, List.mem_flatMap, List.mem_map] at member
    obtain ⟨_, _, _, _, rfl⟩ := member
    exact ⟨rfl, rfl⟩
  · intro era point idle
    rw [groupProducts, seedsOf_of_idle idle]
    apply List.flatMap_eq_nil_iff.mpr
    intro version _
    have none : mergeGroups [] setup.filesPerMerge = [] := by
      cases zero : setup.filesPerMerge <;> simp [mergeGroups]
    rw [none, List.map_nil]
  · intro era point
    rw [groupProducts, groupProducts, samePaths, versionsOf_full, List.filter_flatMap]
    have ofVersion : ∀ version, (((mergeGroups (seedsOf point era) setup.filesPerMerge).map
        (groupProduct naming .full era point version)).filter fun product =>
          KeepsVersion options.nanoVersions product.version) =
        if KeepsVersion options.nanoVersions version then
          (mergeGroups (seedsOf point era) setup.filesPerMerge).map
            (groupProduct naming .full era point version)
        else [] := by
      intro version
      rw [List.filter_map]
      by_cases keeps : KeepsVersion options.nanoVersions version
      · simp [Function.comp_def, groupProduct, keeps]
      · simp [Function.comp_def, groupProduct, keeps]
    rw [List.flatMap_congr fun version _ => ofVersion version]
    symm
    apply Eq.trans (flatMap_filter_eq ?_).symm
    · apply List.flatMap_congr
      intro version member
      exact if_pos (of_decide_eq_true (List.mem_filter.mp member).2)
    · intro version _ dropped
      exact if_neg (of_decide_eq_false dropped)

/-! ## Coverings -/

theorem mem_points_of_producersOf {point : Point Params}
    (member : point ∈ options.producersOf setup) : point ∈ setup.points :=
  (List.mem_filter.mp (List.mem_filter.mp member).1).1

/-- Choices that cover a setup have every product between them, where each of
them only narrows. -/
theorem coversProducts_of_onlyNarrows
    {products : Setup Params → Options → Except TaskError (List Product)}
    (narrows : OnlyNarrows products setup)
    (ofSetup : ∀ all, products setup .full = .ok all → ∀ product ∈ all,
      product.era ∈ setup.eras ∧ (∃ point ∈ setup.points, product.point = point.name) ∧
        product.version ∈ setup.versionsOf product.era) :
    CoversProducts products setup := by
  intro family covers accepted all allProduced product member
  obtain ⟨eraMem, ⟨point, pointMem, samePoint⟩, versionMem⟩ :=
    ofSetup all allProduced product member
  obtain ⟨options, inFamily, eraSelects, pointSelects, keeps⟩ :=
    covers product.era eraMem point pointMem product.version versionMem
  obtain ⟨untested, narrowed, produced⟩ := accepted options inFamily
  refine ⟨options, inFamily, narrowed, produced, ?_⟩
  obtain ⟨others, othersProduced, same⟩ := narrows options untested narrowed produced
  obtain rfl := Except.ok.inj (othersProduced.symm.trans allProduced)
  rw [same]
  apply List.mem_filter.mpr
  exact ⟨member, decide_eq_true ⟨eraSelects, samePoint ▸ pointSelects, keeps⟩⟩

end Products

/-! ## Tests -/

/-- What a run writes is in its own area, apart from gridpacks and premix lists. -/
theorem Writes.area {isWord : Char → Bool} {sha6 : String → String} {naming : Naming Params}
    {options : Options} {target : Target} (writes : Writes isWord sha6 naming options target) :
    ((∃ name, target = gridpackTarget naming name) ∨ ∃ era, target = premixTarget naming era) ∨
      target.parts.head? = some (storageName naming options) := by
  cases writes with
  | gridpack name => exact Or.inl (Or.inl ⟨name, rfl⟩)
  | premix era => exact Or.inl (Or.inr ⟨era, rfl⟩)
  | staged => exact Or.inr rfl
  | produced => exact Or.inr rfl
  | merged => exact Or.inr rfl
  | backfilled => exact Or.inr rfl
  | heartbeat => exact Or.inr rfl

theorem testsApart (isWord : Char → Bool) (sha6 : String → String) (naming : Naming Params) :
    TestsApart isWord sha6 naming := by
  intro test production tested untested target testWrites writes
  rcases testWrites.area with shared | inTest
  · exact shared
  rcases writes.area with shared | inProduction
  · exact shared
  have sameArea := Option.some.inj (inTest.symm.trans inProduction)
  rw [(test_iff_of_storageName sameArea), untested] at tested
  exact absurd tested (lt_irrefl 0)

/-- Selecting a part of a setup only restricts what a production makes, and a
test keeps apart from it. -/
theorem selectionRestricts (isWord : Char → Bool) (sha6 : String → String)
    (naming : Naming Params) (setup : Setup Params) :
    SelectionRestricts isWord sha6 naming setup where
  runProd := runProd_onlyNarrows naming setup
  nanoMerge := nanoMerge_onlyNarrows naming setup
  runProdCovered := by
    apply coversProducts_of_onlyNarrows (runProd_onlyNarrows naming setup)
    intro all produced product member
    rw [runProducts_spec produced] at member
    simp only [seedProducts, List.mem_flatMap, List.mem_map, versionsOf_full,
      pointsOf_full] at member
    obtain ⟨era, eraMem, point, pointMem, seed, _, version, versionMem, rfl⟩ := member
    exact ⟨(List.mem_filter.mp eraMem).1,
      ⟨point, mem_points_of_producersOf pointMem, rfl⟩, versionMem⟩
  nanoMergeCovered := by
    apply coversProducts_of_onlyNarrows (nanoMerge_onlyNarrows naming setup)
    intro all produced product member
    rw [mergeProducts_spec produced] at member
    simp only [groupProducts, List.mem_flatMap, List.mem_map, versionsOf_full,
      pointsOf_full] at member
    obtain ⟨era, eraMem, point, pointMem, version, versionMem, group, _, rfl⟩ := member
    exact ⟨(List.mem_filter.mp eraMem).1,
      ⟨point, mem_points_of_producersOf pointMem, rfl⟩, versionMem⟩
  tests := testsApart isWord sha6 naming

end DSProd.Tasks
