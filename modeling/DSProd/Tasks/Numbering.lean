import DSProd.Tasks.Branches
import Mathlib.Data.List.Nodup
import Mathlib.Data.List.Range

/-!
# The numbering of branches agrees across tasks

Every task numbers its branches by itself.  A task that requires branches of
another finds their numbers by inverting the numbering, so a number it asks for
is a position of the value it looked up: no two numberings have to be compared.
What has to be shown is that every lookup finds something, and that the groups
of a merge are the consecutive runs of its seeds.
-/

namespace DSProd.Tasks

open DSProd.Library

variable {Params : Type}

/-! ## Inverted numberings -/

theorem getElem?_of_positions {α : Type} [DecidableEq α] {values : List α} {value : α}
    {index : Nat} (located : (positions values).get? value = some index) :
    values[index]? = some value := by
  rcases Dict.mem_of_get?_update located with numbered | impossible
  · exact List.mem_zipIdx_iff_getElem?.mp numbered
  · simp at impossible

theorem exists_position {α : Type} [DecidableEq α] {values : List α} {value : α}
    (member : value ∈ values) :
    ∃ index, (positions values).get? value = some index ∧ values[index]? = some value := by
  have known : value ∈ (positions values).keys := by
    rw [positions, Dict.ofList, Dict.mem_keys_update]
    right
    rwa [List.zipIdx_map_fst]
  rcases Dict.mem_keys_iff.mp known with ⟨index, located⟩
  exact ⟨index, located, getElem?_of_positions located⟩

theorem exists_idxOf {values : List String} {value : String} (member : value ∈ values) :
    ∃ index, values.idxOf? value = some index ∧ values[index]? = some value := by
  cases located : values.idxOf? value with
  | none =>
      rw [List.idxOf?_eq_none_iff] at located
      exact absurd member located
  | some index =>
      rw [List.idxOf?_eq_some_iff] at located
      obtain ⟨within, same, _⟩ := located
      apply Exists.intro index
      constructor
      · rfl
      · rw [List.getElem?_eq_getElem within, same]

/-! ## Gridpacks -/

/-- The first points of the gridpacks of some points, by gridpack. -/
theorem gridpackFold (gridpackName : Point Params → String) (points : List (Point Params)) :
    ∀ seen : Dict String (Point Params),
      (∀ name point, seen.get? name = some point → gridpackName point = name) →
      (∀ name point,
        (points.foldl (fun seen point => seen.setdefault (gridpackName point) point) seen).get?
          name = some point → gridpackName point = name) ∧
      ∀ name, name ∈ (points.foldl
          (fun seen point => seen.setdefault (gridpackName point) point) seen).keys ↔
        name ∈ seen.keys ∨ ∃ point ∈ points, gridpackName point = name := by
  induction points with
  | nil => simp
  | cons first rest ih =>
      intro seen named
      have stillNamed : ∀ name point,
          (seen.setdefault (gridpackName first) first).get? name = some point →
            gridpackName point = name := by
        intro name point stored
        rw [Dict.get?_setdefault] at stored
        by_cases same : name = gridpackName first
        · rw [if_pos same, Option.some.injEq, Dict.getD] at stored
          cases known : seen.get? (gridpackName first) with
          | none =>
              rw [known, Option.getD_none] at stored
              rw [← stored, same]
          | some other =>
              rw [known, Option.getD_some] at stored
              rw [← stored, same]
              exact named _ _ known
        · rw [if_neg same] at stored
          exact named name point stored
      rcases ih _ stillNamed with ⟨namedAfter, keysAfter⟩
      constructor
      · exact namedAfter
      · intro name
        rw [List.foldl_cons, keysAfter, Dict.mem_keys_setdefault]
        simp only [List.mem_cons, exists_eq_or_imp]
        tauto

/-- The gridpack points carry distinct names, and the name of every point. -/
theorem gridpackName_mem (gridpackName : Point Params → String) (selection : Selection Params)
    {point : Point Params} (member : point ∈ selection.prodPoints) :
    gridpackName point ∈ (gridpackPoints gridpackName selection).map gridpackName := by
  rcases gridpackFold gridpackName selection.prodPoints Dict.empty (by simp) with
    ⟨named, keys⟩
  have known := (keys (gridpackName point)).mpr (Or.inr ⟨point, member, rfl⟩)
  obtain ⟨first, stored⟩ := Dict.mem_keys_iff.mp known
  rw [List.mem_map]
  apply Exists.intro first
  constructor
  · exact List.mem_map.mpr ⟨_, Dict.get?_eq_some_iff.mp stored, rfl⟩
  · exact named _ _ stored

/-! ## Groups -/

/-- A sample that is a multiple of a positive job size has that many jobs. -/
theorem nJobs_of_multiple {point : Point Params} {era : String} {jobs : Nat}
    (positive : 0 < point.eventsPerJob)
    (total : point.nEvents era = point.eventsPerJob * jobs) : point.nJobs era = jobs := by
  unfold Point.nJobs
  by_cases none : jobs = 0
  · rw [if_pos (Or.inl (by rw [total, none]; simp)), none]
  · have some : 0 < point.eventsPerJob * jobs :=
      mul_pos positive (Int.natCast_pos.mpr (Nat.pos_of_ne_zero none))
    have quotient : (point.nEvents era : ℚ) / point.eventsPerJob = (jobs : ℤ) := by
      rw [total, Int.cast_mul]
      exact mul_div_cancel_left₀ _ (Int.cast_ne_zero.mpr positive.ne')
    rw [if_neg (by omega), quotient, Int.ceil_intCast, Int.toNat_natCast]

/-- The groups of the seeds up to a total are their consecutive runs of a given
length, the last one cut short. -/
theorem mem_mergeGroups {total filesPerMerge group : Nat} {seeds : List Nat}
    (positive : 1 ≤ filesPerMerge) :
    (group, seeds) ∈ mergeGroups (List.range' 1 total) filesPerMerge ↔
      group * filesPerMerge < total ∧
        seeds = List.range' (group * filesPerMerge + 1)
          (min ((group + 1) * filesPerMerge) total - group * filesPerMerge) := by
  have counted : group < (total + filesPerMerge - 1) / filesPerMerge ↔
      group * filesPerMerge < total := by
    rw [← Nat.succ_le_iff, Nat.le_div_iff_mul_le positive, Nat.succ_mul]
    omega
  have sliced : ((List.range' 1 total).drop (group * filesPerMerge)).take filesPerMerge =
      List.range' (group * filesPerMerge + 1)
        (min ((group + 1) * filesPerMerge) total - group * filesPerMerge) := by
    rw [List.drop_range', Nat.mul_one, Nat.add_comm 1, Nat.succ_mul]
    by_cases whole : filesPerMerge ≤ total - group * filesPerMerge
    · rw [List.take_range'_of_length_ge whole]
      congr 1
      omega
    · rw [List.take_range'_of_length_le (by omega)]
      congr 1
      omega
  simp only [mergeGroups, List.length_range', List.mem_map, List.mem_range, Prod.mk.injEq]
  constructor
  · rintro ⟨index, within, rfl, rfl⟩
    exact ⟨counted.mp within, sliced⟩
  · rintro ⟨within, rfl⟩
    exact ⟨group, counted.mpr within, rfl, sliced⟩

/-- Every seed is in exactly one group. -/
theorem existsUnique_mergeGroup {total filesPerMerge seed : Nat} (positive : 1 ≤ filesPerMerge)
    (member : seed ∈ List.range' 1 total) :
    ∃! group, group ∈ mergeGroups (List.range' 1 total) filesPerMerge ∧ seed ∈ group.2 := by
  rw [List.mem_range'_1] at member
  have division := Nat.div_add_mod (seed - 1) filesPerMerge
  have remainder := Nat.mod_lt (seed - 1) positive
  rw [Nat.mul_comm] at division
  apply ExistsUnique.intro ((seed - 1) / filesPerMerge, _)
  · constructor
    · apply (mem_mergeGroups positive).mpr
      constructor
      · omega
      · rfl
    · rw [List.mem_range'_1, Nat.succ_mul]
      omega
  · rintro ⟨group, seeds⟩ ⟨groupMem, seedMem⟩
    rcases (mem_mergeGroups positive).mp groupMem with ⟨_, rfl⟩
    rw [List.mem_range'_1, Nat.succ_mul] at seedMem
    have same : group = (seed - 1) / filesPerMerge := by
      symm
      apply Nat.div_eq_of_lt_le
      · omega
      · rw [Nat.succ_mul]
        omega
    rw [same]

/-! ## Branch maps that are built -/

theorem flatMap_eq_of_nodup {α β : Type} {f : α → List β} {values : List α} (value : α)
    (nodup : values.Nodup) (member : value ∈ values)
    (others : ∀ other ∈ values, other ≠ value → f other = []) : values.flatMap f = f value := by
  induction values with
  | nil => cases member
  | cons first rest ih =>
      rw [List.nodup_cons] at nodup
      rw [List.flatMap_cons]
      rcases List.mem_cons.mp member with rfl | later
      · have restNone : rest.flatMap f = [] := by
          rw [List.flatMap_eq_nil_iff]
          intro other otherMem
          apply others other (List.mem_cons_of_mem _ otherMem)
          rintro rfl
          exact nodup.1 otherMem
        rw [restNone, List.append_nil]
      · have firstNone : f first = [] := by
          apply others first List.mem_cons_self
          rintro rfl
          exact nodup.1 later
        rw [firstNone, List.nil_append]
        exact ih nodup.2 later fun other otherMem =>
          others other (List.mem_cons_of_mem first otherMem)

/-- A traversal that raises nothing has a result for every value. -/
theorem mapM_eq_ok {α β ε : Type} {f : α → Except ε β} {values : List α} {results : List β}
    (mapped : values.mapM f = .ok results) : List.Forall₂ (fun value result => f value = .ok result)
      values results := by
  induction values generalizing results with
  | nil =>
      rw [List.mapM_nil] at mapped
      cases mapped
      exact List.Forall₂.nil
  | cons first rest ih =>
      rw [List.mapM_cons] at mapped
      cases head : f first with
      | error error => simp [head, bind, Except.bind] at mapped
      | ok value =>
          cases tail : rest.mapM f with
          | error error => simp [head, tail, bind, Except.bind] at mapped
          | ok others =>
              simp only [head, tail, bind, Except.bind, pure, Except.pure,
                Except.ok.injEq] at mapped
              rw [← mapped]
              exact List.Forall₂.cons head (ih tail)

theorem exists_of_forall₂ {α β : Type} {related : α → β → Prop} {values : List α}
    {results : List β} (relates : List.Forall₂ related values results) {value : α}
    (member : value ∈ values) : ∃ result ∈ results, related value result := by
  induction relates with
  | nil => cases member
  | cons head _ ih =>
      rcases List.mem_cons.mp member with rfl | later
      · exact ⟨_, List.mem_cons_self, head⟩
      · obtain ⟨result, isResult, isRelated⟩ := ih later
        exact ⟨result, List.mem_cons_of_mem _ isResult, isRelated⟩

theorem bind_eq_ok {α β ε : Type} {first : Except ε α} {next : α → Except ε β} {result : β}
    (passed : (first >>= next) = .ok result) :
    ∃ value, first = .ok value ∧ next value = .ok result := by
  cases computed : first with
  | error error => simp [computed, bind, Except.bind] at passed
  | ok value =>
      rw [computed] at passed
      exact ⟨value, rfl, passed⟩

theorem bind_of_ok {α β ε : Type} {computed : Except ε α} {value : α} {next : α → Except ε β}
    (isValue : computed = .ok value) : (computed >>= next) = next value := by
  rw [isValue]
  rfl

/-- A traversal that never raises has a result. -/
theorem exists_mapM {α β ε : Type} {f : α → Except ε β} {values : List α}
    (total : ∀ value ∈ values, ∃ result, f value = .ok result) :
    ∃ results, values.mapM f = .ok results := by
  induction values with
  | nil => exact ⟨[], rfl⟩
  | cons first rest ih =>
      obtain ⟨result, isResult⟩ := total first List.mem_cons_self
      obtain ⟨results, areResults⟩ := ih fun value member =>
        total value (List.mem_cons_of_mem first member)
      refine ⟨result :: results, ?_⟩
      rw [List.mapM_cons, isResult, areResults]
      rfl

/-- Branches of the eras, the points and the versions of an era, once they are
built, as a product of the loops. -/
theorem versionLoops_eq {β : Type} {selection : Selection Params}
    {branchesOf : String → Point Params × Nat → List String → List β} {branches : List β}
    (built : (do
      let byEra ← selection.prodEras.mapM fun era => do
        let byPoint ← selection.prodPoints.zipIdx.mapM fun indexed => do
          let versions ← eraNanoVersions selection era
          return branchesOf era indexed versions
        return byPoint.flatten
      return byEra.flatten : Except TaskError (List β)) = .ok branches)
    (versionsOf : String → List String)
    (isVersions : ∀ era versions, eraNanoVersions selection era = .ok versions →
      versionsOf era = versions) :
    branches = selection.prodEras.flatMap fun era =>
      selection.prodPoints.zipIdx.flatMap fun indexed =>
        branchesOf era indexed (versionsOf era) := by
  obtain ⟨byEra, eraOk, isBranches⟩ := bind_eq_ok built
  cases isBranches
  rw [List.flatMap_def]
  congr 1
  have eraEq := mapM_eq_ok eraOk
  clear built eraOk
  generalize selection.prodEras = eras at eraEq ⊢
  induction eraEq with
  | nil => rfl
  | @cons era result eras results headOk _ ih =>
      rw [List.map_cons, ih]
      congr 1
      rcases bind_eq_ok headOk with ⟨byPoint, pointOk, isResult⟩
      cases isResult
      rw [List.flatMap_def]
      congr 1
      have pointEq := mapM_eq_ok pointOk
      clear headOk pointOk ih
      generalize selection.prodPoints.zipIdx = points at pointEq ⊢
      induction pointEq with
      | nil => rfl
      | @cons indexed some rest others branchOk _ ihPoint =>
          rw [List.map_cons, ihPoint]
          congr 1
          obtain ⟨versions, versionsOk, isSome⟩ := bind_eq_ok branchOk
          cases isSome
          rw [isVersions era versions versionsOk]

/-- Branches of the versions can be built where every era has its versions. -/
theorem exists_versionLoops {β : Type} {selection : Selection Params}
    (branchesOf : String → Point Params × Nat → List String → List β)
    (versions : ∀ era, ∃ versions, eraNanoVersions selection era = .ok versions) :
    ∃ branches, (do
      let byEra ← selection.prodEras.mapM fun era => do
        let byPoint ← selection.prodPoints.zipIdx.mapM fun indexed => do
          let versions ← eraNanoVersions selection era
          return branchesOf era indexed versions
        return byPoint.flatten
      return byEra.flatten : Except TaskError (List β)) = .ok branches := by
  have built : ∃ byEra, (selection.prodEras.mapM fun era => do
      let byPoint ← selection.prodPoints.zipIdx.mapM fun indexed => do
        let versions ← eraNanoVersions selection era
        return branchesOf era indexed versions
      return byPoint.flatten : Except TaskError (List (List β))) = .ok byEra := by
    apply exists_mapM
    intro era _
    obtain ⟨some, isSome⟩ := versions era
    obtain ⟨byPoint, isByPoint⟩ : ∃ byPoint, (selection.prodPoints.zipIdx.mapM fun indexed => do
        let versions ← eraNanoVersions selection era
        return branchesOf era indexed versions : Except TaskError (List (List β))) =
          .ok byPoint := by
      apply exists_mapM
      intro indexed _
      rw [isSome]
      exact ⟨_, rfl⟩
    rw [isByPoint]
    exact ⟨_, rfl⟩
  obtain ⟨byEra, isByEra⟩ := built
  rw [isByEra]
  exact ⟨_, rfl⟩

/-- The branch map of a merge, once it is built, as a product of its loops. -/
theorem nanoMergeBranchMap_eq {selection : Selection Params} {merges : List MergeBranch}
    (built : nanoMergeBranchMap selection = .ok merges) (versionsOf : String → List String)
    (isVersions : ∀ era versions, eraNanoVersions selection era = .ok versions →
      versionsOf era = versions) :
    merges = selection.prodEras.flatMap fun era =>
      selection.prodPoints.zipIdx.flatMap fun indexed =>
        mergeBranchesOf selection.setup.filesPerMerge era indexed (versionsOf era) :=
  versionLoops_eq built versionsOf isVersions

/-- The versions that a selection keeps of its setup, none where it raises. -/
def keptVersions (selection : Selection Params) (era : String) : List String :=
  (eraNanoVersions selection era).toOption.getD []

theorem keptVersions_eq {selection : Selection Params} {era : String} {versions : List String}
    (isVersions : eraNanoVersions selection era = .ok versions) :
    keptVersions selection era = versions := by
  rw [keptVersions, isVersions]
  rfl

/-- The branches by version are those of the points that are selected. -/
theorem mem_versionLoops {β : Type} {selection : Selection Params} {branches : List β}
    {branchesOf : String → Point Params × Nat → List String → List β}
    {versionsOf : String → List String} {branch : β}
    (isBranches : branches = selection.prodEras.flatMap fun era =>
      selection.prodPoints.zipIdx.flatMap fun indexed =>
        branchesOf era indexed (versionsOf era)) :
    branch ∈ branches ↔ ∃ era ∈ selection.prodEras, ∃ point index,
      selection.prodPoints[index]? = some point ∧
        branch ∈ branchesOf era (point, index) (versionsOf era) := by
  rw [isBranches]
  simp only [List.mem_flatMap, Prod.exists, List.mem_zipIdx_iff_getElem?]

theorem mem_mergeBranchesOf {filesPerMerge : Nat} {era : String} {indexed : Point Params × Nat}
    {versions : List String} {branch : MergeBranch} :
    branch ∈ mergeBranchesOf filesPerMerge era indexed versions ↔
      branch.era = era ∧ branch.pointIndex = indexed.2 ∧ branch.version ∈ versions ∧
        (branch.group, branch.seeds) ∈ mergeGroups (seedsOf indexed.1 era) filesPerMerge := by
  obtain ⟨branchEra, pointIndex, version, group, seeds⟩ := branch
  simp only [mergeBranchesOf, List.mem_flatMap, List.mem_map, MergeBranch.mk.injEq, Prod.exists]
  constructor
  · rintro ⟨_, versionMem, _, _, groupMem, rfl, rfl, rfl, rfl, rfl⟩
    exact ⟨rfl, rfl, versionMem, groupMem⟩
  · rintro ⟨rfl, rfl, versionMem, groupMem⟩
    exact ⟨version, versionMem, group, seeds, groupMem, rfl, rfl, rfl, rfl, rfl⟩

/-- The branches of a merge, by what each of them is of. -/
theorem mem_nanoMergeBranchMap {selection : Selection Params} {branches : List MergeBranch}
    (built : nanoMergeBranchMap selection = .ok branches) {branch : MergeBranch} :
    branch ∈ branches ↔ branch.era ∈ selection.prodEras ∧
      branch.version ∈ keptVersions selection branch.era ∧
      ∃ point, selection.prodPoints[branch.pointIndex]? = some point ∧
        (branch.group, branch.seeds) ∈
          mergeGroups (seedsOf point branch.era) selection.setup.filesPerMerge := by
  rw [mem_versionLoops (nanoMergeBranchMap_eq built (keptVersions selection)
    fun _ _ => keptVersions_eq)]
  simp only [mem_mergeBranchesOf]
  constructor
  · rintro ⟨_, eraMem, point, _, isPoint, rfl, rfl, versionMem, groupMem⟩
    exact ⟨eraMem, versionMem, point, isPoint, groupMem⟩
  · rintro ⟨eraMem, versionMem, point, isPoint, groupMem⟩
    exact ⟨_, eraMem, point, _, isPoint, rfl, rfl, versionMem, groupMem⟩

/-- The branches of one version among those of a point in an era. -/
theorem filter_mergeBranchesOf (filesPerMerge : Nat) (era : String) (index : Nat)
    (version : String) (other : String) (indexed : Point Params × Nat) (versions : List String) :
    ((mergeBranchesOf filesPerMerge other indexed versions).filter fun branch =>
        branch.era = era ∧ branch.pointIndex = index ∧ branch.version = version).map
        (fun branch => (branch.group, branch.seeds)) =
      if other = era ∧ indexed.2 = index then
        (List.replicate (versions.count version)
          (mergeGroups (seedsOf indexed.1 other) filesPerMerge)).flatten
      else [] := by
  rw [mergeBranchesOf]
  induction versions with
  | nil => simp
  | cons first rest ih =>
      rw [List.flatMap_cons, List.filter_append, List.map_append, ih, List.filter_map,
        List.map_map]
      by_cases place : other = era ∧ indexed.2 = index
      · rcases place with ⟨rfl, rfl⟩
        by_cases same : first = version
        · subst same
          simp [Function.comp_def, List.replicate_succ]
        · simp [Function.comp_def, same]
      · have elsewhere : ∀ group : Nat × List Nat,
            ¬ (other = era ∧ indexed.2 = index ∧ first = version) := by
          rintro group ⟨sameEra, sameIndex, _⟩
          exact place ⟨sameEra, sameIndex⟩
        simp [Function.comp_def, elsewhere (0, []), place]

theorem sublist_of_selectByPattern {α : Type} {values selected : List α} {patterns : List String}
    {option : String} {key : α → String}
    (passed : selectByPattern values patterns option key = .ok selected) :
    selected.Sublist values := by
  rw [selectByPattern] at passed
  split at passed
  · cases passed
    exact List.Sublist.refl values
  · dsimp only at passed
    split at passed
    · cases passed
    · cases passed
      exact List.filter_sublist

/-- A selection works on its setup, and on some of its eras. -/
theorem select_eq_ok {setup : Setup Params} {options : Options} {selection : Selection Params}
    (selected : select setup options = .ok selection) :
    selection.setup = setup ∧ selection.prodEras.Sublist setup.eras := by
  obtain ⟨prodEras, erasOk, rest⟩ := bind_eq_ok selected
  rcases bind_eq_ok rest with ⟨prodPoints, _, isSelection⟩
  cases isSelection
  exact ⟨rfl, sublist_of_selectByPattern erasOk⟩

/-! ## Requirements -/

theorem mem_runprodBranches {eras : List String} {points : List (Point Params)}
    {branch : RunProdBranch} :
    branch ∈ runprodBranches eras points ↔ branch.1 ∈ eras ∧
      ∃ point, points[branch.2.1]? = some point ∧ branch.2.2 ∈ seedsOf point branch.1 := by
  obtain ⟨era, index, seed⟩ := branch
  simp only [runprodBranches, List.mem_flatMap, List.mem_map, List.mem_range, Prod.mk.injEq,
    Prod.exists, List.mem_zipIdx_iff_getElem?, seedsOf, List.mem_range'_1]
  constructor
  · rintro ⟨era, eraMem, point, index, isPoint, job, within, rfl, rfl, rfl⟩
    exact ⟨eraMem, point, isPoint, by omega, by omega⟩
  · rintro ⟨eraMem, point, isPoint, low, high⟩
    exact ⟨era, eraMem, point, index, isPoint, seed - 1, by omega, rfl, rfl, by omega⟩

/-- The branch map of a merge holds, for each of its branches, seeds that
`RunProd` numbers. -/
theorem seeds_of_mem_merges {selection : Selection Params} {merges : List MergeBranch}
    (built : nanoMergeBranchMap selection = .ok merges) {branch : MergeBranch}
    (member : branch ∈ merges) :
    ∀ seed ∈ branch.seeds,
      (branch.era, branch.pointIndex, seed) ∈ runProdBranchMap selection := by
  obtain ⟨eraMem, _, point, isPoint, groupMem⟩ := (mem_nanoMergeBranchMap built).mp member
  intro seed seedMem
  apply mem_runprodBranches.mpr
  constructor
  · exact eraMem
  · apply Exists.intro point
    constructor
    · exact isPoint
    · simp only [mergeGroups, List.mem_map, Prod.mk.injEq] at groupMem
      obtain ⟨_, _, _, slice⟩ := groupMem
      rw [← slice] at seedMem
      exact List.drop_subset _ _ (List.take_subset _ _ seedMem)

/-- Every seed of a merge is found, at its own branch. -/
theorem nanoMergeRequires_ok {selection : Selection Params} {branch : MergeBranch}
    (numbered : ∀ seed ∈ branch.seeds,
      (branch.era, branch.pointIndex, seed) ∈ runProdBranchMap selection) :
    ∃ required, nanoMergeRequires selection branch = .ok required ∧
      required.map Prod.fst = branch.seeds ∧
      ∀ pair ∈ required,
        (runProdBranchMap selection)[pair.2]? = some (branch.era, branch.pointIndex, pair.1) := by
  rw [nanoMergeRequires]
  generalize branch.seeds = seeds at numbered ⊢
  induction seeds with
  | nil => exact ⟨[], rfl, rfl, by simp⟩
  | cons seed rest ih =>
      rcases ih fun other otherMem => numbered other (List.mem_cons_of_mem seed otherMem) with
        ⟨others, restOk, sameSeeds, designates⟩
      obtain ⟨index, located, isBranch⟩ := exists_position (numbered seed List.mem_cons_self)
      apply Exists.intro ((seed, index) :: others)
      constructor
      · have lookup : (runprodIndex selection).get? (branch.era, branch.pointIndex, seed) =
            some index := located
        rw [List.mapM_cons, lookup, restOk]
        rfl
      constructor
      · rw [List.map_cons, sameSeeds]
      · intro pair pairMem
        rcases List.mem_cons.mp pairMem with rfl | later
        · exact isBranch
        · exact designates pair later

/-- A production branch finds its point, the gridpack of its point, and its era;
what is left is the branch map of the premix task. -/
theorem runProdRequires_eq (gridpackName : Point Params → String) {selection : Selection Params}
    {branch : RunProdBranch} (member : branch ∈ runProdBranchMap selection) :
    ∃ point gridpack gridpackPoint cmssw, selection.prodPoints[branch.2.1]? = some point ∧
      (makeGridpackBranches gridpackName selection)[gridpack]? = some gridpackPoint ∧
      gridpackName gridpackPoint = gridpackName point ∧
      (installCmsswBranches selection)[cmssw]? = some branch.1 ∧
      runProdRequires gridpackName selection branch =
        (premixFileListBranches selection).map fun premix =>
          ⟨cmssw, gridpack, premix.idxOf? branch.1⟩ := by
  rcases mem_runprodBranches.mp member with ⟨eraMem, point, isPoint, _⟩
  rcases exists_position (gridpackName_mem gridpackName selection
    (List.mem_of_getElem? isPoint)) with ⟨gridpack, gridpackLocated, isGridpack⟩
  obtain ⟨cmssw, cmsswLocated, isCmssw⟩ := exists_idxOf eraMem
  rw [List.getElem?_map, Option.map_eq_some_iff] at isGridpack
  rcases isGridpack with ⟨gridpackPoint, isGridpackPoint, sameName⟩
  have lookup : (gridpackIndex gridpackName selection).get? (gridpackName point) = some gridpack :=
    gridpackLocated
  have requires : runProdRequires gridpackName selection branch =
      (premixFileListBranches selection).map fun premix =>
        ⟨cmssw, gridpack, premix.idxOf? branch.1⟩ := by
    simp only [runProdRequires, isPoint, lookup, cmsswLocated, found, bind, Except.bind]
    cases premixFileListBranches selection with
    | error error => rfl
    | ok premix =>
        simp only [Except.map]
        by_cases hasPremix : branch.1 ∈ premix
        · obtain ⟨list, listLocated, _⟩ := exists_idxOf hasPremix
          rw [if_pos hasPremix, listLocated]
          rfl
        · rw [if_neg hasPremix, List.idxOf?_eq_none_iff.mpr hasPremix]
          rfl
  exact ⟨point, gridpack, gridpackPoint, cmssw, isPoint, isGridpackPoint, sameName, isCmssw,
    requires⟩

/-- Every requirement of a production branch is found, and is the one of its
point and era. -/
theorem runProdRequires_ok (gridpackName : Point Params → String) {selection : Selection Params}
    {premix : List String} (isPremix : premixFileListBranches selection = .ok premix)
    {branch : RunProdBranch} (member : branch ∈ runProdBranchMap selection) :
    ∃ point required, selection.prodPoints[branch.2.1]? = some point ∧
      runProdRequires gridpackName selection branch = .ok required ∧
      (∃ gridpackPoint,
        (makeGridpackBranches gridpackName selection)[required.gridpack]? = some gridpackPoint ∧
        gridpackName gridpackPoint = gridpackName point) ∧
      (installCmsswBranches selection)[required.cmssw]? = some branch.1 ∧
      match required.premix with
      | none => branch.1 ∉ premix
      | some index => premix[index]? = some branch.1 := by
  obtain ⟨point, gridpack, gridpackPoint, cmssw, isPoint, isGridpackPoint, sameName, isCmssw,
    requires⟩ := runProdRequires_eq gridpackName member
  rw [isPremix] at requires
  have premixRequired : match premix.idxOf? branch.1 with
      | none => branch.1 ∉ premix
      | some index => premix[index]? = some branch.1 := by
    by_cases hasPremix : branch.1 ∈ premix
    · obtain ⟨list, listLocated, isList⟩ := exists_idxOf hasPremix
      rw [listLocated]
      exact isList
    · rw [List.idxOf?_eq_none_iff.mpr hasPremix]
      exact hasPremix
  exact ⟨point, _, isPoint, requires, ⟨gridpackPoint, isGridpackPoint, sameName⟩, isCmssw,
    premixRequired⟩

/-- The lookups of a production branch never fail: its requirements raise only
what the branch map of the premix task raises. -/
theorem error_of_runProdRequires (gridpackName : Point Params → String)
    {selection : Selection Params} {branch : RunProdBranch}
    (member : branch ∈ runProdBranchMap selection) {error : TaskError}
    (raised : runProdRequires gridpackName selection branch = .error error) :
    premixFileListBranches selection = .error error := by
  obtain ⟨_, _, _, _, _, _, _, _, requires⟩ := runProdRequires_eq gridpackName member
  rw [requires] at raised
  cases built : premixFileListBranches selection with
  | error other =>
      rw [built, Except.map, Except.error.injEq] at raised
      rw [raised]
  | ok premix => simp [built, Except.map] at raised

/-! ## The numbering as a whole -/

/-- The numberings of a selection agree: merge groups are the consecutive runs
of the seeds, and every lookup finds the branch of the same data. -/
structure NumberingAgrees (gridpackName : Point Params → String) (selection : Selection Params) :
    Prop where
  groups : ∀ (point : Point Params) era group seeds,
    (group, seeds) ∈ mergeGroups (seedsOf point era) selection.setup.filesPerMerge ↔
      group * selection.setup.filesPerMerge < point.nJobs era ∧
        seeds = List.range' (group * selection.setup.filesPerMerge + 1)
          (min ((group + 1) * selection.setup.filesPerMerge) (point.nJobs era) -
            group * selection.setup.filesPerMerge)
  covered : ∀ (point : Point Params) era, ∀ seed ∈ seedsOf point era,
    ∃! group, group ∈ mergeGroups (seedsOf point era) selection.setup.filesPerMerge ∧
      seed ∈ group.2
  partitioned : ∀ merges, nanoMergeBranchMap selection = .ok merges →
    ∀ era ∈ selection.prodEras, ∀ index point, selection.prodPoints[index]? = some point →
    ∀ versions, eraNanoVersions selection era = .ok versions → ∀ version,
      (merges.filter fun branch =>
          branch.era = era ∧ branch.pointIndex = index ∧ branch.version = version).map
          (fun branch => (branch.group, branch.seeds)) =
        (List.replicate (versions.count version)
          (mergeGroups (seedsOf point era) selection.setup.filesPerMerge)).flatten
  merged : ∀ merges, nanoMergeBranchMap selection = .ok merges → ∀ branch ∈ merges,
    ∃ required, nanoMergeRequires selection branch = .ok required ∧
      required.map Prod.fst = branch.seeds ∧
      ∀ pair ∈ required,
        (runProdBranchMap selection)[pair.2]? = some (branch.era, branch.pointIndex, pair.1)
  produced : ∀ premix, premixFileListBranches selection = .ok premix →
    ∀ branch ∈ runProdBranchMap selection,
    ∃ point required, selection.prodPoints[branch.2.1]? = some point ∧
      runProdRequires gridpackName selection branch = .ok required ∧
      (∃ gridpackPoint,
        (makeGridpackBranches gridpackName selection)[required.gridpack]? = some gridpackPoint ∧
        gridpackName gridpackPoint = gridpackName point) ∧
      (installCmsswBranches selection)[required.cmssw]? = some branch.1 ∧
      match required.premix with
      | none => branch.1 ∉ premix
      | some index => premix[index]? = some branch.1
  lookups : ∀ branch ∈ runProdBranchMap selection, ∀ error,
    runProdRequires gridpackName selection branch = .error error →
      premixFileListBranches selection = .error error

/-- The numberings of every selection of a setup agree. -/
theorem numberingAgrees_of_select (gridpackName : Point Params → String) (setup : Setup Params)
    (options : Options) (selection : Selection Params)
    (selected : select setup options = .ok selection) (erasOnce : setup.eras.Nodup)
    (grouped : 1 ≤ setup.filesPerMerge) : NumberingAgrees gridpackName selection := by
  rcases select_eq_ok selected with ⟨rfl, someEras⟩
  constructor
  case groups => exact fun point era group seeds => mem_mergeGroups grouped
  case covered => exact fun point era seed member => existsUnique_mergeGroup grouped member
  case partitioned =>
    intro merges built era eraMem index point isPoint versions isVersions version
    rw [nanoMergeBranchMap_eq built (keptVersions selection) (fun _ _ => keptVersions_eq),
      List.filter_flatMap, List.map_flatMap]
    rw [flatMap_eq_of_nodup era (someEras.nodup erasOnce) eraMem]
    · rw [List.filter_flatMap, List.map_flatMap,
        flatMap_eq_of_nodup (point, index) _
          (List.mem_zipIdx_iff_getElem?.mpr isPoint)]
      · rw [filter_mergeBranchesOf, if_pos ⟨rfl, rfl⟩, keptVersions_eq isVersions]
      · intro other otherMem different
        rw [filter_mergeBranchesOf, if_neg]
        rintro ⟨_, sameIndex⟩
        rw [List.mem_zipIdx_iff_getElem?, sameIndex, isPoint, Option.some.injEq] at otherMem
        exact different (Prod.ext otherMem.symm sameIndex)
      · apply List.Nodup.of_map Prod.snd
        rw [List.zipIdx_map_snd]
        exact List.nodup_range'
    · intro other _ different
      rw [List.filter_flatMap, List.map_flatMap, List.flatMap_eq_nil_iff]
      intro indexed _
      rw [filter_mergeBranchesOf, if_neg]
      exact fun same => different same.1
  case merged =>
    intro merges built branch member
    exact nanoMergeRequires_ok (seeds_of_mem_merges built member)
  case produced => exact fun premix isPremix branch member => runProdRequires_ok _ isPremix member
  case lookups => exact fun branch member error raised => error_of_runProdRequires _ member raised

/-- Two points of one gridpack, over two eras of which the second one, which
has a premix dataset, is selected. -/
def twoPoints : Setup Unit where
  eras := ["Run3_2022", "Run3_2023"]
  points :=
    [⟨"Radion_M-400", (), Dict.ofList [("Run3_2022", 100), ("Run3_2023", 50)], 20⟩,
      ⟨"Radion_M-800", (), Dict.ofList [("Run3_2023", 70)], 20⟩]
  nanoVersions := .everywhere ["v12", "v15"]
  filesPerMerge := 2
  conditions := ⟨Dict.empty, Dict.empty, Dict.ofList
    [("Run3_2022", ⟨Dict.empty, ["GEN"], Dict.empty⟩),
      ("Run3_2023", ⟨Dict.empty, ["GEN", "DIGI"], Dict.ofList
        [("DIGI", ⟨Dict.ofList [("pileup_input", "dbs:/Neutrino/PREMIX")], none⟩)]⟩)]⟩

theorem numberingAgrees_twoPoints :
    premixFileListBranches ⟨twoPoints, { eras := ["*2023"] }, ["Run3_2023"], twoPoints.points⟩ =
        .ok ["Run3_2023"] ∧
      NumberingAgrees (fun _ => "Radion")
        ⟨twoPoints, { eras := ["*2023"] }, ["Run3_2023"], twoPoints.points⟩ := by
  constructor
  · decide +kernel
  · apply numberingAgrees_of_select _ twoPoints { eras := ["*2023"] }
    · decide +kernel
    · decide +kernel
    · decide +kernel

end DSProd.Tasks
