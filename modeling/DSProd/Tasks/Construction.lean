import DSProd.Library.Run
import DSProd.Tasks.Numbering
import Mathlib.Data.List.Dedup

/-!
# Constructing tasks

`Task.__init__` of `tasks.py`: the setup that is loaded once per process, the
check of its merge granularity, and the selection of a task.

A construction that finds no setup loaded reads the one it names, keeps it, and
only then checks it, unless the task is a test run.  One that finds a setup
loaded takes it as it is.
-/

namespace DSProd.Tasks

open DSProd.Library

variable {Params : Type}

/-! ## The setup file -/

/-- A setup as it is read, with the points its process enumerates. -/
structure SetupFile (Params : Type) where
  eras : List String
  points : List (Point Params)
  nanoVersions : NanoVersions := .perEra Dict.empty
  eventsPerJob : ℤ
  filesPerMerge : ℤ := 20
  conditions : Conditions
  deriving DecidableEq

/-- What the tasks work with.  Seeds cut into slices of a size that is not
positive give no slice. -/
def SetupFile.setup (file : SetupFile Params) : Setup Params :=
  ⟨file.eras, file.points, file.nanoVersions, file.filesPerMerge.toNat, file.conditions⟩

/-- The events of a merged file: `per_file`. -/
def SetupFile.perFile (file : SetupFile Params) : ℤ :=
  file.eventsPerJob * file.filesPerMerge

/-! ## The check of the merge granularity -/

/-- Why a task cannot be constructed. -/
inductive ConstructionError where
  | unreadable (error : String)
  | resized (wanted : ℤ) (points : List (String × ℤ))
  | divisionByZero
  | incomplete (perFile : ℤ) (samples : List (String × String × ℤ))
  | inconsistentPath (path loaded : String)
  | selection (error : TaskError)
  deriving DecidableEq

/-- `sorted` of pairs. -/
def sortedPairs (pairs : List (String × ℤ)) : List (String × ℤ) :=
  pairs.mergeSort fun first second =>
    first.1 < second.1 || (first.1 == second.1 && first.2 ≤ second.2)

/-- The points that carry a job size of their own: `resized`. -/
def SetupFile.resized (file : SetupFile Params) : List (String × ℤ) :=
  sortedPairs ((file.points.filter fun point => point.eventsPerJob ≠ file.eventsPerJob).map
    fun point => (point.name, point.eventsPerJob)).dedup

/-- The samples that are produced: each point in each era it has events in. -/
def SetupFile.samples (file : SetupFile Params) : List (String × String × ℤ) :=
  file.points.flatMap fun point =>
    ((sortedPairs point.eventsTotal.items).filter fun total => total.2 ≠ 0).map fun total =>
      (point.name, total.1, total.2)

/-- `_validate_merge_granularity`. -/
def SetupFile.validateMergeGranularity (file : SetupFile Params) : Except ConstructionError Unit :=
  let bad := file.samples.filter fun sample => sample.2.2 % file.perFile ≠ 0
  if file.resized ≠ [] then .error (.resized file.eventsPerJob file.resized)
  else if file.perFile = 0 ∧ file.samples ≠ [] then .error .divisionByZero
  else if bad ≠ [] then .error (.incomplete file.perFile bad)
  else .ok ()

/-! ## Construction -/

/-- The setup a process holds: `Task.setup_path`, and what was read there. -/
structure Loaded (Params : Type) where
  path : String
  file : SetupFile Params
  deriving DecidableEq

/-- A construction: the path of its setup, its options, and what reading the
setup gives when it comes to that. -/
structure Attempt (Params : Type) where
  path : String
  options : Options
  reads : Except String (SetupFile Params)

/-- The rest of `Task.__init__`, with a setup loaded. -/
def construct (loaded : Loaded Params) (attempt : Attempt Params) :
    Except ConstructionError (Selection Params) :=
  if attempt.path ≠ loaded.path then .error (.inconsistentPath attempt.path loaded.path)
  else
    match select loaded.file.setup attempt.options with
    | .error error => .error (.selection error)
    | .ok selection => .ok selection

/-- `Task.__init__`: the setup the process holds afterwards, and the task. -/
def Attempt.init (attempt : Attempt Params) (held : Option (Loaded Params)) :
    Option (Loaded Params) × Except ConstructionError (Selection Params) :=
  match held with
  | some loaded => (held, construct loaded attempt)
  | none =>
      match attempt.reads with
      | .error error => (none, .error (.unreadable error))
      | .ok file =>
          let loaded := ⟨attempt.path, file⟩
          let checked :=
            if attempt.options.test = 0 then file.validateMergeGranularity else .ok ()
          -- the setup is held even when its check raises
          (some loaded, do
            checked
            construct loaded attempt)

/-- The setup a process holds after a construction. -/
def step (held : Option (Loaded Params)) (attempt : Attempt Params) : Option (Loaded Params) :=
  (attempt.init held).1

/-! ## The contract of a setup -/

/-- Each point carries the job size of the setup, and each positive total fills
whole merged files. -/
def SetupFile.Contracted (file : SetupFile Params) : Prop :=
  ∀ point ∈ file.points, point.eventsPerJob = file.eventsPerJob ∧
    ∀ total ∈ point.eventsTotal.items, 0 < total.2 → file.perFile ∣ total.2

instance (file : SetupFile Params) : Decidable file.Contracted :=
  inferInstanceAs (Decidable (∀ point ∈ file.points, _))

/-- The merge groups of a point in an era. -/
def SetupFile.groups (file : SetupFile Params) (point : Point Params) (era : String) :
    List (Nat × List Nat) :=
  mergeGroups (seedsOf point era) file.setup.filesPerMerge

/-- The events a group of seeds is produced for. -/
def producedEvents (point : Point Params) (seeds : List Nat) : ℤ :=
  (seeds.map fun _ => point.eventsPerJob).sum

/-- Each merge group is full, and the merged files of a sample add up to it. -/
def SetupFile.Delivers (file : SetupFile Params) : Prop :=
  ∀ point ∈ file.points, ∀ era,
    (∀ group ∈ file.groups point era,
      (group.2.length : ℤ) = file.filesPerMerge ∧
        producedEvents point group.2 = file.perFile) ∧
      (0 < point.nEvents era →
        ((file.groups point era).map fun group => producedEvents point group.2).sum =
          point.nEvents era)

theorem mergeSort_eq_nil_iff {α : Type} {values : List α} {le : α → α → Bool} :
    values.mergeSort le = [] ↔ values = [] := by
  rw [← List.length_eq_zero_iff, List.length_mergeSort, List.length_eq_zero_iff]

theorem mem_samples {file : SetupFile Params} {point : Point Params} {total : String × ℤ}
    (pointMem : point ∈ file.points) (totalMem : total ∈ point.eventsTotal.items)
    (produced : total.2 ≠ 0) : (point.name, total.1, total.2) ∈ file.samples := by
  apply List.mem_flatMap.mpr
  refine ⟨point, pointMem, List.mem_map.mpr ⟨total, ?_, rfl⟩⟩
  rw [List.mem_filter, sortedPairs, List.mem_mergeSort]
  exact ⟨totalMem, decide_eq_true produced⟩

/-- The check accepts only setups that keep the contract. -/
theorem contracted_of_validate {file : SetupFile Params}
    (accepted : file.validateMergeGranularity = .ok ()) : file.Contracted := by
  unfold SetupFile.validateMergeGranularity at accepted
  simp only at accepted
  split at accepted
  · cases accepted
  · rename_i sameSize
    split at accepted
    · cases accepted
    · split at accepted
      · cases accepted
      · rename_i whole
        intro point pointMem
        constructor
        · by_contra resized
          apply sameSize
          rw [SetupFile.resized, sortedPairs, ne_eq, mergeSort_eq_nil_iff]
          apply List.ne_nil_of_mem
          rw [List.mem_dedup]
          exact List.mem_map_of_mem (List.mem_filter.mpr ⟨pointMem, decide_eq_true resized⟩)
        · intro total totalMem produced
          have sample := mem_samples pointMem totalMem produced.ne'
          rw [not_not, List.filter_eq_nil_iff] at whole
          apply Int.dvd_of_emod_eq_zero
          simpa using whole _ sample

/-! ## Full groups -/

theorem mem_items_of_nEvents {point : Point Params} {era : String}
    (produced : 0 < point.nEvents era) : (era, point.nEvents era) ∈ point.eventsTotal.items := by
  unfold Point.nEvents Dict.getD at produced ⊢
  cases known : point.eventsTotal.get? era with
  | none =>
      rw [known] at produced
      exact absurd produced (lt_irrefl _)
  | some total => exact Dict.get?_eq_some_iff.mp known

/-- A whole number of groups of seeds are all full. -/
theorem mergeGroups_of_multiple {filesPerMerge : Nat} (groups : Nat)
    (positive : 0 < filesPerMerge) :
    (mergeGroups (List.range' 1 (groups * filesPerMerge)) filesPerMerge).length = groups ∧
      ∀ group ∈ mergeGroups (List.range' 1 (groups * filesPerMerge)) filesPerMerge,
        group.2.length = filesPerMerge := by
  constructor
  · rw [mergeGroups, List.length_map, List.length_range, List.length_range', Nat.add_sub_assoc
      positive, Nat.add_comm, Nat.add_mul_div_right _ _ positive,
      Nat.div_eq_of_lt (Nat.sub_lt positive Nat.one_pos), Nat.zero_add]
  · rintro ⟨group, seeds⟩ member
    obtain ⟨within, rfl⟩ := (mem_mergeGroups positive).mp member
    have less : group < groups := Nat.lt_of_mul_lt_mul_right within
    have whole : (group + 1) * filesPerMerge ≤ groups * filesPerMerge :=
      Nat.mul_le_mul_right _ less
    rw [List.length_range', min_eq_left whole, Nat.succ_mul, Nat.add_sub_cancel_left]

theorem producedEvents_eq (point : Point Params) (seeds : List Nat) :
    producedEvents point seeds = seeds.length * point.eventsPerJob := by
  rw [producedEvents, List.map_const', List.sum_replicate, nsmul_eq_mul]

/-- Without seeds, or without a size, there are no groups. -/
theorem groups_eq_nil {file : SetupFile Params} {point : Point Params} {era : String}
    (empty : point.nJobs era = 0 ∨ file.filesPerMerge ≤ 0) : file.groups point era = [] := by
  have count : (point.nJobs era + file.filesPerMerge.toNat - 1) / file.filesPerMerge.toNat = 0 := by
    rcases empty with none | negative
    · rw [none, Nat.zero_add]
      by_cases zero : file.filesPerMerge.toNat = 0
      · rw [zero, Nat.div_zero]
      · exact Nat.div_eq_of_lt (Nat.sub_lt (Nat.pos_of_ne_zero zero) Nat.one_pos)
    · rw [Int.toNat_of_nonpos negative, Nat.div_zero]
  rw [SetupFile.groups, mergeGroups, seedsOf, List.length_range', SetupFile.setup, count]
  rfl

/-- A point whose total fills a number of merged files. -/
theorem groups_of_files {file : SetupFile Params} {point : Point Params} {era : String}
    {size files : Nat} (sameSize : point.eventsPerJob = file.eventsPerJob)
    (jobPositive : 0 < file.eventsPerJob) (sizeEq : file.filesPerMerge = size)
    (sizePositive : 0 < size) (total : point.nEvents era = file.perFile * files) :
    (file.groups point era).length = files ∧
      ∀ group ∈ file.groups point era, (group.2.length : ℤ) = file.filesPerMerge ∧
        producedEvents point group.2 = file.perFile := by
  have jobs : point.nJobs era = files * size := by
    apply nJobs_of_multiple
    · rw [sameSize]
      exact jobPositive
    · rw [total, SetupFile.perFile, sizeEq, sameSize, Nat.cast_mul]
      ring
  have toNatEq : file.setup.filesPerMerge = size := by
    rw [SetupFile.setup, sizeEq, Int.toNat_natCast]
  have full := mergeGroups_of_multiple files sizePositive
  rw [SetupFile.groups, seedsOf, jobs, toNatEq]
  constructor
  · exact full.1
  · intro group member
    have length := full.2 group member
    rw [producedEvents_eq, length, sizeEq, SetupFile.perFile, sizeEq, sameSize]
    exact ⟨rfl, mul_comm _ _⟩

/-- A setup that keeps the contract with positive sizes delivers whole files. -/
theorem SetupFile.Contracted.delivers {file : SetupFile Params} (contracted : file.Contracted)
    (jobPositive : 0 < file.eventsPerJob) (mergePositive : 0 < file.filesPerMerge) :
    file.Delivers := by
  intro point pointMem era
  obtain ⟨sameSize, multiples⟩ := contracted point pointMem
  have sizeEq : file.filesPerMerge = file.filesPerMerge.toNat :=
    (Int.toNat_of_nonneg mergePositive.le).symm
  have sizePositive : 0 < file.filesPerMerge.toNat := by omega
  by_cases produced : 0 < point.nEvents era
  · obtain ⟨quotient, total⟩ := multiples _ (mem_items_of_nEvents produced) produced
    have perFilePositive : 0 < file.perFile := mul_pos jobPositive mergePositive
    have quotientPositive : 0 < quotient :=
      pos_of_mul_pos_right (produced.trans_eq total) perFilePositive.le
    have filesEq : quotient = quotient.toNat := (Int.toNat_of_nonneg quotientPositive.le).symm
    have total : point.nEvents era = file.perFile * quotient.toNat := by
      rw [← filesEq]
      exact total
    have full := groups_of_files sameSize jobPositive sizeEq sizePositive total
    refine ⟨full.2, fun _ => ?_⟩
    have constant : ((file.groups point era).map fun group => producedEvents point group.2) =
        (file.groups point era).map fun _ => file.perFile :=
      List.map_congr_left fun group member => (full.2 group member).2
    rw [constant, List.map_const', List.sum_replicate, full.1, nsmul_eq_mul, total, mul_comm]
  · have none : point.nJobs era = 0 := if_pos (Or.inl (not_lt.mp produced))
    rw [groups_eq_nil (Or.inl none)]
    exact ⟨fun group member => absurd member List.not_mem_nil, fun some => absurd some produced⟩

/-- Whole files of a sample that is produced have positive sizes. -/
theorem SetupFile.Delivers.positive {file : SetupFile Params} (delivers : file.Delivers)
    (contracted : file.Contracted) {point : Point Params} (pointMem : point ∈ file.points)
    {era : String} (produced : 0 < point.nEvents era) :
    0 < file.eventsPerJob ∧ 0 < file.filesPerMerge := by
  have someGroup : file.groups point era ≠ [] := by
    intro none
    have sum := (delivers point pointMem era).2 produced
    rw [none] at sum
    exact produced.ne sum
  constructor
  · by_contra negative
    apply someGroup
    apply groups_eq_nil
    left
    apply if_pos
    right
    rw [(contracted point pointMem).1]
    exact not_lt.mp negative
  · by_contra negative
    exact someGroup (groups_eq_nil (Or.inr (not_lt.mp negative)))

/-! ## Constructions of a process -/

/-- A selection has a point that is produced. -/
theorem exists_produced {setup : Setup Params} {options : Options} {selection : Selection Params}
    (selected : select setup options = .ok selection) :
    ∃ point ∈ setup.points, ∃ era, 0 < point.nEvents era := by
  obtain ⟨prodEras, _, rest⟩ := bind_eq_ok selected
  obtain ⟨prodPoints, pointsOk, _⟩ := bind_eq_ok rest
  obtain ⟨matching, matchingOk, producing⟩ := bind_eq_ok pointsOk
  simp only at producing
  split at producing
  · cases producing
  · rename_i some
    obtain ⟨point, member⟩ := List.exists_mem_of_ne_nil _ some
    obtain ⟨matched, produced⟩ := List.mem_filter.mp member
    obtain ⟨era, _, positive⟩ := List.any_eq_true.mp produced
    exact ⟨point, (sublist_of_selectByPattern matchingOk).subset matched, era,
      of_decide_eq_true positive⟩

/-- What is promised of a construction: a task that is constructed for a full
production belongs to a setup that keeps the contract and delivers whole files. -/
def Promised (held : Option (Loaded Params)) (attempt : Attempt Params) : Prop :=
  attempt.options.test = 0 →
    ∀ loaded selection, attempt.init held = (some loaded, .ok selection) →
      loaded.file.Contracted ∧ loaded.file.Delivers

/-- The sizes of a setup are positive. -/
def SetupFile.Sized (file : SetupFile Params) : Prop :=
  0 < file.eventsPerJob ∧ 0 < file.filesPerMerge

/-- A construction for a full production that finds a setup loaded, and names
and selects of it what is there, finds one that keeps the contract; and the
setup it works on has positive sizes. -/
def Sound (held : Option (Loaded Params)) (attempt : Attempt Params) : Prop :=
  attempt.options.test = 0 →
    match held with
    | some loaded =>
        attempt.path = loaded.path → (select loaded.file.setup attempt.options).isOk →
          loaded.file.Contracted ∧ loaded.file.Sized
    | none =>
        ∀ file, attempt.reads = .ok file → file.validateMergeGranularity = .ok () →
          (select file.setup attempt.options).isOk → file.Sized

/-- A construction with a setup loaded succeeds on its path and its selection. -/
theorem construct_ok_iff {loaded : Loaded Params} {attempt : Attempt Params}
    {selection : Selection Params} :
    construct loaded attempt = .ok selection ↔
      attempt.path = loaded.path ∧ select loaded.file.setup attempt.options = .ok selection := by
  unfold construct
  by_cases same : attempt.path = loaded.path
  · rw [if_neg (not_not_intro same)]
    cases select loaded.file.setup attempt.options with
    | error error => simp
    | ok selection => simp [same]
  · rw [if_pos same]
    simp [same]

/-- A setup that keeps the contract, and of which something is selected, delivers
whole files exactly when its sizes are positive. -/
theorem delivers_iff_sized {file : SetupFile Params} {options : Options}
    {selection : Selection Params} (contracted : file.Contracted)
    (selected : select file.setup options = .ok selection) : file.Delivers ↔ file.Sized := by
  constructor
  · intro delivers
    obtain ⟨point, pointMem, era, produced⟩ := exists_produced selected
    exact delivers.positive contracted pointMem produced
  · exact fun sized => contracted.delivers sized.1 sized.2

theorem isOk_iff {α : Type} {ε : Type} {result : Except ε α} :
    result.isOk ↔ ∃ value, result = .ok value := by
  cases result with
  | error error => simp [Except.isOk, Except.toBool]
  | ok value => simp [Except.isOk, Except.toBool]

/-- A construction for a full production that loads its setup succeeds on a
setup the check accepts, and on its selection. -/
theorem init_none_ok_iff {attempt : Attempt Params} (full : attempt.options.test = 0)
    {loaded : Loaded Params} {selection : Selection Params} :
    attempt.init none = (some loaded, .ok selection) ↔
      attempt.reads = .ok loaded.file ∧ loaded.path = attempt.path ∧
        loaded.file.validateMergeGranularity = .ok () ∧
        select loaded.file.setup attempt.options = .ok selection := by
  unfold Attempt.init
  cases reads : attempt.reads with
  | error error => simp
  | ok file =>
      simp only [if_pos full, Prod.mk.injEq, Option.some.injEq, Except.ok.injEq]
      constructor
      · rintro ⟨rfl, constructed⟩
        obtain ⟨_, accepted, rest⟩ := bind_eq_ok constructed
        exact ⟨rfl, rfl, accepted, (construct_ok_iff.mp rest).2⟩
      · rintro ⟨rfl, samePath, accepted, selected⟩
        refine ⟨by rw [← samePath], ?_⟩
        rw [accepted]
        exact construct_ok_iff.mpr ⟨rfl, selected⟩

/-- A construction keeps its promise exactly when it is sound. -/
theorem promised_iff_sound (held : Option (Loaded Params)) (attempt : Attempt Params) :
    Promised held attempt ↔ Sound held attempt := by
  apply imp_congr_right
  intro full
  cases held with
  | some loaded =>
      constructor
      · intro promised samePath selects
        obtain ⟨selection, selected⟩ := isOk_iff.mp selects
        have constructed := construct_ok_iff.mpr ⟨samePath, selected⟩
        obtain ⟨contracted, delivers⟩ := promised loaded selection (Prod.ext rfl constructed)
        exact ⟨contracted, (delivers_iff_sized contracted selected).mp delivers⟩
      · intro sound other selection constructed
        cases congrArg Prod.fst constructed
        obtain ⟨samePath, selected⟩ := construct_ok_iff.mp (congrArg Prod.snd constructed)
        obtain ⟨contracted, sized⟩ := sound samePath (isOk_iff.mpr ⟨selection, selected⟩)
        exact ⟨contracted, (delivers_iff_sized contracted selected).mpr sized⟩
  | none =>
      constructor
      · intro promised file reads accepted selects
        obtain ⟨selection, selected⟩ := isOk_iff.mp selects
        obtain ⟨contracted, delivers⟩ := promised ⟨attempt.path, file⟩ selection
          ((init_none_ok_iff full).mpr ⟨reads, rfl, accepted, selected⟩)
        exact (delivers_iff_sized contracted selected).mp delivers
      · intro sound loaded selection constructed
        obtain ⟨reads, _, accepted, selected⟩ := (init_none_ok_iff full).mp constructed
        have sized := sound loaded.file reads accepted (isOk_iff.mpr ⟨selection, selected⟩)
        have contracted := contracted_of_validate accepted
        exact ⟨contracted, (delivers_iff_sized contracted selected).mpr sized⟩

/-- A setup that is loaded stays loaded. -/
theorem run_step_some (loaded : Loaded Params) (attempts : List (Attempt Params)) :
    run step (some loaded) attempts = some loaded := by
  induction attempts with
  | nil => rfl
  | cons attempt rest ih => exact ih

/-- The construction that loaded the setup a process holds. -/
theorem exists_load {attempts : List (Attempt Params)} {loaded : Loaded Params}
    (held : run step none attempts = some loaded) :
    ∃ before attempt after, attempts = before ++ attempt :: after ∧
      run step none before = none ∧ step none attempt = some loaded := by
  induction attempts with
  | nil => cases held
  | cons first rest ih =>
      cases loads : step none first with
      | some other =>
          rw [run_cons, loads, run_step_some] at held
          cases held
          exact ⟨[], first, rest, rfl, rfl, loads⟩
      | none =>
          rw [run_cons, loads] at held
          obtain ⟨before, attempt, after, rfl, empty, now⟩ := ih held
          refine ⟨first :: before, attempt, after, rfl, ?_, now⟩
          rw [run_cons, loads, empty]

/-- A setup a process holds against the contract was loaded by a construction
of a test run, or by one that raised. -/
theorem held_unchecked {attempts : List (Attempt Params)} {loaded : Loaded Params}
    (held : run step none attempts = some loaded) (broken : ¬loaded.file.Contracted) :
    ∃ before attempt after, attempts = before ++ attempt :: after ∧
      run step none before = none ∧ step none attempt = some loaded ∧
      (attempt.options.test ≠ 0 ∨ ∃ error, (attempt.init none).2 = .error error) := by
  obtain ⟨before, attempt, after, cut, empty, loads⟩ := exists_load held
  refine ⟨before, attempt, after, cut, empty, loads, ?_⟩
  by_contra! checked
  obtain ⟨full, noError⟩ := checked
  cases constructed : (attempt.init none).2 with
  | error error => exact noError error constructed
  | ok selection =>
      obtain ⟨_, _, accepted, _⟩ := (init_none_ok_iff full).mp (Prod.ext loads constructed)
      exact broken (contracted_of_validate accepted)

/-- In a process, the constructions for a full production all get a setup that
keeps the contract and delivers whole files exactly when each of them is sound. -/
theorem promised_iff_along (attempts : List (Attempt Params)) :
    Along step Promised none attempts ↔ Along step Sound none attempts :=
  along_congr promised_iff_sound

/-- A setup whose sample is two merged files and a part of one. -/
def unevenFile : SetupFile Unit where
  eras := ["Run3_2023"]
  points := [⟨"Radion_M-250", (), Dict.ofList [("Run3_2023", 120000)], 1000⟩]
  eventsPerJob := 1000
  filesPerMerge := 50
  conditions := ⟨Dict.empty, Dict.empty, Dict.empty⟩

/-- A construction on it. -/
def unevenAttempt (test : ℤ) : Attempt Unit :=
  ⟨"setups/uneven.yaml", { test }, .ok unevenFile⟩

/-- A test run loads the setup, and the full production after it is constructed. -/
theorem not_promised_afterTest :
    ¬Along step Promised none [unevenAttempt 1, unevenAttempt 0] := by
  intro along
  obtain ⟨contracted, _⟩ := along.2.1 rfl ⟨"setups/uneven.yaml", unevenFile⟩
    ⟨unevenFile.setup, {}, ["Run3_2023"], unevenFile.points⟩ rfl
  exact absurd contracted (by decide)

/-- The same full production is refused when it comes first, and constructed
when it is repeated. -/
example :
    ((unevenAttempt 0).init none).2 =
        .error (.incomplete 50000 [("Radion_M-250", "Run3_2023", 120000)]) ∧
      ((unevenAttempt 0).init ((unevenAttempt 0).init none).1).2.isOk = true := by
  decide +kernel

end DSProd.Tasks
