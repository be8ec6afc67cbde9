import DSProd.Tasks.Workflows
import Mathlib.Data.List.Induction

/-!
# What a directory name tells

`store_parts` appends a part for each list of patterns that is given, and the
size of a test.  Six digits end each part, so a name can be read from its end
as long as it is known whether a test size ends it: it tells the patterns, in
order, but not whether they were patterns of eras or of points, and nothing of
the versions.
-/

namespace DSProd.Tasks

open DSProd.Library

variable {isWord : Char → Bool} {sha6 : String → String} {task : TaskClass}
  {first second : Options} {setupName : String}

/-! ## The name of the setup -/

theorem appendPatterns_append (before name : String) (patterns : List String) :
    appendPatterns isWord sha6 (before ++ name) patterns =
      before ++ appendPatterns isWord sha6 name patterns := by
  rw [appendPatterns, appendPatterns]
  split
  · rfl
  · simp only [String.append_assoc]

/-- The directory of a run begins with the name of its setup. -/
theorem storeParts_eq_append (setupName : String) (options : Options) :
    storeParts isWord sha6 task setupName options =
      (task.name, setupName ++ (storeParts isWord sha6 task "" options).2) := by
  have patterns : [options.eras, options.points].foldl (appendPatterns isWord sha6) setupName =
      setupName ++ [options.eras, options.points].foldl (appendPatterns isWord sha6) "" := by
    simp only [List.foldl_cons, List.foldl_nil, ← appendPatterns_append, String.append_empty]
  rw [storeParts, storeParts, patterns]
  dsimp only
  split
  · simp only [String.append_assoc]
  · rfl

/-- Whether two choices share a directory does not depend on their setup. -/
theorem storeParts_congr {setupName : String} (otherName : String)
    (shared : storeParts isWord sha6 task setupName first =
      storeParts isWord sha6 task setupName second) :
    storeParts isWord sha6 task otherName first = storeParts isWord sha6 task otherName second := by
  rw [storeParts_eq_append setupName first, storeParts_eq_append setupName second,
    Prod.mk.injEq] at shared
  have same := (String.append_right_inj setupName).mp shared.2
  rw [storeParts_eq_append otherName first, storeParts_eq_append otherName second, same]

/-! ## The size of a test -/

/-- The tests of runs that share a directory are of one size. -/
theorem test_eq_of_storeParts
    (shared : storeParts isWord sha6 task setupName first =
      storeParts isWord sha6 task setupName second)
    (tested : 0 < first.test) (otherTested : 0 < second.test) : first.test = second.test := by
  have ended : ∀ options : Options, 0 < options.test → ∃ before : List Char,
      (storeParts isWord sha6 task setupName options).2.toList =
        before ++ 't' :: (options.test.toNat.repr).toList := by
    intro options positive
    obtain ⟨number, isNumber⟩ := Int.eq_ofNat_of_zero_le positive.le
    have written : toString options.test = options.test.toNat.repr := by
      rw [isNumber]
      rfl
    refine ⟨([options.eras, options.points].foldl (appendPatterns isWord sha6)
      setupName).toList ++ "_tes".toList, ?_⟩
    rw [storeParts, if_pos positive, written, String.toList_append, String.toList_append]
    simp
  obtain ⟨before, isBefore⟩ := ended first tested
  obtain ⟨otherBefore, isOtherBefore⟩ := ended second otherTested
  rw [shared, isOtherBefore] at isBefore
  have same := Text.number_eq_of_append_eq (by decide) isBefore
  omega

/-! ## The patterns -/

/-- What six digits have to do for two choices: no two of the lists of patterns
that are given share them. -/
structure TellsApart (sha6 : String → String) (first second : Options) : Prop where
  six : ∀ text, (sha6 text).length = 6
  apart : ∀ patterns ∈ [first.eras, first.points], ∀ others ∈ [second.eras, second.points],
    patterns ≠ [] → others ≠ [] → sha6 (joinedPatterns patterns) = sha6 (joinedPatterns others) →
      joinedPatterns patterns = joinedPatterns others

/-- A separator that is not kept leaves no trace. -/
theorem filter_intercalate {α : Type} {keep : α → Bool} {separator : α}
    (dropped : keep separator = false) (texts : List (List α)) :
    ([separator].intercalate texts).filter keep = texts.flatten.filter keep := by
  induction texts with
  | nil => rfl
  | cons text rest ih =>
      cases rest with
      | nil => simp [List.intercalate_singleton]
      | cons next others =>
          rw [List.intercalate_cons_cons, List.filter_append, List.filter_append, ih,
            @List.flatten_cons _ text, List.filter_append]
          simp [dropped]

/-- The readable part of a name, from the joined patterns. -/
theorem slug_eq (comma : isWord ',' = false) (patterns : List String) :
    slug isWord patterns =
      Text.take 24 (String.ofList ((joinedPatterns patterns).toList.filter isWord)) := by
  have words : (joinedPatterns patterns).toList.filter isWord =
      (String.join (sortedTexts patterns)).toList.filter isWord := by
    rw [joinedPatterns, String.toList_intercalate, String.toList_join]
    exact (filter_intercalate comma _).trans (congrArg _ (List.flatMap_def ..).symm)
  rw [slug, words]

/-- The part of a name that a list of patterns makes. -/
def patternsPart (isWord : Char → Bool) (sha6 : String → String) (patterns : List String) :
    List Char :=
  '_' :: (slug isWord patterns).toList ++ (sha6 (joinedPatterns patterns)).toList

/-- The name of a run without its test size. -/
theorem toList_foldl_appendPatterns (name : String) (given : List (List String)) :
    (given.foldl (appendPatterns isWord sha6) name).toList =
      name.toList ++ (given.filter fun patterns => patterns ≠ []).flatMap
        (patternsPart isWord sha6) := by
  induction given generalizing name with
  | nil => simp
  | cons patterns rest ih =>
      rw [List.foldl_cons, ih, appendPatterns]
      by_cases none : patterns = []
      · simp [none]
      · simp [none, patternsPart]

/-- Parts that are read from the end tell the patterns they were made of. -/
theorem joined_eq_of_parts (comma : isWord ',' = false)
    (six : ∀ text, (sha6 text).length = 6) {given others : List (List String)}
    (apart : ∀ patterns ∈ given, ∀ other ∈ others,
      sha6 (joinedPatterns patterns) = sha6 (joinedPatterns other) →
        joinedPatterns patterns = joinedPatterns other)
    (same : given.flatMap (patternsPart isWord sha6) =
      others.flatMap (patternsPart isWord sha6)) :
    given.map joinedPatterns = others.map joinedPatterns := by
  induction given using List.reverseRecOn generalizing others with
  | nil =>
      rcases List.eq_nil_or_concat others with rfl | ⟨before, other, rfl⟩
      · rfl
      · simp [patternsPart] at same
  | append_singleton rest patterns ih =>
      rcases List.eq_nil_or_concat others with rfl | ⟨before, other, rfl⟩
      · simp [patternsPart] at same
      · rw [List.concat_eq_append] at same apart ⊢
        simp only [List.flatMap_append, List.flatMap_singleton, patternsPart,
          ← List.append_assoc] at same
        obtain ⟨sameBefore, sameDigits⟩ := List.append_inj' same
          (by simp only [String.length_toList, six])
        have sameJoined : joinedPatterns patterns = joinedPatterns other :=
          apart patterns (by simp) other (by simp) (String.toList_injective sameDigits)
        rw [slug_eq comma patterns, slug_eq comma other, sameJoined] at sameBefore
        have sameRest := ih (fun some member next nextMember =>
          apart some (List.mem_append_left _ member) next (List.mem_append_left _ nextMember))
          (List.append_cancel_right sameBefore)
        rw [List.map_append, List.map_append, sameRest, List.map_singleton, List.map_singleton,
          sameJoined]

/-- The name of a run tells the patterns it was given, when it is known whether
the run is a test. -/
theorem joined_eq_of_storeParts (comma : isWord ',' = false)
    (apart : TellsApart sha6 first second) (test : 0 < first.test ↔ 0 < second.test)
    (shared : storeParts isWord sha6 task setupName first =
      storeParts isWord sha6 task setupName second) :
    ([first.eras, first.points].filter fun patterns => patterns ≠ []).map joinedPatterns =
      ([second.eras, second.points].filter fun patterns => patterns ≠ []).map joinedPatterns := by
  apply joined_eq_of_parts comma apart.six
  · intro patterns member other otherMember
    obtain ⟨given, isGiven⟩ := List.mem_filter.mp member
    obtain ⟨otherGiven, isOtherGiven⟩ := List.mem_filter.mp otherMember
    exact apart.apart patterns given other otherGiven (of_decide_eq_true isGiven)
      (of_decide_eq_true isOtherGiven)
  · have names : [first.eras, first.points].foldl (appendPatterns isWord sha6) setupName =
        [second.eras, second.points].foldl (appendPatterns isWord sha6) setupName := by
      have same := congrArg Prod.snd shared
      by_cases tested : 0 < first.test
      · rw [storeParts, storeParts, if_pos tested, if_pos (test.mp tested),
          test_eq_of_storeParts shared tested (test.mp tested)] at same
        exact (String.append_left_inj _).mp ((String.append_left_inj _).mp same)
      · rw [storeParts, storeParts, if_neg tested, if_neg fun other => tested (test.mpr other)]
          at same
        exact same
    have parts := congrArg String.toList names
    rw [toList_foldl_appendPatterns, toList_foldl_appendPatterns] at parts
    exact List.append_cancel_left parts

/-- Patterns without commas are told by what they are joined to. -/
theorem selects_iff_of_joined {patterns others : List String} (given : patterns ≠ [])
    (otherGiven : others ≠ []) (commas : ∀ pattern ∈ patterns, ',' ∉ pattern.toList)
    (otherCommas : ∀ pattern ∈ others, ',' ∉ pattern.toList)
    (same : joinedPatterns patterns = joinedPatterns others) (name : String) :
    Selects patterns name ↔ Selects others name := by
  have split : ∀ patterns : List String, patterns ≠ [] →
      (∀ pattern ∈ patterns, ',' ∉ pattern.toList) →
      (joinedPatterns patterns).toList.splitOn ',' = (sortedTexts patterns).map String.toList := by
    intro patterns given commas
    rw [joinedPatterns, String.toList_intercalate]
    apply List.splitOn_intercalate
    · intro text member
      obtain ⟨pattern, inPatterns, rfl⟩ := List.mem_map.mp member
      exact commas pattern (List.mem_mergeSort.mp inPatterns)
    · intro none
      have unsorted : (sortedTexts patterns).length = patterns.length :=
        List.length_mergeSort patterns
      rw [List.map_eq_nil_iff.mp none, List.length_nil] at unsorted
      exact given (List.length_eq_zero_iff.mp unsorted.symm)
  have sorted : sortedTexts patterns = sortedTexts others := by
    apply List.map_injective_iff.mpr fun _ _ => String.toList_injective
    rw [← split patterns given commas, ← split others otherGiven otherCommas, same]
  have members : ∀ pattern, pattern ∈ patterns ↔ pattern ∈ others := by
    intro pattern
    have sortedMem : ∀ texts : List String, pattern ∈ sortedTexts texts ↔ pattern ∈ texts :=
      fun _ => List.mem_mergeSort
    rw [← sortedMem patterns, sorted, sortedMem]
  simp only [Selects, given, otherGiven, false_or, List.any_eq_true, members]

/-- Choices that give patterns of the same kinds, none of them with a comma. -/
structure SameKinds (first second : Options) : Prop where
  eras : first.eras = [] ↔ second.eras = []
  points : first.points = [] ↔ second.points = []
  test : 0 < first.test ↔ 0 < second.test
  commas : ∀ pattern ∈ first.eras ++ first.points ++ second.eras ++ second.points,
    ',' ∉ pattern.toList

/-- Choices with patterns of the same kinds that share a directory select the
same eras and points. -/
theorem selects_of_storeParts (comma : isWord ',' = false) (apart : TellsApart sha6 first second)
    (kinds : SameKinds first second)
    (shared : storeParts isWord sha6 task setupName first =
      storeParts isWord sha6 task setupName second) :
    (∀ name, Selects first.eras name ↔ Selects second.eras name) ∧
      ∀ name, Selects first.points name ↔ Selects second.points name := by
  have joined := joined_eq_of_storeParts comma apart kinds.test shared
  have commas := kinds.commas
  simp only [List.mem_append] at commas
  have ofJoined : ∀ patterns others : List String, (patterns = [] ↔ others = []) →
      (∀ pattern ∈ patterns, ',' ∉ pattern.toList) → (∀ pattern ∈ others, ',' ∉ pattern.toList) →
      (patterns ≠ [] → joinedPatterns patterns = joinedPatterns others) →
      ∀ name, Selects patterns name ↔ Selects others name := by
    intro patterns others same commas otherCommas joined name
    by_cases none : patterns = []
    · rw [none, same.mp none]
    · exact selects_iff_of_joined none (fun noOthers => none (same.mpr noOthers)) commas
        otherCommas (joined none) name
  have otherEras : first.eras ≠ [] → second.eras ≠ [] := mt kinds.eras.mpr
  have otherPoints : first.points ≠ [] → second.points ≠ [] := mt kinds.points.mpr
  have told : (first.eras ≠ [] → joinedPatterns first.eras = joinedPatterns second.eras) ∧
      (first.points ≠ [] → joinedPatterns first.points = joinedPatterns second.points) := by
    by_cases noEras : first.eras = []
    · by_cases noPoints : first.points = []
      · exact ⟨absurd noEras, absurd noPoints⟩
      · simp [noEras, kinds.eras.mp noEras, noPoints, otherPoints noPoints] at joined
        exact ⟨absurd noEras, fun _ => joined⟩
    · by_cases noPoints : first.points = []
      · simp [noEras, otherEras noEras, noPoints, kinds.points.mp noPoints] at joined
        exact ⟨fun _ => joined, absurd noPoints⟩
      · simp [noEras, otherEras noEras, noPoints, otherPoints noPoints] at joined
        exact ⟨fun _ => joined.1, fun _ => joined.2⟩
  constructor
  · exact ofJoined first.eras second.eras kinds.eras
      (fun pattern member => commas pattern (by tauto))
      (fun pattern member => commas pattern (by tauto)) told.1
  · exact ofJoined first.points second.points kinds.points
      (fun pattern member => commas pattern (by tauto))
      (fun pattern member => commas pattern (by tauto)) told.2

end DSProd.Tasks
