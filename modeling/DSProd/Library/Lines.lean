import Mathlib.Data.List.Basic

/-!
# The lines of a text

`splitlines` of a scripting language ends a line at any of the characters that
break one, and takes a carriage return and a newline after it for one break.
What is looked for in lines that are not empty can be looked for between the
breaks.
-/

namespace DSProd.Library.Lines

/-- The characters that end a line. -/
def isLineBreak (char : Char) : Bool :=
  [0x0A, 0x0B, 0x0C, 0x0D, 0x1C, 0x1D, 0x1E, 0x85, 0x2028, 0x2029].contains char.toNat

/-- `str.splitlines`. -/
def splitLines : List Char → List (List Char)
  | [] => []
  | '\r' :: '\n' :: rest => [] :: splitLines rest
  | char :: rest =>
      if isLineBreak char then [] :: splitLines rest
      else
        match splitLines rest with
        | [] => [[char]]
        | line :: more => (char :: line) :: more

/-- Lines and the parts between the breaks: they begin with the same, and go on
with the same but for what is empty. -/
structure Alike (lines parts : List (List Char)) : Prop where
  first : lines.head?.getD [] = parts.head?.getD []
  rest : lines.tail.filter (!·.isEmpty) = parts.tail.filter (!·.isEmpty)
  some : parts ≠ []

theorem Alike.filter {lines parts : List (List Char)} (alike : Alike lines parts) :
    lines.filter (!·.isEmpty) = parts.filter (!·.isEmpty) := by
  obtain ⟨first, rest, some⟩ := alike
  cases parts with
  | nil => exact absurd rfl some
  | cons part others =>
      cases lines with
      | nil =>
          have empty : part = [] := first.symm
          rw [List.filter_cons_of_neg (by simp [empty])]
          exact rest
      | cons line more =>
          have same : line = part := first
          rw [same, List.filter_cons, List.filter_cons]
          exact congrArg (fun kept => if (!part.isEmpty) = true then part :: kept else kept) rest

/-- A break before both. -/
theorem Alike.break {lines parts : List (List Char)} (alike : Alike lines parts) :
    Alike ([] :: lines) ([] :: parts) :=
  ⟨rfl, alike.filter, List.cons_ne_nil _ _⟩

theorem alike_splitLines (text : List Char) :
    Alike (splitLines text) (text.splitOnP isLineBreak) := by
  induction text using splitLines.induct with
  | case1 => exact ⟨rfl, rfl, List.cons_ne_nil _ _⟩
  | case2 rest ih =>
      rw [splitLines, List.splitOnP_cons_eq_if_modifyHead, if_pos (by decide),
        List.splitOnP_cons_eq_if_modifyHead, if_pos (by decide)]
      refine ⟨rfl, ?_, List.cons_ne_nil _ _⟩
      rw [List.tail_cons, List.tail_cons, List.filter_cons_of_neg (by simp)]
      exact ih.filter
  | case3 char rest other isBreak ih =>
      rw [splitLines, if_pos isBreak, List.splitOnP_cons_eq_if_modifyHead, if_pos isBreak]
      · exact ih.break
      · exact other
  | case4 char rest other notBreak none ih =>
      rw [splitLines, if_neg notBreak, List.splitOnP_cons_eq_if_modifyHead, if_neg notBreak, none]
      · rw [none] at ih
        cases parts : rest.splitOnP isLineBreak with
        | nil => exact absurd parts (List.splitOnP_ne_nil _ _)
        | cons part others =>
            rw [parts] at ih
            have empty : part = [] := ih.first.symm
            exact ⟨by rw [empty]; rfl, ih.rest, List.cons_ne_nil _ _⟩
      · exact other
  | case5 char rest other notBreak line more some ih =>
      rw [splitLines, if_neg notBreak, List.splitOnP_cons_eq_if_modifyHead, if_neg notBreak, some]
      · rw [some] at ih
        cases parts : rest.splitOnP isLineBreak with
        | nil => exact absurd parts (List.splitOnP_ne_nil _ _)
        | cons part others =>
            rw [parts] at ih
            have same : line = part := ih.first
            exact ⟨by rw [same]; rfl, ih.rest, List.cons_ne_nil _ _⟩
      · exact other

variable {α : Type*} {find : List Char → Option α}

theorem filterMap_filter_isEmpty (blank : find [] = none) (lines : List (List Char)) :
    (lines.filter (!·.isEmpty)).filterMap find = lines.filterMap find := by
  induction lines with
  | nil => rfl
  | cons line rest ih =>
      cases line with
      | nil =>
          rw [List.filter_cons_of_neg (by simp), ih, List.filterMap_cons_none blank]
      | cons char chars =>
          rw [List.filter_cons_of_pos (by simp), List.filterMap_cons, List.filterMap_cons, ih]

/-- What is looked for in lines that are not empty is looked for between the breaks. -/
theorem filterMap_splitLines (blank : find [] = none) (text : List Char) :
    (splitLines text).filterMap find = (text.splitOnP isLineBreak).filterMap find := by
  rw [← filterMap_filter_isEmpty blank, (alike_splitLines text).filter,
    filterMap_filter_isEmpty blank]

/-- Nothing that is found spans a break. -/
theorem filterMap_splitLines_append (blank : find [] = none) {mark : Char}
    (isBreak : isLineBreak mark = true) (before after : List Char) :
    (splitLines (before ++ mark :: after)).filterMap find =
      (splitLines before).filterMap find ++ (splitLines after).filterMap find := by
  rw [filterMap_splitLines blank, filterMap_splitLines blank, filterMap_splitLines blank,
    List.splitOnP_append_cons _ _ isBreak, List.filterMap_append]

example : splitLines "a\r\n\nb\x0bc\r".toList = ["a", "", "b", "c"].map String.toList := by
  decide

end DSProd.Library.Lines
