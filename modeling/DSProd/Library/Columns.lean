import DSProd.Library.Text
import Mathlib.Algebra.Group.Nat.Defs
import Mathlib.Data.List.TakeWhile

/-!
# Lines of columns

A line of columns is a sequence of runs of characters, each of its own kind and
followed by blanks.  When no kind has the blank, a regular expression of such
columns has one way to match, whatever the widths of the columns are.
-/

namespace DSProd.Library.Columns

/-- Some blanks. -/
def blanks (count : ℕ) : List Char :=
  List.replicate count ' '

/-- `X+ +`: a run of characters of a kind, and the blanks after it. -/
def column (ofKind : Char → Bool) (line : List Char) : Option (List Char × List Char) :=
  let run := line.takeWhile ofKind
  match line.dropWhile ofKind with
  | ' ' :: rest => if run = [] then none else some (run, rest.dropWhile (· = ' '))
  | _ => none

/-- A line does not begin with a blank. -/
def NoBlankFirst (line : List Char) : Prop :=
  ∀ rest, line ≠ ' ' :: rest

variable {ofKind : Char → Bool} {run line rest : List Char} {count : ℕ}

theorem dropWhile_blanks (noBlank : NoBlankFirst rest) :
    (blanks count ++ rest).dropWhile (· = ' ') = rest := by
  induction count with
  | zero =>
      cases rest with
      | nil => rfl
      | cons char after =>
          apply List.dropWhile_cons_of_neg
          rw [decide_eq_true_eq]
          rintro rfl
          exact noBlank after rfl
  | succ count ih => exact ih

theorem takeWhile_run (pure : ∀ char ∈ run, ofKind char = true) (noBlank : ofKind ' ' = false) :
    (run ++ ' ' :: rest).takeWhile ofKind = run := by
  rw [List.takeWhile_append_of_pos pure]
  simp [noBlank]

theorem dropWhile_run (pure : ∀ char ∈ run, ofKind char = true) (noBlank : ofKind ' ' = false) :
    (run ++ ' ' :: rest).dropWhile ofKind = ' ' :: rest := by
  rw [List.dropWhile_append_of_pos pure]
  simp [noBlank]

/-- A column is read back, however wide it is. -/
theorem column_append (pure : ∀ char ∈ run, ofKind char = true) (some : run ≠ [])
    (noBlank : ofKind ' ' = false) (after : NoBlankFirst rest) :
    column ofKind (run ++ blanks (count + 1) ++ rest) = .some (run, rest) := by
  have shape : run ++ blanks (count + 1) ++ rest = run ++ ' ' :: (blanks count ++ rest) := by
    simp [blanks, List.replicate_succ]
  rw [shape, column, takeWhile_run pure noBlank, dropWhile_run pure noBlank]
  simp only [if_neg some]
  rw [dropWhile_blanks after]

/-- A run of a kind without the blank does not begin with one. -/
theorem noBlankFirst_append (pure : ∀ char ∈ run, ofKind char = true) (some : run ≠ [])
    (noBlank : ofKind ' ' = false) (rest : List Char) : NoBlankFirst (run ++ rest) := by
  intro other same
  cases run with
  | nil => exact some rfl
  | cons char more =>
      cases same
      rw [pure ' ' List.mem_cons_self] at noBlank
      cases noBlank

/-! ## Numbers -/

/-- The number that some decimal digits write. -/
def number (digits : List Char) : ℕ :=
  Nat.ofDigitChars 10 digits 0

/-- `[0-9]`. -/
def isDigit (char : Char) : Bool :=
  '0' ≤ char && char ≤ '9'

/-- The digits of a number. -/
def digits (value : ℕ) : List Char :=
  Nat.toDigits 10 value

/-- The digits of a number, with zeros before them up to a width. -/
def padded (width value : ℕ) : List Char :=
  List.replicate (width - (digits value).length) '0' ++ digits value

theorem isDigit_of_mem_digits {value : ℕ} {char : Char} (member : char ∈ digits value) :
    isDigit char = true := by
  have digit := Nat.isDigit_of_mem_toDigits (by omega) (by omega) member
  simpa [isDigit, Char.isDigit, Char.le_def] using digit

theorem digits_ne_nil (value : ℕ) : digits value ≠ [] :=
  Nat.toDigits_ne_nil

/-- A number is read back. -/
theorem number_digits (value : ℕ) : number (digits value) = value :=
  Nat.ofDigitChars_ten_toDigits

/-- A column with a number is read back. -/
theorem column_digits (value : ℕ) (after : NoBlankFirst rest) :
    column isDigit (digits value ++ blanks (count + 1) ++ rest) = some (digits value, rest) :=
  column_append (fun _ => isDigit_of_mem_digits) (digits_ne_nil value) (by decide) after

theorem isDigit_of_mem_padded {width value : ℕ} {char : Char}
    (member : char ∈ padded width value) : isDigit char = true := by
  rcases List.mem_append.mp member with zero | digit
  · rw [(List.mem_replicate.mp zero).2]
    decide
  · exact isDigit_of_mem_digits digit

theorem number_padded (width value : ℕ) : number (padded width value) = value := by
  rw [number, padded, Nat.ofDigitChars_append, Nat.ofDigitChars_replicate_zero, Nat.mul_zero]
  exact number_digits value

/-- A number that fits takes up the whole width. -/
theorem length_padded {width value : ℕ} (positive : 0 < width) (fits : value < 10 ^ width) :
    (padded width value).length = width := by
  have short : (digits value).length ≤ width :=
    (Nat.length_toDigits_le_iff (by omega) positive).mpr fits
  rw [padded, List.length_append, List.length_replicate]
  omega

end DSProd.Library.Columns
