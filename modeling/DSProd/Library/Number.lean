import Mathlib.Algebra.Order.Field.Rat
import Mathlib.Tactic.Common

/-!
# Numbers with infinities and a value that is no number

The floating-point numbers of a scripting language without their rounding: the
rationals, two infinities, and a `nan` that every comparison rejects.  `max`
and `min` keep their first argument unless the second one is strictly better,
so they pass a `nan` on or drop it depending on where it stands.
-/

namespace DSProd.Library

/-- A number as `float` makes it, rounding aside. -/
inductive Number where
  | finite (value : ℚ)
  | posInf
  | negInf
  | nan
  deriving DecidableEq

namespace Number

/-- `first < second`. -/
def lt : Number → Number → Bool
  | .nan, _ => false
  | _, .nan => false
  | .finite first, .finite second => first < second
  | .negInf, second => second ≠ .negInf
  | _, .negInf => false
  | first, .posInf => first ≠ .posInf
  | .posInf, .finite _ => false

/-- `first <= second`. -/
def le (first second : Number) : Bool :=
  first.lt second || (first = second && first ≠ .nan)

/-- `max(first, second)`. -/
def max (first second : Number) : Number :=
  if first.lt second then second else first

/-- `min(first, second)`. -/
def min (first second : Number) : Number :=
  if second.lt first then second else first

@[simp]
theorem lt_finite (first second : ℚ) :
    (finite first).lt (finite second) = decide (first < second) :=
  rfl

@[simp]
theorem le_finite (first second : ℚ) :
    (finite first).le (finite second) = decide (first ≤ second) := by
  simp only [le, lt_finite, finite.injEq, ne_eq, reduceCtorEq, not_false_eq_true, decide_true,
    Bool.and_true]
  rw [← Bool.decide_or]
  exact decide_eq_decide.mpr le_iff_lt_or_eq.symm

@[simp]
theorem nan_lt (number : Number) : nan.lt number = false :=
  rfl

@[simp]
theorem lt_nan (number : Number) : number.lt nan = false := by
  cases number <;> rfl

@[simp]
theorem nan_le (number : Number) : nan.le number = false := by
  simp [le]

/-- What is at most a rational is at most any greater one. -/
theorem le_finite_of_le {number : Number} {low high : ℚ} (below : number.le (finite low) = true)
    (ordered : low ≤ high) : number.le (finite high) = true := by
  cases number with
  | nan => cases below
  | posInf => cases below
  | negInf => rfl
  | finite value =>
      rw [le_finite, decide_eq_true_eq] at below ⊢
      exact below.trans ordered

/-- Numbers are ordered, `nan` aside. -/
theorem lt_of_not_le {first second : Number} (notLe : first.le second = false)
    (isNumber : first ≠ nan) (otherIsNumber : second ≠ nan) : second.lt first = true := by
  cases first with
  | nan => exact absurd rfl isNumber
  | finite value =>
      cases second with
      | nan => exact absurd rfl otherIsNumber
      | finite other =>
          rw [le_finite, decide_eq_false_iff_not, not_le] at notLe
          exact decide_eq_true notLe
      | posInf => cases notLe
      | negInf => rfl
  | posInf =>
      cases second with
      | nan => exact absurd rfl otherIsNumber
      | finite => rfl
      | posInf => cases notLe
      | negInf => rfl
  | negInf =>
      cases second with
      | nan => exact absurd rfl otherIsNumber
      | finite => cases notLe
      | posInf => cases notLe
      | negInf => cases notLe

/-- Clamping makes every number but `nan` a rational within the bounds. -/
theorem clamp_of_ne_nan {number : Number} (isNumber : number ≠ nan) {low high : ℚ}
    (ordered : low ≤ high) :
    ∃ value, (number.max (finite low)).min (finite high) = finite value ∧
      low ≤ value ∧ value ≤ high := by
  cases number with
  | nan => exact absurd rfl isNumber
  | posInf => exact ⟨high, rfl, ordered, le_rfl⟩
  | negInf =>
      have notAbove : ¬ high < low := not_lt.mpr ordered
      exact ⟨low, by simp [max, min, lt, notAbove], le_rfl, ordered⟩
  | finite value =>
      by_cases below : value < low
      · have notAbove : ¬ high < low := not_lt.mpr ordered
        exact ⟨low, by simp [max, min, below, notAbove], le_rfl, ordered⟩
      · by_cases above : high < value
        · exact ⟨high, by simp [max, min, below, above], ordered, le_rfl⟩
        · exact ⟨value, by simp [max, min, below, above], not_lt.mp below, not_lt.mp above⟩

/-- `number * count`. -/
def mulNat (number : Number) (count : Nat) : Number :=
  match number with
  | .finite value => .finite (value * count)
  | .nan => .nan
  | infinite => if count = 0 then .nan else infinite

end Number

end DSProd.Library
