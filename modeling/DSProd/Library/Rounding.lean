import Mathlib.Data.Int.Log
import Mathlib.Algebra.Order.Floor.Ring
import Mathlib.Data.Rat.Floor
import Mathlib.Tactic.FieldSimp
import Mathlib.Tactic.Linarith

/-!
# Rounding to a float

A quotient of two integers is the float nearest to it, and of two that are
equally near the one whose last bit is zero.  A float has 53 significant bits;
its exponent is not bounded here.

Rounding keeps the order.  So it takes nothing over a bound that is a float
itself, though it may take a number down to the bound.
-/

namespace DSProd.Library

/-- The nearest integer, and of two the even one. -/
def roundEven (value : ℚ) : ℤ :=
  let low := ⌊value⌋
  if value - low < 1 / 2 ∨ value - low = 1 / 2 ∧ low % 2 = 0 then low else low + 1

/-- The distance between the floats around a positive number. -/
def spacing (value : ℚ) : ℚ :=
  2 ^ (Int.log 2 value - 52)

/-- The float nearest to a positive number. -/
def nearest (value : ℚ) : ℚ :=
  roundEven (value / spacing value) * spacing value

/-! ## To an integer -/

theorem floor_le_roundEven (value : ℚ) : ⌊value⌋ ≤ roundEven value := by
  rw [roundEven]
  split
  · exact le_rfl
  · exact Int.le.intro 1 rfl

theorem roundEven_le_floor_add_one (value : ℚ) : roundEven value ≤ ⌊value⌋ + 1 := by
  rw [roundEven]
  split
  · exact Int.le.intro 1 rfl
  · exact le_rfl

@[simp]
theorem roundEven_intCast (value : ℤ) : roundEven value = value := by
  simp [roundEven]

theorem roundEven_mono {low high : ℚ} (ordered : low ≤ high) : roundEven low ≤ roundEven high := by
  rcases (Int.floor_le_floor ordered).lt_or_eq with below | same
  · calc
      roundEven low ≤ ⌊low⌋ + 1 := roundEven_le_floor_add_one low
      _ ≤ ⌊high⌋ := below
      _ ≤ roundEven high := floor_le_roundEven high
  · -- between the same two integers the one that goes up goes up first
    by_cases up : high - ⌊high⌋ < 1 / 2 ∨ high - ⌊high⌋ = 1 / 2 ∧ ⌊high⌋ % 2 = 0
    · have down : low - ⌊low⌋ < 1 / 2 ∨ low - ⌊low⌋ = 1 / 2 ∧ ⌊low⌋ % 2 = 0 := by
        rw [same]
        rcases up with near | ⟨half, even⟩
        · left
          linarith
        · rcases ordered.lt_or_eq with less | equal
          · left
            linarith
          · rw [equal]
            exact Or.inr ⟨half, even⟩
      have isLow : roundEven low = ⌊low⌋ := if_pos down
      rw [isLow, same]
      exact floor_le_roundEven high
    · have isHigh : roundEven high = ⌊high⌋ + 1 := if_neg up
      rw [isHigh, ← same]
      exact roundEven_le_floor_add_one low

/-! ## To a float -/

theorem spacing_pos (value : ℚ) : 0 < spacing value :=
  zpow_pos two_pos _

/-- A positive number is at least the power of two below it, rounded or not. -/
theorem zpow_log_le_nearest {value : ℚ} (positive : 0 < value) :
    2 ^ Int.log 2 value ≤ nearest value := by
  have scaled : (2 : ℚ) ^ Int.log 2 value = ((2 ^ 52 : ℤ) : ℚ) * spacing value := by
    rw [spacing, zpow_sub₀ two_ne_zero]
    push_cast
    field_simp
  have below : ((2 ^ 52 : ℤ) : ℚ) ≤ value / spacing value := by
    rw [le_div_iff₀ (spacing_pos value), ← scaled]
    exact_mod_cast Int.zpow_log_le_self one_lt_two positive
  have rounded := roundEven_mono below
  rw [roundEven_intCast] at rounded
  rw [scaled, nearest]
  exact mul_le_mul_of_nonneg_right (by exact_mod_cast rounded) (spacing_pos value).le

/-- And at most the power of two above it. -/
theorem nearest_le_zpow_log_add_one (value : ℚ) :
    nearest value ≤ 2 ^ (Int.log 2 value + 1) := by
  have scaled : (2 : ℚ) ^ (Int.log 2 value + 1) = ((2 ^ 53 : ℤ) : ℚ) * spacing value := by
    rw [spacing, zpow_sub₀ two_ne_zero, zpow_add_one₀ two_ne_zero]
    push_cast
    field_simp
    norm_num
  have above : value / spacing value ≤ ((2 ^ 53 : ℤ) : ℚ) := by
    rw [div_le_iff₀ (spacing_pos value), ← scaled]
    exact_mod_cast (Int.lt_zpow_succ_log_self one_lt_two value).le
  have rounded := roundEven_mono above
  rw [roundEven_intCast] at rounded
  rw [scaled, nearest]
  exact mul_le_mul_of_nonneg_right (by exact_mod_cast rounded) (spacing_pos value).le

/-- Rounding keeps the order. -/
theorem nearest_mono {low high : ℚ} (positive : 0 < low) (ordered : low ≤ high) :
    nearest low ≤ nearest high := by
  rcases (Int.log_mono_right positive ordered).lt_or_eq with below | same
  · calc
      nearest low ≤ 2 ^ (Int.log 2 low + 1) := nearest_le_zpow_log_add_one low
      _ ≤ 2 ^ Int.log 2 high := zpow_le_zpow_right₀ one_le_two below
      _ ≤ nearest high := zpow_log_le_nearest (positive.trans_le ordered)
  · have sameSpacing : spacing low = spacing high := by
      rw [spacing, spacing, same]
    rw [nearest, nearest, sameSpacing]
    have rounded := roundEven_mono (div_le_div_of_nonneg_right ordered (spacing_pos high).le)
    exact mul_le_mul_of_nonneg_right (by exact_mod_cast rounded) (spacing_pos high).le

/-- Rounding takes nothing over a bound that is a float itself. -/
theorem lt_of_lt_nearest {bound value : ℚ} (isFloat : nearest bound = bound) (positive : 0 < value)
    (above : bound < nearest value) : bound < value := by
  by_contra notAbove
  have rounded := nearest_mono positive (not_lt.mp notAbove)
  rw [isFloat] at rounded
  exact absurd above (not_lt.mpr rounded)

end DSProd.Library
