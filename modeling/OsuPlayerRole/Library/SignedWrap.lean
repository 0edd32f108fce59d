/-
This file gives the cast of an integer to a signed width, which keeps its low bits.
-/
import Mathlib.Algebra.Order.Ring.Int

namespace SignedWrap

/-- The values from `-half` up to `half` stand for themselves. -/
def wrap (half value : Int) : Int := (value + half) % (2 * half) - half

/-- The number of the window of the width that the value is in. -/
def window (half value : Int) : Int := (value + half) / (2 * half)

variable {half first second value : Int}

/-- The cast moves the value back by whole windows. -/
theorem wrap_eq (half value : Int) : wrap half value = value - 2 * half * window half value := by
  have parts := Int.mul_ediv_add_emod (value + half) (2 * half)
  unfold wrap window
  omega

/-- The order is kept when the growth makes up for each window. -/
theorem wrap_le_iff : wrap half first ≤ wrap half second ↔
    2 * half * (window half second - window half first) ≤ second - first := by
  rw [wrap_eq, wrap_eq, Int.mul_sub]
  omega

/-- A cast is not negative when the highest bit is clear. -/
theorem wrap_nonneg_iff (positive : 0 < half) : 0 ≤ wrap half value ↔ value % (2 * half) < half := by
  have low := Int.emod_nonneg value (b := 2 * half) (by omega)
  have high := Int.emod_lt_of_pos value (b := 2 * half) (by omega)
  have shifted : (value + half) % (2 * half) = (value % (2 * half) + half) % (2 * half) := by
    rw [Int.emod_add_emod]
  unfold wrap
  rw [shifted]
  by_cases clear : value % (2 * half) < half
  · rw [Int.emod_eq_of_lt (by omega) (by omega)]
    omega
  · have moved : (value % (2 * half) + half) % (2 * half) = value % (2 * half) - half := by
      rw [← Int.sub_emod_right, Int.emod_eq_of_lt (by omega) (by omega)]
      omega
    rw [moved]
    omega

/-- A value of the width is kept. -/
theorem window_eq_zero (low : -half ≤ value) (high : value < half) : window half value = 0 :=
  Int.ediv_eq_zero_of_lt (by omega) (by omega)

end SignedWrap
