import Mathlib.Algebra.Order.Ring.Int
import Mathlib.Order.MinMax
import Mathlib.Tactic.Common

/-!
# Truncating exponential smoothing

A value gives up one part in `divisor` of itself and takes the same part of a
sample; both divisions truncate. What a number keeps is monotone in it, so the
new value lies between the old one and the sample, and any bound on both is a
bound on it.
-/

namespace Smoothing

variable {divisor value sample low high : ℕ}

/-- One step of the smoothing. -/
def smooth (divisor value sample : ℕ) : ℕ :=
  value - value / divisor + sample / divisor

/-- A greater number keeps no less. -/
theorem kept_mono (divisor : ℕ) (le : low ≤ high) : low - low / divisor ≤ high - high / divisor := by
  have one_more : ∀ number, number - number / divisor ≤ number + 1 - (number + 1) / divisor := by
    intro number
    have fits : number / divisor ≤ number := Nat.div_le_self number divisor
    have part : (number + 1) / divisor ≤ number / divisor + 1 := by
      rw [Nat.add_one, Nat.succ_div]
      split
      · exact Nat.le_refl _
      · exact Nat.le_succ _
    omega
  induction le with
  | refl => exact Nat.le_refl _
  | step _ ih => exact ih.trans (one_more _)

/-- Towards a greater sample. -/
theorem smooth_up (below : value ≤ sample) :
    value ≤ smooth divisor value sample ∧ smooth divisor value sample ≤ sample := by
  have part : value / divisor ≤ sample / divisor := Nat.div_le_div_right below
  have fits : value / divisor ≤ value := Nat.div_le_self value divisor
  have whole : sample / divisor ≤ sample := Nat.div_le_self sample divisor
  have kept := kept_mono divisor below
  unfold smooth
  omega

/-- Towards a smaller sample. -/
theorem smooth_down (above : sample ≤ value) :
    sample ≤ smooth divisor value sample ∧ smooth divisor value sample ≤ value := by
  have part : sample / divisor ≤ value / divisor := Nat.div_le_div_right above
  have fits : value / divisor ≤ value := Nat.div_le_self value divisor
  have whole : sample / divisor ≤ sample := Nat.div_le_self sample divisor
  have kept := kept_mono divisor above
  unfold smooth
  omega

theorem smooth_le_max : smooth divisor value sample ≤ max value sample := by
  rcases Nat.le_total value sample with below | above
  · exact (smooth_up below).2.trans (Nat.le_max_right _ _)
  · exact (smooth_down above).2.trans (Nat.le_max_left _ _)

theorem smooth_lt {limit : ℕ} (value_lt : value < limit) (sample_lt : sample < limit) :
    smooth divisor value sample < limit :=
  Nat.lt_of_le_of_lt smooth_le_max (Nat.max_lt.mpr ⟨value_lt, sample_lt⟩)

end Smoothing
