import Mathlib.Algebra.Order.Ring.Int
import Mathlib.Tactic.Common

/-!
# Acts that are kept apart

Something is done only when an interval has passed since it was last done. The times at
which it was done are then an interval apart, so a span of time holds at most one of them
more than it holds intervals.
-/

namespace Pace

variable {interval last now : ℕ} {times : List ℕ}

/-- The times are at least an interval apart, and none of them is after the last one. -/
structure Paced (interval : ℕ) (times : List ℕ) (last : ℕ) : Prop where
  apart : times.Pairwise fun earlier later => earlier + interval ≤ later
  past : ∀ time ∈ times, time ≤ last

theorem paced_nil (interval last : ℕ) : Paced interval [] last :=
  ⟨.nil, nofun⟩

/-- It is done once more. -/
theorem Paced.next (paced : Paced interval times last) (due : last + interval ≤ now) :
    Paced interval (times ++ [now]) now := by
  refine ⟨List.pairwise_append.mpr ⟨paced.apart, List.pairwise_singleton _ _, ?_⟩, ?_⟩
  · intro earlier before later new
    rw [List.mem_singleton.mp new]
    exact (Nat.add_le_add_right (paced.past earlier before) interval).trans due
  · intro time done
    rcases List.mem_append.mp done with before | new
    · exact (paced.past time before).trans ((Nat.le_add_right _ _).trans due)
    · exact (List.mem_singleton.mp new).le

/-- Between the first and some later time there are as many intervals as times. -/
theorem first_add_le {first : ℕ}
    (apart : (first :: times).Pairwise fun earlier later => earlier + interval ≤ later) :
    ∃ time ∈ first :: times, first + times.length * interval ≤ time := by
  induction times generalizing first with
  | nil => exact ⟨first, List.mem_singleton.mpr rfl, by simp⟩
  | cons second rest ih =>
      rcases List.pairwise_cons.mp apart with ⟨before, later⟩
      rcases ih later with ⟨time, present, far⟩
      have step := before second (List.mem_cons_self ..)
      refine ⟨time, List.mem_cons_of_mem _ present, ?_⟩
      rw [List.length_cons, Nat.succ_mul]
      omega

/-- The times within a span. -/
def within (times : List ℕ) (start span : ℕ) : List ℕ :=
  times.filter fun time => start ≤ time ∧ time ≤ start + span

/-- All but one of the times within a span take an interval of it. -/
theorem length_within_le (apart : times.Pairwise fun earlier later => earlier + interval ≤ later)
    (start span : ℕ) : ((within times start span).length - 1) * interval ≤ span := by
  have inside : ∀ time ∈ within times start span, start ≤ time ∧ time ≤ start + span := by
    intro time present
    exact of_decide_eq_true (List.mem_filter.mp present).2
  have filtered : (within times start span).Pairwise fun earlier later => earlier + interval ≤ later :=
    apart.sublist List.filter_sublist
  cases found : within times start span with
  | nil => simp
  | cons first rest =>
      rw [found] at inside filtered
      rcases first_add_le filtered with ⟨time, present, far⟩
      have early := (inside first (List.mem_cons_self ..)).1
      have late := (inside time present).2
      rw [List.length_cons, Nat.add_sub_cancel]
      omega

end Pace
