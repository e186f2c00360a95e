import Mathlib.Algebra.Order.Ring.Int
import Mathlib.Tactic.Common

/-!
# Slices of a sequence

`Slice.slice items pos len` is the run of at most `len` items from position
`pos` on. Queues of windows into a common sequence are compared with it through
two facts: adjacent slices append to a slice, and a slice of a slice is a slice.
-/

namespace Slice

universe u

variable {Item : Type u}

/-- The items at positions `pos` to `pos + len`, as far as there are any. -/
def slice (items : List Item) (pos len : ℕ) : List Item :=
  (items.drop pos).take len

@[simp]
theorem slice_zero (items : List Item) (pos : ℕ) : slice items pos 0 = [] := by
  simp [slice]

theorem length_slice (items : List Item) (pos len : ℕ) :
    (slice items pos len).length = min len (items.length - pos) := by
  simp [slice]

theorem length_slice_of_le {items : List Item} {pos len : ℕ} (inside : pos + len ≤ items.length) :
    (slice items pos len).length = len := by
  rw [length_slice]
  omega

/-- A slice of full length fits in the sequence, unless it is empty. -/
theorem add_le_of_length_slice {items : List Item} {pos len : ℕ} (positive : 0 < len)
    (full : (slice items pos len).length = len) : pos + len ≤ items.length := by
  rw [length_slice] at full
  omega

theorem slice_append_slice (items : List Item) (pos len more : ℕ) :
    slice items pos len ++ slice items (pos + len) more = slice items pos (len + more) := by
  rw [slice, slice, slice, ← List.drop_drop, List.take_add]

theorem take_slice (items : List Item) {pos len count : ℕ} (short : count ≤ len) :
    (slice items pos len).take count = slice items pos count := by
  rw [slice, slice, List.take_take, Nat.min_eq_left short]

theorem slice_slice (items : List Item) {pos len offset count : ℕ} (inside : offset + count ≤ len) :
    slice (slice items pos len) offset count = slice items (pos + offset) count := by
  simp only [slice, List.drop_take, List.drop_drop, List.take_take]
  congr 1
  omega

/-- A slice that is an append splits at the seam. -/
theorem slice_eq_append {items left right : List Item} {pos len : ℕ}
    (split : slice items pos len = left ++ right) :
    slice items pos left.length = left ∧ slice items (pos + left.length) right.length = right := by
  have lengths : left.length + right.length ≤ len := by
    have bound : (slice items pos len).length ≤ len := by
      rw [length_slice]
      omega
    simpa [split] using bound
  constructor
  · rw [← take_slice items (Nat.le_trans (Nat.le_add_right _ _) lengths), split]
    simp
  · have inner : slice (slice items pos len) left.length right.length =
        slice items (pos + left.length) right.length := slice_slice items lengths
    rw [← inner, split]
    simp [slice]

/-- What is appended changes no slice in front of it. -/
theorem slice_append_left {items : List Item} {pos len : ℕ} (inside : pos + len ≤ items.length)
    (more : List Item) : slice (items ++ more) pos len = slice items pos len := by
  rw [slice, slice, List.drop_append_of_le_length (by omega), List.take_append_of_le_length]
  rw [List.length_drop]
  omega

/-- What is appended is a slice itself. -/
theorem slice_append_right (items more : List Item) :
    slice (items ++ more) items.length more.length = more := by
  rw [slice, List.drop_left, List.take_length]

/-! ### Tests that hold of a prefix -/

section Prefixes

variable {test : Item → Bool} {items : List Item}

/-- Where a test holds of every item before one it holds of, what stands in front of the first
failure is all it holds of. -/
theorem takeWhile_eq_filter
    (closed : items.Pairwise fun earlier later => test later = true → test earlier = true) :
    items.takeWhile test = items.filter test := by
  induction closed with
  | nil => rfl
  | @cons first rest before _ ih =>
      cases holds : test first with
      | true => rw [List.takeWhile_cons_of_pos holds, List.filter_cons_of_pos holds, ih]
      | false =>
          have none : rest.filter test = [] := by
            rw [List.filter_eq_nil_iff]
            intro later member held
            rw [before later member held] at holds
            cases holds
          rw [List.takeWhile_cons_of_neg (by simp [holds]), List.filter_cons_of_neg (by simp [holds]),
            none]

/-- What stands behind it is all the test does not hold of. -/
theorem dropWhile_eq_filter
    (closed : items.Pairwise fun earlier later => test later = true → test earlier = true) :
    items.dropWhile test = items.filter fun item => !test item := by
  induction closed with
  | nil => rfl
  | @cons first rest before _ ih =>
      cases holds : test first with
      | true =>
          rw [List.dropWhile_cons_of_pos holds, List.filter_cons_of_neg (by simp [holds]), ih]
      | false =>
          have all : rest.filter (fun item => !test item) = rest := by
            rw [List.filter_eq_self]
            intro later member
            cases held : test later with
            | false => rfl
            | true =>
                rw [before later member held] at holds
                cases holds
          rw [List.dropWhile_cons_of_neg (by simp [holds]), List.filter_cons_of_pos (by simp [holds]),
            all]

end Prefixes

end Slice
