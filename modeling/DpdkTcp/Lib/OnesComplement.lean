import Mathlib.Algebra.Order.Ring.Int
import Mathlib.Data.Nat.ModEq
import Mathlib.Algebra.BigOperators.Group.List.Basic
import Mathlib.Tactic.Common

/-!
# Ones'-complement sums

Numbers from zero to `top`, which is all ones, are added with an end-around carry.
Zero has two representations, `0` and `top`; a sum is `0` only where every summand is.
A sum is computed at once from the sum of the naturals: `reduce` takes it to the
representative from one to `top` of its residue modulo `top`, and folding the carries back
keeps it.
-/

namespace OnesComplement

variable {top : ℕ}

/-- Addition with an end-around carry. -/
def add (top left right : ℕ) : ℕ :=
  if left + right ≤ top then left + right else left + right - top

/-- The ones'-complement sum of a list. -/
def sum (top : ℕ) (words : List ℕ) : ℕ :=
  words.foldl (add top) 0

/-- The representative of a sum of naturals: zero of zero alone. -/
def reduce (top number : ℕ) : ℕ :=
  if number = 0 then 0 else (number - 1) % top + 1

/-- The carries of a number folded back once. -/
def fold (top number : ℕ) : ℕ :=
  number % (top + 1) + number / (top + 1)

@[simp]
theorem reduce_zero : reduce top 0 = 0 :=
  if_pos rfl

theorem reduce_eq_zero_iff {number : ℕ} : reduce top number = 0 ↔ number = 0 := by
  unfold reduce
  split
  · rename_i zero
    exact iff_of_true rfl zero
  · rename_i positive
    exact iff_of_false (Nat.succ_ne_zero _) positive

theorem reduce_le (positive : 0 < top) (number : ℕ) : reduce top number ≤ top := by
  unfold reduce
  split
  · exact Nat.zero_le top
  · exact Nat.mod_lt _ positive

theorem reduce_of_le {number : ℕ} (small : number ≤ top) : reduce top number = number := by
  unfold reduce
  split
  · rename_i zero
    exact zero.symm
  · rw [Nat.mod_eq_of_lt (by omega)]
    omega

/-- Above zero, whole turns do not count. -/
theorem reduce_add_mul {number : ℕ} (positive : 0 < number) (turns : ℕ) :
    reduce top (number + top * turns) = reduce top number := by
  unfold reduce
  rw [if_neg (by omega), if_neg (by omega)]
  have shifted : number + top * turns - 1 = number - 1 + top * turns := by omega
  rw [shifted, Nat.add_mul_mod_self_left]

theorem reduce_modEq (number : ℕ) : reduce top number ≡ number [MOD top] := by
  unfold reduce
  split
  · rename_i zero
    rw [zero]
  · rename_i positive
    have whole : number - 1 + 1 = number := by omega
    have step : (number - 1) % top + 1 ≡ number - 1 + 1 [MOD top] :=
      (Nat.mod_modEq _ _).add_right 1
    rw [whole] at step
    exact step

/-- Two positive sums have the same representative if they agree modulo `top`. -/
theorem reduce_congr {left right : ℕ} (positive : 0 < left) (positive' : 0 < right)
    (same : left ≡ right [MOD top]) : reduce top left = reduce top right := by
  unfold reduce
  rw [if_neg (by omega), if_neg (by omega)]
  have step : left - 1 + 1 ≡ right - 1 + 1 [MOD top] := by
    rw [Nat.sub_add_cancel positive, Nat.sub_add_cancel positive']
    exact same
  exact congrArg (· + 1) (Nat.ModEq.add_right_cancel' 1 step)

theorem add_eq_reduce {left right : ℕ} (small : left ≤ top) (small' : right ≤ top) :
    add top left right = reduce top (left + right) := by
  unfold add
  split
  · rename_i inside
    exact (reduce_of_le inside).symm
  · rename_i carries
    have back : left + right = left + right - top + top * 1 := by omega
    rw [back, reduce_add_mul (by omega), reduce_of_le (by omega)]
    omega

/-- A summand may be replaced by its representative. -/
theorem reduce_add_reduce (left right : ℕ) :
    reduce top (reduce top left + right) = reduce top (left + right) := by
  by_cases zero : left = 0
  · rw [zero, reduce_zero]
  · have positive : 0 < reduce top left :=
      Nat.pos_of_ne_zero fun none => zero (reduce_eq_zero_iff.mp none)
    exact reduce_congr (by omega) (by omega) ((reduce_modEq left).add_right right)

/-- The ones'-complement sum is the representative of the sum of the naturals. -/
theorem sum_eq_reduce (positive : 0 < top) {words : List ℕ} (small : ∀ word ∈ words, word ≤ top) :
    sum top words = reduce top words.sum := by
  have general : ∀ (words : List ℕ) (start : ℕ), start ≤ top → (∀ word ∈ words, word ≤ top) →
      words.foldl (add top) start = reduce top (start + words.sum) := by
    intro words
    induction words with
    | nil =>
        intro start inside _
        rw [List.foldl_nil, List.sum_nil, Nat.add_zero, reduce_of_le inside]
    | cons word words ih =>
        intro start inside small
        have head : word ≤ top := small word List.mem_cons_self
        have added := add_eq_reduce inside head
        have inside' : add top start word ≤ top := by
          rw [added]
          exact reduce_le positive _
        rw [List.foldl_cons, ih _ inside' fun other member => small other (.tail _ member), added,
          reduce_add_reduce, List.sum_cons, Nat.add_assoc]
  have total := general words 0 (Nat.zero_le top) small
  rw [Nat.zero_add] at total
  exact total

/-! ### Folding the carries -/

/-- Folding keeps the representative. -/
theorem reduce_fold (number : ℕ) : reduce top (fold top number) = reduce top number := by
  unfold fold
  have parts := Nat.div_add_mod number (top + 1)
  rw [Nat.succ_mul] at parts
  generalize number / (top + 1) = carries at parts ⊢
  generalize number % (top + 1) = rest at parts ⊢
  by_cases zero : rest + carries = 0
  · have nothing : carries = 0 := by omega
    have none : number = 0 := by
      rw [nothing] at parts
      omega
    rw [zero, none]
  · have whole : number = rest + carries + top * carries := by omega
    rw [whole, reduce_add_mul (Nat.pos_of_ne_zero zero)]

/-! ### Complements -/

theorem top_modEq (number : ℕ) : top + number ≡ number [MOD top] :=
  Nat.add_mod_left top number

/-- Numbers agree modulo `top` if their complements do. -/
theorem complement_modEq_iff {left right : ℕ} (small : left ≤ top) (small' : right ≤ top) :
    top - left ≡ top - right [MOD top] ↔ left ≡ right [MOD top] := by
  have turned : top - left + (left + right) = top + right := by omega
  have turned' : top - right + (left + right) = top + left := by omega
  constructor
  · intro same
    have sums := same.add_right (left + right)
    rw [turned, turned'] at sums
    exact (top_modEq left).symm.trans (sums.symm.trans (top_modEq right))
  · intro same
    apply Nat.ModEq.add_right_cancel' (left + right)
    rw [turned, turned']
    exact (top_modEq right).trans (same.symm.trans (top_modEq left).symm)

/-- A sum is its own complement if it is a representation of zero, where `top` is odd. -/
theorem self_complement_iff (odd : top % 2 = 1) {number : ℕ} (positive : 0 < number)
    (small : number ≤ top) : top - number ≡ number [MOD top] ↔ number = top := by
  constructor
  · intro same
    by_contra differs
    have below : number < top := by omega
    unfold Nat.ModEq at same
    rw [Nat.mod_eq_of_lt below, Nat.mod_eq_of_lt (by omega)] at same
    omega
  · rintro rfl
    rw [Nat.sub_self]
    exact (Nat.mod_self number).symm

/-- A sum to which the complement of a part is added instead of the part. -/
theorem complemented_part_iff (odd : top % 2 = 1) {part rest : ℕ} (positive : 0 < part) :
    top - reduce top (rest + (top - reduce top part)) ≡ top - reduce top (rest + part) [MOD top] ↔
      reduce top part = top := by
  have nonzero : top ≠ 0 := by
    rintro rfl
    cases odd
  have whole : 0 < top := Nat.pos_of_ne_zero nonzero
  have folded : 0 < reduce top part :=
    Nat.pos_of_ne_zero fun none => Nat.ne_of_gt positive (reduce_eq_zero_iff.mp none)
  rw [complement_modEq_iff (reduce_le whole _) (reduce_le whole _),
    ← self_complement_iff odd folded (reduce_le whole part)]
  constructor
  · intro same
    have sums := (reduce_modEq _).symm.trans (same.trans (reduce_modEq _))
    exact (Nat.ModEq.add_left_cancel' rest sums).trans (reduce_modEq part).symm
  · intro same
    have sums := (same.trans (reduce_modEq part)).add_left rest
    exact (reduce_modEq _).trans (sums.trans (reduce_modEq _).symm)

/-! ### Sums to be checked -/

/-- A number and the sum it complements are all ones together, unless both have all ones. -/
theorem add_eq_top_iff {left right : ℕ} (small : left ≤ top) (small' : right ≤ top)
    (positive : 0 < top) :
    add top left right = top ↔ right = top - left ∨ (left = top ∧ right = top) := by
  unfold add
  split <;> omega

end OnesComplement
