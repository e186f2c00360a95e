import Mathlib.Algebra.Order.Ring.Int
import Mathlib.Logic.Relation
import Mathlib.Tactic.Common

/-!
# Serial numbers

Fixed-width numbers that are compared by the sign of their wrapping
difference. A comparison is meaningful only for numbers less than half the
number space apart, so the order is studied through unbounded positions:
`Serial.point base pos` is the number at position `pos` counted from `base`,
and between positions less than half a space apart the wrapping comparisons
decide the order of the positions.

The relation `Before` is not antisymmetric at distance exactly half the space.
The lemmas below therefore carry the two one-sided distance bounds separately.
-/

namespace Serial

variable {w : ℕ}

/-- Comparison by the sign of the wrapping difference. -/
def Before (left right : BitVec w) : Prop :=
  (left - right).toInt < 0

/-- The reflexive closure of `Before`, again by the sign of the difference. -/
def AtMost (left right : BitVec w) : Prop :=
  (left - right).toInt ≤ 0

/-- The order of two numbers can be computed. -/
instance (left right : BitVec w) : Decidable (Before left right) :=
  inferInstanceAs (Decidable ((left - right).toInt < 0))

/-- So can its reflexive form. -/
instance (left right : BitVec w) : Decidable (AtMost left right) :=
  inferInstanceAs (Decidable ((left - right).toInt ≤ 0))

/-- The serial number at an unbounded position counted from `base`. -/
def point (base : BitVec w) (pos : ℕ) : BitVec w :=
  base + BitVec.ofNat w pos

@[simp]
theorem point_zero (base : BitVec w) : point base 0 = base := by
  simp [point]

theorem point_add (base : BitVec w) (pos len : ℕ) :
    point base (pos + len) = point base pos + BitVec.ofNat w len := by
  simp [point, BitVec.ofNat_add, BitVec.add_assoc]

theorem point_sub_point (base : BitVec w) {low high : ℕ} (ordered : low ≤ high) :
    point base high - point base low = BitVec.ofNat w (high - low) := by
  rcases Nat.exists_eq_add_of_le ordered with ⟨len, rfl⟩
  rw [point_add, BitVec.add_comm, BitVec.add_sub_cancel, Nat.add_sub_cancel_left]

/-- The wrapping difference of two points is the difference of their positions. -/
theorem toNat_point_sub_point (base : BitVec w) {low high : ℕ} (ordered : low ≤ high)
    (near : high - low < 2 ^ w) : (point base high - point base low).toNat = high - low := by
  rw [point_sub_point base ordered, BitVec.toNat_ofNat, Nat.mod_eq_of_lt near]

/-- Every serial number is a point at most one full space after any given position. -/
theorem toNat_point_sub_point_le (base : BitVec w) {low high : ℕ} (ordered : low ≤ high) :
    (point base high - point base low).toNat ≤ high - low := by
  rw [point_sub_point base ordered, BitVec.toNat_ofNat]
  exact Nat.mod_le _ _

theorem exists_point (base number : BitVec w) (pos : ℕ) :
    ∃ len, len < 2 ^ w ∧ number = point base (pos + len) := by
  refine ⟨(number - point base pos).toNat, BitVec.isLt _, ?_⟩
  rw [point_add, BitVec.ofNat_toNat, BitVec.setWidth_eq, BitVec.add_comm, BitVec.sub_add_cancel]

/-- How far a number lies ahead of `base`. -/
def offset (base number : BitVec w) : ℕ :=
  (number - base).toNat

theorem offset_lt (base number : BitVec w) : offset base number < 2 ^ w :=
  BitVec.isLt _

/-- A number is the point at its own offset. -/
@[simp]
theorem point_offset (base number : BitVec w) : point base (offset base number) = number := by
  rw [point, offset, BitVec.ofNat_toNat, BitVec.setWidth_eq, BitVec.add_comm, BitVec.sub_add_cancel]

/-- One turn of the number space further lies the same number. -/
theorem point_add_turn (base : BitVec w) (pos : ℕ) : point base (pos + 2 ^ w) = point base pos := by
  have turn : BitVec.ofNat w (2 ^ w) = 0#w := by
    apply BitVec.eq_of_toNat_eq
    rw [BitVec.toNat_ofNat, BitVec.toNat_ofNat, Nat.mod_self, Nat.zero_mod]
  rw [point_add, turn, BitVec.add_zero]

theorem offset_point (base : BitVec w) {pos : ℕ} (near : pos < 2 ^ w) :
    offset base (point base pos) = pos := by
  have there := toNat_point_sub_point base (Nat.zero_le pos) near
  rwa [point_zero] at there

/-- Seen from a point on the way to a number. -/
theorem offset_from_point (base : BitVec w) {number : BitVec w} {pos : ℕ}
    (reached : pos ≤ offset base number) :
    offset (point base pos) number = offset base number - pos := by
  have near := offset_lt base number
  have between := toNat_point_sub_point base reached (by omega)
  rwa [point_offset] at between

/-- A point is seen behind another one at what is left of the number space. -/
theorem offset_behind (base : BitVec w) {low high : ℕ} (ordered : low < high)
    (near : high ≤ low + 2 ^ w) :
    offset (point base high) (point base low) = low + 2 ^ w - high := by
  rw [← point_add_turn base low, offset]
  exact toNat_point_sub_point base near (by omega)

/-- Points less than one full space apart are equal only at equal positions. -/
theorem point_inj (base : BitVec w) {left right : ℕ} (leftNear : left < right + 2 ^ w)
    (rightNear : right < left + 2 ^ w) : point base left = point base right ↔ left = right := by
  constructor
  · intro equal
    rcases Nat.le_total left right with ordered | ordered
    · have gap := toNat_point_sub_point base ordered (by omega)
      simp only [equal, BitVec.sub_self, BitVec.toNat_zero] at gap
      omega
    · have gap := toNat_point_sub_point base ordered (by omega)
      simp only [equal, BitVec.sub_self, BitVec.toNat_zero] at gap
      omega
  · rintro rfl
    rfl

theorem toInt_neg_of_lt (base : BitVec w) {low high : ℕ} (ordered : low < high)
    (near : 2 * (high - low) ≤ 2 ^ w) : (point base low - point base high).toInt < 0 := by
  have gap := toNat_point_sub_point base (Nat.le_of_lt ordered) (by omega)
  rw [BitVec.toInt_neg_iff]
  have swap : point base low - point base high = -(point base high - point base low) := by
    rw [BitVec.neg_sub, BitVec.add_comm, BitVec.sub_eq_add_neg]
  rw [swap, BitVec.toNat_neg, gap, Nat.mod_eq_of_lt (by omega)]
  omega

theorem toInt_of_le (base : BitVec w) {low high : ℕ} (ordered : low ≤ high)
    (near : 2 * (high - low) < 2 ^ w) :
    (point base high - point base low).toInt = (high - low : ℕ) := by
  have gap := toNat_point_sub_point base ordered (by omega)
  rw [BitVec.toInt_eq_toNat_cond, gap, if_pos near]

/-- Less than half a space apart, `Before` is the order of the positions. -/
theorem before_point_iff (base : BitVec w) {left right : ℕ}
    (leftNear : 2 * left < 2 * right + 2 ^ w) (rightNear : 2 * right ≤ 2 * left + 2 ^ w) :
    Before (point base left) (point base right) ↔ left < right := by
  rcases Nat.lt_or_ge left right with ordered | ordered
  · exact iff_of_true (toInt_neg_of_lt base ordered (by omega)) ordered
  · refine iff_of_false ?_ (by omega)
    rw [Before, toInt_of_le base ordered (by omega)]
    omega

/-- Less than half a space apart, `AtMost` is the reflexive order of the positions. -/
theorem atMost_point_iff (base : BitVec w) {left right : ℕ}
    (leftNear : 2 * left < 2 * right + 2 ^ w) (rightNear : 2 * right ≤ 2 * left + 2 ^ w) :
    AtMost (point base left) (point base right) ↔ left ≤ right := by
  rcases Nat.lt_or_ge right left with ordered | ordered
  · refine iff_of_false ?_ (by omega)
    rw [AtMost, toInt_of_le base (Nat.le_of_lt ordered) (by omega)]
    omega
  · refine iff_of_true ?_ ordered
    rcases Nat.eq_or_lt_of_le ordered with rfl | strict
    · simp [AtMost]
    · exact Int.le_of_lt (toInt_neg_of_lt base strict (by omega))

end Serial
