import DpdkTcp.Lib.Serial

/-!
# Sequence-space comparisons

The wrap-safe comparisons of `tcp_seq.rs`. A sequence number is a 32-bit
number; `a.wrapping_sub(b) as i32` is the signed reading of the difference.
-/

namespace DpdkTcp

/-- A TCP sequence or acknowledgment number. -/
abbrev Seq := BitVec 32

/-- `seq_lt`: the wrapping difference is negative. -/
def seqLt (a b : Seq) : Bool :=
  decide ((a - b).toInt < 0)

/-- `seq_le`: the wrapping difference is not positive. -/
def seqLe (a b : Seq) : Bool :=
  decide ((a - b).toInt ≤ 0)

/-- `in_window`: `seq` lies in `[start, start + len)`; an empty window holds nothing. -/
def inWindow (start seq : Seq) (len : ℕ) : Bool :=
  if len = 0 then false else decide ((seq - start).toNat < len)

/-- Advance a sequence number by a byte count. -/
def seqAdd (seq : Seq) (len : ℕ) : Seq :=
  seq + BitVec.ofNat 32 len

theorem seqLt_eq_true {a b : Seq} : seqLt a b = true ↔ Serial.Before a b := by
  simp [seqLt, Serial.Before]

theorem seqLe_eq_true {a b : Seq} : seqLe a b = true ↔ Serial.AtMost a b := by
  simp [seqLe, Serial.AtMost]

@[simp]
theorem seqLt_self (a : Seq) : seqLt a a = false := by
  simp [seqLt]

@[simp]
theorem seqLe_self (a : Seq) : seqLe a a = true := by
  simp [seqLe]

theorem seqAdd_zero (seq : Seq) : seqAdd seq 0 = seq := by
  simp [seqAdd]

theorem seqAdd_add (seq : Seq) (len more : ℕ) :
    seqAdd seq (len + more) = seqAdd (seqAdd seq len) more := by
  simp [seqAdd, BitVec.ofNat_add, BitVec.add_assoc]

/-- What lies between two numbers grows with the upper one. -/
theorem toNat_seqAdd_sub (upper lower : Seq) {len : ℕ} (near : (upper - lower).toNat + len < 2 ^ 32) :
    (seqAdd upper len - lower).toNat = (upper - lower).toNat + len := by
  have apart : seqAdd upper len - lower = (upper - lower) + BitVec.ofNat 32 len := by
    rw [seqAdd, BitVec.sub_eq_add_neg, BitVec.sub_eq_add_neg, BitVec.add_assoc, BitVec.add_assoc,
      BitVec.add_comm (BitVec.ofNat 32 len)]
  rw [apart, BitVec.toNat_add, BitVec.toNat_ofNat]
  omega

/-- The later number lies ahead, by at most half the number space. -/
theorem seqLt_iff_ahead {a b : Seq} :
    seqLt a b = true ↔ 0 < (b - a).toNat ∧ (b - a).toNat ≤ 2 ^ 31 := by
  have apart : b - a = -(a - b) := by
    rw [BitVec.neg_sub, BitVec.sub_eq_add_neg, BitVec.add_comm]
  have within := (a - b).isLt
  rw [seqLt, decide_eq_true_iff, BitVec.toInt_neg_iff, apart, BitVec.toNat_neg]
  omega

/-- The number that is not earlier lies ahead by at most half the number space. -/
theorem seqLe_iff_ahead {a b : Seq} : seqLe a b = true ↔ (b - a).toNat ≤ 2 ^ 31 := by
  have apart : b - a = -(a - b) := by
    rw [BitVec.neg_sub, BitVec.sub_eq_add_neg, BitVec.add_comm]
  have within := (a - b).isLt
  rw [seqLe, decide_eq_true_iff, BitVec.toInt_eq_toNat_cond, apart, BitVec.toNat_neg]
  split <;> omega

/-- A number at most another one is at most half the number space behind it. -/
theorem toNat_sub_le_of_seqLe {lower upper : Seq} (ordered : seqLe lower upper = true) :
    (upper - lower).toNat ≤ 2 ^ 31 :=
  seqLe_iff_ahead.mp ordered

section Positions

variable (base : Seq) {left right : ℕ}

theorem seqAdd_point (pos len : ℕ) :
    seqAdd (Serial.point base pos) len = Serial.point base (pos + len) :=
  (Serial.point_add base pos len).symm

/-- Between positions less than `2^31` apart, `seq_lt` is the order of positions. -/
theorem seqLt_point (leftNear : left < right + 2 ^ 31) (rightNear : right ≤ left + 2 ^ 31) :
    seqLt (Serial.point base left) (Serial.point base right) = decide (left < right) := by
  rw [Bool.eq_iff_iff, seqLt_eq_true, decide_eq_true_iff]
  exact Serial.before_point_iff base (by omega) (by omega)

/-- Between positions less than `2^31` apart, `seq_le` is the order of positions. -/
theorem seqLe_point (leftNear : left < right + 2 ^ 31) (rightNear : right ≤ left + 2 ^ 31) :
    seqLe (Serial.point base left) (Serial.point base right) = decide (left ≤ right) := by
  rw [Bool.eq_iff_iff, seqLe_eq_true, decide_eq_true_iff]
  exact Serial.atMost_point_iff base (by omega) (by omega)

/-- Among numbers less than `2^31` ahead of `base`, `seq_lt` compares the offsets. -/
theorem seqLt_offset {a b : Seq} (aNear : Serial.offset base a < 2 ^ 31)
    (bNear : Serial.offset base b < 2 ^ 31) :
    seqLt a b = decide (Serial.offset base a < Serial.offset base b) := by
  have points : seqLt (Serial.point base (Serial.offset base a))
      (Serial.point base (Serial.offset base b)) =
        decide (Serial.offset base a < Serial.offset base b) :=
    seqLt_point base (by omega) (by omega)
  simpa only [Serial.point_offset] using points

/-- Among numbers less than `2^31` ahead of `base`, `seq_le` compares the offsets. -/
theorem seqLe_offset {a b : Seq} (aNear : Serial.offset base a < 2 ^ 31)
    (bNear : Serial.offset base b < 2 ^ 31) :
    seqLe a b = decide (Serial.offset base a ≤ Serial.offset base b) := by
  have points : seqLe (Serial.point base (Serial.offset base a))
      (Serial.point base (Serial.offset base b)) =
        decide (Serial.offset base a ≤ Serial.offset base b) :=
    seqLe_point base (by omega) (by omega)
  simpa only [Serial.point_offset] using points

/-- The test for a place between two numbers, for any third one. -/
theorem seqLe_and_seqLt {low high seq : Seq}
    (ordered : Serial.offset base low < Serial.offset base high)
    (near : Serial.offset base high < 2 ^ 31) :
    (seqLe low seq && seqLt seq high) = true ↔
      Serial.offset base low ≤ Serial.offset base seq ∧
        Serial.offset base seq < Serial.offset base high := by
  have within := Serial.offset_lt base seq
  rcases Nat.lt_or_ge (Serial.offset base low + 2 ^ 31) (Serial.offset base seq) with far | close
  · -- so far ahead of `low` that the comparison has wrapped
    have behind : seqLe (Serial.point base (Serial.offset base low + 2 ^ 32))
        (Serial.point base (Serial.offset base seq)) =
          decide (Serial.offset base low + 2 ^ 32 ≤ Serial.offset base seq) :=
      seqLe_point base (by omega) (by omega)
    rw [Serial.point_add_turn, Serial.point_offset, Serial.point_offset] at behind
    rw [behind, decide_eq_false (by omega), Bool.false_and]
    exact iff_of_false (by simp) (by omega)
  · have upper : seqLt (Serial.point base (Serial.offset base seq))
        (Serial.point base (Serial.offset base high)) =
          decide (Serial.offset base seq < Serial.offset base high) :=
      seqLt_point base (by omega) (by omega)
    rw [Serial.point_offset, Serial.point_offset] at upper
    rw [Bool.and_eq_true, upper, decide_eq_true_iff]
    constructor
    · rintro ⟨lower, below⟩
      rw [seqLe_offset base (by omega) (by omega), decide_eq_true_iff] at lower
      exact ⟨lower, below⟩
    · rintro ⟨lower, below⟩
      refine ⟨?_, below⟩
      rw [seqLe_offset base (by omega) (by omega), decide_eq_true_iff]
      exact lower

/-- In terms of positions, `in_window` is an interval test. -/
theorem inWindow_point {len : ℕ} (ordered : left ≤ right) (near : right < left + 2 ^ 32) :
    inWindow (Serial.point base left) (Serial.point base right) len =
      decide (right < left + len) := by
  have gap := Serial.toNat_point_sub_point base ordered (by omega)
  by_cases empty : len = 0
  · subst empty
    simp [inWindow]
    omega
  · simp only [inWindow, empty, if_false, gap]
    rw [Bool.eq_iff_iff]
    simp only [decide_eq_true_iff]
    omega

theorem inWindow_offset {off len : ℕ} (near : off < 2 ^ 32) :
    inWindow base (Serial.point base off) len = decide (off < len) := by
  have test : inWindow (Serial.point base 0) (Serial.point base off) len =
      decide (off < 0 + len) := inWindow_point base (Nat.zero_le off) (by omega)
  rw [Serial.point_zero, Nat.zero_add] at test
  exact test

end Positions

end DpdkTcp
