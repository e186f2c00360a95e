import DpdkTcp.Model.Output

/-!
# The streaming checksum

`internet_checksum` as it walks a list of slices. What the walk does to its
accumulator is a parameter, so that the same walk is also taken with an addition
that is checked; the source uses `wrapping_add`.
-/

namespace DpdkTcp

section

variable {Sum : Type} (add : Sum → ℕ → Sum)

/-- The loop over the pairs of a chunk, and the odd byte it leaves. -/
def addPairs : Sum → List UInt8 → Sum × Option UInt8
  | sum, high :: low :: rest => addPairs (add sum (high.toNat * 256 + low.toNat)) rest
  | sum, [high] => (sum, some high)
  | sum, [] => (sum, none)

/-- One turn of the loop over the chunks: a byte that was carried over is paired with the first
of the chunk, and stays where the chunk is empty. -/
def addChunk : Sum × Option UInt8 → List UInt8 → Sum × Option UInt8
  | (sum, some high), low :: rest => addPairs add (add sum (high.toNat * 256 + low.toNat)) rest
  | (sum, some high), [] => (sum, some high)
  | (sum, none), chunk => addPairs add sum chunk

/-- The loop over the chunks, and the byte left at the end. -/
def addChunks (start : Sum) (chunks : List (List UInt8)) : Sum :=
  match chunks.foldl (addChunk add) (start, none) with
  | (sum, some tail) => add sum (tail.toNat * 256)
  | (sum, none) => sum

end

/-- Addition to the 32-bit accumulator. -/
def wrappingAdd (sum : BitVec 32) (word : ℕ) : BitVec 32 :=
  sum + BitVec.ofNat 32 word

/-- `checked_add`: nothing is left of a sum that would wrap. -/
def checkedAdd (sum : Option (BitVec 32)) (word : ℕ) : Option (BitVec 32) :=
  sum.bind fun sum => if sum.toNat + word < 2 ^ 32 then some (wrappingAdd sum word) else none

theorem toNat_low_half (sum : BitVec 32) : (sum &&& 0xffff#32).toNat = sum.toNat % 65536 := by
  rw [BitVec.toNat_and]
  exact Nat.and_two_pow_sub_one_eq_mod sum.toNat 16

theorem toNat_high_half (sum : BitVec 32) : (sum >>> 16).toNat = sum.toNat / 65536 := by
  rw [BitVec.toNat_ushiftRight, Nat.shiftRight_eq_div_pow]

theorem toNat_folded (sum : BitVec 32) :
    ((sum &&& 0xffff#32) + (sum >>> 16)).toNat = foldCarry sum.toNat := by
  have small := sum.isLt
  rw [BitVec.toNat_add, toNat_low_half, toNat_high_half]
  unfold foldCarry
  omega

/-- `while sum >> 16 != 0`: fold the upper half into the lower one. -/
def foldCarries (sum : BitVec 32) : BitVec 32 :=
  if sum >>> 16 = 0#32 then sum else foldCarries ((sum &&& 0xffff#32) + (sum >>> 16))
termination_by sum.toNat
decreasing_by
  rename_i carries
  have high : (sum >>> 16).toNat ≠ 0 := fun none => carries (BitVec.eq_of_toNat_eq none)
  rw [toNat_high_half] at high
  rw [toNat_folded]
  unfold foldCarry
  omega

/-- `internet_checksum`. -/
def internetChecksumChunks (chunks : List (List UInt8)) : BitVec 16 :=
  ~~~((foldCarries (addChunks wrappingAdd 0#32 chunks)).setWidth 16)

end DpdkTcp
