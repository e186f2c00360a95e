import Mathlib.Algebra.Order.BigOperators.Group.List
import Mathlib.Algebra.Order.Ring.Nat
import DpdkTcp.Lib.OnesComplement
import DpdkTcp.Model.Checksum

/-!
# The checksum of a list of slices

However the bytes are cut into slices, the walk adds up the same words in the same
order. Up to 128 KiB the sum stays below `2 ^ 32`, and what is returned is the complement
of the ones'-complement sum of the words of the concatenation.
-/

namespace DpdkTcp

/-- The 16-bit words of a byte string, the last one padded with a zero byte. -/
def wordsOf : List UInt8 → List ℕ
  | high :: low :: rest => (high.toNat * 256 + low.toNat) :: wordsOf rest
  | [high] => [high.toNat * 256]
  | [] => []

/-- The ones'-complement sum of the words of a byte string. -/
def onesSum (bytes : List UInt8) : ℕ :=
  OnesComplement.sum 65535 (wordsOf bytes)

theorem word_le (high low : UInt8) : high.toNat * 256 + low.toNat ≤ 65535 := by
  have := high.toNat_lt
  have := low.toNat_lt
  omega

theorem wordsOf_le (bytes : List UInt8) : ∀ word ∈ wordsOf bytes, word ≤ 65535 := by
  induction bytes using wordsOf.induct with
  | case1 high low rest ih =>
      intro word member
      rcases List.mem_cons.mp member with rfl | later
      · exact word_le high low
      · exact ih word later
  | case2 high =>
      intro word member
      rcases List.mem_singleton.mp member with rfl
      have := high.toNat_lt
      omega
  | case3 => nofun

theorem length_wordsOf (bytes : List UInt8) : (wordsOf bytes).length = (bytes.length + 1) / 2 := by
  induction bytes using wordsOf.induct with
  | case1 high low rest ih =>
      simp only [wordsOf, List.length_cons, ih]
      omega
  | case2 high => simp [wordsOf]
  | case3 => rfl

theorem sum_wordsOf_lt {bytes : List UInt8} (short : bytes.length ≤ 131072) :
    (wordsOf bytes).sum < 2 ^ 32 := by
  have bound : (wordsOf bytes).sum ≤ (wordsOf bytes).length * 65535 :=
    List.sum_le_card_nsmul (wordsOf bytes) 65535 (wordsOf_le bytes)
  rw [length_wordsOf] at bound
  omega

/-- Behind an even number of bytes a new word begins. -/
theorem wordsOf_append {front : List UInt8} (even : front.length % 2 = 0) (rest : List UInt8) :
    wordsOf (front ++ rest) = wordsOf front ++ wordsOf rest := by
  induction front using wordsOf.induct with
  | case1 high low front ih =>
      simp only [List.length_cons] at even
      exact congrArg (_ :: ·) (ih (by omega))
  | case2 high => cases even
  | case3 => rfl

theorem onesSum_eq (bytes : List UInt8) :
    onesSum bytes = OnesComplement.reduce 65535 (wordsOf bytes).sum :=
  OnesComplement.sum_eq_reduce (by decide) (wordsOf_le bytes)

theorem onesSum_le (bytes : List UInt8) : onesSum bytes ≤ 65535 := by
  rw [onesSum_eq]
  exact OnesComplement.reduce_le (by decide) _

/-- A word in the middle is one more summand. -/
theorem onesSum_word {front : List UInt8} (even : front.length % 2 = 0) (high low : UInt8)
    (rest : List UInt8) :
    onesSum (front ++ high :: low :: rest) =
      OnesComplement.add 65535 (onesSum (front ++ 0 :: 0 :: rest))
        (high.toNat * 256 + low.toNat) := by
  have word : (wordsOf (front ++ high :: low :: rest)).sum =
      (wordsOf (front ++ 0 :: 0 :: rest)).sum + (high.toNat * 256 + low.toNat) := by
    rw [wordsOf_append even, wordsOf_append even, List.sum_append, List.sum_append]
    simp only [wordsOf, List.sum_cons, UInt8.toNat_zero]
    omega
  rw [OnesComplement.add_eq_reduce (onesSum_le _) (word_le high low), onesSum_eq, onesSum_eq,
    OnesComplement.reduce_add_reduce, word]

/-! ### The walk -/

section

variable {Sum : Type} (add : Sum → ℕ → Sum)

/-- A chunk is walked as the words it makes with what follows. -/
theorem addPairs_words (sum : Sum) (chunk rest : List UInt8) :
    (wordsOf ((addPairs add sum chunk).2.toList ++ rest)).foldl add (addPairs add sum chunk).1 =
      (wordsOf (chunk ++ rest)).foldl add sum := by
  induction sum, chunk using addPairs.induct add with
  | case1 sum high low chunk ih => exact ih
  | case2 sum high => rfl
  | case3 sum => rfl

theorem addChunk_words (sum : Sum) (carry : Option UInt8) (chunk rest : List UInt8) :
    (wordsOf ((addChunk add (sum, carry) chunk).2.toList ++ rest)).foldl add
        (addChunk add (sum, carry) chunk).1 =
      (wordsOf (carry.toList ++ (chunk ++ rest))).foldl add sum := by
  cases carry with
  | none => exact addPairs_words add sum chunk rest
  | some high =>
      cases chunk with
      | nil => rfl
      | cons low chunk => exact addPairs_words add _ chunk rest

/-- The walk over the chunks adds the words of their concatenation. -/
theorem addChunks_eq (start : Sum) (chunks : List (List UInt8)) :
    addChunks add start chunks = (wordsOf chunks.flatten).foldl add start := by
  have walked : ∀ (chunks : List (List UInt8)) (state : Sum × Option UInt8),
      (wordsOf (chunks.foldl (addChunk add) state).2.toList).foldl add
          (chunks.foldl (addChunk add) state).1 =
        (wordsOf (state.2.toList ++ chunks.flatten)).foldl add state.1 := by
    intro chunks
    induction chunks with
    | nil =>
        intro state
        rw [List.flatten_nil, List.append_nil, List.foldl_nil]
    | cons chunk chunks ih =>
        intro state
        rw [List.foldl_cons, ih, List.flatten_cons]
        exact addChunk_words add state.1 state.2 chunk chunks.flatten
  have last : addChunks add start chunks =
      (wordsOf (chunks.foldl (addChunk add) (start, none)).2.toList).foldl add
        (chunks.foldl (addChunk add) (start, none)).1 := by
    unfold addChunks
    rcases chunks.foldl (addChunk add) (start, none) with ⟨sum, _ | tail⟩ <;> rfl
  exact last.trans (walked chunks (start, none))

end

/-! ### The accumulator -/

theorem toNat_foldl_wrappingAdd {words : List ℕ} {sum : BitVec 32}
    (fits : sum.toNat + words.sum < 2 ^ 32) :
    (words.foldl wrappingAdd sum).toNat = sum.toNat + words.sum := by
  induction words generalizing sum with
  | nil => rfl
  | cons word words ih =>
      rw [List.sum_cons] at fits ⊢
      have added : (wrappingAdd sum word).toNat = sum.toNat + word := by
        unfold wrappingAdd
        rw [BitVec.toNat_add, BitVec.toNat_ofNat]
        omega
      rw [List.foldl_cons, ih (by omega), added, Nat.add_assoc]

/-- No addition wraps if the whole sum does not. -/
theorem foldl_checkedAdd {words : List ℕ} {sum : BitVec 32}
    (fits : sum.toNat + words.sum < 2 ^ 32) :
    words.foldl checkedAdd (some sum) = some (words.foldl wrappingAdd sum) := by
  induction words generalizing sum with
  | nil => rfl
  | cons word words ih =>
      rw [List.sum_cons] at fits
      have added : (wrappingAdd sum word).toNat = sum.toNat + word := by
        unfold wrappingAdd
        rw [BitVec.toNat_add, BitVec.toNat_ofNat]
        omega
      have checked : checkedAdd (some sum) word = some (wrappingAdd sum word) :=
        if_pos (by omega)
      rw [List.foldl_cons, checked, List.foldl_cons]
      exact ih (by omega)

/-! ### The fold -/

theorem foldCarry_eq (number : ℕ) : foldCarry number = OnesComplement.fold 65535 number :=
  rfl

/-- The loop ends with the representative of the sum. -/
theorem toNat_foldCarries (sum : BitVec 32) :
    (foldCarries sum).toNat = OnesComplement.reduce 65535 sum.toNat := by
  induction sum using foldCarries.induct with
  | case1 sum still =>
      have high := congrArg BitVec.toNat still
      rw [toNat_high_half, BitVec.toNat_zero] at high
      rw [foldCarries, if_pos still, OnesComplement.reduce_of_le (by omega)]
  | case2 sum carries ih =>
      rw [foldCarries, if_neg carries, ih, toNat_folded, foldCarry_eq, OnesComplement.reduce_fold]

/-- Two folds are enough for 32 bits. -/
theorem foldCarry_twice {number : ℕ} (fits : number < 2 ^ 32) :
    foldCarry (foldCarry number) = OnesComplement.reduce 65535 number := by
  have small : foldCarry (foldCarry number) ≤ 65535 := by
    unfold foldCarry
    omega
  have kept := OnesComplement.reduce_of_le small
  rw [foldCarry_eq, OnesComplement.reduce_fold, foldCarry_eq, OnesComplement.reduce_fold] at kept
  exact kept.symm

/-! ### The checksum -/

theorem checksumSum_eq (sum : BitVec 32) (carry : Option UInt8) (bytes : List UInt8) :
    checksumSum sum carry bytes = (wordsOf (carry.toList ++ bytes)).foldl wrappingAdd sum := by
  induction bytes generalizing sum carry with
  | nil => cases carry <;> rfl
  | cons byte bytes ih =>
      cases carry with
      | none => exact ih sum (some byte)
      | some high => exact ih _ none

/-- The checksum of the slices is that of their concatenation. -/
theorem toNat_internetChecksumChunks (chunks : List (List UInt8)) :
    (internetChecksumChunks chunks).toNat = internetChecksum chunks.flatten := by
  have small := OnesComplement.reduce_le (by decide : 0 < 65535)
    (addChunks wrappingAdd 0#32 chunks).toNat
  have folded := toNat_foldCarries (addChunks wrappingAdd 0#32 chunks)
  unfold internetChecksumChunks internetChecksum
  rw [BitVec.toNat_not, BitVec.toNat_setWidth, folded, Nat.mod_eq_of_lt (by omega),
    foldCarry_twice (BitVec.isLt _), checksumSum_eq, addChunks_eq]
  rfl

/-- Up to 128 KiB, the checksum is the complement of the ones'-complement sum. -/
theorem internetChecksum_eq {bytes : List UInt8} (short : bytes.length ≤ 131072) :
    internetChecksum bytes = 65535 - onesSum bytes := by
  have fits := sum_wordsOf_lt short
  have total : (checksumSum 0#32 none bytes).toNat = (wordsOf bytes).sum := by
    rw [checksumSum_eq]
    have added := @toNat_foldl_wrappingAdd (wordsOf bytes) 0#32
    rw [BitVec.toNat_zero, Nat.zero_add] at added
    exact added fits
  unfold internetChecksum
  rw [total, foldCarry_twice fits, onesSum_eq]

theorem internetChecksum_le (bytes : List UInt8) : internetChecksum bytes ≤ 65535 :=
  Nat.sub_le _ _

/-- Up to 128 KiB in all, the checksum of any slices is the complement of the ones'-complement sum
of the words of their concatenation, however it is cut, and no addition to the accumulator
wraps. -/
theorem internet_checksum_streaming {chunks : List (List UInt8)}
    (short : chunks.flatten.length ≤ 131072) :
    (internetChecksumChunks chunks).toNat = 65535 - onesSum chunks.flatten ∧
      (∀ others : List (List UInt8), others.flatten = chunks.flatten →
        internetChecksumChunks others = internetChecksumChunks chunks) ∧
      addChunks checkedAdd (some 0#32) chunks = some (addChunks wrappingAdd 0#32 chunks) := by
  refine ⟨?_, fun others same => ?_, ?_⟩
  · rw [toNat_internetChecksumChunks, internetChecksum_eq short]
  · apply BitVec.eq_of_toNat_eq
    rw [toNat_internetChecksumChunks, toNat_internetChecksumChunks, same]
  · have fits := sum_wordsOf_lt short
    have checked := @foldl_checkedAdd (wordsOf chunks.flatten) 0#32
    rw [BitVec.toNat_zero, Nat.zero_add] at checked
    rw [addChunks_eq, addChunks_eq, checked fits]

/-- Odd and empty slices. -/
theorem internet_checksum_streaming_odd :
    (internetChecksumChunks [[0x45], [], [0x00, 0x12], [0x34]]).toNat =
      65535 - onesSum [0x45, 0x00, 0x12, 0x34] :=
  (internet_checksum_streaming (by decide)).1

end DpdkTcp
