import DpdkTcp.Timers.Turns

/-!
# Word-sized placement

`level_and_bucket_offset` computes with 64-bit words. Its last iteration would
shift by the size of a word, but a delay between two 64-bit times is a whole
number of ticks and is found in one of the first seven levels.
-/

namespace DpdkTcp

/-- `1u64 << amount`; a build with overflow checks stops at the size of a word. -/
def shiftOne (amount : ℕ) : Option UInt64 :=
  if amount < 64 then some (1 <<< UInt64.ofNat amount) else none

/-- `level_and_bucket_offset` on words, from a given level on. It fails where a shift does. -/
def levelAndBucketOffsetChecked (delayTicks : UInt64) : (levelsLeft level : ℕ) → Option (ℕ × ℕ)
  | 0, _ => some (LEVELS - 1, BUCKETS - 1)
  | levelsLeft + 1, level => do
      let levelSpan ← shiftOne (8 * (level + 1))
      if delayTicks < levelSpan then
        let bucketSpan ← shiftOne (8 * level)
        some (level, max 1 (min (delayTicks / bucketSpan).toNat (BUCKETS - 1)))
      else levelAndBucketOffsetChecked delayTicks levelsLeft (level + 1)

/-- The delays no `u64` time has are where the last iteration stops. -/
example : levelAndBucketOffsetChecked 0x100000000000000 LEVELS 0 = none := by decide

/-- `fire_at_ns.saturating_sub(now_ns) / TICK_NS`. -/
def delayTicksOf (nowNs fireAtNs : UInt64) : UInt64 :=
  (if fireAtNs < nowNs then 0 else fireAtNs - nowNs) / 10000

theorem toNat_delayTicksOf (nowNs fireAtNs : UInt64) :
    (delayTicksOf nowNs fireAtNs).toNat = (fireAtNs.toNat - nowNs.toNat) / TICK_NS := by
  unfold delayTicksOf
  rw [UInt64.toNat_div]
  refine congrArg (· / 10000) ?_
  split
  · rename_i past
    have before := UInt64.lt_iff_toNat_lt.mp past
    rw [Nat.sub_eq_zero_of_le (Nat.le_of_lt before)]
    rfl
  · rename_i ahead
    exact UInt64.toNat_sub_of_le _ _ (UInt64.not_lt.mp ahead)

/-- A delay between two times fits into seven levels. -/
theorem delayTicksOf_lt (nowNs fireAtNs : UInt64) :
    (delayTicksOf nowNs fireAtNs).toNat < BUCKETS ^ 7 := by
  have wide := fireAtNs.toNat_lt
  rw [toNat_delayTicksOf]
  refine Nat.lt_of_le_of_lt (Nat.div_le_div_right (Nat.sub_le _ _)) ?_
  exact Nat.div_lt_of_lt_mul (Nat.lt_trans wide (by decide))

theorem shiftOne_level {level : ℕ} (few : level < 8) :
    ∃ span, shiftOne (8 * level) = some span ∧ span.toNat = BUCKETS ^ level := by
  refine ⟨1 <<< UInt64.ofNat (8 * level), if_pos (by omega), ?_⟩
  have small : (UInt64.ofNat (8 * level)).toNat % 64 = 8 * level := by
    rw [UInt64.toNat_ofNat']
    omega
  have fits : 2 ^ (8 * level) < 2 ^ 64 := Nat.pow_lt_pow_right (by decide) (by omega)
  rw [UInt64.toNat_shiftLeft, small, UInt64.toNat_one, Nat.shiftLeft_eq, Nat.one_mul,
    Nat.mod_eq_of_lt fits, two_pow_level]

/-- No level is tried whose span is not a word. -/
theorem levelAndBucketOffsetChecked_eq {delayTicks : UInt64}
    (near : delayTicks.toNat < BUCKETS ^ 7) {levelsLeft level : ℕ} (few : level < 7)
    (levels : level + levelsLeft = LEVELS) :
    levelAndBucketOffsetChecked delayTicks levelsLeft level =
      some (levelAndBucketOffsetFrom delayTicks.toNat levelsLeft level) := by
  induction levelsLeft generalizing level with
  | zero =>
      have last : level = 8 := levels
      omega
  | succ levelsLeft ih =>
      rcases shiftOne_level (show level + 1 < 8 by omega) with ⟨levelSpan, shifted, wide⟩
      rcases shiftOne_level (show level < 8 by omega) with ⟨bucketSpan, started, narrow⟩
      dsimp only [levelAndBucketOffsetChecked, levelAndBucketOffsetFrom]
      rw [shifted, started, two_pow_level, two_pow_level, ← wide, ← narrow]
      by_cases inside : delayTicks < levelSpan
      · have below := UInt64.lt_iff_toNat_lt.mp inside
        simp only [Option.bind_eq_bind, Option.bind_some, if_pos inside, if_pos below,
          UInt64.toNat_div]
      · have beyond : ¬ delayTicks.toNat < levelSpan.toNat :=
          fun below => inside (UInt64.lt_iff_toNat_lt.mpr below)
        simp only [Option.bind_eq_bind, Option.bind_some, if_neg inside, if_neg beyond]
        -- the seventh level takes every delay that is left
        refine ih ?_ (by omega)
        by_contra last
        have seventh : level + 1 = 7 := by omega
        rw [wide, seventh] at beyond
        exact beyond near

/-- A delay ends before the bucket behind the one it is put into. -/
theorem levelAndBucketOffsetFrom_lt {delayTicks levelsLeft level : ℕ}
    (short : delayTicks < BUCKETS ^ (level + levelsLeft)) (left : 0 < levelsLeft) :
    max delayTicks 1 < ((levelAndBucketOffsetFrom delayTicks levelsLeft level).2 + 1) *
      BUCKETS ^ (levelAndBucketOffsetFrom delayTicks levelsLeft level).1 := by
  induction levelsLeft generalizing level with
  | zero => exact absurd left (Nat.lt_irrefl 0)
  | succ levelsLeft ih =>
      dsimp only [levelAndBucketOffsetFrom]
      rw [two_pow_level, two_pow_level]
      split
      · rename_i near
        rw [Nat.pow_succ] at near
        have positive : 0 < BUCKETS ^ level := Nat.pow_pos (by decide)
        have share : delayTicks / BUCKETS ^ level < BUCKETS := Nat.div_lt_of_lt_mul near
        dsimp only
        rw [Nat.min_eq_left (Nat.le_sub_one_of_lt share)]
        have more : delayTicks / BUCKETS ^ level + 1 ≤ max 1 (delayTicks / BUCKETS ^ level) + 1 :=
          Nat.succ_le_succ (Nat.le_max_right _ _)
        have two : 2 ≤ max 1 (delayTicks / BUCKETS ^ level) + 1 :=
          Nat.succ_le_succ (Nat.le_max_left _ _)
        refine Nat.max_lt.mpr ⟨?_, ?_⟩
        · calc delayTicks < (delayTicks / BUCKETS ^ level + 1) * BUCKETS ^ level :=
                Nat.lt_mul_of_div_lt (Nat.lt_succ_self _) positive
            _ ≤ _ := Nat.mul_le_mul_right _ more
        · calc 1 < 2 * BUCKETS ^ level := by omega
            _ ≤ _ := Nat.mul_le_mul_right _ two
      · rename_i far
        refine ih ?_ ?_
        · rw [show level + 1 + levelsLeft = level + (levelsLeft + 1) by omega]
          exact short
        · rcases Nat.eq_zero_or_pos levelsLeft with none | some
          · rw [none] at short
            exact absurd short far
          · exact some

/-- `level_and_bucket_offset` for the delay between two times: no shift is as wide as a word, the
level exists, the bucket is another one than that under the cursor, and the delay lies in the
turns the bucket stands for. -/
theorem level_and_bucket_offset_on_words (nowNs fireAtNs : UInt64) :
    ∃ level offset,
      levelAndBucketOffsetChecked (delayTicksOf nowNs fireAtNs) LEVELS 0 = some (level, offset) ∧
      placeAt nowNs.toNat fireAtNs.toNat = (level, offset) ∧
      level < 8 ∧ 1 ≤ offset ∧ offset ≤ 255 ∧
      offset * 256 ^ level ≤ max (delayTicksOf nowNs fireAtNs).toNat 1 ∧
      max (delayTicksOf nowNs fireAtNs).toNat 1 < (offset + 1) * 256 ^ level ∧
      ∀ cursor, cursor < BUCKETS → (cursor + offset) % BUCKETS ≠ cursor := by
  have near := delayTicksOf_lt nowNs fireAtNs
  have checked := levelAndBucketOffsetChecked_eq near (show 0 < 7 by decide)
    (show 0 + LEVELS = LEVELS from Nat.zero_add _)
  have ends := @levelAndBucketOffsetFrom_lt (delayTicksOf nowNs fireAtNs).toNat LEVELS 0
    (Nat.lt_trans near (by decide)) (by decide)
  have placed := levelAndBucketOffset_placement (delayTicksOf nowNs fireAtNs).toNat
  have place : placeAt nowNs.toNat fireAtNs.toNat =
      levelAndBucketOffset (delayTicksOf nowNs fireAtNs).toNat := by
    rw [placeAt, ← toNat_delayTicksOf]
  rw [← levelAndBucketOffset] at checked ends
  generalize levelAndBucketOffset (delayTicksOf nowNs fireAtNs).toNat = found at *
  refine ⟨found.1, found.2, checked, place, placed.level, placed.positive,
    Nat.le_of_lt_succ placed.inside, ?_, ends, ?_⟩
  · rcases Nat.eq_zero_or_pos found.1 with bottom | above
    · have starts : found.2 * 256 ^ found.1 = max (delayTicksOf nowNs fireAtNs).toNat 1 := by
        rw [bottom, (placed.near bottom).2, Nat.pow_zero, Nat.mul_one, Nat.max_comm]
      exact Nat.le_of_eq starts
    · have starts := placed.within above (Nat.lt_trans near (by decide))
      exact Nat.le_trans starts (Nat.le_max_left _ _)
  · intro cursor inside same
    have positive := placed.positive
    have few := placed.inside
    change cursor < 256 at inside
    change found.2 < 256 at few
    change (cursor + found.2) % 256 = cursor at same
    omega

end DpdkTcp
