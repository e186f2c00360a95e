import DpdkTcp.Lib.Fusion
import DpdkTcp.Model.Loss
import Mathlib.Order.Interval.Set.LinearOrder

/-!
# The received-SACK scoreboard

What the blocks of the scoreboard stand for, through any number of insertions
and prunings. Seen from a number `base` that all the blocks lie less than
`2^31` ahead of, a block is a half-open interval of offsets, and both the test
`touches` and the merged block `merge` are what they are for intervals. The
collapse loop is then a run of fusing steps, whose end has no touching pair.
-/

namespace DpdkTcp

open Serial (offset)

namespace SackScoreboard

section Blocks

variable (base : Seq)

/-- A non-empty block, both of whose edges lie less than `2^31` ahead of `base`. -/
def FitsFrom (block : SackBlock) : Prop :=
  offset base block.left < offset base block.right ∧ offset base block.right < 2 ^ 31

/-- Whether a block fits can be computed. -/
instance (block : SackBlock) : Decidable (FitsFrom base block) :=
  inferInstanceAs (Decidable (_ ∧ _))

/-- The interval of offsets a block stands for. -/
def interval (block : SackBlock) : Set ℕ :=
  Set.Ico (offset base block.left) (offset base block.right)

/-- The sequence number lies in the block. -/
def InBlock (block : SackBlock) (seq : Seq) : Prop :=
  offset base seq ∈ interval base block

variable {base}

theorem touches_comm (first second : SackBlock) : touches first second = touches second first :=
  Bool.and_comm ..

theorem FitsFrom.left_near {block : SackBlock} (fits : FitsFrom base block) :
    offset base block.left < 2 ^ 31 :=
  Nat.lt_trans fits.1 fits.2

/-- Two blocks touch when neither lies strictly behind the other. -/
theorem touches_iff {first second : SackBlock} (fitsFirst : FitsFrom base first)
    (fitsSecond : FitsFrom base second) :
    touches first second = true ↔
      offset base first.left ≤ offset base second.right ∧
        offset base second.left ≤ offset base first.right := by
  rw [touches, Bool.and_eq_true, seqLe_offset base fitsFirst.left_near fitsSecond.2,
    seqLe_offset base fitsSecond.left_near fitsFirst.2, decide_eq_true_iff, decide_eq_true_iff]

/-- Two blocks that do not touch lie apart, with a number between them. -/
theorem apart_of_not_touches {first second : SackBlock} (fitsFirst : FitsFrom base first)
    (fitsSecond : FitsFrom base second) (missed : touches first second = false) :
    seqLt first.right second.left = true ∨ seqLt second.right first.left = true := by
  have notTouching := mt (touches_iff fitsFirst fitsSecond).mpr (by simp [missed])
  rw [seqLt_offset base fitsFirst.2 fitsSecond.left_near,
    seqLt_offset base fitsSecond.2 fitsFirst.left_near, decide_eq_true_iff, decide_eq_true_iff]
  omega

theorem offset_merge_left {first second : SackBlock} (fitsFirst : FitsFrom base first)
    (fitsSecond : FitsFrom base second) :
    offset base (merge first second).left =
      min (offset base first.left) (offset base second.left) := by
  rw [merge, seqLe_offset base fitsFirst.left_near fitsSecond.left_near]
  by_cases ordered : offset base first.left ≤ offset base second.left
  · rw [decide_eq_true ordered, if_pos rfl, Nat.min_eq_left ordered]
  · rw [decide_eq_false ordered, if_neg Bool.false_ne_true, Nat.min_eq_right (by omega)]

theorem offset_merge_right {first second : SackBlock} (fitsFirst : FitsFrom base first)
    (fitsSecond : FitsFrom base second) :
    offset base (merge first second).right =
      max (offset base first.right) (offset base second.right) := by
  rw [merge, seqLe_offset base fitsSecond.2 fitsFirst.2]
  by_cases ordered : offset base second.right ≤ offset base first.right
  · rw [decide_eq_true ordered, if_pos rfl, Nat.max_eq_left ordered]
  · rw [decide_eq_false ordered, if_neg Bool.false_ne_true, Nat.max_eq_right (by omega)]

/-- Merging two touching blocks yields their union. -/
theorem merge_lawful :
    Fusion.Lawful (fun first second => touches first second = true) merge (InBlock base)
      (FitsFrom base) := by
  intro first second fitsFirst fitsSecond touching
  rcases (touches_iff fitsFirst fitsSecond).mp touching with ⟨starts, ends⟩
  have left := offset_merge_left fitsFirst fitsSecond
  have right := offset_merge_right fitsFirst fitsSecond
  refine ⟨⟨?_, ?_⟩, ?_⟩
  · have nonempty := fitsFirst.1
    rw [left, right]
    omega
  · have near := fitsFirst.2
    have near' := fitsSecond.2
    rw [right]
    omega
  · intro seq
    have union := Set.Ico_union_Ico' ends starts
    rw [InBlock, interval, left, right, ← union]
    exact Iff.rfl

/-- The scoreboard's own test on one block. -/
theorem inBlock_iff {block : SackBlock} (fits : FitsFrom base block) (seq : Seq) :
    InBlock base block seq ↔ (seqLe block.left seq && seqLt seq block.right) = true :=
  (seqLe_and_seqLt base fits.1 fits.2).symm

end Blocks

section Collapse

/-- The touching test of the source, as a relation. -/
abbrev Touching (first second : SackBlock) : Prop :=
  touches first second = true

theorem absorbFirst_spec {cur : SackBlock} {rest : List SackBlock} {absorbed : SackBlock × List SackBlock}
    (found : absorbFirst cur rest = some absorbed) :
    ∃ mid other right, rest = mid ++ other :: right ∧ Touching cur other ∧
      absorbed = (merge cur other, mid ++ right) := by
  induction rest generalizing absorbed with
  | nil => simp [absorbFirst] at found
  | cons other rest ih =>
      rw [absorbFirst] at found
      by_cases touching : touches cur other = true
      · rw [if_pos touching] at found
        exact ⟨[], other, rest, rfl, touching, (Option.some.inj found).symm⟩
      · rw [if_neg touching] at found
        rcases Option.map_eq_some_iff.mp found with ⟨later, foundLater, rfl⟩
        rcases ih foundLater with ⟨mid, taken, right, rfl, touched, rfl⟩
        exact ⟨other :: mid, taken, right, rfl, touched, rfl⟩

theorem absorbFirst_eq_none {cur : SackBlock} {rest : List SackBlock}
    (missing : absorbFirst cur rest = none) : ∀ other ∈ rest, ¬ Touching cur other := by
  induction rest with
  | nil => simp
  | cons other rest ih =>
      rw [absorbFirst] at missing
      by_cases touching : touches cur other = true
      · simp [touching] at missing
      · rw [if_neg touching, Option.map_eq_none_iff] at missing
        intro later member
        rcases List.mem_cons.mp member with rfl | member
        · exact touching
        · exact ih missing later member

/-- A round of the collapse loop is a fusing step. -/
theorem collapseOnce_step {blocks smaller : List SackBlock}
    (found : collapseOnce blocks = some smaller) : Fusion.Step Touching merge blocks smaller := by
  induction blocks generalizing smaller with
  | nil => simp [collapseOnce] at found
  | cons cur rest ih =>
      rw [collapseOnce] at found
      cases absorb : absorbFirst cur rest with
      | some absorbed =>
          rcases absorbFirst_spec absorb with ⟨mid, other, right, rfl, touching, rfl⟩
          simp only [absorb, Option.some.injEq] at found
          rw [← found]
          exact Fusion.Step.fuse [] mid right touching
      | none =>
          simp only [absorb] at found
          rcases Option.map_eq_some_iff.mp found with ⟨later, foundLater, rfl⟩
          exact (ih foundLater).cons cur

/-- The loop is left when no two blocks touch. -/
theorem collapseOnce_eq_none {blocks : List SackBlock} (stuck : collapseOnce blocks = none) :
    blocks.Pairwise fun first second => ¬ Touching first second := by
  induction blocks with
  | nil => exact List.Pairwise.nil
  | cons cur rest ih =>
      rw [collapseOnce] at stuck
      cases absorb : absorbFirst cur rest with
      | some absorbed => simp [absorb] at stuck
      | none =>
          simp only [absorb, Option.map_eq_none_iff] at stuck
          exact List.pairwise_cons.mpr ⟨absorbFirst_eq_none absorb, ih stuck⟩

/-- The loop as a run of fusing steps. -/
theorem collapse_steps (rounds : ℕ) (blocks : List SackBlock) :
    Relation.ReflTransGen (Fusion.Step Touching merge) blocks (collapse rounds blocks) := by
  induction rounds generalizing blocks with
  | zero => exact Relation.ReflTransGen.refl
  | succ rounds ih =>
      rw [collapse]
      cases round : collapseOnce blocks with
      | none => exact Relation.ReflTransGen.refl
      | some smaller => exact Relation.ReflTransGen.head (collapseOnce_step round) (ih smaller)

/-- Every round uses up a block, so as many rounds as blocks reach the end of the loop. -/
theorem collapseOnce_collapse {rounds : ℕ} {blocks : List SackBlock}
    (enough : blocks.length ≤ rounds) : collapseOnce (collapse rounds blocks) = none := by
  induction rounds generalizing blocks with
  | zero =>
      rcases List.length_eq_zero_iff.mp (Nat.le_zero.mp enough) with rfl
      rfl
  | succ rounds ih =>
      rw [collapse]
      cases round : collapseOnce blocks with
      | none => exact round
      | some smaller =>
          have shorter := (collapseOnce_step round).length
          exact ih (by omega)

/-- Rounds beyond the end of the loop change nothing. -/
theorem collapse_of_length_le {rounds : ℕ} {blocks : List SackBlock}
    (enough : blocks.length ≤ rounds) : collapse rounds blocks = collapse blocks.length blocks := by
  induction rounds generalizing blocks with
  | zero =>
      rcases List.length_eq_zero_iff.mp (Nat.le_zero.mp enough) with rfl
      rfl
  | succ rounds ih =>
      cases length : blocks.length with
      | zero =>
          rcases List.length_eq_zero_iff.mp length with rfl
          rfl
      | succ shorter =>
          rw [collapse, collapse]
          cases round : collapseOnce blocks with
          | none => rfl
          | some smaller =>
              have used := (collapseOnce_step round).length
              have whole : smaller.length = shorter := by omega
              have same := @ih smaller (by omega)
              rw [whole] at same
              exact same

end Collapse

section Calls

theorem mergeInto_spec {block : SackBlock} {blocks merged : List SackBlock}
    (found : mergeInto block blocks = some merged) :
    ∃ left cur right, blocks = left ++ cur :: right ∧ Touching block cur ∧
      merged = left ++ merge cur block :: right := by
  induction blocks generalizing merged with
  | nil => simp [mergeInto] at found
  | cons cur rest ih =>
      rw [mergeInto] at found
      by_cases touching : touches block cur = true
      · rw [if_pos touching] at found
        exact ⟨[], cur, rest, rfl, touching, (Option.some.inj found).symm⟩
      · rw [if_neg touching] at found
        rcases Option.map_eq_some_iff.mp found with ⟨later, foundLater, rfl⟩
        rcases ih foundLater with ⟨left, taken, right, rfl, touched, rfl⟩
        exact ⟨cur :: left, taken, right, rfl, touched, rfl⟩

theorem mergeInto_eq_none {block : SackBlock} {blocks : List SackBlock}
    (missing : mergeInto block blocks = none) : ∀ cur ∈ blocks, ¬ Touching block cur := by
  induction blocks with
  | nil => simp
  | cons cur rest ih =>
      rw [mergeInto] at missing
      by_cases touching : touches block cur = true
      · simp [touching] at missing
      · rw [if_neg touching, Option.map_eq_none_iff] at missing
        intro later member
        rcases List.mem_cons.mp member with rfl | member
        · exact touching
        · exact ih missing later member

variable {base : Seq}

variable (base) in
/-- What holds of the scoreboard between two calls. -/
structure Sound (board : SackScoreboard) : Prop where
  fits : ∀ block ∈ board.blocks, FitsFrom base block
  few : board.blocks.length ≤ MAX_SACK_SCOREBOARD_ENTRIES
  apart : board.blocks.Pairwise fun first second => ¬ Touching first second

theorem isSacked_iff {board : SackScoreboard} (fits : ∀ block ∈ board.blocks, FitsFrom base block)
    (seq : Seq) :
    board.isSacked seq = true ↔ Fusion.Covers (InBlock base) board.blocks seq := by
  rw [isSacked, List.any_eq_true]
  constructor
  · rintro ⟨block, member, inside⟩
    exact ⟨block, member, (inBlock_iff (fits block member) seq).mpr inside⟩
  · rintro ⟨block, member, inside⟩
    exact ⟨block, member, (inBlock_iff (fits block member) seq).mp inside⟩

/-- The blocks before the collapse, when the new block was merged into the first one it touches:
as if the two had been fused. -/
theorem merged_spec {board : SackScoreboard} {block : SackBlock} {merged : List SackBlock}
    (sound : Sound base board) (fitsBlock : FitsFrom base block)
    (found : mergeInto block board.blocks = some merged) :
    (∀ held ∈ merged, FitsFrom base held) ∧ merged.length = board.blocks.length ∧
      ∀ seq, Fusion.Covers (InBlock base) merged seq ↔
        Fusion.Covers (InBlock base) board.blocks seq ∨ InBlock base block seq := by
  have fits := sound.fits
  rcases mergeInto_spec found with ⟨left, cur, right, whole, touching, rfl⟩
  rw [whole] at fits ⊢
  have touching' : Touching cur block := by rw [Touching, touches_comm]; exact touching
  have step : Fusion.Step Touching merge (left ++ cur :: ([] ++ block :: right))
      (left ++ merge cur block :: ([] ++ right)) := Fusion.Step.fuse left [] right touching'
  have fitsAll : ∀ held ∈ left ++ cur :: ([] ++ block :: right), FitsFrom base held := by
    intro held member
    simp only [List.nil_append, List.mem_append, List.mem_cons] at member
    rcases member with inLeft | rfl | rfl | inRight
    · exact fits held (by simp [inLeft])
    · exact fits held (by simp)
    · exact fitsBlock
    · exact fits held (by simp [inRight])
  refine ⟨step.fits merge_lawful fitsAll, by simp, fun seq => ?_⟩
  have covers := step.covers merge_lawful fitsAll seq
  simp only [Fusion.covers_append, Fusion.covers_cons, List.nil_append] at covers ⊢
  rw [covers]
  tauto

/-- The collapse leaves what the blocks stand for, and no touching pair. -/
theorem collapse_spec {blocks : List SackBlock} (fits : ∀ block ∈ blocks, FitsFrom base block)
    (rounds : ℕ) :
    (∀ block ∈ collapse rounds blocks, FitsFrom base block) ∧
      (collapse rounds blocks).length ≤ blocks.length ∧
      ∀ seq, Fusion.Covers (InBlock base) (collapse rounds blocks) seq ↔
        Fusion.Covers (InBlock base) blocks seq :=
  Fusion.steps_spec merge_lawful (collapse_steps rounds blocks) fits

/-- The scoreboard is full and the new block touches none of its blocks. -/
def Evicts (board : SackScoreboard) (block : SackBlock) : Prop :=
  board.blocks.length = MAX_SACK_SCOREBOARD_ENTRIES ∧ ∀ held ∈ board.blocks, ¬ Touching block held

/-- Whether a block evicts another can be computed. -/
instance (board : SackScoreboard) (block : SackBlock) : Decidable (board.Evicts block) :=
  inferInstanceAs (Decidable (_ ∧ _))

/-- What a call to `insert` leaves: the board is sound again, and holds in addition the new block,
less the oldest one when that had to make room. -/
theorem insert_spec {board : SackScoreboard} {block : SackBlock} (sound : Sound base board)
    (fitsBlock : FitsFrom base block) :
    Sound base (board.insert block) ∧
      ∀ seq, Fusion.Covers (InBlock base) (board.insert block).blocks seq ↔
        Fusion.Covers (InBlock base)
          (if board.Evicts block then board.blocks.drop 1 else board.blocks) seq ∨
            InBlock base block seq := by
  rw [insert]
  cases found : mergeInto block board.blocks with
  | some merged =>
      rcases merged_spec sound fitsBlock found with ⟨fits, same, covers⟩
      rcases collapse_spec fits merged.length with ⟨fits', shorter, covers'⟩
      have few := sound.few
      have kept : ¬ board.Evicts block := by
        rintro ⟨-, missed⟩
        rcases mergeInto_spec found with ⟨left, cur, right, whole, touching, -⟩
        exact missed cur (by simp [whole]) touching
      refine ⟨⟨fits', by simp only; omega, ?_⟩, fun seq => ?_⟩
      · exact collapseOnce_eq_none (collapseOnce_collapse (Nat.le_refl _))
      · rw [covers' seq, covers seq, if_neg kept]
  | none =>
      have missed := mergeInto_eq_none found
      -- a block that touches no other one goes to the end
      have concat : ∀ blocks : List SackBlock, blocks.Sublist board.blocks →
          blocks.length < MAX_SACK_SCOREBOARD_ENTRIES → Sound base ⟨blocks ++ [block]⟩ := by
        intro blocks sublist room
        refine ⟨?_, ?_, ?_⟩
        · intro held member
          rcases List.mem_append.mp member with old | new
          · exact sound.fits held (sublist.subset old)
          · rcases List.mem_singleton.mp new with rfl
            exact fitsBlock
        · rw [List.length_append]
          exact room
        · refine List.pairwise_append.mpr
            ⟨sound.apart.sublist sublist, List.pairwise_singleton _ _, ?_⟩
          intro held old new isNew touching
          rcases List.mem_singleton.mp isNew with rfl
          rw [Touching, touches_comm] at touching
          exact missed held (sublist.subset old) touching
      by_cases room : board.blocks.length < MAX_SACK_SCOREBOARD_ENTRIES
      · have kept : ¬ board.Evicts block := fun evicts => by
          have full := evicts.1
          omega
        rw [if_neg kept]
        simp only [room, if_true]
        exact ⟨concat board.blocks (List.Sublist.refl _) room, fun seq => by simp⟩
      · have few := sound.few
        have full : board.blocks.length = MAX_SACK_SCOREBOARD_ENTRIES := by omega
        have evicts : board.Evicts block := ⟨full, missed⟩
        have shorter : (board.blocks.drop 1).length < MAX_SACK_SCOREBOARD_ENTRIES := by
          rw [List.length_drop, full]
          decide
        rw [if_pos evicts]
        simp only [room, if_false]
        exact ⟨concat _ (List.drop_sublist 1 _) shorter, fun seq => by simp⟩

/-- What a call to `prune_below` leaves of one block. -/
theorem pruned_spec {block : SackBlock} (fits : FitsFrom base block) {sndUna : Seq}
    (near : offset base sndUna < 2 ^ 31) (kept : seqLe block.right sndUna = false) :
    FitsFrom base ⟨if seqLe block.left sndUna then sndUna else block.left, block.right⟩ ∧
      offset base (if seqLe block.left sndUna then sndUna else block.left) =
        max (offset base block.left) (offset base sndUna) := by
  have nonempty := fits.1
  have right := fits.2
  rw [seqLe_offset base right near, decide_eq_false_iff_not] at kept
  rw [seqLe_offset base fits.left_near near]
  by_cases ordered : offset base block.left ≤ offset base sndUna
  · rw [decide_eq_true ordered, if_pos rfl, Nat.max_eq_right ordered]
    exact ⟨⟨by simp only; omega, right⟩, rfl⟩
  · rw [decide_eq_false ordered, if_neg Bool.false_ne_true, Nat.max_eq_left (by omega)]
    exact ⟨fits, rfl⟩

theorem pruneBelow_spec {board : SackScoreboard} {sndUna : Seq} (sound : Sound base board)
    (near : offset base sndUna < 2 ^ 31) :
    Sound base (board.pruneBelow sndUna) ∧
      ∀ seq, Fusion.Covers (InBlock base) (board.pruneBelow sndUna).blocks seq ↔
        Fusion.Covers (InBlock base) board.blocks seq ∧ offset base sndUna ≤ offset base seq := by
  have each : ∀ block ∈ board.blocks, seqLe block.right sndUna = false →
      FitsFrom base ⟨if seqLe block.left sndUna then sndUna else block.left, block.right⟩ ∧
        offset base (if seqLe block.left sndUna then sndUna else block.left) =
          max (offset base block.left) (offset base sndUna) := fun block member kept =>
    pruned_spec (sound.fits block member) near kept
  refine ⟨⟨?_, ?_, ?_⟩, fun seq => ?_⟩
  · intro pruned member
    rcases List.mem_map.mp member with ⟨block, inKept, rfl⟩
    rcases List.mem_filter.mp inKept with ⟨inBoard, kept⟩
    exact (each block inBoard (by simpa using kept)).1
  · rw [pruneBelow, List.length_map]
    exact Nat.le_trans (List.length_filter_le ..) sound.few
  · refine List.pairwise_map.mpr ?_
    have apart := sound.apart.filter fun block => !seqLe block.right sndUna
    refine apart.imp_of_mem fun {first second} inFirst inSecond missed touching => missed ?_
    rcases List.mem_filter.mp inFirst with ⟨boardFirst, keptFirst⟩
    rcases List.mem_filter.mp inSecond with ⟨boardSecond, keptSecond⟩
    rcases each first boardFirst (by simpa using keptFirst) with ⟨fitsFirst, leftFirst⟩
    rcases each second boardSecond (by simpa using keptSecond) with ⟨fitsSecond, leftSecond⟩
    have meet := (touches_iff fitsFirst fitsSecond).mp touching
    simp only [leftFirst, leftSecond] at meet
    -- what is left of two blocks touches only where the blocks did
    refine (touches_iff (sound.fits first boardFirst) (sound.fits second boardSecond)).mpr ?_
    omega
  · constructor
    · rintro ⟨pruned, member, inside⟩
      rcases List.mem_map.mp member with ⟨block, inKept, rfl⟩
      rcases List.mem_filter.mp inKept with ⟨inBoard, kept⟩
      have left := (each block inBoard (by simpa using kept)).2
      rcases inside with ⟨lower, upper⟩
      rw [left] at lower
      exact ⟨⟨block, inBoard, by omega, upper⟩, by omega⟩
    · rintro ⟨⟨block, inBoard, lower, upper⟩, above⟩
      have kept : seqLe block.right sndUna = false := by
        rw [seqLe_offset base (sound.fits block inBoard).2 near, decide_eq_false_iff_not]
        omega
      refine ⟨_, List.mem_map.mpr ⟨block, List.mem_filter.mpr ⟨inBoard, by simp [kept]⟩, rfl⟩, ?_,
        upper⟩
      rw [(each block inBoard kept).2]
      omega

end Calls

section Runs

/-- A call on the scoreboard. -/
inductive Call where
  | insert (block : SackBlock)
  | pruneBelow (sndUna : Seq)
deriving DecidableEq, Repr

/-- One call on a scoreboard. -/
def apply (board : SackScoreboard) : Call → SackScoreboard
  | .insert block => board.insert block
  | .pruneBelow sndUna => board.pruneBelow sndUna

/-- The scoreboard after a sequence of calls. -/
def after (calls : List Call) : SackScoreboard :=
  calls.foldl apply new

/-- The numbers a call names lie less than `2^31` ahead of `base`, and a block is not empty. -/
def Call.FitsFrom (base : Seq) : Call → Prop
  | .insert block => SackScoreboard.FitsFrom base block
  | .pruneBelow sndUna => offset base sndUna < 2 ^ 31

/-- Whether a call fits can be computed. -/
instance (base : Seq) : (call : Call) → Decidable (call.FitsFrom base)
  | .insert block => inferInstanceAs (Decidable (SackScoreboard.FitsFrom base block))
  | .pruneBelow sndUna => inferInstanceAs (Decidable (offset base sndUna < 2 ^ 31))

/-- A single block holds the number, by the test `is_sacked` applies to each. -/
def holds (block : SackBlock) (seq : Seq) : Bool :=
  seqLe block.left seq && seqLt seq block.right

/-- The number lies in the oldest block, which `insert` gives up for the new one. -/
def Forgets (board : SackScoreboard) (block : SackBlock) (seq : Seq) : Prop :=
  board.Evicts block ∧ ∃ oldest, board.blocks.head? = some oldest ∧ holds oldest seq = true

variable {base : Seq}

theorem sound_new : Sound base new :=
  ⟨by simp [new], by simp [new], List.Pairwise.nil⟩

theorem Sound.apply {board : SackScoreboard} (sound : Sound base board) {call : Call}
    (fits : call.FitsFrom base) : Sound base (board.apply call) := by
  cases call with
  | insert block => exact (insert_spec sound fits).1
  | pruneBelow sndUna => exact (pruneBelow_spec sound fits).1

/-- The scoreboard is sound after every sequence of calls. -/
theorem sound_after {calls : List Call} (fits : ∀ call ∈ calls, call.FitsFrom base) :
    Sound base (after calls) := by
  have run : ∀ board, Sound base board → Sound base (calls.foldl SackScoreboard.apply board) := by
    induction calls with
    | nil => exact fun _ sound => sound
    | cons call later ih =>
        intro board sound
        exact ih (fun next member => fits next (List.mem_cons_of_mem _ member)) _
          (sound.apply (fits call (List.mem_cons_self ..)))
  exact run new sound_new

/-- The numbers of a board but for those of its oldest block. -/
theorem Sound.covers_drop_one {board : SackScoreboard} (sound : Sound base board) (seq : Seq) :
    Fusion.Covers (InBlock base) (board.blocks.drop 1) seq ↔
      Fusion.Covers (InBlock base) board.blocks seq ∧
        ¬ ∃ oldest, board.blocks.head? = some oldest ∧ holds oldest seq = true := by
  rcases sound with ⟨fits, -, apart⟩
  cases whole : board.blocks with
  | nil => simp
  | cons oldest rest =>
      rw [whole] at fits apart
      have fitsOldest := fits oldest (List.mem_cons_self ..)
      have inOldest : holds oldest seq = true ↔ InBlock base oldest seq :=
        (inBlock_iff fitsOldest seq).symm
      -- no later block holds a number of the oldest one
      have beside : Fusion.Covers (InBlock base) rest seq → ¬ InBlock base oldest seq := by
        rintro ⟨block, member, lower, upper⟩ ⟨lower', upper'⟩
        refine (List.pairwise_cons.mp apart).1 block member ?_
        refine (touches_iff fitsOldest (fits block (List.mem_cons_of_mem _ member))).mpr ?_
        omega
      simp only [List.drop_succ_cons, List.drop_zero, List.head?_cons, Option.some.injEq,
        exists_eq_left', inOldest, Fusion.covers_cons]
      tauto

/-- After every sequence of calls whose numbers lie in a span below `2^31`, the scoreboard holds
at most four non-empty blocks that are pairwise apart. A further insertion adds the numbers of its
block and forgets nothing but the oldest of four blocks none of which the new one touches, a
further pruning removes the numbers below its bound, and the collapse loop comes to its end within
as many rounds as there are blocks. -/
theorem scoreboard_exact (base : Seq) (calls : List Call)
    (fits : ∀ call ∈ calls, call.FitsFrom base) :
    (after calls).blocks.length ≤ 4 ∧
      (∀ block ∈ (after calls).blocks, seqLt block.left block.right = true) ∧
      ((after calls).blocks.Pairwise fun first second =>
        seqLt first.right second.left = true ∨ seqLt second.right first.left = true) ∧
      (∀ block, FitsFrom base block → ∀ seq,
        ((after calls).insert block).isSacked seq = true ↔
          ((after calls).isSacked seq = true ∧ ¬ (after calls).Forgets block seq) ∨
            holds block seq = true) ∧
      (∀ sndUna, offset base sndUna < 2 ^ 31 → ∀ seq,
        ((after calls).pruneBelow sndUna).isSacked seq = true ↔
          (after calls).isSacked seq = true ∧ seqLe sndUna seq = true) ∧
      ∀ blocks rounds, blocks.length ≤ rounds →
        collapseOnce (collapse rounds blocks) = none ∧
          collapse rounds blocks = collapse blocks.length blocks := by
  have sound := sound_after fits
  refine ⟨sound.few, ?_, ?_, ?_, ?_, ?_⟩
  · intro block member
    have fitsBlock := sound.fits block member
    rw [seqLt_offset base fitsBlock.left_near fitsBlock.2, decide_eq_true_iff]
    exact fitsBlock.1
  · refine sound.apart.imp_of_mem fun {first second} inFirst inSecond missed => ?_
    exact apart_of_not_touches (sound.fits first inFirst) (sound.fits second inSecond)
      (Bool.eq_false_iff.mpr missed)
  · intro block fitsBlock seq
    rcases insert_spec sound fitsBlock with ⟨soundAfter, covers⟩
    rw [isSacked_iff soundAfter.fits, isSacked_iff sound.fits, covers seq, Forgets, holds,
      ← inBlock_iff fitsBlock]
    by_cases evicts : (after calls).Evicts block
    · rw [if_pos evicts, sound.covers_drop_one seq]
      simp only [evicts, true_and]
    · rw [if_neg evicts]
      simp only [evicts, false_and, not_false_eq_true, and_true]
  · intro sndUna near seq
    rcases pruneBelow_spec sound near with ⟨soundAfter, covers⟩
    rw [isSacked_iff soundAfter.fits, isSacked_iff sound.fits, covers seq]
    refine and_congr_right fun covered => ?_
    rcases covered with ⟨block, member, lower, upper⟩
    have high := (sound.fits block member).2
    rw [seqLe_offset base near (by omega), decide_eq_true_iff]
  · intro blocks rounds enough
    exact ⟨collapseOnce_collapse enough, collapse_of_length_le enough⟩

/-- Blocks on both sides of the wrap: two of them are bridged by a third, and the board is full
when the last one comes. -/
def wrappingCalls : List Call :=
  [.insert ⟨0xFFFFFF00#32, 0xFFFFFF40#32⟩, .insert ⟨0x40#32, 0x80#32⟩,
    .insert ⟨0xFFFFFF30#32, 0x40#32⟩, .pruneBelow 0xFFFFFF20#32, .insert ⟨0x100#32, 0x180#32⟩,
    .insert ⟨0x200#32, 0x280#32⟩, .insert ⟨0x300#32, 0x380#32⟩]

theorem scoreboard_exact_wrapping :
    (after wrappingCalls).blocks.length ≤ 4 ∧
      (((after wrappingCalls).insert ⟨0x400#32, 0x480#32⟩).isSacked 0x10#32 = true ↔
        ((after wrappingCalls).isSacked 0x10#32 = true ∧
            ¬ (after wrappingCalls).Forgets ⟨0x400#32, 0x480#32⟩ 0x10#32) ∨
          holds ⟨0x400#32, 0x480#32⟩ 0x10#32 = true) ∧
      (((after wrappingCalls).pruneBelow 0x140#32).isSacked 0x150#32 = true ↔
        (after wrappingCalls).isSacked 0x150#32 = true ∧ seqLe 0x140#32 0x150#32 = true) := by
  have exact := scoreboard_exact 0xFFFFFF00#32 wrappingCalls (by decide)
  exact ⟨exact.1, exact.2.2.2.1 _ (by decide) _, exact.2.2.2.2.1 _ (by decide) _⟩

end Runs

end SackScoreboard

end DpdkTcp
