import DpdkTcp.Lib.Places
import DpdkTcp.Route.Shape

/-!
# The SACK blocks of an ACK

`emit_ack` reports the pieces of the reorder queue as they are stored: the piece
that holds the left edge of the trigger first, then the highest others. Pieces
that touch are reported one by one, so a block is a whole range of buffered
bytes exactly where the piece it names touches no other.
-/

namespace DpdkTcp

open Intervals Serial

/-! ### The blocks as they are pushed -/

namespace TcpOpts

variable {opts : TcpOpts}

theorem liveSackBlocks_push (room : opts.sackBlockCount < MAX_SACK_BLOCKS_EMIT)
    (block : SackBlock) :
    (opts.pushSackBlock block).liveSackBlocks = opts.liveSackBlocks ++ [block] ∧
      (opts.pushSackBlock block).sackBlockCount = opts.sackBlockCount + 1 := by
  have slots : opts.sackBlockCount < opts.sackBlocks.toList.length := by
    rw [Vector.length_toList]
    exact Nat.lt_trans room (by decide)
  have pushed : opts.pushSackBlock block =
      { opts with
        sackBlocks := opts.sackBlocks.setIfInBounds opts.sackBlockCount block
        sackBlockCount := opts.sackBlockCount + 1 } := if_neg (Nat.not_le.mpr room)
  rw [pushed]
  refine ⟨?_, rfl⟩
  dsimp only [liveSackBlocks]
  rw [Vector.toList_setIfInBounds, List.take_add_one, List.getElem?_set_self slots,
    List.take_set_of_le (Nat.le_refl _)]
  rfl

theorem liveSackBlocks_pushAll (blocks : List SackBlock)
    (room : opts.sackBlockCount + blocks.length ≤ MAX_SACK_BLOCKS_EMIT) :
    (blocks.foldl pushSackBlock opts).liveSackBlocks = opts.liveSackBlocks ++ blocks := by
  induction blocks generalizing opts with
  | nil => rw [List.foldl_nil, List.append_nil]
  | cons block rest ih =>
      rw [List.length_cons] at room
      rcases liveSackBlocks_push (by omega : opts.sackBlockCount < MAX_SACK_BLOCKS_EMIT) block with
        ⟨live, count⟩
      rw [List.foldl_cons, ih (by rw [count]; omega), live, List.append_assoc,
        List.singleton_append]

end TcpOpts

/-- The loop behind the trigger's block pushes the first `cap` other blocks. -/
theorem pushRemaining_eq (trigger cap : ℕ) (ranges : List ((Seq × Seq) × ℕ)) (opts : TcpOpts) :
    (pushRemaining trigger cap ranges opts).1 =
      ((((ranges.filter fun entry => decide (entry.2 ≠ trigger)).map Prod.fst).take cap).map
        fun range => ⟨range.1, range.2⟩).foldl TcpOpts.pushSackBlock opts := by
  induction ranges generalizing cap opts with
  | nil => simp [pushRemaining]
  | cons entry rest ih =>
      rcases entry with ⟨range, index⟩
      by_cases same : index = trigger
      · unfold pushRemaining
        rw [if_pos same, ih, List.filter_cons_of_neg (by simpa using same)]
      · unfold pushRemaining
        rw [if_neg same, List.filter_cons_of_pos (by simpa using same)]
        cases cap with
        | zero => rfl
        | succ cap =>
            dsimp only
            rw [ih]
            rfl

/-! ### The pieces an ACK names -/

/-- The range of a stored piece, as it is reported. -/
def OooSegment.block (seg : OooSegment) : SackBlock :=
  ⟨seg.seq, seg.endSeq⟩

namespace TcpConn

/-- The piece that holds the left edge of the trigger. -/
def triggerPiece (conn : TcpConn) : Option OooSegment :=
  conn.lastSackTrigger.bind fun trigger =>
    conn.recv.reorder.segments.find? fun seg =>
      seqLe seg.seq trigger.1 && seqLt trigger.1 seg.endSeq

/-- The pieces an ACK names: that piece and the two highest others, or the three highest. -/
def sackedPieces (conn : TcpConn) : List OooSegment :=
  match conn.triggerPiece with
  | some piece =>
      piece :: ((conn.recv.reorder.segments.filter fun other => decide (other ≠ piece)).reverse.take
        (MAX_SACK_BLOCKS_EMIT - 1))
  | none => conn.recv.reorder.segments.reverse.take MAX_SACK_BLOCKS_EMIT

/-- The ranges other than the one at a place, highest first. -/
theorem ranges_other {segs : List OooSegment} (distinct : segs.Nodup) {place : ℕ}
    {piece : OooSegment} (found : segs[place]? = some piece) :
    ((((segs.map fun seg => (seg.seq, seg.endSeq)).zipIdx.reverse.filter fun entry =>
        decide (entry.2 ≠ place)).map Prod.fst).map fun range => (⟨range.1, range.2⟩ : SackBlock)) =
      (segs.filter fun other => decide (other ≠ piece)).reverse.map OooSegment.block := by
  rw [← Places.filter_zipIdx_ne distinct found, List.zipIdx_map, List.filter_reverse,
    List.filter_map, List.map_reverse, List.map_reverse, List.map_reverse, List.map_map,
    List.map_map, List.map_map]
  rfl

/-- Without a trigger, the highest pieces are pushed. -/
theorem liveSackBlocks_highest (segs : List OooSegment) {opts : TcpOpts}
    (blank : opts.sackBlockCount = 0) :
    ((((segs.map fun seg => (seg.seq, seg.endSeq)).reverse.take
        (min segs.length MAX_SACK_BLOCKS_EMIT)).foldl
          (fun opts range => opts.pushSackBlock ⟨range.1, range.2⟩) opts).liveSackBlocks) =
      (segs.reverse.take MAX_SACK_BLOCKS_EMIT).map OooSegment.block := by
  have none : opts.liveSackBlocks = [] := by
    rw [TcpOpts.liveSackBlocks, blank, List.take_zero]
  have cut : segs.reverse.take (min segs.length MAX_SACK_BLOCKS_EMIT) =
      segs.reverse.take MAX_SACK_BLOCKS_EMIT := by
    rw [List.take_eq_take_iff, List.length_reverse]
    omega
  have pushed := @TcpOpts.liveSackBlocks_pushAll opts
    ((segs.reverse.take MAX_SACK_BLOCKS_EMIT).map OooSegment.block) (by
      rw [blank, List.length_map, List.length_take]
      omega)
  rw [none, List.nil_append] at pushed
  rw [← pushed, ← List.map_reverse, ← List.map_take, cut, List.foldl_map, List.foldl_map]
  rfl

/-- The blocks of the ACK are the ranges of the pieces it names. -/
theorem liveSackBlocks_ackOutcome {conn : TcpConn} (distinct : conn.recv.reorder.segments.Nodup)
    (sackEnabled : conn.sackEnabled = true) (nowNs : ℕ) :
    (conn.ackOutcome nowNs).opts.liveSackBlocks = conn.sackedPieces.map OooSegment.block := by
  have looked : conn.triggerPiece =
      (conn.lastSackTrigger.bind fun trigger => conn.recv.reorder.segments.findIdx? fun seg =>
        seqLe seg.seq trigger.1 && seqLt trigger.1 seg.endSeq).bind
        fun place => conn.recv.reorder.segments[place]? := by
    unfold triggerPiece
    cases conn.lastSackTrigger with
    | none => rfl
    | some trigger => exact List.find?_eq_bind_findIdx?_getElem?
  dsimp only [ackOutcome, buildAckOutcome]
  rw [sackEnabled, Bool.true_and, List.isEmpty_map]
  unfold sackedPieces
  rw [looked]
  simp only [List.findIdx?_map, Function.comp_def]
  generalize searched : (conn.lastSackTrigger.bind fun trigger =>
    conn.recv.reorder.segments.findIdx? fun seg =>
      seqLe seg.seq trigger.1 && seqLt trigger.1 seg.endSeq) = place
  cases place with
  | none =>
      dsimp only [Option.bind_none]
      split
      · rw [List.length_map]
        exact liveSackBlocks_highest _ rfl
      · rename_i empty
        have nothing : conn.recv.reorder.segments = [] := by simpa using empty
        rw [nothing]
        rfl
  | some idx =>
      obtain ⟨piece, found⟩ : ∃ piece, conn.recv.reorder.segments[idx]? = some piece := by
        rcases Option.bind_eq_some_iff.mp searched with ⟨trigger, _, first⟩
        rcases List.findIdx?_eq_some_iff_getElem.mp first with ⟨inside, _⟩
        exact ⟨_, List.getElem?_eq_getElem inside⟩
      have member := List.mem_of_getElem? found
      have some_stored : ¬ conn.recv.reorder.segments.isEmpty = true := by
        rw [List.isEmpty_iff]
        exact List.ne_nil_of_mem member
      rw [if_pos (by simpa using some_stored), Option.bind_some, found]
      dsimp only
      have range : (conn.recv.reorder.segments.map fun seg => (seg.seq, seg.endSeq)).getD idx
          (0#32, 0#32) = (piece.seq, piece.endSeq) := by
        rw [List.getD_eq_getElem?_getD, List.getElem?_map, found]
        rfl
      rw [range, pushRemaining_eq, List.map_take, ranges_other distinct found]
      generalize rest : (conn.recv.reorder.segments.filter fun other => decide (other ≠ piece)) =
        others
      have fewer : others.length < conn.recv.reorder.segments.length := by
        rw [← rest]
        exact List.length_filter_lt_length_iff_exists.mpr ⟨piece, member, by simp⟩
      have cut : (others.reverse.map OooSegment.block).take
          (min (conn.recv.reorder.segments.map fun seg => (seg.seq, seg.endSeq)).length
            MAX_SACK_BLOCKS_EMIT - 1) =
          (others.reverse.take (MAX_SACK_BLOCKS_EMIT - 1)).map OooSegment.block := by
        rw [List.map_take, List.take_eq_take_iff, List.length_map, List.length_map,
          List.length_reverse]
        omega
      have room : (conn.txOptions nowNs).sackBlockCount < MAX_SACK_BLOCKS_EMIT :=
        (by decide : 0 < MAX_SACK_BLOCKS_EMIT)
      rcases TcpOpts.liveSackBlocks_push room piece.block with ⟨first, one⟩
      rw [cut]
      refine (TcpOpts.liveSackBlocks_pushAll _ ?_).trans ?_
      · refine (Nat.add_le_add_left (Nat.le_of_eq (List.length_map _)) _).trans ?_
        refine (Nat.add_le_add (Nat.le_of_eq one) (List.length_take_le _ _)).trans ?_
        exact (by decide : 0 + 1 + (MAX_SACK_BLOCKS_EMIT - 1) ≤ MAX_SACK_BLOCKS_EMIT)
      · exact congrArg (fun blocks => blocks ++ _) first

end TcpConn

/-! ### Blocks and buffered bytes -/

/-- The bytes of a block run from its left edge up to its right edge. -/
def SackBlock.covers (block : SackBlock) (seq : Seq) : Prop :=
  (seq - block.left).toNat < (block.right - block.left).toNat

/-- The block is a maximal contiguous range of buffered bytes. -/
structure SackBlock.MaximalIn (block : SackBlock) (queue : ReorderQueue) : Prop where
  nonempty : block.left ≠ block.right
  buffered : ∀ seq, block.covers seq → queue.holds seq = true
  below : queue.holds (block.left - 1) = false
  above : queue.holds block.right = false

/-- A stored piece ends where another one begins, or begins where another one ends. -/
def OooSegment.touches (piece other : OooSegment) : Prop :=
  other.endSeq = piece.seq ∨ piece.endSeq = other.seq

/-- Whether two pieces touch can be computed. -/
instance (piece other : OooSegment) : Decidable (piece.touches other) :=
  inferInstanceAs (Decidable (_ ∨ _))

namespace ReorderQueue.Tidy

variable {queue : ReorderQueue} {base : Seq} {width : ℕ} {piece : OooSegment}

theorem length_block (tidy : queue.Tidy base width) (member : piece ∈ queue.segments) :
    (piece.block.right - piece.block.left).toNat = piece.len := by
  have short := tidy.spread.short piece member
  dsimp only [OooSegment.block]
  rw [OooSegment.endSeq_eq base, ← OooSegment.point_ahead base piece,
    toNat_point_sub_point base (by omega) (by omega)]
  omega

/-- The bytes of a block are those of its piece. -/
theorem covers_iff (tidy : queue.Tidy base width) (member : piece ∈ queue.segments) (seq : Seq) :
    piece.block.covers seq ↔ inWindow piece.seq seq piece.len = true := by
  have positive := tidy.spread.nonempty piece member
  rw [SackBlock.covers, tidy.length_block member, inWindow, if_neg (by omega),
    decide_eq_true_iff]
  exact Iff.rfl

theorem pieces_nodup (tidy : queue.Tidy base width) : queue.segments.Nodup := by
  refine tidy.spread.spread.imp_of_mem ?_
  rintro first second inFirst _ behind rfl
  have positive := tidy.spread.nonempty first inFirst
  omega

/-- The bytes of a piece, by their distances from `base`. -/
theorem inWindow_iff (tidy : queue.Tidy base width) (small : width < 2 ^ 31)
    (member : piece ∈ queue.segments) (seq : Seq) :
    inWindow piece.seq seq piece.len = true ↔
      piece.ahead base ≤ (seq - base).toNat ∧
        (seq - base).toNat < piece.ahead base + piece.len := by
  have positive := tidy.spread.nonempty piece member
  have inside := tidy.spread.before piece member
  have gap : (seq - piece.seq).toNat =
      ((seq - base).toNat + 2 ^ 32 - piece.ahead base) % 2 ^ 32 := by
    rw [OooSegment.ahead]
    simp only [BitVec.toNat_sub]
    omega
  have near := (seq - base).isLt
  rw [inWindow, if_neg (by omega), decide_eq_true_iff, gap]
  constructor
  · intro held
    by_cases before : (seq - base).toNat < piece.ahead base
    · rw [Nat.mod_eq_of_lt (by omega)] at held
      omega
    · omega
  · rintro ⟨begins, ends⟩
    rw [show (seq - base).toNat + 2 ^ 32 - piece.ahead base =
        (seq - base).toNat - piece.ahead base + 2 ^ 32 by omega,
      Nat.add_mod_right, Nat.mod_eq_of_lt (by omega)]
    omega

/-- Only one piece holds a byte. -/
theorem piece_unique (tidy : queue.Tidy base width) (small : width < 2 ^ 31)
    {other : OooSegment} (member : piece ∈ queue.segments) (present : other ∈ queue.segments)
    {seq : Seq} (held : inWindow piece.seq seq piece.len = true)
    (again : inWindow other.seq seq other.len = true) : piece = other := by
  rw [tidy.inWindow_iff small member] at held
  rw [tidy.inWindow_iff small present] at again
  rcases tidy.spread.spread.apart member present with same | behind | before
  · exact same
  · omega
  · omega

/-- The block of a piece is a whole range exactly when the piece touches no other. -/
theorem maximalIn_iff (tidy : queue.Tidy base width) (small : width < 2 ^ 31)
    (member : piece ∈ queue.segments) :
    piece.block.MaximalIn queue ↔ ∀ other ∈ queue.segments, ¬ piece.touches other := by
  have spread := tidy.spread.spread
  have nonempty := tidy.spread.nonempty
  have positive := nonempty piece member
  have ahead := tidy.spread.after piece member
  have inside := tidy.spread.before piece member
  have left : piece.block.left - 1 = point base (piece.ahead base - 1) := by
    have back := point_add base (piece.ahead base - 1) 1
    rw [Nat.sub_add_cancel ahead, OooSegment.point_ahead base piece] at back
    change piece.seq - 1 = _
    rw [back]
    exact BitVec.add_sub_cancel ..
  have right : piece.block.right = point base (piece.ahead base + piece.len) :=
    OooSegment.endSeq_eq base piece
  have below : queue.holds (piece.block.left - 1) = true ↔
      ∃ other ∈ queue.segments, other.ahead base + other.len = piece.ahead base := by
    rw [left, tidy.holds_iff small (by omega)]
    exact spread.covered_pred_iff nonempty member (by omega)
  have above : queue.holds piece.block.right = true ↔
      ∃ other ∈ queue.segments, piece.ahead base + piece.len = other.ahead base := by
    rw [right, tidy.holds_iff small (by omega)]
    exact spread.covered_end_iff nonempty member
  constructor
  · intro maximal other present touches
    have positive' := nonempty other present
    have inside' := tidy.spread.before other present
    rcases touches with ends | begins
    · rw [OooSegment.endSeq_eq base, ← OooSegment.point_ahead base piece,
        point_inj base (by omega) (by omega)] at ends
      exact Bool.eq_false_iff.mp maximal.below (below.mpr ⟨other, present, ends⟩)
    · rw [OooSegment.endSeq_eq base, ← OooSegment.point_ahead base other,
        point_inj base (by omega) (by omega)] at begins
      exact Bool.eq_false_iff.mp maximal.above (above.mpr ⟨other, present, begins⟩)
  · intro apart
    refine ⟨?_, ?_, ?_, ?_⟩
    · intro same
      have length := tidy.length_block member
      rw [same, BitVec.sub_self] at length
      simp at length
      omega
    · intro seq covered
      rw [tidy.covers_iff member] at covered
      exact List.any_eq_true.mpr ⟨piece, member, covered⟩
    · rw [Bool.eq_false_iff, Ne, below]
      rintro ⟨other, present, ends⟩
      apply apart other present
      left
      rw [OooSegment.endSeq_eq base, ends, OooSegment.point_ahead]
    · rw [Bool.eq_false_iff, Ne, above]
      rintro ⟨other, present, begins⟩
      apply apart other present
      right
      rw [OooSegment.endSeq_eq base, begins, OooSegment.point_ahead]

end ReorderQueue.Tidy

/-! ### What the blocks must say -/

/-- The SACK blocks of the ACK that answers a segment, where `before` is the queue the segment
found and `after` the one the ACK reports: few, distinct, maximal, and the first one with the
bytes the segment stored. -/
structure SackBlocksSound (before after : ReorderQueue) (sackEnabled : Bool)
    (blocks : List SackBlock) : Prop where
  few : blocks.length ≤ 3
  distinct : blocks.Nodup
  maximal : ∀ block ∈ blocks, block.MaximalIn after
  first : sackEnabled = true → (∃ seq, after.holds seq = true ∧ before.holds seq = false) →
    ∃ block ∈ blocks.head?, ∀ seq, after.holds seq = true → before.holds seq = false →
      block.covers seq

namespace TcpConn

variable {conn : TcpConn} {base : Seq} {width : ℕ}

/-- The piece an ACK names first: the one that holds the left edge of the trigger, or the
highest one. -/
def leadingPiece (conn : TcpConn) : Option OooSegment :=
  match conn.triggerPiece with
  | some piece => some piece
  | none => conn.recv.reorder.segments.getLast?

/-- No piece the ACK names touches another stored piece. -/
def SacksApart (conn : TcpConn) : Prop :=
  ∀ piece ∈ conn.sackedPieces, ∀ other ∈ conn.recv.reorder.segments, ¬ piece.touches other

/-- A piece that was not stored before is the one named first. -/
def LeadsWithNew (conn : TcpConn) (before : ReorderQueue) : Prop :=
  ∀ piece ∈ conn.recv.reorder.segments, piece ∉ before.segments → conn.leadingPiece = some piece

/-- Whether the reported pieces lie apart can be computed. -/
instance (conn : TcpConn) : Decidable conn.SacksApart :=
  inferInstanceAs (Decidable (∀ piece ∈ conn.sackedPieces,
    ∀ other ∈ conn.recv.reorder.segments, ¬ piece.touches other))

/-- Whether the new piece leads can be computed. -/
instance (conn : TcpConn) (before : ReorderQueue) : Decidable (conn.LeadsWithNew before) :=
  inferInstanceAs (Decidable (∀ piece ∈ conn.recv.reorder.segments,
    piece ∉ before.segments → conn.leadingPiece = some piece))

theorem triggerPiece_mem {piece : OooSegment} (named : conn.triggerPiece = some piece) :
    piece ∈ conn.recv.reorder.segments := by
  rcases Option.bind_eq_some_iff.mp named with ⟨trigger, _, found⟩
  exact List.mem_of_find?_eq_some found

theorem head?_sackedPieces (conn : TcpConn) : conn.sackedPieces.head? = conn.leadingPiece := by
  unfold sackedPieces leadingPiece
  split
  · rfl
  · rw [List.head?_take, if_neg (by decide), List.head?_reverse]

theorem sackedPieces_mem {piece : OooSegment} (named : piece ∈ conn.sackedPieces) :
    piece ∈ conn.recv.reorder.segments := by
  unfold sackedPieces at named
  split at named
  · rename_i trigger found
    rcases List.mem_cons.mp named with rfl | other
    · exact triggerPiece_mem found
    · exact List.mem_of_mem_filter (List.mem_reverse.mp (List.mem_of_mem_take other))
  · exact List.mem_reverse.mp (List.mem_of_mem_take named)

theorem length_sackedPieces_le (conn : TcpConn) : conn.sackedPieces.length ≤ 3 := by
  unfold sackedPieces
  split
  · rw [List.length_cons]
    exact Nat.succ_le_succ (List.length_take_le _ _)
  · exact List.length_take_le _ _

theorem sackedPieces_nodup (distinct : conn.recv.reorder.segments.Nodup) :
    conn.sackedPieces.Nodup := by
  unfold sackedPieces
  split
  · rename_i piece _
    refine List.nodup_cons.mpr ⟨?_, ?_⟩
    · intro again
      have other := List.of_mem_filter (List.mem_reverse.mp (List.mem_of_mem_take again))
      simp at other
    · exact (List.nodup_reverse.mpr (distinct.filter _)).sublist (List.take_sublist _ _)
  · exact (List.nodup_reverse.mpr distinct).sublist (List.take_sublist _ _)

end TcpConn

/-- Different pieces have different blocks. -/
theorem ReorderQueue.Tidy.block_inj {queue : ReorderQueue} {base : Seq} {width : ℕ}
    (tidy : queue.Tidy base width) (small : width < 2 ^ 31) {piece other : OooSegment}
    (member : piece ∈ queue.segments) (present : other ∈ queue.segments)
    (same : piece.block = other.block) : piece = other := by
  have positive := tidy.spread.nonempty piece member
  have positive' := tidy.spread.nonempty other present
  have left : piece.seq = other.seq := congrArg SackBlock.left same
  refine @piece_unique _ _ _ _ tidy small _ member present piece.seq ?_ ?_
  · simp [inWindow]
    omega
  · rw [left]
    simp [inWindow]
    omega

section Sound

variable {conn : TcpConn} {base : Seq} {width : ℕ} {before : ReorderQueue}

/-- The first block has the new bytes exactly when the new piece leads. -/
theorem TcpConn.leadsWithNew_iff (tidy : conn.recv.reorder.Tidy base width)
    (small : width < 2 ^ 31)
    (changed : before.segments ⊆ conn.recv.reorder.segments ∨
      conn.recv.reorder.segments ⊆ before.segments) :
    ((∃ seq, conn.recv.reorder.holds seq = true ∧ before.holds seq = false) →
      ∃ block ∈ (conn.sackedPieces.map OooSegment.block).head?,
        ∀ seq, conn.recv.reorder.holds seq = true → before.holds seq = false →
          block.covers seq) ↔
      conn.LeadsWithNew before := by
  -- the bytes of a new piece were not held before
  have fresh : ∀ piece ∈ conn.recv.reorder.segments, piece ∉ before.segments →
      conn.recv.reorder.holds piece.seq = true ∧ before.holds piece.seq = false := by
    intro piece member new
    have positive := tidy.spread.nonempty piece member
    have first : inWindow piece.seq piece.seq piece.len = true := by
      simp [inWindow]
      omega
    refine ⟨List.any_eq_true.mpr ⟨piece, member, first⟩, ?_⟩
    rw [Bool.eq_false_iff]
    intro held
    rcases List.any_eq_true.mp held with ⟨old, present, holds⟩
    rcases changed with kept | cut
    · have same := tidy.piece_unique small member (kept present) first holds
      exact new (same ▸ present)
    · exact new (cut member)
  have ofNew : ∀ seq, conn.recv.reorder.holds seq = true → before.holds seq = false →
      ∃ piece ∈ conn.recv.reorder.segments, piece ∉ before.segments ∧
        inWindow piece.seq seq piece.len = true := by
    intro seq held missing
    rcases List.any_eq_true.mp held with ⟨piece, member, holds⟩
    refine ⟨piece, member, ?_, holds⟩
    intro present
    exact Bool.eq_false_iff.mp missing (List.any_eq_true.mpr ⟨piece, present, holds⟩)
  rw [List.head?_map, conn.head?_sackedPieces]
  constructor
  · intro leads piece member new
    rcases fresh piece member new with ⟨held, missing⟩
    rcases leads ⟨_, held, missing⟩ with ⟨block, named, covers⟩
    rcases Option.map_eq_some_iff.mp named with ⟨leading, chosen, rfl⟩
    have inQueue : leading ∈ conn.recv.reorder.segments :=
      TcpConn.sackedPieces_mem (List.mem_of_mem_head? (conn.head?_sackedPieces.trans chosen))
    have holds := (tidy.covers_iff inQueue _).mp (covers _ held missing)
    have positive := tidy.spread.nonempty piece member
    have same := tidy.piece_unique small inQueue member holds (by simp [inWindow]; omega)
    rw [chosen, same]
  · rintro leads ⟨seq, held, missing⟩
    rcases ofNew seq held missing with ⟨piece, member, new, _⟩
    refine ⟨piece.block, by rw [leads piece member new]; rfl, ?_⟩
    intro other held' missing'
    rcases ofNew other held' missing' with ⟨piece', member', new', holds⟩
    have same := (leads piece' member' new').symm.trans (leads piece member new)
    rw [← Option.some.inj same]
    exact (tidy.covers_iff member' _).mpr holds

/-- The blocks of an ACK are sound exactly when the pieces it names touch no other and a new
piece leads. -/
theorem TcpConn.sackBlocksSound_iff (tidy : conn.recv.reorder.Tidy base width)
    (small : width < 2 ^ 31)
    (changed : before.segments ⊆ conn.recv.reorder.segments ∨
      conn.recv.reorder.segments ⊆ before.segments) (nowNs : ℕ) :
    SackBlocksSound before conn.recv.reorder conn.sackEnabled
        (conn.ackOutcome nowNs).opts.liveSackBlocks ↔
      (conn.sackEnabled = true → conn.SacksApart ∧ conn.LeadsWithNew before) := by
  cases enabled : conn.sackEnabled with
  | false =>
      have none : (conn.ackOutcome nowNs).opts.liveSackBlocks = [] := by
        dsimp only [TcpConn.ackOutcome, buildAckOutcome]
        rw [enabled]
        rfl
      rw [none]
      refine iff_of_true ⟨Nat.zero_le _, List.nodup_nil, nofun, nofun⟩ nofun
  | true =>
      rw [TcpConn.liveSackBlocks_ackOutcome tidy.pieces_nodup enabled]
      have leads := TcpConn.leadsWithNew_iff tidy small changed
      constructor
      · intro sound _
        refine ⟨?_, leads.mp (sound.first rfl)⟩
        intro piece named
        exact (tidy.maximalIn_iff small (TcpConn.sackedPieces_mem named)).mp
          (sound.maximal _ (List.mem_map_of_mem named))
      · intro condition
        rcases condition rfl with ⟨apart, new⟩
        refine ⟨?_, ?_, ?_, fun _ => leads.mpr new⟩
        · rw [List.length_map]
          exact conn.length_sackedPieces_le
        · refine List.Nodup.map_on ?_ (TcpConn.sackedPieces_nodup tidy.pieces_nodup)
          intro piece named other named' same
          exact tidy.block_inj small (TcpConn.sackedPieces_mem named)
            (TcpConn.sackedPieces_mem named') same
        · intro block named
          rcases List.mem_map.mp named with ⟨piece, chosen, rfl⟩
          exact (tidy.maximalIn_iff small (TcpConn.sackedPieces_mem chosen)).mpr
            (apart piece chosen)

end Sound

end DpdkTcp
