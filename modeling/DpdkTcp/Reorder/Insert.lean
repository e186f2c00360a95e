import DpdkTcp.Lib.Run
import DpdkTcp.Reorder.Drain

/-!
# Inserting into the reorder queue

An insert stores exactly the payload bytes that are not stored yet, lowest
first, as far as the cap allows, and leaves every stored segment as it is.
Together with the drain it keeps the queue valid over any sequence of calls
whose sequence numbers lie in a span of less than half the number space.
-/

namespace DpdkTcp

open Serial Slice Intervals

namespace ReorderQueue

/-- The byte at a position is one of the payload bytes that `insert` has to store: it is not
stored yet, and there is room for it behind the ones before it. -/
def Admits (queue : ReorderQueue) (base : Seq) (start len pos : ℕ) : Prop :=
  start ≤ pos ∧ pos < start + len ∧
    ¬ Covered (OooSegment.ahead base) OooSegment.len queue.segments pos ∧
    gaps (OooSegment.ahead base) OooSegment.len queue.segments start (pos - start) <
      queue.cap - queue.totalBytes

/-- What `insert` must do with a payload at `seq`, given the pieces it stores. -/
structure Inserts (queue : ReorderQueue) (base seq : Seq) (len : ℕ) (mbuf : RxMbuf)
    (mbufPayloadOffset : ℕ) (result : InsertResult) (pieces : List OooSegment) : Prop where
  stored : result.queue.segments.Perm (pieces ++ queue.segments)
  kept : queue.segments.Sublist result.queue.segments
  located : ∀ piece ∈ pieces,
    piece.mbuf = mbuf ∧ piece.offset = mbufPayloadOffset + (piece.seq - seq).toNat
  bytes : ∀ pos, Covered (OooSegment.ahead base) OooSegment.len pieces pos ↔
    queue.Admits base (seq - base).toNat len pos
  buffered : result.outcome.newlyBuffered = (pieces.map OooSegment.len).sum
  accounted : result.outcome.newlyBuffered + result.outcome.capDropped +
    Nat.count (fun offset => Covered (OooSegment.ahead base) OooSegment.len queue.segments
      ((seq - base).toNat + offset)) len = len
  retained : result.outcome.mbufRefRetained = true ↔ pieces ≠ []

end ReorderQueue

/-! ### Storing the pieces -/

theorem insertMerged_perm (new : OooSegment) (segs : List OooSegment) :
    (insertMerged new segs).Perm (new :: segs) := by
  rcases insertMerged_split new segs with ⟨left, right, rfl, merged, _⟩
  rw [merged]
  exact List.perm_middle

theorem sublist_insertMerged (new : OooSegment) (segs : List OooSegment) :
    segs.Sublist (insertMerged new segs) := by
  rcases insertMerged_split new segs with ⟨left, right, rfl, merged, _⟩
  rw [merged]
  exact (List.sublist_cons_self new right).append_left left

/-- The segment a planned piece becomes. -/
def pieceSegment (mbuf : RxMbuf) (piece : Seq × ℕ × ℕ) : OooSegment :=
  ⟨piece.1, mbuf, piece.2.1, piece.2.2⟩

theorem insertPieces_perm (mbuf : RxMbuf) (pieces : List (Seq × ℕ × ℕ)) (segs : List OooSegment) :
    (pieces.foldl (fun stored piece => insertMerged (pieceSegment mbuf piece) stored) segs).Perm
      (pieces.map (pieceSegment mbuf) ++ segs) := by
  induction pieces generalizing segs with
  | nil => exact .refl _
  | cons piece rest ih =>
      rw [List.foldl_cons, List.map_cons, List.cons_append]
      have first := insertMerged_perm (pieceSegment mbuf piece) segs
      exact (ih _).trans ((first.append_left _).trans List.perm_middle)

theorem sublist_insertPieces (mbuf : RxMbuf) (pieces : List (Seq × ℕ × ℕ))
    (segs : List OooSegment) :
    segs.Sublist
      (pieces.foldl (fun stored piece => insertMerged (pieceSegment mbuf piece) stored) segs) := by
  induction pieces generalizing segs with
  | nil => exact List.Sublist.refl _
  | cons piece rest ih => exact (sublist_insertMerged _ segs).trans (ih _)

section Carve

variable {base : Seq} {segs : List OooSegment} {start cursor : ℕ} {carve : Carve}
  {incoming : Incoming}

/-- A planned piece lies in the buffer as far behind the payload's first byte as in the stream. -/
theorem Carving.located (carving : Carving base segs start incoming cursor carve)
    (seq : incoming.seq = point base start)
    (small : incoming.mbufPayloadOffset + incoming.payloadLen < 65536)
    (near : start + incoming.payloadLen < 2 ^ 32) :
    ∀ piece ∈ carve.toInsert,
      piece.2.1 = incoming.mbufPayloadOffset + (piece.1 - incoming.seq).toNat := by
  induction carving with
  | begins => exact nofun
  | @fills cursor wanted carve carving inside clear located =>
      have after := carving.after
      have off : (carve.cursor - incoming.seq).toNat = cursor - start := by
        rw [carving.cursor_eq, seq]
        exact toNat_point_sub_point base after (by omega)
      intro piece member
      dsimp only [Carve.store] at member
      split at member
      · rcases List.mem_append.mp member with old | new
        · exact located piece old
        · rcases List.mem_singleton.mp new with rfl
          dsimp only
          rw [off, asU16_of_lt (by omega : cursor - start < 65536), asU16_of_lt (by omega)]
      · exact located piece member
  | passes carving ordered covered located => exact located

/-- A planned piece ends with the payload. -/
theorem Filled.inside {len : ℕ} (filled : Filled base segs start incoming len carve)
    {piece : Seq × ℕ × ℕ} (member : piece ∈ carve.toInsert) (positive : 0 < piece.2.2) :
    start ≤ (piece.1 - base).toNat ∧ (piece.1 - base).toNat + piece.2.2 ≤ start + len := by
  have first := (filled.pieces (piece.1 - base).toNat).mp
    ⟨piece, member, Nat.le_refl _, Nat.lt_add_of_pos_right positive⟩
  have last := (filled.pieces ((piece.1 - base).toNat + piece.2.2 - 1)).mp
    ⟨piece, member, by dsimp only; omega, by dsimp only; omega⟩
  omega

theorem covered_map_pieceSegment (mbuf : RxMbuf) (pieces : List (Seq × ℕ × ℕ)) (pos : ℕ) :
    Covered (OooSegment.ahead base) OooSegment.len (pieces.map (pieceSegment mbuf)) pos ↔
      Covered (fun piece : Seq × ℕ × ℕ => (piece.1 - base).toNat) (fun piece => piece.2.2)
        pieces pos := by
  simp [Covered, pieceSegment, OooSegment.ahead]

end Carve

namespace ReorderQueue

variable {queue : ReorderQueue} {base seq : Seq} {width : ℕ} {payload : List UInt8}
  {mbuf : RxMbuf} {offset : ℕ}

/-- What the carving pass plans for a payload in the span. -/
theorem Valid.carved (valid : queue.Valid base width) (small : width < 2 ^ 31)
    (inSpan : (seq - base).toNat + payload.length ≤ width) (short : payload.length < 65536)
    (offset : ℕ) :
    Planned base queue.segments (seq - base).toNat width (queue.carve seq payload offset) ∧
      Filled base queue.segments (seq - base).toNat
        ⟨seq, payload.length, offset, queue.cap, queue.totalBytes⟩ payload.length
        (queue.carve seq payload offset) ∧
      (offset + payload.length < 65536 → ∀ piece ∈ (queue.carve seq payload offset).toInsert,
        piece.2.1 = offset + (piece.1 - seq).toNat) := by
  have seq_eq := point_toNat_sub base seq
  generalize (seq - base).toNat = start at inSpan seq_eq
  subst seq_eq
  rcases valid.spread.carving small payload inSpan offset with
    ⟨stop, mark, reached, bounded, carving⟩
  have planned := carving.planned short (by dsimp only; omega)
  have filled := carving.filled short (by dsimp only; omega)
  dsimp only at filled
  rw [show min (stop - start) payload.length = payload.length by omega] at filled
  refine ⟨planned.moveTo bounded _, filled.passes (Nat.le_refl _) ?_ _, ?_⟩
  · intro pos above below
    omega
  · intro room
    exact carving.located rfl room (by dsimp only; omega)

/-- An insert of a payload in the span does what it must, and keeps the queue valid. -/
theorem Valid.insert (valid : queue.Valid base width) (small : width < 2 ^ 31)
    (window : slice mbuf.data offset payload.length = payload)
    (inSpan : (seq - base).toNat + payload.length ≤ width) :
    (queue.insert seq payload mbuf offset).queue.Valid base width ∧
      ∃ pieces, queue.Inserts base seq payload.length mbuf offset
        (queue.insert seq payload mbuf offset) pieces := by
  dsimp only [ReorderQueue.insert]
  split
  · rename_i empty
    rw [List.isEmpty_iff.mp empty]
    refine ⟨valid, [], .refl _, List.Sublist.refl _, nofun, ?_, rfl, rfl, by simp⟩
    intro pos
    constructor
    · rintro ⟨piece, member, _⟩
      cases member
    · rintro ⟨above, below, _⟩
      rw [List.length_nil] at below
      omega
  · rename_i data
    have positive : 0 < payload.length := by
      rw [List.isEmpty_iff] at data
      exact List.length_pos_iff.mpr data
    have inBuffer : offset + payload.length ≤ mbuf.data.length := by
      apply add_le_of_length_slice positive
      rw [window]
    have limit := mbuf.dataLen_lt
    rcases valid.carved small inSpan (by omega) offset with ⟨planned, filled, located⟩
    have located := located (by omega)
    have all := gaps_add_count_covered (OooSegment.ahead base) OooSegment.len queue.segments
      (seq - base).toNat payload.length
    have buffered := filled.buffered
    have accounted := filled.accounted
    have capped := valid.capped
    generalize queue.carve seq payload offset = carve at *
    have perm := insertPieces_perm mbuf carve.toInsert queue.segments
    have spread := (valid.spread.insertPieces mbuf small planned.spread fun piece member =>
      ⟨planned.nonempty piece member, planned.short piece member, Nat.zero_le _,
        planned.before piece member, planned.clear piece member⟩)
    have lengths : ((carve.toInsert.map (pieceSegment mbuf)).map OooSegment.len).sum =
        carve.newlyBuffered := by
      rw [planned.total, List.map_map]
      rfl
    refine ⟨⟨spread.1, ?_, ?_, ?_⟩, carve.toInsert.map (pieceSegment mbuf), perm,
      sublist_insertPieces mbuf _ _, ?_, ?_, lengths.symm, ?_, ?_⟩
    · intro seg member
      rcases List.mem_append.mp (perm.mem_iff.mp member) with new | old
      · rcases List.mem_map.mp new with ⟨piece, planned', rfl⟩
        have inside := filled.inside planned' (planned.nonempty piece planned')
        have distance := toNat_sub_of_le base inside.1
        dsimp only [pieceSegment]
        rw [located piece planned', distance]
        omega
      · exact valid.windows seg old
    · dsimp only
      rw [spread.2, valid.total, planned.total]
    · dsimp only at buffered ⊢
      omega
    · intro seg member
      rcases List.mem_map.mp member with ⟨piece, planned', rfl⟩
      exact ⟨rfl, located piece planned'⟩
    · intro pos
      rw [covered_map_pieceSegment]
      exact filled.pieces pos
    · dsimp only
      omega
    · dsimp only
      rw [decide_eq_true_iff, List.length_pos_iff, Ne, Ne, List.map_eq_nil_iff]

end ReorderQueue

/-! ### Runs -/

/-- A call of the reorder queue. -/
inductive ReorderOp where
  | insert (seq : Seq) (payload : List UInt8) (mbuf : RxMbuf) (mbufPayloadOffset : ℕ)
  | drain (rcvNxt : Seq) (capRoom : ℕ)

/-- The numbers of the call lie in the span, and the payload is where the caller says. -/
def ReorderOp.inSpan (base : Seq) (width : ℕ) : ReorderOp → Bool
  | .insert seq payload mbuf mbufPayloadOffset =>
      slice mbuf.data mbufPayloadOffset payload.length == payload &&
        decide ((seq - base).toNat + payload.length ≤ width)
  | .drain rcvNxt _ => decide ((rcvNxt - base).toNat ≤ width)

/-- One call on a queue. -/
def ReorderQueue.step (queue : ReorderQueue) : ReorderOp → ReorderQueue
  | .insert seq payload mbuf mbufPayloadOffset =>
      (queue.insert seq payload mbuf mbufPayloadOffset).queue
  | .drain rcvNxt capRoom => (queue.drainContiguousInto rcvNxt capRoom []).queue

namespace ReorderQueue

theorem Valid.new (cap : ℕ) (base : Seq) (width : ℕ) : (ReorderQueue.new cap).Valid base width :=
  ⟨.nil _ _ _, nofun, rfl, Nat.zero_le _⟩

theorem cap_insert (queue : ReorderQueue) (seq : Seq) (payload : List UInt8) (mbuf : RxMbuf)
    (offset : ℕ) : (queue.insert seq payload mbuf offset).queue.cap = queue.cap := by
  dsimp only [ReorderQueue.insert]
  split <;> rfl

/-- A call in the span keeps the queue valid. -/
theorem Valid.step {queue : ReorderQueue} {base : Seq} {width : ℕ} (valid : queue.Valid base width)
    (small : width < 2 ^ 31) {op : ReorderOp} (inSpan : op.inSpan base width = true) :
    (queue.step op).Valid base width ∧ (queue.step op).cap = queue.cap := by
  cases op with
  | insert seq payload mbuf offset =>
      rw [ReorderOp.inSpan, Bool.and_eq_true, beq_iff_eq, decide_eq_true_iff] at inSpan
      exact ⟨(valid.insert small inSpan.1 inSpan.2).1, queue.cap_insert seq payload mbuf offset⟩
  | drain rcvNxt capRoom =>
      rw [ReorderOp.inSpan, decide_eq_true_iff] at inSpan
      have kept := valid.drain small (by omega : (rcvNxt - base).toNat < 2 ^ 31) capRoom []
      rw [point_toNat_sub] at kept
      exact ⟨kept, rfl⟩

end ReorderQueue

/-- In every run of calls in a span the queue is valid, and the next insert in the span stores
exactly the bytes that are missing, lowest first, as far as there is room. -/
theorem reorder_queue_stores_missing {cap : ℕ} {base : Seq} {width : ℕ} {queue : ReorderQueue}
    (small : width < 2 ^ 31)
    (run : Run.Reaches ReorderQueue.step (fun _ op => op.inSpan base width = true)
      (ReorderQueue.new cap) queue) :
    queue.Valid base width ∧ queue.cap = cap ∧
      ∀ seq payload mbuf offset,
        (ReorderOp.insert seq payload mbuf offset).inSpan base width = true →
        ∃ pieces, queue.Inserts base seq payload.length mbuf offset
          (queue.insert seq payload mbuf offset) pieces := by
  have reached : queue.Valid base width ∧ queue.cap = cap := by
    apply run.invariant
    · exact ⟨.new cap base width, rfl⟩
    · intro queue op before inSpan
      have after := before.1.step small inSpan
      exact ⟨after.1, after.2.trans before.2⟩
  refine ⟨reached.1, reached.2, ?_⟩
  intro seq payload mbuf offset inSpan
  rw [ReorderOp.inSpan, Bool.and_eq_true, beq_iff_eq, decide_eq_true_iff] at inSpan
  exact (reached.1.insert small inSpan.1 inSpan.2).2

/-- A byte around the wrap of the number space, a drain beside it, and then a payload that
overlaps it on both sides and does not fit. -/
theorem reorder_queue_stores_missing_overlap :
    ((ReorderQueue.new 3).insert 4294967295#32 [7] ⟨1, [7], by decide⟩ 0).queue.segments =
        [⟨4294967295#32, ⟨1, [7], by decide⟩, 0, 1⟩] ∧
      ∃ pieces, ReorderQueue.Inserts
        ⟨[⟨4294967295#32, ⟨1, [7], by decide⟩, 0, 1⟩], 3, 1⟩ 4294967290#32 4294967294#32 4
        ⟨2, [0, 6, 7, 8, 9], by decide⟩ 1
        ⟨⟨[⟨4294967294#32, ⟨2, [0, 6, 7, 8, 9], by decide⟩, 1, 1⟩,
          ⟨4294967295#32, ⟨1, [7], by decide⟩, 0, 1⟩,
          ⟨0#32, ⟨2, [0, 6, 7, 8, 9], by decide⟩, 3, 1⟩], 3, 3⟩, ⟨2, 1, true⟩,
          [.refcntUpdate 2 1]⟩ pieces := by
  refine ⟨by decide, ?_⟩
  have admitted : Run.admits ReorderQueue.step (fun _ op => op.inSpan 4294967290#32 100)
      (ReorderQueue.new 3) [ReorderOp.insert 4294967295#32 [7] ⟨1, [7], by decide⟩ 0,
        ReorderOp.drain 4294967294#32 5] = true := by decide
  have run : Run.Reaches ReorderQueue.step
      (fun _ op => op.inSpan 4294967290#32 100 = true) (ReorderQueue.new 3)
      ⟨[⟨4294967295#32, ⟨1, [7], by decide⟩, 0, 1⟩], 3, 1⟩ := .of_admits admitted
  exact (reorder_queue_stores_missing (by decide) run).2.2 4294967294#32 [6, 7, 8, 9]
    ⟨2, [0, 6, 7, 8, 9], by decide⟩ 1 (by decide)

end DpdkTcp
