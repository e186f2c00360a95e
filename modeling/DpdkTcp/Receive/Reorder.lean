import DpdkTcp.Receive.Append

/-!
# The reorder queue as windows into the peer's stream

The peer's bytes form one sequence; the byte at position `pos` has sequence
number `Serial.point base pos`. A stored segment is tied to the position of
its first byte, and the queue is sorted by these positions. `insert` carves an
incoming payload into such segments and `drainSegments` turns the contiguous
front of the queue into the next bytes of the stream.
-/

namespace DpdkTcp

open Slice Serial

variable (stream : List UInt8) (base : Seq)

/-- `seg` shows the stream's bytes from position `pos` on. -/
structure StoredAt (pos : ℕ) (seg : OooSegment) : Prop where
  seq : seg.seq = point base pos
  nonempty : 0 < seg.len
  inside : pos + seg.len ≤ stream.length
  window : slice seg.mbuf.data seg.offset seg.len = slice stream pos seg.len

/-- The segments are sorted by position, start at `low` or later and end at `high` or before. -/
def SortedFrom (low high : ℕ) : List OooSegment → Prop
  | [] => True
  | seg :: rest =>
      ∃ pos, low ≤ pos ∧ pos + seg.len ≤ high ∧ StoredAt stream base pos seg ∧
        SortedFrom pos high rest

variable {stream base}

theorem StoredAt.endSeq {pos : ℕ} {seg : OooSegment} (stored : StoredAt stream base pos seg) :
    seg.endSeq = point base (pos + seg.len) := by
  rw [OooSegment.endSeq, stored.seq, seqAdd_point]

/-- A stored window lies inside its buffer. -/
theorem StoredAt.offset_add_len_lt {pos : ℕ} {seg : OooSegment}
    (stored : StoredAt stream base pos seg) : seg.offset + seg.len < 65536 := by
  have full : (slice seg.mbuf.data seg.offset seg.len).length = seg.len := by
    rw [stored.window, length_slice_of_le stored.inside]
  have inside := add_le_of_length_slice stored.nonempty full
  have small := seg.mbuf.dataLen_lt
  omega

/-- A part of a stored window shows the corresponding part of the stream. -/
theorem StoredAt.part {pos skip count : ℕ} {seg : OooSegment}
    (stored : StoredAt stream base pos seg) (short : skip + count ≤ seg.len) :
    slice seg.mbuf.data (seg.offset + skip) count = slice stream (pos + skip) count := by
  rw [← slice_slice seg.mbuf.data short, stored.window, slice_slice stream short]

theorem SortedFrom.mono {low lower high higher : ℕ} {segs : List OooSegment}
    (sorted : SortedFrom stream base low high segs) (weaker : lower ≤ low)
    (wider : high ≤ higher) : SortedFrom stream base lower higher segs := by
  induction segs generalizing low lower with
  | nil => trivial
  | cons seg rest ih =>
      rcases sorted with ⟨pos, after, before, stored, sortedRest⟩
      exact ⟨pos, Nat.le_trans weaker after, Nat.le_trans before wider, stored,
        ih sortedRest (Nat.le_refl pos)⟩

section Insert

variable {low high : ℕ} (span : high < low + 2 ^ 31)

include span

/-- `insert_merged` keeps the queue sorted. -/
theorem SortedFrom.insertMerged {pos : ℕ} {seg : OooSegment} {segs : List OooSegment}
    (stored : StoredAt stream base pos seg) (after : low ≤ pos) (before : pos + seg.len ≤ high)
    (sorted : SortedFrom stream base low high segs) :
    SortedFrom stream base low high (insertMerged seg segs) := by
  induction segs generalizing low with
  | nil => exact ⟨pos, after, before, stored, trivial⟩
  | cons head rest ih =>
      rcases sorted with ⟨headPos, headAfter, headBefore, headStored, sortedRest⟩
      have segPositive := stored.nonempty
      have headPositive := headStored.nonempty
      have order : seqLt seg.seq head.seq = decide (pos < headPos) := by
        rw [stored.seq, headStored.seq]
        exact seqLt_point base (by omega) (by omega)
      dsimp only [DpdkTcp.insertMerged]
      rw [order]
      by_cases first : pos < headPos
      · rw [decide_eq_true first, if_pos rfl]
        exact ⟨pos, after, before, stored, headPos, Nat.le_of_lt first, headBefore, headStored,
          sortedRest⟩
      · rw [decide_eq_false first, if_neg Bool.false_ne_true]
        exact ⟨headPos, headAfter, headBefore, headStored,
          ih (by omega) (by omega) sortedRest⟩

variable {incoming : Incoming} {start : ℕ}

omit span in
/-- A pending insert is a part of the incoming payload, which starts at `start`. -/
structure PieceAt (base : Seq) (incoming : Incoming) (start : ℕ) (piece : Seq × ℕ × ℕ) (pos : ℕ) :
    Prop where
  seq : piece.1 = point base pos
  after : start ≤ pos
  offset : piece.2.1 = incoming.mbufPayloadOffset + (pos - start)
  nonempty : 0 < piece.2.2
  inside : pos + piece.2.2 ≤ start + incoming.payloadLen

omit span in
/-- The carving scan so far: the cursor is at position `cursor` and every
pending insert is a part of the payload. -/
structure CarvedTo (base : Seq) (incoming : Incoming) (start : ℕ) (carve : Carve) (cursor : ℕ) :
    Prop where
  cursor_eq : carve.cursor = point base cursor
  after : start ≤ cursor
  pieces : ∀ piece ∈ carve.toInsert, ∃ pos, PieceAt base incoming start piece pos

omit span in
/-- The payload fits in its buffer, so no offset into it is cut to 16 bits. -/
structure Fits (base : Seq) (incoming : Incoming) (start : ℕ) : Prop where
  seq : incoming.seq = point base start
  small : incoming.mbufPayloadOffset + incoming.payloadLen < 65536

variable (fits : Fits base incoming start)

include fits

omit span in
theorem CarvedTo.store {carve : Carve} {cursor wanted : ℕ}
    (carved : CarvedTo base incoming start carve cursor)
    (inside : cursor + wanted ≤ start + incoming.payloadLen) :
    CarvedTo base incoming start (carve.store incoming wanted) cursor := by
  refine ⟨carved.cursor_eq, carved.after, ?_⟩
  have after := carved.after
  have small := fits.small
  have off : (carve.cursor - incoming.seq).toNat = cursor - start := by
    rw [carved.cursor_eq, fits.seq]
    exact toNat_point_sub_point base after (by omega)
  intro piece mem
  dsimp only [Carve.store] at mem
  split at mem
  · rename_i positive
    rcases List.mem_append.mp mem with old | new
    · exact carved.pieces piece old
    · rcases List.mem_singleton.mp new with rfl
      rw [off]
      refine ⟨cursor, carved.cursor_eq, after, ?_, ?_, ?_⟩
      · have inner : asU16 (cursor - start) = cursor - start := asU16_of_lt (by omega)
        dsimp only
        rw [inner, asU16_of_lt (by omega)]
      · dsimp only
        rw [asU16_of_lt (by omega)]
        exact positive
      · dsimp only
        rw [asU16_of_lt (by omega)]
        omega
  · exact carved.pieces piece mem

omit span fits in
theorem CarvedTo.moveTo {carve : Carve} {cursor target : ℕ}
    (carved : CarvedTo base incoming start carve cursor) (after : start ≤ target) :
    CarvedTo base incoming start { carve with cursor := point base target } target :=
  ⟨rfl, after, carved.pieces⟩

/-- Filling the gap before a stored segment that the payload reaches. -/
theorem CarvedTo.fillGap {carve : Carve} {cursor pos : ℕ} {seg : OooSegment}
    (carved : CarvedTo base incoming start carve cursor) (stored : StoredAt stream base pos seg)
    (bounded : cursor ≤ high) (above : low ≤ start) (after : low ≤ pos) (before : pos ≤ high)
    (reaches : pos < start + incoming.payloadLen) :
    CarvedTo base incoming start (carve.fillGap incoming seg) (max cursor pos) := by
  have cursorAfter := carved.after
  have order : seqLt carve.cursor seg.seq = decide (cursor < pos) := by
    rw [carved.cursor_eq, stored.seq]
    exact seqLt_point base (by omega) (by omega)
  dsimp only [Carve.fillGap]
  rw [order]
  by_cases gap : cursor < pos
  · rw [decide_eq_true gap, if_pos rfl, Nat.max_eq_right (Nat.le_of_lt gap)]
    have wanted : carve.gapWanted incoming seg = pos - cursor := by
      have distance : (seg.seq - carve.cursor).toNat = pos - cursor := by
        rw [carved.cursor_eq, stored.seq]
        exact toNat_point_sub_point base (Nat.le_of_lt gap) (by omega)
      have off : (carve.cursor - incoming.seq).toNat = cursor - start := by
        rw [carved.cursor_eq, fits.seq]
        exact toNat_point_sub_point base cursorAfter (by omega)
      rw [Carve.gapWanted, distance, off]
      omega
    have moved : seqAdd carve.cursor (carve.gapWanted incoming seg) = point base pos := by
      rw [wanted, carved.cursor_eq, seqAdd_point]
      congr 1
      omega
    rw [moved, wanted]
    exact (carved.store fits (by omega)).moveTo (by omega)
  · rw [decide_eq_false gap, if_neg Bool.false_ne_true, Nat.max_eq_left (by omega)]
    exact carved

omit fits in
theorem CarvedTo.skipOver {carve : Carve} {cursor pos : ℕ} {seg : OooSegment}
    (carved : CarvedTo base incoming start carve cursor) (stored : StoredAt stream base pos seg)
    (bounded : cursor ≤ high) (above : low ≤ start) (after : low ≤ pos)
    (before : pos + seg.len ≤ high) :
    CarvedTo base incoming start (carve.skipOver seg) (max cursor (pos + seg.len)) := by
  have cursorAfter := carved.after
  have order : seqLt carve.cursor seg.endSeq = decide (cursor < pos + seg.len) := by
    rw [carved.cursor_eq, stored.endSeq]
    exact seqLt_point base (by omega) (by omega)
  dsimp only [Carve.skipOver]
  rw [order]
  by_cases behind : cursor < pos + seg.len
  · rw [decide_eq_true behind, if_pos rfl, Nat.max_eq_right (Nat.le_of_lt behind),
      stored.endSeq]
    exact carved.moveTo (by omega)
  · rw [decide_eq_false behind, if_neg Bool.false_ne_true, Nat.max_eq_left (by omega)]
    exact carved

/-- The scan over the stored segments keeps the pending inserts inside the payload. -/
theorem CarvedTo.scan {segs : List OooSegment} {carve : Carve} {cursor : ℕ}
    (carved : CarvedTo base incoming start carve cursor)
    (bounded : cursor ≤ high) (above : low ≤ start)
    (ends : start + incoming.payloadLen ≤ high)
    (sorted : SortedFrom stream base low high segs) :
    ∃ reached, reached ≤ high ∧
      CarvedTo base incoming start
        (Carve.scan incoming (point base (start + incoming.payloadLen)) segs carve) reached := by
  induction segs generalizing carve cursor with
  | nil => exact ⟨cursor, bounded, carved⟩
  | cons seg rest ih =>
      rcases sorted with ⟨pos, after, before, stored, sortedRest⟩
      have positive := stored.nonempty
      have cursorAfter := carved.after
      have remaining := sortedRest.mono after (Nat.le_refl high)
      have beyond : seqLe (point base (start + incoming.payloadLen)) seg.seq =
          decide (start + incoming.payloadLen ≤ pos) := by
        rw [stored.seq]
        exact seqLe_point base (by omega) (by omega)
      dsimp only [Carve.scan]
      rw [beyond]
      by_cases past : start + incoming.payloadLen ≤ pos
      · rw [decide_eq_true past, if_pos rfl]
        exact ⟨cursor, bounded, carved⟩
      · rw [decide_eq_false past, if_neg Bool.false_ne_true]
        split
        · exact ih carved bounded remaining
        · have filled := carved.fillGap span fits stored bounded above after (by omega) (by omega)
          have skipped := filled.skipOver span stored (by omega) above after before
          exact ih skipped (by omega) remaining

/-- After the scan the tail of the payload is planned as well. -/
theorem CarvedTo.fillTail {carve : Carve} {cursor : ℕ}
    (carved : CarvedTo base incoming start carve cursor) (bounded : cursor ≤ high)
    (above : low ≤ start) (ends : start + incoming.payloadLen ≤ high) :
    CarvedTo base incoming start
      (carve.fillTail incoming (point base (start + incoming.payloadLen))) cursor := by
  have cursorAfter := carved.after
  have order : seqLt carve.cursor (point base (start + incoming.payloadLen)) =
      decide (cursor < start + incoming.payloadLen) := by
    rw [carved.cursor_eq]
    exact seqLt_point base (by omega) (by omega)
  dsimp only [Carve.fillTail]
  rw [order]
  by_cases tail : cursor < start + incoming.payloadLen
  · rw [decide_eq_true tail, if_pos rfl]
    have off : (carve.cursor - incoming.seq).toNat = cursor - start := by
      rw [carved.cursor_eq, fits.seq]
      exact toNat_point_sub_point base cursorAfter (by omega)
    rw [off]
    exact carved.store fits (by omega)
  · rw [decide_eq_false tail, if_neg Bool.false_ne_true]
    exact carved

end Insert

/-- Inserting the pending pieces one by one keeps the queue sorted. -/
theorem SortedFrom.insertPieces {low high start : ℕ} {incoming : Incoming} {mbuf : RxMbuf}
    {pieces : List (Seq × ℕ × ℕ)} {segs : List OooSegment} (span : high < low + 2 ^ 31)
    (above : low ≤ start) (ends : start + incoming.payloadLen ≤ high)
    (inside : start + incoming.payloadLen ≤ stream.length)
    (window : slice mbuf.data incoming.mbufPayloadOffset incoming.payloadLen =
      slice stream start incoming.payloadLen)
    (located : ∀ piece ∈ pieces, ∃ pos, PieceAt base incoming start piece pos)
    (sorted : SortedFrom stream base low high segs) :
    SortedFrom stream base low high
      (pieces.foldl
        (fun stored piece => DpdkTcp.insertMerged ⟨piece.1, mbuf, piece.2.1, piece.2.2⟩ stored)
        segs) := by
  induction pieces generalizing segs with
  | nil => exact sorted
  | cons piece rest ih =>
      rcases located piece (List.mem_cons_self ..) with ⟨pos, at_⟩
      have after := at_.after
      have before := at_.inside
      have short : pos - start + piece.2.2 ≤ incoming.payloadLen := by omega
      have part : slice mbuf.data (incoming.mbufPayloadOffset + (pos - start)) piece.2.2 =
          slice stream pos piece.2.2 := by
        rw [← slice_slice mbuf.data short, window, slice_slice stream short]
        congr 1
        omega
      have stored : StoredAt stream base pos ⟨piece.1, mbuf, piece.2.1, piece.2.2⟩ :=
        { seq := at_.seq
          nonempty := at_.nonempty
          inside := by
            dsimp only
            omega
          window := by
            dsimp only
            rw [at_.offset]
            exact part }
      refine ih (fun other mem => located other (List.mem_cons_of_mem _ mem)) ?_
      exact SortedFrom.insertMerged span stored (by omega)
        (by
          dsimp only
          omega)
        sorted

/-- `insert` on a payload of the stream keeps the queue sorted. -/
theorem SortedFrom.insert {low high start : ℕ} {queue : ReorderQueue} {payload : List UInt8}
    {mbuf : RxMbuf} {offset : ℕ} (span : high < low + 2 ^ 31) (above : low ≤ start)
    (ends : start + payload.length ≤ high)
    (window : slice mbuf.data offset payload.length = payload)
    (cut : slice stream start payload.length = payload)
    (sorted : SortedFrom stream base low high queue.segments) :
    SortedFrom stream base low high
      (queue.insert (point base start) payload mbuf offset).queue.segments := by
  dsimp only [ReorderQueue.insert]
  by_cases empty : payload = []
  · simpa [empty] using sorted
  · have positive : 0 < payload.length := List.length_pos_iff.mpr empty
    rw [if_neg (by simpa using empty)]
    have inBuffer := add_le_of_length_slice positive (congrArg List.length window)
    have inStream := add_le_of_length_slice positive (congrArg List.length cut)
    have small := mbuf.dataLen_lt
    dsimp only [ReorderQueue.carve]
    rw [seqAdd_point]
    have fits : Fits base ⟨point base start, payload.length, offset, queue.cap, queue.totalBytes⟩
        start := ⟨rfl, by
          dsimp only
          omega⟩
    have begun : CarvedTo base ⟨point base start, payload.length, offset, queue.cap,
        queue.totalBytes⟩ start ⟨point base start, 0, 0, []⟩ start :=
      ⟨rfl, Nat.le_refl start, fun piece mem => absurd mem List.not_mem_nil⟩
    obtain ⟨reached, bounded, scanned⟩ :=
      begun.scan span fits (by omega) above ends sorted
    have carved := scanned.fillTail span fits bounded above ends
    exact SortedFrom.insertPieces span above ends inStream (window.trans cut.symm)
      carved.pieces sorted

variable (stream base) in
/-- A drain at position `cur` appended the next bytes of the stream and left
only segments that start behind them. -/
structure DrainedAt (cur capRoom high : ℕ) (drained : Drained) : Prop where
  contents : drained.appended.flatMap InOrderSegment.bytes = slice stream cur drained.bytesAppended
  lengths : (drained.appended.map InOrderSegment.len).sum = drained.bytesAppended
  room : drained.bytesAppended ≤ capRoom
  inside : cur + drained.bytesAppended ≤ stream.length
  remaining : SortedFrom stream base (cur + drained.bytesAppended + 1) high drained.segments

/-- The kept part of a drained segment, in front of what the rest of the drain appends. -/
theorem DrainedAt.cons {pos cur appended capRoom high : ℕ} {seg : OooSegment} {drained : Drained}
    (stored : StoredAt stream base pos seg) (after : pos ≤ cur)
    (before : cur + appended ≤ pos + seg.len) (short : appended ≤ capRoom)
    (rest : DrainedAt stream base (cur + appended) (capRoom - appended) high drained)
    (dropped : ℕ) :
    DrainedAt stream base cur capRoom high
      { drained with
        appended := ⟨seg.mbuf, seg.offset + (cur - pos), appended⟩ :: drained.appended
        bytesAppended := appended + drained.bytesAppended
        capDropped := dropped } := by
  have part : slice seg.mbuf.data (seg.offset + (cur - pos)) appended =
      slice stream cur appended := by
    rw [stored.part (by omega)]
    congr 1
    omega
  have room := rest.room
  have inside := rest.inside
  refine ⟨?_, ?_, ?_, ?_, ?_⟩
  · rw [List.flatMap_cons, rest.contents, InOrderSegment.bytes_eq_slice]
    dsimp only
    rw [part, slice_append_slice]
  · rw [List.map_cons, List.sum_cons, rest.lengths]
  · dsimp only
    omega
  · dsimp only
    omega
  · have remaining := rest.remaining
    dsimp only
    rw [Nat.add_assoc cur appended] at remaining
    exact remaining

/-- `drain_contiguous_into` appends the next bytes of the stream. -/
theorem drainSegments_drainedAt {segs : List OooSegment} {low high cur capRoom totalBytes : ℕ}
    (span : high < low + 2 ^ 31) (behind : cur < low + 2 ^ 31) (ahead : high < cur + 2 ^ 31)
    (inside : cur ≤ stream.length) (sorted : SortedFrom stream base low high segs) :
    DrainedAt stream base cur capRoom high
      (drainSegments segs (point base cur) capRoom totalBytes) := by
  induction segs generalizing low cur capRoom totalBytes with
  | nil => exact ⟨by simp [drainSegments], rfl, Nat.zero_le _, inside, trivial⟩
  | cons seg rest ih =>
      rcases sorted with ⟨pos, after, before, stored, sortedRest⟩
      have positive := stored.nonempty
      have small := stored.offset_add_len_lt
      have within := stored.inside
      have startOrder : seqLt (point base cur) seg.seq = decide (cur < pos) := by
        rw [stored.seq]
        exact seqLt_point base (by omega) (by omega)
      have endOrder : seqLe seg.endSeq (point base cur) = decide (pos + seg.len ≤ cur) := by
        rw [stored.endSeq]
        exact seqLe_point base (by omega) (by omega)
      dsimp only [drainSegments]
      rw [startOrder, endOrder]
      by_cases gap : cur < pos
      · rw [decide_eq_true gap, if_pos rfl]
        exact ⟨by simp, rfl, Nat.zero_le _, inside,
          pos, gap, before, stored, sortedRest⟩
      · rw [decide_eq_false gap, if_neg Bool.false_ne_true]
        by_cases stale : pos + seg.len ≤ cur
        · rw [decide_eq_true stale, if_pos rfl]
          have drained : DrainedAt stream base cur capRoom high
              (drainSegments rest (point base cur) capRoom (totalBytes - seg.len)) :=
            ih (by omega) (by omega) ahead inside sortedRest
          exact ⟨drained.contents, drained.lengths, drained.room, drained.inside,
            drained.remaining⟩
        · rw [decide_eq_false stale, if_neg Bool.false_ne_true]
          have skip : asU16 (point base cur - seg.seq).toNat = cur - pos := by
            rw [stored.seq, toNat_point_sub_point base (by omega) (by omega)]
            exact asU16_of_lt (by omega)
          rw [skip]
          obtain ⟨appended, taken⟩ : ∃ appended, appended = min (seg.len - (cur - pos)) capRoom :=
            ⟨_, rfl⟩
          rw [← taken, asU16_of_lt (by omega : appended < 65536),
            asU16_of_lt (by omega : seg.offset + (cur - pos) < 65536), seqAdd_point]
          have drained : DrainedAt stream base (cur + appended) (capRoom - appended) high
              (drainSegments rest (point base (cur + appended)) (capRoom - appended)
                (totalBytes - seg.len)) :=
            ih (by omega) (by omega) (by omega) (by omega) sortedRest
          split
          · exact drained.cons stored (by omega) (by omega) (by omega) _
          · have none : appended = 0 := by omega
            subst none
            exact ⟨drained.contents, drained.lengths, drained.room, drained.inside,
              drained.remaining⟩

end DpdkTcp
