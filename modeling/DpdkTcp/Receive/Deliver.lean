import DpdkTcp.Receive.Reorder

/-!
# Data delivery

What the data stage of the established handler does to a connection that has
received the peer's stream up to a position, for any segment cut from that
stream: in order, ahead, or old, in one buffer or in a chain, and for any
room in the receive buffer.
-/

namespace DpdkTcp

open Slice Serial

variable (stream : List UInt8) (base : Seq)

/-- The connection has received the stream up to position `cur`; everything in
the reorder queue lies ahead. -/
structure ReceivedTo (cur : ℕ) (conn : TcpConn) : Prop where
  rcvNxt : conn.rcvNxt = point base cur
  inside : cur ≤ stream.length
  reorder : SortedFrom stream base (cur + 1) (cur + 2 ^ 31 - 1) conn.recv.reorder.segments

/-- `seg` carries the stream's bytes from position `pos` on, less than half the
number space away from `cur`. Its FIN stands at the end of the stream. -/
structure CutAt (cur pos : ℕ) (seg : ParsedSegment) (mbufCtx : Option MbufInsertCtx) : Prop where
  seq : seg.seq = point base pos
  bytes : slice stream pos (carriedBytes seg mbufCtx).length = carriedBytes seg mbufCtx
  inside : pos + (carriedBytes seg mbufCtx).length ≤ stream.length
  ahead : pos + (carriedBytes seg mbufCtx).length < cur + 2 ^ 31
  behind : cur < pos + 2 ^ 31
  fin : seg.fin = true → pos + (carriedBytes seg mbufCtx).length = stream.length
  backs : ∀ ctx, mbufCtx = some ctx → ctx.Backs seg.payload

variable {stream base}

theorem CutAt.payload {cur pos : ℕ} {seg : ParsedSegment} {mbufCtx : Option MbufInsertCtx}
    (cut : CutAt stream base cur pos seg mbufCtx) :
    slice stream pos seg.payload.length = seg.payload ∧
      slice stream (pos + seg.payload.length) (chainBytes mbufCtx).length =
        chainBytes mbufCtx := by
  exact slice_eq_append cut.bytes

theorem CutAt.payload_length_le {cur pos : ℕ} {seg : ParsedSegment}
    {mbufCtx : Option MbufInsertCtx} (_ : CutAt stream base cur pos seg mbufCtx) :
    seg.payload.length + (chainBytes mbufCtx).length = (carriedBytes seg mbufCtx).length := by
  rw [carriedBytes, List.length_append]

/-- A segment at `rcv_nxt` is at the received position. -/
theorem CutAt.seq_eq_iff {cur pos : ℕ} {seg : ParsedSegment} {mbufCtx : Option MbufInsertCtx}
    (cut : CutAt stream base cur pos seg mbufCtx) : seg.seq = point base cur ↔ pos = cur := by
  have ahead := cut.ahead
  have behind := cut.behind
  rw [cut.seq]
  exact point_inj base (by omega) (by omega)

theorem CutAt.seqLt_eq {cur pos : ℕ} {seg : ParsedSegment} {mbufCtx : Option MbufInsertCtx}
    (cut : CutAt stream base cur pos seg mbufCtx) :
    seqLt (point base cur) seg.seq = decide (cur < pos) := by
  have ahead := cut.ahead
  have behind := cut.behind
  rw [cut.seq]
  exact seqLt_point base behind (by omega)

/-! ### In order -/

/-- The bytes taken from the segment itself are the next bytes of the stream. -/
theorem CutAt.acceptedBytes_eq {cur : ℕ} {seg : ParsedSegment} {mbufCtx : Option MbufInsertCtx}
    (cut : CutAt stream base cur cur seg mbufCtx) (recv : RecvQueue) :
    acceptedBytes recv seg mbufCtx =
      slice stream cur (acceptedBytes recv seg mbufCtx).length := by
  cases mbufCtx with
  | none => simp [acceptedBytes]
  | some ctx =>
      dsimp only [acceptedBytes]
      split
      · simp
      · have bytes := cut.bytes
        rw [List.length_take, ← take_slice stream (Nat.min_le_right _ _), bytes,
          List.take_eq_take_iff]
        omega

theorem length_acceptedBytes_le (recv : RecvQueue) (seg : ParsedSegment)
    (mbufCtx : Option MbufInsertCtx) :
    (acceptedBytes recv seg mbufCtx).length ≤ (carriedBytes seg mbufCtx).length := by
  cases mbufCtx with
  | none => simp [acceptedBytes]
  | some ctx =>
      dsimp only [acceptedBytes]
      split
      · simp
      · rw [List.length_take]
        exact Nat.min_le_right _ _

/-- A delivery that appended the stream's bytes from `cur` to `cur + count`. -/
structure DeliveredAt (stream : List UInt8) (base : Seq) (cur count : ℕ) (before : TcpConn)
    (delivery : Delivery) : Prop where
  contents : delivery.conn.recv.contents = before.recv.contents ++ slice stream cur count
  received : ReceivedTo stream base (cur + count) delivery.conn
  delivered : delivery.delivered = count

/-- Draining behind the bytes just appended. -/
theorem DeliveredAt.drainReorder {cur count : ℕ} {before : TcpConn} {delivery : Delivery}
    (contents : delivery.conn.recv.contents = before.recv.contents ++ slice stream cur count)
    (rcvNxt : delivery.conn.rcvNxt = point base (cur + count))
    (inside : cur + count ≤ stream.length) (delivered : delivery.delivered = count)
    (near : count < 2 ^ 31)
    (sorted : SortedFrom stream base (cur + 1) (cur + 2 ^ 31 - 1)
      delivery.conn.recv.reorder.segments) :
    ∃ total, count ≤ total ∧
      DeliveredAt stream base cur total before (DpdkTcp.drainReorder delivery) := by
  dsimp only [DpdkTcp.drainReorder]
  split
  · rename_i empty
    have none : delivery.conn.recv.reorder.segments = [] := by
      simpa [ReorderQueue.isEmpty] using empty
    refine ⟨count, Nat.le_refl count, contents, ⟨rcvNxt, inside, ?_⟩, delivered⟩
    rw [none]
    trivial
  · have drained : DrainedAt stream base (cur + count) delivery.conn.recv.freeSpace
        (cur + 2 ^ 31 - 1)
        (drainSegments delivery.conn.recv.reorder.segments (point base (cur + count))
          delivery.conn.recv.freeSpace delivery.conn.recv.reorder.totalBytes) :=
      drainSegments_drainedAt (by omega) (by omega) (by omega) inside sorted
    rw [rcvNxt]
    generalize drainSegments delivery.conn.recv.reorder.segments (point base (cur + count))
      delivery.conn.recv.freeSpace delivery.conn.recv.reorder.totalBytes = result at drained ⊢
    refine ⟨count + result.bytesAppended, Nat.le_add_right _ _, ?_, ⟨?_, ?_, ?_⟩, ?_⟩
    · have queue : ∀ recv : RecvQueue, ∀ reorder,
          RecvQueue.contents { recv with bytes := recv.bytes ++ result.appended, reorder := reorder } =
            recv.contents ++ result.appended.flatMap InOrderSegment.bytes := by
        intro recv reorder
        simp [RecvQueue.contents]
      rw [queue, contents, drained.contents, List.append_assoc, slice_append_slice]
    · rw [seqAdd_point, Nat.add_assoc]
    · rw [← Nat.add_assoc]
      exact drained.inside
    · rw [← Nat.add_assoc]
      exact drained.remaining.mono (Nat.le_refl _) (by omega)
    · rw [delivered]

/-- An in-order segment: its bytes as far as there is room, then the drain. -/
theorem deliverInOrder_deliveredAt {cur : ℕ} {conn : TcpConn} {seg : ParsedSegment}
    {mbufCtx : Option MbufInsertCtx} (received : ReceivedTo stream base cur conn)
    (cut : CutAt stream base cur cur seg mbufCtx) :
    ∃ total, (acceptedBytes conn.recv seg mbufCtx).length ≤ total ∧
      DeliveredAt stream base cur total conn (deliverInOrder conn seg mbufCtx) := by
  have extension : Extends { recv := conn.recv } (appendInOrder conn.recv seg mbufCtx)
      (acceptedBytes conn.recv seg mbufCtx) := appendInOrder_extends cut.backs
  have accepted := cut.acceptedBytes_eq conn.recv
  have short := length_acceptedBytes_le conn.recv seg mbufCtx
  have delivered : (appendInOrder conn.recv seg mbufCtx).delivered =
      (acceptedBytes conn.recv seg mbufCtx).length := by
    rw [extension.delivered]
    exact Nat.zero_add _
  have ahead := cut.ahead
  have inside := cut.inside
  refine DeliveredAt.drainReorder ?_ ?_ ?_ delivered (by omega) ?_
  · dsimp only
    rw [extension.contents, ← accepted]
  · dsimp only
    rw [received.rcvNxt, delivered, seqAdd_point]
  · omega
  · dsimp only
    rw [extension.reorder]
    exact received.reorder

/-! ### Ahead of the received position -/

/-- What an out-of-order segment may change: the reorder queue, kept sorted. -/
structure Queued (stream : List UInt8) (base : Seq) (low high : ℕ) (before : TcpConn)
    (delivery : Delivery) : Prop where
  rcvNxt : delivery.conn.rcvNxt = before.rcvNxt
  bytes : delivery.conn.recv.bytes = before.recv.bytes
  sorted : SortedFrom stream base low high delivery.conn.recv.reorder.segments
  delivered : delivery.delivered = 0

/-- The links of the chain are inserted one behind the other. -/
theorem Queued.insertChain {low high pos : ℕ} {before : TcpConn} {delivery : Delivery}
    {links : List RxMbuf} (span : high < low + 2 ^ 31) (above : low ≤ pos)
    (ends : pos + (links.flatMap RxMbuf.data).length ≤ high)
    (cut : slice stream pos (links.flatMap RxMbuf.data).length = links.flatMap RxMbuf.data)
    (queued : Queued stream base low high before delivery) :
    Queued stream base low high before
      (DpdkTcp.insertChain links (point base pos) delivery) := by
  induction links generalizing pos delivery with
  | nil => exact queued
  | cons link rest ih =>
      rw [List.flatMap_cons] at cut ends
      rcases slice_eq_append cut with ⟨linkCut, restCut⟩
      rw [List.length_append] at ends
      have window : slice link.data 0 link.data.length = link.data := by
        simp [slice]
      dsimp only [DpdkTcp.insertChain]
      split
      · rename_i empty
        rw [empty] at restCut
        exact ih above (by omega) restCut queued
      · rw [seqAdd_point]
        refine ih (by omega) (by omega) restCut ⟨queued.rcvNxt, queued.bytes, ?_, queued.delivered⟩
        exact SortedFrom.insert span above (by omega) window linkCut queued.sorted

/-- An out-of-order segment is stored in the reorder queue or dropped. -/
theorem deliverOutOfOrder_queued {cur pos : ℕ} {conn : TcpConn} {seg : ParsedSegment}
    {mbufCtx : Option MbufInsertCtx} (received : ReceivedTo stream base cur conn)
    (cut : CutAt stream base cur pos seg mbufCtx) (above : cur < pos) :
    Queued stream base (cur + 1) (cur + 2 ^ 31 - 1) conn (deliverOutOfOrder conn seg mbufCtx) := by
  have unchanged : Queued stream base (cur + 1) (cur + 2 ^ 31 - 1) conn { conn := conn } :=
    ⟨rfl, rfl, received.reorder, rfl⟩
  dsimp only [deliverOutOfOrder]
  split
  · cases mbufCtx with
    | none => exact unchanged
    | some ctx =>
        have lengths := cut.payload_length_le
        have ahead := cut.ahead
        rcases cut.payload with ⟨payloadCut, chainCut⟩
        have backs : slice ctx.mbuf.data ctx.payloadOffset seg.payload.length = seg.payload :=
          cut.backs ctx rfl
        dsimp only [chainBytes] at chainCut lengths
        obtain ⟨take, taken⟩ : ∃ take, take = min seg.payload.length conn.recv.freeSpaceTotal :=
          ⟨_, rfl⟩
        have takeLength : (seg.payload.take take).length = take := by
          rw [List.length_take]
          omega
        dsimp only
        rw [← taken, cut.seq, seqAdd_point]
        refine Queued.insertChain (by omega) (by omega) (by omega) chainCut ⟨rfl, rfl, ?_, rfl⟩
        refine SortedFrom.insert (by omega) above (by omega) ?_ ?_ received.reorder
        · rw [takeLength, ← take_slice ctx.mbuf.data (show take ≤ seg.payload.length by omega),
            backs]
        · rw [takeLength, ← take_slice stream (show take ≤ seg.payload.length by omega),
            payloadCut]
  · exact ⟨rfl, rfl, received.reorder, rfl⟩

/-! ### The data stage as a whole -/

/-- Every segment of the stream delivers the next `count` bytes of it. They
come from a segment at the received position only, and then at least what that
segment itself may append. -/
theorem deliver_deliveredAt {cur pos : ℕ} {conn : TcpConn} {seg : ParsedSegment}
    {mbufCtx : Option MbufInsertCtx} (received : ReceivedTo stream base cur conn)
    (cut : CutAt stream base cur pos seg mbufCtx) :
    ∃ count, DeliveredAt stream base cur count conn (deliver conn seg mbufCtx) ∧
      (pos ≠ cur → count = 0) ∧
      (pos = cur → (acceptedBytes conn.recv seg mbufCtx).length ≤ count) := by
  have nothing : DeliveredAt stream base cur 0 conn { conn := conn } :=
    ⟨by simp, received, rfl⟩
  dsimp only [deliver]
  split
  · rename_i empty
    have none : seg.payload = [] := by
      simpa using empty
    refine ⟨0, nothing, fun _ => rfl, fun _ => ?_⟩
    cases mbufCtx <;> simp [acceptedBytes, none]
  · rw [received.rcvNxt]
    split
    · rename_i inOrder
      have same := cut.seq_eq_iff.mp inOrder
      subst same
      rcases deliverInOrder_deliveredAt received cut with ⟨total, least, delivered⟩
      exact ⟨total, delivered, fun differs => absurd rfl differs, fun _ => least⟩
    · rename_i notInOrder
      have differs : pos ≠ cur := fun same => notInOrder (cut.seq_eq_iff.mpr same)
      rw [cut.seqLt_eq]
      by_cases above : cur < pos
      · rw [decide_eq_true above, if_pos rfl]
        have queued := deliverOutOfOrder_queued received cut above
        refine ⟨0, ⟨?_, ⟨queued.rcvNxt.trans received.rcvNxt, received.inside, queued.sorted⟩,
          queued.delivered⟩, fun _ => rfl, fun same => absurd same differs⟩
        simp [RecvQueue.contents, queued.bytes]
      · rw [decide_eq_false above, if_neg Bool.false_ne_true]
        exact ⟨0, nothing, fun _ => rfl, fun same => absurd same differs⟩

end DpdkTcp
