import DpdkTcp.Receive.Append
import DpdkTcp.Input.Opened

/-!
# What one segment adds to the in-order queue

For any segment, whether it agrees with earlier ones or not, a dispatch only
appends to the in-order bytes, and `rcv_nxt` moves by the number of bytes
appended, plus one when a FIN is consumed.
-/

namespace DpdkTcp

open Slice

/-- The stored windows lie inside their buffers. -/
def ReorderQueue.Inside (queue : ReorderQueue) : Prop :=
  ∀ seg ∈ queue.segments, seg.offset + seg.len ≤ seg.mbuf.data.length

section Insert

variable {incoming : Incoming} {limit : ℕ}

/-- Every pending insert lies below `limit` in the incoming buffer. -/
def Carve.Below (limit : ℕ) (carve : Carve) : Prop :=
  ∀ piece ∈ carve.toInsert, piece.2.1 + piece.2.2 ≤ limit

theorem Carve.Below.store {carve : Carve} {wanted : ℕ} (below : carve.Below limit)
    (fits : incoming.mbufPayloadOffset + incoming.payloadLen ≤ limit) (small : limit < 65536)
    (short : wanted ≤ incoming.payloadLen - (carve.cursor - incoming.seq).toNat) :
    (carve.store incoming wanted).Below limit := by
  dsimp only [Carve.store]
  split
  · rename_i positive
    intro piece member
    rcases List.mem_append.mp member with old | new
    · exact below piece old
    · rw [List.mem_singleton] at new
      subst new
      generalize (carve.cursor - incoming.seq).toNat = off at *
      generalize incoming.cap - (incoming.totalBytes + carve.newlyBuffered) = room at *
      dsimp only
      rw [asU16_of_lt (show off < 65536 by omega), asU16_of_lt (by omega), asU16_of_lt (by omega)]
      omega
  · exact below

theorem Carve.Below.fillGap {carve : Carve} (existing : OooSegment) (below : carve.Below limit)
    (fits : incoming.mbufPayloadOffset + incoming.payloadLen ≤ limit) (small : limit < 65536) :
    (carve.fillGap incoming existing).Below limit := by
  dsimp only [Carve.fillGap]
  split
  · exact below.store fits small (Nat.min_le_right _ _)
  · exact below

theorem Carve.Below.scan {carve : Carve} (below : carve.Below limit) (incomingEnd : Seq)
    (segs : List OooSegment)
    (fits : incoming.mbufPayloadOffset + incoming.payloadLen ≤ limit) (small : limit < 65536) :
    (Carve.scan incoming incomingEnd segs carve).Below limit := by
  induction segs generalizing carve with
  | nil => exact below
  | cons existing rest ih =>
      dsimp only [Carve.scan]
      split
      · exact below
      · split
        · exact ih below
        · have filled := below.fillGap existing fits small
          refine ih ?_
          unfold Carve.skipOver
          split <;> exact filled

/-- The payload of an insert stands in its buffer, so every piece of it does. -/
theorem ReorderQueue.Inside.insert {queue : ReorderQueue} (stored : queue.Inside) (seq : Seq)
    {payload : List UInt8} {mbuf : RxMbuf} {mbufPayloadOffset : ℕ}
    (fits : mbufPayloadOffset + payload.length ≤ mbuf.data.length) :
    (queue.insert seq payload mbuf mbufPayloadOffset).queue.Inside := by
  have merged : ∀ (seg : OooSegment) (segs : List OooSegment),
      ∀ other ∈ insertMerged seg segs, other = seg ∨ other ∈ segs := by
    intro seg segs
    induction segs with
    | nil => simp [insertMerged]
    | cons head rest ih =>
        intro other member
        dsimp only [insertMerged] at member
        split at member
        · simpa using member
        · rcases List.mem_cons.mp member with same | later
          · exact Or.inr (same ▸ List.mem_cons_self)
          · exact (ih other later).imp_right (List.mem_cons_of_mem head)
  have folded : ∀ (pieces : List (Seq × ℕ × ℕ)) (segs : List OooSegment),
      (∀ piece ∈ pieces, piece.2.1 + piece.2.2 ≤ mbuf.data.length) →
      (∀ seg ∈ segs, seg.offset + seg.len ≤ seg.mbuf.data.length) →
      ∀ seg ∈ pieces.foldl
        (fun stored piece => insertMerged ⟨piece.1, mbuf, piece.2.1, piece.2.2⟩ stored) segs,
        seg.offset + seg.len ≤ seg.mbuf.data.length := by
    intro pieces
    induction pieces with
    | nil => exact fun segs _ inside => inside
    | cons piece rest ih =>
        intro segs pieceInside segInside
        refine ih _ (fun other member => pieceInside other (List.mem_cons_of_mem piece member)) ?_
        intro seg member
        rcases merged _ segs seg member with new | old
        · rw [new]
          exact pieceInside piece List.mem_cons_self
        · exact segInside seg old
  dsimp only [ReorderQueue.insert]
  split
  · exact stored
  · refine folded _ _ ?_ stored
    have fresh : Carve.Below mbuf.data.length ⟨seq, 0, 0, []⟩ := by
      simp [Carve.Below]
    have scanned : (Carve.scan
        ⟨seq, payload.length, mbufPayloadOffset, queue.cap, queue.totalBytes⟩
        (seqAdd seq payload.length) queue.segments ⟨seq, 0, 0, []⟩).Below mbuf.data.length :=
      fresh.scan _ _ fits mbuf.dataLen_lt
    dsimp only [ReorderQueue.carve, Carve.fillTail]
    split
    · exact scanned.store fits mbuf.dataLen_lt (Nat.le_refl _)
    · exact scanned

end Insert

/-! ### Draining -/

/-- The windows a drain appends show as many bytes as it counts, and what it
leaves behind was stored before. -/
theorem drainSegments_inside (segs : List OooSegment) (rcvNxt : Seq) (capRoom totalBytes : ℕ)
    (inside : ∀ seg ∈ segs, seg.offset + seg.len ≤ seg.mbuf.data.length) :
    ((drainSegments segs rcvNxt capRoom totalBytes).appended.flatMap
        InOrderSegment.bytes).length =
      (drainSegments segs rcvNxt capRoom totalBytes).bytesAppended ∧
    ∀ seg ∈ (drainSegments segs rcvNxt capRoom totalBytes).segments, seg ∈ segs := by
  induction segs generalizing rcvNxt capRoom totalBytes with
  | nil => simp [drainSegments]
  | cons seg rest ih =>
      have restInside : ∀ other ∈ rest, other.offset + other.len ≤ other.mbuf.data.length :=
        fun other member => inside other (List.mem_cons_of_mem seg member)
      have segInside := inside seg List.mem_cons_self
      have small := seg.mbuf.dataLen_lt
      dsimp only [drainSegments]
      split
      · simp
      · split
        · have tail := ih rcvNxt capRoom (totalBytes - seg.len) restInside
          exact ⟨tail.1, fun other member => List.mem_cons_of_mem seg (tail.2 other member)⟩
        · generalize asU16 (rcvNxt - seg.seq).toNat = skip
          have taken : asU16 (min (seg.len - skip) capRoom) = min (seg.len - skip) capRoom :=
            asU16_of_lt (by omega)
          rw [taken]
          have tail := ih (seqAdd rcvNxt (min (seg.len - skip) capRoom))
            (capRoom - min (seg.len - skip) capRoom) (totalBytes - seg.len) restInside
          split
          · rename_i positive
            refine ⟨?_, fun other member => List.mem_cons_of_mem seg (tail.2 other member)⟩
            have window : (slice seg.mbuf.data (asU16 (seg.offset + skip))
                (min (seg.len - skip) capRoom)).length = min (seg.len - skip) capRoom := by
              refine length_slice_of_le ?_
              rw [asU16_of_lt (by omega)]
              omega
            rw [List.flatMap_cons, List.length_append, tail.1, InOrderSegment.bytes_eq_slice,
              window]
          · exact ⟨tail.1, fun other member => List.mem_cons_of_mem seg (tail.2 other member)⟩

/-- The in-order bytes grew by `count`, and `rcv_nxt` with them. -/
structure Grows (before after : TcpConn) (count : ℕ) : Prop where
  contents : ∃ added, after.recv.contents = before.recv.contents ++ added ∧ added.length = count
  rcvNxt : after.rcvNxt = seqAdd before.rcvNxt count
  inside : after.recv.reorder.Inside

theorem Grows.refl {conn : TcpConn} (inside : conn.recv.reorder.Inside) : Grows conn conn 0 :=
  ⟨⟨[], by simp, rfl⟩, (seqAdd_zero _).symm, inside⟩

theorem Grows.drainReorder {before : TcpConn} {delivery : Delivery}
    (grows : Grows before delivery.conn delivery.delivered) :
    Grows before (DpdkTcp.drainReorder delivery).conn
      (DpdkTcp.drainReorder delivery).delivered := by
  rcases grows.contents with ⟨added, contents, length⟩
  dsimp only [DpdkTcp.drainReorder]
  split
  · exact grows
  · have drained := drainSegments_inside delivery.conn.recv.reorder.segments delivery.conn.rcvNxt
      delivery.conn.recv.freeSpace delivery.conn.recv.reorder.totalBytes grows.inside
    generalize drainSegments delivery.conn.recv.reorder.segments delivery.conn.rcvNxt
      delivery.conn.recv.freeSpace delivery.conn.recv.reorder.totalBytes = result at drained ⊢
    refine ⟨⟨added ++ result.appended.flatMap InOrderSegment.bytes, ?_, ?_⟩, ?_, ?_⟩
    · have appended : delivery.conn.recv.bytes.flatMap InOrderSegment.bytes =
          before.recv.bytes.flatMap InOrderSegment.bytes ++ added := contents
      simp [RecvQueue.contents, appended]
    · rw [List.length_append, length, drained.1]
    · rw [grows.rcvNxt, seqAdd_add]
    · exact fun seg member => grows.inside seg (drained.2 seg member)

theorem Grows.insertChain {before : TcpConn} (links : List RxMbuf) (linkSeq : Seq)
    {delivery : Delivery} (grows : Grows before delivery.conn delivery.delivered) :
    Grows before (DpdkTcp.insertChain links linkSeq delivery).conn
      (DpdkTcp.insertChain links linkSeq delivery).delivered := by
  induction links generalizing linkSeq delivery with
  | nil => exact grows
  | cons link rest ih =>
      dsimp only [DpdkTcp.insertChain]
      split
      · exact ih linkSeq grows
      · refine ih _ ⟨grows.contents, grows.rcvNxt, ?_⟩
        exact grows.inside.insert linkSeq (by omega)

section Dispatch

variable {conn : TcpConn} {seg : ParsedSegment} {mbufCtx : Option MbufInsertCtx}
  (stored : conn.recv.reorder.Inside)
  (backed : ∀ ctx, mbufCtx = some ctx → ctx.Backs seg.payload)

include stored backed

theorem deliverInOrder_grows :
    Grows conn (deliverInOrder conn seg mbufCtx).conn
      (deliverInOrder conn seg mbufCtx).delivered := by
  have extension : Extends { recv := conn.recv } (appendInOrder conn.recv seg mbufCtx)
      (acceptedBytes conn.recv seg mbufCtx) := appendInOrder_extends backed
  have delivered : (appendInOrder conn.recv seg mbufCtx).delivered =
      (acceptedBytes conn.recv seg mbufCtx).length := by
    rw [extension.delivered]
    exact Nat.zero_add _
  refine Grows.drainReorder ⟨⟨_, extension.contents, delivered.symm⟩, rfl, ?_⟩
  dsimp only
  rw [extension.reorder]
  exact stored

theorem deliverOutOfOrder_grows (data : seg.payload ≠ []) :
    Grows conn (deliverOutOfOrder conn seg mbufCtx).conn
      (deliverOutOfOrder conn seg mbufCtx).delivered := by
  have unchanged := Grows.refl stored
  dsimp only [deliverOutOfOrder]
  split
  · cases mbufCtx with
    | none => exact unchanged
    | some ctx =>
        have inside := add_le_of_length_slice (List.length_pos_iff.mpr data)
          (congrArg List.length (backed ctx rfl))
        refine Grows.insertChain ctx.next _ ⟨unchanged.contents, unchanged.rcvNxt, ?_⟩
        refine stored.insert seg.seq ?_
        rw [List.length_take]
        omega
  · exact unchanged

theorem deliver_grows :
    Grows conn (deliver conn seg mbufCtx).conn (deliver conn seg mbufCtx).delivered := by
  have unchanged := Grows.refl stored
  unfold deliver
  split
  · exact unchanged
  · rename_i data
    split
    · exact deliverInOrder_grows stored backed
    · split
      · exact deliverOutOfOrder_grows stored backed (by simpa using data)
      · exact unchanged

/-- How a dispatch outside the handshake moves the receive side: it appends
`delivered` bytes, and `rcv_nxt` moves by that number or by one more for a FIN. -/
theorem dispatch_grows (opened : conn.state ≠ .synSent) (clock : Readings) (sendBuf : ℕ) :
    ∃ moved fin, Grows conn moved (dispatch conn seg clock sendBuf mbufCtx).outcome.delivered ∧
      (dispatch conn seg clock sendBuf mbufCtx).conn.recv = moved.recv ∧
      (dispatch conn seg clock sendBuf mbufCtx).conn.rcvNxt =
        seqAdd moved.rcvNxt (Bool.toNat fin) := by
  cases dispatch_receives opened seg clock sendBuf mbufCtx with
  | idle delivered recv fin _ rcvNxt =>
      rw [delivered]
      exact ⟨conn, fin, Grows.refl stored, recv, rcvNxt⟩
  | data _ _ _ raced same _ fin _ delivered recv rcvNxt =>
      have grown : Grows raced (deliver raced seg mbufCtx).conn
          (deliver raced seg mbufCtx).delivered :=
        deliver_grows (by rw [same.recv]; exact stored) backed
      have contents := grown.contents
      have moved := grown.rcvNxt
      rw [same.recv] at contents
      rw [same.rcvNxt] at moved
      rw [delivered]
      exact ⟨_, fin, ⟨contents, moved, grown.inside⟩, recv, rcvNxt⟩

end Dispatch

/-- The handshake leaves the receive queues alone. -/
theorem handleSynSent_recv (conn : TcpConn) (seg : ParsedSegment) (clock : Readings) :
    (handleSynSent conn seg clock).conn.recv = conn.recv := by
  have seeded : ∀ (other : TcpConn) (nowNs : ℕ),
      (other.maybeSeedSrttFromSyn nowNs).recv = other.recv := by
    intro other nowNs
    dsimp only [TcpConn.maybeSeedSrttFromSyn]
    split
    · rfl
    · split
      · rfl
      · split <;> rfl
  unfold handleSynSent
  split
  · split <;> rfl
  · split
    · rfl
    · split
      · rfl
      · split
        · rfl
        · split
          · rfl
          · exact seeded _ _

end DpdkTcp
