import DpdkTcp.Receive.Append
import DpdkTcp.Input.Opened

/-!
# Segments that overlap the left edge of the window

The window test of the established handler looks at both edges of a segment.
A segment that starts before `rcv_nxt` fails it whatever it carries behind
`rcv_nxt`: it is dropped whole and answered with an ACK, and the peer has to
resend from `rcv_nxt`.
-/

namespace DpdkTcp

/-- A sequence number before the window's left edge is at least half the
number space ahead of it, further than any window reaches. -/
theorem inWindow_of_seqLt {start seq : Seq} {len : ℕ} (short : len ≤ 65535)
    (before : seqLt seq start = true) : inWindow start seq len = false := by
  have negative : (seq - start).toInt < 0 := by
    simpa [seqLt] using before
  rw [BitVec.toInt_neg_iff] at negative
  dsimp only [inWindow]
  split
  · rfl
  · rw [decide_eq_false_iff_not]
    omega

/-- A data segment that starts before `rcv_nxt` is dropped whole: it is
answered with an ACK, counted as `bad_seq`, and the connection is unchanged. -/
theorem overlapping_segment_dropped {conn : TcpConn} {seg : ParsedSegment}
    (established : conn.state = .established) (clamped : conn.Clamped)
    (urgent : seg.flags.has TCP_URG = false) (reset : seg.flags.has TCP_RST = false)
    (acked : seg.flags.has TCP_ACK = true) (data : seg.payload ≠ [])
    (overlaps : seqLt seg.seq conn.rcvNxt = true)
    (clock : Readings) (sendBuf : ℕ) (mbufCtx : Option MbufInsertCtx) :
    dispatch conn seg clock sendBuf mbufCtx =
      { conn := conn
        outcome := { tx := .ack, badSeq := true, rxZeroWindow := seg.window == 0 } } := by
  have outside : segInWindow conn seg = false := by
    have positive : 0 < seg.payload.length := List.length_pos_iff.mpr data
    have nonzero : seg.segLen ≠ 0 := by
      dsimp only [ParsedSegment.segLen]
      omega
    dsimp only [segInWindow]
    rw [if_neg nonzero, inWindow_of_seqLt clamped.rcvWnd_le overlaps, Bool.false_and]
  simp [dispatch, established, handleEstablished, establishedChecks, urgent, reset, acked, outside]

/-- An opened connection that has received the bytes `a` and `b`. -/
def receivedTwo : TcpConn :=
  (dispatch (opened 100#32 200#32 1000 1000 5000)
    (peerSegment 201#32 101#32 TCP_ACK 5000 [97, 98]) (Readings.at 5) 1000
    (some ⟨⟨1, [97, 98], by decide⟩, 0, []⟩)).conn

/-- A retransmission `b c` that starts at the second byte received. -/
theorem overlapping_segment_dropped_receivedTwo :
    dispatch receivedTwo (peerSegment 202#32 101#32 TCP_ACK 5000 [98, 99]) (Readings.at 6) 1000
        none =
      { conn := receivedTwo, outcome := { tx := .ack, badSeq := true } } :=
  overlapping_segment_dropped (by decide) ⟨by decide, by decide⟩ (by decide) (by decide)
    (by decide) (by decide) (by decide) _ _ _

/-- The retransmission `b c` does not bring `c` in. -/
theorem overlapping_segment_not_accepted :
    ¬ ∀ (conn : TcpConn) (seg : ParsedSegment) (clock : Readings) (sendBuf : ℕ)
        (ctx : MbufInsertCtx), conn.state = .established → conn.Clamped →
        conn.acceptable { seg with seq := conn.rcvNxt, payload := [] } clock.paws = true →
        ctx.Backs seg.payload → 0 < conn.recv.freeSpace →
        seqLt seg.seq conn.rcvNxt = true →
        seqLt conn.rcvNxt (seqAdd seg.seq seg.payload.length) = true →
        inWindow conn.rcvNxt (seqAdd seg.seq seg.payload.length - 1#32) conn.rcvWnd = true →
        min (seqAdd seg.seq seg.payload.length - conn.rcvNxt).toNat conn.recv.freeSpace ≤
          ((dispatch conn seg clock sendBuf (some ctx)).conn.rcvNxt - conn.rcvNxt).toNat := by
  intro accepts
  have backs : MbufInsertCtx.Backs ⟨⟨2, [98, 99], by decide⟩, 0, []⟩ [98, 99] := by
    simp [MbufInsertCtx.Backs, Slice.slice]
  have progress := accepts receivedTwo (peerSegment 202#32 101#32 TCP_ACK 5000 [98, 99])
    (Readings.at 6) 1000 ⟨⟨2, [98, 99], by decide⟩, 0, []⟩ (by decide) ⟨by decide, by decide⟩
    (by decide) backs (by decide) (by decide) (by decide) (by decide)
  exact absurd progress (by decide)

end DpdkTcp
