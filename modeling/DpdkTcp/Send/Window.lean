import DpdkTcp.Input.Opened

/-!
# The send window

RFC 9293 takes the window from every acceptable segment that is newer by the
SND.WL1 / SND.WL2 rule. The handler does it inside the branch for
acknowledgments of new data only, so that a segment with `ack == snd_una`
never changes the window.
-/

namespace DpdkTcp

/-- The send window and its bookkeeping are those of the segment. -/
def TracksWindow (conn : TcpConn) (seg : ParsedSegment) (shift : ℕ) : Prop :=
  conn.sndWnd = seg.window.toNat * 2 ^ shift ∧ conn.sndWl1 = seg.seq ∧ conn.sndWl2 = seg.ack

theorem scaledWindow_eq (window : UInt16) {shift : ℕ} (bounded : shift ≤ 14) :
    scaledWindow window shift = window.toNat * 2 ^ shift := by
  have small := window.toNat_lt
  have power : 2 ^ shift ≤ 2 ^ 14 := Nat.pow_le_pow_right (by decide) bounded
  have product : window.toNat * 2 ^ shift ≤ 65535 * 2 ^ 14 := Nat.mul_le_mul (by omega) power
  rw [scaledWindow, Nat.mod_eq_of_lt (show shift < 32 by omega), Nat.mod_eq_of_lt (by omega)]

theorem tracksWindow_congr {before after : TcpConn} (same : SameWindow before after)
    (seg : ParsedSegment) (shift : ℕ) :
    TracksWindow after seg shift ↔ TracksWindow before seg shift := by
  rw [TracksWindow, TracksWindow, same.sndWnd, same.sndWl1, same.sndWl2]

/-- An acknowledgment of new data takes the window of a newer segment. -/
theorem tracksWindow_of_advance {conn : TcpConn} {seg : ParsedSegment} {opts : TcpOpts}
    {nowNs sendBuf : ℕ} {ack : AckPass} (clamped : conn.Clamped)
    (accepted : ackPass conn seg opts nowNs sendBuf = some ack)
    (within : seqLe seg.ack conn.sndNxt = true) (newer : newerForWindow conn seg = true)
    (advances : seqLt conn.sndUna seg.ack = true) :
    TracksWindow ack.conn seg conn.wsShiftIn := by
  rcases ackPass_cases accepted with ⟨_, _, _, refused, absorbed⟩ | ⟨stays, _⟩
  · rcases (absorbAck_window conn seg opts nowNs).1 newer with ⟨window, wl1, wl2⟩
    rw [absorbed, TracksWindow, ← scaledWindow_eq seg.window clamped.wsShiftIn_le]
    exact ⟨window, wl1, wl2⟩
  · rw [advances, within] at stays
    cases stays

/-- An acknowledgment of nothing new leaves the window as it was. -/
theorem sameWindow_of_no_advance {conn : TcpConn} {seg : ParsedSegment} {opts : TcpOpts}
    {nowNs sendBuf : ℕ} {ack : AckPass}
    (accepted : ackPass conn seg opts nowNs sendBuf = some ack)
    (stays : seqLt conn.sndUna seg.ack = false) : SameWindow conn ack.conn := by
  rcases ackPass_cases accepted with ⟨advances, _⟩ | ⟨_, _, _, same⟩
  · rw [stays] at advances
    cases advances
  · rw [same]
    exact SameWindow.refl conn

/-- A segment whose acknowledgment is refused leaves the window as it was. -/
theorem sameWindow_of_not_ackKnown {conn : TcpConn} {seg : ParsedSegment} {clock : Readings}
    {sendBuf : ℕ} {mbufCtx : Option MbufInsertCtx} (unknown : conn.ackKnown seg = false) :
    SameWindow conn (handleEstablished conn seg clock sendBuf mbufCtx).conn := by
  rcases handleEstablished_cases conn seg clock sendBuf mbufCtx with
    ⟨_, _, tsRecent, tsRecentAge, change⟩ | ⟨opts, sack, ack, expired, accepted, _⟩
  · exact (sameWindow_stamp conn tsRecent tsRecentAge).trans change.sameWindow
  · have known := accepted.acceptable.2
    rw [unknown] at known
    cases known

/-- After an acceptable, newer segment with `ack <= snd_nxt` the send window is
the segment's if and only if the segment acknowledges new data or the window
was the segment's before. -/
theorem window_update_iff {conn : TcpConn} {seg : ParsedSegment} {clock : Readings}
    (established : conn.state = .established) (clamped : conn.Clamped)
    (acceptable : conn.acceptable seg clock.paws = true)
    (within : seqLe seg.ack conn.sndNxt = true) (newer : newerForWindow conn seg = true)
    (sendBuf : ℕ) (mbufCtx : Option MbufInsertCtx) :
    TracksWindow (dispatch conn seg clock sendBuf mbufCtx).conn seg conn.wsShiftIn ↔
      seqLt conn.sndUna seg.ack = true ∨ TracksWindow conn seg conn.wsShiftIn := by
  have handler : dispatch conn seg clock sendBuf mbufCtx =
      handleEstablished conn seg clock sendBuf mbufCtx := by
    simp [dispatch, established]
  rw [handler]
  cases known : conn.ackKnown seg with
  | false =>
      have refused : seqLt conn.sndUna seg.ack = false ∧ seqLt conn.sndNxt seg.ack = true := by
        simpa [TcpConn.ackKnown, within] using known
      rw [tracksWindow_congr (sameWindow_of_not_ackKnown known), refused.1]
      simp
  | true =>
      rcases exists_accepted sendBuf acceptable known with ⟨opts, sack, ack, accepted⟩
      rcases accepted.handleEstablished_eq mbufCtx with ⟨expired, processed⟩
      rcases accepted.sameEdges with ⟨_, owner, edges⟩
      have frame := establishedData_frame seg mbufCtx clock.rack expired sack ack
      rw [processed, tracksWindow_congr frame.2]
      cases advances : seqLt conn.sndUna seg.ack with
      | true =>
          have sackNewer : newerForWindow sack.conn seg = true := by
            rw [newerForWindow, edges.sndWl1, edges.sndWl2]
            exact newer
          have taken := tracksWindow_of_advance (owner.clamped clamped) accepted.acked
            (by rw [owner.sndNxt]; exact within) sackNewer (by rw [edges.sndUna]; exact advances)
          rw [owner.wsShiftIn] at taken
          simp [taken]
      | false =>
          have same :=
            sameWindow_of_no_advance accepted.acked (by rw [edges.sndUna]; exact advances)
          rw [tracksWindow_congr (edges.trans same)]
          simp

/-- A connection opened with a zero window, and the peer's window update. -/
theorem window_update_iff_zeroWindow :
    TracksWindow
        (dispatch (opened 100#32 200#32 1000 1000 0) (peerSegment 201#32 101#32 TCP_ACK 500 [])
          (Readings.at 5) 1000 none).conn
        (peerSegment 201#32 101#32 TCP_ACK 500 []) 0 ↔
      seqLt 101#32 101#32 = true ∨
        TracksWindow (opened 100#32 200#32 1000 1000 0) (peerSegment 201#32 101#32 TCP_ACK 500 [])
          0 :=
  window_update_iff (by decide) ⟨by decide, by decide⟩ (by decide) (by decide) (by decide) 1000
    none

/-- A pure window update does not reopen the zero window of the SYN-ACK. -/
theorem zero_window_not_reopened :
    ¬ ∀ (conn : TcpConn) (seg : ParsedSegment) (clock : Readings) (sendBuf : ℕ)
        (mbufCtx : Option MbufInsertCtx), conn.state = .established → conn.Clamped →
        conn.acceptable seg clock.paws = true → seqLe conn.sndUna seg.ack = true →
        seqLe seg.ack conn.sndNxt = true → newerForWindow conn seg = true →
        TracksWindow (dispatch conn seg clock sendBuf mbufCtx).conn seg conn.wsShiftIn := by
  intro updates
  have reopened := updates (opened 100#32 200#32 1000 1000 0)
    (peerSegment 201#32 101#32 TCP_ACK 500 []) (Readings.at 5) 1000 none (by decide)
    ⟨by decide, by decide⟩ (by decide) (by decide) (by decide) (by decide)
  exact absurd reopened.1 (by decide)

end DpdkTcp
