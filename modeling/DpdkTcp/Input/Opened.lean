import DpdkTcp.Input.Accept

/-!
# Opened connections

The connection a client has after its SYN was answered, and the invariants
the handshake establishes for the window arithmetic of later segments.
-/

namespace DpdkTcp

/-- The connection with the state the engine's `transition_conn` writes after a dispatch. -/
def Dispatched.applied (dispatched : Dispatched) : TcpConn :=
  match dispatched.outcome.newState with
  | some state => { dispatched.conn with state := state }
  | none => dispatched.conn

section Applied

variable (dispatched : Dispatched)

@[simp]
theorem Dispatched.applied_rcvNxt : dispatched.applied.rcvNxt = dispatched.conn.rcvNxt := by
  unfold Dispatched.applied
  split <;> rfl

@[simp]
theorem Dispatched.applied_recv : dispatched.applied.recv = dispatched.conn.recv := by
  unfold Dispatched.applied
  split <;> rfl

theorem Dispatched.applied_state :
    dispatched.applied.state = dispatched.outcome.newState.getD dispatched.conn.state := by
  unfold Dispatched.applied
  split <;> simp_all

end Applied

/-- A client connection whose SYN has left. -/
def synSent (iss : Seq) (recvBufBytes sendBufBytes : ℕ) : TcpConn :=
  { TcpConn.newClient ⟨0x0a000002#32, 40000, 0x0a000001#32, 5000⟩ iss 1460 recvBufBytes
      sendBufBytes 5000 5000 1000000 with
    state := .synSent
    sndNxt := seqAdd iss 1 }

/-- A SYN-ACK without options. -/
def synAck (iss irs : Seq) (window : UInt16) : ParsedSegment :=
  { srcPort := 5000
    dstPort := 40000
    seq := irs
    ack := seqAdd iss 1
    flags := TCP_SYN ||| TCP_ACK
    window := window
    headerLen := 20
    payload := []
    options := [] }

/-- The client connection after the handshake. -/
def opened (iss irs : Seq) (recvBufBytes sendBufBytes : ℕ) (window : UInt16) : TcpConn :=
  (dispatch (synSent iss recvBufBytes sendBufBytes) (synAck iss irs window) (Readings.at 1000) 0
    none).applied

/-- A segment without options from the peer of an opened connection. -/
def peerSegment (seq ack : Seq) (flags : Flags) (window : UInt16) (payload : List UInt8) :
    ParsedSegment :=
  { srcPort := 5000
    dstPort := 40000
    seq := seq
    ack := ack
    flags := flags
    window := window
    headerLen := 20
    payload := payload
    options := [] }

/-- What the constructor and the handshake clamp, and nothing afterwards changes:
the receive window fits an unscaled header and the peer's shift is at most 14. -/
structure TcpConn.Clamped (conn : TcpConn) : Prop where
  rcvWnd_le : conn.rcvWnd ≤ 65535
  wsShiftIn_le : conn.wsShiftIn ≤ 14

theorem clamped_newClient (tuple : FourTuple) (iss : Seq) (ourMss : UInt16)
    (recvBuf sendBuf minRto initialRto maxRto : ℕ) :
    (TcpConn.newClient tuple iss ourMss recvBuf sendBuf minRto initialRto maxRto).Clamped :=
  ⟨Nat.min_le_right _ _, Nat.zero_le _⟩

theorem SameOwner.clamped {before after : TcpConn} (same : SameOwner before after)
    (clamped : before.Clamped) : after.Clamped := by
  constructor
  · rw [same.rcvWnd]
    exact clamped.rcvWnd_le
  · rw [same.wsShiftIn]
    exact clamped.wsShiftIn_le

theorem clamped_maybeSeed {conn : TcpConn} (clamped : conn.Clamped) (nowNs : ℕ) :
    (conn.maybeSeedSrttFromSyn nowNs).Clamped := by
  dsimp only [TcpConn.maybeSeedSrttFromSyn]
  split
  · exact clamped
  · split
    · exact clamped
    · split
      · exact ⟨clamped.rcvWnd_le, clamped.wsShiftIn_le⟩
      · exact clamped

theorem clamped_handleSynSent {conn : TcpConn} (clamped : conn.Clamped) (seg : ParsedSegment)
    (clock : Readings) : (handleSynSent conn seg clock).conn.Clamped := by
  have adopted : ∀ opts, (adoptSynAck conn seg opts clock.synTsRecent).Clamped := by
    intro opts
    refine ⟨clamped.rcvWnd_le, ?_⟩
    dsimp only [adoptSynAck]
    split
    · exact Nat.min_le_right _ _
    · exact Nat.zero_le _
  unfold handleSynSent
  split
  · split <;> exact clamped
  · split
    · exact clamped
    · split
      · exact clamped
      · split
        · exact clamped
        · split
          · exact clamped
          · rename_i opts _
            have seeded := clamped_maybeSeed (adopted opts) clock.synSeed
            exact ⟨seeded.rcvWnd_le, seeded.wsShiftIn_le⟩

/-- Every segment leaves a clamped connection clamped. -/
theorem clamped_dispatch {conn : TcpConn} (clamped : conn.Clamped) (seg : ParsedSegment)
    (clock : Readings) (sendBuf : ℕ) (mbufCtx : Option MbufInsertCtx) :
    (dispatch conn seg clock sendBuf mbufCtx).conn.Clamped := by
  unfold dispatch
  split
  · exact clamped_handleSynSent clamped seg clock
  · exact (handleEstablished_sameOwner conn seg clock sendBuf mbufCtx).clamped clamped
  all_goals first
    | exact (handleClosePath_sameOwner conn seg clock).clamped clamped
    | exact clamped

end DpdkTcp
