import DpdkTcp.Window.Unread

/-!
# Reorder queues in every run

The reorder queue of an ESTABLISHED connection holds disjoint segments strictly
behind `rcv_nxt`, whatever the application does, as long as no segment carries
more than an IPv4 packet can.
-/

namespace DpdkTcp

/-- Twice the largest receive window: where the head of a chain lies in the window, its
links end before this. -/
def REORDER_WIDTH : ℕ := 131072

/-- A segment carries no more bytes than an IPv4 packet. -/
def SystemOp.short : SystemOp → Bool
  | .call (.segment _ seg mbufCtx _) => decide ((carriedBytes seg mbufCtx).length < 65536)
  | _ => true

/-- A connection whose reorder queue is in order. -/
structure TcpConn.Ordered (conn : TcpConn) : Prop where
  rcvWnd : conn.rcvWnd ≤ 65535
  fresh : conn.state = .synSent → conn.recv.reorder.segments = [] ∧ conn.recv.reorder.totalBytes = 0
  tidy : conn.state = .established → conn.recv.reorder.Tidy conn.rcvNxt REORDER_WIDTH

/-- The same between the dispatch of a segment and the state change behind it. -/
structure Dispatched.Ordered (dispatched : Dispatched) (state : TcpState) : Prop where
  rcvWnd : dispatched.conn.rcvWnd ≤ 65535
  fresh : dispatched.outcome.newState.getD state = .synSent →
    dispatched.conn.recv.reorder.segments = [] ∧ dispatched.conn.recv.reorder.totalBytes = 0
  tidy : dispatched.outcome.newState.getD state = .established →
    dispatched.conn.recv.reorder.Tidy dispatched.conn.rcvNxt REORDER_WIDTH

namespace TcpConn.Ordered

variable {conn : TcpConn} {seg : ParsedSegment} {clock : Readings}

/-- The bytes of an acceptable segment end before the width. -/
theorem carried_inside (ordered : conn.Ordered) {mbufCtx : Option MbufInsertCtx} {nowNs : ℕ}
    (acceptable : conn.acceptable seg nowNs = true) (data : seg.payload ≠ [])
    (short : (carriedBytes seg mbufCtx).length < 65536) :
    (seg.seq - conn.rcvNxt).toNat + (carriedBytes seg mbufCtx).length ≤ REORDER_WIDTH := by
  have inside : segInWindow conn seg = true := by
    simp only [TcpConn.acceptable, Bool.and_eq_true] at acceptable
    exact acceptable.1.2
  have fin : seg.fin.toNat ≤ 1 := Bool.toNat_le seg.fin
  have head : seg.payload.length ≤ (carriedBytes seg mbufCtx).length := by
    rw [carriedBytes, List.length_append]
    exact Nat.le_add_right _ _
  have within := (segInWindow_iff data ordered.rcvWnd
    (by rw [ParsedSegment.segLen]; omega)).mp inside
  have small := ordered.rcvWnd
  rw [ParsedSegment.segLen] at within
  unfold REORDER_WIDTH
  omega

theorem handshake (ordered : conn.Ordered) (opening : conn.state = .synSent) :
    (handleSynSent conn seg clock).Ordered conn.state := by
  have recv := handleSynSent_recv conn seg clock
  rcases ordered.fresh opening with ⟨none, zero⟩
  have rcvWnd : (handleSynSent conn seg clock).conn.rcvWnd = conn.rcvWnd := by
    rcases handleSynSent_opens conn seg clock with ⟨_, _, ⟨same, _⟩ | ⟨_, _, _, _, adopted⟩⟩
    · rw [same]
    · exact adopted.rcvWnd
  refine ⟨rcvWnd.trans_le ordered.rcvWnd, fun _ => by rw [recv]; exact ⟨none, zero⟩, ?_⟩
  intro _
  refine ⟨?_, ?_⟩
  · rw [recv, none]
    exact .nil _ _ _
  · rw [recv, none, zero]
    rfl

/-- A dispatch keeps what is stored in order. -/
theorem dispatch (ordered : conn.Ordered) {mbufCtx : Option MbufInsertCtx}
    (short : (carriedBytes seg mbufCtx).length < 65536) (sendBuf : ℕ) :
    (dispatch conn seg clock sendBuf mbufCtx).Ordered conn.state := by
  by_cases opening : conn.state = .synSent
  · have shake : DpdkTcp.dispatch conn seg clock sendBuf mbufCtx = handleSynSent conn seg clock := by
      rw [DpdkTcp.dispatch, opening]
    rw [shake]
    exact ordered.handshake opening
  · have later := dispatch_later opening seg clock sendBuf mbufCtx
    have sameOwner := dispatch_sameOwner opening seg clock sendBuf mbufCtx
    have received := dispatch_receives opening seg clock sendBuf mbufCtx
    generalize DpdkTcp.dispatch conn seg clock sendBuf mbufCtx = dispatched at *
    have opened : dispatched.outcome.newState.getD conn.state ≠ .synSent :=
      fun waiting => opening (later.eq_synSent waiting)
    refine ⟨sameOwner.rcvWnd.trans_le ordered.rcvWnd, fun waiting => absurd waiting opened, ?_⟩
    intro stays
    cases received with
    | idle delivered recv fin closing rcvNxt =>
        have running := later.eq_established stays
        have none : fin = false := by
          by_contra taken
          exact closing (by simpa using taken) running
        rw [rcvNxt, none, Bool.toNat_false, seqAdd_zero, recv]
        exact ordered.tidy running
    | data running acceptable known raced same owner fin closing delivered recv rcvNxt =>
        have none : fin = false := by
          by_contra taken
          rw [closing (by simpa using taken)] at stays
          cases stays
        rw [recv, rcvNxt, none, Bool.toNat_false, seqAdd_zero]
        refine deliver_tidy (by decide) ?_ (fun _ => short) ?_
        · rw [same.recv, same.rcvNxt]
          exact ordered.tidy running
        · intro data _
          rw [same.rcvNxt]
          exact ordered.carried_inside acceptable data short

/-- What the engine does around a dispatch leaves the reorder queue alone. -/
theorem kept {after : TcpConn} (ordered : conn.Ordered) (same : SameReceiver conn after)
    (moved : conn.state.Later after.state) : after.Ordered := by
  refine ⟨same.rcvWnd.trans_le ordered.rcvWnd, ?_, ?_⟩
  · intro waiting
    rw [same.recv]
    exact ordered.fresh (moved.eq_synSent waiting)
  · intro running
    rw [same.recv, same.rcvNxt]
    exact ordered.tidy (moved.eq_established running)

end TcpConn.Ordered

theorem Dispatched.Ordered.handOver {dispatched : Dispatched} {state : TcpState} {after : TcpConn}
    (ordered : dispatched.Ordered state)
    (same : SameReceiver (dispatched.conn.handOver dispatched.outcome.delivered) after)
    (moved : (dispatched.outcome.newState.getD state).Later after.state) : after.Ordered := by
  have reorder : after.recv.reorder = dispatched.conn.recv.reorder := by
    rw [same.recv]
    rfl
  have rcvNxt : after.rcvNxt = dispatched.conn.rcvNxt := same.rcvNxt
  have rcvWnd : after.rcvWnd = dispatched.conn.rcvWnd := same.rcvWnd
  refine ⟨rcvWnd.trans_le ordered.rcvWnd, ?_, ?_⟩
  · intro waiting
    rw [reorder]
    exact ordered.fresh (moved.eq_synSent waiting)
  · intro running
    rw [reorder, rcvNxt]
    exact ordered.tidy (moved.eq_established running)

/-- Every connection of the host has its reorder queue in order. -/
def Host.Ordered (host : Host) : Prop :=
  ∀ handle conn, host.engine.flowTable.get handle = some conn → conn.Ordered

namespace Host

theorem ordered_start (cfg : EngineConfig) (maxConnections eventSoftCap : ℕ) :
    (Host.start cfg maxConnections eventSoftCap).Ordered := by
  intro handle conn live
  rw [Host.get_start] at live
  cases live

theorem Ordered.step {host : Host} (ordered : host.Ordered) {op : SystemOp}
    (short : op.short = true) : (host.systemStep op).Ordered := by
  intro handle after live
  have received := host.systemStep_receiver op live
  generalize before : host.engine.flowTable.get handle = present at received
  cases received with
  | kept same state beside => exact (ordered handle _ before).kept same state
  | opening rcvWnd recv state =>
      refine ⟨by rw [rcvWnd]; exact Nat.min_le_right _ _, ?_, ?_⟩
      · intro _
        rw [recv]
        exact ⟨rfl, rfl⟩
      · intro running
        rw [running] at state
        cases state
  | segment seg mbufCtx env called dispatched processed same state =>
      subst called
      have left : (DpdkTcp.dispatch _ seg env.clock host.engine.cfg.sendBufferBytes mbufCtx).Ordered
          _ :=
        (ordered handle _ before).dispatch (of_decide_eq_true short) _
      rw [← processed] at left
      exact left.handOver same state

end Host

end DpdkTcp
