import DpdkTcp.Receive.Conserve
import DpdkTcp.Receive.Integrity
import DpdkTcp.Receive.Grow
import DpdkTcp.Window.Advert

/-!
# What the application is handed

A connection takes pieces of its peer's stream in any order and hands what it has without a gap
to the application, in `Readable` events. From the SYN on, what was handed over and what is still
queued are the front of the stream, whatever else arrives that carries no data.
-/

namespace DpdkTcp

open Slice Serial

/-- Data from beyond the window is not let in. -/
theorem segInWindow_of_far {conn : TcpConn} {seg : ParsedSegment} (data : seg.payload ≠ [])
    (far : conn.rcvWnd ≤ offset conn.rcvNxt seg.seq) : segInWindow conn seg = false := by
  have counts : seg.segLen ≠ 0 := by
    have positive := List.length_pos_of_ne_nil data
    rw [ParsedSegment.segLen]
    omega
  have beyond : inWindow conn.rcvNxt seg.seq conn.rcvWnd = false := by
    rw [offset] at far
    rw [inWindow, decide_eq_false (Nat.not_lt.mpr far), ite_self]
  rw [segInWindow, if_neg counts, beyond, Bool.false_and]

/-- The bytes of the `Readable` event a dispatch leads to. -/
def Dispatched.handed (dispatched : Dispatched) : List UInt8 :=
  if 0 < dispatched.outcome.delivered then
    (splitDelivered dispatched.outcome.delivered
      dispatched.conn.recv.bytes).delivered.flatMap InOrderSegment.bytes
  else []

/-- The application was handed the front of a stream, and the bytes behind it are queued. -/
structure TcpConn.Reads (conn : TcpConn) (stream : List UInt8) (base : Seq) (taken : List UInt8) :
    Prop where
  front : taken ++ conn.recv.contents <+: stream
  opening : conn.state = .synSent →
    taken = [] ∧ conn.recv.bytes = [] ∧ conn.recv.reorder.segments = []
  running : conn.state = .established →
    conn.rcvNxt = point base (taken ++ conn.recv.contents).length ∧
      SortedFrom stream base ((taken ++ conn.recv.contents).length + 1)
        ((taken ++ conn.recv.contents).length + 2 ^ 31 - 1) conn.recv.reorder.segments

namespace TcpConn.Reads

variable {conn after : TcpConn} {stream : List UInt8} {base : Seq} {taken : List UInt8}

/-- A change beside the receive side. -/
theorem kept (reads : conn.Reads stream base taken) (same : SameReceiver conn after)
    (state : conn.state.Later after.state) : after.Reads stream base taken where
  front := by
    rw [same.recv]
    exact reads.front
  opening opening := by
    rw [same.recv]
    exact reads.opening (state.eq_synSent opening)
  running running := by
    rw [same.recv, same.rcvNxt]
    exact reads.running (state.eq_established running)

/-- Before the first byte. -/
theorem empty (bytes : conn.recv.bytes = []) (reorder : conn.recv.reorder.segments = [])
    (edge : conn.state = .established → conn.rcvNxt = base) : conn.Reads stream base [] := by
  have nothing : [] ++ conn.recv.contents = [] := by
    rw [List.nil_append, RecvQueue.contents, bytes]
    rfl
  refine ⟨?_, fun _ => ⟨rfl, bytes, reorder⟩, fun running => ⟨?_, ?_⟩⟩
  · rw [nothing]
    exact List.nil_prefix
  · rw [nothing, edge running]
    exact (point_zero base).symm
  · rw [reorder]
    trivial

/-- In ESTABLISHED the connection is a sound receiver. -/
theorem sound (reads : conn.Reads stream base taken) (running : conn.state = .established) :
    (Receiver.mk conn taken false).Sound stream base 0 := by
  rcases reads.running running with ⟨rcvNxt, sorted⟩
  have front := reads.front
  refine ⟨⟨?_, ?_, ?_⟩, .open running rfl ?_⟩
  · rw [slice, List.drop_zero]
    exact List.prefix_iff_eq_take.mp front
  · rw [Nat.zero_add]
    exact front.length_le
  · rw [Nat.zero_add]
    exact rcvNxt
  · rw [Nat.zero_add]
    exact sorted

/-- What a sound receiver tells of a connection with the same queues. -/
theorem of_sound {receiver : Receiver} (sound : receiver.Sound stream base 0)
    (recv : after.recv = receiver.conn.recv) (rcvNxt : after.rcvNxt = receiver.conn.rcvNxt)
    (state : receiver.conn.state.Later after.state) (opened : after.state ≠ .synSent) :
    after.Reads stream base receiver.popped where
  front := by
    rw [recv]
    have front := sound.intact.accepted
    rw [slice, List.drop_zero] at front
    exact List.prefix_iff_eq_take.mpr front
  opening opening := absurd opening opened
  running running := by
    have established := state.eq_established running
    rw [recv, rcvNxt]
    cases sound.phase with
    | «open» _ unfinished reorder =>
        have edge := sound.intact.rcvNxt
        rw [unfinished, Bool.toNat_false, Nat.zero_add] at edge
        rw [Nat.zero_add] at reorder
        exact ⟨edge, reorder⟩
    | finished closeWait =>
        rw [established] at closeWait
        cases closeWait
    | dead closed =>
        rw [established] at closed
        cases closed

/-- A segment with a piece of the stream, in ESTABLISHED. -/
theorem piece (reads : conn.Reads stream base taken) (running : conn.state = .established)
    {seg : ParsedSegment} {clock : Readings} {sendBuf : ℕ} {mbufCtx : Option MbufInsertCtx}
    (noFin : seg.fin = false) {pos : ℕ}
    (cut : CutAt stream base (taken ++ conn.recv.contents).length pos seg mbufCtx)
    (same : SameReceiver ((dispatch conn seg clock sendBuf mbufCtx).conn.handOver
      (dispatch conn seg clock sendBuf mbufCtx).outcome.delivered) after)
    (state : ((dispatch conn seg clock sendBuf mbufCtx).outcome.newState.getD conn.state).Later
      after.state) :
    after.Reads stream base (taken ++ (dispatch conn seg clock sendBuf mbufCtx).handed) := by
  have fits : FinFits conn seg clock mbufCtx := by
    intro _ _ _ fin
    rw [noFin] at fin
    cases fin
  have cut : CutFrom stream base 0 ⟨conn, taken, false⟩ seg mbufCtx := by
    refine Or.inr ⟨pos, ?_⟩
    rw [Nat.zero_add]
    exact cut
  have fed := @Receiver.Sound.segment _ _ _ _ seg clock sendBuf mbufCtx (reads.sound running) cut
    fits
  have opened : conn.state ≠ .synSent := by
    rw [running]
    nofun
  have later := dispatch_later opened seg clock sendBuf mbufCtx
  have stateKept := dispatch_state conn seg clock sendBuf mbufCtx
  dsimp only [receiveStep] at fed
  generalize dispatch conn seg clock sendBuf mbufCtx = dispatched at fed same state later stateKept ⊢
  have stays : after.state ≠ .synSent := fun opening =>
    opened ((later.trans state).eq_synSent opening)
  have decided : dispatched.applied.state.Later after.state := by
    rw [dispatched.applied_state, stateKept]
    exact state
  have recv := same.recv
  have rcvNxt := same.rcvNxt
  dsimp only [TcpConn.handOver] at recv rcvNxt
  unfold Dispatched.handed
  by_cases delivers : 0 < dispatched.outcome.delivered
  · rw [if_pos delivers] at recv ⊢
    have popped := fed.pop dispatched.outcome.delivered
    dsimp only [receiveStep] at popped
    rw [dispatched.applied_recv] at popped
    refine of_sound popped recv ?_ decided stays
    rw [rcvNxt]
    exact dispatched.applied_rcvNxt.symm
  · rw [if_neg delivers] at recv ⊢
    rw [List.append_nil]
    refine of_sound fed ?_ ?_ decided stays
    · rw [recv, dispatched.applied_recv]
    · rw [rcvNxt, dispatched.applied_rcvNxt]

/-- A segment without data, with or without a FIN, or one outside the window. -/
theorem control (reads : conn.Reads stream base taken) (opened : conn.state ≠ .synSent)
    {seg : ParsedSegment} {clock : Readings} {sendBuf : ℕ} {mbufCtx : Option MbufInsertCtx}
    (dropped : conn.state = .established → seg.payload = [] ∨ segInWindow conn seg = false)
    (same : SameReceiver ((dispatch conn seg clock sendBuf mbufCtx).conn.handOver
      (dispatch conn seg clock sendBuf mbufCtx).outcome.delivered) after)
    (state : ((dispatch conn seg clock sendBuf mbufCtx).outcome.newState.getD conn.state).Later
      after.state) :
    after.Reads stream base (taken ++ (dispatch conn seg clock sendBuf mbufCtx).handed) := by
  have receives := dispatch_receives opened seg clock sendBuf mbufCtx
  have later := dispatch_later opened seg clock sendBuf mbufCtx
  generalize dispatch conn seg clock sendBuf mbufCtx = dispatched at receives same state later ⊢
  have quiet : dispatched.outcome.delivered = 0 ∧ dispatched.conn.recv = conn.recv ∧
      (after.state = .established → dispatched.conn.rcvNxt = conn.rcvNxt) := by
    cases receives with
    | idle delivered recv fin closing rcvNxt =>
        refine ⟨delivered, recv, fun running => ?_⟩
        have established := (later.trans state).eq_established running
        cases fin with
        | false => rw [rcvNxt, Bool.toNat_false, seqAdd_zero]
        | true => exact absurd established (closing rfl)
    | data running acceptable known raced received owner fin closing delivered recv rcvNxt =>
        have bare : seg.payload = [] := by
          rcases dropped running with bare | outside
          · exact bare
          · simp [TcpConn.acceptable, outside] at acceptable
        have nothing : deliver raced seg mbufCtx = { conn := raced } := by
          unfold deliver
          rw [bare]
          rfl
        rw [nothing] at delivered recv rcvNxt
        refine ⟨delivered, recv.trans received.recv, fun still => ?_⟩
        cases fin with
        | false => rw [rcvNxt, Bool.toNat_false, seqAdd_zero, received.rcvNxt]
        | true =>
            rw [closing rfl] at state
            cases state.eq_established still
  rcases quiet with ⟨delivered, recv, rcvNxt⟩
  have kept := same.recv
  have edge := same.rcvNxt
  dsimp only [TcpConn.handOver] at kept edge
  rw [delivered, if_neg (Nat.lt_irrefl 0), recv] at kept
  rw [Dispatched.handed, delivered, if_neg (Nat.lt_irrefl 0), List.append_nil]
  refine ⟨?_, fun opening => ?_, fun running => ?_⟩
  · rw [kept]
    exact reads.front
  · exact absurd ((later.trans state).eq_synSent opening) opened
  · rw [kept, edge, rcvNxt running]
    exact reads.running ((later.trans state).eq_established running)

/-- A segment that answers our SYN, or does not. -/
theorem handshake (reads : conn.Reads stream base taken) (opening : conn.state = .synSent)
    {seg : ParsedSegment} {clock : Readings} {sendBuf : ℕ} {mbufCtx : Option MbufInsertCtx}
    (same : SameReceiver ((dispatch conn seg clock sendBuf mbufCtx).conn.handOver
      (dispatch conn seg clock sendBuf mbufCtx).outcome.delivered) after)
    (state : ((dispatch conn seg clock sendBuf mbufCtx).outcome.newState.getD conn.state).Later
      after.state) :
    after.Reads stream (seqAdd after.irs 1)
      (taken ++ (dispatch conn seg clock sendBuf mbufCtx).handed) := by
  have shake : dispatch conn seg clock sendBuf mbufCtx = handleSynSent conn seg clock := by
    rw [dispatch, opening]
  rw [shake] at same state ⊢
  have queue := handleSynSent_recv conn seg clock
  rcases handleSynSent_opens conn seg clock with ⟨_, delivered, moved⟩
  rcases reads.opening opening with ⟨nothing, bytes, reorder⟩
  have recv := same.recv
  have edge := same.rcvNxt
  dsimp only [TcpConn.handOver] at recv edge
  rw [delivered, if_neg (Nat.lt_irrefl 0), queue] at recv
  rw [Dispatched.handed, delivered, if_neg (Nat.lt_irrefl 0), nothing, List.append_nil]
  refine .empty ?_ ?_ fun running => ?_
  · rw [recv]
    exact bytes
  · rw [recv]
    exact reorder
  · have decided := state.eq_established running
    rcases moved with ⟨_, _, none | closed⟩ | ⟨opts, _, _, _, adopted⟩
    · rw [none, Option.getD_none, opening] at decided
      cases decided
    · rw [closed, Option.getD_some] at decided
      cases decided
    · rw [edge, same.irs]
      dsimp only [TcpConn.handOver]
      rw [adopted.rcvNxt, adopted.irs]
      rfl

end TcpConn.Reads

end DpdkTcp
