import DpdkTcp.Lib.Run
import DpdkTcp.Model.Events
import DpdkTcp.Input.Opened
import DpdkTcp.Receive.Deliver

/-!
# The received stream over whole runs

A receiver takes segments cut from one peer stream and lets the application
pop bytes. In every run the bytes popped and the bytes still queued are the
stream up to `rcv_nxt`, and the FIN is consumed behind the last byte, as long
as no FIN segment is cut short by the receive buffer: the FIN test compares
`seq + delivered` with `rcv_nxt`, which holds for every in-order segment
whatever part of it was delivered.
-/

namespace DpdkTcp

open Slice Serial

/-- A connection, what the application took from it, and whether a FIN was consumed. -/
structure Receiver where
  conn : TcpConn
  popped : List UInt8
  finConsumed : Bool

namespace Receiver

/-- The bytes popped so far followed by those still in `recv.bytes`. -/
def accepted (receiver : Receiver) : List UInt8 :=
  receiver.popped ++ receiver.conn.recv.contents

/-- A receiver before its first segment. -/
def init (conn : TcpConn) : Receiver :=
  { conn := conn, popped := [], finConsumed := false }

end Receiver

/-- A segment arrives, or the application takes bytes. -/
inductive ReceiveOp where
  | segment (seg : ParsedSegment) (clock : Readings) (sendBufferBytes : ℕ)
      (mbufCtx : Option MbufInsertCtx)
  | pop (count : ℕ)

/-- `rcv_nxt` moved one further than the delivered bytes. -/
def tookFin (before : TcpConn) (dispatched : Dispatched) : Bool :=
  dispatched.conn.rcvNxt == seqAdd before.rcvNxt (dispatched.outcome.delivered + 1)

/-- One step of a receiver. -/
def receiveStep (receiver : Receiver) : ReceiveOp → Receiver
  | .segment seg clock sendBuf mbufCtx =>
      let dispatched := dispatch receiver.conn seg clock sendBuf mbufCtx
      { conn := dispatched.applied
        popped := receiver.popped
        finConsumed := receiver.finConsumed || tookFin receiver.conn dispatched }
  | .pop count =>
      let split := splitDelivered count receiver.conn.recv.bytes
      { conn :=
          { receiver.conn with recv := { receiver.conn.recv with bytes := split.rest } }
        popped := receiver.popped ++ split.delivered.flatMap InOrderSegment.bytes
        finConsumed := receiver.finConsumed }

/-- Popping moves bytes from the queue to the application and keeps their order. -/
theorem splitDelivered_bytes (count : ℕ) (segs : List InOrderSegment) :
    (splitDelivered count segs).delivered.flatMap InOrderSegment.bytes ++
        (splitDelivered count segs).rest.flatMap InOrderSegment.bytes =
      segs.flatMap InOrderSegment.bytes := by
  induction segs generalizing count with
  | nil => simp [splitDelivered]
  | cons seg rest ih =>
      dsimp only [splitDelivered]
      split
      · simp
      · split
        · have tail := ih (count - seg.len)
          simp only [List.flatMap_cons, List.append_assoc, tail]
        · rename_i positive partialPop
          -- the offset saturates only where the buffer has no bytes left
          have saturated : seg.mbuf.data.drop (min (seg.offset + count) 65535) =
              seg.mbuf.data.drop (seg.offset + count) := by
            have small := seg.mbuf.dataLen_lt
            rcases Nat.le_total (seg.offset + count) 65535 with fits | beyond
            · rw [Nat.min_eq_left fits]
            · rw [Nat.min_eq_right beyond, List.drop_eq_nil_of_le (by omega),
                List.drop_eq_nil_of_le (by omega)]
          have pieces : slice seg.mbuf.data seg.offset count ++
              slice seg.mbuf.data (seg.offset + count) (seg.len - count) =
                slice seg.mbuf.data seg.offset seg.len := by
            rw [slice_append_slice]
            congr 1
            omega
          simp only [slice] at pieces
          simp only [List.flatMap_cons, List.flatMap_nil, List.append_nil, InOrderSegment.bytes,
            saturated, ← List.append_assoc, pieces]

variable (stream : List UInt8) (base : Seq) (start : ℕ)

/-- The segment is empty, or cut from the stream near the received position. -/
def CutFrom (receiver : Receiver) (seg : ParsedSegment) (mbufCtx : Option MbufInsertCtx) : Prop :=
  (carriedBytes seg mbufCtx = [] ∧ seg.fin = false) ∨
    ∃ pos, CutAt stream base (start + receiver.accepted.length) pos seg mbufCtx

/-- A FIN segment the handler would process in order is not cut short: it has no
payload, or it has a buffer and its payload fits in the free space. -/
def FinFits (conn : TcpConn) (seg : ParsedSegment) (clock : Readings)
    (mbufCtx : Option MbufInsertCtx) : Prop :=
  conn.state = .established → conn.acceptable seg clock.paws = true →
    conn.ackKnown seg = true → seg.fin = true → seg.seq = conn.rcvNxt →
      carriedBytes seg mbufCtx = [] ∨
        (seg.payload ≠ [] ∧ mbufCtx.isSome = true ∧
          (carriedBytes seg mbufCtx).length ≤ conn.recv.freeSpace)

/-- The bytes accepted are the stream from `start` up to `rcv_nxt`, less the FIN. -/
structure Receiver.Intact (receiver : Receiver) : Prop where
  accepted : receiver.accepted = slice stream start receiver.accepted.length
  inside : start + receiver.accepted.length ≤ stream.length
  rcvNxt : receiver.conn.rcvNxt =
    point base (start + receiver.accepted.length + receiver.finConsumed.toNat)

/-- What holds in each of the states a receiver goes through. -/
inductive Receiver.Phase (receiver : Receiver) : Prop where
  | open (established : receiver.conn.state = .established) (unfinished : receiver.finConsumed = false)
      (reorder : SortedFrom stream base (start + receiver.accepted.length + 1)
        (start + receiver.accepted.length + 2 ^ 31 - 1) receiver.conn.recv.reorder.segments)
  | finished (closeWait : receiver.conn.state = .closeWait) (consumed : receiver.finConsumed = true)
      (complete : start + receiver.accepted.length = stream.length)
  | dead (closed : receiver.conn.state = .closed)

/-- The invariant of a run. -/
structure Receiver.Sound (receiver : Receiver) : Prop where
  intact : receiver.Intact stream base start
  phase : receiver.Phase stream base start

variable {stream base start}

/-! ### Steps that deliver nothing -/

theorem seqAdd_succ_ne (seq : Seq) (len : ℕ) : seqAdd seq len ≠ seqAdd seq (len + 1) := by
  rw [seqAdd_add]
  generalize seqAdd seq len = next
  simp [seqAdd]

/-- `tookFin` tells whether a FIN moved `rcv_nxt`. -/
theorem tookFin_eq {before : TcpConn} {dispatched : Dispatched} {fin : Bool}
    (rcvNxt : dispatched.conn.rcvNxt =
      seqAdd before.rcvNxt (dispatched.outcome.delivered + fin.toNat)) :
    tookFin before dispatched = fin := by
  unfold tookFin
  rw [rcvNxt]
  cases fin with
  | false => simpa using seqAdd_succ_ne before.rcvNxt dispatched.outcome.delivered
  | true => simp

/-- The receive side after the dispatch is as before. -/
structure Unmoved (before : TcpConn) (dispatched : Dispatched) : Prop where
  rcvNxt : dispatched.conn.rcvNxt = before.rcvNxt
  recv : dispatched.conn.recv = before.recv
  delivered : dispatched.outcome.delivered = 0

theorem Unmoved.tookFin_eq {before : TcpConn} {dispatched : Dispatched}
    (unmoved : Unmoved before dispatched) : tookFin before dispatched = false := by
  have differs := seqAdd_succ_ne before.rcvNxt 0
  rw [seqAdd_zero] at differs
  simpa [tookFin, unmoved.rcvNxt, unmoved.delivered] using differs

section Unmoved

variable {receiver : Receiver} {seg : ParsedSegment} {clock : Readings} {sendBuf : ℕ}
  {mbufCtx : Option MbufInsertCtx}
  (unmoved : Unmoved receiver.conn (dispatch receiver.conn seg clock sendBuf mbufCtx))

include unmoved

theorem Unmoved.accepted_eq :
    (receiveStep receiver (.segment seg clock sendBuf mbufCtx)).accepted = receiver.accepted := by
  simp [receiveStep, Receiver.accepted, unmoved.recv]

theorem Unmoved.finConsumed_eq :
    (receiveStep receiver (.segment seg clock sendBuf mbufCtx)).finConsumed =
      receiver.finConsumed := by
  simp [receiveStep, unmoved.tookFin_eq]

theorem Unmoved.recv_eq :
    (receiveStep receiver (.segment seg clock sendBuf mbufCtx)).conn.recv =
      receiver.conn.recv := by
  simp [receiveStep, unmoved.recv]

theorem Unmoved.intact (intact : receiver.Intact stream base start) :
    (receiveStep receiver (.segment seg clock sendBuf mbufCtx)).Intact stream base start := by
  constructor
  · rw [unmoved.accepted_eq]
    exact intact.accepted
  · rw [unmoved.accepted_eq]
    exact intact.inside
  · rw [unmoved.accepted_eq, unmoved.finConsumed_eq]
    simpa [receiveStep, unmoved.rcvNxt] using intact.rcvNxt

/-- A step that delivers nothing and stays in its state, or closes. -/
theorem Unmoved.sound (sound : receiver.Sound stream base start)
    (sameState :
      (dispatch receiver.conn seg clock sendBuf mbufCtx).applied.state = receiver.conn.state ∨
        (dispatch receiver.conn seg clock sendBuf mbufCtx).applied.state = .closed) :
    (receiveStep receiver (.segment seg clock sendBuf mbufCtx)).Sound stream base start := by
  refine ⟨unmoved.intact sound.intact, ?_⟩
  rcases sameState with same | closed
  · cases sound.phase with
    | «open» established unfinished reorder =>
        refine .open (same.trans established) (unmoved.finConsumed_eq.trans unfinished) ?_
        rw [unmoved.accepted_eq, unmoved.recv_eq]
        exact reorder
    | finished closeWait consumed complete =>
        refine .finished (same.trans closeWait) (unmoved.finConsumed_eq.trans consumed) ?_
        rw [unmoved.accepted_eq]
        exact complete
    | dead closed => exact .dead (same.trans closed)
  · exact .dead closed

end Unmoved

/-! ### Processed segments -/

/-- Appending the next bytes of the stream to an intact receiver. -/
theorem Receiver.Intact.grow {receiver after : Receiver} {count : ℕ}
    (intact : receiver.Intact stream base start)
    (grown : after.accepted =
      receiver.accepted ++ slice stream (start + receiver.accepted.length) count)
    (inside : start + receiver.accepted.length + count ≤ stream.length) :
    after.accepted.length = receiver.accepted.length + count ∧
      after.accepted = slice stream start after.accepted.length := by
  have length : after.accepted.length = receiver.accepted.length + count := by
    rw [grown, List.length_append, length_slice_of_le inside]
  refine ⟨length, ?_⟩
  rw [length, ← slice_append_slice, ← intact.accepted]
  exact grown

/-- The FIN test on a segment of the stream succeeds only at the received position. -/
theorem consumesFin_iff {cur pos count : ℕ} {before : TcpConn} {seg : ParsedSegment}
    {mbufCtx : Option MbufInsertCtx} {delivery : Delivery}
    (cut : CutAt stream base cur pos seg mbufCtx)
    (delivered : DeliveredAt stream base cur count before delivery) :
    consumesFin seg delivery = true ↔ seg.fin = true ∧ pos = cur := by
  have ahead := cut.ahead
  have behind := cut.behind
  rw [consumesFin, Bool.and_eq_true, beq_iff_eq, delivered.delivered, delivered.received.rcvNxt,
    cut.seq, seqAdd_point]
  refine and_congr_right fun _ => ?_
  rw [point_inj base (by omega) (by omega)]
  omega

/-- A FIN that is consumed under `FinFits` stands right behind the delivered bytes. -/
theorem FinFits.complete {cur count : ℕ} {conn raced : TcpConn} {seg : ParsedSegment}
    {mbufCtx : Option MbufInsertCtx} {delivery : Delivery}
    (fits : carriedBytes seg mbufCtx = [] ∨
      (seg.payload ≠ [] ∧ mbufCtx.isSome = true ∧
        (carriedBytes seg mbufCtx).length ≤ conn.recv.freeSpace))
    (same : raced.recv = conn.recv) (fin : seg.fin = true)
    (cut : CutAt stream base cur cur seg mbufCtx)
    (delivered : DeliveredAt stream base cur count raced delivery)
    (least : (acceptedBytes raced.recv seg mbufCtx).length ≤ count) :
    cur + count = stream.length := by
  have ends := cut.fin fin
  have inside := delivered.received.inside
  rcases fits with empty | ⟨data, buffered, room⟩
  · rw [empty, List.length_nil] at ends
    omega
  · cases mbufCtx with
    | none => cases buffered
    | some ctx =>
        dsimp only [acceptedBytes] at least
        rw [same, if_neg data, List.take_of_length_le room] at least
        omega

section Processed

variable {receiver : Receiver} {seg : ParsedSegment} {clock : Readings} {sendBuf : ℕ}
  {mbufCtx : Option MbufInsertCtx} {opts : TcpOpts} {sack : SackPass} {ack : AckPass}

/-- Up to loss detection the receive side is that of the connection before the call. -/
theorem Accepted.sameReceive_raced
    (accepted : Accepted receiver.conn seg clock sendBuf opts sack ack) :
    SameReceive receiver.conn (rackPass ack.conn clock.rack).1 :=
  (accepted.sameEdges.1.trans (ackPass_change accepted.acked).sameReceive).trans
    (rackPass_sameReceive ack.conn clock.rack)

/-- The stages behind the ACK pass, seen from the receive side. -/
theorem establishedData_receive (seg : ParsedSegment) (mbufCtx : Option MbufInsertCtx)
    (rackNow : ℕ) (expired : Bool) (sack : SackPass) (ack : AckPass) :
    let delivery := deliver (rackPass ack.conn rackNow).1 seg mbufCtx
    let result := establishedData seg mbufCtx rackNow expired sack ack
    result.conn.recv = delivery.conn.recv ∧ result.outcome.delivered = delivery.delivered ∧
      (consumesFin seg delivery = true →
        result.conn.rcvNxt = seqAdd delivery.conn.rcvNxt 1 ∧
          result.outcome.newState = some .closeWait) ∧
      (consumesFin seg delivery = false →
        result.conn.rcvNxt = delivery.conn.rcvNxt ∧ result.outcome.newState = none) := by
  intro delivery result
  have split : result.conn = (takeFin seg delivery).1 ∧
      result.outcome.newState = (takeFin seg delivery).2 := ⟨rfl, rfl⟩
  rw [split.1, split.2]
  unfold takeFin
  cases consumesFin seg delivery
  · exact ⟨rfl, rfl, fun consumed => absurd consumed Bool.false_ne_true, fun _ => ⟨rfl, rfl⟩⟩
  · exact ⟨rfl, rfl, fun _ => ⟨rfl, rfl⟩, fun open_ => absurd open_.symm Bool.false_ne_true⟩

theorem Receiver.Sound.processed {pos : ℕ} {expired : Bool}
    (sound : receiver.Sound stream base start)
    (established : receiver.conn.state = .established) (unfinished : receiver.finConsumed = false)
    (reorder : SortedFrom stream base (start + receiver.accepted.length + 1)
      (start + receiver.accepted.length + 2 ^ 31 - 1) receiver.conn.recv.reorder.segments)
    (cut : CutAt stream base (start + receiver.accepted.length) pos seg mbufCtx)
    (fits : FinFits receiver.conn seg clock mbufCtx)
    (accepted : Accepted receiver.conn seg clock sendBuf opts sack ack)
    (processed : dispatch receiver.conn seg clock sendBuf mbufCtx =
      establishedData seg mbufCtx clock.rack expired sack ack) :
    (receiveStep receiver (.segment seg clock sendBuf mbufCtx)).Sound stream base start := by
  have same := accepted.sameReceive_raced
  have edge : receiver.conn.rcvNxt = point base (start + receiver.accepted.length) := by
    have rcvNxt := sound.intact.rcvNxt
    rw [unfinished] at rcvNxt
    exact rcvNxt
  have received : ReceivedTo stream base (start + receiver.accepted.length)
      (rackPass ack.conn clock.rack).1 :=
    ⟨same.rcvNxt.trans edge, sound.intact.inside, by rw [same.recv]; exact reorder⟩
  rcases deliver_deliveredAt received cut with ⟨count, delivered, _, least⟩
  have inside := delivered.received.inside
  have finTest := consumesFin_iff cut delivered
  have effect := establishedData_receive seg mbufCtx clock.rack expired sack ack
  have state : (establishedData seg mbufCtx clock.rack expired sack ack).conn.state =
      .established := by
    rw [← processed]
    simpa [dispatch, established] using
      (handleEstablished_sameOwner receiver.conn seg clock sendBuf mbufCtx).state
  generalize establishedData seg mbufCtx clock.rack expired sack ack = result at *
  generalize deliver (rackPass ack.conn clock.rack).1 seg mbufCtx = delivery at *
  rcases effect with ⟨recv, total, onFin, onData⟩
  have grown : (receiveStep receiver (.segment seg clock sendBuf mbufCtx)).accepted =
      receiver.accepted ++ slice stream (start + receiver.accepted.length) count := by
    simp only [receiveStep, processed, Receiver.accepted, Dispatched.applied_recv, recv,
      delivered.contents, same.recv, List.append_assoc]
  rcases sound.intact.grow grown inside with ⟨length, contents⟩
  cases consumed : consumesFin seg delivery with
  | true =>
      rcases onFin consumed with ⟨rcvNxt, newState⟩
      rcases finTest.mp consumed with ⟨fin, rfl⟩
      have complete := FinFits.complete
        (fits established accepted.acceptable.1 accepted.acceptable.2 fin
          (cut.seq.trans edge.symm))
        same.recv fin cut delivered (least rfl)
      have took : tookFin receiver.conn result = true := by
        rw [tookFin, beq_iff_eq, rcvNxt, delivered.received.rcvNxt, total, delivered.delivered,
          edge, seqAdd_point, seqAdd_point, Nat.add_assoc]
      have flag : (receiveStep receiver (.segment seg clock sendBuf mbufCtx)).finConsumed = true := by
        simp [receiveStep, processed, took]
      refine ⟨⟨contents, ?_, ?_⟩, .finished ?_ flag ?_⟩
      · omega
      · rw [flag, length, ← Nat.add_assoc]
        simp only [receiveStep, processed, Dispatched.applied_rcvNxt, rcvNxt,
          delivered.received.rcvNxt, seqAdd_point, Bool.toNat_true]
      · simp [receiveStep, processed, Dispatched.applied_state, newState]
      · omega
  | false =>
      rcases onData consumed with ⟨rcvNxt, newState⟩
      have took : tookFin receiver.conn result = false := by
        rw [tookFin, beq_eq_false_iff_ne, rcvNxt, delivered.received.rcvNxt, total,
          delivered.delivered, edge, ← seqAdd_point]
        exact seqAdd_succ_ne _ count
      have flag : (receiveStep receiver (.segment seg clock sendBuf mbufCtx)).finConsumed = false := by
        simp [receiveStep, processed, took, unfinished]
      refine ⟨⟨contents, ?_, ?_⟩, .open ?_ flag ?_⟩
      · omega
      · rw [flag, length, ← Nat.add_assoc]
        simp only [receiveStep, processed, Dispatched.applied_rcvNxt, rcvNxt,
          delivered.received.rcvNxt, Bool.toNat_false, Nat.add_zero]
      · simp [receiveStep, processed, Dispatched.applied_state, newState, state]
      · rw [length, ← Nat.add_assoc]
        simp only [receiveStep, processed, Dispatched.applied_recv, recv]
        exact delivered.received.reorder

end Processed

/-! ### One step -/

section Step

variable {receiver : Receiver} {seg : ParsedSegment} {clock : Readings} {sendBuf : ℕ}
  {mbufCtx : Option MbufInsertCtx}

/-- A segment in ESTABLISHED. -/
theorem Receiver.Sound.segment_open (sound : receiver.Sound stream base start)
    (established : receiver.conn.state = .established) (unfinished : receiver.finConsumed = false)
    (reorder : SortedFrom stream base (start + receiver.accepted.length + 1)
      (start + receiver.accepted.length + 2 ^ 31 - 1) receiver.conn.recv.reorder.segments)
    (cut : CutFrom stream base start receiver seg mbufCtx)
    (fits : FinFits receiver.conn seg clock mbufCtx) :
    (receiveStep receiver (.segment seg clock sendBuf mbufCtx)).Sound stream base start := by
  have handler : dispatch receiver.conn seg clock sendBuf mbufCtx =
      handleEstablished receiver.conn seg clock sendBuf mbufCtx := by
    simp [dispatch, established]
  rcases handleEstablished_cases receiver.conn seg clock sendBuf mbufCtx with
    ⟨quiet, newState, tsRecent, tsRecentAge, change⟩ | ⟨opts, sack, ack, expired, accepted, processed⟩
  · have same := (sameReceive_stamp receiver.conn tsRecent tsRecentAge).trans change.sameReceive
    rw [← handler] at quiet newState same
    have unmoved : Unmoved receiver.conn (dispatch receiver.conn seg clock sendBuf mbufCtx) :=
      ⟨same.rcvNxt, same.recv, quiet.delivered⟩
    refine unmoved.sound sound ?_
    rw [Dispatched.applied_state, same.state]
    rcases newState with none | closed
    · simp [none]
    · simp [closed.2]
  · rcases cut with ⟨empty, noFin⟩ | ⟨pos, cut⟩
    · -- a pure ACK: nothing to deliver, no FIN to consume
      have noPayload : seg.payload = [] := (List.append_eq_nil_iff.mp empty).1
      have same := accepted.sameReceive_raced
      have nothing : deliver (rackPass ack.conn clock.rack).1 seg mbufCtx =
          { conn := (rackPass ack.conn clock.rack).1 } := by
        simp [deliver, noPayload]
      have effect := establishedData_receive seg mbufCtx clock.rack expired sack ack
      rw [nothing] at effect
      rcases effect with ⟨recv, total, _, onData⟩
      rcases onData (by simp [consumesFin, noFin]) with ⟨rcvNxt, newState⟩
      rw [← processed, ← handler] at recv total rcvNxt newState
      have unmoved : Unmoved receiver.conn (dispatch receiver.conn seg clock sendBuf mbufCtx) :=
        ⟨rcvNxt.trans same.rcvNxt, recv.trans same.recv, total⟩
      refine unmoved.sound sound (Or.inl ?_)
      rw [Dispatched.applied_state, newState, handler]
      exact (handleEstablished_sameOwner receiver.conn seg clock sendBuf mbufCtx).state
    · exact sound.processed established unfinished reorder cut fits accepted
        (handler.trans processed)

/-- A segment after the FIN: no further FIN of the stream can be at `rcv_nxt`. -/
theorem Receiver.Sound.segment_finished (sound : receiver.Sound stream base start)
    (closeWait : receiver.conn.state = .closeWait) (consumed : receiver.finConsumed = true)
    (complete : start + receiver.accepted.length = stream.length)
    (cut : CutFrom stream base start receiver seg mbufCtx) :
    (receiveStep receiver (.segment seg clock sendBuf mbufCtx)).Sound stream base start := by
  have handler : dispatch receiver.conn seg clock sendBuf mbufCtx =
      handleClosePath receiver.conn seg clock := by
    simp [dispatch, closeWait]
  have noFin : (seg.fin && seqAdd seg.seq seg.payload.length == receiver.conn.rcvNxt) = false := by
    rcases cut with ⟨_, noFin⟩ | ⟨pos, cut⟩
    · rw [noFin, Bool.false_and]
    · rw [Bool.and_eq_false_imp]
      intro fin
      have ends := cut.fin fin
      have lengths := cut.payload_length_le
      have behind := cut.behind
      rw [beq_eq_false_iff_ne, cut.seq, sound.intact.rcvNxt, seqAdd_point, consumed,
        Bool.toNat_true, ne_eq, point_inj base (by omega) (by omega)]
      omega
  rcases handleClosePath_cases receiver.conn seg clock with
    ⟨quiet, ⟨same, newState⟩ | ⟨_, opts, timed, expired, passed, advanced, newState⟩⟩
  · rw [← handler] at quiet same newState
    have unmoved : Unmoved receiver.conn (dispatch receiver.conn seg clock sendBuf mbufCtx) :=
      ⟨by rw [same], by rw [same], quiet.delivered⟩
    refine unmoved.sound sound ?_
    rw [Dispatched.applied_state, same]
    rcases newState with none | closed
    · simp [none]
    · simp [closed.2]
  · rcases paws_passed passed with ⟨tsRecent, tsRecentAge, rfl⟩
    have change := sackPass_change (receiver.conn.stamp tsRecent tsRecentAge) opts clock.dsack
    have same :=
      (sameReceive_stamp receiver.conn tsRecent tsRecentAge).trans change.sameReceive
    rw [closeAdvance_only, same.rcvNxt, noFin, if_neg Bool.false_ne_true] at advanced
    have stays : (closeAdvance (sackPass (receiver.conn.stamp tsRecent tsRecentAge) opts
        clock.dsack).conn seg).2.1 = none := by
      simp [closeAdvance, same.state, closeWait, closeTransition]
    rw [← handler] at quiet advanced newState
    have unmoved : Unmoved receiver.conn (dispatch receiver.conn seg clock sendBuf mbufCtx) :=
      ⟨by rw [advanced], by rw [advanced]; exact same.recv, quiet.delivered⟩
    refine unmoved.sound sound (Or.inl ?_)
    rw [Dispatched.applied_state, newState, stays, advanced]
    exact same.state

theorem Receiver.Sound.segment (sound : receiver.Sound stream base start)
    (cut : CutFrom stream base start receiver seg mbufCtx)
    (fits : FinFits receiver.conn seg clock mbufCtx) :
    (receiveStep receiver (.segment seg clock sendBuf mbufCtx)).Sound stream base start := by
  cases sound.phase with
  | «open» established unfinished reorder =>
      exact sound.segment_open established unfinished reorder cut fits
  | finished closeWait consumed complete =>
      exact sound.segment_finished closeWait consumed complete cut
  | dead closed =>
      have handler : dispatch receiver.conn seg clock sendBuf mbufCtx =
          { conn := receiver.conn, outcome := Outcome.none } := by
        simp [dispatch, closed]
      have unmoved : Unmoved receiver.conn (dispatch receiver.conn seg clock sendBuf mbufCtx) := by
        rw [handler]
        exact ⟨rfl, rfl, rfl⟩
      refine unmoved.sound sound (Or.inl ?_)
      rw [handler]
      rfl

/-- Popping bytes changes neither the accepted stream nor the connection's edges. -/
theorem Receiver.Sound.pop (sound : receiver.Sound stream base start) (count : ℕ) :
    (receiveStep receiver (.pop count)).Sound stream base start := by
  have accepted : (receiveStep receiver (.pop count)).accepted = receiver.accepted := by
    have moved := splitDelivered_bytes count receiver.conn.recv.bytes
    simp only [receiveStep, Receiver.accepted, RecvQueue.contents, List.append_assoc, moved]
  constructor
  · constructor
    · rw [accepted]
      exact sound.intact.accepted
    · rw [accepted]
      exact sound.intact.inside
    · rw [accepted]
      exact sound.intact.rcvNxt
  · cases sound.phase with
    | «open» established unfinished reorder =>
        refine .open established unfinished ?_
        rw [accepted]
        exact reorder
    | finished closeWait consumed complete =>
        refine .finished closeWait consumed ?_
        rw [accepted]
        exact complete
    | dead closed => exact .dead closed

end Step

/-- A connection in ESTABLISHED with empty queues is a sound receiver at its `rcv_nxt`. -/
theorem Receiver.Sound.init {conn : TcpConn} (established : conn.state = .established)
    (noBytes : conn.recv.bytes = []) (noReorder : conn.recv.reorder.segments = [])
    (edge : conn.rcvNxt = point base start) (inside : start ≤ stream.length) :
    (Receiver.init conn).Sound stream base start := by
  have accepted : (Receiver.init conn).accepted = [] := by
    simp [Receiver.init, Receiver.accepted, RecvQueue.contents, noBytes]
  refine ⟨⟨?_, ?_, ?_⟩, .open established rfl ?_⟩
  · simp [accepted]
  · simpa [accepted] using inside
  · rw [accepted]
    exact edge
  · simp only [Receiver.init, noReorder]
    trivial

end DpdkTcp
