import DpdkTcp.Receive.Append
import DpdkTcp.Input.Opened

/-!
# The state and the numbers a segment leaves

For every segment, what `dispatch` decides on the state of the connection and
where it leaves `snd_una` and `rcv_nxt`. Our own initial number, `snd_nxt` and
`our_fin_seq` are never its business.
-/

namespace DpdkTcp

/-! ### How far `rcv_nxt` moves -/

/-- The receive edge moves by the bytes taken, which the payload and the buffer bound. -/
structure Takes (limit taken : ℕ) (before after : TcpConn) : Prop where
  rcvNxt : after.rcvNxt = seqAdd before.rcvNxt taken
  taken_le : taken ≤ limit
  cap : after.recv.cap = before.recv.cap

theorem Takes.none {before after : TcpConn} (limit : ℕ) (rcvNxt : after.rcvNxt = before.rcvNxt)
    (cap : after.recv.cap = before.recv.cap) : Takes limit 0 before after :=
  ⟨by rw [rcvNxt, seqAdd_zero], Nat.zero_le _, cap⟩

/-- Only the head of a segment can be longer than the window its length is stored in. -/
theorem appendInOrder_room (recv : RecvQueue) (seg : ParsedSegment)
    (mbufCtx : Option MbufInsertCtx) :
    (appendInOrder recv seg mbufCtx).recv.cap = recv.cap ∧
      (appendInOrder recv seg mbufCtx).recv.reorder = recv.reorder ∧
      (appendInOrder recv seg mbufCtx).delivered +
          (appendInOrder recv seg mbufCtx).recv.freeSpace ≤ seg.payload.length + recv.cap := by
  have room : recv.freeSpace ≤ recv.cap := Nat.sub_le _ _
  have unchanged : recv.cap = recv.cap ∧ recv.reorder = recv.reorder ∧
      0 + recv.freeSpace ≤ seg.payload.length + recv.cap :=
    ⟨rfl, rfl, by omega⟩
  dsimp only [appendInOrder]
  cases mbufCtx with
  | none => exact unchanged
  | some ctx =>
      dsimp only
      split
      · generalize pushed_eq : ({ recv := recv } : Appended).push ctx.mbuf ctx.payloadOffset
          (min seg.payload.length recv.freeSpace) = pushed
        have pushedCap : pushed.recv.cap = recv.cap := by
          rw [← pushed_eq]
          rfl
        have pushedReorder : pushed.recv.reorder = recv.reorder := by
          rw [← pushed_eq]
          rfl
        have pushedDelivered : pushed.delivered ≤ seg.payload.length := by
          rw [← pushed_eq]
          dsimp only [Appended.push]
          omega
        have pushedRoom : pushed.recv.freeSpace ≤ recv.cap := by
          rw [← pushedCap]
          exact Nat.sub_le _ _
        have extension := appendChain_extends ctx.next pushed
        have left := extension.freeSpace
        refine ⟨extension.cap.trans pushedCap, extension.reorder.trans pushedReorder, ?_⟩
        rw [extension.delivered, left, List.length_take]
        omega
      · exact unchanged

theorem drainSegments_bytesAppended_le (segs : List OooSegment) (rcvNxt : Seq)
    (capRoom totalBytes : ℕ) :
    (drainSegments segs rcvNxt capRoom totalBytes).bytesAppended ≤ capRoom := by
  induction segs generalizing rcvNxt capRoom totalBytes with
  | nil => exact Nat.zero_le _
  | cons seg rest ih =>
      dsimp only [drainSegments]
      split
      · exact Nat.zero_le _
      · split
        · exact ih _ _ _
        · have fits : asU16 (min (seg.len - asU16 (rcvNxt - seg.seq).toNat) capRoom) ≤ capRoom :=
            Nat.le_trans (Nat.mod_le _ _) (Nat.min_le_right _ _)
          generalize asU16 (min (seg.len - asU16 (rcvNxt - seg.seq).toNat) capRoom) = appended
            at fits ⊢
          have later := ih (seqAdd rcvNxt appended) (capRoom - appended) (totalBytes - seg.len)
          split
          · dsimp only
            omega
          · dsimp only
            omega

theorem drainReorder_takes {before : TcpConn} {delivery : Delivery} {limit : ℕ}
    (rcvNxt : delivery.conn.rcvNxt = seqAdd before.rcvNxt delivery.delivered)
    (room : delivery.delivered + delivery.conn.recv.freeSpace ≤ limit)
    (cap : delivery.conn.recv.cap = before.recv.cap) :
    Takes limit (drainReorder delivery).delivered before (drainReorder delivery).conn := by
  dsimp only [drainReorder]
  split
  · exact ⟨rcvNxt, by omega, cap⟩
  · have appended := drainSegments_bytesAppended_le delivery.conn.recv.reorder.segments
      delivery.conn.rcvNxt delivery.conn.recv.freeSpace delivery.conn.recv.reorder.totalBytes
    refine ⟨?_, ?_, cap⟩
    · dsimp only
      rw [rcvNxt, seqAdd_add]
    · dsimp only
      omega

theorem insertChain_takes {before : TcpConn} (limit : ℕ) (links : List RxMbuf) (linkSeq : Seq)
    {delivery : Delivery} (none : delivery.delivered = 0)
    (rcvNxt : delivery.conn.rcvNxt = before.rcvNxt)
    (cap : delivery.conn.recv.cap = before.recv.cap) :
    Takes limit (insertChain links linkSeq delivery).delivered before
      (insertChain links linkSeq delivery).conn := by
  induction links generalizing linkSeq delivery with
  | nil =>
      dsimp only [insertChain]
      rw [none]
      exact .none limit rcvNxt cap
  | cons link rest ih =>
      dsimp only [insertChain]
      split
      · exact ih linkSeq none rcvNxt cap
      · exact ih _ none rcvNxt cap

theorem deliver_takes (conn : TcpConn) (seg : ParsedSegment) (mbufCtx : Option MbufInsertCtx) :
    Takes (seg.payload.length + conn.recv.cap) (deliver conn seg mbufCtx).delivered conn
      (deliver conn seg mbufCtx).conn := by
  have unchanged := Takes.none (seg.payload.length + conn.recv.cap)
    (rfl : conn.rcvNxt = conn.rcvNxt) rfl
  unfold deliver
  split
  · exact unchanged
  · split
    · rcases appendInOrder_room conn.recv seg mbufCtx with ⟨cap, _, room⟩
      exact drainReorder_takes rfl room cap
    · split
      · dsimp only [deliverOutOfOrder]
        split
        · split
          · refine insertChain_takes _ _ _ rfl rfl ?_
            dsimp only [ReorderQueue.insert]
          · exact unchanged
        · exact unchanged
      · exact unchanged

/-! ### How a dispatch ends -/

/-- The left edge behind an acknowledgment. -/
def TcpConn.unaAfter (conn : TcpConn) (ack : Seq) : Seq :=
  if seqLt conn.sndUna ack && seqLe ack conn.sndNxt then ack else conn.sndUna

/-- A SYN-ACK that opens the connection. -/
def TcpConn.takesSynAck (conn : TcpConn) (seg : ParsedSegment) : Bool :=
  !seg.flags.has TCP_RST && seg.flags.has TCP_SYN && seg.flags.has TCP_ACK &&
    synAcked conn seg && (parseOptions seg.options).isOk

/-- The peer's FIN is the next number expected. -/
def TcpConn.peerHasFin (conn : TcpConn) (seg : ParsedSegment) : Bool :=
  seg.fin && seqAdd seg.seq seg.payload.length == conn.rcvNxt

/-- How a dispatch ends: the connection it leaves and the state it decides on. -/
inductive DispatchEnds (conn : TcpConn) (seg : ParsedSegment) (nowNs : ℕ) (after : TcpConn) :
    Option TcpState → Prop where
  | ignored (sndUna : after.sndUna = conn.sndUna)
      (takes : Takes (seg.payload.length + conn.recv.cap + 1) 0 conn after) :
      DispatchEnds conn seg nowNs after none
  | reset (cause : seg.flags.has TCP_RST = true ∨ conn.state = .synSent)
      (sndUna : after.sndUna = conn.sndUna)
      (takes : Takes (seg.payload.length + conn.recv.cap + 1) 0 conn after) :
      DispatchEnds conn seg nowNs after (some .closed)
  | opened (opening : conn.state = .synSent) (takesSynAck : conn.takesSynAck seg = true)
      (sndUna : after.sndUna = seg.ack) (rcvNxt : after.rcvNxt = seqAdd after.irs 1)
      (cap : after.recv.cap = conn.recv.cap) :
      DispatchEnds conn seg nowNs after (some .established)
  | running (state : conn.state = .established) (acceptable : conn.acceptable seg nowNs = true)
      (sndUna : after.sndUna = conn.unaAfter seg.ack) (taken : ℕ)
      (takes : Takes (seg.payload.length + conn.recv.cap + 1) taken conn after)
      (target : Option TcpState) (decided : target = none ∨ target = some .closeWait) :
      DispatchEnds conn seg nowNs after target
  | closing (state : conn.state.isClosing = true)
      (acceptable : conn.closeAcceptable seg nowNs = true)
      (sndUna : after.sndUna = conn.unaAfter seg.ack)
      (takes : Takes (seg.payload.length + conn.recv.cap + 1) (conn.peerHasFin seg).toNat conn
        after) :
      DispatchEnds conn seg nowNs after
        (closeTransition conn.state (conn.finHasBeenAcked seg.ack) (conn.peerHasFin seg)).1

/-- The seed of the round-trip estimate changes the estimators only. -/
theorem maybeSeed_only (conn : TcpConn) (nowNs : ℕ) :
    conn.maybeSeedSrttFromSyn nowNs =
      { conn with
        rttEst := (conn.maybeSeedSrttFromSyn nowNs).rttEst
        rack := (conn.maybeSeedSrttFromSyn nowNs).rack } := by
  dsimp only [TcpConn.maybeSeedSrttFromSyn]
  split
  · rfl
  · split
    · rfl
    · split <;> rfl

theorem handleSynSent_ends {conn : TcpConn} (opening : conn.state = .synSent)
    (seg : ParsedSegment) (clock : Readings) (nowNs : ℕ) :
    DispatchEnds conn seg nowNs (handleSynSent conn seg clock).conn
      (handleSynSent conn seg clock).outcome.newState := by
  have ignored : DispatchEnds conn seg nowNs conn none :=
    .ignored rfl (.none _ rfl rfl)
  have reset : DispatchEnds conn seg nowNs conn (some .closed) :=
    .reset (Or.inr opening) rfl (.none _ rfl rfl)
  unfold handleSynSent
  split
  · split
    · exact reset
    · exact ignored
  · rename_i notReset
    split
    · exact reset
    · rename_i syn
      split
      · exact ignored
      · rename_i acked
        split
        · exact reset
        · rename_i valid
          split
          · exact reset
          · rename_i opts parsed
            dsimp only
            rw [maybeSeed_only]
            refine .opened opening ?_ rfl rfl rfl
            simp only [Bool.not_eq_true', Bool.not_eq_false, Bool.not_eq_true] at *
            simp [TcpConn.takesSynAck, notReset, syn, acked, valid, parsed, Except.toBool]

/-- Behind the ACK pass the left edge is where the acknowledgment put it. -/
theorem ackPass_sndUna {conn : TcpConn} {seg : ParsedSegment} {opts : TcpOpts}
    {nowNs sendBuf : ℕ} {ack : AckPass}
    (accepted : ackPass conn seg opts nowNs sendBuf = some ack) :
    ack.conn.sndUna = conn.unaAfter seg.ack := by
  unfold TcpConn.unaAfter
  rcases ackPass_cases accepted with ⟨ahead, known, _, refused, absorbed⟩ | ⟨stays, _, _, same⟩
  · rw [absorbed, ahead, known]
    exact absorbAck_sndUna conn seg opts nowNs
  · rw [same, stays]
    rfl

theorem handleEstablished_ends {conn : TcpConn} (running : conn.state = .established)
    (seg : ParsedSegment) (clock : Readings) (sendBuf : ℕ) (mbufCtx : Option MbufInsertCtx) :
    DispatchEnds conn seg clock.paws (handleEstablished conn seg clock sendBuf mbufCtx).conn
      (handleEstablished conn seg clock sendBuf mbufCtx).outcome.newState := by
  rcases handleEstablished_cases conn seg clock sendBuf mbufCtx with
    ⟨_, state, tsRecent, tsRecentAge, change⟩ | ⟨opts, sack, ack, expired, accepted, processed⟩
  · have same := (sameReceive_stamp conn tsRecent tsRecentAge).trans change.sameReceive
    have window := (sameWindow_stamp conn tsRecent tsRecentAge).trans change.sameWindow
    have takes := Takes.none (seg.payload.length + conn.recv.cap + 1) same.rcvNxt
      (congrArg RecvQueue.cap same.recv)
    rcases state with ignored | ⟨reset, closed⟩
    · rw [ignored]
      exact .ignored window.sndUna takes
    · rw [closed]
      exact .reset (Or.inl reset) window.sndUna takes
  · rcases accepted.sameEdges with ⟨receive, owner, window⟩
    have frame := establishedData_frame seg mbufCtx clock.rack expired sack ack
    have raced := ((receive.trans (ackPass_change accepted.acked).sameReceive).trans
      (rackPass_sameReceive ack.conn clock.rack))
    have sndUna : (establishedData seg mbufCtx clock.rack expired sack ack).conn.sndUna =
        conn.unaAfter seg.ack := by
      rw [frame.2.sndUna, ackPass_sndUna accepted.acked]
      unfold TcpConn.unaAfter
      rw [window.sndUna, owner.sndNxt]
    rw [processed]
    have takes := deliver_takes (rackPass ack.conn clock.rack).1 seg mbufCtx
    rw [raced.recv] at takes
    have fromConn : Takes (seg.payload.length + conn.recv.cap)
        (deliver (rackPass ack.conn clock.rack).1 seg mbufCtx).delivered conn
        (deliver (rackPass ack.conn clock.rack).1 seg mbufCtx).conn :=
      ⟨by rw [← raced.rcvNxt]; exact takes.rcvNxt, takes.taken_le,
        by rw [← raced.recv]; exact takes.cap⟩
    generalize delivery_eq : deliver (rackPass ack.conn clock.rack).1 seg mbufCtx = delivery
      at fromConn
    have fin : (establishedData seg mbufCtx clock.rack expired sack ack).conn =
          (takeFin seg delivery).1 ∧
        (establishedData seg mbufCtx clock.rack expired sack ack).outcome.newState =
          (takeFin seg delivery).2 := by
      rw [← delivery_eq]
      exact ⟨rfl, rfl⟩
    have taken_le := fromConn.taken_le
    cases consumed : consumesFin seg delivery with
    | true =>
        refine .running running accepted.acceptable.1 sndUna (delivery.delivered + 1) ?_ _ ?_
        · rw [fin.1, takeFin, consumed]
          refine ⟨?_, by omega, fromConn.cap⟩
          rw [seqAdd_add, ← fromConn.rcvNxt]
          rfl
        · rw [fin.2, takeFin, consumed]
          exact Or.inr rfl
    | false =>
        refine .running running accepted.acceptable.1 sndUna delivery.delivered ?_ _ ?_
        · rw [fin.1, takeFin, consumed]
          exact ⟨fromConn.rcvNxt, by omega, fromConn.cap⟩
        · rw [fin.2, takeFin, consumed]
          exact Or.inl rfl

theorem closeAdvance_target (conn : TcpConn) (seg : ParsedSegment) :
    (closeAdvance conn seg).2.1 =
      (closeTransition conn.state (conn.finHasBeenAcked seg.ack) (conn.peerHasFin seg)).1 := by
  dsimp only [closeAdvance, TcpConn.peerHasFin]
  split <;> rfl

theorem handleClosePath_ends {conn : TcpConn} (closing : conn.state.isClosing = true ∨
    conn.state = .timeWait) (seg : ParsedSegment) (clock : Readings) :
    DispatchEnds conn seg clock.paws (handleClosePath conn seg clock).conn
      (handleClosePath conn seg clock).outcome.newState := by
  rcases handleClosePath_cases conn seg clock with
    ⟨_, ⟨same, ignored | ⟨reset, closed⟩⟩ | ⟨waiting, opts, timed, expired, passed, advanced,
      state⟩⟩
  · rw [same, ignored]
    exact .ignored rfl (.none _ rfl rfl)
  · rw [same, closed]
    exact .reset (Or.inl reset) rfl (.none _ rfl rfl)
  · have running : conn.state.isClosing = true := closing.resolve_right waiting
    rcases paws_passed passed with ⟨tsRecent, tsRecentAge, rfl⟩
    have change := sackPass_change (conn.stamp tsRecent tsRecentAge) opts clock.dsack
    generalize (sackPass (conn.stamp tsRecent tsRecentAge) opts clock.dsack).conn = sacked
      at change advanced state
    have owner := (sameOwner_stamp conn tsRecent tsRecentAge).trans change.sameOwner
    have receive := (sameReceive_stamp conn tsRecent tsRecentAge).trans change.sameReceive
    have window := (sameWindow_stamp conn tsRecent tsRecentAge).trans change.sameWindow
    have decided : (handleClosePath conn seg clock).outcome.newState =
        (closeTransition conn.state (conn.finHasBeenAcked seg.ack) (conn.peerHasFin seg)).1 := by
      rw [state, closeAdvance_target]
      dsimp only [TcpConn.finHasBeenAcked, TcpConn.peerHasFin]
      rw [owner.state, owner.ourFinSeq, receive.rcvNxt]
    cases acceptable : conn.closeAcceptable seg clock.paws with
    | false =>
        rcases handleClosePath_of_not_acceptable acceptable with
          ⟨same, ignored | ⟨reset, closed⟩⟩
        · rw [same, ignored]
          exact .ignored rfl (.none _ rfl rfl)
        · rw [same, closed]
          exact .reset (Or.inl reset) rfl (.none _ rfl rfl)
    | true =>
        rw [decided]
        refine .closing running acceptable ?_ ⟨?_, ?_, ?_⟩
        · rw [advanced, closeAdvance_only]
          dsimp only [TcpConn.unaAfter]
          rw [window.sndUna, owner.sndNxt]
        · rw [advanced, closeAdvance_only]
          dsimp only [TcpConn.peerHasFin]
          rw [receive.rcvNxt]
          split
          · rename_i fin
            rw [fin]
            rfl
          · rename_i noFin
            rw [Bool.not_eq_true] at noFin
            rw [noFin]
            exact (seqAdd_zero _).symm
        · have small := Bool.toNat_le (conn.peerHasFin seg)
          omega
        · rw [advanced, closeAdvance_only]
          exact congrArg RecvQueue.cap receive.recv

theorem dispatch_ends (conn : TcpConn) (seg : ParsedSegment) (clock : Readings) (sendBuf : ℕ)
    (mbufCtx : Option MbufInsertCtx) :
    DispatchEnds conn seg clock.paws (dispatch conn seg clock sendBuf mbufCtx).conn
      (dispatch conn seg clock sendBuf mbufCtx).outcome.newState := by
  unfold dispatch
  split
  · rename_i opening
    exact handleSynSent_ends opening seg clock clock.paws
  · rename_i running
    exact handleEstablished_ends running seg clock sendBuf mbufCtx
  all_goals rename_i state
  · exact handleClosePath_ends (Or.inl (by rw [state]; rfl)) seg clock
  · exact handleClosePath_ends (Or.inl (by rw [state]; rfl)) seg clock
  · exact handleClosePath_ends (Or.inl (by rw [state]; rfl)) seg clock
  · exact handleClosePath_ends (Or.inl (by rw [state]; rfl)) seg clock
  · exact handleClosePath_ends (Or.inl (by rw [state]; rfl)) seg clock
  · exact handleClosePath_ends (Or.inr state) seg clock
  · exact .ignored rfl (.none _ rfl rfl)
  · exact .ignored rfl (.none _ rfl rfl)
  · exact .ignored rfl (.none _ rfl rfl)

/-- What a dispatch never writes. -/
structure SameNumbers (before after : TcpConn) : Prop where
  state : after.state = before.state
  iss : after.iss = before.iss
  sndNxt : after.sndNxt = before.sndNxt
  ourFinSeq : after.ourFinSeq = before.ourFinSeq

theorem SameOwner.sameNumbers {before after : TcpConn} (same : SameOwner before after) :
    SameNumbers before after :=
  ⟨same.state, same.iss, same.sndNxt, same.ourFinSeq⟩

theorem handleSynSent_sameNumbers (conn : TcpConn) (seg : ParsedSegment) (clock : Readings) :
    SameNumbers conn (handleSynSent conn seg clock).conn := by
  have unchanged : SameNumbers conn conn := ⟨rfl, rfl, rfl, rfl⟩
  unfold handleSynSent
  split
  · split <;> exact unchanged
  · split
    · exact unchanged
    · split
      · exact unchanged
      · split
        · exact unchanged
        · split
          · exact unchanged
          · dsimp only
            rw [maybeSeed_only]
            exact ⟨rfl, rfl, rfl, rfl⟩

/-- The handlers behind the handshake leave the owner fields alone. -/
theorem dispatch_sameOwner {conn : TcpConn} (opened : conn.state ≠ .synSent)
    (seg : ParsedSegment) (clock : Readings) (sendBuf : ℕ) (mbufCtx : Option MbufInsertCtx) :
    SameOwner conn (dispatch conn seg clock sendBuf mbufCtx).conn := by
  unfold dispatch
  split
  · rename_i opening
    exact absurd opening opened
  · exact handleEstablished_sameOwner conn seg clock sendBuf mbufCtx
  all_goals first
    | exact handleClosePath_sameOwner conn seg clock
    | exact SameOwner.refl conn

theorem dispatch_sameNumbers (conn : TcpConn) (seg : ParsedSegment) (clock : Readings)
    (sendBuf : ℕ) (mbufCtx : Option MbufInsertCtx) :
    SameNumbers conn (dispatch conn seg clock sendBuf mbufCtx).conn := by
  by_cases opening : conn.state = .synSent
  · unfold dispatch
    rw [opening]
    exact handleSynSent_sameNumbers conn seg clock
  · exact (dispatch_sameOwner opening seg clock sendBuf mbufCtx).sameNumbers

end DpdkTcp
