import DpdkTcp.Model.Input

/-!
# What the stages of segment input change

Each stage of `handleEstablished` works on one part of the connection. The
relations below name the parts that a stage leaves alone, and the two
theorems at the end say once how a call of a handler ends. Later modules
reason from these and do not unfold the handlers again.
-/

namespace DpdkTcp

/-- The states in which both sides know the other's numbering. -/
def TcpState.synchronized : TcpState → Bool
  | .closed | .listen | .synSent | .synReceived => false
  | _ => true

/-- The states behind the established one in which acknowledgments are processed. -/
def TcpState.isClosing : TcpState → Bool
  | .finWait1 | .finWait2 | .closeWait | .closing | .lastAck => true
  | _ => false

/-- The receive side and the state are untouched. -/
structure SameReceive (before after : TcpConn) : Prop where
  state : after.state = before.state
  rcvNxt : after.rcvNxt = before.rcvNxt
  recv : after.recv = before.recv
  lastSackTrigger : after.lastSackTrigger = before.lastSackTrigger
  deliveredSegments : after.deliveredSegments = before.deliveredSegments

/-- The fields no stage of the established or closing handlers writes. -/
structure SameOwner (before after : TcpConn) : Prop where
  state : after.state = before.state
  fourTuple : after.fourTuple = before.fourTuple
  iss : after.iss = before.iss
  sndNxt : after.sndNxt = before.sndNxt
  rcvWnd : after.rcvWnd = before.rcvWnd
  irs : after.irs = before.irs
  wsShiftOut : after.wsShiftOut = before.wsShiftOut
  wsShiftIn : after.wsShiftIn = before.wsShiftIn
  peerMss : after.peerMss = before.peerMss
  ourFinSeq : after.ourFinSeq = before.ourFinSeq
  timerIds : after.timerIds = before.timerIds
  rtoTimerId : after.rtoTimerId = before.rtoTimerId
  tlpTimerId : after.tlpTimerId = before.tlpTimerId
  synRetransTimerId : after.synRetransTimerId = before.synRetransTimerId

/-- The send window and the acknowledged edge are untouched. -/
structure SameWindow (before after : TcpConn) : Prop where
  sndUna : after.sndUna = before.sndUna
  sndWnd : after.sndWnd = before.sndWnd
  sndWl1 : after.sndWl1 = before.sndWl1
  sndWl2 : after.sndWl2 = before.sndWl2

theorem SameReceive.refl (conn : TcpConn) : SameReceive conn conn :=
  ⟨rfl, rfl, rfl, rfl, rfl⟩

theorem SameReceive.trans {first second third : TcpConn} (left : SameReceive first second)
    (right : SameReceive second third) : SameReceive first third :=
  ⟨right.state.trans left.state, right.rcvNxt.trans left.rcvNxt, right.recv.trans left.recv,
    right.lastSackTrigger.trans left.lastSackTrigger,
    right.deliveredSegments.trans left.deliveredSegments⟩

theorem SameOwner.refl (conn : TcpConn) : SameOwner conn conn :=
  ⟨rfl, rfl, rfl, rfl, rfl, rfl, rfl, rfl, rfl, rfl, rfl, rfl, rfl, rfl⟩

theorem SameOwner.trans {first second third : TcpConn} (left : SameOwner first second)
    (right : SameOwner second third) : SameOwner first third :=
  ⟨right.state.trans left.state, right.fourTuple.trans left.fourTuple, right.iss.trans left.iss,
    right.sndNxt.trans left.sndNxt, right.rcvWnd.trans left.rcvWnd,
    right.irs.trans left.irs, right.wsShiftOut.trans left.wsShiftOut,
    right.wsShiftIn.trans left.wsShiftIn, right.peerMss.trans left.peerMss,
    right.ourFinSeq.trans left.ourFinSeq, right.timerIds.trans left.timerIds,
    right.rtoTimerId.trans left.rtoTimerId, right.tlpTimerId.trans left.tlpTimerId,
    right.synRetransTimerId.trans left.synRetransTimerId⟩

theorem SameWindow.refl (conn : TcpConn) : SameWindow conn conn :=
  ⟨rfl, rfl, rfl, rfl⟩

theorem SameWindow.trans {first second third : TcpConn} (left : SameWindow first second)
    (right : SameWindow second third) : SameWindow first third :=
  ⟨right.sndUna.trans left.sndUna, right.sndWnd.trans left.sndWnd,
    right.sndWl1.trans left.sndWl1, right.sndWl2.trans left.sndWl2⟩

/-! ### PAWS -/

/-- The connection with another `ts_recent` and age. -/
def TcpConn.stamp (conn : TcpConn) (tsRecent : BitVec 32) (tsRecentAge : ℕ) : TcpConn :=
  { conn with tsRecent := tsRecent, tsRecentAge := tsRecentAge }

section Stamp

variable (conn : TcpConn) (tsRecent : BitVec 32) (tsRecentAge : ℕ)

theorem sameReceive_stamp : SameReceive conn (conn.stamp tsRecent tsRecentAge) :=
  ⟨rfl, rfl, rfl, rfl, rfl⟩

theorem sameOwner_stamp : SameOwner conn (conn.stamp tsRecent tsRecentAge) :=
  ⟨rfl, rfl, rfl, rfl, rfl, rfl, rfl, rfl, rfl, rfl, rfl, rfl, rfl, rfl⟩

theorem sameWindow_stamp : SameWindow conn (conn.stamp tsRecent tsRecentAge) :=
  ⟨rfl, rfl, rfl, rfl⟩

end Stamp

/-- The two copies of the PAWS block decide alike. -/
theorem pawsClosePath_eq (conn : TcpConn) (seg : ParsedSegment) (opts : TcpOpts) (nowNs : ℕ) :
    pawsClosePath conn seg opts nowNs = paws conn seg opts nowNs := by
  unfold pawsClosePath paws
  split
  · split
    · rfl
    · dsimp only
      split
      · rfl
      · rename_i current
        split
        · rfl
        · simp only [current, not_false_eq_true, true_and]
  · rfl

/-- A passed PAWS test changes nothing but `ts_recent` and its age. -/
theorem paws_passed {conn timed : TcpConn} {seg : ParsedSegment} {opts : TcpOpts} {nowNs : ℕ}
    {expired : Bool} (passed : paws conn seg opts nowNs = .passed timed expired) :
    ∃ tsRecent tsRecentAge, timed = conn.stamp tsRecent tsRecentAge := by
  dsimp only [paws] at passed
  split at passed
  · split at passed
    · cases passed
    · split at passed
      · cases passed
        exact ⟨_, _, rfl⟩
      · split at passed
        · cases passed
        · split at passed <;> cases passed
          · exact ⟨_, _, rfl⟩
          · exact ⟨conn.tsRecent, conn.tsRecentAge, rfl⟩
  · cases passed
    exact ⟨conn.tsRecent, conn.tsRecentAge, rfl⟩

/-! ### SACK -/

/-- The test of `mark_sacked`. -/
def RetransEntry.reachedBy (entry : RetransEntry) (block : SackBlock) : Bool :=
  seqLt entry.seq block.right && seqLt block.left entry.endSeq

/-- The entry without its `sacked` flag. -/
def RetransEntry.unsacked (entry : RetransEntry) : RetransEntry :=
  { entry with sacked := false }

/-- What the SACK pass may change: the scoreboard, the `sacked` flags, the
DSACK latch and the attribution of probes. -/
structure SackChange (before after : TcpConn) : Prop where
  only : after =
    { before with
      sackScoreboard := after.sackScoreboard
      sndRetrans := after.sndRetrans
      rack := after.rack
      tlpRecentProbes := after.tlpRecentProbes }
  minRtt : after.rack.minRttUs = before.rack.minRttUs
  entries : after.sndRetrans.entries.map RetransEntry.unsacked =
    before.sndRetrans.entries.map RetransEntry.unsacked

theorem SackChange.refl (conn : TcpConn) : SackChange conn conn :=
  ⟨rfl, rfl, rfl⟩

theorem SackChange.trans {first second third : TcpConn} (left : SackChange first second)
    (right : SackChange second third) : SackChange first third := by
  refine ⟨?_, right.minRtt.trans left.minRtt, right.entries.trans left.entries⟩
  rw [right.only, left.only]

theorem attributeDsack_change (conn : TcpConn) (left right : Seq) (nowNs : ℕ) :
    SackChange conn (conn.attributeDsackToRecentTlpProbe left right nowNs).1 := by
  unfold TcpConn.attributeDsackToRecentTlpProbe
  split
  · exact ⟨rfl, rfl, rfl⟩
  · exact SackChange.refl conn

theorem markSacked_unsacked (retrans : SendRetrans) (block : SackBlock) :
    (retrans.markSacked block).entries.map RetransEntry.unsacked =
      retrans.entries.map RetransEntry.unsacked := by
  dsimp only [SendRetrans.markSacked]
  rw [List.map_map]
  apply List.map_congr_left
  intro entry _
  dsimp only [Function.comp]
  split <;> rfl

theorem absorbSackBlock_change (nowNs : ℕ) (block : SackBlock) (pass : SackPass) :
    SackChange pass.conn (absorbSackBlock nowNs block pass).conn := by
  dsimp only [absorbSackBlock]
  split
  · refine SackChange.trans ?_ (attributeDsack_change _ _ _ _)
    exact ⟨rfl, rfl, rfl⟩
  · exact ⟨rfl, rfl, markSacked_unsacked _ block⟩

theorem absorbSackBlocks_change (readClock : ℕ → ℕ) (index : ℕ) (blocks : List SackBlock)
    (pass : SackPass) :
    SackChange pass.conn (absorbSackBlocks readClock index blocks pass).conn := by
  induction blocks generalizing index pass with
  | nil => exact SackChange.refl _
  | cons block rest ih =>
      exact (absorbSackBlock_change (readClock index) block pass).trans
        (ih (index + 1) (absorbSackBlock (readClock index) block pass))

theorem sackPass_change (conn : TcpConn) (opts : TcpOpts) (readClock : ℕ → ℕ) :
    SackChange conn (sackPass conn opts readClock).conn := by
  unfold sackPass
  split
  · exact absorbSackBlocks_change readClock 0 opts.liveSackBlocks { conn := conn }
  · exact SackChange.refl conn

section SackChange

variable {before after : TcpConn}

theorem SackChange.sameReceive (change : SackChange before after) : SameReceive before after := by
  rw [change.only]
  exact ⟨rfl, rfl, rfl, rfl, rfl⟩

theorem SackChange.sameOwner (change : SackChange before after) : SameOwner before after := by
  rw [change.only]
  exact ⟨rfl, rfl, rfl, rfl, rfl, rfl, rfl, rfl, rfl, rfl, rfl, rfl, rfl, rfl⟩

theorem SackChange.sameWindow (change : SackChange before after) : SameWindow before after := by
  rw [change.only]
  exact ⟨rfl, rfl, rfl, rfl⟩

end SackChange

/-! ### Acknowledgments -/

/-- What the ACK pass may change. -/
structure AckChange (before after : TcpConn) : Prop where
  only : after =
    { before with
      snd := after.snd
      sndUna := after.sndUna
      sndWnd := after.sndWnd
      sndWl1 := after.sndWl1
      sndWl2 := after.sndWl2
      rttEst := after.rttEst
      rack := after.rack
      sackScoreboard := after.sackScoreboard
      tlpConsecutiveProbesFired := after.tlpConsecutiveProbesFired
      tlpRttSampleSeenSinceLastTlp := after.tlpRttSampleSeenSinceLastTlp
      sendRefusedPending := after.sendRefusedPending }

theorem updateWindow_change (conn : TcpConn) (seg : ParsedSegment) :
    AckChange conn (updateWindow conn seg) := by
  unfold updateWindow
  split <;> exact ⟨rfl⟩

theorem AckChange.trans {first second third : TcpConn} (left : AckChange first second)
    (right : AckChange second third) : AckChange first third := by
  refine ⟨?_⟩
  rw [right.only, left.only]

theorem absorbAck_change (conn : TcpConn) (seg : ParsedSegment) (opts : TcpOpts) (nowNs : ℕ) :
    AckChange conn (absorbAck conn seg opts nowNs).1 := by
  dsimp only [absorbAck]
  refine AckChange.trans ?_ (updateWindow_change _ seg)
  split <;> split <;> exact ⟨rfl⟩

theorem absorbAck_sndUna (conn : TcpConn) (seg : ParsedSegment) (opts : TcpOpts) (nowNs : ℕ) :
    (absorbAck conn seg opts nowNs).1.sndUna = seg.ack := by
  dsimp only [absorbAck, updateWindow]
  split <;> split <;> split <;> rfl

/-- The window fields after an acknowledgment of new data. -/
theorem absorbAck_window (conn : TcpConn) (seg : ParsedSegment) (opts : TcpOpts) (nowNs : ℕ) :
    let after := (absorbAck conn seg opts nowNs).1
    (newerForWindow conn seg = true →
      after.sndWnd = scaledWindow seg.window conn.wsShiftIn ∧ after.sndWl1 = seg.seq ∧
        after.sndWl2 = seg.ack) ∧
    (newerForWindow conn seg = false →
      after.sndWnd = conn.sndWnd ∧ after.sndWl1 = conn.sndWl1 ∧ after.sndWl2 = conn.sndWl2) := by
  dsimp only [absorbAck, updateWindow]
  constructor
  · intro newer
    split <;> split <;> split
    all_goals first
      | exact ⟨rfl, rfl, rfl⟩
      | exact absurd newer ‹_›
  · intro older
    split <;> split <;> split
    all_goals first
      | exact ⟨rfl, rfl, rfl⟩
      | exact absurd (older.symm.trans ‹_›) (by decide)

/-- The two ways an acknowledgment is accepted: it advances `snd_una`, or it
is not ahead of `snd_nxt` and changes nothing. -/
theorem ackPass_cases {conn : TcpConn} {seg : ParsedSegment} {opts : TcpOpts} {nowNs sendBuf : ℕ}
    {ack : AckPass} (accepted : ackPass conn seg opts nowNs sendBuf = some ack) :
    (seqLt conn.sndUna seg.ack = true ∧ seqLe seg.ack conn.sndNxt = true ∧
        ack.sndUnaAdvancedTo = some seg.ack ∧
        ∃ refused, ack.conn =
          { (absorbAck conn seg opts nowNs).1 with sendRefusedPending := refused }) ∨
      ((seqLt conn.sndUna seg.ack && seqLe seg.ack conn.sndNxt) = false ∧
        seqLt conn.sndNxt seg.ack = false ∧ ack.sndUnaAdvancedTo = none ∧ ack.conn = conn) := by
  dsimp only [ackPass] at accepted
  split at accepted
  · rename_i advances
    cases accepted
    rcases Bool.and_eq_true_iff.mp advances with ⟨after, within⟩
    refine Or.inl ⟨after, within, rfl, ?_⟩
    dsimp only
    split
    · exact ⟨false, rfl⟩
    · exact ⟨(absorbAck conn seg opts nowNs).1.sendRefusedPending, rfl⟩
  · rename_i stays
    split at accepted
    · cases accepted
    · rename_i behind
      cases accepted
      exact Or.inr ⟨by simpa using stays, by simpa using behind, rfl, rfl⟩

theorem ackPass_change {conn : TcpConn} {seg : ParsedSegment} {opts : TcpOpts}
    {nowNs sendBuf : ℕ} {ack : AckPass}
    (accepted : ackPass conn seg opts nowNs sendBuf = some ack) : AckChange conn ack.conn := by
  rcases ackPass_cases accepted with ⟨_, _, _, refused, absorbed⟩ | ⟨_, _, _, same⟩
  · rw [absorbed]
    exact (absorbAck_change conn seg opts nowNs).trans ⟨rfl⟩
  · rw [same]
    exact ⟨rfl⟩

section AckChange

variable {before after : TcpConn}

theorem AckChange.sameReceive (change : AckChange before after) : SameReceive before after := by
  rw [change.only]
  exact ⟨rfl, rfl, rfl, rfl, rfl⟩

theorem AckChange.sameOwner (change : AckChange before after) : SameOwner before after := by
  rw [change.only]
  exact ⟨rfl, rfl, rfl, rfl, rfl, rfl, rfl, rfl, rfl, rfl, rfl, rfl, rfl, rfl⟩

theorem AckChange.sndRetrans (change : AckChange before after) :
    after.sndRetrans = before.sndRetrans := by
  rw [change.only]

end AckChange

/-! ### Loss detection, data and FIN -/

theorem markLost_nil (retrans : SendRetrans) : retrans.markLost [] = retrans := by
  cases retrans with
  | mk entries =>
      simp only [SendRetrans.markLost, List.not_mem_nil, if_false, SendRetrans.mk.injEq]
      apply List.ext_getElem?
      simp

/-- The RACK pass changes the RACK state and the `lost` flags only. -/
theorem rackPass_only (conn : TcpConn) (nowNs : ℕ) :
    (rackPass conn nowNs).1 =
      { conn with
        rack := (rackPass conn nowNs).1.rack
        sndRetrans := conn.sndRetrans.markLost (rackPass conn nowNs).2 } := by
  dsimp only [rackPass]
  split
  · rw [markLost_nil]
  · rfl

theorem rackPass_sameReceive (conn : TcpConn) (nowNs : ℕ) :
    SameReceive conn (rackPass conn nowNs).1 := by
  rw [rackPass_only]
  exact ⟨rfl, rfl, rfl, rfl, rfl⟩

theorem rackPass_sameOwner (conn : TcpConn) (nowNs : ℕ) :
    SameOwner conn (rackPass conn nowNs).1 := by
  rw [rackPass_only]
  exact ⟨rfl, rfl, rfl, rfl, rfl, rfl, rfl, rfl, rfl, rfl, rfl, rfl, rfl, rfl⟩

theorem rackPass_sameWindow (conn : TcpConn) (nowNs : ℕ) :
    SameWindow conn (rackPass conn nowNs).1 := by
  rw [rackPass_only]
  exact ⟨rfl, rfl, rfl, rfl⟩

/-- Data delivery works on the receive side only. -/
structure DataChange (before after : TcpConn) : Prop where
  only : after =
    { before with
      recv := after.recv
      rcvNxt := after.rcvNxt
      lastSackTrigger := after.lastSackTrigger }

theorem DataChange.trans {first second third : TcpConn} (left : DataChange first second)
    (right : DataChange second third) : DataChange first third := by
  refine ⟨?_⟩
  rw [right.only, left.only]

theorem drainReorder_change (delivery : Delivery) :
    DataChange delivery.conn (drainReorder delivery).conn := by
  dsimp only [drainReorder]
  split <;> exact ⟨rfl⟩

theorem insertChain_change (links : List RxMbuf) (linkSeq : Seq) (delivery : Delivery) :
    DataChange delivery.conn (insertChain links linkSeq delivery).conn := by
  induction links generalizing linkSeq delivery with
  | nil => exact ⟨rfl⟩
  | cons link rest ih =>
      dsimp only [insertChain]
      split
      · exact ih linkSeq delivery
      · exact DataChange.trans ⟨rfl⟩ (ih _ _)

theorem deliver_change (conn : TcpConn) (seg : ParsedSegment) (mbufCtx : Option MbufInsertCtx) :
    DataChange conn (deliver conn seg mbufCtx).conn := by
  unfold deliver
  split
  · exact ⟨rfl⟩
  · split
    · exact DataChange.trans ⟨rfl⟩ (drainReorder_change _)
    · split
      · dsimp only [deliverOutOfOrder]
        split
        · split
          · exact DataChange.trans ⟨rfl⟩ (insertChain_change _ _ _)
          · exact ⟨rfl⟩
        · exact ⟨rfl⟩
      · exact ⟨rfl⟩

theorem takeFin_change (seg : ParsedSegment) (delivery : Delivery) :
    DataChange delivery.conn (takeFin seg delivery).1 := by
  unfold takeFin
  split <;> exact ⟨rfl⟩

section DataChange

variable {before after : TcpConn}

theorem DataChange.sameOwner (change : DataChange before after) : SameOwner before after := by
  rw [change.only]
  exact ⟨rfl, rfl, rfl, rfl, rfl, rfl, rfl, rfl, rfl, rfl, rfl, rfl, rfl, rfl⟩

theorem DataChange.sameWindow (change : DataChange before after) : SameWindow before after := by
  rw [change.only]
  exact ⟨rfl, rfl, rfl, rfl⟩

theorem DataChange.sndRetrans (change : DataChange before after) :
    after.sndRetrans = before.sndRetrans := by
  rw [change.only]

end DataChange

/-! ### How a handler ends -/

/-- The outcome carries no data, no acknowledgment and no loss. -/
structure Quiet (outcome : Outcome) : Prop where
  delivered : outcome.delivered = 0
  sndUnaAdvancedTo : outcome.sndUnaAdvancedTo = none
  rackLostIndexes : outcome.rackLostIndexes = []

/-- The same for a handler, which also leaves the received buffers alone. -/
structure Silent (dispatched : Dispatched) : Prop extends Quiet dispatched.outcome where
  refUpdates : dispatched.refUpdates = []
  mbufRefRetained : dispatched.outcome.mbufRefRetained = false

/-- The segment passes every check of the established handler and is then processed. -/
structure Accepted (conn : TcpConn) (seg : ParsedSegment) (clock : Readings) (sendBuf : ℕ)
    (opts : TcpOpts) (sack : SackPass) (ack : AckPass) : Prop where
  checks : establishedChecks conn seg = .ok opts
  timed : ∃ timed expired, paws conn seg opts clock.paws = .passed timed expired ∧
    sack = sackPass timed opts clock.dsack
  acked : ackPass sack.conn seg opts clock.rtt sendBuf = some ack

/-- A call of the established handler either returns early, having changed at
most the timestamps and what the SACK pass changes, or processes the segment. -/
theorem handleEstablished_cases (conn : TcpConn) (seg : ParsedSegment) (clock : Readings)
    (sendBuf : ℕ) (mbufCtx : Option MbufInsertCtx) :
    (Silent (handleEstablished conn seg clock sendBuf mbufCtx) ∧
        ((handleEstablished conn seg clock sendBuf mbufCtx).outcome.newState = none ∨
          seg.flags.has TCP_RST = true ∧
            (handleEstablished conn seg clock sendBuf mbufCtx).outcome.newState = some .closed) ∧
        ∃ tsRecent tsRecentAge,
          SackChange (conn.stamp tsRecent tsRecentAge)
            (handleEstablished conn seg clock sendBuf mbufCtx).conn) ∨
      (∃ opts sack ack expired, Accepted conn seg clock sendBuf opts sack ack ∧
        handleEstablished conn seg clock sendBuf mbufCtx =
          establishedData seg mbufCtx clock.rack expired sack ack) := by
  have same : ∃ tsRecent tsRecentAge, SackChange (conn.stamp tsRecent tsRecentAge) conn :=
    ⟨conn.tsRecent, conn.tsRecentAge, SackChange.refl conn⟩
  dsimp only [handleEstablished]
  split
  · rename_i outcome rejected
    refine Or.inl ?_
    dsimp only [establishedChecks] at rejected
    split at rejected
    · cases rejected
      exact ⟨⟨⟨rfl, rfl, rfl⟩, rfl, rfl⟩, Or.inl rfl, same⟩
    · split at rejected
      · rename_i reset
        cases rejected
        exact ⟨⟨⟨rfl, rfl, rfl⟩, rfl, rfl⟩, Or.inr ⟨reset, rfl⟩, same⟩
      · split at rejected
        · cases rejected
          exact ⟨⟨⟨rfl, rfl, rfl⟩, rfl, rfl⟩, Or.inl rfl, same⟩
        · split at rejected
          · cases rejected
            exact ⟨⟨⟨rfl, rfl, rfl⟩, rfl, rfl⟩, Or.inl rfl, same⟩
          · split at rejected
            · cases rejected
              exact ⟨⟨⟨rfl, rfl, rfl⟩, rfl, rfl⟩, Or.inl rfl, same⟩
            · cases rejected
  · rename_i opts checked
    split
    · exact Or.inl ⟨⟨⟨rfl, rfl, rfl⟩, rfl, rfl⟩, Or.inl rfl, same⟩
    · exact Or.inl ⟨⟨⟨rfl, rfl, rfl⟩, rfl, rfl⟩, Or.inl rfl, same⟩
    · rename_i timed expired passed
      split
      · rcases paws_passed passed with ⟨tsRecent, tsRecentAge, rfl⟩
        exact Or.inl ⟨⟨⟨rfl, rfl, rfl⟩, rfl, rfl⟩, Or.inl rfl, tsRecent, tsRecentAge,
          sackPass_change _ opts clock.dsack⟩
      · rename_i ack accepted
        exact Or.inr ⟨opts, _, ack, expired, ⟨checked, ⟨timed, expired, passed, rfl⟩, accepted⟩,
          rfl⟩

/-- A call of the closing handler leaves the connection alone, or runs the
SACK pass and then `closeAdvance`. -/
theorem handleClosePath_cases (conn : TcpConn) (seg : ParsedSegment) (clock : Readings) :
    Silent (handleClosePath conn seg clock) ∧
      (((handleClosePath conn seg clock).conn = conn ∧
          ((handleClosePath conn seg clock).outcome.newState = none ∨
            seg.flags.has TCP_RST = true ∧
              (handleClosePath conn seg clock).outcome.newState = some .closed)) ∨
        (conn.state ≠ .timeWait ∧ ∃ opts timed expired,
          paws conn seg opts clock.paws = .passed timed expired ∧
          (handleClosePath conn seg clock).conn =
            (closeAdvance (sackPass timed opts clock.dsack).conn seg).1 ∧
          (handleClosePath conn seg clock).outcome.newState =
            (closeAdvance (sackPass timed opts clock.dsack).conn seg).2.1)) := by
  dsimp only [handleClosePath]
  simp only [pawsClosePath_eq]
  split
  · rename_i reset
    exact ⟨⟨⟨rfl, rfl, rfl⟩, rfl, rfl⟩, Or.inl ⟨rfl, Or.inr ⟨reset, rfl⟩⟩⟩
  · split
    · exact ⟨⟨⟨rfl, rfl, rfl⟩, rfl, rfl⟩, Or.inl ⟨rfl, Or.inl rfl⟩⟩
    · rename_i waiting
      split
      · exact ⟨⟨⟨rfl, rfl, rfl⟩, rfl, rfl⟩, Or.inl ⟨rfl, Or.inl rfl⟩⟩
      · split
        · exact ⟨⟨⟨rfl, rfl, rfl⟩, rfl, rfl⟩, Or.inl ⟨rfl, Or.inl rfl⟩⟩
        · split
          · exact ⟨⟨⟨rfl, rfl, rfl⟩, rfl, rfl⟩, Or.inl ⟨rfl, Or.inl rfl⟩⟩
          · rename_i opts _
            split
            · exact ⟨⟨⟨rfl, rfl, rfl⟩, rfl, rfl⟩, Or.inl ⟨rfl, Or.inl rfl⟩⟩
            · exact ⟨⟨⟨rfl, rfl, rfl⟩, rfl, rfl⟩, Or.inl ⟨rfl, Or.inl rfl⟩⟩
            · rename_i timed expired passed
              exact ⟨⟨⟨rfl, rfl, rfl⟩, rfl, rfl⟩, Or.inr ⟨waiting, opts, timed, expired, passed, rfl, rfl⟩⟩

/-- `closeAdvance` touches the two edges only. -/
theorem closeAdvance_only (conn : TcpConn) (seg : ParsedSegment) :
    (closeAdvance conn seg).1 =
      { conn with
        sndUna :=
          if seqLt conn.sndUna seg.ack && seqLe seg.ack conn.sndNxt then seg.ack
          else conn.sndUna
        rcvNxt :=
          if seg.fin && seqAdd seg.seq seg.payload.length == conn.rcvNxt then
            seqAdd conn.rcvNxt 1
          else conn.rcvNxt } := by
  dsimp only [closeAdvance]
  split <;> split <;> rfl

/-! ### What no handler of an open connection writes -/

/-- What a segment may change of a connection behind the handshake. -/
structure Tended (before after : TcpConn) : Prop where
  only : after =
    { before with
      sndUna := after.sndUna
      sndWnd := after.sndWnd
      sndWl1 := after.sndWl1
      sndWl2 := after.sndWl2
      rcvNxt := after.rcvNxt
      tsRecent := after.tsRecent
      tsRecentAge := after.tsRecentAge
      sackScoreboard := after.sackScoreboard
      snd := after.snd
      recv := after.recv
      lastSackTrigger := after.lastSackTrigger
      sndRetrans := after.sndRetrans
      rttEst := after.rttEst
      rack := after.rack
      tlpConsecutiveProbesFired := after.tlpConsecutiveProbesFired
      tlpRttSampleSeenSinceLastTlp := after.tlpRttSampleSeenSinceLastTlp
      tlpRecentProbes := after.tlpRecentProbes
      sendRefusedPending := after.sendRefusedPending }

namespace Tended

variable {first second third : TcpConn}

theorem trans (left : Tended first second) (right : Tended second third) : Tended first third := by
  refine ⟨?_⟩
  rw [right.only, left.only]

theorem of_stamp (conn : TcpConn) (tsRecent : BitVec 32) (tsRecentAge : ℕ) :
    Tended conn (conn.stamp tsRecent tsRecentAge) :=
  ⟨rfl⟩

theorem of_sack (change : SackChange first second) : Tended first second :=
  ⟨by rw [change.only]⟩

theorem of_ack (change : AckChange first second) : Tended first second :=
  ⟨by rw [change.only]⟩

theorem of_data (change : DataChange first second) : Tended first second :=
  ⟨by rw [change.only]⟩

theorem of_rack (conn : TcpConn) (nowNs : ℕ) : Tended conn (rackPass conn nowNs).1 :=
  ⟨by rw [rackPass_only]⟩

theorem of_close (conn : TcpConn) (seg : ParsedSegment) : Tended conn (closeAdvance conn seg).1 :=
  ⟨by rw [closeAdvance_only]⟩

end Tended

/-- A segment tends to an open connection, and to none that is not. -/
theorem dispatch_tended {conn : TcpConn} (opened : conn.state ≠ .synSent) (seg : ParsedSegment)
    (clock : Readings) (sendBuf : ℕ) (mbufCtx : Option MbufInsertCtx) :
    Tended conn (dispatch conn seg clock sendBuf mbufCtx).conn := by
  have closing : Tended conn (handleClosePath conn seg clock).conn := by
    rcases (handleClosePath_cases conn seg clock).2 with
      ⟨same, _⟩ | ⟨_, opts, timed, expired, passed, advanced, _⟩
    · rw [same]
      exact ⟨rfl⟩
    · rcases paws_passed passed with ⟨tsRecent, tsRecentAge, rfl⟩
      rw [advanced]
      exact ((Tended.of_stamp conn tsRecent tsRecentAge).trans
        (.of_sack (sackPass_change _ opts clock.dsack))).trans (.of_close _ seg)
  unfold dispatch
  split
  · exact absurd ‹_› opened
  · rcases handleEstablished_cases conn seg clock sendBuf mbufCtx with
      ⟨_, _, tsRecent, tsRecentAge, change⟩ | ⟨opts, sack, ack, expired, accepted, processed⟩
    · exact (Tended.of_stamp conn tsRecent tsRecentAge).trans (.of_sack change)
    · rcases accepted.timed with ⟨timed, expired, passed, rfl⟩
      rcases paws_passed passed with ⟨tsRecent, tsRecentAge, rfl⟩
      rw [processed]
      have sacked := (Tended.of_stamp conn tsRecent tsRecentAge).trans
        (.of_sack (sackPass_change _ opts clock.dsack))
      have acked := sacked.trans (.of_ack (ackPass_change accepted.acked))
      have raced := acked.trans (.of_rack ack.conn clock.rack)
      exact (raced.trans (.of_data (deliver_change _ seg mbufCtx))).trans
        (.of_data (takeFin_change seg _))
  all_goals first
    | exact closing
    | exact ⟨rfl⟩

end DpdkTcp
