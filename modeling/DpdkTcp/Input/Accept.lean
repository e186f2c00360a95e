import DpdkTcp.Input.Stages

/-!
# Acceptable segments

The checks a segment has to pass in ESTABLISHED, as predicates on the
connection before the call, and the equivalence with the handler's own path.
-/

namespace DpdkTcp

/-- The PAWS test as a predicate: timestamps are off, or present and either not
older than `ts_recent` or past its expiry. -/
def TcpConn.pawsPasses (conn : TcpConn) (opts : TcpOpts) (nowNs : ℕ) : Bool :=
  !conn.tsEnabled ||
    match opts.timestamps with
    | none => false
    | some (tsVal, _) =>
        decide (conn.tsRecentAge ≠ 0 ∧ TS_RECENT_EXPIRY_NS < nowNs - conn.tsRecentAge) ||
          !seqLt tsVal conn.tsRecent

/-- ACK set, URG and RST clear, both edges in the window, options and PAWS pass. -/
def TcpConn.acceptable (conn : TcpConn) (seg : ParsedSegment) (nowNs : ℕ) : Bool :=
  !seg.flags.has TCP_URG && !seg.flags.has TCP_RST && seg.flags.has TCP_ACK &&
    segInWindow conn seg &&
    match segOptions seg with
    | .ok opts => conn.pawsPasses opts nowNs
    | .error _ => false

/-- The checks of the closing states, which do not look at URG. -/
def TcpConn.closeAcceptable (conn : TcpConn) (seg : ParsedSegment) (nowNs : ℕ) : Bool :=
  !seg.flags.has TCP_RST && seg.flags.has TCP_ACK && segInWindow conn seg &&
    match segOptions seg with
    | .ok opts => conn.pawsPasses opts nowNs
    | .error _ => false

/-- The acknowledgment is not ahead of what was sent. -/
def TcpConn.ackKnown (conn : TcpConn) (seg : ParsedSegment) : Bool :=
  (seqLt conn.sndUna seg.ack && seqLe seg.ack conn.sndNxt) || !seqLt conn.sndNxt seg.ack

theorem establishedChecks_eq_ok_iff {conn : TcpConn} {seg : ParsedSegment} {opts : TcpOpts} :
    establishedChecks conn seg = .ok opts ↔
      seg.flags.has TCP_URG = false ∧ seg.flags.has TCP_RST = false ∧
        seg.flags.has TCP_ACK = true ∧ segInWindow conn seg = true ∧ segOptions seg = .ok opts := by
  dsimp only [establishedChecks]
  cases seg.flags.has TCP_URG
  · cases seg.flags.has TCP_RST
    · cases seg.flags.has TCP_ACK
      · simp
      · cases segInWindow conn seg
        · simp
        · cases segOptions seg <;> simp
    · simp
  · simp

theorem paws_passed_iff {conn : TcpConn} {seg : ParsedSegment} {opts : TcpOpts} {nowNs : ℕ} :
    (∃ timed expired, paws conn seg opts nowNs = .passed timed expired) ↔
      conn.pawsPasses opts nowNs = true := by
  dsimp only [paws, TcpConn.pawsPasses]
  cases conn.tsEnabled
  · simp
  · cases opts.timestamps with
    | none => simp
    | some stamps =>
        by_cases expiry : conn.tsRecentAge ≠ 0 ∧ TS_RECENT_EXPIRY_NS < nowNs - conn.tsRecentAge
        · simp [expiry]
        · cases older : seqLt stamps.1 conn.tsRecent
          · cases seqLe seg.seq conn.rcvNxt <;> simp [expiry, older]
          · simp [expiry, older]

/-- The closing handler leaves the connection alone unless the segment passes its checks. -/
theorem handleClosePath_of_not_acceptable {conn : TcpConn} {seg : ParsedSegment}
    {clock : Readings} (refused : conn.closeAcceptable seg clock.paws = false) :
    (handleClosePath conn seg clock).conn = conn ∧
      ((handleClosePath conn seg clock).outcome.newState = none ∨
        seg.flags.has TCP_RST = true ∧
          (handleClosePath conn seg clock).outcome.newState = some .closed) := by
  dsimp only [handleClosePath]
  simp only [pawsClosePath_eq]
  split
  · rename_i reset
    exact ⟨rfl, Or.inr ⟨reset, rfl⟩⟩
  · rename_i reset
    split
    · exact ⟨rfl, Or.inl rfl⟩
    · split
      · exact ⟨rfl, Or.inl rfl⟩
      · rename_i acked
        split
        · exact ⟨rfl, Or.inl rfl⟩
        · rename_i inside
          split
          · exact ⟨rfl, Or.inl rfl⟩
          · rename_i opts options
            split
            · exact ⟨rfl, Or.inl rfl⟩
            · exact ⟨rfl, Or.inl rfl⟩
            · rename_i timed expired passed
              have timestamps := paws_passed_iff.mp ⟨timed, expired, passed⟩
              simp only [Bool.not_eq_true', Bool.not_eq_false] at acked inside
              simp only [Bool.not_eq_true] at reset
              simp [TcpConn.closeAcceptable, reset, acked, inside, options, timestamps] at refused

/-- Behind its checks the closing handler runs the SACK pass, and then `closeAdvance`
decides the state and the answer. -/
theorem handleClosePath_of_acceptable {conn : TcpConn} {seg : ParsedSegment} {clock : Readings}
    (waiting : conn.state ≠ .timeWait) (acceptable : conn.closeAcceptable seg clock.paws = true) :
    ∃ sacked, SameReceive conn sacked ∧ SameOwner conn sacked ∧
      (handleClosePath conn seg clock).conn = (closeAdvance sacked seg).1 ∧
      (handleClosePath conn seg clock).outcome.newState = (closeAdvance sacked seg).2.1 ∧
      (handleClosePath conn seg clock).outcome.tx = (closeAdvance sacked seg).2.2 := by
  simp only [TcpConn.closeAcceptable, Bool.and_eq_true, Bool.not_eq_true'] at acceptable
  rcases acceptable with ⟨⟨⟨reset, acked⟩, inside⟩, timestamps⟩
  dsimp only [handleClosePath]
  simp only [pawsClosePath_eq]
  rw [if_neg (by rw [reset]; exact Bool.false_ne_true), if_neg waiting,
    if_neg (by rw [acked]; exact Bool.false_ne_true),
    if_neg (by rw [inside]; exact Bool.false_ne_true)]
  cases decoded : segOptions seg with
  | error reason =>
      rw [decoded] at timestamps
      cases timestamps
  | ok opts =>
      rw [decoded] at timestamps
      rcases paws_passed_iff.mpr timestamps with ⟨timed, expired, passed⟩
      dsimp only
      rw [passed]
      rcases paws_passed passed with ⟨tsRecent, tsRecentAge, rfl⟩
      have change := sackPass_change (conn.stamp tsRecent tsRecentAge) opts clock.dsack
      exact ⟨_, (sameReceive_stamp conn tsRecent tsRecentAge).trans change.sameReceive,
        (sameOwner_stamp conn tsRecent tsRecentAge).trans change.sameOwner, rfl, rfl, rfl⟩

/-- Among the ways an acknowledgment is judged, only data never sent is refused. -/
theorem ackPass_isSome_iff {conn : TcpConn} {seg : ParsedSegment} {opts : TcpOpts}
    {nowNs sendBuf : ℕ} :
    (∃ ack, ackPass conn seg opts nowNs sendBuf = some ack) ↔ conn.ackKnown seg = true := by
  dsimp only [ackPass, TcpConn.ackKnown]
  cases seqLt conn.sndUna seg.ack && seqLe seg.ack conn.sndNxt
  · cases seqLt conn.sndNxt seg.ack <;> simp
  · simp

/-- The edges the ACK pass looks at are those of the connection before the call. -/
theorem Accepted.sameEdges {conn : TcpConn} {seg : ParsedSegment} {clock : Readings}
    {sendBuf : ℕ} {opts : TcpOpts} {sack : SackPass} {ack : AckPass}
    (accepted : Accepted conn seg clock sendBuf opts sack ack) :
    SameReceive conn sack.conn ∧ SameOwner conn sack.conn ∧ SameWindow conn sack.conn := by
  rcases accepted.timed with ⟨timed, expired, passed, rfl⟩
  rcases paws_passed passed with ⟨tsRecent, tsRecentAge, rfl⟩
  have change := sackPass_change (conn.stamp tsRecent tsRecentAge) opts clock.dsack
  exact ⟨(sameReceive_stamp conn tsRecent tsRecentAge).trans change.sameReceive,
    (sameOwner_stamp conn tsRecent tsRecentAge).trans change.sameOwner,
    (sameWindow_stamp conn tsRecent tsRecentAge).trans change.sameWindow⟩

/-- A processed segment is acceptable and its acknowledgment known. -/
theorem Accepted.acceptable {conn : TcpConn} {seg : ParsedSegment} {clock : Readings}
    {sendBuf : ℕ} {opts : TcpOpts} {sack : SackPass} {ack : AckPass}
    (accepted : Accepted conn seg clock sendBuf opts sack ack) :
    conn.acceptable seg clock.paws = true ∧ conn.ackKnown seg = true := by
  rcases establishedChecks_eq_ok_iff.mp accepted.checks with
    ⟨urgent, reset, acked, inside, options⟩
  rcases accepted.timed with ⟨timed, expired, passed, _⟩
  have timestamps := paws_passed_iff.mp ⟨timed, expired, passed⟩
  rcases accepted.sameEdges with ⟨_, owner, window⟩
  have known := ackPass_isSome_iff.mp ⟨ack, accepted.acked⟩
  constructor
  · simp [TcpConn.acceptable, urgent, reset, acked, inside, options, timestamps]
  · simpa [TcpConn.ackKnown, owner.sndNxt, window.sndUna] using known

/-- An acceptable segment with a known acknowledgment is processed. -/
theorem exists_accepted {conn : TcpConn} {seg : ParsedSegment} {clock : Readings} (sendBuf : ℕ)
    (acceptable : conn.acceptable seg clock.paws = true) (known : conn.ackKnown seg = true) :
    ∃ opts sack ack, Accepted conn seg clock sendBuf opts sack ack := by
  simp only [TcpConn.acceptable, Bool.and_eq_true, Bool.not_eq_true'] at acceptable
  rcases acceptable with ⟨⟨⟨⟨urgent, reset⟩, acked⟩, inside⟩, options⟩
  cases decoded : segOptions seg with
  | error reason => simp [decoded] at options
  | ok opts =>
      rw [decoded] at options
      rcases paws_passed_iff.mpr options with ⟨timed, expired, passed⟩
      have checks := establishedChecks_eq_ok_iff.mpr ⟨urgent, reset, acked, inside, decoded⟩
      rcases paws_passed passed with ⟨tsRecent, tsRecentAge, rfl⟩
      have change := sackPass_change (conn.stamp tsRecent tsRecentAge) opts clock.dsack
      have stillKnown : (sackPass (conn.stamp tsRecent tsRecentAge) opts
          clock.dsack).conn.ackKnown seg = true := by
        rw [TcpConn.ackKnown, change.sameOwner.sndNxt, change.sameWindow.sndUna]
        exact known
      rcases ackPass_isSome_iff.mpr stillKnown with ⟨ack, passedAck⟩
      exact ⟨opts, _, ack, checks, ⟨_, expired, passed, rfl⟩, passedAck⟩

/-- On a processed segment the handler runs the stages from loss detection on. -/
theorem Accepted.handleEstablished_eq {conn : TcpConn} {seg : ParsedSegment} {clock : Readings}
    {sendBuf : ℕ} {opts : TcpOpts} {sack : SackPass} {ack : AckPass}
    (accepted : Accepted conn seg clock sendBuf opts sack ack)
    (mbufCtx : Option MbufInsertCtx) :
    ∃ expired, handleEstablished conn seg clock sendBuf mbufCtx =
      establishedData seg mbufCtx clock.rack expired sack ack := by
  rcases accepted.timed with ⟨timed, expired, passed, rfl⟩
  refine ⟨expired, ?_⟩
  simp [handleEstablished, accepted.checks, passed, accepted.acked]

/-- The stages behind the ACK pass leave the owner fields and the window alone. -/
theorem establishedData_frame (seg : ParsedSegment) (mbufCtx : Option MbufInsertCtx) (rackNow : ℕ)
    (expired : Bool) (sack : SackPass) (ack : AckPass) :
    SameOwner ack.conn (establishedData seg mbufCtx rackNow expired sack ack).conn ∧
      SameWindow ack.conn (establishedData seg mbufCtx rackNow expired sack ack).conn := by
  have data := (deliver_change (rackPass ack.conn rackNow).1 seg mbufCtx).trans
    (takeFin_change seg (deliver (rackPass ack.conn rackNow).1 seg mbufCtx))
  exact ⟨(rackPass_sameOwner ack.conn rackNow).trans data.sameOwner,
    (rackPass_sameWindow ack.conn rackNow).trans data.sameWindow⟩

theorem handleEstablished_sameOwner (conn : TcpConn) (seg : ParsedSegment) (clock : Readings)
    (sendBuf : ℕ) (mbufCtx : Option MbufInsertCtx) :
    SameOwner conn (handleEstablished conn seg clock sendBuf mbufCtx).conn := by
  rcases handleEstablished_cases conn seg clock sendBuf mbufCtx with
    ⟨_, _, tsRecent, tsRecentAge, change⟩ | ⟨opts, sack, ack, expired, accepted, processed⟩
  · exact (sameOwner_stamp conn tsRecent tsRecentAge).trans change.sameOwner
  · rw [processed]
    exact (accepted.sameEdges.2.1.trans (ackPass_change accepted.acked).sameOwner).trans
      (establishedData_frame seg mbufCtx clock.rack expired sack ack).1

theorem handleClosePath_sameOwner (conn : TcpConn) (seg : ParsedSegment) (clock : Readings) :
    SameOwner conn (handleClosePath conn seg clock).conn := by
  rcases (handleClosePath_cases conn seg clock).2 with
    ⟨same, _⟩ | ⟨_, opts, timed, expired, passed, advanced, _⟩
  · rw [same]
    exact SameOwner.refl conn
  · rcases paws_passed passed with ⟨tsRecent, tsRecentAge, rfl⟩
    have change := sackPass_change (conn.stamp tsRecent tsRecentAge) opts clock.dsack
    rw [advanced, closeAdvance_only]
    exact ((sameOwner_stamp conn tsRecent tsRecentAge).trans change.sameOwner).trans
      ⟨rfl, rfl, rfl, rfl, rfl, rfl, rfl, rfl, rfl, rfl, rfl, rfl, rfl, rfl⟩

/-- What a dispatch outside the handshake does to the receive side: nothing beside taking
a FIN, or the delivery of the payload of an accepted segment. -/
inductive DispatchReceives (conn : TcpConn) (seg : ParsedSegment) (nowNs : ℕ)
    (mbufCtx : Option MbufInsertCtx) (dispatched : Dispatched) : Prop where
  | idle (delivered : dispatched.outcome.delivered = 0) (recv : dispatched.conn.recv = conn.recv)
      (fin : Bool) (closing : fin = true → conn.state ≠ .established)
      (rcvNxt : dispatched.conn.rcvNxt = seqAdd conn.rcvNxt fin.toNat)
      (shown : dispatched.conn.deliveredSegments = conn.deliveredSegments)
      (refUpdates : dispatched.refUpdates = [])
      (released : dispatched.outcome.mbufRefRetained = false) :
      DispatchReceives conn seg nowNs mbufCtx dispatched
  | data (running : conn.state = .established) (acceptable : conn.acceptable seg nowNs = true)
      (known : conn.ackKnown seg = true) (raced : TcpConn) (same : SameReceive conn raced)
      (owner : SameOwner conn raced) (fin : Bool)
      (closing : fin = true → dispatched.outcome.newState = some .closeWait)
      (delivered : dispatched.outcome.delivered = (deliver raced seg mbufCtx).delivered)
      (recv : dispatched.conn.recv = (deliver raced seg mbufCtx).conn.recv)
      (rcvNxt : dispatched.conn.rcvNxt =
        seqAdd (deliver raced seg mbufCtx).conn.rcvNxt fin.toNat)
      (shown : dispatched.conn.deliveredSegments =
        (deliver raced seg mbufCtx).conn.deliveredSegments)
      (refUpdates : dispatched.refUpdates = (deliver raced seg mbufCtx).refUpdates)
      (retained : dispatched.outcome.mbufRefRetained =
        (deliver raced seg mbufCtx).mbufRefRetained) :
      DispatchReceives conn seg nowNs mbufCtx dispatched

theorem DispatchReceives.of_same {conn : TcpConn} {seg : ParsedSegment} {nowNs : ℕ}
    {mbufCtx : Option MbufInsertCtx} {dispatched : Dispatched}
    (delivered : dispatched.outcome.delivered = 0) (same : SameReceive conn dispatched.conn)
    (refUpdates : dispatched.refUpdates = [])
    (released : dispatched.outcome.mbufRefRetained = false) :
    DispatchReceives conn seg nowNs mbufCtx dispatched := by
  refine .idle delivered same.recv false nofun ?_ same.deliveredSegments refUpdates released
  rw [same.rcvNxt, Bool.toNat_false, seqAdd_zero]

theorem handleClosePath_receives {conn : TcpConn} (closing : conn.state ≠ .established)
    (seg : ParsedSegment) (clock : Readings) (mbufCtx : Option MbufInsertCtx) :
    DispatchReceives conn seg clock.paws mbufCtx (handleClosePath conn seg clock) := by
  rcases handleClosePath_cases conn seg clock with
    ⟨silent, ⟨same, _⟩ | ⟨_, opts, timed, expired, passed, moved, _⟩⟩
  · exact .of_same silent.delivered (by rw [same]; exact SameReceive.refl conn)
      silent.refUpdates silent.mbufRefRetained
  · rcases paws_passed passed with ⟨tsRecent, tsRecentAge, rfl⟩
    have same := (sameReceive_stamp conn tsRecent tsRecentAge).trans
      (sackPass_change _ opts clock.dsack).sameReceive
    rw [closeAdvance_only] at moved
    refine .idle silent.delivered (by rw [moved]; exact same.recv)
      (seg.fin && seqAdd seg.seq seg.payload.length == conn.rcvNxt) (fun _ => closing) ?_
      (by rw [moved]; exact same.deliveredSegments) silent.refUpdates silent.mbufRefRetained
    rw [moved]
    dsimp only
    rw [same.rcvNxt]
    split
    · rename_i fin
      rw [fin, Bool.toNat_true]
    · rename_i none
      rw [Bool.not_eq_true] at none
      rw [none, Bool.toNat_false, seqAdd_zero]

theorem takeFin_receives (seg : ParsedSegment) (delivery : Delivery) :
    (takeFin seg delivery).1.recv = delivery.conn.recv ∧
      (takeFin seg delivery).1.rcvNxt =
        seqAdd delivery.conn.rcvNxt (consumesFin seg delivery).toNat ∧
      (consumesFin seg delivery = true → (takeFin seg delivery).2 = some .closeWait) := by
  unfold takeFin
  split
  · rename_i consumed
    rw [consumed]
    exact ⟨rfl, rfl, fun _ => rfl⟩
  · rename_i kept
    rw [Bool.not_eq_true] at kept
    rw [kept, Bool.toNat_false, seqAdd_zero]
    exact ⟨rfl, rfl, nofun⟩

theorem handleEstablished_receives {conn : TcpConn} (running : conn.state = .established)
    (seg : ParsedSegment) (clock : Readings) (sendBuf : ℕ) (mbufCtx : Option MbufInsertCtx) :
    DispatchReceives conn seg clock.paws mbufCtx
      (handleEstablished conn seg clock sendBuf mbufCtx) := by
  rcases handleEstablished_cases conn seg clock sendBuf mbufCtx with
    ⟨silent, _, tsRecent, tsRecentAge, change⟩ | ⟨opts, sack, ack, expired, accepted, processed⟩
  · exact .of_same silent.delivered
      ((sameReceive_stamp conn tsRecent tsRecentAge).trans change.sameReceive)
      silent.refUpdates silent.mbufRefRetained
  · have same := (accepted.sameEdges.1.trans (ackPass_change accepted.acked).sameReceive).trans
      (rackPass_sameReceive ack.conn clock.rack)
    have owner := (accepted.sameEdges.2.1.trans (ackPass_change accepted.acked).sameOwner).trans
      (rackPass_sameOwner ack.conn clock.rack)
    have fin := takeFin_receives seg (deliver (rackPass ack.conn clock.rack).1 seg mbufCtx)
    rw [processed]
    refine .data running accepted.acceptable.1 accepted.acceptable.2 _ same owner _ fin.2.2 rfl
      fin.1 fin.2.1 ?_ rfl rfl
    dsimp only [establishedData, takeFin]
    split <;> rfl

theorem dispatch_receives {conn : TcpConn} (opened : conn.state ≠ .synSent) (seg : ParsedSegment)
    (clock : Readings) (sendBuf : ℕ) (mbufCtx : Option MbufInsertCtx) :
    DispatchReceives conn seg clock.paws mbufCtx (dispatch conn seg clock sendBuf mbufCtx) := by
  unfold dispatch
  cases state : conn.state with
  | synSent => exact absurd state opened
  | established => exact handleEstablished_receives state seg clock sendBuf mbufCtx
  | finWait1 | finWait2 | closing | lastAck | closeWait | timeWait =>
      exact handleClosePath_receives (by rw [state]; nofun) seg clock mbufCtx
  | closed | listen | synReceived => exact .of_same rfl (SameReceive.refl conn) rfl rfl

end DpdkTcp
