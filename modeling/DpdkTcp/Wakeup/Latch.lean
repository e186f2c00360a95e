import DpdkTcp.Lifecycle.Machine

/-!
# The refusal latch

`send_bytes` raises `send_refused_pending` where it accepts fewer bytes than it is
given, and an acknowledgment that leaves at most half the send buffer in flight
lowers it. Only an acknowledgment of new data can do so: a latch that is raised
while nothing is in flight stays.
-/

namespace DpdkTcp

open Serial

namespace TcpConn

/-- The numbers in flight. -/
def inFlight (conn : TcpConn) : ℕ :=
  (conn.sndNxt - conn.sndUna).toNat

/-- With so many numbers in flight, an acknowledgment of new data is to come, and the
peer has no room unless more than half the send buffer is in flight. -/
def Draining (conn : TcpConn) (sendBuf inFlight : ℕ) : Prop :=
  0 < inFlight ∧ (sendBuf / 2 < inFlight ∨ conn.sndWnd ≤ inFlight)

/-- What is in flight behind an acknowledgment of new data. -/
def inFlightAfter (conn : TcpConn) (ack : Seq) : ℕ :=
  (conn.sndNxt - conn.unaAfter ack).toNat

/-- The latch of a connection is up only while there is something to drain. -/
structure Latched (conn : TcpConn) (sendBuf : ℕ) : Prop where
  sndWnd : conn.sndWnd < 2 ^ 30
  wsShiftIn : conn.wsShiftIn ≤ 14
  flight : conn.inFlight ≤ 2 ^ 31 + 1
  unfinished : conn.state ≠ .closed → conn.state.finSent = false → conn.inFlight ≤ 2 ^ 31
  opening : conn.state = .synSent → conn.sendRefusedPending = false
  draining : conn.sendRefusedPending = true → conn.Draining sendBuf conn.inFlight

end TcpConn

/-! ### What the engine keeps -/

section Kept

variable {entries : List RetransEntry} {mid after : TcpConn} {sendBuf : ℕ}

theorem KeptAs.sendRefusedPending (kept : KeptAs entries mid after) :
    after.sendRefusedPending = mid.sendRefusedPending := by
  rw [kept.only]

theorem KeptAs.inFlight (kept : KeptAs entries mid after) : after.inFlight = mid.inFlight := by
  rw [TcpConn.inFlight, kept.send.sndNxt, kept.send.sndUna]
  rfl

theorem KeptAs.latched (kept : KeptAs entries mid after) (latched : mid.Latched sendBuf) :
    after.Latched sendBuf := by
  refine ⟨?_, ?_, ?_, ?_, ?_, ?_⟩
  · rw [kept.send.sndWnd]
    exact latched.sndWnd
  · rw [kept.send.wsShiftIn]
    exact latched.wsShiftIn
  · rw [kept.inFlight]
    exact latched.flight
  · intro alive unfinished
    have same : after.state = mid.state := kept.closes.resolve_right alive
    rw [kept.inFlight]
    exact latched.unfinished (same ▸ alive) (same ▸ unfinished)
  · intro opening
    rcases kept.closes with same | closed
    · rw [kept.sendRefusedPending]
      exact latched.opening (same.symm.trans opening)
    · rw [closed] at opening
      cases opening
  · intro raised
    rw [kept.sendRefusedPending] at raised
    rw [TcpConn.Draining, kept.inFlight, kept.send.sndWnd]
    exact latched.draining raised

theorem latched_connecting (engine : Engine) (tuple : FourTuple) (iss : Seq) (ourMss : UInt16)
    (opts : ConnectOpts) (nowNs sendBuf : ℕ) :
    ((engine.connecting tuple iss ourMss opts nowNs).enter .synSent).Latched sendBuf := by
  have flight : ((engine.connecting tuple iss ourMss opts nowNs).enter .synSent).inFlight = 1 := by
    have one : (seqAdd iss 1 - iss).toNat = (iss - iss).toNat + 1 :=
      toNat_seqAdd_sub iss iss (by rw [BitVec.sub_self]; decide)
    rw [BitVec.sub_self] at one
    exact one
  refine ⟨show 0 < 2 ^ 30 by decide, Nat.zero_le 14, ?_, fun _ _ => ?_, fun _ => rfl, nofun⟩
  · rw [flight]
    decide
  · rw [flight]
    decide

/-- Our FIN takes a number. -/
theorem TcpConn.Latched.finSent {conn : TcpConn} (latched : conn.Latched sendBuf)
    (running : conn.state = .established ∨ conn.state = .closeWait) :
    conn.finSent.Latched sendBuf := by
  have flight : conn.inFlight ≤ 2 ^ 31 := by
    apply latched.unfinished
    · rcases running with running | running <;> rw [running] <;> exact nofun
    · rcases running with running | running <;> rw [running] <;> rfl
  have next : conn.finSent.inFlight = conn.inFlight + 1 := by
    exact toNat_seqAdd_sub conn.sndNxt conn.sndUna
      (Nat.lt_of_le_of_lt (Nat.add_le_add_right flight 1) (by decide))
  refine ⟨latched.sndWnd, latched.wsShiftIn, ?_, ?_, ?_, ?_⟩
  · omega
  · intro _ unfinished
    dsimp only [TcpConn.finSent] at unfinished
    split at unfinished <;> cases unfinished
  · intro opening
    dsimp only [TcpConn.finSent] at opening
    split at opening <;> cases opening
  · intro raised
    rcases latched.draining raised with ⟨some, full⟩
    rw [TcpConn.Draining, next]
    dsimp only [TcpConn.finSent]
    omega

end Kept

/-! ### Segments -/

/-- What a dispatch does to the latch. -/
structure Dispatched.Notices (dispatched : Dispatched) (conn : TcpConn) (sendBuf : ℕ) : Prop where
  lowered : dispatched.outcome.writableHysteresisFired = true →
    conn.sendRefusedPending = true ∧ dispatched.conn.sendRefusedPending = false
  kept : dispatched.outcome.writableHysteresisFired = false →
    dispatched.conn.sendRefusedPending = conn.sendRefusedPending
  drained : conn.state = .established → dispatched.conn.sendRefusedPending = true →
    dispatched.conn.sndUna = conn.sndUna ∧ dispatched.conn.sndWnd = conn.sndWnd ∨
      sendBuf / 2 < dispatched.conn.inFlight
  window : conn.state ≠ .synSent → conn.state ≠ .established →
    dispatched.conn.sndWnd = conn.sndWnd

section Notices

variable {conn : TcpConn} {sendBuf : ℕ}

theorem Dispatched.Notices.of_same {dispatched : Dispatched}
    (silent : dispatched.outcome.writableHysteresisFired = false)
    (kept : dispatched.conn.sendRefusedPending = conn.sendRefusedPending)
    (drained : conn.state = .established →
      dispatched.conn.sndUna = conn.sndUna ∧ dispatched.conn.sndWnd = conn.sndWnd)
    (window : conn.state ≠ .synSent → conn.state ≠ .established →
      dispatched.conn.sndWnd = conn.sndWnd) :
    dispatched.Notices conn sendBuf :=
  { lowered := fun fired => by rw [silent] at fired; cases fired
    kept := fun _ => kept
    drained := fun running _ => Or.inl (drained running)
    window := window }

theorem maybeSeed_sendRefusedPending (conn : TcpConn) (nowNs : ℕ) :
    (conn.maybeSeedSrttFromSyn nowNs).sendRefusedPending = conn.sendRefusedPending := by
  rw [maybeSeed_only]

theorem handleSynSent_notices (opening : conn.state = .synSent) (seg : ParsedSegment)
    (clock : Readings) : (handleSynSent conn seg clock).Notices conn sendBuf := by
  have other : conn.state = .established →
      (handleSynSent conn seg clock).conn.sndUna = conn.sndUna ∧
        (handleSynSent conn seg clock).conn.sndWnd = conn.sndWnd := by
    intro running
    rw [opening] at running
    cases running
  refine .of_same ?_ ?_ other fun opened => absurd opening opened
  · unfold handleSynSent
    split
    · split <;> rfl
    · split
      · rfl
      · split
        · rfl
        · split
          · rfl
          · split <;> rfl
  · unfold handleSynSent
    split
    · split <;> rfl
    · split
      · rfl
      · split
        · rfl
        · split
          · rfl
          · split
            · rfl
            · exact maybeSeed_sendRefusedPending _ clock.synSeed

theorem SackChange.sendRefusedPending {before after : TcpConn} (change : SackChange before after) :
    after.sendRefusedPending = before.sendRefusedPending := by
  rw [change.only]

theorem updateWindow_sendRefusedPending (conn : TcpConn) (seg : ParsedSegment) :
    (updateWindow conn seg).sendRefusedPending = conn.sendRefusedPending := by
  unfold updateWindow
  split <;> rfl

theorem absorbAck_sendRefusedPending (conn : TcpConn) (seg : ParsedSegment) (opts : TcpOpts)
    (nowNs : ℕ) : (absorbAck conn seg opts nowNs).1.sendRefusedPending = conn.sendRefusedPending := by
  dsimp only [absorbAck]
  rw [updateWindow_sendRefusedPending]
  split <;> split <;> rfl

/-- What the ACK pass does to the latch. -/
theorem ackPass_notices {seg : ParsedSegment} {opts : TcpOpts} {nowNs : ℕ} {ack : AckPass}
    (accepted : ackPass conn seg opts nowNs sendBuf = some ack) :
    (ack.writableHysteresisFired = true →
        conn.sendRefusedPending = true ∧ ack.conn.sendRefusedPending = false) ∧
      (ack.writableHysteresisFired = false →
        ack.conn.sendRefusedPending = conn.sendRefusedPending) ∧
      (ack.conn.sendRefusedPending = true → ack.conn = conn ∨ sendBuf / 2 < ack.conn.inFlight) := by
  dsimp only [ackPass] at accepted
  split at accepted
  · cases accepted
    have latch := absorbAck_sendRefusedPending conn seg opts nowNs
    generalize (absorbAck conn seg opts nowNs).1 = absorbed at latch ⊢
    dsimp only
    rw [← latch]
    refine ⟨fun fired => ?_, fun silent => ?_, fun raised => Or.inr ?_⟩
    · rw [if_pos fired]
      exact ⟨(Bool.and_eq_true_iff.mp fired).1, rfl⟩
    · rw [if_neg (by rw [silent]; exact Bool.false_ne_true)]
    · split at raised
      · cases raised
      · rename_i silent
        rw [if_neg silent]
        rw [raised, Bool.true_and, decide_eq_true_iff] at silent
        exact Nat.lt_of_not_le silent
  · split at accepted
    · cases accepted
    · cases accepted
      exact ⟨nofun, fun _ => rfl, fun _ => Or.inl rfl⟩

theorem establishedChecks_silent {seg : ParsedSegment} {outcome : Outcome}
    (rejected : establishedChecks conn seg = .error outcome) :
    outcome.writableHysteresisFired = false := by
  unfold establishedChecks at rejected
  split at rejected
  · cases rejected
    rfl
  · split at rejected
    · cases rejected
      rfl
    · split at rejected
      · cases rejected
        rfl
      · split at rejected
        · cases rejected
          rfl
        · split at rejected
          · cases rejected
            rfl
          · cases rejected

/-- The stages behind the ACK pass leave the latch alone. -/
theorem establishedData_notices (seg : ParsedSegment) (mbufCtx : Option MbufInsertCtx)
    (rackNow : ℕ) (expired : Bool) (sack : SackPass) (ack : AckPass) :
    (establishedData seg mbufCtx rackNow expired sack ack).conn.sendRefusedPending =
        ack.conn.sendRefusedPending ∧
      (establishedData seg mbufCtx rackNow expired sack ack).conn.sndUna = ack.conn.sndUna ∧
      (establishedData seg mbufCtx rackNow expired sack ack).conn.sndNxt = ack.conn.sndNxt ∧
      (establishedData seg mbufCtx rackNow expired sack ack).conn.sndWnd = ack.conn.sndWnd ∧
      (establishedData seg mbufCtx rackNow expired sack ack).outcome.writableHysteresisFired =
        ack.writableHysteresisFired := by
  have data : DataChange (rackPass ack.conn rackNow).1
      (establishedData seg mbufCtx rackNow expired sack ack).conn :=
    (deliver_change (rackPass ack.conn rackNow).1 seg mbufCtx).trans (takeFin_change seg _)
  refine ⟨?_, ?_, ?_, ?_, rfl⟩
  all_goals rw [data.only, rackPass_only]

theorem handleEstablished_notices (running : conn.state = .established) (seg : ParsedSegment) (clock : Readings)
    (mbufCtx : Option MbufInsertCtx) :
    (handleEstablished conn seg clock sendBuf mbufCtx).Notices conn sendBuf := by
  dsimp only [handleEstablished]
  split
  · rename_i outcome rejected
    exact .of_same (establishedChecks_silent rejected) rfl (fun _ => ⟨rfl, rfl⟩) fun _ _ => rfl
  · rename_i opts _
    split
    · exact .of_same rfl rfl (fun _ => ⟨rfl, rfl⟩) fun _ _ => rfl
    · exact .of_same rfl rfl (fun _ => ⟨rfl, rfl⟩) fun _ _ => rfl
    · rename_i timed expired passed
      rcases paws_passed passed with ⟨tsRecent, tsRecentAge, rfl⟩
      have sacked := sackPass_change (conn.stamp tsRecent tsRecentAge) opts clock.dsack
      split
      · exact .of_same rfl sacked.sendRefusedPending
          (fun _ => ⟨sacked.sameWindow.sndUna, sacked.sameWindow.sndWnd⟩)
          fun _ closing => absurd running closing
      · rename_i ack accepted
        rcases ackPass_notices accepted with ⟨lowered, kept, drained⟩
        rcases establishedData_notices seg mbufCtx clock.rack expired (sackPass _ opts clock.dsack)
          ack with ⟨latch, una, nxt, wnd, fired⟩
        have before := sacked.sendRefusedPending
        refine ⟨fun notified => ?_, fun silent => ?_, fun _ raised => ?_,
          fun _ closing => absurd running closing⟩
        · rw [fired] at notified
          rw [latch]
          exact ⟨before.symm.trans (lowered notified).1, (lowered notified).2⟩
        · rw [fired] at silent
          rw [latch, kept silent]
          exact before
        · rw [latch] at raised
          rw [una, wnd, TcpConn.inFlight, una, nxt]
          rcases drained raised with same | above
          · rw [same]
            exact Or.inl ⟨sacked.sameWindow.sndUna, sacked.sameWindow.sndWnd⟩
          · exact Or.inr above

theorem handleClosePath_notices (running : conn.state ≠ .established) (seg : ParsedSegment)
    (clock : Readings) : (handleClosePath conn seg clock).Notices conn sendBuf := by
  have silent : (handleClosePath conn seg clock).outcome.writableHysteresisFired = false := by
    dsimp only [handleClosePath]
    simp only [pawsClosePath_eq]
    split
    · rfl
    · split
      · rfl
      · split
        · rfl
        · split
          · rfl
          · split
            · rfl
            · split <;> rfl
  have same : (handleClosePath conn seg clock).conn.sendRefusedPending = conn.sendRefusedPending ∧
      (handleClosePath conn seg clock).conn.sndWnd = conn.sndWnd := by
    rcases handleClosePath_cases conn seg clock with
      ⟨_, ⟨same, _⟩ | ⟨_, opts, timed, expired, passed, advanced, _⟩⟩
    · rw [same]
      exact ⟨rfl, rfl⟩
    · rcases paws_passed passed with ⟨tsRecent, tsRecentAge, rfl⟩
      have sacked := sackPass_change (conn.stamp tsRecent tsRecentAge) opts clock.dsack
      rw [advanced, closeAdvance_only]
      exact ⟨sacked.sendRefusedPending, sacked.sameWindow.sndWnd⟩
  exact .of_same silent same.1 (fun state => absurd state running) fun _ _ => same.2

theorem dispatch_notices (conn : TcpConn) (seg : ParsedSegment) (clock : Readings) (sendBuf : ℕ)
    (mbufCtx : Option MbufInsertCtx) :
    (dispatch conn seg clock sendBuf mbufCtx).Notices conn sendBuf := by
  unfold dispatch
  split
  · rename_i opening
    exact handleSynSent_notices opening seg clock
  · rename_i running
    exact handleEstablished_notices running seg clock mbufCtx
  all_goals rename_i state
  all_goals first
    | exact handleClosePath_notices (by rw [state]; exact nofun) seg clock
    | exact .of_same rfl rfl (fun _ => ⟨rfl, rfl⟩) fun _ _ => rfl

end Notices

section Ends

variable {conn after : TcpConn} {seg : ParsedSegment} {nowNs : ℕ} {target : Option TcpState}

/-- What is in flight behind a segment. -/
theorem DispatchEnds.inFlight (ends : DispatchEnds conn seg nowNs after target)
    (numbers : SameNumbers conn after) :
    after.inFlight = conn.inFlight ∨
      conn.state = .synSent ∧ seqLe seg.ack conn.sndNxt = true ∧
        after.inFlight = (conn.sndNxt - seg.ack).toNat ∨
      (conn.state = .established ∨ conn.state.isClosing = true) ∧
        after.inFlight = conn.inFlightAfter seg.ack := by
  unfold TcpConn.inFlight
  rw [numbers.sndNxt]
  cases ends with
  | ignored sndUna _ | reset _ sndUna _ => exact Or.inl (by rw [sndUna])
  | opened opening takesSynAck sndUna _ _ =>
      refine Or.inr (Or.inl ⟨opening, ?_, by rw [sndUna]⟩)
      simp only [TcpConn.takesSynAck, synAcked, Bool.and_eq_true] at takesSynAck
      exact takesSynAck.1.2.2
  | running state _ sndUna _ _ _ _ => exact Or.inr (Or.inr ⟨Or.inl state, by rw [sndUna]; rfl⟩)
  | closing state _ sndUna _ => exact Or.inr (Or.inr ⟨Or.inr state, by rw [sndUna]; rfl⟩)

/-- A connection whose FIN is not sent had not sent it before the segment. -/
theorem DispatchEnds.unfinished (ends : DispatchEnds conn seg nowNs after target)
    (alive : target.getD conn.state ≠ .closed)
    (unfinished : (target.getD conn.state).finSent = false) :
    conn.state ≠ .closed ∧ conn.state.finSent = false := by
  cases ends with
  | ignored _ _ => exact ⟨alive, unfinished⟩
  | reset _ _ _ => exact absurd rfl alive
  | opened opening _ _ _ _ =>
      rw [opening]
      exact ⟨nofun, rfl⟩
  | running state _ _ _ _ _ _ =>
      rw [state]
      exact ⟨nofun, rfl⟩
  | closing state _ _ _ =>
      rcases closeTransition_edge state (conn.finHasBeenAcked seg.ack) (conn.peerHasFin seg) with
        ⟨_, same⟩ | closed
      · refine ⟨?_, same.trans unfinished⟩
        intro closed
        rw [closed] at state
        cases state
      · rw [closed] at alive
        exact absurd rfl alive

/-- An acknowledgment leaves as much in flight, or at most half the number space. -/
theorem TcpConn.inFlightAfter_le (conn : TcpConn) (ack : Seq) :
    conn.inFlightAfter ack = conn.inFlight ∨ conn.inFlightAfter ack ≤ 2 ^ 31 := by
  unfold inFlightAfter unaAfter
  split
  · rename_i advances
    exact Or.inr (toNat_sub_le_of_seqLe (Bool.and_eq_true_iff.mp advances).2)
  · exact Or.inl rfl

/-- A segment keeps the latch right, unless it drains a connection that is closing. -/
theorem TcpConn.Latched.segment {sendBuf : ℕ} (latched : conn.Latched sendBuf)
    (ends : DispatchEnds conn seg nowNs after target) (numbers : SameNumbers conn after)
    {dispatched : Dispatched} (notices : dispatched.Notices conn sendBuf)
    (same : dispatched.conn = after)
    (send : SegmentSend conn seg nowNs after dispatched.outcome)
    (answers : conn.sendRefusedPending = true → conn.state.isClosing = true →
      conn.Draining sendBuf (conn.inFlightAfter seg.ack)) :
    (after.enter (target.getD conn.state)).Latched sendBuf := by
  subst same
  have window := send.window latched.sndWnd latched.wsShiftIn
  have edges := ends.inFlight numbers
  have bounded : dispatched.conn.inFlight = conn.inFlight ∨
      dispatched.conn.inFlight ≤ 2 ^ 31 := by
    rcases edges with same | ⟨_, known, acked⟩ | ⟨_, acked⟩
    · exact Or.inl same
    · rw [acked]
      exact Or.inr (toNat_sub_le_of_seqLe known)
    · rw [acked]
      exact conn.inFlightAfter_le seg.ack
  have raisedBefore : dispatched.conn.sendRefusedPending = true →
      conn.sendRefusedPending = true := by
    intro raised
    cases fired : dispatched.outcome.writableHysteresisFired with
    | false => exact (notices.kept fired).symm.trans raised
    | true => exact (notices.lowered fired).1
  have flight := latched.flight
  refine ⟨window.1, window.2, ?_, ?_, ?_, ?_⟩
  · show dispatched.conn.inFlight ≤ 2 ^ 31 + 1
    omega
  · intro alive unfinished
    rcases ends.unfinished alive unfinished with ⟨aliveBefore, unfinishedBefore⟩
    have before := latched.unfinished aliveBefore unfinishedBefore
    show dispatched.conn.inFlight ≤ 2 ^ 31
    omega
  · intro opening
    by_contra raised
    have before := raisedBefore (Bool.eq_true_of_not_eq_false raised)
    rw [latched.opening (ends.opening opening).1] at before
    cases before
  · intro raised
    have before := raisedBefore raised
    have draining := latched.draining before
    have opened : conn.state ≠ .synSent := by
      intro opening
      rw [latched.opening opening] at before
      cases before
    show 0 < dispatched.conn.inFlight ∧ (sendBuf / 2 < dispatched.conn.inFlight ∨
      dispatched.conn.sndWnd ≤ dispatched.conn.inFlight)
    by_cases running : conn.state = .established
    · rcases notices.drained running raised with ⟨una, wnd⟩ | above
      · have same : dispatched.conn.inFlight = conn.inFlight := by
          rw [inFlight, numbers.sndNxt, una]
          rfl
        rw [same, wnd]
        exact draining
      · exact ⟨by omega, Or.inl above⟩
    · rw [notices.window opened running]
      rcases edges with same | ⟨opening, _⟩ | ⟨running' | closing, acked⟩
      · rw [same]
        exact draining
      · exact absurd opening opened
      · exact absurd running' running
      · rw [acked]
        exact answers before closing

end Ends

end DpdkTcp
