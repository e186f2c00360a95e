import DpdkTcp.Closing.PeerFin
import DpdkTcp.Window.Honour

/-!
# Data of the peer after our close

`handle_close_path` has no data path, and it takes a FIN only where `rcv_nxt`
stands. Data that arrives in FIN_WAIT is neither taken in nor answered, so
`rcv_nxt` never comes to a FIN that has data before it: the connection waits
for that FIN for good.
-/

namespace DpdkTcp

/-- The states in which our FIN is out and the peer's has not come. -/
def TcpState.awaitsFin : TcpState → Bool
  | .finWait1 | .finWait2 => true
  | .closed | .listen | .synSent | .synReceived | .established | .closeWait | .closing | .lastAck
  | .timeWait => false

/-- The segment is answered: its bytes are acknowledged, taken in or not, or a RST goes out. -/
def Outcome.heeds (outcome : Outcome) : Prop :=
  outcome.tx = .ack ∨ outcome.tx = .rst ∨ outcome.tx = .rstForSynSentBadAck

/-- A segment of a peer whose stream ends at `fin`: no RST, and a FIN only at the end. -/
def ParsedSegment.endsAt (seg : ParsedSegment) (fin : Seq) : Bool :=
  !seg.flags.has TCP_RST && (!seg.fin || seqAdd seg.seq seg.payload.length == fin)

/-- What arrives for the connection is of a stream that ends at `fin`. -/
def SystemOp.ofStream (handle : ConnHandle) (fin : Seq) : SystemOp → Bool
  | .call (.segment target seg _ _) => decide (target ≠ handle) || seg.endsAt fin
  | _ => true

/-- The step runs the handler of the connection's retransmission timer. -/
def Host.firesRto (host : Host) (handle : ConnHandle) : SystemOp → Bool
  | .call (.fireNext _) => host.pending.head?.any fun fired =>
      fired.2.ownerHandle == handle &&
        (host.engine.flowTable.get handle).any fun conn => conn.rtoTimerId == some fired.1
  | _ => false

section Dispatch

variable {conn : TcpConn} {seg : ParsedSegment} {clock : Readings}

/-- An acceptable segment with data does not end where `rcv_nxt` stands. -/
theorem peerHasFin_of_data (small : conn.rcvWnd ≤ 65535) (inside : segInWindow conn seg = true)
    (data : seg.payload ≠ []) (short : seg.payload.length < 65536) :
    conn.peerHasFin seg = false := by
  have fin : seg.fin.toNat ≤ 1 := Bool.toNat_le seg.fin
  have positive : 0 < seg.payload.length := List.length_pos_iff.mpr data
  have within := (segInWindow_iff data small (by rw [ParsedSegment.segLen]; omega)).mp inside
  rw [ParsedSegment.segLen] at within
  have ahead := @toNat_seqAdd_sub seg.seq conn.rcvNxt seg.payload.length (by omega)
  have differs : seqAdd seg.seq seg.payload.length ≠ conn.rcvNxt := by
    intro same
    rw [same, BitVec.sub_self, BitVec.toNat_zero] at ahead
    omega
  rw [TcpConn.peerHasFin, beq_eq_false_iff_ne.mpr differs, Bool.and_false]

theorem closeAdvance_answer (conn : TcpConn) (seg : ParsedSegment) :
    (closeAdvance conn seg).2.2 =
      (closeTransition conn.state (conn.finHasBeenAcked seg.ack) (conn.peerHasFin seg)).2 := by
  dsimp only [closeAdvance, TcpConn.peerHasFin]
  split <;> rfl

/-- Without the peer's FIN, FIN_WAIT leads to FIN_WAIT and nothing goes out. -/
theorem closeTransition_awaits {state : TcpState} (awaits : state.awaitsFin = true)
    (finAcked : Bool) :
    (closeTransition state finAcked false).2 = .none ∧
      ∀ target, (closeTransition state finAcked false).1 = some target →
        target.awaitsFin = true := by
  cases state with
  | finWait1 =>
      cases finAcked with
      | false => exact ⟨rfl, nofun⟩
      | true =>
          refine ⟨rfl, fun target decided => ?_⟩
          cases decided
          rfl
  | finWait2 => exact ⟨rfl, nofun⟩
  | _ => cases awaits

/-- What the closing handler makes of a segment without a RST that does not bring the FIN. -/
theorem handleClosePath_awaits (awaits : conn.state.awaitsFin = true)
    (reset : seg.flags.has TCP_RST = false) (noFin : conn.peerHasFin seg = false) :
    (handleClosePath conn seg clock).conn.rcvNxt = conn.rcvNxt ∧
      (∀ target, (handleClosePath conn seg clock).outcome.newState = some target →
        target.awaitsFin = true) ∧
      (conn.closeAcceptable seg clock.paws = true →
        (handleClosePath conn seg clock).outcome.tx = .none) := by
  have waiting : conn.state ≠ .timeWait := by
    intro state
    rw [state] at awaits
    cases awaits
  cases acceptable : conn.closeAcceptable seg clock.paws with
  | false =>
      rcases handleClosePath_of_not_acceptable acceptable with ⟨same, none | ⟨isReset, _⟩⟩
      · refine ⟨by rw [same], ?_, nofun⟩
        rw [none]
        exact nofun
      · rw [reset] at isReset
        cases isReset
  | true =>
      have rcvNxt := handleClosePath_rcvNxt waiting acceptable
      rw [noFin] at rcvNxt
      rcases handleClosePath_of_acceptable waiting acceptable with
        ⟨sacked, receive, owner, _, newState, answer⟩
      have still : sacked.peerHasFin seg = false := by
        rw [TcpConn.peerHasFin, receive.rcvNxt]
        exact noFin
      rw [← owner.state] at awaits
      have decided := closeTransition_awaits awaits (sacked.finHasBeenAcked seg.ack)
      rw [← still] at decided
      refine ⟨rcvNxt.trans (seqAdd_zero _), fun target entered => ?_, fun _ => ?_⟩
      · rw [newState, closeAdvance_target] at entered
        exact decided.2 target entered
      · rw [answer, closeAdvance_answer]
        exact decided.1

/-- A piece of a stream that goes on behind `rcv_nxt` does not bring the FIN. -/
theorem peerHasFin_of_endsAt {outstanding : ℕ} (positive : 0 < outstanding)
    (small : outstanding < 2 ^ 32)
    (ends : seg.endsAt (seqAdd conn.rcvNxt outstanding) = true) :
    seg.flags.has TCP_RST = false ∧ conn.peerHasFin seg = false := by
  simp only [ParsedSegment.endsAt, Bool.and_eq_true, Bool.or_eq_true, Bool.not_eq_true',
    beq_iff_eq] at ends
  refine ⟨ends.1, ?_⟩
  rcases ends.2 with noFin | closing
  · rw [TcpConn.peerHasFin, noFin, Bool.false_and]
  · have differs : seqAdd conn.rcvNxt outstanding ≠ conn.rcvNxt := by
      intro same
      have ahead := @toNat_seqAdd_sub conn.rcvNxt conn.rcvNxt outstanding
        (by rw [BitVec.sub_self, BitVec.toNat_zero]; omega)
      rw [same, BitVec.sub_self, BitVec.toNat_zero] at ahead
      omega
    rw [TcpConn.peerHasFin, closing, beq_eq_false_iff_ne.mpr differs, Bool.and_false]

theorem dispatch_of_awaits (awaits : conn.state.awaitsFin = true) (seg : ParsedSegment)
    (clock : Readings) (sendBuf : ℕ) (mbufCtx : Option MbufInsertCtx) :
    dispatch conn seg clock sendBuf mbufCtx = handleClosePath conn seg clock := by
  unfold dispatch
  revert awaits
  cases conn.state with
  | finWait1 | finWait2 => exact fun _ => rfl
  | _ => exact nofun

end Dispatch

/-- A timer handler that is not the one of its RTO leaves the state of an open connection alone. -/
theorem Engine.stateAt_fireTimer {engine : Engine} {handle : ConnHandle} {conn : TcpConn}
    (present : engine.flowTable.get handle = some conn) (awaits : conn.state.awaitsFin = true)
    {id : TimerId} {node : TimerNode}
    (stale : node.ownerHandle = handle → conn.rtoTimerId ≠ some id) (env : FireEnv) :
    (engine.fireTimer id node env).stateAt handle = engine.stateAt handle := by
  unfold fireTimer
  split
  · rcases stateAt_onRtoFire engine node.ownerHandle handle id env.rto with
      same | ⟨here, ⟨owner, found, own⟩, _⟩
    · exact same
    · rw [← here, present] at found
      cases found
      exact absurd own (stale here.symm)
  · exact stateAt_onTlpFire engine node.ownerHandle handle id env.tlp env.nowNs
  · rcases stateAt_onSynRetransFire engine node.ownerHandle handle id env.nowNs with
      same | ⟨here, ⟨owner, found, opening⟩, _⟩
    · exact same
    · rw [← here, present] at found
      cases found
      rcases opening with state | state <;> rw [state] at awaits <;> cases awaits
  · rfl

namespace Host

variable {host : Host} {handle : ConnHandle} {conn after : TcpConn}

/-- A receive window that fits an unscaled header stays one. -/
theorem systemStep_rcvWnd {op : SystemOp}
    (live : (host.systemStep op).engine.flowTable.get handle = some after)
    (small : ∀ conn, host.engine.flowTable.get handle = some conn → conn.rcvWnd ≤ 65535) :
    after.rcvWnd ≤ 65535 := by
  have received := host.systemStep_receiver op live
  generalize found : host.engine.flowTable.get handle = present at received
  cases received with
  | kept same state beside => exact same.rcvWnd.trans_le (small _ found)
  | opening rcvWnd recv state => exact rcvWnd.trans_le (Nat.min_le_right _ _)
  | segment seg mbufCtx env called dispatched processed same state =>
      rename_i conn
      have kept : dispatched.conn.rcvWnd = conn.rcvWnd := by
        rw [processed]
        by_cases opening : conn.state = .synSent
        · have shake : dispatch conn seg env.clock host.engine.cfg.sendBufferBytes mbufCtx =
              handleSynSent conn seg env.clock := by
            rw [dispatch, opening]
          rw [shake]
          rcases handleSynSent_opens conn seg env.clock with
            ⟨_, _, ⟨same, _⟩ | ⟨_, _, _, _, adopted⟩⟩
          · rw [same]
          · exact adopted.rcvWnd
        · exact (dispatch_sameOwner opening seg env.clock _ mbufCtx).rcvWnd
      exact (same.rcvWnd.trans kept).trans_le (small conn found)

/-- Every connection has a receive window that fits an unscaled header. -/
theorem rcvWnd_small {cfg : EngineConfig} {maxConnections eventSoftCap : ℕ}
    (run : Run.Reaches systemStep (fun _ _ => True) (start cfg maxConnections eventSoftCap) host) :
    ∀ handle conn, host.engine.flowTable.get handle = some conn → conn.rcvWnd ≤ 65535 := by
  apply run.invariant
  · intro handle conn live
    rw [get_start] at live
    cases live
  · intro between op before _ handle after live
    exact between.systemStep_rcvWnd live (before handle)

/-- A fired timer removes the connection only as its retransmission timer. -/
theorem awaitsFin_fireNext (present : host.engine.flowTable.get handle = some conn)
    (awaits : conn.state.awaitsFin = true) {env : FireEnv}
    (gone : (host.step (.fireNext env)).engine.stateAt handle = none) :
    host.firesRto handle (.call (.fireNext env)) = true := by
  have here : host.engine.stateAt handle = some conn.state := by
    rw [Engine.stateAt, present]
    rfl
  dsimp only [step] at gone
  split at gone
  · rw [here] at gone
    cases gone
  · rename_i id node rest queued
    by_contra other
    have stale : node.ownerHandle = handle → conn.rtoTimerId ≠ some id := by
      intro owner own
      rw [firesRto, queued, present] at other
      simp [owner, own] at other
    rw [Engine.stateAt_fireTimer present awaits stale env, here] at gone
    cases gone

/-- A stream with data before its FIN leaves the state at FIN_WAIT. -/
theorem awaitsFin_stateAt {op : EngineOp} (present : host.engine.flowTable.get handle = some conn)
    (awaits : conn.state.awaitsFin = true) {outstanding : ℕ} (positive : 0 < outstanding)
    (small : outstanding < 2 ^ 32)
    (stream : (SystemOp.call op).ofStream handle (seqAdd conn.rcvNxt outstanding) = true) :
    ((host.step op).engine.stateAt handle = none ∧ host.firesRto handle (.call op) = true) ∨
      ∃ state, (host.step op).engine.stateAt handle = some state ∧ state.awaitsFin = true := by
  have step := host.step_stateAt op present
  generalize left : (host.step op).engine.stateAt handle = state at step
  cases step with
  | kept => exact Or.inr ⟨conn.state, rfl, awaits⟩
  | fin running =>
      rcases running with state | state <;> rw [state] at awaits <;> cases awaits
  | segment seg mbufCtx env =>
      right
      have ends : seg.endsAt (seqAdd conn.rcvNxt outstanding) = true := by
        simpa [SystemOp.ofStream] using stream
      rcases peerHasFin_of_endsAt positive small ends with ⟨reset, noFin⟩
      have decided := (@handleClosePath_awaits _ _ env.clock awaits reset noFin).2.1
      rw [dispatch_of_awaits awaits]
      generalize (handleClosePath conn seg env.clock).outcome = outcome at decided
      cases entered : outcome.newState with
      | none =>
          refine ⟨conn.state, ?_, awaits⟩
          rw [Outcome.stateAfter, entered, if_neg (by rintro ⟨⟩)]
          rfl
      | some target =>
          have waits := decided target entered
          refine ⟨target, ?_, waits⟩
          rw [Outcome.stateAfter, entered, if_neg]
          · rfl
          · intro closed
            cases closed
            cases waits
  | timer env => exact Or.inl ⟨rfl, awaitsFin_fireNext present awaits left⟩
  | reaped nowNs expired =>
      have waiting : conn.state = .timeWait := of_decide_eq_true (Bool.and_eq_true_iff.mp expired).1
      rw [waiting] at awaits
      cases awaits

/-- A stream with data before its FIN leaves `rcv_nxt` where it is. -/
theorem awaitsFin_rcvNxt {op : SystemOp} (present : host.engine.flowTable.get handle = some conn)
    (awaits : conn.state.awaitsFin = true) {outstanding : ℕ} (positive : 0 < outstanding)
    (small : outstanding < 2 ^ 32)
    (stream : op.ofStream handle (seqAdd conn.rcvNxt outstanding) = true)
    (live : (host.systemStep op).engine.flowTable.get handle = some after) :
    after.rcvNxt = conn.rcvNxt := by
  have received := host.systemStep_receiver op live
  rw [present] at received
  cases received with
  | kept same state beside => exact same.rcvNxt
  | segment seg mbufCtx env called dispatched processed same state =>
      subst called
      have ends : seg.endsAt (seqAdd conn.rcvNxt outstanding) = true := by
        simpa [SystemOp.ofStream] using stream
      rcases peerHasFin_of_endsAt positive small ends with ⟨reset, noFin⟩
      rw [dispatch_of_awaits awaits] at processed
      have still := (@handleClosePath_awaits _ _ env.clock awaits reset noFin).1
      rw [← processed] at still
      exact same.rcvNxt.trans still

/-- A stream with data before its FIN leaves the connection where it is. -/
theorem awaitsFin_step {op : SystemOp} (present : host.engine.flowTable.get handle = some conn)
    (awaits : conn.state.awaitsFin = true) {outstanding : ℕ} (positive : 0 < outstanding)
    (small : outstanding < 2 ^ 32)
    (stream : op.ofStream handle (seqAdd conn.rcvNxt outstanding) = true) :
    ((host.systemStep op).engine.flowTable.get handle = none ∧
        (op.live = false ∨ host.firesRto handle op = true)) ∨
      ∃ after, (host.systemStep op).engine.flowTable.get handle = some after ∧
        after.state.awaitsFin = true ∧ after.rcvNxt = conn.rcvNxt := by
  cases op with
  | call op =>
      rcases awaitsFin_stateAt present awaits positive small stream with
        ⟨gone, fires⟩ | ⟨state, here, waits⟩
      · exact Or.inl ⟨Option.map_eq_none_iff.mp gone, Or.inr fires⟩
      · rcases Engine.stateAt_eq_some _ handle here with ⟨after, live, rfl⟩
        exact Or.inr ⟨after, live, waits,
          awaitsFin_rcvNxt present awaits positive small stream live⟩
  | complete index =>
      right
      rw [systemStep, completeFrame_flowTable]
      exact ⟨conn, present, awaits, rfl⟩
  | drainEvents max => exact Or.inr ⟨conn, present, awaits, rfl⟩
  | drop =>
      left
      rw [systemStep, drop_get]
      exact ⟨rfl, Or.inl rfl⟩

/-- Behind our FIN, no acceptable segment with data is answered; and a peer with data to send
before its FIN never brings the connection out of FIN_WAIT, however it sends the two again. -/
theorem fin_wait_swallows_data {cfg : EngineConfig} {maxConnections eventSoftCap : ℕ}
    (run : Run.Reaches systemStep (fun _ _ => True) (start cfg maxConnections eventSoftCap) host)
    (present : host.engine.flowTable.get handle = some conn)
    (awaits : conn.state.awaitsFin = true) :
    (∀ seg clock sendBuf mbufCtx, conn.closeAcceptable seg clock.paws = true → seg.payload ≠ [] →
      seg.payload.length < 65536 →
        ¬ (dispatch conn seg clock sendBuf mbufCtx).outcome.heeds) ∧
      ∀ outstanding, 0 < outstanding → outstanding < 2 ^ 32 →
        (∀ later, Run.Reaches systemStep (fun host op => host.opens op handle = false ∧
            op.ofStream handle (seqAdd conn.rcvNxt outstanding) = true) host later →
          ∀ after, later.engine.flowTable.get handle = some after →
            after.state.awaitsFin = true) ∧
        ∀ later, Run.Reaches systemStep (fun host op => op.live = true ∧
            op.ofStream handle (seqAdd conn.rcvNxt outstanding) = true ∧
            host.firesRto handle op = false) host later →
          ∃ after, later.engine.flowTable.get handle = some after ∧
            after.state.awaitsFin = true := by
  refine ⟨?_, fun outstanding positive small => ⟨?_, ?_⟩⟩
  · intro seg clock sendBuf mbufCtx acceptable data short heeds
    have checks := acceptable
    simp only [TcpConn.closeAcceptable, Bool.and_eq_true, Bool.not_eq_true'] at checks
    have noFin := peerHasFin_of_data (rcvWnd_small run handle conn present) checks.1.2 data short
    have silent := (handleClosePath_awaits awaits checks.1.1.1 noFin).2.2 acceptable
    rw [Outcome.heeds, dispatch_of_awaits awaits, silent] at heeds
    rcases heeds with ack | rst | rst
    · cases ack
    · cases rst
    · cases rst
  · intro later run after live
    have stays : ∀ after, later.engine.flowTable.get handle = some after →
        after.state.awaitsFin = true ∧ after.rcvNxt = conn.rcvNxt := by
      apply run.invariant
      · intro after live
        rw [present] at live
        cases live
        exact ⟨awaits, rfl⟩
      · rintro between op before ⟨same, stream⟩ after live
        rcases present_before same live with ⟨middle, there⟩
        rcases before middle there with ⟨waits, still⟩
        rw [← still] at stream
        rcases awaitsFin_step there waits positive small stream with ⟨gone, _⟩ | ⟨next, found, kept⟩
        · rw [gone] at live
          cases live
        · rw [found] at live
          cases live
          exact ⟨kept.1, kept.2.trans still⟩
    exact (stays after live).1
  · intro later run
    have stays : ∃ after, later.engine.flowTable.get handle = some after ∧
        after.state.awaitsFin = true ∧ after.rcvNxt = conn.rcvNxt := by
      apply run.invariant
      · exact ⟨conn, present, awaits, rfl⟩
      · rintro between op ⟨middle, there, waits, still⟩ ⟨lively, stream, silent⟩
        rw [← still] at stream
        rcases awaitsFin_step there waits positive small stream with
          ⟨_, dropped | fires⟩ | ⟨next, found, kept⟩
        · rw [dropped] at lively
          cases lively
        · rw [fires] at silent
          cases silent
        · exact ⟨next, found, kept.1, kept.2.trans still⟩
    rcases stays with ⟨after, live, waits, _⟩
    exact ⟨after, live, waits⟩

end Host

/-! ### One byte under way -/

/-- A piece of the peer's stream. -/
def pieceAt (nowNs : ℕ) (seq ack : Seq) (flags : Flags) (payload : List UInt8) : SystemOp :=
  .call (.segment 1 (peerSegment seq ack flags 5000 payload) none (inputAt nowNs))

/-- The application closes the connection with handle 1 right after the handshake. -/
def closedByUs : Host :=
  (openedWith 5000 ++ [SystemOp.call (.close 1 true 2000)]).foldl Host.systemStep
    (Host.start quickCfg 1 64)

theorem closedByUs_reached :
    Run.Reaches Host.systemStep (fun _ _ => True) (Host.start quickCfg 1 64) closedByUs := by
  have admitted : Run.admits Host.systemStep (fun _ _ => true) (Host.start quickCfg 1 64)
      (openedWith 5000 ++ [SystemOp.call (.close 1 true 2000)]) = true := by decide +kernel
  exact (Run.Reaches.of_admits admitted).mono fun _ _ _ => trivial

theorem closedByUs_awaits :
    (closedByUs.engine.flowTable.get 1).any (fun conn =>
      conn.state.awaitsFin && conn.rcvNxt == 201#32 &&
        conn.closeAcceptable (peerSegment 201#32 102#32 TCP_ACK 5000 [7]) 3000) = true := by
  decide +kernel

/-- A byte and the FIN behind it arrive, and both once more. -/
def pieceTwice : List SystemOp :=
  [pieceAt 3000 201#32 102#32 TCP_ACK [7], pieceAt 3000 202#32 102#32 (TCP_FIN ||| TCP_ACK) [],
    pieceAt 4000 201#32 102#32 (TCP_FIN ||| TCP_ACK) [7]]

theorem fin_wait_swallows_data_pieceTwice :
    ∃ conn, closedByUs.engine.flowTable.get 1 = some conn ∧
      (∀ sendBuf mbufCtx, ¬ (dispatch conn (peerSegment 201#32 102#32 TCP_ACK 5000 [7])
        (Readings.at 3000) sendBuf mbufCtx).outcome.heeds) ∧
      ∃ after, (pieceTwice.foldl Host.systemStep closedByUs).engine.flowTable.get 1 = some after ∧
        after.state.awaitsFin = true := by
  rcases (Option.any_eq_true _ _).mp closedByUs_awaits with ⟨conn, present, all⟩
  simp only [Bool.and_eq_true, beq_iff_eq] at all
  rcases all with ⟨⟨awaits, rcvNxt⟩, acceptable⟩
  rcases Host.fin_wait_swallows_data closedByUs_reached present awaits with ⟨silent, stays⟩
  refine ⟨conn, present, fun sendBuf mbufCtx => ?_, ?_⟩
  · exact silent _ (Readings.at 3000) sendBuf mbufCtx acceptable (by decide) (by decide)
  · have admitted : Run.admits Host.systemStep (fun host op => op.live &&
        (op.ofStream 1 202#32 && !host.firesRto 1 op)) closedByUs pieceTwice = true := by
      decide +kernel
    refine (stays 1 (by decide) (by decide)).2 _ ((Run.Reaches.of_admits admitted).mono ?_)
    intro host op taken
    rw [rcvNxt, show seqAdd 201#32 1 = 202#32 by decide]
    simpa only [Bool.and_eq_true, Bool.not_eq_true'] using taken

/-- The byte is neither taken in nor answered. -/
theorem fin_wait_data_unanswered :
    ¬ ∀ host, Run.Reaches Host.systemStep (fun _ _ => True) (Host.start quickCfg 1 64) host →
      ∀ handle conn, host.engine.flowTable.get handle = some conn →
        conn.state.awaitsFin = true →
        ∀ seg nowNs, conn.closeAcceptable seg nowNs = true → seg.payload ≠ [] →
          (dispatch conn seg (Readings.at nowNs) quickCfg.sendBufferBytes none).outcome.heeds := by
  intro heeds
  rcases (Option.any_eq_true _ _).mp closedByUs_awaits with ⟨conn, present, all⟩
  simp only [Bool.and_eq_true, beq_iff_eq] at all
  have answered := heeds _ closedByUs_reached 1 conn present all.1.1
    (peerSegment 201#32 102#32 TCP_ACK 5000 [7]) 3000 all.2 (by decide)
  have silent : (closedByUs.engine.flowTable.get 1).all (fun conn =>
      (dispatch conn (peerSegment 201#32 102#32 TCP_ACK 5000 [7]) (Readings.at 3000)
        quickCfg.sendBufferBytes none).outcome.tx == .none) = true := by decide +kernel
  rw [present, Option.all_some, beq_iff_eq] at silent
  rw [Outcome.heeds, silent] at answered
  rcases answered with ack | rst | rst
  · cases ack
  · cases rst
  · cases rst

end DpdkTcp
