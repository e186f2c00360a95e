import DpdkTcp.Wakeup.Wake

/-!
# The FIN of the peer is counted once

`handle_close_path` moves `rcv_nxt` over any FIN that ends where `rcv_nxt`
stands, before it looks at the state. In a state that has the peer's FIN behind
it, a further FIN one number later is taken once more. Without such a segment
`rcv_nxt` stands still until the connection is gone.
-/

namespace DpdkTcp

/-- The states that have the peer's FIN behind them. -/
def TcpState.finTaken : TcpState → Bool
  | .closeWait | .closing | .lastAck | .timeWait => true
  | .closed | .listen | .synSent | .synReceived | .established | .finWait1 | .finWait2 => false

/-- The closing handler takes a FIN from the segment. -/
def TcpConn.takesFin (conn : TcpConn) (seg : ParsedSegment) (nowNs : ℕ) : Bool :=
  conn.state.isClosing && conn.closeAcceptable seg nowNs && conn.peerHasFin seg

namespace Host

/-- The step hands a connection a segment with a FIN that the closing handler takes. -/
def takesFin (host : Host) (handle : ConnHandle) : SystemOp → Bool
  | .call (.segment target seg _ env) =>
      decide (target = handle) &&
        (host.engine.flowTable.get handle).any fun conn => conn.takesFin seg env.clock.paws
  | _ => false

end Host

section Dispatch

variable {conn : TcpConn} {seg : ParsedSegment} {clock : Readings}

/-- A segment that passes the checks of the closing handler moves `rcv_nxt` over its FIN. -/
theorem handleClosePath_rcvNxt (waiting : conn.state ≠ .timeWait)
    (acceptable : conn.closeAcceptable seg clock.paws = true) :
    (handleClosePath conn seg clock).conn.rcvNxt =
      seqAdd conn.rcvNxt (conn.peerHasFin seg).toNat := by
  rcases handleClosePath_of_acceptable waiting acceptable with
    ⟨sacked, receive, _, advanced, _, _⟩
  rw [advanced, closeAdvance_only]
  dsimp only [TcpConn.peerHasFin]
  rw [receive.rcvNxt]
  cases seg.fin && seqAdd seg.seq seg.payload.length == conn.rcvNxt with
  | true => rfl
  | false => exact (seqAdd_zero _).symm

/-- Behind the peer's FIN: the state says so, or the connection is over. -/
def TcpConn.BehindFin (conn : TcpConn) : Prop :=
  conn.state.finTaken = true ∨ conn.state = .closed

/-- Behind the peer's FIN, `rcv_nxt` moves exactly over the FINs the handler takes again. -/
theorem dispatch_rcvNxt (behind : conn.BehindFin) (sendBuf : ℕ) (mbufCtx : Option MbufInsertCtx) :
    (dispatch conn seg clock sendBuf mbufCtx).conn.rcvNxt =
      seqAdd conn.rcvNxt (conn.takesFin seg clock.paws).toNat := by
  have idle : (handleClosePath conn seg clock).conn = conn →
      conn.takesFin seg clock.paws = false →
      (handleClosePath conn seg clock).conn.rcvNxt =
        seqAdd conn.rcvNxt (conn.takesFin seg clock.paws).toNat := by
    intro same refused
    rw [same, refused]
    exact (seqAdd_zero _).symm
  have closing : (conn.state ≠ .timeWait → conn.state.isClosing = true) →
      (handleClosePath conn seg clock).conn.rcvNxt =
        seqAdd conn.rcvNxt (conn.takesFin seg clock.paws).toNat := by
    intro running
    cases acceptable : conn.closeAcceptable seg clock.paws with
    | false =>
        refine idle (handleClosePath_of_not_acceptable acceptable).1 ?_
        simp [TcpConn.takesFin, acceptable]
    | true =>
        by_cases waiting : conn.state = .timeWait
        · refine idle ?_ (by simp [TcpConn.takesFin, waiting, TcpState.isClosing])
          rcases (handleClosePath_cases conn seg clock).2 with ⟨same, _⟩ | ⟨differs, _⟩
          · exact same
          · exact absurd waiting differs
        · rw [handleClosePath_rcvNxt waiting acceptable]
          simp [TcpConn.takesFin, running waiting, acceptable]
  unfold dispatch
  rcases behind with taken | closed
  · have running : conn.state ≠ .timeWait → conn.state.isClosing = true := by
      intro waiting
      revert taken waiting
      cases conn.state <;> simp [TcpState.finTaken, TcpState.isClosing]
    have same := closing running
    revert taken
    cases conn.state with
    | closeWait | closing | lastAck | timeWait => exact fun _ => same
    | closed | listen | synSent | synReceived | established | finWait1 | finWait2 => rintro ⟨⟩
  · rw [closed, TcpConn.takesFin, closed]
    exact (seqAdd_zero _).symm

end Dispatch

/-- A state with the peer's FIN behind it leads to another one, or to the end. -/
theorem closeTransition_finTaken {state target : TcpState} {finAcked peerHasFin : Bool}
    (taken : state.finTaken = true)
    (decided : (closeTransition state finAcked peerHasFin).1 = some target) :
    target.finTaken = true ∨ target = .closed := by
  cases state <;> first
    | (cases taken; done)
    | (cases finAcked <;> cases peerHasFin <;> cases decided <;> simp [TcpState.finTaken])

section Dispatch

variable {conn : TcpConn}

theorem dispatch_behindFin (behind : conn.BehindFin) (seg : ParsedSegment) (clock : Readings)
    (sendBuf : ℕ) (mbufCtx : Option MbufInsertCtx) {target : TcpState}
    (decided : (dispatch conn seg clock sendBuf mbufCtx).outcome.newState = some target) :
    target.finTaken = true ∨ target = .closed := by
  have ends := dispatch_ends conn seg clock sendBuf mbufCtx
  have unopened : conn.state ≠ .synSent ∧ conn.state ≠ .established := by
    rcases behind with taken | closed
    · constructor <;> rintro state <;> rw [state] at taken <;> cases taken
    · rw [closed]
      exact ⟨nofun, nofun⟩
  rw [decided] at ends
  generalize decision : some target = newState at ends
  cases ends with
  | ignored => cases decision
  | reset =>
      cases decision
      exact Or.inr rfl
  | opened opening => exact absurd opening unopened.1
  | running state => exact absurd state unopened.2
  | closing state _ _ _ =>
      rcases behind with taken | closed
      · exact closeTransition_finTaken taken decision.symm
      · rw [closed] at state
        cases state

/-- What the engine keeps of a connection stays behind the FIN, at the same `rcv_nxt`. -/
theorem KeptAs.behindFin {entries : List RetransEntry} {after : TcpConn}
    (kept : KeptAs entries conn after) (behind : conn.BehindFin) :
    after.BehindFin ∧ after.rcvNxt = conn.rcvNxt := by
  refine ⟨?_, by rw [kept.only]⟩
  rcases kept.closes with same | closed
  · rw [TcpConn.BehindFin, same]
    exact behind
  · exact Or.inr closed

end Dispatch

namespace Host

variable {host : Host} {handle : ConnHandle} {conn after : TcpConn}

theorem segment_behindFin {target : ConnHandle} {seg : ParsedSegment}
    {mbufCtx : Option MbufInsertCtx} {env : InputEnv}
    (present : host.engine.flowTable.get handle = some conn) (behind : conn.BehindFin)
    (live : (host.step (.segment target seg mbufCtx env)).engine.flowTable.get handle =
      some after) :
    after.BehindFin ∧ after.rcvNxt = seqAdd conn.rcvNxt
      (host.takesFin handle (.call (.segment target seg mbufCtx env))).toNat := by
  rcases Engine.tcpInput_written host.engine target seg mbufCtx env live with
    ⟨_, present', ⟨differs, kept⟩ | ⟨rfl, dispatched, processed, kept⟩⟩
  · rw [present] at present'
    cases present'
    rcases kept.behindFin behind with ⟨still, same⟩
    refine ⟨still, same.trans ?_⟩
    rw [takesFin, decide_eq_false (Ne.symm differs)]
    exact (seqAdd_zero _).symm
  · rw [present] at present'
    cases present'
    have entered : (dispatched.conn.enter
        (dispatched.outcome.newState.getD conn.state)).BehindFin := by
      cases decided : dispatched.outcome.newState with
      | none => exact behind
      | some target =>
          rw [processed] at decided
          exact dispatch_behindFin behind seg env.clock _ mbufCtx decided
    rcases kept.behindFin entered with ⟨still, same⟩
    refine ⟨still, same.trans ?_⟩
    rw [takesFin, present, decide_eq_true rfl, processed]
    exact dispatch_rcvNxt behind _ mbufCtx

/-- A step that does not open the connection anew leaves it behind the FIN, and moves
`rcv_nxt` over a FIN that is taken once more. -/
theorem behindFin_step {op : SystemOp} (present : host.engine.flowTable.get handle = some conn)
    (behind : conn.BehindFin)
    (live : (host.systemStep op).engine.flowTable.get handle = some after) :
    after.BehindFin ∧ after.rcvNxt = seqAdd conn.rcvNxt (host.takesFin handle op).toNat := by
  have kept : ∀ {entries : List RetransEntry}, host.takesFin handle op = false →
      KeptAs entries conn after →
      after.BehindFin ∧ after.rcvNxt = seqAdd conn.rcvNxt (host.takesFin handle op).toNat := by
    intro entries beside kept
    rcases kept.behindFin behind with ⟨still, same⟩
    rw [beside]
    exact ⟨still, same.trans (seqAdd_zero _).symm⟩
  cases op with
  | call op =>
      have step : ConnStep host.engine op handle (some conn) after :=
        present ▸ host.step_conns op live
      cases op with
      | segment target seg mbufCtx env => exact segment_behindFin present behind live
      | close target finSent nowNs =>
          cases step with
          | kept same => exact kept rfl same
          | fin running sent state =>
              have waiting : conn.state = .closeWait := by
                rcases running with established | waiting
                · rcases behind with taken | closed
                  · rw [established] at taken
                    cases taken
                  · rw [closed] at established
                    cases established
                · exact waiting
              refine ⟨Or.inl ?_, ?_⟩
              · rw [state, TcpConn.finSent, waiting]
                rfl
              · rw [sent.only]
                exact (seqAdd_zero _).symm
      | send target bytes envs tlpNs =>
          cases step with
          | kept same => exact kept rfl same
          | sent running news sent =>
              rcases behind with taken | closed
              · rw [running] at taken
                cases taken
              · rw [closed] at running
                cases running
      | connect | advance | fireNext | flush | reap | twSkip =>
          cases step with
          | kept same => exact kept rfl same
  | complete index =>
      rw [systemStep, completeFrame_flowTable, present] at live
      cases live
      exact kept rfl (Kept.refl conn)
  | drainEvents max =>
      have same : host.engine.flowTable.get handle = some after := live
      rw [present] at same
      cases same
      exact kept rfl (Kept.refl conn)
  | drop =>
      rw [systemStep, drop_get] at live
      cases live

/-- In every run that takes no further FIN, `rcv_nxt` stands still behind the peer's FIN;
the next step moves it exactly if it takes one. -/
theorem peer_fin_counted_once {later : Host}
    (present : host.engine.flowTable.get handle = some conn)
    (taken : conn.state.finTaken = true)
    (run : Run.Reaches systemStep (fun host op =>
      host.opens op handle = false ∧ host.takesFin handle op = false) host later)
    (found : later.engine.flowTable.get handle = some after) :
    after.rcvNxt = conn.rcvNxt ∧
      ∀ op next, (later.systemStep op).engine.flowTable.get handle = some next →
        (next.rcvNxt = conn.rcvNxt ↔ later.takesFin handle op = false) := by
  have stays : ∀ after, later.engine.flowTable.get handle = some after →
      after.BehindFin ∧ after.rcvNxt = conn.rcvNxt := by
    apply run.invariant
    · intro after live
      rw [present] at live
      cases live
      exact ⟨Or.inl taken, rfl⟩
    · rintro between op before ⟨same, beside⟩ after live
      rcases present_before same live with ⟨middle, there⟩
      rcases before middle there with ⟨behind, still⟩
      rcases behindFin_step there behind live with ⟨further, moved⟩
      rw [beside] at moved
      exact ⟨further, (moved.trans (seqAdd_zero _)).trans still⟩
  rcases stays after found with ⟨behind, still⟩
  refine ⟨still, fun op next live => ?_⟩
  rw [(behindFin_step found behind live).2, still]
  cases later.takesFin handle op with
  | false => exact iff_of_true (seqAdd_zero _) rfl
  | true =>
      refine iff_of_false (fun same => ?_) nofun
      exact seqAdd_succ_ne conn.rcvNxt 0 ((seqAdd_zero _).trans same.symm)

end Host

/-! ### A second FIN -/

/-- A FIN without data. -/
def finAt (seq : Seq) : SystemOp :=
  .call (.segment 1
    { synAck 100#32 seq 5000 with flags := TCP_FIN ||| TCP_ACK } none (inputAt 2000))

/-- The peer closes the connection with handle 1 right after the handshake. -/
def closedByPeer : Host :=
  (openedWith 5000 ++ [finAt 201#32]).foldl Host.systemStep (Host.start quickCfg 1 64)

theorem closedByPeer_taken :
    (closedByPeer.engine.flowTable.get 1).any (fun conn =>
      conn.state.finTaken && conn.rcvNxt == 202#32) = true := by
  decide +kernel

/-- The FIN is sent again. -/
theorem peer_fin_counted_once_repeated :
    ∃ conn, closedByPeer.engine.flowTable.get 1 = some conn ∧
      ∀ after, (closedByPeer.systemStep (finAt 201#32)).engine.flowTable.get 1 = some after →
        after.rcvNxt = conn.rcvNxt ∧
          ∀ op next, ((closedByPeer.systemStep (finAt 201#32)).systemStep op).engine.flowTable.get
              1 = some next →
            (next.rcvNxt = conn.rcvNxt ↔
              (closedByPeer.systemStep (finAt 201#32)).takesFin 1 op = false) := by
  rcases (Option.any_eq_true _ _).mp closedByPeer_taken with ⟨conn, present, both⟩
  refine ⟨conn, present, fun after found => ?_⟩
  have beside : closedByPeer.opens (finAt 201#32) 1 = false ∧
      closedByPeer.takesFin 1 (finAt 201#32) = false := by decide +kernel
  exact Host.peer_fin_counted_once present (Bool.and_eq_true_iff.mp both).1
    (.tail (finAt 201#32) .refl beside) found

/-- In CLOSE_WAIT, a FIN one number later is taken as well. -/
theorem peer_fin_counted_twice :
    ¬ ∀ host handle conn, host.engine.flowTable.get handle = some conn →
        conn.state.finTaken = true →
        ∀ later, Run.Reaches Host.systemStep (fun host op => host.opens op handle = false) host
          later →
        ∀ after, later.engine.flowTable.get handle = some after → after.rcvNxt = conn.rcvNxt := by
  intro once
  rcases (Option.any_eq_true _ _).mp closedByPeer_taken with ⟨conn, present, both⟩
  have moved : ((closedByPeer.systemStep (finAt 202#32)).engine.flowTable.get 1).any (fun conn =>
      conn.rcvNxt == 203#32) = true := by decide +kernel
  have beside : closedByPeer.opens (finAt 202#32) 1 = false := by decide +kernel
  rcases (Option.any_eq_true _ _).mp moved with ⟨after, live, further⟩
  have still := once _ 1 conn present (Bool.and_eq_true_iff.mp both).1 _
    (.tail (finAt 202#32) .refl beside) after live
  rw [eq_of_beq further, eq_of_beq (Bool.and_eq_true_iff.mp both).2] at still
  exact absurd still (by decide)

end DpdkTcp
