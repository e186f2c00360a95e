import DpdkTcp.Lifecycle.Machine
import DpdkTcp.Lifecycle.Live

/-!
# The acknowledgment of our FIN

`fin_has_been_acked` asks only that an acknowledgment is not before the number
behind our FIN, while `snd_una` moves only up to `snd_nxt`. The two agree on
every acknowledgment that is not ahead of `snd_nxt`; one that is ahead counts as
an acknowledgment of the FIN and leaves `snd_una` behind it.
-/

namespace DpdkTcp

open Serial

/-- An acknowledgment of numbers never sent, processed where our FIN waits for its own. -/
def TcpConn.ackBeyondFin (conn : TcpConn) (seg : ParsedSegment) (nowNs : ℕ) : Bool :=
  (conn.state = .finWait1 || conn.state = .closing || conn.state = .lastAck) &&
    conn.closeAcceptable seg nowNs && !seqLe seg.ack conn.sndNxt

/-- Both edges stand behind our FIN. -/
def TcpConn.FinDone (conn : TcpConn) : Prop :=
  ∃ fin, conn.ourFinSeq = some fin ∧ conn.sndUna = seqAdd fin 1 ∧ conn.sndNxt = seqAdd fin 1

/-- The segment acknowledges our FIN and nothing behind it. -/
def TcpConn.FinAckedBy (conn : TcpConn) (seg : ParsedSegment) : Prop :=
  ∃ fin, conn.ourFinSeq = some fin ∧ seg.ack = seqAdd fin 1 ∧ conn.sndNxt = seqAdd fin 1

section Segment

variable {life : Life} {conn after : TcpConn} {seg : ParsedSegment} {nowNs : ℕ}
  {target : Option TcpState}

/-- With our FIN sent, `snd_nxt` is the number behind it. -/
theorem Life.Shows.finSeq (shown : life.Shows conn) {fin : Seq}
    (sent : conn.ourFinSeq = some fin) : conn.sndNxt = seqAdd fin 1 := by
  rw [shown.ourFinSeq, Option.map_eq_some_iff] at sent
  rcases sent with ⟨pos, fin_eq, rfl⟩
  rw [shown.sndNxt, life.nxt_eq pos fin_eq, seqAdd_point]

theorem Life.Shows.exists_finSeq (shown : life.Shows conn)
    (sent : conn.state.finSent = true) : ∃ fin, conn.ourFinSeq = some fin := by
  rw [shown.state] at sent
  have alive : life.state ≠ .closed := by
    intro closed
    rw [closed] at sent
    cases sent
  rw [← life.fin_iff alive] at sent
  rcases Option.isSome_iff_exists.mp sent with ⟨pos, fin_eq⟩
  exact ⟨point conn.iss pos, by rw [shown.ourFinSeq, fin_eq]; rfl⟩

theorem eq_of_seqLe_of_not_seqLt {left right : Seq} (atMost : seqLe left right = true)
    (notBefore : seqLt left right = false) : left = right := by
  rw [seqLe, decide_eq_true_iff] at atMost
  rw [seqLt, decide_eq_false_iff_not] at notBefore
  have zero : (left - right).toInt = (0#32).toInt := by
    rw [BitVec.toInt_zero]
    omega
  have same : left - right = 0#32 := BitVec.eq_of_toInt_eq zero
  calc
    left = left - right + right := (BitVec.sub_add_cancel left right).symm
    _ = right := by rw [same, BitVec.zero_add]

/-- What the FIN test accepts is the number behind our FIN, or ahead of `snd_nxt`. -/
theorem Life.Shows.finAckedBy (shown : life.Shows conn)
    (acked : conn.finHasBeenAcked seg.ack = true) (known : seqLe seg.ack conn.sndNxt = true) :
    conn.FinAckedBy seg := by
  unfold TcpConn.finHasBeenAcked at acked
  split at acked
  · rename_i fin sent
    have next := shown.finSeq sent
    rw [next] at known
    refine ⟨fin, sent, eq_of_seqLe_of_not_seqLt known ?_, next⟩
    simpa using acked
  · cases acked

/-- An acknowledgment of `snd_nxt` leaves nothing in flight. -/
theorem Life.Shows.unaAfter_sndNxt (shown : life.Shows conn) :
    conn.unaAfter conn.sndNxt = conn.sndNxt := by
  have near := life.near
  have ordered := life.una_le
  unfold TcpConn.unaAfter
  split
  · rfl
  · rename_i stays
    rw [shown.sndUna, shown.sndNxt] at stays ⊢
    rw [seqLt_point conn.iss (by omega) (by omega), seqLe_point conn.iss (by omega) (by omega)]
      at stays
    have equal : life.una = life.nxt := by
      simp only [Bool.and_eq_true, decide_eq_true_eq] at stays
      omega
    rw [equal]

/-- The states a connection closes through, and the acknowledgment each of them takes. -/
theorem closeTransition_acked {state next : TcpState} {finAcked peerHasFin : Bool}
    (decided : (closeTransition state finAcked peerHasFin).1 = some next) :
    next = .finWait2 ∨ next = .timeWait ∨ next = .closed →
      (state = .finWait1 ∨ state = .closing ∨ state = .lastAck) ∧ finAcked = true ∨
        state = .finWait2 ∧ next = .timeWait := by
  cases state <;> cases finAcked <;> cases peerHasFin <;>
    simp [closeTransition] at decided <;> subst decided <;> simp

/-- A dispatch that takes our FIN for acknowledged has its acknowledgment. -/
theorem DispatchEnds.finAckedBy (ends : DispatchEnds conn seg nowNs after target)
    (shown : life.Shows conn) (sent : conn.ackBeyondFin seg nowNs = false) {next : TcpState}
    (decided : target = some next)
    (reached : next = .finWait2 ∨ next = .timeWait ∨ next = .closed) :
    conn.FinAckedBy seg ∧ after.sndUna = conn.sndNxt ∨
      conn.state = .finWait2 ∧ next = .timeWait ∧ after.sndUna = conn.unaAfter seg.ack ∨
      next = .closed ∧ (seg.flags.has TCP_RST = true ∨ conn.state = .synSent) := by
  cases ends with
  | ignored _ _ => cases decided
  | reset cause _ _ =>
      cases decided
      exact Or.inr (Or.inr ⟨rfl, cause⟩)
  | opened _ _ _ _ _ =>
      cases decided
      simp at reached
  | running _ _ _ _ _ _ choice =>
      rcases choice with rfl | rfl <;> cases decided
      simp at reached
  | closing _ acceptable sndUna _ =>
      rcases closeTransition_acked decided reached with ⟨waiting, acked⟩ | ⟨waiting, next_eq⟩
      · left
        have known : seqLe seg.ack conn.sndNxt = true := by
          simp only [TcpConn.ackBeyondFin, acceptable, Bool.and_true, Bool.and_eq_false_iff,
            Bool.not_eq_false', Bool.or_eq_false_iff, decide_eq_false_iff_not] at sent
          tauto
        rcases shown.finAckedBy acked known with ⟨fin, sent, ack, next⟩
        refine ⟨⟨fin, sent, ack, next⟩, ?_⟩
        rw [sndUna, ack, ← next]
        exact shown.unaAfter_sndNxt
      · exact Or.inr (Or.inl ⟨waiting, next_eq, sndUna⟩)

theorem DispatchEnds.closed_of_lastAck (ends : DispatchEnds conn seg nowNs after target)
    (last : conn.state = .lastAck) {next : TcpState} (decided : target = some next) :
    next = .closed := by
  cases ends with
  | ignored _ _ => cases decided
  | reset _ _ _ => exact (Option.some.inj decided).symm
  | opened opening _ _ _ _ =>
      rw [last] at opening
      cases opening
  | running running _ _ _ _ _ _ =>
      rw [last] at running
      cases running
  | closing _ _ _ _ =>
      rw [last] at decided
      cases acked : conn.finHasBeenAcked seg.ack <;> rw [acked] at decided
      · cases decided
      · exact (Option.some.inj decided).symm

end Segment

/-! ### Runs -/

/-- Nothing is in flight in the states behind the acknowledgment of our FIN. -/
def TcpConn.FinSettled (conn : TcpConn) : Prop :=
  conn.state = .finWait2 ∨ conn.state = .timeWait → conn.sndUna = conn.sndNxt

theorem KeptAs.finSettled {entries : List RetransEntry} {mid after : TcpConn}
    (kept : KeptAs entries mid after) (settled : mid.FinSettled) : after.FinSettled := by
  intro waiting
  have same : after.state = mid.state := by
    refine kept.closes.resolve_right ?_
    intro closed
    rw [closed] at waiting
    simp at waiting
  rw [same] at waiting
  rw [kept.only]
  exact settled waiting

/-- With nothing in flight, no acknowledgment beside `snd_nxt` moves an edge. -/
theorem Life.Shows.nothingInFlight {life middle : Life} {conn after : TcpConn}
    (shown : life.Shows conn) (settled : conn.sndUna = conn.sndNxt) (later : middle.Shows after)
    (forward : life.una ≤ middle.una) (nxt : middle.nxt = life.nxt) :
    after.sndUna = after.sndNxt := by
  have flight := shown.flight
  rw [settled, BitVec.sub_self] at flight
  have zero : 0 = life.nxt - life.una := flight
  have ordered := middle.una_le
  have same : middle.una = middle.nxt := by omega
  rw [later.sndUna, later.sndNxt, same]

theorem Life.Shows.finSettled {cfg : EngineConfig} {life : Life} {conn after : TcpConn}
    {seg : ParsedSegment} {nowNs : ℕ} {target : Option TcpState} (shown : life.Shows conn)
    (bounded : Bounded cfg conn) (settled : conn.FinSettled) (numbers : SameNumbers conn after)
    (irs : conn.state.synchronized = true → after.irs = conn.irs)
    (ends : DispatchEnds conn seg nowNs after target)
    (beside : conn.ackOpposite seg nowNs = false) (sent : conn.ackBeyondFin seg nowNs = false) :
    (after.enter (target.getD conn.state)).FinSettled := by
  intro waiting
  by_cases waited : conn.state = .finWait2 ∨ conn.state = .timeWait
  · rcases shown.ends bounded numbers irs ends beside with ⟨middle, later, _, forward, nxt⟩
    exact shown.nothingInFlight (settled waited) later forward nxt
  · dsimp only [TcpConn.enter] at waiting ⊢
    rw [numbers.sndNxt]
    cases decided : target with
    | none =>
        rw [decided] at waiting
        exact absurd waiting waited
    | some next =>
        rw [decided] at waiting
        rcases ends.finAckedBy shown sent decided
            (waiting.elim Or.inl fun late => Or.inr (Or.inl late)) with
          ⟨_, acked⟩ | ⟨state, _⟩ | ⟨closed, _⟩
        · exact acked
        · exact absurd (Or.inl state) waited
        · rw [closed] at waiting
          simp at waiting

namespace Host

/-- No processed acknowledgment lies exactly half the number space from
`snd_nxt`, and none is ahead of `snd_nxt` where our FIN waits for its own. -/
def acksSent (host : Host) (op : EngineOp) : Bool :=
  host.acksBeside op &&
    match op with
    | .segment handle seg _ env =>
        (host.engine.flowTable.get handle).all fun conn => !conn.ackBeyondFin seg env.clock.paws
    | _ => true

/-- Every connection is followed, and settled once our FIN is acknowledged. -/
structure Settled (host : Host) : Prop where
  followed : host.Followed
  settled : ∀ handle conn, host.engine.flowTable.get handle = some conn → conn.FinSettled

theorem acksSent_segment {host : Host} {handle : ConnHandle} {seg : ParsedSegment}
    {mbufCtx : Option MbufInsertCtx} {env : InputEnv} {conn : TcpConn}
    (sent : host.acksSent (.segment handle seg mbufCtx env) = true)
    (present : host.engine.flowTable.get handle = some conn) :
    conn.ackOpposite seg env.clock.paws = false ∧ conn.ackBeyondFin seg env.clock.paws = false := by
  simpa [acksSent, acksBeside, present] using sent

theorem Settled.step {host : Host} (before : host.Settled) {op : EngineOp}
    (sent : host.acksSent op = true) : (host.step op).Settled := by
  have beside : host.acksBeside op = true := (Bool.and_eq_true_iff.mp sent).1
  refine ⟨before.followed.step beside, ?_⟩
  intro handle conn' live
  have step := host.step_conns op live
  cases present : host.engine.flowTable.get handle with
  | none =>
      rw [present] at step
      cases step with
      | opening opening =>
          refine opening.finSettled ?_
          intro waiting
          simp [TcpConn.enter] at waiting
  | some conn =>
      have settled := before.settled handle conn present
      rcases before.followed handle conn present with ⟨bounded, life, shown⟩
      rw [present] at step
      cases step with
      | kept kept => exact kept.finSettled settled
      | sent running news sent =>
          rcases sent.kept with ⟨refused, kept⟩
          refine kept.finSettled ?_
          intro waiting
          simp [TcpConn.sentUpTo, running] at waiting
      | fin running sent _ =>
          refine KeptAs.finSettled sent ?_
          intro waiting
          rcases conn.finSent_state with state | state <;> simp [state] at waiting
      | segment dispatched processed kept =>
          subst processed
          rcases acksSent_segment sent present with ⟨apart, known⟩
          refine kept.finSettled (shown.finSettled bounded settled ?_ ?_ ?_ apart known)
          · exact dispatch_sameNumbers conn _ _ _ _
          · intro running
            refine (dispatch_sameOwner ?_ _ _ _ _).irs
            intro opening
            rw [opening] at running
            cases running
          · exact dispatch_ends conn _ _ _ _

theorem settled_of_reaches {cfg : EngineConfig} {maxConnections eventSoftCap : ℕ} {host : Host}
    (run : Run.Reaches Host.step (fun host op => host.acksSent op = true)
      (Host.start cfg maxConnections eventSoftCap) host) : host.Settled := by
  refine run.invariant ⟨followed_start cfg maxConnections eventSoftCap, ?_⟩ ?_
  · intro handle conn live
    rw [get_start] at live
    cases live
  · intro host op before sent
    exact before.step sent

/-- A step that takes our FIN for acknowledged is a segment with its acknowledgment. -/
theorem Settled.finAckedBy {host : Host} (before : host.Settled) {op : EngineOp}
    (sent : host.acksSent op = true) {handle : ConnHandle} {conn : TcpConn}
    (present : host.engine.flowTable.get handle = some conn) {stop : Option TcpState}
    (after : (host.step op).engine.stateAt handle = stop)
    (moved : stop = some .finWait2 ∧ conn.state ≠ .finWait2 ∨
      stop = some .timeWait ∧ (conn.state = .finWait1 ∨ conn.state = .closing) ∨
      stop ≠ some .lastAck ∧ conn.state = .lastAck) :
    (∃ seg mbufCtx env, op = .segment handle seg mbufCtx env ∧
      (conn.FinAckedBy seg ∨ conn.state = .lastAck ∧ seg.flags.has TCP_RST = true)) ∨
    conn.state = .lastAck ∧ ∃ env, op = .fireNext env := by
  rcases before.followed handle conn present with ⟨bounded, life, shown⟩
  have step := host.step_stateAt op present
  rw [after] at step
  cases step with
  | kept =>
      rcases moved with ⟨same, other⟩ | ⟨same, other⟩ | ⟨other, same⟩
      · exact absurd (Option.some.inj same) other
      · rw [Option.some.inj same] at other
        simp at other
      · exact absurd (congrArg some same) other
  | fin running =>
      rcases conn.finSent_state with state | state <;> rw [state] at moved
      · rcases running with running | running <;> simp [running] at moved
      · rcases running with running | running <;> simp [running] at moved
  | segment seg mbufCtx env =>
      left
      refine ⟨seg, mbufCtx, env, rfl, ?_⟩
      have ends := dispatch_ends conn seg env.clock host.engine.cfg.sendBufferBytes mbufCtx
      have known := (acksSent_segment sent present).2
      generalize dispatch conn seg env.clock host.engine.cfg.sendBufferBytes mbufCtx = dispatched
        at moved ends
      dsimp only [Outcome.stateAfter] at moved
      cases decided : dispatched.outcome.newState with
      | none =>
          rw [decided, if_neg (by simp), Option.getD_none] at moved
          rcases moved with ⟨same, other⟩ | ⟨same, other⟩ | ⟨other, same⟩
          · exact absurd (Option.some.inj same) other
          · rw [Option.some.inj same] at other
            simp at other
          · exact absurd (congrArg some same) other
      | some next =>
          have reached : next = .finWait2 ∨ next = .timeWait ∨ next = .closed := by
            rw [decided] at moved
            rcases moved with ⟨same, _⟩ | ⟨same, _⟩ | ⟨_, last⟩
            · split at same
              · cases same
              · exact Or.inl (Option.some.inj same)
            · split at same
              · cases same
              · exact Or.inr (Or.inl (Option.some.inj same))
            · exact Or.inr (Or.inr (ends.closed_of_lastAck last decided))
          rcases ends.finAckedBy shown known decided reached with
            ⟨acked, _⟩ | ⟨waiting, late, _⟩ | ⟨closed, cause⟩
          · exact Or.inl acked
          · rw [decided, late, waiting] at moved
            simp at moved
          · rw [decided, closed] at moved
            have last : conn.state = .lastAck := by simpa using moved
            exact Or.inr ⟨last, cause.resolve_right (by rw [last]; decide)⟩
  | timer env =>
      right
      simp at moved
      exact ⟨moved, env, rfl⟩
  | reaped nowNs expired =>
      simp at moved
      simp [Engine.expired, moved] at expired

end Host

/-- In every run in which no processed acknowledgment lies exactly half the
number space from `snd_nxt`, and none is ahead of `snd_nxt` where our FIN waits
for its own: in FIN_WAIT_2 and TIME_WAIT both edges stand behind our FIN, and
the steps that take the FIN for acknowledged are segments that acknowledge it and
nothing behind it. From LAST_ACK a connection goes on such a segment, on a RST or
on a timer. -/
theorem fin_acked_only_by_its_ack {cfg : EngineConfig} {maxConnections eventSoftCap : ℕ}
    {host : Host}
    (run : Run.Reaches Host.step (fun host op => host.acksSent op = true)
      (Host.start cfg maxConnections eventSoftCap) host) :
    (∀ handle conn, host.engine.flowTable.get handle = some conn →
        conn.state = .finWait2 ∨ conn.state = .timeWait → conn.FinDone) ∧
      ∀ op, host.acksSent op = true → ∀ handle conn,
        host.engine.flowTable.get handle = some conn →
        ∀ stop, (host.step op).engine.stateAt handle = stop →
        (stop = some .finWait2 ∧ conn.state ≠ .finWait2 ∨
            stop = some .timeWait ∧ (conn.state = .finWait1 ∨ conn.state = .closing) ∨
            stop ≠ some .lastAck ∧ conn.state = .lastAck) →
          (∃ seg mbufCtx env, op = .segment handle seg mbufCtx env ∧
            (conn.FinAckedBy seg ∨ conn.state = .lastAck ∧ seg.flags.has TCP_RST = true)) ∨
          conn.state = .lastAck ∧ ∃ env, op = .fireNext env := by
  have settled := Host.settled_of_reaches run
  constructor
  · intro handle conn present waiting
    rcases settled.followed handle conn present with ⟨_, life, shown⟩
    have finSent : conn.state.finSent = true := by
      rcases waiting with waiting | waiting <;> rw [waiting] <;> rfl
    rcases shown.exists_finSeq finSent with ⟨fin, fin_eq⟩
    have next := shown.finSeq fin_eq
    exact ⟨fin, fin_eq, (settled.settled handle conn present waiting).trans next, next⟩
  · intro op sent handle conn present stop after moved
    exact settled.finAckedBy sent present after moved

/-- Both sides close at once, and each acknowledges the other's FIN. -/
def closedTogether : List EngineOp :=
  handshake ++ [.close 1 true 2000, receiveAt 3000 201#32 101#32 (TCP_FIN ||| TCP_ACK),
    receiveAt 4000 202#32 102#32 TCP_ACK]

theorem fin_acked_only_by_its_ack_closedTogether :
    ((Host.after closedTogether).engine.flowTable.get 1).any (fun conn =>
        conn.state = .timeWait) = true ∧
      (∀ handle conn, (Host.after closedTogether).engine.flowTable.get handle = some conn →
        conn.state = .finWait2 ∨ conn.state = .timeWait → conn.FinDone) ∧
      ∀ op, (Host.after closedTogether).acksSent op = true → ∀ handle conn,
        (Host.after closedTogether).engine.flowTable.get handle = some conn →
        ∀ stop, ((Host.after closedTogether).step op).engine.stateAt handle = stop →
        (stop = some .finWait2 ∧ conn.state ≠ .finWait2 ∨
            stop = some .timeWait ∧ (conn.state = .finWait1 ∨ conn.state = .closing) ∨
            stop ≠ some .lastAck ∧ conn.state = .lastAck) →
          (∃ seg mbufCtx env, op = .segment handle seg mbufCtx env ∧
            (conn.FinAckedBy seg ∨ conn.state = .lastAck ∧ seg.flags.has TCP_RST = true)) ∨
          conn.state = .lastAck ∧ ∃ env, op = .fireNext env :=
  ⟨by decide +kernel, fin_acked_only_by_its_ack
    (Run.Reaches.of_admits (by decide +kernel :
      Run.admits Host.step Host.acksSent (Host.start quickCfg 1 64) closedTogether = true))⟩

/-- Three bytes and a FIN are in flight when an acknowledgment ahead of all of them arrives. -/
def ackedAhead : List EngineOp :=
  handshake ++ [sendAt 2000 [1, 2, 3] 1, .close 1 true 3000,
    receiveAt 4000 201#32 106#32 TCP_ACK]

/-- The connection goes on to FIN_WAIT_2 with everything still in flight. -/
theorem ack_ahead_counts_for_fin :
    ¬ ∀ host, Run.Reaches Host.step (fun _ _ => True) (Host.start quickCfg 1 64) host →
      ∀ handle conn, host.engine.flowTable.get handle = some conn →
        conn.state = .finWait2 ∨ conn.state = .timeWait → conn.FinDone := by
  intro done
  have live : ((Host.after ackedAhead).engine.flowTable.get 1).any (fun conn =>
      decide (conn.state = .finWait2 ∧ conn.sndUna = 101#32 ∧ conn.sndNxt = 105#32)) = true := by
    decide +kernel
  rcases (Option.any_eq_true _ _).mp live with ⟨conn, present, facts⟩
  rcases of_decide_eq_true facts with ⟨state, sndUna, sndNxt⟩
  rcases done _ (Host.after_reached ackedAhead) 1 conn present (Or.inl state) with
    ⟨fin, _, una, nxt⟩
  have equal : 101#32 = 105#32 := by rw [← sndUna, ← sndNxt, una, nxt]
  exact absurd equal (by decide)

end DpdkTcp
