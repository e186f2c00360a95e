import DpdkTcp.Lifecycle.Dispatch
import DpdkTcp.Send.Acked

/-!
# The life of a connection

A connection as RFC 9293 sees it: a state of the diagram, and positions in the
two streams that are counted without bound from the initial numbers. Every step
of the engine is a step of this machine, with one exception: an acknowledgment
exactly half the number space from `snd_nxt` is on both sides of it for the
wrapping comparisons, and is accepted when nothing is in flight.
-/

namespace DpdkTcp

open Serial

/-- The edges of the diagram a client can take, with those to CLOSED. -/
inductive TcpState.Edge : TcpState → TcpState → Prop where
  | stay (state : TcpState) : Edge state state
  | abort (state : TcpState) : Edge state .closed
  | synAckReceived : Edge .synSent .established
  | finReceived : Edge .established .closeWait
  | closed : Edge .established .finWait1
  | closedToo : Edge .closeWait .lastAck
  | finAcked : Edge .finWait1 .finWait2
  | crossed : Edge .finWait1 .closing
  | finAckedAndReceived : Edge .finWait1 .timeWait
  | finReceivedLater : Edge .finWait2 .timeWait
  | finAckedLater : Edge .closing .timeWait

/-- The states in which our FIN is sent. -/
def TcpState.finSent : TcpState → Bool
  | .finWait1 | .finWait2 | .closing | .lastAck | .timeWait => true
  | _ => false

/-- The abstract connection. The positions `una`, `nxt` and `fin` are counted
from our initial number, `rcv` from the peer's. -/
structure Life where
  state : TcpState
  una : ℕ
  nxt : ℕ
  fin : Option ℕ
  rcv : ℕ
  una_le : una ≤ nxt
  near : nxt < una + 2 ^ 31
  fin_iff : state ≠ .closed → fin.isSome = state.finSent
  nxt_eq : ∀ pos ∈ fin, nxt = pos + 1

namespace Life

/-- The connection carries the numbers of these positions. -/
structure Shows (life : Life) (conn : TcpConn) : Prop where
  state : conn.state = life.state
  sndUna : conn.sndUna = point conn.iss life.una
  sndNxt : conn.sndNxt = point conn.iss life.nxt
  ourFinSeq : conn.ourFinSeq = life.fin.map (point conn.iss)
  rcvNxt : conn.state.synchronized = true → conn.rcvNxt = point conn.irs life.rcv

/-- A step of the abstract connection, which takes at most `limit` numbers of the peer's. -/
structure Advance (limit : ℕ) (before after : Life) : Prop where
  edge : before.state.Edge after.state
  una : before.una ≤ after.una
  nxt : before.nxt ≤ after.nxt
  rcv : before.state.synchronized = true →
    before.rcv ≤ after.rcv ∧ after.rcv ≤ before.rcv + limit

end Life

/-- What bounds the numbers in flight. -/
structure Bounded (cfg : EngineConfig) (conn : TcpConn) : Prop where
  sndWnd : conn.sndWnd < 2 ^ 30
  wsShiftIn : conn.wsShiftIn ≤ 14
  flight : (conn.sndNxt - conn.sndUna).toNat ≤ 2 ^ 30 + conn.ourFinSeq.isSome.toNat
  opening : conn.state = .synSent → conn.sndNxt = seqAdd conn.sndUna 1
  cap : conn.recv.cap = cfg.recvBufferBytes

namespace Life

variable {life middle : Life} {conn mid after : TcpConn} {cfg : EngineConfig} {limit : ℕ}
  {entries : List RetransEntry}

theorem Shows.flight (shown : life.Shows conn) :
    (conn.sndNxt - conn.sndUna).toNat = life.nxt - life.una := by
  have near := life.near
  rw [shown.sndUna, shown.sndNxt]
  exact toNat_point_sub_point conn.iss life.una_le (by omega)

theorem Advance.refl (limit : ℕ) (life : Life) : Advance limit life life :=
  ⟨.stay _, Nat.le_refl _, Nat.le_refl _, fun _ => ⟨Nat.le_refl _, Nat.le_add_right _ _⟩⟩

/-- The same positions in another state. -/
def enter (life : Life) (state : TcpState)
    (fin_iff : state ≠ .closed → life.fin.isSome = state.finSent) : Life :=
  { life with state := state, fin_iff := fin_iff }

/-- What the engine keeps of a connection keeps its positions; it may be closed. -/
theorem Advance.kept (advance : Advance limit life middle) (shown : middle.Shows mid)
    (kept : KeptAs entries mid after) :
    ∃ life', life'.Shows after ∧ Advance limit life life' ∧ life'.una = middle.una ∧
      life'.nxt = middle.nxt := by
  have finIff : after.state ≠ .closed → middle.fin.isSome = after.state.finSent := by
    intro alive
    have same : after.state = middle.state := (kept.closes.resolve_right alive).trans shown.state
    rw [same] at alive ⊢
    exact middle.fin_iff alive
  refine ⟨middle.enter after.state finIff, ⟨rfl, ?_, ?_, ?_, ?_⟩,
    ⟨?_, advance.una, advance.nxt, advance.rcv⟩, rfl, rfl⟩
  · dsimp only [enter]
    rw [kept.only]
    exact shown.sndUna
  · dsimp only [enter]
    rw [kept.only]
    exact shown.sndNxt
  · dsimp only [enter]
    rw [kept.only]
    exact shown.ourFinSeq
  · intro running
    have same : after.state = mid.state := by
      rcases kept.closes with same | closed
      · exact same
      · rw [closed] at running
        cases running
    rw [same] at running
    dsimp only [enter]
    rw [kept.only]
    exact shown.rcvNxt running
  · rcases kept.closes with same | closed
    · have state : after.state = middle.state := same.trans shown.state
      dsimp only [enter]
      rw [state]
      exact advance.edge
    · dsimp only [enter]
      rw [closed]
      exact .abort _

end Life

theorem KeptAs.bounded {cfg : EngineConfig} {mid after : TcpConn} {entries : List RetransEntry}
    (kept : KeptAs entries mid after) (bounded : Bounded cfg mid) : Bounded cfg after := by
  refine ⟨?_, ?_, ?_, ?_, ?_⟩
  · rw [kept.only]
    exact bounded.sndWnd
  · rw [kept.only]
    exact bounded.wsShiftIn
  · rw [kept.only]
    exact bounded.flight
  · intro opening
    have same : mid.state = .synSent := by
      rcases kept.closes with same | closed
      · exact same.symm.trans opening
      · rw [closed] at opening
        cases opening
    rw [kept.only]
    exact bounded.opening same
  · rw [kept.only]
    exact bounded.cap

/-! ### Opening, sending and closing -/

section Steps

variable {cfg : EngineConfig} {life : Life} {before after : TcpConn}

/-- A connection whose SYN has just left. -/
def bornLife : Life :=
  { state := .synSent
    una := 0
    nxt := 1
    fin := none
    rcv := 0
    una_le := Nat.zero_le _
    near := by omega
    fin_iff := fun _ => rfl
    nxt_eq := by simp }

theorem bornLife_shows (engine : Engine) (tuple : FourTuple) (iss : Seq) (ourMss : UInt16)
    (opts : ConnectOpts) (nowNs : ℕ) :
    bornLife.Shows ((engine.connecting tuple iss ourMss opts nowNs).enter .synSent) := by
  refine ⟨rfl, (point_zero iss).symm, rfl, rfl, ?_⟩
  intro running
  cases running

theorem bounded_connecting (engine : Engine) (tuple : FourTuple) (iss : Seq) (ourMss : UInt16)
    (opts : ConnectOpts) (nowNs : ℕ) :
    Bounded engine.cfg ((engine.connecting tuple iss ourMss opts nowNs).enter .synSent) := by
  refine ⟨Nat.two_pow_pos 30, Nat.zero_le _, ?_, fun _ => rfl, rfl⟩
  have flight := (bornLife_shows engine tuple iss ourMss opts nowNs).flight
  rw [flight]
  exact Nat.le_trans (show 1 ≤ 2 ^ 30 by decide) (Nat.le_add_right _ _)

theorem Life.Shows.fin_eq_none (shown : life.Shows before)
    (running : before.state = .established ∨ before.state = .closeWait) : life.fin = none := by
  have state := shown.state
  have alive : life.state ≠ .closed := by
    rcases running with running | running <;> rw [← state, running] <;> decide
  have iff := life.fin_iff alive
  have notSent : life.state.finSent = false := by
    rcases running with running | running <;> rw [← state, running] <;> rfl
  rw [notSent] at iff
  exact Option.isNone_iff_eq_none.mp (by simpa using iff)

/-- New data moves `snd_nxt` inside the peer's window. -/
theorem Life.Shows.sent (shown : life.Shows before) (bounded : Bounded cfg before) (limit : ℕ)
    (running : before.state = .established) {envs : ℕ → SendEnv} {news : List RetransEntry}
    (sent : SentTo envs news before after) :
    Bounded cfg after ∧ ∃ life', life'.Shows after ∧ life.Advance limit life' := by
  have room := sent.room
  have window := bounded.sndWnd
  have flight := bounded.flight
  have noFin := shown.fin_eq_none (Or.inl running)
  have noSeq : before.ourFinSeq = none := by
    rw [shown.ourFinSeq, noFin]
    rfl
  rw [noSeq] at flight
  rw [shown.flight] at room flight
  have una_le := life.una_le
  simp only [Option.isSome_none, Bool.toNat_false, Nat.add_zero] at flight
  have near : life.nxt + entryBytes news < life.una + 2 ^ 31 := by omega
  let middle : Life :=
    { life with
      nxt := life.nxt + entryBytes news
      una_le := by omega
      near := near
      nxt_eq := by simp [noFin] }
  rcases sent.kept with ⟨refused, kept⟩
  have middleShown : middle.Shows
      (before.sentUpTo (seqAdd before.sndNxt (entryBytes news)) refused) := by
    refine ⟨shown.state, shown.sndUna, ?_, shown.ourFinSeq, shown.rcvNxt⟩
    dsimp only [TcpConn.sentUpTo]
    rw [shown.sndNxt, seqAdd_point]
  have advance : life.Advance limit middle :=
    ⟨.stay _, Nat.le_refl _, Nat.le_add_right _ _, fun _ => ⟨Nat.le_refl _, Nat.le_add_right _ _⟩⟩
  refine ⟨kept.bounded ⟨bounded.sndWnd, bounded.wsShiftIn, ?_, ?_, bounded.cap⟩,
    (advance.kept middleShown kept).imp fun _ later => ⟨later.1, later.2.1⟩⟩
  · rw [middleShown.flight]
    dsimp only [middle]
    omega
  · intro opening
    rw [TcpConn.sentUpTo, running] at opening
    cases opening

/-- Our FIN takes the next number. -/
theorem Life.Shows.finSent (shown : life.Shows before) (bounded : Bounded cfg before) (limit : ℕ)
    (running : before.state = .established ∨ before.state = .closeWait)
    (sent : Kept before.finSent after) :
    Bounded cfg after ∧ ∃ life', life'.Shows after ∧ life.Advance limit life' := by
  have flight := bounded.flight
  have noFin := shown.fin_eq_none running
  have noSeq : before.ourFinSeq = none := by
    rw [shown.ourFinSeq, noFin]
    rfl
  rw [noSeq, shown.flight] at flight
  have una_le := life.una_le
  simp only [Option.isSome_none, Bool.toNat_false, Nat.add_zero] at flight
  have target := before.finSent_state
  let middle : Life :=
    { life with
      state := before.finSent.state
      nxt := life.nxt + 1
      fin := some life.nxt
      una_le := by omega
      near := by omega
      fin_iff := by
        intro _
        rcases target with target | target <;> rw [target] <;> rfl
      nxt_eq := by simp }
  have middleShown : middle.Shows before.finSent := by
    refine ⟨rfl, shown.sndUna, ?_, ?_, ?_⟩
    · dsimp only [TcpConn.finSent]
      rw [shown.sndNxt, seqAdd_point]
    · dsimp only [TcpConn.finSent, middle]
      rw [shown.sndNxt]
      rfl
    · intro _
      apply shown.rcvNxt
      rcases running with running | running <;> rw [running] <;> rfl
  have edge : life.state.Edge before.finSent.state := by
    rw [← shown.state]
    dsimp only [TcpConn.finSent]
    rcases running with running | running
    · rw [running, if_pos rfl]
      exact .closed
    · rw [running, if_neg (by decide)]
      exact .closedToo
  have advance : life.Advance limit middle :=
    ⟨edge, Nat.le_refl _, Nat.le_succ _, fun _ => ⟨Nat.le_refl _, Nat.le_add_right _ _⟩⟩
  refine ⟨KeptAs.bounded sent ⟨bounded.sndWnd, bounded.wsShiftIn, ?_, ?_, bounded.cap⟩,
    (advance.kept middleShown sent).imp fun _ later => ⟨later.1, later.2.1⟩⟩
  · rw [middleShown.flight]
    dsimp only [middle, TcpConn.finSent, Option.isSome_some, Bool.toNat_true]
    omega
  · intro opening
    rcases target with target | target <;> rw [target] at opening <;> cases opening

end Steps

/-! ### Segments -/

/-- A processed acknowledgment that lies exactly half the number space from `snd_nxt`. -/
def TcpConn.ackOpposite (conn : TcpConn) (seg : ParsedSegment) (nowNs : ℕ) : Bool :=
  seg.ack == seqAdd conn.sndNxt (2 ^ 31) &&
    (conn.takesAck seg nowNs || conn.state = .synSent && conn.takesSynAck seg)

section Segment

variable {cfg : EngineConfig} {life : Life} {conn after : TcpConn} {seg : ParsedSegment}
  {nowNs : ℕ}

/-- An acknowledgment between the edges, unless it lies opposite to them. -/
theorem ack_position {base : Seq} {una nxt : ℕ} (ordered : una ≤ nxt) (near : nxt < una + 2 ^ 31)
    {ack : Seq} (ahead : seqLt (point base una) ack = true)
    (known : seqLe ack (point base nxt) = true)
    (beside : ack ≠ seqAdd (point base nxt) (2 ^ 31)) :
    ∃ pos, ack = point base pos ∧ una < pos ∧ pos ≤ nxt := by
  rcases exists_ahead ahead with ⟨len, positive, within, rfl⟩
  refine ⟨una + len, rfl, by omega, ?_⟩
  by_cases opposite : una + len = nxt + 2 ^ 31
  · rw [opposite, seqAdd_point] at beside
    exact absurd rfl beside
  · rw [seqLe_point base (by omega) (by omega), decide_eq_true_iff] at known
    exact known

/-- The left edge behind an acknowledgment that is not opposite to it. -/
theorem Life.Shows.unaAfter (shown : life.Shows conn) {ack : Seq}
    (beside : seqLt conn.sndUna ack = true → seqLe ack conn.sndNxt = true →
      ack ≠ seqAdd conn.sndNxt (2 ^ 31)) :
    ∃ pos, conn.unaAfter ack = point conn.iss pos ∧ life.una ≤ pos ∧ pos ≤ life.nxt := by
  unfold TcpConn.unaAfter
  split
  · rename_i advances
    rcases Bool.and_eq_true_iff.mp advances with ⟨ahead, known⟩
    have apart := beside ahead known
    rw [shown.sndUna] at ahead
    rw [shown.sndNxt] at known apart
    rcases ack_position life.una_le life.near ahead known apart with ⟨pos, rfl, forward, within⟩
    exact ⟨pos, rfl, Nat.le_of_lt forward, within⟩
  · exact ⟨life.una, shown.sndUna, Nat.le_refl _, life.una_le⟩

/-- A SYN-ACK acknowledges our SYN, unless it lies opposite to it. -/
theorem Life.Shows.ack_of_synAcked (shown : life.Shows conn) (bounded : Bounded cfg conn)
    (opening : conn.state = .synSent) (valid : synAcked conn seg = true)
    (beside : seg.ack ≠ seqAdd conn.sndNxt (2 ^ 31)) : seg.ack = conn.sndNxt := by
  have next := bounded.opening opening
  rcases Bool.and_eq_true_iff.mp valid with ⟨ahead, known⟩
  rw [← next] at ahead
  rw [shown.sndNxt] at ahead known beside ⊢
  rcases exists_point conn.iss seg.ack life.nxt with ⟨len, inside, ack⟩
  rw [ack] at ahead known beside ⊢
  by_cases far : 2 ^ 31 < len
  · have turn : point conn.iss life.nxt = point conn.iss (life.nxt + 2 ^ 32) := by
      have wrap : BitVec.ofNat 32 (2 ^ 32) = 0#32 := by decide
      rw [point_add, wrap, BitVec.add_zero]
    rw [turn, seqLe_point conn.iss (by omega) (by omega), decide_eq_true_iff] at ahead
    omega
  · by_cases opposite : len = 2 ^ 31
    · rw [opposite, seqAdd_point] at beside
      exact absurd rfl beside
    · rw [seqLe_point conn.iss (by omega) (by omega), decide_eq_true_iff] at known
      have zero : len = 0 := by omega
      rw [zero, Nat.add_zero]

theorem TcpState.synchronized_of_isClosing {state : TcpState} (closing : state.isClosing = true) :
    state.synchronized = true := by
  cases state <;> first | rfl | cases closing

theorem closeTransition_edge {state : TcpState} (closing : state.isClosing = true)
    (finAcked peerHasFin : Bool) :
    state.Edge ((closeTransition state finAcked peerHasFin).1.getD state) ∧
      state.finSent = ((closeTransition state finAcked peerHasFin).1.getD state).finSent ∨
    (closeTransition state finAcked peerHasFin).1 = some .closed := by
  cases state <;> cases finAcked <;> cases peerHasFin <;>
    simp [closeTransition, TcpState.isClosing, TcpState.finSent] at closing ⊢ <;> constructor

theorem SegmentSend.window {outcome : Outcome} (send : SegmentSend conn seg nowNs after outcome)
    (window : conn.sndWnd < 2 ^ 30) (shift : conn.wsShiftIn ≤ 14) :
    after.sndWnd < 2 ^ 30 ∧ after.wsShiftIn ≤ 14 := by
  cases send with
  | kept send _ _ _ => exact ⟨send.sndWnd ▸ window, send.wsShiftIn ▸ shift⟩
  | opened _ send _ _ =>
      have unscaled := send.sndWnd
      exact ⟨by omega, send.wsShiftIn⟩
  | acked _ _ send _ _ _ => exact ⟨send.sndWnd_lt window shift, send.wsShiftIn ▸ shift⟩
  | closing _ _ send _ _ => exact ⟨send.sndWnd_lt window shift, send.wsShiftIn ▸ shift⟩

/-- The positions of a connection whose edges a segment moved forward. -/
theorem Life.Shows.moved (shown : life.Shows conn) (numbers : SameNumbers conn after)
    (irs : conn.state.synchronized = true → after.irs = conn.irs) {limit pos taken : ℕ}
    (sndUna : after.sndUna = point conn.iss pos) (forward : life.una ≤ pos)
    (within : pos ≤ life.nxt) (takes : Takes limit taken conn after) {target : TcpState}
    (edge : life.state.Edge target)
    (finIff : target ≠ .closed → life.fin.isSome = target.finSent)
    (running : target.synchronized = true → conn.state.synchronized = true) :
    ∃ middle : Life, middle.Shows (after.enter target) ∧ life.Advance limit middle ∧
      life.una ≤ middle.una ∧ middle.nxt = life.nxt := by
  have near := life.near
  refine ⟨⟨target, pos, life.nxt, life.fin, life.rcv + taken, within, by omega, finIff,
    life.nxt_eq⟩, ⟨rfl, ?_, ?_, ?_, ?_⟩, ⟨edge, forward, Nat.le_refl _, ?_⟩, forward, rfl⟩
  · dsimp only [TcpConn.enter]
    rw [sndUna, numbers.iss]
  · dsimp only [TcpConn.enter]
    rw [numbers.sndNxt, shown.sndNxt, numbers.iss]
  · dsimp only [TcpConn.enter]
    rw [numbers.ourFinSeq, shown.ourFinSeq, numbers.iss]
  · intro synchronized
    have started := running synchronized
    dsimp only [TcpConn.enter]
    rw [takes.rcvNxt, shown.rcvNxt started, seqAdd_point, irs started]
  · intro _
    have taken_le := takes.taken_le
    exact ⟨Nat.le_add_right _ _, Nat.add_le_add_left taken_le _⟩

/-- A SYN-ACK opens the connection and fixes the peer's numbering. -/
theorem Life.Shows.opened (shown : life.Shows conn) (opening : conn.state = .synSent)
    (numbers : SameNumbers conn after) (limit : ℕ) (sndUna : after.sndUna = conn.sndNxt)
    (rcvNxt : after.rcvNxt = seqAdd after.irs 1) :
    ∃ middle : Life, middle.Shows (after.enter .established) ∧ life.Advance limit middle ∧
      life.una ≤ middle.una ∧ middle.nxt = life.nxt := by
  have state : life.state = .synSent := shown.state.symm.trans opening
  have noFin : life.fin = none := by
    have iff := life.fin_iff (by rw [state]; decide)
    rw [state] at iff
    exact Option.isNone_iff_eq_none.mp (by simpa [TcpState.finSent] using iff)
  refine ⟨⟨.established, life.nxt, life.nxt, none, 1, Nat.le_refl _, by omega, fun _ => rfl,
    by simp⟩, ⟨rfl, ?_, ?_, ?_, fun _ => rcvNxt⟩, ⟨?_, life.una_le, Nat.le_refl _, ?_⟩,
    life.una_le, rfl⟩
  · dsimp only [TcpConn.enter]
    rw [sndUna, shown.sndNxt, numbers.iss]
  · dsimp only [TcpConn.enter]
    rw [numbers.sndNxt, shown.sndNxt, numbers.iss]
  · dsimp only [TcpConn.enter]
    rw [numbers.ourFinSeq, shown.ourFinSeq, noFin]
    rfl
  · rw [state]
    exact .synAckReceived
  · intro running
    rw [state] at running
    cases running

/-- A dispatch is a step of the abstract connection. -/
theorem Life.Shows.ends {target : Option TcpState} (shown : life.Shows conn)
    (bounded : Bounded cfg conn) (numbers : SameNumbers conn after)
    (irs : conn.state.synchronized = true → after.irs = conn.irs)
    (ends : DispatchEnds conn seg nowNs after target)
    (beside : conn.ackOpposite seg nowNs = false) :
    ∃ middle : Life, middle.Shows (after.enter (target.getD conn.state)) ∧
      life.Advance (seg.payload.length + cfg.recvBufferBytes + 1) middle ∧
      life.una ≤ middle.una ∧ middle.nxt = life.nxt := by
  have state := shown.state
  have apart : seqLt conn.sndUna seg.ack = true → seqLe seg.ack conn.sndNxt = true →
      (conn.state = .established ∧ conn.acceptable seg nowNs = true ∨
        conn.state.isClosing = true ∧ conn.closeAcceptable seg nowNs = true) →
      seg.ack ≠ seqAdd conn.sndNxt (2 ^ 31) := by
    intro ahead known processed opposite
    have takes : conn.takesAck seg nowNs = true := by
      rcases processed with ⟨running, acceptable⟩ | ⟨running, acceptable⟩
      · simp [TcpConn.takesAck, ahead, known, running, acceptable]
      · simp [TcpConn.takesAck, ahead, known, running, acceptable]
    simp [TcpConn.ackOpposite, opposite, takes] at beside
  rw [← bounded.cap]
  cases ends with
  | ignored sndUna takes =>
      refine shown.moved numbers irs (sndUna.trans shown.sndUna) (Nat.le_refl _) life.una_le takes
        ?_ ?_ fun running => running
      · rw [Option.getD_none, state]
        exact .stay _
      · rw [Option.getD_none, state]
        exact life.fin_iff
  | reset _ sndUna takes =>
      refine shown.moved numbers irs (sndUna.trans shown.sndUna) (Nat.le_refl _) life.una_le takes
        (.abort _) (fun alive => absurd rfl alive) fun running => ?_
      cases running
  | opened opening takesSynAck sndUna rcvNxt _ =>
      have valid : synAcked conn seg = true := by
        simp only [TcpConn.takesSynAck, Bool.and_eq_true] at takesSynAck
        exact takesSynAck.1.2
      have ack := shown.ack_of_synAcked bounded opening valid (by
        intro opposite
        simp [TcpConn.ackOpposite, opposite, opening, takesSynAck] at beside)
      exact shown.opened opening numbers _ (sndUna.trans ack) rcvNxt
  | running running acceptable sndUna taken takes target decided =>
      rcases shown.unaAfter (fun ahead known => apart ahead known (Or.inl ⟨running, acceptable⟩))
        with ⟨pos, edge, forward, within⟩
      have noFin := shown.fin_eq_none (Or.inl running)
      refine shown.moved numbers irs (sndUna.trans edge) forward within takes ?_ ?_ ?_
      · rw [← state, running]
        rcases decided with rfl | rfl
        · exact .stay _
        · exact .finReceived
      · intro _
        rw [noFin, running]
        rcases decided with rfl | rfl <;> rfl
      · intro _
        rw [running]
        rfl
  | closing closing acceptable sndUna takes =>
      rcases shown.unaAfter (fun ahead known => apart ahead known (Or.inr ⟨closing, acceptable⟩))
        with ⟨pos, edge, forward, within⟩
      have synchronized := TcpState.synchronized_of_isClosing closing
      have alive : life.state ≠ .closed := by
        intro closed
        rw [state, closed] at closing
        cases closing
      rcases closeTransition_edge closing (conn.finHasBeenAcked seg.ack) (conn.peerHasFin seg) with
        ⟨along, sameFin⟩ | closed
      · refine shown.moved numbers irs (sndUna.trans edge) forward within takes ?_ ?_
          fun _ => synchronized
        · rw [← state]
          exact along
        · intro _
          rw [life.fin_iff alive, ← state]
          exact sameFin
      · rw [closed]
        exact shown.moved numbers irs (sndUna.trans edge) forward within takes (.abort _)
          (fun alive => absurd rfl alive) fun _ => synchronized

end Segment

/-! ### Runs -/

namespace Host

/-- No processed acknowledgment lies exactly half the number space from `snd_nxt`. -/
def acksBeside (host : Host) : EngineOp → Bool
  | .segment handle seg _ env =>
      (host.engine.flowTable.get handle).all fun conn => !conn.ackOpposite seg env.clock.paws
  | _ => true

end Host

/-- The numbers of the peer's a step can take: those of the payload, what the
receive buffer held back, and a FIN. -/
def EngineOp.takesAtMost (cfg : EngineConfig) : EngineOp → ℕ
  | .segment _ seg _ _ => seg.payload.length + cfg.recvBufferBytes + 1
  | _ => 0

namespace DispatchEnds

variable {conn after : TcpConn} {seg : ParsedSegment} {nowNs : ℕ} {target : Option TcpState}

theorem cap (ends : DispatchEnds conn seg nowNs after target) :
    after.recv.cap = conn.recv.cap := by
  cases ends with
  | ignored _ takes => exact takes.cap
  | reset _ _ takes => exact takes.cap
  | opened _ _ _ _ cap => exact cap
  | running _ _ _ _ takes _ _ => exact takes.cap
  | closing _ _ _ takes => exact takes.cap

/-- A connection is left in SYN_SENT only by a segment that is ignored there. -/
theorem opening (ends : DispatchEnds conn seg nowNs after target)
    (opening : target.getD conn.state = .synSent) :
    conn.state = .synSent ∧ after.sndUna = conn.sndUna := by
  cases ends with
  | ignored sndUna _ => exact ⟨opening, sndUna⟩
  | reset _ _ _ => cases opening
  | opened _ _ _ _ _ => cases opening
  | running state _ _ _ _ _ decided =>
      rw [state] at opening
      rcases decided with rfl | rfl <;> cases opening
  | closing state _ _ _ =>
      rcases closeTransition_edge state (conn.finHasBeenAcked seg.ack) (conn.peerHasFin seg) with
        ⟨along, _⟩ | closed
      · rw [opening] at along
        generalize conn.state = started at along state
        cases along with
        | stay => cases state
      · rw [closed] at opening
        cases opening

end DispatchEnds

/-- A processed segment is a step of the abstract connection. -/
theorem Life.Shows.segment {cfg : EngineConfig} {life : Life} {conn after : TcpConn}
    {seg : ParsedSegment} {clock : Readings} {sendBuf : ℕ} {mbufCtx : Option MbufInsertCtx}
    {entries : List RetransEntry} (shown : life.Shows conn) (bounded : Bounded cfg conn)
    (beside : conn.ackOpposite seg clock.paws = false)
    (kept : KeptAs entries
      ((dispatch conn seg clock sendBuf mbufCtx).conn.enter
        ((dispatch conn seg clock sendBuf mbufCtx).outcome.newState.getD conn.state)) after) :
    Bounded cfg after ∧ ∃ life', life'.Shows after ∧
      life.Advance (seg.payload.length + cfg.recvBufferBytes + 1) life' := by
  have ends := dispatch_ends conn seg clock sendBuf mbufCtx
  have send := dispatch_send conn seg clock sendBuf mbufCtx
  have numbers := dispatch_sameNumbers conn seg clock sendBuf mbufCtx
  have irs : conn.state.synchronized = true →
      (dispatch conn seg clock sendBuf mbufCtx).conn.irs = conn.irs := by
    intro running
    refine (dispatch_sameOwner ?_ seg clock sendBuf mbufCtx).irs
    intro opening
    rw [opening] at running
    cases running
  generalize dispatch conn seg clock sendBuf mbufCtx = dispatched at *
  rcases shown.ends bounded numbers irs ends beside with
    ⟨middle, middleShown, advance, forward, nxt⟩
  have flight := bounded.flight
  have window := send.window bounded.sndWnd bounded.wsShiftIn
  rw [shown.flight] at flight
  refine ⟨kept.bounded ⟨window.1, window.2, ?_, ?_, ?_⟩,
    (advance.kept middleShown kept).imp fun _ later => ⟨later.1, later.2.1⟩⟩
  · rw [middleShown.flight, nxt]
    dsimp only [TcpConn.enter]
    rw [numbers.ourFinSeq]
    omega
  · intro opening
    rcases ends.opening opening with ⟨started, sndUna⟩
    dsimp only [TcpConn.enter]
    rw [numbers.sndNxt, sndUna]
    exact bounded.opening started
  · exact ends.cap.trans bounded.cap

namespace Host

/-- Every connection is bounded and stands at some point of its life. -/
def Followed (host : Host) : Prop :=
  ∀ handle conn, host.engine.flowTable.get handle = some conn →
    Bounded host.engine.cfg conn ∧ ∃ life : Life, life.Shows conn

/-- A connection that appears in the table has just sent its SYN. -/
theorem step_born {host : Host} {op : EngineOp} {handle : ConnHandle} {conn' : TcpConn}
    (absent : host.engine.flowTable.get handle = none)
    (live : (host.step op).engine.flowTable.get handle = some conn') :
    Bounded host.engine.cfg conn' ∧
      ∃ life : Life, life.Shows conn' ∧ life.una = 0 ∧ life.nxt = 1 := by
  have step := host.step_conns op live
  rw [absent] at step
  cases step with
  | opening opening =>
      refine ⟨opening.bounded (bounded_connecting host.engine _ _ _ _ _), ?_⟩
      rcases (Life.Advance.refl 0 bornLife).kept (bornLife_shows host.engine _ _ _ _ _) opening with
        ⟨life, shown, _, una, nxt⟩
      exact ⟨life, shown, una, nxt⟩

/-- A step of the engine is a step of every abstract connection that stays in the table. -/
theorem step_life {host : Host} {op : EngineOp} (beside : host.acksBeside op = true)
    {handle : ConnHandle} {conn conn' : TcpConn}
    (present : host.engine.flowTable.get handle = some conn)
    (live : (host.step op).engine.flowTable.get handle = some conn')
    (bounded : Bounded host.engine.cfg conn) {life : Life} (shown : life.Shows conn) :
    Bounded host.engine.cfg conn' ∧ ∃ life', life'.Shows conn' ∧
      life.Advance (op.takesAtMost host.engine.cfg) life' := by
  have step := host.step_conns op live
  rw [present] at step
  cases step with
  | kept kept =>
      refine ⟨kept.bounded bounded, ?_⟩
      rcases (Life.Advance.refl _ life).kept shown kept with ⟨life', shown', advance, _⟩
      exact ⟨life', shown', advance⟩
  | sent running news sent => exact shown.sent bounded _ running sent
  | fin running sent _ => exact shown.finSent bounded _ running sent
  | segment dispatched processed kept =>
      subst processed
      refine shown.segment bounded ?_ kept
      simpa [acksBeside, present] using beside

theorem followed_start (cfg : EngineConfig) (maxConnections eventSoftCap : ℕ) :
    (Host.start cfg maxConnections eventSoftCap).Followed := by
  intro handle conn live
  rw [Host.get_start] at live
  cases live

theorem Followed.step {host : Host} (before : host.Followed) {op : EngineOp}
    (beside : host.acksBeside op = true) : (host.step op).Followed := by
  intro handle conn' live
  rw [host.step_cfg op]
  cases present : host.engine.flowTable.get handle with
  | none =>
      rcases step_born present live with ⟨bounded, life, shown, _⟩
      exact ⟨bounded, life, shown⟩
  | some conn =>
      rcases before handle conn present with ⟨bounded, life, shown⟩
      rcases step_life beside present live bounded shown with ⟨bounded', life', shown', _⟩
      exact ⟨bounded', life', shown'⟩

theorem followed_of_reaches {cfg : EngineConfig} {maxConnections eventSoftCap : ℕ} {host : Host}
    (run : Run.Reaches Host.step (fun host op => host.acksBeside op = true)
      (Host.start cfg maxConnections eventSoftCap) host) :
    host.Followed ∧ host.engine.cfg = cfg := by
  constructor
  · apply run.invariant (followed_start cfg maxConnections eventSoftCap)
    intro host op before beside
    exact before.step beside
  · induction run with
    | refl => rfl
    | tail op _ _ ih => exact (Host.step_cfg _ op).trans ih

end Host

/-- In every run in which no processed acknowledgment lies exactly half the
number space from `snd_nxt`, every connection stands at a point of an abstract
life: its edges are ordered, and it has a FIN number exactly in the states that
have sent one. A new connection starts with only its SYN in flight, and every
step takes an edge of the diagram and moves no edge backwards. -/
theorem connection_follows_diagram {cfg : EngineConfig} {maxConnections eventSoftCap : ℕ}
    {host : Host}
    (run : Run.Reaches Host.step (fun host op => host.acksBeside op = true)
      (Host.start cfg maxConnections eventSoftCap) host) :
    (∀ handle conn, host.engine.flowTable.get handle = some conn →
        ∃ life : Life, life.Shows conn) ∧
      ∀ op, host.acksBeside op = true → ∀ handle conn',
        (host.step op).engine.flowTable.get handle = some conn' →
        (host.engine.flowTable.get handle = none →
          ∃ life : Life, life.Shows conn' ∧ life.una = 0 ∧ life.nxt = 1) ∧
        ∀ conn life, host.engine.flowTable.get handle = some conn → Life.Shows life conn →
          ∃ life', Life.Shows life' conn' ∧ life.Advance (op.takesAtMost cfg) life' := by
  rcases Host.followed_of_reaches run with ⟨followed, same⟩
  refine ⟨fun handle conn live => (followed handle conn live).2, ?_⟩
  intro op beside handle conn' live
  refine ⟨fun absent => (Host.step_born absent live).2, ?_⟩
  intro conn life present shown
  rw [← same]
  exact (Host.step_life beside present live (followed handle conn present).1 shown).2

/-- Three bytes are sent, acknowledged, and the connection is closed from our side first. -/
def closedFirst : List EngineOp :=
  handshake ++ [sendAt 2000 [1, 2, 3] 1, receiveAt 3000 201#32 104#32 TCP_ACK,
    .close 1 true 4000, receiveAt 5000 201#32 105#32 TCP_ACK,
    receiveAt 6000 201#32 105#32 (TCP_FIN ||| TCP_ACK)]

theorem connection_follows_diagram_closedFirst :
    (∀ handle conn, (Host.after closedFirst).engine.flowTable.get handle = some conn →
        ∃ life : Life, life.Shows conn) ∧
      ∀ op, (Host.after closedFirst).acksBeside op = true → ∀ handle conn',
        ((Host.after closedFirst).step op).engine.flowTable.get handle = some conn' →
        ((Host.after closedFirst).engine.flowTable.get handle = none →
          ∃ life : Life, life.Shows conn' ∧ life.una = 0 ∧ life.nxt = 1) ∧
        ∀ conn life, (Host.after closedFirst).engine.flowTable.get handle = some conn →
          Life.Shows life conn →
          ∃ life', Life.Shows life' conn' ∧ life.Advance (op.takesAtMost quickCfg) life' :=
  connection_follows_diagram
    (Run.Reaches.of_admits (by decide +kernel :
      Run.admits Host.step Host.acksBeside (Host.start quickCfg 1 64) closedFirst = true))

/-- An idle connection gets an acknowledgment half the number space away. -/
def ackedOpposite : List EngineOp :=
  handshake ++ [receiveAt 2000 201#32 0x80000065#32 TCP_ACK]

/-- It is taken for an acknowledgment of new data, and `snd_una` leaves the window. -/
theorem opposite_ack_moves_snd_una :
    ¬ ∀ host, Run.Reaches Host.step (fun _ _ => True) (Host.start quickCfg 1 64) host →
      ∀ handle conn, host.engine.flowTable.get handle = some conn →
        ∃ life : Life, life.Shows conn := by
  intro followed
  have live : ((Host.after ackedOpposite).engine.flowTable.get 1).any (fun conn =>
      (conn.sndNxt - conn.sndUna).toNat = 2 ^ 31) = true := by decide +kernel
  rcases (Option.any_eq_true _ _).mp live with ⟨conn, present, far⟩
  rcases followed _ (Host.after_reached ackedOpposite) 1 conn present with ⟨life, shown⟩
  have flight := shown.flight
  have near := life.near
  rw [decide_eq_true_iff] at far
  rw [far] at flight
  omega

end DpdkTcp
