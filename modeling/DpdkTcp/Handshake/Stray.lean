import DpdkTcp.Lifecycle.Final

/-!
# Stray segments during the handshake

A connection in SYN_SENT should leave that state only on a SYN-ACK, or on an
RST, whose acknowledgment covers the SYN. `handle_syn_sent` drops a stray RST and
a SYN without ACK, but closes the connection on everything else.
-/

namespace DpdkTcp

namespace TcpConn

/-- The acknowledgment lies in `(iss, snd_nxt]`. -/
def coversSyn (conn : TcpConn) (ack : Seq) : Bool :=
  decide (0 < (ack - conn.iss).toNat ∧ (ack - conn.iss).toNat ≤ (conn.sndNxt - conn.iss).toNat)

/-- A segment that SYN_SENT handles as it should: an RST that does not acknowledge the number
opposite to `snd_nxt`, a SYN without ACK, or a well-formed SYN-ACK of our SYN. -/
def handlesStray (conn : TcpConn) (seg : ParsedSegment) : Bool :=
  if seg.flags.has TCP_RST then
    !(seg.flags.has TCP_ACK && seg.ack == seqAdd conn.sndNxt (2 ^ 31))
  else
    seg.flags.has TCP_SYN &&
      (!seg.flags.has TCP_ACK || conn.coversSyn seg.ack && (parseOptions seg.options).isOk)

/-- Only the SYN was sent. -/
structure OnlySyn (conn : TcpConn) : Prop where
  sndUna : conn.sndUna = conn.iss
  sndNxt : conn.sndNxt = seqAdd conn.iss 1
  entries : conn.sndRetrans.entries = []

end TcpConn

/-- What may come of a connection in SYN_SENT that is handed a segment. -/
inductive Engine.SurvivesStray (before after : Engine) (handle : ConnHandle) (conn : TcpConn)
    (seg : ParsedSegment) (tx : TxAction) : Prop where
  | stays {conn' : TcpConn} (live : after.flowTable.get handle = some conn')
      (state : conn'.state = .synSent) (timer : conn'.synRetransTimerId = conn.synRetransTimerId)
      (armed : ∀ id, conn.synRetransTimerId = some id → before.timerWheel.isLive id = true →
        after.timerWheel.isLive id = true)
      (answer : tx ≠ .ack)
  | opens (state : after.stateAt handle = some .established)
      (synAck : seg.flags.has TCP_SYN = true ∧ seg.flags.has TCP_ACK = true)
      (covers : conn.coversSyn seg.ack = true)
  | closes (gone : after.stateAt handle = none)
      (reset : seg.flags.has TCP_RST = true ∧ seg.flags.has TCP_ACK = true)
      (covers : conn.coversSyn seg.ack = true)

/-! ### The flight of a SYN -/

theorem KeptAs.onlySyn {entries : List RetransEntry} {mid after : TcpConn}
    (kept : KeptAs entries mid after) (none : mid.state = .synSent → entries = [])
    (before : mid.state = .synSent → mid.sndUna = mid.iss ∧ mid.sndNxt = seqAdd mid.iss 1)
    (waiting : after.state = .synSent) : after.OnlySyn := by
  have same : mid.state = .synSent := by
    rcases kept.closes with same | closed
    · exact same.symm.trans waiting
    · rw [closed] at waiting
      cases waiting
  rcases before same with ⟨sndUna, sndNxt⟩
  refine ⟨?_, ?_, ?_⟩
  · rw [kept.only]
    exact sndUna
  · rw [kept.only]
    exact sndNxt
  · have entries := kept.entries
    rw [none same] at entries
    exact List.forall₂_nil_left_iff.mp entries

namespace Host

variable {host : Host}

/-- Of every connection in SYN_SENT, the SYN alone was sent. -/
def OnlySyn (host : Host) : Prop :=
  ∀ handle conn, host.engine.flowTable.get handle = some conn → conn.state = .synSent →
    conn.OnlySyn

theorem OnlySyn.call (before : host.OnlySyn) (op : EngineOp) : (host.step op).OnlySyn := by
  intro handle after live waiting
  have step := host.step_conns op live
  generalize found : host.engine.flowTable.get handle = present at step
  cases step with
  | kept kept =>
      refine kept.onlySyn ?_ ?_ waiting
      · exact fun state => (before handle _ found state).entries
      · exact fun state => ⟨(before handle _ found state).sndUna, (before handle _ found state).sndNxt⟩
  | opening opening => exact opening.onlySyn (fun _ => rfl) (fun _ => ⟨rfl, rfl⟩) waiting
  | sent running news sent =>
      rcases sent.kept with ⟨refused, kept⟩
      have closed : after.state ≠ .synSent := by
        intro waiting
        have state := kept.state.eq_synSent waiting
        rw [TcpConn.sentUpTo, running] at state
        cases state
      exact absurd waiting closed
  | fin running sent state =>
      rw [state] at waiting
      rcases running with running | running <;> rw [TcpConn.finSent, running] at waiting <;>
        cases waiting
  | segment dispatched processed kept =>
      rename_i seg mbufCtx env conn
      subst processed
      have ends := dispatch_ends conn seg env.clock host.engine.cfg.sendBufferBytes mbufCtx
      have started : conn.state = .synSent :=
        (ends.opening (kept.state.eq_synSent waiting)).1
      have same : (dispatch conn seg env.clock host.engine.cfg.sendBufferBytes mbufCtx).conn =
          conn := by
        have decided := kept.state.eq_synSent waiting
        rw [dispatch, started] at decided ⊢
        rcases (handleSynSent_opens conn seg env.clock).2.2 with ⟨same, _⟩ | ⟨_, _, _, opens, _⟩
        · exact same
        · dsimp only [TcpConn.enter] at decided
          rw [opens] at decided
          cases decided
      have syn := before handle conn found started
      refine kept.onlySyn (fun _ => ?_) (fun _ => ?_) waiting
      · rw [same]
        cases (dispatch conn seg env.clock host.engine.cfg.sendBufferBytes
          mbufCtx).outcome.sndUnaAdvancedTo with
        | none => exact syn.entries
        | some una =>
            dsimp only [TcpConn.entriesLeft, SendRetrans.pruneBelow]
            rw [syn.entries]
            rfl
      · rw [same]
        exact ⟨syn.sndUna, syn.sndNxt⟩

theorem OnlySyn.step (before : host.OnlySyn) (op : SystemOp) : (host.systemStep op).OnlySyn := by
  cases op with
  | call op => exact before.call op
  | complete index =>
      intro handle conn live
      rw [systemStep, completeFrame_flowTable] at live
      exact before handle conn live
  | drainEvents max => exact before
  | drop =>
      intro handle conn live
      rw [systemStep, drop_get] at live
      cases live

theorem onlySyn_of_reaches {cfg : EngineConfig} {maxConnections eventSoftCap : ℕ}
    (run : Run.Reaches systemStep (fun _ _ => True) (start cfg maxConnections eventSoftCap) host) :
    host.OnlySyn := by
  apply run.invariant
  · intro handle conn live
    rw [get_start] at live
    cases live
  · exact fun host op before _ => before.step op

end Host

/-! ### The handler of SYN_SENT -/

section Handler

variable {conn : TcpConn} {seg : ParsedSegment} {clock : Readings}

/-- With the SYN alone in flight, the range holds one number. -/
theorem TcpConn.OnlySyn.coversSyn_iff (syn : conn.OnlySyn) (ack : Seq) :
    conn.coversSyn ack = true ↔ ack = conn.sndNxt := by
  have width : (conn.sndNxt - conn.iss).toNat = 1 := by
    have near : (seqAdd conn.iss 1 - conn.iss).toNat = (conn.iss - conn.iss).toNat + 1 :=
      toNat_seqAdd_sub conn.iss conn.iss (by simp)
    rw [syn.sndNxt, near, BitVec.sub_self]
    rfl
  rw [coversSyn, decide_eq_true_iff, width]
  constructor
  · rintro ⟨positive, small⟩
    have one : ack - conn.iss = 1#32 := BitVec.eq_of_toNat_eq (by rw [BitVec.toNat_ofNat]; omega)
    rw [syn.sndNxt, seqAdd, ← one, BitVec.add_comm, BitVec.sub_add_cancel]
  · rintro rfl
    omega

theorem seqLe_opposite (seq : Seq) : seqLe seq (seqAdd seq (2 ^ 31)) = true := by
  have ordered : seqLe (Serial.point seq 0) (Serial.point seq (2 ^ 31)) =
      decide (0 ≤ 2 ^ 31) := seqLe_point seq (by omega) (by omega)
  rwa [Serial.point_zero] at ordered

theorem seqLe_of_opposite (seq : Seq) : seqLe (seqAdd seq (2 ^ 31)) seq = true := by
  have around : seqAdd (seqAdd seq (2 ^ 31)) (2 ^ 31) = seq := by
    simp [seqAdd, BitVec.add_assoc]
  have ordered := seqLe_opposite (seqAdd seq (2 ^ 31))
  rwa [around] at ordered

/-- The range test of the source also lets the number opposite to `snd_nxt` pass. -/
theorem TcpConn.OnlySyn.synAcked_iff (syn : conn.OnlySyn) :
    synAcked conn seg = true ↔
      seg.ack = conn.sndNxt ∨ seg.ack = seqAdd conn.sndNxt (2 ^ 31) := by
  have edge : seqAdd conn.sndUna 1 = conn.sndNxt := by rw [syn.sndUna, syn.sndNxt]
  rw [synAcked, edge, Bool.and_eq_true]
  constructor
  · rintro ⟨after, before⟩
    have ahead := toNat_sub_le_of_seqLe after
    have behind := toNat_sub_le_of_seqLe before
    have apart : conn.sndNxt - seg.ack = -(seg.ack - conn.sndNxt) := by
      rw [BitVec.neg_sub, BitVec.sub_eq_add_neg, BitVec.add_comm]
    have back : seg.ack = conn.sndNxt + (seg.ack - conn.sndNxt) := by
      rw [BitVec.add_comm, BitVec.sub_add_cancel]
    rw [apart, BitVec.toNat_neg] at behind
    have ends : (seg.ack - conn.sndNxt).toNat = 0 ∨ (seg.ack - conn.sndNxt).toNat = 2 ^ 31 := by
      omega
    rcases ends with same | opposite
    · have zero : seg.ack - conn.sndNxt = 0#32 := BitVec.eq_of_toNat_eq same
      rw [zero, BitVec.add_zero] at back
      exact Or.inl back
    · have half : seg.ack - conn.sndNxt = BitVec.ofNat 32 (2 ^ 31) :=
        BitVec.eq_of_toNat_eq opposite
      rw [half] at back
      exact Or.inr back
  · rintro (same | opposite)
    · rw [same, seqLe_self]
      exact ⟨rfl, rfl⟩
    · rw [opposite]
      exact ⟨seqLe_opposite conn.sndNxt, seqLe_of_opposite conn.sndNxt⟩

/-- Where the handler of SYN_SENT leads. -/
theorem handleSynSent_stateAfter :
    (handleSynSent conn seg clock).outcome.stateAfter .synSent =
      if seg.flags.has TCP_RST then
        if seg.flags.has TCP_ACK && synAcked conn seg then none else some .synSent
      else if !seg.flags.has TCP_SYN then none
      else if !seg.flags.has TCP_ACK then some .synSent
      else if synAcked conn seg && (parseOptions seg.options).isOk then some .established
      else none := by
  unfold handleSynSent
  cases seg.flags.has TCP_RST with
  | true => cases seg.flags.has TCP_ACK && synAcked conn seg <;> rfl
  | false =>
      cases seg.flags.has TCP_SYN with
      | false => rfl
      | true =>
          cases seg.flags.has TCP_ACK with
          | false => rfl
          | true =>
              cases synAcked conn seg with
              | false => rfl
              | true => cases parseOptions seg.options <;> rfl

/-- The handler stays in SYN_SENT only by ignoring the segment. -/
theorem handleSynSent_ignored
    (stays : (handleSynSent conn seg clock).outcome.stateAfter .synSent = some .synSent) :
    handleSynSent conn seg clock = { conn := conn, outcome := Outcome.none } := by
  revert stays
  unfold handleSynSent
  cases seg.flags.has TCP_RST with
  | true =>
      cases seg.flags.has TCP_ACK && synAcked conn seg with
      | true => exact nofun
      | false => exact fun _ => rfl
  | false =>
      cases seg.flags.has TCP_SYN with
      | false => exact nofun
      | true =>
          cases seg.flags.has TCP_ACK with
          | false => exact fun _ => rfl
          | true =>
              cases synAcked conn seg with
              | false => exact nofun
              | true => cases parseOptions seg.options <;> exact nofun

end Handler

/-- An ignored segment of a connection with nothing in flight leaves it and the timers alone. -/
theorem Engine.tcpInput_ignored {engine : Engine} {handle : ConnHandle} {conn : TcpConn}
    {seg : ParsedSegment} {mbufCtx : Option MbufInsertCtx} {env : InputEnv}
    (present : engine.flowTable.get handle = some conn)
    (ignored : dispatch conn seg env.clock engine.cfg.sendBufferBytes mbufCtx =
      { conn := conn, outcome := Outcome.none })
    (idle : conn.sndRetrans.entries = []) :
    (engine.tcpInput handle seg mbufCtx env).flowTable.get handle = some conn ∧
      (engine.tcpInput handle seg mbufCtx env).timerWheel = engine.timerWheel := by
  have written : (engine.written handle mbufCtx
      { conn := conn, outcome := Outcome.none }).flowTable.get handle = some conn := by
    dsimp only [Engine.written]
    rw [FlowTable.get_set present, if_pos rfl]
  have gate : conn.tlpArmGatePasses = false := by
    rw [TcpConn.tlpArmGatePasses, SendRetrans.isEmpty, idle]
    rfl
  have sent : (engine.written handle mbufCtx
      { conn := conn, outcome := Outcome.none }).sendSideAfter handle Outcome.none env =
        engine.written handle mbufCtx { conn := conn, outcome := Outcome.none } := by
    dsimp only [Engine.sendSideAfter, Outcome.none, Engine.retransmitRackLost, Engine.armTlpPto]
    dsimp only [Outcome.none] at written
    rw [written]
    dsimp only
    rw [gate]
    rfl
  have processed : engine.tcpInput handle seg mbufCtx env =
      (engine.written handle mbufCtx
        { conn := conn, outcome := Outcome.none }).restartTimeWait handle Outcome.none env.nowNs := by
    dsimp only [Engine.tcpInput]
    rw [present]
    dsimp only
    rw [ignored]
    dsimp only
    rw [if_neg (by exact Bool.false_ne_true), sent]
    rfl
  rw [processed]
  refine ⟨?_, rfl⟩
  dsimp only [Engine.restartTimeWait, Engine.modifyConn]
  rw [FlowTable.get_modify, if_pos rfl, written, Option.map_some, if_neg]
  rintro ⟨_, answered, _⟩
  cases answered

/-! ### Survival -/

/-- The flags, the range and the options of a segment, case by case: what the handler does with
them is right exactly for the segments it handles as it should. -/
theorem stray_cases : ∀ reset isSyn acked covers opposite formed : Bool,
    (covers && opposite) = false → ∀ state : Option TcpState,
    state =
      (if reset then if acked && (covers || opposite) then none else some .synSent
      else if !isSyn then none
      else if !acked then some .synSent
      else if (covers || opposite) && formed then some .established
      else none) →
    ((state = some .synSent ∨
        state = some .established ∧ (isSyn = true ∧ acked = true) ∧ covers = true ∨
        state = none ∧ (reset = true ∧ acked = true) ∧ covers = true) ↔
      (if reset then !(acked && opposite) else isSyn && (!acked || covers && formed)) = true) := by
  rintro reset isSyn acked covers opposite formed apart state rfl
  revert reset isSyn acked covers opposite formed
  decide

/-- In every run, a connection in SYN_SENT survives exactly the segments it handles as it
should. -/
theorem syn_sent_survives_iff {cfg : EngineConfig} {maxConnections eventSoftCap : ℕ} {host : Host}
    (run : Run.Reaches Host.systemStep (fun _ _ => True)
      (Host.start cfg maxConnections eventSoftCap) host)
    {handle : ConnHandle} {conn : TcpConn}
    (present : host.engine.flowTable.get handle = some conn) (opening : conn.state = .synSent)
    (seg : ParsedSegment) (mbufCtx : Option MbufInsertCtx) (env : InputEnv) :
    host.engine.SurvivesStray (host.step (.segment handle seg mbufCtx env)).engine handle conn seg
        (dispatch conn seg env.clock host.engine.cfg.sendBufferBytes mbufCtx).outcome.tx ↔
      conn.handlesStray seg = true := by
  have syn := Host.onlySyn_of_reaches run handle conn present opening
  have handled : dispatch conn seg env.clock host.engine.cfg.sendBufferBytes mbufCtx =
      handleSynSent conn seg env.clock := by
    rw [dispatch, opening]
  have leads : (host.step (.segment handle seg mbufCtx env)).engine.stateAt handle =
      (handleSynSent conn seg env.clock).outcome.stateAfter .synSent := by
    dsimp only [Host.step]
    rw [Engine.stateAt_tcpInput, if_pos rfl, present, Option.bind_some, handled, opening]
  have inRange : synAcked conn seg =
      (conn.coversSyn seg.ack || seg.ack == seqAdd conn.sndNxt (2 ^ 31)) := by
    rw [Bool.eq_iff_iff, syn.synAcked_iff, Bool.or_eq_true, syn.coversSyn_iff, beq_iff_eq]
  have apart : (conn.coversSyn seg.ack && seg.ack == seqAdd conn.sndNxt (2 ^ 31)) = false := by
    rw [Bool.and_eq_false_iff, Bool.eq_false_iff, Ne, syn.coversSyn_iff, beq_eq_false_iff_ne]
    by_cases same : seg.ack = conn.sndNxt
    · rw [same]
      exact Or.inr (by simp [seqAdd])
    · exact Or.inl same
  have survives : host.engine.SurvivesStray (host.step (.segment handle seg mbufCtx env)).engine
      handle conn seg
      (dispatch conn seg env.clock host.engine.cfg.sendBufferBytes mbufCtx).outcome.tx ↔
      (host.step (.segment handle seg mbufCtx env)).engine.stateAt handle = some .synSent ∨
      (host.step (.segment handle seg mbufCtx env)).engine.stateAt handle = some .established ∧
        (seg.flags.has TCP_SYN = true ∧ seg.flags.has TCP_ACK = true) ∧
        conn.coversSyn seg.ack = true ∨
      (host.step (.segment handle seg mbufCtx env)).engine.stateAt handle = none ∧
        (seg.flags.has TCP_RST = true ∧ seg.flags.has TCP_ACK = true) ∧
        conn.coversSyn seg.ack = true := by
    constructor
    · intro survives
      cases survives with
      | stays live state =>
          refine Or.inl ?_
          rw [Engine.stateAt, live, Option.map_some, state]
      | opens state synAck covers => exact Or.inr (Or.inl ⟨state, synAck, covers⟩)
      | closes gone reset covers => exact Or.inr (Or.inr ⟨gone, reset, covers⟩)
    · rintro (still | ⟨state, synAck, covers⟩ | ⟨gone, reset, covers⟩)
      · have ignored := handled.trans (handleSynSent_ignored (leads.symm.trans still))
        rcases Engine.tcpInput_ignored present ignored syn.entries with ⟨live, wheel⟩
        refine .stays live opening rfl (fun id _ armed => ?_) (by rw [ignored]; rintro ⟨⟩)
        dsimp only [Host.step]
        rw [wheel]
        exact armed
      · exact .opens state synAck covers
      · exact .closes gone reset covers
  rw [handleSynSent_stateAfter, inRange] at leads
  rw [survives, TcpConn.handlesStray]
  exact stray_cases _ _ _ _ _ _ apart _ leads

/-- The answer to our SYN opens the connection. -/
theorem syn_sent_survives_iff_answered :
    ∃ conn, ((Host.start quickCfg 1 64).systemStep opening).engine.flowTable.get 1 = some conn ∧
      (((Host.start quickCfg 1 64).systemStep opening).engine.SurvivesStray
        (((Host.start quickCfg 1 64).systemStep opening).step
          (.segment 1 (synAck 100#32 200#32 5000) none (inputAt 1000))).engine 1 conn
        (synAck 100#32 200#32 5000)
        (dispatch conn (synAck 100#32 200#32 5000) (inputAt 1000).clock
          ((Host.start quickCfg 1 64).systemStep opening).engine.cfg.sendBufferBytes none).outcome.tx ↔
      conn.handlesStray (synAck 100#32 200#32 5000) = true) := by
  have opens : (((Host.start quickCfg 1 64).systemStep opening).engine.flowTable.get 1).any
      (fun conn => conn.state == .synSent) = true := by decide +kernel
  rcases (Option.any_eq_true _ _).mp opens with ⟨conn, present, state⟩
  exact ⟨conn, present, syn_sent_survives_iff (.tail opening .refl trivial) present
    (eq_of_beq state) _ none (inputAt 1000)⟩

/-- A late ACK of an earlier connection, neither SYN nor RST. -/
def lateAck : ParsedSegment :=
  { synAck 7000#32 200#32 5000 with flags := TCP_ACK }

/-- One segment of an earlier connection ends the handshake. -/
theorem syn_sent_closed_by_stray :
    ¬ ∀ host, Run.Reaches Host.systemStep (fun _ _ => True) (Host.start quickCfg 1 64) host →
      ∀ handle conn, host.engine.flowTable.get handle = some conn → conn.state = .synSent →
        ∀ seg mbufCtx env, host.engine.SurvivesStray
          (host.step (.segment handle seg mbufCtx env)).engine handle conn seg
          (dispatch conn seg env.clock host.engine.cfg.sendBufferBytes mbufCtx).outcome.tx := by
  intro survives
  have opens : (((Host.start quickCfg 1 64).systemStep opening).engine.flowTable.get 1).any
      (fun conn => conn.state == .synSent) = true := by decide +kernel
  rcases (Option.any_eq_true _ _).mp opens with ⟨conn, present, state⟩
  have gone : (((Host.start quickCfg 1 64).systemStep opening).step
      (.segment 1 lateAck none (inputAt 1000))).engine.stateAt 1 = none := by decide +kernel
  cases survives _ (.tail opening .refl trivial) 1 conn present (eq_of_beq state) lateAck none
    (inputAt 1000) with
  | stays live =>
      rw [Engine.stateAt, live] at gone
      cases gone
  | opens state =>
      rw [state] at gone
      cases gone
  | closes _ reset => exact absurd reset.1 (by decide)

end DpdkTcp
