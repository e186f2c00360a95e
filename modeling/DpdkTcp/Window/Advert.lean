import DpdkTcp.Receive.Stream
import DpdkTcp.Lifecycle.Machine
import DpdkTcp.Window.Edits

/-!
# Advertised windows

Every segment a synchronized connection sends shows `rcv_nxt` as its
acknowledgment number and the free receive space, scaled, as its window. The
ledger of a run records what each connection has advertised so far, with
acknowledgment numbers counted from the number behind the peer's SYN.
-/

namespace DpdkTcp

/-- The window a segment advertises: its acknowledgment number, the window field and the scale. -/
structure Advert where
  ack : ℕ
  window : ℕ
  shift : ℕ
deriving DecidableEq, Repr

/-- How many bytes the window field stands for. -/
def Advert.offered (advert : Advert) : ℕ :=
  advert.window * 2 ^ advert.shift

/-- The advertised right edge. -/
def Advert.edge (advert : Advert) : ℕ :=
  advert.ack + advert.offered

/-- The window that goes out with an acknowledgment. -/
def TcpConn.advert (conn : TcpConn) (ack : ℕ) : Advert :=
  ⟨ack, conn.advertisedWindow, conn.wsShiftOut⟩

/-- By how much a dispatch moves `rcv_nxt`. -/
def Dispatched.taken (dispatched : Dispatched) (before : TcpConn) : ℕ :=
  dispatched.outcome.delivered + (tookFin before dispatched).toNat

namespace Host

/-- The connection the segments of a call are built from, if the call sends any
for `handle`. A segment that could not be handed to the driver counts as sent. -/
def showing (host : Host) (handle : ConnHandle) : EngineOp → Option TcpConn
  | .send target bytes envs tlpNs =>
      match (host.engine.sendBytes target bytes envs tlpNs).2 with
      | .ok (_ + 1) => if target = handle then host.engine.flowTable.get handle else none
      | _ => none
  | .close target finSent _ =>
      if target = handle ∧ finSent then
        (host.engine.flowTable.get handle).filter fun conn =>
          conn.state = .established || conn.state = .closeWait
      else none
  | .segment target seg mbufCtx env =>
      if target = handle then
        (host.engine.flowTable.get handle).bind fun conn =>
          let dispatched := dispatch conn seg env.clock host.engine.cfg.sendBufferBytes mbufCtx
          if dispatched.outcome.rackLostIndexes ≠ [] ∨
              dispatched.outcome.tx = .ack ∧ env.ackSent then
            some dispatched.conn
          else none
      else none
  | .fireNext _ =>
      match host.pending with
      | (_, node) :: _ =>
          if node.ownerHandle = handle ∧ (node.kind = .rto ∨ node.kind = .tlp) then
            (host.engine.flowTable.get handle).filter fun conn => conn.state.synchronized
          else none
      | [] => none
  | _ => none

end Host

/-- A run so far: the host and, for every handle, how far `rcv_nxt` is behind the
peer's SYN and what was advertised, oldest first. -/
structure Ledger where
  host : Host
  acked : ConnHandle → ℕ
  adverts : ConnHandle → List Advert

namespace Ledger

/-- A host without connections that has advertised nothing. -/
def start (cfg : EngineConfig) (maxConnections eventSoftCap : ℕ) : Ledger :=
  { host := Host.start cfg maxConnections eventSoftCap
    acked := fun _ => 0
    adverts := fun _ => [] }

/-- Where `rcv_nxt` is after an operation; the handshake sets it to the number behind the SYN. -/
def ackedAfter (ledger : Ledger) (handle : ConnHandle) : SystemOp → ℕ
  | .call (.segment target seg mbufCtx env) =>
      match ledger.host.engine.flowTable.get handle with
      | some conn =>
          if target ≠ handle then ledger.acked handle
          else if conn.state = .synSent then 0
          else
            ledger.acked handle +
              (dispatch conn seg env.clock ledger.host.engine.cfg.sendBufferBytes mbufCtx).taken conn
      | none => ledger.acked handle
  | _ => ledger.acked handle

/-- What an operation advertises for a connection. -/
def advertised (ledger : Ledger) (handle : ConnHandle) : SystemOp → List Advert
  | .call op =>
      ((ledger.host.showing handle op).map fun conn =>
        conn.advert (ledger.ackedAfter handle (.call op))).toList
  | _ => []

/-- A handle that stands for no connection has advertised nothing. -/
def step (ledger : Ledger) (op : SystemOp) : Ledger :=
  { host := ledger.host.systemStep op
    acked := fun handle => ledger.ackedAfter handle op
    adverts := fun handle =>
      if (ledger.host.engine.flowTable.get handle).isSome then
        ledger.adverts handle ++ ledger.advertised handle op
      else [] }

end Ledger

/-! ### How a receive side comes out of a step -/

/-- The receive side once `delivered` bytes are handed over. -/
def TcpConn.handOver (conn : TcpConn) (delivered : ℕ) : TcpConn :=
  { conn with
    recv :=
      { conn.recv with
        bytes :=
          if 0 < delivered then (splitDelivered delivered conn.recv.bytes).rest
          else conn.recv.bytes }
    deliveredSegments := if 0 < delivered then [] else conn.deliveredSegments }

theorem SameReceiver.handOver {before after : TcpConn} (same : SameReceiver before after)
    (delivered : ℕ) : SameReceiver (before.handOver delivered) (after.handOver delivered) := by
  refine ⟨same.fourTuple, same.irs, same.rcvNxt, same.rcvWnd, same.wsShiftOut, ?_, ?_⟩
  · dsimp only [TcpConn.handOver]
    rw [same.recv]
  · dsimp only [TcpConn.handOver]
    rw [same.deliveredSegments]

/-- How the receive side of a connection comes out of an operation. -/
inductive ReceiverStep (host : Host) (op : SystemOp) (handle : ConnHandle) :
    Option TcpConn → TcpConn → Prop where
  | kept {conn after : TcpConn} (same : SameReceiver conn after)
      (state : conn.state.Later after.state)
      (beside : ∀ seg mbufCtx env, op ≠ .call (.segment handle seg mbufCtx env)) :
      ReceiverStep host op handle (some conn) after
  | opening {after : TcpConn} (rcvWnd : after.rcvWnd = min host.engine.cfg.recvBufferBytes 65535)
      (recv : after.recv = RecvQueue.new host.engine.cfg.recvBufferBytes)
      (state : after.state.synchronized = false) :
      ReceiverStep host op handle none after
  | segment {conn after : TcpConn} (seg : ParsedSegment) (mbufCtx : Option MbufInsertCtx)
      (env : InputEnv) (called : op = .call (.segment handle seg mbufCtx env))
      (dispatched : Dispatched)
      (processed : dispatched =
        dispatch conn seg env.clock host.engine.cfg.sendBufferBytes mbufCtx)
      (same : SameReceiver (dispatched.conn.handOver dispatched.outcome.delivered) after)
      (state : (dispatched.outcome.newState.getD conn.state).Later after.state) :
      ReceiverStep host op handle (some conn) after

namespace Engine

variable (engine : Engine) (handle : ConnHandle)

/-- The connections after `deliver_readable`. -/
theorem handOver_conns (delivered rxHwTsNs emittedTsNs : ℕ) {other : ConnHandle}
    {conn' : TcpConn}
    (live : (engine.handOver handle delivered rxHwTsNs emittedTsNs).flowTable.get other =
      some conn') :
    ∃ conn, engine.flowTable.get other = some conn ∧
      (other ≠ handle ∧ conn' = conn ∨
        other = handle ∧ conn' =
          { conn with
            recv := { conn.recv with bytes := (splitDelivered delivered conn.recv.bytes).rest }
            deliveredSegments := [] }) := by
  dsimp only [handOver, deliverReadable] at live
  split at live
  · rename_i absent
    refine ⟨conn', live, Or.inl ⟨?_, rfl⟩⟩
    rintro rfl
    rw [absent] at live
    cases live
  · rename_i conn present
    dsimp only at live
    rw [FlowTable.get_set present] at live
    split at live
    · rename_i same
      cases live
      exact ⟨conn, same ▸ present, Or.inr ⟨same, rfl⟩⟩
    · rename_i differs
      exact ⟨conn', live, Or.inl ⟨differs, rfl⟩⟩

/-- The receive sides after a segment. -/
theorem tcpInput_receivers (seg : ParsedSegment) (mbufCtx : Option MbufInsertCtx)
    (env : InputEnv) {other : ConnHandle} {conn' : TcpConn}
    (live : (engine.tcpInput handle seg mbufCtx env).flowTable.get other = some conn') :
    ∃ conn, engine.flowTable.get other = some conn ∧
      (other ≠ handle ∧ SameReceiver conn conn' ∨
        other = handle ∧ ∃ dispatched,
          dispatched = dispatch conn seg env.clock engine.cfg.sendBufferBytes mbufCtx ∧
          SameReceiver (dispatched.conn.handOver dispatched.outcome.delivered) conn') := by
  cases present : engine.flowTable.get handle with
  | none =>
      have idle : engine.tcpInput handle seg mbufCtx env = engine :=
        tcpInput_absent present seg mbufCtx env
      rw [idle] at live
      refine ⟨conn', live, Or.inl ⟨?_, SameReceiver.refl conn'⟩⟩
      rintro rfl
      rw [present] at live
      cases live
  | some conn =>
      obtain ⟨dispatched, processed⟩ : ∃ dispatched, dispatched =
        dispatch conn seg env.clock engine.cfg.sendBufferBytes mbufCtx := ⟨_, rfl⟩
      rcases tcpInput_edits engine handle present seg mbufCtx env processed with
        ⟨moved, before, after⟩
      rcases after.conns live with ⟨handed, liveHanded, sameAfter⟩
      have movedConn : ∃ mid, moved.flowTable.get other = some mid ∧
          (other ≠ handle ∧ handed = mid ∨
            other = handle ∧ SameReceiver (mid.handOver dispatched.outcome.delivered) handed) := by
        split at liveHanded
        · rename_i positive
          rcases handOver_conns moved handle _ _ _ liveHanded with
            ⟨mid, liveMid, ⟨differs, same⟩ | ⟨same, rfl⟩⟩
          · exact ⟨mid, liveMid, Or.inl ⟨differs, same⟩⟩
          · refine ⟨mid, liveMid, Or.inr ⟨same, rfl, rfl, rfl, rfl, rfl, ?_, ?_⟩⟩
            · dsimp only [TcpConn.handOver]
              rw [if_pos positive]
            · dsimp only [TcpConn.handOver]
              rw [if_pos positive]
        · rename_i nothing
          refine ⟨handed, liveHanded, ?_⟩
          by_cases same : other = handle
          · refine Or.inr ⟨same, rfl, rfl, rfl, rfl, rfl, ?_, ?_⟩
            · dsimp only [TcpConn.handOver]
              rw [if_neg nothing]
            · dsimp only [TcpConn.handOver]
              rw [if_neg nothing]
          · exact Or.inl ⟨same, rfl⟩
      rcases movedConn with ⟨mid, liveMid, handedOver⟩
      rcases before.conns liveMid with ⟨written, liveWritten, sameBefore⟩
      dsimp only [Engine.written] at liveWritten
      rw [FlowTable.get_set present] at liveWritten
      rcases handedOver with ⟨differs, rfl⟩ | ⟨same, handedOver⟩
      · rw [if_neg differs] at liveWritten
        exact ⟨written, liveWritten, Or.inl ⟨differs, sameBefore.trans sameAfter⟩⟩
      · rw [if_pos same] at liveWritten
        cases liveWritten
        exact ⟨conn, same ▸ present, Or.inr ⟨same, dispatched, processed,
          ((sameBefore.handOver _).trans handedOver).trans sameAfter⟩⟩

/-- The receive sides after a connection was opened. -/
theorem connectWithOpts_receivers (tuple : FourTuple) (iss : Seq) (ourMss : UInt16)
    (opts : ConnectOpts) (synSent : Bool) (nowNs : ℕ) {other : ConnHandle} {conn' : TcpConn}
    (live : (engine.connectWithOpts tuple iss ourMss opts synSent nowNs).1.flowTable.get other =
      some conn') :
    (∃ conn, engine.flowTable.get other = some conn ∧ SameReceiver conn conn') ∨
      engine.flowTable.get other = none ∧
        SameReceiver (engine.connecting tuple iss ourMss opts nowNs) conn' := by
  have unchanged : engine.flowTable.get other = some conn' →
      (∃ conn, engine.flowTable.get other = some conn ∧ SameReceiver conn conn') ∨
        engine.flowTable.get other = none ∧
          SameReceiver (engine.connecting tuple iss ourMss opts nowNs) conn' :=
    fun same => Or.inl ⟨conn', same, SameReceiver.refl conn'⟩
  dsimp only [connectWithOpts] at live
  split at live
  · exact unchanged live
  · split at live
    · exact unchanged live
    · split at live
      · exact unchanged live
      · rename_i fresh inserted
        have table := FlowTable.get_insert
          (Prod.ext rfl inserted : engine.flowTable.insert _ = (_, some fresh))
        split at live
        · dsimp only [dropConn] at live
          rw [FlowTable.get_remove] at live
          split at live
          · cases live
          · rename_i differs
            rw [(table other).2, if_neg differs] at live
            exact unchanged live
        · rcases (Edits.trans (transitionConn_edits _ fresh .synSent nowNs)
            (armSynRetrans_edits _ fresh nowNs _)).conns live with ⟨conn, present, same⟩
          dsimp only [recordOpened, recordSentAtOnce] at present
          rw [(table other).2] at present
          split at present
          · rename_i isFresh
            cases present
            exact Or.inr ⟨isFresh ▸ (table other).1, same⟩
          · exact Or.inl ⟨conn, present, same⟩

end Engine

/-! ### Steps -/

theorem TcpState.later_finSent {state : TcpState}
    (running : state = .established ∨ state = .closeWait) :
    state.Later (if state = .established then .finWait1 else .lastAck) := by
  rcases running with rfl | rfl <;> simp [Later, synchronized]

namespace Host

variable (host : Host)

theorem receiverStep_of_edits {op : SystemOp} {handle : ConnHandle} {conn' : TcpConn}
    {after : Engine} (edits : host.engine.Edits after)
    (live : after.flowTable.get handle = some conn')
    (state : ∀ conn, host.engine.flowTable.get handle = some conn →
      conn.state.Later conn'.state)
    (beside : ∀ seg mbufCtx env, op ≠ .call (.segment handle seg mbufCtx env)) :
    ReceiverStep host op handle (host.engine.flowTable.get handle) conn' := by
  rcases edits.conns live with ⟨conn, present, same⟩
  rw [present]
  exact .kept same (state conn present) beside

theorem step_edits {op : EngineOp} (isQuiet : quiet op = true) :
    host.engine.Edits (host.step op).engine := by
  cases op with
  | advance nowNs => exact .same rfl rfl rfl rfl
  | fireNext env =>
      dsimp only [step]
      split
      · exact .refl _
      · exact Engine.fireTimer_edits host.engine _ _ env
  | flush sent => exact Engine.drainTxPendingData_edits host.engine sent
  | reap nowNs => exact Engine.reapTimeWait_edits host.engine nowNs
  | twSkip target nowNs => exact Engine.requestTwSkip_edits host.engine target nowNs
  | connect | send | close | segment => cases isQuiet

theorem step_receiver (op : EngineOp) {handle : ConnHandle} {conn' : TcpConn}
    (live : (host.step op).engine.flowTable.get handle = some conn') :
    ReceiverStep host (.call op) handle (host.engine.flowTable.get handle) conn' := by
  have states := host.step_conns op live
  have moved : quiet op = true →
      ReceiverStep host (.call op) handle (host.engine.flowTable.get handle) conn' := by
    intro isQuiet
    refine host.receiverStep_of_edits (host.step_edits isQuiet) live ?_ ?_
    swap
    · rintro seg mbufCtx env ⟨⟩
      cases isQuiet
    intro conn present
    rcases (host.step_moved isQuiet).conns handle conn' live with ⟨_, present', kept⟩
    rw [present] at present'
    cases present'
    exact kept.state
  cases op with
  | connect tuple iss ourMss opts synSent nowNs =>
      rcases Engine.connectWithOpts_receivers host.engine tuple iss ourMss opts synSent nowNs live
        with ⟨conn, present, same⟩ | ⟨absent, same⟩
      · rw [present] at states ⊢
        cases states with
        | kept kept => exact .kept same kept.state (by simp)
      · rw [absent] at states ⊢
        cases states with
        | opening opening =>
            refine .opening same.rcvWnd same.recv ?_
            rcases opening.closes with state | state <;> rw [state] <;> rfl
  | send target bytes envs tlpNs =>
      refine host.receiverStep_of_edits
        (Engine.sendBytes_edits host.engine target bytes envs tlpNs) live ?_ (by simp)
      intro conn present
      rw [present] at states
      cases states with
      | kept kept => exact kept.state
      | sent running news sent => exact sent.state
  | close target finSent nowNs =>
      refine host.receiverStep_of_edits (Engine.closeConn_edits host.engine target finSent nowNs)
        live ?_ (by simp)
      intro conn present
      rw [present] at states
      cases states with
      | kept kept => exact kept.state
      | fin running sent state =>
          rw [state]
          exact TcpState.later_finSent running
  | segment target seg mbufCtx env =>
      rcases Engine.tcpInput_receivers host.engine target seg mbufCtx env live with
        ⟨conn, present, received⟩
      rcases Engine.tcpInput_written host.engine target seg mbufCtx env live with
        ⟨_, present', written⟩
      rw [present] at present' ⊢
      cases present'
      rcases received with ⟨differs, same⟩ | ⟨rfl, dispatched, rfl, same⟩
      · rcases written with ⟨_, kept⟩ | ⟨same, _⟩
        · refine .kept same kept.state ?_
          rintro _ _ _ ⟨⟩
          exact differs rfl
        · exact absurd same differs
      · rcases written with ⟨differs, _⟩ | ⟨_, _, rfl, kept⟩
        · exact absurd rfl differs
        · exact .segment seg mbufCtx env rfl _ rfl same kept.state
  | advance | fireNext | flush | reap | twSkip => exact moved rfl

theorem completeFrame_flowTable (engine : Engine) (index : ℕ) :
    (engine.completeFrame index).flowTable = engine.flowTable := by
  unfold Engine.completeFrame
  split
  · rfl
  · rw [Engine.releaseMbufs_only]

theorem drop_get (engine : Engine) (handle : ConnHandle) :
    engine.drop.flowTable.get handle = none := by
  have cleared : engine.drop.flowTable = engine.flowTable.clearAll := by
    unfold Engine.drop
    rw [Engine.releaseMbufs_only]
  rw [cleared, FlowTable.get, List.getD_eq_getElem?_getD]
  simp only [FlowTable.clearAll, List.getElem?_map]
  cases engine.flowTable.slots[handle - 1]? <;> simp

theorem systemStep_cfg (host : Host) (op : SystemOp) :
    (host.systemStep op).engine.cfg = host.engine.cfg := by
  cases op with
  | call op => exact host.step_cfg op
  | complete index =>
      dsimp only [systemStep, Engine.completeFrame]
      split
      · rfl
      · rw [Engine.releaseMbufs_only]
  | drainEvents max => rfl
  | drop =>
      dsimp only [systemStep, Engine.drop]
      rw [Engine.releaseMbufs_only]

theorem systemStep_receiver (op : SystemOp) {handle : ConnHandle} {conn' : TcpConn}
    (live : (host.systemStep op).engine.flowTable.get handle = some conn') :
    ReceiverStep host op handle (host.engine.flowTable.get handle) conn' := by
  have unchanged : (host.systemStep op).engine.flowTable = host.engine.flowTable →
      (∀ seg mbufCtx env, op ≠ .call (.segment handle seg mbufCtx env)) →
      ReceiverStep host op handle (host.engine.flowTable.get handle) conn' := by
    intro same beside
    rw [← same, live]
    exact .kept (SameReceiver.refl conn') (TcpState.Later.refl _) beside
  cases op with
  | call op => exact host.step_receiver op live
  | complete index => exact unchanged (completeFrame_flowTable host.engine index) (by simp)
  | drainEvents max => exact unchanged rfl (by simp)
  | drop =>
      rw [systemStep, drop_get] at live
      cases live

end Host

/-! ### What a dispatch moves -/

/-- The handshake either leaves the connection as it is and sends no ACK, or it
adopts the peer's numbers and is acknowledged. -/
theorem handleSynSent_opens (conn : TcpConn) (seg : ParsedSegment) (clock : Readings) :
    (handleSynSent conn seg clock).outcome.rackLostIndexes = [] ∧
      (handleSynSent conn seg clock).outcome.delivered = 0 ∧
      (((handleSynSent conn seg clock).conn = conn ∧
          (handleSynSent conn seg clock).outcome.tx ≠ .ack ∧
          ((handleSynSent conn seg clock).outcome.newState = none ∨
            (handleSynSent conn seg clock).outcome.newState = some .closed)) ∨
        ∃ opts, parseOptions seg.options = .ok opts ∧ conn.takesSynAck seg = true ∧
          (handleSynSent conn seg clock).outcome.newState = some .established ∧
          SameReceiver (adoptSynAck conn seg opts clock.synTsRecent)
            (handleSynSent conn seg clock).conn) := by
  unfold handleSynSent
  split
  · split <;> exact ⟨rfl, rfl, Or.inl ⟨rfl, nofun, by simp [Outcome.none]⟩⟩
  · rename_i reset
    split
    · exact ⟨rfl, rfl, Or.inl ⟨rfl, nofun, by simp⟩⟩
    · rename_i syn
      split
      · exact ⟨rfl, rfl, Or.inl ⟨rfl, nofun, by simp [Outcome.none]⟩⟩
      · rename_i acked
        split
        · exact ⟨rfl, rfl, Or.inl ⟨rfl, nofun, by simp⟩⟩
        · rename_i known
          split
          · exact ⟨rfl, rfl, Or.inl ⟨rfl, nofun, by simp⟩⟩
          · rename_i opts decoded
            refine ⟨rfl, rfl, Or.inr ⟨opts, decoded, ?_, rfl, ?_⟩⟩
            · simp only [Bool.not_eq_true, Bool.not_eq_true', Bool.not_eq_false] at reset syn acked known
              simp [TcpConn.takesSynAck, reset, syn, acked, known, decoded, Except.isOk,
                Except.toBool]
            · dsimp only
              rw [maybeSeed_only]
              exact ⟨rfl, rfl, rfl, rfl, rfl, rfl, rfl⟩

/-- Outside the handshake `rcv_nxt` moves by what the ledger counts. -/
theorem dispatch_taken {conn : TcpConn} (opened : conn.state ≠ .synSent) (seg : ParsedSegment)
    (clock : Readings) (sendBuf : ℕ) (mbufCtx : Option MbufInsertCtx) :
    (dispatch conn seg clock sendBuf mbufCtx).conn.rcvNxt =
      seqAdd conn.rcvNxt ((dispatch conn seg clock sendBuf mbufCtx).taken conn) := by
  have moved : ∃ fin : Bool, (dispatch conn seg clock sendBuf mbufCtx).conn.rcvNxt =
      seqAdd conn.rcvNxt
        ((dispatch conn seg clock sendBuf mbufCtx).outcome.delivered + fin.toNat) := by
    cases dispatch_receives opened seg clock sendBuf mbufCtx with
    | idle delivered _ fin _ rcvNxt =>
        refine ⟨fin, ?_⟩
        rw [rcvNxt, delivered, Nat.zero_add]
    | data _ _ _ raced same _ fin _ delivered _ rcvNxt =>
        refine ⟨fin, ?_⟩
        rw [rcvNxt, (deliver_takes raced seg mbufCtx).rcvNxt, same.rcvNxt, delivered, seqAdd_add]
  rcases moved with ⟨fin, rcvNxt⟩
  rw [Dispatched.taken, tookFin_eq rcvNxt]
  exact rcvNxt

/-- A connection in no synchronized state ignores every segment, unless it is in SYN_SENT. -/
theorem dispatch_unsynchronized {conn : TcpConn} (opened : conn.state ≠ .synSent)
    (waiting : conn.state.synchronized = false) (seg : ParsedSegment) (clock : Readings)
    (sendBuf : ℕ) (mbufCtx : Option MbufInsertCtx) :
    (dispatch conn seg clock sendBuf mbufCtx).outcome = Outcome.none := by
  unfold dispatch
  cases state : conn.state with
  | synSent => exact absurd state opened
  | closed | listen | synReceived => rfl
  | established | finWait1 | finWait2 | closing | lastAck | closeWait | timeWait =>
      rw [state] at waiting
      cases waiting

/-- Outside the handshake a dispatch decides on a synchronized state only in one. -/
theorem dispatch_synchronized {conn : TcpConn} (opened : conn.state ≠ .synSent)
    {seg : ParsedSegment} {clock : Readings} {sendBuf : ℕ} {mbufCtx : Option MbufInsertCtx}
    {dispatched : Dispatched}
    (processed : dispatched = dispatch conn seg clock sendBuf mbufCtx)
    (running : (dispatched.outcome.newState.getD conn.state).synchronized = true) :
    conn.state.synchronized = true := by
  by_contra waiting
  rw [Bool.not_eq_true] at waiting
  rw [processed, dispatch_unsynchronized opened waiting] at running
  exact absurd running (by simpa [Outcome.none] using waiting)

namespace Ledger

/-! ### What is shown -/

/-- The connection a segment of ours is built from: one in a synchronized state, or what
a dispatch left. -/
inductive Shown (host : Host) (op : EngineOp) (handle : ConnHandle) (conn : TcpConn) :
    TcpConn → Prop where
  | own (running : conn.state.synchronized = true)
      (beside : ∀ seg mbufCtx env, op ≠ .segment handle seg mbufCtx env) :
      Shown host op handle conn conn
  | answer (seg : ParsedSegment) (mbufCtx : Option MbufInsertCtx) (env : InputEnv)
      (called : op = .segment handle seg mbufCtx env) (dispatched : Dispatched)
      (processed : dispatched =
        dispatch conn seg env.clock host.engine.cfg.sendBufferBytes mbufCtx)
      (sent : dispatched.outcome.rackLostIndexes ≠ [] ∨ dispatched.outcome.tx = .ack) :
      Shown host op handle conn dispatched.conn

theorem sendBytes_established {engine : Engine} {handle : ConnHandle} {bytes : List UInt8}
    {envs : ℕ → SendEnv} {tlpNs accepted : ℕ}
    (sent : (engine.sendBytes handle bytes envs tlpNs).2 = .ok accepted) :
    ∃ conn, engine.flowTable.get handle = some conn ∧ conn.state = .established := by
  dsimp only [Engine.sendBytes] at sent
  split at sent
  · cases sent
  · rename_i conn present
    split at sent
    · cases sent
    · rename_i running
      exact ⟨conn, present, not_not.mp running⟩

theorem shown_of_showing {host : Host} {handle : ConnHandle} {op : EngineOp} {shown : TcpConn}
    (showing : host.showing handle op = some shown) :
    ∃ conn, host.engine.flowTable.get handle = some conn ∧ Shown host op handle conn shown := by
  cases op with
  | send target bytes envs tlpNs =>
      dsimp only [Host.showing] at showing
      split at showing
      · rename_i accepted sent
        split at showing
        · rename_i same
          rcases sendBytes_established sent with ⟨conn, present, running⟩
          rw [same, showing] at present
          cases present
          exact ⟨shown, showing, .own (by rw [running]; rfl) (by simp)⟩
        · cases showing
      · cases showing
  | close target finSent nowNs =>
      dsimp only [Host.showing] at showing
      split at showing
      · rcases Option.filter_eq_some_iff.mp showing with ⟨present, running⟩
        refine ⟨shown, present, .own ?_ (by simp)⟩
        simp only [Bool.or_eq_true, decide_eq_true_eq] at running
        rcases running with running | running <;> rw [running] <;> rfl
      · cases showing
  | segment target seg mbufCtx env =>
      dsimp only [Host.showing] at showing
      split at showing
      · rename_i same
        rcases Option.bind_eq_some_iff.mp showing with ⟨conn, present, chosen⟩
        split at chosen
        · rename_i sent
          cases chosen
          exact ⟨conn, present, .answer seg mbufCtx env (by rw [same]) _ rfl
            (sent.imp_right And.left)⟩
        · cases chosen
      · cases showing
  | fireNext env =>
      dsimp only [Host.showing] at showing
      split at showing
      · split at showing
        · rcases Option.filter_eq_some_iff.mp showing with ⟨present, running⟩
          exact ⟨shown, present, .own running (by simp)⟩
        · cases showing
      · cases showing
  | connect | advance | flush | reap | twSkip => cases showing

/-- What a step advertises is shown by a connection. -/
theorem mem_advertised {ledger : Ledger} {handle : ConnHandle} {op : SystemOp} {advert : Advert}
    (member : advert ∈ ledger.advertised handle op) :
    ∃ call conn shown, op = .call call ∧ ledger.host.engine.flowTable.get handle = some conn ∧
      Shown ledger.host call handle conn shown ∧
      advert = shown.advert (ledger.ackedAfter handle op) := by
  cases op with
  | call call =>
      rw [advertised, Option.mem_toList] at member
      rcases Option.map_eq_some_iff.mp member with ⟨shown, showing, rfl⟩
      rcases shown_of_showing showing with ⟨conn, present, from_⟩
      exact ⟨call, conn, shown, rfl, present, from_, rfl⟩
  | complete | drainEvents | drop => cases member

/-- Beside a segment, a connection shows its own window. -/
theorem mem_advertised_beside {ledger : Ledger} {handle : ConnHandle} {op : SystemOp}
    {conn : TcpConn} {advert : Advert}
    (present : ledger.host.engine.flowTable.get handle = some conn)
    (beside : ∀ seg mbufCtx env, op ≠ .call (.segment handle seg mbufCtx env))
    (member : advert ∈ ledger.advertised handle op) :
    conn.state.synchronized = true ∧ advert = conn.advert (ledger.ackedAfter handle op) := by
  rcases mem_advertised member with ⟨call, _, shown, rfl, present', from_, rfl⟩
  rw [present] at present'
  cases present'
  cases from_ with
  | own running _ => exact ⟨running, rfl⟩
  | answer seg mbufCtx env isSegment => exact absurd (congrArg _ isSegment) (beside _ _ _)

/-- In answer to a segment, a connection shows the window the dispatch left. -/
theorem mem_advertised_segment {ledger : Ledger} {handle : ConnHandle} {seg : ParsedSegment}
    {mbufCtx : Option MbufInsertCtx} {env : InputEnv} {conn : TcpConn} {dispatched : Dispatched}
    {advert : Advert} (present : ledger.host.engine.flowTable.get handle = some conn)
    (processed : dispatched =
      dispatch conn seg env.clock ledger.host.engine.cfg.sendBufferBytes mbufCtx)
    (member : advert ∈ ledger.advertised handle (.call (.segment handle seg mbufCtx env))) :
    (dispatched.outcome.rackLostIndexes ≠ [] ∨ dispatched.outcome.tx = .ack) ∧
      advert = dispatched.conn.advert
        (ledger.ackedAfter handle (.call (.segment handle seg mbufCtx env))) := by
  rcases mem_advertised member with ⟨call, _, shown, ⟨⟩, present', from_, rfl⟩
  rw [present] at present'
  cases present'
  cases from_ with
  | own _ beside => exact absurd rfl (beside seg mbufCtx env)
  | answer seg' mbufCtx' env' isSegment dispatched' processed' sent =>
      cases isSegment
      rw [← processed] at processed'
      rw [processed'] at sent ⊢
      exact ⟨sent, rfl⟩

/-! ### Where `rcv_nxt` is -/

/-- Nothing is advertised in SYN_SENT, and afterwards the ledger knows where `rcv_nxt` is. -/
structure Placed (ledger : Ledger) (handle : ConnHandle) (conn : TcpConn) : Prop where
  silent : conn.state = .synSent → ledger.adverts handle = []
  rcvNxt : conn.state.synchronized = true →
    conn.rcvNxt = seqAdd conn.irs (1 + ledger.acked handle)

variable {ledger : Ledger} {op : SystemOp} {handle : ConnHandle} {conn after : TcpConn}

theorem ackedAfter_beside
    (beside : ∀ seg mbufCtx env, op ≠ .call (.segment handle seg mbufCtx env)) :
    ledger.ackedAfter handle op = ledger.acked handle := by
  unfold ackedAfter
  split
  · rename_i target seg mbufCtx env
    split
    · rw [if_pos]
      rintro rfl
      exact beside seg mbufCtx env rfl
    · rfl
  · rfl

theorem ackedAfter_segment (present : ledger.host.engine.flowTable.get handle = some conn)
    (seg : ParsedSegment) (mbufCtx : Option MbufInsertCtx) (env : InputEnv) :
    ledger.ackedAfter handle (.call (.segment handle seg mbufCtx env)) =
      if conn.state = .synSent then 0
      else
        ledger.acked handle +
          (dispatch conn seg env.clock ledger.host.engine.cfg.sendBufferBytes mbufCtx).taken
            conn := by
  rw [ackedAfter, present]
  exact if_neg (by simp)

theorem step_adverts (present : ledger.host.engine.flowTable.get handle = some conn) :
    (ledger.step op).adverts handle = ledger.adverts handle ++ ledger.advertised handle op := by
  dsimp only [step]
  rw [present]
  rfl

theorem step_adverts_absent (absent : ledger.host.engine.flowTable.get handle = none) :
    (ledger.step op).adverts handle = [] := by
  dsimp only [step]
  rw [absent]
  rfl

/-- A connection in SYN_SENT shows nothing before its SYN-ACK. -/
theorem advertised_of_opening {seg : ParsedSegment} {mbufCtx : Option MbufInsertCtx}
    {env : InputEnv} (present : ledger.host.engine.flowTable.get handle = some conn)
    (opening : conn.state = .synSent)
    (refused : (handleSynSent conn seg env.clock).outcome.tx ≠ .ack) :
    ledger.advertised handle (.call (.segment handle seg mbufCtx env)) = [] := by
  rw [List.eq_nil_iff_forall_not_mem]
  intro advert member
  have shake : handleSynSent conn seg env.clock =
      dispatch conn seg env.clock ledger.host.engine.cfg.sendBufferBytes mbufCtx := by
    rw [dispatch, opening]
  rcases (mem_advertised_segment present shake member).1 with lost | acked
  · exact lost (handleSynSent_opens conn seg env.clock).1
  · exact refused acked

/-- Outside the handshake, only a connection in a synchronized state answers. -/
theorem synchronized_of_advertised {seg : ParsedSegment} {mbufCtx : Option MbufInsertCtx}
    {env : InputEnv} {advert : Advert}
    (present : ledger.host.engine.flowTable.get handle = some conn)
    (opened : conn.state ≠ .synSent)
    (member : advert ∈ ledger.advertised handle (.call (.segment handle seg mbufCtx env))) :
    conn.state.synchronized = true := by
  by_contra waiting
  rw [Bool.not_eq_true] at waiting
  have answered := (mem_advertised_segment present rfl member).1
  rw [dispatch_unsynchronized opened waiting] at answered
  rcases answered with lost | acked
  · exact lost rfl
  · cases acked

theorem Placed.step (placed : ∀ handle conn,
      ledger.host.engine.flowTable.get handle = some conn → ledger.Placed handle conn)
    (live : (ledger.step op).host.engine.flowTable.get handle = some after) :
    (ledger.step op).Placed handle after := by
  have received := ledger.host.systemStep_receiver op live
  cases present : ledger.host.engine.flowTable.get handle with
  | none =>
      rw [present] at received
      cases received with
      | opening _ _ state =>
          refine ⟨fun _ => step_adverts_absent present, ?_⟩
          intro running
          rw [state] at running
          cases running
  | some conn =>
      have before := placed handle conn present
      rw [present] at received
      cases received with
      | kept same state beside =>
          refine ⟨?_, ?_⟩
          · intro opening
            have opening := state.eq_synSent opening
            rw [step_adverts present, before.silent opening, List.nil_append,
              List.eq_nil_iff_forall_not_mem]
            intro advert member
            have running := (mem_advertised_beside present beside member).1
            rw [opening] at running
            cases running
          · intro running
            dsimp only [Ledger.step]
            rw [ackedAfter_beside beside, same.rcvNxt, same.irs]
            exact before.rcvNxt (state.synchronized running)
      | segment seg mbufCtx env called dispatched processed same state =>
          subst called
          have ends := dispatch_ends conn seg env.clock ledger.host.engine.cfg.sendBufferBytes
            mbufCtx
          rw [← processed] at ends
          by_cases opening : conn.state = .synSent
          · have opens := handleSynSent_opens conn seg env.clock
            have shake : dispatched = handleSynSent conn seg env.clock := by
              rw [processed, dispatch, opening]
            rw [← shake] at opens
            rcases opens with ⟨_, _, ⟨_, unsent, decided⟩ | ⟨opts, _, _, decided, adopted⟩⟩
            · refine ⟨?_, ?_⟩
              · intro _
                rw [step_adverts present, before.silent opening, List.nil_append]
                rw [shake] at unsent
                exact advertised_of_opening present opening unsent
              · intro running
                have running := state.synchronized running
                rcases decided with decided | decided <;> rw [decided] at running
                · rw [Option.getD_none, opening] at running
                  cases running
                · cases running
            · refine ⟨?_, ?_⟩
              · intro waiting
                have waiting := state.eq_synSent waiting
                rw [decided] at waiting
                cases waiting
              · intro _
                dsimp only [Ledger.step]
                rw [ackedAfter_segment present, if_pos opening, same.rcvNxt, same.irs]
                dsimp only [TcpConn.handOver]
                rw [adopted.rcvNxt, adopted.irs]
                rfl
          · refine ⟨?_, ?_⟩
            · intro waiting
              exact absurd (ends.opening (state.eq_synSent waiting)).1 opening
            · intro running
              have running := dispatch_synchronized opening processed (state.synchronized running)
              have owner := dispatch_sameOwner opening seg env.clock
                ledger.host.engine.cfg.sendBufferBytes mbufCtx
              have taken := dispatch_taken opening seg env.clock
                ledger.host.engine.cfg.sendBufferBytes mbufCtx
              dsimp only [Ledger.step]
              rw [ackedAfter_segment present, if_neg opening, same.rcvNxt, same.irs]
              rw [← processed] at owner taken ⊢
              dsimp only [TcpConn.handOver]
              rw [taken, owner.irs, before.rcvNxt running, ← seqAdd_add, Nat.add_assoc]

end Ledger

end DpdkTcp
