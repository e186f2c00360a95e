import DpdkTcp.Send.Segment
import DpdkTcp.Send.Stash
import DpdkTcp.Send.Failure
import DpdkTcp.Lib.Run

/-!
# What a step of the engine does to a send side

`Host.step_conns` says once how a connection can come out of a step, and
`Host.step_picks` which entries a step can look up for retransmission. The
invariants of runs are derived from these two.
-/

namespace DpdkTcp

namespace FlowTable

variable {table grown : FlowTable} {conn : TcpConn} {handle : ConnHandle}

theorem get_insert (inserted : table.insert conn = (grown, some handle)) (other : ConnHandle) :
    table.get handle = none ∧
      grown.get other = if other = handle then some conn else table.get other := by
  unfold insert at inserted
  split at inserted
  · cases inserted
  · split at inserted
    · cases inserted
    · rename_i slot free
      cases inserted
      rcases List.findIdx?_eq_some_iff_getElem.mp free with ⟨inside, empty, _⟩
      have vacant : table.slots[slot] = none := Option.isNone_iff_eq_none.mp empty
      constructor
      · simp [get, inside, vacant]
      · unfold get
        by_cases zero : other = 0
        · simp [zero]
        · by_cases same : other = slot + 1
          · simp [same, inside]
          · have apart : slot ≠ other - 1 := by
              intro equal
              rw [equal] at same
              exact same (Nat.succ_pred_eq_of_ne_zero zero).symm
            simp [zero, same, apart]

end FlowTable

/-- The connection once our FIN took a sequence number. -/
def TcpConn.finSent (conn : TcpConn) : TcpConn :=
  { conn with
    ourFinSeq := some conn.sndNxt
    sndNxt := seqAdd conn.sndNxt 1
    state := if conn.state = .established then .finWait1 else .lastAck }

/-- How a connection comes out of a step of the engine. -/
inductive ConnStep (engine : Engine) :
    EngineOp → ConnHandle → Option TcpConn → TcpConn → Prop where
  | kept {op : EngineOp} {handle : ConnHandle} {conn after : TcpConn} (kept : Kept conn after) :
      ConnStep engine op handle (some conn) after
  | opening {tuple : FourTuple} {iss : Seq} {ourMss : UInt16} {opts : ConnectOpts}
      {synSent : Bool} {nowNs : ℕ} {handle : ConnHandle} {after : TcpConn}
      (opening : KeptAs [] ((engine.connecting tuple iss ourMss opts nowNs).enter .synSent)
        after) :
      ConnStep engine (.connect tuple iss ourMss opts synSent nowNs) handle none after
  | sent {handle : ConnHandle} {bytes : List UInt8} {envs : ℕ → SendEnv} {tlpNs : ℕ}
      {conn after : TcpConn} (running : conn.state = .established) (news : List RetransEntry)
      (sent : SentTo envs news conn after) :
      ConnStep engine (.send handle bytes envs tlpNs) handle (some conn) after
  | fin {handle : ConnHandle} {nowNs : ℕ} {conn after : TcpConn}
      (running : conn.state = .established ∨ conn.state = .closeWait)
      (sent : Kept conn.finSent after) (state : after.state = conn.finSent.state) :
      ConnStep engine (.close handle true nowNs) handle (some conn) after
  | segment {handle : ConnHandle} {seg : ParsedSegment} {mbufCtx : Option MbufInsertCtx}
      {env : InputEnv} {conn after : TcpConn} (dispatched : Dispatched)
      (processed : dispatched =
        dispatch conn seg env.clock engine.cfg.sendBufferBytes mbufCtx)
      (kept : KeptAs (dispatched.conn.entriesLeft dispatched.outcome.sndUnaAdvancedTo)
        (dispatched.conn.enter (dispatched.outcome.newState.getD conn.state)) after) :
      ConnStep engine (.segment handle seg mbufCtx env) handle (some conn) after

namespace Engine

variable (engine : Engine) (handle : ConnHandle)

theorem closeConn_conns (finSent : Bool) (nowNs : ℕ) {other : ConnHandle} {conn' : TcpConn}
    (live : (engine.closeConn handle finSent nowNs).flowTable.get other = some conn') :
    ConnStep engine (.close handle finSent nowNs) other (engine.flowTable.get other) conn' := by
  have unchanged : engine.flowTable.get other = some conn' →
      ConnStep engine (.close handle finSent nowNs) other (engine.flowTable.get other) conn' := by
    intro same
    rw [same]
    exact .kept (Kept.refl conn')
  dsimp only [closeConn] at live
  split at live
  · exact unchanged live
  · rename_i conn present
    split at live
    · exact unchanged live
    · rename_i running
      split at live
      · exact unchanged live
      · rename_i sent
        simp only [Bool.not_eq_true', Bool.not_eq_false] at sent
        rw [sent]
        rcases transitionConn_conns _ _ _ _ live with ⟨written, liveWritten, entered, state⟩
        rw [modifyConn, FlowTable.get_modify] at liveWritten
        dsimp only [recordSentAtOnce] at liveWritten
        by_cases same : other = handle
        · rw [if_pos same, present] at liveWritten
          cases liveWritten
          rw [if_pos same] at state entered
          rw [same, present]
          refine .fin ?_ entered state
          by_contra neither
          exact running (not_or.mp neither)
        · rw [if_neg same] at liveWritten entered
          rw [liveWritten]
          exact .kept entered

theorem connectWithOpts_conns (tuple : FourTuple) (iss : Seq) (ourMss : UInt16)
    (opts : ConnectOpts) (synSent : Bool) (nowNs : ℕ) {other : ConnHandle} {conn' : TcpConn}
    (live : (engine.connectWithOpts tuple iss ourMss opts synSent nowNs).1.flowTable.get other =
      some conn') :
    ConnStep engine (.connect tuple iss ourMss opts synSent nowNs) other
      (engine.flowTable.get other) conn' := by
  have unchanged : engine.flowTable.get other = some conn' →
      ConnStep engine (.connect tuple iss ourMss opts synSent nowNs) other
        (engine.flowTable.get other) conn' := by
    intro same
    rw [same]
    exact .kept (Kept.refl conn')
  dsimp only [connectWithOpts] at live
  split at live
  · exact unchanged live
  · split at live
    · exact unchanged live
    · split at live
      · exact unchanged live
      · rename_i handle inserted
        have table := FlowTable.get_insert
          (Prod.ext rfl inserted : engine.flowTable.insert _ = (_, some handle))
        split at live
        · dsimp only [dropConn] at live
          rw [FlowTable.get_remove, (table other).2] at live
          split at live
          · cases live
          · exact unchanged live
        · generalize opened_eq : (({ engine with
            flowTable := (engine.flowTable.insert
              (engine.connecting tuple iss ourMss opts nowNs)).1 } : Engine).recordOpened handle
              iss).transitionConn handle .synSent nowNs = opened at live
          have timed : Moved (fun _ _ => False) opened _ := armSynRetrans_moved opened handle nowNs
            (max engine.cfg.tcpInitialRtoUs engine.cfg.tcpMinRtoUs)
          rcases timed.conns other conn' live with ⟨armed, liveArmed, kept⟩
          rw [← opened_eq] at liveArmed
          rcases transitionConn_conns _ _ _ _ liveArmed with ⟨written, liveWritten, entered, _⟩
          dsimp only [recordOpened, recordSentAtOnce] at liveWritten
          rw [(table other).2] at liveWritten
          by_cases same : other = handle
          · rw [if_pos same] at liveWritten entered
            cases liveWritten
            rw [same, (table handle).1]
            exact .opening (entered.trans kept)
          · rw [if_neg same] at liveWritten entered
            rw [liveWritten]
            exact .kept (entered.trans kept)

theorem connectWithOpts_frame (tuple : FourTuple) (iss : Seq) (ourMss : UInt16)
    (opts : ConnectOpts) (synSent : Bool) (nowNs : ℕ) :
    (engine.connectWithOpts tuple iss ourMss opts synSent nowNs).1.cfg = engine.cfg ∧
      (engine.connectWithOpts tuple iss ourMss opts synSent nowNs).1.picked = engine.picked := by
  dsimp only [connectWithOpts]
  split
  · exact ⟨rfl, rfl⟩
  · split
    · exact ⟨rfl, rfl⟩
    · split
      · exact ⟨rfl, rfl⟩
      · split
        · exact ⟨rfl, rfl⟩
        · exact ⟨transitionConn_cfg _ _ _ _, transitionConn_picked _ _ _ _⟩

theorem requestTwSkip_moved {allowed : ConnHandle → ℕ → Prop} (nowNs : ℕ) :
    Moved allowed engine (engine.requestTwSkip handle nowNs) := by
  unfold requestTwSkip
  split
  · apply modifyConn_moved
    intro conn _
    exact ⟨rfl, EntriesKept.refl _, Or.inl rfl⟩
  · exact .of_same rfl rfl rfl

theorem closeConn_frame (finSent : Bool) (nowNs : ℕ) :
    (engine.closeConn handle finSent nowNs).cfg = engine.cfg ∧
      (engine.closeConn handle finSent nowNs).picked = engine.picked := by
  dsimp only [closeConn]
  split
  · exact ⟨rfl, rfl⟩
  · split
    · exact ⟨rfl, rfl⟩
    · split
      · exact ⟨rfl, rfl⟩
      · exact ⟨transitionConn_cfg _ _ _ _, transitionConn_picked _ _ _ _⟩

end Engine

namespace Host

/-- The steps that keep all send sides. -/
def quiet : EngineOp → Bool
  | .advance _ | .fireNext _ | .flush _ | .reap _ | .twSkip .. => true
  | _ => false

theorem step_moved (host : Host) {op : EngineOp} (isQuiet : quiet op = true) :
    host.engine.Moved (fun _ _ => True) (host.step op).engine := by
  cases op with
  | advance nowNs => exact .of_same rfl rfl rfl
  | fireNext env =>
      dsimp only [step]
      split
      · exact .refl _
      · exact Engine.fireTimer_moved host.engine _ _ env
  | flush sent => exact Engine.drainTxPendingData_moved host.engine sent
  | reap nowNs => exact Engine.reapTimeWait_moved host.engine nowNs
  | twSkip handle nowNs => exact Engine.requestTwSkip_moved host.engine handle nowNs
  | connect | send | close | segment => cases isQuiet

/-- How a connection comes out of a step. -/
theorem step_conns (host : Host) (op : EngineOp) {handle : ConnHandle} {conn' : TcpConn}
    (live : (host.step op).engine.flowTable.get handle = some conn') :
    ConnStep host.engine op handle (host.engine.flowTable.get handle) conn' := by
  have moved : quiet op = true →
      ConnStep host.engine op handle (host.engine.flowTable.get handle) conn' := by
    intro isQuiet
    rcases (host.step_moved isQuiet).conns handle conn' live with ⟨conn, present, kept⟩
    rw [present]
    exact .kept kept
  cases op with
  | connect tuple iss ourMss opts synSent nowNs =>
      exact Engine.connectWithOpts_conns host.engine tuple iss ourMss opts synSent nowNs live
  | send target bytes envs tlpNs =>
      rcases (Engine.sendBytes_conns host.engine target bytes envs tlpNs).2.2 handle conn' live with
        ⟨conn, present, kept | ⟨rfl, running, news, sent⟩⟩
      · rw [present]
        exact .kept kept
      · rw [present]
        exact .sent running news sent
  | close target finSent nowNs => exact Engine.closeConn_conns host.engine target finSent nowNs live
  | segment target seg mbufCtx env =>
      rcases Engine.tcpInput_written host.engine target seg mbufCtx env live with
        ⟨conn, present, ⟨_, kept⟩ | ⟨rfl, dispatched, processed, kept⟩⟩
      · rw [present]
        exact .kept kept
      · rw [present]
        exact .segment dispatched processed kept
  | advance | fireNext | flush | reap | twSkip => exact moved rfl

theorem step_cfg (host : Host) (op : EngineOp) : (host.step op).engine.cfg = host.engine.cfg := by
  cases op with
  | connect tuple iss ourMss opts synSent nowNs =>
      exact (Engine.connectWithOpts_frame host.engine tuple iss ourMss opts synSent nowNs).1
  | send target bytes envs tlpNs =>
      exact (Engine.sendBytes_conns host.engine target bytes envs tlpNs).1
  | close target finSent nowNs => exact (Engine.closeConn_frame host.engine target finSent nowNs).1
  | segment target seg mbufCtx env => exact Engine.tcpInput_cfg host.engine target seg mbufCtx env
  | advance | fireNext | flush | reap | twSkip => exact (host.step_moved rfl).cfg

/-- The entry of a pick by RACK, in the connection as `dispatch` left it. -/
def RackPick (engine : Engine) : EngineOp → Picked → Prop
  | .segment handle seg mbufCtx env, pick =>
      ∃ conn after index entry, pick.handle = handle ∧
        engine.flowTable.get handle = some conn ∧
        after = dispatch conn seg env.clock engine.cfg.sendBufferBytes mbufCtx ∧
        pick.sndUna = after.conn.sndUna ∧ index ∈ after.outcome.rackLostIndexes ∧
        after.conn.sndRetrans.entries[index]? = some entry ∧ EntryKept entry pick.entry
  | _, _ => False

/-- The entries a step looks up: those of the state before it, or those RACK chose. -/
theorem step_picks (host : Host) (op : EngineOp) :
    ∃ picks, (host.step op).engine.picked = host.engine.picked ++ picks ∧
      ∀ pick ∈ picks, host.engine.PickedFrom (fun _ _ => True) pick ∨
        RackPick host.engine op pick := by
  have unpicked : (host.step op).engine.picked = host.engine.picked →
      ∃ picks, (host.step op).engine.picked = host.engine.picked ++ picks ∧
        ∀ pick ∈ picks, host.engine.PickedFrom (fun _ _ => True) pick ∨
          RackPick host.engine op pick := by
    intro same
    exact ⟨[], by rw [same, List.append_nil], by simp⟩
  have moved : quiet op = true →
      ∃ picks, (host.step op).engine.picked = host.engine.picked ++ picks ∧
        ∀ pick ∈ picks, host.engine.PickedFrom (fun _ _ => True) pick ∨
          RackPick host.engine op pick := by
    intro isQuiet
    rcases (host.step_moved isQuiet).picks with ⟨picks, picked, origin⟩
    exact ⟨picks, picked, fun pick member => Or.inl (origin pick member)⟩
  cases op with
  | connect tuple iss ourMss opts synSent nowNs =>
      exact unpicked
        (Engine.connectWithOpts_frame host.engine tuple iss ourMss opts synSent nowNs).2
  | send target bytes envs tlpNs =>
      exact unpicked (Engine.sendBytes_conns host.engine target bytes envs tlpNs).2.1
  | close target finSent nowNs =>
      exact unpicked (Engine.closeConn_frame host.engine target finSent nowNs).2
  | segment target seg mbufCtx env =>
      rcases Engine.tcpInput_picks host.engine target seg mbufCtx env with ⟨picks, picked, origin⟩
      exact ⟨picks, picked, fun pick member => Or.inr (origin pick member)⟩
  | advance | fireNext | flush | reap | twSkip => exact moved rfl

theorem get_start (cfg : EngineConfig) (maxConnections eventSoftCap : ℕ) (handle : ConnHandle) :
    (Host.start cfg maxConnections eventSoftCap).engine.flowTable.get handle = none := by
  rw [← Option.not_isSome_iff_eq_none]
  intro live
  rcases Option.isSome_iff_exists.mp live with ⟨conn, live⟩
  rcases FlowTable.get_eq_some_iff.mp live with ⟨_, found⟩
  simp [Host.start, Engine.new, FlowTable.new, List.getElem?_replicate] at found

end Host

/-! ### Short runs -/

/-- A configuration with a retransmission timeout of a hundred microseconds. -/
def quickCfg : EngineConfig :=
  { openedEngine.cfg with tcpMinRtoUs := 100, tcpInitialRtoUs := 100 }

/-- A segment is processed at `nowNs`; its ACK goes out and header buffers are short. -/
def inputAt (nowNs : ℕ) : InputEnv :=
  { clock := Readings.at nowNs
    retransmits := fun _ => ⟨0, none, true, true, 0, nowNs, nowNs, nowNs⟩
    ackSent := true
    rxHwTsNs := 0
    nowNs := nowNs }

/-- A client opens a connection, which gets the handle 1. -/
def handshake : List EngineOp :=
  [.connect ⟨0x0a000002#32, 40000, 0x0a000001#32, 5000⟩ 100#32 1460
      ⟨false, false, 0, 0, false, 0, false⟩ true 1000,
    .segment 1 (synAck 100#32 200#32 5000) none (inputAt 1000)]

/-- Bytes are sent in one buffer. -/
def sendAt (nowNs : ℕ) (bytes : List UInt8) (mbuf : ℕ) : EngineOp :=
  .send 1 bytes (fun _ => ⟨some mbuf, true, 0, nowNs, nowNs⟩) nowNs

/-- The peer's segment reaches the connection. -/
def receiveAt (nowNs : ℕ) (seq ack : Seq) (flags : Flags) : EngineOp :=
  .segment 1 (peerSegment seq ack flags 5000 []) none (inputAt nowNs)

/-- A timer fires; the buffers for the headers are the given ones. -/
def fireAt (nowNs : ℕ) (hdrMbufs : ℕ → Option ℕ) : EngineOp :=
  .fireNext
    ⟨⟨nowNs, fun turn => ⟨1, hdrMbufs turn, true, true, 0, nowNs, nowNs, nowNs⟩, nowNs, nowNs,
        nowNs⟩,
      ⟨1, hdrMbufs 0, true, true, 0, nowNs, nowNs, nowNs⟩, nowNs⟩

/-- Where a list of operations leads from the start. -/
def Host.after (ops : List EngineOp) : Host :=
  ops.foldl Host.step (Host.start quickCfg 1 64)

theorem Host.after_reached (ops : List EngineOp) :
    Run.Reaches Host.step (fun _ _ => True) (Host.start quickCfg 1 64) (Host.after ops) := by
  have admitted : ∀ (ops : List EngineOp) (host : Host),
      Run.admits Host.step (fun _ _ => true) host ops = true := by
    intro ops
    induction ops with
    | nil => exact fun _ => rfl
    | cons op rest ih => exact fun host => ih (host.step op)
  exact (Run.Reaches.of_admits (admitted ops (Host.start quickCfg 1 64))).mono
    fun _ _ _ => trivial

end DpdkTcp
