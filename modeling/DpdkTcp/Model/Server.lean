import DpdkTcp.Model.Host

/-!
# The test server

What the feature `test-server` adds: listen slots, the SYN that opens a
connection from outside, `handle_syn_received`, and the places where a slot is
cleared or promoted. A slot holds at most one handshake and one connection that
waits to be accepted.
-/

namespace DpdkTcp

/-- `new_passive`. -/
def TcpConn.newPassive (tuple : FourTuple) (iss issPeer : Seq) (opts : TcpOpts) (ourMss : UInt16)
    (recvBufBytes sendBufBytes minRtoUs initialRtoUs maxRtoUs nowNs : ℕ) : TcpConn :=
  { TcpConn.newClient tuple iss ourMss recvBufBytes sendBufBytes minRtoUs initialRtoUs
      maxRtoUs with
    state := .synReceived
    isPassiveOpen := true
    rcvNxt := seqAdd issPeer 1
    irs := issPeer
    peerMss := opts.mss.getD 536
    wsShiftIn := min (opts.wscale.getD 0).toNat 14
    tsEnabled := opts.timestamps.isSome
    tsRecent :=
      match opts.timestamps with
      | some (tsVal, _) => tsVal
      | none => 0#32
    tsRecentAge := if opts.timestamps.isSome then nowNs else 0
    sackEnabled := opts.sackPermitted }

/-! ### Segments of a handshake -/

/-- The outcome, with the fields only this build has. -/
structure ServerOutcome extends Outcome where
  clearListenSlotOnClose : Bool := false
  reListenIfPassive : Bool := false
  retransmitSynAckForPassive : Bool := false
deriving DecidableEq, Repr

/-- What a handler of the test server leaves behind. -/
structure ServerDispatched where
  conn : TcpConn
  outcome : ServerOutcome
  refUpdates : List RefUpdate := []

/-- What the default build sees of it. -/
def ServerDispatched.plain (dispatched : ServerDispatched) : Dispatched :=
  { conn := dispatched.conn
    outcome := dispatched.outcome.toOutcome
    refUpdates := dispatched.refUpdates }

/-- The fields the last ACK of a handshake sets. The window is not scaled. -/
def adoptFinalAck (conn : TcpConn) (seg : ParsedSegment) (nowNs : ℕ) : TcpConn :=
  let acked :=
    { conn with
      sndUna := seg.ack
      sndWnd := seg.window.toNat
      sndWl1 := seg.seq
      sndWl2 := seg.ack }
  if conn.tsEnabled then
    match parseOptions seg.options with
    | .ok { timestamps := some (tsVal, _), .. } =>
        { acked with tsRecent := tsVal, tsRecentAge := nowNs }
    | _ => acked
  else acked

/-- The outcome that answers with a RST and frees the slot. -/
def handshakeRefused : ServerOutcome :=
  { tx := .rst, newState := some .closed, closed := true, clearListenSlotOnClose := true }

/-- `handle_syn_received`: the final ACK of a handshake opens the connection. -/
def handleSynReceived (conn : TcpConn) (seg : ParsedSegment) (nowNs : ℕ) : ServerDispatched :=
  if seg.flags.has TCP_RST then
    if conn.isPassiveOpen then
      { conn := conn, outcome := { closed := true, reListenIfPassive := true } }
    else
      { conn := conn
        outcome := { newState := some .closed, closed := true, clearListenSlotOnClose := true } }
  else if seg.flags.has TCP_SYN then
    if seg.seq = conn.irs then
      { conn := conn, outcome := { retransmitSynAckForPassive := true } }
    else { conn := conn, outcome := handshakeRefused }
  else if !seg.flags.has TCP_ACK then { conn := conn, outcome := {} }
  else if seg.seq ≠ conn.rcvNxt then
    { conn := conn, outcome := { tx := .ack, badSeq := true } }
  else if !synAcked conn seg then { conn := conn, outcome := handshakeRefused }
  else
    { conn := { adoptFinalAck conn seg nowNs with synRetransTimerId := none }
      outcome :=
        { newState := some .established
          connected := true
          synRetransTimerToCancel := conn.synRetransTimerId } }

/-- `dispatch` in this build. -/
def serverDispatch (conn : TcpConn) (seg : ParsedSegment) (clock : Readings)
    (sendBufferBytes : ℕ) (mbufCtx : Option MbufInsertCtx) : ServerDispatched :=
  if conn.state = .synReceived then handleSynReceived conn seg clock.synTsRecent
  else
    let dispatched := dispatch conn seg clock sendBufferBytes mbufCtx
    { conn := dispatched.conn
      outcome := { toOutcome := dispatched.outcome }
      refUpdates := dispatched.refUpdates }

/-! ### Slots -/

/-- The number of a listening slot. -/
abbrev ListenHandle := ℕ

/-- A listening address, with the connection that is ready and the one that is on its way. -/
structure ListenSlot where
  localIp : BitVec 32
  localPort : UInt16
  acceptQueue : Option ConnHandle
  inProgress : Option ConnHandle
deriving DecidableEq, Repr

namespace ListenSlot

/-- A slot that nobody has connected to. -/
def new (localIp : BitVec 32) (localPort : UInt16) : ListenSlot :=
  { localIp := localIp, localPort := localPort, acceptQueue := none, inProgress := none }

/-- A slot that refuses SYNs. -/
def full (slot : ListenSlot) : Bool :=
  slot.acceptQueue.isSome || slot.inProgress.isSome

end ListenSlot

/-- The slots in the order they were opened in. -/
abbrev ListenSlots := List (ListenHandle × ListenSlot)

namespace ListenSlots

/-- The first slot with a property is changed. -/
def changeFirst (chosen : ListenHandle × ListenSlot → Bool) (change : ListenSlot → ListenSlot) :
    ListenSlots → ListenSlots
  | [] => []
  | entry :: rest =>
      if chosen entry then (entry.1, change entry.2) :: rest
      else entry :: changeFirst chosen change rest

/-- `match_listen_slot`, with the slot. -/
def matchListenSlot (slots : ListenSlots) (dstIp : BitVec 32) (dstPort : UInt16) :
    Option (ListenHandle × ListenSlot) :=
  slots.find? fun entry => entry.2.localIp = dstIp && entry.2.localPort = dstPort

/-- `listen_promote_to_accept_queue`. -/
def listenPromoteToAcceptQueue (slots : ListenSlots) (handle : ConnHandle) : ListenSlots :=
  slots.changeFirst (fun entry => entry.2.inProgress = some handle) fun slot =>
    { slot with inProgress := none, acceptQueue := some handle }

/-- `clear_in_progress_for_conn`. -/
def clearInProgressForConn (slots : ListenSlots) (handle : ConnHandle) : ListenSlots :=
  slots.changeFirst (fun entry => entry.2.inProgress = some handle) fun slot =>
    { slot with inProgress := none }

end ListenSlots

/-! ### The engine under a server -/

namespace Engine

/-- The connection a SYN opens. -/
def passive (engine : Engine) (tuple : FourTuple) (iss issPeer : Seq) (opts : TcpOpts)
    (nowNs : ℕ) : TcpConn :=
  TcpConn.newPassive tuple iss issPeer opts (UInt16.ofNat engine.cfg.tcpMss)
    engine.cfg.recvBufferBytes engine.cfg.sendBufferBytes engine.cfg.tcpMinRtoUs
    engine.cfg.tcpInitialRtoUs engine.cfg.tcpMaxRtoUs nowNs

/-- Record that a SYN opened a connection. -/
def recordAccepted (engine : Engine) (handle : ConnHandle) : Engine :=
  { engine with record := { engine.record with opened := engine.record.opened ++ [handle] } }

/-- `emit_syn_ack_for_passive`, where `sent` tells whether the frame went out.
The timer is armed for the first SYN-ACK that does. -/
def emitSynAckForPassive (engine : Engine) (handle : ConnHandle) (sent : Bool) (nowNs : ℕ) :
    Engine :=
  match engine.flowTable.get handle with
  | none => engine
  | some conn =>
      if sent && conn.synRetransTimerId.isNone then
        engine.armSynRetrans handle nowNs (max engine.cfg.tcpInitialRtoUs engine.cfg.tcpMinRtoUs)
      else engine

/-- The end of `re_listen_if_from_passive`: cancel the timer of the SYN-ACK, free the slot. -/
def tearDownPassive (engine : Engine) (handle : ConnHandle) : Engine :=
  match engine.flowTable.get handle with
  | none => engine
  | some conn =>
      let cancelled :=
        match conn.synRetransTimerId with
        | some id =>
            (engine.cancelTimer id).modifyConn handle fun conn =>
              { conn with synRetransTimerId := none }
        | none => engine
      cancelled.dropConn handle

/-- The fire of this timer gives up a connection that was opened from outside. -/
def abandonsPassive (engine : Engine) (handle : ConnHandle) (firedId : TimerId) : Bool :=
  (engine.flowTable.get handle).any fun conn =>
    conn.synRetransTimerId = some firedId &&
      (conn.state = .synSent || conn.state = .synReceived) &&
      decide (3 < min (conn.synRetransCount + 1) 255) && conn.isPassiveOpen

end Engine

/-! ### The server -/

/-- A host that listens. -/
structure Server where
  host : Host
  listenSlots : ListenSlots
  nextListenId : ListenHandle

/-- What happens to a SYN that opens a connection. -/
structure ListenEnv where
  iss : Seq
  synAckSent : Bool
  nowNs : ℕ

/-- Why `listen` refuses. -/
inductive ListenError where
  | invalidArgument
  | tooManyConns
deriving DecidableEq, Repr

namespace Server

/-- A server that listens nowhere. -/
def start (cfg : EngineConfig) (maxConnections eventSoftCap : ℕ) : Server :=
  { host := Host.start cfg maxConnections eventSoftCap
    listenSlots := []
    nextListenId := 1 }

/-- Another engine behind the same slots. -/
def withEngine (server : Server) (engine : Engine) : Server :=
  { server with host := { server.host with engine := engine } }

/-- `listen`. -/
def listen (server : Server) (ip : BitVec 32) (port : UInt16) :
    Server × Except ListenError ListenHandle :=
  if server.listenSlots.any fun entry => entry.2.localIp = ip && entry.2.localPort = port then
    (server, .error .invalidArgument)
  else if U32_MAX < server.nextListenId + 1 then (server, .error .invalidArgument)
  else
    ({ server with
        nextListenId := server.nextListenId + 1
        listenSlots := server.listenSlots ++ [(server.nextListenId, ListenSlot.new ip port)] },
      .ok server.nextListenId)

/-- `accept_next`. -/
def acceptNext (server : Server) (listenHandle : ListenHandle) : Server × Option ConnHandle :=
  match server.listenSlots.find? fun entry => entry.1 = listenHandle with
  | none => (server, none)
  | some entry =>
      ({ server with
          listenSlots := server.listenSlots.changeFirst (fun entry => entry.1 = listenHandle)
            fun slot => { slot with acceptQueue := none } },
        entry.2.acceptQueue)

/-- `handle_inbound_syn_listen`, with the error it returns. A full slot answers
with a RST and is left alone. -/
def handleInboundSynListen (server : Server) (listenHandle : ListenHandle) (peerIp : BitVec 32)
    (peerPort : UInt16) (issPeer : Seq) (opts : TcpOpts) (env : ListenEnv) :
    Server × Except ListenError Unit :=
  match server.listenSlots.find? fun entry => entry.1 = listenHandle with
  | none => (server, .error .invalidArgument)
  | some (_, slot) =>
      if slot.full then (server, .ok ())
      else
        let engine := server.host.engine
        let tuple : FourTuple := ⟨slot.localIp, slot.localPort, peerIp, peerPort⟩
        let inserted := engine.flowTable.insert
          (engine.passive tuple env.iss issPeer opts env.nowNs)
        match inserted.2 with
        | none => (server, .error .tooManyConns)
        | some handle =>
            let opened := { engine with flowTable := inserted.1 }.recordAccepted handle
            let answered := opened.emitSynAckForPassive handle env.synAckSent env.nowNs
            ({ server with
                listenSlots := server.listenSlots.changeFirst (fun entry => entry.1 = listenHandle)
                  fun slot => { slot with inProgress := some handle } }.withEngine
                (answered.modifyConn handle fun conn =>
                  { conn with sndNxt := seqAdd conn.sndNxt 1 }),
              .ok ())

/-- The end of `tcp_input`: the state change, the answer, the slot and the events. -/
def receiveSideAfter (server : Server) (handle : ConnHandle) (outcome : ServerOutcome)
    (env : InputEnv) (synAckSent : Bool) : Server :=
  let waited := server.host.engine.restartTimeWait handle outcome.toOutcome env.nowNs
  let moved :=
    match outcome.newState with
    | some state => waited.transitionConn handle state env.nowNs
    | none => waited
  let answered := moved.answer handle outcome.tx env
  let promoted :=
    if outcome.connected then
      { server with
        listenSlots := server.listenSlots.listenPromoteToAcceptQueue handle }.withEngine
        (answered.pushEvent (.connected handle env.rxHwTsNs env.nowNs))
    else server.withEngine answered
  let cleared :=
    if outcome.clearListenSlotOnClose then
      { promoted with listenSlots := promoted.listenSlots.clearInProgressForConn handle }
    else promoted
  let relistened :=
    if outcome.reListenIfPassive &&
        (cleared.host.engine.flowTable.get handle).any TcpConn.isPassiveOpen then
      { cleared with
        listenSlots := cleared.listenSlots.clearInProgressForConn handle }.withEngine
        (cleared.host.engine.tearDownPassive handle)
    else cleared
  let resent :=
    if outcome.retransmitSynAckForPassive then
      relistened.withEngine
        (relistened.host.engine.emitSynAckForPassive handle synAckSent env.nowNs)
    else relistened
  let delivered :=
    if 0 < outcome.delivered then
      resent.host.engine.handOver handle outcome.delivered env.rxHwTsNs env.nowNs
    else resent.host.engine
  resent.withEngine (delivered.finishClosed handle outcome.toOutcome env)

/-- `tcp_input` in this build, for a segment of the connection `handle`. -/
def tcpInput (server : Server) (handle : ConnHandle) (seg : ParsedSegment)
    (mbufCtx : Option MbufInsertCtx) (env : InputEnv) (synAckSent : Bool) : Server :=
  let engine := server.host.engine
  match engine.flowTable.get handle with
  | none => server.withEngine (engine.tcpInput handle seg mbufCtx env)
  | some conn =>
      let dispatched :=
        serverDispatch conn seg env.clock engine.cfg.sendBufferBytes mbufCtx
      let written := engine.written handle mbufCtx dispatched.plain
      let notified :=
        if dispatched.outcome.writableHysteresisFired then
          written.pushEvent (.writable handle env.nowNs)
        else written
      (server.withEngine
        (notified.sendSideAfter handle dispatched.outcome.toOutcome env)).receiveSideAfter handle
          dispatched.outcome env synAckSent

/-- The flags of a SYN that asks for a connection. -/
def isSynOnly (seg : ParsedSegment) : Bool :=
  seg.flags.has TCP_SYN && !seg.flags.has TCP_ACK

/-- A segment from outside: to its connection, to a listen slot, or answered with a RST. -/
def receive (server : Server) (tuple : FourTuple) (seg : ParsedSegment)
    (mbufCtx : Option MbufInsertCtx) (env : InputEnv) (listenEnv : ListenEnv) : Server :=
  match server.host.engine.flowTable.lookupByTuple tuple with
  | some handle => server.tcpInput handle seg mbufCtx env listenEnv.synAckSent
  | none =>
      if isSynOnly seg then
        match server.listenSlots.matchListenSlot tuple.localIp tuple.localPort with
        | some (listenHandle, _) =>
            (server.handleInboundSynListen listenHandle tuple.peerIp tuple.peerPort seg.seq
              ((parseOptions seg.options).toOption.getD {}) listenEnv).1
        | none => server
      else server

/-- The handler of the next fired timer. A handshake that is given up frees its slot. -/
def fireNext (server : Server) (env : FireEnv) : Server :=
  match server.host.pending with
  | [] => server
  | (id, node) :: _ =>
      { server with
        host := server.host.step (.fireNext env)
        listenSlots :=
          if node.kind = .synRetrans ∧
              server.host.engine.abandonsPassive node.ownerHandle id = true then
            server.listenSlots.clearInProgressForConn node.ownerHandle
          else server.listenSlots }

end Server

/-- What happens to a server. -/
inductive ServerOp where
  | listen (ip : BitVec 32) (port : UInt16)
  | acceptNext (listenHandle : ListenHandle)
  | receive (tuple : FourTuple) (seg : ParsedSegment) (mbufCtx : Option MbufInsertCtx)
      (env : InputEnv) (listenEnv : ListenEnv)
  | fireNext (env : FireEnv)
  | advance (nowNs : ℕ)
  | connect (tuple : FourTuple) (iss : Seq) (ourMss : UInt16) (opts : ConnectOpts)
      (synSent : Bool) (nowNs : ℕ)
  | send (handle : ConnHandle) (bytes : List UInt8) (envs : ℕ → SendEnv) (tlpNs : ℕ)
  | close (handle : ConnHandle) (finSent : Bool) (nowNs : ℕ)
  | twSkip (handle : ConnHandle) (nowNs : ℕ)
  | flush (sent : ℕ)
  | reap (nowNs : ℕ)

namespace Server

/-- A call that no slot takes part in. -/
def call (server : Server) (op : EngineOp) : Server :=
  { server with host := server.host.step op }

/-- One step of a server. -/
def step (server : Server) : ServerOp → Server
  | .listen ip port => (server.listen ip port).1
  | .acceptNext listenHandle => (server.acceptNext listenHandle).1
  | .receive tuple seg mbufCtx env listenEnv => server.receive tuple seg mbufCtx env listenEnv
  | .fireNext env => server.fireNext env
  | .advance nowNs => server.call (.advance nowNs)
  | .connect tuple iss ourMss opts synSent nowNs =>
      server.call (.connect tuple iss ourMss opts synSent nowNs)
  | .send handle bytes envs tlpNs => server.call (.send handle bytes envs tlpNs)
  | .close handle finSent nowNs => server.call (.close handle finSent nowNs)
  | .twSkip handle nowNs => server.call (.twSkip handle nowNs)
  | .flush sent => server.call (.flush sent)
  | .reap nowNs => server.call (.reap nowNs)

end Server

end DpdkTcp
