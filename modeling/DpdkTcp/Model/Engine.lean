import DpdkTcp.Model.Transmit
import DpdkTcp.Model.Input

/-!
# The engine

The rest of `engine.rs` around a connection: what follows the dispatch of a
segment, the timer fires, `close_conn` and `connect`. Control frames go out at
once; of them only the effect on the connection is kept.
-/

namespace DpdkTcp

namespace TcpConn

/-- Every timer a connection knows of. -/
def allTimerIds (conn : TcpConn) : List TimerId :=
  conn.timerIds ++ conn.rtoTimerId.toList ++ conn.tlpTimerId.toList ++
    conn.synRetransTimerId.toList

/-- `timer_ids.retain(|t| *t != id)`. -/
def withoutTimer (conn : TcpConn) (id : TimerId) : TcpConn :=
  { conn with timerIds := conn.timerIds.filter fun known => known ≠ id }

end TcpConn

namespace Engine

/-- `transition_conn`. -/
def transitionConn (engine : Engine) (handle : ConnHandle) (target : TcpState) (nowNs : ℕ) :
    Engine :=
  match engine.flowTable.get handle with
  | none => engine
  | some conn =>
      if conn.state = target then engine
      else
        (engine.modifyConn handle fun conn =>
          { conn with
            state := target
            timeWaitDeadlineNs :=
              if target = .timeWait then
                some (min (nowNs + 2 * (engine.cfg.tcpMslMs * 1000000)) U64_MAX)
              else conn.timeWaitDeadlineNs }).pushEvent
          (.stateChange handle conn.state target nowNs)

/-- Cancel the timers of a connection and free its slot. -/
def removeConn (engine : Engine) (handle : ConnHandle) : Engine :=
  match engine.flowTable.get handle with
  | none => engine
  | some conn =>
      (engine.cancelTimers conn.allTimerIds).dropConn handle

/-- `force_close_etimedout`. -/
def forceCloseEtimedout (engine : Engine) (handle : ConnHandle) (nowNs : ℕ) : Engine :=
  match engine.flowTable.get handle with
  | none => engine
  | some conn =>
      let drained := engine.modifyConn handle fun conn =>
        { conn with
          timerIds := []
          rtoTimerId := none
          tlpTimerId := none
          synRetransTimerId := none
          sndRetrans := ⟨[]⟩ }
      let freed := drained.releaseMbufs (conn.sndRetrans.entries.map RetransEntry.mbuf)
      let closed := (freed.cancelTimers conn.allTimerIds).transitionConn handle .closed nowNs
      let reported := (closed.pushEvent (.error handle (-ETIMEDOUT) nowNs)).pushEvent
        (.closed handle (-ETIMEDOUT) nowNs)
      reported.dropConn handle

/-! ### Timer fires -/

/-- The forensic event of a retransmitted entry. -/
def reportRetrans (engine : Engine) (handle : ConnHandle) (index nowNs : ℕ) : Engine :=
  match engine.flowTable.get handle with
  | none => engine
  | some conn =>
      match conn.sndRetrans.entries[index]? with
      | none => engine
      | some entry => engine.pushEvent (.tcpRetrans handle entry.seq entry.xmitCount nowNs)

end Engine

/-- The clock readings and transmissions of one RTO fire. -/
structure RtoEnv where
  markNs : ℕ
  retransmits : ℕ → RetransmitEnv
  eventNs : ℕ
  closeNs : ℕ
  timerNs : ℕ

/-- The indexes an RTO fire marks lost. -/
def TcpConn.rtoLostIndexes (conn : TcpConn) (nowNs : ℕ) : List ℕ :=
  rackMarkLossesOnRto conn.sndRetrans.entries conn.sndUna
    (conn.rttEst.srttUs.getD conn.rack.minRttUs) conn.rack.reoWndUs nowNs

namespace Engine

/-- Raise `lost` on the entries at the given indexes. -/
def markLost (engine : Engine) (handle : ConnHandle) (lost : List ℕ) : Engine :=
  engine.modifyConn handle fun conn =>
    { conn with sndRetrans := conn.sndRetrans.markLost lost }

/-- The forensic events of an RTO fire. -/
def reportRto (engine : Engine) (handle : ConnHandle) (chosen : List ℕ) (eventNs : ℕ) : Engine :=
  if engine.cfg.tcpPerPacketEvents then
    (chosen.foldl (fun engine index => engine.reportRetrans handle index eventNs)
      engine).pushEvent (.tcpLossDetected handle .rto eventNs)
  else engine

/-- The transmissions of the front entry, as the budget test reads them. -/
def frontXmitCount (engine : Engine) (handle : ConnHandle) : ℕ :=
  match engine.flowTable.get handle with
  | some conn => (conn.sndRetrans.entries.head?.map RetransEntry.xmitCount).getD 0
  | none => 0

/-- The end of an RTO fire: give up, or back off and arm the timer again. -/
def rearmOrGiveUp (engine : Engine) (handle : ConnHandle) (noBackoff : Bool) (env : RtoEnv) :
    Engine :=
  if engine.cfg.tcpMaxRetransCount < engine.frontXmitCount handle then
    engine.forceCloseEtimedout handle env.closeNs
  else
    let backedOff :=
      if noBackoff then engine
      else engine.modifyConn handle fun conn => { conn with rttEst := conn.rttEst.applyBackoff }
    backedOff.armRto handle env.timerNs

/-- `on_rto_fire`. -/
def onRtoFire (engine : Engine) (handle : ConnHandle) (firedId : TimerId) (env : RtoEnv) :
    Engine :=
  match engine.flowTable.get handle with
  | none => engine
  | some conn =>
      if conn.rtoTimerId ≠ some firedId then engine
      else
        let cleared := engine.modifyConn handle fun conn =>
          { conn.withoutTimer firedId with rtoTimerId := none }
        if conn.sndRetrans.isEmpty then cleared
        else
          let lost := conn.rtoLostIndexes env.markNs
          let chosen := if lost = [] then [0] else lost
          let resent := (cleared.markLost handle lost).retransmitAll handle env.retransmits chosen
          (resent.reportRto handle chosen env.eventNs).rearmOrGiveUp handle conn.rtoNoBackoff env

/-- `on_tlp_fire`: the last entry is sent again as a probe, whatever `select_probe` says. -/
def onTlpFire (engine : Engine) (handle : ConnHandle) (firedId : TimerId) (env : RetransmitEnv)
    (nowNs : ℕ) : Engine :=
  match engine.flowTable.get handle with
  | none => engine
  | some conn =>
      if conn.tlpTimerId ≠ some firedId then engine
      else
        let cleared := engine.modifyConn handle fun conn =>
          { conn.withoutTimer firedId with tlpTimerId := none }
        match selectProbe (!conn.snd.pending.isEmpty) (!conn.sndRetrans.isEmpty) with
        | none => cleared
        | some _ =>
            let index := conn.sndRetrans.entries.length - 1
            let probed := cleared.retransmit handle index env
            let recorded := probed.modifyConn handle fun conn =>
              match conn.sndRetrans.entries[index]? with
              | some entry => conn.onTlpProbeFired entry.seq entry.len nowNs
              | none => conn
            if engine.cfg.tcpPerPacketEvents then
              (recorded.reportRetrans handle index nowNs).pushEvent
                (.tcpLossDetected handle .tlp nowNs)
            else recorded

/-- Arm the timer of the SYN. -/
def armSynRetrans (engine : Engine) (handle : ConnHandle) (nowNs delayUs : ℕ) : Engine :=
  let added := engine.addTimer handle .synRetrans nowNs delayUs
  added.1.modifyConn handle fun conn =>
    { conn with
      synRetransTimerId := some added.2
      timerIds := conn.timerIds ++ [added.2] }

/-- `on_syn_retrans_fire`. The SYN that goes out again changes nothing here. -/
def onSynRetransFire (engine : Engine) (handle : ConnHandle) (firedId : TimerId) (nowNs : ℕ) :
    Engine :=
  match engine.flowTable.get handle with
  | none => engine
  | some conn =>
      if conn.synRetransTimerId ≠ some firedId then engine
      else
        let cleared := engine.modifyConn handle fun conn =>
          { conn.withoutTimer firedId with synRetransTimerId := none }
        if conn.state ≠ .synSent ∧ conn.state ≠ .synReceived then cleared
        else
          let newCount := min (conn.synRetransCount + 1) 255
          let counted := cleared.modifyConn handle fun conn =>
            { conn with synRetransCount := newCount }
          if 3 < newCount then counted.forceCloseEtimedout handle nowNs
          else
            let base := max engine.cfg.tcpInitialRtoUs engine.cfg.tcpMinRtoUs
            counted.armSynRetrans handle nowNs (base * 2 ^ min newCount 6 % 4294967296)

end Engine

/-- What happens to the fire of one timer. -/
structure FireEnv where
  rto : RtoEnv
  tlp : RetransmitEnv
  nowNs : ℕ

namespace Engine

/-- The handler of a fired timer. -/
def fireTimer (engine : Engine) (id : TimerId) (node : TimerNode) (env : FireEnv) : Engine :=
  match node.kind with
  | .rto => engine.onRtoFire node.ownerHandle id env.rto
  | .tlp => engine.onTlpFire node.ownerHandle id env.tlp env.nowNs
  | .synRetrans => engine.onSynRetransFire node.ownerHandle id env.nowNs
  | .apiPublic => engine.pushEvent (.apiTimer id node.userData env.nowNs)

/-- The handlers of the timers that fired, in order. -/
def fireTimers (engine : Engine) (envs : ℕ → FireEnv) : List (TimerId × TimerNode) → Engine
  | [] => engine
  | (id, node) :: rest =>
      (engine.fireTimer id node (envs 0)).fireTimers (fun turn => envs (turn + 1)) rest

/-- `fire_timers_at`: advance the wheel and run the handlers of what fired. -/
def fireTimersAt (engine : Engine) (nowNs : ℕ) (envs : ℕ → FireEnv) : Engine :=
  let swept := engine.timerWheel.advance nowNs
  { engine with timerWheel := swept.wheel }.fireTimers envs swept.fired

/-! ### Segments -/

/-- Cancel the RTO timer. -/
def stopRto (engine : Engine) (handle : ConnHandle) : Engine :=
  match (engine.flowTable.get handle).bind TcpConn.rtoTimerId with
  | none => engine
  | some id =>
      (engine.cancelTimer id).modifyConn handle fun conn =>
        { conn.withoutTimer id with rtoTimerId := none }

/-- Cancel the probe timer. -/
def stopTlp (engine : Engine) (handle : ConnHandle) : Engine :=
  match (engine.flowTable.get handle).bind TcpConn.tlpTimerId with
  | none => engine
  | some id =>
      (engine.cancelTimer id).modifyConn handle fun conn =>
        { conn.withoutTimer id with tlpTimerId := none }

/-- The block `snd_una_advanced_to`: prune what is acknowledged, stop the timers
of an idle connection, restart the RTO timer of one with data in flight. -/
def pruneAcked (engine : Engine) (handle : ConnHandle) (newSndUna : Seq) (nowNs : ℕ) : Engine :=
  match engine.flowTable.get handle with
  | none => engine
  | some conn =>
      let remaining := conn.sndRetrans.pruneBelow newSndUna
      let pruned := engine.modifyConn handle fun conn => { conn with sndRetrans := remaining }
      let freed := pruned.releaseMbufs
        ((conn.sndRetrans.prunedBelow newSndUna).map RetransEntry.mbuf)
      let stopped :=
        if remaining.isEmpty && conn.sndUna == conn.sndNxt then
          (freed.stopRto handle).stopTlp handle
        else freed
      if !remaining.isEmpty && conn.rtoTimerId.isSome then
        (stopped.stopRto handle).armRto handle nowNs
      else stopped

/-- The loop over `rack_lost_indexes`. -/
def retransmitRackLost (engine : Engine) (handle : ConnHandle) (envs : ℕ → RetransmitEnv) :
    List ℕ → Engine
  | [] => engine
  | index :: rest =>
      let resent := engine.retransmit handle index (envs 0)
      let reported :=
        if engine.cfg.tcpPerPacketEvents then
          (resent.reportRetrans handle index (envs 0).nowNs).pushEvent
            (.tcpLossDetected handle .rack (envs 0).nowNs)
        else resent
      reported.retransmitRackLost handle (fun turn => envs (turn + 1)) rest

end Engine

/-- `AckOutcome`. -/
structure AckOutcome where
  window : ℕ
  opts : TcpOpts
  zeroWindow : Bool
  sackBlocksEmitted : ℕ

/-- The loop of `build_ack_outcome` behind the trigger's block: the other blocks, as they come,
until `cap` are pushed. -/
def pushRemaining (trigger : ℕ) : (cap : ℕ) → List ((Seq × Seq) × ℕ) → TcpOpts → TcpOpts × ℕ
  | _, [], opts => (opts, 0)
  | cap, (range, index) :: rest, opts =>
      if index = trigger then pushRemaining trigger cap rest opts
      else
        match cap with
        | 0 => (opts, 0)
        | cap + 1 =>
            let pushed := pushRemaining trigger cap rest
              (opts.pushSackBlock ⟨range.1, range.2⟩)
            (pushed.1, pushed.2 + 1)

/-- `build_ack_outcome`. The ranges come in ascending order. -/
def buildAckOutcome (wsShiftOut : ℕ) (tsEnabled : Bool) (tsRecent nowUs : BitVec 32)
    (sackEnabled : Bool) (reorderSegments : List (Seq × Seq)) (triggerRange : Option (Seq × Seq))
    (freeSpace : ℕ) : AckOutcome :=
  let opts : TcpOpts := { timestamps := if tsEnabled then some (nowUs, tsRecent) else none }
  let sacked : TcpOpts × ℕ :=
    if sackEnabled && !reorderSegments.isEmpty then
      let triggerIdx := triggerRange.bind fun trigger =>
        reorderSegments.findIdx? fun range =>
          seqLe range.1 trigger.1 && seqLt trigger.1 range.2
      let take := min reorderSegments.length MAX_SACK_BLOCKS_EMIT
      match triggerIdx with
      | some idx =>
          let range := reorderSegments.getD idx (0#32, 0#32)
          let rest := pushRemaining idx (take - 1) reorderSegments.zipIdx.reverse
            (opts.pushSackBlock ⟨range.1, range.2⟩)
          (rest.1, 1 + rest.2)
      | none =>
          ((reorderSegments.reverse.take take).foldl
            (fun opts range => opts.pushSackBlock ⟨range.1, range.2⟩) opts, take)
    else (opts, 0)
  { window := min (if 0 < wsShiftOut then freeSpace / 2 ^ wsShiftOut else freeSpace) 65535
    opts := sacked.1
    zeroWindow := freeSpace == 0
    sackBlocksEmitted := sacked.2 }

/-- The window and the options of the ACK that `emit_ack` sends. -/
def TcpConn.ackOutcome (conn : TcpConn) (nowNs : ℕ) : AckOutcome :=
  buildAckOutcome conn.wsShiftOut conn.tsEnabled conn.tsRecent (asMicros nowNs) conn.sackEnabled
    (conn.recv.reorder.segments.map fun seg => (seg.seq, seg.endSeq)) conn.lastSackTrigger
    conn.recv.freeSpaceTotal

namespace Engine

/-- `emit_ack`, when the frame went out. -/
def emitAck (engine : Engine) (handle : ConnHandle) (sent : Bool) : Engine :=
  if sent then
    engine.modifyConn handle fun conn =>
      { conn with lastAdvertisedWnd := some conn.advertisedWindow, lastSackTrigger := none }
  else engine

end Engine

/-- What happens to the processing of one segment. -/
structure InputEnv where
  clock : Readings
  retransmits : ℕ → RetransmitEnv
  ackSent : Bool
  rxHwTsNs : ℕ
  nowNs : ℕ

/-- The only flag of `close_conn_with_flags` that is defined. -/
def CLOSE_FLAG_FORCE_TW_SKIP : BitVec 32 := 1#32

/-- The bit is in the flags. -/
def forcesTwSkip (flags : BitVec 32) : Bool :=
  flags &&& CLOSE_FLAG_FORCE_TW_SKIP != 0#32

/-- Why `close_conn` refuses. -/
inductive CloseError where
  | invalidConnHandle
  | peerUnreachable
deriving DecidableEq, Repr

namespace Engine

/-- The answer of a segment. -/
def answer (engine : Engine) (handle : ConnHandle) (tx : TxAction) (env : InputEnv) : Engine :=
  match tx with
  | .none => engine
  | .ack => engine.emitAck handle env.ackSent
  | .rst | .rstForSynSentBadAck => engine.transitionConn handle .closed env.nowNs

/-- A segment in TIME_WAIT that is answered with an ACK restarts the wait. -/
def restartTimeWait (engine : Engine) (handle : ConnHandle) (outcome : Outcome) (nowNs : ℕ) :
    Engine :=
  engine.modifyConn handle fun conn =>
    if conn.state = .timeWait ∧ outcome.tx = .ack ∧ outcome.badSeq = false then
      { conn with
        timeWaitDeadlineNs := some (min (nowNs + 2 * (engine.cfg.tcpMslMs * 1000000)) U64_MAX) }
    else conn

/-- The retransmissions, the pruning and the timers after a dispatch. -/
def sendSideAfter (engine : Engine) (handle : ConnHandle) (outcome : Outcome) (env : InputEnv) :
    Engine :=
  let resent := engine.retransmitRackLost handle env.retransmits outcome.rackLostIndexes
  let pruned :=
    match outcome.sndUnaAdvancedTo with
    | some newSndUna => resent.pruneAcked handle newSndUna env.nowNs
    | none => resent
  let armed := pruned.armTlpPto handle env.nowNs
  match outcome.synRetransTimerToCancel with
  | some id => (armed.cancelTimer id).modifyConn handle fun conn => conn.withoutTimer id
  | none => armed

/-- The references `deliver_readable` takes and drops: those of windows still in
`delivered_segments`, of a split window and of an event the queue discards. -/
def handOverRefs (engine : Engine) (handle : ConnHandle) (delivered : ℕ) : List RefUpdate :=
  match engine.flowTable.get handle with
  | none => []
  | some conn =>
      (conn.deliveredSegments.map fun seg => .freeSeg seg.mbuf.addr) ++
        ((splitCloned delivered conn.recv.bytes).map fun addr => .refcntUpdate addr 1) ++
        if (splitDelivered delivered conn.recv.bytes).delivered.isEmpty then []
        else (engine.events.overflow.flatMap InternalEvent.pinned).map .freeSeg

/-- `deliver_readable` on the engine. -/
def handOver (engine : Engine) (handle : ConnHandle) (delivered rxHwTsNs emittedTsNs : ℕ) :
    Engine :=
  let handed := deliverReadable engine.flowTable engine.events handle delivered rxHwTsNs emittedTsNs
  { engine with
    flowTable := handed.1
    events := handed.2
    rxRefs := engine.rxRefs.applyAll (engine.handOverRefs handle delivered) }

/-- The events of a segment: `Connected`, then `Readable`. -/
def deliverEvents (engine : Engine) (handle : ConnHandle) (outcome : Outcome) (env : InputEnv) :
    Engine :=
  let connected :=
    if outcome.connected then engine.pushEvent (.connected handle env.rxHwTsNs env.nowNs)
    else engine
  if 0 < outcome.delivered then
    connected.handOver handle outcome.delivered env.rxHwTsNs env.nowNs
  else connected

/-- The end of a connection that a segment closed. -/
def finishClosed (engine : Engine) (handle : ConnHandle) (outcome : Outcome) (env : InputEnv) :
    Engine :=
  if outcome.closed then
    let reported := engine.pushEvent (.closed handle 0 env.nowNs)
    match reported.flowTable.get handle with
    | some conn => if conn.state = .closed then reported.removeConn handle else reported
    | none => reported
  else engine

/-- The state change, the answer and the events after a dispatch. -/
def receiveSideAfter (engine : Engine) (handle : ConnHandle) (outcome : Outcome)
    (env : InputEnv) : Engine :=
  let waited := engine.restartTimeWait handle outcome env.nowNs
  let moved :=
    match outcome.newState with
    | some state => waited.transitionConn handle state env.nowNs
    | none => waited
  ((moved.answer handle outcome.tx env).deliverEvents handle outcome env).finishClosed handle
    outcome env

/-- The reference taken for the head of a frame before `dispatch`. -/
def bumpRefs (mbufCtx : Option MbufInsertCtx) : List RefUpdate :=
  mbufCtx.toList.map fun ctx => .refcntUpdate ctx.mbuf.addr 1

/-- It is given back where no window of the head was kept. -/
def rollbackRefs (mbufCtx : Option MbufInsertCtx) (mbufRefRetained : Bool) : List RefUpdate :=
  if mbufRefRetained then []
  else mbufCtx.toList.map fun ctx => .refcntUpdate ctx.mbuf.addr (-1)

/-- The engine with the connection as `dispatch` left it, and the references as
they are then. -/
def written (engine : Engine) (handle : ConnHandle) (mbufCtx : Option MbufInsertCtx)
    (dispatched : Dispatched) : Engine :=
  { engine with
    flowTable := engine.flowTable.set handle dispatched.conn
    rxRefs := engine.rxRefs.applyAll (bumpRefs mbufCtx ++ dispatched.refUpdates ++
      rollbackRefs mbufCtx dispatched.outcome.mbufRefRetained) }

/-- `tcp_input`, for a segment of the connection `handle`. -/
def tcpInput (engine : Engine) (handle : ConnHandle) (seg : ParsedSegment)
    (mbufCtx : Option MbufInsertCtx) (env : InputEnv) : Engine :=
  match engine.flowTable.get handle with
  | none =>
      { engine with
        rxRefs := engine.rxRefs.applyAll (bumpRefs mbufCtx ++ rollbackRefs mbufCtx false) }
  | some conn =>
      let dispatched := dispatch conn seg env.clock engine.cfg.sendBufferBytes mbufCtx
      let written := engine.written handle mbufCtx dispatched
      let notified :=
        if dispatched.outcome.writableHysteresisFired then
          written.pushEvent (.writable handle env.nowNs)
        else written
      (notified.sendSideAfter handle dispatched.outcome env).receiveSideAfter handle
        dispatched.outcome env

/-- A segment of no connection changes nothing: its reference is taken and given back. -/
theorem tcpInput_absent {engine : Engine} {handle : ConnHandle}
    (absent : engine.flowTable.get handle = none) (seg : ParsedSegment)
    (mbufCtx : Option MbufInsertCtx) (env : InputEnv) :
    engine.tcpInput handle seg mbufCtx env = engine := by
  have refs : engine.rxRefs.applyAll (bumpRefs mbufCtx ++ rollbackRefs mbufCtx false) =
      engine.rxRefs := by
    cases mbufCtx with
    | none => rfl
    | some ctx => exact engine.rxRefs.applyAll_update_neg ctx.mbuf.addr 1
  dsimp only [tcpInput]
  rw [absent]
  dsimp only
  rw [refs]

/-! ### Opening and closing -/

/-- `close_conn`, where `finSent` tells whether the FIN frame went out. -/
def closeConn (engine : Engine) (handle : ConnHandle) (finSent : Bool) (nowNs : ℕ) : Engine :=
  match engine.flowTable.get handle with
  | none => engine
  | some conn =>
      if conn.state ≠ .established ∧ conn.state ≠ .closeWait then engine
      else if !finSent then engine
      else
        ((engine.recordSentAtOnce (engine.firstSent handle conn.sndNxt 1 true)).modifyConn handle
          fun conn =>
            { conn with
              ourFinSeq := some conn.sndNxt
              sndNxt := seqAdd conn.sndNxt 1 }).transitionConn
          handle (if conn.state = .established then .finWait1 else .lastAck) nowNs

/-- What `close_conn` returns. -/
def closeConnResult (engine : Engine) (handle : ConnHandle) (finSent : Bool) :
    Except CloseError Unit :=
  match engine.flowTable.get handle with
  | none => .error .invalidConnHandle
  | some conn =>
      if conn.state ≠ .established ∧ conn.state ≠ .closeWait then .ok ()
      else if !finSent then .error .peerUnreachable
      else .ok ()

/-- What `close_conn_with_flags` does for its flag: skip TIME_WAIT, where timestamps were
negotiated. -/
def requestTwSkip (engine : Engine) (handle : ConnHandle) (nowNs : ℕ) : Engine :=
  if (engine.flowTable.get handle).any TcpConn.tsEnabled then
    engine.modifyConn handle fun conn => { conn with forceTwSkip := true }
  else engine.pushEvent (.error handle (-EPERM) nowNs)

/-- `close_conn_with_flags`, with what it returns. -/
def closeConnWithFlags (engine : Engine) (handle : ConnHandle) (flags : BitVec 32) (finSent : Bool)
    (flagNs nowNs : ℕ) : Engine × Except CloseError Unit :=
  let flagged := if forcesTwSkip flags then engine.requestTwSkip handle flagNs else engine
  (flagged.closeConn handle finSent nowNs, flagged.closeConnResult handle finSent)

end Engine

/-- `compute_ws_shift_for`, from a given cap and shift on. -/
def wsShiftFrom (recvBufferBytes : ℕ) : (left cap shift : ℕ) → ℕ
  | 0, _, shift => shift
  | left + 1, cap, shift =>
      if cap < recvBufferBytes then wsShiftFrom recvBufferBytes left (2 * cap + 1) (shift + 1)
      else shift

/-- `compute_ws_shift_for`: the least shift under which the buffer fits the field, at most 14. -/
def computeWsShiftFor (recvBufferBytes : ℕ) : ℕ :=
  wsShiftFrom recvBufferBytes 14 65535 0

/-- `build_connect_syn_opts`: the options of a SYN, and of a SYN-ACK. -/
def buildConnectSynOpts (recvBufferBytes : ℕ) (ourMss : UInt16) (nowNs : ℕ)
    (tsEnabled sackEnabled : Bool) : TcpOpts :=
  { mss := some ourMss
    wscale := some (UInt8.ofNat (computeWsShiftFor recvBufferBytes))
    sackPermitted := sackEnabled
    timestamps := if tsEnabled then some (asMicros nowNs, 0#32) else none }

/-- What a caller of `connect` may choose. -/
structure ConnectOpts where
  rackAggressive : Bool
  rtoNoBackoff : Bool
  tlpPtoMinFloorUs : ℕ
  tlpPtoSrttMultiplierX100 : ℕ
  tlpSkipFlightSizeGate : Bool
  tlpMaxConsecutiveProbes : ℕ
  tlpSkipRttSampleGate : Bool
deriving DecidableEq

namespace Engine

/-- The options of the SYN a connection is opened with, and of its repetitions. -/
def synOpts (engine : Engine) (conn : TcpConn) (nowNs : ℕ) : TcpOpts :=
  buildConnectSynOpts engine.cfg.recvBufferBytes conn.peerMss nowNs engine.cfg.tcpTimestamps
    engine.cfg.tcpSack

/-- Record that `connect` returned a handle, and its SYN. -/
def recordOpened (engine : Engine) (handle : ConnHandle) (iss : Seq) : Engine :=
  let named : Engine :=
    { engine with record := { engine.record with opened := engine.record.opened ++ [handle] } }
  named.recordSentAtOnce (named.firstSent handle iss 1 false)

/-- The connection of `connect_with_opts` once its SYN is out. -/
def connecting (engine : Engine) (tuple : FourTuple) (iss : Seq) (ourMss : UInt16)
    (opts : ConnectOpts) (nowNs : ℕ) : TcpConn :=
  { TcpConn.newClient tuple iss ourMss engine.cfg.recvBufferBytes engine.cfg.sendBufferBytes
      engine.cfg.tcpMinRtoUs engine.cfg.tcpInitialRtoUs engine.cfg.tcpMaxRtoUs with
    rackAggressive := opts.rackAggressive
    rtoNoBackoff := opts.rtoNoBackoff
    tlpPtoMinFloorUs :=
      if opts.tlpPtoMinFloorUs = 0 then engine.cfg.tcpMinRtoUs else opts.tlpPtoMinFloorUs
    tlpPtoSrttMultiplierX100 :=
      if opts.tlpPtoSrttMultiplierX100 = 0 then DEFAULT_MULTIPLIER_X100
      else opts.tlpPtoSrttMultiplierX100
    tlpSkipFlightSizeGate := opts.tlpSkipFlightSizeGate
    tlpMaxConsecutiveProbes :=
      if opts.tlpMaxConsecutiveProbes = 0 then DEFAULT_MAX_CONSECUTIVE_PROBES
      else opts.tlpMaxConsecutiveProbes
    tlpSkipRttSampleGate := opts.tlpSkipRttSampleGate
    synTxTsNs := nowNs
    sndNxt := seqAdd iss 1
    wsShiftOut := computeWsShiftFor engine.cfg.recvBufferBytes }

/-- `connect_with_opts`, for the tuple, initial sequence number and MSS it
chose; `synSent` tells whether the SYN frame went out. -/
def connectWithOpts (engine : Engine) (tuple : FourTuple) (iss : Seq) (ourMss : UInt16)
    (opts : ConnectOpts) (synSent : Bool) (nowNs : ℕ) : Engine × Option ConnHandle :=
  if engine.cfg.localIp = 0#32 then (engine, none)
  else if engine.cfg.gatewayMac = Vector.replicate 6 0 then (engine, none)
  else
    let inserted := engine.flowTable.insert (engine.connecting tuple iss ourMss opts nowNs)
    match inserted.2 with
    | none => (engine, none)
    | some handle =>
        let opened := { engine with flowTable := inserted.1 }
        if !synSent then (opened.dropConn handle, none)
        else
          let opening := (opened.recordOpened handle iss).transitionConn handle .synSent nowNs
          (opening.armSynRetrans handle nowNs
            (max engine.cfg.tcpInitialRtoUs engine.cfg.tcpMinRtoUs), some handle)

/-- The handles of `iter_handles`. -/
def handles (engine : Engine) : List ConnHandle :=
  (List.range engine.flowTable.slots.length).map (· + 1)

/-- Whether `reap_time_wait` takes a connection. -/
def expired (conn : TcpConn) (nowNs : ℕ) : Bool :=
  decide (conn.state = .timeWait) &&
    (conn.forceTwSkip || conn.timeWaitDeadlineNs.any fun deadline => decide (deadline ≤ nowNs))

/-- Close and remove a connection whose wait is over. -/
def reap (engine : Engine) (handle : ConnHandle) (nowNs : ℕ) : Engine :=
  ((engine.transitionConn handle .closed nowNs).pushEvent (.closed handle 0 nowNs)).removeConn
    handle

/-- `reap_time_wait`: the candidates are collected first and popped from the end. -/
def reapTimeWait (engine : Engine) (nowNs : ℕ) : Engine :=
  let candidates := engine.handles.filter fun handle =>
    (engine.flowTable.get handle).any fun conn => expired conn nowNs
  candidates.reverse.foldl (fun engine handle => engine.reap handle nowNs) engine

end Engine

end DpdkTcp
