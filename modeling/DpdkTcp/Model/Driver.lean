import DpdkTcp.Model.Host

/-!
# The driver

What the driver sees of the frames, and what it does to them. `rte_eth_tx_burst`
reads the bytes of a chain from the head on. A driver that computes checksums in
software cuts the headers it has read off the front of the head buffer with
`rte_pktmbuf_adj`. Whether it cuts during the burst or later makes no difference to
the engine: `retransmit` reads the end of a data buffer only.
-/

namespace DpdkTcp

namespace Engine

/-- The bytes of a frame, along its chain. -/
def frameBytes (engine : Engine) (frame : TxFrame) : List UInt8 :=
  frame.segs.flatMap fun addr => (engine.mbufs addr).data

/-- The driver cuts bytes off the front of a frame it holds. -/
def trimFrame (engine : Engine) (index len : ℕ) : Engine :=
  match (engine.driverFrames[index]?).bind fun frame => frame.segs.head? with
  | none => engine
  | some head => engine.adjMbuf head len

/-- It leaves the payload in the head buffer. -/
def trimsHeader (engine : Engine) (index len : ℕ) : Bool :=
  (engine.driverFrames[index]?).all fun frame =>
    frame.segs.head?.all fun head =>
      decide (len + frame.headPayload ≤ (engine.mbufs head).data.length)

/-! ### What is offered -/

/-- The frames a drain offers to the driver. -/
def burst (engine : Engine) : List (List UInt8) :=
  engine.txPendingData.map engine.frameBytes

/-- The drain of a push, if the ring is full. -/
def pushBurst (engine : Engine) : List (List UInt8) :=
  if engine.txPendingData.length < engine.cfg.txRingSize then [] else engine.burst

/-- The drain of a turn of the segment loop, once the new buffer is written. -/
def segmentBurst (conn : TcpConn) (mssCap : ℕ) (env : SendEnv) (sending : Sending) :
    List (List UInt8) :=
  let take := min sending.rest.length mssCap
  let payload := sending.rest.take take
  let seg := sending.engine.segmentTx conn sending.curSeq (TCP_ACK ||| TCP_PSH)
    (conn.txOptions env.optionsNs) payload
  match buildSegment seg (FRAME_HDRS_MIN + 40 + take), env.dataMbuf with
  | some frame, some mbuf =>
      if !env.appended then []
      else
        ((sending.engine.allocMbuf mbuf).writeMbuf mbuf
          (txOffloadFinalize (frame.take (asU16 frame.length)) seg payload.length
            sending.engine.cfg.txCksumOffloadActive)).pushBurst
  | _, _ => []

/-- The drains of the segment loop. -/
def sendSegmentsBursts (conn : TcpConn) (handle : ConnHandle) (mssCap : ℕ) :
    (turns : ℕ) → (envs : ℕ → SendEnv) → Sending → List (List UInt8)
  | 0, _, _ => []
  | turns + 1, envs, sending =>
      if sending.rest = [] then []
      else
        segmentBurst conn mssCap (envs 0) sending ++
          match sendSegment conn handle mssCap (envs 0) sending with
          | .sent next =>
              sendSegmentsBursts conn handle mssCap turns (fun turn => envs (turn + 1)) next
          | _ => []

/-- The drains of `send_bytes`. -/
def sendBytesBursts (engine : Engine) (handle : ConnHandle) (bytes : List UInt8)
    (envs : ℕ → SendEnv) : List (List UInt8) :=
  match engine.flowTable.get handle with
  | none => []
  | some conn =>
      if conn.state ≠ .established then []
      else
        let admitted := engine.admitted conn bytes
        sendSegmentsBursts conn handle (engine.mssCap conn) (admitted.length + 1) envs
          { engine := engine, rest := admitted, accepted := 0, curSeq := conn.sndNxt }

/-- The first drain of each call of `retransmit`. Its push finds the ring empty. -/
def retransmitAllBursts (engine : Engine) (handle : ConnHandle) (envs : ℕ → RetransmitEnv) :
    List ℕ → List (List UInt8)
  | [] => []
  | index :: rest =>
      engine.burst ++ (engine.retransmit handle index (envs 0)).retransmitAllBursts handle
        (fun turn => envs (turn + 1)) rest

/-- The drains of the loop over `rack_lost_indexes`. -/
def retransmitRackLostBursts (engine : Engine) (handle : ConnHandle) (envs : ℕ → RetransmitEnv) :
    List ℕ → List (List UInt8)
  | [] => []
  | index :: rest =>
      let resent := engine.retransmit handle index (envs 0)
      let reported :=
        if engine.cfg.tcpPerPacketEvents then
          (resent.reportRetrans handle index (envs 0).nowNs).pushEvent
            (.tcpLossDetected handle .rack (envs 0).nowNs)
        else resent
      engine.burst ++
        reported.retransmitRackLostBursts handle (fun turn => envs (turn + 1)) rest

/-- The drains of `tcp_input`. -/
def tcpInputBursts (engine : Engine) (handle : ConnHandle) (seg : ParsedSegment)
    (mbufCtx : Option MbufInsertCtx) (env : InputEnv) : List (List UInt8) :=
  match engine.flowTable.get handle with
  | none => []
  | some conn =>
      let dispatched := dispatch conn seg env.clock engine.cfg.sendBufferBytes mbufCtx
      let written := engine.written handle mbufCtx dispatched
      let notified :=
        if dispatched.outcome.writableHysteresisFired then
          written.pushEvent (.writable handle env.nowNs)
        else written
      notified.retransmitRackLostBursts handle env.retransmits dispatched.outcome.rackLostIndexes

/-- The drains of `on_rto_fire`. -/
def onRtoFireBursts (engine : Engine) (handle : ConnHandle) (firedId : TimerId) (env : RtoEnv) :
    List (List UInt8) :=
  match engine.flowTable.get handle with
  | none => []
  | some conn =>
      if conn.rtoTimerId ≠ some firedId then []
      else
        let cleared := engine.modifyConn handle fun conn =>
          { conn.withoutTimer firedId with rtoTimerId := none }
        if conn.sndRetrans.isEmpty then []
        else
          let lost := conn.rtoLostIndexes env.markNs
          let chosen := if lost = [] then [0] else lost
          (cleared.markLost handle lost).retransmitAllBursts handle env.retransmits chosen

/-- The drain of `on_tlp_fire`. -/
def onTlpFireBursts (engine : Engine) (handle : ConnHandle) (firedId : TimerId) :
    List (List UInt8) :=
  match engine.flowTable.get handle with
  | none => []
  | some conn =>
      if conn.tlpTimerId ≠ some firedId then []
      else
        match selectProbe (!conn.snd.pending.isEmpty) (!conn.sndRetrans.isEmpty) with
        | none => []
        | some _ => engine.burst

/-- The drains of the handler of a fired timer. -/
def fireTimerBursts (engine : Engine) (id : TimerId) (node : TimerNode) (env : FireEnv) :
    List (List UInt8) :=
  match node.kind with
  | .rto => engine.onRtoFireBursts node.ownerHandle id env.rto
  | .tlp => engine.onTlpFireBursts node.ownerHandle id
  | .synRetrans | .apiPublic => []

end Engine

/-- The operations of the system and the driver. -/
inductive DriverOp where
  | system (op : SystemOp)
  | trim (index len : ℕ)

namespace Host

/-- One step of a host with its driver. -/
def driverStep (host : Host) : DriverOp → Host
  | .system op => host.systemStep op
  | .trim index len => { host with engine := host.engine.trimFrame index len }

/-- The data frames that an operation offers to the driver. -/
def bursts (host : Host) : DriverOp → List (List UInt8)
  | .system (.call (.send handle bytes envs _)) => host.engine.sendBytesBursts handle bytes envs
  | .system (.call (.segment handle seg mbufCtx env)) =>
      host.engine.tcpInputBursts handle seg mbufCtx env
  | .system (.call (.fireNext env)) =>
      match host.pending with
      | [] => []
      | (id, node) :: _ => host.engine.fireTimerBursts id node env
  | .system (.call (.flush _)) => host.engine.burst
  | _ => []

end Host

end DpdkTcp
