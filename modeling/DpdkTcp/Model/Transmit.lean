import DpdkTcp.Model.Events
import DpdkTcp.Model.Output

/-!
# Transmission

The parts of `engine.rs` that put data on the wire: the ring of pending data
frames, its drain into the driver, `send_bytes` and `retransmit`. Buffers of
the two TX pools are addressed by number. What the environment decides (the
results of the DPDK calls and the clock) is passed to each call.
-/

namespace DpdkTcp

/-- A buffer of a TX pool: the data region and the reference count. A free
buffer has count zero, and one that is released once too often a negative one. -/
structure TxMbuf where
  data : List UInt8
  refcnt : Int
deriving DecidableEq, Repr

/-- A segment that takes sequence numbers and is sent for the first time, by the
connection a handle stood for after so many calls of `connect`. -/
structure FirstSent where
  handle : ConnHandle
  incarnation : ℕ
  seq : Seq
  len : ℕ
  fin : Bool
deriving DecidableEq, Repr

/-- A frame of the ring or the driver: its buffers, head first, and how many
payload bytes stand at the end of the head. `first` tells which segment a frame
sends for the first time and is read by no function. -/
structure TxFrame where
  segs : List ℕ
  headPayload : ℕ
  first : Option FirstSent
deriving DecidableEq, Repr

/-- The part of the configuration that the engine reads. -/
structure EngineConfig where
  localIp : BitVec 32
  tcpMss : ℕ
  recvBufferBytes : ℕ
  sendBufferBytes : ℕ
  tcpMinRtoUs : ℕ
  tcpInitialRtoUs : ℕ
  tcpMaxRtoUs : ℕ
  tcpMaxRetransCount : ℕ
  tcpPerPacketEvents : Bool
  tcpTimestamps : Bool
  tcpSack : Bool
  tcpMslMs : ℕ
  txRingSize : ℕ
  txCksumOffloadActive : Bool
  ourMac : Vector UInt8 6
  gatewayMac : Vector UInt8 6

/-- An entry `retransmit` looked up, with the acknowledged edge at that time. -/
structure Picked where
  handle : ConnHandle
  entry : RetransEntry
  sndUna : Seq
deriving DecidableEq, Repr

/-- A timer that was added to the wheel, for a connection or for the application
(under handle zero). -/
structure Armed where
  id : TimerId
  handle : ConnHandle
  incarnation : ℕ
  kind : TimerKind
deriving DecidableEq, Repr

/-- What has happened so far; no function reads it. `opened` are the handles that
`connect` returned, `armed` the timers added to the wheel. `assigned` are the
segments that were given sequence numbers, `offered` those handed to the driver
for the first time, and `taken` those the driver took. -/
structure Record where
  opened : List ConnHandle := []
  armed : List Armed := []
  assigned : List FirstSent := []
  offered : List FirstSent := []
  taken : List FirstSent := []
deriving DecidableEq, Repr

/-- How many connections a handle was returned for. -/
def Record.incarnation (record : Record) (handle : ConnHandle) : ℕ :=
  record.opened.count handle

/-- A segment is handed to the driver at once. -/
def Record.sentAtOnce (record : Record) (first : FirstSent) : Record :=
  { record with
    assigned := record.assigned ++ [first]
    offered := record.offered ++ [first]
    taken := record.taken ++ [first] }

/-- The engine, without its counters. `picked` is a record of the calls of
`retransmit` and is read by no function. -/
structure Engine where
  cfg : EngineConfig
  flowTable : FlowTable
  timerWheel : TimerWheel
  events : EventQueue
  txPendingData : List TxFrame
  driverFrames : List TxFrame
  mbufs : ℕ → TxMbuf
  rxRefs : RxRefs
  picked : List Picked
  record : Record

/-- The error number for an operation that is not permitted. -/
def EPERM : Int := 1

/-- The error number for an empty buffer pool. -/
def ENOMEM : Int := 12

/-- The error number for a connection that timed out. -/
def ETIMEDOUT : Int := 110

namespace Engine

/-- `EventQueue::push`. The event it discards is dropped. -/
def pushEvent (engine : Engine) (event : InternalEvent) : Engine :=
  { engine with
    events := engine.events.push event
    rxRefs := engine.rxRefs.freeAll (engine.events.overflow.flatMap InternalEvent.pinned) }

/-- `FlowTable::remove`; the connection is dropped. -/
def dropConn (engine : Engine) (handle : ConnHandle) : Engine :=
  { engine with
    flowTable := engine.flowTable.remove handle
    rxRefs := engine.rxRefs.freeAll ((engine.flowTable.get handle).toList.flatMap TcpConn.pinned) }

/-- A change to the connection of a handle, if there is one. -/
def modifyConn (engine : Engine) (handle : ConnHandle) (change : TcpConn → TcpConn) : Engine :=
  { engine with flowTable := engine.flowTable.modify handle change }

/-! ### Buffers and frames -/

/-- Another content of a transmit buffer. -/
def setMbuf (engine : Engine) (addr : ℕ) (mbuf : TxMbuf) : Engine :=
  { engine with mbufs := updateAt engine.mbufs addr mbuf }

/-- `rte_pktmbuf_alloc` returned the buffer at `addr`. -/
def allocMbuf (engine : Engine) (addr : ℕ) : Engine :=
  engine.setMbuf addr { data := [], refcnt := 1 }

/-- `rte_mbuf_refcnt_update(m, 1)`. -/
def holdMbuf (engine : Engine) (addr : ℕ) : Engine :=
  engine.setMbuf addr { engine.mbufs addr with refcnt := (engine.mbufs addr).refcnt + 1 }

/-- Drop one reference. -/
def releaseMbuf (engine : Engine) (addr : ℕ) : Engine :=
  engine.setMbuf addr { engine.mbufs addr with refcnt := (engine.mbufs addr).refcnt - 1 }

/-- Write the data region. -/
def writeMbuf (engine : Engine) (addr : ℕ) (data : List UInt8) : Engine :=
  engine.setMbuf addr { engine.mbufs addr with data := data }

/-- `rte_pktmbuf_adj`: cut bytes off the front; nothing happens when there are too few. -/
def adjMbuf (engine : Engine) (addr len : ℕ) : Engine :=
  if (engine.mbufs addr).data.length < len then engine
  else engine.writeMbuf addr ((engine.mbufs addr).data.drop len)

/-- `rte_pktmbuf_free` on each of the buffers of a chain. -/
def releaseMbufs (engine : Engine) (addrs : List ℕ) : Engine :=
  addrs.foldl releaseMbuf engine

/-- `drain_tx_pending_data`: one burst, of which the driver takes `sent` frames;
the others are freed. -/
def drainTxPendingData (engine : Engine) (sent : ℕ) : Engine :=
  let unsent := engine.txPendingData.drop sent
  { engine with
    driverFrames := engine.driverFrames ++ engine.txPendingData.take sent
    txPendingData := []
    record :=
      { engine.record with
        offered := engine.record.offered ++ engine.txPendingData.filterMap TxFrame.first
        taken :=
          engine.record.taken ++ (engine.txPendingData.take sent).filterMap TxFrame.first } }.releaseMbufs (unsent.flatMap TxFrame.segs)

/-- Push a frame on the ring; a full ring is drained first. -/
def pushTxPendingData (engine : Engine) (frame : TxFrame) (sent : ℕ) : Engine :=
  if engine.txPendingData.length < engine.cfg.txRingSize then
    { engine with txPendingData := engine.txPendingData ++ [frame] }
  else
    let drained := engine.drainTxPendingData sent
    { drained with txPendingData := drained.txPendingData ++ [frame] }

/-! ### Timers -/

/-- Add a timer for a connection to the wheel. -/
def addTimer (engine : Engine) (handle : ConnHandle) (kind : TimerKind) (nowNs delayUs : ℕ) :
    Engine × TimerId :=
  let added := engine.timerWheel.add nowNs
    { fireAtNs := nowNs + delayUs * 1000
      ownerHandle := handle
      kind := kind
      userData := 0
      generation := 0#32
      cancelled := false }
  ({ engine with
      timerWheel := added.1
      record :=
        { engine.record with
          armed := engine.record.armed ++
            [⟨added.2, handle, engine.record.incarnation handle, kind⟩] } },
    added.2)

/-- A timer is taken off the wheel. -/
def cancelTimer (engine : Engine) (id : TimerId) : Engine :=
  { engine with timerWheel := engine.timerWheel.cancel id }

/-- Timers are taken off the wheel. -/
def cancelTimers (engine : Engine) (ids : List TimerId) : Engine :=
  ids.foldl cancelTimer engine

/-- Arm the RTO timer of a connection, unless its RTO is zero. -/
def armRto (engine : Engine) (handle : ConnHandle) (nowNs : ℕ) : Engine :=
  match engine.flowTable.get handle with
  | none => engine
  | some conn =>
      if 0 < conn.rttEst.rtoUs then
        let added := engine.addTimer handle .rto nowNs conn.rttEst.rtoUs
        added.1.modifyConn handle fun conn =>
          { conn with rtoTimerId := some added.2, timerIds := conn.timerIds ++ [added.2] }
      else engine

/-- `arm_tlp_pto`: a probe timer is armed where the gates of the connection let it pass. -/
def armTlpPto (engine : Engine) (handle : ConnHandle) (nowNs : ℕ) : Engine :=
  match engine.flowTable.get handle with
  | none => engine
  | some conn =>
      if conn.tlpArmGatePasses then
        let pto := ptoUs conn.rttEst.srttUs conn.tlpConfig conn.sndRetrans.flightSize
        let added := engine.addTimer handle .tlp nowNs pto
        added.1.modifyConn handle fun conn =>
          { conn with tlpTimerId := some added.2, timerIds := conn.timerIds ++ [added.2] }
      else engine

end Engine

/-- The window field of a segment that is not a SYN. -/
def TcpConn.advertisedWindow (conn : TcpConn) : ℕ :=
  min (conn.recv.freeSpaceTotal / 2 ^ conn.wsShiftOut) 65535

/-- The timestamps of a segment sent at `nowNs`, once negotiated. -/
def TcpConn.txOptions (conn : TcpConn) (nowNs : ℕ) : TcpOpts :=
  { timestamps := if conn.tsEnabled then some (asMicros nowNs, conn.tsRecent) else none }

/-- The `SegmentTx` of a connection. -/
def Engine.segmentTx (engine : Engine) (conn : TcpConn) (seq : Seq) (flags : Flags)
    (options : TcpOpts) (payload : List UInt8) : SegmentTx :=
  { srcMac := engine.cfg.ourMac
    dstMac := engine.cfg.gatewayMac
    srcIp := conn.fourTuple.localIp
    dstIp := conn.fourTuple.peerIp
    srcPort := conn.fourTuple.localPort
    dstPort := conn.fourTuple.peerPort
    seq := seq
    ack := conn.rcvNxt
    flags := flags
    window := conn.advertisedWindow
    options := options
    payload := payload }

/-! ### Retransmission -/

/-- What happens to one call of `retransmit`: the frames the driver takes in the
two drains, the header buffer if there is one, whether `append` and `chain`
succeed, and the clock. -/
structure RetransmitEnv where
  sent : ℕ
  hdrMbuf : Option ℕ
  appended : Bool
  chained : Bool
  sentFull : ℕ
  optionsNs : ℕ
  errorNs : ℕ
  nowNs : ℕ

/-- The update of the entry after a transmission. -/
def RetransEntry.retransmitted (entry : RetransEntry) (nowNs : ℕ) : RetransEntry :=
  { entry with
    xmitCount := min (entry.xmitCount + 1) 65535
    xmitTsNs := nowNs
    lost := false }

/-- The connection after the entry at an index was sent again. -/
def TcpConn.resent (conn : TcpConn) (index nowNs : ℕ) : TcpConn :=
  { conn with
    sndRetrans :=
      ⟨conn.sndRetrans.entries.modify index fun entry => entry.retransmitted nowNs⟩ }

namespace Engine

/-- The application hears that a retransmission found no buffer. -/
def retransmitError (engine : Engine) (handle : ConnHandle) (errorNs : ℕ) : Engine :=
  engine.pushEvent (.error handle (-ENOMEM) errorNs)

/-- Record that `retransmit` looked up an entry. -/
def recordPick (engine : Engine) (picked : Picked) : Engine :=
  { engine with picked := engine.picked ++ [picked] }

/-- `live_hdrs_len`: what stands before the payload in the data buffer of an
entry, as a 16-bit difference. -/
def liveHdrsLen (engine : Engine) (entry : RetransEntry) : ℕ :=
  asU16 (65536 + (engine.mbufs entry.mbuf).data.length - entry.len)

/-- `payload_bytes`: the end of the data buffer. -/
def entryPayload (engine : Engine) (entry : RetransEntry) : List UInt8 :=
  ((engine.mbufs entry.mbuf).data.drop (engine.liveHdrsLen entry)).take entry.len

/-- The `SegmentTx` of a retransmission. -/
def retransSegment (engine : Engine) (conn : TcpConn) (entry : RetransEntry) (optionsNs : ℕ) :
    SegmentTx :=
  engine.segmentTx conn entry.seq (TCP_ACK ||| TCP_PSH) (conn.txOptions optionsNs) []

/-- Phase 3: the header, built from the connection and the payload. -/
def retransHeader (engine : Engine) (conn : TcpConn) (entry : RetransEntry) (optionsNs : ℕ) :
    Option (List UInt8) :=
  buildRetransHeader (engine.retransSegment conn entry optionsNs) (engine.entryPayload entry) 128

/-- The end of phase 3: write the header into its buffer. -/
def writeRetransHeader (engine : Engine) (conn : TcpConn) (entry : RetransEntry)
    (optionsNs hdrMbuf : ℕ) (header : List UInt8) : Engine :=
  engine.writeMbuf hdrMbuf
    (txOffloadFinalize (header.take (asU16 header.length))
      (engine.retransSegment conn entry optionsNs) entry.len engine.cfg.txCksumOffloadActive)

/-- The start of phase 4: strip `len` bytes of the old header off the data buffer. -/
def stripHeader (engine : Engine) (addr len : ℕ) : Engine :=
  if 0 < len then engine.adjMbuf addr len else engine

/-- Phases 2 to 6 of `retransmit_inner`: build a header in a new buffer, strip
what is left of the old header from the data buffer, chain the two and push. -/
def retransmitEntry (engine : Engine) (handle : ConnHandle) (index : ℕ) (conn : TcpConn)
    (entry : RetransEntry) (env : RetransmitEnv) : Engine :=
  match env.hdrMbuf with
  | none => engine.retransmitError handle env.errorNs
  | some hdrMbuf =>
      let allocated := engine.allocMbuf hdrMbuf
      match allocated.retransHeader conn entry env.optionsNs with
      | none => (allocated.releaseMbuf hdrMbuf).retransmitError handle env.errorNs
      | some header =>
          if !env.appended then
            (allocated.releaseMbuf hdrMbuf).retransmitError handle env.errorNs
          else
            let written := allocated.writeRetransHeader conn entry env.optionsNs hdrMbuf header
            let held := (written.stripHeader entry.mbuf (allocated.liveHdrsLen entry)).holdMbuf
              entry.mbuf
            if !env.chained then
              ((held.releaseMbuf hdrMbuf).releaseMbuf entry.mbuf).retransmitError handle env.errorNs
            else
              (held.pushTxPendingData ⟨[hdrMbuf, entry.mbuf], 0, none⟩ env.sentFull).modifyConn handle
                fun conn => conn.resent index env.nowNs

/-- `retransmit`. The ring is drained first, so that the data buffer is in no pending frame. -/
def retransmit (engine : Engine) (handle : ConnHandle) (index : ℕ) (env : RetransmitEnv) : Engine :=
  let drained := engine.drainTxPendingData env.sent
  match drained.flowTable.get handle with
  | none => drained
  | some conn =>
      match conn.sndRetrans.entries[index]? with
      | none => drained
      | some entry =>
          let looked := drained.recordPick ⟨handle, entry, conn.sndUna⟩
          if entry.mbuf = 0 then looked
          else looked.retransmitEntry handle index conn entry env

/-- One call of `retransmit` for each index, in order. -/
def retransmitAll (engine : Engine) (handle : ConnHandle) (envs : ℕ → RetransmitEnv) :
    List ℕ → Engine
  | [] => engine
  | index :: rest =>
      (engine.retransmit handle index (envs 0)).retransmitAll handle (fun turn => envs (turn + 1))
        rest

end Engine

/-! ### Sending new data -/

/-- What happens to one segment of `send_bytes`. -/
structure SendEnv where
  dataMbuf : Option ℕ
  appended : Bool
  sentFull : ℕ
  optionsNs : ℕ
  nowNs : ℕ

/-- Why `send_bytes` refuses. -/
inductive SendError where
  | invalidConnHandle
  | sendBufferFull
deriving DecidableEq, Repr

/-- The accumulators of the segment loop; `rest` are the admitted bytes still to be sent. -/
structure Sending where
  engine : Engine
  rest : List UInt8
  accepted : ℕ
  curSeq : Seq

/-- How a turn of the segment loop ends. -/
inductive SendTurn where
  | sent (sending : Sending)
  | noMem (sending : Sending)
  | stopped (sending : Sending)

/-- The entry of a segment just sent. -/
def newEntry (seq : Seq) (take frameLen mbuf nowNs : ℕ) : RetransEntry :=
  { seq := seq
    len := asU16 take
    mbuf := mbuf
    firstTxTsNs := nowNs
    xmitCount := 1
    sacked := false
    lost := false
    xmitTsNs := nowNs
    hdrsLen := asU16 (frameLen - take) }

namespace Engine

/-- Stash a transmitted segment; the first one of an idle connection arms the RTO timer. -/
def stashEntry (engine : Engine) (handle : ConnHandle) (entry : RetransEntry) : Engine :=
  let stashed := engine.modifyConn handle fun conn =>
    { conn with sndRetrans := conn.sndRetrans.pushAfterTx entry }
  match engine.flowTable.get handle with
  | some conn =>
      if conn.sndRetrans.isEmpty && conn.rtoTimerId.isNone then
        stashed.armRto handle entry.firstTxTsNs
      else stashed
  | none => stashed

/-- The record of a segment of the connection a handle stands for now. -/
def firstSent (engine : Engine) (handle : ConnHandle) (seq : Seq) (len : ℕ) (fin : Bool) :
    FirstSent :=
  ⟨handle, engine.record.incarnation handle, seq, len, fin⟩

/-- Record that a segment was given its sequence numbers. -/
def recordAssigned (engine : Engine) (first : FirstSent) : Engine :=
  { engine with record := { engine.record with assigned := engine.record.assigned ++ [first] } }

/-- Record that a segment was handed to the driver at once. -/
def recordSentAtOnce (engine : Engine) (first : FirstSent) : Engine :=
  { engine with record := engine.record.sentAtOnce first }

/-- Build, buffer and push one segment. `conn` is the connection at the start of the call. -/
def sendSegment (conn : TcpConn) (handle : ConnHandle) (mssCap : ℕ) (env : SendEnv)
    (sending : Sending) : SendTurn :=
  let take := min sending.rest.length mssCap
  let payload := sending.rest.take take
  let seg := sending.engine.segmentTx conn sending.curSeq (TCP_ACK ||| TCP_PSH)
    (conn.txOptions env.optionsNs) payload
  match buildSegment seg (FRAME_HDRS_MIN + 40 + take) with
  | none => .stopped sending
  | some frame =>
      match env.dataMbuf with
      | none => .noMem sending
      | some mbuf =>
          let allocated := sending.engine.allocMbuf mbuf
          if !env.appended then .noMem { sending with engine := allocated.releaseMbuf mbuf }
          else
            -- `append` makes room for `n as u16` bytes; what is copied beyond them is not data
            let written := allocated.writeMbuf mbuf
              (txOffloadFinalize (frame.take (asU16 frame.length)) seg payload.length
                sending.engine.cfg.txCksumOffloadActive)
            let first := sending.engine.firstSent handle sending.curSeq take false
            let pushed := ((written.holdMbuf mbuf).recordAssigned first).pushTxPendingData
              ⟨[mbuf], take, some first⟩ env.sentFull
            .sent
              { engine := pushed.stashEntry handle
                  (newEntry sending.curSeq take frame.length mbuf env.nowNs)
                rest := sending.rest.drop take
                accepted := sending.accepted + take
                curSeq := seqAdd sending.curSeq take }

/-- The segment loop. Every turn takes a byte, so as many turns as bytes suffice. -/
def sendSegments (conn : TcpConn) (handle : ConnHandle) (mssCap : ℕ) :
    (turns : ℕ) → (envs : ℕ → SendEnv) → Sending → SendTurn
  | 0, _, sending => .stopped sending
  | turns + 1, envs, sending =>
      if sending.rest = [] then .stopped sending
      else
        match sendSegment conn handle mssCap (envs 0) sending with
        | .sent next => sendSegments conn handle mssCap turns (fun turn => envs (turn + 1)) next
        | ended => ended

/-- What follows the loop: `snd_nxt`, the refusal latch and the probe timer. -/
def finishSend (sending : Sending) (handle : ConnHandle) (wanted tlpNs : ℕ) : Engine :=
  let advanced := sending.engine.modifyConn handle fun conn =>
    { conn with
      sndNxt := sending.curSeq
      sendRefusedPending :=
        if sending.accepted < wanted % 4294967296 then true else conn.sendRefusedPending }
  if 0 < sending.accepted then advanced.armTlpPto handle tlpNs else advanced

/-- How many of the bytes the peer's window and the send buffer admit. -/
def admitted (engine : Engine) (conn : TcpConn) (bytes : List UInt8) : List UInt8 :=
  let inFlight := (conn.sndNxt - conn.sndUna).toNat
  bytes.take (min (conn.sndWnd - inFlight) (engine.cfg.sendBufferBytes - inFlight))

/-- The payload a segment carries at most, at least one byte. -/
def mssCap (engine : Engine) (conn : TcpConn) : ℕ :=
  max (min conn.peerMss.toNat engine.cfg.tcpMss) 1

/-- `send_bytes`: segments are built from the accepted bytes until a buffer or the ring fails; it
returns how many were accepted. -/
def sendBytes (engine : Engine) (handle : ConnHandle) (bytes : List UInt8) (envs : ℕ → SendEnv)
    (tlpNs : ℕ) : Engine × Except SendError ℕ :=
  match engine.flowTable.get handle with
  | none => (engine, .error .invalidConnHandle)
  | some conn =>
      if conn.state ≠ .established then (engine, .error .invalidConnHandle)
      else
        let admitted := engine.admitted conn bytes
        let start : Sending :=
          { engine := engine, rest := admitted, accepted := 0, curSeq := conn.sndNxt }
        match sendSegments conn handle (engine.mssCap conn) (admitted.length + 1) envs start with
        | .noMem sending =>
            if sending.accepted = 0 then (sending.engine, .error .sendBufferFull)
            else (finishSend sending handle bytes.length tlpNs, .ok sending.accepted)
        | .stopped sending | .sent sending =>
            (finishSend sending handle bytes.length tlpNs, .ok sending.accepted)

end Engine

end DpdkTcp
