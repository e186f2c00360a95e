import DpdkTcp.Model.Conn

/-!
# Segment input

The per-state handlers of `tcp_input.rs` behind `dispatch`, for the default
build (no passive open). `handleEstablished` is the composition of the stages
of the source function in their order: the checks that end in an early return,
PAWS, SACK, ACK, loss detection, data, FIN. The stages shared with
`handleClosePath` are written once.

A handler returns the connection after the call, the outcome, and the changes
it makes to reference counts of received buffers. The state field is not
changed here; the engine applies `new_state`.
-/

namespace DpdkTcp

/-- `TS_RECENT_EXPIRY_NS`: 24 days. -/
def TS_RECENT_EXPIRY_NS : ℕ := 24 * 86400 * 1000000000

/-- The values of `clock::now_ns()` at the call sites of one dispatch. -/
structure Readings where
  paws : ℕ
  dsack : ℕ → ℕ
  rtt : ℕ
  rack : ℕ
  synTsRecent : ℕ
  synSeed : ℕ

/-- A clock that does not move during the call. -/
def Readings.at (nowNs : ℕ) : Readings :=
  ⟨nowNs, fun _ => nowNs, nowNs, nowNs, nowNs, nowNs⟩

/-- `MbufInsertCtx`, with the further links of the buffer chain. -/
structure MbufInsertCtx where
  mbuf : RxMbuf
  payloadOffset : ℕ
  next : List RxMbuf
deriving DecidableEq, Repr

/-- What a handler asks `tcp_input` to do, and what it counts. -/
structure Outcome where
  tx : TxAction := .none
  newState : Option TcpState := none
  delivered : ℕ := 0
  bufFullDrop : ℕ := 0
  reassemblyQueuedBytes : ℕ := 0
  reassemblyHoleFilled : ℕ := 0
  pawsRejected : Bool := false
  tsRecentExpired : Bool := false
  badOption : Bool := false
  sackBlocksDecoded : ℕ := 0
  badSeq : Bool := false
  badAck : Bool := false
  dupAck : Bool := false
  urgentDropped : Bool := false
  rxZeroWindow : Bool := false
  wsShiftClamped : Bool := false
  sndUnaAdvancedTo : Option Seq := none
  rttSampleTaken : Bool := false
  rackLostIndexes : List ℕ := []
  rxDsackCount : ℕ := 0
  txTlpSpuriousCount : ℕ := 0
  synRetransTimerToCancel : Option TimerId := none
  writableHysteresisFired : Bool := false
  mbufRefRetained : Bool := false
  inOrderDeliveredFromSeg : ℕ := 0
  connected : Bool := false
  closed : Bool := false
deriving DecidableEq, Repr

/-- `Outcome::none`. -/
def Outcome.none : Outcome :=
  {}

/-- What a handler leaves behind: the connection, its outcome and the references it took or gave
back. -/
structure Dispatched where
  conn : TcpConn
  outcome : Outcome
  refUpdates : List RefUpdate := []

/-! ### The handshake -/

/-- `snd_una + 1 <= ack <= snd_nxt`. -/
def synAcked (conn : TcpConn) (seg : ParsedSegment) : Bool :=
  seqLe (seqAdd conn.sndUna 1) seg.ack && seqLe seg.ack conn.sndNxt

/-- The fields a valid SYN-ACK sets, up to and including the timestamps. -/
def adoptSynAck (conn : TcpConn) (seg : ParsedSegment) (opts : TcpOpts) (nowNs : ℕ) : TcpConn :=
  { conn with
    irs := seg.seq
    rcvNxt := seqAdd seg.seq 1
    sndUna := seg.ack
    sndWnd := seg.window.toNat
    sndWl1 := seg.seq
    sndWl2 := seg.ack
    peerMss := opts.mss.getD 536
    wsShiftIn :=
      match opts.wscale with
      | some shift => min shift.toNat 14
      | none => 0
    wsShiftOut := if opts.wscale.isSome then conn.wsShiftOut else 0
    sackEnabled := opts.sackPermitted
    tsEnabled := opts.timestamps.isSome
    tsRecent :=
      match opts.timestamps with
      | some (tsVal, _) => tsVal
      | none => conn.tsRecent
    tsRecentAge := if opts.timestamps.isSome then nowNs else conn.tsRecentAge }

/-- `handle_syn_sent`: a SYN-ACK of our SYN opens the connection. -/
def handleSynSent (conn : TcpConn) (seg : ParsedSegment) (clock : Readings) : Dispatched :=
  if seg.flags.has TCP_RST then
    if seg.flags.has TCP_ACK && synAcked conn seg then
      { conn := conn, outcome := { newState := some .closed, closed := true } }
    else { conn := conn, outcome := Outcome.none }
  else if !seg.flags.has TCP_SYN then
    { conn := conn
      outcome := { tx := .rstForSynSentBadAck, newState := some .closed, closed := true } }
  else if !seg.flags.has TCP_ACK then { conn := conn, outcome := Outcome.none }
  else if !synAcked conn seg then
    { conn := conn
      outcome := { tx := .rstForSynSentBadAck, newState := some .closed, closed := true } }
  else
    match parseOptions seg.options with
    | .error _ =>
        { conn := conn
          outcome :=
            { tx := .rst, newState := some .closed, closed := true, badOption := true } }
    | .ok opts =>
        let adopted := adoptSynAck conn seg opts clock.synTsRecent
        let seeded := adopted.maybeSeedSrttFromSyn clock.synSeed
        { conn := { seeded with synRetransTimerId := none }
          outcome :=
            { tx := .ack
              newState := some .established
              connected := true
              synRetransTimerToCancel := seeded.synRetransTimerId
              wsShiftClamped := opts.wsClamped } }

/-! ### Checks shared by the established and the closing states -/

/-- `in_win`: both edges of the segment lie in the receive window. -/
def segInWindow (conn : TcpConn) (seg : ParsedSegment) : Bool :=
  if seg.segLen = 0 then seg.seq == conn.rcvNxt
  else
    inWindow conn.rcvNxt seg.seq conn.rcvWnd &&
      inWindow conn.rcvNxt (seqAdd seg.seq seg.segLen - 1#32) conn.rcvWnd

/-- The decoded options; an empty region is not handed to the decoder. -/
def segOptions (seg : ParsedSegment) : Except OptionParseError TcpOpts :=
  if seg.options.isEmpty then .ok {} else parseOptions seg.options

/-- How the PAWS test ends. -/
inductive Paws where
  | missingTimestamps
  | rejected
  | passed (conn : TcpConn) (tsRecentExpired : Bool)

/-- The PAWS block of `handle_established`, with the lazy expiry of `ts_recent`. -/
def paws (conn : TcpConn) (seg : ParsedSegment) (opts : TcpOpts) (nowNs : ℕ) : Paws :=
  if conn.tsEnabled then
    match opts.timestamps with
    | none => .missingTimestamps
    | some (tsVal, _) =>
        let idleNs := nowNs - conn.tsRecentAge
        if conn.tsRecentAge ≠ 0 ∧ TS_RECENT_EXPIRY_NS < idleNs then
          .passed { conn with tsRecent := tsVal, tsRecentAge := nowNs } true
        else if seqLt tsVal conn.tsRecent then .rejected
        else if seqLe seg.seq conn.rcvNxt then
          .passed { conn with tsRecent := tsVal, tsRecentAge := nowNs } false
        else .passed conn false
  else .passed conn false

/-- The copy of the PAWS block in `handle_close_path`. -/
def pawsClosePath (conn : TcpConn) (seg : ParsedSegment) (opts : TcpOpts) (nowNs : ℕ) : Paws :=
  if conn.tsEnabled then
    match opts.timestamps with
    | none => .missingTimestamps
    | some (tsVal, _) =>
        let idleNs := nowNs - conn.tsRecentAge
        let pawsSkipThisSeg := conn.tsRecentAge ≠ 0 ∧ TS_RECENT_EXPIRY_NS < idleNs
        if pawsSkipThisSeg then
          .passed { conn with tsRecent := tsVal, tsRecentAge := nowNs } true
        else if seqLt tsVal conn.tsRecent then .rejected
        else if ¬ pawsSkipThisSeg ∧ seqLe seg.seq conn.rcvNxt = true then
          .passed { conn with tsRecent := tsVal, tsRecentAge := nowNs } false
        else .passed conn false
  else .passed conn false

/-- `is_dsack`: the block is acknowledged already, or lies in one that was reported before. -/
def isDsack (block : SackBlock) (sndUna : Seq) (scoreboard : SackScoreboard) : Bool :=
  seqLe block.right sndUna ||
    scoreboard.blocks.any fun existing =>
      seqLe existing.left block.left && seqLe block.right existing.right

/-- The connection between two SACK blocks of a segment, with what is counted. -/
structure SackPass where
  conn : TcpConn
  sackBlocksDecoded : ℕ := 0
  rxDsackCount : ℕ := 0
  txTlpSpuriousCount : ℕ := 0

/-- The loop body over one peer SACK block. -/
def absorbSackBlock (nowNs : ℕ) (block : SackBlock) (pass : SackPass) : SackPass :=
  let conn := pass.conn
  if isDsack block conn.sndUna conn.sackScoreboard then
    let seen := { conn with rack := { conn.rack with dsackSeen := true } }
    let attributed := seen.attributeDsackToRecentTlpProbe block.left block.right nowNs
    { pass with
      conn := attributed.1
      rxDsackCount := pass.rxDsackCount + 1
      txTlpSpuriousCount := pass.txTlpSpuriousCount + attributed.2.toNat }
  else
    { pass with
      conn :=
        { conn with
          sackScoreboard := conn.sackScoreboard.insert block
          sndRetrans := conn.sndRetrans.markSacked block } }

/-- The loop over the SACK blocks of a segment; the clock is read once for each. -/
def absorbSackBlocks (readClock : ℕ → ℕ) : ℕ → List SackBlock → SackPass → SackPass
  | _, [], pass => pass
  | index, block :: rest, pass =>
      absorbSackBlocks readClock (index + 1) rest (absorbSackBlock (readClock index) block pass)

/-- Decode the peer's SACK blocks into the scoreboard and the retransmit queue. -/
def sackPass (conn : TcpConn) (opts : TcpOpts) (readClock : ℕ → ℕ) : SackPass :=
  if conn.sackEnabled && decide (0 < opts.sackBlockCount) then
    { absorbSackBlocks readClock 0 opts.liveSackBlocks { conn := conn } with
      sackBlocksDecoded := opts.sackBlockCount }
  else { conn := conn }

/-! ### Acknowledgments -/

/-- The timestamp sample, and the fallback on the front entry sent exactly once. -/
def rttSample (conn : TcpConn) (opts : TcpOpts) (nowNs : ℕ) : Option ℕ :=
  let nowUs := asMicros nowNs
  let tsSample : Option ℕ :=
    if conn.tsEnabled then
      match opts.timestamps with
      | some (_, tsEcr) =>
          if tsEcr = 0#32 then none
          else if TcpConn.plausibleRtt (nowUs - tsEcr) then some (nowUs - tsEcr).toNat
          else none
      | none => none
    else none
  match tsSample with
  | some rtt => some rtt
  | none =>
      match conn.sndRetrans.entries.head? with
      | some front =>
          let rtt := nowUs - asMicros front.firstTxTsNs
          if decide (front.xmitCount = 1) && seqLe front.endSeq conn.sndUna &&
              TcpConn.plausibleRtt rtt then
            some rtt.toNat
          else none
      | none => none

/-- `(seg.window as u32).wrapping_shl(ws_shift_in)`. -/
def scaledWindow (window : UInt16) (shift : ℕ) : ℕ :=
  window.toNat * 2 ^ (shift % 32) % 4294967296

/-- The SND.WL1 / SND.WL2 rule. -/
def newerForWindow (conn : TcpConn) (seg : ParsedSegment) : Bool :=
  seqLt conn.sndWl1 seg.seq || (conn.sndWl1 == seg.seq && seqLe conn.sndWl2 seg.ack)

/-- The send window is taken from a segment newer than the last one that set it. -/
def updateWindow (conn : TcpConn) (seg : ParsedSegment) : TcpConn :=
  if newerForWindow conn seg then
    { conn with
      sndWnd := scaledWindow seg.window conn.wsShiftIn
      sndWl1 := seg.seq
      sndWl2 := seg.ack }
  else conn

/-- What the acknowledgment of a segment makes of the connection. -/
structure AckPass where
  conn : TcpConn
  dupAck : Bool := false
  sndUnaAdvancedTo : Option Seq := none
  rttSampleTaken : Bool := false
  writableHysteresisFired : Bool := false

/-- The branch for an acknowledgment of new data, up to the WRITABLE test. -/
def absorbAck (conn : TcpConn) (seg : ParsedSegment) (opts : TcpOpts) (nowNs : ℕ) :
    TcpConn × Bool :=
  let acked := (seg.ack - conn.sndUna).toNat
  let advanced :=
    { conn with
      snd := { conn.snd with pending := conn.snd.pending.drop acked }
      sndUna := seg.ack }
  let sample := rttSample advanced opts nowNs
  let sampled :=
    match sample with
    | some rtt => (advanced.absorbRtt rtt).onRttSampleTlpHook
    | none => advanced.onNewDataAckTlpHook
  let pruned :=
    if sampled.sackEnabled then
      { sampled with sackScoreboard := sampled.sackScoreboard.pruneBelow sampled.sndUna }
    else sampled
  (updateWindow pruned seg, sample.isSome)

/-- ACK processing; `none` is an acknowledgment of data never sent. -/
def ackPass (conn : TcpConn) (seg : ParsedSegment) (opts : TcpOpts) (nowNs : ℕ)
    (sendBufferBytes : ℕ) : Option AckPass :=
  if seqLt conn.sndUna seg.ack && seqLe seg.ack conn.sndNxt then
    let absorbed := absorbAck conn seg opts nowNs
    let inFlight := (absorbed.1.sndNxt - absorbed.1.sndUna).toNat
    let fired := absorbed.1.sendRefusedPending && decide (inFlight ≤ sendBufferBytes / 2)
    some
      { conn :=
          if fired then { absorbed.1 with sendRefusedPending := false } else absorbed.1
        sndUnaAdvancedTo := some seg.ack
        rttSampleTaken := absorbed.2
        writableHysteresisFired := fired }
  else if seqLt conn.sndNxt seg.ack then none
  else
    some
      { conn := conn
        dupAck :=
          seg.ack == conn.sndUna && seg.payload.isEmpty &&
            decide (seg.window.toNat = conn.sndWnd / 2 ^ conn.wsShiftIn) &&
            conn.sndUna != conn.sndNxt && !seg.flags.has (TCP_SYN ||| TCP_FIN) }

/-! ### Loss detection -/

/-- RACK state after looking at every acknowledged or sacked entry. -/
def rackUpdate (sndUna : Seq) (entries : List RetransEntry) (rack : RackState) : RackState :=
  entries.foldl
    (fun rack entry =>
      if entry.sacked || seqLe entry.endSeq sndUna then
        rack.updateOnAck entry.xmitTsNs entry.endSeq
      else rack)
    rack

/-- The RACK test on one entry. -/
def rackLost (rack : RackState) (sndUna : Seq) (nowNs reoWndUs : ℕ) (entry : RetransEntry) :
    Bool :=
  !(entry.sacked || entry.lost) && !seqLe entry.endSeq sndUna &&
    rack.detectLost entry.xmitTsNs entry.endSeq nowNs reoWndUs

/-- The detect-lost pass, with the indexes it marks. -/
def rackPass (conn : TcpConn) (nowNs : ℕ) : TcpConn × List ℕ :=
  if conn.sndRetrans.isEmpty then (conn, [])
  else
    let rack := rackUpdate conn.sndUna conn.sndRetrans.entries conn.rack
    let reoWndUs := computeReoWndUs conn.rackAggressive rack.minRttUs conn.rttEst.srttUs
    let lost :=
      indexesWhere (rackLost rack conn.sndUna nowNs reoWndUs) conn.sndRetrans.entries
    ({ conn with
        rack := { rack with reoWndUs := reoWndUs }
        sndRetrans := conn.sndRetrans.markLost lost },
      lost)

/-! ### Data -/

/-- What the payload of a segment makes of the connection, and what is counted. -/
structure Delivery where
  conn : TcpConn
  delivered : ℕ := 0
  bufFullDrop : ℕ := 0
  reassemblyQueuedBytes : ℕ := 0
  reassemblyHoleFilled : ℕ := 0
  mbufRefRetained : Bool := false
  inOrderDeliveredFromSeg : ℕ := 0
  refUpdates : List RefUpdate := []

/-- Bytes appended to the in-order queue from a buffer chain. -/
structure Appended where
  recv : RecvQueue
  delivered : ℕ := 0
  bufFullDrop : ℕ := 0
  refUpdates : List RefUpdate := []

/-- Append the window of one link, which takes a reference of its own. -/
def Appended.push (appended : Appended) (mbuf : RxMbuf) (offset take : ℕ) : Appended :=
  { appended with
    recv :=
      { appended.recv with bytes := appended.recv.bytes ++ [⟨mbuf, offset, asU16 take⟩] }
    delivered := appended.delivered + take
    refUpdates := appended.refUpdates ++ [.refcntUpdate mbuf.addr 1] }

/-- The walk over the links behind the head. -/
def appendChain : List RxMbuf → Appended → Appended
  | [], appended => appended
  | link :: rest, appended =>
      let room := appended.recv.freeSpace
      if room = 0 then
        { appended with
          bufFullDrop :=
            appended.bufFullDrop + ((link :: rest).map fun mbuf => mbuf.data.length).sum }
      else
        let linkTake := min link.data.length room
        let pushed := if 0 < linkTake then appended.push link 0 linkTake else appended
        appendChain rest
          { pushed with bufFullDrop := pushed.bufFullDrop + (link.data.length - linkTake) }

/-- The head link and the chain of an in-order segment. Without a buffer
nothing can be appended. -/
def appendInOrder (recv : RecvQueue) (seg : ParsedSegment) (mbufCtx : Option MbufInsertCtx) :
    Appended :=
  let headTake := min seg.payload.length recv.freeSpace
  match mbufCtx with
  | some ctx =>
      if 0 < headTake then
        appendChain ctx.next (({ recv := recv } : Appended).push ctx.mbuf ctx.payloadOffset headTake)
      else { recv := recv }
  | none => { recv := recv }

/-- Drain the reorder queue behind the in-order bytes. -/
def drainReorder (delivery : Delivery) : Delivery :=
  let conn := delivery.conn
  if conn.recv.reorder.isEmpty then delivery
  else
    let drained :=
      drainSegments conn.recv.reorder.segments conn.rcvNxt conn.recv.freeSpace
        conn.recv.reorder.totalBytes
    { delivery with
      conn :=
        { conn with
          rcvNxt := seqAdd conn.rcvNxt drained.bytesAppended
          recv :=
            { conn.recv with
              bytes := conn.recv.bytes ++ drained.appended
              reorder :=
                { conn.recv.reorder with
                  segments := drained.segments
                  totalBytes := drained.totalBytes } } }
      delivered := delivery.delivered + drained.bytesAppended
      bufFullDrop := delivery.bufFullDrop + drained.capDropped
      reassemblyHoleFilled := drained.appended.length
      refUpdates := delivery.refUpdates ++ drained.refUpdates }

/-- The branch `seg.seq == rcv_nxt`. -/
def deliverInOrder (conn : TcpConn) (seg : ParsedSegment) (mbufCtx : Option MbufInsertCtx) :
    Delivery :=
  let headTake := min seg.payload.length conn.recv.freeSpace
  let appended := appendInOrder conn.recv seg mbufCtx
  drainReorder
    { conn :=
        { conn with
          recv := appended.recv
          rcvNxt := seqAdd conn.rcvNxt appended.delivered }
      delivered := appended.delivered
      bufFullDrop := appended.bufFullDrop + (seg.payload.length - headTake)
      inOrderDeliveredFromSeg := appended.delivered
      refUpdates := appended.refUpdates }

/-- Insert the links behind the head of an out-of-order segment. -/
def insertChain : List RxMbuf → Seq → Delivery → Delivery
  | [], _, delivery => delivery
  | link :: rest, linkSeq, delivery =>
      if link.data.length = 0 then insertChain rest linkSeq delivery
      else
        let inserted := delivery.conn.recv.reorder.insert linkSeq link.data link 0
        let linkEnd := seqAdd linkSeq link.data.length
        insertChain rest linkEnd
          { delivery with
            conn :=
              { delivery.conn with
                recv := { delivery.conn.recv with reorder := inserted.queue }
                lastSackTrigger :=
                  if 0 < inserted.outcome.newlyBuffered then
                    match delivery.conn.lastSackTrigger with
                    | some (left, _) => some (left, linkEnd)
                    | none => some (linkSeq, linkEnd)
                  else delivery.conn.lastSackTrigger }
            reassemblyQueuedBytes :=
              delivery.reassemblyQueuedBytes + inserted.outcome.newlyBuffered
            bufFullDrop := delivery.bufFullDrop + inserted.outcome.capDropped
            refUpdates :=
              delivery.refUpdates ++ [.refcntUpdate link.addr 1] ++ inserted.refUpdates ++
                (if inserted.outcome.mbufRefRetained then [] else [.refcntUpdate link.addr (-1)]) }

/-- The branch `rcv_nxt < seg.seq`. -/
def deliverOutOfOrder (conn : TcpConn) (seg : ParsedSegment) (mbufCtx : Option MbufInsertCtx) :
    Delivery :=
  let totalCap := conn.recv.freeSpaceTotal
  if 0 < totalCap then
    let headTake := min seg.payload.length totalCap
    match mbufCtx with
    | some ctx =>
        let inserted :=
          conn.recv.reorder.insert seg.seq (seg.payload.take headTake) ctx.mbuf ctx.payloadOffset
        insertChain ctx.next (seqAdd seg.seq seg.payload.length)
          { conn :=
              { conn with
                recv := { conn.recv with reorder := inserted.queue }
                lastSackTrigger :=
                  if 0 < inserted.outcome.newlyBuffered then
                    some (seg.seq, seqAdd seg.seq headTake)
                  else conn.lastSackTrigger }
            bufFullDrop := inserted.outcome.capDropped + (seg.payload.length - headTake)
            reassemblyQueuedBytes := inserted.outcome.newlyBuffered
            mbufRefRetained := inserted.outcome.mbufRefRetained
            refUpdates := inserted.refUpdates }
    | none => { conn := conn }
  else
    { conn := conn
      bufFullDrop :=
        seg.payload.length +
          (match mbufCtx with
            | some ctx => (ctx.next.map fun mbuf => mbuf.data.length).sum
            | none => 0) }

/-- Data delivery; payload before `rcv_nxt` is dropped. -/
def deliver (conn : TcpConn) (seg : ParsedSegment) (mbufCtx : Option MbufInsertCtx) : Delivery :=
  if seg.payload.isEmpty then { conn := conn }
  else if seg.seq = conn.rcvNxt then deliverInOrder conn seg mbufCtx
  else if seqLt conn.rcvNxt seg.seq then deliverOutOfOrder conn seg mbufCtx
  else { conn := conn }

/-- The FIN test: `seq + delivered` against the already advanced `rcv_nxt`. -/
def consumesFin (seg : ParsedSegment) (delivery : Delivery) : Bool :=
  seg.fin && seqAdd seg.seq delivery.delivered == delivery.conn.rcvNxt

/-- The FIN of a segment whose payload was consumed takes one number. -/
def takeFin (seg : ParsedSegment) (delivery : Delivery) : TcpConn × Option TcpState :=
  if consumesFin seg delivery then
    ({ delivery.conn with rcvNxt := seqAdd delivery.conn.rcvNxt 1 }, some .closeWait)
  else (delivery.conn, none)

/-! ### The handlers -/

/-- The early returns of `handle_established` before PAWS. -/
def establishedChecks (conn : TcpConn) (seg : ParsedSegment) : Except Outcome TcpOpts :=
  let rxZeroWindow := seg.window == 0
  if seg.flags.has TCP_URG then .error { urgentDropped := true }
  else if seg.flags.has TCP_RST then
    .error { newState := some .closed, closed := true, rxZeroWindow := rxZeroWindow }
  else if !seg.flags.has TCP_ACK then .error { rxZeroWindow := rxZeroWindow }
  else if !segInWindow conn seg then
    .error { tx := .ack, badSeq := true, rxZeroWindow := rxZeroWindow }
  else
    match segOptions seg with
    | .error _ => .error { badOption := true, rxZeroWindow := rxZeroWindow }
    | .ok opts => .ok opts

/-- The stages from loss detection on, once the acknowledgment is accepted. -/
def establishedData (seg : ParsedSegment) (mbufCtx : Option MbufInsertCtx) (rackNow : ℕ)
    (tsRecentExpired : Bool) (sack : SackPass) (ack : AckPass) : Dispatched :=
  let raced := rackPass ack.conn rackNow
  let delivery := deliver raced.1 seg mbufCtx
  let fin := takeFin seg delivery
  { conn := fin.1
    outcome :=
      { tx :=
          if 0 < delivery.delivered ∨ fin.2 = some .closeWait ∨ seg.payload ≠ [] then .ack
          else .none
        newState := fin.2
        delivered := delivery.delivered
        bufFullDrop := delivery.bufFullDrop
        reassemblyQueuedBytes := delivery.reassemblyQueuedBytes
        reassemblyHoleFilled := delivery.reassemblyHoleFilled
        sackBlocksDecoded := sack.sackBlocksDecoded
        dupAck := ack.dupAck
        rxZeroWindow := seg.window == 0
        sndUnaAdvancedTo := ack.sndUnaAdvancedTo
        rttSampleTaken := ack.rttSampleTaken
        rackLostIndexes := raced.2
        rxDsackCount := sack.rxDsackCount
        txTlpSpuriousCount := sack.txTlpSpuriousCount
        tsRecentExpired := tsRecentExpired
        writableHysteresisFired := ack.writableHysteresisFired
        mbufRefRetained := delivery.mbufRefRetained
        inOrderDeliveredFromSeg := delivery.inOrderDeliveredFromSeg }
    refUpdates := delivery.refUpdates }

/-- `handle_established`: checks, PAWS, SACK, acknowledgment, window, payload and FIN, in this
order. -/
def handleEstablished (conn : TcpConn) (seg : ParsedSegment) (clock : Readings)
    (sendBufferBytes : ℕ) (mbufCtx : Option MbufInsertCtx) : Dispatched :=
  let rxZeroWindow := seg.window == 0
  match establishedChecks conn seg with
  | .error outcome => { conn := conn, outcome := outcome }
  | .ok opts =>
      match paws conn seg opts clock.paws with
      | .missingTimestamps =>
          { conn := conn, outcome := { badOption := true, rxZeroWindow := rxZeroWindow } }
      | .rejected =>
          { conn := conn
            outcome := { tx := .ack, pawsRejected := true, rxZeroWindow := rxZeroWindow } }
      | .passed timed tsRecentExpired =>
          let sack := sackPass timed opts clock.dsack
          match ackPass sack.conn seg opts clock.rtt sendBufferBytes with
          | none =>
              { conn := sack.conn
                outcome :=
                  { tx := .ack
                    badAck := true
                    rxZeroWindow := rxZeroWindow
                    sackBlocksDecoded := sack.sackBlocksDecoded } }
          | some ack => establishedData seg mbufCtx clock.rack tsRecentExpired sack ack

/-- The state transitions of `handle_close_path`. -/
def closeTransition (state : TcpState) (finAcked peerHasFin : Bool) : Option TcpState × TxAction :=
  match state, finAcked, peerHasFin with
  | .finWait1, true, true => (some .timeWait, .ack)
  | .finWait1, true, false => (some .finWait2, .none)
  | .finWait1, false, true => (some .closing, .ack)
  | .finWait1, false, false => (none, .none)
  | .finWait2, _, true => (some .timeWait, .ack)
  | .finWait2, _, false => (none, .none)
  | .closing, true, _ => (some .timeWait, .none)
  | .closing, false, _ => (none, .none)
  | .lastAck, true, _ => (some .closed, .none)
  | .lastAck, false, _ => (none, .none)
  | .closeWait, _, _ => (none, .none)
  | _, _, _ => (none, .none)

/-- `handle_close_path` behind its checks: the acknowledgment, the peer's FIN and the transition. -/
def closeAdvance (conn : TcpConn) (seg : ParsedSegment) : TcpConn × (Option TcpState × TxAction) :=
  let finAcked := conn.finHasBeenAcked seg.ack
  let acked :=
    if seqLt conn.sndUna seg.ack && seqLe seg.ack conn.sndNxt then
      { conn with sndUna := seg.ack }
    else conn
  let peerHasFin := seg.fin && seqAdd seg.seq seg.payload.length == acked.rcvNxt
  let received :=
    if peerHasFin then { acked with rcvNxt := seqAdd acked.rcvNxt 1 } else acked
  (received, closeTransition conn.state finAcked peerHasFin)

/-- `handle_close_path`: a segment of a connection behind a FIN. -/
def handleClosePath (conn : TcpConn) (seg : ParsedSegment) (clock : Readings) : Dispatched :=
  if seg.flags.has TCP_RST then
    { conn := conn, outcome := { newState := some .closed, closed := true } }
  else if conn.state = .timeWait then
    { conn := conn, outcome := { tx := .ack, badSeq := !segInWindow conn seg } }
  else if !seg.flags.has TCP_ACK then { conn := conn, outcome := Outcome.none }
  else if !segInWindow conn seg then
    { conn := conn, outcome := { tx := .ack, badSeq := true } }
  else
    match segOptions seg with
    | .error _ => { conn := conn, outcome := { badOption := true } }
    | .ok opts =>
        match pawsClosePath conn seg opts clock.paws with
        | .missingTimestamps => { conn := conn, outcome := { badOption := true } }
        | .rejected => { conn := conn, outcome := { tx := .ack, pawsRejected := true } }
        | .passed timed tsRecentExpired =>
            let sack := sackPass timed opts clock.dsack
            let advanced := closeAdvance sack.conn seg
            { conn := advanced.1
              outcome :=
                { tx := advanced.2.2
                  newState := advanced.2.1
                  closed := advanced.2.1 == some .closed
                  sackBlocksDecoded := sack.sackBlocksDecoded
                  rxDsackCount := sack.rxDsackCount
                  txTlpSpuriousCount := sack.txTlpSpuriousCount
                  tsRecentExpired := tsRecentExpired } }

/-- `dispatch`: hand a segment to the handler of the connection's state. -/
def dispatch (conn : TcpConn) (seg : ParsedSegment) (clock : Readings) (sendBufferBytes : ℕ)
    (mbufCtx : Option MbufInsertCtx) : Dispatched :=
  match conn.state with
  | .synSent => handleSynSent conn seg clock
  | .established => handleEstablished conn seg clock sendBufferBytes mbufCtx
  | .finWait1 | .finWait2 | .closing | .lastAck | .closeWait | .timeWait =>
      handleClosePath conn seg clock
  | .closed | .listen | .synReceived => { conn := conn, outcome := Outcome.none }

end DpdkTcp
