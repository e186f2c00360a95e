import DpdkTcp.Model.Reassembly
import DpdkTcp.Model.Loss
import DpdkTcp.Model.TimerWheel

/-!
# Connections

The per-connection record of `tcp_conn.rs` and the operations on it that do
not look at a segment. The round-trip histogram and the scratch array of
iovecs are write-only here and are left out.
-/

namespace DpdkTcp

/-- The addresses and ports of a connection. -/
structure FourTuple where
  localIp : BitVec 32
  localPort : UInt16
  peerIp : BitVec 32
  peerPort : UInt16
deriving DecidableEq, Repr

/-- A connection: its send side, its receive side, its options and its timers. -/
structure TcpConn where
  fourTuple : FourTuple
  state : TcpState
  sndUna : Seq
  sndNxt : Seq
  sndWnd : ℕ
  sndWl1 : Seq
  sndWl2 : Seq
  iss : Seq
  rcvNxt : Seq
  rcvWnd : ℕ
  irs : Seq
  peerMss : UInt16
  wsShiftOut : ℕ
  wsShiftIn : ℕ
  tsEnabled : Bool
  tsRecent : BitVec 32
  tsRecentAge : ℕ
  sackEnabled : Bool
  sackScoreboard : SackScoreboard
  snd : SendQueue
  recv : RecvQueue
  ourFinSeq : Option Seq
  timeWaitDeadlineNs : Option ℕ
  lastAdvertisedWnd : Option ℕ
  lastSackTrigger : Option (Seq × Seq)
  timerIds : List TimerId
  sndRetrans : SendRetrans
  rttEst : RttEstimator
  rtoTimerId : Option TimerId
  tlpTimerId : Option TimerId
  synRetransCount : ℕ
  synRetransTimerId : Option TimerId
  isPassiveOpen : Bool
  rackAggressive : Bool
  rtoNoBackoff : Bool
  rack : RackState
  tlpPtoMinFloorUs : ℕ
  tlpPtoSrttMultiplierX100 : ℕ
  tlpSkipFlightSizeGate : Bool
  tlpMaxConsecutiveProbes : ℕ
  tlpSkipRttSampleGate : Bool
  tlpConsecutiveProbesFired : ℕ
  tlpRttSampleSeenSinceLastTlp : Bool
  tlpRecentProbes : List (Option RecentProbe)
  tlpRecentProbesNextSlot : ℕ
  synTxTsNs : ℕ
  sendRefusedPending : Bool
  forceTwSkip : Bool
  deliveredSegments : List InOrderSegment
deriving DecidableEq, Repr

namespace TcpConn

/-- `new_client`. -/
def newClient (tuple : FourTuple) (iss : Seq) (ourMss : UInt16) (recvBufBytes sendBufBytes : ℕ)
    (minRtoUs initialRtoUs maxRtoUs : ℕ) : TcpConn :=
  { fourTuple := tuple
    state := .closed
    sndUna := iss
    sndNxt := iss
    sndWnd := 0
    sndWl1 := 0#32
    sndWl2 := 0#32
    iss := iss
    rcvNxt := 0#32
    rcvWnd := min recvBufBytes 65535
    irs := 0#32
    peerMss := ourMss
    wsShiftOut := 0
    wsShiftIn := 0
    tsEnabled := false
    tsRecent := 0#32
    tsRecentAge := 0
    sackEnabled := false
    sackScoreboard := SackScoreboard.new
    snd := { pending := [], cap := sendBufBytes }
    recv := RecvQueue.new recvBufBytes
    ourFinSeq := none
    timeWaitDeadlineNs := none
    lastAdvertisedWnd := none
    lastSackTrigger := none
    timerIds := []
    sndRetrans := SendRetrans.new
    rttEst := RttEstimator.new minRtoUs initialRtoUs maxRtoUs
    rtoTimerId := none
    tlpTimerId := none
    synRetransCount := 0
    synRetransTimerId := none
    isPassiveOpen := false
    rackAggressive := false
    rtoNoBackoff := false
    rack := RackState.new
    tlpPtoMinFloorUs := 0
    tlpPtoSrttMultiplierX100 := DEFAULT_MULTIPLIER_X100
    tlpSkipFlightSizeGate := false
    tlpMaxConsecutiveProbes := DEFAULT_MAX_CONSECUTIVE_PROBES
    tlpSkipRttSampleGate := false
    tlpConsecutiveProbesFired := 0
    tlpRttSampleSeenSinceLastTlp := false
    tlpRecentProbes := List.replicate 5 none
    tlpRecentProbesNextSlot := 0
    synTxTsNs := 0
    sendRefusedPending := false
    forceTwSkip := false
    deliveredSegments := [] }

/-- `tlp_config`: `u32::MAX` stands for no floor. -/
def tlpConfig (conn : TcpConn) : TlpConfig :=
  { floorUs := if conn.tlpPtoMinFloorUs = U32_MAX then 0 else conn.tlpPtoMinFloorUs
    multiplierX100 := conn.tlpPtoSrttMultiplierX100
    skipFlightSizeGate := conn.tlpSkipFlightSizeGate }

/-- `tlp_arm_gate_passes`: something is in flight, no probe is due, and the budget and the samples
allow one. -/
def tlpArmGatePasses (conn : TcpConn) : Bool :=
  !conn.sndRetrans.isEmpty && conn.tlpTimerId.isNone &&
    decide (conn.tlpConsecutiveProbesFired < conn.tlpMaxConsecutiveProbes) &&
    (conn.tlpSkipRttSampleGate || conn.tlpRttSampleSeenSinceLastTlp) &&
    conn.rttEst.srttUs.isSome

/-- `on_tlp_probe_fired`: the probe is remembered and counted. -/
def onTlpProbeFired (conn : TcpConn) (seq : Seq) (len txTsNs : ℕ) : TcpConn :=
  let slot := conn.tlpRecentProbesNextSlot
  { conn with
    tlpRecentProbes := conn.tlpRecentProbes.set slot (some ⟨seq, len, txTsNs, false⟩)
    tlpRecentProbesNextSlot := (slot + 1) % conn.tlpRecentProbes.length
    tlpConsecutiveProbesFired := min (conn.tlpConsecutiveProbesFired + 1) 255
    tlpRttSampleSeenSinceLastTlp := false }

/-- A round trip was measured: probes may be sent again. -/
def onRttSampleTlpHook (conn : TcpConn) : TcpConn :=
  { conn with tlpConsecutiveProbesFired := 0, tlpRttSampleSeenSinceLastTlp := true }

/-- New data was acknowledged: the probes are counted from zero. -/
def onNewDataAckTlpHook (conn : TcpConn) : TcpConn :=
  { conn with tlpConsecutiveProbesFired := 0 }

/-- The range `1..60_000_000` of believable samples. -/
def plausibleRtt (rttUs : BitVec 32) : Bool :=
  decide (1 ≤ rttUs.toNat ∧ rttUs.toNat < 60000000)

/-- A sample fed to the estimator and to the RACK minimum. -/
def absorbRtt (conn : TcpConn) (rttUs : ℕ) : TcpConn :=
  { conn with
    rttEst := conn.rttEst.sample rttUs
    rack := conn.rack.updateMinRtt rttUs }

/-- `maybe_seed_srtt_from_syn`: the handshake is the first sample, unless the SYN was sent twice. -/
def maybeSeedSrttFromSyn (conn : TcpConn) (nowNs : ℕ) : TcpConn :=
  if conn.synRetransCount ≠ 0 then conn
  else if conn.synTxTsNs = 0 then conn
  else
    let rttUs := asMicros nowNs - asMicros conn.synTxTsNs
    if plausibleRtt rttUs then conn.absorbRtt rttUs.toNat else conn

/-- The plausibility window of DSACK attribution, in nanoseconds. -/
def dsackWindowNs (conn : TcpConn) : ℕ :=
  let srttUs := conn.rttEst.srttUs.getD conn.rack.minRttUs
  (if srttUs = 0 then 1000000 else srttUs) * 1000 * 4

/-- Mark the first unattributed probe inside the block, if there is one. -/
def attributeProbe (blockLeft blockRight : Seq) (windowNs nowNs : ℕ) :
    List (Option RecentProbe) → Option (List (Option RecentProbe))
  | [] => none
  | none :: rest => (attributeProbe blockLeft blockRight windowNs nowNs rest).map (none :: ·)
  | some probe :: rest =>
      if !probe.attributed && seqLe blockLeft probe.seq &&
          seqLe (seqAdd probe.seq probe.len) blockRight &&
          decide (nowNs - probe.txTsNs < windowNs) then
        some (some { probe with attributed := true } :: rest)
      else (attributeProbe blockLeft blockRight windowNs nowNs rest).map (some probe :: ·)

/-- `attribute_dsack_to_recent_tlp_probe`, with the flag it returns. -/
def attributeDsackToRecentTlpProbe (conn : TcpConn) (blockLeft blockRight : Seq) (nowNs : ℕ) :
    TcpConn × Bool :=
  match attributeProbe blockLeft blockRight conn.dsackWindowNs nowNs conn.tlpRecentProbes with
  | some probes => ({ conn with tlpRecentProbes := probes }, true)
  | none => (conn, false)

/-- `fin_has_been_acked`: the acknowledgment is not before the number after our FIN. -/
def finHasBeenAcked (conn : TcpConn) (ackSeq : Seq) : Bool :=
  match conn.ourFinSeq with
  | some finSeq => !seqLt ackSeq (seqAdd finSeq 1)
  | none => false

end TcpConn

/-- `ConnStats`: what the application can see of a connection. -/
structure ConnStats where
  sndUna : Seq
  sndNxt : Seq
  sndWnd : ℕ
  sendBufBytesPending : ℕ
  sendBufBytesFree : ℕ
  srttUs : ℕ
  rttvarUs : ℕ
  minRttUs : ℕ
  rtoUs : ℕ
deriving DecidableEq, Repr

/-- `stats`. -/
def TcpConn.stats (conn : TcpConn) (sendBufferBytes : ℕ) : ConnStats :=
  let pending := conn.snd.pending.length % 4294967296
  { sndUna := conn.sndUna
    sndNxt := conn.sndNxt
    sndWnd := conn.sndWnd
    sendBufBytesPending := pending
    sendBufBytesFree := sendBufferBytes - pending
    srttUs := conn.rttEst.srttUs.getD 0
    rttvarUs := conn.rttEst.rttvarUs
    minRttUs := conn.rack.minRttUs
    rtoUs := conn.rttEst.rtoUs }

end DpdkTcp
