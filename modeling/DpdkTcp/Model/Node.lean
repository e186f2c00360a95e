import DpdkTcp.Model.Arp
import DpdkTcp.Model.Icmp

/-!
# A station and its neighbours

What the engine does with a received frame beside handing segments to connections:
it answers and learns from ARP, takes path MTUs from ICMP and refuses segments of
no connection. At the end of a poll it announces itself and asks for the gateway.
The frames are those the driver takes; `accepted` is its answer. The counters, and
the frames of connections, are not part of this.
-/

namespace DpdkTcp

/-- The engine with what its neighbour code reads and writes. -/
structure Node where
  station : Station
  gatewayIp : BitVec 32
  garpIntervalSec : ℕ
  lastGarpNs : ℕ
  lastGwArpReqNs : ℕ
  pmtu : PmtuTable

/-- The interval between two questions for the gateway. -/
def PROBE_INTERVAL_NS : ℕ := 1000000000

namespace Node

/-- An engine on a network that has sent nothing. -/
def start (station : Station) (gatewayIp : BitVec 32) (garpIntervalSec : ℕ) : Node :=
  { station := station
    gatewayIp := gatewayIp
    garpIntervalSec := garpIntervalSec
    lastGarpNs := 0
    lastGwArpReqNs := 0
    pmtu := PmtuTable.new }

variable (node : Node)

/-- The address of the engine. -/
def localIp : BitVec 32 :=
  node.station.host.engine.cfg.localIp

/-- The address of the device. -/
def ourMac : Vector UInt8 6 :=
  node.station.host.engine.cfg.ourMac

/-- The device that frames are sent to. -/
def gatewayMac : Vector UInt8 6 :=
  node.station.host.engine.cfg.gatewayMac

/-- `set_gateway_mac`. -/
def setGatewayMac (mac : Vector UInt8 6) : Node :=
  let engine := node.station.host.engine
  { node with
    station :=
      { node.station with
        host := { node.station.host with engine := { engine with cfg := { engine.cfg with gatewayMac := mac } } } } }

/-- The zeroed buffer a frame is built in, handed to `tx_frame` if it was built. -/
def txFrame (build : List UInt8 → Option (List UInt8 × ℕ)) (accepted : Bool) :
    List (List UInt8) :=
  match build (List.replicate ARP_FRAME_LEN 0) with
  | none => []
  | some (buf, _) => if accepted then [buf] else []

/-- `handle_arp`. -/
def handleArp (payload : List UInt8) (accepted : Bool) : Node × List (List UInt8) :=
  match arpDecode payload with
  | .error _ => (node, [])
  | .ok pkt =>
      match classifyArp pkt node.localIp node.gatewayIp with
      | .none => (node, [])
      | .sendReply => (node, txFrame (buildArpReply node.ourMac node.localIp pkt) accepted)
      | .updateGatewayMac mac => (node.setGatewayMac mac, [])

/-- The segment of `send_rst_unmatched`; a reset is not answered. -/
def rstUnmatched (tuple : FourTuple) (incoming : ParsedSegment) : Option SegmentTx :=
  if incoming.flags.has TCP_RST then none
  else
    let synLen := (incoming.flags.has TCP_SYN).toNat
    let finLen := (incoming.flags.has TCP_FIN).toNat
    let ack := seqAdd (seqAdd (seqAdd incoming.seq incoming.payload.length) synLen) finLen
    let answersAck := incoming.flags.has TCP_ACK
    some
      { srcMac := node.ourMac
        dstMac := node.gatewayMac
        srcIp := tuple.localIp
        dstIp := tuple.peerIp
        srcPort := tuple.localPort
        dstPort := tuple.peerPort
        seq := if answersAck then incoming.ack else 0#32
        ack := if answersAck then 0#32 else ack
        flags := if answersAck then TCP_RST else TCP_RST ||| TCP_ACK
        window := 0
        options := {}
        payload := [] }

/-- `send_rst_unmatched`. -/
def sendRstUnmatched (tuple : FourTuple) (incoming : ParsedSegment) (accepted : Bool) :
    List (List UInt8) :=
  match node.rstUnmatched tuple incoming with
  | none => []
  | some seg =>
      match buildSegment seg 64 with
      | none => []
      | some frame =>
          if accepted then
            [txOffloadFinalize frame seg seg.payload.length
              node.station.host.engine.cfg.txCksumOffloadActive]
          else []

/-- `handle_ipv4`. -/
def handleIpv4 (frame : RxFrame) (env : InputEnv) (accepted : Bool) : Node × List (List UInt8) :=
  match node.station.handleIpv4 frame with
  | (.icmp, some ip) =>
      let inner := (frame.payload.take ip.totalLen).drop ip.headerLen
      ({ node with pmtu := (icmpInput inner node.pmtu).1 }, [])
  | (.unmatched tuple seg, _) => (node, node.sendRstUnmatched tuple seg accepted)
  | _ => ({ node with station := node.station.receive frame env }, [])

/-- `rx_frame`, for the bytes of a received chain. -/
def rxFrame (chain : RxChain) (olFlags : BitVec 64) (env : InputEnv) (accepted : Bool) :
    Node × List (List UInt8) :=
  let bytes := mbufDataSliceForRx chain
  match l2Decode bytes node.ourMac with
  | .error _ => (node, [])
  | .ok l2 =>
      let payload := bytes.drop l2.payloadOffset
      if l2.ethertype = ETHERTYPE_ARP then node.handleArp payload accepted
      else
        node.handleIpv4
          { payload := payload
            olFlags := olFlags
            mbuf := some chain.head
            nbSegs := chain.nbSegs
            ethPayloadOffset := l2.payloadOffset } env accepted

/-- `maybe_emit_gratuitous_arp`. The time is taken even if the driver refuses. -/
def maybeEmitGratuitousArp (nowNs : ℕ) (accepted : Bool) : Node × List (List UInt8) :=
  if node.garpIntervalSec = 0 ∨ node.localIp = 0#32 then (node, [])
  else
    let intervalNs := node.garpIntervalSec * 1000000000
    if nowNs - node.lastGarpNs < intervalNs then (node, [])
    else
      ({ node with lastGarpNs := nowNs },
        txFrame (buildGratuitousArp node.ourMac node.localIp) accepted)

/-- `maybe_probe_gateway_mac`. -/
def maybeProbeGatewayMac (nowNs : ℕ) (accepted : Bool) : Node × List (List UInt8) :=
  if node.gatewayIp = 0#32 ∨ node.localIp = 0#32 ∨ node.gatewayMac ≠ ZERO_MAC then (node, [])
  else if nowNs - node.lastGwArpReqNs < PROBE_INTERVAL_NS then (node, [])
  else
    ({ node with lastGwArpReqNs := nowNs },
      txFrame (buildArpRequest node.ourMac node.localIp node.gatewayIp) accepted)

end Node

/-- What a node does: it takes a frame from the device, ends a poll, or works for the application
and its timers. -/
inductive NodeOp where
  | frame (chain : RxChain) (olFlags : BitVec 64) (env : InputEnv) (accepted : Bool)
  | announce (nowNs : ℕ) (accepted : Bool)
  | probe (nowNs : ℕ) (accepted : Bool)
  | station (op : StationOp)

/-- One step of an engine on a network, with the frames of the neighbour code. -/
def Node.step (node : Node) : NodeOp → Node × List (List UInt8)
  | .frame chain olFlags env accepted => node.rxFrame chain olFlags env accepted
  | .announce nowNs accepted => node.maybeEmitGratuitousArp nowNs accepted
  | .probe nowNs accepted => node.maybeProbeGatewayMac nowNs accepted
  | .station op => ({ node with station := node.station.step op }, [])

end DpdkTcp
