import DpdkTcp.Model.Host
import DpdkTcp.Model.Output

/-!
# From a packet to a connection

The IPv4 decoder of `l3_ip.rs`, `parse_segment`, and the two ends that have to
agree on local addresses: the source address a connection is opened with and
the destination filter its frames come through.
-/

namespace DpdkTcp

/-- The protocol number of ICMP. -/
def IPPROTO_ICMP : UInt8 := 1

/-- What `ip_decode` reads from an IPv4 header. -/
structure L3Decoded where
  protocol : UInt8
  srcIp : BitVec 32
  dstIp : BitVec 32
  headerLen : ℕ
  totalLen : ℕ
  ttl : UInt8
deriving DecidableEq, Repr

/-- Why an IPv4 packet is dropped. -/
inductive L3Drop where
  | short
  | badVersion
  | badHeaderLen
  | badTotalLen
  | csumBad
  | ttlZero
  | fragment
  | notOurs
  | unsupportedProto
deriving DecidableEq, Repr

/-! ### IPv4 -/

/-- The header with its checksum field zeroed, as it is summed up. -/
def checksumScratch (header : List UInt8) : List UInt8 :=
  (header.set 10 0).set 11 0

/-- The flags and the fragment offset of an IPv4 header. -/
def flagsFrag (pkt : List UInt8) : BitVec 16 :=
  (beU16At pkt 6).toBitVec

/-- `ip_decode`: `ourIp` is zero where any destination is accepted. -/
def ipDecode (pkt : List UInt8) (ourIp : BitVec 32) (nicCsumOk : Bool) :
    Except L3Drop L3Decoded :=
  if pkt.length < 20 then .error .short
  else if (pkt.getD 0 0 >>> 4) ≠ 4 then .error .badVersion
  else
    let ihl := (pkt.getD 0 0 &&& 0x0f).toNat
    let headerLen := ihl * 4
    if ihl < 5 ∨ pkt.length < headerLen then .error .badHeaderLen
    else
      let totalLen := (beU16At pkt 2).toNat
      if totalLen < headerLen ∨ pkt.length < totalLen then .error .badTotalLen
      else if flagsFrag pkt &&& 0x2000#16 ≠ 0#16 ∨ flagsFrag pkt &&& 0x1fff#16 ≠ 0#16 then
        .error .fragment
      else if pkt.getD 8 0 = 0 then .error .ttlZero
      else if !nicCsumOk ∧ internetChecksum (checksumScratch (pkt.take headerLen)) ≠
          (beU16At pkt 10).toNat then
        .error .csumBad
      else
        let dstIp := beU32At pkt 16
        if ourIp ≠ 0#32 ∧ dstIp ≠ ourIp then .error .notOurs
        else if pkt.getD 9 0 ≠ IPPROTO_TCP ∧ pkt.getD 9 0 ≠ IPPROTO_ICMP then
          .error .unsupportedProto
        else
          .ok
            { protocol := pkt.getD 9 0
              srcIp := beU32At pkt 12
              dstIp := dstIp
              headerLen := headerLen
              totalLen := totalLen
              ttl := pkt.getD 8 0 }

/-- The device found a wrong IPv4 header checksum. -/
def RTE_MBUF_F_RX_IP_CKSUM_BAD : BitVec 64 := 1#64 <<< 4

/-- The device found a right IPv4 header checksum. -/
def RTE_MBUF_F_RX_IP_CKSUM_GOOD : BitVec 64 := 1#64 <<< 7

/-- The device found a wrong TCP checksum. -/
def RTE_MBUF_F_RX_L4_CKSUM_BAD : BitVec 64 := 1#64 <<< 3

/-- The device found a right TCP checksum. -/
def RTE_MBUF_F_RX_L4_CKSUM_GOOD : BitVec 64 := 1#64 <<< 8

/-- What the device says of a checksum. -/
inductive CksumOutcome where
  | unknown
  | bad
  | good
  | none
deriving DecidableEq, Repr

/-- The classification of the two checksum bits of a layer in `ol_flags`. -/
def classifyRxCksum (good bad olFlags : BitVec 64) : CksumOutcome :=
  let bits := olFlags &&& (bad ||| good)
  if bits = good then .good
  else if bits = bad then .bad
  else if bits = bad ||| good then .none
  else .unknown

/-- What the device says of the IPv4 header checksum. -/
def classifyIpRxCksum : BitVec 64 → CksumOutcome :=
  classifyRxCksum RTE_MBUF_F_RX_IP_CKSUM_GOOD RTE_MBUF_F_RX_IP_CKSUM_BAD

/-- What the device says of the TCP checksum. -/
def classifyL4RxCksum : BitVec 64 → CksumOutcome :=
  classifyRxCksum RTE_MBUF_F_RX_L4_CKSUM_GOOD RTE_MBUF_F_RX_L4_CKSUM_BAD

/-- `ip_decode_offload_aware`. A build without receive checksum offload behaves
as one in which the offload is not active. -/
def ipDecodeOffloadAware (pkt : List UInt8) (ourIp : BitVec 32) (olFlags : BitVec 64)
    (rxCksumOffloadActive : Bool) : Except L3Drop L3Decoded :=
  if !rxCksumOffloadActive then ipDecode pkt ourIp false
  else
    match classifyIpRxCksum olFlags with
    | .good => ipDecode pkt ourIp true
    | .bad => .error .csumBad
    | .none | .unknown => ipDecode pkt ourIp false

/-! ### TCP -/

/-- Why `parse_segment` refuses a segment. -/
inductive TcpParseError where
  | short
  | badDataOffset
  | badFlags
  | csum
deriving DecidableEq, Repr

/-- The checksum of a segment, its checksum field read as zero. -/
def tcpChecksum (tcpBytes : List UInt8) (srcIp dstIp : BitVec 32) : ℕ :=
  internetChecksum
    (be32 srcIp ++ be32 dstIp ++ [0, IPPROTO_TCP] ++ be16 (asU16 tcpBytes.length) ++
      tcpBytes.take 16 ++ [0, 0] ++ tcpBytes.drop 18)

/-- `parse_segment`. -/
def parseSegment (tcpBytes : List UInt8) (srcIp dstIp : BitVec 32) (nicCsumOk : Bool) :
    Except TcpParseError ParsedSegment :=
  if tcpBytes.length < 20 then .error .short
  else
    let dataOffWords := (tcpBytes.getD 12 0 >>> 4).toNat
    let headerLen := dataOffWords * 4
    if dataOffWords < 5 then .error .badDataOffset
    else if tcpBytes.length < headerLen then .error .badDataOffset
    else
      let flags : Flags := (tcpBytes.getD 13 0).toBitVec
      if flags.has TCP_SYN ∧ flags.has TCP_FIN then .error .badFlags
      else if flags.has TCP_RST ∧ flags.has TCP_SYN then .error .badFlags
      else if !nicCsumOk ∧ tcpChecksum tcpBytes srcIp dstIp ≠ (beU16At tcpBytes 16).toNat then
        .error .csum
      else
        .ok
          { srcPort := beU16At tcpBytes 0
            dstPort := beU16At tcpBytes 2
            seq := beU32At tcpBytes 4
            ack := beU32At tcpBytes 8
            flags := flags
            window := beU16At tcpBytes 14
            headerLen := headerLen
            payload := tcpBytes.drop headerLen
            options := (tcpBytes.take headerLen).drop 20 }

/-- `tuple_from_segment`: our side of the segment is its destination. -/
def tupleFromSegment (srcIp dstIp : BitVec 32) (seg : ParsedSegment) : FourTuple :=
  { localIp := dstIp, localPort := seg.dstPort, peerIp := srcIp, peerPort := seg.srcPort }

/-! ### The engine on the network -/

/-- What becomes of an IPv4 packet. -/
inductive Routed where
  | dropped (reason : L3Drop)
  | icmp
  | badL4Csum
  | unparsed (reason : TcpParseError)
  | unmatched (tuple : FourTuple) (seg : ParsedSegment)
  | matched (handle : ConnHandle) (seg : ParsedSegment)
deriving DecidableEq, Repr

/-- A received frame behind its Ethernet header, and the buffers it arrived in. -/
structure RxFrame where
  payload : List UInt8
  olFlags : BitVec 64
  mbuf : Option RxMbuf
  nbSegs : ℕ
  ethPayloadOffset : ℕ
deriving DecidableEq, Repr

/-- The engine with the local addresses and the offloads it was brought up with. -/
structure Station where
  host : Host
  secondaryLocalIps : List (BitVec 32)
  rxCksumOffloadActive : Bool
  lastEphemeralPort : UInt16

/-- `select_source_ip`; an address that is not registered is refused. -/
def selectSourceIp (requested localIp : BitVec 32) (secondaries : List (BitVec 32)) :
    Option (BitVec 32) :=
  if requested = 0#32 then some localIp
  else if requested = localIp ∨ requested ∈ secondaries then some requested
  else none

namespace Station

/-- An engine with its interface, without connections. -/
def start (cfg : EngineConfig) (maxConnections eventSoftCap : ℕ)
    (secondaryLocalIps : List (BitVec 32)) (rxCksumOffloadActive : Bool)
    (lastEphemeralPort : UInt16) : Station :=
  { host := Host.start cfg maxConnections eventSoftCap
    secondaryLocalIps := secondaryLocalIps
    rxCksumOffloadActive := rxCksumOffloadActive
    lastEphemeralPort := lastEphemeralPort }

/-- The primary address of the interface. -/
def ourIp (station : Station) : BitVec 32 :=
  station.host.engine.cfg.localIp

/-- `add_local_ip`, and whether the address was new. -/
def addLocalIp (station : Station) (ip : BitVec 32) : Station × Bool :=
  if ip = 0#32 ∨ ip = station.ourIp then (station, false)
  else if ip ∈ station.secondaryLocalIps then (station, false)
  else ({ station with secondaryLocalIps := station.secondaryLocalIps ++ [ip] }, true)

/-- The error number for an invalid argument. -/
def EINVAL : Int := 22

/-- `u32::from_be` on a little-endian machine. -/
def fromBe (value : BitVec 32) : BitVec 32 :=
  (value.extractLsb' 0 8 ++ value.extractLsb' 8 8) ++
    (value.extractLsb' 16 8 ++ value.extractLsb' 24 8)

/-- `dpdk_net_engine_add_local_ip`. -/
def dpdkNetEngineAddLocalIp (station : Station) (localAddrNbo : BitVec 32) : Station × Int :=
  let ip := fromBe localAddrNbo
  if ip = 0#32 then (station, -EINVAL)
  else if ip = station.ourIp then (station, -EINVAL)
  else ((station.addLocalIp ip).1, 0)

/-- `next_ephemeral_port`. -/
def nextEphemeralPort (station : Station) : UInt16 :=
  if station.lastEphemeralPort + 1 < 49152 then 49152 else station.lastEphemeralPort + 1

/-- `connect_with_opts`, up to the choice of the tuple; the initial sequence
number and the MSS come from outside. -/
def connectWithOpts (station : Station) (peerIp : BitVec 32) (peerPort localPortHint : UInt16)
    (localAddr : BitVec 32) (iss : Seq) (ourMss : UInt16) (opts : ConnectOpts) (synSent : Bool)
    (nowNs : ℕ) : Station :=
  if station.host.engine.cfg.localIp = 0#32 then station
  else if station.host.engine.cfg.gatewayMac = Vector.replicate 6 0 then station
  else
    match selectSourceIp localAddr station.host.engine.cfg.localIp station.secondaryLocalIps with
    | none => station
    | some selectedLocalIp =>
        let hinted := localPortHint ≠ 0
        let localPort := if hinted then localPortHint else station.nextEphemeralPort
        let tuple := ⟨selectedLocalIp, localPort, peerIp, peerPort⟩
        { station with
          host := station.host.step (.connect tuple iss ourMss opts synSent nowNs)
          lastEphemeralPort :=
            if hinted then station.lastEphemeralPort else station.nextEphemeralPort }

/-- The head of `tcp_input`: which connection a decoded packet is for. -/
def routeTcp (station : Station) (ip : L3Decoded) (tcpBytes : List UInt8) (olFlags : BitVec 64) :
    Routed :=
  let l4Cksum := if station.rxCksumOffloadActive then classifyL4RxCksum olFlags else .unknown
  if l4Cksum = .bad then .badL4Csum
  else
    match parseSegment tcpBytes ip.srcIp ip.dstIp (decide (l4Cksum = .good)) with
    | .error reason => .unparsed reason
    | .ok seg =>
        let tuple := tupleFromSegment ip.srcIp ip.dstIp seg
        match station.host.engine.flowTable.lookupByTuple tuple with
        | none => .unmatched tuple seg
        | some handle => .matched handle seg

/-- The decision of `handle_ipv4`, with the decoded header. -/
def handleIpv4 (station : Station) (frame : RxFrame) : Routed × Option L3Decoded :=
  match ipDecodeOffloadAware frame.payload station.host.engine.cfg.localIp frame.olFlags
      station.rxCksumOffloadActive with
  | .error reason => (.dropped reason, none)
  | .ok ip =>
      if ip.protocol = IPPROTO_TCP then
        (station.routeTcp ip ((frame.payload.take ip.totalLen).drop ip.headerLen) frame.olFlags,
          some ip)
      else (.icmp, some ip)

/-- The context of a zero-copy insertion: only for data in a frame of one buffer. -/
def mbufCtx (frame : RxFrame) (ip : L3Decoded) (seg : ParsedSegment) : Option MbufInsertCtx :=
  frame.mbuf.bind fun mbuf =>
    if !seg.payload.isEmpty && frame.nbSegs = 1 then
      some
        { mbuf := mbuf
          payloadOffset := min (min (frame.ethPayloadOffset + asU16 ip.headerLen) 65535 +
            asU16 seg.headerLen) 65535
          next := [] }
    else none

/-- An IPv4 packet goes through the decoder to its connection. Answers to
packets of no connection leave the engine as it is. -/
def receive (station : Station) (frame : RxFrame) (env : InputEnv) : Station :=
  match station.handleIpv4 frame with
  | (.matched handle seg, some ip) =>
      { station with host := station.host.step (.segment handle seg (mbufCtx frame ip seg) env) }
  | _ => station

end Station

/-- What happens to an engine with its interface. -/
inductive StationOp where
  | connect (peerIp : BitVec 32) (peerPort localPortHint : UInt16) (localAddr : BitVec 32)
      (iss : Seq) (ourMss : UInt16) (opts : ConnectOpts) (synSent : Bool) (nowNs : ℕ)
  | addLocalIp (localAddrNbo : BitVec 32)
  | frame (frame : RxFrame) (env : InputEnv)
  | system (op : SystemOp)

/-- One step of an engine with its interface. -/
def Station.step (station : Station) : StationOp → Station
  | .connect peerIp peerPort localPortHint localAddr iss ourMss opts synSent nowNs =>
      station.connectWithOpts peerIp peerPort localPortHint localAddr iss ourMss opts synSent nowNs
  | .addLocalIp localAddrNbo => (station.dpdkNetEngineAddLocalIp localAddrNbo).1
  | .frame frame env => station.receive frame env
  | .system op => { station with host := station.host.systemStep op }

end DpdkTcp
