import DpdkTcp.Route.Tuples
import DpdkTcp.Window.Unread

/-!
# Frames of live connections

A well-formed frame for a live connection passes the decoder and reaches the
connection through the tuple index, unless the connection was opened from a
secondary local address: the destination filter of the decoder knows the
primary address only.
-/

namespace DpdkTcp

/-- The header length field of an IPv4 packet, in bytes. -/
def ipHeaderLen (pkt : List UInt8) : ℕ :=
  (pkt.getD 0 0 &&& 0x0f).toNat * 4

/-- The total length field of a packet. -/
def ipTotalLen (pkt : List UInt8) : ℕ :=
  (beU16At pkt 2).toNat

/-- The TCP segment of an IPv4 packet. -/
def ipPayload (pkt : List UInt8) : List UInt8 :=
  (pkt.take (ipTotalLen pkt)).drop (ipHeaderLen pkt)

/-- The data offset field of a TCP segment, in bytes. -/
def tcpHeaderLen (tcpBytes : List UInt8) : ℕ :=
  (tcpBytes.getD 12 0 >>> 4).toNat * 4

/-- A well-formed IPv4 header of an unfragmented packet from `srcIp` to `dstIp`. -/
@[mk_iff]
structure Ipv4WellFormed (pkt : List UInt8) (srcIp dstIp : BitVec 32) : Prop where
  version : pkt.getD 0 0 >>> 4 = 4
  headerLen : 20 ≤ ipHeaderLen pkt
  totalLen : ipHeaderLen pkt ≤ ipTotalLen pkt
  complete : ipTotalLen pkt ≤ pkt.length
  unfragmented : flagsFrag pkt &&& 0x3fff#16 = 0#16
  ttl : pkt.getD 8 0 ≠ 0
  protocol : pkt.getD 9 0 = IPPROTO_TCP
  checksum : internetChecksum (checksumScratch (pkt.take (ipHeaderLen pkt))) =
    (beU16At pkt 10).toNat
  srcIp : beU32At pkt 12 = srcIp
  dstIp : beU32At pkt 16 = dstIp

/-- A well-formed TCP segment between two ports. -/
@[mk_iff]
structure TcpWellFormed (tcpBytes : List UInt8) (srcIp dstIp : BitVec 32)
    (srcPort dstPort : UInt16) : Prop where
  headerLen : 20 ≤ tcpHeaderLen tcpBytes
  complete : tcpHeaderLen tcpBytes ≤ tcpBytes.length
  flags : Flags.has (tcpBytes.getD 13 0).toBitVec TCP_SYN = true →
    Flags.has (tcpBytes.getD 13 0).toBitVec TCP_FIN = false ∧
      Flags.has (tcpBytes.getD 13 0).toBitVec TCP_RST = false
  checksum : tcpChecksum tcpBytes srcIp dstIp = (beU16At tcpBytes 16).toNat
  srcPort : beU16At tcpBytes 0 = srcPort
  dstPort : beU16At tcpBytes 2 = dstPort

/-- A well-formed frame of the peer of a connection. The device finds no fault in it. -/
@[mk_iff]
structure RxFrame.Addressed (frame : RxFrame) (tuple : FourTuple) : Prop where
  ip : Ipv4WellFormed frame.payload tuple.peerIp tuple.localIp
  tcp : TcpWellFormed (ipPayload frame.payload) tuple.peerIp tuple.localIp tuple.peerPort
    tuple.localPort
  ipUnfaulted : classifyIpRxCksum frame.olFlags ≠ .bad
  l4Unfaulted : classifyL4RxCksum frame.olFlags ≠ .bad

/-- Whether a packet is well formed can be computed. -/
instance (pkt : List UInt8) (srcIp dstIp : BitVec 32) : Decidable (Ipv4WellFormed pkt srcIp dstIp) :=
  decidable_of_iff' _ (ipv4WellFormed_iff pkt srcIp dstIp)

/-- Whether a segment is well formed can be computed. -/
instance (tcpBytes : List UInt8) (srcIp dstIp : BitVec 32) (srcPort dstPort : UInt16) :
    Decidable (TcpWellFormed tcpBytes srcIp dstIp srcPort dstPort) :=
  decidable_of_iff' _ (tcpWellFormed_iff tcpBytes srcIp dstIp srcPort dstPort)

/-- Whether a frame is addressed to a connection can be computed. -/
instance (frame : RxFrame) (tuple : FourTuple) : Decidable (frame.Addressed tuple) :=
  decidable_of_iff' _ (RxFrame.addressed_iff frame tuple)

/-! ### The decoders -/

section Decode

variable {pkt : List UInt8} {srcIp dstIp : BitVec 32} {srcPort dstPort : UInt16}

theorem flagsFrag_unfragmented (unfragmented : flagsFrag pkt &&& 0x3fff#16 = 0#16) :
    flagsFrag pkt &&& 0x2000#16 = 0#16 ∧ flagsFrag pkt &&& 0x1fff#16 = 0#16 := by
  constructor
  · calc flagsFrag pkt &&& 0x2000#16
        = (flagsFrag pkt &&& 0x3fff#16) &&& 0x2000#16 := by rw [BitVec.and_assoc]; rfl
      _ = 0#16 := by rw [unfragmented]; rfl
  · calc flagsFrag pkt &&& 0x1fff#16
        = (flagsFrag pkt &&& 0x3fff#16) &&& 0x1fff#16 := by rw [BitVec.and_assoc]; rfl
      _ = 0#16 := by rw [unfragmented]; rfl

/-- A well-formed header is refused for its destination or not at all. -/
theorem Ipv4WellFormed.ipDecode (formed : Ipv4WellFormed pkt srcIp dstIp) (ourIp : BitVec 32)
    (nicCsumOk : Bool) :
    ipDecode pkt ourIp nicCsumOk =
      if ourIp ≠ 0#32 ∧ dstIp ≠ ourIp then .error .notOurs
      else .ok
        { protocol := IPPROTO_TCP
          srcIp := srcIp
          dstIp := dstIp
          headerLen := ipHeaderLen pkt
          totalLen := ipTotalLen pkt
          ttl := pkt.getD 8 0 } := by
  have headerLen := formed.headerLen
  have totalLen := formed.totalLen
  have complete := formed.complete
  have whole := flagsFrag_unfragmented formed.unfragmented
  have checksum := formed.checksum
  unfold ipHeaderLen at headerLen totalLen checksum
  unfold ipTotalLen at totalLen complete
  unfold DpdkTcp.ipDecode ipHeaderLen ipTotalLen
  rw [if_neg (by omega), if_neg (not_not.mpr formed.version)]
  dsimp only
  rw [if_neg (by omega), if_neg (by omega), if_neg (by simp [whole]), if_neg formed.ttl,
    if_neg (fun failed => failed.2 checksum), formed.srcIp, formed.dstIp, formed.protocol]
  split
  · rfl
  · rw [if_neg (fun other => other.1 rfl)]

theorem Ipv4WellFormed.ipDecodeOffloadAware (formed : Ipv4WellFormed pkt srcIp dstIp)
    {olFlags : BitVec 64} (unfaulted : classifyIpRxCksum olFlags ≠ .bad) (ourIp : BitVec 32)
    (active : Bool) :
    ipDecodeOffloadAware pkt ourIp olFlags active = DpdkTcp.ipDecode pkt ourIp false := by
  unfold DpdkTcp.ipDecodeOffloadAware
  split
  · rfl
  · split
    · rw [formed.ipDecode, formed.ipDecode]
    · exact absurd ‹_› unfaulted
    · rfl
    · rfl

theorem TcpWellFormed.parseSegment {tcpBytes : List UInt8}
    (formed : TcpWellFormed tcpBytes srcIp dstIp srcPort dstPort) (nicCsumOk : Bool) :
    ∃ seg, parseSegment tcpBytes srcIp dstIp nicCsumOk = .ok seg ∧ seg.srcPort = srcPort ∧
      seg.dstPort = dstPort := by
  have headerLen := formed.headerLen
  have complete := formed.complete
  have flags := formed.flags
  unfold tcpHeaderLen at headerLen complete
  unfold DpdkTcp.parseSegment
  rw [if_neg (by omega)]
  dsimp only
  rw [if_neg (by omega), if_neg (by omega), if_neg, if_neg,
    if_neg (fun failed => failed.2 formed.checksum)]
  · exact ⟨_, rfl, formed.srcPort, formed.dstPort⟩
  · rintro ⟨reset, syn⟩
    rw [(flags syn).2] at reset
    cases reset
  · rintro ⟨syn, fin⟩
    rw [(flags syn).1] at fin
    cases fin

end Decode

/-! ### The route -/

namespace Station

variable {station : Station} {frame : RxFrame} {handle : ConnHandle} {conn : TcpConn}

/-- A segment that parses is routed by its tuple. -/
theorem routeTcp_addressed {tuple : FourTuple} (addressed : frame.Addressed tuple)
    (found : station.host.engine.flowTable.lookupByTuple tuple = some handle) {ip : L3Decoded}
    (srcIp : ip.srcIp = tuple.peerIp) (dstIp : ip.dstIp = tuple.localIp) :
    ∃ seg, station.routeTcp ip (ipPayload frame.payload) frame.olFlags = .matched handle seg := by
  unfold routeTcp
  dsimp only
  rw [if_neg, srcIp, dstIp]
  · rcases addressed.tcp.parseSegment _ with ⟨seg, parsed, srcPort, dstPort⟩
    rw [parsed]
    refine ⟨seg, ?_⟩
    have same : tupleFromSegment tuple.peerIp tuple.localIp seg = tuple := by
      rw [tupleFromSegment, srcPort, dstPort]
    dsimp only
    rw [same, found]
  · intro faulted
    split at faulted
    · exact addressed.l4Unfaulted faulted
    · cases faulted

/-- A frame for a connection is routed to it, or dropped for its destination. -/
theorem handleIpv4_addressed (indexed : station.host.engine.flowTable.Indexed)
    (present : station.host.engine.flowTable.get handle = some conn)
    (addressed : frame.Addressed conn.fourTuple) :
    if station.ourIp ≠ 0#32 ∧ conn.fourTuple.localIp ≠ station.ourIp then
      (station.handleIpv4 frame).1 = .dropped .notOurs
    else ∃ seg, (station.handleIpv4 frame).1 = .matched handle seg := by
  have decoded := addressed.ip.ipDecode station.ourIp false
  unfold handleIpv4
  rw [addressed.ip.ipDecodeOffloadAware addressed.ipUnfaulted, ← ourIp, decoded]
  split
  · rfl
  · dsimp only
    rw [if_pos rfl]
    exact routeTcp_addressed addressed (indexed.find present) rfl rfl

theorem ipDecodeOffloadAware_totalLen {pkt : List UInt8} {ourIp : BitVec 32} {olFlags : BitVec 64}
    {active : Bool} {ip : L3Decoded}
    (decoded : ipDecodeOffloadAware pkt ourIp olFlags active = .ok ip) : ip.totalLen < 65536 := by
  have plain : ∀ nicCsumOk, ipDecode pkt ourIp nicCsumOk = .ok ip → ip.totalLen < 65536 := by
    intro nicCsumOk decoded
    unfold ipDecode at decoded
    dsimp only at decoded
    repeat' split at decoded
    all_goals cases decoded
    exact (beU16At pkt 2).toNat_lt
  unfold ipDecodeOffloadAware at decoded
  split at decoded
  · exact plain false decoded
  · split at decoded
    · exact plain true decoded
    · cases decoded
    · exact plain false decoded
    · exact plain false decoded

/-- A routed segment was parsed, and its tuple found. -/
theorem routeTcp_matched {ip : L3Decoded} {tcpBytes : List UInt8} {olFlags : BitVec 64}
    {seg : ParsedSegment} (matched : station.routeTcp ip tcpBytes olFlags = .matched handle seg) :
    (∃ nicCsumOk, parseSegment tcpBytes ip.srcIp ip.dstIp nicCsumOk = .ok seg) ∧
      station.host.engine.flowTable.lookupByTuple (tupleFromSegment ip.srcIp ip.dstIp seg) =
        some handle := by
  unfold routeTcp at matched
  dsimp only at matched
  generalize (if station.rxCksumOffloadActive then classifyL4RxCksum olFlags else .unknown) =
    l4Cksum at matched
  split at matched
  · cases matched
  · split at matched
    · cases matched
    · rename_i parsed
      split at matched
      · cases matched
      · rename_i found
        cases matched
        exact ⟨⟨_, parsed⟩, found⟩

/-- A packet is routed to a connection with its tuple only. -/
theorem handleIpv4_matched (indexed : station.host.engine.flowTable.Indexed) {seg : ParsedSegment}
    {decoded : Option L3Decoded}
    (routed : station.handleIpv4 frame = (.matched handle seg, decoded)) :
    ∃ ip conn, decoded = some ip ∧ station.host.engine.flowTable.get handle = some conn ∧
      conn.fourTuple = tupleFromSegment ip.srcIp ip.dstIp seg := by
  unfold handleIpv4 at routed
  split at routed
  · cases routed
  · rename_i ip _
    split at routed
    · rcases Prod.mk.inj routed with ⟨matched, rfl⟩
      rcases (indexed _ _).mp (routeTcp_matched matched).2 with ⟨conn, present, same⟩
      exact ⟨ip, conn, rfl, present, same⟩
    · cases routed

theorem parseSegment_payload {tcpBytes : List UInt8} {srcIp dstIp : BitVec 32} {nicCsumOk : Bool}
    {seg : ParsedSegment} (parsed : parseSegment tcpBytes srcIp dstIp nicCsumOk = .ok seg) :
    seg.payload.length ≤ tcpBytes.length := by
  unfold parseSegment at parsed
  dsimp only at parsed
  repeat' split at parsed
  all_goals cases parsed
  rw [List.length_drop]
  exact Nat.sub_le _ _

/-- What is handed to a connection is as short as an IPv4 packet, and comes from one buffer. -/
theorem handleIpv4_framed {seg : ParsedSegment} {ip : L3Decoded}
    (routed : station.handleIpv4 frame = (.matched handle seg, some ip)) (env : InputEnv) :
    SystemOp.framed (.call (.segment handle seg (mbufCtx frame ip seg) env)) = true := by
  have short : seg.payload.length < 65536 := by
    unfold handleIpv4 at routed
    split at routed
    · cases routed
    · rename_i decodedIp decoded
      split at routed
      · rcases Prod.mk.inj routed with ⟨matched, ⟨⟩⟩
        rcases (routeTcp_matched matched).1 with ⟨nicCsumOk, parsed⟩
        have payload := parseSegment_payload parsed
        have total := ipDecodeOffloadAware_totalLen decoded
        rw [List.length_drop, List.length_take] at payload
        omega
      · cases routed
  rw [SystemOp.framed, Bool.and_eq_true_iff, decide_eq_true_iff]
  refine ⟨short, ?_⟩
  unfold mbufCtx
  cases frame.mbuf with
  | none => rfl
  | some mbuf =>
      dsimp only [Option.bind_some]
      split <;> rfl

end Station

/-! ### Runs -/

namespace Host

/-- Without a local address nothing is opened. -/
theorem systemStep_unaddressed {host : Host} (zero : host.engine.cfg.localIp = 0#32)
    (empty : ∀ handle, host.engine.flowTable.get handle = none) (op : SystemOp)
    (handle : ConnHandle) : (host.systemStep op).engine.flowTable.get handle = none := by
  cases live : (host.systemStep op).engine.flowTable.get handle with
  | none => rfl
  | some conn =>
      cases op with
      | call op =>
          have born := host.step_conns op live
          rw [empty handle] at born
          cases born with
          | opening opening =>
              dsimp only [systemStep, step, Engine.connectWithOpts] at live
              rw [if_pos zero, empty handle] at live
              cases live
      | complete index =>
          rw [systemStep, completeFrame_flowTable, empty handle] at live
          cases live
      | drainEvents max =>
          rw [← empty handle, ← live]
          rfl
      | drop =>
          rw [systemStep, drop_get] at live
          cases live

end Host

namespace Station

/-- What every station keeps: the index, and an address if it has connections. -/
structure Routes (station : Station) : Prop where
  indexed : station.host.engine.flowTable.Indexed
  addressed : station.ourIp = 0#32 → ∀ handle, station.host.engine.flowTable.get handle = none

theorem Routes.step {station : Station} (routes : station.Routes) (op : StationOp) :
    (station.step op).Routes := by
  refine ⟨step_indexed routes.indexed op, ?_⟩
  intro zero
  unfold ourIp at zero
  rcases station.step_host op with same | ⟨call, same⟩ <;> rw [same] at zero ⊢
  · exact routes.addressed zero
  · rw [Host.systemStep_cfg] at zero
    exact Host.systemStep_unaddressed zero (routes.addressed zero) call

theorem Routes.ourIp_ne_zero {station : Station} (routes : station.Routes) {handle : ConnHandle}
    {conn : TcpConn} (present : station.host.engine.flowTable.get handle = some conn) :
    station.ourIp ≠ 0#32 := by
  intro zero
  rw [routes.addressed zero handle] at present
  cases present

end Station

/-- In every run of the engine and its local addresses, a well-formed frame of the
peer of a connection is routed to the connection exactly if the connection was
opened from the primary address, and no packet is routed to a connection with
another tuple. -/
theorem frames_reach_connections {cfg : EngineConfig} {maxConnections eventSoftCap : ℕ}
    {secondaryLocalIps : List (BitVec 32)} {rxCksumOffloadActive : Bool}
    {lastEphemeralPort : UInt16} {station : Station}
    (run : Run.Reaches Station.step (fun _ _ => True)
      (Station.start cfg maxConnections eventSoftCap secondaryLocalIps rxCksumOffloadActive
        lastEphemeralPort) station) :
    (∀ handle conn, station.host.engine.flowTable.get handle = some conn →
        ∀ frame : RxFrame, frame.Addressed conn.fourTuple →
          ((∃ seg, (station.handleIpv4 frame).1 = .matched handle seg) ↔
            conn.fourTuple.localIp = station.ourIp)) ∧
      ∀ frame handle seg decoded, station.handleIpv4 frame = (.matched handle seg, decoded) →
        ∃ ip conn, decoded = some ip ∧ station.host.engine.flowTable.get handle = some conn ∧
          conn.fourTuple = tupleFromSegment ip.srcIp ip.dstIp seg := by
  have routes : station.Routes := by
    apply run.invariant
    · exact ⟨Station.indexed_start cfg maxConnections eventSoftCap secondaryLocalIps
        rxCksumOffloadActive lastEphemeralPort,
        fun _ => Host.get_start cfg maxConnections eventSoftCap⟩
    · exact fun station op before _ => before.step op
  refine ⟨?_, fun frame handle seg decoded => Station.handleIpv4_matched routes.indexed⟩
  intro handle conn present frame addressed
  have routed := Station.handleIpv4_addressed routes.indexed present addressed
  have addressable := routes.ourIp_ne_zero present
  constructor
  · rintro ⟨seg, matched⟩
    by_contra secondary
    rw [if_pos ⟨addressable, secondary⟩, matched] at routed
    cases routed
  · intro primary
    rw [if_neg fun secondary => secondary.2 primary] at routed
    exact routed

/-- An engine with the primary address 10.0.0.2 and the secondary address 10.0.0.3
that has opened a connection from a local address. -/
def connectedFrom (localAddr : BitVec 32) : Station :=
  [.addLocalIp 0x0300000a#32,
    .connect 0x0a000001#32 5000 40000 localAddr 100#32 1460 ⟨false, false, 0, 0, false, 0, false⟩
      true 1000].foldl Station.step (Station.start quickCfg 1 64 [] false 0)

theorem connectedFrom_reached (localAddr : BitVec 32) :
    Run.Reaches Station.step (fun _ _ => True) (Station.start quickCfg 1 64 [] false 0)
      (connectedFrom localAddr) := by
  unfold connectedFrom
  rw [List.foldl_cons, List.foldl_cons, List.foldl_nil]
  exact .tail _ (.tail _ .refl trivial) trivial

/-- The answer of the peer to our SYN, as its own builder makes it. -/
def synAckTo (localIp : BitVec 32) : RxFrame :=
  { payload :=
      ((buildSegment
        { srcMac := Vector.replicate 6 2
          dstMac := Vector.replicate 6 1
          srcIp := 0x0a000001#32
          dstIp := localIp
          srcPort := 5000
          dstPort := 40000
          seq := 200#32
          ack := 101#32
          flags := TCP_SYN ||| TCP_ACK
          window := 5000
          options := {}
          payload := [] } 54).getD []).drop ETH_HDR_LEN
    olFlags := 0#64
    mbuf := none
    nbSegs := 1
    ethPayloadOffset := 14 }

theorem frames_reach_connections_primary :
    ∃ seg, ((connectedFrom 0#32).handleIpv4 (synAckTo 0x0a000002#32)).1 = .matched 1 seg := by
  have opened : ((connectedFrom 0#32).host.engine.flowTable.get 1).any (fun conn =>
      decide (conn.fourTuple = ⟨0x0a000002#32, 40000, 0x0a000001#32, 5000⟩)) = true := by
    decide +kernel
  rcases (Option.any_eq_true _ _).mp opened with ⟨conn, present, tuple⟩
  have tuple := of_decide_eq_true tuple
  refine ((frames_reach_connections (connectedFrom_reached 0#32)).1 1 conn present
    (synAckTo 0x0a000002#32) ?_).mpr ?_
  · rw [tuple]
    decide +kernel
  · rw [tuple]
    decide +kernel

/-- The answer to a SYN from a registered secondary address is dropped. -/
theorem frames_miss_connections :
    ¬ ∀ station, Run.Reaches Station.step (fun _ _ => True)
        (Station.start quickCfg 1 64 [] false 0) station →
      ∀ handle conn, station.host.engine.flowTable.get handle = some conn →
        ∀ frame : RxFrame, frame.Addressed conn.fourTuple →
          ∃ seg, (station.handleIpv4 frame).1 = .matched handle seg := by
  intro reach
  have opened : ((connectedFrom 0x0a000003#32).host.engine.flowTable.get 1).any (fun conn =>
      decide (conn.fourTuple = ⟨0x0a000003#32, 40000, 0x0a000001#32, 5000⟩)) = true := by
    decide +kernel
  rcases (Option.any_eq_true _ _).mp opened with ⟨conn, present, tuple⟩
  have tuple := of_decide_eq_true tuple
  have dropped : ((connectedFrom 0x0a000003#32).handleIpv4 (synAckTo 0x0a000003#32)).1 =
      .dropped .notOurs := by
    decide +kernel
  rcases reach _ (connectedFrom_reached 0x0a000003#32) 1 conn present
    (synAckTo 0x0a000003#32) (by rw [tuple]; decide +kernel) with ⟨seg, matched⟩
  rw [dropped] at matched
  cases matched

end DpdkTcp
