import DpdkTcp.Wire.Offload
import DpdkTcp.Input.Reject
import DpdkTcp.Handshake.Stray
import DpdkTcp.Neighbour.Packets

/-!
# Refusals

A segment of no connection is answered with a reset, unless it is one itself. The answer
reads as a segment of the mirrored tuple at its peer, where it ends a connection that waits
for an answer to this SYN. Answers are never answered: two nodes cannot keep each other busy.
-/

namespace DpdkTcp

/-! ### The frame of a reset -/

namespace Node

variable {node : Node} {tuple : FourTuple} {incoming : ParsedSegment} {seg : SegmentTx}

/-- What all resets have in common. -/
structure IsReset (seg : SegmentTx) : Prop where
  payload : seg.payload = []
  options : seg.options = {}
  reset : seg.flags.has TCP_RST = true
  notSyn : seg.flags.has TCP_SYN = false
  window : seg.window = 0

theorem rstUnmatched_isReset (answer : node.rstUnmatched tuple incoming = some seg) :
    IsReset seg := by
  unfold rstUnmatched at answer
  split at answer
  · cases answer
  · cases answer
    refine ⟨rfl, rfl, ?_, ?_, rfl⟩ <;> dsimp only <;> split <;> decide

theorem IsReset.tcpHdrLen (reset : IsReset seg) : seg.tcpHdrLen = TCP_HDR_MIN := by
  rw [SegmentTx.tcpHdrLen, reset.options]
  rfl

theorem IsReset.totalIpLen (reset : IsReset seg) : seg.totalIpLen seg.payload.length = 40 := by
  rw [SegmentTx.totalIpLen, reset.tcpHdrLen, reset.payload]
  rfl

theorem IsReset.sendable (reset : IsReset seg) : seg.Sendable where
  canonical := by
    rw [reset.options]
    refine ⟨fun _ => nofun, by decide, fun index slot _ => ?_⟩
    exact Vector.getElem_replicate slot
  unclamped := by rw [reset.options]
  optionsFit := by
    rw [reset.options]
    decide
  noSynFin := fun both => by
    rw [reset.notSyn] at both
    cases both.1
  noRstSyn := fun both => by
    rw [reset.notSyn] at both
    cases both.2
  window := by
    rw [reset.window]
    decide
  fits := by
    rw [reset.totalIpLen]
    decide

/-- What is handed to the driver: the segment under some checksums, those computed in software
unless the device computes them. -/
theorem rst_frame {accepted : Bool} {frame : List UInt8}
    (sent : frame ∈ node.sendRstUnmatched tuple incoming accepted) :
    ∃ seg ipField tcpField, node.rstUnmatched tuple incoming = some seg ∧
      frame = seg.frameWith 40 ipField tcpField [] ∧
      (node.station.host.engine.cfg.txCksumOffloadActive = false →
        ipField = seg.ipCsum seg.payload.length ∧ tcpField = seg.tcpCsum seg.payload) := by
  unfold sendRstUnmatched at sent
  cases answer : node.rstUnmatched tuple incoming with
  | none =>
      rw [answer] at sent
      cases sent
  | some seg =>
      have reset := rstUnmatched_isReset answer
      rw [answer] at sent
      dsimp only at sent
      rw [buildSegment_eq, if_neg, if_neg, reset.totalIpLen, reset.payload] at sent
      · dsimp only at sent
        split at sent
        · rw [List.mem_singleton] at sent
          subst sent
          cases node.station.host.engine.cfg.txCksumOffloadActive with
          | false =>
              refine ⟨seg, _, _, rfl, rfl, fun _ => ?_⟩
              rw [reset.payload]
              exact ⟨rfl, rfl⟩
          | true =>
              have offloaded := txOffloadFinalize_frameWith seg 40 (seg.ipCsum 0) (seg.tcpCsum []) []
                seg rfl
              rw [reset.payload] at offloaded
              exact ⟨seg, _, _, rfl, offloaded, nofun⟩
        · cases sent
      · rw [reset.totalIpLen]
        decide
      · rw [reset.tcpHdrLen, reset.payload]
        decide

/-! ### Answers are not answered -/

theorem ethertype_frameWith (seg : SegmentTx) (totalIpLen ipField tcpField : ℕ) (rest : List UInt8) :
    beU16At (seg.frameWith totalIpLen ipField tcpField rest) 12 = ETHERTYPE_IPV4 := by
  have field : ([0x08, 0x00] : List UInt8) = be16 0x0800 := rfl
  apply UInt16.toNat.inj
  unfold SegmentTx.frameWith SegmentTx.ethHeader
  rw [field, List.append_assoc, List.append_assoc, List.append_assoc]
  exact @beU16At_between (seg.dstMac.toList ++ seg.srcMac.toList) _ 12 0x0800 (by simp) (by decide)

theorem ipDecode_lengths {pkt : List UInt8} {ourIp : BitVec 32} {nicCsumOk : Bool} {ip : L3Decoded}
    (decoded : ipDecode pkt ourIp nicCsumOk = .ok ip) :
    ip.headerLen = ipHeaderLen pkt ∧ ip.totalLen = ipTotalLen pkt := by
  unfold ipDecode at decoded
  dsimp only at decoded
  repeat' split at decoded
  all_goals cases decoded
  exact ⟨rfl, rfl⟩

theorem parseSegment_flags {tcpBytes : List UInt8} {srcIp dstIp : BitVec 32} {nicCsumOk : Bool}
    {seg : ParsedSegment} (parsed : parseSegment tcpBytes srcIp dstIp nicCsumOk = .ok seg) :
    seg.flags = (tcpBytes.getD 13 0).toBitVec := by
  unfold parseSegment at parsed
  dsimp only at parsed
  repeat' split at parsed
  all_goals cases parsed
  rfl

/-- A segment of no connection was decoded and parsed. -/
theorem handleIpv4_unmatched {station : Station} {frame : RxFrame} {found : FourTuple}
    {parsed : ParsedSegment} {decoded : Option L3Decoded}
    (routed : station.handleIpv4 frame = (.unmatched found parsed, decoded)) :
    parsed.flags = (((frame.payload.take (ipTotalLen frame.payload)).drop
      (ipHeaderLen frame.payload)).getD 13 0).toBitVec := by
  unfold Station.handleIpv4 at routed
  split at routed
  · cases routed
  · rename_i ip plain
    have lengths : ip.headerLen = ipHeaderLen frame.payload ∧
        ip.totalLen = ipTotalLen frame.payload := by
      unfold ipDecodeOffloadAware at plain
      split at plain
      · exact ipDecode_lengths plain
      · split at plain
        · exact ipDecode_lengths plain
        · cases plain
        · exact ipDecode_lengths plain
        · exact ipDecode_lengths plain
    split at routed
    · rcases Prod.mk.inj routed with ⟨unmatched, _⟩
      rw [lengths.1, lengths.2] at unmatched
      unfold Station.routeTcp at unmatched
      dsimp only at unmatched
      generalize (if station.rxCksumOffloadActive then classifyL4RxCksum frame.olFlags
        else .unknown) = l4Cksum at unmatched
      split at unmatched
      · cases unmatched
      · split at unmatched
        · cases unmatched
        · rename_i passed
          split at unmatched
          · cases unmatched
            exact parseSegment_flags passed
          · cases unmatched
    · cases routed

theorem getD_drop_take {bytes : List UInt8} {total start index : ℕ} (inside : start + index < total) :
    ((bytes.take total).drop start).getD index 0 = bytes.getD (start + index) 0 := by
  rw [List.getD_eq_getElem?_getD, List.getD_eq_getElem?_getD, List.getElem?_drop,
    List.getElem?_take_of_lt inside]

/-- Under any checksums, the flags of a reset are where the decoders look for them. -/
theorem flags_frameWith (seg : SegmentTx) (ipField tcpField : ℕ) (padding : List UInt8) :
    ((((seg.frameWith 40 ipField tcpField padding).drop ETH_HDR_LEN).take
        (ipTotalLen ((seg.frameWith 40 ipField tcpField padding).drop ETH_HDR_LEN))).drop
      (ipHeaderLen ((seg.frameWith 40 ipField tcpField padding).drop ETH_HDR_LEN))).getD 13 0 =
      UInt8.ofBitVec seg.flags := by
  rw [seg.drop_ethHeader]
  have first : (seg.ipHeader 40 ipField ++ (seg.tcpHeader tcpField ++ padding)).getD 0 0 = 0x45 := rfl
  have header : ipHeaderLen (seg.ipHeader 40 ipField ++ (seg.tcpHeader tcpField ++ padding)) = 20 := by
    rw [ipHeaderLen, first]
    decide
  have total : ipTotalLen (seg.ipHeader 40 ipField ++ (seg.tcpHeader tcpField ++ padding)) = 40 :=
    @beU16At_between [0x45, 0x00] ([0x00, 0x00, 0x40, 0x00, 64, IPPROTO_TCP] ++ be16 ipField ++
      be32 seg.srcIp ++ be32 seg.dstIp ++ (seg.tcpHeader tcpField ++ padding)) 2 40 rfl (by decide)
  rw [header, total, getD_drop_take (by decide)]
  rfl

theorem l2Decode_ok {bytes : List UInt8} {ourMac : Vector UInt8 6} {l2 : L2Decoded}
    (decoded : l2Decode bytes ourMac = .ok l2) :
    l2.ethertype = beU16At bytes 12 ∧ l2.payloadOffset = ETH_HDR_LEN := by
  unfold l2Decode at decoded
  dsimp only at decoded
  repeat' split at decoded
  all_goals cases decoded
  exact ⟨rfl, rfl⟩

/-- A node takes a frame as ARP, as a packet, or not at all. -/
theorem rxFrame_cases (chain : RxChain) (olFlags : BitVec 64) (env : InputEnv) (accepted : Bool) :
    node.rxFrame chain olFlags env accepted = (node, []) ∨
      beU16At (mbufDataSliceForRx chain) 12 = ETHERTYPE_ARP ∧
        node.rxFrame chain olFlags env accepted =
          node.handleArp ((mbufDataSliceForRx chain).drop ETH_HDR_LEN) accepted ∨
      beU16At (mbufDataSliceForRx chain) 12 ≠ ETHERTYPE_ARP ∧
        node.rxFrame chain olFlags env accepted =
          node.handleIpv4
            { payload := (mbufDataSliceForRx chain).drop ETH_HDR_LEN
              olFlags := olFlags
              mbuf := some chain.head
              nbSegs := chain.nbSegs
              ethPayloadOffset := ETH_HDR_LEN } env accepted := by
  unfold rxFrame
  dsimp only
  split
  · exact .inl rfl
  · rename_i l2 decoded
    rcases l2Decode_ok decoded with ⟨ethertype, offset⟩
    rw [ethertype, offset]
    split
    · rename_i arp
      exact .inr (.inl ⟨arp, rfl⟩)
    · rename_i other
      exact .inr (.inr ⟨other, rfl⟩)

/-- An ARP reply is not answered. -/
theorem reply_not_answered {pkt : ArpPacket} (reply : pkt.op = ARP_OP_REPLY)
    (padding : List UInt8) (accepted : Bool) :
    (node.handleArp (writeArpBody pkt ++ padding) accepted).2 = [] := by
  unfold handleArp
  rw [arpDecode_writeArpBody (.inr reply)]
  dsimp only
  cases action : classifyArp pkt node.localIp node.gatewayIp with
  | none => rfl
  | updateGatewayMac mac => rfl
  | sendReply =>
      unfold classifyArp at action
      split at action
      · rename_i asked
        rw [reply] at asked
        exact absurd asked.1 (by decide)
      · split at action
        · dsimp only at action
          split at action <;> cases action
        · cases action

/-- A reset is not answered, whatever its checksums. -/
theorem reset_not_answered {seg : SegmentTx} (reset : IsReset seg) {frame : RxFrame}
    {ipField tcpField : ℕ} {padding : List UInt8}
    (carries : frame.payload = (seg.frameWith 40 ipField tcpField padding).drop ETH_HDR_LEN)
    (env : InputEnv) (accepted : Bool) : (node.handleIpv4 frame env accepted).2 = [] := by
  unfold handleIpv4
  split
  · rfl
  · rename_i routed
    have flags := handleIpv4_unmatched routed
    rw [carries, flags_frameWith] at flags
    unfold sendRstUnmatched rstUnmatched
    rw [flags, if_pos reset.reset]
  · rfl

/-- The frames a node answers a frame with. -/
theorem answer_cases {chain : RxChain} {olFlags : BitVec 64} {env : InputEnv} {accepted : Bool}
    {answer : List UInt8} (sent : answer ∈ (node.rxFrame chain olFlags env accepted).2) :
    (∃ dstMac pkt, ArpPacket.op pkt = ARP_OP_REPLY ∧ answer = arpFrame dstMac pkt) ∨
      ∃ seg ipField tcpField, IsReset seg ∧ answer = seg.frameWith 40 ipField tcpField [] := by
  rcases node.rxFrame_cases chain olFlags env accepted with same | ⟨_, same⟩ | ⟨_, same⟩
  · rw [same] at sent
    cases sent
  · rw [same] at sent
    unfold handleArp at sent
    split at sent
    · cases sent
    · rename_i pkt _
      cases action : classifyArp pkt node.localIp node.gatewayIp with
      | none =>
          rw [action] at sent
          cases sent
      | updateGatewayMac mac =>
          rw [action] at sent
          cases sent
      | sendReply =>
          rw [action] at sent
          have built : answer ∈ txFrame (buildArpFrame pkt.senderMac
              ⟨ARP_OP_REPLY, node.ourMac, node.localIp, pkt.senderMac, pkt.senderIp⟩) accepted := sent
          rw [txFrame_eq] at built
          split at built
          · exact .inl ⟨_, _, rfl, List.mem_singleton.mp built⟩
          · cases built
  · rw [same] at sent
    unfold handleIpv4 at sent
    split at sent
    · cases sent
    · rcases rst_frame sent with ⟨seg, ipField, tcpField, refused, rfl, _⟩
      exact .inr ⟨seg, ipField, tcpField, rstUnmatched_isReset refused, rfl⟩
    · cases sent

end Node

theorem beU16At_front {front rest : List UInt8} {index : ℕ} (inside : index + 2 ≤ front.length) :
    beU16At (front ++ rest) index = beU16At front index := by
  have byte : ∀ offset, offset < front.length →
      (front ++ rest).getD offset 0 = front.getD offset 0 := by
    intro offset small
    rw [List.getD_eq_getElem?_getD, List.getElem?_append_left small, List.getD_eq_getElem?_getD]
  unfold beU16At
  rw [byte index (by omega), byte (index + 1) (by omega)]

/-- What a device puts on the wire for a frame: the frame, or an IPv4 packet with other checksums
in its two fields. -/
inductive OnWire (frame : List UInt8) : List UInt8 → Prop where
  | same : OnWire frame frame
  | filled (ipField tcpField : ℕ) (packet : beU16At frame 12 = ETHERTYPE_IPV4) :
      OnWire frame
        (overwrite (overwrite frame (ETH_HDR_LEN + IPV4_HDR_MIN + 16) (be16 tcpField))
          (ETH_HDR_LEN + 10) (be16 ipField))

/-- Other checksums make another frame of the same segment. -/
theorem OnWire.frameWith {seg : SegmentTx} {totalIpLen ipField tcpField : ℕ}
    {rest wire : List UInt8} (leaves : OnWire (seg.frameWith totalIpLen ipField tcpField rest) wire) :
    ∃ ipField' tcpField', wire = seg.frameWith totalIpLen ipField' tcpField' rest := by
  cases leaves with
  | same => exact ⟨ipField, tcpField, rfl⟩
  | filled ipField' tcpField' _ =>
      refine ⟨ipField', tcpField', ?_⟩
      rw [seg.overwrite_tcpField, seg.overwrite_ipField]

/-- An ARP frame is left alone. -/
theorem OnWire.arpFrame {dstMac : Vector UInt8 6} {pkt : ArpPacket} {wire : List UInt8}
    (leaves : OnWire (arpFrame dstMac pkt) wire) : wire = DpdkTcp.arpFrame dstMac pkt := by
  cases leaves with
  | same => rfl
  | filled ipField tcpField packet =>
      rw [ethertype_arpFrame] at packet
      exact absurd packet (by decide)

/-- No node answers what another node answered with: an ARP reply or a reset, under any checksums
and padded by the device or not, makes the neighbour code of no node send anything. -/
theorem answers_not_answered {first second : Node} {chain chain' : RxChain}
    {olFlags olFlags' : BitVec 64} {env env' : InputEnv} {accepted accepted' : Bool}
    {answer wire : List UInt8} (sent : answer ∈ (first.rxFrame chain olFlags env accepted).2)
    (leaves : OnWire answer wire) {padding : List UInt8}
    (carries : mbufDataSliceForRx chain' = wire ++ padding) :
    (second.rxFrame chain' olFlags' env' accepted').2 = [] := by
  rcases Node.answer_cases sent with
    ⟨dstMac, pkt, reply, rfl⟩ | ⟨seg, ipField, tcpField, reset, rfl⟩
  · rw [leaves.arpFrame] at carries
    have ethertype : beU16At (mbufDataSliceForRx chain') 12 = ETHERTYPE_ARP := by
      rw [carries, beU16At_front (by rw [length_arpFrame]; decide), ethertype_arpFrame]
    rcases second.rxFrame_cases chain' olFlags' env' accepted' with same | ⟨_, same⟩ | ⟨other, _⟩
    · rw [same]
    · rw [same, carries, List.drop_append_of_le_length (by rw [length_arpFrame]; decide),
        drop_arpFrame, List.append_assoc]
      exact Node.reply_not_answered reply _ accepted'
    · exact absurd ethertype other
  · rcases leaves.frameWith with ⟨ipField', tcpField', refilled⟩
    rw [refilled, seg.frameWith_append] at carries
    have ethertype : beU16At (mbufDataSliceForRx chain') 12 = ETHERTYPE_IPV4 := by
      rw [carries, Node.ethertype_frameWith]
    rcases second.rxFrame_cases chain' olFlags' env' accepted' with same | ⟨arp, _⟩ | ⟨_, same⟩
    · rw [same]
    · rw [ethertype] at arp
      exact absurd arp (by decide)
    · rw [same]
      exact Node.reset_not_answered reset (congrArg (List.drop ETH_HDR_LEN) carries) env' accepted'

/-- A host without connections, behind the gateway address of the others. -/
def vacantNode : Node :=
  .start
    (.start
      { quickCfg with
        localIp := 0x0a000001#32
        ourMac := quickCfg.gatewayMac
        gatewayMac := quickCfg.ourMac } 1 64 [] false 49151) 0x0a000002#32 60

/-- A node that waits to be asked. -/
def askedNode : Node :=
  .start (.start quickCfg 1 64 [] false 49151) 0#32 0

/-- A question for its address. -/
def whoHas : List UInt8 :=
  arpFrame BROADCAST_MAC
    ⟨ARP_OP_REQUEST, quickCfg.gatewayMac, 0x0a000001#32, ZERO_MAC, quickCfg.localIp⟩

/-- The answer to it. -/
def isAt : List UInt8 :=
  arpFrame quickCfg.gatewayMac
    ⟨ARP_OP_REPLY, quickCfg.ourMac, quickCfg.localIp, quickCfg.gatewayMac, 0x0a000001#32⟩

theorem answers_not_answered_whoHas :
    isAt ∈ (askedNode.rxFrame ⟨⟨0, whoHas, by decide⟩, []⟩ 0#64 (inputAt 0) true).2 ∧
      (vacantNode.rxFrame ⟨⟨0, isAt, by decide⟩, []⟩ 0#64 (inputAt 0) true).2 = [] := by
  have sent : isAt ∈ (askedNode.rxFrame ⟨⟨0, whoHas, by decide⟩, []⟩ 0#64 (inputAt 0) true).2 := by
    decide +kernel
  exact ⟨sent, answers_not_answered sent .same (List.append_nil isAt).symm⟩

/-! ### A refusal ends the connection -/

/-- The tuple as the other end has it. -/
def FourTuple.mirror (tuple : FourTuple) : FourTuple :=
  ⟨tuple.peerIp, tuple.peerPort, tuple.localIp, tuple.localPort⟩

namespace Station

variable {station : Station} {frame : RxFrame} {handle : ConnHandle} {conn : TcpConn}

/-- A packet laid out for the tuple of a connection is handed to it as it was sent. -/
theorem handleIpv4_packet {seg : SegmentTx} (sendable : seg.Sendable)
    (indexed : station.host.engine.flowTable.Indexed)
    (present : station.host.engine.flowTable.get handle = some conn)
    (tuple : conn.fourTuple = ⟨seg.dstIp, seg.dstPort, seg.srcIp, seg.srcPort⟩)
    (ours : station.ourIp = 0#32 ∨ station.ourIp = seg.dstIp) {padding : List UInt8}
    (carries : frame.payload = seg.packet padding)
    (ipUnfaulted : classifyIpRxCksum frame.olFlags ≠ .bad)
    (l4Unfaulted : classifyL4RxCksum frame.olFlags ≠ .bad) :
    ∃ ip, station.handleIpv4 frame = (.matched handle seg.received, some ip) := by
  have formed := sendable.wellFormed padding
  have decoded := formed.ipDecode station.ourIp false
  rw [if_neg] at decoded
  · have segment := sendable.tcpBytes padding
    have routed : station.routeTcp
        { protocol := IPPROTO_TCP
          srcIp := seg.srcIp
          dstIp := seg.dstIp
          headerLen := ipHeaderLen (seg.packet padding)
          totalLen := DpdkTcp.ipTotalLen (seg.packet padding)
          ttl := (seg.packet padding).getD 8 0 } seg.tcpSegment frame.olFlags =
        .matched handle seg.received := by
      unfold routeTcp
      dsimp only
      rw [if_neg, sendable.parses_checked]
      · have found := indexed.find present
        rw [tuple] at found
        dsimp only [tupleFromSegment, SegmentTx.received]
        rw [found]
      · intro faulted
        split at faulted
        · exact l4Unfaulted faulted
        · cases faulted
    unfold handleIpv4
    rw [carries, formed.ipDecodeOffloadAware ipUnfaulted, ← ourIp, decoded]
    dsimp only
    rw [if_pos rfl, segment]
    exact ⟨_, congrArg (fun route => (route, _)) routed⟩
  · rintro ⟨given, other⟩
    exact ours.elim given fun same => other same.symm

end Station

section Refused

variable {peer node : Node} {handle : ConnHandle} {conn : TcpConn} {incoming : ParsedSegment}

/-- What the peer may be waiting for: anything once it is synchronized, or an answer to its SYN. -/
def Expects (conn : TcpConn) (incoming : ParsedSegment) : Prop :=
  conn.state.synchronized = true ∨
    conn.state = .synSent ∧ conn.OnlySyn ∧ incoming.flags = TCP_SYN ∧ incoming.seq = conn.iss ∧
      incoming.payload = []

/-- The reset that answers a segment closes the connection the segment came from. -/
theorem reset_closes {tuple : FourTuple} (expects : Expects conn incoming) {seg : SegmentTx}
    (answer : node.rstUnmatched tuple incoming = some seg) (clock : Readings) (sendBuf : ℕ)
    (mbufCtx : Option MbufInsertCtx) :
    (dispatch conn seg.received clock sendBuf mbufCtx).outcome.stateAfter conn.state = none := by
  have reset := Node.rstUnmatched_isReset answer
  have isReset : seg.received.flags.has TCP_RST = true := reset.reset
  rcases expects with running | ⟨opening, syn, flags, seq, payload⟩
  · have urgent : seg.flags.has TCP_URG = false := by
      unfold Node.rstUnmatched at answer
      split at answer
      · cases answer
      · cases answer
        dsimp only
        split <;> decide
    have closes := (dispatch_rst running isReset clock sendBuf mbufCtx).2
    rw [if_neg (by simp [SegmentTx.received, urgent])] at closes
    rw [Outcome.stateAfter, if_pos closes]
  · have acks : seg.flags.has TCP_ACK = true ∧ seg.ack = conn.sndNxt := by
      unfold Node.rstUnmatched at answer
      rw [flags, if_neg (by decide)] at answer
      cases answer
      have noAck : TCP_SYN.has TCP_ACK = false := by decide
      have isSyn : TCP_SYN.has TCP_SYN = true := by decide
      have noFin : TCP_SYN.has TCP_FIN = false := by decide
      dsimp only
      rw [noAck, isSyn, noFin, payload, seq, syn.sndNxt]
      exact ⟨by decide, by simp [seqAdd]⟩
    have covers : synAcked conn seg.received = true :=
      syn.synAcked_iff.mpr (.inl acks.2)
    rw [dispatch, opening, handleSynSent_stateAfter, if_pos isReset, if_pos]
    rw [covers, Bool.and_true]
    exact acks.1

/-- A node that has no connection for a segment refuses it, and the refusal, whole and unharmed,
removes the connection it came from: a SYN that nobody listens for, and any segment to an end that
has lost its connection. -/
theorem refusal_ends_connection (indexed : peer.station.host.engine.flowTable.Indexed)
    (present : peer.station.host.engine.flowTable.get handle = some conn)
    (expects : Expects conn incoming) (notReset : incoming.flags.has TCP_RST = false)
    (ours : peer.localIp = 0#32 ∨ peer.localIp = conn.fourTuple.localIp)
    (software : node.station.host.engine.cfg.txCksumOffloadActive = false)
    {frame : RxFrame} {ip : Option L3Decoded}
    (lost : node.station.handleIpv4 frame = (.unmatched conn.fourTuple.mirror incoming, ip))
    (env : InputEnv) :
    ∃ answer, node.handleIpv4 frame env true = (node, [answer]) ∧
      ∀ chain padding olFlags env' accepted, mbufDataSliceForRx chain = answer ++ padding →
        letsIn peer.ourMac node.gatewayMac → classifyIpRxCksum olFlags ≠ .bad →
        classifyL4RxCksum olFlags ≠ .bad →
        (peer.rxFrame chain olFlags env' accepted).1.station.host.engine.stateAt handle = none := by
  have refused : ∃ seg, node.rstUnmatched conn.fourTuple.mirror incoming = some seg ∧
      seg.dstMac = node.gatewayMac ∧
      conn.fourTuple = ⟨seg.dstIp, seg.dstPort, seg.srcIp, seg.srcPort⟩ := by
    unfold Node.rstUnmatched
    rw [if_neg (by rw [notReset]; decide)]
    exact ⟨_, rfl, rfl, rfl⟩
  rcases refused with ⟨seg, answer, dstMac, tuple⟩
  have reset := Node.rstUnmatched_isReset answer
  have sendable := reset.sendable
  refine ⟨seg.frameWith 40 (seg.ipCsum seg.payload.length) (seg.tcpCsum seg.payload) seg.payload,
    ?_, ?_⟩
  · unfold Node.handleIpv4
    rw [lost]
    dsimp only
    unfold Node.sendRstUnmatched
    rw [answer]
    dsimp only
    rw [buildSegment_eq, if_neg, if_neg, reset.totalIpLen, software]
    · rfl
    · rw [reset.totalIpLen]
      decide
    · rw [reset.tcpHdrLen, reset.payload]
      decide
  · intro chain padding olFlags env' accepted carries enters ipUnfaulted l4Unfaulted
    have decoded : l2Decode (mbufDataSliceForRx chain) peer.ourMac =
        .ok ⟨ETHERTYPE_IPV4, seg.srcMac.toList, seg.dstMac.toList, ETH_HDR_LEN⟩ := by
      rw [carries]
      unfold SegmentTx.frameWith SegmentTx.ethHeader
      simp only [List.append_assoc]
      exact l2Decode_frame (dstMac ▸ enters) (.inl rfl) _
    have packet : (mbufDataSliceForRx chain).drop ETH_HDR_LEN = seg.packet padding := by
      rw [carries, seg.frameWith_append, seg.drop_ethHeader]
      unfold SegmentTx.packet
      rw [reset.totalIpLen]
    have ours' : peer.station.ourIp = 0#32 ∨ peer.station.ourIp = seg.dstIp := by
      rw [tuple] at ours
      exact ours
    rcases @Station.handleIpv4_packet peer.station ⟨(mbufDataSliceForRx chain).drop ETH_HDR_LEN,
      olFlags, some chain.head, chain.nbSegs, ETH_HDR_LEN⟩ handle conn seg sendable indexed present
      tuple ours' padding packet ipUnfaulted l4Unfaulted with ⟨ip', routed⟩
    unfold Node.rxFrame
    dsimp only
    rw [decoded]
    dsimp only
    rw [if_neg (by decide)]
    unfold Node.handleIpv4
    rw [routed]
    dsimp only
    unfold Station.receive
    rw [routed]
    dsimp only [Host.step]
    rw [Engine.stateAt_tcpInput, if_pos rfl, present, Option.bind_some]
    exact reset_closes expects answer _ _ _

end Refused

/-- The client, whose SYN is on its way. -/
def clientNode : Node :=
  .start ⟨(Host.start quickCfg 1 64).systemStep opening, [], false, 49151⟩ 0x0a000001#32 0

/-- The SYN of the client. -/
def clientSyn : SegmentTx :=
  { srcMac := quickCfg.ourMac
    dstMac := quickCfg.gatewayMac
    srcIp := 0x0a000002#32
    dstIp := 0x0a000001#32
    srcPort := 40000
    dstPort := 5000
    seq := 100#32
    ack := 0#32
    flags := TCP_SYN
    window := 1024
    options := {}
    payload := [] }

/-- The SYN as it arrives. -/
def clientSynFrame : RxFrame :=
  { payload := clientSyn.packet []
    olFlags := 0#64
    mbuf := none
    nbSegs := 1
    ethPayloadOffset := ETH_HDR_LEN }

theorem refusal_ends_connection_clientSyn :
    ∃ answer, vacantNode.handleIpv4 clientSynFrame (inputAt 1000) true = (vacantNode, [answer]) ∧
      ∀ chain padding olFlags env accepted, mbufDataSliceForRx chain = answer ++ padding →
        letsIn clientNode.ourMac vacantNode.gatewayMac → classifyIpRxCksum olFlags ≠ .bad →
        classifyL4RxCksum olFlags ≠ .bad →
        (clientNode.rxFrame chain olFlags env accepted).1.station.host.engine.stateAt 1 = none := by
  have opens : (clientNode.station.host.engine.flowTable.get 1).any (fun conn =>
      conn.state == .synSent && conn.iss == 100#32 &&
        conn.fourTuple == ⟨0x0a000002#32, 40000, 0x0a000001#32, 5000⟩) = true := by
    decide +kernel
  rcases (Option.any_eq_true _ _).mp opens with ⟨conn, present, facts⟩
  simp only [Bool.and_eq_true, beq_iff_eq] at facts
  rcases facts with ⟨⟨state, iss⟩, tuple⟩
  have indexed : clientNode.station.host.engine.flowTable.Indexed :=
    Host.systemStep_indexed (Station.indexed_start quickCfg 1 64 [] false 49151) opening
  have syn : conn.OnlySyn :=
    Host.onlySyn_of_reaches (.tail opening .refl trivial) 1 conn present state
  have lost : vacantNode.station.handleIpv4 clientSynFrame =
      (.unmatched conn.fourTuple.mirror clientSyn.received,
        (vacantNode.station.handleIpv4 clientSynFrame).2) := by
    rw [tuple]
    decide +kernel
  exact refusal_ends_connection indexed present
    (.inr ⟨state, syn, rfl, iss.symm, rfl⟩) rfl (.inr (by rw [tuple]; rfl)) rfl lost (inputAt 1000)

end DpdkTcp
