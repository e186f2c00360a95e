import DpdkTcp.Codec.RoundTrip
import DpdkTcp.Wire.Layout
import DpdkTcp.Wire.Verify

/-!
# Round trips of frames

A frame that `build_segment` lays out is accepted by `ip_decode` and `parse_segment`, both
with their checksums verified in software, and the segment is read back from it, options
and payload included. Bytes behind the frame are padding. A retransmitted frame, whose
payload is chained behind its header, is the same frame.
-/

namespace DpdkTcp

namespace SegmentTx

/-- A segment the stack may send: canonical options that fit in a header, no SYN with FIN or RST,
a window and a length that fit their fields. -/
structure Sendable (seg : SegmentTx) : Prop where
  canonical : seg.options.Canonical
  unclamped : seg.options.wsClamped = false
  optionsFit : seg.options.encodedLen ≤ 40
  noSynFin : ¬ (seg.flags.has TCP_SYN = true ∧ seg.flags.has TCP_FIN = true)
  noRstSyn : ¬ (seg.flags.has TCP_RST = true ∧ seg.flags.has TCP_SYN = true)
  window : seg.window < 65536
  fits : seg.totalIpLen seg.payload.length ≤ 65535

variable {seg : SegmentTx}

theorem Sendable.length_options (sendable : seg.Sendable) :
    seg.options.encode.length = seg.options.encodedLen :=
  seg.options.length_encode sendable.canonical.few

/-! ### The IPv4 header -/

variable (seg) in
/-- The packet behind the Ethernet header, and padding. -/
def packet (padding : List UInt8) : List UInt8 :=
  seg.ipHeader (seg.totalIpLen seg.payload.length) (seg.ipCsum seg.payload.length) ++
    (seg.tcpHeader (seg.tcpCsum seg.payload) ++ (seg.payload ++ padding))

theorem packet_getD (padding : List UInt8) :
    (seg.packet padding).getD 0 0 = 0x45 ∧ (seg.packet padding).getD 6 0 = 0x40 ∧
      (seg.packet padding).getD 7 0 = 0 ∧ (seg.packet padding).getD 8 0 = 64 ∧
      (seg.packet padding).getD 9 0 = IPPROTO_TCP :=
  ⟨rfl, rfl, rfl, rfl, rfl⟩

theorem ipHeaderLen_packet (padding : List UInt8) : ipHeaderLen (seg.packet padding) = 20 := by
  unfold ipHeaderLen
  rw [(packet_getD padding).1]
  decide

theorem Sendable.ipTotalLen_packet (sendable : seg.Sendable) (padding : List UInt8) :
    DpdkTcp.ipTotalLen (seg.packet padding) = seg.totalIpLen seg.payload.length := by
  have fits := sendable.fits
  have small : seg.totalIpLen seg.payload.length < 65536 := by omega
  have read := @beU16At_between [0x45, 0x00]
    ([0x00, 0x00, 0x40, 0x00, 64, IPPROTO_TCP] ++ be16 (seg.ipCsum seg.payload.length) ++
      be32 seg.srcIp ++ be32 seg.dstIp ++
      (seg.tcpHeader (seg.tcpCsum seg.payload) ++ (seg.payload ++ padding))) 2 _ rfl small
  exact read

theorem Sendable.length_packet (sendable : seg.Sendable) (padding : List UInt8) :
    (seg.packet padding).length = seg.totalIpLen seg.payload.length + padding.length := by
  unfold packet totalIpLen tcpHdrLen
  simp only [List.length_append, seg.length_ipHeader, seg.length_tcpHeader, sendable.length_options]
  omega

theorem Sendable.wellFormed (sendable : seg.Sendable) (padding : List UInt8) :
    Ipv4WellFormed (seg.packet padding) seg.srcIp seg.dstIp where
  version := by rw [(packet_getD padding).1]; rfl
  headerLen := by rw [ipHeaderLen_packet]
  totalLen := by
    rw [ipHeaderLen_packet, sendable.ipTotalLen_packet]
    unfold totalIpLen IPV4_HDR_MIN
    omega
  complete := by
    rw [sendable.ipTotalLen_packet, sendable.length_packet]
    exact Nat.le_add_right _ _
  unfragmented := by
    unfold flagsFrag beU16At
    rw [(packet_getD padding).2.1, (packet_getD padding).2.2.1]
    decide
  ttl := by rw [(packet_getD padding).2.2.2.1]; decide
  protocol := (packet_getD padding).2.2.2.2
  checksum := by
    have small : seg.ipCsum seg.payload.length < 65536 := Nat.lt_succ_of_le (internetChecksum_le _)
    have header : (seg.packet padding).take 20 =
        seg.ipHeader (seg.totalIpLen seg.payload.length) (seg.ipCsum seg.payload.length) :=
      List.take_left' rfl
    have read := @beU16At_between (ipFront (seg.totalIpLen seg.payload.length))
      (seg.ipBack ++ (seg.tcpHeader (seg.tcpCsum seg.payload) ++ (seg.payload ++ padding))) 10 _
      rfl small
    rw [ipHeaderLen_packet, header]
    exact read.symm
  srcIp := beU32At_append
    (ipFront (seg.totalIpLen seg.payload.length) ++ be16 (seg.ipCsum seg.payload.length))
    (be32 seg.dstIp ++ (seg.tcpHeader (seg.tcpCsum seg.payload) ++ (seg.payload ++ padding))) _
  dstIp := beU32At_append
    (ipFront (seg.totalIpLen seg.payload.length) ++ be16 (seg.ipCsum seg.payload.length) ++
      be32 seg.srcIp)
    (seg.tcpHeader (seg.tcpCsum seg.payload) ++ (seg.payload ++ padding)) _

/-- The TCP segment of the packet, without the padding. -/
theorem Sendable.tcpBytes (sendable : seg.Sendable) (padding : List UInt8) :
    ((seg.packet padding).take (DpdkTcp.ipTotalLen (seg.packet padding))).drop
        (ipHeaderLen (seg.packet padding)) =
      seg.tcpHeader (seg.tcpCsum seg.payload) ++ seg.payload := by
  have whole : seg.packet padding = seg.packet [] ++ padding := by
    unfold packet
    simp only [List.append_assoc, List.append_nil]
  have length := sendable.length_packet []
  rw [List.length_nil, Nat.add_zero] at length
  rw [sendable.ipTotalLen_packet, ipHeaderLen_packet, whole, List.take_left' length]
  unfold packet
  have header := seg.length_ipHeader (seg.totalIpLen seg.payload.length)
    (seg.ipCsum seg.payload.length)
  unfold IPV4_HDR_MIN at header
  rw [List.drop_left' header, List.append_nil]

/-! ### The TCP segment -/

variable (seg) in
/-- The TCP segment with its checksum. -/
def tcpSegment : List UInt8 :=
  seg.tcpHeader (seg.tcpCsum seg.payload) ++ seg.payload

theorem tcpSegment_getD :
    seg.tcpSegment.getD 12 0 = UInt8.ofNat (seg.tcpHdrLen / 4 * 16) ∧
      seg.tcpSegment.getD 13 0 = UInt8.ofBitVec seg.flags :=
  ⟨rfl, rfl⟩

theorem Sendable.length_tcpSegment (sendable : seg.Sendable) :
    seg.tcpSegment.length = seg.tcpHdrLen + seg.payload.length := by
  unfold tcpSegment tcpHdrLen
  rw [List.length_append, seg.length_tcpHeader, sendable.length_options]

/-- The data offset counts whole words, at most fifteen. -/
theorem Sendable.tcpHeaderLen_tcpSegment (sendable : seg.Sendable) :
    tcpHeaderLen seg.tcpSegment = seg.tcpHdrLen := by
  have words := seg.options.encodedLen_mod_four
  have few := sendable.optionsFit
  have length : seg.tcpHdrLen = 20 + seg.options.encodedLen := rfl
  unfold tcpHeaderLen
  rw [tcpSegment_getD.1, UInt8.toNat_shiftRight, UInt8.toNat_ofNat', UInt8.toNat_ofNat]
  have shift : 2 ^ (4 % 2 ^ 8 % 8) = 16 := rfl
  rw [Nat.mod_eq_of_lt (by omega), Nat.shiftRight_eq_div_pow, shift]
  omega

theorem Sendable.tcpSound (sendable : seg.Sendable) : TcpHeaderSound seg.tcpSegment where
  length := by
    rw [sendable.length_tcpSegment]
    unfold tcpHdrLen TCP_HDR_MIN
    omega
  headerLen := by
    rw [sendable.tcpHeaderLen_tcpSegment]
    exact Nat.le_add_right _ _
  complete := by
    rw [sendable.tcpHeaderLen_tcpSegment, sendable.length_tcpSegment]
    exact Nat.le_add_right _ _
  noSynFin := by
    rw [tcpSegment_getD.2]
    exact sendable.noSynFin
  noRstSyn := by
    rw [tcpSegment_getD.2]
    exact sendable.noRstSyn

theorem Sendable.tcpChecksum_tcpSegment (sendable : seg.Sendable) :
    tcpChecksum seg.tcpSegment seg.srcIp seg.dstIp = seg.tcpCsum seg.payload := by
  have fits := sendable.fits
  unfold totalIpLen at fits
  have short : asU16 seg.tcpSegment.length = seg.tcpHdrLen + seg.payload.length := by
    rw [sendable.length_tcpSegment]
    exact asU16_of_lt (by omega)
  have parts : seg.tcpSegment = seg.tcpFront ++
      (be16 (seg.tcpCsum seg.payload) ++ (seg.tcpBack ++ seg.payload)) := by
    unfold tcpSegment
    rw [seg.tcpHeader_eq, List.append_assoc, List.append_assoc]
  have front : seg.tcpSegment.take 16 = seg.tcpFront := by
    rw [parts, List.take_left' seg.length_tcpFront]
  have back : seg.tcpSegment.drop 18 = seg.tcpBack ++ seg.payload := by
    have length : (seg.tcpFront ++ be16 (seg.tcpCsum seg.payload)).length = 18 := rfl
    rw [parts, ← List.append_assoc, List.drop_left' length]
  unfold tcpChecksum tcpCsum
  rw [short, front, back]
  unfold pseudoHeader
  rw [seg.tcpHeader_eq]
  simp only [List.append_assoc]
  rfl

variable (seg) in
/-- The segment as a receiver sees it. -/
def received : ParsedSegment :=
  { srcPort := seg.srcPort
    dstPort := seg.dstPort
    seq := seg.seq
    ack := seg.ack
    flags := seg.flags
    window := UInt16.ofNat seg.window
    headerLen := seg.tcpHdrLen
    payload := seg.payload
    options := seg.options.encode }

theorem Sendable.tcpParsed_tcpSegment (sendable : seg.Sendable) :
    tcpParsed seg.tcpSegment = seg.received := by
  have fits := sendable.window
  have window : (UInt16.ofNat seg.window).toNat = seg.window := by
    rw [UInt16.toNat_ofNat']
    omega
  have parts : seg.tcpSegment = be16 seg.srcPort.toNat ++ (be16 seg.dstPort.toNat ++ (be32 seg.seq ++
      (be32 seg.ack ++ ([UInt8.ofNat (seg.tcpHdrLen / 4 * 16), UInt8.ofBitVec seg.flags] ++
        (be16 seg.window ++ (be16 (seg.tcpCsum seg.payload) ++ (seg.tcpBack ++ seg.payload))))))) := by
    unfold tcpSegment
    rw [seg.tcpHeader_eq]
    unfold tcpFront
    simp only [List.append_assoc]
  have srcPort : beU16At seg.tcpSegment 0 = seg.srcPort := by
    apply UInt16.toNat.inj
    rw [parts]
    exact @beU16At_between [] _ 0 _ rfl seg.srcPort.toNat_lt
  have dstPort : beU16At seg.tcpSegment 2 = seg.dstPort := by
    apply UInt16.toNat.inj
    rw [parts]
    exact @beU16At_between (be16 seg.srcPort.toNat) _ 2 _ rfl seg.dstPort.toNat_lt
  have seq : beU32At seg.tcpSegment 4 = seg.seq := by
    rw [parts, ← List.append_assoc]
    exact beU32At_append (be16 seg.srcPort.toNat ++ be16 seg.dstPort.toNat) _ _
  have ack : beU32At seg.tcpSegment 8 = seg.ack := by
    rw [parts, ← List.append_assoc, ← List.append_assoc]
    exact beU32At_append (be16 seg.srcPort.toNat ++ be16 seg.dstPort.toNat ++ be32 seg.seq) _ _
  have window' : beU16At seg.tcpSegment 14 = UInt16.ofNat seg.window := by
    apply UInt16.toNat.inj
    rw [parts, ← List.append_assoc, ← List.append_assoc, ← List.append_assoc, ← List.append_assoc,
      window]
    exact beU16At_between rfl fits
  have payload : seg.tcpSegment.drop seg.tcpHdrLen = seg.payload := by
    unfold tcpSegment
    rw [List.drop_left']
    rw [seg.length_tcpHeader, sendable.length_options]
    rfl
  have options : (seg.tcpSegment.take seg.tcpHdrLen).drop 20 = seg.options.encode := by
    unfold tcpSegment
    rw [List.take_left']
    · rw [seg.tcpHeader_eq]
      rfl
    · rw [seg.length_tcpHeader, sendable.length_options]
      rfl
  unfold tcpParsed received
  rw [sendable.tcpHeaderLen_tcpSegment, srcPort, dstPort, seq, ack, window', payload, options,
    tcpSegment_getD.2]

theorem Sendable.parses (sendable : seg.Sendable) :
    parseSegment seg.tcpSegment seg.srcIp seg.dstIp false = .ok seg.received := by
  have small : seg.tcpCsum seg.payload < 65536 := Nat.lt_succ_of_le (internetChecksum_le _)
  have field : (beU16At seg.tcpSegment 16).toNat = seg.tcpCsum seg.payload := by
    unfold tcpSegment
    rw [seg.tcpHeader_eq, List.append_assoc, List.append_assoc]
    exact beU16At_between seg.length_tcpFront small
  rw [sendable.tcpSound.parseSegment_eq, if_neg, sendable.tcpParsed_tcpSegment]
  rintro ⟨_, differs⟩
  exact differs (sendable.tcpChecksum_tcpSegment.trans field.symm)

/-- The checksums of a segment are right whether the device checked them or not. -/
theorem Sendable.parses_checked (sendable : seg.Sendable) (nicCsumOk : Bool) :
    parseSegment seg.tcpSegment seg.srcIp seg.dstIp nicCsumOk = .ok seg.received := by
  have plain := sendable.parses
  rw [sendable.tcpSound.parseSegment_eq] at plain ⊢
  split at plain
  · cases plain
  · rename_i verified
    rw [if_neg]
    · exact plain
    · rintro ⟨_, differs⟩
      exact verified ⟨rfl, differs⟩

/-! ### The frame -/

/-- A packet that is decoded, with what is read from it. -/
structure Accepted (seg : SegmentTx) (pkt : List UInt8) (ourIp : BitVec 32) : Prop where
  ip : ipDecode pkt ourIp false = .ok
    { protocol := IPPROTO_TCP
      srcIp := seg.srcIp
      dstIp := seg.dstIp
      headerLen := IPV4_HDR_MIN
      totalLen := seg.totalIpLen seg.payload.length
      ttl := 64 }
  tcp : parseSegment ((pkt.take (seg.totalIpLen seg.payload.length)).drop IPV4_HDR_MIN) seg.srcIp
    seg.dstIp false = .ok seg.received
  options : parseOptions seg.received.options = .ok seg.options

theorem Sendable.accepted (sendable : seg.Sendable) (padding : List UInt8) {ourIp : BitVec 32}
    (ours : ourIp = 0#32 ∨ ourIp = seg.dstIp) : seg.Accepted (seg.packet padding) ourIp where
  ip := by
    have decoded := (sendable.wellFormed padding).ipDecode ourIp false
    rw [if_neg, ipHeaderLen_packet, sendable.ipTotalLen_packet,
      (packet_getD padding).2.2.2.1] at decoded
    · exact decoded
    · rintro ⟨given, other⟩
      rcases ours with none | same
      · exact given none
      · exact other same.symm
  tcp := by
    have bytes := sendable.tcpBytes padding
    rw [sendable.ipTotalLen_packet, ipHeaderLen_packet] at bytes
    exact (congrArg (parseSegment · seg.srcIp seg.dstIp false) bytes).trans sendable.parses
  options := by
    have same : { seg.options with wsClamped := false } = seg.options := by
      rw [← sendable.unclamped]
    exact (parse_encode sendable.canonical).trans (congrArg Except.ok same)

end SegmentTx

/-- Whatever may be sent is built, in a buffer that is long enough, and what was built is accepted
with the same fields, options and payload, also ahead of padding. The frame of a retransmission is
the same. -/
theorem frame_round_trip {seg : SegmentTx} (sendable : seg.Sendable) {room : ℕ}
    (enough : ETH_HDR_LEN + IPV4_HDR_MIN + seg.tcpHdrLen + seg.payload.length ≤ room) :
    ∃ frame header, buildSegment seg room = some frame ∧
      buildRetransHeader { seg with payload := [] } seg.payload room = some header ∧
      header ++ seg.payload = frame ∧
      ∀ (padding : List UInt8) (ourIp : BitVec 32), ourIp = 0#32 ∨ ourIp = seg.dstIp →
        seg.Accepted (frame.drop ETH_HDR_LEN ++ padding) ourIp := by
  have fits := sendable.fits
  have short : seg.payload.length ≤ 65535 := by
    unfold SegmentTx.totalIpLen at fits
    omega
  refine ⟨seg.frameWith (seg.totalIpLen seg.payload.length) (seg.ipCsum seg.payload.length)
      (seg.tcpCsum seg.payload) seg.payload,
    seg.frameWith (seg.totalIpLen seg.payload.length) (seg.ipCsum seg.payload.length)
      (seg.tcpCsum seg.payload) [], ?_, ?_, ?_, ?_⟩
  · rw [buildSegment_eq, if_neg (Nat.not_lt.mpr enough), if_neg (Nat.not_lt.mpr fits)]
  · rw [buildRetransHeader_eq, if_neg (Nat.not_lt.mpr short), if_neg (by omega),
      if_neg (Nat.not_lt.mpr fits)]
  · rw [seg.frameWith_append, List.nil_append]
  · intro padding ourIp ours
    have packet : (seg.frameWith (seg.totalIpLen seg.payload.length)
        (seg.ipCsum seg.payload.length) (seg.tcpCsum seg.payload) seg.payload).drop ETH_HDR_LEN ++
          padding = seg.packet padding := by
      rw [seg.drop_ethHeader, List.append_assoc, List.append_assoc]
      rfl
    rw [packet]
    exact sendable.accepted padding ours

/-- A segment with every option and an odd payload. -/
def fullSegment : SegmentTx :=
  { srcMac := Vector.replicate 6 1
    dstMac := Vector.replicate 6 2
    srcIp := 0x0A000001#32
    dstIp := 0x0A000002#32
    srcPort := 40000
    dstPort := 80
    seq := 0xFFFFFFFF#32
    ack := 2000#32
    flags := TCP_ACK ||| TCP_PSH
    window := 65535
    options := fullOpts
    payload := [1, 2, 3] }

theorem fullSegment_sendable : fullSegment.Sendable where
  canonical := ⟨by rintro _ ⟨⟩; decide, by decide, by decide⟩
  unclamped := rfl
  optionsFit := by decide
  noSynFin := by decide
  noRstSyn := by decide
  window := by decide
  fits := by decide

theorem frame_round_trip_full :
    ∃ frame header, buildSegment fullSegment 1514 = some frame ∧
      buildRetransHeader { fullSegment with payload := [] } fullSegment.payload 1514 = some header ∧
      header ++ fullSegment.payload = frame ∧
      ∀ (padding : List UInt8) (ourIp : BitVec 32), ourIp = 0#32 ∨ ourIp = fullSegment.dstIp →
        fullSegment.Accepted (frame.drop ETH_HDR_LEN ++ padding) ourIp :=
  frame_round_trip fullSegment_sendable (by decide)

end DpdkTcp
