import DpdkTcp.Codec.Encode

/-!
# The layout of a frame

A frame with given checksum fields: where the fields stand, what is before and behind them, and
what overwriting one of them leaves.
-/

namespace DpdkTcp

/-- Bytes overwritten by as many others. -/
theorem overwrite_between {front old bytes rest : List UInt8} {offset : ℕ}
    (position : front.length = offset) (same : old.length = bytes.length) :
    overwrite (front ++ (old ++ rest)) offset bytes = front ++ (bytes ++ rest) := by
  subst position
  unfold overwrite
  rw [List.take_left', ← same, ← List.drop_drop]
  · rw [List.drop_left, List.drop_left, List.append_assoc]
  · rfl

theorem be16_injective {left right : ℕ} (small : left < 65536) (small' : right < 65536)
    (same : be16 left = be16 right) : left = right := by
  unfold be16 at same
  rcases List.cons.inj same with ⟨high, low⟩
  have high' := congrArg UInt8.toNat high
  have low' := congrArg UInt8.toNat (List.cons.inj low).1
  rw [UInt8.toNat_ofNat', UInt8.toNat_ofNat'] at high' low'
  omega

/-- A 16-bit field, read where it was written. -/
theorem beU16At_between {front rest : List UInt8} {offset field : ℕ}
    (position : front.length = offset) (small : field < 65536) :
    (beU16At (front ++ (be16 field ++ rest)) offset).toNat = field := by
  subst position
  have first : (front ++ (be16 field ++ rest)).getD front.length 0 = UInt8.ofNat (field / 256) := by
    simp [List.getD_eq_getElem?_getD, be16]
  have second : (front ++ (be16 field ++ rest)).getD (front.length + 1) 0 = UInt8.ofNat field := by
    simp [List.getD_eq_getElem?_getD, be16]
  rw [beU16At, first, second, UInt16.toNat_ofNat', UInt8.toNat_ofNat', UInt8.toNat_ofNat']
  omega

namespace SegmentTx

variable (seg : SegmentTx)

theorem length_ethHeader : seg.ethHeader.length = ETH_HDR_LEN := by
  unfold ethHeader
  simp [ETH_HDR_LEN]

theorem length_ipHeader (totalIpLen checksum : ℕ) :
    (seg.ipHeader totalIpLen checksum).length = IPV4_HDR_MIN :=
  rfl

theorem length_tcpHeader (checksum : ℕ) :
    (seg.tcpHeader checksum).length = TCP_HDR_MIN + seg.options.encode.length := by
  unfold tcpHeader TCP_HDR_MIN
  simp only [List.length_append, List.length_cons, List.length_nil, length_be16, length_be32]

theorem length_pseudoHeader (tcpSegLen : ℕ) : (seg.pseudoHeader tcpSegLen).length = 12 :=
  rfl

/-- The IPv4 header ahead of its checksum. -/
def ipFront (totalIpLen : ℕ) : List UInt8 :=
  [0x45, 0x00] ++ be16 totalIpLen ++ [0x00, 0x00, 0x40, 0x00, 64, IPPROTO_TCP]

/-- The IPv4 header behind its checksum. -/
def ipBack : List UInt8 :=
  be32 seg.srcIp ++ be32 seg.dstIp

theorem ipHeader_eq (totalIpLen checksum : ℕ) :
    seg.ipHeader totalIpLen checksum = ipFront totalIpLen ++ (be16 checksum ++ seg.ipBack) := by
  unfold ipHeader ipFront ipBack
  simp only [List.append_assoc]

/-- The TCP header ahead of its checksum. -/
def tcpFront : List UInt8 :=
  be16 seg.srcPort.toNat ++ be16 seg.dstPort.toNat ++ be32 seg.seq ++ be32 seg.ack ++
    [UInt8.ofNat (seg.tcpHdrLen / 4 * 16), UInt8.ofBitVec seg.flags] ++ be16 seg.window

/-- The TCP header behind its checksum. -/
def tcpBack : List UInt8 :=
  [0, 0] ++ seg.options.encode

theorem length_tcpFront : seg.tcpFront.length = 16 :=
  rfl

theorem tcpHeader_eq (checksum : ℕ) :
    seg.tcpHeader checksum = seg.tcpFront ++ (be16 checksum ++ seg.tcpBack) := by
  unfold tcpHeader tcpFront tcpBack
  simp only [List.append_assoc]

/-- A frame with given checksum fields, and what follows its headers. -/
def frameWith (totalIpLen ipField tcpField : ℕ) (rest : List UInt8) : List UInt8 :=
  seg.ethHeader ++ seg.ipHeader totalIpLen ipField ++ seg.tcpHeader tcpField ++ rest

variable (totalIpLen ipField tcpField : ℕ) (rest : List UInt8)

theorem frameWith_append (more : List UInt8) :
    seg.frameWith totalIpLen ipField tcpField rest ++ more =
      seg.frameWith totalIpLen ipField tcpField (rest ++ more) :=
  List.append_assoc ..

/-- The IPv4 packet in a frame. -/
theorem drop_ethHeader :
    (seg.frameWith totalIpLen ipField tcpField rest).drop ETH_HDR_LEN =
      seg.ipHeader totalIpLen ipField ++ (seg.tcpHeader tcpField ++ rest) := by
  unfold frameWith
  rw [← seg.length_ethHeader, List.append_assoc, List.append_assoc, List.drop_left]

/-- The TCP segment in a frame. -/
theorem drop_ipHeader :
    (seg.frameWith totalIpLen ipField tcpField rest).drop (ETH_HDR_LEN + IPV4_HDR_MIN) =
      seg.tcpHeader tcpField ++ rest := by
  rw [← List.drop_drop, drop_ethHeader, ← seg.length_ipHeader totalIpLen ipField, List.drop_left]

/-- The frame around its IPv4 checksum. -/
theorem frameWith_ip :
    seg.frameWith totalIpLen ipField tcpField rest = (seg.ethHeader ++ ipFront totalIpLen) ++
      (be16 ipField ++ (seg.ipBack ++ (seg.tcpHeader tcpField ++ rest))) := by
  unfold frameWith
  rw [ipHeader_eq]
  simp only [List.append_assoc]

/-- The frame around its TCP checksum. -/
theorem frameWith_tcp :
    seg.frameWith totalIpLen ipField tcpField rest =
      (seg.ethHeader ++ (seg.ipHeader totalIpLen ipField ++ seg.tcpFront)) ++
        (be16 tcpField ++ (seg.tcpBack ++ rest)) := by
  unfold frameWith
  rw [tcpHeader_eq]
  simp only [List.append_assoc]

theorem length_ip_front : (seg.ethHeader ++ ipFront totalIpLen).length = ETH_HDR_LEN + 10 := by
  rw [List.length_append, length_ethHeader]
  rfl

theorem length_tcp_front :
    (seg.ethHeader ++ (seg.ipHeader totalIpLen ipField ++ seg.tcpFront)).length =
      ETH_HDR_LEN + IPV4_HDR_MIN + 16 := by
  rw [List.length_append, List.length_append, length_ethHeader, length_ipHeader, length_tcpFront,
    Nat.add_assoc]

theorem overwrite_ipField (field : ℕ) :
    overwrite (seg.frameWith totalIpLen ipField tcpField rest) (ETH_HDR_LEN + 10) (be16 field) =
      seg.frameWith totalIpLen field tcpField rest := by
  have same : (be16 ipField).length = (be16 field).length := rfl
  rw [frameWith_ip, overwrite_between (seg.length_ip_front totalIpLen) same, ← frameWith_ip]

theorem overwrite_tcpField (field : ℕ) :
    overwrite (seg.frameWith totalIpLen ipField tcpField rest) (ETH_HDR_LEN + IPV4_HDR_MIN + 16)
        (be16 field) = seg.frameWith totalIpLen ipField field rest := by
  have same : (be16 tcpField).length = (be16 field).length := rfl
  rw [frameWith_tcp, overwrite_between (seg.length_tcp_front totalIpLen ipField) same,
    ← frameWith_tcp]

end SegmentTx

/-! ### What is built -/

/-- The length of a TCP segment whose declared payload is as given. -/
def SegmentTx.totalIpLen (seg : SegmentTx) (declaredPayloadLen : ℕ) : ℕ :=
  IPV4_HDR_MIN + seg.tcpHdrLen + declaredPayloadLen

/-- The checksums computed in software. -/
def SegmentTx.ipCsum (seg : SegmentTx) (declaredPayloadLen : ℕ) : ℕ :=
  internetChecksum (seg.ipHeader (seg.totalIpLen declaredPayloadLen) 0)

/-- The TCP checksum of the software path. -/
def SegmentTx.tcpCsum (seg : SegmentTx) (payload : List UInt8) : ℕ :=
  internetChecksum
    (seg.pseudoHeader (seg.tcpHdrLen + payload.length) ++ seg.tcpHeader 0 ++ payload)

/-- `build_segment` lays the frame out with both checksums. -/
theorem buildSegment_eq (seg : SegmentTx) (room : ℕ) :
    buildSegment seg room =
      if room < ETH_HDR_LEN + IPV4_HDR_MIN + seg.tcpHdrLen + seg.payload.length then none
      else if 65535 < seg.totalIpLen seg.payload.length then none
      else
        some (seg.frameWith (seg.totalIpLen seg.payload.length) (seg.ipCsum seg.payload.length)
          (seg.tcpCsum seg.payload) seg.payload) :=
  rfl

/-- `build_retrans_header` lays out the same headers without the payload. -/
theorem buildRetransHeader_eq (seg : SegmentTx) (room : ℕ) :
    buildRetransHeader { seg with payload := [] } seg.payload room =
      if 65535 < seg.payload.length then none
      else if room < ETH_HDR_LEN + IPV4_HDR_MIN + seg.tcpHdrLen then none
      else if 65535 < seg.totalIpLen seg.payload.length then none
      else
        some (seg.frameWith (seg.totalIpLen seg.payload.length) (seg.ipCsum seg.payload.length)
          (seg.tcpCsum seg.payload) []) :=
  rfl

end DpdkTcp
