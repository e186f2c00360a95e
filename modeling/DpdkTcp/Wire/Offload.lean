import DpdkTcp.Wire.Checksum
import DpdkTcp.Wire.Layout

/-!
# Transmit checksum offload

With the offload active the driver seeds the TCP checksum and the network card adds the
header and the payload to the seed. For the frame of the software path the seed
has to be the sum of the pseudo header; what is written is its complement. The two agree
only where the sum is a representation of zero.
-/

namespace DpdkTcp

/-! ### The network card -/

/-- What the card sends: in each of the two fields the complement of the ones'-complement sum of
the IPv4 header, and of the TCP header with its seed and the payload. -/
def nicTransmit (bytes : List UInt8) : List UInt8 :=
  overwrite
    (overwrite bytes (ETH_HDR_LEN + IPV4_HDR_MIN + 16)
      (be16 (65535 - onesSum (bytes.drop (ETH_HDR_LEN + IPV4_HDR_MIN)))))
    (ETH_HDR_LEN + 10)
    (be16 (65535 - onesSum ((bytes.drop ETH_HDR_LEN).take IPV4_HDR_MIN)))

/-- The frame on the wire after `build_segment` and the rewriting of the checksums. -/
def offloadedFirst (frame : List UInt8) (seg : SegmentTx) : List UInt8 :=
  nicTransmit (txOffloadFinalize frame seg seg.payload.length true)

/-- The frame on the wire after `build_retrans_header`, the rewriting and the chaining of the
payload. -/
def offloadedChained (header : List UInt8) (seg : SegmentTx) : List UInt8 :=
  nicTransmit
    (txOffloadFinalize header { seg with payload := [] } seg.payload.length true ++ seg.payload)

/-- A field with one of the representations of zero. -/
def zeroNormal (field : ℕ) : ℕ :=
  if field = 65535 then 0 else field

/-- A frame with one of the representations of zero in its checksum fields. -/
def zeroNormalFrame (frame : List UInt8) : List UInt8 :=
  overwrite
    (overwrite frame (ETH_HDR_LEN + IPV4_HDR_MIN + 16)
      (be16 (zeroNormal (beU16At frame (ETH_HDR_LEN + IPV4_HDR_MIN + 16)).toNat)))
    (ETH_HDR_LEN + 10) (be16 (zeroNormal (beU16At frame (ETH_HDR_LEN + 10)).toNat))

/-! ### On a frame that is laid out -/

section

variable (seg : SegmentTx) (totalIpLen ipField tcpField : ℕ) (rest : List UInt8)

theorem nicTransmit_frameWith :
    nicTransmit (seg.frameWith totalIpLen ipField tcpField rest) =
      seg.frameWith totalIpLen (65535 - onesSum (seg.ipHeader totalIpLen ipField))
        (65535 - onesSum (seg.tcpHeader tcpField ++ rest)) rest := by
  unfold nicTransmit
  rw [seg.drop_ipHeader, seg.drop_ethHeader, List.take_left' (seg.length_ipHeader _ _),
    seg.overwrite_tcpField, seg.overwrite_ipField]

/-- The value the driver seeds the TCP checksum with. -/
def SegmentTx.seed (seg : SegmentTx) : ℕ :=
  internetChecksum (seg.pseudoHeader (seg.tcpHdrLen + seg.payload.length))

theorem txOffloadFinalize_frameWith (other : SegmentTx)
    (pseudo : other.pseudoHeader (other.tcpHdrLen + seg.payload.length) =
      seg.pseudoHeader (seg.tcpHdrLen + seg.payload.length)) :
    txOffloadFinalize (seg.frameWith totalIpLen ipField tcpField rest) other seg.payload.length
        true = seg.frameWith totalIpLen 0 seg.seed rest := by
  have long : ¬ (seg.frameWith totalIpLen ipField tcpField rest).length < FRAME_HDRS_MIN := by
    unfold SegmentTx.frameWith
    simp only [List.length_append, seg.length_ethHeader, seg.length_ipHeader, seg.length_tcpHeader]
    unfold FRAME_HDRS_MIN
    omega
  have zero : ([0, 0] : List UInt8) = be16 0 := rfl
  unfold txOffloadFinalize txOffloadRewriteCksums
  rw [if_pos rfl, if_neg long, pseudo, zero]
  dsimp only
  rw [seg.overwrite_tcpField, seg.overwrite_ipField]
  rfl

theorem zeroNormalFrame_frameWith (small : ipField < 65536) (small' : tcpField < 65536) :
    zeroNormalFrame (seg.frameWith totalIpLen ipField tcpField rest) =
      seg.frameWith totalIpLen (zeroNormal ipField) (zeroNormal tcpField) rest := by
  have ip : (beU16At (seg.frameWith totalIpLen ipField tcpField rest)
      (ETH_HDR_LEN + 10)).toNat = ipField := by
    rw [seg.frameWith_ip]
    exact beU16At_between (seg.length_ip_front totalIpLen) small
  have tcp : (beU16At (seg.frameWith totalIpLen ipField tcpField rest)
      (ETH_HDR_LEN + IPV4_HDR_MIN + 16)).toNat = tcpField := by
    rw [seg.frameWith_tcp]
    exact beU16At_between (seg.length_tcp_front totalIpLen ipField) small'
  unfold zeroNormalFrame
  rw [ip, tcp, seg.overwrite_tcpField, seg.overwrite_ipField]

/-- Frames that differ in the TCP checksum at most are the same if it is. -/
theorem frameWith_tcp_inj {field : ℕ} (small : tcpField < 65536) (small' : field < 65536) :
    seg.frameWith totalIpLen ipField tcpField rest = seg.frameWith totalIpLen ipField field rest ↔
      tcpField = field := by
  constructor
  · intro same
    rw [seg.frameWith_tcp, seg.frameWith_tcp, List.append_cancel_left_eq] at same
    have fields := (List.append_inj same rfl).1
    exact be16_injective small small' fields
  · rintro rfl
    rfl

end

/-! ### The two checksums -/

theorem zeroNormal_lt {field : ℕ} (small : field ≤ 65535) : zeroNormal field < 65536 := by
  unfold zeroNormal
  split <;> omega

/-- Two fields are the same up to the representation of zero if they agree modulo `65535`. -/
theorem zeroNormal_eq_iff {left right : ℕ} (small : left ≤ 65535) (small' : right ≤ 65535) :
    zeroNormal left = zeroNormal right ↔ left ≡ right [MOD 65535] := by
  unfold zeroNormal Nat.ModEq
  split <;> split <;> omega

theorem TcpOpts.length_encode_le (opts : TcpOpts) : opts.encode.length ≤ 60 := by
  have blocks : opts.liveSackBlocks.length ≤ 4 := by
    rw [TcpOpts.liveSackBlocks, List.length_take, Vector.length_toList]
    exact Nat.min_le_right _ _
  have group : opts.sackGroup.length ≤ 36 := by
    unfold TcpOpts.sackGroup
    split
    · rw [List.length_append, TcpOpts.length_encodeBlocks]
      simp only [List.length_cons, List.length_nil]
      omega
    · exact Nat.zero_le _
  rw [TcpOpts.encode_eq, List.length_append, List.length_append, List.length_append,
    TcpOpts.length_mssGroup, TcpOpts.length_wscaleGroup, TcpOpts.length_timedGroup]
  cases opts.mss <;> cases opts.wscale <;> cases opts.sackPermitted <;> cases opts.timestamps <;>
    simp <;> omega

namespace SegmentTx

variable (seg : SegmentTx)

theorem pseudoHeader_positive (tcpSegLen : ℕ) :
    0 < (wordsOf (seg.pseudoHeader tcpSegLen)).sum := by
  have word : IPPROTO_TCP.toNat = 6 := rfl
  unfold pseudoHeader be32 be16
  simp only [List.cons_append, List.nil_append, wordsOf, List.sum_cons, word]
  omega

theorem tcpCsum_eq (short : seg.payload.length ≤ 65535) :
    seg.tcpCsum seg.payload = 65535 - OnesComplement.reduce 65535
      ((wordsOf (seg.pseudoHeader (seg.tcpHdrLen + seg.payload.length))).sum +
        (wordsOf (seg.tcpHeader 0 ++ seg.payload)).sum) := by
  have options := seg.options.length_encode_le
  have pseudo := seg.length_pseudoHeader (seg.tcpHdrLen + seg.payload.length)
  unfold tcpCsum
  rw [internetChecksum_eq, onesSum_eq, List.append_assoc, wordsOf_append, List.sum_append]
  · rw [pseudo]
  · rw [List.length_append, List.length_append, seg.length_tcpHeader, pseudo]
    unfold TCP_HDR_MIN
    omega

theorem seed_eq : seg.seed = 65535 - OnesComplement.reduce 65535
    (wordsOf (seg.pseudoHeader (seg.tcpHdrLen + seg.payload.length))).sum := by
  unfold seed
  rw [internetChecksum_eq, onesSum_eq]
  rw [seg.length_pseudoHeader]
  decide

/-- A field adds to the sum of the header around it. -/
theorem onesSum_tcpHeader {field : ℕ} (small : field ≤ 65535) (rest : List UInt8) :
    onesSum (seg.tcpHeader field ++ rest) =
      OnesComplement.reduce 65535 ((wordsOf (seg.tcpHeader 0 ++ rest)).sum + field) := by
  have parts : ∀ field, seg.tcpHeader field ++ rest = seg.tcpFront ++
      UInt8.ofNat (field / 256) :: UInt8.ofNat field :: (seg.tcpBack ++ rest) := by
    intro field
    rw [seg.tcpHeader_eq]
    simp only [be16, List.append_assoc, List.cons_append, List.nil_append]
  have value : (UInt8.ofNat (field / 256)).toNat * 256 + (UInt8.ofNat field).toNat = field := by
    rw [UInt8.toNat_ofNat', UInt8.toNat_ofNat']
    omega
  have even : seg.tcpFront.length % 2 = 0 := by rw [seg.length_tcpFront]
  have zero := parts 0
  rw [parts field, onesSum_word even, value, OnesComplement.add_eq_reduce (onesSum_le _) small,
    onesSum_eq, OnesComplement.reduce_add_reduce, zero]
  rfl

theorem onesSum_ipHeader (totalIpLen : ℕ) :
    65535 - onesSum (seg.ipHeader totalIpLen 0) = internetChecksum (seg.ipHeader totalIpLen 0) := by
  rw [internetChecksum_eq]
  rw [seg.length_ipHeader]
  decide

/-- What the card makes of a seeded frame, compared with the software. -/
theorem nicTransmit_same_iff (short : seg.payload.length ≤ 65535) (totalIpLen : ℕ) :
    zeroNormalFrame (nicTransmit (seg.frameWith totalIpLen 0 seg.seed seg.payload)) =
        zeroNormalFrame (seg.frameWith totalIpLen
          (internetChecksum (seg.ipHeader totalIpLen 0)) (seg.tcpCsum seg.payload) seg.payload) ↔
      onesSum (seg.pseudoHeader (seg.tcpHdrLen + seg.payload.length)) = 65535 := by
  have software : seg.tcpCsum seg.payload ≤ 65535 := internetChecksum_le _
  have ip := internetChecksum_le (seg.ipHeader totalIpLen 0)
  have seeded : seg.seed ≤ 65535 := internetChecksum_le _
  have card : 65535 - onesSum (seg.tcpHeader seg.seed ++ seg.payload) ≤ 65535 := Nat.sub_le _ _
  rw [nicTransmit_frameWith, seg.onesSum_ipHeader, zeroNormalFrame_frameWith _ _ _ _ _
      (Nat.lt_succ_of_le ip) (Nat.lt_succ_of_le card),
    zeroNormalFrame_frameWith _ _ _ _ _ (Nat.lt_succ_of_le ip) (Nat.lt_succ_of_le software),
    frameWith_tcp_inj _ _ _ _ _ (zeroNormal_lt card) (zeroNormal_lt software),
    zeroNormal_eq_iff card software, seg.onesSum_tcpHeader seeded, seg.seed_eq,
    seg.tcpCsum_eq short, onesSum_eq, Nat.add_comm (wordsOf (seg.pseudoHeader _)).sum]
  exact OnesComplement.complemented_part_iff rfl (seg.pseudoHeader_positive _)

end SegmentTx

/-- The frame on the wire is the frame of the software path, up to the representation of zero in
its checksums, if and only if the pseudo header adds up to `0xFFFF`: for the first transmission and
for a retransmission that chains the payload behind its header. -/
theorem offload_same_iff {seg : SegmentTx} {room : ℕ} {frame header : List UInt8}
    (built : buildSegment seg room = some frame)
    (rebuilt : buildRetransHeader { seg with payload := [] } seg.payload room = some header) :
    (zeroNormalFrame (offloadedFirst frame seg) = zeroNormalFrame frame ↔
        onesSum (seg.pseudoHeader (seg.tcpHdrLen + seg.payload.length)) = 65535) ∧
      (zeroNormalFrame (offloadedChained header seg) = zeroNormalFrame frame ↔
        onesSum (seg.pseudoHeader (seg.tcpHdrLen + seg.payload.length)) = 65535) := by
  rw [buildSegment_eq] at built
  rw [buildRetransHeader_eq] at rebuilt
  split at built
  · cases built
  split at built
  · cases built
  cases built
  split at rebuilt
  · cases rebuilt
  rename_i short
  split at rebuilt
  · cases rebuilt
  cases rebuilt
  have same := seg.nicTransmit_same_iff (Nat.le_of_not_lt short)
    (seg.totalIpLen seg.payload.length)
  constructor
  · unfold offloadedFirst
    rw [txOffloadFinalize_frameWith seg _ _ _ _ seg rfl]
    exact same
  · unfold offloadedChained
    rw [txOffloadFinalize_frameWith seg _ _ _ _ { seg with payload := [] } rfl,
      seg.frameWith_append, List.nil_append]
    exact same

/-- A bare ACK between two hosts of one network. -/
def bareAck : SegmentTx :=
  { srcMac := Vector.replicate 6 0
    dstMac := Vector.replicate 6 0
    srcIp := 0x0A000001#32
    dstIp := 0x0A000002#32
    srcPort := 40000
    dstPort := 80
    seq := 1000#32
    ack := 2000#32
    flags := TCP_ACK
    window := 1024
    options := {}
    payload := [] }

/-- The frame of the software path. -/
def bareAckFrame : List UInt8 :=
  (buildSegment bareAck 2048).getD []

/-- Three bytes of data to a host whose address makes the pseudo header add up to `0xFFFF`. -/
def evenData : SegmentTx :=
  { bareAck with
    dstIp := 0x0A00EBE1#32
    flags := TCP_ACK ||| TCP_PSH
    payload := [1, 2, 3] }

/-- The same bytes to the other host. -/
def oddData : SegmentTx :=
  { evenData with dstIp := bareAck.dstIp }

/-- What `build_segment` writes. -/
def SegmentTx.softwareFrame (seg : SegmentTx) : List UInt8 :=
  (buildSegment seg 2048).getD []

/-- What `build_retrans_header` writes. -/
def SegmentTx.retransHeader (seg : SegmentTx) : List UInt8 :=
  (buildRetransHeader { seg with payload := [] } seg.payload 2048).getD []

theorem offload_same_iff_evenData :
    (zeroNormalFrame (offloadedFirst evenData.softwareFrame evenData) =
          zeroNormalFrame evenData.softwareFrame ∧
        zeroNormalFrame (offloadedChained evenData.retransHeader evenData) =
          zeroNormalFrame evenData.softwareFrame) ∧
      zeroNormalFrame (offloadedFirst oddData.softwareFrame oddData) ≠
          zeroNormalFrame oddData.softwareFrame ∧
        zeroNormalFrame (offloadedChained oddData.retransHeader oddData) ≠
          zeroNormalFrame oddData.softwareFrame := by
  have even := @offload_same_iff evenData 2048 evenData.softwareFrame evenData.retransHeader rfl rfl
  have odd := @offload_same_iff oddData 2048 oddData.softwareFrame oddData.retransHeader rfl rfl
  have adds : onesSum (evenData.pseudoHeader (evenData.tcpHdrLen + evenData.payload.length)) =
      65535 := by decide +kernel
  have misses : onesSum (oddData.pseudoHeader (oddData.tcpHdrLen + oddData.payload.length)) ≠
      65535 := by decide +kernel
  exact ⟨⟨even.1.mpr adds, even.2.mpr adds⟩, fun same => misses (odd.1.mp same),
    fun same => misses (odd.2.mp same)⟩

/-- The frame on the wire has another checksum. -/
theorem offload_differs :
    ¬ ∀ seg room frame, buildSegment seg room = some frame →
      zeroNormalFrame (offloadedFirst frame seg) = zeroNormalFrame frame := by
  intro agrees
  have same := agrees bareAck 2048 bareAckFrame rfl
  exact absurd same (by decide +kernel)

end DpdkTcp
