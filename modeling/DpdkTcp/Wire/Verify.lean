import DpdkTcp.Route.Frames
import DpdkTcp.Wire.Checksum

/-!
# Software verification of checksums

The receiver computes the checksum anew, its field read as zero, and compares it with
the field. This is the test that all words add up to `0xFFFF`, but for one case: where the
other words add up to `0xFFFF` on their own, the computed value is zero, and a field of
`0xFFFF`, the other representation of zero, is refused.
-/

namespace DpdkTcp

/-! ### A field among words -/

/-- The value of a field computed anew is the field if and only if all words add up to `0xFFFF`,
unless the field and the other words both do. -/
theorem verify_field_iff {front rest : List UInt8} (even : front.length % 2 = 0) (high low : UInt8)
    (short : (front ++ 0 :: 0 :: rest).length ≤ 131072) :
    ((internetChecksum (front ++ 0 :: 0 :: rest) = high.toNat * 256 + low.toNat) ↔
        onesSum (front ++ high :: low :: rest) = 65535) ↔
      ¬ (onesSum (front ++ 0 :: 0 :: rest) = 65535 ∧ high.toNat * 256 + low.toNat = 65535) := by
  have whole := OnesComplement.add_eq_top_iff (onesSum_le (front ++ 0 :: 0 :: rest))
    (word_le high low) (by decide)
  rw [internetChecksum_eq short, onesSum_word even high low rest, whole]
  have small := onesSum_le (front ++ 0 :: 0 :: rest)
  omega

/-- A field of two bytes, between what stands before and behind it. -/
theorem field_split {bytes : List UInt8} {offset : ℕ} (inside : offset + 2 ≤ bytes.length) :
    bytes = bytes.take offset ++
      bytes.getD offset 0 :: bytes.getD (offset + 1) 0 :: bytes.drop (offset + 2) := by
  have first : bytes.drop offset = bytes[offset] :: bytes.drop (offset + 1) :=
    List.drop_eq_getElem_cons (by omega)
  have second : bytes.drop (offset + 1) = bytes[offset + 1] :: bytes.drop (offset + 1 + 1) :=
    List.drop_eq_getElem_cons (by omega)
  have whole := (List.take_append_drop offset bytes).symm
  rw [first, second] at whole
  rw [List.getD_eq_getElem?_getD, List.getD_eq_getElem?_getD,
    List.getElem?_eq_getElem (by omega : offset < bytes.length),
    List.getElem?_eq_getElem (by omega : offset + 1 < bytes.length)]
  exact whole

theorem toNat_beU16At (bytes : List UInt8) (index : ℕ) :
    (beU16At bytes index).toNat =
      (bytes.getD index 0).toNat * 256 + (bytes.getD (index + 1) 0).toNat := by
  have small := word_le (bytes.getD index 0) (bytes.getD (index + 1) 0)
  rw [beU16At, UInt16.toNat_ofNat']
  omega

theorem beU16At_take {bytes : List UInt8} {index count : ℕ} (inside : index + 2 ≤ count) :
    beU16At (bytes.take count) index = beU16At bytes index := by
  simp [beU16At, List.getD_eq_getElem?_getD, (by omega : index < count),
    (by omega : index + 1 < count)]

/-! ### The IPv4 header -/

/-- The checks of `ip_decode` ahead of the checksum. -/
structure IpHeaderSound (pkt : List UInt8) : Prop where
  length : 20 ≤ pkt.length
  version : pkt.getD 0 0 >>> 4 = 4
  headerLen : 20 ≤ ipHeaderLen pkt
  totalLen : ipHeaderLen pkt ≤ ipTotalLen pkt
  complete : ipTotalLen pkt ≤ pkt.length
  unfragmented : flagsFrag pkt &&& 0x3fff#16 = 0#16
  ttl : pkt.getD 8 0 ≠ 0

/-- The checks of `ip_decode` behind the checksum. -/
def ipDecoded (pkt : List UInt8) (ourIp : BitVec 32) : Except L3Drop L3Decoded :=
  if ourIp ≠ 0#32 ∧ beU32At pkt 16 ≠ ourIp then .error .notOurs
  else if pkt.getD 9 0 ≠ IPPROTO_TCP ∧ pkt.getD 9 0 ≠ IPPROTO_ICMP then .error .unsupportedProto
  else
    .ok
      { protocol := pkt.getD 9 0
        srcIp := beU32At pkt 12
        dstIp := beU32At pkt 16
        headerLen := ipHeaderLen pkt
        totalLen := ipTotalLen pkt
        ttl := pkt.getD 8 0 }

theorem IpHeaderSound.ipDecode_eq {pkt : List UInt8} (sound : IpHeaderSound pkt)
    (ourIp : BitVec 32) (nicCsumOk : Bool) :
    ipDecode pkt ourIp nicCsumOk =
      if !nicCsumOk ∧ internetChecksum (checksumScratch (pkt.take (ipHeaderLen pkt))) ≠
          (beU16At pkt 10).toNat then .error .csumBad
      else ipDecoded pkt ourIp := by
  have headerLen := sound.headerLen
  have totalLen := sound.totalLen
  have complete := sound.complete
  have whole := flagsFrag_unfragmented sound.unfragmented
  unfold ipHeaderLen at headerLen totalLen
  unfold ipTotalLen at totalLen complete
  rw [ipDecode, if_neg (Nat.not_lt.mpr sound.length), if_neg (not_not.mpr sound.version)]
  dsimp only
  rw [if_neg (by omega), if_neg (by omega), if_neg, if_neg sound.ttl]
  · rfl
  · rintro (more | offset)
    · exact more whole.1
    · exact offset whole.2

theorem ipDecoded_ne_csumBad (pkt : List UInt8) (ourIp : BitVec 32) :
    ipDecoded pkt ourIp ≠ .error .csumBad := by
  unfold ipDecoded
  split
  · nofun
  · split <;> nofun

theorem checksumScratch_eq {header : List UInt8} (enough : 12 ≤ header.length) :
    checksumScratch header = header.take 10 ++ 0 :: 0 :: header.drop 12 := by
  have ten : (header.take 10).length = 10 := by
    rw [List.length_take, Nat.min_eq_left (by omega)]
  have parts := @field_split header 10 (by omega)
  have zeroed : checksumScratch (header.take 10 ++
      header.getD 10 0 :: header.getD 11 0 :: header.drop 12) =
        header.take 10 ++ 0 :: 0 :: header.drop 12 := by
    unfold checksumScratch
    rw [List.set_append_right _ _ (by omega), List.set_append_right _ _ (by omega), ten]
    rfl
  exact (congrArg checksumScratch parts).trans zeroed

/-- The verification in `ip_decode` is the test that the words of the header add up to `0xFFFF`,
unless the field and the words around it both do. -/
theorem IpHeaderSound.verify_iff {pkt : List UInt8} (sound : IpHeaderSound pkt)
    (ourIp : BitVec 32) :
    ((ipDecode pkt ourIp false ≠ .error .csumBad) ↔
        onesSum (pkt.take (ipHeaderLen pkt)) = 65535) ↔
      ¬ (onesSum (checksumScratch (pkt.take (ipHeaderLen pkt))) = 65535 ∧
        beU16At pkt 10 = 65535) := by
  have totalLen := sound.totalLen
  have complete := sound.complete
  have long := sound.headerLen
  have short : ipHeaderLen pkt ≤ 1020 := by
    have := (pkt.getD 0 0 &&& 0x0f).toNat_lt
    unfold ipHeaderLen
    omega
  have length : (pkt.take (ipHeaderLen pkt)).length = ipHeaderLen pkt := by
    rw [List.length_take, Nat.min_eq_left (by omega)]
  have verified : (ipDecode pkt ourIp false ≠ .error .csumBad) ↔
      internetChecksum (checksumScratch (pkt.take (ipHeaderLen pkt))) =
        (beU16At pkt 10).toNat := by
    rw [sound.ipDecode_eq]
    split
    · rename_i bad
      exact iff_of_false (fun kept => kept rfl) bad.2
    · rename_i good
      refine iff_of_true (ipDecoded_ne_csumBad pkt ourIp) ?_
      by_contra differs
      exact good ⟨rfl, differs⟩
  have field : (beU16At pkt 10).toNat = 65535 ↔ beU16At pkt 10 = 65535 :=
    ⟨fun same => UInt16.toNat.inj same, fun same => congrArg UInt16.toNat same⟩
  rw [verified, ← field, ← @beU16At_take pkt 10 (ipHeaderLen pkt) (by omega)]
  generalize pkt.take (ipHeaderLen pkt) = bytes at length ⊢
  rw [checksumScratch_eq (by omega), toNat_beU16At]
  have parts := @field_split bytes 10 (by omega)
  have even : (bytes.take 10).length % 2 = 0 := by
    rw [List.length_take, Nat.min_eq_left (by omega)]
  have small : (bytes.take 10 ++ 0 :: 0 :: bytes.drop 12).length ≤ 131072 := by
    simp only [List.length_append, List.length_cons, List.length_take, List.length_drop]
    omega
  have verify := verify_field_iff even (bytes.getD 10 0) (bytes.getD 11 0) small
  rw [← parts] at verify
  exact verify

/-! ### The TCP segment -/

/-- The checks of `parse_segment` ahead of the checksum. -/
structure TcpHeaderSound (tcpBytes : List UInt8) : Prop where
  length : 20 ≤ tcpBytes.length
  headerLen : 20 ≤ tcpHeaderLen tcpBytes
  complete : tcpHeaderLen tcpBytes ≤ tcpBytes.length
  noSynFin : ¬ (Flags.has (tcpBytes.getD 13 0).toBitVec TCP_SYN ∧
    Flags.has (tcpBytes.getD 13 0).toBitVec TCP_FIN)
  noRstSyn : ¬ (Flags.has (tcpBytes.getD 13 0).toBitVec TCP_RST ∧
    Flags.has (tcpBytes.getD 13 0).toBitVec TCP_SYN)

/-- What `parse_segment` returns behind its checks. -/
def tcpParsed (tcpBytes : List UInt8) : ParsedSegment :=
  { srcPort := beU16At tcpBytes 0
    dstPort := beU16At tcpBytes 2
    seq := beU32At tcpBytes 4
    ack := beU32At tcpBytes 8
    flags := (tcpBytes.getD 13 0).toBitVec
    window := beU16At tcpBytes 14
    headerLen := tcpHeaderLen tcpBytes
    payload := tcpBytes.drop (tcpHeaderLen tcpBytes)
    options := (tcpBytes.take (tcpHeaderLen tcpBytes)).drop 20 }

theorem TcpHeaderSound.parseSegment_eq {tcpBytes : List UInt8} (sound : TcpHeaderSound tcpBytes)
    (srcIp dstIp : BitVec 32) (nicCsumOk : Bool) :
    parseSegment tcpBytes srcIp dstIp nicCsumOk =
      if !nicCsumOk ∧ tcpChecksum tcpBytes srcIp dstIp ≠ (beU16At tcpBytes 16).toNat then
        .error .csum
      else .ok (tcpParsed tcpBytes) := by
  have headerLen := sound.headerLen
  have complete := sound.complete
  unfold tcpHeaderLen at headerLen complete
  rw [parseSegment, if_neg (Nat.not_lt.mpr sound.length)]
  dsimp only
  rw [if_neg (by omega), if_neg (by omega), if_neg sound.noSynFin, if_neg sound.noRstSyn]
  rfl

/-- The pseudo header of a segment. -/
def pseudoHeaderOf (srcIp dstIp : BitVec 32) (tcpLen : ℕ) : List UInt8 :=
  be32 srcIp ++ be32 dstIp ++ [0, IPPROTO_TCP] ++ be16 (asU16 tcpLen)

/-- The verification in `parse_segment` is the test that the words of the pseudo header and the
segment add up to `0xFFFF`, unless the field and the other words both do. -/
theorem TcpHeaderSound.verify_iff {tcpBytes : List UInt8} (sound : TcpHeaderSound tcpBytes)
    (fits : tcpBytes.length < 65536) (srcIp dstIp : BitVec 32) :
    ((parseSegment tcpBytes srcIp dstIp false ≠ .error .csum) ↔
        onesSum (pseudoHeaderOf srcIp dstIp tcpBytes.length ++ tcpBytes) = 65535) ↔
      ¬ (onesSum (pseudoHeaderOf srcIp dstIp tcpBytes.length ++
          (tcpBytes.take 16 ++ [0, 0] ++ tcpBytes.drop 18)) = 65535 ∧
        beU16At tcpBytes 16 = 65535) := by
  have long := sound.length
  have verified : (parseSegment tcpBytes srcIp dstIp false ≠ .error .csum) ↔
      tcpChecksum tcpBytes srcIp dstIp = (beU16At tcpBytes 16).toNat := by
    rw [sound.parseSegment_eq]
    split
    · rename_i bad
      exact iff_of_false (fun kept => kept rfl) bad.2
    · rename_i good
      refine iff_of_true nofun ?_
      by_contra differs
      exact good ⟨rfl, differs⟩
  have field : (beU16At tcpBytes 16).toNat = 65535 ↔ beU16At tcpBytes 16 = 65535 :=
    ⟨fun same => UInt16.toNat.inj same, fun same => congrArg UInt16.toNat same⟩
  have pseudo : (pseudoHeaderOf srcIp dstIp tcpBytes.length).length = 12 := rfl
  have computed : tcpChecksum tcpBytes srcIp dstIp =
      internetChecksum ((pseudoHeaderOf srcIp dstIp tcpBytes.length ++ tcpBytes.take 16) ++
        0 :: 0 :: tcpBytes.drop 18) := by
    unfold tcpChecksum pseudoHeaderOf
    simp only [List.append_assoc, List.cons_append, List.nil_append]
  rw [verified, ← field, computed, toNat_beU16At]
  generalize pseudoHeaderOf srcIp dstIp tcpBytes.length = front at pseudo ⊢
  have parts := @field_split tcpBytes 16 (by omega)
  have even : (front ++ tcpBytes.take 16).length % 2 = 0 := by
    rw [List.length_append, List.length_take, pseudo, Nat.min_eq_left (by omega)]
  have small : ((front ++ tcpBytes.take 16) ++ 0 :: 0 :: tcpBytes.drop 18).length ≤ 131072 := by
    simp only [List.length_append, List.length_cons, List.length_take, List.length_drop]
    omega
  have verify := verify_field_iff even (tcpBytes.getD 16 0) (tcpBytes.getD 17 0) small
  have whole : (front ++ tcpBytes.take 16) ++
      tcpBytes.getD 16 0 :: tcpBytes.getD 17 0 :: tcpBytes.drop 18 = front ++ tcpBytes := by
    rw [List.append_assoc, ← parts]
  rw [whole] at verify
  simp only [List.append_assoc, List.cons_append, List.nil_append] at verify ⊢
  exact verify

/-! ### Both -/

/-- `ip_decode` and `parse_segment` accept a checksum if and only if all words add up to `0xFFFF`,
unless the field is `0xFFFF` and the other words add up to `0xFFFF` without it. -/
theorem verification_iff {pkt tcpBytes : List UInt8} (ipSound : IpHeaderSound pkt)
    (tcpSound : TcpHeaderSound tcpBytes) (fits : tcpBytes.length < 65536)
    (ourIp srcIp dstIp : BitVec 32) :
    (((ipDecode pkt ourIp false ≠ .error .csumBad) ↔
        onesSum (pkt.take (ipHeaderLen pkt)) = 65535) ↔
      ¬ (onesSum (checksumScratch (pkt.take (ipHeaderLen pkt))) = 65535 ∧
        beU16At pkt 10 = 65535)) ∧
    (((parseSegment tcpBytes srcIp dstIp false ≠ .error .csum) ↔
        onesSum (pseudoHeaderOf srcIp dstIp tcpBytes.length ++ tcpBytes) = 65535) ↔
      ¬ (onesSum (pseudoHeaderOf srcIp dstIp tcpBytes.length ++
          (tcpBytes.take 16 ++ [0, 0] ++ tcpBytes.drop 18)) = 65535 ∧
        beU16At tcpBytes 16 = 65535)) :=
  ⟨ipSound.verify_iff ourIp, tcpSound.verify_iff fits srcIp dstIp⟩

/-- A header whose words but the checksum add up to `0xFFFF`, with a given field. -/
def zeroSumHeader (field : List UInt8) : List UInt8 :=
  [0x45, 0x00, 0x00, 0x14, 0x00, 0x00, 0x40, 0x00, 0x40, 0x06] ++ field ++
    [0x0A, 0x00, 0x00, 0x01, 0x30, 0xE4, 0x00, 0x00]

theorem zeroSumHeader_sound : IpHeaderSound (zeroSumHeader [0xFF, 0xFF]) := by
  constructor <;> decide +kernel

/-- A segment whose words but the checksum add up to `0xFFFF` with the pseudo header of zero
addresses, with a given field. -/
def zeroSumSegment (field : List UInt8) : List UInt8 :=
  [0x00, 0x00, 0x00, 0x00, 0x00, 0x00, 0x00, 0x00, 0x00, 0x00, 0x00, 0x00, 0x50, 0x10, 0xAF, 0xD5] ++
    field ++ [0x00, 0x00]

theorem zeroSumSegment_sound : TcpHeaderSound (zeroSumSegment [0xFF, 0xFF]) := by
  constructor <;> decide +kernel

theorem verification_iff_zero_sum :
    (ipDecode (zeroSumHeader [0xFF, 0xFF]) 0#32 false = .error .csumBad ∧
      onesSum ((zeroSumHeader [0xFF, 0xFF]).take (ipHeaderLen (zeroSumHeader [0xFF, 0xFF]))) =
        65535) ∧
    (((ipDecode (zeroSumHeader [0xFF, 0xFF]) 0#32 false ≠ .error .csumBad) ↔
        onesSum ((zeroSumHeader [0xFF, 0xFF]).take (ipHeaderLen (zeroSumHeader [0xFF, 0xFF]))) =
          65535) ↔
      ¬ (onesSum (checksumScratch
          ((zeroSumHeader [0xFF, 0xFF]).take (ipHeaderLen (zeroSumHeader [0xFF, 0xFF])))) = 65535 ∧
        beU16At (zeroSumHeader [0xFF, 0xFF]) 10 = 65535)) :=
  ⟨⟨by decide +kernel, by decide +kernel⟩,
    (verification_iff zeroSumHeader_sound zeroSumSegment_sound (by decide) 0#32 0#32 0#32).1⟩

/-- Both refuse the second representation of zero. -/
theorem ones_refused :
    ¬ (∀ pkt ourIp, IpHeaderSound pkt →
      ((ipDecode pkt ourIp false ≠ .error .csumBad) ↔
        onesSum (pkt.take (ipHeaderLen pkt)) = 65535)) ∧
    ¬ (∀ tcpBytes srcIp dstIp, TcpHeaderSound tcpBytes → tcpBytes.length < 65536 →
      ((parseSegment tcpBytes srcIp dstIp false ≠ .error .csum) ↔
        onesSum (pseudoHeaderOf srcIp dstIp tcpBytes.length ++ tcpBytes) = 65535)) := by
  constructor
  · intro verifies
    have accepted := (verifies _ 0#32 zeroSumHeader_sound).mpr (by decide +kernel)
    exact accepted (by decide +kernel)
  · intro verifies
    have accepted := (verifies _ 0#32 0#32 zeroSumSegment_sound (by decide)).mpr (by decide +kernel)
    exact accepted (by decide +kernel)

end DpdkTcp
