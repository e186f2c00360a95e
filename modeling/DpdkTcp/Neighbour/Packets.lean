import DpdkTcp.Lib.Slice
import DpdkTcp.Wire.FrameTrip
import DpdkTcp.Model.Node

/-!
# ARP packets on the wire

`arp_decode` accepts exactly the bytes `write_arp_body` writes for a request or a reply,
whatever stands behind them. A built frame is a whole Ethernet frame: `l2_decode` hands it
over as ARP where its destination lets it in, and its payload decodes to the packet.
-/

namespace DpdkTcp

open Slice

/-! ### Fields -/

section Fields

variable {bytes : List UInt8} {index : ℕ}

/-- The bytes from an index on, one by one. -/
theorem slice_eq_ofFn {count : ℕ} (inside : index + count ≤ bytes.length) :
    slice bytes index count = List.ofFn fun i : Fin count => bytes.getD (index + i.val) 0 := by
  apply List.ext_getElem
  · rw [length_slice_of_le inside, List.length_ofFn]
  · intro i bound bound'
    rw [List.length_ofFn] at bound'
    simp only [slice, List.getElem_take, List.getElem_drop, List.getElem_ofFn]
    rw [List.getD_eq_getElem?_getD, List.getElem?_eq_getElem (by omega), Option.getD_some]

/-- A 16-bit field is written back as it was read. -/
theorem be16_beU16At (inside : index + 2 ≤ bytes.length) :
    be16 (beU16At bytes index).toNat = slice bytes index 2 := by
  have cells : slice bytes index 2 = [bytes.getD index 0, bytes.getD (index + 1) 0] :=
    slice_eq_ofFn inside
  have high := (bytes.getD index 0).toNat_lt
  have low := (bytes.getD (index + 1) 0).toNat_lt
  rw [cells, be16, beU16At, UInt16.toNat_ofNat']
  simp only [List.cons.injEq, and_true]
  constructor <;> apply UInt8.toNat.inj <;> rw [UInt8.toNat_ofNat'] <;> omega

theorem be32_beU32At (inside : index + 4 ≤ bytes.length) :
    be32 (beU32At bytes index) = slice bytes index 4 := by
  have cells : slice bytes index 4 = [bytes.getD index 0, bytes.getD (index + 1) 0,
      bytes.getD (index + 2) 0, bytes.getD (index + 3) 0] :=
    slice_eq_ofFn inside
  have first := (bytes.getD index 0).toNat_lt
  have second := (bytes.getD (index + 1) 0).toNat_lt
  have third := (bytes.getD (index + 2) 0).toNat_lt
  have fourth := (bytes.getD (index + 3) 0).toNat_lt
  rw [cells, be32, beU32At, BitVec.toNat_ofNat]
  simp only [List.cons.injEq, and_true]
  refine ⟨?_, ?_, ?_, ?_⟩ <;> apply UInt8.toNat.inj <;> rw [UInt8.toNat_ofNat'] <;> omega

theorem toList_macAt (inside : index + 6 ≤ bytes.length) :
    (macAt bytes index).toList = slice bytes index 6 := by
  rw [slice_eq_ofFn inside, macAt, Vector.toList_ofFn]

/-- An address, read where it was written. -/
theorem macAt_between {front rest : List UInt8} (mac : Vector UInt8 6)
    (position : front.length = index) :
    macAt (front ++ (mac.toList ++ rest)) index = mac := by
  subst position
  apply Vector.toList_inj.mp
  rw [toList_macAt (by simp), slice, List.drop_left, List.take_left' (by simp)]

end Fields

/-! ### Packets -/

namespace ArpPacket

/-- The operations that are decoded. -/
def Known (pkt : ArpPacket) : Prop :=
  pkt.op = ARP_OP_REQUEST ∨ pkt.op = ARP_OP_REPLY

end ArpPacket

section Packets

variable {pkt : ArpPacket}

theorem length_writeArpBody (pkt : ArpPacket) : (writeArpBody pkt).length = ARP_HDR_LEN := by
  unfold writeArpBody ARP_HDR_LEN
  simp only [List.length_append, length_be16, length_be32, Vector.length_toList, List.length_cons,
    List.length_nil]

/-- A written packet is read back, whatever follows it. -/
theorem arpDecode_writeArpBody (known : pkt.Known) (rest : List UInt8) :
    arpDecode (writeArpBody pkt ++ rest) = .ok pkt := by
  have long : ¬ (writeArpBody pkt ++ rest).length < ARP_HDR_LEN := by
    rw [List.length_append, length_writeArpBody]
    omega
  have htype : beU16At (writeArpBody pkt ++ rest) 0 = ARP_HTYPE_ETH := by
    apply UInt16.toNat.inj
    unfold writeArpBody
    simp only [List.append_assoc]
    exact @beU16At_between [] _ 0 _ rfl (by decide)
  have ptype : beU16At (writeArpBody pkt ++ rest) 2 = ARP_PTYPE_IPV4 := by
    apply UInt16.toNat.inj
    unfold writeArpBody
    simp only [List.append_assoc]
    exact beU16At_between rfl (by decide)
  have op : beU16At (writeArpBody pkt ++ rest) 6 = pkt.op := by
    apply UInt16.toNat.inj
    unfold writeArpBody
    simp only [List.append_assoc]
    exact beU16At_between rfl pkt.op.toNat_lt
  have senderMac : macAt (writeArpBody pkt ++ rest) 8 = pkt.senderMac := by
    unfold writeArpBody
    rw [List.append_assoc, List.append_assoc, List.append_assoc, List.append_assoc]
    exact macAt_between pkt.senderMac rfl
  have senderIp : beU32At (writeArpBody pkt ++ rest) 14 = pkt.senderIp := by
    unfold writeArpBody
    rw [List.append_assoc, List.append_assoc, List.append_assoc]
    convert beU32At_append _ _ _ using 2
    simp [length_be16]
  have targetMac : macAt (writeArpBody pkt ++ rest) 18 = pkt.targetMac := by
    unfold writeArpBody
    rw [List.append_assoc, List.append_assoc]
    exact macAt_between pkt.targetMac (by simp [length_be16, length_be32])
  have targetIp : beU32At (writeArpBody pkt ++ rest) 24 = pkt.targetIp := by
    unfold writeArpBody
    rw [List.append_assoc]
    convert beU32At_append _ _ _ using 2
    simp [length_be16, length_be32]
  have hardware : ¬ (ARP_HTYPE_ETH ≠ ARP_HTYPE_ETH ∨ (writeArpBody pkt ++ rest).getD 4 0 ≠ 6) := by
    rintro (wrong | wrong) <;> exact wrong rfl
  have protocol : ¬ (ARP_PTYPE_IPV4 ≠ ARP_PTYPE_IPV4 ∨ (writeArpBody pkt ++ rest).getD 5 0 ≠ 4) := by
    rintro (wrong | wrong) <;> exact wrong rfl
  have operation : ¬ (pkt.op ≠ ARP_OP_REQUEST ∧ pkt.op ≠ ARP_OP_REPLY) := by
    rintro ⟨notRequest, notReply⟩
    exact known.elim notRequest notReply
  unfold arpDecode
  dsimp only
  rw [if_neg long, htype, ptype, if_neg hardware, if_neg protocol, op, if_neg operation, senderMac, senderIp,
    targetMac, targetIp]

/-- What is decoded was written: the fields are laid out as the builder lays them out. -/
theorem writeArpBody_of_arpDecode {bytes : List UInt8} (decoded : arpDecode bytes = .ok pkt) :
    pkt.Known ∧ writeArpBody pkt = bytes.take ARP_HDR_LEN := by
  unfold arpDecode at decoded
  dsimp only at decoded
  split at decoded
  · cases decoded
  · rename_i long
    split at decoded
    · cases decoded
    · rename_i hardware
      split at decoded
      · cases decoded
      · rename_i protocol
        split at decoded
        · cases decoded
        · rename_i operation
          cases decoded
          unfold ARP_HDR_LEN at long ⊢
          rw [not_or, not_not, not_not] at hardware protocol
          refine ⟨by rwa [ArpPacket.Known, or_iff_not_and_not], ?_⟩
          have sizes : [(6 : UInt8), 4] = slice bytes 4 2 := by
            have cells : slice bytes 4 2 = [bytes.getD 4 0, bytes.getD 5 0] :=
              slice_eq_ofFn (by omega)
            rw [cells, hardware.2, protocol.2]
          unfold writeArpBody
          rw [← hardware.1, ← protocol.1, sizes, be16_beU16At (by omega), be16_beU16At (by omega),
            be16_beU16At (by omega), toList_macAt (by omega), toList_macAt (by omega),
            be32_beU32At (by omega), be32_beU32At (by omega), slice_append_slice,
            slice_append_slice, slice_append_slice, slice_append_slice, slice_append_slice,
            slice_append_slice, slice_append_slice]
          rfl

/-- `arp_decode` accepts exactly the requests and replies that `write_arp_body` writes, in front of
any padding, and gives the packet back. -/
theorem arp_accepted_iff (bytes : List UInt8) (pkt : ArpPacket) :
    arpDecode bytes = .ok pkt ↔ pkt.Known ∧ ∃ padding, bytes = writeArpBody pkt ++ padding := by
  constructor
  · intro decoded
    rcases writeArpBody_of_arpDecode decoded with ⟨known, written⟩
    exact ⟨known, bytes.drop ARP_HDR_LEN, by rw [written, List.take_append_drop]⟩
  · rintro ⟨known, padding, rfl⟩
    exact arpDecode_writeArpBody known padding

end Packets

/-! ### Frames -/

/-- The frame the builders write, from its destination on. -/
def arpFrame (dstMac : Vector UInt8 6) (pkt : ArpPacket) : List UInt8 :=
  dstMac.toList ++ (pkt.senderMac.toList ++ (be16 0x0806 ++
    (writeArpBody pkt ++ List.replicate ARP_PAD_LEN 0)))

variable (dstMac : Vector UInt8 6) (pkt : ArpPacket)

theorem length_arpFrame : (arpFrame dstMac pkt).length = ARP_FRAME_LEN := by
  unfold arpFrame ARP_FRAME_LEN
  simp only [List.length_append, length_writeArpBody, Vector.length_toList, length_be16,
    List.length_replicate]
  omega

/-- Into a buffer with room for it the builders write a frame, and leave the rest. -/
theorem buildArpFrame_eq {out : List UInt8} (room : ARP_FRAME_LEN ≤ out.length) :
    buildArpFrame dstMac pkt out =
      some (arpFrame dstMac pkt ++ out.drop ARP_FRAME_LEN, ARP_FRAME_LEN) := by
  have length := length_arpFrame dstMac pkt
  unfold buildArpFrame
  rw [if_neg (by omega)]
  simp only [overwrite, List.take_zero, List.nil_append, Nat.zero_add, List.append_assoc]
  simp only [arpFrame] at length
  rw [length]
  simp only [arpFrame, List.append_assoc]

theorem txFrame_eq (accepted : Bool) :
    Node.txFrame (buildArpFrame dstMac pkt) accepted =
      if accepted then [arpFrame dstMac pkt] else [] := by
  unfold Node.txFrame
  rw [buildArpFrame_eq dstMac pkt (by simp)]
  simp

theorem ethertype_arpFrame : beU16At (arpFrame dstMac pkt) 12 = ETHERTYPE_ARP := by
  apply UInt16.toNat.inj
  unfold arpFrame
  rw [← List.append_assoc]
  exact beU16At_between (by simp) (by decide)

/-- Whether a device with this address takes a frame with that destination. -/
def letsIn (ourMac dstMac : Vector UInt8 6) : Prop :=
  dstMac = BROADCAST_MAC ∨ dstMac = ourMac ∨ ourMac = ZERO_MAC

/-- `l2_decode` hands over every frame of a known type that is let in. -/
theorem l2Decode_frame {ourMac dstMac srcMac : Vector UInt8 6} {ethertype : UInt16}
    (enters : letsIn ourMac dstMac) (known : ethertype = ETHERTYPE_IPV4 ∨ ethertype = ETHERTYPE_ARP)
    (rest : List UInt8) :
    l2Decode (dstMac.toList ++ (srcMac.toList ++ (be16 ethertype.toNat ++ rest))) ourMac =
      .ok ⟨ethertype, srcMac.toList, dstMac.toList, ETH_HDR_LEN⟩ := by
  have long : ¬ (dstMac.toList ++ (srcMac.toList ++ (be16 ethertype.toNat ++ rest))).length <
      ETH_HDR_LEN := by
    simp only [List.length_append, Vector.length_toList, length_be16, ETH_HDR_LEN]
    omega
  have dst : (dstMac.toList ++ (srcMac.toList ++ (be16 ethertype.toNat ++ rest))).take 6 =
      dstMac.toList := List.take_left' (by simp)
  have src : ((dstMac.toList ++ (srcMac.toList ++ (be16 ethertype.toNat ++ rest))).drop 6).take 6 =
      srcMac.toList := by
    rw [List.drop_left' (by simp), List.take_left' (by simp)]
  have field : beU16At (dstMac.toList ++ (srcMac.toList ++ (be16 ethertype.toNat ++ rest))) 12 =
      ethertype := by
    apply UInt16.toNat.inj
    rw [← List.append_assoc]
    exact beU16At_between (by simp) ethertype.toNat_lt
  have mine : (dstMac.toList == BROADCAST_MAC.toList ||
      (ourMac != Vector.replicate 6 0 && dstMac.toList == ourMac.toList) ||
      ourMac == Vector.replicate 6 0) = true := by
    rcases enters with rfl | rfl | rfl
    · simp
    · by_cases zero : dstMac = Vector.replicate 6 0 <;> simp [zero]
    · simp [ZERO_MAC]
  have taken : ¬ (ethertype ≠ ETHERTYPE_IPV4 ∧ ethertype ≠ ETHERTYPE_ARP) := by
    rintro ⟨notIpv4, notArp⟩
    exact known.elim notIpv4 notArp
  unfold l2Decode
  rw [if_neg long]
  dsimp only
  rw [dst, src, field, mine, if_neg (by decide), if_neg taken]

theorem l2Decode_arpFrame {ourMac : Vector UInt8 6} (enters : letsIn ourMac dstMac)
    (padding : List UInt8) :
    l2Decode (arpFrame dstMac pkt ++ padding) ourMac =
      .ok ⟨ETHERTYPE_ARP, pkt.senderMac.toList, dstMac.toList, ETH_HDR_LEN⟩ := by
  unfold arpFrame
  rw [List.append_assoc, List.append_assoc, List.append_assoc]
  exact l2Decode_frame enters (.inr rfl) _

/-- The payload of a frame is the packet and its padding. -/
theorem drop_arpFrame :
    (arpFrame dstMac pkt).drop ETH_HDR_LEN = writeArpBody pkt ++ List.replicate ARP_PAD_LEN 0 := by
  unfold arpFrame
  rw [← List.append_assoc, ← List.append_assoc]
  exact List.drop_left' (by simp [length_be16, ETH_HDR_LEN])

end DpdkTcp
