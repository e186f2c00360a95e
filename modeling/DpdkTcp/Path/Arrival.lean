import DpdkTcp.Model.Link
import DpdkTcp.Neighbour.Refusal
import DpdkTcp.Receive.Integrity
import DpdkTcp.Send.Flow

/-!
# Data frames at their receiver

The frame of a data segment, maybe padded, comes out of the decoders as it went into the builder,
whatever the device says of its checksums. If it is for a connection at all it is for the one with
the mirrored tuple, and its buffer holds the payload where the connection will look for it.
-/

namespace DpdkTcp

open Slice Serial

/-- The frame that `rx_frame` makes of a received chain for `handle_ipv4`. -/
def RxChain.ipv4Frame (chain : RxChain) (olFlags : BitVec 64) : RxFrame :=
  { payload := (mbufDataSliceForRx chain).drop ETH_HDR_LEN
    olFlags := olFlags
    mbuf := some chain.head
    nbSegs := chain.nbSegs
    ethPayloadOffset := ETH_HDR_LEN }

namespace SegmentTx

variable {seg : SegmentTx}

/-- The bytes of a frame with checksums computed in software, and padding. -/
theorem drop_wire (seg : SegmentTx) (padding : List UInt8) :
    (seg.wire false ++ padding).drop ETH_HDR_LEN = seg.packet padding := by
  unfold wire
  rw [seg.frameWith_append, seg.drop_ethHeader]
  rfl

/-- The payload of a frame is behind its headers. -/
theorem Sendable.payload_wire (sendable : seg.Sendable) (offload : Bool) (padding : List UInt8) :
    slice (seg.wire offload ++ padding) (ETH_HDR_LEN + IPV4_HDR_MIN + seg.tcpHdrLen)
      seg.payload.length = seg.payload := by
  have header : ∀ tcpField, (seg.tcpHeader tcpField).length = seg.tcpHdrLen := by
    intro tcpField
    rw [seg.length_tcpHeader, sendable.length_options]
    rfl
  unfold wire
  rw [seg.frameWith_append, slice, ← List.drop_drop, seg.drop_ipHeader, List.drop_left' (header _),
    List.take_left]

end SegmentTx

namespace Station

variable {station : Station} {frame : RxFrame} {handle : ConnHandle} {seg : SegmentTx}
  {parsed : ParsedSegment} {ip : L3Decoded}

/-- What is routed of a packet is the segment it was built for. -/
theorem handleIpv4_received (sendable : seg.Sendable) {padding : List UInt8}
    (carries : frame.payload = seg.packet padding)
    (routed : station.handleIpv4 frame = (.matched handle parsed, some ip)) :
    parsed = seg.received ∧ ip.srcIp = seg.srcIp ∧ ip.dstIp = seg.dstIp ∧
      ip.headerLen = IPV4_HDR_MIN := by
  have formed := sendable.wellFormed padding
  have plain : ∀ nicCsumOk,
      ipDecode (seg.packet padding) station.host.engine.cfg.localIp nicCsumOk = .ok ip →
        ip.srcIp = seg.srcIp ∧ ip.dstIp = seg.dstIp ∧ ip.headerLen = IPV4_HDR_MIN ∧
          ip.totalLen = DpdkTcp.ipTotalLen (seg.packet padding) := by
    intro nicCsumOk decoded
    rw [formed.ipDecode] at decoded
    split at decoded
    · cases decoded
    · cases decoded
      exact ⟨rfl, rfl, SegmentTx.ipHeaderLen_packet padding, rfl⟩
  have lengths : ipDecodeOffloadAware (seg.packet padding) station.host.engine.cfg.localIp
      frame.olFlags station.rxCksumOffloadActive = .ok ip →
        ip.srcIp = seg.srcIp ∧ ip.dstIp = seg.dstIp ∧ ip.headerLen = IPV4_HDR_MIN ∧
          ip.totalLen = DpdkTcp.ipTotalLen (seg.packet padding) := by
    intro decoded
    unfold ipDecodeOffloadAware at decoded
    split at decoded
    · exact plain false decoded
    · split at decoded
      · exact plain true decoded
      · cases decoded
      · exact plain false decoded
      · exact plain false decoded
  cases decoded : ipDecodeOffloadAware (seg.packet padding) station.host.engine.cfg.localIp
    frame.olFlags station.rxCksumOffloadActive with
  | error reason =>
      simp only [handleIpv4, carries, decoded] at routed
      cases routed
  | ok found =>
      simp only [handleIpv4, carries, decoded] at routed
      by_cases tcp : found.protocol = IPPROTO_TCP
      · rw [if_pos tcp] at routed
        rcases Prod.mk.inj routed with ⟨matched, same⟩
        cases same
        rcases lengths decoded with ⟨srcIp, dstIp, headerLen, totalLen⟩
        rcases (routeTcp_matched matched).1 with ⟨nicCsumOk, parses⟩
        have bytes : ((seg.packet padding).take ip.totalLen).drop ip.headerLen = seg.tcpSegment := by
          rw [totalLen, headerLen, IPV4_HDR_MIN, ← SegmentTx.ipHeaderLen_packet padding]
          exact sendable.tcpBytes padding
        rw [bytes, srcIp, dstIp, sendable.parses_checked] at parses
        exact ⟨(Except.ok.inj parses).symm, srcIp, dstIp, headerLen⟩
      · rw [if_neg tcp] at routed
        cases routed

/-- The buffer of a frame that came in one piece holds the payload. -/
theorem mbufCtx_backs (sendable : seg.Sendable) {chain : RxChain} {offload : Bool}
    {padding : List UInt8} (carries : mbufDataSliceForRx chain = seg.wire offload ++ padding)
    (headerLen : ip.headerLen = IPV4_HDR_MIN) (olFlags : BitVec 64) {ctx : MbufInsertCtx}
    (given : mbufCtx (chain.ipv4Frame olFlags) ip seg.received = some ctx) :
    ctx.next = [] ∧ ctx.Backs seg.payload := by
  have few := sendable.optionsFit
  have length : seg.tcpHdrLen = 20 + seg.options.encodedLen := rfl
  dsimp only [mbufCtx, RxChain.ipv4Frame, Option.bind_some] at given
  split at given
  · rename_i single
    cases given
    have one : chain.nbSegs = 1 := by simpa using (Bool.and_eq_true_iff.mp single).2
    have bytes : chain.head.data = seg.wire offload ++ padding := by
      rw [← carries, mbufDataSliceForRx, if_pos one.le]
    have offset : min (min (ETH_HDR_LEN + asU16 ip.headerLen) 65535 +
        asU16 seg.received.headerLen) 65535 = ETH_HDR_LEN + IPV4_HDR_MIN + seg.tcpHdrLen := by
      rw [headerLen]
      dsimp only [SegmentTx.received]
      rw [asU16_of_lt (by decide), asU16_of_lt (by omega)]
      unfold ETH_HDR_LEN IPV4_HDR_MIN
      omega
    refine ⟨rfl, ?_⟩
    dsimp only [MbufInsertCtx.Backs]
    rw [offset, bytes]
    exact sendable.payload_wire offload padding
  · cases given

end Station

end DpdkTcp
