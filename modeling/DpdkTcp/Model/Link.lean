import DpdkTcp.Model.Ip
import DpdkTcp.Model.Poll

/-!
# From the device to a packet

The bytes of a received frame, which may come in a chain of buffers, and the
Ethernet decoder of `l2.rs`. ARP and frames that are dropped leave the
connections alone.
-/

namespace DpdkTcp

/-- The type of a frame with an IPv4 packet. -/
def ETHERTYPE_IPV4 : UInt16 := 0x0800

/-- The type of a frame with an ARP packet. -/
def ETHERTYPE_ARP : UInt16 := 0x0806

/-- The address of all devices. -/
def BROADCAST_MAC : Vector UInt8 6 := Vector.replicate 6 0xff

/-- What `l2_decode` reads from an Ethernet header. -/
structure L2Decoded where
  ethertype : UInt16
  srcMac : List UInt8
  dstMac : List UInt8
  payloadOffset : ℕ
deriving DecidableEq, Repr

/-- Why a frame is dropped. -/
inductive L2Drop where
  | short
  | missMac
  | unknownEthertype
deriving DecidableEq, Repr

/-- `l2_decode`. The address zero accepts any destination. -/
def l2Decode (frame : List UInt8) (ourMac : Vector UInt8 6) : Except L2Drop L2Decoded :=
  if frame.length < ETH_HDR_LEN then .error .short
  else
    let dst := frame.take 6
    let src := (frame.drop 6).take 6
    let ethertype := beU16At frame 12
    let isBroadcast := dst == BROADCAST_MAC.toList
    let isUs := ourMac != Vector.replicate 6 0 && dst == ourMac.toList
    let isAny := ourMac == Vector.replicate 6 0
    if !(isBroadcast || isUs || isAny) then .error .missMac
    else if ethertype ≠ ETHERTYPE_IPV4 ∧ ethertype ≠ ETHERTYPE_ARP then .error .unknownEthertype
    else
      .ok { ethertype := ethertype, srcMac := src, dstMac := dst, payloadOffset := ETH_HDR_LEN }

namespace RxChain

/-- The number of buffers of a chain. -/
def nbSegs (chain : RxChain) : ℕ :=
  chain.next.length + 1

/-- `pkt_len`: the device keeps it at the sum of the `data_len` of the links. -/
def pktLen (chain : RxChain) : ℕ :=
  ((chain.head :: chain.next).map fun link => link.data.length).sum

end RxChain

/-- The copy loop of `mbuf_data_slice_for_rx`, over at most `nb_segs` links. -/
def linearize (total : ℕ) : List RxMbuf → (written : List UInt8) → List UInt8
  | [], written => written
  | link :: rest, written =>
      if written.length < total then
        linearize total rest (written ++ link.data.take (total - written.length))
      else written

/-- `mbuf_data_slice_for_rx`: one buffer is borrowed, a chain is copied. -/
def mbufDataSliceForRx (chain : RxChain) : List UInt8 :=
  if chain.nbSegs ≤ 1 then chain.head.data
  else linearize chain.pktLen (chain.head :: chain.next) []

namespace Engine

/-- What `tcp_input` returns: the payload bytes accepted from a segment. -/
def acceptedBytes (engine : Engine) (handle : ConnHandle) (seg : ParsedSegment)
    (mbufCtx : Option MbufInsertCtx) (env : InputEnv) : ℕ :=
  match engine.flowTable.get handle with
  | none => 0
  | some conn =>
      let outcome := (dispatch conn seg env.clock engine.cfg.sendBufferBytes mbufCtx).outcome
      outcome.delivered + outcome.reassemblyQueuedBytes

end Engine

namespace Station

/-- The packet `rx_frame` hands to `handle_ipv4`, if the frame holds one. -/
def rxFrame (station : Station) (chain : RxChain) (olFlags : BitVec 64) : Option RxFrame :=
  let bytes := mbufDataSliceForRx chain
  match l2Decode bytes station.host.engine.cfg.ourMac with
  | .error _ => none
  | .ok l2 =>
      if l2.ethertype = ETHERTYPE_IPV4 then
        some
          { payload := bytes.drop l2.payloadOffset
            olFlags := olFlags
            mbuf := some chain.head
            nbSegs := chain.nbSegs
            ethPayloadOffset := l2.payloadOffset }
      else none

/-- `dispatch_one_real_mbuf`: the station afterwards, and the bytes it accepted. -/
def dispatchOneRealMbuf (station : Station) (chain : RxChain) (olFlags : BitVec 64)
    (env : InputEnv) : Station × ℕ :=
  match station.rxFrame chain olFlags with
  | none => (station, 0)
  | some frame =>
      (station.receive frame env,
        match station.handleIpv4 frame with
        | (.matched handle seg, some ip) =>
            station.host.engine.acceptedBytes handle seg (mbufCtx frame ip seg) env
        | _ => 0)

end Station

end DpdkTcp
