import DpdkTcp.Model.Link

/-!
# ARP

`arp.rs`: the decoder, the classification of received packets and the builders
of complete frames, padded to the Ethernet minimum.
-/

namespace DpdkTcp

/-- The length of an ARP packet for Ethernet and IPv4. -/
def ARP_HDR_LEN : ℕ := 28

/-- The padding up to the least Ethernet payload. -/
def ARP_PAD_LEN : ℕ := 18

/-- The length of an ARP frame. -/
def ARP_FRAME_LEN : ℕ := 14 + ARP_HDR_LEN + ARP_PAD_LEN

/-- The hardware type Ethernet. -/
def ARP_HTYPE_ETH : UInt16 := 1

/-- The protocol type IPv4. -/
def ARP_PTYPE_IPV4 : UInt16 := 0x0800

/-- The operation of a question. -/
def ARP_OP_REQUEST : UInt16 := 1

/-- The operation of an answer. -/
def ARP_OP_REPLY : UInt16 := 2

/-- The address of no device, which also stands for one that is not known yet. -/
def ZERO_MAC : Vector UInt8 6 := Vector.replicate 6 0

/-- An ARP packet for Ethernet and IPv4. -/
structure ArpPacket where
  op : UInt16
  senderMac : Vector UInt8 6
  senderIp : BitVec 32
  targetMac : Vector UInt8 6
  targetIp : BitVec 32
deriving DecidableEq, Repr

/-- Why an ARP packet is dropped. -/
inductive ArpDrop where
  | short
  | unsupportedHardware
  | unsupportedProtocol
  | unsupportedOp
deriving DecidableEq, Repr

/-- The six bytes at an index. -/
def macAt (bytes : List UInt8) (index : ℕ) : Vector UInt8 6 :=
  Vector.ofFn fun i => bytes.getD (index + i.val) 0

/-- `arp_decode`, from the Ethernet payload. -/
def arpDecode (ethPayload : List UInt8) : Except ArpDrop ArpPacket :=
  if ethPayload.length < ARP_HDR_LEN then .error .short
  else
    let htype := beU16At ethPayload 0
    let ptype := beU16At ethPayload 2
    let hlen := ethPayload.getD 4 0
    let plen := ethPayload.getD 5 0
    if htype ≠ ARP_HTYPE_ETH ∨ hlen ≠ 6 then .error .unsupportedHardware
    else if ptype ≠ ARP_PTYPE_IPV4 ∨ plen ≠ 4 then .error .unsupportedProtocol
    else
      let op := beU16At ethPayload 6
      if op ≠ ARP_OP_REQUEST ∧ op ≠ ARP_OP_REPLY then .error .unsupportedOp
      else
        .ok
          { op := op
            senderMac := macAt ethPayload 8
            senderIp := beU32At ethPayload 14
            targetMac := macAt ethPayload 18
            targetIp := beU32At ethPayload 24 }

/-- What an ARP packet is answered with. -/
inductive ArpAction where
  | none
  | sendReply
  | updateGatewayMac (mac : Vector UInt8 6)
deriving DecidableEq, Repr

/-- `classify_arp`: requests for us are answered, and nothing is learned from them. -/
def classifyArp (pkt : ArpPacket) (localIp gatewayIp : BitVec 32) : ArpAction :=
  if pkt.op = ARP_OP_REQUEST ∧ localIp ≠ 0#32 ∧ pkt.targetIp = localIp then .sendReply
  else if gatewayIp ≠ 0#32 ∧ pkt.senderIp = gatewayIp then
    let isReply := pkt.op = ARP_OP_REPLY
    let isGratuitous := pkt.op = ARP_OP_REQUEST ∧ pkt.targetIp = gatewayIp
    if isReply ∨ isGratuitous then .updateGatewayMac pkt.senderMac else .none
  else .none

/-! ### Builders -/

/-- `write_arp_body`. -/
def writeArpBody (pkt : ArpPacket) : List UInt8 :=
  be16 ARP_HTYPE_ETH.toNat ++ be16 ARP_PTYPE_IPV4.toNat ++ [6, 4] ++ be16 pkt.op.toNat ++
    pkt.senderMac.toList ++ be32 pkt.senderIp ++ pkt.targetMac.toList ++ be32 pkt.targetIp

/-- What the builders share: the frame written to the front of `out`, if there is room. -/
def buildArpFrame (dstMac : Vector UInt8 6) (pkt : ArpPacket) (out : List UInt8) :
    Option (List UInt8 × ℕ) :=
  if out.length < ARP_FRAME_LEN then none
  else
    let frame := dstMac.toList ++ pkt.senderMac.toList ++ be16 0x0806 ++ writeArpBody pkt ++
      List.replicate ARP_PAD_LEN 0
    some (overwrite out 0 frame, ARP_FRAME_LEN)

/-- `build_arp_reply`. -/
def buildArpReply (ourMac : Vector UInt8 6) (ourIp : BitVec 32) (request : ArpPacket)
    (out : List UInt8) : Option (List UInt8 × ℕ) :=
  buildArpFrame request.senderMac
    ⟨ARP_OP_REPLY, ourMac, ourIp, request.senderMac, request.senderIp⟩ out

/-- `build_arp_request`. -/
def buildArpRequest (ourMac : Vector UInt8 6) (ourIp targetIp : BitVec 32) (out : List UInt8) :
    Option (List UInt8 × ℕ) :=
  buildArpFrame BROADCAST_MAC ⟨ARP_OP_REQUEST, ourMac, ourIp, ZERO_MAC, targetIp⟩ out

/-- `build_gratuitous_arp`. -/
def buildGratuitousArp (ourMac : Vector UInt8 6) (ourIp : BitVec 32) (out : List UInt8) :
    Option (List UInt8 × ℕ) :=
  buildArpFrame BROADCAST_MAC ⟨ARP_OP_REQUEST, ourMac, ourIp, ZERO_MAC, ourIp⟩ out

end DpdkTcp
