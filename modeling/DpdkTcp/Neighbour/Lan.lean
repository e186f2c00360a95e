import DpdkTcp.Lib.Medium
import DpdkTcp.Neighbour.Refusal

/-!
# An Ethernet segment

Nodes that share a segment, with every frame their neighbour code ever sent. A device may
get any of these frames, any number of times and in any order, or never. What is learned
from them is what their senders are: no interleaving, loss or duplication binds the address
of the gateway to a device that does not own it. And a question that is delivered, and whose
answer is delivered, is answered, whatever happens in between.
-/

namespace DpdkTcp

/-! ### What a node keeps, learns and sends -/

namespace Node

variable {node : Node}

/-- The addresses a node was brought up with. -/
structure SameAddresses (before after : Node) : Prop where
  localIp : after.localIp = before.localIp
  ourMac : after.ourMac = before.ourMac
  gatewayIp : after.gatewayIp = before.gatewayIp

theorem SameAddresses.refl (node : Node) : SameAddresses node node :=
  ⟨rfl, rfl, rfl⟩

theorem SameAddresses.trans {first second third : Node} (left : SameAddresses first second)
    (right : SameAddresses second third) : SameAddresses first third :=
  ⟨right.localIp.trans left.localIp, right.ourMac.trans left.ourMac,
    right.gatewayIp.trans left.gatewayIp⟩

end Node

theorem Station.step_cfg (station : Station) (op : StationOp) :
    (station.step op).host.engine.cfg = station.host.engine.cfg := by
  rcases station.step_host op with same | ⟨call, same⟩ <;> rw [same]
  exact Host.systemStep_cfg station.host call

theorem Station.receive_cfg (station : Station) (frame : RxFrame) (env : InputEnv) :
    (station.receive frame env).host.engine.cfg = station.host.engine.cfg :=
  station.step_cfg (.frame frame env)

namespace Node

variable {node : Node}

/-- The bytes a node reads as an ARP packet. -/
def arpIn (bytes : List UInt8) (pkt : ArpPacket) : Prop :=
  beU16At bytes 12 = ETHERTYPE_ARP ∧ arpDecode (bytes.drop ETH_HDR_LEN) = .ok pkt

/-- The frames the neighbour code sends: its own address under its own device address, or a
segment that refuses one of no connection. -/
inductive Sends (node : Node) : List UInt8 → Prop where
  | arp (dstMac : Vector UInt8 6) {pkt : ArpPacket} (known : pkt.Known)
      (senderIp : pkt.senderIp = node.localIp) (senderMac : pkt.senderMac = node.ourMac) :
      Sends node (arpFrame dstMac pkt)
  | rst {tuple : FourTuple} {incoming : ParsedSegment} {frame : List UInt8}
      (refused : frame ∈ node.sendRstUnmatched tuple incoming true) : Sends node frame

/-- What a step can do to the addresses, to the gateway's device address and to the segment. -/
structure StepKeeps (node after : Node) (taken : Option (List UInt8)) (sent : List (List UInt8)) :
    Prop where
  addresses : SameAddresses node after
  learned : after.gatewayMac = node.gatewayMac ∨
    ∃ bytes pkt, taken = some bytes ∧ arpIn bytes pkt ∧ pkt.senderIp = node.gatewayIp ∧
      after.gatewayMac = pkt.senderMac
  sent : ∀ frame ∈ sent, node.Sends frame

theorem StepKeeps.same {after : Node} {taken : Option (List UInt8)} (addresses : SameAddresses node after)
    (gatewayMac : after.gatewayMac = node.gatewayMac) : StepKeeps node after taken [] :=
  ⟨addresses, .inl gatewayMac, nofun⟩

theorem classifyArp_learns {pkt : ArpPacket} {localIp gatewayIp : BitVec 32} {mac : Vector UInt8 6}
    (learns : classifyArp pkt localIp gatewayIp = .updateGatewayMac mac) :
    pkt.senderIp = gatewayIp ∧ mac = pkt.senderMac := by
  unfold classifyArp at learns
  split at learns
  · cases learns
  · split at learns
    · rename_i fromGateway
      dsimp only at learns
      split at learns
      · cases learns
        exact ⟨fromGateway.2, rfl⟩
      · cases learns
    · cases learns

/-- A frame the builders wrote, if the driver takes it. -/
theorem sends_txFrame (dstMac : Vector UInt8 6) {pkt : ArpPacket} (known : pkt.Known)
    (senderIp : pkt.senderIp = node.localIp) (senderMac : pkt.senderMac = node.ourMac)
    (accepted : Bool) : ∀ frame ∈ txFrame (buildArpFrame dstMac pkt) accepted, node.Sends frame := by
  intro frame sent
  rw [txFrame_eq] at sent
  split at sent
  · rw [List.mem_singleton.mp sent]
    exact .arp dstMac known senderIp senderMac
  · cases sent

theorem handleArp_keeps {bytes : List UInt8} (arp : beU16At bytes 12 = ETHERTYPE_ARP)
    (accepted : Bool) :
    StepKeeps node (node.handleArp (bytes.drop ETH_HDR_LEN) accepted).1 (some bytes)
      (node.handleArp (bytes.drop ETH_HDR_LEN) accepted).2 := by
  unfold handleArp
  split
  · exact .same (.refl node) rfl
  · rename_i pkt decoded
    cases action : classifyArp pkt node.localIp node.gatewayIp with
    | none => exact .same (.refl node) rfl
    | sendReply => exact ⟨.refl node, .inl rfl, sends_txFrame _ (.inr rfl) rfl rfl accepted⟩
    | updateGatewayMac mac =>
        rcases classifyArp_learns action with ⟨fromGateway, rfl⟩
        exact ⟨⟨rfl, rfl, rfl⟩, .inr ⟨bytes, pkt, rfl, ⟨arp, decoded⟩, fromGateway, rfl⟩, nofun⟩

theorem handleIpv4_keeps (frame : RxFrame) (env : InputEnv) (accepted : Bool)
    (taken : Option (List UInt8)) :
    StepKeeps node (node.handleIpv4 frame env accepted).1 taken
      (node.handleIpv4 frame env accepted).2 := by
  unfold handleIpv4
  split
  · exact .same ⟨rfl, rfl, rfl⟩ rfl
  · refine ⟨.refl node, .inl rfl, fun bytes sent => ?_⟩
    cases accepted with
    | true => exact .rst sent
    | false =>
        unfold sendRstUnmatched at sent
        split at sent
        · cases sent
        · split at sent <;> cases sent
  · have cfg := node.station.receive_cfg frame env
    exact .same ⟨congrArg EngineConfig.localIp cfg, congrArg EngineConfig.ourMac cfg, rfl⟩
      (congrArg EngineConfig.gatewayMac cfg)

end Node

/-- The frame a step takes from the device. -/
def NodeOp.taken : NodeOp → Option (List UInt8)
  | .frame chain _ _ _ => some (mbufDataSliceForRx chain)
  | _ => none

/-- Everything the rest needs to know of a step. -/
theorem Node.step_keeps (node : Node) (op : NodeOp) :
    Node.StepKeeps node (node.step op).1 op.taken (node.step op).2 := by
  cases op with
  | frame chain olFlags env accepted =>
      dsimp only [step, NodeOp.taken]
      rcases node.rxFrame_cases chain olFlags env accepted with same | ⟨arp, same⟩ | ⟨_, same⟩ <;>
        rw [same]
      · exact .same (.refl node) rfl
      · exact handleArp_keeps arp accepted
      · exact handleIpv4_keeps _ env accepted _
  | announce nowNs accepted =>
      dsimp only [step, maybeEmitGratuitousArp]
      split
      · exact .same (.refl node) rfl
      · split
        · exact .same (.refl node) rfl
        · exact ⟨⟨rfl, rfl, rfl⟩, .inl rfl, sends_txFrame _ (.inl rfl) rfl rfl accepted⟩
  | probe nowNs accepted =>
      dsimp only [step, maybeProbeGatewayMac]
      split
      · exact .same (.refl node) rfl
      · split
        · exact .same (.refl node) rfl
        · exact ⟨⟨rfl, rfl, rfl⟩, .inl rfl, sends_txFrame _ (.inl rfl) rfl rfl accepted⟩
  | station op =>
      have cfg := node.station.step_cfg op
      exact .same ⟨congrArg EngineConfig.localIp cfg, congrArg EngineConfig.ourMac cfg, rfl⟩
        (congrArg EngineConfig.gatewayMac cfg)

/-! ### What is said on the segment -/

/-- The nodes of a segment, and the frames they sent. -/
abbrev Lan (Place : Type) :=
  Medium.State Place Node (List UInt8)

/-- One step of an engine on the segment, whose frames join the medium. -/
abbrev Lan.step {Place : Type} [DecidableEq Place] (lan : Lan Place) (label : Place × NodeOp) :
    Lan Place :=
  Medium.step Node.step lan label

/-- A device may pad a frame. -/
def Pads (frame bytes : List UInt8) : Prop :=
  ∃ padding, bytes = frame ++ padding

/-- Whoever says where an address is owns it, however the frame is padded. -/
def Honest (owns : BitVec 32 → Vector UInt8 6 → Prop) (bytes : List UInt8) : Prop :=
  ∀ padding pkt, Node.arpIn (bytes ++ padding) pkt → owns pkt.senderIp pkt.senderMac

/-- The runs of a segment among honest strangers. -/
abbrev Lan.Runs {Place : Type} [DecidableEq Place] (owns : BitVec 32 → Vector UInt8 6 → Prop) :
    Lan Place → Lan Place → Prop :=
  Run.Reaches Lan.step (Medium.Heard NodeOp.taken Pads (Honest owns))

section Said

variable {owns : BitVec 32 → Vector UInt8 6 → Prop} {node : Node}

theorem Honest.pads {frame bytes : List UInt8} (honest : Honest owns frame)
    (relay : Pads frame bytes) : Honest owns bytes := by
  rcases relay with ⟨padding, rfl⟩
  intro more pkt arp
  rw [List.append_assoc] at arp
  exact honest (padding ++ more) pkt arp

/-- A packet that was written is read as it was. -/
theorem arpIn_arpFrame {dstMac : Vector UInt8 6} {written pkt : ArpPacket} (known : written.Known)
    {padding : List UInt8} (arp : Node.arpIn (arpFrame dstMac written ++ padding) pkt) :
    pkt = written := by
  have decoded := arp.2
  rw [List.drop_append_of_le_length (by rw [length_arpFrame]; decide), drop_arpFrame,
    List.append_assoc, arpDecode_writeArpBody known] at decoded
  exact (Except.ok.inj decoded).symm

theorem Node.Sends.honest (owner : owns node.localIp node.ourMac) {frame : List UInt8}
    (sends : node.Sends frame) : Honest owns frame := by
  intro padding pkt arp
  cases sends with
  | arp dstMac known senderIp senderMac =>
      rw [arpIn_arpFrame known arp, senderIp, senderMac]
      exact owner
  | rst refused =>
      rcases Node.rst_frame refused with ⟨seg, ipField, tcpField, _, rfl, _⟩
      have ethertype := arp.1
      rw [seg.frameWith_append, Node.ethertype_frameWith] at ethertype
      exact absurd ethertype (by decide)

end Said

section Runs

variable {Place : Type} [DecidableEq Place] {owns : BitVec 32 → Vector UInt8 6 → Prop}
  {start stop : Lan Place}

/-- What a node knows: its addresses, and the gateway as it was configured or as it is. -/
structure Node.Knows (owns : BitVec 32 → Vector UInt8 6 → Prop) (start node : Node) : Prop where
  addresses : SameAddresses start node
  gateway : node.gatewayMac = start.gatewayMac ∨ owns start.gatewayIp node.gatewayMac

theorem Node.Knows.step {start node : Node} (knows : start.Knows owns node) {op : NodeOp}
    (heard : ∀ bytes, op.taken = some bytes → Honest owns bytes) :
    start.Knows owns (node.step op).1 := by
  have keeps := node.step_keeps op
  refine ⟨knows.addresses.trans keeps.addresses, ?_⟩
  rcases keeps.learned with same | ⟨bytes, pkt, taken, arp, fromGateway, learned⟩
  · rw [same]
    exact knows.gateway
  · right
    have told := heard bytes taken [] pkt (by rw [List.append_nil]; exact arp)
    rw [fromGateway, knows.addresses.gatewayIp] at told
    rw [learned]
    exact told

/-- All that honest nodes send is honest, and what they learn is so. -/
theorem Lan.Runs.knows (run : Lan.Runs owns start stop)
    (said : ∀ frame ∈ start.sent, Honest owns frame)
    (owner : ∀ place, owns (start.parties place).localIp (start.parties place).ourMac) :
    (∀ place, (start.parties place).Knows owns (stop.parties place)) ∧
      ∀ frame ∈ stop.sent, Honest owns frame := by
  refine Medium.authentic run (fun place => ⟨.refl _, .inl rfl⟩) said (fun _ told => told)
    (fun _ _ told relay => Honest.pads told relay) ?_
  intro place node op knows heard
  refine ⟨knows.step heard, fun frame sent => ((node.step_keeps op).sent frame sent).honest ?_⟩
  rw [knows.addresses.localIp, knows.addresses.ourMac]
  exact owner place

/-- However frames are lost, duplicated, delayed, reordered and padded, and whatever honest
strangers send: the device a node takes for its gateway is the one it was configured with, or
owns the address of the gateway. -/
theorem learned_from_owner (run : Lan.Runs owns start stop) (silent : start.sent = [])
    (owner : ∀ place, owns (start.parties place).localIp (start.parties place).ourMac)
    (place : Place) :
    (stop.parties place).gatewayMac = (start.parties place).gatewayMac ∨
      owns (start.parties place).gatewayIp (stop.parties place).gatewayMac := by
  have said : ∀ frame ∈ start.sent, Honest owns frame := by
    rw [silent]
    exact nofun
  exact ((run.knows said owner).1 place).gateway

end Runs

/-! ### Questions are answered -/

namespace Node

variable {node : Node}

/-- A node that has to ask for its gateway. -/
structure Asks (node : Node) (nowNs : ℕ) : Prop where
  gateway : node.gatewayIp ≠ 0#32
  placed : node.localIp ≠ 0#32
  unknown : node.gatewayMac = ZERO_MAC
  due : PROBE_INTERVAL_NS ≤ nowNs - node.lastGwArpReqNs

/-- The question for the gateway. -/
def question (node : Node) : ArpPacket :=
  ⟨ARP_OP_REQUEST, node.ourMac, node.localIp, ZERO_MAC, node.gatewayIp⟩

/-- The answer to a question. -/
def answer (node : Node) (asked : ArpPacket) : ArpPacket :=
  ⟨ARP_OP_REPLY, node.ourMac, node.localIp, asked.senderMac, asked.senderIp⟩

theorem Asks.probe {nowNs : ℕ} (asks : node.Asks nowNs) :
    (node.step (.probe nowNs true)).2 = [arpFrame BROADCAST_MAC node.question] := by
  have mayAsk : ¬ (node.gatewayIp = 0#32 ∨ node.localIp = 0#32 ∨ node.gatewayMac ≠ ZERO_MAC) := by
    rintro (unset | unset | known)
    · exact asks.gateway unset
    · exact asks.placed unset
    · exact known asks.unknown
  dsimp only [step, maybeProbeGatewayMac]
  rw [if_neg mayAsk, if_neg (Nat.not_lt.mpr asks.due)]
  unfold buildArpRequest
  rw [txFrame_eq, if_pos rfl]
  rfl

/-- A frame with an ARP packet in it is handled as ARP. -/
theorem rxFrame_arpFrame {dstMac : Vector UInt8 6} {pkt : ArpPacket} {chain : RxChain}
    (carries : Pads (arpFrame dstMac pkt) (mbufDataSliceForRx chain))
    (enters : letsIn node.ourMac dstMac) (olFlags : BitVec 64) (env : InputEnv) (accepted : Bool) :
    ∃ rest, node.rxFrame chain olFlags env accepted =
      node.handleArp (writeArpBody pkt ++ rest) accepted := by
  rcases carries with ⟨padding, carries⟩
  refine ⟨List.replicate ARP_PAD_LEN 0 ++ padding, ?_⟩
  unfold rxFrame
  dsimp only
  rw [carries, l2Decode_arpFrame dstMac pkt enters]
  dsimp only
  rw [if_pos rfl, List.drop_append_of_le_length (by rw [length_arpFrame]; decide), drop_arpFrame,
    List.append_assoc]

/-- The owner of an address answers a question for it. -/
theorem frame_answers {pkt : ArpPacket} {chain : RxChain}
    (carries : Pads (arpFrame BROADCAST_MAC pkt) (mbufDataSliceForRx chain))
    (asks : pkt.op = ARP_OP_REQUEST) (placed : node.localIp ≠ 0#32)
    (forUs : pkt.targetIp = node.localIp) (olFlags : BitVec 64) (env : InputEnv) :
    (node.step (.frame chain olFlags env true)).2 = [arpFrame pkt.senderMac (node.answer pkt)] := by
  rcases node.rxFrame_arpFrame carries (.inl rfl) olFlags env true with ⟨rest, taken⟩
  dsimp only [step]
  rw [taken, handleArp, arpDecode_writeArpBody (.inl asks)]
  dsimp only
  rw [classifyArp, if_pos ⟨asks, placed, forUs⟩]
  unfold buildArpReply
  rw [txFrame_eq, if_pos rfl]
  rfl

/-- The answer is learned. -/
theorem frame_learns {dstMac : Vector UInt8 6} {pkt : ArpPacket} {chain : RxChain}
    (carries : Pads (arpFrame dstMac pkt) (mbufDataSliceForRx chain))
    (enters : letsIn node.ourMac dstMac) (reply : pkt.op = ARP_OP_REPLY)
    (gateway : node.gatewayIp ≠ 0#32) (fromGateway : pkt.senderIp = node.gatewayIp)
    (olFlags : BitVec 64) (env : InputEnv) (accepted : Bool) :
    (node.step (.frame chain olFlags env accepted)).1.gatewayMac = pkt.senderMac := by
  rcases node.rxFrame_arpFrame carries enters olFlags env accepted with ⟨rest, taken⟩
  have notAsked : ¬ (pkt.op = ARP_OP_REQUEST ∧ node.localIp ≠ 0#32 ∧ pkt.targetIp = node.localIp) := by
    rw [reply]
    rintro ⟨request, _⟩
    exact absurd request (by decide)
  dsimp only [step]
  rw [taken, handleArp, arpDecode_writeArpBody (.inr reply)]
  dsimp only
  rw [classifyArp, if_neg notAsked, if_pos ⟨gateway, fromGateway⟩]
  dsimp only
  rw [if_pos (.inl reply)]
  rfl

end Node

section Progress

variable {Place : Type} [DecidableEq Place] {owns : BitVec 32 → Vector UInt8 6 → Prop}
  {lan start stop : Lan Place} {asker owner : Place}

theorem Lan.Runs.addresses (run : Lan.Runs owns start stop) (place : Place) :
    (start.parties place).SameAddresses (stop.parties place) :=
  Medium.local_invariant (fun place => (start.parties place).SameAddresses) run (fun _ => .refl _)
    (fun _ node op same => same.trans (node.step_keeps op).addresses) place

/-- A frame that was sent may be delivered, padded or not. -/
theorem Lan.Runs.deliver (run : Lan.Runs owns start stop) {frame : List UInt8}
    (sent : frame ∈ stop.sent) {chain : RxChain} (carries : Pads frame (mbufDataSliceForRx chain))
    (place : Place) (olFlags : BitVec 64) (env : InputEnv) (accepted : Bool) :
    Lan.Runs owns start (stop.step (place, .frame chain olFlags env accepted)) := by
  refine .tail _ run fun bytes taken => .inl ⟨frame, sent, ?_⟩
  cases taken
  exact carries

/-- The asker sends a question. When it is delivered to the owner, the owner sends an answer; when
that is delivered to the asker, the asker has the device of the owner for good, and asks no more,
whatever happens in between and after. -/
def Lan.Resolves (owns : BitVec 32 → Vector UInt8 6 → Prop) (lan : Lan Place) (asker owner : Place)
    (nowNs : ℕ) : Prop :=
  ∃ question ∈ (lan.step (asker, .probe nowNs true)).sent,
    ∀ asked, Lan.Runs owns (lan.step (asker, .probe nowNs true)) asked →
      ∀ chain olFlags env, Pads question (mbufDataSliceForRx chain) →
        ∃ answer ∈ (asked.step (owner, .frame chain olFlags env true)).sent,
          ∀ answered, Lan.Runs owns (asked.step (owner, .frame chain olFlags env true)) answered →
            ∀ chain' olFlags' env' accepted, Pads answer (mbufDataSliceForRx chain') →
              ∀ later, Lan.Runs owns (answered.step (asker, .frame chain' olFlags' env' accepted))
                  later →
                (later.parties asker).gatewayMac = (lan.parties owner).ourMac ∧
                  ((lan.parties owner).ourMac ≠ ZERO_MAC →
                    ∀ laterNs accepted',
                      ((later.parties asker).step (.probe laterNs accepted')).2 = [])

/-- A node that has to ask for its gateway finds it if its question and the answer are delivered
once, as long as nobody lies about the address of the gateway. -/
theorem question_resolves {nowNs : ℕ} (said : ∀ frame ∈ lan.sent, Honest owns frame)
    (owners : ∀ place, owns (lan.parties place).localIp (lan.parties place).ourMac)
    (gateway : (lan.parties owner).localIp = (lan.parties asker).gatewayIp)
    (unique : ∀ mac, owns (lan.parties owner).localIp mac → mac = (lan.parties owner).ourMac)
    (asks : (lan.parties asker).Asks nowNs) : lan.Resolves owns asker owner nowNs := by
  let probe : Place × NodeOp := (asker, .probe nowNs true)
  have probed : Lan.Runs owns lan (lan.step probe) := .tail _ .refl fun _ taken => nomatch taken
  have questioned : arpFrame BROADCAST_MAC (lan.parties asker).question ∈ (lan.step probe).sent := by
    apply Medium.mem_sent_step
    rw [asks.probe]
    exact List.mem_singleton.mpr rfl
  refine ⟨_, questioned, fun asked running chain olFlags env carries => ?_⟩
  -- The owner still has the address that is asked for, and answers.
  have untilAsked : Lan.Runs owns lan asked := probed.trans running
  have ownerAt := untilAsked.addresses owner
  have answers := Node.frame_answers carries rfl
    (by rw [ownerAt.localIp, gateway]; exact asks.gateway)
    (by rw [ownerAt.localIp, gateway]; rfl) olFlags env
  have answering := Medium.mem_sent_step (answers ▸ List.mem_singleton.mpr rfl)
  refine ⟨_, answering, fun answered running' chain' olFlags' env' accepted carries' => ?_⟩
  have taken : Lan.Runs owns lan (asked.step (owner, .frame chain olFlags env true)) :=
    untilAsked.deliver (Medium.sent_subset running questioned) carries owner olFlags env true
  -- The asker still has the address that was asked from, and learns.
  have untilAnswered : Lan.Runs owns lan answered := taken.trans running'
  have askerAt := untilAnswered.addresses asker
  have learns := Node.frame_learns carries' (.inr (.inl askerAt.ourMac.symm)) rfl
    (by rw [askerAt.gatewayIp]; exact asks.gateway)
    (by rw [askerAt.gatewayIp, ← gateway]; exact ownerAt.localIp) olFlags' env' accepted
  have told : Lan.Runs owns lan (answered.step (asker, .frame chain' olFlags' env' accepted)) :=
    untilAnswered.deliver (Medium.sent_subset running' answering) carries' asker olFlags' env'
      accepted
  have toldMac : ((answered.step (asker, .frame chain' olFlags' env' accepted)).parties
      asker).gatewayMac = (lan.parties owner).ourMac := by
    rw [Medium.parties_step, learns]
    exact ownerAt.ourMac
  -- From then on whatever it learns is the same.
  intro later after
  have known := (after.knows (told.knows said owners).2 fun place => by
    rw [(told.addresses place).localIp, (told.addresses place).ourMac]
    exact owners place).1 asker
  have stays : (later.parties asker).gatewayMac = (lan.parties owner).ourMac := by
    rcases known.gateway with same | owned
    · exact same.trans toldMac
    · rw [(told.addresses asker).gatewayIp, ← gateway] at owned
      exact unique _ owned
  refine ⟨stays, fun real laterNs accepted' => ?_⟩
  dsimp only [Node.step, Node.maybeProbeGatewayMac]
  rw [if_pos (.inr (.inr (by rw [stays]; exact real)))]

end Progress

/-- A node that does not know its gateway. -/
def seekingNode : Node :=
  .start
    (.start
      { quickCfg with
        localIp := 0x0a000001#32
        ourMac := quickCfg.gatewayMac
        gatewayMac := ZERO_MAC } 1 64 [] false 49151) quickCfg.localIp 0

/-- It and its gateway. -/
def twoNodes : Lan Bool :=
  { parties := fun gateway => if gateway then askedNode else seekingNode
    sent := [] }

/-- Who has which address there. -/
def twoOwners (ip : BitVec 32) (mac : Vector UInt8 6) : Prop :=
  (ip, mac) ∈ [(askedNode.localIp, askedNode.ourMac), (seekingNode.localIp, seekingNode.ourMac)]

theorem twoNodes_owners (place : Bool) :
    twoOwners (twoNodes.parties place).localIp (twoNodes.parties place).ourMac := by
  cases place <;> simp [twoOwners, twoNodes]

/-- The question is asked, and delivered twice; one answer is. -/
def askTwice : List (Bool × NodeOp) :=
  [(false, .probe 1000000000 true), (true, .frame ⟨⟨0, whoHas, by decide⟩, []⟩ 0#64 (inputAt 0) true),
    (true, .frame ⟨⟨0, whoHas, by decide⟩, []⟩ 0#64 (inputAt 0) true),
    (false, .frame ⟨⟨0, isAt, by decide⟩, []⟩ 0#64 (inputAt 0) true)]

theorem askTwice_runs : Lan.Runs twoOwners twoNodes (askTwice.foldl Lan.step twoNodes) := by
  have question : Pads whoHas (mbufDataSliceForRx ⟨⟨0, whoHas, by decide⟩, []⟩) :=
    ⟨[], (List.append_nil whoHas).symm⟩
  have answer : Pads isAt (mbufDataSliceForRx ⟨⟨0, isAt, by decide⟩, []⟩) :=
    ⟨[], (List.append_nil isAt).symm⟩
  have asked : Lan.Runs twoOwners twoNodes (twoNodes.step (false, .probe 1000000000 true)) :=
    .tail _ .refl fun _ taken => nomatch taken
  have once := asked.deliver (by decide +kernel) question true 0#64 (inputAt 0) true
  have twice := Lan.Runs.deliver once (by decide +kernel) question true 0#64 (inputAt 0) true
  exact Lan.Runs.deliver twice (by decide +kernel) answer false 0#64 (inputAt 0) true

theorem learned_from_owner_askTwice :
    ((askTwice.foldl Lan.step twoNodes).parties false).gatewayMac = seekingNode.gatewayMac ∨
      twoOwners seekingNode.gatewayIp
        ((askTwice.foldl Lan.step twoNodes).parties false).gatewayMac :=
  learned_from_owner askTwice_runs rfl twoNodes_owners false

theorem question_resolves_twoNodes : twoNodes.Resolves twoOwners false true 1000000000 :=
  question_resolves (fun _ sent => nomatch sent) twoNodes_owners rfl
    (fun mac owned => by
      rcases List.mem_pair.mp owned with same | other
      · exact (Prod.mk.inj same).2
      · exact absurd (Prod.mk.inj other).1 (by decide))
    ⟨by decide, by decide, rfl, by decide⟩

end DpdkTcp
