import DpdkTcp.Closing.BlackHole
import DpdkTcp.Lib.Medium
import DpdkTcp.Path.Arrival
import DpdkTcp.Path.Inbox
import DpdkTcp.Send.Integrity

/-!
# Streams across a medium

Hosts on a medium that loses, repeats, delays and reorders frames, and on which anyone may put
segments without data. Every byte that a connection hands to its application is the next one of
the stream of the connection at the other end, from its first byte on.
-/

namespace DpdkTcp

open Slice Serial

/-! ### Hosts -/

/-- A host, with what its connections accepted and what they handed over. -/
structure Peer where
  station : Station
  streams : Streams
  taken : ConnHandle → List UInt8

/-- A host gets a frame, or does anything else. -/
inductive PeerOp where
  | frame (chain : RxChain) (olFlags : BitVec 64) (env : InputEnv)
  | own (op : DriverOp)

/-- The call of `tcp_input` that a frame leads to. -/
def Station.segmentOp (station : Station) (frame : RxFrame) (env : InputEnv) : Option EngineOp :=
  match station.handleIpv4 frame with
  | (.matched handle seg, some ip) => some (.segment handle seg (mbufCtx frame ip seg) env)
  | _ => none

theorem Station.segmentOp_some {station : Station} {frame : RxFrame} {env : InputEnv}
    {op : EngineOp} (called : station.segmentOp frame env = some op) :
    ∃ handle seg ip, station.handleIpv4 frame = (.matched handle seg, some ip) ∧
      op = .segment handle seg (mbufCtx frame ip seg) env := by
  unfold segmentOp at called
  split at called
  · rename_i handle seg ip routed
    cases called
    exact ⟨handle, seg, ip, routed, rfl⟩
  · cases called

/-- What an operation hands to the application of a connection. -/
def Host.handed (host : Host) (handle : ConnHandle) : DriverOp → List UInt8
  | .system (.call (.segment target seg mbufCtx env)) =>
      match host.engine.flowTable.get handle with
      | none => []
      | some conn =>
          if target = handle then
            (dispatch conn seg env.clock host.engine.cfg.sendBufferBytes mbufCtx).handed
          else []
  | _ => []

namespace Peer

/-- A host that nobody has connected to. -/
def start (cfg : EngineConfig) (maxConnections eventSoftCap : ℕ) : Peer :=
  { station := Station.start cfg maxConnections eventSoftCap [] false 0
    streams := fun _ _ => none
    taken := fun _ => [] }

/-- The host with what its connections accepted. -/
def sender (peer : Peer) : Sender :=
  ⟨peer.station.host, peer.streams⟩

/-- What a step of the host is to its engine and driver, if the frame gets there. -/
def driverOp (peer : Peer) : PeerOp → Option DriverOp
  | .frame chain olFlags env =>
      (peer.station.segmentOp (chain.ipv4Frame olFlags) env).map fun op => .system (.call op)
  | .own op => some op

/-- A connection that is opened has handed over nothing. -/
def perform (peer : Peer) (op : DriverOp) : Peer :=
  { station := { peer.station with host := peer.station.host.driverStep op }
    streams := peer.sender.record op
    taken := fun handle =>
      if (peer.station.host.engine.flowTable.get handle).isSome then
        peer.taken handle ++ peer.station.host.handed handle op
      else [] }

/-- An operation, with the data frames it offers to the driver. -/
def act (peer : Peer) (op : PeerOp) : Peer × List (List UInt8) :=
  match peer.driverOp op with
  | none => (peer, [])
  | some op => (peer.perform op, peer.station.host.bursts op)

/-- A frame without data for anyone here, or a data frame that was sent. -/
def hears (sent : List (List UInt8)) (peer : Peer) (chain : RxChain) (olFlags : BitVec 64) : Bool :=
  match (peer.station.handleIpv4 (chain.ipv4Frame olFlags)).1 with
  | .matched _ seg =>
      seg.payload.isEmpty ||
        sent.any fun bytes => bytes.isPrefixOf (mbufDataSliceForRx chain)
  | _ => true

/-- Segments come in frames only. -/
def ownSegment : DriverOp → Bool
  | .system (.call (.segment ..)) => true
  | _ => false

/-- The pools hand out free buffers, the driver cuts off no payload, and data comes from the
medium. -/
def admissible (sent : List (List UInt8)) (peer : Peer) (op : PeerOp) : Bool :=
  (peer.driverOp op).all peer.sender.admissible &&
    match op with
    | .frame chain olFlags _ => peer.hears sent chain olFlags
    | .own op => !ownSegment op

end Peer

/-! ### The network -/

/-- Hosts, and all data frames that were ever offered to their drivers. -/
abbrev Network (Place : Type) := Medium.State Place Peer (List UInt8)

section Network

variable {Place : Type} [DecidableEq Place]

/-- Hosts without connections on an empty medium. -/
def Network.start (cfgs : Place → EngineConfig) (maxConnections eventSoftCap : ℕ) :
    Network Place :=
  ⟨fun place => Peer.start (cfgs place) maxConnections eventSoftCap, []⟩

/-- The label is a step the host can take on what was sent. -/
def Network.admissible (network : Network Place) (label : Place × PeerOp) : Bool :=
  (network.parties label.1).admissible network.sent label.2

/-- A run of the hosts on the medium. -/
abbrev Network.Reached (cfgs : Place → EngineConfig) (maxConnections eventSoftCap : ℕ)
    (network : Network Place) : Prop :=
  Run.Reaches (Medium.step Peer.act) (fun network label => Network.admissible network label = true)
    (Network.start cfgs maxConnections eventSoftCap) network

/-- No number of a stream gets into the window of a receiver that starts at `edge` and takes `len`
bytes. -/
def Flow.Apart (flow : Flow) (edge : Seq) (len : ℕ) : Prop :=
  ∀ pos < flow.bytes.length, len + 65535 ≤ offset edge (point flow.base pos)

/-- Every stream towards a connection starts behind the SYN it got and is a front of `stream`, or
keeps apart from it. -/
def Network.Bounds (network : Network Place) (conn : TcpConn) (stream : List UInt8) : Prop :=
  ∀ place handle incarnation flow,
    (network.parties place).streams handle incarnation = some flow →
    flow.tuple = conn.fourTuple.mirror →
    flow.base = seqAdd conn.irs 1 ∧ flow.bytes <+: stream ∨
      flow.Apart (seqAdd conn.irs 1) stream.length

/-- What holds of a network in every run. -/
structure Network.Sound (cfgs : Place → EngineConfig) (network : Network Place) : Prop where
  senders : ∀ place, (network.parties place).sender.Sound
  cfg : ∀ place, (network.parties place).station.host.engine.cfg = cfgs place
  indexed : ∀ place, (network.parties place).station.host.engine.flowTable.Indexed
  sent : ∀ bytes ∈ network.sent, ∃ place, (network.parties place).streams.Backs (cfgs place) bytes
  windows : ∀ place handle conn,
    (network.parties place).station.host.engine.flowTable.get handle = some conn →
      conn.rcvWnd ≤ 65535
  reads : ∀ place handle conn,
    (network.parties place).station.host.engine.flowTable.get handle = some conn →
    ∀ stream, stream.length < 2 ^ 31 → conn.state = .synSent ∨ network.Bounds conn stream →
      conn.Reads stream (seqAdd conn.irs 1) ((network.parties place).taken handle)

end Network

/-! ### Steps -/

namespace Sender

variable {sender : Sender}

/-- Streams are opened and extended. -/
theorem Sound.grows (sound : sender.Sound) (op : DriverOp) :
    sender.streams.Grows (sender.record op) := by
  unfold record
  split
  · split
    · exact .refl _
    · rename_i fresh _
      apply Streams.grows_write
      rw [sound.unopened fresh _ (Nat.lt_succ_self _)]
      exact nofun
  · rename_i handle bytes envs tlpNs
    cases (sender.host.engine.sendBytes handle bytes envs tlpNs).2 with
    | error reason => exact .refl _
    | ok count =>
        dsimp only [Streams.sent]
        split
        · rename_i flow found
          exact Streams.grows_accept found _
        · exact .refl _
  · exact .refl _

end Sender

namespace Peer

variable {peer : Peer} {op : DriverOp} {handle : ConnHandle} {conn' : TcpConn}

theorem perform_rcvWnd (live : (peer.perform op).station.host.engine.flowTable.get handle = some conn')
    (small : ∀ conn, peer.station.host.engine.flowTable.get handle = some conn →
      conn.rcvWnd ≤ 65535) : conn'.rcvWnd ≤ 65535 := by
  cases op with
  | trim index len =>
      dsimp only [perform, Host.driverStep] at live
      rw [Engine.trimFrame_only] at live
      exact small conn' live
  | system op => exact Host.systemStep_rcvWnd live small

/-- How a connection comes out of an operation, with what it has handed over. -/
theorem perform_reads (live : (peer.perform op).station.host.engine.flowTable.get handle = some conn')
    {stream : List UInt8}
    (reads : ∀ conn, peer.station.host.engine.flowTable.get handle = some conn →
      conn.fourTuple = conn'.fourTuple → (conn.state ≠ .synSent → conn.irs = conn'.irs) →
      (conn'.state = .synSent → conn.state = .synSent) →
        conn.Reads stream (seqAdd conn.irs 1) (peer.taken handle))
    (pieces : ∀ conn seg mbufCtx env, op = .system (.call (.segment handle seg mbufCtx env)) →
      peer.station.host.engine.flowTable.get handle = some conn →
      conn.fourTuple = conn'.fourTuple → conn.irs = conn'.irs → conn'.state ≠ .synSent →
      conn.rcvNxt = point (seqAdd conn.irs 1) (peer.taken handle ++ conn.recv.contents).length →
      (seg.payload = [] ∨ segInWindow conn seg = false) ∨ seg.fin = false ∧
        ∃ pos, CutAt stream (seqAdd conn.irs 1)
          (peer.taken handle ++ conn.recv.contents).length pos seg mbufCtx) :
    conn'.Reads stream (seqAdd conn'.irs 1) ((peer.perform op).taken handle) := by
  cases op with
  | trim index len =>
      dsimp only [perform, Host.driverStep] at live ⊢
      rw [Engine.trimFrame_only] at live
      dsimp only at live
      rw [live]
      have nothing : peer.station.host.handed handle (.trim index len) = [] := rfl
      rw [Option.isSome_some, if_pos rfl, nothing, List.append_nil]
      exact reads conn' live rfl (fun _ => rfl) id
  | system op =>
      have step := peer.station.host.systemStep_receiver op live
      dsimp only [perform]
      cases present : peer.station.host.engine.flowTable.get handle with
      | none =>
          rw [present] at step
          rw [Option.isSome_none, if_neg Bool.false_ne_true]
          cases step with
          | opening rcvWnd recv state =>
              refine .empty ?_ ?_ fun running => ?_
              · rw [recv]
                rfl
              · rw [recv]
                rfl
              · rw [running] at state
                cases state
      | some conn =>
          rw [present] at step
          rw [Option.isSome_some, if_pos rfl]
          cases step with
          | kept same state beside =>
              have nothing : peer.station.host.handed handle (.system op) = [] := by
                unfold Host.handed
                split
                · rw [present]
                  dsimp only
                  rename_i target seg mbufCtx env equal
                  cases equal
                  rw [if_neg]
                  rintro rfl
                  exact beside seg mbufCtx env rfl
                · rfl
              rw [nothing, List.append_nil, same.irs]
              exact (reads conn present same.fourTuple.symm (fun _ => same.irs.symm)
                state.eq_synSent).kept same state
          | segment seg mbufCtx env called dispatched processed same state =>
              subst called processed
              have handed : peer.station.host.handed handle
                  (.system (.call (.segment handle seg mbufCtx env))) =
                    (dispatch conn seg env.clock peer.station.host.engine.cfg.sendBufferBytes
                      mbufCtx).handed := by
                dsimp only [Host.handed]
                rw [present]
                exact if_pos rfl
              rw [handed]
              have tuple : conn.fourTuple = conn'.fourTuple := by
                rw [same.fourTuple]
                exact (Engine.dispatch_fourTuple conn seg env.clock _ mbufCtx).symm
              by_cases opening : conn.state = .synSent
              · exact (reads conn present tuple (fun opened => absurd opening opened)
                  fun _ => opening).handshake opening same state
              · have irs : conn.irs = conn'.irs := by
                  rw [same.irs]
                  exact (dispatch_sameOwner opening seg env.clock _ mbufCtx).irs.symm
                have later := (dispatch_later opening seg env.clock
                  peer.station.host.engine.cfg.sendBufferBytes mbufCtx).trans state
                have before := reads conn present tuple (fun _ => irs) later.eq_synSent
                rw [← irs]
                by_cases running : conn.state = .established
                · have stays : conn'.state ≠ .synSent := fun shaking =>
                    opening (later.eq_synSent shaking)
                  rcases pieces conn seg mbufCtx env rfl present tuple irs stays
                    (before.running running).1 with dropped | ⟨noFin, pos, cut⟩
                  · exact before.control opening (fun _ => dropped) same state
                  · exact before.piece running noFin cut same state
                · exact before.control opening (fun established => absurd established running) same
                    state

end Peer

namespace Network

variable {Place : Type} {cfgs : Place → EngineConfig} {network : Network Place} {place : Place}
  {conn : TcpConn} {stream : List UInt8}

theorem step_none [DecidableEq Place] {op : PeerOp} (idle : (network.parties place).driverOp op = none) :
    Medium.step Peer.act network (place, op) = network := by
  have still : Peer.act (network.parties place) op = (network.parties place, []) := by
    unfold Peer.act
    rw [idle]
  unfold Medium.step
  rw [still, Function.update_eq_self, List.append_nil]

theorem step_some [DecidableEq Place] {op : PeerOp} {call : DriverOp}
    (works : (network.parties place).driverOp op = some call) :
    Medium.step Peer.act network (place, op) =
      ⟨Function.update network.parties place ((network.parties place).perform call),
        network.sent ++ (network.parties place).station.host.bursts call⟩ := by
  have acts : Peer.act (network.parties place) op =
      ((network.parties place).perform call,
        (network.parties place).station.host.bursts call) := by
    unfold Peer.act
    rw [works]
  unfold Medium.step
  rw [acts]

/-- What bounds the streams bounds what they were before. -/
theorem Bounds.before {later : Network Place} (bounds : later.Bounds conn stream)
    (grows : ∀ place, (network.parties place).streams.Grows (later.parties place).streams) :
    network.Bounds conn stream := by
  intro place handle incarnation flow found tuple
  rcases grows place handle incarnation flow found with ⟨grown, there, extended⟩
  rcases bounds place handle incarnation grown there (extended.tuple.trans tuple) with
    ⟨base, front⟩ | apart
  · exact Or.inl ⟨extended.base.symm.trans base, extended.bytes.trans front⟩
  · right
    intro pos inside
    rw [← extended.base]
    exact apart pos (inside.trans_le extended.bytes.length_le)

theorem Bounds.congr {conn' : TcpConn} (bounds : network.Bounds conn' stream)
    (tuple : conn.fourTuple = conn'.fourTuple) (irs : conn.irs = conn'.irs) :
    network.Bounds conn stream := by
  intro place handle incarnation flow found mirrored
  rw [irs]
  rw [tuple] at mirrored
  exact bounds place handle incarnation flow found mirrored

/-- A segment that reaches a connection carries no data, or what a stream towards the connection
has at its number. -/
theorem Sound.heard (sound : Network.Sound cfgs network)
    (software : ∀ place, (cfgs place).txCksumOffloadActive = false) {chain : RxChain}
    {olFlags : BitVec 64} (hears : (network.parties place).hears network.sent chain olFlags = true)
    {handle : ConnHandle} {parsed : ParsedSegment} {ip : L3Decoded}
    (routed : (network.parties place).station.handleIpv4 (chain.ipv4Frame olFlags) =
      (.matched handle parsed, some ip))
    (present : (network.parties place).station.host.engine.flowTable.get handle = some conn) :
    parsed.payload = [] ∨ parsed.fin = false ∧
      (∃ origin other incarnation flow,
        (network.parties origin).streams other incarnation = some flow ∧
          flow.tuple = conn.fourTuple.mirror ∧ flow.Carries parsed.seq parsed.payload) ∧
      ∀ ctx, Station.mbufCtx (chain.ipv4Frame olFlags) ip parsed = some ctx →
        ctx.next = [] ∧ ctx.Backs parsed.payload := by
  unfold Peer.hears at hears
  rw [routed] at hears
  rcases (Bool.or_eq_true_iff.mp hears : _ ∨ _) with bare | heard
  · exact Or.inl (List.isEmpty_iff.mp bare)
  right
  rcases List.any_eq_true.mp heard with ⟨bytes, onWire, prefix_⟩
  rcases List.isPrefixOf_iff_prefix.mp prefix_ with ⟨padding, whole⟩
  rcases sound.sent bytes onWire with ⟨origin, other, incarnation, flow, seg, found, sends, wire⟩
  rw [software origin] at wire
  rw [wire] at whole
  have carries : (chain.ipv4Frame olFlags).payload = seg.packet padding := by
    dsimp only [RxChain.ipv4Frame]
    rw [← whole, seg.drop_wire]
  rcases Station.handleIpv4_received sends.sendable carries routed with
    ⟨rfl, srcIp, dstIp, headerLen⟩
  rcases Station.handleIpv4_matched (sound.indexed place) routed with ⟨_, owner, ⟨⟩, there, tuple⟩
  rw [present] at there
  cases there
  refine ⟨?_, ⟨origin, other, incarnation, flow, found, ?_, sends.data⟩, fun _ given =>
    Station.mbufCtx_backs sends.sendable whole.symm headerLen olFlags given⟩
  · dsimp only [ParsedSegment.fin, SegmentTx.received]
    rw [sends.flags]
    decide
  · rw [tuple]
    dsimp only [tupleFromSegment, FourTuple.mirror, SegmentTx.received]
    rw [srcIp, dstIp, sends.srcIp, sends.dstIp, sends.srcPort, sends.dstPort]

/-- Where a segment with a piece of a stream stands in it. -/
theorem cutAt_of_carries {flow : Flow} {edge : Seq} {seg : ParsedSegment}
    {mbufCtx : Option MbufInsertCtx} (carries : flow.Carries seg.seq seg.payload)
    (base : flow.base = edge) (front : flow.bytes <+: stream) (noFin : seg.fin = false)
    (backed : ∀ ctx, mbufCtx = some ctx → ctx.next = [] ∧ ctx.Backs seg.payload)
    (short : stream.length < 2 ^ 31) {cur : ℕ} (inside : cur ≤ stream.length) :
    ∃ pos, CutAt stream edge cur pos seg mbufCtx := by
  rcases carries with ⟨pos, seq, fits, data⟩
  rcases front with ⟨rest, rfl⟩
  rw [List.length_append] at short inside
  have carried : carriedBytes seg mbufCtx = seg.payload := by
    unfold carriedBytes chainBytes
    cases mbufCtx with
    | none => exact List.append_nil _
    | some ctx =>
        dsimp only
        rw [(backed ctx rfl).1, List.flatMap_nil, List.append_nil]
  refine ⟨pos, ?_⟩
  constructor
  · rw [← base]
    exact seq
  · rw [carried, slice_append_left fits, data]
  · rw [carried, List.length_append]
    omega
  · rw [carried]
    omega
  · omega
  · rw [noFin]
    nofun
  · exact fun ctx given => (backed ctx given).2

/-- A stream that keeps apart has no data for the window. -/
theorem outside_of_apart {flow : Flow} {seg : ParsedSegment}
    (apart : flow.Apart (seqAdd conn.irs 1) stream.length)
    (carries : flow.Carries seg.seq seg.payload) (data : seg.payload ≠ []) {cur : ℕ}
    (inside : cur ≤ stream.length) (edge : conn.rcvNxt = point (seqAdd conn.irs 1) cur)
    (small : conn.rcvWnd ≤ 65535) : segInWindow conn seg = false := by
  rcases carries with ⟨pos, seq, fits, _⟩
  have positive := List.length_pos_of_ne_nil data
  have beyond := apart pos (by omega)
  rw [← seq] at beyond
  have ahead := offset_from_point (seqAdd conn.irs 1)
    (show cur ≤ offset (seqAdd conn.irs 1) seg.seq by omega)
  apply segInWindow_of_far data
  rw [edge, ahead]
  omega

/-- A segment that reaches a connection carries no data, lies outside the window, or carries a
piece of the stream at the other end. -/
theorem Sound.piece (sound : Network.Sound cfgs network)
    (software : ∀ place, (cfgs place).txCksumOffloadActive = false) {chain : RxChain}
    {olFlags : BitVec 64} (hears : (network.parties place).hears network.sent chain olFlags = true)
    {handle : ConnHandle} {parsed : ParsedSegment} {ip : L3Decoded}
    (routed : (network.parties place).station.handleIpv4 (chain.ipv4Frame olFlags) =
      (.matched handle parsed, some ip))
    (present : (network.parties place).station.host.engine.flowTable.get handle = some conn)
    (bounds : network.Bounds conn stream) (short : stream.length < 2 ^ 31) {cur : ℕ}
    (inside : cur ≤ stream.length) (edge : conn.rcvNxt = point (seqAdd conn.irs 1) cur) :
    (parsed.payload = [] ∨ segInWindow conn parsed = false) ∨ parsed.fin = false ∧ ∃ pos,
      CutAt stream (seqAdd conn.irs 1) cur pos parsed
        (Station.mbufCtx (chain.ipv4Frame olFlags) ip parsed) := by
  rcases sound.heard software hears routed present with
    bare | ⟨noFin, ⟨origin, other, incarnation, flow, found, mirrored, carries⟩, backed⟩
  · exact Or.inl (Or.inl bare)
  rcases bounds origin other incarnation flow found mirrored with ⟨base, front⟩ | apart
  · exact Or.inr ⟨noFin, cutAt_of_carries carries base front noFin backed short inside⟩
  · by_cases bare : parsed.payload = []
    · exact Or.inl (Or.inl bare)
    · exact Or.inl (Or.inr (outside_of_apart apart carries bare inside edge
        (sound.windows place handle conn present)))

theorem sound_start [DecidableEq Place] (maxConnections eventSoftCap : ℕ) :
    Network.Sound cfgs (Network.start cfgs maxConnections eventSoftCap) where
  senders place := Sender.sound_start (cfgs place) maxConnections eventSoftCap
  cfg _ := rfl
  indexed place := Station.indexed_start (cfgs place) maxConnections eventSoftCap [] false 0
  sent := nofun
  windows place handle conn live := by
    have none := Host.get_start (cfgs place) maxConnections eventSoftCap handle
    cases none.symm.trans live
  reads place handle conn live := by
    have none := Host.get_start (cfgs place) maxConnections eventSoftCap handle
    cases none.symm.trans live

/-- One host does something. -/
theorem Sound.perform [DecidableEq Place] (sound : Network.Sound cfgs network)
    (small : ∀ place, (cfgs place).tcpMss ≤ Engine.MAX_FRAMED) {call : DriverOp}
    (admitted : (network.parties place).sender.admissible call = true)
    (pieces : ∀ handle conn seg mbufCtx env stream,
      call = .system (.call (.segment handle seg mbufCtx env)) →
      (network.parties place).station.host.engine.flowTable.get handle = some conn →
      network.Bounds conn stream → stream.length < 2 ^ 31 → ∀ cur ≤ stream.length,
        conn.rcvNxt = point (seqAdd conn.irs 1) cur →
        (seg.payload = [] ∨ segInWindow conn seg = false) ∨ seg.fin = false ∧
          ∃ pos, CutAt stream (seqAdd conn.irs 1) cur pos seg mbufCtx) :
    Network.Sound cfgs
      ⟨Function.update network.parties place ((network.parties place).perform call),
        network.sent ++ (network.parties place).station.host.bursts call⟩ := by
  have framed : (network.parties place).sender.framed call = true := by
    apply Sender.framed_of_small
    rw [show (network.parties place).sender.host.engine.cfg = cfgs place from sound.cfg place]
    exact small place
  have stepped := (sound.senders place).step admitted framed
  have grows : ∀ other, (network.parties other).streams.Grows
      (Function.update network.parties place ((network.parties place).perform call) other).streams := by
    intro other
    by_cases here : other = place
    · rw [here, Function.update_self]
      exact (sound.senders place).grows call
    · rw [Function.update_of_ne here]
      exact .refl _
  have cfg : ((network.parties place).perform call).station.host.engine.cfg = cfgs place :=
    ((network.parties place).sender.step_cfg call).trans (sound.cfg place)
  -- the parties beside the one that acts, and the one that acts
  have each : ∀ {Holds : Place → Peer → Prop}, Holds place ((network.parties place).perform call) →
      (∀ other, Holds other (network.parties other)) → ∀ other, Holds other
        (Function.update network.parties place ((network.parties place).perform call) other) := by
    intro Holds acted rest other
    by_cases here : other = place
    · rw [here, Function.update_self]
      exact acted
    · rw [Function.update_of_ne here]
      exact rest other
  constructor
  · exact @each (fun _ peer => peer.sender.Sound) stepped.1 sound.senders
  · exact @each (fun other peer => peer.station.host.engine.cfg = cfgs other) cfg sound.cfg
  · refine @each (fun _ peer => peer.station.host.engine.flowTable.Indexed) ?_ sound.indexed
    cases call with
    | system op => exact Host.systemStep_indexed (sound.indexed place) op
    | trim index len =>
        dsimp only [Peer.perform, Host.driverStep]
        rw [Engine.trimFrame_only]
        exact sound.indexed place
  · intro bytes member
    rcases List.mem_append.mp member with before | new
    · rcases sound.sent bytes before with ⟨origin, backs⟩
      exact ⟨origin, backs.mono (grows origin)⟩
    · refine ⟨place, ?_⟩
      have backs := stepped.2 bytes new
      rw [show (network.parties place).sender.host.engine.cfg = cfgs place from sound.cfg place]
        at backs
      dsimp only
      rw [Function.update_self]
      exact backs
  · refine @each (fun _ peer => ∀ handle conn,
      peer.station.host.engine.flowTable.get handle = some conn → conn.rcvWnd ≤ 65535) ?_
      sound.windows
    intro handle conn live
    exact Peer.perform_rcvWnd live (sound.windows place handle)
  · intro other handle conn' live stream short known
    dsimp only at live ⊢
    by_cases here : other = place
    · subst here
      rw [Function.update_self] at live ⊢
      have before : ∀ conn,
          (network.parties other).station.host.engine.flowTable.get handle = some conn →
          conn.fourTuple = conn'.fourTuple → (conn.state ≠ .synSent → conn.irs = conn'.irs) →
          (conn'.state = .synSent → conn.state = .synSent) →
            conn.Reads stream (seqAdd conn.irs 1) ((network.parties other).taken handle) := by
        intro conn present tuple irs opening
        refine sound.reads other handle conn present stream short ?_
        by_cases opened : conn.state = .synSent
        · exact Or.inl opened
        · rcases known with opening' | bounds
          · exact absurd (opening opening') opened
          · exact Or.inr ((bounds.before grows).congr tuple (irs opened))
      refine Peer.perform_reads live before ?_
      intro conn seg mbufCtx env called present tuple irs opened edge
      have bounds : network.Bounds conn stream := by
        rcases known with opening | bounds
        · exact absurd opening opened
        · exact (bounds.before grows).congr tuple irs
      refine pieces handle conn seg mbufCtx env stream called present bounds short _ ?_ edge
      exact (sound.reads other handle conn present stream short (Or.inr bounds)).front.length_le
    · rw [Function.update_of_ne here] at live ⊢
      refine sound.reads other handle conn' live stream short ?_
      exact known.imp id fun bounds => bounds.before grows

theorem Sound.step [DecidableEq Place] (sound : Network.Sound cfgs network)
    (small : ∀ place, (cfgs place).tcpMss ≤ Engine.MAX_FRAMED)
    (software : ∀ place, (cfgs place).txCksumOffloadActive = false) {label : Place × PeerOp}
    (admitted : Network.admissible network label = true) :
    Network.Sound cfgs (Medium.step Peer.act network label) := by
  rcases label with ⟨place, op⟩
  rcases Bool.and_eq_true_iff.mp admitted with ⟨works, hears⟩
  cases called : (network.parties place).driverOp op with
  | none =>
      rw [step_none called]
      exact sound
  | some call =>
      rw [step_some called]
      rw [called] at works
      refine sound.perform small works ?_
      intro handle conn seg mbufCtx env stream same present bounds short cur inside edge
      cases op with
      | own own =>
          cases called
          rw [same] at hears
          cases hears
      | frame chain olFlags env =>
          rcases Option.map_eq_some_iff.mp called with ⟨segment, routes, rfl⟩
          rcases Station.segmentOp_some routes with ⟨target, parsed, ip, routed, rfl⟩
          cases same
          exact sound.piece software hears routed present bounds short inside edge

end Network

/-- The configuration of the host behind the gateway address of the other. -/
def farCfg : EngineConfig :=
  { quickCfg with
    localIp := 0x0a000001#32
    ourMac := quickCfg.gatewayMac
    gatewayMac := quickCfg.ourMac }

/-- The configurations of two hosts that are each other's gateway. -/
def twoEnds (far : Bool) : EngineConfig :=
  if far then farCfg else quickCfg

/-- A segment towards one of the two ends. -/
def segmentTo (far : Bool) (seq ack : Seq) (flags : Flags) (payload : List UInt8) : SegmentTx :=
  { srcMac := (twoEnds (!far)).ourMac
    dstMac := (twoEnds far).ourMac
    srcIp := (twoEnds (!far)).localIp
    dstIp := (twoEnds far).localIp
    srcPort := if far then 40000 else 5000
    dstPort := if far then 5000 else 40000
    seq := seq
    ack := ack
    flags := flags
    window := 1000
    options := {}
    payload := payload }

/-- The host opens a connection. -/
def connectFrom (tuple : FourTuple) (iss : Seq) : PeerOp :=
  .own (.system (.call
    (.connect tuple iss 1460 ⟨false, false, 0, 0, false, 0, false⟩ true 1000)))

/-- A frame arrives in one buffer. -/
def arriveAt (bytes : List UInt8) (small : bytes.length < 65536) : PeerOp :=
  .frame ⟨⟨7, bytes, small⟩, []⟩ 0#64 (inputAt 3000)

end DpdkTcp
