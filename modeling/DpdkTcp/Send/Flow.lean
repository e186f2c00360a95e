import DpdkTcp.Lib.Slice
import DpdkTcp.Send.Cut
import DpdkTcp.Wire.Offload
import DpdkTcp.Wire.FrameTrip

/-!
# The streams a host sends

What the send side is for: each connection carries one stream of bytes, numbered from behind its
initial sequence number on. `send_bytes` appends to the stream what it accepts, and a data frame
is right if its bytes are those of a segment that carries a piece of the stream. How a stream is
stored, sent and sent again plays no part here.
-/

namespace DpdkTcp

open Serial Slice

/-- The data stream of a connection: its addresses, the number of its first byte, and the bytes
accepted so far. -/
structure Flow where
  tuple : FourTuple
  base : Seq
  bytes : List UInt8
deriving DecidableEq

namespace Flow

variable {flow first second third : Flow}

/-- The number behind the last byte. -/
def edge (flow : Flow) : Seq :=
  point flow.base flow.bytes.length

/-- More bytes are accepted. -/
def accept (flow : Flow) (bytes : List UInt8) : Flow :=
  { flow with bytes := flow.bytes ++ bytes }

/-- The payload is the piece of the stream that starts at a sequence number. -/
def Carries (flow : Flow) (seq : Seq) (payload : List UInt8) : Prop :=
  ∃ pos, seq = point flow.base pos ∧ pos + payload.length ≤ flow.bytes.length ∧
    slice flow.bytes pos payload.length = payload

/-- A later state of the stream. -/
structure Extends (first second : Flow) : Prop where
  tuple : second.tuple = first.tuple
  base : second.base = first.base
  bytes : first.bytes <+: second.bytes

theorem Extends.refl (flow : Flow) : Extends flow flow :=
  ⟨rfl, rfl, List.prefix_refl _⟩

theorem Extends.trans (left : Extends first second) (right : Extends second third) :
    Extends first third :=
  ⟨right.tuple.trans left.tuple, right.base.trans left.base, left.bytes.trans right.bytes⟩

theorem extends_accept (flow : Flow) (bytes : List UInt8) : flow.Extends (flow.accept bytes) :=
  ⟨rfl, rfl, List.prefix_append _ _⟩

theorem accept_nil (flow : Flow) : flow.accept [] = flow := by
  unfold accept
  rw [List.append_nil]

theorem accept_accept (flow : Flow) (bytes more : List UInt8) :
    (flow.accept bytes).accept more = flow.accept (bytes ++ more) := by
  unfold accept
  rw [List.append_assoc]

theorem edge_accept (flow : Flow) (bytes : List UInt8) :
    (flow.accept bytes).edge = seqAdd flow.edge bytes.length := by
  unfold edge accept
  rw [List.length_append, point_add]
  rfl

/-- A piece of a stream stays one. -/
theorem Carries.mono {seq : Seq} {payload : List UInt8} (carries : first.Carries seq payload)
    (grows : first.Extends second) : second.Carries seq payload := by
  rcases carries with ⟨pos, number, inside, bytes⟩
  rcases grows.bytes with ⟨more, whole⟩
  refine ⟨pos, ?_, ?_, ?_⟩
  · rw [number, grows.base]
  · rw [← whole, List.length_append]
    omega
  · rw [← whole, slice_append_left inside, bytes]

/-- What is accepted is carried from the edge on. -/
theorem carries_accept (flow : Flow) (bytes : List UInt8) :
    (flow.accept bytes).Carries flow.edge bytes := by
  refine ⟨flow.bytes.length, rfl, ?_, slice_append_right flow.bytes bytes⟩
  unfold accept
  rw [List.length_append]

end Flow

/-- A segment with data of a stream. -/
structure SegmentTx.Sends (seg : SegmentTx) (cfg : EngineConfig) (flow : Flow) : Prop where
  srcMac : seg.srcMac = cfg.ourMac
  dstMac : seg.dstMac = cfg.gatewayMac
  srcIp : seg.srcIp = flow.tuple.localIp
  dstIp : seg.dstIp = flow.tuple.peerIp
  srcPort : seg.srcPort = flow.tuple.localPort
  dstPort : seg.dstPort = flow.tuple.peerPort
  flags : seg.flags = TCP_ACK ||| TCP_PSH
  sendable : seg.Sendable
  positive : 0 < seg.payload.length
  data : flow.Carries seg.seq seg.payload

theorem SegmentTx.Sends.mono {seg : SegmentTx} {cfg : EngineConfig} {first second : Flow}
    (sends : seg.Sends cfg first) (grows : first.Extends second) : seg.Sends cfg second :=
  { sends with
    srcIp := by rw [sends.srcIp, grows.tuple]
    dstIp := by rw [sends.dstIp, grows.tuple]
    srcPort := by rw [sends.srcPort, grows.tuple]
    dstPort := by rw [sends.dstPort, grows.tuple]
    data := sends.data.mono grows }

/-- The frame of a segment as it is handed to the driver, which fills in the checksums if they are
offloaded. -/
def SegmentTx.wire (seg : SegmentTx) (offload : Bool) : List UInt8 :=
  seg.frameWith (seg.totalIpLen seg.payload.length)
    (if offload then 0 else seg.ipCsum seg.payload.length)
    (if offload then seg.seed else seg.tcpCsum seg.payload) seg.payload

namespace SegmentTx

variable (seg : SegmentTx)

theorem length_frameWith (totalIpLen ipField tcpField : ℕ) (rest : List UInt8) :
    (seg.frameWith totalIpLen ipField tcpField rest).length =
      FRAME_HDRS_MIN + seg.options.encode.length + rest.length := by
  unfold frameWith FRAME_HDRS_MIN
  rw [List.length_append, List.length_append, List.length_append, length_ethHeader,
    length_ipHeader, length_tcpHeader]
  omega

variable {seg}

/-- What is built for a new segment is its frame. -/
theorem wire_of_buildSegment {room : ℕ} {frame : List UInt8}
    (built : buildSegment seg room = some frame) (offload : Bool) :
    txOffloadFinalize frame seg seg.payload.length offload = seg.wire offload ∧
      frame.length = FRAME_HDRS_MIN + seg.options.encode.length + seg.payload.length ∧
      seg.totalIpLen seg.payload.length ≤ 65535 := by
  rw [buildSegment_eq] at built
  split at built
  · cases built
  · split at built
    · cases built
    · rename_i fits
      cases built
      refine ⟨?_, seg.length_frameWith _ _ _ _, Nat.le_of_not_lt fits⟩
      cases offload with
      | false => rfl
      | true => exact txOffloadFinalize_frameWith seg _ _ _ _ seg rfl

/-- The header of a retransmission and the payload behind it are the frame of the segment. -/
theorem wire_of_buildRetransHeader {room : ℕ} {header : List UInt8}
    (built : buildRetransHeader { seg with payload := [] } seg.payload room = some header)
    (offload : Bool) :
    txOffloadFinalize header { seg with payload := [] } seg.payload.length offload ++
        seg.payload = seg.wire offload ∧
      header.length = FRAME_HDRS_MIN + seg.options.encode.length ∧
      seg.totalIpLen seg.payload.length ≤ 65535 := by
  rw [buildRetransHeader_eq] at built
  split at built
  · cases built
  · split at built
    · cases built
    · split at built
      · cases built
      · rename_i fits
        cases built
        refine ⟨?_, seg.length_frameWith _ _ _ _, Nat.le_of_not_lt fits⟩
        cases offload with
        | false => exact seg.frameWith_append ..
        | true =>
            rw [txOffloadFinalize_frameWith seg _ _ _ _ { seg with payload := [] } rfl,
              frameWith_append]
            rfl

end SegmentTx

/-- The options of a data segment: the timestamps, once negotiated. -/
theorem TcpConn.txOptions_fit (conn : TcpConn) (nowNs : ℕ) :
    (conn.txOptions nowNs).Canonical ∧ (conn.txOptions nowNs).wsClamped = false ∧
      (conn.txOptions nowNs).encodedLen ≤ 12 := by
  refine ⟨⟨fun _ => nofun, Nat.zero_le _, fun index slot _ => ?_⟩, rfl, ?_⟩
  · exact Vector.getElem_replicate slot
  · unfold txOptions
    split
    · exact Nat.le_refl _
    · exact Nat.zero_le _

namespace Engine

/-- A data segment of a connection may be sent, if the lengths fit their fields. -/
theorem segmentTx_sendable (engine : Engine) (conn : TcpConn) (seq : Seq) (optionsNs : ℕ)
    {payload : List UInt8}
    (fits : (engine.segmentTx conn seq (TCP_ACK ||| TCP_PSH) (conn.txOptions optionsNs)
      payload).totalIpLen payload.length ≤ 65535) :
    (engine.segmentTx conn seq (TCP_ACK ||| TCP_PSH) (conn.txOptions optionsNs)
      payload).Sendable where
  canonical := (conn.txOptions_fit optionsNs).1
  unclamped := (conn.txOptions_fit optionsNs).2.1
  optionsFit := (conn.txOptions_fit optionsNs).2.2.trans (by decide)
  noSynFin := fun both =>
    absurd both.1 (by decide : (TCP_ACK ||| TCP_PSH).has TCP_SYN ≠ true)
  noRstSyn := fun both =>
    absurd both.1 (by decide : (TCP_ACK ||| TCP_PSH).has TCP_RST ≠ true)
  window := by
    dsimp only [segmentTx, TcpConn.advertisedWindow]
    omega
  fits := fits

/-- A data segment with bytes of the stream of its connection. -/
theorem segmentTx_sends {engine : Engine} {conn : TcpConn} {flow : Flow} {seq : Seq}
    {optionsNs : ℕ} {payload : List UInt8} (tuple : conn.fourTuple = flow.tuple)
    (fits : (engine.segmentTx conn seq (TCP_ACK ||| TCP_PSH) (conn.txOptions optionsNs)
      payload).totalIpLen payload.length ≤ 65535)
    (positive : 0 < payload.length) (carries : flow.Carries seq payload) :
    (engine.segmentTx conn seq (TCP_ACK ||| TCP_PSH) (conn.txOptions optionsNs) payload).Sends
      engine.cfg flow where
  srcMac := rfl
  dstMac := rfl
  srcIp := congrArg FourTuple.localIp tuple
  dstIp := congrArg FourTuple.peerIp tuple
  srcPort := congrArg FourTuple.localPort tuple
  dstPort := congrArg FourTuple.peerPort tuple
  flags := rfl
  sendable := segmentTx_sendable engine conn seq optionsNs fits
  positive := positive
  data := carries

end Engine

/-- The streams of a host: that of the connection a handle stood for after so many calls of
`connect`. -/
abbrev Streams := ConnHandle → ℕ → Option Flow

namespace Streams

variable {first second third : Streams}

/-- The streams with one of them written. -/
def write (streams : Streams) (handle : ConnHandle) (incarnation : ℕ) (flow : Flow) : Streams :=
  fun other turn => if other = handle ∧ turn = incarnation then some flow else streams other turn

theorem get_write (streams : Streams) (handle : ConnHandle) (incarnation : ℕ) (flow : Flow)
    (other : ConnHandle) (turn : ℕ) :
    streams.write handle incarnation flow other turn =
      if other = handle ∧ turn = incarnation then some flow else streams other turn :=
  rfl

/-- A later state: streams are opened or extended. -/
def Grows (first second : Streams) : Prop :=
  ∀ handle incarnation flow, first handle incarnation = some flow →
    ∃ later, second handle incarnation = some later ∧ flow.Extends later

theorem Grows.refl (streams : Streams) : Grows streams streams :=
  fun _ _ flow found => ⟨flow, found, .refl flow⟩

theorem Grows.trans (left : Grows first second) (right : Grows second third) :
    Grows first third := by
  intro handle incarnation flow found
  rcases left handle incarnation flow found with ⟨later, foundLater, grows⟩
  rcases right handle incarnation later foundLater with ⟨last, foundLast, growsLast⟩
  exact ⟨last, foundLast, grows.trans growsLast⟩

/-- A stream is opened where there was none, or extended. -/
theorem grows_write (streams : Streams) {handle : ConnHandle} {incarnation : ℕ} {flow : Flow}
    (later : ∀ before, streams handle incarnation = some before → before.Extends flow) :
    Grows streams (streams.write handle incarnation flow) := by
  intro other turn before found
  by_cases same : other = handle ∧ turn = incarnation
  · rcases same with ⟨rfl, rfl⟩
    exact ⟨flow, if_pos ⟨rfl, rfl⟩, later before found⟩
  · exact ⟨before, (if_neg same).trans found, .refl before⟩

/-- The bytes are the frame of a segment with data of one of the streams. -/
def Backs (streams : Streams) (cfg : EngineConfig) (bytes : List UInt8) : Prop :=
  ∃ (handle : ConnHandle) (incarnation : ℕ) (flow : Flow) (seg : SegmentTx),
    streams handle incarnation = some flow ∧ seg.Sends cfg flow ∧
      bytes = seg.wire cfg.txCksumOffloadActive

theorem Backs.mono {cfg : EngineConfig} {bytes : List UInt8} (backs : first.Backs cfg bytes)
    (grows : Grows first second) : second.Backs cfg bytes := by
  rcases backs with ⟨handle, incarnation, flow, seg, found, sends, wire⟩
  rcases grows handle incarnation flow found with ⟨later, foundLater, grown⟩
  exact ⟨handle, incarnation, later, seg, foundLater, sends.mono grown, wire⟩

end Streams

end DpdkTcp
