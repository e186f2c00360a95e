import DpdkTcp.Receive.Stream

/-!
# Stream integrity and FIN consumption

The two results about whole runs of the receive path, each with the run that
shows where the code departs from it: a FIN segment whose payload the receive
buffer cuts short is taken for complete.
-/

namespace DpdkTcp

open Slice Serial

/-- The segment's bytes are in one buffer without further links. -/
def SingleLink (mbufCtx : Option MbufInsertCtx) : Prop :=
  ∃ mbuf payloadOffset, mbufCtx = some ⟨mbuf, payloadOffset, []⟩

section Runs

variable (stream : List UInt8) (base : Seq) (start : ℕ)

/-- Segments of the stream in any order, buffer shape and number; pops at any time. -/
def FromStream (receiver : Receiver) : ReceiveOp → Prop
  | .segment seg _ _ mbufCtx => CutFrom stream base start receiver seg mbufCtx
  | .pop _ => True

/-- Segments of the stream that each come in one buffer. -/
def FromStreamSingle (receiver : Receiver) : ReceiveOp → Prop
  | .segment seg _ _ mbufCtx =>
      CutFrom stream base start receiver seg mbufCtx ∧ SingleLink mbufCtx
  | .pop _ => True

/-- No FIN segment that is processed in order is longer than the free space. -/
def FinInRoom (receiver : Receiver) : ReceiveOp → Prop
  | .segment seg clock _ _ =>
      receiver.conn.state = .established →
        receiver.conn.acceptable seg clock.paws = true → receiver.conn.ackKnown seg = true →
          seg.fin = true → seg.seq = receiver.conn.rcvNxt →
            seg.payload.length ≤ receiver.conn.recv.freeSpace
  | .pop _ => True

/-- No FIN segment that is processed in order is cut short, for want of room or of a buffer. -/
def FinWhole (receiver : Receiver) : ReceiveOp → Prop
  | .segment seg clock _ mbufCtx => FinFits receiver.conn seg clock mbufCtx
  | .pop _ => True

variable {stream base start}

theorem FinInRoom.finWhole {receiver : Receiver} {op : ReceiveOp} (room : FinInRoom receiver op)
    (cut : FromStreamSingle stream base start receiver op) :
    FinWhole receiver op := by
  cases op with
  | pop count => trivial
  | segment seg clock sendBuf mbufCtx =>
      rcases cut.2 with ⟨mbuf, payloadOffset, rfl⟩
      intro established acceptable known fin inOrder
      have short := room established acceptable known fin inOrder
      by_cases empty : seg.payload = []
      · exact Or.inl (by simp [carriedBytes, chainBytes, empty])
      · exact Or.inr ⟨empty, rfl, by simpa [carriedBytes, chainBytes] using short⟩

theorem FromStreamSingle.fromStream {receiver : Receiver} {op : ReceiveOp}
    (cut : FromStreamSingle stream base start receiver op) :
    FromStream stream base start receiver op := by
  cases op with
  | pop count => trivial
  | segment seg clock sendBuf mbufCtx => exact cut.1

/-- Every state of a run without shortened FIN segments is sound. -/
theorem sound_of_reaches {conn : TcpConn} {receiver : Receiver}
    (established : conn.state = .established) (noBytes : conn.recv.bytes = [])
    (noReorder : conn.recv.reorder.segments = []) (edge : conn.rcvNxt = point base start)
    (inside : start ≤ stream.length)
    (run : Run.Reaches receiveStep
      (fun receiver op => FromStream stream base start receiver op ∧ FinWhole receiver op)
      (Receiver.init conn) receiver) :
    receiver.Sound stream base start := by
  refine run.invariant (Receiver.Sound.init established noBytes noReorder edge inside) ?_
  intro state op sound taken
  cases op with
  | segment seg clock sendBuf mbufCtx => exact sound.segment taken.1 taken.2
  | pop count => exact sound.pop count

/-- In every run of segments of one stream, each in one buffer, and of pops, in
which no FIN segment processed in order exceeds the free space, the bytes
popped and queued are the stream from the initial `rcv_nxt` to the current one. -/
theorem received_stream_intact {conn : TcpConn} {receiver : Receiver}
    (established : conn.state = .established) (noBytes : conn.recv.bytes = [])
    (noReorder : conn.recv.reorder.segments = []) (edge : conn.rcvNxt = point base start)
    (inside : start ≤ stream.length)
    (run : Run.Reaches receiveStep
      (fun receiver op => FromStreamSingle stream base start receiver op ∧ FinInRoom receiver op)
      (Receiver.init conn) receiver) :
    receiver.Intact stream base start := by
  refine (sound_of_reaches established noBytes noReorder edge inside (run.mono ?_)).intact
  intro state op taken
  exact ⟨taken.1.fromStream, taken.2.finWhole taken.1⟩

/-- In every run of segments of one stream, in any buffer shape, in which no FIN
segment processed in order is cut short, a step to CLOSE_WAIT happens with
every byte of the stream accepted and leaves `rcv_nxt` one behind its end. -/
theorem fin_consumed_behind_stream {conn : TcpConn} {receiver : Receiver}
    (established : conn.state = .established) (noBytes : conn.recv.bytes = [])
    (noReorder : conn.recv.reorder.segments = []) (edge : conn.rcvNxt = point base start)
    (inside : start ≤ stream.length)
    (run : Run.Reaches receiveStep
      (fun receiver op => FromStream stream base start receiver op ∧ FinWhole receiver op)
      (Receiver.init conn) receiver)
    {seg : ParsedSegment} {clock : Readings} {sendBuf : ℕ} {mbufCtx : Option MbufInsertCtx}
    (cut : FromStream stream base start receiver (.segment seg clock sendBuf mbufCtx))
    (whole : FinWhole receiver (.segment seg clock sendBuf mbufCtx))
    (consumed : (dispatch receiver.conn seg clock sendBuf mbufCtx).outcome.newState =
      some .closeWait) :
    start + (receiveStep receiver (.segment seg clock sendBuf mbufCtx)).accepted.length =
        stream.length ∧
      (receiveStep receiver (.segment seg clock sendBuf mbufCtx)).conn.rcvNxt =
        point base (stream.length + 1) := by
  have sound := sound_of_reaches established noBytes noReorder edge inside
    (.tail (.segment seg clock sendBuf mbufCtx) run ⟨cut, whole⟩)
  have state : (receiveStep receiver (.segment seg clock sendBuf mbufCtx)).conn.state =
      .closeWait := by
    simp [receiveStep, Dispatched.applied_state, consumed]
  cases sound.phase with
  | «open» established' _ _ =>
      rw [state] at established'
      cases established'
  | dead closed =>
      rw [state] at closed
      cases closed
  | finished _ finConsumed complete =>
      refine ⟨complete, ?_⟩
      rw [sound.intact.rcvNxt, finConsumed, complete, Bool.toNat_true]

end Runs

/-! ### A shortened FIN segment -/

/-- Five bytes of the peer, the first with sequence number 201. -/
def fiveBytes : List UInt8 := [1, 2, 3, 4, 5]

/-- An opened connection with room for four bytes. -/
def fourByteConn : TcpConn :=
  opened 100#32 200#32 4 1000 5000

/-- Bytes in a buffer of their own. -/
def inBuffer (addr : ℕ) (data : List UInt8) (small : data.length < 65536) : Option MbufInsertCtx :=
  some ⟨⟨addr, data, small⟩, 0, []⟩

/-- The first two bytes, which stay in the receive buffer. -/
def firstTwo : ReceiveOp :=
  .segment (peerSegment 201#32 101#32 TCP_ACK 5000 [1, 2]) (Readings.at 5) 1000
    (inBuffer 1 [1, 2] (by decide))

/-- The last three bytes of the peer, with its FIN. -/
def lastThreeSegment : ParsedSegment :=
  peerSegment 203#32 101#32 (TCP_ACK ||| TCP_FIN) 5000 [3, 4, 5]

/-- The buffer they came in. -/
def lastThreeBuffer : Option MbufInsertCtx :=
  inBuffer 2 [3, 4, 5] (by decide)

/-- The last three bytes with the FIN; two of them still fit. -/
def lastThreeFin : ReceiveOp :=
  .segment lastThreeSegment (Readings.at 6) 1000 lastThreeBuffer

/-- The FIN alone, resent. -/
def bareFin : ReceiveOp :=
  .segment (peerSegment 206#32 101#32 (TCP_ACK ||| TCP_FIN) 5000 []) (Readings.at 7) 1000
    (inBuffer 3 [] (by decide))

theorem firstTwo_fromStream :
    FromStreamSingle fiveBytes 201#32 0 (Receiver.init fourByteConn) firstTwo := by
  refine ⟨Or.inr ⟨0, by decide, by decide, by decide, by decide, by decide, by decide, ?_⟩,
    _, _, rfl⟩
  rintro ctx ⟨⟩
  rfl

theorem lastThreeFin_fromStream :
    FromStreamSingle fiveBytes 201#32 0 (receiveStep (Receiver.init fourByteConn) firstTwo)
      lastThreeFin := by
  refine ⟨Or.inr ⟨2, by decide, by decide, by decide, by decide, by decide, by decide, ?_⟩,
    _, _, rfl⟩
  rintro ctx ⟨⟩
  rfl

theorem bareFin_fromStream :
    FromStreamSingle fiveBytes 201#32 0
      (receiveStep (receiveStep (Receiver.init fourByteConn) firstTwo) lastThreeFin) bareFin := by
  refine ⟨Or.inr ⟨5, by decide, by decide, by decide, by decide, by decide, by decide, ?_⟩,
    _, _, rfl⟩
  rintro ctx ⟨⟩
  rfl

/-- The theorem on the run that takes the first two bytes. -/
theorem received_stream_intact_firstTwo :
    (receiveStep (Receiver.init fourByteConn) firstTwo).Intact fiveBytes 201#32 0 :=
  received_stream_intact (by decide) (by decide) (by decide) (by decide) (by decide)
    (.tail firstTwo .refl ⟨firstTwo_fromStream, fun _ _ _ fin => absurd fin (by decide)⟩)

/-- After the shortened FIN segment a second FIN is consumed: `rcv_nxt` is behind
the end of the stream and the fifth byte was never accepted. -/
theorem shortened_fin_loses_bytes :
    ¬ ∀ (stream : List UInt8) (base : Seq) (start : ℕ) (conn : TcpConn) (receiver : Receiver),
        conn.state = .established → conn.recv.bytes = [] → conn.recv.reorder.segments = [] →
        conn.rcvNxt = point base start → start ≤ stream.length →
        Run.Reaches receiveStep (FromStreamSingle stream base start) (Receiver.init conn) receiver →
        receiver.Intact stream base start := by
  intro integrity
  have run : Run.Reaches receiveStep (FromStreamSingle fiveBytes 201#32 0)
      (Receiver.init fourByteConn) _ :=
    .tail bareFin
      (.tail lastThreeFin (.tail firstTwo .refl firstTwo_fromStream) lastThreeFin_fromStream)
      bareFin_fromStream
  have intact := integrity fiveBytes 201#32 0 fourByteConn _ (by decide) (by decide) (by decide)
    (by decide) (by decide) run
  exact absurd intact.rcvNxt (by decide)

/-- The first two bytes are taken and popped. -/
def poppedTwo : Receiver :=
  receiveStep (receiveStep (Receiver.init fourByteConn) firstTwo) (.pop 2)

theorem poppedTwo_reached :
    Run.Reaches receiveStep
      (fun receiver op => FromStream fiveBytes 201#32 0 receiver op ∧ FinWhole receiver op)
      (Receiver.init fourByteConn) poppedTwo := by
  have taken : Run.Reaches receiveStep
      (fun receiver op => FromStream fiveBytes 201#32 0 receiver op ∧ FinWhole receiver op)
      (Receiver.init fourByteConn) (receiveStep (Receiver.init fourByteConn) firstTwo) := by
    refine .tail firstTwo .refl ⟨firstTwo_fromStream.fromStream, ?_⟩
    intro _ _ _ fin
    exact absurd fin (by decide)
  have popAllowed : FromStream fiveBytes 201#32 0
        (receiveStep (Receiver.init fourByteConn) firstTwo) (.pop 2) ∧
      FinWhole (receiveStep (Receiver.init fourByteConn) firstTwo) (.pop 2) :=
    ⟨trivial, trivial⟩
  exact .tail (.pop 2) taken popAllowed

theorem lastThreeSegment_cut :
    FromStream fiveBytes 201#32 0 poppedTwo
      (.segment lastThreeSegment (Readings.at 6) 1000 lastThreeBuffer) := by
  refine Or.inr ⟨2, by decide, by decide, by decide, by decide, by decide, by decide, ?_⟩
  rintro ctx ⟨⟩
  rfl

theorem lastThreeSegment_whole :
    FinWhole poppedTwo (.segment lastThreeSegment (Readings.at 6) 1000 lastThreeBuffer) := by
  intro _ _ _ _ _
  exact Or.inr ⟨by decide, by decide, by decide⟩

/-- The FIN segment with the last three bytes, once the first two were popped. -/
theorem fin_consumed_behind_stream_popped :
    0 + (receiveStep poppedTwo
          (.segment lastThreeSegment (Readings.at 6) 1000 lastThreeBuffer)).accepted.length =
        fiveBytes.length ∧
      (receiveStep poppedTwo
          (.segment lastThreeSegment (Readings.at 6) 1000 lastThreeBuffer)).conn.rcvNxt =
        point 201#32 (fiveBytes.length + 1) :=
  fin_consumed_behind_stream (by decide) (by decide) (by decide) (by decide) (by decide)
    poppedTwo_reached lastThreeSegment_cut lastThreeSegment_whole (by decide)

/-- The shortened FIN segment moves the connection to CLOSE_WAIT with four of five bytes accepted. -/
theorem shortened_fin_consumed :
    ¬ ∀ (stream : List UInt8) (base : Seq) (start : ℕ) (conn : TcpConn) (receiver : Receiver)
        (seg : ParsedSegment) (clock : Readings) (sendBuf : ℕ) (mbufCtx : Option MbufInsertCtx),
        conn.state = .established → conn.recv.bytes = [] → conn.recv.reorder.segments = [] →
        conn.rcvNxt = point base start → start ≤ stream.length →
        Run.Reaches receiveStep (FromStream stream base start) (Receiver.init conn) receiver →
        FromStream stream base start receiver (.segment seg clock sendBuf mbufCtx) →
        (dispatch receiver.conn seg clock sendBuf mbufCtx).outcome.newState = some .closeWait →
        start + (receiveStep receiver (.segment seg clock sendBuf mbufCtx)).accepted.length =
            stream.length ∧
          (receiveStep receiver (.segment seg clock sendBuf mbufCtx)).conn.rcvNxt =
            point base (stream.length + 1) := by
  intro finAtEnd
  have run : Run.Reaches receiveStep (FromStream fiveBytes 201#32 0)
      (Receiver.init fourByteConn) _ :=
    .tail firstTwo .refl firstTwo_fromStream.fromStream
  have complete := finAtEnd fiveBytes 201#32 0 fourByteConn _ _ _ _ _ (by decide) (by decide)
    (by decide) (by decide) (by decide) run lastThreeFin_fromStream.fromStream (by decide)
  exact absurd complete.1 (by decide)

end DpdkTcp
