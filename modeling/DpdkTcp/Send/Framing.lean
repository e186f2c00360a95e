import DpdkTcp.Send.Integrity

/-!
# Frames longer than their length field

`send_bytes` makes room in the buffer for `n as u16` bytes of a frame of `n` bytes. As long as the
frames of all calls are shorter than 64 KiB, or so long that none is built, every frame carries a
piece of a stream. A frame between the two reaches the ring cut down to a few bytes.
-/

namespace DpdkTcp

namespace Engine

variable {conn : TcpConn} {mssCap : ℕ} {env : SendEnv} {sending : Sending}

/-- A segment is built if its packet fits. -/
theorem dataSegment_builds
    (fits : conn.frameLen (min sending.rest.length mssCap) ≤ 65535 + ETH_HDR_LEN) :
    ∃ frame, buildSegment (dataSegment conn mssCap env sending)
      (FRAME_HDRS_MIN + 40 + min sending.rest.length mssCap) = some frame := by
  have length := length_dataSegment conn mssCap env sending
  have options : (dataSegment conn mssCap env sending).options.encodedLen = conn.optionBytes :=
    conn.encodedLen_txOptions env.optionsNs
  have small : conn.optionBytes ≤ 12 := by
    unfold TcpConn.optionBytes
    split <;> decide
  unfold TcpConn.frameLen FRAME_HDRS_MIN at fits
  dsimp only [buildSegment, buildSegmentInner]
  rw [SegmentTx.tcpHdrLen, options, length, if_neg, if_neg]
  · exact ⟨_, rfl⟩
  · omega
  · unfold FRAME_HDRS_MIN
    omega

/-- The ring and the buffers stay. -/
structure SameBuffers (before after : Engine) : Prop where
  ring : after.txPendingData = before.txPendingData
  mbufs : after.mbufs = before.mbufs

theorem stashEntry_sameBuffers (engine : Engine) (handle : ConnHandle) (entry : RetransEntry) :
    SameBuffers engine (engine.stashEntry handle entry) := by
  dsimp only [stashEntry]
  split
  · split
    · unfold armRto
      split
      · exact ⟨rfl, rfl⟩
      · split <;> exact ⟨rfl, rfl⟩
    · exact ⟨rfl, rfl⟩
  · exact ⟨rfl, rfl⟩

theorem finishSend_sameBuffers (sending : Sending) (handle : ConnHandle) (wanted tlpNs : ℕ) :
    SameBuffers sending.engine (finishSend sending handle wanted tlpNs) := by
  dsimp only [finishSend]
  split
  · unfold armTlpPto
    split
    · exact ⟨rfl, rfl⟩
    · split <;> exact ⟨rfl, rfl⟩
  · exact ⟨rfl, rfl⟩

/-- A frame that finds room in the ring waits there with what was written. -/
theorem frame_waits (engine : Engine) (handle : ConnHandle) (mbuf : ℕ) (data : List UInt8)
    (first : FirstSent) (headPayload sent : ℕ) (entry : RetransEntry)
    (room : engine.txPendingData.length < engine.cfg.txRingSize) :
    ∃ frame ∈ (((engine.withFrame mbuf data first).pushTxPendingData
        ⟨[mbuf], headPayload, some first⟩ sent).stashEntry handle entry).txPendingData,
      (((engine.withFrame mbuf data first).pushTxPendingData
        ⟨[mbuf], headPayload, some first⟩ sent).stashEntry handle entry).frameBytes frame = data := by
  have same := stashEntry_sameBuffers ((engine.withFrame mbuf data first).pushTxPendingData
    ⟨[mbuf], headPayload, some first⟩ sent) handle entry
  refine ⟨⟨[mbuf], headPayload, some first⟩, ?_, ?_⟩
  · have roomLeft : (engine.withFrame mbuf data first).txPendingData.length <
        (engine.withFrame mbuf data first).cfg.txRingSize := room
    rw [same.ring, pushTxPendingData, if_pos roomLeft]
    exact List.mem_append_right _ List.mem_cons_self
  · rw [frameBytes, List.flatMap_singleton, same.mbufs, data_pushTxPendingData, data_withFrame,
      if_pos rfl]

/-- A turn whose frame has a length of more than 16 bits pushes less than a header. -/
theorem sendSegment_overlong {handle : ConnHandle} {mbuf : ℕ}
    (long : 65535 < conn.frameLen (min sending.rest.length mssCap))
    (packet : conn.frameLen (min sending.rest.length mssCap) ≤ 65535 + ETH_HDR_LEN)
    (handed : env.dataMbuf = some mbuf) (appended : env.appended = true)
    (room : sending.engine.txPendingData.length < sending.engine.cfg.txRingSize) :
    ∃ next, sendSegment conn handle mssCap env sending = .sent next ∧
      next.rest = sending.rest.drop (min sending.rest.length mssCap) ∧
      ∃ frame ∈ next.engine.txPendingData,
        (next.engine.frameBytes frame).length < FRAME_HDRS_MIN := by
  rcases @dataSegment_builds conn mssCap env sending packet with ⟨frame, built⟩
  have cut : asU16 frame.length < FRAME_HDRS_MIN := by
    rw [(length_of_built built).1]
    unfold ETH_HDR_LEN at packet
    unfold asU16 FRAME_HDRS_MIN ETH_HDR_LEN IPV4_HDR_MIN TCP_HDR_MIN
    omega
  have written : ∀ (seg : SegmentTx) (len : ℕ) (offload : Bool),
      (txOffloadFinalize (frame.take (asU16 frame.length)) seg len offload).length <
        FRAME_HDRS_MIN := by
    intro seg len offload
    have short : (frame.take (asU16 frame.length)).length < FRAME_HDRS_MIN := by
      rw [List.length_take]
      omega
    unfold txOffloadFinalize txOffloadRewriteCksums
    rw [if_pos short, ite_self]
    exact short
  dsimp only [dataSegment] at built
  dsimp only [sendSegment]
  rw [built, handed]
  dsimp only
  rw [appended]
  refine ⟨_, rfl, rfl, ?_⟩
  rcases frame_waits sending.engine handle mbuf _ _ (min sending.rest.length mssCap) env.sentFull
    (newEntry sending.curSeq (min sending.rest.length mssCap) frame.length mbuf env.nowNs) room with
    ⟨waiting, member, bytes⟩
  exact ⟨waiting, member, Nat.lt_of_le_of_lt (Nat.le_of_eq (congrArg List.length bytes))
    (written _ _ _)⟩

/-- A call that sends all its bytes in such a frame leaves less than a header in the ring. -/
theorem sendBytes_overlong {engine : Engine} {handle : ConnHandle} {bytes : List UInt8}
    {envs : ℕ → SendEnv} {mbuf : ℕ} (present : engine.flowTable.get handle = some conn)
    (running : conn.state = .established) (whole : engine.admitted conn bytes = bytes)
    (one : bytes.length ≤ engine.mssCap conn) (some : bytes ≠ [])
    (long : 65535 < conn.frameLen bytes.length)
    (packet : conn.frameLen bytes.length ≤ 65535 + ETH_HDR_LEN)
    (handed : (envs 0).dataMbuf = Option.some mbuf) (appended : (envs 0).appended = true)
    (free : (engine.mbufs mbuf).refcnt = 0)
    (room : engine.txPendingData.length < engine.cfg.txRingSize) (tlpNs : ℕ) :
    engine.sendBytesFree handle bytes envs = true ∧
      ∃ frame ∈ (engine.sendBytes handle bytes envs tlpNs).1.txPendingData,
        ((engine.sendBytes handle bytes envs tlpNs).1.frameBytes frame).length <
          FRAME_HDRS_MIN := by
  have all : min bytes.length (engine.mssCap conn) = bytes.length := Nat.min_eq_left one
  rcases @sendSegment_overlong conn (engine.mssCap conn) (envs 0) ⟨engine, bytes, 0, conn.sndNxt⟩
    handle mbuf (by rw [all]; exact long) (by rw [all]; exact packet) handed appended room with
    ⟨next, turn, rest, frame, member, short⟩
  have done : next.rest = [] := by
    rw [rest, all]
    exact List.drop_length
  -- the loop stops behind the one segment
  have ended : ∀ turns envs', sendSegments conn handle (engine.mssCap conn) turns envs' next =
      .stopped next := by
    intro turns envs'
    cases turns with
    | zero => rfl
    | succ turns => rw [sendSegments, if_pos done]
  have endedFree : ∀ turns envs', sendFree conn handle (engine.mssCap conn) turns envs' next =
      true := by
    intro turns envs'
    cases turns with
    | zero => rfl
    | succ turns => rw [sendFree, decide_eq_true done, Bool.true_or]
  constructor
  · rw [sendBytesFree, present, Option.all_some, whole, sendFree, turn]
    dsimp only
    rw [endedFree, handed, handsOutFree, Option.all_some, decide_eq_true free, Bool.and_true,
      Bool.or_true, Bool.or_true]
  · have same := finishSend_sameBuffers next handle bytes.length tlpNs
    dsimp only [sendBytes]
    rw [present]
    dsimp only
    rw [if_neg (not_not.mpr running), whole, sendSegments, if_neg some, turn]
    dsimp only
    rw [ended]
    refine ⟨frame, ?_, ?_⟩
    · rw [same.ring]
      exact member
    · rw [frameBytes, same.mbufs]
      exact short

end Engine

section Runs

variable {cfg : EngineConfig} {maxConnections eventSoftCap : ℕ} {sender : Sender}

/-- In every run whose frames are copied whole or not built, the frames in the ring and those that
the next step offers to the driver carry pieces of the streams, and no buffer is in two frames of
the ring. -/
theorem sent_frames_exact
    (run : Run.Reaches Sender.step
      (fun sender op => (sender.admissible op && sender.framed op) = true)
      (Sender.start cfg maxConnections eventSoftCap) sender) :
    (∀ frame ∈ sender.host.engine.txPendingData,
        sender.streams.Backs cfg (sender.host.engine.frameBytes frame)) ∧
      (sender.host.engine.txPendingData.flatMap TxFrame.segs).Nodup ∧
      ∀ op, sender.admissible op = true → sender.framed op = true →
        ∀ bytes ∈ sender.host.bursts op, (sender.step op).streams.Backs cfg bytes := by
  have sound := Sender.sound_of_framed run
  have same := Sender.cfg_of_reaches
    (run.mono fun _ _ taken => (Bool.and_eq_true_iff.mp taken).1)
  rw [← same]
  exact ⟨sound.faithful.ring, sound.faithful.apart,
    fun op admitted framed => (sound.step admitted framed).2⟩

/-- A frame that carries a piece of a stream has at least its headers. -/
theorem Streams.Backs.length_le {streams : Streams} {bytes : List UInt8}
    (backs : streams.Backs cfg bytes) : FRAME_HDRS_MIN ≤ bytes.length := by
  rcases backs with ⟨handle, incarnation, flow, seg, _, _, rfl⟩
  rw [SegmentTx.wire, SegmentTx.length_frameWith]
  omega

theorem sent_frames_exact_trimmedThenSent :
    (∀ frame ∈ (Sender.after trimmedThenSent).host.engine.txPendingData,
        (Sender.after trimmedThenSent).streams.Backs quickCfg
          ((Sender.after trimmedThenSent).host.engine.frameBytes frame)) ∧
      ((Sender.after trimmedThenSent).host.engine.txPendingData.flatMap TxFrame.segs).Nodup ∧
      ∀ bytes ∈ (Sender.after trimmedThenSent).host.bursts (.system (.call (.flush 1))),
        ((Sender.after trimmedThenSent).step (.system (.call (.flush 1)))).streams.Backs quickCfg
          bytes := by
  have facts := sent_frames_exact (Run.Reaches.of_admits (by decide +kernel :
    Run.admits Sender.step (fun sender op => sender.admissible op && sender.framed op)
      (Sender.start quickCfg 1 64) trimmedThenSent = true))
  exact ⟨facts.1, facts.2.1, facts.2.2 _ (by decide) (by decide)⟩

/-- An MSS as large as the field allows, on both sides. -/
def jumboCfg : EngineConfig :=
  { quickCfg with tcpMss := 65535, sendBufferBytes := 65536 }

/-- The handshake with a peer that offers this MSS and a full window. -/
def jumboHandshake : List DriverOp :=
  [.connect ⟨0x0a000002#32, 40000, 0x0a000001#32, 5000⟩ 100#32 1460
      ⟨false, false, 0, 0, false, 0, false⟩ true 1000,
    .segment 1 { synAck 100#32 200#32 65535 with options := [2, 4, 255, 255] } none
      (inputAt 1000)].map fun op => .system (.call op)

/-- A call that sends all its bytes in a frame with a length of 17 bits leads to a frame in the ring
that carries no piece of a stream. -/
theorem overlong_reached
    (run : Run.Reaches Sender.step (fun sender op => sender.admissible op = true)
      (Sender.start cfg maxConnections eventSoftCap) sender) {handle : ConnHandle} {conn : TcpConn}
    {bytes : List UInt8} {envs : ℕ → SendEnv} {mbuf : ℕ}
    (present : sender.host.engine.flowTable.get handle = some conn)
    (running : conn.state = .established) (whole : sender.host.engine.admitted conn bytes = bytes)
    (one : bytes.length ≤ sender.host.engine.mssCap conn) (some : bytes ≠ [])
    (long : 65535 < conn.frameLen bytes.length)
    (packet : conn.frameLen bytes.length ≤ 65535 + ETH_HDR_LEN)
    (handed : (envs 0).dataMbuf = Option.some mbuf) (appended : (envs 0).appended = true)
    (free : (sender.host.engine.mbufs mbuf).refcnt = 0)
    (room : sender.host.engine.txPendingData.length < sender.host.engine.cfg.txRingSize)
    (tlpNs : ℕ) :
    ∃ after, Run.Reaches Sender.step (fun sender op => sender.admissible op = true)
        (Sender.start cfg maxConnections eventSoftCap) after ∧
      ∃ frame ∈ after.host.engine.txPendingData,
        ¬ after.streams.Backs cfg (after.host.engine.frameBytes frame) := by
  rcases Engine.sendBytes_overlong present running whole one some long packet handed appended free
    room tlpNs with ⟨handedFree, frame, member, short⟩
  have sent := run.tail (DriverOp.system (.call (.send handle bytes envs tlpNs))) handedFree
  refine ⟨_, sent, frame, member, ?_⟩
  exact fun backs => absurd backs.length_le (Nat.not_le.mpr short)

/-- Where the handshake leads to. -/
def jumboOpen : Sender :=
  jumboHandshake.foldl Sender.step (Sender.start jumboCfg 1 64)

/-- The first payload whose frame has a length of 17 bits is sent with one call: its frame in the
ring has no bytes. -/
theorem jumbo_frame_cut :
    ¬ ∀ sender, Run.Reaches Sender.step (fun sender op => sender.admissible op = true)
        (Sender.start jumboCfg 1 64) sender →
      ∀ frame ∈ sender.host.engine.txPendingData,
        sender.streams.Backs jumboCfg (sender.host.engine.frameBytes frame) := by
  intro exact'
  have ready : (jumboOpen.host.engine.flowTable.get 1).any (fun conn =>
      decide (conn.state = .established ∧ conn.sndWnd = 65535 ∧
        (conn.sndNxt - conn.sndUna).toNat = 0 ∧ conn.peerMss = 65535 ∧
        conn.tsEnabled = false)) = true := by decide +kernel
  have idle : (jumboOpen.host.engine.mbufs 1).refcnt = 0 ∧
      jumboOpen.host.engine.txPendingData.length < jumboOpen.host.engine.cfg.txRingSize ∧
        jumboOpen.host.engine.cfg.tcpMss = 65535 ∧
        jumboOpen.host.engine.cfg.sendBufferBytes = 65536 := by decide +kernel
  rcases (Option.any_eq_true _ _).mp ready with ⟨conn, present, facts⟩
  rcases of_decide_eq_true facts with ⟨running, window, flight, mss, plain⟩
  rcases idle with ⟨free, room, ourMss, buffer⟩
  obtain ⟨bytes, length⟩ : ∃ bytes : List UInt8, bytes.length = 65482 :=
    ⟨List.replicate 65482 0, List.length_replicate⟩
  have frameLen : conn.frameLen bytes.length = 65536 := by
    rw [length, TcpConn.frameLen, TcpConn.optionBytes, plain]
    rfl
  have whole : jumboOpen.host.engine.admitted conn bytes = bytes := by
    dsimp only [Engine.admitted]
    rw [window, flight, buffer]
    exact List.take_of_length_le (by rw [length]; decide)
  have one : bytes.length ≤ jumboOpen.host.engine.mssCap conn := by
    rw [length, Engine.mssCap, mss, ourMss]
    decide
  rcases @overlong_reached _ _ _ _ (Run.Reaches.of_admits (by decide +kernel :
      Run.admits Sender.step Sender.admissible (Sender.start jumboCfg 1 64) jumboHandshake = true))
    _ _ _ (fun _ => ⟨some 1, true, 0, 2000, 2000⟩) 1 present running whole one
    (List.ne_nil_of_length_pos (by rw [length]; decide)) (by rw [frameLen]; decide)
    (by rw [frameLen]; decide) rfl rfl free room 2000 with ⟨after, reached, frame, member, cut⟩
  exact cut (exact' after reached frame member)

end Runs

end DpdkTcp
