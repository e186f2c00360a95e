import DpdkTcp.Send.Faithful

/-!
# New data on the streams

A turn of the segment loop of `send_bytes` writes a frame into a free buffer, pushes it and stashes
an entry for it. The bytes of a turn join the stream of the connection, so the stream grows by
what the call accepts.
-/

namespace DpdkTcp

namespace Streams

variable {streams : Streams} {handle : ConnHandle} {incarnation : ℕ} {flow : Flow}

theorem write_same (found : streams handle incarnation = some flow) :
    streams.write handle incarnation flow = streams := by
  funext other turn
  rw [get_write]
  split
  · rename_i same
    rw [same.1, same.2, found]
  · rfl

theorem write_write (streams : Streams) (handle : ConnHandle) (incarnation : ℕ)
    (flow later : Flow) :
    (streams.write handle incarnation flow).write handle incarnation later =
      streams.write handle incarnation later := by
  funext other turn
  rw [get_write, get_write, get_write]
  split
  · rfl
  · rfl

theorem write_found (streams : Streams) (handle : ConnHandle) (incarnation : ℕ) (flow : Flow) :
    streams.write handle incarnation flow handle incarnation = some flow :=
  if_pos ⟨rfl, rfl⟩

/-- A stream that accepts bytes. -/
theorem grows_accept (found : streams handle incarnation = some flow) (bytes : List UInt8) :
    Grows streams (streams.write handle incarnation (flow.accept bytes)) := by
  apply grows_write
  intro before there
  rw [found] at there
  cases there
  exact flow.extends_accept bytes

end Streams

/-! ### The length of a frame -/

namespace TcpConn

/-- The length of the frame of a data segment. -/
def frameLen (conn : TcpConn) (len : ℕ) : ℕ :=
  FRAME_HDRS_MIN + conn.optionBytes + len

/-- The frame is copied whole, as its length fits 16 bits, or it is not built, as that of its packet
does not. -/
def framed (conn : TcpConn) (len : ℕ) : Bool :=
  conn.frameLen len ≤ 65535 || 65535 + ETH_HDR_LEN < conn.frameLen len

theorem framed_iff {conn : TcpConn} {len : ℕ} :
    conn.framed len = true ↔
      conn.frameLen len ≤ 65535 ∨ 65535 + ETH_HDR_LEN < conn.frameLen len := by
  rw [framed, Bool.or_eq_true, decide_eq_true_iff, decide_eq_true_iff]

end TcpConn

namespace Engine

variable {engine : Engine} {streams : Streams} {handle : ConnHandle} {conn : TcpConn} {flow : Flow}
  {entry : RetransEntry} {mbuf : ℕ}

/-! ### One segment -/

/-- A free buffer may be written. -/
theorem Faithful.loaded {after : Engine} (faithful : engine.Faithful streams)
    (free : (engine.mbufs mbuf).refcnt = 0) (cfg : after.cfg = engine.cfg)
    (opened : after.record.opened = engine.record.opened)
    (ring : after.txPendingData = engine.txPendingData)
    (driver : after.driverFrames = engine.driverFrames)
    (flowTable : after.flowTable = engine.flowTable)
    (slack : ∀ addr, engine.slack addr ≤ after.slack addr)
    (others : ∀ addr, addr ≠ mbuf → (after.mbufs addr).data = (engine.mbufs addr).data) :
    after.Faithful streams := by
  refine faithful.rewritten cfg opened ring driver flowTable
    (fun addr => (faithful.slack addr).trans (slack addr)) ?_ ?_
  · intro frame member addr inFrame
    apply others
    rintro rfl
    have named := frameRefs_pos (Or.inr member) inFrame
    have none := (refs_of_free (faithful.slack addr) free).2
    omega
  · intro other conn' present' entry' member'
    rw [others _ (faithful.mbuf_ne_of_free present' member' free)]
    exact ⟨List.suffix_refl _, (faithful.holds present' member').1.payload⟩

/-- The buffer of a new frame: written, and held once more for the entry. -/
def withFrame (engine : Engine) (mbuf : ℕ) (data : List UInt8) (first : FirstSent) : Engine :=
  (((engine.allocMbuf mbuf).writeMbuf mbuf data).holdMbuf mbuf).recordAssigned first

theorem data_withFrame (engine : Engine) (mbuf : ℕ) (data : List UInt8) (first : FirstSent)
    (addr : ℕ) :
    ((engine.withFrame mbuf data first).mbufs addr).data =
      if addr = mbuf then data else (engine.mbufs addr).data := by
  dsimp only [withFrame, recordAssigned, holdMbuf, writeMbuf, allocMbuf]
  by_cases same : addr = mbuf
  · rw [same, mbufs_setMbuf, if_pos rfl, mbufs_setMbuf, if_pos rfl, if_pos rfl]
  · rw [mbufs_setMbuf, if_neg same, mbufs_setMbuf, if_neg same, mbufs_setMbuf, if_neg same,
      if_neg same]

theorem slack_withFrame (free : (engine.mbufs mbuf).refcnt = 0) (data : List UInt8)
    (first : FirstSent) (addr : ℕ) :
    (engine.withFrame mbuf data first).slack addr = engine.slack addr + 2 * [mbuf].count addr := by
  rw [withFrame, slack_recordAssigned, slack_holdMbuf, slack_writeMbuf,
    slack_allocMbuf _ mbuf addr free]
  omega

/-- A frame in a buffer that was free joins the ring. -/
theorem Faithful.pushFrame (faithful : engine.Faithful streams)
    (free : (engine.mbufs mbuf).refcnt = 0) {data : List UInt8}
    (backs : streams.Backs engine.cfg data) (headPayload : ℕ) (first : FirstSent) (sent : ℕ) :
    ((engine.withFrame mbuf data first).pushTxPendingData ⟨[mbuf], headPayload, some first⟩
      sent).Faithful streams := by
  have none := (refs_of_free (faithful.slack mbuf) free).2
  have loaded : (engine.withFrame mbuf data first).Faithful streams := by
    refine faithful.loaded free rfl rfl rfl rfl rfl ?_ ?_
    · intro addr
      rw [slack_withFrame free]
      omega
    · intro addr other
      rw [data_withFrame, if_neg other]
  refine loaded.push sent ?_ ?_ (List.nodup_singleton _) ?_ ?_ ?_
  · have bytes : (engine.withFrame mbuf data first).frameBytes ⟨[mbuf], headPayload, some first⟩ =
        data := by
      rw [frameBytes, List.flatMap_singleton, data_withFrame, if_pos rfl]
    rw [bytes]
    exact backs
  · intro addr
    have before := faithful.slack addr
    rw [slack_withFrame free]
    dsimp only
    omega
  · intro waiting member addr inFrame same
    rw [List.mem_singleton.mp same] at inFrame
    have named := frameRefs_pos (Or.inr member : waiting ∈ engine.driverFrames ∨ _) inFrame
    omega
  · intro other conn' present' entry' member' head
    exact absurd (Option.some.inj head).symm (faithful.mbuf_ne_of_free present' member' free)
  · intro held inDriver addr same head
    rw [List.mem_singleton.mp same] at head
    have named := frameRefs_pos (Or.inl inDriver : held ∈ engine.driverFrames ∨ _)
      (List.mem_of_mem_head? head)
    omega

/-- An entry that names a buffer once more is named once more. -/
theorem entryRefs_stash (present : engine.flowTable.get handle = some conn) (entry : RetransEntry)
    (addr : ℕ) :
    (engine.modifyConn handle fun conn =>
        { conn with sndRetrans := conn.sndRetrans.pushAfterTx entry }).entryRefs addr =
      engine.entryRefs addr + [entry.mbuf].count addr := by
  have exchanged := entryRefs_set engine handle present
    { conn with sndRetrans := conn.sndRetrans.pushAfterTx entry } addr
  have grown : ({ conn with sndRetrans := conn.sndRetrans.pushAfterTx entry } :
      TcpConn).entryMbufs = conn.entryMbufs ++ [entry.mbuf] := by
    dsimp only [TcpConn.entryMbufs, SendRetrans.pushAfterTx]
    rw [List.map_append]
    rfl
  rw [grown, List.count_append] at exchanged
  unfold modifyConn FlowTable.modify
  rw [present]
  dsimp only at exchanged ⊢
  omega

/-- The entry of a frame takes over the second reference to its buffer. -/
theorem Faithful.stash (faithful : engine.Faithful streams)
    (present : engine.flowTable.get handle = some conn)
    (found : streams handle (engine.record.incarnation handle) = some flow)
    (backed : Backed engine.mbufs flow entry) (unnamed : engine.entryRefs entry.mbuf = 0)
    (spare : 1 ≤ engine.slack entry.mbuf)
    (heads : ∀ frame, frame ∈ engine.driverFrames ∨ frame ∈ engine.txPendingData →
      frame.segs.head? = some entry.mbuf → entry.len ≤ frame.headPayload) :
    (engine.stashEntry handle entry).Faithful streams := by
  have refs := entryRefs_stash present entry
  -- the connections afterwards, with where each of their entries comes from
  have table : ∀ other conn', (engine.modifyConn handle fun conn =>
      { conn with sndRetrans := conn.sndRetrans.pushAfterTx entry }).flowTable.get other =
        some conn' →
      ∃ before, engine.flowTable.get other = some before ∧ conn'.fourTuple = before.fourTuple ∧
        ∀ later ∈ conn'.sndRetrans.entries,
          later ∈ before.sndRetrans.entries ∨ other = handle ∧ later = entry := by
    intro other conn' live
    rw [modifyConn, FlowTable.get_modify] at live
    split at live
    · rename_i same
      rw [present] at live
      cases live
      refine ⟨conn, same ▸ present, rfl, ?_⟩
      intro later member
      rcases List.mem_append.mp member with before | new
      · exact Or.inl before
      · exact Or.inr ⟨same, List.mem_singleton.mp new⟩
    · exact ⟨conn', live, rfl, fun _ => Or.inl⟩
  have stashed : (engine.modifyConn handle fun conn =>
      { conn with sndRetrans := conn.sndRetrans.pushAfterTx entry }).Faithful streams := by
    refine ⟨fun addr => ?_, fun addr => ?_, ?_, faithful.ring, faithful.apart, ?_, faithful.shared⟩
    · have before := faithful.slack addr
      have here := refs addr
      have slack : (engine.modifyConn handle fun conn =>
          { conn with sndRetrans := conn.sndRetrans.pushAfterTx entry }).slack addr =
            engine.slack addr - [entry.mbuf].count addr := by
        unfold Engine.slack
        rw [here]
        dsimp only [frameRefs, modifyConn]
        omega
      rw [slack, List.count_singleton]
      split
      · rename_i same
        rw [beq_iff_eq.mp same] at spare
        omega
      · omega
    · have before := faithful.single addr
      rw [refs, List.count_singleton]
      split
      · rename_i same
        rw [← beq_iff_eq.mp same, unnamed]
      · exact before
    · intro other conn' live
      rcases table other conn' live with ⟨before, there, tuple, entries⟩
      rcases faithful.conns other before there with ⟨stream, kept, sameTuple, allBacked⟩
      refine ⟨stream, kept, tuple.trans sameTuple, ?_⟩
      intro later member
      rcases entries later member with old | ⟨rfl, rfl⟩
      · exact allBacked later old
      · rw [found] at kept
        cases kept
        exact backed
    · intro frame inFrames other conn' live later member head
      rcases table other conn' live with ⟨before, there, _, entries⟩
      rcases entries later member with old | ⟨_, rfl⟩
      · exact faithful.heads frame inFrames other before there later old head
      · exact heads frame inFrames head
  dsimp only [stashEntry]
  rw [present]
  dsimp only
  split
  · exact stashed.calm (armRto_calm _ handle _)
  · exact stashed

/-! ### The loop -/

/-- The frames behind a push are those before it and the new one. -/
theorem frames_pushTxPendingData (engine : Engine) (frame : TxFrame) (sent : ℕ) {other : TxFrame}
    (member : other ∈ (engine.pushTxPendingData frame sent).driverFrames ∨
      other ∈ (engine.pushTxPendingData frame sent).txPendingData) :
    (other ∈ engine.driverFrames ∨ other ∈ engine.txPendingData) ∨ other = frame := by
  unfold pushTxPendingData at member
  split at member
  · rcases member with held | waiting
    · exact Or.inl (Or.inl held)
    · rcases List.mem_append.mp waiting with before | new
      · exact Or.inl (Or.inr before)
      · exact Or.inr (List.mem_singleton.mp new)
  · have calm := drainTxPendingData_calm engine sent
    rcases member with held | waiting
    · exact Or.inl (calm.driver other held)
    · rcases List.mem_append.mp waiting with before | new
      · exact Or.inl (Or.inr (calm.ring.subset before))
      · exact Or.inr (List.mem_singleton.mp new)

theorem data_pushTxPendingData (engine : Engine) (frame : TxFrame) (sent addr : ℕ) :
    ((engine.pushTxPendingData frame sent).mbufs addr).data = (engine.mbufs addr).data := by
  unfold pushTxPendingData
  split
  · rfl
  · exact (drainTxPendingData_calm engine sent).data addr

/-- A drain in front of a push offers frames of the streams. -/
theorem Faithful.burst (faithful : engine.Faithful streams) :
    ∀ bytes ∈ engine.burst, streams.Backs engine.cfg bytes := by
  intro bytes member
  rcases List.mem_map.mp member with ⟨frame, waiting, rfl⟩
  exact faithful.ring frame waiting

theorem Faithful.pushBurst (faithful : engine.Faithful streams) :
    ∀ bytes ∈ engine.pushBurst, streams.Backs engine.cfg bytes := by
  unfold Engine.pushBurst
  split
  · exact nofun
  · exact faithful.burst

/-- What a part of the segment loop comes to: bytes are taken and join the stream. -/
structure Loads (handle : ConnHandle) (streams : Streams) (flow : Flow) (sending ended : Sending)
    (taken : List UInt8) : Prop where
  rest : sending.rest = taken ++ ended.rest
  accepted : ended.accepted = sending.accepted + taken.length
  curSeq : ended.curSeq = (flow.accept taken).edge
  cfg : ended.engine.cfg = sending.engine.cfg
  opened : ended.engine.record.opened = sending.engine.record.opened
  faithful : ended.engine.Faithful
    (streams.write handle (sending.engine.record.incarnation handle) (flow.accept taken))

/-- The longest payload whose frame has a 16-bit length, timestamps included. -/
def MAX_FRAMED : ℕ := 65469

section Turn

variable {mssCap : ℕ} {env : SendEnv} {sending : Sending}

/-- Nothing is taken. -/
theorem Loads.nothing {ended : Sending} (faithful : ended.engine.Faithful streams)
    (found : streams handle (sending.engine.record.incarnation handle) = some flow)
    (edge : sending.curSeq = flow.edge) (rest : ended.rest = sending.rest)
    (accepted : ended.accepted = sending.accepted) (curSeq : ended.curSeq = sending.curSeq)
    (cfg : ended.engine.cfg = sending.engine.cfg)
    (opened : ended.engine.record.opened = sending.engine.record.opened) :
    Loads handle streams flow sending ended [] where
  rest := rest.symm
  accepted := accepted
  curSeq := by rw [curSeq, edge, flow.accept_nil]
  cfg := cfg
  opened := opened
  faithful := by
    rw [flow.accept_nil, Streams.write_same found]
    exact faithful

theorem length_dataSegment (conn : TcpConn) (mssCap : ℕ) (env : SendEnv) (sending : Sending) :
    (dataSegment conn mssCap env sending).payload.length = min sending.rest.length mssCap := by
  dsimp only [dataSegment, segmentTx]
  rw [List.length_take]
  omega

/-- What is built for a turn has the length of its frame, and its packet fits. -/
theorem length_of_built {room : ℕ} {frame : List UInt8}
    (built : buildSegment (dataSegment conn mssCap env sending) room = some frame) :
    frame.length = conn.frameLen (min sending.rest.length mssCap) ∧
      conn.frameLen (min sending.rest.length mssCap) ≤ 65535 + ETH_HDR_LEN := by
  have length := length_dataSegment conn mssCap env sending
  rcases SegmentTx.wire_of_buildSegment built sending.engine.cfg.txCksumOffloadActive with
    ⟨_, frameLength, fits⟩
  have options : (dataSegment conn mssCap env sending).options.encodedLen = conn.optionBytes :=
    conn.encodedLen_txOptions env.optionsNs
  have encoded : (dataSegment conn mssCap env sending).options.encode.length =
      (dataSegment conn mssCap env sending).options.encodedLen :=
    (segmentTx_sendable sending.engine conn sending.curSeq env.optionsNs fits).length_options
  have whole : frame.length = conn.frameLen (min sending.rest.length mssCap) := by
    rw [frameLength, encoded, options, length, TcpConn.frameLen]
  refine ⟨whole, ?_⟩
  unfold SegmentTx.totalIpLen SegmentTx.tcpHdrLen at fits
  unfold TcpConn.frameLen FRAME_HDRS_MIN
  rw [options, length] at fits
  omega

/-- The frame of a turn: built for the segment of the turn, and short enough to be copied whole. -/
theorem dataSegment_built (tuple : conn.fourTuple = flow.tuple) (edge : sending.curSeq = flow.edge)
    (positive : 0 < mssCap) (framed : conn.framed (min sending.rest.length mssCap) = true)
    (left : sending.rest ≠ []) {room : ℕ} {frame : List UInt8}
    (built : buildSegment (dataSegment conn mssCap env sending) room = some frame) :
    (dataSegment conn mssCap env sending).Sends sending.engine.cfg
        (flow.accept (dataSegment conn mssCap env sending).payload) ∧
      frame.length < 65536 ∧
      txOffloadFinalize (frame.take (asU16 frame.length)) (dataSegment conn mssCap env sending)
          (dataSegment conn mssCap env sending).payload.length
          sending.engine.cfg.txCksumOffloadActive =
        (dataSegment conn mssCap env sending).wire sending.engine.cfg.txCksumOffloadActive := by
  have some : 0 < sending.rest.length := List.length_pos_of_ne_nil left
  have length := length_dataSegment conn mssCap env sending
  rcases SegmentTx.wire_of_buildSegment built sending.engine.cfg.txCksumOffloadActive with
    ⟨wire, _, fits⟩
  have sends : (dataSegment conn mssCap env sending).Sends sending.engine.cfg
      (flow.accept (dataSegment conn mssCap env sending).payload) := by
    refine segmentTx_sends tuple fits ?_ ?_
    · have here := length
      dsimp only [dataSegment, segmentTx] at here
      omega
    · rw [edge]
      exact flow.carries_accept _
  have short : frame.length < 65536 := by
    have whole := length_of_built built
    have lengths := TcpConn.framed_iff.mp framed
    omega
  refine ⟨sends, short, ?_⟩
  rw [asU16_of_lt short, List.take_length]
  exact wire

/-- Behind a segment that was pushed the frames are no longer. -/
theorem framed_next (framed : conn.framed (min sending.rest.length mssCap) = true) {next : Sending}
    (sent : sendSegment conn handle mssCap env sending = .sent next) :
    conn.framed (min next.rest.length mssCap) = true := by
  dsimp only [sendSegment] at sent
  split at sent
  · cases sent
  · rename_i frame built
    have whole := length_of_built built
    split at sent
    · cases sent
    · split at sent
      · cases sent
      · cases sent
        rw [TcpConn.framed_iff] at framed ⊢
        unfold TcpConn.frameLen at framed whole ⊢
        dsimp only
        rw [List.length_drop]
        omega

/-- A new frame and its entry, in a buffer that was free. -/
theorem Faithful.append (faithful : engine.Faithful streams) (entry : RetransEntry)
    (live : engine.stateAt handle ≠ none)
    (found : streams handle (engine.record.incarnation handle) = some flow)
    (free : (engine.mbufs entry.mbuf).refcnt = 0) {data payload : List UInt8}
    (backs : streams.Backs engine.cfg data) (short : data.length < 65536)
    (atEnd : payload <:+ data) (carries : flow.Carries entry.seq payload)
    (length : payload.length = entry.len) (positive : 0 < entry.len) {headPayload : ℕ}
    (fits : entry.len ≤ headPayload) (first : FirstSent) (sent : ℕ) :
    (((engine.withFrame entry.mbuf data first).pushTxPendingData
        ⟨[entry.mbuf], headPayload, some first⟩ sent).stashEntry handle entry).Faithful streams := by
  have refs := refs_of_free (faithful.slack entry.mbuf) free
  have pushed := faithful.pushFrame free backs headPayload first sent
  have slack := slack_pushed free data headPayload sent first entry.mbuf
  have change := pushTxPendingData_change (engine.withFrame entry.mbuf data first)
    ⟨[entry.mbuf], headPayload, some first⟩ sent
  have opened := (assigned_pushTxPendingData (engine.withFrame entry.mbuf data first)
    ⟨[entry.mbuf], headPayload, some first⟩ sent).2
  have written := data_pushTxPendingData (engine.withFrame entry.mbuf data first)
    ⟨[entry.mbuf], headPayload, some first⟩ sent entry.mbuf
  rw [data_withFrame, if_pos rfl] at written
  rcases Option.ne_none_iff_exists'.mp live with ⟨state, there⟩
  rcases stateAt_eq_some _ _ there with ⟨conn, present, _⟩
  rw [← show ((engine.withFrame entry.mbuf data first).pushTxPendingData _ sent).flowTable =
    engine.flowTable from change.flowTable] at present
  refine pushed.stash present ?_ ⟨positive, ?_, payload, carries, length, ?_⟩ ?_ ?_ ?_
  · rw [Record.incarnation, opened]
    exact found
  · rw [written]
    exact short
  · rw [written]
    exact atEnd
  · unfold entryRefs
    rw [change.flowTable]
    exact refs.1
  · have before := faithful.slack entry.mbuf
    dsimp only [withFrame]
    rw [slack, List.count_singleton_self]
    omega
  · intro frame member head
    rcases frames_pushTxPendingData _ _ _ member with before | rfl
    · have named : 0 < engine.frameRefs entry.mbuf :=
        frameRefs_pos before (List.mem_of_mem_head? head)
      omega
    · exact fits

/-- A turn that pushes a segment. -/
theorem Faithful.sent (faithful : sending.engine.Faithful streams)
    (live : sending.engine.stateAt handle ≠ none)
    (found : streams handle (sending.engine.record.incarnation handle) = some flow)
    (tuple : conn.fourTuple = flow.tuple) (edge : sending.curSeq = flow.edge)
    (positive : 0 < mssCap) (framed : conn.framed (min sending.rest.length mssCap) = true)
    (left : sending.rest ≠ []) {room : ℕ} {frame : List UInt8}
    (built : buildSegment (dataSegment conn mssCap env sending) room = some frame)
    (free : (sending.engine.mbufs mbuf).refcnt = 0) (first : FirstSent) :
    (((sending.engine.withFrame mbuf
        (txOffloadFinalize (frame.take (asU16 frame.length)) (dataSegment conn mssCap env sending)
          (dataSegment conn mssCap env sending).payload.length
          sending.engine.cfg.txCksumOffloadActive) first).pushTxPendingData
        ⟨[mbuf], min sending.rest.length mssCap, some first⟩ env.sentFull).stashEntry handle
      (newEntry sending.curSeq (min sending.rest.length mssCap) frame.length mbuf
        env.nowNs)).Faithful
      (streams.write handle (sending.engine.record.incarnation handle)
        (flow.accept (dataSegment conn mssCap env sending).payload)) := by
  have some : 0 < sending.rest.length := List.length_pos_of_ne_nil left
  have length := length_dataSegment conn mssCap env sending
  rcases dataSegment_built tuple edge positive framed left built with ⟨sends, short, wire⟩
  have counted : asU16 (min sending.rest.length mssCap) = min sending.rest.length mssCap := by
    have whole := (length_of_built built).1
    unfold TcpConn.frameLen at whole
    exact asU16_of_lt (by omega)
  have grown := faithful.mono (Streams.grows_accept found
    (dataSegment conn mssCap env sending).payload)
  have wireLength : ((dataSegment conn mssCap env sending).wire
      sending.engine.cfg.txCksumOffloadActive).length = frame.length := by
    rw [(SegmentTx.wire_of_buildSegment built sending.engine.cfg.txCksumOffloadActive).2.1,
      SegmentTx.wire, SegmentTx.length_frameWith]
  rw [wire]
  refine grown.append (newEntry sending.curSeq _ frame.length mbuf env.nowNs) live
    (streams.write_found handle _ _) free ⟨handle, _, _, _, streams.write_found handle _ _, sends,
      rfl⟩ (wireLength ▸ short) ⟨_, rfl⟩ ?_ ?_ ?_ ?_ first env.sentFull
  · exact sends.data
  · exact length.trans counted.symm
  · dsimp only [newEntry]
    omega
  · exact counted.le

/-- A turn of the loop, however it ends. -/
theorem Faithful.turn (faithful : sending.engine.Faithful streams)
    (live : sending.engine.stateAt handle ≠ none)
    (found : streams handle (sending.engine.record.incarnation handle) = some flow)
    (tuple : conn.fourTuple = flow.tuple) (edge : sending.curSeq = flow.edge)
    (positive : 0 < mssCap) (framed : conn.framed (min sending.rest.length mssCap) = true)
    (left : sending.rest ≠ []) (free : sending.engine.handsOutFree env.dataMbuf = true) :
    ∃ taken, Loads handle streams flow sending
      (sendSegment conn handle mssCap env sending).ended taken := by
  have nothing := Loads.nothing faithful found edge rfl rfl rfl rfl rfl
  dsimp only [sendSegment]
  split
  · exact ⟨[], nothing⟩
  · rename_i frame built
    split
    · exact ⟨[], nothing⟩
    · rename_i mbuf allocated
      rw [handsOutFree, allocated, Option.all_some, decide_eq_true_iff] at free
      split
      · refine ⟨[], .nothing ?_ found edge rfl rfl rfl rfl rfl⟩
        refine faithful.loaded free rfl rfl rfl rfl rfl ?_ ?_
        · intro addr
          dsimp only [SendTurn.ended]
          rw [slack_releaseMbuf, slack_allocMbuf _ mbuf addr free]
          omega
        · intro addr other
          dsimp only [SendTurn.ended, releaseMbuf, allocMbuf]
          rw [mbufs_setMbuf, if_neg other, mbufs_setMbuf, if_neg other]
      · have length := length_dataSegment conn mssCap env sending
        have sent := faithful.sent live found tuple edge positive framed left built free
          (sending.engine.firstSent handle sending.curSeq (min sending.rest.length mssCap) false)
        refine ⟨(dataSegment conn mssCap env sending).payload, ?_, ?_, ?_, ?_, ?_, sent⟩
        · exact (List.take_append_drop (min sending.rest.length mssCap) sending.rest).symm
        · rw [length]
          rfl
        · rw [flow.edge_accept, length, ← edge]
          rfl
        · exact (stashEntry_stashed handle _ _).cfg.trans (pushTxPendingData_change _ _ _).cfg
        · exact (assigned_stashEntry handle _ _).2.trans (assigned_pushTxPendingData _ _ _).2

/-- The drain of a turn. -/
theorem Faithful.segmentBurst (faithful : sending.engine.Faithful streams)
    (free : sending.engine.handsOutFree env.dataMbuf = true) :
    ∀ bytes ∈ Engine.segmentBurst conn mssCap env sending,
      streams.Backs sending.engine.cfg bytes := by
  dsimp only [Engine.segmentBurst]
  split
  · rename_i frame mbuf built allocated
    rw [handsOutFree, allocated, Option.all_some, decide_eq_true_iff] at free
    split
    · intro bytes member
      cases member
    · refine Faithful.pushBurst (faithful.loaded free rfl rfl rfl rfl rfl ?_ ?_)
      · intro addr
        rw [slack_writeMbuf, slack_allocMbuf _ mbuf addr free]
        omega
      · intro addr other
        dsimp only [writeMbuf, allocMbuf]
        rw [mbufs_setMbuf, if_neg other, mbufs_setMbuf, if_neg other]
  · intro bytes member
    cases member

end Turn

theorem Loads.trans {first second third : Sending} {taken more : List UInt8}
    (left : Loads handle streams flow first second taken)
    (right : Loads handle
      (streams.write handle (first.engine.record.incarnation handle) (flow.accept taken))
      (flow.accept taken) second third more) :
    Loads handle streams flow first third (taken ++ more) where
  rest := by rw [left.rest, right.rest, List.append_assoc]
  accepted := by
    rw [right.accepted, left.accepted, List.length_append]
    omega
  curSeq := by rw [right.curSeq, flow.accept_accept]
  cfg := right.cfg.trans left.cfg
  opened := right.opened.trans left.opened
  faithful := by
    have same : second.engine.record.incarnation handle =
        first.engine.record.incarnation handle := by
      rw [Record.incarnation, Record.incarnation, left.opened]
    have later := right.faithful
    rw [same, streams.write_write, flow.accept_accept] at later
    exact later

/-- The loop, with the frames its drains offer. -/
theorem Faithful.sendSegments {mssCap turns : ℕ} {envs : ℕ → SendEnv} {sending : Sending}
    (faithful : sending.engine.Faithful streams) (live : sending.engine.stateAt handle ≠ none)
    (found : streams handle (sending.engine.record.incarnation handle) = some flow)
    (tuple : conn.fourTuple = flow.tuple) (edge : sending.curSeq = flow.edge)
    (positive : 0 < mssCap) (framed : conn.framed (min sending.rest.length mssCap) = true)
    (free : sendFree conn handle mssCap turns envs sending = true) :
    ∃ taken, Loads handle streams flow sending
        (Engine.sendSegments conn handle mssCap turns envs sending).ended taken ∧
      ∀ bytes ∈ sendSegmentsBursts conn handle mssCap turns envs sending,
        (streams.write handle (sending.engine.record.incarnation handle)
          (flow.accept taken)).Backs sending.engine.cfg bytes := by
  induction turns generalizing streams flow envs sending with
  | zero => exact ⟨[], .nothing faithful found edge rfl rfl rfl rfl rfl, nofun⟩
  | succ turns ih =>
      dsimp only [Engine.sendSegments, sendSegmentsBursts]
      split
      · exact ⟨[], .nothing faithful found edge rfl rfl rfl rfl rfl, nofun⟩
      · rename_i left
        rw [sendFree, decide_eq_false left, Bool.false_or] at free
        rcases Bool.and_eq_true_iff.mp free with ⟨now, later⟩
        have burst := @Faithful.segmentBurst streams conn mssCap (envs 0) sending faithful now
        rcases faithful.turn live found tuple edge positive framed left now with ⟨taken, loads⟩
        have framedNext := @framed_next handle conn mssCap (envs 0) sending framed
        have alive := stateAt_sendSegment handle handle conn mssCap (envs 0) sending
        have grows := Streams.grows_accept found taken
        generalize Engine.sendSegment conn handle mssCap (envs 0) sending = ended at *
        have drained : ∀ bytes ∈ Engine.segmentBurst conn mssCap (envs 0) sending ++ [],
            (streams.write handle (sending.engine.record.incarnation handle)
              (flow.accept taken)).Backs sending.engine.cfg bytes := by
          intro bytes member
          rw [List.append_nil] at member
          exact (burst bytes member).mono grows
        cases ended with
        | noMem next => exact ⟨taken, loads, drained⟩
        | stopped next => exact ⟨taken, loads, drained⟩
        | sent next =>
            dsimp only [SendTurn.ended] at alive loads
            have same : next.engine.record.incarnation handle =
                sending.engine.record.incarnation handle := by
              rw [Record.incarnation, Record.incarnation, loads.opened]
            have foundLater : streams.write handle (sending.engine.record.incarnation handle)
                (flow.accept taken) handle (next.engine.record.incarnation handle) =
                  some (flow.accept taken) := by
              rw [same]
              exact streams.write_found handle _ _
            rcases @ih _ (flow.accept taken) _ _ loads.faithful (by rw [alive]; exact live)
              foundLater tuple loads.curSeq (framedNext rfl) later with
              ⟨more, rest, bursts⟩
            refine ⟨taken ++ more, loads.trans rest, ?_⟩
            rw [same, loads.cfg, streams.write_write, flow.accept_accept] at bursts
            intro bytes member
            rcases List.mem_append.mp member with first | second
            · refine (burst bytes first).mono ?_
              exact Streams.grows_accept found (taken ++ more)
            · exact bursts bytes second

/-! ### The call -/

theorem finishSend_calm (sending : Sending) (handle : ConnHandle) (wanted tlpNs : ℕ) :
    Calm sending.engine (finishSend sending handle wanted tlpNs) := by
  dsimp only [finishSend]
  split
  · refine .trans ?_ (armTlpPto_calm _ handle tlpNs)
    exact .beside _ handle fun _ => ⟨rfl, rfl⟩
  · exact .beside _ handle fun _ => ⟨rfl, rfl⟩

end Engine

/-- What a result of `send_bytes` adds to the stream of the connection. -/
def Streams.sent (streams : Streams) (handle : ConnHandle) (incarnation : ℕ) (bytes : List UInt8) :
    Except SendError ℕ → Streams
  | .ok count =>
      match streams handle incarnation with
      | some flow => streams.write handle incarnation (flow.accept (bytes.take count))
      | none => streams
  | .error _ => streams

theorem Streams.sent_ok (streams : Streams) (handle : ConnHandle) (incarnation : ℕ)
    (bytes : List UInt8) (count : ℕ) (other : ConnHandle) (turn : ℕ) :
    streams.sent handle incarnation bytes (.ok count) other turn =
      if other = handle ∧ turn = incarnation then
        (streams handle incarnation).map fun flow => flow.accept (bytes.take count)
      else streams other turn := by
  unfold sent
  cases found : streams handle incarnation with
  | some flow => rfl
  | none =>
      dsimp only
      split
      · rename_i same
        rw [same.1, same.2, found]
        rfl
      · rfl

/-- No stream is opened by `send_bytes`. -/
theorem Streams.sent_none {streams : Streams} {handle : ConnHandle} {incarnation : ℕ}
    {bytes : List UInt8} {result : Except SendError ℕ} {other : ConnHandle} {turn : ℕ}
    (absent : streams other turn = none) :
    streams.sent handle incarnation bytes result other turn = none := by
  cases result with
  | error reason => exact absent
  | ok count =>
      rw [sent_ok]
      split
      · rename_i same
        rw [same.1, same.2] at absent
        rw [absent]
        rfl
      · exact absent

namespace Engine

variable {engine : Engine} {streams : Streams} {handle : ConnHandle}

/-- A call of `send_bytes` extends the stream by what it accepts. -/
theorem sendBytes_faithful (faithful : engine.Faithful streams)
    (edges : ∀ conn flow, engine.flowTable.get handle = some conn → conn.state = .established →
      streams handle (engine.record.incarnation handle) = some flow → conn.sndNxt = flow.edge)
    (bytes : List UInt8)
    (framed : ∀ conn, engine.flowTable.get handle = some conn → conn.state = .established →
      conn.framed (min (engine.admitted conn bytes).length (engine.mssCap conn)) = true)
    (envs : ℕ → SendEnv) (tlpNs : ℕ)
    (free : engine.sendBytesFree handle bytes envs = true) :
    (engine.sendBytes handle bytes envs tlpNs).1.Faithful
        (streams.sent handle (engine.record.incarnation handle) bytes
          (engine.sendBytes handle bytes envs tlpNs).2) ∧
      ∀ frame ∈ engine.sendBytesBursts handle bytes envs,
        (streams.sent handle (engine.record.incarnation handle) bytes
          (engine.sendBytes handle bytes envs tlpNs).2).Backs engine.cfg frame := by
  dsimp only [sendBytes, sendBytesBursts]
  cases present : engine.flowTable.get handle with
  | none => exact ⟨faithful, nofun⟩
  | some conn =>
      dsimp only
      by_cases running : conn.state ≠ .established
      · rw [if_pos running, if_pos running]
        exact ⟨faithful, nofun⟩
      rw [if_neg running, if_neg running]
      rw [not_not] at running
      rcases faithful.conns handle conn present with ⟨flow, found, tuple, _⟩
      have allocated : sendFree conn handle (engine.mssCap conn)
          ((engine.admitted conn bytes).length + 1) envs
          ⟨engine, engine.admitted conn bytes, 0, conn.sndNxt⟩ = true := by
        simpa [sendBytesFree, present, running] using free
      have live : engine.stateAt handle ≠ none := by
        rw [stateAt, present]
        exact Option.some_ne_none _
      rcases @Faithful.sendSegments streams handle conn flow (engine.mssCap conn) _ envs
        ⟨engine, engine.admitted conn bytes, 0, conn.sndNxt⟩ faithful live found tuple
        (edges conn flow present running found) (engine.mssCap_pos conn)
        (framed conn present running) allocated with ⟨taken, loads, bursts⟩
      generalize Engine.sendSegments conn handle (engine.mssCap conn) _ envs _ = ended at loads ⊢
      have count : bytes.take ended.ended.accepted = taken := by
        have front : taken <+: bytes := by
          have inAdmitted : taken <+: engine.admitted conn bytes := ⟨_, loads.rest.symm⟩
          exact inAdmitted.trans (List.take_prefix _ _)
        rw [loads.accepted, Nat.zero_add]
        exact (List.prefix_iff_eq_take.mp front).symm
      have sent : streams.sent handle (engine.record.incarnation handle) bytes
          (.ok ended.ended.accepted) =
            streams.write handle (engine.record.incarnation handle) (flow.accept taken) := by
        unfold Streams.sent
        rw [found]
        dsimp only
        rw [count]
      have finished := loads.faithful.calm
        (finishSend_calm ended.ended handle bytes.length tlpNs)
      rw [← sent] at finished bursts
      cases ended with
      | sent sending => exact ⟨finished, bursts⟩
      | stopped sending => exact ⟨finished, bursts⟩
      | noMem sending =>
          dsimp only [SendTurn.ended] at loads finished bursts count sent
          dsimp only
          split
          · rename_i zero
            have nothing : taken = [] := by
              rw [← count, zero, List.take_zero]
            have held := loads.faithful
            rw [nothing, flow.accept_nil, Streams.write_same found] at held
            rw [sent, nothing, flow.accept_nil, Streams.write_same found] at bursts
            exact ⟨held, bursts⟩
          · exact ⟨finished, bursts⟩

end Engine

end DpdkTcp
