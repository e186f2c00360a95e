import Mathlib.Data.List.Flatten
import DpdkTcp.Model.Driver
import DpdkTcp.Send.Calm
import DpdkTcp.Send.Flow

/-!
# Frames that carry the streams

An entry of `snd_retrans` stands for a piece of its connection's stream, and the piece is the end
of the entry's buffer, whatever was cut off the front. A frame in the ring is the frame of a
segment. The buffers they share are written in three places: a new segment takes a free buffer,
`retransmit` strips a data buffer while the ring is empty, and the driver cuts headers off frames
it holds. None of these reaches a frame that waits or the end of a data buffer.
-/

namespace DpdkTcp

namespace Engine

/-- The piece of the stream an entry stands for is the end of its buffer. -/
structure Backed (mbufs : ℕ → TxMbuf) (flow : Flow) (entry : RetransEntry) : Prop where
  positive : 0 < entry.len
  small : (mbufs entry.mbuf).data.length < 65536
  data : ∃ payload, flow.Carries entry.seq payload ∧ payload.length = entry.len ∧
    payload <:+ (mbufs entry.mbuf).data

/-- Frames and entries carry the given streams. -/
structure Faithful (engine : Engine) (streams : Streams) : Prop where
  slack : ∀ addr, 0 ≤ engine.slack addr
  single : ∀ addr, engine.entryRefs addr ≤ 1
  conns : ∀ handle conn, engine.flowTable.get handle = some conn →
    ∃ flow, streams handle (engine.record.incarnation handle) = some flow ∧
      conn.fourTuple = flow.tuple ∧
        ∀ entry ∈ conn.sndRetrans.entries, Backed engine.mbufs flow entry
  ring : ∀ frame ∈ engine.txPendingData, streams.Backs engine.cfg (engine.frameBytes frame)
  apart : (engine.txPendingData.flatMap TxFrame.segs).Nodup
  heads : ∀ frame, frame ∈ engine.driverFrames ∨ frame ∈ engine.txPendingData →
    ∀ handle conn, engine.flowTable.get handle = some conn →
      ∀ entry ∈ conn.sndRetrans.entries, frame.segs.head? = some entry.mbuf →
        entry.len ≤ frame.headPayload
  shared : ∀ held ∈ engine.driverFrames, ∀ waiting ∈ engine.txPendingData, ∀ addr ∈ waiting.segs,
    held.segs.head? = some addr → (engine.mbufs addr).data.length ≤ held.headPayload

/-! ### References -/

section References

variable {engine : Engine} {handle : ConnHandle} {conn : TcpConn} {entry : RetransEntry}

/-- The buffer of an entry is named by an entry. -/
theorem entryRefs_pos (present : engine.flowTable.get handle = some conn)
    (member : entry ∈ conn.sndRetrans.entries) : 0 < engine.entryRefs entry.mbuf := by
  have cell := (FlowTable.get_eq_some_iff.mp present).2
  rw [entryRefs, List.count_pos_iff, List.mem_flatMap]
  exact ⟨some conn, List.mem_of_getElem? cell, List.mem_map_of_mem member⟩

theorem frameRefs_pos {frame : TxFrame} {addr : ℕ}
    (member : frame ∈ engine.driverFrames ∨ frame ∈ engine.txPendingData)
    (inFrame : addr ∈ frame.segs) : 0 < engine.frameRefs addr := by
  unfold frameRefs
  rcases member with held | waiting
  · have some := List.count_pos_iff.mpr (List.mem_flatMap.mpr ⟨frame, held, inFrame⟩)
    omega
  · have some := List.count_pos_iff.mpr (List.mem_flatMap.mpr ⟨frame, waiting, inFrame⟩)
    omega

/-- A free buffer is in no frame and no entry. -/
theorem refs_of_free {addr : ℕ} (slack : 0 ≤ engine.slack addr)
    (free : (engine.mbufs addr).refcnt = 0) :
    engine.entryRefs addr = 0 ∧ engine.frameRefs addr = 0 := by
  unfold Engine.slack at slack
  rw [free] at slack
  omega

/-- The entries of all connections. -/
def liveEntries (engine : Engine) : List RetransEntry :=
  engine.flowTable.slots.flatMap fun slot => (slot.map fun conn => conn.sndRetrans.entries).getD []

theorem entryRefs_eq (engine : Engine) (addr : ℕ) :
    engine.entryRefs addr = (engine.liveEntries.map RetransEntry.mbuf).count addr := by
  unfold entryRefs liveEntries
  rw [List.map_flatMap]
  congr 1
  apply List.flatMap_congr
  intro slot _
  cases slot <;> rfl

theorem mem_liveEntries (present : engine.flowTable.get handle = some conn)
    (member : entry ∈ conn.sndRetrans.entries) : entry ∈ engine.liveEntries :=
  List.mem_flatMap.mpr
    ⟨some conn, List.mem_of_getElem? (FlowTable.get_eq_some_iff.mp present).2, member⟩

end References

namespace Faithful

variable {engine before after : Engine} {streams later : Streams}

/-- The streams may grow. -/
theorem mono (faithful : engine.Faithful streams) (grows : streams.Grows later) :
    engine.Faithful later where
  slack := faithful.slack
  single := faithful.single
  conns handle conn present := by
    rcases faithful.conns handle conn present with ⟨flow, found, tuple, backed⟩
    rcases grows _ _ flow found with ⟨grown, foundLater, extends_⟩
    refine ⟨grown, foundLater, tuple.trans extends_.tuple.symm, ?_⟩
    intro entry member
    rcases backed entry member with ⟨positive, small, payload, carries, length, end_⟩
    exact ⟨positive, small, payload, carries.mono extends_, length, end_⟩
  ring frame member := (faithful.ring frame member).mono grows
  apart := faithful.apart
  heads := faithful.heads
  shared := faithful.shared

/-- A change that writes no buffer. -/
theorem calm (faithful : before.Faithful streams) (calm : before.Calm after) :
    after.Faithful streams where
  slack addr := (faithful.slack addr).trans (calm.slack addr)
  single addr := (calm.entryRefs addr).trans (faithful.single addr)
  conns handle conn' live := by
    rcases calm.conns handle conn' live with ⟨conn, present, heir⟩
    rcases faithful.conns handle conn present with ⟨flow, found, tuple, backed⟩
    refine ⟨flow, ?_, heir.fourTuple.trans tuple, ?_⟩
    · rw [Record.incarnation, calm.opened]
      exact found
    · intro entry member
      rcases heir.entries entry member with ⟨original, inBefore, seq, len, mbuf⟩
      rcases backed original inBefore with ⟨positive, small, data⟩
      refine ⟨?_, ?_, ?_⟩
      · rw [len]
        exact positive
      · rw [calm.data, mbuf]
        exact small
      · rw [calm.data, mbuf, seq, len]
        exact data
  ring frame member := by
    have same : after.frameBytes frame = before.frameBytes frame :=
      List.flatMap_congr fun addr _ => calm.data addr
    rw [same, calm.cfg]
    exact faithful.ring frame (calm.ring.subset member)
  apart := faithful.apart.sublist (calm.ring.flatMap TxFrame.segs)
  heads frame member handle conn' live entry inConn head := by
    rcases calm.conns handle conn' live with ⟨conn, present, heir⟩
    rcases heir.entries entry inConn with ⟨original, inBefore, _, len, mbuf⟩
    rw [len]
    refine faithful.heads frame ?_ handle conn present original inBefore (mbuf ▸ head)
    rcases member with held | waiting
    · exact calm.driver frame held
    · exact Or.inr (calm.ring.subset waiting)
  shared held inDriver waiting inRing addr inFrame head := by
    rcases calm.drained with empty | fewer
    · rw [empty] at inRing
      cases inRing
    · rw [calm.data]
      exact faithful.shared held (fewer inDriver) waiting (calm.ring.subset inRing) addr inFrame
        head

/-- Buffers are written that are in no waiting frame, and those of entries keep their ends. -/
theorem rewritten (faithful : before.Faithful streams) (cfg : after.cfg = before.cfg)
    (opened : after.record.opened = before.record.opened)
    (ring : after.txPendingData = before.txPendingData)
    (driver : after.driverFrames = before.driverFrames)
    (flowTable : after.flowTable = before.flowTable)
    (slack : ∀ addr, 0 ≤ after.slack addr)
    (waiting : ∀ frame ∈ before.txPendingData, ∀ addr ∈ frame.segs,
      (after.mbufs addr).data = (before.mbufs addr).data)
    (entries : ∀ handle conn, before.flowTable.get handle = some conn →
      ∀ entry ∈ conn.sndRetrans.entries,
        (after.mbufs entry.mbuf).data <:+ (before.mbufs entry.mbuf).data ∧
          entry.len ≤ (after.mbufs entry.mbuf).data.length) : after.Faithful streams where
  slack := slack
  single addr := by
    unfold entryRefs
    rw [flowTable]
    exact faithful.single addr
  conns handle conn present := by
    rw [flowTable] at present
    rcases faithful.conns handle conn present with ⟨flow, found, tuple, backed⟩
    refine ⟨flow, ?_, tuple, ?_⟩
    · rw [Record.incarnation, opened]
      exact found
    · intro entry member
      rcases backed entry member with ⟨positive, small, payload, carries, length, end_⟩
      rcases entries handle conn present entry member with ⟨shorter, enough⟩
      refine ⟨positive, shorter.length_le.trans_lt small, payload, carries, length, ?_⟩
      exact List.suffix_of_suffix_length_le end_ shorter (length ▸ enough)
  ring frame member := by
    rw [ring] at member
    have same : after.frameBytes frame = before.frameBytes frame :=
      List.flatMap_congr fun addr inFrame => waiting frame member addr inFrame
    rw [same, cfg]
    exact faithful.ring frame member
  apart := by
    rw [ring]
    exact faithful.apart
  heads frame member handle conn present := by
    rw [driver, ring] at member
    rw [flowTable] at present
    exact faithful.heads frame member handle conn present
  shared held inDriver frame inRing addr inFrame head := by
    rw [driver] at inDriver
    rw [ring] at inRing
    rw [waiting frame inRing addr inFrame]
    exact faithful.shared held inDriver frame inRing addr inFrame head

/-- A frame joins the ring, behind a drain if the ring is full. -/
theorem push (faithful : engine.Faithful streams) {frame : TxFrame} (sent : ℕ)
    (backs : streams.Backs engine.cfg (engine.frameBytes frame))
    (counted : ∀ addr, (frame.segs.count addr : ℤ) ≤ engine.slack addr)
    (nodup : frame.segs.Nodup)
    (alone : ∀ waiting ∈ engine.txPendingData, ∀ addr ∈ waiting.segs, addr ∉ frame.segs)
    (heads : ∀ handle conn, engine.flowTable.get handle = some conn →
      ∀ entry ∈ conn.sndRetrans.entries, frame.segs.head? = some entry.mbuf →
        entry.len ≤ frame.headPayload)
    (shared : ∀ held ∈ engine.driverFrames, ∀ addr ∈ frame.segs, held.segs.head? = some addr →
      (engine.mbufs addr).data.length ≤ held.headPayload) :
    (engine.pushTxPendingData frame sent).Faithful streams := by
  have joins : ∀ {given : Engine}, given.Faithful streams → given.cfg = engine.cfg →
      given.flowTable = engine.flowTable → (∀ addr, (given.mbufs addr).data =
        (engine.mbufs addr).data) → (∀ addr, engine.slack addr ≤ given.slack addr) →
      given.txPendingData ⊆ engine.txPendingData →
      (∀ held ∈ given.driverFrames, held ∈ engine.driverFrames ∨ held ∈ engine.txPendingData) →
      ({ given with txPendingData := given.txPendingData ++ [frame] } : Engine).Faithful
        streams := by
    intro given held cfg flowTable data slack ring driver
    have refs : ∀ addr, ({ given with txPendingData := given.txPendingData ++ [frame] } :
        Engine).slack addr = given.slack addr - frame.segs.count addr := by
      intro addr
      dsimp only [Engine.slack, Engine.entryRefs, Engine.frameRefs]
      rw [List.flatMap_append, List.count_append, List.flatMap_singleton]
      omega
    refine ⟨fun addr => ?_, held.single, held.conns, fun waiting member => ?_, ?_, ?_, ?_⟩
    · have enough := counted addr
      have more := slack addr
      rw [refs]
      omega
    · rcases List.mem_append.mp member with before | new
      · exact held.ring waiting before
      · have bytes : given.frameBytes frame = engine.frameBytes frame :=
          List.flatMap_congr fun addr _ => data addr
        rw [List.mem_singleton.mp new]
        dsimp only [frameBytes] at bytes ⊢
        rw [bytes, cfg]
        exact backs
    · dsimp only
      rw [List.flatMap_append, List.flatMap_singleton]
      refine List.Nodup.append held.apart nodup ?_
      intro addr inRing inFrame
      rcases List.mem_flatMap.mp inRing with ⟨waiting, member, inWaiting⟩
      exact alone waiting (ring member) addr inWaiting inFrame
    · intro other member handle conn present entry inConn head
      have before : other ∈ given.driverFrames ∨ other ∈ given.txPendingData →
          entry.len ≤ other.headPayload :=
        fun there => held.heads other there handle conn present entry inConn head
      rcases member with inDriver | inRing
      · exact before (Or.inl inDriver)
      · rcases List.mem_append.mp inRing with there | new
        · exact before (Or.inr there)
        · rw [List.mem_singleton.mp new] at head ⊢
          dsimp only at present
          rw [flowTable] at present
          exact heads handle conn present entry inConn head
    · intro other inDriver waiting inRing addr inFrame head
      rcases List.mem_append.mp inRing with there | new
      · exact held.shared other inDriver waiting there addr inFrame head
      · rw [List.mem_singleton.mp new] at inFrame
        rcases driver other inDriver with before | waited
        · dsimp only
          rw [data]
          exact shared other before addr inFrame head
        · exact absurd inFrame (alone other waited addr (List.mem_of_mem_head? head))
  unfold pushTxPendingData
  split
  · exact joins faithful rfl rfl (fun _ => rfl) (fun _ => le_refl _) (.refl _) fun _ => Or.inl
  · have calm := drainTxPendingData_calm engine sent
    exact joins (faithful.calm calm) calm.cfg (drainTxPendingData_change engine sent).flowTable
      calm.data calm.slack calm.ring.subset calm.driver

end Faithful

/-! ### Retransmission -/

section Retransmit

variable {engine : Engine} {streams : Streams} {handle : ConnHandle} {conn : TcpConn}
  {entry : RetransEntry} {env : RetransmitEnv}

/-- The buffer of an entry holds its payload, at the end. -/
theorem Faithful.holds (faithful : engine.Faithful streams)
    (present : engine.flowTable.get handle = some conn)
    (member : entry ∈ conn.sndRetrans.entries) :
    engine.Holds entry ∧ ∃ flow, streams handle (engine.record.incarnation handle) = some flow ∧
      conn.fourTuple = flow.tuple ∧ 0 < entry.len ∧
      flow.Carries entry.seq (engine.entryPayload entry) ∧
      (engine.entryPayload entry).length = entry.len := by
  rcases faithful.conns handle conn present with ⟨flow, found, tuple, backed⟩
  rcases backed entry member with ⟨positive, small, payload, carries, length, end_⟩
  have named := entryRefs_pos present member
  have slack := faithful.slack entry.mbuf
  have holds : engine.Holds entry := by
    refine ⟨?_, ?_, small⟩
    · unfold Engine.slack at slack
      omega
    · rw [← length]
      exact end_.length_le
  have same : engine.entryPayload entry = payload := by
    rw [holds.entryPayload, ← length]
    exact (List.suffix_iff_eq_drop.mp end_).symm
  rw [same]
  exact ⟨holds, flow, found, tuple, positive, carries, length⟩

/-- An entry is the only one with its buffer. -/
theorem Faithful.entry_unique (faithful : engine.Faithful streams)
    (present : engine.flowTable.get handle = some conn) (member : entry ∈ conn.sndRetrans.entries)
    {other : ConnHandle} {conn' : TcpConn} {entry' : RetransEntry}
    (present' : engine.flowTable.get other = some conn')
    (member' : entry' ∈ conn'.sndRetrans.entries) (same : entry'.mbuf = entry.mbuf) :
    entry' = entry := by
  have once := faithful.single entry.mbuf
  rw [entryRefs_eq] at once
  exact Cells.eq_of_count_map_le_one once (mem_liveEntries present' member')
    (mem_liveEntries present member) same rfl

/-- A free buffer is no entry's. -/
theorem Faithful.mbuf_ne_of_free (faithful : engine.Faithful streams)
    (present : engine.flowTable.get handle = some conn) (member : entry ∈ conn.sndRetrans.entries)
    {addr : ℕ} (free : (engine.mbufs addr).refcnt = 0) : entry.mbuf ≠ addr := by
  rintro rfl
  have named := entryRefs_pos present member
  have none := (refs_of_free (faithful.slack entry.mbuf) free).1
  omega

theorem stripHeader_frames (engine : Engine) (addr len : ℕ) :
    (engine.stripHeader addr len).txPendingData = engine.txPendingData ∧
      (engine.stripHeader addr len).driverFrames = engine.driverFrames ∧
      (engine.stripHeader addr len).record = engine.record := by
  unfold stripHeader adjMbuf
  split
  · split <;> exact ⟨rfl, rfl, rfl⟩
  · exact ⟨rfl, rfl, rfl⟩

/-- While the ring is empty, a free buffer and the front of one data buffer may be written. -/
theorem Faithful.stripped {after : Engine} (faithful : engine.Faithful streams)
    (present : engine.flowTable.get handle = some conn) (member : entry ∈ conn.sndRetrans.entries)
    (empty : engine.txPendingData = []) (cfg : after.cfg = engine.cfg)
    (opened : after.record.opened = engine.record.opened)
    (ring : after.txPendingData = engine.txPendingData)
    (driver : after.driverFrames = engine.driverFrames)
    (flowTable : after.flowTable = engine.flowTable) (slack : ∀ addr, 0 ≤ after.slack addr)
    {hdrMbuf : ℕ} (free : (engine.mbufs hdrMbuf).refcnt = 0)
    (data : (after.mbufs entry.mbuf).data = (engine.mbufs entry.mbuf).data ∨
      (after.mbufs entry.mbuf).data = engine.entryPayload entry)
    (others : ∀ addr, addr ≠ entry.mbuf → addr ≠ hdrMbuf →
      (after.mbufs addr).data = (engine.mbufs addr).data) : after.Faithful streams := by
  refine faithful.rewritten cfg opened ring driver flowTable slack ?_ ?_
  · rw [empty]
    exact nofun
  · intro other conn' present' entry' member'
    rcases faithful.holds present' member' with ⟨holds, _, _, _, _, _, length⟩
    by_cases same : entry'.mbuf = entry.mbuf
    · rw [faithful.entry_unique present member present' member' same] at holds length ⊢
      rcases data with kept | cut
      · rw [kept]
        exact ⟨List.suffix_refl _, holds.payload⟩
      · rw [cut]
        refine ⟨?_, length.ge⟩
        rw [holds.entryPayload]
        exact List.drop_suffix _ _
    · rw [others _ same (faithful.mbuf_ne_of_free present' member' free)]
      exact ⟨List.suffix_refl _, holds.payload⟩

/-- The engine in front of the push of a retransmission. -/
theorem Faithful.prepared (faithful : engine.Faithful streams)
    (present : engine.flowTable.get handle = some conn) (member : entry ∈ conn.sndRetrans.entries)
    (empty : engine.txPendingData = []) {hdrMbuf : ℕ}
    (free : (engine.mbufs hdrMbuf).refcnt = 0) (optionsNs : ℕ) (header : List UInt8) :
    (engine.prepared conn entry optionsNs hdrMbuf header).Faithful streams := by
  have apart := faithful.mbuf_ne_of_free present member free
  have holds := (faithful.holds present member).1
  have frames := stripHeader_frames ((engine.allocMbuf hdrMbuf).writeRetransHeader conn entry
    optionsNs hdrMbuf header) entry.mbuf ((engine.allocMbuf hdrMbuf).liveHdrsLen entry)
  have change := prepared_change engine conn entry optionsNs hdrMbuf header
  refine faithful.stripped present member empty change.cfg ?_ frames.1 frames.2.1 change.flowTable
    ?_ free (Or.inr ?_) ?_
  · rw [change.only]
  · intro addr
    have before := faithful.slack addr
    rw [slack_prepared free]
    omega
  · rw [prepared_data holds apart]
  · intro addr notData notHdr
    rw [prepared_other conn optionsNs header notData notHdr]

/-- A failed transmission keeps the ends of the buffers. -/
theorem FailedTo.faithful {after : Engine} (failed : engine.FailedTo handle conn entry env after)
    (faithful : engine.Faithful streams) (present : engine.flowTable.get handle = some conn)
    (member : entry ∈ conn.sndRetrans.entries) (empty : engine.txPendingData = [])
    (free : engine.handsOutFree env.hdrMbuf = true) : after.Faithful streams := by
  have slack : ∀ addr, 0 ≤ after.slack addr := by
    intro addr
    rw [failed.slack free]
    exact faithful.slack addr
  cases failed with
  | alloc none => exact faithful.calm (.push _ _)
  | build hdrMbuf some =>
      rw [some] at free
      have free : (engine.mbufs hdrMbuf).refcnt = 0 := of_decide_eq_true free
      have apart := faithful.mbuf_ne_of_free present member free
      refine faithful.stripped present member empty rfl rfl rfl rfl rfl slack free (Or.inl ?_) ?_
      · dsimp only [retransmitError, pushEvent, releaseMbuf, allocMbuf]
        rw [mbufs_setMbuf, if_neg apart, mbufs_setMbuf, if_neg apart]
      · intro addr _ notHdr
        dsimp only [retransmitError, pushEvent, releaseMbuf, allocMbuf]
        rw [mbufs_setMbuf, if_neg notHdr, mbufs_setMbuf, if_neg notHdr]
  | chain hdrMbuf some header =>
      rw [some] at free
      have free : (engine.mbufs hdrMbuf).refcnt = 0 := of_decide_eq_true free
      have apart := faithful.mbuf_ne_of_free present member free
      have holds := (faithful.holds present member).1
      have frames := stripHeader_frames ((engine.allocMbuf hdrMbuf).writeRetransHeader conn entry
        env.optionsNs hdrMbuf header) entry.mbuf ((engine.allocMbuf hdrMbuf).liveHdrsLen entry)
      have change := prepared_change engine conn entry env.optionsNs hdrMbuf header
      have data : ∀ addr, ((((engine.prepared conn entry env.optionsNs hdrMbuf header).releaseMbuf
          hdrMbuf).releaseMbuf entry.mbuf).mbufs addr).data =
            ((engine.prepared conn entry env.optionsNs hdrMbuf header).mbufs addr).data :=
        data_releaseMbufs _ [hdrMbuf, entry.mbuf]
      refine faithful.stripped present member empty change.cfg ?_ frames.1 frames.2.1
        change.flowTable slack free (Or.inr ?_) ?_
      · dsimp only [retransmitError, pushEvent, releaseMbuf, setMbuf]
        rw [change.only]
      · dsimp only [retransmitError, pushEvent]
        rw [data, prepared_data holds apart]
      · intro addr notData notHdr
        dsimp only [retransmitError, pushEvent]
        rw [data, prepared_other conn env.optionsNs header notData notHdr]

/-- The frame of a retransmission is that of a segment of the stream. -/
theorem Faithful.prepared_backs (faithful : engine.Faithful streams)
    (present : engine.flowTable.get handle = some conn) (member : entry ∈ conn.sndRetrans.entries)
    {hdrMbuf : ℕ} (free : (engine.mbufs hdrMbuf).refcnt = 0) {optionsNs : ℕ} {header : List UInt8}
    (built : (engine.allocMbuf hdrMbuf).retransHeader conn entry optionsNs = some header)
    {frame : TxFrame} (chain : frame.segs = [hdrMbuf, entry.mbuf]) :
    streams.Backs engine.cfg
      ((engine.prepared conn entry optionsNs hdrMbuf header).frameBytes frame) := by
  have apart := faithful.mbuf_ne_of_free present member free
  rcases faithful.holds present member with ⟨holds, flow, found, tuple, positive, carries, length⟩
  obtain ⟨seg, laid⟩ : ∃ seg, seg = engine.segmentTx conn entry.seq (TCP_ACK ||| TCP_PSH)
      (conn.txOptions optionsNs) (engine.entryPayload entry) :=
    ⟨_, rfl⟩
  have payload : seg.payload = engine.entryPayload entry := by
    rw [laid]
    rfl
  have bare : { seg with payload := [] } = engine.retransSegment conn entry optionsNs := by
    rw [laid]
    rfl
  have same : (engine.allocMbuf hdrMbuf).entryPayload entry = engine.entryPayload entry := by
    unfold Engine.entryPayload Engine.liveHdrsLen
    rw [allocMbuf, mbufs_setMbuf, if_neg apart]
  have built : buildRetransHeader { seg with payload := [] } seg.payload 128 = some header := by
    rw [bare, payload, ← same]
    exact built
  rcases SegmentTx.wire_of_buildRetransHeader built engine.cfg.txCksumOffloadActive with
    ⟨wire, short, fits⟩
  have options := seg.options.length_encode_le
  have whole : header.take (asU16 header.length) = header := by
    rw [asU16_of_lt (by rw [short]; unfold FRAME_HDRS_MIN ETH_HDR_LEN IPV4_HDR_MIN TCP_HDR_MIN; omega),
      List.take_length]
  refine ⟨handle, _, flow, seg, found, ?_, ?_⟩
  · rw [laid] at fits ⊢
    refine segmentTx_sends tuple fits ?_ carries
    rw [length]
    exact positive
  · rw [← wire, frameBytes, chain, List.flatMap_cons, List.flatMap_singleton,
      prepared_hdr apart, prepared_data holds apart]
    dsimp only
    rw [whole, bare, payload, length]

/-- A transmission pushes its frame on the empty ring. -/
theorem Faithful.transmitted (faithful : engine.Faithful streams)
    (present : engine.flowTable.get handle = some conn) (member : entry ∈ conn.sndRetrans.entries)
    (empty : engine.txPendingData = []) (free : engine.handsOutFree env.hdrMbuf = true)
    (index : ℕ) (transmits : engine.transmits conn entry env = true) :
    (engine.retransmitEntry handle index conn entry env).Faithful streams := by
  rcases retransmitEntry_of_transmits handle index transmits with
    ⟨hdrMbuf, header, some, built, sent⟩
  rw [some] at free
  have free : (engine.mbufs hdrMbuf).refcnt = 0 := of_decide_eq_true free
  have apart := faithful.mbuf_ne_of_free present member free
  rcases faithful.holds present member with ⟨holds, _, _, _, _, _, length⟩
  have change := prepared_change engine conn entry env.optionsNs hdrMbuf header
  have frames := stripHeader_frames ((engine.allocMbuf hdrMbuf).writeRetransHeader conn entry
    env.optionsNs hdrMbuf header) entry.mbuf ((engine.allocMbuf hdrMbuf).liveHdrsLen entry)
  have ring : (engine.prepared conn entry env.optionsNs hdrMbuf header).txPendingData = [] :=
    frames.1.trans empty
  have driver : (engine.prepared conn entry env.optionsNs hdrMbuf header).driverFrames =
      engine.driverFrames :=
    frames.2.1
  rw [sent]
  refine .calm (.push (faithful.prepared present member empty free env.optionsNs header) _ ?_ ?_ ?_
    ?_ ?_ ?_) (.modify _ handle fun conn => ⟨rfl, (kept_resent conn index env.nowNs).entries⟩)
  · rw [change.cfg]
    exact faithful.prepared_backs present member free built rfl
  · intro addr
    have before := faithful.slack addr
    have parts : [hdrMbuf, entry.mbuf].count addr =
        [hdrMbuf].count addr + [entry.mbuf].count addr := by
      rw [← List.count_append]
      rfl
    rw [slack_prepared free]
    dsimp only
    omega
  · simpa using Ne.symm apart
  · rw [ring]
    exact nofun
  · intro other conn' present' entry' member' head
    rw [change.flowTable] at present'
    exact absurd (Option.some.inj head).symm (faithful.mbuf_ne_of_free present' member' free)
  · intro held inDriver addr inFrame head
    rw [driver] at inDriver
    rcases List.mem_cons.mp inFrame with rfl | isData
    · have refs := frameRefs_pos (Or.inl inDriver) (List.mem_of_mem_head? head)
      have none := (refs_of_free (faithful.slack addr) free).2
      omega
    · rw [List.mem_singleton.mp isData] at head ⊢
      rw [prepared_data holds apart]
      dsimp only
      rw [length]
      exact faithful.heads held (Or.inl inDriver) handle conn present entry member head

theorem retransmit_faithful (faithful : engine.Faithful streams) (handle : ConnHandle) (index : ℕ)
    (free : engine.retransmitFree env = true) :
    (engine.retransmit handle index env).Faithful streams := by
  have drained := faithful.calm (drainTxPendingData_calm engine env.sent)
  have empty := drainTxPendingData_txPendingData engine env.sent
  dsimp only [retransmit]
  generalize drained_eq : engine.drainTxPendingData env.sent = drainedEngine at drained empty ⊢
  split
  · exact drained
  · rename_i conn present
    split
    · exact drained
    · rename_i entry found
      have looked : (drainedEngine.recordPick ⟨handle, entry, conn.sndUna⟩).Faithful streams :=
        drained.calm (.same rfl rfl rfl rfl rfl rfl)
      have member := List.mem_of_getElem? found
      have free : (drainedEngine.recordPick ⟨handle, entry, conn.sndUna⟩).handsOutFree env.hdrMbuf =
          true := by
        rw [← drained_eq]
        exact free
      split
      · exact looked
      · rename_i some
        cases transmits : (drainedEngine.recordPick ⟨handle, entry, conn.sndUna⟩).transmits conn
            entry env with
        | false =>
            exact (retransmitEntry_of_not_transmits handle index some transmits).faithful looked
              present member empty free
        | true => exact looked.transmitted present member empty free index transmits

end Retransmit

end Engine

end DpdkTcp
