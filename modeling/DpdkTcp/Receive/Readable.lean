import DpdkTcp.Receive.Integrity
import DpdkTcp.Route.Shape

/-!
# What `deliver_readable` takes from the queue

The pop loop moves whole windows to the event and splits at most one. A window
stands for places in a buffer, so what is delivered and what is left stand, in
this order, for the places of the old queue; the saturating addition of the
split only saturates behind the end of a buffer. Empty windows never get into
the queue of a connection, and the loop makes none.
-/

namespace DpdkTcp

/-- The places a window shows: a buffer and an offset in it, for every byte. -/
def InOrderSegment.places (seg : InOrderSegment) : List (RxMbuf × ℕ) :=
  ((List.range' seg.offset seg.len).filter fun offset => offset < seg.mbuf.data.length).map
    fun offset => (seg.mbuf, offset)

/-- `total_len` of the event, added up in 32 bits without wrapping. -/
def totalLen (segs : List InOrderSegment) : ℕ :=
  segs.foldl (fun total seg => min (total + seg.len) (2 ^ 32 - 1)) 0

theorem totalLen_eq_sum {segs : List InOrderSegment}
    (small : (segs.map InOrderSegment.len).sum < 2 ^ 32) :
    totalLen segs = (segs.map InOrderSegment.len).sum := by
  have from_start : ∀ (segs : List InOrderSegment) (start : ℕ),
      start + (segs.map InOrderSegment.len).sum < 2 ^ 32 →
      segs.foldl (fun total seg => min (total + seg.len) (2 ^ 32 - 1)) start =
        start + (segs.map InOrderSegment.len).sum := by
    intro segs
    induction segs with
    | nil =>
        intro start _
        rfl
    | cons seg rest ih =>
        intro start small
        rw [List.map_cons, List.sum_cons, ← Nat.add_assoc] at small ⊢
        rw [List.foldl_cons, Nat.min_eq_left (by omega)]
        exact ih _ small
  have added := from_start segs 0
  rw [Nat.zero_add] at added
  exact added small

/-! ### The pop loop -/

/-- What is delivered of a queue, and what is left of it. -/
structure Split.Exact (split : Split) (totalDelivered : ℕ) (segs : List InOrderSegment) :
    Prop where
  places : split.delivered.flatMap InOrderSegment.places ++
    split.rest.flatMap InOrderSegment.places = segs.flatMap InOrderSegment.places
  length : (split.delivered.map InOrderSegment.len).sum =
    min totalDelivered (segs.map InOrderSegment.len).sum
  left : (split.rest.map InOrderSegment.len).sum =
    (segs.map InOrderSegment.len).sum - totalDelivered
  nonempty : (∀ seg ∈ segs, 0 < seg.len) → ∀ seg ∈ split.delivered ++ split.rest, 0 < seg.len

/-- The two windows of a split show what the window showed. -/
theorem places_split (seg : InOrderSegment) {taken : ℕ} (short : taken < seg.len) :
    InOrderSegment.places ⟨seg.mbuf, seg.offset, taken⟩ ++
        InOrderSegment.places ⟨seg.mbuf, min (seg.offset + taken) 65535, seg.len - taken⟩ =
      seg.places := by
  have whole : List.range' seg.offset taken ++ List.range' (seg.offset + taken) (seg.len - taken) =
      List.range' seg.offset seg.len := by
    have joined := @List.range'_append seg.offset taken (seg.len - taken) 1
    rw [Nat.one_mul, Nat.add_sub_of_le (Nat.le_of_lt short)] at joined
    exact joined
  -- behind the end of the buffer there is nothing to show, from wherever one starts
  have beyond : ∀ start count, 65535 ≤ start →
      (List.range' start count).filter (fun offset => offset < seg.mbuf.data.length) = [] := by
    intro start count far
    rw [List.filter_eq_nil_iff]
    intro offset member
    have behind := (List.mem_range'_1.mp member).1
    have small := seg.mbuf.dataLen_lt
    simp only [decide_eq_true_iff]
    omega
  have saturated : (List.range' (min (seg.offset + taken) 65535) (seg.len - taken)).filter
        (fun offset => offset < seg.mbuf.data.length) =
      (List.range' (seg.offset + taken) (seg.len - taken)).filter
        (fun offset => offset < seg.mbuf.data.length) := by
    rcases Nat.le_total (seg.offset + taken) 65535 with fits | far
    · rw [Nat.min_eq_left fits]
    · rw [Nat.min_eq_right far, beyond _ _ (Nat.le_refl _), beyond _ _ far]
  unfold InOrderSegment.places
  dsimp only
  rw [saturated, ← List.map_append, ← List.filter_append, whole]

theorem splitDelivered_exact (totalDelivered : ℕ) (segs : List InOrderSegment) :
    (splitDelivered totalDelivered segs).Exact totalDelivered segs := by
  induction segs generalizing totalDelivered with
  | nil => exact ⟨rfl, (Nat.min_zero _).symm, (Nat.zero_sub _).symm, fun _ => nofun⟩
  | cons seg rest ih =>
      dsimp only [splitDelivered]
      split
      · rename_i zero
        subst zero
        exact ⟨rfl, (Nat.zero_min _).symm, (Nat.sub_zero _).symm, id⟩
      · rename_i more
        split
        · -- the front window is popped whole
          rename_i fits
          have behind := ih (totalDelivered - seg.len)
          refine ⟨?_, ?_, ?_, ?_⟩
          · rw [List.flatMap_cons, List.append_assoc, behind.places, List.flatMap_cons]
          · rw [List.map_cons, List.sum_cons, behind.length, List.map_cons, List.sum_cons]
            omega
          · dsimp only
            rw [behind.left, List.map_cons, List.sum_cons]
            omega
          · intro nonempty piece member
            rcases List.mem_cons.mp member with rfl | member
            · exact nonempty _ List.mem_cons_self
            · exact behind.nonempty (fun other stored => nonempty other
                (List.mem_cons_of_mem seg stored)) piece member
        · -- the front window is split, and the loop ends
          rename_i short
          refine ⟨?_, ?_, ?_, ?_⟩
          · rw [List.flatMap_cons, List.flatMap_nil, List.append_nil, List.flatMap_cons,
              ← List.append_assoc, places_split seg (Nat.lt_of_not_le short), List.flatMap_cons]
          · rw [List.map_cons, List.sum_cons, List.map_nil, List.sum_nil, List.map_cons,
              List.sum_cons]
            dsimp only
            omega
          · rw [List.map_cons, List.sum_cons, List.map_cons, List.sum_cons]
            dsimp only
            omega
          · intro nonempty piece member
            rcases List.mem_cons.mp member with rfl | member
            · exact Nat.pos_of_ne_zero more
            · rcases List.mem_cons.mp member with rfl | member
              · exact Nat.sub_pos_of_lt (Nat.lt_of_not_le short)
              · exact nonempty piece (List.mem_cons_of_mem seg member)

/-! ### No window of a queue is empty -/

/-- Every window of the in-order queue shows a byte. -/
def RecvQueue.Shown (recv : RecvQueue) : Prop :=
  ∀ seg ∈ recv.bytes, 0 < seg.len

theorem Appended.push_shown {appended : Appended} (shown : appended.recv.Shown) (mbuf : RxMbuf)
    (offset : ℕ) {take : ℕ} (some_taken : 0 < take) (short : take < 65536) :
    (appended.push mbuf offset take).recv.Shown := by
  intro seg member
  rcases List.mem_append.mp member with old | new
  · exact shown seg old
  · rw [List.mem_singleton.mp new]
    rw [asU16, Nat.mod_eq_of_lt short]
    exact some_taken

theorem appendChain_shown (links : List RxMbuf) {appended : Appended}
    (shown : appended.recv.Shown) : (appendChain links appended).recv.Shown := by
  induction links generalizing appended with
  | nil => exact shown
  | cons link rest ih =>
      dsimp only [appendChain]
      split
      · exact shown
      · apply ih
        split
        · rename_i some_taken
          exact Appended.push_shown shown link 0 some_taken
            (Nat.lt_of_le_of_lt (Nat.min_le_left _ _) link.dataLen_lt)
        · exact shown

theorem appendInOrder_shown {recv : RecvQueue} (shown : recv.Shown) {seg : ParsedSegment}
    (short : seg.payload.length < 65536) (mbufCtx : Option MbufInsertCtx) :
    (appendInOrder recv seg mbufCtx).recv.Shown := by
  dsimp only [appendInOrder]
  split
  · split
    · rename_i ctx some_taken
      apply appendChain_shown
      have queue : ({ recv := recv } : Appended).recv.Shown := shown
      exact Appended.push_shown queue ctx.mbuf _ some_taken
        (Nat.lt_of_le_of_lt (Nat.min_le_left _ _) short)
    · exact shown
  · exact shown

theorem drainSegments_shown (segs : List OooSegment) (rcvNxt : Seq) (capRoom totalBytes : ℕ) :
    ∀ seg ∈ (drainSegments segs rcvNxt capRoom totalBytes).appended, 0 < seg.len := by
  induction segs generalizing rcvNxt capRoom totalBytes with
  | nil => exact nofun
  | cons seg rest ih =>
      dsimp only [drainSegments]
      split
      · exact nofun
      · split
        · exact ih _ _ _
        · split
          · rename_i kept
            intro piece member
            rcases List.mem_cons.mp member with rfl | member
            · exact kept
            · exact ih _ _ _ piece member
          · exact ih _ _ _

theorem insertChain_bytes (links : List RxMbuf) (linkSeq : Seq) (delivery : Delivery) :
    (insertChain links linkSeq delivery).conn.recv.bytes = delivery.conn.recv.bytes := by
  induction links generalizing linkSeq delivery with
  | nil => rfl
  | cons link rest ih =>
      dsimp only [insertChain]
      split
      · exact ih _ _
      · rw [ih]

theorem deliver_shown {conn : TcpConn} (shown : conn.recv.Shown) {seg : ParsedSegment}
    (short : seg.payload.length < 65536) (mbufCtx : Option MbufInsertCtx) :
    (deliver conn seg mbufCtx).conn.recv.Shown := by
  unfold deliver
  split
  · exact shown
  · split
    · have appended := appendInOrder_shown shown short mbufCtx
      dsimp only [deliverInOrder, drainReorder]
      split
      · exact appended
      · intro piece member
        rcases List.mem_append.mp member with old | drained
        · exact appended piece old
        · exact drainSegments_shown _ _ _ _ piece drained
    · split
      · have same : (deliverOutOfOrder conn seg mbufCtx).conn.recv.bytes = conn.recv.bytes := by
          dsimp only [deliverOutOfOrder]
          split
          · split
            · rw [insertChain_bytes]
            · rfl
          · rfl
        intro piece member
        rw [same] at member
        exact shown piece member
      · exact shown

theorem dispatch_shown {conn : TcpConn} (shown : conn.recv.Shown) {seg : ParsedSegment}
    (short : seg.payload.length < 65536) (clock : Readings) (sendBuf : ℕ)
    (mbufCtx : Option MbufInsertCtx) :
    (dispatch conn seg clock sendBuf mbufCtx).conn.recv.Shown := by
  by_cases opening : conn.state = .synSent
  · have shake : dispatch conn seg clock sendBuf mbufCtx = handleSynSent conn seg clock := by
      rw [dispatch, opening]
    rw [shake, handleSynSent_recv]
    exact shown
  · cases dispatch_receives opening seg clock sendBuf mbufCtx with
    | idle _ recv =>
        rw [recv]
        exact shown
    | data _ _ _ raced same _ _ _ _ recv =>
        rw [recv]
        exact deliver_shown (by rw [same.recv]; exact shown) short mbufCtx

/-- No connection of the host has an empty window in its queue. -/
def Host.Shown (host : Host) : Prop :=
  ∀ handle conn, host.engine.flowTable.get handle = some conn → conn.recv.Shown

theorem Host.Shown.step {host : Host} (shown : host.Shown) {op : SystemOp}
    (framed : op.framed = true) : (host.systemStep op).Shown := by
  intro handle after live
  have received := host.systemStep_receiver op live
  generalize before : host.engine.flowTable.get handle = present at received
  cases received with
  | kept same _ _ =>
      rw [same.recv]
      exact shown handle _ before
  | opening _ recv _ =>
      rw [recv]
      exact nofun
  | segment seg mbufCtx env called dispatched processed same _ =>
      subst called
      have short : seg.payload.length < 65536 :=
        of_decide_eq_true (Bool.and_eq_true_iff.mp framed).1
      have left := dispatch_shown (shown handle _ before) short env.clock
        host.engine.cfg.sendBufferBytes mbufCtx
      rw [← processed] at left
      rw [same.recv]
      dsimp only [TcpConn.handOver]
      split
      · intro piece member
        exact (splitDelivered_exact _ _).nonempty left piece (List.mem_append_right _ member)
      · exact left

theorem Station.shown_step {station : Station} (shown : station.host.Shown) {op : StationOp}
    (framed : op.framed = true) : (station.step op).host.Shown := by
  rcases @Station.step_framed station op framed with same | ⟨call, short, same⟩ <;> rw [same]
  · exact shown
  · exact shown.step short

/-! ### The call -/

/-- What `deliver_readable` does to the connection of a handle and to the events: the
event shows what is delivered, window by window, and the rest stays in the queue. -/
structure DeliversExactly (table : FlowTable) (events : EventQueue) (handle : ConnHandle)
    (conn : TcpConn) (totalDelivered rxHwTsNs emittedTsNs : ℕ) (split : Split) : Prop where
  exactly : split.Exact totalDelivered conn.recv.bytes
  conn : (deliverReadable table events handle totalDelivered rxHwTsNs emittedTsNs).1.get handle =
    some
      { conn with
        recv := { conn.recv with bytes := split.rest }
        deliveredSegments := [] }
  beside : ∀ other, other ≠ handle →
    (deliverReadable table events handle totalDelivered rxHwTsNs emittedTsNs).1.get other =
      table.get other
  event : (deliverReadable table events handle totalDelivered rxHwTsNs emittedTsNs).2 =
    if split.delivered = [] then events
    else
      events.push
        (.readable handle (split.delivered.map fun seg => ⟨seg.mbuf, seg.offset, seg.len⟩)
          split.delivered (totalLen split.delivered) rxHwTsNs emittedTsNs)
  total : totalLen split.delivered = (split.delivered.map InOrderSegment.len).sum

theorem DeliversExactly.of_present {table : FlowTable} {handle : ConnHandle} {conn : TcpConn}
    (present : table.get handle = some conn) {totalDelivered : ℕ}
    (small : totalDelivered < 2 ^ 32) (events : EventQueue) (rxHwTsNs emittedTsNs : ℕ) :
    DeliversExactly table events handle conn totalDelivered rxHwTsNs emittedTsNs
      (splitDelivered totalDelivered conn.recv.bytes) := by
  have exactly := splitDelivered_exact totalDelivered conn.recv.bytes
  have total : totalLen (splitDelivered totalDelivered conn.recv.bytes).delivered =
      ((splitDelivered totalDelivered conn.recv.bytes).delivered.map InOrderSegment.len).sum := by
    apply totalLen_eq_sum
    rw [exactly.length]
    exact Nat.lt_of_le_of_lt (Nat.min_le_left _ _) small
  refine ⟨exactly, ?_, ?_, ?_, total⟩
  · unfold deliverReadable
    rw [present]
    exact (FlowTable.get_set present _ handle).trans (if_pos rfl)
  · intro other elsewhere
    unfold deliverReadable
    rw [present]
    exact (FlowTable.get_set present _ other).trans (if_neg elsewhere)
  · unfold deliverReadable
    rw [present, total]
    simp only [List.isEmpty_iff]
    rfl

/-- For every queue and every number of bytes, `deliver_readable` splits the queue exactly and
makes no empty window of one that is not; and in every run no queue has an empty window. -/
theorem deliver_readable_exact :
    (∀ (table : FlowTable) (events : EventQueue) (handle : ConnHandle) (conn : TcpConn)
        (totalDelivered rxHwTsNs emittedTsNs : ℕ), table.get handle = some conn →
      totalDelivered < 2 ^ 32 →
        ∃ split, DeliversExactly table events handle conn totalDelivered rxHwTsNs emittedTsNs split) ∧
    ∀ (cfg : EngineConfig) (maxConnections eventSoftCap : ℕ) (secondaryLocalIps : List (BitVec 32))
        (rxCksumOffloadActive : Bool) (lastEphemeralPort : UInt16) (station : Station),
      Run.Reaches Station.step (fun _ op => op.framed = true)
        (Station.start cfg maxConnections eventSoftCap secondaryLocalIps rxCksumOffloadActive
          lastEphemeralPort) station →
        ∀ handle conn, station.host.engine.flowTable.get handle = some conn →
          ∀ seg ∈ conn.recv.bytes, 0 < seg.len := by
  constructor
  · intro table events handle conn totalDelivered rxHwTsNs emittedTsNs present small
    exact ⟨_, DeliversExactly.of_present present small events rxHwTsNs emittedTsNs⟩
  · intro cfg maxConnections eventSoftCap secondaryLocalIps rxCksumOffloadActive lastEphemeralPort
      station run
    apply run.invariant
    · intro handle conn live
      rw [Station.start, Host.get_start] at live
      cases live
    · exact fun station op shown framed => Station.shown_step shown framed

/-- A connection with windows of two and of three bytes. -/
def twoWindowsConn : TcpConn :=
  { fourByteConn with
    recv :=
      { fourByteConn.recv with
        bytes := [⟨buffer 1 [1, 2], 0, 2⟩, ⟨buffer 2 [0, 3, 4, 5], 1, 3⟩] } }

/-- Three of its bytes are delivered; and a run. -/
theorem deliver_readable_exact_three :
    (∃ split,
      DeliversExactly ⟨[some twoWindowsConn], fun _ => none⟩ (EventQueue.withCap 64) 1
        twoWindowsConn 3 0 0 split) ∧
      ∀ handle conn, joined.host.engine.flowTable.get handle = some conn →
        ∀ seg ∈ conn.recv.bytes, 0 < seg.len :=
  ⟨deliver_readable_exact.1 _ _ 1 _ 3 0 0 rfl (by decide),
    deliver_readable_exact.2 _ _ _ _ _ _ _ joined_reached⟩

end DpdkTcp
