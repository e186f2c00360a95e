import DpdkTcp.Receive.Grow
import DpdkTcp.Receive.Stream

/-!
# From acknowledged byte to `Readable` event

The connections of a flow table share one bounded event queue. Segments bring
bytes in, `deliver_readable` moves them into an event, other events compete
for room, and a poll pops events from the front. A full queue drops its
oldest event. A ledger records what every connection accepted and every event
that left the queue; in every run the two agree, byte for byte and in order.
-/

namespace DpdkTcp

open Slice

/-- The bytes an iovec shows. -/
def Iovec.bytes (iovec : Iovec) : List UInt8 :=
  (iovec.mbuf.data.drop iovec.offset).take iovec.len

/-- The bytes an event hands to the connection's application. -/
def InternalEvent.bytesFor (handle : ConnHandle) : InternalEvent → List UInt8
  | .readable conn segs _ _ _ _ => if conn = handle then segs.flatMap Iovec.bytes else []
  | _ => []

/-- An event that left the queue: popped by a poll, or dropped by a push. -/
structure Removal where
  event : InternalEvent
  dropped : Bool

/-- The flow table, the event queue and the ledger. -/
structure EventPath where
  table : FlowTable
  events : EventQueue
  /-- events that left the queue, oldest first -/
  removed : List Removal
  /-- bytes by which a connection's in-order queue grew -/
  accepted : ConnHandle → List UInt8
  /-- sequence number of the first of them -/
  firstSeq : ConnHandle → Seq
  /-- FINs consumed -/
  fins : ConnHandle → ℕ

/-- What moves received bytes on. -/
inductive EventPathOp where
  | segment (handle : ConnHandle) (seg : ParsedSegment) (clock : Readings) (sendBufferBytes : ℕ)
      (mbufCtx : Option MbufInsertCtx)
  | deliverReadable (handle : ConnHandle) (totalDelivered rxHwTsNs emittedTsNs : ℕ)
  | push (event : InternalEvent)
  | poll (maxEvents : ℕ)

/-- What a push dropped between two states of the queue. -/
def displaced (before after : EventQueue) : List Removal :=
  if after.eventsDropped = before.eventsDropped then []
  else (before.q.take 1).map fun oldest => ⟨oldest, true⟩

namespace EventPath

/-- The books on a table and a queue: what they hold counts as received. -/
def init (table : FlowTable) (events : EventQueue) : EventPath :=
  let held := fun handle =>
    events.q.flatMap (InternalEvent.bytesFor handle) ++
      ((table.get handle).map fun conn => conn.recv.contents).getD []
  { table := table
    events := events
    removed := []
    accepted := held
    firstSeq := fun handle =>
      ((table.get handle).map TcpConn.rcvNxt).getD 0#32 - BitVec.ofNat 32 (held handle).length
    fins := fun _ => 0 }

/-- Record what a dispatch on a connection accepted. The bytes are those behind
the old contents; their numbering starts with the handshake. -/
def takeSegment (path : EventPath) (handle : ConnHandle) (conn : TcpConn)
    (dispatched : Dispatched) : EventPath :=
  let grown := path.accepted handle ++ dispatched.conn.recv.contents.drop conn.recv.contents.length
  { path with
    table := path.table.set handle dispatched.applied
    accepted := Function.update path.accepted handle grown
    firstSeq :=
      if conn.state = .synSent then
        Function.update path.firstSeq handle (dispatched.conn.rcvNxt - BitVec.ofNat 32 grown.length)
      else path.firstSeq
    fins :=
      Function.update path.fins handle
        (if conn.state = .synSent then 0
          else path.fins handle + (tookFin conn dispatched).toNat) }

/-- One step, with the books on what was received and handed over. -/
def step (path : EventPath) : EventPathOp → EventPath
  | .segment handle seg clock sendBuf mbufCtx =>
      match path.table.get handle with
      | some conn => path.takeSegment handle conn (dispatch conn seg clock sendBuf mbufCtx)
      | none => path
  | .deliverReadable handle totalDelivered rxHwTsNs emittedTsNs =>
      let delivered :=
        DpdkTcp.deliverReadable path.table path.events handle totalDelivered rxHwTsNs emittedTsNs
      { path with
        table := delivered.1
        events := delivered.2
        removed := path.removed ++ displaced path.events delivered.2 }
  | .push event =>
      { path with
        events := path.events.push event
        removed := path.removed ++ displaced path.events (path.events.push event) }
  | .poll maxEvents =>
      let popped := path.events.popMany maxEvents
      { path with
        events := popped.2
        removed := path.removed ++ popped.1.map fun event => ⟨event, false⟩ }

/-- The connection's bytes in the events that left the queue, in order. -/
def removedBytes (path : EventPath) (handle : ConnHandle) : List UInt8 :=
  path.removed.flatMap fun removal => removal.event.bytesFor handle

/-- Those of them that a poll handed to the application. -/
def poppedBytes (path : EventPath) (handle : ConnHandle) : List UInt8 :=
  path.removed.flatMap fun removal => if removal.dropped then [] else removal.event.bytesFor handle

/-- The connection's bytes in events still queued. -/
def queuedBytes (path : EventPath) (handle : ConnHandle) : List UInt8 :=
  path.events.q.flatMap (InternalEvent.bytesFor handle)

/-- The payload of a dispatched segment stands in its buffer, and the other
pushes are of other kinds of events. -/
def Admissible (_ : EventPath) : EventPathOp → Prop
  | .segment _ seg _ _ mbufCtx => ∀ ctx, mbufCtx = some ctx → ctx.Backs seg.payload
  | .push event => event.isReadable = false
  | .deliverReadable .. => True
  | .poll _ => True

/-- The ledger of one connection balances. -/
structure Accounted (path : EventPath) (handle : ConnHandle) (conn : TcpConn) : Prop where
  bytes : path.removedBytes handle ++ path.queuedBytes handle ++ conn.recv.contents =
    path.accepted handle
  rcvNxt : conn.rcvNxt =
    seqAdd (path.firstSeq handle) ((path.accepted handle).length + path.fins handle)
  inside : conn.recv.reorder.Inside

/-- Every byte that a connection received is accounted for. -/
structure Conserved (dropped : ℕ) (path : EventPath) : Prop where
  capped : 0 < path.events.softCap
  counted : path.events.eventsDropped = dropped + path.removed.countP Removal.dropped
  conns : ∀ handle conn, path.table.get handle = some conn → path.Accounted handle conn

end EventPath

/-! ### Pushing and popping -/

/-- A push keeps all events but those it displaces, in order. -/
theorem displaced_push (queue : EventQueue) (event : InternalEvent) :
    (displaced queue (queue.push event)).map Removal.event ++ (queue.push event).q =
      queue.q ++ [event] := by
  dsimp only [displaced, EventQueue.push]
  by_cases full : queue.softCap ≤ queue.q.length
  · rw [if_pos full, if_pos full, if_neg (by omega), List.map_map, ← List.append_assoc]
    have same : (Removal.event ∘ fun oldest => ⟨oldest, true⟩) = id := rfl
    rw [same, List.map_id, List.take_append_drop]
  · rw [if_neg full, if_neg full, if_pos rfl]
    rfl

/-- The drop counter counts the displaced events. -/
theorem eventsDropped_push {queue : EventQueue} (capped : 0 < queue.softCap)
    (event : InternalEvent) :
    (queue.push event).eventsDropped =
      queue.eventsDropped + (displaced queue (queue.push event)).countP Removal.dropped := by
  dsimp only [displaced, EventQueue.push]
  by_cases full : queue.softCap ≤ queue.q.length
  · rw [if_pos full, if_neg (by omega)]
    cases nonempty : queue.q with
    | nil =>
        rw [nonempty] at full
        exact absurd full (by simpa using Nat.pos_iff_ne_zero.mp capped)
    | cons oldest rest => simp
  · rw [if_neg full, if_pos rfl]
    simp

theorem displaced_self (queue : EventQueue) : displaced queue queue = [] := by
  simp [displaced]

theorem bytesFor_of_not_readable {event : InternalEvent} (other : event.isReadable = false)
    (handle : ConnHandle) : event.bytesFor handle = [] := by
  cases event with
  | readable => cases other
  | _ => rfl

theorem bytesFor_readableEvent (handle other : ConnHandle) (delivered : List InOrderSegment)
    (rxHwTsNs emittedTsNs : ℕ) :
    (readableEvent handle delivered rxHwTsNs emittedTsNs).bytesFor other =
      if handle = other then delivered.flatMap InOrderSegment.bytes else [] := by
  simp only [readableEvent, InternalEvent.bytesFor, List.flatMap_map]
  rfl

namespace EventPath

variable {dropped : ℕ} {path : EventPath}

/-- The bytes in removed and queued events after a push. -/
theorem pushed_bytes {pushed : EventPath} {event : InternalEvent}
    (events : pushed.events = path.events.push event)
    (removed : pushed.removed = path.removed ++ displaced path.events (path.events.push event))
    (handle : ConnHandle) :
    pushed.removedBytes handle ++ pushed.queuedBytes handle =
      path.removedBytes handle ++ path.queuedBytes handle ++ event.bytesFor handle := by
  have order := congrArg (List.flatMap (InternalEvent.bytesFor handle))
    (displaced_push path.events event)
  rw [List.flatMap_append, List.flatMap_map, List.flatMap_append, List.flatMap_singleton] at order
  rw [removedBytes, queuedBytes, events, removed, List.flatMap_append, List.append_assoc, order,
    ← List.append_assoc]
  rfl

/-- A push of an event that carries nothing for a connection keeps its ledger. -/
theorem Accounted.push {handle : ConnHandle} {conn : TcpConn} {event : InternalEvent}
    (accounted : path.Accounted handle conn) (silent : event.bytesFor handle = []) :
    (path.step (.push event)).Accounted handle conn := by
  refine ⟨?_, accounted.rcvNxt, accounted.inside⟩
  have kept : (path.step (.push event)).removedBytes handle ++
      (path.step (.push event)).queuedBytes handle =
        path.removedBytes handle ++ path.queuedBytes handle ++ event.bytesFor handle :=
    pushed_bytes rfl rfl handle
  rw [kept, silent, List.append_nil]
  exact accounted.bytes

theorem Conserved.push {event : InternalEvent} (conserved : path.Conserved dropped)
    (other : event.isReadable = false) : (path.step (.push event)).Conserved dropped := by
  refine ⟨conserved.capped, ?_, ?_⟩
  · dsimp only [step]
    rw [eventsDropped_push conserved.capped, conserved.counted, List.countP_append, Nat.add_assoc]
  · intro handle conn live
    exact (conserved.conns handle conn live).push (bytesFor_of_not_readable other handle)

theorem Conserved.poll (conserved : path.Conserved dropped) (maxEvents : ℕ) :
    (path.step (.poll maxEvents)).Conserved dropped := by
  refine ⟨conserved.capped, ?_, ?_⟩
  · have none : (((path.events.q.take maxEvents).map fun event => (⟨event, false⟩ : Removal))).countP
        Removal.dropped = 0 := by
      rw [List.countP_map, List.countP_eq_zero]
      intro event _
      simp
    dsimp only [step, EventQueue.popMany]
    rw [List.countP_append, none]
    exact conserved.counted
  · intro handle conn live
    have accounted := conserved.conns handle conn live
    refine ⟨?_, accounted.rcvNxt, accounted.inside⟩
    have order : (path.step (.poll maxEvents)).removedBytes handle ++
        (path.step (.poll maxEvents)).queuedBytes handle =
          path.removedBytes handle ++ path.queuedBytes handle := by
      dsimp only [removedBytes, queuedBytes, step, EventQueue.popMany]
      rw [List.flatMap_append, List.flatMap_map, List.append_assoc, ← List.flatMap_append,
        List.take_append_drop]
    rw [order]
    exact accounted.bytes

/-- `deliver_readable` moves bytes from the in-order queue to a new event. -/
theorem Conserved.deliverReadable (conserved : path.Conserved dropped) (handle : ConnHandle)
    (totalDelivered rxHwTsNs emittedTsNs : ℕ) :
    (path.step (.deliverReadable handle totalDelivered rxHwTsNs emittedTsNs)).Conserved
      dropped := by
  dsimp only [step, DpdkTcp.deliverReadable]
  cases present : path.table.get handle with
  | none =>
      dsimp only
      rw [displaced_self, List.append_nil]
      exact conserved
  | some target =>
      have moved := splitDelivered_bytes totalDelivered target.recv.bytes
      dsimp only
      generalize splitDelivered totalDelivered target.recv.bytes = split at moved ⊢
      by_cases nothing : split.delivered = []
      · rw [nothing, List.isEmpty_nil, if_pos rfl, displaced_self, List.append_nil]
        refine ⟨conserved.capped, conserved.counted, ?_⟩
        intro other conn live
        dsimp only at live
        rw [FlowTable.get_set present] at live
        split at live
        · rename_i same
          cases live
          have accounted := conserved.conns handle target present
          have bytes := accounted.bytes
          rw [nothing, List.flatMap_nil, List.nil_append] at moved
          rw [RecvQueue.contents, ← moved] at bytes
          rw [same]
          exact ⟨bytes, accounted.rcvNxt, accounted.inside⟩
        · have accounted := conserved.conns other conn live
          exact ⟨accounted.bytes, accounted.rcvNxt, accounted.inside⟩
      · have filled : split.delivered.isEmpty = false := by
          simpa using nothing
        rw [filled, if_neg Bool.false_ne_true]
        refine ⟨conserved.capped, ?_, ?_⟩
        · dsimp only
          rw [eventsDropped_push conserved.capped, conserved.counted, List.countP_append,
            Nat.add_assoc]
        · intro other conn live
          dsimp only at live
          rw [FlowTable.get_set present] at live
          split at live
          · rename_i same
            cases live
            have accounted := conserved.conns handle target present
            have bytes := accounted.bytes
            rw [RecvQueue.contents, ← moved, ← List.append_assoc] at bytes
            rw [same]
            refine ⟨?_, accounted.rcvNxt, accounted.inside⟩
            rw [pushed_bytes rfl rfl handle, bytesFor_readableEvent, if_pos rfl]
            exact bytes
          · rename_i differs
            have silent : (readableEvent handle split.delivered rxHwTsNs emittedTsNs).bytesFor
                other = [] := by
              rw [bytesFor_readableEvent, if_neg (Ne.symm differs)]
            have accounted := (conserved.conns other conn live).push silent
            exact ⟨accounted.bytes, accounted.rcvNxt, accounted.inside⟩

/-- `rcv_nxt` after a dispatch, with the FIN as the ledger counts it. -/
theorem rcvNxt_tookFin {before moved : TcpConn} {dispatched : Dispatched} {fin : Bool}
    (grows : Grows before moved dispatched.outcome.delivered)
    (rcvNxt : dispatched.conn.rcvNxt = seqAdd moved.rcvNxt fin.toNat) :
    dispatched.conn.rcvNxt =
      seqAdd before.rcvNxt (dispatched.outcome.delivered + (tookFin before dispatched).toNat) := by
  rw [grows.rcvNxt, ← seqAdd_add] at rcvNxt
  rw [tookFin_eq rcvNxt]
  exact rcvNxt

/-- A dispatch adds to the ledger what it adds to the in-order queue. -/
theorem Accounted.takeSegment {handle : ConnHandle} {conn : TcpConn} {seg : ParsedSegment}
    {clock : Readings} {sendBuf : ℕ} {mbufCtx : Option MbufInsertCtx}
    (accounted : path.Accounted handle conn)
    (backed : ∀ ctx, mbufCtx = some ctx → ctx.Backs seg.payload) :
    (path.takeSegment handle conn (dispatch conn seg clock sendBuf mbufCtx)).Accounted handle
      (dispatch conn seg clock sendBuf mbufCtx).applied := by
  by_cases opening : conn.state = .synSent
  · have same : (dispatch conn seg clock sendBuf mbufCtx).conn.recv = conn.recv := by
      unfold dispatch
      rw [opening]
      exact handleSynSent_recv conn seg clock
    constructor
    · simp only [EventPath.takeSegment, Function.update_self, Dispatched.applied_recv, same,
        List.drop_length, List.append_nil]
      exact accounted.bytes
    · simp only [EventPath.takeSegment, Function.update_self, Dispatched.applied_rcvNxt, opening,
        if_true, Nat.add_zero, seqAdd]
      exact (BitVec.sub_add_cancel _ _).symm
    · rw [Dispatched.applied_recv, same]
      exact accounted.inside
  · rcases dispatch_grows accounted.inside backed opening clock sendBuf with
      ⟨moved, fin, grows, recv, rcvNxt⟩
    have next := rcvNxt_tookFin grows rcvNxt
    generalize dispatch conn seg clock sendBuf mbufCtx = dispatched at *
    rcases grows.contents with ⟨added, contents, length⟩
    have behind : dispatched.conn.recv.contents.drop conn.recv.contents.length = added := by
      rw [recv, contents, List.drop_left]
    constructor
    · simp only [EventPath.takeSegment, Function.update_self, Dispatched.applied_recv, behind]
      rw [recv, contents, ← accounted.bytes]
      simp only [List.append_assoc]
      rfl
    · simp only [EventPath.takeSegment, Function.update_self, Dispatched.applied_rcvNxt, opening,
        if_false, behind]
      rw [next, accounted.rcvNxt, ← seqAdd_add, List.length_append, length]
      congr 1
      omega
    · rw [Dispatched.applied_recv, recv]
      exact grows.inside

theorem Conserved.segment {handle : ConnHandle} {seg : ParsedSegment} {clock : Readings}
    {sendBuf : ℕ} {mbufCtx : Option MbufInsertCtx} (conserved : path.Conserved dropped)
    (backed : ∀ ctx, mbufCtx = some ctx → ctx.Backs seg.payload) :
    (path.step (.segment handle seg clock sendBuf mbufCtx)).Conserved dropped := by
  dsimp only [step]
  cases present : path.table.get handle with
  | none => exact conserved
  | some target =>
      refine ⟨conserved.capped, conserved.counted, ?_⟩
      intro other conn live
      dsimp only [EventPath.takeSegment] at live
      rw [FlowTable.get_set present] at live
      split at live
      · rename_i same
        cases live
        rw [same]
        exact (conserved.conns handle target present).takeSegment backed
      · rename_i differs
        have accounted := conserved.conns other conn live
        refine ⟨?_, ?_, accounted.inside⟩
        · dsimp only [EventPath.takeSegment]
          rw [Function.update_of_ne differs]
          exact accounted.bytes
        · have rcvNxt := accounted.rcvNxt
          dsimp only [EventPath.takeSegment]
          rw [Function.update_of_ne differs, Function.update_of_ne differs]
          split
          · rw [Function.update_of_ne differs]
            exact rcvNxt
          · exact rcvNxt

theorem Conserved.init {table : FlowTable} {events : EventQueue} (capped : 0 < events.softCap)
    (inside : ∀ handle conn, table.get handle = some conn → conn.recv.reorder.Inside) :
    (EventPath.init table events).Conserved events.eventsDropped := by
  refine ⟨capped, rfl, ?_⟩
  intro handle conn live
  replace live : table.get handle = some conn := live
  refine ⟨?_, ?_, inside handle conn live⟩
  · dsimp only [EventPath.init]
    rw [live]
    rfl
  · dsimp only [EventPath.init]
    rw [live]
    exact (BitVec.sub_add_cancel _ _).symm

/-- Nothing was dropped: what left the queue was popped. -/
theorem poppedBytes_eq_removedBytes (none : path.removed.countP Removal.dropped = 0)
    (handle : ConnHandle) : path.poppedBytes handle = path.removedBytes handle := by
  rw [List.countP_eq_zero] at none
  unfold poppedBytes removedBytes
  rw [List.flatMap_def, List.flatMap_def]
  congr 1
  refine List.map_congr_left fun removal member => ?_
  rw [if_neg (none removal member)]

end EventPath

open EventPath in
/-- In every run of dispatches, deliveries, other pushes and polls, the bytes a
connection accepted are, in order, those in events that left the queue, those
in queued events and those in `recv.bytes`; they number the bytes by which
`rcv_nxt` advanced. Events leave the queue by a poll, or dropped one by one
from a full queue and counted in `events_dropped`; while that counter stands
still, every byte that left was handed to the application. -/
theorem accepted_bytes_conserved {table : FlowTable} {events : EventQueue} {path : EventPath}
    (capped : EventQueue.MIN_SOFT_CAP ≤ events.softCap)
    (inside : ∀ handle conn, table.get handle = some conn → conn.recv.reorder.Inside)
    (run : Run.Reaches EventPath.step EventPath.Admissible (EventPath.init table events) path)
    {handle : ConnHandle} {conn : TcpConn} (live : path.table.get handle = some conn) :
    path.removedBytes handle ++ path.queuedBytes handle ++ conn.recv.contents =
        path.accepted handle ∧
      conn.rcvNxt =
        seqAdd (path.firstSeq handle) ((path.accepted handle).length + path.fins handle) ∧
      path.events.eventsDropped =
        events.eventsDropped + path.removed.countP Removal.dropped ∧
      (path.events.eventsDropped = events.eventsDropped →
        path.poppedBytes handle ++ path.queuedBytes handle ++ conn.recv.contents =
          path.accepted handle) := by
  have positive : 0 < events.softCap := by
    unfold EventQueue.MIN_SOFT_CAP at capped
    omega
  have conserved : path.Conserved events.eventsDropped := by
    refine run.invariant (Conserved.init positive inside) ?_
    intro state op conserved admissible
    cases op with
    | segment handle seg clock sendBuf mbufCtx => exact conserved.segment admissible
    | deliverReadable handle totalDelivered rxHwTsNs emittedTsNs =>
        exact conserved.deliverReadable handle totalDelivered rxHwTsNs emittedTsNs
    | push event => exact conserved.push admissible
    | poll maxEvents => exact conserved.poll maxEvents
  have accounted := conserved.conns handle conn live
  refine ⟨accounted.bytes, accounted.rcvNxt, conserved.counted, ?_⟩
  intro still
  have counted := conserved.counted
  rw [poppedBytes_eq_removedBytes (by omega)]
  exact accounted.bytes

/-! ### A full queue -/

/-- One opened connection and an empty event queue of the least soft cap. -/
def onePath : EventPath :=
  EventPath.init
    ⟨[some (opened 100#32 200#32 1000 1000 5000)], fun _ => none⟩
    (EventQueue.withCap EventQueue.MIN_SOFT_CAP)

theorem onePath_inside (handle : ConnHandle) (conn : TcpConn)
    (live : onePath.table.get handle = some conn) : conn.recv.reorder.Inside := by
  rcases FlowTable.get_eq_some_iff.mp live with ⟨_, found⟩
  have member := List.mem_of_getElem? found
  have same : conn = opened 100#32 200#32 1000 1000 5000 := by
    simpa [onePath, EventPath.init] using member
  rw [same]
  intro seg stored
  exact absurd stored List.not_mem_nil

theorem twoBytes_fit : ([97, 98] : List UInt8).length < 65536 := by
  decide

/-- The bytes `a` and `b` arrive. -/
def twoArrive : EventPathOp :=
  .segment 1 (peerSegment 201#32 101#32 TCP_ACK 5000 [97, 98]) (Readings.at 5) 1000
    (some ⟨⟨1, [97, 98], twoBytes_fit⟩, 0, []⟩)

/-- They are put into an event. -/
def readablePath : EventPath :=
  (onePath.step twoArrive).step (.deliverReadable 1 2 0 0)

theorem readablePath_reached :
    Run.Reaches EventPath.step EventPath.Admissible onePath readablePath := by
  have arrived : Run.Reaches EventPath.step EventPath.Admissible onePath
      (onePath.step twoArrive) := by
    refine .tail twoArrive .refl ?_
    rintro ctx ⟨⟩
    rfl
  have allowed : EventPath.Admissible (onePath.step twoArrive) (.deliverReadable 1 2 0 0) :=
    trivial
  exact .tail (.deliverReadable 1 2 0 0) arrived allowed

/-- Pushes of `count` events of another kind. -/
def crowded : ℕ → EventPath → EventPath
  | 0, path => path
  | count + 1, path => (crowded count path).step (.push (.writable 1 0))

theorem crowded_reached (count : ℕ) :
    Run.Reaches EventPath.step EventPath.Admissible onePath (crowded count readablePath) := by
  induction count with
  | zero => exact readablePath_reached
  | succ count ih =>
      have allowed : EventPath.Admissible (crowded count readablePath) (.push (.writable 1 0)) :=
        rfl
      exact .tail (.push (.writable 1 0)) ih allowed

/-- The connection once its two bytes are in the event. -/
def readConn : TcpConn :=
  (readablePath.table.get 1).getD (opened 100#32 200#32 1000 1000 5000)

theorem crowded_table (count : ℕ) :
    (crowded count readablePath).table = readablePath.table := by
  induction count with
  | zero => rfl
  | succ count ih => exact ih

theorem readConn_live (count : ℕ) : (crowded count readablePath).table.get 1 = some readConn := by
  rw [crowded_table]
  rfl

/-- The event is popped or queued as long as nothing was dropped. -/
theorem accepted_bytes_conserved_readable :
    (crowded 3 readablePath).removedBytes 1 ++ (crowded 3 readablePath).queuedBytes 1 ++
          readConn.recv.contents = (crowded 3 readablePath).accepted 1 ∧
      readConn.rcvNxt =
        seqAdd ((crowded 3 readablePath).firstSeq 1)
          (((crowded 3 readablePath).accepted 1).length + (crowded 3 readablePath).fins 1) ∧
      (crowded 3 readablePath).events.eventsDropped =
        0 + (crowded 3 readablePath).removed.countP Removal.dropped ∧
      ((crowded 3 readablePath).events.eventsDropped = 0 →
        (crowded 3 readablePath).poppedBytes 1 ++ (crowded 3 readablePath).queuedBytes 1 ++
          readConn.recv.contents = (crowded 3 readablePath).accepted 1) :=
  accepted_bytes_conserved (by decide) onePath_inside (crowded_reached 3) (readConn_live 3)

/-- Sixty-four further events drop the one with the bytes, which were acknowledged. -/
theorem acknowledged_bytes_dropped :
    ¬ ∀ (table : FlowTable) (events : EventQueue) (path : EventPath) (handle : ConnHandle)
        (conn : TcpConn), EventQueue.MIN_SOFT_CAP ≤ events.softCap →
        (∀ handle conn, table.get handle = some conn → conn.recv.reorder.Inside) →
        Run.Reaches EventPath.step EventPath.Admissible (EventPath.init table events) path →
        path.table.get handle = some conn →
        path.poppedBytes handle ++ path.queuedBytes handle ++ conn.recv.contents =
          path.accepted handle := by
  intro handedOver
  have all := handedOver _ _ (crowded 64 readablePath) 1 readConn (by decide) onePath_inside
    (crowded_reached 64) (readConn_live 64)
  exact absurd all (by decide +kernel)

end DpdkTcp
