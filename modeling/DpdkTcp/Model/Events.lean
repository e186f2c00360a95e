import DpdkTcp.Model.Conn

/-!
# Flow table and events

The handle-indexed connection slots of `flow_table.rs`, the bounded event
queue of `tcp_events.rs`, and the delivery of in-order bytes as a `Readable`
event.
-/

namespace DpdkTcp

/-- A handle is a slot index plus one; zero is invalid. -/
abbrev ConnHandle := ℕ

/-- The connections by slot, and the slot of each tuple. -/
structure FlowTable where
  slots : List (Option TcpConn)
  byTuple : FourTuple → Option ℕ

namespace TcpConn

/-- The buffers a connection keeps a reference to; dropping the connection drops these. -/
def pinned (conn : TcpConn) : List ℕ :=
  conn.recv.pinned ++ conn.deliveredSegments.map fun seg => seg.mbuf.addr

end TcpConn

namespace FlowTable

/-- A table of empty slots. -/
def new (maxConnections : ℕ) : FlowTable :=
  { slots := List.replicate maxConnections none, byTuple := fun _ => none }

/-- The connection of a handle; zero is no handle. -/
def get (table : FlowTable) (handle : ConnHandle) : Option TcpConn :=
  if handle = 0 then none else table.slots.getD (handle - 1) none

/-- Write through `get_mut`: the connection of a live handle is replaced. -/
def set (table : FlowTable) (handle : ConnHandle) (conn : TcpConn) : FlowTable :=
  match table.get handle with
  | some _ => { table with slots := table.slots.set (handle - 1) (some conn) }
  | none => table

/-- `get_mut` followed by a change of the connection. -/
def modify (table : FlowTable) (handle : ConnHandle) (change : TcpConn → TcpConn) : FlowTable :=
  match table.get handle with
  | some conn => table.set handle (change conn)
  | none => table

/-- `insert`: the first empty slot, unless the tuple is taken or the table is full. -/
def insert (table : FlowTable) (conn : TcpConn) : FlowTable × Option ConnHandle :=
  match table.byTuple conn.fourTuple with
  | some _ => (table, none)
  | none =>
      match table.slots.findIdx? Option.isNone with
      | none => (table, none)
      | some slot =>
          ({ slots := table.slots.set slot (some conn)
             byTuple := fun tuple =>
               if tuple = conn.fourTuple then some slot else table.byTuple tuple },
            some (slot + 1))

/-- The handle of the connection with a tuple. -/
def lookupByTuple (table : FlowTable) (tuple : FourTuple) : Option ConnHandle :=
  (table.byTuple tuple).map (· + 1)

/-- `remove`: the slot and the tuple of the connection are free again. -/
def remove (table : FlowTable) (handle : ConnHandle) : FlowTable :=
  match table.get handle with
  | some conn =>
      { slots := table.slots.set (handle - 1) none
        byTuple := fun tuple =>
          if tuple = conn.fourTuple then none else table.byTuple tuple }
  | none => table

/-- `remove` with the connection it returns: the slot is taken, then the tuple goes. -/
def removeConn (table : FlowTable) (handle : ConnHandle) : FlowTable × Option TcpConn :=
  if handle = 0 then (table, none)
  else
    match table.slots[handle - 1]? with
    | none => (table, none)
    | some none => (table, none)
    | some (some conn) =>
        ({ slots := table.slots.set (handle - 1) none
           byTuple := fun tuple =>
             if tuple = conn.fourTuple then none else table.byTuple tuple },
          some conn)

/-- `active_conns`: the number of occupied slots. -/
def activeConns (table : FlowTable) : ℕ :=
  table.slots.countP Option.isSome

/-- `get_stats`. -/
def getStats (table : FlowTable) (handle : ConnHandle) (sendBufferBytes : ℕ) :
    Option ConnStats :=
  (table.get handle).map fun conn => conn.stats sendBufferBytes

/-- The buffers the connections of the table keep a reference to. -/
def pinned (table : FlowTable) : List ℕ :=
  table.slots.flatMap fun slot : Option TcpConn => slot.toList.flatMap TcpConn.pinned

/-- `clear_all`: drop every connection slot. -/
def clearAll (table : FlowTable) : FlowTable :=
  { slots := table.slots.map fun _ => none, byTuple := fun _ => none }

section Get

variable {table : FlowTable} {handle : ConnHandle} {conn : TcpConn}

theorem get_eq_some_iff :
    table.get handle = some conn ↔ handle ≠ 0 ∧ table.slots[handle - 1]? = some (some conn) := by
  unfold get
  by_cases zero : handle = 0
  · simp [zero]
  · rw [if_neg zero, List.getD_eq_getElem?_getD]
    cases table.slots[handle - 1]? <;> simp [zero]

theorem get_setSlot (present : table.get handle = some conn) (slot : Option TcpConn)
    (byTuple : FourTuple → Option ℕ) (other : ConnHandle) :
    FlowTable.get ⟨table.slots.set (handle - 1) slot, byTuple⟩ other =
      if other = handle then slot else table.get other := by
  rcases get_eq_some_iff.mp present with ⟨positive, found⟩
  have inside : handle - 1 < table.slots.length := by
    rcases List.getElem?_eq_some_iff.mp found with ⟨inside, _⟩
    exact inside
  unfold get
  by_cases zero : other = 0
  · have differs : other ≠ handle := fun same => positive (same.symm.trans zero)
    rw [if_pos zero, if_neg differs, if_pos zero]
  · rw [if_neg zero, if_neg zero, List.getD_eq_getElem?_getD, List.getD_eq_getElem?_getD,
      List.getElem?_set]
    by_cases same : other = handle
    · rw [if_pos same, same, if_pos rfl, if_pos inside]
      rfl
    · have apart : handle - 1 ≠ other - 1 := by
        intro equal
        exact same (Nat.pred_inj (Nat.pos_of_ne_zero zero) (Nat.pos_of_ne_zero positive)
          equal.symm)
      rw [if_neg same, if_neg apart]

theorem get_set (present : table.get handle = some conn) (written : TcpConn)
    (other : ConnHandle) :
    (table.set handle written).get other =
      if other = handle then some written else table.get other := by
  unfold set
  rw [present]
  exact get_setSlot present _ _ other

theorem get_modify (change : TcpConn → TcpConn) (other : ConnHandle) :
    (table.modify handle change).get other =
      if other = handle then (table.get handle).map change else table.get other := by
  unfold modify
  cases present : table.get handle with
  | none =>
      dsimp only
      split
      · rename_i same
        rw [same, present]
        rfl
      · rfl
  | some conn => exact get_set present (change conn) other

end Get

end FlowTable

/-- Who took a segment for lost. -/
inductive LossCause where
  | rack
  | tlp
  | rto
deriving DecidableEq, Repr

/-- `DpdkNetIovec`: a base pointer into a received buffer and a length. -/
structure Iovec where
  mbuf : RxMbuf
  offset : ℕ
  len : ℕ
deriving DecidableEq, Repr

/-- What the application is told. -/
inductive InternalEvent where
  | connected (conn : ConnHandle) (rxHwTsNs emittedTsNs : ℕ)
  | readable (conn : ConnHandle) (segs : List Iovec) (ownedMbufs : List InOrderSegment)
      (totalLen rxHwTsNs emittedTsNs : ℕ)
  | closed (conn : ConnHandle) (err : Int) (emittedTsNs : ℕ)
  | stateChange (conn : ConnHandle) (before after : TcpState) (emittedTsNs : ℕ)
  | error (conn : ConnHandle) (err : Int) (emittedTsNs : ℕ)
  | tcpRetrans (conn : ConnHandle) (seq : Seq) (rtxCount emittedTsNs : ℕ)
  | tcpLossDetected (conn : ConnHandle) (cause : LossCause) (emittedTsNs : ℕ)
  | apiTimer (timerId : TimerId) (userData emittedTsNs : ℕ)
  | writable (conn : ConnHandle) (emittedTsNs : ℕ)
deriving DecidableEq, Repr

/-- The event hands over data. -/
def InternalEvent.isReadable : InternalEvent → Bool
  | .readable .. => true
  | _ => false

/-- The buffers an event keeps a reference to; dropping the event drops these. -/
def InternalEvent.pinned : InternalEvent → List ℕ
  | .readable _ _ ownedMbufs .. => ownedMbufs.map fun seg => seg.mbuf.addr
  | _ => []

/-- `EventQueue`, with the two counters its `push` maintains. `pushed` is a
record of the calls of `push` and is read by no function. -/
structure EventQueue where
  q : List InternalEvent
  softCap : ℕ
  eventsDropped : ℕ
  eventsQueueHighWater : ℕ
  pushed : List InternalEvent
deriving DecidableEq, Repr

namespace EventQueue

/-- The least bound of an event queue. -/
def MIN_SOFT_CAP : ℕ := 64

/-- A queue without events. -/
def withCap (cap : ℕ) : EventQueue :=
  { q := [], softCap := cap, eventsDropped := 0, eventsQueueHighWater := 0, pushed := [] }

/-- The entry `push` discards: the oldest one, when the queue is at its cap. -/
def overflow (queue : EventQueue) : List InternalEvent :=
  if queue.softCap ≤ queue.q.length then queue.q.take 1 else []

/-- `push`: at the bound the oldest event makes room, and is counted. -/
def push (queue : EventQueue) (event : InternalEvent) : EventQueue :=
  let kept := if queue.softCap ≤ queue.q.length then queue.q.drop 1 else queue.q
  { queue with
    q := kept ++ [event]
    eventsDropped :=
      if queue.softCap ≤ queue.q.length then queue.eventsDropped + 1 else queue.eventsDropped
    eventsQueueHighWater := max queue.eventsQueueHighWater (kept.length + 1)
    pushed := queue.pushed ++ [event] }

/-- Pop up to `max` events. -/
def popMany (queue : EventQueue) (max : ℕ) : List InternalEvent × EventQueue :=
  (queue.q.take max, { queue with q := queue.q.drop max })

end EventQueue

/-- What `deliver_readable` takes from the in-order queue and what it leaves. -/
structure Split where
  delivered : List InOrderSegment
  rest : List InOrderSegment

/-- The pop loop of `deliver_readable`. A partial pop splits the front window;
`remaining` is then below its 16-bit length, so `remaining as u16` is exact. -/
def splitDelivered : (remaining : ℕ) → List InOrderSegment → Split
  | _, [] => ⟨[], []⟩
  | remaining, seg :: rest =>
      if remaining = 0 then ⟨[], seg :: rest⟩
      else if seg.len ≤ remaining then
        let split := splitDelivered (remaining - seg.len) rest
        { split with delivered := seg :: split.delivered }
      else
        { delivered := [⟨seg.mbuf, seg.offset, remaining⟩]
          rest := ⟨seg.mbuf, min (seg.offset + remaining) 65535, seg.len - remaining⟩ :: rest }

/-- The buffers whose handle `deliver_readable` clones: that of a split window. -/
def splitCloned : (remaining : ℕ) → List InOrderSegment → List ℕ
  | _, [] => []
  | remaining, seg :: rest =>
      if remaining = 0 then []
      else if seg.len ≤ remaining then splitCloned (remaining - seg.len) rest
      else [seg.mbuf.addr]

/-- The event that shows the delivered windows to the application. -/
def readableEvent (handle : ConnHandle) (delivered : List InOrderSegment)
    (rxHwTsNs emittedTsNs : ℕ) : InternalEvent :=
  .readable handle (delivered.map fun seg => ⟨seg.mbuf, seg.offset, seg.len⟩) delivered
    (delivered.map InOrderSegment.len).sum rxHwTsNs emittedTsNs

/-- `deliver_readable`, on the connection of `handle` and the event queue. -/
def deliverReadable (table : FlowTable) (events : EventQueue) (handle : ConnHandle)
    (totalDelivered rxHwTsNs emittedTsNs : ℕ) : FlowTable × EventQueue :=
  match table.get handle with
  | none => (table, events)
  | some conn =>
      let split := splitDelivered totalDelivered conn.recv.bytes
      let popped :=
        { conn with
          recv := { conn.recv with bytes := split.rest }
          deliveredSegments := [] }
      (table.set handle popped,
        if split.delivered.isEmpty then events
        else events.push (readableEvent handle split.delivered rxHwTsNs emittedTsNs))

end DpdkTcp
