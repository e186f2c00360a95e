import Mathlib.Algebra.BigOperators.Group.Multiset.Basic
import Mathlib.Tactic.Abel
import DpdkTcp.Lib.Cells
import DpdkTcp.Model.Poll
import DpdkTcp.Window.Edits

/-!
# Windows into received buffers

Every segment in a receive queue or an event is a window into a buffer and holds
one reference to it. The edits of the engine only drop windows, each with its
reference.
-/

namespace DpdkTcp

open RefCount

/-- A window into a received buffer: the address of the buffer and the length. -/
abbrev RxWindow :=
  ℕ × ℕ

/-- What a segment holds of its buffer. -/
def InOrderSegment.window (seg : InOrderSegment) : RxWindow :=
  (seg.mbuf.addr, seg.len)

/-- What a piece behind a gap holds of its buffer. -/
def OooSegment.window (seg : OooSegment) : RxWindow :=
  (seg.mbuf.addr, seg.len)

/-- What a receive queue holds of the buffers. -/
def RecvQueue.windows (recv : RecvQueue) : List RxWindow :=
  recv.bytes.map InOrderSegment.window ++ recv.reorder.segments.map OooSegment.window

/-- What a connection holds of the buffers, what the application still reads included. -/
def TcpConn.windows (conn : TcpConn) : List RxWindow :=
  conn.recv.windows ++ conn.deliveredSegments.map InOrderSegment.window

/-- The windows of a slot of the table. -/
def slotWindows (slot : Option TcpConn) : List RxWindow :=
  slot.toList.flatMap TcpConn.windows

/-- What the connections hold of the buffers. -/
def FlowTable.windows (table : FlowTable) : List RxWindow :=
  table.slots.flatMap slotWindows

/-- What an event holds of the buffers. -/
def InternalEvent.windows : InternalEvent → List RxWindow
  | .readable _ _ ownedMbufs .. => ownedMbufs.map InOrderSegment.window
  | _ => []

/-- The windows of the connections and of the queued events. -/
def Engine.windows (engine : Engine) : Multiset RxWindow :=
  (engine.flowTable.windows : Multiset RxWindow) +
    (engine.events.q.flatMap InternalEvent.windows : Multiset RxWindow)

/-! ### Addresses -/

theorem InternalEvent.windows_fst (event : InternalEvent) :
    event.windows.map Prod.fst = event.pinned := by
  cases event <;> simp [windows, pinned, InOrderSegment.window, Function.comp_def]

theorem TcpConn.windows_fst (conn : TcpConn) : conn.windows.map Prod.fst = conn.pinned := by
  simp [windows, pinned, RecvQueue.windows, RecvQueue.pinned, InOrderSegment.window,
    OooSegment.window, Function.comp_def]

theorem events_windows_fst (events : List InternalEvent) :
    (events.flatMap InternalEvent.windows).map Prod.fst = events.flatMap InternalEvent.pinned := by
  rw [List.map_flatMap]
  exact congrArg events.flatMap (funext InternalEvent.windows_fst)

theorem slotWindows_fst (slot : Option TcpConn) :
    (slotWindows slot).map Prod.fst = slot.toList.flatMap TcpConn.pinned := by
  rw [slotWindows, List.map_flatMap]
  exact congrArg slot.toList.flatMap (funext TcpConn.windows_fst)

theorem FlowTable.windows_fst (table : FlowTable) :
    table.windows.map Prod.fst = table.pinned := by
  rw [windows, List.map_flatMap]
  exact congrArg table.slots.flatMap (funext slotWindows_fst)

theorem InternalEvent.windows_silent {event : InternalEvent} (silent : event.isReadable = false) :
    event.windows = [] := by
  cases event <;> first | rfl | cases silent

/-! ### The flow table and the event queue -/

/-- The windows beside those of one connection, behind every change of it. -/
theorem FlowTable.windows_split {table : FlowTable} {handle : ConnHandle} {conn : TcpConn}
    (present : table.get handle = some conn) :
    ∃ others : Multiset RxWindow,
      (table.windows : Multiset RxWindow) = others + (conn.windows : Multiset RxWindow) ∧
      (∀ written, ((table.set handle written).windows : Multiset RxWindow) =
        others + (written.windows : Multiset RxWindow)) ∧
      ((table.remove handle).windows : Multiset RxWindow) = others := by
  rcases Cells.flatMap_split slotWindows (FlowTable.get_eq_some_iff.mp present).2 with
    ⟨others, whole, replaced⟩
  have held : ∀ conn, slotWindows (some conn) = conn.windows := by simp [slotWindows]
  refine ⟨others, ?_, fun written => ?_, ?_⟩
  · rw [windows, whole, held]
  · rw [windows, set, present, ← held]
    exact replaced (some written)
  · rw [windows, remove, present]
    exact (replaced none).trans (add_zero others)

/-- The oldest events, if they are discarded, and the others. -/
theorem EventQueue.push_q (queue : EventQueue) (event : InternalEvent) :
    ∃ kept, queue.q = queue.overflow ++ kept ∧ (queue.push event).q = kept ++ [event] := by
  dsimp only [overflow, push]
  split
  · exact ⟨queue.q.drop 1, (List.take_append_drop 1 queue.q).symm, rfl⟩
  · exact ⟨queue.q, rfl, rfl⟩

/-! ### Released windows -/

/-- Windows are dropped, each with its reference; the others stay. -/
structure Released (before after : Engine) (freed : List RxWindow) : Prop where
  windows : after.windows + (freed : Multiset RxWindow) = before.windows
  rxRefs : after.rxRefs = before.rxRefs.freeAll (freed.map Prod.fst)

namespace Released

variable {first second third : Engine}

/-- What changes no window and no reference. -/
theorem of_same (windows : second.windows = first.windows)
    (rxRefs : second.rxRefs = first.rxRefs) : Released first second [] :=
  ⟨by rw [windows, Multiset.coe_nil, add_zero], rxRefs⟩

theorem trans {left right : List RxWindow} (one : Released first second left)
    (two : Released second third right) : Released first third (left ++ right) := by
  constructor
  · rw [← one.windows, ← two.windows, ← Multiset.coe_add]
    abel
  · rw [two.rxRefs, one.rxRefs, List.map_append, Refs.freeAll_append]

end Released

namespace Engine

theorem pushEvent_released (engine : Engine) {event : InternalEvent}
    (silent : event.isReadable = false) :
    Released engine (engine.pushEvent event)
      (engine.events.overflow.flatMap InternalEvent.windows) := by
  rcases engine.events.push_q event with ⟨kept, queued, pushed⟩
  constructor
  · dsimp only [windows, pushEvent]
    rw [queued, pushed, List.flatMap_append, List.flatMap_append, List.flatMap_singleton,
      InternalEvent.windows_silent silent, List.append_nil, ← Multiset.coe_add]
    abel
  · rw [events_windows_fst]
    rfl

/-- A change beside the receive side keeps the windows. -/
theorem modifyConn_windows (engine : Engine) (handle : ConnHandle) {change : TcpConn → TcpConn}
    (keeps : ∀ conn, SameReceiver conn (change conn)) :
    (engine.modifyConn handle change).windows = engine.windows := by
  dsimp only [windows, modifyConn, FlowTable.modify]
  cases present : engine.flowTable.get handle with
  | none => rfl
  | some conn =>
      rcases FlowTable.windows_split present with ⟨others, whole, replaced, _⟩
      have same : (change conn).windows = conn.windows := by
        rw [TcpConn.windows, (keeps conn).recv, (keeps conn).deliveredSegments]
        rfl
      dsimp only
      rw [replaced, whole, same]

theorem dropConn_released (engine : Engine) (handle : ConnHandle) :
    Released engine (engine.dropConn handle)
      ((engine.flowTable.get handle).toList.flatMap TcpConn.windows) := by
  cases present : engine.flowTable.get handle with
  | none =>
      apply Released.of_same
      · dsimp only [windows, dropConn, FlowTable.remove]
        rw [present]
      · dsimp only [dropConn]
        rw [present]
        rfl
  | some conn =>
      rcases FlowTable.windows_split present with ⟨others, whole, _, removed⟩
      constructor
      · dsimp only [windows, dropConn]
        rw [removed, whole, Option.toList_some, List.flatMap_singleton]
        abel
      · dsimp only [dropConn]
        rw [present, Option.toList_some, List.flatMap_singleton, List.flatMap_singleton,
          TcpConn.windows_fst]

/-- The edits of the engine only release windows. -/
theorem Edits.released {before after : Engine} (edits : Edits before after) :
    ∃ freed, Released before after freed := by
  induction edits with
  | same _ flowTable events rxRefs =>
      exact ⟨_, .of_same (by rw [windows, flowTable, events]; rfl) rxRefs⟩
  | push event silent => exact ⟨_, pushEvent_released _ silent⟩
  | modify handle change keeps => exact ⟨_, .of_same (modifyConn_windows _ handle keeps) rfl⟩
  | remove handle => exact ⟨_, dropConn_released _ handle⟩
  | trans _ _ left right =>
      rcases left with ⟨_, left⟩
      rcases right with ⟨_, right⟩
      exact ⟨_, left.trans right⟩

end Engine

end DpdkTcp
