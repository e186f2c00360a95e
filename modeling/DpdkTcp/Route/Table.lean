import DpdkTcp.Lib.Run
import DpdkTcp.Route.Tuples

/-!
# The flow table as a bijection

The table keeps the connections in numbered slots and the slot of a tuple in a
map of its own. Whatever the order of inserts, removes and clears, and whatever
is written through `get_mut` to a connection that keeps its tuple, the two are
inverse to each other, and no operation changes the number of slots.
-/

namespace DpdkTcp

/-- The operations of the flow table. Writes through `get_mut` keep the tuple. -/
inductive TableOp where
  | insert (conn : TcpConn)
  | remove (handle : ConnHandle)
  | clearAll
  | getMut (handle : ConnHandle) (change : TcpConn → TcpConn)
      (keeps : ∀ conn, (change conn).fourTuple = conn.fourTuple)

/-- One call on a table. -/
def FlowTable.run (table : FlowTable) : TableOp → FlowTable
  | .insert conn => (table.insert conn).1
  | .remove handle => (table.removeConn handle).1
  | .clearAll => table.clearAll
  | .getMut handle change _ => table.modify handle change

namespace FlowTable

variable {table : FlowTable}

/-! ### What the operations do -/

theorem removeConn_eq (table : FlowTable) (handle : ConnHandle) :
    table.removeConn handle = (table.remove handle, table.get handle) := by
  unfold removeConn remove get
  by_cases zero : handle = 0
  · simp [zero]
  · simp only [if_neg zero, List.getD_eq_getElem?_getD]
    rcases table.slots[handle - 1]? with _ | _ | conn <;> rfl

/-- An insert that fails leaves the table as it is. -/
theorem insert_none {conn : TcpConn} (failed : (table.insert conn).2 = none) :
    (table.insert conn).1 = table := by
  unfold insert at failed ⊢
  split
  · rfl
  · split
    · rfl
    · simp_all

/-- A remove that finds nothing leaves the table as it is. -/
theorem removeConn_none {handle : ConnHandle} (failed : (table.removeConn handle).2 = none) :
    (table.removeConn handle).1 = table := by
  rw [removeConn_eq] at failed ⊢
  unfold remove
  rw [show table.get handle = none from failed]

theorem length_slots_insert (table : FlowTable) (conn : TcpConn) :
    (table.insert conn).1.slots.length = table.slots.length := by
  unfold insert
  split
  · rfl
  · split
    · rfl
    · exact List.length_set

theorem length_slots_remove (table : FlowTable) (handle : ConnHandle) :
    (table.remove handle).slots.length = table.slots.length := by
  unfold remove
  split
  · exact List.length_set
  · rfl

theorem length_slots_modify (table : FlowTable) (handle : ConnHandle)
    (change : TcpConn → TcpConn) :
    (table.modify handle change).slots.length = table.slots.length := by
  unfold modify set
  split
  · split
    · exact List.length_set
    · rfl
  · rfl

theorem length_slots_run (table : FlowTable) (op : TableOp) :
    (table.run op).slots.length = table.slots.length := by
  cases op with
  | insert conn => exact length_slots_insert table conn
  | remove handle =>
      change (table.removeConn handle).1.slots.length = _
      rw [removeConn_eq]
      exact length_slots_remove table handle
  | clearAll => exact List.length_map _
  | getMut handle change keeps => exact length_slots_modify table handle change

/-! ### The index and the slots -/

theorem Indexed.clearAll (table : FlowTable) : table.clearAll.Indexed := by
  refine .of_empty (fun _ => rfl) ?_
  intro handle
  cases found : table.clearAll.get handle with
  | none => rfl
  | some conn =>
      rcases get_eq_some_iff.mp found with ⟨_, held⟩
      unfold FlowTable.clearAll at held
      rw [List.getElem?_map] at held
      cases slot : table.slots[handle - 1]? <;> rw [slot] at held <;> cases held

theorem Indexed.new (maxConnections : ℕ) : (FlowTable.new maxConnections).Indexed := by
  refine .of_empty (fun _ => rfl) ?_
  intro handle
  cases found : (FlowTable.new maxConnections).get handle with
  | none => rfl
  | some conn =>
      rcases get_eq_some_iff.mp found with ⟨_, held⟩
      have inside := List.mem_of_getElem? held
      cases List.eq_of_mem_replicate inside

theorem Indexed.run (indexed : table.Indexed) (op : TableOp) : (table.run op).Indexed := by
  cases op with
  | insert conn =>
      cases inserted : (table.insert conn).2 with
      | none =>
          change (table.insert conn).1.Indexed
          rw [insert_none inserted]
          exact indexed
      | some handle => exact indexed.insert (Prod.ext rfl inserted)
  | remove handle =>
      change (table.removeConn handle).1.Indexed
      rw [removeConn_eq]
      exact indexed.remove handle
  | clearAll => exact Indexed.clearAll table
  | getMut handle change keeps => exact indexed.modify keeps handle

/-- The index agrees with the slots themselves, numbered from zero. -/
theorem Indexed.byTuple_iff (indexed : table.Indexed) (tuple : FourTuple) (slot : ℕ) :
    table.byTuple tuple = some slot ↔
      ∃ conn, table.slots[slot]? = some (some conn) ∧ conn.fourTuple = tuple := by
  have handles := indexed tuple (slot + 1)
  have shift : table.lookupByTuple tuple = some (slot + 1) ↔ table.byTuple tuple = some slot := by
    unfold lookupByTuple
    rw [Option.map_eq_some_iff]
    constructor
    · rintro ⟨found, held, same⟩
      rw [held, Nat.succ.inj same]
    · intro held
      exact ⟨slot, held, rfl⟩
  rw [← shift, handles]
  apply exists_congr
  intro conn
  rw [get_eq_some_iff, Nat.add_sub_cancel]
  exact and_congr_left fun _ => ⟨fun held => held.2, fun held => ⟨Nat.succ_ne_zero slot, held⟩⟩

/-- What every table reached by the operations satisfies. -/
structure Matched (table : FlowTable) (maxConnections : ℕ) : Prop where
  indexed : table.Indexed
  length : table.slots.length = maxConnections

theorem Matched.reached (maxConnections : ℕ) (ops : List TableOp) :
    (ops.foldl FlowTable.run (FlowTable.new maxConnections)).Matched maxConnections := by
  have initial : (FlowTable.new maxConnections).Matched maxConnections :=
    ⟨Indexed.new maxConnections, List.length_replicate⟩
  have kept : ∀ (table : FlowTable) op, table.Matched maxConnections → True →
      (table.run op).Matched maxConnections := by
    intro table op matched _
    exact ⟨matched.indexed.run op, (length_slots_run table op).trans matched.length⟩
  exact (@Run.Reaches.foldl _ _ FlowTable.run ops (FlowTable.new maxConnections)).invariant
    initial kept

/-- After any operations on a new table the index and the slots are inverse to each other: a
lookup finds just the live connection of a tuple, live connections differ in their tuples, there
are at most `max_connections` of them, and operations that fail change nothing. -/
theorem index_inverse (maxConnections : ℕ) (ops : List TableOp) :
    let table := ops.foldl FlowTable.run (FlowTable.new maxConnections)
    (∀ tuple slot, table.byTuple tuple = some slot ↔
      ∃ conn, table.slots[slot]? = some (some conn) ∧ conn.fourTuple = tuple) ∧
    (∀ tuple handle, table.lookupByTuple tuple = some handle ↔
      ∃ conn, table.get handle = some conn ∧ conn.fourTuple = tuple) ∧
    (∀ handle other conn conn', table.get handle = some conn → table.get other = some conn' →
      conn.fourTuple = conn'.fourTuple → handle = other ∧ conn = conn') ∧
    table.activeConns ≤ maxConnections ∧
    (∀ conn, (table.insert conn).2 = none → (table.insert conn).1 = table) ∧
    (∀ handle, (table.removeConn handle).2 = none → (table.removeConn handle).1 = table) := by
  intro table
  have reached : table.Matched maxConnections := .reached maxConnections ops
  have alone : ∀ handle other conn conn', table.get handle = some conn →
      table.get other = some conn' → conn.fourTuple = conn'.fourTuple →
      handle = other ∧ conn = conn' := by
    intro handle other conn conn' held held' same
    have here := Index.Agree.unique reached.indexed held' held same
    rw [here, held'] at held
    exact ⟨here, (Option.some.inj held).symm⟩
  refine ⟨reached.indexed.byTuple_iff, reached.indexed, alone, ?_,
    fun _ failed => insert_none failed, fun _ failed => removeConn_none failed⟩
  calc table.activeConns
      _ ≤ table.slots.length := List.countP_le_length
      _ = maxConnections := reached.length

end FlowTable

end DpdkTcp
