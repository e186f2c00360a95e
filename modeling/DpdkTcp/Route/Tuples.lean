import DpdkTcp.Lib.Index
import DpdkTcp.Model.Ip
import DpdkTcp.Window.Advert

/-!
# The tuple index of the flow table

Segments are routed by `by_tuple`, connections live in `slots`, and the two are
kept in step by hand. A connection never changes its tuple, so in every run the
index finds a handle for a tuple just if the handle stands for a live connection
with that tuple.
-/

namespace DpdkTcp

namespace FlowTable

/-- `by_tuple` and the slots agree. -/
def Indexed (table : FlowTable) : Prop :=
  Index.Agree TcpConn.fourTuple table.lookupByTuple table.get

variable {table : FlowTable} {handle : ConnHandle} {conn : TcpConn}

theorem Indexed.of_tuples (indexed : table.Indexed) {changed : FlowTable}
    (byTuple : changed.byTuple = table.byTuple)
    (tuples : ∀ other, (changed.get other).map TcpConn.fourTuple =
      (table.get other).map TcpConn.fourTuple) : changed.Indexed := by
  have lookup : changed.lookupByTuple = table.lookupByTuple := by
    funext tuple
    rw [lookupByTuple, byTuple, ← lookupByTuple]
  unfold Indexed
  rw [lookup]
  exact Index.Agree.replace indexed tuples

theorem byTuple_set (table : FlowTable) (handle : ConnHandle) (written : TcpConn) :
    (table.set handle written).byTuple = table.byTuple := by
  unfold set
  split <;> rfl

theorem Indexed.set (indexed : table.Indexed) (present : table.get handle = some conn)
    {written : TcpConn} (same : written.fourTuple = conn.fourTuple) :
    (table.set handle written).Indexed := by
  refine indexed.of_tuples (byTuple_set table handle written) ?_
  intro other
  rw [get_set present]
  split
  · rename_i here
    rw [here, present, Option.map_some, Option.map_some, same]
  · rfl

theorem Indexed.modify (indexed : table.Indexed) {change : TcpConn → TcpConn}
    (keeps : ∀ conn, (change conn).fourTuple = conn.fourTuple) (handle : ConnHandle) :
    (table.modify handle change).Indexed := by
  unfold FlowTable.modify
  split
  · exact indexed.set ‹_› (keeps _)
  · exact indexed

theorem Indexed.remove (indexed : table.Indexed) (handle : ConnHandle) :
    (table.remove handle).Indexed := by
  cases present : table.get handle with
  | none =>
      have unchanged : table.remove handle = table := by
        unfold FlowTable.remove
        rw [present]
      rw [unchanged]
      exact indexed
  | some conn =>
      have lookup : ∀ tuple, (table.remove handle).lookupByTuple tuple =
          if tuple = conn.fourTuple then none else table.lookupByTuple tuple := by
        intro tuple
        unfold lookupByTuple FlowTable.remove
        rw [present]
        dsimp only
        split <;> rfl
      refine Index.Agree.remove indexed present ?_ ?_ ?_ ?_
      · rw [get_remove, if_pos rfl]
      · intro other differs
        rw [get_remove, if_neg differs]
      · rw [lookup, if_pos rfl]
      · intro tuple differs
        rw [lookup, if_neg differs]

theorem Indexed.insert (indexed : table.Indexed) {grown : FlowTable}
    (inserted : table.insert conn = (grown, some handle)) : grown.Indexed := by
  have stored := get_insert inserted
  have lookup : table.lookupByTuple conn.fourTuple = none ∧
      ∀ tuple, grown.lookupByTuple tuple =
        if tuple = conn.fourTuple then some handle else table.lookupByTuple tuple := by
    unfold FlowTable.insert at inserted
    split at inserted
    · cases inserted
    · rename_i free
      split at inserted
      · cases inserted
      · cases inserted
        constructor
        · rw [lookupByTuple, free]
          rfl
        · intro tuple
          unfold lookupByTuple
          dsimp only
          split <;> rfl
  refine Index.Agree.insert indexed (stored handle).1 lookup.1 ?_ ?_ ?_ ?_
  · rw [(stored handle).2, if_pos rfl]
  · intro other differs
    rw [(stored other).2, if_neg differs]
  · rw [lookup.2, if_pos rfl]
  · intro tuple differs
    rw [lookup.2, if_neg differs]

theorem Indexed.of_empty (unindexed : ∀ tuple, table.byTuple tuple = none)
    (unheld : ∀ handle, table.get handle = none) : table.Indexed := by
  intro tuple handle
  rw [lookupByTuple, unindexed, unheld]
  simp

end FlowTable

namespace Engine

variable {engine : Engine} {handle : ConnHandle} {conn : TcpConn}

theorem Edits.indexed {before after : Engine} (edits : Edits before after)
    (indexed : before.flowTable.Indexed) : after.flowTable.Indexed := by
  induction edits with
  | same _ flowTable _ =>
      rw [flowTable]
      exact indexed
  | push => exact indexed
  | modify handle change keeps => exact indexed.modify (fun conn => (keeps conn).fourTuple) handle
  | remove handle => exact indexed.remove handle
  | trans _ _ left right => exact right (left indexed)

theorem handOver_indexed (indexed : engine.flowTable.Indexed) (handle : ConnHandle)
    (delivered rxHwTsNs emittedTsNs : ℕ) :
    (engine.handOver handle delivered rxHwTsNs emittedTsNs).flowTable.Indexed := by
  dsimp only [handOver, deliverReadable]
  split
  · exact indexed
  · rename_i conn present
    exact indexed.set present rfl

/-- A dispatch keeps the tuple of the connection. -/
theorem dispatch_fourTuple (conn : TcpConn) (seg : ParsedSegment) (clock : Readings)
    (sendBuf : ℕ) (mbufCtx : Option MbufInsertCtx) :
    (dispatch conn seg clock sendBuf mbufCtx).conn.fourTuple = conn.fourTuple := by
  by_cases opening : conn.state = .synSent
  · have shake : dispatch conn seg clock sendBuf mbufCtx = handleSynSent conn seg clock := by
      rw [dispatch, opening]
    rw [shake]
    rcases handleSynSent_opens conn seg clock with ⟨_, _, ⟨unchanged, _⟩ | ⟨opts, _, _, _, adopted⟩⟩
    · rw [unchanged]
    · exact adopted.fourTuple
  · exact (dispatch_sameOwner opening seg clock sendBuf mbufCtx).fourTuple

theorem tcpInput_indexed (indexed : engine.flowTable.Indexed) (handle : ConnHandle)
    (seg : ParsedSegment) (mbufCtx : Option MbufInsertCtx) (env : InputEnv) :
    (engine.tcpInput handle seg mbufCtx env).flowTable.Indexed := by
  cases present : engine.flowTable.get handle with
  | none =>
      have idle : engine.tcpInput handle seg mbufCtx env = engine :=
        tcpInput_absent present seg mbufCtx env
      rw [idle]
      exact indexed
  | some conn =>
      rcases tcpInput_edits engine handle present seg mbufCtx env rfl with ⟨moved, before, after⟩
      have written : (engine.written handle mbufCtx (dispatch conn seg env.clock
          engine.cfg.sendBufferBytes mbufCtx)).flowTable.Indexed :=
        indexed.set present (dispatch_fourTuple conn seg env.clock _ mbufCtx)
      refine after.indexed ?_
      split
      · exact handOver_indexed (before.indexed written) handle _ _ _
      · exact before.indexed written

theorem connectWithOpts_indexed (indexed : engine.flowTable.Indexed) (tuple : FourTuple)
    (iss : Seq) (ourMss : UInt16) (opts : ConnectOpts) (synSent : Bool) (nowNs : ℕ) :
    (engine.connectWithOpts tuple iss ourMss opts synSent nowNs).1.flowTable.Indexed := by
  dsimp only [connectWithOpts]
  split
  · exact indexed
  · split
    · exact indexed
    · split
      · exact indexed
      · rename_i fresh inserted
        have grown := indexed.insert
          (Prod.ext rfl inserted : engine.flowTable.insert _ = (_, some fresh))
        split
        · exact grown.remove fresh
        · exact (Edits.trans (transitionConn_edits _ fresh .synSent nowNs)
            (armSynRetrans_edits _ fresh nowNs _)).indexed grown

end Engine

namespace Host

theorem step_indexed {host : Host} (indexed : host.engine.flowTable.Indexed) (op : EngineOp) :
    (host.step op).engine.flowTable.Indexed := by
  cases op with
  | connect tuple iss ourMss opts synSent nowNs =>
      exact Engine.connectWithOpts_indexed indexed tuple iss ourMss opts synSent nowNs
  | send handle bytes envs tlpNs =>
      exact (Engine.sendBytes_edits host.engine handle bytes envs tlpNs).indexed indexed
  | close handle finSent nowNs =>
      exact (Engine.closeConn_edits host.engine handle finSent nowNs).indexed indexed
  | segment handle seg mbufCtx env => exact Engine.tcpInput_indexed indexed handle seg mbufCtx env
  | advance | fireNext | flush | reap | twSkip => exact (host.step_edits rfl).indexed indexed

theorem systemStep_indexed {host : Host} (indexed : host.engine.flowTable.Indexed)
    (op : SystemOp) : (host.systemStep op).engine.flowTable.Indexed := by
  cases op with
  | call op => exact step_indexed indexed op
  | complete index =>
      dsimp only [systemStep]
      rw [completeFrame_flowTable]
      exact indexed
  | drainEvents max => exact indexed
  | drop =>
      refine .of_empty ?_ (drop_get host.engine)
      intro tuple
      dsimp only [systemStep, Engine.drop]
      rw [Engine.releaseMbufs_only]
      rfl

end Host

namespace Station

/-- On the host, a step of a station is at most one call. -/
theorem dpdkNetEngineAddLocalIp_host (station : Station) (localAddrNbo : BitVec 32) :
    (station.dpdkNetEngineAddLocalIp localAddrNbo).1.host = station.host := by
  dsimp only [dpdkNetEngineAddLocalIp, addLocalIp]
  split
  · rfl
  · split
    · rfl
    · split
      · rfl
      · split <;> rfl

theorem step_host (station : Station) (op : StationOp) :
    (station.step op).host = station.host ∨
      ∃ call, (station.step op).host = station.host.systemStep call := by
  cases op with
  | connect peerIp peerPort hint localAddr iss ourMss opts synSent nowNs =>
      dsimp only [step, connectWithOpts]
      split
      · exact Or.inl rfl
      · split
        · exact Or.inl rfl
        · split
          · exact Or.inl rfl
          · exact Or.inr ⟨.call (.connect _ iss ourMss opts synSent nowNs), rfl⟩
  | addLocalIp localAddrNbo =>
      exact Or.inl (station.dpdkNetEngineAddLocalIp_host localAddrNbo)
  | frame frame env =>
      dsimp only [step, receive]
      split
      · exact Or.inr ⟨.call (.segment _ _ _ env), rfl⟩
      · exact Or.inl rfl
  | system op => exact Or.inr ⟨op, rfl⟩

theorem step_indexed {station : Station} (indexed : station.host.engine.flowTable.Indexed)
    (op : StationOp) : (station.step op).host.engine.flowTable.Indexed := by
  rcases station.step_host op with same | ⟨call, same⟩ <;> rw [same]
  · exact indexed
  · exact Host.systemStep_indexed indexed call

theorem indexed_start (cfg : EngineConfig) (maxConnections eventSoftCap : ℕ)
    (secondaryLocalIps : List (BitVec 32)) (rxCksumOffloadActive : Bool)
    (lastEphemeralPort : UInt16) :
    (start cfg maxConnections eventSoftCap secondaryLocalIps rxCksumOffloadActive
      lastEphemeralPort).host.engine.flowTable.Indexed :=
  .of_empty (fun _ => rfl) (Host.get_start cfg maxConnections eventSoftCap)

end Station

end DpdkTcp
