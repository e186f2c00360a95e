import DpdkTcp.Route.Tuples
import DpdkTcp.Send.Balance
import DpdkTcp.Send.Handed

/-!
# Calls that write no buffer

Apart from `send_bytes` and `retransmit`, no call of the engine writes to a buffer or
pushes a frame. Such a call may hand the ring to the driver, give frames back and drop
entries, and a reference it takes from a buffer is one of those.
-/

namespace DpdkTcp

/-- The connection has no entries but those of an earlier state of it. -/
structure Heir (before after : TcpConn) : Prop where
  fourTuple : after.fourTuple = before.fourTuple
  entries : ∀ entry ∈ after.sndRetrans.entries, ∃ original ∈ before.sndRetrans.entries,
    entry.seq = original.seq ∧ entry.len = original.len ∧ entry.mbuf = original.mbuf

namespace Heir

variable {first second third : TcpConn}

theorem refl (conn : TcpConn) : Heir conn conn :=
  ⟨rfl, fun entry member => ⟨entry, member, rfl, rfl, rfl⟩⟩

theorem trans (left : Heir first second) (right : Heir second third) : Heir first third := by
  refine ⟨right.fourTuple.trans left.fourTuple, ?_⟩
  intro entry member
  rcases right.entries entry member with ⟨middle, between, seq, len, mbuf⟩
  rcases left.entries middle between with ⟨original, inFirst, seq', len', mbuf'⟩
  exact ⟨original, inFirst, seq.trans seq', len.trans len', mbuf.trans mbuf'⟩

theorem of_entriesKept (fourTuple : second.fourTuple = first.fourTuple)
    (kept : EntriesKept first.sndRetrans.entries second.sndRetrans.entries) :
    Heir first second := by
  refine ⟨fourTuple, ?_⟩
  intro entry member
  rcases List.mem_iff_getElem?.mp member with ⟨index, found⟩
  rcases kept.getElem? found with ⟨original, there, same⟩
  exact ⟨original, List.mem_iff_getElem?.mpr ⟨index, there⟩, same.seq, same.len, same.mbuf⟩

theorem of_sublist (fourTuple : second.fourTuple = first.fourTuple)
    (entries : second.sndRetrans.entries ⊆ first.sndRetrans.entries) : Heir first second :=
  ⟨fourTuple, fun entry member => ⟨entry, entries member, rfl, rfl, rfl⟩⟩

end Heir

namespace Engine

/-- A change that writes no buffer and pushes no frame. -/
structure Calm (before after : Engine) : Prop where
  cfg : after.cfg = before.cfg
  opened : after.record.opened = before.record.opened
  data : ∀ addr, (after.mbufs addr).data = (before.mbufs addr).data
  ring : after.txPendingData.Sublist before.txPendingData
  driver : ∀ frame ∈ after.driverFrames,
    frame ∈ before.driverFrames ∨ frame ∈ before.txPendingData
  drained : after.txPendingData = [] ∨ after.driverFrames ⊆ before.driverFrames
  slack : ∀ addr, before.slack addr ≤ after.slack addr
  entryRefs : ∀ addr, after.entryRefs addr ≤ before.entryRefs addr
  conns : ∀ handle conn', after.flowTable.get handle = some conn' →
    ∃ conn, before.flowTable.get handle = some conn ∧ Heir conn conn'

namespace Calm

variable {first second third : Engine}

theorem trans (left : Calm first second) (right : Calm second third) : Calm first third where
  cfg := right.cfg.trans left.cfg
  opened := right.opened.trans left.opened
  data addr := (right.data addr).trans (left.data addr)
  ring := right.ring.trans left.ring
  driver frame member := by
    rcases right.driver frame member with held | waiting
    · exact left.driver frame held
    · exact Or.inr (left.ring.subset waiting)
  drained := by
    rcases right.drained with empty | fewer
    · exact Or.inl empty
    · rcases left.drained with empty | fewerLeft
      · exact Or.inl (List.sublist_nil.mp (empty ▸ right.ring))
      · exact Or.inr (List.Subset.trans fewer fewerLeft)
  slack addr := (left.slack addr).trans (right.slack addr)
  entryRefs addr := (right.entryRefs addr).trans (left.entryRefs addr)
  conns handle conn'' live := by
    rcases right.conns handle conn'' live with ⟨conn', between, heir'⟩
    rcases left.conns handle conn' between with ⟨conn, present, heir⟩
    exact ⟨conn, present, heir.trans heir'⟩

/-- A change that conserves the references and leaves the frames alone. -/
theorem of_conserves (conserves : Conserves first second) (cfg : second.cfg = first.cfg)
    (opened : second.record.opened = first.record.opened)
    (data : ∀ addr, (second.mbufs addr).data = (first.mbufs addr).data)
    (ring : second.txPendingData = first.txPendingData)
    (driver : second.driverFrames = first.driverFrames)
    (conns : ∀ handle conn', second.flowTable.get handle = some conn' →
      ∃ conn, first.flowTable.get handle = some conn ∧ Heir conn conn') : Calm first second where
  cfg := cfg
  opened := opened
  data := data
  ring := by rw [ring]
  driver frame member := Or.inl (driver ▸ member)
  drained := Or.inr (by rw [driver]; exact List.Subset.refl _)
  slack addr := Int.le_of_eq (conserves.slack addr).symm
  entryRefs := conserves.entryRefs
  conns := conns

/-- Timers, events and received buffers play no part. -/
theorem same (cfg : second.cfg = first.cfg) (opened : second.record.opened = first.record.opened)
    (mbufs : second.mbufs = first.mbufs) (ring : second.txPendingData = first.txPendingData)
    (driver : second.driverFrames = first.driverFrames)
    (flowTable : second.flowTable = first.flowTable) : Calm first second := by
  refine .of_conserves (.of_same (by rw [flowTable]) ring driver mbufs) cfg opened ?_ ring driver ?_
  · exact fun addr => by rw [mbufs]
  · intro handle conn' live
    rw [flowTable] at live
    exact ⟨conn', live, .refl conn'⟩

theorem refl (engine : Engine) : Calm engine engine :=
  same rfl rfl rfl rfl rfl rfl

theorem push (engine : Engine) (event : InternalEvent) : Calm engine (engine.pushEvent event) :=
  same rfl rfl rfl rfl rfl rfl

/-- A connection is written whose entries are the earlier ones. -/
theorem set (engine : Engine) {handle : ConnHandle} {conn written : TcpConn}
    (present : engine.flowTable.get handle = some conn)
    (fourTuple : written.fourTuple = conn.fourTuple)
    (kept : EntriesKept conn.sndRetrans.entries written.sndRetrans.entries) :
    Calm engine { engine with flowTable := engine.flowTable.set handle written } := by
  refine .of_conserves (conserves_set engine handle present kept.mbufs) rfl rfl (fun _ => rfl) rfl
    rfl ?_
  intro other conn' live
  dsimp only at live
  rw [FlowTable.get_set present] at live
  split at live
  · rename_i same
    cases live
    exact ⟨conn, same ▸ present, .of_entriesKept fourTuple kept⟩
  · exact ⟨conn', live, .refl conn'⟩

/-- A change of a connection that keeps its entries. -/
theorem modify (engine : Engine) (handle : ConnHandle) {change : TcpConn → TcpConn}
    (keeps : ∀ conn, (change conn).fourTuple = conn.fourTuple ∧
      EntriesKept conn.sndRetrans.entries (change conn).sndRetrans.entries) :
    Calm engine (engine.modifyConn handle change) := by
  unfold modifyConn FlowTable.modify
  cases present : engine.flowTable.get handle with
  | none => exact .refl engine
  | some conn => exact .set engine present (keeps conn).1 (keeps conn).2

/-- A change of a connection beside its entries. -/
theorem beside (engine : Engine) (handle : ConnHandle) {change : TcpConn → TcpConn}
    (keeps : ∀ conn, (change conn).fourTuple = conn.fourTuple ∧
      (change conn).sndRetrans = conn.sndRetrans) :
    Calm engine (engine.modifyConn handle change) :=
  .modify engine handle fun conn =>
    ⟨(keeps conn).1, by rw [(keeps conn).2]; exact EntriesKept.refl _⟩

end Calm

variable (engine : Engine) (handle : ConnHandle)

/-! ### Buffers and frames -/

/-- Only the counts change. -/
theorem data_releaseMbufs (addrs : List ℕ) (addr : ℕ) :
    ((engine.releaseMbufs addrs).mbufs addr).data = (engine.mbufs addr).data := by
  unfold releaseMbufs
  induction addrs generalizing engine with
  | nil => rfl
  | cons released rest ih =>
      rw [List.foldl_cons, ih]
      dsimp only [releaseMbuf]
      rw [mbufs_setMbuf]
      split
      · rename_i same
        rw [same]
      · rfl

theorem drainTxPendingData_calm (sent : ℕ) : Calm engine (engine.drainTxPendingData sent) where
  cfg := (drainTxPendingData_change engine sent).cfg
  opened := (drainTxPendingData_hands engine sent).opened
  data addr := data_releaseMbufs _ _ addr
  ring := by
    rw [drainTxPendingData_txPendingData]
    exact List.nil_sublist _
  driver frame member := by
    unfold drainTxPendingData at member
    rw [releaseMbufs_only] at member
    rcases List.mem_append.mp member with held | taken
    · exact Or.inl held
    · exact Or.inr (List.mem_of_mem_take taken)
  drained := Or.inl (drainTxPendingData_txPendingData engine sent)
  slack addr := Int.le_of_eq (slack_drainTxPendingData engine addr sent).symm
  entryRefs := (conserves_drainTxPendingData engine sent).entryRefs
  conns handle conn' live := by
    rw [(drainTxPendingData_change engine sent).flowTable] at live
    exact ⟨conn', live, .refl conn'⟩

/-- Entries that leave a connection give their references back. -/
theorem releaseEntries_calm {conn : TcpConn} {change : TcpConn → TcpConn} {left : List ℕ}
    (present : engine.flowTable.get handle = some conn)
    (split : ∀ addr, conn.entryMbufs.count addr =
      left.count addr + (change conn).entryMbufs.count addr)
    (heir : Heir conn (change conn)) :
    Calm engine ((engine.modifyConn handle change).releaseMbufs left) := by
  refine .of_conserves (conserves_releaseEntries engine handle present split) ?_ ?_
    (data_releaseMbufs _ left) ?_ ?_ ?_
  · rw [releaseMbufs_only]
    rfl
  · rw [releaseMbufs_only]
    rfl
  · rw [releaseMbufs_only]
    rfl
  · rw [releaseMbufs_only]
    rfl
  · intro other conn' live
    rw [releaseMbufs_only] at live
    dsimp only [modifyConn] at live
    rw [FlowTable.get_modify] at live
    split at live
    · rename_i same
      rw [present] at live
      cases live
      exact ⟨conn, same ▸ present, heir⟩
    · exact ⟨conn', live, .refl conn'⟩

/-- The driver is done with a frame. -/
theorem completeFrame_calm (index : ℕ) : Calm engine (engine.completeFrame index) := by
  have conserves := @conserves_completeFrame engine index
  dsimp only [completeFrame] at conserves ⊢
  split
  · exact .refl engine
  · rename_i frame found
    rw [found] at conserves
    have fewer : ({ engine with driverFrames := engine.driverFrames.eraseIdx index }.releaseMbufs
        frame.segs).driverFrames ⊆ engine.driverFrames := by
      rw [releaseMbufs_only]
      exact List.eraseIdx_subset
    refine
      { cfg := by rw [releaseMbufs_only]
        opened := by rw [releaseMbufs_only]
        data := data_releaseMbufs _ _
        ring := by rw [releaseMbufs_only]
        driver := fun frame member => Or.inl (fewer member)
        drained := Or.inr fewer
        slack := fun addr => Int.le_of_eq (conserves.slack addr).symm
        entryRefs := conserves.entryRefs
        conns := fun other conn' live => ?_ }
    rw [releaseMbufs_only] at live
    exact ⟨conn', live, .refl conn'⟩

/-- A connection is dropped with its entries. Their references stay behind. -/
theorem dropConn_calm : Calm engine (engine.dropConn handle) := by
  cases present : engine.flowTable.get handle with
  | none =>
      have same : engine.flowTable.remove handle = engine.flowTable := by
        unfold FlowTable.remove
        rw [present]
      exact .same rfl rfl rfl rfl rfl same
  | some conn =>
      have refs := entryRefs_remove engine handle present
      refine ⟨rfl, rfl, fun _ => rfl, .refl _, fun _ => Or.inl, Or.inr (.refl _), ?_, ?_, ?_⟩
      · intro addr
        have here := refs addr
        dsimp only [slack, frameRefs, entryRefs, dropConn] at here ⊢
        omega
      · intro addr
        have here := refs addr
        dsimp only [entryRefs, dropConn] at here ⊢
        omega
      · intro other conn' live
        dsimp only [dropConn] at live
        rw [FlowTable.get_remove] at live
        split at live
        · cases live
        · exact ⟨conn', live, .refl conn'⟩

/-! ### Timers and states -/

theorem cancelTimers_calm (ids : List TimerId) : Calm engine (engine.cancelTimers ids) := by
  rw [cancelTimers_only]
  exact .same rfl rfl rfl rfl rfl rfl

theorem armRto_calm (nowNs : ℕ) : Calm engine (engine.armRto handle nowNs) := by
  dsimp only [armRto]
  split
  · exact .refl engine
  · split
    · refine .trans ?_ (.beside _ handle fun _ => ⟨rfl, rfl⟩)
      exact .same rfl rfl rfl rfl rfl rfl
    · exact .refl engine

theorem armTlpPto_calm (nowNs : ℕ) : Calm engine (engine.armTlpPto handle nowNs) := by
  dsimp only [armTlpPto]
  split
  · exact .refl engine
  · split
    · refine .trans ?_ (.beside _ handle fun _ => ⟨rfl, rfl⟩)
      exact .same rfl rfl rfl rfl rfl rfl
    · exact .refl engine

theorem armSynRetrans_calm (nowNs delayUs : ℕ) :
    Calm engine (engine.armSynRetrans handle nowNs delayUs) := by
  refine .trans ?_ (.beside _ handle fun _ => ⟨rfl, rfl⟩)
  exact .same rfl rfl rfl rfl rfl rfl

theorem stopRto_calm : Calm engine (engine.stopRto handle) := by
  unfold stopRto
  split
  · exact .refl engine
  · refine .trans ?_ (.beside _ handle fun _ => ⟨rfl, rfl⟩)
    exact .same rfl rfl rfl rfl rfl rfl

theorem stopTlp_calm : Calm engine (engine.stopTlp handle) := by
  unfold stopTlp
  split
  · exact .refl engine
  · refine .trans ?_ (.beside _ handle fun _ => ⟨rfl, rfl⟩)
    exact .same rfl rfl rfl rfl rfl rfl

theorem removeConn_calm : Calm engine (engine.removeConn handle) := by
  dsimp only [removeConn]
  split
  · exact .refl engine
  · exact (cancelTimers_calm _ _).trans (dropConn_calm _ handle)

theorem transitionConn_calm (target : TcpState) (nowNs : ℕ) :
    Calm engine (engine.transitionConn handle target nowNs) := by
  dsimp only [transitionConn]
  split
  · exact .refl engine
  · split
    · exact .refl engine
    · refine .trans ?_ (.push _ _)
      exact .beside engine handle fun _ => ⟨rfl, rfl⟩

theorem reportRetrans_calm (index nowNs : ℕ) :
    Calm engine (engine.reportRetrans handle index nowNs) := by
  unfold reportRetrans
  split
  · exact .refl engine
  · split
    · exact .refl engine
    · exact .push engine _

theorem reportRto_calm (chosen : List ℕ) (eventNs : ℕ) :
    Calm engine (engine.reportRto handle chosen eventNs) := by
  have reported : ∀ (chosen : List ℕ) (engine : Engine), Calm engine
      (chosen.foldl (fun engine index => engine.reportRetrans handle index eventNs) engine) := by
    intro chosen
    induction chosen with
    | nil => exact .refl
    | cons index rest ih =>
        intro engine
        exact (reportRetrans_calm engine handle index eventNs).trans (ih _)
  unfold reportRto
  split
  · exact (reported chosen engine).trans (.push _ _)
  · exact .refl engine

theorem markLost_calm (lost : List ℕ) : Calm engine (engine.markLost handle lost) :=
  .modify engine handle fun conn => ⟨rfl, entriesKept_markLost conn.sndRetrans lost⟩

theorem forceCloseEtimedout_calm (nowNs : ℕ) :
    Calm engine (engine.forceCloseEtimedout handle nowNs) := by
  dsimp only [forceCloseEtimedout]
  split
  · exact .refl engine
  · rename_i conn present
    refine .trans ?_ (dropConn_calm _ handle)
    refine .trans (.trans ?_ (.push _ _)) (.push _ _)
    refine .trans (.trans ?_ (cancelTimers_calm _ _)) (transitionConn_calm _ handle .closed nowNs)
    refine releaseEntries_calm engine handle present ?_ ?_
    · exact fun addr => (Nat.add_zero _).symm
    · exact .of_sublist rfl (List.nil_subset _)

theorem rearmOrGiveUp_calm (noBackoff : Bool) (env : RtoEnv) :
    Calm engine (engine.rearmOrGiveUp handle noBackoff env) := by
  unfold rearmOrGiveUp
  split
  · exact forceCloseEtimedout_calm engine handle env.closeNs
  · refine .trans ?_ (armRto_calm _ handle env.timerNs)
    split
    · exact .refl engine
    · exact .beside engine handle fun _ => ⟨rfl, rfl⟩

theorem onSynRetransFire_calm (firedId : TimerId) (nowNs : ℕ) :
    Calm engine (engine.onSynRetransFire handle firedId nowNs) := by
  dsimp only [onSynRetransFire]
  split
  · exact .refl engine
  · split
    · exact .refl engine
    · have cleared : Calm engine (engine.modifyConn handle fun conn =>
          { conn.withoutTimer firedId with synRetransTimerId := none }) :=
        .beside engine handle fun _ => ⟨rfl, rfl⟩
      split
      · exact cleared
      · split
        · refine .trans ?_ (forceCloseEtimedout_calm _ handle nowNs)
          exact cleared.trans (.beside _ handle fun _ => ⟨rfl, rfl⟩)
        · refine .trans ?_ (armSynRetrans_calm _ handle nowNs _)
          exact cleared.trans (.beside _ handle fun _ => ⟨rfl, rfl⟩)

/-! ### Around a dispatch -/

theorem pruneAcked_calm (newSndUna : Seq) (nowNs : ℕ) :
    Calm engine (engine.pruneAcked handle newSndUna nowNs) := by
  dsimp only [pruneAcked]
  split
  · exact .refl engine
  · rename_i conn present
    have freed : Calm engine ((engine.modifyConn handle fun after =>
        { after with sndRetrans := conn.sndRetrans.pruneBelow newSndUna }).releaseMbufs
          ((conn.sndRetrans.prunedBelow newSndUna).map RetransEntry.mbuf)) := by
      refine releaseEntries_calm engine handle present ?_ ?_
      · intro addr
        dsimp only [TcpConn.entryMbufs, SendRetrans.pruneBelow, SendRetrans.prunedBelow]
        rw [← List.count_append, ← List.map_append, List.takeWhile_append_dropWhile]
      · exact .of_sublist rfl (List.dropWhile_sublist _).subset
    generalize (engine.modifyConn handle fun after =>
        { after with sndRetrans := conn.sndRetrans.pruneBelow newSndUna }).releaseMbufs
          ((conn.sndRetrans.prunedBelow newSndUna).map RetransEntry.mbuf) = pruned at freed ⊢
    have stopped : Calm engine
        (if (conn.sndRetrans.pruneBelow newSndUna).isEmpty && conn.sndUna == conn.sndNxt then
          (pruned.stopRto handle).stopTlp handle
        else pruned) := by
      split
      · exact (freed.trans (stopRto_calm _ handle)).trans (stopTlp_calm _ handle)
      · exact freed
    split
    · exact (stopped.trans (stopRto_calm _ handle)).trans (armRto_calm _ handle nowNs)
    · exact stopped

theorem answer_calm (tx : TxAction) (env : InputEnv) : Calm engine (engine.answer handle tx env) := by
  unfold answer
  split
  · exact .refl engine
  · unfold emitAck
    split
    · exact .beside engine handle fun _ => ⟨rfl, rfl⟩
    · exact .refl engine
  · exact transitionConn_calm engine handle .closed env.nowNs
  · exact transitionConn_calm engine handle .closed env.nowNs

theorem handOver_calm (delivered rxHwTsNs emittedTsNs : ℕ) :
    Calm engine (engine.handOver handle delivered rxHwTsNs emittedTsNs) := by
  dsimp only [handOver, deliverReadable]
  cases present : engine.flowTable.get handle with
  | none => exact .same rfl rfl rfl rfl rfl rfl
  | some conn =>
      obtain ⟨popped, written⟩ : ∃ popped, popped = { conn with
          recv := { conn.recv with bytes := (splitDelivered delivered conn.recv.bytes).rest }
          deliveredSegments := [] } :=
        ⟨_, rfl⟩
      dsimp only
      rw [← written]
      refine .trans (.set engine present ?_ ?_) (.same rfl rfl rfl rfl rfl rfl)
      · rw [written]
      · rw [written]
        exact EntriesKept.refl _

theorem deliverEvents_calm (outcome : Outcome) (env : InputEnv) :
    Calm engine (engine.deliverEvents handle outcome env) := by
  have connected : Calm engine
      (if outcome.connected then
        engine.pushEvent (.connected handle env.rxHwTsNs env.nowNs)
      else engine) := by
    split
    · exact .push engine _
    · exact .refl engine
  dsimp only [deliverEvents]
  split
  · exact connected.trans (handOver_calm _ handle _ _ _)
  · exact connected

theorem finishClosed_calm (outcome : Outcome) (env : InputEnv) :
    Calm engine (engine.finishClosed handle outcome env) := by
  have reported := Calm.push engine (.closed handle 0 env.nowNs)
  dsimp only [finishClosed]
  split
  · split
    · split
      · exact reported.trans (removeConn_calm _ handle)
      · exact reported
    · exact reported
  · exact .refl engine

theorem receiveSideAfter_calm (outcome : Outcome) (env : InputEnv) :
    Calm engine (engine.receiveSideAfter handle outcome env) := by
  have waited : Calm engine (engine.restartTimeWait handle outcome env.nowNs) := by
    apply Calm.beside
    intro conn
    split <;> exact ⟨rfl, rfl⟩
  dsimp only [receiveSideAfter]
  refine .trans (.trans (.trans (waited.trans ?_) (answer_calm _ handle _ env))
    (deliverEvents_calm _ handle outcome env)) (finishClosed_calm _ handle outcome env)
  split
  · exact transitionConn_calm _ handle _ env.nowNs
  · exact .refl _

/-- The connection as a dispatch leaves it. -/
theorem notified_calm {conn : TcpConn} (present : engine.flowTable.get handle = some conn)
    (seg : ParsedSegment) (mbufCtx : Option MbufInsertCtx) (env : InputEnv) :
    Calm engine (engine.notified handle mbufCtx
      (dispatch conn seg env.clock engine.cfg.sendBufferBytes mbufCtx) env.nowNs) := by
  have entries := (dispatch_send conn seg env.clock engine.cfg.sendBufferBytes mbufCtx).entries
  have written : Calm engine (engine.written handle mbufCtx
      (dispatch conn seg env.clock engine.cfg.sendBufferBytes mbufCtx)) :=
    .trans (.set engine present (dispatch_fourTuple ..) entries) (.same rfl rfl rfl rfl rfl rfl)
  dsimp only [notified]
  split
  · exact written.trans (.push _ _)
  · exact written

/-- What follows the retransmissions of a segment. -/
theorem sendSideAfter_calm (outcome : Outcome) (env : InputEnv) :
    Calm (engine.retransmitRackLost handle env.retransmits outcome.rackLostIndexes)
      (engine.sendSideAfter handle outcome env) := by
  dsimp only [sendSideAfter]
  generalize engine.retransmitRackLost handle env.retransmits outcome.rackLostIndexes = resent
  generalize armed_eq : Engine.armTlpPto _ handle env.nowNs = armedEngine
  have armed : Calm resent armedEngine := by
    rw [← armed_eq]
    refine .trans ?_ (armTlpPto_calm _ handle env.nowNs)
    split
    · exact pruneAcked_calm _ handle _ env.nowNs
    · exact .refl _
  split
  · refine armed.trans (.trans ?_ (.beside _ handle fun _ => ⟨rfl, rfl⟩))
    exact .same rfl rfl rfl rfl rfl rfl
  · exact armed

/-! ### Closing and the end of the wait -/

theorem closeConn_calm (finSent : Bool) (nowNs : ℕ) :
    Calm engine (engine.closeConn handle finSent nowNs) := by
  dsimp only [closeConn]
  split
  · exact .refl engine
  · split
    · exact .refl engine
    · split
      · exact .refl engine
      · refine .trans ?_ (transitionConn_calm _ handle _ nowNs)
        refine .trans ?_ (.beside _ handle fun _ => ⟨rfl, rfl⟩)
        exact .same rfl rfl rfl rfl rfl rfl

theorem requestTwSkip_calm (nowNs : ℕ) : Calm engine (engine.requestTwSkip handle nowNs) := by
  unfold requestTwSkip
  split
  · exact .beside engine handle fun _ => ⟨rfl, rfl⟩
  · exact .push engine _

theorem reapTimeWait_calm (nowNs : ℕ) : Calm engine (engine.reapTimeWait nowNs) := by
  have reaped : ∀ (candidates : List ConnHandle) (engine : Engine), Calm engine
      (candidates.foldl (fun engine handle => engine.reap handle nowNs) engine) := by
    intro candidates
    induction candidates with
    | nil => exact .refl
    | cons handle rest ih =>
        intro engine
        refine .trans (.trans (.trans ?_ (.push _ _)) (removeConn_calm _ handle)) (ih _)
        exact transitionConn_calm engine handle .closed nowNs
  exact reaped _ engine

/-- The frames of the ring are freed and the connections dropped, with their entries. -/
theorem drop_calm : Calm engine engine.drop := by
  have nothing : (engine.flowTable.clearAll.slots).flatMap slotMbufs = [] := by
    rw [List.flatMap_eq_nil_iff]
    intro slot member
    dsimp only [FlowTable.clearAll] at member
    rcases List.mem_map.mp member with ⟨_, _, rfl⟩
    rfl
  have refs : ∀ addr, engine.drop.entryRefs addr = 0 := by
    intro addr
    unfold drop entryRefs
    rw [releaseMbufs_only]
    dsimp only
    rw [nothing, List.count_nil]
  refine
    { cfg := by unfold drop; rw [releaseMbufs_only]
      opened := by unfold drop; rw [releaseMbufs_only]
      data := fun addr => data_releaseMbufs _ _ addr
      ring := by unfold drop; rw [releaseMbufs_only]; exact List.nil_sublist _
      driver := fun frame member => ?_
      drained := Or.inl (by unfold drop; rw [releaseMbufs_only])
      slack := fun addr => ?_
      entryRefs := fun addr => by rw [refs]; exact Nat.zero_le _
      conns := fun handle conn' live => ?_ }
  · unfold drop at member
    rw [releaseMbufs_only] at member
    exact Or.inl member
  · unfold drop
    rw [slack_releaseMbufs]
    dsimp only [slack, entryRefs, frameRefs]
    rw [nothing, List.count_nil, List.flatMap_nil, List.count_nil]
    omega
  · unfold drop at live
    rw [releaseMbufs_only] at live
    have empty : engine.flowTable.clearAll.get handle = none := by
      rw [← Option.not_isSome_iff_eq_none]
      intro isSome
      rcases Option.isSome_iff_exists.mp isSome with ⟨conn, found⟩
      have cell := (FlowTable.get_eq_some_iff.mp found).2
      dsimp only [FlowTable.clearAll] at cell
      rw [List.getElem?_map] at cell
      cases there : engine.flowTable.slots[handle - 1]? <;> rw [there] at cell <;> cases cell
    rw [empty] at live
    cases live

end Engine

end DpdkTcp
