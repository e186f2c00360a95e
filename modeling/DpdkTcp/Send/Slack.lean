import DpdkTcp.Lib.Cells
import DpdkTcp.Lifecycle.Live

/-!
# References to the TX buffers

A data buffer is referenced by its entry in `snd_retrans` and by every frame of
the ring and of the driver that contains it. The slack of a buffer is its
reference count less these references. Every call of the engine takes and gives
back references in step with the entries and frames it makes and drops, except
that a connection leaves the table with its entries.
-/

namespace DpdkTcp

/-- The buffers of the entries. -/
def TcpConn.entryMbufs (conn : TcpConn) : List ℕ :=
  conn.sndRetrans.entries.map RetransEntry.mbuf

/-- The buffers named by a slot of the table. -/
def slotMbufs (slot : Option TcpConn) : List ℕ :=
  (slot.map TcpConn.entryMbufs).getD []

namespace Engine

/-- How many entries of `snd_retrans` name a buffer. -/
def entryRefs (engine : Engine) (addr : ℕ) : ℕ :=
  (engine.flowTable.slots.flatMap slotMbufs).count addr

/-- How often the frames of the ring and the driver contain a buffer. -/
def frameRefs (engine : Engine) (addr : ℕ) : ℕ :=
  (engine.txPendingData.flatMap TxFrame.segs).count addr +
    (engine.driverFrames.flatMap TxFrame.segs).count addr

/-- The references to a buffer that neither an entry nor a frame accounts for. -/
def slack (engine : Engine) (addr : ℕ) : Int :=
  (engine.mbufs addr).refcnt - engine.entryRefs addr - engine.frameRefs addr

variable (engine : Engine) (handle : ConnHandle)

/-! ### Buffers -/

section Buffers

variable (addr other : ℕ)

theorem slack_setMbuf (mbuf : TxMbuf) :
    (engine.setMbuf addr mbuf).slack other =
      engine.slack other + [addr].count other * (mbuf.refcnt - (engine.mbufs addr).refcnt) := by
  unfold slack
  rw [mbufs_setMbuf]
  by_cases same : other = addr
  · rw [if_pos same, same, List.count_singleton_self]
    dsimp only [entryRefs, frameRefs, setMbuf]
    omega
  · rw [if_neg same, List.count_singleton, if_neg (by simpa using Ne.symm same)]
    dsimp only [entryRefs, frameRefs, setMbuf]
    omega

theorem slack_allocMbuf (free : (engine.mbufs addr).refcnt = 0) :
    (engine.allocMbuf addr).slack other = engine.slack other + [addr].count other := by
  rw [allocMbuf, slack_setMbuf, free]
  dsimp only
  rw [Int.sub_zero, Int.mul_one]

theorem slack_holdMbuf :
    (engine.holdMbuf addr).slack other = engine.slack other + [addr].count other := by
  rw [holdMbuf, slack_setMbuf]
  dsimp only
  rw [show (engine.mbufs addr).refcnt + 1 - (engine.mbufs addr).refcnt = 1 by omega, Int.mul_one]

theorem slack_releaseMbuf :
    (engine.releaseMbuf addr).slack other = engine.slack other - [addr].count other := by
  rw [releaseMbuf, slack_setMbuf]
  dsimp only
  rw [show (engine.mbufs addr).refcnt - 1 - (engine.mbufs addr).refcnt = -1 by omega]
  omega

theorem slack_writeMbuf (data : List UInt8) :
    (engine.writeMbuf addr data).slack other = engine.slack other := by
  rw [writeMbuf, slack_setMbuf]
  dsimp only
  rw [Int.sub_self, Int.mul_zero, Int.add_zero]

theorem slack_recordAssigned (first : FirstSent) :
    (engine.recordAssigned first).slack other = engine.slack other :=
  rfl

theorem slack_stripHeader (len : ℕ) :
    (engine.stripHeader addr len).slack other = engine.slack other := by
  unfold stripHeader adjMbuf
  split
  · split
    · rfl
    · exact slack_writeMbuf _ _ _ _
  · rfl

theorem slack_releaseMbufs (addrs : List ℕ) :
    (engine.releaseMbufs addrs).slack other = engine.slack other - addrs.count other := by
  unfold releaseMbufs
  induction addrs generalizing engine with
  | nil => simp
  | cons addr rest ih =>
      have split : (addr :: rest).count other = [addr].count other + rest.count other := by
        rw [← List.count_append]
        rfl
      rw [List.foldl_cons, ih, slack_releaseMbuf, split]
      omega

/-- What a drain frees are the references of the frames the driver left. -/
theorem slack_drainTxPendingData (sent : ℕ) :
    (engine.drainTxPendingData sent).slack other = engine.slack other := by
  dsimp only [drainTxPendingData]
  rw [slack_releaseMbufs]
  have split := Cells.count_flatMap_take_drop TxFrame.segs engine.txPendingData sent other
  dsimp only [slack, entryRefs, frameRefs]
  rw [List.flatMap_append, List.count_append, split, List.flatMap_nil, List.count_nil]
  omega

theorem slack_pushTxPendingData (frame : TxFrame) (sent : ℕ) :
    (engine.pushTxPendingData frame sent).slack other =
      engine.slack other - frame.segs.count other := by
  have pushed : ∀ engine : Engine,
      ({ engine with txPendingData := engine.txPendingData ++ [frame] } : Engine).slack other =
        engine.slack other - frame.segs.count other := by
    intro engine
    dsimp only [slack, entryRefs, frameRefs]
    rw [List.flatMap_append, List.count_append, List.flatMap_singleton]
    omega
  dsimp only [pushTxPendingData]
  split
  · exact pushed engine
  · rw [pushed, slack_drainTxPendingData]

end Buffers

/-! ### The flow table -/

theorem refs_setSlot {conn : TcpConn} (present : engine.flowTable.get handle = some conn)
    (slot : Option TcpConn) (addr : ℕ) :
    ((engine.flowTable.slots.set (handle - 1) slot).flatMap slotMbufs).count addr +
        conn.entryMbufs.count addr =
      engine.entryRefs addr + (slotMbufs slot).count addr :=
  Cells.count_flatMap_set slotMbufs (FlowTable.get_eq_some_iff.mp present).2 slot addr

/-- The references behind a write to a connection. -/
theorem entryRefs_set {conn : TcpConn} (present : engine.flowTable.get handle = some conn)
    (written : TcpConn) (addr : ℕ) :
    ({ engine with flowTable := engine.flowTable.set handle written } : Engine).entryRefs addr +
        conn.entryMbufs.count addr =
      engine.entryRefs addr + written.entryMbufs.count addr := by
  have exchanged := refs_setSlot engine handle present (some written) addr
  unfold entryRefs FlowTable.set
  rw [present]
  exact exchanged

theorem entryRefs_remove {conn : TcpConn} (present : engine.flowTable.get handle = some conn)
    (addr : ℕ) :
    ({ engine with flowTable := engine.flowTable.remove handle } : Engine).entryRefs addr +
        conn.entryMbufs.count addr =
      engine.entryRefs addr := by
  have exchanged := refs_setSlot engine handle present none addr
  unfold entryRefs FlowTable.remove
  rw [present]
  exact exchanged

end Engine

/-- No reference is lost or made up, and no entry is added. -/
structure Conserves (before after : Engine) : Prop where
  slack : ∀ addr, after.slack addr = before.slack addr
  entryRefs : ∀ addr, after.entryRefs addr ≤ before.entryRefs addr

namespace Conserves

variable {first second third : Engine}

theorem refl (engine : Engine) : Conserves engine engine :=
  ⟨fun _ => rfl, fun _ => Nat.le_refl _⟩

theorem trans (left : Conserves first second) (right : Conserves second third) :
    Conserves first third :=
  ⟨fun addr => (right.slack addr).trans (left.slack addr),
    fun addr => Nat.le_trans (right.entryRefs addr) (left.entryRefs addr)⟩

/-- What changes neither the slots nor the frames nor the counts. -/
theorem of_same (slots : second.flowTable.slots = first.flowTable.slots)
    (txPendingData : second.txPendingData = first.txPendingData)
    (driverFrames : second.driverFrames = first.driverFrames)
    (mbufs : second.mbufs = first.mbufs) : Conserves first second := by
  have refs : ∀ addr, second.entryRefs addr = first.entryRefs addr := by
    intro addr
    unfold Engine.entryRefs
    rw [slots]
  refine ⟨fun addr => ?_, fun addr => Nat.le_of_eq (refs addr)⟩
  unfold Engine.slack Engine.frameRefs
  rw [refs, txPendingData, driverFrames, mbufs]

end Conserves

namespace Engine

variable (engine : Engine) (handle : ConnHandle)

/-- What leaves the table alone and keeps the slack. -/
theorem conserves_of_flowTable {before after : Engine}
    (flowTable : after.flowTable = before.flowTable)
    (slack : ∀ addr, after.slack addr = before.slack addr) : Conserves before after :=
  ⟨slack, fun addr => Nat.le_of_eq (by unfold entryRefs; rw [flowTable])⟩

theorem conserves_set {conn written : TcpConn} (present : engine.flowTable.get handle = some conn)
    (same : written.entryMbufs = conn.entryMbufs) :
    Conserves engine { engine with flowTable := engine.flowTable.set handle written } := by
  have refs : ∀ addr, ({ engine with flowTable := engine.flowTable.set handle written }
      : Engine).entryRefs addr = engine.entryRefs addr := by
    intro addr
    have exchanged := entryRefs_set engine handle present written addr
    rw [same] at exchanged
    omega
  refine ⟨fun addr => ?_, fun addr => Nat.le_of_eq (refs addr)⟩
  unfold slack
  rw [refs]
  rfl

/-- Most changes of a connection keep the buffers its entries name. -/
theorem conserves_modifyConn {change : TcpConn → TcpConn}
    (keeps : ∀ conn, (change conn).entryMbufs = conn.entryMbufs) :
    Conserves engine (engine.modifyConn handle change) := by
  unfold modifyConn FlowTable.modify
  cases present : engine.flowTable.get handle with
  | none => exact .refl engine
  | some conn => exact conserves_set engine handle present (keeps conn)

theorem conserves_pushEvent (event : InternalEvent) :
    Conserves engine (engine.pushEvent event) :=
  .of_same rfl rfl rfl rfl

theorem conserves_recordSentAtOnce (first : FirstSent) :
    Conserves engine (engine.recordSentAtOnce first) :=
  .of_same rfl rfl rfl rfl

theorem conserves_recordOpened (iss : Seq) : Conserves engine (engine.recordOpened handle iss) :=
  .of_same rfl rfl rfl rfl

theorem conserves_cancelTimer (id : TimerId) : Conserves engine (engine.cancelTimer id) :=
  .of_same rfl rfl rfl rfl

theorem conserves_cancelTimers (ids : List TimerId) :
    Conserves engine (engine.cancelTimers ids) := by
  rw [cancelTimers_only]
  exact .of_same rfl rfl rfl rfl

theorem conserves_drainTxPendingData (sent : ℕ) :
    Conserves engine (engine.drainTxPendingData sent) :=
  conserves_of_flowTable (drainTxPendingData_change engine sent).flowTable
    fun addr => slack_drainTxPendingData engine addr sent

theorem conserves_transitionConn (target : TcpState) (nowNs : ℕ) :
    Conserves engine (engine.transitionConn handle target nowNs) := by
  dsimp only [transitionConn]
  split
  · exact .refl engine
  · split
    · exact .refl engine
    · refine .trans ?_ (conserves_pushEvent _ _)
      exact conserves_modifyConn engine handle fun _ => rfl

theorem conserves_addTimer (kind : TimerKind) (nowNs delayUs : ℕ) :
    Conserves engine (engine.addTimer handle kind nowNs delayUs).1 :=
  .of_same rfl rfl rfl rfl

theorem conserves_armRto (nowNs : ℕ) : Conserves engine (engine.armRto handle nowNs) := by
  dsimp only [armRto]
  split
  · exact .refl engine
  · split
    · exact (conserves_addTimer engine handle _ _ _).trans (conserves_modifyConn _ _ fun _ => rfl)
    · exact .refl engine

theorem conserves_armTlpPto (nowNs : ℕ) : Conserves engine (engine.armTlpPto handle nowNs) := by
  dsimp only [armTlpPto]
  split
  · exact .refl engine
  · split
    · exact (conserves_addTimer engine handle _ _ _).trans (conserves_modifyConn _ _ fun _ => rfl)
    · exact .refl engine

theorem conserves_armSynRetrans (nowNs delayUs : ℕ) :
    Conserves engine (engine.armSynRetrans handle nowNs delayUs) :=
  (conserves_addTimer engine handle _ _ _).trans (conserves_modifyConn _ _ fun _ => rfl)

theorem conserves_stopRto : Conserves engine (engine.stopRto handle) := by
  unfold stopRto
  split
  · exact .refl engine
  · exact (conserves_cancelTimer engine _).trans (conserves_modifyConn _ _ fun _ => rfl)

theorem conserves_stopTlp : Conserves engine (engine.stopTlp handle) := by
  unfold stopTlp
  split
  · exact .refl engine
  · exact (conserves_cancelTimer engine _).trans (conserves_modifyConn _ _ fun _ => rfl)

theorem conserves_reportRetrans (index nowNs : ℕ) :
    Conserves engine (engine.reportRetrans handle index nowNs) := by
  unfold reportRetrans
  split
  · exact .refl engine
  · split
    · exact .refl engine
    · exact conserves_pushEvent _ _

end Engine

/-! ### Entries that leave -/

theorem EntriesKept.mbufs {first second : List RetransEntry} (kept : EntriesKept first second) :
    second.map RetransEntry.mbuf = first.map RetransEntry.mbuf := by
  induction kept with
  | nil => rfl
  | cons head _ ih => rw [List.map_cons, List.map_cons, head.mbuf, ih]

namespace Engine

variable (engine : Engine) (handle : ConnHandle)

/-- Entries that leave a connection take their references along. -/
theorem conserves_releaseEntries {conn : TcpConn} {change : TcpConn → TcpConn} {left : List ℕ}
    (present : engine.flowTable.get handle = some conn)
    (split : ∀ addr, conn.entryMbufs.count addr =
      left.count addr + (change conn).entryMbufs.count addr) :
    Conserves engine ((engine.modifyConn handle change).releaseMbufs left) := by
  have refs : ∀ addr, ((engine.modifyConn handle change).releaseMbufs left).entryRefs addr +
      left.count addr = engine.entryRefs addr := by
    intro addr
    have exchanged := entryRefs_set engine handle present (change conn) addr
    have parts := split addr
    rw [releaseMbufs_only]
    unfold modifyConn FlowTable.modify
    rw [present]
    dsimp only [entryRefs] at exchanged ⊢
    omega
  constructor
  · intro addr
    have removed := refs addr
    rw [slack_releaseMbufs]
    rw [releaseMbufs_only] at removed
    dsimp only [slack, entryRefs, frameRefs, modifyConn] at removed ⊢
    omega
  · intro addr
    have removed := refs addr
    omega

theorem conserves_pruneAcked (newSndUna : Seq) (nowNs : ℕ) :
    Conserves engine (engine.pruneAcked handle newSndUna nowNs) := by
  dsimp only [pruneAcked]
  split
  · exact .refl engine
  · rename_i conn present
    have pruned : Conserves engine ((engine.modifyConn handle fun conn' =>
        { conn' with sndRetrans := conn.sndRetrans.pruneBelow newSndUna }).releaseMbufs
          ((conn.sndRetrans.prunedBelow newSndUna).map RetransEntry.mbuf)) := by
      apply conserves_releaseEntries engine handle present
      intro addr
      dsimp only [TcpConn.entryMbufs, SendRetrans.prunedBelow, SendRetrans.pruneBelow]
      rw [← List.count_append, ← List.map_append, List.takeWhile_append_dropWhile]
    generalize (engine.modifyConn handle _).releaseMbufs _ = freed at pruned ⊢
    split
    · split
      · exact (pruned.trans ((conserves_stopRto _ _).trans (conserves_stopTlp _ _))).trans
          ((conserves_stopRto _ _).trans (conserves_armRto _ _ _))
      · exact pruned.trans ((conserves_stopRto _ _).trans (conserves_armRto _ _ _))
    · split
      · exact pruned.trans ((conserves_stopRto _ _).trans (conserves_stopTlp _ _))
      · exact pruned

/-- The connection of a handle, if there is one, has no entries. -/
def Idle : Prop :=
  ∀ conn, engine.flowTable.get handle = some conn → conn.entryMbufs = []

variable {engine handle} in
theorem Idle.moved {after : Engine} (idle : engine.Idle handle)
    (moved : Moved (fun _ _ => False) engine after) : after.Idle handle := by
  intro conn' live
  rcases moved.conns handle conn' live with ⟨conn, present, kept⟩
  exact kept.entries.mbufs.trans (idle conn present)

variable {engine handle} in
theorem Idle.transitionConn (idle : engine.Idle handle) (target : TcpState) (nowNs : ℕ) :
    (engine.transitionConn handle target nowNs).Idle handle := by
  intro conn' live
  rcases transitionConn_conns engine handle target nowNs live with ⟨conn, present, kept, _⟩
  exact kept.entries.mbufs.trans (idle conn present)

/-- A connection without entries can be removed. -/
theorem conserves_remove (idle : engine.Idle handle) :
    Conserves engine { engine with flowTable := engine.flowTable.remove handle } := by
  cases present : engine.flowTable.get handle with
  | none =>
      have same : engine.flowTable.remove handle = engine.flowTable := by
        unfold FlowTable.remove
        rw [present]
      rw [same]
      exact .refl engine
  | some conn =>
      have refs : ∀ addr, ({ engine with flowTable := engine.flowTable.remove handle }
          : Engine).entryRefs addr = engine.entryRefs addr := by
        intro addr
        have exchanged := entryRefs_remove engine handle present addr
        rw [idle conn present, List.count_nil] at exchanged
        exact exchanged
      refine ⟨fun addr => ?_, fun addr => Nat.le_of_eq (refs addr)⟩
      unfold slack
      rw [refs]
      rfl

theorem conserves_dropConn (idle : engine.Idle handle) :
    Conserves engine (engine.dropConn handle) :=
  (conserves_remove engine handle idle).trans (.of_same rfl rfl rfl rfl)

theorem conserves_removeConn (idle : engine.Idle handle) :
    Conserves engine (engine.removeConn handle) := by
  dsimp only [removeConn]
  split
  · exact .refl engine
  · rename_i conn _
    exact (conserves_cancelTimers engine conn.allTimerIds).trans (conserves_dropConn _ handle
      (idle.moved (cancelTimers_moved engine conn.allTimerIds)))

/-- `force_close_etimedout` releases the entries of the connection it removes. -/
theorem conserves_forceCloseEtimedout (nowNs : ℕ) :
    Conserves engine (engine.forceCloseEtimedout handle nowNs) := by
  dsimp only [forceCloseEtimedout]
  split
  · exact .refl engine
  · rename_i conn present
    let emptied : TcpConn → TcpConn := fun conn =>
      { conn with
        timerIds := []
        rtoTimerId := none
        tlpTimerId := none
        synRetransTimerId := none
        sndRetrans := ⟨[]⟩ }
    have freed : Conserves engine ((engine.modifyConn handle emptied).releaseMbufs
        conn.entryMbufs) :=
      conserves_releaseEntries engine handle present fun addr => rfl
    have idle : ((engine.modifyConn handle emptied).releaseMbufs conn.entryMbufs).Idle handle := by
      intro conn' live
      rw [releaseMbufs_only] at live
      dsimp only [modifyConn] at live
      rw [FlowTable.get_modify, if_pos rfl, present, Option.map_some] at live
      rw [← Option.some.inj live]
      rfl
    have closed := (idle.moved (cancelTimers_moved _ conn.allTimerIds)).transitionConn .closed
      nowNs
    refine .trans ?_ (conserves_dropConn _ handle closed)
    refine .trans ?_ ((conserves_pushEvent _ _).trans (conserves_pushEvent _ _))
    exact freed.trans ((conserves_cancelTimers _ _).trans (conserves_transitionConn _ _ _ _))

/-! ### Retransmissions -/

/-- The pool has the buffer it hands out, if there is one. -/
def handsOutFree (mbuf : Option ℕ) : Bool :=
  mbuf.all fun addr => (engine.mbufs addr).refcnt = 0

/-- The header buffer of a retransmission is free when it is allocated. -/
def retransmitFree (env : RetransmitEnv) : Bool :=
  (engine.drainTxPendingData env.sent).handsOutFree env.hdrMbuf

section Retransmit

variable {conn : TcpConn} {entry : RetransEntry} {env : RetransmitEnv}

variable {engine handle} in
/-- A prepared retransmission holds the header buffer and the data buffer once more. -/
theorem slack_prepared {hdrMbuf : ℕ} (free : (engine.mbufs hdrMbuf).refcnt = 0) (optionsNs : ℕ)
    (header : List UInt8) (addr : ℕ) :
    (engine.prepared conn entry optionsNs hdrMbuf header).slack addr =
      engine.slack addr + [hdrMbuf].count addr + [entry.mbuf].count addr := by
  dsimp only [prepared]
  rw [slack_holdMbuf, slack_stripHeader, writeRetransHeader, slack_writeMbuf,
    slack_allocMbuf engine hdrMbuf addr free]

variable {engine handle} in
theorem FailedTo.slack {after : Engine} (failed : engine.FailedTo handle conn entry env after)
    (free : engine.handsOutFree env.hdrMbuf = true) (addr : ℕ) :
    after.slack addr = engine.slack addr := by
  cases failed with
  | alloc none => exact (conserves_pushEvent _ _).slack addr
  | build hdrMbuf some =>
      rw [handsOutFree, some, Option.all_some, decide_eq_true_iff] at free
      refine ((conserves_pushEvent _ _).slack addr).trans ?_
      rw [slack_releaseMbuf, slack_allocMbuf engine hdrMbuf addr free]
      omega
  | chain hdrMbuf some header =>
      rw [handsOutFree, some, Option.all_some, decide_eq_true_iff] at free
      refine ((conserves_pushEvent _ _).slack addr).trans ?_
      rw [slack_releaseMbuf, slack_releaseMbuf, slack_prepared free]
      omega

theorem entryMbufs_resent (conn : TcpConn) (index nowNs : ℕ) :
    (conn.resent index nowNs).entryMbufs = conn.entryMbufs :=
  (kept_resent conn index nowNs).entries.mbufs

theorem conserves_retransmitEntry (index : ℕ) (free : engine.handsOutFree env.hdrMbuf = true)
    (mbuf : entry.mbuf ≠ 0) :
    Conserves engine (engine.retransmitEntry handle index conn entry env) := by
  cases transmitted : engine.transmits conn entry env with
  | false =>
      have failed := retransmitEntry_of_not_transmits handle index mbuf transmitted
      exact conserves_of_flowTable failed.change.1.flowTable (failed.slack free)
  | true =>
      rcases retransmitEntry_of_transmits handle index transmitted with
        ⟨hdrMbuf, header, some, _, sent⟩
      rw [handsOutFree, some, Option.all_some, decide_eq_true_iff] at free
      rw [sent]
      refine .trans ?_ (conserves_modifyConn _ handle fun conn => entryMbufs_resent conn index _)
      refine conserves_of_flowTable
        ((prepared_change engine conn entry _ hdrMbuf header).trans
          (pushTxPendingData_change _ _ _)).flowTable ?_
      intro addr
      have split : [hdrMbuf, entry.mbuf].count addr =
          [hdrMbuf].count addr + [entry.mbuf].count addr := by
        rw [← List.count_append]
        rfl
      rw [slack_pushTxPendingData, slack_prepared free, split]
      omega

theorem conserves_retransmit (index : ℕ) (free : engine.retransmitFree env = true) :
    Conserves engine (engine.retransmit handle index env) := by
  have drained := conserves_drainTxPendingData engine env.sent
  dsimp only [retransmit]
  split
  · exact drained
  · split
    · exact drained
    · rename_i conn _ _ entry _
      have looked : Conserves (engine.drainTxPendingData env.sent)
          ((engine.drainTxPendingData env.sent).recordPick ⟨handle, entry, conn.sndUna⟩) :=
        .of_same rfl rfl rfl rfl
      split
      · exact drained.trans looked
      · rename_i mbuf
        exact (drained.trans looked).trans
          (conserves_retransmitEntry _ handle index free mbuf)

end Retransmit

/-- The header buffers of the calls of `retransmit` are free when they are allocated. -/
def retransmitAllFree (engine : Engine) (handle : ConnHandle) (envs : ℕ → RetransmitEnv) :
    List ℕ → Bool
  | [] => true
  | index :: rest =>
      engine.retransmitFree (envs 0) &&
        (engine.retransmit handle index (envs 0)).retransmitAllFree handle
          (fun turn => envs (turn + 1)) rest

/-- A RACK pass takes its headers from free buffers. -/
def rackLostFree (engine : Engine) (handle : ConnHandle) (envs : ℕ → RetransmitEnv) :
    List ℕ → Bool
  | [] => true
  | index :: rest =>
      engine.retransmitFree (envs 0) &&
        (engine.retransmitRackLost handle envs [index]).rackLostFree handle
          (fun turn => envs (turn + 1)) rest

theorem conserves_retransmitAll (envs : ℕ → RetransmitEnv) (indexes : List ℕ)
    (free : engine.retransmitAllFree handle envs indexes = true) :
    Conserves engine (engine.retransmitAll handle envs indexes) := by
  induction indexes generalizing engine envs with
  | nil => exact .refl engine
  | cons index rest ih =>
      rcases Bool.and_eq_true_iff.mp free with ⟨now, later⟩
      exact (conserves_retransmit engine handle index now).trans (ih _ _ later)

theorem conserves_retransmitRackLost (envs : ℕ → RetransmitEnv) (indexes : List ℕ)
    (free : engine.rackLostFree handle envs indexes = true) :
    Conserves engine (engine.retransmitRackLost handle envs indexes) := by
  induction indexes generalizing engine envs with
  | nil => exact .refl engine
  | cons index rest ih =>
      rcases Bool.and_eq_true_iff.mp free with ⟨now, later⟩
      have first : Conserves engine (engine.retransmitRackLost handle envs [index]) := by
        simp only [retransmitRackLost]
        refine (conserves_retransmit engine handle index now).trans ?_
        split
        · exact (conserves_reportRetrans _ _ _ _).trans (conserves_pushEvent _ _)
        · exact .refl _
      exact first.trans (ih _ _ later)

end Engine

end DpdkTcp
