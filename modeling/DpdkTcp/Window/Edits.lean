import DpdkTcp.Send.Step

/-!
# What the engine does around a dispatch

Outside `dispatch`, `deliver_readable` and the insertion of a new connection,
the engine only changes a connection beside its receive side, removes one, or
reports an event that shows no data. `Edits` is the closure of these
changes, and every call is shown to be made of them.
-/

namespace DpdkTcp

/-- The receive side of a connection is untouched. -/
structure SameReceiver (before after : TcpConn) : Prop where
  fourTuple : after.fourTuple = before.fourTuple
  irs : after.irs = before.irs
  rcvNxt : after.rcvNxt = before.rcvNxt
  rcvWnd : after.rcvWnd = before.rcvWnd
  wsShiftOut : after.wsShiftOut = before.wsShiftOut
  recv : after.recv = before.recv
  deliveredSegments : after.deliveredSegments = before.deliveredSegments

theorem SameReceiver.refl (conn : TcpConn) : SameReceiver conn conn :=
  ⟨rfl, rfl, rfl, rfl, rfl, rfl, rfl⟩

theorem SameReceiver.trans {first second third : TcpConn} (left : SameReceiver first second)
    (right : SameReceiver second third) : SameReceiver first third :=
  ⟨right.fourTuple.trans left.fourTuple, right.irs.trans left.irs,
    right.rcvNxt.trans left.rcvNxt, right.rcvWnd.trans left.rcvWnd,
    right.wsShiftOut.trans left.wsShiftOut, right.recv.trans left.recv,
    right.deliveredSegments.trans left.deliveredSegments⟩

namespace Engine

/-- The changes that leave receive sides and data events alone. References to
received buffers are dropped with the connections and events that hold them. -/
inductive Edits : Engine → Engine → Prop where
  | same {before after : Engine} (cfg : after.cfg = before.cfg)
      (flowTable : after.flowTable = before.flowTable) (events : after.events = before.events)
      (rxRefs : after.rxRefs = before.rxRefs) : Edits before after
  | push {before : Engine} (event : InternalEvent) (silent : event.isReadable = false) :
      Edits before (before.pushEvent event)
  | modify {before : Engine} (handle : ConnHandle) (change : TcpConn → TcpConn)
      (keeps : ∀ conn, SameReceiver conn (change conn)) :
      Edits before (before.modifyConn handle change)
  | remove {before : Engine} (handle : ConnHandle) :
      Edits before (before.dropConn handle)
  | trans {first second third : Engine} (left : Edits first second)
      (right : Edits second third) : Edits first third

namespace Edits

theorem refl (engine : Engine) : Edits engine engine :=
  .same rfl rfl rfl rfl

variable {before after : Engine}

theorem cfg_eq (edits : Edits before after) : after.cfg = before.cfg := by
  induction edits with
  | same cfg => exact cfg
  | push | modify | remove => rfl
  | trans _ _ left right => exact right.trans left

/-- A connection that is there afterwards was there before, with the same receive side. -/
theorem conns (edits : Edits before after) {handle : ConnHandle} {conn' : TcpConn}
    (live : after.flowTable.get handle = some conn') :
    ∃ conn, before.flowTable.get handle = some conn ∧ SameReceiver conn conn' := by
  induction edits generalizing conn' with
  | same _ flowTable _ _ =>
      rw [flowTable] at live
      exact ⟨conn', live, SameReceiver.refl conn'⟩
  | push => exact ⟨conn', live, SameReceiver.refl conn'⟩
  | modify target change keeps =>
      rw [modifyConn, FlowTable.get_modify] at live
      split at live
      · rename_i same
        rcases Option.map_eq_some_iff.mp live with ⟨conn, present, rfl⟩
        exact ⟨conn, same ▸ present, keeps conn⟩
      · exact ⟨conn', live, SameReceiver.refl conn'⟩
  | remove target =>
      rw [dropConn, FlowTable.get_remove] at live
      split at live
      · cases live
      · exact ⟨conn', live, SameReceiver.refl conn'⟩
  | trans _ _ left right =>
      rcases right live with ⟨middle, present, later⟩
      rcases left present with ⟨conn, present, earlier⟩
      exact ⟨conn, present, earlier.trans later⟩

end Edits

variable (engine : Engine) (handle : ConnHandle)

/-! ### Transmission and timers -/

theorem releaseMbufs_edits (addrs : List ℕ) : Edits engine (engine.releaseMbufs addrs) := by
  rw [releaseMbufs_only]
  exact .same rfl rfl rfl rfl

theorem cancelTimers_edits (ids : List TimerId) : Edits engine (engine.cancelTimers ids) := by
  rw [cancelTimers_only]
  exact .same rfl rfl rfl rfl

theorem drainTxPendingData_edits (sent : ℕ) : Edits engine (engine.drainTxPendingData sent) := by
  refine .trans ?_ (releaseMbufs_edits _ _)
  exact .same rfl rfl rfl rfl

theorem pushTxPendingData_edits (frame : TxFrame) (sent : ℕ) :
    Edits engine (engine.pushTxPendingData frame sent) := by
  unfold pushTxPendingData
  split
  · exact .same rfl rfl rfl rfl
  · refine .trans (drainTxPendingData_edits engine sent) ?_
    exact .same rfl rfl rfl rfl

theorem armRto_edits (nowNs : ℕ) : Edits engine (engine.armRto handle nowNs) := by
  dsimp only [armRto]
  split
  · exact .refl engine
  · split
    · refine .trans ?_ (.modify handle _ fun conn => ?_)
      · exact .same rfl rfl rfl rfl
      · exact ⟨rfl, rfl, rfl, rfl, rfl, rfl, rfl⟩
    · exact .refl engine

theorem armTlpPto_edits (nowNs : ℕ) : Edits engine (engine.armTlpPto handle nowNs) := by
  dsimp only [armTlpPto]
  split
  · exact .refl engine
  · split
    · refine .trans ?_ (.modify handle _ fun conn => ?_)
      · exact .same rfl rfl rfl rfl
      · exact ⟨rfl, rfl, rfl, rfl, rfl, rfl, rfl⟩
    · exact .refl engine

theorem armSynRetrans_edits (nowNs delayUs : ℕ) :
    Edits engine (engine.armSynRetrans handle nowNs delayUs) := by
  refine .trans ?_ (.modify handle _ fun conn => ?_)
  · exact .same rfl rfl rfl rfl
  · exact ⟨rfl, rfl, rfl, rfl, rfl, rfl, rfl⟩

theorem stopRto_edits : Edits engine (engine.stopRto handle) := by
  unfold stopRto
  split
  · exact .refl engine
  · refine .trans ?_ (.modify handle _ fun conn => ?_)
    · exact .same rfl rfl rfl rfl
    · exact ⟨rfl, rfl, rfl, rfl, rfl, rfl, rfl⟩

theorem stopTlp_edits : Edits engine (engine.stopTlp handle) := by
  unfold stopTlp
  split
  · exact .refl engine
  · refine .trans ?_ (.modify handle _ fun conn => ?_)
    · exact .same rfl rfl rfl rfl
    · exact ⟨rfl, rfl, rfl, rfl, rfl, rfl, rfl⟩

theorem transitionConn_edits (target : TcpState) (nowNs : ℕ) :
    Edits engine (engine.transitionConn handle target nowNs) := by
  dsimp only [transitionConn]
  split
  · exact .refl engine
  · split
    · exact .refl engine
    · refine .trans (.modify handle _ fun conn => ?_) (.push _ rfl)
      exact ⟨rfl, rfl, rfl, rfl, rfl, rfl, rfl⟩

theorem removeConn_edits : Edits engine (engine.removeConn handle) := by
  dsimp only [removeConn]
  split
  · exact .refl engine
  · exact .trans (cancelTimers_edits _ _) (.remove handle)

theorem reportRetrans_edits (index nowNs : ℕ) :
    Edits engine (engine.reportRetrans handle index nowNs) := by
  unfold reportRetrans
  split
  · exact .refl engine
  · split
    · exact .refl engine
    · exact .push _ rfl

theorem stripHeader_edits (addr len : ℕ) : Edits engine (engine.stripHeader addr len) := by
  unfold stripHeader adjMbuf
  split
  · split
    · exact .refl engine
    · exact .same rfl rfl rfl rfl
  · exact .refl engine

theorem retransmitEntry_edits (index : ℕ) (conn : TcpConn) (entry : RetransEntry)
    (env : RetransmitEnv) : Edits engine (engine.retransmitEntry handle index conn entry env) := by
  dsimp only [retransmitEntry]
  split
  · exact .push _ rfl
  · rename_i hdrMbuf _
    have refused : Edits engine
        (((engine.allocMbuf hdrMbuf).releaseMbuf hdrMbuf).retransmitError handle env.errorNs) := by
      refine .trans ?_ (.push _ rfl)
      exact .same rfl rfl rfl rfl
    split
    · exact refused
    · rename_i header _
      split
      · exact refused
      · have stripped : Edits engine (((engine.allocMbuf hdrMbuf).writeRetransHeader conn entry
            env.optionsNs hdrMbuf header).stripHeader entry.mbuf
              ((engine.allocMbuf hdrMbuf).liveHdrsLen entry)) := by
          refine .trans ?_ (stripHeader_edits _ entry.mbuf _)
          exact .same rfl rfl rfl rfl
        generalize Engine.stripHeader _ entry.mbuf _ = strippedEngine at stripped ⊢
        have held : Edits engine (strippedEngine.holdMbuf entry.mbuf) :=
          .trans stripped (.same rfl rfl rfl rfl)
        split
        · refine .trans (.trans held ?_) (.push _ rfl)
          exact .same rfl rfl rfl rfl
        · refine .trans (.trans held (pushTxPendingData_edits _ _ _)) (.modify handle _ ?_)
          exact fun conn => ⟨rfl, rfl, rfl, rfl, rfl, rfl, rfl⟩

theorem retransmit_edits (index : ℕ) (env : RetransmitEnv) :
    Edits engine (engine.retransmit handle index env) := by
  dsimp only [retransmit]
  have drained := drainTxPendingData_edits engine env.sent
  split
  · exact drained
  · split
    · exact drained
    · rename_i conn _ _ entry _
      have looked : Edits (engine.drainTxPendingData env.sent)
          ((engine.drainTxPendingData env.sent).recordPick ⟨handle, entry, conn.sndUna⟩) :=
        .same rfl rfl rfl rfl
      split
      · exact .trans drained looked
      · exact .trans (.trans drained looked) (retransmitEntry_edits _ handle index conn entry env)

theorem retransmitAll_edits (envs : ℕ → RetransmitEnv) (indexes : List ℕ) :
    Edits engine (engine.retransmitAll handle envs indexes) := by
  induction indexes generalizing engine envs with
  | nil => exact .refl engine
  | cons index rest ih => exact .trans (retransmit_edits engine handle index _) (ih _ _)

/-! ### Handlers of fired timers -/

theorem forceCloseEtimedout_edits (nowNs : ℕ) :
    Edits engine (engine.forceCloseEtimedout handle nowNs) := by
  dsimp only [forceCloseEtimedout]
  split
  · exact .refl engine
  · refine .trans (.trans (.trans (.trans (.trans (.trans (.modify handle _ fun conn => ?_)
      (releaseMbufs_edits _ _)) (cancelTimers_edits _ _)) (transitionConn_edits _ _ _ _))
        (.push _ rfl)) (.push _ rfl)) (.remove handle)
    exact ⟨rfl, rfl, rfl, rfl, rfl, rfl, rfl⟩

theorem reportRto_edits (chosen : List ℕ) (eventNs : ℕ) :
    Edits engine (engine.reportRto handle chosen eventNs) := by
  have reported : ∀ (chosen : List ℕ) (engine : Engine), Edits engine
      (chosen.foldl (fun engine index => engine.reportRetrans handle index eventNs) engine) := by
    intro chosen
    induction chosen with
    | nil => exact .refl
    | cons index rest ih =>
        exact fun engine => .trans (reportRetrans_edits engine handle index eventNs) (ih _)
  unfold reportRto
  split
  · exact .trans (reported chosen engine) (.push _ rfl)
  · exact .refl engine

theorem rearmOrGiveUp_edits (noBackoff : Bool) (env : RtoEnv) :
    Edits engine (engine.rearmOrGiveUp handle noBackoff env) := by
  dsimp only [rearmOrGiveUp]
  split
  · exact forceCloseEtimedout_edits engine handle env.closeNs
  · refine .trans ?_ (armRto_edits _ handle env.timerNs)
    split
    · exact .refl engine
    · exact .modify handle _ fun conn => ⟨rfl, rfl, rfl, rfl, rfl, rfl, rfl⟩

theorem onRtoFire_edits (firedId : TimerId) (env : RtoEnv) :
    Edits engine (engine.onRtoFire handle firedId env) := by
  dsimp only [onRtoFire]
  split
  · exact .refl engine
  · split
    · exact .refl engine
    · have cleared : Edits engine (engine.modifyConn handle fun conn =>
          { conn.withoutTimer firedId with rtoTimerId := none }) :=
        .modify handle _ fun conn => ⟨rfl, rfl, rfl, rfl, rfl, rfl, rfl⟩
      split
      · exact cleared
      · refine .trans (.trans (.trans (.trans cleared ?_) (retransmitAll_edits _ handle _ _))
          (reportRto_edits _ handle _ _)) (rearmOrGiveUp_edits _ handle _ env)
        exact .modify handle _ fun conn => ⟨rfl, rfl, rfl, rfl, rfl, rfl, rfl⟩

theorem onTlpFire_edits (firedId : TimerId) (env : RetransmitEnv) (nowNs : ℕ) :
    Edits engine (engine.onTlpFire handle firedId env nowNs) := by
  dsimp only [onTlpFire]
  split
  · exact .refl engine
  · split
    · exact .refl engine
    · rename_i conn _ _
      have cleared : Edits engine (engine.modifyConn handle fun conn =>
          { conn.withoutTimer firedId with tlpTimerId := none }) :=
        .modify handle _ fun conn => ⟨rfl, rfl, rfl, rfl, rfl, rfl, rfl⟩
      split
      · exact cleared
      · generalize recorded_eq : Engine.modifyConn (Engine.retransmit _ handle _ env) handle _ =
          recordedEngine
        have recorded : Edits engine recordedEngine := by
          rw [← recorded_eq]
          refine .trans (.trans cleared (retransmit_edits _ handle _ env))
            (.modify handle _ fun after => ?_)
          split
          · exact ⟨rfl, rfl, rfl, rfl, rfl, rfl, rfl⟩
          · exact SameReceiver.refl after
        split
        · exact .trans (.trans recorded (reportRetrans_edits _ handle _ nowNs)) (.push _ rfl)
        · exact recorded

theorem onSynRetransFire_edits (firedId : TimerId) (nowNs : ℕ) :
    Edits engine (engine.onSynRetransFire handle firedId nowNs) := by
  dsimp only [onSynRetransFire]
  split
  · exact .refl engine
  · split
    · exact .refl engine
    · have cleared : Edits engine (engine.modifyConn handle fun conn =>
          { conn.withoutTimer firedId with synRetransTimerId := none }) :=
        .modify handle _ fun conn => ⟨rfl, rfl, rfl, rfl, rfl, rfl, rfl⟩
      split
      · exact cleared
      · rename_i conn _ _ _
        have counted := Edits.trans cleared (.modify handle (fun after =>
          { after with synRetransCount := min (conn.synRetransCount + 1) 255 })
          fun after => ⟨rfl, rfl, rfl, rfl, rfl, rfl, rfl⟩)
        split
        · exact .trans counted (forceCloseEtimedout_edits _ handle nowNs)
        · exact .trans counted (armSynRetrans_edits _ handle nowNs _)

theorem fireTimer_edits (id : TimerId) (node : TimerNode) (env : FireEnv) :
    Edits engine (engine.fireTimer id node env) := by
  unfold fireTimer
  split
  · exact onRtoFire_edits engine _ id env.rto
  · exact onTlpFire_edits engine _ id env.tlp env.nowNs
  · exact onSynRetransFire_edits engine _ id env.nowNs
  · exact .push _ rfl

theorem reapTimeWait_edits (nowNs : ℕ) : Edits engine (engine.reapTimeWait nowNs) := by
  have reaped : ∀ (candidates : List ConnHandle) (engine : Engine), Edits engine
      (candidates.foldl (fun engine handle => engine.reap handle nowNs) engine) := by
    intro candidates
    induction candidates with
    | nil => exact .refl
    | cons handle rest ih =>
        intro engine
        exact .trans (.trans (.trans (transitionConn_edits engine handle _ nowNs) (.push _ rfl))
          (removeConn_edits _ handle)) (ih _)
  exact reaped _ engine

/-! ### Sending and closing -/

theorem stashEntry_edits (entry : RetransEntry) :
    Edits engine (engine.stashEntry handle entry) := by
  have stashed : Edits engine (engine.modifyConn handle fun conn =>
      { conn with sndRetrans := conn.sndRetrans.pushAfterTx entry }) :=
    .modify handle _ fun conn => ⟨rfl, rfl, rfl, rfl, rfl, rfl, rfl⟩
  dsimp only [stashEntry]
  split
  · split
    · exact .trans stashed (armRto_edits _ handle _)
    · exact stashed
  · exact stashed

theorem sendSegment_edits (conn : TcpConn) (mssCap : ℕ) (env : SendEnv) (sending : Sending) :
    Edits sending.engine (sendSegment conn handle mssCap env sending).ended.engine := by
  dsimp only [sendSegment]
  split
  · exact .refl _
  · split
    · exact .refl _
    · split
      · exact .same rfl rfl rfl rfl
      · refine .trans (.trans ?_ (pushTxPendingData_edits _ _ _)) (stashEntry_edits _ handle _)
        exact .same rfl rfl rfl rfl

theorem sendSegments_edits (conn : TcpConn) (mssCap turns : ℕ) (envs : ℕ → SendEnv)
    (sending : Sending) :
    Edits sending.engine (sendSegments conn handle mssCap turns envs sending).ended.engine := by
  induction turns generalizing envs sending with
  | zero => exact .refl _
  | succ turns ih =>
      dsimp only [sendSegments]
      split
      · exact .refl _
      · have turn := sendSegment_edits handle conn mssCap (envs 0) sending
        split
        · rename_i next sent
          rw [sent] at turn
          exact .trans turn (ih _ next)
        · exact turn

theorem finishSend_edits (sending : Sending) (wanted tlpNs : ℕ) :
    Edits sending.engine (finishSend sending handle wanted tlpNs) := by
  dsimp only [finishSend]
  have advanced : Edits sending.engine (sending.engine.modifyConn handle fun conn =>
      { conn with
        sndNxt := sending.curSeq
        sendRefusedPending :=
          if sending.accepted < wanted % 4294967296 then true else conn.sendRefusedPending }) :=
    .modify handle _ fun conn => ⟨rfl, rfl, rfl, rfl, rfl, rfl, rfl⟩
  split
  · exact .trans advanced (armTlpPto_edits _ handle tlpNs)
  · exact advanced

theorem sendBytes_edits (bytes : List UInt8) (envs : ℕ → SendEnv) (tlpNs : ℕ) :
    Edits engine (engine.sendBytes handle bytes envs tlpNs).1 := by
  dsimp only [sendBytes]
  split
  · exact .refl engine
  · rename_i conn _
    split
    · exact .refl engine
    · have looped := sendSegments_edits handle conn (engine.mssCap conn)
        ((engine.admitted conn bytes).length + 1) envs
        ⟨engine, engine.admitted conn bytes, 0, conn.sndNxt⟩
      split
      · rename_i sending ended
        rw [ended] at looped
        split
        · exact looped
        · exact .trans looped (finishSend_edits handle sending _ tlpNs)
      · rename_i sending ended
        rw [ended] at looped
        exact .trans looped (finishSend_edits handle sending _ tlpNs)
      · rename_i sending ended
        rw [ended] at looped
        exact .trans looped (finishSend_edits handle sending _ tlpNs)

theorem closeConn_edits (finSent : Bool) (nowNs : ℕ) :
    Edits engine (engine.closeConn handle finSent nowNs) := by
  dsimp only [closeConn]
  split
  · exact .refl engine
  · split
    · exact .refl engine
    · split
      · exact .refl engine
      · refine .trans ?_ (transitionConn_edits _ handle _ nowNs)
        refine .trans ?_ (.modify handle _ fun conn => ?_)
        · exact .same rfl rfl rfl rfl
        · exact ⟨rfl, rfl, rfl, rfl, rfl, rfl, rfl⟩

theorem requestTwSkip_edits (nowNs : ℕ) : Edits engine (engine.requestTwSkip handle nowNs) := by
  unfold requestTwSkip
  split
  · exact .modify handle _ fun conn => ⟨rfl, rfl, rfl, rfl, rfl, rfl, rfl⟩
  · exact .push _ rfl

/-! ### Around a dispatch -/

theorem pruneAcked_edits (newSndUna : Seq) (nowNs : ℕ) :
    Edits engine (engine.pruneAcked handle newSndUna nowNs) := by
  dsimp only [pruneAcked]
  split
  · exact .refl engine
  · rename_i conn _
    have freed : Edits engine ((engine.modifyConn handle fun after =>
        { after with sndRetrans := conn.sndRetrans.pruneBelow newSndUna }).releaseMbufs
          ((conn.sndRetrans.prunedBelow newSndUna).map RetransEntry.mbuf)) := by
      refine .trans (.modify handle _ fun after => ?_) (releaseMbufs_edits _ _)
      exact ⟨rfl, rfl, rfl, rfl, rfl, rfl, rfl⟩
    generalize (engine.modifyConn handle fun after =>
        { after with sndRetrans := conn.sndRetrans.pruneBelow newSndUna }).releaseMbufs
          ((conn.sndRetrans.prunedBelow newSndUna).map RetransEntry.mbuf) = pruned at freed ⊢
    have stopped : Edits engine
        (if (conn.sndRetrans.pruneBelow newSndUna).isEmpty && conn.sndUna == conn.sndNxt then
          (pruned.stopRto handle).stopTlp handle
        else pruned) := by
      split
      · exact .trans (.trans freed (stopRto_edits _ handle)) (stopTlp_edits _ handle)
      · exact freed
    split
    · exact .trans (.trans stopped (stopRto_edits _ handle)) (armRto_edits _ handle nowNs)
    · exact stopped

theorem retransmitRackLost_edits (envs : ℕ → RetransmitEnv) (indexes : List ℕ) :
    Edits engine (engine.retransmitRackLost handle envs indexes) := by
  induction indexes generalizing engine envs with
  | nil => exact .refl engine
  | cons index rest ih =>
      have resent := retransmit_edits engine handle index (envs 0)
      refine .trans ?_ (ih _ _)
      split
      · exact .trans (.trans resent (reportRetrans_edits _ handle index _)) (.push _ rfl)
      · exact resent

theorem sendSideAfter_edits (outcome : Outcome) (env : InputEnv) :
    Edits engine (engine.sendSideAfter handle outcome env) := by
  dsimp only [sendSideAfter]
  have resent := retransmitRackLost_edits engine handle env.retransmits outcome.rackLostIndexes
  generalize armed_eq : Engine.armTlpPto _ handle env.nowNs = armedEngine
  have armed : Edits engine armedEngine := by
    rw [← armed_eq]
    refine .trans (.trans resent ?_) (armTlpPto_edits _ handle env.nowNs)
    split
    · exact pruneAcked_edits _ handle _ env.nowNs
    · exact .refl _
  split
  · refine .trans (.trans armed ?_) (.modify handle _ fun conn => ?_)
    · exact .same rfl rfl rfl rfl
    · exact ⟨rfl, rfl, rfl, rfl, rfl, rfl, rfl⟩
  · exact armed

theorem restartTimeWait_edits (outcome : Outcome) (nowNs : ℕ) :
    Edits engine (engine.restartTimeWait handle outcome nowNs) := by
  refine .modify handle _ fun conn => ?_
  split
  · exact ⟨rfl, rfl, rfl, rfl, rfl, rfl, rfl⟩
  · exact SameReceiver.refl conn

theorem answer_edits (tx : TxAction) (env : InputEnv) :
    Edits engine (engine.answer handle tx env) := by
  unfold answer
  split
  · exact .refl engine
  · unfold emitAck
    split
    · exact .modify handle _ fun conn => ⟨rfl, rfl, rfl, rfl, rfl, rfl, rfl⟩
    · exact .refl engine
  · exact transitionConn_edits engine handle _ env.nowNs
  · exact transitionConn_edits engine handle _ env.nowNs

theorem finishClosed_edits (outcome : Outcome) (env : InputEnv) :
    Edits engine (engine.finishClosed handle outcome env) := by
  dsimp only [finishClosed]
  split
  · have reported : Edits engine (engine.pushEvent (.closed handle 0 env.nowNs)) := .push _ rfl
    split
    · split
      · exact .trans reported (removeConn_edits _ handle)
      · exact reported
    · exact reported
  · exact .refl engine

/-- A processed segment: the dispatch, edits, the delivery of what is in order, edits. -/
theorem tcpInput_edits {conn : TcpConn} (present : engine.flowTable.get handle = some conn)
    (seg : ParsedSegment) (mbufCtx : Option MbufInsertCtx) (env : InputEnv)
    {dispatched : Dispatched}
    (processed : dispatched = dispatch conn seg env.clock engine.cfg.sendBufferBytes mbufCtx) :
    ∃ moved, Edits (engine.written handle mbufCtx dispatched) moved ∧
      Edits
        (if 0 < dispatched.outcome.delivered then
          moved.handOver handle dispatched.outcome.delivered env.rxHwTsNs env.nowNs
        else moved)
        (engine.tcpInput handle seg mbufCtx env) := by
  dsimp only [tcpInput]
  rw [present]
  dsimp only
  rw [← processed]
  have notified : Edits (engine.written handle mbufCtx dispatched)
      (if dispatched.outcome.writableHysteresisFired then
        (engine.written handle mbufCtx dispatched).pushEvent (.writable handle env.nowNs)
      else engine.written handle mbufCtx dispatched) := by
    split
    · exact .push _ rfl
    · exact .refl _
  have sent := Edits.trans notified (sendSideAfter_edits _ handle dispatched.outcome env)
  dsimp only [receiveSideAfter]
  have waited := Edits.trans sent (restartTimeWait_edits _ handle dispatched.outcome env.nowNs)
  generalize Engine.restartTimeWait _ handle dispatched.outcome env.nowNs = waitedEngine
    at waited ⊢
  generalize answered_eq : Engine.answer _ handle dispatched.outcome.tx env = answeredEngine
  have answered : Edits (engine.written handle mbufCtx dispatched) answeredEngine := by
    rw [← answered_eq]
    refine .trans ?_ (answer_edits _ handle dispatched.outcome.tx env)
    split
    · exact .trans waited (transitionConn_edits _ handle _ env.nowNs)
    · exact waited
  dsimp only [deliverEvents]
  have connected : Edits (engine.written handle mbufCtx dispatched)
      (if dispatched.outcome.connected then
        answeredEngine.pushEvent (.connected handle env.rxHwTsNs env.nowNs)
      else answeredEngine) := by
    split
    · exact .trans answered (.push _ rfl)
    · exact answered
  generalize (if dispatched.outcome.connected then
    answeredEngine.pushEvent (.connected handle env.rxHwTsNs env.nowNs)
      else answeredEngine) = connectedEngine at connected ⊢
  exact ⟨connectedEngine, connected, finishClosed_edits _ handle dispatched.outcome env⟩

end Engine

end DpdkTcp
