import DpdkTcp.Lib.Lanes
import DpdkTcp.Send.Contract

/-!
# What is handed to the driver

A data segment is handed over when the ring is drained, and a SYN or FIN as
soon as it is built. `Hands` tells for a call of the engine which segments are
given sequence numbers and join the ring; a retransmission only drains it.
-/

namespace DpdkTcp

namespace Engine

/-- The segments that are sent for the first time: those given sequence numbers, those
handed to the driver and those in the ring. -/
def desk (engine : Engine) : Lanes.Desk FirstSent :=
  ⟨engine.record.assigned, engine.record.offered, engine.txPendingData.filterMap TxFrame.first⟩

/-- The driver took no segment that it was not offered, and none before an earlier one. -/
def Taken (engine : Engine) : Prop :=
  engine.record.taken.Sublist engine.record.offered

/-- A change that gives sequence numbers to `news` and puts them on the ring, and opens no
connection. -/
structure Hands (news : List FirstSent) (before after : Engine) : Prop where
  opened : after.record.opened = before.record.opened
  advances : Lanes.Desk.Advances news before.desk after.desk
  taken : before.Taken → after.Taken

namespace Hands

variable {first second third : Engine} {news later : List FirstSent}

/-- The timers that were armed may differ. -/
theorem same
    (record : second.record = { first.record with armed := second.record.armed })
    (ring : second.txPendingData = first.txPendingData) : Hands [] first second := by
  have desk : second.desk = first.desk := by
    unfold desk
    rw [record, ring]
  refine ⟨by rw [record], by rw [desk]; exact .refl _, ?_⟩
  unfold Taken
  rw [record]
  exact id

theorem refl (engine : Engine) : Hands [] engine engine :=
  same rfl rfl

theorem push (engine : Engine) (event : InternalEvent) :
    Hands [] engine (engine.pushEvent event) :=
  same rfl rfl

theorem modify (engine : Engine) (handle : ConnHandle) (change : TcpConn → TcpConn) :
    Hands [] engine (engine.modifyConn handle change) :=
  same rfl rfl

theorem drop (engine : Engine) (handle : ConnHandle) : Hands [] engine (engine.dropConn handle) :=
  same rfl rfl

theorem trans (left : Hands news first second) (right : Hands later second third) :
    Hands (news ++ later) first third :=
  ⟨right.opened.trans left.opened, left.advances.trans right.advances,
    fun before => right.taken (left.taken before)⟩

/-- A change without news before another one. -/
theorem after (left : Hands [] first second) (right : Hands news second third) :
    Hands news first third :=
  left.trans right

/-- A change without news behind another one. -/
theorem quiet (left : Hands news first second) (right : Hands [] second third) :
    Hands news first third := by
  have both := left.trans right
  rwa [List.append_nil] at both

end Hands

variable (engine : Engine) (handle : ConnHandle)

/-! ### Transmission and timers -/

theorem releaseMbufs_hands (addrs : List ℕ) : Hands [] engine (engine.releaseMbufs addrs) := by
  rw [releaseMbufs_only]
  exact .same rfl rfl

theorem cancelTimers_hands (ids : List TimerId) : Hands [] engine (engine.cancelTimers ids) := by
  rw [cancelTimers_only]
  exact .same rfl rfl

theorem drainTxPendingData_hands (sent : ℕ) :
    Hands [] engine (engine.drainTxPendingData sent) := by
  unfold drainTxPendingData
  dsimp only
  refine .quiet ?_ (releaseMbufs_hands _ _)
  refine ⟨rfl, ⟨(List.append_nil _).symm, ?_⟩, fun before => ?_⟩
  · dsimp only [Lanes.Desk.queued, desk]
    rw [List.filterMap_nil]
  · exact before.append ((List.take_sublist _ _).filterMap _)

/-- The segment a frame sends for the first time joins the ring with it. -/
theorem pushTxPendingData_joins (frame : TxFrame) (sent : ℕ) {news : List FirstSent}
    (news_eq : news = frame.first.toList) :
    Hands news engine
      (({ engine with record :=
          { engine.record with assigned := engine.record.assigned ++ news } } :
        Engine).pushTxPendingData frame sent) := by
  have joins : ∀ given : Engine, given.desk.given = engine.desk.given ++ news →
      given.desk.queued = engine.desk.queued → given.record.opened = engine.record.opened →
      (engine.Taken → given.Taken) →
      Hands news engine { given with txPendingData := given.txPendingData ++ [frame] } := by
    intro given assigned queued opened taken
    have alone : [frame].filterMap TxFrame.first = news := by
      rw [news_eq]
      cases firstSent : frame.first <;> simp [firstSent]
    refine ⟨opened, ⟨assigned, ?_⟩, taken⟩
    rw [← queued]
    dsimp only [Lanes.Desk.queued, desk]
    rw [List.filterMap_append, alone, List.append_assoc]
  unfold pushTxPendingData
  split
  · exact joins _ rfl rfl rfl id
  · have drained := drainTxPendingData_hands { engine with record :=
      { engine.record with assigned := engine.record.assigned ++ news } } sent
    exact joins _ (drained.advances.given.trans (List.append_nil _))
      (drained.advances.queued.trans (List.append_nil _)) drained.opened drained.taken

theorem pushTxPendingData_hands (frame : TxFrame) (sent : ℕ) (again : frame.first = none) :
    Hands [] engine (engine.pushTxPendingData frame sent) := by
  have joins := pushTxPendingData_joins engine frame sent (by rw [again]; rfl : [] = _)
  rwa [List.append_nil] at joins

theorem armRto_hands (nowNs : ℕ) : Hands [] engine (engine.armRto handle nowNs) := by
  dsimp only [armRto]
  split
  · exact .refl engine
  · split
    · exact .same rfl rfl
    · exact .refl engine

theorem armTlpPto_hands (nowNs : ℕ) : Hands [] engine (engine.armTlpPto handle nowNs) := by
  dsimp only [armTlpPto]
  split
  · exact .refl engine
  · split
    · exact .same rfl rfl
    · exact .refl engine

theorem armSynRetrans_hands (nowNs delayUs : ℕ) :
    Hands [] engine (engine.armSynRetrans handle nowNs delayUs) :=
  .same rfl rfl

theorem stopRto_hands : Hands [] engine (engine.stopRto handle) := by
  unfold stopRto
  split
  · exact .refl engine
  · exact .same rfl rfl

theorem stopTlp_hands : Hands [] engine (engine.stopTlp handle) := by
  unfold stopTlp
  split
  · exact .refl engine
  · exact .same rfl rfl

theorem removeConn_hands : Hands [] engine (engine.removeConn handle) := by
  dsimp only [removeConn]
  split
  · exact .refl engine
  · exact .quiet (cancelTimers_hands _ _) (.drop _ handle)

theorem reportRetrans_hands (index nowNs : ℕ) :
    Hands [] engine (engine.reportRetrans handle index nowNs) := by
  unfold reportRetrans
  split
  · exact .refl engine
  · split
    · exact .refl engine
    · exact .push engine _

theorem stripHeader_hands (addr len : ℕ) : Hands [] engine (engine.stripHeader addr len) := by
  unfold stripHeader adjMbuf
  split
  · split
    · exact .refl engine
    · exact .same rfl rfl
  · exact .refl engine

theorem retransmitEntry_hands (index : ℕ) (conn : TcpConn) (entry : RetransEntry)
    (env : RetransmitEnv) : Hands [] engine (engine.retransmitEntry handle index conn entry env) := by
  dsimp only [retransmitEntry]
  split
  · exact .push engine _
  · rename_i hdrMbuf _
    have refused : Hands [] engine
        (((engine.allocMbuf hdrMbuf).releaseMbuf hdrMbuf).retransmitError handle env.errorNs) := by
      refine .after ?_ (.push _ _)
      exact .same rfl rfl
    split
    · exact refused
    · rename_i header _
      split
      · exact refused
      · have stripped : Hands [] engine (((engine.allocMbuf hdrMbuf).writeRetransHeader conn entry
            env.optionsNs hdrMbuf header).stripHeader entry.mbuf
              ((engine.allocMbuf hdrMbuf).liveHdrsLen entry)) := by
          refine .after ?_ (stripHeader_hands _ entry.mbuf _)
          exact .same rfl rfl
        generalize Engine.stripHeader _ entry.mbuf _ = strippedEngine at stripped ⊢
        have held : Hands [] engine (strippedEngine.holdMbuf entry.mbuf) :=
          .after stripped (.same rfl rfl)
        split
        · refine .after (.after held ?_) (.push _ _)
          exact .same rfl rfl
        · exact .after (.after held (pushTxPendingData_hands _ _ _ rfl)) (.modify _ handle _)

theorem retransmit_hands (index : ℕ) (env : RetransmitEnv) :
    Hands [] engine (engine.retransmit handle index env) := by
  dsimp only [retransmit]
  have drained := drainTxPendingData_hands engine env.sent
  split
  · exact drained
  · split
    · exact drained
    · rename_i conn _ _ entry _
      have looked : Hands [] (engine.drainTxPendingData env.sent)
          ((engine.drainTxPendingData env.sent).recordPick ⟨handle, entry, conn.sndUna⟩) :=
        .same rfl rfl
      split
      · exact .after drained looked
      · exact .after (.after drained looked) (retransmitEntry_hands _ handle index conn entry env)

theorem retransmitAll_hands (envs : ℕ → RetransmitEnv) (indexes : List ℕ) :
    Hands [] engine (engine.retransmitAll handle envs indexes) := by
  induction indexes generalizing engine envs with
  | nil => exact .refl engine
  | cons index rest ih => exact .after (retransmit_hands engine handle index _) (ih _ _)

theorem retransmitRackLost_hands (envs : ℕ → RetransmitEnv) (indexes : List ℕ) :
    Hands [] engine (engine.retransmitRackLost handle envs indexes) := by
  induction indexes generalizing engine envs with
  | nil => exact .refl engine
  | cons index rest ih =>
      have resent := retransmit_hands engine handle index (envs 0)
      refine .after ?_ (ih _ _)
      split
      · exact .after (.after resent (reportRetrans_hands _ handle index _)) (.push _ _)
      · exact resent

theorem reportRto_hands (chosen : List ℕ) (eventNs : ℕ) :
    Hands [] engine (engine.reportRto handle chosen eventNs) := by
  have reported : ∀ (chosen : List ℕ) (engine : Engine), Hands [] engine
      (chosen.foldl (fun engine index => engine.reportRetrans handle index eventNs) engine) := by
    intro chosen
    induction chosen with
    | nil => exact .refl
    | cons index rest ih =>
        intro engine
        exact .after (reportRetrans_hands engine handle index eventNs) (ih _)
  unfold reportRto
  split
  · exact .after (reported chosen engine) (.push _ _)
  · exact .refl engine

theorem onTlpFire_hands (firedId : TimerId) (env : RetransmitEnv) (nowNs : ℕ) :
    Hands [] engine (engine.onTlpFire handle firedId env nowNs) := by
  dsimp only [onTlpFire]
  split
  · exact .refl engine
  · split
    · exact .refl engine
    · rename_i conn _ _
      have cleared : Hands [] engine (engine.modifyConn handle fun conn =>
          { conn.withoutTimer firedId with tlpTimerId := none }) :=
        .same rfl rfl
      split
      · exact cleared
      · generalize recorded_eq : Engine.modifyConn (Engine.retransmit _ handle _ env) handle _ =
          recordedEngine
        have recorded : Hands [] engine recordedEngine := by
          rw [← recorded_eq]
          exact .quiet (.after cleared (retransmit_hands _ handle _ env)) (.modify _ handle _)
        split
        · exact .after (.after recorded (reportRetrans_hands _ handle _ nowNs)) (.push _ _)
        · exact recorded

/-! ### Sending -/

theorem stashEntry_hands (entry : RetransEntry) :
    Hands [] engine (engine.stashEntry handle entry) := by
  have stashed : Hands [] engine (engine.modifyConn handle fun conn =>
      { conn with sndRetrans := conn.sndRetrans.pushAfterTx entry }) :=
    .same rfl rfl
  dsimp only [stashEntry]
  split
  · split
    · exact .after stashed (armRto_hands _ handle _)
    · exact stashed
  · exact stashed

/-- A turn of the loop hands the segment it built to the ring. -/
theorem sendSegment_hands {conn : TcpConn} {mssCap : ℕ} {env : SendEnv} {sending next : Sending}
    (sent : sendSegment conn handle mssCap env sending = .sent next) :
    Hands [sending.engine.segmentAssigned handle (dataSegment conn mssCap env sending)]
      sending.engine next.engine := by
  have taken : (dataSegment conn mssCap env sending).payload.length =
      min sending.rest.length mssCap := by
    dsimp only [dataSegment, segmentTx]
    rw [List.length_take]
    omega
  rw [segmentAssigned, taken]
  dsimp only [sendSegment] at sent
  split at sent
  · cases sent
  · split at sent
    · cases sent
    · rename_i mbuf _
      split at sent
      · cases sent
      · cases sent
        refine .quiet ?_ (stashEntry_hands _ handle _)
        refine .after ?_ (pushTxPendingData_joins _ _ _ rfl)
        exact .same rfl rfl

theorem sendSegments_hands (conn : TcpConn) (mssCap turns : ℕ) (envs : ℕ → SendEnv)
    (sending : Sending) :
    Hands ((sendCuts conn handle mssCap turns envs sending).map
        (sending.engine.segmentAssigned handle))
      sending.engine (sendSegments conn handle mssCap turns envs sending).ended.engine := by
  induction turns generalizing envs sending with
  | zero => exact .refl _
  | succ turns ih =>
      dsimp only [sendSegments, sendCuts]
      split
      · exact .refl _
      · cases ends : sendSegment conn handle mssCap (envs 0) sending with
        | stopped next =>
            have turned := sendSegment_turned handle conn mssCap (envs 0) sending
            rw [ends] at turned
            cases turned
            exact .refl _
        | noMem next =>
            dsimp only [sendSegment] at ends
            split at ends
            · cases ends
            · split at ends
              · cases ends
                exact .refl _
              · split at ends <;> cases ends
                exact .same rfl rfl
        | sent next =>
            have turn := sendSegment_hands handle ends
            have same : next.engine.segmentAssigned handle =
                sending.engine.segmentAssigned handle := by
              funext seg
              rw [segmentAssigned, segmentAssigned, firstSent, firstSent, Record.incarnation,
                Record.incarnation, turn.opened]
            have more := ih (fun turn => envs (turn + 1)) next
            rw [same] at more
            exact turn.trans more

theorem finishSend_hands (sending : Sending) (wanted tlpNs : ℕ) :
    Hands [] sending.engine (finishSend sending handle wanted tlpNs) := by
  dsimp only [finishSend]
  split
  · refine .after ?_ (armTlpPto_hands _ handle tlpNs)
    exact .same rfl rfl
  · exact .same rfl rfl

/-- A call of `send_bytes` hands the segments it cuts to the ring. -/
theorem sendBytes_hands (bytes : List UInt8) (envs : ℕ → SendEnv) (tlpNs : ℕ) :
    Hands ((engine.dataSegments handle bytes envs).map (engine.segmentAssigned handle)) engine
      (engine.sendBytes handle bytes envs tlpNs).1 := by
  dsimp only [sendBytes, dataSegments]
  cases engine.flowTable.get handle with
  | none => exact .refl engine
  | some conn =>
      dsimp only
      by_cases running : conn.state ≠ .established
      · rw [if_pos running, if_pos running]
        exact .refl engine
      rw [if_neg running, if_neg running]
      have looped := sendSegments_hands handle conn (engine.mssCap conn)
        ((engine.admitted conn bytes).length + 1) envs
        ⟨engine, engine.admitted conn bytes, 0, conn.sndNxt⟩
      cases ends : sendSegments conn handle (engine.mssCap conn)
          ((engine.admitted conn bytes).length + 1) envs
          ⟨engine, engine.admitted conn bytes, 0, conn.sndNxt⟩ with
      | noMem sending =>
          rw [ends] at looped
          dsimp only
          split
          · exact looped
          · exact looped.quiet (finishSend_hands handle sending _ tlpNs)
      | stopped sending =>
          rw [ends] at looped
          exact looped.quiet (finishSend_hands handle sending _ tlpNs)
      | sent sending =>
          rw [ends] at looped
          exact looped.quiet (finishSend_hands handle sending _ tlpNs)

theorem requestTwSkip_hands (nowNs : ℕ) : Hands [] engine (engine.requestTwSkip handle nowNs) := by
  unfold requestTwSkip
  split
  · exact .same rfl rfl
  · exact .push engine _

/-! ### Around a dispatch -/

theorem pruneAcked_hands (newSndUna : Seq) (nowNs : ℕ) :
    Hands [] engine (engine.pruneAcked handle newSndUna nowNs) := by
  dsimp only [pruneAcked]
  split
  · exact .refl engine
  · rename_i conn _
    have freed : Hands [] engine ((engine.modifyConn handle fun after =>
        { after with sndRetrans := conn.sndRetrans.pruneBelow newSndUna }).releaseMbufs
          ((conn.sndRetrans.prunedBelow newSndUna).map RetransEntry.mbuf)) := by
      refine .quiet ?_ (releaseMbufs_hands _ _)
      exact .same rfl rfl
    generalize (engine.modifyConn handle fun after =>
        { after with sndRetrans := conn.sndRetrans.pruneBelow newSndUna }).releaseMbufs
          ((conn.sndRetrans.prunedBelow newSndUna).map RetransEntry.mbuf) = pruned at freed ⊢
    have stopped : Hands [] engine
        (if (conn.sndRetrans.pruneBelow newSndUna).isEmpty && conn.sndUna == conn.sndNxt then
          (pruned.stopRto handle).stopTlp handle
        else pruned) := by
      split
      · exact .after (.after freed (stopRto_hands _ handle)) (stopTlp_hands _ handle)
      · exact freed
    split
    · exact .after (.after stopped (stopRto_hands _ handle)) (armRto_hands _ handle nowNs)
    · exact stopped

theorem sendSideAfter_hands (outcome : Outcome) (env : InputEnv) :
    Hands [] engine (engine.sendSideAfter handle outcome env) := by
  dsimp only [sendSideAfter]
  have resent := retransmitRackLost_hands engine handle env.retransmits outcome.rackLostIndexes
  generalize armed_eq : Engine.armTlpPto _ handle env.nowNs = armedEngine
  have armed : Hands [] engine armedEngine := by
    rw [← armed_eq]
    refine .after (.after resent ?_) (armTlpPto_hands _ handle env.nowNs)
    split
    · exact pruneAcked_hands _ handle _ env.nowNs
    · exact .refl _
  split
  · refine .quiet armed ?_
    exact .same rfl rfl
  · exact armed

theorem emitAck_hands (sent : Bool) : Hands [] engine (engine.emitAck handle sent) := by
  unfold emitAck
  split
  · exact .same rfl rfl
  · exact .refl engine

theorem transitionConn_hands (target : TcpState) (nowNs : ℕ) :
    Hands [] engine (engine.transitionConn handle target nowNs) := by
  dsimp only [transitionConn]
  split
  · exact .refl engine
  · split
    · exact .refl engine
    · exact .same rfl rfl

theorem answer_hands (tx : TxAction) (env : InputEnv) :
    Hands [] engine (engine.answer handle tx env) := by
  unfold answer
  split
  · exact .refl engine
  · exact emitAck_hands engine handle env.ackSent
  · exact transitionConn_hands engine handle .closed env.nowNs
  · exact transitionConn_hands engine handle .closed env.nowNs

theorem deliverEvents_hands (outcome : Outcome) (env : InputEnv) :
    Hands [] engine (engine.deliverEvents handle outcome env) := by
  have connected : Hands [] engine
      (if outcome.connected then
        engine.pushEvent (.connected handle env.rxHwTsNs env.nowNs)
      else engine) := by
    split
    · exact .push engine _
    · exact .refl engine
  dsimp only [deliverEvents]
  split
  · exact connected.quiet (.same rfl rfl)
  · exact connected

theorem finishClosed_hands (outcome : Outcome) (env : InputEnv) :
    Hands [] engine (engine.finishClosed handle outcome env) := by
  have reported := Hands.push engine (.closed handle 0 env.nowNs)
  dsimp only [finishClosed]
  split
  · split
    · split
      · exact reported.quiet (removeConn_hands _ handle)
      · exact reported
    · exact reported
  · exact .refl engine

theorem receiveSideAfter_hands (outcome : Outcome) (env : InputEnv) :
    Hands [] engine (engine.receiveSideAfter handle outcome env) := by
  have waited : Hands [] engine (engine.restartTimeWait handle outcome env.nowNs) :=
    .modify engine handle _
  dsimp only [receiveSideAfter]
  refine .after (.after (.after (.after waited ?_) (answer_hands _ handle _ env))
    (deliverEvents_hands _ handle outcome env)) (finishClosed_hands _ handle outcome env)
  split
  · exact transitionConn_hands _ handle _ env.nowNs
  · exact .refl _

theorem tcpInput_hands (seg : ParsedSegment) (mbufCtx : Option MbufInsertCtx) (env : InputEnv) :
    Hands [] engine (engine.tcpInput handle seg mbufCtx env) := by
  dsimp only [tcpInput]
  split
  · exact .same rfl rfl
  · refine .after (.after ?_ (sendSideAfter_hands _ handle _ env))
      (receiveSideAfter_hands _ handle _ env)
    split
    · exact .same rfl rfl
    · exact .same rfl rfl

/-! ### Timer fires -/

theorem forceCloseEtimedout_hands (nowNs : ℕ) :
    Hands [] engine (engine.forceCloseEtimedout handle nowNs) := by
  dsimp only [forceCloseEtimedout]
  split
  · exact .refl engine
  · refine .quiet (.quiet (.quiet ?_ (.push _ _)) (.push _ _)) (.drop _ handle)
    refine .quiet (.quiet (.quiet ?_ (releaseMbufs_hands _ _)) (cancelTimers_hands _ _))
      (transitionConn_hands _ handle .closed nowNs)
    exact .modify engine handle _

theorem rearmOrGiveUp_hands (noBackoff : Bool) (env : RtoEnv) :
    Hands [] engine (engine.rearmOrGiveUp handle noBackoff env) := by
  unfold rearmOrGiveUp
  split
  · exact forceCloseEtimedout_hands engine handle env.closeNs
  · refine .after ?_ (armRto_hands _ handle env.timerNs)
    split
    · exact .refl engine
    · exact .modify engine handle _

theorem onRtoFire_hands (firedId : TimerId) (env : RtoEnv) :
    Hands [] engine (engine.onRtoFire handle firedId env) := by
  dsimp only [onRtoFire]
  split
  · exact .refl engine
  · split
    · exact .refl engine
    · split
      · exact .modify engine handle _
      · refine .after (.after (.after ?_ (retransmitAll_hands _ handle _ _))
          (reportRto_hands _ handle _ env.eventNs)) (rearmOrGiveUp_hands _ handle _ env)
        exact .after (.modify engine handle _) (.modify _ handle _)

theorem onSynRetransFire_hands (firedId : TimerId) (nowNs : ℕ) :
    Hands [] engine (engine.onSynRetransFire handle firedId nowNs) := by
  dsimp only [onSynRetransFire]
  split
  · exact .refl engine
  · split
    · exact .refl engine
    · split
      · exact .modify engine handle _
      · split
        · refine .after ?_ (forceCloseEtimedout_hands _ handle nowNs)
          exact .same rfl rfl
        · refine .after ?_ (armSynRetrans_hands _ handle nowNs _)
          exact .same rfl rfl

theorem fireTimer_hands (id : TimerId) (node : TimerNode) (env : FireEnv) :
    Hands [] engine (engine.fireTimer id node env) := by
  unfold fireTimer
  split
  · exact onRtoFire_hands engine node.ownerHandle id env.rto
  · exact onTlpFire_hands engine node.ownerHandle id env.tlp env.nowNs
  · exact onSynRetransFire_hands engine node.ownerHandle id env.nowNs
  · exact .push engine _

theorem reapTimeWait_hands (nowNs : ℕ) : Hands [] engine (engine.reapTimeWait nowNs) := by
  have reaped : ∀ (candidates : List ConnHandle) (engine : Engine), Hands [] engine
      (candidates.foldl (fun engine handle => engine.reap handle nowNs) engine) := by
    intro candidates
    induction candidates with
    | nil => exact .refl
    | cons handle rest ih =>
        intro engine
        refine .after (.after (.after ?_ (.push _ _)) (removeConn_hands _ handle)) (ih _)
        exact transitionConn_hands engine handle .closed nowNs
  exact reaped _ engine

end Engine

end DpdkTcp
