import DpdkTcp.Lifecycle.Live

/-!
# What the application is told

`Tells` collects the events a call pushes, in their order, without those that
only report retransmissions, errors and timers of the application. Most of the
engine tells nothing; the calls that do are listed with what they tell.
-/

namespace DpdkTcp

/-- The events about the life of a connection, its data and its room. -/
def InternalEvent.notable : InternalEvent → Bool
  | .connected .. | .readable .. | .closed .. | .stateChange .. | .writable .. => true
  | .error .. | .tcpRetrans .. | .tcpLossDetected .. | .apiTimer .. => false

namespace Engine

/-- A change that pushes the notable events `news` and opens no connection. -/
structure Tells (before after : Engine) (news : List InternalEvent) : Prop where
  pushed : ∃ all, after.events.pushed = before.events.pushed ++ all ∧
    all.filter InternalEvent.notable = news
  opened : after.record.opened = before.record.opened

namespace Tells

variable {first second third : Engine} {news later : List InternalEvent}

theorem same (events : second.events = first.events)
    (opened : second.record.opened = first.record.opened) : Tells first second [] := by
  refine ⟨⟨[], ?_, rfl⟩, opened⟩
  rw [events, List.append_nil]

theorem refl (engine : Engine) : Tells engine engine [] :=
  same rfl rfl

theorem modify (engine : Engine) (handle : ConnHandle) (change : TcpConn → TcpConn) :
    Tells engine (engine.modifyConn handle change) [] :=
  same rfl rfl

theorem drop (engine : Engine) (handle : ConnHandle) : Tells engine (engine.dropConn handle) [] :=
  same rfl rfl

theorem push (engine : Engine) (event : InternalEvent) :
    Tells engine (engine.pushEvent event) ([event].filter InternalEvent.notable) :=
  ⟨⟨[event], rfl, rfl⟩, rfl⟩

/-- A report that is not notable. -/
theorem report (engine : Engine) {event : InternalEvent} (routine : event.notable = false) :
    Tells engine (engine.pushEvent event) [] := by
  have told := push engine event
  rwa [List.filter_cons_of_neg (by rw [routine]; exact Bool.false_ne_true), List.filter_nil] at told

theorem note (engine : Engine) {event : InternalEvent} (notable : event.notable = true) :
    Tells engine (engine.pushEvent event) [event] := by
  have told := push engine event
  rwa [List.filter_cons_of_pos notable, List.filter_nil] at told

theorem trans (left : Tells first second news) (right : Tells second third later) :
    Tells first third (news ++ later) := by
  rcases left.pushed with ⟨all, pushed, rfl⟩
  rcases right.pushed with ⟨more, pushedLater, rfl⟩
  refine ⟨⟨all ++ more, ?_, List.filter_append ..⟩, right.opened.trans left.opened⟩
  rw [pushedLater, pushed, List.append_assoc]

/-- A quiet change behind another one. -/
theorem quiet (left : Tells first second news) (right : Tells second third []) :
    Tells first third news := by
  have both := left.trans right
  rwa [List.append_nil] at both

/-- A quiet change before another one. -/
theorem after (left : Tells first second []) (right : Tells second third news) :
    Tells first third news :=
  left.trans right

end Tells

variable (engine : Engine) (handle : ConnHandle)

/-! ### Transmission and timers -/

theorem releaseMbufs_quiet (addrs : List ℕ) : Tells engine (engine.releaseMbufs addrs) [] := by
  rw [releaseMbufs_only]
  exact .same rfl rfl

theorem cancelTimers_quiet (ids : List TimerId) : Tells engine (engine.cancelTimers ids) [] := by
  rw [cancelTimers_only]
  exact .same rfl rfl

theorem drainTxPendingData_quiet (sent : ℕ) :
    Tells engine (engine.drainTxPendingData sent) [] := by
  refine .quiet ?_ (releaseMbufs_quiet _ _)
  exact .same rfl rfl

theorem pushTxPendingData_quiet (frame : TxFrame) (sent : ℕ) :
    Tells engine (engine.pushTxPendingData frame sent) [] := by
  unfold pushTxPendingData
  split
  · exact .same rfl rfl
  · refine .quiet (drainTxPendingData_quiet engine sent) ?_
    exact .same rfl rfl

theorem armRto_quiet (nowNs : ℕ) : Tells engine (engine.armRto handle nowNs) [] := by
  dsimp only [armRto]
  split
  · exact .refl engine
  · split
    · exact .same rfl rfl
    · exact .refl engine

theorem armTlpPto_quiet (nowNs : ℕ) : Tells engine (engine.armTlpPto handle nowNs) [] := by
  dsimp only [armTlpPto]
  split
  · exact .refl engine
  · split
    · exact .same rfl rfl
    · exact .refl engine

theorem armSynRetrans_quiet (nowNs delayUs : ℕ) :
    Tells engine (engine.armSynRetrans handle nowNs delayUs) [] :=
  .same rfl rfl

theorem stopRto_quiet : Tells engine (engine.stopRto handle) [] := by
  unfold stopRto
  split
  · exact .refl engine
  · exact .same rfl rfl

theorem stopTlp_quiet : Tells engine (engine.stopTlp handle) [] := by
  unfold stopTlp
  split
  · exact .refl engine
  · exact .same rfl rfl

theorem removeConn_quiet : Tells engine (engine.removeConn handle) [] := by
  dsimp only [removeConn]
  split
  · exact .refl engine
  · exact .quiet (cancelTimers_quiet _ _) (.drop _ handle)

theorem reportRetrans_quiet (index nowNs : ℕ) :
    Tells engine (engine.reportRetrans handle index nowNs) [] := by
  unfold reportRetrans
  split
  · exact .refl engine
  · split
    · exact .refl engine
    · exact .report engine rfl

theorem stripHeader_quiet (addr len : ℕ) : Tells engine (engine.stripHeader addr len) [] := by
  unfold stripHeader adjMbuf
  split
  · split
    · exact .refl engine
    · exact .same rfl rfl
  · exact .refl engine

theorem retransmitEntry_quiet (index : ℕ) (conn : TcpConn) (entry : RetransEntry)
    (env : RetransmitEnv) : Tells engine (engine.retransmitEntry handle index conn entry env) [] := by
  dsimp only [retransmitEntry]
  split
  · exact .report engine rfl
  · rename_i hdrMbuf _
    have refused : Tells engine
        (((engine.allocMbuf hdrMbuf).releaseMbuf hdrMbuf).retransmitError handle env.errorNs) [] := by
      refine .after ?_ (.report _ rfl)
      exact .same rfl rfl
    split
    · exact refused
    · rename_i header _
      split
      · exact refused
      · have stripped : Tells engine (((engine.allocMbuf hdrMbuf).writeRetransHeader conn entry
            env.optionsNs hdrMbuf header).stripHeader entry.mbuf
              ((engine.allocMbuf hdrMbuf).liveHdrsLen entry)) [] := by
          refine .after ?_ (stripHeader_quiet _ entry.mbuf _)
          exact .same rfl rfl
        generalize Engine.stripHeader _ entry.mbuf _ = strippedEngine at stripped ⊢
        have held : Tells engine (strippedEngine.holdMbuf entry.mbuf) [] :=
          .after stripped (.same rfl rfl)
        split
        · refine .after (.after held ?_) (.report _ rfl)
          exact .same rfl rfl
        · exact .after (.after held (pushTxPendingData_quiet _ _ _)) (.modify _ handle _)

theorem retransmit_quiet (index : ℕ) (env : RetransmitEnv) :
    Tells engine (engine.retransmit handle index env) [] := by
  dsimp only [retransmit]
  have drained := drainTxPendingData_quiet engine env.sent
  split
  · exact drained
  · split
    · exact drained
    · rename_i conn _ _ entry _
      have looked : Tells (engine.drainTxPendingData env.sent)
          ((engine.drainTxPendingData env.sent).recordPick ⟨handle, entry, conn.sndUna⟩) [] :=
        .same rfl rfl
      split
      · exact .after drained looked
      · exact .after (.after drained looked) (retransmitEntry_quiet _ handle index conn entry env)

theorem retransmitAll_quiet (envs : ℕ → RetransmitEnv) (indexes : List ℕ) :
    Tells engine (engine.retransmitAll handle envs indexes) [] := by
  induction indexes generalizing engine envs with
  | nil => exact .refl engine
  | cons index rest ih => exact .after (retransmit_quiet engine handle index _) (ih _ _)

theorem retransmitRackLost_quiet (envs : ℕ → RetransmitEnv) (indexes : List ℕ) :
    Tells engine (engine.retransmitRackLost handle envs indexes) [] := by
  induction indexes generalizing engine envs with
  | nil => exact .refl engine
  | cons index rest ih =>
      have resent := retransmit_quiet engine handle index (envs 0)
      refine .after ?_ (ih _ _)
      split
      · exact .after (.after resent (reportRetrans_quiet _ handle index _)) (.report _ rfl)
      · exact resent

theorem reportRto_quiet (chosen : List ℕ) (eventNs : ℕ) :
    Tells engine (engine.reportRto handle chosen eventNs) [] := by
  have reported : ∀ (chosen : List ℕ) (engine : Engine), Tells engine
      (chosen.foldl (fun engine index => engine.reportRetrans handle index eventNs) engine) [] := by
    intro chosen
    induction chosen with
    | nil => exact .refl
    | cons index rest ih =>
        intro engine
        exact .after (reportRetrans_quiet engine handle index eventNs) (ih _)
  unfold reportRto
  split
  · exact .after (reported chosen engine) (.report _ rfl)
  · exact .refl engine

theorem onTlpFire_quiet (firedId : TimerId) (env : RetransmitEnv) (nowNs : ℕ) :
    Tells engine (engine.onTlpFire handle firedId env nowNs) [] := by
  dsimp only [onTlpFire]
  split
  · exact .refl engine
  · split
    · exact .refl engine
    · rename_i conn _ _
      have cleared : Tells engine (engine.modifyConn handle fun conn =>
          { conn.withoutTimer firedId with tlpTimerId := none }) [] :=
        .same rfl rfl
      split
      · exact cleared
      · generalize recorded_eq : Engine.modifyConn (Engine.retransmit _ handle _ env) handle _ =
          recordedEngine
        have recorded : Tells engine recordedEngine [] := by
          rw [← recorded_eq]
          exact .quiet (.after cleared (retransmit_quiet _ handle _ env)) (.modify _ handle _)
        split
        · exact .after (.after recorded (reportRetrans_quiet _ handle _ nowNs)) (.report _ rfl)
        · exact recorded

/-! ### Sending -/

theorem stashEntry_quiet (entry : RetransEntry) :
    Tells engine (engine.stashEntry handle entry) [] := by
  have stashed : Tells engine (engine.modifyConn handle fun conn =>
      { conn with sndRetrans := conn.sndRetrans.pushAfterTx entry }) [] :=
    .same rfl rfl
  dsimp only [stashEntry]
  split
  · split
    · exact .after stashed (armRto_quiet _ handle _)
    · exact stashed
  · exact stashed

theorem sendSegment_quiet (conn : TcpConn) (mssCap : ℕ) (env : SendEnv) (sending : Sending) :
    Tells sending.engine (sendSegment conn handle mssCap env sending).ended.engine [] := by
  dsimp only [sendSegment]
  split
  · exact .refl _
  · split
    · exact .refl _
    · split
      · exact .same rfl rfl
      · refine .after (.after ?_ (pushTxPendingData_quiet _ _ _)) (stashEntry_quiet _ handle _)
        exact .same rfl rfl

theorem sendSegments_quiet (conn : TcpConn) (mssCap turns : ℕ) (envs : ℕ → SendEnv)
    (sending : Sending) :
    Tells sending.engine (sendSegments conn handle mssCap turns envs sending).ended.engine [] := by
  induction turns generalizing envs sending with
  | zero => exact .refl _
  | succ turns ih =>
      dsimp only [sendSegments]
      split
      · exact .refl _
      · have turn := sendSegment_quiet handle conn mssCap (envs 0) sending
        split
        · rename_i next sent
          rw [sent] at turn
          exact .after turn (ih _ next)
        · exact turn

theorem finishSend_quiet (sending : Sending) (wanted tlpNs : ℕ) :
    Tells sending.engine (finishSend sending handle wanted tlpNs) [] := by
  dsimp only [finishSend]
  split
  · refine .after ?_ (armTlpPto_quiet _ handle tlpNs)
    exact .same rfl rfl
  · exact .same rfl rfl

theorem sendBytes_quiet (bytes : List UInt8) (envs : ℕ → SendEnv) (tlpNs : ℕ) :
    Tells engine (engine.sendBytes handle bytes envs tlpNs).1 [] := by
  dsimp only [sendBytes]
  split
  · exact .refl engine
  · rename_i conn _
    split
    · exact .refl engine
    · have looped := sendSegments_quiet handle conn (engine.mssCap conn)
        ((engine.admitted conn bytes).length + 1) envs
        ⟨engine, engine.admitted conn bytes, 0, conn.sndNxt⟩
      split
      · rename_i sending ended
        rw [ended] at looped
        split
        · exact looped
        · exact .after looped (finishSend_quiet handle sending _ tlpNs)
      · rename_i sending ended
        rw [ended] at looped
        exact .after looped (finishSend_quiet handle sending _ tlpNs)
      · rename_i sending ended
        rw [ended] at looped
        exact .after looped (finishSend_quiet handle sending _ tlpNs)

theorem requestTwSkip_quiet (nowNs : ℕ) : Tells engine (engine.requestTwSkip handle nowNs) [] := by
  unfold requestTwSkip
  split
  · exact .same rfl rfl
  · exact .report engine rfl

/-! ### Around a dispatch -/

theorem pruneAcked_quiet (newSndUna : Seq) (nowNs : ℕ) :
    Tells engine (engine.pruneAcked handle newSndUna nowNs) [] := by
  dsimp only [pruneAcked]
  split
  · exact .refl engine
  · rename_i conn _
    have freed : Tells engine ((engine.modifyConn handle fun after =>
        { after with sndRetrans := conn.sndRetrans.pruneBelow newSndUna }).releaseMbufs
          ((conn.sndRetrans.prunedBelow newSndUna).map RetransEntry.mbuf)) [] := by
      refine .quiet ?_ (releaseMbufs_quiet _ _)
      exact .same rfl rfl
    generalize (engine.modifyConn handle fun after =>
        { after with sndRetrans := conn.sndRetrans.pruneBelow newSndUna }).releaseMbufs
          ((conn.sndRetrans.prunedBelow newSndUna).map RetransEntry.mbuf) = pruned at freed ⊢
    have stopped : Tells engine
        (if (conn.sndRetrans.pruneBelow newSndUna).isEmpty && conn.sndUna == conn.sndNxt then
          (pruned.stopRto handle).stopTlp handle
        else pruned) [] := by
      split
      · exact .after (.after freed (stopRto_quiet _ handle)) (stopTlp_quiet _ handle)
      · exact freed
    split
    · exact .after (.after stopped (stopRto_quiet _ handle)) (armRto_quiet _ handle nowNs)
    · exact stopped

theorem sendSideAfter_quiet (outcome : Outcome) (env : InputEnv) :
    Tells engine (engine.sendSideAfter handle outcome env) [] := by
  dsimp only [sendSideAfter]
  have resent := retransmitRackLost_quiet engine handle env.retransmits outcome.rackLostIndexes
  generalize armed_eq : Engine.armTlpPto _ handle env.nowNs = armedEngine
  have armed : Tells engine armedEngine [] := by
    rw [← armed_eq]
    refine .after (.after resent ?_) (armTlpPto_quiet _ handle env.nowNs)
    split
    · exact pruneAcked_quiet _ handle _ env.nowNs
    · exact .refl _
  split
  · refine .quiet armed ?_
    exact .same rfl rfl
  · exact armed

theorem emitAck_quiet (sent : Bool) : Tells engine (engine.emitAck handle sent) [] := by
  unfold emitAck
  split
  · exact .same rfl rfl
  · exact .refl engine

end Engine

end DpdkTcp
