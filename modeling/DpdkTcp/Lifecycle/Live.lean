import DpdkTcp.Send.Step

/-!
# The states of the connections in the flow table

What the calls of the engine do to the table as far as the states go. A
connection leaves the table in three places only: at the end of a segment that
closed it, when a timer gives it up, and when its wait is over.
-/

namespace DpdkTcp

namespace Engine

/-- The state of the connection of a handle, if there is one. -/
def stateAt (engine : Engine) (handle : ConnHandle) : Option TcpState :=
  (engine.flowTable.get handle).map TcpConn.state

variable (engine : Engine) (handle other : ConnHandle)

theorem stateAt_of_flowTable {before after : Engine} (same : after.flowTable = before.flowTable) :
    after.stateAt handle = before.stateAt handle := by
  rw [stateAt, same, stateAt]

theorem stateAt_eq_some {state : TcpState} (found : engine.stateAt handle = some state) :
    ∃ conn, engine.flowTable.get handle = some conn ∧ conn.state = state :=
  Option.map_eq_some_iff.mp found

@[simp]
theorem stateAt_pushEvent (event : InternalEvent) :
    (engine.pushEvent event).stateAt other = engine.stateAt other :=
  rfl

@[simp]
theorem stateAt_recordSentAtOnce (first : FirstSent) :
    (engine.recordSentAtOnce first).stateAt other = engine.stateAt other :=
  rfl

@[simp]
theorem stateAt_recordOpened (iss : Seq) :
    (engine.recordOpened handle iss).stateAt other = engine.stateAt other :=
  rfl

@[simp]
theorem stateAt_modifyConn {change : TcpConn → TcpConn}
    (keeps : ∀ conn, (change conn).state = conn.state) :
    (engine.modifyConn handle change).stateAt other = engine.stateAt other := by
  unfold stateAt modifyConn
  rw [FlowTable.get_modify]
  split
  · rename_i same
    rw [same, Option.map_map]
    exact congrArg (fun view => (engine.flowTable.get handle).map view) (funext keeps)
  · rfl

@[simp]
theorem stateAt_releaseMbufs (addrs : List ℕ) :
    (engine.releaseMbufs addrs).stateAt other = engine.stateAt other := by
  rw [releaseMbufs_only]
  rfl

@[simp]
theorem stateAt_cancelTimer (id : TimerId) : (engine.cancelTimer id).stateAt other = engine.stateAt other :=
  rfl

@[simp]
theorem stateAt_cancelTimers (ids : List TimerId) :
    (engine.cancelTimers ids).stateAt other = engine.stateAt other := by
  rw [cancelTimers_only]
  rfl

@[simp]
theorem stateAt_drainTxPendingData (sent : ℕ) :
    (engine.drainTxPendingData sent).stateAt other = engine.stateAt other :=
  stateAt_of_flowTable other (drainTxPendingData_change engine sent).flowTable

@[simp]
theorem stateAt_pushTxPendingData (frame : TxFrame) (sent : ℕ) :
    (engine.pushTxPendingData frame sent).stateAt other = engine.stateAt other :=
  stateAt_of_flowTable other (pushTxPendingData_change engine frame sent).flowTable

/-- `transition_conn` writes the state of one connection. -/
@[simp]
theorem stateAt_transitionConn (target : TcpState) (nowNs : ℕ) :
    (engine.transitionConn handle target nowNs).stateAt other =
      if other = handle then (engine.stateAt handle).map fun _ => target
      else engine.stateAt other := by
  unfold stateAt
  dsimp only [transitionConn]
  split
  · rename_i absent
    rw [absent]
    split
    · rename_i same
      rw [same, absent]
      rfl
    · rfl
  · rename_i conn present
    rw [present]
    split
    · rename_i already
      split
      · rename_i same
        rw [same, present, Option.map_some, Option.map_some, already]
      · rfl
    · dsimp only [pushEvent, modifyConn]
      rw [FlowTable.get_modify, present]
      split <;> rfl

@[simp]
theorem stateAt_armRto (nowNs : ℕ) : (engine.armRto handle nowNs).stateAt other = engine.stateAt other := by
  dsimp only [armRto]
  split
  · rfl
  · split
    · exact stateAt_modifyConn _ handle other fun _ => rfl
    · rfl

@[simp]
theorem stateAt_armTlpPto (nowNs : ℕ) :
    (engine.armTlpPto handle nowNs).stateAt other = engine.stateAt other := by
  dsimp only [armTlpPto]
  split
  · rfl
  · split
    · exact stateAt_modifyConn _ handle other fun _ => rfl
    · rfl

@[simp]
theorem stateAt_armSynRetrans (nowNs delayUs : ℕ) :
    (engine.armSynRetrans handle nowNs delayUs).stateAt other = engine.stateAt other := by
  dsimp only [armSynRetrans]
  exact stateAt_modifyConn _ handle other fun _ => rfl

@[simp]
theorem stateAt_stopRto : (engine.stopRto handle).stateAt other = engine.stateAt other := by
  unfold stopRto
  split
  · rfl
  · exact stateAt_modifyConn _ handle other fun _ => rfl

@[simp]
theorem stateAt_stopTlp : (engine.stopTlp handle).stateAt other = engine.stateAt other := by
  unfold stopTlp
  split
  · rfl
  · exact stateAt_modifyConn _ handle other fun _ => rfl

@[simp]
theorem stateAt_reportRetrans (index nowNs : ℕ) :
    (engine.reportRetrans handle index nowNs).stateAt other = engine.stateAt other := by
  unfold reportRetrans
  split
  · rfl
  · split <;> rfl

@[simp]
theorem stateAt_retransmit (index : ℕ) (env : RetransmitEnv) :
    (engine.retransmit handle index env).stateAt other = engine.stateAt other := by
  rcases retransmit_cases engine handle index env with
    ⟨change, _, _⟩ | ⟨conn, entry, _, _, _, ⟨change, _⟩ | ⟨_, pushed, change, sent⟩⟩
  · exact stateAt_of_flowTable other change.flowTable
  · exact stateAt_of_flowTable other change.flowTable
  · rw [sent, stateAt_modifyConn]
    · exact stateAt_of_flowTable other change.flowTable
    · exact fun _ => rfl

@[simp]
theorem stateAt_retransmitRackLost (envs : ℕ → RetransmitEnv) (indexes : List ℕ) :
    (engine.retransmitRackLost handle envs indexes).stateAt other = engine.stateAt other := by
  induction indexes generalizing engine envs with
  | nil => rfl
  | cons index rest ih =>
      dsimp only [retransmitRackLost]
      rw [ih]
      split
      · simp
      · simp

@[simp]
theorem stateAt_pruneAcked (ack : Seq) (nowNs : ℕ) :
    (engine.pruneAcked handle ack nowNs).stateAt other = engine.stateAt other := by
  dsimp only [pruneAcked]
  split
  · rfl
  · split
    · split <;> simp
    · split <;> simp

@[simp]
theorem stateAt_sendSideAfter (outcome : Outcome) (env : InputEnv) :
    (engine.sendSideAfter handle outcome env).stateAt other = engine.stateAt other := by
  dsimp only [sendSideAfter]
  split
  · rw [stateAt_modifyConn _ _ _ (by exact fun _ => rfl), stateAt_cancelTimer]
    split <;> simp
  · split <;> simp

@[simp]
theorem stateAt_restartTimeWait (outcome : Outcome) (nowNs : ℕ) :
    (engine.restartTimeWait handle outcome nowNs).stateAt other = engine.stateAt other := by
  unfold restartTimeWait
  apply stateAt_modifyConn
  intro conn
  split <;> rfl

/-- The answers after which the connection is closed. -/
def resets : TxAction → Bool
  | .rst | .rstForSynSentBadAck => true
  | _ => false

theorem stateAt_answer (tx : TxAction) (env : InputEnv) :
    (engine.answer handle tx env).stateAt other =
      if other = handle ∧ resets tx = true then (engine.stateAt handle).map fun _ => .closed
      else engine.stateAt other := by
  unfold answer emitAck resets
  split
  · simp
  · split <;> simp
  · simp
  · simp

@[simp]
theorem stateAt_handOver (delivered rxHwTsNs emittedTsNs : ℕ) :
    (engine.handOver handle delivered rxHwTsNs emittedTsNs).stateAt other =
      engine.stateAt other := by
  unfold stateAt
  dsimp only [handOver, deliverReadable]
  split
  · rfl
  · rename_i conn present
    dsimp only
    rw [FlowTable.get_set present]
    split
    · rename_i same
      rw [same, present]
      rfl
    · rfl

@[simp]
theorem stateAt_deliverEvents (outcome : Outcome) (env : InputEnv) :
    (engine.deliverEvents handle outcome env).stateAt other = engine.stateAt other := by
  dsimp only [deliverEvents]
  split
  · rw [stateAt_handOver]
    split <;> rfl
  · split <;> rfl

@[simp]
theorem stateAt_removeConn :
    (engine.removeConn handle).stateAt other =
      if other = handle then none else engine.stateAt other := by
  dsimp only [removeConn]
  split
  · rename_i absent
    split
    · rename_i same
      rw [same, stateAt, absent]
      rfl
    · rfl
  · unfold stateAt
    dsimp only [dropConn]
    rw [FlowTable.get_remove, cancelTimers_only]
    split <;> rfl

theorem stateAt_finishClosed (outcome : Outcome) (env : InputEnv) :
    (engine.finishClosed handle outcome env).stateAt other =
      if other = handle ∧ outcome.closed = true ∧ engine.stateAt handle = some .closed then none
      else engine.stateAt other := by
  dsimp only [finishClosed]
  split
  · rename_i closed
    split
    · rename_i conn present
      have state : engine.stateAt handle = some conn.state := by
        have same : engine.flowTable.get handle = some conn := present
        rw [stateAt, same]
        rfl
      rw [state]
      split
      · rename_i ended
        rw [stateAt_removeConn, stateAt_pushEvent, ended]
        simp [closed]
      · rename_i running
        rw [stateAt_pushEvent]
        simp [running]
    · rename_i absent
      have gone : engine.stateAt handle = none := by
        have same : engine.flowTable.get handle = none := absent
        rw [stateAt, same]
        rfl
      rw [gone, stateAt_pushEvent]
      simp
  · rename_i open_
    simp [open_]

/-! ### Segments -/

end Engine

/-- The flag `closed` and the answers with RST go with the state CLOSED. -/
structure Outcome.Closes (outcome : Outcome) : Prop where
  closed : outcome.closed = true ↔ outcome.newState = some .closed
  resets : Engine.resets outcome.tx = true → outcome.newState = some .closed

theorem Outcome.Closes.ended {outcome : Outcome} (state : outcome.newState = some .closed)
    (closed : outcome.closed = true) : outcome.Closes :=
  ⟨iff_of_true closed state, fun _ => state⟩

theorem Outcome.Closes.going {outcome : Outcome} (state : outcome.newState ≠ some .closed)
    (closed : outcome.closed = false) (answer : Engine.resets outcome.tx = false) :
    outcome.Closes := by
  refine ⟨iff_of_false (by simp [closed]) state, ?_⟩
  intro resets
  rw [answer] at resets
  cases resets

theorem handleSynSent_closes (conn : TcpConn) (seg : ParsedSegment) (clock : Readings) :
    (handleSynSent conn seg clock).outcome.Closes := by
  unfold handleSynSent
  split
  · split
    · exact .ended rfl rfl
    · exact .going nofun rfl rfl
  · split
    · exact .ended rfl rfl
    · split
      · exact .going nofun rfl rfl
      · split
        · exact .ended rfl rfl
        · split
          · exact .ended rfl rfl
          · exact .going nofun rfl rfl

theorem handleEstablished_closes (conn : TcpConn) (seg : ParsedSegment) (clock : Readings)
    (sendBuf : ℕ) (mbufCtx : Option MbufInsertCtx) :
    (handleEstablished conn seg clock sendBuf mbufCtx).outcome.Closes := by
  dsimp only [handleEstablished]
  split
  · rename_i outcome rejected
    dsimp only [establishedChecks] at rejected
    split at rejected
    · cases rejected
      exact .going nofun rfl rfl
    · split at rejected
      · cases rejected
        exact .ended rfl rfl
      · split at rejected
        · cases rejected
          exact .going nofun rfl rfl
        · split at rejected
          · cases rejected
            exact .going nofun rfl rfl
          · split at rejected
            · cases rejected
              exact .going nofun rfl rfl
            · cases rejected
  · split
    · exact .going nofun rfl rfl
    · exact .going nofun rfl rfl
    · split
      · exact .going nofun rfl rfl
      · dsimp only [establishedData]
        refine .going ?_ rfl ?_
        · dsimp only [takeFin]
          split <;> exact nofun
        · dsimp only
          split <;> rfl

theorem closeTransition_resets (state : TcpState) (finAcked peerHasFin : Bool) :
    Engine.resets (closeTransition state finAcked peerHasFin).2 = false := by
  cases state <;> cases finAcked <;> cases peerHasFin <;> rfl

theorem handleClosePath_closes (conn : TcpConn) (seg : ParsedSegment) (clock : Readings) :
    (handleClosePath conn seg clock).outcome.Closes := by
  dsimp only [handleClosePath]
  simp only [pawsClosePath_eq]
  split
  · exact .ended rfl rfl
  · split
    · exact .going nofun rfl rfl
    · split
      · exact .going nofun rfl rfl
      · split
        · exact .going nofun rfl rfl
        · split
          · exact .going nofun rfl rfl
          · split
            · exact .going nofun rfl rfl
            · exact .going nofun rfl rfl
            · refine ⟨by simp, ?_⟩
              dsimp only [closeAdvance]
              rw [closeTransition_resets]
              exact nofun

theorem dispatch_closes (conn : TcpConn) (seg : ParsedSegment) (clock : Readings) (sendBuf : ℕ)
    (mbufCtx : Option MbufInsertCtx) :
    (dispatch conn seg clock sendBuf mbufCtx).outcome.Closes := by
  unfold dispatch
  split
  · exact handleSynSent_closes conn seg clock
  · exact handleEstablished_closes conn seg clock sendBuf mbufCtx
  all_goals first
    | exact handleClosePath_closes conn seg clock
    | exact .going nofun rfl rfl

/-- Where a dispatch leads: the connection is removed, or has the state decided on. -/
def Outcome.stateAfter (outcome : Outcome) (state : TcpState) : Option TcpState :=
  if outcome.newState = some .closed then Option.none else some (outcome.newState.getD state)

namespace Engine

variable (engine : Engine) (handle other : ConnHandle)

theorem stateAt_receiveSideAfter {outcome : Outcome} (closes : outcome.Closes) (env : InputEnv)
    {state : TcpState} (before : engine.stateAt handle = some state) :
    (engine.receiveSideAfter handle outcome env).stateAt other =
      if other = handle then outcome.stateAfter state else engine.stateAt other := by
  dsimp only [receiveSideAfter]
  rw [stateAt_finishClosed, stateAt_deliverEvents, stateAt_deliverEvents, stateAt_answer,
    stateAt_answer]
  have closed := closes.closed
  have resets := closes.resets
  cases target : outcome.newState with
  | none =>
      rw [target] at closed resets
      have quiet : Engine.resets outcome.tx = false := by simpa using resets
      have running : outcome.closed = false := by simpa using closed
      by_cases same : other = handle
      · simp [same, quiet, running, Outcome.stateAfter, target, before]
      · simp [same, quiet, running]
  | some next =>
      rw [target] at closed resets
      by_cases same : other = handle
      · by_cases ends : next = .closed
        · have ended : outcome.closed = true := closed.mpr (by rw [ends])
          simp [same, ends, ended, Outcome.stateAfter, target, before]
        · have quiet : Engine.resets outcome.tx = false := by simpa [ends] using resets
          have running : outcome.closed = false := by simpa [ends] using closed
          simp [same, ends, quiet, running, Outcome.stateAfter, target, before]
      · simp [same]

/-- `tcp_input` decides on the state of its connection and leaves the others alone. -/
theorem stateAt_tcpInput (seg : ParsedSegment) (mbufCtx : Option MbufInsertCtx) (env : InputEnv) :
    (engine.tcpInput handle seg mbufCtx env).stateAt other =
      if other = handle then
        (engine.flowTable.get handle).bind fun conn =>
          (dispatch conn seg env.clock engine.cfg.sendBufferBytes mbufCtx).outcome.stateAfter
            conn.state
      else engine.stateAt other := by
  cases present : engine.flowTable.get handle with
  | none =>
      have idle : engine.tcpInput handle seg mbufCtx env = engine :=
        tcpInput_absent present seg mbufCtx env
      rw [idle]
      split
      · rename_i same
        rw [same, stateAt, present]
        rfl
      · rfl
  | some conn =>
      rcases tcpInput_eq engine handle present seg mbufCtx env with
        ⟨notified, _, _, table, processed⟩
      have closes := dispatch_closes conn seg env.clock engine.cfg.sendBufferBytes mbufCtx
      have state := dispatch_state conn seg env.clock engine.cfg.sendBufferBytes mbufCtx
      rw [processed, Option.bind_some]
      generalize dispatch conn seg env.clock engine.cfg.sendBufferBytes mbufCtx = dispatched
        at table closes state ⊢
      have written : ∀ any, notified.stateAt any = engine.stateAt any := by
        intro any
        unfold stateAt
        rw [table, FlowTable.get_set present]
        split
        · rename_i same
          rw [same, present, Option.map_some, Option.map_some, state]
        · rfl
      have before : (notified.sendSideAfter handle dispatched.outcome env).stateAt handle =
          some conn.state := by
        rw [stateAt_sendSideAfter, written, stateAt, present]
        rfl
      rw [stateAt_receiveSideAfter _ handle other closes env before, stateAt_sendSideAfter,
        written]

/-! ### Sending, closing and opening -/

@[simp]
theorem stateAt_stashEntry (entry : RetransEntry) :
    (engine.stashEntry handle entry).stateAt other = engine.stateAt other := by
  dsimp only [stashEntry]
  split
  · split <;> simp
  · simp

theorem stateAt_sendSegment (conn : TcpConn) (mssCap : ℕ) (env : SendEnv) (sending : Sending) :
    (sendSegment conn handle mssCap env sending).ended.engine.stateAt other =
      sending.engine.stateAt other := by
  dsimp only [sendSegment]
  split
  · rfl
  · split
    · rfl
    · split
      · rfl
      · dsimp only [SendTurn.ended]
        rw [stateAt_stashEntry, stateAt_pushTxPendingData]
        rfl

theorem stateAt_sendSegments (conn : TcpConn) (mssCap turns : ℕ) (envs : ℕ → SendEnv)
    (sending : Sending) :
    (sendSegments conn handle mssCap turns envs sending).ended.engine.stateAt other =
      sending.engine.stateAt other := by
  induction turns generalizing envs sending with
  | zero => rfl
  | succ turns ih =>
      have turn := stateAt_sendSegment handle other conn mssCap (envs 0) sending
      dsimp only [sendSegments]
      split
      · rfl
      · cases ends : sendSegment conn handle mssCap (envs 0) sending with
        | sent next =>
            rw [ends] at turn
            exact (ih _ next).trans turn
        | noMem next =>
            rw [ends] at turn
            exact turn
        | stopped next =>
            rw [ends] at turn
            exact turn

theorem stateAt_finishSend (sending : Sending) (wanted tlpNs : ℕ) :
    (finishSend sending handle wanted tlpNs).stateAt other = sending.engine.stateAt other := by
  dsimp only [finishSend]
  split <;> simp

theorem stateAt_sendBytes (bytes : List UInt8) (envs : ℕ → SendEnv) (tlpNs : ℕ) :
    (engine.sendBytes handle bytes envs tlpNs).1.stateAt other = engine.stateAt other := by
  dsimp only [sendBytes]
  split
  · rfl
  · rename_i conn _
    split
    · rfl
    · have looped := stateAt_sendSegments handle other conn (engine.mssCap conn)
        ((engine.admitted conn bytes).length + 1) envs
        ⟨engine, engine.admitted conn bytes, 0, conn.sndNxt⟩
      generalize sendSegments conn handle (engine.mssCap conn) _ envs _ = ended at looped ⊢
      cases ended with
      | sent sending => exact (stateAt_finishSend handle other sending _ tlpNs).trans looped
      | stopped sending => exact (stateAt_finishSend handle other sending _ tlpNs).trans looped
      | noMem sending =>
          dsimp only
          split
          · exact looped
          · exact (stateAt_finishSend handle other sending _ tlpNs).trans looped

theorem stateAt_closeConn {conn : TcpConn} (present : engine.flowTable.get other = some conn)
    (finSent : Bool) (nowNs : ℕ) :
    (engine.closeConn handle finSent nowNs).stateAt other = some conn.state ∨
      other = handle ∧ finSent = true ∧
        (conn.state = .established ∨ conn.state = .closeWait) ∧
        (engine.closeConn handle finSent nowNs).stateAt other = some conn.finSent.state := by
  have unchanged : engine.stateAt other = some conn.state := by
    rw [stateAt, present]
    rfl
  dsimp only [closeConn]
  split
  · exact Or.inl unchanged
  · rename_i target live
    split
    · exact Or.inl unchanged
    · rename_i running
      split
      · exact Or.inl unchanged
      · rename_i sent
        rw [stateAt_transitionConn, stateAt_modifyConn _ _ _ (by exact fun _ => rfl),
          stateAt_modifyConn _ _ _ (by exact fun _ => rfl), stateAt_recordSentAtOnce]
        by_cases same : other = handle
        · rw [same] at present unchanged
          rw [present] at live
          cases live
          refine Or.inr ⟨same, by simpa using sent, ?_, ?_⟩
          · by_contra neither
            exact running (not_or.mp neither)
          · rw [if_pos same, unchanged]
            rfl
        · rw [if_neg same]
          exact Or.inl unchanged

theorem stateAt_requestTwSkip (nowNs : ℕ) :
    (engine.requestTwSkip handle nowNs).stateAt other = engine.stateAt other := by
  unfold requestTwSkip
  split
  · exact stateAt_modifyConn engine handle other fun _ => rfl
  · rfl

theorem stateAt_connectWithOpts {conn : TcpConn}
    (present : engine.flowTable.get other = some conn) (tuple : FourTuple) (iss : Seq)
    (ourMss : UInt16) (opts : ConnectOpts) (synSent : Bool) (nowNs : ℕ) :
    (engine.connectWithOpts tuple iss ourMss opts synSent nowNs).1.stateAt other =
      engine.stateAt other := by
  dsimp only [connectWithOpts]
  split
  · rfl
  · split
    · rfl
    · split
      · rfl
      · rename_i fresh inserted
        have table := FlowTable.get_insert
          (Prod.ext rfl inserted : engine.flowTable.insert _ = (_, some fresh))
        have differs : other ≠ fresh := by
          rintro rfl
          rw [(table other).1] at present
          cases present
        split
        · unfold stateAt
          dsimp only [dropConn]
          rw [FlowTable.get_remove, if_neg differs, (table other).2, if_neg differs]
        · dsimp only
          rw [stateAt_armSynRetrans, stateAt_transitionConn, if_neg differs, stateAt_recordOpened]
          unfold stateAt
          dsimp only
          rw [(table other).2, if_neg differs]

/-! ### Timers and the end of the wait -/

theorem stateAt_forceCloseEtimedout (nowNs : ℕ) :
    (engine.forceCloseEtimedout handle nowNs).stateAt other =
      if other = handle then none else engine.stateAt other := by
  unfold stateAt
  rw [forceCloseEtimedout_get]
  split <;> rfl

theorem stateAt_retransmitAll (envs : ℕ → RetransmitEnv) (indexes : List ℕ) :
    (engine.retransmitAll handle envs indexes).stateAt other = engine.stateAt other := by
  induction indexes generalizing engine envs with
  | nil => rfl
  | cons index rest ih => exact (ih _ _).trans (stateAt_retransmit engine handle other index _)

theorem stateAt_reportRto (chosen : List ℕ) (eventNs : ℕ) :
    (engine.reportRto handle chosen eventNs).stateAt other = engine.stateAt other := by
  have folded : ∀ (chosen : List ℕ) (engine : Engine),
      (chosen.foldl (fun engine index => engine.reportRetrans handle index eventNs)
        engine).stateAt other = engine.stateAt other := by
    intro chosen
    induction chosen with
    | nil => exact fun engine => rfl
    | cons index rest ih =>
        exact fun engine => (ih _).trans (stateAt_reportRetrans engine handle other index eventNs)
  unfold reportRto
  split
  · rw [stateAt_pushEvent, folded]
  · rfl

/-- A handler keeps the state of a connection or removes it. -/
def KeepsOrRemoves (before after : Engine) : Prop :=
  after.stateAt other = before.stateAt other ∨ after.stateAt other = none

theorem stateAt_rearmOrGiveUp (noBackoff : Bool) (env : RtoEnv) :
    (engine.rearmOrGiveUp handle noBackoff env).stateAt other = engine.stateAt other ∨
      other = handle ∧ (engine.rearmOrGiveUp handle noBackoff env).stateAt other = none := by
  dsimp only [rearmOrGiveUp]
  split
  · rw [stateAt_forceCloseEtimedout]
    split
    · rename_i same
      exact Or.inr ⟨same, rfl⟩
    · exact Or.inl rfl
  · left
    rw [stateAt_armRto]
    split
    · rfl
    · exact stateAt_modifyConn _ handle other fun _ => rfl

/-- Only the timer that the connection names as its own may remove it. -/
theorem stateAt_onRtoFire (firedId : TimerId) (env : RtoEnv) :
    (engine.onRtoFire handle firedId env).stateAt other = engine.stateAt other ∨
      other = handle ∧
        (∃ conn, engine.flowTable.get handle = some conn ∧ conn.rtoTimerId = some firedId) ∧
        (engine.onRtoFire handle firedId env).stateAt other = none := by
  dsimp only [onRtoFire]
  split
  · exact Or.inl rfl
  · split
    · exact Or.inl rfl
    · split
      · exact Or.inl (stateAt_modifyConn _ handle other fun _ => rfl)
      · rename_i conn present own _
        have kept : ∀ lost chosen, (((engine.modifyConn handle fun conn =>
            { conn.withoutTimer firedId with rtoTimerId := none }).markLost handle
              lost).retransmitAll handle env.retransmits chosen |>.reportRto handle chosen
                env.eventNs).stateAt other = engine.stateAt other := by
          intro lost chosen
          rw [stateAt_reportRto, stateAt_retransmitAll, markLost,
            stateAt_modifyConn _ _ _ (by exact fun _ => rfl),
            stateAt_modifyConn _ _ _ (by exact fun _ => rfl)]
        rcases stateAt_rearmOrGiveUp _ handle other conn.rtoNoBackoff env with
          same | ⟨here, gone⟩
        · exact Or.inl (same.trans (kept _ _))
        · exact Or.inr ⟨here, ⟨conn, present, of_not_not own⟩, gone⟩

theorem stateAt_onTlpFire (firedId : TimerId) (env : RetransmitEnv) (nowNs : ℕ) :
    (engine.onTlpFire handle firedId env nowNs).stateAt other = engine.stateAt other := by
  dsimp only [onTlpFire]
  split
  · rfl
  · split
    · rfl
    · split
      · exact stateAt_modifyConn _ handle other fun _ => rfl
      · split
        · rw [stateAt_pushEvent, stateAt_reportRetrans, stateAt_modifyConn, stateAt_retransmit]
          · exact stateAt_modifyConn _ handle other fun _ => rfl
          · intro conn
            split <;> rfl
        · rw [stateAt_modifyConn, stateAt_retransmit]
          · exact stateAt_modifyConn _ handle other fun _ => rfl
          · intro conn
            split <;> rfl

/-- The handler removes no connection that has left the handshake. -/
theorem stateAt_onSynRetransFire (firedId : TimerId) (nowNs : ℕ) :
    (engine.onSynRetransFire handle firedId nowNs).stateAt other = engine.stateAt other ∨
      other = handle ∧
        (∃ conn, engine.flowTable.get handle = some conn ∧
          (conn.state = .synSent ∨ conn.state = .synReceived)) ∧
        (engine.onSynRetransFire handle firedId nowNs).stateAt other = none := by
  dsimp only [onSynRetransFire]
  split
  · exact Or.inl rfl
  · split
    · exact Or.inl rfl
    · split
      · exact Or.inl (stateAt_modifyConn _ handle other fun _ => rfl)
      · rename_i conn present _ opening
        split
        · rw [stateAt_forceCloseEtimedout]
          split
          · rename_i same
            refine Or.inr ⟨same, ⟨conn, present, ?_⟩, rfl⟩
            by_contra opened
            exact opening (not_or.mp opened)
          · left
            rw [stateAt_modifyConn _ _ _ (by exact fun _ => rfl),
              stateAt_modifyConn _ _ _ (by exact fun _ => rfl)]
        · left
          rw [stateAt_armSynRetrans, stateAt_modifyConn _ _ _ (by exact fun _ => rfl),
            stateAt_modifyConn _ _ _ (by exact fun _ => rfl)]

theorem keepsOrRemoves_fireTimer (id : TimerId) (node : TimerNode) (env : FireEnv) :
    KeepsOrRemoves other engine (engine.fireTimer id node env) := by
  unfold fireTimer
  split
  · exact (stateAt_onRtoFire engine node.ownerHandle other id env.rto).imp_right fun gone =>
      gone.2.2
  · exact Or.inl (stateAt_onTlpFire engine node.ownerHandle other id env.tlp env.nowNs)
  · exact (stateAt_onSynRetransFire engine node.ownerHandle other id env.nowNs).imp_right
      fun gone => gone.2.2
  · exact Or.inl rfl

theorem stateAt_reap (nowNs : ℕ) :
    (engine.reap handle nowNs).stateAt other =
      if other = handle then none else engine.stateAt other := by
  dsimp only [reap]
  rw [stateAt_removeConn, stateAt_pushEvent, stateAt_transitionConn]
  split <;> rfl

theorem mem_handles {conn : TcpConn} (present : engine.flowTable.get other = some conn) :
    other ∈ engine.handles := by
  rcases FlowTable.get_eq_some_iff.mp present with ⟨valid, found⟩
  have inside := (List.getElem?_eq_some_iff.mp found).1
  refine List.mem_map.mpr ⟨other - 1, List.mem_range.mpr inside, ?_⟩
  exact Nat.succ_pred_eq_of_ne_zero valid

/-- The candidates of `reap_time_wait` are removed, the other connections stay. -/
theorem stateAt_reapTimeWait {conn : TcpConn} (present : engine.flowTable.get other = some conn)
    (nowNs : ℕ) :
    (engine.reapTimeWait nowNs).stateAt other =
      if expired conn nowNs = true then none else some conn.state := by
  have folded : ∀ (candidates : List ConnHandle) (current : Engine),
      (candidates.foldl (fun engine handle => engine.reap handle nowNs) current).stateAt other =
        if other ∈ candidates then none else current.stateAt other := by
    intro candidates
    induction candidates with
    | nil => exact fun current => rfl
    | cons candidate rest ih =>
        intro current
        rw [List.foldl_cons, ih, stateAt_reap]
        by_cases later : other ∈ rest
        · simp [later]
        · simp [later]
  dsimp only [reapTimeWait]
  rw [folded]
  have chosen : other ∈ (engine.handles.filter fun handle =>
      (engine.flowTable.get handle).any fun conn => expired conn nowNs).reverse ↔
        expired conn nowNs = true := by
    rw [List.mem_reverse, List.mem_filter, present]
    exact ⟨fun member => member.2, fun ripe => ⟨mem_handles engine other present, ripe⟩⟩
  simp only [chosen]
  split
  · rfl
  · rw [stateAt, present]
    rfl

/-- A connection that is to skip nothing leaves TIME_WAIT at its deadline. -/
theorem reaped_iff {conn : TcpConn} (present : engine.flowTable.get other = some conn)
    (waiting : conn.state = .timeWait) (unmarked : conn.forceTwSkip = false) {deadline : ℕ}
    (due : conn.timeWaitDeadlineNs = some deadline) (nowNs : ℕ) :
    (engine.reapTimeWait nowNs).stateAt other = none ↔ deadline ≤ nowNs := by
  have ripe : expired conn nowNs = decide (deadline ≤ nowNs) := by
    rw [expired, waiting, unmarked, due, decide_eq_true rfl, Bool.true_and, Bool.false_or,
      Option.any_some]
  rw [stateAt_reapTimeWait engine other present nowNs, ripe]
  by_cases past : deadline ≤ nowNs
  · rw [if_pos (decide_eq_true past)]
    exact iff_of_true rfl past
  · rw [if_neg (by simpa using past)]
    exact iff_of_false nofun past

end Engine

/-- What a step does to the state of a connection; `none` is its removal. -/
inductive StateStep (engine : Engine) (handle : ConnHandle) (conn : TcpConn) :
    EngineOp → Option TcpState → Prop where
  | kept {op : EngineOp} : StateStep engine handle conn op (some conn.state)
  | fin {nowNs : ℕ} (running : conn.state = .established ∨ conn.state = .closeWait) :
      StateStep engine handle conn (.close handle true nowNs) (some conn.finSent.state)
  | segment (seg : ParsedSegment) (mbufCtx : Option MbufInsertCtx) (env : InputEnv) :
      StateStep engine handle conn (.segment handle seg mbufCtx env)
        ((dispatch conn seg env.clock engine.cfg.sendBufferBytes mbufCtx).outcome.stateAfter
          conn.state)
  | timer (env : FireEnv) : StateStep engine handle conn (.fireNext env) none
  | reaped (nowNs : ℕ) (expired : Engine.expired conn nowNs = true) :
      StateStep engine handle conn (.reap nowNs) none

theorem Host.step_stateAt (host : Host) (op : EngineOp) {handle : ConnHandle} {conn : TcpConn}
    (present : host.engine.flowTable.get handle = some conn) :
    StateStep host.engine handle conn op ((host.step op).engine.stateAt handle) := by
  have before : host.engine.stateAt handle = some conn.state := by
    rw [Engine.stateAt, present]
    rfl
  have unchanged : (host.step op).engine.stateAt handle = host.engine.stateAt handle →
      StateStep host.engine handle conn op ((host.step op).engine.stateAt handle) := by
    intro same
    rw [same, before]
    exact .kept
  cases op with
  | connect tuple iss ourMss opts synSent nowNs =>
      exact unchanged (Engine.stateAt_connectWithOpts host.engine handle present tuple iss ourMss
        opts synSent nowNs)
  | send target bytes envs tlpNs =>
      exact unchanged (Engine.stateAt_sendBytes host.engine target handle bytes envs tlpNs)
  | close target finSent nowNs =>
      rcases Engine.stateAt_closeConn host.engine target handle present finSent nowNs with
        same | ⟨rfl, rfl, running, sent⟩
      · exact unchanged (same.trans before.symm)
      · rw [Host.step, sent]
        exact .fin running
  | segment target seg mbufCtx env =>
      have after := Engine.stateAt_tcpInput host.engine target handle seg mbufCtx env
      by_cases same : handle = target
      · rw [if_pos same] at after
        subst same
        rw [Host.step, after, present]
        exact .segment seg mbufCtx env
      · rw [if_neg same] at after
        exact unchanged after
  | advance nowNs => exact unchanged rfl
  | fireNext env =>
      dsimp only [Host.step] at unchanged ⊢
      split
      · rw [before]
        exact .kept
      · rcases Engine.keepsOrRemoves_fireTimer host.engine handle _ _ env with same | gone
        · rw [same, before]
          exact .kept
        · rw [gone]
          exact .timer env
  | flush sent => exact unchanged (Engine.stateAt_drainTxPendingData host.engine handle sent)
  | reap nowNs =>
      have reaped := Engine.stateAt_reapTimeWait host.engine handle present nowNs
      split at reaped
      · rename_i expired
        rw [Host.step, reaped]
        exact .reaped nowNs expired
      · exact unchanged (reaped.trans before.symm)
  | twSkip target nowNs =>
      exact unchanged (Engine.stateAt_requestTwSkip host.engine target handle nowNs)

end DpdkTcp
