import DpdkTcp.Send.Slack

/-!
# References across the calls of the engine

The processing of a segment, the timer handlers, `connect` and `close_conn` take
and give back references in step with the entries and frames, provided the pools
hand out free buffers. `tcp_input` removes a connection without looking at its
entries; there the proviso is that it has none.
-/

namespace DpdkTcp

namespace Engine

variable (engine : Engine) (handle : ConnHandle)

/-! ### Segments -/

theorem conserves_sendSideAfter (outcome : Outcome) (env : InputEnv)
    (free : engine.rackLostFree handle env.retransmits outcome.rackLostIndexes = true) :
    Conserves engine (engine.sendSideAfter handle outcome env) := by
  have resent := conserves_retransmitRackLost engine handle env.retransmits _ free
  dsimp only [sendSideAfter]
  generalize armed_eq : Engine.armTlpPto _ handle env.nowNs = armedEngine
  have armed : Conserves engine armedEngine := by
    rw [← armed_eq]
    refine .trans ?_ (conserves_armTlpPto _ handle env.nowNs)
    split
    · exact resent.trans (conserves_pruneAcked _ _ _ _)
    · exact resent
  split
  · rename_i id _
    refine armed.trans ((conserves_cancelTimer _ id).trans ?_)
    exact conserves_modifyConn _ _ fun _ => rfl
  · exact armed

theorem conserves_answer (tx : TxAction) (env : InputEnv) :
    Conserves engine (engine.answer handle tx env) := by
  unfold answer
  split
  · exact .refl engine
  · unfold emitAck
    split
    · exact conserves_modifyConn _ _ fun _ => rfl
    · exact .refl engine
  · exact conserves_transitionConn _ _ _ _
  · exact conserves_transitionConn _ _ _ _

theorem conserves_handOver (delivered rxHwTsNs emittedTsNs : ℕ) :
    Conserves engine (engine.handOver handle delivered rxHwTsNs emittedTsNs) := by
  cases present : engine.flowTable.get handle with
  | none =>
      dsimp only [handOver, deliverReadable]
      rw [present]
      exact .of_same rfl rfl rfl rfl
  | some conn =>
      dsimp only [handOver, deliverReadable]
      rw [present]
      obtain ⟨popped, written⟩ : ∃ popped, popped = { conn with
          recv := { conn.recv with bytes := (splitDelivered delivered conn.recv.bytes).rest }
          deliveredSegments := [] } :=
        ⟨_, rfl⟩
      dsimp only
      rw [← written]
      have kept : popped.entryMbufs = conn.entryMbufs := by rw [written, TcpConn.entryMbufs, TcpConn.entryMbufs]
      exact (conserves_set engine handle present kept).trans (.of_same rfl rfl rfl rfl)

theorem conserves_deliverEvents (outcome : Outcome) (env : InputEnv) :
    Conserves engine (engine.deliverEvents handle outcome env) := by
  have connected : Conserves engine
      (if outcome.connected then engine.pushEvent (.connected handle env.rxHwTsNs env.nowNs)
        else engine) := by
    split
    · exact conserves_pushEvent _ _
    · exact .refl engine
  dsimp only [deliverEvents]
  split
  · exact connected.trans (conserves_handOver _ handle _ _ _)
  · exact connected

/-- A segment that closes its connection removes it. -/
theorem conserves_finishClosed (outcome : Outcome) (env : InputEnv)
    (idle : outcome.closed = true → engine.Idle handle) :
    Conserves engine (engine.finishClosed handle outcome env) := by
  dsimp only [finishClosed]
  split
  · rename_i closed
    have reported := conserves_pushEvent engine (.closed handle 0 env.nowNs)
    split
    · split
      · exact reported.trans (conserves_removeConn _ handle (idle closed))
      · exact reported
    · exact reported
  · exact .refl engine

theorem conserves_receiveSideAfter (outcome : Outcome) (env : InputEnv)
    (idle : outcome.closed = true → engine.Idle handle) :
    Conserves engine (engine.receiveSideAfter handle outcome env) := by
  have waited : Conserves engine (engine.restartTimeWait handle outcome env.nowNs) := by
    apply conserves_modifyConn
    intro conn
    split <;> rfl
  have waitedIdle : outcome.closed = true →
      (engine.restartTimeWait handle outcome env.nowNs).Idle handle :=
    fun closed => (idle closed).moved (restartTimeWait_moved engine handle outcome env.nowNs)
  have after : ∀ entered : Engine, (outcome.closed = true → entered.Idle handle) →
      Conserves entered (((entered.answer handle outcome.tx env).deliverEvents handle outcome
        env).finishClosed handle outcome env) := by
    intro entered enteredIdle
    refine ((conserves_answer entered handle outcome.tx env).trans
      (conserves_deliverEvents _ handle outcome env)).trans (conserves_finishClosed _ _ _ _ ?_)
    intro closed
    exact ((enteredIdle closed).moved (answer_moved entered handle outcome.tx env)).moved
      (deliverEvents_moved _ handle outcome env)
  dsimp only [receiveSideAfter]
  split
  · exact (waited.trans (conserves_transitionConn _ _ _ _)).trans
      (after _ fun closed => (waitedIdle closed).transitionConn _ _)
  · exact waited.trans (after _ waitedIdle)

/-- The engine with the connection a dispatch left. -/
def notified (mbufCtx : Option MbufInsertCtx) (dispatched : Dispatched) (nowNs : ℕ) : Engine :=
  let written := engine.written handle mbufCtx dispatched
  if dispatched.outcome.writableHysteresisFired then written.pushEvent (.writable handle nowNs)
  else written

end Engine

theorem SegmentSend.entries {conn after : TcpConn} {seg : ParsedSegment} {nowNs : ℕ}
    {outcome : Outcome} (send : SegmentSend conn seg nowNs after outcome) :
    EntriesKept conn.sndRetrans.entries after.sndRetrans.entries := by
  cases send with
  | kept send _ _ _ => exact send.entries
  | opened _ send _ _ => exact send.entries
  | acked _ _ send _ _ _ => exact send.entries
  | closing _ _ send _ _ => exact send.entries

namespace Engine

variable (engine : Engine) (handle : ConnHandle)

theorem conserves_tcpInput {conn : TcpConn} (present : engine.flowTable.get handle = some conn)
    (seg : ParsedSegment) (mbufCtx : Option MbufInsertCtx) (env : InputEnv)
    {dispatched : Dispatched}
    (processed : dispatched = dispatch conn seg env.clock engine.cfg.sendBufferBytes mbufCtx)
    (free : (engine.notified handle mbufCtx dispatched env.nowNs).rackLostFree handle env.retransmits
      dispatched.outcome.rackLostIndexes = true)
    (idle : dispatched.outcome.closed = true → conn.entryMbufs = []) :
    Conserves engine (engine.tcpInput handle seg mbufCtx env) := by
  have entries : dispatched.conn.entryMbufs = conn.entryMbufs := by
    rw [processed]
    exact (dispatch_send conn seg env.clock engine.cfg.sendBufferBytes mbufCtx).entries.mbufs
  have input : engine.tcpInput handle seg mbufCtx env =
      ((engine.notified handle mbufCtx dispatched env.nowNs).sendSideAfter handle
        dispatched.outcome env).receiveSideAfter handle dispatched.outcome env := by
    rw [processed]
    dsimp only [tcpInput]
    rw [present]
    rfl
  have taken : Conserves engine (engine.notified handle mbufCtx dispatched env.nowNs) := by
    have written : Conserves engine (engine.written handle mbufCtx dispatched) :=
      (conserves_set engine handle present entries).trans (.of_same rfl rfl rfl rfl)
    dsimp only [notified]
    split
    · exact written.trans (conserves_pushEvent _ _)
    · exact written
  have takenIdle : dispatched.outcome.closed = true →
      (engine.notified handle mbufCtx dispatched env.nowNs).Idle handle := by
    intro closed conn' live
    have table : (engine.notified handle mbufCtx dispatched env.nowNs).flowTable =
        engine.flowTable.set handle dispatched.conn := by
      dsimp only [notified]
      split <;> rfl
    rw [table, FlowTable.get_set present, if_pos rfl] at live
    rw [← Option.some.inj live, entries]
    exact idle closed
  rw [input]
  refine (taken.trans (conserves_sendSideAfter _ handle dispatched.outcome env free)).trans
    (conserves_receiveSideAfter _ handle dispatched.outcome env ?_)
  intro closed conn' live
  rcases (sendSideAfter_conns _ handle dispatched.outcome env).2.1 handle conn' live with
    ⟨started, found, kept⟩
  have empty : started.sndRetrans.entries = [] :=
    List.map_eq_nil_iff.mp (takenIdle closed started found)
  have left : started.entriesLeft (if handle = handle then dispatched.outcome.sndUnaAdvancedTo
      else none) = [] := by
    unfold TcpConn.entriesLeft
    split
    · rw [SendRetrans.pruneBelow, empty]
      rfl
    · exact empty
  rw [left] at kept
  exact kept.entries.mbufs

/-! ### Timers -/

theorem conserves_reportRto (chosen : List ℕ) (eventNs : ℕ) :
    Conserves engine (engine.reportRto handle chosen eventNs) := by
  have folded : ∀ (chosen : List ℕ) (engine : Engine), Conserves engine
      (chosen.foldl (fun engine index => engine.reportRetrans handle index eventNs) engine) := by
    intro chosen
    induction chosen with
    | nil => exact fun engine => .refl engine
    | cons index rest ih =>
        exact fun engine => (conserves_reportRetrans engine handle index eventNs).trans (ih _)
  unfold reportRto
  split
  · exact (folded chosen engine).trans (conserves_pushEvent _ _)
  · exact .refl engine

theorem conserves_rearmOrGiveUp (noBackoff : Bool) (env : RtoEnv) :
    Conserves engine (engine.rearmOrGiveUp handle noBackoff env) := by
  dsimp only [rearmOrGiveUp]
  split
  · exact conserves_forceCloseEtimedout engine handle env.closeNs
  · refine .trans ?_ (conserves_armRto _ handle env.timerNs)
    split
    · exact .refl engine
    · exact conserves_modifyConn _ _ fun _ => rfl

/-- The connection when the handler of its RTO timer calls `retransmit`. -/
def rtoCleared (conn : TcpConn) (firedId : TimerId) (env : RtoEnv) : Engine :=
  (engine.modifyConn handle fun conn =>
    { conn.withoutTimer firedId with rtoTimerId := none }).markLost handle
      (conn.rtoLostIndexes env.markNs)

/-- The entries an RTO fire sends again. -/
def rtoChosen (conn : TcpConn) (env : RtoEnv) : List ℕ :=
  if conn.rtoLostIndexes env.markNs = [] then [0] else conn.rtoLostIndexes env.markNs

/-- An RTO fire takes its headers from free buffers. -/
def rtoFree (firedId : TimerId) (env : RtoEnv) : Bool :=
  (engine.flowTable.get handle).all fun conn =>
    conn.rtoTimerId ≠ some firedId || conn.sndRetrans.isEmpty ||
      (engine.rtoCleared handle conn firedId env).retransmitAllFree handle env.retransmits
        (rtoChosen conn env)

theorem conserves_onRtoFire (firedId : TimerId) (env : RtoEnv)
    (free : engine.rtoFree handle firedId env = true) :
    Conserves engine (engine.onRtoFire handle firedId env) := by
  dsimp only [onRtoFire]
  split
  · exact .refl engine
  · rename_i conn present
    split
    · exact .refl engine
    · rename_i current
      have cleared : Conserves engine (engine.modifyConn handle fun conn =>
          { conn.withoutTimer firedId with rtoTimerId := none }) :=
        conserves_modifyConn _ _ fun _ => rfl
      split
      · exact cleared
      · rename_i busy
        have marked : Conserves engine (engine.rtoCleared handle conn firedId env) := by
          refine cleared.trans (conserves_modifyConn _ _ ?_)
          exact fun conn => (entriesKept_markLost conn.sndRetrans _).mbufs
        have allocated : (engine.rtoCleared handle conn firedId env).retransmitAllFree handle
            env.retransmits (rtoChosen conn env) = true := by
          simpa [rtoFree, present, not_not.mp current, busy] using free
        have resent := marked.trans (conserves_retransmitAll _ handle env.retransmits _ allocated)
        exact (resent.trans (conserves_reportRto _ handle _ env.eventNs)).trans
          (conserves_rearmOrGiveUp _ handle _ env)

variable {engine} in
theorem releaseMbufs_mbufs {other : Engine} (mbufs : other.mbufs = engine.mbufs)
    (addrs : List ℕ) : (other.releaseMbufs addrs).mbufs = (engine.releaseMbufs addrs).mbufs := by
  unfold releaseMbufs
  induction addrs generalizing engine other with
  | nil => exact mbufs
  | cons addr rest ih =>
      apply ih
      dsimp only [releaseMbuf, setMbuf]
      rw [mbufs]

/-- What the pool hands out does not depend on the connections. -/
theorem retransmitFree_modifyConn (change : TcpConn → TcpConn) (env : RetransmitEnv) :
    (engine.modifyConn handle change).retransmitFree env = engine.retransmitFree env := by
  have drained : ((engine.modifyConn handle change).drainTxPendingData env.sent).mbufs =
      (engine.drainTxPendingData env.sent).mbufs := by
    apply releaseMbufs_mbufs
    rfl
  unfold retransmitFree handsOutFree
  rw [drained]

theorem conserves_onTlpFire (firedId : TimerId) (env : RetransmitEnv) (nowNs : ℕ)
    (free : engine.retransmitFree env = true) :
    Conserves engine (engine.onTlpFire handle firedId env nowNs) := by
  dsimp only [onTlpFire]
  split
  · exact .refl engine
  · rename_i conn _
    split
    · exact .refl engine
    · have cleared : Conserves engine (engine.modifyConn handle fun conn =>
          { conn.withoutTimer firedId with tlpTimerId := none }) :=
        conserves_modifyConn _ _ fun _ => rfl
      split
      · exact cleared
      · have probed := cleared.trans (conserves_retransmit _ handle
          (conn.sndRetrans.entries.length - 1)
          ((retransmitFree_modifyConn engine handle _ env).trans free))
        split
        · refine .trans ?_ ((conserves_reportRetrans _ _ _ _).trans (conserves_pushEvent _ _))
          refine probed.trans (conserves_modifyConn _ handle ?_)
          intro conn'
          split <;> rfl
        · refine probed.trans (conserves_modifyConn _ handle ?_)
          intro conn'
          split <;> rfl

theorem conserves_onSynRetransFire (firedId : TimerId) (nowNs : ℕ) :
    Conserves engine (engine.onSynRetransFire handle firedId nowNs) := by
  dsimp only [onSynRetransFire]
  split
  · exact .refl engine
  · split
    · exact .refl engine
    · have cleared : Conserves engine (engine.modifyConn handle fun conn =>
          { conn.withoutTimer firedId with synRetransTimerId := none }) :=
        conserves_modifyConn _ _ fun _ => rfl
      split
      · exact cleared
      · split
        · refine .trans ?_ (conserves_forceCloseEtimedout _ handle nowNs)
          exact cleared.trans (conserves_modifyConn _ _ fun _ => rfl)
        · refine .trans ?_ (conserves_armSynRetrans _ handle nowNs _)
          exact cleared.trans (conserves_modifyConn _ _ fun _ => rfl)

/-- The header buffers of a timer's handler are free when they are allocated. -/
def fireFree (id : TimerId) (node : TimerNode) (env : FireEnv) : Bool :=
  match node.kind with
  | .rto => engine.rtoFree node.ownerHandle id env.rto
  | .tlp => engine.retransmitFree env.tlp
  | .synRetrans | .apiPublic => true

theorem conserves_fireTimer (id : TimerId) (node : TimerNode) (env : FireEnv)
    (free : engine.fireFree id node env = true) :
    Conserves engine (engine.fireTimer id node env) := by
  unfold fireFree at free
  unfold fireTimer
  split
  · rename_i kind
    rw [kind] at free
    exact conserves_onRtoFire engine _ id env.rto free
  · rename_i kind
    rw [kind] at free
    exact conserves_onTlpFire engine _ id env.tlp env.nowNs free
  · exact conserves_onSynRetransFire engine _ id env.nowNs
  · exact conserves_pushEvent _ _

/-! ### Opening, closing and the end of the wait -/

theorem conserves_closeConn (finSent : Bool) (nowNs : ℕ) :
    Conserves engine (engine.closeConn handle finSent nowNs) := by
  dsimp only [closeConn]
  split
  · exact .refl engine
  · split
    · exact .refl engine
    · split
      · exact .refl engine
      · refine .trans ?_ (conserves_transitionConn _ _ _ _)
        refine .trans ?_ (conserves_modifyConn _ _ fun _ => rfl)
        exact conserves_recordSentAtOnce _ _

theorem conserves_requestTwSkip (nowNs : ℕ) :
    Conserves engine (engine.requestTwSkip handle nowNs) := by
  unfold requestTwSkip
  split
  · exact conserves_modifyConn _ _ fun _ => rfl
  · exact conserves_pushEvent _ _

/-- A new connection has no entries. -/
theorem conserves_insert {conn : TcpConn} {table : FlowTable} {fresh : ConnHandle}
    (inserted : engine.flowTable.insert conn = (table, some fresh))
    (empty : conn.entryMbufs = []) : Conserves engine { engine with flowTable := table } := by
  have refs : ∀ addr, (table.slots.flatMap slotMbufs).count addr = engine.entryRefs addr := by
    intro addr
    dsimp only [FlowTable.insert] at inserted
    split at inserted
    · cases inserted
    · split at inserted
      · cases inserted
      · rename_i slot found
        cases inserted
        have vacant := (List.findIdx?_eq_some_iff_getElem.mp found)
        rcases vacant with ⟨inside, none, _⟩
        have cell : engine.flowTable.slots[slot]? = some Option.none := by
          rw [List.getElem?_eq_getElem inside]
          simpa using none
        have exchanged := Cells.count_flatMap_set slotMbufs cell (some conn) addr
        have nothing : slotMbufs (some conn) = [] := empty
        rw [nothing, List.count_nil] at exchanged
        exact exchanged
  refine ⟨fun addr => ?_, fun addr => Nat.le_of_eq (refs addr)⟩
  have same := refs addr
  dsimp only [slack, entryRefs, frameRefs] at same ⊢
  rw [same]

theorem conserves_connectWithOpts (tuple : FourTuple) (iss : Seq) (ourMss : UInt16)
    (opts : ConnectOpts) (synSent : Bool) (nowNs : ℕ) :
    Conserves engine (engine.connectWithOpts tuple iss ourMss opts synSent nowNs).1 := by
  dsimp only [connectWithOpts]
  split
  · exact .refl engine
  · split
    · exact .refl engine
    · split
      · exact .refl engine
      · rename_i fresh chosen
        have inserted := conserves_insert engine
          (Prod.ext rfl chosen : engine.flowTable.insert
            (engine.connecting tuple iss ourMss opts nowNs) = (_, some fresh)) rfl
        split
        · refine inserted.trans (conserves_dropConn _ fresh ?_)
          intro conn live
          have table := (FlowTable.get_insert (Prod.ext rfl chosen :
            engine.flowTable.insert (engine.connecting tuple iss ourMss opts nowNs) =
              (_, some fresh)) fresh).2
          rw [if_pos rfl] at table
          rw [table] at live
          rw [← Option.some.inj live]
          rfl
        · exact inserted.trans ((conserves_recordOpened _ _ _).trans
            ((conserves_transitionConn _ _ _ _).trans (conserves_armSynRetrans _ _ _ _)))

end Engine

end DpdkTcp
