import DpdkTcp.Timers.Running
import DpdkTcp.Timers.ProbeTimer
import DpdkTcp.Lifecycle.Live
import DpdkTcp.Send.Refs
import DpdkTcp.Send.Timeout

/-!
# A retransmission timer while something is in flight

A connection knows a retransmission timer just while its queue of transmitted
segments is not empty, as long as its timeout is positive. Most of the engine
touches neither; `send_bytes` arms the timer with the first entry, the pruning
cancels it with the last, and the handler that takes its name off puts another
in its place.
-/

namespace DpdkTcp

namespace TcpConn

/-- The connection knows a retransmission timer just if something is in flight. -/
def Watched (conn : TcpConn) : Prop :=
  conn.rtoTimerId.isSome = !conn.sndRetrans.isEmpty

/-- Nothing of this is touched. -/
structure SameRto (before after : TcpConn) : Prop where
  timer : after.rtoTimerId = before.rtoTimerId
  idle : after.sndRetrans.isEmpty = before.sndRetrans.isEmpty
  rttEst : after.rttEst = before.rttEst

/-- A change that leaves a watched connection watched, and a lasting timeout lasting. -/
structure KeepsWatched (before after : TcpConn) : Prop where
  lasting : before.rttEst.Lasting → after.rttEst.Lasting
  positive : 0 < after.rttEst.rtoUs → 0 < before.rttEst.rtoUs
  watched : 0 < after.rttEst.rtoUs → before.Watched → after.Watched

variable {first second third : TcpConn}

theorem SameRto.refl (conn : TcpConn) : SameRto conn conn :=
  ⟨rfl, rfl, rfl⟩

theorem SameRto.trans (left : SameRto first second) (right : SameRto second third) :
    SameRto first third :=
  ⟨right.timer.trans left.timer, right.idle.trans left.idle, right.rttEst.trans left.rttEst⟩

theorem SameRto.keepsWatched (same : SameRto first second) : KeepsWatched first second := by
  refine ⟨fun lasting => same.rttEst ▸ lasting, fun positive => same.rttEst ▸ positive,
    fun _ watched => ?_⟩
  unfold Watched
  rw [same.timer, same.idle]
  exact watched

theorem KeepsWatched.trans (left : KeepsWatched first second) (right : KeepsWatched second third) :
    KeepsWatched first third :=
  ⟨fun lasting => right.lasting (left.lasting lasting),
    fun positive => left.positive (right.positive positive),
    fun positive watched =>
      right.watched positive (left.watched (right.positive positive) watched)⟩

theorem sameRto_resent (conn : TcpConn) (index nowNs : ℕ) :
    SameRto conn (conn.resent index nowNs) :=
  ⟨rfl, (kept_resent conn index nowNs).entries.isEmpty, rfl⟩

end TcpConn

open TcpConn (SameRto KeepsWatched)

namespace Engine

/-- A connection the handle has afterwards comes from the one it had before. -/
def Stems (Keeps : TcpConn → TcpConn → Prop) (handle : ConnHandle) (before after : Engine) : Prop :=
  ∀ conn', after.flowTable.get handle = some conn' →
    ∃ conn, before.flowTable.get handle = some conn ∧ Keeps conn conn'

/-- Every connection is watched. -/
def Watched (engine : Engine) : Prop :=
  ∀ handle conn, engine.flowTable.get handle = some conn → conn.Watched

section Stems

variable {Keeps : TcpConn → TcpConn → Prop} {handle : ConnHandle} {first second third : Engine}

theorem Stems.mono {Holds : TcpConn → TcpConn → Prop} (stems : Stems Keeps handle first second)
    (weaker : ∀ {conn conn'}, Keeps conn conn' → Holds conn conn') :
    Stems Holds handle first second := by
  intro conn' live
  rcases stems conn' live with ⟨conn, present, keeps⟩
  exact ⟨conn, present, weaker keeps⟩

theorem Stems.keepsWatched (stems : Stems SameRto handle first second) :
    Stems KeepsWatched handle first second :=
  stems.mono SameRto.keepsWatched

/-- The connections of the handle are the same. -/
theorem Stems.of_get (same : second.flowTable.get handle = first.flowTable.get handle) :
    Stems SameRto handle first second :=
  fun conn' live => ⟨conn', same.symm.trans live, .refl conn'⟩

theorem Stems.of_table (same : second.flowTable = first.flowTable) :
    Stems SameRto handle first second :=
  .of_get (congrArg (fun table => table.get handle) same)

theorem Stems.refl (engine : Engine) : Stems SameRto handle engine engine :=
  .of_table rfl

theorem Stems.gone (gone : second.flowTable.get handle = none) : Stems Keeps handle first second := by
  intro conn' live
  rw [gone] at live
  cases live

theorem Stems.trans (left : Stems SameRto handle first second)
    (right : Stems SameRto handle second third) : Stems SameRto handle first third := by
  intro conn'' live
  rcases right conn'' live with ⟨conn', between, later⟩
  rcases left conn' between with ⟨conn, present, keeps⟩
  exact ⟨conn, present, keeps.trans later⟩

theorem Stems.followed (left : Stems KeepsWatched handle first second)
    (right : Stems KeepsWatched handle second third) : Stems KeepsWatched handle first third := by
  intro conn'' live
  rcases right conn'' live with ⟨conn', between, later⟩
  rcases left conn' between with ⟨conn, present, keeps⟩
  exact ⟨conn, present, keeps.trans later⟩

theorem Stems.modify (engine : Engine) (change : TcpConn → TcpConn)
    (keeps : ∀ conn, engine.flowTable.get handle = some conn → Keeps conn (change conn)) :
    Stems Keeps handle engine (engine.modifyConn handle change) := by
  intro conn' live
  rw [modifyConn, FlowTable.get_modify, if_pos rfl] at live
  rcases Option.map_eq_some_iff.mp live with ⟨conn, present, rfl⟩
  exact ⟨conn, present, keeps conn present⟩

end Stems

/-! ### What touches neither -/

variable (engine : Engine) (handle : ConnHandle)

theorem pushEvent_stems (event : InternalEvent) :
    Stems SameRto handle engine (engine.pushEvent event) :=
  .of_table (pushEvent_change engine event).flowTable

theorem transitionConn_stems (target : TcpState) (nowNs : ℕ) :
    Stems SameRto handle engine (engine.transitionConn handle target nowNs) := by
  dsimp only [transitionConn]
  split
  · exact .refl engine
  · split
    · exact .refl engine
    · refine .trans ?_ (pushEvent_stems _ handle _)
      exact .modify engine _ fun conn _ => ⟨rfl, rfl, rfl⟩

theorem armTlpPto_stems (nowNs : ℕ) : Stems SameRto handle engine (engine.armTlpPto handle nowNs) := by
  dsimp only [armTlpPto]
  split
  · exact .refl engine
  · split
    · exact .trans (.of_table rfl) (.modify _ _ fun conn _ => ⟨rfl, rfl, rfl⟩)
    · exact .refl engine

theorem armSynRetrans_stems (nowNs delayUs : ℕ) :
    Stems SameRto handle engine (engine.armSynRetrans handle nowNs delayUs) :=
  .trans (.of_table rfl) (.modify _ _ fun _ _ => ⟨rfl, rfl, rfl⟩)

theorem stopTlp_stems : Stems SameRto handle engine (engine.stopTlp handle) := by
  unfold stopTlp
  split
  · exact .refl engine
  · exact .trans (.of_table rfl) (.modify _ _ fun conn _ => ⟨rfl, rfl, rfl⟩)

theorem reportRetrans_stems (index nowNs : ℕ) :
    Stems SameRto handle engine (engine.reportRetrans handle index nowNs) :=
  .of_table (reportRetrans_flowTable engine handle index nowNs)

theorem retransmit_stems (index : ℕ) (env : RetransmitEnv) :
    Stems SameRto handle engine (engine.retransmit handle index env) := by
  rcases retransmit_cases engine handle index env with
    ⟨change, _, _⟩ | ⟨conn, entry, _, _, _, ⟨change, _⟩ | ⟨_, pushed, change, sent⟩⟩
  · exact .of_table change.flowTable
  · exact .of_table change.flowTable
  · rw [sent]
    exact .trans (.of_table change.flowTable)
      (.modify pushed _ fun conn _ => conn.sameRto_resent index env.nowNs)

theorem retransmitAll_stems (envs : ℕ → RetransmitEnv) (indexes : List ℕ) :
    Stems SameRto handle engine (engine.retransmitAll handle envs indexes) := by
  induction indexes generalizing engine envs with
  | nil => exact .refl engine
  | cons index rest ih => exact .trans (retransmit_stems engine handle index (envs 0)) (ih _ _)

theorem retransmitRackLost_stems (envs : ℕ → RetransmitEnv) (indexes : List ℕ) :
    Stems SameRto handle engine (engine.retransmitRackLost handle envs indexes) := by
  induction indexes generalizing engine envs with
  | nil => exact .refl engine
  | cons index rest ih =>
      have resent := retransmit_stems engine handle index (envs 0)
      refine .trans ?_ (ih _ _)
      split
      · exact .trans (.trans resent (reportRetrans_stems _ handle index _))
          (pushEvent_stems _ handle _)
      · exact resent

theorem reportRto_stems (chosen : List ℕ) (eventNs : ℕ) :
    Stems SameRto handle engine (engine.reportRto handle chosen eventNs) := by
  have folded : ∀ (chosen : List ℕ) (engine : Engine),
      Stems SameRto handle engine
        (chosen.foldl (fun engine index => engine.reportRetrans handle index eventNs) engine) := by
    intro chosen
    induction chosen with
    | nil => exact fun engine => .refl engine
    | cons index rest ih =>
        exact fun engine => .trans (reportRetrans_stems engine handle index eventNs) (ih _)
  unfold reportRto
  split
  · exact .trans (folded chosen engine) (pushEvent_stems _ handle _)
  · exact .refl engine

theorem removeConn_stems : Stems SameRto handle engine (engine.removeConn handle) := by
  dsimp only [removeConn]
  split
  · exact .refl engine
  · refine .gone ?_
    dsimp only [dropConn]
    rw [FlowTable.get_remove, if_pos rfl]

theorem answer_stems (tx : TxAction) (env : InputEnv) :
    Stems SameRto handle engine (engine.answer handle tx env) := by
  unfold answer emitAck
  split
  · exact .refl engine
  · split
    · exact .modify engine _ fun conn _ => ⟨rfl, rfl, rfl⟩
    · exact .refl engine
  · exact transitionConn_stems engine handle .closed env.nowNs
  · exact transitionConn_stems engine handle .closed env.nowNs

theorem handOver_stems (delivered rxHwTsNs emittedTsNs : ℕ) :
    Stems SameRto handle engine (engine.handOver handle delivered rxHwTsNs emittedTsNs) := by
  intro conn' live
  dsimp only [handOver, deliverReadable] at live
  split at live
  · exact ⟨conn', live, .refl conn'⟩
  · rename_i conn present
    rw [FlowTable.get_set present, if_pos rfl] at live
    cases live
    exact ⟨conn, present, rfl, rfl, rfl⟩

theorem deliverEvents_stems (outcome : Outcome) (env : InputEnv) :
    Stems SameRto handle engine (engine.deliverEvents handle outcome env) := by
  have connected : Stems SameRto handle engine
      (if outcome.connected then engine.pushEvent (.connected handle env.rxHwTsNs env.nowNs)
        else engine) := by
    split
    · exact pushEvent_stems engine handle _
    · exact .refl engine
  dsimp only [deliverEvents]
  split
  · exact .trans connected (handOver_stems _ handle _ _ _)
  · exact connected

theorem finishClosed_stems (outcome : Outcome) (env : InputEnv) :
    Stems SameRto handle engine (engine.finishClosed handle outcome env) := by
  dsimp only [finishClosed]
  split
  · have reported := pushEvent_stems engine handle (.closed handle 0 env.nowNs)
    split
    · split
      · exact .trans reported (removeConn_stems _ handle)
      · exact reported
    · exact reported
  · exact .refl engine

theorem receiveSideAfter_stems (outcome : Outcome) (env : InputEnv) :
    Stems SameRto handle engine (engine.receiveSideAfter handle outcome env) := by
  have waited : Stems SameRto handle engine
      (engine.restartTimeWait handle outcome env.nowNs) := by
    refine .modify engine _ fun conn _ => ?_
    split
    · exact ⟨rfl, rfl, rfl⟩
    · exact .refl conn
  dsimp only [receiveSideAfter]
  refine .trans (.trans (.trans ?_ (answer_stems _ handle outcome.tx env))
    (deliverEvents_stems _ handle outcome env)) (finishClosed_stems _ handle outcome env)
  split
  · exact .trans waited (transitionConn_stems _ handle _ env.nowNs)
  · exact waited

theorem finishSend_stems (sending : Sending) (wanted tlpNs : ℕ) :
    Stems SameRto handle sending.engine (finishSend sending handle wanted tlpNs) := by
  have advanced : Stems SameRto handle sending.engine (sending.engine.modifyConn handle fun conn =>
      { conn with
        sndNxt := sending.curSeq
        sendRefusedPending :=
          if sending.accepted < wanted % 4294967296 then true else conn.sendRefusedPending }) :=
    .modify _ _ fun conn _ => ⟨rfl, rfl, rfl⟩
  dsimp only [finishSend]
  split
  · exact .trans advanced (armTlpPto_stems _ handle tlpNs)
  · exact advanced

theorem closeConn_stems (finSent : Bool) (nowNs : ℕ) :
    Stems SameRto handle engine (engine.closeConn handle finSent nowNs) := by
  dsimp only [closeConn]
  split
  · exact .refl engine
  · split
    · exact .refl engine
    · split
      · exact .refl engine
      · refine .trans ?_ (transitionConn_stems _ handle _ nowNs)
        exact .modify _ _ fun conn _ => ⟨rfl, rfl, rfl⟩

theorem requestTwSkip_stems (nowNs : ℕ) :
    Stems SameRto handle engine (engine.requestTwSkip handle nowNs) := by
  unfold requestTwSkip
  split
  · exact .modify engine _ fun conn _ => ⟨rfl, rfl, rfl⟩
  · exact pushEvent_stems engine handle _

theorem forceCloseEtimedout_stems (nowNs : ℕ) :
    Stems SameRto handle engine (engine.forceCloseEtimedout handle nowNs) := by
  refine .gone ?_
  rw [forceCloseEtimedout_get, if_pos rfl]

/-- The record of a probe changes neither the queue's timer nor the queue. -/
theorem recordProbe_stems (index nowNs : ℕ) :
    Stems SameRto handle engine (engine.modifyConn handle fun after =>
      match after.sndRetrans.entries[index]? with
      | some entry => after.onTlpProbeFired entry.seq entry.len nowNs
      | none => after) := by
  refine .modify engine _ fun after _ => ?_
  split
  · exact ⟨rfl, rfl, rfl⟩
  · exact .refl after

theorem onTlpFire_stems (firedId : TimerId) (env : RetransmitEnv) (nowNs : ℕ) :
    Stems SameRto handle engine (engine.onTlpFire handle firedId env nowNs) := by
  dsimp only [onTlpFire]
  split
  · exact .refl engine
  · rename_i conn present
    split
    · exact .refl engine
    · have cleared : Stems SameRto handle engine (engine.modifyConn handle fun conn =>
          { conn.withoutTimer firedId with tlpTimerId := none }) :=
        .modify engine _ fun conn _ => ⟨rfl, rfl, rfl⟩
      split
      · exact cleared
      · have probed := cleared.trans
          (retransmit_stems _ handle (conn.sndRetrans.entries.length - 1) env)
        have recorded := probed.trans
          (recordProbe_stems _ handle (conn.sndRetrans.entries.length - 1) nowNs)
        split
        · exact .trans (.trans recorded (reportRetrans_stems _ handle _ nowNs))
            (pushEvent_stems _ handle _)
        · exact recorded

theorem onSynRetransFire_stems (firedId : TimerId) (nowNs : ℕ) :
    Stems SameRto handle engine (engine.onSynRetransFire handle firedId nowNs) := by
  dsimp only [onSynRetransFire]
  split
  · exact .refl engine
  · rename_i conn present
    split
    · exact .refl engine
    · have cleared : Stems SameRto handle engine (engine.modifyConn handle fun conn =>
          { conn.withoutTimer firedId with synRetransTimerId := none }) :=
        .modify engine _ fun conn _ => ⟨rfl, rfl, rfl⟩
      split
      · exact cleared
      · have counted : Stems SameRto handle engine
            ((engine.modifyConn handle fun conn =>
              { conn.withoutTimer firedId with synRetransTimerId := none }).modifyConn handle
              fun after => { after with synRetransCount := min (conn.synRetransCount + 1) 255 }) := by
          refine .trans cleared ?_
          exact .modify _ _ fun conn _ => ⟨rfl, rfl, rfl⟩
        split
        · exact .trans counted (forceCloseEtimedout_stems _ handle nowNs)
        · exact .trans counted (armSynRetrans_stems _ handle nowNs _)

/-! ### What arms and cancels the timer -/

/-- The timer is armed or not, as long as the timeout is positive; the rest is the same. -/
structure Retimed (armed : Bool) (before after : TcpConn) : Prop where
  timer : 0 < after.rttEst.rtoUs → after.rtoTimerId.isSome = armed
  entries : after.sndRetrans = before.sndRetrans
  rttEst : after.rttEst = before.rttEst

theorem stopRto_stems : Stems (Retimed false) handle engine (engine.stopRto handle) := by
  unfold stopRto
  split
  · rename_i unnamed
    intro conn live
    rw [live] at unnamed
    have none : conn.rtoTimerId = none := unnamed
    exact ⟨conn, live, fun _ => by rw [none]; rfl, rfl, rfl⟩
  · exact .modify _ _ fun _ _ => ⟨fun _ => rfl, rfl, rfl⟩

theorem armRto_stems (nowNs : ℕ) :
    Stems (Retimed true) handle engine (engine.armRto handle nowNs) := by
  dsimp only [armRto]
  split
  · rename_i absent
    exact .gone absent
  · rename_i conn present
    split
    · exact .modify _ _ fun _ _ => ⟨fun _ => rfl, rfl, rfl⟩
    · rename_i zero
      intro conn' live
      refine ⟨conn', live, fun positive => ?_, rfl, rfl⟩
      rw [present] at live
      cases live
      exact absurd positive zero

/-- The first entry of an idle connection arms the timer. -/
theorem stashEntry_stems (entry : RetransEntry) :
    Stems KeepsWatched handle engine (engine.stashEntry handle entry) := by
  have filled : ∀ conn : TcpConn, (conn.sndRetrans.pushAfterTx entry).isEmpty = false := by
    intro conn
    simp [SendRetrans.pushAfterTx, SendRetrans.isEmpty]
  dsimp only [stashEntry]
  intro conn' live
  split at live
  · rename_i conn present
    split at live
    · rcases armRto_stems _ handle entry.firstTxTsNs conn' live with ⟨stashed, between, arms⟩
      rw [modifyConn, FlowTable.get_modify, if_pos rfl, present] at between
      cases between
      refine ⟨conn, present, fun lasting => arms.rttEst ▸ lasting,
        fun positive => arms.rttEst ▸ positive, fun positive _ => ?_⟩
      unfold TcpConn.Watched
      rw [arms.timer positive, arms.entries, filled]
      rfl
    · rename_i known
      rw [modifyConn, FlowTable.get_modify, if_pos rfl, present] at live
      cases live
      refine ⟨conn, present, fun lasting => lasting, fun positive => positive,
        fun _ watched => ?_⟩
      -- a watched connection without a timer was idle, and the timer would have been armed
      unfold TcpConn.Watched at watched ⊢
      dsimp only
      rw [filled]
      cases idle : conn.sndRetrans.isEmpty with
      | true =>
          rw [idle] at watched known
          rw [Bool.true_and, Option.isNone_iff_eq_none] at known
          exact absurd (Option.isSome_eq_false_iff.mp watched) (by simpa using known)
      | false =>
          rw [idle] at watched
          exact watched
  · rename_i absent
    rw [modifyConn, FlowTable.get_modify, if_pos rfl, absent] at live
    cases live

/-- The acknowledgment of everything in flight cancels the timer, any other restarts it. -/
theorem pruneAcked_stems {newSndUna : Seq}
    (clears : ∀ conn, engine.flowTable.get handle = some conn →
      (conn.sndRetrans.pruneBelow newSndUna).isEmpty = true → conn.sndUna = conn.sndNxt)
    (nowNs : ℕ) : Stems KeepsWatched handle engine (engine.pruneAcked handle newSndUna nowNs) := by
  dsimp only [pruneAcked]
  split
  · rename_i absent
    exact .gone absent
  · rename_i conn present
    have cleared := clears conn present
    intro conn' live
    refine ⟨conn, present, ?_⟩
    -- the connection behind the pruning, before the timers
    have pruned : ∀ after, (((engine.modifyConn handle fun conn' =>
        { conn' with sndRetrans := conn.sndRetrans.pruneBelow newSndUna }).releaseMbufs
          ((conn.sndRetrans.prunedBelow newSndUna).map RetransEntry.mbuf)).flowTable.get handle =
            some after) → after = { conn with sndRetrans := conn.sndRetrans.pruneBelow newSndUna } := by
      intro after found
      rw [releaseMbufs_only] at found
      dsimp only at found
      rw [modifyConn, FlowTable.get_modify, if_pos rfl, present] at found
      cases found
      rfl
    generalize (engine.modifyConn handle fun conn' =>
      { conn' with sndRetrans := conn.sndRetrans.pruneBelow newSndUna }).releaseMbufs
        ((conn.sndRetrans.prunedBelow newSndUna).map RetransEntry.mbuf) = freed at pruned live
    cases drained : (conn.sndRetrans.pruneBelow newSndUna).isEmpty with
    | true =>
        rw [drained, cleared drained] at live
        simp only [beq_self_eq_true, Bool.and_true, if_true, Bool.not_true, Bool.false_and,
          Bool.false_eq_true, if_false] at live
        rcases stopTlp_stems _ handle conn' live with ⟨stopped, liveStopped, same⟩
        rcases stopRto_stems _ handle stopped liveStopped with ⟨after, found, stops⟩
        cases pruned after found
        have rttEst : conn'.rttEst = conn.rttEst := same.rttEst.trans stops.rttEst
        refine ⟨fun lasting => rttEst ▸ lasting, fun positive => rttEst ▸ positive,
          fun positive _ => ?_⟩
        unfold TcpConn.Watched
        rw [same.timer, stops.timer (same.rttEst ▸ positive), same.idle, stops.entries, drained]
        rfl
    | false =>
        rw [drained] at live
        simp only [Bool.false_and, Bool.false_eq_true, if_false, Bool.not_false,
          Bool.true_and] at live
        cases timed : conn.rtoTimerId.isSome with
        | true =>
            rw [timed, if_pos rfl] at live
            rcases armRto_stems _ handle nowNs conn' live with ⟨stopped, liveStopped, arms⟩
            rcases stopRto_stems _ handle stopped liveStopped with ⟨after, found, stops⟩
            cases pruned after found
            have rttEst : conn'.rttEst = conn.rttEst := arms.rttEst.trans stops.rttEst
            refine ⟨fun lasting => rttEst ▸ lasting, fun positive => rttEst ▸ positive,
              fun positive _ => ?_⟩
            unfold TcpConn.Watched
            rw [arms.timer positive, arms.entries, stops.entries, drained]
            rfl
        | false =>
            rw [timed, if_neg Bool.false_ne_true] at live
            cases pruned conn' live
            refine ⟨fun lasting => lasting, fun positive => positive, fun _ watched => ?_⟩
            -- what is left was in flight before, so there was a timer
            unfold TcpConn.Watched at watched
            rw [timed] at watched
            have idle : conn.sndRetrans.entries = [] := by
              simpa [SendRetrans.isEmpty] using watched
            rw [SendRetrans.pruneBelow, idle] at drained
            cases drained

/-- The pruning behind an acknowledgment follows what was resent before it. -/
theorem pruneAdvance_stems {sent : Engine} (advance : Option Seq)
    (resent : Stems SameRto handle engine sent) (nowNs : ℕ) :
    (∀ ack conn, advance = some ack → sent.flowTable.get handle = some conn →
      (conn.sndRetrans.pruneBelow ack).isEmpty = true → conn.sndUna = conn.sndNxt) →
    Stems KeepsWatched handle engine
      (match advance with
        | some newSndUna => sent.pruneAcked handle newSndUna nowNs
        | none => sent) := by
  intro clears
  cases advance with
  | none => exact resent.keepsWatched
  | some ack =>
      exact .followed resent.keepsWatched
        (pruneAcked_stems sent handle (fun conn => clears ack conn rfl) nowNs)

theorem sendSideAfter_stems {outcome : Outcome}
    (clears : ∀ ack conn, outcome.sndUnaAdvancedTo = some ack →
      engine.flowTable.get handle = some conn →
      (conn.sndRetrans.pruneBelow ack).isEmpty = true → conn.sndUna = conn.sndNxt)
    (env : InputEnv) : Stems KeepsWatched handle engine (engine.sendSideAfter handle outcome env) := by
  have resent := retransmitRackLost_stems engine handle env.retransmits outcome.rackLostIndexes
  have moved : Moved (fun _ _ => True) engine _ :=
    retransmitRackLost_moved engine handle env.retransmits outcome.rackLostIndexes
      fun _ _ => trivial
  dsimp only [sendSideAfter]
  generalize engine.retransmitRackLost handle env.retransmits outcome.rackLostIndexes = sent
    at resent moved ⊢
  have pruned := pruneAdvance_stems engine handle outcome.sndUnaAdvancedTo resent env.nowNs (by
    intro ack conn advance live drained
    rcases moved.conns handle conn live with ⟨start, present, kept⟩
    rw [kept.send.sndUna, kept.send.sndNxt]
    exact clears ack start advance present
      ((kept.entries.dropWhile ack).isEmpty.symm.trans drained))
  have armed := Stems.followed pruned (armTlpPto_stems _ handle env.nowNs).keepsWatched
  split
  · refine .followed armed (Stems.keepsWatched ?_)
    exact .trans (.of_table rfl) (.modify _ _ fun conn _ => ⟨rfl, rfl, rfl⟩)
  · exact armed

theorem resendLost_stems (lost chosen : List ℕ) (env : RtoEnv) :
    Stems SameRto handle engine
      (((engine.markLost handle lost).retransmitAll handle env.retransmits chosen).reportRto handle
        chosen env.eventNs) := by
  have marked : Stems SameRto handle engine (engine.markLost handle lost) :=
    .modify _ _ fun conn _ => ⟨rfl, (entriesKept_markLost conn.sndRetrans lost).isEmpty, rfl⟩
  exact (marked.trans (retransmitAll_stems _ handle env.retransmits chosen)).trans
    (reportRto_stems _ handle chosen env.eventNs)

theorem rearmOrGiveUp_stems (noBackoff : Bool) (env : RtoEnv) :
    Stems (fun before after => (before.rttEst.Lasting → after.rttEst.Lasting) ∧
      (0 < after.rttEst.rtoUs → 0 < before.rttEst.rtoUs ∧ after.rtoTimerId.isSome = true) ∧
      after.sndRetrans = before.sndRetrans) handle engine
      (engine.rearmOrGiveUp handle noBackoff env) := by
  dsimp only [rearmOrGiveUp]
  split
  · refine .gone ?_
    rw [forceCloseEtimedout_get, if_pos rfl]
  · intro conn' live
    rcases armRto_stems _ handle env.timerNs conn' live with ⟨backedOff, between, arms⟩
    have backoff : Stems (fun before after => (before.rttEst.Lasting → after.rttEst.Lasting) ∧
        (0 < after.rttEst.rtoUs → 0 < before.rttEst.rtoUs) ∧
        after.sndRetrans = before.sndRetrans) handle engine
        (if noBackoff then engine
          else engine.modifyConn handle fun conn =>
            { conn with rttEst := conn.rttEst.applyBackoff }) := by
      split
      · exact fun conn live => ⟨conn, live, fun lasting => lasting, fun positive => positive, rfl⟩
      · refine .modify _ _ fun conn _ =>
          ⟨fun lasting => lasting.applyBackoff, fun positive => ?_, rfl⟩
        dsimp only [RttEstimator.applyBackoff] at positive
        omega
    rcases backoff backedOff between with ⟨conn, present, lasts, positive, entries⟩
    exact ⟨conn, present, fun lasting => arms.rttEst ▸ lasts lasting,
      fun armed => ⟨positive (arms.rttEst ▸ armed), arms.timer armed⟩, arms.entries.trans entries⟩

/-- The handler takes the name of the timer off and arms another, unless nothing is in flight. -/
theorem onRtoFire_stems (firedId : TimerId) (env : RtoEnv) :
    Stems KeepsWatched handle engine (engine.onRtoFire handle firedId env) := by
  dsimp only [onRtoFire]
  split
  · rename_i absent
    exact .gone absent
  · rename_i conn present
    split
    · exact (Stems.refl engine).keepsWatched
    · split
      · rename_i idle
        refine .modify engine _ fun live found => ?_
        rw [present] at found
        cases found
        refine ⟨fun lasting => lasting, fun positive => positive, fun _ _ => ?_⟩
        unfold TcpConn.Watched
        dsimp only [TcpConn.withoutTimer]
        rw [idle]
        rfl
      · rename_i filled
        intro conn' live
        rcases rearmOrGiveUp_stems _ handle conn.rtoNoBackoff env conn' live with
          ⟨reported, between, lasts, arms, entries⟩
        rcases resendLost_stems _ handle _ _ env reported between with ⟨cleared, found, same⟩
        rw [modifyConn, FlowTable.get_modify, if_pos rfl, present] at found
        cases found
        refine ⟨conn, present, fun lasting => ?_, fun armed => ?_, fun armed _ => ?_⟩
        · refine lasts ?_
          rw [same.rttEst]
          exact lasting
        · have before := (arms armed).1
          rw [same.rttEst] at before
          exact before
        · unfold TcpConn.Watched
          rw [(arms armed).2, entries, same.idle]
          dsimp only [TcpConn.withoutTimer]
          rw [eq_false_of_ne_true filled]
          rfl

theorem sendSegment_stems (conn : TcpConn) (mssCap : ℕ) (env : SendEnv) (sending : Sending) :
    Stems KeepsWatched handle sending.engine
      (sendSegment conn handle mssCap env sending).ended.engine := by
  dsimp only [sendSegment]
  split
  · exact (Stems.refl _).keepsWatched
  · split
    · exact (Stems.refl _).keepsWatched
    · split
      · exact (Stems.of_table rfl).keepsWatched
      · refine .followed (Stems.keepsWatched (.of_table ?_)) (stashEntry_stems _ handle _)
        exact (pushTxPendingData_change _ _ _).flowTable

theorem sendSegments_stems (conn : TcpConn) (mssCap turns : ℕ) (envs : ℕ → SendEnv)
    (sending : Sending) :
    Stems KeepsWatched handle sending.engine
      (sendSegments conn handle mssCap turns envs sending).ended.engine := by
  induction turns generalizing envs sending with
  | zero => exact (Stems.refl _).keepsWatched
  | succ turns ih =>
      have turn := sendSegment_stems handle conn mssCap (envs 0) sending
      dsimp only [sendSegments]
      split
      · exact (Stems.refl _).keepsWatched
      · cases ends : sendSegment conn handle mssCap (envs 0) sending with
        | sent next =>
            rw [ends] at turn
            exact .followed turn (ih _ next)
        | noMem next =>
            rw [ends] at turn
            exact turn
        | stopped next =>
            rw [ends] at turn
            exact turn

theorem sendBytes_stems (bytes : List UInt8) (envs : ℕ → SendEnv) (tlpNs : ℕ) :
    Stems KeepsWatched handle engine (engine.sendBytes handle bytes envs tlpNs).1 := by
  dsimp only [sendBytes]
  split
  · exact (Stems.refl engine).keepsWatched
  · rename_i conn _
    split
    · exact (Stems.refl engine).keepsWatched
    · have looped := sendSegments_stems handle conn (engine.mssCap conn)
        ((engine.admitted conn bytes).length + 1) envs
        ⟨engine, engine.admitted conn bytes, 0, conn.sndNxt⟩
      have finished : ∀ sending : Sending,
          Stems KeepsWatched handle engine sending.engine →
          Stems KeepsWatched handle engine (finishSend sending handle bytes.length tlpNs) :=
        fun sending sent => .followed sent (finishSend_stems handle sending _ tlpNs).keepsWatched
      generalize sendSegments conn handle (engine.mssCap conn) _ envs _ = ended at looped ⊢
      cases ended with
      | sent sending => exact finished sending looped
      | stopped sending => exact finished sending looped
      | noMem sending =>
          dsimp only
          split
          · exact looped
          · exact finished sending looped

end Engine

/-- Where the pruning behind a dispatch leaves nothing, nothing is in flight. -/
def Dispatched.Clears (dispatched : Dispatched) : Prop :=
  ∀ ack, dispatched.outcome.sndUnaAdvancedTo = some ack →
    (dispatched.conn.sndRetrans.pruneBelow ack).isEmpty = true →
    dispatched.conn.sndUna = dispatched.conn.sndNxt

theorem dispatch_watched {conn : TcpConn} (watched : conn.Watched) (seg : ParsedSegment)
    (clock : Readings) (sendBuf : ℕ) (mbufCtx : Option MbufInsertCtx) :
    (dispatch conn seg clock sendBuf mbufCtx).conn.Watched := by
  have kept := (dispatch_send conn seg clock sendBuf mbufCtx).entries
  unfold TcpConn.Watched
  rw [dispatch_rtoTimerId]
  exact watched.trans (congrArg Bool.not kept.isEmpty.symm)

namespace Engine

variable (engine : Engine) (handle : ConnHandle)

theorem tcpInput_keepsWatched {conn conn' : TcpConn}
    (present : engine.flowTable.get handle = some conn) (seg : ParsedSegment)
    (mbufCtx : Option MbufInsertCtx) (env : InputEnv)
    (clears : (dispatch conn seg env.clock engine.cfg.sendBufferBytes mbufCtx).Clears)
    (live : (engine.tcpInput handle seg mbufCtx env).flowTable.get handle = some conn') :
    KeepsWatched (dispatch conn seg env.clock engine.cfg.sendBufferBytes mbufCtx).conn conn' := by
  rcases tcpInput_eq engine handle present seg mbufCtx env with ⟨notified, _, _, table, processed⟩
  rw [processed] at live
  generalize dispatch conn seg env.clock engine.cfg.sendBufferBytes mbufCtx = dispatched
    at clears table live ⊢
  have written : notified.flowTable.get handle = some dispatched.conn := by
    rw [table, FlowTable.get_set present, if_pos rfl]
  have sent : Stems KeepsWatched handle notified
      (notified.sendSideAfter handle dispatched.outcome env) := by
    refine sendSideAfter_stems notified handle (fun ack conn advance found => ?_) env
    rw [written] at found
    cases found
    exact clears ack advance
  rcases (sent.followed (receiveSideAfter_stems _ handle _ env).keepsWatched) conn' live with
    ⟨start, started, keeps⟩
  rw [written] at started
  cases started
  exact keeps

/-! ### Calls -/

/-- The timeouts of all connections are positive. -/
def RtoPositive (engine : Engine) : Prop :=
  ∀ handle conn, engine.flowTable.get handle = some conn → 0 < conn.rttEst.rtoUs

variable {before after : Engine}

theorem Stems.everywhere {allowed : Edit → Prop} (stems : Stems KeepsWatched handle before after)
    (deeds : Deeds allowed handle before after) (other : ConnHandle) :
    Stems KeepsWatched other before after := by
  by_cases same : other = handle
  · rw [same]
    exact stems
  · exact (Stems.of_get (deeds.others same)).keepsWatched

/-- What `connect` leaves behind is a connection of before or the new one. -/
theorem connectWithOpts_keeps (tuple : FourTuple) (iss : Seq) (ourMss : UInt16)
    (opts : ConnectOpts) (synSent : Bool) (nowNs : ℕ) {other : ConnHandle} {conn' : TcpConn}
    (live : (engine.connectWithOpts tuple iss ourMss opts synSent nowNs).1.flowTable.get other =
      some conn') :
    engine.flowTable.get other = some conn' ∨
      SameRto (engine.connecting tuple iss ourMss opts nowNs) conn' := by
  dsimp only [connectWithOpts] at live
  split at live
  · exact .inl live
  · split at live
    · exact .inl live
    · split at live
      · exact .inl live
      · rename_i fresh inserted
        have table := FlowTable.get_insert
          (Prod.ext rfl inserted : engine.flowTable.insert _ = (_, some fresh))
        split at live
        · dsimp only [dropConn] at live
          rw [FlowTable.get_remove, (table other).2] at live
          split at live
          · cases live
          · exact .inl live
        · dsimp only at live
          by_cases same : other = fresh
          · rw [same] at live
            rcases ((transitionConn_stems _ fresh .synSent nowNs).trans
              (armSynRetrans_stems _ fresh nowNs _)) conn' live with ⟨start, started, kept⟩
            dsimp only [recordOpened, recordSentAtOnce] at started
            rw [(table fresh).2, if_pos rfl] at started
            cases started
            exact .inr kept
          · dsimp only [armSynRetrans, addTimer, modifyConn] at live
            rw [FlowTable.get_modify, if_neg same, transitionConn_get_of_ne _ fresh _ _ same] at live
            dsimp only [recordOpened, recordSentAtOnce] at live
            rw [(table other).2, if_neg same] at live
            exact .inl live

theorem reapTimeWait_get (nowNs : ℕ) {other : ConnHandle} {conn' : TcpConn}
    (live : (engine.reapTimeWait nowNs).flowTable.get other = some conn') :
    engine.flowTable.get other = some conn' := by
  dsimp only [reapTimeWait] at live
  generalize (engine.handles.filter fun handle =>
    (engine.flowTable.get handle).any fun conn => expired conn nowNs).reverse = candidates at live
  induction candidates generalizing engine with
  | nil => exact live
  | cons candidate rest ih =>
      have later := ih (engine.reap candidate nowNs) live
      by_cases same : other = candidate
      · have gone : (engine.reap candidate nowNs).stateAt candidate = none := by
          rw [stateAt_reap, if_pos rfl]
        rw [same] at later
        rw [stateAt, later] at gone
        cases gone
      · have deeds : Deeds (fun _ => True) candidate engine (engine.reap candidate nowNs) :=
          reap_deeds engine candidate (fun _ => trivial) nowNs
        exact (deeds.others same).symm.trans later

theorem fireTimer_stems (id : TimerId) (node : TimerNode) (env : FireEnv) :
    Stems KeepsWatched node.ownerHandle engine (engine.fireTimer id node env) := by
  unfold fireTimer
  split
  · exact onRtoFire_stems engine node.ownerHandle id env.rto
  · exact (onTlpFire_stems engine node.ownerHandle id env.tlp env.nowNs).keepsWatched
  · exact (onSynRetransFire_stems engine node.ownerHandle id env.nowNs).keepsWatched
  · exact (pushEvent_stems engine node.ownerHandle _).keepsWatched

end Engine

namespace Host

variable {host : Host}

/-- The pruning behind the segment of a step leaves nothing only where nothing is in flight. -/
def Clears (host : Host) (op : EngineOp) : Prop :=
  ∀ handle seg mbufCtx env, op = .segment handle seg mbufCtx env →
    ∀ conn, host.engine.flowTable.get handle = some conn →
      (dispatch conn seg env.clock host.engine.cfg.sendBufferBytes mbufCtx).Clears

/-- A connection after a step is a new one, or one of before whose timer, queue and timeout
changed as one. -/
inductive StepKeeps (host : Host) (handle : ConnHandle) (conn' : TcpConn) : Prop where
  | born {tuple : FourTuple} {iss : Seq} {ourMss : UInt16} {opts : ConnectOpts} {nowNs : ℕ}
      (same : SameRto (host.engine.connecting tuple iss ourMss opts nowNs) conn')
  | stays {conn : TcpConn} (present : host.engine.flowTable.get handle = some conn)
      (lasting : conn.rttEst.Lasting → conn'.rttEst.Lasting)
      (watched : 0 < conn'.rttEst.rtoUs → conn.Watched → conn'.Watched)

theorem StepKeeps.of_stems {handle : ConnHandle} {conn' : TcpConn} {after : Engine}
    (stems : Engine.Stems KeepsWatched handle host.engine after)
    (live : after.flowTable.get handle = some conn') : host.StepKeeps handle conn' := by
  rcases stems conn' live with ⟨conn, present, keeps⟩
  exact .stays present keeps.lasting keeps.watched

theorem step_keeps {op : EngineOp} (clears : host.Clears op) {other : ConnHandle} {conn' : TcpConn}
    (live : (host.step op).engine.flowTable.get other = some conn') :
    host.StepKeeps other conn' := by
  cases op with
  | connect tuple iss ourMss opts synSent nowNs =>
      rcases Engine.connectWithOpts_keeps host.engine tuple iss ourMss opts synSent nowNs live with
        present | same
      · exact .stays present id fun _ => id
      · exact .born same
  | send handle bytes envs tlpNs =>
      have deeds : Engine.Deeds (fun _ => True) handle host.engine _ :=
        Engine.sendBytes_deeds (fun _ _ => trivial) host.engine handle (fun _ => trivial) bytes envs
          tlpNs
      exact .of_stems
        ((Engine.sendBytes_stems host.engine handle bytes envs tlpNs).everywhere handle deeds other) live
  | close handle finSent nowNs =>
      have deeds : Engine.Deeds (fun _ => True) handle host.engine _ :=
        Engine.closeConn_deeds (fun _ _ => trivial) host.engine handle (fun _ _ _ => trivial) finSent
          nowNs
      exact .of_stems ((Engine.closeConn_stems host.engine handle finSent nowNs).keepsWatched.everywhere
        handle deeds other) live
  | segment handle seg mbufCtx env =>
      cases present : host.engine.flowTable.get handle with
      | none =>
          have idle := Engine.tcpInput_absent present seg mbufCtx env
          dsimp only [step] at live
          rw [idle] at live
          exact .stays live id fun _ => id
      | some conn =>
          have deeds : Engine.Deeds (fun _ => True) handle host.engine _ :=
            Engine.tcpInput_deeds (fun _ _ => trivial) host.engine handle (fun _ => trivial)
              (fun _ _ _ _ => trivial) (fun _ => trivial) (fun _ _ => trivial) (fun _ _ => trivial)
              seg mbufCtx env
          by_cases same : other = handle
          · rw [same] at live ⊢
            have keeps := Engine.tcpInput_keepsWatched host.engine handle present seg mbufCtx env
              (clears handle seg mbufCtx env rfl conn present) live
            refine .stays present (fun lasting => ?_) fun positive watched => ?_
            · exact keeps.lasting (dispatch_lasting lasting seg env.clock _ mbufCtx)
            · exact keeps.watched positive (dispatch_watched watched seg env.clock _ mbufCtx)
          · exact .stays ((deeds.others same).symm.trans live) id fun _ => id
  | advance nowNs => exact .stays live id fun _ => id
  | fireNext env =>
      dsimp only [step] at live
      generalize host.pending = pending at live
      cases pending with
      | nil => exact .stays live id fun _ => id
      | cons first rest =>
          rcases first with ⟨id, node⟩
          have deeds : Engine.Deeds (fun _ => True) node.ownerHandle host.engine
              (host.engine.fireTimer id node env) :=
            Engine.fireTimer_deeds (fun _ _ => trivial) host.engine node trivial
              (fun _ _ _ _ => trivial) env
          exact .of_stems ((Engine.fireTimer_stems host.engine id node env).everywhere
            node.ownerHandle deeds other) live
  | flush sent =>
      refine .stays ?_ id fun _ => id
      rw [← (Engine.drainTxPendingData_change host.engine sent).flowTable]
      exact live
  | reap nowNs =>
      exact .stays (Engine.reapTimeWait_get host.engine nowNs live) id fun _ => id
  | twSkip handle nowNs =>
      have deeds : Engine.Deeds (fun _ => True) handle host.engine _ :=
        Engine.requestTwSkip_deeds host.engine handle trivial nowNs
      exact .of_stems ((Engine.requestTwSkip_stems host.engine handle nowNs).keepsWatched.everywhere
        handle deeds other) live

/-- All connections stay watched, as long as their timeouts are positive. -/
theorem watched_step (watched : host.engine.Watched) {op : EngineOp} (clears : host.Clears op)
    (positive : (host.step op).engine.RtoPositive) : (host.step op).engine.Watched := by
  intro handle conn' live
  cases step_keeps clears live with
  | born same =>
      unfold TcpConn.Watched
      rw [same.timer, same.idle]
      rfl
  | stays present _ keeps =>
      exact keeps (positive handle conn' live) (watched handle _ present)

/-- The estimators of all connections last. -/
def Lasting (host : Host) : Prop :=
  ∀ handle conn, host.engine.flowTable.get handle = some conn → conn.rttEst.Lasting

theorem Lasting.rtoPositive (lasting : host.Lasting) : host.engine.RtoPositive :=
  fun handle conn live => (lasting handle conn live).rtoUs

theorem Lasting.step (lasting : host.Lasting) {op : EngineOp} (clears : host.Clears op)
    (first : 0 < max host.engine.cfg.tcpInitialRtoUs host.engine.cfg.tcpMinRtoUs)
    (bound : 0 < host.engine.cfg.tcpMaxRtoUs) : (host.step op).Lasting := by
  intro handle conn' live
  cases step_keeps clears live with
  | born same =>
      rw [same.rttEst]
      exact RttEstimator.lasting_new first bound
  | stays present keeps _ => exact keeps (lasting handle _ present)

end Host

end DpdkTcp
