import DpdkTcp.Lifecycle.Dispatch
import DpdkTcp.Lifecycle.Live
import DpdkTcp.Model.PublicTimer
import DpdkTcp.Send.Step
import DpdkTcp.Timers.Wheel

/-!
# What the engine does to one connection

Every call is made of a few deeds on the connection of one handle: an edit of
its record, a timer that is armed, struck off or cancelled for it, its removal
or its insertion. What else happens leaves the connections and the wheel alone.
An invariant of runs looks at one deed at a time, and the lemmas below say once
which deeds a call is made of.
-/

namespace DpdkTcp

namespace TcpConn

/-- The timer of a kind that a connection knows by name. -/
def timerOf (conn : TcpConn) : TimerKind → Option TimerId
  | .rto => conn.rtoTimerId
  | .tlp => conn.tlpTimerId
  | .synRetrans => conn.synRetransTimerId
  | .apiPublic => none

/-- The connection knows this timer of the kind. -/
def naming (conn : TcpConn) (id : Option TimerId) : TimerKind → TcpConn
  | .rto => { conn with rtoTimerId := id }
  | .tlp => { conn with tlpTimerId := id }
  | .synRetrans => { conn with synRetransTimerId := id }
  | .apiPublic => conn

/-- A timer of the kind was armed for the connection. -/
def armed (conn : TcpConn) (kind : TimerKind) (id : TimerId) : TcpConn :=
  { conn with timerIds := conn.timerIds ++ [id] }.naming (some id) kind

/-- A timer of the kind has fired or is cancelled. -/
def struck (conn : TcpConn) (kind : TimerKind) (id : TimerId) : TcpConn :=
  (conn.withoutTimer id).naming none kind

end TcpConn

/-- One change the engine makes to the record of a connection. The last three are
not made alone: a timer is cancelled or armed in the wheel, a connection put into
the table. -/
inductive Edit where
  | dispatch (seg : ParsedSegment) (clock : Readings) (sendBuf : ℕ)
      (mbufCtx : Option MbufInsertCtx)
  | resend (index nowNs : ℕ)
  | stash (entry : RetransEntry)
  | number (curSeq : Seq) (refused : Bool)
  | takeFin
  | prune (sndUna : Seq)
  | markLost (lost : List ℕ)
  | backOff
  | probe (seq : Seq) (len nowNs : ℕ)
  | countSyn (count : ℕ)
  | advertise
  | handOver (delivered : ℕ)
  | enter (target : TcpState) (deadline : ℕ)
  | wait (deadline : ℕ)
  | skipWait
  | strike (kind : TimerKind) (id : TimerId)
  | forget (id : TimerId)
  | arm (kind : TimerKind) (id : TimerId)
  | insert (opts : ConnectOpts)

/-- The record after the change. -/
def Edit.apply (conn : TcpConn) : Edit → TcpConn
  | .dispatch seg clock sendBuf mbufCtx => (DpdkTcp.dispatch conn seg clock sendBuf mbufCtx).conn
  | .resend index nowNs => conn.resent index nowNs
  | .stash entry => { conn with sndRetrans := conn.sndRetrans.pushAfterTx entry }
  | .number curSeq refused =>
      { conn with
        sndNxt := curSeq
        sendRefusedPending := if refused then true else conn.sendRefusedPending }
  | .takeFin =>
      { conn with
        ourFinSeq := some conn.sndNxt
        sndNxt := seqAdd conn.sndNxt 1 }
  | .prune sndUna => { conn with sndRetrans := conn.sndRetrans.pruneBelow sndUna }
  | .markLost lost => { conn with sndRetrans := conn.sndRetrans.markLost lost }
  | .backOff => { conn with rttEst := conn.rttEst.applyBackoff }
  | .probe seq len nowNs => conn.onTlpProbeFired seq len nowNs
  | .countSyn count => { conn with synRetransCount := count }
  | .advertise =>
      { conn with lastAdvertisedWnd := some conn.advertisedWindow, lastSackTrigger := none }
  | .handOver delivered =>
      { conn with
        recv := { conn.recv with bytes := (splitDelivered delivered conn.recv.bytes).rest }
        deliveredSegments := [] }
  | .enter target deadline =>
      { conn with
        state := target
        timeWaitDeadlineNs :=
          if target = .timeWait then some deadline else conn.timeWaitDeadlineNs }
  | .wait deadline => { conn with timeWaitDeadlineNs := some deadline }
  | .skipWait => { conn with forceTwSkip := true }
  | .strike kind id => conn.struck kind id
  | .forget id => conn.withoutTimer id
  | .arm kind id => conn.armed kind id
  | .insert _ => conn

/-- As an entry is stashed: not reported by the peer, not taken for lost, its length a `u16`. -/
def RetransEntry.isNew (entry : RetransEntry) : Bool :=
  !entry.sacked && !entry.lost && decide (entry.len < 65536)

theorem RetransEntry.isNew_iff {entry : RetransEntry} :
    entry.isNew = true ↔ entry.sacked = false ∧ entry.lost = false ∧ entry.len < 65536 := by
  simp [isNew, and_assoc]

theorem newEntry_isNew (seq : Seq) (take frameLen mbuf nowNs : ℕ) :
    (newEntry seq take frameLen mbuf nowNs).isNew = true :=
  decide_eq_true (Nat.mod_lt take (by decide))

/-- Not a dispatch, nor anything with probes, the state, the wait, a timer that
has fired or is forgotten, or the table; and only a new entry is stashed. -/
def Edit.plain : Edit → Bool
  | .dispatch .. | .probe .. | .enter .. | .wait .. | .skipWait | .strike .. | .forget ..
  | .insert .. => false
  | .arm kind _ => kind ≠ .tlp
  | .stash entry => entry.isNew
  | _ => true

/-- The edit can be made alone, and what is struck off is the timer the connection knows. -/
def Edit.Alone (conn : TcpConn) : Edit → Prop
  | .strike kind id => conn.timerOf kind = some id
  | .forget .. | .arm .. | .insert .. => False
  | _ => True

/-- How many of the timers were put into a slot. -/
def usesOf (armed : List Armed) (slot : ℕ) : ℕ :=
  (armed.map fun timer => timer.id.slot).count slot

/-- Fewer than `2 ^ 32` timers reuse any one slot. -/
def FewReuses (armed : List Armed) : Prop :=
  ∀ slot, usesOf armed slot - 1 < 2 ^ 32

/-- What the record says about timers and connections. -/
def Record.armings (record : Record) : List Armed × List ConnHandle :=
  (record.armed, record.opened)

namespace Engine

/-- The slot of a handle is written, and no other. -/
def Writes (handle : ConnHandle) (before after : Engine) (slot : Option TcpConn) : Prop :=
  ∀ other, after.flowTable.get other =
    if other = handle then slot else before.flowTable.get other

/-- One thing the engine does to the connection of a handle, by an allowed edit or to its timers. -/
inductive Deed (allowed : Edit → Prop) (handle : ConnHandle) (before after : Engine) : Prop where
  | aside (conns : ∀ other, after.flowTable.get other = before.flowTable.get other)
      (wheel : after.timerWheel = before.timerWheel)
      (record : after.record.armings = before.record.armings)
  | edit {conn : TcpConn} (edit : Edit) (isAllowed : allowed edit)
      (present : before.flowTable.get handle = some conn)
      (alone : edit.Alone conn)
      (written : Writes handle before after (some (edit.apply conn)))
      (wheel : after.timerWheel = before.timerWheel)
      (record : after.record.armings = before.record.armings)
  | arm {conn : TcpConn} (kind : TimerKind) (nowNs delayUs : ℕ)
      (isAllowed : allowed (.arm kind (before.addTimer handle kind nowNs delayUs).2))
      (own : kind ≠ .apiPublic) (gate : kind = .tlp → conn.tlpArmGatePasses = true)
      (present : before.flowTable.get handle = some conn)
      (written : Writes handle before after
        (some (conn.armed kind (before.addTimer handle kind nowNs delayUs).2)))
      (wheel : after.timerWheel = (before.addTimer handle kind nowNs delayUs).1.timerWheel)
      (record : after.record.armings =
        (before.addTimer handle kind nowNs delayUs).1.record.armings)
  | stop {conn : TcpConn} (kind : TimerKind) (id : TimerId)
      (present : before.flowTable.get handle = some conn) (named : conn.timerOf kind = some id)
      (written : Writes handle before after (some (conn.struck kind id)))
      (wheel : after.timerWheel = before.timerWheel.cancel id)
      (record : after.record.armings = before.record.armings)
  | forget {conn : TcpConn} (id : TimerId) (isAllowed : allowed (.forget id))
      (present : before.flowTable.get handle = some conn)
      (written : Writes handle before after (some (conn.withoutTimer id)))
      (wheel : after.timerWheel = before.timerWheel.cancel id)
      (record : after.record.armings = before.record.armings)
  | remove {conn : TcpConn} (present : before.flowTable.get handle = some conn)
      (written : Writes handle before after none)
      (wheel : after.timerWheel = (before.cancelTimers conn.allTimerIds).timerWheel)
      (record : after.record.armings = before.record.armings)
  | insert (tuple : FourTuple) (iss : Seq) (ourMss : UInt16) (opts : ConnectOpts) (nowNs : ℕ)
      (isAllowed : allowed (.insert opts))
      (vacant : before.flowTable.get handle = none)
      (written : Writes handle before after
        (some (before.connecting tuple iss ourMss opts nowNs)))
      (wheel : after.timerWheel = before.timerWheel)
      (record : after.record.armings = (before.record.armed, before.record.opened ++ [handle]))

/-- Any number of deeds on one connection. -/
def Deeds (allowed : Edit → Prop) (handle : ConnHandle) : Engine → Engine → Prop :=
  Relation.ReflTransGen (Deed allowed handle)

namespace Deeds

variable {allowed : Edit → Prop} {handle : ConnHandle} {first second third engine : Engine}

theorem refl (engine : Engine) : Deeds allowed handle engine engine :=
  Relation.ReflTransGen.refl

theorem one (deed : Deed allowed handle first second) : Deeds allowed handle first second :=
  Relation.ReflTransGen.single deed

theorem trans (left : Deeds allowed handle first second)
    (right : Deeds allowed handle second third) : Deeds allowed handle first third :=
  Relation.ReflTransGen.trans left right

theorem aside (flowTable : second.flowTable = first.flowTable)
    (wheel : second.timerWheel = first.timerWheel)
    (record : second.record.armings = first.record.armings) :
    Deeds allowed handle first second :=
  .one (.aside (fun other => by rw [flowTable]) wheel record)

theorem of_change (change : TxChange first second) : Deeds allowed handle first second :=
  .aside change.flowTable change.timerWheel (by rw [change.only]; rfl)

/-- Other connections are left alone. -/
theorem others (deeds : Deeds allowed handle first second) {other : ConnHandle}
    (differs : other ≠ handle) : second.flowTable.get other = first.flowTable.get other := by
  induction deeds with
  | refl => rfl
  | tail _ deed ih =>
      refine Eq.trans ?_ ih
      cases deed with
      | aside conns => exact conns other
      | edit _ _ _ _ written | arm _ _ _ _ _ _ _ written
      | stop _ _ _ _ written | forget _ _ _ written | remove _ written
      | insert _ _ _ _ _ _ _ written => exact (written other).trans (if_neg differs)

theorem get_modifyConn {conn : TcpConn} (present : engine.flowTable.get handle = some conn)
    (change : TcpConn → TcpConn) :
    Writes handle engine (engine.modifyConn handle change) (some (change conn)) := by
  intro other
  refine (FlowTable.get_modify change other).trans ?_
  rw [present]
  rfl

/-- A change of the connection that an allowed edit says. -/
theorem modify (engine : Engine) (change : TcpConn → TcpConn)
    (edits : ∀ conn, engine.flowTable.get handle = some conn →
      change conn = conn ∨ ∃ edit, allowed edit ∧ edit.Alone conn ∧
        change conn = edit.apply conn) :
    Deeds allowed handle engine (engine.modifyConn handle change) := by
  cases present : engine.flowTable.get handle with
  | none =>
      refine .one (.aside (fun other => ?_) rfl rfl)
      refine (FlowTable.get_modify change other).trans ?_
      split
      · rename_i same
        rw [same, present]
        rfl
      · rfl
  | some conn =>
      have written := get_modifyConn present change
      rcases edits conn present with same | ⟨edit, isAllowed, alone, changed⟩
      · rw [same] at written
        refine .one (.aside (fun other => ?_) rfl rfl)
        rw [written]
        split
        · rename_i here
          rw [here, present]
        · rfl
      · rw [changed] at written
        exact .one (.edit edit isAllowed present alone written rfl rfl)

/-- An allowed edit of the connection. -/
theorem edited (engine : Engine) (edit : Edit) (isAllowed : allowed edit)
    {change : TcpConn → TcpConn}
    (alone : ∀ conn, edit.Alone conn)
    (edits : ∀ conn, engine.flowTable.get handle = some conn → change conn = edit.apply conn) :
    Deeds allowed handle engine (engine.modifyConn handle change) :=
  .modify engine change fun conn present =>
    .inr ⟨edit, isAllowed, alone conn, edits conn present⟩

/-- A fired timer is struck off. -/
theorem strike {conn : TcpConn} (present : engine.flowTable.get handle = some conn)
    (kind : TimerKind) {id : TimerId} (strikes : allowed (.strike kind id))
    (named : conn.timerOf kind = some id) {change : TcpConn → TcpConn}
    (edits : change conn = conn.struck kind id) :
    Deeds allowed handle engine (engine.modifyConn handle change) := by
  refine .modify engine change fun live found => .inr ⟨.strike kind id, strikes, ?_, ?_⟩
  · rw [present] at found
    cases found
    exact named
  · rw [present] at found
    cases found
    exact edits

end Deeds

/-- Any number of deeds, each on a connection of its own. -/
def Work (allowed : Edit → Prop) : Engine → Engine → Prop :=
  Relation.ReflTransGen fun before after => ∃ handle, Deed allowed handle before after

theorem Deeds.work {allowed : Edit → Prop} {handle : ConnHandle} {before after : Engine}
    (deeds : Deeds allowed handle before after) : Work allowed before after :=
  Relation.ReflTransGen.mono (fun _ _ deed => ⟨handle, deed⟩) _ _ deeds

variable {allowed : Edit → Prop} (plain : ∀ edit, edit.plain = true → allowed edit)
variable (engine : Engine) (handle : ConnHandle)

/-! ### Transmission and timers -/

include plain in
theorem armRto_deeds (nowNs : ℕ) : Deeds allowed handle engine (engine.armRto handle nowNs) := by
  dsimp only [armRto]
  split
  · exact .refl engine
  · rename_i conn present
    split
    · exact .one (.arm .rto nowNs _ (plain _ rfl) nofun nofun present (Deeds.get_modifyConn present _) rfl rfl)
    · exact .refl engine

theorem armTlpPto_deeds (arms : ∀ id, allowed (.arm .tlp id)) (nowNs : ℕ) :
    Deeds allowed handle engine (engine.armTlpPto handle nowNs) := by
  dsimp only [armTlpPto]
  split
  · exact .refl engine
  · rename_i conn present
    split
    · rename_i gate
      exact .one (.arm .tlp nowNs _ (arms _) nofun (fun _ => gate) present
        (Deeds.get_modifyConn present _) rfl rfl)
    · exact .refl engine

theorem armSynRetrans_deeds (arms : ∀ id, allowed (.arm .synRetrans id)) {conn : TcpConn}
    (present : engine.flowTable.get handle = some conn) (nowNs delayUs : ℕ) :
    Deeds allowed handle engine (engine.armSynRetrans handle nowNs delayUs) :=
  .one (.arm .synRetrans nowNs delayUs (arms _) nofun nofun present (Deeds.get_modifyConn present _) rfl rfl)

theorem stopRto_deeds : Deeds allowed handle engine (engine.stopRto handle) := by
  unfold stopRto
  split
  · exact .refl engine
  · rename_i id named
    rcases Option.bind_eq_some_iff.mp named with ⟨conn, present, name⟩
    have stays : (engine.cancelTimer id).flowTable.get handle = some conn := present
    exact .one (.stop .rto id present name (Deeds.get_modifyConn stays _) rfl rfl)

theorem stopTlp_deeds : Deeds allowed handle engine (engine.stopTlp handle) := by
  unfold stopTlp
  split
  · exact .refl engine
  · rename_i id named
    rcases Option.bind_eq_some_iff.mp named with ⟨conn, present, name⟩
    have stays : (engine.cancelTimer id).flowTable.get handle = some conn := present
    exact .one (.stop .tlp id present name (Deeds.get_modifyConn stays _) rfl rfl)

theorem pushEvent_deeds (event : InternalEvent) :
    Deeds allowed handle engine (engine.pushEvent event) :=
  .of_change (pushEvent_change engine event)

theorem transitionConn_deeds {target : TcpState}
    (enters : ∀ deadline, allowed (.enter target deadline)) (nowNs : ℕ) :
    Deeds allowed handle engine (engine.transitionConn handle target nowNs) := by
  dsimp only [transitionConn]
  split
  · exact .refl engine
  · split
    · exact .refl engine
    · exact .trans (.edited engine (.enter target _) (enters _) (fun _ => trivial) fun _ _ => rfl)
        (pushEvent_deeds _ handle _)

theorem reportRetrans_deeds (index nowNs : ℕ) :
    Deeds allowed handle engine (engine.reportRetrans handle index nowNs) := by
  unfold reportRetrans
  split
  · exact .refl engine
  · split
    · exact .refl engine
    · exact pushEvent_deeds engine handle _

theorem releaseMbufs_deeds (addrs : List ℕ) :
    Deeds allowed handle engine (engine.releaseMbufs addrs) :=
  .of_change (releaseMbufs_change engine addrs)

include plain in
theorem retransmit_deeds (index : ℕ) (env : RetransmitEnv) :
    Deeds allowed handle engine (engine.retransmit handle index env) := by
  rcases retransmit_cases engine handle index env with
    ⟨change, _⟩ | ⟨conn, entry, _, _, _, ⟨change, _⟩ | ⟨_, pushed, change, sent⟩⟩
  · exact .of_change change
  · exact .of_change change
  · rw [sent]
    exact .trans (.of_change change)
      (.edited pushed (.resend index env.nowNs) (plain _ rfl) (fun _ => trivial) fun _ _ => rfl)

include plain in
theorem retransmitAll_deeds (envs : ℕ → RetransmitEnv) (indexes : List ℕ) :
    Deeds allowed handle engine (engine.retransmitAll handle envs indexes) := by
  induction indexes generalizing engine envs with
  | nil => exact .refl engine
  | cons index rest ih => exact .trans (retransmit_deeds plain engine handle index _) (ih _ _)

/-! ### Handlers of fired timers -/

theorem cancelTimers_wheel (ids : List TimerId) :
    (engine.cancelTimers ids).timerWheel = ids.foldl TimerWheel.cancel engine.timerWheel := by
  unfold cancelTimers
  induction ids generalizing engine with
  | nil => rfl
  | cons id rest ih => exact ih (engine.cancelTimer id)

/-- `transition_conn` writes one slot and reports an event. -/
theorem transitionConn_only (target : TcpState) (nowNs : ℕ) :
    (engine.transitionConn handle target nowNs).timerWheel = engine.timerWheel ∧
      (engine.transitionConn handle target nowNs).record = engine.record ∧
      ∀ other, other ≠ handle →
        (engine.transitionConn handle target nowNs).flowTable.get other =
          engine.flowTable.get other := by
  dsimp only [transitionConn]
  split
  · exact ⟨rfl, rfl, fun _ _ => rfl⟩
  · split
    · exact ⟨rfl, rfl, fun _ _ => rfl⟩
    · refine ⟨rfl, rfl, fun other differs => ?_⟩
      exact (FlowTable.get_modify _ other).trans (if_neg differs)

theorem removeConn_deeds : Deeds allowed handle engine (engine.removeConn handle) := by
  dsimp only [removeConn]
  split
  · exact .refl engine
  · rename_i conn present
    refine .one (.remove present (fun other => ?_) rfl ?_)
    · refine (FlowTable.get_remove _ handle other).trans ?_
      rw [cancelTimers_only]
    · rw [cancelTimers_only]
      rfl

theorem forceCloseEtimedout_deeds (nowNs : ℕ) :
    Deeds allowed handle engine (engine.forceCloseEtimedout handle nowNs) := by
  dsimp only [forceCloseEtimedout]
  split
  · exact .refl engine
  · rename_i conn present
    have drained : ∀ (change : TcpConn → TcpConn) (addrs : List ℕ) (other : ConnHandle),
        other ≠ handle →
        ((engine.modifyConn handle change).releaseMbufs addrs).flowTable.get other =
          engine.flowTable.get other := by
      intro change addrs other differs
      rw [releaseMbufs_only]
      exact (FlowTable.get_modify change other).trans (if_neg differs)
    refine .one (.remove present (fun other => ?_) ?_ ?_)
    · refine (FlowTable.get_remove _ handle other).trans ?_
      split
      · rfl
      · rename_i differs
        refine ((transitionConn_only _ handle .closed nowNs).2.2 other differs).trans ?_
        rw [cancelTimers_only]
        exact drained _ _ other differs
    · refine (transitionConn_only _ handle .closed nowNs).1.trans ?_
      rw [cancelTimers_wheel, cancelTimers_wheel, releaseMbufs_only]
      rfl
    · refine congrArg Record.armings ((transitionConn_only _ handle .closed nowNs).2.1.trans ?_)
      rw [cancelTimers_only, releaseMbufs_only]
      rfl

theorem reportRto_deeds (chosen : List ℕ) (eventNs : ℕ) :
    Deeds allowed handle engine (engine.reportRto handle chosen eventNs) := by
  have reported : ∀ (chosen : List ℕ) (engine : Engine), Deeds allowed handle engine
      (chosen.foldl (fun engine index => engine.reportRetrans handle index eventNs) engine) := by
    intro chosen
    induction chosen with
    | nil => exact .refl
    | cons index rest ih =>
        exact fun engine => .trans (reportRetrans_deeds engine handle index eventNs) (ih _)
  unfold reportRto
  split
  · exact .trans (reported chosen engine) (pushEvent_deeds _ handle _)
  · exact .refl engine

include plain in
theorem rearmOrGiveUp_deeds (noBackoff : Bool) (env : RtoEnv) :
    Deeds allowed handle engine (engine.rearmOrGiveUp handle noBackoff env) := by
  dsimp only [rearmOrGiveUp]
  split
  · exact forceCloseEtimedout_deeds engine handle env.closeNs
  · refine .trans ?_ (armRto_deeds plain _ handle env.timerNs)
    split
    · exact .refl engine
    · exact .edited engine .backOff (plain _ rfl) (fun _ => trivial) fun _ _ => rfl

include plain in
/-- The handler strikes the timer off; what follows strikes nothing off. -/
theorem onRtoFire_cleared {firedId : TimerId} {conn : TcpConn}
    (present : engine.flowTable.get handle = some conn) (own : conn.rtoTimerId = some firedId)
    (env : RtoEnv) :
    Deeds allowed handle (engine.modifyConn handle fun conn =>
      { conn.withoutTimer firedId with rtoTimerId := none })
      (engine.onRtoFire handle firedId env) := by
  dsimp only [onRtoFire]
  rw [present]
  dsimp only
  rw [if_neg (not_not.mpr own)]
  split
  · exact .refl _
  · refine .trans (.trans (.trans ?_ (retransmitAll_deeds plain _ handle _ _))
      (reportRto_deeds _ handle _ _)) (rearmOrGiveUp_deeds plain _ handle _ env)
    exact .edited _ (.markLost _) (plain _ rfl) (fun _ => trivial) fun _ _ => rfl

include plain in
theorem onRtoFire_deeds {firedId : TimerId} (strikes : allowed (.strike .rto firedId))
    (env : RtoEnv) : Deeds allowed handle engine (engine.onRtoFire handle firedId env) := by
  cases present : engine.flowTable.get handle with
  | none =>
      dsimp only [onRtoFire]
      rw [present]
      exact .refl engine
  | some conn =>
      by_cases own : conn.rtoTimerId = some firedId
      · exact .trans (.strike present .rto strikes own rfl)
          (onRtoFire_cleared plain engine handle present own env)
      · dsimp only [onRtoFire]
        rw [present]
        dsimp only
        rw [if_pos own]
        exact .refl engine

include plain in
theorem onTlpFire_deeds (probes : ∀ seq len nowNs, allowed (.probe seq len nowNs))
    {firedId : TimerId} (strikes : allowed (.strike .tlp firedId)) (env : RetransmitEnv) (nowNs : ℕ) :
    Deeds allowed handle engine (engine.onTlpFire handle firedId env nowNs) := by
  dsimp only [onTlpFire]
  split
  · exact .refl engine
  · rename_i conn present
    split
    · exact .refl engine
    · rename_i own
      have cleared : Deeds allowed handle engine (engine.modifyConn handle fun conn =>
          { conn.withoutTimer firedId with tlpTimerId := none }) :=
        .strike present .tlp strikes (of_not_not own) rfl
      split
      · exact cleared
      · generalize recorded_eq : Engine.modifyConn (Engine.retransmit _ handle _ env) handle _ =
          recordedEngine
        have recorded : Deeds allowed handle engine recordedEngine := by
          rw [← recorded_eq]
          refine .trans (.trans cleared (retransmit_deeds plain _ handle _ env))
            (.modify _ _ fun after _ => ?_)
          split
          · exact .inr ⟨_, probes _ _ _, trivial, rfl⟩
          · exact .inl rfl
        split
        · exact .trans (.trans recorded (reportRetrans_deeds _ handle _ nowNs))
            (pushEvent_deeds _ handle _)
        · exact recorded

include plain in
theorem onSynRetransFire_deeds {firedId : TimerId} (strikes : allowed (.strike .synRetrans firedId))
    (nowNs : ℕ) :
    Deeds allowed handle engine (engine.onSynRetransFire handle firedId nowNs) := by
  dsimp only [onSynRetransFire]
  split
  · exact .refl engine
  · rename_i conn present
    split
    · exact .refl engine
    · rename_i own
      have struck := Deeds.get_modifyConn present fun conn =>
        { conn.withoutTimer firedId with synRetransTimerId := none }
      have cleared : Deeds allowed handle engine (engine.modifyConn handle fun conn =>
          { conn.withoutTimer firedId with synRetransTimerId := none }) :=
        .strike present .synRetrans strikes (of_not_not own) rfl
      split
      · exact cleared
      · have counted := Deeds.trans cleared (.edited _
          (.countSyn (min (conn.synRetransCount + 1) 255)) (plain _ rfl) (fun _ => trivial) fun _ _ => rfl)
        split
        · exact .trans counted (forceCloseEtimedout_deeds _ handle nowNs)
        · have stays := Deeds.get_modifyConn ((struck handle).trans (if_pos rfl)) fun after =>
            { after with synRetransCount := min (conn.synRetransCount + 1) 255 }
          exact .trans counted
            (armSynRetrans_deeds _ handle (fun _ => plain _ rfl) ((stays handle).trans (if_pos rfl)) nowNs _)

include plain in
theorem fireTimer_deeds {id : TimerId} (node : TimerNode)
    (strikes : allowed (.strike node.kind id))
    (probes : node.kind = .tlp → ∀ seq len nowNs, allowed (.probe seq len nowNs)) (env : FireEnv) :
    Deeds allowed node.ownerHandle engine (engine.fireTimer id node env) := by
  unfold fireTimer
  cases kind : node.kind with
  | rto => exact onRtoFire_deeds plain engine _ (kind ▸ strikes) env.rto
  | tlp => exact onTlpFire_deeds plain engine _ (probes kind) (kind ▸ strikes) env.tlp env.nowNs
  | synRetrans => exact onSynRetransFire_deeds plain engine _ (kind ▸ strikes) env.nowNs
  | apiPublic => exact pushEvent_deeds engine _ _

theorem reap_deeds (enters : ∀ deadline, allowed (.enter .closed deadline)) (nowNs : ℕ) :
    Deeds allowed handle engine (engine.reap handle nowNs) :=
  .trans (.trans (transitionConn_deeds engine handle enters nowNs) (pushEvent_deeds _ handle _))
    (removeConn_deeds _ handle)

/-! ### Sending and closing -/

include plain in
theorem stashEntry_deeds (entry : RetransEntry) (isNew : entry.isNew = true) :
    Deeds allowed handle engine (engine.stashEntry handle entry) := by
  have stashed : Deeds allowed handle engine (engine.modifyConn handle fun conn =>
      { conn with sndRetrans := conn.sndRetrans.pushAfterTx entry }) :=
    .edited engine (.stash entry) (plain _ isNew) (fun _ => trivial) fun _ _ => rfl
  dsimp only [stashEntry]
  split
  · split
    · exact .trans stashed (armRto_deeds plain _ handle _)
    · exact stashed
  · exact stashed

theorem pushTxPendingData_deeds (frame : TxFrame) (sent : ℕ) :
    Deeds allowed handle engine (engine.pushTxPendingData frame sent) :=
  .of_change (pushTxPendingData_change engine frame sent)

include plain in
theorem sendSegment_deeds (conn : TcpConn) (mssCap : ℕ) (env : SendEnv) (sending : Sending) :
    Deeds allowed handle sending.engine
      (sendSegment conn handle mssCap env sending).ended.engine := by
  dsimp only [sendSegment]
  split
  · exact .refl _
  · split
    · exact .refl _
    · split
      · exact .aside rfl rfl rfl
      · refine .trans (.trans ?_ (pushTxPendingData_deeds _ handle _ _))
          (stashEntry_deeds plain _ handle _ (newEntry_isNew _ _ _ _ _))
        exact .aside rfl rfl rfl

include plain in
theorem sendSegments_deeds (conn : TcpConn) (mssCap turns : ℕ) (envs : ℕ → SendEnv)
    (sending : Sending) :
    Deeds allowed handle sending.engine
      (sendSegments conn handle mssCap turns envs sending).ended.engine := by
  induction turns generalizing envs sending with
  | zero => exact .refl _
  | succ turns ih =>
      dsimp only [sendSegments]
      split
      · exact .refl _
      · have turn := sendSegment_deeds plain handle conn mssCap (envs 0) sending
        split
        · rename_i next sent
          rw [sent] at turn
          exact .trans turn (ih _ next)
        · exact turn

include plain in
theorem finishSend_deeds (arms : ∀ id, allowed (.arm .tlp id)) (sending : Sending)
    (wanted tlpNs : ℕ) :
    Deeds allowed handle sending.engine (finishSend sending handle wanted tlpNs) := by
  dsimp only [finishSend]
  have advanced : Deeds allowed handle sending.engine (sending.engine.modifyConn handle fun conn =>
      { conn with
        sndNxt := sending.curSeq
        sendRefusedPending :=
          if sending.accepted < wanted % 4294967296 then true else conn.sendRefusedPending }) := by
    refine .edited _ (.number sending.curSeq (decide (sending.accepted < wanted % 4294967296)))
      (plain _ rfl) (fun _ => trivial) fun _ _ => ?_
    simp only [Edit.apply, decide_eq_true_eq]
  split
  · exact .trans advanced (armTlpPto_deeds _ handle arms tlpNs)
  · exact advanced

include plain in
theorem sendBytes_deeds (arms : ∀ id, allowed (.arm .tlp id)) (bytes : List UInt8)
    (envs : ℕ → SendEnv) (tlpNs : ℕ) :
    Deeds allowed handle engine (engine.sendBytes handle bytes envs tlpNs).1 := by
  dsimp only [sendBytes]
  split
  · exact .refl engine
  · rename_i conn _
    split
    · exact .refl engine
    · have looped := sendSegments_deeds plain handle conn (engine.mssCap conn)
        ((engine.admitted conn bytes).length + 1) envs
        ⟨engine, engine.admitted conn bytes, 0, conn.sndNxt⟩
      split
      · rename_i sending ended
        rw [ended] at looped
        split
        · exact looped
        · exact .trans looped (finishSend_deeds plain handle arms sending _ tlpNs)
      · rename_i sending ended
        rw [ended] at looped
        exact .trans looped (finishSend_deeds plain handle arms sending _ tlpNs)
      · rename_i sending ended
        rw [ended] at looped
        exact .trans looped (finishSend_deeds plain handle arms sending _ tlpNs)

include plain in
theorem closeConn_deeds
    (enters : ∀ target, target = .finWait1 ∨ target = .lastAck →
      ∀ deadline, allowed (.enter target deadline)) (finSent : Bool) (nowNs : ℕ) :
    Deeds allowed handle engine (engine.closeConn handle finSent nowNs) := by
  dsimp only [closeConn]
  split
  · exact .refl engine
  · split
    · exact .refl engine
    · split
      · exact .refl engine
      · refine .trans (.trans ?_ (.edited _ .takeFin (plain _ rfl) (fun _ => trivial) fun _ _ => rfl))
          (transitionConn_deeds _ handle (enters _ ?_) nowNs)
        · exact .aside rfl rfl rfl
        · split
          · exact .inl rfl
          · exact .inr rfl

theorem requestTwSkip_deeds (skips : allowed .skipWait) (nowNs : ℕ) :
    Deeds allowed handle engine (engine.requestTwSkip handle nowNs) := by
  unfold requestTwSkip
  split
  · exact .edited engine .skipWait skips (fun _ => trivial) fun _ _ => rfl
  · exact pushEvent_deeds engine handle _

/-! ### Segments -/

include plain in
theorem pruneAcked_deeds (newSndUna : Seq) (nowNs : ℕ) :
    Deeds allowed handle engine (engine.pruneAcked handle newSndUna nowNs) := by
  dsimp only [pruneAcked]
  split
  · exact .refl engine
  · rename_i conn present
    have freed : Deeds allowed handle engine ((engine.modifyConn handle fun after =>
        { after with sndRetrans := conn.sndRetrans.pruneBelow newSndUna }).releaseMbufs
          ((conn.sndRetrans.prunedBelow newSndUna).map RetransEntry.mbuf)) := by
      refine .trans (.edited _ (.prune newSndUna) (plain _ rfl) (fun _ => trivial) fun after found => ?_)
        (releaseMbufs_deeds _ handle _)
      rw [present] at found
      cases found
      rfl
    generalize (engine.modifyConn handle fun after =>
        { after with sndRetrans := conn.sndRetrans.pruneBelow newSndUna }).releaseMbufs
          ((conn.sndRetrans.prunedBelow newSndUna).map RetransEntry.mbuf) = pruned at freed ⊢
    have stopped : Deeds allowed handle engine
        (if (conn.sndRetrans.pruneBelow newSndUna).isEmpty && conn.sndUna == conn.sndNxt then
          (pruned.stopRto handle).stopTlp handle
        else pruned) := by
      split
      · exact .trans (.trans freed (stopRto_deeds _ handle)) (stopTlp_deeds _ handle)
      · exact freed
    split
    · exact .trans (.trans stopped (stopRto_deeds _ handle)) (armRto_deeds plain _ handle nowNs)
    · exact stopped

include plain in
theorem retransmitRackLost_deeds (envs : ℕ → RetransmitEnv) (indexes : List ℕ) :
    Deeds allowed handle engine (engine.retransmitRackLost handle envs indexes) := by
  induction indexes generalizing engine envs with
  | nil => exact .refl engine
  | cons index rest ih =>
      have resent := retransmit_deeds plain engine handle index (envs 0)
      refine .trans ?_ (ih _ _)
      split
      · exact .trans (.trans resent (reportRetrans_deeds _ handle index _))
          (pushEvent_deeds _ handle _)
      · exact resent

theorem establishedChecks_synTimer {conn : TcpConn} {seg : ParsedSegment} {outcome : Outcome}
    (refused : establishedChecks conn seg = .error outcome) :
    outcome.synRetransTimerToCancel = none := by
  unfold establishedChecks at refused
  dsimp only at refused
  split at refused
  · cases refused
    rfl
  · split at refused
    · cases refused
      rfl
    · split at refused
      · cases refused
        rfl
      · split at refused
        · cases refused
          rfl
        · split at refused
          · cases refused
            rfl
          · cases refused

theorem handleEstablished_synTimer (conn : TcpConn) (seg : ParsedSegment) (clock : Readings)
    (sendBuf : ℕ) (mbufCtx : Option MbufInsertCtx) :
    (handleEstablished conn seg clock sendBuf mbufCtx).outcome.synRetransTimerToCancel = none := by
  unfold handleEstablished
  split
  · rename_i outcome refused
    exact establishedChecks_synTimer refused
  · split
    · rfl
    · rfl
    · dsimp only
      split <;> rfl

theorem handleClosePath_synTimer (conn : TcpConn) (seg : ParsedSegment) (clock : Readings) :
    (handleClosePath conn seg clock).outcome.synRetransTimerToCancel = none := by
  unfold handleClosePath
  split
  · rfl
  · split
    · rfl
    · split
      · rfl
      · split
        · rfl
        · split
          · rfl
          · split <;> rfl

/-- Only the timer a connection knows for its SYN is cancelled by the SYN-ACK. -/
theorem dispatch_synTimer (conn : TcpConn) (seg : ParsedSegment) (clock : Readings) (sendBuf : ℕ)
    (mbufCtx : Option MbufInsertCtx) (id : TimerId)
    (cancelled : (dispatch conn seg clock sendBuf mbufCtx).outcome.synRetransTimerToCancel =
      some id) : conn.synRetransTimerId = some id := by
  have idle : ∀ {outcome : Outcome}, outcome.synRetransTimerToCancel = none →
      outcome.synRetransTimerToCancel = some id → conn.synRetransTimerId = some id := by
    intro outcome absent present
    rw [absent] at present
    cases present
  unfold dispatch at cancelled
  split at cancelled
  · unfold handleSynSent at cancelled
    split at cancelled
    · split at cancelled <;> exact idle rfl cancelled
    · split at cancelled
      · exact idle rfl cancelled
      · split at cancelled
        · exact idle rfl cancelled
        · split at cancelled
          · exact idle rfl cancelled
          · split at cancelled
            · exact idle rfl cancelled
            · dsimp only at cancelled
              rw [maybeSeed_only] at cancelled
              exact cancelled
  · exact idle (handleEstablished_synTimer conn seg clock sendBuf mbufCtx) cancelled
  all_goals first
    | exact idle (handleClosePath_synTimer conn seg clock) cancelled
    | exact idle rfl cancelled

include plain in
theorem sendSideAfter_deeds (arms : ∀ id, allowed (.arm .tlp id)) {conn : TcpConn}
    (present : engine.flowTable.get handle = some conn) {outcome : Outcome}
    (forgets : ∀ id, outcome.synRetransTimerToCancel = some id → allowed (.forget id))
    (env : InputEnv) :
    Deeds allowed handle engine (engine.sendSideAfter handle outcome env) := by
  have begun : engine.stateAt handle = some conn.state := congrArg (Option.map TcpConn.state) present
  dsimp only [sendSideAfter]
  have resent := retransmitRackLost_deeds plain engine handle env.retransmits
    outcome.rackLostIndexes
  rw [← stateAt_retransmitRackLost engine handle handle env.retransmits] at begun
  generalize armed_eq : Engine.armTlpPto _ handle env.nowNs = armedEngine
  have armed : Deeds allowed handle engine armedEngine ∧
      armedEngine.stateAt handle = some conn.state := by
    rw [← armed_eq, stateAt_armTlpPto]
    split
    · exact ⟨.trans (.trans resent (pruneAcked_deeds plain _ handle _ env.nowNs))
          (armTlpPto_deeds _ handle arms env.nowNs),
        (stateAt_pruneAcked _ handle handle _ env.nowNs).trans begun⟩
    · exact ⟨.trans resent (armTlpPto_deeds _ handle arms env.nowNs), begun⟩
  rcases armed with ⟨armed, still⟩
  rcases stateAt_eq_some _ handle still with ⟨conn', stays, _⟩
  cases cancelled : outcome.synRetransTimerToCancel with
  | none => exact armed
  | some id =>
      refine .trans armed (.one (.forget id (forgets id cancelled) stays ?_ rfl rfl))
      exact Deeds.get_modifyConn (by exact stays) _

theorem restartTimeWait_deeds (waits : ∀ deadline, allowed (.wait deadline)) (outcome : Outcome)
    (nowNs : ℕ) : Deeds allowed handle engine (engine.restartTimeWait handle outcome nowNs) := by
  refine .modify engine _ fun conn _ => ?_
  split
  · exact .inr ⟨_, waits _, trivial, rfl⟩
  · exact .inl rfl

include plain in
theorem answer_deeds (enters : ∀ deadline, allowed (.enter .closed deadline)) (tx : TxAction)
    (env : InputEnv) : Deeds allowed handle engine (engine.answer handle tx env) := by
  unfold answer
  split
  · exact .refl engine
  · unfold emitAck
    split
    · exact .edited engine .advertise (plain _ rfl) (fun _ => trivial) fun _ _ => rfl
    · exact .refl engine
  · exact transitionConn_deeds engine handle enters env.nowNs
  · exact transitionConn_deeds engine handle enters env.nowNs

include plain in
theorem handOver_deeds (delivered rxHwTsNs emittedTsNs : ℕ) :
    Deeds allowed handle engine (engine.handOver handle delivered rxHwTsNs emittedTsNs) := by
  cases present : engine.flowTable.get handle with
  | none =>
      have table : (engine.handOver handle delivered rxHwTsNs emittedTsNs).flowTable =
          engine.flowTable := by
        dsimp only [handOver, deliverReadable]
        rw [present]
      exact .aside table rfl rfl
  | some conn =>
      have written : Writes handle engine (engine.handOver handle delivered rxHwTsNs emittedTsNs)
          (some ((Edit.handOver delivered).apply conn)) := by
        intro other
        dsimp only [handOver, deliverReadable]
        rw [present]
        exact FlowTable.get_set present _ other
      exact .one (.edit (.handOver delivered) (plain _ rfl) present trivial written rfl rfl)

include plain in
theorem deliverEvents_deeds (outcome : Outcome) (env : InputEnv) :
    Deeds allowed handle engine (engine.deliverEvents handle outcome env) := by
  dsimp only [deliverEvents]
  have connected : Deeds allowed handle engine
      (if outcome.connected then engine.pushEvent (.connected handle env.rxHwTsNs env.nowNs)
      else engine) := by
    split
    · exact pushEvent_deeds engine handle _
    · exact .refl engine
  split
  · exact .trans connected (handOver_deeds plain _ handle _ _ _)
  · exact connected

theorem finishClosed_deeds (outcome : Outcome) (env : InputEnv) :
    Deeds allowed handle engine (engine.finishClosed handle outcome env) := by
  dsimp only [finishClosed]
  split
  · have reported : Deeds allowed handle engine (engine.pushEvent (.closed handle 0 env.nowNs)) :=
      pushEvent_deeds engine handle _
    split
    · split
      · exact .trans reported (removeConn_deeds _ handle)
      · exact reported
    · exact reported
  · exact .refl engine

include plain in
theorem receiveSideAfter_deeds (waits : ∀ deadline, allowed (.wait deadline))
    (enters : ∀ target deadline, allowed (.enter target deadline)) (outcome : Outcome)
    (env : InputEnv) : Deeds allowed handle engine (engine.receiveSideAfter handle outcome env) := by
  dsimp only [receiveSideAfter]
  refine .trans (.trans (.trans (.trans
    (restartTimeWait_deeds engine handle waits outcome env.nowNs) ?_)
    (answer_deeds plain _ handle (enters .closed) outcome.tx env))
      (deliverEvents_deeds plain _ handle outcome env)) (finishClosed_deeds _ handle outcome env)
  split
  · exact transitionConn_deeds _ handle (enters _) env.nowNs
  · exact .refl _

include plain in
/-- The dispatch writes the connection, and deeds other than a dispatch follow. -/
theorem tcpInput_dispatched (arms : ∀ id, allowed (.arm .tlp id))
    (waits : ∀ deadline, allowed (.wait deadline))
    (enters : ∀ target deadline, allowed (.enter target deadline)) {conn : TcpConn}
    (present : engine.flowTable.get handle = some conn)
    (forgets : ∀ id, conn.synRetransTimerId = some id → allowed (.forget id))
    (seg : ParsedSegment) (mbufCtx : Option MbufInsertCtx) (env : InputEnv) :
    ∃ middle,
      Writes handle engine middle
        (some (dispatch conn seg env.clock engine.cfg.sendBufferBytes mbufCtx).conn) ∧
      middle.timerWheel = engine.timerWheel ∧
      middle.record.armings = engine.record.armings ∧
      Deeds allowed handle middle (engine.tcpInput handle seg mbufCtx env) := by
  dsimp only [tcpInput]
  rw [present]
  dsimp only
  have cancels := dispatch_synTimer conn seg env.clock engine.cfg.sendBufferBytes mbufCtx
  generalize dispatch conn seg env.clock engine.cfg.sendBufferBytes mbufCtx = dispatched at *
  have forgotten := fun id cancelled => forgets id (cancels id cancelled)
  have written : Writes handle engine (engine.written handle mbufCtx dispatched)
      (some dispatched.conn) := fun other => FlowTable.get_set present _ other
  refine ⟨engine.written handle mbufCtx dispatched, written, rfl, rfl, ?_⟩
  have stays := (written handle).trans (if_pos rfl)
  refine .trans ?_ (receiveSideAfter_deeds plain _ handle waits enters _ env)
  split
  · exact .trans (pushEvent_deeds _ handle _)
      (sendSideAfter_deeds plain _ handle arms (by exact stays) forgotten env)
  · exact sendSideAfter_deeds plain _ handle arms stays forgotten env

include plain in
theorem tcpInput_deeds (arms : ∀ id, allowed (.arm .tlp id))
    (dispatches : ∀ seg clock sendBuf mbufCtx, allowed (.dispatch seg clock sendBuf mbufCtx))
    (waits : ∀ deadline, allowed (.wait deadline))
    (enters : ∀ target deadline, allowed (.enter target deadline))
    (forgets : ∀ id, (engine.flowTable.get handle).bind TcpConn.synRetransTimerId = some id →
      allowed (.forget id)) (seg : ParsedSegment) (mbufCtx : Option MbufInsertCtx)
    (env : InputEnv) :
    Deeds allowed handle engine (engine.tcpInput handle seg mbufCtx env) := by
  cases present : engine.flowTable.get handle with
  | none =>
      rw [tcpInput_absent present]
      exact .refl engine
  | some conn =>
      have named := fun id (name : conn.synRetransTimerId = some id) => forgets id (by
        rw [present]
        exact name)
      rcases tcpInput_dispatched plain engine handle arms waits enters present named seg mbufCtx
        env with
        ⟨middle, written, wheel, record, follows⟩
      refine .trans (.one (.edit (.dispatch seg env.clock engine.cfg.sendBufferBytes mbufCtx)
        (dispatches _ _ _ _) present trivial written wheel record)) follows

/-- `connect` inserts a connection without timers and arms that of its SYN. A
connection it opens is in SYN_SENT. -/
theorem connectWithOpts_deeds (enters : ∀ deadline, allowed (.enter .synSent deadline))
    (arms : ∀ id, allowed (.arm .synRetrans id)) (tuple : FourTuple) (iss : Seq)
    (ourMss : UInt16) (opts : ConnectOpts) (inserts : allowed (.insert opts)) (synSent : Bool)
    (nowNs : ℕ) :
    ∃ handle, engine.flowTable.get handle = none ∧
      Deeds allowed handle engine
        (engine.connectWithOpts tuple iss ourMss opts synSent nowNs).1 ∧
      ((engine.connectWithOpts tuple iss ourMss opts synSent nowNs).1.stateAt handle = none ∨
        (engine.connectWithOpts tuple iss ourMss opts synSent nowNs).1.stateAt handle =
          some .synSent) := by
  have refused : ∃ handle, engine.flowTable.get handle = none ∧
      Deeds allowed handle engine engine ∧
      (engine.stateAt handle = none ∨ engine.stateAt handle = some .synSent) :=
    ⟨0, rfl, .refl engine, .inl rfl⟩
  dsimp only [connectWithOpts]
  split
  · exact refused
  · split
    · exact refused
    · split
      · exact refused
      · rename_i handle inserted
        have table := FlowTable.get_insert
          (Prod.ext rfl inserted : engine.flowTable.insert _ = (_, some handle))
        refine ⟨handle, (table handle).1, ?_⟩
        split
        · refine ⟨.one (.aside (fun other => ?_) rfl rfl), .inl ?_⟩
          · refine (FlowTable.get_remove _ handle other).trans ?_
            split
            · rename_i same
              rw [same]
              exact (table handle).1.symm
            · rename_i differs
              exact (table other).2.trans (if_neg differs)
          · rw [stateAt, Option.map_eq_none_iff]
            exact (FlowTable.get_remove _ handle handle).trans (if_pos rfl)
        · rename_i sent
          have opened : Deeds allowed handle engine ({ engine with
              flowTable := (engine.flowTable.insert
                (engine.connecting tuple iss ourMss opts nowNs)).1 }.recordOpened handle iss) :=
            .one (.insert tuple iss ourMss opts nowNs inserts (table handle).1
              (fun other => (table other).2) rfl rfl)
          have moved := Deeds.trans opened (transitionConn_deeds _ handle enters nowNs)
          have begun : ({ engine with
              flowTable := (engine.flowTable.insert
                (engine.connecting tuple iss ourMss opts nowNs)).1 }.recordOpened handle
                  iss).stateAt handle = some .closed :=
            congrArg (Option.map TcpConn.state) (((table handle).2).trans (if_pos rfl))
          have entered := stateAt_transitionConn ({ engine with
              flowTable := (engine.flowTable.insert
                (engine.connecting tuple iss ourMss opts nowNs)).1 }.recordOpened handle iss)
            handle handle .synSent nowNs
          rw [if_pos rfl, begun] at entered
          rcases stateAt_eq_some _ handle entered with ⟨conn, present, _⟩
          refine ⟨.trans moved (armSynRetrans_deeds _ handle arms present nowNs _), .inr ?_⟩
          rw [stateAt_armSynRetrans]
          exact entered

theorem reapTimeWait_work (enters : ∀ deadline, allowed (.enter .closed deadline)) (nowNs : ℕ) :
    Work allowed engine (engine.reapTimeWait nowNs) := by
  have reaped : ∀ (candidates : List ConnHandle) (engine : Engine), Work allowed engine
      (candidates.foldl (fun engine handle => engine.reap handle nowNs) engine) := by
    intro candidates
    induction candidates with
    | nil => exact fun engine => .refl
    | cons handle rest ih =>
        exact fun engine => .trans (reap_deeds engine handle enters nowNs).work (ih _)
  exact reaped _ engine

/-- A frame the driver is done with is no business of a connection. -/
theorem completeFrame_deeds (index : ℕ) :
    Deeds allowed handle engine (engine.completeFrame index) := by
  unfold completeFrame
  split
  · exact .refl _
  · refine .trans ?_ (releaseMbufs_deeds _ handle _)
    exact .aside rfl rfl rfl

end Engine

/-! ### Steps -/

/-- The edits a call may make. -/
def Host.permits (host : Host) (op : EngineOp) : Edit → Bool
  | .dispatch .. =>
      match op with
      | .segment .. => true
      | _ => false
  | .insert opts =>
      match op with
      | .connect _ _ _ given .. => opts = given
      | _ => false
  | .arm kind _ =>
      match op with
      | .send .. | .segment .. => true
      | _ => kind ≠ .tlp
  | .probe .. =>
      match op with
      | .fireNext _ => host.pending.head?.any fun fired => fired.2.kind = .tlp
      | _ => false
  | .enter target _ =>
      match op with
      | .connect .. => target = .synSent
      | .close .. => target = .finWait1 ∨ target = .lastAck
      | .segment .. => true
      | .reap _ => target = .closed
      | _ => false
  | .wait _ =>
      match op with
      | .segment .. => true
      | _ => false
  | .skipWait =>
      match op with
      | .twSkip .. => true
      | _ => false
  | .strike kind id =>
      match op with
      | .fireNext _ => host.pending.head?.any fun fired => fired.1 = id ∧ fired.2.kind = kind
      | _ => false
  | .forget id =>
      match op with
      | .segment handle .. =>
          (host.engine.flowTable.get handle).bind TcpConn.synRetransTimerId = some id
      | _ => false
  | .stash entry => entry.isNew
  | _ => true

theorem Host.permits_of_plain (host : Host) (op : EngineOp) (edit : Edit)
    (plain : edit.plain = true) : host.permits op edit = true := by
  cases edit with
  | dispatch | probe | enter | wait | skipWait | strike | forget | insert => cases plain
  | arm kind id => cases op <;> first | rfl | exact plain
  | stash entry => exact plain
  | _ => rfl

/-- Only a timer that waits for its handler is struck off as fired. -/
theorem Host.fired_of_strikes (host : Host) {op : EngineOp} {kind : TimerKind} {id : TimerId}
    (strikes : host.permits op (.strike kind id) = true) :
    ∃ node, (id, node) ∈ host.pending := by
  cases op with
  | fireNext env =>
      rcases (Option.any_eq_true _ _).mp strikes with ⟨fired, next, same⟩
      rcases fired with ⟨firedId, node⟩
      have here : firedId = id := (of_decide_eq_true same).1
      exact ⟨node, here ▸ List.mem_of_mem_head? next⟩
  | _ => cases strikes

/-- All but the sweep of the wheel is deeds. -/
theorem Host.step_work (host : Host) {op : EngineOp} (still : ∀ nowNs, op ≠ .advance nowNs) :
    Engine.Work (fun edit => host.permits op edit = true) host.engine (host.step op).engine := by
  have plain := host.permits_of_plain op
  cases op with
  | connect tuple iss ourMss opts synSent nowNs =>
      have connected := @Engine.connectWithOpts_deeds
        (fun edit => host.permits (.connect tuple iss ourMss opts synSent nowNs) edit = true)
        host.engine (fun _ => rfl) (fun _ => rfl) tuple iss ourMss opts (decide_eq_true rfl) synSent
        nowNs
      rcases connected with ⟨handle, _, deeds, _⟩
      exact deeds.work
  | send handle bytes envs tlpNs =>
      exact (Engine.sendBytes_deeds plain host.engine handle (fun _ => rfl) bytes envs tlpNs).work
  | close handle finSent nowNs =>
      refine (Engine.closeConn_deeds plain host.engine handle ?_ finSent nowNs).work
      exact fun target closing deadline => decide_eq_true closing
  | segment handle seg mbufCtx env =>
      exact (Engine.tcpInput_deeds plain host.engine handle (fun _ => rfl) (fun _ _ _ _ => rfl)
        (fun _ => rfl) (fun _ _ => rfl) (fun _ => decide_eq_true) seg mbufCtx env).work
  | advance nowNs => exact absurd rfl (still nowNs)
  | fireNext env =>
      dsimp only [step]
      split
      · exact .refl
      · rename_i id node rest next
        refine (Engine.fireTimer_deeds plain host.engine node ?_ ?_ env).work
        · rw [permits, next]
          exact decide_eq_true ⟨rfl, rfl⟩
        · intro probing seq len nowNs
          rw [permits, next]
          exact decide_eq_true probing
  | flush sent =>
      exact (Engine.Deeds.of_change (Engine.drainTxPendingData_change host.engine sent) :
        Engine.Deeds _ 0 _ _).work
  | reap nowNs => exact Engine.reapTimeWait_work host.engine (fun _ => rfl) nowNs
  | twSkip handle nowNs =>
      have skips : host.permits (.twSkip handle nowNs) .skipWait = true := rfl
      exact (Engine.requestTwSkip_deeds host.engine handle skips nowNs).work

end DpdkTcp
