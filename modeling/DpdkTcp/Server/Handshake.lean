import DpdkTcp.Model.Server
import DpdkTcp.Timers.Spared

/-!
# Segments at a server

A connection under its handshake, and one that waits to be accepted, have
nothing in flight and no timer but that of the SYN-ACK. So what `tcp_input` does
to such a connection beside its dispatch can be followed stage by stage.
-/

namespace DpdkTcp

/-- The connection has nothing in flight, and no timer that goes with it. -/
structure TcpConn.Unarmed (conn : TcpConn) : Prop where
  unsent : conn.sndRetrans.entries = []
  rto : conn.rtoTimerId = none
  tlp : conn.tlpTimerId = none

namespace Engine

/-- The connection of a handle, and the wheel. -/
structure At (engine : Engine) (handle : ConnHandle) (conn : TcpConn) (wheel : TimerWheel) :
    Prop where
  present : engine.flowTable.get handle = some conn
  wheel : engine.timerWheel = wheel

namespace At

variable {engine : Engine} {handle : ConnHandle} {conn : TcpConn} {wheel : TimerWheel}

theorem modify (here : engine.At handle conn wheel) (change : TcpConn → TcpConn) :
    (engine.modifyConn handle change).At handle (change conn) wheel :=
  ⟨(Deeds.get_modifyConn here.present change handle).trans (if_pos rfl), here.wheel⟩

theorem pushEvent (here : engine.At handle conn wheel) (event : InternalEvent) :
    (engine.pushEvent event).At handle conn wheel :=
  ⟨here.present, here.wheel⟩

theorem stopRto (here : engine.At handle conn wheel) (unarmed : conn.rtoTimerId = none) :
    (engine.stopRto handle).At handle conn wheel := by
  have same : engine.stopRto handle = engine := by
    unfold Engine.stopRto
    rw [here.present, Option.bind_some, unarmed]
  rw [same]
  exact here

theorem stopTlp (here : engine.At handle conn wheel) (unarmed : conn.tlpTimerId = none) :
    (engine.stopTlp handle).At handle conn wheel := by
  have same : engine.stopTlp handle = engine := by
    unfold Engine.stopTlp
    rw [here.present, Option.bind_some, unarmed]
  rw [same]
  exact here

theorem pruneAcked (here : engine.At handle conn wheel) (unarmed : conn.Unarmed)
    (newSndUna : Seq) (nowNs : ℕ) :
    (engine.pruneAcked handle newSndUna nowNs).At handle conn wheel := by
  have remaining : conn.sndRetrans.pruneBelow newSndUna = conn.sndRetrans := by
    unfold SendRetrans.pruneBelow
    rw [unarmed.unsent, List.dropWhile_nil, ← unarmed.unsent]
  have pruned : conn.sndRetrans.prunedBelow newSndUna = [] := by
    unfold SendRetrans.prunedBelow
    rw [unarmed.unsent, List.takeWhile_nil]
  have idle : (!conn.sndRetrans.isEmpty && conn.rtoTimerId.isSome) = false := by
    rw [unarmed.rto, Option.isSome_none, Bool.and_false]
  dsimp only [Engine.pruneAcked]
  rw [here.present]
  dsimp only
  rw [pruned, remaining, idle, if_neg Bool.false_ne_true]
  have kept := here.modify fun after => { after with sndRetrans := conn.sndRetrans }
  have freed : ((engine.modifyConn handle fun after =>
      { after with sndRetrans := conn.sndRetrans }).releaseMbufs ([].map RetransEntry.mbuf)).At
        handle conn wheel := ⟨kept.present, kept.wheel⟩
  split
  · exact (freed.stopRto unarmed.rto).stopTlp unarmed.tlp
  · exact freed

theorem armTlpPto (here : engine.At handle conn wheel) (unarmed : conn.Unarmed) (nowNs : ℕ) :
    (engine.armTlpPto handle nowNs).At handle conn wheel := by
  have closed : conn.tlpArmGatePasses = false := by
    unfold TcpConn.tlpArmGatePasses SendRetrans.isEmpty
    rw [unarmed.unsent]
    rfl
  dsimp only [Engine.armTlpPto]
  rw [here.present]
  dsimp only
  rw [closed]
  exact here

/-- With nothing in flight, only the timer of a SYN is left to be stopped. -/
theorem sendSideAfter (here : engine.At handle conn wheel) (unarmed : conn.Unarmed)
    {outcome : Outcome} (quiet : outcome.rackLostIndexes = []) (env : InputEnv) :
    (engine.sendSideAfter handle outcome env).At handle
      (outcome.synRetransTimerToCancel.elim conn conn.withoutTimer)
      (outcome.synRetransTimerToCancel.elim wheel wheel.cancel) := by
  dsimp only [Engine.sendSideAfter]
  rw [quiet]
  generalize armed_eq : Engine.armTlpPto _ handle env.nowNs = armedEngine
  have armed : armedEngine.At handle conn wheel := by
    rw [← armed_eq]
    refine At.armTlpPto ?_ unarmed env.nowNs
    split
    · exact here.pruneAcked unarmed _ _
    · exact here
  cases outcome.synRetransTimerToCancel with
  | none => exact armed
  | some id =>
      have cancelled := At.modify (⟨armed.present, congrArg (·.cancel id) armed.wheel⟩ :
        ((_ : Engine).cancelTimer id).At handle conn (wheel.cancel id)) fun conn =>
          conn.withoutTimer id
      exact cancelled

theorem restartTimeWait (here : engine.At handle conn wheel) (open' : conn.state ≠ .timeWait)
    (outcome : Outcome) (nowNs : ℕ) :
    (engine.restartTimeWait handle outcome nowNs).At handle conn wheel := by
  have stays := here.modify fun conn =>
    if conn.state = .timeWait ∧ outcome.tx = .ack ∧ outcome.badSeq = false then
      { conn with
        timeWaitDeadlineNs := some (min (nowNs + 2 * (engine.cfg.tcpMslMs * 1000000)) U64_MAX) }
    else conn
  rw [if_neg fun waiting => open' waiting.1] at stays
  exact stays

theorem transitionConn (here : engine.At handle conn wheel) {target : TcpState}
    (moves : conn.state ≠ target) (open' : target ≠ .timeWait) (nowNs : ℕ) :
    (engine.transitionConn handle target nowNs).At handle { conn with state := target } wheel := by
  dsimp only [Engine.transitionConn]
  rw [here.present]
  dsimp only
  rw [if_neg moves]
  have moved := here.modify fun conn =>
    { conn with
      state := target
      timeWaitDeadlineNs :=
        if target = .timeWait then some (min (nowNs + 2 * (engine.cfg.tcpMslMs * 1000000)) U64_MAX)
        else conn.timeWaitDeadlineNs }
  rw [if_neg open'] at moved
  exact moved.pushEvent _

theorem emitAck (here : engine.At handle conn wheel) (sent : Bool) :
    (engine.emitAck handle sent).At handle
      (if sent then
        { conn with lastAdvertisedWnd := some conn.advertisedWindow, lastSackTrigger := none }
      else conn) wheel := by
  unfold Engine.emitAck
  split
  · exact here.modify _
  · exact here

theorem handOver (here : engine.At handle conn wheel) (delivered rxHwTsNs emittedTsNs : ℕ) :
    (engine.handOver handle delivered rxHwTsNs emittedTsNs).At handle
      { conn with
        recv := { conn.recv with bytes := (splitDelivered delivered conn.recv.bytes).rest }
        deliveredSegments := [] } wheel := by
  refine ⟨?_, here.wheel⟩
  dsimp only [Engine.handOver, deliverReadable]
  rw [here.present]
  exact (FlowTable.get_set here.present _ handle).trans (if_pos rfl)

end At

/-! ### What a call leaves alone -/

/-- The edits of a call on one connection: it strikes off timers that have fired,
and forgets at most the timer of the connection's SYN. -/
def tending (pending : List (TimerId × TimerNode)) (name : Option TimerId) : Edit → Prop
  | .strike _ id => ∃ node, (id, node) ∈ pending
  | .forget id => name = some id
  | _ => True

theorem tending_of_plain {pending : List (TimerId × TimerNode)} {name : Option TimerId}
    (edit : Edit) (plain : edit.plain = true) : tending pending name edit := by
  cases edit with
  | strike | forget => cases plain
  | _ => trivial

/-- What is done for one connection, as the others and their timers see it. -/
structure Tends (pending : List (TimerId × TimerNode)) (name : Option TimerId)
    (handle : ConnHandle) (before after : Engine) : Prop where
  order : before.InOrder pending → after.InOrder pending
  others : ∀ other, other ≠ handle → after.flowTable.get other = before.flowTable.get other
  spares : ∀ other id kind, other ≠ handle → name ≠ some id → before.Spared other id kind →
    after.Spared other id kind
  grows : ∃ more, after.record.armed = before.record.armed ++ more

namespace Tends

variable {pending : List (TimerId × TimerNode)} {name : Option TimerId} {handle : ConnHandle}
  {first second third before after : Engine} {conn conn' : TcpConn}

theorem trans (left : Tends pending name handle first second)
    (right : Tends pending name handle second third) : Tends pending name handle first third := by
  refine ⟨fun order => right.order (left.order order),
    fun other differs => (right.others other differs).trans (left.others other differs),
    fun other id kind differs unnamed spared =>
      right.spares other id kind differs unnamed (left.spares other id kind differs unnamed spared),
    ?_⟩
  rcases left.grows with ⟨more, grown⟩
  rcases right.grows with ⟨later, again⟩
  exact ⟨more ++ later, by rw [again, grown, List.append_assoc]⟩

theorem of_deeds (deeds : Deeds (tending pending name) handle before after) :
    Tends pending name handle before after := by
  refine ⟨fun order => order.work deeds.work fun kind id striking => striking,
    fun other differs => deeds.others differs, ?_, deeds.work.grows⟩
  intro other id kind differs unnamed spared
  refine deeds.spares differs.symm (fun forgotten forgets same => ?_) spared
  exact unnamed (same ▸ forgets)

/-- The connection is written, and forgets names of timers at most. -/
theorem of_write (present : before.flowTable.get handle = some conn)
    (written : Writes handle before after (some conn')) (timers : SameTimers conn conn')
    (wheel : after.timerWheel = before.timerWheel)
    (record : after.record.armings = before.record.armings) :
    Tends pending name handle before after := by
  refine ⟨fun order => order.step (.write present written timers wheel record),
    fun other differs => (written other).trans (if_neg differs), ?_,
    ⟨[], (congrArg Prod.fst record).trans (List.append_nil _).symm⟩⟩
  intro other id kind differs _ spared
  refine ⟨by rw [wheel]; exact spared.sound, by rw [wheel]; exact spared.runs, ?_⟩
  refine spared.apart.write written fun listed => ?_
  exact spared.apart handle conn differs.symm present (timers.allTimerIds listed)

/-- A connection without timers is put into the table. -/
theorem of_insert (vacant : before.flowTable.get handle = none)
    (written : Writes handle before after (some conn)) (fresh : conn.timerIds = [])
    (unnamed : ∀ kind, conn.timerOf kind = none) (wheel : after.timerWheel = before.timerWheel)
    (record : after.record.armings = (before.record.armed, before.record.opened ++ [handle])) :
    Tends pending name handle before after := by
  refine ⟨fun order => order.step (.insert vacant written fresh unnamed wheel record),
    fun other differs => (written other).trans (if_neg differs), ?_,
    ⟨[], (congrArg Prod.fst record).trans (List.append_nil _).symm⟩⟩
  intro other id kind differs _ spared
  refine ⟨by rw [wheel]; exact spared.sound, by rw [wheel]; exact spared.runs, ?_⟩
  refine spared.apart.write written fun listed => ?_
  have rto := unnamed .rto
  have tlp := unnamed .tlp
  have syn := unnamed .synRetrans
  simp only [TcpConn.timerOf] at rto tlp syn
  unfold TcpConn.allTimerIds at listed
  rw [fresh, rto, tlp, syn] at listed
  exact List.not_mem_nil listed

end Tends

end Engine

/-! ### The two kinds of connection a slot names -/

/-- A handshake from outside is under way, and its timer is the only one. -/
structure TcpConn.Opening (conn : TcpConn) (id : TimerId) : Prop where
  state : conn.state = .synReceived
  passive : conn.isPassiveOpen = true
  timer : conn.synRetransTimerId = some id
  timerIds : conn.timerIds = [id]
  unarmed : conn.Unarmed
  budget : conn.synRetransCount ≤ 3

/-- The handshake from outside is complete, and nothing was sent yet. -/
structure TcpConn.Completed (conn : TcpConn) : Prop where
  state : conn.state = .established ∨ conn.state = .closeWait
  passive : conn.isPassiveOpen = true
  timer : conn.synRetransTimerId = none
  unarmed : conn.Unarmed

/-- How `handle_syn_received` ends for a connection that was opened from outside. -/
inductive HandshakeTurn (conn : TcpConn) (seg : ParsedSegment) (nowNs : ℕ) :
    ServerDispatched → Prop where
  | reset (cause : seg.flags.has TCP_RST = true) :
      HandshakeTurn conn seg nowNs ⟨conn, { closed := true, reListenIfPassive := true }, []⟩
  | repeated : HandshakeTurn conn seg nowNs ⟨conn, { retransmitSynAckForPassive := true }, []⟩
  | ignored : HandshakeTurn conn seg nowNs ⟨conn, {}, []⟩
  | challenged : HandshakeTurn conn seg nowNs ⟨conn, { tx := .ack, badSeq := true }, []⟩
  | refused : HandshakeTurn conn seg nowNs ⟨conn, handshakeRefused, []⟩
  | completed (acked : synAcked conn seg = true) :
      HandshakeTurn conn seg nowNs
        ⟨{ adoptFinalAck conn seg nowNs with synRetransTimerId := none },
          { newState := some .established
            connected := true
            synRetransTimerToCancel := conn.synRetransTimerId }, []⟩

theorem handleSynReceived_turn {conn : TcpConn} (passive : conn.isPassiveOpen = true)
    (seg : ParsedSegment) (nowNs : ℕ) :
    HandshakeTurn conn seg nowNs (handleSynReceived conn seg nowNs) := by
  unfold handleSynReceived
  rw [if_pos passive]
  split
  · rename_i cause
    exact .reset cause
  · split
    · split
      · exact .repeated
      · exact .refused
    · split
      · exact .ignored
      · split
        · exact .challenged
        · split
          · exact .refused
          · rename_i acked
            exact .completed (by simpa using acked)

/-- The last ACK writes the send window and the timestamps only. -/
theorem adoptFinalAck_only (conn : TcpConn) (seg : ParsedSegment) (nowNs : ℕ) :
    ∃ tsRecent tsRecentAge, adoptFinalAck conn seg nowNs =
      { conn with
        sndUna := seg.ack
        sndWnd := seg.window.toNat
        sndWl1 := seg.seq
        sndWl2 := seg.ack
        tsRecent := tsRecent
        tsRecentAge := tsRecentAge } := by
  dsimp only [adoptFinalAck]
  split
  · split
    · exact ⟨_, _, rfl⟩
    · exact ⟨conn.tsRecent, conn.tsRecentAge, rfl⟩
  · exact ⟨conn.tsRecent, conn.tsRecentAge, rfl⟩

theorem TimerWheel.cancel_twice (wheel : TimerWheel) (id : TimerId) :
    (wheel.cancel id).cancel id = wheel.cancel id := by
  refine cancel_of_dead ?_
  rw [isLive_cancel]
  simp

/-- Tearing down a handshake removes the connection and cancels its timers. -/
theorem Engine.tearDownPassive_deeds {engine : Engine} {handle : ConnHandle} {conn : TcpConn}
    {id : TimerId} {allowed : Edit → Prop} (present : engine.flowTable.get handle = some conn)
    (opening : conn.Opening id) :
    Engine.Deeds allowed handle engine (engine.tearDownPassive handle) ∧
      (engine.tearDownPassive handle).flowTable.get handle = none := by
  have ids : conn.allTimerIds = [id, id] := by
    unfold TcpConn.allTimerIds
    rw [opening.timerIds, opening.timer, opening.unarmed.rto, opening.unarmed.tlp]
    rfl
  have written : Engine.Writes handle engine (engine.tearDownPassive handle) none := by
    intro other
    dsimp only [Engine.tearDownPassive]
    rw [present]
    dsimp only
    rw [opening.timer]
    refine (FlowTable.get_remove _ handle other).trans ?_
    split
    · rfl
    · rename_i differs
      exact (FlowTable.get_modify _ other).trans (if_neg differs)
  refine ⟨.one (.remove present written ?_ ?_), (written handle).trans (if_pos rfl)⟩
  · rw [Engine.cancelTimers_wheel, ids]
    dsimp only [Engine.tearDownPassive]
    rw [present]
    dsimp only
    rw [opening.timer]
    exact (engine.timerWheel.cancel_twice id).symm
  · dsimp only [Engine.tearDownPassive]
    rw [present]
    dsimp only
    rw [opening.timer]
    rfl

theorem Engine.emitSynAckForPassive_armed {engine : Engine} {handle : ConnHandle} {conn : TcpConn}
    {id : TimerId} (present : engine.flowTable.get handle = some conn)
    (armed : conn.synRetransTimerId = some id) (sent : Bool) (nowNs : ℕ) :
    engine.emitSynAckForPassive handle sent nowNs = engine := by
  unfold emitSynAckForPassive
  rw [present]
  dsimp only
  rw [armed, Option.isNone_some, Bool.and_false, if_neg Bool.false_ne_true]

namespace Server

/-- What a segment does to the handshake of a connection, and to its slot. -/
inductive HandshakeStep (slots : ListenSlots) (wheel : TimerWheel) (handle : ConnHandle)
    (conn : TcpConn) (id : TimerId) (after : Server) : Prop where
  | freed (gone : after.host.engine.flowTable.get handle = none)
      (slots : after.listenSlots = slots.clearInProgressForConn handle)
  | kept {conn' : TcpConn} (opening : conn'.Opening id)
      (tuple : conn'.fourTuple = conn.fourTuple)
      (here : after.host.engine.At handle conn' wheel) (slots : after.listenSlots = slots)
  | completed {conn' : TcpConn} (completed : conn'.Completed)
      (tuple : conn'.fourTuple = conn.fourTuple)
      (present : after.host.engine.flowTable.get handle = some conn')
      (slots : after.listenSlots = slots.listenPromoteToAcceptQueue handle)

section Handshake

variable {server : Server} {handle : ConnHandle} {conn : TcpConn} {id : TimerId}
  {wheel : TimerWheel} {pending : List (TimerId × TimerNode)}

/-- The outcome of a segment under a handshake, once the engine has seen to its timers. -/
def Ends (server : Server) (handle : ConnHandle) (conn : TcpConn) (id : TimerId)
    (wheel : TimerWheel) (pending : List (TimerId × TimerNode)) (after : Server) : Prop :=
  Engine.Tends pending (some id) handle server.host.engine after.host.engine ∧
    HandshakeStep server.listenSlots wheel handle conn id after

theorem ends_ignored (here : server.host.engine.At handle conn wheel) (opening : conn.Opening id)
    (env : InputEnv) (sent : Bool) :
    server.Ends handle conn id wheel pending (server.receiveSideAfter handle {} env sent) := by
  have waits : ∀ deadline, Engine.tending pending (some id) (.wait deadline) := fun _ => trivial
  have running : conn.state ≠ .timeWait := by
    rw [opening.state]
    exact nofun
  exact ⟨.of_deeds (Engine.restartTimeWait_deeds _ handle waits {} env.nowNs),
    .kept opening rfl (here.restartTimeWait running {} env.nowNs) rfl⟩

theorem ends_repeated (here : server.host.engine.At handle conn wheel) (opening : conn.Opening id)
    (env : InputEnv) (sent : Bool) :
    server.Ends handle conn id wheel pending
      (server.receiveSideAfter handle { retransmitSynAckForPassive := true } env sent) := by
  have waits : ∀ deadline, Engine.tending pending (some id) (.wait deadline) := fun _ => trivial
  have running : conn.state ≠ .timeWait := by
    rw [opening.state]
    exact nofun
  have waited := here.restartTimeWait running {} env.nowNs
  have quiet := Engine.emitSynAckForPassive_armed waited.present opening.timer sent env.nowNs
  have same : (server.receiveSideAfter handle { retransmitSynAckForPassive := true } env sent) =
      server.withEngine ((server.host.engine.restartTimeWait handle {}
        env.nowNs).emitSynAckForPassive handle sent env.nowNs) := rfl
  rw [same, quiet]
  exact ⟨.of_deeds (Engine.restartTimeWait_deeds _ handle waits {} env.nowNs),
    .kept opening rfl waited rfl⟩

theorem ends_challenged (here : server.host.engine.At handle conn wheel) (opening : conn.Opening id)
    (env : InputEnv) (sent : Bool) :
    server.Ends handle conn id wheel pending
      (server.receiveSideAfter handle { tx := .ack, badSeq := true } env sent) := by
  have plain : ∀ edit : Edit, edit.plain = true → Engine.tending pending (some id) edit :=
    Engine.tending_of_plain
  have waits : ∀ deadline, Engine.tending pending (some id) (.wait deadline) := fun _ => trivial
  have enters : ∀ deadline, Engine.tending pending (some id) (.enter .closed deadline) :=
    fun _ => trivial
  have running : conn.state ≠ .timeWait := by
    rw [opening.state]
    exact nofun
  have acked := (here.restartTimeWait running { tx := .ack, badSeq := true } env.nowNs).emitAck
    env.ackSent
  refine ⟨.of_deeds (.trans (Engine.restartTimeWait_deeds _ handle waits _ env.nowNs)
    (Engine.answer_deeds plain _ handle enters .ack env)), .kept ?_ ?_ acked rfl⟩
  · split
    · exact ⟨opening.state, opening.passive, opening.timer, opening.timerIds,
        ⟨opening.unarmed.unsent, opening.unarmed.rto, opening.unarmed.tlp⟩, opening.budget⟩
    · exact opening
  · split <;> rfl

theorem ends_reset (here : server.host.engine.At handle conn wheel) (opening : conn.Opening id)
    (env : InputEnv) (sent : Bool) :
    server.Ends handle conn id wheel pending
      (server.receiveSideAfter handle { closed := true, reListenIfPassive := true } env sent) := by
  have waits : ∀ deadline, Engine.tending pending (some id) (.wait deadline) := fun _ => trivial
  have running : conn.state ≠ .timeWait := by
    rw [opening.state]
    exact nofun
  have waited := here.restartTimeWait running { closed := true } env.nowNs
  have begun : Engine.Deeds (Engine.tending pending (some id)) handle server.host.engine
      (server.host.engine.restartTimeWait handle { closed := true } env.nowNs) :=
    Engine.restartTimeWait_deeds _ handle waits _ env.nowNs
  have same : server.receiveSideAfter handle { closed := true, reListenIfPassive := true } env
      sent =
      (let waited := server.host.engine.restartTimeWait handle { closed := true } env.nowNs
      let relistened :=
        if (waited.flowTable.get handle).any TcpConn.isPassiveOpen then
          { server with
            listenSlots := server.listenSlots.clearInProgressForConn handle }.withEngine
            (waited.tearDownPassive handle)
        else server.withEngine waited
      relistened.withEngine
        (relistened.host.engine.finishClosed handle { closed := true } env)) := rfl
  rw [same]
  generalize server.host.engine.restartTimeWait handle { closed := true } env.nowNs = engine at *
  have passive : (engine.flowTable.get handle).any TcpConn.isPassiveOpen = true := by
    rw [waited.present, Option.any_some, opening.passive]
  rcases Engine.tearDownPassive_deeds waited.present opening with ⟨torn, gone⟩
  have ended : (engine.tearDownPassive handle).finishClosed handle { closed := true } env =
      (engine.tearDownPassive handle).pushEvent (.closed handle 0 env.nowNs) := by
    have still : ((engine.tearDownPassive handle).pushEvent
        (.closed handle 0 env.nowNs)).flowTable.get handle = none := gone
    dsimp only [Engine.finishClosed]
    rw [if_pos rfl, still]
  dsimp only [withEngine]
  rw [if_pos passive]
  dsimp only
  rw [ended]
  exact ⟨.of_deeds (.trans (.trans begun torn) (Engine.pushEvent_deeds _ handle _)),
    .freed gone rfl⟩

theorem ends_refused (here : server.host.engine.At handle conn wheel) (opening : conn.Opening id)
    (env : InputEnv) (sent : Bool) :
    server.Ends handle conn id wheel pending
      (server.receiveSideAfter handle handshakeRefused env sent) := by
  have waits : ∀ deadline, Engine.tending pending (some id) (.wait deadline) := fun _ => trivial
  have enters : ∀ deadline, Engine.tending pending (some id) (.enter .closed deadline) :=
    fun _ => trivial
  have running : conn.state ≠ .timeWait := by
    rw [opening.state]
    exact nofun
  have waited := here.restartTimeWait running handshakeRefused.toOutcome env.nowNs
  have begun : Engine.Deeds (Engine.tending pending (some id)) handle server.host.engine
      (server.host.engine.restartTimeWait handle handshakeRefused.toOutcome env.nowNs) :=
    Engine.restartTimeWait_deeds _ handle waits _ env.nowNs
  have same : server.receiveSideAfter handle handshakeRefused env sent =
      { server with listenSlots := server.listenSlots.clearInProgressForConn handle }.withEngine
        ((((server.host.engine.restartTimeWait handle handshakeRefused.toOutcome
          env.nowNs).transitionConn handle .closed env.nowNs).transitionConn handle .closed
            env.nowNs).finishClosed handle handshakeRefused.toOutcome env) := rfl
  rw [same]
  generalize server.host.engine.restartTimeWait handle handshakeRefused.toOutcome env.nowNs =
    first at *
  have moved : Engine.Deeds (Engine.tending pending (some id)) handle first
      (first.transitionConn handle .closed env.nowNs) :=
    Engine.transitionConn_deeds first handle enters env.nowNs
  have closed : (first.transitionConn handle .closed env.nowNs).stateAt handle = some .closed := by
    rw [Engine.stateAt_transitionConn, if_pos rfl, Engine.stateAt, waited.present]
    rfl
  generalize first.transitionConn handle .closed env.nowNs = second at *
  have again : Engine.Deeds (Engine.tending pending (some id)) handle second
      (second.transitionConn handle .closed env.nowNs) :=
    Engine.transitionConn_deeds second handle enters env.nowNs
  have still : (second.transitionConn handle .closed env.nowNs).stateAt handle =
      some .closed := by
    rw [Engine.stateAt_transitionConn, if_pos rfl, closed]
    rfl
  generalize second.transitionConn handle .closed env.nowNs = third at *
  have ended : Engine.Deeds (Engine.tending pending (some id)) handle third
      (third.finishClosed handle handshakeRefused.toOutcome env) :=
    Engine.finishClosed_deeds third handle _ env
  have gone := Engine.stateAt_finishClosed third handle handle handshakeRefused.toOutcome env
  rw [if_pos ⟨rfl, rfl, still⟩, Engine.stateAt, Option.map_eq_none_iff] at gone
  exact ⟨.of_deeds (.trans (.trans (.trans begun moved) again) ended), .freed gone rfl⟩

theorem ends_completed {seg : ParsedSegment} {nowNs : ℕ} {stopped : TimerWheel}
    (here : server.host.engine.At handle
      ({ adoptFinalAck conn seg nowNs with synRetransTimerId := none }.withoutTimer id) stopped)
    (opening : conn.Opening id) (env : InputEnv) (sent : Bool) :
    server.Ends handle conn id wheel pending
      (server.receiveSideAfter handle
        { newState := some .established, connected := true, synRetransTimerToCancel := some id }
        env sent) := by
  have waits : ∀ deadline, Engine.tending pending (some id) (.wait deadline) := fun _ => trivial
  have enters : ∀ deadline, Engine.tending pending (some id) (.enter .established deadline) :=
    fun _ => trivial
  rcases adoptFinalAck_only conn seg nowNs with ⟨tsRecent, tsRecentAge, adopted⟩
  rw [adopted] at here
  have state : ({ conn with
      sndUna := seg.ack
      sndWnd := seg.window.toNat
      sndWl1 := seg.seq
      sndWl2 := seg.ack
      tsRecent := tsRecent
      tsRecentAge := tsRecentAge
      synRetransTimerId := none }.withoutTimer id).state = .synReceived := opening.state
  have waited := here.restartTimeWait (by rw [state]; exact nofun)
    { newState := some .established, connected := true, synRetransTimerToCancel := some id }
    env.nowNs
  have moved := waited.transitionConn
    (show _ ≠ TcpState.established by rw [state]; exact nofun) nofun env.nowNs
  refine ⟨.of_deeds (.trans (.trans (Engine.restartTimeWait_deeds _ handle waits _ env.nowNs)
    (Engine.transitionConn_deeds _ handle enters env.nowNs))
      (Engine.pushEvent_deeds _ handle (.connected handle env.rxHwTsNs env.nowNs))),
    .completed ?_ ?_ moved.present rfl⟩
  · exact ⟨.inl rfl, opening.passive, rfl,
      ⟨opening.unarmed.unsent, opening.unarmed.rto, opening.unarmed.tlp⟩⟩
  · rfl

/-- The dispatch of a segment under a handshake, up to the end of the send side. -/
theorem dispatched_tends {after : TcpConn} (pending : List (TimerId × TimerNode))
    (outcome : Outcome) (present : server.host.engine.flowTable.get handle = some conn)
    (timers : SameTimers conn after) (unarmed : after.Unarmed)
    (quiet : outcome.rackLostIndexes = [])
    (cancels : ∀ other, outcome.synRetransTimerToCancel = some other → other = id)
    (mbufCtx : Option MbufInsertCtx) (env : InputEnv) :
    Engine.Tends pending (some id) handle server.host.engine
        ((server.host.engine.written handle mbufCtx ⟨after, outcome, []⟩).sendSideAfter
          handle outcome env) ∧
      ((server.host.engine.written handle mbufCtx ⟨after, outcome, []⟩).sendSideAfter
        handle outcome env).At handle
          (outcome.synRetransTimerToCancel.elim after after.withoutTimer)
          (outcome.synRetransTimerToCancel.elim server.host.engine.timerWheel
            server.host.engine.timerWheel.cancel) := by
  have plain : ∀ edit : Edit, edit.plain = true → Engine.tending pending (some id) edit :=
    Engine.tending_of_plain
  have arms : ∀ other, Engine.tending pending (some id) (.arm .tlp other) := fun _ => trivial
  have forgets : ∀ other, outcome.synRetransTimerToCancel = some other →
      Engine.tending pending (some id) (.forget other) := fun other cancelled => by
    rw [cancels other cancelled]
    exact rfl
  have written : Engine.Writes handle server.host.engine
      (server.host.engine.written handle mbufCtx ⟨after, outcome, []⟩) (some after) :=
    fun other => FlowTable.get_set present _ other
  have stays := (written handle).trans (if_pos rfl)
  have here : (server.host.engine.written handle mbufCtx ⟨after, outcome, []⟩).At handle
      after server.host.engine.timerWheel := ⟨stays, rfl⟩
  exact ⟨.trans (.of_write present written timers rfl rfl)
      (.of_deeds (Engine.sendSideAfter_deeds plain _ handle arms stays forgets env)),
    here.sendSideAfter unarmed quiet env⟩

/-- What `tcp_input` does with a segment of a handshake. -/
theorem tcpInput_handshake (pending : List (TimerId × TimerNode)) (present : server.host.engine.flowTable.get handle = some conn)
    (opening : conn.Opening id) (seg : ParsedSegment) (mbufCtx : Option MbufInsertCtx)
    (env : InputEnv) (sent : Bool) :
    server.Ends handle conn id server.host.engine.timerWheel pending
      (server.tcpInput handle seg mbufCtx env sent) := by
  have turn := handleSynReceived_turn opening.passive seg env.clock.synTsRecent
  have dispatched : serverDispatch conn seg env.clock server.host.engine.cfg.sendBufferBytes
      mbufCtx = handleSynReceived conn seg env.clock.synTsRecent := by
    rw [serverDispatch, if_pos opening.state]
  have idle : ∀ other, (none : Option TimerId) = some other → other = id := nofun
  dsimp only [tcpInput]
  rw [present]
  dsimp only
  rw [dispatched]
  have chain : ∀ {middle : Engine} {after : Server},
      Engine.Tends pending (some id) handle server.host.engine middle →
      (server.withEngine middle).Ends handle conn id server.host.engine.timerWheel pending after →
      server.Ends handle conn id server.host.engine.timerWheel pending after :=
    fun first ends => ⟨first.trans ends.1, ends.2⟩
  generalize handleSynReceived conn seg env.clock.synTsRecent = ended at turn
  cases turn with
  | ignored =>
      have side := dispatched_tends pending {} present (.refl conn) opening.unarmed rfl idle
        mbufCtx env
      exact chain side.1 (ends_ignored side.2 opening env sent)
  | repeated =>
      have side := dispatched_tends pending {} present (.refl conn) opening.unarmed rfl idle
        mbufCtx env
      exact chain side.1 (ends_repeated side.2 opening env sent)
  | challenged =>
      have side := dispatched_tends pending { tx := .ack, badSeq := true } present (.refl conn)
        opening.unarmed rfl idle mbufCtx env
      exact chain side.1 (ends_challenged side.2 opening env sent)
  | reset =>
      have side := dispatched_tends pending { closed := true } present (.refl conn)
        opening.unarmed rfl idle mbufCtx env
      exact chain side.1 (ends_reset side.2 opening env sent)
  | refused =>
      have side := dispatched_tends pending handshakeRefused.toOutcome present (.refl conn)
        opening.unarmed rfl idle mbufCtx env
      exact chain side.1 (ends_refused side.2 opening env sent)
  | completed acked =>
      rw [opening.timer]
      have adopted : SameTimers conn
            { adoptFinalAck conn seg env.clock.synTsRecent with synRetransTimerId := none } ∧
          TcpConn.Unarmed
            { adoptFinalAck conn seg env.clock.synTsRecent with synRetransTimerId := none } := by
        rcases adoptFinalAck_only conn seg env.clock.synTsRecent with ⟨_, _, only⟩
        rw [only]
        refine ⟨⟨rfl, fun kind => ?_⟩,
          ⟨opening.unarmed.unsent, opening.unarmed.rto, opening.unarmed.tlp⟩⟩
        cases kind with
        | synRetrans => exact .inr rfl
        | rto | tlp | apiPublic => exact .inl rfl
      have side := dispatched_tends pending
        { newState := some .established, connected := true, synRetransTimerToCancel := some id }
        present adopted.1 adopted.2 rfl (fun _ same => (Option.some.inj same).symm) mbufCtx env
      exact chain side.1 (ends_completed side.2 opening env sent)

end Handshake

end Server

end DpdkTcp
