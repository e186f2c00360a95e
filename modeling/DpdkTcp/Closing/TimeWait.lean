import DpdkTcp.Lifecycle.Deeds
import DpdkTcp.Wakeup.Wake

/-!
# The quiet period of TIME_WAIT

A connection enters TIME_WAIT with a deadline two segment lifetimes away, a
segment inside the window moves the deadline, and the reaper takes the
connection when the deadline has come. The number of the peer's FIN is the one
before `rcv_nxt`, outside the window: where the peer sends its FIN again, this
is acknowledged, but the deadline stays.
-/

namespace DpdkTcp

/-- How long a connection is to stay in TIME_WAIT. -/
def EngineConfig.quietNs (cfg : EngineConfig) : ℕ :=
  2 * (cfg.tcpMslMs * 1000000)

/-- The segment brings the FIN that `rcv_nxt` stands behind once more. -/
def TcpConn.repeatsFin (conn : TcpConn) (seg : ParsedSegment) : Bool :=
  !seg.flags.has TCP_RST && seg.fin && seqAdd seg.seq (seg.payload.length + 1) == conn.rcvNxt

/-- In TIME_WAIT a RST ends the connection, and every other segment is acknowledged. -/
theorem dispatch_of_waiting {conn : TcpConn} {seg : ParsedSegment} (clock : Readings) (sendBuf : ℕ)
    (mbufCtx : Option MbufInsertCtx) (waiting : conn.state = .timeWait) :
    dispatch conn seg clock sendBuf mbufCtx =
      if seg.flags.has TCP_RST then
        { conn := conn, outcome := { newState := some .closed, closed := true } }
      else { conn := conn, outcome := { tx := .ack, badSeq := !segInWindow conn seg } } := by
  have closing : dispatch conn seg clock sendBuf mbufCtx = handleClosePath conn seg clock := by
    rw [dispatch, waiting]
  rw [closing, handleClosePath, if_pos waiting]

/-- The change lets a wait begin or moves its end. -/
def Edit.setsWait : Edit → Bool
  | .wait _ => true
  | .enter target _ => target = .timeWait
  | _ => false

theorem Edit.setsWait_of_plain (edit : Edit) (plain : edit.plain = true) :
    edit.setsWait = false := by
  cases edit with
  | wait | enter => cases plain
  | _ => rfl

/-- Only an edit that sets the wait begins one or moves its end. -/
theorem Edit.keepsWait {edit : Edit} (beside : edit.setsWait = false) {conn : TcpConn}
    (waiting : (edit.apply conn).state = .timeWait) :
    conn.state = .timeWait ∧ (edit.apply conn).timeWaitDeadlineNs = conn.timeWaitDeadlineNs := by
  cases edit with
  | dispatch seg clock sendBuf mbufCtx =>
      have state : conn.state = .timeWait :=
        (dispatch_state conn seg clock sendBuf mbufCtx).symm.trans waiting
      have tended := dispatch_tended (by rw [state]; exact nofun) seg clock sendBuf mbufCtx
      refine ⟨state, ?_⟩
      rw [Edit.apply, tended.only]
  | enter target deadline =>
      have differs : target ≠ .timeWait := of_decide_eq_false beside
      exact absurd waiting differs
  | strike kind id | arm kind id => cases kind <;> exact ⟨waiting, rfl⟩
  | wait => cases beside
  | _ => exact ⟨waiting, rfl⟩

namespace Engine

variable {allowed : Edit → Prop} {handle : ConnHandle} {before after : Engine} {conn : TcpConn}

/-- A connection that waits after a deed waited before it, up to the same time. -/
theorem Deed.keepsWait (bars : ∀ edit, allowed edit → edit.setsWait = false)
    (deed : Deed allowed handle before after) {other : ConnHandle}
    (live : after.flowTable.get other = some conn) (waiting : conn.state = .timeWait) :
    ∃ earlier, before.flowTable.get other = some earlier ∧ earlier.state = .timeWait ∧
      conn.timeWaitDeadlineNs = earlier.timeWaitDeadlineNs := by
  have kept : ∀ {earlier later : TcpConn}, before.flowTable.get handle = some earlier →
      Writes handle before after (some later) →
      (later.state = .timeWait →
        earlier.state = .timeWait ∧ later.timeWaitDeadlineNs = earlier.timeWaitDeadlineNs) →
      ∃ earlier, before.flowTable.get other = some earlier ∧ earlier.state = .timeWait ∧
        conn.timeWaitDeadlineNs = earlier.timeWaitDeadlineNs := by
    intro earlier later present written keeps
    rw [written] at live
    split at live
    · rename_i same
      cases live
      exact ⟨earlier, same ▸ present, keeps waiting⟩
    · exact ⟨conn, live, waiting, rfl⟩
  cases deed with
  | aside conns =>
      rw [conns] at live
      exact ⟨conn, live, waiting, rfl⟩
  | edit edit isAllowed present _ written =>
      exact kept present written (edit.keepsWait (bars edit isAllowed))
  | arm kind _ _ _ _ _ present written =>
      refine kept present written fun state => ?_
      cases kind <;> exact ⟨state, rfl⟩
  | stop kind _ present _ written =>
      refine kept present written fun state => ?_
      cases kind <;> exact ⟨state, rfl⟩
  | forget id _ present written => exact kept present written fun state => ⟨state, rfl⟩
  | remove present written =>
      rw [written] at live
      split at live
      · cases live
      · exact ⟨conn, live, waiting, rfl⟩
  | insert tuple iss ourMss opts nowNs _ vacant written =>
      rw [written] at live
      split at live
      · cases live
        cases waiting
      · exact ⟨conn, live, waiting, rfl⟩

theorem Work.keepsWait (bars : ∀ edit, allowed edit → edit.setsWait = false)
    (work : Work allowed before after) {other : ConnHandle}
    (live : after.flowTable.get other = some conn) (waiting : conn.state = .timeWait) :
    ∃ earlier, before.flowTable.get other = some earlier ∧ earlier.state = .timeWait ∧
      conn.timeWaitDeadlineNs = earlier.timeWaitDeadlineNs := by
  induction work generalizing conn with
  | refl => exact ⟨conn, live, waiting, rfl⟩
  | tail _ deed ih =>
      rcases deed with ⟨target, deed⟩
      rcases deed.keepsWait bars live waiting with ⟨middle, there, still, same⟩
      rcases ih there still with ⟨earlier, present, waited, before⟩
      exact ⟨earlier, present, waited, same.trans before⟩

/-- The end of a wait that starts now. -/
def waitUntil (engine : Engine) (nowNs : ℕ) : ℕ :=
  min (nowNs + engine.cfg.quietNs) U64_MAX

/-- A state change that leads to TIME_WAIT begins a wait, unless there is one. -/
theorem transitionConn_wait (engine : Engine) (handle : ConnHandle) (target : TcpState) (nowNs : ℕ)
    (live : (engine.transitionConn handle target nowNs).flowTable.get handle = some conn)
    (waiting : conn.state = .timeWait) :
    target = .timeWait ∧ ∃ earlier, engine.flowTable.get handle = some earlier ∧
      (earlier.state = .timeWait ∧ conn.timeWaitDeadlineNs = earlier.timeWaitDeadlineNs ∨
        earlier.state ≠ .timeWait ∧
          conn.timeWaitDeadlineNs = some (engine.waitUntil nowNs)) := by
  dsimp only [transitionConn] at live
  split at live
  · rename_i absent
    rw [absent] at live
    cases live
  · rename_i earlier present
    split at live
    · rename_i same
      rw [present] at live
      cases live
      exact ⟨same.symm.trans waiting, _, present, Or.inl ⟨waiting, rfl⟩⟩
    · rename_i differs
      have written := (FlowTable.get_modify _ handle).symm.trans live
      rw [if_pos rfl, present] at written
      cases written
      have entered : target = .timeWait := waiting
      subst entered
      exact ⟨rfl, _, present, Or.inr ⟨differs, rfl⟩⟩

theorem restartTimeWait_wait (engine : Engine) (handle : ConnHandle) (outcome : Outcome)
    (nowNs : ℕ)
    (live : (engine.restartTimeWait handle outcome nowNs).flowTable.get handle = some conn)
    (waiting : conn.state = .timeWait) :
    ∃ earlier, engine.flowTable.get handle = some earlier ∧ earlier.state = .timeWait ∧
      conn.timeWaitDeadlineNs =
        if outcome.tx = .ack ∧ outcome.badSeq = false then some (engine.waitUntil nowNs)
        else earlier.timeWaitDeadlineNs := by
  have written := (FlowTable.get_modify _ handle).symm.trans live
  rw [if_pos rfl] at written
  rcases Option.map_eq_some_iff.mp written with ⟨earlier, present, changed⟩
  refine ⟨earlier, present, ?_⟩
  by_cases restarts : earlier.state = .timeWait ∧ outcome.tx = .ack ∧ outcome.badSeq = false
  · rw [if_pos restarts] at changed
    subst changed
    refine ⟨waiting, ?_⟩
    rw [if_pos restarts.2]
    rfl
  · rw [if_neg restarts] at changed
    subst changed
    refine ⟨waiting, ?_⟩
    rw [if_neg fun rest => restarts ⟨waiting, rest⟩]

/-- What a segment of the connection does to its wait. -/
theorem tcpInput_wait (engine : Engine) (handle : ConnHandle) (seg : ParsedSegment)
    (mbufCtx : Option MbufInsertCtx) (env : InputEnv)
    (live : (engine.tcpInput handle seg mbufCtx env).flowTable.get handle = some conn)
    (waiting : conn.state = .timeWait) :
    ∃ earlier, engine.flowTable.get handle = some earlier ∧
      (earlier.state = .timeWait ∧ conn.timeWaitDeadlineNs =
          (if segInWindow earlier seg then some (engine.waitUntil env.nowNs)
          else earlier.timeWaitDeadlineNs) ∨
        earlier.state ≠ .timeWait ∧
          conn.timeWaitDeadlineNs = some (engine.waitUntil env.nowNs)) := by
  have plain : ∀ edit, Edit.plain edit = true → edit.setsWait = false := Edit.setsWait_of_plain
  cases present : engine.flowTable.get handle with
  | none =>
      rw [tcpInput_absent present, present] at live
      cases live
  | some first =>
      refine ⟨first, rfl, ?_⟩
      have decides := @dispatch_of_waiting first seg env.clock
        engine.cfg.sendBufferBytes mbufCtx
      rcases tcpInput_eq engine handle present seg mbufCtx env with
        ⟨notified, cfg, _, table, processed⟩
      rw [processed] at live
      have begun : notified.flowTable.get handle = some (dispatch first seg env.clock
          engine.cfg.sendBufferBytes mbufCtx).conn := by
        rw [table]
        exact (FlowTable.get_set present _ handle).trans (if_pos rfl)
      have sameState := dispatch_state first seg env.clock engine.cfg.sendBufferBytes mbufCtx
      generalize dispatch first seg env.clock engine.cfg.sendBufferBytes mbufCtx = dispatched
        at *
      have sided : Work (fun edit => edit.setsWait = false) notified
          (notified.sendSideAfter handle dispatched.outcome env) :=
        (sendSideAfter_deeds plain notified handle (fun _ => rfl) begun (fun _ _ => rfl) env).work
      have sameCfg := (sendSideAfter_conns notified handle dispatched.outcome env).1.trans cfg
      generalize notified.sendSideAfter handle dispatched.outcome env = sent at *
      -- what the dispatch and the retransmissions leave of a wait
      have waited : ∀ {later : TcpConn}, sent.flowTable.get handle = some later →
          later.state = .timeWait →
          first.state = .timeWait ∧ later.timeWaitDeadlineNs = first.timeWaitDeadlineNs := by
        intro later there still
        rcases sided.keepsWait (fun _ beside => beside) there still with
          ⟨middle, found, before, same⟩
        rw [begun] at found
        cases found
        have first_waits := sameState.symm.trans before
        refine ⟨first_waits, ?_⟩
        rw [same, decides first_waits]
        split <;> rfl
      dsimp only [receiveSideAfter] at live
      have until' : (sent.restartTimeWait handle dispatched.outcome env.nowNs).waitUntil env.nowNs =
          engine.waitUntil env.nowNs := by
        unfold waitUntil
        rw [← sameCfg]
        rfl
      generalize restarted : sent.restartTimeWait handle dispatched.outcome env.nowNs = waits
        at live until'
      have tail : ∀ moved : Engine, Work (fun edit => edit.setsWait = false) moved
          (((moved.answer handle dispatched.outcome.tx env).deliverEvents handle
            dispatched.outcome env).finishClosed handle dispatched.outcome env) := by
        intro moved
        have answered : Deeds (fun edit => edit.setsWait = false) handle moved
            (moved.answer handle dispatched.outcome.tx env) :=
          answer_deeds plain moved handle (fun _ => rfl) _ env
        exact (Deeds.trans answered (.trans (deliverEvents_deeds plain _ handle _ env)
          (finishClosed_deeds _ handle _ env))).work
      rcases (tail _).keepsWait (fun _ beside => beside) live waiting with
        ⟨last, there, still, same⟩
      rw [same]
      cases decided : dispatched.outcome.newState with
      | none =>
          rw [decided] at there
          rw [← restarted] at there
          rcases restartTimeWait_wait sent handle dispatched.outcome env.nowNs there still with
            ⟨later, found, before, deadline⟩
          rcases waited found before with ⟨first_waits, kept⟩
          refine Or.inl ⟨first_waits, ?_⟩
          have ack := decides first_waits
          split at ack
          · rw [ack] at decided
            cases decided
          · rw [deadline, kept, ack, waitUntil, sameCfg, ← waitUntil]
            cases segInWindow first seg with
            | true => rfl
            | false => rfl
      | some target =>
          rw [decided] at there
          rcases transitionConn_wait waits handle target env.nowNs there still with
            ⟨rfl, middle, found, ⟨before, _⟩ | ⟨_, deadline⟩⟩
          · rw [← restarted] at found
            rcases restartTimeWait_wait sent handle dispatched.outcome env.nowNs found before with
              ⟨later, found, earlier, _⟩
            have ack := decides (waited found earlier).1
            split at ack <;> rw [ack] at decided <;> cases decided
          · refine Or.inr ⟨fun first_waits => ?_, deadline.trans (by rw [until'])⟩
            have ack := decides first_waits
            split at ack <;> rw [ack] at decided <;> cases decided

end Engine

/-! ### What is to be waited for -/

/-- What the quiet period of a connection in TIME_WAIT is counted from: when it entered, when
a segment last moved its deadline, and when the peer's FIN arrived once more. -/
structure Watch where
  entered : ℕ
  moved : ℕ
  fins : List ℕ

/-- A host with the latest reading of its clock and the watch on each connection. -/
structure Vigil where
  host : Host
  clock : ℕ
  watch : ConnHandle → Watch

/-- When a step that starts, moves or ends a wait reads the clock. -/
def SystemOp.readsClock : SystemOp → Option ℕ
  | .call (.segment _ _ _ env) => some env.nowNs
  | .call (.reap nowNs) => some nowNs
  | _ => none

/-- A segment arrives at a connection in TIME_WAIT. -/
def Watch.segment (watch : Watch) (conn : TcpConn) (seg : ParsedSegment) (nowNs : ℕ) : Watch :=
  { watch with
    moved := if segInWindow conn seg then nowNs else watch.moved
    fins := if conn.repeatsFin seg then watch.fins ++ [nowNs] else watch.fins }

namespace Vigil

/-- A host without connections, and nothing to be waited for. -/
def start (cfg : EngineConfig) (maxConnections eventSoftCap : ℕ) : Vigil :=
  { host := Host.start cfg maxConnections eventSoftCap
    clock := 0
    watch := fun _ => ⟨0, 0, []⟩ }

/-- The watch on a connection after a step. -/
def watchAfter (vigil : Vigil) (op : SystemOp) (handle : ConnHandle) : Watch :=
  match vigil.host.engine.flowTable.get handle with
  | none => vigil.watch handle
  | some conn =>
      match op with
      | .call (.segment target seg _ env) =>
          if target ≠ handle then vigil.watch handle
          else if conn.state = .timeWait then (vigil.watch handle).segment conn seg env.nowNs
          else if (vigil.host.systemStep op).engine.stateAt handle = some .timeWait then
            ⟨env.nowNs, env.nowNs, []⟩
          else vigil.watch handle
      | _ => vigil.watch handle

/-- One step of a host under watch. -/
def step (vigil : Vigil) (op : SystemOp) : Vigil :=
  { host := vigil.host.systemStep op
    clock := op.readsClock.getD vigil.clock
    watch := vigil.watchAfter op }

/-- The clock does not go back. -/
def timely (vigil : Vigil) (op : SystemOp) : Bool :=
  op.readsClock.all fun nowNs => decide (vigil.clock ≤ nowNs)

/-- A connection in TIME_WAIT waits from the time its watch says. -/
structure Guards (vigil : Vigil) (handle : ConnHandle) (conn : TcpConn) : Prop where
  deadline : conn.timeWaitDeadlineNs =
    some (vigil.host.engine.waitUntil (vigil.watch handle).moved)
  entered : (vigil.watch handle).entered ≤ (vigil.watch handle).moved
  moved : (vigil.watch handle).moved ≤ vigil.clock

/-- Every connection in TIME_WAIT is guarded. -/
def Guarded (vigil : Vigil) : Prop :=
  ∀ handle conn, vigil.host.engine.flowTable.get handle = some conn → conn.state = .timeWait →
    vigil.Guards handle conn

end Vigil

namespace Host

/-- Without a segment for it, a connection that waits has waited before, up to the same time. -/
theorem keepsWait (host : Host) {op : SystemOp} {handle : ConnHandle} {conn : TcpConn}
    (beside : ∀ seg mbufCtx env, op ≠ .call (.segment handle seg mbufCtx env))
    (live : (host.systemStep op).engine.flowTable.get handle = some conn)
    (waiting : conn.state = .timeWait) :
    ∃ earlier, host.engine.flowTable.get handle = some earlier ∧ earlier.state = .timeWait ∧
      conn.timeWaitDeadlineNs = earlier.timeWaitDeadlineNs := by
  cases op with
  | call op =>
      have bars : (∀ seg target mbufCtx env, op ≠ .segment target seg mbufCtx env) →
          ∀ edit, host.permits op edit = true → edit.setsWait = false := by
        intro notSegment edit permitted
        cases edit with
        | wait deadline =>
            cases op with
            | segment target seg mbufCtx env => exact absurd rfl (notSegment seg target mbufCtx env)
            | _ => cases permitted
        | enter target deadline =>
            cases op with
            | segment target seg mbufCtx env => exact absurd rfl (notSegment seg target mbufCtx env)
            | connect =>
                have syn : target = .synSent := of_decide_eq_true permitted
                rw [syn]
                rfl
            | close =>
                rcases of_decide_eq_true permitted with fin | fin <;> rw [fin] <;> rfl
            | reap =>
                have closed : target = .closed := of_decide_eq_true permitted
                rw [closed]
                rfl
            | _ => cases permitted
        | _ => rfl
      have worked : (∀ nowNs, op ≠ .advance nowNs) →
          (∀ seg target mbufCtx env, op ≠ .segment target seg mbufCtx env) →
          ∃ earlier, host.engine.flowTable.get handle = some earlier ∧
            earlier.state = .timeWait ∧ conn.timeWaitDeadlineNs = earlier.timeWaitDeadlineNs :=
        fun still notSegment =>
          (host.step_work still).keepsWait (bars notSegment) live waiting
      cases op with
      | advance nowNs => exact ⟨conn, live, waiting, rfl⟩
      | segment target seg mbufCtx env =>
          have deeds : Engine.Deeds (fun _ => True) target host.engine
              (host.engine.tcpInput target seg mbufCtx env) :=
            Engine.tcpInput_deeds (fun _ _ => trivial) host.engine target (fun _ => trivial)
              (fun _ _ _ _ => trivial) (fun _ => trivial) (fun _ _ => trivial) (fun _ _ => trivial) seg
              mbufCtx env
          have differs : handle ≠ target := fun same => beside seg mbufCtx env (by rw [same])
          exact ⟨conn, (deeds.others differs).symm.trans live, waiting, rfl⟩
      | _ => exact worked nofun nofun
  | complete index =>
      have table := completeFrame_flowTable host.engine index
      exact ⟨conn, (congrArg (·.get handle) table).symm.trans live, waiting, rfl⟩
  | drainEvents max => exact ⟨conn, live, waiting, rfl⟩
  | drop =>
      have gone := (drop_get host.engine handle).symm.trans live
      cases gone

end Host

namespace Vigil

variable {vigil : Vigil}

/-- A step of the clock keeps every wait guarded. -/
theorem Guarded.step (guarded : vigil.Guarded) {op : SystemOp} (timely : vigil.timely op = true) :
    (vigil.step op).Guarded := by
  intro handle conn live waiting
  have sameCfg : ∀ nowNs, (vigil.step op).host.engine.waitUntil nowNs =
      vigil.host.engine.waitUntil nowNs := by
    intro nowNs
    rw [Engine.waitUntil, Engine.waitUntil, Vigil.step, vigil.host.systemStep_cfg]
  have forward : vigil.clock ≤ (vigil.step op).clock := by
    dsimp only [Vigil.step]
    rw [Vigil.timely] at timely
    cases read : op.readsClock with
    | none => exact Nat.le_refl _
    | some nowNs =>
        rw [read] at timely
        exact of_decide_eq_true timely
  by_cases own : ∃ seg mbufCtx env, op = .call (.segment handle seg mbufCtx env)
  · rcases own with ⟨seg, mbufCtx, env, rfl⟩
    rcases vigil.host.engine.tcpInput_wait handle seg mbufCtx env live waiting with
      ⟨earlier, present, changed⟩
    have watched : (vigil.step (.call (.segment handle seg mbufCtx env))).watch handle =
        if earlier.state = .timeWait then (vigil.watch handle).segment earlier seg env.nowNs
        else ⟨env.nowNs, env.nowNs, []⟩ := by
      have after : (vigil.host.systemStep (.call (.segment handle seg mbufCtx env))).engine.stateAt
          handle = some .timeWait := by
        rw [← waiting]
        exact congrArg (Option.map TcpConn.state) live
      dsimp only [Vigil.step, watchAfter]
      rw [present, after]
      simp only [ne_eq, not_true_eq_false, if_false, if_true]
    have reading : (vigil.step (.call (.segment handle seg mbufCtx env))).clock = env.nowNs := rfl
    rw [reading] at forward
    rcases changed with ⟨before, deadline⟩ | ⟨begins, deadline⟩
    · rw [if_pos before] at watched
      have guards := guarded handle earlier present before
      have entered : (vigil.watch handle).entered ≤ env.nowNs :=
        guards.entered.trans (guards.moved.trans forward)
      cases inside : segInWindow earlier seg with
      | true =>
          rw [inside, if_pos rfl] at deadline
          have moved : ((vigil.watch handle).segment earlier seg env.nowNs).moved = env.nowNs := by
            rw [Watch.segment, inside, if_pos rfl]
          constructor
          · rw [sameCfg, watched, moved]
            exact deadline
          · rw [watched, moved]
            exact entered
          · rw [watched, moved, reading]
      | false =>
          rw [inside, if_neg Bool.false_ne_true] at deadline
          have moved : ((vigil.watch handle).segment earlier seg env.nowNs).moved =
              (vigil.watch handle).moved := by
            rw [Watch.segment, inside, if_neg Bool.false_ne_true]
          constructor
          · rw [sameCfg, watched, moved, deadline]
            exact guards.deadline
          · rw [watched, moved]
            exact guards.entered
          · rw [watched, moved, reading]
            exact guards.moved.trans forward
    · rw [if_neg begins] at watched
      constructor
      · rw [sameCfg, watched]
        exact deadline
      · rw [watched]
      · rw [watched, reading]
  · have beside : ∀ seg mbufCtx env, op ≠ .call (.segment handle seg mbufCtx env) :=
      fun seg mbufCtx env same => own ⟨seg, mbufCtx, env, same⟩
    rcases vigil.host.keepsWait beside live waiting with ⟨earlier, present, before, deadline⟩
    have guards := guarded handle earlier present before
    have watched : (vigil.step op).watch handle = vigil.watch handle := by
      dsimp only [Vigil.step, watchAfter]
      rw [present]
      dsimp only
      split
      · rename_i target seg mbufCtx env
        refine if_pos fun same => beside seg mbufCtx env ?_
        rw [same]
      · rfl
    constructor
    · rw [sameCfg, watched, deadline]
      exact guards.deadline
    · rw [watched]
      exact guards.entered
    · rw [watched]
      exact guards.moved.trans forward

/-- The peer's FIN has not come again after the deadline was moved, unless two segment lifetimes
are over since, and the deadline is a reading of the clock. -/
def Settled (vigil : Vigil) (handle : ConnHandle) : Prop :=
  ∀ since ∈ (vigil.watch handle).entered :: (vigil.watch handle).fins,
    since + vigil.host.engine.cfg.quietNs ≤ vigil.clock ∨
      since ≤ (vigil.watch handle).moved ∧ since + vigil.host.engine.cfg.quietNs ≤ U64_MAX

/-- The reaper takes a guarded connection when its deadline has come. -/
theorem Guards.reaped {handle : ConnHandle} {conn : TcpConn} (guards : vigil.Guards handle conn)
    (live : vigil.host.engine.flowTable.get handle = some conn) (waiting : conn.state = .timeWait)
    (noSkip : conn.forceTwSkip = false) (nowNs : ℕ) :
    (vigil.host.step (.reap nowNs)).engine.stateAt handle = none ↔
      vigil.host.engine.waitUntil (vigil.watch handle).moved ≤ nowNs :=
  Engine.reaped_iff vigil.host.engine handle live waiting noSkip guards.deadline nowNs

end Vigil

namespace Host

end Host

/-! ### The FIN once more -/

end DpdkTcp
