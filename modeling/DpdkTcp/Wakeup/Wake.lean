import DpdkTcp.Wakeup.Notice
import DpdkTcp.Window.Advert

/-!
# Refused sends are noticed

In every run whose sends leave something to drain, and in which what is refused is
drained before the connection begins to close, a refused send is answered by one
`Writable` event as soon as there is room again.
-/

namespace DpdkTcp

namespace Host

/-- The latch of every connection is right. -/
def Latched (host : Host) (sendBuf : ℕ) : Prop :=
  ∀ handle conn, host.engine.flowTable.get handle = some conn → conn.Latched sendBuf

/-- A step after which what was refused is still to be drained: a send of an established
connection meets `Drainable`, and a segment for a closing one that has refused bytes
acknowledges too little to make room. -/
def draining (host : Host) : SystemOp → Prop
  | .call (.send handle bytes envs _) => ∀ conn, host.engine.flowTable.get handle = some conn →
      conn.state = .established → host.engine.Drainable conn bytes envs
  | .call (.segment handle seg _ _) => ∀ conn, host.engine.flowTable.get handle = some conn →
      conn.sendRefusedPending = true → conn.state.isClosing = true →
      conn.Draining host.engine.cfg.sendBufferBytes (conn.inFlightAfter seg.ack)
  | _ => True

/-- Whether the connection of a handle has refused bytes. -/
def latch (host : Host) (handle : ConnHandle) : Bool :=
  (host.engine.flowTable.get handle).any TcpConn.sendRefusedPending

/-- The step raises the latch of a handle that was down. -/
def raises (host : Host) (op : SystemOp) (handle : ConnHandle) : Bool :=
  !host.latch handle && (host.systemStep op).latch handle

theorem latched_start (cfg : EngineConfig) (maxConnections eventSoftCap : ℕ) :
    (Host.start cfg maxConnections eventSoftCap).Latched cfg.sendBufferBytes := by
  intro handle conn live
  rw [Host.get_start] at live
  cases live

variable {host : Host}

theorem Latched.call (before : host.Latched host.engine.cfg.sendBufferBytes) {op : EngineOp}
    (draining : host.draining (.call op)) :
    (host.step op).Latched host.engine.cfg.sendBufferBytes := by
  intro handle after live
  have step := host.step_conns op live
  generalize found : host.engine.flowTable.get handle = present at step
  cases step with
  | kept kept => exact kept.latched (before handle _ found)
  | opening opening => exact opening.latched (latched_connecting host.engine _ _ _ _ _ _)
  | sent running news sent =>
      rename_i bytes envs tlpNs conn
      exact (Engine.sendBytes_ends found running bytes envs tlpNs).latched (before handle conn found)
        running (draining conn found running) live
  | fin running sent state => exact KeptAs.latched sent ((before handle _ found).finSent running)
  | segment dispatched processed kept =>
      rename_i seg mbufCtx env conn
      subst processed
      refine kept.latched ((before handle conn found).segment
        (dispatch_ends conn seg env.clock host.engine.cfg.sendBufferBytes mbufCtx)
        (dispatch_sameNumbers conn seg env.clock host.engine.cfg.sendBufferBytes mbufCtx)
        (dispatch_notices conn seg env.clock host.engine.cfg.sendBufferBytes mbufCtx) rfl
        (dispatch_send conn seg env.clock host.engine.cfg.sendBufferBytes mbufCtx)
        (draining conn found))

theorem Latched.step (before : host.Latched host.engine.cfg.sendBufferBytes) {op : SystemOp}
    (draining : host.draining op) :
    (host.systemStep op).Latched host.engine.cfg.sendBufferBytes := by
  cases op with
  | call op => exact before.call draining
  | complete index =>
      intro handle conn live
      rw [systemStep, completeFrame_flowTable] at live
      exact before handle conn live
  | drainEvents max => exact before
  | drop =>
      intro handle conn live
      rw [systemStep, drop_get] at live
      cases live

/-- A connection that is in the table after a step that did not open it was in it before. -/
theorem present_before {op : SystemOp} {handle : ConnHandle} {after : TcpConn}
    (same : host.opens op handle = false)
    (live : (host.systemStep op).engine.flowTable.get handle = some after) :
    ∃ conn, host.engine.flowTable.get handle = some conn := by
  have lively : op.live = true := by
    cases op with
    | drop =>
        rw [systemStep, drop_get] at live
        cases live
    | _ => rfl
  cases found : host.engine.flowTable.get handle with
  | some conn => exact ⟨conn, rfl⟩
  | none =>
      have gone : host.engine.stateAt handle = none := by
        rw [Engine.stateAt, found]
        rfl
      have here : (host.systemStep op).engine.stateAt handle = some after.state := by
        rw [Engine.stateAt, live]
        rfl
      cases host.systemStep_story lively handle with
      | chapter news lifecycle still told =>
          have chapter := told (by rw [gone]; rintro ⟨⟩)
          rw [gone, here] at chapter
          cases chapter
      | opening nowNs vacant more lifecycle state =>
          have fewer := of_decide_eq_false same
          rw [more] at fewer
          exact absurd (Nat.lt_succ_self _) fewer

/-- A send tells nobody of room and lowers no latch. -/
theorem send_wakeups {handle target : ConnHandle} {bytes : List UInt8} {envs : ℕ → SendEnv}
    {tlpNs : ℕ} {conn after : TcpConn}
    (present : host.engine.flowTable.get handle = some conn)
    (live : (host.step (.send target bytes envs tlpNs)).engine.flowTable.get handle = some after) :
    (host.step (.send target bytes envs tlpNs)).engine.wakeups handle = host.engine.wakeups handle ∧
      (conn.sendRefusedPending = true → after.sendRefusedPending = true) := by
  refine ⟨(Engine.sendBytes_quiet host.engine target bytes envs tlpNs).hushed handle, ?_⟩
  intro raised
  rcases (Engine.sendBytes_conns host.engine target bytes envs tlpNs).2.2 handle after live with
    ⟨start, liveStart, kept | ⟨rfl, running, _⟩⟩
  · rw [present] at liveStart
    cases liveStart
    rw [kept.sendRefusedPending]
    exact raised
  · have ends := Engine.sendBytes_ends present (by rw [present] at liveStart; cases liveStart; exact running)
      bytes envs tlpNs
    generalize (host.engine.sendBytes handle bytes envs tlpNs).2 = result at ends
    cases ends with
    | failed kept =>
        rw [(kept after live).sendRefusedPending]
        exact raised
    | sent accepted _ kept _ =>
        rcases kept after live with ⟨entries, kept⟩
        rw [kept.sendRefusedPending, TcpConn.sentUpTo]
        dsimp only [TcpConn.refusedBy]
        rw [raised, ite_self]

/-- A segment gives a notice of room exactly where it lowers the latch. -/
theorem segment_wakeups {handle target : ConnHandle} {seg : ParsedSegment}
    {mbufCtx : Option MbufInsertCtx} {env : InputEnv} {conn after : TcpConn}
    (present : host.engine.flowTable.get handle = some conn)
    (live : (host.step (.segment target seg mbufCtx env)).engine.flowTable.get handle =
      some after) :
    (host.step (.segment target seg mbufCtx env)).engine.wakeups handle +
        after.sendRefusedPending.toNat =
      host.engine.wakeups handle + conn.sendRefusedPending.toNat := by
  dsimp only [step]
  rcases Engine.tcpInput_written host.engine target seg mbufCtx env live with
    ⟨start, liveStart, ⟨apart, kept⟩ | ⟨rfl, dispatched, processed, kept⟩⟩
  · rw [present] at liveStart
    cases liveStart
    rw [kept.sendRefusedPending]
    cases found : host.engine.flowTable.get target with
    | none => rw [Engine.tcpInput_absent found]
    | some other =>
        rw [Engine.tcpInput_wakeups host.engine target found seg mbufCtx env handle,
          if_neg fun both => apart both.1, Nat.add_zero]
  · rw [present] at liveStart
    cases liveStart
    have notices := dispatch_notices conn seg env.clock host.engine.cfg.sendBufferBytes mbufCtx
    rw [Engine.tcpInput_wakeups host.engine handle present seg mbufCtx env handle, ← processed,
      kept.sendRefusedPending]
    rw [← processed] at notices
    show _ + dispatched.conn.sendRefusedPending.toNat = _
    cases fired : dispatched.outcome.writableHysteresisFired with
    | true =>
        rw [if_pos ⟨rfl, rfl⟩, (notices.lowered fired).1, (notices.lowered fired).2]
        rfl
    | false =>
        rw [if_neg fun both => Bool.false_ne_true both.2, notices.kept fired, Nat.add_zero]

/-- A send that accepts fewer bytes than it is given raises the latch. -/
theorem refused_send_raises {handle : ConnHandle} {bytes : List UInt8} {envs : ℕ → SendEnv}
    {tlpNs accepted : ℕ} {after : TcpConn}
    (draining : host.draining (.call (.send handle bytes envs tlpNs)))
    (sent : (host.engine.sendBytes handle bytes envs tlpNs).2 = .ok accepted)
    (short : accepted < bytes.length)
    (live : (host.systemStep (.call (.send handle bytes envs tlpNs))).engine.flowTable.get handle =
      some after) :
    after.sendRefusedPending = true ∧
      (host.systemStep (.call (.send handle bytes envs tlpNs))).engine.wakeups handle =
        host.engine.wakeups handle := by
  rcases Ledger.sendBytes_established sent with ⟨conn, present, running⟩
  have ends := Engine.sendBytes_ends present running bytes envs tlpNs
  rw [sent] at ends
  exact ⟨ends.raised (draining conn present running) short live,
    (Engine.sendBytes_quiet host.engine handle bytes envs tlpNs).hushed handle⟩

/-- Until the latch is raised again, the notices given and the one that is owed stay the same. -/
theorem systemStep_wakeups {op : SystemOp} {handle : ConnHandle} {conn after : TcpConn}
    (raises : host.raises op handle = false)
    (present : host.engine.flowTable.get handle = some conn)
    (live : (host.systemStep op).engine.flowTable.get handle = some after) :
    (host.systemStep op).engine.wakeups handle + after.sendRefusedPending.toNat =
      host.engine.wakeups handle + conn.sendRefusedPending.toNat := by
  have quiet : Engine.Hushed host.engine (host.systemStep op).engine →
      after.sendRefusedPending = conn.sendRefusedPending →
      (host.systemStep op).engine.wakeups handle + after.sendRefusedPending.toNat =
        host.engine.wakeups handle + conn.sendRefusedPending.toNat := by
    intro hushed same
    rw [hushed handle, same]
  cases op with
  | call op =>
      have kept : ConnStep host.engine op handle (some conn) after := present ▸ host.step_conns op live
      cases op with
      | send target bytes envs tlpNs =>
          rcases send_wakeups present live with ⟨silent, raised⟩
          have down : conn.sendRefusedPending = false → after.sendRefusedPending = false := by
            intro down
            rw [Host.raises, Host.latch, Host.latch, present, live] at raises
            simpa [down] using raises
          dsimp only [systemStep]
          rw [silent]
          cases latch : conn.sendRefusedPending with
          | true => rw [raised latch]
          | false => rw [down latch]
      | segment target seg mbufCtx env => exact segment_wakeups present live
      | connect tuple iss ourMss opts synSent nowNs =>
          cases kept with
          | kept kept =>
              exact quiet (Engine.connectWithOpts_hushed host.engine _ _ _ _ _ _)
                kept.sendRefusedPending
      | close target finSent nowNs =>
          refine quiet (Engine.closeConn_hushed host.engine target finSent nowNs) ?_
          cases kept with
          | kept kept => exact kept.sendRefusedPending
          | fin _ sent _ => exact sent.sendRefusedPending
      | advance nowNs =>
          cases kept with
          | kept kept => exact quiet (.of_same rfl) kept.sendRefusedPending
      | fireNext env =>
          cases kept with
          | kept kept =>
              refine quiet ?_ kept.sendRefusedPending
              dsimp only [systemStep, step]
              split
              · exact .refl _
              · exact Engine.fireTimer_hushed host.engine _ _ env
      | flush sent =>
          cases kept with
          | kept kept =>
              exact quiet (Engine.drainTxPendingData_quiet host.engine sent).hushed
                kept.sendRefusedPending
      | reap nowNs =>
          cases kept with
          | kept kept =>
              exact quiet (Engine.reapTimeWait_hushed host.engine nowNs) kept.sendRefusedPending
      | twSkip target nowNs =>
          cases kept with
          | kept kept =>
              exact quiet (Engine.requestTwSkip_quiet host.engine target nowNs).hushed
                kept.sendRefusedPending
  | complete index =>
      have same := live
      rw [systemStep, completeFrame_flowTable, present] at same
      cases same
      refine quiet ?_ rfl
      dsimp only [systemStep, Engine.completeFrame]
      split
      · exact .refl _
      · exact .trans (.of_same rfl) (Engine.releaseMbufs_quiet _ _).hushed
  | drainEvents max =>
      have same : host.engine.flowTable.get handle = some after := live
      rw [present] at same
      cases same
      exact quiet (.of_same rfl) rfl
  | drop =>
      rw [systemStep, drop_get] at live
      cases live

end Host

/-- In every run whose steps leave something to drain, the latch is up only while something
is in flight and there is no room. After a send that accepted fewer bytes than it was
given, and until one is refused again, one notice of room is given or owed; it is given
where at most half the send buffer is in flight and the peer has room. -/
theorem refused_send_is_noticed {cfg : EngineConfig} {maxConnections eventSoftCap : ℕ} {host : Host}
    (run : Run.Reaches Host.systemStep Host.draining
      (Host.start cfg maxConnections eventSoftCap) host) :
    (∀ handle conn, host.engine.flowTable.get handle = some conn →
      conn.sendRefusedPending = true → conn.sndUna ≠ conn.sndNxt ∧
        ¬ (conn.inFlight ≤ cfg.sendBufferBytes / 2 ∧ conn.inFlight < conn.sndWnd)) ∧
    ∀ handle bytes envs tlpNs accepted,
      host.draining (.call (.send handle bytes envs tlpNs)) →
      (host.engine.sendBytes handle bytes envs tlpNs).2 = .ok accepted →
      accepted < bytes.length →
      ∀ later, Run.Reaches Host.systemStep
          (fun host op => host.draining op ∧ host.opens op handle = false ∧
            host.raises op handle = false)
          (host.systemStep (.call (.send handle bytes envs tlpNs))) later →
        ∀ conn, later.engine.flowTable.get handle = some conn →
          later.engine.wakeups handle + conn.sendRefusedPending.toNat =
              host.engine.wakeups handle + 1 ∧
            (conn.inFlight ≤ cfg.sendBufferBytes / 2 → conn.inFlight < conn.sndWnd →
              conn.sendRefusedPending = false ∧
                later.engine.wakeups handle = host.engine.wakeups handle + 1) := by
  have kept : ∀ (between : Host) op, between.engine.cfg = cfg ∧ between.Latched cfg.sendBufferBytes →
      between.draining op → (between.systemStep op).engine.cfg = cfg ∧
        (between.systemStep op).Latched cfg.sendBufferBytes := by
    rintro between op ⟨rfl, latched⟩ draining
    exact ⟨between.systemStep_cfg op, latched.step draining⟩
  have settled : ∀ (between : Host), between.Latched cfg.sendBufferBytes →
      ∀ handle conn, between.engine.flowTable.get handle = some conn →
        conn.sendRefusedPending = true → conn.sndUna ≠ conn.sndNxt ∧
          ¬ (conn.inFlight ≤ cfg.sendBufferBytes / 2 ∧ conn.inFlight < conn.sndWnd) := by
    intro between latched handle conn live raised
    rcases (latched handle conn live).draining raised with ⟨some, full⟩
    constructor
    · intro idle
      rw [TcpConn.inFlight, idle, BitVec.sub_self] at some
      exact Nat.lt_irrefl 0 some
    · omega
  have reached : host.engine.cfg = cfg ∧ host.Latched cfg.sendBufferBytes := by
    apply run.invariant
    · exact ⟨rfl, Host.latched_start cfg maxConnections eventSoftCap⟩
    · exact fun between op before draining => kept between op before draining
  refine ⟨settled host reached.2, ?_⟩
  intro handle bytes envs tlpNs accepted draining sent short later after conn live
  have owed : (later.engine.cfg = cfg ∧ later.Latched cfg.sendBufferBytes) ∧
      ∀ conn, later.engine.flowTable.get handle = some conn →
        later.engine.wakeups handle + conn.sendRefusedPending.toNat =
          host.engine.wakeups handle + 1 := by
    apply after.invariant
    · refine ⟨kept host _ reached draining, fun conn live => ?_⟩
      rcases Host.refused_send_raises draining sent short live with ⟨raised, silent⟩
      rw [raised, silent]
      rfl
    · rintro between op ⟨before, owed⟩ ⟨drains, same, raises⟩
      refine ⟨kept between op before drains, fun conn live => ?_⟩
      rcases Host.present_before same live with ⟨start, present⟩
      rw [Host.systemStep_wakeups raises present live]
      exact owed start present
  have notices := owed.2 conn live
  refine ⟨notices, fun drained room => ?_⟩
  have down : conn.sendRefusedPending = false := by
    by_contra raised
    exact (settled later owed.1.2 handle conn live (Bool.eq_true_of_not_eq_false raised)).2
      ⟨drained, room⟩
  rw [down] at notices
  exact ⟨down, notices⟩

/-- A client connects, and the peer answers with the given window. -/
def openedWith (window : UInt16) : List SystemOp :=
  [opening, .call (.segment 1 (synAck 100#32 200#32 window) none (inputAt 1000))]

theorem Host.openedWith_draining (window : UInt16)
    (fresh : ((Host.start quickCfg 1 64).systemStep opening).latch 1 = false) :
    Run.Reaches Host.systemStep Host.draining (Host.start quickCfg 1 64)
      ((openedWith window).foldl Host.systemStep (Host.start quickCfg 1 64)) := by
  have begun : Run.Reaches Host.systemStep Host.draining (Host.start quickCfg 1 64)
      ((Host.start quickCfg 1 64).systemStep opening) :=
    .tail opening .refl trivial
  refine Run.Reaches.tail
    (.call (.segment 1 (synAck 100#32 200#32 window) none (inputAt 1000))) begun ?_
  intro conn present raised
  rw [Host.latch, present, Option.any_some, raised] at fresh
  cases fresh

/-- The peer has room for four of six bytes, and acknowledges them. -/
def fourAcked : Host :=
  (((openedWith 4).foldl Host.systemStep (Host.start quickCfg 1 64)).systemStep
    (.call (sendAt 2000 [1, 2, 3, 4, 5, 6] 7))).systemStep
      (.call (receiveAt 3000 201#32 105#32 TCP_ACK))

theorem refused_send_is_noticed_smallWindow :
    ∃ conn, fourAcked.engine.flowTable.get 1 = some conn ∧
      fourAcked.engine.wakeups 1 + conn.sendRefusedPending.toNat =
          ((openedWith 4).foldl Host.systemStep (Host.start quickCfg 1 64)).engine.wakeups 1 + 1 ∧
        (conn.inFlight ≤ quickCfg.sendBufferBytes / 2 → conn.inFlight < conn.sndWnd →
          conn.sendRefusedPending = false ∧
            fourAcked.engine.wakeups 1 = ((openedWith 4).foldl Host.systemStep
              (Host.start quickCfg 1 64)).engine.wakeups 1 + 1) := by
  have admits : (((openedWith 4).foldl Host.systemStep
      (Host.start quickCfg 1 64)).engine.flowTable.get 1).all (fun conn =>
        decide ((((openedWith 4).foldl Host.systemStep (Host.start quickCfg 1 64)).engine.admitted conn
          [1, 2, 3, 4, 5, 6]).length = 4)) = true := by decide +kernel
  have running : (((openedWith 4).foldl Host.systemStep (Host.start quickCfg 1 64)).systemStep
      (.call (sendAt 2000 [1, 2, 3, 4, 5, 6] 7))).engine.stateAt 1 = some .established := by
    decide +kernel
  have ended : fourAcked.engine.stateAt 1 = some .established := by decide +kernel
  rcases Engine.stateAt_eq_some _ 1 ended with ⟨conn, live, _⟩
  refine ⟨conn, live, (refused_send_is_noticed (Host.openedWith_draining 4 (by decide +kernel))).2 1
    [1, 2, 3, 4, 5, 6] _ _ 4 ?_ (by decide +kernel) (by decide) fourAcked
    (.tail (SystemOp.call (receiveAt 3000 201#32 105#32 TCP_ACK)) .refl ⟨?_, ?_, ?_⟩) conn live⟩
  rotate_left
  · intro open' present _ closing
    rw [Engine.stateAt, present] at running
    rw [Option.some.inj running] at closing
    cases closing
  · decide +kernel
  · decide +kernel
  intro conn present running
  rw [present, Option.all_some, decide_eq_true_iff] at admits
  rw [Engine.Drainable, admits]
  refine ⟨Or.inl (by decide), Or.inr (by omega), Or.inr (Or.inr ⟨?_, nofun⟩)⟩
  rw [TcpConn.builds, decide_eq_true_iff]
  unfold IPV4_HDR_MIN TCP_HDR_MIN
  split <;> omega

/-- A send into a closed window, with nothing in flight, raises the latch for good. -/
theorem refused_send_not_noticed :
    ¬ ∀ host, Run.Reaches Host.systemStep (fun _ _ => True) (Host.start quickCfg 1 64) host →
      ∀ handle conn, host.engine.flowTable.get handle = some conn →
        conn.sendRefusedPending = true → conn.sndUna ≠ conn.sndNxt := by
  intro noticed
  have run : Run.Reaches Host.systemStep (fun _ _ => True) (Host.start quickCfg 1 64)
      (((openedWith 0).foldl Host.systemStep (Host.start quickCfg 1 64)).systemStep
        (.call (sendAt 2000 [1] 7))) :=
    .tail _ ((Host.openedWith_draining 0 (by decide +kernel)).mono fun _ _ _ => trivial) trivial
  have stuck : ((((openedWith 0).foldl Host.systemStep (Host.start quickCfg 1 64)).systemStep
      (.call (sendAt 2000 [1] 7))).engine.flowTable.get 1).any (fun conn =>
        conn.sendRefusedPending && conn.sndUna == conn.sndNxt) = true := by decide +kernel
  rcases (Option.any_eq_true _ _).mp stuck with ⟨conn, live, both⟩
  rcases Bool.and_eq_true_iff.mp both with ⟨raised, idle⟩
  exact noticed _ run 1 conn live raised (eq_of_beq idle)

end DpdkTcp
