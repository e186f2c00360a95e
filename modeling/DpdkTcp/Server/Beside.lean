import DpdkTcp.Server.Waiting

/-!
# What a call leaves alone

Seen from the connections that a call does not concern, and from their timers,
nothing happens. The lemmas say for each call of the engine which connections
these are, and that no call but the opening SYN begins a handshake from outside.
-/

namespace DpdkTcp

namespace Engine

/-- What a step leaves alone: these connections, and their timers. -/
structure LeavesAlone (pending : List (TimerId × TimerNode)) (alone : ConnHandle → Prop)
    (before after : Engine) : Prop where
  order : before.InOrder pending → after.InOrder pending
  same : ∀ handle, alone handle → after.flowTable.get handle = before.flowTable.get handle
  spares : ∀ handle id kind, alone handle → before.Spared handle id kind →
    after.Spared handle id kind
  grows : ∃ more, after.record.armed = before.record.armed ++ more

namespace LeavesAlone

variable {pending : List (TimerId × TimerNode)} {alone fewer : ConnHandle → Prop}
  {first second third before after engine : Engine} {handle : ConnHandle}

theorem refl (engine : Engine) : LeavesAlone pending alone engine engine :=
  ⟨fun order => order, fun _ _ => rfl, fun _ _ _ _ spared => spared, ⟨[], (List.append_nil _).symm⟩⟩

theorem trans (left : LeavesAlone pending alone first second)
    (right : LeavesAlone pending alone second third) : LeavesAlone pending alone first third := by
  refine ⟨fun order => right.order (left.order order),
    fun handle beside => (right.same handle beside).trans (left.same handle beside),
    fun handle id kind beside spared =>
      right.spares handle id kind beside (left.spares handle id kind beside spared), ?_⟩
  rcases left.grows with ⟨more, grown⟩
  rcases right.grows with ⟨later, again⟩
  exact ⟨more ++ later, by rw [again, grown, List.append_assoc]⟩

theorem mono (leaves : LeavesAlone pending alone before after)
    (implies : ∀ handle, fewer handle → alone handle) : LeavesAlone pending fewer before after :=
  ⟨leaves.order, fun handle beside => leaves.same handle (implies handle beside),
    fun handle id kind beside => leaves.spares handle id kind (implies handle beside),
    leaves.grows⟩

/-- What is done for one connection leaves the others alone, where the timer it
forgets is that of its own SYN. -/
theorem of_tends {name : Option TimerId} (tends : Tends pending name handle before after)
    (own : ∀ id, name = some id →
      ∃ conn, before.flowTable.get handle = some conn ∧ conn.synRetransTimerId = some id) :
    LeavesAlone pending (· ≠ handle) before after := by
  refine ⟨tends.order, tends.others, ?_, tends.grows⟩
  intro other id kind differs spared
  refine tends.spares other id kind differs (fun same => ?_) spared
  rcases own id same with ⟨conn, present, timer⟩
  refine spared.apart handle conn (Ne.symm differs) present ?_
  unfold TcpConn.allTimerIds
  rw [timer]
  simp

theorem of_deeds (deeds : Deeds (tending pending none) handle before after) :
    LeavesAlone pending (· ≠ handle) before after :=
  of_tends (.of_deeds deeds) nofun

theorem of_aside (conns : ∀ other, after.flowTable.get other = before.flowTable.get other)
    (wheel : after.timerWheel = before.timerWheel)
    (record : after.record.armings = before.record.armings) :
    LeavesAlone pending alone before after := by
  have step : TimerStep 0 before after := .same conns wheel record
  refine ⟨fun order => order.step step, fun other _ => conns other, ?_, ⟨[], (congrArg Prod.fst record).trans (List.append_nil _).symm⟩⟩
  intro other id kind _ spared
  exact ⟨by rw [wheel]; exact spared.sound, by rw [wheel]; exact spared.runs,
    fun target conn elsewhere live =>
      spared.apart target conn elsewhere ((conns target).symm.trans live)⟩

end LeavesAlone

/-- `reap_time_wait` leaves alone what does not wait in TIME_WAIT. -/
theorem reapTimeWait_leavesAlone (pending : List (TimerId × TimerNode)) (engine : Engine)
    (nowNs : ℕ) :
    LeavesAlone pending (fun handle => engine.stateAt handle ≠ some .timeWait) engine
      (engine.reapTimeWait nowNs) := by
  have folded : ∀ (candidates : List ConnHandle) (current : Engine),
      LeavesAlone pending (· ∉ candidates) current
        (candidates.foldl (fun engine handle => engine.reap handle nowNs) current) := by
    intro candidates
    induction candidates with
    | nil => exact fun current => .refl current
    | cons candidate rest ih =>
        intro current
        have reaped : LeavesAlone pending (· ≠ candidate) current (current.reap candidate nowNs) :=
          .of_deeds (reap_deeds current candidate (fun _ => trivial) nowNs)
        refine .trans (reaped.mono fun handle outside => ?_) ((ih _).mono fun handle outside => ?_)
        · exact fun same => outside (same ▸ List.mem_cons_self)
        · exact fun later => outside (List.mem_cons_of_mem _ later)
  dsimp only [reapTimeWait]
  refine (folded _ engine).mono fun handle running member => running ?_
  rw [List.mem_reverse, List.mem_filter] at member
  rcases (Option.any_eq_true _ _).mp member.2 with ⟨conn, present, due⟩
  rw [stateAt, present]
  unfold expired at due
  simp only [Bool.and_eq_true, decide_eq_true_eq] at due
  simp [due.1]

end Engine

namespace Host

/-- The connections an operation does not concern. -/
def alone (host : Host) : EngineOp → ConnHandle → Prop
  | .connect .., other => host.engine.stateAt other ≠ none
  | .send handle .., other | .close handle .., other | .segment handle .., other
  | .twSkip handle _, other => other ≠ handle
  | .reap _, other => host.engine.stateAt other ≠ some .timeWait
  | .fireNext _, other => ∀ fired, host.pending.head? = some fired → other ≠ fired.2.ownerHandle
  | .advance _, _ | .flush _, _ => True

theorem step_leavesAlone (host : Host) (op : EngineOp) (still : ∀ nowNs, op ≠ .advance nowNs) :
    Engine.LeavesAlone host.pending (host.alone op) host.engine (host.step op).engine := by
  have plain : ∀ edit : Edit, edit.plain = true → Engine.tending host.pending none edit :=
    Engine.tending_of_plain
  cases op with
  | connect tuple iss ourMss opts synSent nowNs =>
      have connected := @Engine.connectWithOpts_deeds (Engine.tending host.pending none)
        host.engine (fun _ => trivial) (fun _ => trivial) tuple iss ourMss opts trivial synSent
        nowNs
      rcases connected with ⟨handle, vacant, deeds, _⟩
      refine (Engine.LeavesAlone.of_deeds deeds).mono fun other live same => live ?_
      rw [same, Engine.stateAt, vacant]
      rfl
  | send handle bytes envs tlpNs =>
      exact .of_deeds (Engine.sendBytes_deeds plain host.engine handle (fun _ => trivial) bytes
        envs tlpNs)
  | close handle finSent nowNs =>
      exact .of_deeds (Engine.closeConn_deeds plain host.engine handle (fun _ _ _ => trivial)
        finSent nowNs)
  | segment handle seg mbufCtx env =>
      have tended := @Engine.tcpInput_deeds (Engine.tending host.pending
        ((host.engine.flowTable.get handle).bind TcpConn.synRetransTimerId))
        Engine.tending_of_plain host.engine handle (fun _ => trivial) (fun _ _ _ _ => trivial)
        (fun _ => trivial) (fun _ _ => trivial) (fun _ named => named) seg mbufCtx env
      exact .of_tends (.of_deeds tended) fun id named => Option.bind_eq_some_iff.mp named
  | advance nowNs => exact absurd rfl (still nowNs)
  | fireNext env =>
      dsimp only [step]
      split
      · exact .refl _
      · rename_i id node rest next
        have fired : Engine.LeavesAlone host.pending (· ≠ node.ownerHandle) host.engine
            (host.engine.fireTimer id node env) :=
          .of_deeds (Engine.fireTimer_deeds plain host.engine node
            ⟨node, next ▸ List.mem_cons_self⟩ (fun _ _ _ _ => trivial) env)
        refine fired.mono fun other beside => beside (id, node) ?_
        rw [next]
        rfl
  | flush sent =>
      have change := Engine.drainTxPendingData_change host.engine sent
      exact .of_aside (fun other => by rw [step, change.flowTable]) change.timerWheel
        (by rw [step, change.only]; rfl)
  | reap nowNs => exact Engine.reapTimeWait_leavesAlone host.pending host.engine nowNs
  | twSkip handle nowNs =>
      exact .of_deeds (Engine.requestTwSkip_deeds host.engine handle trivial nowNs)

end Host

/-! ### No call begins a handshake from outside -/

theorem TcpState.Later.eq_synReceived {first second : TcpState} (later : first.Later second)
    (opening : second = .synReceived) : first = .synReceived := by
  rcases later with rfl | rfl | ⟨_, running, _⟩
  · exact opening
  · cases opening
  · rw [opening] at running
    cases running

/-- No state a dispatch decides on is SYN_RECEIVED. -/
theorem dispatch_not_synReceived {conn : TcpConn} {seg : ParsedSegment} {clock : Readings}
    {sendBuf : ℕ} {mbufCtx : Option MbufInsertCtx}
    (decided : (dispatch conn seg clock sendBuf mbufCtx).outcome.newState.getD conn.state =
      .synReceived) : conn.state = .synReceived := by
  by_cases opening : conn.state = .synSent
  · cases target : (dispatch conn seg clock sendBuf mbufCtx).outcome.newState with
    | none =>
        rw [target] at decided
        exact decided
    | some next =>
        rw [target] at decided
        have same : next = .synReceived := decided
        have ended := ((dispatch_fits conn seg clock sendBuf mbufCtx).opening opening next target
          (by rw [same]; exact nofun)).1
        rw [same] at ended
        cases ended
  · exact (dispatch_later opening seg clock sendBuf mbufCtx).eq_synReceived decided

/-- A connection in SYN_RECEIVED was there before the call. -/
theorem Host.step_synReceived (host : Host) (op : EngineOp) {handle : ConnHandle} {conn' : TcpConn}
    (live : (host.step op).engine.flowTable.get handle = some conn')
    (opening : conn'.state = .synReceived) :
    ∃ conn, host.engine.flowTable.get handle = some conn ∧ conn.state = .synReceived := by
  have step := host.step_conns op live
  generalize host.engine.flowTable.get handle = found at step
  cases step with
  | kept kept => exact ⟨_, rfl, kept.state.eq_synReceived opening⟩
  | opening started =>
      have begun : TcpState.synSent = .synReceived := started.state.eq_synReceived opening
      cases begun
  | sent running news sent =>
      have state := sent.state.eq_synReceived opening
      rw [running] at state
      cases state
  | @fin _ _ conn _ running sent state =>
      rw [opening, TcpConn.finSent] at state
      dsimp only at state
      split at state <;> cases state
  | segment dispatched processed kept =>
      subst processed
      exact ⟨_, rfl, dispatch_not_synReceived (kept.state.eq_synReceived opening)⟩

end DpdkTcp
