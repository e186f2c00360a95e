import DpdkTcp.Timers.Spared

/-!
# The retransmission timer runs

The timer a connection knows for its retransmissions is in the wheel, or it has
fired and waits for its handler. Nothing is cancelled under this name but by the
connection that knows it, and a handler leaves no connection with the name of the
timer that fired.
-/

namespace DpdkTcp

namespace Engine

variable {allowed : Edit → Prop} {target handle : ConnHandle} {before after engine : Engine}
  {pending : List (TimerId × TimerNode)} {id : TimerId}

/-- The timer is in the wheel, or has fired and waits for its handler. -/
def Outstanding (engine : Engine) (pending : List (TimerId × TimerNode)) (handle : ConnHandle)
    (id : TimerId) : Prop :=
  engine.timerWheel.Runs id handle .rto ∨
    ∃ node, (id, node) ∈ pending ∧ node.ownerHandle = handle ∧ node.kind = .rto

/-- Every timer a connection knows for its retransmissions does. -/
def RtoRuns (engine : Engine) (pending : List (TimerId × TimerNode)) : Prop :=
  ∀ handle conn id, engine.flowTable.get handle = some conn → conn.rtoTimerId = some id →
    engine.Outstanding pending handle id

theorem Outstanding.of_wheel (outstanding : before.Outstanding pending handle id)
    (runs : before.timerWheel.Runs id handle .rto → after.timerWheel.Runs id handle .rto) :
    after.Outstanding pending handle id :=
  outstanding.imp runs fun waits => waits

/-- The connection of one handle is written, and the other timers go on. -/
theorem RtoRuns.write {conn conn' : TcpConn} (runs : before.RtoRuns pending)
    (present : before.flowTable.get target = some conn)
    (written : Writes target before after (some conn'))
    (others : ∀ other conn id, other ≠ target → before.flowTable.get other = some conn →
      conn.rtoTimerId = some id → before.timerWheel.Runs id other .rto →
      after.timerWheel.Runs id other .rto)
    (kept : ∀ id, conn'.rtoTimerId = some id → after.timerWheel.Runs id target .rto ∨
      conn.rtoTimerId = some id ∧
        (before.timerWheel.Runs id target .rto → after.timerWheel.Runs id target .rto)) :
    after.RtoRuns pending := by
  intro other live id found name
  rw [written] at found
  split at found
  · rename_i here
    cases found
    rw [here]
    rcases kept id name with new | ⟨old, stays⟩
    · exact .inl new
    · exact (runs target conn id present old).of_wheel stays
  · rename_i elsewhere
    exact (runs other live id found name).of_wheel (others other live id elsewhere found name)

/-- An edit gives no new name to the retransmission timer. -/
theorem rtoTimerId_of_edit {edit : Edit} {conn : TcpConn} (alone : edit.Alone conn)
    (name : (edit.apply conn).rtoTimerId = some id) : conn.rtoTimerId = some id := by
  have kept : (edit.apply conn).timerOf .rto = conn.timerOf .rto ∨
      (edit.apply conn).timerOf .rto = none := by
    by_cases striking : ∃ kind id, edit = .strike kind id
    · rcases striking with ⟨kind, struck, rfl⟩
      exact conn.timerOf_struck kind struck .rto
    · exact (Edit.sameTimers alone fun kind id same => striking ⟨kind, id, same⟩).named .rto
  rcases kept with same | dropped
  · exact same.symm.trans name
  · exact absurd (dropped.symm.trans name) nofun

/-- A deed cancels the retransmission timer of no connection that goes on to know it. -/
theorem Deed.rtoRuns (deed : Deed allowed target before after) (order : before.InOrder pending)
    (few : FewReuses before.record.armed)
    (forgets : ∀ id, allowed (.forget id) →
      ∃ owner turn, ⟨id, owner, turn, .synRetrans⟩ ∈ before.record.armed)
    (runs : before.RtoRuns pending) : after.RtoRuns pending := by
  have owned := order.timed.owned few
  -- no other connection lists the timer
  have apart : ∀ other conn id, before.flowTable.get other = some conn →
      conn.rtoTimerId = some id → before.Apart other id := by
    intro other conn id found name
    have named : conn.timerOf .rto = some id := name
    exact order.apart few found named
  cases deed with
  | aside conns wheel record =>
      intro other conn id found name
      refine (runs other conn id ((conns other).symm.trans found) name).of_wheel fun still => ?_
      rw [wheel]
      exact still
  | @edit conn edit isAllowed present alone written wheel record =>
      refine runs.write present written (fun _ _ _ _ _ _ still => wheel ▸ still) fun id name => ?_
      exact .inr ⟨rtoTimerId_of_edit alone name, fun still => wheel ▸ still⟩
  | @arm conn kind nowNs delayUs isAllowed own gate present written wheel record =>
      have adds := (order.timed.counted.sound.add nowNs
        ⟨nowNs + delayUs * 1000, target, kind, 0, 0#32, false⟩).2
      have stays : ∀ {id : TimerId} {owner : ConnHandle},
          before.timerWheel.Runs id owner .rto → after.timerWheel.Runs id owner .rto := by
        intro id owner still
        rw [wheel]
        exact (still.add adds).1
      refine runs.write present written (fun _ _ _ _ _ _ still => stays still) fun id name => ?_
      by_cases rto : kind = .rto
      · subst rto
        left
        cases name
        rw [wheel]
        refine ⟨_, ⟨(adds.nodes _).trans (if_pos rfl), rfl⟩, rfl, rfl, rfl⟩
      · right
        refine ⟨?_, stays⟩
        cases kind with
        | rto => exact absurd rfl rto
        | apiPublic => exact absurd rfl own
        | tlp | synRetrans => exact name
  | @stop conn kind stopped present named written wheel record =>
      have listed : stopped ∈ conn.allTimerIds := by
        unfold TcpConn.allTimerIds
        cases kind <;> simp_all [TcpConn.timerOf]
      refine runs.write present written ?_ fun id name => ?_
      · intro other found id elsewhere live name still
        rw [wheel]
        refine still.cancel fun same => ?_
        exact apart other found id live name target conn (Ne.symm elsewhere) present (same ▸ listed)
      · have old : conn.rtoTimerId = some id ∧ kind ≠ .rto := by
          cases kind with
          | rto => cases name
          | tlp | synRetrans | apiPublic => exact ⟨name, by decide⟩
        refine .inr ⟨old.1, fun still => ?_⟩
        rw [wheel]
        refine still.cancel fun same => old.2 ?_
        have mine := owned.named target conn .rto id present old.1
        have theirs := owned.named target conn kind stopped present named
        rw [same] at theirs
        exact congrArg Armed.kind (List.inj_on_of_nodup_map owned.distinct theirs mine rfl)
  | @forget conn forgotten isAllowed present written wheel record =>
      have differs : ∀ other conn id, before.flowTable.get other = some conn →
          conn.rtoTimerId = some id → forgotten ≠ id := by
        rintro other live id found name rfl
        rcases forgets forgotten isAllowed with ⟨owner, turn, armedFor⟩
        have mine := owned.named other live .rto forgotten found name
        have same := List.inj_on_of_nodup_map owned.distinct armedFor mine rfl
        have clash : TimerKind.synRetrans = .rto := congrArg Armed.kind same
        cases clash
      refine runs.write present written ?_ fun id name => .inr ⟨name, fun still => ?_⟩
      · intro other found id elsewhere live name still
        rw [wheel]
        exact still.cancel (differs other found id live name)
      · rw [wheel]
        exact still.cancel (differs target conn id present name)
  | @remove conn present written wheel record =>
      intro other live id found name
      rw [written] at found
      split at found
      · cases found
      · rename_i elsewhere
        refine (runs other live id found name).of_wheel fun still => ?_
        rw [wheel, cancelTimers_wheel]
        exact still.cancelAll (apart other live id found name target conn (Ne.symm elsewhere) present)
  | insert tuple iss ourMss opts nowNs isAllowed vacant written wheel record =>
      intro other live id found name
      rw [written] at found
      split at found
      · cases found
        cases name
      · refine (runs other live id found name).of_wheel fun still => ?_
        rw [wheel]
        exact still

/-- The timers are in order, and the retransmission timers run. -/
structure Running (engine : Engine) (pending : List (TimerId × TimerNode)) : Prop where
  order : engine.InOrder pending
  runs : FewReuses engine.record.armed → engine.RtoRuns pending

/-- So they do behind any number of deeds. -/
theorem Work.running (work : Work allowed before after)
    (fired : ∀ kind id, allowed (.strike kind id) → ∃ node, (id, node) ∈ pending)
    (forgets : ∀ id, allowed (.forget id) → FewReuses before.record.armed →
      ∃ owner turn, ⟨id, owner, turn, .synRetrans⟩ ∈ before.record.armed)
    (running : before.Running pending) : after.Running pending := by
  refine ⟨running.order.work work fired, fun few => ?_⟩
  induction work with
  | refl => exact running.runs few
  | @tail middle after worked deed ih =>
      rcases deed with ⟨target, deed⟩
      have order := running.order.work worked fired
      have step : TimerStep target middle after := deed.timerStep fun kind id striking few => by
        rcases fired kind id striking with ⟨node, member⟩
        exact ((order.timed.owned few).fired id node member).2
      rcases step.grows with ⟨more, grown⟩
      rcases Work.grows worked with ⟨earlier, begun⟩
      have fewer : FewReuses middle.record.armed := .of_append (grown ▸ few)
      refine deed.rtoRuns order fewer (fun id forgetting => ?_) (ih fewer)
      rcases forgets id forgetting (.of_append (begun ▸ fewer)) with ⟨owner, turn, armedFor⟩
      exact ⟨owner, turn, begun ▸ List.mem_append_left earlier armedFor⟩

/-! ### The handler -/

/-- The connection of a handle does not know the timer for its retransmissions. -/
def Unnamed (engine : Engine) (handle : ConnHandle) (id : TimerId) : Prop :=
  ∀ conn, engine.flowTable.get handle = some conn → conn.rtoTimerId ≠ some id

/-- A timer that was armed before is given no new name. -/
theorem Deed.unnamed (deed : Deed allowed target before after)
    (counted : Counted before.timerWheel before.record.armed)
    (few : FewReuses after.record.armed) (known : id ∈ before.record.armed.map Armed.id)
    (unnamed : before.Unnamed handle id) : after.Unnamed handle id := by
  have kept : ∀ {conn conn' : TcpConn}, before.flowTable.get target = some conn →
      Writes target before after (some conn') →
      (conn'.rtoTimerId = some id → conn.rtoTimerId = some id) → after.Unnamed handle id := by
    intro conn conn' present written old live found
    rw [written] at found
    split at found
    · rename_i here
      cases found
      exact fun name => unnamed conn (here ▸ present) (old name)
    · exact unnamed live found
  cases deed with
  | aside conns wheel record => exact fun conn found => unnamed conn ((conns handle).symm.trans found)
  | edit edit isAllowed present alone written wheel record =>
      exact kept present written (rtoTimerId_of_edit alone)
  | @arm conn kind nowNs delayUs isAllowed own gate present written wheel record =>
      refine kept present written fun name => ?_
      cases kind with
      | rto =>
          have armed : after.record.armed = before.record.armed ++
              [⟨id, target, before.record.incarnation target, .rto⟩] := by
            cases name
            exact congrArg Prod.fst record
          have named : (⟨id, target, before.record.incarnation target, .rto⟩ : Armed).id =
              (before.addTimer target .rto nowNs delayUs).2 := by
            cases name
            rfl
          exact absurd known (counted.new_id nowNs
            ⟨nowNs + delayUs * 1000, target, .rto, 0, 0#32, false⟩ named (armed ▸ few))
      | apiPublic => exact absurd rfl own
      | tlp | synRetrans => exact name
  | stop kind stopped present named written wheel record =>
      refine kept present written fun name => ?_
      cases kind with
      | rto => cases name
      | tlp | synRetrans | apiPublic => exact name
  | forget forgotten isAllowed present written wheel record =>
      exact kept present written fun name => name
  | remove present written wheel record =>
      intro live found
      rw [written] at found
      split at found
      · cases found
      · exact unnamed live found
  | insert tuple iss ourMss opts nowNs isAllowed vacant written wheel record =>
      intro live found
      rw [written] at found
      split at found
      · cases found
        exact nofun
      · exact unnamed live found

theorem Deeds.unnamed (deeds : Deeds (fun edit => edit.plain = true) target before after)
    (order : before.InOrder pending) (few : FewReuses after.record.armed)
    (known : id ∈ before.record.armed.map Armed.id) (unnamed : before.Unnamed handle id) :
    after.Unnamed handle id := by
  have struck : ∀ kind id, (Edit.strike kind id).plain = true → ∃ node, (id, node) ∈ pending :=
    fun _ _ => nofun
  induction deeds with
  | refl => exact unnamed
  | @tail middle after worked deed ih =>
      have work : Work _ before middle := Deeds.work worked
      have middleOrder := order.work work struck
      have step : TimerStep target middle after := deed.timerStep fun _ _ => nofun
      rcases step.grows with ⟨more, grown⟩
      rcases Work.grows work with ⟨earlier, begun⟩
      refine deed.unnamed middleOrder.timed.counted few ?_ (ih (.of_append (grown ▸ few)))
      rw [begun, List.map_append]
      exact List.mem_append_left _ known

/-- The handler leaves its connection without the name of the timer that fired. -/
theorem onRtoFire_unnames (order : engine.InOrder pending) {node : TimerNode}
    (waiting : (id, node) ∈ pending) (env : RtoEnv)
    (few : FewReuses (engine.onRtoFire handle id env).record.armed) :
    (engine.onRtoFire handle id env).Unnamed handle id := by
  cases present : engine.flowTable.get handle with
  | none =>
      intro conn found
      dsimp only [onRtoFire] at found
      rw [present] at found
      exact absurd (present.symm.trans found) nofun
  | some conn =>
      by_cases own : conn.rtoTimerId = some id
      · have struck : Deeds (fun edit => edit = .strike .rto id) handle engine
            (engine.modifyConn handle fun conn =>
              { conn.withoutTimer id with rtoTimerId := none }) := by
          refine .modify _ _ fun after found => ?_
          cases present.symm.trans found
          exact .inr ⟨.strike .rto id, rfl, own, rfl⟩
        have cleared := order.work struck.work (by
          intro kind other same
          cases same
          exact ⟨node, waiting⟩)
        have deeds : Deeds (fun edit => edit.plain = true) handle _ _ :=
          onRtoFire_cleared (fun _ plain => plain) engine handle present own env
        rcases Work.grows deeds.work with ⟨more, grown⟩
        have fewer : FewReuses engine.record.armed := .of_append (grown ▸ few)
        refine Deeds.unnamed deeds cleared few ((order.timed.owned fewer).fired id node waiting).1 ?_
        intro live found
        rw [Deeds.get_modifyConn present, if_pos rfl] at found
        cases found
        exact nofun
      · intro live found
        dsimp only [onRtoFire] at found
        rw [present] at found
        dsimp only at found
        rw [if_pos own, present] at found
        cases found
        exact own

end Engine

/-! ### Runs -/

namespace Host

/-- The retransmission timers of a host run. -/
def Running (host : Host) : Prop :=
  host.engine.Running host.pending

variable {host : Host}

theorem running_start (cfg : EngineConfig) (maxConnections eventSoftCap : ℕ) :
    (Host.start cfg maxConnections eventSoftCap).Running := by
  refine ⟨⟨timed_start cfg maxConnections eventSoftCap, ?_⟩, fun _ => ?_⟩
  · intro handle conn id live
    rw [Host.get_start] at live
    cases live
  · intro handle conn id live
    rw [Host.get_start] at live
    cases live

/-- The sweep of the wheel hands timers to their handlers. -/
theorem Running.advance (running : host.Running) (nowNs : ℕ) :
    (host.step (.advance nowNs)).Running := by
  have sheds := host.engine.timerWheel.advance_sheds nowNs
  refine ⟨⟨running.order.timed.sheds sheds, running.order.listed⟩, fun few => ?_⟩
  intro handle conn id found name
  rcases running.runs few handle conn id found name with still | ⟨node, waiting, owner, kind⟩
  · rcases still.sheds sheds with stays | ⟨node, fired, owner, kind⟩
    · exact .inl stays
    · exact .inr ⟨node, List.mem_append_right _ fired, owner, kind⟩
  · exact .inr ⟨node, List.mem_append_left _ waiting, owner, kind⟩

/-- All other calls, before the handler that ran is struck off. -/
theorem Running.worked (running : host.Running) {op : EngineOp}
    (still : ∀ nowNs, op ≠ .advance nowNs) : (host.step op).engine.Running host.pending := by
  refine (host.step_work still).running (fun kind id striking => host.fired_of_strikes striking)
    (fun id forgetting few => ?_) running
  cases op with
  | segment handle seg mbufCtx env =>
      rcases Option.bind_eq_some_iff.mp (of_decide_eq_true forgetting) with ⟨conn, present, name⟩
      have named : conn.timerOf .synRetrans = some id := name
      exact ⟨_, _, (running.order.timed.owned few).named handle conn .synRetrans id present named⟩
  | connect | send | close | advance | fireNext | flush | reap | twSkip => cases forgetting

theorem Running.fireNext (running : host.Running) (env : FireEnv) :
    (host.step (.fireNext env)).Running := by
  have fired : (host.step (.fireNext env)).engine.Running host.pending := running.worked nofun
  have order := running.order
  dsimp only [Running, step] at fired order ⊢
  generalize host.pending = pending at fired order running ⊢
  cases pending with
  | nil => exact running
  | cons first rest =>
      rcases first with ⟨id, node⟩
      refine ⟨⟨fired.order.timed.tail, fired.order.listed⟩, fun few => ?_⟩
      intro handle conn known found name
      rcases fired.runs few handle conn known found name with
        still | ⟨waiting, member, owner, kind⟩
      · exact .inl still
      · rcases List.mem_cons.mp member with same | later
        · -- the timer that fired: its handler left no connection with the name
          cases same
          dsimp only at found few
          unfold Engine.fireTimer at found few
          rw [kind, owner] at found few
          exact absurd name (Engine.onRtoFire_unnames order List.mem_cons_self env.rto few conn found)
        · exact .inr ⟨waiting, later, owner, kind⟩

theorem Running.step (running : host.Running) (op : EngineOp) : (host.step op).Running := by
  cases op with
  | advance nowNs => exact running.advance nowNs
  | fireNext env => exact running.fireNext env
  | connect | send | close | segment | flush | reap | twSkip => exact running.worked nofun

end Host

end DpdkTcp
