import DpdkTcp.Server.Beside

/-!
# The timer of a SYN-ACK

A SYN-ACK that goes out arms a timer. Each time it fires it is armed again, up
to three times; then the handshake is given up and its connection removed.
-/

namespace DpdkTcp

namespace Engine

variable {engine : Engine} {handle : ConnHandle} {conn : TcpConn} {id : TimerId}

/-- A fired timer that its owner does not know by name changes nothing. -/
theorem fireTimer_unnamed (pending : List (TimerId × TimerNode)) (alone : ConnHandle → Prop)
    {node : TimerNode}
    (unnamed : ∀ conn, engine.flowTable.get node.ownerHandle = some conn →
      conn.timerOf node.kind ≠ some id) (env : FireEnv) :
    LeavesAlone pending alone engine (engine.fireTimer id node env) ∧
      (engine.fireTimer id node env).flowTable = engine.flowTable := by
  have idle : ∀ {kind : TimerKind}, node.kind = kind → ∀ conn,
      engine.flowTable.get node.ownerHandle = some conn → conn.timerOf kind ≠ some id := by
    rintro kind rfl
    exact unnamed
  unfold Engine.fireTimer
  cases kind : node.kind with
  | rto =>
      dsimp only [Engine.onRtoFire]
      split
      · exact ⟨.refl engine, rfl⟩
      · rename_i conn present
        have other : conn.rtoTimerId ≠ some id := idle kind conn present
        rw [if_pos other]
        exact ⟨.refl engine, rfl⟩
  | tlp =>
      dsimp only [Engine.onTlpFire]
      split
      · exact ⟨.refl engine, rfl⟩
      · rename_i conn present
        have other : conn.tlpTimerId ≠ some id := idle kind conn present
        rw [if_pos other]
        exact ⟨.refl engine, rfl⟩
  | synRetrans =>
      dsimp only [Engine.onSynRetransFire]
      split
      · exact ⟨.refl engine, rfl⟩
      · rename_i conn present
        have other : conn.synRetransTimerId ≠ some id := idle kind conn present
        rw [if_pos other]
        exact ⟨.refl engine, rfl⟩
  | apiPublic => exact ⟨.of_aside (fun _ => rfl) rfl rfl, rfl⟩

/-- The timer of a SYN, once it is armed. -/
theorem armSynRetrans_runs (present : engine.flowTable.get handle = some conn)
    (sound : engine.timerWheel.Sound) (nowNs delayUs : ℕ) :
    ∃ id, (engine.armSynRetrans handle nowNs delayUs).flowTable.get handle =
        some { conn with synRetransTimerId := some id, timerIds := conn.timerIds ++ [id] } ∧
      (engine.armSynRetrans handle nowNs delayUs).timerWheel.Runs id handle .synRetrans := by
  have adds := (sound.add nowNs
    ⟨nowNs + delayUs * 1000, handle, .synRetrans, 0, 0#32, false⟩).2
  have written := Deeds.get_modifyConn
    (by exact present : (engine.addTimer handle .synRetrans nowNs
      delayUs).1.flowTable.get handle = some conn) fun conn =>
        { conn with
          synRetransTimerId := some (engine.addTimer handle .synRetrans nowNs delayUs).2
          timerIds := conn.timerIds ++ [(engine.addTimer handle .synRetrans nowNs delayUs).2] }
  exact ⟨_, (written handle).trans (if_pos rfl), _,
    ⟨(adds.nodes _).trans (if_pos rfl), rfl⟩, rfl, rfl, rfl⟩

theorem armSynRetrans_opening (present : engine.flowTable.get handle = some conn)
    (state : conn.state = .synReceived) (passive : conn.isPassiveOpen = true)
    (timerIds : conn.timerIds = []) (unarmed : conn.Unarmed) (budget : conn.synRetransCount ≤ 3)
    (sound : engine.timerWheel.Sound) (nowNs delayUs : ℕ) :
    ∃ conn' id, (engine.armSynRetrans handle nowNs delayUs).flowTable.get handle = some conn' ∧
      conn'.Opening id ∧ conn'.fourTuple = conn.fourTuple ∧
      (engine.armSynRetrans handle nowNs delayUs).timerWheel.Runs id handle .synRetrans := by
  rcases armSynRetrans_runs present sound nowNs delayUs with ⟨id, armed, runs⟩
  refine ⟨_, id, armed, ⟨state, passive, rfl, ?_, ⟨unarmed.unsent, unarmed.rto, unarmed.tlp⟩,
    budget⟩, rfl, runs⟩
  dsimp only
  rw [timerIds]
  rfl

/-- The timer of a handshake fires: the handshake is given up, or its timer runs again. -/
theorem onSynRetransFire_opening (present : engine.flowTable.get handle = some conn)
    (opening : conn.Opening id) (sound : engine.timerWheel.Sound) (nowNs : ℕ) :
    if engine.abandonsPassive handle id then
      (engine.onSynRetransFire handle id nowNs).flowTable.get handle = none
    else
      ∃ conn' id', (engine.onSynRetransFire handle id nowNs).flowTable.get handle = some conn' ∧
        conn'.Opening id' ∧ conn'.fourTuple = conn.fourTuple ∧
        (engine.onSynRetransFire handle id nowNs).timerWheel.Runs id' handle .synRetrans := by
  have abandons : engine.abandonsPassive handle id =
      decide (3 < min (conn.synRetransCount + 1) 255) := by
    rw [abandonsPassive, present, Option.any_some, opening.timer, opening.state, opening.passive]
    simp
  have counted : (((engine.modifyConn handle fun conn =>
        { conn.withoutTimer id with synRetransTimerId := none }).modifyConn handle fun after =>
          { after with synRetransCount := min (conn.synRetransCount + 1) 255 })).flowTable.get
      handle = some { conn.withoutTimer id with
        synRetransTimerId := none
        synRetransCount := min (conn.synRetransCount + 1) 255 } := by
    have here : engine.At handle conn engine.timerWheel := ⟨present, rfl⟩
    exact ((here.modify _).modify _).present
  have named : ¬conn.synRetransTimerId ≠ some id := not_not.mpr opening.timer
  have running : ¬(conn.state ≠ .synSent ∧ conn.state ≠ .synReceived) :=
    fun both => both.2 opening.state
  rw [abandons]
  dsimp only [Engine.onSynRetransFire]
  rw [present]
  dsimp only
  rw [if_neg named, if_neg running]
  have wheel : ((engine.modifyConn handle fun conn =>
      { conn.withoutTimer id with synRetransTimerId := none }).modifyConn handle fun after =>
        { after with synRetransCount := min (conn.synRetransCount + 1) 255 }).timerWheel =
      engine.timerWheel := rfl
  generalize ((engine.modifyConn handle fun conn =>
    { conn.withoutTimer id with synRetransTimerId := none }).modifyConn handle fun after =>
      { after with synRetransCount := min (conn.synRetransCount + 1) 255 }) = counting at counted wheel ⊢
  by_cases exhausted : 3 < min (conn.synRetransCount + 1) 255
  · rw [if_pos (decide_eq_true exhausted), if_pos exhausted]
    have gone := stateAt_forceCloseEtimedout counting handle handle nowNs
    rw [if_pos rfl, stateAt, Option.map_eq_none_iff] at gone
    exact gone
  · rw [if_neg (by simpa using exhausted), if_neg exhausted]
    have left : (conn.withoutTimer id).timerIds = [] := by
      rw [TcpConn.withoutTimer, opening.timerIds]
      simp
    refine armSynRetrans_opening counted opening.state opening.passive left
      ⟨opening.unarmed.unsent, opening.unarmed.rto, opening.unarmed.tlp⟩ (not_lt.mp exhausted)
      (wheel ▸ sound) nowNs _

/-- A SYN opens a connection, and its SYN-ACK goes out. -/
theorem opened_opening (pending : List (TimerId × TimerNode)) {grown : FlowTable}
    {tuple : FourTuple} {iss issPeer : Seq} {opts : TcpOpts} {nowNs : ℕ}
    (inserted : engine.flowTable.insert (engine.passive tuple iss issPeer opts nowNs) =
      (grown, some handle)) (sound : engine.timerWheel.Sound) :
    engine.flowTable.get handle = none ∧
      LeavesAlone pending (· ≠ handle) engine
        ((({ engine with flowTable := grown }.recordAccepted handle).emitSynAckForPassive handle
          true nowNs).modifyConn handle fun conn =>
            { conn with sndNxt := seqAdd conn.sndNxt 1 }) ∧
      ∃ conn id,
        ((({ engine with flowTable := grown }.recordAccepted handle).emitSynAckForPassive handle
          true nowNs).modifyConn handle fun conn =>
            { conn with sndNxt := seqAdd conn.sndNxt 1 }).flowTable.get handle = some conn ∧
        conn.Opening id ∧ conn.fourTuple = tuple ∧
        ((({ engine with flowTable := grown }.recordAccepted handle).emitSynAckForPassive handle
          true nowNs).modifyConn handle fun conn =>
            { conn with sndNxt := seqAdd conn.sndNxt 1 }).timerWheel.Runs id handle
              .synRetrans := by
  have table := FlowTable.get_insert inserted
  have vacant := (table handle).1
  have present : ({ engine with flowTable := grown }.recordAccepted handle).flowTable.get handle =
      some (engine.passive tuple iss issPeer opts nowNs) := (table handle).2.trans (if_pos rfl)
  have added : Tends pending none handle engine
      ({ engine with flowTable := grown }.recordAccepted handle) := by
    refine .of_insert vacant (fun other => (table other).2) rfl (fun kind => ?_) rfl rfl
    cases kind <;> rfl
  have emitted : ({ engine with flowTable := grown }.recordAccepted handle).emitSynAckForPassive
      handle true nowNs =
        ({ engine with flowTable := grown }.recordAccepted handle).armSynRetrans handle nowNs
          (max engine.cfg.tcpInitialRtoUs engine.cfg.tcpMinRtoUs) := by
    unfold emitSynAckForPassive
    rw [present]
    rfl
  have started : ({ engine with flowTable := grown }.recordAccepted handle).timerWheel =
      engine.timerWheel := rfl
  rw [emitted]
  generalize { engine with flowTable := grown }.recordAccepted handle = opened at *
  have armed := armSynRetrans_opening present rfl rfl rfl ⟨rfl, rfl, rfl⟩ (Nat.zero_le 3)
    (started ▸ sound) nowNs (max engine.cfg.tcpInitialRtoUs engine.cfg.tcpMinRtoUs)
  have arming : Tends pending none handle opened (opened.armSynRetrans handle nowNs
      (max engine.cfg.tcpInitialRtoUs engine.cfg.tcpMinRtoUs)) :=
    .of_deeds (armSynRetrans_deeds opened handle (fun _ => trivial) present nowNs _)
  generalize opened.armSynRetrans handle nowNs
    (max engine.cfg.tcpInitialRtoUs engine.cfg.tcpMinRtoUs) = answered at *
  rcases armed with ⟨conn, id, stays, opening, same, runs⟩
  have counted := Deeds.get_modifyConn stays fun conn : TcpConn =>
    { conn with sndNxt := seqAdd conn.sndNxt 1 }
  have numbered : Tends pending none handle answered (answered.modifyConn handle fun conn =>
      { conn with sndNxt := seqAdd conn.sndNxt 1 }) :=
    .of_write stays counted ⟨rfl, fun _ => .inl rfl⟩ rfl rfl
  refine ⟨vacant, .of_tends ((added.trans arming).trans numbered) nofun, _, id,
    (counted handle).trans (if_pos rfl), ?_, same, runs⟩
  exact ⟨opening.state, opening.passive, opening.timer, opening.timerIds,
    ⟨opening.unarmed.unsent, opening.unarmed.rto, opening.unarmed.tlp⟩, opening.budget⟩

end Engine

end DpdkTcp
