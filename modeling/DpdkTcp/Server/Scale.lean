import DpdkTcp.Codec.RoundTrip
import DpdkTcp.Handshake.Options
import DpdkTcp.Lifecycle.Carry
import DpdkTcp.Route.Tuples
import DpdkTcp.Server.Listen
import DpdkTcp.Window.Advert

/-!
# Window scales between two stacks

A connection that was opened by `connect` scales its window by the shift it put
in its SYN. One that was opened by a SYN does not scale its window at all, while
its SYN-ACK carries the same option as a SYN. Whoever receives its segments
scales what was never divided.
-/

namespace DpdkTcp

/-! ### The fields of the scale -/

/-- The tuple of a connection, its role and its two shifts are untouched. -/
structure SameScale (before after : TcpConn) : Prop where
  fourTuple : after.fourTuple = before.fourTuple
  isPassiveOpen : after.isPassiveOpen = before.isPassiveOpen
  wsShiftOut : after.wsShiftOut = before.wsShiftOut
  wsShiftIn : after.wsShiftIn = before.wsShiftIn

theorem SameScale.refl (conn : TcpConn) : SameScale conn conn :=
  ⟨rfl, rfl, rfl, rfl⟩

theorem SameScale.trans {first second third : TcpConn} (left : SameScale first second)
    (right : SameScale second third) : SameScale first third :=
  ⟨right.fourTuple.trans left.fourTuple, right.isPassiveOpen.trans left.isPassiveOpen,
    right.wsShiftOut.trans left.wsShiftOut, right.wsShiftIn.trans left.wsShiftIn⟩

/-- The edit is no dispatch. -/
def Edit.besideDispatch : Edit → Bool
  | .dispatch .. => false
  | _ => true

theorem Edit.besideDispatch_of_plain (edit : Edit) (plain : edit.plain = true) :
    edit.besideDispatch = true := by
  cases edit with
  | dispatch => cases plain
  | _ => rfl

/-- Only a dispatch changes the scale; a connection that `connect` opens is active. -/
theorem carries_scale :
    Engine.Carries (fun edit => edit.besideDispatch = true) SameScale
      (fun conn => conn.isPassiveOpen = false) where
  refl := SameScale.refl
  trans := SameScale.trans
  edit := by
    intro edit conn isAllowed alone
    cases edit with
    | dispatch => cases isAllowed
    | strike kind id => cases kind <;> exact ⟨rfl, rfl, rfl, rfl⟩
    | arm kind id => cases kind <;> exact ⟨rfl, rfl, rfl, rfl⟩
    | _ => exact ⟨rfl, rfl, rfl, rfl⟩
  arm := by
    intro conn kind id _
    cases kind <;> exact ⟨rfl, rfl, rfl, rfl⟩
  stop := by
    intro conn kind id _
    cases kind <;> exact ⟨rfl, rfl, rfl, rfl⟩
  forget := fun conn id => ⟨rfl, rfl, rfl, rfl⟩
  insert := fun engine tuple iss ourMss opts nowNs _ => rfl
  new := fun active same => same.isPassiveOpen.trans active

/-- Beside the handshake, a dispatch leaves the scale alone. -/
theorem dispatch_sameScale {conn : TcpConn} (opened : conn.state ≠ .synSent) (seg : ParsedSegment)
    (clock : Readings) (sendBuf : ℕ) (mbufCtx : Option MbufInsertCtx) :
    SameScale conn (dispatch conn seg clock sendBuf mbufCtx).conn := by
  have tended := dispatch_tended opened seg clock sendBuf mbufCtx
  generalize dispatch conn seg clock sendBuf mbufCtx = dispatched at tended
  rw [tended.only]
  exact ⟨rfl, rfl, rfl, rfl⟩

/-- Neither a dispatch nor an insertion. -/
def Edit.keepsScale (edit : Edit) : Prop :=
  edit.besideDispatch = true ∧ ∀ opts, edit ≠ .insert opts

theorem Edit.keepsScale_of_plain (edit : Edit) (plain : edit.plain = true) : edit.keepsScale :=
  ⟨edit.besideDispatch_of_plain plain, edit.ne_insert_of_plain plain⟩

/-- Every connection was there before; that of the handle has the same scale, and the others are
untouched. -/
def Engine.KeepsScale (handle : ConnHandle) (before after : Engine) : Prop :=
  ∀ other conn', after.flowTable.get other = some conn' →
    ∃ conn, before.flowTable.get other = some conn ∧ SameScale conn conn' ∧
      (other ≠ handle → conn' = conn)

namespace Engine.KeepsScale

variable {first second third before after engine : Engine} {handle : ConnHandle}

theorem refl (handle : ConnHandle) (engine : Engine) : KeepsScale handle engine engine :=
  fun _ conn live => ⟨conn, live, .refl conn, fun _ => rfl⟩

theorem trans (left : KeepsScale handle first second) (right : KeepsScale handle second third) :
    KeepsScale handle first third := by
  intro other conn live
  rcases right other conn live with ⟨middle, between, later, apart⟩
  rcases left other middle between with ⟨earlier, present, same, alone⟩
  exact ⟨earlier, present, same.trans later, fun differs => (apart differs).trans (alone differs)⟩

theorem of_deeds (deeds : Deeds Edit.keepsScale handle before after) :
    KeepsScale handle before after := by
  intro other conn live
  have carried := deeds.work.carried (carries_scale.mono fun _ => And.left) live
  have same := deeds.work.incarnation (fun opts barred => barred.2 opts rfl) other
  rcases carried with ⟨_, earlier, found, scale⟩ | ⟨newer, _⟩
  · refine ⟨earlier, found, scale, fun differs => ?_⟩
    rw [deeds.others differs, found] at live
    exact (Option.some.inj live).symm
  · omega

end Engine.KeepsScale

/-! ### Steps of the engine -/

/-- How the scale of a connection comes out of a call. -/
inductive ScaleStep (host : Host) (op : EngineOp) (handle : ConnHandle) :
    Option TcpConn → TcpConn → Prop where
  | kept {conn after : TcpConn} (same : SameScale conn after)
      (running : after.state.synchronized = true → conn.state.synchronized = true) :
      ScaleStep host op handle (some conn) after
  | opening {after : TcpConn} (active : after.isPassiveOpen = false)
      (shift : after.wsShiftOut = computeWsShiftFor host.engine.cfg.recvBufferBytes)
      (state : after.state.synchronized = false) : ScaleStep host op handle none after
  | adopted {conn after : TcpConn} (seg : ParsedSegment) (mbufCtx : Option MbufInsertCtx)
      (env : InputEnv) (called : op = .segment handle seg mbufCtx env)
      (opts : TcpOpts) (decoded : parseOptions seg.options = .ok opts)
      (takes : conn.takesSynAck seg = true)
      (same : SameScale (adoptSynAck conn seg opts env.clock.synTsRecent) after) :
      ScaleStep host op handle (some conn) after

/-- The connection under a segment of its own. -/
theorem Engine.tcpInput_scale {engine : Engine} {handle : ConnHandle} {conn conn' : TcpConn}
    (present : engine.flowTable.get handle = some conn) (seg : ParsedSegment)
    (mbufCtx : Option MbufInsertCtx) (env : InputEnv)
    (live : (engine.tcpInput handle seg mbufCtx env).flowTable.get handle = some conn') :
    SameScale (dispatch conn seg env.clock engine.cfg.sendBufferBytes mbufCtx).conn conn' := by
  rcases tcpInput_dispatched Edit.keepsScale_of_plain engine handle (fun _ => ⟨rfl, nofun⟩)
    (fun _ => ⟨rfl, nofun⟩) (fun _ _ => ⟨rfl, nofun⟩) present (fun _ _ => ⟨rfl, nofun⟩) seg mbufCtx
    env with ⟨middle, written, _, _, follows⟩
  rcases KeepsScale.of_deeds follows handle conn' live with ⟨dispatched, found, same, _⟩
  rw [(written handle).trans (if_pos rfl)] at found
  cases found
  exact same

/-- A call that neither opens a connection nor gives it a segment. -/
theorem Host.step_scale_quiet {host : Host} {op : EngineOp} {handle : ConnHandle}
    {conn' : TcpConn} (beside : ∀ seg mbufCtx env, op ≠ .segment handle seg mbufCtx env)
    (opens : ∀ tuple iss ourMss opts synSent nowNs,
      op ≠ .connect tuple iss ourMss opts synSent nowNs)
    (live : (host.step op).engine.flowTable.get handle = some conn') :
    ∃ conn, host.engine.flowTable.get handle = some conn ∧ SameScale conn conn' := by
  have carried := Host.step_carried carries_scale ?_ beside live
  · have same := @Host.step_incarnation host op opens handle
    rcases carried with ⟨_, earlier, found, scale⟩ | ⟨newer, _⟩
    · exact ⟨earlier, found, scale⟩
    · omega
  · intro quiet edit permitted
    cases edit with
    | dispatch =>
        cases op with
        | segment target seg mbufCtx env => exact absurd rfl (quiet target seg mbufCtx env)
        | _ => cases permitted
    | _ => rfl

/-- The scale of a connection beside a call that gives it no segment. -/
theorem Host.step_scale_beside {host : Host} {op : EngineOp} {handle : ConnHandle}
    {conn conn' : TcpConn} (beside : ∀ seg mbufCtx env, op ≠ .segment handle seg mbufCtx env)
    (present : host.engine.flowTable.get handle = some conn)
    (live : (host.step op).engine.flowTable.get handle = some conn') : SameScale conn conn' := by
  by_cases connects : ∃ tuple iss ourMss opts synSent nowNs,
      op = .connect tuple iss ourMss opts synSent nowNs
  · rcases connects with ⟨tuple, iss, ourMss, opts, synSent, nowNs, rfl⟩
    rcases @Engine.connectWithOpts_deeds (fun _ => True) host.engine (fun _ => trivial)
      (fun _ => trivial) tuple iss ourMss opts trivial synSent nowNs with
      ⟨fresh, vacant, deeds, _⟩
    have elsewhere : handle ≠ fresh := by
      rintro rfl
      rw [vacant] at present
      cases present
    have same := (deeds.others elsewhere).symm.trans live
    rw [present] at same
    cases same
    exact .refl conn
  · rcases Host.step_scale_quiet beside (fun tuple iss ourMss opts synSent nowNs called =>
      connects ⟨tuple, iss, ourMss, opts, synSent, nowNs, called⟩) live with ⟨earlier, found, scale⟩
    rw [present] at found
    cases found
    exact scale

/-- A connection that was not there before is active, and scales by the shift of its SYN. -/
theorem Host.step_scale_opening {host : Host} {op : EngineOp} {handle : ConnHandle}
    {conn' : TcpConn} (absent : host.engine.flowTable.get handle = none)
    (live : (host.step op).engine.flowTable.get handle = some conn') :
    conn'.isPassiveOpen = false ∧
      conn'.wsShiftOut = computeWsShiftFor host.engine.cfg.recvBufferBytes := by
  by_cases connects : ∃ tuple iss ourMss opts synSent nowNs,
      op = .connect tuple iss ourMss opts synSent nowNs
  · rcases connects with ⟨tuple, iss, ourMss, opts, synSent, nowNs, rfl⟩
    rcases Engine.connectWithOpts_receivers host.engine tuple iss ourMss opts synSent nowNs live
      with ⟨_, present, _⟩ | ⟨_, same⟩
    · rw [absent] at present
      cases present
    · refine ⟨?_, same.wsShiftOut⟩
      rcases @Engine.connectWithOpts_deeds (fun edit => edit.besideDispatch = true) host.engine
        (fun _ => rfl) (fun _ => rfl) tuple iss ourMss opts rfl synSent nowNs with
        ⟨fresh, _, deeds, _⟩
      rcases deeds.work.carried carries_scale live with ⟨_, earlier, found, _⟩ | ⟨_, active⟩
      · rw [absent] at found
        cases found
      · exact active
  · exfalso
    by_cases own : ∃ seg mbufCtx env, op = .segment handle seg mbufCtx env
    · rcases own with ⟨seg, mbufCtx, env, rfl⟩
      dsimp only [Host.step] at live
      rw [Engine.tcpInput_absent absent, absent] at live
      cases live
    · rcases Host.step_scale_quiet (fun seg mbufCtx env called => own ⟨seg, mbufCtx, env, called⟩)
        (fun tuple iss ourMss opts synSent nowNs called =>
          connects ⟨tuple, iss, ourMss, opts, synSent, nowNs, called⟩) live with ⟨_, found, _⟩
      rw [absent] at found
      cases found

theorem handleSynSent_connects {conn : TcpConn} {seg : ParsedSegment} {clock : Readings}
    (decided : (handleSynSent conn seg clock).outcome.newState = some .established) :
    (handleSynSent conn seg clock).outcome.connected = true := by
  unfold handleSynSent at decided ⊢
  grind [Outcome.none]

/-- How the scale comes out of a dispatch: only a SYN-ACK changes it. -/
theorem dispatch_scale (conn : TcpConn) (seg : ParsedSegment) (clock : Readings) (sendBuf : ℕ)
    (mbufCtx : Option MbufInsertCtx) {dispatched : Dispatched}
    (processed : dispatched = dispatch conn seg clock sendBuf mbufCtx) :
    SameScale conn dispatched.conn ∧
        ((dispatched.outcome.newState.getD conn.state).synchronized = true →
          conn.state.synchronized = true) ∨
      ∃ opts, parseOptions seg.options = .ok opts ∧ conn.takesSynAck seg = true ∧
        SameScale (adoptSynAck conn seg opts clock.synTsRecent) dispatched.conn := by
  by_cases waiting : conn.state = .synSent
  · have shake : dispatch conn seg clock sendBuf mbufCtx = handleSynSent conn seg clock := by
      rw [dispatch, waiting]
    rw [shake] at processed
    rw [processed]
    rcases (handleSynSent_opens conn seg clock).2.2 with
      ⟨unchanged, _, decided⟩ | ⟨opts, decoded, takes, decided, _⟩
    · rw [unchanged]
      refine .inl ⟨.refl conn, fun later => ?_⟩
      rcases decided with decided | decided <;> rw [decided] at later
      · exact later
      · cases later
    · rcases handleSynSent_connected (handleSynSent_connects decided) with
        ⟨carried, parsed, adopted⟩
      rw [decoded] at parsed
      cases parsed
      rw [adopted, maybeSeed_only]
      exact .inr ⟨opts, decoded, takes, rfl, rfl, rfl, rfl⟩
  · have same := dispatch_sameScale waiting seg clock sendBuf mbufCtx
    rw [← processed] at same
    exact .inl ⟨same, dispatch_synchronized waiting processed⟩

theorem Host.step_scale (host : Host) (op : EngineOp) {handle : ConnHandle} {conn' : TcpConn}
    (live : (host.step op).engine.flowTable.get handle = some conn') :
    ScaleStep host op handle (host.engine.flowTable.get handle) conn' := by
  have received := host.step_receiver op live
  cases present : host.engine.flowTable.get handle with
  | none =>
      rw [present] at received
      cases received with
      | opening _ _ state =>
          rcases Host.step_scale_opening present live with ⟨active, shift⟩
          exact .opening active shift state
  | some conn =>
      rw [present] at received
      cases received with
      | kept _ state beside =>
          refine .kept (Host.step_scale_beside ?_ present live) state.synchronized
          exact fun seg mbufCtx env called => beside seg mbufCtx env (congrArg SystemOp.call called)
      | segment seg mbufCtx env called dispatched processed _ state =>
          cases called
          have scale := Engine.tcpInput_scale present seg mbufCtx env live
          rw [← processed] at scale
          rcases dispatch_scale conn seg env.clock _ mbufCtx processed with
            ⟨same, running⟩ | ⟨opts, decoded, takes, same⟩
          · exact .kept (same.trans scale) fun later => running (state.synchronized later)
          · exact .adopted seg mbufCtx env rfl opts decoded takes (same.trans scale)

/-! ### Handshakes from outside -/

/-- The configuration and the index are kept, and with them the scales. -/
structure Engine.Upholds (handle : ConnHandle) (before after : Engine) : Prop where
  cfg : after.cfg = before.cfg
  indexed : before.flowTable.Indexed → after.flowTable.Indexed
  scale : KeepsScale handle before after

namespace Engine.Upholds

variable {first second third before after : Engine} {handle : ConnHandle}

theorem refl (handle : ConnHandle) (engine : Engine) : Upholds handle engine engine :=
  ⟨rfl, fun indexed => indexed, .refl handle engine⟩

theorem trans (left : Upholds handle first second) (right : Upholds handle second third) :
    Upholds handle first third :=
  ⟨right.cfg.trans left.cfg, fun indexed => right.indexed (left.indexed indexed),
    left.scale.trans right.scale⟩

theorem of_deeds (deeds : Deeds Edit.keepsScale handle before after) (edits : Edits before after) :
    Upholds handle before after :=
  ⟨edits.cfg_eq, edits.indexed, .of_deeds deeds⟩

variable (engine : Engine) (handle : ConnHandle)

theorem modifyConn {change : TcpConn → TcpConn} (receiver : ∀ conn, SameReceiver conn (change conn))
    (same : ∀ conn, SameScale conn (change conn)) :
    Upholds handle engine (engine.modifyConn handle change) := by
  have edits : Edits engine (engine.modifyConn handle change) := .modify handle change receiver
  refine ⟨edits.cfg_eq, edits.indexed, fun other conn' live => ?_⟩
  rw [Engine.modifyConn, FlowTable.get_modify] at live
  split at live
  · rename_i here
    rcases Option.map_eq_some_iff.mp live with ⟨conn, present, rfl⟩
    exact ⟨conn, here ▸ present, same conn, fun differs => absurd here differs⟩
  · exact ⟨conn', live, .refl conn', fun _ => rfl⟩

theorem emitSynAckForPassive (sent : Bool) (nowNs : ℕ) :
    Upholds handle engine (engine.emitSynAckForPassive handle sent nowNs) := by
  unfold Engine.emitSynAckForPassive
  split
  · exact .refl handle engine
  · rename_i conn present
    split
    · exact .of_deeds (armSynRetrans_deeds engine handle (fun _ => ⟨rfl, nofun⟩) present nowNs _)
        (armSynRetrans_edits engine handle nowNs _)
    · exact .refl handle engine

/-- A connection that is torn down is gone; the others are as they were. -/
theorem tearDownPassive : Upholds handle engine (engine.tearDownPassive handle) := by
  unfold Engine.tearDownPassive
  split
  · exact .refl handle engine
  · rename_i conn present
    dsimp only
    generalize dropped_eq : Engine.dropConn _ handle = dropped
    have edits : Edits engine dropped := by
      rw [← dropped_eq]
      refine .trans ?_ (.remove handle)
      split
      · refine .trans ?_ (.modify handle _ fun conn => ?_)
        · exact .same rfl rfl rfl rfl
        · exact ⟨rfl, rfl, rfl, rfl, rfl, rfl, rfl⟩
      · exact .refl engine
    refine ⟨edits.cfg_eq, edits.indexed, fun other conn' live =>
      ⟨conn', ?_, .refl conn', fun _ => rfl⟩⟩
    · rw [← dropped_eq] at live
      dsimp only [dropConn] at live
      rw [FlowTable.get_remove] at live
      split at live
      · cases live
      · rename_i differs
        split at live
        · rw [Engine.modifyConn, FlowTable.get_modify, if_neg differs] at live
          exact live
        · exact live

end Engine.Upholds

/-- A SYN opens a connection with the shift it carries; the other connections are as they were. -/
theorem Engine.opened_scale {engine : Engine} {table : FlowTable} {opened : TcpConn}
    {handle : ConnHandle} (inserted : engine.flowTable.insert opened = (table, some handle))
    (sent : Bool) (nowNs : ℕ) :
    let after := (({ engine with flowTable := table }.recordAccepted handle).emitSynAckForPassive
      handle sent nowNs).modifyConn handle fun conn => { conn with sndNxt := seqAdd conn.sndNxt 1 }
    after.cfg = engine.cfg ∧ (engine.flowTable.Indexed → after.flowTable.Indexed) ∧
      ∀ other conn', after.flowTable.get other = some conn' →
        SameScale opened conn' ∨ engine.flowTable.get other = some conn' := by
  have stored := FlowTable.get_insert inserted
  have counted : ∀ answered : Engine, Upholds handle answered (answered.modifyConn handle fun conn =>
      { conn with sndNxt := seqAdd conn.sndNxt 1 }) := by
    intro answered
    refine .modifyConn answered handle (fun conn => ?_) fun conn => ?_
    · exact ⟨rfl, rfl, rfl, rfl, rfl, rfl, rfl⟩
    · exact ⟨rfl, rfl, rfl, rfl⟩
  have upholds := (Upholds.emitSynAckForPassive
    ({ engine with flowTable := table }.recordAccepted handle) handle sent nowNs).trans (counted _)
  refine ⟨upholds.cfg, fun indexed => upholds.indexed (indexed.insert inserted), ?_⟩
  intro other conn' live
  rcases upholds.scale other conn' live with ⟨before, present, same, alone⟩
  have started := (stored other).2.symm.trans present
  split at started
  · cases started
    exact .inl same
  · rename_i differs
    rw [alone differs]
    exact .inr started

theorem handleSynReceived_sameScale (conn : TcpConn) (seg : ParsedSegment) (nowNs : ℕ) :
    SameScale conn (handleSynReceived conn seg nowNs).conn := by
  unfold handleSynReceived
  split
  · split <;> exact .refl conn
  · split
    · split <;> exact .refl conn
    · split
      · exact .refl conn
      · split
        · exact .refl conn
        · split
          · exact .refl conn
          · rcases adoptFinalAck_only conn seg nowNs with ⟨_, _, only⟩
            rw [only]
            exact ⟨rfl, rfl, rfl, rfl⟩

namespace Server

/-- The end of `tcp_input`. -/
theorem receiveSideAfter_upholds (server : Server) (handle : ConnHandle)
    (outcome : ServerOutcome) (env : InputEnv) (sent : Bool) :
    Engine.Upholds handle server.host.engine
      (server.receiveSideAfter handle outcome env sent).host.engine := by
  have either : ∀ {first second : Server} (chosen : Bool),
      Engine.Upholds handle server.host.engine first.host.engine →
      Engine.Upholds handle server.host.engine second.host.engine →
      Engine.Upholds handle server.host.engine (if chosen then first else second).host.engine := by
    intro first second chosen one other
    cases chosen with
    | false => exact other
    | true => exact one
  have enters : ∀ target deadline, Edit.keepsScale (.enter target deadline) :=
    fun _ _ => ⟨rfl, nofun⟩
  unfold receiveSideAfter
  lift_lets
  intro waited moved answered promoted cleared relistened resent delivered
  have waited : Engine.Upholds handle server.host.engine waited :=
    .of_deeds (Engine.restartTimeWait_deeds _ handle (fun _ => ⟨rfl, nofun⟩) _ env.nowNs)
      (Engine.restartTimeWait_edits _ handle _ env.nowNs)
  have moved : Engine.Upholds handle server.host.engine moved := by
    refine waited.trans ?_
    dsimp only [moved]
    split
    · exact .of_deeds (Engine.transitionConn_deeds _ handle (enters _) env.nowNs)
        (Engine.transitionConn_edits _ handle _ env.nowNs)
    · exact .refl handle _
  have answered : Engine.Upholds handle server.host.engine answered :=
    moved.trans (.of_deeds (Engine.answer_deeds Edit.keepsScale_of_plain _ handle (enters _)
      outcome.tx env) (Engine.answer_edits _ handle _ env))
  have promoted : Engine.Upholds handle server.host.engine promoted.host.engine :=
    either _ (answered.trans (.of_deeds (Engine.pushEvent_deeds _ handle _) (.push _ rfl)))
      answered
  have cleared : Engine.Upholds handle server.host.engine cleared.host.engine :=
    either _ promoted promoted
  have relistened : Engine.Upholds handle server.host.engine relistened.host.engine :=
    either _ (cleared.trans (Engine.Upholds.tearDownPassive _ handle)) cleared
  have resent : Engine.Upholds handle server.host.engine resent.host.engine :=
    either _ (relistened.trans (Engine.Upholds.emitSynAckForPassive _ handle sent env.nowNs))
      relistened
  have delivered : Engine.Upholds handle server.host.engine delivered := by
    refine resent.trans ?_
    dsimp only [delivered]
    split
    · exact ⟨rfl, fun indexed => Engine.handOver_indexed indexed handle _ _ _,
        .of_deeds (Engine.handOver_deeds Edit.keepsScale_of_plain _ handle _ _ _)⟩
    · exact .refl handle _
  exact delivered.trans (.of_deeds (Engine.finishClosed_deeds _ handle outcome.toOutcome env)
    (Engine.finishClosed_edits _ handle outcome.toOutcome env))

/-- A segment of a handshake from outside. -/
theorem tcpInput_upholds {server : Server} {handle : ConnHandle} {conn : TcpConn}
    (present : server.host.engine.flowTable.get handle = some conn)
    (opening : conn.state = .synReceived) (seg : ParsedSegment) (mbufCtx : Option MbufInsertCtx)
    (env : InputEnv) (sent : Bool) :
    Engine.Upholds handle server.host.engine
      (server.tcpInput handle seg mbufCtx env sent).host.engine := by
  have dispatched : serverDispatch conn seg env.clock server.host.engine.cfg.sendBufferBytes
      mbufCtx = handleSynReceived conn seg env.clock.synTsRecent := by
    rw [serverDispatch, if_pos opening]
  have same := handleSynReceived_sameScale conn seg env.clock.synTsRecent
  dsimp only [tcpInput]
  rw [present]
  dsimp only
  rw [dispatched]
  generalize handleSynReceived conn seg env.clock.synTsRecent = ended at same
  have written : ∀ other, (server.host.engine.written handle mbufCtx ended.plain).flowTable.get
      other = if other = handle then some ended.conn else server.host.engine.flowTable.get other :=
    fun other => FlowTable.get_set present _ other
  have stays := (written handle).trans (if_pos rfl)
  have begun : Engine.Upholds handle server.host.engine
      (server.host.engine.written handle mbufCtx ended.plain) := by
    refine ⟨rfl, fun indexed => indexed.set present same.fourTuple, fun other conn' live => ?_⟩
    rw [written] at live
    split at live
    · rename_i here
      cases live
      exact ⟨conn, here ▸ present, same, fun differs => absurd here differs⟩
    · exact ⟨conn', live, .refl conn', fun _ => rfl⟩
  refine begun.trans (.trans ?_ (receiveSideAfter_upholds _ handle ended.outcome env sent))
  generalize server.host.engine.written handle mbufCtx ended.plain = engine at stays ⊢
  have sends : ∀ {notified : Engine}, notified.flowTable.get handle = some ended.conn →
      Engine.Upholds handle notified
        (notified.sendSideAfter handle ended.outcome.toOutcome env) := fun present' =>
    .of_deeds (Engine.sendSideAfter_deeds Edit.keepsScale_of_plain _ handle (fun _ => ⟨rfl, by rintro _ ⟨⟩⟩)
      present' (fun _ _ => ⟨rfl, by rintro _ ⟨⟩⟩) env) (Engine.sendSideAfter_edits _ handle _ env)
  dsimp only [withEngine]
  split
  · exact .trans (.of_deeds (Engine.pushEvent_deeds engine handle _) (.push _ rfl))
      (sends (by exact stays))
  · exact sends stays

end Server

end DpdkTcp
