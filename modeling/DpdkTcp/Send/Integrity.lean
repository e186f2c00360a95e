import DpdkTcp.Send.NewData
import DpdkTcp.Send.Sequence

/-!
# Integrity of the streams

In every run of a host whose pools hand out free buffers and whose driver cuts off no payload, every
data frame that is offered to the driver is the frame of a segment with bytes of a stream, as
`send_bytes` accepted them, whether it is sent for the first time or again. Frames
that wait in the ring share no buffer.
-/

namespace DpdkTcp

namespace Engine

variable {engine : Engine} {streams : Streams} {handle : ConnHandle}

/-! ### Timers and segments -/

theorem Faithful.retransmitAll (faithful : engine.Faithful streams) (envs : ℕ → RetransmitEnv)
    (indexes : List ℕ) (free : engine.retransmitAllFree handle envs indexes = true) :
    (engine.retransmitAll handle envs indexes).Faithful streams ∧
      ∀ bytes ∈ engine.retransmitAllBursts handle envs indexes,
        streams.Backs engine.cfg bytes := by
  induction indexes generalizing engine envs with
  | nil => exact ⟨faithful, nofun⟩
  | cons index rest ih =>
      rcases Bool.and_eq_true_iff.mp free with ⟨now, later⟩
      have moved : Moved (fun _ _ => True) engine (engine.retransmit handle index (envs 0)) :=
        retransmit_moved engine handle index (envs 0) trivial
      rcases ih (retransmit_faithful faithful handle index now) _ later with ⟨kept, bursts⟩
      refine ⟨kept, fun bytes member => ?_⟩
      rcases List.mem_append.mp member with first | second
      · exact faithful.burst bytes first
      · rw [← moved.cfg]
        exact bursts bytes second

theorem Faithful.retransmitRackLost (faithful : engine.Faithful streams)
    (envs : ℕ → RetransmitEnv) (indexes : List ℕ)
    (free : engine.rackLostFree handle envs indexes = true) :
    (engine.retransmitRackLost handle envs indexes).Faithful streams ∧
      ∀ bytes ∈ engine.retransmitRackLostBursts handle envs indexes,
        streams.Backs engine.cfg bytes := by
  induction indexes generalizing engine envs with
  | nil => exact ⟨faithful, nofun⟩
  | cons index rest ih =>
      rcases Bool.and_eq_true_iff.mp free with ⟨now, later⟩
      have moved : Moved (fun _ _ => True) engine (engine.retransmit handle index (envs 0)) :=
        retransmit_moved engine handle index (envs 0) trivial
      have resent := retransmit_faithful faithful handle index now
      dsimp only [Engine.retransmitRackLost, retransmitRackLostBursts] at later ⊢
      generalize reported_eq : (if engine.cfg.tcpPerPacketEvents = true then _ else _ : Engine) =
        reported at later ⊢
      have calm : Calm (engine.retransmit handle index (envs 0)) reported := by
        rw [← reported_eq]
        split
        · exact (reportRetrans_calm _ handle index _).trans (.push _ _)
        · exact .refl _
      rcases ih (resent.calm calm) _ later with ⟨kept, bursts⟩
      refine ⟨kept, fun bytes member => ?_⟩
      rcases List.mem_append.mp member with first | second
      · exact faithful.burst bytes first
      · rw [← moved.cfg, ← calm.cfg]
        exact bursts bytes second

theorem Faithful.tcpInput (faithful : engine.Faithful streams) (seg : ParsedSegment)
    (mbufCtx : Option MbufInsertCtx) (env : InputEnv)
    (free : ∀ conn, engine.flowTable.get handle = some conn →
      (engine.notified handle mbufCtx
        (dispatch conn seg env.clock engine.cfg.sendBufferBytes mbufCtx) env.nowNs).rackLostFree
          handle env.retransmits
          (dispatch conn seg env.clock engine.cfg.sendBufferBytes mbufCtx).outcome.rackLostIndexes =
        true) :
    (engine.tcpInput handle seg mbufCtx env).Faithful streams ∧
      ∀ bytes ∈ engine.tcpInputBursts handle seg mbufCtx env, streams.Backs engine.cfg bytes := by
  cases present : engine.flowTable.get handle with
  | none =>
      rw [tcpInput_absent present, tcpInputBursts, present]
      exact ⟨faithful, nofun⟩
  | some conn =>
      have calm := notified_calm engine handle present seg mbufCtx env
      have allocated := free conn present
      dsimp only [Engine.tcpInput, tcpInputBursts]
      rw [present]
      dsimp only [notified] at calm allocated
      dsimp only
      generalize dispatch conn seg env.clock engine.cfg.sendBufferBytes mbufCtx = dispatched at *
      generalize (if dispatched.outcome.writableHysteresisFired = true then _ else _ : Engine) =
        notified at *
      have looped := (faithful.calm calm).retransmitRackLost env.retransmits _ allocated
      rw [calm.cfg] at looped
      refine ⟨?_, looped.2⟩
      exact (looped.1.calm (sendSideAfter_calm _ handle _ env)).calm
        (receiveSideAfter_calm _ handle _ env)

theorem Faithful.onRtoFire (faithful : engine.Faithful streams) (firedId : TimerId) (env : RtoEnv)
    (free : engine.rtoFree handle firedId env = true) :
    (engine.onRtoFire handle firedId env).Faithful streams ∧
      ∀ bytes ∈ engine.onRtoFireBursts handle firedId env, streams.Backs engine.cfg bytes := by
  dsimp only [Engine.onRtoFire, onRtoFireBursts]
  cases present : engine.flowTable.get handle with
  | none => exact ⟨faithful, nofun⟩
  | some conn =>
      dsimp only
      by_cases stale : conn.rtoTimerId ≠ some firedId
      · rw [if_pos stale, if_pos stale]
        exact ⟨faithful, nofun⟩
      rw [if_neg stale, if_neg stale]
      have cleared : Calm engine (engine.modifyConn handle fun conn =>
          { conn.withoutTimer firedId with rtoTimerId := none }) :=
        .beside engine handle fun _ => ⟨rfl, rfl⟩
      cases idle : conn.sndRetrans.isEmpty with
      | true =>
          rw [if_pos rfl, if_pos rfl]
          exact ⟨faithful.calm cleared, nofun⟩
      | false =>
          rw [if_neg Bool.false_ne_true, if_neg Bool.false_ne_true]
          have marked := cleared.trans (markLost_calm _ handle (conn.rtoLostIndexes env.markNs))
          have allocated : (engine.rtoCleared handle conn firedId env).retransmitAllFree handle
              env.retransmits (rtoChosen conn env) = true := by
            simpa [rtoFree, present, not_not.mp stale, idle] using free
          have resent := (faithful.calm marked).retransmitAll env.retransmits _ allocated
          refine ⟨(resent.1.calm (reportRto_calm _ handle _ env.eventNs)).calm
            (rearmOrGiveUp_calm _ handle _ env), ?_⟩
          rw [← marked.cfg]
          exact resent.2

theorem Faithful.onTlpFire (faithful : engine.Faithful streams) (firedId : TimerId)
    (env : RetransmitEnv) (nowNs : ℕ) (free : engine.retransmitFree env = true) :
    (engine.onTlpFire handle firedId env nowNs).Faithful streams ∧
      ∀ bytes ∈ engine.onTlpFireBursts handle firedId, streams.Backs engine.cfg bytes := by
  dsimp only [Engine.onTlpFire, onTlpFireBursts]
  cases present : engine.flowTable.get handle with
  | none => exact ⟨faithful, nofun⟩
  | some conn =>
      dsimp only
      by_cases stale : conn.tlpTimerId ≠ some firedId
      · rw [if_pos stale, if_pos stale]
        exact ⟨faithful, nofun⟩
      rw [if_neg stale, if_neg stale]
      have cleared : Calm engine (engine.modifyConn handle fun conn =>
          { conn.withoutTimer firedId with tlpTimerId := none }) :=
        .beside engine handle fun _ => ⟨rfl, rfl⟩
      cases selectProbe (!conn.snd.pending.isEmpty) (!conn.sndRetrans.isEmpty) with
      | none => exact ⟨faithful.calm cleared, nofun⟩
      | some probe =>
          refine ⟨?_, faithful.burst⟩
          have probed := retransmit_faithful (faithful.calm cleared) handle
            (conn.sndRetrans.entries.length - 1)
            ((retransmitFree_modifyConn engine handle _ env).trans free)
          dsimp only
          generalize recorded_eq : Engine.modifyConn (Engine.retransmit _ handle _ env) handle _ =
            recorded
          have kept : recorded.Faithful streams := by
            rw [← recorded_eq]
            refine probed.calm (.beside _ handle ?_)
            intro after
            split <;> exact ⟨rfl, rfl⟩
          split
          · exact (kept.calm (reportRetrans_calm _ handle _ nowNs)).calm (.push _ _)
          · exact kept

theorem Faithful.fireTimer (faithful : engine.Faithful streams) (id : TimerId) (node : TimerNode)
    (env : FireEnv) (free : engine.fireFree id node env = true) :
    (engine.fireTimer id node env).Faithful streams ∧
      ∀ bytes ∈ engine.fireTimerBursts id node env, streams.Backs engine.cfg bytes := by
  unfold fireFree at free
  unfold Engine.fireTimer fireTimerBursts
  cases kind : node.kind with
  | rto =>
      rw [kind] at free
      exact faithful.onRtoFire id env.rto free
  | tlp =>
      rw [kind] at free
      exact faithful.onTlpFire id env.tlp env.nowNs free
  | synRetrans => exact ⟨faithful.calm (onSynRetransFire_calm engine _ id env.nowNs), nofun⟩
  | apiPublic => exact ⟨faithful.calm (.push engine _), nofun⟩

/-! ### Opened connections -/

/-- How a call of `connect_with_opts` comes out. -/
inductive Opens (tuple : FourTuple) (iss : Seq) (engine : Engine) :
    Engine × Option ConnHandle → Prop where
  | refused {after : Engine} (calm : Calm engine after)
      (edges : ∀ other conn', after.flowTable.get other = some conn' →
        ∃ conn, engine.flowTable.get other = some conn ∧ SameEdge conn conn') :
      Opens tuple iss engine (after, none)
  | opened {inside after : Engine} {fresh : ConnHandle} {opening : TcpConn}
      (table : ∀ other, inside.flowTable.get other =
        if other = fresh then some opening else engine.flowTable.get other)
      (fourTuple : opening.fourTuple = tuple) (entries : opening.sndRetrans.entries = [])
      (sndNxt : opening.sndNxt = seqAdd iss 1) (conserves : Conserves engine inside)
      (cfg : inside.cfg = engine.cfg) (mbufs : inside.mbufs = engine.mbufs)
      (ring : inside.txPendingData = engine.txPendingData)
      (driver : inside.driverFrames = engine.driverFrames)
      (recorded : inside.record.opened = engine.record.opened ++ [fresh])
      (calm : Calm inside after)
      (edges : ∀ other conn', after.flowTable.get other = some conn' →
        ∃ conn, inside.flowTable.get other = some conn ∧ conn'.sndNxt = conn.sndNxt ∧
          (other ≠ fresh → conn'.state.early → conn.state.early)) :
      Opens tuple iss engine (after, some fresh)

theorem connectWithOpts_opens (engine : Engine) (tuple : FourTuple) (iss : Seq) (ourMss : UInt16)
    (opts : ConnectOpts) (synSent : Bool) (nowNs : ℕ) :
    Opens tuple iss engine (engine.connectWithOpts tuple iss ourMss opts synSent nowNs) := by
  have unchanged : Opens tuple iss engine (engine, none) :=
    .refused (.refl engine) fun _ conn' live => ⟨conn', live, rfl, id⟩
  have conserves := conserves_connectWithOpts engine tuple iss ourMss opts synSent nowNs
  dsimp only [connectWithOpts] at conserves ⊢
  split
  · exact unchanged
  rename_i addressed
  rw [if_neg addressed] at conserves
  split
  · exact unchanged
  rename_i routed
  rw [if_neg routed] at conserves
  split
  · exact unchanged
  rename_i fresh chosen
  rw [chosen] at conserves
  have inserted : engine.flowTable.insert (engine.connecting tuple iss ourMss opts nowNs) =
      (_, some fresh) :=
    Prod.ext rfl chosen
  have table := FlowTable.get_insert inserted
  cases synSent with
  | false =>
      have back : ∀ other conn', ((engine.flowTable.insert
          (engine.connecting tuple iss ourMss opts nowNs)).1.remove fresh).get other = some conn' →
            engine.flowTable.get other = some conn' := by
        intro other conn' live
        rw [FlowTable.get_remove, (table other).2] at live
        split at live
        · cases live
        · exact live
      refine .refused (.of_conserves conserves rfl rfl (fun _ => rfl) rfl rfl ?_) ?_
      · exact fun other conn' live => ⟨conn', back other conn' live, .refl conn'⟩
      · exact fun other conn' live => ⟨conn', back other conn' live, rfl, id⟩
  | true =>
      have joined := conserves_insert engine inserted rfl
      refine .opened (fun other => (table other).2) rfl rfl rfl
        (joined.trans (conserves_recordOpened _ fresh iss)) rfl rfl rfl rfl rfl
        ((transitionConn_calm _ fresh .synSent nowNs).trans (armSynRetrans_calm _ fresh nowNs _)) ?_
      intro other conn' live
      rcases (armSynRetrans_moved _ fresh nowNs _ : Moved (fun _ _ => False) _ _).conns other conn'
        live with ⟨armed, liveArmed, kept⟩
      rcases transitionConn_conns _ _ _ _ liveArmed with ⟨conn, present, entered, _⟩
      refine ⟨conn, present, kept.send.sndNxt.trans entered.send.sndNxt, fun apart => ?_⟩
      rw [if_neg apart] at entered
      exact (entered.trans kept).sameEdge.2

/-- A connection that was opened has a stream of its own, still without bytes. -/
theorem Faithful.opening {inside : Engine} {fresh : ConnHandle} {opening : TcpConn}
    (faithful : engine.Faithful streams)
    (table : ∀ other, inside.flowTable.get other =
      if other = fresh then some opening else engine.flowTable.get other)
    (entries : opening.sndRetrans.entries = []) (conserves : Conserves engine inside)
    (cfg : inside.cfg = engine.cfg) (mbufs : inside.mbufs = engine.mbufs)
    (ring : inside.txPendingData = engine.txPendingData)
    (driver : inside.driverFrames = engine.driverFrames)
    (recorded : inside.record.opened = engine.record.opened ++ [fresh])
    (vacant : streams fresh (engine.record.incarnation fresh + 1) = none) {flow : Flow}
    (tuple : opening.fourTuple = flow.tuple) :
    inside.Faithful (streams.write fresh (engine.record.incarnation fresh + 1) flow) := by
  have grows : streams.Grows (streams.write fresh (engine.record.incarnation fresh + 1) flow) := by
    apply Streams.grows_write
    rw [vacant]
    intro known absent
    cases absent
  have grown := faithful.mono grows
  have bytes : ∀ frame, inside.frameBytes frame = engine.frameBytes frame := by
    intro frame
    unfold frameBytes
    rw [mbufs]
  have incarnation : ∀ other, inside.record.incarnation other =
      engine.record.incarnation other + [fresh].count other := by
    intro other
    rw [Record.incarnation, recorded, List.count_append]
    rfl
  refine ⟨?_, ?_, ?_, ?_, ?_, ?_, ?_⟩
  · intro addr
    rw [conserves.slack]
    exact faithful.slack addr
  · intro addr
    exact (conserves.entryRefs addr).trans (faithful.single addr)
  · intro other conn live
    rw [table] at live
    rw [incarnation, mbufs]
    split at live
    · rename_i same
      cases live
      rw [same, List.count_singleton_self]
      refine ⟨flow, streams.write_found fresh _ flow, tuple, ?_⟩
      rw [entries]
      intro entry member
      cases member
    · rename_i apart
      rw [List.count_singleton, if_neg (by simpa using Ne.symm apart), Nat.add_zero]
      exact grown.conns other conn live
  · rw [ring]
    intro frame member
    rw [bytes, cfg]
    exact grown.ring frame member
  · rw [ring]
    exact faithful.apart
  · rw [driver, ring]
    intro frame member other conn live entry inConn
    rw [table] at live
    split at live
    · cases live
      rw [entries] at inConn
      cases inConn
    · exact faithful.heads frame member other conn live entry inConn
  · rw [driver, ring, mbufs]
    exact faithful.shared

/-! ### The driver -/

/-- The driver changes no more than a buffer. -/
theorem trimFrame_only (engine : Engine) (index len : ℕ) :
    engine.trimFrame index len =
      { engine with mbufs := (engine.trimFrame index len).mbufs } := by
  unfold Engine.trimFrame
  split
  · rfl
  · unfold adjMbuf
    split <;> rfl

/-- The driver cuts off headers. A frame that waits in the ring has none left in a buffer that the
driver holds the head of. -/
theorem Faithful.trimFrame (faithful : engine.Faithful streams) {index len : ℕ}
    (header : engine.trimsHeader index len = true) :
    (engine.trimFrame index len).Faithful streams := by
  unfold Engine.trimFrame
  cases found : (engine.driverFrames[index]?).bind fun frame => frame.segs.head? with
  | none => exact faithful
  | some head =>
      rcases Option.bind_eq_some_iff.mp found with ⟨frame, there, first⟩
      have held := List.mem_of_getElem? there
      have left : len + frame.headPayload ≤ (engine.mbufs head).data.length := by
        simpa [trimsHeader, there, first] using header
      dsimp only [adjMbuf]
      rw [if_neg (by omega)]
      have data : ∀ addr, ((engine.writeMbuf head ((engine.mbufs head).data.drop len)).mbufs
          addr).data = if addr = head then (engine.mbufs head).data.drop len
            else (engine.mbufs addr).data := by
        intro addr
        rw [writeMbuf, mbufs_setMbuf]
        split <;> rfl
      refine faithful.rewritten rfl rfl rfl rfl rfl ?_ ?_ ?_
      · intro addr
        rw [slack_writeMbuf]
        exact faithful.slack addr
      · intro waiting inRing addr inFrame
        rw [data]
        split
        · rename_i same
          rw [same] at inFrame ⊢
          have short := faithful.shared frame held waiting inRing head inFrame first
          rw [show len = 0 by omega, List.drop_zero]
        · rfl
      · intro handle conn present entry member
        rw [data]
        split
        · rename_i same
          rw [same, List.length_drop]
          have room := faithful.heads frame (Or.inl held) handle conn present entry member
            (same ▸ first)
          exact ⟨List.drop_suffix _ _, by omega⟩
        · exact ⟨List.suffix_refl _, (faithful.holds present member).1.payload⟩

end Engine

/-! ### Runs -/

/-- A host, with what its connections accepted. -/
structure Sender where
  host : Host
  streams : Streams

namespace Sender

variable {sender : Sender} {op : DriverOp}

/-- A host without connections that has accepted nothing. -/
def start (cfg : EngineConfig) (maxConnections eventSoftCap : ℕ) : Sender :=
  ⟨Host.start cfg maxConnections eventSoftCap, fun _ _ => none⟩

/-- The streams after an operation: `connect` opens one, `send_bytes` extends one. -/
def record (sender : Sender) : DriverOp → Streams
  | .system (.call (.connect tuple iss ourMss opts synSent nowNs)) =>
      match (sender.host.engine.connectWithOpts tuple iss ourMss opts synSent nowNs).2 with
      | none => sender.streams
      | some fresh =>
          sender.streams.write fresh (sender.host.engine.record.incarnation fresh + 1)
            ⟨tuple, seqAdd iss 1, []⟩
  | .system (.call (.send handle bytes envs tlpNs)) =>
      sender.streams.sent handle (sender.host.engine.record.incarnation handle) bytes
        (sender.host.engine.sendBytes handle bytes envs tlpNs).2
  | _ => sender.streams

/-- One step of a host with its driver, with what it accepts. -/
def step (sender : Sender) (op : DriverOp) : Sender :=
  ⟨sender.host.driverStep op, sender.record op⟩

/-- The pools hand out free buffers, and the driver cuts off no payload. -/
def admissible (sender : Sender) : DriverOp → Bool
  | .system op => sender.host.poolsWork op
  | .trim index len => sender.host.engine.trimsHeader index len

/-- The frames of a call of `send_bytes` are copied whole, or not built. -/
def framed (sender : Sender) : DriverOp → Bool
  | .system (.call (.send handle bytes _ _)) =>
      (sender.host.engine.flowTable.get handle).all fun conn =>
        conn.state ≠ .established ||
          conn.framed (min (sender.host.engine.admitted conn bytes).length
            (sender.host.engine.mssCap conn))
  | _ => true

/-- Under a small MSS they are. -/
theorem framed_of_small (small : sender.host.engine.cfg.tcpMss ≤ Engine.MAX_FRAMED)
    (op : DriverOp) : sender.framed op = true := by
  unfold framed
  split
  · rw [Option.all_eq_true]
    intro conn _
    rw [Bool.or_eq_true, TcpConn.framed_iff]
    refine Or.inr (Or.inl ?_)
    have options : conn.optionBytes ≤ 12 := by
      unfold TcpConn.optionBytes
      split <;> decide
    unfold Engine.MAX_FRAMED at small
    unfold TcpConn.frameLen Engine.mssCap FRAME_HDRS_MIN ETH_HDR_LEN IPV4_HDR_MIN TCP_HDR_MIN
    omega
  · rfl

/-- What holds of a sender in every run. -/
structure Sound (sender : Sender) : Prop where
  faithful : sender.host.engine.Faithful sender.streams
  edges : ∀ handle conn flow, sender.host.engine.flowTable.get handle = some conn →
    conn.state.early →
    sender.streams handle (sender.host.engine.record.incarnation handle) = some flow →
    conn.sndNxt = flow.edge
  unopened : ∀ handle incarnation,
    sender.host.engine.record.incarnation handle < incarnation →
    sender.streams handle incarnation = none
  numbered : ∀ handle, sender.streams handle 0 = none

theorem sound_start (cfg : EngineConfig) (maxConnections eventSoftCap : ℕ) :
    (start cfg maxConnections eventSoftCap).Sound := by
  have absent : ∀ {handle : ConnHandle} {conn : TcpConn},
      (Host.start cfg maxConnections eventSoftCap).engine.flowTable.get handle ≠ some conn := by
    intro handle conn live
    rw [Host.get_start] at live
    cases live
  have balanced := Engine.balanced_iff.mp (Host.balanced_start cfg maxConnections eventSoftCap)
  refine ⟨?_, fun _ _ _ live => absurd live absent, fun _ _ _ => rfl, fun _ => rfl⟩
  refine ⟨fun addr => (balanced addr).1.ge, fun addr => (balanced addr).2,
    fun _ _ live => absurd live absent, nofun, .nil, ?_, nofun⟩
  exact fun _ _ _ _ live => absurd live absent

/-- A step that opens no connection and accepts no bytes. -/
theorem Sound.kept (sound : sender.Sound) {after : Host}
    (opened : after.engine.record.opened = sender.host.engine.record.opened)
    (faithful : after.engine.Faithful sender.streams)
    (edges : ∀ handle conn', after.engine.flowTable.get handle = some conn' →
      conn'.state.early → ∃ conn, sender.host.engine.flowTable.get handle = some conn ∧
        conn.state.early ∧ conn'.sndNxt = conn.sndNxt) :
    Sound ⟨after, sender.streams⟩ where
  faithful := faithful
  edges handle conn' flow live early found := by
    rcases edges handle conn' live early with ⟨conn, present, earlier, sndNxt⟩
    rw [Record.incarnation, opened] at found
    rw [sndNxt]
    exact sound.edges handle conn flow present earlier found
  unopened handle incarnation later := by
    rw [Record.incarnation, opened] at later
    exact sound.unopened handle incarnation later
  numbered := sound.numbered

/-- A step that writes no buffer. -/
theorem Sound.calm (sound : sender.Sound) {after : Host}
    (calm : sender.host.engine.Calm after.engine)
    (edges : ∀ handle conn', after.engine.flowTable.get handle = some conn' →
      conn'.state.early → ∃ conn, sender.host.engine.flowTable.get handle = some conn ∧
        conn.state.early ∧ conn'.sndNxt = conn.sndNxt) :
    Sound ⟨after, sender.streams⟩ :=
  sound.kept calm.opened (sound.faithful.calm calm) edges

theorem Sound.connect (sound : sender.Sound) {tuple : FourTuple} {iss : Seq} {pending}
    {result : Engine × Option ConnHandle} (opens : sender.host.engine.Opens tuple iss result) :
    Sound ⟨⟨result.1, pending⟩, match result.2 with
      | none => sender.streams
      | some fresh =>
          sender.streams.write fresh (sender.host.engine.record.incarnation fresh + 1)
            ⟨tuple, seqAdd iss 1, []⟩⟩ := by
  cases opens with
  | refused calm edges =>
      refine sound.calm calm ?_
      intro handle conn' live early
      rcases edges handle conn' live with ⟨conn, present, same⟩
      exact ⟨conn, present, same.2 early, same.1⟩
  | opened table fourTuple entries sndNxt conserves cfg mbufs ring driver recorded calm edges =>
      rename_i inside after fresh opening
      have vacant := sound.unopened fresh _ (Nat.lt_succ_self _)
      have incarnation : ∀ other, after.record.incarnation other =
          sender.host.engine.record.incarnation other + [fresh].count other := by
        intro other
        rw [Record.incarnation, calm.opened, recorded, List.count_append]
        rfl
      refine ⟨?_, ?_, ?_, ?_⟩
      · have started : inside.Faithful (sender.streams.write fresh
            (sender.host.engine.record.incarnation fresh + 1) ⟨tuple, seqAdd iss 1, []⟩) :=
          sound.faithful.opening table entries conserves cfg mbufs ring driver recorded vacant
            fourTuple
        exact started.calm calm
      · intro other conn' flow live early found
        dsimp only at live found
        rcases edges other conn' live with ⟨conn, present, same, earlier⟩
        rw [incarnation, Streams.get_write] at found
        rw [table] at present
        rw [same]
        by_cases apart : other = fresh
        · rw [if_pos apart] at present
          rw [apart, List.count_singleton_self, if_pos ⟨rfl, rfl⟩] at found
          cases present
          cases found
          exact sndNxt.trans (seqAdd_zero _).symm
        · rw [if_neg apart] at present
          rw [if_neg fun both => apart both.1, List.count_singleton,
            if_neg (by simpa using Ne.symm apart)] at found
          exact sound.edges other conn flow present (earlier apart early) found
      · intro other turn later
        dsimp only at later ⊢
        rw [incarnation] at later
        rw [Streams.get_write]
        by_cases same : other = fresh ∧ turn = sender.host.engine.record.incarnation fresh + 1
        · rw [same.1, same.2, List.count_singleton_self] at later
          exact absurd later (Nat.lt_irrefl _)
        · rw [if_neg same]
          exact sound.unopened other turn (by omega)
      · intro other
        rw [← sound.numbered other]
        exact if_neg fun both => absurd both.2 (Nat.succ_ne_zero _).symm

theorem Sound.send (sound : sender.Sound) (handle : ConnHandle) (bytes : List UInt8)
    (envs : ℕ → SendEnv) (tlpNs : ℕ)
    (free : sender.host.engine.sendBytesFree handle bytes envs = true)
    (framed : sender.framed (.system (.call (.send handle bytes envs tlpNs))) = true) :
    (sender.step (.system (.call (.send handle bytes envs tlpNs)))).Sound ∧
      ∀ frame ∈ sender.host.engine.sendBytesBursts handle bytes envs,
        (sender.step (.system (.call (.send handle bytes envs tlpNs)))).streams.Backs
          sender.host.engine.cfg frame := by
  have loaded := Engine.sendBytes_faithful sound.faithful
    (fun conn flow present running => sound.edges handle conn flow present (Or.inr running))
    bytes (fun conn present running => by simpa [Sender.framed, present, running] using framed)
    envs tlpNs free
  have result := Engine.sendBytes_result sender.host.engine handle bytes envs tlpNs
  have opened := (Engine.sendBytes_hands sender.host.engine handle bytes envs tlpNs).opened
  have conns := Engine.sendBytes_conns sender.host.engine handle bytes envs tlpNs
  dsimp only [step, record, Host.driverStep, Host.systemStep, Host.step]
  generalize sender.host.engine.sendBytes handle bytes envs tlpNs = sent at *
  have incarnation : ∀ other, sent.1.record.incarnation other =
      sender.host.engine.record.incarnation other := by
    intro other
    rw [Record.incarnation, opened, Record.incarnation]
  refine ⟨⟨loaded.1, ?_, ?_, ?_⟩, loaded.2⟩
  · intro other conn' flow live early found
    dsimp only at live found
    rw [incarnation] at found
    cases result with
    | ok present running liveSent inBytes cut entries sndNxt assigned window buffer =>
        rw [Streams.sent_ok] at found
        by_cases same : other = handle
        · rw [same] at live found
          cases live.symm.trans liveSent
          rw [if_pos ⟨rfl, rfl⟩] at found
          rcases Option.map_eq_some_iff.mp found with ⟨before, there, grown⟩
          rw [← grown, sndNxt, before.edge_accept, List.length_take, Nat.min_eq_left inBytes,
            sound.edges handle _ before present (Or.inr running) there]
        · rw [if_neg fun both => same both.1] at found
          rcases conns.2.2 other conn' live with ⟨conn, present, kept | ⟨here, _⟩⟩
          · rw [kept.send.sndNxt]
            exact sound.edges other conn flow present (kept.sameEdge.2 early) found
          · exact absurd here same
    | refused reason same timers =>
        rw [same] at live
        exact sound.edges other conn' flow live early found
    | noMem reason same timers =>
        rw [same] at live
        exact sound.edges other conn' flow live early found
  · intro other turn later
    dsimp only at later ⊢
    rw [incarnation] at later
    exact Streams.sent_none (sound.unopened other turn later)
  · exact fun other => Streams.sent_none (sound.numbered other)

/-- A segment, and a timer, may send entries again. -/
theorem Sound.segment (sound : sender.Sound) (handle : ConnHandle) (seg : ParsedSegment)
    (mbufCtx : Option MbufInsertCtx) (env : InputEnv)
    (free : sender.host.allocatesFree (.segment handle seg mbufCtx env) = true) :
    (sender.step (.system (.call (.segment handle seg mbufCtx env)))).Sound ∧
      ∀ frame ∈ sender.host.engine.tcpInputBursts handle seg mbufCtx env,
        sender.streams.Backs sender.host.engine.cfg frame := by
  have resent := @Engine.Faithful.tcpInput _ _ handle sound.faithful seg mbufCtx env ?_
  · refine ⟨sound.kept (Engine.tcpInput_hands _ handle seg mbufCtx env).opened resent.1 ?_,
      resent.2⟩
    intro other conn' live early
    rcases Engine.tcpInput_conns _ handle seg mbufCtx env live with
      ⟨conn, present, ⟨_, kept⟩ | ⟨_, step⟩⟩
    · exact ⟨conn, present, kept.sameEdge.2 early, kept.sameEdge.1⟩
    · exact ⟨conn, present, step.sameEdge.2 early, step.sameEdge.1⟩
  · intro conn present
    simpa [Host.allocatesFree, present] using free

/-- A step that moves no left edge and no right one. -/
theorem Sound.moved (sound : sender.Sound) {after : Host}
    (moved : Engine.Moved (fun _ _ => True) sender.host.engine after.engine)
    (opened : after.engine.record.opened = sender.host.engine.record.opened)
    (faithful : after.engine.Faithful sender.streams) : Sound ⟨after, sender.streams⟩ := by
  refine sound.kept opened faithful ?_
  intro handle conn' live early
  rcases moved.sameEdge handle conn' live with ⟨conn, present, edge, earlier⟩
  exact ⟨conn, present, earlier early, edge⟩

theorem Sound.still (sound : sender.Sound) {after : Host}
    (calm : sender.host.engine.Calm after.engine)
    (flowTable : after.engine.flowTable = sender.host.engine.flowTable) :
    Sound ⟨after, sender.streams⟩ := by
  refine sound.calm calm ?_
  intro handle conn' live early
  rw [flowTable] at live
  exact ⟨conn', live, early, rfl⟩

theorem Sound.fireNext (sound : sender.Sound) (env : FireEnv)
    (free : sender.host.allocatesFree (.fireNext env) = true) :
    (sender.step (.system (.call (.fireNext env)))).Sound ∧
      ∀ frame ∈ sender.host.bursts (.system (.call (.fireNext env))),
        sender.streams.Backs sender.host.engine.cfg frame := by
  dsimp only [step, Host.driverStep, Host.systemStep, Host.step, record, Host.bursts]
  cases waiting : sender.host.pending with
  | nil => exact ⟨sound, nofun⟩
  | cons fired rest =>
      rcases fired with ⟨id, node⟩
      have allocated : sender.host.engine.fireFree id node env = true := by
        simpa [Host.allocatesFree, waiting] using free
      have resent := sound.faithful.fireTimer id node env allocated
      exact ⟨sound.moved (Engine.fireTimer_moved _ id node env)
        (Engine.fireTimer_hands _ id node env).opened resent.1, resent.2⟩

/-- One step of a sender, with what it offers to the driver. -/
theorem Sound.step (sound : sender.Sound) (admitted : sender.admissible op = true)
    (framed : sender.framed op = true) :
    (sender.step op).Sound ∧
      ∀ bytes ∈ sender.host.bursts op, (sender.step op).streams.Backs sender.host.engine.cfg bytes := by
  cases op with
  | trim index len =>
      have only := sender.host.engine.trimFrame_only index len
      refine ⟨sound.kept ?_ (sound.faithful.trimFrame admitted) ?_, nofun⟩
      · rw [Host.driverStep, only]
      · intro handle conn' live early
        rw [Host.driverStep, only] at live
        exact ⟨conn', live, early, rfl⟩
  | system op =>
      cases op with
      | complete index =>
          exact ⟨sound.still (Engine.completeFrame_calm _ index)
            (Host.completeFrame_flowTable _ index), nofun⟩
      | drainEvents max => exact ⟨sound.still (.same rfl rfl rfl rfl rfl rfl) rfl, nofun⟩
      | drop =>
          refine ⟨sound.calm (Engine.drop_calm _) ?_, nofun⟩
          intro handle conn' live
          cases (Host.drop_get sender.host.engine handle).symm.trans live
      | call op =>
          cases op with
          | connect tuple iss ourMss opts synSent nowNs =>
              exact ⟨sound.connect
                (Engine.connectWithOpts_opens _ tuple iss ourMss opts synSent nowNs), nofun⟩
          | send handle bytes envs tlpNs => exact sound.send handle bytes envs tlpNs admitted framed
          | close handle finSent nowNs =>
              refine ⟨sound.calm (Engine.closeConn_calm _ handle finSent nowNs) ?_, nofun⟩
              intro other conn' live early
              have step := Engine.closeConn_conns _ handle finSent nowNs live
              cases present : sender.host.engine.flowTable.get other with
              | none =>
                  rw [present] at step
                  cases step
              | some conn =>
                  rw [present] at step
                  cases step with
                  | kept kept => exact ⟨conn, rfl, kept.sameEdge.2 early, kept.sameEdge.1⟩
                  | fin running sent state =>
                      rw [state] at early
                      dsimp only [TcpConn.finSent] at early
                      split at early <;> rcases early with early | early <;> cases early
          | segment handle seg mbufCtx env => exact sound.segment handle seg mbufCtx env admitted
          | advance nowNs => exact ⟨sound.still (.same rfl rfl rfl rfl rfl rfl) rfl, nofun⟩
          | fireNext env => exact sound.fireNext env admitted
          | flush sent =>
              exact ⟨sound.still (Engine.drainTxPendingData_calm _ sent)
                (Engine.drainTxPendingData_change _ sent).flowTable, sound.faithful.burst⟩
          | reap nowNs =>
              exact ⟨sound.moved (Engine.reapTimeWait_moved _ nowNs)
                (Engine.reapTimeWait_calm _ nowNs).opened
                (sound.faithful.calm (Engine.reapTimeWait_calm _ nowNs)), nofun⟩
          | twSkip handle nowNs =>
              exact ⟨sound.moved (Engine.requestTwSkip_moved _ handle nowNs)
                (Engine.requestTwSkip_calm _ handle nowNs).opened
                (sound.faithful.calm (Engine.requestTwSkip_calm _ handle nowNs)), nofun⟩

theorem step_cfg (sender : Sender) (op : DriverOp) :
    (sender.step op).host.engine.cfg = sender.host.engine.cfg := by
  cases op with
  | system op => exact sender.host.systemStep_cfg op
  | trim index len =>
      dsimp only [step, Host.driverStep]
      rw [Engine.trimFrame_only]

variable {cfg : EngineConfig} {maxConnections eventSoftCap : ℕ}

theorem cfg_of_reaches
    (run : Run.Reaches step (fun sender op => sender.admissible op = true)
      (start cfg maxConnections eventSoftCap) sender) : sender.host.engine.cfg = cfg :=
  @Run.Reaches.invariant _ _ _ _ (fun sender => sender.host.engine.cfg = cfg) _ _ run rfl
    fun sender op same _ => (sender.step_cfg op).trans same

/-- In every run whose frames are copied whole. -/
theorem sound_of_framed
    (run : Run.Reaches step (fun sender op => (sender.admissible op && sender.framed op) = true)
      (start cfg maxConnections eventSoftCap) sender) : sender.Sound := by
  apply run.invariant (sound_start cfg maxConnections eventSoftCap)
  intro before op sound taken
  rcases Bool.and_eq_true_iff.mp taken with ⟨admitted, framed⟩
  exact (sound.step admitted framed).1

/-- Under a small MSS that is every run. -/
theorem sound_of_reaches (small : cfg.tcpMss ≤ Engine.MAX_FRAMED)
    (run : Run.Reaches step (fun sender op => sender.admissible op = true)
      (start cfg maxConnections eventSoftCap) sender) : sender.Sound := by
  refine (@Run.Reaches.invariant _ _ _ _ (fun sender =>
    sender.Sound ∧ sender.host.engine.cfg = cfg) _ _ run
    ⟨sound_start cfg maxConnections eventSoftCap, rfl⟩ ?_).1
  rintro before op ⟨sound, same⟩ admitted
  exact ⟨(sound.step admitted (framed_of_small (same ▸ small) op)).1,
    (before.step_cfg op).trans same⟩

end Sender

section Runs

variable {cfg : EngineConfig} {maxConnections eventSoftCap : ℕ} {sender : Sender}

/-- In every run, the frames that wait in the ring carry pieces of the streams, and no buffer is in
two of them. -/
theorem ring_carries_streams (small : cfg.tcpMss ≤ Engine.MAX_FRAMED)
    (run : Run.Reaches Sender.step (fun sender op => sender.admissible op = true)
      (Sender.start cfg maxConnections eventSoftCap) sender) :
    (∀ frame ∈ sender.host.engine.txPendingData,
        sender.streams.Backs cfg (sender.host.engine.frameBytes frame)) ∧
      (sender.host.engine.txPendingData.flatMap TxFrame.segs).Nodup := by
  have sound := Sender.sound_of_reaches small run
  refine ⟨fun frame member => ?_, sound.faithful.apart⟩
  rw [← Sender.cfg_of_reaches run]
  exact sound.faithful.ring frame member

/-- Three bytes are sent, the driver cuts their headers off, and the RTO timer fires. -/
def trimmedThenSent : List DriverOp :=
  (handshake ++ [sendAt 2000 [1, 2, 3] 1, .flush 1]).map (fun op => .system (.call op)) ++
  [.trim 0 54] ++
  [.advance 200000, fireAt 200000 fun _ => some 2].map fun op => .system (.call op)

/-- Where a run of senders stands. -/
def Sender.after (ops : List DriverOp) : Sender :=
  ops.foldl Sender.step (Sender.start quickCfg 1 64)

theorem trimmedThenSent_reached :
    Run.Reaches Sender.step (fun sender op => sender.admissible op = true)
      (Sender.start quickCfg 1 64) (Sender.after trimmedThenSent) :=
  Run.Reaches.of_admits (by decide +kernel : Run.admits Sender.step Sender.admissible
    (Sender.start quickCfg 1 64) trimmedThenSent = true)

theorem ring_carries_streams_trimmedThenSent :
    (∀ frame ∈ (Sender.after trimmedThenSent).host.engine.txPendingData,
        (Sender.after trimmedThenSent).streams.Backs quickCfg
          ((Sender.after trimmedThenSent).host.engine.frameBytes frame)) ∧
      ((Sender.after trimmedThenSent).host.engine.txPendingData.flatMap TxFrame.segs).Nodup :=
  ring_carries_streams (by decide) trimmedThenSent_reached

/-- What every step of a run offers to the driver carries pieces of the streams, in first
transmissions and in those that follow. -/
theorem bursts_carry_streams (small : cfg.tcpMss ≤ Engine.MAX_FRAMED)
    (run : Run.Reaches Sender.step (fun sender op => sender.admissible op = true)
      (Sender.start cfg maxConnections eventSoftCap) sender) {op : DriverOp}
    (admitted : sender.admissible op = true) :
    ∀ bytes ∈ sender.host.bursts op, (sender.step op).streams.Backs cfg bytes := by
  have cfg := Sender.cfg_of_reaches run
  rw [← cfg] at small ⊢
  exact ((Sender.sound_of_reaches (cfg ▸ small) run).step admitted
    (Sender.framed_of_small small op)).2

/-- The retransmission is offered with the next drain. -/
theorem bursts_carry_streams_trimmedThenSent :
    (Sender.after trimmedThenSent).host.bursts (.system (.call (.flush 1))) ≠ [] ∧
      ∀ bytes ∈ (Sender.after trimmedThenSent).host.bursts (.system (.call (.flush 1))),
        ((Sender.after trimmedThenSent).step (.system (.call (.flush 1)))).streams.Backs quickCfg
          bytes :=
  ⟨by decide +kernel, bursts_carry_streams (by decide) trimmedThenSent_reached (by decide)⟩

/-- Whatever the driver cut off and however often an entry was sent, `retransmit` reads the piece
of the stream the entry stands for. -/
theorem entries_hold_streams (small : cfg.tcpMss ≤ Engine.MAX_FRAMED)
    (run : Run.Reaches Sender.step (fun sender op => sender.admissible op = true)
      (Sender.start cfg maxConnections eventSoftCap) sender) {handle : ConnHandle} {conn : TcpConn}
    {entry : RetransEntry} (live : sender.host.engine.flowTable.get handle = some conn)
    (member : entry ∈ conn.sndRetrans.entries) :
    sender.host.engine.Holds entry ∧ ∃ flow,
      sender.streams handle (sender.host.engine.record.incarnation handle) = some flow ∧
        conn.fourTuple = flow.tuple ∧ 0 < entry.len ∧
        flow.Carries entry.seq (sender.host.engine.entryPayload entry) ∧
        (sender.host.engine.entryPayload entry).length = entry.len :=
  (Sender.sound_of_reaches small run).faithful.holds live member

theorem entries_hold_streams_trimmedThenSent :
    ∃ conn, (Sender.after trimmedThenSent).host.engine.flowTable.get 1 = some conn ∧
      conn.sndRetrans.entries ≠ [] ∧ ∀ entry ∈ conn.sndRetrans.entries,
        (Sender.after trimmedThenSent).host.engine.Holds entry := by
  have known : ((Sender.after trimmedThenSent).host.engine.flowTable.get 1).any
      (fun conn => decide (conn.sndRetrans.entries ≠ [])) = true := by decide +kernel
  rcases (Option.any_eq_true _ _).mp known with ⟨conn, live, waiting⟩
  refine ⟨conn, live, of_decide_eq_true waiting, fun entry member => ?_⟩
  exact (entries_hold_streams (by decide) trimmedThenSent_reached live member).1

end Runs

end DpdkTcp
