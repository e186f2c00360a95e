import DpdkTcp.Lib.Run
import DpdkTcp.Server.Scale
import DpdkTcp.Window.Edge

/-!
# Two stacks and one connection

Two servers run on their own. On the four-tuple of one connection, the segments
with a SYN that each of them is given are those the other one builds, from its own
configuration. What one side decodes from the window of the other is what that
side scaled, if that side was the one to connect. A side that was connected to
does not scale, and is decoded as if it did.
-/

namespace DpdkTcp

/-- The options `emit_syn_with_flags` puts into a SYN and into a SYN-ACK. -/
def EngineConfig.synOptions (cfg : EngineConfig) (ourMss : UInt16) (nowNs : ℕ) : List UInt8 :=
  (buildConnectSynOpts cfg.recvBufferBytes ourMss nowNs cfg.tcpTimestamps cfg.tcpSack).encode

/-- The tuple as the peer has it. -/
def FourTuple.reversed (tuple : FourTuple) : FourTuple :=
  ⟨tuple.peerIp, tuple.peerPort, tuple.localIp, tuple.localPort⟩

/-! ### Decoded options -/

/-- The options of a segment are well formed and carry a shift. -/
def ParsedSegment.CarriesShift (seg : ParsedSegment) (shift : ℕ) : Prop :=
  ∃ opts ws, parseOptions seg.options = .ok opts ∧ opts.wscale = some ws ∧
    min ws.toNat 14 = shift

theorem wsShiftFrom_le (recvBufferBytes left cap shift : ℕ) :
    wsShiftFrom recvBufferBytes left cap shift ≤ shift + left := by
  induction left generalizing cap shift with
  | zero => exact Nat.le_refl _
  | succ left ih =>
      unfold wsShiftFrom
      split
      · have later := ih (2 * cap + 1) (shift + 1)
        omega
      · omega

theorem computeWsShiftFor_le (recvBufferBytes : ℕ) : computeWsShiftFor recvBufferBytes ≤ 14 :=
  (wsShiftFrom_le recvBufferBytes 14 65535 0).trans (by decide)

/-- The options of a handshake segment are read back with the shift of the configuration. -/
theorem carriesShift_of_synOptions {seg : ParsedSegment} {cfg : EngineConfig} {ourMss : UInt16}
    {nowNs : ℕ} (built : seg.options = cfg.synOptions ourMss nowNs) :
    seg.CarriesShift (computeWsShiftFor cfg.recvBufferBytes) := by
  have few := computeWsShiftFor_le cfg.recvBufferBytes
  have small : (UInt8.ofNat (computeWsShiftFor cfg.recvBufferBytes)).toNat =
      computeWsShiftFor cfg.recvBufferBytes := by
    rw [UInt8.toNat_ofNat']
    exact Nat.mod_eq_of_lt (by omega)
  have canonical : (buildConnectSynOpts cfg.recvBufferBytes ourMss nowNs cfg.tcpTimestamps
      cfg.tcpSack).Canonical := by
    refine ⟨?_, Nat.zero_le 4, fun index slot _ => by simp [buildConnectSynOpts]⟩
    rintro shift ⟨⟩
    exact UInt8.le_iff_toNat_le.mpr (small.trans_le few)
  refine ⟨{ buildConnectSynOpts cfg.recvBufferBytes ourMss nowNs cfg.tcpTimestamps cfg.tcpSack with
    wsClamped := false }, UInt8.ofNat (computeWsShiftFor cfg.recvBufferBytes), ?_, rfl, ?_⟩
  · rw [built]
    exact parse_encode canonical
  · rw [small]
    exact Nat.min_eq_left few

/-! ### The shifts of a connection -/

theorem TcpConn.syn_of_takesSynAck (conn : TcpConn) {seg : ParsedSegment}
    (takes : conn.takesSynAck seg = true) : seg.flags.has TCP_SYN = true := by
  simp only [takesSynAck, Bool.and_eq_true] at takes
  exact takes.1.1.1.2

/-- The shifts of a connection between stacks whose handshake segments carry `own` and `peer`. -/
structure TcpConn.Scaled (own peer : ℕ) (conn : TcpConn) : Prop where
  wsShiftOut : conn.wsShiftOut = if conn.isPassiveOpen then 0 else own
  wsShiftIn : conn.isPassiveOpen = true ∨ conn.state.synchronized = true → conn.wsShiftIn = peer
  opening : conn.state = .synReceived → conn.isPassiveOpen = true

namespace TcpConn.Scaled

variable {conn after : TcpConn} {own peer : ℕ}

theorem of_sameScale (scaled : conn.Scaled own peer) (same : SameScale conn after)
    (running : after.state.synchronized = true →
      conn.isPassiveOpen = true ∨ conn.state.synchronized = true)
    (opening : after.state = .synReceived → conn.isPassiveOpen = true) :
    after.Scaled own peer := by
  refine ⟨?_, fun decodes => ?_, fun state => same.isPassiveOpen.trans (opening state)⟩
  · rw [same.wsShiftOut, same.isPassiveOpen]
    exact scaled.wsShiftOut
  · rw [same.wsShiftIn]
    rcases decodes with isPassive | later
    · exact scaled.wsShiftIn (.inl (same.isPassiveOpen ▸ isPassive))
    · exact scaled.wsShiftIn (running later)

/-- A connection that was opened from outside keeps its shifts through any state. -/
theorem of_passive (scaled : conn.Scaled own peer) (same : SameScale conn after)
    (isPassive : conn.isPassiveOpen = true) : after.Scaled own peer :=
  scaled.of_sameScale same (fun _ => .inl isPassive) fun _ => isPassive

/-- A SYN-ACK with the shift of the peer. -/
theorem adoptSynAck (scaled : conn.Scaled own peer) {seg : ParsedSegment} {opts : TcpOpts}
    (decoded : parseOptions seg.options = .ok opts) (carries : seg.CarriesShift peer)
    {nowNs : ℕ} (same : SameScale (DpdkTcp.adoptSynAck conn seg opts nowNs) after)
    (opening : after.state = .synReceived → conn.isPassiveOpen = true) :
    after.Scaled own peer := by
  rcases carries with ⟨parsed, ws, reads, scale, shift⟩
  cases decoded.symm.trans reads
  refine ⟨?_, fun _ => ?_, fun state => same.isPassiveOpen.trans (opening state)⟩
  · rw [same.wsShiftOut, same.isPassiveOpen, DpdkTcp.adoptSynAck, scale]
    exact scaled.wsShiftOut
  · rw [same.wsShiftIn, DpdkTcp.adoptSynAck, scale]
    exact shift

end TcpConn.Scaled

/-- The connection that has the tuple has the shifts of the two stacks. -/
def FlowTable.Scaled (table : FlowTable) (tuple : FourTuple) (own peer : ℕ) : Prop :=
  ∀ handle conn, table.get handle = some conn → conn.fourTuple = tuple → conn.Scaled own peer

/-- A call keeps the shifts, if a SYN for the connection carries the shift of the peer. -/
theorem Host.step_scaled {host : Host} {op : EngineOp} {tuple : FourTuple} {peer : ℕ}
    (scaled : host.engine.flowTable.Scaled tuple
      (computeWsShiftFor host.engine.cfg.recvBufferBytes) peer)
    (heard : ∀ handle conn seg mbufCtx env, op = .segment handle seg mbufCtx env →
      host.engine.flowTable.get handle = some conn → conn.fourTuple = tuple →
      seg.flags.has TCP_SYN = true → seg.CarriesShift peer) :
    (host.step op).engine.flowTable.Scaled tuple
      (computeWsShiftFor host.engine.cfg.recvBufferBytes) peer := by
  intro handle conn' live ends
  have opening : conn'.state = .synReceived → ∀ conn,
      host.engine.flowTable.get handle = some conn → conn.state = .synReceived := by
    intro state conn present
    rcases host.step_synReceived op live state with ⟨_, found, before⟩
    cases found.symm.trans present
    exact before
  have changed := host.step_scale op live
  cases present : host.engine.flowTable.get handle with
  | none =>
      rw [present] at changed
      cases changed with
      | opening active shift state =>
          refine ⟨by rw [active]; exact shift, ?_, fun entered => ?_⟩
          · rintro (isPassive | running)
            · rw [active] at isPassive
              cases isPassive
            · rw [state] at running
              cases running
          · rcases host.step_synReceived op live entered with ⟨_, found, _⟩
            rw [present] at found
            cases found
  | some conn =>
      rw [present] at changed
      cases changed with
      | kept same running =>
          have before := scaled handle conn present (same.fourTuple ▸ ends)
          exact before.of_sameScale same (fun later => .inr (running later))
            fun state => before.opening (opening state conn present)
      | adopted seg mbufCtx env called opts decoded takes same =>
          have tuples : conn.fourTuple = tuple := (same.fourTuple.symm.trans ends)
          have before := scaled handle conn present tuples
          have carries := heard handle conn seg mbufCtx env called present tuples
            (conn.syn_of_takesSynAck takes)
          exact before.adoptSynAck decoded carries same fun state => before.opening (opening state conn present)

/-! ### Runs of a server -/

namespace Server

/-- A segment with a SYN on the tuple is one a stack with the configuration `peer` builds. -/
def Hears (tuple : FourTuple) (peer : EngineConfig) : ServerOp → Prop
  | .receive on seg _ _ _ =>
      on = tuple → seg.flags.has TCP_SYN = true →
        ∃ ourMss nowNs, seg.options = peer.synOptions ourMss nowNs
  | _ => True

/-- The connection the segments of an operation behind the handshake are built from. A connection
in SYN_RECEIVED sends none. -/
def showing (server : Server) (handle : ConnHandle) : ServerOp → Option TcpConn
  | .receive tuple seg mbufCtx env _ =>
      match server.host.engine.flowTable.lookupByTuple tuple with
      | some target =>
          if server.host.engine.stateAt target = some .synReceived then none
          else server.host.showing handle (.segment target seg mbufCtx env)
      | none => none
  | .fireNext env => server.host.showing handle (.fireNext env)
  | .send target bytes envs tlpNs => server.host.showing handle (.send target bytes envs tlpNs)
  | .close target finSent nowNs => server.host.showing handle (.close target finSent nowNs)
  | _ => none

/-- The slots keep their names in a segment of a connection. -/
theorem keys_tcpInput (server : Server) (handle : ConnHandle) (seg : ParsedSegment)
    (mbufCtx : Option MbufInsertCtx) (env : InputEnv) (sent : Bool) :
    (server.tcpInput handle seg mbufCtx env sent).listenSlots.map Prod.fst =
      server.listenSlots.map Prod.fst := by
  have either : ∀ {first second : Server} (chosen : Bool),
      first.listenSlots.map Prod.fst = server.listenSlots.map Prod.fst →
      second.listenSlots.map Prod.fst = server.listenSlots.map Prod.fst →
      (if chosen then first else second).listenSlots.map Prod.fst =
        server.listenSlots.map Prod.fst := by
    intro first second chosen one other
    cases chosen with
    | false => exact other
    | true => exact one
  dsimp only [tcpInput]
  split
  · rfl
  · unfold receiveSideAfter
    lift_lets
    intro waited moved answered promoted cleared relistened resent delivered
    have promoted : promoted.listenSlots.map Prod.fst = server.listenSlots.map Prod.fst :=
      either _ (ListenSlots.keys_changeFirst _ _ _) rfl
    have cleared : cleared.listenSlots.map Prod.fst = server.listenSlots.map Prod.fst :=
      either _ ((ListenSlots.keys_changeFirst _ _ _).trans promoted) promoted
    have relistened : relistened.listenSlots.map Prod.fst = server.listenSlots.map Prod.fst :=
      either _ ((ListenSlots.keys_changeFirst _ _ _).trans cleared) cleared
    exact either _ relistened relistened

/-- The invariant of a server that has the connection `tuple` with a stack whose shift is `peer`. -/
structure Tied (tuple : FourTuple) (cfg : EngineConfig) (peer : ℕ) (server : Server) : Prop where
  configured : server.host.engine.cfg = cfg
  keyed : server.Keyed
  indexed : server.host.engine.flowTable.Indexed
  scaled : server.host.engine.flowTable.Scaled tuple (computeWsShiftFor cfg.recvBufferBytes) peer

namespace Tied

variable {server : Server} {tuple : FourTuple} {cfg : EngineConfig} {peer : ℕ}

theorem start (tuple : FourTuple) (cfg : EngineConfig) (peer maxConnections eventSoftCap : ℕ) :
    (Server.start cfg maxConnections eventSoftCap).Tied tuple cfg peer := by
  have empty := Host.get_start cfg maxConnections eventSoftCap
  refine ⟨rfl, ⟨List.nodup_nil, fun _ => nofun⟩, .of_empty (fun _ => rfl) empty, ?_⟩
  intro handle conn live
  rw [show (Server.start cfg maxConnections eventSoftCap).host.engine.flowTable.get handle = none
    from empty handle] at live
  cases live

/-- A step of the host. -/
theorem of_host (tied : server.Tied tuple cfg peer) {after : Server} (op : EngineOp)
    (host : after.host = server.host.step op) (keyed : after.Keyed)
    (heard : ∀ handle conn seg mbufCtx env, op = .segment handle seg mbufCtx env →
      server.host.engine.flowTable.get handle = some conn → conn.fourTuple = tuple →
      seg.flags.has TCP_SYN = true → seg.CarriesShift peer) : after.Tied tuple cfg peer := by
  have scaled := tied.scaled
  rw [← tied.configured] at scaled
  have later := Host.step_scaled scaled heard
  rw [tied.configured] at later
  refine ⟨?_, keyed, ?_, ?_⟩ <;> rw [host]
  · exact (server.host.step_cfg op).trans tied.configured
  · exact Host.step_indexed tied.indexed op
  · exact later

/-- A call that gives no segment to a connection. -/
theorem call (tied : server.Tied tuple cfg peer) (op : EngineOp)
    (beside : ∀ handle seg mbufCtx env, op ≠ .segment handle seg mbufCtx env) :
    (server.call op).Tied tuple cfg peer :=
  tied.of_host op rfl ⟨tied.keyed.keys, tied.keyed.fresh⟩
    fun handle _ seg mbufCtx env called => absurd called (beside handle seg mbufCtx env)

/-- A segment of a connection of the server. -/
theorem segment (tied : server.Tied tuple cfg peer) {handle : ConnHandle} {conn : TcpConn}
    (present : server.host.engine.flowTable.get handle = some conn) {seg : ParsedSegment}
    (heard : conn.fourTuple = tuple → seg.flags.has TCP_SYN = true → seg.CarriesShift peer)
    (mbufCtx : Option MbufInsertCtx) (env : InputEnv) (sent : Bool) :
    (server.tcpInput handle seg mbufCtx env sent).Tied tuple cfg peer := by
  have keyed : (server.tcpInput handle seg mbufCtx env sent).Keyed :=
    tied.keyed.of_same (server.keys_tcpInput handle seg mbufCtx env sent)
      (tcpInput_frame server handle seg mbufCtx env sent).2
  by_cases opening : conn.state = .synReceived
  · have upholds := tcpInput_upholds present opening seg mbufCtx env sent
    refine ⟨upholds.cfg.trans tied.configured, keyed, upholds.indexed tied.indexed, ?_⟩
    intro other conn' live ends
    rcases upholds.scale other conn' live with ⟨before, found, same, alone⟩
    have scaled := tied.scaled other before found (same.fourTuple ▸ ends)
    by_cases here : other = handle
    · subst here
      cases present.symm.trans found
      exact scaled.of_passive same (scaled.opening opening)
    · rw [alone here]
      exact scaled
  · have host : (server.tcpInput handle seg mbufCtx env sent).host =
        server.host.step (.segment handle seg mbufCtx env) := by
      rw [tcpInput_running present opening]
      rfl
    refine tied.of_host (.segment handle seg mbufCtx env) host keyed ?_
    · rintro other conn' _ _ _ ⟨⟩ found ends syn
      cases present.symm.trans found
      exact heard ends syn

/-- A SYN that may open a connection. -/
theorem synListen (tied : server.Tied tuple cfg peer) {listenHandle : ListenHandle}
    {slot : ListenSlot} (listens : (listenHandle, slot) ∈ server.listenSlots)
    {peerIp : BitVec 32} {peerPort : UInt16} {issPeer : Seq} {opts : TcpOpts} {env : ListenEnv}
    (shift : (⟨slot.localIp, slot.localPort, peerIp, peerPort⟩ : FourTuple) = tuple →
      min ((opts.wscale.getD 0).toNat) 14 = peer) :
    (server.handleInboundSynListen listenHandle peerIp peerPort issPeer opts env).1.Tied tuple cfg
      peer := by
  unfold handleInboundSynListen
  split
  · exact tied
  · rename_i key found listed
    have same : found = slot := by
      have here := List.mem_of_find?_eq_some listed
      have own : key = listenHandle := by simpa using List.find?_some listed
      have one := List.inj_on_of_nodup_map tied.keyed.keys here listens own
      exact congrArg Prod.snd one
    subst same
    split
    · exact tied
    · dsimp only
      split
      · exact tied
      · rename_i handle inserted
        rcases Engine.opened_scale (Prod.ext rfl inserted : server.host.engine.flowTable.insert
          (server.host.engine.passive ⟨found.localIp, found.localPort, peerIp, peerPort⟩ env.iss
            issPeer opts env.nowNs) = (_, some handle)) env.synAckSent env.nowNs with
          ⟨configured, indexed, conns⟩
        refine ⟨configured.trans tied.configured,
          tied.keyed.of_same (ListenSlots.keys_changeFirst _ _ _) rfl, indexed tied.indexed, ?_⟩
        intro other conn' live ends
        rcases conns other conn' live with same | before
        · have new : (server.host.engine.passive
              ⟨found.localIp, found.localPort, peerIp, peerPort⟩ env.iss issPeer opts
              env.nowNs).Scaled (computeWsShiftFor cfg.recvBufferBytes) peer :=
            ⟨rfl, fun _ => shift (same.fourTuple.symm.trans ends), fun _ => rfl⟩
          exact new.of_passive same rfl
        · exact tied.scaled other conn' before ends

/-- The connection the index finds for a tuple has that tuple. -/
theorem found (tied : server.Tied tuple cfg peer) {on : FourTuple} {handle : ConnHandle}
    (known : server.host.engine.flowTable.lookupByTuple on = some handle) :
    ∃ conn, server.host.engine.flowTable.get handle = some conn ∧ conn.fourTuple = on :=
  (tied.indexed on handle).mp known

theorem receive (tied : server.Tied tuple cfg peer) {on : FourTuple} {seg : ParsedSegment}
    {mbufCtx : Option MbufInsertCtx} {env : InputEnv} {listenEnv : ListenEnv}
    (heard : on = tuple → seg.flags.has TCP_SYN = true → seg.CarriesShift peer) :
    (server.receive on seg mbufCtx env listenEnv).Tied tuple cfg peer := by
  unfold Server.receive
  split
  · rename_i handle known
    rcases tied.found known with ⟨conn, present, ends⟩
    exact tied.segment present (fun same => heard (ends.symm.trans same)) mbufCtx env _
  · split
    · rename_i asks
      have syn : seg.flags.has TCP_SYN = true := (Bool.and_eq_true_iff.mp asks).1
      split
      · rename_i listenHandle slot matched
        have serves := List.find?_some matched
        simp only [Bool.and_eq_true, decide_eq_true_eq] at serves
        rcases serves with ⟨ip, port⟩
        refine tied.synListen (List.mem_of_find?_eq_some matched) fun same => ?_
        rw [ip, port] at same
        rcases heard same syn with ⟨opts, ws, decoded, scale, shift⟩
        rw [decoded, Except.toOption, Option.getD_some, scale]
        exact shift
      · exact tied
    · exact tied

theorem step (tied : server.Tied tuple cfg peer) {op : ServerOp} {peerCfg : EngineConfig}
    (shift : computeWsShiftFor peerCfg.recvBufferBytes = peer) (heard : Hears tuple peerCfg op) :
    (server.step op).Tied tuple cfg peer := by
  cases op with
  | listen ip port =>
      have host : (server.listen ip port).1.host = server.host := by
        unfold Server.listen
        split
        · rfl
        · split <;> rfl
      refine ⟨?_, tied.keyed.listen ip port, ?_, ?_⟩ <;> dsimp only [Server.step] <;> rw [host]
      · exact tied.configured
      · exact tied.indexed
      · exact tied.scaled
  | acceptNext listenHandle =>
      dsimp only [Server.step, Server.acceptNext]
      split
      · exact tied
      · exact ⟨tied.configured, tied.keyed.of_same (ListenSlots.keys_changeFirst _ _ _) rfl,
          tied.indexed, tied.scaled⟩
  | receive on seg mbufCtx env listenEnv =>
      refine tied.receive fun same syn => ?_
      rcases heard same syn with ⟨ourMss, nowNs, built⟩
      exact shift ▸ carriesShift_of_synOptions built
  | fireNext env =>
      dsimp only [Server.step, Server.fireNext]
      split
      · exact tied
      · refine tied.of_host (.fireNext env) (by exact rfl) (tied.keyed.of_same ?_ rfl) ?_
        · dsimp only
          split
          · exact ListenSlots.keys_changeFirst _ _ _
          · rfl
        · exact fun _ _ _ _ _ called => by cases called
  | advance nowNs => exact tied.call (.advance nowNs) nofun
  | connect on iss ourMss opts synSent nowNs =>
      exact tied.call (.connect on iss ourMss opts synSent nowNs) nofun
  | send handle bytes envs tlpNs => exact tied.call (.send handle bytes envs tlpNs) nofun
  | close handle finSent nowNs => exact tied.call (.close handle finSent nowNs) nofun
  | twSkip handle nowNs => exact tied.call (.twSkip handle nowNs) nofun
  | flush sent => exact tied.call (.flush sent) nofun
  | reap nowNs => exact tied.call (.reap nowNs) nofun

/-- A segment is built from a connection with the shifts of the two stacks. -/
theorem showing (tied : server.Tied tuple cfg peer) {op : ServerOp} {peerCfg : EngineConfig}
    (heard : Hears tuple peerCfg op)
    {handle : ConnHandle} {sender : TcpConn} (sends : server.showing handle op = some sender)
    (ends : sender.fourTuple = tuple) :
    sender.wsShiftOut =
      if sender.isPassiveOpen then 0 else computeWsShiftFor cfg.recvBufferBytes := by
  have own : ∀ call, (∀ seg mbufCtx env, call ≠ .segment handle seg mbufCtx env) →
      server.host.showing handle call = some sender →
      sender.wsShiftOut =
        if sender.isPassiveOpen then 0 else computeWsShiftFor cfg.recvBufferBytes := by
    intro call beside sends
    rcases Ledger.shown_of_showing sends with ⟨conn, present, shown⟩
    cases shown with
    | own => exact (tied.scaled handle sender present ends).wsShiftOut
    | answer seg mbufCtx env called => exact absurd called (beside seg mbufCtx env)
  cases op with
  | receive on seg mbufCtx env listenEnv =>
      dsimp only [Server.showing] at sends
      split at sends
      · rename_i target known
        rcases tied.found known with ⟨conn, present, reached⟩
        split at sends
        · cases sends
        · rcases Ledger.shown_of_showing sends with ⟨conn', present', shown⟩
          cases shown with
          | own => exact (tied.scaled handle sender present' ends).wsShiftOut
          | answer _ _ _ called dispatched processed =>
              cases called
              have same := present.symm.trans present'
              cases same
              rcases dispatch_scale conn seg env.clock _ mbufCtx processed with
                ⟨same, _⟩ | ⟨opts, decoded, takes, same⟩
              · rw [same.wsShiftOut, same.isPassiveOpen]
                exact (tied.scaled handle conn present (same.fourTuple ▸ ends)).wsShiftOut
              · have tuples : conn.fourTuple = tuple := same.fourTuple.symm.trans ends
                rcases heard (reached.symm.trans tuples) (conn.syn_of_takesSynAck takes) with
                  ⟨ourMss, nowNs, built⟩
                rcases carriesShift_of_synOptions built with ⟨parsed, ws, reads, scale, _⟩
                cases decoded.symm.trans reads
                rw [same.wsShiftOut, same.isPassiveOpen, DpdkTcp.adoptSynAck, scale]
                exact (tied.scaled handle conn present tuples).wsShiftOut
      · cases sends
  | fireNext env => exact own (.fireNext env) (by rintro _ _ _ ⟨⟩) sends
  | send target bytes envs tlpNs => exact own (.send target bytes envs tlpNs) (by rintro _ _ _ ⟨⟩) sends
  | close target finSent nowNs => exact own (.close target finSent nowNs) (by rintro _ _ _ ⟨⟩) sends
  | _ => cases sends

end Tied

end Server

/-! ### What the other side decodes -/

/-- What the receiver decodes from the window of a segment of the sender is what the sender has
free, up to the rounding and the limit of a window that is scaled by `shift`. -/
def TcpConn.DecodedBy (sender receiver : TcpConn) (shift : ℕ) : Prop :=
  let decoded := sender.advertisedWindow * 2 ^ receiver.wsShiftIn
  decoded ≤ sender.recv.freeSpaceTotal ∧
    min sender.recv.freeSpaceTotal (65535 * 2 ^ shift) < decoded + 2 ^ shift

/-- Whether a window is decoded as it was meant can be computed. -/
instance (sender receiver : TcpConn) (shift : ℕ) : Decidable (sender.DecodedBy receiver shift) :=
  inferInstanceAs (Decidable (_ ∧ _))

section Decoding

variable {sender receiver : TcpConn} {shift : ℕ}

/-- A window scaled by the shift it is decoded with. -/
theorem decodedBy_of_scaled (scaled : sender.wsShiftOut = shift)
    (decodes : receiver.wsShiftIn = shift) : sender.DecodedBy receiver shift := by
  have window := sender.offered_advert 0
  have offered : (sender.advert 0).offered = sender.advertisedWindow * 2 ^ shift := by
    rw [Advert.offered, TcpConn.advert, scaled]
  rw [offered, TcpConn.reach, scaled] at window
  dsimp only [TcpConn.DecodedBy]
  rw [decodes]
  exact ⟨window.1.trans (Nat.min_le_left _ _), window.2⟩

/-- A window that is not scaled and decoded as if it were. -/
theorem decodedBy_unscaled_iff (unscaled : sender.wsShiftOut = 0)
    (decodes : receiver.wsShiftIn = shift) :
    sender.DecodedBy receiver shift ↔
      shift = 0 ∨ sender.recv.freeSpaceTotal = 0 ∨
        65535 * 2 ^ shift ≤ sender.recv.freeSpaceTotal := by
  dsimp only [TcpConn.DecodedBy, TcpConn.advertisedWindow]
  rw [unscaled, decodes, Nat.pow_zero, Nat.div_one]
  generalize sender.recv.freeSpaceTotal = free
  cases shift with
  | zero =>
      rw [Nat.pow_zero, Nat.mul_one, Nat.mul_one]
      exact iff_of_true ⟨Nat.min_le_left _ _, Nat.lt_succ_self _⟩ (.inl rfl)
  | succ shift =>
      have grows : 1 ≤ 2 ^ shift := Nat.one_le_two_pow
      have doubled : 2 ^ (shift + 1) = 2 * 2 ^ shift := by rw [Nat.pow_succ, Nat.mul_comm]
      by_cases much : 65535 ≤ free
      · rw [Nat.min_eq_right much]
        constructor
        · exact fun decoded => .inr (.inr decoded.1)
        · rintro (none | empty | room)
          · cases none
          · omega
          · exact ⟨room, by omega⟩
      · rw [Nat.min_eq_left (by omega)]
        constructor
        · rintro ⟨few, _⟩
          by_contra other
          have some : 1 ≤ free := by omega
          have more : free * 2 ≤ free * 2 ^ (shift + 1) := Nat.mul_le_mul_left free (by omega)
          omega
        · rintro (none | empty | room)
          · cases none
          · rw [empty, Nat.zero_mul]
            exact ⟨Nat.le_refl 0, by omega⟩
          · omega

end Decoding

namespace Server

/-- Two servers have a connection: what one decodes from a segment of the other is what that one
has free, just if the sender opened the connection, or scaling makes no difference. -/
theorem decoded_window_iff {tuple : FourTuple} {cfg peerCfg : EngineConfig}
    {maxConnections eventSoftCap maxPeerConnections peerSoftCap : ℕ} {server peer : Server}
    (run : Run.Reaches step (fun _ op => Hears tuple peerCfg op)
      (start cfg maxConnections eventSoftCap) server)
    (peerRun : Run.Reaches step (fun _ op => Hears tuple.reversed cfg op)
      (start peerCfg maxPeerConnections peerSoftCap) peer)
    {op : ServerOp} (heard : Hears tuple peerCfg op) {handle peerHandle : ConnHandle}
    {sender receiver : TcpConn} (sends : server.showing handle op = some sender)
    (ends : sender.fourTuple = tuple)
    (live : peer.host.engine.flowTable.get peerHandle = some receiver)
    (reversed : receiver.fourTuple = tuple.reversed)
    (running : receiver.state.synchronized = true) :
    sender.DecodedBy receiver (computeWsShiftFor cfg.recvBufferBytes) ↔
      (sender.isPassiveOpen = true →
        computeWsShiftFor cfg.recvBufferBytes = 0 ∨ sender.recv.freeSpaceTotal = 0 ∨
          65535 * 2 ^ computeWsShiftFor cfg.recvBufferBytes ≤ sender.recv.freeSpaceTotal) := by
  have tied : server.Tied tuple cfg (computeWsShiftFor peerCfg.recvBufferBytes) :=
    run.invariant (Tied.start tuple cfg _ maxConnections eventSoftCap) fun _ _ tied heard =>
      tied.step rfl heard
  have peerTied : peer.Tied tuple.reversed peerCfg (computeWsShiftFor cfg.recvBufferBytes) :=
    peerRun.invariant (Tied.start tuple.reversed peerCfg _ maxPeerConnections peerSoftCap)
      fun _ _ tied heard => tied.step rfl heard
  have decodes := (peerTied.scaled peerHandle receiver live reversed).wsShiftIn (.inr running)
  have scales := tied.showing heard sends ends
  cases isPassive : sender.isPassiveOpen with
  | false =>
      rw [isPassive, if_neg Bool.false_ne_true] at scales
      exact ⟨fun _ => nofun, fun _ => decodedBy_of_scaled scales decodes⟩
  | true =>
      rw [isPassive, if_pos rfl] at scales
      rw [decodedBy_unscaled_iff scales decodes]
      exact ⟨fun agrees _ => agrees, fun agrees => agrees rfl⟩

/-- A configuration with a receive buffer of 128 KiB, which takes a shift of two. -/
def wideCfg : EngineConfig :=
  { quickCfg with recvBufferBytes := 131072 }

/-- The listening end of a connection. -/
def listeningEnd : FourTuple :=
  ⟨0x0a000001#32, 5000, 0x0a000002#32, 40000⟩

/-- A segment with the options of a stack reaches the end of a connection. -/
def arrivesOn (on : FourTuple) (nowNs : ℕ) (seq ack : Seq) (flags : Flags) (options : List UInt8) :
    ServerOp :=
  .receive on { peerSegment seq ack flags 65535 [] with options := options } none (inputAt nowNs)
    ⟨500#32, true, nowNs⟩

/-- The listening end takes a SYN and the ACK of its SYN-ACK. -/
def listeningRun : List ServerOp :=
  [.listen 0x0a000001#32 5000,
    arrivesOn listeningEnd 2000 100#32 0#32 TCP_SYN (quickCfg.synOptions 1460 1000),
    arrivesOn listeningEnd 4000 101#32 501#32 TCP_ACK []]

/-- The other end connects and takes the SYN-ACK. -/
def connectingRun : List ServerOp :=
  [.connect listeningEnd.reversed 100#32 1460 ⟨false, false, 0, 0, false, 0, false⟩ true 1000,
    arrivesOn listeningEnd.reversed 3000 500#32 101#32 (TCP_SYN ||| TCP_ACK)
      (wideCfg.synOptions 1460 2000)]

theorem reaches_listeningRun :
    Run.Reaches step (fun _ op => Hears listeningEnd quickCfg op) (start wideCfg 4 64)
      (listeningRun.foldl step (start wideCfg 4 64)) := by
  simp only [listeningRun, List.foldl_cons, List.foldl_nil]
  refine ((Run.Reaches.refl.tail _ ?_).tail _ ?_).tail _ ?_
  · trivial
  · exact fun _ _ => ⟨1460, 1000, rfl⟩
  · exact fun _ syn => absurd syn (by decide)

theorem reaches_connectingRun :
    Run.Reaches step (fun _ op => Hears listeningEnd.reversed wideCfg op) (start quickCfg 4 64)
      (connectingRun.foldl step (start quickCfg 4 64)) := by
  simp only [connectingRun, List.foldl_cons, List.foldl_nil]
  refine (Run.Reaches.refl.tail _ ?_).tail _ ?_
  · trivial
  · exact fun _ _ => ⟨1460, 2000, rfl⟩

/-- The listening end sends three bytes. -/
def sendsThree : ServerOp :=
  .send 1 [1, 2, 3] (fun _ => ⟨some 7, true, 0, 5000, 5000⟩) 5000

/-- The connection of the listening end the three bytes are sent from, and the connection of the
other end. -/
theorem ends_of_runs :
    ∃ sender receiver,
      (listeningRun.foldl step (start wideCfg 4 64)).showing 1 sendsThree = some sender ∧
        sender.fourTuple = listeningEnd ∧
        (connectingRun.foldl step (start quickCfg 4 64)).host.engine.flowTable.get 1 =
          some receiver ∧
        receiver.fourTuple = listeningEnd.reversed ∧ receiver.state.synchronized = true ∧
        sender.isPassiveOpen = true ∧ sender.advertisedWindow = 65535 ∧
        sender.recv.freeSpaceTotal = 131072 ∧ receiver.wsShiftIn = 2 := by
  have sends : ((listeningRun.foldl step (start wideCfg 4 64)).showing 1 sendsThree).any
      (fun sender => decide (sender.fourTuple = listeningEnd ∧ sender.isPassiveOpen = true ∧
        sender.advertisedWindow = 65535 ∧ sender.recv.freeSpaceTotal = 131072)) = true := by
    decide +kernel
  have lives : ((connectingRun.foldl step (start quickCfg 4 64)).host.engine.flowTable.get 1).any
      (fun receiver => decide (receiver.fourTuple = listeningEnd.reversed ∧
        receiver.state.synchronized = true ∧ receiver.wsShiftIn = 2)) = true := by
    decide +kernel
  rcases (Option.any_eq_true _ _).mp sends with ⟨sender, shown, sending⟩
  rcases (Option.any_eq_true _ _).mp lives with ⟨receiver, live, receiving⟩
  rcases of_decide_eq_true sending with ⟨ends, isPassive, window, free⟩
  rcases of_decide_eq_true receiving with ⟨reversed, running, shift⟩
  exact ⟨sender, receiver, shown, ends, live, reversed, running, isPassive, window, free, shift⟩

/-- Each of the two ends of the runs above is not what the other decodes. -/
theorem decoded_window_iff_runs :
    ∃ sender receiver : TcpConn, sender.isPassiveOpen = true ∧
      (sender.DecodedBy receiver (computeWsShiftFor wideCfg.recvBufferBytes) ↔
        (sender.isPassiveOpen = true →
          computeWsShiftFor wideCfg.recvBufferBytes = 0 ∨ sender.recv.freeSpaceTotal = 0 ∨
            65535 * 2 ^ computeWsShiftFor wideCfg.recvBufferBytes ≤
              sender.recv.freeSpaceTotal)) := by
  rcases ends_of_runs with ⟨sender, receiver, sends, ends, live, reversed, running, isPassive, _⟩
  have heard : Hears listeningEnd quickCfg sendsThree := trivial
  exact ⟨sender, receiver, isPassive, decoded_window_iff reaches_listeningRun reaches_connectingRun
    heard sends ends live reversed running⟩

/-- A listening end with 128 KiB free is decoded as one with almost 256 KiB. -/
theorem decoded_window_exceeds :
    ¬ ∀ server peer : Server,
      Run.Reaches step (fun _ op => Hears listeningEnd quickCfg op) (start wideCfg 4 64) server →
      Run.Reaches step (fun _ op => Hears listeningEnd.reversed wideCfg op) (start quickCfg 4 64)
        peer →
      ∀ op, Hears listeningEnd quickCfg op → ∀ handle peerHandle sender receiver,
        server.showing handle op = some sender → sender.fourTuple = listeningEnd →
        peer.host.engine.flowTable.get peerHandle = some receiver →
        receiver.fourTuple = listeningEnd.reversed → receiver.state.synchronized = true →
          sender.DecodedBy receiver (computeWsShiftFor wideCfg.recvBufferBytes) := by
  intro agrees
  rcases ends_of_runs with
    ⟨sender, receiver, sends, ends, live, reversed, running, _, window, free, shift⟩
  have within := (agrees _ _ reaches_listeningRun reaches_connectingRun sendsThree trivial 1 1
    sender receiver sends ends live reversed running).1
  rw [window, free, shift] at within
  exact absurd within (by decide)

end Server

end DpdkTcp
