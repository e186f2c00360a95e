import DpdkTcp.Server.Slots

/-!
# Runs of a server

Every operation keeps the invariant of the slots, where a SYN that opens a
connection is answered and no connection is reset or used before it is accepted.
-/

namespace DpdkTcp

namespace Server

/-! ### Calls and segments of open connections -/

/-- `tcp_input` of a connection that is not under a handshake from outside. -/
theorem tcpInput_running {server : Server} {handle : ConnHandle} {conn : TcpConn}
    (present : server.host.engine.flowTable.get handle = some conn)
    (running : conn.state ≠ .synReceived) (seg : ParsedSegment)
    (mbufCtx : Option MbufInsertCtx) (env : InputEnv) (sent : Bool) :
    server.tcpInput handle seg mbufCtx env sent =
      { server.call (.segment handle seg mbufCtx env) with
        listenSlots :=
          if (dispatch conn seg env.clock server.host.engine.cfg.sendBufferBytes
              mbufCtx).outcome.connected then
            server.listenSlots.listenPromoteToAcceptQueue handle
          else server.listenSlots } := by
  have plain : serverDispatch conn seg env.clock server.host.engine.cfg.sendBufferBytes mbufCtx =
      { conn := (dispatch conn seg env.clock server.host.engine.cfg.sendBufferBytes mbufCtx).conn
        outcome :=
          { toOutcome :=
              (dispatch conn seg env.clock server.host.engine.cfg.sendBufferBytes
                mbufCtx).outcome }
        refUpdates :=
          (dispatch conn seg env.clock server.host.engine.cfg.sendBufferBytes
            mbufCtx).refUpdates } := if_neg running
  dsimp only [tcpInput, call, Host.step, Engine.tcpInput]
  rw [present]
  dsimp only
  rw [plain]
  dsimp only [receiveSideAfter, Engine.receiveSideAfter, Engine.deliverEvents,
    ServerDispatched.plain]
  generalize dispatch conn seg env.clock server.host.engine.cfg.sendBufferBytes mbufCtx =
    dispatched
  cases connected : dispatched.outcome.connected with
  | false =>
      simp only [Bool.false_eq_true, if_false, Bool.false_and]
      rfl
  | true =>
      simp only [Bool.false_eq_true, if_false, if_true, Bool.false_and]
      rfl

/-- The timers that wait for their handlers and the count of slots are untouched. -/
def SameFrame (before after : Server) : Prop :=
  after.host.pending = before.host.pending ∧ after.nextListenId = before.nextListenId

theorem receiveSideAfter_frame (server : Server) (handle : ConnHandle) (outcome : ServerOutcome)
    (env : InputEnv) (sent : Bool) :
    SameFrame server (server.receiveSideAfter handle outcome env sent) := by
  have either : ∀ {first second : Server} (chosen : Bool), SameFrame server first →
      SameFrame server second → SameFrame server (if chosen then first else second) := by
    intro first second chosen one other
    cases chosen with
    | false => exact other
    | true => exact one
  unfold receiveSideAfter
  lift_lets
  intro waited moved answered promoted cleared relistened resent delivered
  have promoted : SameFrame server promoted := either _ ⟨rfl, rfl⟩ ⟨rfl, rfl⟩
  have cleared : SameFrame server cleared := either _ promoted promoted
  have relistened : SameFrame server relistened := either _ cleared cleared
  have resent : SameFrame server resent := either _ relistened relistened
  exact resent

theorem tcpInput_frame (server : Server) (handle : ConnHandle) (seg : ParsedSegment)
    (mbufCtx : Option MbufInsertCtx) (env : InputEnv) (sent : Bool) :
    SameFrame server (server.tcpInput handle seg mbufCtx env sent) := by
  dsimp only [tcpInput]
  split
  · exact ⟨rfl, rfl⟩
  · exact receiveSideAfter_frame _ handle _ env sent

namespace Sound

variable {server : Server} {handle : ConnHandle}

theorem advance (sound : server.Sound) (nowNs : ℕ) : (server.call (.advance nowNs)).Sound := by
  refine sound.of_same_slots _ (server.host.secures_advance nowNs) ?_ rfl rfl
    (fun _ _ => ⟨fun _ _ => .inl trivial, fun _ _ => .inl trivial⟩)
    fun handle conn live opening => ⟨conn, live, opening⟩
  exact ⟨Host.Timed.step sound.order.timed (.advance nowNs), sound.order.listed⟩

/-- A call that concerns no connection a slot names. -/
theorem call (sound : server.Sound) {op : EngineOp} (still : ∀ nowNs, op ≠ .advance nowNs)
    (idle : ∀ env, op ≠ .fireNext env)
    (beside : ∀ handle, server.named handle = true → server.host.alone op handle) :
    (server.call op).Sound := by
  have leaves := server.host.step_leavesAlone op still
  have pending : (server.host.step op).pending = server.host.pending := by
    cases op with
    | advance nowNs => exact absurd rfl (still nowNs)
    | fireNext env => exact absurd rfl (idle env)
    | _ => rfl
  have named : ∀ entry ∈ server.listenSlots, ∀ handle, entry.2.names handle = true →
      server.host.alone op handle := fun entry member handle names =>
    beside handle (List.any_eq_true.mpr ⟨entry, member, names⟩)
  refine sound.of_same_slots _ (.of_leaves sound.order leaves ?_) ?_ rfl rfl ?_
    fun handle conn' live opening => server.host.step_synReceived op live opening
  · intro _ id node _ _ _ _ member _ _
    exact pending ▸ member
  · exact (congrArg (Engine.InOrder _) pending).mpr (leaves.order sound.order)
  · intro entry member
    exact ⟨fun handle inProgress => .inl (named entry member handle (by
        simp [ListenSlot.names, inProgress])),
      fun handle acceptQueue => .inl (named entry member handle (by
        simp [ListenSlot.names, acceptQueue]))⟩

/-- A segment of a connection whose handshake is not from outside, or is over. -/
theorem segment (sound : server.Sound) {conn : TcpConn}
    (present : server.host.engine.flowTable.get handle = some conn)
    (running : conn.state ≠ .synReceived) {seg : ParsedSegment}
    (unreset : server.named handle = true → conn.resetBy seg = false)
    (mbufCtx : Option MbufInsertCtx) (env : InputEnv) (sent : Bool) :
    (server.tcpInput handle seg mbufCtx env sent).Sound := by
  have elsewhere : ∀ entry ∈ server.listenSlots, entry.2.inProgress ≠ some handle := by
    intro entry member inProgress
    rcases (sound.keeps entry member).inProgress handle inProgress with
      ⟨conn', _, present', opening, _⟩
    cases present.symm.trans present'
    exact running opening.state
  have slots : (server.tcpInput handle seg mbufCtx env sent).listenSlots = server.listenSlots := by
    rw [tcpInput_running present running]
    dsimp only
    split
    · rw [ListenSlots.listenPromoteToAcceptQueue,
        ListenSlots.changeFirst_eq_map (sound.one_slot handle)]
      refine (List.map_congr_left fun entry member => ?_).trans (List.map_id _)
      exact if_neg (by simpa using elsewhere entry member)
    · rfl
  have host : (server.tcpInput handle seg mbufCtx env sent).host =
      server.host.step (.segment handle seg mbufCtx env) := by
    rw [tcpInput_running present running]
    rfl
  have next : (server.tcpInput handle seg mbufCtx env sent).nextListenId =
      server.nextListenId := by
    rw [tcpInput_running present running]
    rfl
  have leaves := server.host.step_leavesAlone (.segment handle seg mbufCtx env) nofun
  refine sound.of_same_slots (· ≠ handle) ?_ ?_ slots next ?_ ?_
  · rw [host]
    exact .of_leaves sound.order leaves fun _ _ _ _ _ _ _ member _ _ => member
  · rw [host]
    exact leaves.order sound.order
  · intro entry member
    refine ⟨fun other inProgress => .inl ?_, fun other acceptQueue => ?_⟩
    · rintro rfl
      exact elsewhere entry member inProgress
    · by_cases same : other = handle
      · subst same
        rcases (sound.keeps entry member).acceptQueue other acceptQueue with
          ⟨conn', present', completed, serves⟩
        cases present.symm.trans present'
        have isNamed : server.named other = true := List.any_eq_true.mpr ⟨entry, member, by
          simp [ListenSlot.names, acceptQueue]⟩
        rcases Engine.Awaits.tcpInput present completed (unreset isNamed) mbufCtx env with
          ⟨after, live, waits, tuple⟩
        rw [host]
        exact .inr ⟨after, live, waits, tuple ▸ serves⟩
      · exact .inl same
  · intro other conn' live opening
    rw [host] at live
    exact server.host.step_synReceived _ live opening

/-! ### Handshakes -/

/-- No slot queues the connection of a handshake. -/
theorem beside_handshake (sound : server.Sound) {slot : ListenSlot}
    (opens : server.host.Opens slot handle) {other : ListenHandle × ListenSlot}
    (member : other ∈ server.listenSlots) : other.2.acceptQueue ≠ some handle :=
  fun acceptQueue => opens.not_queues ((sound.keeps other member).acceptQueue handle acceptQueue)

/-- A slot is changed at the handle of a handshake: its own place is cleared, and
at most the handle is put into the queue. -/
theorem of_handshake (sound : server.Sound) {after : Server} {conn : TcpConn}
    {change : ListenSlot → ListenSlot}
    (secures : Host.Secures (· ≠ handle) server.host after.host)
    (order : after.host.engine.InOrder after.host.pending)
    (next : after.nextListenId = server.nextListenId)
    (slots : after.listenSlots =
      server.listenSlots.changeFirst (fun entry => entry.2.inProgress = some handle) change)
    (endpoint : ∀ slot, (change slot).endpoint = slot.endpoint)
    (cleared : ∀ slot, (change slot).inProgress = none)
    (queued : ∀ entry ∈ server.listenSlots, entry.2.inProgress = some handle →
      (change entry.2).acceptQueue = entry.2.acceptQueue ∨
        (change entry.2).acceptQueue = some handle ∧ after.host.Queues entry.2 handle)
    (present : server.host.engine.flowTable.get handle = some conn)
    (opening : conn.state = .synReceived)
    (others : ∀ other, other ≠ handle → after.host.engine.flowTable.get other =
      server.host.engine.flowTable.get other)
    (ended : ∀ conn', after.host.engine.flowTable.get handle = some conn' →
      conn'.state ≠ .synReceived) : after.Sound := by
  rcases sound.passive handle conn present opening with ⟨own, ownMember, ownNamed⟩
  have opens := (sound.keeps own ownMember).inProgress handle ownNamed
  refine sound.of_secures _ secures order
    (slots ▸ ListenSlots.keys_changeFirst _ _ _) next
    (slots ▸ ListenSlots.endpoints_changeFirst _ _ endpoint) ?_ ?_
  · intro entry' member'
    rw [slots, ListenSlots.changeFirst_eq_map (sound.one_slot handle)] at member'
    rcases List.mem_map.mp member' with ⟨entry, member, rfl⟩
    have unqueued := sound.beside_handshake opens member
    by_cases chosen : entry.2.inProgress = some handle
    · rw [if_pos (decide_eq_true chosen)]
      refine ⟨entry, member, endpoint entry.2, fun other named => ?_, fun other named => ?_⟩
      · have none : (change entry.2).inProgress = some other := named
        rw [cleared] at none
        cases none
      · rcases queued entry member chosen with same | ⟨new, queues⟩
        · have before : entry.2.acceptQueue = some other := same.symm.trans named
          exact .inl ⟨before, fun here => unqueued (here ▸ before)⟩
        · cases new.symm.trans named
          exact .inr (queues.congr (endpoint entry.2))
    · rw [if_neg (by simpa using chosen)]
      exact ⟨entry, member, rfl, fun other named => .inl ⟨named, fun here => chosen (here ▸ named)⟩,
        fun other named => .inl ⟨named, fun here => unqueued (here ▸ named)⟩⟩
  · intro other conn' live synReceived
    have elsewhere : other ≠ handle := by
      rintro rfl
      exact ended conn' live synReceived
    rw [others other elsewhere] at live
    rcases sound.passive other conn' live synReceived with ⟨entry, member, named⟩
    refine ⟨entry, ?_, named⟩
    rw [slots, ListenSlots.changeFirst_eq_map (sound.one_slot handle)]
    refine List.mem_map.mpr ⟨entry, member, if_neg fun chosen => elsewhere ?_⟩
    exact Option.some.inj (named.symm.trans (of_decide_eq_true chosen))

/-- A segment of a handshake. -/
theorem handshake (sound : server.Sound) {conn : TcpConn}
    (present : server.host.engine.flowTable.get handle = some conn)
    (state : conn.state = .synReceived) (seg : ParsedSegment) (mbufCtx : Option MbufInsertCtx)
    (env : InputEnv) (sent : Bool) : (server.tcpInput handle seg mbufCtx env sent).Sound := by
  rcases sound.passive handle conn present state with ⟨own, ownMember, ownNamed⟩
  have opens := (sound.keeps own ownMember).inProgress handle ownNamed
  rcases opens with ⟨conn', id, present', opening, serves, ticks⟩
  cases present.symm.trans present'
  have ends := tcpInput_handshake server.host.pending present opening seg mbufCtx env
    sent
  rcases tcpInput_frame server handle seg mbufCtx env sent with ⟨pending, next⟩
  generalize server.tcpInput handle seg mbufCtx env sent = after at *
  rcases ends with ⟨tends, turn⟩
  have leaves : Engine.LeavesAlone server.host.pending (· ≠ handle) server.host.engine
      after.host.engine := by
    refine .of_tends tends ?_
    rintro _ ⟨⟩
    exact ⟨conn, present, opening.timer⟩
  have order : after.host.engine.InOrder after.host.pending := by
    rw [pending]
    exact leaves.order sound.order
  have secures : Host.Secures (· ≠ handle) server.host after.host := by
    refine .of_leaves sound.order leaves ?_
    intro _ _ _ _ _ _ _ member _ _
    rw [pending]
    exact member
  cases turn with
  | freed gone slots =>
      refine sound.of_handshake secures order next slots (fun _ => rfl) (fun _ => rfl)
        (fun _ _ _ => .inl rfl) present state tends.others ?_
      intro conn' live
      rw [gone] at live
      cases live
  | @kept conn' opening' tuple here slots =>
      have beside : ∀ entry ∈ server.listenSlots, entry.2.acceptQueue ≠ some handle :=
        fun entry member => sound.beside_handshake
          ⟨conn, id, present, opening, serves, ticks⟩ member
      refine sound.of_same_slots _ secures order slots next ?_ ?_
      · intro entry member
        refine ⟨fun other named => ?_, fun other named => .inl ?_⟩
        · by_cases same : other = handle
          · subst same
            rcases (sound.keeps entry member).inProgress other named with
              ⟨conn'', _, present'', _, serves', _⟩
            cases present.symm.trans present''
            refine .inr ⟨conn', id, here.present, opening', tuple ▸ serves', fun few => ?_⟩
            rcases tends.grows with ⟨more, grown⟩
            have few' : FewReuses server.host.engine.record.armed := .of_append (grown ▸ few)
            rcases ticks few' with runs | waits
            · exact .inl (here.wheel ▸ runs)
            · exact .inr (pending ▸ waits)
          · exact .inl same
        · rintro rfl
          exact beside entry member named
      · intro other conn'' live synReceived
        by_cases same : other = handle
        · exact ⟨conn, same ▸ present, state⟩
        · rw [tends.others other same] at live
          exact ⟨conn'', live, synReceived⟩
  | @completed conn' completed tuple live slots =>
      refine sound.of_handshake secures order next slots (fun _ => rfl) (fun _ => rfl) ?_ present
        state tends.others ?_
      · intro entry member named
        rcases (sound.keeps entry member).inProgress handle named with
          ⟨conn'', _, present'', _, serves', _⟩
        cases present.symm.trans present''
        exact .inr ⟨rfl, conn', live, completed, tuple ▸ serves'⟩
      · intro other live' synReceived
        cases live.symm.trans live'
        rcases completed.state with state | state <;> rw [synReceived] at state <;> cases state

/-! ### Timers -/

theorem clear_of_absent (sound : server.Sound)
    (absent : ∀ entry ∈ server.listenSlots, entry.2.inProgress ≠ some handle) :
    server.listenSlots.clearInProgressForConn handle = server.listenSlots := by
  rw [ListenSlots.clearInProgressForConn, ListenSlots.changeFirst_eq_map (sound.one_slot handle)]
  refine (List.map_congr_left fun entry member => ?_).trans (List.map_id _)
  exact if_neg (by simpa using absent entry member)

/-- The next timer is not known to its owner. -/
theorem fireNext_unnamed (sound : server.Sound) {id : TimerId} {node : TimerNode}
    {rest : List (TimerId × TimerNode)} (next : server.host.pending = (id, node) :: rest)
    (unnamed : ∀ conn, server.host.engine.flowTable.get node.ownerHandle = some conn →
      conn.timerOf node.kind ≠ some id) (env : FireEnv) : (server.fireNext env).Sound := by
  have fired : server.host.step (.fireNext env) =
      ⟨server.host.engine.fireTimer id node env, rest⟩ := by
    dsimp only [Host.step]
    rw [next]
  have idle := Engine.fireTimer_unnamed server.host.pending (fun _ => True) unnamed env
  have kept : ¬(node.kind = .synRetrans ∧
      server.host.engine.abandonsPassive node.ownerHandle id = true) := by
    rintro ⟨kind, abandons⟩
    rcases (Option.any_eq_true _ _).mp abandons with ⟨conn, present, gives⟩
    simp only [Bool.and_eq_true, decide_eq_true_eq] at gives
    exact unnamed conn present (kind ▸ gives.1.1.1)
  have same : server.fireNext env =
      { server with host := ⟨server.host.engine.fireTimer id node env, rest⟩ } := by
    dsimp only [Server.fireNext]
    rw [fired, next]
    dsimp only
    rw [if_neg kept]
  rw [same]
  refine sound.of_same_slots (fun _ => True) ?_ ?_ rfl rfl
    (fun _ _ => ⟨fun _ _ => .inl trivial, fun _ _ => .inl trivial⟩) ?_
  · refine .of_leaves sound.order idle.1 fun handle id' node' conn _ present opening member owner
      kind => ?_
    rw [next] at member
    rcases List.mem_cons.mp member with head | later
    · cases head
      refine absurd ?_ (unnamed conn (owner ▸ present))
      rw [kind]
      exact opening.timer
    · exact later
  · have order := idle.1.order sound.order
    rw [next] at order
    exact ⟨order.timed.tail, order.listed⟩
  · intro handle conn live opening
    exact ⟨conn, idle.2 ▸ live, opening⟩

/-- The timer of a handshake is the next. -/
theorem fireNext_handshake (sound : server.Sound) {id : TimerId} {node : TimerNode}
    {rest : List (TimerId × TimerNode)} (next : server.host.pending = (id, node) :: rest)
    {conn : TcpConn}
    (present : server.host.engine.flowTable.get node.ownerHandle = some conn)
    (named : conn.timerOf node.kind = some id) (state : conn.state = .synReceived)
    {env : FireEnv} (secures : Host.Secures (· ≠ node.ownerHandle) server.host
      (server.host.step (.fireNext env)))
    (order : (server.host.step (.fireNext env)).engine.InOrder
      (server.host.step (.fireNext env)).pending)
    (leaves : Engine.LeavesAlone server.host.pending (· ≠ node.ownerHandle) server.host.engine
      (server.host.step (.fireNext env)).engine) : (server.fireNext env).Sound := by
  rcases sound.passive _ conn present state with ⟨own, ownMember, ownNamed⟩
  have opens := (sound.keeps own ownMember).inProgress _ ownNamed
  rcases opens with ⟨conn', id', present', opening, serves, ticks⟩
  cases present.symm.trans present'
  have isSyn : node.kind = .synRetrans ∧ id' = id := by
    cases kind : node.kind with
    | rto =>
        rw [kind] at named
        exact absurd (opening.unarmed.rto.symm.trans named) nofun
    | tlp =>
        rw [kind] at named
        exact absurd (opening.unarmed.tlp.symm.trans named) nofun
    | synRetrans =>
        rw [kind] at named
        exact ⟨rfl, Option.some.inj (opening.timer.symm.trans named)⟩
    | apiPublic =>
        rw [kind] at named
        cases named
  rcases isSyn with ⟨kind, rfl⟩
  have engine : (server.host.step (.fireNext env)).engine =
      server.host.engine.onSynRetransFire node.ownerHandle id' env.nowNs := by
    dsimp only [Host.step]
    rw [next]
    dsimp only [Engine.fireTimer]
    rw [kind]
  have turn := Engine.onSynRetransFire_opening present opening sound.order.timed.counted.sound
    env.nowNs
  rw [← engine] at turn
  have unfolded : server.fireNext env =
      { server with
        host := server.host.step (.fireNext env)
        listenSlots :=
          if server.host.engine.abandonsPassive node.ownerHandle id' = true then
            server.listenSlots.clearInProgressForConn node.ownerHandle
          else server.listenSlots } := by
    unfold Server.fireNext
    rw [next]
    dsimp only
    rw [kind]
    simp only [true_and]
  rw [unfolded]
  by_cases abandons : server.host.engine.abandonsPassive node.ownerHandle id' = true
  · rw [if_pos abandons] at turn ⊢
    refine sound.of_handshake secures order rfl rfl (fun _ => rfl) (fun _ => rfl)
      (fun _ _ _ => .inl rfl) present state leaves.same ?_
    intro conn' live
    exact absurd (turn.symm.trans live) nofun
  · rw [if_neg abandons] at turn ⊢
    rcases turn with ⟨conn', id, live, opening', tuple, runs⟩
    refine sound.of_same_slots _ secures order rfl rfl ?_ ?_
    · intro entry member
      refine ⟨fun other named => ?_, fun other named => .inl ?_⟩
      · by_cases same : other = node.ownerHandle
        · rw [same] at named ⊢
          rcases (sound.keeps entry member).inProgress _ named with
            ⟨conn'', _, present'', _, serves', _⟩
          cases present.symm.trans present''
          exact .inr ⟨conn', id, live, opening', tuple ▸ serves', fun _ => .inl runs⟩
        · exact .inl same
      · rintro rfl
        exact sound.beside_handshake ⟨conn, id', present, opening, serves, ticks⟩ member named
    · intro other conn'' live' synReceived
      exact server.host.step_synReceived (.fireNext env) live' synReceived

theorem fireNext (sound : server.Sound) (env : FireEnv) : (server.fireNext env).Sound := by
  cases next : server.host.pending with
  | nil =>
      have idle : server.fireNext env = server := by
        unfold Server.fireNext
        rw [next]
      rw [idle]
      exact sound
  | cons fired rest =>
      rcases fired with ⟨id, node⟩
      by_cases unnamed : ∀ conn, server.host.engine.flowTable.get node.ownerHandle = some conn →
          conn.timerOf node.kind ≠ some id
      · exact sound.fireNext_unnamed next unnamed env
      · push Not at unnamed
        rcases unnamed with ⟨conn, present, named⟩
        have stepped : server.host.step (.fireNext env) =
            ⟨server.host.engine.fireTimer id node env, rest⟩ := by
          dsimp only [Host.step]
          rw [next]
        have leaves : Engine.LeavesAlone server.host.pending (· ≠ node.ownerHandle)
            server.host.engine (server.host.step (.fireNext env)).engine := by
          refine (server.host.step_leavesAlone (.fireNext env) nofun).mono ?_
          intro other differs fired head
          rw [next] at head
          cases head
          exact differs
        have secures : Host.Secures (· ≠ node.ownerHandle) server.host
            (server.host.step (.fireNext env)) := by
          refine .of_leaves sound.order leaves ?_
          intro handle id' node' _ differs _ _ member owner _
          rw [next] at member
          rw [stepped]
          rcases List.mem_cons.mp member with head | later
          · cases head
            exact absurd owner.symm differs
          · exact later
        have order : (server.host.step (.fireNext env)).engine.InOrder
            (server.host.step (.fireNext env)).pending := by
          have before := leaves.order sound.order
          rw [next] at before
          rw [stepped] at before ⊢
          exact ⟨before.timed.tail, before.listed⟩
        by_cases state : conn.state = .synReceived
        · exact sound.fireNext_handshake next present named state secures order leaves
        · have unqueued : ∀ entry ∈ server.listenSlots,
              entry.2.inProgress ≠ some node.ownerHandle ∧
                entry.2.acceptQueue ≠ some node.ownerHandle := by
            intro entry member
            constructor
            · intro inProgress
              rcases (sound.keeps entry member).inProgress _ inProgress with
                ⟨conn', _, present', opening, _⟩
              cases present.symm.trans present'
              exact state opening.state
            · intro acceptQueue
              rcases (sound.keeps entry member).acceptQueue _ acceptQueue with
                ⟨conn', present', completed, _⟩
              cases present.symm.trans present'
              cases kind : node.kind <;> rw [kind] at named
              · exact absurd (completed.unarmed.rto.symm.trans named) nofun
              · exact absurd (completed.unarmed.tlp.symm.trans named) nofun
              · exact absurd (completed.timer.symm.trans named) nofun
              · cases named
          have slots : (server.fireNext env).listenSlots = server.listenSlots := by
            unfold Server.fireNext
            rw [next]
            dsimp only
            split
            · exact sound.clear_of_absent fun entry member => (unqueued entry member).1
            · rfl
          have host : (server.fireNext env).host = server.host.step (.fireNext env) := by
            unfold Server.fireNext
            rw [next]
          have count : (server.fireNext env).nextListenId = server.nextListenId := by
            unfold Server.fireNext
            rw [next]
          refine sound.of_same_slots _ (host ▸ secures) (host ▸ order) slots count ?_ ?_
          · intro entry member
            have beside := unqueued entry member
            exact ⟨fun other named => .inl fun same => beside.1 (same ▸ named),
              fun other named => .inl fun same => beside.2 (same ▸ named)⟩
          · intro other conn' live synReceived
            rw [host] at live
            exact server.host.step_synReceived _ live synReceived

/-! ### Slots -/

theorem listen (sound : server.Sound) (ip : BitVec 32) (port : UInt16) :
    (server.listen ip port).1.Sound := by
  have keyed := Keyed.listen ⟨sound.keys, sound.fresh⟩ ip port
  unfold Server.listen at keyed ⊢
  split
  · exact sound
  · rename_i unused
    rw [if_neg unused] at keyed
    split
    · exact sound
    · rename_i few
      rw [if_neg few] at keyed
      have idle : (ListenSlot.new ip port).inProgress = none ∧
          (ListenSlot.new ip port).acceptQueue = none := ⟨rfl, rfl⟩
      refine ⟨sound.order, keyed.keys, keyed.fresh, ?_, ?_, ?_⟩
      · rw [List.map_append, List.nodup_append]
        refine ⟨sound.endpoints, List.nodup_singleton _, ?_⟩
        rintro endpoint known _ new rfl
        rw [List.map_singleton, List.mem_singleton] at new
        rcases List.mem_map.mp known with ⟨entry, member, same⟩
        refine unused (List.any_eq_true.mpr ⟨entry, member, ?_⟩)
        rcases Prod.ext_iff.mp (same.trans new) with ⟨sameIp, samePort⟩
        simpa using ⟨sameIp, samePort⟩
      · intro entry member
        rcases List.mem_append.mp member with before | new
        · exact sound.keeps entry before
        · rw [List.mem_singleton.mp new]
          exact ⟨fun _ named => absurd (idle.1.symm.trans named) nofun,
            fun _ named => absurd (idle.2.symm.trans named) nofun⟩
      · intro handle conn live opening
        rcases sound.passive handle conn live opening with ⟨entry, member, named⟩
        exact ⟨entry, List.mem_append_left _ member, named⟩

theorem acceptNext (sound : server.Sound) (listenHandle : ListenHandle) :
    (server.acceptNext listenHandle).1.Sound := by
  unfold Server.acceptNext
  split
  · exact sound
  · refine sound.of_secures (fun _ => True) ⟨fun _ _ _ opens => opens,
      fun _ _ _ queues => queues⟩ sound.order (ListenSlots.keys_changeFirst _ _ _) rfl
      (ListenSlots.endpoints_changeFirst _ _ fun _ => rfl) ?_ ?_
    · intro entry' member'
      dsimp only at member'
      rw [ListenSlots.changeFirst_eq_map (sound.one_key listenHandle)] at member'
      rcases List.mem_map.mp member' with ⟨entry, member, rfl⟩
      refine ⟨entry, member, ?_⟩
      split
      · exact ⟨rfl, fun _ named => .inl ⟨named, trivial⟩, fun _ named => by cases named⟩
      · exact ⟨rfl, fun _ named => .inl ⟨named, trivial⟩, fun _ named => .inl ⟨named, trivial⟩⟩
    · intro handle conn live opening
      rcases sound.passive handle conn live opening with ⟨entry, member, named⟩
      dsimp only
      rw [ListenSlots.changeFirst_eq_map (sound.one_key listenHandle)]
      refine ⟨_, List.mem_map.mpr ⟨entry, member, rfl⟩, ?_⟩
      split <;> exact named

end Sound

/-- The SYN opens a connection on the slot. -/
def opensOn (server : Server) (listenHandle : ListenHandle) (peerIp : BitVec 32)
    (peerPort : UInt16) (issPeer : Seq) (opts : TcpOpts) (env : ListenEnv) : Bool :=
  (server.listenSlots.find? fun entry => entry.1 = listenHandle).any fun entry =>
    !entry.2.full && (server.host.engine.flowTable.insert (server.host.engine.passive
      ⟨entry.2.localIp, entry.2.localPort, peerIp, peerPort⟩ env.iss issPeer opts
      env.nowNs)).2.isSome

namespace Sound

variable {server : Server}

/-- A SYN that opens a connection is answered. -/
theorem synListen (sound : server.Sound) {listenHandle : ListenHandle} {peerIp : BitVec 32}
    {peerPort : UInt16} {issPeer : Seq} {opts : TcpOpts} {env : ListenEnv}
    (answered : server.opensOn listenHandle peerIp peerPort issPeer opts env = true →
      env.synAckSent = true) :
    (server.handleInboundSynListen listenHandle peerIp peerPort issPeer opts env).1.Sound := by
  unfold Server.handleInboundSynListen
  split
  · exact sound
  · rename_i key slot found
    split
    · exact sound
    · rename_i free
      dsimp only
      split
      · exact sound
      · rename_i handle inserted
        have sent : env.synAckSent = true := by
          refine answered ?_
          unfold Server.opensOn
          rw [found, Option.any_some]
          dsimp only
          rw [inserted, Bool.eq_false_of_not_eq_true free]
          rfl
        have here : (key, slot) ∈ server.listenSlots := List.mem_of_find?_eq_some found
        have own : key = listenHandle := by simpa using List.find?_some found
        have opened := Engine.opened_opening server.host.pending
          (Prod.ext rfl inserted : server.host.engine.flowTable.insert
            (server.host.engine.passive ⟨slot.localIp, slot.localPort, peerIp, peerPort⟩ env.iss
              issPeer opts env.nowNs) = (_, some handle)) sound.order.timed.counted.sound
        rw [sent]
        rcases opened with ⟨vacant, leaves, conn, id, present, opening, tuple, runs⟩
        have unnamed : ∀ entry ∈ server.listenSlots, entry.2.inProgress ≠ some handle ∧
            entry.2.acceptQueue ≠ some handle := by
          intro entry member
          constructor
          · intro named
            rcases (sound.keeps entry member).inProgress handle named with ⟨_, _, live, _⟩
            exact absurd (vacant.symm.trans live) nofun
          · intro named
            rcases (sound.keeps entry member).acceptQueue handle named with ⟨_, live, _⟩
            exact absurd (vacant.symm.trans live) nofun
        refine sound.of_secures (· ≠ handle)
          (.of_leaves sound.order leaves fun _ _ _ _ _ _ _ member _ _ => member)
          (leaves.order sound.order) (ListenSlots.keys_changeFirst _ _ _) rfl
          (ListenSlots.endpoints_changeFirst _ _ fun _ => rfl) ?_ ?_
        · intro entry' member'
          dsimp only [withEngine] at member'
          rw [ListenSlots.changeFirst_eq_map (sound.one_key listenHandle)] at member'
          rcases List.mem_map.mp member' with ⟨entry, member, rfl⟩
          have beside := unnamed entry member
          refine ⟨entry, member, ?_⟩
          split
          · rename_i chosen
            have same : entry = (key, slot) := by
              refine List.inj_on_of_nodup_map sound.keys member here ?_
              exact (of_decide_eq_true chosen).trans own.symm
            subst same
            refine ⟨rfl, fun other named => .inr ?_, fun other named => .inl ⟨named, ?_⟩⟩
            · cases named
              refine ⟨conn, id, present, opening, ?_, fun _ => .inl runs⟩
              rw [tuple]
              exact ⟨rfl, rfl⟩
            · exact fun same => beside.2 (same ▸ named)
          · exact ⟨rfl, fun other named => .inl ⟨named, fun same => beside.1 (same ▸ named)⟩,
              fun other named => .inl ⟨named, fun same => beside.2 (same ▸ named)⟩⟩
        · intro other conn' live synReceived
          dsimp only [withEngine] at live ⊢
          rw [ListenSlots.changeFirst_eq_map (sound.one_key listenHandle)]
          by_cases same : other = handle
          · refine ⟨_, List.mem_map.mpr ⟨(key, slot), here, if_pos (decide_eq_true own)⟩, ?_⟩
            rw [same]
          · rw [leaves.same other same] at live
            rcases sound.passive other conn' live synReceived with ⟨entry, member, named⟩
            refine ⟨_, List.mem_map.mpr ⟨entry, member, if_neg fun chosen => ?_⟩, named⟩
            have same : entry = (key, slot) := by
              refine List.inj_on_of_nodup_map sound.keys member here ?_
              exact (of_decide_eq_true chosen).trans own.symm
            rw [same] at named
            refine free ?_
            rw [ListenSlot.full, named, Option.isSome_some, Bool.or_true]

end Sound

/-! ### Runs -/

/-- A step in an orderly run. The SYN-ACK of a SYN that opens a connection goes
out, no reset closes a connection that waits to be accepted, and the application
does not use it before it accepts it. -/
def orderly (server : Server) : ServerOp → Bool
  | .receive tuple seg _ _ env =>
      match server.host.engine.flowTable.lookupByTuple tuple with
      | some handle =>
          !(server.named handle && (server.host.engine.flowTable.get handle).any fun conn =>
            conn.state ≠ .synReceived && conn.resetBy seg)
      | none =>
          !isSynOnly seg ||
            match server.listenSlots.matchListenSlot tuple.localIp tuple.localPort with
            | some (listenHandle, _) =>
                !server.opensOn listenHandle tuple.peerIp tuple.peerPort seg.seq
                  ((parseOptions seg.options).toOption.getD {}) env || env.synAckSent
            | none => true
  | .send handle .. | .close handle .. | .twSkip handle _ => !server.named handle
  | _ => true

namespace Sound

variable {server : Server}

theorem start (cfg : EngineConfig) (maxConnections eventSoftCap : ℕ) :
    (Server.start cfg maxConnections eventSoftCap).Sound := by
  have empty : ∀ handle conn,
      (Server.start cfg maxConnections eventSoftCap).host.engine.flowTable.get handle ≠
        some conn := by
    intro handle conn live
    have none := Host.get_start cfg maxConnections eventSoftCap handle
    exact absurd (none.symm.trans live) nofun
  exact ⟨⟨Host.timed_start cfg maxConnections eventSoftCap,
      fun handle conn _ live => absurd live (empty handle conn)⟩,
    List.nodup_nil, fun _ => nofun, List.nodup_nil, fun _ => nofun,
    fun handle conn live => absurd live (empty handle conn)⟩

theorem receive (sound : server.Sound) {tuple : FourTuple} {seg : ParsedSegment}
    {mbufCtx : Option MbufInsertCtx} {env : InputEnv} {listenEnv : ListenEnv}
    (orderly : server.orderly (.receive tuple seg mbufCtx env listenEnv) = true) :
    (server.receive tuple seg mbufCtx env listenEnv).Sound := by
  dsimp only [Server.orderly] at orderly
  unfold Server.receive
  split
  · rename_i handle known
    rw [known] at orderly
    cases present : server.host.engine.flowTable.get handle with
    | none =>
        have ignored : server.tcpInput handle seg mbufCtx env listenEnv.synAckSent = server := by
          dsimp only [Server.tcpInput]
          rw [present]
          dsimp only
          rw [Engine.tcpInput_absent present]
          rfl
        rw [ignored]
        exact sound
    | some conn =>
        by_cases state : conn.state = .synReceived
        · exact sound.handshake present state seg mbufCtx env _
        · refine sound.segment present state (fun isNamed => ?_) mbufCtx env _
          dsimp only at orderly
          rw [isNamed, present, Option.any_some] at orderly
          simpa [state] using orderly
  · rename_i unknown
    rw [unknown] at orderly
    split
    · rename_i opening
      rw [opening] at orderly
      split
      · rename_i listenHandle slot found
        rw [found] at orderly
        refine sound.synListen fun opens => ?_
        dsimp only at orderly
        rw [opens] at orderly
        exact orderly
      · exact sound
    · exact sound

theorem step (sound : server.Sound) {op : ServerOp} (orderly : server.orderly op = true) :
    (server.step op).Sound := by
  have apart : ∀ handle, server.named handle = false →
      ∀ other, server.named other = true → other ≠ handle := by
    rintro handle unnamed other isNamed rfl
    rw [unnamed] at isNamed
    cases isNamed
  cases op with
  | listen ip port => exact sound.listen ip port
  | acceptNext listenHandle => exact sound.acceptNext listenHandle
  | receive tuple seg mbufCtx env listenEnv => exact sound.receive orderly
  | fireNext env => exact sound.fireNext env
  | advance nowNs => exact sound.advance nowNs
  | connect tuple iss ourMss opts synSent nowNs =>
      refine sound.call (by rintro _ ⟨⟩) (by rintro _ ⟨⟩) fun handle isNamed absent => ?_
      rcases sound.live_of_named isNamed with ⟨conn, present, _⟩
      rw [Engine.stateAt, present] at absent
      cases absent
  | send handle bytes envs tlpNs =>
      exact sound.call (by rintro _ ⟨⟩) (by rintro _ ⟨⟩) (apart handle (by simpa [Server.orderly] using orderly))
  | close handle finSent nowNs =>
      exact sound.call (by rintro _ ⟨⟩) (by rintro _ ⟨⟩) (apart handle (by simpa [Server.orderly] using orderly))
  | twSkip handle nowNs =>
      exact sound.call (by rintro _ ⟨⟩) (by rintro _ ⟨⟩) (apart handle (by simpa [Server.orderly] using orderly))
  | flush sent => exact sound.call (by rintro _ ⟨⟩) (by rintro _ ⟨⟩) fun _ _ => trivial
  | reap nowNs =>
      refine sound.call (by rintro _ ⟨⟩) (by rintro _ ⟨⟩) fun handle isNamed waits => ?_
      rcases sound.live_of_named isNamed with ⟨conn, present, running, _⟩
      rw [Engine.stateAt, present] at waits
      exact running (Option.some.inj waits)

end Sound

/-- The slots in every orderly run. A handshake a slot names is a live connection
of the slot in SYN_RECEIVED, whose timer runs as long as no slot of the wheel is
reused `2 ^ 32` times and has fired at most three times. A connection a slot queues
is live and past its handshake. So a slot that refuses SYNs waits for a live
connection, and a handle that is gone occupies no slot. -/
theorem slots_name_live_connections {cfg : EngineConfig} {maxConnections eventSoftCap : ℕ}
    {server : Server}
    (run : Run.Reaches step (fun server op => server.orderly op = true)
      (start cfg maxConnections eventSoftCap) server) :
    ∀ entry ∈ server.listenSlots,
      (∀ handle, entry.2.inProgress = some handle → ∃ conn id,
        server.host.engine.flowTable.get handle = some conn ∧ conn.state = .synReceived ∧
          conn.isPassiveOpen = true ∧ entry.2.Serves conn.fourTuple ∧
          conn.synRetransTimerId = some id ∧ conn.synRetransCount ≤ 3 ∧
          (FewReuses server.host.engine.record.armed → server.host.Ticks id handle)) ∧
      (∀ handle, entry.2.acceptQueue = some handle → ∃ conn,
        server.host.engine.flowTable.get handle = some conn ∧
          (conn.state = .established ∨ conn.state = .closeWait) ∧ conn.isPassiveOpen = true ∧
          entry.2.Serves conn.fourTuple) ∧
      (entry.2.full = true → ∃ handle, entry.2.names handle = true ∧
        server.host.engine.flowTable.get handle ≠ none) ∧
      ∀ handle, server.host.engine.flowTable.get handle = none → entry.2.names handle = false := by
  have sound : server.Sound :=
    run.invariant (Sound.start cfg maxConnections eventSoftCap) fun _ _ sound orderly =>
      sound.step orderly
  intro entry member
  have keeps := sound.keeps entry member
  have live : ∀ handle, entry.2.names handle = true →
      server.host.engine.flowTable.get handle ≠ none := by
    intro handle names absent
    rcases sound.live_of_named (List.any_eq_true.mpr ⟨entry, member, names⟩) with
      ⟨conn, present, _⟩
    exact absurd (absent.symm.trans present) nofun
  refine ⟨?_, ?_, ?_, ?_⟩
  · intro handle named
    rcases keeps.inProgress handle named with ⟨conn, id, present, opening, serves, ticks⟩
    exact ⟨conn, id, present, opening.state, opening.passive, serves, opening.timer,
      opening.budget, ticks⟩
  · intro handle named
    rcases keeps.acceptQueue handle named with ⟨conn, present, completed, serves⟩
    exact ⟨conn, present, completed.state, completed.passive, serves⟩
  · intro full
    rw [ListenSlot.full, Bool.or_eq_true, Option.isSome_iff_exists, Option.isSome_iff_exists]
      at full
    rcases full with ⟨handle, named⟩ | ⟨handle, named⟩
    · have names : entry.2.names handle = true := by simp [ListenSlot.names, named]
      exact ⟨handle, names, live handle names⟩
    · have names : entry.2.names handle = true := by simp [ListenSlot.names, named]
      exact ⟨handle, names, live handle names⟩
  · intro handle absent
    exact Bool.eq_false_of_not_eq_true fun names => live handle names absent

/-- A segment of the peer for a port of the server. -/
def arriveAt (port : UInt16) (nowNs : ℕ) (seq ack : Seq) (flags : Flags) (sent : Bool) : ServerOp :=
  .receive ⟨0x0a000002#32, port, 0x0a000001#32, 5000⟩
    { peerSegment seq ack flags 5000 [] with dstPort := port } none (inputAt nowNs)
    ⟨100#32, sent, nowNs⟩

/-- On one port a handshake is under way, whose SYN-ACK went out twice; on the
other one a connection waits to be accepted. -/
def listening : List ServerOp :=
  [.listen 0x0a000002#32 40000, .listen 0x0a000002#32 40001,
    arriveAt 40000 1000 500#32 0#32 TCP_SYN true, .advance 200000,
    .fireNext ⟨⟨200000, fun _ => ⟨1, none, true, true, 0, 200000, 200000, 200000⟩, 200000, 200000,
      200000⟩, ⟨1, none, true, true, 0, 200000, 200000, 200000⟩, 200000⟩,
    arriveAt 40001 300000 700#32 0#32 TCP_SYN true,
    arriveAt 40001 400000 701#32 101#32 TCP_ACK true]

theorem slots_name_live_connections_listening :
    (listening.foldl step (start quickCfg 4 64)).listenSlots.map (fun entry =>
        (entry.2.inProgress, entry.2.acceptQueue)) = [(some 1, none), (none, some 2)] ∧
      ∀ entry ∈ (listening.foldl step (start quickCfg 4 64)).listenSlots,
        (∀ handle, entry.2.inProgress = some handle → ∃ conn id,
          (listening.foldl step (start quickCfg 4 64)).host.engine.flowTable.get handle =
              some conn ∧ conn.state = .synReceived ∧ conn.isPassiveOpen = true ∧
            entry.2.Serves conn.fourTuple ∧ conn.synRetransTimerId = some id ∧
            conn.synRetransCount ≤ 3 ∧
            (FewReuses (listening.foldl step (start quickCfg 4 64)).host.engine.record.armed →
              (listening.foldl step (start quickCfg 4 64)).host.Ticks id handle)) ∧
        (∀ handle, entry.2.acceptQueue = some handle → ∃ conn,
          (listening.foldl step (start quickCfg 4 64)).host.engine.flowTable.get handle =
              some conn ∧ (conn.state = .established ∨ conn.state = .closeWait) ∧
            conn.isPassiveOpen = true ∧ entry.2.Serves conn.fourTuple) ∧
        (entry.2.full = true → ∃ handle, entry.2.names handle = true ∧
          (listening.foldl step (start quickCfg 4 64)).host.engine.flowTable.get handle ≠ none) ∧
        ∀ handle,
          (listening.foldl step (start quickCfg 4 64)).host.engine.flowTable.get handle = none →
            entry.2.names handle = false :=
  ⟨by decide +kernel, slots_name_live_connections (Run.Reaches.of_admits (by decide +kernel))⟩

/-- The SYN-ACK of a connection is not transmitted. -/
def unanswered : List ServerOp :=
  [.listen 0x0a000002#32 40000, arriveAt 40000 1000 500#32 0#32 TCP_SYN false]

/-- A connection is reset before it is accepted. -/
def resetEarly : List ServerOp :=
  [.listen 0x0a000002#32 40000, arriveAt 40000 1000 500#32 0#32 TCP_SYN true,
    arriveAt 40000 2000 501#32 101#32 TCP_ACK true, arriveAt 40000 3000 501#32 101#32 TCP_RST true]

/-- After a SYN-ACK that failed, the slot names a handshake without a timer; after
an early reset, it queues a connection that is gone. Both refuse every SYN. -/
theorem slots_left_occupied :
    ((unanswered.foldl step (start quickCfg 4 64)).listenSlots.map (fun entry =>
          (entry.2.inProgress, entry.2.full)) = [(some 1, true)] ∧
        ((unanswered.foldl step (start quickCfg 4 64)).host.engine.flowTable.get 1).map
          TcpConn.synRetransTimerId = some none ∧
        (unanswered.foldl step (start quickCfg 4 64)).host.engine.timerWheel.slots = []) ∧
      (resetEarly.foldl step (start quickCfg 4 64)).listenSlots.map (fun entry =>
          (entry.2.acceptQueue, entry.2.full)) = [(some 1, true)] ∧
        (resetEarly.foldl step (start quickCfg 4 64)).host.engine.flowTable.get 1 = none :=
  ⟨⟨by decide +kernel, by decide +kernel, by decide +kernel⟩, by decide +kernel,
    Option.isNone_iff_eq_none.mp (by decide +kernel)⟩

end Server

end DpdkTcp
