import DpdkTcp.Lifecycle.Story

/-!
# The chapters of a story

Every call of the engine adds at most one chapter to the story of a connection,
and tells nothing of the others.
-/

namespace DpdkTcp

namespace Engine

/-- A change that tells nothing of a connection and keeps its state. -/
def Aside (handle : ConnHandle) (before after : Engine) : Prop :=
  ∃ news, Tells before after news ∧ news.filter (InternalEvent.lifecycleOf handle) = [] ∧
    after.stateAt handle = before.stateAt handle

/-- A change that adds a chapter to the story of a connection. -/
def Speaks (handle : ConnHandle) (before after : Engine) : Prop :=
  ∃ news, Tells before after news ∧ (before.stateAt handle ≠ some .closed →
    Told handle (before.stateAt handle) (news.filter (InternalEvent.lifecycleOf handle))
      (after.stateAt handle))

section Speech

variable {first second third : Engine} {handle : ConnHandle}

theorem Tells.aside (quiet : Tells first second [])
    (state : second.stateAt handle = first.stateAt handle) : Aside handle first second :=
  ⟨[], quiet, rfl, state⟩

theorem Aside.trans (left : Aside handle first second) (right : Aside handle second third) :
    Aside handle first third := by
  rcases left with ⟨news, told, silent, state⟩
  rcases right with ⟨later, toldLater, silentLater, stateLater⟩
  exact ⟨news ++ later, told.trans toldLater, by rw [List.filter_append, silent, silentLater]; rfl,
    stateLater.trans state⟩

theorem Aside.speaks (aside : Aside handle first second) : Speaks handle first second := by
  rcases aside with ⟨news, told, silent, state⟩
  refine ⟨news, told, fun _ => ?_⟩
  rw [silent, state]
  exact .silent _

theorem Aside.then (left : Aside handle first second) (right : Speaks handle second third) :
    Speaks handle first third := by
  rcases left with ⟨news, told, silent, state⟩
  rcases right with ⟨later, toldLater, chapter⟩
  refine ⟨news ++ later, told.trans toldLater, fun alive => ?_⟩
  rw [List.filter_append, silent, List.nil_append, ← state]
  exact chapter (state ▸ alive)

theorem Speaks.then (left : Speaks handle first second) (right : Aside handle second third) :
    Speaks handle first third := by
  rcases left with ⟨news, told, chapter⟩
  rcases right with ⟨later, toldLater, silent, state⟩
  refine ⟨news ++ later, told.trans toldLater, fun alive => ?_⟩
  rw [List.filter_append, silent, List.append_nil, state]
  exact chapter alive

end Speech

variable (engine : Engine) (handle other : ConnHandle)

/-- What `transition_conn` tells. -/
def changeTold (target : TcpState) (nowNs : ℕ) : List InternalEvent :=
  match engine.stateAt handle with
  | none => []
  | some state => if state = target then [] else [.stateChange handle state target nowNs]

theorem transitionConn_tells (target : TcpState) (nowNs : ℕ) :
    Tells engine (engine.transitionConn handle target nowNs)
      (engine.changeTold handle target nowNs) := by
  dsimp only [transitionConn, changeTold, stateAt]
  split
  · rename_i absent
    rw [absent]
    exact .refl engine
  · rename_i conn present
    rw [present]
    dsimp only [Option.map_some]
    split
    · exact .refl engine
    · exact .after (.modify engine handle _) (.push _ _)

theorem changeTold_elsewhere (apart : other ≠ handle) (target : TcpState) (nowNs : ℕ) :
    (engine.changeTold handle target nowNs).filter (InternalEvent.lifecycleOf other) = [] := by
  unfold changeTold
  split
  · rfl
  · split
    · rfl
    · rw [List.filter_cons_of_neg, List.filter_nil]
      simpa [InternalEvent.lifecycleOf] using Ne.symm apart

theorem transitionConn_aside (apart : other ≠ handle) (target : TcpState) (nowNs : ℕ) :
    Aside other engine (engine.transitionConn handle target nowNs) :=
  ⟨_, transitionConn_tells engine handle target nowNs,
    changeTold_elsewhere engine handle other apart target nowNs,
    by rw [stateAt_transitionConn, if_neg apart]⟩

theorem pushEvent_aside (event : InternalEvent)
    (silent : InternalEvent.lifecycleOf other event = false) :
    Aside other engine (engine.pushEvent event) := by
  refine ⟨_, .push engine event, ?_, stateAt_pushEvent engine other event⟩
  rw [List.filter_filter, List.filter_eq_nil_iff]
  intro member inside
  rw [List.mem_singleton.mp inside, silent]
  exact Bool.false_ne_true

theorem changeTold_of {state target : TcpState} (before : engine.stateAt handle = some state)
    (differs : state ≠ target) (nowNs : ℕ) :
    engine.changeTold handle target nowNs = [.stateChange handle state target nowNs] := by
  rw [changeTold, before]
  exact if_neg differs

theorem changeTold_told {state target : TcpState}
    (before : engine.stateAt handle = some state) (opened : state ≠ .synSent)
    (alive : target ≠ .closed) (onward : target ≠ .synSent) (nowNs : ℕ) :
    Told handle (some state)
      ((engine.changeTold handle target nowNs).filter (InternalEvent.lifecycleOf handle))
      (some target) := by
  by_cases differs : state = target
  · rw [changeTold, before]
    dsimp only
    rw [if_pos differs, differs]
    exact .silent _
  · rw [changeTold_of engine handle before differs]
    simpa [InternalEvent.lifecycleOf] using Told.moved opened alive onward nowNs

/-- A connection whose handshake is over changes its state. -/
theorem transitionConn_speaks {state target : TcpState}
    (before : engine.stateAt handle = some state) (opened : state ≠ .synSent)
    (alive : target ≠ .closed) (onward : target ≠ .synSent) (nowNs : ℕ) :
    Speaks handle engine (engine.transitionConn handle target nowNs) := by
  refine ⟨_, transitionConn_tells engine handle target nowNs, fun _ => ?_⟩
  rw [stateAt_transitionConn, if_pos rfl, before]
  exact changeTold_told engine handle before opened alive onward nowNs

/-- A connection is reported closed and removed. -/
theorem closing_speaks {state : TcpState} (before : engine.stateAt handle = some state)
    (err : Int) (changeNs nowNs : ℕ) {middle : Engine}
    (between : Aside handle (engine.transitionConn handle .closed changeNs) middle)
    {after : Engine} (removed : Tells (middle.pushEvent (.closed handle err nowNs)) after [])
    (gone : after.stateAt handle = none) : Speaks handle engine after := by
  rcases between with ⟨news, told, silent, _⟩
  refine ⟨_, .quiet (.trans (.trans (transitionConn_tells engine handle .closed changeNs) told)
    (.push middle (.closed handle err nowNs))) removed, fun alive => ?_⟩
  rw [before] at alive ⊢
  have change := changeTold_of engine handle before
    (fun closed => alive (congrArg some closed)) changeNs
  have chapter : ((engine.changeTold handle .closed changeNs ++ news) ++
      [InternalEvent.closed handle err nowNs].filter InternalEvent.notable).filter
        (InternalEvent.lifecycleOf handle) =
      [.stateChange handle state .closed changeNs, .closed handle err nowNs] := by
    rw [List.filter_append, List.filter_append, silent, change]
    simp [InternalEvent.lifecycleOf, InternalEvent.notable]
  rw [chapter, gone]
  exact .ended state err changeNs nowNs

/-! ### Timers -/

theorem forceCloseEtimedout_speaks (nowNs : ℕ) :
    Speaks other engine (engine.forceCloseEtimedout handle nowNs) := by
  have states := stateAt_forceCloseEtimedout engine handle other nowNs
  dsimp only [forceCloseEtimedout] at states ⊢
  split at states
  · exact (Tells.refl engine).aside rfl |>.speaks
  · rename_i conn present
    have drained : ∀ any, Aside any engine (((engine.modifyConn handle fun conn =>
        { conn with
          timerIds := []
          rtoTimerId := none
          tlpTimerId := none
          synRetransTimerId := none
          sndRetrans := ⟨[]⟩ }).releaseMbufs
            (conn.sndRetrans.entries.map RetransEntry.mbuf)).cancelTimers conn.allTimerIds) := by
      intro any
      refine Tells.aside (.after (.after (.modify engine handle _) (releaseMbufs_quiet _ _))
        (cancelTimers_quiet _ _)) ?_
      rw [stateAt_cancelTimers, stateAt_releaseMbufs]
      exact stateAt_modifyConn engine handle any fun _ => rfl
    generalize ((engine.modifyConn handle fun conn => { conn with
      timerIds := []
      rtoTimerId := none
      tlpTimerId := none
      synRetransTimerId := none
      sndRetrans := ⟨[]⟩ }).releaseMbufs
        (conn.sndRetrans.entries.map RetransEntry.mbuf)).cancelTimers conn.allTimerIds =
          freed at drained states ⊢
    by_cases same : other = handle
    · subst same
      have before : freed.stateAt other = some conn.state := by
        rcases drained other with ⟨_, _, _, state⟩
        rw [state, stateAt, present]
        rfl
      rw [if_pos rfl] at states
      refine (drained other).then (closing_speaks freed other before (-ETIMEDOUT) nowNs nowNs
        (pushEvent_aside _ other (.error other (-ETIMEDOUT) nowNs) rfl) (.drop _ other) states)
    · rw [if_neg same] at states
      refine ((drained other).trans ⟨_, .quiet (.trans (.quiet
        (transitionConn_tells freed handle .closed nowNs) (.report _ rfl)) (.push _ _))
        (.drop _ handle), ?_, ?_⟩).speaks
      · rw [List.filter_append, changeTold_elsewhere freed handle other same]
        simpa [InternalEvent.lifecycleOf, InternalEvent.notable] using Ne.symm same
      · rcases drained other with ⟨_, _, _, state⟩
        rw [states, state]

theorem rearmOrGiveUp_speaks (noBackoff : Bool) (env : RtoEnv) :
    Speaks other engine (engine.rearmOrGiveUp handle noBackoff env) := by
  dsimp only [rearmOrGiveUp]
  split
  · exact forceCloseEtimedout_speaks engine handle other env.closeNs
  · refine (Tells.aside (.after ?_ (armRto_quiet _ handle env.timerNs)) ?_).speaks
    · split
      · exact .refl engine
      · exact .modify engine handle _
    · rw [stateAt_armRto]
      split
      · rfl
      · exact stateAt_modifyConn _ handle other fun _ => rfl

theorem onRtoFire_speaks (firedId : TimerId) (env : RtoEnv) :
    Speaks other engine (engine.onRtoFire handle firedId env) := by
  dsimp only [onRtoFire]
  split
  · exact ((Tells.refl engine).aside rfl).speaks
  · split
    · exact ((Tells.refl engine).aside rfl).speaks
    · have cleared : Aside other engine (engine.modifyConn handle fun conn =>
          { conn.withoutTimer firedId with rtoTimerId := none }) :=
        (Tells.modify engine handle _).aside (stateAt_modifyConn engine handle other fun _ => rfl)
      split
      · exact cleared.speaks
      · rename_i conn _ _ _
        have marked : ∀ current lost, Aside other current (current.markLost handle lost) :=
          fun current lost => (Tells.modify current handle _).aside
            (stateAt_modifyConn current handle other fun _ => rfl)
        exact (((cleared.trans (marked _ _)).trans
          ((retransmitAll_quiet _ handle _ _).aside (stateAt_retransmitAll _ handle other _ _))).trans
          ((reportRto_quiet _ handle _ _).aside (stateAt_reportRto _ handle other _ _))).then
          (rearmOrGiveUp_speaks _ handle other conn.rtoNoBackoff env)

theorem onSynRetransFire_speaks (firedId : TimerId) (nowNs : ℕ) :
    Speaks other engine (engine.onSynRetransFire handle firedId nowNs) := by
  dsimp only [onSynRetransFire]
  split
  · exact ((Tells.refl engine).aside rfl).speaks
  · split
    · exact ((Tells.refl engine).aside rfl).speaks
    · have cleared : Aside other engine (engine.modifyConn handle fun conn =>
          { conn.withoutTimer firedId with synRetransTimerId := none }) :=
        (Tells.modify engine handle _).aside (stateAt_modifyConn engine handle other fun _ => rfl)
      split
      · exact cleared.speaks
      · rename_i conn _ _ _
        have counted : ∀ current : Engine, Aside other current (current.modifyConn handle fun after =>
            { after with synRetransCount := min (conn.synRetransCount + 1) 255 }) :=
          fun current => (Tells.modify current handle _).aside
            (stateAt_modifyConn current handle other fun _ => rfl)
        split
        · exact (cleared.trans (counted _)).then (forceCloseEtimedout_speaks _ handle other nowNs)
        · exact ((cleared.trans (counted _)).trans ((armSynRetrans_quiet _ handle nowNs _).aside
            (stateAt_armSynRetrans _ handle other nowNs _))).speaks

theorem fireTimer_speaks (id : TimerId) (node : TimerNode) (env : FireEnv) :
    Speaks other engine (engine.fireTimer id node env) := by
  unfold fireTimer
  split
  · exact onRtoFire_speaks engine node.ownerHandle other id env.rto
  · exact ((onTlpFire_quiet engine node.ownerHandle id env.tlp env.nowNs).aside
      (stateAt_onTlpFire engine node.ownerHandle other id env.tlp env.nowNs)).speaks
  · exact onSynRetransFire_speaks engine node.ownerHandle other id env.nowNs
  · exact (pushEvent_aside engine other _ rfl).speaks

/-! ### The end of the wait -/

theorem reap_speaks {state : TcpState} (before : engine.stateAt handle = some state) (nowNs : ℕ) :
    Speaks handle engine (engine.reap handle nowNs) := by
  refine closing_speaks engine handle before 0 nowNs nowNs ((Tells.refl _).aside rfl)
    (removeConn_quiet _ handle) ?_
  rw [stateAt_reap, if_pos rfl]

theorem reap_aside (apart : other ≠ handle) (nowNs : ℕ) :
    Aside other engine (engine.reap handle nowNs) := by
  refine (transitionConn_aside engine handle other apart .closed nowNs).trans
    ((pushEvent_aside _ other (.closed handle 0 nowNs) ?_).trans
      ((removeConn_quiet _ handle).aside ?_))
  · simpa [InternalEvent.lifecycleOf] using Ne.symm apart
  · rw [stateAt_removeConn, if_neg apart]

theorem reapAll_aside (nowNs : ℕ) {candidates : List ConnHandle} (apart : other ∉ candidates) :
    Aside other engine
      (candidates.foldl (fun engine handle => engine.reap handle nowNs) engine) := by
  induction candidates generalizing engine with
  | nil => exact (Tells.refl engine).aside rfl
  | cons candidate rest ih =>
      rw [List.mem_cons, not_or] at apart
      exact (reap_aside engine candidate other apart.1 nowNs).trans (ih _ apart.2)

theorem reapAll_speaks (nowNs : ℕ) {candidates : List ConnHandle} (once : candidates.Nodup)
    (live : ∀ candidate ∈ candidates, ∃ state, engine.stateAt candidate = some state) :
    Speaks other engine
      (candidates.foldl (fun engine handle => engine.reap handle nowNs) engine) := by
  induction candidates generalizing engine with
  | nil => exact ((Tells.refl engine).aside rfl).speaks
  | cons candidate rest ih =>
      rw [List.nodup_cons] at once
      rw [List.foldl_cons]
      by_cases same : other = candidate
      · subst same
        rcases live other (List.mem_cons_self ..) with ⟨state, before⟩
        exact (reap_speaks engine other before nowNs).then
          (reapAll_aside _ other nowNs once.1)
      · refine (reap_aside engine candidate other same nowNs).then (ih _ once.2 ?_)
        intro later member
        have apart : later ≠ candidate := fun equal => once.1 (equal ▸ member)
        rw [stateAt_reap, if_neg apart]
        exact live later (List.mem_cons_of_mem _ member)

theorem nodup_handles : engine.handles.Nodup :=
  List.Nodup.map (Nat.succ_injective) List.nodup_range

theorem reapTimeWait_speaks (nowNs : ℕ) : Speaks other engine (engine.reapTimeWait nowNs) := by
  refine reapAll_speaks engine other nowNs
    (List.nodup_reverse.mpr ((nodup_handles engine).filter _)) ?_
  intro candidate member
  rw [List.mem_reverse, List.mem_filter] at member
  rcases (Option.any_eq_true _ _).mp member.2 with ⟨conn, present, _⟩
  exact ⟨conn.state, by rw [stateAt, present]; rfl⟩

/-! ### Closing and opening -/

theorem closeConn_speaks (finSent : Bool) (nowNs : ℕ) :
    Speaks other engine (engine.closeConn handle finSent nowNs) := by
  dsimp only [closeConn]
  split
  · exact ((Tells.refl engine).aside rfl).speaks
  · rename_i conn present
    split
    · exact ((Tells.refl engine).aside rfl).speaks
    · rename_i running
      split
      · exact ((Tells.refl engine).aside rfl).speaks
      · obtain ⟨marked, built⟩ : ∃ marked, marked =
            (engine.recordSentAtOnce (engine.firstSent handle conn.sndNxt 1 true)).modifyConn handle
              fun conn =>
                { conn with
                  ourFinSeq := some conn.sndNxt
                  sndNxt := seqAdd conn.sndNxt 1 } := ⟨_, rfl⟩
        have numbered : Aside other engine marked := by
          rw [built]
          refine Tells.aside (.same rfl rfl) ?_
          rw [stateAt_modifyConn _ handle other (by exact fun _ => rfl), stateAt_recordSentAtOnce]
        rw [← built]
        by_cases same : other = handle
        · subst same
          have before : marked.stateAt other = some conn.state := by
            rcases numbered with ⟨_, _, _, state⟩
            rw [state, stateAt, present]
            rfl
          have either : conn.state = .established ∨ conn.state = .closeWait := by
            by_contra neither
            exact running (not_or.mp neither)
          refine numbered.then ?_
          rcases either with state | state
          · rw [state] at before ⊢
            rw [if_pos rfl]
            exact transitionConn_speaks marked other before (by rintro ⟨⟩) (by rintro ⟨⟩) (by rintro ⟨⟩) nowNs
          · rw [state] at before ⊢
            rw [if_neg (by rintro ⟨⟩)]
            exact transitionConn_speaks marked other before (by rintro ⟨⟩) (by rintro ⟨⟩) (by rintro ⟨⟩) nowNs
        · exact (numbered.trans (transitionConn_aside _ handle other same _ nowNs)).speaks

end Engine

/-! ### Segments -/

/-- What an outcome may ask for in a state. -/
structure Outcome.Fits (outcome : Outcome) (state : TcpState) : Prop where
  onward : ∀ next, outcome.newState = some next → next ≠ .synSent
  opening : state = .synSent → ∀ next, outcome.newState = some next → next ≠ .closed →
    next = .established ∧ outcome.connected = true
  connected : outcome.connected = true → state = .synSent ∧ outcome.newState = some .established
  delivered : 0 < outcome.delivered → state = .established ∧ outcome.newState ≠ some .closed

/-- An outcome that ends no handshake and delivers nothing. -/
theorem Outcome.Fits.of_silent {outcome : Outcome} {state : TcpState}
    (onward : ∀ next, outcome.newState = some next → next ≠ .synSent)
    (opening : state = .synSent → ∀ next, outcome.newState = some next → next = .closed)
    (connected : outcome.connected = false) (delivered : outcome.delivered = 0) :
    outcome.Fits state := by
  refine ⟨onward, fun waiting next target alive => absurd (opening waiting next target) alive, ?_, ?_⟩
  · intro connects
    rw [connected] at connects
    cases connects
  · intro delivers
    omega

theorem handleSynSent_fits (conn : TcpConn) (seg : ParsedSegment) (clock : Readings) :
    (handleSynSent conn seg clock).outcome.Fits .synSent := by
  have reset : ∀ outcome : Outcome, outcome.newState = some .closed → outcome.connected = false →
      outcome.delivered = 0 → outcome.Fits .synSent := by
    intro outcome target connected delivered
    refine .of_silent ?_ ?_ connected delivered
    · rintro next moved rfl
      rw [target] at moved
      cases moved
    · intro _ next moved
      rw [target] at moved
      exact (Option.some.inj moved).symm
  unfold handleSynSent
  split
  · split
    · exact reset _ rfl rfl rfl
    · exact .of_silent nofun nofun rfl rfl
  · split
    · exact reset _ rfl rfl rfl
    · split
      · exact .of_silent nofun nofun rfl rfl
      · split
        · exact reset _ rfl rfl rfl
        · split
          · exact reset _ rfl rfl rfl
          · refine ⟨?_, ?_, fun _ => ⟨rfl, rfl⟩, fun delivers => absurd delivers (Nat.lt_irrefl 0)⟩
            · rintro next ⟨⟩
              exact nofun
            · rintro _ next ⟨⟩ _
              exact ⟨rfl, rfl⟩

theorem handleEstablished_fits (conn : TcpConn) (seg : ParsedSegment) (clock : Readings)
    (sendBuf : ℕ) (mbufCtx : Option MbufInsertCtx) :
    (handleEstablished conn seg clock sendBuf mbufCtx).outcome.Fits .established := by
  dsimp only [handleEstablished]
  split
  · rename_i outcome rejected
    dsimp only [establishedChecks] at rejected
    repeat' split at rejected
    all_goals cases rejected
    all_goals refine .of_silent ?_ nofun rfl rfl
    all_goals rintro next ⟨⟩ <;> exact nofun
  · split
    · exact .of_silent nofun nofun rfl rfl
    · exact .of_silent nofun nofun rfl rfl
    · split
      · exact .of_silent nofun nofun rfl rfl
      · dsimp only [establishedData, takeFin]
        split
        · refine ⟨?_, nofun, nofun, fun _ => ⟨rfl, nofun⟩⟩
          rintro next ⟨⟩
          exact nofun
        · exact ⟨nofun, nofun, nofun, fun _ => ⟨rfl, nofun⟩⟩

theorem closeTransition_onward (state : TcpState) (finAcked peerHasFin : Bool) :
    (closeTransition state finAcked peerHasFin).1 ≠ some .synSent := by
  cases state <;> cases finAcked <;> cases peerHasFin <;> exact nofun

theorem handleClosePath_fits (conn : TcpConn) (seg : ParsedSegment) (clock : Readings)
    {state : TcpState} (opened : state ≠ .synSent) :
    (handleClosePath conn seg clock).outcome.Fits state := by
  have later : ∀ outcome : Outcome, outcome.newState ≠ some .synSent → outcome.connected = false →
      outcome.delivered = 0 → outcome.Fits state := by
    intro outcome onward connected delivered
    refine .of_silent ?_ (fun waiting => absurd waiting opened) connected delivered
    rintro next moved rfl
    exact onward moved
  dsimp only [handleClosePath]
  simp only [pawsClosePath_eq]
  split
  · exact later _ nofun rfl rfl
  · split
    · exact later _ nofun rfl rfl
    · split
      · exact later _ nofun rfl rfl
      · split
        · exact later _ nofun rfl rfl
        · split
          · exact later _ nofun rfl rfl
          · split
            · exact later _ nofun rfl rfl
            · exact later _ nofun rfl rfl
            · exact later _ (closeTransition_onward _ _ _) rfl rfl

theorem dispatch_fits (conn : TcpConn) (seg : ParsedSegment) (clock : Readings) (sendBuf : ℕ)
    (mbufCtx : Option MbufInsertCtx) :
    (dispatch conn seg clock sendBuf mbufCtx).outcome.Fits conn.state := by
  unfold dispatch
  split
  · rename_i state
    rw [state]
    exact handleSynSent_fits conn seg clock
  · rename_i state
    rw [state]
    exact handleEstablished_fits conn seg clock sendBuf mbufCtx
  all_goals rename_i state
  all_goals rw [state]
  all_goals first
    | exact handleClosePath_fits conn seg clock nofun
    | exact .of_silent nofun nofun rfl rfl

namespace Engine

variable (engine : Engine) (handle other : ConnHandle)

/-- A segment up to the state change: the dispatch, the notice of room, and the
retransmissions, which tell nothing else. -/
theorem tcpInput_prepared {conn : TcpConn} (present : engine.flowTable.get handle = some conn)
    (seg : ParsedSegment) (mbufCtx : Option MbufInsertCtx) (env : InputEnv)
    {dispatched : Dispatched}
    (processed : dispatched = dispatch conn seg env.clock engine.cfg.sendBufferBytes mbufCtx) :
    ∃ prepared, Tells engine prepared
        (if dispatched.outcome.writableHysteresisFired then [.writable handle env.nowNs] else []) ∧
      (∀ any, prepared.stateAt any = engine.stateAt any) ∧
      engine.tcpInput handle seg mbufCtx env =
        prepared.receiveSideAfter handle dispatched.outcome env := by
  have state := dispatch_state conn seg env.clock engine.cfg.sendBufferBytes mbufCtx
  rw [← processed] at state
  have written : ∀ any, (engine.written handle mbufCtx dispatched).stateAt any =
      engine.stateAt any := by
    intro any
    unfold stateAt
    dsimp only [Engine.written]
    rw [FlowTable.get_set present]
    split
    · rename_i same
      rw [same, present, Option.map_some, Option.map_some, state]
    · rfl
  obtain ⟨notified, built⟩ : ∃ notified, notified =
      if dispatched.outcome.writableHysteresisFired then
        (engine.written handle mbufCtx dispatched).pushEvent (.writable handle env.nowNs)
      else engine.written handle mbufCtx dispatched := ⟨_, rfl⟩
  refine ⟨notified.sendSideAfter handle dispatched.outcome env,
    .quiet ?_ (sendSideAfter_quiet _ handle dispatched.outcome env), ?_, ?_⟩
  · have same : Tells engine (engine.written handle mbufCtx dispatched) [] := .same rfl rfl
    rw [built]
    split
    · exact .after same (.note _ rfl)
    · exact same
  · intro any
    rw [stateAt_sendSideAfter, ← written any, built]
    split
    · exact stateAt_pushEvent _ any _
    · rfl
  · dsimp only [tcpInput]
    rw [present, built]
    dsimp only
    rw [← processed]

theorem handOver_tells (delivered rxHwTsNs emittedTsNs : ℕ) :
    ∃ news, Tells engine (engine.handOver handle delivered rxHwTsNs emittedTsNs) news ∧
      (news = [] ∨ ∃ event : InternalEvent, news = [event] ∧ event.isReadable = true ∧
        ∀ any, event.lifecycleOf any = (handle == any)) := by
  dsimp only [handOver, deliverReadable]
  split
  · exact ⟨[], .same rfl rfl, Or.inl rfl⟩
  · split
    · exact ⟨[], .same rfl rfl, Or.inl rfl⟩
    · exact ⟨_, ⟨⟨[_], rfl, rfl⟩, rfl⟩, Or.inr ⟨_, rfl, rfl, fun _ => rfl⟩⟩

theorem answer_quiet (tx : TxAction) (env : InputEnv)
    (kept : resets tx = true → engine.stateAt handle = some .closed) :
    Tells engine (engine.answer handle tx env) [] := by
  have stays : resets tx = true → Tells engine (engine.transitionConn handle .closed env.nowNs) [] := by
    intro reset
    have told := transitionConn_tells engine handle .closed env.nowNs
    rw [changeTold, kept reset] at told
    exact told
  unfold answer
  split
  · exact .refl engine
  · exact emitAck_quiet engine handle env.ackSent
  · exact stays rfl
  · exact stays rfl

/-- Another connection is told nothing. -/
theorem receiveSideAfter_aside (apart : other ≠ handle) (outcome : Outcome) (env : InputEnv) :
    Aside other engine (engine.receiveSideAfter handle outcome env) := by
  have elsewhere : ∀ event : InternalEvent, (∀ any, event.lifecycleOf any = (handle == any)) →
      ∀ current : Engine, Aside other current (current.pushEvent event) := by
    intro event about current
    refine pushEvent_aside current other event ?_
    rw [about]
    simpa using Ne.symm apart
  have waited : Aside other engine (engine.restartTimeWait handle outcome env.nowNs) :=
    (Tells.modify engine handle _).aside (stateAt_restartTimeWait engine handle other outcome _)
  dsimp only [receiveSideAfter]
  have answered : ∀ current : Engine, Aside other current (current.answer handle outcome.tx env) := by
    intro current
    unfold answer
    split
    · exact (Tells.refl current).aside rfl
    · refine (emitAck_quiet current handle env.ackSent).aside ?_
      unfold emitAck
      split
      · exact stateAt_modifyConn current handle other fun _ => rfl
      · rfl
    · exact transitionConn_aside current handle other apart _ env.nowNs
    · exact transitionConn_aside current handle other apart _ env.nowNs
  have delivered : ∀ current : Engine,
      Aside other current (current.deliverEvents handle outcome env) := by
    intro current
    dsimp only [deliverEvents]
    have connected : Aside other current
        (if outcome.connected then
          current.pushEvent (.connected handle env.rxHwTsNs env.nowNs)
        else current) := by
      split
      · exact elsewhere _ (fun _ => rfl) current
      · exact (Tells.refl current).aside rfl
    generalize (if outcome.connected then
      current.pushEvent (.connected handle env.rxHwTsNs env.nowNs)
        else current) = told at connected ⊢
    split
    · refine connected.trans ?_
      rcases handOver_tells told handle outcome.delivered env.rxHwTsNs env.nowNs with
        ⟨news, tells, either⟩
      refine ⟨news, tells, ?_, stateAt_handOver told handle other _ _ _⟩
      rcases either with rfl | ⟨event, rfl, _, about⟩
      · rfl
      · rw [List.filter_cons_of_neg, List.filter_nil]
        rw [about]
        simpa using Ne.symm apart
    · exact connected
  have finished : ∀ current : Engine,
      Aside other current (current.finishClosed handle outcome env) := by
    intro current
    dsimp only [finishClosed]
    split
    · have reported := elsewhere (.closed handle 0 env.nowNs) (fun _ => rfl) current
      split
      · split
        · refine reported.trans ((removeConn_quiet _ handle).aside ?_)
          rw [stateAt_removeConn, if_neg apart]
        · exact reported
      · exact reported
    · exact (Tells.refl current).aside rfl
  refine .trans (.trans (.trans ?_ (answered _)) (delivered _)) (finished _)
  split
  · exact waited.trans (transitionConn_aside _ handle other apart _ env.nowNs)
  · exact waited

section Chapter

variable {engine handle} {outcome : Outcome} {state : TcpState}

theorem deliverEvents_silent (connected : outcome.connected = false)
    (delivered : outcome.delivered = 0) (env : InputEnv) :
    engine.deliverEvents handle outcome env = engine := by
  simp [deliverEvents, connected, delivered]

theorem finishClosed_open (closed : outcome.closed = false) (env : InputEnv) :
    engine.finishClosed handle outcome env = engine := by
  simp [finishClosed, closed]

/-- Data is handed over behind a change of state, if there was one. -/
theorem handOver_speaks {next : TcpState} {waited moved : Engine}
    (before : waited.stateAt handle = some .established) (alive : next ≠ .closed)
    (onward : next ≠ .synSent) {changeNs : ℕ}
    (told : Tells waited moved (waited.changeTold handle next changeNs))
    (state : moved.stateAt handle = some next) (delivered rxHwTsNs emittedTsNs : ℕ) :
    Speaks handle waited (moved.handOver handle delivered rxHwTsNs emittedTsNs) := by
  rcases handOver_tells moved handle delivered rxHwTsNs emittedTsNs with ⟨news, tells, either⟩
  refine ⟨_, told.trans tells, fun _ => ?_⟩
  rw [stateAt_handOver, state, before, List.filter_append]
  by_cases differs : TcpState.established = next
  · have silent : waited.changeTold handle next changeNs = [] := by
      rw [changeTold, before]
      exact if_pos differs
    rw [silent, ← differs, List.filter_nil]
    rcases either with rfl | ⟨event, rfl, data, about⟩
    · exact .silent _
    · rw [List.nil_append, List.filter_cons_of_pos (by simp [about]), List.filter_nil]
      exact .readable event data
  · rw [changeTold_of waited handle before differs]
    have change : [InternalEvent.stateChange handle .established next changeNs].filter
        (InternalEvent.lifecycleOf handle) = [.stateChange handle .established next changeNs] := by
      simp [InternalEvent.lifecycleOf]
    rw [change]
    rcases either with rfl | ⟨event, rfl, data, about⟩
    · exact .moved (by nofun) alive onward changeNs
    · rw [List.filter_cons_of_pos (by simp [about]), List.filter_nil]
      exact .movedReadable alive onward changeNs event data

/-- A connection that stays in its state may be handed data. -/
theorem receiveSideAfter_stays (fits : outcome.Fits state) (closes : outcome.Closes)
    (before : engine.stateAt handle = some state) (target : outcome.newState = none)
    (env : InputEnv) : Speaks handle engine (engine.receiveSideAfter handle outcome env) := by
  have connected : outcome.connected = false := by
    by_contra connects
    have moved := (fits.connected (Bool.eq_true_of_not_eq_false connects)).2
    rw [target] at moved
    cases moved
  have running : outcome.closed = false := by
    by_contra ends
    have moved := closes.closed.mp (Bool.eq_true_of_not_eq_false ends)
    rw [target] at moved
    cases moved
  have kept : resets outcome.tx = true →
      (engine.restartTimeWait handle outcome env.nowNs).stateAt handle = some .closed := by
    intro reset
    have moved := closes.resets reset
    rw [target] at moved
    cases moved
  have waited : Aside handle engine (engine.restartTimeWait handle outcome env.nowNs) :=
    (Tells.modify engine handle _).aside (stateAt_restartTimeWait engine handle handle outcome _)
  have answered := answer_quiet _ handle outcome.tx env kept
  have state' := stateAt_answer (engine.restartTimeWait handle outcome env.nowNs) handle handle
    outcome.tx env
  dsimp only [receiveSideAfter]
  rw [target, finishClosed_open running]
  dsimp only
  have unmoved : (engine.restartTimeWait handle outcome env.nowNs).stateAt handle = some state := by
    rw [stateAt_restartTimeWait, before]
  have same : ((engine.restartTimeWait handle outcome env.nowNs).answer handle outcome.tx
      env).stateAt handle = some state := by
    rw [state', unmoved]
    split
    · rename_i reset
      rw [kept reset.2] at unmoved
      exact unmoved
    · rfl
  by_cases delivered : 0 < outcome.delivered
  · rcases fits.delivered delivered with ⟨rfl, _⟩
    refine waited.then ?_
    dsimp only [deliverEvents]
    rw [connected, if_pos delivered, if_neg Bool.false_ne_true]
    have silent : (engine.restartTimeWait handle outcome env.nowNs).changeTold handle .established
        env.nowNs = [] := by
      rw [changeTold, unmoved]
      exact if_pos rfl
    rw [← silent] at answered
    exact handOver_speaks unmoved (by nofun) (by nofun) answered same _ _ _
  · rw [deliverEvents_silent connected (by omega)]
    exact (waited.trans (answered.aside (same.trans unmoved.symm))).speaks

/-- A connection that is closed is reported closed and removed. -/
theorem receiveSideAfter_ends (fits : outcome.Fits state) (closes : outcome.Closes)
    (before : engine.stateAt handle = some state) (target : outcome.newState = some .closed)
    (env : InputEnv) : Speaks handle engine (engine.receiveSideAfter handle outcome env) := by
  have connected : outcome.connected = false := by
    by_contra connects
    have moved := (fits.connected (Bool.eq_true_of_not_eq_false connects)).2
    rw [target] at moved
    cases moved
  have delivered : outcome.delivered = 0 := by
    by_contra delivers
    exact (fits.delivered (Nat.pos_of_ne_zero delivers)).2 target
  have gone := stateAt_receiveSideAfter engine handle handle closes env before
  rw [if_pos rfl, Outcome.stateAfter, if_pos target] at gone
  have waited : Aside handle engine (engine.restartTimeWait handle outcome env.nowNs) :=
    (Tells.modify engine handle _).aside (stateAt_restartTimeWait engine handle handle outcome _)
  have unmoved : (engine.restartTimeWait handle outcome env.nowNs).stateAt handle = some state := by
    rw [stateAt_restartTimeWait, before]
  dsimp only [receiveSideAfter] at gone ⊢
  rw [target, deliverEvents_silent connected delivered] at gone ⊢
  dsimp only at gone ⊢
  generalize engine.restartTimeWait handle outcome env.nowNs = waiting at waited unmoved gone ⊢
  have ended : (waiting.transitionConn handle .closed env.nowNs).stateAt handle = some .closed := by
    rw [stateAt_transitionConn, if_pos rfl, unmoved]
    rfl
  have answered := answer_quiet _ handle outcome.tx env fun _ => ended
  have still : ((waiting.transitionConn handle .closed env.nowNs).answer handle outcome.tx
      env).stateAt handle = some .closed := by
    rw [stateAt_answer, ended]
    split <;> rfl
  generalize (waiting.transitionConn handle .closed env.nowNs).answer handle outcome.tx env =
    current at answered still gone ⊢
  refine waited.then (closing_speaks waiting handle unmoved 0 env.nowNs env.nowNs
    (answered.aside (still.trans ended.symm)) ?_ gone)
  dsimp only [finishClosed]
  rw [if_pos (closes.closed.mpr target)]
  split
  · split
    · exact removeConn_quiet _ handle
    · exact .refl _
  · exact .refl _

/-- A connection that changes its state ends the handshake or may be handed data. -/
theorem receiveSideAfter_moves (fits : outcome.Fits state) (closes : outcome.Closes)
    (before : engine.stateAt handle = some state) {next : TcpState}
    (target : outcome.newState = some next) (alive : next ≠ .closed) (env : InputEnv) :
    Speaks handle engine (engine.receiveSideAfter handle outcome env) := by
  have running : outcome.closed = false := by
    by_contra ends
    have moved := closes.closed.mp (Bool.eq_true_of_not_eq_false ends)
    rw [target] at moved
    exact alive (Option.some.inj moved)
  have going : resets outcome.tx = false := by
    by_contra reset
    have moved := closes.resets (Bool.eq_true_of_not_eq_false reset)
    rw [target] at moved
    exact alive (Option.some.inj moved)
  have onward := fits.onward next target
  have waited : Aside handle engine (engine.restartTimeWait handle outcome env.nowNs) :=
    (Tells.modify engine handle _).aside (stateAt_restartTimeWait engine handle handle outcome _)
  have unmoved : (engine.restartTimeWait handle outcome env.nowNs).stateAt handle = some state := by
    rw [stateAt_restartTimeWait, before]
  dsimp only [receiveSideAfter]
  rw [target, finishClosed_open running]
  dsimp only
  generalize engine.restartTimeWait handle outcome env.nowNs = waiting at waited unmoved ⊢
  refine waited.then ?_
  have state' : (waiting.transitionConn handle next env.nowNs).stateAt handle = some next := by
    rw [stateAt_transitionConn, if_pos rfl, unmoved]
    rfl
  have told := Tells.quiet (transitionConn_tells waiting handle next env.nowNs)
    (answer_quiet _ handle outcome.tx env fun reset => by rw [going] at reset; cases reset)
  have still : ((waiting.transitionConn handle next env.nowNs).answer handle outcome.tx
      env).stateAt handle = some next := by
    rw [stateAt_answer, state', going]
    exact if_neg fun reset => Bool.false_ne_true reset.2
  generalize (waiting.transitionConn handle next env.nowNs).answer handle outcome.tx env =
    current at told still ⊢
  by_cases connected : outcome.connected = true
  · rcases fits.connected connected with ⟨rfl, moved⟩
    rw [target] at moved
    rcases Option.some.inj moved with rfl
    have delivered : outcome.delivered = 0 := by
      by_contra delivers
      cases (fits.delivered (Nat.pos_of_ne_zero delivers)).1
    have pushed : current.deliverEvents handle outcome env =
        current.pushEvent (.connected handle env.rxHwTsNs env.nowNs) := by
      simp [deliverEvents, connected, delivered]
    rw [pushed]
    refine ⟨_, told.trans (.note _ rfl), fun _ => ?_⟩
    rw [stateAt_pushEvent, still, unmoved, changeTold_of waiting handle unmoved (by nofun)]
    simpa [InternalEvent.lifecycleOf] using Told.established env.nowNs env.rxHwTsNs env.nowNs
  · have silent : outcome.connected = false := by simpa using connected
    have opened : state ≠ .synSent :=
      fun waiting => connected (fits.opening waiting next target alive).2
    by_cases delivered : 0 < outcome.delivered
    · rcases fits.delivered delivered with ⟨rfl, _⟩
      dsimp only [deliverEvents]
      rw [silent, if_pos delivered, if_neg Bool.false_ne_true]
      exact handOver_speaks unmoved alive onward told still _ _ _
    · rw [deliverEvents_silent silent (by omega)]
      refine ⟨_, told, fun _ => ?_⟩
      rw [still, unmoved]
      exact changeTold_told waiting handle unmoved opened alive onward env.nowNs

end Chapter

theorem tcpInput_speaks (seg : ParsedSegment) (mbufCtx : Option MbufInsertCtx) (env : InputEnv) :
    Speaks other engine (engine.tcpInput handle seg mbufCtx env) := by
  cases present : engine.flowTable.get handle with
  | none =>
      rw [tcpInput_absent present]
      exact ((Tells.refl engine).aside rfl).speaks
  | some conn =>
      obtain ⟨dispatched, processed⟩ : ∃ dispatched, dispatched =
        dispatch conn seg env.clock engine.cfg.sendBufferBytes mbufCtx := ⟨_, rfl⟩
      have fits := dispatch_fits conn seg env.clock engine.cfg.sendBufferBytes mbufCtx
      have closes := dispatch_closes conn seg env.clock engine.cfg.sendBufferBytes mbufCtx
      rw [← processed] at fits closes
      rcases tcpInput_prepared engine handle present seg mbufCtx env processed with
        ⟨prepared, told, states, split⟩
      have before : prepared.stateAt handle = some conn.state := by
        rw [states, stateAt, present]
        rfl
      have noticed : Aside other engine prepared := by
        refine ⟨_, told, ?_, states other⟩
        split <;> rfl
      rw [split]
      refine noticed.then ?_
      by_cases same : other = handle
      · subst same
        cases target : dispatched.outcome.newState with
        | none => exact receiveSideAfter_stays fits closes before target env
        | some next =>
            by_cases ends : next = .closed
            · exact receiveSideAfter_ends fits closes before (ends ▸ target) env
            · exact receiveSideAfter_moves fits closes before target ends env
      · exact (receiveSideAfter_aside prepared handle other same dispatched.outcome env).speaks

end Engine

end DpdkTcp
