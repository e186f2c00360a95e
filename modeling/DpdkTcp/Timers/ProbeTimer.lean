import DpdkTcp.Timers.Custody

/-!
# One probe timer

A connection knows its probe timer by name, and arms one only while it knows
none. A round handles all fired timers before anything else happens, so no
probe timer is armed while one waits for its handler: every live probe timer is
the one its connection knows.
-/

namespace DpdkTcp

/-- As long as fired timers wait for their handlers, only handlers run. -/
def Host.inRound (host : Host) : ApiOp → Bool
  | .system (.call (.fireNext _)) => true
  | _ => host.pending.isEmpty

/-- A dispatch touches no timer but that of the SYN. -/
theorem dispatch_timerOf {kind : TimerKind} (beside : kind ≠ .synRetrans) (conn : TcpConn)
    (seg : ParsedSegment) (clock : Readings) (sendBuf : ℕ) (mbufCtx : Option MbufInsertCtx) :
    (dispatch conn seg clock sendBuf mbufCtx).conn.timerOf kind = conn.timerOf kind := by
  by_cases opening : conn.state = .synSent
  · unfold dispatch
    rw [opening]
    dsimp only [handleSynSent]
    split
    · split <;> rfl
    · split
      · rfl
      · split
        · rfl
        · split
          · rfl
          · split
            · rfl
            · dsimp only
              rw [maybeSeed_only]
              cases kind with
              | synRetrans => exact absurd rfl beside
              | rto | tlp | apiPublic => rfl
  · have same := dispatch_sameOwner opening seg clock sendBuf mbufCtx
    cases kind with
    | rto => exact same.rtoTimerId
    | tlp => exact same.tlpTimerId
    | synRetrans => exact absurd rfl beside
    | apiPublic => rfl

theorem dispatch_tlpTimerId (conn : TcpConn) (seg : ParsedSegment) (clock : Readings)
    (sendBuf : ℕ) (mbufCtx : Option MbufInsertCtx) :
    (dispatch conn seg clock sendBuf mbufCtx).conn.tlpTimerId = conn.tlpTimerId :=
  dispatch_timerOf (by decide : TimerKind.tlp ≠ .synRetrans) conn seg clock sendBuf mbufCtx

theorem dispatch_rtoTimerId (conn : TcpConn) (seg : ParsedSegment) (clock : Readings)
    (sendBuf : ℕ) (mbufCtx : Option MbufInsertCtx) :
    (dispatch conn seg clock sendBuf mbufCtx).conn.rtoTimerId = conn.rtoTimerId :=
  dispatch_timerOf (by decide : TimerKind.rto ≠ .synRetrans) conn seg clock sendBuf mbufCtx

/-- Only the handler of the probe timer forgets its name. -/
theorem Edit.tlpTimerId {edit : Edit} {conn : TcpConn} (alone : edit.Alone conn)
    (beside : ∀ id, edit ≠ .strike .tlp id) : (edit.apply conn).tlpTimerId = conn.tlpTimerId := by
  cases edit with
  | dispatch seg clock sendBuf mbufCtx => exact dispatch_tlpTimerId conn seg clock sendBuf mbufCtx
  | strike kind id =>
      cases kind with
      | tlp => exact absurd rfl (beside id)
      | rto | synRetrans | apiPublic => rfl
  | forget | arm | insert => exact alone.elim
  | _ => rfl

namespace Engine

/-- Every live probe timer is the one its connection knows, and none is a fired one. -/
structure Tethered (engine : Engine) (pending : List (TimerId × TimerNode)) : Prop where
  sound : engine.timerWheel.Sound
  known : ∀ slot node, engine.timerWheel.Live slot node → node.kind = .tlp →
    ∃ conn, engine.flowTable.get node.ownerHandle = some conn ∧
      conn.tlpTimerId = some ⟨slot, node.generation⟩
  apart : ∀ id fired, (id, fired) ∈ pending → fired.kind = .tlp →
    ∀ slot node, engine.timerWheel.Live slot node → node.kind = .tlp →
      id ≠ ⟨slot, node.generation⟩

namespace Tethered

variable {before after : Engine} {pending : List (TimerId × TimerNode)} {handle : ConnHandle}
  {conn conn' : TcpConn}

/-- A write that keeps the name keeps the probe timers that are left. -/
theorem write (tethered : Tethered before pending)
    (present : before.flowTable.get handle = some conn)
    (written : Writes handle before after (some conn')) (sound : after.timerWheel.Sound)
    (fewer : ∀ slot node, after.timerWheel.Live slot node → node.kind = .tlp →
      before.timerWheel.Live slot node)
    (keeps : ∀ slot node, after.timerWheel.Live slot node → node.kind = .tlp →
      conn.tlpTimerId = some ⟨slot, node.generation⟩ → conn'.tlpTimerId = conn.tlpTimerId) :
    Tethered after pending := by
  refine ⟨sound, fun slot node live kind => ?_, fun id fired member isProbe slot node live kind =>
    tethered.apart id fired member isProbe slot node (fewer slot node live kind) kind⟩
  rcases tethered.known slot node (fewer slot node live kind) kind with ⟨owner, found, name⟩
  rw [written]
  split
  · rename_i same
    rw [same, present] at found
    cases found
    exact ⟨conn', rfl, (keeps slot node live kind name).trans name⟩
  · exact ⟨owner, found, name⟩

/-- A timer is armed; a probe timer only where the connection knew none. -/
theorem arm (tethered : Tethered before pending) (kind : TimerKind) (nowNs delayUs : ℕ)
    (own : kind ≠ .apiPublic) (gate : kind = .tlp → conn.tlpTimerId = none)
    (idle : kind = .tlp → pending = []) (present : before.flowTable.get handle = some conn)
    (written : Writes handle before after
      (some (conn.armed kind (before.addTimer handle kind nowNs delayUs).2)))
    (wheel : after.timerWheel = (before.addTimer handle kind nowNs delayUs).1.timerWheel) :
    Tethered after pending := by
  have adds := (tethered.sound.add nowNs ⟨nowNs + delayUs * 1000, handle, kind, 0, 0#32, false⟩)
  rw [show before.timerWheel.add nowNs ⟨nowNs + delayUs * 1000, handle, kind, 0, 0#32, false⟩ =
    ((before.addTimer handle kind nowNs delayUs).1.timerWheel,
      (before.addTimer handle kind nowNs delayUs).2) from rfl, ← wheel] at adds
  generalize (before.addTimer handle kind nowNs delayUs).2 = id at adds written
  rcases adds with ⟨sound, adds⟩
  have nodes : ∀ slot node, after.timerWheel.Live slot node →
      before.timerWheel.Live slot node ∨
        slot = id.slot ∧ node.generation = id.generation ∧ node.kind = kind ∧
          node.ownerHandle = handle := by
    rintro slot node ⟨held, alive⟩
    rw [adds.nodes] at held
    split at held
    · rename_i here
      cases held
      exact .inr ⟨here, rfl, rfl, rfl⟩
    · exact .inl ⟨held, alive⟩
  by_cases probing : kind = .tlp
  · subst probing
    refine ⟨sound, fun slot node live isProbe => ?_, ?_⟩
    · rw [written]
      rcases nodes slot node live with old | ⟨rfl, generation, _, owner⟩
      · rcases tethered.known slot node old isProbe with ⟨other, found, name⟩
        have differs : node.ownerHandle ≠ handle := by
          intro same
          rw [same, present] at found
          cases found
          rw [gate rfl] at name
          cases name
        rw [if_neg differs]
        exact ⟨other, found, name⟩
      · rw [if_pos owner, generation]
        exact ⟨_, rfl, rfl⟩
    · rw [idle rfl]
      exact nofun
  · have fewer : ∀ slot node, after.timerWheel.Live slot node → node.kind = .tlp →
        before.timerWheel.Live slot node := by
      intro slot node live isProbe
      rcases nodes slot node live with old | ⟨_, _, same, _⟩
      · exact old
      · exact absurd (same.symm.trans isProbe) probing
    refine tethered.write present written sound fewer fun _ _ _ _ _ => ?_
    cases kind with
    | tlp => exact absurd rfl probing
    | apiPublic => exact absurd rfl own
    | rto | synRetrans => rfl

end Tethered

/-- Deeds keep the probe timers with their connections, where a probe timer is struck off only
if it fired, and armed only if none waits for its handler. -/
theorem Deed.tethered {allowed : Edit → Prop} {handle : ConnHandle} {before after : Engine}
    {pending : List (TimerId × TimerNode)} (deed : Deed allowed handle before after)
    (fired : ∀ id, allowed (.strike .tlp id) → ∃ node, (id, node) ∈ pending ∧ node.kind = .tlp)
    (idle : ∀ id, allowed (.arm .tlp id) → pending = []) (tethered : Tethered before pending) :
    Tethered after pending := by
  cases deed with
  | aside conns wheel record =>
      refine ⟨by rw [wheel]; exact tethered.sound, ?_, ?_⟩
      · rw [wheel]
        intro slot node live kind
        rw [conns]
        exact tethered.known slot node live kind
      · rw [wheel]
        exact tethered.apart
  | edit edit isAllowed present alone written wheel record =>
      refine tethered.write present written (by rw [wheel]; exact tethered.sound)
        (fun _ _ live _ => wheel ▸ live) fun slot node live kind name => ?_
      by_cases striking : ∃ id, edit = .strike .tlp id
      · rcases striking with ⟨id, rfl⟩
        rcases fired id isAllowed with ⟨node', member, isProbe⟩
        have same : id = ⟨slot, node.generation⟩ := Option.some.inj (Eq.trans (Eq.symm alone) name)
        exact absurd same (tethered.apart id node' member isProbe slot node (wheel ▸ live) kind)
      · exact edit.tlpTimerId alone fun id same => striking ⟨id, same⟩
  | @arm conn kind nowNs delayUs isAllowed own gate present written wheel record =>
      refine tethered.arm kind nowNs delayUs own (fun probing => ?_)
        (fun probing => idle _ (probing ▸ isAllowed)) present written wheel
      have passes := gate probing
      simp only [TcpConn.tlpArmGatePasses, Bool.and_eq_true] at passes
      exact Option.isNone_iff_eq_none.mp passes.1.1.1.2
  | stop kind id present named written wheel record =>
      refine tethered.write present written (by rw [wheel]; exact tethered.sound.cancel id)
        (fun _ _ live _ => (TimerWheel.live_cancel (wheel ▸ live)).1) fun slot node live _ name => ?_
      cases kind with
      | tlp =>
          have other := (TimerWheel.live_cancel (wheel ▸ live)).2
          exact absurd (Option.some.inj (name.symm.trans named)) other
      | rto | synRetrans | apiPublic => rfl
  | forget id _ present written wheel record =>
      exact tethered.write present written (by rw [wheel]; exact tethered.sound.cancel id)
        (fun _ _ live _ => (TimerWheel.live_cancel (wheel ▸ live)).1) fun _ _ _ _ _ => rfl
  | @remove conn present written wheel record =>
      have cancelled := wheel.trans (cancelTimers_wheel before conn.allTimerIds)
      have left : ∀ slot node, after.timerWheel.Live slot node →
          before.timerWheel.Live slot node ∧
            (⟨slot, node.generation⟩ : TimerId) ∉ conn.allTimerIds :=
        fun slot node live => TimerWheel.live_cancelAll (cancelled ▸ live)
      refine ⟨?_, fun slot node live kind => ?_, fun id fired member isProbe slot node live kind =>
        tethered.apart id fired member isProbe slot node (left slot node live).1 kind⟩
      · rw [cancelled]
        have cancels : ∀ (ids : List TimerId) (wheel : TimerWheel), wheel.Sound →
            (ids.foldl TimerWheel.cancel wheel).Sound := by
          intro ids
          induction ids with
          | nil => exact fun _ sound => sound
          | cons id rest ih => exact fun wheel sound => ih _ (sound.cancel id)
        exact cancels _ _ tethered.sound
      · rcases left slot node live with ⟨old, unlisted⟩
        rcases tethered.known slot node old kind with ⟨owner, found, name⟩
        rw [written, if_neg]
        · exact ⟨owner, found, name⟩
        · intro same
          rw [same, present] at found
          cases found
          refine unlisted (List.mem_append_left _ (List.mem_append_right _ ?_))
          exact Option.mem_toList.mpr name
  | insert tuple iss ourMss opts nowNs isAllowed vacant written wheel record =>
      refine ⟨by rw [wheel]; exact tethered.sound, ?_, by rw [wheel]; exact tethered.apart⟩
      rw [wheel]
      intro slot node live kind
      rcases tethered.known slot node live kind with ⟨owner, found, name⟩
      rw [written, if_neg]
      · exact ⟨owner, found, name⟩
      · intro same
        rw [same, vacant] at found
        cases found

theorem Work.tethered {allowed : Edit → Prop} {before after : Engine}
    {pending : List (TimerId × TimerNode)} (work : Work allowed before after)
    (fired : ∀ id, allowed (.strike .tlp id) → ∃ node, (id, node) ∈ pending ∧ node.kind = .tlp)
    (idle : ∀ id, allowed (.arm .tlp id) → pending = []) (tethered : Tethered before pending) :
    Tethered after pending := by
  induction work with
  | refl => exact tethered
  | tail _ deed ih =>
      rcases deed with ⟨handle, deed⟩
      exact deed.tethered fired idle ih

end Engine

namespace Host

variable {host : Host}

/-- The probe timers of a host are those its connections know. -/
def Tethered (host : Host) : Prop :=
  host.engine.Tethered host.pending

theorem tethered_start (cfg : EngineConfig) (maxConnections eventSoftCap : ℕ) :
    (start cfg maxConnections eventSoftCap).Tethered :=
  ⟨TimerWheel.sound_new, fun _ _ live => (nomatch live.1), nofun⟩

/-- A probe timer that is struck off is the one whose handler runs. -/
theorem probe_of_strikes {op : EngineOp} {id : TimerId}
    (strikes : host.permits op (.strike .tlp id) = true) :
    ∃ node, (id, node) ∈ host.pending ∧ node.kind = .tlp := by
  cases op with
  | fireNext env =>
      rcases (Option.any_eq_true _ _).mp strikes with ⟨⟨firedId, node⟩, next, same⟩
      rcases of_decide_eq_true same with ⟨rfl, kind⟩
      exact ⟨node, List.mem_of_mem_head? next, kind⟩
  | _ => cases strikes

theorem Tethered.step (tethered : host.Tethered) {op : EngineOp}
    (inRound : host.inRound (.system (.call op)) = true) : (host.step op).Tethered := by
  have worked : (∀ nowNs, op ≠ .advance nowNs) →
      (host.step op).engine.Tethered host.pending := by
    intro still
    refine (host.step_work still).tethered (fun id => probe_of_strikes) (fun id arming => ?_) tethered
    cases op with
    | fireNext => cases arming
    | _ => exact List.isEmpty_iff.mp inRound
  cases op with
  | advance nowNs =>
      have idle : host.pending = [] := List.isEmpty_iff.mp inRound
      have sheds := host.engine.timerWheel.advance_sheds nowNs
      have before : ∀ slot node, (host.engine.timerWheel.advance nowNs).wheel.Live slot node →
          host.engine.timerWheel.Live slot node := by
        rintro slot node ⟨held, alive⟩
        rcases sheds.nodes slot with kept | emptied
        · exact ⟨kept ▸ held, alive⟩
        · rw [emptied] at held
          cases held
      refine ⟨sheds.sound tethered.sound, fun slot node live => tethered.known slot node
        (before slot node live), ?_⟩
      intro id fired member _ slot node live _ same
      dsimp only [Host.step] at member
      rw [idle, List.nil_append] at member
      have emptied := (sheds.fires id fired member).2.2.2
      rw [same] at emptied
      exact absurd (live.1.symm.trans emptied) nofun
  | fireNext env =>
      have fired := worked nofun
      dsimp only [Host.step] at fired ⊢
      split
      · exact tethered
      · rename_i next
        rw [next] at fired
        exact ⟨fired.sound, fired.known, fun id node member =>
          fired.apart id node (List.mem_cons_of_mem _ member)⟩
  | connect | send | close | segment | flush | reap | twSkip => exact worked nofun

theorem Tethered.apiStep (tethered : host.Tethered) {op : ApiOp} (running : op.running = true)
    (inRound : host.inRound op = true) : (host.apiStep op).Tethered := by
  cases op with
  | system op =>
      cases op with
      | call op => exact tethered.step inRound
      | complete index =>
          have freed : Engine.Deeds (fun _ => False) 0 host.engine
              (host.engine.completeFrame index) := Engine.completeFrame_deeds _ 0 index
          exact freed.work.tethered (fun _ => False.elim) (fun _ => False.elim) tethered
      | drainEvents max => exact ⟨tethered.sound, tethered.known, tethered.apart⟩
      | drop => cases running
  | timerAdd deadlineNs userData nowNs =>
      have added := tethered.sound.add nowNs
        ⟨alignUpToTickNs deadlineNs, 0, .apiPublic, userData, 0#32, false⟩
      have before : ∀ slot node, (host.apiStep (.timerAdd deadlineNs userData
          nowNs)).engine.timerWheel.Live slot node → node.kind = .tlp →
          host.engine.timerWheel.Live slot node := by
        rintro slot node ⟨held, alive⟩ kind
        rw [show (host.apiStep (.timerAdd deadlineNs userData nowNs)).engine.timerWheel =
          (host.engine.timerWheel.add nowNs _).1 from rfl, added.2.nodes] at held
        split at held
        · cases held
          cases kind
        · exact ⟨held, alive⟩
      exact ⟨added.1, fun slot node live kind => tethered.known slot node
        (before slot node live kind) kind, fun id fired member isProbe slot node live kind =>
        tethered.apart id fired member isProbe slot node (before slot node live kind) kind⟩
  | timerCancel id =>
      exact ⟨tethered.sound.cancel id, fun slot node live => tethered.known slot node
        (TimerWheel.live_cancel live).1, fun id fired member isProbe slot node live =>
        tethered.apart id fired member isProbe slot node (TimerWheel.live_cancel live).1⟩

/-- No connection has two live probe timers. -/
theorem Tethered.one_probe_timer (tethered : host.Tethered) {first second : ℕ}
    {node other : TimerNode} (live : host.engine.timerWheel.Live first node)
    (alive : host.engine.timerWheel.Live second other) (isProbe : node.kind = .tlp)
    (probes : other.kind = .tlp) (owner : node.ownerHandle = other.ownerHandle) :
    first = second := by
  rcases tethered.known first node live isProbe with ⟨conn, present, name⟩
  rcases tethered.known second other alive probes with ⟨conn', found, named⟩
  rw [owner, found] at present
  cases present
  exact congrArg TimerId.slot (Option.some.inj (name.symm.trans named))

end Host

end DpdkTcp
