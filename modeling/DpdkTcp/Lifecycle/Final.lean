import DpdkTcp.Lifecycle.Machine
import DpdkTcp.Lifecycle.Order
import DpdkTcp.Window.Advert

/-!
# After `close_conn`

A connection that is closed by the application stays closed, unless the call
came while its handshake was under way: `close_conn` then returns without doing
anything, and the answer of the peer still opens the connection.
-/

namespace DpdkTcp

open Serial

/-! ### What stays behind -/

theorem Told.alive {handle : ConnHandle} {slot next : Option TcpState} {news : List InternalEvent}
    (told : Told handle slot news next) (alive : slot ≠ some .closed) : next ≠ some .closed := by
  cases told with
  | silent => exact alive
  | established | readable | ended => exact nofun
  | moved _ onward => exact fun closed => onward (Option.some.inj closed)
  | movedReadable onward => exact fun closed => onward (Option.some.inj closed)

/-- Only the end of a handshake is told as `Connected`. -/
theorem Told.not_connected {handle : ConnHandle} {slot next : Option TcpState}
    {news : List InternalEvent} (told : Told handle slot news next) (opened : slot ≠ some .synSent) :
    news.any InternalEvent.isConnected = false ∧ next ≠ some .synSent := by
  cases told with
  | silent => exact ⟨rfl, opened⟩
  | established => exact absurd rfl opened
  | readable event data =>
      cases event with
      | readable => exact ⟨rfl, nofun⟩
      | _ => cases data
  | moved _ _ onward => exact ⟨rfl, fun waiting => onward (Option.some.inj waiting)⟩
  | movedReadable _ onward _ event data =>
      cases event with
      | readable => exact ⟨rfl, fun waiting => onward (Option.some.inj waiting)⟩
      | _ => cases data
  | ended => exact ⟨rfl, nofun⟩

namespace Host

variable {host : Host}

/-- The states of a connection that is past its handshake come in order. -/
theorem systemStep_later {op : SystemOp} {handle : ConnHandle} {conn after : TcpConn}
    (present : host.engine.flowTable.get handle = some conn) (opened : conn.state ≠ .synSent)
    (live : (host.systemStep op).engine.flowTable.get handle = some after) :
    conn.state.Later after.state := by
  have received := host.systemStep_receiver op live
  rw [present] at received
  cases received with
  | kept same state beside => exact state
  | segment seg mbufCtx env called dispatched processed same state =>
      subst processed
      exact (dispatch_later opened seg env.clock host.engine.cfg.sendBufferBytes mbufCtx).trans state

/-- No slot holds a connection in CLOSED. -/
def Unclosed (host : Host) : Prop :=
  ∀ handle, host.engine.stateAt handle ≠ some .closed

theorem unclosed_start (cfg : EngineConfig) (maxConnections eventSoftCap : ℕ) :
    (Host.start cfg maxConnections eventSoftCap).Unclosed := by
  intro handle
  rw [Engine.stateAt, Host.get_start]
  rintro ⟨⟩

theorem stateAt_drop (host : Host) (handle : ConnHandle) :
    (host.systemStep .drop).engine.stateAt handle = none := by
  rw [Engine.stateAt, systemStep, drop_get]
  rfl

theorem lifecycle_drop (host : Host) (handle : ConnHandle) :
    (host.systemStep .drop).engine.lifecycle handle = host.engine.lifecycle handle := by
  dsimp only [systemStep, Engine.drop]
  rw [Engine.releaseMbufs_only]
  rfl

theorem Unclosed.step (unclosed : host.Unclosed) (op : SystemOp) : (host.systemStep op).Unclosed := by
  intro handle
  by_cases live : op.live = true
  · cases host.systemStep_story live handle with
    | chapter news lifecycle same told => exact (told (unclosed handle)).alive (unclosed handle)
    | opening nowNs vacant more lifecycle state =>
        rw [state]
        exact nofun
  · cases op with
    | drop =>
        rw [stateAt_drop]
        exact nofun
    | _ => exact absurd rfl live

/-- Of a connection in SYN_SENT, the SYN alone is in flight. -/
def SynInFlight (host : Host) : Prop :=
  ∀ handle conn, host.engine.flowTable.get handle = some conn → conn.state = .synSent →
    conn.sndNxt = seqAdd conn.sndUna 1

theorem synInFlight_start (cfg : EngineConfig) (maxConnections eventSoftCap : ℕ) :
    (Host.start cfg maxConnections eventSoftCap).SynInFlight := by
  intro handle conn live
  rw [Host.get_start] at live
  cases live

end Host

/-- What the engine keeps of a connection keeps the edges of an unanswered SYN. -/
theorem KeptAs.synInFlight {entries : List RetransEntry} {mid after : TcpConn}
    (kept : KeptAs entries mid after)
    (before : mid.state = .synSent → mid.sndNxt = seqAdd mid.sndUna 1)
    (waiting : after.state = .synSent) : after.sndNxt = seqAdd after.sndUna 1 := by
  have same : mid.state = .synSent := by
    rcases kept.closes with same | closed
    · exact same.symm.trans waiting
    · rw [closed] at waiting
      cases waiting
  rw [kept.only]
  exact before same

namespace Host

variable {host : Host}

theorem SynInFlight.call (before : host.SynInFlight) (op : EngineOp) :
    (host.step op).SynInFlight := by
  intro handle after live
  have step := host.step_conns op live
  generalize found : host.engine.flowTable.get handle = present at step
  cases step with
  | kept kept => exact kept.synInFlight (before handle _ found)
  | opening opening => exact opening.synInFlight fun _ => rfl
  | sent running news sent =>
      rcases sent.kept with ⟨refused, kept⟩
      refine kept.synInFlight fun waiting => ?_
      rw [TcpConn.sentUpTo, running] at waiting
      cases waiting
  | fin running sent state =>
      intro waiting
      rw [state] at waiting
      dsimp only [TcpConn.finSent] at waiting
      split at waiting <;> cases waiting
  | segment dispatched processed kept =>
      rename_i seg mbufCtx env conn
      subst processed
      refine kept.synInFlight fun waiting => ?_
      have ends := dispatch_ends conn seg env.clock host.engine.cfg.sendBufferBytes mbufCtx
      have numbers := dispatch_sameNumbers conn seg env.clock host.engine.cfg.sendBufferBytes mbufCtx
      rcases ends.opening waiting with ⟨started, sndUna⟩
      dsimp only [TcpConn.enter]
      rw [numbers.sndNxt, sndUna]
      exact before handle conn found started

theorem SynInFlight.step (before : host.SynInFlight) (op : SystemOp) :
    (host.systemStep op).SynInFlight := by
  cases op with
  | call op => exact before.call op
  | complete index =>
      intro handle conn live
      rw [systemStep, completeFrame_flowTable] at live
      exact before handle conn live
  | drainEvents max => exact before
  | drop =>
      intro handle conn live
      rw [systemStep, drop_get] at live
      cases live

end Host

/-! ### A closed connection -/

/-- A connection that was in `closed`, or is gone: it is past its handshake, cannot send, and
nothing was told of it as `Connected` since. -/
structure Host.Shut (host : Host) (handle : ConnHandle) (closed : Host) : Prop where
  told : ∃ news, host.engine.lifecycle handle = closed.engine.lifecycle handle ++ news ∧
    news.any InternalEvent.isConnected = false
  waiting : host.engine.stateAt handle ≠ some .synSent
  running : host.engine.stateAt handle ≠ some .established

namespace Host.Shut

variable {host closed : Host} {handle : ConnHandle}

theorem step (shut : host.Shut handle closed) (unclosed : host.Unclosed) {op : SystemOp}
    (same : host.opens op handle = false) : (host.systemStep op).Shut handle closed := by
  rcases shut.told with ⟨told, sofar, silent⟩
  by_cases live : op.live = true
  · cases host.systemStep_story live handle with
    | chapter news lifecycle still chapter =>
        rcases (chapter (unclosed handle)).not_connected shut.waiting with ⟨quiet, waiting⟩
        refine ⟨⟨told ++ news, by rw [lifecycle, sofar, List.append_assoc], ?_⟩, waiting, ?_⟩
        · rw [List.any_append, silent, quiet]
          rfl
        · intro running
          rcases Engine.stateAt_eq_some (host.systemStep op).engine handle running with
            ⟨after, present, state⟩
          cases found : host.engine.flowTable.get handle with
          | none =>
              have gone : host.engine.stateAt handle = none := by
                rw [Engine.stateAt, found]
                rfl
              have chapter := chapter (unclosed handle)
              rw [gone, running] at chapter
              cases chapter
          | some conn =>
              have before : host.engine.stateAt handle = some conn.state := by
                rw [Engine.stateAt, found]
                rfl
              have opened : conn.state ≠ .synSent := by
                intro waiting
                exact shut.waiting (before.trans (congrArg some waiting))
              have later := systemStep_later found opened present
              exact shut.running (before.trans (congrArg some (later.eq_established state)))
    | opening nowNs vacant more lifecycle state =>
        have fewer := of_decide_eq_false same
        rw [more] at fewer
        exact absurd (Nat.lt_succ_self _) fewer
  · cases op with
    | drop =>
        refine ⟨⟨told, (host.lifecycle_drop handle).trans sofar, silent⟩, ?_, ?_⟩
        · rw [stateAt_drop]
          rintro ⟨⟩
        · rw [stateAt_drop]
          rintro ⟨⟩
    | _ => exact absurd rfl live

/-- It accepts no byte. -/
theorem sendBytes (shut : host.Shut handle closed) (bytes : List UInt8) (envs : ℕ → SendEnv)
    (tlpNs : ℕ) :
    (host.engine.sendBytes handle bytes envs tlpNs).2 = .error .invalidConnHandle := by
  dsimp only [Engine.sendBytes]
  cases found : host.engine.flowTable.get handle with
  | none => rfl
  | some conn =>
      have refused : conn.state ≠ .established := by
        intro running
        apply shut.running
        rw [Engine.stateAt, found, Option.map_some, running]
      dsimp only
      rw [if_pos refused]

end Host.Shut

/-- A successful `close_conn` leaves no connection in ESTABLISHED. -/
theorem Engine.not_established_of_close {engine : Engine} {handle : ConnHandle} {conn : TcpConn}
    (present : engine.flowTable.get handle = some conn) {finSent : Bool}
    (closed : engine.closeConnResult handle finSent = .ok ()) (nowNs : ℕ) :
    (engine.closeConn handle finSent nowNs).stateAt handle ≠ some .established := by
  have before : engine.stateAt handle = some conn.state := by
    rw [Engine.stateAt, present]
    rfl
  dsimp only [closeConnResult, closeConn] at closed ⊢
  rw [present] at closed ⊢
  dsimp only at closed ⊢
  split at closed
  · rename_i neither
    rw [if_pos neither, before]
    exact fun running => neither.1 (Option.some.inj running)
  · rename_i running
    split at closed
    · cases closed
    · rename_i sent
      rw [if_neg running, if_neg sent, stateAt_transitionConn, if_pos rfl,
        stateAt_modifyConn _ handle handle (by exact fun _ => rfl), stateAt_recordSentAtOnce, before]
      split <;> rintro ⟨⟩

/-- After a successful `close_conn` the connection is shut, unless its handshake was under way. -/
theorem Host.shut_of_close {host : Host} (unclosed : host.Unclosed) {handle : ConnHandle}
    {conn : TcpConn} (present : host.engine.flowTable.get handle = some conn)
    (opened : conn.state ≠ .synSent) {finSent : Bool}
    (closed : host.engine.closeConnResult handle finSent = .ok ()) (nowNs : ℕ) :
    (host.systemStep (.call (.close handle finSent nowNs))).Shut handle host := by
  have before : host.engine.stateAt handle = some conn.state := by
    rw [Engine.stateAt, present]
    rfl
  have state : (host.systemStep (.call (.close handle finSent nowNs))).engine.stateAt handle ≠
      some .established :=
    Engine.not_established_of_close present closed nowNs
  cases host.systemStep_story (rfl : SystemOp.live (.call (.close handle finSent nowNs)) = true)
      handle with
  | chapter news lifecycle still chapter =>
      have chapter := chapter (unclosed handle)
      have waiting : host.engine.stateAt handle ≠ some .synSent :=
        fun waiting => opened (Option.some.inj (before.symm.trans waiting))
      rcases chapter.not_connected waiting with ⟨quiet, waiting⟩
      exact ⟨⟨news, lifecycle, quiet⟩, waiting, state⟩
  | opening nowNs vacant more lifecycle opened =>
      rw [before] at vacant
      cases vacant

/-- The peer's answer to the SYN of a connection. -/
def TcpConn.synAckFor (conn : TcpConn) : ParsedSegment :=
  { srcPort := conn.fourTuple.peerPort
    dstPort := conn.fourTuple.localPort
    seq := 0#32
    ack := conn.sndNxt
    flags := TCP_SYN ||| TCP_ACK
    window := 0
    headerLen := 20
    payload := []
    options := [] }

/-- A segment opens no connection. -/
theorem Host.incarnation_segment (host : Host) (handle target : ConnHandle) (seg : ParsedSegment)
    (mbufCtx : Option MbufInsertCtx) (env : InputEnv) :
    (host.systemStep (.call (.segment target seg mbufCtx env))).engine.record.incarnation handle =
      host.engine.record.incarnation handle := by
  rcases Engine.tcpInput_speaks host.engine target handle seg mbufCtx env with ⟨news, told, _⟩
  exact congrArg (List.count handle) told.opened

/-- `close_conn` does nothing during the handshake, and the answer of the peer ends it. -/
theorem Host.opens_after_close {host : Host} (inFlight : host.SynInFlight) {handle : ConnHandle}
    {conn : TcpConn} (present : host.engine.flowTable.get handle = some conn)
    (waiting : conn.state = .synSent) (finSent : Bool) (nowNs : ℕ) (env : InputEnv) :
    ((host.systemStep (.call (.close handle finSent nowNs))).systemStep
      (.call (.segment handle conn.synAckFor none env))).engine.stateAt handle =
        some .established := by
  have idle : host.engine.closeConn handle finSent nowNs = host.engine := by
    rw [Engine.closeConn, present]
    dsimp only
    rw [if_pos (by rw [waiting]; exact ⟨nofun, nofun⟩)]
  have acked : synAcked conn conn.synAckFor = true := by
    rw [synAcked, TcpConn.synAckFor, inFlight handle conn present waiting, seqLe_self]
    rfl
  have opens : (dispatch conn conn.synAckFor env.clock host.engine.cfg.sendBufferBytes
      none).outcome.newState = some .established := by
    have flags : conn.synAckFor.flags = TCP_SYN ||| TCP_ACK := rfl
    have none : parseOptions conn.synAckFor.options = .ok {} := by rfl
    have answers : (TCP_SYN ||| TCP_ACK).has TCP_RST = false ∧
        (TCP_SYN ||| TCP_ACK).has TCP_SYN = true ∧ (TCP_SYN ||| TCP_ACK).has TCP_ACK = true := by
      decide
    rw [dispatch, waiting]
    dsimp only
    unfold handleSynSent
    rw [flags, answers.1, answers.2.1, answers.2.2, acked, none]
    rfl
  dsimp only [systemStep, step]
  rw [idle, Engine.stateAt_tcpInput, if_pos rfl, present]
  dsimp only [Option.bind_some, Outcome.stateAfter]
  rw [opens]
  rfl

/-- In every run of the default build, a successful `close_conn` is final exactly for a connection
that is past its handshake. SYN_RECEIVED is a state of the build with the test server alone. -/
theorem close_is_final_iff {cfg : EngineConfig} {maxConnections eventSoftCap : ℕ} {host : Host}
    (run : Run.Reaches Host.systemStep (fun _ _ => True)
      (Host.start cfg maxConnections eventSoftCap) host)
    {handle : ConnHandle} {conn : TcpConn}
    (present : host.engine.flowTable.get handle = some conn) {finSent : Bool} (nowNs : ℕ)
    (closed : host.engine.closeConnResult handle finSent = .ok ()) :
    (∀ later, Run.Reaches Host.systemStep (fun host op => host.opens op handle = false)
        (host.systemStep (.call (.close handle finSent nowNs))) later →
      later.engine.stateAt handle ≠ some .established ∧
        (later.engine.toldSince handle host.engine).any InternalEvent.isConnected = false ∧
        ∀ bytes envs tlpNs accepted,
          (later.engine.sendBytes handle bytes envs tlpNs).2 = .ok accepted → accepted = 0) ↔
      conn.state ≠ .synSent := by
  have reached : host.Unclosed ∧ host.SynInFlight := by
    apply run.invariant
    · exact ⟨Host.unclosed_start cfg maxConnections eventSoftCap,
        Host.synInFlight_start cfg maxConnections eventSoftCap⟩
    · exact fun host op before _ => ⟨before.1.step op, before.2.step op⟩
  constructor
  · intro final waiting
    obtain ⟨env⟩ : Nonempty InputEnv := ⟨inputAt 0⟩
    have opens := Host.opens_after_close reached.2 present waiting finSent nowNs env
    refine (final _ (.tail (.call (.segment handle conn.synAckFor none env)) .refl ?_)).1 opens
    exact decide_eq_false fun more => Nat.lt_irrefl _ (more.trans_eq
      (Host.incarnation_segment _ handle handle conn.synAckFor none env))
  · intro opened later after
    have shut : later.Unclosed ∧ later.Shut handle host := by
      apply after.invariant
      · exact ⟨reached.1.step _, Host.shut_of_close reached.1 present opened closed nowNs⟩
      · exact fun between op before same => ⟨before.1.step op, before.2.step before.1 same⟩
    rcases shut.2.told with ⟨told, sofar, silent⟩
    refine ⟨shut.2.running, ?_, ?_⟩
    · rw [Engine.toldSince, sofar, List.drop_left]
      exact silent
    · intro bytes envs tlpNs accepted sent
      rw [shut.2.sendBytes] at sent
      cases sent

/-- The peer answers the SYN of the connection with handle 1. -/
def answered : SystemOp :=
  .call (.segment 1 (synAck 100#32 200#32 5000) none (inputAt 1000))

/-- The peer acknowledges the FIN of the close. -/
def finAcked : Host :=
  (([opening, answered].foldl Host.systemStep (Host.start quickCfg 1 64)).systemStep
    (.call (.close 1 true 2000))).systemStep (.call (receiveAt 3000 201#32 102#32 TCP_ACK))

theorem close_is_final_iff_answered :
    finAcked.engine.stateAt 1 ≠ some .established ∧
      (finAcked.engine.toldSince 1 ([opening, answered].foldl Host.systemStep
        (Host.start quickCfg 1 64)).engine).any InternalEvent.isConnected = false ∧
      ∀ bytes envs tlpNs accepted,
        (finAcked.engine.sendBytes 1 bytes envs tlpNs).2 = .ok accepted → accepted = 0 := by
  have present : (([opening, answered].foldl Host.systemStep
      (Host.start quickCfg 1 64)).engine.flowTable.get 1).isSome = true := by decide +kernel
  have running : ([opening, answered].foldl Host.systemStep
      (Host.start quickCfg 1 64)).engine.stateAt 1 = some .established := by decide +kernel
  rcases Engine.stateAt_eq_some _ 1 running with ⟨conn, live, state⟩
  exact (close_is_final_iff
    (Run.Reaches.of_admits (by rfl : Run.admits Host.systemStep (fun _ _ => true)
      (Host.start quickCfg 1 64) [opening, answered] = true) |>.mono fun _ _ _ => trivial)
    live 2000 (by decide +kernel : ([opening, answered].foldl Host.systemStep
      (Host.start quickCfg 1 64)).engine.closeConnResult 1 true = .ok ())).2
        (by rw [state]; exact nofun) finAcked
    (.tail (SystemOp.call (receiveAt 3000 201#32 102#32 TCP_ACK)) .refl (by decide +kernel))

/-- Closed during the handshake, the connection opens all the same. -/
theorem close_is_not_final :
    ¬ ∀ later, Run.Reaches Host.systemStep (fun host op => host.opens op 1 = false)
        (((Host.start quickCfg 1 64).systemStep opening).systemStep
          (.call (.close 1 true 500))) later →
      ((Host.start quickCfg 1 64).systemStep opening).engine.closeConnResult 1 true = .ok () →
      later.engine.stateAt 1 ≠ some .established ∧
        (later.engine.toldSince 1
          ((Host.start quickCfg 1 64).systemStep opening).engine).any
            InternalEvent.isConnected = false ∧
        ∀ bytes envs tlpNs accepted,
          (later.engine.sendBytes 1 bytes envs tlpNs).2 = .ok accepted → accepted = 0 := by
  intro final
  have opened := (final _ (.tail answered .refl (by decide +kernel)) (by decide +kernel)).1
  exact opened (by decide +kernel)

end DpdkTcp
