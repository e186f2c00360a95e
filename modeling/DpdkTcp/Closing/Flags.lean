import DpdkTcp.Lib.Run
import DpdkTcp.Lifecycle.Carry
import DpdkTcp.Lifecycle.Live
import DpdkTcp.Send.Mss
import DpdkTcp.Wakeup.Wake

/-!
# Closing with flags

`close_conn_with_flags` marks a connection to skip TIME_WAIT before it closes it.
Where the close then fails, the mark stays. `close_conn` itself writes nothing
before its FIN is out, so every other failure leaves the connections as they were,
and a connection is reaped early only if the application was told that its mark
was taken.
-/

namespace DpdkTcp

namespace Engine

/-- A call that fails leaves every connection as it was. -/
def ClosesAtomically (engine : Engine) (handle : ConnHandle) (flags : BitVec 32) (finSent : Bool)
    (flagNs nowNs : ℕ) : Prop :=
  (engine.closeConnWithFlags handle flags finSent flagNs nowNs).2.isOk = false →
    ∀ other, (engine.closeConnWithFlags handle flags finSent flagNs nowNs).1.flowTable.get other =
      engine.flowTable.get other

/-- The connection is one `close_conn` sends a FIN for, and its mark is still to be set. -/
def canBeMarked (conn : TcpConn) : Bool :=
  (conn.state = .established || conn.state = .closeWait) && conn.tsEnabled && !conn.forceTwSkip

/-- The call sets no mark, or its FIN goes out. -/
def marksSafely (engine : Engine) (handle : ConnHandle) (flags : BitVec 32) (finSent : Bool) :
    Bool :=
  finSent || !forcesTwSkip flags || !(engine.flowTable.get handle).any canBeMarked

variable {engine : Engine} {handle : ConnHandle} {conn : TcpConn}

/-! ### The mark and the close -/

theorem marked_eq (marked : conn.forceTwSkip = true) :
    { conn with forceTwSkip := true } = conn := by
  rw [← marked]

/-- The mark reaches one connection, and only if it has timestamps. -/
theorem get_requestTwSkip (engine : Engine) (handle : ConnHandle) (nowNs : ℕ) (other : ConnHandle) :
    (engine.requestTwSkip handle nowNs).flowTable.get other =
      if other = handle then (engine.flowTable.get handle).map fun conn =>
        if conn.tsEnabled then { conn with forceTwSkip := true } else conn
      else engine.flowTable.get other := by
  unfold requestTwSkip
  cases present : engine.flowTable.get handle with
  | none =>
      rw [Option.any_none, if_neg Bool.false_ne_true]
      dsimp only [pushEvent]
      split
      · rename_i same
        rw [same, present, Option.map_none]
      · rfl
  | some conn =>
      rw [Option.any_some, Option.map_some]
      cases stamped : conn.tsEnabled with
      | false =>
          rw [if_neg Bool.false_ne_true, if_neg Bool.false_ne_true]
          dsimp only [pushEvent]
          split
          · rename_i same
            rw [same, present]
          · rfl
      | true =>
          rw [if_pos rfl, if_pos rfl, modifyConn, FlowTable.get_modify]
          split
          · simp [present, stamped]
          · rfl

/-- A close that fails changes nothing. -/
theorem closeConn_failed (failed : (engine.closeConnResult handle finSent).isOk = false)
    (nowNs : ℕ) : engine.closeConn handle finSent nowNs = engine := by
  unfold closeConnResult at failed
  unfold closeConn
  cases present : engine.flowTable.get handle with
  | none => rfl
  | some conn =>
      rw [present] at failed
      dsimp only at failed ⊢
      split
      · rfl
      · rename_i opens
        rw [if_neg opens] at failed
        split
        · rfl
        · rename_i sent
          rw [if_neg sent] at failed
          cases failed

/-- Whether a close fails is not changed by the mark. -/
theorem closeConnResult_requestTwSkip (engine : Engine) (handle : ConnHandle) (finSent : Bool)
    (nowNs : ℕ) : (engine.requestTwSkip handle nowNs).closeConnResult handle finSent =
      engine.closeConnResult handle finSent := by
  unfold closeConnResult
  rw [get_requestTwSkip, if_pos rfl]
  cases engine.flowTable.get handle with
  | none => rfl
  | some conn =>
      rw [Option.map_some]
      cases conn.tsEnabled <;> rfl

theorem closeConnResult_fails_iff (engine : Engine) (handle : ConnHandle) (finSent : Bool) :
    (engine.closeConnResult handle finSent).isOk = false ↔
      ∀ conn, engine.flowTable.get handle = some conn →
        (conn.state = .established ∨ conn.state = .closeWait) ∧ finSent = false := by
  unfold closeConnResult
  cases engine.flowTable.get handle with
  | none => simp [Except.isOk, Except.toBool]
  | some conn =>
      dsimp only
      split
      · rename_i elsewhere
        simp only [Except.isOk, Except.toBool, Option.some.injEq]
        refine iff_of_false (by rintro ⟨⟩) fun fails => ?_
        rcases (fails conn rfl).1 with state | state
        · exact elsewhere.1 state
        · exact elsewhere.2 state
      · rename_i closable
        have state : conn.state = .established ∨ conn.state = .closeWait := by
          by_contra neither
          rw [not_or] at neither
          exact closable neither
        cases finSent <;> simp [Except.isOk, Except.toBool, state]

/-- A call that fails leaves the connections as the mark left them. -/
theorem closeConnWithFlags_failed {flags : BitVec 32} {flagNs nowNs : ℕ}
    (failed : (engine.closeConnWithFlags handle flags finSent flagNs nowNs).2.isOk = false) :
    (engine.closeConnResult handle finSent).isOk = false ∧
      (engine.closeConnWithFlags handle flags finSent flagNs nowNs).1 =
        if forcesTwSkip flags then engine.requestTwSkip handle flagNs else engine := by
  dsimp only [closeConnWithFlags] at failed ⊢
  refine ⟨?_, closeConn_failed failed nowNs⟩
  split at failed
  · rw [closeConnResult_requestTwSkip] at failed
    exact failed
  · exact failed

theorem closesAtomically_iff (engine : Engine) (handle : ConnHandle) (flags : BitVec 32)
    (finSent : Bool) (flagNs nowNs : ℕ) :
    engine.ClosesAtomically handle flags finSent flagNs nowNs ↔
      engine.marksSafely handle flags finSent = true := by
  constructor
  · intro whole
    by_contra marks
    simp only [marksSafely, Bool.or_eq_true, Bool.not_eq_true', not_or, Bool.not_eq_true,
      Bool.not_eq_false] at marks
    rcases marks with ⟨⟨unsent, forced⟩, marked⟩
    rcases (Option.any_eq_true _ _).mp marked with ⟨conn, present, fit⟩
    simp only [canBeMarked, Bool.and_eq_true, Bool.or_eq_true, decide_eq_true_eq,
      Bool.not_eq_true'] at fit
    rcases fit with ⟨⟨state, stamped⟩, unmarked⟩
    have fails : (engine.closeConnResult handle finSent).isOk = false := by
      refine (closeConnResult_fails_iff engine handle finSent).mpr fun conn' present' => ?_
      cases present.symm.trans present'
      exact ⟨state, unsent⟩
    have failed : (engine.closeConnWithFlags handle flags finSent flagNs nowNs).2.isOk = false := by
      dsimp only [closeConnWithFlags]
      rw [if_pos forced, closeConnResult_requestTwSkip]
      exact fails
    have left := whole failed handle
    rw [(closeConnWithFlags_failed failed).2, if_pos forced, get_requestTwSkip, if_pos rfl, present,
      Option.map_some, if_pos stamped] at left
    have same := congrArg (Option.map TcpConn.forceTwSkip) left
    rw [Option.map_some, Option.map_some, unmarked] at same
    cases same
  · intro safe failed other
    rcases closeConnWithFlags_failed failed with ⟨fails, same⟩
    rw [same]
    cases marks : forcesTwSkip flags with
    | false => rw [if_neg Bool.false_ne_true]
    | true =>
        rw [if_pos rfl, get_requestTwSkip]
        split
        · rename_i here
          rw [here]
          cases present : engine.flowTable.get handle with
          | none => rfl
          | some conn =>
              rcases (closeConnResult_fails_iff engine handle finSent).mp fails conn present with
                ⟨state, unsent⟩
              have spared : canBeMarked conn = false := by
                simpa [marksSafely, unsent, marks, present] using safe
              have marked : conn.tsEnabled = true → conn.forceTwSkip = true := by
                intro stamped
                rcases state with state | state <;>
                  simpa [canBeMarked, state, stamped] using spared
              rw [Option.map_some]
              by_cases stamped : conn.tsEnabled = true
              · rw [if_pos stamped, marked_eq (marked stamped)]
              · rw [if_neg stamped]
        · rfl

end Engine

/-! ### Runs -/

theorem dispatch_forceTwSkip (conn : TcpConn) (seg : ParsedSegment) (clock : Readings)
    (sendBuf : ℕ) (mbufCtx : Option MbufInsertCtx) :
    (dispatch conn seg clock sendBuf mbufCtx).conn.forceTwSkip = conn.forceTwSkip := by
  by_cases waiting : conn.state = .synSent
  · have shake : dispatch conn seg clock sendBuf mbufCtx = handleSynSent conn seg clock := by
      rw [dispatch, waiting]
    rw [shake]
    unfold handleSynSent
    split
    · split <;> rfl
    · split
      · rfl
      · split
        · rfl
        · split
          · rfl
          · split
            · rfl
            · dsimp only
              rw [maybeSeed_only]
              rfl
  · rw [(dispatch_tended waiting seg clock sendBuf mbufCtx).only]

/-- Only the request to skip TIME_WAIT sets the mark. -/
theorem carries_forceTwSkip :
    Engine.Carries (fun edit => edit ≠ .skipWait)
      (fun before after => after.forceTwSkip = before.forceTwSkip)
      fun conn => conn.forceTwSkip = false where
  refl := fun conn => rfl
  trans := fun left right => right.trans left
  edit := by
    intro edit conn isAllowed alone
    cases edit with
    | dispatch seg clock sendBuf mbufCtx => exact dispatch_forceTwSkip conn seg clock sendBuf mbufCtx
    | skipWait => exact absurd rfl isAllowed
    | strike kind id => cases kind <;> rfl
    | arm kind id => cases kind <;> rfl
    | _ => rfl
  arm := by
    intro conn kind id _
    cases kind <;> rfl
  stop := by
    intro conn kind id _
    cases kind <;> rfl
  forget := fun conn id => rfl
  insert := fun engine tuple iss ourMss opts nowNs _ => rfl
  new := fun new same => same.trans new

namespace Host

variable {host : Host} {handle : ConnHandle} {conn : TcpConn}

theorem step_marked {op : EngineOp} (unmarked : ∀ target nowNs, op ≠ .twSkip target nowNs)
    (live : (host.step op).engine.flowTable.get handle = some conn)
    (marked : conn.forceTwSkip = true) :
    ∃ earlier, host.engine.flowTable.get handle = some earlier ∧ earlier.forceTwSkip = true := by
  have worked : (∀ nowNs, op ≠ .advance nowNs) →
      (∀ edit, host.permits op edit = true → edit ≠ .skipWait) →
      ∃ earlier, host.engine.flowTable.get handle = some earlier ∧ earlier.forceTwSkip = true := by
    intro still bars
    rcases (host.step_work still).carried (carries_forceTwSkip.mono bars) live with
      ⟨_, earlier, found, same⟩ | ⟨_, fresh⟩
    · exact ⟨earlier, found, same.symm.trans marked⟩
    · rw [marked] at fresh
      cases fresh
  cases op with
  | advance nowNs => exact ⟨conn, live, marked⟩
  | twSkip target nowNs => exact absurd rfl (unmarked target nowNs)
  | _ =>
      refine worked nofun ?_
      rintro _ permitted rfl
      cases permitted

theorem systemStep_marked {op : SystemOp}
    (unmarked : ∀ target nowNs, op ≠ .call (.twSkip target nowNs))
    (live : (host.systemStep op).engine.flowTable.get handle = some conn)
    (marked : conn.forceTwSkip = true) :
    ∃ earlier, host.engine.flowTable.get handle = some earlier ∧ earlier.forceTwSkip = true := by
  cases op with
  | call op =>
      exact step_marked (fun target nowNs called => unmarked target nowNs (congrArg _ called)) live
        marked
  | complete index =>
      dsimp only [systemStep] at live
      rw [completeFrame_flowTable] at live
      exact ⟨conn, live, marked⟩
  | drainEvents max => exact ⟨conn, live, marked⟩
  | drop =>
      have gone := drop_get host.engine handle
      rw [systemStep, gone] at live
      cases live

end Host

/-- The operations of the whole system, with closes that carry flags. -/
inductive CloseOp where
  | other (op : SystemOp)
  | closeWithFlags (handle : ConnHandle) (flags : BitVec 32) (finSent : Bool) (flagNs nowNs : ℕ)

/-- A run so far: the host, and the connections whose skip of TIME_WAIT was requested by a call
that succeeded. -/
structure CloseLog where
  host : Host
  skips : ConnHandle → Bool

namespace CloseLog

/-- A host without connections, and no successful request. -/
def start (cfg : EngineConfig) (maxConnections eventSoftCap : ℕ) : CloseLog :=
  { host := Host.start cfg maxConnections eventSoftCap, skips := fun _ => false }

/-- A request ends with its connection. -/
def step (log : CloseLog) : CloseOp → CloseLog
  | .other op =>
      { host := log.host.systemStep op
        skips := fun handle => (log.host.engine.flowTable.get handle).isSome && log.skips handle }
  | .closeWithFlags target flags finSent flagNs nowNs =>
      let closed := log.host.engine.closeConnWithFlags target flags finSent flagNs nowNs
      { host := { log.host with engine := closed.1 }
        skips := fun handle =>
          (log.host.engine.flowTable.get handle).isSome &&
            (log.skips handle || decide (handle = target) && forcesTwSkip flags && closed.2.isOk) }

/-- The mark is set by calls with the flag, and by none that fails behind it. -/
def allowed (log : CloseLog) : CloseOp → Bool
  | .other (.call (.twSkip ..)) => false
  | .other _ => true
  | .closeWithFlags handle flags finSent _ _ => log.host.engine.marksSafely handle flags finSent

/-- A connection that skips TIME_WAIT was asked to. -/
def Asked (log : CloseLog) : Prop :=
  ∀ handle conn, log.host.engine.flowTable.get handle = some conn → conn.forceTwSkip = true →
    log.skips handle = true

theorem Asked.step {log : CloseLog} (asked : log.Asked) {op : CloseOp}
    (safe : log.allowed op = true) : (log.step op).Asked := by
  intro handle conn live marked
  cases op with
  | other op =>
      have unmarked : ∀ target nowNs, op ≠ .call (.twSkip target nowNs) := by
        rintro target nowNs rfl
        cases safe
      rcases Host.systemStep_marked unmarked live marked with ⟨earlier, present, before⟩
      dsimp only [CloseLog.step]
      rw [present, asked handle earlier present before]
      rfl
  | closeWithFlags target flags finSent flagNs nowNs =>
      have kept : ∀ earlier, log.host.engine.flowTable.get handle = some earlier →
          earlier.forceTwSkip = true →
          (log.step (.closeWithFlags target flags finSent flagNs nowNs)).skips handle = true := by
        intro earlier present before
        dsimp only [CloseLog.step]
        rw [present, asked handle earlier present before]
        rfl
      cases succeeds : (log.host.engine.closeConnWithFlags target flags finSent flagNs nowNs).2.isOk
        with
      | false =>
          have whole := (log.host.engine.closesAtomically_iff target flags finSent flagNs
            nowNs).mpr safe succeeds
          exact kept conn ((whole handle).symm.trans live) marked
      | true =>
          have closed : ∃ earlier, (if forcesTwSkip flags then
              log.host.engine.requestTwSkip target flagNs else log.host.engine).flowTable.get
                handle = some earlier ∧ earlier.forceTwSkip = true :=
            @Host.step_marked ⟨_, log.host.pending⟩ handle conn (.close target finSent nowNs)
              (fun _ _ => nofun) live marked
          rcases closed with ⟨earlier, found, before⟩
          cases forces : forcesTwSkip flags with
          | false =>
              rw [forces, if_neg Bool.false_ne_true] at found
              exact kept earlier found before
          | true =>
              rw [forces, if_pos rfl, Engine.get_requestTwSkip] at found
              split at found
              · rename_i here
                rcases Option.map_eq_some_iff.mp found with ⟨conn', present, _⟩
                dsimp only [CloseLog.step]
                rw [here, present, succeeds, forces, decide_eq_true rfl]
                exact Bool.or_true _
              · exact kept earlier found before

end CloseLog

/-- `close_conn_with_flags` leaves every connection as it was when it fails, just if it sets no
mark or its FIN goes out. In a run where this is so of every call, a connection leaves TIME_WAIT
before its deadline only if a call that succeeded asked for it. -/
theorem close_conn_with_flags_atomic {cfg : EngineConfig} {maxConnections eventSoftCap : ℕ}
    {log : CloseLog}
    (run : Run.Reaches CloseLog.step (fun log op => log.allowed op = true)
      (CloseLog.start cfg maxConnections eventSoftCap) log) :
    (∀ handle flags finSent flagNs nowNs,
      log.host.engine.ClosesAtomically handle flags finSent flagNs nowNs ↔
        log.host.engine.marksSafely handle flags finSent = true) ∧
      ∀ handle conn deadline, log.host.engine.flowTable.get handle = some conn →
        conn.state = .timeWait → log.skips handle = false →
        conn.timeWaitDeadlineNs = some deadline → ∀ nowNs,
          ((log.host.step (.reap nowNs)).engine.stateAt handle = none ↔ deadline ≤ nowNs) := by
  have asked : log.Asked := by
    apply run.invariant
    · intro handle conn live
      rw [CloseLog.start, Host.get_start] at live
      cases live
    · exact fun _ _ asked safe => asked.step safe
  refine ⟨log.host.engine.closesAtomically_iff, ?_⟩
  intro handle conn deadline live waiting unasked due nowNs
  have unmarked : conn.forceTwSkip = false := by
    cases marked : conn.forceTwSkip with
    | false => rfl
    | true =>
        rw [asked handle conn live marked] at unasked
        cases unasked
  exact Engine.reaped_iff log.host.engine handle live waiting unmarked due nowNs

/-! ### A close that fails and is repeated -/

/-- The FIN of a close with the flag does not go out; the close is repeated without the flag, and
the peer closes as well. -/
def repeatsClose (synAck finAck : ParsedSegment) : List CloseOp :=
  [.other opening, .other (.call (.segment 1 synAck none (inputAt 1000))),
    .closeWithFlags 1 CLOSE_FLAG_FORCE_TW_SKIP false 1500 1500,
    .other (.call (.close 1 true 2000)), .other (.call (.segment 1 finAck none (inputAt 3000)))]

/-- The peer's FIN. -/
def finAck : ParsedSegment :=
  peerSegment 201#32 102#32 (TCP_FIN ||| TCP_ACK) 5000 []

/-- The peer's FIN with timestamps. -/
def finAckStamped : ParsedSegment :=
  { finAck with options := [OPT_NOP, OPT_NOP, OPT_TIMESTAMP, 10, 0, 0, 0, 9, 0, 0, 0, 1] }

/-- Without timestamps, the close that fails leaves no mark. -/
def repeatedPlain : CloseLog :=
  (repeatsClose (synAck 100#32 200#32 5000) finAck).foldl CloseLog.step
    (CloseLog.start quickCfg 1 64)

theorem close_conn_with_flags_atomic_repeated :
    ∃ conn, repeatedPlain.host.engine.flowTable.get 1 = some conn ∧ conn.state = .timeWait ∧
      ((repeatedPlain.host.step (.reap 4000)).engine.stateAt 1 = none ↔ 60000003000 ≤ 4000) := by
  have admitted : Run.admits CloseLog.step CloseLog.allowed (CloseLog.start quickCfg 1 64)
      (repeatsClose (synAck 100#32 200#32 5000) finAck) = true := by decide +kernel
  have waits : (repeatedPlain.host.engine.flowTable.get 1).any (fun conn =>
      decide (conn.state = .timeWait ∧ conn.timeWaitDeadlineNs = some 60000003000)) = true := by
    decide +kernel
  have unasked : repeatedPlain.skips 1 = false := by decide +kernel
  rcases (Option.any_eq_true _ _).mp waits with ⟨conn, live, facts⟩
  rcases of_decide_eq_true facts with ⟨waiting, due⟩
  exact ⟨conn, live, waiting, (close_conn_with_flags_atomic (.of_admits admitted)).2 1 conn _ live
    waiting unasked due 4000⟩

/-- With timestamps, it does. -/
def repeatedStamped : CloseLog :=
  (repeatsClose synAckStamped finAckStamped).foldl CloseLog.step (CloseLog.start quickCfg 1 64)

/-- A close that fails marks the connection, and after the close without the flag TIME_WAIT is
skipped. -/
theorem failed_close_leaves_mark :
    (¬ ∀ log, Run.Reaches CloseLog.step (fun _ _ => True) (CloseLog.start quickCfg 1 64) log →
        ∀ handle flags finSent flagNs nowNs,
          log.host.engine.ClosesAtomically handle flags finSent flagNs nowNs) ∧
      repeatedStamped.skips 1 = false ∧
      (repeatedStamped.host.engine.flowTable.get 1).any (fun conn =>
        decide (conn.state = .timeWait ∧ conn.timeWaitDeadlineNs = some 60000003000)) = true ∧
      (repeatedStamped.host.step (.reap 4000)).engine.stateAt 1 = none := by
  refine ⟨fun atomic => ?_, by decide +kernel, by decide +kernel, by decide +kernel⟩
  have run := @Run.Reaches.foldl CloseLog CloseOp CloseLog.step
    ((repeatsClose synAckStamped finAckStamped).take 2) (CloseLog.start quickCfg 1 64)
  have safe := (Engine.closesAtomically_iff _ _ _ _ _ _).mp
    (atomic _ run 1 CLOSE_FLAG_FORCE_TW_SKIP false 1500 1500)
  exact absurd safe (by decide +kernel)

end DpdkTcp
