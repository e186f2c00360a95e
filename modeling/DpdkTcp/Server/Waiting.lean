import DpdkTcp.Lifecycle.Chapters
import DpdkTcp.Server.Handshake

/-!
# Connections that a slot names

What the calls of the engine do to a connection whose handshake is complete and
that waits to be accepted, and what they leave alone: the connections they do
not concern, and their timers.
-/

namespace DpdkTcp

/-! ### A connection that waits to be accepted -/

/-- The segment is a reset that closes a connection behind its handshake. -/
def TcpConn.resetBy (conn : TcpConn) (seg : ParsedSegment) : Bool :=
  seg.flags.has TCP_RST && !(conn.state == .established && seg.flags.has TCP_URG)

namespace TcpConn.Completed

variable {conn : TcpConn} (completed : conn.Completed)
include completed

theorem open' : conn.state ≠ .synSent ∧ conn.state ≠ .timeWait ∧ conn.state ≠ .closed := by
  rcases completed.state with state | state <;> rw [state] <;> exact ⟨nofun, nofun, nofun⟩

/-- With nothing in flight, nothing is found lost. -/
theorem dispatch_quiet (seg : ParsedSegment) (clock : Readings) (sendBuf : ℕ) (mbufCtx : Option MbufInsertCtx) :
    (dispatch conn seg clock sendBuf mbufCtx).conn.sndRetrans.entries = [] ∧
      (dispatch conn seg clock sendBuf mbufCtx).outcome.rackLostIndexes = [] := by
  have none : ∀ {after : TcpConn}, EntriesKept conn.sndRetrans.entries after.sndRetrans.entries →
      after.sndRetrans.entries = [] := by
    intro after kept
    rw [completed.unarmed.unsent] at kept
    exact List.forall₂_nil_left_iff.mp kept
  have unchosen : ∀ {after : TcpConn} {lost : List ℕ}, after.sndRetrans.entries = [] →
      (∀ index ∈ lost, RackChosen after index) → lost = [] := by
    intro after lost unsent chosen
    refine List.eq_nil_iff_forall_not_mem.mpr fun index member => ?_
    rcases chosen index member with ⟨position, entry, _, found, _⟩
    rw [unsent] at found
    cases found
  cases dispatch_send conn seg clock sendBuf mbufCtx with
  | kept send _ chosen => exact ⟨none send.entries, unchosen (none send.entries) chosen⟩
  | opened opening => exact absurd opening completed.open'.1
  | acked _ _ send _ chosen => exact ⟨none send.entries, unchosen (none send.entries) chosen⟩
  | closing _ _ send quiet => exact ⟨none send.entries, quiet.rackLostIndexes⟩

theorem dispatch_completed (seg : ParsedSegment) (clock : Readings) (sendBuf : ℕ) (mbufCtx : Option MbufInsertCtx) :
    (dispatch conn seg clock sendBuf mbufCtx).conn.Completed ∧
      (dispatch conn seg clock sendBuf mbufCtx).conn.fourTuple = conn.fourTuple := by
  have unsent := (completed.dispatch_quiet seg clock sendBuf mbufCtx).1
  rw [(dispatch_tended completed.open'.1 seg clock sendBuf mbufCtx).only]
  exact ⟨⟨completed.state, completed.passive, completed.timer,
    ⟨unsent, completed.unarmed.rto, completed.unarmed.tlp⟩⟩, rfl⟩

/-- Without a reset, the peer's FIN at most changes the state. -/
theorem dispatch_target {seg : ParsedSegment} (unreset : conn.resetBy seg = false) (clock : Readings) (sendBuf : ℕ)
    (mbufCtx : Option MbufInsertCtx) :
    (dispatch conn seg clock sendBuf mbufCtx).outcome.newState = none ∨
      (dispatch conn seg clock sendBuf mbufCtx).outcome.newState = some .closeWait := by
  by_cases urgent : conn.state = .established ∧ seg.flags.has TCP_URG = true
  · left
    rw [dispatch, urgent.1]
    dsimp only [handleEstablished, establishedChecks]
    rw [urgent.2]
    rfl
  · have going : seg.flags.has TCP_RST = false := by
      by_contra reset
      rw [TcpConn.resetBy, Bool.eq_true_of_not_eq_false reset, Bool.true_and,
        Bool.not_eq_eq_eq_not, Bool.not_false, Bool.and_eq_true, beq_iff_eq] at unreset
      exact urgent unreset
    have ends := dispatch_ends conn seg clock sendBuf mbufCtx
    generalize (dispatch conn seg clock sendBuf mbufCtx).outcome.newState = target at ends ⊢
    cases ends with
    | ignored => exact .inl rfl
    | reset cause =>
        rcases cause with reset | opening
        · rw [going] at reset
          cases reset
        · exact absurd opening completed.open'.1
    | opened opening => exact absurd opening completed.open'.1
    | running _ _ _ _ _ _ decided => exact decided
    | closing state =>
        rcases completed.state with running | waits
        · rw [running] at state
          cases state
        · rw [waits]
          exact .inl rfl

end TcpConn.Completed

namespace Engine

/-- The handle names a connection with these endpoints that waits to be accepted. -/
def Awaits (engine : Engine) (handle : ConnHandle) (tuple : FourTuple) : Prop :=
  ∃ conn, engine.flowTable.get handle = some conn ∧ conn.Completed ∧ conn.fourTuple = tuple

namespace Awaits

variable {engine : Engine} {handle : ConnHandle} {tuple : FourTuple}

theorem restartTimeWait (awaits : engine.Awaits handle tuple) (outcome : Outcome) (nowNs : ℕ) :
    (engine.restartTimeWait handle outcome nowNs).Awaits handle tuple := by
  rcases awaits with ⟨conn, present, completed, same⟩
  have here : engine.At handle conn engine.timerWheel := ⟨present, rfl⟩
  exact ⟨conn, (here.restartTimeWait completed.open'.2.1 outcome nowNs).present, completed, same⟩

/-- The peer's FIN leads to CLOSE_WAIT, and a connection stays there. -/
theorem closeWait (awaits : engine.Awaits handle tuple) (nowNs : ℕ) :
    (engine.transitionConn handle .closeWait nowNs).Awaits handle tuple := by
  rcases awaits with ⟨conn, present, completed, same⟩
  have here : engine.At handle conn engine.timerWheel := ⟨present, rfl⟩
  by_cases already : conn.state = .closeWait
  · have idle : engine.transitionConn handle .closeWait nowNs = engine := by
      dsimp only [Engine.transitionConn]
      rw [present]
      dsimp only
      rw [if_pos already]
    rw [idle]
    exact ⟨conn, present, completed, same⟩
  · have moved := here.transitionConn already nofun nowNs
    exact ⟨_, moved.present, ⟨.inr rfl, completed.passive, completed.timer,
      ⟨completed.unarmed.unsent, completed.unarmed.rto, completed.unarmed.tlp⟩⟩, same⟩

theorem emitAck (awaits : engine.Awaits handle tuple) (sent : Bool) :
    (engine.emitAck handle sent).Awaits handle tuple := by
  rcases awaits with ⟨conn, present, completed, same⟩
  have here : engine.At handle conn engine.timerWheel := ⟨present, rfl⟩
  refine ⟨_, (here.emitAck sent).present, ?_⟩
  split
  · exact ⟨⟨completed.state, completed.passive, completed.timer,
      ⟨completed.unarmed.unsent, completed.unarmed.rto, completed.unarmed.tlp⟩⟩, same⟩
  · exact ⟨completed, same⟩

theorem deliverEvents (awaits : engine.Awaits handle tuple) (outcome : Outcome) (env : InputEnv) :
    (engine.deliverEvents handle outcome env).Awaits handle tuple := by
  dsimp only [Engine.deliverEvents]
  have connected : (if outcome.connected then
      engine.pushEvent (.connected handle env.rxHwTsNs env.nowNs) else engine).Awaits handle
        tuple := by
    split
    · exact awaits
    · exact awaits
  split
  · rcases connected with ⟨conn, present, completed, same⟩
    have here : Engine.At _ handle conn _ := ⟨present, rfl⟩
    exact ⟨_, (here.handOver outcome.delivered env.rxHwTsNs env.nowNs).present,
      ⟨completed.state, completed.passive, completed.timer,
        ⟨completed.unarmed.unsent, completed.unarmed.rto, completed.unarmed.tlp⟩⟩, same⟩
  · exact connected

/-- What follows a dispatch that closes nothing. -/
theorem receiveSideAfter (awaits : engine.Awaits handle tuple) {outcome : Outcome}
    (closes : outcome.Closes)
    (target : outcome.newState = none ∨ outcome.newState = some .closeWait) (env : InputEnv) :
    (engine.receiveSideAfter handle outcome env).Awaits handle tuple := by
  have going : outcome.newState ≠ some .closed := by
    rcases target with target | target <;> rw [target] <;> rintro ⟨⟩
  have answered : ∀ {current : Engine}, current.Awaits handle tuple →
      (current.answer handle outcome.tx env).Awaits handle tuple := by
    intro current waits
    unfold Engine.answer
    split
    · exact waits
    · exact waits.emitAck env.ackSent
    · rename_i reset
      exact absurd (closes.resets (by rw [reset]; rfl)) going
    · rename_i reset
      exact absurd (closes.resets (by rw [reset]; rfl)) going
  have open' : outcome.closed = false :=
    Bool.eq_false_of_not_eq_true fun closed => going (closes.closed.mp closed)
  dsimp only [Engine.receiveSideAfter, Engine.finishClosed]
  rw [open', if_neg Bool.false_ne_true]
  refine (answered ?_).deliverEvents outcome env
  rcases target with target | target <;> rw [target]
  · exact awaits.restartTimeWait outcome env.nowNs
  · exact (awaits.restartTimeWait outcome env.nowNs).closeWait env.nowNs

/-- A segment that does not reset it leaves the connection to wait. -/
theorem tcpInput {conn : TcpConn} (present : engine.flowTable.get handle = some conn)
    (completed : conn.Completed) {seg : ParsedSegment} (unreset : conn.resetBy seg = false)
    (mbufCtx : Option MbufInsertCtx) (env : InputEnv) :
    (engine.tcpInput handle seg mbufCtx env).Awaits handle conn.fourTuple := by
  have kept := completed.dispatch_completed seg env.clock engine.cfg.sendBufferBytes
    mbufCtx
  have quiet := (completed.dispatch_quiet seg env.clock engine.cfg.sendBufferBytes
    mbufCtx).2
  have target := completed.dispatch_target unreset env.clock engine.cfg.sendBufferBytes mbufCtx
  have closes := dispatch_closes conn seg env.clock engine.cfg.sendBufferBytes mbufCtx
  have cancels : (dispatch conn seg env.clock engine.cfg.sendBufferBytes
      mbufCtx).outcome.synRetransTimerToCancel = none := by
    refine Option.eq_none_iff_forall_ne_some.mpr fun id cancelled => ?_
    have named := dispatch_synTimer conn seg env.clock engine.cfg.sendBufferBytes mbufCtx id
      cancelled
    rw [completed.timer] at named
    cases named
  dsimp only [Engine.tcpInput]
  rw [present]
  dsimp only
  generalize dispatch conn seg env.clock engine.cfg.sendBufferBytes mbufCtx = dispatched at *
  have written : (engine.written handle mbufCtx dispatched).At handle dispatched.conn
      engine.timerWheel := ⟨(FlowTable.get_set present _ handle).trans (if_pos rfl), rfl⟩
  have notified : (if dispatched.outcome.writableHysteresisFired then
      (engine.written handle mbufCtx dispatched).pushEvent (.writable handle env.nowNs)
      else engine.written handle mbufCtx dispatched).At handle dispatched.conn
        engine.timerWheel := by
    split
    · exact written.pushEvent _
    · exact written
  have sent := notified.sendSideAfter kept.1.unarmed quiet env
  rw [cancels] at sent
  exact receiveSideAfter ⟨_, sent.present, kept⟩ closes target env

end Awaits

end Engine

end DpdkTcp
