import DpdkTcp.Input.Reject
import DpdkTcp.Lifecycle.Final

/-!
# PAWS

How `ts_recent` moves over a run. Past the handshake only a segment moves it,
and only by adopting its TSval: where `ts_recent` has expired, or where the TSval
is not behind it and the segment starts at or before `rcv_nxt`. Two handlers hold a copy of
the test each; on a segment that reaches both copies they decide alike.
-/

namespace DpdkTcp

/-- The TSval of a segment whose options decode. -/
def ParsedSegment.tsVal (seg : ParsedSegment) : Option (BitVec 32) :=
  match segOptions seg with
  | .ok opts => opts.timestamps.map Prod.fst
  | .error _ => none

namespace TcpConn

/-- `ts_recent_age` shows more than 24 days. -/
def tsRecentExpired (conn : TcpConn) (nowNs : ℕ) : Bool :=
  decide (conn.tsRecentAge ≠ 0 ∧ TS_RECENT_EXPIRY_NS < nowNs - conn.tsRecentAge)

/-- The segment has a TSval, and it is behind `ts_recent`. -/
def tsBehind (conn : TcpConn) (seg : ParsedSegment) : Bool :=
  seg.tsVal.any fun tsVal => seqLt tsVal conn.tsRecent

end TcpConn

/-- What is not behind a number is at it or ahead of it. -/
theorem seqLe_of_not_seqLt {a b : Seq} (behind : seqLt a b = false) : seqLe b a = true := by
  have ahead : ¬ (a - b).toInt < 0 := of_decide_eq_false behind
  rw [BitVec.toInt_eq_toNat_cond] at ahead
  rw [seqLe_iff_ahead]
  split at ahead <;> omega

/-! ### One segment -/

/-- The timestamps are the same. -/
structure SameStamps (before after : TcpConn) : Prop where
  tsEnabled : after.tsEnabled = before.tsEnabled
  tsRecent : after.tsRecent = before.tsRecent
  tsRecentAge : after.tsRecentAge = before.tsRecentAge

namespace SameStamps

variable {first second third : TcpConn}

theorem refl (conn : TcpConn) : SameStamps conn conn :=
  ⟨rfl, rfl, rfl⟩

theorem trans (left : SameStamps first second) (right : SameStamps second third) :
    SameStamps first third :=
  ⟨right.tsEnabled.trans left.tsEnabled, right.tsRecent.trans left.tsRecent,
    right.tsRecentAge.trans left.tsRecentAge⟩

theorem of_sack (change : SackChange first second) : SameStamps first second := by
  rw [change.only]
  exact ⟨rfl, rfl, rfl⟩

theorem of_ack (change : AckChange first second) : SameStamps first second := by
  rw [change.only]
  exact ⟨rfl, rfl, rfl⟩

theorem of_rack (conn : TcpConn) (nowNs : ℕ) : SameStamps conn (rackPass conn nowNs).1 := by
  rw [rackPass_only]
  exact ⟨rfl, rfl, rfl⟩

theorem of_data (change : DataChange first second) : SameStamps first second := by
  rw [change.only]
  exact ⟨rfl, rfl, rfl⟩

theorem of_close (conn : TcpConn) (seg : ParsedSegment) :
    SameStamps conn (closeAdvance conn seg).1 := by
  rw [closeAdvance_only]
  exact ⟨rfl, rfl, rfl⟩

theorem of_kept {entries : List RetransEntry} (kept : KeptAs entries first second) :
    SameStamps first second := by
  rw [kept.only]
  exact ⟨rfl, rfl, rfl⟩

end SameStamps

/-- What a segment does to the timestamps of a connection past its handshake. -/
inductive Stamped (conn : TcpConn) (seg : ParsedSegment) (nowNs : ℕ) (after : TcpConn) : Prop where
  | kept (same : SameStamps conn after)
  | adopted (tsVal : BitVec 32) (carried : seg.tsVal = some tsVal)
      (due : conn.tsRecentExpired nowNs = true ∨
        seqLt tsVal conn.tsRecent = false ∧ seqLe seg.seq conn.rcvNxt = true)
      (same : SameStamps (conn.stamp tsVal nowNs) after)

theorem Stamped.andThen {conn timed after : TcpConn} {seg : ParsedSegment} {nowNs : ℕ}
    (stamped : Stamped conn seg nowNs timed) (same : SameStamps timed after) :
    Stamped conn seg nowNs after := by
  cases stamped with
  | kept unmoved => exact .kept (unmoved.trans same)
  | adopted tsVal carried due adopted => exact .adopted tsVal carried due (adopted.trans same)

theorem ParsedSegment.tsVal_of_decoded {seg : ParsedSegment} {opts : TcpOpts}
    (decoded : segOptions seg = .ok opts) : seg.tsVal = opts.timestamps.map Prod.fst := by
  rw [tsVal, decoded]

/-- The PAWS test passed. -/
theorem paws_stamped {conn timed : TcpConn} {seg : ParsedSegment} {opts : TcpOpts} {nowNs : ℕ}
    {expired : Bool} (decoded : segOptions seg = .ok opts)
    (passed : paws conn seg opts nowNs = .passed timed expired) :
    Stamped conn seg nowNs timed := by
  have carried := ParsedSegment.tsVal_of_decoded decoded
  dsimp only [paws] at passed
  split at passed
  · split at passed
    · cases passed
    · rename_i tsVal tsEcr timestamps
      rw [timestamps] at carried
      split at passed
      · rename_i idle
        cases passed
        exact .adopted tsVal carried (.inl (decide_eq_true idle)) (.refl _)
      · split at passed
        · cases passed
        · rename_i behind
          have ahead : seqLt tsVal conn.tsRecent = false := by simpa using behind
          split at passed <;> cases passed
          · exact .adopted tsVal carried (.inr ⟨ahead, ‹_›⟩) (.refl _)
          · exact .kept (.refl _)
  · cases passed
    exact .kept (.refl _)

/-- Where the TSval is behind and has not expired, the PAWS test rejects. -/
theorem paws_behind {conn : TcpConn} {seg : ParsedSegment} {opts : TcpOpts} {nowNs : ℕ}
    (enabled : conn.tsEnabled = true) (decoded : segOptions seg = .ok opts)
    (behind : conn.tsBehind seg = true) (current : conn.tsRecentExpired nowNs = false) :
    paws conn seg opts nowNs = .rejected := by
  rcases Option.any_eq_true _ _ |>.mp behind with ⟨tsVal, carried, earlier⟩
  rw [ParsedSegment.tsVal_of_decoded decoded] at carried
  rcases Option.map_eq_some_iff.mp carried with ⟨stamps, timestamps, rfl⟩
  dsimp only [paws]
  rw [if_pos enabled, timestamps]
  dsimp only
  rw [if_neg (of_decide_eq_false current), if_pos earlier]

/-! ### The handlers -/

section Handlers

variable {conn timed : TcpConn} {seg : ParsedSegment} {opts : TcpOpts} {clock : Readings}
  {expired : Bool}

/-- Behind the PAWS test the established handler leaves the timestamps alone. -/
theorem handleEstablished_timed (checked : establishedChecks conn seg = .ok opts)
    (passed : paws conn seg opts clock.paws = .passed timed expired) (sendBuf : ℕ)
    (mbufCtx : Option MbufInsertCtx) :
    SameStamps timed (handleEstablished conn seg clock sendBuf mbufCtx).conn ∧
      (handleEstablished conn seg clock sendBuf mbufCtx).outcome.pawsRejected = false ∧
      (handleEstablished conn seg clock sendBuf mbufCtx).outcome.badOption = false := by
  dsimp only [handleEstablished]
  rw [checked]
  dsimp only
  rw [passed]
  dsimp only
  have sacked := SameStamps.of_sack (sackPass_change timed opts clock.dsack)
  split
  · exact ⟨sacked, rfl, rfl⟩
  · rename_i ack accepted
    have acked := sacked.trans (.of_ack (ackPass_change accepted))
    have raced := acked.trans (.of_rack ack.conn clock.rack)
    have data := (deliver_change (rackPass ack.conn clock.rack).1 seg mbufCtx).trans
      (takeFin_change seg (deliver (rackPass ack.conn clock.rack).1 seg mbufCtx))
    exact ⟨raced.trans (.of_data data), rfl, rfl⟩

theorem segOptions_of_established (checked : establishedChecks conn seg = .ok opts) :
    segOptions seg = .ok opts :=
  (establishedChecks_eq_ok_iff.mp checked).2.2.2.2

theorem handleEstablished_stamped (conn : TcpConn) (seg : ParsedSegment) (clock : Readings)
    (sendBuf : ℕ) (mbufCtx : Option MbufInsertCtx) :
    Stamped conn seg clock.paws (handleEstablished conn seg clock sendBuf mbufCtx).conn := by
  cases checked : establishedChecks conn seg with
  | error outcome =>
      dsimp only [handleEstablished]
      rw [checked]
      exact .kept (.refl conn)
  | ok opts =>
      cases judged : paws conn seg opts clock.paws with
      | missingTimestamps | rejected =>
          dsimp only [handleEstablished]
          rw [checked]
          dsimp only
          rw [judged]
          exact .kept (.refl conn)
      | passed timed expired =>
          exact (paws_stamped (segOptions_of_established checked) judged).andThen
            (handleEstablished_timed checked judged sendBuf mbufCtx).1

theorem handleClosePath_stamped (conn : TcpConn) (seg : ParsedSegment) (clock : Readings) :
    Stamped conn seg clock.paws (handleClosePath conn seg clock).conn := by
  dsimp only [handleClosePath]
  simp only [pawsClosePath_eq]
  split
  · exact .kept (.refl conn)
  · split
    · exact .kept (.refl conn)
    · split
      · exact .kept (.refl conn)
      · split
        · exact .kept (.refl conn)
        · split
          · exact .kept (.refl conn)
          · rename_i opts decoded
            split
            · exact .kept (.refl conn)
            · exact .kept (.refl conn)
            · rename_i timed expired passed
              have sacked := SameStamps.of_sack (sackPass_change timed opts clock.dsack)
              exact (paws_stamped decoded passed).andThen (sacked.trans (.of_close _ seg))

end Handlers

theorem dispatch_stamped {conn : TcpConn} (opened : conn.state ≠ .synSent) (seg : ParsedSegment)
    (clock : Readings) (sendBuf : ℕ) (mbufCtx : Option MbufInsertCtx) :
    Stamped conn seg clock.paws (dispatch conn seg clock sendBuf mbufCtx).conn := by
  unfold dispatch
  split
  · exact absurd ‹_› opened
  · exact handleEstablished_stamped conn seg clock sendBuf mbufCtx
  all_goals first
    | exact handleClosePath_stamped conn seg clock
    | exact .kept (.refl conn)

/-! ### The verdict -/

/-- The handler leaves the connection alone and asks for an ACK at most. -/
structure Refused (conn : TcpConn) (dispatched : Dispatched) : Prop where
  only : dispatched =
    { conn := conn
      outcome :=
        { tx := dispatched.outcome.tx
          badSeq := dispatched.outcome.badSeq
          pawsRejected := dispatched.outcome.pawsRejected
          urgentDropped := dispatched.outcome.urgentDropped
          rxZeroWindow := dispatched.outcome.rxZeroWindow } }
  tx : dispatched.outcome.tx = .none ∨ dispatched.outcome.tx = .ack

/-- The segment reaches the PAWS test of its handler. -/
def TcpConn.reachesPaws (conn : TcpConn) (seg : ParsedSegment) : Bool :=
  conn.state.synchronized && seg.flags.has TCP_ACK && segInWindow conn seg &&
    !(conn.state == .established && seg.flags.has TCP_URG)

section Verdict

variable {conn : TcpConn} {seg : ParsedSegment} {clock : Readings}

theorem exists_decoded_of_tsBehind (behind : conn.tsBehind seg = true) :
    ∃ opts, segOptions seg = .ok opts := by
  rcases Option.any_eq_true _ _ |>.mp behind with ⟨tsVal, carried, _⟩
  cases decoded : segOptions seg with
  | ok opts => exact ⟨opts, rfl⟩
  | error reason =>
      rw [ParsedSegment.tsVal, decoded] at carried
      cases carried

theorem handleEstablished_behind (enabled : conn.tsEnabled = true)
    (behind : conn.tsBehind seg = true) (current : conn.tsRecentExpired clock.paws = false)
    (noReset : seg.flags.has TCP_RST = false) (sendBuf : ℕ) (mbufCtx : Option MbufInsertCtx) :
    Refused conn (handleEstablished conn seg clock sendBuf mbufCtx) ∧
      ((seg.flags.has TCP_ACK && segInWindow conn seg && !seg.flags.has TCP_URG) = true →
        (handleEstablished conn seg clock sendBuf mbufCtx).outcome.tx = .ack ∧
          (handleEstablished conn seg clock sendBuf mbufCtx).outcome.pawsRejected = true) := by
  rcases exists_decoded_of_tsBehind behind with ⟨opts, decoded⟩
  have judged := paws_behind enabled decoded behind current
  dsimp only [handleEstablished]
  by_cases reaches : (seg.flags.has TCP_ACK && segInWindow conn seg && !seg.flags.has TCP_URG) = true
  · simp only [Bool.and_eq_true, Bool.not_eq_true'] at reaches
    have checked := establishedChecks_eq_ok_iff.mpr
      ⟨reaches.2, noReset, reaches.1.1, reaches.1.2, decoded⟩
    rw [checked]
    dsimp only
    rw [judged]
    exact ⟨⟨rfl, .inr rfl⟩, fun _ => ⟨rfl, rfl⟩⟩
  · refine ⟨?_, fun reached => absurd reached reaches⟩
    dsimp only [establishedChecks]
    rw [decoded, noReset]
    cases urgent : seg.flags.has TCP_URG with
    | true => exact ⟨rfl, .inl rfl⟩
    | false =>
        cases acked : seg.flags.has TCP_ACK with
        | false => exact ⟨rfl, .inl rfl⟩
        | true =>
            cases inside : segInWindow conn seg with
            | false => exact ⟨rfl, .inr rfl⟩
            | true => simp [urgent, acked, inside] at reaches

theorem handleClosePath_behind (enabled : conn.tsEnabled = true)
    (behind : conn.tsBehind seg = true) (current : conn.tsRecentExpired clock.paws = false)
    (noReset : seg.flags.has TCP_RST = false) (waits : conn.state ≠ .timeWait) :
    Refused conn (handleClosePath conn seg clock) ∧
      ((seg.flags.has TCP_ACK && segInWindow conn seg) = true →
        (handleClosePath conn seg clock).outcome.tx = .ack ∧
          (handleClosePath conn seg clock).outcome.pawsRejected = true) := by
  rcases exists_decoded_of_tsBehind behind with ⟨opts, decoded⟩
  have judged := paws_behind enabled decoded behind current
  dsimp only [handleClosePath]
  rw [decoded, noReset, if_neg waits]
  cases seg.flags.has TCP_ACK with
  | false => exact ⟨⟨rfl, .inl rfl⟩, by simp⟩
  | true =>
      cases segInWindow conn seg with
      | false => exact ⟨⟨rfl, .inr rfl⟩, by simp⟩
      | true =>
          dsimp only
          rw [pawsClosePath_eq, judged]
          exact ⟨⟨rfl, .inr rfl⟩, fun _ => ⟨rfl, rfl⟩⟩

/-- A segment behind `ts_recent`, without RST and outside of TIME_WAIT. -/
theorem dispatch_behind (opened : conn.state ≠ .synSent) (enabled : conn.tsEnabled = true)
    (behind : conn.tsBehind seg = true) (current : conn.tsRecentExpired clock.paws = false)
    (noReset : seg.flags.has TCP_RST = false) (waits : conn.state ≠ .timeWait) (sendBuf : ℕ)
    (mbufCtx : Option MbufInsertCtx) :
    Refused conn (dispatch conn seg clock sendBuf mbufCtx) ∧
      (conn.reachesPaws seg = true →
        (dispatch conn seg clock sendBuf mbufCtx).outcome.tx = .ack ∧
          (dispatch conn seg clock sendBuf mbufCtx).outcome.pawsRejected = true) := by
  have closing := handleClosePath_behind enabled behind current noReset waits
  unfold dispatch TcpConn.reachesPaws
  split
  · exact absurd ‹_› opened
  · rename_i established
    have open' := handleEstablished_behind enabled behind current noReset sendBuf mbufCtx
    refine ⟨open'.1, fun reaches => open'.2 ?_⟩
    simpa [established, TcpState.synchronized, TcpState.isClosing] using reaches
  all_goals
    rename_i state
    rw [state]
    first
      | exact ⟨closing.1, fun reaches => closing.2 (by
          simpa [TcpState.synchronized, TcpState.isClosing] using reaches)⟩
      | exact ⟨⟨rfl, .inl rfl⟩, fun reaches => by cases reaches⟩

/-- The two handlers came to the same verdict and the same timestamps. -/
structure SameVerdict (first second : Dispatched) : Prop where
  pawsRejected : first.outcome.pawsRejected = second.outcome.pawsRejected
  badOption : first.outcome.badOption = second.outcome.badOption
  stamps : SameStamps first.conn second.conn

/-- Neither the URG test of the one nor the TIME_WAIT branch of the other is in the way. -/
theorem handlers_agree (noUrgent : seg.flags.has TCP_URG = false) (waits : conn.state ≠ .timeWait)
    (clock : Readings) (sendBuf : ℕ) (mbufCtx : Option MbufInsertCtx) :
    SameVerdict (handleEstablished conn seg clock sendBuf mbufCtx)
      (handleClosePath conn seg clock) := by
  cases checked : establishedChecks conn seg with
  | error outcome =>
      dsimp only [handleEstablished]
      rw [checked]
      dsimp only [establishedChecks] at checked
      dsimp only [handleClosePath]
      rw [noUrgent] at checked
      rw [if_neg waits]
      cases reset : seg.flags.has TCP_RST with
      | true =>
          rw [reset] at checked
          cases checked
          exact ⟨rfl, rfl, .refl conn⟩
      | false =>
          cases acked : seg.flags.has TCP_ACK with
          | false =>
              rw [reset, acked] at checked
              cases checked
              exact ⟨rfl, rfl, .refl conn⟩
          | true =>
              cases inside : segInWindow conn seg with
              | false =>
                  rw [reset, acked, inside] at checked
                  cases checked
                  exact ⟨rfl, rfl, .refl conn⟩
              | true =>
                  cases decoded : segOptions seg with
                  | error reason =>
                      rw [reset, acked, inside, decoded] at checked
                      cases checked
                      exact ⟨rfl, rfl, .refl conn⟩
                  | ok opts =>
                      rw [reset, acked, inside, decoded] at checked
                      cases checked
  | ok opts =>
      rcases establishedChecks_eq_ok_iff.mp checked with ⟨_, reset, acked, inside, decoded⟩
      dsimp only [handleClosePath]
      rw [reset, if_neg waits, acked, inside, decoded]
      dsimp only
      rw [pawsClosePath_eq]
      cases judged : paws conn seg opts clock.paws with
      | missingTimestamps | rejected =>
          dsimp only [handleEstablished]
          rw [checked]
          dsimp only
          rw [judged]
          exact ⟨rfl, rfl, .refl conn⟩
      | passed timed expired =>
          rcases handleEstablished_timed checked judged sendBuf mbufCtx with
            ⟨stamps, notRejected, wellFormed⟩
          have sacked := SameStamps.of_sack (sackPass_change timed opts clock.dsack)
          have closed := sacked.trans (.of_close _ seg)
          exact ⟨notRejected, wellFormed, ⟨closed.tsEnabled.trans stamps.tsEnabled.symm,
            closed.tsRecent.trans stamps.tsRecent.symm,
            closed.tsRecentAge.trans stamps.tsRecentAge.symm⟩⟩

end Verdict

/-! ### Runs -/

/-- The handler stays in SYN_SENT only by leaving the connection alone. -/
theorem handleSynSent_waits {conn : TcpConn} {seg : ParsedSegment} {clock : Readings}
    (waits : (handleSynSent conn seg clock).outcome.newState.getD .synSent = .synSent) :
    (handleSynSent conn seg clock).conn = conn := by
  revert waits
  unfold handleSynSent
  split
  · split
    · exact fun _ => rfl
    · exact fun _ => rfl
  · split
    · exact fun _ => rfl
    · split
      · exact fun _ => rfl
      · split
        · exact nofun
        · split
          · exact nofun
          · exact nofun

namespace Host

/-- The timestamps are negotiated by the handshake, not before. -/
def TimedWhenOpen (host : Host) : Prop :=
  ∀ handle conn, host.engine.flowTable.get handle = some conn → conn.state = .synSent →
    conn.tsEnabled = false

theorem timedWhenOpen_start (cfg : EngineConfig) (maxConnections eventSoftCap : ℕ) :
    (Host.start cfg maxConnections eventSoftCap).TimedWhenOpen := by
  intro handle conn live
  rw [Host.get_start] at live
  cases live

variable {host : Host}

theorem TimedWhenOpen.call (before : host.TimedWhenOpen) (op : EngineOp) :
    (host.step op).TimedWhenOpen := by
  intro handle after live waiting
  have step := host.step_conns op live
  have kept : ∀ {entries : List RetransEntry} {mid : TcpConn}, KeptAs entries mid after →
      (mid.state = .synSent → mid.tsEnabled = false) → after.tsEnabled = false := by
    intro entries mid kept earlier
    rw [(SameStamps.of_kept kept).tsEnabled]
    refine earlier ?_
    rcases kept.closes with same | closed
    · exact same.symm.trans waiting
    · rw [closed] at waiting
      cases waiting
  generalize found : host.engine.flowTable.get handle = present at step
  cases step with
  | kept same => exact kept same (before handle _ found)
  | opening opening => exact kept opening fun _ => rfl
  | sent running news sent =>
      rcases sent.kept with ⟨refused, same⟩
      refine kept same fun opening => ?_
      rw [TcpConn.sentUpTo, running] at opening
      cases opening
  | fin running sent state =>
      rw [state] at waiting
      dsimp only [TcpConn.finSent] at waiting
      split at waiting <;> cases waiting
  | segment dispatched processed same =>
      rename_i seg mbufCtx env conn
      subst processed
      refine kept same fun opening => ?_
      have started := ((dispatch_ends conn seg env.clock host.engine.cfg.sendBufferBytes
        mbufCtx).opening opening).1
      dsimp only [TcpConn.enter] at opening ⊢
      rw [dispatch, started] at opening ⊢
      dsimp only at opening ⊢
      rw [handleSynSent_waits opening]
      exact before handle conn found started

theorem TimedWhenOpen.step (before : host.TimedWhenOpen) (op : SystemOp) :
    (host.systemStep op).TimedWhenOpen := by
  cases op with
  | call op => exact before.call op
  | complete index =>
      intro handle conn live
      rw [systemStep, completeFrame_flowTable] at live
      exact before handle conn live
  | drainEvents max => exact before
  | drop =>
      intro handle conn live
      rw [systemStep, drop_get] at live
      cases live

end Host

/-- What a step does to `ts_recent` of a connection: it moves forward unless it had expired, and
only on a segment that starts at or before `rcv_nxt` or finds it expired. -/
structure PawsStep (handle : ConnHandle) (op : SystemOp) (before after : TcpConn) : Prop where
  forward : seqLe before.tsRecent after.tsRecent = true ∨
    ∃ seg mbufCtx env, op = .call (.segment handle seg mbufCtx env) ∧
      before.tsRecentExpired env.clock.paws = true
  moves : (after.tsRecent, after.tsRecentAge) ≠ (before.tsRecent, before.tsRecentAge) →
    ∃ seg mbufCtx env, op = .call (.segment handle seg mbufCtx env) ∧
      (seqLe seg.seq before.rcvNxt = true ∨ before.tsRecentExpired env.clock.paws = true)

theorem SameStamps.pawsStep {handle : ConnHandle} {op : SystemOp} {before after : TcpConn}
    (same : SameStamps before after) : PawsStep handle op before after where
  forward := by
    rw [same.tsRecent, seqLe_self]
    exact .inl rfl
  moves := by
    intro moved
    rw [same.tsRecent, same.tsRecentAge] at moved
    exact absurd rfl moved

theorem Stamped.pawsStep {handle : ConnHandle} {before after : TcpConn} {seg : ParsedSegment}
    {env : InputEnv} (stamped : Stamped before seg env.clock.paws after)
    (mbufCtx : Option MbufInsertCtx) :
    PawsStep handle (.call (.segment handle seg mbufCtx env)) before after := by
  cases stamped with
  | kept same => exact same.pawsStep
  | adopted tsVal carried due same =>
      rcases due with expired | ⟨ahead, early⟩
      · exact ⟨.inr ⟨seg, mbufCtx, env, rfl, expired⟩,
          fun _ => ⟨seg, mbufCtx, env, rfl, .inr expired⟩⟩
      · refine ⟨.inl ?_, fun _ => ⟨seg, mbufCtx, env, rfl, .inl early⟩⟩
        rw [same.tsRecent]
        exact seqLe_of_not_seqLt ahead

theorem Host.systemStep_paws {host : Host} {handle : ConnHandle} {before after : TcpConn}
    (present : host.engine.flowTable.get handle = some before) (opened : before.state ≠ .synSent)
    (op : SystemOp) (live : (host.systemStep op).engine.flowTable.get handle = some after) :
    PawsStep handle op before after := by
  have unmoved : host.engine.flowTable.get handle = some after →
      PawsStep handle op before after := by
    intro same
    rw [present] at same
    cases same
    exact (SameStamps.refl before).pawsStep
  cases op with
  | complete index =>
      rw [systemStep, completeFrame_flowTable] at live
      exact unmoved live
  | drainEvents max => exact unmoved live
  | drop =>
      rw [systemStep, drop_get] at live
      cases live
  | call op =>
      have step := host.step_conns op live
      rw [present] at step
      cases step with
      | kept kept => exact (SameStamps.of_kept kept).pawsStep
      | sent running news sent =>
          rcases sent.kept with ⟨refused, kept⟩
          have same := SameStamps.of_kept kept
          exact SameStamps.pawsStep ⟨same.tsEnabled, same.tsRecent, same.tsRecentAge⟩
      | fin running sent state =>
          have same := SameStamps.of_kept sent
          exact SameStamps.pawsStep ⟨same.tsEnabled, same.tsRecent, same.tsRecentAge⟩
      | segment dispatched processed kept =>
          rename_i seg mbufCtx env
          subst processed
          have stamped := dispatch_stamped opened seg env.clock host.engine.cfg.sendBufferBytes
            mbufCtx
          have same := SameStamps.of_kept kept
          exact (stamped.andThen ⟨same.tsEnabled, same.tsRecent, same.tsRecentAge⟩).pawsStep mbufCtx

/-- In every run, `ts_recent` of a connection with timestamps moves forward unless it has expired,
and only on a segment due; a segment behind it, without RST and outside of TIME_WAIT, is refused
with an ACK at most, and with one where it reaches the test; and the two handlers agree. -/
theorem ts_recent_over_runs {cfg : EngineConfig} {maxConnections eventSoftCap : ℕ} {host : Host}
    (run : Run.Reaches Host.systemStep (fun _ _ => True)
      (Host.start cfg maxConnections eventSoftCap) host)
    {handle : ConnHandle} {conn : TcpConn}
    (present : host.engine.flowTable.get handle = some conn) (enabled : conn.tsEnabled = true) :
    (∀ op after, (host.systemStep op).engine.flowTable.get handle = some after →
      PawsStep handle op conn after) ∧
    (∀ seg clock sendBuf mbufCtx, conn.tsBehind seg = true →
      conn.tsRecentExpired clock.paws = false → seg.flags.has TCP_RST = false →
      conn.state ≠ .timeWait →
        Refused conn (dispatch conn seg clock sendBuf mbufCtx) ∧
          (conn.reachesPaws seg = true →
            (dispatch conn seg clock sendBuf mbufCtx).outcome.tx = .ack ∧
              (dispatch conn seg clock sendBuf mbufCtx).outcome.pawsRejected = true)) ∧
    (∀ seg clock sendBuf mbufCtx, seg.flags.has TCP_URG = false → conn.state ≠ .timeWait →
      SameVerdict (handleEstablished conn seg clock sendBuf mbufCtx)
        (handleClosePath conn seg clock)) := by
  have timed := run.invariant (Host.timedWhenOpen_start cfg maxConnections eventSoftCap)
    fun host op before _ => before.step op
  have opened : conn.state ≠ .synSent := by
    intro waiting
    rw [timed handle conn present waiting] at enabled
    cases enabled
  refine ⟨fun op after live => Host.systemStep_paws present opened op live, ?_, ?_⟩
  · intro seg clock sendBuf mbufCtx behind current noReset waits
    exact dispatch_behind opened enabled behind current noReset waits sendBuf mbufCtx
  · intro seg clock sendBuf mbufCtx noUrgent waits
    exact handlers_agree noUrgent waits clock sendBuf mbufCtx

/-- A SYN-ACK with the TSval 50. -/
def timestamped : SystemOp :=
  .call (.segment 1
    { synAck 100#32 200#32 5000 with
      options := [OPT_TIMESTAMP, 10, 0, 0, 0, 50, 0, 0, 0, 1, OPT_NOP, OPT_NOP] }
    none (inputAt 1000))

/-- The peer's next segment, with the TSval 10. -/
def fromThePast (flags : Flags) : ParsedSegment :=
  { peerSegment 201#32 101#32 flags 5000 [] with
    options := [OPT_NOP, OPT_NOP, OPT_TIMESTAMP, 10, 0, 0, 0, 10, 0, 0, 0, 1] }

/-- A host whose only connection uses timestamps. -/
def timestampedHost : Host :=
  ((Host.start quickCfg 1 64).systemStep opening).systemStep timestamped

theorem timestampedHost_reached :
    Run.Reaches Host.systemStep (fun _ _ => True) (Host.start quickCfg 1 64) timestampedHost :=
  .tail timestamped (.tail opening .refl trivial) trivial

/-- Its `ts_recent` is 50, the two segments are behind it, and no day has passed. -/
theorem timestampedHost_conn :
    ∃ conn, timestampedHost.engine.flowTable.get 1 = some conn ∧ conn.tsEnabled = true ∧
      conn.state = .established ∧ conn.tsRecentExpired 2000 = false ∧
      conn.tsBehind (fromThePast TCP_ACK) = true ∧ conn.tsBehind (fromThePast TCP_RST) = true ∧
      conn.reachesPaws (fromThePast TCP_ACK) = true := by
  have found : (timestampedHost.engine.flowTable.get 1).any (fun conn =>
      decide (conn.tsEnabled = true ∧ conn.state = .established ∧
        conn.tsRecentExpired 2000 = false ∧ conn.tsBehind (fromThePast TCP_ACK) = true ∧
        conn.tsBehind (fromThePast TCP_RST) = true ∧
        conn.reachesPaws (fromThePast TCP_ACK) = true)) = true := by
    decide +kernel
  rcases (Option.any_eq_true _ _).mp found with ⟨conn, present, known⟩
  exact ⟨conn, present, of_decide_eq_true known⟩

/-- An ACK from the past is refused with an ACK. -/
theorem ts_recent_over_runs_stale :
    ∃ conn, timestampedHost.engine.flowTable.get 1 = some conn ∧
      Refused conn (dispatch conn (fromThePast TCP_ACK) (Readings.at 2000) 1000 none) ∧
      (dispatch conn (fromThePast TCP_ACK) (Readings.at 2000) 1000 none).outcome.tx = .ack := by
  rcases timestampedHost_conn with ⟨conn, present, enabled, running, current, behind, _, reaches⟩
  have kept := (ts_recent_over_runs timestampedHost_reached present enabled).2.1
    (fromThePast TCP_ACK) (Readings.at 2000) 1000 none behind current (by decide)
    (by rw [running]; decide)
  exact ⟨conn, present, kept.1, (kept.2 reaches).1⟩

/-- A RST from the past closes the connection. -/
theorem stale_rst_not_refused :
    ¬ ∀ host, Run.Reaches Host.systemStep (fun _ _ => True) (Host.start quickCfg 1 64) host →
      ∀ handle conn, host.engine.flowTable.get handle = some conn → conn.tsEnabled = true →
        ∀ seg clock sendBuf mbufCtx, conn.tsBehind seg = true →
          conn.tsRecentExpired clock.paws = false →
          Refused conn (dispatch conn seg clock sendBuf mbufCtx) := by
  intro refuses
  rcases timestampedHost_conn with ⟨conn, present, enabled, running, current, _, behind, _⟩
  have refused := refuses timestampedHost timestampedHost_reached 1 conn present enabled
    (fromThePast TCP_RST) (Readings.at 2000) 1000 none behind current
  have synchronized : conn.state.synchronized = true := by
    rw [running]
    rfl
  have closes := (dispatch_rst synchronized
    (by decide : (fromThePast TCP_RST).flags.has TCP_RST = true) (Readings.at 2000) 1000 none).2
  rw [refused.only, running] at closes
  cases closes

end DpdkTcp
