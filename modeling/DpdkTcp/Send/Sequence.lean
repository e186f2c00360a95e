import DpdkTcp.Lifecycle.Order
import DpdkTcp.Send.Handed

/-!
# The order of first transmissions

The segments that take sequence numbers are numbered without gaps, from the SYN
to the FIN. Data waits on the ring, and the ring is a queue, so the data of a
connection is handed to the driver in the order of its numbers. `close_conn`
hands its FIN over at once, past what waits.
-/

namespace DpdkTcp

open Lanes

/-- Segments that follow each other in sequence space, from one number to another. -/
def RunsTo : Seq → List FirstSent → Seq → Prop
  | start, [], stop => start = stop
  | start, first :: rest, stop =>
      first.seq = start ∧ 0 < first.len ∧ RunsTo (seqAdd start first.len) rest stop

/-- Each segment starts where the one before it ends. -/
def InSequence (segments : List FirstSent) : Prop :=
  ∃ start stop, RunsTo start segments stop

theorem RunsTo.append {start middle stop : Seq} {left right : List FirstSent}
    (first : RunsTo start left middle) (second : RunsTo middle right stop) :
    RunsTo start (left ++ right) stop := by
  induction left generalizing start with
  | nil =>
      rw [List.nil_append, show start = middle from first]
      exact second
  | cons head rest ih =>
      rcases first with ⟨seq, positive, later⟩
      exact ⟨seq, positive, ih later⟩

/-- The segments of one call of `send_bytes` follow each other. -/
theorem CutInto.runsTo {mssCap : ℕ} {start : Seq} {bytes rest : List UInt8}
    {segs : List SegmentTx} {entries : List RetransEntry}
    (cut : CutInto mssCap start bytes segs entries rest) (engine : Engine) (handle : ConnHandle) :
    RunsTo start (segs.map (engine.segmentAssigned handle))
      (seqAdd start (segs.flatMap SegmentTx.payload).length) := by
  induction cut with
  | done start rest => exact (seqAdd_zero start).symm
  | next seq positive _ _ _ _ ih =>
      refine ⟨seq, positive, ?_⟩
      rw [List.flatMap_cons, List.length_append, seqAdd_add]
      exact ih

/-- The segments of the connection a handle stood for after so many calls of `connect`. -/
def FirstSent.isOf (handle : ConnHandle) (incarnation : ℕ) (first : FirstSent) : Bool :=
  decide (first.handle = handle ∧ first.incarnation = incarnation)

namespace Engine

variable {engine : Engine} {handle : ConnHandle}

/-- A call of `send_bytes` without a buffer for its first segment cuts none. -/
theorem dataSegments_of_noMem {bytes : List UInt8} {envs : ℕ → SendEnv}
    (noMem : (envs 0).dataMbuf = none ∨ (envs 0).appended = false) :
    engine.dataSegments handle bytes envs = [] := by
  unfold dataSegments
  split
  · rfl
  · rename_i conn _
    split
    · rfl
    · dsimp only [sendCuts]
      split
      · rfl
      · cases ends : sendSegment conn handle (engine.mssCap conn) (envs 0)
            ⟨engine, engine.admitted conn bytes, 0, conn.sndNxt⟩ with
        | noMem | stopped => rfl
        | sent next =>
            dsimp only [sendSegment] at ends
            rcases noMem with none | short
            · rw [none] at ends
              split at ends <;> cases ends
            · split at ends
              · cases ends
              · split at ends
                · cases ends
                · rw [short] at ends
                  cases ends

/-- What `send_bytes` cuts reaches from the old `snd_nxt` to the new one. -/
theorem sendBytes_runsTo {conn : TcpConn} (present : engine.flowTable.get handle = some conn)
    (bytes : List UInt8) (envs : ℕ → SendEnv) (tlpNs : ℕ) :
    ∃ stop, RunsTo conn.sndNxt
        ((engine.dataSegments handle bytes envs).map (engine.segmentAssigned handle)) stop ∧
      (engine.dataSegments handle bytes envs ≠ [] → conn.state = .established) ∧
      ∀ conn', (engine.sendBytes handle bytes envs tlpNs).1.flowTable.get handle = some conn' →
        conn'.sndNxt = stop := by
  have result := sendBytes_result engine handle bytes envs tlpNs
  generalize engine.sendBytes handle bytes envs tlpNs = sent at result ⊢
  have idle : engine.dataSegments handle bytes envs = [] → ∀ {after : Engine},
      after.flowTable = engine.flowTable → ∃ stop, RunsTo conn.sndNxt
        ((engine.dataSegments handle bytes envs).map (engine.segmentAssigned handle)) stop ∧
      (engine.dataSegments handle bytes envs ≠ [] → conn.state = .established) ∧
      ∀ conn', after.flowTable.get handle = some conn' → conn'.sndNxt = stop := by
    intro nothing after conns
    rw [nothing]
    refine ⟨conn.sndNxt, rfl, fun some => absurd rfl some, ?_⟩
    intro conn' live
    rw [conns, present] at live
    cases live
    rfl
  cases result with
  | ok here running live inBytes cut entries sndNxt =>
      cases present.symm.trans here
      have runs := cut.runsTo engine handle
      have whole := cut.bytes_eq
      rw [List.append_nil] at whole
      rw [whole, List.length_take, Nat.min_eq_left inBytes, ← sndNxt] at runs
      refine ⟨_, runs, fun _ => running, ?_⟩
      intro conn' there
      cases live.symm.trans there
      rfl
  | refused reason conns timers =>
      refine idle ?_ conns
      unfold dataSegments
      rw [present]
      exact if_pos (reason conn present)
  | noMem reason conns timers => exact idle (dataSegments_of_noMem reason) conns

end Engine

/-! ### How a step numbers segments -/

/-- The states of a connection that may still send data. -/
def TcpState.early (state : TcpState) : Prop :=
  state = .synSent ∨ state = .established

theorem TcpState.Later.early {first second : TcpState} (later : first.Later second)
    (early : second.early) : first.early :=
  early.imp later.eq_synSent later.eq_established

/-- A step keeps `snd_nxt`, and a connection that may still send could before. -/
def SameEdge (before after : TcpConn) : Prop :=
  after.sndNxt = before.sndNxt ∧ (after.state.early → before.state.early)

theorem KeptAs.sameEdge {entries : List RetransEntry} {before after : TcpConn}
    (kept : KeptAs entries before after) : SameEdge before after :=
  ⟨kept.send.sndNxt, kept.state.early⟩

theorem SegmentStep.sameEdge {conn after : TcpConn} {seg : ParsedSegment} {nowNs : ℕ}
    (step : SegmentStep conn seg nowNs after) : SameEdge conn after := by
  cases step with
  | kept send state => exact ⟨send.sndNxt, state.early⟩
  | opened opening send state => exact ⟨send.sndNxt, fun _ => Or.inl opening⟩
  | acked running acceptable send state => exact ⟨send.sndNxt, state.early⟩
  | closing running acceptable send state => exact ⟨send.sndNxt, state.early⟩

namespace Engine

/-- A call of `close_conn` that sends a FIN. -/
def sendsFin (engine : Engine) (handle : ConnHandle) (finSent : Bool) : Bool :=
  finSent && (engine.flowTable.get handle).any fun conn =>
    decide (conn.state = .established ∨ conn.state = .closeWait)

/-- What a call numbers: `news` of one connection, the FIN of one that closes, or the SYN
of a new one. -/
inductive Numbers (closes : ConnHandle → Prop) (engine : Engine) : Engine → Prop where
  | more {after : Engine} (target : ConnHandle) (news : List FirstSent)
      (opened : after.record.opened = engine.record.opened) (taken : engine.Taken → after.Taken)
      (advances : Desk.Advances news engine.desk after.desk)
      (own : ∀ first ∈ news, first.isOf target (engine.record.incarnation target) = true)
      (data : ∀ first ∈ news, first.fin = false)
      (sends : news ≠ [] → ∃ conn stop, engine.flowTable.get target = some conn ∧
        conn.state.early ∧ RunsTo conn.sndNxt news stop)
      (conns : ∀ handle conn', after.flowTable.get handle = some conn' →
        ∃ conn, engine.flowTable.get handle = some conn ∧
          (conn'.state.early → conn.state.early) ∧
          if handle = target then RunsTo conn.sndNxt news conn'.sndNxt
          else conn'.sndNxt = conn.sndNxt) : Numbers closes engine after
  | fin {after : Engine} {target : ConnHandle} {conn : TcpConn}
      (present : engine.flowTable.get target = some conn) (closing : closes target)
      (opened : after.record.opened = engine.record.opened) (taken : engine.Taken → after.Taken)
      (passed : Desk.Advances []
        (engine.desk.pass (engine.firstSent target conn.sndNxt 1 true)) after.desk)
      (edge : ∀ conn', after.flowTable.get target = some conn' →
        conn'.sndNxt = seqAdd conn.sndNxt 1 ∧ ¬ conn'.state.early)
      (others : ∀ other conn', other ≠ target → after.flowTable.get other = some conn' →
        ∃ conn, engine.flowTable.get other = some conn ∧ SameEdge conn conn') :
      Numbers closes engine after
  | syn {after : Engine} {fresh : ConnHandle} {iss : Seq}
      (vacant : engine.flowTable.get fresh = none)
      (opened : after.record.opened = engine.record.opened ++ [fresh])
      (taken : engine.Taken → after.Taken)
      (passed : Desk.Advances []
        (engine.desk.pass ⟨fresh, engine.record.incarnation fresh + 1, iss, 1, false⟩) after.desk)
      (opening : ∀ conn', after.flowTable.get fresh = some conn' →
        conn'.sndNxt = seqAdd iss 1)
      (others : ∀ other conn', other ≠ fresh → after.flowTable.get other = some conn' →
        ∃ conn, engine.flowTable.get other = some conn ∧ SameEdge conn conn') :
      Numbers closes engine after

variable {closes : ConnHandle → Prop} {engine : Engine}

theorem Numbers.quiet {after : Engine} (hands : Hands [] engine after)
    (conns : ∀ handle conn', after.flowTable.get handle = some conn' →
      ∃ conn, engine.flowTable.get handle = some conn ∧ SameEdge conn conn') :
    Numbers closes engine after := by
  refine .more 0 [] hands.opened hands.taken hands.advances (by rintro _ ⟨⟩) (by rintro _ ⟨⟩)
    (fun some => absurd rfl some) ?_
  intro handle conn' live
  rcases conns handle conn' live with ⟨conn, present, edge, early⟩
  refine ⟨conn, present, early, ?_⟩
  split
  · exact edge.symm
  · exact edge

theorem Moved.sameEdge {allowed : ConnHandle → ℕ → Prop} {after : Engine}
    (moved : Moved allowed engine after) (handle : ConnHandle) (conn' : TcpConn)
    (live : after.flowTable.get handle = some conn') :
    ∃ conn, engine.flowTable.get handle = some conn ∧ SameEdge conn conn' := by
  rcases moved.conns handle conn' live with ⟨conn, present, kept⟩
  exact ⟨conn, present, kept.sameEdge⟩

theorem sendBytes_numbers (handle : ConnHandle) (bytes : List UInt8) (envs : ℕ → SendEnv)
    (tlpNs : ℕ) : Numbers closes engine (engine.sendBytes handle bytes envs tlpNs).1 := by
  have hands := sendBytes_hands engine handle bytes envs tlpNs
  refine .more handle _ hands.opened hands.taken hands.advances ?_ ?_ ?_ ?_
  · intro first member
    rcases List.mem_map.mp member with ⟨seg, _, rfl⟩
    exact decide_eq_true ⟨rfl, rfl⟩
  · intro first member
    rcases List.mem_map.mp member with ⟨seg, _, rfl⟩
    rfl
  · intro some
    have cuts : engine.dataSegments handle bytes envs ≠ [] :=
      fun nothing => some (by rw [nothing]; rfl)
    cases present : engine.flowTable.get handle with
    | none =>
        unfold dataSegments at cuts
        rw [present] at cuts
        exact absurd rfl cuts
    | some conn =>
        rcases sendBytes_runsTo present bytes envs tlpNs with ⟨stop, runs, running, _⟩
        exact ⟨conn, stop, rfl, Or.inr (running cuts), runs⟩
  · intro other conn' live
    rcases (sendBytes_conns engine handle bytes envs tlpNs).2.2 other conn' live with
      ⟨conn, present, step⟩
    have early : conn'.state.early → conn.state.early := by
      rcases step with kept | ⟨_, _, news, sent⟩
      · exact kept.state.early
      · exact sent.state.early
    refine ⟨conn, present, early, ?_⟩
    split
    · rename_i same
      subst same
      rcases sendBytes_runsTo present bytes envs tlpNs with ⟨stop, runs, _, reaches⟩
      rw [reaches conn' live]
      exact runs
    · rename_i apart
      rcases step with kept | ⟨here, _⟩
      · exact kept.send.sndNxt
      · exact absurd here apart

theorem closeConn_numbers (handle : ConnHandle) (finSent : Bool) (nowNs : ℕ)
    (may : engine.sendsFin handle finSent = true → closes handle) :
    Numbers closes engine (engine.closeConn handle finSent nowNs) := by
  have unchanged : Numbers closes engine engine :=
    .quiet (.refl engine) fun _ conn' live => ⟨conn', live, rfl, id⟩
  dsimp only [closeConn]
  split
  · exact unchanged
  · rename_i conn present
    split
    · exact unchanged
    · rename_i running
      split
      · exact unchanged
      · rename_i outgoing
        have sends : engine.sendsFin handle finSent = true := by
          rw [Bool.not_eq_true', Bool.not_eq_false] at outgoing
          rw [sendsFin, outgoing, present, Bool.true_and, Option.any_some, decide_eq_true_eq]
          by_cases established : conn.state = .established
          · exact Or.inl established
          · exact Or.inr (by_contra fun other => running ⟨established, other⟩)
        have hands := transitionConn_hands
          ((engine.recordSentAtOnce (engine.firstSent handle conn.sndNxt 1 true)).modifyConn handle
            fun conn =>
              { conn with ourFinSeq := some conn.sndNxt, sndNxt := seqAdd conn.sndNxt 1 }) handle
          (if conn.state = .established then .finWait1 else .lastAck) nowNs
        refine .fin present (may sends) hands.opened
          (fun taken => hands.taken (taken.append (.refl _))) hands.advances ?_ ?_
        · intro conn' live
          rcases transitionConn_conns _ _ _ _ live with ⟨written, there, kept, state⟩
          rw [modifyConn, FlowTable.get_modify, if_pos rfl] at there
          dsimp only [recordSentAtOnce] at there
          rw [present] at there
          cases there
          rw [if_pos rfl] at state
          refine ⟨kept.send.sndNxt, ?_⟩
          rw [state]
          split <;> rintro (early | early) <;> cases early
        · intro other conn' apart live
          rcases transitionConn_conns _ _ _ _ live with ⟨written, there, kept, state⟩
          rw [modifyConn, FlowTable.get_modify, if_neg apart] at there
          rw [if_neg apart] at kept
          exact ⟨written, there, kept.sameEdge⟩

theorem connectWithOpts_numbers (tuple : FourTuple) (iss : Seq) (ourMss : UInt16)
    (opts : ConnectOpts) (synSent : Bool) (nowNs : ℕ) :
    Numbers closes engine (engine.connectWithOpts tuple iss ourMss opts synSent nowNs).1 := by
  have unchanged : Numbers closes engine engine :=
    .quiet (.refl engine) fun _ conn' live => ⟨conn', live, rfl, id⟩
  dsimp only [connectWithOpts]
  split
  · exact unchanged
  split
  · exact unchanged
  split
  · exact unchanged
  rename_i fresh inserted
  have table := FlowTable.get_insert
    (Prod.ext rfl inserted : engine.flowTable.insert _ = (_, some fresh))
  split
  · refine .quiet (.same rfl rfl) ?_
    intro other conn' live
    dsimp only [dropConn] at live
    rw [FlowTable.get_remove, (table other).2] at live
    split at live
    · cases live
    · exact ⟨conn', live, rfl, id⟩
  · generalize opened_eq : ({ engine with
      flowTable := (engine.flowTable.insert
        (engine.connecting tuple iss ourMss opts nowNs)).1 } : Engine) = inside
    have there : ∀ other, inside.flowTable.get other =
        if other = fresh then some (engine.connecting tuple iss ourMss opts nowNs)
        else engine.flowTable.get other := by
      intro other
      rw [← opened_eq]
      exact (table other).2
    have record : inside.record = engine.record := by
      rw [← opened_eq]
    have timed : Moved (fun _ _ => False) _ _ := armSynRetrans_moved
      ((inside.recordOpened fresh iss).transitionConn fresh .synSent nowNs) fresh nowNs
      (max engine.cfg.tcpInitialRtoUs engine.cfg.tcpMinRtoUs)
    have hands := Hands.after (transitionConn_hands (inside.recordOpened fresh iss) fresh .synSent
      nowNs) (armSynRetrans_hands _ fresh nowNs
        (max engine.cfg.tcpInitialRtoUs engine.cfg.tcpMinRtoUs))
    have taken : engine.Taken → (inside.recordOpened fresh iss).Taken := by
      intro before
      rw [Taken, ← record] at before
      exact before.append (.refl _)
    have opened : (inside.recordOpened fresh iss).record.opened =
        engine.record.opened ++ [fresh] := by
      rw [← record]
      rfl
    have passed : (inside.recordOpened fresh iss).desk =
        engine.desk.pass ⟨fresh, engine.record.incarnation fresh + 1, iss, 1, false⟩ := by
      have count : (engine.record.opened ++ [fresh]).count fresh =
          engine.record.incarnation fresh + 1 := by
        rw [List.count_append, List.count_singleton_self]
        rfl
      rw [← count, ← opened_eq]
      rfl
    have conns : ∀ other conn', (((inside.recordOpened fresh iss).transitionConn fresh .synSent
          nowNs).armSynRetrans fresh nowNs
            (max engine.cfg.tcpInitialRtoUs engine.cfg.tcpMinRtoUs)).flowTable.get other =
          some conn' →
        ∃ conn, inside.flowTable.get other = some conn ∧
          (other ≠ fresh → SameEdge conn conn') ∧ conn'.sndNxt = conn.sndNxt := by
      intro other conn' live
      rcases timed.conns other conn' live with ⟨armed, liveArmed, kept⟩
      rcases transitionConn_conns _ _ _ _ liveArmed with ⟨conn, present, entered, _⟩
      refine ⟨conn, present, fun apart => ?_, kept.send.sndNxt.trans entered.send.sndNxt⟩
      rw [if_neg apart] at entered
      exact (entered.trans kept).sameEdge
    refine .syn (table fresh).1 (hands.opened.trans opened)
      (fun before => hands.taken (taken before)) (passed ▸ hands.advances) ?_ ?_
    · intro conn' live
      rcases conns fresh conn' live with ⟨conn, present, _, edge⟩
      rw [there, if_pos rfl] at present
      cases present
      exact edge
    · intro other conn' apart live
      rcases conns other conn' live with ⟨conn, present, kept, _⟩
      rw [there, if_neg apart] at present
      exact ⟨conn, present, kept apart⟩

end Engine

namespace Host

/-- The step is a call of `close_conn` that sends the FIN of a connection. -/
def sendsFin (host : Host) (handle : ConnHandle) : SystemOp → Bool
  | .call (.close target finSent _) =>
      decide (target = handle) && host.engine.sendsFin target finSent
  | _ => false

/-- What a step numbers. -/
theorem systemStep_numbers (host : Host) {op : SystemOp} (live : op.live = true) :
    host.engine.Numbers (fun handle => host.sendsFin handle op = true)
      (host.systemStep op).engine := by
  cases op with
  | call op =>
      have quiet : quiet op = true → Engine.Hands [] host.engine (host.step op).engine →
          host.engine.Numbers (fun handle => host.sendsFin handle (.call op) = true)
            (host.step op).engine := by
        intro isQuiet hands
        exact .quiet hands (host.step_moved isQuiet).sameEdge
      cases op with
      | connect tuple iss ourMss opts synSent nowNs =>
          exact Engine.connectWithOpts_numbers tuple iss ourMss opts synSent nowNs
      | send handle bytes envs tlpNs => exact Engine.sendBytes_numbers handle bytes envs tlpNs
      | close handle finSent nowNs =>
          refine Engine.closeConn_numbers handle finSent nowNs fun sends => ?_
          rw [sendsFin, sends, decide_eq_true rfl]
          rfl
      | segment handle seg mbufCtx env =>
          refine .quiet (Engine.tcpInput_hands _ handle seg mbufCtx env) ?_
          intro other conn' there
          rcases Engine.tcpInput_conns _ handle seg mbufCtx env there with
            ⟨conn, present, ⟨_, kept⟩ | ⟨_, step⟩⟩
          · exact ⟨conn, present, kept.sameEdge⟩
          · exact ⟨conn, present, step.sameEdge⟩
      | advance nowNs => exact quiet rfl (.same rfl rfl)
      | fireNext env =>
          refine quiet rfl ?_
          dsimp only [step]
          split
          · exact .refl _
          · exact Engine.fireTimer_hands _ _ _ env
      | flush sent => exact quiet rfl (Engine.drainTxPendingData_hands _ sent)
      | reap nowNs => exact quiet rfl (Engine.reapTimeWait_hands _ nowNs)
      | twSkip handle nowNs => exact quiet rfl (Engine.requestTwSkip_hands _ handle nowNs)
  | complete index =>
      refine .quiet ?_ ?_
      · dsimp only [systemStep, Engine.completeFrame]
        split
        · exact .refl _
        · refine .after ?_ (Engine.releaseMbufs_hands _ _)
          exact .same rfl rfl
      · intro handle conn' there
        rw [systemStep, completeFrame_flowTable] at there
        exact ⟨conn', there, rfl, id⟩
  | drainEvents max =>
      exact .quiet (.same rfl rfl) fun handle conn' there => ⟨conn', there, rfl, id⟩
  | drop => cases live

end Host

end DpdkTcp
