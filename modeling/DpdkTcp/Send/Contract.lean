import DpdkTcp.Send.Cut
import DpdkTcp.Wakeup.Wake

/-!
# The contract of `send_bytes`

`Ok(n)` means that the first `n` bytes were cut into segments from the old
`snd_nxt` on, inside the peer's window and the send buffer; an error leaves the
connections and the timers as they were. A segment is never smaller than one
byte, even when the peer announced a maximum of zero.
-/

namespace DpdkTcp

namespace Engine

/-- What the result of `send_bytes` must mean. The segments are at most `mssCap` bytes. -/
inductive SendResult (engine : Engine) (handle : ConnHandle) (bytes : List UInt8)
    (envs : ℕ → SendEnv) (mssCap : TcpConn → ℕ) : Engine × Except SendError ℕ → Prop where
  | ok {after : Engine} {conn conn' : TcpConn} {news : List RetransEntry} {count : ℕ}
      (present : engine.flowTable.get handle = some conn) (running : conn.state = .established)
      (live : after.flowTable.get handle = some conn') (inBytes : count ≤ bytes.length)
      (cut : CutInto (mssCap conn) conn.sndNxt (bytes.take count)
        (engine.dataSegments handle bytes envs) news [])
      (entries : EntriesKept (conn.sndRetrans.entries ++ news) conn'.sndRetrans.entries)
      (sndNxt : conn'.sndNxt = seqAdd conn.sndNxt count)
      (assigned : after.record.assigned = engine.record.assigned ++
        (engine.dataSegments handle bytes envs).map (engine.segmentAssigned handle))
      (window : 0 < count → (conn.sndNxt - conn.sndUna).toNat + count ≤ conn.sndWnd)
      (buffer : 0 < count →
        (conn.sndNxt - conn.sndUna).toNat + count ≤ engine.cfg.sendBufferBytes) :
      SendResult engine handle bytes envs mssCap (after, .ok count)
  | refused {after : Engine}
      (reason : ∀ conn, engine.flowTable.get handle = some conn → conn.state ≠ .established)
      (conns : after.flowTable = engine.flowTable) (timers : after.timerWheel = engine.timerWheel) :
      SendResult engine handle bytes envs mssCap (after, .error .invalidConnHandle)
  | noMem {after : Engine} (reason : (envs 0).dataMbuf = none ∨ (envs 0).appended = false)
      (conns : after.flowTable = engine.flowTable) (timers : after.timerWheel = engine.timerWheel) :
      SendResult engine handle bytes envs mssCap (after, .error .sendBufferFull)

variable {engine : Engine} {handle : ConnHandle}

/-- A loop that runs out of buffers before its first segment leaves connections and timers
alone. -/
theorem sendSegments_noMem {conn : TcpConn} {mssCap : ℕ} (positive : 0 < mssCap)
    (small : mssCap ≤ 65535) {turns : ℕ} {envs : ℕ → SendEnv} {sending ended : Sending}
    (noMem : sendSegments conn handle mssCap turns envs sending = .noMem ended)
    (nothing : ended.accepted = sending.accepted) :
    TxChange sending.engine ended.engine ∧
      ((envs 0).dataMbuf = none ∨ (envs 0).appended = false) := by
  cases turns with
  | zero => cases noMem
  | succ turns =>
      dsimp only [sendSegments] at noMem
      split at noMem
      · cases noMem
      · rename_i left
        cases ends : sendSegment conn handle mssCap (envs 0) sending with
        | stopped next =>
            rw [ends] at noMem
            cases noMem
        | noMem next =>
            rw [ends] at noMem
            cases noMem
            dsimp only [sendSegment] at ends
            split at ends
            · cases ends
            · split at ends
              · rename_i empty
                cases ends
                exact ⟨.refl _, Or.inl empty⟩
              · split at ends
                · rename_i failed
                  cases ends
                  exact ⟨⟨rfl⟩, Or.inr (by simpa using failed)⟩
                · cases ends
        | sent next =>
            rw [ends] at noMem
            dsimp only at noMem
            rcases sendSegment_between handle positive small left ends with ⟨entry, between⟩
            rcases sendSegments_between handle conn positive small turns
              (fun turn => envs (turn + 1)) next with ⟨more, later⟩
            rw [noMem] at later
            have some := between.follows.2.1
            have accepted := between.accepted
            have acceptedLater := later.accepted
            rw [entryBytes_cons, entryBytes_nil] at accepted
            dsimp only [SendTurn.ended] at acceptedLater
            omega

/-- What `finishSend` makes of a loop that sent `news`. -/
theorem SendResult.of_cut {conn : TcpConn} {bytes : List UInt8} {envs : ℕ → SendEnv}
    {sending : Sending} {news : List RetransEntry} {segs : List SegmentTx}
    (present : engine.flowTable.get handle = some conn) (running : conn.state = .established)
    (segments : engine.dataSegments handle bytes envs = segs)
    (between : SentBetween handle envs ⟨engine, engine.admitted conn bytes, 0, conn.sndNxt⟩ sending
      news)
    (cut : CutInto (engine.mssCap conn) conn.sndNxt (engine.admitted conn bytes) segs news
      sending.rest)
    (assigned : sending.engine.record.assigned = engine.record.assigned ++
      segs.map (engine.segmentAssigned handle))
    (stays : sending.engine.stateAt handle = engine.stateAt handle) (wanted tlpNs : ℕ) :
    SendResult engine handle bytes envs engine.mssCap
      (finishSend sending handle wanted tlpNs, .ok sending.accepted) := by
  have accepted := between.accepted
  dsimp only at accepted
  rw [Nat.zero_add, cut.entryBytes_eq] at accepted
  have length : (engine.admitted conn bytes).length ≤ bytes.length ∧
      (engine.admitted conn bytes).length ≤ conn.sndWnd - (conn.sndNxt - conn.sndUna).toNat ∧
      (engine.admitted conn bytes).length ≤
        engine.cfg.sendBufferBytes - (conn.sndNxt - conn.sndUna).toNat := by
    dsimp only [admitted]
    rw [List.length_take]
    omega
  have whole := cut.bytes_eq
  have few : sending.accepted ≤ (engine.admitted conn bytes).length := by
    rw [← whole, List.length_append, accepted]
    omega
  have taken : segs.flatMap SegmentTx.payload = bytes.take sending.accepted := by
    have prefix_ : (engine.admitted conn bytes).take sending.accepted =
        segs.flatMap SegmentTx.payload := by
      rw [← whole, accepted, List.take_left]
    rw [← prefix_]
    dsimp only [admitted] at few ⊢
    rw [List.length_take] at few
    rw [List.take_take]
    congr 1
    omega
  have state : (finishSend sending handle wanted tlpNs).stateAt handle = some .established := by
    rw [stateAt_finishSend, stays, stateAt, present, Option.map_some, running]
  rcases Option.map_eq_some_iff.mp state with ⟨conn', live, _⟩
  rcases sentBetween_finished present between length.2.1 wanted tlpNs live with
    ⟨start, liveStart, ⟨apart, _⟩ | ⟨_, sent⟩⟩
  · exact absurd rfl apart
  · rw [present] at liveStart
    cases liveStart
    refine .ok present running live (by omega) ?_ sent.entries ?_ ?_ (by omega) (by omega)
    · rw [segments, ← taken]
      exact cut.exact
    · rw [sent.sndNxt, cut.entryBytes_eq, ← accepted]
    · have recorded : (finishSend sending handle wanted tlpNs).record.assigned =
          sending.engine.record.assigned := by
        dsimp only [finishSend]
        split
        · unfold armTlpPto
          split
          · rfl
          · split <;> rfl
        · rfl
      rw [recorded, segments, assigned]

/-- The contract, for every engine and every environment. -/
theorem sendBytes_result (engine : Engine) (handle : ConnHandle) (bytes : List UInt8)
    (envs : ℕ → SendEnv) (tlpNs : ℕ) :
    SendResult engine handle bytes envs engine.mssCap
      (engine.sendBytes handle bytes envs tlpNs) := by
  dsimp only [sendBytes]
  cases present : engine.flowTable.get handle with
  | none =>
      refine .refused ?_ rfl rfl
      intro conn live
      rw [present] at live
      cases live
  | some conn =>
      dsimp only
      split
      · rename_i running
        refine .refused ?_ rfl rfl
        intro other live
        rw [present] at live
        cases live
        exact running
      · rename_i running
        rw [not_not] at running
        have segments : engine.dataSegments handle bytes envs =
            sendCuts conn handle (engine.mssCap conn) ((engine.admitted conn bytes).length + 1) envs
              ⟨engine, engine.admitted conn bytes, 0, conn.sndNxt⟩ := by
          rw [dataSegments, present]
          dsimp only
          rw [if_neg (not_not_intro running)]
        have stays := stateAt_sendSegments handle handle conn (engine.mssCap conn)
          ((engine.admitted conn bytes).length + 1) envs
          ⟨engine, engine.admitted conn bytes, 0, conn.sndNxt⟩
        rcases sendSegments_cut handle conn (engine.mssCap_pos conn) (engine.mssCap_le conn)
          ((engine.admitted conn bytes).length + 1) envs
          ⟨engine, engine.admitted conn bytes, 0, conn.sndNxt⟩ with
          ⟨news, between, cut, assigned⟩
        have finished := SendResult.of_cut present running segments between cut assigned stays
          bytes.length tlpNs
        cases ended : sendSegments conn handle (engine.mssCap conn)
          ((engine.admitted conn bytes).length + 1) envs
          ⟨engine, engine.admitted conn bytes, 0, conn.sndNxt⟩ with
        | sent sending =>
            rw [ended] at finished
            exact finished
        | stopped sending =>
            rw [ended] at finished
            exact finished
        | noMem sending =>
            rw [ended] at finished
            dsimp only
            split
            · rename_i nothing
              have unchanged := sendSegments_noMem (engine.mssCap_pos conn) (engine.mssCap_le conn)
                ended nothing
              exact .noMem unchanged.2 unchanged.1.flowTable unchanged.1.timerWheel
            · exact finished

end Engine

/-- A call of `send_bytes` on a host meets its contract. -/
theorem send_bytes_contract (host : Host) (handle : ConnHandle) (bytes : List UInt8)
    (envs : ℕ → SendEnv) (tlpNs : ℕ) :
    ∃ result,
      host.engine.sendBytes handle bytes envs tlpNs =
        ((host.step (.send handle bytes envs tlpNs)).engine, result) ∧
      host.engine.SendResult handle bytes envs host.engine.mssCap
        ((host.step (.send handle bytes envs tlpNs)).engine, result) :=
  ⟨(host.engine.sendBytes handle bytes envs tlpNs).2, rfl,
    host.engine.sendBytes_result handle bytes envs tlpNs⟩

/-- The peer opens with an MSS option of zero. -/
def synAckMssZero : ParsedSegment :=
  { synAck 100#32 200#32 5000 with options := [OPT_MSS, 4, 0, 0] }

/-- A maximum of zero does not keep the segments of the call empty. -/
theorem send_bytes_mss_zero :
    ¬ ∀ host, Run.Reaches Host.systemStep (fun _ _ => True) (Host.start quickCfg 1 64) host →
      ∀ handle bytes envs tlpNs,
        host.engine.SendResult handle bytes envs
          (fun conn => min conn.peerMss.toNat host.engine.cfg.tcpMss)
          (host.engine.sendBytes handle bytes envs tlpNs) := by
  intro contract
  have run : Run.Reaches Host.systemStep (fun _ _ => True) (Host.start quickCfg 1 64)
      (((Host.start quickCfg 1 64).systemStep opening).systemStep
        (.call (.segment 1 synAckMssZero none (inputAt 1000)))) :=
    .tail _ (.tail opening .refl trivial) trivial
  have sent : ((((Host.start quickCfg 1 64).systemStep opening).systemStep
      (.call (.segment 1 synAckMssZero none (inputAt 1000)))).engine.sendBytes 1 [7]
        (fun _ => ⟨some 1, true, 0, 2000, 2000⟩) 2000).2.toOption = some 1 := by decide +kernel
  have zero : ((((Host.start quickCfg 1 64).systemStep opening).systemStep
      (.call (.segment 1 synAckMssZero none (inputAt 1000)))).engine.flowTable.get 1).all
        (fun conn => conn.peerMss.toNat == 0) = true := by decide +kernel
  have result := contract _ run 1 [7] (fun _ => ⟨some 1, true, 0, 2000, 2000⟩) 2000
  generalize Engine.sendBytes _ 1 [7] (fun _ => ⟨some 1, true, 0, 2000, 2000⟩) 2000 = returned
    at result sent
  cases result with
  | refused => cases sent
  | noMem => cases sent
  | ok present _ _ _ cut =>
      cases sent
      rw [present, Option.all_some, beq_iff_eq] at zero
      rw [zero, Nat.zero_min] at cut
      have bytes := cut.bytes_eq
      have sized := cut.sized
      generalize Engine.dataSegments _ _ _ _ = segs at bytes sized
      cases segs with
      | nil => cases bytes
      | cons seg rest =>
          have size := sized seg (List.mem_cons_self ..)
          omega

end DpdkTcp
