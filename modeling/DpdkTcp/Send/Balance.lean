import DpdkTcp.Send.Refs
import DpdkTcp.Lifecycle.Dispatch

/-!
# Every reference to a TX buffer is accounted for

The runs of the engine with the driver, which gives back the frames it has sent,
and with the end of the engine. As long as no connection leaves the table with
entries, the count of a buffer is the number of the entries and the frames that
name it, and no two entries share a buffer.
-/

namespace DpdkTcp

namespace Engine

/-- The count of every buffer is the number of its holders, of which at most one is an entry. -/
def Balanced (engine : Engine) : Prop :=
  ∀ addr, (engine.mbufs addr).refcnt = engine.entryRefs addr + engine.frameRefs addr ∧
    engine.entryRefs addr ≤ 1

theorem balanced_iff {engine : Engine} :
    engine.Balanced ↔ ∀ addr, engine.slack addr = 0 ∧ engine.entryRefs addr ≤ 1 := by
  unfold Balanced slack
  constructor
  · intro balanced addr
    have here := balanced addr
    omega
  · intro settled addr
    have here := settled addr
    omega

end Engine

theorem Conserves.balanced {before after : Engine} (conserves : Conserves before after)
    (balanced : before.Balanced) : after.Balanced := by
  rw [Engine.balanced_iff] at balanced ⊢
  intro addr
  have here := balanced addr
  exact ⟨(conserves.slack addr).trans here.1, Nat.le_trans (conserves.entryRefs addr) here.2⟩

namespace Engine

/-! ### Sending -/

variable {engine : Engine} {handle : ConnHandle}

theorem Balanced.entryRefs_of_free (balanced : engine.Balanced) {addr : ℕ}
    (free : (engine.mbufs addr).refcnt = 0) : engine.entryRefs addr = 0 := by
  have here := (balanced addr).1
  rw [free] at here
  omega

/-- A new entry takes over the reference of its buffer. -/
theorem stashEntry_refs {conn : TcpConn} (live : engine.flowTable.get handle = some conn)
    (entry : RetransEntry) (addr : ℕ) :
    (engine.stashEntry handle entry).slack addr =
        engine.slack addr - [entry.mbuf].count addr ∧
      (engine.stashEntry handle entry).entryRefs addr ≤
        engine.entryRefs addr + [entry.mbuf].count addr := by
  let stash : TcpConn → TcpConn := fun conn =>
    { conn with sndRetrans := conn.sndRetrans.pushAfterTx entry }
  have grown : (stash conn).entryMbufs = conn.entryMbufs ++ [entry.mbuf] := by
    dsimp only [stash, TcpConn.entryMbufs, SendRetrans.pushAfterTx]
    rw [List.map_append]
    rfl
  have stashed : (engine.modifyConn handle stash).entryRefs addr =
      engine.entryRefs addr + [entry.mbuf].count addr := by
    have exchanged := entryRefs_set engine handle live (stash conn) addr
    rw [grown, List.count_append] at exchanged
    unfold modifyConn FlowTable.modify
    rw [live]
    dsimp only at exchanged ⊢
    omega
  have slack : (engine.modifyConn handle stash).slack addr =
      engine.slack addr - [entry.mbuf].count addr := by
    unfold Engine.slack
    rw [stashed]
    dsimp only [frameRefs, modifyConn]
    omega
  have armed : Conserves (engine.modifyConn handle stash) (engine.stashEntry handle entry) := by
    dsimp only [stashEntry]
    rw [live]
    dsimp only
    split
    · exact conserves_armRto _ _ _
    · exact .refl _
  have later := armed.entryRefs addr
  exact ⟨(armed.slack addr).trans slack, by omega⟩

/-- A new frame holds one reference to its buffer, the other is left for the entry. -/
theorem slack_pushed {mbuf : ℕ} (free : (engine.mbufs mbuf).refcnt = 0) (data : List UInt8)
    (headPayload sent : ℕ) (first : FirstSent) (addr : ℕ) :
    (((((engine.allocMbuf mbuf).writeMbuf mbuf data).holdMbuf mbuf).recordAssigned
        first).pushTxPendingData ⟨[mbuf], headPayload, some first⟩ sent).slack addr =
      engine.slack addr + [mbuf].count addr := by
  rw [slack_pushTxPendingData, slack_recordAssigned, slack_holdMbuf, slack_writeMbuf, slack_allocMbuf _ mbuf addr free]
  dsimp only
  omega

/-- The entry of a new frame takes the reference left for it. -/
theorem Balanced.stashed (balanced : engine.Balanced) {pushed : Engine} {entry : RetransEntry}
    (free : (engine.mbufs entry.mbuf).refcnt = 0)
    (live : engine.stateAt handle ≠ none) (table : pushed.flowTable = engine.flowTable)
    (slack : ∀ addr, pushed.slack addr = engine.slack addr + [entry.mbuf].count addr) :
    (pushed.stashEntry handle entry).Balanced := by
  rcases Option.ne_none_iff_exists'.mp live with ⟨state, found⟩
  rcases stateAt_eq_some _ _ found with ⟨conn, present, _⟩
  rw [← table] at present
  rw [balanced_iff]
  intro addr
  have before := balanced_iff.mp balanced addr
  have same : pushed.entryRefs addr = engine.entryRefs addr := by
    unfold entryRefs
    rw [table]
  rcases stashEntry_refs present entry addr with ⟨after, entries⟩
  rw [slack] at after
  refine ⟨by omega, ?_⟩
  by_cases named : addr = entry.mbuf
  · have fresh := balanced.entryRefs_of_free free
    rw [named] at same entries ⊢
    rw [List.count_singleton_self] at entries
    omega
  · have other : [entry.mbuf].count addr = 0 := by
      rw [List.count_singleton, if_neg (by simpa using Ne.symm named)]
    omega

/-- One turn of the segment loop. -/
theorem Balanced.sendSegment {sending : Sending} (balanced : sending.engine.Balanced)
    (live : sending.engine.stateAt handle ≠ none) (conn : TcpConn) (mssCap : ℕ) (env : SendEnv)
    (free : sending.engine.handsOutFree env.dataMbuf = true) :
    (sendSegment conn handle mssCap env sending).ended.engine.Balanced := by
  dsimp only [Engine.sendSegment]
  split
  · exact balanced
  · split
    · exact balanced
    · rename_i mbuf allocated
      rw [handsOutFree, allocated, Option.all_some, decide_eq_true_iff] at free
      split
      · refine Conserves.balanced ?_ balanced
        refine conserves_of_flowTable rfl ?_
        intro addr
        dsimp only [SendTurn.ended]
        rw [slack_releaseMbuf, slack_allocMbuf _ mbuf addr free]
        omega
      · dsimp only [SendTurn.ended]
        exact balanced.stashed free live (pushTxPendingData_change _ _ _).flowTable
          fun addr => slack_pushed free _ _ _ _ addr

/-- The data buffers of the segment loop are free when they are allocated. -/
def sendFree (conn : TcpConn) (handle : ConnHandle) (mssCap : ℕ) :
    (turns : ℕ) → (envs : ℕ → SendEnv) → Sending → Bool
  | 0, _, _ => true
  | turns + 1, envs, sending =>
      decide (sending.rest = []) ||
        sending.engine.handsOutFree (envs 0).dataMbuf &&
          match Engine.sendSegment conn handle mssCap (envs 0) sending with
          | .sent next => sendFree conn handle mssCap turns (fun turn => envs (turn + 1)) next
          | _ => true

theorem Balanced.sendSegments {conn : TcpConn} {mssCap turns : ℕ} {envs : ℕ → SendEnv}
    {sending : Sending} (balanced : sending.engine.Balanced)
    (live : sending.engine.stateAt handle ≠ none)
    (free : sendFree conn handle mssCap turns envs sending = true) :
    (sendSegments conn handle mssCap turns envs sending).ended.engine.Balanced := by
  induction turns generalizing envs sending with
  | zero => exact balanced
  | succ turns ih =>
      dsimp only [Engine.sendSegments]
      split
      · exact balanced
      · rename_i some
        rw [sendFree, decide_eq_false some, Bool.false_or] at free
        rcases Bool.and_eq_true_iff.mp free with ⟨now, later⟩
        have turn := balanced.sendSegment live conn mssCap (envs 0) now
        have alive := stateAt_sendSegment handle handle conn mssCap (envs 0) sending
        generalize Engine.sendSegment conn handle mssCap (envs 0) sending = ended at *
        cases ended with
        | sent next => exact ih turn (by rw [SendTurn.ended] at alive; rwa [alive]) later
        | noMem next => exact turn
        | stopped next => exact turn

theorem conserves_finishSend (sending : Sending) (wanted tlpNs : ℕ) :
    Conserves sending.engine (finishSend sending handle wanted tlpNs) := by
  have advanced : Conserves sending.engine (sending.engine.modifyConn handle fun conn =>
      { conn with
        sndNxt := sending.curSeq
        sendRefusedPending :=
          if sending.accepted < wanted % 4294967296 then true else conn.sendRefusedPending }) :=
    conserves_modifyConn _ _ fun _ => rfl
  dsimp only [finishSend]
  split
  · exact advanced.trans (conserves_armTlpPto _ _ _)
  · exact advanced

/-- The data buffers of a call of `send_bytes` are free when they are allocated. -/
def sendBytesFree (engine : Engine) (handle : ConnHandle) (bytes : List UInt8)
    (envs : ℕ → SendEnv) : Bool :=
  (engine.flowTable.get handle).all fun conn =>
    conn.state ≠ .established ||
      sendFree conn handle (engine.mssCap conn) ((engine.admitted conn bytes).length + 1) envs
        ⟨engine, engine.admitted conn bytes, 0, conn.sndNxt⟩

theorem Balanced.sendBytes (balanced : engine.Balanced) (bytes : List UInt8)
    (envs : ℕ → SendEnv) (tlpNs : ℕ) (free : engine.sendBytesFree handle bytes envs = true) :
    (engine.sendBytes handle bytes envs tlpNs).1.Balanced := by
  dsimp only [Engine.sendBytes]
  split
  · exact balanced
  · rename_i conn present
    split
    · exact balanced
    · rename_i running
      have allocated : sendFree conn handle (engine.mssCap conn)
          ((engine.admitted conn bytes).length + 1) envs
          ⟨engine, engine.admitted conn bytes, 0, conn.sndNxt⟩ = true := by
        simpa [sendBytesFree, present, not_not.mp running] using free
      have live : engine.stateAt handle ≠ none := by
        rw [stateAt, present]
        exact Option.some_ne_none _
      have looped := @Balanced.sendSegments handle conn (engine.mssCap conn) _ envs
        ⟨engine, engine.admitted conn bytes, 0, conn.sndNxt⟩ balanced live allocated
      generalize Engine.sendSegments conn handle (engine.mssCap conn) _ envs _ = ended at looped ⊢
      cases ended with
      | sent sending => exact (conserves_finishSend sending _ tlpNs).balanced looped
      | stopped sending => exact (conserves_finishSend sending _ tlpNs).balanced looped
      | noMem sending =>
          dsimp only
          split
          · exact looped
          · exact (conserves_finishSend sending _ tlpNs).balanced looped

/-! ### Removals, the driver and the end of the engine -/

/-- `reap_time_wait` takes connections without entries only. -/
def reapsIdle (engine : Engine) (nowNs : ℕ) : Bool :=
  engine.handles.all fun handle => (engine.flowTable.get handle).all fun conn =>
    !expired conn nowNs || conn.sndRetrans.isEmpty

theorem conserves_reapTimeWait (nowNs : ℕ) (idle : engine.reapsIdle nowNs = true) :
    Conserves engine (engine.reapTimeWait nowNs) := by
  have folded : ∀ (candidates : List ConnHandle) (current : Engine),
      (∀ handle ∈ candidates, current.Idle handle) →
      Conserves current
        (candidates.foldl (fun engine handle => engine.reap handle nowNs) current) := by
    intro candidates
    induction candidates with
    | nil => exact fun current _ => .refl current
    | cons candidate rest ih =>
        intro current idle
        have closed : ((current.transitionConn candidate .closed nowNs).pushEvent
            (.closed candidate 0 nowNs)).Idle candidate :=
          (idle candidate List.mem_cons_self).transitionConn .closed nowNs
        refine .trans ?_ (ih (current.reap candidate nowNs) ?_)
        · exact ((conserves_transitionConn _ _ _ _).trans (conserves_pushEvent _ _)).trans
            (conserves_removeConn _ candidate closed)
        · intro handle member
          refine (idle handle (List.mem_cons_of_mem _ member)).moved ?_
          exact ((close_moved current candidate nowNs).trans (pushEvent_moved _ _)).trans
            (removeConn_moved _ candidate)
  dsimp only [reapTimeWait]
  apply folded
  intro handle member conn present
  rw [List.mem_reverse, List.mem_filter, present] at member
  have here := List.all_eq_true.mp idle handle member.1
  have expired : expired conn nowNs = true := member.2
  rw [present, Option.all_some, expired] at here
  have empty : conn.sndRetrans.entries = [] := by simpa [SendRetrans.isEmpty] using here
  rw [TcpConn.entryMbufs, empty]
  rfl

theorem conserves_completeFrame (index : ℕ) : Conserves engine (engine.completeFrame index) := by
  dsimp only [completeFrame]
  split
  · exact .refl engine
  · rename_i frame found
    refine conserves_of_flowTable (by rw [releaseMbufs_only]) ?_
    intro addr
    rw [slack_releaseMbufs]
    have taken := Cells.count_flatMap_eraseIdx TxFrame.segs found addr
    dsimp only [slack, entryRefs, frameRefs]
    omega

theorem conserves_drop (idle : ∀ slot ∈ engine.flowTable.slots, slotMbufs slot = []) :
    Conserves engine engine.drop := by
  have refs : ∀ addr, engine.entryRefs addr = 0 := by
    intro addr
    rw [entryRefs, List.flatMap_eq_nil_iff.mpr idle, List.count_nil]
  have nothing : (engine.flowTable.clearAll.slots).flatMap slotMbufs = [] := by
    rw [List.flatMap_eq_nil_iff]
    intro slot member
    rcases List.mem_map.mp member with ⟨_, _, rfl⟩
    rfl
  constructor
  · intro addr
    have before := refs addr
    dsimp only [drop]
    rw [slack_releaseMbufs]
    unfold slack
    rw [before]
    dsimp only [entryRefs, frameRefs]
    rw [nothing, List.flatMap_nil, List.count_nil]
    omega
  · intro addr
    dsimp only [drop]
    rw [releaseMbufs_only]
    dsimp only [entryRefs]
    rw [nothing, List.count_nil]
    exact Nat.zero_le _

end Engine

/-! ### Runs -/

/-- The segment closes the connection, which is then removed: a RST behind the
URG test, an acknowledgment of our FIN in LAST_ACK. In SYN_SENT nothing is in
flight yet. -/
def TcpConn.endedBy (conn : TcpConn) (seg : ParsedSegment) (nowNs : ℕ) : Bool :=
  match conn.state with
  | .synSent => true
  | .established => seg.flags.has TCP_RST && !seg.flags.has TCP_URG
  | .lastAck =>
      seg.flags.has TCP_RST || conn.closeAcceptable seg nowNs && conn.finHasBeenAcked seg.ack
  | _ => seg.flags.has TCP_RST

theorem handleEstablished_urgent {conn : TcpConn} {seg : ParsedSegment}
    (urgent : seg.flags.has TCP_URG = true) (clock : Readings) (sendBuf : ℕ)
    (mbufCtx : Option MbufInsertCtx) :
    (handleEstablished conn seg clock sendBuf mbufCtx).outcome.newState = none := by
  have refused : establishedChecks conn seg = .error { urgentDropped := true } := by
    dsimp only [establishedChecks]
    rw [if_pos urgent]
  unfold handleEstablished
  rw [refused]

theorem closeTransition_closed {state : TcpState} {finAcked peerHasFin : Bool}
    (decided : (closeTransition state finAcked peerHasFin).1 = some .closed) :
    state = .lastAck ∧ finAcked = true := by
  cases state <;> cases finAcked <;> cases peerHasFin <;> simp [closeTransition] at decided ⊢

theorem TcpConn.endedBy_of_closed {conn : TcpConn} {seg : ParsedSegment} {clock : Readings}
    {sendBuf : ℕ} {mbufCtx : Option MbufInsertCtx}
    (closed : (dispatch conn seg clock sendBuf mbufCtx).outcome.newState = some .closed) :
    conn.endedBy seg clock.paws = true := by
  have ends := dispatch_ends conn seg clock sendBuf mbufCtx
  have quiet : conn.state = .established → seg.flags.has TCP_URG = false := by
    intro running
    unfold dispatch at closed
    rw [running] at closed
    by_contra urgent
    rw [handleEstablished_urgent (by simpa using urgent)] at closed
    cases closed
  rw [closed] at ends
  generalize (dispatch conn seg clock sendBuf mbufCtx).conn = after at ends
  generalize target_eq : some TcpState.closed = target at ends
  cases ends with
  | ignored _ _ => cases target_eq
  | reset cause _ _ =>
      rcases cause with reset | opening
      · unfold TcpConn.endedBy
        split
        · rfl
        · rename_i running
          rw [reset, quiet running]
          rfl
        · rw [reset]
          rfl
        · exact reset
      · rw [TcpConn.endedBy, opening]
  | opened _ _ _ _ _ => cases target_eq
  | running _ _ _ _ _ _ decided => rcases decided with rfl | rfl <;> cases target_eq
  | closing closing acceptable _ _ =>
      rcases closeTransition_closed target_eq.symm with ⟨last, acked⟩
      unfold TcpConn.endedBy
      rw [last]
      dsimp only
      rw [acceptable, acked, Bool.and_self, Bool.or_true]

namespace Host

/-- The pools hand out free buffers only. -/
def allocatesFree (host : Host) : EngineOp → Bool
  | .send handle bytes envs _ => host.engine.sendBytesFree handle bytes envs
  | .segment handle seg mbufCtx env =>
      (host.engine.flowTable.get handle).all fun conn =>
        let dispatched := dispatch conn seg env.clock host.engine.cfg.sendBufferBytes mbufCtx
        (host.engine.notified handle mbufCtx dispatched env.nowNs).rackLostFree handle
          env.retransmits dispatched.outcome.rackLostIndexes
  | .fireNext env =>
      match host.pending with
      | [] => true
      | (id, node) :: _ => host.engine.fireFree id node env
  | _ => true

/-- No connection leaves the table with entries. -/
def removesIdle (host : Host) : SystemOp → Bool
  | .call (.segment handle seg _ env) =>
      (host.engine.flowTable.get handle).all fun conn =>
        !conn.endedBy seg env.clock.paws || conn.sndRetrans.isEmpty
  | .call (.reap nowNs) => host.engine.reapsIdle nowNs
  | .drop => host.engine.flowTable.slots.all fun slot =>
      slot.all fun conn => conn.sndRetrans.isEmpty
  | _ => true

/-- The pools work in a step of the system. -/
def poolsWork (host : Host) : SystemOp → Bool
  | .call op => host.allocatesFree op
  | _ => true

theorem step_balanced {host : Host} (balanced : host.engine.Balanced) {op : EngineOp}
    (free : host.allocatesFree op = true) (idle : host.removesIdle (.call op) = true) :
    (host.step op).engine.Balanced := by
  cases op with
  | connect tuple iss ourMss opts synSent nowNs =>
      exact (Engine.conserves_connectWithOpts host.engine tuple iss ourMss opts synSent
        nowNs).balanced balanced
  | send handle bytes envs tlpNs => exact balanced.sendBytes bytes envs tlpNs free
  | close handle finSent nowNs =>
      exact (Engine.conserves_closeConn host.engine handle finSent nowNs).balanced balanced
  | segment handle seg mbufCtx env =>
      cases present : host.engine.flowTable.get handle with
      | none =>
          dsimp only [step]
          rw [Engine.tcpInput_absent present]
          exact balanced
      | some conn =>
          have allocated : (host.engine.notified handle mbufCtx (dispatch conn seg env.clock
              host.engine.cfg.sendBufferBytes mbufCtx) env.nowNs).rackLostFree handle
              env.retransmits (dispatch conn seg env.clock host.engine.cfg.sendBufferBytes
                mbufCtx).outcome.rackLostIndexes = true := by
            simpa [allocatesFree, present] using free
          refine (Engine.conserves_tcpInput host.engine handle present seg mbufCtx env rfl allocated
            ?_).balanced balanced
          intro closed
          have ended := TcpConn.endedBy_of_closed ((dispatch_closes conn seg env.clock
            host.engine.cfg.sendBufferBytes mbufCtx).closed.mp closed)
          have empty : conn.sndRetrans.entries = [] := by
            simpa [removesIdle, present, ended, SendRetrans.isEmpty] using idle
          rw [TcpConn.entryMbufs, empty]
          rfl
  | advance nowNs => exact Conserves.balanced (.of_same rfl rfl rfl rfl) balanced
  | fireNext env =>
      dsimp only [step]
      split
      · exact balanced
      · rename_i id node rest waiting
        have allocated : host.engine.fireFree id node env = true := by
          simpa [allocatesFree, waiting] using free
        exact (Engine.conserves_fireTimer host.engine id node env allocated).balanced balanced
  | flush sent =>
      exact (Engine.conserves_drainTxPendingData host.engine sent).balanced balanced
  | reap nowNs => exact (Engine.conserves_reapTimeWait nowNs idle).balanced balanced
  | twSkip target nowNs =>
      exact (Engine.conserves_requestTwSkip _ target nowNs).balanced balanced

theorem systemStep_balanced {host : Host} (balanced : host.engine.Balanced) {op : SystemOp}
    (free : host.poolsWork op = true) (idle : host.removesIdle op = true) :
    (host.systemStep op).engine.Balanced := by
  cases op with
  | call op => exact step_balanced balanced free idle
  | complete index => exact (Engine.conserves_completeFrame index).balanced balanced
  | drainEvents max => exact Conserves.balanced (.of_same rfl rfl rfl rfl) balanced
  | drop =>
      refine (Engine.conserves_drop ?_).balanced balanced
      intro slot member
      have here := List.all_eq_true.mp idle slot member
      cases slot with
      | none => rfl
      | some conn =>
          have empty : conn.sndRetrans.entries = [] := by
            simpa [SendRetrans.isEmpty] using here
          dsimp only [slotMbufs, Option.map_some, Option.getD_some, TcpConn.entryMbufs]
          rw [empty]
          rfl

theorem balanced_start (cfg : EngineConfig) (maxConnections eventSoftCap : ℕ) :
    (Host.start cfg maxConnections eventSoftCap).engine.Balanced := by
  have nothing : (List.replicate maxConnections none).flatMap slotMbufs = [] := by
    rw [List.flatMap_eq_nil_iff]
    intro slot member
    rw [List.eq_of_mem_replicate member]
    rfl
  intro addr
  dsimp only [start, Engine.new, FlowTable.new, Engine.entryRefs, Engine.frameRefs]
  rw [nothing]
  simp

end Host

/-- In every run in which no connection leaves the table with entries, the count
of every TX buffer is the number of the entries and frames that name it, and no
two entries share a buffer: what an entry holds is given back exactly when the
entry goes. -/
theorem tx_references_conserved {cfg : EngineConfig} {maxConnections eventSoftCap : ℕ}
    {host : Host}
    (run : Run.Reaches Host.systemStep
      (fun host op => (host.poolsWork op && host.removesIdle op) = true)
      (Host.start cfg maxConnections eventSoftCap) host) : host.engine.Balanced := by
  apply run.invariant (Host.balanced_start cfg maxConnections eventSoftCap)
  intro host op balanced taken
  rcases Bool.and_eq_true_iff.mp taken with ⟨free, idle⟩
  exact Host.systemStep_balanced balanced free idle

/-- Three bytes are sent, sent again by the RTO timer and acknowledged, the driver
gives the frames back, and a RST ends the connection. -/
def sentTwice : List SystemOp :=
  (handshake ++ [sendAt 2000 [1, 2, 3] 1, .flush 1, .advance 200000,
    fireAt 200000 fun _ => some 2]).map .call ++
  [.complete 0] ++
  [receiveAt 300000 201#32 104#32 TCP_ACK, receiveAt 400000 201#32 104#32 TCP_RST].map .call

theorem tx_references_conserved_sentTwice :
    (sentTwice.foldl Host.systemStep (Host.start quickCfg 1 64)).engine.Balanced :=
  tx_references_conserved (Run.Reaches.of_admits (by decide +kernel :
    Run.admits Host.systemStep (fun host op => host.poolsWork op && host.removesIdle op)
      (Host.start quickCfg 1 64) sentTwice = true))

/-- A RST ends a connection with three bytes in flight. -/
def resetInFlight : List SystemOp :=
  (handshake ++ [sendAt 2000 [1, 2, 3] 1, .flush 1,
    receiveAt 3000 201#32 101#32 TCP_RST]).map .call ++ [.complete 0]

/-- The reference of the removed entry is never given back. -/
theorem reset_leaks_references :
    ¬ ∀ host, Run.Reaches Host.systemStep (fun host op => host.poolsWork op = true)
      (Host.start quickCfg 1 64) host → host.engine.Balanced := by
  intro balanced
  have run := Run.Reaches.of_admits (by decide +kernel :
    Run.admits Host.systemStep Host.poolsWork (Host.start quickCfg 1 64) resetInFlight = true)
  have leaked : decide (((resetInFlight.foldl Host.systemStep
        (Host.start quickCfg 1 64)).engine.mbufs 1).refcnt = 1 ∧
      (resetInFlight.foldl Host.systemStep (Host.start quickCfg 1 64)).engine.entryRefs 1 = 0 ∧
      (resetInFlight.foldl Host.systemStep (Host.start quickCfg 1 64)).engine.frameRefs 1 = 0) =
        true := by
    decide +kernel
  rcases of_decide_eq_true leaked with ⟨count, entries, frames⟩
  have here := (balanced _ run 1).1
  rw [count, entries, frames] at here
  cases here

end DpdkTcp
