import DpdkTcp.Wakeup.Latch

/-!
# Refused sends

How many bytes `send_bytes` accepts follows from what the window and the send
buffer admit and from the first segment that cannot be built or finds no buffer.
A send whose arguments are `Drainable` leaves the latch right.
-/

namespace DpdkTcp

/-- The segment gets a buffer that has room for it. -/
def SendEnv.ready (env : SendEnv) : Bool :=
  env.dataMbuf.isSome && env.appended

/-- A data segment with so many bytes can be built: its length fits the IPv4 header. -/
def TcpConn.builds (conn : TcpConn) (take : ℕ) : Bool :=
  decide (IPV4_HDR_MIN + TCP_HDR_MIN + (if conn.tsEnabled then 12 else 0) + take ≤ 65535)

theorem TcpConn.builds_of_le {conn : TcpConn} {take less : ℕ} (built : conn.builds take = true)
    (fewer : less ≤ take) : conn.builds less = true := by
  simp only [builds, decide_eq_true_iff] at built ⊢
  omega

namespace Engine

/-- `build_segment` fails for a data segment exactly where its length does not fit. -/
theorem buildSegment_isSome (engine : Engine) (conn : TcpConn) (seq : Seq) (flags : Flags)
    (optionsNs : ℕ) (payload : List UInt8) {take : ℕ} (length : payload.length = take) :
    (buildSegment (engine.segmentTx conn seq flags (conn.txOptions optionsNs) payload)
      (FRAME_HDRS_MIN + 40 + take)).isSome = conn.builds take := by
  have options : (conn.txOptions optionsNs).encodedLen = if conn.tsEnabled then 12 else 0 := by
    unfold TcpConn.txOptions
    cases conn.tsEnabled <;> rfl
  unfold buildSegment buildSegmentInner TcpConn.builds
  dsimp only [segmentTx, SegmentTx.tcpHdrLen]
  rw [options, length]
  have small : (if conn.tsEnabled then 12 else 0) ≤ 40 := by split <;> decide
  generalize (if conn.tsEnabled then 12 else 0) = encoded at small ⊢
  have fits : ¬ FRAME_HDRS_MIN + 40 + take < ETH_HDR_LEN + IPV4_HDR_MIN +
      (TCP_HDR_MIN + encoded) + take := by
    unfold FRAME_HDRS_MIN
    omega
  rw [if_neg fits]
  split
  · rename_i long
    rw [decide_eq_false (by omega)]
    rfl
  · rename_i short
    rw [decide_eq_true (by omega)]
    rfl

/-- How a turn of the segment loop ends, and why. -/
inductive TurnEnds (conn : TcpConn) (mssCap : ℕ) (env : SendEnv) (sending : Sending) :
    SendTurn → Prop where
  | stopped (fails : conn.builds (min sending.rest.length mssCap) = false) :
      TurnEnds conn mssCap env sending (.stopped sending)
  | noMem (short : env.ready = false) (engine : Engine) :
      TurnEnds conn mssCap env sending (.noMem { sending with engine := engine })
  | sent (built : conn.builds (min sending.rest.length mssCap) = true) (ready : env.ready = true)
      (engine : Engine) (curSeq : Seq) :
      TurnEnds conn mssCap env sending
        (.sent
          { engine := engine
            rest := sending.rest.drop (min sending.rest.length mssCap)
            accepted := sending.accepted + min sending.rest.length mssCap
            curSeq := curSeq })

theorem sendSegment_ends (conn : TcpConn) (handle : ConnHandle) (mssCap : ℕ) (env : SendEnv)
    (sending : Sending) :
    TurnEnds conn mssCap env sending (sendSegment conn handle mssCap env sending) := by
  have builds := buildSegment_isSome sending.engine conn sending.curSeq (TCP_ACK ||| TCP_PSH)
    env.optionsNs (sending.rest.take (min sending.rest.length mssCap))
    (List.length_take_of_le (Nat.min_le_left _ _))
  dsimp only [sendSegment]
  split
  · rename_i failed
    rw [failed] at builds
    exact .stopped builds.symm
  · rename_i frame built
    rw [built] at builds
    split
    · rename_i none
      exact .noMem (by rw [SendEnv.ready, none]; rfl) sending.engine
    · rename_i mbuf allocated
      split
      · rename_i full
        refine .noMem ?_ _
        rw [SendEnv.ready, allocated]
        simpa using full
      · rename_i fits
        refine .sent builds.symm ?_ _ _
        rw [SendEnv.ready, allocated]
        simpa using fits

/-- The segment loop ends at a turn, with bytes left. -/
structure Halts (conn : TcpConn) (mssCap : ℕ) (envs : ℕ → SendEnv) (sending : Sending)
    (turn : ℕ) (ended : SendTurn) : Prop where
  left : mssCap * turn < sending.rest.length
  accepted : ended.ended.accepted = sending.accepted + mssCap * turn
  ready : ∀ earlier, earlier < turn → (envs earlier).ready = true
  builds : 0 < turn → conn.builds mssCap = true
  cause : (∃ stopped, ended = .stopped stopped) ∧
      conn.builds (min (sending.rest.length - mssCap * turn) mssCap) = false ∨
    (∃ stopped, ended = .noMem stopped) ∧ (envs turn).ready = false

/-- The segment loop sends all the bytes, or ends at the first turn that fails. -/
theorem sendSegments_ends (conn : TcpConn) (handle : ConnHandle) {mssCap : ℕ}
    (positive : 0 < mssCap) (turns : ℕ) (envs : ℕ → SendEnv) (sending : Sending)
    (enough : sending.rest.length < turns) :
    (∃ stopped, sendSegments conn handle mssCap turns envs sending = .stopped stopped ∧
        stopped.accepted = sending.accepted + sending.rest.length) ∨
      ∃ turn, Halts conn mssCap envs sending turn
        (sendSegments conn handle mssCap turns envs sending) := by
  induction turns generalizing envs sending with
  | zero => exact absurd enough (Nat.not_lt_zero _)
  | succ turns ih =>
      dsimp only [sendSegments]
      split
      · rename_i empty
        refine Or.inl ⟨sending, rfl, ?_⟩
        rw [empty]
        rfl
      · rename_i left
        have some : 0 < sending.rest.length := List.length_pos_of_ne_nil left
        have turned := sendSegment_ends conn handle mssCap (envs 0) sending
        generalize sendSegment conn handle mssCap (envs 0) sending = ended at turned ⊢
        cases turned with
        | stopped fails =>
            exact Or.inr ⟨0, by omega, rfl, nofun, nofun, Or.inl ⟨⟨_, rfl⟩, by simpa using fails⟩⟩
        | noMem short engine =>
            exact Or.inr ⟨0, by simpa using some, rfl, nofun, nofun, Or.inr ⟨⟨_, rfl⟩, short⟩⟩
        | sent built ready engine curSeq =>
            dsimp only
            have fewer : (sending.rest.drop (min sending.rest.length mssCap)).length < turns := by
              rw [List.length_drop]
              omega
            rcases ih (fun turn => envs (turn + 1)) ⟨engine, _, _, curSeq⟩ fewer with
              ⟨stopped, ends, accepted⟩ | ⟨turn, halts⟩
            · refine Or.inl ⟨stopped, ends, ?_⟩
              dsimp only at accepted
              rw [accepted, List.length_drop]
              omega
            · have behind := halts.left
              dsimp only at behind
              rw [List.length_drop] at behind
              have whole : min sending.rest.length mssCap = mssCap := by
                by_contra short
                rw [show min sending.rest.length mssCap = sending.rest.length by omega,
                  Nat.sub_self] at behind
                exact Nat.not_lt_zero _ behind
              rw [whole] at behind built halts ⊢
              have next : mssCap * (turn + 1) = mssCap + mssCap * turn := by
                rw [Nat.mul_succ, Nat.add_comm]
              refine Or.inr ⟨turn + 1, by omega, ?_, ?_, fun _ => built, ?_⟩
              · rw [halts.accepted, next]
                exact Nat.add_assoc ..
              · intro earlier before
                cases earlier with
                | zero => exact ready
                | succ earlier => exact halts.ready earlier (Nat.lt_of_succ_lt_succ before)
              · have cause := halts.cause
                dsimp only at cause
                rw [List.length_drop, Nat.sub_sub, ← next] at cause
                exact cause

/-- How a send ends for an established connection. -/
inductive SendEnds (engine : Engine) (handle : ConnHandle) (conn : TcpConn) (bytes : List UInt8)
    (envs : ℕ → SendEnv) (after : Engine) : Except SendError ℕ → Prop where
  | failed (kept : ∀ conn', after.flowTable.get handle = some conn' → Kept conn conn') :
      SendEnds engine handle conn bytes envs after (.error .sendBufferFull)
  | sent (accepted : ℕ) (room : accepted ≤ (engine.admitted conn bytes).length)
      (kept : ∀ conn', after.flowTable.get handle = some conn' → ∃ entries, KeptAs entries
        (conn.sentUpTo (seqAdd conn.sndNxt accepted) (conn.refusedBy accepted bytes.length)) conn')
      (halts : accepted = (engine.admitted conn bytes).length ∨
        ∃ turn, accepted = engine.mssCap conn * turn ∧
          accepted < (engine.admitted conn bytes).length ∧
          (∀ earlier, earlier < turn → (envs earlier).ready = true) ∧
          (conn.builds (min (engine.admitted conn bytes).length (engine.mssCap conn)) = false ∧
            turn = 0 ∨ (envs turn).ready = false ∧ 0 < turn)) :
      SendEnds engine handle conn bytes envs after (.ok accepted)

/-- Behind the loop, the latch and `snd_nxt` are written. -/
theorem finishSend_kept {engine : Engine} {handle : ConnHandle} {conn : TcpConn}
    (present : engine.flowTable.get handle = some conn) {envs : ℕ → SendEnv}
    {news : List RetransEntry} {admitted : List UInt8} {sending : Sending}
    (between : SentBetween handle envs ⟨engine, admitted, 0, conn.sndNxt⟩ sending news)
    (wanted tlpNs : ℕ) {conn' : TcpConn}
    (live : (finishSend sending handle wanted tlpNs).flowTable.get handle = some conn') :
    ∃ entries, KeptAs entries (conn.sentUpTo (seqAdd conn.sndNxt sending.accepted)
      (conn.refusedBy sending.accepted wanted)) conn' := by
  rcases (finishSend_conns handle sending wanted tlpNs).2.2 handle conn' live with
    ⟨looped, liveLooped, written⟩
  rcases between.stashed.conns handle looped liveLooped with ⟨start, liveStart, stashed⟩
  rw [present] at liveStart
  cases liveStart
  rw [if_pos rfl] at stashed written
  have accepted := between.accepted
  dsimp only at accepted
  rw [Nat.zero_add] at accepted
  have curSeq : sending.curSeq = seqAdd conn.sndNxt sending.accepted := by
    rw [between.curSeq, accepted]
  have latch : looped.refusedBy sending.accepted wanted = conn.refusedBy sending.accepted wanted := by
    unfold TcpConn.refusedBy
    rw [stashed.sendRefusedPending]
  rw [curSeq, latch] at written
  exact ⟨_, (stashed.sentUpTo _ _).trans written⟩

theorem sendBytes_ends {engine : Engine} {handle : ConnHandle} {conn : TcpConn}
    (present : engine.flowTable.get handle = some conn) (running : conn.state = .established)
    (bytes : List UInt8) (envs : ℕ → SendEnv) (tlpNs : ℕ) :
    SendEnds engine handle conn bytes envs (engine.sendBytes handle bytes envs tlpNs).1
      (engine.sendBytes handle bytes envs tlpNs).2 := by
  have ends := sendSegments_ends conn handle (engine.mssCap_pos conn)
    ((engine.admitted conn bytes).length + 1) envs
    ⟨engine, engine.admitted conn bytes, 0, conn.sndNxt⟩ (Nat.lt_succ_self _)
  rcases sendSegments_between handle conn (engine.mssCap_pos conn) (engine.mssCap_le conn)
    ((engine.admitted conn bytes).length + 1) envs
    ⟨engine, engine.admitted conn bytes, 0, conn.sndNxt⟩ with ⟨news, between⟩
  dsimp only [sendBytes]
  rw [present]
  dsimp only
  rw [if_neg (by rw [running]; exact fun differs => differs rfl)]
  generalize sendSegments conn handle (engine.mssCap conn) _ envs _ = ended at ends between ⊢
  have kept : ∀ wanted conn', (finishSend ended.ended handle wanted tlpNs).flowTable.get handle =
      some conn' → ∃ entries, KeptAs entries (conn.sentUpTo
        (seqAdd conn.sndNxt ended.ended.accepted) (conn.refusedBy ended.ended.accepted wanted))
          conn' :=
    fun wanted conn' live => finishSend_kept present between wanted tlpNs live
  rcases ends with ⟨stopped, rfl, accepted⟩ | ⟨turn, halts⟩
  · dsimp only at accepted
    rw [Nat.zero_add] at accepted
    exact .sent stopped.accepted (Nat.le_of_eq accepted) (kept _) (Or.inl accepted)
  · have left := halts.left
    have accepted := halts.accepted
    dsimp only at left accepted
    rw [Nat.zero_add] at accepted
    have room : ended.ended.accepted < (engine.admitted conn bytes).length := accepted ▸ left
    rcases halts.cause with ⟨⟨stopped, rfl⟩, fails⟩ | ⟨⟨stopped, rfl⟩, short⟩
    · refine .sent stopped.accepted (Nat.le_of_lt room) (kept _)
        (Or.inr ⟨turn, accepted, room, halts.ready, Or.inl ?_⟩)
      by_cases first : turn = 0
      · rw [first, Nat.mul_zero, Nat.sub_zero] at fails
        exact ⟨fails, first⟩
      · have built := TcpConn.builds_of_le (halts.builds (Nat.pos_of_ne_zero first))
          (Nat.min_le_right ((engine.admitted conn bytes).length - engine.mssCap conn * turn) _)
        rw [fails] at built
        cases built
    · dsimp only
      split
      · rename_i none
        have nothing := between.nothing (none.trans rfl)
        rw [nothing] at between
        refine .failed fun conn' live => ?_
        rcases between.stashed.conns handle conn' live with ⟨start, liveStart, stashed⟩
        rw [present] at liveStart
        cases liveStart
        rw [List.append_nil, ite_self] at stashed
        exact stashed
      · rename_i some
        refine .sent stopped.accepted (Nat.le_of_lt room) (kept _)
          (Or.inr ⟨turn, accepted, room, halts.ready, Or.inr ⟨short, ?_⟩⟩)
        by_contra first
        have zero : turn = 0 := by omega
        rw [zero, Nat.mul_zero] at accepted
        exact some accepted

/-- What the arguments of a send must meet for the latch it leaves to be lowered again: a
refusal shows in 32 bits, something is in flight behind it, and where a segment cannot be
built or finds no buffer, more than half the send buffer is in flight or nothing is sent. -/
def Drainable (engine : Engine) (conn : TcpConn) (bytes : List UInt8) (envs : ℕ → SendEnv) :
    Prop :=
  (bytes.length < 4294967296 ∨ (engine.admitted conn bytes).length < bytes.length % 4294967296) ∧
    ((engine.admitted conn bytes).length = bytes.length ∨
      0 < conn.inFlight + (engine.admitted conn bytes).length) ∧
    ((engine.admitted conn bytes).length = 0 ∨
      engine.cfg.sendBufferBytes / 2 < conn.inFlight ∨
      conn.builds (min (engine.admitted conn bytes).length (engine.mssCap conn)) = true ∧
        ∀ turn, engine.mssCap conn * turn < (engine.admitted conn bytes).length →
          (∀ earlier, earlier < turn → (envs earlier).ready = true) →
          (envs turn).ready = false → turn = 0 ∨
            engine.cfg.sendBufferBytes / 2 < conn.inFlight + engine.mssCap conn * turn)

section Sent

variable {engine : Engine} {handle : ConnHandle} {conn : TcpConn} {bytes : List UInt8}
  {envs : ℕ → SendEnv} {accepted : ℕ}

/-- What a send that refuses bytes leaves in flight. -/
theorem Drainable.draining (drainable : engine.Drainable conn bytes envs)
    (short : accepted < bytes.length)
    (halts : accepted = (engine.admitted conn bytes).length ∨
      ∃ turn, accepted = engine.mssCap conn * turn ∧
        accepted < (engine.admitted conn bytes).length ∧
        (∀ earlier, earlier < turn → (envs earlier).ready = true) ∧
        (conn.builds (min (engine.admitted conn bytes).length (engine.mssCap conn)) = false ∧
          turn = 0 ∨ (envs turn).ready = false ∧ 0 < turn)) :
    conn.Draining engine.cfg.sendBufferBytes (conn.inFlight + accepted) := by
  rcases drainable with ⟨_, some, whole⟩
  have length : (engine.admitted conn bytes).length =
      min (min (conn.sndWnd - conn.inFlight) (engine.cfg.sendBufferBytes - conn.inFlight))
        bytes.length :=
    List.length_take
  rcases halts with all | ⟨turn, sent, left, ready, cause⟩
  · -- every admitted byte is sent: the window or the buffer is full
    have filled : 0 < conn.inFlight + accepted := by omega
    refine ⟨filled, ?_⟩
    rcases Nat.le_total (conn.sndWnd - conn.inFlight)
      (engine.cfg.sendBufferBytes - conn.inFlight) with window | buffer
    · exact Or.inr (by omega)
    · exact Or.inl (by omega)
  · -- a segment failed
    have above : engine.cfg.sendBufferBytes / 2 < conn.inFlight + accepted := by
      rcases whole with none | above | ⟨built, buffers⟩
      · omega
      · omega
      · rcases cause with ⟨fails, _⟩ | ⟨short, later⟩
        · rw [built] at fails
          cases fails
        · have enough := buffers turn (sent ▸ left) ready short
          rw [← sent] at enough
          omega
    exact ⟨by omega, Or.inl above⟩

/-- A send keeps the latch right. -/
theorem SendEnds.latched {after : Engine} {result : Except SendError ℕ}
    (ends : engine.SendEnds handle conn bytes envs after result)
    (latched : conn.Latched engine.cfg.sendBufferBytes) (running : conn.state = .established)
    (drainable : engine.Drainable conn bytes envs) {conn' : TcpConn}
    (live : after.flowTable.get handle = some conn') :
    conn'.Latched engine.cfg.sendBufferBytes := by
  cases ends with
  | failed kept => exact (kept conn' live).latched latched
  | sent accepted room kept halts =>
      have flight : conn.inFlight ≤ 2 ^ 31 :=
        latched.unfinished (by rw [running]; exact nofun) (by rw [running]; rfl)
      have window := latched.sndWnd
      have length : (engine.admitted conn bytes).length =
          min (min (conn.sndWnd - conn.inFlight) (engine.cfg.sendBufferBytes - conn.inFlight))
            bytes.length :=
        List.length_take
      have next : ∀ refused, (conn.sentUpTo (seqAdd conn.sndNxt accepted) refused).inFlight =
          conn.inFlight + accepted :=
        fun refused => toNat_seqAdd_sub conn.sndNxt conn.sndUna
          (show conn.inFlight + accepted < 2 ^ 32 by omega)
      rcases kept conn' live with ⟨entries, kept⟩
      refine kept.latched ⟨window, latched.wsShiftIn, ?_, fun _ _ => ?_, ?_, ?_⟩
      · rw [next]
        omega
      · rw [next]
        omega
      · intro opening
        rw [TcpConn.sentUpTo, running] at opening
        cases opening
      · intro raised
        rw [TcpConn.Draining, next]
        dsimp only [TcpConn.sentUpTo] at raised ⊢
        unfold TcpConn.refusedBy at raised
        split at raised
        · rename_i refused
          have within := Nat.mod_le bytes.length 4294967296
          exact drainable.draining (by omega) halts
        · rcases latched.draining raised with ⟨some, above | full⟩
          · exact ⟨by omega, Or.inl (by omega)⟩
          · exact ⟨by omega, Or.inr (by omega)⟩

/-- A send that refuses bytes raises the latch. -/
theorem SendEnds.raised {after : Engine}
    (ends : engine.SendEnds handle conn bytes envs after (.ok accepted))
    (drainable : engine.Drainable conn bytes envs) (short : accepted < bytes.length)
    {conn' : TcpConn} (live : after.flowTable.get handle = some conn') :
    conn'.sendRefusedPending = true := by
  cases ends with
  | sent _ room kept _ =>
      rcases kept conn' live with ⟨entries, kept⟩
      rw [kept.sendRefusedPending]
      refine if_pos ?_
      rcases drainable.1 with small | shows
      · rw [Nat.mod_eq_of_lt small]
        exact short
      · exact Nat.lt_of_le_of_lt room shows

end Sent

end Engine

end DpdkTcp
