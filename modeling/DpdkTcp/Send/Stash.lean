import DpdkTcp.Send.Kept

/-!
# New data

`send_bytes` cuts the admitted bytes into segments, stashes an entry for each
of them behind the entries already there, and moves `snd_nxt` behind the last.
-/

namespace DpdkTcp

/-- The bytes of a list of entries. -/
def entryBytes (entries : List RetransEntry) : ℕ :=
  (entries.map RetransEntry.len).sum

@[simp]
theorem entryBytes_nil : entryBytes [] = 0 :=
  rfl

@[simp]
theorem entryBytes_cons (entry : RetransEntry) (rest : List RetransEntry) :
    entryBytes (entry :: rest) = entry.len + entryBytes rest :=
  rfl

@[simp]
theorem entryBytes_append (left right : List RetransEntry) :
    entryBytes (left ++ right) = entryBytes left + entryBytes right := by
  simp [entryBytes]

/-- The entries follow each other without a gap, from `start` on. -/
def Follows : (start : Seq) → List RetransEntry → Prop
  | _, [] => True
  | start, entry :: rest => entry.seq = start ∧ 0 < entry.len ∧ Follows entry.endSeq rest

theorem Follows.append {start : Seq} {left right : List RetransEntry}
    (leftFollows : Follows start left)
    (rightFollows : Follows (seqAdd start (entryBytes left)) right) :
    Follows start (left ++ right) := by
  induction left generalizing start with
  | nil =>
      rw [entryBytes_nil, seqAdd_zero] at rightFollows
      exact rightFollows
  | cons entry rest ih =>
      rcases leftFollows with ⟨seq, positive, restFollows⟩
      refine ⟨seq, positive, ih restFollows ?_⟩
      rw [RetransEntry.endSeq, seq, ← seqAdd_add]
      exact rightFollows

theorem Follows.kept {start : Seq} {before after : List RetransEntry}
    (follows : Follows start before) (kept : EntriesKept before after) : Follows start after := by
  induction kept generalizing start with
  | nil => exact follows
  | cons head _ ih =>
      rcases follows with ⟨seq, positive, rest⟩
      refine ⟨head.seq.trans seq, ?_, ?_⟩
      · rw [head.len]
        exact positive
      · rw [head.endSeq]
        exact ih rest

theorem EntriesKept.entryBytes {before after : List RetransEntry}
    (kept : EntriesKept before after) : entryBytes after = entryBytes before := by
  induction kept with
  | nil => rfl
  | cons head _ ih => rw [entryBytes_cons, entryBytes_cons, head.len, ih]

/-- An entry as `send_bytes` stashes it. -/
structure Fresh (envs : ℕ → SendEnv) (entry : RetransEntry) : Prop where
  len_le : entry.len ≤ 65535
  xmitCount : entry.xmitCount = 1
  mbuf : ∃ turn, (envs turn).dataMbuf = some entry.mbuf

namespace Engine

/-- Connections are kept, except that entries are appended to those of `handle`. -/
structure Stashed (handle : ConnHandle) (news : List RetransEntry) (before after : Engine) :
    Prop where
  cfg : after.cfg = before.cfg
  picked : after.picked = before.picked
  conns : ∀ other conn', after.flowTable.get other = some conn' →
    ∃ conn, before.flowTable.get other = some conn ∧
      KeptAs (if other = handle then conn.sndRetrans.entries ++ news
        else conn.sndRetrans.entries) conn conn'

variable {handle : ConnHandle} {news more : List RetransEntry} {first second third : Engine}

theorem Moved.stashed (moved : Moved (fun _ _ => False) first second) :
    Stashed handle [] first second := by
  refine ⟨moved.cfg, moved.picked_eq, ?_⟩
  intro other conn' present
  rcases moved.conns other conn' present with ⟨conn, live, kept⟩
  refine ⟨conn, live, ?_⟩
  rw [List.append_nil, ite_self]
  exact kept

theorem Stashed.trans (left : Stashed handle news first second)
    (right : Stashed handle more second third) : Stashed handle (news ++ more) first third := by
  refine ⟨right.cfg.trans left.cfg, right.picked.trans left.picked, ?_⟩
  intro other conn'' present
  rcases right.conns other conn'' present with ⟨conn', present', stashed'⟩
  rcases left.conns other conn' present' with ⟨conn, live, stashed⟩
  refine ⟨conn, live, stashed.andThen stashed' ?_⟩
  have kept := stashed.entries
  by_cases same : other = handle
  · rw [if_pos same] at kept ⊢
    rw [if_pos same, ← List.append_assoc]
    exact List.rel_append kept (EntriesKept.refl more)
  · rw [if_neg same] at kept ⊢
    rw [if_neg same]
    exact kept

variable (engine : Engine) (handle)

theorem stashEntry_stashed (entry : RetransEntry) :
    Stashed handle [entry] engine (engine.stashEntry handle entry) := by
  have pushed : Stashed handle [entry] engine (engine.modifyConn handle fun conn =>
      { conn with sndRetrans := conn.sndRetrans.pushAfterTx entry }) := by
    refine ⟨rfl, rfl, ?_⟩
    intro other conn' present
    rw [modifyConn, FlowTable.get_modify] at present
    split at present
    · rename_i same
      rcases Option.map_eq_some_iff.mp present with ⟨conn, live, rfl⟩
      refine ⟨conn, same ▸ live, ?_⟩
      rw [if_pos same]
      exact ⟨rfl, EntriesKept.refl _, Or.inl rfl⟩
    · rename_i differs
      refine ⟨conn', present, ?_⟩
      rw [if_neg differs]
      exact Kept.refl conn'
  dsimp only [stashEntry]
  split
  · split
    · exact pushed.trans (armRto_moved _ handle entry.firstTxTsNs).stashed
    · exact pushed
  · exact pushed

/-- How a turn of the segment loop ends, for the connections. -/
inductive Turned (handle : ConnHandle) (mssCap : ℕ) (env : SendEnv) (sending : Sending) :
    SendTurn → Prop where
  | stopped : Turned handle mssCap env sending (.stopped sending)
  | noMem (engine : Engine) (moved : Moved (fun _ _ => False) sending.engine engine) :
      Turned handle mssCap env sending (.noMem { sending with engine := engine })
  | sent (engine : Engine) (frameLen mbuf : ℕ) (allocated : env.dataMbuf = some mbuf)
      (stashed : Stashed handle
        [newEntry sending.curSeq (min sending.rest.length mssCap) frameLen mbuf env.nowNs]
        sending.engine engine) :
      Turned handle mssCap env sending
        (.sent
          { engine := engine
            rest := sending.rest.drop (min sending.rest.length mssCap)
            accepted := sending.accepted + min sending.rest.length mssCap
            curSeq := seqAdd sending.curSeq (min sending.rest.length mssCap) })

theorem sendSegment_turned (conn : TcpConn) (mssCap : ℕ) (env : SendEnv) (sending : Sending) :
    Turned handle mssCap env sending (sendSegment conn handle mssCap env sending) := by
  dsimp only [sendSegment]
  split
  · exact .stopped
  · rename_i frame _
    split
    · exact .noMem sending.engine (.refl _)
    · rename_i mbuf allocated
      split
      · exact .noMem _ (.of_same rfl rfl rfl)
      · refine .sent _ frame.length mbuf allocated ?_
        have pushed : ∀ (written : Engine) (frame : TxFrame), Moved (fun _ _ => False) written
            (written.pushTxPendingData frame env.sentFull) :=
          fun written frame => (pushTxPendingData_change written _ _).moved
            (pushTxPendingData_picked written _ _)
        refine Stashed.trans (Moved.stashed (.trans ?_ (pushed _ _))) (stashEntry_stashed handle _ _)
        exact .of_same rfl rfl rfl

end Engine

/-- The accumulators at the end of a turn. -/
def SendTurn.ended : SendTurn → Sending
  | .sent sending | .noMem sending | .stopped sending => sending

/-- What the segment loop has done between two turns. -/
structure SentBetween (handle : ConnHandle) (envs : ℕ → SendEnv) (before after : Sending)
    (news : List RetransEntry) : Prop where
  stashed : before.engine.Stashed handle news after.engine
  follows : Follows before.curSeq news
  fresh : ∀ entry ∈ news, Fresh envs entry
  curSeq : after.curSeq = seqAdd before.curSeq (entryBytes news)
  accepted : after.accepted = before.accepted + entryBytes news
  rest : entryBytes news + after.rest.length = before.rest.length

namespace SentBetween

variable {handle : ConnHandle} {envs : ℕ → SendEnv} {first second third : Sending}
  {news more : List RetransEntry}

theorem stopped (envs : ℕ → SendEnv) {engine : Engine}
    (moved : first.engine.Moved (fun _ _ => False) engine) :
    SentBetween handle envs first { first with engine := engine } [] :=
  ⟨moved.stashed, trivial, by simp, by simp [seqAdd_zero], by simp, by simp⟩

theorem trans (left : SentBetween handle envs first second news)
    (right : SentBetween handle (fun turn => envs (turn + 1)) second third more) :
    SentBetween handle envs first third (news ++ more) where
  stashed := left.stashed.trans right.stashed
  follows := left.follows.append (left.curSeq ▸ right.follows)
  fresh := by
    intro entry member
    rcases List.mem_append.mp member with early | late
    · exact left.fresh entry early
    · have fresh := right.fresh entry late
      rcases fresh.mbuf with ⟨turn, allocated⟩
      exact ⟨fresh.len_le, fresh.xmitCount, turn + 1, allocated⟩
  curSeq := by rw [right.curSeq, left.curSeq, entryBytes_append, seqAdd_add]
  accepted := by rw [right.accepted, left.accepted, entryBytes_append, Nat.add_assoc]
  rest := by
    have taken := left.rest
    have takenMore := right.rest
    rw [entryBytes_append]
    omega

theorem nothing (between : SentBetween handle envs first second news)
    (none : second.accepted = first.accepted) : news = [] := by
  have accepted := between.accepted
  have follows := between.follows
  cases news with
  | nil => rfl
  | cons entry rest =>
      rcases follows with ⟨_, positive, _⟩
      rw [entryBytes_cons] at accepted
      omega

end SentBetween

namespace Engine

variable (handle : ConnHandle)

/-- A segment that is sent takes bytes, and its entry says how many. -/
theorem sendSegment_between {conn : TcpConn} {mssCap : ℕ} (positive : 0 < mssCap)
    (small : mssCap ≤ 65535) {envs : ℕ → SendEnv} {sending next : Sending}
    (left : sending.rest ≠ [])
    (sent : sendSegment conn handle mssCap (envs 0) sending = .sent next) :
    ∃ entry, SentBetween handle envs sending next [entry] := by
  have turned := sendSegment_turned handle conn mssCap (envs 0) sending
  rw [sent] at turned
  have some : 0 < sending.rest.length := List.length_pos_of_ne_nil left
  have takes : asU16 (min sending.rest.length mssCap) = min sending.rest.length mssCap :=
    asU16_of_lt (by omega)
  cases turned with
  | sent engine frameLen mbuf allocated stashed =>
      have len : (newEntry sending.curSeq (min sending.rest.length mssCap) frameLen mbuf
          (envs 0).nowNs).len = min sending.rest.length mssCap := takes
      refine ⟨_, stashed, ⟨rfl, ?_, trivial⟩, ?_, ?_, ?_, ?_⟩
      · rw [len]
        omega
      · intro entry member
        rcases List.mem_singleton.mp member with rfl
        refine ⟨?_, rfl, 0, allocated⟩
        rw [len]
        omega
      · rw [entryBytes_cons, len, entryBytes_nil, Nat.add_zero]
      · rw [entryBytes_cons, len, entryBytes_nil, Nat.add_zero]
      · rw [entryBytes_cons, len, entryBytes_nil, List.length_drop]
        omega

/-- The segment loop stashes an entry for every segment it sends. -/
theorem sendSegments_between (conn : TcpConn) {mssCap : ℕ} (positive : 0 < mssCap)
    (small : mssCap ≤ 65535) (turns : ℕ) (envs : ℕ → SendEnv) (sending : Sending) :
    ∃ news, SentBetween handle envs sending
      (sendSegments conn handle mssCap turns envs sending).ended news := by
  induction turns generalizing envs sending with
  | zero => exact ⟨[], .stopped envs (.refl _)⟩
  | succ turns ih =>
      dsimp only [sendSegments]
      split
      · exact ⟨[], .stopped envs (.refl _)⟩
      · rename_i left
        have turned := sendSegment_turned handle conn mssCap (envs 0) sending
        cases ends : sendSegment conn handle mssCap (envs 0) sending with
        | stopped next =>
            rw [ends] at turned
            cases turned
            exact ⟨[], .stopped envs (.refl _)⟩
        | noMem next =>
            rw [ends] at turned
            cases turned with
            | noMem engine moved => exact ⟨[], .stopped envs moved⟩
        | sent next =>
            rcases sendSegment_between handle positive small left ends with ⟨entry, taken⟩
            rcases ih (fun turn => envs (turn + 1)) next with ⟨more, between⟩
            exact ⟨[entry] ++ more, taken.trans between⟩

end Engine

/-- What the end of `send_bytes` writes. -/
def TcpConn.sentUpTo (conn : TcpConn) (sndNxt : Seq) (refused : Bool) : TcpConn :=
  { conn with sndNxt := sndNxt, sendRefusedPending := refused }

/-- The latch at the end of `send_bytes`. -/
def TcpConn.refusedBy (conn : TcpConn) (accepted wanted : ℕ) : Bool :=
  if accepted < wanted % 4294967296 then true else conn.sendRefusedPending

theorem KeptAs.sentUpTo {entries : List RetransEntry} {before after : TcpConn}
    (kept : KeptAs entries before after) (sndNxt : Seq) (refused : Bool) :
    KeptAs entries (before.sentUpTo sndNxt refused) (after.sentUpTo sndNxt refused) := by
  refine ⟨?_, kept.entries, kept.closes⟩
  unfold TcpConn.sentUpTo
  rw [kept.only]

/-- What `send_bytes` does to its connection. -/
structure SentTo (envs : ℕ → SendEnv) (news : List RetransEntry) (before after : TcpConn) :
    Prop where
  kept : ∃ refused, KeptAs (before.sndRetrans.entries ++ news)
    (before.sentUpTo (seqAdd before.sndNxt (entryBytes news)) refused) after
  follows : Follows before.sndNxt news
  fresh : ∀ entry ∈ news, Fresh envs entry
  room : entryBytes news ≤ before.sndWnd - (before.sndNxt - before.sndUna).toNat

namespace SentTo

variable {envs : ℕ → SendEnv} {news : List RetransEntry} {before after : TcpConn}

theorem entries (sent : SentTo envs news before after) :
    EntriesKept (before.sndRetrans.entries ++ news) after.sndRetrans.entries := by
  rcases sent.kept with ⟨_, kept⟩
  exact kept.entries

theorem sndUna (sent : SentTo envs news before after) : after.sndUna = before.sndUna := by
  rcases sent.kept with ⟨_, kept⟩
  exact kept.send.sndUna

theorem sndNxt (sent : SentTo envs news before after) :
    after.sndNxt = seqAdd before.sndNxt (entryBytes news) := by
  rcases sent.kept with ⟨_, kept⟩
  exact kept.send.sndNxt

theorem sndWnd (sent : SentTo envs news before after) : after.sndWnd = before.sndWnd := by
  rcases sent.kept with ⟨_, kept⟩
  exact kept.send.sndWnd

theorem wsShiftIn (sent : SentTo envs news before after) :
    after.wsShiftIn = before.wsShiftIn := by
  rcases sent.kept with ⟨_, kept⟩
  exact kept.send.wsShiftIn

theorem state (sent : SentTo envs news before after) : before.state.Later after.state := by
  rcases sent.kept with ⟨_, kept⟩
  exact kept.state

end SentTo

namespace Engine

variable (engine : Engine) (handle : ConnHandle)

theorem mssCap_pos (conn : TcpConn) : 0 < engine.mssCap conn :=
  Nat.lt_of_lt_of_le Nat.zero_lt_one (Nat.le_max_right _ _)

theorem mssCap_le (conn : TcpConn) : engine.mssCap conn ≤ 65535 := by
  have small : conn.peerMss.toNat < 65536 := UInt16.toNat_lt conn.peerMss
  unfold mssCap
  omega

/-- What follows the segment loop: `snd_nxt` and the refusal latch are written. -/
theorem finishSend_conns (sending : Sending) (wanted tlpNs : ℕ) :
    (finishSend sending handle wanted tlpNs).cfg = sending.engine.cfg ∧
      (finishSend sending handle wanted tlpNs).picked = sending.engine.picked ∧
      ∀ other conn', (finishSend sending handle wanted tlpNs).flowTable.get other = some conn' →
        ∃ conn, sending.engine.flowTable.get other = some conn ∧
          KeptAs conn.sndRetrans.entries
            (if other = handle then
              conn.sentUpTo sending.curSeq (conn.refusedBy sending.accepted wanted)
            else conn) conn' := by
  dsimp only [finishSend]
  generalize latch_eq : (fun conn : TcpConn =>
    { conn with
      sndNxt := sending.curSeq
      sendRefusedPending :=
        if sending.accepted < wanted % 4294967296 then true else conn.sendRefusedPending }) = latch
  have armed : Moved (fun _ _ => False) (sending.engine.modifyConn handle latch)
      (if 0 < sending.accepted then (sending.engine.modifyConn handle latch).armTlpPto handle tlpNs
        else sending.engine.modifyConn handle latch) := by
    split
    · exact armTlpPto_moved _ handle tlpNs
    · exact .refl _
  refine ⟨armed.cfg, armed.picked_eq, ?_⟩
  intro other conn'' armedLive
  rcases armed.conns other conn'' armedLive with ⟨conn', live, kept⟩
  rw [modifyConn, FlowTable.get_modify] at live
  split at live
  · rename_i same
    rcases Option.map_eq_some_iff.mp live with ⟨conn, present, rfl⟩
    subst latch_eq
    refine ⟨conn, same ▸ present, ?_⟩
    rw [if_pos same]
    exact kept
  · rename_i differs
    refine ⟨conn', live, ?_⟩
    rw [if_neg differs]
    exact kept

/-- The end of `send_bytes`, behind a segment loop that sent `news`. -/
theorem sentBetween_finished {handle : ConnHandle} {engine : Engine} {conn : TcpConn}
    {envs : ℕ → SendEnv} {news : List RetransEntry} {admitted : List UInt8} {sending : Sending}
    (present : engine.flowTable.get handle = some conn)
    (between : SentBetween handle envs ⟨engine, admitted, 0, conn.sndNxt⟩ sending news)
    (room : admitted.length ≤ conn.sndWnd - (conn.sndNxt - conn.sndUna).toNat)
    (wanted tlpNs : ℕ) {other : ConnHandle} {conn' : TcpConn}
    (live : (finishSend sending handle wanted tlpNs).flowTable.get other = some conn') :
    ∃ conn, engine.flowTable.get other = some conn ∧
      (other ≠ handle ∧ Kept conn conn' ∨ other = handle ∧ SentTo envs news conn conn') := by
  rcases (finishSend_conns handle sending wanted tlpNs).2.2 other conn' live with
    ⟨looped, liveLooped, written⟩
  rcases between.stashed.conns other looped liveLooped with ⟨start, liveStart, stashed⟩
  refine ⟨start, liveStart, ?_⟩
  by_cases same : other = handle
  · refine Or.inr ⟨same, ?_⟩
    rw [if_pos same, between.curSeq] at written
    rw [if_pos same] at stashed
    rw [same, present] at liveStart
    cases liveStart
    have taken := between.rest
    refine ⟨⟨_, (stashed.sentUpTo _ _).trans written⟩, between.follows, between.fresh, ?_⟩
    dsimp only at taken
    omega
  · refine Or.inl ⟨same, ?_⟩
    rw [if_neg same] at written stashed
    exact stashed.trans written

theorem sendBytes_conns (bytes : List UInt8) (envs : ℕ → SendEnv) (tlpNs : ℕ) :
    (engine.sendBytes handle bytes envs tlpNs).1.cfg = engine.cfg ∧
      (engine.sendBytes handle bytes envs tlpNs).1.picked = engine.picked ∧
      ∀ other conn', (engine.sendBytes handle bytes envs tlpNs).1.flowTable.get other =
          some conn' →
        ∃ conn, engine.flowTable.get other = some conn ∧
          (Kept conn conn' ∨
            other = handle ∧ conn.state = .established ∧ ∃ news, SentTo envs news conn conn') := by
  have unchanged : engine.cfg = engine.cfg ∧ engine.picked = engine.picked ∧
      ∀ other conn', engine.flowTable.get other = some conn' →
        ∃ conn, engine.flowTable.get other = some conn ∧
          (Kept conn conn' ∨
            other = handle ∧ conn.state = .established ∧ ∃ news, SentTo envs news conn conn') :=
    ⟨rfl, rfl, fun other conn' live => ⟨conn', live, Or.inl (Kept.refl conn')⟩⟩
  dsimp only [sendBytes]
  cases present : engine.flowTable.get handle with
  | none => exact unchanged
  | some conn =>
      dsimp only
      split
      · exact unchanged
      · rename_i running
        simp only [ne_eq, not_not] at running
        rcases sendSegments_between handle conn (engine.mssCap_pos conn) (engine.mssCap_le conn)
          ((engine.admitted conn bytes).length + 1) envs
          ⟨engine, engine.admitted conn bytes, 0, conn.sndNxt⟩ with ⟨news, between⟩
        have room : (engine.admitted conn bytes).length ≤
            conn.sndWnd - (conn.sndNxt - conn.sndUna).toNat := by
          dsimp only [admitted]
          rw [List.length_take]
          omega
        generalize sendSegments conn handle (engine.mssCap conn) _ envs _ = ended at between ⊢
        have finished : ∀ wanted,
            (finishSend ended.ended handle wanted tlpNs).cfg = engine.cfg ∧
              (finishSend ended.ended handle wanted tlpNs).picked = engine.picked ∧
              ∀ other conn', (finishSend ended.ended handle wanted tlpNs).flowTable.get other =
                  some conn' →
                ∃ conn, engine.flowTable.get other = some conn ∧
                  (Kept conn conn' ∨ other = handle ∧ conn.state = .established ∧
                    ∃ news, SentTo envs news conn conn') := by
          intro wanted
          rcases finishSend_conns handle ended.ended wanted tlpNs with ⟨cfg, picked, _⟩
          refine ⟨cfg.trans between.stashed.cfg, picked.trans between.stashed.picked, ?_⟩
          intro other conn' live
          rcases sentBetween_finished present between room wanted tlpNs live with
            ⟨start, liveStart, ⟨_, kept⟩ | ⟨same, sent⟩⟩
          · exact ⟨start, liveStart, Or.inl kept⟩
          · refine ⟨start, liveStart, Or.inr ⟨same, ?_, news, sent⟩⟩
            rw [same, present] at liveStart
            cases liveStart
            exact running
        cases ended with
        | sent sending => exact finished _
        | stopped sending => exact finished _
        | noMem sending =>
            dsimp only
            split
            · rename_i none
              refine ⟨between.stashed.cfg, between.stashed.picked, ?_⟩
              have nothing := between.nothing (none.trans rfl)
              rw [nothing] at between
              intro other conn' live
              rcases between.stashed.conns other conn' live with ⟨start, liveStart, kept⟩
              rw [List.append_nil, ite_self] at kept
              exact ⟨start, liveStart, Or.inl kept⟩
            · exact finished _

end Engine

end DpdkTcp
