import DpdkTcp.Send.Stash

/-!
# What `send_bytes` cuts

A call of `send_bytes` that returns `Ok(n)` cut the first `n` bytes into
segments from the old `snd_nxt` on, and one that fails changed nothing. The
segments of a call are read off the turns of its loop.
-/

namespace DpdkTcp

/-- The bytes of the options of a data segment. -/
def TcpConn.optionBytes (conn : TcpConn) : ℕ :=
  if conn.tsEnabled then 12 else 0

theorem TcpConn.encodedLen_txOptions (conn : TcpConn) (nowNs : ℕ) :
    (conn.txOptions nowNs).encodedLen = conn.optionBytes := by
  unfold txOptions optionBytes
  cases conn.tsEnabled <;> rfl

namespace Engine

/-- The segment a turn of the loop builds. -/
def dataSegment (conn : TcpConn) (mssCap : ℕ) (env : SendEnv) (sending : Sending) : SegmentTx :=
  sending.engine.segmentTx conn sending.curSeq (TCP_ACK ||| TCP_PSH) (conn.txOptions env.optionsNs)
    (sending.rest.take (min sending.rest.length mssCap))

/-- The segments of the turns that push one. -/
def sendCuts (conn : TcpConn) (handle : ConnHandle) (mssCap : ℕ) :
    (turns : ℕ) → (envs : ℕ → SendEnv) → Sending → List SegmentTx
  | 0, _, _ => []
  | turns + 1, envs, sending =>
      if sending.rest = [] then []
      else
        match sendSegment conn handle mssCap (envs 0) sending with
        | .sent next =>
            dataSegment conn mssCap (envs 0) sending ::
              sendCuts conn handle mssCap turns (fun turn => envs (turn + 1)) next
        | _ => []

/-- The data segments a call of `send_bytes` pushes. -/
def dataSegments (engine : Engine) (handle : ConnHandle) (bytes : List UInt8)
    (envs : ℕ → SendEnv) : List SegmentTx :=
  match engine.flowTable.get handle with
  | none => []
  | some conn =>
      if conn.state ≠ .established then []
      else
        let admitted := engine.admitted conn bytes
        sendCuts conn handle (engine.mssCap conn) (admitted.length + 1) envs
          { engine := engine, rest := admitted, accepted := 0, curSeq := conn.sndNxt }

end Engine

/-- Bytes are cut into adjacent segments of at most `mssCap` bytes from `start` on, each with an
entry of its own, up to a rest. -/
inductive CutInto (mssCap : ℕ) :
    Seq → List UInt8 → List SegmentTx → List RetransEntry → List UInt8 → Prop where
  | done (start : Seq) (rest : List UInt8) : CutInto mssCap start rest [] [] rest
  | next {start : Seq} {rest final : List UInt8} {seg : SegmentTx} {entry : RetransEntry}
      {segs : List SegmentTx} {entries : List RetransEntry} (seq : seg.seq = start)
      (positive : 0 < seg.payload.length) (short : seg.payload.length ≤ mssCap)
      (entrySeq : entry.seq = start) (entryLen : entry.len = seg.payload.length)
      (tail : CutInto mssCap (seqAdd start seg.payload.length) rest segs entries final) :
      CutInto mssCap start (seg.payload ++ rest) (seg :: segs) (entry :: entries) final

namespace CutInto

variable {mssCap : ℕ} {start : Seq} {bytes rest : List UInt8} {segs : List SegmentTx}
  {entries : List RetransEntry}

theorem bytes_eq (cut : CutInto mssCap start bytes segs entries rest) :
    segs.flatMap SegmentTx.payload ++ rest = bytes := by
  induction cut with
  | done start rest => rfl
  | next _ _ _ _ _ _ ih => rw [List.flatMap_cons, List.append_assoc, ih]

/-- What is cut, without the rest. -/
theorem exact (cut : CutInto mssCap start bytes segs entries rest) :
    CutInto mssCap start (segs.flatMap SegmentTx.payload) segs entries [] := by
  induction cut with
  | done start rest => exact .done start []
  | next seq positive short entrySeq entryLen _ ih =>
      exact .next seq positive short entrySeq entryLen ih

theorem entryBytes_eq (cut : CutInto mssCap start bytes segs entries rest) :
    entryBytes entries = (segs.flatMap SegmentTx.payload).length := by
  induction cut with
  | done start rest => rfl
  | next _ _ _ _ entryLen _ ih =>
      rw [entryBytes_cons, List.flatMap_cons, List.length_append, ih, entryLen]

theorem sized (cut : CutInto mssCap start bytes segs entries rest) :
    ∀ seg ∈ segs, 1 ≤ seg.payload.length ∧ seg.payload.length ≤ mssCap := by
  induction cut with
  | done start rest => exact nofun
  | next _ positive short _ _ _ ih =>
      intro seg member
      rcases List.mem_cons.mp member with rfl | later
      · exact ⟨positive, short⟩
      · exact ih seg later

theorem length_le (cut : CutInto mssCap start bytes segs entries rest) :
    ∀ seg ∈ segs, seg.payload.length ≤ bytes.length := by
  induction cut with
  | done start rest => exact nofun
  | next _ _ _ _ _ _ ih =>
      intro seg member
      rw [List.length_append]
      rcases List.mem_cons.mp member with rfl | later
      · omega
      · have fits := ih seg later
        omega

/-- An entry is as long as the segment it stands for. -/
theorem entry_len (cut : CutInto mssCap start bytes segs entries rest) :
    ∀ entry ∈ entries, ∃ seg ∈ segs, entry.len = seg.payload.length := by
  induction cut with
  | done start rest => exact nofun
  | @next _ _ _ seg _ _ _ _ _ _ _ entryLen _ ih =>
      intro entry member
      rcases List.mem_cons.mp member with rfl | later
      · exact ⟨seg, List.mem_cons_self .., entryLen⟩
      · rcases ih entry later with ⟨seg, inRest, len⟩
        exact ⟨seg, List.mem_cons_of_mem _ inRest, len⟩

end CutInto

namespace Engine

variable (handle : ConnHandle)

theorem assigned_pushTxPendingData (engine : Engine) (frame : TxFrame) (sent : ℕ) :
    (engine.pushTxPendingData frame sent).record.assigned = engine.record.assigned ∧
      (engine.pushTxPendingData frame sent).record.opened = engine.record.opened := by
  dsimp only [pushTxPendingData]
  split
  · exact ⟨rfl, rfl⟩
  · dsimp only [drainTxPendingData]
    rw [releaseMbufs_only]
    exact ⟨rfl, rfl⟩

theorem assigned_stashEntry (engine : Engine) (entry : RetransEntry) :
    (engine.stashEntry handle entry).record.assigned = engine.record.assigned ∧
      (engine.stashEntry handle entry).record.opened = engine.record.opened := by
  dsimp only [stashEntry]
  split
  · split
    · unfold armRto
      split
      · exact ⟨rfl, rfl⟩
      · split <;> exact ⟨rfl, rfl⟩
    · exact ⟨rfl, rfl⟩
  · exact ⟨rfl, rfl⟩

/-- The record of a data segment. -/
def segmentAssigned (engine : Engine) (seg : SegmentTx) : FirstSent :=
  engine.firstSent handle seg.seq seg.payload.length false

/-- A turn that pushes a segment pushes the one it built. -/
theorem sendSegment_cut {conn : TcpConn} {mssCap : ℕ} (positive : 0 < mssCap)
    (small : mssCap ≤ 65535) {envs : ℕ → SendEnv} {sending next : Sending}
    (left : sending.rest ≠ [])
    (sent : sendSegment conn handle mssCap (envs 0) sending = .sent next) :
    ∃ entry, SentBetween handle envs sending next [entry] ∧
      (∀ {segs entries final},
        CutInto mssCap next.curSeq next.rest segs entries final →
        CutInto mssCap sending.curSeq sending.rest
          (dataSegment conn mssCap (envs 0) sending :: segs) (entry :: entries) final) ∧
      next.engine.record.assigned = sending.engine.record.assigned ++
        [sending.engine.segmentAssigned handle (dataSegment conn mssCap (envs 0) sending)] ∧
      next.engine.record.opened = sending.engine.record.opened := by
  rcases sendSegment_between handle positive small left sent with ⟨entry, between⟩
  have some : 0 < sending.rest.length := List.length_pos_of_ne_nil left
  have payload : (dataSegment conn mssCap (envs 0) sending).payload =
    sending.rest.take (min sending.rest.length mssCap) := rfl
  have taken : (dataSegment conn mssCap (envs 0) sending).payload.length =
      min sending.rest.length mssCap := by
    rw [payload, List.length_take]
    omega
  have drops : next.rest = sending.rest.drop (min sending.rest.length mssCap) ∧
      next.curSeq = seqAdd sending.curSeq (min sending.rest.length mssCap) ∧
      next.engine.record.assigned = sending.engine.record.assigned ++
        [sending.engine.firstSent handle sending.curSeq (min sending.rest.length mssCap) false] ∧
      next.engine.record.opened = sending.engine.record.opened := by
    dsimp only [sendSegment] at sent
    split at sent
    · cases sent
    · split at sent
      · cases sent
      · split at sent
        · cases sent
        · cases sent
          refine ⟨rfl, rfl, ?_, ?_⟩
          · rw [(assigned_stashEntry handle _ _).1, (assigned_pushTxPendingData _ _ _).1]
            rfl
          · rw [(assigned_stashEntry handle _ _).2, (assigned_pushTxPendingData _ _ _).2]
            rfl
  rcases drops with ⟨rest, curSeq, assigned, opened⟩
  have counted := between.curSeq
  have len : entry.len = min sending.rest.length mssCap := by
    have accepted := between.rest
    rw [entryBytes_cons, entryBytes_nil, Nat.add_zero, rest, List.length_drop] at accepted
    omega
  refine ⟨entry, between, ?_, ?_, opened⟩
  · intro segs entries final tail
    have whole : sending.rest = (dataSegment conn mssCap (envs 0) sending).payload ++ next.rest := by
      rw [payload, rest, List.take_append_drop]
    rw [whole]
    refine .next rfl (by omega) (by omega) between.follows.1 (by omega) ?_
    rw [taken, ← curSeq]
    exact tail
  · rw [assigned, segmentAssigned, taken]
    rfl

/-- The loop cuts what it takes of the admitted bytes. -/
theorem sendSegments_cut (conn : TcpConn) {mssCap : ℕ} (positive : 0 < mssCap)
    (small : mssCap ≤ 65535) (turns : ℕ) (envs : ℕ → SendEnv) (sending : Sending) :
    ∃ news, SentBetween handle envs sending
        (sendSegments conn handle mssCap turns envs sending).ended news ∧
      CutInto mssCap sending.curSeq sending.rest (sendCuts conn handle mssCap turns envs sending)
        news (sendSegments conn handle mssCap turns envs sending).ended.rest ∧
      (sendSegments conn handle mssCap turns envs sending).ended.engine.record.assigned =
        sending.engine.record.assigned ++
          (sendCuts conn handle mssCap turns envs sending).map
            (sending.engine.segmentAssigned handle) := by
  induction turns generalizing envs sending with
  | zero => exact ⟨[], .stopped envs (.refl _), .done _ _, (List.append_nil _).symm⟩
  | succ turns ih =>
      dsimp only [sendSegments, sendCuts]
      split
      · exact ⟨[], .stopped envs (.refl _), .done _ _, (List.append_nil _).symm⟩
      · rename_i left
        have turned := sendSegment_turned handle conn mssCap (envs 0) sending
        cases ends : sendSegment conn handle mssCap (envs 0) sending with
        | stopped next =>
            rw [ends] at turned
            cases turned
            exact ⟨[], .stopped envs (.refl _), .done _ _, (List.append_nil _).symm⟩
        | noMem next =>
            have same : next.engine.record.assigned = sending.engine.record.assigned := by
              dsimp only [sendSegment] at ends
              split at ends
              · cases ends
              · split at ends
                · cases ends
                  rfl
                · split at ends <;> cases ends
                  rfl
            rw [ends] at turned
            cases turned with
            | noMem engine moved =>
                refine ⟨[], .stopped envs moved, .done _ _, ?_⟩
                rw [List.map_nil, List.append_nil]
                exact same
        | sent next =>
            rcases sendSegment_cut handle positive small left ends with
              ⟨entry, taken, cuts, assigned, opened⟩
            rcases ih (fun turn => envs (turn + 1)) next with ⟨more, between, tail, recorded⟩
            refine ⟨[entry] ++ more, taken.trans between, cuts tail, ?_⟩
            have same : next.engine.segmentAssigned handle =
                sending.engine.segmentAssigned handle := by
              funext seg
              rw [segmentAssigned, segmentAssigned, firstSent, firstSent, Record.incarnation,
                Record.incarnation, opened]
            rw [List.map_cons, ← same, List.append_cons, recorded, assigned, same]

end Engine

end DpdkTcp
