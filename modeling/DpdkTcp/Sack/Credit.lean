import DpdkTcp.Lifecycle.Carry

/-!
# Which SACK blocks an entry is credited to

`mark_sacked` takes an entry for delivered as soon as a block reaches into it.
Every run keeps, for the connection of each handle, what its segments said: the
entries in flight when a segment came and the blocks it carried. An entry that
is marked goes back to one of these blocks, and a block with its edges in order
that reaches into an entry holds a byte of it, not more.
-/

namespace DpdkTcp

/-- The edges are in order, so that the block holds a byte. -/
def SackBlock.wellFormed (block : SackBlock) : Bool :=
  seqLt block.left block.right

/-- The block holds the sequence number. -/
def SackBlock.holds (block : SackBlock) (seq : Seq) : Bool :=
  seqLe block.left seq && seqLt seq block.right

namespace RetransEntry

/-- What no later transmission of the segment changes. -/
def segment (entry : RetransEntry) : Seq × ℕ × ℕ × ℕ :=
  (entry.seq, entry.len, entry.mbuf, entry.firstTxTsNs)

theorem reachedBy_of_segment {first second : RetransEntry} (same : first.segment = second.segment)
    (block : SackBlock) : first.reachedBy block = second.reachedBy block := by
  simp only [segment, Prod.mk.injEq] at same
  rw [reachedBy, reachedBy, endSeq, endSeq, same.1, same.2.1]

/-- A block with its edges in order that reaches into an entry holds a byte of it. -/
theorem exists_held_of_reachedBy {entry : RetransEntry} {block : SackBlock}
    (positive : 0 < entry.len) (ordered : block.wellFormed = true)
    (reached : entry.reachedBy block = true) :
    ∃ offset < entry.len, block.holds (seqAdd entry.seq offset) = true := by
  rcases Bool.and_eq_true_iff.mp reached with ⟨starts, ends⟩
  have wide := (seqLt_iff_ahead.mp ordered).2
  have high : 0 < Serial.offset block.left block.right := (seqLt_iff_ahead.mp ordered).1
  have entryAt : Serial.point block.left (Serial.offset block.left entry.seq) = entry.seq :=
    Serial.point_offset block.left entry.seq
  have within := Serial.offset_lt block.left entry.seq
  rcases Nat.lt_or_ge (Serial.offset block.left entry.seq) (Serial.offset block.left block.right)
    with inside | behind
  · -- the entry starts in the block
    have near : (entry.seq - block.left).toNat ≤ 2 ^ 31 :=
      Nat.le_trans (Nat.le_of_lt inside) wide
    refine ⟨0, positive, ?_⟩
    rw [seqAdd_zero, SackBlock.holds, starts, Bool.and_true]
    exact seqLe_iff_ahead.mpr near
  · -- the entry starts before the block, so it holds the first byte of the block
    have far : Serial.offset block.left block.right + 2 ^ 31 ≤
        Serial.offset block.left entry.seq := by
      have close := seqLt_iff_ahead.mp starts
      rcases Nat.eq_or_lt_of_le behind with same | before
      · have equal : block.right = entry.seq := by
          rw [← entryAt, ← same, Serial.point_offset]
        rw [equal, BitVec.sub_self] at close
        exact absurd close.1 (by decide)
      · have gap := Serial.toNat_point_sub_point block.left
          (show Serial.offset block.left entry.seq ≤
            Serial.offset block.left block.right + 2 ^ 32 by omega) (by omega)
        rw [Serial.point_add_turn, Serial.point_offset, Serial.point_offset] at gap
        omega
    have first : seqAdd entry.seq (2 ^ 32 - Serial.offset block.left entry.seq) = block.left := by
      rw [← entryAt, seqAdd_point, entryAt, Nat.add_sub_cancel' (by omega), ← Nat.zero_add (2 ^ 32),
        Serial.point_add_turn, Serial.point_zero]
    have reach := seqLt_iff_ahead.mp ends
    refine ⟨2 ^ 32 - Serial.offset block.left entry.seq, ?_, ?_⟩
    · by_contra beyond
      rcases Nat.lt_or_ge (Serial.offset block.left entry.seq + entry.len) (2 ^ 32) with below | above
      · have gap : (seqAdd entry.seq entry.len - block.left).toNat =
            Serial.offset block.left entry.seq + entry.len := toNat_seqAdd_sub entry.seq _ below
        rw [endSeq] at reach
        omega
      · have whole : entry.len = 2 ^ 32 - Serial.offset block.left entry.seq := by omega
        rw [endSeq, whole, first, BitVec.sub_self] at reach
        exact absurd reach.1 (by decide)
    · rw [first, SackBlock.holds, seqLe_self, Bool.true_and]
      exact ordered

end RetransEntry

/-! ### One segment -/

/-- The SACK blocks of a segment, as the decoder reads them. -/
def receivedSackBlocks (seg : ParsedSegment) : List SackBlock :=
  match segOptions seg with
  | .ok opts => opts.liveSackBlocks
  | .error _ => []

/-- Every entry was there before, and one newly marked is reached by one of the blocks. -/
def Marked (blocks : List SackBlock) (before after : List RetransEntry) : Prop :=
  ∀ entry ∈ after, ∃ earlier ∈ before, earlier.segment = entry.segment ∧
    (entry.sacked = true →
      earlier.sacked = true ∨ ∃ block ∈ blocks, entry.reachedBy block = true)

namespace Marked

variable {blocks : List SackBlock} {first second third : List RetransEntry}

theorem refl (blocks : List SackBlock) (entries : List RetransEntry) :
    Marked blocks entries entries :=
  fun entry member => ⟨entry, member, rfl, Or.inl⟩

theorem trans (left : Marked blocks first second) (right : Marked blocks second third) :
    Marked blocks first third := by
  intro entry member
  rcases right entry member with ⟨middle, inSecond, same, marked⟩
  rcases left middle inSecond with ⟨earlier, inFirst, same', marked'⟩
  refine ⟨earlier, inFirst, same'.trans same, fun sacked => ?_⟩
  rcases marked sacked with before | reached
  · rcases marked' before with before | ⟨block, received, reached⟩
    · exact .inl before
    · exact .inr ⟨block, received, by rw [← RetransEntry.reachedBy_of_segment same]; exact reached⟩
  · exact .inr reached

theorem mono {fewer more : List SackBlock} (subset : fewer ⊆ more)
    (marked : Marked fewer first second) : Marked more first second := by
  intro entry member
  rcases marked entry member with ⟨earlier, inFirst, same, credit⟩
  refine ⟨earlier, inFirst, same, fun sacked => ?_⟩
  exact (credit sacked).imp_right fun ⟨block, received, reached⟩ =>
    ⟨block, subset received, reached⟩

/-- Entry by entry nothing but the flags `lost` and `sacked`, the former at will. -/
theorem markLost (blocks : List SackBlock) (retrans : SendRetrans) (indexes : List ℕ) :
    Marked blocks retrans.entries (retrans.markLost indexes).entries := by
  intro entry member
  rcases List.mem_mapIdx.mp member with ⟨index, inside, rfl⟩
  refine ⟨retrans.entries[index], List.getElem_mem inside, ?_, ?_⟩
  · split <;> rfl
  · split <;> exact Or.inl

theorem markSacked (retrans : SendRetrans) (block : SackBlock) :
    Marked [block] retrans.entries (retrans.markSacked block).entries := by
  intro entry member
  rcases List.mem_map.mp member with ⟨earlier, inBefore, rfl⟩
  refine ⟨earlier, inBefore, ?_⟩
  split
  · rename_i reached
    exact ⟨rfl, fun _ => .inr ⟨block, List.mem_singleton_self block, reached⟩⟩
  · exact ⟨rfl, Or.inl⟩

end Marked

theorem absorbSackBlock_marked (nowNs : ℕ) (block : SackBlock) (pass : SackPass) :
    Marked [block] pass.conn.sndRetrans.entries
      (absorbSackBlock nowNs block pass).conn.sndRetrans.entries := by
  dsimp only [absorbSackBlock]
  split
  · have same : ({ pass.conn with rack := { pass.conn.rack with dsackSeen := true } } :
        TcpConn).attributeDsackToRecentTlpProbe block.left block.right nowNs |>.1.sndRetrans =
          pass.conn.sndRetrans := by
      unfold TcpConn.attributeDsackToRecentTlpProbe
      split <;> rfl
    rw [same]
    exact .refl _ _
  · exact .markSacked _ block

theorem absorbSackBlocks_marked (readClock : ℕ → ℕ) (index : ℕ) (blocks : List SackBlock)
    (pass : SackPass) :
    Marked blocks pass.conn.sndRetrans.entries
      (absorbSackBlocks readClock index blocks pass).conn.sndRetrans.entries := by
  induction blocks generalizing index pass with
  | nil => exact .refl _ _
  | cons block rest ih =>
      have here := absorbSackBlock_marked (readClock index) block pass
      exact (here.mono (by simp)).trans ((ih (index + 1) _).mono (List.subset_cons_self block rest))

theorem sackPass_marked {conn : TcpConn} {seg : ParsedSegment} {opts : TcpOpts}
    (decoded : segOptions seg = .ok opts) (readClock : ℕ → ℕ) :
    Marked (receivedSackBlocks seg) conn.sndRetrans.entries
      (sackPass conn opts readClock).conn.sndRetrans.entries := by
  have blocks : receivedSackBlocks seg = opts.liveSackBlocks := by
    rw [receivedSackBlocks, decoded]
  rw [blocks]
  unfold sackPass
  split
  · exact absorbSackBlocks_marked readClock 0 opts.liveSackBlocks { conn := conn }
  · exact .refl _ _

theorem segOptions_of_checks {conn : TcpConn} {seg : ParsedSegment} {opts : TcpOpts}
    (checked : establishedChecks conn seg = .ok opts) : segOptions seg = .ok opts := by
  dsimp only [establishedChecks] at checked
  split at checked
  · cases checked
  · split at checked
    · cases checked
    · split at checked
      · cases checked
      · split at checked
        · cases checked
        · split at checked
          · cases checked
          · rename_i decoded
            rw [decoded, Except.ok.inj checked]

theorem handleEstablished_marked (conn : TcpConn) (seg : ParsedSegment) (clock : Readings)
    (sendBuf : ℕ) (mbufCtx : Option MbufInsertCtx) :
    Marked (receivedSackBlocks seg) conn.sndRetrans.entries
      (handleEstablished conn seg clock sendBuf mbufCtx).conn.sndRetrans.entries := by
  dsimp only [handleEstablished]
  split
  · exact .refl _ _
  · rename_i opts checked
    split
    · exact .refl _ _
    · exact .refl _ _
    · rename_i timed expired passed
      rcases paws_passed passed with ⟨tsRecent, tsRecentAge, rfl⟩
      have marked := @sackPass_marked (conn.stamp tsRecent tsRecentAge) seg opts
        (segOptions_of_checks checked) clock.dsack
      generalize sackPass (conn.stamp tsRecent tsRecentAge) opts clock.dsack = sack at *
      split
      · exact marked
      · rename_i ack accepted
        have acked : ack.conn.sndRetrans = sack.conn.sndRetrans := by
          rw [(ackPass_change accepted).only]
        have data := (deliver_change (rackPass ack.conn clock.rack).1 seg mbufCtx).trans
          (takeFin_change seg (deliver (rackPass ack.conn clock.rack).1 seg mbufCtx))
        dsimp only [establishedData]
        rw [data.sndRetrans, rackPass_only]
        refine marked.trans ?_
        rw [← acked]
        exact .markLost _ _ _

theorem handleClosePath_marked (conn : TcpConn) (seg : ParsedSegment) (clock : Readings) :
    Marked (receivedSackBlocks seg) conn.sndRetrans.entries
      (handleClosePath conn seg clock).conn.sndRetrans.entries := by
  dsimp only [handleClosePath]
  simp only [pawsClosePath_eq]
  split
  · exact .refl _ _
  · split
    · exact .refl _ _
    · split
      · exact .refl _ _
      · split
        · exact .refl _ _
        · split
          · exact .refl _ _
          · rename_i opts decoded
            split
            · exact .refl _ _
            · exact .refl _ _
            · rename_i timed expired passed
              rcases paws_passed passed with ⟨tsRecent, tsRecentAge, rfl⟩
              rw [closeAdvance_only]
              exact @sackPass_marked (conn.stamp tsRecent tsRecentAge) seg opts decoded clock.dsack

/-- A segment marks only entries that one of its blocks reaches into. -/
theorem dispatch_marked (conn : TcpConn) (seg : ParsedSegment) (clock : Readings) (sendBuf : ℕ)
    (mbufCtx : Option MbufInsertCtx) :
    Marked (receivedSackBlocks seg) conn.sndRetrans.entries
      (dispatch conn seg clock sendBuf mbufCtx).conn.sndRetrans.entries := by
  have opening : (handleSynSent conn seg clock).conn.sndRetrans = conn.sndRetrans := by
    dsimp only [handleSynSent]
    split
    · split <;> rfl
    · split
      · rfl
      · split
        · rfl
        · split
          · rfl
          · split
            · rfl
            · rw [maybeSeed_only]
              rfl
  unfold dispatch
  split
  · rw [opening]
    exact .refl _ _
  · exact handleEstablished_marked conn seg clock sendBuf mbufCtx
  · exact handleClosePath_marked conn seg clock
  · exact handleClosePath_marked conn seg clock
  · exact handleClosePath_marked conn seg clock
  · exact handleClosePath_marked conn seg clock
  · exact handleClosePath_marked conn seg clock
  · exact handleClosePath_marked conn seg clock
  · exact .refl _ _
  · exact .refl _ _
  · exact .refl _ _

/-! ### The other calls -/

/-- What the calls beside a segment keep: an entry is new, or it was there and is marked only
if it was. -/
def KeepsMarks (before after : TcpConn) : Prop :=
  ∀ entry ∈ after.sndRetrans.entries, entry.sacked = false ∨
    ∃ earlier ∈ before.sndRetrans.entries,
      earlier.segment = entry.segment ∧ earlier.sacked = true

/-- No entry is marked. -/
def Unmarked (conn : TcpConn) : Prop :=
  ∀ entry ∈ conn.sndRetrans.entries, entry.sacked = false

theorem KeepsMarks.of_mem {before after : TcpConn}
    (same : ∀ entry ∈ after.sndRetrans.entries, ∃ earlier ∈ before.sndRetrans.entries,
      earlier.segment = entry.segment ∧ earlier.sacked = entry.sacked) :
    KeepsMarks before after := by
  intro entry member
  rcases same entry member with ⟨earlier, inBefore, segment, sacked⟩
  cases marked : entry.sacked with
  | false => exact .inl rfl
  | true => exact .inr ⟨earlier, inBefore, segment, sacked.trans marked⟩

theorem KeepsMarks.of_eq {before after : TcpConn} (same : after.sndRetrans = before.sndRetrans) :
    KeepsMarks before after :=
  .of_mem fun entry member => ⟨entry, by rw [← same]; exact member, rfl, rfl⟩

theorem KeepsMarks.trans {first second third : TcpConn} (left : KeepsMarks first second)
    (right : KeepsMarks second third) : KeepsMarks first third := by
  intro entry member
  rcases right entry member with unmarked | ⟨middle, inSecond, same, marked⟩
  · exact .inl unmarked
  · rcases left middle inSecond with unmarked | ⟨earlier, inFirst, same', marked'⟩
    · rw [marked] at unmarked
      cases unmarked
    · exact .inr ⟨earlier, inFirst, same'.trans same, marked'⟩

/-- Not a dispatch, and only new entries are stashed. -/
def Edit.marksNothing : Edit → Bool
  | .dispatch .. => false
  | .stash entry => entry.isNew
  | _ => true

theorem Edit.marksNothing_of_plain (edit : Edit) (plain : edit.plain = true) :
    edit.marksNothing = true := by
  cases edit with
  | dispatch => cases plain
  | stash entry => exact plain
  | _ => rfl

theorem RetransEntry.sacked_of_isNew {entry : RetransEntry} (isNew : entry.isNew = true) :
    entry.sacked = false := by
  rw [isNew_iff] at isNew
  exact isNew.1

theorem Edit.keepsMarks {edit : Edit} (conn : TcpConn) (nothing : edit.marksNothing = true)
    (alone : edit.Alone conn) : KeepsMarks conn (edit.apply conn) := by
  cases edit with
  | dispatch => cases nothing
  | forget | arm | insert => exact alone.elim
  | stash entry =>
      intro later member
      rcases List.mem_append.mp member with old | new
      · have same : KeepsMarks conn _ := .of_eq rfl
        exact same later old
      · rcases List.mem_singleton.mp new with rfl
        exact .inl (RetransEntry.sacked_of_isNew nothing)
  | resend index nowNs =>
      refine .of_mem fun entry member => ?_
      rcases List.mem_iff_getElem?.mp member with ⟨place, found⟩
      have modified := (List.getElem?_modify ..).symm.trans found
      rcases Option.map_eq_some_iff.mp modified with ⟨earlier, there, rfl⟩
      refine ⟨earlier, List.mem_of_getElem? there, ?_, ?_⟩ <;> split <;> rfl
  | prune sndUna =>
      exact .of_mem fun entry member =>
        ⟨entry, List.dropWhile_suffix _ |>.subset member, rfl, rfl⟩
  | markLost lost =>
      refine .of_mem fun entry member => ?_
      rcases List.mem_mapIdx.mp member with ⟨index, inside, rfl⟩
      refine ⟨conn.sndRetrans.entries[index], List.getElem_mem inside, ?_, ?_⟩ <;> split <;> rfl
  | strike kind id => cases kind <;> exact .of_eq rfl
  | _ => exact .of_eq rfl

namespace Engine

/-- Every call but a segment carries the marks over. -/
theorem carriesMarks {allowed : Edit → Prop}
    (bars : ∀ edit, allowed edit → edit.marksNothing = true) :
    Carries allowed KeepsMarks Unmarked where
  refl := fun conn => .of_eq rfl
  trans := .trans
  edit := fun isAllowed alone => Edit.keepsMarks _ (bars _ isAllowed) alone
  arm := by
    intro conn kind id _
    cases kind <;> exact .of_eq rfl
  stop := by
    intro conn kind id _
    cases kind <;> exact .of_eq rfl
  forget := fun _ _ => .of_eq rfl
  insert := by
    intro engine tuple iss ourMss opts nowNs _ entry member
    cases member
  new := by
    intro first second unmarked keeps entry member
    rcases keeps entry member with without | ⟨earlier, inFirst, _, marked⟩
    · exact without
    · rw [unmarked earlier inFirst] at marked
      cases marked

end Engine

/-! ### Runs -/

/-- What a connection hears of one segment: the entries in flight when it came, and its blocks. -/
structure Hearing where
  inFlight : List RetransEntry
  blocks : List SackBlock

/-- What the step lets the connection of a handle hear. -/
def Host.hearing (host : Host) (op : EngineOp) (handle : ConnHandle) : List Hearing :=
  match op with
  | .segment target seg _ _ =>
      if target = handle then
        match host.engine.flowTable.get handle with
        | some conn => [⟨conn.sndRetrans.entries, receivedSackBlocks seg⟩]
        | none => []
      else []
  | _ => []

/-- A host with all that the connection of each handle has heard. -/
structure SackRun where
  host : Host
  heard : ConnHandle → List Hearing

namespace SackRun

/-- A host without connections that has heard of no block. -/
def start (cfg : EngineConfig) (maxConnections eventSoftCap : ℕ) : SackRun :=
  { host := Host.start cfg maxConnections eventSoftCap
    heard := fun _ => [] }

/-- A new connection has heard nothing. -/
def step (run : SackRun) (op : EngineOp) : SackRun :=
  { host := run.host.step op
    heard := fun handle =>
      if (run.host.step op).engine.record.incarnation handle =
          run.host.engine.record.incarnation handle then
        run.heard handle ++ run.host.hearing op handle
      else [] }

/-- The entry was in flight when the block was received. -/
def Received (hearings : List Hearing) (entry : RetransEntry) (block : SackBlock) : Prop :=
  ∃ hearing ∈ hearings, (∃ sent ∈ hearing.inFlight, sent.segment = entry.segment) ∧
    block ∈ hearing.blocks

/-- The marked entries of a connection were reached by blocks it has heard of. -/
def Credited (hearings : List Hearing) (conn : TcpConn) : Prop :=
  ∀ entry ∈ conn.sndRetrans.entries, entry.sacked = true →
    ∃ block, Received hearings entry block ∧ entry.reachedBy block = true

variable {hearings more : List Hearing} {before after : TcpConn}

theorem Received.append {entry : RetransEntry} {block : SackBlock}
    (received : Received hearings entry block) : Received (hearings ++ more) entry block := by
  rcases received with ⟨hearing, member, known⟩
  exact ⟨hearing, List.mem_append_left _ member, known⟩

theorem Received.of_segment {first second : RetransEntry} {block : SackBlock}
    (same : first.segment = second.segment) (received : Received hearings first block) :
    Received hearings second block := by
  rcases received with ⟨hearing, member, ⟨sent, inFlight, segment⟩, known⟩
  exact ⟨hearing, member, ⟨sent, inFlight, segment.trans same⟩, known⟩

theorem Credited.append (credited : Credited hearings before) :
    Credited (hearings ++ more) before := by
  intro entry member sacked
  rcases credited entry member sacked with ⟨block, received, reached⟩
  exact ⟨block, received.append, reached⟩

theorem Credited.keeps (credited : Credited hearings before) (keeps : KeepsMarks before after) :
    Credited hearings after := by
  intro entry member sacked
  rcases keeps entry member with unmarked | ⟨earlier, inBefore, same, marked⟩
  · rw [unmarked] at sacked
    cases sacked
  · rcases credited earlier inBefore marked with ⟨block, received, reached⟩
    exact ⟨block, received.of_segment same,
      (RetransEntry.reachedBy_of_segment same block).symm.trans reached⟩

/-- What a segment marks is credited to its own blocks. -/
theorem Credited.hear (credited : Credited hearings before) {blocks : List SackBlock}
    (marked : Marked blocks before.sndRetrans.entries after.sndRetrans.entries) :
    Credited (hearings ++ [⟨before.sndRetrans.entries, blocks⟩]) after := by
  intro entry member sacked
  rcases marked entry member with ⟨earlier, inBefore, same, credit⟩
  rcases credit sacked with already | ⟨block, received, reached⟩
  · rcases credited earlier inBefore already with ⟨block, received, reached⟩
    exact ⟨block, (received.of_segment same).append,
      (RetransEntry.reachedBy_of_segment same block).symm.trans reached⟩
  · refine ⟨block, ⟨_, List.mem_append_right _ (List.mem_singleton_self _),
      ⟨earlier, inBefore, same⟩, received⟩, reached⟩

theorem Unmarked.credited {conn : TcpConn} (unmarked : Unmarked conn) :
    Credited hearings conn := by
  intro entry member sacked
  rw [unmarked entry member] at sacked
  cases sacked

variable {run : SackRun} {handle : ConnHandle} {conn : TcpConn}

/-- A segment for the connection: its dispatch, and what the engine does behind it. -/
theorem credited_segment {seg : ParsedSegment} {mbufCtx : Option MbufInsertCtx} {env : InputEnv}
    {earlier : TcpConn} (present : run.host.engine.flowTable.get handle = some earlier)
    (credited : Credited (run.heard handle) earlier)
    (live : (run.host.step (.segment handle seg mbufCtx env)).engine.flowTable.get handle =
      some conn) :
    Credited (run.heard handle ++ [⟨earlier.sndRetrans.entries, receivedSackBlocks seg⟩]) conn := by
  have bars : ∀ edit : Edit, edit.plain = true → edit.marksNothing = true :=
    Edit.marksNothing_of_plain
  have deeds := Engine.tcpInput_dispatched bars run.host.engine handle (fun _ => rfl)
    (fun _ => rfl) (fun _ _ => rfl) present (fun _ _ => rfl) seg mbufCtx env
  rcases deeds with ⟨middle, written, _, _, deeds⟩
  have marked := dispatch_marked earlier seg env.clock run.host.engine.cfg.sendBufferBytes mbufCtx
  have heard := credited.hear marked
  rcases deeds.work.carried (Engine.carriesMarks fun _ nothing => nothing) live with
    ⟨_, dispatched, there, keeps⟩ | ⟨_, unmarked⟩
  · rw [written, if_pos rfl] at there
    cases there
    exact heard.keeps keeps
  · exact Unmarked.credited unmarked

/-- Every marked entry of a live connection is credited to a block. -/
def Accounted (run : SackRun) : Prop :=
  ∀ handle conn, run.host.engine.flowTable.get handle = some conn →
    Credited (run.heard handle) conn

theorem Accounted.step (accounted : run.Accounted) (op : EngineOp) : (run.step op).Accounted := by
  intro handle conn live
  dsimp only [SackRun.step] at live ⊢
  by_cases own : ∃ seg mbufCtx env, op = .segment handle seg mbufCtx env
  · rcases own with ⟨seg, mbufCtx, env, rfl⟩
    have same := @Host.step_incarnation run.host (.segment handle seg mbufCtx env)
      (fun _ _ _ _ _ _ => nofun) handle
    rw [if_pos same, Host.hearing, if_pos rfl]
    cases present : run.host.engine.flowTable.get handle with
    | none =>
        dsimp only [Host.step] at live
        rw [Engine.tcpInput_absent present, present] at live
        cases live
    | some earlier => exact credited_segment present (accounted handle earlier present) live
  · have beside : ∀ seg mbufCtx env, op ≠ .segment handle seg mbufCtx env :=
      fun seg mbufCtx env same => own ⟨seg, mbufCtx, env, same⟩
    have bars : (∀ target seg mbufCtx env, op ≠ .segment target seg mbufCtx env) →
        ∀ edit, run.host.permits op edit = true → edit.marksNothing = true := by
      intro quiet edit permitted
      cases edit with
      | dispatch =>
          cases op with
          | segment target seg mbufCtx env => exact absurd rfl (quiet target seg mbufCtx env)
          | _ => cases permitted
      | stash entry => exact permitted
      | _ => rfl
    rcases Host.step_carried (Engine.carriesMarks fun _ nothing => nothing) bars beside live with
      ⟨same, earlier, present, keeps⟩ | ⟨newer, unmarked⟩
    · rw [if_pos same]
      exact ((accounted handle earlier present).keeps keeps).append
    · exact Unmarked.credited unmarked

theorem accounted_of_reached {cfg : EngineConfig} {maxConnections eventSoftCap : ℕ}
    (reached : Run.Reaches step (fun _ _ => True) (start cfg maxConnections eventSoftCap) run) :
    run.Accounted := by
  apply reached.invariant
  · intro handle conn live
    have absent : (Host.start cfg maxConnections eventSoftCap).engine.flowTable.get handle =
        some conn := live
    rw [Host.get_start] at absent
    cases absent
  · exact fun run op accounted _ => accounted.step op

/-- In every run, a marked entry that holds a byte was reached by a SACK block its connection
received while the entry was in flight: the block ends behind the start of the entry and starts
before its end. Unless the edges of the block are out of order, it holds a byte of the entry. -/
theorem sacked_entry_reached {cfg : EngineConfig} {maxConnections eventSoftCap : ℕ}
    (reached : Run.Reaches step (fun _ _ => True) (start cfg maxConnections eventSoftCap) run)
    {handle : ConnHandle} {conn : TcpConn}
    (live : run.host.engine.flowTable.get handle = some conn) {entry : RetransEntry}
    (member : entry ∈ conn.sndRetrans.entries) (sacked : entry.sacked = true)
    (positive : 0 < entry.len) :
    ∃ block, Received (run.heard handle) entry block ∧ entry.reachedBy block = true ∧
      (block.wellFormed = true →
        ∃ offset < entry.len, block.holds (seqAdd entry.seq offset) = true) := by
  rcases accounted_of_reached reached handle conn live entry member sacked with
    ⟨block, received, reaches⟩
  exact ⟨block, received, reaches, fun ordered =>
    RetransEntry.exists_held_of_reachedBy positive ordered reaches⟩

/-- Every byte of a marked entry lies in a block with its edges in order that its connection
received while the entry was in flight. -/
def FullyCovered (run : SackRun) : Prop :=
  ∀ handle conn, run.host.engine.flowTable.get handle = some conn →
    ∀ entry ∈ conn.sndRetrans.entries, entry.sacked = true → ∀ offset < entry.len,
      ∃ block, Received (run.heard handle) entry block ∧ block.wellFormed = true ∧
        block.holds (seqAdd entry.seq offset) = true

/-- Four bytes are sent, and the peer reports the second of them. -/
def partlySacked : List EngineOp :=
  [.connect ⟨0x0a000002#32, 40000, 0x0a000001#32, 5000⟩ 100#32 1460
      ⟨false, false, 0, 0, false, 0, false⟩ true 1000,
    .segment 1
      { synAck 100#32 200#32 5000 with
        options := [OPT_MSS, 4, 5, 180, OPT_SACK_PERMITTED, 2, OPT_NOP, OPT_NOP] }
      none (inputAt 1000),
    sendAt 2000 [1, 2, 3, 4] 7,
    .segment 1
      { peerSegment 201#32 101#32 TCP_ACK 5000 [] with
        options := [OPT_NOP, OPT_NOP, OPT_SACK, 10, 0, 0, 0, 102, 0, 0, 0, 103] }
      none (inputAt 3000)]

/-- The entry of the four bytes is marked. -/
theorem partlySacked_entry :
    ∃ conn entry,
      (partlySacked.foldl step (start quickCfg 1 64)).host.engine.flowTable.get 1 = some conn ∧
        entry ∈ conn.sndRetrans.entries ∧ entry.sacked = true ∧ entry.seq = 101#32 ∧
        entry.len = 4 := by
  have marked : ((partlySacked.foldl step (start quickCfg 1 64)).host.engine.flowTable.get 1).any
      (fun conn => conn.sndRetrans.entries.any fun entry =>
        decide (entry.sacked = true ∧ entry.seq = 101#32 ∧ entry.len = 4)) = true := by
    decide +kernel
  rcases (Option.any_eq_true _ _).mp marked with ⟨conn, live, found⟩
  rcases List.any_eq_true.mp found with ⟨entry, member, known⟩
  exact ⟨conn, entry, live, member, of_decide_eq_true known⟩

theorem sacked_entry_reached_partly :
    ∃ conn entry block,
      (partlySacked.foldl step (start quickCfg 1 64)).host.engine.flowTable.get 1 = some conn ∧
        Received ((partlySacked.foldl step (start quickCfg 1 64)).heard 1) entry block ∧
        entry.reachedBy block = true ∧
        (block.wellFormed = true →
          ∃ offset < entry.len, block.holds (seqAdd entry.seq offset) = true) := by
  rcases partlySacked_entry with ⟨conn, entry, live, member, sacked, _, len⟩
  rcases sacked_entry_reached (.foldl partlySacked _) live member sacked
    (by rw [len]; decide) with ⟨block, received, reached, held⟩
  exact ⟨conn, entry, block, live, received, reached, held⟩

/-- No block holds the first of the four bytes. -/
theorem partly_sacked_not_covered :
    ¬ ∀ ops : List EngineOp, FullyCovered (ops.foldl step (start quickCfg 1 64)) := by
  intro covered
  rcases partlySacked_entry with ⟨conn, entry, live, member, sacked, seq, len⟩
  rcases covered partlySacked 1 conn live entry member sacked 0 (by rw [len]; decide) with
    ⟨block, ⟨hearing, heard, _, received⟩, _, holds⟩
  have missed : (((partlySacked.foldl step (start quickCfg 1 64)).heard 1).all fun hearing =>
      hearing.blocks.all fun block => !block.holds 101#32) = true := by
    decide +kernel
  have without := List.all_eq_true.mp (List.all_eq_true.mp missed hearing heard) block received
  rw [seqAdd_zero, seq] at holds
  rw [holds] at without
  cases without

end SackRun

end DpdkTcp
