import DpdkTcp.Reorder.Insert
import DpdkTcp.Sack.Blocks

/-!
# The SACK blocks of a run

Whatever state a connection is in, its reorder queue holds disjoint pieces in
order, and a segment either adds pieces to it or takes some away. So the blocks
of every ACK are known from the pieces that `emit_ack` finds.
-/

namespace DpdkTcp

open Serial

/-! ### What a delivery does to the pieces -/

theorem ReorderQueue.sublist_insert (queue : ReorderQueue) (seq : Seq) (payload : List UInt8)
    (mbuf : RxMbuf) (mbufPayloadOffset : ℕ) :
    queue.segments.Sublist (queue.insert seq payload mbuf mbufPayloadOffset).queue.segments := by
  dsimp only [ReorderQueue.insert]
  split
  · exact List.Sublist.refl _
  · exact sublist_insertPieces mbuf _ queue.segments

theorem insertChain_sublist (links : List RxMbuf) (linkSeq : Seq) (delivery : Delivery) :
    delivery.conn.recv.reorder.segments.Sublist
      (insertChain links linkSeq delivery).conn.recv.reorder.segments := by
  induction links generalizing linkSeq delivery with
  | nil => exact List.Sublist.refl _
  | cons link rest ih =>
      dsimp only [insertChain]
      split
      · exact ih _ _
      · refine List.Sublist.trans ?_ (ih _ _)
        exact delivery.conn.recv.reorder.sublist_insert linkSeq link.data link 0

theorem deliverOutOfOrder_sublist (conn : TcpConn) (seg : ParsedSegment)
    (mbufCtx : Option MbufInsertCtx) :
    conn.recv.reorder.segments.Sublist
      (deliverOutOfOrder conn seg mbufCtx).conn.recv.reorder.segments := by
  dsimp only [deliverOutOfOrder]
  split
  · cases mbufCtx with
    | none => exact List.Sublist.refl _
    | some ctx =>
        refine List.Sublist.trans ?_ (insertChain_sublist _ _ _)
        exact conn.recv.reorder.sublist_insert seg.seq _ ctx.mbuf ctx.payloadOffset
  · exact List.Sublist.refl _

theorem drainSegments_sublist (segs : List OooSegment) (rcvNxt : Seq)
    (capRoom totalBytes : ℕ) :
    (drainSegments segs rcvNxt capRoom totalBytes).segments.Sublist segs := by
  induction segs generalizing rcvNxt capRoom totalBytes with
  | nil => exact List.Sublist.refl _
  | cons seg rest ih =>
      dsimp only [drainSegments]
      split
      · exact List.Sublist.refl _
      · split
        · exact (ih _ _ _).cons seg
        · split
          · exact (ih _ _ _).cons seg
          · exact (ih _ _ _).cons seg

theorem drainReorder_sublist (delivery : Delivery) :
    (drainReorder delivery).conn.recv.reorder.segments.Sublist
      delivery.conn.recv.reorder.segments := by
  dsimp only [drainReorder]
  split
  · exact List.Sublist.refl _
  · exact drainSegments_sublist _ _ _ _

/-- A delivery adds pieces or takes some away. -/
theorem deliver_pieces (conn : TcpConn) (seg : ParsedSegment) (mbufCtx : Option MbufInsertCtx) :
    conn.recv.reorder.segments ⊆ (deliver conn seg mbufCtx).conn.recv.reorder.segments ∨
      (deliver conn seg mbufCtx).conn.recv.reorder.segments ⊆ conn.recv.reorder.segments := by
  unfold deliver
  split
  · exact .inl (List.Subset.refl _)
  · split
    · right
      rcases appendInOrder_room conn.recv seg mbufCtx with ⟨_, reorder, _⟩
      intro piece left
      have member := (drainReorder_sublist _).subset left
      dsimp only at member
      rwa [reorder] at member
    · split
      · exact .inl (deliverOutOfOrder_sublist conn seg mbufCtx).subset
      · exact .inl (List.Subset.refl _)

/-! ### The queue of a connection in any state -/

/-- The pieces are disjoint and in order. -/
def TcpConn.Piled (conn : TcpConn) : Prop :=
  ∃ base, conn.recv.reorder.Tidy base REORDER_WIDTH

theorem TcpConn.piled_new (cap : ℕ) (base : Seq) :
    (RecvQueue.new cap).reorder.Tidy base REORDER_WIDTH :=
  ⟨.nil _ _ _, rfl⟩

namespace TcpConn.Piled

variable {conn : TcpConn} {seg : ParsedSegment} {mbufCtx : Option MbufInsertCtx}

/-- A dispatch keeps the pieces in order, and adds some or takes some away. -/
theorem dispatch (piled : conn.Piled) (ordered : conn.Ordered)
    (short : (carriedBytes seg mbufCtx).length < 65536) (clock : Readings) (sendBuf : ℕ) :
    (dispatch conn seg clock sendBuf mbufCtx).conn.Piled ∧
      (conn.recv.reorder.segments ⊆
          (DpdkTcp.dispatch conn seg clock sendBuf mbufCtx).conn.recv.reorder.segments ∨
        (DpdkTcp.dispatch conn seg clock sendBuf mbufCtx).conn.recv.reorder.segments ⊆
          conn.recv.reorder.segments) := by
  rcases piled with ⟨base, tidy⟩
  by_cases opening : conn.state = .synSent
  · have shake : DpdkTcp.dispatch conn seg clock sendBuf mbufCtx = handleSynSent conn seg clock := by
      rw [DpdkTcp.dispatch, opening]
    rw [shake]
    unfold TcpConn.Piled
    rw [handleSynSent_recv conn seg clock]
    exact ⟨⟨base, tidy⟩, .inl (List.Subset.refl _)⟩
  · unfold TcpConn.Piled
    cases dispatch_receives opening seg clock sendBuf mbufCtx with
    | idle delivered recv =>
        rw [recv]
        exact ⟨⟨base, tidy⟩, .inl (List.Subset.refl _)⟩
    | data running acceptable known raced same owner fin closing delivered recv =>
        rw [recv, ← same.recv]
        refine ⟨⟨_, deliver_tidy (by decide) ?_ (fun _ => short) ?_⟩, deliver_pieces raced seg mbufCtx⟩
        · rw [same.recv, same.rcvNxt]
          exact ordered.tidy running
        · intro data _
          rw [same.rcvNxt]
          exact ordered.carried_inside acceptable data short

end TcpConn.Piled

/-- Every connection of the host has its pieces in order. -/
def Host.Piled (host : Host) : Prop :=
  ∀ handle conn, host.engine.flowTable.get handle = some conn → conn.Piled

theorem Host.Piled.step {host : Host} (piled : host.Piled) (ordered : host.Ordered)
    {op : SystemOp} (short : op.short = true) : (host.systemStep op).Piled := by
  intro handle after live
  have received := host.systemStep_receiver op live
  generalize before : host.engine.flowTable.get handle = present at received
  cases received with
  | kept same =>
      rcases piled handle _ before with ⟨base, tidy⟩
      exact ⟨base, by rw [same.recv]; exact tidy⟩
  | opening rcvWnd recv =>
      exact ⟨0#32, by rw [recv]; exact TcpConn.piled_new _ _⟩
  | segment seg mbufCtx env called dispatched processed same =>
      subst called
      rcases ((piled handle _ before).dispatch (ordered handle _ before)
        (of_decide_eq_true short) env.clock host.engine.cfg.sendBufferBytes).1 with ⟨base, tidy⟩
      rw [← processed] at tidy
      exact ⟨base, by rw [same.recv]; exact tidy⟩

/-! ### The ACK that answers a segment -/

namespace Engine

/-- The engine when it comes to answer a segment of the connection `conn`. -/
def beforeAnswer (engine : Engine) (handle : ConnHandle) (conn : TcpConn) (seg : ParsedSegment)
    (mbufCtx : Option MbufInsertCtx) (env : InputEnv) : Engine :=
  let dispatched := dispatch conn seg env.clock engine.cfg.sendBufferBytes mbufCtx
  let written := engine.written handle mbufCtx dispatched
  let notified :=
    if dispatched.outcome.writableHysteresisFired then
      written.pushEvent (.writable handle env.nowNs)
    else written
  let waited := (notified.sendSideAfter handle dispatched.outcome env).restartTimeWait handle
    dispatched.outcome env.nowNs
  match dispatched.outcome.newState with
  | some state => waited.transitionConn handle state env.nowNs
  | none => waited

/-- The connection `emit_ack` builds the ACK of a segment from, if there is one. -/
def acking (engine : Engine) (handle : ConnHandle) (seg : ParsedSegment)
    (mbufCtx : Option MbufInsertCtx) (env : InputEnv) : Option TcpConn :=
  (engine.flowTable.get handle).bind fun conn =>
    if (dispatch conn seg env.clock engine.cfg.sendBufferBytes mbufCtx).outcome.tx = .ack then
      (engine.beforeAnswer handle conn seg mbufCtx env).flowTable.get handle
    else none

variable {engine : Engine} {handle : ConnHandle} {conn : TcpConn} {seg : ParsedSegment}
  {mbufCtx : Option MbufInsertCtx} {env : InputEnv}

theorem beforeAnswer_edits (engine : Engine) (handle : ConnHandle) (conn : TcpConn)
    (seg : ParsedSegment) (mbufCtx : Option MbufInsertCtx) (env : InputEnv) :
    Edits (engine.written handle mbufCtx
      (dispatch conn seg env.clock engine.cfg.sendBufferBytes mbufCtx))
      (engine.beforeAnswer handle conn seg mbufCtx env) := by
  dsimp only [beforeAnswer]
  generalize dispatch conn seg env.clock engine.cfg.sendBufferBytes mbufCtx = dispatched
  have notified : Edits (engine.written handle mbufCtx dispatched)
      (if dispatched.outcome.writableHysteresisFired then
        (engine.written handle mbufCtx dispatched).pushEvent (.writable handle env.nowNs)
      else engine.written handle mbufCtx dispatched) := by
    split
    · exact .push _ rfl
    · exact .refl _
  have waited := (Edits.trans notified (sendSideAfter_edits _ handle dispatched.outcome env)).trans
    (restartTimeWait_edits _ handle dispatched.outcome env.nowNs)
  split
  · exact .trans waited (transitionConn_edits _ handle _ env.nowNs)
  · exact waited

/-- The ACK is built from the receive side the dispatch left. -/
theorem acking_receiver {acked : TcpConn} (present : engine.flowTable.get handle = some conn)
    (answers : engine.acking handle seg mbufCtx env = some acked) :
    SameReceiver (dispatch conn seg env.clock engine.cfg.sendBufferBytes mbufCtx).conn acked := by
  unfold acking at answers
  rw [present, Option.bind_some] at answers
  split at answers
  · rcases (engine.beforeAnswer_edits handle conn seg mbufCtx env).conns answers with
      ⟨written, found, same⟩
    dsimp only [Engine.written] at found
    rw [FlowTable.get_set present, if_pos rfl] at found
    rw [← Option.some.inj found] at same
    exact same
  · cases answers

end Engine

/-- In every run, the SACK blocks of an ACK are maximal ranges of buffered bytes, the first of
them with the bytes the segment stored, exactly when no piece the ACK names touches another and
a piece the segment added is the one it names first. -/
theorem emitted_sack_blocks_sound_iff {cfg : EngineConfig} {maxConnections eventSoftCap : ℕ}
    {host : Host}
    (run : Run.Reaches Host.systemStep (fun _ op => op.short = true)
      (Host.start cfg maxConnections eventSoftCap) host)
    {handle : ConnHandle} {conn acked : TcpConn} {seg : ParsedSegment}
    {mbufCtx : Option MbufInsertCtx} {env : InputEnv}
    (present : host.engine.flowTable.get handle = some conn)
    (short : SystemOp.short (.call (.segment handle seg mbufCtx env)) = true)
    (answers : host.engine.acking handle seg mbufCtx env = some acked) :
    SackBlocksSound conn.recv.reorder acked.recv.reorder acked.sackEnabled
        (acked.ackOutcome env.nowNs).opts.liveSackBlocks ↔
      (acked.sackEnabled = true → acked.SacksApart ∧ acked.LeadsWithNew conn.recv.reorder) := by
  have invariant : host.Ordered ∧ host.Piled := by
    apply run.invariant
    · refine ⟨Host.ordered_start cfg maxConnections eventSoftCap, ?_⟩
      intro handle conn live
      rw [Host.get_start] at live
      cases live
    · rintro host op ⟨ordered, piled⟩ short
      exact ⟨ordered.step short, piled.step ordered short⟩
  rcases (invariant.2 handle conn present).dispatch (invariant.1 handle conn present)
    (of_decide_eq_true short) env.clock host.engine.cfg.sendBufferBytes with
    ⟨⟨base, tidy⟩, changed⟩
  have same := Engine.acking_receiver present answers
  rw [← same.recv] at tidy changed
  exact TcpConn.sackBlocksSound_iff tidy (by decide) changed env.nowNs

/-- Ten bytes of the peer, in a buffer of their own. -/
def tenBytesFrom (seq : Seq) : ParsedSegment :=
  peerSegment seq 101#32 TCP_ACK 5000 (List.replicate 10 7)

theorem tenBytes_fit : (List.replicate 10 (7 : UInt8)).length < 65536 := by
  decide

/-- Ten bytes of payload in a buffer. -/
def tenBytesBuffer : MbufInsertCtx :=
  ⟨⟨9, List.replicate 10 7, tenBytes_fit⟩, 0, []⟩

/-- A connection with SACK holds ten bytes behind a gap of ten. -/
def gapped : List SystemOp :=
  [.call (.connect ⟨0x0a000002#32, 40000, 0x0a000001#32, 5000⟩ 100#32 1460
      ⟨false, false, 0, 0, false, 0, false⟩ true 1000),
    .call (.segment 1
      { synAck 100#32 200#32 5000 with
        options := [OPT_MSS, 4, 5, 180, OPT_SACK_PERMITTED, 2, OPT_NOP, OPT_NOP] }
      none (inputAt 1000)),
    .call (.segment 1 (tenBytesFrom 211#32) (some tenBytesBuffer) (inputAt 2000))]

/-- Ten bytes behind a second gap are reported first. -/
theorem emitted_sack_blocks_sound_iff_gap :
    ∃ conn acked,
      (gapped.foldl Host.systemStep (Host.start quickCfg 1 64)).engine.flowTable.get 1 =
          some conn ∧
        (gapped.foldl Host.systemStep (Host.start quickCfg 1 64)).engine.acking 1
          (tenBytesFrom 231#32) (some tenBytesBuffer) (inputAt 3000) = some acked ∧
        (acked.ackOutcome 3000).opts.liveSackBlocks =
          [⟨231#32, 241#32⟩, ⟨211#32, 221#32⟩] ∧
        SackBlocksSound conn.recv.reorder acked.recv.reorder acked.sackEnabled
          (acked.ackOutcome 3000).opts.liveSackBlocks := by
  have found : ((gapped.foldl Host.systemStep (Host.start quickCfg 1 64)).engine.flowTable.get
      1).any (fun conn =>
        ((gapped.foldl Host.systemStep (Host.start quickCfg 1 64)).engine.acking 1
          (tenBytesFrom 231#32) (some tenBytesBuffer) (inputAt 3000)).any fun acked =>
            decide ((acked.ackOutcome 3000).opts.liveSackBlocks =
              [⟨231#32, 241#32⟩, ⟨211#32, 221#32⟩] ∧ acked.SacksApart ∧
              acked.LeadsWithNew conn.recv.reorder)) = true := by
    decide +kernel
  rcases (Option.any_eq_true _ _).mp found with ⟨conn, present, answered⟩
  rcases (Option.any_eq_true _ _).mp answered with ⟨acked, answers, known⟩
  rcases of_decide_eq_true known with ⟨blocks, apart, leads⟩
  exact ⟨conn, acked, present, answers, blocks, (emitted_sack_blocks_sound_iff
    (Run.Reaches.of_admits (by decide +kernel :
      Run.admits Host.systemStep (fun _ op => op.short) (Host.start quickCfg 1 64) gapped = true))
    present rfl answers).mpr fun _ => ⟨apart, leads⟩⟩

/-- Two segments that meet behind a gap are reported as two blocks. -/
theorem emitted_sack_blocks_split :
    ¬ ∀ host, Run.Reaches Host.systemStep (fun _ op => op.short = true)
        (Host.start quickCfg 1 64) host →
      ∀ handle conn acked seg mbufCtx env, host.engine.flowTable.get handle = some conn →
        SystemOp.short (.call (.segment handle seg mbufCtx env)) = true →
        host.engine.acking handle seg mbufCtx env = some acked →
        SackBlocksSound conn.recv.reorder acked.recv.reorder acked.sackEnabled
          (acked.ackOutcome env.nowNs).opts.liveSackBlocks := by
  intro sound
  have reached := Run.Reaches.of_admits (by decide +kernel :
    Run.admits Host.systemStep (fun _ op => op.short) (Host.start quickCfg 1 64) gapped = true)
  have found : ((gapped.foldl Host.systemStep (Host.start quickCfg 1 64)).engine.flowTable.get
      1).any (fun _ =>
        ((gapped.foldl Host.systemStep (Host.start quickCfg 1 64)).engine.acking 1
          (tenBytesFrom 221#32) (some tenBytesBuffer) (inputAt 3000)).any fun acked =>
            decide (⟨221#32, 231#32⟩ ∈ (acked.ackOutcome 3000).opts.liveSackBlocks ∧
              acked.recv.reorder.holds (221#32 - 1) = true)) = true := by
    decide +kernel
  rcases (Option.any_eq_true _ _).mp found with ⟨conn, present, answered⟩
  rcases (Option.any_eq_true _ _).mp answered with ⟨acked, answers, known⟩
  rcases of_decide_eq_true known with ⟨named, held⟩
  have below := ((sound _ reached 1 conn acked _ _ _ present rfl answers).maximal _ named).below
  rw [held] at below
  cases below

end DpdkTcp
