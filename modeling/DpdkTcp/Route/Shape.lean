import DpdkTcp.Model.Link
import DpdkTcp.Route.Frames
import DpdkTcp.Window.Tidy
import DpdkTcp.Receive.Conserve

/-!
# Buffers and chains

A frame in a chain of buffers is read from a copy, and its payload is offered to
no queue. What the connection makes of it is the same as for one buffer exactly
when nothing of a frame in one buffer would be kept either.
-/

namespace DpdkTcp

open Serial Intervals

/-! ### The bytes of a chain -/

theorem linearize_eq {total : ℕ} {links : List RxMbuf} {written : List UInt8}
    (sum : written.length + (links.map fun link => link.data.length).sum = total) :
    linearize total links written = written ++ links.flatMap RxMbuf.data := by
  induction links generalizing written with
  | nil => simp [linearize]
  | cons link rest ih =>
      rw [List.map_cons, List.sum_cons] at sum
      dsimp only [linearize]
      split
      · rw [List.take_of_length_le (by omega : link.data.length ≤ total - written.length),
          ih (by rw [List.length_append]; omega), List.flatMap_cons, List.append_assoc]
      · have empty : (link :: rest).flatMap RxMbuf.data = [] := by
          rw [← List.length_eq_zero_iff, List.length_flatMap, List.map_cons, List.sum_cons]
          omega
        rw [empty, List.append_nil]

/-- The decoders see the bytes of all links. -/
theorem mbufDataSliceForRx_eq (chain : RxChain) :
    mbufDataSliceForRx chain = (chain.head :: chain.next).flatMap RxMbuf.data := by
  unfold mbufDataSliceForRx
  split
  · rename_i one
    have alone : chain.next = [] := List.length_eq_zero_iff.mp (by unfold RxChain.nbSegs at one; omega)
    rw [alone, List.flatMap_cons, List.flatMap_nil, List.append_nil]
  · exact linearize_eq (by simp [RxChain.pktLen])

/-! ### What would be kept -/

/-- The byte at a sequence number is stored. -/
def ReorderQueue.holds (queue : ReorderQueue) (seq : Seq) : Bool :=
  queue.segments.any fun stored => inWindow stored.seq seq stored.len

/-- A queue of the connection has a place for a byte of the segment. -/
def TcpConn.hasPlace (conn : TcpConn) (seg : ParsedSegment) : Bool :=
  if seg.seq = conn.rcvNxt then decide (0 < conn.recv.freeSpace)
  else
    seqLt conn.rcvNxt seg.seq && decide (0 < conn.recv.freeSpaceTotal) &&
      decide (conn.recv.reorder.totalBytes < conn.recv.reorder.cap) &&
      (List.range (min seg.payload.length conn.recv.freeSpaceTotal)).any fun off =>
        !conn.recv.reorder.holds (seqAdd seg.seq off)

/-- A data segment is processed and a byte of it kept, where it comes in one buffer. -/
def TcpConn.keepsData (conn : TcpConn) (seg : ParsedSegment) (nowNs : ℕ) : Bool :=
  conn.acceptable seg nowNs && conn.ackKnown seg && conn.hasPlace seg

section Delivery

variable {conn : TcpConn} {seg : ParsedSegment} {ctx : MbufInsertCtx} {base : Seq} {width : ℕ}

theorem ReorderQueue.Tidy.holds_iff {queue : ReorderQueue} (tidy : queue.Tidy base width)
    (small : width < 2 ^ 31) {pos : ℕ} (near : pos < 2 ^ 31) :
    queue.holds (point base pos) = true ↔
      Covered (OooSegment.ahead base) OooSegment.len queue.segments pos := by
  unfold ReorderQueue.holds Covered
  rw [List.any_eq_true]
  apply exists_congr
  intro stored
  apply and_congr_right
  intro member
  have positive := tidy.spread.nonempty stored member
  have ends := tidy.spread.before stored member
  have gap : (point base pos - stored.seq).toNat =
      (pos + 2 ^ 32 - stored.ahead base) % 2 ^ 32 := by
    rw [← OooSegment.point_ahead base stored]
    simp only [point, BitVec.toNat_sub, BitVec.toNat_add, BitVec.toNat_ofNat]
    omega
  unfold inWindow
  rw [if_neg (by omega : stored.len ≠ 0), gap, decide_eq_true_iff]
  constructor
  · intro inside
    by_cases before : pos < stored.ahead base
    · rw [Nat.mod_eq_of_lt (by omega)] at inside
      omega
    · omega
  · rintro ⟨begins, inside⟩
    rw [show pos + 2 ^ 32 - stored.ahead base = (pos - stored.ahead base) + 2 ^ 32 by omega,
      Nat.add_mod_right, Nat.mod_eq_of_lt (by omega)]
    omega

/-- Nothing stored continues the stream. -/
theorem ReorderQueue.Tidy.drains_nothing {queue : ReorderQueue} (tidy : queue.Tidy base width)
    (small : width < 2 ^ 31) (capRoom totalBytes : ℕ) :
    drainSegments queue.segments base capRoom totalBytes =
      ⟨queue.segments, totalBytes, [], 0, 0, []⟩ := by
  cases stored : queue.segments with
  | nil => rfl
  | cons first rest =>
      have head : SpreadOver base 1 width (first :: rest) := stored ▸ tidy.spread
      rcases head.head with ⟨positive, ahead, inside⟩
      have gap : seqLt base first.seq = true := by
        have order := seqLt_point base (by omega : 0 < first.ahead base + 2 ^ 31)
          (by omega : first.ahead base ≤ 0 + 2 ^ 31)
        rw [point_zero, OooSegment.point_ahead base first] at order
        rw [order, decide_eq_true_iff]
        omega
      dsimp only [drainSegments]
      rw [gap, if_pos rfl]

/-- The bytes a delivery accepts. -/
def Delivery.accepted (delivery : Delivery) : ℕ :=
  delivery.delivered + delivery.reassemblyQueuedBytes

theorem drainReorder_accepted (delivery : Delivery) :
    delivery.accepted ≤ (drainReorder delivery).accepted := by
  dsimp only [drainReorder, Delivery.accepted]
  split
  · exact Nat.le_refl _
  · dsimp only
    omega

theorem drainReorder_accepted_of_tidy {delivery : Delivery}
    (tidy : delivery.conn.recv.reorder.Tidy delivery.conn.rcvNxt width) (small : width < 2 ^ 31) :
    (drainReorder delivery).accepted = delivery.accepted := by
  dsimp only [drainReorder, Delivery.accepted]
  split
  · rfl
  · dsimp only
    rw [tidy.drains_nothing small, Nat.add_zero]

/-- Without a buffer nothing is accepted. -/
theorem deliver_none_accepted (tidy : conn.recv.reorder.Tidy conn.rcvNxt width)
    (small : width < 2 ^ 31) : (deliver conn seg none).accepted = 0 := by
  unfold deliver
  split
  · rfl
  · split
    · refine (drainReorder_accepted_of_tidy ?_ small).trans rfl
      dsimp only [appendInOrder]
      rw [seqAdd_zero]
      exact tidy
    · split
      · dsimp only [deliverOutOfOrder, Delivery.accepted]
        split <;> rfl
      · rfl

/-- What is carved ahead of a hole is nothing exactly where nothing has a place. -/
theorem carve_hasPlace_iff (tidy : conn.recv.reorder.Tidy conn.rcvNxt width)
    (small : width < 2 ^ 31) (ahead : seg.seq ≠ conn.rcvNxt)
    (later : seqLt conn.rcvNxt seg.seq = true) (room : 0 < conn.recv.freeSpaceTotal)
    (short : seg.payload.length < 65536)
    (window : (seg.seq - conn.rcvNxt).toNat + seg.payload.length ≤ width) (offset : ℕ) :
    (conn.recv.reorder.carve seg.seq
        (seg.payload.take (min seg.payload.length conn.recv.freeSpaceTotal)) offset).newlyBuffered =
          0 ↔ conn.hasPlace seg = false := by
  have seq := point_toNat_sub conn.rcvNxt seg.seq
  obtain ⟨head, taken⟩ : ∃ head,
    head = min seg.payload.length conn.recv.freeSpaceTotal := ⟨_, rfl⟩
  have length : (seg.payload.take head).length = head := by
    rw [List.length_take]
    omega
  unfold TcpConn.hasPlace
  rw [if_neg ahead, later, decide_eq_true room, ← taken]
  generalize (seg.seq - conn.rcvNxt).toNat = start at window seq
  rw [← seq, ((tidy.carve small (seg.payload.take head) (by omega) (by omega) offset).2.2 : _ ↔ _),
    length]
  have byte : ∀ off, off < head →
      (conn.recv.reorder.holds (seqAdd (point conn.rcvNxt start) off) = true ↔
        Covered (OooSegment.ahead conn.rcvNxt) OooSegment.len conn.recv.reorder.segments
          (start + off)) := by
    intro off inside
    rw [seqAdd_point]
    exact tidy.holds_iff small (by omega)
  simp only [Bool.true_and, Bool.and_eq_false_iff, decide_eq_false_iff_not, Nat.not_lt,
    List.any_eq_false, List.mem_range, Bool.not_eq_true', Bool.not_eq_false]
  apply or_congr_right
  constructor
  · intro covered off inside
    exact (byte off inside).mpr (covered (start + off) (by omega) (by omega))
  · intro held pos after inside
    have here := (byte (pos - start) (by omega)).mp (held (pos - start) (by omega))
    rwa [Nat.add_sub_cancel' after] at here

/-- A byte that has a place is accepted. -/
theorem deliver_accepts (data : seg.payload ≠ [])
    (tidy : conn.recv.reorder.Tidy conn.rcvNxt width) (small : width < 2 ^ 31)
    (alone : ctx.next = []) (short : seg.payload.length < 65536)
    (window : (seg.seq - conn.rcvNxt).toNat + seg.payload.length ≤ width)
    (place : conn.hasPlace seg = true) : 0 < (deliver conn seg (some ctx)).accepted := by
  have full : seg.payload.isEmpty = false := by simpa using data
  have bytes := List.length_pos_iff.mpr data
  unfold deliver
  rw [full, if_neg Bool.false_ne_true]
  by_cases next : seg.seq = conn.rcvNxt
  · rw [if_pos next]
    unfold TcpConn.hasPlace at place
    rw [if_pos next, decide_eq_true_iff] at place
    refine Nat.lt_of_lt_of_le ?_ (drainReorder_accepted _)
    dsimp only [Delivery.accepted, appendInOrder]
    rw [if_pos (by omega), alone]
    dsimp only [appendChain, Appended.push]
    omega
  · rw [if_neg next]
    have facts := place
    unfold TcpConn.hasPlace at facts
    rw [if_neg next] at facts
    simp only [Bool.and_eq_true, decide_eq_true_iff] at facts
    rcases facts with ⟨⟨⟨later, room⟩, _⟩, _⟩
    have carved := carve_hasPlace_iff tidy small next later room short window ctx.payloadOffset
    rw [later, if_pos rfl]
    dsimp only [deliverOutOfOrder, Delivery.accepted]
    rw [if_pos room, alone]
    have something : ¬ (seg.payload.take (min seg.payload.length conn.recv.freeSpaceTotal)).isEmpty =
        true := by
      rw [List.isEmpty_iff_length_eq_zero, List.length_take]
      omega
    dsimp only [insertChain, ReorderQueue.insert]
    rw [if_neg something]
    dsimp only
    have nonzero := mt carved.mp (by rw [place]; exact Bool.false_ne_true.symm)
    omega

/-- A segment that has no place is treated as if it came without a buffer. -/
theorem deliver_unplaced (tidy : conn.recv.reorder.Tidy conn.rcvNxt width) (small : width < 2 ^ 31)
    (alone : ctx.next = []) (short : seg.payload.length < 65536)
    (window : (seg.seq - conn.rcvNxt).toNat + seg.payload.length ≤ width)
    (place : conn.hasPlace seg = false) :
    ∃ drop, deliver conn seg (some ctx) = { deliver conn seg none with bufFullDrop := drop } := by
  unfold deliver
  split
  · exact ⟨_, rfl⟩
  · split
    · rename_i next
      unfold TcpConn.hasPlace at place
      rw [if_pos next, decide_eq_false_iff_not, Nat.not_lt, Nat.le_zero] at place
      refine ⟨(deliverInOrder conn seg none).bufFullDrop, ?_⟩
      have same : appendInOrder conn.recv seg (some ctx) = appendInOrder conn.recv seg none := by
        dsimp only [appendInOrder]
        rw [place, if_neg (by omega)]
      dsimp only [deliverInOrder]
      rw [same]
    · rename_i next
      split
      · rename_i later
        dsimp only [deliverOutOfOrder]
        by_cases room : 0 < conn.recv.freeSpaceTotal
        · rw [if_pos room, if_pos room, alone]
          have carved := (carve_hasPlace_iff tidy small next later room short window
            ctx.payloadOffset).mpr place
          obtain ⟨head, taken⟩ : ∃ head,
            head = seg.payload.take (min seg.payload.length conn.recv.freeSpaceTotal) := ⟨_, rfl⟩
          rw [← taken] at carved ⊢
          have untouched : ∃ drop, conn.recv.reorder.insert seg.seq head ctx.mbuf ctx.payloadOffset =
              ⟨conn.recv.reorder, ⟨0, drop, false⟩, []⟩ := by
            unfold ReorderQueue.insert
            split
            · exact ⟨0, rfl⟩
            · have planned : conn.recv.reorder.totalBytes =
                  conn.recv.reorder.totalBytes + 0 := rfl
              have seq := point_toNat_sub conn.rcvNxt seg.seq
              have pieces : (conn.recv.reorder.carve seg.seq head ctx.payloadOffset).toInsert =
                  [] := by
                have fits : head.length ≤ seg.payload.length := by
                  rw [taken, List.length_take]
                  omega
                have ends : (seg.seq - conn.rcvNxt).toNat + head.length ≤ width := by omega
                have plan := (tidy.carve small head (by omega) ends ctx.payloadOffset).1
                rw [seq] at plan
                cases listed : (conn.recv.reorder.carve seg.seq head ctx.payloadOffset).toInsert with
                | nil => rfl
                | cons piece rest =>
                    have positive := plan.nonempty piece (by rw [listed]; exact List.mem_cons_self ..)
                    have total := plan.total
                    rw [carved, listed, List.map_cons, List.sum_cons] at total
                    omega
              dsimp only
              rw [pieces, carved]
              exact ⟨_, rfl⟩
          rcases untouched with ⟨drop, untouched⟩
          rw [untouched]
          exact ⟨_, rfl⟩
        · rw [if_neg room, if_neg room, alone]
          exact ⟨_, rfl⟩
      · exact ⟨_, rfl⟩

theorem drainReorder_refUpdates_of_tidy {delivery : Delivery}
    (tidy : delivery.conn.recv.reorder.Tidy delivery.conn.rcvNxt width) (small : width < 2 ^ 31) :
    (drainReorder delivery).refUpdates = delivery.refUpdates := by
  dsimp only [drainReorder]
  split
  · rfl
  · dsimp only
    rw [tidy.drains_nothing small, List.append_nil]

theorem drainReorder_mbufRefRetained (delivery : Delivery) :
    (drainReorder delivery).mbufRefRetained = delivery.mbufRefRetained := by
  dsimp only [drainReorder]
  split <;> rfl

/-- Without a buffer no reference is taken or dropped. -/
theorem deliver_none_refs (tidy : conn.recv.reorder.Tidy conn.rcvNxt width)
    (small : width < 2 ^ 31) :
    (deliver conn seg none).refUpdates = [] ∧ (deliver conn seg none).mbufRefRetained = false := by
  unfold deliver
  split
  · exact ⟨rfl, rfl⟩
  · split
    · refine ⟨(drainReorder_refUpdates_of_tidy ?_ small).trans rfl,
        (drainReorder_mbufRefRetained _).trans rfl⟩
      dsimp only [appendInOrder]
      rw [seqAdd_zero]
      exact tidy
    · split
      · dsimp only [deliverOutOfOrder]
        split <;> exact ⟨rfl, rfl⟩
      · exact ⟨rfl, rfl⟩

end Delivery

/-! ### The handler -/

section Handler

variable {conn : TcpConn} {seg : ParsedSegment} {clock : Readings} {ctx : MbufInsertCtx}

theorem TcpConn.hasPlace_congr {raced : TcpConn} (same : SameReceive conn raced) :
    raced.hasPlace seg = conn.hasPlace seg := by
  unfold TcpConn.hasPlace
  rw [same.rcvNxt, same.recv]

/-- A segment that is not processed is treated alike in any buffer. -/
theorem handleEstablished_unprocessed {sendBuf : ℕ}
    (refused : ¬ ∃ opts sack ack, Accepted conn seg clock sendBuf opts sack ack)
    (mbufCtx : Option MbufInsertCtx) :
    handleEstablished conn seg clock sendBuf mbufCtx =
      handleEstablished conn seg clock sendBuf none := by
  dsimp only [handleEstablished]
  cases checks : establishedChecks conn seg with
  | error outcome => rfl
  | ok opts =>
      dsimp only
      cases passed : paws conn seg opts clock.paws with
      | missingTimestamps => rfl
      | rejected => rfl
      | passed timed expired =>
          dsimp only
          cases acked : ackPass (sackPass timed opts clock.dsack).conn seg opts clock.rtt sendBuf with
          | none => rfl
          | some ack =>
              exact absurd ⟨opts, _, ack, checks, ⟨timed, expired, passed, rfl⟩, acked⟩ refused

/-- The stages behind the ACK test, for every buffer. -/
theorem Accepted.processed {sendBuf : ℕ} {opts : TcpOpts} {sack : SackPass} {ack : AckPass}
    (accepted : Accepted conn seg clock sendBuf opts sack ack) :
    ∃ expired, ∀ mbufCtx, handleEstablished conn seg clock sendBuf mbufCtx =
      establishedData seg mbufCtx clock.rack expired sack ack := by
  rcases accepted.timed with ⟨timed, expired, passed, rfl⟩
  refine ⟨expired, ?_⟩
  intro mbufCtx
  simp [handleEstablished, accepted.checks, passed, accepted.acked]

/-- The connection the data stage of a processed segment works on. -/
theorem Accepted.raced {sendBuf : ℕ} {opts : TcpOpts} {sack : SackPass} {ack : AckPass}
    (accepted : Accepted conn seg clock sendBuf opts sack ack) :
    SameReceive conn (rackPass ack.conn clock.rack).1 :=
  (accepted.sameEdges.1.trans (ackPass_change accepted.acked).sameReceive).trans
    (rackPass_sameReceive ack.conn clock.rack)

/-- The part of an outcome that a segment in no buffer shares with one that is not kept. -/
def Dispatched.withDrop (dispatched : Dispatched) (drop : ℕ) : Dispatched :=
  { dispatched with outcome := { dispatched.outcome with bufFullDrop := drop } }

/-- A segment of which nothing is kept is treated as if it came without a buffer. -/
theorem handleEstablished_unkept (ordered : conn.Ordered) (running : conn.state = .established)
    (data : seg.payload ≠ []) (short : seg.payload.length < 65536) (alone : ctx.next = [])
    (sendBuf : ℕ) (unkept : conn.keepsData seg clock.paws = false) :
    (∃ drop, handleEstablished conn seg clock sendBuf (some ctx) =
        (handleEstablished conn seg clock sendBuf none).withDrop drop) ∧
      (handleEstablished conn seg clock sendBuf none).refUpdates = [] ∧
      (handleEstablished conn seg clock sendBuf none).outcome.mbufRefRetained = false := by
  by_cases processed : ∃ opts sack ack, Accepted conn seg clock sendBuf opts sack ack
  · rcases processed with ⟨opts, sack, ack, accepted⟩
    rcases accepted.acceptable with ⟨acceptable, known⟩
    have place : conn.hasPlace seg = false := by
      simpa [TcpConn.keepsData, acceptable, known] using unkept
    have same := accepted.raced
    have carried : carriedBytes seg none = seg.payload := List.append_nil _
    have window : (seg.seq - conn.rcvNxt).toNat + (carriedBytes seg none).length ≤ REORDER_WIDTH :=
      ordered.carried_inside acceptable data (by rw [carried]; exact short)
    rw [carried, ← same.rcvNxt] at window
    have tidy := ordered.tidy running
    rw [← same.rcvNxt, ← same.recv] at tidy
    rcases deliver_unplaced tidy (by decide) alone short window
      ((TcpConn.hasPlace_congr same).trans place) with ⟨drop, unplaced⟩
    rcases accepted.processed with ⟨expired, each⟩
    rw [each, each]
    refine ⟨⟨drop, ?_⟩, deliver_none_refs tidy (by decide)⟩
    unfold establishedData
    dsimp only
    rw [unplaced]
    rfl
  · refine ⟨⟨(handleEstablished conn seg clock sendBuf none).outcome.bufFullDrop,
      handleEstablished_unprocessed processed (some ctx)⟩, ?_⟩
    rcases handleEstablished_cases conn seg clock sendBuf none with
      ⟨silent, _⟩ | ⟨opts, sack, ack, _, accepted, _⟩
    · exact ⟨silent.refUpdates, silent.mbufRefRetained⟩
    · exact absurd ⟨opts, sack, ack, accepted⟩ processed

/-- A segment of which something is kept is accepted in one buffer and ignored without. -/
theorem handleEstablished_keeps (ordered : conn.Ordered) (running : conn.state = .established)
    (data : seg.payload ≠ []) (short : seg.payload.length < 65536) (alone : ctx.next = [])
    (sendBuf : ℕ) (keeps : conn.keepsData seg clock.paws = true) :
    0 < (handleEstablished conn seg clock sendBuf (some ctx)).outcome.delivered +
        (handleEstablished conn seg clock sendBuf (some ctx)).outcome.reassemblyQueuedBytes ∧
      (handleEstablished conn seg clock sendBuf none).outcome.delivered +
        (handleEstablished conn seg clock sendBuf none).outcome.reassemblyQueuedBytes = 0 := by
  simp only [TcpConn.keepsData, Bool.and_eq_true] at keeps
  rcases keeps with ⟨⟨acceptable, known⟩, place⟩
  rcases exists_accepted sendBuf acceptable known with ⟨opts, sack, ack, accepted⟩
  have same := accepted.raced
  have carried : carriedBytes seg none = seg.payload := List.append_nil _
  have window : (seg.seq - conn.rcvNxt).toNat + (carriedBytes seg none).length ≤ REORDER_WIDTH :=
    ordered.carried_inside acceptable data (by rw [carried]; exact short)
  rw [carried, ← same.rcvNxt] at window
  have tidy := ordered.tidy running
  rw [← same.rcvNxt, ← same.recv] at tidy
  rcases accepted.processed with ⟨expired, each⟩
  rw [each, each]
  exact ⟨deliver_accepts data tidy (by decide) alone short window
    ((TcpConn.hasPlace_congr same).trans place), deliver_none_accepted tidy (by decide)⟩

end Handler

/-! ### The engine -/

/-- The engine after a dispatch, for a segment whose reference is given back. -/
theorem Engine.written_unkept {engine : Engine} {dispatched : Dispatched}
    (untouched : dispatched.refUpdates = []) (given : dispatched.outcome.mbufRefRetained = false)
    (handle : ConnHandle) (ctx : MbufInsertCtx) :
    engine.written handle (some ctx) dispatched = engine.written handle none dispatched := by
  have back : engine.rxRefs.applyAll (bumpRefs (some ctx) ++ rollbackRefs (some ctx) false) =
      engine.rxRefs :=
    engine.rxRefs.applyAll_update_neg ctx.mbuf.addr 1
  dsimp only [Engine.written]
  rw [untouched, given, List.append_nil, back]
  rfl

section Engine

variable {engine : Engine} {handle : ConnHandle} {conn : TcpConn} {seg : ParsedSegment}
  {ctx : MbufInsertCtx} {env : InputEnv}

/-- A segment of which nothing is kept leaves the engine as it would without a buffer. -/
theorem Engine.tcpInput_unkept (present : engine.flowTable.get handle = some conn)
    (ordered : conn.Ordered) (running : conn.state = .established) (data : seg.payload ≠ [])
    (short : seg.payload.length < 65536) (alone : ctx.next = [])
    (unkept : conn.keepsData seg env.clock.paws = false) :
    engine.tcpInput handle seg (some ctx) env = engine.tcpInput handle seg none env := by
  have established : ∀ mbufCtx, dispatch conn seg env.clock engine.cfg.sendBufferBytes mbufCtx =
      handleEstablished conn seg env.clock engine.cfg.sendBufferBytes mbufCtx := by
    intro mbufCtx
    rw [dispatch, running]
  rcases handleEstablished_unkept ordered running data short alone
    engine.cfg.sendBufferBytes unkept with ⟨⟨drop, same⟩, untouched, given⟩
  have given : ∀ engine : Engine, engine.written handle (some ctx) (Dispatched.withDrop _ drop) =
      engine.written handle none (Dispatched.withDrop _ drop) :=
    fun engine => Engine.written_unkept untouched given handle ctx
  dsimp only [Engine.tcpInput]
  rw [present]
  dsimp only
  rw [established, established, same, given]
  rfl

theorem Engine.acceptedBytes_established (present : engine.flowTable.get handle = some conn)
    (running : conn.state = .established) (mbufCtx : Option MbufInsertCtx) :
    engine.acceptedBytes handle seg mbufCtx env =
      (handleEstablished conn seg env.clock engine.cfg.sendBufferBytes mbufCtx).outcome.delivered +
        (handleEstablished conn seg env.clock engine.cfg.sendBufferBytes
          mbufCtx).outcome.reassemblyQueuedBytes := by
  dsimp only [Engine.acceptedBytes]
  rw [present]
  dsimp only [dispatch]
  rw [running]

end Engine

/-! ### The station -/

/-- What comes in besides frames carries no more than a frame of one buffer. -/
def StationOp.framed : StationOp → Bool
  | .system op => op.framed
  | _ => true

theorem SystemOp.short_of_framed {op : SystemOp} (framed : op.framed = true) : op.short = true := by
  cases op with
  | call op =>
      cases op with
      | segment handle seg mbufCtx env =>
          simp only [SystemOp.framed, Bool.and_eq_true, decide_eq_true_iff] at framed
          rcases framed with ⟨short, alone⟩
          refine decide_eq_true (Nat.lt_of_le_of_lt (Nat.le_of_eq ?_) short)
          cases mbufCtx with
          | none => simp [carriedBytes, chainBytes]
          | some ctx =>
              have nothing : ctx.next = [] := List.isEmpty_iff.mp alone
              simp [carriedBytes, chainBytes, nothing]
      | _ => rfl
  | _ => rfl

namespace Station

variable {station : Station}

/-- The next number that the connection of a handle expects. -/
def rcvNxt (station : Station) (handle : ConnHandle) : Option Seq :=
  (station.host.engine.flowTable.get handle).map TcpConn.rcvNxt

/-- The bytes of every `Readable` event pushed for a connection. -/
def deliveredBytes (station : Station) (handle : ConnHandle) : List UInt8 :=
  station.host.engine.events.pushed.flatMap (InternalEvent.bytesFor handle)

/-- Two ways to receive a frame come to the same: the bytes accepted, the
resulting `rcv_nxt` and the bytes delivered in whatever follows. -/
def shapeless (station : Station) (handle : ConnHandle) (one other : RxChain)
    (olFlags : BitVec 64) (env : InputEnv) : Prop :=
  let left := station.dispatchOneRealMbuf one olFlags env
  let right := station.dispatchOneRealMbuf other olFlags env
  left.2 = right.2 ∧ left.1.rcvNxt handle = right.1.rcvNxt handle ∧
    ∀ later : List StationOp,
      (later.foldl step left.1).deliveredBytes handle =
        (later.foldl step right.1).deliveredBytes handle

/-- What comes in is framed for the host too. -/
theorem step_framed {op : StationOp} (framed : op.framed = true) :
    (station.step op).host = station.host ∨
      ∃ call, call.framed = true ∧ (station.step op).host = station.host.systemStep call := by
  cases op with
  | connect peerIp peerPort hint localAddr iss ourMss opts synSent nowNs =>
      dsimp only [Station.step, connectWithOpts]
      split
      · exact .inl rfl
      · split
        · exact .inl rfl
        · split
          · exact .inl rfl
          · exact .inr ⟨.call (.connect _ iss ourMss opts synSent nowNs), rfl, rfl⟩
  | addLocalIp ip => exact .inl (station.dpdkNetEngineAddLocalIp_host ip)
  | frame frame env =>
      dsimp only [Station.step, receive]
      split
      · rename_i handle seg ip routed
        exact .inr ⟨_, handleIpv4_framed routed env, rfl⟩
      · exact .inl rfl
  | system op => exact .inr ⟨op, framed, rfl⟩

theorem Ordered.step (ordered : station.host.Ordered) {op : StationOp} (framed : op.framed = true) :
    (station.step op).host.Ordered := by
  rcases step_framed framed with same | ⟨call, short, same⟩ <;> rw [same]
  · exact ordered
  · exact Host.Ordered.step ordered (SystemOp.short_of_framed short)

section Received

variable {whole : RxMbuf} {chain : RxChain} {olFlags : BitVec 64} {frame : RxFrame}
  {handle : ConnHandle} {seg : ParsedSegment} {ip : L3Decoded} {conn : TcpConn} {env : InputEnv}

/-- A frame in a chain is the packet it is in one buffer, without the buffer. -/
theorem rxFrame_chain (received : station.rxFrame ⟨whole, []⟩ olFlags = some frame)
    (content : (chain.head :: chain.next).flatMap RxMbuf.data = whole.data) :
    frame.mbuf = some whole ∧ frame.nbSegs = 1 ∧
      station.rxFrame chain olFlags =
        some { frame with mbuf := some chain.head, nbSegs := chain.nbSegs } := by
  unfold rxFrame at received ⊢
  rw [mbufDataSliceForRx_eq, List.flatMap_cons, List.flatMap_nil, List.append_nil] at received
  rw [mbufDataSliceForRx_eq, content]
  dsimp only at received ⊢
  cases decoded : l2Decode whole.data station.host.engine.cfg.ourMac with
  | error _ =>
      rw [decoded] at received
      cases received
  | ok l2 =>
      rw [decoded] at received
      dsimp only at received ⊢
      split at received
      · rename_i ipv4
        rcases Option.some.inj received with rfl
        exact ⟨rfl, rfl, if_pos ipv4⟩
      · cases received

/-- What the station does with a frame in one buffer. -/
theorem dispatchOneRealMbuf_whole (received : station.rxFrame ⟨whole, []⟩ olFlags = some frame)
    (content : (chain.head :: chain.next).flatMap RxMbuf.data = whole.data)
    (routed : station.handleIpv4 frame = (.matched handle seg, some ip)) (data : seg.payload ≠ [])
    (env : InputEnv) :
    ∃ ctx, ctx.next = [] ∧
      station.dispatchOneRealMbuf ⟨whole, []⟩ olFlags env =
        ({ station with host := station.host.step (.segment handle seg (some ctx) env) },
          station.host.engine.acceptedBytes handle seg (some ctx) env) := by
  rcases rxFrame_chain received content with ⟨mbuf, one, _⟩
  obtain ⟨ctx, alone, backed⟩ : ∃ ctx, ctx.next = [] ∧ mbufCtx frame ip seg = some ctx := by
    unfold mbufCtx
    rw [mbuf, one, Option.bind_some, if_pos (by simp [data])]
    exact ⟨_, rfl, rfl⟩
  refine ⟨ctx, alone, ?_⟩
  dsimp only [dispatchOneRealMbuf, receive]
  rw [received]
  dsimp only
  rw [routed]
  dsimp only
  rw [backed]

/-- What the station does with a frame in a chain. -/
theorem dispatchOneRealMbuf_chain (received : station.rxFrame ⟨whole, []⟩ olFlags = some frame)
    (content : (chain.head :: chain.next).flatMap RxMbuf.data = whole.data)
    (more : chain.next ≠ [])
    (routed : station.handleIpv4 frame = (.matched handle seg, some ip)) (env : InputEnv) :
    station.dispatchOneRealMbuf chain olFlags env =
      ({ station with host := station.host.step (.segment handle seg none env) },
        station.host.engine.acceptedBytes handle seg none env) := by
  rcases rxFrame_chain received content with ⟨_, _, again⟩
  have several : ¬ chain.nbSegs = 1 := by
    have links := List.length_pos_iff.mpr more
    unfold RxChain.nbSegs
    omega
  have unbacked : mbufCtx { frame with mbuf := some chain.head, nbSegs := chain.nbSegs } ip seg =
      none := by
    simp [mbufCtx, several]
  have same : station.handleIpv4 { frame with mbuf := some chain.head, nbSegs := chain.nbSegs } =
      (.matched handle seg, some ip) := routed
  dsimp only [dispatchOneRealMbuf, receive]
  rw [again]
  dsimp only
  rw [same]
  dsimp only
  rw [unbacked]

theorem handleIpv4_short (routed : station.handleIpv4 frame = (.matched handle seg, some ip))
    (env : InputEnv) : seg.payload.length < 65536 := by
  have framed := handleIpv4_framed routed env
  rw [SystemOp.framed, Bool.and_eq_true_iff] at framed
  exact of_decide_eq_true framed.1

/-- A segment of which nothing is kept has no shape. -/
theorem shapeless_of_unkept (ordered : station.host.Ordered)
    (received : station.rxFrame ⟨whole, []⟩ olFlags = some frame)
    (content : (chain.head :: chain.next).flatMap RxMbuf.data = whole.data)
    (more : chain.next ≠ [])
    (routed : station.handleIpv4 frame = (.matched handle seg, some ip))
    (present : station.host.engine.flowTable.get handle = some conn)
    (running : conn.state = .established) (data : seg.payload ≠ [])
    (unkept : conn.keepsData seg env.clock.paws = false) :
    station.shapeless handle ⟨whole, []⟩ chain olFlags env := by
  have short := handleIpv4_short routed env
  rcases dispatchOneRealMbuf_whole received content routed data env with ⟨ctx, alone, left⟩
  have right := dispatchOneRealMbuf_chain received content more routed env
  have engines := Engine.tcpInput_unkept present (ordered handle conn present) running data short
    alone unkept
  have hosts : station.host.step (.segment handle seg (some ctx) env) =
      station.host.step (.segment handle seg none env) := by
    dsimp only [Host.step]
    rw [engines]
  rcases handleEstablished_unkept (ordered handle conn present) running data short
    alone station.host.engine.cfg.sendBufferBytes unkept with ⟨⟨drop, same⟩, _⟩
  have counts : station.host.engine.acceptedBytes handle seg (some ctx) env =
      station.host.engine.acceptedBytes handle seg none env := by
    rw [Engine.acceptedBytes_established present running,
      Engine.acceptedBytes_established present running, same]
    rfl
  dsimp only [shapeless]
  rw [left, right, hosts, counts]
  exact ⟨rfl, rfl, fun _ => rfl⟩

end Received

end Station

/-- In every run, a data segment of an ESTABLISHED connection is treated alike in
one buffer and in a chain exactly when nothing of it would be kept. -/
theorem buffer_shape_invisible_iff {cfg : EngineConfig} {maxConnections eventSoftCap : ℕ}
    {secondaryLocalIps : List (BitVec 32)} {rxCksumOffloadActive : Bool}
    {lastEphemeralPort : UInt16} {station : Station}
    (run : Run.Reaches Station.step (fun _ op => op.framed = true)
      (Station.start cfg maxConnections eventSoftCap secondaryLocalIps rxCksumOffloadActive
        lastEphemeralPort) station)
    {whole : RxMbuf} {chain : RxChain} {olFlags : BitVec 64} {frame : RxFrame}
    {handle : ConnHandle} {seg : ParsedSegment} {ip : L3Decoded} {conn : TcpConn} (env : InputEnv)
    (content : (chain.head :: chain.next).flatMap RxMbuf.data = whole.data)
    (more : chain.next ≠ [])
    (received : station.rxFrame ⟨whole, []⟩ olFlags = some frame)
    (routed : station.handleIpv4 frame = (.matched handle seg, some ip))
    (present : station.host.engine.flowTable.get handle = some conn)
    (running : conn.state = .established) (data : seg.payload ≠ []) :
    station.shapeless handle ⟨whole, []⟩ chain olFlags env ↔
      conn.keepsData seg env.clock.paws = false := by
  have ordered : station.host.Ordered := by
    apply run.invariant
    · exact Host.ordered_start cfg maxConnections eventSoftCap
    · exact fun station op before framed => Station.Ordered.step before framed
  constructor
  · intro same
    by_contra kept
    have short := Station.handleIpv4_short routed env
    rcases Station.dispatchOneRealMbuf_whole received content routed data env with
      ⟨ctx, alone, left⟩
    have right := Station.dispatchOneRealMbuf_chain received content more routed env
    have counts := same.1
    rw [left, right, Engine.acceptedBytes_established present running,
      Engine.acceptedBytes_established present running] at counts
    rcases handleEstablished_keeps (ordered handle conn present) running data short
      alone station.host.engine.cfg.sendBufferBytes (Bool.eq_true_of_not_eq_false kept) with
      ⟨some_kept, none_kept⟩
    omega
  · intro unkept
    exact Station.shapeless_of_unkept ordered received content more routed present running data
      unkept

/-- A connection that has received the answer to its SYN. -/
def joined : Station :=
  (connectedFrom 0#32).step (.frame (synAckTo 0x0a000002#32) (inputAt 2000))

theorem joined_reached :
    Run.Reaches Station.step (fun _ op => op.framed = true) (Station.start quickCfg 1 64 [] false 0)
      joined := by
  unfold joined connectedFrom
  rw [List.foldl_cons, List.foldl_cons, List.foldl_nil]
  exact .tail _ (.tail _ (.tail _ .refl rfl) rfl) rfl

/-- A segment of the peer with three bytes. -/
def threeBytes (seq : Seq) : ParsedSegment :=
  { srcPort := 5000
    dstPort := 40000
    seq := seq
    ack := 101#32
    flags := TCP_ACK
    window := 5000
    headerLen := 20
    payload := [1, 2, 3]
    options := [] }

/-- The frame that carries it. -/
def threeBytesFrame (seq : Seq) : List UInt8 :=
  (buildSegment
    { srcMac := Vector.replicate 6 2
      dstMac := quickCfg.ourMac
      srcIp := 0x0a000001#32
      dstIp := 0x0a000002#32
      srcPort := 5000
      dstPort := 40000
      seq := seq
      ack := 101#32
      flags := TCP_ACK
      window := 5000
      options := {}
      payload := [1, 2, 3] } 57).getD []

/-- A buffer with a part of a frame. -/
def buffer (addr : ℕ) (bytes : List UInt8) : RxMbuf :=
  ⟨addr, bytes.take 65535, by rw [List.length_take]; omega⟩

/-- The frame in two buffers, split behind the first byte of its payload. -/
def inTwo (bytes : List UInt8) : RxChain :=
  ⟨buffer 7 (bytes.take 55), [buffer 8 (bytes.drop 55)]⟩

/-- The packet of the frame in one buffer. -/
def threeBytesPacket (seq : Seq) : RxFrame :=
  { payload := (threeBytesFrame seq).drop ETH_HDR_LEN
    olFlags := 0#64
    mbuf := some (buffer 7 (threeBytesFrame seq))
    nbSegs := 1
    ethPayloadOffset := ETH_HDR_LEN }

/-- What is decoded of a packet with three bytes of data. -/
def threeBytesHeader : L3Decoded :=
  { protocol := IPPROTO_TCP
    srcIp := 0x0a000001#32
    dstIp := 0x0a000002#32
    headerLen := 20
    totalLen := 43
    ttl := 64 }

/-- Bytes that were received before are dropped in any shape. -/
theorem buffer_shape_invisible_repeated :
    joined.shapeless 1 ⟨buffer 7 (threeBytesFrame 190#32), []⟩ (inTwo (threeBytesFrame 190#32)) 0#64
      (inputAt 3000) := by
  have opened : (joined.host.engine.flowTable.get 1).any (fun conn =>
      decide (conn.state = .established) && !conn.keepsData (threeBytes 190#32) 3000) = true := by
    decide +kernel
  rcases (Option.any_eq_true _ _).mp opened with ⟨conn, present, facts⟩
  simp only [Bool.and_eq_true, decide_eq_true_iff, Bool.not_eq_true'] at facts
  have received : joined.rxFrame ⟨buffer 7 (threeBytesFrame 190#32), []⟩ 0#64 =
      some (threeBytesPacket 190#32) := by
    decide +kernel
  have routed : joined.handleIpv4 (threeBytesPacket 190#32) =
      (.matched 1 (threeBytes 190#32), some threeBytesHeader) := by
    decide +kernel
  exact (buffer_shape_invisible_iff joined_reached (inputAt 3000) (by decide +kernel)
    (by decide +kernel) received routed present facts.1 (by decide +kernel)).mpr facts.2

/-- The next bytes of the stream are accepted in one buffer and dropped in two. -/
theorem buffer_shape_visible :
    ¬ ∀ station, Run.Reaches Station.step (fun _ op => op.framed = true)
        (Station.start quickCfg 1 64 [] false 0) station →
      ∀ (whole : RxMbuf) (chain : RxChain) (olFlags : BitVec 64) (frame : RxFrame)
        (handle : ConnHandle) (seg : ParsedSegment) (ip : L3Decoded) (conn : TcpConn)
        (env : InputEnv),
        (chain.head :: chain.next).flatMap RxMbuf.data = whole.data →
        station.rxFrame ⟨whole, []⟩ olFlags = some frame →
        station.handleIpv4 frame = (.matched handle seg, some ip) →
        station.host.engine.flowTable.get handle = some conn →
        conn.state = .established → seg.payload ≠ [] →
        station.shapeless handle ⟨whole, []⟩ chain olFlags env := by
  intro shapeless
  have opened : (joined.host.engine.flowTable.get 1).any (fun conn =>
      decide (conn.state = .established)) = true := by
    decide +kernel
  rcases (Option.any_eq_true _ _).mp opened with ⟨conn, present, running⟩
  have counts := (shapeless joined joined_reached (buffer 7 (threeBytesFrame 201#32))
    (inTwo (threeBytesFrame 201#32)) 0#64 (threeBytesPacket 201#32) 1 (threeBytes 201#32)
    threeBytesHeader conn (inputAt 3000) (by decide +kernel) (by decide +kernel)
    (by decide +kernel) present (of_decide_eq_true running) (by decide +kernel)).1
  have whole : (joined.dispatchOneRealMbuf ⟨buffer 7 (threeBytesFrame 201#32), []⟩ 0#64
      (inputAt 3000)).2 = 3 := by
    decide +kernel
  have split : (joined.dispatchOneRealMbuf (inTwo (threeBytesFrame 201#32)) 0#64
      (inputAt 3000)).2 = 0 := by
    decide +kernel
  rw [whole, split] at counts
  cases counts

end DpdkTcp
