import DpdkTcp.Receive.Overlap
import DpdkTcp.Window.Honour

/-!
# The advertised right edge

The right edge is `rcv_nxt` plus the free receive space, rounded down to the
scale and cut to the 16-bit field. Bytes taken in order move `rcv_nxt` by what
they occupy, a drain of the reorder queue moves bytes from one queue to the
other, and the application only frees space. Bytes buffered ahead of a hole
take space and do not move `rcv_nxt`: they alone pull the edge to the left.
-/

namespace DpdkTcp

/-- The segment is buffered ahead of a hole. -/
def TcpConn.buffersAhead (conn : TcpConn) (seg : ParsedSegment) (mbufCtx : Option MbufInsertCtx)
    (nowNs : ℕ) : Bool :=
  conn.state = .established && conn.acceptable seg nowNs && conn.ackKnown seg &&
    !seg.payload.isEmpty && seqLt conn.rcvNxt seg.seq && 0 < conn.recv.freeSpaceTotal &&
    mbufCtx.isSome

/-- No segment is buffered ahead of a hole in this step. -/
def Host.inOrder (host : Host) : SystemOp → Bool
  | .call (.segment handle seg mbufCtx env) =>
      (host.engine.flowTable.get handle).all fun conn =>
        !conn.buffersAhead seg mbufCtx env.clock.paws
  | _ => true

/-! ### Free space -/

theorem drainSegments_lengths (segs : List OooSegment) (rcvNxt : Seq) (capRoom totalBytes : ℕ) :
    ((drainSegments segs rcvNxt capRoom totalBytes).appended.map InOrderSegment.len).sum =
        (drainSegments segs rcvNxt capRoom totalBytes).bytesAppended ∧
      (drainSegments segs rcvNxt capRoom totalBytes).totalBytes ≤ totalBytes := by
  induction segs generalizing rcvNxt capRoom totalBytes with
  | nil => exact ⟨rfl, Nat.le_refl _⟩
  | cons seg rest ih =>
      dsimp only [drainSegments]
      split
      · exact ⟨rfl, Nat.le_refl _⟩
      · split
        · rcases ih rcvNxt capRoom (totalBytes - seg.len) with ⟨lengths, fewer⟩
          exact ⟨lengths, by dsimp only; omega⟩
        · generalize asU16 (min (seg.len - asU16 (rcvNxt - seg.seq).toNat) capRoom) = appended
          rcases ih (seqAdd rcvNxt appended) (capRoom - appended) (totalBytes - seg.len) with
            ⟨lengths, fewer⟩
          split
          · refine ⟨?_, by dsimp only; omega⟩
            rw [List.map_cons, List.sum_cons, lengths]
          · exact ⟨lengths, by dsimp only; omega⟩

/-- An in-order segment occupies at most the bytes it is counted for. -/
theorem appendInOrder_buffered (recv : RecvQueue) (seg : ParsedSegment)
    (mbufCtx : Option MbufInsertCtx) :
    (appendInOrder recv seg mbufCtx).recv.bufferedBytes ≤
      recv.bufferedBytes + (appendInOrder recv seg mbufCtx).delivered := by
  dsimp only [appendInOrder]
  cases mbufCtx with
  | none => exact Nat.le_add_right _ _
  | some ctx =>
      dsimp only
      split
      · generalize min seg.payload.length recv.freeSpace = headTake
        have head : (({ recv := recv } : Appended).push ctx.mbuf ctx.payloadOffset
            headTake).recv.bufferedBytes = recv.bufferedBytes + asU16 headTake :=
          recv.bufferedBytes_pushed ⟨ctx.mbuf, ctx.payloadOffset, asU16 headTake⟩
        have cut : asU16 headTake ≤ headTake := Nat.mod_le _ _
        have chain := appendChain_extends ctx.next
          (({ recv := recv } : Appended).push ctx.mbuf ctx.payloadOffset headTake)
        rw [chain.buffered, chain.delivered, head]
        dsimp only [Appended.push]
        omega
      · exact Nat.le_add_right _ _

/-- What a drain takes from the reorder queue it appends or drops. -/
theorem drainReorder_freeSpaceTotal (delivery : Delivery) :
    delivery.delivered + delivery.conn.recv.freeSpaceTotal ≤
      (drainReorder delivery).delivered + (drainReorder delivery).conn.recv.freeSpaceTotal := by
  dsimp only [drainReorder]
  split
  · exact Nat.le_refl _
  · rcases drainSegments_lengths delivery.conn.recv.reorder.segments delivery.conn.rcvNxt
      delivery.conn.recv.freeSpace delivery.conn.recv.reorder.totalBytes with ⟨lengths, fewer⟩
    dsimp only [RecvQueue.freeSpaceTotal, RecvQueue.bufferedBytes]
    rw [List.map_append, List.sum_append, lengths]
    omega

/-- Beside buffering ahead of a hole, space goes only to bytes that move `rcv_nxt`. -/
theorem deliver_freeSpaceTotal {conn : TcpConn} {seg : ParsedSegment}
    {mbufCtx : Option MbufInsertCtx}
    (inOrder : seg.payload = [] ∨ seqLt conn.rcvNxt seg.seq = false ∨
      conn.recv.freeSpaceTotal = 0 ∨ mbufCtx = none) :
    conn.recv.freeSpaceTotal ≤
      (deliver conn seg mbufCtx).delivered + (deliver conn seg mbufCtx).conn.recv.freeSpaceTotal := by
  have unchanged : conn.recv.freeSpaceTotal ≤ 0 + conn.recv.freeSpaceTotal := by omega
  unfold deliver
  split
  · exact unchanged
  · rename_i data
    split
    · refine Nat.le_trans ?_ (drainReorder_freeSpaceTotal _)
      have buffered := appendInOrder_buffered conn.recv seg mbufCtx
      rcases appendInOrder_room conn.recv seg mbufCtx with ⟨cap, reorder, _⟩
      dsimp only [RecvQueue.freeSpaceTotal]
      rw [cap, reorder]
      omega
    · split
      · rename_i ahead
        dsimp only [deliverOutOfOrder]
        split
        · rename_i room
          cases mbufCtx with
          | none => exact unchanged
          | some ctx =>
              rcases inOrder with empty | behind | full | none
              · simp [empty] at data
              · rw [ahead] at behind
                cases behind
              · omega
              · cases none
        · exact unchanged
      · exact unchanged

theorem splitDelivered_rest_le (count : ℕ) (segs : List InOrderSegment) :
    ((splitDelivered count segs).rest.map InOrderSegment.len).sum ≤
      (segs.map InOrderSegment.len).sum := by
  induction segs generalizing count with
  | nil => exact Nat.le_refl _
  | cons seg rest ih =>
      dsimp only [splitDelivered]
      split
      · exact Nat.le_refl _
      · split
        · rw [List.map_cons, List.sum_cons]
          exact Nat.le_trans (ih _) (Nat.le_add_left _ _)
        · simp only [List.map_cons, List.sum_cons]
          omega

theorem freeSpaceTotal_handOver (conn : TcpConn) (delivered : ℕ) :
    conn.recv.freeSpaceTotal ≤ (conn.handOver delivered).recv.freeSpaceTotal := by
  dsimp only [TcpConn.handOver, RecvQueue.freeSpaceTotal, RecvQueue.bufferedBytes]
  split
  · have fewer := splitDelivered_rest_le delivered conn.recv.bytes
    omega
  · exact Nat.le_refl _

theorem dispatch_freeSpaceTotal {conn : TcpConn} (opened : conn.state ≠ .synSent)
    {seg : ParsedSegment} {clock : Readings} {mbufCtx : Option MbufInsertCtx}
    (inOrder : conn.buffersAhead seg mbufCtx clock.paws = false) (sendBuf : ℕ) :
    conn.recv.freeSpaceTotal ≤ (dispatch conn seg clock sendBuf mbufCtx).taken conn +
      (dispatch conn seg clock sendBuf mbufCtx).conn.recv.freeSpaceTotal := by
  unfold Dispatched.taken
  cases dispatch_receives opened seg clock sendBuf mbufCtx with
  | idle _ recv _ _ _ =>
      rw [recv]
      omega
  | data running acceptable known raced same _ _ _ delivered recv _ =>
      have space : raced.recv.freeSpaceTotal ≤ (deliver raced seg mbufCtx).delivered +
          (deliver raced seg mbufCtx).conn.recv.freeSpaceTotal := by
        apply deliver_freeSpaceTotal
        simp only [TcpConn.buffersAhead, running, acceptable, known, decide_true, Bool.true_and,
          Bool.and_eq_false_iff, Bool.not_eq_false', List.isEmpty_iff, decide_eq_false_iff_not,
          Option.isSome_eq_false_iff, Option.isNone_iff_eq_none] at inOrder
        rw [same.recv, same.rcvNxt]
        rcases inOrder with ((empty | behind) | full) | none
        · exact Or.inl empty
        · exact Or.inr (Or.inl behind)
        · exact Or.inr (Or.inr (Or.inl (by omega)))
        · exact Or.inr (Or.inr (Or.inr none))
      rw [delivered, recv]
      rw [same.recv] at space
      omega

/-! ### Adverts -/

/-- How far behind `rcv_nxt` the window of a connection can reach, before rounding. -/
def TcpConn.reach (conn : TcpConn) : ℕ :=
  min conn.recv.freeSpaceTotal (65535 * 2 ^ conn.wsShiftOut)

/-- The rounding takes less than one unit of the scale. -/
theorem TcpConn.offered_advert (conn : TcpConn) (ack : ℕ) :
    (conn.advert ack).offered ≤ conn.reach ∧
      conn.reach < (conn.advert ack).offered + 2 ^ conn.wsShiftOut := by
  have positive : 0 < 2 ^ conn.wsShiftOut := Nat.two_pow_pos _
  have offered : (conn.advert ack).offered =
      min (conn.recv.freeSpaceTotal / 2 ^ conn.wsShiftOut * 2 ^ conn.wsShiftOut)
        (65535 * 2 ^ conn.wsShiftOut) :=
    (Nat.mul_min_mul_right _ _ _).symm
  have below := Nat.div_mul_le_self conn.recv.freeSpaceTotal (2 ^ conn.wsShiftOut)
  have above := Nat.lt_div_mul_add positive (a := conn.recv.freeSpaceTotal)
  rw [offered, TcpConn.reach]
  omega

/-- A later right edge is not to the left of an earlier one, up to rounding. -/
def Advert.KeptBy (earlier later : Advert) : Prop :=
  earlier.edge < later.edge + 2 ^ later.shift

/-- Whether an edge is kept can be computed. -/
instance (earlier later : Advert) : Decidable (earlier.KeptBy later) :=
  inferInstanceAs (Decidable (_ < _))

namespace Ledger

variable {ledger : Ledger} {op : SystemOp} {handle : ConnHandle} {conn after : TcpConn}

/-- What was advertised ends where the window of the connection can still reach. -/
def Covers (ledger : Ledger) (handle : ConnHandle) (conn : TcpConn) : Prop :=
  ∀ advert ∈ ledger.adverts handle, advert.edge ≤ ledger.acked handle + conn.reach

/-- A new advert keeps the edges of the old ones. -/
theorem keptBy_advert {shown : TcpConn} {ack : ℕ} {earlier : Advert}
    (before : earlier.edge ≤ ack + shown.reach) : earlier.KeptBy (shown.advert ack) := by
  have offered := (shown.offered_advert ack).2
  have edge : (shown.advert ack).edge = ack + (shown.advert ack).offered := rfl
  have shift : (shown.advert ack).shift = shown.wsShiftOut := rfl
  rw [Advert.KeptBy, edge, shift]
  omega

/-- The window after a dispatch reaches as far as the window before it. -/
theorem dispatch_reach {seg : ParsedSegment} {mbufCtx : Option MbufInsertCtx} {env : InputEnv}
    (present : ledger.host.engine.flowTable.get handle = some conn)
    (opened : conn.state ≠ .synSent)
    (inOrder : ledger.host.inOrder (.call (.segment handle seg mbufCtx env)) = true) :
    ledger.acked handle + conn.reach ≤
      ledger.ackedAfter handle (.call (.segment handle seg mbufCtx env)) +
        (dispatch conn seg env.clock ledger.host.engine.cfg.sendBufferBytes mbufCtx).conn.reach := by
  have refused : conn.buffersAhead seg mbufCtx env.clock.paws = false := by
    simpa [Host.inOrder, present] using inOrder
  have space := dispatch_freeSpaceTotal opened refused ledger.host.engine.cfg.sendBufferBytes
  have owner := dispatch_sameOwner opened seg env.clock ledger.host.engine.cfg.sendBufferBytes
    mbufCtx
  rw [ackedAfter_segment present, if_neg opened]
  unfold TcpConn.reach
  rw [owner.wsShiftOut]
  omega

theorem pairwise_advertised (ledger : Ledger) (handle : ConnHandle) (op : SystemOp) :
    (ledger.advertised handle op).Pairwise Advert.KeptBy := by
  unfold advertised
  split
  · cases (ledger.host.showing handle _).map _ with
    | none => exact .nil
    | some advert => exact List.pairwise_singleton _ _
  · exact .nil

/-- What a connection shows reaches as far as the connection did before. -/
theorem reach_of_advertised (present : ledger.host.engine.flowTable.get handle = some conn)
    (opened : conn.state ≠ .synSent) (inOrder : ledger.host.inOrder op = true) {advert : Advert}
    (member : advert ∈ ledger.advertised handle op) :
    ∃ shown : TcpConn, advert = shown.advert (ledger.ackedAfter handle op) ∧
      ledger.acked handle + conn.reach ≤ ledger.ackedAfter handle op + shown.reach := by
  by_cases beside : ∀ seg mbufCtx env, op ≠ .call (.segment handle seg mbufCtx env)
  · refine ⟨conn, (mem_advertised_beside present beside member).2, ?_⟩
    rw [ackedAfter_beside beside]
  · simp only [ne_eq, not_forall, not_not] at beside
    rcases beside with ⟨seg, mbufCtx, env, rfl⟩
    refine ⟨_, (mem_advertised_segment present rfl member).2, ?_⟩
    exact dispatch_reach present opened inOrder

theorem Covers.step (before : ledger.Covers handle conn) (placed : ledger.Placed handle conn)
    (present : ledger.host.engine.flowTable.get handle = some conn)
    (inOrder : ledger.host.inOrder op = true)
    (live : (ledger.step op).host.engine.flowTable.get handle = some after) :
    (ledger.step op).Covers handle after := by
  have received := ledger.host.systemStep_receiver op live
  intro advert member
  rw [step_adverts present, List.mem_append] at member
  dsimp only [Ledger.step]
  rw [present] at received
  cases received with
  | kept same state beside =>
      have reach : after.reach = conn.reach := by
        unfold TcpConn.reach
        rw [same.recv, same.wsShiftOut]
      rw [ackedAfter_beside beside, reach]
      rcases member with old | new
      · exact before advert old
      · rcases mem_advertised_beside present beside new with ⟨_, rfl⟩
        rw [ackedAfter_beside beside]
        exact Nat.add_le_add_left (conn.offered_advert _).1 _
  | segment seg mbufCtx env called dispatched processed same state =>
      subst called
      have reach : dispatched.conn.reach ≤ after.reach := by
        have space := freeSpaceTotal_handOver dispatched.conn dispatched.outcome.delivered
        have shift : after.wsShiftOut = dispatched.conn.wsShiftOut := same.wsShiftOut
        unfold TcpConn.reach
        rw [same.recv, shift]
        omega
      rcases member with old | new
      · by_cases opening : conn.state = .synSent
        · rw [placed.silent opening] at old
          cases old
        · have moved := dispatch_reach present opening inOrder
          rw [← processed] at moved
          have within := before advert old
          omega
      · rcases mem_advertised_segment present processed new with ⟨_, rfl⟩
        exact Nat.le_trans (Nat.add_le_add_left (dispatched.conn.offered_advert _).1 _)
          (Nat.add_le_add_left reach _)

/-- The edges advertised so far never moved left, and the next one will not. -/
structure Steady (ledger : Ledger) : Prop where
  placed : ∀ handle conn, ledger.host.engine.flowTable.get handle = some conn →
    ledger.Placed handle conn
  covers : ∀ handle conn, ledger.host.engine.flowTable.get handle = some conn →
    ledger.Covers handle conn
  ordered : ∀ handle, (ledger.adverts handle).Pairwise Advert.KeptBy

theorem Steady.step (before : ledger.Steady) (inOrder : ledger.host.inOrder op = true) :
    (ledger.step op).Steady := by
  refine ⟨fun handle conn live => Placed.step before.placed live, ?_, ?_⟩
  · intro handle after live
    cases present : ledger.host.engine.flowTable.get handle with
    | none =>
        intro advert member
        rw [step_adverts_absent present] at member
        cases member
    | some conn =>
        exact (before.covers handle conn present).step (before.placed handle conn present) present
          inOrder live
  · intro handle
    cases present : ledger.host.engine.flowTable.get handle with
    | none =>
        rw [step_adverts_absent present]
        exact .nil
    | some conn =>
        rw [step_adverts present, List.pairwise_append]
        refine ⟨before.ordered handle, pairwise_advertised ledger handle op, ?_⟩
        intro earlier old later new
        by_cases opening : conn.state = .synSent
        · rw [(before.placed handle conn present).silent opening] at old
          cases old
        · rcases reach_of_advertised present opening inOrder new with ⟨shown, rfl, reach⟩
          exact keptBy_advert
            (Nat.le_trans (before.covers handle conn present earlier old) reach)

theorem steady_start (cfg : EngineConfig) (maxConnections eventSoftCap : ℕ) :
    (Ledger.start cfg maxConnections eventSoftCap).Steady := by
  refine ⟨(honoured_start cfg maxConnections eventSoftCap).placed, ?_, fun _ => .nil⟩
  intro handle conn live advert member
  cases member

end Ledger

/-- In every run that buffers nothing ahead of a hole, the right edges a connection
advertises never move left, up to the rounding of the scale. -/
theorem right_edge_never_moves_left {cfg : EngineConfig} {maxConnections eventSoftCap : ℕ}
    {ledger : Ledger}
    (run : Run.Reaches Ledger.step (fun ledger op => ledger.host.inOrder op = true)
      (Ledger.start cfg maxConnections eventSoftCap) ledger) :
    (∀ handle conn, ledger.host.engine.flowTable.get handle = some conn →
        conn.state.synchronized = true →
        conn.rcvNxt = seqAdd conn.irs (1 + ledger.acked handle)) ∧
      ∀ handle, (ledger.adverts handle).Pairwise fun earlier later =>
        earlier.edge < later.edge + 2 ^ later.shift := by
  have steady := run.invariant (Ledger.steady_start cfg maxConnections eventSoftCap)
    fun ledger op before inOrder => Ledger.Steady.step before inOrder
  exact ⟨fun handle conn live => (steady.placed handle conn live).rcvNxt, steady.ordered⟩

/-- Ten bytes arrive in a buffer of their own. -/
def tenBytesAt (nowNs : ℕ) (seq : Seq) : EngineOp :=
  .segment 1 (peerSegment seq 101#32 TCP_ACK 5000 (List.replicate 10 7))
    (some ⟨⟨9, List.replicate 10 7, by decide⟩, 0, []⟩) (inputAt nowNs)

theorem right_edge_never_moves_left_inOrder :
    (Ledger.after quickCfg (handshake ++ [tenBytesAt 2000 201#32, .close 1 true 3000])).adverts 1 =
        [⟨0, 1000, 0⟩, ⟨10, 990, 0⟩, ⟨10, 1000, 0⟩] ∧
      ∀ handle, ((Ledger.after quickCfg
          (handshake ++ [tenBytesAt 2000 201#32, .close 1 true 3000])).adverts handle).Pairwise
        fun earlier later => earlier.edge < later.edge + 2 ^ later.shift :=
  ⟨by decide +kernel, (right_edge_never_moves_left
    (Run.Reaches.of_admits (by decide +kernel :
      Run.admits Ledger.step (fun ledger op => ledger.host.inOrder op) (Ledger.start quickCfg 1 64)
        ((handshake ++ [tenBytesAt 2000 201#32, .close 1 true 3000]).map SystemOp.call) =
          true))).2⟩

/-- The answer to ten bytes behind a hole takes ten bytes of window back. -/
theorem right_edge_moves_left :
    ¬ ∀ ledger, Run.Reaches Ledger.step (fun _ _ => True) (Ledger.start quickCfg 1 64) ledger →
      ∀ handle, (ledger.adverts handle).Pairwise fun earlier later =>
        earlier.edge < later.edge + 2 ^ later.shift := by
  intro steady
  have adverts : (Ledger.after quickCfg (handshake ++ [tenBytesAt 2000 211#32])).adverts 1 =
      [⟨0, 1000, 0⟩, ⟨0, 990, 0⟩] := by
    decide +kernel
  have ordered := steady _ (Ledger.after_reached quickCfg (handshake ++ [tenBytesAt 2000 211#32])) 1
  rw [adverts, List.pairwise_pair] at ordered
  exact absurd ordered (by decide)

end DpdkTcp
