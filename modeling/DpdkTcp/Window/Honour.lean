import DpdkTcp.Receive.Grow
import DpdkTcp.Window.Advert

/-!
# The advertised window is accepted

`rcv_wnd` is set once, to at most 65535 bytes, while the advertised window is
the free receive space shifted by the negotiated scale. As long as no window
scale is negotiated the second never reaches behind the first. A SYN-ACK that
agrees to a scale lets the peer send data that the window test then refuses.
-/

namespace DpdkTcp

/-- The segment is a SYN-ACK that agrees to a window scale the connection offered. -/
def TcpConn.agreesToScale (conn : TcpConn) (seg : ParsedSegment) : Bool :=
  conn.state = .synSent && 0 < conn.wsShiftOut && conn.takesSynAck seg &&
    match parseOptions seg.options with
    | .ok opts => opts.wscale.isSome
    | .error _ => false

/-- The step opens no connection with a window scale. -/
def Host.unscaled (host : Host) : SystemOp → Bool
  | .call (.segment handle seg _ _) =>
      (host.engine.flowTable.get handle).all fun conn => !conn.agreesToScale seg
  | _ => true

/-- An unscaled window stays below the receive buffer and the 16-bit field. -/
theorem TcpConn.edge_advert_le {conn : TcpConn} (unscaled : conn.wsShiftOut = 0) (ack : ℕ) :
    (conn.advert ack).edge ≤ ack + min conn.recv.cap 65535 := by
  have free : conn.recv.freeSpaceTotal ≤ conn.recv.cap := by
    unfold RecvQueue.freeSpaceTotal
    omega
  dsimp only [TcpConn.advert, Advert.edge, Advert.offered, TcpConn.advertisedWindow]
  rw [unscaled, Nat.pow_zero, Nat.div_one, Nat.mul_one]
  omega

/-- Without a window scale, the handshake leaves a scale of zero. -/
theorem adoptSynAck_wsShiftOut {conn : TcpConn} {seg : ParsedSegment} {opts : TcpOpts}
    (opening : conn.state = .synSent) (takes : conn.takesSynAck seg = true)
    (decoded : parseOptions seg.options = .ok opts) (refused : conn.agreesToScale seg = false)
    (nowNs : ℕ) : (adoptSynAck conn seg opts nowNs).wsShiftOut = 0 := by
  dsimp only [adoptSynAck]
  split
  · rename_i scaled
    simpa [TcpConn.agreesToScale, opening, takes, decoded, scaled] using refused
  · rfl

namespace Ledger

/-- A connection whose adverts end where its window test ends. -/
structure Honours (ledger : Ledger) (handle : ConnHandle) (conn : TcpConn) : Prop where
  rcvWnd : conn.rcvWnd = min conn.recv.cap 65535
  shift : conn.state.synchronized = true → conn.wsShiftOut = 0
  within : ∀ advert ∈ ledger.adverts handle,
    advert.edge ≤ ledger.acked handle + min conn.recv.cap 65535

variable {ledger : Ledger} {op : SystemOp} {handle : ConnHandle} {conn after : TcpConn}

/-- Beside a segment, a connection advertises at most its window. -/
theorem Honours.kept (before : ledger.Honours handle conn)
    (present : ledger.host.engine.flowTable.get handle = some conn) (same : SameReceiver conn after)
    (state : conn.state.Later after.state)
    (beside : ∀ seg mbufCtx env, op ≠ .call (.segment handle seg mbufCtx env)) :
    (ledger.step op).Honours handle after := by
  refine ⟨?_, ?_, ?_⟩
  · rw [same.rcvWnd, same.recv]
    exact before.rcvWnd
  · intro running
    rw [same.wsShiftOut]
    exact before.shift (state.synchronized running)
  · intro advert member
    rw [step_adverts present, List.mem_append] at member
    dsimp only [Ledger.step]
    rw [same.recv]
    rcases member with old | new
    · rw [ackedAfter_beside beside]
      exact before.within advert old
    · rcases mem_advertised_beside present beside new with ⟨running, rfl⟩
      exact TcpConn.edge_advert_le (before.shift running) _

/-- The handshake ends without a scale, and the first window it shows is honoured. -/
theorem Honours.opened {seg : ParsedSegment} {mbufCtx : Option MbufInsertCtx} {env : InputEnv}
    (before : ledger.Honours handle conn) (placed : ledger.Placed handle conn)
    (present : ledger.host.engine.flowTable.get handle = some conn)
    (opening : conn.state = .synSent) (refused : conn.agreesToScale seg = false)
    (same : SameReceiver ((handleSynSent conn seg env.clock).conn.handOver 0) after)
    (state : ((handleSynSent conn seg env.clock).outcome.newState.getD conn.state).Later
      after.state) :
    (ledger.step (.call (.segment handle seg mbufCtx env))).Honours handle after := by
  have shake : handleSynSent conn seg env.clock =
      dispatch conn seg env.clock ledger.host.engine.cfg.sendBufferBytes mbufCtx := by
    rw [dispatch, opening]
  have shown : ∀ advert ∈ (ledger.step (.call (.segment handle seg mbufCtx env))).adverts handle,
      advert ∈ ledger.advertised handle (.call (.segment handle seg mbufCtx env)) := by
    intro advert member
    rw [step_adverts present, placed.silent opening, List.nil_append] at member
    exact member
  have recv : (handleSynSent conn seg env.clock).conn.recv = conn.recv :=
    handleSynSent_recv conn seg env.clock
  have cap : after.recv.cap = conn.recv.cap := by
    rw [same.recv, ← recv]
    rfl
  rcases (handleSynSent_opens conn seg env.clock).2.2 with
    ⟨unchanged, unsent, decided⟩ | ⟨opts, decoded, takes, decided, adopted⟩
  · refine ⟨?_, ?_, ?_⟩
    · rw [cap, same.rcvWnd, ← before.rcvWnd]
      exact congrArg TcpConn.rcvWnd unchanged
    · intro running
      have running := state.synchronized running
      rcases decided with decided | decided <;> rw [decided] at running
      · rw [Option.getD_none, opening] at running
        cases running
      · cases running
    · intro advert member
      have member := shown advert member
      rw [advertised_of_opening present opening unsent] at member
      cases member
  · have shift : (handleSynSent conn seg env.clock).conn.wsShiftOut = 0 := by
      rw [adopted.wsShiftOut]
      exact adoptSynAck_wsShiftOut opening takes decoded refused _
    refine ⟨?_, ?_, ?_⟩
    · rw [cap, same.rcvWnd, ← before.rcvWnd]
      exact adopted.rcvWnd
    · intro _
      rw [same.wsShiftOut]
      exact shift
    · intro advert member
      rcases mem_advertised_segment present shake (shown advert member) with ⟨_, rfl⟩
      rw [cap, ← recv]
      exact TcpConn.edge_advert_le shift _

/-- Outside the handshake the window stays, and `rcv_nxt` only moves on. -/
theorem Honours.segment {seg : ParsedSegment} {mbufCtx : Option MbufInsertCtx} {env : InputEnv}
    (before : ledger.Honours handle conn)
    (present : ledger.host.engine.flowTable.get handle = some conn)
    (opened : conn.state ≠ .synSent) {dispatched : Dispatched}
    (processed : dispatched =
      dispatch conn seg env.clock ledger.host.engine.cfg.sendBufferBytes mbufCtx)
    (same : SameReceiver (dispatched.conn.handOver dispatched.outcome.delivered) after)
    (state : (dispatched.outcome.newState.getD conn.state).Later after.state) :
    (ledger.step (.call (.segment handle seg mbufCtx env))).Honours handle after := by
  have owner := dispatch_sameOwner opened seg env.clock ledger.host.engine.cfg.sendBufferBytes
    mbufCtx
  have ends := dispatch_ends conn seg env.clock ledger.host.engine.cfg.sendBufferBytes mbufCtx
  have running := dispatch_synchronized opened processed
  rw [← processed] at owner ends
  have cap : after.recv.cap = conn.recv.cap := by
    rw [same.recv]
    exact ends.cap
  refine ⟨?_, ?_, ?_⟩
  · rw [cap, same.rcvWnd, ← before.rcvWnd]
    exact owner.rcvWnd
  · intro later
    rw [same.wsShiftOut]
    exact owner.wsShiftOut.trans (before.shift (running (state.synchronized later)))
  · intro advert member
    rw [step_adverts present, List.mem_append] at member
    rw [cap]
    rcases member with old | new
    · refine Nat.le_trans (before.within advert old) (Nat.add_le_add_right ?_ _)
      dsimp only [Ledger.step]
      rw [ackedAfter_segment present, if_neg opened]
      exact Nat.le_add_right _ _
    · have running := synchronized_of_advertised present opened new
      rcases mem_advertised_segment present processed new with ⟨_, rfl⟩
      rw [← ends.cap]
      exact TcpConn.edge_advert_le (owner.wsShiftOut.trans (before.shift running)) _

/-- Every live connection is placed and honours what it advertised. -/
structure Honoured (ledger : Ledger) : Prop where
  placed : ∀ handle conn, ledger.host.engine.flowTable.get handle = some conn →
    ledger.Placed handle conn
  honours : ∀ handle conn, ledger.host.engine.flowTable.get handle = some conn →
    ledger.Honours handle conn

theorem Honoured.step (before : ledger.Honoured) (unscaled : ledger.host.unscaled op = true) :
    (ledger.step op).Honoured := by
  refine ⟨fun handle conn live => Placed.step before.placed live, ?_⟩
  intro handle after live
  have received := ledger.host.systemStep_receiver op live
  cases present : ledger.host.engine.flowTable.get handle with
  | none =>
      rw [present] at received
      cases received with
      | opening rcvWnd recv state =>
          refine ⟨?_, ?_, ?_⟩
          · rw [rcvWnd, recv]
            rfl
          · intro running
            rw [state] at running
            cases running
          · intro advert member
            rw [step_adverts_absent present] at member
            cases member
  | some conn =>
      have honours := before.honours handle conn present
      rw [present] at received
      cases received with
      | kept same state beside => exact honours.kept present same state beside
      | segment seg mbufCtx env called dispatched processed same state =>
          subst called
          by_cases opening : conn.state = .synSent
          · have shake : dispatched = handleSynSent conn seg env.clock := by
              rw [processed, dispatch, opening]
            rw [shake, (handleSynSent_opens conn seg env.clock).2.1] at same
            rw [shake] at state
            refine honours.opened (before.placed handle conn present) present opening ?_ same state
            simpa [Host.unscaled, present] using unscaled
          · exact honours.segment present opening processed same state

theorem honoured_start (cfg : EngineConfig) (maxConnections eventSoftCap : ℕ) :
    (Ledger.start cfg maxConnections eventSoftCap).Honoured := by
  have absent : ∀ handle conn,
      (Ledger.start cfg maxConnections eventSoftCap).host.engine.flowTable.get handle =
        some conn → False := by
    intro handle conn live
    rw [Ledger.start, Host.get_start] at live
    cases live
  exact ⟨fun handle conn live => (absent handle conn live).elim,
    fun handle conn live => (absent handle conn live).elim⟩

end Ledger

/-- The window test of a segment with data compares its end with `rcv_wnd`. -/
theorem segInWindow_iff {conn : TcpConn} {seg : ParsedSegment} (data : seg.payload ≠ [])
    (small : conn.rcvWnd ≤ 65535) (short : seg.segLen ≤ 65536) :
    segInWindow conn seg = true ↔ (seg.seq - conn.rcvNxt).toNat + seg.segLen ≤ conn.rcvWnd := by
  have positive : 0 < seg.segLen :=
    Nat.lt_of_lt_of_le (List.length_pos_iff.mpr data) (Nat.le_add_right _ _)
  have seq : seg.seq = Serial.point conn.rcvNxt (seg.seq - conn.rcvNxt).toNat := by
    rw [Serial.point, BitVec.ofNat_toNat, BitVec.setWidth_eq, BitVec.add_comm,
      BitVec.sub_add_cancel]
  have near := (seg.seq - conn.rcvNxt).isLt
  generalize (seg.seq - conn.rcvNxt).toNat = off at near seq ⊢
  have last : seqAdd seg.seq seg.segLen - 1#32 =
      Serial.point conn.rcvNxt (off + (seg.segLen - 1)) := by
    obtain ⟨len, len_eq⟩ : ∃ len, seg.segLen = len + 1 := ⟨seg.segLen - 1, by omega⟩
    rw [seq, seqAdd_point, len_eq, ← Nat.add_assoc, Serial.point_add]
    exact BitVec.add_sub_cancel _ _
  unfold segInWindow
  rw [if_neg (by omega), Bool.and_eq_true_iff, last, seq, inWindow_offset conn.rcvNxt near,
    decide_eq_true_iff]
  constructor
  · rintro ⟨first, second⟩
    rw [inWindow_offset conn.rcvNxt (by omega), decide_eq_true_iff] at second
    omega
  · intro inside
    rw [inWindow_offset conn.rcvNxt (by omega), decide_eq_true_iff]
    omega

/-- In ESTABLISHED, a segment inside the window is not answered as out of it. -/
theorem dispatch_badSeq {conn : TcpConn} {seg : ParsedSegment}
    (running : conn.state = .established) (inside : segInWindow conn seg = true)
    (clock : Readings) (sendBuf : ℕ) (mbufCtx : Option MbufInsertCtx) :
    (dispatch conn seg clock sendBuf mbufCtx).outcome.badSeq = false := by
  unfold dispatch
  rw [running]
  dsimp only [handleEstablished]
  split
  · rename_i outcome refused
    dsimp only [establishedChecks] at refused
    rw [inside] at refused
    split at refused
    · cases refused
      rfl
    · split at refused
      · cases refused
        rfl
      · split at refused
        · cases refused
          rfl
        · split at refused
          · rename_i outside
            cases outside
          · split at refused
            · cases refused
              rfl
            · cases refused
  · split
    · rfl
    · rfl
    · split <;> rfl

/-- In every run in which no connection opens with a window scale, a connection in
ESTABLISHED accepts every data segment that ends before a right edge it has advertised. -/
theorem advertised_window_honoured {cfg : EngineConfig} {maxConnections eventSoftCap : ℕ}
    {ledger : Ledger}
    (run : Run.Reaches Ledger.step (fun ledger op => ledger.host.unscaled op = true)
      (Ledger.start cfg maxConnections eventSoftCap) ledger)
    {handle : ConnHandle} {conn : TcpConn}
    (live : ledger.host.engine.flowTable.get handle = some conn)
    (running : conn.state = .established) :
    conn.rcvNxt = seqAdd conn.irs (1 + ledger.acked handle) ∧
      ∀ advert ∈ ledger.adverts handle, ∀ seg : ParsedSegment, seg.payload ≠ [] →
        ledger.acked handle + (seg.seq - conn.rcvNxt).toNat + seg.segLen ≤ advert.edge →
        segInWindow conn seg = true ∧ ∀ clock sendBuf mbufCtx,
          (dispatch conn seg clock sendBuf mbufCtx).outcome.badSeq = false := by
  have honoured := run.invariant (Ledger.honoured_start cfg maxConnections eventSoftCap)
    fun ledger op before unscaled => Ledger.Honoured.step before unscaled
  refine ⟨(honoured.placed handle conn live).rcvNxt (by rw [running]; rfl), ?_⟩
  intro advert sent seg data before
  have honours := honoured.honours handle conn live
  have within := honours.within advert sent
  have rcvWnd := honours.rcvWnd
  have inside : segInWindow conn seg = true :=
    (segInWindow_iff data (by omega) (by omega)).mpr (by omega)
  exact ⟨inside, dispatch_badSeq running inside⟩

/-! ### Runs with and without a scale -/

/-- Where a list of operations of the application and the poll loop leads. -/
def Ledger.after (cfg : EngineConfig) (ops : List EngineOp) : Ledger :=
  (ops.map SystemOp.call).foldl Ledger.step (Ledger.start cfg 1 64)

theorem Ledger.after_reached (cfg : EngineConfig) (ops : List EngineOp) :
    Run.Reaches Ledger.step (fun _ _ => True) (Ledger.start cfg 1 64) (Ledger.after cfg ops) := by
  have admitted : ∀ (ops : List SystemOp) (ledger : Ledger),
      Run.admits Ledger.step (fun _ _ => true) ledger ops = true := by
    intro ops
    induction ops with
    | nil => exact fun _ => rfl
    | cons op rest ih => exact fun ledger => ih (ledger.step op)
  exact (Run.Reaches.of_admits (admitted (ops.map SystemOp.call) _)).mono fun _ _ _ => trivial

/-- The last byte of the first window of a connection with a buffer of a thousand bytes. -/
def lastOfWindow : ParsedSegment :=
  peerSegment 1200#32 101#32 TCP_ACK 5000 [7]

theorem advertised_window_honoured_handshake :
    ((Ledger.after quickCfg handshake).adverts 1 = [⟨0, 1000, 0⟩] ∧
      ((Ledger.after quickCfg handshake).host.engine.flowTable.get 1).any (fun conn =>
        decide (conn.state = .established)) = true) ∧
      ∀ conn, (Ledger.after quickCfg handshake).host.engine.flowTable.get 1 = some conn →
        conn.state = .established → segInWindow conn lastOfWindow = true := by
  refine ⟨⟨by decide +kernel, by decide +kernel⟩, ?_⟩
  intro conn live running
  have placed := advertised_window_honoured
    (Run.Reaches.of_admits (by decide +kernel :
      Run.admits Ledger.step (fun ledger op => ledger.host.unscaled op)
        (Ledger.start quickCfg 1 64) (handshake.map SystemOp.call) = true)) live running
  have edges : ((Ledger.after quickCfg handshake).host.engine.flowTable.get 1).all (fun conn =>
      decide (conn.rcvNxt = 201#32)) = true := by decide +kernel
  rw [live] at edges
  have rcvNxt : conn.rcvNxt = 201#32 := by simpa using edges
  refine (placed.2 ⟨0, 1000, 0⟩ ?_ lastOfWindow (by decide) ?_).1
  · decide +kernel
  · rw [rcvNxt]
    decide +kernel

/-- The default buffer of 256 KiB. -/
def largeCfg : EngineConfig :=
  { quickCfg with recvBufferBytes := 262144 }

/-- The handshake with a peer that agrees to window scaling. -/
def scaledHandshake : List EngineOp :=
  [.connect ⟨0x0a000002#32, 40000, 0x0a000001#32, 5000⟩ 100#32 1460
      ⟨false, false, 0, 0, false, 0, false⟩ true 1000,
    .segment 1 { synAck 100#32 200#32 5000 with options := [3, 3, 7, 1] } none (inputAt 1000)]

/-- A byte a quarter into the advertised window. -/
def insideWindow : ParsedSegment :=
  peerSegment 65736#32 101#32 TCP_ACK 5000 [7]

/-- With a window scale, data inside the last advertised window is refused. -/
theorem advertised_window_refused :
    ¬ ∀ ledger, Run.Reaches Ledger.step (fun _ _ => True) (Ledger.start largeCfg 1 64) ledger →
      ∀ handle conn, ledger.host.engine.flowTable.get handle = some conn →
        conn.state = .established → ∀ advert, (ledger.adverts handle).getLast? = some advert →
        ∀ seg : ParsedSegment, seg.payload ≠ [] →
          ledger.acked handle + (seg.seq - conn.rcvNxt).toNat + seg.segLen ≤ advert.edge →
          segInWindow conn seg = true := by
  intro honoured
  have live : ((Ledger.after largeCfg scaledHandshake).host.engine.flowTable.get 1).any (fun conn =>
      decide (conn.state = .established ∧ conn.rcvNxt = 201#32 ∧
        segInWindow conn insideWindow = false)) = true := by
    decide +kernel
  have last : ((Ledger.after largeCfg scaledHandshake).adverts 1).getLast? =
      some ⟨0, 32768, 3⟩ := by
    decide +kernel
  have acked : (Ledger.after largeCfg scaledHandshake).acked 1 = 0 := by decide +kernel
  rcases (Option.any_eq_true _ _).mp live with ⟨conn, present, facts⟩
  rcases of_decide_eq_true facts with ⟨running, rcvNxt, outside⟩
  have inside := honoured _ (Ledger.after_reached largeCfg scaledHandshake) 1 conn present running
    _ last insideWindow (by decide) (by rw [acked, rcvNxt]; decide)
  rw [outside] at inside
  cases inside

end DpdkTcp
