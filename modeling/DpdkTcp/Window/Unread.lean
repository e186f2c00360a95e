import DpdkTcp.Window.Honour
import DpdkTcp.Window.Spread

/-!
# Bytes the application has not read

Accepted bytes wait in the in-order queue, in the reorder queue or in a
`Readable` event. The receive buffer bounds the first two, and only they take
room from the advertised window: an event in the queue is not counted any
more. The bound holds for all three as long as a connection takes no data
and shows no window while an event of it waits.
-/

namespace DpdkTcp

open Serial

/-- The payload bytes an event holds for a connection. -/
def InternalEvent.lenFor (handle : ConnHandle) : InternalEvent → ℕ
  | .readable conn _ _ totalLen _ _ => if conn = handle then totalLen else 0
  | _ => 0

/-- The payload bytes of a connection in the event queue. -/
def Engine.unread (engine : Engine) (handle : ConnHandle) : ℕ :=
  (engine.events.q.map (InternalEvent.lenFor handle)).sum

/-- The payload bytes in the two receive queues. -/
def RecvQueue.held (recv : RecvQueue) : ℕ :=
  recv.bufferedBytes + (recv.reorder.segments.map OooSegment.len).sum

/-- The accepted bytes of a connection that the application does not have yet. -/
def Engine.undelivered (engine : Engine) (handle : ConnHandle) : ℕ :=
  ((engine.flowTable.get handle).map fun conn => conn.recv.held).getD 0 + engine.unread handle

/-! ### The event queue -/

theorem sum_drop_le (lengths : List ℕ) (count : ℕ) : (lengths.drop count).sum ≤ lengths.sum := by
  have split := List.sum_take_add_sum_drop lengths count
  omega

theorem EventQueue.sum_push_le (queue : EventQueue) (event : InternalEvent)
    (weight : InternalEvent → ℕ) :
    ((queue.push event).q.map weight).sum ≤ (queue.q.map weight).sum + weight event := by
  dsimp only [EventQueue.push]
  rw [List.map_append, List.sum_append, List.map_singleton, List.sum_singleton]
  refine Nat.add_le_add_right ?_ _
  split
  · rw [List.map_drop]
    exact sum_drop_le _ 1
  · exact Nat.le_refl _

theorem InternalEvent.lenFor_silent {event : InternalEvent} (silent : event.isReadable = false)
    (handle : ConnHandle) : event.lenFor handle = 0 := by
  cases event <;> first | rfl | cases silent

namespace Engine

theorem Edits.unread_le {before after : Engine} (edits : Edits before after)
    (handle : ConnHandle) : after.unread handle ≤ before.unread handle := by
  induction edits with
  | same _ _ events =>
      rw [unread, unread, events]
  | push event silent =>
      refine Nat.le_trans (EventQueue.sum_push_le _ event _) ?_
      rw [InternalEvent.lenFor_silent silent]
      exact Nat.le_refl _
  | modify | remove => exact Nat.le_refl _
  | trans _ _ left right => exact Nat.le_trans right left

theorem splitDelivered_lengths (count : ℕ) (segs : List InOrderSegment) :
    ((splitDelivered count segs).delivered.map InOrderSegment.len).sum ≤ count ∧
      ((splitDelivered count segs).rest.map InOrderSegment.len).sum =
        (segs.map InOrderSegment.len).sum - count := by
  induction segs generalizing count with
  | nil => exact ⟨Nat.zero_le _, (Nat.zero_sub count).symm⟩
  | cons seg rest ih =>
      dsimp only [splitDelivered]
      split
      · rename_i zero
        rw [zero]
        exact ⟨Nat.zero_le _, (Nat.sub_zero _).symm⟩
      · split
        · rcases ih (count - seg.len) with ⟨taken, left⟩
          dsimp only
          rw [left, List.map_cons, List.map_cons, List.sum_cons, List.sum_cons]
          omega
        · simp only [List.map_cons, List.sum_cons, List.map_nil, List.sum_nil]
          omega

theorem handOver_unread_le (engine : Engine) (handle other : ConnHandle)
    (delivered rxHwTsNs emittedTsNs : ℕ) :
    (engine.handOver handle delivered rxHwTsNs emittedTsNs).unread other ≤
      engine.unread other + if other = handle then delivered else 0 := by
  dsimp only [handOver, unread, deliverReadable]
  split
  · exact Nat.le_add_right _ _
  · rename_i conn _
    dsimp only
    split
    · exact Nat.le_add_right _ _
    · refine Nat.le_trans (EventQueue.sum_push_le _ _ _) (Nat.add_le_add_left ?_ _)
      dsimp only [readableEvent, InternalEvent.lenFor]
      by_cases same : other = handle
      · rw [if_pos same.symm, if_pos same]
        exact (splitDelivered_lengths delivered conn.recv.bytes).1
      · rw [if_neg (Ne.symm same)]
        exact Nat.zero_le _

/-- A segment adds to the events of its connection what it delivers. -/
theorem tcpInput_unread_le (engine : Engine) (handle other : ConnHandle) {conn : TcpConn}
    (present : engine.flowTable.get handle = some conn) (seg : ParsedSegment)
    (mbufCtx : Option MbufInsertCtx) (env : InputEnv) :
    (engine.tcpInput handle seg mbufCtx env).unread other ≤
      engine.unread other + if other = handle then
        (dispatch conn seg env.clock engine.cfg.sendBufferBytes mbufCtx).outcome.delivered
      else 0 := by
  rcases tcpInput_edits engine handle present seg mbufCtx env rfl with ⟨moved, before, after⟩
  refine Nat.le_trans (after.unread_le other) ?_
  have start : moved.unread other ≤ engine.unread other := before.unread_le other
  split
  · exact Nat.le_trans (handOver_unread_le moved handle other _ _ _)
      (Nat.add_le_add_right start _)
  · exact Nat.le_trans start (Nat.le_add_right _ _)

end Engine

/-! ### An attentive application -/

/-- What `tcp_input` hands to `dispatch`: a payload no longer than an IPv4 packet, and the
buffer of the frame only where the frame is one buffer. -/
def SystemOp.framed : SystemOp → Bool
  | .call (.segment _ seg mbufCtx _) =>
      decide (seg.payload.length < 65536) && mbufCtx.all fun ctx => ctx.next.isEmpty
  | _ => true

/-- The segment is accepted and carries data. -/
def TcpConn.takesData (conn : TcpConn) (seg : ParsedSegment) (nowNs : ℕ) : Bool :=
  conn.state = .established && conn.acceptable seg nowNs && conn.ackKnown seg &&
    !seg.payload.isEmpty

namespace Host

/-- The connection an operation of the engine is about. -/
def concerns (host : Host) : EngineOp → Option ConnHandle
  | .send handle _ _ _ | .close handle _ _ | .segment handle _ _ _ => some handle
  | .fireNext _ => host.pending.head?.map fun fired => fired.2.ownerHandle
  | _ => none

/-- The data of a segment meets no waiting event of its connection. -/
def takesRead (host : Host) : EngineOp → Bool
  | .segment handle seg _ env =>
      (host.engine.flowTable.get handle).all fun conn =>
        !conn.takesData seg env.clock.paws || host.engine.unread handle = 0
  | _ => true

/-- No data is taken and no window is shown for a connection while an event of it waits. -/
def attended (host : Host) : SystemOp → Bool
  | .call op =>
      host.takesRead op && (host.concerns op).all fun handle =>
        (host.showing handle op).isNone || host.engine.unread handle = 0
  | _ => true

theorem concerns_of_showing {host : Host} {handle : ConnHandle} {op : EngineOp} {shown : TcpConn}
    (showing : host.showing handle op = some shown) : host.concerns op = some handle := by
  cases op with
  | send target bytes envs tlpNs =>
      dsimp only [Host.showing] at showing
      split at showing
      · split at showing
        · rename_i same
          exact congrArg some same
        · cases showing
      · cases showing
  | close target finSent nowNs =>
      dsimp only [Host.showing] at showing
      split at showing
      · rename_i same
        exact congrArg some same.1
      · cases showing
  | segment target seg mbufCtx env =>
      dsimp only [Host.showing] at showing
      split at showing
      · rename_i same
        exact congrArg some same
      · cases showing
  | fireNext env =>
      dsimp only [Host.showing] at showing
      split at showing
      · rename_i id node rest pending
        split at showing
        · rename_i same
          rw [concerns, pending]
          exact congrArg some same.1
        · cases showing
      · cases showing
  | connect | advance | flush | reap | twSkip => cases showing

theorem attended_showing {host : Host} {handle : ConnHandle} {op : EngineOp} {shown : TcpConn}
    (attended : host.attended (.call op) = true) (showing : host.showing handle op = some shown) :
    host.engine.unread handle = 0 := by
  have quiet := (Bool.and_eq_true_iff.mp attended).2
  simpa [concerns_of_showing showing, showing] using quiet

/-! ### Steps -/

/-- Beside a segment of the connection, a step adds nothing to its events. -/
theorem systemStep_unread_le (host : Host) (op : SystemOp) (handle : ConnHandle)
    (beside : ∀ conn seg mbufCtx env, host.engine.flowTable.get handle = some conn →
      op ≠ .call (.segment handle seg mbufCtx env)) :
    (host.systemStep op).engine.unread handle ≤ host.engine.unread handle := by
  cases op with
  | call op =>
      cases op with
      | connect tuple iss ourMss opts synSent nowNs =>
          dsimp only [systemStep, step, Engine.connectWithOpts]
          split
          · exact Nat.le_refl _
          · split
            · exact Nat.le_refl _
            · split
              · exact Nat.le_refl _
              · rename_i fresh inserted
                split
                · exact Nat.le_refl _
                · exact (Engine.Edits.trans (Engine.transitionConn_edits _ fresh .synSent nowNs)
                    (Engine.armSynRetrans_edits _ fresh nowNs _)).unread_le handle
      | send target bytes envs tlpNs =>
          exact (Engine.sendBytes_edits host.engine target bytes envs tlpNs).unread_le handle
      | close target finSent nowNs =>
          exact (Engine.closeConn_edits host.engine target finSent nowNs).unread_le handle
      | segment target seg mbufCtx env =>
          dsimp only [systemStep, step]
          cases present : host.engine.flowTable.get target with
          | none =>
              have idle : host.engine.tcpInput target seg mbufCtx env = host.engine :=
                Engine.tcpInput_absent present seg mbufCtx env
              rw [idle]
          | some conn =>
              have differs : handle ≠ target := by
                rintro rfl
                exact beside conn seg mbufCtx env present rfl
              have input := host.engine.tcpInput_unread_le target handle present seg mbufCtx env
              rwa [if_neg differs] at input
      | advance | fireNext | flush | reap | twSkip => exact (host.step_edits rfl).unread_le handle
  | complete index =>
      have same : (host.engine.completeFrame index).events = host.engine.events := by
        unfold Engine.completeFrame
        split
        · rfl
        · rw [Engine.releaseMbufs_only]
      dsimp only [systemStep, Engine.unread]
      rw [same]
  | drainEvents max =>
      dsimp only [systemStep, Engine.drainEvents, EventQueue.popMany, Engine.unread]
      rw [List.map_drop]
      exact sum_drop_le _ max
  | drop =>
      dsimp only [systemStep, Engine.drop, Engine.unread]
      rw [Engine.releaseMbufs_only]
      exact Nat.zero_le _

end Host

/-! ### Room for everything -/

/-- A frame of one buffer that passes the window test lies in the window as a whole. -/
theorem TcpConn.chainInside_of_acceptable {conn : TcpConn} {seg : ParsedSegment}
    {mbufCtx : Option MbufInsertCtx} {handle : ConnHandle} {env : InputEnv} {nowNs : ℕ}
    (framed : SystemOp.framed (.call (.segment handle seg mbufCtx env)) = true)
    (acceptable : conn.acceptable seg nowNs = true) (data : seg.payload ≠ [])
    (small : conn.rcvWnd < 65536) : conn.chainInside seg mbufCtx = true := by
  rcases Bool.and_eq_true_iff.mp framed with ⟨short, one⟩
  have short := of_decide_eq_true short
  have carried : carriedBytes seg mbufCtx = seg.payload := by
    cases mbufCtx with
    | none => exact List.append_nil _
    | some ctx =>
        have alone : ctx.next = [] := by simpa using one
        rw [carriedBytes, chainBytes, alone, List.flatMap_nil, List.append_nil]
  have inside : segInWindow conn seg = true := by
    simp only [TcpConn.acceptable, Bool.and_eq_true] at acceptable
    exact acceptable.1.2
  have fin : seg.fin.toNat ≤ 1 := Bool.toNat_le seg.fin
  have within := (segInWindow_iff data (by omega) (by rw [ParsedSegment.segLen]; omega)).mp inside
  rw [ParsedSegment.segLen] at within
  rw [TcpConn.chainInside, carried, Bool.and_eq_true_iff, decide_eq_true_iff, Bool.or_eq_true_iff,
    decide_eq_true_iff]
  exact ⟨short, Or.inr (by omega)⟩


/-- A connection whose accepted bytes fit in its buffer, together with `unread` bytes in events. -/
structure TcpConn.Roomy (conn : TcpConn) (limit unread : ℕ) : Prop where
  cap : conn.recv.cap = limit
  rcvWnd : conn.rcvWnd = min limit 65535
  empty : conn.recv.bufferedBytes = 0
  total : conn.recv.reorder.totalBytes = (conn.recv.reorder.segments.map OooSegment.len).sum
  fits : conn.recv.reorder.totalBytes + unread ≤ limit
  fresh : conn.state = .synSent → conn.recv.reorder.segments = []
  tidy : conn.state = .established → conn.recv.reorder.Tidy conn.rcvNxt conn.rcvWnd

/-- The same between the dispatch of a segment and the delivery of its bytes. -/
structure Dispatched.Roomy (dispatched : Dispatched) (state : TcpState) (limit unread : ℕ) :
    Prop where
  cap : dispatched.conn.recv.cap = limit
  rcvWnd : dispatched.conn.rcvWnd = min limit 65535
  buffered : dispatched.conn.recv.bufferedBytes = dispatched.outcome.delivered
  total : dispatched.conn.recv.reorder.totalBytes =
    (dispatched.conn.recv.reorder.segments.map OooSegment.len).sum
  fits : dispatched.outcome.delivered + dispatched.conn.recv.reorder.totalBytes + unread ≤ limit
  fresh : dispatched.outcome.newState.getD state = .synSent →
    dispatched.conn.recv.reorder.segments = []
  tidy : dispatched.outcome.newState.getD state = .established →
    dispatched.conn.recv.reorder.Tidy dispatched.conn.rcvNxt dispatched.conn.rcvWnd

namespace TcpConn.Roomy

variable {conn : TcpConn} {limit unread : ℕ} {seg : ParsedSegment} {clock : Readings}

/-- A dispatch that takes no data keeps the room there is. -/
theorem unmoved (roomy : conn.Roomy limit unread) {dispatched : Dispatched} {state : TcpState}
    (rcvWnd : dispatched.conn.rcvWnd = conn.rcvWnd) (recv : dispatched.conn.recv = conn.recv)
    (delivered : dispatched.outcome.delivered = 0)
    (fresh : dispatched.outcome.newState.getD state = .synSent →
      conn.recv.reorder.segments = [])
    (tidy : dispatched.outcome.newState.getD state = .established →
      conn.recv.reorder.Tidy dispatched.conn.rcvNxt conn.rcvWnd) :
    dispatched.Roomy state limit unread := by
  refine ⟨?_, rcvWnd.trans roomy.rcvWnd, ?_, ?_, ?_, ?_, ?_⟩
  · rw [recv, roomy.cap]
  · rw [recv, delivered, roomy.empty]
  · rw [recv, roomy.total]
  · rw [recv, delivered, Nat.zero_add]
    exact roomy.fits
  · rw [recv]
    exact fresh
  · rw [recv, rcvWnd]
    exact tidy

theorem handshake (roomy : conn.Roomy limit unread) (opening : conn.state = .synSent) :
    (handleSynSent conn seg clock).Roomy conn.state limit unread := by
  have recv := handleSynSent_recv conn seg clock
  have none := roomy.fresh opening
  rcases handleSynSent_opens conn seg clock with
    ⟨_, delivered, ⟨unchanged, _, decided⟩ | ⟨opts, _, _, decided, adopted⟩⟩
  · refine roomy.unmoved (congrArg TcpConn.rcvWnd unchanged) recv delivered (fun _ => none) ?_
    intro running
    rcases decided with decided | decided <;> rw [decided] at running
    · rw [Option.getD_none, opening] at running
      cases running
    · cases running
  · refine roomy.unmoved adopted.rcvWnd recv delivered (fun _ => none) ?_
    intro _
    refine ⟨?_, roomy.total⟩
    rw [none]
    exact .nil _ _ _

theorem dispatch (roomy : conn.Roomy limit unread) {mbufCtx : Option MbufInsertCtx}
    (inside : conn.takesData seg clock.paws = true →
      unread = 0 ∧ conn.chainInside seg mbufCtx = true) (sendBuf : ℕ) :
    (dispatch conn seg clock sendBuf mbufCtx).Roomy conn.state limit unread := by
  by_cases opening : conn.state = .synSent
  · have shake : DpdkTcp.dispatch conn seg clock sendBuf mbufCtx = handleSynSent conn seg clock := by
      rw [DpdkTcp.dispatch, opening]
    rw [shake]
    exact roomy.handshake opening
  · have later := dispatch_later opening seg clock sendBuf mbufCtx
    have sameOwner := dispatch_sameOwner opening seg clock sendBuf mbufCtx
    have sameCap := (dispatch_ends conn seg clock sendBuf mbufCtx).cap
    have received := dispatch_receives opening seg clock sendBuf mbufCtx
    generalize DpdkTcp.dispatch conn seg clock sendBuf mbufCtx = dispatched at *
    have opened : dispatched.outcome.newState.getD conn.state ≠ .synSent :=
      fun waiting => opening (later.eq_synSent waiting)
    cases received with
    | idle delivered recv fin closing rcvNxt =>
        refine roomy.unmoved sameOwner.rcvWnd recv delivered (fun waiting => absurd waiting opened) ?_
        intro running
        have running := later.eq_established running
        have none : fin = false := by
          by_contra taken
          exact closing (by simpa using taken) running
        rw [rcvNxt, none, Bool.toNat_false, seqAdd_zero]
        exact roomy.tidy running
    | data running acceptable known raced same owner fin closing delivered recv rcvNxt =>
        have window : conn.rcvWnd = min limit 65535 := roomy.rcvWnd
        have fitting : Fitting conn.recv.cap conn.rcvWnd (deliver raced seg mbufCtx) := by
          rw [← same.recv, ← owner.rcvWnd]
          refine deliver_fitting ?_ ?_ ?_ ?_ ?_
          · rw [owner.rcvWnd]
            omega
          · rw [owner.rcvWnd, same.recv, roomy.cap]
            omega
          · rw [same.recv, roomy.empty]
          · rw [same.recv, same.rcvNxt, owner.rcvWnd]
            exact roomy.tidy running
          · intro data
            rw [TcpConn.chainInside, same.rcvNxt, owner.rcvWnd]
            exact (inside (by simp [TcpConn.takesData, running, acceptable, known, data])).2
        have fits := fitting.fits
        rw [roomy.cap] at fits
        refine ⟨sameCap.trans roomy.cap, sameOwner.rcvWnd.trans window, ?_, ?_, ?_, ?_, ?_⟩
        · rw [recv, delivered, fitting.buffered]
        · rw [recv, fitting.tidy.total]
        · rw [recv, delivered]
          by_cases data : seg.payload = []
          · have nothing : deliver raced seg mbufCtx = { conn := raced } := by
              simp [deliver, data]
            rw [nothing, same.recv, Nat.zero_add]
            exact roomy.fits
          · rw [(inside (by simp [TcpConn.takesData, running, acceptable, known, data])).1,
              Nat.add_zero]
            exact fits
        · exact fun waiting => absurd waiting opened
        · intro stays
          have none : fin = false := by
            by_contra taken
            rw [closing (by simpa using taken)] at stays
            cases stays
          rw [recv, rcvNxt, none, Bool.toNat_false, seqAdd_zero, sameOwner.rcvWnd]
          exact fitting.tidy

end TcpConn.Roomy

/-- Handing over what a dispatch delivered moves it to the events. -/
theorem Dispatched.Roomy.handOver {dispatched : Dispatched} {state : TcpState}
    {limit unread later : ℕ} {after : TcpConn} (roomy : dispatched.Roomy state limit unread)
    (same : SameReceiver (dispatched.conn.handOver dispatched.outcome.delivered) after)
    (moved : (dispatched.outcome.newState.getD state).Later after.state)
    (grown : later ≤ unread + dispatched.outcome.delivered) : after.Roomy limit later := by
  have reorder : after.recv.reorder = dispatched.conn.recv.reorder := by
    rw [same.recv]
    rfl
  have rcvNxt : after.rcvNxt = dispatched.conn.rcvNxt := same.rcvNxt
  have rcvWnd : after.rcvWnd = dispatched.conn.rcvWnd := same.rcvWnd
  have fits := roomy.fits
  refine ⟨?_, rcvWnd.trans roomy.rcvWnd, ?_, ?_, ?_, ?_, ?_⟩
  · rw [same.recv]
    exact roomy.cap
  · have buffered := roomy.buffered
    rw [same.recv]
    dsimp only [TcpConn.handOver, RecvQueue.bufferedBytes] at buffered ⊢
    split
    · rw [(Engine.splitDelivered_lengths _ _).2, buffered, Nat.sub_self]
    · omega
  · rw [reorder, roomy.total]
  · rw [reorder]
    omega
  · intro waiting
    rw [reorder]
    exact roomy.fresh (moved.eq_synSent waiting)
  · intro running
    rw [reorder, rcvNxt, rcvWnd]
    exact roomy.tidy (moved.eq_established running)

/-- The kept receive side of a connection that is not further behind. -/
theorem TcpConn.Roomy.kept {conn after : TcpConn} {limit unread later : ℕ}
    (roomy : conn.Roomy limit unread) (same : SameReceiver conn after)
    (moved : conn.state.Later after.state) (fewer : later ≤ unread) :
    after.Roomy limit later := by
  have fits := roomy.fits
  refine ⟨?_, same.rcvWnd.trans roomy.rcvWnd, ?_, ?_, ?_, ?_, ?_⟩
  · rw [same.recv, roomy.cap]
  · rw [same.recv, roomy.empty]
  · rw [same.recv, roomy.total]
  · rw [same.recv]
    omega
  · intro waiting
    rw [same.recv]
    exact roomy.fresh (moved.eq_synSent waiting)
  · intro running
    rw [same.recv, same.rcvNxt, same.rcvWnd]
    exact roomy.tidy (moved.eq_established running)

theorem TcpConn.Roomy.opening {after : TcpConn} {limit unread : ℕ}
    (rcvWnd : after.rcvWnd = min limit 65535) (recv : after.recv = RecvQueue.new limit)
    (unsynchronized : after.state.synchronized = false) (few : unread ≤ limit) :
    after.Roomy limit unread := by
  refine ⟨?_, rcvWnd, ?_, ?_, ?_, ?_, ?_⟩
  · rw [recv]
    rfl
  · rw [recv]
    rfl
  · rw [recv]
    rfl
  · rw [recv]
    exact (Nat.zero_add unread).symm ▸ few
  · intro _
    rw [recv]
    rfl
  · intro running
    rw [running] at unsynchronized
    cases unsynchronized

/-- What a connection has accepted and what it advertises fit in its buffer together. -/
theorem Dispatched.Roomy.offered_le {dispatched : Dispatched} {state : TcpState} {limit : ℕ}
    (roomy : dispatched.Roomy state limit 0) (ack : ℕ) :
    (dispatched.conn.advert ack).offered + dispatched.conn.recv.held ≤ limit := by
  have offered := (dispatched.conn.offered_advert ack).1
  have fits := roomy.fits
  have buffered := roomy.buffered
  have total := roomy.total
  have cap := roomy.cap
  unfold TcpConn.reach RecvQueue.freeSpaceTotal at offered
  unfold RecvQueue.held
  omega

theorem TcpConn.Roomy.offered_le {conn : TcpConn} {limit : ℕ} (roomy : conn.Roomy limit 0)
    (ack : ℕ) : (conn.advert ack).offered + conn.recv.held ≤ limit := by
  have offered := (conn.offered_advert ack).1
  have fits := roomy.fits
  have empty := roomy.empty
  have total := roomy.total
  have cap := roomy.cap
  unfold TcpConn.reach RecvQueue.freeSpaceTotal at offered
  unfold RecvQueue.held
  omega

/-! ### Runs -/

/-- A host whose connections all have room. -/
structure Host.Roomy (host : Host) (limit : ℕ) : Prop where
  cfg : host.engine.cfg.recvBufferBytes = limit
  unread : ∀ handle, host.engine.unread handle ≤ limit
  conns : ∀ handle conn, host.engine.flowTable.get handle = some conn →
    conn.Roomy limit (host.engine.unread handle)

namespace Host

variable {host : Host} {limit : ℕ} {handle : ConnHandle} {conn : TcpConn} {seg : ParsedSegment}
  {mbufCtx : Option MbufInsertCtx} {env : InputEnv}

/-- An attended segment leaves room on its connection. -/
theorem Roomy.dispatched (roomy : host.Roomy limit)
    (present : host.engine.flowTable.get handle = some conn)
    (framed : SystemOp.framed (.call (.segment handle seg mbufCtx env)) = true)
    (attended : host.attended (.call (.segment handle seg mbufCtx env)) = true) :
    (dispatch conn seg env.clock host.engine.cfg.sendBufferBytes mbufCtx).Roomy conn.state limit
      (host.engine.unread handle) := by
  have room := roomy.conns handle conn present
  refine room.dispatch ?_ _
  intro takes
  have read := (Bool.and_eq_true_iff.mp attended).1
  refine ⟨by simpa [takesRead, present, takes] using read, ?_⟩
  simp only [TcpConn.takesData, Bool.and_eq_true, Bool.not_eq_true', List.isEmpty_eq_false_iff]
    at takes
  have window := room.rcvWnd
  exact TcpConn.chainInside_of_acceptable framed takes.1.1.2 takes.2 (by omega)

theorem Roomy.unread_segment (roomy : host.Roomy limit)
    (present : host.engine.flowTable.get handle = some conn)
    (framed : SystemOp.framed (.call (.segment handle seg mbufCtx env)) = true)
    (attended : host.attended (.call (.segment handle seg mbufCtx env)) = true) :
    (host.engine.tcpInput handle seg mbufCtx env).unread handle ≤ limit := by
  have grown := host.engine.tcpInput_unread_le handle handle present seg mbufCtx env
  rw [if_pos rfl] at grown
  have fits := (roomy.dispatched present framed attended).fits
  omega

theorem Roomy.step (roomy : host.Roomy limit) {op : SystemOp} (framed : op.framed = true)
    (attended : host.attended op = true) : (host.systemStep op).Roomy limit := by
  refine ⟨(congrArg EngineConfig.recvBufferBytes (host.systemStep_cfg op)).trans roomy.cfg, ?_, ?_⟩
  · intro handle
    by_cases beside : ∀ conn seg mbufCtx env, host.engine.flowTable.get handle = some conn →
        op ≠ .call (.segment handle seg mbufCtx env)
    · exact Nat.le_trans (host.systemStep_unread_le op handle beside) (roomy.unread handle)
    · simp only [ne_eq, not_forall, not_not] at beside
      rcases beside with ⟨conn, seg, mbufCtx, env, present, rfl⟩
      exact roomy.unread_segment present framed attended
  · intro handle after live
    have received := host.systemStep_receiver op live
    generalize before : host.engine.flowTable.get handle = present at received
    cases received with
    | kept same state beside =>
        refine (roomy.conns handle _ before).kept same state ?_
        exact host.systemStep_unread_le op handle fun _ seg mbufCtx env _ => beside seg mbufCtx env
    | opening rcvWnd recv state =>
        rw [roomy.cfg] at rcvWnd recv
        refine .opening rcvWnd recv state ?_
        refine Nat.le_trans (host.systemStep_unread_le op handle ?_) (roomy.unread handle)
        intro conn _ _ _ live
        rw [before] at live
        cases live
    | segment seg mbufCtx env called dispatched processed same state =>
        subst called
        have grown := host.engine.tcpInput_unread_le handle handle before seg mbufCtx env
        rw [if_pos rfl, ← processed] at grown
        have left := roomy.dispatched before framed attended
        rw [← processed] at left
        exact left.handOver same state grown

theorem roomy_start (cfg : EngineConfig) (maxConnections eventSoftCap : ℕ) :
    (Host.start cfg maxConnections eventSoftCap).Roomy cfg.recvBufferBytes := by
  refine ⟨rfl, fun _ => Nat.zero_le _, ?_⟩
  intro handle conn live
  rw [Host.get_start] at live
  cases live

theorem Roomy.undelivered_le (roomy : host.Roomy limit) (handle : ConnHandle) :
    host.engine.undelivered handle ≤ limit := by
  unfold Engine.undelivered
  cases present : host.engine.flowTable.get handle with
  | none => exact (Nat.zero_add _).symm ▸ roomy.unread handle
  | some conn =>
      have room := roomy.conns handle conn present
      have fits := room.fits
      rw [Option.map_some, Option.getD_some, RecvQueue.held, room.empty, ← room.total]
      omega

theorem Roomy.shown_le (roomy : host.Roomy limit) {op : EngineOp} {shown : TcpConn}
    (framed : SystemOp.framed (.call op) = true) (attended : host.attended (.call op) = true)
    (showing : host.showing handle op = some shown) (ack : ℕ) :
    (shown.advert ack).offered + (shown.recv.held + host.engine.unread handle) ≤ limit := by
  have quiet := attended_showing attended showing
  rw [quiet, Nat.add_zero]
  rcases Ledger.shown_of_showing showing with ⟨conn, present, from_⟩
  have room := roomy.conns handle conn present
  rw [quiet] at room
  cases from_ with
  | own _ _ => exact room.offered_le ack
  | answer seg mbufCtx env called dispatched processed _ =>
      subst called
      have left := roomy.dispatched present framed attended
      rw [← processed, quiet] at left
      exact left.offered_le ack

end Host

/-- In every attended run the bytes accepted and not yet handed to the
application fit in the receive buffer, and every window shown is what they leave
free, or less. -/
theorem window_reflects_application {cfg : EngineConfig} {maxConnections eventSoftCap : ℕ}
    {host : Host}
    (run : Run.Reaches Host.systemStep (fun host op => (op.framed && host.attended op) = true)
      (Host.start cfg maxConnections eventSoftCap) host) :
    (∀ handle, host.engine.undelivered handle ≤ cfg.recvBufferBytes) ∧
      ∀ handle op shown, SystemOp.framed (.call op) = true → host.attended (.call op) = true →
        host.showing handle op = some shown →
        ∀ ack, (shown.advert ack).offered + (shown.recv.held + host.engine.unread handle) ≤
          cfg.recvBufferBytes := by
  have roomy : host.Roomy cfg.recvBufferBytes := by
    apply run.invariant (Host.roomy_start cfg maxConnections eventSoftCap)
    intro host op before taken
    rcases Bool.and_eq_true_iff.mp taken with ⟨framed, attended⟩
    exact before.step framed attended
  exact ⟨roomy.undelivered_le,
    fun _ _ _ framed attended showing => roomy.shown_le framed attended showing⟩

/-- A connection that takes ten bytes; the application reads them before it goes on. -/
def readBeforeClosing : List SystemOp :=
  (handshake ++ [tenBytesAt 2000 201#32]).map SystemOp.call ++ [.drainEvents 64]

theorem window_reflects_application_read :
    ((readBeforeClosing.foldl Host.systemStep (Host.start quickCfg 1 64)).showing 1
        (.close 1 true 3000)).map (fun shown => (shown.advert 10).offered) = some 1000 ∧
      ∀ shown, (readBeforeClosing.foldl Host.systemStep (Host.start quickCfg 1 64)).showing 1
          (.close 1 true 3000) = some shown →
        (shown.advert 10).offered + (shown.recv.held +
          (readBeforeClosing.foldl Host.systemStep (Host.start quickCfg 1 64)).engine.unread 1) ≤
            1000 := by
  refine ⟨by decide +kernel, ?_⟩
  intro shown showing
  exact (window_reflects_application (Run.Reaches.of_admits (by decide +kernel :
    Run.admits Host.systemStep (fun host op => op.framed && host.attended op) (Host.start quickCfg 1 64)
      readBeforeClosing = true))).2 1 (.close 1 true 3000) shown rfl (by decide +kernel)
      showing 10

/-- Our FIN offers the whole buffer while ten bytes of it are still unread. -/
theorem window_ignores_unread_events :
    ¬ ∀ host, Run.Reaches Host.systemStep (fun _ op => op.framed = true)
        (Host.start quickCfg 1 64) host →
      (∀ handle, host.engine.undelivered handle ≤ quickCfg.recvBufferBytes) ∧
        ∀ handle op shown, SystemOp.framed (.call op) = true →
          host.showing handle op = some shown →
          ∀ ack, (shown.advert ack).offered + (shown.recv.held + host.engine.unread handle) ≤
            quickCfg.recvBufferBytes := by
  intro reflects
  have reached := (Run.Reaches.of_admits (by decide +kernel :
    Run.admits Host.systemStep (fun _ op => op.framed) (Host.start quickCfg 1 64)
      ((handshake ++ [tenBytesAt 2000 201#32]).map SystemOp.call) = true))
  have shows : ((((handshake ++ [tenBytesAt 2000 201#32]).map SystemOp.call).foldl Host.systemStep
      (Host.start quickCfg 1 64)).showing 1 (.close 1 true 3000)).any (fun shown =>
        decide (quickCfg.recvBufferBytes < (shown.advert 10).offered + (shown.recv.held +
          (((handshake ++ [tenBytesAt 2000 201#32]).map SystemOp.call).foldl Host.systemStep
            (Host.start quickCfg 1 64)).engine.unread 1))) = true := by
    decide +kernel
  rcases (Option.any_eq_true _ _).mp shows with ⟨shown, showing, past⟩
  have within := (reflects _ reached).2 1 _ shown rfl showing 10
  exact absurd within (Nat.not_le.mpr (of_decide_eq_true past))

end DpdkTcp
