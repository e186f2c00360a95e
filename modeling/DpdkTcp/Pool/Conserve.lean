import DpdkTcp.Pool.Rebook

/-!
# Received buffers in every run

The count of a received buffer is the number of its holders: the windows of the
connections, of the queued events and of the drained ones, and the frame of the
burst it came in until that is freed. The buffer is in its pool exactly when it
has none.
-/

namespace DpdkTcp

open RefCount

/-! ### Calls of the engine -/

/-- A queue that is split, where a window cut in two takes a reference. -/
theorem SplitWindows.rebooks {segs : List InOrderSegment} {split : Split} {cloned : List ℕ}
    (windows : SplitWindows segs split cloned) {frames : Multiset ℕ} {own : List ℕ}
    {others : Multiset RxWindow} (sized : Sized (others + InOrderSegment.windowsOf segs)) :
    Rebooks frames own (others + InOrderSegment.windowsOf segs)
      (cloned.map fun addr => .refcntUpdate addr 1)
      (others + (InOrderSegment.windowsOf split.delivered +
        InOrderSegment.windowsOf split.rest)) := by
  have addrs : (others + (InOrderSegment.windowsOf split.delivered +
        InOrderSegment.windowsOf split.rest)).map Prod.fst =
      (others + InOrderSegment.windowsOf segs).map Prod.fst + (cloned : Multiset ℕ) := by
    rw [Multiset.map_add, windows.holders, Multiset.map_add, add_assoc]
  have pinned : ∀ addr ∈ cloned, addr ∈ (others + InOrderSegment.windowsOf segs).map Prod.fst := by
    intro addr member
    rw [Multiset.map_add, Multiset.mem_add]
    exact Or.inr (windows.cloned addr member)
  refine ⟨?_, ⟨?_, ?_⟩, ?_⟩
  · rw [addrs, add_right_comm]
    exact .takeAll fun addr member => Multiset.mem_add.mpr (Or.inl (pinned addr member))
  · intro window member
    rcases Multiset.mem_add.mp member with old | new
    · exact sized.nonempty window (Multiset.mem_add.mpr (Or.inl old))
    · exact windows.nonempty
        (fun other inSegs => sized.nonempty other (Multiset.mem_add.mpr (Or.inr inSegs))) window new
  · intro addr
    have covered := sized.covered addr
    have split := windows.covered addr
    rw [span_add] at covered ⊢
    rw [span_add]
    omega
  · intro addr member
    rw [addrs, Multiset.mem_add] at member
    rcases member with old | cut
    · exact Or.inl old
    · exact Or.inl (pinned addr cut)

namespace Held

variable {before after : Engine} {extra : Multiset RxWindow} {frames : Multiset ℕ}

theorem rebooked (held : Held before extra frames) {own : List ℕ} {updates : List RefUpdate}
    (rebooks : Rebooks frames own (before.windows + extra) updates (after.windows + extra))
    (rxRefs : after.rxRefs = before.rxRefs.applyAll updates) : Held after extra frames := by
  refine ⟨?_, rebooks.sized, held.once⟩
  rw [rxRefs]
  exact rebooks.takes _ held.counted

/-- A dispatch and the rollback behind it. -/
theorem written (held : Held before extra frames) {handle : ConnHandle} {conn : TcpConn}
    (present : before.flowTable.get handle = some conn) (ordered : conn.Ordered) {own : List ℕ}
    {seg : ParsedSegment} {mbufCtx : Option MbufInsertCtx} (clock : Readings) (sendBuf : ℕ)
    (short : (carriedBytes seg mbufCtx).length ≤ MAX_PAYLOAD)
    (fresh : ∀ ctx, mbufCtx = some ctx →
      FreshLinks (ctx.mbuf :: ctx.next) frames own (before.windows + extra)) :
    Held (before.written handle mbufCtx (dispatch conn seg clock sendBuf mbufCtx)) extra frames ∧
      ∀ addr ∈ ((before.written handle mbufCtx
          (dispatch conn seg clock sendBuf mbufCtx)).windows + extra).map Prod.fst,
        addr ∈ (before.windows + extra).map Prod.fst ∨ addr ∈ own := by
  rcases FlowTable.windows_split present with ⟨others, whole, replaced, _⟩
  have first : before.windows + extra =
      others + (before.events.q.flatMap InternalEvent.windows : Multiset RxWindow) + extra +
        (conn.windows : Multiset RxWindow) := by
    rw [Engine.windows, whole]
    abel
  have last : (before.written handle mbufCtx
        (dispatch conn seg clock sendBuf mbufCtx)).windows + extra =
      others + (before.events.q.flatMap InternalEvent.windows : Multiset RxWindow) + extra +
        ((dispatch conn seg clock sendBuf mbufCtx).conn.windows : Multiset RxWindow) := by
    dsimp only [Engine.windows, Engine.written]
    rw [replaced]
    abel
  have sized := held.sized
  rw [first] at sized fresh
  have rebooks := dispatch_rebooks ordered held.once _ clock sendBuf sized short fresh
  rw [← first, ← last] at rebooks
  exact ⟨held.rebooked rebooks rfl, rebooks.within⟩

/-- `deliver_readable`: the windows go to an event, which may displace the oldest one. -/
theorem handOver (held : Held before extra frames) (handle : ConnHandle)
    (delivered rxHwTsNs emittedTsNs : ℕ) :
    Held (before.handOver handle delivered rxHwTsNs emittedTsNs) extra frames ∧
      ∀ addr ∈ ((before.handOver handle delivered rxHwTsNs emittedTsNs).windows + extra).map
          Prod.fst, addr ∈ (before.windows + extra).map Prod.fst := by
  cases present : before.flowTable.get handle with
  | none =>
      have same : before.handOver handle delivered rxHwTsNs emittedTsNs = before := by
        dsimp only [Engine.handOver, Engine.handOverRefs, deliverReadable]
        rw [present]
        rfl
      rw [same]
      exact ⟨held, fun _ member => member⟩
  | some conn =>
      rcases FlowTable.windows_split present with ⟨others, whole, replaced, _⟩
      have few := Few.of_nodup held.once
      have cut := splitDelivered_windows delivered conn.recv.bytes
      obtain ⟨beside, beside_eq⟩ : ∃ beside : Multiset RxWindow, beside =
        others + (conn.recv.reorder.segments.map OooSegment.window : Multiset RxWindow) + extra :=
        ⟨_, rfl⟩
      have first : before.windows + extra =
          (conn.deliveredSegments.map InOrderSegment.window : Multiset RxWindow) +
            (beside + (before.events.q.flatMap InternalEvent.windows : Multiset RxWindow) +
              InOrderSegment.windowsOf conn.recv.bytes) := by
        rw [Engine.windows, whole, TcpConn.windows, RecvQueue.windows, beside_eq,
          InOrderSegment.windowsOf, ← Multiset.coe_add, ← Multiset.coe_add]
        abel
      have sized := held.sized
      rw [first] at sized
      have dropped : Rebooks frames [] _ _ _ := .free sized few
      have handed := dropped.trans (cut.rebooks dropped.sized)
      have table : (((before.handOver handle delivered rxHwTsNs emittedTsNs).flowTable.windows :
            List RxWindow) : Multiset RxWindow) + extra =
          beside + InOrderSegment.windowsOf (splitDelivered delivered conn.recv.bytes).rest := by
        dsimp only [Engine.handOver, deliverReadable]
        rw [present]
        dsimp only
        rw [replaced, TcpConn.windows, RecvQueue.windows, beside_eq, InOrderSegment.windowsOf,
          List.map_nil, List.append_nil, ← Multiset.coe_add]
        abel
      have refs : before.handOverRefs handle delivered =
          ((conn.deliveredSegments.map InOrderSegment.window).map Prod.fst).map .freeSeg ++
            (splitCloned delivered conn.recv.bytes).map (fun addr => .refcntUpdate addr 1) ++
            if (splitDelivered delivered conn.recv.bytes).delivered.isEmpty then []
            else (before.events.overflow.flatMap InternalEvent.pinned).map .freeSeg := by
        dsimp only [Engine.handOverRefs]
        rw [present, List.map_map, List.map_map]
        rfl
      have events : (before.handOver handle delivered rxHwTsNs emittedTsNs).events =
          if (splitDelivered delivered conn.recv.bytes).delivered.isEmpty then before.events
          else before.events.push (readableEvent handle
            (splitDelivered delivered conn.recv.bytes).delivered rxHwTsNs emittedTsNs) := by
        dsimp only [Engine.handOver, deliverReadable]
        rw [present]
      have whole' : ∀ queued : List InternalEvent,
          (before.handOver handle delivered rxHwTsNs emittedTsNs).events.q = queued →
          (before.handOver handle delivered rxHwTsNs emittedTsNs).windows + extra =
            beside + InOrderSegment.windowsOf (splitDelivered delivered conn.recv.bytes).rest +
              (queued.flatMap InternalEvent.windows : Multiset RxWindow) := by
        rintro _ rfl
        rw [← table, Engine.windows]
        abel
      rw [← first] at handed
      have booked : ∃ updates, before.handOverRefs handle delivered = updates ∧
          Rebooks frames [] (before.windows + extra) updates
            ((before.handOver handle delivered rxHwTsNs emittedTsNs).windows + extra) := by
        refine ⟨_, refs, ?_⟩
        by_cases none : (splitDelivered delivered conn.recv.bytes).delivered.isEmpty = true
        · rw [if_pos none] at events ⊢
          have nothing : InOrderSegment.windowsOf
              (splitDelivered delivered conn.recv.bytes).delivered = 0 := by
            rw [List.isEmpty_iff.mp none]
            rfl
          rw [nothing, zero_add, add_right_comm] at handed
          rw [whole' _ (congrArg EventQueue.q events), List.append_nil]
          exact handed
        · rw [if_neg none] at events ⊢
          rcases before.events.push_q (readableEvent handle
            (splitDelivered delivered conn.recv.bytes).delivered rxHwTsNs emittedTsNs) with
            ⟨kept, queued, pushed⟩
          have shown : ((kept ++ [readableEvent handle
                (splitDelivered delivered conn.recv.bytes).delivered rxHwTsNs
                emittedTsNs]).flatMap InternalEvent.windows : Multiset RxWindow) =
              (kept.flatMap InternalEvent.windows : Multiset RxWindow) +
                InOrderSegment.windowsOf (splitDelivered delivered conn.recv.bytes).delivered := by
            rw [List.flatMap_append, List.flatMap_singleton, ← Multiset.coe_add]
            rfl
          have displaced : beside +
                (before.events.q.flatMap InternalEvent.windows : Multiset RxWindow) +
                (InOrderSegment.windowsOf (splitDelivered delivered conn.recv.bytes).delivered +
                  InOrderSegment.windowsOf (splitDelivered delivered conn.recv.bytes).rest) =
              (before.events.overflow.flatMap InternalEvent.windows : Multiset RxWindow) +
                (beside + InOrderSegment.windowsOf (splitDelivered delivered conn.recv.bytes).rest +
                  ((kept.flatMap InternalEvent.windows : Multiset RxWindow) +
                    InOrderSegment.windowsOf
                      (splitDelivered delivered conn.recv.bytes).delivered)) := by
            rw [queued, List.flatMap_append, ← Multiset.coe_add]
            abel
          rw [displaced] at handed
          rw [whole' _ ((congrArg EventQueue.q events).trans pushed), shown,
            ← events_windows_fst]
          exact handed.trans (.free handed.sized few)
      rcases booked with ⟨updates, same, rebooks⟩
      refine ⟨held.rebooked rebooks (same ▸ rfl), fun addr member => ?_⟩
      rcases rebooks.within addr member with old | new
      · exact old
      · cases new

/-- The processing of a segment. -/
theorem tcpInput (held : Held before extra frames) (handle : ConnHandle) {own : List ℕ}
    {seg : ParsedSegment} {mbufCtx : Option MbufInsertCtx} (env : InputEnv)
    (ordered : ∀ conn, before.flowTable.get handle = some conn → conn.Ordered)
    (short : (carriedBytes seg mbufCtx).length ≤ MAX_PAYLOAD)
    (fresh : ∀ ctx, mbufCtx = some ctx →
      FreshLinks (ctx.mbuf :: ctx.next) frames own (before.windows + extra)) :
    Held (before.tcpInput handle seg mbufCtx env) extra frames ∧
      ∀ addr ∈ ((before.tcpInput handle seg mbufCtx env).windows + extra).map Prod.fst,
        addr ∈ (before.windows + extra).map Prod.fst ∨ addr ∈ own := by
  cases present : before.flowTable.get handle with
  | none =>
      rw [Engine.tcpInput_absent present]
      exact ⟨held, fun addr member => Or.inl member⟩
  | some conn =>
      rcases held.written present (ordered conn present) env.clock before.cfg.sendBufferBytes short
        fresh with ⟨written, within⟩
      rcases Engine.tcpInput_edits before handle present seg mbufCtx env rfl with
        ⟨moved, first, last⟩
      generalize before.written handle mbufCtx
        (dispatch conn seg env.clock before.cfg.sendBufferBytes mbufCtx) = writtenEngine
        at written within first
      have fewer : ∀ {left right : Engine}, right.windows ≤ left.windows →
          ∀ addr ∈ (right.windows + extra).map Prod.fst,
            addr ∈ (left.windows + extra).map Prod.fst := by
        intro left right less addr member
        exact Multiset.mem_of_le (Multiset.map_le_map (add_le_add_left less extra)) member
      rcases written.edited first with ⟨movedHeld, movedLess⟩
      have handed : Held (if 0 < (dispatch conn seg env.clock before.cfg.sendBufferBytes
            mbufCtx).outcome.delivered then
            moved.handOver handle (dispatch conn seg env.clock before.cfg.sendBufferBytes
              mbufCtx).outcome.delivered env.rxHwTsNs env.nowNs
          else moved) extra frames ∧
          ∀ addr ∈ ((if 0 < (dispatch conn seg env.clock before.cfg.sendBufferBytes
            mbufCtx).outcome.delivered then
            moved.handOver handle (dispatch conn seg env.clock before.cfg.sendBufferBytes
              mbufCtx).outcome.delivered env.rxHwTsNs env.nowNs
          else moved).windows + extra).map Prod.fst, addr ∈ (moved.windows + extra).map Prod.fst := by
        split
        · exact movedHeld.handOver handle _ _ _
        · exact ⟨movedHeld, fun _ member => member⟩
      rcases handed with ⟨handedHeld, handedWithin⟩
      rcases handedHeld.edited last with ⟨lastHeld, lastLess⟩
      refine ⟨lastHeld, fun addr member => ?_⟩
      exact within addr (fewer movedLess addr (handedWithin addr (fewer lastLess addr member)))

end Held

namespace Engine

variable (engine : Engine)

/-- A new connection keeps no buffer. -/
theorem insert_windows (conn : TcpConn) (nothing : conn.windows = []) :
    ((engine.flowTable.insert conn).1.windows : Multiset RxWindow) =
      (engine.flowTable.windows : Multiset RxWindow) := by
  unfold FlowTable.insert
  split
  · rfl
  · split
    · rfl
    · rename_i slot free
      rcases List.findIdx?_eq_some_iff_getElem.mp free with ⟨inside, empty, _⟩
      have vacant : engine.flowTable.slots[slot]? = some none := by
        rw [List.getElem?_eq_getElem inside, Option.isNone_iff_eq_none.mp empty]
      rcases Cells.flatMap_split slotWindows vacant with ⟨others, whole, replaced⟩
      have fresh : slotWindows (some conn) = slotWindows none := by
        rw [slotWindows, Option.toList_some, List.flatMap_singleton, nothing]
        rfl
      dsimp only [FlowTable.windows]
      rw [replaced, whole, fresh]

theorem connectWithOpts_released (tuple : FourTuple) (iss : Seq) (ourMss : UInt16)
    (opts : ConnectOpts) (synSent : Bool) (nowNs : ℕ) :
    ∃ freed, Released engine
      (engine.connectWithOpts tuple iss ourMss opts synSent nowNs).1 freed := by
  have unchanged : ∃ freed, Released engine engine freed := ⟨[], .of_same rfl rfl⟩
  dsimp only [connectWithOpts]
  split
  · exact unchanged
  · split
    · exact unchanged
    · split
      · exact unchanged
      · rename_i fresh inserted
        have opened : Released engine { engine with
            flowTable := (engine.flowTable.insert
              (engine.connecting tuple iss ourMss opts nowNs)).1 } [] := by
          refine .of_same ?_ rfl
          dsimp only [windows]
          rw [engine.insert_windows _ rfl]
        split
        · rcases (Edits.remove fresh).released with ⟨freed, dropped⟩
          exact ⟨_, opened.trans dropped⟩
        · have recorded : Edits { engine with
              flowTable := (engine.flowTable.insert
                (engine.connecting tuple iss ourMss opts nowNs)).1 }
              (recordOpened { engine with
                flowTable := (engine.flowTable.insert
                  (engine.connecting tuple iss ourMss opts nowNs)).1 } fresh iss) :=
            .same rfl rfl rfl rfl
          rcases (Edits.trans (.trans recorded (transitionConn_edits _ fresh .synSent nowNs))
            (armSynRetrans_edits _ fresh nowNs _)).released with ⟨freed, armed⟩
          exact ⟨_, opened.trans armed⟩

end Engine

namespace Host

/-- Beside the processing of a segment, a call of the engine only releases windows. -/
theorem step_released (host : Host) {op : EngineOp}
    (other : ∀ handle seg mbufCtx env, op ≠ .segment handle seg mbufCtx env) :
    ∃ freed, Released host.engine (host.step op).engine freed := by
  cases op with
  | connect tuple iss ourMss opts synSent nowNs =>
      exact Engine.connectWithOpts_released host.engine tuple iss ourMss opts synSent nowNs
  | send target bytes envs tlpNs =>
      exact (Engine.sendBytes_edits host.engine target bytes envs tlpNs).released
  | close target finSent nowNs =>
      exact (Engine.closeConn_edits host.engine target finSent nowNs).released
  | segment handle seg mbufCtx env => exact absurd rfl (other handle seg mbufCtx env)
  | advance | fireNext | flush | reap | twSkip => exact (host.step_edits rfl).released

end Host

end DpdkTcp
