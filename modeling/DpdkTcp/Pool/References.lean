import DpdkTcp.Lib.Run
import DpdkTcp.Pool.Conserve

/-!
# References of received buffers

The driver hands out buffers of the pool in bursts. Each frame of a burst is
dispatched and then freed, the windows into its buffers go through the
connections to events and are dropped with these. In every run, the count of a
buffer is the number of its holders, and the pool has it exactly when it has none.
-/

namespace DpdkTcp

open RefCount

namespace Held

variable {engine : Engine} {extra : Multiset RxWindow} {frames : Multiset ℕ}

/-- A burst of the driver. -/
theorem rxAlloc (held : Held engine extra frames) {addrs : List ℕ} (once : addrs.Nodup)
    (pooled : ∀ addr ∈ addrs, (engine.rxRefs addr).pooled = true) :
    Held (engine.rxAlloc addrs) extra (frames + (addrs : Multiset ℕ)) := by
  have unheld : ∀ addr ∈ addrs, addr ∉ (engine.windows + extra).map Prod.fst + frames :=
    fun addr member => (Refs.Counted.pooled_iff held.counted addr).mp (pooled addr member)
  refine ⟨?_, held.sized, ?_⟩
  · rw [← add_assoc]
    exact held.counted.allocAll once unheld
  · rw [Multiset.nodup_add]
    refine ⟨held.once, Multiset.coe_nodup.mpr once, Multiset.disjoint_left.mpr ?_⟩
    intro addr older newer
    exact unheld addr (Multiset.mem_coe.mp newer) (Multiset.mem_add.mpr (Or.inr older))

/-- A frame is freed, link by link. -/
theorem freeChain {chain : RxChain}
    (held : Held engine extra ((chain.addrs : Multiset ℕ) + frames)) :
    Held (engine.freeChain chain) extra frames := by
  have holders : (engine.windows + extra).map Prod.fst + ((chain.addrs : Multiset ℕ) + frames) =
      (chain.addrs : Multiset ℕ) + ((engine.windows + extra).map Prod.fst + frames) :=
    add_left_comm _ _ _
  refine ⟨?_, held.sized, (Multiset.nodup_add.mp held.once).2.1⟩
  have few : ∀ addr ∈ chain.addrs,
      ((chain.addrs : Multiset ℕ) + ((engine.windows + extra).map Prod.fst + frames)).count addr ≤
        2 ^ 16 := by
    intro addr _
    rw [← holders]
    exact Nat.le_of_lt (held.sized.count_lt held.once addr)
  exact Takes.freeAll few _ (holders ▸ held.counted)

end Held

namespace Engine

variable (engine : Engine)

theorem clearPinnedRxMbufs_windows : engine.clearPinnedRxMbufs.windows = 0 := by
  have nothing : ∀ slot : Option TcpConn, slotWindows (slot.map TcpConn.unpinned) = [] := by
    intro slot
    cases slot <;> rfl
  have table : engine.clearPinnedRxMbufs.flowTable.windows = [] := by
    dsimp only [FlowTable.windows, clearPinnedRxMbufs]
    rw [List.flatMap_map, List.flatMap_eq_nil_iff]
    exact fun slot _ => nothing slot
  rw [windows, table]
  rfl

theorem drop_only : engine.drop.rxRefs = engine.clearPinnedRxMbufs.rxRefs ∧
    engine.drop.windows = 0 := by
  unfold drop
  rw [releaseMbufs_only]
  refine ⟨rfl, ?_⟩
  have table : engine.flowTable.clearAll.windows = [] := by
    dsimp only [FlowTable.windows, FlowTable.clearAll]
    rw [List.flatMap_map, List.flatMap_eq_nil_iff]
    exact fun _ _ => rfl
  dsimp only [windows]
  rw [table]
  rfl

end Engine

/-- Every window of the engine is dropped. -/
theorem Held.emptied {before after : Engine} {frames : Multiset ℕ} (held : Held before 0 frames)
    (windows : after.windows = 0) (rxRefs : after.rxRefs = before.clearPinnedRxMbufs.rxRefs) :
    Held after 0 frames := by
  have split : before.windows + 0 = after.windows + 0 +
      ((before.events.q.flatMap InternalEvent.windows ++ before.flowTable.windows :
        List RxWindow) : Multiset RxWindow) := by
    rw [windows, Engine.windows, ← Multiset.coe_add]
    abel
  refine held.freed split ?_
  rw [rxRefs, List.map_append, Refs.freeAll_append, events_windows_fst, FlowTable.windows_fst]
  rfl

namespace RxHost

/-- The buffers the frames of the burst hold. -/
def frames (rx : RxHost) : List ℕ :=
  (rx.dispatched ++ rx.burst).flatMap RxChain.addrs

/-- The windows of the drained events. -/
def drained (rx : RxHost) : Multiset RxWindow :=
  (rx.drainedEventsScratch.flatMap InternalEvent.windows : List RxWindow)

/-- The live holders of a buffer: the segments of the connections, of the queued events and
of the drained ones that name it, and a frame that is not freed. -/
def holders (rx : RxHost) (addr : ℕ) : ℕ :=
  (rx.host.engine.flowTable.pinned ++ rx.host.engine.events.q.flatMap InternalEvent.pinned ++
    rx.drainedEventsScratch.flatMap InternalEvent.pinned ++ rx.frames).count addr

/-- A burst brings buffers of the pool, and a segment is the payload of an IPv4 packet. -/
def received (rx : RxHost) : RxOp → Bool
  | .rxBurst frames =>
      decide ((frames.flatMap RxChain.addrs).Nodup ∧
        ∀ addr ∈ frames.flatMap RxChain.addrs, (rx.host.engine.rxRefs addr).pooled = true)
  | .rxFrame (some input) =>
      rx.burst.head?.all fun chain =>
        decide ((carriedBytes input.seg (input.mbufCtx chain)).length ≤ MAX_PAYLOAD)
  | .system (.call (.segment _ seg mbufCtx _)) =>
      mbufCtx.isNone && decide ((carriedBytes seg mbufCtx).length ≤ MAX_PAYLOAD)
  | _ => true

/-- The counts are in step, and nothing has a window into a frame before its dispatch. -/
structure Kept (rx : RxHost) : Prop where
  held : Held rx.host.engine rx.drained (rx.frames : Multiset ℕ)
  fresh : ∀ addr ∈ rx.burst.flatMap RxChain.addrs,
    addr ∉ (rx.host.engine.windows + rx.drained).map Prod.fst
  ordered : rx.host.Ordered

namespace Kept

variable {rx : RxHost}

/-- A step without a frame, which only drops windows. -/
theorem less (kept : rx.Kept) {after : RxHost} (burst : after.burst = rx.burst)
    (dispatched : after.dispatched = rx.dispatched)
    (held : Held after.host.engine after.drained (rx.frames : Multiset ℕ))
    (fewer : ∀ addr ∈ (after.host.engine.windows + after.drained).map Prod.fst,
      addr ∈ (rx.host.engine.windows + rx.drained).map Prod.fst)
    (ordered : after.host.Ordered) : after.Kept := by
  refine ⟨?_, ?_, ordered⟩
  · rw [frames, burst, dispatched]
    exact held
  · rw [burst]
    exact fun addr member pinned => kept.fresh addr member (fewer addr pinned)

theorem dropScratch (kept : rx.Kept) : rx.dropScratch.Kept := by
  have nothing : rx.dropScratch.drained = 0 := rfl
  have same : rx.dropScratch.host.engine.windows = rx.host.engine.windows := rfl
  refine kept.less rfl rfl ?_ ?_ kept.ordered
  · refine kept.held.freed ?_ (congrArg rx.host.engine.rxRefs.freeAll
      (events_windows_fst rx.drainedEventsScratch).symm)
    rw [nothing, same, add_zero]
    rfl
  · intro addr member
    rw [nothing, same, add_zero] at member
    rw [Multiset.map_add, Multiset.mem_add]
    exact Or.inl member

/-- The engine is emptied, behind the scratch. -/
theorem emptied (kept : rx.Kept) {after : RxHost} (burst : after.burst = rx.burst)
    (dispatched : after.dispatched = rx.dispatched) (drained : after.drained = 0)
    (windows : after.host.engine.windows = 0)
    (rxRefs : after.host.engine.rxRefs =
      rx.dropScratch.host.engine.clearPinnedRxMbufs.rxRefs)
    (ordered : after.host.Ordered) : after.Kept := by
  refine kept.less burst dispatched ?_ ?_ ordered
  · rw [drained]
    exact kept.dropScratch.held.emptied windows rxRefs
  · rw [drained, windows]
    exact fun addr member => absurd member (Multiset.notMem_zero addr)

/-- A call of the application or of the poll loop, without a frame of the burst. -/
theorem call (kept : rx.Kept) {op : EngineOp} (taken : rx.received (.system (.call op)) = true) :
    (rx.systemStep (.call op)).Kept := by
  have short : (SystemOp.call op).short = true := by
    cases op with
    | segment handle seg mbufCtx env =>
        have bounded := of_decide_eq_true (Bool.and_eq_true_iff.mp taken).2
        exact decide_eq_true (Nat.lt_of_le_of_lt bounded (by decide))
    | _ => rfl
  have ordered := kept.ordered.step short
  by_cases segment : ∃ handle seg mbufCtx env, op = .segment handle seg mbufCtx env
  · rcases segment with ⟨handle, seg, mbufCtx, env, rfl⟩
    rcases Bool.and_eq_true_iff.mp taken with ⟨unbuffered, bounded⟩
    have none : mbufCtx = none := Option.isNone_iff_eq_none.mp unbuffered
    subst none
    have fresh : ∀ ctx : MbufInsertCtx, (none : Option MbufInsertCtx) = some ctx →
        FreshLinks (ctx.mbuf :: ctx.next) (rx.frames : Multiset ℕ) []
          (rx.host.engine.windows + rx.drained) := by
      rintro _ ⟨⟩
    rcases kept.held.tcpInput handle env (kept.ordered handle) (of_decide_eq_true bounded) fresh
      with ⟨held, within⟩
    refine kept.less rfl rfl held (fun addr member => ?_) ordered
    rcases within addr member with old | own
    · exact old
    · cases own
  · have other : ∀ handle seg mbufCtx env, op ≠ .segment handle seg mbufCtx env :=
      fun handle seg mbufCtx env same => segment ⟨handle, seg, mbufCtx, env, same⟩
    rcases rx.host.step_released other with ⟨freed, released⟩
    refine kept.less rfl rfl (kept.held.released released) ?_ ordered
    intro addr member
    refine Multiset.mem_of_le (Multiset.map_le_map (add_le_add_left ?_ _)) member
    rw [← released.windows]
    exact Multiset.le_add_right _ _

/-- Events move from the queue to the scratch, with their windows. -/
theorem drainEvents (kept : rx.Kept) (max : ℕ) : (rx.systemStep (.drainEvents max)).Kept := by
  have short : (SystemOp.drainEvents max).short = true := rfl
  have moved : (rx.systemStep (.drainEvents max)).host.engine.windows +
      (rx.systemStep (.drainEvents max)).drained = rx.host.engine.windows + rx.drained := by
    have queued : (rx.host.engine.events.q.flatMap InternalEvent.windows : Multiset RxWindow) =
        ((rx.host.engine.events.q.take max).flatMap InternalEvent.windows : Multiset RxWindow) +
          ((rx.host.engine.events.q.drop max).flatMap InternalEvent.windows :
            Multiset RxWindow) := by
      rw [Multiset.coe_add, ← List.flatMap_append, List.take_append_drop]
    dsimp only [systemStep, Host.systemStep, Engine.drainEvents, Engine.windows, drained,
      EventQueue.popMany]
    rw [queued, List.flatMap_append, ← Multiset.coe_add]
    abel
  refine kept.less rfl rfl ⟨?_, ?_, kept.held.once⟩ ?_ (kept.ordered.step short)
  · rw [moved]
    exact kept.held.counted
  · rw [moved]
    exact kept.held.sized
  · rw [moved]
    exact fun addr member => member

theorem systemStep (kept : rx.Kept) {op : SystemOp} (taken : rx.received (.system op) = true) :
    (rx.systemStep op).Kept := by
  cases op with
  | call op => exact kept.call taken
  | complete index =>
      have short : (SystemOp.complete index).short = true := rfl
      have same : Released rx.host.engine (rx.host.engine.completeFrame index) [] := by
        unfold Engine.completeFrame
        split
        · exact .of_same rfl rfl
        · rw [Engine.releaseMbufs_only]
          exact .of_same rfl rfl
      refine kept.less rfl rfl (kept.held.released same) ?_ (kept.ordered.step short)
      intro addr member
      have windows := same.windows
      rw [Multiset.coe_nil, add_zero] at windows
      rw [← windows]
      exact member
  | drainEvents max => exact kept.drainEvents max
  | drop =>
      have short : SystemOp.drop.short = true := rfl
      rcases rx.dropScratch.host.engine.drop_only with ⟨rxRefs, windows⟩
      exact kept.emptied rfl rfl rfl windows rxRefs (kept.dropScratch.ordered.step short)

theorem clearPinnedRxMbufs (kept : rx.Kept) : (rx.step .clearPinnedRxMbufs).Kept := by
  refine kept.emptied rfl rfl rfl (Engine.clearPinnedRxMbufs_windows _) rfl ?_
  intro handle conn live
  rcases FlowTable.get_eq_some_iff.mp live with ⟨positive, found⟩
  rw [show (rx.step .clearPinnedRxMbufs).host.engine.flowTable.slots =
      rx.host.engine.flowTable.slots.map (Option.map TcpConn.unpinned) from rfl,
    List.getElem?_map, Option.map_eq_some_iff] at found
  rcases found with ⟨slot, found, cleared⟩
  rcases Option.map_eq_some_iff.mp cleared with ⟨before, rfl, rfl⟩
  have ordered := kept.ordered handle before (FlowTable.get_eq_some_iff.mpr ⟨positive, found⟩)
  exact ⟨ordered.rcvWnd, fun _ => ⟨rfl, rfl⟩, fun _ => ⟨.nil _ _ _, rfl⟩⟩

theorem rxBurst (kept : rx.Kept) {burst : List RxChain}
    (taken : rx.received (.rxBurst burst) = true) : (rx.step (.rxBurst burst)).Kept := by
  rcases of_decide_eq_true taken with ⟨once, pooled⟩
  have held := kept.held.rxAlloc once pooled
  have frames : (rx.step (.rxBurst burst)).frames = rx.frames ++ burst.flatMap RxChain.addrs := by
    dsimp only [step, RxHost.frames]
    rw [← List.append_assoc, List.flatMap_append]
  refine ⟨?_, ?_, kept.ordered⟩
  · rw [frames, ← Multiset.coe_add]
    exact held
  · intro addr member pinned
    rw [show (rx.step (.rxBurst burst)).burst = rx.burst ++ burst from rfl,
      List.flatMap_append] at member
    rcases List.mem_append.mp member with old | new
    · exact kept.fresh addr old pinned
    · refine (Refs.Counted.pooled_iff kept.held.counted addr).mp (pooled addr new) ?_
      exact Multiset.mem_add.mpr (Or.inl pinned)

theorem rxFrame (kept : rx.Kept) {input : Option RxInput}
    (taken : rx.received (.rxFrame input) = true) : (rx.rxFrame input).Kept := by
  unfold RxHost.rxFrame
  generalize waiting : rx.burst = burst
  cases burst with
  | nil => exact kept
  | cons chain rest =>
      have frames : rx.frames = (rx.dispatched ++ [chain] ++ rest).flatMap RxChain.addrs := by
        rw [RxHost.frames, waiting, List.append_assoc]
        rfl
      have once := Multiset.coe_nodup.mp kept.held.once
      rw [frames, List.append_assoc, List.flatMap_append, List.singleton_append,
        List.flatMap_cons] at once
      rcases List.nodup_append.mp (List.nodup_append.mp once).2.1 with ⟨links, _, apart⟩
      have fresh := kept.fresh
      rw [waiting, List.flatMap_cons] at fresh
      cases input with
      | none =>
          refine ⟨?_, fun addr member => fresh addr (List.mem_append_right _ member), kept.ordered⟩
          change Held _ _ (((rx.dispatched ++ [chain] ++ rest).flatMap RxChain.addrs : List ℕ) :
            Multiset ℕ)
          rw [← frames]
          exact kept.held
      | some input =>
          have bounded : (carriedBytes input.seg (input.mbufCtx chain)).length ≤ MAX_PAYLOAD := by
            rw [received, waiting] at taken
            exact of_decide_eq_true taken
          have short : (SystemOp.call (.segment input.handle input.seg (input.mbufCtx chain)
              input.env)).short = true :=
            decide_eq_true (Nat.lt_of_le_of_lt bounded (by decide))
          have own : ∀ ctx, input.mbufCtx chain = some ctx →
              FreshLinks (ctx.mbuf :: ctx.next) (rx.frames : Multiset ℕ) chain.addrs
                (rx.host.engine.windows + rx.drained) := by
            intro ctx built
            rcases Option.map_eq_some_iff.mp built with ⟨offset, _, rfl⟩
            have addr : ∀ link ∈ chain.head :: chain.next, link.addr ∈ chain.addrs :=
              fun link member => List.mem_map_of_mem member
            refine ⟨links, fun link member => ?_, addr, fun link member => ?_⟩
            · rw [frames, List.flatMap_append, List.flatMap_append, List.flatMap_singleton]
              exact Multiset.mem_coe.mpr
                (List.mem_append_left _ (List.mem_append_right _ (addr link member)))
            · exact fresh _ (List.mem_append_left _ (addr link member))
          rcases kept.held.tcpInput input.handle input.env (kept.ordered input.handle) bounded own
            with ⟨held, within⟩
          refine ⟨?_, fun addr member pinned => ?_, kept.ordered.step short⟩
          · change Held _ _ (((rx.dispatched ++ [chain] ++ rest).flatMap RxChain.addrs : List ℕ) :
              Multiset ℕ)
            rw [← frames]
            exact held
          · rcases within addr pinned with old | chained
            · exact fresh addr (List.mem_append_right _ member) old
            · exact apart addr chained addr member rfl

theorem freeFrame (kept : rx.Kept) : (rx.step .freeFrame).Kept := by
  dsimp only [step]
  generalize done : rx.dispatched = dispatched
  cases dispatched with
  | nil => exact kept
  | cons chain rest =>
      have frames : rx.frames = chain.addrs ++ (rest ++ rx.burst).flatMap RxChain.addrs := by
        rw [RxHost.frames, done]
        rfl
      have held := kept.held
      rw [frames, ← Multiset.coe_add] at held
      exact ⟨held.freeChain, kept.fresh, kept.ordered⟩

theorem step (kept : rx.Kept) {op : RxOp} (taken : rx.received op = true) : (rx.step op).Kept := by
  cases op with
  | system op => exact kept.systemStep taken
  | pollOnce => exact kept.dropScratch
  | rxBurst burst => exact kept.rxBurst taken
  | rxFrame input => exact kept.rxFrame taken
  | freeFrame => exact kept.freeFrame
  | clearPinnedRxMbufs => exact kept.clearPinnedRxMbufs

theorem start (cfg : EngineConfig) (maxConnections eventSoftCap : ℕ) :
    (RxHost.start cfg maxConnections eventSoftCap).Kept := by
  have slots : ∀ slots : ℕ, (List.replicate slots none : List (Option TcpConn)).flatMap
      slotWindows = [] := by
    intro slots
    rw [List.flatMap_eq_nil_iff]
    intro slot member
    rw [List.eq_of_mem_replicate member]
    rfl
  have nothing : (RxHost.start cfg maxConnections eventSoftCap).host.engine.windows +
      (RxHost.start cfg maxConnections eventSoftCap).drained = 0 := by
    dsimp only [Engine.windows, RxHost.start, Host.start, Engine.new, FlowTable.windows,
      FlowTable.new]
    rw [slots]
    rfl
  refine ⟨⟨?_, ?_, List.nodup_nil⟩, fun addr member => ?_, Host.ordered_start _ _ _⟩
  · rw [nothing]
    exact fun _ => rfl
  · rw [nothing]
    exact ⟨fun window member => absurd member (Multiset.notMem_zero window),
      fun _ => Nat.zero_le _⟩
  · cases member

/-- The holders the counts agree with. -/
theorem holders_eq (rx : RxHost) (addr : ℕ) :
    ((rx.host.engine.windows + rx.drained).map Prod.fst + (rx.frames : Multiset ℕ)).count addr =
      rx.holders addr := by
  have pinned : (rx.host.engine.windows + rx.drained).map Prod.fst =
      ((rx.host.engine.flowTable.pinned ++ rx.host.engine.events.q.flatMap InternalEvent.pinned ++
        rx.drainedEventsScratch.flatMap InternalEvent.pinned : List ℕ) : Multiset ℕ) := by
    rw [Engine.windows, drained, Multiset.coe_add, Multiset.coe_add, Multiset.map_coe,
      List.map_append, List.map_append, FlowTable.windows_fst, events_windows_fst,
      events_windows_fst]
  rw [pinned, Multiset.coe_add, Multiset.coe_count]
  rfl

end Kept

end RxHost

/-- In every run, the count of a received buffer is the number of its holders, and the pool
has it exactly when there is none. -/
theorem rx_references_conserved {cfg : EngineConfig} {maxConnections eventSoftCap : ℕ}
    {rx : RxHost}
    (run : Run.Reaches RxHost.step (fun rx op => rx.received op = true)
      (RxHost.start cfg maxConnections eventSoftCap) rx) (addr : ℕ) :
    (rx.host.engine.rxRefs addr).refcnt.toNat = rx.holders addr ∧
      ((rx.host.engine.rxRefs addr).pooled = true ↔ rx.holders addr = 0) := by
  have kept : rx.Kept :=
    run.invariant (RxHost.Kept.start cfg maxConnections eventSoftCap)
      fun _ _ kept taken => kept.step taken
  have few := kept.held.sized.count_lt kept.held.once addr
  have counted := kept.held.counted addr
  rw [RxHost.Kept.holders_eq] at few counted
  rw [counted]
  exact ⟨Ref.counted_exact few, decide_eq_true_iff⟩

theorem sevens_fit (len : UInt16) : (List.replicate len.toNat (7 : UInt8)).length < 65536 := by
  rw [List.length_replicate]
  exact len.toNat_lt

/-- A frame whose only buffer is the payload of a segment. -/
def frameOf (addr : ℕ) (seq : Seq) (len : UInt16) : RxChain × RxOp :=
  (⟨⟨addr, List.replicate len.toNat 7, sevens_fit len⟩, []⟩,
    .rxFrame (some ⟨1, peerSegment seq 101#32 TCP_ACK 5000 (List.replicate len.toNat 7), some 0,
      inputAt 2000⟩))

/-- Ten bytes behind a gap, and twenty around them. -/
def carvedRun : List RxOp :=
  [.system (.call (.connect ⟨0x0a000002#32, 40000, 0x0a000001#32, 5000⟩ 100#32 1460
      ⟨false, false, 0, 0, false, 0, false⟩ true 1000)),
    .system (.call (.segment 1 (synAck 100#32 200#32 5000) none (inputAt 1000))),
    .rxBurst [(frameOf 1 211#32 10).1, (frameOf 2 206#32 20).1],
    (frameOf 1 211#32 10).2,
    .freeFrame,
    (frameOf 2 206#32 20).2]

/-- The twenty bytes are carved into two pieces, beside the frame. -/
theorem rx_references_conserved_carved :
    ((carvedRun.foldl RxHost.step (RxHost.start quickCfg 1 64)).host.engine.rxRefs 2).refcnt.toNat =
        3 ∧
      ((carvedRun.foldl RxHost.step (RxHost.start quickCfg 1 64)).host.engine.rxRefs 2).pooled =
        false := by
  have holders : (carvedRun.foldl RxHost.step (RxHost.start quickCfg 1 64)).holders 2 = 3 := by
    decide +kernel
  rcases rx_references_conserved (Run.Reaches.of_admits (by decide +kernel :
      Run.admits RxHost.step RxHost.received (RxHost.start quickCfg 1 64) carvedRun = true)) 2 with
    ⟨refcnt, pooled⟩
  rw [holders] at refcnt pooled
  refine ⟨refcnt, ?_⟩
  rw [← Bool.not_eq_true, pooled]
  decide

end DpdkTcp
