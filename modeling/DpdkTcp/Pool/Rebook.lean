import DpdkTcp.Pool.Held
import DpdkTcp.Reorder.Insert
import DpdkTcp.Window.Tidy

/-!
# How a call rebooks references

A call changes the windows into received buffers and the counts of the buffers.
`Rebooks` says that its changes of the counts match what it does to the windows,
beside the other holders of the buffers.
-/

namespace DpdkTcp

open RefCount Serial

/-- The changes of counts take windows to other windows, where `frames` hold their buffers as
well and windows into other buffers than before are into the `own` ones. -/
structure Rebooks (frames : Multiset ℕ) (own : List ℕ) (before : Multiset RxWindow)
    (updates : List RefUpdate) (after : Multiset RxWindow) : Prop where
  takes : RefCount.Takes 16 (before.map Prod.fst + frames) updates (after.map Prod.fst + frames)
  sized : Sized after
  within : ∀ addr ∈ after.map Prod.fst, addr ∈ before.map Prod.fst ∨ addr ∈ own

/-- Beside its windows a buffer has few holders. -/
def Few (frames : Multiset ℕ) : Prop :=
  ∀ addr, frames.count addr ≤ 2

theorem Few.of_nodup {frames : Multiset ℕ} (once : frames.Nodup) : Few frames := fun addr =>
  (Multiset.nodup_iff_count_le_one.mp once addr).trans (Nat.le_succ 1)

theorem Few.cons {frames : Multiset ℕ} (once : frames.Nodup) (addr : ℕ) :
    Few (addr ::ₘ frames) := by
  intro other
  have one := Multiset.nodup_iff_count_le_one.mp once other
  rw [Multiset.count_cons]
  split <;> omega

theorem Sized.few {windows : Multiset RxWindow} (sized : Sized windows) {frames : Multiset ℕ}
    (few : Few frames) (addr : ℕ) : (windows.map Prod.fst + frames).count addr < 2 ^ 16 := by
  have windows := sized.count_le addr
  have frames := few addr
  rw [Multiset.count_add]
  unfold MAX_PAYLOAD at windows
  omega

/-- A window that does not grow. -/
theorem Sized.shrink {addr len less : ℕ} {windows : Multiset RxWindow}
    (sized : Sized ((addr, len) ::ₘ windows)) (positive : 0 < less) (shorter : less ≤ len) :
    Sized ((addr, less) ::ₘ windows) := by
  constructor
  · intro window member
    rcases Multiset.mem_cons.mp member with rfl | old
    · exact positive
    · exact sized.nonempty window (Multiset.mem_cons_of_mem old)
  · intro other
    have covered := sized.covered other
    rw [span_cons] at covered ⊢
    dsimp only at covered ⊢
    split at covered
    · rename_i same
      rw [if_pos same]
      omega
    · rename_i differs
      rw [if_neg differs]
      exact covered

theorem Sized.tail {window : RxWindow} {windows : Multiset RxWindow}
    (sized : Sized (window ::ₘ windows)) : Sized windows := by
  rw [← Multiset.singleton_add, add_comm] at sized
  exact sized.of_add

/-- A window into a buffer there was no other into. -/
theorem Sized.cons {addr len : ℕ} {windows : Multiset RxWindow} (sized : Sized windows)
    (positive : 0 < len) (fits : span addr windows + len ≤ MAX_PAYLOAD) :
    Sized ((addr, len) ::ₘ windows) := by
  constructor
  · intro window member
    rcases Multiset.mem_cons.mp member with rfl | old
    · exact positive
    · exact sized.nonempty window old
  · intro other
    have covered := sized.covered other
    rw [span_cons]
    dsimp only
    split
    · rename_i same
      rw [← same]
      omega
    · omega

/-- Nothing is covered in a buffer without windows. -/
theorem span_eq_zero {addr : ℕ} {windows : Multiset RxWindow}
    (absent : addr ∉ windows.map Prod.fst) : span addr windows = 0 := by
  induction windows using Multiset.induction_on with
  | empty => rfl
  | cons window rest ih =>
      rw [Multiset.map_cons, Multiset.mem_cons, not_or] at absent
      rw [span_cons, if_neg (Ne.symm absent.1), ih absent.2]

namespace Rebooks

variable {frames : Multiset ℕ} {own : List ℕ} {first second third : Multiset RxWindow}
  {addr len : ℕ}

theorem nothing (sized : Sized first) : Rebooks frames own first [] first :=
  ⟨.nil _, sized, fun _ member => Or.inl member⟩

theorem trans {left right : List RefUpdate} (one : Rebooks frames own first left second)
    (two : Rebooks frames own second right third) :
    Rebooks frames own first (left ++ right) third := by
  refine ⟨one.takes.append two.takes, two.sized, ?_⟩
  intro addr member
  rcases two.within addr member with middle | new
  · exact one.within addr middle
  · exact Or.inr new

theorem widen {more : List ℕ} {updates : List RefUpdate}
    (rebooks : Rebooks frames own first updates second) (owned : ∀ addr ∈ own, addr ∈ more) :
    Rebooks frames more first updates second :=
  ⟨rebooks.takes, rebooks.sized, fun addr member => (rebooks.within addr member).imp_right
    (owned addr)⟩

/-- Windows that move within their buffers. -/
theorem moved (same : second.map Prod.fst = first.map Prod.fst) (sized : Sized second) :
    Rebooks frames own first [] second := by
  refine ⟨?_, sized, fun addr member => Or.inl (same ▸ member)⟩
  rw [same]
  exact .nil _

/-- A window into a buffer that is held. -/
theorem push (sized : Sized first) (held : addr ∈ frames) (inOwn : addr ∈ own)
    (positive : 0 < len) (fits : span addr first + len ≤ MAX_PAYLOAD) :
    Rebooks frames own first [.refcntUpdate addr 1] ((addr, len) ::ₘ first) := by
  refine ⟨?_, sized.cons positive fits, ?_⟩
  · rw [Multiset.map_cons, Multiset.cons_add]
    exact .take (Multiset.mem_add.mpr (Or.inr held))
  · intro other member
    rw [Multiset.map_cons, Multiset.mem_cons] at member
    rcases member with rfl | old
    · exact Or.inr inOwn
    · exact Or.inl old

/-- A window is dropped. -/
theorem pop (sized : Sized ((addr, len) ::ₘ first)) (few : Few frames) :
    Rebooks frames own ((addr, len) ::ₘ first) [.freeSeg addr] first := by
  refine ⟨?_, sized.tail, ?_⟩
  · rw [Multiset.map_cons, Multiset.cons_add]
    exact .free (sized.tail.few few addr)
  · intro other member
    rw [Multiset.map_cons]
    exact Or.inl (Multiset.mem_cons_of_mem member)

/-- Some windows are dropped. -/
theorem free {freed : List RxWindow} (sized : Sized ((freed : Multiset RxWindow) + first))
    (few : Few frames) :
    Rebooks frames own ((freed : Multiset RxWindow) + first) ((freed.map Prod.fst).map .freeSeg)
      first := by
  have rest : Sized first := by
    rw [add_comm] at sized
    exact sized.of_add
  refine ⟨?_, rest, ?_⟩
  rotate_left
  · intro addr member
    rw [Multiset.map_add, Multiset.mem_add]
    exact Or.inl (Or.inr member)
  have holders : ((freed : Multiset RxWindow) + first).map Prod.fst + frames =
      ((freed.map Prod.fst : List ℕ) : Multiset ℕ) + (first.map Prod.fst + frames) := by
    rw [Multiset.map_add, Multiset.map_coe, add_assoc]
  have bound := fun addr => Nat.le_of_lt (sized.few few addr)
  rw [holders] at bound ⊢
  exact .freeAll fun addr _ => bound addr

/-- A buffer is held for the time of a call. -/
theorem around {updates : List RefUpdate}
    (inside : Rebooks (addr ::ₘ frames) own first updates second) (held : addr ∈ frames) :
    Rebooks frames own first ([.refcntUpdate addr 1] ++ updates ++ [.refcntUpdate addr (-1)])
      second := by
  have takes := inside.takes
  rw [Multiset.add_cons, Multiset.add_cons] at takes
  refine ⟨?_, inside.sized, inside.within⟩
  refine .append (.append (.take (Multiset.mem_add.mpr (Or.inr held))) takes) ?_
  exact .giveBack (Multiset.mem_add.mpr (Or.inr held))

end Rebooks

/-! ### The in-order queue -/

theorem RecvQueue.windows_push (recv : RecvQueue) (seg : InOrderSegment) :
    (({ recv with bytes := recv.bytes ++ [seg] } : RecvQueue).windows : Multiset RxWindow) =
      seg.window ::ₘ (recv.windows : Multiset RxWindow) := by
  unfold windows
  rw [List.map_append, List.map_singleton, List.append_assoc, ← Multiset.coe_add,
    ← Multiset.coe_add, ← Multiset.coe_add, Multiset.coe_singleton, Multiset.singleton_add,
    Multiset.add_cons]

/-- The links of a chain are buffers of their own, which nothing keeps a window into yet. -/
structure FreshLinks (links : List RxMbuf) (frames : Multiset ℕ) (own : List ℕ)
    (windows : Multiset RxWindow) : Prop where
  once : (links.map RxMbuf.addr).Nodup
  held : ∀ link ∈ links, link.addr ∈ frames
  owned : ∀ link ∈ links, link.addr ∈ own
  unpinned : ∀ link ∈ links, link.addr ∉ windows.map Prod.fst

namespace FreshLinks

variable {link : RxMbuf} {rest : List RxMbuf} {frames : Multiset ℕ} {own : List ℕ}
  {windows : Multiset RxWindow}

theorem head (fresh : FreshLinks (link :: rest) frames own windows) :
    link.addr ∈ frames ∧ link.addr ∈ own ∧ link.addr ∉ windows.map Prod.fst :=
  ⟨fresh.held link List.mem_cons_self, fresh.owned link List.mem_cons_self,
    fresh.unpinned link List.mem_cons_self⟩

/-- The other links, behind windows into the first one. -/
theorem tail (fresh : FreshLinks (link :: rest) frames own windows) {more : Multiset RxWindow}
    (within : ∀ addr ∈ more.map Prod.fst, addr = link.addr ∨ addr ∈ windows.map Prod.fst) :
    FreshLinks rest frames own more := by
  have once := fresh.once
  rw [List.map_cons, List.nodup_cons] at once
  refine ⟨once.2, fun other member => fresh.held other (List.mem_cons_of_mem _ member),
    fun other member => fresh.owned other (List.mem_cons_of_mem _ member), ?_⟩
  intro other member pinned
  rcases within _ pinned with same | old
  · exact once.1 (List.mem_map.mpr ⟨other, member, same⟩)
  · exact fresh.unpinned other (List.mem_cons_of_mem _ member) old

end FreshLinks

/-- A link is a part of its chain. -/
theorem length_link_le {links : List RxMbuf} {link : RxMbuf} (member : link ∈ links) :
    link.data.length ≤ (links.flatMap RxMbuf.data).length := by
  have inside : link.data ∈ links.map RxMbuf.data := List.mem_map_of_mem member
  rw [List.flatMap_def]
  exact (List.sublist_flatten_of_mem inside).length_le

/-- The walk over the links takes a reference for each window. -/
theorem appendChain_rebooks {frames : Multiset ℕ} {own : List ℕ} (others : Multiset RxWindow)
    (links : List RxMbuf) (appended : Appended)
    (sized : Sized (others + (appended.recv.windows : Multiset RxWindow)))
    (fresh : FreshLinks links frames own (others + (appended.recv.windows : Multiset RxWindow)))
    (short : ∀ link ∈ links, link.data.length ≤ MAX_PAYLOAD) :
    ∃ updates, (appendChain links appended).refUpdates = appended.refUpdates ++ updates ∧
      Rebooks frames own (others + (appended.recv.windows : Multiset RxWindow)) updates
        (others + ((appendChain links appended).recv.windows : Multiset RxWindow)) := by
  induction links generalizing appended with
  | nil => exact ⟨[], (List.append_nil _).symm, .nothing sized⟩
  | cons link rest ih =>
      rcases fresh.head with ⟨held, inOwn, unpinned⟩
      have clear := span_eq_zero unpinned
      have fits := short link List.mem_cons_self
      have shortRest : ∀ other ∈ rest, other.data.length ≤ MAX_PAYLOAD :=
        fun other member => short other (List.mem_cons_of_mem _ member)
      dsimp only [appendChain]
      split
      · exact ⟨[], (List.append_nil _).symm, .nothing sized⟩
      · obtain ⟨taken, take_eq⟩ : ∃ taken, taken = min link.data.length appended.recv.freeSpace :=
          ⟨_, rfl⟩
        rw [← take_eq]
        by_cases some : 0 < taken
        · rw [if_pos some]
          have window : InOrderSegment.window ⟨link, 0, asU16 taken⟩ = (link.addr, taken) := by
            have small := link.dataLen_lt
            rw [InOrderSegment.window, asU16_of_lt (by omega)]
          have grown : others +
                (({ appended.recv with
                  bytes := appended.recv.bytes ++ [⟨link, 0, asU16 taken⟩] } : RecvQueue).windows :
                  Multiset RxWindow) =
              (link.addr, taken) ::ₘ (others + (appended.recv.windows : Multiset RxWindow)) := by
            rw [RecvQueue.windows_push, window, Multiset.add_cons]
          have pushed : Rebooks frames own (others + (appended.recv.windows : Multiset RxWindow))
              [.refcntUpdate link.addr 1]
              ((link.addr, taken) ::ₘ
                (others + (appended.recv.windows : Multiset RxWindow))) :=
            .push sized held inOwn some (by omega)
          have freshRest : FreshLinks rest frames own ((link.addr, taken) ::ₘ
              (others + (appended.recv.windows : Multiset RxWindow))) := by
            apply fresh.tail
            intro addr member
            rw [Multiset.map_cons, Multiset.mem_cons] at member
            exact member
          rw [← grown] at pushed freshRest
          rcases ih { appended.push link 0 taken with
              bufFullDrop := (appended.push link 0 taken).bufFullDrop +
                (link.data.length - taken) } pushed.sized freshRest shortRest with
            ⟨later, updates, rebooked⟩
          refine ⟨_, ?_, pushed.trans rebooked⟩
          rw [updates]
          exact List.append_assoc _ _ _
        · rw [if_neg some]
          exact ih _ sized (fresh.tail fun addr member => Or.inr member) shortRest

/-- The head of an in-order segment and its chain, while the head is held for the dispatch. -/
theorem appendInOrder_rebooks {frames : Multiset ℕ} {own : List ℕ} (others : Multiset RxWindow)
    (recv : RecvQueue) (seg : ParsedSegment) (mbufCtx : Option MbufInsertCtx)
    (sized : Sized (others + (recv.windows : Multiset RxWindow)))
    (short : (carriedBytes seg mbufCtx).length ≤ MAX_PAYLOAD)
    (fresh : ∀ ctx, mbufCtx = some ctx → FreshLinks (ctx.mbuf :: ctx.next) frames own
      (others + (recv.windows : Multiset RxWindow))) :
    Rebooks frames own (others + (recv.windows : Multiset RxWindow))
      (appendInOrder recv seg mbufCtx).refUpdates
      (others + ((appendInOrder recv seg mbufCtx).recv.windows : Multiset RxWindow)) := by
  dsimp only [appendInOrder]
  obtain ⟨taken, take_eq⟩ : ∃ taken, taken = min seg.payload.length recv.freeSpace := ⟨_, rfl⟩
  rw [← take_eq]
  cases mbufCtx with
  | none => exact .nothing sized
  | some ctx =>
      have links := fresh ctx rfl
      rcases links.head with ⟨held, inOwn, unpinned⟩
      rw [length_carriedBytes_some] at short
      dsimp only
      by_cases some : 0 < taken
      · rw [if_pos some]
        have small : taken < 65536 := by
          unfold MAX_PAYLOAD at short
          omega
        have shortLinks : ∀ link ∈ ctx.next, link.data.length ≤ MAX_PAYLOAD := by
          intro link member
          have part := length_link_le member
          omega
        have window : InOrderSegment.window ⟨ctx.mbuf, ctx.payloadOffset, asU16 taken⟩ =
            (ctx.mbuf.addr, taken) := by
          rw [InOrderSegment.window, asU16_of_lt small]
        have clear := span_eq_zero unpinned
        have pushed : Rebooks frames own (others + (recv.windows : Multiset RxWindow))
            [.refcntUpdate ctx.mbuf.addr 1]
            ((ctx.mbuf.addr, taken) ::ₘ (others + (recv.windows : Multiset RxWindow))) :=
          .push sized held inOwn some (by omega)
        have grown : others + ((({ recv := recv } : Appended).push ctx.mbuf ctx.payloadOffset
              taken).recv.windows : Multiset RxWindow) =
            (ctx.mbuf.addr, taken) ::ₘ (others + (recv.windows : Multiset RxWindow)) := by
          dsimp only [Appended.push]
          rw [RecvQueue.windows_push, window, Multiset.add_cons]
        have freshLinks : FreshLinks ctx.next frames own ((ctx.mbuf.addr, taken) ::ₘ
            (others + (recv.windows : Multiset RxWindow))) := by
          apply links.tail
          intro addr member
          rw [Multiset.map_cons, Multiset.mem_cons] at member
          exact member
        rw [← grown] at pushed freshLinks
        rcases appendChain_rebooks others ctx.next _ pushed.sized freshLinks shortLinks with
          ⟨later, updates, rebooked⟩
        rw [updates]
        exact pushed.trans rebooked
      · rw [if_neg some]
        exact .nothing sized

/-! ### The reorder queue -/

/-- A drain gives back the references of the windows it drops and moves the others. -/
theorem drainSegments_rebooks {frames : Multiset ℕ} {own : List ℕ} (few : Few frames)
    (others : Multiset RxWindow) (segs : List OooSegment) (rcvNxt : Seq) (capRoom totalBytes : ℕ)
    (sized : Sized (others + (segs.map OooSegment.window : Multiset RxWindow))) :
    Rebooks frames own (others + (segs.map OooSegment.window : Multiset RxWindow))
      (drainSegments segs rcvNxt capRoom totalBytes).refUpdates
      (others + InOrderSegment.windowsOf (drainSegments segs rcvNxt capRoom totalBytes).appended +
        ((drainSegments segs rcvNxt capRoom totalBytes).segments.map OooSegment.window :
          Multiset RxWindow)) := by
  induction segs generalizing others rcvNxt capRoom totalBytes with
  | nil =>
      have none : InOrderSegment.windowsOf [] = 0 := rfl
      dsimp only [drainSegments]
      rw [none, add_zero]
      exact .nothing sized
  | cons seg rest ih =>
      have split : others + ((seg :: rest).map OooSegment.window : Multiset RxWindow) =
          (seg.mbuf.addr, seg.len) ::ₘ
            (others + (rest.map OooSegment.window : Multiset RxWindow)) := by
        rw [List.map_cons, ← Multiset.cons_coe, Multiset.add_cons]
        rfl
      have none : InOrderSegment.windowsOf [] = 0 := rfl
      dsimp only [drainSegments]
      split
      · dsimp only
        rw [none, add_zero]
        exact .nothing sized
      · rw [split] at sized ⊢
        split
        · exact (Rebooks.pop sized few).trans (ih others rcvNxt capRoom _ sized.tail)
        · obtain ⟨appended, appended_eq⟩ : ∃ appended, appended =
            asU16 (min (seg.len - asU16 (rcvNxt - seg.seq).toNat) capRoom) := ⟨_, rfl⟩
          rw [← appended_eq]
          have shorter : appended ≤ seg.len := by
            have reduced := Nat.mod_le (min (seg.len - asU16 (rcvNxt - seg.seq).toNat) capRoom) 65536
            rw [appended_eq, asU16]
            omega
          split
          · rename_i some
            have less := sized.shrink some shorter
            have same : (seg.mbuf.addr, appended) ::ₘ
                  (others + (rest.map OooSegment.window : Multiset RxWindow)) =
                ((seg.mbuf.addr, appended) ::ₘ others) +
                  (rest.map OooSegment.window : Multiset RxWindow) := by
              rw [Multiset.cons_add]
            have later := ih ((seg.mbuf.addr, appended) ::ₘ others) (seqAdd rcvNxt appended)
              (capRoom - appended) (totalBytes - seg.len) (same ▸ less)
            rw [← same] at later
            dsimp only
            rw [InOrderSegment.windowsOf_cons, Multiset.add_cons]
            rw [Multiset.cons_add] at later
            have moved : Rebooks frames own
                ((seg.mbuf.addr, seg.len) ::ₘ
                  (others + (rest.map OooSegment.window : Multiset RxWindow))) []
                ((seg.mbuf.addr, appended) ::ₘ
                  (others + (rest.map OooSegment.window : Multiset RxWindow))) := by
              refine .moved ?_ less
              rw [Multiset.map_cons, Multiset.map_cons]
            exact moved.trans later
          · exact (Rebooks.pop sized few).trans (ih others _ _ _ sized.tail)

/-- Windows of some lengths into one buffer. -/
theorem Sized.pieces {addr : ℕ} {windows : Multiset RxWindow} (sized : Sized windows)
    {lens : List ℕ} (positive : ∀ len ∈ lens, 0 < len)
    (fits : span addr windows + lens.sum ≤ MAX_PAYLOAD) :
    Sized ((lens.map fun len => (addr, len) : List RxWindow) + windows) ∧
      span addr ((lens.map fun len => (addr, len) : List RxWindow) + windows) =
        span addr windows + lens.sum := by
  induction lens with
  | nil =>
      rw [List.map_nil, Multiset.coe_nil, zero_add]
      exact ⟨sized, rfl⟩
  | cons len rest ih =>
      rw [List.sum_cons] at fits
      rcases ih (fun other member => positive other (List.mem_cons_of_mem _ member))
        (by omega) with ⟨sizedRest, spanRest⟩
      rw [List.map_cons, ← Multiset.cons_coe, Multiset.cons_add, span_cons, if_pos rfl,
        List.sum_cons]
      refine ⟨sizedRest.cons (positive len List.mem_cons_self) (by omega), ?_⟩
      dsimp only
      omega

/-- The reference of the caller and one for each further piece. -/
theorem takes_pieces {holders : Multiset ℕ} {addr pieces : ℕ} (held : addr ∈ holders)
    (some : 0 < pieces) :
    RefCount.Takes 16 holders
      ([RefUpdate.refcntUpdate addr 1] ++
        if 1 < pieces then [RefUpdate.refcntUpdate addr ((pieces : Int) - 1)] else [])
      (Multiset.replicate pieces addr + holders) := by
  have first : RefCount.Takes 16 holders [RefUpdate.refcntUpdate addr 1] (addr ::ₘ holders) :=
    .take held
  obtain ⟨more, rfl⟩ : ∃ more, pieces = more + 1 := ⟨_, (Nat.sub_add_cancel some).symm⟩
  have after : Multiset.replicate (more + 1) addr + holders =
      addr ::ₘ holders + Multiset.replicate more addr := by
    rw [Multiset.replicate_succ, Multiset.cons_add, Multiset.cons_add, add_comm]
  rw [after]
  by_cases further : 1 < more + 1
  · rw [if_pos further, Nat.cast_succ, add_sub_cancel_right]
    exact first.append (.update (Multiset.mem_cons_self _ _) more)
  · rw [if_neg further, List.append_nil, show more = 0 by omega, Multiset.replicate_zero, add_zero]
    exact first

/-- An insert that keeps its buffer takes a reference for each piece, with the one of the
caller; one that does not keep it changes nothing. -/
theorem insert_rebooks {frames : Multiset ℕ} {own : List ℕ} (others : Multiset RxWindow)
    {queue : ReorderQueue} {base : Seq} {width start : ℕ} (tidy : queue.Tidy base width)
    (small : width < 2 ^ 31) {payload : List UInt8} (short : payload.length ≤ MAX_PAYLOAD)
    (ends : start + payload.length ≤ width) (mbuf : RxMbuf) (offset : ℕ)
    (sized : Sized (others + (queue.segments.map OooSegment.window : Multiset RxWindow)))
    (held : mbuf.addr ∈ frames) (inOwn : mbuf.addr ∈ own)
    (unpinned : mbuf.addr ∉
      (others + (queue.segments.map OooSegment.window : Multiset RxWindow)).map Prod.fst) :
    ((queue.insert (point base start) payload mbuf offset).outcome.mbufRefRetained = true ∧
      Rebooks frames own (others + (queue.segments.map OooSegment.window : Multiset RxWindow))
        ([.refcntUpdate mbuf.addr 1] ++
          (queue.insert (point base start) payload mbuf offset).refUpdates)
        (others + ((queue.insert (point base start) payload mbuf offset).queue.segments.map
          OooSegment.window : Multiset RxWindow))) ∨
    (queue.insert (point base start) payload mbuf offset).outcome.mbufRefRetained = false ∧
      (queue.insert (point base start) payload mbuf offset).refUpdates = [] ∧
      (queue.insert (point base start) payload mbuf offset).queue.segments = queue.segments := by
  dsimp only [ReorderQueue.insert]
  by_cases empty : payload.isEmpty = true
  · rw [if_pos empty]
    exact Or.inr ⟨rfl, rfl, rfl⟩
  rw [if_neg empty]
  rcases tidy.carve small payload (by unfold MAX_PAYLOAD at short; omega) ends offset with
    ⟨planned, bounded, _⟩
  generalize queue.carve (point base start) payload offset = carve at planned bounded ⊢
  have stored := insertPieces_perm mbuf carve.toInsert queue.segments
  by_cases some : 0 < carve.toInsert.length
  · refine Or.inl ⟨decide_eq_true some, ?_⟩
    dsimp only
    have windows : ((carve.toInsert.map (pieceSegment mbuf)).map OooSegment.window) =
        (carve.toInsert.map fun piece => piece.2.2).map fun len => (mbuf.addr, len) := by
      rw [List.map_map, List.map_map]
      rfl
    have after : others + (((carve.toInsert.foldl (fun stored piece =>
          insertMerged ⟨piece.1, mbuf, piece.2.1, piece.2.2⟩ stored) queue.segments).map
          OooSegment.window : List RxWindow) : Multiset RxWindow) =
        (((carve.toInsert.map fun piece => piece.2.2).map fun len => (mbuf.addr, len) :
          List RxWindow) : Multiset RxWindow) +
          (others + (queue.segments.map OooSegment.window : Multiset RxWindow)) := by
      have merged := Multiset.coe_eq_coe.mpr (stored.map OooSegment.window)
      rw [List.map_append, windows, ← Multiset.coe_add] at merged
      rw [← add_assoc, add_comm _ others, add_assoc, ← merged]
      rfl
    have grown : Sized (((carve.toInsert.map fun piece => piece.2.2).map fun len =>
        (mbuf.addr, len) : List RxWindow) +
          (others + (queue.segments.map OooSegment.window : Multiset RxWindow))) := by
      refine (sized.pieces ?_ ?_).1
      · intro len member
        rcases List.mem_map.mp member with ⟨piece, inPieces, rfl⟩
        exact planned.nonempty piece inPieces
      · rw [span_eq_zero unpinned, ← planned.total]
        omega
    have addrs : (((carve.toInsert.map fun piece => piece.2.2).map fun len =>
        (mbuf.addr, len) : List RxWindow) : Multiset RxWindow).map Prod.fst =
          Multiset.replicate carve.toInsert.length mbuf.addr := by
      rw [Multiset.map_coe, List.map_map, List.map_map]
      exact congrArg _ List.map_const'
    refine ⟨?_, after ▸ grown, ?_⟩
    · rw [after]
      generalize others + (queue.segments.map OooSegment.window : Multiset RxWindow) = windows
      rw [Multiset.map_add, addrs]
      generalize windows.map Prod.fst = before
      rw [add_assoc]
      exact takes_pieces (Multiset.mem_add.mpr (Or.inr held)) some
    · intro addr member
      rw [after, Multiset.map_add, addrs, Multiset.mem_add] at member
      rcases member with new | old
      · rw [Multiset.eq_of_mem_replicate new]
        exact Or.inr inOwn
      · exact Or.inl old
  · have none : carve.toInsert = [] := by
      rw [← List.length_eq_zero_iff]
      omega
    rw [none]
    exact Or.inr ⟨rfl, rfl, rfl⟩

/-- The links behind the head of an out-of-order segment: each is kept with a reference for
each piece, or given back. -/
theorem insertChain_rebooks {frames : Multiset ℕ} {own : List ℕ} (others : Multiset RxWindow)
    {base : Seq} {width pos : ℕ} (small : width < 2 ^ 31) (ahead : 0 < pos)
    (links : List RxMbuf) (ends : pos + (links.flatMap RxMbuf.data).length ≤ width)
    (short : ∀ link ∈ links, link.data.length ≤ MAX_PAYLOAD) (delivery : Delivery)
    (tidy : delivery.conn.recv.reorder.Tidy base width)
    (sized : Sized (others +
      (delivery.conn.recv.reorder.segments.map OooSegment.window : Multiset RxWindow)))
    (fresh : FreshLinks links frames own (others +
      (delivery.conn.recv.reorder.segments.map OooSegment.window : Multiset RxWindow))) :
    (insertChain links (point base pos) delivery).mbufRefRetained = delivery.mbufRefRetained ∧
    ∃ updates, (insertChain links (point base pos) delivery).refUpdates =
        delivery.refUpdates ++ updates ∧
      Rebooks frames own
        (others + (delivery.conn.recv.reorder.segments.map OooSegment.window : Multiset RxWindow))
        updates
        (others + ((insertChain links (point base pos) delivery).conn.recv.reorder.segments.map
          OooSegment.window : Multiset RxWindow)) := by
  induction links generalizing pos delivery with
  | nil => exact ⟨rfl, [], (List.append_nil _).symm, .nothing sized⟩
  | cons link rest ih =>
      rcases fresh.head with ⟨held, inOwn, unpinned⟩
      have shortRest : ∀ other ∈ rest, other.data.length ≤ MAX_PAYLOAD :=
        fun other member => short other (List.mem_cons_of_mem _ member)
      rw [List.flatMap_cons, List.length_append] at ends
      dsimp only [insertChain]
      split
      · exact ih ahead (by omega) shortRest delivery tidy sized
          (fresh.tail fun addr member => Or.inr member)
      · have stored := tidy.insert small ahead link.dataLen_lt
          (by omega : pos + link.data.length ≤ width) link 0
        have booked := insert_rebooks others tidy small (short link List.mem_cons_self)
          (by omega : pos + link.data.length ≤ width) link 0 sized held
          (List.mem_singleton_self link.addr) unpinned
        rw [seqAdd_point]
        generalize delivery.conn.recv.reorder.insert (point base pos) link.data link 0 = inserted
          at stored booked ⊢
        have linked : Rebooks frames [link.addr]
            (others + (delivery.conn.recv.reorder.segments.map OooSegment.window :
              Multiset RxWindow))
            ([.refcntUpdate link.addr 1] ++ inserted.refUpdates ++
              (if inserted.outcome.mbufRefRetained then [] else [.refcntUpdate link.addr (-1)]))
            (others + (inserted.queue.segments.map OooSegment.window : Multiset RxWindow)) := by
          rcases booked with ⟨retained, booked⟩ | ⟨released, updates, same⟩
          · rw [retained, if_pos rfl, List.append_nil]
            exact booked
          · rw [released, if_neg Bool.false_ne_true, updates, same]
            exact Rebooks.around (.nothing sized) held
        have freshRest : FreshLinks rest frames own
            (others + (inserted.queue.segments.map OooSegment.window : Multiset RxWindow)) := by
          apply fresh.tail
          intro addr member
          rcases linked.within addr member with old | new
          · exact Or.inr old
          · exact Or.inl (List.mem_singleton.mp new)
        have owned : ∀ addr ∈ [link.addr], addr ∈ own := by
          intro addr member
          rw [List.mem_singleton.mp member]
          exact inOwn
        have behind : ∀ next : Delivery, next.conn.recv.reorder = inserted.queue →
            next.mbufRefRetained = delivery.mbufRefRetained →
            next.refUpdates = delivery.refUpdates ++ [.refcntUpdate link.addr 1] ++
              inserted.refUpdates ++
              (if inserted.outcome.mbufRefRetained then [] else [.refcntUpdate link.addr (-1)]) →
            (insertChain rest (point base (pos + link.data.length)) next).mbufRefRetained =
                delivery.mbufRefRetained ∧
              ∃ updates, (insertChain rest (point base (pos + link.data.length)) next).refUpdates =
                  delivery.refUpdates ++ updates ∧
                Rebooks frames own
                  (others + (delivery.conn.recv.reorder.segments.map OooSegment.window :
                    Multiset RxWindow)) updates
                  (others + ((insertChain rest (point base (pos + link.data.length))
                    next).conn.recv.reorder.segments.map OooSegment.window :
                    Multiset RxWindow)) := by
          intro next reorder retained refUpdates
          rw [← reorder] at stored linked freshRest
          rcases ih (by omega : 0 < pos + link.data.length) (by omega) shortRest next stored
            linked.sized freshRest with ⟨kept, later, updates, rebooked⟩
          refine ⟨kept.trans retained, _, ?_, (linked.widen owned).trans rebooked⟩
          rw [updates, refUpdates]
          simp only [List.append_assoc]
        exact behind _ rfl rfl rfl

/-! ### A dispatch -/

theorem drainReorder_rebooks {frames : Multiset ℕ} {own : List ℕ} (few : Few frames)
    (others : Multiset RxWindow) (delivery : Delivery)
    (sized : Sized (others + (delivery.conn.recv.windows : Multiset RxWindow))) :
    (drainReorder delivery).mbufRefRetained = delivery.mbufRefRetained ∧
    ∃ updates, (drainReorder delivery).refUpdates = delivery.refUpdates ++ updates ∧
      Rebooks frames own (others + (delivery.conn.recv.windows : Multiset RxWindow)) updates
        (others + ((drainReorder delivery).conn.recv.windows : Multiset RxWindow)) := by
  dsimp only [drainReorder]
  split
  · exact ⟨rfl, [], (List.append_nil _).symm, .nothing sized⟩
  · refine ⟨rfl, _, rfl, ?_⟩
    dsimp only [RecvQueue.windows] at sized ⊢
    rw [← Multiset.coe_add, ← add_assoc] at sized ⊢
    have drained : Rebooks frames own _ _ _ := drainSegments_rebooks few _ _
      delivery.conn.rcvNxt delivery.conn.recv.freeSpace delivery.conn.recv.reorder.totalBytes sized
    rw [List.map_append, ← Multiset.coe_add, ← Multiset.coe_add, ← add_assoc, ← add_assoc]
    exact drained

/-- The holder of the head for the time of a dispatch. -/
theorem Rebooks.bumped {frames : Multiset ℕ} {own : List ℕ} {before after : Multiset RxWindow}
    {ctx : MbufInsertCtx} {updates : List RefUpdate} {retained : Bool}
    (inside : Rebooks (ctx.mbuf.addr ::ₘ frames) own before updates after)
    (held : ctx.mbuf.addr ∈ frames) (released : retained = false) :
    Rebooks frames own before 
      (Engine.bumpRefs (some ctx) ++ updates ++ Engine.rollbackRefs (some ctx) retained) after := by
  rw [released]
  exact inside.around held

theorem FreshLinks.mono {links : List RxMbuf} {frames more : Multiset ℕ} {own : List ℕ}
    {windows : Multiset RxWindow} (fresh : FreshLinks links frames own windows)
    (held : frames ⊆ more) : FreshLinks links more own windows :=
  ⟨fresh.once, fun link member => held (fresh.held link member), fresh.owned, fresh.unpinned⟩

theorem deliverInOrder_rebooks {frames : Multiset ℕ} {own : List ℕ} (few : Few frames)
    (others : Multiset RxWindow) (conn : TcpConn) (seg : ParsedSegment)
    (mbufCtx : Option MbufInsertCtx)
    (sized : Sized (others + (conn.recv.windows : Multiset RxWindow)))
    (short : (carriedBytes seg mbufCtx).length ≤ MAX_PAYLOAD)
    (fresh : ∀ ctx, mbufCtx = some ctx → FreshLinks (ctx.mbuf :: ctx.next) frames own
      (others + (conn.recv.windows : Multiset RxWindow))) :
    (deliverInOrder conn seg mbufCtx).mbufRefRetained = false ∧
      Rebooks frames own (others + (conn.recv.windows : Multiset RxWindow))
        (deliverInOrder conn seg mbufCtx).refUpdates
        (others + ((deliverInOrder conn seg mbufCtx).conn.recv.windows : Multiset RxWindow)) := by
  have appended := appendInOrder_rebooks others conn.recv seg mbufCtx sized short fresh
  have drained : ∀ delivery : Delivery,
      delivery.conn.recv = (appendInOrder conn.recv seg mbufCtx).recv →
      delivery.refUpdates = (appendInOrder conn.recv seg mbufCtx).refUpdates →
      delivery.mbufRefRetained = false →
      (drainReorder delivery).mbufRefRetained = false ∧
        Rebooks frames own (others + (conn.recv.windows : Multiset RxWindow))
          (drainReorder delivery).refUpdates
          (others + ((drainReorder delivery).conn.recv.windows : Multiset RxWindow)) := by
    intro delivery recv refUpdates retained
    rw [← recv, ← refUpdates] at appended
    rcases drainReorder_rebooks few others delivery appended.sized with
      ⟨kept, later, updates, drained⟩
    rw [updates]
    exact ⟨kept.trans retained, appended.trans drained⟩
  exact drained _ rfl rfl rfl

theorem deliverOutOfOrder_rebooks {frames : Multiset ℕ} {own : List ℕ}
    (others : Multiset RxWindow) {conn : TcpConn} {seg : ParsedSegment} {ctx : MbufInsertCtx}
    {width : ℕ} (small : width < 2 ^ 31) (tidy : conn.recv.reorder.Tidy conn.rcvNxt width)
    (ahead : seg.seq ≠ conn.rcvNxt)
    (window : (seg.seq - conn.rcvNxt).toNat + (carriedBytes seg (some ctx)).length ≤ width)
    (sized : Sized (others + (conn.recv.windows : Multiset RxWindow)))
    (short : (carriedBytes seg (some ctx)).length ≤ MAX_PAYLOAD)
    (fresh : FreshLinks (ctx.mbuf :: ctx.next) frames own
      (others + (conn.recv.windows : Multiset RxWindow))) :
    Rebooks frames own (others + (conn.recv.windows : Multiset RxWindow))
      (Engine.bumpRefs (some ctx) ++ (deliverOutOfOrder conn seg (some ctx)).refUpdates ++
        Engine.rollbackRefs (some ctx) (deliverOutOfOrder conn seg (some ctx)).mbufRefRetained)
      (others + ((deliverOutOfOrder conn seg (some ctx)).conn.recv.windows :
        Multiset RxWindow)) := by
  rcases fresh.head with ⟨held, inOwn, unpinned⟩
  have nothing : Rebooks frames own (others + (conn.recv.windows : Multiset RxWindow))
      (Engine.bumpRefs (some ctx) ++ [] ++ Engine.rollbackRefs (some ctx) false)
      (others + (conn.recv.windows : Multiset RxWindow)) :=
    Rebooks.bumped (.nothing sized) held rfl
  by_cases room : 0 < conn.recv.freeSpaceTotal
  · rw [length_carriedBytes_some] at short window
    have seq := point_toNat_sub conn.rcvNxt seg.seq
    have positive : 0 < (seg.seq - conn.rcvNxt).toNat := by
      rw [Nat.pos_iff_ne_zero]
      intro zero
      rw [zero, point_zero] at seq
      exact ahead seq.symm
    generalize (seg.seq - conn.rcvNxt).toNat = start at window seq positive
    have taken : (seg.payload.take (min seg.payload.length conn.recv.freeSpaceTotal)).length ≤
        seg.payload.length := List.length_take_le' _ _
    have split : others + (conn.recv.windows : Multiset RxWindow) =
        others + (conn.recv.bytes.map InOrderSegment.window : Multiset RxWindow) +
          (conn.recv.reorder.segments.map OooSegment.window : Multiset RxWindow) := by
      rw [RecvQueue.windows, ← Multiset.coe_add, add_assoc]
    rw [split] at sized fresh unpinned nothing ⊢
    have shortHead : (seg.payload.take
        (min seg.payload.length conn.recv.freeSpaceTotal)).length ≤ MAX_PAYLOAD := by omega
    have small16 : (seg.payload.take
        (min seg.payload.length conn.recv.freeSpaceTotal)).length < 65536 := by
      unfold MAX_PAYLOAD at shortHead
      omega
    have ends : start + (seg.payload.take
        (min seg.payload.length conn.recv.freeSpaceTotal)).length ≤ width := by omega
    have stored := tidy.insert small positive small16 ends ctx.mbuf ctx.payloadOffset
    have booked := insert_rebooks _ tidy small shortHead ends ctx.mbuf ctx.payloadOffset sized held
      (List.mem_singleton_self ctx.mbuf.addr) unpinned
    have shortLinks : ∀ link ∈ ctx.next, link.data.length ≤ MAX_PAYLOAD := by
      intro link member
      have part := length_link_le member
      omega
    dsimp only [deliverOutOfOrder]
    rw [if_pos room, ← seq, seqAdd_point]
    generalize conn.recv.reorder.insert (point conn.rcvNxt start) (seg.payload.take
      (min seg.payload.length conn.recv.freeSpaceTotal)) ctx.mbuf ctx.payloadOffset = inserted
      at stored booked ⊢
    obtain ⟨beside, beside_eq⟩ : ∃ beside, beside =
        others + (conn.recv.bytes.map InOrderSegment.window : Multiset RxWindow) := ⟨_, rfl⟩
    rw [← beside_eq] at sized fresh booked ⊢
    have links : ∀ {more : Multiset ℕ}, frames ⊆ more → ∀ {windows : Multiset RxWindow},
        (∀ addr ∈ windows.map Prod.fst, addr ∈ (beside +
            (conn.recv.reorder.segments.map OooSegment.window : Multiset RxWindow)).map Prod.fst ∨
          addr ∈ [ctx.mbuf.addr]) → FreshLinks ctx.next more own windows := by
      intro more held windows within
      refine (fresh.tail ?_).mono held
      intro addr member
      rcases within addr member with old | new
      · exact Or.inr old
      · exact Or.inl (List.mem_singleton.mp new)
    have chained : ∀ first : Delivery, first.conn.recv.bytes = conn.recv.bytes →
        first.conn.recv.reorder = inserted.queue →
        first.mbufRefRetained = inserted.outcome.mbufRefRetained →
        first.refUpdates = inserted.refUpdates →
        Rebooks frames own
          (beside + (conn.recv.reorder.segments.map OooSegment.window : Multiset RxWindow))
          (Engine.bumpRefs (some ctx) ++
            (insertChain ctx.next (point conn.rcvNxt (start + seg.payload.length))
              first).refUpdates ++
            Engine.rollbackRefs (some ctx)
              (insertChain ctx.next (point conn.rcvNxt (start + seg.payload.length))
                first).mbufRefRetained)
          (others + ((insertChain ctx.next (point conn.rcvNxt (start + seg.payload.length))
            first).conn.recv.windows : Multiset RxWindow)) := by
      intro first bytes reorder retained refUpdates
      rw [← reorder] at stored
      have after := insertChain_tidy small (by omega : 0 < start + seg.payload.length) ctx.next
        (by omega) stored
      rw [RecvQueue.windows, after.2.1, bytes, ← Multiset.coe_add, ← add_assoc, ← beside_eq]
      rcases booked with ⟨keeps, booked⟩ | ⟨released, none, same⟩
      · rw [← reorder] at booked
        rcases insertChain_rebooks beside small (by omega : 0 < start + seg.payload.length)
          ctx.next (by omega) shortLinks first stored booked.sized
          (links (fun _ member => member) booked.within) with ⟨kept, later, updates, rebooked⟩
        have owned : ∀ addr ∈ [ctx.mbuf.addr], addr ∈ own := by
          intro addr member
          rw [List.mem_singleton.mp member]
          exact inOwn
        rw [kept, retained, keeps, updates, refUpdates]
        have whole := (booked.widen owned).trans rebooked
        rw [List.append_assoc] at whole
        rw [Engine.rollbackRefs, if_pos rfl, List.append_nil]
        exact whole
      · rw [← same, ← reorder] at sized links ⊢
        rcases insertChain_rebooks beside small (by omega : 0 < start + seg.payload.length)
          ctx.next (by omega) shortLinks first stored sized
          (links (Multiset.subset_of_le (Multiset.le_cons_self frames ctx.mbuf.addr))
            fun _ member => Or.inl member) with ⟨kept, later, updates, rebooked⟩
        rw [updates, refUpdates, none, List.nil_append]
        exact Rebooks.bumped rebooked held (kept.trans (retained.trans released))
    exact chained _ rfl rfl rfl rfl
  · dsimp only [deliverOutOfOrder]
    rw [if_neg room]
    exact nothing

/-- A delivery between the reference taken for the head and its rollback. -/
theorem deliver_rebooks {frames : Multiset ℕ} {own : List ℕ} (once : frames.Nodup)
    (others : Multiset RxWindow) {conn : TcpConn} {seg : ParsedSegment}
    {mbufCtx : Option MbufInsertCtx} {width : ℕ} (small : width < 2 ^ 31)
    (tidy : conn.recv.reorder.Tidy conn.rcvNxt width)
    (window : seg.payload ≠ [] → seg.seq ≠ conn.rcvNxt →
      (seg.seq - conn.rcvNxt).toNat + (carriedBytes seg mbufCtx).length ≤ width)
    (sized : Sized (others + (conn.recv.windows : Multiset RxWindow)))
    (short : (carriedBytes seg mbufCtx).length ≤ MAX_PAYLOAD)
    (fresh : ∀ ctx, mbufCtx = some ctx → FreshLinks (ctx.mbuf :: ctx.next) frames own
      (others + (conn.recv.windows : Multiset RxWindow))) :
    Rebooks frames own (others + (conn.recv.windows : Multiset RxWindow))
      (Engine.bumpRefs mbufCtx ++ (deliver conn seg mbufCtx).refUpdates ++
        Engine.rollbackRefs mbufCtx (deliver conn seg mbufCtx).mbufRefRetained)
      (others + ((deliver conn seg mbufCtx).conn.recv.windows : Multiset RxWindow)) := by
  have idle : Rebooks frames own (others + (conn.recv.windows : Multiset RxWindow))
      (Engine.bumpRefs mbufCtx ++ [] ++ Engine.rollbackRefs mbufCtx false)
      (others + (conn.recv.windows : Multiset RxWindow)) := by
    cases mbufCtx with
    | none => exact .nothing sized
    | some ctx => exact Rebooks.bumped (.nothing sized) (fresh ctx rfl).head.1 rfl
  unfold deliver
  split
  · exact idle
  · rename_i data
    have data : seg.payload ≠ [] := by simpa using data
    split
    · cases mbufCtx with
      | none =>
          rcases deliverInOrder_rebooks (Few.of_nodup once) others conn seg none sized short fresh
            with ⟨released, rebooked⟩
          rw [released]
          have whole := rebooked.trans (.nothing rebooked.sized)
          exact whole
      | some ctx =>
          have held := (fresh ctx rfl).head.1
          rcases deliverInOrder_rebooks (Few.cons once ctx.mbuf.addr) others conn seg (some ctx)
            sized short fun other isCtx => (fresh other isCtx).mono
              (Multiset.subset_of_le (Multiset.le_cons_self frames ctx.mbuf.addr)) with
            ⟨released, rebooked⟩
          exact Rebooks.bumped rebooked held released
    · rename_i ahead
      split
      · cases mbufCtx with
        | none =>
            dsimp only [deliverOutOfOrder]
            split <;> exact idle
        | some ctx =>
            exact deliverOutOfOrder_rebooks others small tidy ahead (window data ahead) sized short
              (fresh ctx rfl)
      · exact idle

/-- The handshake pins no buffer. -/
theorem handleSynSent_windows (conn : TcpConn) (seg : ParsedSegment) (clock : Readings) :
    (handleSynSent conn seg clock).conn.windows = conn.windows ∧
      (handleSynSent conn seg clock).refUpdates = [] ∧
      (handleSynSent conn seg clock).outcome.mbufRefRetained = false := by
  unfold handleSynSent
  split
  · split <;> exact ⟨rfl, rfl, rfl⟩
  · split
    · exact ⟨rfl, rfl, rfl⟩
    · split
      · exact ⟨rfl, rfl, rfl⟩
      · split
        · exact ⟨rfl, rfl, rfl⟩
        · split
          · exact ⟨rfl, rfl, rfl⟩
          · dsimp only
            rw [maybeSeed_only]
            exact ⟨rfl, rfl, rfl⟩

/-- A dispatch between the reference taken for the head of the frame and its rollback. -/
theorem dispatch_rebooks {conn : TcpConn} (ordered : conn.Ordered)
    {frames : Multiset ℕ} {own : List ℕ} (once : frames.Nodup) (others : Multiset RxWindow)
    {seg : ParsedSegment} {mbufCtx : Option MbufInsertCtx} (clock : Readings) (sendBuf : ℕ)
    (sized : Sized (others + (conn.windows : Multiset RxWindow)))
    (short : (carriedBytes seg mbufCtx).length ≤ MAX_PAYLOAD)
    (fresh : ∀ ctx, mbufCtx = some ctx → FreshLinks (ctx.mbuf :: ctx.next) frames own
      (others + (conn.windows : Multiset RxWindow))) :
    Rebooks frames own (others + (conn.windows : Multiset RxWindow))
      (Engine.bumpRefs mbufCtx ++ (dispatch conn seg clock sendBuf mbufCtx).refUpdates ++
        Engine.rollbackRefs mbufCtx
          (dispatch conn seg clock sendBuf mbufCtx).outcome.mbufRefRetained)
      (others + ((dispatch conn seg clock sendBuf mbufCtx).conn.windows : Multiset RxWindow)) := by
  have idle : ∀ dispatched : Dispatched, dispatched.conn.windows = conn.windows →
      dispatched.refUpdates = [] → dispatched.outcome.mbufRefRetained = false →
      Rebooks frames own (others + (conn.windows : Multiset RxWindow))
        (Engine.bumpRefs mbufCtx ++ dispatched.refUpdates ++
          Engine.rollbackRefs mbufCtx dispatched.outcome.mbufRefRetained)
        (others + (dispatched.conn.windows : Multiset RxWindow)) := by
    intro dispatched windows refUpdates released
    rw [windows, refUpdates, released]
    cases mbufCtx with
    | none => exact .nothing sized
    | some ctx => exact Rebooks.bumped (.nothing sized) (fresh ctx rfl).head.1 rfl
  by_cases opening : conn.state = .synSent
  · have shake : dispatch conn seg clock sendBuf mbufCtx = handleSynSent conn seg clock := by
      rw [dispatch, opening]
    rcases handleSynSent_windows conn seg clock with ⟨windows, refUpdates, released⟩
    rw [shake]
    exact idle _ windows refUpdates released
  · cases dispatch_receives opening seg clock sendBuf mbufCtx with
    | idle delivered recv fin closing rcvNxt shown refUpdates released =>
        exact idle _ (by rw [TcpConn.windows, recv, shown, TcpConn.windows]) refUpdates released
    | data running acceptable known raced same owner fin closing delivered recv rcvNxt shown
        refUpdates retained =>
        have small16 : (carriedBytes seg mbufCtx).length < 65536 := by
          unfold MAX_PAYLOAD at short
          omega
        have shape : ∀ conn : TcpConn, others + (conn.windows : Multiset RxWindow) =
            others + (conn.deliveredSegments.map InOrderSegment.window : Multiset RxWindow) +
              (conn.recv.windows : Multiset RxWindow) := by
          intro conn
          rw [TcpConn.windows, ← Multiset.coe_add, add_assoc, add_comm (conn.recv.windows : Multiset RxWindow)]
        have kept : (deliver raced seg mbufCtx).conn.deliveredSegments = raced.deliveredSegments := by
          rw [(deliver_change raced seg mbufCtx).only]
        rw [refUpdates, retained, shape conn, shape (dispatch conn seg clock sendBuf mbufCtx).conn,
          recv, shown, kept, same.deliveredSegments, ← same.recv]
        rw [shape conn, ← same.recv] at sized fresh
        refine deliver_rebooks once _ (by decide : REORDER_WIDTH < 2 ^ 31) ?_ ?_ sized short fresh
        · rw [same.recv, same.rcvNxt]
          exact ordered.tidy running
        · intro data _
          rw [same.rcvNxt]
          exact ordered.carried_inside acceptable data small16

end DpdkTcp
