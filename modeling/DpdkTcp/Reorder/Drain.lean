import DpdkTcp.Window.Spread

/-!
# Draining the reorder queue

A drain at `rcv_nxt` appends the maximal run of stored bytes that starts there,
cut off after the room there is. The bytes are followed by where they are
stored: a cell is a buffer and an offset in it.
-/

namespace DpdkTcp

open Serial Intervals

/-- The cells of a window, in order. -/
def windowCells (mbuf : RxMbuf) (offset len : ℕ) : List (RxMbuf × ℕ) :=
  (List.range len).map fun index => (mbuf, offset + index)

/-- The bytes of a segment, each by its place in the buffer. -/
def InOrderSegment.cells (seg : InOrderSegment) : List (RxMbuf × ℕ) :=
  windowCells seg.mbuf seg.offset seg.len

/-- The segment holds the byte at this distance from `base`. -/
def OooSegment.holds (base : Seq) (pos : ℕ) (seg : OooSegment) : Bool :=
  decide (seg.ahead base ≤ pos ∧ pos < seg.ahead base + seg.len)

/-- The cell of the byte at a distance from `base`, when it is stored. -/
def storedCell (base : Seq) (segs : List OooSegment) (pos : ℕ) : Option (RxMbuf × ℕ) :=
  (segs.find? (OooSegment.holds base pos)).map fun seg =>
    (seg.mbuf, seg.offset + (pos - seg.ahead base))

/-- The bytes of a segment from a position on. -/
def OooSegment.beyond (base : Seq) (cur : ℕ) (seg : OooSegment) : ℕ :=
  seg.ahead base + seg.len - max cur (seg.ahead base)

/-- A queue in order: disjoint segments in a span of `width` numbers from `base` on, each a
window of its buffer, and a count that is their total length and at most the cap. -/
structure ReorderQueue.Valid (queue : ReorderQueue) (base : Seq) (width : ℕ) : Prop where
  spread : SpreadOver base 0 width queue.segments
  windows : ∀ seg ∈ queue.segments, seg.offset + seg.len ≤ seg.mbuf.data.length
  total : queue.totalBytes = (queue.segments.map OooSegment.len).sum
  capped : queue.totalBytes ≤ queue.cap

/-- Why a drain that appended up to `frontier` removed a segment: it is stale, part of it was
appended, or it was reached with no room left. -/
def OooSegment.Leaves (base : Seq) (cur frontier : ℕ) (full : Prop) (seg : OooSegment) : Prop :=
  seg.ahead base + seg.len ≤ cur ∨
    max cur (seg.ahead base) < min frontier (seg.ahead base + seg.len) ∨
    full ∧ seg.ahead base ≤ frontier

/-- What a drain at `cur` with some room does to the segments found. -/
structure DrainsRun (base : Seq) (segs : List OooSegment) (cur capRoom : ℕ)
    (removed remaining : List OooSegment) (appended : List InOrderSegment)
    (bytesAppended capDropped : ℕ) : Prop where
  split : segs = removed ++ remaining
  room : bytesAppended ≤ capRoom
  maximal : bytesAppended < capRoom →
    ¬ Covered (OooSegment.ahead base) OooSegment.len segs (cur + bytesAppended)
  cells : (appended.flatMap InOrderSegment.cells).map some =
    (List.range bytesAppended).map fun index => storedCell base segs (cur + index)
  dropped : capDropped + bytesAppended = (removed.map (OooSegment.beyond base cur)).sum
  reason : ∀ seg ∈ removed,
    seg.Leaves base cur (cur + bytesAppended) (bytesAppended = capRoom)
  behind : ∀ seg ∈ remaining, cur + bytesAppended < seg.ahead base

section Cells

variable {base : Seq} {pos : ℕ} {seg : OooSegment} {rest : List OooSegment}

theorem storedCell_cons_of_mem (begins : seg.ahead base ≤ pos)
    (ends : pos < seg.ahead base + seg.len) :
    storedCell base (seg :: rest) pos = some (seg.mbuf, seg.offset + (pos - seg.ahead base)) := by
  have holds : seg.holds base pos = true := decide_eq_true ⟨begins, ends⟩
  rw [storedCell, List.find?_cons_of_pos holds]
  rfl

theorem storedCell_cons_of_end_le (passed : seg.ahead base + seg.len ≤ pos) :
    storedCell base (seg :: rest) pos = storedCell base rest pos := by
  have other : ¬ seg.holds base pos = true := by
    intro holds
    have inside := of_decide_eq_true holds
    omega
  rw [storedCell, storedCell, List.find?_cons_of_neg other]

theorem covered_cons_of_end_le (passed : seg.ahead base + seg.len ≤ pos) :
    Covered (OooSegment.ahead base) OooSegment.len (seg :: rest) pos ↔
      Covered (OooSegment.ahead base) OooSegment.len rest pos := by
  rw [← List.singleton_append, covered_append, covered_singleton]
  exact or_iff_right (by omega)

end Cells

namespace DrainsRun

variable {base : Seq} {low high cur capRoom : ℕ} {seg : OooSegment}
  {rest removed remaining : List OooSegment} {appended : List InOrderSegment}
  {bytesAppended capDropped : ℕ}

/-- No segment reaches `rcv_nxt`. -/
theorem stop {segs : List OooSegment} (ahead : ∀ seg ∈ segs, cur < seg.ahead base) :
    DrainsRun base segs cur capRoom [] segs [] 0 0 := by
  refine ⟨rfl, Nat.zero_le _, ?_, rfl, rfl, by simp, ahead⟩
  rintro _ ⟨seg, member, begins, _⟩
  have later := ahead seg member
  omega

/-- A segment behind `rcv_nxt` is removed. -/
theorem stale (run : DrainsRun base rest cur capRoom removed remaining appended bytesAppended
      capDropped) (passed : seg.ahead base + seg.len ≤ cur) :
    DrainsRun base (seg :: rest) cur capRoom (seg :: removed) remaining appended bytesAppended
      capDropped := by
  refine ⟨by rw [run.split, List.cons_append], run.room, ?_, ?_, ?_, ?_, run.behind⟩
  · intro short
    rw [covered_cons_of_end_le (by omega)]
    exact run.maximal short
  · rw [run.cells]
    apply List.map_congr_left
    intro index _
    exact (storedCell_cons_of_end_le (by omega)).symm
  · have nothing : seg.beyond base cur = 0 := by
      rw [OooSegment.beyond]
      omega
    rw [List.map_cons, List.sum_cons, nothing, Nat.zero_add]
    exact run.dropped
  · intro other member
    rcases List.mem_cons.mp member with rfl | later
    · exact Or.inl passed
    · exact run.reason other later

/-- A segment that `rcv_nxt` lies in is removed, and as many of its bytes as fit are appended in
front of what the rest of the drain appends. -/
theorem take {count : ℕ} (tail : ∀ other ∈ rest, seg.ahead base + seg.len ≤ other.ahead base)
    (nonempty : ∀ other ∈ rest, 0 < other.len)
    (begins : seg.ahead base ≤ cur) (ends : cur < seg.ahead base + seg.len)
    (taken : count = min (seg.ahead base + seg.len - cur) capRoom)
    (run : DrainsRun base rest (cur + count) (capRoom - count) removed remaining appended
      bytesAppended capDropped) :
    DrainsRun base (seg :: rest) cur capRoom (seg :: removed) remaining
      (if 0 < count then ⟨seg.mbuf, seg.offset + (cur - seg.ahead base), count⟩ :: appended
        else appended)
      (count + bytesAppended) (seg.ahead base + seg.len - cur - count + capDropped) := by
  have room := run.room
  have inRest : ∀ other ∈ removed, cur + count ≤ other.ahead base := by
    intro other member
    have later := tail other (by rw [run.split]; exact List.mem_append_left _ member)
    omega
  refine ⟨by rw [run.split, List.cons_append], by omega, ?_, ?_, ?_, ?_, ?_⟩
  · intro short
    rw [← Nat.add_assoc, covered_cons_of_end_le (by omega)]
    exact run.maximal (by omega)
  · have first : (if 0 < count then
        (⟨seg.mbuf, seg.offset + (cur - seg.ahead base), count⟩ : InOrderSegment) :: appended
        else appended).flatMap InOrderSegment.cells =
        windowCells seg.mbuf (seg.offset + (cur - seg.ahead base)) count ++
          appended.flatMap InOrderSegment.cells := by
      split
      · rw [List.flatMap_cons]
        rfl
      · rename_i zero
        rw [Nat.eq_zero_of_not_pos zero]
        rfl
    rw [first, List.map_append, run.cells, List.range_add, List.map_append]
    congr 1
    · rw [windowCells, List.map_map]
      apply List.map_congr_left
      intro index member
      have below := List.mem_range.mp member
      rw [storedCell_cons_of_mem (by omega) (by omega), Function.comp_apply,
        show cur + index - seg.ahead base = cur - seg.ahead base + index by omega, Nat.add_assoc]
    · rw [List.map_map]
      apply List.map_congr_left
      intro index member
      have below := List.mem_range.mp member
      rw [Function.comp_apply, storedCell_cons_of_end_le (by omega), Nat.add_assoc]
  · have same : removed.map (OooSegment.beyond base (cur + count)) =
        removed.map (OooSegment.beyond base cur) := by
      apply List.map_congr_left
      intro other member
      have later := inRest other member
      rw [OooSegment.beyond, OooSegment.beyond]
      omega
    have dropped := run.dropped
    rw [same] at dropped
    rw [List.map_cons, List.sum_cons, ← dropped, OooSegment.beyond]
    omega
  · intro other member
    rcases List.mem_cons.mp member with rfl | member
    · by_cases some : 0 < count
      · right
        left
        omega
      · right
        right
        omega
    · have later := inRest other member
      have positive := nonempty other (by rw [run.split]; exact List.mem_append_left _ member)
      have reason := run.reason other member
      rw [OooSegment.Leaves] at reason ⊢
      omega
  · intro other member
    rw [← Nat.add_assoc]
    exact run.behind other member

end DrainsRun

/-- A drain appended the run of stored bytes at `cur`, and its count lost what it removed. -/
def Drained.Exact (drained : Drained) (base : Seq) (segs : List OooSegment)
    (cur capRoom totalBytes : ℕ) : Prop :=
  ∃ removed, DrainsRun base segs cur capRoom removed drained.segments drained.appended
      drained.bytesAppended drained.capDropped ∧
    drained.totalBytes + (removed.map OooSegment.len).sum = totalBytes

/-- The loop of the drain appends the run of stored bytes at `rcv_nxt`. -/
theorem drainSegments_run {base : Seq} {low width cur capRoom totalBytes : ℕ}
    {segs : List OooSegment} (spread : SpreadOver base low width segs) (small : width < 2 ^ 31)
    (near : cur < 2 ^ 31) (windows : ∀ seg ∈ segs, seg.offset + seg.len < 65536)
    (enough : (segs.map OooSegment.len).sum ≤ totalBytes) :
    (drainSegments segs (point base cur) capRoom totalBytes).Exact base segs cur capRoom
      totalBytes := by
  induction segs generalizing low cur capRoom totalBytes with
  | nil => exact ⟨[], .stop (by simp), rfl⟩
  | cons seg rest ih =>
      rcases spread.head with ⟨positive, above, inside⟩
      have tail := spread.tail
      have window := windows seg (List.mem_cons_self ..)
      have windowsRest : ∀ other ∈ rest, other.offset + other.len < 65536 :=
        fun other member => windows other (List.mem_cons_of_mem _ member)
      rw [List.map_cons, List.sum_cons] at enough
      have startOrder : seqLt (point base cur) seg.seq = decide (cur < seg.ahead base) := by
        rw [← OooSegment.point_ahead base seg]
        exact seqLt_point base (by omega) (by omega)
      have endOrder : seqLe seg.endSeq (point base cur) =
          decide (seg.ahead base + seg.len ≤ cur) := by
        rw [OooSegment.endSeq_eq base]
        exact seqLe_point base (by omega) (by omega)
      dsimp only [drainSegments]
      rw [startOrder, endOrder]
      by_cases gap : cur < seg.ahead base
      · rw [decide_eq_true gap, if_pos rfl]
        refine ⟨[], .stop ?_, rfl⟩
        intro other member
        rcases List.mem_cons.mp member with rfl | later
        · exact gap
        · have behind := tail.after other later
          omega
      · rw [decide_eq_false gap, if_neg Bool.false_ne_true]
        by_cases stale : seg.ahead base + seg.len ≤ cur
        · rw [decide_eq_true stale, if_pos rfl]
          rcases ih tail near windowsRest (by omega : _ ≤ totalBytes - seg.len) with
            ⟨removed, run, total⟩
          refine ⟨seg :: removed, run.stale stale, ?_⟩
          rw [List.map_cons, List.sum_cons]
          dsimp only
          omega
        · rw [decide_eq_false stale, if_neg Bool.false_ne_true]
          have skip : asU16 (point base cur - seg.seq).toNat = cur - seg.ahead base := by
            rw [← OooSegment.point_ahead base seg,
              toNat_point_sub_point base (by omega) (by omega)]
            exact asU16_of_lt (by omega)
          have kept : seg.len - (cur - seg.ahead base) = seg.ahead base + seg.len - cur := by omega
          rw [skip, kept]
          obtain ⟨count, taken⟩ :
            ∃ count, count = min (seg.ahead base + seg.len - cur) capRoom := ⟨_, rfl⟩
          rw [← taken, asU16_of_lt (by omega : count < 65536),
            asU16_of_lt (by omega : seg.offset + (cur - seg.ahead base) < 65536), seqAdd_point]
          have later : (drainSegments rest (point base (cur + count)) (capRoom - count)
              (totalBytes - seg.len)).Exact base rest (cur + count) (capRoom - count)
              (totalBytes - seg.len) := ih tail (by omega) windowsRest (by omega)
          rcases later with ⟨removed, run, total⟩
          have whole := run.take tail.after tail.nonempty (by omega) (by omega) taken
          refine ⟨seg :: removed, ?_, ?_⟩
          · by_cases some : 0 < count
            · rw [if_pos some] at whole ⊢
              exact whole
            · have zero : count = 0 := by omega
              rw [if_neg some] at whole ⊢
              subst zero
              rw [Nat.zero_add, Nat.sub_zero] at whole
              exact whole
          · rw [List.map_cons, List.sum_cons]
            split <;> dsimp only <;> omega

theorem ReorderQueue.Valid.offset_add_len_lt {queue : ReorderQueue} {base : Seq} {width : ℕ}
    (valid : queue.Valid base width) : ∀ seg ∈ queue.segments, seg.offset + seg.len < 65536 := by
  intro seg member
  have window := valid.windows seg member
  have short := seg.mbuf.dataLen_lt
  omega

/-- A drain keeps a queue valid, wherever it starts in the span. -/
theorem ReorderQueue.Valid.drain {queue : ReorderQueue} {base : Seq} {width cur : ℕ}
    (valid : queue.Valid base width) (small : width < 2 ^ 31) (near : cur < 2 ^ 31) (capRoom : ℕ)
    (out : List InOrderSegment) :
    (queue.drainContiguousInto (point base cur) capRoom out).queue.Valid base width := by
  have drained : DrainedOver base width cur
      (drainSegments queue.segments (point base cur) capRoom queue.totalBytes) :=
    drainSegments_over valid.spread small near valid.total
  have exact_ : (drainSegments queue.segments (point base cur) capRoom queue.totalBytes).Exact base
      queue.segments cur capRoom queue.totalBytes :=
    drainSegments_run valid.spread small near valid.offset_add_len_lt valid.total.ge
  rcases exact_ with ⟨removed, run, total⟩
  have capped := valid.capped
  dsimp only [ReorderQueue.drainContiguousInto]
  refine ⟨drained.remaining.mono (Nat.zero_le _) (Nat.le_refl _), ?_, drained.total, ?_⟩
  · intro seg member
    apply valid.windows seg
    rw [run.split]
    exact List.mem_append_right _ member
  · dsimp only
    omega

/-- A drain of a valid queue appends exactly the stored bytes of the run at `rcv_nxt`, as far as
there is room, and leaves a valid queue of the segments behind it. -/
theorem drain_appends_run {queue : ReorderQueue} {base rcvNxt : Seq} {width : ℕ}
    (valid : queue.Valid base width) (small : width < 2 ^ 31)
    (inSpan : (rcvNxt - base).toNat ≤ width) (capRoom : ℕ) (out : List InOrderSegment) :
    ∃ removed appended,
      (queue.drainContiguousInto rcvNxt capRoom out).out = out ++ appended ∧
      DrainsRun base queue.segments (rcvNxt - base).toNat capRoom removed
        (queue.drainContiguousInto rcvNxt capRoom out).queue.segments appended
        (queue.drainContiguousInto rcvNxt capRoom out).bytesAppended
        (queue.drainContiguousInto rcvNxt capRoom out).capDropped ∧
      (queue.drainContiguousInto rcvNxt capRoom out).queue.totalBytes +
        (removed.map OooSegment.len).sum = queue.totalBytes ∧
      (queue.drainContiguousInto rcvNxt capRoom out).queue.cap = queue.cap ∧
      (queue.drainContiguousInto rcvNxt capRoom out).queue.Valid base width := by
  have kept := valid.drain small (by omega : (rcvNxt - base).toNat < 2 ^ 31) capRoom out
  have exact_ : (drainSegments queue.segments (point base (rcvNxt - base).toNat) capRoom
      queue.totalBytes).Exact base queue.segments (rcvNxt - base).toNat capRoom queue.totalBytes :=
    drainSegments_run valid.spread small (by omega) valid.offset_add_len_lt valid.total.ge
  rw [point_toNat_sub] at kept exact_
  rcases exact_ with ⟨removed, run, total⟩
  exact ⟨removed, _, rfl, run, total, rfl, kept⟩

/-- Two adjacent windows around the wrap of the number space, the second of which does not fit. -/
theorem drain_appends_run_cut :
    (ReorderQueue.drainContiguousInto ⟨[⟨4294967295#32, ⟨1, [1, 2, 3], by decide⟩, 0, 3⟩,
        ⟨2#32, ⟨2, [4, 5], by decide⟩, 0, 2⟩, ⟨9#32, ⟨3, [6], by decide⟩, 0, 1⟩], 100, 6⟩
        0#32 3 []).bytesAppended = 3 ∧
      ∃ removed appended, [] ++ appended = [⟨⟨1, [1, 2, 3], by decide⟩, 1, 2⟩,
          ⟨⟨2, [4, 5], by decide⟩, 0, 1⟩] ∧
        DrainsRun 4294967295#32 [⟨4294967295#32, ⟨1, [1, 2, 3], by decide⟩, 0, 3⟩,
          ⟨2#32, ⟨2, [4, 5], by decide⟩, 0, 2⟩, ⟨9#32, ⟨3, [6], by decide⟩, 0, 1⟩] 1 3 removed
          [⟨9#32, ⟨3, [6], by decide⟩, 0, 1⟩] appended 3 1 := by
  refine ⟨by decide, ?_⟩
  have valid : ReorderQueue.Valid ⟨[⟨4294967295#32, ⟨1, [1, 2, 3], by decide⟩, 0, 3⟩,
      ⟨2#32, ⟨2, [4, 5], by decide⟩, 0, 2⟩, ⟨9#32, ⟨3, [6], by decide⟩, 0, 1⟩], 100, 6⟩
      4294967295#32 20 :=
    ⟨⟨by unfold Spread; decide, by decide, by decide, by decide, by decide⟩, by decide, by decide,
      by decide⟩
  rcases drain_appends_run valid (by decide) (by decide : (0#32 - 4294967295#32).toNat ≤ 20) 3 [] with
    ⟨removed, appended, out, run, _⟩
  exact ⟨removed, appended, out.symm, run⟩

end DpdkTcp
