import DpdkTcp.Pool.Windows

/-!
# Counts in step with the windows

The counts of the received buffers agree with the windows into them and the
frames that still hold their buffers. No window is empty and those into one
buffer cover no more than an IPv4 packet carries, so that a 16-bit count is exact.
-/

namespace DpdkTcp

open RefCount

/-- The most payload a TCP segment carries: an IPv4 packet less its two headers. -/
def MAX_PAYLOAD : ℕ := 65535 - 40

/-- The bytes windows cover in the buffer at an address. -/
def span (addr : ℕ) (windows : Multiset RxWindow) : ℕ :=
  (windows.map fun window => if window.1 = addr then window.2 else 0).sum

section Span

variable (addr : ℕ)

theorem span_add (left right : Multiset RxWindow) :
    span addr (left + right) = span addr left + span addr right := by
  rw [span, Multiset.map_add, Multiset.sum_add]
  rfl

theorem span_cons (window : RxWindow) (windows : Multiset RxWindow) :
    span addr (window ::ₘ windows) =
      (if window.1 = addr then window.2 else 0) + span addr windows := by
  rw [span, Multiset.map_cons, Multiset.sum_cons]
  rfl

theorem span_zero : span addr 0 = 0 :=
  rfl

/-- Windows that are not empty are no more than the bytes they cover. -/
theorem count_le_span {windows : Multiset RxWindow} (nonempty : ∀ window ∈ windows, 0 < window.2) :
    (windows.map Prod.fst).count addr ≤ span addr windows := by
  induction windows using Multiset.induction_on with
  | empty => exact Nat.le_refl _
  | cons window rest ih =>
      have tail := ih fun other member => nonempty other (Multiset.mem_cons_of_mem member)
      have head := nonempty window (Multiset.mem_cons_self window rest)
      rw [span_cons, Multiset.map_cons, Multiset.count_cons]
      by_cases same : window.1 = addr
      · rw [if_pos same, if_pos same.symm]
        omega
      · rw [if_neg same, if_neg (Ne.symm same)]
        omega

end Span

/-- No window is empty, and the windows into a buffer cover no more than a segment carries. -/
structure Sized (windows : Multiset RxWindow) : Prop where
  nonempty : ∀ window ∈ windows, 0 < window.2
  covered : ∀ addr, span addr windows ≤ MAX_PAYLOAD

theorem Sized.of_add {left right : Multiset RxWindow} (sized : Sized (left + right)) :
    Sized left := by
  refine ⟨fun window member => sized.nonempty window (Multiset.mem_add.mpr (Or.inl member)), ?_⟩
  intro addr
  have covered := sized.covered addr
  rw [span_add] at covered
  omega

theorem Sized.count_le {windows : Multiset RxWindow} (sized : Sized windows) (addr : ℕ) :
    (windows.map Prod.fst).count addr ≤ MAX_PAYLOAD :=
  Nat.le_trans (count_le_span addr sized.nonempty) (sized.covered addr)

/-- A buffer has fewer holders than its count can tell. -/
theorem Sized.count_lt {windows : Multiset RxWindow} (sized : Sized windows)
    {frames : Multiset ℕ} (once : frames.Nodup) (addr : ℕ) :
    (windows.map Prod.fst + frames).count addr < 2 ^ 16 := by
  have windows := sized.count_le addr
  have once := Multiset.nodup_iff_count_le_one.mp once addr
  rw [Multiset.count_add]
  unfold MAX_PAYLOAD at windows
  omega

/-- The counts follow the windows of the engine, further windows beside it, and the frames
that hold their buffers. -/
structure Held (engine : Engine) (extra : Multiset RxWindow) (frames : Multiset ℕ) : Prop where
  counted : engine.rxRefs.Counted ((engine.windows + extra).map Prod.fst + frames)
  sized : Sized (engine.windows + extra)
  once : frames.Nodup

namespace Held

variable {before after : Engine} {extra : Multiset RxWindow} {frames : Multiset ℕ}

/-- Windows are dropped, each with its reference. -/
theorem freed {freed : List RxWindow} {left : Multiset RxWindow} (held : Held before extra frames)
    (split : before.windows + extra = after.windows + left + (freed : Multiset RxWindow))
    (rxRefs : after.rxRefs = before.rxRefs.freeAll (freed.map Prod.fst)) :
    Held after left frames := by
  have sized := held.sized
  rw [split] at sized
  refine ⟨?_, sized.of_add, held.once⟩
  have holders : (before.windows + extra).map Prod.fst + frames =
      ((freed.map Prod.fst : List ℕ) : Multiset ℕ) +
        ((after.windows + left).map Prod.fst + frames) := by
    rw [split, Multiset.map_add, Multiset.map_coe]
    abel
  rw [rxRefs]
  refine Takes.freeAll ?_ _ (holders ▸ held.counted)
  intro addr _
  rw [← holders]
  exact Nat.le_of_lt (held.sized.count_lt held.once addr)

theorem released {freed : List RxWindow} (held : Held before extra frames)
    (released : Released before after freed) : Held after extra frames := by
  refine held.freed ?_ released.rxRefs
  rw [← released.windows]
  abel

theorem edited (held : Held before extra frames) (edits : Engine.Edits before after) :
    Held after extra frames ∧ after.windows ≤ before.windows := by
  rcases edits.released with ⟨freed, released⟩
  refine ⟨held.released released, ?_⟩
  rw [← released.windows]
  exact Multiset.le_add_right _ _

end Held

/-! ### Handing over -/

/-- What the segments hold of their buffers. -/
def InOrderSegment.windowsOf (segs : List InOrderSegment) : Multiset RxWindow :=
  (segs.map InOrderSegment.window : List RxWindow)

theorem InOrderSegment.windowsOf_cons (seg : InOrderSegment) (segs : List InOrderSegment) :
    windowsOf (seg :: segs) = seg.window ::ₘ windowsOf segs :=
  rfl

/-- A split keeps what is covered, and a window cut in two needs a reference more. -/
structure SplitWindows (segs : List InOrderSegment) (split : Split) (cloned : List ℕ) : Prop where
  holders : (InOrderSegment.windowsOf split.delivered + InOrderSegment.windowsOf split.rest).map
      Prod.fst =
    (InOrderSegment.windowsOf segs).map Prod.fst + (cloned : Multiset ℕ)
  covered : ∀ addr, span addr (InOrderSegment.windowsOf split.delivered) +
      span addr (InOrderSegment.windowsOf split.rest) =
    span addr (InOrderSegment.windowsOf segs)
  nonempty : (∀ window ∈ InOrderSegment.windowsOf segs, 0 < window.2) →
    ∀ window ∈ InOrderSegment.windowsOf split.delivered + InOrderSegment.windowsOf split.rest,
      0 < window.2
  cloned : ∀ addr ∈ cloned, addr ∈ (InOrderSegment.windowsOf segs).map Prod.fst

theorem SplitWindows.whole (segs : List InOrderSegment) : SplitWindows segs ⟨[], segs⟩ [] := by
  have none : InOrderSegment.windowsOf [] = 0 := rfl
  refine ⟨?_, fun addr => ?_, fun nonempty => ?_, by simp⟩ <;> dsimp only <;> rw [none]
  · rw [zero_add, Multiset.coe_nil, add_zero]
  · rw [span_zero, Nat.zero_add]
  · rw [zero_add]
    exact nonempty

/-- A further window that is delivered whole. -/
theorem SplitWindows.pop {segs : List InOrderSegment} {split : Split} {cloned : List ℕ}
    (later : SplitWindows segs split cloned) (seg : InOrderSegment) :
    SplitWindows (seg :: segs) { split with delivered := seg :: split.delivered } cloned := by
  refine ⟨?_, fun addr => ?_, fun nonempty => ?_, fun addr member => ?_⟩
  · dsimp only
    rw [InOrderSegment.windowsOf_cons, InOrderSegment.windowsOf_cons, Multiset.cons_add,
      Multiset.map_cons, Multiset.map_cons, later.holders, Multiset.cons_add]
  · have covered := later.covered addr
    dsimp only
    rw [InOrderSegment.windowsOf_cons, InOrderSegment.windowsOf_cons, span_cons, span_cons,
      ← covered]
    omega
  · intro window member
    dsimp only at member
    rw [InOrderSegment.windowsOf_cons] at nonempty member
    rw [Multiset.cons_add, Multiset.mem_cons] at member
    rcases member with rfl | member
    · exact nonempty _ (Multiset.mem_cons_self _ _)
    · exact later.nonempty (fun other old => nonempty other (Multiset.mem_cons_of_mem old)) window
        member
  · rw [InOrderSegment.windowsOf_cons, Multiset.map_cons]
    exact Multiset.mem_cons_of_mem (later.cloned addr member)

/-- A window cut in two. -/
theorem SplitWindows.cut (seg : InOrderSegment) (rest : List InOrderSegment) {taken : ℕ}
    (positive : 0 < taken) (short : taken < seg.len) (offset : ℕ) :
    SplitWindows (seg :: rest)
      ⟨[⟨seg.mbuf, seg.offset, taken⟩], ⟨seg.mbuf, offset, seg.len - taken⟩ :: rest⟩
      [seg.mbuf.addr] := by
  have one : ∀ seg : InOrderSegment, InOrderSegment.windowsOf [seg] = {seg.window} := fun _ => rfl
  refine ⟨?_, fun addr => ?_, fun nonempty => ?_, fun addr member => ?_⟩
  · rw [one, InOrderSegment.windowsOf_cons, InOrderSegment.windowsOf_cons, Multiset.map_add,
      Multiset.map_singleton, Multiset.map_cons, Multiset.map_cons, Multiset.coe_singleton,
      add_comm]
    rfl
  · have window : ∀ (mbuf : RxMbuf) (offset len : ℕ),
        InOrderSegment.window ⟨mbuf, offset, len⟩ = (mbuf.addr, len) := fun _ _ _ => rfl
    have whole : seg.window = (seg.mbuf.addr, seg.len) := rfl
    dsimp only
    rw [one, InOrderSegment.windowsOf_cons, InOrderSegment.windowsOf_cons, window, window, whole,
      span_cons, span_cons, ← Multiset.cons_zero, span_cons, span_zero]
    dsimp only
    split <;> omega
  · intro window member
    rw [one, InOrderSegment.windowsOf_cons, Multiset.singleton_add, Multiset.mem_cons,
      Multiset.mem_cons] at member
    rcases member with rfl | rfl | member
    · exact positive
    · exact Nat.sub_pos_of_lt short
    · exact nonempty window (Multiset.mem_cons_of_mem member)
  · rw [List.mem_singleton.mp member, InOrderSegment.windowsOf_cons, Multiset.map_cons]
    exact Multiset.mem_cons_self _ _

theorem splitDelivered_windows (remaining : ℕ) (segs : List InOrderSegment) :
    SplitWindows segs (splitDelivered remaining segs) (splitCloned remaining segs) := by
  induction segs generalizing remaining with
  | nil => exact .whole []
  | cons seg rest ih =>
      dsimp only [splitDelivered, splitCloned]
      by_cases none : remaining = 0
      · rw [if_pos none, if_pos none]
        exact .whole _
      · rw [if_neg none, if_neg none]
        by_cases fits : seg.len ≤ remaining
        · rw [if_pos fits, if_pos fits]
          exact (ih (remaining - seg.len)).pop seg
        · rw [if_neg fits, if_neg fits]
          exact .cut seg rest (Nat.pos_of_ne_zero none) (Nat.lt_of_not_le fits) _

end DpdkTcp
