import DpdkTcp.Lib.Intervals
import DpdkTcp.Window.Edge

/-!
# The space of the reorder queue

Counted from `rcv_nxt`, the segments of the reorder queue are disjoint
intervals inside the receive window: `insert` stores only what lies between the
segments it finds, and a drain removes what `rcv_nxt` passes. Their total
length is therefore bounded by the window.
-/

namespace DpdkTcp

open Serial Intervals

/-- The distance of a stored segment from a sequence number before it. -/
def OooSegment.ahead (base : Seq) (seg : OooSegment) : ℕ :=
  (seg.seq - base).toNat

theorem point_toNat_sub (base seq : Seq) : point base (seq - base).toNat = seq := by
  rw [point, BitVec.ofNat_toNat, BitVec.setWidth_eq, BitVec.add_comm, BitVec.sub_add_cancel]

/-- The distance of two numbers is the difference of their distances from `base`. -/
theorem toNat_sub_of_le (base : Seq) {first second : Seq}
    (ordered : (first - base).toNat ≤ (second - base).toNat) :
    (second - first).toNat = (second - base).toNat - (first - base).toNat := by
  have near := (second - base).isLt
  have gap := toNat_point_sub_point base ordered (by omega)
  rwa [point_toNat_sub, point_toNat_sub] at gap

theorem toNat_point_sub (base : Seq) {off : ℕ} (near : off < 2 ^ 32) :
    (point base off - base).toNat = off := by
  have gap := toNat_point_sub_point base (Nat.zero_le off) (by omega)
  rwa [point_zero] at gap

namespace OooSegment

variable (base : Seq) (seg : OooSegment)

theorem point_ahead : point base (seg.ahead base) = seg.seq :=
  point_toNat_sub base seg.seq

theorem endSeq_eq : seg.endSeq = point base (seg.ahead base + seg.len) := by
  rw [endSeq, ← point_ahead base seg, seqAdd_point]

end OooSegment

/-- The segments are disjoint, not empty, and lie between two distances from `base`. -/
structure SpreadOver (base : Seq) (low high : ℕ) (segs : List OooSegment) : Prop where
  spread : Spread (OooSegment.ahead base) OooSegment.len segs
  nonempty : ∀ seg ∈ segs, 0 < seg.len
  short : ∀ seg ∈ segs, seg.len < 65536
  after : ∀ seg ∈ segs, low ≤ seg.ahead base
  before : ∀ seg ∈ segs, seg.ahead base + seg.len ≤ high

namespace SpreadOver

variable {base : Seq} {low high : ℕ} {seg : OooSegment} {segs : List OooSegment}

theorem nil (base : Seq) (low high : ℕ) : SpreadOver base low high [] :=
  ⟨.nil, by simp, by simp, by simp, by simp⟩

theorem tail (spread : SpreadOver base low high (seg :: segs)) :
    SpreadOver base (seg.ahead base + seg.len) high segs :=
  ⟨(List.pairwise_cons.mp spread.spread).2,
    fun other member => spread.nonempty other (List.mem_cons_of_mem _ member),
    fun other member => spread.short other (List.mem_cons_of_mem _ member),
    (List.pairwise_cons.mp spread.spread).1,
    fun other member => spread.before other (List.mem_cons_of_mem _ member)⟩

theorem head (spread : SpreadOver base low high (seg :: segs)) :
    0 < seg.len ∧ low ≤ seg.ahead base ∧ seg.ahead base + seg.len ≤ high :=
  ⟨spread.nonempty seg (List.mem_cons_self ..), spread.after seg (List.mem_cons_self ..),
    spread.before seg (List.mem_cons_self ..)⟩

theorem mono {lower higher : ℕ} (spread : SpreadOver base low high segs) (weaker : lower ≤ low)
    (wider : high ≤ higher) : SpreadOver base lower higher segs :=
  ⟨spread.spread, spread.nonempty, spread.short,
    fun seg member => Nat.le_trans weaker (spread.after seg member),
    fun seg member => Nat.le_trans (spread.before seg member) wider⟩

/-- The same segments, seen from a number further on. -/
theorem rebase {delta : ℕ} (spread : SpreadOver base low high segs) (near : high < 2 ^ 32)
    (passed : delta ≤ low) :
    SpreadOver (point base delta) (low - delta) (high - delta) segs := by
  have moved : ∀ seg ∈ segs, seg.ahead (point base delta) = seg.ahead base - delta := by
    intro seg member
    have after := spread.after seg member
    have before := spread.before seg member
    rw [OooSegment.ahead, ← OooSegment.point_ahead base seg]
    exact toNat_point_sub_point base (by omega) (by omega)
  refine ⟨?_, spread.nonempty, spread.short, ?_, ?_⟩
  · refine List.Pairwise.imp_of_mem ?_ spread.spread
    intro first second inFirst inSecond apart
    have firstAfter := spread.after first inFirst
    rw [moved first inFirst, moved second inSecond]
    omega
  · intro seg member
    have after := spread.after seg member
    rw [moved seg member]
    omega
  · intro seg member
    have after := spread.after seg member
    have before := spread.before seg member
    rw [moved seg member]
    omega

/-- What is stored fits in the range. -/
theorem sum_len_le (spread : SpreadOver base low high segs) (ordered : low ≤ high) :
    low + (segs.map OooSegment.len).sum ≤ high :=
  add_sum_len_le spread.spread ordered spread.after spread.before

end SpreadOver

/-! ### Inserting -/

theorem insertMerged_split (new : OooSegment) (segs : List OooSegment) :
    ∃ left right, segs = left ++ right ∧ insertMerged new segs = left ++ new :: right ∧
      (∀ seg ∈ left, seqLt new.seq seg.seq = false) ∧
      ∀ seg ∈ right.head?, seqLt new.seq seg.seq = true := by
  induction segs with
  | nil => exact ⟨[], [], rfl, rfl, by simp, by simp⟩
  | cons head rest ih =>
      dsimp only [insertMerged]
      split
      · rename_i first
        exact ⟨[], head :: rest, rfl, rfl, by simp, by simpa using first⟩
      · rename_i later
        rcases ih with ⟨left, right, split, merged, before, behind⟩
        refine ⟨head :: left, right, by rw [split]; rfl, by rw [merged]; rfl, ?_, behind⟩
        simpa using ⟨by simpa using later, before⟩

/-- The pieces of a payload, one behind the other and clear of what is stored. -/
structure Planned (base : Seq) (segs : List OooSegment) (low high : ℕ) (carve : Carve) : Prop where
  spread : Spread (fun piece : Seq × ℕ × ℕ => (piece.1 - base).toNat) (fun piece => piece.2.2)
    carve.toInsert
  nonempty : ∀ piece ∈ carve.toInsert, 0 < piece.2.2
  short : ∀ piece ∈ carve.toInsert, piece.2.2 < 65536
  after : ∀ piece ∈ carve.toInsert, low ≤ (piece.1 - base).toNat
  before : ∀ piece ∈ carve.toInsert, (piece.1 - base).toNat + piece.2.2 ≤ high
  clear : ∀ piece ∈ carve.toInsert,
    Clear (OooSegment.ahead base) OooSegment.len segs (piece.1 - base).toNat piece.2.2
  total : carve.newlyBuffered = (carve.toInsert.map fun piece => piece.2.2).sum

section Insert

variable {base : Seq} {segs : List OooSegment} {low high cursor : ℕ} {carve : Carve}
  {incoming : Incoming}

theorem SpreadOver.insertMerged {new : OooSegment} (spread : SpreadOver base low high segs)
    (small : high < 2 ^ 31) (nonempty : 0 < new.len) (short : new.len < 65536)
    (after : low ≤ new.ahead base)
    (before : new.ahead base + new.len ≤ high)
    (clear : Clear (OooSegment.ahead base) OooSegment.len segs (new.ahead base) new.len) :
    SpreadOver base low high (insertMerged new segs) ∧
      ((DpdkTcp.insertMerged new segs).map OooSegment.len).sum =
        (segs.map OooSegment.len).sum + new.len ∧
      ∀ seg, seg ∈ DpdkTcp.insertMerged new segs ↔ seg = new ∨ seg ∈ segs := by
  rcases insertMerged_split new segs with ⟨left, right, rfl, merged, notBefore, behind⟩
  have order : ∀ seg ∈ left ++ right,
      seqLt new.seq seg.seq = decide (new.ahead base < seg.ahead base) := by
    intro seg member
    have inside := spread.before seg member
    rw [← OooSegment.point_ahead base new, ← OooSegment.point_ahead base seg]
    exact seqLt_point base (by omega) (by omega)
  have first : ∀ seg ∈ left, seg.ahead base ≤ new.ahead base := by
    intro seg member
    have later := notBefore seg member
    rw [order seg (List.mem_append_left _ member), decide_eq_false_iff_not] at later
    omega
  have last : ∀ seg ∈ right, new.ahead base < seg.ahead base := by
    cases right with
    | nil => simp
    | cons next rest =>
        have ahead := behind next (by simp)
        rw [order next (by simp), decide_eq_true_iff] at ahead
        have tail := (List.pairwise_append.mp spread.spread).2.1
        intro seg member
        rcases List.mem_cons.mp member with rfl | member
        · exact ahead
        · have apart := (List.pairwise_cons.mp tail).1 seg member
          omega
  have mem : ∀ seg, seg ∈ left ++ new :: right ↔ seg = new ∨ seg ∈ left ++ right := by
    intro seg
    simp only [List.mem_append, List.mem_cons]
    tauto
  rw [merged]
  refine ⟨⟨spread.spread.insert nonempty clear first last, ?_, ?_, ?_, ?_⟩, ?_, mem⟩
  · intro seg member
    rcases (mem seg).mp member with rfl | old
    · exact nonempty
    · exact spread.nonempty seg old
  · intro seg member
    rcases (mem seg).mp member with rfl | old
    · exact short
    · exact spread.short seg old
  · intro seg member
    rcases (mem seg).mp member with rfl | old
    · exact after
    · exact spread.after seg old
  · intro seg member
    rcases (mem seg).mp member with rfl | old
    · exact before
    · exact spread.before seg old
  · simp only [List.map_append, List.map_cons, List.sum_append, List.sum_cons]
    omega

/-- Planning bytes at the cursor, where nothing is stored. -/
theorem Planned.store (planned : Planned base segs low cursor carve)
    (cursor_eq : carve.cursor = point base cursor) (after : low ≤ cursor) {wanted : ℕ}
    (short : wanted < 65536) (near : cursor < 2 ^ 32)
    (clear : Clear (OooSegment.ahead base) OooSegment.len segs cursor wanted) :
    Planned base segs low (cursor + wanted) (carve.store incoming wanted) := by
  dsimp only [Carve.store]
  obtain ⟨take, take_eq⟩ : ∃ take, take = min wanted (incoming.cap -
    (incoming.totalBytes + carve.newlyBuffered)) := ⟨_, rfl⟩
  rw [← take_eq]
  have taken : take ≤ wanted := by omega
  split
  · rename_i positive
    have ahead : (carve.cursor - base).toNat = cursor := by
      rw [cursor_eq]
      exact toNat_point_sub base near
    have exact_ : asU16 take = take := asU16_of_lt (by omega)
    refine ⟨planned.spread.concat ?_, ?_, ?_, ?_, ?_, ?_, ?_⟩
    · intro piece member
      rw [ahead]
      exact planned.before piece member
    · intro piece member
      rcases List.mem_append.mp member with old | new
      · exact planned.nonempty piece old
      · rcases List.mem_singleton.mp new with rfl
        dsimp only
        rw [exact_]
        exact positive
    · intro piece member
      rcases List.mem_append.mp member with old | new
      · exact planned.short piece old
      · rcases List.mem_singleton.mp new with rfl
        dsimp only
        rw [exact_]
        omega
    · intro piece member
      rcases List.mem_append.mp member with old | new
      · exact planned.after piece old
      · rcases List.mem_singleton.mp new with rfl
        dsimp only
        rw [ahead]
        exact after
    · intro piece member
      rcases List.mem_append.mp member with old | new
      · have before := planned.before piece old
        omega
      · rcases List.mem_singleton.mp new with rfl
        dsimp only
        rw [ahead, exact_]
        omega
    · intro piece member
      rcases List.mem_append.mp member with old | new
      · exact planned.clear piece old
      · rcases List.mem_singleton.mp new with rfl
        intro seg stored
        dsimp only
        rw [ahead, exact_]
        rcases clear seg stored with ends | begins
        · left
          omega
        · exact Or.inr begins
    · dsimp only
      rw [planned.total, List.map_append, List.sum_append]
      simp [exact_]
  · rename_i nothing
    refine ⟨planned.spread, planned.nonempty, planned.short, planned.after, ?_, planned.clear, ?_⟩
    · intro piece member
      have before := planned.before piece member
      omega
    · dsimp only
      rw [planned.total]
      omega

theorem Planned.moveTo (planned : Planned base segs low high carve) {higher : ℕ}
    (wider : high ≤ higher) (target : Seq) :
    Planned base segs low higher { carve with cursor := target } :=
  ⟨planned.spread, planned.nonempty, planned.short, planned.after,
    fun piece member => Nat.le_trans (planned.before piece member) wider, planned.clear,
    planned.total⟩

/-- Carving a payload over the segments found: bytes are planned where nothing is stored, and
stored bytes are passed. The cursor is counted from `base`. -/
inductive Carving (base : Seq) (segs : List OooSegment) (start : ℕ) (incoming : Incoming) :
    ℕ → Carve → Prop where
  | begins : Carving base segs start incoming start ⟨point base start, 0, 0, []⟩
  | fills {cursor wanted : ℕ} {carve : Carve} (carving : Carving base segs start incoming cursor carve)
      (inside : cursor + wanted ≤ start + incoming.payloadLen)
      (clear : Clear (OooSegment.ahead base) OooSegment.len segs cursor wanted) :
      Carving base segs start incoming (cursor + wanted)
        { carve.store incoming wanted with cursor := point base (cursor + wanted) }
  | passes {cursor later : ℕ} {carve : Carve} (carving : Carving base segs start incoming cursor carve)
      (ordered : cursor ≤ later)
      (covered : ∀ pos, cursor ≤ pos → pos < later →
        Covered (OooSegment.ahead base) OooSegment.len segs pos) :
      Carving base segs start incoming later { carve with cursor := point base later }

/-- The first `reach` bytes of the payload are carved: the gaps among them are planned, lowest
first, as far as there is room. -/
structure Filled (base : Seq) (segs : List OooSegment) (start : ℕ) (incoming : Incoming)
    (reach : ℕ) (carve : Carve) : Prop where
  buffered : carve.newlyBuffered =
    min (gaps (OooSegment.ahead base) OooSegment.len segs start reach)
      (incoming.cap - incoming.totalBytes)
  accounted : carve.newlyBuffered + carve.capDropped =
    gaps (OooSegment.ahead base) OooSegment.len segs start reach
  pieces : ∀ pos, Covered (fun piece : Seq × ℕ × ℕ => (piece.1 - base).toNat)
      (fun piece => piece.2.2) carve.toInsert pos ↔
    start ≤ pos ∧ pos < start + reach ∧
      ¬ Covered (OooSegment.ahead base) OooSegment.len segs pos ∧
      gaps (OooSegment.ahead base) OooSegment.len segs start (pos - start) <
        incoming.cap - incoming.totalBytes

variable {start : ℕ}

/-- Planning the bytes at the cursor fills their gaps as far as there is room. -/
theorem Filled.store {reach wanted : ℕ} (filled : Filled base segs start incoming reach carve)
    (cursor_eq : carve.cursor = point base (start + reach)) (near : start + reach < 2 ^ 32)
    (short : wanted < 65536)
    (clear : Clear (OooSegment.ahead base) OooSegment.len segs (start + reach) wanted) :
    Filled base segs start incoming (reach + wanted) (carve.store incoming wanted) := by
  have buffered := filled.buffered
  have accounted := filled.accounted
  have more := gaps_add_of_clear clear
  refine ⟨?_, ?_, ?_⟩
  · rw [more]
    dsimp only [Carve.store]
    omega
  · rw [more]
    dsimp only [Carve.store]
    omega
  · intro pos
    -- a number between the cursor and the end of what is wanted is the next gap
    have next : start + reach ≤ pos → pos < start + reach + wanted →
        ¬ Covered (OooSegment.ahead base) OooSegment.len segs pos ∧
          gaps (OooSegment.ahead base) OooSegment.len segs start (pos - start) =
            gaps (OooSegment.ahead base) OooSegment.len segs start reach +
              (pos - (start + reach)) := by
      intro above below
      refine ⟨clear.not_covered_of_mem above below, ?_⟩
      have part := gaps_add_of_clear
        (clear.mono (by omega : pos - (start + reach) ≤ wanted))
      rwa [show reach + (pos - (start + reach)) = pos - start by omega] at part
    have old := filled.pieces pos
    dsimp only [Carve.store]
    obtain ⟨take, taken⟩ : ∃ take, take = min wanted (incoming.cap -
      (incoming.totalBytes + carve.newlyBuffered)) := ⟨_, rfl⟩
    rw [← taken]
    have pieces : Covered (fun piece : Seq × ℕ × ℕ => (piece.1 - base).toNat)
        (fun piece => piece.2.2)
        (if 0 < take then carve.toInsert ++ [(carve.cursor,
          asU16 (incoming.mbufPayloadOffset + asU16 (carve.cursor - incoming.seq).toNat),
          asU16 take)] else carve.toInsert) pos ↔
        Covered (fun piece : Seq × ℕ × ℕ => (piece.1 - base).toNat) (fun piece => piece.2.2)
          carve.toInsert pos ∨ start + reach ≤ pos ∧ pos < start + reach + take := by
      split
      · rw [covered_append, covered_singleton, cursor_eq, toNat_point_sub base near,
          asU16_of_lt (by omega : take < 65536)]
      · exact (or_iff_left (by omega)).symm
    rw [pieces, old]
    by_cases above : start + reach ≤ pos
    · by_cases below : pos < start + reach + wanted
      · rcases next above below with ⟨gap, rank⟩
        rw [rank]
        constructor
        · rintro (⟨_, early, _⟩ | ⟨_, early⟩)
          · omega
          · exact ⟨by omega, by omega, gap, by omega⟩
        · rintro ⟨_, _, _, room⟩
          exact Or.inr ⟨above, by omega⟩
      · constructor
        · rintro (⟨_, early, _⟩ | ⟨_, early⟩) <;> omega
        · rintro ⟨_, early, _⟩
          omega
    · constructor
      · rintro (⟨after, early, gap, room⟩ | ⟨late, _⟩)
        · exact ⟨after, by omega, gap, room⟩
        · exact absurd late above
      · rintro ⟨after, _, gap, room⟩
        exact Or.inl ⟨after, by omega, gap, room⟩

/-- Stored bytes hold no gap. -/
theorem Filled.passes {reach later : ℕ} (filled : Filled base segs start incoming reach carve)
    (ordered : reach ≤ later) (covered : ∀ pos, start + reach ≤ pos → pos < start + later →
      Covered (OooSegment.ahead base) OooSegment.len segs pos) (cursor : Seq) :
    Filled base segs start incoming later { carve with cursor := cursor } := by
  have same : gaps (OooSegment.ahead base) OooSegment.len segs start (reach + (later - reach)) =
      gaps (OooSegment.ahead base) OooSegment.len segs start reach := by
    apply gaps_add_of_covered
    intro pos above below
    exact covered pos above (by omega)
  rw [Nat.add_sub_cancel' ordered] at same
  refine ⟨?_, ?_, ?_⟩
  · rw [same]
    exact filled.buffered
  · rw [same]
    exact filled.accounted
  · intro pos
    rw [filled.pieces pos]
    constructor
    · rintro ⟨after, early, gap, room⟩
      exact ⟨after, by omega, gap, room⟩
    · rintro ⟨after, early, gap, room⟩
      refine ⟨after, ?_, gap, room⟩
      by_contra late
      exact gap (covered pos (by omega) early)

namespace Carving

theorem cursor_eq (carving : Carving base segs start incoming cursor carve) :
    carve.cursor = point base cursor := by
  cases carving <;> rfl

theorem after (carving : Carving base segs start incoming cursor carve) : start ≤ cursor := by
  induction carving with
  | begins => exact Nat.le_refl _
  | fills carving inside clear after => omega
  | passes carving ordered covered after => omega

/-- What is planned lies between the start and the cursor, clear of what is stored. -/
theorem planned (carving : Carving base segs start incoming cursor carve)
    (short : incoming.payloadLen < 65536) (near : start + incoming.payloadLen < 2 ^ 32) :
    Planned base segs start cursor carve := by
  induction carving with
  | begins => exact ⟨.nil, by simp, by simp, by simp, by simp, by simp, rfl⟩
  | fills carving inside clear planned =>
      have after := carving.after
      exact (planned.store carving.cursor_eq after (by omega) (by omega) clear).moveTo
        (Nat.le_refl _) _
  | passes carving ordered covered planned => exact planned.moveTo ordered _

/-- The payload bytes before the cursor are carved. -/
theorem filled (carving : Carving base segs start incoming cursor carve)
    (short : incoming.payloadLen < 65536) (near : start + incoming.payloadLen < 2 ^ 32) :
    Filled base segs start incoming (min (cursor - start) incoming.payloadLen) carve := by
  induction carving with
  | begins =>
      rw [Nat.sub_self, Nat.zero_min]
      refine ⟨by simp, by simp, ?_⟩
      intro pos
      constructor
      · rintro ⟨piece, member, _⟩
        cases member
      · rintro ⟨_, _, _⟩
        omega
  | @fills cursor wanted carve carving inside clear filled =>
      have after := carving.after
      have cursor_eq := carving.cursor_eq
      rw [show min (cursor - start) incoming.payloadLen = cursor - start by omega] at filled
      rw [show min (cursor + wanted - start) incoming.payloadLen = cursor - start + wanted by omega]
      have around : start + (cursor - start) = cursor := by omega
      have stored : Filled base segs start incoming (cursor - start + wanted)
          (carve.store incoming wanted) :=
        filled.store (by rw [around]; exact cursor_eq) (by omega) (by omega)
          (by rw [around]; exact clear)
      exact stored.passes (Nat.le_refl _) (fun pos above below => by omega) _
  | passes carving ordered covered filled =>
      have after := carving.after
      refine filled.passes (by omega) ?_ _
      intro pos above below
      exact covered pos (by omega) (by omega)

/-- Filling the gap before a stored segment and moving behind it. -/
theorem pass (carving : Carving base segs start incoming cursor carve) {seg : OooSegment}
    (stored : seg ∈ segs) (seq : incoming.seq = point base start) (small : high < 2 ^ 31)
    (inside : seg.ahead base + seg.len ≤ high)
    (reaches : seg.ahead base < start + incoming.payloadLen) (positive : 0 < seg.len)
    (notStale : cursor < seg.ahead base + seg.len)
    (clear : cursor < seg.ahead base → Clear (OooSegment.ahead base) OooSegment.len segs cursor
      (seg.ahead base - cursor)) :
    Carving base segs start incoming (seg.ahead base + seg.len)
      ((carve.fillGap incoming seg).skipOver seg) := by
  have after := carving.after
  have startOrder : seqLt carve.cursor seg.seq = decide (cursor < seg.ahead base) := by
    rw [carving.cursor_eq, ← OooSegment.point_ahead base seg]
    exact seqLt_point base (by omega) (by omega)
  have filled : ∃ middle, seg.ahead base ≤ middle ∧ middle < seg.ahead base + seg.len ∧
      Carving base segs start incoming middle (carve.fillGap incoming seg) := by
    dsimp only [Carve.fillGap]
    rw [startOrder]
    by_cases gap : cursor < seg.ahead base
    · have wanted : carve.gapWanted incoming seg = seg.ahead base - cursor := by
        have distance : (seg.seq - carve.cursor).toNat = seg.ahead base - cursor := by
          rw [carving.cursor_eq, ← OooSegment.point_ahead base seg,
            toNat_point_sub_point base (Nat.le_of_lt gap) (by omega)]
        have off : (carve.cursor - incoming.seq).toNat = cursor - start := by
          rw [carving.cursor_eq, seq]
          exact toNat_point_sub_point base after (by omega)
        rw [Carve.gapWanted, distance, off]
        omega
      have stored : Carving base segs start incoming (cursor + (seg.ahead base - cursor))
          { carve.store incoming (seg.ahead base - cursor) with
            cursor := point base (cursor + (seg.ahead base - cursor)) } :=
        carving.fills (by omega) (clear gap)
      rw [Nat.add_sub_cancel' (Nat.le_of_lt gap)] at stored
      rw [decide_eq_true gap, if_pos rfl, wanted, carving.cursor_eq, seqAdd_point,
        Nat.add_sub_cancel' (Nat.le_of_lt gap)]
      exact ⟨seg.ahead base, Nat.le_refl _, by omega, stored⟩
    · rw [decide_eq_false gap, if_neg Bool.false_ne_true]
      exact ⟨cursor, by omega, notStale, carving⟩
  rcases filled with ⟨middle, begun, behind, middleCarving⟩
  have endOrder : seqLt (carve.fillGap incoming seg).cursor seg.endSeq = true := by
    rw [middleCarving.cursor_eq, OooSegment.endSeq_eq base,
      seqLt_point base (by omega) (by omega), decide_eq_true_iff]
    exact behind
  dsimp only [Carve.skipOver]
  rw [endOrder, if_pos rfl, OooSegment.endSeq_eq base]
  refine middleCarving.passes (Nat.le_of_lt behind) ?_
  intro pos above below
  exact ⟨seg, stored, by omega, below⟩

/-- The scan leaves every stored segment before the cursor or behind the payload. -/
theorem scan {remaining : List OooSegment}
    (carving : Carving base segs start incoming cursor carve)
    (seq : incoming.seq = point base start) (small : high < 2 ^ 31) (bounded : cursor ≤ high)
    (ends : start + incoming.payloadLen ≤ high) (spread : SpreadOver base low high remaining)
    (stored : ∀ seg ∈ remaining, seg ∈ segs)
    (done : ∀ seg ∈ segs, seg.ahead base + seg.len ≤ cursor ∨ seg ∈ remaining) :
    ∃ reached, reached ≤ high ∧
      Carving base segs start incoming reached
        (Carve.scan incoming (point base (start + incoming.payloadLen)) remaining carve) ∧
      ∀ seg ∈ segs, seg.ahead base + seg.len ≤ reached ∨
        start + incoming.payloadLen ≤ seg.ahead base := by
  induction remaining generalizing carve cursor low with
  | nil => exact ⟨cursor, bounded, carving, fun seg member => (done seg member).imp_right (by simp)⟩
  | cons seg rest ih =>
      rcases spread.head with ⟨positive, above, inside⟩
      have tail := spread.tail
      have storedRest : ∀ other ∈ rest, other ∈ segs :=
        fun other member => stored other (List.mem_cons_of_mem _ member)
      have beyond : seqLe (point base (start + incoming.payloadLen)) seg.seq =
          decide (start + incoming.payloadLen ≤ seg.ahead base) := by
        rw [← OooSegment.point_ahead base seg]
        exact seqLe_point base (by omega) (by omega)
      have stale : seqLe seg.endSeq carve.cursor =
          decide (seg.ahead base + seg.len ≤ cursor) := by
        rw [OooSegment.endSeq_eq base, carving.cursor_eq]
        exact seqLe_point base (by omega) (by omega)
      dsimp only [Carve.scan]
      rw [beyond, stale]
      by_cases past : start + incoming.payloadLen ≤ seg.ahead base
      · rw [decide_eq_true past, if_pos rfl]
        refine ⟨cursor, bounded, carving, ?_⟩
        intro other member
        refine (done other member).imp_right ?_
        intro left
        rcases List.mem_cons.mp left with rfl | later
        · exact past
        · have behind := tail.after other later
          omega
      · rw [decide_eq_false past, if_neg Bool.false_ne_true]
        by_cases passed : seg.ahead base + seg.len ≤ cursor
        · rw [decide_eq_true passed, if_pos rfl]
          refine ih carving bounded tail storedRest ?_
          intro other member
          rcases done other member with before | left
          · exact Or.inl before
          · rcases List.mem_cons.mp left with rfl | later
            · exact Or.inl passed
            · exact Or.inr later
        · rw [decide_eq_false passed, if_neg Bool.false_ne_true]
          have clear : cursor < seg.ahead base → Clear (OooSegment.ahead base) OooSegment.len segs
              cursor (seg.ahead base - cursor) := by
            intro gap other member
            rcases done other member with before | left
            · exact Or.inr before
            · left
              rcases List.mem_cons.mp left with rfl | later
              · omega
              · have behind := tail.after other later
                omega
          have moved := carving.pass (stored seg (List.mem_cons_self ..)) seq small inside
            (by omega) positive (by omega) clear
          refine ih moved inside tail storedRest ?_
          intro other member
          rcases done other member with before | left
          · left
            omega
          · rcases List.mem_cons.mp left with rfl | later
            · exact Or.inl (Nat.le_refl _)
            · exact Or.inr later

/-- The bytes behind the last stored segment are carved as well. -/
theorem fillTail (carving : Carving base segs start incoming cursor carve)
    (seq : incoming.seq = point base start) (small : high < 2 ^ 31) (bounded : cursor ≤ high)
    (ends : start + incoming.payloadLen ≤ high)
    (clear : ∀ seg ∈ segs, seg.ahead base + seg.len ≤ cursor ∨
      start + incoming.payloadLen ≤ seg.ahead base) :
    ∃ stop mark, start + incoming.payloadLen ≤ stop ∧ stop ≤ high ∧
      Carving base segs start incoming stop
        { carve.fillTail incoming (point base (start + incoming.payloadLen)) with
          cursor := mark } := by
  have after := carving.after
  have order : seqLt carve.cursor (point base (start + incoming.payloadLen)) =
      decide (cursor < start + incoming.payloadLen) := by
    rw [carving.cursor_eq]
    exact seqLt_point base (by omega) (by omega)
  have off : (carve.cursor - incoming.seq).toNat = cursor - start := by
    rw [carving.cursor_eq, seq]
    exact toNat_point_sub_point base after (by omega)
  dsimp only [Carve.fillTail]
  rw [order, off]
  by_cases tail : cursor < start + incoming.payloadLen
  · rw [decide_eq_true tail, if_pos rfl]
    have room : Clear (OooSegment.ahead base) OooSegment.len segs cursor
        (incoming.payloadLen - (cursor - start)) := by
      intro seg member
      rcases clear seg member with before | behind
      · exact Or.inr before
      · left
        omega
    exact ⟨_, _, by omega, by omega, carving.fills (by omega) room⟩
  · rw [decide_eq_false tail, if_neg Bool.false_ne_true]
    exact ⟨cursor, carve.cursor, by omega, bounded, carving⟩

end Carving

/-- The carving pass of `insert` over disjoint segments. -/
theorem SpreadOver.carving {queue : ReorderQueue} (spread : SpreadOver base low high queue.segments)
    (small : high < 2 ^ 31) (payload : List UInt8) (ends : start + payload.length ≤ high)
    (offset : ℕ) :
    ∃ stop mark, start + payload.length ≤ stop ∧ stop ≤ high ∧
      Carving base queue.segments start
        ⟨point base start, payload.length, offset, queue.cap, queue.totalBytes⟩ stop
        { queue.carve (point base start) payload offset with cursor := mark } := by
  have begun : Carving base queue.segments start
      ⟨point base start, payload.length, offset, queue.cap, queue.totalBytes⟩ start
      ⟨point base start, 0, 0, []⟩ := .begins
  rcases begun.scan rfl small (by omega) ends spread (fun _ member => member)
    fun seg member => Or.inr member with ⟨reached, bounded, carving, clear⟩
  dsimp only [ReorderQueue.carve]
  rw [seqAdd_point]
  exact carving.fillTail rfl small bounded ends clear

/-- Storing the planned pieces one by one. -/
theorem SpreadOver.insertPieces (mbuf : RxMbuf) {pieces : List (Seq × ℕ × ℕ)}
    (spread : SpreadOver base low high segs) (small : high < 2 ^ 31)
    (apart : Spread (fun piece : Seq × ℕ × ℕ => (piece.1 - base).toNat) (fun piece => piece.2.2)
      pieces)
    (placed : ∀ piece ∈ pieces, 0 < piece.2.2 ∧ piece.2.2 < 65536 ∧
      low ≤ (piece.1 - base).toNat ∧
      (piece.1 - base).toNat + piece.2.2 ≤ high ∧
      Clear (OooSegment.ahead base) OooSegment.len segs (piece.1 - base).toNat piece.2.2) :
    SpreadOver base low high
        (pieces.foldl (fun stored piece =>
          DpdkTcp.insertMerged ⟨piece.1, mbuf, piece.2.1, piece.2.2⟩ stored) segs) ∧
      ((pieces.foldl (fun stored piece =>
          DpdkTcp.insertMerged ⟨piece.1, mbuf, piece.2.1, piece.2.2⟩ stored) segs).map
        OooSegment.len).sum =
        (segs.map OooSegment.len).sum + (pieces.map fun piece => piece.2.2).sum := by
  induction pieces generalizing segs with
  | nil => exact ⟨spread, by simp⟩
  | cons piece rest ih =>
      rcases List.pairwise_cons.mp apart with ⟨behind, apartRest⟩
      rcases placed piece (List.mem_cons_self ..) with ⟨nonempty, short, after, before, clear⟩
      have grown : SpreadOver base low high
            (DpdkTcp.insertMerged ⟨piece.1, mbuf, piece.2.1, piece.2.2⟩ segs) ∧ _ :=
        spread.insertMerged small nonempty short after before clear
      rcases grown with ⟨grown, sum, mem⟩
      rw [List.foldl_cons, List.map_cons, List.sum_cons]
      have later := ih grown apartRest <| by
        intro other member
        rcases placed other (List.mem_cons_of_mem _ member) with
          ⟨otherNonempty, otherShort, otherAfter, otherBefore, otherClear⟩
        refine ⟨otherNonempty, otherShort, otherAfter, otherBefore, ?_⟩
        intro seg stored
        rcases (mem seg).mp stored with rfl | old
        · exact Or.inr (behind other member)
        · exact otherClear seg old
      refine ⟨later.1, ?_⟩
      rw [later.2, sum]
      dsimp only
      omega

end Insert

/-- A reorder queue in order: disjoint segments strictly between `base` and the end of the
window, and a count that is their total length. -/
structure ReorderQueue.Tidy (queue : ReorderQueue) (base : Seq) (width : ℕ) : Prop where
  spread : SpreadOver base 1 width queue.segments
  total : queue.totalBytes = (queue.segments.map OooSegment.len).sum

theorem ReorderQueue.Tidy.totalBytes_le {queue : ReorderQueue} {base : Seq} {width : ℕ}
    (tidy : queue.Tidy base width) : queue.totalBytes ≤ width := by
  have fits := (tidy.spread.mono (Nat.zero_le 1) (Nat.le_refl width)).sum_len_le (Nat.zero_le _)
  rw [tidy.total]
  omega

/-- What is carved of a payload that lies in the window. -/
theorem ReorderQueue.Tidy.carve {queue : ReorderQueue} {base : Seq} {width start : ℕ}
    (tidy : queue.Tidy base width) (small : width < 2 ^ 31) (payload : List UInt8)
    (short : payload.length < 65536) (ends : start + payload.length ≤ width) (offset : ℕ) :
    Planned base queue.segments start width (queue.carve (point base start) payload offset) ∧
      (queue.carve (point base start) payload offset).newlyBuffered ≤ payload.length ∧
      ((queue.carve (point base start) payload offset).newlyBuffered = 0 ↔
        queue.cap ≤ queue.totalBytes ∨ ∀ pos, start ≤ pos → pos < start + payload.length →
          Covered (OooSegment.ahead base) OooSegment.len queue.segments pos) := by
  rcases tidy.spread.carving small payload ends offset with ⟨stop, mark, reached, bounded, carving⟩
  have planned := carving.planned short (by dsimp only; omega)
  have filled := carving.filled short (by dsimp only; omega)
  dsimp only at filled
  rw [show min (stop - start) payload.length = payload.length by omega] at filled
  have buffered := filled.buffered
  have all := gaps_add_count_covered (OooSegment.ahead base) OooSegment.len queue.segments start payload.length
  dsimp only at buffered
  refine ⟨planned.moveTo bounded _, by omega, ?_⟩
  rw [buffered, Nat.min_eq_zero_iff, Nat.sub_eq_zero_iff_le, or_comm, gaps_eq_zero_iff]

/-- `insert` keeps a queue in order when the payload lies in the window. -/
theorem ReorderQueue.Tidy.insert {queue : ReorderQueue} {base : Seq} {width start : ℕ}
    (tidy : queue.Tidy base width) (small : width < 2 ^ 31) (ahead : 0 < start)
    {payload : List UInt8} (short : payload.length < 65536)
    (ends : start + payload.length ≤ width) (mbuf : RxMbuf) (offset : ℕ) :
    (queue.insert (point base start) payload mbuf offset).queue.Tidy base width := by
  dsimp only [ReorderQueue.insert]
  split
  · exact tidy
  · have planned := (tidy.carve small payload short ends offset).1
    have stored := tidy.spread.insertPieces mbuf small planned.spread <| by
      intro piece member
      have after := planned.after piece member
      exact ⟨planned.nonempty piece member, planned.short piece member, by omega,
        planned.before piece member, planned.clear piece member⟩
    refine ⟨stored.1, ?_⟩
    dsimp only
    rw [stored.2, tidy.total, planned.total]

/-! ### Draining -/

/-- A drain at `cur` leaves the segments behind what it appended. -/
structure DrainedOver (base : Seq) (width cur : ℕ) (drained : Drained) : Prop where
  remaining : SpreadOver base (cur + drained.bytesAppended + 1) width drained.segments
  total : drained.totalBytes = (drained.segments.map OooSegment.len).sum
  reached : drained.bytesAppended = 0 ∨ cur + drained.bytesAppended ≤ width

theorem drainSegments_over {base : Seq} {low width cur capRoom totalBytes : ℕ}
    {segs : List OooSegment} (spread : SpreadOver base low width segs) (small : width < 2 ^ 31)
    (near : cur < 2 ^ 31) (total : totalBytes = (segs.map OooSegment.len).sum) :
    DrainedOver base width cur (drainSegments segs (point base cur) capRoom totalBytes) := by
  induction segs generalizing low cur capRoom totalBytes with
  | nil => exact ⟨.nil _ _ _, total, Or.inl rfl⟩
  | cons seg rest ih =>
      rcases spread.head with ⟨positive, above, inside⟩
      have tail := spread.tail
      have short := spread.short seg (List.mem_cons_self ..)
      rw [List.map_cons, List.sum_cons] at total
      have startOrder : seqLt (point base cur) seg.seq = decide (cur < seg.ahead base) := by
        rw [← OooSegment.point_ahead base seg]
        exact seqLt_point base (by omega) (by omega)
      have endOrder : seqLe seg.endSeq (point base cur) =
          decide (seg.ahead base + seg.len ≤ cur) := by
        rw [OooSegment.endSeq_eq base]
        exact seqLe_point base (by omega) (by omega)
      dsimp only [drainSegments]
      rw [startOrder, endOrder]
      by_cases gap : cur < seg.ahead base
      · rw [decide_eq_true gap, if_pos rfl]
        refine ⟨⟨spread.spread, spread.nonempty, spread.short, ?_, spread.before⟩, ?_, Or.inl rfl⟩
        · intro other member
          rcases List.mem_cons.mp member with rfl | later
          · exact gap
          · have behind := tail.after other later
            dsimp only
            omega
        · rw [List.map_cons, List.sum_cons]
          exact total
      · rw [decide_eq_false gap, if_neg Bool.false_ne_true]
        by_cases stale : seg.ahead base + seg.len ≤ cur
        · rw [decide_eq_true stale, if_pos rfl]
          have later : DrainedOver base width cur
              (drainSegments rest (point base cur) capRoom (totalBytes - seg.len)) :=
            ih tail near (by omega)
          exact ⟨later.remaining, later.total, later.reached⟩
        · rw [decide_eq_false stale, if_neg Bool.false_ne_true]
          have skip : asU16 (point base cur - seg.seq).toNat = cur - seg.ahead base := by
            rw [← OooSegment.point_ahead base seg,
              toNat_point_sub_point base (by omega) (by omega)]
            exact asU16_of_lt (by omega)
          rw [skip]
          obtain ⟨appended, taken⟩ :
            ∃ appended, appended = min (seg.len - (cur - seg.ahead base)) capRoom := ⟨_, rfl⟩
          rw [← taken, asU16_of_lt (by omega : appended < 65536), seqAdd_point]
          have later : DrainedOver base width (cur + appended)
              (drainSegments rest (point base (cur + appended)) (capRoom - appended)
                (totalBytes - seg.len)) :=
            ih tail (by omega) (by omega)
          have remaining := later.remaining
          have reached := later.reached
          split
          · refine ⟨?_, later.total, ?_⟩
            · dsimp only
              rw [← Nat.add_assoc]
              exact remaining
            · right
              dsimp only
              omega
          · have none : appended = 0 := by omega
            subst none
            exact ⟨remaining, later.total, reached⟩

/-! ### Delivery -/

/-- A frame no longer than an IPv4 packet whose bytes, when they are ahead of a hole, all
lie in the receive window. The window test looks at the head of the chain only. -/
def TcpConn.chainInside (conn : TcpConn) (seg : ParsedSegment) (mbufCtx : Option MbufInsertCtx) :
    Bool :=
  (carriedBytes seg mbufCtx).length < 65536 &&
    (seg.seq == conn.rcvNxt ||
      (seg.seq - conn.rcvNxt).toNat + (carriedBytes seg mbufCtx).length ≤ conn.rcvWnd)

theorem length_carriedBytes_some (seg : ParsedSegment) (ctx : MbufInsertCtx) :
    (carriedBytes seg (some ctx)).length =
      seg.payload.length + (ctx.next.flatMap RxMbuf.data).length := by
  simp [carriedBytes, chainBytes]

/-- An in-order segment adds no more than it carries. -/
theorem appendInOrder_delivered_le (recv : RecvQueue) (seg : ParsedSegment)
    (mbufCtx : Option MbufInsertCtx) :
    (appendInOrder recv seg mbufCtx).delivered ≤ (carriedBytes seg mbufCtx).length := by
  dsimp only [appendInOrder]
  cases mbufCtx with
  | none => exact Nat.zero_le _
  | some ctx =>
      dsimp only
      split
      · rw [length_carriedBytes_some, (appendChain_extends ctx.next _).delivered,
          List.length_take]
        dsimp only [Appended.push]
        omega
      · exact Nat.zero_le _

/-- What an in-order segment adds to an empty queue. -/
theorem appendInOrder_exact {recv : RecvQueue} {seg : ParsedSegment}
    {mbufCtx : Option MbufInsertCtx} (empty : recv.bufferedBytes = 0)
    (short : (carriedBytes seg mbufCtx).length < 65536) :
    (appendInOrder recv seg mbufCtx).delivered ≤ recv.cap ∧
      (appendInOrder recv seg mbufCtx).recv.bufferedBytes =
        (appendInOrder recv seg mbufCtx).delivered := by
  have nothing : 0 ≤ recv.cap ∧ recv.bufferedBytes = 0 := ⟨Nat.zero_le _, empty⟩
  have free : recv.freeSpace = recv.cap := by
    rw [RecvQueue.freeSpace, empty, Nat.sub_zero]
  dsimp only [appendInOrder]
  cases mbufCtx with
  | none => exact nothing
  | some ctx =>
      dsimp only
      split
      · rw [length_carriedBytes_some] at short
        obtain ⟨headTake, taken⟩ : ∃ headTake, headTake = min seg.payload.length recv.freeSpace :=
          ⟨_, rfl⟩
        rw [← taken]
        have head : (({ recv := recv } : Appended).push ctx.mbuf ctx.payloadOffset
            headTake).recv.bufferedBytes = headTake := by
          have grown := recv.bufferedBytes_pushed ⟨ctx.mbuf, ctx.payloadOffset, asU16 headTake⟩
          rw [empty, Nat.zero_add, asU16_of_lt (by omega)] at grown
          dsimp only [Appended.push]
          rw [asU16_of_lt (by omega)]
          exact grown
        have chain := appendChain_extends ctx.next
          (({ recv := recv } : Appended).push ctx.mbuf ctx.payloadOffset headTake)
        have room : (({ recv := recv } : Appended).push ctx.mbuf ctx.payloadOffset
            headTake).recv.freeSpace = recv.cap - headTake := by
          rw [RecvQueue.freeSpace, head]
          rfl
        have delivered := chain.delivered
        rw [room, List.length_take] at delivered
        refine ⟨?_, ?_⟩
        · rw [delivered]
          dsimp only [Appended.push]
          omega
        · rw [chain.buffered, chain.delivered, head]
          dsimp only [Appended.push]
          omega
      · exact nothing

/-- A drain keeps what is stored in order, seen from where `rcv_nxt` comes to stand. -/
theorem drainReorder_tidy {base : Seq} {width cur : ℕ} {delivery : Delivery}
    (small : width < 2 ^ 31) (near : cur < 2 ^ 31)
    (rcvNxt : delivery.conn.rcvNxt = point base cur)
    (tidy : delivery.conn.recv.reorder.Tidy base width) :
    (drainReorder delivery).conn.recv.reorder.Tidy (drainReorder delivery).conn.rcvNxt width := by
  have drained : DrainedOver base width cur
      (drainSegments delivery.conn.recv.reorder.segments delivery.conn.rcvNxt
        delivery.conn.recv.freeSpace delivery.conn.recv.reorder.totalBytes) := by
    rw [rcvNxt]
    exact drainSegments_over tidy.spread small near tidy.total
  dsimp only [drainReorder]
  split
  · rename_i empty
    have none : delivery.conn.recv.reorder.segments = [] := by
      simpa [ReorderQueue.isEmpty] using empty
    refine ⟨?_, tidy.total⟩
    rw [none]
    exact .nil _ _ _
  · generalize drainSegments delivery.conn.recv.reorder.segments delivery.conn.rcvNxt
      delivery.conn.recv.freeSpace delivery.conn.recv.reorder.totalBytes = drain at drained
    refine ⟨?_, drained.total⟩
    have moved := drained.remaining.rebase (by omega)
      (Nat.le_add_right (cur + drain.bytesAppended) 1)
    dsimp only
    rw [rcvNxt, seqAdd_point]
    exact moved.mono (by omega) (Nat.sub_le _ _)

/-- The links behind the head of a segment ahead of a hole are stored like the head. -/
theorem insertChain_tidy {base : Seq} {width pos : ℕ} (small : width < 2 ^ 31) (ahead : 0 < pos)
    (links : List RxMbuf) (ends : pos + (links.flatMap RxMbuf.data).length ≤ width)
    {delivery : Delivery} (tidy : delivery.conn.recv.reorder.Tidy base width) :
    (insertChain links (point base pos) delivery).conn.recv.reorder.Tidy base width ∧
      (insertChain links (point base pos) delivery).conn.recv.bytes = delivery.conn.recv.bytes ∧
      (insertChain links (point base pos) delivery).conn.rcvNxt = delivery.conn.rcvNxt ∧
      (insertChain links (point base pos) delivery).delivered = delivery.delivered := by
  induction links generalizing pos delivery with
  | nil => exact ⟨tidy, rfl, rfl, rfl⟩
  | cons link rest ih =>
      rw [List.flatMap_cons, List.length_append] at ends
      dsimp only [insertChain]
      split
      · exact ih ahead (by omega) tidy
      · rw [seqAdd_point]
        have stored := tidy.insert small ahead link.dataLen_lt
          (by omega : pos + link.data.length ≤ width) link 0
        exact ih (by omega) (by omega) stored

/-- A segment ahead of a hole, all of whose bytes lie in the window, keeps what is stored in
order and touches nothing else of the receive side. -/
theorem deliverOutOfOrder_tidy {conn : TcpConn} {seg : ParsedSegment}
    {mbufCtx : Option MbufInsertCtx} {width : ℕ} (small : width < 2 ^ 31)
    (short : (carriedBytes seg mbufCtx).length < 65536)
    (tidy : conn.recv.reorder.Tidy conn.rcvNxt width) (ahead : seg.seq ≠ conn.rcvNxt)
    (window : (seg.seq - conn.rcvNxt).toNat + (carriedBytes seg mbufCtx).length ≤ width) :
    (deliverOutOfOrder conn seg mbufCtx).conn.recv.reorder.Tidy conn.rcvNxt width ∧
      (deliverOutOfOrder conn seg mbufCtx).conn.recv.bytes = conn.recv.bytes ∧
      (deliverOutOfOrder conn seg mbufCtx).conn.rcvNxt = conn.rcvNxt ∧
      (deliverOutOfOrder conn seg mbufCtx).delivered = 0 := by
  dsimp only [deliverOutOfOrder]
  split
  · cases mbufCtx with
    | none => exact ⟨tidy, rfl, rfl, rfl⟩
    | some ctx =>
        dsimp only
        rw [length_carriedBytes_some] at short window
        have seq := point_toNat_sub conn.rcvNxt seg.seq
        have positive : 0 < (seg.seq - conn.rcvNxt).toNat := by
          rw [Nat.pos_iff_ne_zero]
          intro zero
          rw [zero, point_zero] at seq
          exact ahead seq.symm
        generalize (seg.seq - conn.rcvNxt).toNat = start at window seq positive
        rw [← seq, seqAdd_point]
        refine insertChain_tidy small (by omega) ctx.next (by omega) ?_
        refine tidy.insert small positive ?_ ?_ ctx.mbuf ctx.payloadOffset
        · rw [List.length_take]
          omega
        · rw [List.length_take]
          omega
  · exact ⟨tidy, rfl, rfl, rfl⟩

/-- A delivery keeps what is stored in order. -/
theorem deliver_tidy {conn : TcpConn} {seg : ParsedSegment} {mbufCtx : Option MbufInsertCtx}
    {width : ℕ} (small : width < 2 ^ 31) (tidy : conn.recv.reorder.Tidy conn.rcvNxt width)
    (short : seg.payload ≠ [] → (carriedBytes seg mbufCtx).length < 65536)
    (window : seg.payload ≠ [] → seg.seq ≠ conn.rcvNxt →
      (seg.seq - conn.rcvNxt).toNat + (carriedBytes seg mbufCtx).length ≤ width) :
    (deliver conn seg mbufCtx).conn.recv.reorder.Tidy (deliver conn seg mbufCtx).conn.rcvNxt
      width := by
  unfold deliver
  split
  · exact tidy
  · rename_i data
    have data : seg.payload ≠ [] := by simpa using data
    have short := short data
    split
    · have carried := appendInOrder_delivered_le conn.recv seg mbufCtx
      rcases appendInOrder_room conn.recv seg mbufCtx with ⟨_, reorder, _⟩
      refine drainReorder_tidy small (by omega :
        (appendInOrder conn.recv seg mbufCtx).delivered < 2 ^ 31) rfl ?_
      dsimp only
      rw [reorder]
      exact tidy
    · rename_i ahead
      split
      · have stored := deliverOutOfOrder_tidy small short tidy ahead (window data ahead)
        rw [stored.2.2.1]
        exact stored.1
      · exact tidy

/-- What a delivery leaves: the bytes it counts are in the in-order queue, and with the
reorder queue they fit in the buffer. -/
structure Fitting (cap width : ℕ) (delivery : Delivery) : Prop where
  buffered : delivery.conn.recv.bufferedBytes = delivery.delivered
  tidy : delivery.conn.recv.reorder.Tidy delivery.conn.rcvNxt width
  fits : delivery.delivered + delivery.conn.recv.reorder.totalBytes ≤ cap

theorem drainReorder_fitting {base : Seq} {cap width : ℕ} {delivery : Delivery}
    (small : width < 65536) (wide : width ≤ cap) (near : delivery.delivered < 65536)
    (room : delivery.delivered ≤ cap)
    (rcvNxt : delivery.conn.rcvNxt = point base delivery.delivered)
    (buffered : delivery.conn.recv.bufferedBytes = delivery.delivered)
    (tidy : delivery.conn.recv.reorder.Tidy base width) :
    Fitting cap width (drainReorder delivery) := by
  have kept := drainReorder_tidy (by omega) (by omega) rcvNxt tidy
  have drained : DrainedOver base width delivery.delivered
      (drainSegments delivery.conn.recv.reorder.segments delivery.conn.rcvNxt
        delivery.conn.recv.freeSpace delivery.conn.recv.reorder.totalBytes) := by
    rw [rcvNxt]
    exact drainSegments_over tidy.spread (by omega) (by omega) tidy.total
  have lengths := drainSegments_lengths delivery.conn.recv.reorder.segments delivery.conn.rcvNxt
    delivery.conn.recv.freeSpace delivery.conn.recv.reorder.totalBytes
  refine ⟨?_, kept, ?_⟩ <;> dsimp only [drainReorder] <;> split
  · exact buffered
  · dsimp only [RecvQueue.bufferedBytes] at buffered ⊢
    rw [List.map_append, List.sum_append, lengths.1, buffered]
  · rename_i empty
    have none : delivery.conn.recv.reorder.segments = [] := by
      simpa [ReorderQueue.isEmpty] using empty
    have zero := tidy.total
    rw [none] at zero
    rw [zero]
    simpa using room
  · generalize drainSegments delivery.conn.recv.reorder.segments delivery.conn.rcvNxt
      delivery.conn.recv.freeSpace delivery.conn.recv.reorder.totalBytes = drain at drained
    have reached := drained.reached
    dsimp only
    rw [drained.total]
    by_cases ordered : delivery.delivered + drain.bytesAppended + 1 ≤ width
    · have fits := drained.remaining.sum_len_le ordered
      omega
    · have none : drain.segments = [] := by
        rw [List.eq_nil_iff_forall_not_mem]
        intro seg member
        have after := drained.remaining.after seg member
        have before := drained.remaining.before seg member
        have positive := drained.remaining.nonempty seg member
        omega
      rw [none]
      simp only [List.map_nil, List.sum_nil]
      omega

/-- A delivery to a connection whose in-order queue is empty fits in its buffer. -/
theorem deliver_fitting {conn : TcpConn} {seg : ParsedSegment} {mbufCtx : Option MbufInsertCtx}
    (small : conn.rcvWnd < 65536) (wide : conn.rcvWnd ≤ conn.recv.cap)
    (empty : conn.recv.bufferedBytes = 0)
    (tidy : conn.recv.reorder.Tidy conn.rcvNxt conn.rcvWnd)
    (inside : seg.payload ≠ [] → conn.chainInside seg mbufCtx = true) :
    Fitting conn.recv.cap conn.rcvWnd (deliver conn seg mbufCtx) := by
  have fits : ∀ queue : ReorderQueue, queue.Tidy conn.rcvNxt conn.rcvWnd →
      0 + queue.totalBytes ≤ conn.recv.cap := by
    intro queue tidy
    rw [Nat.zero_add]
    exact Nat.le_trans tidy.totalBytes_le wide
  unfold deliver
  split
  · exact ⟨empty, tidy, fits _ tidy⟩
  · rename_i data
    rcases Bool.and_eq_true_iff.mp (inside (by simpa using data)) with ⟨short, window⟩
    have short := of_decide_eq_true short
    split
    · rcases appendInOrder_exact empty short with ⟨room, buffered⟩
      rcases appendInOrder_room conn.recv seg mbufCtx with ⟨cap, reorder, _⟩
      refine drainReorder_fitting small wide
        (Nat.lt_of_le_of_lt (appendInOrder_delivered_le conn.recv seg mbufCtx) short) room rfl
        buffered ?_
      dsimp only
      rw [reorder]
      exact tidy
    · rename_i ahead
      split
      · rcases deliverOutOfOrder_tidy (by omega) short tidy ahead
          (by simpa [ahead] using window) with ⟨kept, bytes, rcvNxt, delivered⟩
        refine ⟨?_, ?_, ?_⟩
        · rw [RecvQueue.bufferedBytes, bytes, delivered]
          exact empty
        · rw [rcvNxt]
          exact kept
        · rw [delivered]
          exact fits _ kept
      · exact ⟨empty, tidy, fits _ tidy⟩

end DpdkTcp
