import Mathlib.Algebra.Order.Ring.Int
import Mathlib.Tactic.Common
import Mathlib.Algebra.BigOperators.Group.List.Basic
import Mathlib.Data.Nat.Count

/-!
# Lists of disjoint intervals

The items of a list stand for half-open intervals of numbers, given by a start
and a length. `Intervals.Spread` says that they lie one behind the other. A
further interval that overlaps none of them can be put between those that
start before it and those that start behind it. The numbers of a range that no
interval holds are its gaps; `Intervals.gaps` counts them.
-/

namespace Intervals

universe u

variable {Item : Type u} (start len : Item → ℕ)

/-- The intervals lie one behind the other. -/
def Spread (items : List Item) : Prop :=
  items.Pairwise fun first second => start first + len first ≤ start second

/-- None of the intervals overlaps the one of `size` numbers from `pos` on. -/
def Clear (items : List Item) (pos size : ℕ) : Prop :=
  ∀ item ∈ items, pos + size ≤ start item ∨ start item + len item ≤ pos

variable {start len}

/-- An interval that is not clear at any of its numbers is covered. -/
def Covered (start len : Item → ℕ) (items : List Item) (pos : ℕ) : Prop :=
  ∃ item ∈ items, start item ≤ pos ∧ pos < start item + len item

/-- Whether a position is covered can be computed. -/
instance (items : List Item) : DecidablePred (Covered start len items) := fun pos =>
  inferInstanceAs (Decidable (∃ item ∈ items, start item ≤ pos ∧ pos < start item + len item))

theorem Clear.mono {items : List Item} {pos size less : ℕ} (clear : Clear start len items pos size)
    (shorter : less ≤ size) : Clear start len items pos less := by
  intro item member
  rcases clear item member with behind | before
  · exact Or.inl (by omega)
  · exact Or.inr before

/-- No number of a clear interval is covered. -/
theorem Clear.not_covered_of_mem {items : List Item} {low size pos : ℕ}
    (clear : Clear start len items low size) (above : low ≤ pos) (below : pos < low + size) :
    ¬ Covered start len items pos := by
  rintro ⟨item, member, begins, ends⟩
  rcases clear item member with behind | before <;> omega

theorem covered_append {items others : List Item} {pos : ℕ} :
    Covered start len (items ++ others) pos ↔
      Covered start len items pos ∨ Covered start len others pos := by
  simp only [Covered, List.mem_append, or_and_right, exists_or]

theorem covered_singleton {item : Item} {pos : ℕ} :
    Covered start len [item] pos ↔ start item ≤ pos ∧ pos < start item + len item := by
  simp [Covered]

variable (start len) in
/-- How many of the `size` numbers from `low` on are not covered. -/
def gaps (items : List Item) (low size : ℕ) : ℕ :=
  Nat.count (fun offset => ¬ Covered start len items (low + offset)) size

@[simp]
theorem gaps_zero (items : List Item) (low : ℕ) : gaps start len items low 0 = 0 :=
  Nat.count_zero _

variable (start len) in
/-- The gaps and the covered numbers make up the range. -/
theorem gaps_add_count_covered (items : List Item) (low size : ℕ) :
    gaps start len items low size +
      Nat.count (fun offset => Covered start len items (low + offset)) size = size := by
  induction size with
  | zero => simp
  | succ size ih =>
      rw [gaps, Nat.count_succ, Nat.count_succ]
      rw [gaps] at ih
      by_cases covered : Covered start len items (low + size)
      · rw [if_neg (not_not_intro covered), if_pos covered]
        omega
      · rw [if_pos covered, if_neg covered]
        omega

/-- Of two intervals of a spread list, one lies behind the other. -/
theorem Spread.apart {items : List Item} {first second : Item} (spread : Spread start len items)
    (inItems : first ∈ items) (present : second ∈ items) :
    first = second ∨ start first + len first ≤ start second ∨
      start second + len second ≤ start first := by
  induction items with
  | nil => cases inItems
  | cons head rest ih =>
      rcases List.pairwise_cons.mp spread with ⟨behind, spreadRest⟩
      rcases List.mem_cons.mp inItems with rfl | inRest <;>
        rcases List.mem_cons.mp present with rfl | inRest'
      · exact .inl rfl
      · exact .inr (.inl (behind second inRest'))
      · exact .inr (.inr (behind first inRest))
      · exact ih spreadRest inRest inRest'

/-- Every number of a clear interval is a gap. -/
theorem gaps_add_of_clear {items : List Item} {low size more : ℕ}
    (clear : Clear start len items (low + size) more) :
    gaps start len items low (size + more) = gaps start len items low size + more := by
  have all : Nat.count (fun offset => ¬ Covered start len items (low + (size + offset))) more =
      more := by
    apply Nat.count_iff_forall.mpr
    intro offset inside
    exact clear.not_covered_of_mem (by omega) (by omega)
  rw [gaps, Nat.count_add, all]
  rfl

/-- No covered number is a gap. -/
theorem gaps_add_of_covered {items : List Item} {low size more : ℕ}
    (covered : ∀ pos, low + size ≤ pos → pos < low + size + more → Covered start len items pos) :
    gaps start len items low (size + more) = gaps start len items low size := by
  have none : Nat.count (fun offset => ¬ Covered start len items (low + (size + offset))) more =
      0 := by
    apply Nat.count_iff_forall_not.mpr
    intro offset inside
    exact not_not_intro (covered _ (by omega) (by omega))
  rw [gaps, Nat.count_add, none]
  rfl

theorem gaps_eq_zero_iff {items : List Item} {low size : ℕ} :
    gaps start len items low size = 0 ↔
      ∀ pos, low ≤ pos → pos < low + size → Covered start len items pos := by
  rw [gaps, Nat.count_iff_forall_not]
  constructor
  · intro none pos above below
    have covered := none (pos - low) (by omega)
    rw [Nat.add_sub_cancel' above] at covered
    exact not_not.mp covered
  · intro covered offset inside
    exact not_not_intro (covered _ (by omega) (by omega))

/-- The number behind an interval is covered exactly when another interval begins there. -/
theorem Spread.covered_end_iff {items : List Item} {item : Item} (spread : Spread start len items)
    (nonempty : ∀ other ∈ items, 0 < len other) (member : item ∈ items) :
    Covered start len items (start item + len item) ↔
      ∃ other ∈ items, start item + len item = start other := by
  constructor
  · rintro ⟨other, present, begins, ends⟩
    refine ⟨other, present, ?_⟩
    rcases spread.apart member present with rfl | behind | before
    · omega
    · omega
    · have := nonempty item member
      omega
  · rintro ⟨other, present, touches⟩
    have := nonempty other present
    exact ⟨other, present, by omega, by omega⟩

/-- The number before an interval is covered exactly when another interval ends there. -/
theorem Spread.covered_pred_iff {items : List Item} {item : Item} (spread : Spread start len items)
    (nonempty : ∀ other ∈ items, 0 < len other) (member : item ∈ items) (inner : 0 < start item) :
    Covered start len items (start item - 1) ↔
      ∃ other ∈ items, start other + len other = start item := by
  constructor
  · rintro ⟨other, present, begins, ends⟩
    refine ⟨other, present, ?_⟩
    rcases spread.apart member present with rfl | behind | before
    · omega
    · have := nonempty item member
      omega
    · omega
  · rintro ⟨other, present, touches⟩
    have := nonempty other present
    exact ⟨other, present, by omega, by omega⟩

/-- Disjoint intervals take up no more than the range they lie in. -/
theorem add_sum_len_le {items : List Item} {low high : ℕ} (spread : Spread start len items)
    (ordered : low ≤ high) (after : ∀ item ∈ items, low ≤ start item)
    (before : ∀ item ∈ items, start item + len item ≤ high) :
    low + (items.map len).sum ≤ high := by
  induction items generalizing low with
  | nil => simpa using ordered
  | cons first rest ih =>
      rcases List.pairwise_cons.mp spread with ⟨behind, spreadRest⟩
      have firstAfter := after first (List.mem_cons_self ..)
      have firstBefore := before first (List.mem_cons_self ..)
      have restFits := ih spreadRest firstBefore behind
        fun item member => before item (List.mem_cons_of_mem _ member)
      rw [List.map_cons, List.sum_cons]
      omega

/-- A clear interval goes between those that start before it and those that start behind it. -/
theorem Spread.insert {left right : List Item} {new : Item}
    (spread : Spread start len (left ++ right)) (nonempty : 0 < len new)
    (clear : Clear start len (left ++ right) (start new) (len new))
    (before : ∀ item ∈ left, start item ≤ start new)
    (behind : ∀ item ∈ right, start new < start item) :
    Spread start len (left ++ new :: right) := by
  rcases List.pairwise_append.mp spread with ⟨spreadLeft, spreadRight, across⟩
  have newRight : ∀ item ∈ right, start new + len new ≤ start item := by
    intro item member
    have later := behind item member
    rcases clear item (List.mem_append_right _ member) with ends | begins
    · exact ends
    · omega
  refine List.pairwise_append.mpr
    ⟨spreadLeft, List.pairwise_cons.mpr ⟨newRight, spreadRight⟩, ?_⟩
  intro first inLeft second inRight
  rcases List.mem_cons.mp inRight with rfl | inRight
  · have earlier := before first inLeft
    rcases clear first (List.mem_append_left _ inLeft) with ends | begins
    · omega
    · exact begins
  · exact across first inLeft second inRight

/-- A further interval at the end keeps the list spread. -/
theorem Spread.concat {items : List Item} {new : Item} (spread : Spread start len items)
    (behind : ∀ item ∈ items, start item + len item ≤ start new) :
    Spread start len (items ++ [new]) := by
  refine List.pairwise_append.mpr ⟨spread, List.pairwise_singleton _ _, ?_⟩
  intro item member other isNew
  rcases List.mem_singleton.mp isNew with rfl
  exact behind item member

end Intervals
