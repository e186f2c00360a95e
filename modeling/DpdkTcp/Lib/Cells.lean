import Mathlib.Algebra.Order.Ring.Int
import Mathlib.Data.Multiset.AddSub
import Mathlib.Tactic.Common
import Mathlib.Algebra.Order.Group.Int

/-!
# Items held by the cells of a table

A table is a list of cells, and each cell holds a list of items. Replacing one
cell exchanges what it held for what it holds now, item by item.
-/

namespace Cells

universe u v

variable {Cell : Type u} {Item : Type v} [DecidableEq Item] (held : Cell → List Item)

/-- Replacing a cell exchanges its items. -/
theorem count_flatMap_set {cells : List Cell} {index : ℕ} {old : Cell}
    (found : cells[index]? = some old) (cell : Cell) (item : Item) :
    ((cells.set index cell).flatMap held).count item + (held old).count item =
      (cells.flatMap held).count item + (held cell).count item := by
  induction cells generalizing index with
  | nil => simp at found
  | cons head rest ih =>
      cases index with
      | zero =>
          have same : head = old := by simpa using found
          rw [same, List.set_cons_zero, List.flatMap_cons, List.flatMap_cons, List.count_append,
            List.count_append]
          omega
      | succ index =>
          have later := ih (by simpa using found)
          rw [List.set_cons_succ, List.flatMap_cons, List.flatMap_cons, List.count_append,
            List.count_append]
          omega

omit [DecidableEq Item] in
/-- The items beside those of one cell, which stay when the cell is replaced. -/
theorem flatMap_split {cells : List Cell} {index : ℕ} {old : Cell}
    (found : cells[index]? = some old) :
    ∃ others : Multiset Item,
      (cells.flatMap held : Multiset Item) = others + (held old : Multiset Item) ∧
      ∀ cell, ((cells.set index cell).flatMap held : Multiset Item) =
        others + (held cell : Multiset Item) := by
  induction cells generalizing index with
  | nil => simp at found
  | cons head rest ih =>
      cases index with
      | zero =>
          have same : head = old := by simpa using found
          refine ⟨(rest.flatMap held : Multiset Item), ?_, fun cell => ?_⟩
          · rw [same, List.flatMap_cons, ← Multiset.coe_add, Multiset.add_comm]
          · rw [List.set_cons_zero, List.flatMap_cons, ← Multiset.coe_add, Multiset.add_comm]
      | succ index =>
          rcases ih (by simpa using found) with ⟨others, whole, replaced⟩
          refine ⟨(held head : Multiset Item) + others, ?_, fun cell => ?_⟩
          · rw [List.flatMap_cons, ← Multiset.coe_add, whole, Multiset.add_assoc]
          · rw [List.set_cons_succ, List.flatMap_cons, ← Multiset.coe_add, replaced,
              Multiset.add_assoc]

/-- Removing a cell removes its items. -/
theorem count_flatMap_eraseIdx {cells : List Cell} {index : ℕ} {cell : Cell}
    (found : cells[index]? = some cell) (item : Item) :
    (cells.flatMap held).count item =
      ((cells.eraseIdx index).flatMap held).count item + (held cell).count item := by
  induction cells generalizing index with
  | nil => simp at found
  | cons head rest ih =>
      cases index with
      | zero =>
          have same : head = cell := by simpa using found
          rw [same, List.eraseIdx_cons_zero, List.flatMap_cons, List.count_append]
          omega
      | succ index =>
          have later := ih (by simpa using found)
          rw [List.eraseIdx_cons_succ, List.flatMap_cons, List.flatMap_cons, List.count_append,
            List.count_append]
          omega

/-- The items of a split list of cells. -/
theorem count_flatMap_take_drop (cells : List Cell) (split : ℕ) (item : Item) :
    (cells.flatMap held).count item =
      ((cells.take split).flatMap held).count item +
        ((cells.drop split).flatMap held).count item := by
  rw [← List.count_append, ← List.flatMap_append, List.take_append_drop]

/-- Where a label occurs once at most, it names one item. -/
theorem eq_of_count_map_le_one {Label : Type*} [DecidableEq Label] {name : Item → Label}
    {items : List Item} {label : Label} (once : (items.map name).count label ≤ 1)
    {left right : Item} (leftIn : left ∈ items) (rightIn : right ∈ items)
    (leftName : name left = label) (rightName : name right = label) : left = right := by
  induction items with
  | nil => cases leftIn
  | cons first rest ih =>
      rw [List.map_cons, List.count_cons] at once
      have elsewhere : ∀ item ∈ rest, name item = label → 0 < (rest.map name).count label :=
        fun item member named => List.count_pos_iff.mpr (named ▸ List.mem_map_of_mem member)
      rcases List.mem_cons.mp leftIn with rfl | leftLater <;>
        rcases List.mem_cons.mp rightIn with rfl | rightLater
      · rfl
      · have more := elsewhere right rightLater rightName
        rw [if_pos (beq_iff_eq.mpr leftName)] at once
        omega
      · have more := elsewhere left leftLater leftName
        rw [if_pos (beq_iff_eq.mpr rightName)] at once
        omega
      · exact ih (by omega) leftLater rightLater

end Cells
