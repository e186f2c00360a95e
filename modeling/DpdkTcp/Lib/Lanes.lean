import Mathlib.Algebra.Order.Ring.Int
import Mathlib.Tactic.Common

/-!
# A queue with a way past it

Items are numbered in the order they are given out. Most wait in a queue before
they are handed over; some are handed over at once, past the queue. A lane is a
class of items, and a lane is handed over in the order its items were given
unless one of them passes another of the lane that still waits.
-/

namespace Lanes

universe u

/-- The items given so far, those handed over, and those that wait, each in its order. -/
structure Desk (Item : Type u) where
  given : List Item
  handed : List Item
  waiting : List Item

namespace Desk

variable {Item : Type u} {first second third : Desk Item} {lane : Item → Bool}

/-- What was handed over and what will be. -/
def queued (desk : Desk Item) : List Item :=
  desk.handed ++ desk.waiting

/-- The lane is handed over in the order it was given, up to some that are lost. -/
def Ordered (lane : Item → Bool) (desk : Desk Item) : Prop :=
  desk.queued.filter lane <+: desk.given.filter lane

/-- The lane is handed over in the order it was given, and none of it is lost. -/
def Whole (lane : Item → Bool) (desk : Desk Item) : Prop :=
  desk.queued.filter lane = desk.given.filter lane

theorem Whole.ordered (whole : first.Whole lane) : first.Ordered lane :=
  ⟨[], (List.append_nil _).trans whole⟩

theorem Ordered.handed (ordered : first.Ordered lane) :
    first.handed.filter lane <+: first.given.filter lane := by
  refine List.IsPrefix.trans ?_ ordered
  rw [queued, List.filter_append]
  exact List.prefix_append _ _

/-- A lane of which nothing was given. -/
theorem Ordered.queued_nil (ordered : first.Ordered lane) (nothing : first.given.filter lane = []) :
    first.queued.filter lane = [] := by
  unfold Ordered at ordered
  rw [nothing] at ordered
  exact List.prefix_nil.mp ordered

/-- New items are given and join the queue, and the queue moves on. -/
structure Advances (news : List Item) (before after : Desk Item) : Prop where
  given : after.given = before.given ++ news
  queued : after.queued = before.queued ++ news

namespace Advances

variable {news later : List Item}

theorem refl (desk : Desk Item) : Advances [] desk desk :=
  ⟨(List.append_nil _).symm, (List.append_nil _).symm⟩

theorem trans (left : Advances news first second) (right : Advances later second third) :
    Advances (news ++ later) first third := by
  refine ⟨?_, ?_⟩
  · rw [right.given, left.given, List.append_assoc]
  · rw [right.queued, left.queued, List.append_assoc]

theorem whole (advances : Advances news first second) (whole : first.Whole lane) :
    second.Whole lane := by
  unfold Whole
  rw [advances.given, advances.queued, List.filter_append, List.filter_append, whole]

/-- A lane without news. -/
theorem ordered (advances : Advances news first second) (ordered : first.Ordered lane)
    (others : news.filter lane = []) : second.Ordered lane := by
  unfold Ordered
  rw [advances.given, advances.queued, List.filter_append, List.filter_append, others,
    List.append_nil, List.append_nil]
  exact ordered

end Advances

/-- An item is given and handed over at once. -/
def pass (desk : Desk Item) (item : Item) : Desk Item :=
  { desk with given := desk.given ++ [item], handed := desk.handed ++ [item] }

theorem Whole.pass (whole : first.Whole lane) {item : Item}
    (clear : lane item = true → first.waiting.filter lane = []) :
    (first.pass item).Whole lane := by
  have before : first.handed.filter lane ++ first.waiting.filter lane =
      first.given.filter lane := by
    rw [← List.filter_append]
    exact whole
  dsimp only [Whole, queued, Desk.pass]
  rw [List.filter_append, List.filter_append, List.filter_append, List.append_assoc]
  cases inLane : lane item with
  | true =>
      rw [clear inLane, List.append_nil] at before
      rw [clear inLane, List.append_nil, before]
  | false =>
      have outside : [item].filter lane = [] := by simp [inLane]
      rw [outside, List.nil_append, List.append_nil, before]

theorem Ordered.pass (ordered : first.Ordered lane) {item : Item} (outside : lane item = false) :
    (first.pass item).Ordered lane := by
  have others : [item].filter lane = [] := by simp [outside]
  dsimp only [Ordered, queued, Desk.pass] at ordered ⊢
  rw [List.filter_append] at ordered
  rw [List.filter_append, List.filter_append, List.filter_append, others, List.append_nil,
    List.append_nil]
  exact ordered

/-- The queue is lost. -/
theorem Ordered.lose (ordered : first.Ordered lane) :
    Ordered lane { first with waiting := [] } := by
  dsimp only [Ordered, queued]
  rw [List.append_nil]
  exact ordered.handed

end Desk

end Lanes
