import Mathlib.Algebra.Order.Ring.Int
import Mathlib.Data.List.Nodup
import Mathlib.Logic.Function.Basic
import Mathlib.Tactic.Common

/-!
# Items with one home each

Items are listed in cells, each cell a list. They are housed when a map tells the home
of every item that has one, and every cell lists exactly the items at home there,
each of them once. An item that leaves its cell or settles in one changes its
home alone.
-/

namespace Homes

universe u v

variable {Place : Type u} {Item : Type v} [DecidableEq Place] [DecidableEq Item]

/-- The cells list exactly the items at home there, each once. -/
structure Housed (cells : Place → List Item) (home : Item → Option Place) : Prop where
  nodup : ∀ place, (cells place).Nodup
  mem_iff : ∀ place item, item ∈ cells place ↔ home item = some place

namespace Housed

variable {cells after : Place → List Item} {home : Item → Option Place} {place : Place}
  {item : Item}

/-- An item without a home settles in a cell. -/
theorem settle (housed : Housed cells home) (absent : home item = none)
    (here : (after place).Perm (item :: cells place))
    (elsewhere : ∀ other, other ≠ place → after other = cells other) :
    Housed after (Function.update home item (some place)) := by
  have unlisted : ∀ other, item ∉ cells other := by
    intro other member
    rw [housed.mem_iff, absent] at member
    cases member
  constructor
  · intro other
    by_cases same : other = place
    · rw [same, here.nodup_iff]
      exact List.nodup_cons.mpr ⟨unlisted place, housed.nodup place⟩
    · rw [elsewhere other same]
      exact housed.nodup other
  · intro other any
    by_cases isItem : any = item
    · rw [isItem, Function.update_self, Option.some.injEq, eq_comm]
      by_cases same : other = place
      · exact iff_of_true (same ▸ here.mem_iff.mpr List.mem_cons_self) same
      · rw [elsewhere other same]
        exact iff_of_false (unlisted other) same
    · rw [Function.update_of_ne isItem, ← housed.mem_iff]
      by_cases same : other = place
      · rw [same, here.mem_iff, List.mem_cons]
        exact or_iff_right isItem
      · rw [elsewhere other same]

/-- An item leaves its cell. -/
theorem leave (housed : Housed cells home) (here : (cells place).Perm (item :: after place))
    (elsewhere : ∀ other, other ≠ place → after other = cells other) :
    Housed after (Function.update home item none) := by
  have atHome : home item = some place :=
    (housed.mem_iff place item).mp (here.mem_iff.mpr List.mem_cons_self)
  have distinct := List.nodup_cons.mp (here.nodup_iff.mp (housed.nodup place))
  constructor
  · intro other
    by_cases same : other = place
    · rw [same]
      exact distinct.2
    · rw [elsewhere other same]
      exact housed.nodup other
  · intro other any
    by_cases isItem : any = item
    · rw [isItem, Function.update_self]
      refine iff_of_false (fun member => ?_) nofun
      by_cases same : other = place
      · exact distinct.1 (same ▸ member)
      · rw [elsewhere other same, housed.mem_iff, atHome] at member
        exact same (Option.some.inj member).symm
    · rw [Function.update_of_ne isItem, ← housed.mem_iff]
      by_cases same : other = place
      · rw [same, here.mem_iff, List.mem_cons]
        exact (or_iff_right isItem).symm
      · rw [elsewhere other same]

/-- An item moves from a cell to another one. -/
theorem move (housed : Housed cells home) {target : Place} (differs : target ≠ place)
    (source : (cells place).Perm (item :: after place))
    (there : (after target).Perm (item :: cells target))
    (elsewhere : ∀ other, other ≠ place → other ≠ target → after other = cells other) :
    Housed after (Function.update home item (some target)) := by
  have left : Housed (Function.update after target (cells target))
      (Function.update home item none) := by
    have here : (cells place).Perm (item :: Function.update after target (cells target) place) := by
      rw [Function.update_of_ne (Ne.symm differs)]
      exact source
    refine housed.leave here fun other apart => ?_
    by_cases same : other = target
    · rw [same, Function.update_self]
    · rw [Function.update_of_ne same, elsewhere other apart same]
  have here : (after target).Perm (item :: Function.update after target (cells target) target) := by
    rw [Function.update_self]
    exact there
  have settled := left.settle (Function.update_self ..) here
    (fun other apart => (Function.update_of_ne apart ..).symm)
  rwa [Function.update_idem] at settled

omit [DecidableEq Item] in
/-- All items of a cell move to an empty one. -/
theorem carry (housed : Housed cells home) {target : Place}
    (empty : cells target = []) (source : after place = []) (there : after target = cells place)
    (elsewhere : ∀ other, other ≠ place → other ≠ target → after other = cells other) :
    Housed after fun item => if home item = some place then some target else home item := by
  have vacant : ∀ item, home item ≠ some target := by
    intro item atTarget
    have member := (housed.mem_iff target item).mpr atTarget
    rw [empty] at member
    cases member
  constructor
  · intro other
    by_cases isSource : other = place
    · rw [isSource, source]
      exact List.nodup_nil
    · by_cases isTarget : other = target
      · rw [isTarget, there]
        exact housed.nodup place
      · rw [elsewhere other isSource isTarget]
        exact housed.nodup other
  · intro other item
    by_cases atPlace : home item = some place
    · rw [if_pos atPlace, Option.some.injEq]
      by_cases isTarget : other = target
      · rw [isTarget, there]
        exact iff_of_true ((housed.mem_iff place item).mpr atPlace) rfl
      · refine iff_of_false (fun member => ?_) (Ne.symm isTarget)
        by_cases isSource : other = place
        · rw [isSource, source] at member
          cases member
        · rw [elsewhere other isSource isTarget, housed.mem_iff, atPlace] at member
          exact isSource (Option.some.inj member).symm
    · rw [if_neg atPlace]
      by_cases isSource : other = place
      · rw [isSource, source]
        exact iff_of_false List.not_mem_nil atPlace
      · by_cases isTarget : other = target
        · rw [isTarget, there, housed.mem_iff]
          exact iff_of_false atPlace (vacant item)
        · rw [elsewhere other isSource isTarget]
          exact housed.mem_iff other item

end Housed

end Homes
