import Mathlib.Algebra.Order.Ring.Int
import Mathlib.Data.List.Pairwise
import Mathlib.Logic.Relation
import Mathlib.Tactic.Common

/-!
# Fusing the touching items of a list

The items of an unsorted list stand for sets, and two items may touch. A fusing
step takes a touching pair, puts its join where the first of the two was, and
drops the second. A list on which no step is possible is one whose items are
pairwise apart. Steps shorten the list, so every sequence of them comes to
such a list, and as long as the join of two touching items stands for the
union, the list as a whole stands for the same set throughout.
-/

namespace Fusion

universe u v

variable {Item : Type u} {Point : Type v}

/-- One step: a touching pair gives way to its join, at the place of its first member. -/
inductive Step (touch : Item → Item → Prop) (join : Item → Item → Item) :
    List Item → List Item → Prop where
  | fuse (left mid right : List Item) {first second : Item} (touching : touch first second) :
      Step touch join (left ++ first :: (mid ++ second :: right))
        (left ++ join first second :: (mid ++ right))

/-- Some item of the list holds the point. -/
def Covers (mem : Item → Point → Prop) (items : List Item) (point : Point) : Prop :=
  ∃ item ∈ items, mem item point

variable {touch : Item → Item → Prop} {join : Item → Item → Item} {mem : Item → Point → Prop}
  {Fits : Item → Prop}

@[simp]
theorem covers_nil {point : Point} : ¬ Covers mem [] point := by
  simp [Covers]

@[simp]
theorem covers_cons {item : Item} {items : List Item} {point : Point} :
    Covers mem (item :: items) point ↔ mem item point ∨ Covers mem items point := by
  simp [Covers]

@[simp]
theorem covers_append {left right : List Item} {point : Point} :
    Covers mem (left ++ right) point ↔ Covers mem left point ∨ Covers mem right point := by
  simp only [Covers, List.mem_append, or_and_right, exists_or]

/-- A step uses up one item. -/
theorem Step.length {before after : List Item} (step : Step touch join before after) :
    after.length + 1 = before.length := by
  cases step with
  | fuse left mid right touching =>
      simp only [List.length_append, List.length_cons]
      omega

/-- A step further back in the list. -/
theorem Step.cons {before after : List Item} (step : Step touch join before after) (item : Item) :
    Step touch join (item :: before) (item :: after) := by
  cases step with
  | fuse left mid right touching => exact Step.fuse (item :: left) mid right touching

section Laws

/-- The join of two touching items of the right kind is of that kind and stands for both. -/
def Lawful (touch : Item → Item → Prop) (join : Item → Item → Item) (mem : Item → Point → Prop)
    (Fits : Item → Prop) : Prop :=
  ∀ first second, Fits first → Fits second → touch first second →
    Fits (join first second) ∧
      ∀ point, mem (join first second) point ↔ mem first point ∨ mem second point

variable (lawful : Lawful touch join mem Fits)

include lawful

theorem Step.fits {before after : List Item} (step : Step touch join before after)
    (fits : ∀ item ∈ before, Fits item) : ∀ item ∈ after, Fits item := by
  cases step with
  | fuse left mid right touching =>
      rename_i first second
      have joined := (lawful first second (fits first (by simp)) (fits second (by simp)) touching).1
      intro item member
      rcases List.mem_append.mp member with inLeft | member
      · exact fits item (by simp [inLeft])
      · rcases List.mem_cons.mp member with rfl | member
        · exact joined
        · rcases List.mem_append.mp member with inMid | inRight
          · exact fits item (by simp [inMid])
          · exact fits item (by simp [inRight])

/-- A step leaves what the list stands for. -/
theorem Step.covers {before after : List Item} (step : Step touch join before after)
    (fits : ∀ item ∈ before, Fits item) (point : Point) :
    Covers mem after point ↔ Covers mem before point := by
  cases step with
  | fuse left mid right touching =>
      rename_i first second
      have joined := (lawful first second (fits first (by simp)) (fits second (by simp)) touching).2
      simp only [covers_append, covers_cons, joined]
      tauto

/-- What any number of steps leaves. -/
theorem steps_spec {before after : List Item}
    (steps : Relation.ReflTransGen (Step touch join) before after)
    (fits : ∀ item ∈ before, Fits item) :
    (∀ item ∈ after, Fits item) ∧ after.length ≤ before.length ∧
      ∀ point, Covers mem after point ↔ Covers mem before point := by
  induction steps with
  | refl => exact ⟨fits, Nat.le_refl _, fun _ => Iff.rfl⟩
  | tail _ step ih =>
      rcases ih with ⟨fitsMid, shorter, covers⟩
      have used := step.length
      refine ⟨step.fits lawful fitsMid, by omega, fun point => ?_⟩
      rw [step.covers lawful fitsMid point, covers point]

end Laws

end Fusion
