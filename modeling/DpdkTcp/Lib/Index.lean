import Mathlib.Algebra.Order.Ring.Int
import Mathlib.Logic.Function.Basic
import Mathlib.Tactic.Common

/-!
# Slots and an index over them

Values live in numbered slots, and an index finds the slot of a key. The two
agree when the index holds exactly the keys of the stored values; then no two
slots share a key. Storing under a new key, removing and replacing a value by
one with the same key keep the agreement.
-/

namespace Index

universe u v

variable {Key : Type u} {Val : Type v} {keyOf : Val → Key} {index : Key → Option ℕ}
  {slots : ℕ → Option Val} {slot : ℕ} {val : Val}

/-- The index finds a slot for a key just if the slot holds a value with the key. -/
def Agree (keyOf : Val → Key) (index : Key → Option ℕ) (slots : ℕ → Option Val) : Prop :=
  ∀ key slot, index key = some slot ↔ ∃ val, slots slot = some val ∧ keyOf val = key

namespace Agree

theorem empty : Agree keyOf (fun _ => none) fun _ => none := by
  intro key slot
  simp

theorem find (agree : Agree keyOf index slots) (held : slots slot = some val) :
    index (keyOf val) = some slot :=
  (agree (keyOf val) slot).mpr ⟨val, held, rfl⟩

/-- A slot is determined by the key of its value. -/
theorem unique (agree : Agree keyOf index slots) {other : ℕ} {val' : Val}
    (held : slots slot = some val) (held' : slots other = some val')
    (same : keyOf val' = keyOf val) : other = slot := by
  have found := agree.find held
  have found' := agree.find held'
  rw [same, found] at found'
  exact (Option.some.inj found').symm

theorem absent (agree : Agree keyOf index slots) {key : Key}
    (unheld : ∀ slot val, slots slot = some val → keyOf val ≠ key) : index key = none := by
  cases found : index key with
  | none => rfl
  | some slot =>
      rcases (agree key slot).mp found with ⟨val, held, same⟩
      exact absurd same (unheld slot val held)

section Changes

variable {index' : Key → Option ℕ} {slots' : ℕ → Option Val}

/-- A value with a new key goes to a free slot. -/
theorem insert (agree : Agree keyOf index slots) (free : slots slot = none)
    (new : index (keyOf val) = none) (stored : slots' slot = some val)
    (others : ∀ other, other ≠ slot → slots' other = slots other)
    (found : index' (keyOf val) = some slot)
    (kept : ∀ key, key ≠ keyOf val → index' key = index key) : Agree keyOf index' slots' := by
  intro key other
  by_cases isNew : key = keyOf val
  · rw [isNew, found]
    constructor
    · rintro ⟨rfl⟩
      exact ⟨val, stored, rfl⟩
    · rintro ⟨val', held, same⟩
      by_cases here : other = slot
      · rw [here]
      · rw [others other here] at held
        have old := agree.find held
        rw [same, new] at old
        cases old
  · rw [kept key isNew, agree key other]
    by_cases here : other = slot
    · subst here
      rw [free, stored]
      constructor
      · rintro ⟨val', ⟨⟩, _⟩
      · rintro ⟨val', ⟨⟩, same⟩
        exact absurd same.symm isNew
    · rw [others other here]

/-- The value of a slot goes, and its key with it. -/
theorem remove (agree : Agree keyOf index slots) (held : slots slot = some val)
    (freed : slots' slot = none) (others : ∀ other, other ≠ slot → slots' other = slots other)
    (gone : index' (keyOf val) = none)
    (kept : ∀ key, key ≠ keyOf val → index' key = index key) : Agree keyOf index' slots' := by
  intro key other
  by_cases isGone : key = keyOf val
  · rw [isGone, gone]
    constructor
    · rintro ⟨⟩
    · rintro ⟨val', held', same⟩
      by_cases here : other = slot
      · rw [here, freed] at held'
        cases held'
      · rw [others other here] at held'
        exact absurd (agree.unique held held' same) here
  · rw [kept key isGone, agree key other]
    by_cases here : other = slot
    · subst here
      rw [held, freed]
      constructor
      · rintro ⟨val', ⟨⟩, same⟩
        exact absurd same.symm isGone
      · rintro ⟨val', ⟨⟩, _⟩
    · rw [others other here]

/-- Values may change as long as their keys stay. -/
theorem replace (agree : Agree keyOf index slots)
    (keys : ∀ slot, (slots' slot).map keyOf = (slots slot).map keyOf) :
    Agree keyOf index slots' := by
  have holds : ∀ (slots : ℕ → Option Val) key slot,
      (∃ val, slots slot = some val ∧ keyOf val = key) ↔ (slots slot).map keyOf = some key := by
    intro slots key slot
    rw [Option.map_eq_some_iff]
  intro key slot
  rw [agree key slot, holds, holds, keys]

end Changes

end Agree

end Index
