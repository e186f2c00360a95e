import Mathlib.Algebra.Order.Ring.Int
import Mathlib.Data.Multiset.MapFold
import Mathlib.Tactic.Common

/-!
# Reference counts of pooled items

The items of a pool are counted in a field of `w` bits. Holders take and give
back references one change at a time, and the last one to free an item gives it
back to the pool. `Takes` says that a list of changes keeps the counts in step
with a collection of holders.
-/

namespace RefCount

universe u

/-- The count of an item, and whether the pool has it. -/
structure Ref (w : ℕ) where
  refcnt : BitVec w
  pooled : Bool
deriving DecidableEq, Repr

namespace Ref

variable {w : ℕ}

/-- Add to the count, which does nothing else. -/
def update (ref : Ref w) (delta : Int) : Ref w :=
  { ref with refcnt := ref.refcnt + BitVec.ofInt w delta }

/-- Drop one reference. The item goes back to its pool with the last one. -/
def free (ref : Ref w) : Ref w :=
  { refcnt := ref.refcnt - 1#w, pooled := ref.pooled || ref.refcnt - 1#w == 0#w }

/-- An item the pool hands out. -/
def alloc : Ref w :=
  { refcnt := 1#w, pooled := false }

/-- An item with a number of holders. -/
def counted (holders : ℕ) : Ref w :=
  { refcnt := BitVec.ofNat w holders, pooled := decide (holders = 0) }

variable {holders : ℕ}

theorem counted_update (held : 0 < holders) (more : ℕ) :
    (counted holders : Ref w).update more = counted (holders + more) := by
  have some : ¬ holders = 0 := by omega
  simp [update, counted, some, BitVec.ofNat_add]

theorem counted_giveBack (held : 0 < holders) :
    (counted (holders + 1) : Ref w).update (-1) = counted holders := by
  have some : ¬ holders = 0 := by omega
  simp [update, counted, some, BitVec.ofNat_add, BitVec.ofInt_neg, ← BitVec.sub_eq_add_neg,
    BitVec.add_sub_cancel]

theorem counted_free (few : holders < 2 ^ w) :
    (counted (holders + 1) : Ref w).free = counted holders := by
  have fewer : BitVec.ofNat w (holders + 1) - 1#w = BitVec.ofNat w holders := by
    rw [BitVec.ofNat_add, BitVec.add_sub_cancel]
  have last : (BitVec.ofNat w holders == 0#w) = decide (holders = 0) := by
    rw [beq_eq_decide, decide_eq_decide, BitVec.toNat_eq, BitVec.toNat_ofNat, BitVec.toNat_ofNat,
      Nat.mod_eq_of_lt few, Nat.zero_mod]
  dsimp only [free, counted]
  rw [fewer, last]
  simp

theorem counted_one : (counted 1 : Ref w) = alloc := by
  simp [counted, alloc]

/-- The count is exact as long as it fits in its field. -/
theorem counted_exact (few : holders < 2 ^ w) :
    (counted holders : Ref w).refcnt.toNat = holders := by
  rw [counted, BitVec.toNat_ofNat, Nat.mod_eq_of_lt few]

end Ref

variable {Item : Type u} {w : ℕ}

/-- A change to the count of an item. -/
inductive Change (Item : Type u) where
  | update (item : Item) (delta : Int)
  | free (item : Item)
deriving DecidableEq, Repr

/-- The references of all items. -/
abbrev Refs (w : ℕ) (Item : Type u) :=
  Item → Ref w

variable [DecidableEq Item]

namespace Refs

/-- Another reference of one item. -/
def setRef (refs : Refs w Item) (item : Item) (ref : Ref w) : Refs w Item :=
  fun other => if other = item then ref else refs other

/-- A change of one item. -/
def apply (refs : Refs w Item) : Change Item → Refs w Item
  | .update item delta => refs.setRef item ((refs item).update delta)
  | .free item => refs.setRef item (refs item).free

/-- A list of changes, one after the other. -/
def applyAll (refs : Refs w Item) (changes : List (Change Item)) : Refs w Item :=
  changes.foldl apply refs

/-- Drop one reference to each item of a list. -/
def freeAll (refs : Refs w Item) (items : List Item) : Refs w Item :=
  refs.applyAll (items.map .free)

theorem applyAll_append (refs : Refs w Item) (first second : List (Change Item)) :
    refs.applyAll (first ++ second) = (refs.applyAll first).applyAll second :=
  List.foldl_append

theorem freeAll_append (refs : Refs w Item) (first second : List Item) :
    refs.freeAll (first ++ second) = (refs.freeAll first).freeAll second := by
  rw [freeAll, List.map_append, applyAll_append]
  rfl

/-- An update taken back. -/
theorem applyAll_update_neg (refs : Refs w Item) (item : Item) (delta : Int) :
    refs.applyAll [.update item delta, .update item (-delta)] = refs := by
  funext other
  simp only [applyAll, List.foldl_cons, List.foldl_nil, apply, setRef, Ref.update, if_pos]
  split
  · rename_i same
    rw [same, BitVec.add_assoc, ← BitVec.ofInt_add, Int.add_right_neg, show BitVec.ofInt w 0 = 0#w from rfl,
      BitVec.add_zero]
  · rfl

/-- The counts agree with a collection of holders. -/
def Counted (refs : Refs w Item) (holders : Multiset Item) : Prop :=
  ∀ item, refs item = .counted (holders.count item)

/-- The pool has the items that nobody holds. -/
theorem Counted.pooled_iff {refs : Refs w Item} {holders : Multiset Item}
    (counted : refs.Counted holders) (item : Item) :
    (refs item).pooled = true ↔ item ∉ holders := by
  rw [counted item, Ref.counted, decide_eq_true_iff, Multiset.count_eq_zero]

/-- A change of one count that follows its holders. -/
theorem Counted.setRef {refs : Refs w Item} {before after : Multiset Item}
    (counted : refs.Counted before) {item : Item} {ref : Ref w}
    (changed : ref = .counted (after.count item))
    (others : ∀ other, other ≠ item → after.count other = before.count other) :
    (refs.setRef item ref).Counted after := by
  intro other
  unfold Refs.setRef
  split
  · rename_i same
    rw [same, changed]
  · rename_i differs
    rw [counted other, others other differs]

/-- The pool hands out an item that nobody holds. -/
theorem Counted.alloc {refs : Refs w Item} {holders : Multiset Item}
    (counted : refs.Counted holders) {item : Item} (unheld : item ∉ holders) :
    (refs.setRef item .alloc).Counted (item ::ₘ holders) := by
  refine counted.setRef ?_ fun other differs => Multiset.count_cons_of_ne differs holders
  rw [Multiset.count_cons_self, Multiset.count_eq_zero_of_notMem unheld, Ref.counted_one]

/-- So does a list of such items, each of them once. -/
theorem Counted.allocAll {items : List Item} {refs : Refs w Item} {holders : Multiset Item}
    (counted : refs.Counted holders) (once : items.Nodup)
    (unheld : ∀ item ∈ items, item ∉ holders) :
    Counted (items.foldl (fun refs item => refs.setRef item .alloc) refs)
      (holders + (items : Multiset Item)) := by
  induction items generalizing refs holders with
  | nil =>
      rw [Multiset.coe_nil, Multiset.add_zero]
      exact counted
  | cons item rest ih =>
      rcases List.nodup_cons.mp once with ⟨new, once⟩
      have first := counted.alloc (unheld item List.mem_cons_self)
      have later := ih first once (by
        intro other member held
        rcases Multiset.mem_cons.mp held with rfl | held
        · exact new member
        · exact unheld other (List.mem_cons_of_mem item member) held)
      rw [← Multiset.cons_coe, Multiset.add_cons, ← Multiset.cons_add]
      exact later

end Refs

/-- The changes take the counts of some holders to those of others. -/
def Takes (w : ℕ) (before : Multiset Item) (changes : List (Change Item))
    (after : Multiset Item) : Prop :=
  ∀ refs : Refs w Item, refs.Counted before → (refs.applyAll changes).Counted after

namespace Takes

variable {before middle after : Multiset Item} {item : Item}

theorem nil (holders : Multiset Item) : Takes w holders [] holders :=
  fun _ counted => counted

theorem append {first second : List (Change Item)} (left : Takes w before first middle)
    (right : Takes w middle second after) : Takes w before (first ++ second) after := by
  intro refs counted
  rw [Refs.applyAll_append]
  exact right _ (left refs counted)

/-- Further references to an item that is held. -/
theorem update (held : item ∈ before) (more : ℕ) :
    Takes w before [.update item more] (before + Multiset.replicate more item) := by
  intro refs counted
  refine counted.setRef ?_ ?_
  · rw [counted item, Ref.counted_update (Multiset.count_pos.mpr held), Multiset.count_add,
      Multiset.count_replicate_self]
  · intro other differs
    rw [Multiset.count_add, Multiset.count_replicate, if_neg differs.symm, Nat.add_zero]

theorem take (held : item ∈ before) : Takes w before [.update item 1] (item ::ₘ before) := by
  have taken := update (w := w) held 1
  rw [Multiset.replicate_one, Multiset.add_comm, Multiset.singleton_add] at taken
  exact taken

/-- Taking items that are held, one by one. -/
theorem takeAll {items : List Item} (held : ∀ item ∈ items, item ∈ before) :
    Takes w before (items.map fun item => .update item 1) (before + (items : Multiset Item)) := by
  induction items generalizing before with
  | nil =>
      rw [Multiset.coe_nil, Multiset.add_zero]
      exact nil before
  | cons item rest ih =>
      have later : Takes w (item ::ₘ before) (rest.map fun item => .update item 1)
          (item ::ₘ before + (rest : Multiset Item)) :=
        ih fun other member => Multiset.mem_cons_of_mem (held other (List.mem_cons_of_mem _ member))
      rw [Multiset.cons_add, ← Multiset.add_cons, Multiset.cons_coe] at later
      exact append (take (held item (List.mem_cons_self ..))) later

/-- Give back a reference to an item that stays held. -/
theorem giveBack (held : item ∈ after) :
    Takes w (item ::ₘ after) [.update item (-1)] after := by
  intro refs counted
  refine counted.setRef ?_ fun other differs => (Multiset.count_cons_of_ne differs after).symm
  rw [counted item, Multiset.count_cons_self,
    Ref.counted_giveBack (Multiset.count_pos.mpr held)]

theorem free (few : after.count item < 2 ^ w) : Takes w (item ::ₘ after) [.free item] after := by
  intro refs counted
  refine counted.setRef ?_ fun other differs => (Multiset.count_cons_of_ne differs after).symm
  rw [counted item, Multiset.count_cons_self, Ref.counted_free few]

/-- Freeing items one by one. -/
theorem freeAll {items : List Item}
    (few : ∀ item ∈ items, ((items : Multiset Item) + after).count item ≤ 2 ^ w) :
    Takes w ((items : Multiset Item) + after) (items.map .free) after := by
  induction items with
  | nil =>
      rw [Multiset.coe_nil, Multiset.zero_add]
      exact nil after
  | cons item rest ih =>
      have split : ((item :: rest : List Item) : Multiset Item) + after =
          item ::ₘ ((rest : Multiset Item) + after) := by
        rw [← Multiset.cons_coe, Multiset.cons_add]
      rw [split] at few ⊢
      have first := few item (List.mem_cons_self ..)
      rw [Multiset.count_cons_self] at first
      refine append (free first) (ih ?_)
      intro other member
      exact Nat.le_trans (Multiset.count_le_count_cons other item _)
        (few other (List.mem_cons_of_mem _ member))

end Takes

end RefCount
