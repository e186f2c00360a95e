import Mathlib.Algebra.Order.Ring.Int
import Mathlib.Data.List.Nodup
import Mathlib.Tactic.Common

/-!
# The places of a list at which a test holds

A pass over a list can collect the places of the items it is after, and later
passes can find the items by their places. `Places.places` is that list of
places: they are distinct, they lead to exactly the items the test accepts, in
order, and a change at these places is a change of these items.
-/

namespace Places

universe u v

variable {Item : Type u} {Image : Type v} (test : Item → Bool)

/-- The places of the items a test accepts. -/
def places (items : List Item) : List ℕ :=
  (items.zipIdx.filter fun item => test item.1).map Prod.snd

variable {test}

theorem mem_places {items : List Item} {place : ℕ} :
    place ∈ places test items ↔ ∃ item, items[place]? = some item ∧ test item = true := by
  simp only [places, List.mem_map, List.mem_filter, Prod.exists]
  constructor
  · rintro ⟨item, found, ⟨member, accepted⟩, rfl⟩
    exact ⟨item, List.mem_zipIdx_iff_getElem?.mp member, accepted⟩
  · rintro ⟨item, found, accepted⟩
    exact ⟨item, place, ⟨List.mem_zipIdx_iff_getElem?.mpr found, accepted⟩, rfl⟩

theorem places_eq_nil {items : List Item} : places test items = [] ↔ items.filter test = [] := by
  rw [List.eq_nil_iff_forall_not_mem, List.filter_eq_nil_iff]
  constructor
  · intro none item member accepted
    rcases List.mem_iff_getElem?.mp member with ⟨place, found⟩
    exact none place (mem_places.mpr ⟨item, found, accepted⟩)
  · intro none place chosen
    rcases mem_places.mp chosen with ⟨item, found, accepted⟩
    exact none item (List.mem_of_getElem? found) accepted

theorem places_nodup (items : List Item) : (places test items).Nodup := by
  have within : ((items.zipIdx.filter fun item => test item.1).map Prod.snd).Sublist
      (items.zipIdx.map Prod.snd) := List.filter_sublist.map _
  refine within.nodup ?_
  rw [List.zipIdx_map_snd]
  exact List.nodup_range'

/-- The places lead to the items the test accepts, in order. -/
theorem filterMap_places (items : List Item) (image : Item → Image) :
    ((places test items).filterMap fun place => items[place]?.map image) =
      (items.filter test).map image := by
  have found : ∀ item ∈ items.zipIdx.filter fun item => test item.1,
      items[item.2]?.map image = some (image item.1) := by
    intro item member
    rw [List.mem_zipIdx_iff_getElem?.mp (List.mem_of_mem_filter member), Option.map_some]
  have firsts : (items.zipIdx.filter fun item => test item.1).map Prod.fst = items.filter test := by
    have commuted := List.filter_map (f := Prod.fst) (p := test) (l := items.zipIdx)
    rw [List.zipIdx_map_fst] at commuted
    exact commuted.symm
  rw [places, List.filterMap_map, ← firsts, List.map_map, ← List.filterMap_eq_map]
  exact List.filterMap_congr found

/-- Without one place, the items of a list without repetitions are those other than the item
found there. -/
theorem filter_zipIdx_ne [DecidableEq Item] {items : List Item} (distinct : items.Nodup)
    {place : ℕ} {item : Item} (found : items[place]? = some item) :
    (items.zipIdx.filter fun entry => decide (entry.2 ≠ place)).map Prod.fst =
      items.filter fun other => decide (other ≠ item) := by
  have same : ∀ entry ∈ items.zipIdx,
      decide (entry.2 ≠ place) = decide (entry.1 ≠ item) := by
    intro entry member
    have here := List.mem_zipIdx_iff_getElem?.mp member
    rw [decide_eq_decide, Ne, Ne, not_iff_not]
    constructor
    · rintro rfl
      exact Option.some.inj (here.symm.trans found)
    · rintro rfl
      have inside := (List.getElem?_eq_some_iff.mp here).1
      exact (List.getElem?_inj inside distinct).mp (here.trans found.symm)
  have commuted := List.filter_map (f := Prod.fst) (p := fun other => decide (other ≠ item))
    (l := items.zipIdx)
  rw [List.zipIdx_map_fst] at commuted
  rw [commuted, List.filter_congr same]
  rfl

/-- A change at the places is a change of the items the test accepts. -/
theorem mapIdx_places (items : List Item) (change : Item → Item) :
    (items.mapIdx fun place item => if place ∈ places test items then change item else item) =
      items.map fun item => if test item then change item else item := by
  apply List.ext_getElem?
  intro place
  rw [List.getElem?_mapIdx, List.getElem?_map]
  cases found : items[place]? with
  | none => rfl
  | some item =>
      have accepted : place ∈ places test items ↔ test item = true := by
        rw [mem_places, found]
        simp
      by_cases holds : test item = true
      · rw [Option.map_some, Option.map_some, if_pos (accepted.mpr holds), if_pos holds]
      · rw [Option.map_some, Option.map_some, if_neg (mt accepted.mp holds), if_neg holds]

end Places
