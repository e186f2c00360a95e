import DpdkTcp.Model.TimerWheel

/-!
# What the operations of the wheel do to its slots

Only `add` fills a slot, and it takes an empty one. `cancel` marks an occupant,
and `advance` empties slots: the live occupants it takes out are exactly the
timers it returns. Slots are given back to the free list by `advance` alone, so
the generation of a slot changes only when `add` takes it again.
-/

namespace DpdkTcp

section Lists

variable {Value : Type} {values : List Value}

theorem getD_set {index : ℕ} (inside : index < values.length) (value fallback : Value)
    (other : ℕ) :
    (values.set index value).getD other fallback =
      if other = index then value else values.getD other fallback := by
  rw [List.getD_eq_getElem?_getD, List.getD_eq_getElem?_getD, List.getElem?_set]
  by_cases same : other = index
  · rw [if_pos same.symm, if_pos same, if_pos inside]
    rfl
  · rw [if_neg (Ne.symm same), if_neg same]

theorem getD_concat (value fallback : Value) (index : ℕ) :
    (values ++ [value]).getD index fallback =
      if index = values.length then value else values.getD index fallback := by
  rw [List.getD_eq_getElem?_getD, List.getD_eq_getElem?_getD]
  by_cases inside : index < values.length
  · rw [List.getElem?_append_left inside, if_neg (Nat.ne_of_lt inside)]
  · by_cases last : index = values.length
    · rw [if_pos last, last, List.getElem?_concat_length]
      rfl
    · have beyond : values.length + 1 ≤ index := by omega
      rw [if_neg last, List.getElem?_eq_none (by simpa using beyond),
        List.getElem?_eq_none (Nat.le_of_not_lt inside)]

end Lists

namespace TimerWheel

/-- The slots of the free list are empty, and none is listed twice. An occupant
carries the generation of its slot. -/
structure Sound (wheel : TimerWheel) : Prop where
  lengths : wheel.generations.length = wheel.slots.length
  distinct : wheel.freeList.Nodup
  free : ∀ slot ∈ wheel.freeList, slot < wheel.slots.length ∧ wheel.nodeAt slot = none
  stamped : ∀ slot node, wheel.nodeAt slot = some node →
    wheel.generations.getD slot 0#32 = node.generation

theorem sound_new : new.Sound :=
  ⟨rfl, List.nodup_nil, fun _ listed => absurd listed List.not_mem_nil, fun _ _ held => nomatch held⟩

theorem lt_of_nodeAt {wheel : TimerWheel} {slot : ℕ} {node : TimerNode}
    (held : wheel.nodeAt slot = some node) : slot < wheel.slots.length := by
  by_contra outside
  rw [nodeAt, List.getD_eq_getElem?_getD,
    List.getElem?_eq_none (Nat.le_of_not_lt outside)] at held
  cases held

theorem isLive_iff {wheel : TimerWheel} {id : TimerId} : wheel.isLive id = true ↔
    ∃ node, wheel.nodeAt id.slot = some node ∧ node.generation = id.generation ∧
      node.cancelled = false := by
  unfold isLive
  cases wheel.nodeAt id.slot with
  | none => simp
  | some node => simp

/-! ### Adding a timer -/

/-- What `add` does: the slot was empty and holds the timer now, under the
generation after the one it had last, or zero in a new slot. -/
structure Adds (wheel after : TimerWheel) (id : TimerId) (node : TimerNode) : Prop where
  vacant : wheel.nodeAt id.slot = none
  nodes : ∀ slot, after.nodeAt slot =
    if slot = id.slot then some { node with generation := id.generation, cancelled := false }
    else wheel.nodeAt slot
  reused : id.slot < wheel.slots.length →
    id.generation = wheel.generations.getD id.slot 0#32 + 1#32
  opened : wheel.slots.length ≤ id.slot →
    id.slot = wheel.slots.length ∧ id.generation = 0#32
  length : after.slots.length = max wheel.slots.length (id.slot + 1)
  generations : ∀ slot, after.generations.getD slot 0#32 =
    if slot = id.slot then id.generation else wheel.generations.getD slot 0#32

/-- The slot `add` takes, before the timer is written into it. -/
structure Takes (wheel : TimerWheel) (taken : TimerWheel × ℕ) : Prop where
  vacant : wheel.nodeAt taken.2 = none
  inside : taken.2 < taken.1.slots.length
  nodes : ∀ slot, taken.1.nodeAt slot = wheel.nodeAt slot
  reused : taken.2 < wheel.slots.length →
    taken.1.generations.getD taken.2 0#32 = wheel.generations.getD taken.2 0#32 + 1#32
  opened : wheel.slots.length ≤ taken.2 →
    taken.2 = wheel.slots.length ∧ taken.1.generations.getD taken.2 0#32 = 0#32
  length : taken.1.slots.length = max wheel.slots.length (taken.2 + 1)
  lengths : taken.1.generations.length = taken.1.slots.length
  others : ∀ slot, slot ≠ taken.2 →
    taken.1.generations.getD slot 0#32 = wheel.generations.getD slot 0#32
  distinct : taken.1.freeList.Nodup
  free : ∀ slot ∈ taken.1.freeList, slot ≠ taken.2 ∧ slot ∈ wheel.freeList

theorem Sound.takeSlot {wheel : TimerWheel} (sound : wheel.Sound) :
    Takes wheel wheel.takeSlot := by
  unfold TimerWheel.takeSlot
  cases listed : wheel.freeList with
  | nil =>
      have fresh : wheel.nodeAt wheel.slots.length = none := by
        cases held : wheel.nodeAt wheel.slots.length with
        | none => rfl
        | some node => exact absurd (lt_of_nodeAt held) (Nat.lt_irrefl _)
      have stamps : ∀ slot, (wheel.generations ++ [0#32]).getD slot 0#32 =
          if slot = wheel.generations.length then 0#32 else wheel.generations.getD slot 0#32 :=
        getD_concat 0#32 0#32
      rw [sound.lengths] at stamps
      refine ⟨fresh, by simp, fun slot => ?_, fun inside => absurd inside (Nat.lt_irrefl _),
        fun _ => ⟨rfl, ?_⟩, by simp, by simp [sound.lengths], fun slot other => ?_, ?_, ?_⟩
      · refine (getD_concat none none slot).trans ?_
        split
        · rename_i same
          rw [same, fresh]
        · rfl
      · exact (stamps wheel.slots.length).trans (if_pos rfl)
      · exact (stamps slot).trans (if_neg other)
      · exact List.nodup_nil
      · exact fun slot inList => absurd inList List.not_mem_nil
  | cons slot rest =>
      have inList : slot ∈ wheel.freeList := by rw [listed]; exact List.mem_cons_self
      rcases sound.free slot inList with ⟨inside, vacant⟩
      have distinct := sound.distinct
      rw [listed, List.nodup_cons] at distinct
      have stamped : slot < wheel.generations.length := by rw [sound.lengths]; exact inside
      refine ⟨vacant, inside, fun _ => rfl, fun _ => ?_,
        fun outside => absurd inside (Nat.not_lt.mpr outside), ?_, ?_, fun other differs => ?_,
        distinct.2, fun other inRest => ⟨?_, ?_⟩⟩
      · exact (getD_set stamped _ 0#32 slot).trans (if_pos rfl)
      · exact (Nat.max_eq_left inside).symm
      · exact (List.length_set ..).trans sound.lengths
      · exact (getD_set stamped _ 0#32 other).trans (if_neg differs)
      · intro same
        have isTop : other = slot := same
        exact distinct.1 (isTop ▸ inRest)
      · rw [listed]
        exact List.mem_cons_of_mem slot inRest

theorem Sound.add {wheel : TimerWheel} (sound : wheel.Sound) (nowNs : ℕ) (node : TimerNode) :
    (wheel.add nowNs node).1.Sound ∧
      Adds wheel (wheel.add nowNs node).1 (wheel.add nowNs node).2 node := by
  have takes := sound.takeSlot
  have nodes : ∀ slot, (wheel.add nowNs node).1.nodeAt slot =
      if slot = (wheel.add nowNs node).2.slot then
        some { node with generation := (wheel.add nowNs node).2.generation, cancelled := false }
      else wheel.nodeAt slot := by
    intro slot
    have written := getD_set takes.inside (some { node with
      generation := (wheel.add nowNs node).2.generation, cancelled := false }) none slot
    by_cases same : slot = (wheel.add nowNs node).2.slot
    · rw [if_pos same]
      exact written.trans (if_pos same)
    · rw [if_neg same]
      exact (written.trans (if_neg same)).trans (takes.nodes slot)
  have stamps : ∀ slot, (wheel.add nowNs node).1.generations.getD slot 0#32 =
      if slot = (wheel.add nowNs node).2.slot then (wheel.add nowNs node).2.generation
      else wheel.generations.getD slot 0#32 := by
    intro slot
    split
    · rename_i same
      rw [same]
      rfl
    · rename_i other
      exact takes.others slot other
  have length : (wheel.add nowNs node).1.slots.length = wheel.takeSlot.1.slots.length :=
    List.length_set ..
  constructor
  · refine ⟨takes.lengths.trans length.symm, takes.distinct, ?_, ?_⟩
    · intro slot inList
      rcases takes.free slot inList with ⟨other, wasFree⟩
      rcases sound.free slot wasFree with ⟨inside, vacant⟩
      refine ⟨?_, ?_⟩
      · rw [length, takes.length]
        exact Nat.lt_of_lt_of_le inside (Nat.le_max_left _ _)
      · rw [nodes]
        exact (if_neg other).trans vacant
    · intro slot occupant held
      rw [nodes] at held
      rw [stamps]
      split at held
      · rename_i same
        rw [if_pos same]
        rw [← Option.some.inj held]
      · rename_i other
        rw [if_neg other]
        exact sound.stamped slot occupant held
  · exact ⟨takes.vacant, nodes, takes.reused, takes.opened, length.trans takes.length, stamps⟩

/-! ### Cancelling a timer -/

/-- What `cancel` does: a live occupant of the given generation is marked. -/
def marked (id : TimerId) (slot : ℕ) (node : TimerNode) : TimerNode :=
  if slot = id.slot ∧ node.generation = id.generation then { node with cancelled := true }
  else node

@[simp] theorem marked_generation (id : TimerId) (slot : ℕ) (node : TimerNode) :
    (marked id slot node).generation = node.generation := by
  unfold marked
  split <;> rfl

theorem nodeAt_cancel (wheel : TimerWheel) (id : TimerId) (slot : ℕ) :
    (wheel.cancel id).nodeAt slot = (wheel.nodeAt slot).map (marked id slot) := by
  unfold cancel
  cases held : wheel.nodeAt id.slot with
  | none =>
      dsimp only
      by_cases same : slot = id.slot
      · rw [same, held]
        rfl
      · cases wheel.nodeAt slot with
        | none => rfl
        | some node => simp [marked, same]
  | some node =>
      dsimp only
      by_cases same : slot = id.slot
      · rw [same, held]
        split
        · rename_i live
          rw [Bool.and_eq_true, beq_iff_eq] at live
          refine (getD_set (lt_of_nodeAt held) _ none id.slot).trans ?_
          simp [marked, live.1]
        · rename_i dead
          rw [held]
          by_cases current : node.generation = id.generation
          · have isCancelled : node.cancelled = true := by simpa [current] using dead
            rcases node
            simp_all [marked]
          · simp [marked, current]
      · have kept : (wheel.nodeAt slot).map (marked id slot) = wheel.nodeAt slot := by
          cases wheel.nodeAt slot with
          | none => rfl
          | some node => simp [marked, same]
        rw [kept]
        split
        · exact (getD_set (lt_of_nodeAt held) _ none slot).trans (if_neg same)
        · rfl

/-- `cancel` changes nothing but the occupants. -/
theorem cancel_only (wheel : TimerWheel) (id : TimerId) :
    (wheel.cancel id).generations = wheel.generations ∧
      (wheel.cancel id).freeList = wheel.freeList ∧
      (wheel.cancel id).slots.length = wheel.slots.length := by
  unfold cancel
  split
  · split
    · exact ⟨rfl, rfl, List.length_set ..⟩
    · exact ⟨rfl, rfl, rfl⟩
  · exact ⟨rfl, rfl, rfl⟩

theorem Sound.cancel {wheel : TimerWheel} (sound : wheel.Sound) (id : TimerId) :
    (wheel.cancel id).Sound := by
  rcases cancel_only wheel id with ⟨generations, freeList, length⟩
  refine ⟨by rw [generations, length]; exact sound.lengths, by rw [freeList]; exact sound.distinct,
    ?_, ?_⟩
  · intro slot inList
    rw [freeList] at inList
    rcases sound.free slot inList with ⟨inside, vacant⟩
    rw [length, nodeAt_cancel, vacant]
    exact ⟨inside, rfl⟩
  · intro slot node held
    rw [nodeAt_cancel] at held
    rcases Option.map_eq_some_iff.mp held with ⟨before, wasHeld, rfl⟩
    rw [generations, marked_generation]
    exact sound.stamped slot before wasHeld

/-- A cancelled timer is dead. -/
theorem isLive_cancel (wheel : TimerWheel) (id other : TimerId) :
    (wheel.cancel id).isLive other = (wheel.isLive other && decide (other ≠ id)) := by
  unfold isLive
  rw [nodeAt_cancel]
  cases held : wheel.nodeAt other.slot with
  | none => rfl
  | some node =>
      rw [Option.map_some]
      dsimp only
      rw [marked_generation]
      by_cases same : other = id
      · subst same
        by_cases current : node.generation = other.generation
        · simp [marked, current]
        · simp [current]
      · rw [decide_eq_true same, Bool.and_true]
        by_cases current : node.generation = other.generation
        · have elsewhere : ¬(other.slot = id.slot ∧ node.generation = id.generation) := by
            rintro ⟨slot, generation⟩
            apply same
            rcases other with ⟨otherSlot, otherGeneration⟩
            rcases id with ⟨idSlot, idGeneration⟩
            dsimp only at slot generation current
            rw [slot, ← generation, current]
          unfold marked
          rw [if_neg elsewhere]
        · rw [beq_eq_false_iff_ne.mpr current, Bool.false_and, Bool.false_and]

theorem cancel_of_dead {wheel : TimerWheel} {id : TimerId} (dead : wheel.isLive id = false) :
    wheel.cancel id = wheel := by
  unfold isLive at dead
  unfold cancel
  split
  · rename_i node held
    rw [held] at dead
    dsimp only at dead
    rw [dead]
    rfl
  · rfl

/-! ### Advancing -/

/-- What a part of `advance` does: some slots are emptied and given back, and
the live occupants among them are the timers it fires. -/
structure Sheds (wheel after : TimerWheel) (fired : List (TimerId × TimerNode)) : Prop where
  generations : after.generations = wheel.generations
  length : after.slots.length = wheel.slots.length
  nodes : ∀ slot, after.nodeAt slot = wheel.nodeAt slot ∨ after.nodeAt slot = none
  fires : ∀ id node, (id, node) ∈ fired → wheel.nodeAt id.slot = some node ∧
    node.generation = id.generation ∧ node.cancelled = false ∧ after.nodeAt id.slot = none
  keeps : ∀ slot node, wheel.nodeAt slot = some node → node.cancelled = false →
    after.nodeAt slot = some node ∨ (⟨slot, node.generation⟩, node) ∈ fired
  distinct : (fired.map fun item => item.1.slot).Nodup
  sound : wheel.Sound → after.Sound

namespace Sheds

variable {wheel middle after : TimerWheel}

theorem same (slots : after.slots = wheel.slots) (generations : after.generations = wheel.generations)
    (freeList : after.freeList = wheel.freeList) : Sheds wheel after [] := by
  have nodes : ∀ slot, after.nodeAt slot = wheel.nodeAt slot := by
    intro slot
    unfold nodeAt
    rw [slots]
  refine ⟨generations, by rw [slots], fun slot => .inl (nodes slot),
    fun id node inList => absurd inList List.not_mem_nil, ?_, List.nodup_nil, ?_⟩
  · intro slot node held _
    exact .inl ((nodes slot).trans held)
  · intro sound
    refine ⟨by rw [generations, slots]; exact sound.lengths, by rw [freeList]; exact sound.distinct,
      ?_, ?_⟩
    · intro slot inList
      rw [freeList] at inList
      rw [slots, nodes]
      exact sound.free slot inList
    · intro slot node held
      rw [nodes] at held
      rw [generations]
      exact sound.stamped slot node held

theorem trans {first second : List (TimerId × TimerNode)} (left : Sheds wheel middle first)
    (right : Sheds middle after second) : Sheds wheel after (first ++ second) := by
  refine ⟨right.generations.trans left.generations, right.length.trans left.length, ?_, ?_, ?_, ?_,
    fun sound => right.sound (left.sound sound)⟩
  · intro slot
    rcases right.nodes slot with kept | emptied
    · rw [kept]
      exact left.nodes slot
    · exact .inr emptied
  · intro id node inList
    rcases List.mem_append.mp inList with early | late
    · rcases left.fires id node early with ⟨held, current, live, emptied⟩
      refine ⟨held, current, live, ?_⟩
      rcases right.nodes id.slot with kept | gone
      · exact kept.trans emptied
      · exact gone
    · rcases right.fires id node late with ⟨held, current, live, emptied⟩
      refine ⟨?_, current, live, emptied⟩
      rcases left.nodes id.slot with kept | gone
      · exact kept.symm.trans held
      · rw [gone] at held
        cases held
  · intro slot node held live
    rcases left.keeps slot node held live with kept | fired
    · rcases right.keeps slot node kept live with kept | fired
      · exact .inl kept
      · exact .inr (List.mem_append_right first fired)
    · exact .inr (List.mem_append_left second fired)
  · rw [List.map_append]
    refine List.nodup_append.mpr ⟨left.distinct, right.distinct, ?_⟩
    intro slot early other late same
    rcases List.mem_map.mp early with ⟨⟨id, node⟩, inFirst, rfl⟩
    rcases List.mem_map.mp late with ⟨⟨id', node'⟩, inSecond, rfl⟩
    have emptied := (left.fires id node inFirst).2.2.2
    have held := (right.fires id' node' inSecond).1
    dsimp only at same
    rw [← same, emptied] at held
    cases held

theorem quiet {fired : List (TimerId × TimerNode)} (left : Sheds wheel middle [])
    (right : Sheds middle after fired) : Sheds wheel after fired :=
  left.trans right

theorem hush {fired : List (TimerId × TimerNode)} (left : Sheds wheel middle fired)
    (right : Sheds middle after []) : Sheds wheel after fired := by
  have both := left.trans right
  rw [List.append_nil] at both
  exact both

/-- Freeing the slot of an occupant, which fires if it is live. -/
theorem freeSlot {slot : ℕ} {node : TimerNode} (held : wheel.nodeAt slot = some node) :
    Sheds wheel (wheel.freeSlot slot)
      (if node.cancelled then [] else [(⟨slot, node.generation⟩, node)]) := by
  have inside := lt_of_nodeAt held
  have nodes : ∀ other, (wheel.freeSlot slot).nodeAt other =
      if other = slot then none else wheel.nodeAt other := by
    intro other
    exact getD_set inside none none other
  refine ⟨rfl, List.length_set .., ?_, ?_, ?_, ?_, ?_⟩
  · intro other
    rw [nodes]
    split
    · exact .inr rfl
    · exact .inl rfl
  · intro id fired inList
    split at inList
    · exact absurd inList List.not_mem_nil
    · rename_i live
      rcases List.mem_singleton.mp inList with ⟨⟩
      refine ⟨held, rfl, by simpa using live, ?_⟩
      rw [nodes]
      exact if_pos rfl
  · intro other occupant wasHeld live
    rw [nodes]
    by_cases same : other = slot
    · subst same
      rw [held] at wasHeld
      rcases Option.some.inj wasHeld with rfl
      right
      rw [live]
      exact List.mem_singleton.mpr rfl
    · rw [if_neg same]
      exact .inl wasHeld
  · split
    · exact List.nodup_nil
    · exact List.nodup_cons.mpr ⟨List.not_mem_nil, List.nodup_nil⟩
  · intro sound
    refine ⟨sound.lengths.trans (List.length_set ..).symm, ?_, ?_, ?_⟩
    · refine List.nodup_cons.mpr ⟨fun listed => ?_, sound.distinct⟩
      rw [(sound.free slot listed).2] at held
      cases held
    · intro other inList
      rw [nodes]
      rcases List.mem_cons.mp inList with same | listed
      · rw [if_pos same, same]
        exact ⟨Nat.lt_of_lt_of_eq inside (List.length_set ..).symm, rfl⟩
      · rcases sound.free other listed with ⟨within, vacant⟩
        refine ⟨Nat.lt_of_lt_of_eq within (List.length_set ..).symm, ?_⟩
        split
        · rfl
        · exact vacant
    · intro other occupant stillHeld
      rw [nodes] at stillHeld
      split at stillHeld
      · cases stillHeld
      · exact sound.stamped other occupant stillHeld

end Sheds

theorem sweep_sheds (bucket : List ℕ) (swept : Swept) :
    ∃ news, (sweep bucket swept).fired = swept.fired ++ news ∧
      Sheds swept.wheel (sweep bucket swept).wheel news := by
  induction bucket generalizing swept with
  | nil => exact ⟨[], (List.append_nil _).symm, .same rfl rfl rfl⟩
  | cons slot rest ih =>
      dsimp only [sweep]
      split
      · rename_i node held
        rcases ih { wheel := swept.wheel.freeSlot slot
                    fired :=
                      if node.cancelled then swept.fired
                      else swept.fired ++ [(⟨slot, node.generation⟩, node)] } with
          ⟨news, fired, later⟩
        refine ⟨_, ?_, (Sheds.freeSlot held).trans later⟩
        rw [fired]
        dsimp only
        split
        · rfl
        · rw [List.append_assoc]
      · exact ih swept

theorem replace_sheds (nowNs : ℕ) (bucket : List ℕ) (wheel : TimerWheel) :
    Sheds wheel (replace nowNs bucket wheel) [] := by
  induction bucket generalizing wheel with
  | nil => exact .same rfl rfl rfl
  | cons slot rest ih =>
      dsimp only [replace]
      split
      · rename_i node held
        split
        · rename_i cancelled
          have freed := Sheds.freeSlot held
          rw [if_pos cancelled] at freed
          exact freed.quiet (ih _)
        · refine .quiet ?_ (ih _)
          exact .same rfl rfl rfl
      · exact ih wheel

theorem cascade_sheds (levelsLeft level : ℕ) (wheel : TimerWheel) :
    Sheds wheel (cascade levelsLeft level wheel) [] := by
  induction levelsLeft generalizing level wheel with
  | zero => exact .same rfl rfl rfl
  | succ levelsLeft ih =>
      dsimp only [cascade]
      generalize bucketEq : wheel.buckets level ((wheel.cursors level + 1) % BUCKETS) = bucket
      have swapped : Sheds wheel ({ wheel with
          cursors := updateAt wheel.cursors level ((wheel.cursors level + 1) % BUCKETS) }.setBucket
            level ((wheel.cursors level + 1) % BUCKETS) wheel.drainScratch) [] :=
        .same rfl rfl rfl
      have replaced := swapped.quiet (replace_sheds (wheel.lastTick * TICK_NS) bucket _)
      split
      · refine .quiet (replaced.quiet ?_) (ih _ _)
        exact .same rfl rfl rfl
      · refine replaced.quiet ?_
        exact .same rfl rfl rfl

theorem tick_sheds (swept : Swept) :
    ∃ news, (tick swept).fired = swept.fired ++ news ∧
      Sheds swept.wheel (tick swept).wheel news := by
  dsimp only [tick]
  rcases sweep_sheds (swept.wheel.buckets 0 ((swept.wheel.cursors 0 + 1) % BUCKETS))
    { swept with
      wheel := { swept.wheel with
        cursors := updateAt swept.wheel.cursors 0 ((swept.wheel.cursors 0 + 1) % BUCKETS)
        lastTick := swept.wheel.lastTick + 1 } } with ⟨news, fired, drained⟩
  refine ⟨news, fired, ?_⟩
  have begun : Sheds swept.wheel { swept.wheel with
      cursors := updateAt swept.wheel.cursors 0 ((swept.wheel.cursors 0 + 1) % BUCKETS)
      lastTick := swept.wheel.lastTick + 1 } [] :=
    .same rfl rfl rfl
  split
  · refine .hush (.hush (begun.quiet drained) ?_) (cascade_sheds (LEVELS - 1) 1 _)
    exact .same rfl rfl rfl
  · refine .hush (begun.quiet drained) ?_
    exact .same rfl rfl rfl

theorem ticks_sheds (count : ℕ) (swept : Swept) :
    ∃ news, (ticks count swept).fired = swept.fired ++ news ∧
      Sheds swept.wheel (ticks count swept).wheel news := by
  induction count generalizing swept with
  | zero => exact ⟨[], (List.append_nil _).symm, .same rfl rfl rfl⟩
  | succ count ih =>
      rcases tick_sheds swept with ⟨first, fired, ticked⟩
      rcases ih (tick swept) with ⟨later, firedLater, rest⟩
      refine ⟨first ++ later, ?_, ticked.trans rest⟩
      rw [← List.append_assoc, ← fired]
      exact firedLater

theorem advance_sheds (wheel : TimerWheel) (nowNs : ℕ) :
    Sheds wheel (wheel.advance nowNs).wheel (wheel.advance nowNs).fired := by
  dsimp only [advance]
  split
  · exact .same rfl rfl rfl
  · rcases ticks_sheds (min (nowNs / TICK_NS - wheel.lastTick) (BUCKETS * LEVELS))
      ⟨wheel, []⟩ with ⟨news, fired, sheds⟩
    rw [List.nil_append] at fired
    rw [fired]
    exact sheds

end TimerWheel

end DpdkTcp
