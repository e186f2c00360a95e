import DpdkTcp.Lib.Run
import DpdkTcp.Timers.Owned
import DpdkTcp.Timers.Turns

/-!
# Runs of the wheel

A run of `add`, `cancel` and `advance` in any order, with the timers that were
added, those that fired and the identifiers whose cancel was accepted. Every slot is
always in one place. As long as no slot is reused too often, a timer fires at
most once, with what was added, and an identifier that has fired or was cancelled is
dead for good.
-/

namespace DpdkTcp

/-- A timer that was added, with the tick the wheel was at. -/
structure AddedTimer where
  id : TimerId
  node : TimerNode
  tick : ℕ
deriving DecidableEq

/-- What `add` wrote into the slot. -/
def AddedTimer.occupant (timer : AddedTimer) : TimerNode :=
  { timer.node with generation := timer.id.generation, cancelled := false }

/-- A call on a wheel. -/
inductive WheelOp where
  | add (nowNs : ℕ) (node : TimerNode)
  | cancel (id : TimerId)
  | advance (nowNs : ℕ)

/-- A wheel and what has happened to it. Waiting are the timers that neither fired nor were
cancelled since they were added. -/
structure WheelRun where
  wheel : TimerWheel
  clock : ℕ
  added : List AddedTimer
  waiting : List AddedTimer
  fired : List (TimerId × TimerNode)
  cancelled : List TimerId

namespace WheelRun

/-- A new wheel that nothing was added to. -/
def start : WheelRun :=
  { wheel := .new
    clock := 0
    added := []
    waiting := []
    fired := []
    cancelled := [] }

/-- `cancel` tells whether the identifier was live. -/
def step (run : WheelRun) : WheelOp → WheelRun
  | .add nowNs node =>
      let result := run.wheel.add nowNs node
      let timer : AddedTimer := ⟨result.2, node, run.wheel.lastTick⟩
      { run with
        wheel := result.1
        clock := nowNs
        added := run.added ++ [timer]
        waiting := run.waiting ++ [timer] }
  | .cancel id =>
      { run with
        wheel := run.wheel.cancel id
        waiting :=
          if run.wheel.isLive id then run.waiting.filter fun timer => timer.id ≠ id
          else run.waiting
        cancelled := if run.wheel.isLive id then run.cancelled ++ [id] else run.cancelled }
  | .advance nowNs =>
      let swept := run.wheel.advance nowNs
      { run with
        wheel := swept.wheel
        clock := nowNs
        waiting := run.waiting.filter fun timer => (timer.id, timer.occupant) ∉ swept.fired
        fired := run.fired ++ swept.fired }

/-- The timers added, as the engine would record them. -/
def armed (run : WheelRun) : List Armed :=
  run.added.map fun timer => ⟨timer.id, timer.node.ownerHandle, 0, timer.node.kind⟩

/-- Slots, bookings and generations of the wheel of a run. -/
structure Kept (run : WheelRun) : Prop where
  counted : Counted run.wheel run.armed
  settled : TimerWheel.Settled (fun _ _ _ _ => True) run.wheel

theorem kept_start : start.Kept :=
  ⟨Counted.start, _, (TimerWheel.Wound.start _ _).congr_turns fun _ _ => Nat.zero_div _⟩

theorem armed_add (run : WheelRun) (nowNs : ℕ) (node : TimerNode) :
    (run.step (.add nowNs node)).armed =
      run.armed ++ [⟨(run.wheel.add nowNs node).2, node.ownerHandle, 0, node.kind⟩] :=
  List.map_append ..

variable {run : WheelRun}

theorem Kept.step (kept : run.Kept) (op : WheelOp) : (run.step op).Kept := by
  cases op with
  | add nowNs node =>
      constructor
      · rw [armed_add]
        exact kept.counted.add nowNs node rfl
      · rcases kept.settled with ⟨home, wound⟩
        rcases wound.add kept.counted.sound nowNs node trivial with ⟨home', wound'⟩
        rw [← (TimerWheel.add_frame run.wheel nowNs node).2.1] at wound'
        exact ⟨home', wound'⟩
  | cancel id =>
      constructor
      · exact kept.counted.cancel id
      · rcases kept.settled with ⟨home, wound⟩
        have lastTick : (run.wheel.cancel id).lastTick = run.wheel.lastTick := by
          rw [TimerWheel.cancel_slots]
        refine ⟨home, ?_⟩
        dsimp only [WheelRun.step]
        rw [lastTick]
        exact wound.cancel id
  | advance nowNs =>
      constructor
      · exact kept.counted.sheds (run.wheel.advance_sheds nowNs)
      · exact (kept.settled.advance (fun _ _ _ _ _ _ _ _ _ _ _ => trivial) nowNs).1

theorem kept_of_reached {admissible : WheelRun → WheelOp → Prop}
    (reached : Run.Reaches step admissible start run) : run.Kept :=
  reached.invariant kept_start fun _ op kept _ => kept.step op

/-! ### One place for every slot -/

/-- The slot is on the free list and empty, or in one bucket and occupied. -/
def OnePlace (wheel : TimerWheel) (slot : ℕ) : Prop :=
  (wheel.freeList.count slot = 1 ∧ wheel.nodeAt slot = none ∧
      ∀ level index, slot ∉ wheel.buckets level index) ∨
    (slot ∉ wheel.freeList ∧ (wheel.nodeAt slot).isSome = true ∧
      ∃ level < LEVELS, ∃ index < BUCKETS, (wheel.buckets level index).count slot = 1 ∧
        ∀ other key, slot ∈ wheel.buckets other key → other = level ∧ key = index)

theorem Kept.onePlace (kept : run.Kept) {slot : ℕ} (inside : slot < run.wheel.slots.length) :
    OnePlace run.wheel slot := by
  rcases kept.settled with ⟨home, wound⟩
  rcases Option.ne_none_iff_exists'.mp ((wound.range slot).mpr inside) with ⟨place, here⟩
  have listed : ∀ other, slot ∈ run.wheel.cells [] other ↔ other = place := by
    intro other
    rw [wound.housed.mem_iff, here, Option.some.injEq, eq_comm]
  have once : (run.wheel.cells [] place).count slot = 1 :=
    List.count_eq_one_of_mem (wound.housed.nodup place) ((listed place).mpr rfl)
  cases place with
  | free =>
      refine .inl ⟨once, ?_, fun level index member => ?_⟩
      · by_contra occupied
        rcases (wound.occupied slot).mp occupied with ⟨place, other, notFree⟩
        rw [here] at other
        exact notFree (Option.some.inj other).symm
      · cases (listed (.bucket level index)).mp member
  | bucket level index =>
      have occupied := (wound.occupied slot).mpr ⟨_, here, nofun⟩
      rcases Option.ne_none_iff_exists'.mp occupied with ⟨node, held⟩
      rcases wound.booked slot node level index held here with ⟨levels, turn, _, _, emptied, _⟩
      refine .inr ⟨fun member => ?_, Option.isSome_iff_ne_none.mpr occupied, level, levels, index,
        ?_, once, fun other key member => ?_⟩
      · cases (listed .free).mp member
      · rw [← emptied]
        exact Nat.mod_lt _ (by decide)
      · cases (listed (.bucket other key)).mp member
        exact ⟨rfl, rfl⟩
  | hand =>
      have member := (listed .hand).mpr rfl
      cases member

/-! ### What becomes of a timer -/

/-- The occupants are timers that were added. What has fired or was cancelled is dead, and nothing
is both or fires twice. -/
structure Told (run : WheelRun) : Prop where
  distinct : (run.added.map AddedTimer.id).Nodup
  known : ∀ slot node, run.wheel.nodeAt slot = some node → ∃ timer ∈ run.added,
    timer.id = ⟨slot, node.generation⟩ ∧ node = { timer.occupant with cancelled := node.cancelled }
  fired : ∀ id node, (id, node) ∈ run.fired → id ∉ run.cancelled ∧
    run.wheel.isLive id = false ∧ ∃ timer ∈ run.added, timer.id = id ∧ node = timer.occupant
  once : (run.fired.map Prod.fst).Nodup
  dead : ∀ id ∈ run.cancelled, run.wheel.isLive id = false ∧ ∃ timer ∈ run.added, timer.id = id

theorem told_start : start.Told :=
  ⟨List.nodup_nil, nofun, nofun, List.nodup_nil, nofun⟩

theorem isLive_add {wheel after : TimerWheel} {id other : TimerId} {node : TimerNode}
    (adds : TimerWheel.Adds wheel after id node) (differs : other ≠ id)
    (dead : wheel.isLive other = false) : after.isLive other = false := by
  rw [Bool.eq_false_iff]
  intro live
  rcases TimerWheel.isLive_iff.mp live with ⟨occupant, held, generation, alive⟩
  rw [adds.nodes] at held
  split at held
  · rename_i same
    cases held
    apply differs
    rcases other with ⟨slot, stamp⟩
    rcases id with ⟨slot', stamp'⟩
    dsimp only at same generation
    rw [same, generation]
  · rw [TimerWheel.isLive_iff.mpr ⟨occupant, held, generation, alive⟩] at dead
    cases dead

theorem ids_armed (run : WheelRun) : run.armed.map Armed.id = run.added.map AddedTimer.id :=
  List.map_map

theorem Told.add (told : run.Told) (kept : run.Kept) (nowNs : ℕ) (node : TimerNode)
    (few : FewReuses (run.step (.add nowNs node)).armed) : (run.step (.add nowNs node)).Told := by
  have adds := (kept.counted.sound.add nowNs node).2
  rw [armed_add] at few
  have fresh := kept.counted.new_id nowNs node rfl few
  rw [ids_armed] at fresh
  have other : ∀ id, (∃ timer ∈ run.added, timer.id = id) → id ≠ (run.wheel.add nowNs node).2 := by
    rintro id ⟨timer, member, rfl⟩ same
    exact fresh (List.mem_map.mpr ⟨timer, member, same⟩)
  have grown : ∀ timer ∈ run.added, timer ∈ (run.step (.add nowNs node)).added :=
    fun timer member => List.mem_append_left _ member
  refine ⟨?_, ?_, ?_, told.once, ?_⟩
  · dsimp only [WheelRun.step]
    rw [List.map_append]
    refine List.nodup_append.mpr ⟨told.distinct, List.nodup_singleton _, ?_⟩
    intro id old id' new same
    rcases List.mem_singleton.mp new with rfl
    rw [same] at old
    exact fresh old
  · intro slot occupant held
    have held' := (adds.nodes slot).symm.trans held
    split at held'
    · rename_i same
      cases held'
      refine ⟨_, List.mem_append_right _ (List.mem_singleton_self _), ?_, rfl⟩
      rw [same]
    · rcases told.known slot occupant held' with ⟨timer, member, known⟩
      exact ⟨timer, grown timer member, known⟩
  · intro id occupant member
    rcases told.fired id occupant member with ⟨live, dead, timer, isAdded, same, data⟩
    exact ⟨live, isLive_add adds (other id ⟨timer, isAdded, same⟩) dead, timer, grown timer isAdded,
      same, data⟩
  · intro id member
    rcases told.dead id member with ⟨dead, timer, isAdded, same⟩
    exact ⟨isLive_add adds (other id ⟨timer, isAdded, same⟩) dead, timer, grown timer isAdded, same⟩

theorem Told.cancel (told : run.Told) (id : TimerId) : (run.step (.cancel id)).Told := by
  have stillDead : ∀ other, run.wheel.isLive other = false →
      (run.wheel.cancel id).isLive other = false := by
    intro other dead
    rw [TimerWheel.isLive_cancel, dead, Bool.false_and]
  refine ⟨told.distinct, ?_, ?_, told.once, ?_⟩
  · intro slot node held
    have held' := (TimerWheel.nodeAt_cancel run.wheel id slot).symm.trans held
    rcases Option.map_eq_some_iff.mp held' with ⟨before, was, rfl⟩
    rcases told.known slot before was with ⟨timer, member, same, data⟩
    refine ⟨timer, member, ?_, ?_⟩
    · rw [TimerWheel.marked_generation, same]
    · unfold TimerWheel.marked
      split <;> rw [data]
  · intro other node member
    rcases told.fired other node member with ⟨kept, dead, known⟩
    refine ⟨?_, stillDead other dead, known⟩
    dsimp only [WheelRun.step]
    split
    · rename_i live
      rw [List.mem_append, List.mem_singleton]
      rintro (old | rfl)
      · exact kept old
      · rw [live] at dead
        cases dead
    · exact kept
  · intro other member
    dsimp only [WheelRun.step] at member
    split at member
    · rename_i live
      rcases List.mem_append.mp member with old | new
      · exact ⟨stillDead other (told.dead other old).1, (told.dead other old).2⟩
      · rcases List.mem_singleton.mp new with rfl
        refine ⟨?_, ?_⟩
        · dsimp only [WheelRun.step]
          rw [TimerWheel.isLive_cancel]
          simp
        · rcases TimerWheel.isLive_iff.mp live with ⟨node, held, generation, _⟩
          rcases told.known other.slot node held with ⟨timer, isAdded, same, _⟩
          refine ⟨timer, isAdded, ?_⟩
          rw [same, generation]
    · exact ⟨stillDead other (told.dead other member).1, (told.dead other member).2⟩

theorem Told.advance (told : run.Told) (nowNs : ℕ) : (run.step (.advance nowNs)).Told := by
  have sheds := run.wheel.advance_sheds nowNs
  have stillDead : ∀ id, run.wheel.isLive id = false →
      (run.wheel.advance nowNs).wheel.isLive id = false := by
    intro id dead
    rw [Bool.eq_false_iff]
    intro live
    rcases TimerWheel.isLive_iff.mp live with ⟨node, held, generation, alive⟩
    rcases sheds.nodes id.slot with same | gone
    · rw [TimerWheel.isLive_iff.mpr ⟨node, same.symm.trans held, generation, alive⟩] at dead
      cases dead
    · rw [gone] at held
      cases held
  have wasLive : ∀ id node, (id, node) ∈ (run.wheel.advance nowNs).fired →
      run.wheel.isLive id = true := by
    intro id node member
    rcases sheds.fires id node member with ⟨held, generation, alive, _⟩
    exact TimerWheel.isLive_iff.mpr ⟨node, held, generation, alive⟩
  refine ⟨told.distinct, ?_, ?_, ?_, ?_⟩
  · intro slot node held
    rcases sheds.nodes slot with same | gone
    · exact told.known slot node (same.symm.trans held)
    · have held' := gone.symm.trans held
      cases held'
  · intro id node member
    rcases List.mem_append.mp member with old | new
    · rcases told.fired id node old with ⟨kept, dead, known⟩
      exact ⟨kept, stillDead id dead, known⟩
    · rcases sheds.fires id node new with ⟨held, generation, alive, gone⟩
      refine ⟨fun cancelled => ?_, ?_, ?_⟩
      · have dead := (told.dead id cancelled).1
        rw [wasLive id node new] at dead
        cases dead
      · dsimp only [WheelRun.step, TimerWheel.isLive]
        rw [gone]
      · rcases told.known id.slot node held with ⟨timer, isAdded, same, data⟩
        refine ⟨timer, isAdded, ?_, ?_⟩
        · rw [same, generation]
        · rw [data, alive]
          rfl
  · dsimp only [WheelRun.step]
    rw [List.map_append]
    refine List.nodup_append.mpr ⟨told.once, ?_, ?_⟩
    · have slots := sheds.distinct
      rw [← Function.comp_def, ← List.map_map] at slots
      exact List.Nodup.of_map _ slots
    · intro id old id' new same
      rcases List.mem_map.mp old with ⟨⟨_, node⟩, inOld, rfl⟩
      rcases List.mem_map.mp new with ⟨⟨_, node'⟩, inNew, rfl⟩
      have dead := (told.fired _ node inOld).2.1
      dsimp only at same
      rw [same, wasLive _ node' inNew] at dead
      cases dead
  · intro id member
    exact ⟨stillDead id (told.dead id member).1, (told.dead id member).2⟩

/-- The story is true as long as no slot is reused too often. -/
theorem told_of_reached {admissible : WheelRun → WheelOp → Prop}
    (reached : Run.Reaches step admissible start run) (few : FewReuses run.armed) : run.Told := by
  have both : run.Kept ∧ (FewReuses run.armed → run.Told) := by
    clear few
    induction reached with
    | refl => exact ⟨kept_start, fun _ => told_start⟩
    | @tail run op _ _ before =>
        refine ⟨before.1.step op, fun few => ?_⟩
        cases op with
        | add nowNs node =>
            have earlier : FewReuses run.armed := by
              rw [armed_add] at few
              exact few.of_concat
            exact (before.2 earlier).add before.1 nowNs node few
        | cancel id => exact (before.2 few).cancel id
        | advance nowNs => exact (before.2 few).advance nowNs
  exact both.2 few

/-- In every run each slot of the wheel is in one place. If fewer than `2 ^ 32` timers reuse a
slot, no two timers have the same identifier, a timer fires at most once, with what was added and
not after it was cancelled, and cancelling an identifier that has fired or was cancelled is
refused and changes nothing. -/
theorem wheel_safe {run : WheelRun} (reached : Run.Reaches step (fun _ _ => True) start run) :
    (∀ slot < run.wheel.slots.length, OnePlace run.wheel slot) ∧
      (FewReuses run.armed →
        (run.added.map AddedTimer.id).Nodup ∧ (run.fired.map Prod.fst).Nodup ∧
        (∀ id node, (id, node) ∈ run.fired →
          id ∉ run.cancelled ∧ ∃ timer ∈ run.added, timer.id = id ∧ node = timer.occupant) ∧
        ∀ id, id ∈ run.cancelled ∨ id ∈ run.fired.map Prod.fst →
          run.wheel.isLive id = false ∧ run.wheel.cancel id = run.wheel) := by
  have kept := kept_of_reached reached
  refine ⟨fun slot inside => kept.onePlace inside, fun few => ?_⟩
  have told := told_of_reached reached few
  refine ⟨told.distinct, told.once, fun id node member => ?_, fun id ended => ?_⟩
  · rcases told.fired id node member with ⟨live, _, known⟩
    exact ⟨live, known⟩
  · have dead : run.wheel.isLive id = false := by
      rcases ended with cancelled | fired
      · exact (told.dead id cancelled).1
      · rcases List.mem_map.mp fired with ⟨⟨_, node⟩, member, rfl⟩
        exact (told.fired _ node member).2.1
    exact ⟨dead, TimerWheel.cancel_of_dead dead⟩

/-- A timer of the given deadline. -/
def plainTimer (fireAtNs : ℕ) : TimerNode :=
  ⟨fireAtNs, 0, .rto, 0, 0#32, false⟩

/-- The first timer fires, the second one takes its slot and is cancelled. -/
def recycledSlot : List WheelOp :=
  [.add 0 (plainTimer 100000), .advance 100000, .add 100000 (plainTimer 200000), .cancel ⟨0, 1#32⟩,
    .advance 200000]

/-- The identifier of the first timer is dead, also behind the second. -/
theorem wheel_safe_recycled :
    OnePlace (recycledSlot.foldl step start).wheel 0 ∧
      (recycledSlot.foldl step start).wheel.cancel ⟨0, 0#32⟩ =
        (recycledSlot.foldl step start).wheel := by
  have safe := wheel_safe (.foldl recycledSlot start)
  have few : FewReuses (recycledSlot.foldl step start).armed :=
    .of_length (by decide +kernel)
  have fired : ⟨0, 0#32⟩ ∈ (recycledSlot.foldl step start).fired.map Prod.fst := by decide +kernel
  exact ⟨safe.1 0 (by decide +kernel), (safe.2 few).2.2.2 ⟨0, 0#32⟩ (.inr fired) |>.2⟩

end WheelRun

end DpdkTcp
