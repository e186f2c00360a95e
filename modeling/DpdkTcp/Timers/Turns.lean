import DpdkTcp.Lib.Homes
import DpdkTcp.Timers.Wheel

/-!
# Turns of the wheel

Level `l` of the wheel turns at every tick that is a multiple of `BUCKETS ^ l`,
and a turn empties the bucket under its cursor. Every slot in a bucket is
therefore booked for one coming turn of its level. The invariant says
where each slot is listed, and for which turn; what a booking promises about the
timer is left open, and every operation keeps any promise that `add` makes and
a cascade passes on.
-/

namespace DpdkTcp

/-! ### Levels and offsets -/

/-- Where `level_and_bucket_offset` puts a delay. -/
structure Placement (delayTicks : ℕ) (place : ℕ × ℕ) : Prop where
  level : place.1 < LEVELS
  positive : 1 ≤ place.2
  inside : place.2 < BUCKETS
  near : place.1 = 0 → delayTicks < BUCKETS ∧ place.2 = max 1 delayTicks
  far : 0 < place.1 → BUCKETS ≤ delayTicks
  within : 0 < place.1 → delayTicks < 2 ^ 64 → place.2 * BUCKETS ^ place.1 ≤ delayTicks

theorem two_pow_level (level : ℕ) : 2 ^ (8 * level) = BUCKETS ^ level :=
  Nat.pow_mul 2 8 level

theorem levelAndBucketOffsetFrom_placement {delayTicks levelsLeft level : ℕ}
    (levels : level + levelsLeft = LEVELS)
    (beyond : 0 < level → BUCKETS ^ level ≤ delayTicks) :
    Placement delayTicks (levelAndBucketOffsetFrom delayTicks levelsLeft level) := by
  induction levelsLeft generalizing level with
  | zero =>
      have last : level = LEVELS := levels
      subst last
      have huge := beyond (by decide)
      dsimp only [levelAndBucketOffsetFrom]
      refine ⟨by decide, by decide, by decide, nofun, fun _ => ?_, fun _ short => ?_⟩
      · exact Nat.le_trans (by decide) huge
      · exact absurd (Nat.lt_of_le_of_lt huge short) (by decide)
  | succ levelsLeft ih =>
      dsimp only [levelAndBucketOffsetFrom]
      rw [two_pow_level, two_pow_level]
      split
      · rename_i near
        rw [Nat.pow_succ] at near
        have positive : 0 < BUCKETS ^ level := Nat.pow_pos (by decide)
        have share : delayTicks / BUCKETS ^ level < BUCKETS :=
          Nat.div_lt_of_lt_mul near
        have clamped : min (delayTicks / BUCKETS ^ level) (BUCKETS - 1) =
            delayTicks / BUCKETS ^ level :=
          Nat.min_eq_left (Nat.le_sub_one_of_lt share)
        rw [clamped]
        refine ⟨by dsimp only; omega, Nat.le_max_left 1 _, ?_, ?_, fun far => ?_, fun far _ => ?_⟩
        · exact Nat.max_lt.mpr ⟨by decide, share⟩
        · intro bottom
          have isZero : level = 0 := bottom
          subst isZero
          rw [Nat.pow_zero, Nat.one_mul] at near
          rw [Nat.pow_zero, Nat.div_one]
          exact ⟨near, rfl⟩
        · have one : BUCKETS ^ 1 ≤ BUCKETS ^ level := Nat.pow_le_pow_right (by decide) far
          exact Nat.le_trans one (beyond far)
        · have whole : 1 ≤ delayTicks / BUCKETS ^ level :=
            (Nat.one_le_div_iff positive).mpr (beyond far)
          rw [Nat.max_eq_right whole]
          exact Nat.div_mul_le_self _ _
      · rename_i far
        exact ih (by omega) fun _ => Nat.le_of_not_lt far

theorem levelAndBucketOffset_placement (delayTicks : ℕ) :
    Placement delayTicks (levelAndBucketOffset delayTicks) :=
  levelAndBucketOffsetFrom_placement rfl nofun

/-- Where a timer is put that expires at `fireAtNs`, seen from `nowNs`. -/
def placeAt (nowNs fireAtNs : ℕ) : ℕ × ℕ :=
  levelAndBucketOffset ((fireAtNs - nowNs) / TICK_NS)

/-- From the start of a tick the delay is a whole number of ticks. -/
theorem delay_of_tick (fireAtNs tick : ℕ) :
    (fireAtNs - tick * TICK_NS) / TICK_NS = fireAtNs / TICK_NS - tick := by
  rw [Nat.mul_comm, Nat.sub_mul_div]

/-! ### Where the slots are -/

/-- Where a slot of the wheel is listed. -/
inductive Place where
  | free
  | bucket (level index : ℕ)
  | hand
deriving DecidableEq

/-- What is promised of a timer in a slot that is booked for a turn of a level. -/
abbrev Booking := (slot level turn fireAtNs : ℕ) → Prop

/-- A bucket, and the next turn of its level that empties it. -/
structure Booked (due : Booking) (turns : ℕ → ℕ) (slot level index fireAtNs : ℕ) : Prop where
  inside : level < LEVELS
  turn : ∃ turn, turns level < turn ∧ turn < turns level + BUCKETS ∧ turn % BUCKETS = index ∧
    due slot level turn fireAtNs

namespace TimerWheel

/-- The lists of a wheel. A bucket that is being emptied is in hand. -/
def cells (wheel : TimerWheel) (hand : List ℕ) : Place → List ℕ
  | .free => wheel.freeList
  | .bucket level index => wheel.buckets level index
  | .hand => hand

/-- Every slot is in one place: empty on the free list, or occupied in a bucket under a booking,
or in hand. -/
structure Wound (due : Booking) (held : ℕ → ℕ → Prop) (wheel : TimerWheel) (turns : ℕ → ℕ)
    (hand : List ℕ) (home : ℕ → Option Place) : Prop where
  housed : Homes.Housed (wheel.cells hand) home
  range : ∀ slot, home slot ≠ none ↔ slot < wheel.slots.length
  occupied : ∀ slot, wheel.nodeAt slot ≠ none ↔ ∃ place, home slot = some place ∧ place ≠ .free
  cursors : ∀ level < LEVELS, wheel.cursors level = turns level % BUCKETS
  booked : ∀ slot node level index, wheel.nodeAt slot = some node →
    home slot = some (.bucket level index) → Booked due turns slot level index node.fireAtNs
  inHand : ∀ slot node, wheel.nodeAt slot = some node → home slot = some .hand →
    held slot node.fireAtNs
  scratch : wheel.drainScratch = []

variable {due due' : Booking} {held held' : ℕ → ℕ → Prop} {wheel after : TimerWheel}
  {turns turns' : ℕ → ℕ} {hand rest : List ℕ} {home : ℕ → Option Place} {slot : ℕ}

namespace Wound

theorem start (due : Booking) (held : ℕ → ℕ → Prop) :
    Wound due held new (fun _ => 0) [] fun _ => none where
  housed := ⟨fun place => by cases place <;> exact List.nodup_nil,
    fun place slot => by cases place <;> exact iff_of_false List.not_mem_nil nofun⟩
  range := fun slot => iff_of_false (fun known => known rfl) (Nat.not_lt_zero slot)
  occupied := fun slot => iff_of_false (fun known => known rfl) (fun ⟨_, known, _⟩ => nomatch known)
  cursors := fun _ _ => rfl
  booked := fun _ _ _ _ known => nomatch known
  inHand := fun _ _ known => nomatch known
  scratch := rfl

/-- A booking may promise less, and it only concerns occupied slots. -/
theorem mono (wound : Wound due held wheel turns hand home)
    (weaker : ∀ slot level turn fireAtNs, wheel.nodeAt slot ≠ none →
      due slot level turn fireAtNs → due' slot level turn fireAtNs) :
    Wound due' held wheel turns hand home :=
  { wound with
    booked := by
      intro slot node level index occupied here
      rcases wound.booked slot node level index occupied here with
        ⟨levels, turn, later, soon, emptied, promised⟩
      refine ⟨levels, turn, later, soon, emptied, weaker _ _ _ _ ?_ promised⟩
      rw [occupied]
      exact nofun }

/-- Nothing is held where nothing is in hand. -/
theorem empty_hand (wound : Wound due held wheel turns [] home) :
    Wound due held' wheel turns [] home :=
  { wound with
    inHand := by
      intro slot node _ here
      have member := (wound.housed.mem_iff .hand slot).mpr here
      cases member }

/-- The turns of the levels of the wheel are all that counts. -/
theorem congr_turns (wound : Wound due held wheel turns hand home)
    (same : ∀ level < LEVELS, turns' level = turns level) :
    Wound due held wheel turns' hand home :=
  { wound with
    cursors := by
      intro level inside
      rw [same level inside]
      exact wound.cursors level inside
    booked := by
      intro slot node level index occupied here
      rcases wound.booked slot node level index occupied here with ⟨levels, turn⟩
      refine ⟨levels, ?_⟩
      rw [same level levels]
      exact turn }

/-- A slot in hand is occupied. -/
theorem occupied_of_hand (wound : Wound due held wheel turns hand home) (member : slot ∈ hand) :
    ∃ node, wheel.nodeAt slot = some node :=
  Option.ne_none_iff_exists'.mp
    ((wound.occupied slot).mpr ⟨.hand, (wound.housed.mem_iff .hand slot).mp member, nofun⟩)

/-- The bucket under a cursor is empty. -/
theorem under_cursor (wound : Wound due held wheel turns hand home) (level : ℕ) :
    wheel.buckets level (turns level % BUCKETS) = [] := by
  rw [List.eq_nil_iff_forall_not_mem]
  intro slot member
  have here := (wound.housed.mem_iff (.bucket level _) slot).mp member
  rcases Option.ne_none_iff_exists'.mp ((wound.occupied slot).mpr ⟨_, here, nofun⟩) with
    ⟨node, occupied⟩
  rcases (wound.booked slot node level _ occupied here).turn with ⟨turn, later, soon, emptied, _⟩
  unfold BUCKETS at soon emptied
  omega

end Wound

/-! ### Adding and cancelling -/

theorem buckets_setBucket (wheel : TimerWheel) (level index : ℕ) (bucket : List ℕ)
    (other key : ℕ) :
    (wheel.setBucket level index bucket).buckets other key =
      if other = level ∧ key = index then bucket else wheel.buckets other key := by
  dsimp only [setBucket, updateAt]
  by_cases sameLevel : other = level
  · subst sameLevel
    by_cases sameIndex : key = index
    · simp [updateAt, sameIndex]
    · simp [updateAt, sameIndex]
  · simp [sameLevel]

theorem buckets_pushBucket (wheel : TimerWheel) (level index slot other key : ℕ) :
    (wheel.pushBucket level index slot).buckets other key =
      if other = level ∧ key = index then wheel.buckets level index ++ [slot]
      else wheel.buckets other key :=
  buckets_setBucket wheel level index _ other key

/-- The bucket an offset leads to is booked for the turn as many turns ahead. -/
theorem booked_of_placement {delayTicks fireAtNs : ℕ} {place : ℕ × ℕ}
    (placement : Placement delayTicks place)
    (cursors : ∀ level < LEVELS, wheel.cursors level = turns level % BUCKETS)
    (promised : due slot place.1 (turns place.1 + place.2) fireAtNs) :
    Booked due turns slot place.1 ((wheel.cursors place.1 + place.2) % BUCKETS) fireAtNs := by
  have positive := placement.positive
  have inside := placement.inside
  refine ⟨placement.level, turns place.1 + place.2, by omega, by omega, ?_, promised⟩
  rw [cursors place.1 placement.level, Nat.mod_add_mod]

/-- The free list after `add`: its top was taken, or it was empty and a slot is new. -/
theorem add_freeList (wheel : TimerWheel) (nowNs : ℕ) (node : TimerNode) :
    wheel.freeList = (wheel.add nowNs node).2.slot :: (wheel.add nowNs node).1.freeList ∨
      wheel.freeList = [] ∧ (wheel.add nowNs node).1.freeList = [] ∧
        (wheel.add nowNs node).2.slot = wheel.slots.length := by
  dsimp only [add, pushBucket, setBucket, takeSlot]
  split
  · rename_i slot rest listed
    exact .inl listed
  · rename_i listed
    exact .inr ⟨listed, listed, rfl⟩

theorem add_buckets (wheel : TimerWheel) (nowNs : ℕ) (node : TimerNode) (other key : ℕ) :
    (wheel.add nowNs node).1.buckets other key =
      if other = (placeAt nowNs node.fireAtNs).1 ∧
          key = (wheel.cursors (placeAt nowNs node.fireAtNs).1 +
            (placeAt nowNs node.fireAtNs).2) % BUCKETS then
        wheel.buckets other key ++ [(wheel.add nowNs node).2.slot]
      else wheel.buckets other key := by
  have taken : wheel.takeSlot.1.buckets = wheel.buckets := by
    unfold takeSlot
    split <;> rfl
  refine (buckets_pushBucket _ _ _ _ other key).trans ?_
  dsimp only
  rw [taken]
  by_cases here : other = (placeAt nowNs node.fireAtNs).1 ∧
      key = (wheel.cursors (placeAt nowNs node.fireAtNs).1 +
        (placeAt nowNs node.fireAtNs).2) % BUCKETS
  · rw [if_pos here, here.1, here.2]
    exact if_pos ⟨rfl, rfl⟩
  · rw [if_neg here]
    exact if_neg here

theorem add_frame (wheel : TimerWheel) (nowNs : ℕ) (node : TimerNode) :
    (wheel.add nowNs node).1.cursors = wheel.cursors ∧
      (wheel.add nowNs node).1.lastTick = wheel.lastTick ∧
      (wheel.add nowNs node).1.drainScratch = wheel.drainScratch := by
  dsimp only [add, pushBucket, setBucket, takeSlot]
  split <;> exact ⟨rfl, rfl, rfl⟩

/-- A timer is added under any booking that promises what its place allows. -/
theorem Wound.add (wound : Wound due held wheel turns [] home) (sound : wheel.Sound)
    (nowNs : ℕ) (node : TimerNode)
    (promised : due (wheel.add nowNs node).2.slot (placeAt nowNs node.fireAtNs).1
      (turns (placeAt nowNs node.fireAtNs).1 + (placeAt nowNs node.fireAtNs).2) node.fireAtNs) :
    ∃ home', Wound due held (wheel.add nowNs node).1 turns [] home' := by
  have adds := (sound.add nowNs node).2
  rcases add_frame wheel nowNs node with ⟨cursors, _, scratch⟩
  have freeList := add_freeList wheel nowNs node
  have buckets := add_buckets wheel nowNs node
  have booked : Booked due turns (wheel.add nowNs node).2.slot (placeAt nowNs node.fireAtNs).1
      ((wheel.cursors (placeAt nowNs node.fireAtNs).1 +
        (placeAt nowNs node.fireAtNs).2) % BUCKETS) node.fireAtNs :=
    booked_of_placement (levelAndBucketOffset_placement _) wound.cursors promised
  generalize (wheel.add nowNs node).2 = id at adds freeList buckets booked
  generalize (wheel.add nowNs node).1 = after at adds cursors scratch freeList buckets ⊢
  generalize placeAt nowNs node.fireAtNs = place at buckets booked
  generalize (wheel.cursors place.1 + place.2) % BUCKETS = index at buckets booked
  have listed : (after.cells [] (.bucket place.1 index)).Perm
      (id.slot :: wheel.cells [] (.bucket place.1 index)) := by
    dsimp only [cells]
    rw [buckets, if_pos ⟨rfl, rfl⟩]
    exact List.perm_append_singleton ..
  have elsewhere : ∀ level key, Place.bucket level key ≠ .bucket place.1 index →
      after.buckets level key = wheel.buckets level key := by
    intro level key other
    rw [buckets, if_neg]
    rintro ⟨rfl, rfl⟩
    exact other rfl
  refine ⟨Function.update home id.slot (some (.bucket place.1 index)), ?_, ?_, ?_, ?_, ?_, ?_, ?_⟩
  · rcases freeList with taken | ⟨none, none', fresh⟩
    · have source : (wheel.cells [] .free).Perm (id.slot :: after.cells [] .free) := by
        dsimp only [cells]
        rw [taken]
      have differs : Place.bucket place.1 index ≠ .free := nofun
      refine wound.housed.move differs source listed ?_
      · intro other apart others
        cases other with
        | free => exact absurd rfl apart
        | bucket level key => exact elsewhere level key others
        | hand => rfl
    · refine wound.housed.settle ?_ listed ?_
      · by_contra known
        have inside := (wound.range id.slot).mp known
        rw [fresh] at inside
        exact Nat.lt_irrefl _ inside
      · intro other others
        cases other with
        | free =>
            dsimp only [cells]
            rw [none, none']
        | bucket level key => exact elsewhere level key others
        | hand => rfl
  · intro slot
    have range := wound.range slot
    have length := adds.length
    have opened := adds.opened
    by_cases same : slot = id.slot
    · rw [same, Function.update_self, length]
      exact iff_of_true nofun (Nat.lt_of_lt_of_le (Nat.lt_succ_self _) (Nat.le_max_right _ _))
    · rw [Function.update_of_ne same, range]
      omega
  · intro slot
    rw [adds.nodes]
    by_cases same : slot = id.slot
    · rw [if_pos same, same, Function.update_self]
      exact iff_of_true nofun ⟨_, rfl, nofun⟩
    · rw [if_neg same, Function.update_of_ne same]
      exact wound.occupied slot
  · intro level inside
    rw [cursors]
    exact wound.cursors level inside
  · intro slot occupant level key occupied here
    rw [adds.nodes] at occupied
    by_cases same : slot = id.slot
    · rw [if_pos same] at occupied
      cases occupied
      rw [same, Function.update_self] at here
      cases here
      rw [same]
      exact booked
    · rw [if_neg same] at occupied
      rw [Function.update_of_ne same] at here
      exact wound.booked slot occupant level key occupied here
  · intro slot occupant occupied here
    rw [adds.nodes] at occupied
    by_cases same : slot = id.slot
    · rw [same, Function.update_self] at here
      cases here
    · rw [if_neg same] at occupied
      rw [Function.update_of_ne same] at here
      exact wound.inHand slot occupant occupied here
  · rw [scratch]
    exact wound.scratch

theorem cancel_slots (wheel : TimerWheel) (id : TimerId) :
    wheel.cancel id = { wheel with slots := (wheel.cancel id).slots } := by
  unfold cancel
  split
  · split <;> rfl
  · rfl

theorem marked_fireAtNs (id : TimerId) (slot : ℕ) (node : TimerNode) :
    (marked id slot node).fireAtNs = node.fireAtNs := by
  unfold marked
  split <;> rfl

theorem Wound.cancel (wound : Wound due held wheel turns hand home) (id : TimerId) :
    Wound due held (wheel.cancel id) turns hand home := by
  have nodes := nodeAt_cancel wheel id
  have length := (cancel_only wheel id).2.2
  rw [cancel_slots] at nodes length ⊢
  generalize (wheel.cancel id).slots = slots at nodes length ⊢
  refine ⟨?_, ?_, ?_, wound.cursors, ?_, ?_, wound.scratch⟩
  · have same : ({ wheel with slots := slots } : TimerWheel).cells hand = wheel.cells hand := by
      funext place
      cases place <;> rfl
    rw [same]
    exact wound.housed
  · intro slot
    rw [length]
    exact wound.range slot
  · intro slot
    rw [nodes, ← wound.occupied]
    cases wheel.nodeAt slot <;> simp
  · intro slot node level index occupied here
    rw [nodes] at occupied
    rcases Option.map_eq_some_iff.mp occupied with ⟨before, was, rfl⟩
    rw [marked_fireAtNs]
    exact wound.booked slot before level index was here
  · intro slot node occupied here
    rw [nodes] at occupied
    rcases Option.map_eq_some_iff.mp occupied with ⟨before, was, rfl⟩
    rw [marked_fireAtNs]
    exact wound.inHand slot before was here

/-! ### A bucket in hand -/

theorem nodeAt_freeSlot (wheel : TimerWheel) {slot : ℕ} (inside : slot < wheel.slots.length)
    (other : ℕ) :
    (wheel.freeSlot slot).nodeAt other = if other = slot then none else wheel.nodeAt other :=
  getD_set inside none none other

namespace Wound

/-- The first slot in hand is given back to the free list. -/
theorem giveBack (wound : Wound due held wheel turns (slot :: rest) home) :
    Wound due held (wheel.freeSlot slot) turns rest (Function.update home slot (some .free)) := by
  have atHand := (wound.housed.mem_iff .hand slot).mp List.mem_cons_self
  have inside : slot < wheel.slots.length := (wound.range slot).mp (by rw [atHand]; exact nofun)
  have nodes := nodeAt_freeSlot wheel inside
  refine ⟨?_, ?_, ?_, wound.cursors, ?_, ?_, wound.scratch⟩
  · have differs : Place.free ≠ .hand := nofun
    have source : (wheel.cells (slot :: rest) .hand).Perm
        (slot :: (wheel.freeSlot slot).cells rest .hand) := .refl _
    refine wound.housed.move differs source (.refl _) ?_
    intro other apart others
    cases other with
    | free => exact absurd rfl others
    | bucket level key => rfl
    | hand => exact absurd rfl apart
  · intro other
    have length : (wheel.freeSlot slot).slots.length = wheel.slots.length := List.length_set ..
    rw [length]
    by_cases same : other = slot
    · rw [same, Function.update_self]
      exact iff_of_true nofun inside
    · rw [Function.update_of_ne same]
      exact wound.range other
  · intro other
    rw [nodes]
    by_cases same : other = slot
    · rw [if_pos same, same, Function.update_self]
      refine iff_of_false (fun known => known rfl) ?_
      rintro ⟨place, here, occupied⟩
      exact occupied (Option.some.inj here).symm
    · rw [if_neg same, Function.update_of_ne same]
      exact wound.occupied other
  · intro other node level index occupied here
    rw [nodes] at occupied
    split at occupied
    · cases occupied
    · rename_i differs
      rw [Function.update_of_ne differs] at here
      exact wound.booked other node level index occupied here
  · intro other node occupied here
    rw [nodes] at occupied
    split at occupied
    · cases occupied
    · rename_i differs
      rw [Function.update_of_ne differs] at here
      exact wound.inHand other node occupied here

/-- The first slot in hand is put into another bucket. -/
theorem putAway (wound : Wound due held wheel turns (slot :: rest) home) {node : TimerNode}
    (occupant : wheel.nodeAt slot = some node) {delayTicks : ℕ} {place : ℕ × ℕ}
    (placement : Placement delayTicks place)
    (promised : due slot place.1 (turns place.1 + place.2) node.fireAtNs) :
    ∃ home', Wound due held
      (wheel.pushBucket place.1 ((wheel.cursors place.1 + place.2) % BUCKETS) slot) turns rest
      home' := by
  have booked := booked_of_placement placement wound.cursors promised
  generalize (wheel.cursors place.1 + place.2) % BUCKETS = index at booked ⊢
  have buckets := buckets_pushBucket wheel place.1 index slot
  have nodes : ∀ other, (wheel.pushBucket place.1 index slot).nodeAt other = wheel.nodeAt other :=
    fun _ => rfl
  have atHand := (wound.housed.mem_iff .hand slot).mp List.mem_cons_self
  refine ⟨Function.update home slot (some (.bucket place.1 index)), ?_, ?_, ?_, wound.cursors, ?_,
    ?_, wound.scratch⟩
  · have differs : Place.bucket place.1 index ≠ .hand := nofun
    have source : (wheel.cells (slot :: rest) .hand).Perm
        (slot :: (wheel.pushBucket place.1 index slot).cells rest .hand) := .refl _
    refine wound.housed.move differs source ?_ ?_
    · dsimp only [cells]
      rw [buckets, if_pos ⟨rfl, rfl⟩]
      exact List.perm_append_singleton ..
    · intro other apart others
      cases other with
      | free => rfl
      | bucket level key =>
          dsimp only [cells]
          rw [buckets, if_neg]
          rintro ⟨rfl, rfl⟩
          exact others rfl
      | hand => exact absurd rfl apart
  · intro other
    by_cases same : other = slot
    · rw [same, Function.update_self]
      exact iff_of_true nofun ((wound.range slot).mp (by rw [atHand]; exact nofun))
    · rw [Function.update_of_ne same]
      exact wound.range other
  · intro other
    rw [nodes]
    by_cases same : other = slot
    · rw [same, Function.update_self, occupant]
      exact iff_of_true nofun ⟨_, rfl, nofun⟩
    · rw [Function.update_of_ne same]
      exact wound.occupied other
  · intro other known level key occupied here
    by_cases same : other = slot
    · rw [nodes, same, occupant] at occupied
      cases occupied
      rw [same, Function.update_self] at here
      cases here
      rw [same]
      exact booked
    · rw [Function.update_of_ne same] at here
      exact wound.booked other known level key occupied here
  · intro other known occupied here
    by_cases same : other = slot
    · rw [same, Function.update_self] at here
      cases here
    · rw [Function.update_of_ne same] at here
      exact wound.inHand other known occupied here

/-- A level turns: the bucket under its cursor is taken in hand. What was booked for this turn is
held, the rest stays booked. -/
theorem take (wound : Wound due held wheel turns [] home) {level : ℕ} (inside : level < LEVELS)
    (slots : after.slots = wheel.slots) (freeList : after.freeList = wheel.freeList)
    (scratch : after.drainScratch = [])
    (cursors : ∀ other, after.cursors other =
      if other = level then (turns level + 1) % BUCKETS else wheel.cursors other)
    (buckets : ∀ other key, after.buckets other key =
      if other = level ∧ key = (turns level + 1) % BUCKETS then [] else wheel.buckets other key) :
    ∃ home', Wound due (fun slot fireAtNs => due slot level (turns level + 1) fireAtNs) after
      (Function.update turns level (turns level + 1))
      (wheel.buckets level ((turns level + 1) % BUCKETS)) home' := by
  have nodes : ∀ slot, after.nodeAt slot = wheel.nodeAt slot := by
    intro slot
    rw [nodeAt, slots]
    rfl
  have noneInHand : ∀ slot, home slot ≠ some .hand := by
    intro slot here
    have member := (wound.housed.mem_iff .hand slot).mpr here
    cases member
  refine ⟨fun slot => if home slot = some (.bucket level ((turns level + 1) % BUCKETS)) then
    some .hand else home slot, ?_, ?_, ?_, ?_, ?_, ?_, scratch⟩
  · refine wound.housed.carry rfl ?_ rfl ?_
    · dsimp only [cells]
      rw [buckets, if_pos ⟨rfl, rfl⟩]
    · intro other apart others
      cases other with
      | free => exact freeList
      | bucket otherLevel key =>
          dsimp only [cells]
          rw [buckets, if_neg]
          rintro ⟨rfl, rfl⟩
          exact apart rfl
      | hand => exact absurd rfl others
  · intro slot
    rw [slots, ← wound.range]
    split
    · rename_i here
      rw [here]
      exact iff_of_true (by rintro ⟨⟩) (by rintro ⟨⟩)
    · rfl
  · intro slot
    rw [nodes, wound.occupied]
    split
    · rename_i here
      rw [here]
      exact iff_of_true ⟨_, rfl, by rintro ⟨⟩⟩ ⟨_, rfl, by rintro ⟨⟩⟩
    · rfl
  · intro other within
    rw [cursors]
    by_cases same : other = level
    · rw [if_pos same, same, Function.update_self]
    · rw [if_neg same, Function.update_of_ne same]
      exact wound.cursors other within
  · intro slot node other key occupied here
    rw [nodes] at occupied
    split at here
    · cases here
    · rename_i away
      rcases wound.booked slot node other key occupied here with
        ⟨levels, turn, later, soon, emptied, promised⟩
      by_cases same : other = level
      · subst same
        refine ⟨levels, turn, ?_, ?_, emptied, promised⟩
        · rw [Function.update_self]
          rcases Nat.lt_or_eq_of_le (Nat.succ_le_of_lt later) with beyond | next
          · exact beyond
          · have now : key = (turns other + 1) % BUCKETS := by rw [← emptied, ← next]
            exact absurd (now ▸ here) away
        · rw [Function.update_self]
          omega
      · refine ⟨levels, turn, ?_, ?_, emptied, promised⟩
        · rw [Function.update_of_ne same]
          exact later
        · rw [Function.update_of_ne same]
          exact soon
  · intro slot node occupied here
    rw [nodes] at occupied
    split at here
    · rename_i taken
      rcases wound.booked slot node level _ occupied taken with
        ⟨_, turn, later, soon, emptied, promised⟩
      have next : turn = turns level + 1 := by
        unfold BUCKETS at soon emptied
        omega
      rw [next] at promised
      exact promised
    · exact absurd here (noneInHand slot)

end Wound

/-- Only what is listed and where the cursors stand counts. -/
theorem Wound.congr (wound : Wound due held wheel turns hand home)
    (slots : after.slots = wheel.slots) (freeList : after.freeList = wheel.freeList)
    (cursors : after.cursors = wheel.cursors)
    (buckets : ∀ level index, after.buckets level index = wheel.buckets level index)
    (scratch : after.drainScratch = []) : Wound due held after turns hand home := by
  have nodes : ∀ slot, after.nodeAt slot = wheel.nodeAt slot := by
    intro slot
    rw [nodeAt, slots]
    rfl
  have cells : after.cells hand = wheel.cells hand := by
    funext place
    cases place with
    | free => exact freeList
    | bucket level index => exact buckets level index
    | hand => rfl
  refine ⟨cells ▸ wound.housed, ?_, ?_, ?_, ?_, ?_, scratch⟩
  · rw [slots]
    exact wound.range
  · intro slot
    rw [nodes]
    exact wound.occupied slot
  · rw [cursors]
    exact wound.cursors
  · intro slot node level index occupied here
    rw [nodes] at occupied
    exact wound.booked slot node level index occupied here
  · intro slot node occupied here
    rw [nodes] at occupied
    exact wound.inHand slot node occupied here

/-! ### A turn of each level -/

theorem sweep_setBucket (bucket : List ℕ) (swept : Swept) (level index : ℕ) (content : List ℕ) :
    sweep bucket { swept with wheel := swept.wheel.setBucket level index content } =
      { sweep bucket swept with
        wheel := (sweep bucket swept).wheel.setBucket level index content } := by
  induction bucket generalizing swept with
  | nil => rfl
  | cons slot rest ih =>
      have nodes : (swept.wheel.setBucket level index content).nodeAt slot =
          swept.wheel.nodeAt slot := rfl
      dsimp only [sweep]
      rw [nodes]
      split
      · rename_i node occupied
        exact ih { wheel := swept.wheel.freeSlot slot
                   fired :=
                    if node.cancelled then swept.fired
                    else swept.fired ++ [(⟨slot, node.generation⟩, node)] }
      · exact ih swept

theorem sweep_lastTick (bucket : List ℕ) (swept : Swept) :
    (sweep bucket swept).wheel.lastTick = swept.wheel.lastTick := by
  induction bucket generalizing swept with
  | nil => rfl
  | cons slot rest ih =>
      dsimp only [sweep]
      split
      · exact ih _
      · exact ih _

theorem replace_lastTick (nowNs : ℕ) (bucket : List ℕ) (wheel : TimerWheel) :
    (replace nowNs bucket wheel).lastTick = wheel.lastTick := by
  induction bucket generalizing wheel with
  | nil => rfl
  | cons slot rest ih =>
      dsimp only [replace]
      split
      · split
        · exact ih _
        · exact ih _
      · exact ih _

/-- The slots in hand are given back, and those that fire were held. -/
theorem sweep_wound {swept : Swept} (wound : Wound due held swept.wheel turns hand home) :
    (∃ home', Wound due held (sweep hand swept).wheel turns [] home') ∧
      ∀ item ∈ (sweep hand swept).fired,
        item ∈ swept.fired ∨ held item.1.slot item.2.fireAtNs := by
  induction hand generalizing swept home with
  | nil => exact ⟨⟨home, wound⟩, fun item fired => .inl fired⟩
  | cons slot rest ih =>
      rcases wound.occupied_of_hand List.mem_cons_self with ⟨node, occupied⟩
      have atHand := (wound.housed.mem_iff .hand slot).mp List.mem_cons_self
      have isHeld := wound.inHand slot node occupied atHand
      have later := @ih _
        { wheel := swept.wheel.freeSlot slot
          fired :=
            if node.cancelled then swept.fired
            else swept.fired ++ [(⟨slot, node.generation⟩, node)] } wound.giveBack
      dsimp only [sweep]
      rw [occupied]
      dsimp only
      refine ⟨later.1, fun item fired => ?_⟩
      rcases later.2 item fired with early | isHeld
      · dsimp only at early
        split at early
        · exact .inl early
        · rcases List.mem_append.mp early with before | new
          · exact .inl before
          · rcases List.mem_singleton.mp new with rfl
            exact .inr isHeld
      · exact .inr isHeld

/-- The slots in hand move down, where what was held allows the promises of their new places. -/
theorem replace_wound {nowNs : ℕ} (wound : Wound due held wheel turns hand home)
    (passes : ∀ slot fireAtNs, held slot fireAtNs →
      due slot (placeAt nowNs fireAtNs).1
        (turns (placeAt nowNs fireAtNs).1 + (placeAt nowNs fireAtNs).2) fireAtNs) :
    ∃ home', Wound due held (replace nowNs hand wheel) turns [] home' := by
  induction hand generalizing wheel home with
  | nil => exact ⟨home, wound⟩
  | cons slot rest ih =>
      rcases wound.occupied_of_hand List.mem_cons_self with ⟨node, occupied⟩
      have atHand := (wound.housed.mem_iff .hand slot).mp List.mem_cons_self
      dsimp only [replace]
      rw [occupied]
      dsimp only
      split
      · exact ih wound.giveBack
      · have promised := passes slot node.fireAtNs (wound.inHand slot node occupied atHand)
        rcases wound.putAway occupied (levelAndBucketOffset_placement _) promised with
          ⟨home', settled⟩
        exact ih settled

/-- How often each level has turned after a tick. -/
def turned (tick level : ℕ) : ℕ :=
  tick / BUCKETS ^ level

/-- During a tick the levels turn one after the other. -/
def turning (tick level other : ℕ) : ℕ :=
  if other < level then turned tick other else turned (tick - 1) other

theorem turned_of_dvd {tick level : ℕ} (positive : 0 < tick) (due : BUCKETS ^ level ∣ tick) :
    turned (tick - 1) level + 1 = turned tick level := by
  have exact_ : BUCKETS ^ level ∣ tick - 1 + 1 := by rwa [Nat.sub_add_cancel positive]
  have next := Nat.succ_div_of_dvd exact_
  rw [Nat.sub_add_cancel positive] at next
  exact next.symm

theorem turned_of_not_dvd {tick level other : ℕ} (positive : 0 < tick)
    (still : ¬ BUCKETS ^ level ∣ tick) (above : level ≤ other) :
    turned (tick - 1) other = turned tick other := by
  have still' : ¬ BUCKETS ^ other ∣ tick - 1 + 1 := by
    rw [Nat.sub_add_cancel positive]
    exact fun turns => still (Nat.dvd_trans (Nat.pow_dvd_pow BUCKETS above) turns)
  have same := Nat.succ_div_of_not_dvd still'
  rw [Nat.sub_add_cancel positive] at same
  exact same.symm

theorem turning_succ {tick level : ℕ} (positive : 0 < tick) (due : BUCKETS ^ level ∣ tick) :
    Function.update (turning tick level) level (turning tick level level + 1) =
      turning tick (level + 1) := by
  funext other
  by_cases same : other = level
  · rw [same, Function.update_self, turning, if_neg (Nat.lt_irrefl level), turning,
      if_pos (Nat.lt_succ_self level), turned_of_dvd positive due]
  · rw [Function.update_of_ne same, turning, turning]
    by_cases below : other < level
    · rw [if_pos below, if_pos (Nat.lt_succ_of_lt below)]
    · rw [if_neg below, if_neg (by omega)]

/-- A level that turns carries over to the next one where it comes round. -/
theorem wraps_iff {tick level : ℕ} (turns : BUCKETS ^ level ∣ tick) :
    turned tick level % BUCKETS = 0 ↔ BUCKETS ^ (level + 1) ∣ tick := by
  rw [← Nat.dvd_iff_mod_eq_zero, turned, Nat.dvd_div_iff_mul_dvd turns, Nat.pow_succ]

/-- A cascade passes the promise on: from the turn of a higher level to the place it gives. -/
def Cascades (due : Booking) : Prop :=
  ∀ slot level turn fireAtNs, 0 < level → due slot level turn fireAtNs →
    ∀ tick base, tick = turn * BUCKETS ^ level →
      base * BUCKETS ^ (placeAt (tick * TICK_NS) fireAtNs).1 ≤ tick →
      ((placeAt (tick * TICK_NS) fireAtNs).1 = 0 → base = tick) →
      due slot (placeAt (tick * TICK_NS) fireAtNs).1
        (base + (placeAt (tick * TICK_NS) fireAtNs).2) fireAtNs

theorem turning_le (tick level other : ℕ) :
    turning tick level other * BUCKETS ^ other ≤ tick := by
  unfold turning turned
  split
  · exact Nat.div_mul_le_self _ _
  · exact Nat.le_trans (Nat.div_mul_le_self _ _) (Nat.sub_le _ _)

theorem cascade_wound (cascades : Cascades due) {levelsLeft level : ℕ}
    (levels : level + levelsLeft = LEVELS) (above : 0 < level) (positive : 0 < wheel.lastTick)
    (turns : BUCKETS ^ level ∣ wheel.lastTick)
    (wound : Wound due held wheel (turning wheel.lastTick level) [] home) :
    (∃ home', Wound due held' (cascade levelsLeft level wheel) (turned wheel.lastTick) [] home') ∧
      (cascade levelsLeft level wheel).lastTick = wheel.lastTick := by
  induction levelsLeft generalizing level wheel home held with
  | zero =>
      have last : level = LEVELS := levels
      refine ⟨⟨home, wound.empty_hand.congr_turns fun other inside => ?_⟩, rfl⟩
      rw [turning, if_pos (last ▸ inside)]
  | succ levelsLeft ih =>
      have inside : level < LEVELS := by omega
      have cursor : (wheel.cursors level + 1) % BUCKETS =
          (turning wheel.lastTick level level + 1) % BUCKETS := by
        rw [wound.cursors level inside, Nat.mod_add_mod]
      have next : turning wheel.lastTick level level + 1 = turned wheel.lastTick level := by
        rw [turning, if_neg (Nat.lt_irrefl level), turned_of_dvd positive turns]
      dsimp only [cascade]
      rw [cursor]
      generalize swappedEq : ({ wheel with
          cursors := updateAt wheel.cursors level
            ((turning wheel.lastTick level level + 1) % BUCKETS) }.setBucket level
          ((turning wheel.lastTick level level + 1) % BUCKETS) wheel.drainScratch) = swapped
      have slots : swapped.slots = wheel.slots := by rw [← swappedEq]; rfl
      have freeList : swapped.freeList = wheel.freeList := by rw [← swappedEq]; rfl
      have lastTick : swapped.lastTick = wheel.lastTick := by rw [← swappedEq]; rfl
      have scratch : swapped.drainScratch = [] := by rw [← swappedEq]; exact wound.scratch
      have cursors : ∀ other, swapped.cursors other =
          if other = level then (turning wheel.lastTick level level + 1) % BUCKETS
          else wheel.cursors other := by
        rw [← swappedEq]
        exact fun other => rfl
      have buckets : ∀ other key, swapped.buckets other key =
          if other = level ∧ key = (turning wheel.lastTick level level + 1) % BUCKETS then []
          else wheel.buckets other key := by
        intro other key
        rw [← swappedEq, buckets_setBucket, wound.scratch]
      rcases wound.take inside slots freeList scratch cursors buckets with ⟨taken, inHand⟩
      rw [turning_succ positive turns] at inHand
      have passes : ∀ slot fireAtNs,
          due slot level (turning wheel.lastTick level level + 1) fireAtNs →
          due slot (placeAt (wheel.lastTick * TICK_NS) fireAtNs).1
            (turning wheel.lastTick (level + 1) (placeAt (wheel.lastTick * TICK_NS) fireAtNs).1 +
              (placeAt (wheel.lastTick * TICK_NS) fireAtNs).2) fireAtNs := by
        intro slot fireAtNs promised
        refine cascades slot level _ fireAtNs above promised wheel.lastTick _ ?_
          (turning_le _ _ _) ?_
        · rw [next, turned, Nat.div_mul_cancel turns]
        · intro bottom
          rw [bottom, turning, if_pos (Nat.succ_pos level), turned, Nat.pow_zero, Nat.div_one]
      rcases replace_wound inHand passes with ⟨moved, replaced⟩
      have replacedTick := replace_lastTick (wheel.lastTick * TICK_NS)
        (wheel.buckets level ((turning wheel.lastTick level level + 1) % BUCKETS)) swapped
      rw [lastTick] at replacedTick
      generalize replace (wheel.lastTick * TICK_NS)
        (wheel.buckets level ((turning wheel.lastTick level level + 1) % BUCKETS)) swapped = lowered
        at replaced replacedTick ⊢
      -- nothing is put back into the bucket that was emptied
      have emptied : lowered.buckets level ((turning wheel.lastTick level level + 1) % BUCKETS) =
          [] := by
        have under := replaced.under_cursor level
        rwa [← turning_succ positive turns, Function.update_self] at under
      generalize restoredEq : ({ lowered.setBucket level
          ((turning wheel.lastTick level level + 1) % BUCKETS) [] with
          drainScratch :=
            lowered.buckets level ((turning wheel.lastTick level level + 1) % BUCKETS) } :
          TimerWheel) = restored
      have settled : Wound due held restored (turning wheel.lastTick (level + 1)) [] moved := by
        refine replaced.empty_hand.congr (by rw [← restoredEq]; rfl) (by rw [← restoredEq]; rfl)
          (by rw [← restoredEq]; rfl) ?_ (by rw [← restoredEq]; exact emptied)
        intro other key
        rw [← restoredEq]
        refine (buckets_setBucket lowered _ _ _ other key).trans ?_
        split
        · rename_i here
          rw [here.1, here.2, emptied]
        · rfl
      have restoredTick : restored.lastTick = wheel.lastTick := by
        rw [← restoredEq]
        exact replacedTick
      have wraps := wraps_iff turns
      rw [next]
      split
      · rename_i wrapped
        have settled' : Wound due held restored (turning restored.lastTick (level + 1)) []
            moved := by
          rw [restoredTick]
          exact settled
        have further := ih (by omega) (Nat.succ_pos level) (restoredTick ▸ positive)
          (restoredTick ▸ wraps.mp wrapped) settled'
        rw [restoredTick] at further
        exact further
      · rename_i still
        refine ⟨⟨moved, settled.empty_hand.congr_turns fun other _ => ?_⟩, restoredTick⟩
        rw [turning]
        split
        · rfl
        · exact (turned_of_not_dvd positive (fun turns => still (wraps.mpr turns)) (by omega)).symm

theorem turned_zero (tick : ℕ) : turned tick 0 = tick := by
  rw [turned, Nat.pow_zero, Nat.div_one]

/-- One tick keeps the bookings, and what fires was booked for it. -/
theorem tick_wound (cascades : Cascades due) {swept : Swept}
    (wound : Wound due held swept.wheel (turned swept.wheel.lastTick) [] home) :
    (∃ home', Wound due held' (tick swept).wheel (turned (swept.wheel.lastTick + 1)) [] home') ∧
      (tick swept).wheel.lastTick = swept.wheel.lastTick + 1 ∧
      ∀ item ∈ (tick swept).fired, item ∈ swept.fired ∨
        due item.1.slot 0 (swept.wheel.lastTick + 1) item.2.fireAtNs := by
  have bottom : (swept.wheel.cursors 0 + 1) % BUCKETS =
      (turned swept.wheel.lastTick 0 + 1) % BUCKETS := by
    rw [wound.cursors 0 (by decide), Nat.mod_add_mod]
  have positive : 0 < swept.wheel.lastTick + 1 := Nat.succ_pos _
  have every : BUCKETS ^ 0 ∣ swept.wheel.lastTick + 1 := Nat.one_dvd _
  have begun : turned swept.wheel.lastTick = turning (swept.wheel.lastTick + 1) 0 := by
    funext other
    rw [turning, if_neg (Nat.not_lt_zero other), Nat.add_sub_cancel]
  dsimp only [tick]
  rw [bottom]
  generalize tickedEq : ({ swept.wheel with
      cursors := updateAt swept.wheel.cursors 0 ((turned swept.wheel.lastTick 0 + 1) % BUCKETS)
      lastTick := swept.wheel.lastTick + 1 } : TimerWheel) = ticked
  generalize emptiedEq : ticked.setBucket 0 ((turned swept.wheel.lastTick 0 + 1) % BUCKETS) [] =
    emptied
  have slots : emptied.slots = swept.wheel.slots := by rw [← emptiedEq, ← tickedEq]; rfl
  have freeList : emptied.freeList = swept.wheel.freeList := by rw [← emptiedEq, ← tickedEq]; rfl
  have lastTick : emptied.lastTick = swept.wheel.lastTick + 1 := by
    rw [← emptiedEq, ← tickedEq]
    rfl
  have scratch : emptied.drainScratch = [] := by
    rw [← emptiedEq, ← tickedEq]
    exact wound.scratch
  have cursors : ∀ other, emptied.cursors other =
      if other = 0 then (turned swept.wheel.lastTick 0 + 1) % BUCKETS
      else swept.wheel.cursors other := by
    rw [← emptiedEq, ← tickedEq]
    exact fun other => rfl
  have buckets : ∀ other key, emptied.buckets other key =
      if other = 0 ∧ key = (turned swept.wheel.lastTick 0 + 1) % BUCKETS then []
      else swept.wheel.buckets other key := by
    intro other key
    rw [← emptiedEq, buckets_setBucket, ← tickedEq]
  rcases wound.take (by decide) slots freeList scratch cursors buckets with ⟨taken, inHand⟩
  rw [begun, turning_succ positive every, ← begun] at inHand
  -- the bucket is cleared behind the sweep, which does not look at it
  have cleared := sweep_setBucket
    (swept.wheel.buckets 0 ((turned swept.wheel.lastTick 0 + 1) % BUCKETS))
    { swept with wheel := ticked } 0 ((turned swept.wheel.lastTick 0 + 1) % BUCKETS) []
  dsimp only at cleared
  rw [emptiedEq] at cleared
  have drainedWheel := congrArg Swept.wheel cleared
  have drainedFired := congrArg Swept.fired cleared
  dsimp only at drainedWheel drainedFired
  have drained := @sweep_wound _ _ _ _ _ { swept with wheel := emptied } inHand
  have drainedTick := sweep_lastTick
    (swept.wheel.buckets 0 ((turned swept.wheel.lastTick 0 + 1) % BUCKETS))
    { swept with wheel := emptied }
  rw [drainedWheel, lastTick] at drainedTick
  rw [drainedWheel, drainedFired] at drained
  rcases drained with ⟨⟨left, settled⟩, fires⟩
  generalize ({ swept with wheel := ticked } : Swept) = begunSweep at *
  generalize sweep (swept.wheel.buckets 0 ((turned swept.wheel.lastTick 0 + 1) % BUCKETS))
    begunSweep = done at *
  generalize done.wheel.setBucket 0 ((turned swept.wheel.lastTick 0 + 1) % BUCKETS) [] = rested
    at *
  rw [turned_zero] at fires ⊢
  have wraps := wraps_iff every
  rw [turned_zero] at wraps
  split
  · rename_i wrapped
    have settled' : Wound due (fun slot fireAtNs => due slot 0
        (turned swept.wheel.lastTick 0 + 1) fireAtNs) rested (turning rested.lastTick 1) [] left := by
      rw [drainedTick]
      exact settled
    have cascaded := @cascade_wound _ _ held' rested left cascades (LEVELS - 1) 1 rfl Nat.one_pos
      (drainedTick ▸ positive) (drainedTick ▸ wraps.mp wrapped) settled'
    rw [drainedTick] at cascaded
    exact ⟨cascaded.1, cascaded.2, fires⟩
  · rename_i still
    refine ⟨⟨left, settled.empty_hand.congr_turns fun other _ => ?_⟩, drainedTick, fires⟩
    rw [turning]
    split
    · rfl
    · exact (turned_of_not_dvd positive (fun turns => still (wraps.mpr turns)) (by omega)).symm

theorem ticks_wound (cascades : Cascades due) (count : ℕ) {swept : Swept}
    (wound : Wound due held swept.wheel (turned swept.wheel.lastTick) [] home) :
    (∃ home', Wound due held (ticks count swept).wheel (turned (swept.wheel.lastTick + count)) []
        home') ∧
      (ticks count swept).wheel.lastTick = swept.wheel.lastTick + count ∧
      ∀ item ∈ (ticks count swept).fired, item ∈ swept.fired ∨
        ∃ tick, swept.wheel.lastTick < tick ∧ tick ≤ swept.wheel.lastTick + count ∧
          due item.1.slot 0 tick item.2.fireAtNs := by
  induction count generalizing swept home with
  | zero => exact ⟨⟨home, wound⟩, rfl, fun item fired => .inl fired⟩
  | succ count ih =>
      rcases @tick_wound _ _ held _ cascades _ wound with ⟨⟨next, ticked⟩, lastTick, fires⟩
      rw [← lastTick] at ticked
      rcases ih ticked with ⟨settled, lastTick', later⟩
      rw [lastTick, Nat.add_right_comm] at settled lastTick'
      refine ⟨settled, lastTick', fun item fired => ?_⟩
      rcases later item fired with early | ⟨at_, after, within, promised⟩
      · rcases fires item early with before | promised
        · exact .inl before
        · exact .inr ⟨swept.wheel.lastTick + 1, by omega, by omega, promised⟩
      · exact .inr ⟨at_, by omega, by omega, promised⟩

/-- The bookings of a wheel between two calls. -/
def Settled (due : Booking) (wheel : TimerWheel) : Prop :=
  ∃ home, Wound due (fun _ _ => True) wheel (turned wheel.lastTick) [] home

theorem Settled.advance (settled : Settled due wheel) (cascades : Cascades due) (nowNs : ℕ) :
    Settled due (wheel.advance nowNs).wheel ∧
      (wheel.advance nowNs).wheel.lastTick =
        wheel.lastTick + min (nowNs / TICK_NS - wheel.lastTick) (BUCKETS * LEVELS) ∧
      ∀ item ∈ (wheel.advance nowNs).fired, ∃ tick, wheel.lastTick < tick ∧
        tick ≤ nowNs / TICK_NS ∧ due item.1.slot 0 tick item.2.fireAtNs := by
  rcases settled with ⟨home, wound⟩
  dsimp only [TimerWheel.advance]
  split
  · rename_i ahead
    refine ⟨⟨home, wound⟩, ?_, fun item fired => ?_⟩
    · rw [Nat.sub_eq_zero_of_le ahead, Nat.zero_min]
      rfl
    · cases fired
  · rename_i behind
    have moved := @ticks_wound _ _ _ cascades
      (min (nowNs / TICK_NS - wheel.lastTick) (BUCKETS * LEVELS)) ⟨wheel, []⟩ wound
    rcases moved with ⟨⟨next, ticked⟩, lastTick, fires⟩
    have within : wheel.lastTick + min (nowNs / TICK_NS - wheel.lastTick) (BUCKETS * LEVELS) ≤
        nowNs / TICK_NS := by omega
    refine ⟨⟨next, ?_⟩, lastTick, fun item fired => ?_⟩
    · rw [lastTick]
      exact ticked
    · rcases fires item fired with early | ⟨tick, later, soon, promised⟩
      · cases early
      · exact ⟨tick, later, Nat.le_trans soon within, promised⟩

end TimerWheel

end DpdkTcp
