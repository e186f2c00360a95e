import DpdkTcp.Timers.Runs

/-!
# When timers fire

`add` measures the delay from the clock of its caller and places the timer from the
cursors. A timer on a higher level is placed again from the tick of the wheel when
it cascades down, so that only one put on level zero straight away can fire early: where
the wheel is behind the clock, it fires as much too early. Where the wheel
is at the clock whenever a timer is added, every timer fires at most one tick late.
-/

namespace DpdkTcp

/-- The tick after which a timer is late. -/
def AddedTimer.lastTurn (timer : AddedTimer) : ℕ :=
  max (timer.node.fireAtNs / TICK_NS) timer.tick + 1

namespace WheelRun

open TimerWheel

variable {run : WheelRun}

/-- The clock does not go back. -/
def forward (run : WheelRun) : WheelOp → Bool
  | .add nowNs _ | .advance nowNs => run.clock ≤ nowNs
  | .cancel _ => true

/-! ### Never early -/

/-- A timer that is due within two ticks, or starts on a higher level, or is not due before the
wheel has done its delay by more than one tick. -/
def addsInTime (run : WheelRun) (nowNs fireAtNs : ℕ) : Bool :=
  decide (fireAtNs < nowNs + 2 * TICK_NS) ||
    decide (BUCKETS ≤ (fireAtNs - nowNs) / TICK_NS) ||
    decide (fireAtNs / TICK_NS ≤ run.wheel.lastTick + (fireAtNs - nowNs) / TICK_NS + 1)

/-- On level zero a timer is not early at its turn, at any time from `clock` on. -/
def unhurried (clock : ℕ) : Booking :=
  fun _ level turn fireAtNs => level = 0 →
    ∀ nowNs, clock ≤ nowNs → turn ≤ nowNs / TICK_NS → fireAtNs < nowNs + 2 * TICK_NS

theorem unhurried_mono {clock later slot level turn fireAtNs : ℕ} (onward : clock ≤ later)
    (promised : unhurried clock slot level turn fireAtNs) :
    unhurried later slot level turn fireAtNs :=
  fun bottom nowNs after => promised bottom nowNs (Nat.le_trans onward after)

/-- A cascade places a timer from the tick of the wheel. -/
theorem unhurried_cascades (clock : ℕ) : Cascades (unhurried clock) := by
  intro slot level turn fireAtNs _ _ tick base _ _ onTick bottom nowNs _ due
  have placement : Placement ((fireAtNs - tick * TICK_NS) / TICK_NS)
      (placeAt (tick * TICK_NS) fireAtNs) := levelAndBucketOffset_placement _
  have near := (placement.near bottom).2
  rw [delay_of_tick] at near
  rw [onTick bottom, near] at due
  unfold TICK_NS at due ⊢
  omega

/-- What is added in time keeps to the promise. -/
theorem unhurried_of_addsInTime {nowNs fireAtNs : ℕ} (slot : ℕ)
    (inTime : run.addsInTime nowNs fireAtNs = true) :
    unhurried nowNs slot (placeAt nowNs fireAtNs).1
      (turned run.wheel.lastTick (placeAt nowNs fireAtNs).1 + (placeAt nowNs fireAtNs).2)
      fireAtNs := by
  intro bottom later onward due
  have placement : Placement ((fireAtNs - nowNs) / TICK_NS) (placeAt nowNs fireAtNs) :=
    levelAndBucketOffset_placement _
  rcases placement.near bottom with ⟨near, offset⟩
  rw [bottom, turned_zero, offset] at due
  simp only [addsInTime, Bool.or_eq_true, decide_eq_true_eq] at inTime
  rcases inTime with (soon | far) | aligned
  · omega
  · omega
  · unfold TICK_NS at aligned due ⊢
    omega

/-- No timer in the wheel can fire early. -/
structure Unhurried (run : WheelRun) : Prop where
  kept : run.Kept
  settled : Settled (unhurried run.clock) run.wheel

theorem unhurried_start : start.Unhurried :=
  ⟨kept_start, _, (Wound.start _ _).congr_turns fun _ _ => Nat.zero_div _⟩

/-- The clock and the delay of an `add` fit the wheel. -/
def addsFit (run : WheelRun) : WheelOp → Bool
  | .add nowNs node => run.addsInTime nowNs node.fireAtNs
  | _ => true

theorem Unhurried.step (before : run.Unhurried) {op : WheelOp} (forward : run.forward op = true)
    (fits : run.addsFit op = true) : (run.step op).Unhurried := by
  refine ⟨before.kept.step op, ?_⟩
  rcases before.settled with ⟨home, wound⟩
  cases op with
  | add nowNs node =>
      have onward : run.clock ≤ nowNs := of_decide_eq_true forward
      have later := wound.mono fun slot level turn fireAtNs _ promised =>
        unhurried_mono onward promised
      rcases later.add before.kept.counted.sound nowNs node
        (unhurried_of_addsInTime _ fits) with ⟨home', added⟩
      refine ⟨home', ?_⟩
      dsimp only [WheelRun.step]
      rw [(add_frame run.wheel nowNs node).2.1]
      exact added
  | cancel id =>
      refine ⟨home, ?_⟩
      have lastTick : (run.wheel.cancel id).lastTick = run.wheel.lastTick := by
        rw [cancel_slots]
      dsimp only [WheelRun.step]
      rw [lastTick]
      exact wound.cancel id
  | advance nowNs =>
      have onward : run.clock ≤ nowNs := of_decide_eq_true forward
      have later : Settled (unhurried nowNs) run.wheel :=
        ⟨home, wound.mono fun slot level turn fireAtNs _ promised =>
          unhurried_mono onward promised⟩
      exact (later.advance (unhurried_cascades nowNs) nowNs).1

/-- The timers that the next `advance` returns are not early. -/
def NextOnTime (run : WheelRun) : Prop :=
  ∀ nowNs, run.clock ≤ nowNs → ∀ item ∈ (run.wheel.advance nowNs).fired,
    item.2.fireAtNs < nowNs + 2 * TICK_NS

theorem Unhurried.nextOnTime (unhurried : run.Unhurried) : run.NextOnTime := by
  intro nowNs onward item fired
  rcases (unhurried.settled.advance (unhurried_cascades run.clock) nowNs).2.2 item fired with
    ⟨tick, _, within, promised⟩
  exact promised rfl nowNs onward within

/-- A timer on level zero is returned by the call that reaches its turn. -/
theorem fired_of_placed (kept : run.Kept) {nowNs later : ℕ} {node : TimerNode}
    (near : (node.fireAtNs - nowNs) / TICK_NS < BUCKETS)
    (reached : run.wheel.lastTick + max 1 ((node.fireAtNs - nowNs) / TICK_NS) ≤ later / TICK_NS) :
    ((run.wheel.add nowNs node).2,
        ({ node with
          generation := (run.wheel.add nowNs node).2.generation
          cancelled := false } : TimerNode)) ∈
      ((run.wheel.add nowNs node).1.advance later).fired := by
  have adds := (kept.counted.sound.add nowNs node).2
  have lastTick := (add_frame run.wheel nowNs node).2.1
  have placement : Placement ((node.fireAtNs - nowNs) / TICK_NS)
      (placeAt nowNs node.fireAtNs) := levelAndBucketOffset_placement _
  have bottom : (placeAt nowNs node.fireAtNs).1 = 0 := by
    by_contra above
    have far := placement.far (Nat.pos_of_ne_zero above)
    omega
  have offset := (placement.near bottom).2
  generalize delayEq : (node.fireAtNs - nowNs) / TICK_NS = delay at *
  -- the slot is booked for one turn of level zero, and no other slot for anything
  let due : Booking := fun slot level turn _ => slot = (run.wheel.add nowNs node).2.slot →
    level = 0 ∧ turn = run.wheel.lastTick + max 1 delay
  have cascades : Cascades due := by
    intro slot level turn fireAtNs above promised tick base _ _ _ own
    exact absurd (promised own).1 (Nat.ne_of_gt above)
  have settled : Settled due (run.wheel.add nowNs node).1 := by
    rcases kept.settled with ⟨home, wound⟩
    have others : Wound due (fun _ _ => True) run.wheel (turned run.wheel.lastTick) [] home :=
      wound.mono fun slot level turn fireAtNs occupied _ own =>
        absurd (own ▸ adds.vacant) occupied
    have promised : due (run.wheel.add nowNs node).2.slot (placeAt nowNs node.fireAtNs).1
        (turned run.wheel.lastTick (placeAt nowNs node.fireAtNs).1 +
          (placeAt nowNs node.fireAtNs).2) node.fireAtNs := by
      intro _
      rw [bottom, turned_zero, offset]
      exact ⟨rfl, rfl⟩
    rcases others.add kept.counted.sound nowNs node promised with ⟨home', added⟩
    rw [← lastTick] at added
    exact ⟨home', added⟩
  rcases settled.advance cascades later with ⟨⟨home, wound⟩, moved, _⟩
  have sheds := (run.wheel.add nowNs node).1.advance_sheds later
  have held := adds.nodes (run.wheel.add nowNs node).2.slot
  rw [if_pos rfl] at held
  rcases sheds.keeps _ _ held rfl with stays | fired
  · rcases (wound.occupied _).mp (by rw [stays]; exact nofun) with ⟨place, here, listed⟩
    cases place with
    | free => exact absurd rfl listed
    | hand =>
        have member := (wound.housed.mem_iff .hand _).mpr here
        cases member
    | bucket level index =>
        rcases wound.booked _ _ level index stays here with ⟨_, turn, ahead, _, _, promised⟩
        rcases promised rfl with ⟨rfl, rfl⟩
        rw [turned_zero, moved, lastTick] at ahead
        have wide : BUCKETS * LEVELS = 2048 := rfl
        have round : BUCKETS = 256 := rfl
        omega
  · exact fired

/-- An `add` that does not fit can be followed by a call that returns its timer early. -/
theorem early_of_not_addsInTime (kept : run.Kept) {nowNs : ℕ} {node : TimerNode}
    (hurried : run.addsInTime nowNs node.fireAtNs = false) :
    ∃ later, nowNs ≤ later ∧ ∃ item ∈ ((run.wheel.add nowNs node).1.advance later).fired,
      later + 2 * TICK_NS ≤ item.2.fireAtNs := by
  simp only [addsInTime, Bool.or_eq_false_iff, decide_eq_false_iff_not] at hurried
  rcases hurried with ⟨⟨late, near⟩, misaligned⟩
  have reached : run.wheel.lastTick + max 1 ((node.fireAtNs - nowNs) / TICK_NS) ≤
      max nowNs ((run.wheel.lastTick + (node.fireAtNs - nowNs) / TICK_NS) * TICK_NS) /
        TICK_NS := by
    unfold TICK_NS at *
    omega
  refine ⟨max nowNs ((run.wheel.lastTick + (node.fireAtNs - nowNs) / TICK_NS) * TICK_NS),
    Nat.le_max_left _ _, _, fired_of_placed kept (Nat.lt_of_not_le near) reached, ?_⟩
  dsimp only
  unfold TICK_NS at *
  omega

/-- If the clock does not go back and every `add` fits the wheel, no timer fires early. After an
`add` that does not fit, the next call may return its timer early. -/
theorem never_early_iff (run : WheelRun) :
    (Run.Reaches step (fun run op => run.forward op = true ∧ run.addsFit op = true) start run →
      run.NextOnTime) ∧
    (Run.Reaches step (fun run op => run.forward op = true) start run →
      ∀ nowNs node, run.clock ≤ nowNs → run.addsFit (.add nowNs node) = false →
        ¬ (run.step (.add nowNs node)).NextOnTime) := by
  constructor
  · intro reached
    have unhurried : run.Unhurried := reached.invariant unhurried_start
      fun _ _ before taken => before.step taken.1 taken.2
    exact unhurried.nextOnTime
  · intro reached nowNs node _ hurried onTime
    rcases early_of_not_addsInTime (kept_of_reached reached) hurried with
      ⟨later, onward, item, fired, early⟩
    exact absurd (onTime later onward item fired) (Nat.not_lt.mpr early)

/-- The wheel is at tick zero and the clock 60 ticks further: a timer due at once and one for a
higher level are added. -/
def lagging : List WheelOp :=
  [.add 500000 (plainTimer 510000), .add 600000 (plainTimer 3200000)]

/-- Both timers are returned in time. One that is due 20 ticks after the clock would be returned
early. -/
theorem never_early_iff_lagging :
    (lagging.foldl step start).NextOnTime ∧
      ¬ ((lagging.foldl step start).step (.add 600000 (plainTimer 800000))).NextOnTime ∧
      (((lagging.foldl step start).wheel.advance 3200000).fired.map fun item =>
        item.2.fireAtNs) = [510000, 3200000] := by
  have admitted : Run.admits step (fun run op => run.forward op && run.addsFit op) start lagging =
      true := by decide +kernel
  have fitting := (Run.Reaches.of_admits admitted).mono fun _ _ both =>
    Bool.and_eq_true_iff.mp both
  have forward : Run.Reaches step (fun run op => run.forward op = true) start
      (lagging.foldl step start) := fitting.mono fun _ _ both => both.1
  exact ⟨(never_early_iff _).1 fitting,
    (never_early_iff _).2 forward 600000 _ (by decide +kernel) (by decide +kernel),
    by decide +kernel⟩

/-- The wheel is at tick zero and the clock half a millisecond further. -/
theorem early_behind_the_clock :
    ¬ ∀ run, Run.Reaches step (fun run op => run.forward op = true) start run → run.NextOnTime := by
  intro onTime
  have admitted : Run.admits step forward start [.add 500000 (plainTimer 800000)] = true := by
    decide +kernel
  have early := onTime _ (.of_admits admitted) 500000 (by decide +kernel)
    (⟨0, 0#32⟩, plainTimer 800000) (by decide +kernel)
  exact absurd early (by decide)

/-! ### Never late -/

/-- The wheel is at the clock when a timer is added, and the deadline fits its type. -/
def addsOnTick (run : WheelRun) : WheelOp → Bool
  | .add nowNs node =>
      decide (nowNs / TICK_NS = run.wheel.lastTick) && decide (node.fireAtNs < 2 ^ 64)
  | _ => true

/-- A waiting timer is booked for a turn that is soon enough: on a higher level one that comes
before its deadline. -/
def soonEnough (waiting : List AddedTimer) : Booking :=
  fun slot level turn fireAtNs => ∀ timer ∈ waiting, timer.id.slot = slot →
    fireAtNs < 2 ^ 64 ∧ (level = 0 → turn ≤ max (fireAtNs / TICK_NS) timer.tick + 1) ∧
      (0 < level → turn * BUCKETS ^ level ≤ fireAtNs / TICK_NS)

/-- From a tick on, an offset does not lead past the deadline. -/
theorem turn_of_placement {nowNs fireAtNs base tick : ℕ} (onTick : nowNs / TICK_NS = tick)
    (fits : fireAtNs < 2 ^ 64) (above : 0 < (placeAt nowNs fireAtNs).1)
    (begun : base * BUCKETS ^ (placeAt nowNs fireAtNs).1 ≤ tick) :
    (base + (placeAt nowNs fireAtNs).2) * BUCKETS ^ (placeAt nowNs fireAtNs).1 ≤
      fireAtNs / TICK_NS := by
  have placement : Placement ((fireAtNs - nowNs) / TICK_NS) (placeAt nowNs fireAtNs) :=
    levelAndBucketOffset_placement _
  have positive : BUCKETS ≤ (fireAtNs - nowNs) / TICK_NS := placement.far above
  have short : (fireAtNs - nowNs) / TICK_NS < 2 ^ 64 := by
    unfold TICK_NS
    omega
  have within := placement.within above short
  have delay : tick + (fireAtNs - nowNs) / TICK_NS ≤ fireAtNs / TICK_NS := by
    unfold TICK_NS BUCKETS at *
    omega
  rw [Nat.add_mul]
  omega

/-- On level zero it leads at most one tick past. -/
theorem turn_of_near {nowNs fireAtNs tick : ℕ} (onTick : nowNs / TICK_NS = tick)
    (bottom : (placeAt nowNs fireAtNs).1 = 0) :
    tick + (placeAt nowNs fireAtNs).2 ≤ max (fireAtNs / TICK_NS) tick + 1 := by
  have placement : Placement ((fireAtNs - nowNs) / TICK_NS) (placeAt nowNs fireAtNs) :=
    levelAndBucketOffset_placement _
  rw [(placement.near bottom).2]
  unfold TICK_NS at *
  omega

theorem soonEnough_cascades (waiting : List AddedTimer) : Cascades (soonEnough waiting) := by
  intro slot level turn fireAtNs above promised tick base isTick begun onTick timer waits same
  rcases promised timer waits same with ⟨fits, _, soon⟩
  have before : tick ≤ fireAtNs / TICK_NS := isTick ▸ soon above
  have atTick : tick * TICK_NS / TICK_NS = tick := Nat.mul_div_cancel tick (by decide)
  refine ⟨fits, fun bottom => ?_, fun higher => turn_of_placement atTick fits higher begun⟩
  have turns := turn_of_near atTick bottom
  rw [onTick bottom]
  omega

/-- Every waiting timer is in its slot and booked soon enough, and no timer that was added
is forgotten. -/
structure OnTime (run : WheelRun) : Prop where
  kept : run.Kept
  settled : Settled (soonEnough run.waiting) run.wheel
  held : ∀ timer ∈ run.waiting, run.wheel.nodeAt timer.id.slot = some timer.occupant
  told : ∀ timer ∈ run.added, timer ∈ run.waiting ∨ timer.id ∈ run.cancelled ∨
    (timer.id, timer.occupant) ∈ run.fired

theorem onTime_start : start.OnTime :=
  ⟨kept_start, ⟨_, (Wound.start _ _).congr_turns fun _ _ => Nat.zero_div _⟩, nofun, nofun⟩

theorem soonEnough_filter {waiting : List AddedTimer} (keep : AddedTimer → Bool) {home}
    {wheel : TimerWheel} {held : ℕ → ℕ → Prop} {turns : ℕ → ℕ} {hand : List ℕ}
    (wound : Wound (soonEnough waiting) held wheel turns hand home) :
    Wound (soonEnough (waiting.filter keep)) held wheel turns hand home :=
  wound.mono fun _ _ _ _ _ promised timer waits =>
    promised timer (List.mem_filter.mp waits).1

theorem OnTime.add (before : run.OnTime) {nowNs : ℕ} {node : TimerNode}
    (onTick : nowNs / TICK_NS = run.wheel.lastTick) (fits : node.fireAtNs < 2 ^ 64) :
    (run.step (.add nowNs node)).OnTime := by
  have adds := (before.kept.counted.sound.add nowNs node).2
  have elsewhere : ∀ timer ∈ run.waiting, timer.id.slot ≠ (run.wheel.add nowNs node).2.slot := by
    intro timer waits same
    have held := before.held timer waits
    rw [same, adds.vacant] at held
    cases held
  refine ⟨before.kept.step _, ?_, ?_, ?_⟩
  · rcases before.settled with ⟨home, wound⟩
    have grown : Wound (soonEnough (run.step (.add nowNs node)).waiting) (fun _ _ => True)
        run.wheel (turned run.wheel.lastTick) [] home := by
      refine wound.mono fun slot level turn fireAtNs occupied promised timer waits same => ?_
      rcases List.mem_append.mp waits with old | new
      · exact promised timer old same
      · rcases List.mem_singleton.mp new with rfl
        exact absurd (same ▸ adds.vacant) occupied
    have promised : soonEnough (run.step (.add nowNs node)).waiting
        (run.wheel.add nowNs node).2.slot (placeAt nowNs node.fireAtNs).1
        (turned run.wheel.lastTick (placeAt nowNs node.fireAtNs).1 +
          (placeAt nowNs node.fireAtNs).2) node.fireAtNs := by
      intro timer waits same
      rcases List.mem_append.mp waits with old | new
      · exact absurd same (elsewhere timer old)
      · rcases List.mem_singleton.mp new with rfl
        refine ⟨fits, fun bottom => ?_, fun above => ?_⟩
        · rw [bottom, turned_zero]
          exact turn_of_near onTick bottom
        · exact turn_of_placement onTick fits above (Nat.div_mul_le_self _ _)
    rcases grown.add before.kept.counted.sound nowNs node promised with ⟨home', added⟩
    rw [← (add_frame run.wheel nowNs node).2.1] at added
    exact ⟨home', added⟩
  · intro timer waits
    refine (adds.nodes timer.id.slot).trans ?_
    rcases List.mem_append.mp waits with old | new
    · rw [if_neg (elsewhere timer old)]
      exact before.held timer old
    · rcases List.mem_singleton.mp new with rfl
      exact if_pos rfl
  · intro timer isAdded
    rcases List.mem_append.mp isAdded with old | new
    · rcases before.told timer old with waits | ended
      · exact .inl (List.mem_append_left _ waits)
      · exact .inr ended
    · exact .inl (List.mem_append_right _ new)

theorem OnTime.cancel (before : run.OnTime) (id : TimerId) : (run.step (.cancel id)).OnTime := by
  have nodes := nodeAt_cancel run.wheel id
  by_cases live : run.wheel.isLive id = true
  · have step : run.step (.cancel id) =
        { run with
          wheel := run.wheel.cancel id
          waiting := run.waiting.filter fun timer => timer.id ≠ id
          cancelled := run.cancelled ++ [id] } := by
      dsimp only [WheelRun.step]
      rw [if_pos live, if_pos live]
    have kept := before.kept.step (.cancel id)
    rw [step] at kept ⊢
    refine ⟨kept, ?_, ?_, ?_⟩
    · rcases before.settled with ⟨home, wound⟩
      have lastTick : (run.wheel.cancel id).lastTick = run.wheel.lastTick := by
        rw [cancel_slots]
      refine ⟨home, ?_⟩
      dsimp only
      rw [lastTick]
      exact (soonEnough_filter _ wound).cancel id
    · intro timer waits
      rcases List.mem_filter.mp waits with ⟨old, other⟩
      have held := before.held timer old
      refine (nodes timer.id.slot).trans ?_
      rw [held, Option.map_some]
      unfold marked
      rw [if_neg]
      rintro ⟨slot, generation⟩
      refine of_decide_eq_true other ?_
      exact congrArg₂ TimerId.mk slot generation
    · intro timer isAdded
      rcases before.told timer isAdded with waits | cancelled | fired
      · by_cases same : timer.id = id
        · exact .inr (.inl (List.mem_append_right _ (List.mem_singleton.mpr same)))
        · exact .inl (List.mem_filter.mpr ⟨waits, decide_eq_true same⟩)
      · exact .inr (.inl (List.mem_append_left _ cancelled))
      · exact .inr (.inr fired)
  · have dead : run.wheel.isLive id = false := Bool.eq_false_iff.mpr live
    have step : run.step (.cancel id) = run := by
      dsimp only [WheelRun.step]
      rw [if_neg live, if_neg live, cancel_of_dead dead]
    rw [step]
    exact before

theorem OnTime.advance (before : run.OnTime) (nowNs : ℕ) :
    (run.step (.advance nowNs)).OnTime := by
  have sheds := run.wheel.advance_sheds nowNs
  refine ⟨before.kept.step _, ?_, ?_, ?_⟩
  · have advanced := (before.settled.advance (soonEnough_cascades run.waiting) nowNs).1
    rcases advanced with ⟨home, wound⟩
    exact ⟨home, soonEnough_filter _ wound⟩
  · intro timer waits
    rcases List.mem_filter.mp waits with ⟨old, kept⟩
    rcases sheds.keeps _ _ (before.held timer old) rfl with stays | fired
    · exact stays
    · exact absurd fired (of_decide_eq_true kept)
  · intro timer isAdded
    rcases before.told timer isAdded with waits | cancelled | fired
    · by_cases now : (timer.id, timer.occupant) ∈ (run.wheel.advance nowNs).fired
      · exact .inr (.inr (List.mem_append_right _ now))
      · exact .inl (List.mem_filter.mpr ⟨waits, decide_eq_true now⟩)
    · exact .inr (.inl cancelled)
    · exact .inr (.inr (List.mem_append_left _ fired))

theorem OnTime.step (before : run.OnTime) {op : WheelOp} (onTick : run.addsOnTick op = true) :
    (run.step op).OnTime := by
  cases op with
  | add nowNs node =>
      rcases Bool.and_eq_true_iff.mp onTick with ⟨atTick, fits⟩
      exact before.add (of_decide_eq_true atTick) (of_decide_eq_true fits)
  | cancel id => exact before.cancel id
  | advance nowNs => exact before.advance nowNs

/-- A timer that waits is not late. -/
theorem OnTime.not_late (before : run.OnTime) {timer : AddedTimer} (waits : timer ∈ run.waiting) :
    run.wheel.lastTick < timer.lastTurn := by
  have held := before.held timer waits
  rcases before.settled with ⟨home, wound⟩
  rcases (wound.occupied timer.id.slot).mp (by rw [held]; exact nofun) with ⟨place, here, listed⟩
  cases place with
  | free => exact absurd rfl listed
  | hand =>
      have member := (wound.housed.mem_iff .hand _).mpr here
      cases member
  | bucket level index =>
      rcases (wound.booked _ _ level index held here).turn with ⟨turn, ahead, _, _, promised⟩
      rcases promised timer waits rfl with ⟨_, bottom, higher⟩
      have same : timer.occupant.fireAtNs = timer.node.fireAtNs := rfl
      rw [same] at bottom higher
      unfold AddedTimer.lastTurn
      rcases Nat.eq_zero_or_pos level with rfl | above
      · rw [turned_zero] at ahead
        exact Nat.lt_of_lt_of_le ahead (bottom rfl)
      · have due := higher above
        have passed : run.wheel.lastTick < turn * BUCKETS ^ level :=
          (Nat.div_lt_iff_lt_mul (Nat.pow_pos (by decide))).mp ahead
        omega

/-- If the wheel is at the clock whenever a timer is added, a timer that was not
cancelled has fired when the wheel is a tick past its deadline. -/
theorem never_late {run : WheelRun}
    (reached : Run.Reaches step (fun run op => run.addsOnTick op = true) start run) :
    ∀ timer ∈ run.added, timer.id ∉ run.cancelled → timer.lastTurn ≤ run.wheel.lastTick →
      timer ∉ run.waiting ∧ (timer.id, timer.occupant) ∈ run.fired := by
  have onTime : run.OnTime := reached.invariant onTime_start fun _ _ before taken =>
    before.step taken
  intro timer isAdded kept reachedTurn
  have ended : timer ∉ run.waiting := fun waits =>
    absurd reachedTurn (Nat.not_le.mpr (onTime.not_late waits))
  rcases onTime.told timer isAdded with waits | cancelled | fired
  · exact absurd waits ended
  · exact absurd cancelled kept
  · exact ⟨ended, fired⟩

/-- A timer that cascades down once. -/
def secondLevel : List WheelOp :=
  [.add 5000 (plainTimer 3009999), .advance 2999999, .advance 3020000]

theorem never_late_second_level :
    (⟨0, 0#32⟩, plainTimer 3009999) ∈ (secondLevel.foldl step start).fired :=
  (never_late (.of_admits (by decide +kernel : Run.admits step addsOnTick start secondLevel = true))
    ⟨⟨0, 0#32⟩, plainTimer 3009999, 0⟩ (by decide +kernel) (by decide +kernel)
    (by decide +kernel)).2

end WheelRun

end DpdkTcp
