import DpdkTcp.Lib.Smoothing
import DpdkTcp.Model.Config
import DpdkTcp.Send.Step

/-!
# The retransmission timeout

`RttEstimator` smooths its samples with truncating divisions. Its values stay
within the samples it has seen, so nothing wraps, and the bounds of the engine
hold of every timeout, and of the first one only if the configured initial value
does not exceed the configured maximum. `Engine::new` does not ask for that; the
debug assertions of `RttEstimator::new` do.
-/

namespace DpdkTcp

/-- What happens to an estimator. -/
inductive RttEvent where
  | sample (rttUs : ℕ)
  | backoff
deriving DecidableEq, Repr

/-- Samples are below 60 s. -/
def MAX_SAMPLE_US : ℕ := 60000000

/-- A sample short enough to be taken. -/
def RttEvent.believable : RttEvent → Bool
  | .sample rttUs => rttUs < MAX_SAMPLE_US
  | .backoff => true

/-- The samples of some events as they count: a sample of zero counts as one microsecond. -/
def samplesSeen (events : List RttEvent) : List ℕ :=
  events.filterMap fun
    | .sample rttUs => some (max rttUs 1)
    | .backoff => none

/-- A 32-bit subtraction that would panic below zero gives nothing. -/
def checkedSub32 (left right : ℕ) : Option ℕ :=
  if right ≤ left then some (left - right) else none

/-- A 32-bit addition that would wrap gives nothing. -/
def checkedAdd32 (left right : ℕ) : Option ℕ :=
  if left + right < 2 ^ 32 then some (left + right) else none

namespace RttEstimator

/-- What an event makes of the estimator. -/
def step (est : RttEstimator) : RttEvent → RttEstimator
  | .sample rttUs => est.sample rttUs
  | .backoff => est.applyBackoff

/-- `sample` with every operation checked, and with the panic of `clamp`. -/
def sampleChecked (est : RttEstimator) (rttUs : ℕ) : Option RttEstimator := do
  let rtt := max rttUs 1
  let srttVar ←
    match est.srttUs with
    | none => some (rtt, rtt / 2)
    | some srtt => do
        let delta := max srtt rtt - min srtt rtt
        let rttvarKept ← checkedSub32 est.rttvarUs (est.rttvarUs / 4)
        let rttvar ← checkedAdd32 rttvarKept (delta / 4)
        let srttKept ← checkedSub32 srtt (srtt / 8)
        let smoothed ← checkedAdd32 srttKept (rtt / 8)
        some (smoothed, rttvar)
  let rto := min (srttVar.1 + min (srttVar.2 * 4) U32_MAX) U32_MAX
  if est.minRtoUs ≤ est.maxRtoUs then
    some
      { est with
        srttUs := some srttVar.1
        rttvarUs := srttVar.2
        rtoUs := est.clampRto rto }
  else none

/-- What an estimator is to satisfy when it has seen some samples: the timeout lies within the
configured bounds, the smoothed time within the samples, the next sample neither wraps nor
panics, and a backoff does not lower the timeout. -/
structure Regular (cfg : EngineConfig) (seen : List ℕ) (est : RttEstimator) : Prop where
  low : cfg.tcpMinRtoUs ≤ est.rtoUs
  high : est.rtoUs ≤ cfg.tcpMaxRtoUs
  within : ∀ srtt, est.srttUs = some srtt →
    ∃ smallest ∈ seen, ∃ largest ∈ seen, smallest ≤ srtt ∧ srtt ≤ largest
  exactly : ∀ rttUs < MAX_SAMPLE_US, est.sampleChecked rttUs = some (est.sample rttUs)
  backsOff : est.rtoUs ≤ est.applyBackoff.rtoUs

/-- What carries over from event to event. -/
structure Tuned (cfg : EngineConfig) (seen : List ℕ) (est : RttEstimator) : Prop where
  minRto : est.minRtoUs = cfg.tcpMinRtoUs
  maxRto : est.maxRtoUs = cfg.tcpMaxRtoUs
  low : cfg.tcpMinRtoUs ≤ est.rtoUs
  high : est.rtoUs ≤ cfg.tcpMaxRtoUs
  within : ∀ srtt, est.srttUs = some srtt →
    ∃ smallest ∈ seen, ∃ largest ∈ seen, smallest ≤ srtt ∧ srtt ≤ largest
  believable : ∀ rtt ∈ seen, rtt < MAX_SAMPLE_US
  rttvar : est.rttvarUs < MAX_SAMPLE_US

variable {cfg : EngineConfig} {seen : List ℕ} {est : RttEstimator} {rttUs : ℕ}

theorem Tuned.srtt_lt (tuned : Tuned cfg seen est) {srtt : ℕ} (known : est.srttUs = some srtt) :
    srtt < MAX_SAMPLE_US := by
  rcases tuned.within srtt known with ⟨_, _, largest, member, _, below⟩
  exact Nat.lt_of_le_of_lt below (tuned.believable largest member)

/-- What `sample` computes, without the wrapping. -/
theorem Tuned.sample_eq (tuned : Tuned cfg seen est) (small : rttUs < MAX_SAMPLE_US)
    {srtt : ℕ} (known : est.srttUs = some srtt) :
    (est.sample rttUs).srttUs = some (Smoothing.smooth 8 srtt (max rttUs 1)) ∧
      (est.sample rttUs).rttvarUs =
        Smoothing.smooth 4 est.rttvarUs (max srtt (max rttUs 1) - min srtt (max rttUs 1)) := by
  have srtt_lt := tuned.srtt_lt known
  have rttvar := tuned.rttvar
  have counted : max rttUs 1 < MAX_SAMPLE_US := Nat.max_lt.mpr ⟨small, by decide⟩
  have smoothed : Smoothing.smooth 8 srtt (max rttUs 1) < MAX_SAMPLE_US :=
    Smoothing.smooth_lt srtt_lt counted
  have varied : Smoothing.smooth 4 est.rttvarUs (max srtt (max rttUs 1) - min srtt (max rttUs 1)) <
      MAX_SAMPLE_US :=
    Smoothing.smooth_lt rttvar
      (Nat.lt_of_le_of_lt (Nat.sub_le _ _) (Nat.max_lt.mpr ⟨srtt_lt, counted⟩))
  unfold MAX_SAMPLE_US at smoothed varied
  unfold sample
  rw [known]
  dsimp only
  unfold Smoothing.smooth at smoothed varied ⊢
  rw [Nat.mod_eq_of_lt (by omega), Nat.mod_eq_of_lt (by omega)]
  exact ⟨rfl, rfl⟩

theorem sample_eq_of_first (first : est.srttUs = none) (rttUs : ℕ) :
    (est.sample rttUs).srttUs = some (max rttUs 1) ∧
      (est.sample rttUs).rttvarUs = max rttUs 1 / 2 := by
  unfold sample
  rw [first]
  exact ⟨rfl, rfl⟩

theorem Tuned.new (accepted : cfg.tcpMinRtoUs ≤ cfg.tcpMaxRtoUs)
    (ordered : cfg.tcpInitialRtoUs ≤ cfg.tcpMaxRtoUs) :
    Tuned cfg [] (RttEstimator.new cfg.tcpMinRtoUs cfg.tcpInitialRtoUs cfg.tcpMaxRtoUs) where
  minRto := rfl
  maxRto := rfl
  low := Nat.le_max_right _ _
  high := Nat.max_le.mpr ⟨ordered, accepted⟩
  within := fun _ => nofun
  believable := fun _ => nofun
  rttvar := Nat.zero_lt_of_lt (Nat.lt_succ_self 59999999)

/-- A sample moves the smoothed time towards itself. -/
theorem Tuned.sample (tuned : Tuned cfg seen est) (accepted : cfg.tcpMinRtoUs ≤ cfg.tcpMaxRtoUs)
    (small : rttUs < MAX_SAMPLE_US) : Tuned cfg (seen ++ [max rttUs 1]) (est.sample rttUs) := by
  have counted : max rttUs 1 < MAX_SAMPLE_US := Nat.max_lt.mpr ⟨small, by decide⟩
  have old : ∀ rtt ∈ seen, rtt ∈ seen ++ [max rttUs 1] :=
    fun rtt member => List.mem_append_left _ member
  have new : max rttUs 1 ∈ seen ++ [max rttUs 1] :=
    List.mem_append_right _ (List.mem_singleton.mpr rfl)
  have believable : ∀ rtt ∈ seen ++ [max rttUs 1], rtt < MAX_SAMPLE_US := by
    intro rtt member
    rcases List.mem_append.mp member with before | now
    · exact tuned.believable rtt before
    · rw [List.mem_singleton.mp now]
      exact counted
  have clamped : ∀ rto, cfg.tcpMinRtoUs ≤ est.clampRto rto ∧ est.clampRto rto ≤ cfg.tcpMaxRtoUs := by
    intro rto
    unfold clampRto
    rw [tuned.minRto, tuned.maxRto]
    exact ⟨Nat.le_max_left _ _, Nat.max_le.mpr ⟨accepted, Nat.min_le_right _ _⟩⟩
  cases known : est.srttUs with
  | none =>
      rcases sample_eq_of_first known rttUs with ⟨srttUs, rttvarUs⟩
      refine ⟨tuned.minRto, tuned.maxRto, (clamped _).1, (clamped _).2, ?_, believable, ?_⟩
      · intro srtt seeded
        rw [srttUs] at seeded
        cases seeded
        exact ⟨_, new, _, new, Nat.le_refl _, Nat.le_refl _⟩
      · rw [rttvarUs]
        exact Nat.lt_of_le_of_lt (Nat.div_le_self _ _) counted
  | some srtt =>
      rcases tuned.sample_eq small known with ⟨srttUs, rttvarUs⟩
      refine ⟨tuned.minRto, tuned.maxRto, (clamped _).1, (clamped _).2, ?_, believable, ?_⟩
      · intro moved smoothed
        rw [srttUs] at smoothed
        cases smoothed
        rcases tuned.within srtt known with ⟨smallest, isSeen, largest, isSeen', above, below⟩
        rcases Nat.le_total srtt (max rttUs 1) with up | down
        · exact ⟨smallest, old _ isSeen, _, new, above.trans (Smoothing.smooth_up up).1,
            (Smoothing.smooth_up up).2⟩
        · exact ⟨_, new, largest, old _ isSeen', (Smoothing.smooth_down down).1,
            (Smoothing.smooth_down down).2.trans below⟩
      · rw [rttvarUs]
        exact Smoothing.smooth_lt tuned.rttvar (Nat.lt_of_le_of_lt (Nat.sub_le _ _)
          (Nat.max_lt.mpr ⟨tuned.srtt_lt known, counted⟩))

theorem Tuned.applyBackoff_le (tuned : Tuned cfg seen est) (width : cfg.tcpMaxRtoUs < 2 ^ 32) :
    est.rtoUs ≤ est.applyBackoff.rtoUs := by
  have high := tuned.high
  have maxRto := tuned.maxRto
  unfold applyBackoff
  dsimp only
  unfold U32_MAX
  omega

theorem Tuned.backoff (tuned : Tuned cfg seen est) (width : cfg.tcpMaxRtoUs < 2 ^ 32) :
    Tuned cfg seen est.applyBackoff where
  minRto := tuned.minRto
  maxRto := tuned.maxRto
  low := tuned.low.trans (tuned.applyBackoff_le width)
  high := by
    rw [← tuned.maxRto]
    exact Nat.min_le_right _ _
  within := tuned.within
  believable := tuned.believable
  rttvar := tuned.rttvar

/-- One event. -/
theorem Tuned.step (tuned : Tuned cfg seen est) (accepted : cfg.tcpMinRtoUs ≤ cfg.tcpMaxRtoUs)
    (width : cfg.tcpMaxRtoUs < 2 ^ 32) {event : RttEvent} (believable : event.believable = true) :
    Tuned cfg (seen ++ samplesSeen [event]) (est.step event) := by
  cases event with
  | sample rttUs => exact tuned.sample accepted (of_decide_eq_true believable)
  | backoff =>
      have none : samplesSeen [.backoff] = [] := rfl
      rw [none, List.append_nil]
      exact tuned.backoff width

/-- Any number of events. -/
theorem Tuned.run (accepted : cfg.tcpMinRtoUs ≤ cfg.tcpMaxRtoUs)
    (width : cfg.tcpMaxRtoUs < 2 ^ 32) {events : List RttEvent}
    (believable : ∀ event ∈ events, event.believable = true) (tuned : Tuned cfg seen est) :
    Tuned cfg (seen ++ samplesSeen events) (events.foldl RttEstimator.step est) := by
  induction events generalizing seen est with
  | nil =>
      have none : samplesSeen [] = [] := rfl
      rw [none, List.append_nil]
      exact tuned
  | cons event rest ih =>
      have first := tuned.step accepted width (believable event List.mem_cons_self)
      have later := ih (fun other member => believable other (List.mem_cons_of_mem event member))
        first
      have joined : samplesSeen ([event] ++ rest) = samplesSeen [event] ++ samplesSeen rest :=
        List.filterMap_append
      rw [List.singleton_append] at joined
      rw [joined, ← List.append_assoc]
      exact later

/-- Nothing wraps in the next sample, and `clamp` does not panic. -/
theorem Tuned.sampleChecked_eq (tuned : Tuned cfg seen est)
    (accepted : cfg.tcpMinRtoUs ≤ cfg.tcpMaxRtoUs) (small : rttUs < MAX_SAMPLE_US) :
    est.sampleChecked rttUs = some (est.sample rttUs) := by
  have ordered : est.minRtoUs ≤ est.maxRtoUs := by
    rw [tuned.minRto, tuned.maxRto]
    exact accepted
  have counted : max rttUs 1 < MAX_SAMPLE_US := Nat.max_lt.mpr ⟨small, by decide⟩
  cases known : est.srttUs with
  | none =>
      unfold sampleChecked RttEstimator.sample
      simp only [known, Option.bind_eq_bind, Option.bind_some, if_pos ordered]
  | some srtt =>
      have srtt_lt := tuned.srtt_lt known
      have rttvar_lt := tuned.rttvar
      have delta_lt : max srtt (max rttUs 1) - min srtt (max rttUs 1) < MAX_SAMPLE_US :=
        Nat.lt_of_le_of_lt (Nat.sub_le _ _) (Nat.max_lt.mpr ⟨srtt_lt, counted⟩)
      unfold MAX_SAMPLE_US at srtt_lt rttvar_lt delta_lt counted
      have noBorrow : ∀ value divisor, checkedSub32 value (value / divisor) =
          some (value - value / divisor) :=
        fun value divisor => if_pos (Nat.div_le_self value divisor)
      have noCarry : ∀ value part kept portion, value < 60000000 → part < 60000000 →
          checkedAdd32 (value - value / kept) (part / portion) =
            some ((value - value / kept + part / portion) % 4294967296) := by
        intro value part kept portion value_lt part_lt
        have fits : value - value / kept + part / portion < 4294967296 := by
          have portion_le := Nat.div_le_self part portion
          have kept_le := Nat.sub_le value (value / kept)
          omega
        rw [Nat.mod_eq_of_lt fits]
        exact if_pos fits
      unfold sampleChecked RttEstimator.sample
      simp only [known, noBorrow, noCarry _ _ _ _ srtt_lt counted,
        noCarry _ _ _ _ rttvar_lt delta_lt, Option.bind_eq_bind, Option.bind_some, if_pos ordered]

theorem Tuned.regular (tuned : Tuned cfg seen est) (accepted : cfg.tcpMinRtoUs ≤ cfg.tcpMaxRtoUs)
    (width : cfg.tcpMaxRtoUs < 2 ^ 32) : Regular cfg seen est where
  low := tuned.low
  high := tuned.high
  within := tuned.within
  exactly := fun _ small => tuned.sampleChecked_eq accepted small
  backsOff := tuned.applyBackoff_le width

/-- The estimator of a configuration that `Engine::new` accepts is regular after any events just
if the configured initial timeout does not exceed the configured maximum. -/
theorem regular_iff {cfg : EngineConfig} (accepted : cfg.checkRtoBounds = .ok ())
    (width : cfg.tcpMaxRtoUs < 2 ^ 32) :
    (∀ events : List RttEvent, (∀ event ∈ events, event.believable = true) →
        Regular cfg (samplesSeen events)
          (events.foldl RttEstimator.step
            (RttEstimator.new cfg.tcpMinRtoUs cfg.tcpInitialRtoUs cfg.tcpMaxRtoUs))) ↔
      cfg.tcpInitialRtoUs ≤ cfg.tcpMaxRtoUs := by
  rw [EngineConfig.checkRtoBounds_eq_ok_iff] at accepted
  constructor
  · intro regular
    have fresh := regular [] (fun _ => nofun)
    exact (Nat.le_max_left _ _).trans fresh.high
  · intro ordered events believable
    have tuned := (Tuned.new accepted ordered).run accepted width believable
    exact tuned.regular accepted width

theorem regular_iff_quick :
    (∀ events : List RttEvent, (∀ event ∈ events, event.believable = true) →
        Regular quickCfg (samplesSeen events)
          (events.foldl RttEstimator.step
            (RttEstimator.new quickCfg.tcpMinRtoUs quickCfg.tcpInitialRtoUs
              quickCfg.tcpMaxRtoUs))) ↔
      quickCfg.tcpInitialRtoUs ≤ quickCfg.tcpMaxRtoUs :=
  regular_iff rfl (by decide)

/-- The timeouts of the RFC preset with a maximum of half a second. -/
def halfSecondCfg : EngineConfig :=
  { quickCfg with tcpMinRtoUs := 200000, tcpInitialRtoUs := 1000000, tcpMaxRtoUs := 500000 }

/-- The engine accepts them, the first timeout is above the maximum, and a backoff lowers it. -/
theorem preset_above_max :
    EngineConfig.applyPreset DPDK_NET_PRESET_RFC_COMPLIANCE
        { quickCfg with tcpMaxRtoUs := 500000 } = .ok halfSecondCfg ∧
      halfSecondCfg.checkRtoBounds = .ok () ∧
      ¬ ∀ events : List RttEvent, (∀ event ∈ events, event.believable = true) →
        Regular halfSecondCfg (samplesSeen events)
          (events.foldl RttEstimator.step
            (RttEstimator.new halfSecondCfg.tcpMinRtoUs halfSecondCfg.tcpInitialRtoUs
              halfSecondCfg.tcpMaxRtoUs)) := by
  refine ⟨rfl, rfl, fun regular => ?_⟩
  have lowered := (regular [] fun _ => nofun).backsOff
  exact absurd lowered (by decide)

end RttEstimator

end DpdkTcp
