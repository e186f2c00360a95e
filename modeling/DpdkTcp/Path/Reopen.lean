import DpdkTcp.Lifecycle.Order
import DpdkTcp.Model.Iss
import DpdkTcp.Path.Network

/-!
# Connections that are opened again

Frames of an earlier connection may still be under way when another one is opened with the same
addresses. What keeps them out is the clock of the generator: the initial sequence number rises by
one every four microseconds, so the numbers of the two streams are apart if the earlier one
accepted no byte faster than that.
-/

namespace DpdkTcp

open Serial

/-- Of two numbers for the same connection the later one is ahead by the ticks between them. -/
theorem IssGen.next_later (gen : IssGen) (tuple : FourTuple) {earlier later : ℕ}
    (ordered : IssGen.ticks earlier ≤ IssGen.ticks later) :
    gen.next tuple later =
      point (gen.next tuple earlier) (IssGen.ticks later - IssGen.ticks earlier) := by
  unfold next point
  rw [BitVec.add_assoc, ← BitVec.ofNat_add, Nat.add_sub_cancel' ordered]

namespace Flow

variable {flow : Flow} {edge : Seq} {len gap : ℕ}

/-- A stream that ends before the edge. -/
theorem apart_before (behind : point flow.base gap = edge) (ends : flow.bytes.length ≤ gap)
    (near : gap + len + 65535 ≤ 2 ^ 32) : flow.Apart edge len := by
  intro pos inside
  rw [← behind, offset_behind flow.base (inside.trans_le ends) (by omega)]
  omega

/-- A stream that starts behind everything the window can reach. -/
theorem apart_behind (ahead : flow.base = point edge gap) (beyond : len + 65535 ≤ gap)
    (near : gap + flow.bytes.length ≤ 2 ^ 32) : flow.Apart edge len := by
  intro pos inside
  have there := offset_point edge (show gap + pos < 2 ^ 32 by omega)
  rw [point_add] at there
  rw [ahead, point, there]
  omega

/-- Another stream was drawn earlier and accepted at most a byte for each tick up to the draw of
this one, or it was drawn a window later than this one accepts a byte for each tick. -/
def SpacedFrom (flow : Flow) (drawn : ℕ) (other : Flow) (otherDrawn : ℕ) : Prop :=
  otherDrawn + other.bytes.length ≤ drawn ∧
      drawn + flow.bytes.length + 65535 ≤ otherDrawn + 2 ^ 32 ∨
    drawn + flow.bytes.length + 65535 ≤ otherDrawn ∧
      otherDrawn + other.bytes.length ≤ drawn + 2 ^ 32

end Flow

/-- A stream was there before, or a connect has opened it. -/
theorem Sender.record_cases {sender : Sender} {op : DriverOp} {handle : ConnHandle}
    {incarnation : ℕ} {flow : Flow} (found : sender.record op handle incarnation = some flow) :
    (∃ before, sender.streams handle incarnation = some before ∧ before.Extends flow) ∨
      incarnation = sender.host.engine.record.incarnation handle + 1 ∧
        ∃ iss ourMss opts synSent nowNs, flow.base = seqAdd iss 1 ∧
          op = .system (.call (.connect flow.tuple iss ourMss opts synSent nowNs)) ∧
          (sender.host.engine.connectWithOpts flow.tuple iss ourMss opts synSent nowNs).2 =
            some handle := by
  have there : ∀ {flow}, sender.streams handle incarnation = some flow →
      ∃ before, sender.streams handle incarnation = some before ∧ before.Extends flow :=
    fun found => ⟨_, found, .refl _⟩
  unfold record at found
  split at found
  · rename_i tuple iss ourMss opts synSent nowNs
    cases result : (sender.host.engine.connectWithOpts tuple iss ourMss opts synSent nowNs).2 with
    | none =>
        simp only [result] at found
        exact Or.inl (there found)
    | some fresh =>
        simp only [result] at found
        rw [Streams.get_write] at found
        split at found
        · rename_i here
          cases found
          rcases here with ⟨rfl, rfl⟩
          exact Or.inr ⟨rfl, iss, ourMss, opts, synSent, nowNs, rfl, rfl, result⟩
        · exact Or.inl (there found)
  · rename_i target bytes envs tlpNs
    left
    cases result : (sender.host.engine.sendBytes target bytes envs tlpNs).2 with
    | error reason =>
        rw [result] at found
        exact there found
    | ok count =>
        rw [result, Streams.sent_ok] at found
        split at found
        · rename_i here
          rcases here with ⟨rfl, rfl⟩
          rcases Option.map_eq_some_iff.mp found with ⟨before, known, rfl⟩
          exact ⟨before, known, before.extends_accept _⟩
        · exact there found
  · exact Or.inl (there found)

/-- A connect that returns a handle counts one more connection of it. -/
theorem Engine.Opens.incarnation {engine : Engine} {tuple : FourTuple} {iss : Seq}
    {result : Engine × Option ConnHandle} {fresh : ConnHandle} (opens : Opens tuple iss engine result)
    (given : result.2 = some fresh) :
    result.1.record.incarnation fresh = engine.record.incarnation fresh + 1 := by
  cases opens with
  | refused => cases given
  | opened _ _ _ _ _ _ _ _ _ recorded calm _ =>
      cases given
      rw [Record.incarnation, calm.opened, recorded, List.count_append, List.count_singleton_self]
      rfl

theorem Host.incarnation_le_driverStep (host : Host) (op : DriverOp) (handle : ConnHandle) :
    host.engine.record.incarnation handle ≤
      (host.driverStep op).engine.record.incarnation handle := by
  cases op with
  | system op =>
      rcases host.incarnation_step op handle with same | ⟨more, _⟩
      · exact Nat.le_of_eq same.symm
      · exact (Nat.le_succ _).trans_eq more.symm
  | trim index len =>
      dsimp only [driverStep]
      rw [Engine.trimFrame_only]

/-- No connection that is not opened yet has a stream. -/
def Sender.Unopened (sender : Sender) : Prop :=
  ∀ handle incarnation, sender.host.engine.record.incarnation handle < incarnation →
    sender.streams handle incarnation = none

theorem Sender.Unopened.step {sender : Sender} (unopened : sender.Unopened) (op : DriverOp) :
    (sender.step op).Unopened := by
  intro handle incarnation later
  have grown := sender.host.incarnation_le_driverStep op handle
  cases found : sender.record op handle incarnation with
  | none => exact found
  | some flow =>
      rcases Sender.record_cases found with ⟨before, there, _⟩ |
        ⟨rfl, iss, ourMss, opts, synSent, nowNs, _, rfl, given⟩
      · rw [unopened handle incarnation (grown.trans_lt later)] at there
        cases there
      · have counted := (Engine.connectWithOpts_opens sender.host.engine flow.tuple iss ourMss opts
          synSent nowNs).incarnation given
        exact absurd counted (Nat.ne_of_lt later)

/-! ### Numbers with their dates -/

/-- A network, with the clock reading at which the number of each connection was drawn. -/
structure Dated (Place : Type) where
  network : Network Place
  drawn : Place → ConnHandle → ℕ → ℕ

namespace Dated

variable {Place : Type}

/-- Hosts without connections, at the start of all clocks. -/
def start (cfgs : Place → EngineConfig) (maxConnections eventSoftCap : ℕ) : Dated Place :=
  ⟨Network.start cfgs maxConnections eventSoftCap, fun _ _ _ => 0⟩

/-- `connect` takes what the generator of the host gives at the clock reading. -/
def draws (gens : Place → IssGen) (label : (Place × PeerOp) × ℕ) : Bool :=
  match label.1.2 with
  | .own (.system (.call (.connect tuple iss _ _ _ _))) =>
      iss == (gens label.1.1).next tuple label.2
  | _ => true

/-- The ticks at which the number of a connection was drawn. -/
def ticks (dated : Dated Place) (place : Place) (handle : ConnHandle) (incarnation : ℕ) : ℕ :=
  IssGen.ticks (dated.drawn place handle incarnation)

/-- Every stream starts behind the number that was drawn at its date. -/
def Sound (gens : Place → IssGen) (dated : Dated Place) : Prop :=
  ∀ place handle incarnation flow,
    (dated.network.parties place).streams handle incarnation = some flow →
      flow.base = seqAdd ((gens place).next flow.tuple (dated.drawn place handle incarnation)) 1

variable {gens : Place → IssGen} {dated : Dated Place}

/-- The stream that was drawn later is ahead by the ticks in between. -/
theorem Sound.climbs (sound : dated.Sound gens) {place : Place} {first second : ConnHandle}
    {turn later : ℕ} {flow next : Flow}
    (found : (dated.network.parties place).streams first turn = some flow)
    (there : (dated.network.parties place).streams second later = some next)
    (tuple : next.tuple = flow.tuple)
    (ordered : dated.ticks place first turn ≤ dated.ticks place second later) :
    next.base = point flow.base (dated.ticks place second later - dated.ticks place first turn) := by
  rw [sound place first turn flow found, sound place second later next there, tuple,
    (gens place).next_later flow.tuple ordered, seqAdd_point, Nat.add_comm]
  exact point_add _ 1 _

/-- Streams that are spaced in time are apart in number. -/
theorem Sound.apart (sound : dated.Sound gens) {place : Place} {first second : ConnHandle}
    {turn later : ℕ} {flow other : Flow}
    (found : (dated.network.parties place).streams first turn = some flow)
    (there : (dated.network.parties place).streams second later = some other)
    (tuple : other.tuple = flow.tuple)
    (spaced : flow.SpacedFrom (dated.ticks place first turn) other
      (dated.ticks place second later)) : other.Apart flow.base flow.bytes.length := by
  rcases spaced with ⟨ends, near⟩ | ⟨beyond, near⟩
  · have ahead := sound.climbs there found tuple.symm (by omega)
    exact other.apart_before ahead.symm (by omega) (by omega)
  · have ahead := sound.climbs found there tuple (by omega)
    exact other.apart_behind ahead (by omega) (by omega)

variable [DecidableEq Place]

/-- A step at a clock reading, which dates what is not opened yet. -/
def step (dated : Dated Place) (label : (Place × PeerOp) × ℕ) : Dated Place :=
  { network := Medium.step Peer.act dated.network label.1
    drawn := fun place handle incarnation =>
      if place = label.1.1 ∧
          (dated.network.parties place).station.host.engine.record.incarnation handle <
            incarnation then
        label.2
      else dated.drawn place handle incarnation }

/-- The step can be taken, and a number is drawn as the clock of the step says. -/
def admissible (gens : Place → IssGen) (dated : Dated Place) (label : (Place × PeerOp) × ℕ) :
    Bool :=
  Network.admissible dated.network label.1 && draws gens label

/-- A run of hosts that draw their initial sequence numbers. -/
abbrev Reached (gens : Place → IssGen) (cfgs : Place → EngineConfig)
    (maxConnections eventSoftCap : ℕ) (dated : Dated Place) : Prop :=
  Run.Reaches step (fun dated label => admissible gens dated label = true)
    (start cfgs maxConnections eventSoftCap) dated

/-- A run in which every `connect` takes the number that is drawn for it, and anything else may
happen. -/
abbrev Drawn (gens : Place → IssGen) (cfgs : Place → EngineConfig)
    (maxConnections eventSoftCap : ℕ) (dated : Dated Place) : Prop :=
  Run.Reaches step (fun _ label => draws gens label = true)
    (start cfgs maxConnections eventSoftCap) dated

variable {cfgs : Place → EngineConfig} {maxConnections eventSoftCap : ℕ}

theorem Reached.drawn (reached : Reached gens cfgs maxConnections eventSoftCap dated) :
    Drawn gens cfgs maxConnections eventSoftCap dated :=
  Run.Reaches.mono reached fun _ _ admitted => (Bool.and_eq_true_iff.mp admitted).2

theorem Reached.network (reached : Reached gens cfgs maxConnections eventSoftCap dated) :
    Network.Reached cfgs maxConnections eventSoftCap dated.network := by
  refine @Run.Reaches.invariant _ _ _ _
    (fun dated => Network.Reached cfgs maxConnections eventSoftCap dated.network) _ _ reached
    .refl ?_
  intro between label run admitted
  exact run.tail label.1 (Bool.and_eq_true_iff.mp admitted).1

/-- What is opened keeps its date. -/
theorem step_drawn {label : (Place × PeerOp) × ℕ} {place : Place} {handle : ConnHandle}
    {incarnation : ℕ} {flow : Flow} (unopened : (dated.network.parties place).sender.Unopened)
    (found : (dated.network.parties place).streams handle incarnation = some flow) :
    (dated.step label).drawn place handle incarnation = dated.drawn place handle incarnation := by
  refine if_neg fun late => ?_
  have absent := unopened handle incarnation late.2
  exact absurd (absent.symm.trans found) nofun

theorem Sound.step (sound : dated.Sound gens)
    (unopened : ∀ place, (dated.network.parties place).sender.Unopened)
    {label : (Place × PeerOp) × ℕ} (draws : draws gens label = true) :
    (dated.step label).Sound gens := by
  rcases label with ⟨⟨acting, op⟩, reading⟩
  intro place handle incarnation flow found
  have kept : ∀ {before : Flow},
      (dated.network.parties place).streams handle incarnation = some before →
      before.Extends flow →
      flow.base = seqAdd ((gens place).next flow.tuple
        ((dated.step ((acting, op), reading)).drawn place handle incarnation)) 1 := by
    intro before there extended
    rw [step_drawn (unopened place) there, extended.base, extended.tuple]
    exact sound place handle incarnation before there
  dsimp only [Dated.step] at found
  cases called : (dated.network.parties acting).driverOp op with
  | none =>
      rw [Network.step_none called] at found
      exact kept found (.refl flow)
  | some call =>
      rw [Network.step_some called] at found
      dsimp only at found
      by_cases here : place = acting
      · subst here
        rw [Function.update_self] at found
        rcases Sender.record_cases found with ⟨before, there, extended⟩ |
          ⟨rfl, iss, ourMss, opts, synSent, nowNs, base, rfl, _⟩
        · exact kept there extended
        · have dated : (dated.step ((place, op), reading)).drawn place handle
              ((dated.network.parties place).sender.host.engine.record.incarnation handle + 1) =
                reading := if_pos ⟨rfl, Nat.lt_succ_self _⟩
          rw [dated, base]
          cases op with
          | frame chain olFlags env =>
              rcases Option.map_eq_some_iff.mp called with ⟨segment, routes, same⟩
              rcases Station.segmentOp_some routes with ⟨target, parsed, ip, routed, rfl⟩
              cases same
          | own own =>
              cases called
              rw [beq_iff_eq.mp draws]
      · rw [Function.update_of_ne here] at found
        exact kept found (.refl flow)

/-- No host gets a stream ahead of its connection. -/
theorem unopened_step (unopened : ∀ place, (dated.network.parties place).sender.Unopened)
    (label : (Place × PeerOp) × ℕ) (place : Place) :
    ((dated.step label).network.parties place).sender.Unopened := by
  rcases label with ⟨⟨acting, op⟩, reading⟩
  dsimp only [Dated.step]
  cases called : (dated.network.parties acting).driverOp op with
  | none =>
      rw [Network.step_none called]
      exact unopened place
  | some call =>
      rw [Network.step_some called]
      dsimp only
      by_cases here : place = acting
      · rw [here, Function.update_self]
        exact (unopened acting).step call
      · rw [Function.update_of_ne here]
        exact unopened place

/-- In every run whose connects draw their numbers, the numbers are those of their dates. -/
theorem sound_of_drawn (drawn : Drawn gens cfgs maxConnections eventSoftCap dated) :
    dated.Sound gens := by
  refine (@Run.Reaches.invariant _ _ _ _ (fun dated =>
    (∀ place, (dated.network.parties place).sender.Unopened) ∧ dated.Sound gens) _ _ drawn
    ⟨fun _ _ _ _ => rfl, nofun⟩ ?_).2
  intro between label sound draws
  exact ⟨unopened_step sound.1 label, sound.2.step sound.1 draws⟩

end Dated

/-! ### Two connections, one after the other -/

/-- A generator with a known secret. -/
def zeroGen : IssGen :=
  ⟨Vector.replicate 16 0, Vector.replicate 16 0⟩

/-- The connection as the near host has it. -/
def nearTuple : FourTuple :=
  ⟨0x0a000002#32, 40000, 0x0a000001#32, 5000⟩

/-- What the generator gives to the two ends. -/
def issAt (far : Bool) (reading : ℕ) : Seq :=
  zeroGen.next (if far then nearTuple.mirror else nearTuple) reading

/-- A segment that is numbered from the initial numbers of a reading arrives. -/
def segmentAt (far : Bool) (reading offset acked : ℕ) (flags : Flags) (payload : List UInt8) :
    Bool × PeerOp :=
  let bytes := (segmentTo far (seqAdd (issAt (!far) reading) offset)
    (seqAdd (issAt far reading) acked) flags payload).wire false
  (far, arriveAt (bytes.take 65535) (by rw [List.length_take]; omega))

/-- Both ends connect and get a SYN-ACK. -/
def connectBoth (reading : ℕ) : List (Bool × PeerOp) :=
  [(false, connectFrom nearTuple (issAt false reading)),
    (true, connectFrom nearTuple.mirror (issAt true reading)),
    segmentAt false reading 0 1 (TCP_SYN ||| TCP_ACK) [],
    segmentAt true reading 0 1 (TCP_SYN ||| TCP_ACK) []]

/-- Bytes are accepted and handed to the driver. -/
def sendOut (bytes : List UInt8) (mbuf : ℕ) : List (Bool × PeerOp) :=
  [(false, .own (.system (.call (sendAt 2000 bytes mbuf)))),
    (false, .own (.system (.call (.flush 1))))]

/-- Three bytes arrive, both ends are reset, and connect again after 280 ms. The three bytes arrive
again, before and behind two others. -/
def openTwice : List ((Bool × PeerOp) × ℕ) :=
  (connectBoth 1000 ++ sendOut [1, 2, 3] 1 ++
      [segmentAt true 1000 1 1 (TCP_ACK ||| TCP_PSH) [1, 2, 3], segmentAt false 1000 1 4 TCP_RST [],
        segmentAt true 1000 4 1 TCP_RST []]).map (·, 1000) ++
    (connectBoth 280000000 ++ [segmentAt true 1000 1 1 (TCP_ACK ||| TCP_PSH) [1, 2, 3]] ++
      sendOut [4, 5] 2 ++
      [segmentAt true 280000000 1 1 (TCP_ACK ||| TCP_PSH) [4, 5],
        segmentAt true 1000 1 1 (TCP_ACK ||| TCP_PSH) [1, 2, 3]]).map (·, 280000000)

/-- Where the run stops. -/
def openedTwice : Dated Bool :=
  openTwice.foldl Dated.step (Dated.start twoEnds 1 64)

theorem openedTwice_reached : Dated.Reached (fun _ => zeroGen) twoEnds 1 64 openedTwice :=
  Run.Reaches.of_admits (by decide +kernel : Run.admits Dated.step
    (Dated.admissible fun _ => zeroGen) (Dated.start twoEnds 1 64) openTwice = true)

theorem openedTwice_streams :
    (openedTwice.network.parties false).streams 1 1 =
        some ⟨nearTuple, seqAdd (issAt false 1000) 1, [1, 2, 3]⟩ ∧
      (openedTwice.network.parties false).streams 1 2 =
        some ⟨nearTuple, seqAdd (issAt false 280000000) 1, [4, 5]⟩ := by
  decide +kernel

section Runs

variable {Place : Type} [DecidableEq Place] {gens : Place → IssGen} {cfgs : Place → EngineConfig}
  {maxConnections eventSoftCap : ℕ} {dated : Dated Place}

/-- In every run whose connects draw their numbers, the numbers of the streams between two
addresses climb with the clock. -/
theorem initial_numbers_climb
    (drawn : Dated.Drawn gens cfgs maxConnections eventSoftCap dated) {place : Place}
    {first second : ConnHandle} {turn later : ℕ} {flow next : Flow}
    (found : (dated.network.parties place).streams first turn = some flow)
    (there : (dated.network.parties place).streams second later = some next)
    (tuple : next.tuple = flow.tuple)
    (ordered : dated.ticks place first turn ≤ dated.ticks place second later) :
    next.base = point flow.base
      (dated.ticks place second later - dated.ticks place first turn) :=
  (Dated.sound_of_drawn drawn).climbs found there tuple ordered

theorem initial_numbers_climb_openedTwice :
    seqAdd (issAt false 280000000) 1 = point (seqAdd (issAt false 1000) 1) 70000 := by
  have dates : openedTwice.ticks false 1 1 = 0 ∧ openedTwice.ticks false 1 2 = 70000 := by
    decide +kernel
  have climbed := initial_numbers_climb openedTwice_reached.drawn
    openedTwice_streams.1 openedTwice_streams.2 rfl (by rw [dates.1]; exact Nat.zero_le _)
  rw [dates.1, dates.2] at climbed
  exact climbed

end Runs

end DpdkTcp
