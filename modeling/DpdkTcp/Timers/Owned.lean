import DpdkTcp.Timers.Steps

/-!
# Who owns a timer

The generation of a slot counts how often it was taken, so as long as fewer
than `2 ^ 32` timers reuse a slot no two timers ever have the same identifier.
Then every live timer of a connection is on its list, and a name a connection
knows is that of a timer armed for this very connection.
-/

namespace DpdkTcp

theorem usesOf_concat (armed : List Armed) (timer : Armed) (slot : ℕ) :
    usesOf (armed ++ [timer]) slot =
      usesOf armed slot + if timer.id.slot = slot then 1 else 0 := by
  unfold usesOf
  rw [List.map_append, List.count_append]
  simp [List.count_cons]

theorem FewReuses.of_concat {armed : List Armed} {timer : Armed}
    (few : FewReuses (armed ++ [timer])) : FewReuses armed := by
  intro slot
  have bound := few slot
  rw [usesOf_concat] at bound
  omega

/-- No slot is used more often than there are timers. -/
theorem FewReuses.of_length {armed : List Armed} (short : armed.length ≤ 2 ^ 32) :
    FewReuses armed := by
  intro slot
  have bound : usesOf armed slot ≤ armed.length := by
    refine Nat.le_trans List.count_le_length (Nat.le_of_eq ?_)
    exact List.length_map ..
  omega

/-- The generations of the wheel count the timers that were put into its slots. -/
structure Counted (wheel : TimerWheel) (armed : List Armed) : Prop where
  sound : wheel.Sound
  stamps : ∀ slot, slot < wheel.slots.length →
    wheel.generations.getD slot 0#32 + 1#32 = BitVec.ofNat 32 (usesOf armed slot)
  unused : ∀ slot, wheel.slots.length ≤ slot → usesOf armed slot = 0
  ids : ∀ timer ∈ armed, ∃ turn, turn < usesOf armed timer.id.slot ∧
    timer.id.generation = BitVec.ofNat 32 turn

namespace Counted

variable {wheel after : TimerWheel} {armed : List Armed}

theorem start : Counted TimerWheel.new [] :=
  ⟨TimerWheel.sound_new, fun _ inside => absurd inside (Nat.not_lt_zero _), fun _ _ => rfl,
    fun _ member => absurd member List.not_mem_nil⟩

/-- A new timer has the number of earlier uses of its slot as its generation. -/
theorem generation_add (counted : Counted wheel armed) (nowNs : ℕ) (node : TimerNode) :
    (wheel.add nowNs node).2.generation =
      BitVec.ofNat 32 (usesOf armed (wheel.add nowNs node).2.slot) := by
  have adds := (counted.sound.add nowNs node).2
  by_cases inside : (wheel.add nowNs node).2.slot < wheel.slots.length
  · rw [adds.reused inside]
    exact counted.stamps _ inside
  · have outside := Nat.le_of_not_lt inside
    rw [(adds.opened outside).2, counted.unused _ outside]

theorem add (counted : Counted wheel armed) (nowNs : ℕ) (node : TimerNode) {timer : Armed}
    (named : timer.id = (wheel.add nowNs node).2) :
    Counted (wheel.add nowNs node).1 (armed ++ [timer]) := by
  rcases counted.sound.add nowNs node with ⟨sound, adds⟩
  have generation := counted.generation_add nowNs node
  rw [← named] at adds generation
  refine ⟨sound, ?_, ?_, ?_⟩
  · intro slot inside
    rw [adds.generations, usesOf_concat]
    by_cases same : timer.id.slot = slot
    · rw [if_pos same.symm, if_pos same, ← same, generation, BitVec.ofNat_add]
    · rw [if_neg (Ne.symm same), if_neg same, Nat.add_zero]
      refine counted.stamps slot ?_
      by_cases opened : wheel.slots.length ≤ timer.id.slot
      · have top := (adds.opened opened).1
        have length := adds.length
        omega
      · have length := adds.length
        omega
  · intro slot outside
    have length := adds.length
    rw [usesOf_concat, if_neg (by omega), Nat.add_zero]
    exact counted.unused slot (by omega)
  · intro known member
    rcases List.mem_append.mp member with old | new
    · rcases counted.ids known old with ⟨turn, early, stamped⟩
      refine ⟨turn, ?_, stamped⟩
      rw [usesOf_concat]
      omega
    · rcases List.mem_singleton.mp new with rfl
      refine ⟨usesOf armed known.id.slot, ?_, generation⟩
      rw [usesOf_concat, if_pos rfl]
      omega

/-- As long as slots are not reused too often, an identifier is never given twice. -/
theorem new_id (counted : Counted wheel armed) (nowNs : ℕ) (node : TimerNode) {timer : Armed}
    (named : timer.id = (wheel.add nowNs node).2) (few : FewReuses (armed ++ [timer])) :
    timer.id ∉ armed.map Armed.id := by
  intro given
  rcases List.mem_map.mp given with ⟨known, member, same⟩
  rcases counted.ids known member with ⟨turn, early, stamped⟩
  have generation := counted.generation_add nowNs node
  rw [← named, ← same, stamped] at generation
  have bound := few timer.id.slot
  rw [usesOf_concat, if_pos rfl, ← same] at bound
  have turns := congrArg BitVec.toNat generation
  rw [BitVec.toNat_ofNat, BitVec.toNat_ofNat, Nat.mod_eq_of_lt (by omega),
    Nat.mod_eq_of_lt (by omega)] at turns
  omega

theorem cancel (counted : Counted wheel armed) (id : TimerId) :
    Counted (wheel.cancel id) armed := by
  rcases TimerWheel.cancel_only wheel id with ⟨generations, _, length⟩
  refine ⟨counted.sound.cancel id, ?_, ?_, counted.ids⟩
  · rw [generations, length]
    exact counted.stamps
  · rw [length]
    exact counted.unused

theorem cancelAll (counted : Counted wheel armed) (ids : List TimerId) :
    Counted (ids.foldl TimerWheel.cancel wheel) armed := by
  induction ids generalizing wheel with
  | nil => exact counted
  | cons id rest ih => exact ih (counted.cancel id)

theorem sheds (counted : Counted wheel armed) {fired : List (TimerId × TimerNode)}
    (sheds : TimerWheel.Sheds wheel after fired) : Counted after armed := by
  refine ⟨sheds.sound counted.sound, ?_, ?_, counted.ids⟩
  · rw [sheds.generations, sheds.length]
    exact counted.stamps
  · rw [sheds.length]
    exact counted.unused

end Counted

/-- The connections, the wheel and what is known of timers and connections. -/
structure TimerView where
  conns : ConnHandle → Option TcpConn
  wheel : TimerWheel
  armed : List Armed
  opened : List ConnHandle

/-- What the ownership of timers is about. -/
def Engine.timerView (engine : Engine) : TimerView :=
  ⟨engine.flowTable.get, engine.timerWheel, engine.record.armed, engine.record.opened⟩

/-- An occupant that can still fire. -/
def TimerWheel.Live (wheel : TimerWheel) (slot : ℕ) (node : TimerNode) : Prop :=
  wheel.nodeAt slot = some node ∧ node.cancelled = false

/-- Live timers are on the lists of their owners, names are those of timers
armed for the connection, and fired timers are dead. -/
structure Owned (view : TimerView) (pending : List (TimerId × TimerNode)) : Prop where
  distinct : (view.armed.map Armed.id).Nodup
  listed : ∀ slot node, view.wheel.Live slot node → node.kind ≠ .apiPublic →
    ∃ conn, view.conns node.ownerHandle = some conn ∧ ⟨slot, node.generation⟩ ∈ conn.timerIds
  unowned : ∀ slot node, view.wheel.nodeAt slot = some node → node.kind = .apiPublic →
    node.ownerHandle = 0
  known : ∀ slot node, view.wheel.nodeAt slot = some node →
    ⟨slot, node.generation⟩ ∈ view.armed.map Armed.id
  named : ∀ handle conn kind id, view.conns handle = some conn → conn.timerOf kind = some id →
    ⟨id, handle, view.opened.count handle, kind⟩ ∈ view.armed
  fired : ∀ id node, (id, node) ∈ pending →
    id ∈ view.armed.map Armed.id ∧ view.wheel.isLive id = false

/-- The invariant: ownership, as long as slots are not reused too often. -/
structure Timed (view : TimerView) (pending : List (TimerId × TimerNode)) : Prop where
  counted : Counted view.wheel view.armed
  owned : FewReuses view.armed → Owned view pending

theorem TimerWheel.live_cancel {wheel : TimerWheel} {id : TimerId} {slot : ℕ} {node : TimerNode}
    (live : (wheel.cancel id).Live slot node) :
    wheel.Live slot node ∧ (⟨slot, node.generation⟩ : TimerId) ≠ id := by
  rcases live with ⟨held, alive⟩
  rw [TimerWheel.nodeAt_cancel] at held
  rcases Option.map_eq_some_iff.mp held with ⟨before, wasHeld, marked⟩
  unfold TimerWheel.marked at marked
  split at marked
  · rw [← marked] at alive
    cases alive
  · rename_i other
    subst marked
    refine ⟨⟨wasHeld, alive⟩, fun same => other ?_⟩
    rw [← same]
    exact ⟨rfl, rfl⟩

theorem TimerWheel.nodeAt_of_cancel {wheel : TimerWheel} {id : TimerId} {slot : ℕ}
    {node : TimerNode} (held : (wheel.cancel id).nodeAt slot = some node) :
    ∃ before, wheel.nodeAt slot = some before ∧ before.generation = node.generation ∧
      before.kind = node.kind ∧ before.ownerHandle = node.ownerHandle := by
  rw [TimerWheel.nodeAt_cancel] at held
  rcases Option.map_eq_some_iff.mp held with ⟨before, wasHeld, rfl⟩
  refine ⟨before, wasHeld, ?_⟩
  unfold TimerWheel.marked
  split <;> exact ⟨rfl, rfl, rfl⟩

namespace TimerView

/-- The slot of a handle is written. -/
def write (view : TimerView) (handle : ConnHandle) (slot : Option TcpConn) : TimerView :=
  { view with conns := fun other => if other = handle then slot else view.conns other }

end TimerView

theorem TimerWheel.Live.isLive {wheel : TimerWheel} {slot : ℕ} {node : TimerNode}
    (live : wheel.Live slot node) : wheel.isLive ⟨slot, node.generation⟩ = true :=
  TimerWheel.isLive_iff.mpr ⟨node, live.1, rfl, live.2⟩

namespace Owned

variable {view : TimerView} {pending : List (TimerId × TimerNode)} {handle : ConnHandle}
  {conn conn' : TcpConn}

/-- A connection may be written as long as its live timers stay on its list. -/
theorem write (owned : Owned view pending) (present : view.conns handle = some conn)
    {armed : List Armed} (distinct : (armed.map Armed.id).Nodup)
    (grown : ∀ timer ∈ view.armed, timer ∈ armed)
    (listed : ∀ id ∈ conn.timerIds, view.wheel.isLive id = true → id ∈ conn'.timerIds)
    (named : ∀ kind id, conn'.timerOf kind = some id →
      ⟨id, handle, view.opened.count handle, kind⟩ ∈ armed) :
    Owned { view.write handle (some conn') with armed := armed } pending := by
  have ids : ∀ id ∈ view.armed.map Armed.id, id ∈ armed.map Armed.id := by
    intro id member
    rcases List.mem_map.mp member with ⟨timer, inArmed, same⟩
    exact List.mem_map.mpr ⟨timer, grown timer inArmed, same⟩
  refine ⟨distinct, ?_, owned.unowned, fun slot node held => ids _ (owned.known slot node held),
    ?_, fun id node fired => ⟨ids _ (owned.fired id node fired).1, (owned.fired id node fired).2⟩⟩
  · intro slot node live kind
    rcases owned.listed slot node live kind with ⟨owner, found, inList⟩
    dsimp only [TimerView.write]
    by_cases same : node.ownerHandle = handle
    · rw [same, present] at found
      rcases Option.some.inj found with rfl
      rw [if_pos same]
      exact ⟨conn', rfl, listed _ inList live.isLive⟩
    · rw [if_neg same]
      exact ⟨owner, found, inList⟩
  · intro other owner kind id found name
    dsimp only [TimerView.write] at found ⊢
    split at found
    · rename_i same
      rcases Option.some.inj found with rfl
      rw [same]
      exact named kind id name
    · exact grown _ (owned.named other owner kind id found name)

/-- A timer is added that was armed and is on the list of its owner. -/
theorem add (owned : Owned view pending) {after : TimerWheel} {id : TimerId} {node : TimerNode}
    (adds : TimerWheel.Adds view.wheel after id node)
    (listed : node.kind ≠ .apiPublic →
      ∃ conn, view.conns node.ownerHandle = some conn ∧ id ∈ conn.timerIds)
    (unowned : node.kind = .apiPublic → node.ownerHandle = 0)
    (known : id ∈ view.armed.map Armed.id) (unfired : ∀ node, (id, node) ∉ pending) :
    Owned { view with wheel := after } pending := by
  refine ⟨owned.distinct, ?_, ?_, ?_, owned.named, ?_⟩
  · rintro slot occupant ⟨held, live⟩ kind
    dsimp only at held
    rw [adds.nodes] at held
    split at held
    · rename_i same
      rcases Option.some.inj held with rfl
      rw [same]
      exact listed kind
    · exact owned.listed slot occupant ⟨held, live⟩ kind
  · intro slot occupant held kind
    dsimp only at held
    rw [adds.nodes] at held
    split at held
    · rcases Option.some.inj held with rfl
      exact unowned kind
    · exact owned.unowned slot occupant held kind
  · intro slot occupant held
    dsimp only at held
    rw [adds.nodes] at held
    split at held
    · rename_i same
      rcases Option.some.inj held with rfl
      rw [same]
      exact known
    · exact owned.known slot occupant held
  · intro other occupant inPending
    rcases owned.fired other occupant inPending with ⟨given, dead⟩
    refine ⟨given, ?_⟩
    rw [Bool.eq_false_iff]
    intro live
    rcases TimerWheel.isLive_iff.mp live with ⟨current, held, generation, alive⟩
    dsimp only at held
    rw [adds.nodes] at held
    split at held
    · rename_i same
      rcases Option.some.inj held with rfl
      have equal : other = id := by
        rcases other
        rcases id
        simp_all
      exact unfired occupant (equal ▸ inPending)
    · exact absurd (TimerWheel.isLive_iff.mpr ⟨current, held, generation, alive⟩) (by simp [dead])

theorem cancel (owned : Owned view pending) (id : TimerId) :
    Owned { view with wheel := view.wheel.cancel id } pending := by
  refine ⟨owned.distinct, fun slot node live => owned.listed slot node (TimerWheel.live_cancel live).1,
    ?_, ?_, owned.named, ?_⟩
  · intro slot node held kind
    rcases TimerWheel.nodeAt_of_cancel held with ⟨before, wasHeld, _, sameKind, owner⟩
    rw [← owner]
    exact owned.unowned slot before wasHeld (sameKind.trans kind)
  · intro slot node held
    rcases TimerWheel.nodeAt_of_cancel held with ⟨before, wasHeld, generation, _, _⟩
    rw [← generation]
    exact owned.known slot before wasHeld
  · intro other node inPending
    rcases owned.fired other node inPending with ⟨given, dead⟩
    refine ⟨given, ?_⟩
    dsimp only
    rw [TimerWheel.isLive_cancel, dead]
    rfl

theorem cancelAll (owned : Owned view pending) (ids : List TimerId) :
    Owned { view with wheel := ids.foldl TimerWheel.cancel view.wheel } pending := by
  induction ids generalizing view with
  | nil => exact owned
  | cons id rest ih => exact ih (owned.cancel id)

/-- A connection without live timers may go. -/
theorem remove (owned : Owned view pending)
    (idle : ∀ slot node, view.wheel.Live slot node → node.kind ≠ .apiPublic →
      node.ownerHandle ≠ handle) : Owned (view.write handle none) pending := by
  refine ⟨owned.distinct, ?_, owned.unowned, owned.known, ?_, owned.fired⟩
  · intro slot node live kind
    dsimp only [TimerView.write]
    rw [if_neg (idle slot node live kind)]
    exact owned.listed slot node live kind
  · intro other owner kind id found name
    dsimp only [TimerView.write] at found
    split at found
    · cases found
    · exact owned.named other owner kind id found name

/-- A connection without timers may come. -/
theorem insert (owned : Owned view pending) (vacant : view.conns handle = none)
    (unnamed : ∀ kind, conn.timerOf kind = none) :
    Owned { view.write handle (some conn) with opened := view.opened ++ [handle] } pending := by
  refine ⟨owned.distinct, ?_, owned.unowned, owned.known, ?_, owned.fired⟩
  · intro slot node live kind
    rcases owned.listed slot node live kind with ⟨owner, found, inList⟩
    have differs : node.ownerHandle ≠ handle := by
      intro same
      rw [same, vacant] at found
      cases found
    dsimp only [TimerView.write]
    rw [if_neg differs]
    exact ⟨owner, found, inList⟩
  · intro other owner kind id found name
    dsimp only [TimerView.write] at found ⊢
    split at found
    · rcases Option.some.inj found with rfl
      rw [unnamed] at name
      cases name
    · rename_i differs
      rw [List.count_append, List.count_singleton, if_neg (by simpa using Ne.symm differs),
        Nat.add_zero]
      exact owned.named other owner kind id found name

end Owned

theorem TimerWheel.live_cancelAll {wheel : TimerWheel} {ids : List TimerId} {slot : ℕ}
    {node : TimerNode} (live : (ids.foldl TimerWheel.cancel wheel).Live slot node) :
    wheel.Live slot node ∧ (⟨slot, node.generation⟩ : TimerId) ∉ ids := by
  induction ids generalizing wheel with
  | nil => exact ⟨live, List.not_mem_nil⟩
  | cons id rest ih =>
      rcases ih live with ⟨still, unlisted⟩
      rcases TimerWheel.live_cancel still with ⟨before, differs⟩
      exact ⟨before, fun member => (List.mem_cons.mp member).elim differs unlisted⟩

namespace Timed

variable {view : TimerView} {pending : List (TimerId × TimerNode)} {handle : ConnHandle}
  {conn conn' : TcpConn}

theorem write (timed : Timed view pending) (present : view.conns handle = some conn)
    (timers : SameTimers conn conn') : Timed (view.write handle (some conn')) pending := by
  refine ⟨timed.counted, fun few => ?_⟩
  have owned := timed.owned few
  refine owned.write present owned.distinct (fun _ member => member) ?_ ?_
  · intro id member _
    exact timers.timerIds ▸ member
  · intro kind id name
    rcases timers.named kind with kept | dropped
    · exact owned.named handle conn kind id present (kept ▸ name)
    · rw [dropped] at name
      cases name

theorem distinct_concat {armed : List Armed} {timer : Armed}
    (distinct : (armed.map Armed.id).Nodup) (fresh : timer.id ∉ armed.map Armed.id) :
    ((armed ++ [timer]).map Armed.id).Nodup := by
  rw [List.map_append, List.nodup_append]
  refine ⟨distinct, by simp, ?_⟩
  intro id known other new same
  rcases List.mem_singleton.mp new with rfl
  exact fresh (same ▸ known)

/-- A timer is armed for a connection and written down there. -/
theorem arm (timed : Timed view pending) (nowNs : ℕ) (node : TimerNode)
    (present : view.conns handle = some conn) (owner : node.ownerHandle = handle)
    (timerIds : conn'.timerIds = conn.timerIds ++ [(view.wheel.add nowNs node).2])
    (name : conn'.timerOf node.kind = some (view.wheel.add nowNs node).2)
    (others : ∀ kind, kind ≠ node.kind → conn'.timerOf kind = conn.timerOf kind) :
    Timed
      { view.write handle (some conn') with
        wheel := (view.wheel.add nowNs node).1
        armed := view.armed ++ [⟨(view.wheel.add nowNs node).2, handle,
          view.opened.count handle, node.kind⟩] } pending := by
  refine ⟨timed.counted.add nowNs node rfl, fun few => ?_⟩
  have owned := timed.owned few.of_concat
  have fresh := timed.counted.new_id nowNs node rfl few
  have isLast : ∀ timer : Armed, timer ∈ view.armed ++ [timer] :=
    fun timer => List.mem_append_right _ (List.mem_singleton.mpr rfl)
  have written : Owned
      { view.write handle (some conn') with
        armed := view.armed ++ [⟨(view.wheel.add nowNs node).2, handle,
          view.opened.count handle, node.kind⟩] } pending := by
    refine owned.write present (distinct_concat owned.distinct fresh)
      (fun timer member => List.mem_append_left _ member)
      (fun id member _ => timerIds ▸ List.mem_append_left _ member) fun kind id named => ?_
    by_cases same : kind = node.kind
    · rw [same, name] at named
      rw [same, ← Option.some.inj named]
      exact isLast _
    · rw [others kind same] at named
      exact List.mem_append_left _ (owned.named handle conn kind id present named)
  refine written.add (timed.counted.sound.add nowNs node).2 ?_ ?_ ?_ ?_
  · intro _
    refine ⟨conn', ?_, ?_⟩
    · rw [owner]
      exact if_pos rfl
    · rw [timerIds]
      exact List.mem_append_right _ (List.mem_singleton.mpr rfl)
  · intro kind
    rw [kind] at name
    cases name
  · exact List.mem_map.mpr ⟨_, isLast _, rfl⟩
  · intro node fired
    exact fresh (owned.fired _ _ fired).1

/-- A timer is added for the application. -/
theorem publish (timed : Timed view pending) (nowNs : ℕ) {node : TimerNode}
    (isPublic : node.kind = .apiPublic) (unowned : node.ownerHandle = 0) (timer : Armed)
    (named : timer.id = (view.wheel.add nowNs node).2) :
    Timed
      { view with wheel := (view.wheel.add nowNs node).1, armed := view.armed ++ [timer] }
      pending := by
  refine ⟨timed.counted.add nowNs node named, fun few => ?_⟩
  have owned := timed.owned few.of_concat
  have fresh := timed.counted.new_id nowNs node named few
  have recorded : Owned { view with armed := view.armed ++ [timer] } pending := by
    have ids : ∀ id ∈ view.armed.map Armed.id, id ∈ (view.armed ++ [timer]).map Armed.id := by
      intro id member
      rw [List.map_append]
      exact List.mem_append_left _ member
    exact ⟨distinct_concat owned.distinct fresh, owned.listed, owned.unowned,
      fun slot node held => ids _ (owned.known slot node held),
      fun handle conn kind id found name =>
        List.mem_append_left _ (owned.named handle conn kind id found name),
      fun id node fired => ⟨ids _ (owned.fired id node fired).1, (owned.fired id node fired).2⟩⟩
  refine recorded.add (timed.counted.sound.add nowNs node).2 (fun kind => absurd isPublic kind)
    (fun _ => unowned) ?_ ?_
  · refine List.mem_map.mpr ⟨timer, ?_, named⟩
    exact List.mem_append_right _ (List.mem_singleton.mpr rfl)
  · intro node fired
    exact fresh (named ▸ (owned.fired _ _ fired).1)

theorem cancel (timed : Timed view pending) (id : TimerId) :
    Timed { view with wheel := view.wheel.cancel id } pending :=
  ⟨timed.counted.cancel id, fun few => (timed.owned few).cancel id⟩

/-- A cancelled timer is struck off the list of its owner. -/
theorem stop (timed : Timed view pending) (id : TimerId)
    (present : view.conns handle = some conn)
    (timerIds : conn'.timerIds = conn.timerIds.filter fun known => known ≠ id)
    (named : ∀ kind, conn'.timerOf kind = conn.timerOf kind ∨ conn'.timerOf kind = none) :
    Timed { view.write handle (some conn') with wheel := view.wheel.cancel id } pending := by
  refine ⟨timed.counted.cancel id, fun few => ?_⟩
  have owned := (timed.owned few).cancel id
  refine owned.write present owned.distinct (fun _ member => member) ?_ ?_
  · intro known member live
    dsimp only at live
    rw [TimerWheel.isLive_cancel, Bool.and_eq_true] at live
    rw [timerIds]
    exact List.mem_filter.mpr ⟨member, live.2⟩
  · intro kind known name
    rcases named kind with kept | dropped
    · exact owned.named handle conn kind known present (kept ▸ name)
    · rw [dropped] at name
      cases name

/-- A fired timer is struck off the list of its owner. -/
theorem forget (timed : Timed view pending) (id : TimerId)
    (dead : FewReuses view.armed → view.wheel.isLive id = false)
    (present : view.conns handle = some conn)
    (timerIds : conn'.timerIds = conn.timerIds.filter fun known => known ≠ id)
    (named : ∀ kind, conn'.timerOf kind = conn.timerOf kind ∨ conn'.timerOf kind = none) :
    Timed (view.write handle (some conn')) pending := by
  refine ⟨timed.counted, fun few => ?_⟩
  have owned := timed.owned few
  refine owned.write present owned.distinct (fun _ member => member) ?_ ?_
  · intro known member live
    have other : known ≠ id := by
      rintro rfl
      rw [dead few] at live
      cases live
    rw [timerIds]
    exact List.mem_filter.mpr ⟨member, decide_eq_true other⟩
  · intro kind known name
    rcases named kind with kept | dropped
    · exact owned.named handle conn kind known present (kept ▸ name)
    · rw [dropped] at name
      cases name

/-- A connection goes after its timers were cancelled. -/
theorem remove (timed : Timed view pending) (present : view.conns handle = some conn) :
    Timed
      { view.write handle none with
        wheel := conn.allTimerIds.foldl TimerWheel.cancel view.wheel } pending := by
  refine ⟨timed.counted.cancelAll _, fun few => ?_⟩
  have owned := timed.owned few
  refine (owned.cancelAll conn.allTimerIds).remove fun slot node live kind same => ?_
  rcases TimerWheel.live_cancelAll live with ⟨before, unlisted⟩
  rcases owned.listed slot node before kind with ⟨owner, found, inList⟩
  rw [same, present] at found
  rcases Option.some.inj found with rfl
  refine unlisted ?_
  unfold TcpConn.allTimerIds
  exact List.mem_append_left _ (List.mem_append_left _ (List.mem_append_left _ inList))

theorem insert (timed : Timed view pending) (vacant : view.conns handle = none)
    (unnamed : ∀ kind, conn.timerOf kind = none) :
    Timed { view.write handle (some conn) with opened := view.opened ++ [handle] } pending :=
  ⟨timed.counted, fun few => (timed.owned few).insert vacant unnamed⟩

theorem sheds (timed : Timed view pending) {after : TimerWheel}
    {fired : List (TimerId × TimerNode)} (sheds : TimerWheel.Sheds view.wheel after fired) :
    Timed { view with wheel := after } (pending ++ fired) := by
  refine ⟨timed.counted.sheds sheds, fun few => ?_⟩
  have owned := timed.owned few
  have before : ∀ slot node, after.nodeAt slot = some node →
      view.wheel.nodeAt slot = some node := by
    intro slot node held
    rcases sheds.nodes slot with kept | emptied
    · exact kept ▸ held
    · rw [emptied] at held
      cases held
  refine ⟨owned.distinct, fun slot node live => owned.listed slot node ⟨before slot node live.1, live.2⟩,
    fun slot node held => owned.unowned slot node (before slot node held),
    fun slot node held => owned.known slot node (before slot node held), owned.named, ?_⟩
  intro id node inPending
  dsimp only
  rw [Bool.eq_false_iff]
  rcases List.mem_append.mp inPending with old | new
  · rcases owned.fired id node old with ⟨given, dead⟩
    refine ⟨given, fun live => ?_⟩
    rcases TimerWheel.isLive_iff.mp live with ⟨current, held, generation, alive⟩
    have wasLive := TimerWheel.isLive_iff.mpr ⟨current, before _ _ held, generation, alive⟩
    rw [dead] at wasLive
    cases wasLive
  · rcases sheds.fires id node new with ⟨held, generation, _, emptied⟩
    have given := owned.known id.slot node held
    rw [generation] at given
    refine ⟨given, fun live => ?_⟩
    rcases TimerWheel.isLive_iff.mp live with ⟨current, stillHeld, _⟩
    rw [emptied] at stillHeld
    cases stillHeld

/-- A fired timer leaves the queue before its handler runs. -/
theorem tail {fired : TimerId × TimerNode} (timed : Timed view (fired :: pending)) :
    Timed view pending := by
  refine ⟨timed.counted, fun few => ?_⟩
  have owned := timed.owned few
  exact ⟨owned.distinct, owned.listed, owned.unowned, owned.known, owned.named,
    fun id node member => owned.fired id node (List.mem_cons_of_mem fired member)⟩

end Timed

namespace Engine

/-- The view of an engine, from what a step says of its parts. -/
theorem timerView_of_writes {handle : ConnHandle} {before after : Engine} {slot : Option TcpConn}
    {wheel : TimerWheel} {armed : List Armed} {opened : List ConnHandle}
    (written : Writes handle before after slot) (sameWheel : after.timerWheel = wheel)
    (record : after.record.armings = (armed, opened)) :
    after.timerView =
      { before.timerView.write handle slot with
        wheel := wheel
        armed := armed
        opened := opened } := by
  have parts : after.record.armed = armed ∧ after.record.opened = opened := Prod.mk.inj record
  have conns : after.flowTable.get = (before.timerView.write handle slot).conns := funext written
  unfold timerView at *
  rw [conns, sameWheel, parts.1, parts.2]

theorem TimerStep.timed {handle : ConnHandle} {before after : Engine}
    {pending : List (TimerId × TimerNode)} (step : TimerStep handle before after)
    (timed : Timed before.timerView pending) : Timed after.timerView pending := by
  cases step with
  | same conns wheel record =>
      have parts : after.record.armed = before.record.armed ∧
          after.record.opened = before.record.opened := Prod.mk.inj record
      have view : after.timerView = before.timerView := by
        unfold timerView
        rw [funext conns, wheel, parts.1, parts.2]
      rw [view]
      exact timed
  | write present written timers wheel record =>
      rw [timerView_of_writes written wheel record]
      exact timed.write present timers
  | arm nowNs node present written owner timerIds name others wheel record =>
      rw [timerView_of_writes written wheel record]
      exact timed.arm nowNs node present owner timerIds name others
  | stop id present written timerIds named wheel record =>
      rw [timerView_of_writes written wheel record]
      exact timed.stop id present timerIds named
  | forget id dead present written timerIds named wheel record =>
      rw [timerView_of_writes written wheel record]
      exact timed.forget id dead present timerIds named
  | remove present written wheel record =>
      rw [timerView_of_writes written (wheel.trans (cancelTimers_wheel before _)) record]
      exact timed.remove present
  | insert vacant written fresh unnamed wheel record =>
      rw [timerView_of_writes written wheel record]
      exact timed.insert vacant unnamed

/-- Deeds keep the timers with their owners, where only fired timers are struck off. -/
theorem Work.timed {allowed : Edit → Prop} {before after : Engine}
    {pending : List (TimerId × TimerNode)} (work : Work allowed before after)
    (fired : ∀ kind id, allowed (.strike kind id) → ∃ node, (id, node) ∈ pending)
    (timed : Timed before.timerView pending) : Timed after.timerView pending := by
  induction work with
  | refl => exact timed
  | tail _ deed ih =>
      rcases deed with ⟨handle, deed⟩
      refine (deed.timerStep ?_).timed ih
      intro kind id striking few
      rcases fired kind id striking with ⟨node, member⟩
      exact ((ih.owned few).fired id node member).2

end Engine

end DpdkTcp
