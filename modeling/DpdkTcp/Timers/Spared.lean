import DpdkTcp.Timers.Custody

/-!
# Timers of bystanders

What is done for one connection cancels no timer of another: a connection cancels
only timers it has on its lists, and these were armed for it.
-/

namespace DpdkTcp

/-- The timer waits in the wheel, for this owner and the handler of this kind. -/
def TimerWheel.Runs (wheel : TimerWheel) (id : TimerId) (owner : ConnHandle) (kind : TimerKind) :
    Prop :=
  ∃ node, wheel.Live id.slot node ∧ node.generation = id.generation ∧
    node.ownerHandle = owner ∧ node.kind = kind

namespace TimerWheel

variable {wheel after : TimerWheel} {id : TimerId} {owner : ConnHandle} {kind : TimerKind}

theorem Runs.add (runs : wheel.Runs id owner kind) {other : TimerId} {added : TimerNode}
    (adds : Adds wheel after other added) : after.Runs id owner kind ∧ id ≠ other := by
  rcases runs with ⟨node, ⟨held, alive⟩, generation, owned, sort⟩
  have differs : id.slot ≠ other.slot := by
    intro same
    rw [same, adds.vacant] at held
    cases held
  refine ⟨⟨node, ⟨?_, alive⟩, generation, owned, sort⟩, fun same => differs (by rw [same])⟩
  rw [adds.nodes, if_neg differs]
  exact held

theorem Runs.cancel (runs : wheel.Runs id owner kind) {other : TimerId} (differs : other ≠ id) :
    (wheel.cancel other).Runs id owner kind := by
  rcases runs with ⟨node, ⟨held, alive⟩, generation, owned, sort⟩
  have unmarked : marked other id.slot node = node := by
    refine if_neg ?_
    rintro ⟨slot, stamp⟩
    refine differs ?_
    rcases other
    rcases id
    simp_all
  refine ⟨node, ⟨?_, alive⟩, generation, owned, sort⟩
  rw [nodeAt_cancel, held, Option.map_some, unmarked]

theorem Runs.cancelAll (runs : wheel.Runs id owner kind) {ids : List TimerId} (apart : id ∉ ids) :
    (ids.foldl TimerWheel.cancel wheel).Runs id owner kind := by
  induction ids generalizing wheel with
  | nil => exact runs
  | cons other rest ih =>
      rw [List.mem_cons, not_or] at apart
      exact ih (runs.cancel (Ne.symm apart.1)) apart.2

theorem Runs.sheds (runs : wheel.Runs id owner kind) {fired : List (TimerId × TimerNode)}
    (sheds : Sheds wheel after fired) :
    after.Runs id owner kind ∨
      ∃ node, (id, node) ∈ fired ∧ node.ownerHandle = owner ∧ node.kind = kind := by
  rcases runs with ⟨node, ⟨held, alive⟩, generation, owned, sort⟩
  rcases sheds.keeps id.slot node held alive with stays | leaves
  · exact .inl ⟨node, ⟨stays, alive⟩, generation, owned, sort⟩
  · rw [generation] at leaves
    exact .inr ⟨node, leaves, owned, sort⟩

theorem Sound.cancelAll (sound : wheel.Sound) (ids : List TimerId) :
    (ids.foldl TimerWheel.cancel wheel).Sound := by
  induction ids generalizing wheel with
  | nil => exact sound
  | cons other rest ih => exact ih (sound.cancel other)

end TimerWheel

theorem TcpConn.allTimerIds_struck (conn : TcpConn) (kind : TimerKind) (id known : TimerId)
    (listed : known ∈ (conn.struck kind id).allTimerIds) : known ∈ conn.allTimerIds := by
  unfold allTimerIds struck naming at *
  cases kind <;> simp [withoutTimer] at listed ⊢ <;> tauto

theorem SameTimers.allTimerIds {before after : TcpConn} (same : SameTimers before after)
    {id : TimerId} (listed : id ∈ after.allTimerIds) : id ∈ before.allTimerIds := by
  have named : ∀ kind, id ∈ (after.timerOf kind).toList → id ∈ (before.timerOf kind).toList := by
    intro kind member
    rcases same.named kind with kept | dropped
    · rw [← kept]
      exact member
    · rw [dropped] at member
      cases member
  have rto := named .rto
  have tlp := named .tlp
  have syn := named .synRetrans
  simp only [TcpConn.timerOf] at rto tlp syn
  unfold TcpConn.allTimerIds at *
  rw [same.timerIds] at listed
  simp only [List.mem_append] at listed ⊢
  tauto

namespace Engine

variable {allowed : Edit → Prop} {target handle : ConnHandle} {before after engine : Engine}
  {id : TimerId} {kind : TimerKind}

/-- No other connection has the timer on a list. -/
def Apart (engine : Engine) (handle : ConnHandle) (id : TimerId) : Prop :=
  ∀ other conn, other ≠ handle → engine.flowTable.get other = some conn → id ∉ conn.allTimerIds

/-- The timer runs, and no other connection can cancel it. -/
structure Spared (engine : Engine) (handle : ConnHandle) (id : TimerId) (kind : TimerKind) :
    Prop where
  sound : engine.timerWheel.Sound
  runs : engine.timerWheel.Runs id handle kind
  apart : engine.Apart handle id

/-- The other connections have no new timer on their lists. -/
theorem Apart.write {conn' : TcpConn} (apart : before.Apart handle id)
    (written : Writes target before after (some conn')) (unlisted : id ∉ conn'.allTimerIds) :
    after.Apart handle id := by
  intro other conn elsewhere live
  rw [written] at live
  split at live
  · cases live
    exact unlisted
  · exact apart other conn elsewhere live

/-- A deed on another connection spares the timer. -/
theorem Deed.spares (deed : Deed allowed target before after) (differs : target ≠ handle)
    (keeps : ∀ other, allowed (.forget other) → other ≠ id)
    (spared : before.Spared handle id kind) : after.Spared handle id kind := by
  rcases spared with ⟨sound, runs, apart⟩
  cases deed with
  | aside conns wheel record =>
      refine ⟨by rw [wheel]; exact sound, by rw [wheel]; exact runs, fun other conn elsewhere live =>
        apart other conn elsewhere ((conns other).symm.trans live)⟩
  | edit edit isAllowed present alone written wheel record =>
      refine ⟨by rw [wheel]; exact sound, by rw [wheel]; exact runs,
        apart.write written ?_⟩
      intro listed
      refine apart target _ differs present ?_
      by_cases striking : ∃ kind id, edit = .strike kind id
      · rcases striking with ⟨kind, id, rfl⟩
        exact TcpConn.allTimerIds_struck _ _ _ _ listed
      · exact (Edit.sameTimers alone fun kind id same => striking ⟨kind, id, same⟩).allTimerIds
          listed
  | @arm conn armedKind nowNs delayUs isAllowed own gate present written wheel record =>
      have adds := sound.add nowNs ⟨nowNs + delayUs * 1000, target, armedKind, 0, 0#32, false⟩
      rcases runs.add adds.2 with ⟨stays, fresh⟩
      refine ⟨by rw [wheel]; exact adds.1, by rw [wheel]; exact stays,
        apart.write written ?_⟩
      intro listed
      have unlisted := apart target conn differs present
      have known : id ∈ conn.allTimerIds ∨
          id = (before.addTimer target armedKind nowNs delayUs).2 := by
        unfold TcpConn.allTimerIds TcpConn.armed TcpConn.naming at *
        cases armedKind <;> simp at listed ⊢ <;> tauto
      exact known.elim unlisted fresh
  | @stop conn stopped other present named written wheel record =>
      have unlisted := apart target conn differs present
      have listed : other ∈ conn.allTimerIds := by
        unfold TcpConn.allTimerIds
        cases stopped <;> simp_all [TcpConn.timerOf]
      refine ⟨by rw [wheel]; exact sound.cancel other, ?_,
        apart.write written fun still => unlisted ?_⟩
      · rw [wheel]
        exact runs.cancel fun same => unlisted (same ▸ listed)
      · exact TcpConn.allTimerIds_struck _ _ _ _ still
  | @forget conn other isAllowed present written wheel record =>
      refine ⟨by rw [wheel]; exact sound.cancel other, ?_,
        apart.write written fun still => apart target conn differs present ?_⟩
      · rw [wheel]
        exact runs.cancel (keeps other isAllowed)
      · unfold TcpConn.allTimerIds TcpConn.withoutTimer at *
        simp at still ⊢
        tauto
  | @remove conn present written wheel record =>
      have cancelled := wheel.trans (cancelTimers_wheel before conn.allTimerIds)
      refine ⟨by rw [cancelled]; exact sound.cancelAll _, ?_, ?_⟩
      · rw [cancelled]
        exact runs.cancelAll (apart target conn differs present)
      · intro other conn' elsewhere live
        rw [written] at live
        split at live
        · cases live
        · exact apart other conn' elsewhere live
  | insert tuple iss ourMss opts nowNs isAllowed vacant written wheel record =>
      refine ⟨by rw [wheel]; exact sound, by rw [wheel]; exact runs,
        apart.write written ?_⟩
      exact List.not_mem_nil

/-- Every timer on the list of a connection was armed for it. -/
def Listed (engine : Engine) : Prop :=
  ∀ handle conn id, engine.flowTable.get handle = some conn → id ∈ conn.timerIds →
    ∃ kind, ⟨id, handle, engine.record.incarnation handle, kind⟩ ∈ engine.record.armed

theorem TimerStep.listed (step : TimerStep target before after) (listed : before.Listed) :
    after.Listed := by
  -- the lists of the others stay as they are, and so do the records of their timers
  have others : ∀ {slot : Option TcpConn}, Writes target before after slot →
      (∀ timer ∈ before.record.armed, timer ∈ after.record.armed) →
      (∀ other, other ≠ target →
        after.record.incarnation other = before.record.incarnation other) →
      (∀ conn id, slot = some conn → id ∈ conn.timerIds →
        ∃ kind, ⟨id, target, after.record.incarnation target, kind⟩ ∈ after.record.armed) →
      after.Listed := by
    intro slot written grown same own other conn id live member
    rw [written] at live
    split at live
    · rename_i here
      rw [here]
      exact own conn id live member
    · rename_i elsewhere
      rcases listed other conn id live member with ⟨kind, known⟩
      exact ⟨kind, grown _ ((same other elsewhere).symm ▸ known)⟩
  have unchanged : ∀ {conn conn' : TcpConn}, before.flowTable.get target = some conn →
      Writes target before after (some conn') →
      after.record.armings = before.record.armings →
      (∀ id ∈ conn'.timerIds, id ∈ conn.timerIds) → after.Listed := by
    intro conn conn' present written record fewer
    have armed : after.record.armed = before.record.armed := congrArg Prod.fst record
    have count : ∀ other, after.record.incarnation other = before.record.incarnation other :=
      fun other => congrArg (List.count other) (congrArg Prod.snd record)
    refine others written (fun timer known => armed ▸ known) (fun other _ => count other) ?_
    intro live id same member
    cases same
    rw [armed, count]
    exact listed target conn id present (fewer id member)
  cases step with
  | same conns wheel record =>
      intro other conn id live member
      rcases listed other conn id ((conns other).symm.trans live) member with ⟨kind, known⟩
      have armed : after.record.armed = before.record.armed := congrArg Prod.fst record
      have count : after.record.incarnation other = before.record.incarnation other :=
        congrArg (List.count other) (congrArg Prod.snd record)
      exact ⟨kind, by rw [armed, count]; exact known⟩
  | write present written timers wheel record =>
      exact unchanged present written record fun id member => timers.timerIds ▸ member
  | @arm conn conn' nowNs node present written owner timerIds name rest wheel record =>
      have armed := congrArg Prod.fst record
      have count : ∀ other, after.record.incarnation other = before.record.incarnation other :=
        fun other => congrArg (List.count other) (congrArg Prod.snd record)
      dsimp only [Record.armings] at armed
      refine others written (fun timer known => ?_) (fun other _ => count other) ?_
      · rw [armed]
        exact List.mem_append_left _ known
      · intro live id same member
        cases same
        rw [armed, count]
        rw [timerIds] at member
        rcases List.mem_append.mp member with old | new
        · rcases listed target conn id present old with ⟨kind, known⟩
          exact ⟨kind, List.mem_append_left _ known⟩
        · rw [List.mem_singleton.mp new]
          exact ⟨node.kind, List.mem_append_right _ (List.mem_singleton.mpr rfl)⟩
  | stop id present written timerIds named wheel record
  | forget id dead present written timerIds named wheel record =>
      refine unchanged present written record fun known member => ?_
      rw [timerIds] at member
      exact (List.mem_filter.mp member).1
  | remove present written wheel record =>
      have armed : after.record.armed = before.record.armed := congrArg Prod.fst record
      exact others written (fun timer known => armed ▸ known)
        (fun other _ => congrArg (List.count other) (congrArg Prod.snd record)) (fun _ _ => nofun)
  | insert vacant written fresh unnamed wheel record =>
      have armed : after.record.armed = before.record.armed := congrArg Prod.fst record
      refine others written (fun timer known => armed ▸ known) (fun other elsewhere => ?_) ?_
      · have opened : after.record.opened = before.record.opened ++ [target] :=
          congrArg Prod.snd record
        rw [Record.incarnation, Record.incarnation, opened, List.count_append,
          List.count_singleton, if_neg (by simpa using Ne.symm elsewhere), Nat.add_zero]
      · intro live id same member
        cases same
        rw [fresh] at member
        cases member

/-- The record of armed timers only grows. -/
theorem TimerStep.grows (step : TimerStep target before after) :
    ∃ more, after.record.armed = before.record.armed ++ more := by
  have same : after.record.armings = before.record.armings →
      ∃ more, after.record.armed = before.record.armed ++ more :=
    fun record => ⟨[], (congrArg Prod.fst record).trans (List.append_nil _).symm⟩
  cases step with
  | same _ _ record | write _ _ _ _ record | stop _ _ _ _ _ _ record
  | forget _ _ _ _ _ _ _ record | remove _ _ _ record => exact same record
  | arm _ _ _ _ _ _ _ _ _ record => exact ⟨_, congrArg Prod.fst record⟩
  | insert _ _ _ _ _ record =>
      exact ⟨[], (congrArg Prod.fst record).trans (List.append_nil _).symm⟩

theorem Deeds.spares (deeds : Deeds allowed target before after) (differs : target ≠ handle)
    (keeps : ∀ other, allowed (.forget other) → other ≠ id)
    (spared : before.Spared handle id kind) : after.Spared handle id kind := by
  induction deeds with
  | refl => exact spared
  | tail _ deed ih => exact deed.spares differs keeps ih

/-- The timers are in order: they are owned, and every list names timers of its connection. -/
structure InOrder (engine : Engine) (pending : List (TimerId × TimerNode)) : Prop where
  timed : Timed engine.timerView pending
  listed : engine.Listed

namespace InOrder

variable {pending : List (TimerId × TimerNode)}

theorem step (order : before.InOrder pending) (step : TimerStep target before after) :
    after.InOrder pending :=
  ⟨step.timed order.timed, step.listed order.listed⟩

/-- Deeds keep the timers in order, where only fired timers are struck off. -/
theorem work (order : before.InOrder pending) (work : Work allowed before after)
    (fired : ∀ kind id, allowed (.strike kind id) → ∃ node, (id, node) ∈ pending) :
    after.InOrder pending := by
  induction work with
  | refl => exact order
  | tail _ deed ih =>
      rcases deed with ⟨handle, deed⟩
      refine ih.step (deed.timerStep fun kind id striking few => ?_)
      rcases fired kind id striking with ⟨node, member⟩
      exact ((ih.timed.owned few).fired id node member).2

/-- The timer a connection knows is on no list of another connection. -/
theorem apart (order : engine.InOrder pending) (few : FewReuses engine.record.armed)
    {conn : TcpConn} (present : engine.flowTable.get handle = some conn)
    (name : conn.timerOf kind = some id) : engine.Apart handle id := by
  have owned := order.timed.owned few
  have mine := owned.named handle conn kind id present name
  intro other conn' elsewhere live member
  have theirs : ∃ kind', ⟨id, other, engine.record.incarnation other, kind'⟩ ∈
      engine.record.armed := by
    unfold TcpConn.allTimerIds at member
    simp only [List.mem_append, Option.mem_toList] at member
    rcases member with ((member | named) | named) | named
    · exact order.listed other conn' id live member
    · exact ⟨.rto, owned.named other conn' .rto id live named⟩
    · exact ⟨.tlp, owned.named other conn' .tlp id live named⟩
    · exact ⟨.synRetrans, owned.named other conn' .synRetrans id live named⟩
  rcases theirs with ⟨kind', theirs⟩
  have same := List.inj_on_of_nodup_map owned.distinct theirs mine rfl
  exact elsewhere (congrArg Armed.handle same)

theorem spared (order : engine.InOrder pending) (few : FewReuses engine.record.armed)
    {conn : TcpConn} (present : engine.flowTable.get handle = some conn)
    (name : conn.timerOf kind = some id) (runs : engine.timerWheel.Runs id handle kind) :
    engine.Spared handle id kind :=
  ⟨order.timed.counted.sound, runs, order.apart few present name⟩

end InOrder

theorem Work.grows (work : Work allowed before after) :
    ∃ more, after.record.armed = before.record.armed ++ more := by
  induction work with
  | refl => exact ⟨[], (List.append_nil _).symm⟩
  | tail _ deed ih =>
      rcases ih with ⟨first, grown⟩
      rcases deed with ⟨handle, deed⟩
      have later : ∀ {before after : Engine}, Deed allowed handle before after →
          ∃ more, after.record.armed = before.record.armed ++ more := by
        intro before after deed
        cases deed with
        | aside _ _ record | edit _ _ _ _ _ _ record | stop _ _ _ _ _ _ record
        | forget _ _ _ _ _ record | remove _ _ _ record =>
            exact ⟨[], (congrArg Prod.fst record).trans (List.append_nil _).symm⟩
        | arm _ _ _ _ _ _ _ _ _ record => exact ⟨_, congrArg Prod.fst record⟩
        | insert _ _ _ _ _ _ _ _ _ record =>
            exact ⟨[], (congrArg Prod.fst record).trans (List.append_nil _).symm⟩
      rcases later deed with ⟨second, more⟩
      exact ⟨first ++ second, by rw [more, grown, List.append_assoc]⟩

end Engine

theorem FewReuses.of_append {armed more : List Armed} (few : FewReuses (armed ++ more)) :
    FewReuses armed := by
  intro slot
  have bound := few slot
  unfold usesOf at *
  rw [List.map_append, List.count_append] at bound
  omega

end DpdkTcp
