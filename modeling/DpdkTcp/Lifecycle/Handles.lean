import DpdkTcp.Lifecycle.Audience
import DpdkTcp.Lifecycle.Carry
import DpdkTcp.Wakeup.Wake

/-!
# Handles of removed connections

A handle is the number of a slot, and `connect` takes the lowest empty slot. It
may hold a connection again as soon as the last one is gone, when the
application does not know of it yet. As long as `connect` waits until every
event of that connection was taken from the queue, the handle is dead until
then: every call on it is refused and leaves the engine as it is.
-/

namespace DpdkTcp

/-- A new connection gets the lowest empty slot. -/
theorem FlowTable.insert_lowest {table : FlowTable} {conn : TcpConn} {handle : ConnHandle}
    (inserted : (table.insert conn).2 = some handle) :
    (table.slots.findIdx? Option.isNone).map (· + 1) = some handle := by
  unfold insert at inserted
  cases taken : table.byTuple conn.fourTuple with
  | some _ => simp [taken] at inserted
  | none =>
      cases slot : table.slots.findIdx? Option.isNone with
      | none => simp [taken, slot] at inserted
      | some slot =>
          simp only [taken, slot] at inserted
          exact inserted

namespace Host

/-- No call on the handle acts on a connection. -/
structure Retired (host : Host) (handle : ConnHandle) : Prop where
  absent : host.engine.flowTable.get handle = none
  send : ∀ bytes envs tlpNs,
    host.engine.sendBytes handle bytes envs tlpNs = (host.engine, .error .invalidConnHandle)
  close : ∀ finSent nowNs, host.engine.closeConn handle finSent nowNs = host.engine ∧
    host.engine.closeConnResult handle finSent = .error .invalidConnHandle
  stats : host.engine.flowTable.getStats handle host.engine.cfg.sendBufferBytes = none

variable {host : Host} {handle : ConnHandle}

theorem retired_of_absent (absent : host.engine.flowTable.get handle = none) :
    host.Retired handle := by
  refine ⟨absent, fun bytes envs tlpNs => ?_, fun finSent nowNs => ⟨?_, ?_⟩, ?_⟩
  · rw [Engine.sendBytes, absent]
  · rw [Engine.closeConn, absent]
  · rw [Engine.closeConnResult, absent]
  · rw [FlowTable.getStats, absent]
    rfl

/-- A removed connection does not come back, unless its handle is given out again. -/
theorem absent_step {op : SystemOp} (absent : host.engine.flowTable.get handle = none)
    (same : host.opens op handle = false) :
    (host.systemStep op).engine.flowTable.get handle = none := by
  cases found : (host.systemStep op).engine.flowTable.get handle with
  | none => rfl
  | some after =>
      rcases present_before same found with ⟨conn, present⟩
      rw [absent] at present
      cases present

/-! ### Which handle is given out -/

/-- Only `connect` gives out a handle, the one of the lowest empty slot. -/
theorem opens_connect {op : SystemOp} (opens : host.opens op handle = true) :
    host.nextHandle = some handle ∧ ∃ tuple iss ourMss opts synSent nowNs,
      op = .call (.connect tuple iss ourMss opts synSent nowNs) := by
  have more := of_decide_eq_true opens
  have still : (host.systemStep op).engine.record.incarnation handle ≠
      host.engine.record.incarnation handle := Nat.ne_of_gt more
  cases op with
  | call op =>
      by_cases connects : ∃ tuple iss ourMss opts synSent nowNs,
          op = .connect tuple iss ourMss opts synSent nowNs
      · rcases connects with ⟨tuple, iss, ourMss, opts, synSent, nowNs, rfl⟩
        refine ⟨?_, tuple, iss, ourMss, opts, synSent, nowNs, rfl⟩
        rcases host.engine.connectWithOpts_opened tuple iss ourMss opts synSent nowNs with
          same | ⟨fresh, inserted, opened⟩
        · exact absurd (congrArg (List.count handle) same) still
        · have own : handle = fresh := by
            by_contra apart
            refine still ((congrArg (List.count handle) opened).trans ?_)
            rw [List.count_append, List.count_singleton, if_neg (by simpa using Ne.symm apart)]
            rfl
          rw [own]
          exact FlowTable.insert_lowest inserted
      · refine absurd (step_incarnation ?_ handle) still
        exact fun tuple iss ourMss opts synSent nowNs same =>
          connects ⟨tuple, iss, ourMss, opts, synSent, nowNs, same⟩
  | complete index =>
      refine absurd ?_ still
      dsimp only [systemStep, Engine.completeFrame]
      split
      · rfl
      · rw [Engine.releaseMbufs_only]
  | drainEvents max => exact absurd rfl still
  | drop =>
      refine absurd ?_ still
      dsimp only [systemStep, Engine.drop]
      rw [Engine.releaseMbufs_only]

end Host

namespace Audience

variable {audience now : Audience} {handle : ConnHandle}

/-- A handle is given out when its connections are settled. -/
theorem settled_of_opens {op : SystemOp} (orderly : audience.orderly op = true)
    (opens : audience.host.opens op handle = true) : audience.settled handle = true := by
  rcases Host.opens_connect opens with ⟨next, tuple, iss, ourMss, opts, synSent, nowNs, rfl⟩
  rw [Audience.orderly, next] at orderly
  exact orderly

theorem ended_le_step (audience : Audience) (op : SystemOp) (handle : ConnHandle) :
    audience.ended handle ≤ (audience.step op).ended handle := by
  cases op with
  | drainEvents max =>
      dsimp only [ended, step]
      rw [List.countP_append]
      exact Nat.le_add_right _ _
  | call | complete | drop => exact Nat.le_refl _

theorem incarnation_le_step (audience : Audience) (op : SystemOp) (handle : ConnHandle) :
    audience.host.engine.record.incarnation handle ≤
      (audience.step op).host.engine.record.incarnation handle := by
  rcases audience.host.incarnation_step op handle with same | ⟨more, _⟩
  · exact Nat.le_of_eq same.symm
  · exact (Nat.le_succ _).trans_eq more.symm

/-- Of the connections of a handle at most the last is not seen to the end. -/
theorem incarnation_le_ended {op : SystemOp} (orderly : audience.orderly op = true)
    (before : audience.host.engine.record.incarnation handle ≤ audience.ended handle + 1) :
    (audience.step op).host.engine.record.incarnation handle ≤
      (audience.step op).ended handle + 1 := by
  have taken := audience.ended_le_step op handle
  rcases audience.host.incarnation_step op handle with same | ⟨more, _⟩
  · exact (same.trans_le before).trans (Nat.succ_le_succ taken)
  · have opens : audience.host.opens op handle = true :=
      decide_eq_true (by rw [more]; exact Nat.lt_succ_self _)
    have all := of_decide_eq_true (Bool.and_eq_true_iff.mp (settled_of_opens orderly opens)).2
    exact more.trans_le (Nat.succ_le_succ (all.trans taken))

/-- Nothing is given out under a handle that a connection was removed from, as long as an event of
it is in the queue or its last one is not taken. -/
theorem absent_later {later : Audience}
    (absent : now.host.engine.flowTable.get handle = none)
    (run : Run.Reaches step (fun audience op => audience.orderly op = true) now later)
    (unsettled : (∃ event ∈ now.stale later, event.about handle = true) ∨
      later.ended handle < now.host.engine.record.incarnation handle) :
    later.host.engine.flowTable.get handle = none := by
  have kept : now.host.engine.events.pushed.length ≤ later.host.engine.events.pushed.length ∧
      now.host.engine.record.incarnation handle ≤ later.host.engine.record.incarnation handle ∧
      ((∃ event ∈ now.stale later, event.about handle = true) ∨
          later.ended handle < now.host.engine.record.incarnation handle →
        later.host.engine.flowTable.get handle = none) := by
    apply run.invariant
    · exact ⟨Nat.le_refl _, Nat.le_refl _, fun _ => absent⟩
    · rintro audience op ⟨older, fewer, gone⟩ orderly
      refine ⟨?_, fewer.trans (audience.incarnation_le_step op handle), fun unsettled => ?_⟩
      · rcases audience.host.systemStep_slides op with ⟨news, _, pushed, _, _⟩
        refine older.trans ?_
        dsimp only [step]
        rw [pushed, List.length_append]
        exact Nat.le_add_right _ _
      · -- what is unsettled after the step was so before it
        have before : (∃ event ∈ now.stale audience, event.about handle = true) ∨
            audience.ended handle < now.host.engine.record.incarnation handle := by
          rcases unsettled with ⟨event, member, about⟩ | unseen
          · rcases stale_step op older with ⟨count, same⟩
            rw [same] at member
            exact .inl ⟨event, List.mem_of_mem_drop member, about⟩
          · exact .inr ((audience.ended_le_step op handle).trans_lt unseen)
        refine Host.absent_step (gone before) (Bool.eq_false_iff.mpr fun opens => ?_)
        rcases Bool.and_eq_true_iff.mp (settled_of_opens orderly opens) with ⟨none, all⟩
        rcases before with ⟨event, member, about⟩ | unseen
        · have other := List.all_eq_true.mp none event (List.mem_of_mem_take member)
          rw [about] at other
          cases other
        · exact absurd ((fewer.trans (of_decide_eq_true all)).trans_lt unseen) (Nat.lt_irrefl _)
  exact kept.2.2 unsettled

end Audience

namespace Host

/-- In every run in which `connect` is called only when, of the connections that the lowest empty
slot held before, no event is in the queue and the application has taken the last one of each: until
the application has seen the end of the last connection a handle was returned for, the handle is not
returned again. When that connection is removed, every call on its handle is refused and changes
nothing, as long as an event of it is in the queue or the application has not seen its end. -/
theorem handles_not_recycled {cfg : EngineConfig} {maxConnections eventSoftCap : ℕ}
    {now later : Audience} (handle : ConnHandle)
    (run : Run.Reaches Audience.step (fun audience op => audience.orderly op = true)
      (Audience.start cfg maxConnections eventSoftCap) now)
    (after : Run.Reaches Audience.step (fun audience op => audience.orderly op = true) now later) :
    (later.ended handle < now.host.engine.record.incarnation handle →
      later.host.engine.record.incarnation handle = now.host.engine.record.incarnation handle) ∧
    (handle ∈ now.host.engine.record.opened → now.host.engine.flowTable.get handle = none →
      ((∃ event ∈ now.stale later, event.about handle = true) ∨
        later.ended handle < now.host.engine.record.incarnation handle) →
      later.host.Retired handle) := by
  constructor
  · intro unseen
    have atMost : later.host.engine.record.incarnation handle ≤ later.ended handle + 1 := by
      apply (run.trans after).invariant
      · exact Nat.zero_le _
      · exact fun audience op before orderly => Audience.incarnation_le_ended orderly before
    have atLeast : now.host.engine.record.incarnation handle ≤
        later.host.engine.record.incarnation handle := by
      apply after.invariant
      · exact Nat.le_refl _
      · exact fun audience op before _ => before.trans (audience.incarnation_le_step op handle)
    exact Nat.le_antisymm (atMost.trans unseen) atLeast
  · exact fun _ removed unsettled => retired_of_absent (Audience.absent_later removed after unsettled)

/-- The peer refuses the connection with handle 1. -/
def refused : List SystemOp :=
  [opening, .call (receiveAt 2000 200#32 101#32 (TCP_RST ||| TCP_ACK))]

/-- Another connection is opened, and the peer accepts it. -/
def reusedHandle : List SystemOp :=
  [.call (.connect ⟨0x0a000002#32, 40001, 0x0a000001#32, 5000⟩ 300#32 1460
      ⟨false, false, 0, 0, false, 0, false⟩ true 3000),
    .call (.segment 1 (synAck 300#32 200#32 5000) none (inputAt 4000))]

/-- The first connection, refused and its end not yet seen. -/
def refusedAudience : Audience :=
  refused.foldl Audience.step (.start quickCfg 1 64)

/-- The application takes one event and leaves `Closed` in the queue: handle 1 is dead. Once it has
taken them all, handle 1 may be given out again, and then it is the second connection's. -/
theorem handles_not_recycled_refused :
    ((Audience.step refusedAudience (.drainEvents 1)).host.engine.record.incarnation 1 = 1 ∧
      (Audience.step refusedAudience (.drainEvents 1)).host.Retired 1) ∧
    (((.drainEvents 10) :: reusedHandle).foldl Audience.step
      refusedAudience).host.engine.record.incarnation 1 = 2 := by
  have first : Run.Reaches Audience.step (fun audience op => audience.orderly op = true)
      (.start quickCfg 1 64) refusedAudience :=
    .of_admits (by decide +kernel : Run.admits Audience.step Audience.orderly
      (.start quickCfg 1 64) refused = true)
  have again : Run.Reaches Audience.step (fun audience op => audience.orderly op = true)
      refusedAudience (((.drainEvents 10) :: reusedHandle).foldl Audience.step refusedAudience) :=
    .of_admits (by decide +kernel : Run.admits Audience.step Audience.orderly
      refusedAudience ((.drainEvents 10) :: reusedHandle) = true)
  have dead := handles_not_recycled 1 first (.tail (.drainEvents 1) .refl rfl)
  have second := handles_not_recycled 1 (first.trans again) .refl
  refine ⟨⟨(dead.1 (by decide +kernel)).trans (by decide +kernel),
    dead.2 (by decide +kernel) (by decide +kernel) (.inl ?_)⟩, ?_⟩
  · refine ⟨.closed 1 0 2000, by decide +kernel, by decide +kernel⟩
  · exact (second.1 (by decide +kernel)).trans (by decide +kernel)

/-- The handle of a removed connection, whose `Closed` event still waits in the
queue, stands for the next connection, and a send on it goes there. -/
theorem handle_recycled :
    ¬ ∀ host later handle,
      Run.Reaches systemStep (fun _ _ => True) (start quickCfg 1 64) host →
      Run.Reaches systemStep (fun _ _ => True) host later →
      handle ∈ host.engine.record.opened → host.engine.flowTable.get handle = none →
      .closed handle 0 2000 ∈ host.engine.events.q → .closed handle 0 2000 ∈ later.engine.events.q →
      later.Retired handle := by
  intro retired
  have first := (Run.Reaches.of_admits (rfl : Run.admits systemStep (fun _ _ => true)
    (start quickCfg 1 64) refused = true)).mono fun _ _ _ => trivial
  have second := (Run.Reaches.of_admits (rfl : Run.admits systemStep (fun _ _ => true)
    (refused.foldl systemStep (start quickCfg 1 64)) reusedHandle = true)).mono fun _ _ _ => trivial
  have dead := retired _ _ 1 first second (by decide +kernel) (by decide +kernel)
    (by decide +kernel) (by decide +kernel)
  have accepts : ((reusedHandle.foldl systemStep
      (refused.foldl systemStep (start quickCfg 1 64))).engine.sendBytes 1 [1, 2, 3]
        (fun _ => ⟨some 5, true, 0, 5000, 5000⟩) 5000).2.toOption = some 3 := by decide +kernel
  rw [dead.send] at accepts
  cases accepts

end Host

end DpdkTcp
