import DpdkTcp.Lifecycle.Order
import DpdkTcp.Window.Advert

/-!
# What the application takes from the event queue

Every call appends events to the queue and may discard some from its front, and
the application takes events from the front. So the events that were there at
one moment are, at a later one, those in front of what was pushed since.
-/

namespace DpdkTcp

/-! ### The queue over a step -/

/-- Events were appended, and others went from the front. -/
def EventQueue.Slides (before after : EventQueue) : Prop :=
  ∃ news count, after.pushed = before.pushed ++ news ∧ after.q = (before.q ++ news).drop count ∧
    count ≤ before.q.length + news.length

namespace EventQueue

variable {first second third : EventQueue}

theorem Slides.refl (queue : EventQueue) : Slides queue queue :=
  ⟨[], 0, (List.append_nil _).symm, (List.append_nil _).symm, Nat.zero_le _⟩

theorem Slides.of_eq (same : second = first) : Slides first second :=
  same ▸ .refl first

theorem Slides.trans (left : Slides first second) (right : Slides second third) :
    Slides first third := by
  rcases left with ⟨news, count, pushed, q, within⟩
  rcases right with ⟨more, further, pushed', q', within'⟩
  have middle : second.q.length = first.q.length + news.length - count := by
    rw [q, List.length_drop, List.length_append]
  refine ⟨news ++ more, count + further, ?_, ?_, ?_⟩
  · rw [pushed', pushed, List.append_assoc]
  · have front : count ≤ (first.q ++ news).length := by
      rw [List.length_append]
      exact within
    rw [q', q, ← List.drop_append_of_le_length front, List.drop_drop, List.append_assoc]
  · rw [List.length_append]
    omega

theorem slides_push (queue : EventQueue) (event : InternalEvent) :
    Slides queue (queue.push event) := by
  refine ⟨[event], if queue.softCap ≤ queue.q.length then min 1 queue.q.length else 0, rfl, ?_, ?_⟩
  · dsimp only [push]
    split
    · rw [List.drop_append_of_le_length (Nat.min_le_right _ _)]
      cases queue.q with
      | nil => rfl
      | cons head rest => simp
    · rfl
  · split
    · exact (Nat.min_le_right _ _).trans (Nat.le_add_right _ _)
    · exact Nat.zero_le _

end EventQueue

open EventQueue

namespace Engine

theorem Edits.slides {before after : Engine} (edits : Edits before after) :
    Slides before.events after.events := by
  induction edits with
  | same _ _ events => exact .of_eq events
  | push event _ => exact slides_push _ event
  | modify | remove => exact .refl _
  | trans _ _ left right => exact left.trans right

variable (engine : Engine) (handle : ConnHandle)

theorem handOver_slides (delivered rxHwTsNs emittedTsNs : ℕ) :
    Slides engine.events (engine.handOver handle delivered rxHwTsNs emittedTsNs).events := by
  dsimp only [handOver, deliverReadable]
  split
  · exact .refl _
  · split
    · exact .refl _
    · exact slides_push _ _

theorem tcpInput_slides (seg : ParsedSegment) (mbufCtx : Option MbufInsertCtx) (env : InputEnv) :
    Slides engine.events (engine.tcpInput handle seg mbufCtx env).events := by
  cases present : engine.flowTable.get handle with
  | none =>
      rw [tcpInput_absent present]
      exact .refl _
  | some conn =>
      rcases tcpInput_edits engine handle present seg mbufCtx env rfl with ⟨moved, before, after⟩
      have start : Slides engine.events moved.events := before.slides
      refine start.trans (.trans ?_ after.slides)
      split
      · exact handOver_slides moved handle _ _ _
      · exact .refl _

/-- `connect` gives out the handle it inserts the connection under. -/
theorem connectWithOpts_opened (tuple : FourTuple) (iss : Seq) (ourMss : UInt16)
    (opts : ConnectOpts) (synSent : Bool) (nowNs : ℕ) :
    (engine.connectWithOpts tuple iss ourMss opts synSent nowNs).1.record.opened =
        engine.record.opened ∨
      ∃ fresh, (engine.flowTable.insert
          (engine.connecting tuple iss ourMss opts nowNs)).2 = some fresh ∧
        (engine.connectWithOpts tuple iss ourMss opts synSent nowNs).1.record.opened =
          engine.record.opened ++ [fresh] := by
  dsimp only [connectWithOpts]
  split
  · exact .inl rfl
  · split
    · exact .inl rfl
    · split
      · exact .inl rfl
      · rename_i fresh inserted
        split
        · exact .inl rfl
        · refine .inr ⟨fresh, inserted, ?_⟩
          refine (armSynRetrans_quiet _ fresh nowNs _).opened.trans ?_
          exact (transitionConn_tells _ fresh .synSent nowNs).opened

theorem connectWithOpts_slides (tuple : FourTuple) (iss : Seq) (ourMss : UInt16)
    (opts : ConnectOpts) (synSent : Bool) (nowNs : ℕ) :
    Slides engine.events
      (engine.connectWithOpts tuple iss ourMss opts synSent nowNs).1.events := by
  dsimp only [connectWithOpts]
  split
  · exact .refl _
  · split
    · exact .refl _
    · split
      · exact .refl _
      · split
        · exact .refl _
        · exact ((transitionConn_edits _ _ .synSent nowNs).trans
            (armSynRetrans_edits _ _ nowNs _)).slides

end Engine

theorem Host.systemStep_slides (host : Host) (op : SystemOp) :
    Slides host.engine.events (host.systemStep op).engine.events := by
  cases op with
  | call op =>
      cases op with
      | connect tuple iss ourMss opts synSent nowNs =>
          exact host.engine.connectWithOpts_slides tuple iss ourMss opts synSent nowNs
      | send target bytes envs tlpNs =>
          exact (Engine.sendBytes_edits host.engine target bytes envs tlpNs).slides
      | close target finSent nowNs =>
          exact (Engine.closeConn_edits host.engine target finSent nowNs).slides
      | segment target seg mbufCtx env =>
          exact host.engine.tcpInput_slides target seg mbufCtx env
      | advance | fireNext | flush | reap | twSkip => exact (host.step_edits rfl).slides
  | complete index =>
      dsimp only [Host.systemStep, Engine.completeFrame]
      split
      · exact .refl _
      · rw [Engine.releaseMbufs_only]
        exact .refl _
  | drainEvents max =>
      refine ⟨[], min max host.engine.events.q.length, (List.append_nil _).symm, ?_, ?_⟩
      · rw [List.append_nil]
        dsimp only [Host.systemStep, Engine.drainEvents, EventQueue.popMany]
        rcases Nat.le_total max host.engine.events.q.length with fewer | all
        · rw [Nat.min_eq_left fewer]
        · rw [Nat.min_eq_right all, List.drop_eq_nil_of_le all, List.drop_length]
      · exact (Nat.min_le_right _ _).trans (Nat.le_add_right _ _)
  | drop =>
      refine ⟨[], host.engine.events.q.length, ?_, ?_, Nat.le_add_right _ _⟩
      · dsimp only [Host.systemStep, Engine.drop]
        rw [Engine.releaseMbufs_only, List.append_nil]
      · dsimp only [Host.systemStep, Engine.drop]
        rw [Engine.releaseMbufs_only, List.append_nil, List.drop_length]

/-! ### What is taken from the queue -/

/-- The handle of the lowest empty slot. -/
def Host.nextHandle (host : Host) : Option ConnHandle :=
  (host.engine.flowTable.slots.findIdx? Option.isNone).map (· + 1)

/-- The event tells of the connection of a handle. -/
def InternalEvent.about (handle : ConnHandle) : InternalEvent → Bool
  | .connected conn .. => conn == handle
  | .readable conn .. => conn == handle
  | .closed conn .. => conn == handle
  | .stateChange conn .. => conn == handle
  | .error conn .. => conn == handle
  | .tcpRetrans conn .. => conn == handle
  | .tcpLossDetected conn .. => conn == handle
  | .writable conn .. => conn == handle
  | .apiTimer .. => false

/-- The event is the last one of a connection of the handle. -/
def InternalEvent.closes (handle : ConnHandle) : InternalEvent → Bool
  | .closed conn .. => conn == handle
  | _ => false

/-- A host with the events that the application has taken from the queue. -/
structure Audience where
  host : Host
  taken : List InternalEvent

namespace Audience

/-- A host without connections, whose application has taken nothing. -/
def start (cfg : EngineConfig) (maxConnections eventSoftCap : ℕ) : Audience :=
  { host := Host.start cfg maxConnections eventSoftCap, taken := [] }

/-- One step of a host, with what the application takes in it. -/
def step (audience : Audience) (op : SystemOp) : Audience :=
  { host := audience.host.systemStep op
    taken :=
      match op with
      | .drainEvents max => audience.taken ++ (audience.host.engine.events.popMany max).1
      | _ => audience.taken }

/-- How many connections of the handle the application has seen the end of. -/
def ended (audience : Audience) (handle : ConnHandle) : ℕ :=
  audience.taken.countP (InternalEvent.closes handle)

/-- The application has taken every event of the connections of the handle, and the last one of
each. -/
def settled (audience : Audience) (handle : ConnHandle) : Bool :=
  audience.host.engine.events.q.all (fun event => !event.about handle) &&
    decide (audience.host.engine.record.incarnation handle ≤ audience.ended handle)

/-- `connect` is called only when the connections that the lowest empty slot held before are
settled. -/
def orderly (audience : Audience) : SystemOp → Bool
  | .call (.connect ..) => audience.host.nextHandle.all audience.settled
  | _ => true

/-- The events of the queue that were pushed before an earlier moment. -/
def stale (now later : Audience) : List InternalEvent :=
  let fresh := later.host.engine.events.pushed.length - now.host.engine.events.pushed.length
  later.host.engine.events.q.take (later.host.engine.events.q.length - fresh)

variable {audience now : Audience}

/-- A step takes stale events from the front of the queue and adds none. -/
theorem stale_step (op : SystemOp)
    (older : now.host.engine.events.pushed.length ≤ audience.host.engine.events.pushed.length) :
    ∃ count, now.stale (audience.step op) = (now.stale audience).drop count := by
  rcases audience.host.systemStep_slides op with ⟨news, count, pushed, q, within⟩
  refine ⟨count, ?_⟩
  dsimp only [stale, step]
  rw [pushed, q, List.length_drop, List.length_append, List.length_append, List.drop_take]
  have left : audience.host.engine.events.q.length + news.length - count -
      (audience.host.engine.events.pushed.length + news.length -
        now.host.engine.events.pushed.length) =
      audience.host.engine.events.q.length - (audience.host.engine.events.pushed.length -
        now.host.engine.events.pushed.length) - count := by omega
  rw [left, ← List.drop_take, List.take_append_of_le_length (Nat.sub_le _ _), List.drop_take]

end Audience

end DpdkTcp
