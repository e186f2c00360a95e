import DpdkTcp.Lifecycle.Chapters

/-!
# The order of lifecycle events

In every run of the live engine, the application is told an orderly story of
every connection from `connect` on.
-/

namespace DpdkTcp

namespace Engine

variable (engine : Engine) (handle : ConnHandle)

/-- The events pushed about the life of a handle's connections. -/
def lifecycle : List InternalEvent :=
  engine.events.pushed.filter (InternalEvent.lifecycleOf handle)

/-- What was told of the connection of a handle since an earlier moment. -/
def toldSince (before : Engine) : List InternalEvent :=
  (engine.lifecycle handle).drop (before.lifecycle handle).length

theorem Tells.lifecycle {before after : Engine} {news : List InternalEvent}
    (tells : Tells before after news) (handle : ConnHandle) :
    after.lifecycle handle =
      before.lifecycle handle ++ news.filter (InternalEvent.lifecycleOf handle) := by
  rcases tells.pushed with ⟨all, pushed, rfl⟩
  have both : all.filter (InternalEvent.lifecycleOf handle) =
      (all.filter InternalEvent.notable).filter (InternalEvent.lifecycleOf handle) := by
    rw [List.filter_filter]
    apply List.filter_congr
    intro event _
    cases event <;> simp [InternalEvent.lifecycleOf, InternalEvent.notable]
  rw [Engine.lifecycle, pushed, List.filter_append, ← both]
  rfl

/-- What a step does to the story of a handle: it adds a chapter, or begins a new story. -/
inductive StoryStep (before after : Engine) : Prop where
  | chapter (news : List InternalEvent)
      (lifecycle : after.lifecycle handle = before.lifecycle handle ++ news)
      (same : after.record.incarnation handle = before.record.incarnation handle)
      (told : before.stateAt handle ≠ some .closed →
        Told handle (before.stateAt handle) news (after.stateAt handle))
  | opening (nowNs : ℕ) (vacant : before.stateAt handle = none)
      (more : after.record.incarnation handle = before.record.incarnation handle + 1)
      (lifecycle : after.lifecycle handle =
        before.lifecycle handle ++ [.stateChange handle .closed .synSent nowNs])
      (state : after.stateAt handle = some .synSent)

variable {handle}

theorem Speaks.storyStep {before after : Engine} (speaks : Speaks handle before after) :
    StoryStep handle before after := by
  rcases speaks with ⟨news, tells, told⟩
  exact .chapter _ (tells.lifecycle handle) (congrArg (List.count handle) tells.opened) told

theorem StoryStep.of_same {before after : Engine} (events : after.events.pushed = before.events.pushed)
    (opened : after.record.opened = before.record.opened)
    (state : after.stateAt handle = before.stateAt handle) : StoryStep handle before after := by
  refine .chapter [] ?_ (congrArg (List.count handle) opened) fun _ => ?_
  · rw [Engine.lifecycle, events, List.append_nil]
    rfl
  · rw [state]
    exact .silent _

theorem connectWithOpts_story (tuple : FourTuple) (iss : Seq) (ourMss : UInt16)
    (opts : ConnectOpts) (synSent : Bool) (nowNs : ℕ) :
    StoryStep handle engine
      (engine.connectWithOpts tuple iss ourMss opts synSent nowNs).1 := by
  dsimp only [connectWithOpts]
  split
  · exact .of_same rfl rfl rfl
  · split
    · exact .of_same rfl rfl rfl
    · split
      · exact .of_same rfl rfl rfl
      · rename_i fresh inserted
        have table := FlowTable.get_insert
          (Prod.ext rfl inserted : engine.flowTable.insert _ = (_, some fresh))
        split
        · refine .of_same rfl rfl ?_
          unfold stateAt
          dsimp only [dropConn]
          rw [FlowTable.get_remove, (table handle).2]
          split
          · rename_i same
            rw [same, (table fresh).1]
          · rfl
        · obtain ⟨recorded, built⟩ : ∃ recorded, recorded =
              ({ engine with
                  flowTable := (engine.flowTable.insert
                    (engine.connecting tuple iss ourMss opts nowNs)).1 } : Engine).recordOpened
                fresh iss := ⟨_, rfl⟩
          have events : recorded.events.pushed = engine.events.pushed := by
            rw [built]
            rfl
          have opened : recorded.record.opened = engine.record.opened ++ [fresh] := by
            rw [built]
            rfl
          have states : recorded.stateAt handle =
              if handle = fresh then some .closed else engine.stateAt handle := by
            rw [built, stateAt_recordOpened]
            unfold stateAt
            dsimp only
            rw [(table handle).2]
            split <;> rfl
          have told := Tells.quiet (transitionConn_tells recorded fresh .synSent nowNs)
            (armSynRetrans_quiet _ fresh nowNs
              (max engine.cfg.tcpInitialRtoUs engine.cfg.tcpMinRtoUs))
          have after : ((recorded.transitionConn fresh .synSent nowNs).armSynRetrans fresh nowNs
              (max engine.cfg.tcpInitialRtoUs engine.cfg.tcpMinRtoUs)).stateAt handle =
              if handle = fresh then some .synSent else engine.stateAt handle := by
            rw [stateAt_armSynRetrans, stateAt_transitionConn]
            split
            · rename_i same
              rw [← same, states, if_pos same]
              rfl
            · rename_i apart
              rw [states, if_neg apart]
          have lifecycle := told.lifecycle handle
          have before : recorded.lifecycle handle = engine.lifecycle handle := by
            rw [Engine.lifecycle, events]
            rfl
          dsimp only
          rw [← built]
          rw [before] at lifecycle
          by_cases same : handle = fresh
          · subst same
            rw [if_pos rfl] at states after
            refine .opening nowNs ?_ ?_ ?_ after
            · rw [stateAt, (table handle).1]
              rfl
            · rw [Record.incarnation, told.opened, opened, List.count_append,
                List.count_singleton, if_pos (by simp)]
              rfl
            · rw [lifecycle, changeTold_of recorded handle states (by rintro ⟨⟩)]
              simp [InternalEvent.lifecycleOf]
          · rw [if_neg same] at after
            refine .chapter [] ?_ ?_ fun _ => ?_
            · rw [lifecycle, changeTold_elsewhere recorded fresh handle same]
            · rw [Record.incarnation, told.opened, opened, List.count_append,
                List.count_singleton, if_neg (by simpa using Ne.symm same)]
              rfl
            · rw [after]
              exact .silent _

end Engine

/-- Everything but `Engine::drop`, which tells nobody. -/
def SystemOp.live : SystemOp → Bool
  | .drop => false
  | _ => true

namespace Host

/-- The step opens a connection under this handle. -/
def opens (host : Host) (op : SystemOp) (handle : ConnHandle) : Bool :=
  decide (host.engine.record.incarnation handle <
    (host.systemStep op).engine.record.incarnation handle)

theorem step_story (host : Host) (op : EngineOp) (handle : ConnHandle) :
    Engine.StoryStep handle host.engine (host.step op).engine := by
  cases op with
  | connect tuple iss ourMss opts synSent nowNs =>
      exact Engine.connectWithOpts_story host.engine tuple iss ourMss opts synSent nowNs
  | send target bytes envs tlpNs =>
      exact ((Engine.sendBytes_quiet host.engine target bytes envs tlpNs).aside
        (Engine.stateAt_sendBytes host.engine target handle bytes envs tlpNs)).speaks.storyStep
  | close target finSent nowNs =>
      exact (Engine.closeConn_speaks host.engine target handle finSent nowNs).storyStep
  | segment target seg mbufCtx env =>
      exact (Engine.tcpInput_speaks host.engine target handle seg mbufCtx env).storyStep
  | advance nowNs => exact .of_same rfl rfl rfl
  | fireNext env =>
      dsimp only [step]
      split
      · exact .of_same rfl rfl rfl
      · exact (Engine.fireTimer_speaks host.engine handle _ _ env).storyStep
  | flush sent =>
      exact ((Engine.drainTxPendingData_quiet host.engine sent).aside
        (Engine.stateAt_drainTxPendingData host.engine handle sent)).speaks.storyStep
  | reap nowNs => exact (Engine.reapTimeWait_speaks host.engine handle nowNs).storyStep
  | twSkip target nowNs =>
      exact ((Engine.requestTwSkip_quiet host.engine target nowNs).aside
        (Engine.stateAt_requestTwSkip host.engine target handle nowNs)).speaks.storyStep

theorem systemStep_story (host : Host) {op : SystemOp} (live : op.live = true)
    (handle : ConnHandle) :
    Engine.StoryStep handle host.engine (host.systemStep op).engine := by
  cases op with
  | call op => exact host.step_story op handle
  | complete index =>
      dsimp only [systemStep, Engine.completeFrame]
      split
      · exact .of_same rfl rfl rfl
      · rename_i frame _
        have erased : Engine.Tells host.engine
            { host.engine with driverFrames := host.engine.driverFrames.eraseIdx index } [] :=
          .same rfl rfl
        exact ((erased.quiet (Engine.releaseMbufs_quiet _ frame.segs)).aside
          (Engine.stateAt_releaseMbufs _ handle _)).speaks.storyStep
  | drainEvents max => exact .of_same rfl rfl rfl
  | drop => cases live

/-- What a step does to the number of connections a handle was returned for. -/
theorem incarnation_step (host : Host) (op : SystemOp) (handle : ConnHandle) :
    (host.systemStep op).engine.record.incarnation handle = host.engine.record.incarnation handle ∨
      (host.systemStep op).engine.record.incarnation handle =
          host.engine.record.incarnation handle + 1 ∧
        (host.systemStep op).engine.flowTable.get handle ≠ none := by
  by_cases live : op.live = true
  · cases host.systemStep_story live handle with
    | chapter news lifecycle same told => exact .inl same
    | opening nowNs vacant more lifecycle state =>
        refine .inr ⟨more, fun absent => ?_⟩
        rw [Engine.stateAt, absent] at state
        cases state
  · cases op with
    | drop =>
        left
        dsimp only [systemStep, Engine.drop]
        rw [Engine.releaseMbufs_only]
    | _ => exact absurd rfl live

end Host

/-- From `connect` on, and until the handle is given to another connection, what
the engine tells of a connection is in order, and the last of it is `Closed`
exactly when the connection has left the table. -/
theorem lifecycle_events_in_order {before host : Host} {op : SystemOp} {handle : ConnHandle}
    (live : op.live = true) (opens : before.opens op handle = true)
    (later : Run.Reaches Host.systemStep
      (fun host op => (op.live && !host.opens op handle) = true) (before.systemStep op) host) :
    Orderly (host.engine.toldSince handle before.engine) (host.engine.stateAt handle) := by
  have written : ∃ told, host.engine.lifecycle handle = before.engine.lifecycle handle ++ told ∧
      Story told (host.engine.stateAt handle) := by
    apply later.invariant
    · have opened := of_decide_eq_true opens
      cases before.systemStep_story live handle with
      | chapter news lifecycle same told =>
          rw [same] at opened
          exact absurd opened (Nat.lt_irrefl _)
      | opening nowNs vacant more lifecycle state =>
          exact ⟨_, lifecycle, state ▸ Story.opened handle nowNs⟩
    · rintro host op ⟨told, sofar, story⟩ taken
      simp only [Bool.and_eq_true, Bool.not_eq_true'] at taken
      have closed := of_decide_eq_false taken.2
      cases host.systemStep_story taken.1 handle with
      | chapter news lifecycle same chapter =>
          refine ⟨told ++ news, ?_, story.tell (chapter story.alive)⟩
          rw [lifecycle, sofar, List.append_assoc]
      | opening nowNs vacant more lifecycle state =>
          rw [more] at closed
          exact absurd (Nat.lt_succ_self _) closed
  rcases written with ⟨told, sofar, story⟩
  rw [Engine.toldSince, sofar, List.drop_left]
  exact story.toOrderly

/-- The call of `connect` that gets the handle 1. -/
def opening : SystemOp :=
  .call (.connect ⟨0x0a000002#32, 40000, 0x0a000001#32, 5000⟩ 100#32 1460
    ⟨false, false, 0, 0, false, 0, false⟩ true 1000)

/-- The peer answers the SYN and resets the connection. -/
def resetLater : List SystemOp :=
  [.call (.segment 1 (synAck 100#32 200#32 5000) none (inputAt 1000)), .drainEvents 1,
    .call (receiveAt 2000 201#32 101#32 (TCP_RST ||| TCP_ACK))]

theorem lifecycle_events_in_order_reset :
    Orderly
      ((resetLater.foldl Host.systemStep
        ((Host.start quickCfg 1 64).systemStep opening)).engine.toldSince 1
          (Host.start quickCfg 1 64).engine)
      ((resetLater.foldl Host.systemStep
        ((Host.start quickCfg 1 64).systemStep opening)).engine.stateAt 1) :=
  lifecycle_events_in_order rfl (by decide +kernel : (Host.start quickCfg 1 64).opens opening 1 = true)
    (Run.Reaches.of_admits (by decide +kernel : Run.admits Host.systemStep
      (fun host op => op.live && !host.opens op 1)
      ((Host.start quickCfg 1 64).systemStep opening) resetLater = true))

example : ((resetLater.foldl Host.systemStep
    ((Host.start quickCfg 1 64).systemStep opening)).engine.toldSince 1
      (Host.start quickCfg 1 64).engine).filterMap InternalEvent.change =
    [(.closed, .synSent), (.synSent, .established), (.established, .closed)] := by
  decide +kernel

end DpdkTcp
