import DpdkTcp.Model.Engine

/-!
# Runs of the engine

The calls of the application and of the poll loop, as operations on the engine
together with the timers that have fired and wait for their handler. One round
of `fire_timers_at` is an `advance` followed by a `fireNext` for every fired
timer. What goes on around these calls (the driver gives back frames, the
application drains events, the engine is dropped) are the operations of the
whole system.
-/

namespace DpdkTcp

/-- `Engine::new`, without what belongs to the device. -/
def Engine.new (cfg : EngineConfig) (maxConnections eventSoftCap : ℕ) : Engine :=
  { cfg := cfg
    flowTable := FlowTable.new maxConnections
    timerWheel := TimerWheel.new
    events := EventQueue.withCap eventSoftCap
    txPendingData := []
    driverFrames := []
    mbufs := fun _ => ⟨[], 0⟩
    rxRefs := RxRefs.full
    picked := []
    record := {} }

/-- An engine with the timers that fired and wait for their handlers. -/
structure Host where
  engine : Engine
  pending : List (TimerId × TimerNode)

/-- What is called on an engine. -/
inductive EngineOp where
  | connect (tuple : FourTuple) (iss : Seq) (ourMss : UInt16) (opts : ConnectOpts)
      (synSent : Bool) (nowNs : ℕ)
  | send (handle : ConnHandle) (bytes : List UInt8) (envs : ℕ → SendEnv) (tlpNs : ℕ)
  | close (handle : ConnHandle) (finSent : Bool) (nowNs : ℕ)
  | segment (handle : ConnHandle) (seg : ParsedSegment) (mbufCtx : Option MbufInsertCtx)
      (env : InputEnv)
  | advance (nowNs : ℕ)
  | fireNext (env : FireEnv)
  | flush (sent : ℕ)
  | reap (nowNs : ℕ)
  | twSkip (handle : ConnHandle) (nowNs : ℕ)

namespace Host

/-- A host without connections. -/
def start (cfg : EngineConfig) (maxConnections eventSoftCap : ℕ) : Host :=
  { engine := Engine.new cfg maxConnections eventSoftCap, pending := [] }

/-- One call on an engine. -/
def step (host : Host) : EngineOp → Host
  | .connect tuple iss ourMss opts synSent nowNs =>
      { host with
        engine := (host.engine.connectWithOpts tuple iss ourMss opts synSent nowNs).1 }
  | .send handle bytes envs tlpNs =>
      { host with engine := (host.engine.sendBytes handle bytes envs tlpNs).1 }
  | .close handle finSent nowNs =>
      { host with engine := host.engine.closeConn handle finSent nowNs }
  | .segment handle seg mbufCtx env =>
      { host with engine := host.engine.tcpInput handle seg mbufCtx env }
  | .advance nowNs =>
      let swept := host.engine.timerWheel.advance nowNs
      { engine := { host.engine with timerWheel := swept.wheel }
        pending := host.pending ++ swept.fired }
  | .fireNext env =>
      match host.pending with
      | [] => host
      | (id, node) :: rest => { engine := host.engine.fireTimer id node env, pending := rest }
  | .flush sent => { host with engine := host.engine.drainTxPendingData sent }
  | .reap nowNs => { host with engine := host.engine.reapTimeWait nowNs }
  | .twSkip handle nowNs => { host with engine := host.engine.requestTwSkip handle nowNs }

/-- The loop over the fired timers is a run of `fireNext`. -/
theorem foldl_fireNext (engine : Engine) (envs : ℕ → FireEnv)
    (pending : List (TimerId × TimerNode)) :
    ((List.range pending.length).map fun turn => EngineOp.fireNext (envs turn)).foldl step
        ⟨engine, pending⟩ =
      ⟨engine.fireTimers envs pending, []⟩ := by
  induction pending generalizing engine envs with
  | nil => rfl
  | cons fired rest ih =>
      rcases fired with ⟨id, node⟩
      rw [List.length_cons, List.range_succ_eq_map, List.map_cons, List.map_map, List.foldl_cons]
      exact ih (engine.fireTimer id node (envs 0)) fun turn => envs (turn + 1)

/-- `fire_timers_at` as a run. -/
theorem fireTimersAt_eq_run (engine : Engine) (nowNs : ℕ) (envs : ℕ → FireEnv) :
    ∃ fires, ((EngineOp.advance nowNs) :: fires).foldl step ⟨engine, []⟩ =
      ⟨engine.fireTimersAt nowNs envs, []⟩ :=
  ⟨_, foldl_fireNext { engine with timerWheel := (engine.timerWheel.advance nowNs).wheel } envs
    (engine.timerWheel.advance nowNs).fired⟩

end Host

namespace Engine

/-- The driver is done with a frame: it frees the buffers of the chain. -/
def completeFrame (engine : Engine) (index : ℕ) : Engine :=
  match engine.driverFrames[index]? with
  | none => engine
  | some frame =>
      { engine with driverFrames := engine.driverFrames.eraseIdx index }.releaseMbufs frame.segs

/-- `drain_events`: up to `max` events are handed to the application, with the
references they hold. -/
def drainEvents (engine : Engine) (max : ℕ) : Engine :=
  { engine with events := (engine.events.popMany max).2 }

/-- `Engine::drop`: the events and the connections are dropped, the ring is freed. -/
def drop (engine : Engine) : Engine :=
  { engine with
    events := { engine.events with q := [] }
    flowTable := engine.flowTable.clearAll
    rxRefs := (engine.rxRefs.freeAll (engine.events.q.flatMap InternalEvent.pinned)).freeAll
      engine.flowTable.pinned
    txPendingData := [] }.releaseMbufs (engine.txPendingData.flatMap TxFrame.segs)

end Engine

/-- A call, a completion by the driver, a drain by the application, or the end of the engine. -/
inductive SystemOp where
  | call (op : EngineOp)
  | complete (index : ℕ)
  | drainEvents (max : ℕ)
  | drop

/-- One step of a host. -/
def Host.systemStep (host : Host) : SystemOp → Host
  | .call op => host.step op
  | .complete index => { host with engine := host.engine.completeFrame index }
  | .drainEvents max => { host with engine := host.engine.drainEvents max }
  | .drop => { engine := host.engine.drop, pending := [] }

end DpdkTcp
