import DpdkTcp.Model.Host

/-!
# Timers of the application

`public_timer_add` and `public_timer_cancel` work on the wheel that also holds
the timers of the connections. The identifier of a cancel comes from the
application, which may pass any.
-/

namespace DpdkTcp

/-- `align_up_to_tick_ns`, saturating. -/
def alignUpToTickNs (deadlineNs : ℕ) : ℕ :=
  min ((deadlineNs + (TICK_NS - 1)) / TICK_NS * TICK_NS) U64_MAX

namespace Engine

/-- `public_timer_add`, with the identifier it returns. -/
def publicTimerAdd (engine : Engine) (deadlineNs userData nowNs : ℕ) : Engine × TimerId :=
  let added := engine.timerWheel.add nowNs
    { fireAtNs := alignUpToTickNs deadlineNs
      ownerHandle := 0
      kind := .apiPublic
      userData := userData
      generation := 0#32
      cancelled := false }
  ({ engine with
      timerWheel := added.1
      record :=
        { engine.record with
          armed := engine.record.armed ++
            [⟨added.2, 0, engine.record.incarnation 0, .apiPublic⟩] } },
    added.2)

/-- `public_timer_cancel`, with its result. -/
def publicTimerCancel (engine : Engine) (id : TimerId) : Engine × Bool :=
  (engine.cancelTimer id, engine.timerWheel.isLive id)

end Engine

/-- The calls of the whole system and those on timers of the application. -/
inductive ApiOp where
  | system (op : SystemOp)
  | timerAdd (deadlineNs userData nowNs : ℕ)
  | timerCancel (id : TimerId)

/-- One step of a host with the timers of the application. -/
def Host.apiStep (host : Host) : ApiOp → Host
  | .system op => host.systemStep op
  | .timerAdd deadlineNs userData nowNs =>
      { host with engine := (host.engine.publicTimerAdd deadlineNs userData nowNs).1 }
  | .timerCancel id => { host with engine := (host.engine.publicTimerCancel id).1 }

end DpdkTcp
