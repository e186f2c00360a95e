import DpdkTcp.Lifecycle.Order
import DpdkTcp.Wakeup.Refusal

/-!
# Notices of room

A `Writable` event is pushed by one call only: the processing of a segment whose
acknowledgment lowers the latch, and then for the connection of the segment.
-/

namespace DpdkTcp

/-- The notices of room to the connection a handle stands for. -/
def InternalEvent.writableOf (handle : ConnHandle) : InternalEvent → Bool
  | .writable conn .. => conn == handle
  | _ => false

namespace Engine

/-- How many notices of room were pushed for a handle. -/
def wakeups (engine : Engine) (handle : ConnHandle) : ℕ :=
  engine.events.pushed.countP (InternalEvent.writableOf handle)

/-- A change that notifies no connection of room. -/
def Hushed (before after : Engine) : Prop :=
  ∀ handle, after.wakeups handle = before.wakeups handle

section Hushed

variable {first second third : Engine}

theorem Hushed.refl (engine : Engine) : Hushed engine engine :=
  fun _ => rfl

theorem Hushed.trans (left : Hushed first second) (right : Hushed second third) :
    Hushed first third :=
  fun handle => (right handle).trans (left handle)

theorem Tells.wakeups {news : List InternalEvent} (tells : Tells first second news)
    (handle : ConnHandle) :
    second.wakeups handle =
      first.wakeups handle + news.countP (InternalEvent.writableOf handle) := by
  rcases tells.pushed with ⟨all, pushed, rfl⟩
  have both : (all.filter InternalEvent.notable).countP (InternalEvent.writableOf handle) =
      all.countP (InternalEvent.writableOf handle) := by
    rw [List.countP_filter]
    apply List.countP_congr
    intro event _
    cases event <;> simp [InternalEvent.writableOf, InternalEvent.notable]
  rw [Engine.wakeups, pushed, List.countP_append, both]
  rfl

theorem Tells.hushed (quiet : Tells first second []) : Hushed first second :=
  fun handle => quiet.wakeups handle

theorem Hushed.of_same (events : second.events.pushed = first.events.pushed) :
    Hushed first second :=
  fun handle => congrArg (List.countP (InternalEvent.writableOf handle)) events

end Hushed

variable (engine : Engine) (handle : ConnHandle)

theorem pushEvent_hushed (event : InternalEvent)
    (other : ∀ handle, event.writableOf handle = false) : Hushed engine (engine.pushEvent event) := by
  intro handle
  have pushed : (engine.pushEvent event).events.pushed = engine.events.pushed ++ [event] := rfl
  rw [wakeups, pushed, List.countP_append, List.countP_singleton, other handle]
  rfl

theorem transitionConn_hushed (target : TcpState) (nowNs : ℕ) :
    Hushed engine (engine.transitionConn handle target nowNs) := by
  intro any
  rw [(transitionConn_tells engine handle target nowNs).wakeups any]
  unfold changeTold
  split
  · rfl
  · split <;> rfl

theorem handOver_hushed (delivered rxHwTsNs emittedTsNs : ℕ) :
    Hushed engine (engine.handOver handle delivered rxHwTsNs emittedTsNs) := by
  intro any
  rcases handOver_tells engine handle delivered rxHwTsNs emittedTsNs with
    ⟨news, tells, rfl | ⟨event, rfl, data, _⟩⟩
  · exact tells.wakeups any
  · rw [tells.wakeups any]
    cases event with
    | readable => rfl
    | _ => cases data

/-! ### Timers -/

theorem forceCloseEtimedout_hushed (nowNs : ℕ) :
    Hushed engine (engine.forceCloseEtimedout handle nowNs) := by
  dsimp only [forceCloseEtimedout]
  split
  · exact .refl engine
  · refine .trans ?_ (Tells.drop _ handle).hushed
    refine .trans ?_ (pushEvent_hushed _ (.closed handle (-ETIMEDOUT) nowNs) fun _ => rfl)
    refine .trans ?_ (pushEvent_hushed _ (.error handle (-ETIMEDOUT) nowNs) fun _ => rfl)
    refine .trans ?_ (transitionConn_hushed _ handle .closed nowNs)
    exact Tells.hushed (.after (.after (.modify engine handle _) (releaseMbufs_quiet _ _))
      (cancelTimers_quiet _ _))

theorem rearmOrGiveUp_hushed (noBackoff : Bool) (env : RtoEnv) :
    Hushed engine (engine.rearmOrGiveUp handle noBackoff env) := by
  dsimp only [rearmOrGiveUp]
  split
  · exact forceCloseEtimedout_hushed engine handle env.closeNs
  · refine Tells.hushed (.after ?_ (armRto_quiet _ handle env.timerNs))
    split
    · exact .refl engine
    · exact .modify engine handle _

theorem onRtoFire_hushed (firedId : TimerId) (env : RtoEnv) :
    Hushed engine (engine.onRtoFire handle firedId env) := by
  dsimp only [onRtoFire]
  split
  · exact .refl engine
  · split
    · exact .refl engine
    · split
      · exact (Tells.modify engine handle _).hushed
      · refine .trans (Tells.hushed ?_) (rearmOrGiveUp_hushed _ handle _ env)
        exact .after (.after (.after (.modify engine handle _) (.modify _ handle _))
          (retransmitAll_quiet _ handle _ _)) (reportRto_quiet _ handle _ _)

theorem onSynRetransFire_hushed (firedId : TimerId) (nowNs : ℕ) :
    Hushed engine (engine.onSynRetransFire handle firedId nowNs) := by
  dsimp only [onSynRetransFire]
  split
  · exact .refl engine
  · split
    · exact .refl engine
    · split
      · exact (Tells.modify engine handle _).hushed
      · split
        · refine .trans ?_ (forceCloseEtimedout_hushed _ handle nowNs)
          exact Tells.hushed (.after (.modify engine handle _) (.modify _ handle _))
        · exact Tells.hushed (.after (.after (.modify engine handle _) (.modify _ handle _))
            (armSynRetrans_quiet _ handle nowNs _))

theorem fireTimer_hushed (id : TimerId) (node : TimerNode) (env : FireEnv) :
    Hushed engine (engine.fireTimer id node env) := by
  unfold fireTimer
  split
  · exact onRtoFire_hushed engine node.ownerHandle id env.rto
  · exact (onTlpFire_quiet engine node.ownerHandle id env.tlp env.nowNs).hushed
  · exact onSynRetransFire_hushed engine node.ownerHandle id env.nowNs
  · exact pushEvent_hushed engine _ fun _ => rfl

theorem reap_hushed (nowNs : ℕ) : Hushed engine (engine.reap handle nowNs) :=
  .trans (transitionConn_hushed engine handle .closed nowNs)
    (.trans (pushEvent_hushed _ _ fun _ => rfl) (removeConn_quiet _ handle).hushed)

theorem reapTimeWait_hushed (nowNs : ℕ) : Hushed engine (engine.reapTimeWait nowNs) := by
  dsimp only [reapTimeWait]
  generalize (engine.handles.filter _).reverse = candidates
  induction candidates generalizing engine with
  | nil => exact .refl engine
  | cons candidate rest ih => exact .trans (reap_hushed engine candidate nowNs) (ih _)

/-! ### Calls -/

theorem closeConn_hushed (finSent : Bool) (nowNs : ℕ) :
    Hushed engine (engine.closeConn handle finSent nowNs) := by
  dsimp only [closeConn]
  split
  · exact .refl engine
  · split
    · exact .refl engine
    · split
      · exact .refl engine
      · exact .trans (.of_same rfl) (transitionConn_hushed _ handle _ nowNs)

theorem connectWithOpts_hushed (tuple : FourTuple) (iss : Seq) (ourMss : UInt16)
    (opts : ConnectOpts) (synSent : Bool) (nowNs : ℕ) :
    Hushed engine (engine.connectWithOpts tuple iss ourMss opts synSent nowNs).1 := by
  dsimp only [connectWithOpts]
  split
  · exact .refl engine
  · split
    · exact .refl engine
    · split
      · exact .refl engine
      · split
        · exact .of_same rfl
        · refine .trans ?_ (.trans (transitionConn_hushed _ _ .synSent nowNs)
            (armSynRetrans_quiet _ _ nowNs _).hushed)
          exact .of_same rfl

/-- What follows the retransmissions tells nobody of room. -/
theorem receiveSideAfter_hushed (outcome : Outcome) (env : InputEnv) :
    Hushed engine (engine.receiveSideAfter handle outcome env) := by
  have answered : ∀ current : Engine, Hushed current (current.answer handle outcome.tx env) := by
    intro current
    unfold answer
    split
    · exact .refl current
    · exact (emitAck_quiet current handle env.ackSent).hushed
    · exact transitionConn_hushed current handle .closed env.nowNs
    · exact transitionConn_hushed current handle .closed env.nowNs
  have delivered : ∀ current : Engine,
      Hushed current (current.deliverEvents handle outcome env) := by
    intro current
    have connected : Hushed current
        (if outcome.connected then
          current.pushEvent (.connected handle env.rxHwTsNs env.nowNs)
        else current) := by
      split
      · exact pushEvent_hushed current _ fun _ => rfl
      · exact .refl current
    dsimp only [deliverEvents]
    split
    · exact connected.trans (handOver_hushed _ handle _ _ _)
    · exact connected
  have finished : ∀ current : Engine,
      Hushed current (current.finishClosed handle outcome env) := by
    intro current
    have reported := pushEvent_hushed current (.closed handle 0 env.nowNs) fun _ => rfl
    dsimp only [finishClosed]
    split
    · split
      · split
        · exact reported.trans (removeConn_quiet _ handle).hushed
        · exact reported
      · exact reported
    · exact .refl current
  dsimp only [receiveSideAfter]
  have waited : Hushed engine (engine.restartTimeWait handle outcome env.nowNs) :=
    (Tells.modify engine handle _).hushed
  refine waited.trans (.trans ?_ (.trans (answered _) (.trans (delivered _) (finished _))))
  split
  · exact transitionConn_hushed _ handle _ env.nowNs
  · exact .refl _

/-- A segment notifies its connection of room where its acknowledgment lowers the latch. -/
theorem tcpInput_wakeups {conn : TcpConn} (present : engine.flowTable.get handle = some conn)
    (seg : ParsedSegment) (mbufCtx : Option MbufInsertCtx) (env : InputEnv) (any : ConnHandle) :
    (engine.tcpInput handle seg mbufCtx env).wakeups any = engine.wakeups any +
      if any = handle ∧ (dispatch conn seg env.clock engine.cfg.sendBufferBytes
        mbufCtx).outcome.writableHysteresisFired = true then 1 else 0 := by
  rcases tcpInput_prepared engine handle present seg mbufCtx env rfl with
    ⟨prepared, told, _, split⟩
  rw [split, receiveSideAfter_hushed prepared handle _ env any, told.wakeups any]
  congr 1
  split
  · rename_i fired
    by_cases same : any = handle
    · rw [if_pos ⟨same, fired⟩, same, List.countP_singleton]
      simp [InternalEvent.writableOf]
    · rw [if_neg fun both => same both.1, List.countP_singleton]
      simpa [InternalEvent.writableOf] using Ne.symm same
  · rename_i silent
    rw [if_neg fun both => silent both.2]
    rfl

end Engine

end DpdkTcp
