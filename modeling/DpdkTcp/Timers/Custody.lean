import DpdkTcp.Lifecycle.Order
import DpdkTcp.Timers.Owned

/-!
# Timers stay with their owner

Every call keeps the invariant of ownership: within a call it is kept by the
steps the call is made of, and `advance` only takes timers out of the wheel. It
follows that a handler of a fired timer finds a connection under its identifier
only where the timer was armed for this connection.
-/

namespace DpdkTcp

/-- The engine is not dropped; no timer fires afterwards. -/
def ApiOp.running : ApiOp → Bool
  | .system op => op.live
  | _ => true

namespace Host

/-- The timers of a host are owned. -/
def Timed (host : Host) : Prop :=
  DpdkTcp.Timed host.engine.timerView host.pending

theorem timed_start (cfg : EngineConfig) (maxConnections eventSoftCap : ℕ) :
    (start cfg maxConnections eventSoftCap).Timed := by
  refine ⟨Counted.start, fun _ => ⟨List.nodup_nil, ?_, ?_, ?_, ?_, ?_⟩⟩
  · exact fun slot node live => nomatch live.1
  · exact fun slot node held => nomatch held
  · exact fun slot node held => nomatch held
  · intro handle conn kind id found
    have absent : (start cfg maxConnections eventSoftCap).engine.flowTable.get handle = some conn :=
      found
    rw [Host.get_start] at absent
    cases absent
  · exact fun id node member => absurd member List.not_mem_nil

variable {host : Host}

theorem Timed.step (timed : host.Timed) (op : EngineOp) : (host.step op).Timed := by
  have worked : (∀ nowNs, op ≠ .advance nowNs) →
      DpdkTcp.Timed (host.step op).engine.timerView host.pending := by
    intro still
    refine (host.step_work still).timed (fun kind id striking => ?_) timed
    exact host.fired_of_strikes striking
  cases op with
  | advance nowNs => exact timed.sheds (host.engine.timerWheel.advance_sheds nowNs)
  | fireNext env =>
      have fired := worked nofun
      dsimp only [Host.step] at fired ⊢
      split
      · exact timed
      · rename_i next
        rw [next] at fired
        exact fired.tail
  | connect | send | close | segment | flush | reap | twSkip => exact worked nofun

theorem Timed.apiStep (timed : host.Timed) {op : ApiOp} (running : op.running = true) :
    (host.apiStep op).Timed := by
  cases op with
  | system op =>
      cases op with
      | call op => exact timed.step op
      | complete index =>
          have freed : Engine.Deeds (fun _ => False) 0 host.engine
              (host.engine.completeFrame index) := Engine.completeFrame_deeds _ 0 index
          exact freed.work.timed (fun _ _ => False.elim) timed
      | drainEvents max => exact timed
      | drop => cases running
  | timerAdd deadlineNs userData nowNs => exact timed.publish nowNs rfl rfl _ rfl
  | timerCancel id => exact timed.cancel id

theorem timed_of_reaches {cfg : EngineConfig} {maxConnections eventSoftCap : ℕ}
    (run : Run.Reaches apiStep (fun _ op => op.running = true)
      (start cfg maxConnections eventSoftCap) host) : host.Timed :=
  run.invariant (timed_start cfg maxConnections eventSoftCap) fun _ _ timed running =>
    timed.apiStep running

/-- A handler changes a connection only under the name the connection has for the timer. -/
theorem fireTimer_named (engine : Engine) {id : TimerId} {node : TimerNode} {env : FireEnv}
    (differs : (engine.fireTimer id node env).flowTable.get node.ownerHandle ≠
      engine.flowTable.get node.ownerHandle) :
    ∃ conn, engine.flowTable.get node.ownerHandle = some conn ∧
      conn.timerOf node.kind = some id := by
  unfold Engine.fireTimer at differs
  cases kind : node.kind with
  | rto =>
      rw [kind] at differs
      dsimp only [Engine.onRtoFire] at differs
      split at differs
      · exact absurd rfl differs
      · rename_i conn present
        split at differs
        · exact absurd rfl differs
        · rename_i named
          exact ⟨conn, present, Decidable.not_not.mp named⟩
  | tlp =>
      rw [kind] at differs
      dsimp only [Engine.onTlpFire] at differs
      split at differs
      · exact absurd rfl differs
      · rename_i conn present
        split at differs
        · exact absurd rfl differs
        · rename_i named
          exact ⟨conn, present, Decidable.not_not.mp named⟩
  | synRetrans =>
      rw [kind] at differs
      dsimp only [Engine.onSynRetransFire] at differs
      split at differs
      · exact absurd rfl differs
      · rename_i conn present
        split at differs
        · exact absurd rfl differs
        · rename_i named
          exact ⟨conn, present, Decidable.not_not.mp named⟩
  | apiPublic =>
      rw [kind] at differs
      exact absurd rfl differs

/-- Timers stay with their owner, in every run in which fewer than `2 ^ 32`
timers reuse a slot. A fired timer changes a connection only if it is the
current timer of its kind there, and the only timer ever armed under its
identifier was armed for this connection. A live timer of a connection is on
the list of its owner, so none is left once the owner is gone. -/
theorem timers_stay_with_owner {cfg : EngineConfig} {maxConnections eventSoftCap : ℕ}
    (run : Run.Reaches apiStep (fun _ op => op.running = true)
      (start cfg maxConnections eventSoftCap) host)
    (few : FewReuses host.engine.record.armed) :
    (∀ env handle, (host.step (.fireNext env)).engine.flowTable.get handle ≠
        host.engine.flowTable.get handle →
      ∃ id node rest conn, host.pending = (id, node) :: rest ∧
        host.engine.flowTable.get handle = some conn ∧ conn.timerOf node.kind = some id ∧
        ∀ armed, armed ∈ host.engine.record.armed ∧ armed.id = id ↔
          armed = ⟨id, handle, host.engine.record.incarnation handle, node.kind⟩) ∧
      (∀ slot node, host.engine.timerWheel.Live slot node → node.kind ≠ .apiPublic →
        ∃ conn, host.engine.flowTable.get node.ownerHandle = some conn ∧
          ⟨slot, node.generation⟩ ∈ conn.timerIds) ∧
      ∀ handle, handle ≠ 0 → host.engine.flowTable.get handle = none →
        ∀ slot node, host.engine.timerWheel.Live slot node → node.ownerHandle ≠ handle := by
  have timed := timed_of_reaches run
  have owned := timed.owned few
  refine ⟨?_, owned.listed, ?_⟩
  · intro env handle differs
    dsimp only [Host.step] at differs
    split at differs
    · exact absurd rfl differs
    · rename_i id node rest next
      have same : handle = node.ownerHandle := by
        by_contra other
        have deeds : Engine.Deeds (fun _ => True) node.ownerHandle host.engine
            (host.engine.fireTimer id node env) :=
          Engine.fireTimer_deeds (fun _ _ => trivial) _ node trivial (fun _ _ _ _ => trivial) env
        exact differs (deeds.others other)
      rw [same] at differs ⊢
      rcases fireTimer_named host.engine differs with ⟨conn, present, name⟩
      have armedFor := owned.named _ conn node.kind id present name
      refine ⟨id, node, rest, conn, next, present, name, fun armed => ⟨?_, ?_⟩⟩
      · rintro ⟨member, sameId⟩
        exact List.inj_on_of_nodup_map owned.distinct member armedFor sameId
      · rintro rfl
        exact ⟨armedFor, rfl⟩
  · intro handle valid absent slot node live same
    by_cases isPublic : node.kind = .apiPublic
    · exact valid (same.symm.trans (owned.unowned slot node live.1 isPublic))
    · rcases owned.listed slot node live isPublic with ⟨conn, present, _⟩
      have found : host.engine.flowTable.get node.ownerHandle = some conn := present
      rw [same, absent] at found
      cases found

/-- The peer refuses a connection, and the next one gets its handle. When the SYN
timer of the second is due, that of the first is still in the wheel, cancelled. -/
def reopened : List ApiOp :=
  [.system opening, .system (.call (receiveAt 2000 200#32 101#32 (TCP_RST ||| TCP_ACK))),
    .system opening, .system (.call (.advance 200000))]

theorem timers_stay_with_owner_reopened :
    ∃ id node rest conn,
      (reopened.foldl apiStep (start quickCfg 1 64)).pending = (id, node) :: rest ∧
        (reopened.foldl apiStep (start quickCfg 1 64)).engine.flowTable.get 1 = some conn ∧
        conn.timerOf node.kind = some id ∧
        ∀ armed, armed ∈ (reopened.foldl apiStep (start quickCfg 1 64)).engine.record.armed ∧
            armed.id = id ↔
          armed = ⟨id, 1, (reopened.foldl apiStep
            (start quickCfg 1 64)).engine.record.incarnation 1, node.kind⟩ :=
  (timers_stay_with_owner (Run.Reaches.of_admits
      (rfl : Run.admits apiStep (fun _ op => op.running) (start quickCfg 1 64) reopened = true))
    (.of_length (by decide +kernel))).1
    ⟨⟨200000, fun _ => ⟨1, none, true, true, 0, 200000, 200000, 200000⟩, 200000, 200000, 200000⟩,
      ⟨1, none, true, true, 0, 200000, 200000, 200000⟩, 200000⟩ 1 (by decide +kernel)

end Host

end DpdkTcp
