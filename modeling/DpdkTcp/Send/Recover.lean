import DpdkTcp.Send.Coverage
import DpdkTcp.Send.Integrity

/-!
# What is in flight can be sent again

Until the peer acknowledges it, every byte that `send_bytes` accepted stays in a buffer of the
connection's queue, at the place where `retransmit` reads it, whatever the driver cuts off and
however often it was sent.
-/

namespace DpdkTcp

open Serial Slice

namespace Sender

/-- An acknowledgment that is processed does not lie half the number space from `snd_nxt`. -/
def acksBeside (sender : Sender) : DriverOp → Bool
  | .system (.call op) => sender.host.acksBeside op
  | _ => true

/-- The queues cover what is in flight. -/
structure Covers (sender : Sender) : Prop where
  followed : sender.host.Followed
  flying : sender.host.Flying
  trails : sender.host.Trails

variable {sender : Sender}

/-- The driver, the events and the end of the engine move no connection. -/
theorem Covers.still (covers : sender.Covers) {after : Sender}
    (cfg : after.host.engine.cfg = sender.host.engine.cfg)
    (conns : ∀ handle conn, after.host.engine.flowTable.get handle = some conn →
      sender.host.engine.flowTable.get handle = some conn) : after.Covers where
  followed handle conn live := by
    rw [cfg]
    exact covers.followed handle conn (conns handle conn live)
  flying handle conn live := covers.flying handle conn (conns handle conn live)
  trails handle conn live := covers.trails handle conn (conns handle conn live)

theorem Covers.step (covers : sender.Covers) {op : DriverOp}
    (beside : sender.acksBeside op = true) : (sender.step op).Covers := by
  have cfg := sender.step_cfg op
  cases op with
  | trim index len =>
      refine covers.still cfg ?_
      intro handle conn live
      rw [Sender.step, Host.driverStep, Engine.trimFrame_only] at live
      exact live
  | system op =>
      cases op with
      | call op =>
          exact ⟨covers.followed.step beside, covers.flying.step covers.followed beside,
            covers.trails.step covers.flying covers.followed beside⟩
      | complete index =>
          refine covers.still cfg ?_
          intro handle conn live
          rw [Sender.step, Host.driverStep, Host.systemStep, Host.completeFrame_flowTable] at live
          exact live
      | drainEvents max => exact covers.still cfg fun _ _ live => live
      | drop =>
          refine covers.still cfg ?_
          intro handle conn live
          cases (Host.drop_get sender.host.engine handle).symm.trans live

theorem covers_start (cfg : EngineConfig) (maxConnections eventSoftCap : ℕ) :
    (start cfg maxConnections eventSoftCap).Covers := by
  have absent : ∀ {handle : ConnHandle} {conn : TcpConn},
      (Host.start cfg maxConnections eventSoftCap).engine.flowTable.get handle ≠ some conn := by
    intro handle conn live
    rw [Host.get_start] at live
    cases live
  exact ⟨Host.followed_start cfg maxConnections eventSoftCap, fun _ _ live => absurd live absent,
    fun _ _ live => absurd live absent⟩

theorem covers_of_reaches {cfg : EngineConfig} {maxConnections eventSoftCap : ℕ}
    (run : Run.Reaches step
      (fun sender op => (sender.admissible op && sender.acksBeside op) = true)
      (start cfg maxConnections eventSoftCap) sender) : sender.Covers :=
  run.invariant (covers_start cfg maxConnections eventSoftCap)
    fun _ _ covers taken => covers.step (Bool.and_eq_true_iff.mp taken).2

end Sender

/-- The number at an offset into a piece of a stream, and the byte there. -/
theorem Flow.Carries.getElem? {flow : Flow} {seq : Seq} {payload : List UInt8}
    (carries : flow.Carries seq payload) {offset : ℕ} (inside : offset < payload.length) :
    ∃ pos, point flow.base pos = seqAdd seq offset ∧ pos < flow.bytes.length ∧
      payload[offset]? = flow.bytes[pos]? := by
  rcases carries with ⟨start, number, fits, bytes⟩
  refine ⟨start + offset, ?_, by omega, ?_⟩
  · rw [number, seqAdd_point]
  · rw [← bytes, slice, List.getElem?_take_of_lt inside, List.getElem?_drop]

/-- In these runs each number in flight of a connection behind its handshake is that of our FIN, or
an entry stands for it and the entry's buffer holds the byte of the stream with this number. -/
theorem unacked_bytes_kept {cfg : EngineConfig} {maxConnections eventSoftCap : ℕ} {sender : Sender}
    (small : cfg.tcpMss ≤ Engine.MAX_FRAMED)
    (run : Run.Reaches Sender.step
      (fun sender op => (sender.admissible op && sender.acksBeside op) = true)
      (Sender.start cfg maxConnections eventSoftCap) sender) {handle : ConnHandle} {conn : TcpConn}
    (live : sender.host.engine.flowTable.get handle = some conn)
    (open' : conn.state.sending ∨ conn.state.finSent = true) {number : Seq}
    (inFlight : offset conn.sndUna number < offset conn.sndUna conn.sndNxt) :
    conn.ourFinSeq = some number ∨ ∃ entry ∈ conn.sndRetrans.entries, ∃ flow pos,
      sender.streams handle (sender.host.engine.record.incarnation handle) = some flow ∧
        point flow.base pos = number ∧ pos < flow.bytes.length ∧
        (sender.host.engine.entryPayload entry)[(number - entry.seq).toNat]? = flow.bytes[pos]? := by
  have covers := Sender.covers_of_reaches run
  have sound := Sender.sound_of_reaches small
    (run.mono fun _ _ taken => (Bool.and_eq_true_iff.mp taken).1)
  have held := Host.held covers.followed covers.flying covers.trails live open' inFlight
  refine held.imp id fun ⟨entry, member, inside⟩ => ?_
  rcases sound.faithful.holds live member with ⟨_, flow, found, _, _, carries, length⟩
  rcases carries.getElem? (length ▸ inside) with ⟨pos, here, within, byte⟩
  exact ⟨entry, member, flow, pos, found, here.trans (point_offset entry.seq number), within, byte⟩

theorem unacked_bytes_kept_trimmedThenSent :
    ∃ conn, (Sender.after trimmedThenSent).host.engine.flowTable.get 1 = some conn ∧
      ∃ entry ∈ conn.sndRetrans.entries, ∃ flow pos,
        (Sender.after trimmedThenSent).streams 1
            ((Sender.after trimmedThenSent).host.engine.record.incarnation 1) = some flow ∧
          point flow.base pos = 102#32 ∧ pos < flow.bytes.length ∧
          ((Sender.after trimmedThenSent).host.engine.entryPayload entry)[
            (102#32 - entry.seq).toNat]? = flow.bytes[pos]? := by
  have known : ((Sender.after trimmedThenSent).host.engine.flowTable.get 1).any
      (fun conn => decide (conn.state = .established ∧ conn.ourFinSeq = none ∧
        offset conn.sndUna 102#32 < offset conn.sndUna conn.sndNxt)) = true := by decide +kernel
  rcases (Option.any_eq_true _ _).mp known with ⟨conn, live, facts⟩
  rcases of_decide_eq_true facts with ⟨established, noFin, inFlight⟩
  have kept := unacked_bytes_kept (by decide) (Run.Reaches.of_admits
    (by decide +kernel : Run.admits Sender.step
      (fun sender op => sender.admissible op && sender.acksBeside op)
      (Sender.start quickCfg 1 64) trimmedThenSent = true)) live (Or.inl (Or.inl established)) inFlight
  refine ⟨conn, live, kept.resolve_left fun fin => ?_⟩
  rw [noFin] at fin
  cases fin

end DpdkTcp
