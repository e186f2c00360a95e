import DpdkTcp.Send.Flight

/-!
# What is in flight stays covered

The queue of transmitted segments and its timer over whole runs. Until our FIN
the entries tile the flight, and behind it they still hold every byte of it: the
FIN is the one number in flight that no entry holds. A connection knows a
retransmission timer just while its queue is not empty, and this timer is in the
wheel or waits for its handler.
-/

namespace DpdkTcp

open Serial

theorem KeptAs.ourFinSeq {entries : List RetransEntry} {first second : TcpConn}
    (kept : KeptAs entries first second) : second.ourFinSeq = first.ourFinSeq := by
  rw [kept.only]

/-- Behind our FIN the entries end just before it. -/
structure Trailing (base : Seq) (una start : ℕ) (conn : TcpConn) : Prop where
  sndUna : conn.sndUna = point base una
  follows : Follows (point base start) conn.sndRetrans.entries
  begun : start ≤ una
  within : una ≤ start + entryBytes conn.sndRetrans.entries + 1
  near : start + entryBytes conn.sndRetrans.entries ≤ una + 2 ^ 30
  sndNxt : conn.sndNxt = point base (start + entryBytes conn.sndRetrans.entries + 1)
  fin : conn.ourFinSeq = some (point base (start + entryBytes conn.sndRetrans.entries))

section Steps

variable {base : Seq} {una start : ℕ} {before after : TcpConn}

theorem Trailing.kept (trailing : Trailing base una start before)
    (send : SameSend before.sndRetrans.entries before after)
    (fin : after.ourFinSeq = before.ourFinSeq) : Trailing base una start after := by
  have bytes := send.entries.entryBytes
  refine ⟨send.sndUna.trans trailing.sndUna, trailing.follows.kept send.entries, trailing.begun,
    ?_, ?_, ?_, ?_⟩
  · rw [bytes]
    exact trailing.within
  · rw [bytes]
    exact trailing.near
  · rw [bytes, send.sndNxt]
    exact trailing.sndNxt
  · rw [bytes, fin]
    exact trailing.fin

/-- An acknowledgment behind our FIN moves only the left edge. -/
theorem Trailing.closing (trailing : Trailing base una start before) {ack : Seq}
    (acked : AckedTo ack before.sndRetrans.entries before after)
    (apart : ack ≠ seqAdd before.sndNxt (2 ^ 31))
    (fin : after.ourFinSeq = before.ourFinSeq) : ∃ pos, Trailing base pos start after := by
  have bytes := acked.entries.entryBytes
  have within := trailing.within
  have begun := trailing.begun
  have near := trailing.near
  have ahead := acked.ahead
  have known := acked.known
  rw [trailing.sndUna] at ahead
  rw [trailing.sndNxt] at known apart
  rcases ack_position within (by omega) ahead known apart with ⟨pos, rfl, forward, inside⟩
  refine ⟨pos, acked.sndUna, trailing.follows.kept acked.entries, by omega, by omega, by omega,
    ?_, ?_⟩
  · rw [acked.sndNxt, bytes]
    exact trailing.sndNxt
  · rw [fin, bytes]
    exact trailing.fin

/-- A segment moves the left edge inside the flight, or nothing. -/
theorem Trailing.segment (trailing : Trailing base una start before) {seg : ParsedSegment}
    {nowNs : ℕ} (step : SegmentStep before seg nowNs after)
    (late : before.state = .closed ∨ before.state.finSent = true)
    (beside : before.ackOpposite seg nowNs = false) (fin : after.ourFinSeq = before.ourFinSeq) :
    ∃ pos, Trailing base pos start after := by
  cases step with
  | kept send _ => exact ⟨una, trailing.kept send fin⟩
  | opened opening _ _ =>
      rw [opening] at late
      rcases late with closed | sent
      · cases closed
      · cases sent
  | acked running _ _ _ =>
      rw [running] at late
      rcases late with closed | sent
      · cases closed
      · cases sent
  | closing running acceptable send _ =>
      refine trailing.closing send (fun opposite => ?_) fin
      have takes : before.takesAck seg nowNs = true := by
        simp [TcpConn.takesAck, send.ahead, send.known, running, acceptable]
      simp [TcpConn.ackOpposite, opposite, takes] at beside

/-- Our FIN takes the number behind the entries. -/
theorem Laid.finSent (laid : Laid base una start before) (sent : Kept before.finSent after) :
    Trailing base una start after := by
  have send := sent.send
  have bytes := send.entries.entryBytes
  have within := laid.within
  refine ⟨send.sndUna.trans laid.sndUna, laid.follows.kept send.entries, laid.begun, ?_, ?_, ?_, ?_⟩
  · rw [bytes]
    exact Nat.le_succ_of_le within
  · rw [bytes]
    exact laid.near
  · rw [bytes, send.sndNxt]
    dsimp only [TcpConn.finSent]
    rw [laid.sndNxt, seqAdd_point]
  · rw [bytes, sent.ourFinSeq]
    exact congrArg some laid.sndNxt

/-! ### Which entry holds a number -/

/-- A position between the edges of the entries lies in one of them. -/
theorem Follows.holds {base : Seq} {start pos : ℕ} {entries : List RetransEntry}
    (follows : Follows (point base start) entries) (begun : start ≤ pos)
    (inside : pos < start + entryBytes entries) :
    ∃ entry ∈ entries, (point base pos - entry.seq).toNat < entry.len := by
  induction entries generalizing start with
  | nil =>
      rw [entryBytes_nil] at inside
      omega
  | cons front rest ih =>
      rw [entryBytes_cons] at inside
      by_cases first : pos < start + front.len
      · refine ⟨front, List.mem_cons_self, ?_⟩
        rw [follows.1]
        exact Nat.lt_of_le_of_lt (toNat_point_sub_point_le base begun) (by omega)
      · rcases ih (follows.endSeq ▸ follows.2.2) (by omega) (by omega) with ⟨entry, member, held⟩
        exact ⟨entry, List.mem_cons_of_mem front member, held⟩

/-- A number in flight is the number of our FIN, or an entry holds it. -/
def TcpConn.Held (conn : TcpConn) (number : Seq) : Prop :=
  conn.ourFinSeq = some number ∨
    ∃ entry ∈ conn.sndRetrans.entries, (number - entry.seq).toNat < entry.len

theorem Laid.held (laid : Laid base una start before) {number : Seq}
    (inFlight : offset before.sndUna number < offset before.sndUna before.sndNxt) :
    before.Held number := by
  have begun := laid.begun
  have position : point base (una + offset before.sndUna number) = number := by
    rw [point_add, ← laid.sndUna]
    exact point_offset before.sndUna number
  have far : offset before.sndUna before.sndNxt =
      start + entryBytes before.sndRetrans.entries - una := laid.flight
  rw [far] at inFlight
  rw [← position]
  exact .inr (laid.follows.holds (Nat.le_add_right_of_le begun) (by omega))

theorem Trailing.held (trailing : Trailing base una start before) {number : Seq}
    (inFlight : offset before.sndUna number < offset before.sndUna before.sndNxt) :
    before.Held number := by
  have near := trailing.near
  have begun := trailing.begun
  have position : point base (una + offset before.sndUna number) = number := by
    rw [point_add, ← trailing.sndUna]
    exact point_offset before.sndUna number
  have far : offset before.sndUna before.sndNxt =
      start + entryBytes before.sndRetrans.entries + 1 - una := by
    rw [offset, trailing.sndNxt, trailing.sndUna]
    exact toNat_point_sub_point base trailing.within (by omega)
  rw [far] at inFlight
  rw [← position]
  by_cases last : una + offset before.sndUna number =
      start + entryBytes before.sndRetrans.entries
  · rw [last]
    exact .inl trailing.fin
  · exact .inr (trailing.follows.holds (Nat.le_add_right_of_le begun) (by omega))

end Steps

/-! ### Runs -/

namespace Host

/-- Every connection with a FIN number trails it. -/
def Trails (host : Host) : Prop :=
  ∀ handle conn, host.engine.flowTable.get handle = some conn → conn.ourFinSeq.isSome →
    ∃ base una start, Trailing base una start conn

variable {host : Host}

/-- A connection with a FIN number is closed, or in a state behind our FIN. -/
theorem Followed.late (followed : host.Followed) {handle : ConnHandle} {conn : TcpConn}
    (present : host.engine.flowTable.get handle = some conn) (sent : conn.ourFinSeq.isSome = true) :
    conn.state = .closed ∨ conn.state.finSent = true := by
  rcases (followed handle conn present).2 with ⟨life, shown⟩
  by_cases closed : conn.state = .closed
  · exact .inl closed
  · have iff := life.fin_iff (shown.state ▸ closed)
    rw [shown.ourFinSeq, Option.isSome_map, iff] at sent
    exact .inr (shown.state ▸ sent)

theorem Trails.step (trails : host.Trails) (flying : host.Flying) (followed : host.Followed)
    {op : EngineOp} (beside : host.acksBeside op = true) : (host.step op).Trails := by
  intro handle conn' live sent'
  have step := host.step_conns op live
  cases present : host.engine.flowTable.get handle with
  | none =>
      rw [present] at step
      cases step with
      | opening opening =>
          have none : conn'.ourFinSeq = none := opening.ourFinSeq
          rw [none] at sent'
          cases sent'
  | some conn =>
      rw [present] at step
      cases step with
      | kept kept =>
          have fin := kept.ourFinSeq
          rcases trails handle conn present (fin ▸ sent') with ⟨base, una, start, trailing⟩
          exact ⟨base, una, start, trailing.kept kept.send fin⟩
      | sent running news sent =>
          rcases sent.kept with ⟨refused, kept⟩
          have fin : conn'.ourFinSeq = conn.ourFinSeq := kept.ourFinSeq
          rcases followed.late present (fin ▸ sent') with closed | late
          · rw [running] at closed
            cases closed
          · rw [running] at late
            cases late
      | fin running sent state =>
          rcases (flying handle conn present).laid running with ⟨base, una, start, laid⟩
          exact ⟨base, una, start, laid.finSent sent⟩
      | segment dispatched processed kept =>
          subst processed
          have fin : conn'.ourFinSeq = conn.ourFinSeq :=
            kept.ourFinSeq.trans (dispatch_sameNumbers _ _ _ _ _).ourFinSeq
          have sent : conn.ourFinSeq.isSome = true := fin ▸ sent'
          rcases trails handle conn present sent with ⟨base, una, start, trailing⟩
          rcases trailing.segment ((dispatch_send _ _ _ _ _).step kept)
            (followed.late present sent) (by simpa [acksBeside, present] using beside) fin with
            ⟨pos, moved⟩
          exact ⟨base, pos, start, moved⟩

/-- Behind the handshake, what is in flight is held. -/
theorem held (followed : host.Followed) (flying : host.Flying) (trails : host.Trails)
    {handle : ConnHandle} {conn : TcpConn}
    (live : host.engine.flowTable.get handle = some conn)
    (open' : conn.state.sending ∨ conn.state.finSent = true) {number : Seq}
    (inFlight : offset conn.sndUna number < offset conn.sndUna conn.sndNxt) :
    conn.Held number := by
  rcases open' with sending | sent
  · rcases (flying handle conn live).laid sending with ⟨base, una, start, laid⟩
    exact laid.held inFlight
  · rcases (followed handle conn live).2 with ⟨life, shown⟩
    have alive : life.state ≠ .closed := by
      intro closed
      rw [shown.state, closed] at sent
      cases sent
    have known : conn.ourFinSeq.isSome = true := by
      rw [shown.ourFinSeq, Option.isSome_map, life.fin_iff alive, ← shown.state, sent]
    rcases trails handle conn live known with ⟨base, una, start, trailing⟩
    exact trailing.held inFlight

/-- All that is known of what is in flight. -/
structure Guarded (host : Host) : Prop where
  followed : host.Followed
  flying : host.Flying
  trails : host.Trails
  lasting : host.Lasting
  watched : host.engine.Watched
  running : host.Running
  first : 0 < max host.engine.cfg.tcpInitialRtoUs host.engine.cfg.tcpMinRtoUs
  bound : 0 < host.engine.cfg.tcpMaxRtoUs

theorem Flying.clearsStep (flying : host.Flying) {op : EngineOp}
    (beside : host.acksBeside op = true) : host.Clears op := by
  rintro handle seg mbufCtx env rfl conn present
  refine (flying handle conn present).clears ?_
  simpa [acksBeside, present] using beside

theorem guarded_start {cfg : EngineConfig} (maxConnections eventSoftCap : ℕ)
    (first : 0 < max cfg.tcpInitialRtoUs cfg.tcpMinRtoUs) (bound : 0 < cfg.tcpMaxRtoUs) :
    (Host.start cfg maxConnections eventSoftCap).Guarded := by
  have absent : ∀ {handle conn},
      (Host.start cfg maxConnections eventSoftCap).engine.flowTable.get handle = some conn →
        False := by
    intro handle conn live
    rw [Host.get_start] at live
    cases live
  exact ⟨followed_start cfg maxConnections eventSoftCap, fun _ _ live => (absent live).elim,
    fun _ _ live _ => (absent live).elim, fun _ _ live => (absent live).elim,
    fun _ _ live => (absent live).elim, running_start cfg maxConnections eventSoftCap, first, bound⟩

theorem Guarded.step (guarded : host.Guarded) {op : EngineOp}
    (beside : host.acksBeside op = true) : (host.step op).Guarded := by
  have clears := guarded.flying.clearsStep beside
  have lasting := guarded.lasting.step clears guarded.first guarded.bound
  have cfg := host.step_cfg op
  exact ⟨guarded.followed.step beside, guarded.flying.step guarded.followed beside,
    guarded.trails.step guarded.flying guarded.followed beside, lasting,
    watched_step guarded.watched clears lasting.rtoPositive, guarded.running.step op,
    by rw [cfg]; exact guarded.first, by rw [cfg]; exact guarded.bound⟩

theorem flying_of_reaches {cfg : EngineConfig} {maxConnections eventSoftCap : ℕ}
    (run : Run.Reaches Host.step (fun host op => host.acksBeside op = true)
      (Host.start cfg maxConnections eventSoftCap) host) : host.Flying := by
  have both : host.Followed ∧ host.Flying := by
    apply run.invariant
    · refine ⟨followed_start cfg maxConnections eventSoftCap, fun handle conn live => ?_⟩
      rw [Host.get_start] at live
      cases live
    · rintro before op ⟨followed, flying⟩ beside
      exact ⟨followed.step beside, flying.step followed beside⟩
  exact both.2

theorem guarded_of_reaches {cfg : EngineConfig} {maxConnections eventSoftCap : ℕ}
    (first : 0 < max cfg.tcpInitialRtoUs cfg.tcpMinRtoUs) (bound : 0 < cfg.tcpMaxRtoUs)
    (run : Run.Reaches Host.step (fun host op => host.acksBeside op = true)
      (Host.start cfg maxConnections eventSoftCap) host) : host.Guarded :=
  run.invariant (guarded_start maxConnections eventSoftCap first bound)
    fun _ _ guarded beside => guarded.step beside

end Host

section Runs

variable {cfg : EngineConfig} {maxConnections eventSoftCap : ℕ} {host : Host}
  {handle : ConnHandle} {conn : TcpConn}

/-- In every run in which no processed acknowledgment lies half the number space from `snd_nxt`,
the queue of an ESTABLISHED connection tiles its flight, and both pruning loops drop exactly
what an acknowledgment inside the flight covers. -/
theorem queue_tiles_flight
    (run : Run.Reaches Host.step (fun host op => host.acksBeside op = true)
      (Host.start cfg maxConnections eventSoftCap) host)
    (live : host.engine.flowTable.get handle = some conn) (running : conn.state = .established) :
    conn.Tiled ∧ ∀ ack, seqLt conn.sndUna ack = true → seqLe ack conn.sndNxt = true →
      ack ≠ seqAdd conn.sndNxt (2 ^ 31) → conn.sndRetrans.PrunesAt ack := by
  rcases (Host.flying_of_reaches run handle conn live).laid (.inl running) with
    ⟨base, una, start, laid⟩
  exact ⟨laid.tiled running, fun ack ahead known beside => laid.prunesAt running ahead known beside⟩

/-- Three bytes are in flight. -/
def threeInFlight : List EngineOp :=
  handshake ++ [sendAt 2000 [1, 2, 3] 1]

theorem queue_tiles_flight_threeInFlight :
    ∃ conn, (Host.after threeInFlight).engine.flowTable.get 1 = some conn ∧ conn.Tiled ∧
      ∀ ack, seqLt conn.sndUna ack = true → seqLe ack conn.sndNxt = true →
        ack ≠ seqAdd conn.sndNxt (2 ^ 31) → conn.sndRetrans.PrunesAt ack := by
  have known : ((Host.after threeInFlight).engine.flowTable.get 1).any
      (fun conn => conn.state = .established) = true := by decide +kernel
  rcases (Option.any_eq_true _ _).mp known with ⟨conn, live, running⟩
  exact ⟨conn, live, queue_tiles_flight
    (Run.Reaches.of_admits (by decide +kernel :
      Run.admits Host.step Host.acksBeside (Host.start quickCfg 1 64) threeInFlight = true))
    live (of_decide_eq_true running)⟩

/-- In these runs, under a positive first timeout and a positive maximum, a connection knows a
retransmission timer just while its queue is not empty, and unless a timer id was reused the
timer is in the wheel or has fired and waits for its handler. -/
theorem queue_has_timer (first : 0 < max cfg.tcpInitialRtoUs cfg.tcpMinRtoUs)
    (bound : 0 < cfg.tcpMaxRtoUs)
    (run : Run.Reaches Host.step (fun host op => host.acksBeside op = true)
      (Host.start cfg maxConnections eventSoftCap) host)
    (live : host.engine.flowTable.get handle = some conn) :
    (conn.rtoTimerId = none ↔ conn.sndRetrans.entries = []) ∧
      (FewReuses host.engine.record.armed → ∀ id, conn.rtoTimerId = some id →
        host.engine.Outstanding host.pending handle id) := by
  have guarded := Host.guarded_of_reaches first bound run
  refine ⟨?_, fun few id name => guarded.running.runs few handle conn id live name⟩
  have watched := guarded.watched handle conn live
  rw [TcpConn.Watched, SendRetrans.isEmpty] at watched
  cases named : conn.rtoTimerId <;> cases queued : conn.sndRetrans.entries <;>
    simp [named, queued] at watched ⊢

theorem queue_has_timer_threeInFlight :
    ∃ conn, (Host.after threeInFlight).engine.flowTable.get 1 = some conn ∧
      (conn.rtoTimerId = none ↔ conn.sndRetrans.entries = []) ∧
      (FewReuses (Host.after threeInFlight).engine.record.armed → ∀ id, conn.rtoTimerId = some id →
        (Host.after threeInFlight).engine.Outstanding (Host.after threeInFlight).pending 1 id) := by
  have known : ((Host.after threeInFlight).engine.flowTable.get 1).isSome = true := by
    decide +kernel
  rcases Option.isSome_iff_exists.mp known with ⟨conn, live⟩
  exact ⟨conn, live, queue_has_timer (by decide) (by decide)
    (Run.Reaches.of_admits (by decide +kernel :
      Run.admits Host.step Host.acksBeside (Host.start quickCfg 1 64) threeInFlight = true)) live⟩

/-- In these runs every number in flight of a connection behind its handshake is that of our FIN,
or an entry of the queue holds it and a retransmission timer is outstanding. -/
theorem flight_held (first : 0 < max cfg.tcpInitialRtoUs cfg.tcpMinRtoUs)
    (bound : 0 < cfg.tcpMaxRtoUs)
    (run : Run.Reaches Host.step (fun host op => host.acksBeside op = true)
      (Host.start cfg maxConnections eventSoftCap) host)
    (few : FewReuses host.engine.record.armed)
    (live : host.engine.flowTable.get handle = some conn)
    (open' : conn.state.sending ∨ conn.state.finSent = true) {number : Seq}
    (inFlight : offset conn.sndUna number < offset conn.sndUna conn.sndNxt) :
    conn.ourFinSeq = some number ∨
      (∃ entry ∈ conn.sndRetrans.entries, (number - entry.seq).toNat < entry.len) ∧
        ∃ id, conn.rtoTimerId = some id ∧ host.engine.Outstanding host.pending handle id := by
  have guarded := Host.guarded_of_reaches first bound run
  have held := Host.held guarded.followed guarded.flying guarded.trails live open' inFlight
  refine held.imp id fun ⟨entry, member, inside⟩ => ⟨⟨entry, member, inside⟩, ?_⟩
  have watched := guarded.watched handle conn live
  have queued : conn.sndRetrans.isEmpty = false :=
    List.isEmpty_eq_false_iff.mpr (List.ne_nil_of_mem member)
  rw [TcpConn.Watched, queued] at watched
  rcases Option.isSome_iff_exists.mp watched with ⟨id, name⟩
  exact ⟨id, name, guarded.running.runs few handle conn id live name⟩

/-- The connection is closed while three bytes are in flight. -/
def closedInFlight : List EngineOp :=
  threeInFlight ++ [.close 1 true 3000]

theorem flight_held_closedInFlight :
    ∃ conn, (Host.after closedInFlight).engine.flowTable.get 1 = some conn ∧
      (conn.ourFinSeq = some 102#32 ∨
        (∃ entry ∈ conn.sndRetrans.entries, (102#32 - entry.seq).toNat < entry.len) ∧
          ∃ id, conn.rtoTimerId = some id ∧
            (Host.after closedInFlight).engine.Outstanding (Host.after closedInFlight).pending 1 id) := by
  have known : ((Host.after closedInFlight).engine.flowTable.get 1).any (fun conn =>
      decide (conn.state = .finWait1) &&
        decide (offset conn.sndUna 102#32 < offset conn.sndUna conn.sndNxt)) = true := by
    decide +kernel
  rcases (Option.any_eq_true _ _).mp known with ⟨conn, live, both⟩
  rcases Bool.and_eq_true_iff.mp both with ⟨state, inFlight⟩
  have sent : conn.state.finSent = true := by
    rw [of_decide_eq_true state]
    rfl
  exact ⟨conn, live, flight_held (by decide) (by decide)
    (Run.Reaches.of_admits (by decide +kernel :
      Run.admits Host.step Host.acksBeside (Host.start quickCfg 1 64) closedInFlight = true))
    (.of_length (by decide +kernel)) live (.inr sent) (of_decide_eq_true inFlight)⟩

end Runs

end DpdkTcp
