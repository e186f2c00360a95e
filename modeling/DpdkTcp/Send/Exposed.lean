import DpdkTcp.Send.Coverage

/-!
# What is in flight without an entry

Retransmission rests on the queue and its timer. Over whole runs every number in
flight is in an entry of the queue, except for that of our FIN: `close_conn` sends
it without an entry and arms no timer, so a FIN that is lost stays lost. While a
connection is in ESTABLISHED the queue tiles its flight, and it has a timer just
while the queue is not empty.
-/

namespace DpdkTcp

open Serial

/-- Every number in flight is in an entry of the queue, and as long as there is one a
retransmission timer is in the wheel or has fired and waits for its handler. -/
structure Host.FlightCovered (host : Host) (handle : ConnHandle) (conn : TcpConn) : Prop where
  entries : ∀ number, offset conn.sndUna number < offset conn.sndUna conn.sndNxt →
    ∃ entry ∈ conn.sndRetrans.entries, (number - entry.seq).toNat < entry.len
  timer : conn.sndUna ≠ conn.sndNxt →
    ∃ id, conn.rtoTimerId = some id ∧ host.engine.Outstanding host.pending handle id

/-- Our FIN is sent and not acknowledged. -/
def TcpConn.finInFlight (conn : TcpConn) : Prop :=
  ∃ number, conn.ourFinSeq = some number ∧
    offset conn.sndUna number < offset conn.sndUna conn.sndNxt

/-- The step is a close that gives our FIN its number. -/
def Host.numbersFin (host : Host) : EngineOp → Bool
  | .close handle finSent _ =>
      finSent && (host.engine.flowTable.get handle).any fun conn =>
        conn.state = .established || conn.state = .closeWait
  | _ => false

/-- No acknowledgment lies half the number space away, and no FIN is sent. -/
def Host.keepsCover (host : Host) (op : EngineOp) : Bool :=
  host.acksBeside op && !host.numbersFin op

theorem TcpState.synchronized_cases {state : TcpState} (synced : state.synchronized = true) :
    state.sending ∨ state.finSent = true := by
  cases state with
  | closed | listen | synSent | synReceived => cases synced
  | established => exact .inl (.inl rfl)
  | closeWait => exact .inl (.inr rfl)
  | finWait1 | finWait2 | closing | lastAck | timeWait => exact .inr rfl

/-- Numbers are in flight just while the edges differ. -/
theorem offset_pos_iff {una nxt : Seq} : 0 < offset una nxt ↔ una ≠ nxt := by
  unfold offset
  constructor
  · rintro positive rfl
    simp at positive
  · intro apart
    by_contra none
    have same : (nxt - una).toNat = 0 := by omega
    exact apart (by bv_omega)

section Steps

variable {base : Seq} {una start : ℕ} {conn : TcpConn}

/-- An entry holds only numbers between the edges of the entries. -/
theorem Follows.not_holds {base : Seq} {start : ℕ} {entries : List RetransEntry}
    (follows : Follows (point base start) entries)
    (short : entryBytes entries < 2 ^ 32) :
    ∀ entry ∈ entries,
      ¬ (point base (start + entryBytes entries) - entry.seq).toNat < entry.len := by
  induction entries generalizing start with
  | nil => exact nofun
  | cons front rest ih =>
      rw [entryBytes_cons] at short ⊢
      intro entry member held
      rcases List.mem_cons.mp member with rfl | later
      · rw [follows.1, toNat_point_sub_point base (by omega) (by omega)] at held
        omega
      · have behind := ih (follows.endSeq ▸ follows.2.2) (by omega) entry later
        rw [Nat.add_assoc] at behind
        exact behind held

/-- No entry is longer than its field, and all of them span less than half the number space. -/
structure Compact (entries : List RetransEntry) : Prop where
  each : ∀ entry ∈ entries, entry.len ≤ 65535
  total : entryBytes entries < 2 ^ 31

namespace Compact

variable {entries : List RetransEntry}

theorem nil : Compact [] :=
  ⟨nofun, by decide⟩

theorem kept (compact : Compact entries) {after : List RetransEntry}
    (kept : EntriesKept entries after) : Compact after := by
  refine ⟨fun entry member => ?_, ?_⟩
  · rcases List.getElem?_of_mem member with ⟨index, found⟩
    rcases kept.getElem? found with ⟨original, there, same⟩
    rw [same.len]
    exact compact.each original (List.mem_of_getElem? there)
  · rw [kept.entryBytes]
    exact compact.total

theorem pruned (compact : Compact entries) (ack : Seq) :
    Compact ((SendRetrans.pruneBelow ⟨entries⟩ ack).entries) := by
  have fewer : (SendRetrans.pruneBelow ⟨entries⟩ ack).entries.Sublist entries :=
    List.dropWhile_sublist _
  refine ⟨fun entry member => compact.each entry (fewer.subset member), ?_⟩
  have total := compact.total
  rw [← @List.takeWhile_append_dropWhile _ (fun entry => seqLe entry.endSeq ack) entries,
    entryBytes_append] at total
  exact Nat.lt_of_le_of_lt (Nat.le_add_left _ _) total

end Compact

/-- In ESTABLISHED only the front of the first entry is not in flight. -/
theorem Laid.entryBytes_le (laid : Laid base una start conn) (running : conn.state = .established)
    (each : ∀ entry ∈ conn.sndRetrans.entries, entry.len ≤ 65535) :
    entryBytes conn.sndRetrans.entries ≤ (conn.sndNxt - conn.sndUna).toNat + 65535 := by
  have front := laid.front running
  rw [laid.flight]
  cases entries : conn.sndRetrans.entries with
  | nil => exact Nat.zero_le _
  | cons first rest =>
      rw [entries] at front each
      have after : una < start + first.len := front first rfl
      have short := each first List.mem_cons_self
      omega

/-- Behind our FIN no entry holds its number. -/
theorem Trailing.fin_unheld (trailing : Trailing base una start conn)
    (compact : Compact conn.sndRetrans.entries) {number : Seq}
    (fin : conn.ourFinSeq = some number) :
    ∀ entry ∈ conn.sndRetrans.entries, ¬ (number - entry.seq).toNat < entry.len := by
  have place := trailing.fin
  rw [fin] at place
  rw [Option.some.inj place]
  exact trailing.follows.not_holds (by have total := compact.total; omega)

end Steps

/-- A close that finds the connection open leaves our FIN in flight. -/
theorem Engine.closeConn_sends {engine : Engine} {handle : ConnHandle} {conn : TcpConn}
    (present : engine.flowTable.get handle = some conn)
    (running : conn.state = .established ∨ conn.state = .closeWait) (nowNs : ℕ) :
    (engine.closeConn handle true nowNs).flowTable.get handle = some conn.finSent := by
  rcases running with running | running <;>
    simp [closeConn, present, running, transitionConn, modifyConn, recordSentAtOnce, pushEvent,
      FlowTable.get_modify, TcpConn.finSent]

namespace Host

variable {host : Host}

/-- No connection has sent its FIN. -/
def FinsUnsent (host : Host) : Prop :=
  ∀ handle conn, host.engine.flowTable.get handle = some conn → conn.ourFinSeq = none

theorem FinsUnsent.step (unsent : host.FinsUnsent) {op : EngineOp}
    (silent : host.numbersFin op = false) : (host.step op).FinsUnsent := by
  intro handle conn' live
  have step := host.step_conns op live
  cases present : host.engine.flowTable.get handle with
  | none =>
      rw [present] at step
      cases step with
      | opening opening => exact opening.ourFinSeq
  | some conn =>
      rw [present] at step
      have none := unsent handle conn present
      cases step with
      | kept kept => exact kept.ourFinSeq.trans none
      | sent running news sent =>
          rcases sent.kept with ⟨refused, kept⟩
          exact kept.ourFinSeq.trans none
      | fin running sent state =>
          rcases running with running | running <;>
            simp [numbersFin, present, running] at silent
      | segment dispatched processed kept =>
          subst processed
          exact (kept.ourFinSeq.trans (dispatch_sameNumbers _ _ _ _ _).ourFinSeq).trans none

/-- The queues of all connections are compact. -/
def Compacted (host : Host) : Prop :=
  ∀ handle conn, host.engine.flowTable.get handle = some conn →
    Compact conn.sndRetrans.entries

theorem Compacted.step (compacted : host.Compacted) (flying : host.Flying)
    (followed : host.Followed) (op : EngineOp) : (host.step op).Compacted := by
  intro handle conn' live
  have step := host.step_conns op live
  cases present : host.engine.flowTable.get handle with
  | none =>
      rw [present] at step
      cases step with
      | opening opening => exact Compact.nil.kept opening.entries
  | some conn =>
      rw [present] at step
      have compact := compacted handle conn present
      cases step with
      | kept kept => exact compact.kept kept.entries
      | sent running news sent =>
          rcases (flying handle conn present).laid (.inl running) with ⟨base, una, start, laid⟩
          refine Compact.kept ⟨fun entry member => ?_, ?_⟩ sent.entries
          · rcases List.mem_append.mp member with old | new
            · exact compact.each entry old
            · exact (sent.fresh entry new).len_le
          · have total := laid.entryBytes_le running compact.each
            have flight := compact.total
            have room := sent.room
            have window := (followed handle conn present).1.sndWnd
            rw [entryBytes_append]
            omega
      | fin running sent state => exact compact.kept sent.entries
      | segment dispatched processed kept =>
          subst processed
          cases (dispatch_send _ _ _ _ _).step kept with
          | kept send _ => exact compact.kept send.entries
          | opened _ send _ => exact compact.kept send.entries
          | acked _ _ send _ => exact (compact.pruned _).kept send.entries
          | closing _ _ send _ => exact compact.kept send.entries

/-- No entry holds the number of a FIN in flight. -/
theorem not_covered (trails : host.Trails) (compacted : host.Compacted) {handle : ConnHandle}
    {conn : TcpConn} (live : host.engine.flowTable.get handle = some conn)
    (flying : conn.finInFlight) : ¬ host.FlightCovered handle conn := by
  rcases flying with ⟨number, fin, inFlight⟩
  intro covered
  rcases covered.entries number inFlight with ⟨entry, member, held⟩
  rcases trails handle conn live (by rw [fin]; rfl) with ⟨base, una, start, trailing⟩
  exact trailing.fin_unheld (compacted handle conn live) fin entry member held

/-- What is in flight is covered, but for our FIN. -/
theorem covered_iff (guarded : host.Guarded) (compacted : host.Compacted)
    (few : FewReuses host.engine.record.armed) {handle : ConnHandle} {conn : TcpConn}
    (live : host.engine.flowTable.get handle = some conn)
    (synced : conn.state.synchronized = true) :
    host.FlightCovered handle conn ↔ ¬ conn.finInFlight := by
  have sides := TcpState.synchronized_cases synced
  constructor
  · exact fun covered flying => not_covered guarded.trails compacted live flying covered
  · intro none
    have held : ∀ number, offset conn.sndUna number < offset conn.sndUna conn.sndNxt →
        ∃ entry ∈ conn.sndRetrans.entries, (number - entry.seq).toNat < entry.len := by
      intro number inFlight
      rcases Host.held guarded.followed guarded.flying guarded.trails live sides inFlight with
        fin | entry
      · exact absurd ⟨number, fin, inFlight⟩ none
      · exact entry
    refine ⟨held, fun apart => ?_⟩
    have first : offset conn.sndUna conn.sndUna < offset conn.sndUna conn.sndNxt := by
      have positive := offset_pos_iff.mpr apart
      unfold offset at positive ⊢
      rw [BitVec.sub_self]
      exact positive
    rcases held conn.sndUna first with ⟨entry, member, _⟩
    have watched := guarded.watched handle conn live
    have queued : conn.sndRetrans.isEmpty = false :=
      List.isEmpty_eq_false_iff.mpr (List.ne_nil_of_mem member)
    rw [TcpConn.Watched, queued] at watched
    rcases Option.isSome_iff_exists.mp watched with ⟨id, name⟩
    exact ⟨id, name, guarded.running.runs few handle conn id live name⟩

/-- A close that sends our FIN leaves it in flight and in no entry. -/
theorem close_uncovers (guarded : host.Guarded) (compacted : host.Compacted) {handle : ConnHandle}
    {finSent : Bool} {nowNs : ℕ} (sends : host.numbersFin (.close handle finSent nowNs) = true) :
    ∃ conn, (host.step (.close handle finSent nowNs)).engine.flowTable.get handle = some conn ∧
      conn.state.synchronized = true ∧ conn.sndUna ≠ conn.sndNxt ∧
      ¬ (host.step (.close handle finSent nowNs)).FlightCovered handle conn := by
  rcases Bool.and_eq_true_iff.mp sends with ⟨rfl, running⟩
  rcases (Option.any_eq_true _ _).mp running with ⟨conn, present, state⟩
  have open' : conn.state = .established ∨ conn.state = .closeWait := by simpa using state
  have live : (host.step (.close handle true nowNs)).engine.flowTable.get handle =
      some conn.finSent := Engine.closeConn_sends present open' nowNs
  have flight := (guarded.followed handle conn present).1.flight
  have small := Bool.toNat_le conn.ourFinSeq.isSome
  have ahead : offset conn.sndUna conn.sndNxt <
      offset conn.sndUna (seqAdd conn.sndNxt 1) := by
    unfold offset seqAdd
    bv_omega
  refine ⟨conn.finSent, live, ?_, ?_, ?_⟩
  · rcases open' with state | state <;> simp [TcpConn.finSent, state, TcpState.synchronized]
  · exact offset_pos_iff.mp (Nat.zero_lt_of_lt ahead)
  · exact not_covered (guarded.step rfl).trails
      (compacted.step guarded.flying guarded.followed _) live ⟨conn.sndNxt, rfl, ahead⟩

theorem compacted_of_reaches {cfg : EngineConfig} {maxConnections eventSoftCap : ℕ}
    (run : Run.Reaches Host.step (fun host op => host.acksBeside op = true)
      (Host.start cfg maxConnections eventSoftCap) host) : host.Compacted := by
  have all : host.Followed ∧ host.Flying ∧ host.Compacted := by
    apply run.invariant
    · refine ⟨followed_start cfg maxConnections eventSoftCap, ?_, ?_⟩ <;>
        · intro handle conn live
          rw [Host.get_start] at live
          cases live
    · rintro before op ⟨followed, flying, compacted⟩ beside
      exact ⟨followed.step beside, flying.step followed beside,
        compacted.step flying followed op⟩
  exact all.2.2

end Host

section Runs

variable {cfg : EngineConfig} {maxConnections eventSoftCap : ℕ} {host : Host}

/-- In every run in which no processed acknowledgment lies half the number space from `snd_nxt`,
what a synchronized connection has in flight is covered just while our FIN is not in flight. So it
always is in a run without a close that sends a FIN, and after such a close it is not. -/
theorem flight_covered_iff_no_fin (first : 0 < max cfg.tcpInitialRtoUs cfg.tcpMinRtoUs)
    (bound : 0 < cfg.tcpMaxRtoUs)
    (run : Run.Reaches Host.step (fun host op => host.acksBeside op = true)
      (Host.start cfg maxConnections eventSoftCap) host)
    (few : FewReuses host.engine.record.armed) :
    (∀ handle conn, host.engine.flowTable.get handle = some conn →
        conn.state.synchronized = true →
        (host.FlightCovered handle conn ↔ ¬ conn.finInFlight)) ∧
      (Run.Reaches Host.step (fun host op => host.keepsCover op = true)
          (Host.start cfg maxConnections eventSoftCap) host →
        ∀ handle conn, host.engine.flowTable.get handle = some conn →
          conn.state.synchronized = true → host.FlightCovered handle conn) ∧
      ∀ handle finSent nowNs, host.numbersFin (.close handle finSent nowNs) = true →
        ∃ conn, (host.step (.close handle finSent nowNs)).engine.flowTable.get handle =
            some conn ∧ conn.state.synchronized = true ∧ conn.sndUna ≠ conn.sndNxt ∧
          ¬ (host.step (.close handle finSent nowNs)).FlightCovered handle conn := by
  have guarded := Host.guarded_of_reaches first bound run
  have compacted := Host.compacted_of_reaches run
  refine ⟨fun handle conn live synced => Host.covered_iff guarded compacted few live synced,
    fun silent handle conn live synced => ?_, fun handle finSent nowNs sends => ?_⟩
  · have unsent : host.FinsUnsent := by
      apply silent.invariant
      · intro other conn' born
        rw [Host.get_start] at born
        cases born
      · intro before op unsent keeps
        exact unsent.step (by simpa using (Bool.and_eq_true_iff.mp keeps).2)
    refine (Host.covered_iff guarded compacted few live synced).mpr ?_
    rintro ⟨number, fin, _⟩
    rw [unsent handle conn live] at fin
    cases fin
  · exact Host.close_uncovers guarded compacted sends

theorem flight_covered_iff_no_fin_threeInFlight :
    (∃ conn, (Host.after threeInFlight).engine.flowTable.get 1 = some conn ∧
        conn.sndUna ≠ conn.sndNxt ∧ (Host.after threeInFlight).FlightCovered 1 conn) ∧
      ∃ conn, ((Host.after threeInFlight).step (.close 1 true 3000)).engine.flowTable.get 1 =
          some conn ∧ conn.state.synchronized = true ∧ conn.sndUna ≠ conn.sndNxt ∧
        ¬ ((Host.after threeInFlight).step (.close 1 true 3000)).FlightCovered 1 conn := by
  have known : ((Host.after threeInFlight).engine.flowTable.get 1).any (fun conn =>
      conn.state.synchronized && decide (conn.sndUna ≠ conn.sndNxt)) = true := by decide +kernel
  rcases (Option.any_eq_true _ _).mp known with ⟨conn, live, both⟩
  rcases Bool.and_eq_true_iff.mp both with ⟨synced, apart⟩
  have facts := flight_covered_iff_no_fin (by decide) (by decide)
    (Run.Reaches.of_admits (by decide +kernel :
      Run.admits Host.step Host.acksBeside (Host.start quickCfg 1 64) threeInFlight = true))
    (.of_length (by decide +kernel))
  refine ⟨⟨conn, live, of_decide_eq_true apart, facts.2.1 ?_ 1 conn live synced⟩,
    facts.2.2 1 true 3000 (by decide +kernel)⟩
  exact Run.Reaches.of_admits (by decide +kernel :
    Run.admits Host.step Host.keepsCover (Host.start quickCfg 1 64) threeInFlight = true)

/-- An idle connection is closed. -/
def closedIdle : List EngineOp :=
  handshake ++ [.close 1 true 2000]

/-- Its FIN is in flight, but in no entry and under no timer. -/
theorem fin_left_uncovered :
    ¬ ∀ host, Run.Reaches Host.step (fun _ _ => True) (Host.start quickCfg 1 64) host →
      ∀ handle conn, host.engine.flowTable.get handle = some conn →
        conn.state.synchronized = true → conn.sndUna ≠ conn.sndNxt →
        host.FlightCovered handle conn := by
  intro covered
  have known : ((Host.after closedIdle).engine.flowTable.get 1).any (fun conn =>
      conn.state.synchronized && decide (conn.sndUna ≠ conn.sndNxt) &&
        decide (conn.rtoTimerId = none)) = true := by decide +kernel
  rcases (Option.any_eq_true _ _).mp known with ⟨conn, live, facts⟩
  simp only [Bool.and_eq_true, decide_eq_true_eq] at facts
  rcases facts with ⟨⟨synced, apart⟩, none⟩
  rcases (covered _ (Host.after_reached closedIdle) 1 conn live synced apart).timer apart with
    ⟨id, name, _⟩
  rw [none] at name
  cases name

variable {handle : ConnHandle} {conn : TcpConn}

/-- In every run in which no processed acknowledgment lies half the number space from `snd_nxt`,
the queue of an ESTABLISHED connection tiles its flight, the pruning loops drop what an
acknowledgment covers, and there is a timer just while the queue is not empty. -/
theorem queue_tiled_and_timed (first : 0 < max cfg.tcpInitialRtoUs cfg.tcpMinRtoUs)
    (bound : 0 < cfg.tcpMaxRtoUs)
    (run : Run.Reaches Host.step (fun host op => host.acksBeside op = true)
      (Host.start cfg maxConnections eventSoftCap) host)
    (few : FewReuses host.engine.record.armed)
    (live : host.engine.flowTable.get handle = some conn) (running : conn.state = .established) :
    conn.Tiled ∧
      (∀ ack, seqLt conn.sndUna ack = true → seqLe ack conn.sndNxt = true →
        ack ≠ seqAdd conn.sndNxt (2 ^ 31) → conn.sndRetrans.PrunesAt ack) ∧
      (conn.rtoTimerId.isSome = true ↔ conn.sndRetrans.entries ≠ []) ∧
      (conn.sndRetrans.entries ≠ [] ↔
        ∃ id, conn.rtoTimerId = some id ∧ host.engine.Outstanding host.pending handle id) := by
  have guarded := Host.guarded_of_reaches first bound run
  rcases (guarded.flying handle conn live).laid (.inl running) with ⟨base, una, start, laid⟩
  have named : conn.rtoTimerId.isSome = true ↔ conn.sndRetrans.entries ≠ [] := by
    have watched := guarded.watched handle conn live
    rw [TcpConn.Watched, SendRetrans.isEmpty] at watched
    rw [watched]
    simp
  refine ⟨laid.tiled running, fun ack ahead known beside => laid.prunesAt running ahead known beside,
    named, fun queued => ?_, ?_⟩
  · rcases Option.isSome_iff_exists.mp (named.mpr queued) with ⟨id, name⟩
    exact ⟨id, name, guarded.running.runs few handle conn id live name⟩
  · rintro ⟨id, name, _⟩
    exact named.mp (by rw [name]; rfl)

theorem queue_tiled_and_timed_threeInFlight :
    ∃ conn, (Host.after threeInFlight).engine.flowTable.get 1 = some conn ∧ conn.Tiled ∧
      ∃ id, conn.rtoTimerId = some id ∧
        (Host.after threeInFlight).engine.Outstanding (Host.after threeInFlight).pending 1 id := by
  have known : ((Host.after threeInFlight).engine.flowTable.get 1).any (fun conn =>
      decide (conn.state = .established) && !conn.sndRetrans.isEmpty) = true := by decide +kernel
  rcases (Option.any_eq_true _ _).mp known with ⟨conn, live, both⟩
  rcases Bool.and_eq_true_iff.mp both with ⟨running, queued⟩
  have facts := queue_tiled_and_timed (by decide) (by decide)
    (Run.Reaches.of_admits (by decide +kernel :
      Run.admits Host.step Host.acksBeside (Host.start quickCfg 1 64) threeInFlight = true))
    (.of_length (by decide +kernel)) live (of_decide_eq_true running)
  exact ⟨conn, live, facts.1, facts.2.2.2.mp (by simpa [SendRetrans.isEmpty] using queued)⟩

/-- After an acknowledgment half the number space away the left edge is off the empty queue. -/
theorem opposite_ack_untiles :
    ¬ ∀ host, Run.Reaches Host.step (fun _ _ => True) (Host.start quickCfg 1 64) host →
      ∀ handle conn, host.engine.flowTable.get handle = some conn →
        conn.state = .established → conn.Tiled := by
  intro tiled
  have known : ((Host.after ackedOpposite).engine.flowTable.get 1).any (fun conn =>
      decide (conn.state = .established) && conn.sndRetrans.isEmpty &&
        decide (conn.sndUna ≠ conn.sndNxt)) = true := by decide +kernel
  rcases (Option.any_eq_true _ _).mp known with ⟨conn, live, facts⟩
  simp only [Bool.and_eq_true, decide_eq_true_eq] at facts
  rcases facts with ⟨⟨running, empty⟩, apart⟩
  have idle := (tiled _ (Host.after_reached ackedOpposite) 1 conn live running).idle
  exact apart (idle.mp (by simpa [SendRetrans.isEmpty] using empty))

end Runs

end DpdkTcp
