import DpdkTcp.Lifecycle.Machine
import DpdkTcp.Timers.Watched

/-!
# The queue of transmitted segments tiles the flight

From the handshake until our FIN the entries follow each other up to `snd_nxt`,
from a point that is not ahead of `snd_una`. While the connection is in
ESTABLISHED, the first entry is the one that holds `snd_una`; in CLOSE_WAIT the
acknowledged entries stay.
-/

namespace DpdkTcp

open Serial

/-- The entries lie between positions around the two edges. -/
structure Laid (base : Seq) (una start : ℕ) (conn : TcpConn) : Prop where
  sndUna : conn.sndUna = point base una
  follows : Follows (point base start) conn.sndRetrans.entries
  begun : start ≤ una
  within : una ≤ start + entryBytes conn.sndRetrans.entries
  near : start + entryBytes conn.sndRetrans.entries ≤ una + 2 ^ 30
  sndNxt : conn.sndNxt = point base (start + entryBytes conn.sndRetrans.entries)
  front : conn.state = .established → FrontAfter una start conn.sndRetrans.entries

/-- The states of a connection whose handshake is over and which has sent no FIN. -/
def TcpState.sending (state : TcpState) : Prop :=
  state = .established ∨ state = .closeWait

/-- Nothing is queued before the handshake is over, and what is then tiles the flight. -/
structure Flying (conn : TcpConn) : Prop where
  opening : conn.state = .synSent → conn.sndRetrans.entries = []
  laid : conn.state.sending → ∃ base una start, Laid base una start conn

section Steps

variable {base : Seq} {una start : ℕ} {before after : TcpConn}

theorem Laid.flight (laid : Laid base una start before) :
    (before.sndNxt - before.sndUna).toNat =
      start + entryBytes before.sndRetrans.entries - una := by
  have near := laid.near
  rw [laid.sndNxt, laid.sndUna]
  exact toNat_point_sub_point base laid.within (by omega)

/-- An acknowledgment that is not half the number space behind `snd_nxt` lies inside the flight. -/
theorem Laid.ack_position (laid : Laid base una start before) {ack : Seq}
    (ahead : seqLt before.sndUna ack = true) (near : (before.sndNxt - ack).toNat < 2 ^ 31) :
    ∃ pos, ack = point base pos ∧ una < pos ∧
      pos ≤ start + entryBytes before.sndRetrans.entries := by
  have within := laid.within
  rw [laid.sndUna] at ahead
  rcases exists_ahead ahead with ⟨len, positive, far, rfl⟩
  refine ⟨una + len, rfl, by omega, ?_⟩
  by_contra beyond
  have apart : (point base (una + len) - before.sndNxt).toNat =
      una + len - (start + entryBytes before.sndRetrans.entries) := by
    rw [laid.sndNxt]
    exact toNat_point_sub_point base (by omega) (by omega)
  have opposite : (before.sndNxt - point base (una + len)).toNat =
      (2 ^ 32 - (point base (una + len) - before.sndNxt).toNat) % 2 ^ 32 := by
    rw [← BitVec.toNat_neg, BitVec.neg_sub, BitVec.sub_eq_add_neg, BitVec.add_comm]
  omega

/-- The same entries under other flags and counts. -/
theorem Laid.kept (laid : Laid base una start before)
    (send : SameSend before.sndRetrans.entries before after)
    (state : after.state = .established → before.state = .established) :
    Laid base una start after where
  sndUna := send.sndUna.trans laid.sndUna
  follows := laid.follows.kept send.entries
  begun := laid.begun
  within := by
    rw [send.entries.entryBytes]
    exact laid.within
  near := by
    rw [send.entries.entryBytes]
    exact laid.near
  sndNxt := by
    rw [send.entries.entryBytes, send.sndNxt]
    exact laid.sndNxt
  front := fun running => (laid.front (state running)).kept send.entries

/-- New entries lie behind those in flight and inside the peer's window. -/
theorem Laid.sent (laid : Laid base una start before) (running : before.state = .established)
    (window : before.sndWnd < 2 ^ 30) {envs : ℕ → SendEnv} {news : List RetransEntry}
    (sent : SentTo envs news before after) : Laid base una start after := by
  have room := sent.room
  have bytes := sent.entries.entryBytes
  have within := laid.within
  have near := laid.near
  rw [entryBytes_append] at bytes
  rw [laid.flight] at room
  have joined : Follows (point base start) (before.sndRetrans.entries ++ news) := by
    apply laid.follows.append
    rw [seqAdd_point, ← laid.sndNxt]
    exact sent.follows
  refine ⟨sent.sndUna.trans laid.sndUna, joined.kept sent.entries, laid.begun, by omega, by omega,
    ?_, fun _ => ?_⟩
  · rw [sent.sndNxt, laid.sndNxt, seqAdd_point, bytes, Nat.add_assoc]
  · refine FrontAfter.kept ?_ sent.entries
    intro first isFirst
    cases entries : before.sndRetrans.entries with
    | nil =>
        -- nothing was in flight, so the first new entry starts at the left edge
        rw [entries, List.nil_append] at isFirst
        rw [entries, entryBytes_nil] at within
        have positive : 0 < first.len := by
          cases news with
          | nil => cases isFirst
          | cons entry rest =>
              cases isFirst
              exact sent.follows.2.1
        have begun := laid.begun
        omega
    | cons front rest =>
        rw [entries] at isFirst
        refine laid.front running first ?_
        rw [entries]
        exact isFirst

/-- In ESTABLISHED the entries behind the acknowledgment are pruned. -/
theorem Laid.acked (laid : Laid base una start before) (running : before.state = .established)
    {ack : Seq} (acked : AckedTo ack (before.sndRetrans.pruneBelow ack).entries before after)
    (near : (before.sndNxt - ack).toNat < 2 ^ 31) :
    ∃ pos start', Laid base pos start' after := by
  rcases laid.ack_position acked.ahead near with ⟨pos, rfl, forward, within⟩
  have flight := laid.near
  rcases laid.follows.prune (laid.front running) laid.near forward (by omega) with
    ⟨start', follows, bytes, front, _, reached⟩
  have kept := acked.entries
  have begun := laid.begun
  dsimp only [SendRetrans.pruneBelow] at kept
  refine ⟨pos, start', acked.sndUna, follows.kept kept, by omega, ?_, ?_, ?_,
    fun _ => front.kept kept⟩
  · rw [kept.entryBytes]
    omega
  · rw [kept.entryBytes]
    omega
  · rw [acked.sndNxt, kept.entryBytes, bytes]
    exact laid.sndNxt

/-- In CLOSE_WAIT they stay. -/
theorem Laid.closing (laid : Laid base una start before) {ack : Seq}
    (acked : AckedTo ack before.sndRetrans.entries before after)
    (near : (before.sndNxt - ack).toNat < 2 ^ 31) (left : after.state ≠ .established) :
    ∃ pos, Laid base pos start after := by
  rcases laid.ack_position acked.ahead near with ⟨pos, rfl, forward, within⟩
  have flight := laid.near
  have begun := laid.begun
  have bytes := acked.entries.entryBytes
  refine ⟨pos, acked.sndUna, laid.follows.kept acked.entries, by omega, by omega, by omega, ?_,
    fun running => absurd running left⟩
  rw [acked.sndNxt, bytes]
  exact laid.sndNxt

/-- The acknowledgment of our SYN leaves nothing in flight. -/
theorem Laid.opened {cfg : EngineConfig} (bounded : Bounded cfg before)
    (opening : before.state = .synSent) (empty : before.sndRetrans.entries = []) {ack : Seq}
    (opened : OpenedTo ack before after) (near : (before.sndNxt - ack).toNat < 2 ^ 31) :
    Laid before.sndNxt 0 0 after := by
  have ahead := seqLe_iff_ahead.mp opened.ahead
  rw [← bounded.opening opening] at ahead
  have acked : ack = before.sndNxt := by bv_omega
  have idle := opened.entries.eq_nil empty
  have edge : before.sndNxt = point before.sndNxt 0 := (point_zero _).symm
  refine ⟨opened.sndUna.trans (acked.trans edge), ?_, Nat.le_refl 0, Nat.zero_le _, ?_, ?_,
    fun _ => ?_⟩
  · rw [idle]
    exact trivial
  · rw [idle]
    exact Nat.zero_le _
  · rw [idle]
    exact opened.sndNxt.trans edge
  · rw [idle]
    exact fun _ => nofun

theorem TcpState.Edge.sending {first second : TcpState} (edge : first.Edge second)
    (sending : second.sending) : first = .synSent ∨ first.sending := by
  rcases sending with rfl | rfl
  · cases edge with
    | stay => exact .inr (.inl rfl)
    | synAckReceived => exact .inl rfl
  · cases edge with
    | stay => exact .inr (.inr rfl)
    | finReceived => exact .inr (.inl rfl)

theorem Flying.segment {cfg : EngineConfig} {seg : ParsedSegment} {nowNs : ℕ}
    (flying : Flying before) (bounded : Bounded cfg before)
    (step : SegmentStep before seg nowNs after) (edge : before.state.Edge after.state)
    (near : (after.sndNxt - after.sndUna).toNat < 2 ^ 31) : Flying after := by
  cases step with
  | kept send state =>
      refine ⟨fun opening => send.entries.eq_nil (flying.opening (state.eq_synSent opening)),
        fun sending => ?_⟩
      rcases edge.sending sending with opening | sending'
      · rcases sending with running | waiting
        · have started := state.eq_established running
          rw [opening] at started
          cases started
        · rw [opening, waiting] at edge
          cases edge
      · rcases flying.laid sending' with ⟨base, una, start, laid⟩
        exact ⟨base, una, start, laid.kept send state.eq_established⟩
  | opened opening send state =>
      refine ⟨fun later => ?_, fun _ => ?_⟩
      · have impossible := state.eq_synSent later
        cases impossible
      · rw [send.sndNxt, send.sndUna] at near
        exact ⟨_, 0, 0, Laid.opened bounded opening (flying.opening opening) send near⟩
  | acked running acceptable send state =>
      refine ⟨fun opening => ?_, fun _ => ?_⟩
      · rw [state.eq_synSent opening] at running
        cases running
      · rw [send.sndNxt, send.sndUna] at near
        rcases flying.laid (.inl running) with ⟨base, una, start, laid⟩
        rcases laid.acked running send near with ⟨pos, start', laid'⟩
        exact ⟨base, pos, start', laid'⟩
  | closing running acceptable send state =>
      have left : after.state ≠ .established := by
        intro established
        rw [state.eq_established established] at running
        cases running
      refine ⟨fun opening => ?_, fun sending => ?_⟩
      · rw [state.eq_synSent opening] at running
        cases running
      · rcases edge.sending sending with opening | sending'
        · rw [opening] at running
          cases running
        · rw [send.sndNxt, send.sndUna] at near
          rcases flying.laid sending' with ⟨base, una, start, laid⟩
          rcases laid.closing send near left with ⟨pos, laid'⟩
          exact ⟨base, pos, start, laid'⟩

/-- A pruning behind a dispatch that leaves nothing has acknowledged everything. -/
theorem Flying.clears (flying : Flying before) {seg : ParsedSegment} {clock : Readings}
    {sendBuf : ℕ} {mbufCtx : Option MbufInsertCtx}
    (beside : before.ackOpposite seg clock.paws = false) :
    (dispatch before seg clock sendBuf mbufCtx).Clears := by
  intro ack advance drained
  have send := dispatch_send before seg clock sendBuf mbufCtx
  generalize dispatch before seg clock sendBuf mbufCtx = dispatched at advance drained send
  cases send with
  | kept _ none _ _ =>
      rw [none] at advance
      cases advance
  | opened _ _ quiet _ | closing _ _ _ quiet _ =>
      rw [quiet.sndUnaAdvancedTo] at advance
      cases advance
  | acked running acceptable send advanced _ _ =>
      rw [advanced] at advance
      cases advance
      have takes : before.takesAck seg clock.paws = true := by
        simp [TcpConn.takesAck, send.ahead, send.known, running, acceptable]
      have apart : seg.ack ≠ seqAdd before.sndNxt (2 ^ 31) := by
        intro opposite
        simp [TcpConn.ackOpposite, opposite, takes] at beside
      have known := seqLe_iff_ahead.mp send.known
      have near : (before.sndNxt - seg.ack).toNat < 2 ^ 31 := by
        unfold seqAdd at apart
        bv_omega
      rcases flying.laid (.inl running) with ⟨base, una, start, laid⟩
      -- the queue behind the pruning is the flight behind the acknowledgment
      have pruned : AckedTo seg.ack (before.sndRetrans.pruneBelow seg.ack).entries before
          { dispatched.conn with sndRetrans := dispatched.conn.sndRetrans.pruneBelow seg.ack } :=
        ⟨send.ahead, send.known, send.sndUna, send.sndNxt, send.sndWnd, send.wsShiftIn,
          send.entries.dropWhile seg.ack⟩
      rcases laid.acked running pruned near with ⟨pos, start', laid'⟩
      have within := laid'.within
      have begun := laid'.begun
      have empty : (dispatched.conn.sndRetrans.pruneBelow seg.ack).entries = [] :=
        List.isEmpty_iff.mp drained
      dsimp only at within
      rw [empty, entryBytes_nil, Nat.add_zero] at within
      have sndUna := laid'.sndUna
      have sndNxt := laid'.sndNxt
      dsimp only at sndUna sndNxt
      rw [empty, entryBytes_nil, Nat.add_zero] at sndNxt
      rw [sndUna, sndNxt, Nat.le_antisymm begun within]

end Steps

/-! ### What the queue is -/

theorem Follows.positive {start : Seq} {entries : List RetransEntry} (follows : Follows start entries)
    {entry : RetransEntry} (member : entry ∈ entries) : 0 < entry.len := by
  induction entries generalizing start with
  | nil => cases member
  | cons first rest ih =>
      rcases List.mem_cons.mp member with rfl | later
      · exact follows.2.1
      · exact ih follows.2.2 later

theorem Follows.isChain {start : Seq} {entries : List RetransEntry} (follows : Follows start entries) :
    entries.IsChain fun first second => second.seq = first.endSeq := by
  induction entries generalizing start with
  | nil => exact .nil
  | cons first rest ih =>
      have chain := ih follows.2.2
      cases rest with
      | nil => exact .singleton first
      | cons second others => exact .cons_cons follows.2.2.1 chain

theorem Follows.last {start : Seq} {entries : List RetransEntry} (follows : Follows start entries)
    {last : RetransEntry} (isLast : entries.getLast? = some last) :
    last.endSeq = seqAdd start (entryBytes entries) := by
  induction entries generalizing start with
  | nil => cases isLast
  | cons first rest ih =>
      have ends : first.endSeq = seqAdd start first.len := by rw [RetransEntry.endSeq, follows.1]
      cases rest with
      | nil =>
          cases isLast
          rw [entryBytes_cons, entryBytes_nil, Nat.add_zero]
          exact ends
      | cons second others =>
          rw [List.getLast?_cons_cons] at isLast
          rw [ih follows.2.2 isLast, ends, ← seqAdd_add, entryBytes_cons first]

/-- An acknowledgment inside the flight that reaches the end of an entry reaches those before it. -/
theorem Follows.reached_before {base : Seq} {una start pos : ℕ} {entries : List RetransEntry}
    (follows : Follows (point base start) entries) (front : FrontAfter una start entries)
    (near : start + entryBytes entries ≤ una + 2 ^ 30) (ahead : una ≤ pos)
    (within : pos ≤ una + 2 ^ 30) :
    entries.Pairwise fun earlier later => seqLe later.endSeq (point base pos) = true →
      seqLe earlier.endSeq (point base pos) = true := by
  induction entries generalizing start with
  | nil => exact .nil
  | cons first rest ih =>
      have after : una < start + first.len := front first rfl
      have ends := follows.endSeq
      rw [entryBytes_cons] at near
      have restFollows : Follows (point base (start + first.len)) rest := ends ▸ follows.2.2
      refine .cons (fun later member reached => ?_)
        (ih restFollows (fun _ _ => by omega) (by omega))
      rcases restFollows.position member with ⟨posLater, endsAt, inside, behind⟩
      have farther : start + first.len ≤ posLater := by
        cases rest with
        | nil => cases member
        | cons second others =>
            have next := behind second rfl
            omega
      rw [endsAt, seqLe_point base (by omega) (by omega), decide_eq_true_iff] at reached
      rw [ends, seqLe_point base (by omega) (by omega), decide_eq_true_iff]
      omega

/-- The queue tiles the flight: the entries are not empty and follow each other up to `snd_nxt`,
the first holds `snd_una`, and there is none just if nothing is in flight. -/
structure TcpConn.Tiled (conn : TcpConn) : Prop where
  positive : ∀ entry ∈ conn.sndRetrans.entries, 0 < entry.len
  contiguous : conn.sndRetrans.entries.IsChain fun first second => second.seq = first.endSeq
  last : ∀ last ∈ conn.sndRetrans.entries.getLast?, last.endSeq = conn.sndNxt
  first : ∀ first ∈ conn.sndRetrans.entries.head?, (conn.sndUna - first.seq).toNat < first.len
  idle : conn.sndRetrans.entries = [] ↔ conn.sndUna = conn.sndNxt

namespace SendRetrans

theorem pruneBelowFrom_eq (ack : Seq) (entries dropped : List RetransEntry) :
    pruneBelowFrom ack entries dropped =
      (dropped ++ prunedBelow ⟨entries⟩ ack, pruneBelow ⟨entries⟩ ack) := by
  induction entries generalizing dropped with
  | nil => simp [pruneBelowFrom, prunedBelow, pruneBelow]
  | cons front rest ih =>
      cases acked : seqLe front.endSeq ack with
      | true => simp [pruneBelowFrom, prunedBelow, pruneBelow, acked, ih]
      | false => simp [pruneBelowFrom, prunedBelow, pruneBelow, acked]

/-- Both loops drop the same entries. -/
theorem pruneBelowIntoMbufs_eq (ack : Seq) (entries : List RetransEntry) (out : List ℕ) :
    pruneBelowIntoMbufs ack entries out =
      (out ++ ((prunedBelow ⟨entries⟩ ack).map RetransEntry.mbuf).filter (fun mbuf => mbuf ≠ 0),
        pruneBelow ⟨entries⟩ ack) := by
  induction entries generalizing out with
  | nil => simp [pruneBelowIntoMbufs, prunedBelow, pruneBelow]
  | cons front rest ih =>
      cases acked : seqLe front.endSeq ack with
      | true =>
          by_cases null : front.mbuf = 0
          · simp [pruneBelowIntoMbufs, prunedBelow, pruneBelow, acked, ih, null]
          · simp [pruneBelowIntoMbufs, prunedBelow, pruneBelow, acked, ih, null]
      | false => simp [pruneBelowIntoMbufs, prunedBelow, pruneBelow, acked]

/-- The loops up to `ack` drop exactly the entries that end there or before it, and the engine
goes on with the others. -/
structure PrunesAt (retrans : SendRetrans) (ack : Seq) : Prop where
  dropped : pruneBelowFrom ack retrans.entries [] =
    (retrans.entries.filter (fun entry => seqLe entry.endSeq ack), retrans.pruneBelow ack)
  mbufs : pruneBelowIntoMbufs ack retrans.entries [] =
    (((retrans.entries.filter fun entry => seqLe entry.endSeq ack).map RetransEntry.mbuf).filter
      (fun mbuf => mbuf ≠ 0), retrans.pruneBelow ack)
  left : (retrans.pruneBelow ack).entries =
    retrans.entries.filter fun entry => !seqLe entry.endSeq ack

end SendRetrans

theorem Laid.tiled {base : Seq} {una start : ℕ} {conn : TcpConn} (laid : Laid base una start conn)
    (running : conn.state = .established) : conn.Tiled := by
  have begun := laid.begun
  have near := laid.near
  have flight := laid.flight
  have front := laid.front running
  refine ⟨fun entry member => laid.follows.positive member, laid.follows.isChain,
    fun last isLast => ?_, fun first isFirst => ?_, fun empty => ?_, fun edges => ?_⟩
  · rw [laid.follows.last isLast, laid.sndNxt, seqAdd_point]
  · have after := front first isFirst
    have starts : first.seq = point base start := by
      have follows := laid.follows
      cases entries : conn.sndRetrans.entries with
      | nil =>
          rw [entries] at isFirst
          cases isFirst
      | cons entry rest =>
          rw [entries] at isFirst follows
          cases isFirst
          exact follows.1
    rw [starts, laid.sndUna]
    exact Nat.lt_of_le_of_lt (toNat_point_sub_point_le base begun) (by omega)
  · have within := laid.within
    rw [empty, entryBytes_nil, Nat.add_zero] at within
    rw [laid.sndUna, laid.sndNxt, empty, entryBytes_nil, Nat.add_zero,
      Nat.le_antisymm within begun]
  · rw [edges, BitVec.sub_self] at flight
    cases entries : conn.sndRetrans.entries with
    | nil => rfl
    | cons first rest =>
        rw [entries] at front flight
        have after : una < start + first.len := front first rfl
        rw [entryBytes_cons] at flight
        simp at flight
        omega

/-- An acknowledgment of something in flight prunes what it covers. -/
theorem Laid.prunesAt {base : Seq} {una start : ℕ} {conn : TcpConn}
    (laid : Laid base una start conn) (running : conn.state = .established) {ack : Seq}
    (ahead : seqLt conn.sndUna ack = true) (known : seqLe ack conn.sndNxt = true)
    (beside : ack ≠ seqAdd conn.sndNxt (2 ^ 31)) : conn.sndRetrans.PrunesAt ack := by
  have near : (conn.sndNxt - ack).toNat < 2 ^ 31 := by
    have far := seqLe_iff_ahead.mp known
    unfold seqAdd at beside
    bv_omega
  rcases laid.ack_position ahead near with ⟨pos, rfl, forward, within⟩
  have flight := laid.near
  have closed := laid.follows.reached_before (laid.front running) flight (Nat.le_of_lt forward)
    (by omega)
  refine ⟨?_, ?_, Slice.dropWhile_eq_filter closed⟩
  · rw [SendRetrans.pruneBelowFrom_eq, List.nil_append]
    exact congrArg (fun dropped => (dropped, _)) (Slice.takeWhile_eq_filter closed)
  · rw [SendRetrans.pruneBelowIntoMbufs_eq, List.nil_append]
    exact congrArg (fun dropped => ((List.map RetransEntry.mbuf dropped).filter _, _))
      (Slice.takeWhile_eq_filter closed)

namespace Host

/-- All queues tile the flight. -/
def Flying (host : Host) : Prop :=
  ∀ handle conn, host.engine.flowTable.get handle = some conn → DpdkTcp.Flying conn

theorem Followed.near {host : Host} (followed : host.Followed) {handle : ConnHandle}
    {conn : TcpConn} (live : host.engine.flowTable.get handle = some conn) :
    (conn.sndNxt - conn.sndUna).toNat < 2 ^ 31 := by
  rcases (followed handle conn live).2 with ⟨life, shown⟩
  have near := life.near
  have ordered := life.una_le
  rw [shown.flight]
  omega

theorem Flying.step {host : Host} (flying : host.Flying) (followed : host.Followed) {op : EngineOp}
    (beside : host.acksBeside op = true) : (host.step op).Flying := by
  intro handle conn' live
  have step := host.step_conns op live
  have near := (followed.step beside).near live
  cases present : host.engine.flowTable.get handle with
  | none =>
      rw [present] at step
      cases step with
      | opening opening =>
          have empty : conn'.sndRetrans.entries = [] := List.forall₂_nil_left_iff.mp opening.entries
          refine ⟨fun _ => empty, fun sending => ?_⟩
          -- a new connection is in SYN_SENT, or already closed again
          rcases opening.closes with same | closed
          · rcases sending with running | waiting
            · rw [running] at same
              cases same
            · rw [waiting] at same
              cases same
          · rcases sending with running | waiting
            · rw [running] at closed
              cases closed
            · rw [waiting] at closed
              cases closed
  | some conn =>
      rw [present] at step
      have before := flying handle conn present
      rcases followed handle conn present with ⟨bounded, life, shown⟩
      rcases step_life beside present live bounded shown with ⟨_, life', shown', advance⟩
      have edge : conn.state.Edge conn'.state := by
        rw [shown.state, shown'.state]
        exact advance.edge
      cases step with
      | kept kept =>
          have alive : conn'.state ≠ .closed → conn.state = conn'.state :=
            fun open' => (kept.closes.resolve_right open').symm
          refine ⟨fun opening => ?_, fun sending => ?_⟩
          · exact kept.entries.eq_nil (before.opening ((alive (by rw [opening]; decide)).trans opening))
          · have same := alive (by rcases sending with state | state <;> rw [state] <;> decide)
            rcases before.laid (same ▸ sending) with ⟨base, una, start, laid⟩
            exact ⟨base, una, start, laid.kept kept.send fun running => same.trans running⟩
      | sent running news sent =>
          refine ⟨fun opening => ?_, fun _ => ?_⟩
          · rw [sent.state.eq_synSent opening] at running
            cases running
          · rcases before.laid (.inl running) with ⟨base, una, start, laid⟩
            exact ⟨base, una, start, laid.sent running bounded.sndWnd sent⟩
      | fin running sent state =>
          have left := conn.finSent_state
          rw [← state] at left
          refine ⟨fun opening => ?_, fun sending => ?_⟩
          · simp [opening] at left
          · rcases sending with running | waiting
            · simp [running] at left
            · simp [waiting] at left
      | segment dispatched processed kept =>
          subst processed
          exact before.segment bounded ((dispatch_send _ _ _ _ _).step kept) edge near

end Host

end DpdkTcp
