import DpdkTcp.Send.Step
import DpdkTcp.Input.Opened
import DpdkTcp.Lib.Run

/-!
# Acknowledged data

In ESTABLISHED the engine prunes `snd_retrans` behind every advance of
`snd_una`, so no entry lies below it. The closing states advance `snd_una`
too, but nothing is pruned there.

Entries are placed on positions counted from a common base. Their ends lie
behind `snd_una`, and less than half the number space ahead of it, so that the
wrapping comparisons of the code are those of the positions.
-/

namespace DpdkTcp

open Serial

/-- An acknowledgment that passes `seq_lt` lies at most half the space ahead. -/
theorem exists_ahead {base ack : Seq} {pos : ℕ} (ahead : seqLt (point base pos) ack = true) :
    ∃ len, 0 < len ∧ len ≤ 2 ^ 31 ∧ ack = point base (pos + len) := by
  rcases exists_point base ack pos with ⟨len, inside, rfl⟩
  refine ⟨len, ?_, ?_, rfl⟩
  · by_contra none
    have zero : len = 0 := by omega
    rw [zero, Nat.add_zero, seqLt_self] at ahead
    cases ahead
  · by_contra far
    -- one turn further round, the acknowledgment lies behind
    have turn : point base pos = point base (pos + 2 ^ 32) := by
      have wrap : BitVec.ofNat 32 (2 ^ 32) = 0#32 := by decide
      rw [point_add, wrap, BitVec.add_zero]
    rw [turn, seqLt_point base (by omega) (by omega), decide_eq_true_iff] at ahead
    omega

/-! ### Positions of entries -/

theorem Follows.endSeq {base : Seq} {start : ℕ} {entry : RetransEntry}
    {rest : List RetransEntry} (follows : Follows (point base start) (entry :: rest)) :
    entry.endSeq = point base (start + entry.len) := by
  rw [RetransEntry.endSeq, follows.1, seqAdd_point]

/-- Every entry ends at a position, and not before the front entry does. -/
theorem Follows.position {base : Seq} {start : ℕ} {entries : List RetransEntry}
    (follows : Follows (point base start) entries) {entry : RetransEntry}
    (member : entry ∈ entries) :
    ∃ pos, entry.endSeq = point base pos ∧ pos ≤ start + entryBytes entries ∧
      ∀ front ∈ entries.head?, start + front.len ≤ pos := by
  induction entries generalizing start with
  | nil => cases member
  | cons first rest ih =>
      have ends := follows.endSeq
      rcases follows with ⟨_, _, restFollows⟩
      simp only [List.head?_cons, Option.mem_some_iff, forall_eq', entryBytes_cons]
      rcases List.mem_cons.mp member with rfl | later
      · exact ⟨start + entry.len, ends, by omega, Nat.le_refl _⟩
      · rw [ends] at restFollows
        rcases ih restFollows later with ⟨pos, endsAt, within, behind⟩
        refine ⟨pos, endsAt, by omega, ?_⟩
        cases rest with
        | nil => cases later
        | cons second others =>
            have next := behind second rfl
            omega

/-- The end of the front entry, when there is one, lies behind `una`. -/
def FrontAfter (una start : ℕ) (entries : List RetransEntry) : Prop :=
  ∀ front ∈ entries.head?, una < start + front.len

/-- Pruning at `ack` leaves the entries that end behind it. -/
theorem Follows.prune {base : Seq} {una start ack : ℕ} {entries : List RetransEntry}
    (follows : Follows (point base start) entries) (front : FrontAfter una start entries)
    (near : start + entryBytes entries ≤ una + 2 ^ 30) (ahead : una < ack)
    (within : ack ≤ una + 2 ^ 31) :
    ∃ start', Follows (point base start')
        (entries.dropWhile fun entry => seqLe entry.endSeq (point base ack)) ∧
      start' + entryBytes (entries.dropWhile fun entry => seqLe entry.endSeq (point base ack)) =
        start + entryBytes entries ∧
      FrontAfter ack start'
        (entries.dropWhile fun entry => seqLe entry.endSeq (point base ack)) ∧
      start ≤ start' ∧ (start' = start ∨ start' ≤ ack) := by
  induction entries generalizing start with
  | nil => exact ⟨start, trivial, rfl, by simp [FrontAfter], Nat.le_refl _, Or.inl rfl⟩
  | cons entry rest ih =>
      have after : una < start + entry.len := front entry rfl
      have ends := follows.endSeq
      rw [entryBytes_cons] at near
      simp only [List.dropWhile_cons, ends]
      rw [seqLe_point base (by omega) (by omega)]
      split
      · rename_i acked
        simp only [decide_eq_true_iff] at acked
        rcases follows with ⟨_, _, restFollows⟩
        rw [ends] at restFollows
        have restFront : FrontAfter una (start + entry.len) rest := by
          intro second _
          omega
        rcases ih restFollows restFront (by omega) with
          ⟨start', follows', bytes, front', forward, reached⟩
        refine ⟨start', follows', ?_, front', by omega, Or.inr (by omega)⟩
        rw [bytes, entryBytes_cons]
        omega
      · rename_i unacked
        simp only [decide_eq_true_iff, Nat.not_le] at unacked
        refine ⟨start, follows, rfl, ?_, Nat.le_refl _, Or.inl rfl⟩
        intro first isFirst
        cases isFirst
        exact unacked

/-! ### The invariant of one connection -/

/-- The positions of the left edge and of the entries. -/
structure Placed (base : Seq) (una start : ℕ) (conn : TcpConn) : Prop where
  sndUna : conn.sndUna = point base una
  follows : Follows (point base start) conn.sndRetrans.entries
  front : FrontAfter una start conn.sndRetrans.entries
  near : start + entryBytes conn.sndRetrans.entries ≤ una + 2 ^ 30
  sndNxt : conn.state = .established →
    conn.sndNxt = point base (start + entryBytes conn.sndRetrans.entries)

/-- The window fits 30 bits, nothing is in flight before the handshake is over,
and no entry is acknowledged. -/
structure Unacked (conn : TcpConn) : Prop where
  sndWnd : conn.sndWnd < 2 ^ 30
  wsShiftIn : conn.wsShiftIn ≤ 14
  opening : conn.state = .synSent → conn.sndRetrans.entries = []
  placed : conn.sndRetrans.entries = [] ∨ ∃ base una start, Placed base una start conn

theorem scaledWindow_lt (window : UInt16) {shift : ℕ} (small : shift ≤ 14) :
    scaledWindow window shift < 2 ^ 30 := by
  have width : window.toNat < 2 ^ 16 := UInt16.toNat_lt window
  have shifted : 2 ^ (shift % 32) ≤ 2 ^ 14 := by
    apply Nat.pow_le_pow_right (by decide)
    omega
  calc scaledWindow window shift
      ≤ window.toNat * 2 ^ (shift % 32) := Nat.mod_le _ _
    _ ≤ window.toNat * 2 ^ 14 := Nat.mul_le_mul_left _ shifted
    _ < 2 ^ 16 * 2 ^ 14 := Nat.mul_lt_mul_of_pos_right width (by decide)
    _ = 2 ^ 30 := by decide

theorem AckedTo.sndWnd_lt {ack : Seq} {entries : List RetransEntry} {before after : TcpConn}
    (acked : AckedTo ack entries before after) (window : before.sndWnd < 2 ^ 30)
    (shift : before.wsShiftIn ≤ 14) : after.sndWnd < 2 ^ 30 := by
  rcases acked.sndWnd with same | ⟨window, scaled⟩
  · rw [same]
    exact window
  · rw [scaled]
    exact scaledWindow_lt window shift

/-- The ends of placed entries are not acknowledged. -/
theorem Placed.unacked {base : Seq} {una start : ℕ} {conn : TcpConn}
    (placed : Placed base una start conn) {entry : RetransEntry}
    (member : entry ∈ conn.sndRetrans.entries) : seqLe entry.endSeq conn.sndUna = false := by
  rcases placed.follows.position member with ⟨pos, ends, within, behind⟩
  have near := placed.near
  have after : una < pos := by
    cases entries : conn.sndRetrans.entries with
    | nil =>
        rw [entries] at member
        cases member
    | cons front rest =>
        rw [entries] at behind
        have first : una < start + front.len := placed.front front (by rw [entries]; rfl)
        have last := behind front rfl
        omega
  rw [ends, placed.sndUna, seqLe_point base (by omega) (by omega), decide_eq_false_iff_not]
  omega

theorem Unacked.entries {conn : TcpConn} (unacked : Unacked conn) {entry : RetransEntry}
    (member : entry ∈ conn.sndRetrans.entries) : seqLe entry.endSeq conn.sndUna = false := by
  rcases unacked.placed with empty | ⟨base, una, start, placed⟩
  · rw [empty] at member
    cases member
  · exact placed.unacked member

section Kept

variable {base : Seq} {una start : ℕ} {before after : TcpConn}

theorem FrontAfter.kept {entries entries' : List RetransEntry}
    (front : FrontAfter una start entries) (kept : EntriesKept entries entries') :
    FrontAfter una start entries' := by
  intro first isFirst
  cases kept with
  | nil => cases isFirst
  | cons head _ =>
      cases isFirst
      rw [head.len]
      exact front _ rfl

theorem EntriesKept.eq_nil {entries entries' : List RetransEntry}
    (kept : EntriesKept entries entries') (empty : entries = []) : entries' = [] := by
  rw [empty] at kept
  exact List.forall₂_nil_left_iff.mp kept

theorem Unacked.kept (unacked : Unacked before)
    (send : SameSend before.sndRetrans.entries before after)
    (state : before.state.Later after.state) : Unacked after := by
  refine ⟨?_, ?_, ?_, ?_⟩
  · rw [send.sndWnd]
    exact unacked.sndWnd
  · rw [send.wsShiftIn]
    exact unacked.wsShiftIn
  · intro opening
    exact send.entries.eq_nil (unacked.opening (state.eq_synSent opening))
  · rcases unacked.placed with empty | ⟨base, una, start, placed⟩
    · exact Or.inl (send.entries.eq_nil empty)
    · refine Or.inr ⟨base, una, start, send.sndUna.trans placed.sndUna,
        placed.follows.kept send.entries, placed.front.kept send.entries, ?_, ?_⟩
      · rw [send.entries.entryBytes]
        exact placed.near
      · intro running
        rw [send.entries.entryBytes, send.sndNxt]
        exact placed.sndNxt (state.eq_established running)

theorem unacked_of_opening {engine : Engine} {tuple : FourTuple} {iss : Seq} {ourMss : UInt16}
    {opts : ConnectOpts} {nowNs : ℕ} {conn : TcpConn}
    (opening : KeptAs [] ((engine.connecting tuple iss ourMss opts nowNs).enter .synSent) conn) :
    Unacked conn := by
  have empty : conn.sndRetrans.entries = [] := List.forall₂_nil_left_iff.mp opening.entries
  refine ⟨?_, ?_, fun _ => empty, Or.inl empty⟩
  · rw [opening.send.sndWnd]
    exact Nat.two_pow_pos 30
  · rw [opening.send.wsShiftIn]
    exact Nat.zero_le 14

theorem Unacked.opened (unacked : Unacked before) (opening : before.state = .synSent) {ack : Seq}
    (opened : OpenedTo ack before after) : Unacked after := by
  have empty := opened.entries.eq_nil (unacked.opening opening)
  have window := opened.sndWnd
  exact ⟨by omega, opened.wsShiftIn, fun _ => empty, Or.inl empty⟩

/-- New entries lie behind those in flight and inside the peer's window. -/
theorem Unacked.sent (unacked : Unacked before) (running : before.state = .established)
    {envs : ℕ → SendEnv} {news : List RetransEntry} (sent : SentTo envs news before after) :
    Unacked after := by
  have room := sent.room
  have window := unacked.sndWnd
  have bytes := sent.entries.entryBytes
  rw [entryBytes_append] at bytes
  refine ⟨sent.sndWnd ▸ unacked.sndWnd, sent.wsShiftIn ▸ unacked.wsShiftIn, ?_, ?_⟩
  · intro opening
    rw [sent.state.eq_synSent opening] at running
    cases running
  · by_cases empty : before.sndRetrans.entries = []
    · cases news with
      | nil =>
          refine Or.inl (sent.entries.eq_nil ?_)
          rw [empty, List.append_nil]
      | cons entry rest =>
          -- the queue was empty: count from the left edge
          rcases exists_point before.sndUna before.sndNxt 0 with ⟨gap, gapLt, nxt⟩
          rw [Nat.zero_add] at nxt
          have inFlight : (before.sndNxt - before.sndUna).toNat = gap := by
            have difference := toNat_point_sub_point before.sndUna (Nat.zero_le gap) (by omega)
            rw [point_zero] at difference
            rw [nxt, difference, Nat.sub_zero]
          rw [inFlight] at room
          have positive : 0 < entry.len := sent.follows.2.1
          have some : entry.len ≤ entryBytes (entry :: rest) := by
            rw [entryBytes_cons]
            omega
          have follows := sent.follows
          have entries := sent.entries
          rw [nxt] at follows
          rw [empty, List.nil_append] at entries
          rw [empty, entryBytes_nil, Nat.zero_add] at bytes
          refine Or.inr ⟨before.sndUna, 0, gap, ?_, follows.kept entries, ?_, ?_, ?_⟩
          · rw [sent.sndUna, point_zero]
          · refine FrontAfter.kept ?_ entries
            intro first isFirst
            cases isFirst
            omega
          · omega
          · intro _
            rw [sent.sndNxt, nxt, seqAdd_point, bytes]
    · rcases unacked.placed with none | ⟨base, una, start, placed⟩
      · exact absurd none empty
      · have nxt := placed.sndNxt running
        have behind : una ≤ start + entryBytes before.sndRetrans.entries := by
          cases entries : before.sndRetrans.entries with
          | nil => exact absurd entries empty
          | cons front rest =>
              have first : una < start + front.len := placed.front front (by rw [entries]; rfl)
              rw [entryBytes_cons]
              omega
        have near := placed.near
        have inFlight : (before.sndNxt - before.sndUna).toNat =
            start + entryBytes before.sndRetrans.entries - una := by
          rw [nxt, placed.sndUna]
          exact toNat_point_sub_point base behind (by omega)
        rw [inFlight] at room
        have joined : Follows (point base start) (before.sndRetrans.entries ++ news) := by
          apply placed.follows.append
          rw [seqAdd_point, ← nxt]
          exact sent.follows
        refine Or.inr ⟨base, una, start, sent.sndUna.trans placed.sndUna,
          joined.kept sent.entries, ?_, by omega, ?_⟩
        · refine FrontAfter.kept ?_ sent.entries
          intro first isFirst
          apply placed.front
          rw [List.head?_append_of_ne_nil _ empty] at isFirst
          exact isFirst
        · intro _
          rw [sent.sndNxt, nxt, seqAdd_point, bytes, Nat.add_assoc]

theorem TcpConn.finSent_state (conn : TcpConn) :
    conn.finSent.state = .finWait1 ∨ conn.finSent.state = .lastAck := by
  dsimp only [TcpConn.finSent]
  split
  · exact Or.inl rfl
  · exact Or.inr rfl

theorem Unacked.fin (unacked : Unacked before) (sent : Kept before.finSent after)
    (state : after.state = before.finSent.state) : Unacked after := by
  have send : SameSend before.sndRetrans.entries before.finSent after := sent.send
  have left : after.state = .finWait1 ∨ after.state = .lastAck := by
    rw [state]
    exact before.finSent_state
  refine ⟨send.sndWnd ▸ unacked.sndWnd, send.wsShiftIn ▸ unacked.wsShiftIn, ?_, ?_⟩
  · intro opening
    simp [opening] at left
  · rcases unacked.placed with empty | ⟨base, una, start, placed⟩
    · exact Or.inl (send.entries.eq_nil empty)
    · refine Or.inr ⟨base, una, start, send.sndUna.trans placed.sndUna,
        placed.follows.kept send.entries, placed.front.kept send.entries, ?_, ?_⟩
      · rw [send.entries.entryBytes]
        exact placed.near
      · intro running
        simp [running] at left

/-- In ESTABLISHED the entries behind the acknowledgment are pruned. -/
theorem Unacked.acked (unacked : Unacked before) (running : before.state = .established)
    {ack : Seq} (acked : AckedTo ack (before.sndRetrans.pruneBelow ack).entries before after)
    (state : before.state.Later after.state) : Unacked after := by
  refine ⟨acked.sndWnd_lt unacked.sndWnd unacked.wsShiftIn, acked.wsShiftIn ▸ unacked.wsShiftIn,
    ?_, ?_⟩
  · intro opening
    rw [state.eq_synSent opening] at running
    cases running
  · rcases unacked.placed with empty | ⟨base, una, start, placed⟩
    · refine Or.inl (acked.entries.eq_nil ?_)
      rw [SendRetrans.pruneBelow, empty]
      rfl
    · have ahead := acked.ahead
      rw [placed.sndUna] at ahead
      rcases exists_ahead ahead with ⟨len, positive, within, reached⟩
      rcases placed.follows.prune placed.front placed.near
        (show una < una + len by omega) (by omega) with
        ⟨start', follows, bytes, front, _⟩
      rw [← reached] at follows bytes front
      have kept := acked.entries
      dsimp only [SendRetrans.pruneBelow] at kept
      have near := placed.near
      refine Or.inr ⟨base, una + len, start', acked.sndUna.trans reached, follows.kept kept,
        front.kept kept, ?_, ?_⟩
      · rw [kept.entryBytes]
        omega
      · intro _
        rw [acked.sndNxt, kept.entryBytes, bytes]
        exact placed.sndNxt running

end Kept

/-- The acknowledgment reaches the end of the front entry. -/
def TcpConn.frontReached (conn : TcpConn) (ack : Seq) : Bool :=
  conn.sndRetrans.entries.head?.any fun front => seqLe front.endSeq ack

/-- An acknowledgment that does not reach the end of the front entry reaches none. -/
theorem Placed.advance {base : Seq} {una start : ℕ} {conn : TcpConn}
    (placed : Placed base una start conn) {ack : Seq} (ahead : seqLt conn.sndUna ack = true)
    (unreached : conn.frontReached ack = false) :
    ∃ ackPos, ack = point base ackPos ∧ una < ackPos ∧
      FrontAfter ackPos start conn.sndRetrans.entries := by
  rw [placed.sndUna] at ahead
  rcases exists_ahead ahead with ⟨len, positive, within, reached⟩
  refine ⟨una + len, reached, by omega, ?_⟩
  intro front isFirst
  have first := placed.front front isFirst
  have near := placed.near
  have follows := placed.follows
  unfold TcpConn.frontReached at unreached
  cases entries : conn.sndRetrans.entries with
  | nil =>
      rw [entries] at isFirst
      cases isFirst
  | cons entry rest =>
      rw [entries] at isFirst follows unreached near
      cases isFirst
      rw [entryBytes_cons] at near
      simp only [List.head?_cons, Option.any_some, follows.endSeq, reached] at unreached
      rw [seqLe_point base (by omega) (by omega), decide_eq_false_iff_not] at unreached
      omega

theorem Unacked.closing {before after : TcpConn} (unacked : Unacked before)
    (running : before.state.isClosing = true) {ack : Seq}
    (acked : AckedTo ack before.sndRetrans.entries before after)
    (unreached : before.frontReached ack = false) (state : before.state.Later after.state) :
    Unacked after := by
  refine ⟨acked.sndWnd_lt unacked.sndWnd unacked.wsShiftIn, acked.wsShiftIn ▸ unacked.wsShiftIn,
    ?_, ?_⟩
  · intro opening
    rw [state.eq_synSent opening] at running
    cases running
  · rcases unacked.placed with empty | ⟨base, una, start, placed⟩
    · exact Or.inl (acked.entries.eq_nil empty)
    · rcases placed.advance acked.ahead unreached with ⟨ackPos, reached, forward, front⟩
      have near := placed.near
      refine Or.inr ⟨base, ackPos, start, acked.sndUna.trans reached,
        placed.follows.kept acked.entries, front.kept acked.entries, ?_, ?_⟩
      · rw [acked.entries.entryBytes]
        omega
      · intro established
        rw [state.eq_established established] at running
        cases running

/-! ### Runs -/

/-- The segment gets as far as the ACK processing of its state, and advances `snd_una`. -/
def TcpConn.takesAck (conn : TcpConn) (seg : ParsedSegment) (nowNs : ℕ) : Bool :=
  seqLt conn.sndUna seg.ack && seqLe seg.ack conn.sndNxt &&
    (conn.state = .established && conn.acceptable seg nowNs ||
      conn.state.isClosing && conn.closeAcceptable seg nowNs)

/-- An acknowledgment that reaches the end of the front entry is processed in
ESTABLISHED, with indexes that fit a `u16`. -/
def Host.prunes (host : Host) : EngineOp → Bool
  | .segment handle seg _ env =>
      (host.engine.flowTable.get handle).all fun conn =>
        !(conn.takesAck seg env.clock.paws && conn.frontReached seg.ack) ||
          conn.state = .established && decide (conn.sndRetrans.entries.length ≤ 65536)
  | _ => true

/-- Every entry and every entry ever looked up for retransmission ends behind `snd_una`. -/
structure Host.NothingAcked (host : Host) : Prop where
  conns : ∀ handle conn, host.engine.flowTable.get handle = some conn → Unacked conn
  picks : ∀ pick ∈ host.engine.picked, seqLe pick.entry.endSeq pick.sndUna = false

theorem Host.nothingAcked_start (cfg : EngineConfig) (maxConnections eventSoftCap : ℕ) :
    (Host.start cfg maxConnections eventSoftCap).NothingAcked := by
  refine ⟨?_, by simp [Host.start, Engine.new]⟩
  intro handle conn live
  rw [Host.get_start] at live
  cases live

theorem Unacked.segment {conn after : TcpConn} {seg : ParsedSegment} {nowNs : ℕ}
    (unacked : Unacked conn) (step : SegmentStep conn seg nowNs after)
    (prunes : conn.takesAck seg nowNs = true → conn.frontReached seg.ack = true →
      conn.state = .established) : Unacked after := by
  cases step with
  | kept send state => exact unacked.kept send state
  | opened opening send _ => exact unacked.opened opening send
  | acked running _ send state => exact unacked.acked running send state
  | closing running acceptable send state =>
      refine unacked.closing running send ?_ state
      cases reached : conn.frontReached seg.ack with
      | false => rfl
      | true =>
          have takes : conn.takesAck seg nowNs = true := by
            simp [TcpConn.takesAck, send.ahead, send.known, running, acceptable]
          rw [prunes takes reached] at running
          cases running

/-- What RACK sends again is not acknowledged, although the entries are pruned later. -/
theorem Unacked.rackPick {conn : TcpConn} {seg : ParsedSegment} {clock : Readings}
    {sendBuf : ℕ} {mbufCtx : Option MbufInsertCtx} {index : ℕ} {entry : RetransEntry}
    (unacked : Unacked conn)
    (chosen : index ∈ (dispatch conn seg clock sendBuf mbufCtx).outcome.rackLostIndexes)
    (found : (dispatch conn seg clock sendBuf mbufCtx).conn.sndRetrans.entries[index]? =
      some entry)
    (prunes : conn.takesAck seg clock.paws = true → conn.frontReached seg.ack = true →
      conn.sndRetrans.entries.length ≤ 65536) :
    seqLe entry.endSeq (dispatch conn seg clock sendBuf mbufCtx).conn.sndUna = false := by
  have send := dispatch_send conn seg clock sendBuf mbufCtx
  generalize dispatch conn seg clock sendBuf mbufCtx = dispatched at chosen found send ⊢
  cases send with
  | kept send _ _ _ =>
      rcases send.entries.getElem? found with ⟨original, foundOriginal, kept⟩
      rw [kept.endSeq, send.sndUna]
      exact unacked.entries (List.mem_of_getElem? foundOriginal)
  | opened _ _ quiet _ =>
      rw [quiet.rackLostIndexes] at chosen
      cases chosen
  | closing _ _ _ quiet _ =>
      rw [quiet.rackLostIndexes] at chosen
      cases chosen
  | acked running acceptable send _ lost _ =>
      rcases send.entries.getElem? found with ⟨original, foundOriginal, kept⟩
      cases reached : conn.frontReached seg.ack with
      | true =>
          have takes : conn.takesAck seg clock.paws = true := by
            simp [TcpConn.takesAck, send.ahead, send.known, running, acceptable]
          have few := prunes takes reached
          rcases lost index chosen with ⟨position, entry', index_eq, found', unackedEntry⟩
          rcases send.entries.getElem? found' with ⟨_, foundPosition, _⟩
          rcases List.getElem?_eq_some_iff.mp foundPosition with ⟨inside, _⟩
          rw [asU16_of_lt (by omega)] at index_eq
          rw [index_eq, found'] at found
          cases found
          exact unackedEntry
      | false =>
          rcases unacked.placed with empty | ⟨base, una, start, placed⟩
          · rw [empty] at foundOriginal
            simp at foundOriginal
          · rcases placed.advance send.ahead reached with ⟨ackPos, ack, forward, front⟩
            have near := placed.near
            have advanced : Placed base ackPos start
                { conn with sndUna := seg.ack, state := .closed } :=
              ⟨ack, placed.follows, front, by dsimp only; omega, by simp⟩
            rw [kept.endSeq, send.sndUna]
            exact advanced.unacked (List.mem_of_getElem? foundOriginal)

theorem Host.NothingAcked.step {host : Host} (before : host.NothingAcked) {op : EngineOp}
    (prunes : host.prunes op = true) : (host.step op).NothingAcked := by
  have condition : ∀ handle seg mbufCtx env, op = .segment handle seg mbufCtx env →
      ∀ conn, host.engine.flowTable.get handle = some conn →
        conn.takesAck seg env.clock.paws = true → conn.frontReached seg.ack = true →
          conn.state = .established ∧ conn.sndRetrans.entries.length ≤ 65536 := by
    rintro handle seg mbufCtx env rfl conn live takes reached
    simpa [Host.prunes, live, takes, reached] using prunes
  constructor
  · intro handle conn' live
    have step := host.step_conns op live
    generalize present : host.engine.flowTable.get handle = original at step
    cases step with
    | kept kept => exact (before.conns handle _ present).kept kept.send kept.state
    | opening opening => exact unacked_of_opening opening
    | sent running news sent => exact (before.conns handle _ present).sent running sent
    | fin running sent state => exact (before.conns handle _ present).fin sent state
    | segment dispatched processed kept =>
        subst processed
        exact (before.conns handle _ present).segment ((dispatch_send _ _ _ _ _).step kept)
          fun takes reached => (condition handle _ _ _ rfl _ present takes reached).1
  · rcases host.step_picks op with ⟨picks, picked, origin⟩
    rw [picked]
    intro pick member
    rcases List.mem_append.mp member with early | late
    · exact before.picks pick early
    · rcases origin pick late with ⟨conn, index, entry, live, sndUna, _, found, kept⟩ | rack
      · rw [kept.endSeq, sndUna]
        exact (before.conns _ conn live).entries (List.mem_of_getElem? found)
      · cases op with
        | segment handle seg mbufCtx env =>
            rcases rack with ⟨conn, after, index, entry, _, live, rfl, sndUna, chosen, found, kept⟩
            rw [kept.endSeq, sndUna]
            exact (before.conns handle conn live).rackPick chosen found fun takes reached =>
              (condition handle seg mbufCtx env rfl conn live takes reached).2
        | connect | send | close | advance | fireNext | flush | reap | twSkip => exact rack.elim

/-- In every run in which no acknowledgment processed in a closing state reaches
the end of the front entry, and none in ESTABLISHED does while more than 65536
entries are in flight, acknowledged data is pruned and never sent again. -/
theorem acked_data_not_retransmitted {cfg : EngineConfig} {maxConnections eventSoftCap : ℕ}
    {host : Host}
    (run : Run.Reaches Host.step (fun host op => host.prunes op = true)
      (Host.start cfg maxConnections eventSoftCap) host) :
    (∀ handle conn, host.engine.flowTable.get handle = some conn →
        ∀ entry ∈ conn.sndRetrans.entries, seqLe entry.endSeq conn.sndUna = false) ∧
      ∀ pick ∈ host.engine.picked, seqLe pick.entry.endSeq pick.sndUna = false := by
  have unacked := run.invariant (Host.nothingAcked_start cfg maxConnections eventSoftCap)
    fun host op before prunes => before.step prunes
  exact ⟨fun handle conn live entry member => (unacked.conns handle conn live).entries member,
    unacked.picks⟩

/-- Three bytes are sent and acknowledged, and nothing is left. -/
def ackedThree : List EngineOp :=
  handshake ++ [sendAt 2000 [1, 2, 3] 1, receiveAt 3000 201#32 104#32 TCP_ACK,
    .advance 100000]

theorem acked_data_not_retransmitted_three :
    (∀ handle conn, (Host.after ackedThree).engine.flowTable.get handle = some conn →
        ∀ entry ∈ conn.sndRetrans.entries, seqLe entry.endSeq conn.sndUna = false) ∧
      ∀ pick ∈ (Host.after ackedThree).engine.picked,
        seqLe pick.entry.endSeq pick.sndUna = false :=
  acked_data_not_retransmitted
    (Run.Reaches.of_admits (by decide +kernel :
      Run.admits Host.step Host.prunes (Host.start quickCfg 1 64) ackedThree = true))

/-- The peer closes its side before it acknowledges the three bytes; the RTO fires later. -/
def ackedAfterFin : List EngineOp :=
  handshake ++ [sendAt 2000 [1, 2, 3] 1, receiveAt 3000 201#32 101#32 (TCP_FIN ||| TCP_ACK),
    receiveAt 4000 202#32 104#32 TCP_ACK, .advance 100000, fireAt 100000 fun _ => some 2]

/-- In CLOSE_WAIT the acknowledged entry stays and is sent again. -/
theorem acked_data_retransmitted_in_close_wait :
    ¬ ∀ host, Run.Reaches Host.step (fun _ _ => True) (Host.start quickCfg 1 64) host →
      (∀ handle conn, host.engine.flowTable.get handle = some conn →
          ∀ entry ∈ conn.sndRetrans.entries, seqLe entry.endSeq conn.sndUna = false) ∧
        ∀ pick ∈ host.engine.picked, seqLe pick.entry.endSeq pick.sndUna = false := by
  intro unacked
  have picked : ((Host.after ackedAfterFin).engine.picked.any fun pick =>
      seqLe pick.entry.endSeq pick.sndUna) = true := by decide +kernel
  rcases List.any_eq_true.mp picked with ⟨pick, member, acked⟩
  rw [(unacked _ (Host.after_reached ackedAfterFin)).2 pick member] at acked
  cases acked

end DpdkTcp
