import DpdkTcp.Input.Known
import DpdkTcp.Input.Opened

/-!
# Rejected segments and resets

What `dispatch` does with a segment it refuses, and with a RST. A refused
segment leaves the connection alone, with one exception: the SACK pass runs
ahead of the ACK test. A RST is obeyed ahead of the window test.
-/

namespace DpdkTcp

/-! ### Refused segments -/

/-- One of the five flags of a refused segment is up. -/
def Outcome.rejected (outcome : Outcome) : Bool :=
  outcome.badSeq || outcome.badOption || outcome.pawsRejected || outcome.badAck ||
    outcome.urgentDropped

/-- A refused segment changes nothing but `ts_recent` and its age. -/
def Inert (conn : TcpConn) (dispatched : Dispatched) : Prop :=
  dispatched.outcome.rejected = true →
    dispatched.outcome.newState = none ∧
      ∃ tsRecent tsRecentAge, dispatched.conn = conn.stamp tsRecent tsRecentAge

theorem inert_of_same {conn : TcpConn} {dispatched : Dispatched} (same : dispatched.conn = conn)
    (state : dispatched.outcome.rejected = true → dispatched.outcome.newState = none) :
    Inert conn dispatched := by
  intro rejected
  exact ⟨state rejected, conn.tsRecent, conn.tsRecentAge, same⟩

section SackStamp

variable (tsRecent : BitVec 32) (tsRecentAge : ℕ)

/-- A SACK pass with other timestamps on the connection. -/
def SackPass.stamp (pass : SackPass) : SackPass :=
  { pass with conn := pass.conn.stamp tsRecent tsRecentAge }

theorem attributeDsack_stamp (conn : TcpConn) (left right : Seq) (nowNs : ℕ) :
    (conn.stamp tsRecent tsRecentAge).attributeDsackToRecentTlpProbe left right nowNs =
      ((conn.attributeDsackToRecentTlpProbe left right nowNs).1.stamp tsRecent tsRecentAge,
        (conn.attributeDsackToRecentTlpProbe left right nowNs).2) := by
  have window : (conn.stamp tsRecent tsRecentAge).dsackWindowNs = conn.dsackWindowNs := rfl
  have probes : (conn.stamp tsRecent tsRecentAge).tlpRecentProbes = conn.tlpRecentProbes := rfl
  unfold TcpConn.attributeDsackToRecentTlpProbe
  rw [window, probes]
  cases TcpConn.attributeProbe left right conn.dsackWindowNs nowNs conn.tlpRecentProbes <;> rfl

theorem absorbSackBlock_stamp (nowNs : ℕ) (block : SackBlock) (pass : SackPass) :
    absorbSackBlock nowNs block (pass.stamp tsRecent tsRecentAge) =
      (absorbSackBlock nowNs block pass).stamp tsRecent tsRecentAge := by
  have seen := attributeDsack_stamp tsRecent tsRecentAge
    { pass.conn with rack := { pass.conn.rack with dsackSeen := true } } block.left block.right
    nowNs
  cases dsack : isDsack block pass.conn.sndUna pass.conn.sackScoreboard with
  | true =>
      simp only [absorbSackBlock, SackPass.stamp, TcpConn.stamp, dsack, if_true]
      simp only [TcpConn.stamp] at seen
      rw [seen]
  | false => simp [absorbSackBlock, SackPass.stamp, TcpConn.stamp, dsack]

theorem absorbSackBlocks_stamp (readClock : ℕ → ℕ) (index : ℕ) (blocks : List SackBlock)
    (pass : SackPass) :
    absorbSackBlocks readClock index blocks (pass.stamp tsRecent tsRecentAge) =
      (absorbSackBlocks readClock index blocks pass).stamp tsRecent tsRecentAge := by
  induction blocks generalizing index pass with
  | nil => rfl
  | cons block rest ih =>
      simp only [absorbSackBlocks, absorbSackBlock_stamp, ih]

/-- The SACK pass does not look at the timestamps. -/
theorem sackPass_stamp (conn : TcpConn) (opts : TcpOpts) (readClock : ℕ → ℕ) :
    (sackPass (conn.stamp tsRecent tsRecentAge) opts readClock).conn =
      (sackPass conn opts readClock).conn.stamp tsRecent tsRecentAge := by
  have absorbed := absorbSackBlocks_stamp tsRecent tsRecentAge readClock 0 opts.liveSackBlocks
    { conn := conn }
  dsimp only [sackPass, TcpConn.stamp]
  split
  · exact congrArg SackPass.conn absorbed
  · rfl

end SackStamp

/-- The SACK blocks of the segment tell the connection nothing new: SACK is off, or each block is
known when its turn comes and the scoreboard is in the end what it was. -/
def TcpConn.sackKnown (conn : TcpConn) (seg : ParsedSegment) (readClock : ℕ → ℕ) : Prop :=
  ∀ opts, segOptions seg = .ok opts → conn.sackEnabled = true →
    conn.knowsBlocks readClock 0 opts.liveSackBlocks conn.sackScoreboard = true

/-- A segment that fails a check ahead of the ACK test leaves the connection alone. -/
theorem handleEstablished_of_not_acceptable {conn : TcpConn} {seg : ParsedSegment}
    {clock : Readings} (sendBuf : ℕ) (mbufCtx : Option MbufInsertCtx)
    (refused : conn.acceptable seg clock.paws = false) :
    Inert conn (handleEstablished conn seg clock sendBuf mbufCtx) := by
  dsimp only [handleEstablished]
  cases checks : establishedChecks conn seg with
  | error outcome =>
      apply inert_of_same rfl
      intro rejected
      dsimp only [establishedChecks] at checks rejected ⊢
      split at checks
      · cases checks
        rfl
      · split at checks
        · cases checks
          cases rejected
        · split at checks
          · cases checks
            rfl
          · split at checks
            · cases checks
              rfl
            · split at checks
              · cases checks
                rfl
              · cases checks
  | ok opts =>
      rcases establishedChecks_eq_ok_iff.mp checks with ⟨urgent, reset, acked, inside, options⟩
      dsimp only
      split
      · exact inert_of_same rfl fun _ => rfl
      · exact inert_of_same rfl fun _ => rfl
      · rename_i timed expired passed
        have timestamps := paws_passed_iff.mp ⟨timed, expired, passed⟩
        simp [TcpConn.acceptable, urgent, reset, acked, inside, options, timestamps] at refused

/-- An acknowledgment of data never sent is refused behind the SACK pass. -/
theorem handleEstablished_badAck {conn : TcpConn} {seg : ParsedSegment} {clock : Readings}
    (sendBuf : ℕ) (mbufCtx : Option MbufInsertCtx)
    (acceptable : conn.acceptable seg clock.paws = true) (unknown : conn.ackKnown seg = false) :
    ∃ opts tsRecent tsRecentAge, segOptions seg = .ok opts ∧
      (handleEstablished conn seg clock sendBuf mbufCtx).conn =
        (sackPass conn opts clock.dsack).conn.stamp tsRecent tsRecentAge ∧
      (handleEstablished conn seg clock sendBuf mbufCtx).outcome.rejected = true ∧
      (handleEstablished conn seg clock sendBuf mbufCtx).outcome.newState = none := by
  simp only [TcpConn.acceptable, Bool.and_eq_true, Bool.not_eq_true'] at acceptable
  rcases acceptable with ⟨⟨⟨⟨urgent, reset⟩, acked⟩, inside⟩, options⟩
  cases decoded : segOptions seg with
  | error reason => simp [decoded] at options
  | ok opts =>
      rw [decoded] at options
      have timely : ∃ timed expired, paws conn seg opts clock.paws = .passed timed expired :=
        paws_passed_iff.mpr options
      rcases timely with ⟨timed, expired, passed⟩
      have checks := establishedChecks_eq_ok_iff.mpr ⟨urgent, reset, acked, inside, decoded⟩
      rcases paws_passed passed with ⟨tsRecent, tsRecentAge, rfl⟩
      have change := sackPass_change (conn.stamp tsRecent tsRecentAge) opts clock.dsack
      have refused : ackPass (sackPass (conn.stamp tsRecent tsRecentAge) opts clock.dsack).conn seg
          opts clock.rtt sendBuf = none := by
        cases judged : ackPass (sackPass (conn.stamp tsRecent tsRecentAge) opts clock.dsack).conn
            seg opts clock.rtt sendBuf with
        | none => rfl
        | some ack =>
            have known := ackPass_isSome_iff.mp ⟨ack, judged⟩
            rw [TcpConn.ackKnown, change.sameOwner.sndNxt, change.sameWindow.sndUna] at known
            rw [TcpConn.ackKnown] at unknown
            exact absurd (unknown.symm.trans known) (by decide)
      refine ⟨opts, tsRecent, tsRecentAge, rfl, ?_, ?_, ?_⟩
      · simp only [handleEstablished, checks, passed, refused]
        exact sackPass_stamp tsRecent tsRecentAge conn opts clock.dsack
      · simp [handleEstablished, checks, passed, refused, Outcome.rejected]
      · simp [handleEstablished, checks, passed, refused]

/-- Timestamps apart, the SACK pass left the connection alone if and only if it
left it alone altogether. -/
theorem sackPass_eq_of_stamp {conn : TcpConn} {opts : TcpOpts} {readClock : ℕ → ℕ}
    {tsRecent tsRecent' : BitVec 32} {tsRecentAge tsRecentAge' : ℕ}
    (same : (sackPass conn opts readClock).conn.stamp tsRecent tsRecentAge =
      conn.stamp tsRecent' tsRecentAge') : (sackPass conn opts readClock).conn = conn := by
  have change := sackPass_change conn opts readClock
  generalize (sackPass conn opts readClock).conn = sacked at same change ⊢
  have recent : sacked.tsRecent = conn.tsRecent := by rw [change.only]
  have age : sacked.tsRecentAge = conn.tsRecentAge := by rw [change.only]
  calc sacked = (sacked.stamp tsRecent tsRecentAge).stamp sacked.tsRecent sacked.tsRecentAge := rfl
    _ = (conn.stamp tsRecent' tsRecentAge').stamp conn.tsRecent conn.tsRecentAge := by
      rw [same, recent, age]
    _ = conn := rfl

theorem handleEstablished_inert_iff {conn : TcpConn} {seg : ParsedSegment} {clock : Readings}
    (sendBuf : ℕ) (mbufCtx : Option MbufInsertCtx) :
    Inert conn (handleEstablished conn seg clock sendBuf mbufCtx) ↔
      (conn.acceptable seg clock.paws = true → conn.ackKnown seg = false →
        conn.sackKnown seg clock.dsack) := by
  cases acceptable : conn.acceptable seg clock.paws with
  | false =>
      refine iff_of_true (handleEstablished_of_not_acceptable sendBuf mbufCtx acceptable) ?_
      intro absurdity
      cases absurdity
  | true =>
      cases known : conn.ackKnown seg with
      | true =>
          rcases exists_accepted sendBuf acceptable known with ⟨opts, sack, ack, accepted⟩
          rcases accepted.handleEstablished_eq mbufCtx with ⟨expired, processed⟩
          rw [processed]
          refine iff_of_true ?_ ?_
          · intro rejected
            cases rejected
          · intro _ absurdity
            cases absurdity
      | false =>
          rcases handleEstablished_badAck sendBuf mbufCtx acceptable known with
            ⟨opts, tsRecent, tsRecentAge, decoded, sacked, rejected, state⟩
          constructor
          · intro inert _ _ opts' decoded'
            rw [decoded] at decoded'
            cases decoded'
            rcases (inert rejected).2 with ⟨tsRecent', tsRecentAge', same⟩
            rw [sacked] at same
            exact (sackPass_eq_iff conn opts clock.dsack).mp (sackPass_eq_of_stamp same)
          · intro inert _
            refine ⟨state, tsRecent, tsRecentAge, ?_⟩
            rw [sacked, (sackPass_eq_iff conn opts clock.dsack).mpr (inert rfl rfl opts decoded)]

theorem handleClosePath_inert (conn : TcpConn) (seg : ParsedSegment) (clock : Readings) :
    Inert conn (handleClosePath conn seg clock) := by
  dsimp only [handleClosePath]
  simp only [pawsClosePath_eq]
  split
  · apply inert_of_same rfl
    intro rejected
    cases rejected
  · split
    · exact inert_of_same rfl fun _ => rfl
    · split
      · exact inert_of_same rfl fun _ => rfl
      · split
        · exact inert_of_same rfl fun _ => rfl
        · split
          · exact inert_of_same rfl fun _ => rfl
          · split
            · exact inert_of_same rfl fun _ => rfl
            · exact inert_of_same rfl fun _ => rfl
            · intro rejected
              cases rejected

/-- In the synchronized states a refused segment changes nothing but the
timestamps, unless it is one that passes every check up to its ACK, which is
ahead of `snd_nxt`, and its SACK blocks are news. -/
theorem rejected_segment_inert_iff {conn : TcpConn} (running : conn.state.synchronized = true)
    (seg : ParsedSegment) (clock : Readings) (sendBuf : ℕ) (mbufCtx : Option MbufInsertCtx) :
    Inert conn (dispatch conn seg clock sendBuf mbufCtx) ↔
      (conn.state = .established → conn.acceptable seg clock.paws = true →
        conn.ackKnown seg = false → conn.sackKnown seg clock.dsack) := by
  have closing : conn.state ≠ .established →
      (Inert conn (handleClosePath conn seg clock) ↔
        (conn.state = .established → conn.acceptable seg clock.paws = true →
          conn.ackKnown seg = false → conn.sackKnown seg clock.dsack)) := by
    intro other
    exact iff_of_true (handleClosePath_inert conn seg clock)
      fun established => absurd established other
  unfold dispatch
  split
  · rename_i opening
    rw [opening] at running
    cases running
  · rename_i established
    rw [handleEstablished_inert_iff]
    exact ⟨fun inert _ => inert, fun inert => inert established⟩
  all_goals
    rename_i state
    rw [state] at running closing ⊢
    first
      | exact closing (by decide)
      | cases running

/-- A segment far outside the window of an opened connection. -/
theorem rejected_segment_inert_iff_outside :
    Inert (opened 100#32 200#32 1000 1000 5000)
        (dispatch (opened 100#32 200#32 1000 1000 5000)
          (peerSegment 90000#32 101#32 TCP_ACK 5000 [1]) (Readings.at 2000) 1000 none) ↔
      ((opened 100#32 200#32 1000 1000 5000).state = .established →
        (opened 100#32 200#32 1000 1000 5000).acceptable
          (peerSegment 90000#32 101#32 TCP_ACK 5000 [1]) 2000 = true →
        (opened 100#32 200#32 1000 1000 5000).ackKnown
          (peerSegment 90000#32 101#32 TCP_ACK 5000 [1]) = false →
        (opened 100#32 200#32 1000 1000 5000).sackKnown
          (peerSegment 90000#32 101#32 TCP_ACK 5000 [1]) fun _ => 2000) :=
  rejected_segment_inert_iff (by decide) (peerSegment 90000#32 101#32 TCP_ACK 5000 [1])
    (Readings.at 2000) 1000 none

/-- A connection whose SYN-ACK permitted SACK. -/
def sackOpened : TcpConn :=
  (dispatch (synSent 100#32 1000 1000)
    { synAck 100#32 200#32 5000 with headerLen := 24, options := [4, 2, 1, 1] }
    (Readings.at 1000) 0 none).applied

/-- It acknowledges 300, which was never sent, and reports the range from 150 to 160. -/
def forgedSack : ParsedSegment :=
  { peerSegment 201#32 300#32 TCP_ACK 5000 [] with
    headerLen := 32
    options := [1, 1, 5, 10, 0, 0, 0, 150, 0, 0, 0, 160] }

/-- The refused segment has entered the scoreboard. -/
theorem rejected_segment_not_inert :
    ¬ ∀ (conn : TcpConn) (seg : ParsedSegment) (clock : Readings) (sendBuf : ℕ)
        (mbufCtx : Option MbufInsertCtx), conn.state.synchronized = true →
        Inert conn (dispatch conn seg clock sendBuf mbufCtx) := by
  intro inert
  have rejected : (dispatch sackOpened forgedSack (Readings.at 2000) 1000
      none).outcome.rejected = true := by decide
  rcases (inert sackOpened forgedSack (Readings.at 2000) 1000 none (by decide) rejected).2 with
    ⟨tsRecent, tsRecentAge, same⟩
  have board : (dispatch sackOpened forgedSack (Readings.at 2000) 1000 none).conn.sackScoreboard =
      sackOpened.sackScoreboard := by
    rw [same]
    rfl
  exact absurd board (by decide)

/-! ### Resets -/

/-- A RST closes the connection only from inside the receive window, and from
outside of it changes nothing. -/
structure RstValidated (conn : TcpConn) (seg : ParsedSegment) (dispatched : Dispatched) :
    Prop where
  closes : dispatched.outcome.newState = some .closed →
    inWindow conn.rcvNxt seg.seq conn.rcvWnd = true
  unchanged : inWindow conn.rcvNxt seg.seq conn.rcvWnd = false →
    dispatched.conn = conn ∧ dispatched.outcome.newState = none

/-- Every synchronized state obeys a RST wherever it lies, except that ESTABLISHED drops a
segment with URG first. -/
theorem dispatch_rst {conn : TcpConn} {seg : ParsedSegment}
    (running : conn.state.synchronized = true) (reset : seg.flags.has TCP_RST = true)
    (clock : Readings) (sendBuf : ℕ) (mbufCtx : Option MbufInsertCtx) :
    (dispatch conn seg clock sendBuf mbufCtx).conn = conn ∧
      (dispatch conn seg clock sendBuf mbufCtx).outcome.newState =
        if conn.state = .established ∧ seg.flags.has TCP_URG = true then none
        else some .closed := by
  unfold dispatch
  split
  · rename_i opening
    rw [opening] at running
    cases running
  · rename_i established
    cases urgent : seg.flags.has TCP_URG with
    | true => simp [handleEstablished, establishedChecks, urgent, established]
    | false => simp [handleEstablished, establishedChecks, urgent, reset]
  all_goals
    rename_i state
    rw [state] at running ⊢
    first
      | exact absurd running (by decide)
      | simp [handleClosePath, reset]

/-- A RST is validated if and only if it lies in the window or is dropped for its URG flag. -/
theorem rst_validated_iff {conn : TcpConn} {seg : ParsedSegment}
    (running : conn.state.synchronized = true) (reset : seg.flags.has TCP_RST = true)
    (clock : Readings) (sendBuf : ℕ) (mbufCtx : Option MbufInsertCtx) :
    RstValidated conn seg (dispatch conn seg clock sendBuf mbufCtx) ↔
      inWindow conn.rcvNxt seg.seq conn.rcvWnd = true ∨
        conn.state = .established ∧ seg.flags.has TCP_URG = true := by
  rcases dispatch_rst running reset clock sendBuf mbufCtx with ⟨same, state⟩
  constructor
  · intro validated
    by_cases dropped : conn.state = .established ∧ seg.flags.has TCP_URG = true
    · exact Or.inr dropped
    · rw [if_neg dropped] at state
      exact Or.inl (validated.closes state)
  · rintro (inside | dropped)
    · refine ⟨fun _ => inside, ?_⟩
      intro outside
      rw [inside] at outside
      cases outside
    · rw [if_pos dropped] at state
      refine ⟨?_, fun _ => ⟨same, state⟩⟩
      intro closes
      rw [state] at closes
      cases closes

theorem rst_validated_iff_expected :
    RstValidated (opened 100#32 200#32 1000 1000 5000) (peerSegment 201#32 101#32 TCP_RST 0 [])
        (dispatch (opened 100#32 200#32 1000 1000 5000) (peerSegment 201#32 101#32 TCP_RST 0 [])
          (Readings.at 2000) 1000 none) ↔
      inWindow (opened 100#32 200#32 1000 1000 5000).rcvNxt 201#32
          (opened 100#32 200#32 1000 1000 5000).rcvWnd = true ∨
        (opened 100#32 200#32 1000 1000 5000).state = .established ∧
          (peerSegment 201#32 101#32 TCP_RST 0 []).flags.has TCP_URG = true :=
  rst_validated_iff (by decide) (by decide) (Readings.at 2000) 1000 none

/-- A RST far outside the window closes the connection. -/
theorem rst_outside_window_closes :
    ¬ ∀ (conn : TcpConn) (seg : ParsedSegment) (clock : Readings) (sendBuf : ℕ)
        (mbufCtx : Option MbufInsertCtx), conn.state.synchronized = true →
        seg.flags.has TCP_RST = true →
        RstValidated conn seg (dispatch conn seg clock sendBuf mbufCtx) := by
  intro validated
  have inside := (validated (opened 100#32 200#32 1000 1000 5000)
    (peerSegment 90000#32 0#32 TCP_RST 0 []) (Readings.at 2000) 1000 none (by decide)
    (by decide)).closes (by decide)
  exact absurd inside (by decide)

end DpdkTcp
