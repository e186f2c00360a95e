import DpdkTcp.Input.Stages

/-!
# SACK blocks that are no news

The SACK pass of a segment leaves a connection alone if and only if every block finds
its marks made: a duplicate the latch and the probes, any other block the entries that
it reaches into. Marks are only ever added. The scoreboard is another matter: edges
wrap around, and a later block may undo what an earlier one did to it.
-/

namespace DpdkTcp

/-! ### What is known -/

/-- A duplicate report of the block is attributed to the probe, if it is the first such probe. -/
def RecentProbe.attributable (windowNs nowNs : ℕ) (block : SackBlock) (probe : RecentProbe) : Bool :=
  !probe.attributed && seqLe block.left probe.seq && seqLe (seqAdd probe.seq probe.len) block.right &&
    decide (nowNs - probe.txTsNs < windowNs)

/-- The scoreboard behind a block. -/
def SackScoreboard.hears (board : SackScoreboard) (sndUna : Seq) (block : SackBlock) :
    SackScoreboard :=
  if isDsack block sndUna board then board else board.insert block

namespace TcpConn

/-- A block is no news, where the scoreboard is the given one: a duplicate finds the latch up
and no probe to be attributed to it, and any other block finds every entry that it reaches into
reported. -/
def knowsBlock (conn : TcpConn) (board : SackScoreboard) (nowNs : ℕ) (block : SackBlock) : Bool :=
  if isDsack block conn.sndUna board then
    conn.rack.dsackSeen && conn.tlpRecentProbes.all fun slot =>
      !slot.any (RecentProbe.attributable conn.dsackWindowNs nowNs block)
  else conn.sndRetrans.entries.all fun entry => !entry.reachedBy block || entry.sacked

/-- No block is news, and the scoreboard is in the end what it was. -/
def knowsBlocks (conn : TcpConn) (readClock : ℕ → ℕ) :
    ℕ → List SackBlock → SackScoreboard → Bool
  | _, [], board => decide (board = conn.sackScoreboard)
  | index, block :: rest, board =>
      conn.knowsBlock board (readClock index) block &&
        conn.knowsBlocks readClock (index + 1) rest (board.hears conn.sndUna block)

/-- What the SACK pass can only add to. -/
def sackMarks (conn : TcpConn) : ℕ :=
  conn.rack.dsackSeen.toNat + conn.sndRetrans.entries.countP RetransEntry.sacked +
    conn.tlpRecentProbes.countP (Option.any RecentProbe.attributed)

/-- The connection with another scoreboard. -/
def withBoard (conn : TcpConn) (board : SackScoreboard) : TcpConn :=
  { conn with sackScoreboard := board }

end TcpConn

/-! ### One block -/

theorem attributeProbe_eq_none_iff {windowNs nowNs : ℕ} {block : SackBlock}
    {ring : List (Option RecentProbe)} :
    TcpConn.attributeProbe block.left block.right windowNs nowNs ring = none ↔
      (ring.all fun slot => !slot.any (RecentProbe.attributable windowNs nowNs block)) = true := by
  induction ring with
  | nil => exact iff_of_true rfl rfl
  | cons slot rest ih =>
      cases slot with
      | none => simpa [TcpConn.attributeProbe] using ih
      | some probe =>
          rw [TcpConn.attributeProbe, List.all_cons, Option.any_some]
          cases due : probe.attributable windowNs nowNs block with
          | true =>
              rw [RecentProbe.attributable] at due
              simp [due]
          | false =>
              rw [RecentProbe.attributable] at due
              simpa [due] using ih

/-- An attribution is one mark more. -/
theorem attributeProbe_marks {left right : Seq} {windowNs nowNs : ℕ}
    {ring marked : List (Option RecentProbe)}
    (attributed : TcpConn.attributeProbe left right windowNs nowNs ring = some marked) :
    marked.countP (Option.any RecentProbe.attributed) =
      ring.countP (Option.any RecentProbe.attributed) + 1 := by
  induction ring generalizing marked with
  | nil => cases attributed
  | cons slot rest ih =>
      cases slot with
      | none =>
          rcases Option.map_eq_some_iff.mp attributed with ⟨tail, inRest, rfl⟩
          simpa using ih inRest
      | some probe =>
          rw [TcpConn.attributeProbe] at attributed
          split at attributed
          · rename_i due
            cases attributed
            have waiting : probe.attributed = false := by
              simp only [Bool.and_eq_true, Bool.not_eq_true'] at due
              exact due.1.1.1
            simp [waiting]
          · rcases Option.map_eq_some_iff.mp attributed with ⟨tail, inRest, rfl⟩
            simp only [List.countP_cons, ih inRest]
            omega

theorem attributeDsack_marks (conn : TcpConn) (block : SackBlock) (nowNs : ℕ) :
    (conn.attributeDsackToRecentTlpProbe block.left block.right nowNs).1.sackMarks =
      conn.sackMarks +
        (conn.attributeDsackToRecentTlpProbe block.left block.right nowNs).2.toNat := by
  unfold TcpConn.attributeDsackToRecentTlpProbe
  split
  · rename_i marked attributed
    dsimp only [TcpConn.sackMarks]
    rw [attributeProbe_marks attributed]
    rfl
  · rfl

/-- `mark_sacked` marks what is not reported yet. -/
theorem markSacked_marks (retrans : SendRetrans) (block : SackBlock) :
    (retrans.markSacked block).entries.countP RetransEntry.sacked =
      retrans.entries.countP RetransEntry.sacked +
        retrans.entries.countP fun entry => entry.reachedBy block && !entry.sacked := by
  dsimp only [SendRetrans.markSacked]
  induction retrans.entries with
  | nil => rfl
  | cons entry rest ih =>
      rw [List.map_cons, List.countP_cons, List.countP_cons, List.countP_cons, ih,
        RetransEntry.reachedBy]
      cases reached : seqLt entry.seq block.right && seqLt block.left entry.endSeq with
      | true => cases entry.sacked <;> simp <;> omega
      | false => simp; omega

theorem markSacked_of_known {retrans : SendRetrans} {block : SackBlock}
    (known : (retrans.entries.all fun entry => !entry.reachedBy block || entry.sacked) = true) :
    retrans.markSacked block = retrans := by
  refine congrArg SendRetrans.mk ((List.map_congr_left fun entry member => ?_).trans
    (List.map_id _))
  have said := List.all_eq_true.mp known entry member
  split
  · rename_i reached
    rw [RetransEntry.reachedBy, reached] at said
    rw [← show entry.sacked = true from said]
    rfl
  · rfl

/-- The latch for duplicates is up. -/
def TcpConn.dsackLatched (conn : TcpConn) : TcpConn :=
  { conn with rack := { conn.rack with dsackSeen := true } }

section Absorb

variable {nowNs : ℕ} {block : SackBlock} {pass : SackPass} {conn : TcpConn} {board : SackScoreboard}

theorem absorbSackBlock_duplicate
    (duplicate : isDsack block pass.conn.sndUna pass.conn.sackScoreboard = true) :
    (absorbSackBlock nowNs block pass).conn =
      (pass.conn.dsackLatched.attributeDsackToRecentTlpProbe block.left block.right nowNs).1 := by
  dsimp only [absorbSackBlock]
  rw [if_pos duplicate]
  rfl

theorem absorbSackBlock_fresh
    (fresh : isDsack block pass.conn.sndUna pass.conn.sackScoreboard = false) :
    (absorbSackBlock nowNs block pass).conn =
      { pass.conn with
        sackScoreboard := pass.conn.sackScoreboard.insert block
        sndRetrans := pass.conn.sndRetrans.markSacked block } := by
  dsimp only [absorbSackBlock]
  rw [if_neg (Bool.eq_false_iff.mp fresh)]

theorem absorbSackBlock_marks_le (nowNs : ℕ) (block : SackBlock) (pass : SackPass) :
    pass.conn.sackMarks ≤ (absorbSackBlock nowNs block pass).conn.sackMarks := by
  cases duplicate : isDsack block pass.conn.sndUna pass.conn.sackScoreboard with
  | true =>
      rw [absorbSackBlock_duplicate duplicate, attributeDsack_marks]
      dsimp only [TcpConn.sackMarks, TcpConn.dsackLatched]
      have latch := Bool.toNat_le pass.conn.rack.dsackSeen
      rw [Bool.toNat_true]
      omega
  | false =>
      rw [absorbSackBlock_fresh duplicate]
      dsimp only [TcpConn.sackMarks]
      rw [markSacked_marks]
      omega

/-- A block that is no news moves the scoreboard alone. -/
theorem absorbSackBlock_known (same : pass.conn = conn.withBoard board)
    (known : conn.knowsBlock board nowNs block = true) :
    (absorbSackBlock nowNs block pass).conn = conn.withBoard (board.hears conn.sndUna block) := by
  rw [TcpConn.knowsBlock] at known
  rw [SackScoreboard.hears]
  cases duplicate : isDsack block conn.sndUna board with
  | true =>
      rw [duplicate, if_pos rfl] at known
      rcases Bool.and_eq_true_iff.mp known with ⟨latch, silent⟩
      have none : TcpConn.attributeProbe block.left block.right
          (conn.withBoard board).dsackLatched.dsackWindowNs nowNs conn.tlpRecentProbes = none :=
        attributeProbe_eq_none_iff.mpr silent
      rw [absorbSackBlock_duplicate (by rw [same]; exact duplicate), same, if_pos rfl,
        TcpConn.attributeDsackToRecentTlpProbe]
      dsimp only [TcpConn.withBoard, TcpConn.dsackLatched] at none ⊢
      rw [none]
      dsimp only
      rw [← latch]
  | false =>
      rw [duplicate, if_neg Bool.false_ne_true] at known
      rw [absorbSackBlock_fresh (by rw [same]; exact duplicate), same,
        if_neg Bool.false_ne_true]
      dsimp only [TcpConn.withBoard]
      rw [markSacked_of_known known]

/-- News leave a mark. -/
theorem absorbSackBlock_marks_lt (same : pass.conn = conn.withBoard board)
    (news : conn.knowsBlock board nowNs block = false) :
    conn.sackMarks < (absorbSackBlock nowNs block pass).conn.sackMarks := by
  rw [TcpConn.knowsBlock] at news
  cases duplicate : isDsack block conn.sndUna board with
  | true =>
      rw [duplicate, if_pos rfl] at news
      rw [absorbSackBlock_duplicate (by rw [same]; exact duplicate), same, attributeDsack_marks]
      dsimp only [TcpConn.sackMarks, TcpConn.dsackLatched, TcpConn.withBoard]
      rw [Bool.toNat_true]
      cases latch : conn.rack.dsackSeen with
      | false =>
          rw [Bool.toNat_false]
          omega
      | true =>
          rw [latch, Bool.true_and] at news
          have attributed : TcpConn.attributeProbe block.left block.right conn.dsackWindowNs nowNs
              conn.tlpRecentProbes ≠ none := by
            intro none
            rw [attributeProbe_eq_none_iff.mp none] at news
            cases news
          rcases Option.ne_none_iff_exists'.mp attributed with ⟨marked, found⟩
          rw [TcpConn.attributeDsackToRecentTlpProbe]
          dsimp only [TcpConn.dsackWindowNs] at found ⊢
          rw [found, Bool.toNat_true]
          exact Nat.lt_succ_self _
  | false =>
      rw [duplicate, if_neg Bool.false_ne_true] at news
      rw [absorbSackBlock_fresh (by rw [same]; exact duplicate), same]
      dsimp only [TcpConn.sackMarks, TcpConn.withBoard]
      rw [markSacked_marks]
      have more : 0 < conn.sndRetrans.entries.countP fun entry =>
          entry.reachedBy block && !entry.sacked := by
        rcases List.all_eq_false.mp news with ⟨entry, member, unreported⟩
        refine List.countP_pos_iff.mpr ⟨entry, member, ?_⟩
        simpa using unreported
      omega

end Absorb

/-! ### All blocks -/

theorem absorbSackBlocks_marks_le (readClock : ℕ → ℕ) (index : ℕ) (blocks : List SackBlock)
    (pass : SackPass) :
    pass.conn.sackMarks ≤ (absorbSackBlocks readClock index blocks pass).conn.sackMarks := by
  induction blocks generalizing index pass with
  | nil => exact Nat.le_refl _
  | cons block rest ih =>
      exact (absorbSackBlock_marks_le (readClock index) block pass).trans
        (ih (index + 1) (absorbSackBlock (readClock index) block pass))

/-- The loop over the blocks leaves the connection alone exactly if none is news. -/
theorem absorbSackBlocks_eq_iff {conn : TcpConn} (readClock : ℕ → ℕ) (index : ℕ)
    (blocks : List SackBlock) {board : SackScoreboard} {pass : SackPass}
    (same : pass.conn = conn.withBoard board) :
    (absorbSackBlocks readClock index blocks pass).conn = conn ↔
      conn.knowsBlocks readClock index blocks board = true := by
  induction blocks generalizing index pass board with
  | nil =>
      rw [absorbSackBlocks, TcpConn.knowsBlocks, same, decide_eq_true_eq]
      constructor
      · intro whole
        exact congrArg TcpConn.sackScoreboard whole
      · intro back
        rw [back]
        rfl
  | cons block rest ih =>
      rw [absorbSackBlocks, TcpConn.knowsBlocks]
      cases known : conn.knowsBlock board (readClock index) block with
      | true =>
          rw [Bool.true_and]
          exact ih (index + 1) (absorbSackBlock_known same known)
      | false =>
          refine iff_of_false (fun whole => ?_) Bool.false_ne_true
          have more := (absorbSackBlock_marks_lt same known).trans_le
            (absorbSackBlocks_marks_le readClock (index + 1) rest
              (absorbSackBlock (readClock index) block pass))
          rw [whole] at more
          exact Nat.lt_irrefl _ more

/-- The SACK pass leaves the connection alone exactly if SACK is off or no block is news. -/
theorem sackPass_eq_iff (conn : TcpConn) (opts : TcpOpts) (readClock : ℕ → ℕ) :
    (sackPass conn opts readClock).conn = conn ↔
      (conn.sackEnabled = true →
        conn.knowsBlocks readClock 0 opts.liveSackBlocks conn.sackScoreboard = true) := by
  unfold sackPass
  cases enabled : conn.sackEnabled with
  | false =>
      rw [Bool.false_and, if_neg Bool.false_ne_true]
      exact iff_of_true rfl fun on => absurd on Bool.false_ne_true
  | true =>
      rw [Bool.true_and]
      split
      · exact (absorbSackBlocks_eq_iff readClock 0 opts.liveSackBlocks rfl).trans
          ⟨fun known _ => known, fun known => known rfl⟩
      · rename_i none
        have empty : opts.liveSackBlocks = [] := by
          rw [TcpOpts.liveSackBlocks, Nat.eq_zero_of_not_pos fun more => none (decide_eq_true more)]
          rfl
        rw [empty]
        exact iff_of_true rfl fun _ => decide_eq_true rfl

end DpdkTcp
