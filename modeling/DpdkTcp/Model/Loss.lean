import DpdkTcp.Model.Wire

/-!
# Send-side bookkeeping

The received-SACK scoreboard, the queue of transmitted and unacknowledged
segments, RACK, the round-trip estimator and the probe timeout
(`tcp_sack.rs`, `tcp_retrans.rs`, `tcp_rack.rs`, `tcp_rtt.rs`, `tcp_tlp.rs`).
-/

namespace DpdkTcp

/-- How many blocks a scoreboard holds. -/
def MAX_SACK_SCOREBOARD_ENTRIES : ℕ := 4

/-- `SackScoreboard`: the live prefix of the block array. -/
structure SackScoreboard where
  blocks : List SackBlock
deriving DecidableEq, Repr

namespace SackScoreboard

/-- A scoreboard without blocks. -/
def new : SackScoreboard :=
  ⟨[]⟩

/-- A block of the scoreboard covers the number. -/
def isSacked (board : SackScoreboard) (seq : Seq) : Bool :=
  board.blocks.any fun block => seqLe block.left seq && seqLt seq block.right

/-- Two blocks that overlap or touch. -/
def touches (left right : SackBlock) : Bool :=
  seqLe left.left right.right && seqLe right.left left.right

/-- The span of `cur` and `block`, with the comparisons in the source's order. -/
def merge (cur block : SackBlock) : SackBlock :=
  { left := if seqLe cur.left block.left then cur.left else block.left
    right := if seqLe block.right cur.right then cur.right else block.right }

/-- The merge pass of `insert`: replace the first block that touches the new one. -/
def mergeInto (block : SackBlock) : List SackBlock → Option (List SackBlock)
  | [] => none
  | cur :: rest =>
      if touches block cur then some (merge cur block :: rest)
      else (mergeInto block rest).map (cur :: ·)

/-- The first later block that touches `cur`, merged into it, with the rest shifted down. -/
def absorbFirst (cur : SackBlock) : List SackBlock → Option (SackBlock × List SackBlock)
  | [] => none
  | other :: rest =>
      if touches cur other then some (merge cur other, rest)
      else (absorbFirst cur rest).map fun absorbed => (absorbed.1, other :: absorbed.2)

/-- One round of `collapse`: merge the first touching pair, in the order `(i, j)`. -/
def collapseOnce : List SackBlock → Option (List SackBlock)
  | [] => none
  | cur :: rest =>
      match absorbFirst cur rest with
      | some (merged, remaining) => some (merged :: remaining)
      | none => (collapseOnce rest).map (cur :: ·)

/-- `collapse`. Every round removes a block, so as many rounds as blocks suffice. -/
def collapse : (rounds : ℕ) → List SackBlock → List SackBlock
  | 0, blocks => blocks
  | rounds + 1, blocks =>
      match collapseOnce blocks with
      | some smaller => collapse rounds smaller
      | none => blocks

/-- `insert`: the block is merged into those it touches, or added in place of the oldest when the
scoreboard is full. -/
def insert (board : SackScoreboard) (block : SackBlock) : SackScoreboard :=
  match mergeInto block board.blocks with
  | some merged => ⟨collapse merged.length merged⟩
  | none =>
      if board.blocks.length < MAX_SACK_SCOREBOARD_ENTRIES then ⟨board.blocks ++ [block]⟩
      else ⟨board.blocks.drop 1 ++ [block]⟩

/-- `prune_below`: blocks that are acknowledged go, and one that is acknowledged in part is cut. -/
def pruneBelow (board : SackScoreboard) (sndUna : Seq) : SackScoreboard :=
  ⟨(board.blocks.filter fun block => !seqLe block.right sndUna).map fun block =>
    { left := if seqLe block.left sndUna then sndUna else block.left, right := block.right }⟩

end SackScoreboard

/-- `RetransEntry`: a transmitted segment and the data buffer that holds it. -/
structure RetransEntry where
  seq : Seq
  len : ℕ
  mbuf : ℕ
  firstTxTsNs : ℕ
  xmitCount : ℕ
  sacked : Bool
  lost : Bool
  xmitTsNs : ℕ
  hdrsLen : ℕ
deriving DecidableEq, Repr

/-- The number right behind the entry. -/
def RetransEntry.endSeq (entry : RetransEntry) : Seq :=
  seqAdd entry.seq entry.len

/-- `SendRetrans`: the entries in the order of their transmission. -/
structure SendRetrans where
  entries : List RetransEntry
deriving DecidableEq, Repr

namespace SendRetrans

/-- A queue with nothing in flight. -/
def new : SendRetrans :=
  ⟨[]⟩

/-- Nothing is in flight. -/
def isEmpty (retrans : SendRetrans) : Bool :=
  retrans.entries.isEmpty

/-- How many entries no SACK block has reported. -/
def flightSize (retrans : SendRetrans) : ℕ :=
  (retrans.entries.filter fun entry => !entry.sacked).length

/-- `push_after_tx`: a segment joins the flight at its end. -/
def pushAfterTx (retrans : SendRetrans) (entry : RetransEntry) : SendRetrans :=
  ⟨retrans.entries ++ [entry]⟩

/-- The front entries `prune_below_into_mbufs` takes off. -/
def prunedBelow (retrans : SendRetrans) (sndUna : Seq) : List RetransEntry :=
  retrans.entries.takeWhile fun entry => seqLe entry.endSeq sndUna

/-- The entries it leaves. -/
def pruneBelow (retrans : SendRetrans) (sndUna : Seq) : SendRetrans :=
  ⟨retrans.entries.dropWhile fun entry => seqLe entry.endSeq sndUna⟩

/-- The loop of `prune_below`: what it drops, behind what it has dropped, and what it leaves. -/
def pruneBelowFrom (sndUna : Seq) :
    (entries dropped : List RetransEntry) → List RetransEntry × SendRetrans
  | [], dropped => (dropped, ⟨[]⟩)
  | front :: rest, dropped =>
      if seqLe front.endSeq sndUna then pruneBelowFrom sndUna rest (dropped ++ [front])
      else (dropped, ⟨front :: rest⟩)

/-- The loop of `prune_below_into_mbufs`: the buffers of what it drops, unless they are null. -/
def pruneBelowIntoMbufs (sndUna : Seq) :
    (entries : List RetransEntry) → (out : List ℕ) → List ℕ × SendRetrans
  | [], out => (out, ⟨[]⟩)
  | front :: rest, out =>
      if seqLe front.endSeq sndUna then
        pruneBelowIntoMbufs sndUna rest (if front.mbuf = 0 then out else out ++ [front.mbuf])
      else (out, ⟨front :: rest⟩)

/-- `mark_sacked`: every entry of which any byte lies in the block. -/
def markSacked (retrans : SendRetrans) (block : SackBlock) : SendRetrans :=
  ⟨retrans.entries.map fun entry =>
    if seqLt entry.seq block.right && seqLt block.left entry.endSeq then
      { entry with sacked := true }
    else entry⟩

/-- Raise `lost` on the entries at the given indexes. -/
def markLost (retrans : SendRetrans) (indexes : List ℕ) : SendRetrans :=
  ⟨retrans.entries.mapIdx fun index entry =>
    if index ∈ indexes then { entry with lost := true } else entry⟩

end SendRetrans

/-- What RACK knows: the newest delivered segment, the reordering window, the least round trip and
whether a duplicate was reported. -/
structure RackState where
  xmitTsNs : ℕ
  endSeq : Seq
  reoWndUs : ℕ
  minRttUs : ℕ
  dsackSeen : Bool
deriving DecidableEq, Repr

namespace RackState

/-- RACK before any segment was delivered. -/
def new : RackState :=
  { xmitTsNs := 0, endSeq := 0#32, reoWndUs := 0, minRttUs := 0, dsackSeen := false }

/-- `update_on_ack`: a delivered segment that was sent later, or at the same time further right, is
kept instead. -/
def updateOnAck (rack : RackState) (entryXmitTsNs : ℕ) (entryEndSeq : Seq) : RackState :=
  if rack.xmitTsNs < entryXmitTsNs ∨
      (entryXmitTsNs = rack.xmitTsNs ∧ seqLt rack.endSeq entryEndSeq) then
    { rack with xmitTsNs := entryXmitTsNs, endSeq := entryEndSeq }
  else rack

/-- `update_min_rtt`, where zero stands for no sample. -/
def updateMinRtt (rack : RackState) (rttUs : ℕ) : RackState :=
  if rack.minRttUs = 0 ∨ rttUs < rack.minRttUs then { rack with minRttUs := rttUs } else rack

/-- `detect_lost`: a later transmission was acknowledged and the reordering window has passed. -/
def detectLost (rack : RackState) (entryXmitTsNs : ℕ) (entryEndSeq : Seq) (nowNs reoWndUs : ℕ) :
    Bool :=
  let newerAckExists :=
    decide (entryXmitTsNs < rack.xmitTsNs) ||
      (decide (entryXmitTsNs = rack.xmitTsNs) && seqLt entryEndSeq rack.endSeq)
  newerAckExists && decide (reoWndUs * 1000 < nowNs - entryXmitTsNs)

end RackState

/-- `compute_reo_wnd_us`: how long a segment may be overtaken, at least a millisecond unless RACK is
aggressive. -/
def computeReoWndUs (rackAggressive : Bool) (minRttUs : ℕ) (srttUs : Option ℕ) : ℕ :=
  if rackAggressive then 0
  else
    match srttUs with
    | none => max (minRttUs / 2) 1000
    | some srtt => max (min (srtt / 4) (minRttUs / 2)) 1000

/-- `rto_age_expired`: the last transmission is older than a round trip and the reordering window.
-/
def rtoAgeExpired (xmitNs nowNs rttUs reoWndUs : ℕ) : Bool :=
  decide (rttUs * 1000 + reoWndUs * 1000 ≤ nowNs - xmitNs)

/-- The test of `rack_mark_losses_on_rto_into` on one entry. -/
def rtoLost (sndUna : Seq) (rttUs reoWndUs nowNs : ℕ) (entry : RetransEntry) : Bool :=
  !(entry.sacked || entry.lost) && !seqLe entry.endSeq sndUna &&
    (entry.seq == sndUna || rtoAgeExpired entry.xmitTsNs nowNs rttUs reoWndUs)

/-- The indexes, as `u16`, of the elements a test accepts. -/
def indexesWhere {Entry : Type} (test : Entry → Bool) (entries : List Entry) : List ℕ :=
  (entries.zipIdx.filter fun item => test item.1).map fun item => asU16 item.2

/-- `rack_mark_losses_on_rto_into`: the indexes an RTO fire takes for lost, in 16 bits. -/
def rackMarkLossesOnRto (entries : List RetransEntry) (sndUna : Seq)
    (rttUs reoWndUs nowNs : ℕ) : List ℕ :=
  indexesWhere (rtoLost sndUna rttUs reoWndUs nowNs) entries

/-- The smoothed round-trip time and the timeout computed from it. -/
structure RttEstimator where
  srttUs : Option ℕ
  rttvarUs : ℕ
  rtoUs : ℕ
  minRtoUs : ℕ
  maxRtoUs : ℕ
deriving DecidableEq, Repr

namespace RttEstimator

/-- An estimator without samples. -/
def new (minRtoUs initialRtoUs maxRtoUs : ℕ) : RttEstimator :=
  { srttUs := none
    rttvarUs := 0
    rtoUs := max initialRtoUs minRtoUs
    minRtoUs := minRtoUs
    maxRtoUs := maxRtoUs }

/-- `clamp(min_rto_us, max_rto_us)`; the engine only builds estimators with ordered bounds. -/
def clampRto (est : RttEstimator) (rto : ℕ) : ℕ :=
  max est.minRtoUs (min rto est.maxRtoUs)

/-- `sample`: a measured round trip moves the smoothed one by an eighth and its variation by a
quarter. -/
def sample (est : RttEstimator) (rttUs : ℕ) : RttEstimator :=
  let rtt := max rttUs 1
  let srttVar : ℕ × ℕ :=
    match est.srttUs with
    | none => (rtt, rtt / 2)
    | some srtt =>
        let delta := max srtt rtt - min srtt rtt
        ((srtt - srtt / 8 + rtt / 8) % 4294967296,
          (est.rttvarUs - est.rttvarUs / 4 + delta / 4) % 4294967296)
  let rto := min (srttVar.1 + min (srttVar.2 * 4) U32_MAX) U32_MAX
  { est with
    srttUs := some srttVar.1
    rttvarUs := srttVar.2
    rtoUs := est.clampRto rto }

/-- `apply_backoff`: the timeout doubles, up to its bound. -/
def applyBackoff (est : RttEstimator) : RttEstimator :=
  { est with rtoUs := min (min (est.rtoUs * 2) U32_MAX) est.maxRtoUs }

end RttEstimator

/-- The longest delay of an acknowledgment that a probe allows for. -/
def WCDELACK_US : ℕ := 200000

/-- A probe is due after two smoothed round trips. -/
def DEFAULT_MULTIPLIER_X100 : ℕ := 200

/-- One probe is sent before the RTO takes over. -/
def DEFAULT_MAX_CONSECUTIVE_PROBES : ℕ := 1

/-- When a tail-loss probe is due. -/
structure TlpConfig where
  floorUs : ℕ
  multiplierX100 : ℕ
  skipFlightSizeGate : Bool
deriving DecidableEq, Repr

/-- `pto_us`: the delay of the next probe. -/
def ptoUs (srttUs : Option ℕ) (cfg : TlpConfig) (flightSize : ℕ) : ℕ :=
  match srttUs with
  | none => cfg.floorUs
  | some srtt =>
      let base := srtt * cfg.multiplierX100 / 100 % 4294967296
      let withPenalty :=
        if flightSize = 1 ∧ cfg.skipFlightSizeGate = false then
          min (base + max WCDELACK_US (srtt / 4)) U32_MAX
        else base
      max withPenalty cfg.floorUs

/-- What a probe sends. -/
inductive Probe where
  | newData
  | lastSegmentRetransmit
deriving DecidableEq, Repr

/-- `select_probe`: if anything is in flight, new data before the last segment again. -/
def selectProbe (sndPendingNonempty sndRetransNonempty : Bool) : Option Probe :=
  if sndRetransNonempty = false then none
  else if sndPendingNonempty then some .newData
  else some .lastSegmentRetransmit

/-- `RecentProbe`: a transmitted tail-loss probe, kept for DSACK attribution. -/
structure RecentProbe where
  seq : Seq
  len : ℕ
  txTsNs : ℕ
  attributed : Bool
deriving DecidableEq, Repr

end DpdkTcp
