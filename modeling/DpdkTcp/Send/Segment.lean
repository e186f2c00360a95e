import DpdkTcp.Send.Kept
import DpdkTcp.Input.Accept

/-!
# Segments and the send side

What a segment does to the edges of the send window and to `snd_retrans`:
first through `dispatch`, then through the retransmissions, the pruning and
the state change that follow it.
-/

namespace DpdkTcp

/-! ### The stages -/

/-- PAWS and SACK keep the send side. -/
theorem SackChange.sameSend {conn after : TcpConn} {tsRecent : BitVec 32} {tsRecentAge : ℕ}
    (change : SackChange (conn.stamp tsRecent tsRecentAge) after) :
    SameSend conn.sndRetrans.entries conn after :=
  ⟨change.sameWindow.sndUna, change.sameOwner.sndNxt, change.sameWindow.sndWnd,
    change.sameOwner.wsShiftIn, entriesKept_of_unsacked change.entries⟩

theorem mem_indexesWhere {Entry : Type} {test : Entry → Bool} {entries : List Entry} {index : ℕ} :
    index ∈ indexesWhere test entries ↔
      ∃ position entry, index = asU16 position ∧ entries[position]? = some entry ∧
        test entry = true := by
  simp only [indexesWhere, List.mem_map, List.mem_filter, Prod.exists]
  constructor
  · rintro ⟨entry, position, ⟨member, passed⟩, rfl⟩
    exact ⟨position, entry, rfl, List.mem_zipIdx_iff_getElem?.mp member, passed⟩
  · rintro ⟨position, entry, rfl, found, passed⟩
    exact ⟨entry, position, ⟨List.mem_zipIdx_iff_getElem?.mpr found, passed⟩, rfl⟩

/-- An index the RACK pass hands to the engine: it stands for an entry that is
not acknowledged, but as a `u16`. -/
def RackChosen (conn : TcpConn) (index : ℕ) : Prop :=
  ∃ position entry, index = asU16 position ∧ conn.sndRetrans.entries[position]? = some entry ∧
    seqLe entry.endSeq conn.sndUna = false

theorem rackPass_chosen {conn : TcpConn} {nowNs index : ℕ}
    (chosen : index ∈ (rackPass conn nowNs).2) : RackChosen (rackPass conn nowNs).1 index := by
  dsimp only [rackPass] at chosen ⊢
  split at chosen
  · cases chosen
  · rename_i nonempty
    rw [if_neg nonempty]
    rcases mem_indexesWhere.mp chosen with ⟨position, entry, rfl, found, lost⟩
    simp only [rackLost, Bool.and_eq_true, Bool.not_eq_true'] at lost
    rcases (entriesKept_markLost conn.sndRetrans _).getElem?_later found with
      ⟨marked, foundMarked, kept⟩
    exact ⟨position, marked, rfl, foundMarked, by rw [kept.endSeq]; exact lost.1.2⟩

/-! ### Dispatch -/

/-- An acknowledgment of new data moved the left edge. -/
structure AckedTo (ack : Seq) (entries : List RetransEntry) (before after : TcpConn) : Prop where
  ahead : seqLt before.sndUna ack = true
  known : seqLe ack before.sndNxt = true
  sndUna : after.sndUna = ack
  sndNxt : after.sndNxt = before.sndNxt
  sndWnd : after.sndWnd = before.sndWnd ∨
    ∃ window, after.sndWnd = scaledWindow window before.wsShiftIn
  wsShiftIn : after.wsShiftIn = before.wsShiftIn
  entries : EntriesKept entries after.sndRetrans.entries

/-- A SYN-ACK set the left edge and the window. -/
structure OpenedTo (ack : Seq) (before after : TcpConn) : Prop where
  ahead : seqLe (seqAdd before.sndUna 1) ack = true
  known : seqLe ack before.sndNxt = true
  sndUna : after.sndUna = ack
  sndNxt : after.sndNxt = before.sndNxt
  sndWnd : after.sndWnd ≤ 65535
  wsShiftIn : after.wsShiftIn ≤ 14
  entries : EntriesKept before.sndRetrans.entries after.sndRetrans.entries

section Changes

variable {ack : Seq} {entries : List RetransEntry} {first second third : TcpConn}

theorem SameSend.acked (left : SameSend first.sndRetrans.entries first second)
    (right : AckedTo ack second.sndRetrans.entries second third) :
    AckedTo ack first.sndRetrans.entries first third where
  ahead := by rw [← left.sndUna]; exact right.ahead
  known := by rw [← left.sndNxt]; exact right.known
  sndUna := right.sndUna
  sndNxt := right.sndNxt.trans left.sndNxt
  sndWnd := by rw [← left.sndWnd, ← left.wsShiftIn]; exact right.sndWnd
  wsShiftIn := right.wsShiftIn.trans left.wsShiftIn
  entries := left.entries.trans right.entries

theorem AckedTo.trans (left : AckedTo ack entries first second)
    (right : SameSend second.sndRetrans.entries second third) :
    AckedTo ack entries first third where
  ahead := left.ahead
  known := left.known
  sndUna := right.sndUna.trans left.sndUna
  sndNxt := right.sndNxt.trans left.sndNxt
  sndWnd := by rw [right.sndWnd]; exact left.sndWnd
  wsShiftIn := right.wsShiftIn.trans left.wsShiftIn
  entries := left.entries.trans right.entries

/-- Pruning the entries behind an acknowledgment. -/
theorem AckedTo.pruned (left : AckedTo ack first.sndRetrans.entries first second)
    (right : SameSend (second.sndRetrans.pruneBelow ack).entries second third) :
    AckedTo ack (first.sndRetrans.pruneBelow ack).entries first third where
  ahead := left.ahead
  known := left.known
  sndUna := right.sndUna.trans left.sndUna
  sndNxt := right.sndNxt.trans left.sndNxt
  sndWnd := by rw [right.sndWnd]; exact left.sndWnd
  wsShiftIn := right.wsShiftIn.trans left.wsShiftIn
  entries := (left.entries.dropWhile ack).trans right.entries

theorem OpenedTo.trans (left : OpenedTo ack first second)
    (right : SameSend second.sndRetrans.entries second third) : OpenedTo ack first third where
  ahead := left.ahead
  known := left.known
  sndUna := right.sndUna.trans left.sndUna
  sndNxt := right.sndNxt.trans left.sndNxt
  sndWnd := by rw [right.sndWnd]; exact left.sndWnd
  wsShiftIn := by rw [right.wsShiftIn]; exact left.wsShiftIn
  entries := left.entries.trans right.entries

end Changes

/-- How `dispatch` ends for the send side. -/
inductive SegmentSend (conn : TcpConn) (seg : ParsedSegment) (nowNs : ℕ) (after : TcpConn)
    (outcome : Outcome) : Prop where
  | kept (send : SameSend conn.sndRetrans.entries conn after)
      (advance : outcome.sndUnaAdvancedTo = none)
      (chosen : ∀ index ∈ outcome.rackLostIndexes, RackChosen after index)
      (state : conn.state.Later (outcome.newState.getD conn.state))
  | opened (opening : conn.state = .synSent) (send : OpenedTo seg.ack conn after)
      (quiet : Quiet outcome) (state : outcome.newState = some .established)
  | acked (running : conn.state = .established) (acceptable : conn.acceptable seg nowNs = true)
      (send : AckedTo seg.ack conn.sndRetrans.entries conn after)
      (advance : outcome.sndUnaAdvancedTo = some seg.ack)
      (chosen : ∀ index ∈ outcome.rackLostIndexes, RackChosen after index)
      (state : conn.state.Later (outcome.newState.getD conn.state))
  | closing (running : conn.state.isClosing = true)
      (acceptable : conn.closeAcceptable seg nowNs = true)
      (send : AckedTo seg.ack conn.sndRetrans.entries conn after) (quiet : Quiet outcome)
      (state : conn.state.Later (outcome.newState.getD conn.state))

theorem SegmentSend.of_quiet {conn after : TcpConn} {seg : ParsedSegment} {nowNs : ℕ}
    {outcome : Outcome} (send : SameSend conn.sndRetrans.entries conn after)
    (quiet : Quiet outcome) (state : conn.state.Later (outcome.newState.getD conn.state)) :
    SegmentSend conn seg nowNs after outcome := by
  refine .kept send quiet.sndUnaAdvancedTo ?_ state
  intro index member
  rw [quiet.rackLostIndexes] at member
  cases member

theorem SegmentSend.unchanged {conn : TcpConn} {seg : ParsedSegment} {nowNs : ℕ}
    {outcome : Outcome} (quiet : Quiet outcome)
    (state : outcome.newState = none ∨ outcome.newState = some .closed) :
    SegmentSend conn seg nowNs conn outcome := by
  refine .of_quiet (Kept.refl conn).send quiet ?_
  rcases state with none | closed
  · rw [none]
    exact .refl _
  · rw [closed]
    exact Or.inr (Or.inl rfl)

theorem maybeSeed_sameSend (conn : TcpConn) (nowNs : ℕ) :
    SameSend conn.sndRetrans.entries conn (conn.maybeSeedSrttFromSyn nowNs) := by
  dsimp only [TcpConn.maybeSeedSrttFromSyn]
  split
  · exact (Kept.refl conn).send
  · split
    · exact (Kept.refl conn).send
    · split <;> exact ⟨rfl, rfl, rfl, rfl, EntriesKept.refl _⟩

theorem adoptSynAck_opened {conn : TcpConn} {seg : ParsedSegment}
    (valid : synAcked conn seg = true) (opts : TcpOpts) (nowNs : ℕ) :
    OpenedTo seg.ack conn (adoptSynAck conn seg opts nowNs) := by
  rcases Bool.and_eq_true_iff.mp valid with ⟨ahead, known⟩
  refine ⟨ahead, known, rfl, rfl, ?_, ?_, EntriesKept.refl _⟩
  · exact Nat.le_of_lt_succ (UInt16.toNat_lt seg.window)
  · dsimp only [adoptSynAck]
    split
    · exact Nat.min_le_right _ _
    · exact Nat.zero_le _

theorem handleSynSent_send {conn : TcpConn} (opening : conn.state = .synSent)
    (seg : ParsedSegment) (clock : Readings) :
    SegmentSend conn seg clock.paws (handleSynSent conn seg clock).conn
      (handleSynSent conn seg clock).outcome := by
  unfold handleSynSent
  split
  · split
    · exact .unchanged ⟨rfl, rfl, rfl⟩ (Or.inr rfl)
    · exact .unchanged ⟨rfl, rfl, rfl⟩ (Or.inl rfl)
  · split
    · exact .unchanged ⟨rfl, rfl, rfl⟩ (Or.inr rfl)
    · split
      · exact .unchanged ⟨rfl, rfl, rfl⟩ (Or.inl rfl)
      · split
        · exact .unchanged ⟨rfl, rfl, rfl⟩ (Or.inr rfl)
        · rename_i valid
          simp only [Bool.not_eq_true', Bool.not_eq_false] at valid
          split
          · exact .unchanged ⟨rfl, rfl, rfl⟩ (Or.inr rfl)
          · rename_i opts _
            refine .opened opening ?_ ⟨rfl, rfl, rfl⟩ rfl
            refine ((adoptSynAck_opened valid opts clock.synTsRecent).trans
              (maybeSeed_sameSend _ clock.synSeed)).trans ?_
            exact ⟨rfl, rfl, rfl, rfl, EntriesKept.refl _⟩

/-- An acknowledgment of new data in the established state. -/
theorem absorbAck_acked {conn : TcpConn} {seg : ParsedSegment}
    (ahead : seqLt conn.sndUna seg.ack = true) (known : seqLe seg.ack conn.sndNxt = true)
    (opts : TcpOpts) (nowNs : ℕ) :
    AckedTo seg.ack conn.sndRetrans.entries conn (absorbAck conn seg opts nowNs).1 := by
  have change := absorbAck_change conn seg opts nowNs
  refine ⟨ahead, known, absorbAck_sndUna conn seg opts nowNs, change.sameOwner.sndNxt, ?_,
    change.sameOwner.wsShiftIn, ?_⟩
  · have window := absorbAck_window conn seg opts nowNs
    cases newer : newerForWindow conn seg with
    | true => exact Or.inr ⟨seg.window, (window.1 newer).1⟩
    | false => exact Or.inl (window.2 newer).1
  · rw [change.sndRetrans]
    exact EntriesKept.refl _

/-- The stages behind the ACK pass keep the send side. -/
theorem establishedData_send (seg : ParsedSegment) (mbufCtx : Option MbufInsertCtx)
    (rackNow : ℕ) (expired : Bool) (sack : SackPass) (ack : AckPass) :
    SameSend ack.conn.sndRetrans.entries ack.conn
        (establishedData seg mbufCtx rackNow expired sack ack).conn ∧
      ∀ index ∈ (establishedData seg mbufCtx rackNow expired sack ack).outcome.rackLostIndexes,
        RackChosen (establishedData seg mbufCtx rackNow expired sack ack).conn index := by
  have frame := establishedData_frame seg mbufCtx rackNow expired sack ack
  have data : DataChange (rackPass ack.conn rackNow).1
      (establishedData seg mbufCtx rackNow expired sack ack).conn :=
    (deliver_change (rackPass ack.conn rackNow).1 seg mbufCtx).trans (takeFin_change seg _)
  constructor
  · refine ⟨frame.2.sndUna, frame.1.sndNxt, frame.2.sndWnd, frame.1.wsShiftIn, ?_⟩
    rw [data.sndRetrans, rackPass_only]
    exact entriesKept_markLost _ _
  · intro index member
    rcases rackPass_chosen member with ⟨position, entry, equal, found, unacked⟩
    refine ⟨position, entry, equal, ?_, ?_⟩
    · rw [data.sndRetrans]
      exact found
    · rw [data.sameWindow.sndUna]
      exact unacked

theorem establishedData_later {conn : TcpConn} (running : conn.state = .established)
    (seg : ParsedSegment) (mbufCtx : Option MbufInsertCtx) (rackNow : ℕ) (expired : Bool)
    (sack : SackPass) (ack : AckPass) :
    conn.state.Later ((establishedData seg mbufCtx rackNow expired sack ack).outcome.newState.getD
      conn.state) := by
  have fin : ∀ delivery, (takeFin seg delivery).2 = none ∨
      (takeFin seg delivery).2 = some .closeWait := by
    intro delivery
    unfold takeFin
    split
    · exact Or.inr rfl
    · exact Or.inl rfl
  dsimp only [establishedData]
  rcases fin (deliver (rackPass ack.conn rackNow).1 seg mbufCtx) with none | closeWait
  · rw [none]
    exact .refl _
  · rw [closeWait, running]
    exact Or.inr (Or.inr (by decide))

theorem handleEstablished_send {conn : TcpConn} (running : conn.state = .established)
    (seg : ParsedSegment) (clock : Readings) (sendBuf : ℕ) (mbufCtx : Option MbufInsertCtx) :
    SegmentSend conn seg clock.paws (handleEstablished conn seg clock sendBuf mbufCtx).conn
      (handleEstablished conn seg clock sendBuf mbufCtx).outcome := by
  rcases handleEstablished_cases conn seg clock sendBuf mbufCtx with
    ⟨⟨quiet, _, _⟩, state, tsRecent, tsRecentAge, change⟩ |
      ⟨opts, sack, ack, expired, accepted, processed⟩
  · refine .of_quiet change.sameSend quiet ?_
    rcases state with none | ⟨_, closed⟩
    · rw [none]
      exact .refl _
    · rw [closed]
      exact Or.inr (Or.inl rfl)
  · rw [processed]
    have sacked : SameSend conn.sndRetrans.entries conn sack.conn := by
      rcases accepted.timed with ⟨timed, expired, passed, rfl⟩
      rcases paws_passed passed with ⟨tsRecent, tsRecentAge, rfl⟩
      exact (sackPass_change (conn.stamp tsRecent tsRecentAge) opts clock.dsack).sameSend
    rcases establishedData_send seg mbufCtx clock.rack expired sack ack with ⟨rest, chosen⟩
    have state := establishedData_later running seg mbufCtx clock.rack expired sack ack
    rcases ackPass_cases accepted.acked with
      ⟨ahead, known, advance, refused, absorbed⟩ | ⟨_, _, stays, same⟩
    · have acked : AckedTo seg.ack conn.sndRetrans.entries conn ack.conn := by
        rw [absorbed]
        refine AckedTo.trans (sacked.acked (absorbAck_acked ahead known opts clock.rtt)) ?_
        exact ⟨rfl, rfl, rfl, rfl, EntriesKept.refl _⟩
      exact .acked running accepted.acceptable.1 (acked.trans rest) advance chosen state
    · rw [same] at rest
      exact .kept (sacked.trans rest) stays chosen state

theorem closeTransition_later {state : TcpState} (closing : state.isClosing = true)
    (finAcked peerHasFin : Bool) :
    state.Later ((closeTransition state finAcked peerHasFin).1.getD state) := by
  unfold TcpState.Later
  revert closing
  cases state <;> cases finAcked <;> cases peerHasFin <;> decide

theorem handleClosePath_send {conn : TcpConn} (closing : conn.state.isClosing = true ∨
    conn.state = .timeWait) (seg : ParsedSegment) (clock : Readings) :
    SegmentSend conn seg clock.paws (handleClosePath conn seg clock).conn
      (handleClosePath conn seg clock).outcome := by
  rcases handleClosePath_cases conn seg clock with
    ⟨⟨quiet, _, _⟩, ⟨same, state⟩ |
      ⟨waiting, opts, timed, expired, passed, advanced, state⟩⟩
  · rw [same]
    exact .unchanged quiet (state.imp_right And.right)
  · cases acceptable : conn.closeAcceptable seg clock.paws with
    | false =>
        rcases handleClosePath_of_not_acceptable acceptable with ⟨same, state⟩
        rw [same]
        exact .unchanged quiet (state.imp_right And.right)
    | true =>
        have running : conn.state.isClosing = true := closing.resolve_right waiting
        rcases paws_passed passed with ⟨tsRecent, tsRecentAge, rfl⟩
        have change := sackPass_change (conn.stamp tsRecent tsRecentAge) opts clock.dsack
        generalize sackPass (conn.stamp tsRecent tsRecentAge) opts clock.dsack = sack
          at change advanced state
        have later : conn.state.Later
            ((handleClosePath conn seg clock).outcome.newState.getD conn.state) := by
          rw [state]
          have same : sack.conn.state = conn.state := change.sameOwner.state
          dsimp only [closeAdvance]
          rw [same]
          exact closeTransition_later running _ _
        rw [advanced, closeAdvance_only]
        split
        · rename_i advances
          rcases Bool.and_eq_true_iff.mp advances with ⟨ahead, known⟩
          refine .closing running acceptable (change.sameSend.acked ?_) quiet later
          exact ⟨ahead, known, rfl, rfl, Or.inl rfl, rfl, EntriesKept.refl _⟩
        · refine .of_quiet (change.sameSend.trans ?_) quiet later
          exact ⟨rfl, rfl, rfl, rfl, EntriesKept.refl _⟩

/-- What a segment does to the send side of its connection. -/
theorem dispatch_send (conn : TcpConn) (seg : ParsedSegment) (clock : Readings) (sendBuf : ℕ)
    (mbufCtx : Option MbufInsertCtx) :
    SegmentSend conn seg clock.paws (dispatch conn seg clock sendBuf mbufCtx).conn
      (dispatch conn seg clock sendBuf mbufCtx).outcome := by
  unfold dispatch
  split
  · rename_i opening
    exact handleSynSent_send opening seg clock
  · rename_i running
    exact handleEstablished_send running seg clock sendBuf mbufCtx
  all_goals rename_i state
  · exact handleClosePath_send (Or.inl (by rw [state]; rfl)) seg clock
  · exact handleClosePath_send (Or.inl (by rw [state]; rfl)) seg clock
  · exact handleClosePath_send (Or.inl (by rw [state]; rfl)) seg clock
  · exact handleClosePath_send (Or.inl (by rw [state]; rfl)) seg clock
  · exact handleClosePath_send (Or.inl (by rw [state]; rfl)) seg clock
  · exact handleClosePath_send (Or.inr state) seg clock
  · exact .unchanged ⟨rfl, rfl, rfl⟩ (Or.inl rfl)
  · exact .unchanged ⟨rfl, rfl, rfl⟩ (Or.inl rfl)
  · exact .unchanged ⟨rfl, rfl, rfl⟩ (Or.inl rfl)

/-- Outside the handshake the state a dispatch decides on is a later one. -/
theorem dispatch_later {conn : TcpConn} (opened : conn.state ≠ .synSent) (seg : ParsedSegment)
    (clock : Readings) (sendBuf : ℕ) (mbufCtx : Option MbufInsertCtx) :
    conn.state.Later
      ((dispatch conn seg clock sendBuf mbufCtx).outcome.newState.getD conn.state) := by
  cases dispatch_send conn seg clock sendBuf mbufCtx with
  | kept _ _ _ decided => exact decided
  | opened opening => exact absurd opening opened
  | acked _ _ _ _ _ decided => exact decided
  | closing _ _ _ _ decided => exact decided

/-- The state field is left to the engine. -/
theorem dispatch_state (conn : TcpConn) (seg : ParsedSegment) (clock : Readings) (sendBuf : ℕ)
    (mbufCtx : Option MbufInsertCtx) :
    (dispatch conn seg clock sendBuf mbufCtx).conn.state = conn.state := by
  unfold dispatch
  split
  · unfold handleSynSent
    split
    · split <;> rfl
    · split
      · rfl
      · split
        · rfl
        · split
          · rfl
          · split
            · rfl
            · dsimp only [TcpConn.maybeSeedSrttFromSyn]
              split
              · rfl
              · split
                · rfl
                · split <;> rfl
  · exact (handleEstablished_sameOwner conn seg clock sendBuf mbufCtx).state
  all_goals first
    | exact (handleClosePath_sameOwner conn seg clock).state
    | rfl

/-! ### After the dispatch -/

/-- What is left of the entries once those behind an advance of `snd_una` are pruned. -/
def TcpConn.entriesLeft (conn : TcpConn) : Option Seq → List RetransEntry
  | some ack => (conn.sndRetrans.pruneBelow ack).entries
  | none => conn.sndRetrans.entries

theorem KeptAs.entriesLeft {before after : TcpConn} (kept : Kept before after)
    (advance : Option Seq) : EntriesKept (before.entriesLeft advance) (after.entriesLeft advance) := by
  cases advance with
  | none => exact kept.entries
  | some ack => exact kept.entries.dropWhile ack

/-- The connection in another state. -/
def TcpConn.enter (conn : TcpConn) (state : TcpState) : TcpConn :=
  { conn with state := state }

/-- The state a dispatch decided on is written over the one it was left with. -/
theorem KeptAs.enter {entries : List RetransEntry} {before after : TcpConn}
    (kept : KeptAs entries before after) (target : Option TcpState) :
    KeptAs entries (before.enter (target.getD before.state))
      (after.enter (target.getD after.state)) := by
  refine ⟨?_, kept.entries, ?_⟩
  · unfold TcpConn.enter
    rw [kept.only]
  · cases target with
    | none => exact kept.closes
    | some state => exact Or.inl rfl

namespace Engine

variable {allowed : ConnHandle → ℕ → Prop} (engine : Engine) (handle : ConnHandle)

theorem retransmitRackLost_moved (envs : ℕ → RetransmitEnv) (indexes : List ℕ)
    (may : ∀ index ∈ indexes, allowed handle index) :
    Moved allowed engine (engine.retransmitRackLost handle envs indexes) := by
  induction indexes generalizing engine envs with
  | nil => exact .refl engine
  | cons index rest ih =>
      simp only [List.mem_cons, forall_eq_or_imp] at may
      dsimp only [retransmitRackLost]
      refine .trans ?_ (ih _ (fun turn => envs (turn + 1)) may.2)
      refine (retransmit_moved engine handle index (envs 0) may.1).trans ?_
      split
      · exact (reportRetrans_moved _ handle index _).trans (pushEvent_moved _ _)
      · exact .refl _

/-- Connections are kept, except that the entries of `handle` are pruned. -/
structure PrunedTo (advance : Option Seq) (before after : Engine) : Prop where
  cfg : after.cfg = before.cfg
  conns : ∀ other conn', after.flowTable.get other = some conn' →
    ∃ conn, before.flowTable.get other = some conn ∧
      KeptAs (conn.entriesLeft (if other = handle then advance else none)) conn conn'
  picked : after.picked = before.picked

theorem PrunedTo.trans {handle : ConnHandle} {advance : Option Seq} {first second third : Engine}
    (left : PrunedTo handle advance first second)
    (right : Moved (fun _ _ => False) second third) : PrunedTo handle advance first third := by
  refine ⟨right.cfg.trans left.cfg, ?_, right.picked_eq.trans left.picked⟩
  intro other conn'' present
  rcases right.conns other conn'' present with ⟨conn', present', kept⟩
  rcases left.conns other conn' present' with ⟨conn, live, pruned⟩
  exact ⟨conn, live, pruned.trans kept⟩

theorem pruneAcked_pruned (ack : Seq) (nowNs : ℕ) :
    PrunedTo handle (some ack) engine (engine.pruneAcked handle ack nowNs) := by
  dsimp only [pruneAcked]
  split
  · rename_i gone
    refine ⟨rfl, ?_, rfl⟩
    intro other conn' present
    have differs : other ≠ handle := by
      rintro rfl
      rw [gone] at present
      cases present
    refine ⟨conn', present, ?_⟩
    rw [if_neg differs]
    exact Kept.refl conn'
  · rename_i conn live
    have pruned : PrunedTo handle (some ack) engine (engine.modifyConn handle
        fun conn' => { conn' with sndRetrans := conn.sndRetrans.pruneBelow ack }) := by
      refine ⟨rfl, ?_, rfl⟩
      intro other conn' present
      rw [modifyConn, FlowTable.get_modify] at present
      split at present
      · rename_i same
        rw [live] at present
        cases present
        refine ⟨conn, same ▸ live, ?_⟩
        rw [if_pos same]
        exact ⟨rfl, EntriesKept.refl _, Or.inl rfl⟩
      · rename_i differs
        refine ⟨conn', present, ?_⟩
        rw [if_neg differs]
        exact Kept.refl conn'
    have freed := pruned.trans (releaseMbufs_moved _
      ((conn.sndRetrans.prunedBelow ack).map RetransEntry.mbuf))
    generalize (engine.modifyConn handle _).releaseMbufs _ = freedEngine at freed ⊢
    have stopped : PrunedTo handle (some ack) engine
        (if (conn.sndRetrans.pruneBelow ack).isEmpty && conn.sndUna == conn.sndNxt then
          (freedEngine.stopRto handle).stopTlp handle else freedEngine) := by
      split
      · exact freed.trans ((stopRto_moved _ handle).trans (stopTlp_moved _ handle))
      · exact freed
    generalize (if (conn.sndRetrans.pruneBelow ack).isEmpty && conn.sndUna == conn.sndNxt then
          (freedEngine.stopRto handle).stopTlp handle else freedEngine) = stoppedEngine
      at stopped ⊢
    split
    · exact stopped.trans ((stopRto_moved _ handle).trans (armRto_moved _ handle nowNs))
    · exact stopped

/-- The timers after a dispatch keep the entries. -/
theorem rearm_moved (pruned : Engine) (handle : ConnHandle) (answered : Option TimerId)
    (nowNs : ℕ) :
    Moved (fun _ _ => False) pruned
      (match answered with
      | some id => ((pruned.armTlpPto handle nowNs).cancelTimer id).modifyConn handle
          fun conn => conn.withoutTimer id
      | none => pruned.armTlpPto handle nowNs) := by
  refine (armTlpPto_moved pruned handle nowNs).trans ?_
  split
  · refine .trans ?_ (modifyConn_moved _ handle _ ?_)
    · exact .of_same rfl rfl rfl
    · intro conn _
      exact ⟨rfl, EntriesKept.refl _, Or.inl rfl⟩
  · exact .refl _

/-- The retransmissions, the pruning and the timers after a dispatch. -/
theorem sendSideAfter_conns (outcome : Outcome) (env : InputEnv) :
    (engine.sendSideAfter handle outcome env).cfg = engine.cfg ∧
      (∀ other conn', (engine.sendSideAfter handle outcome env).flowTable.get other = some conn' →
        ∃ conn, engine.flowTable.get other = some conn ∧
          KeptAs (conn.entriesLeft (if other = handle then outcome.sndUnaAdvancedTo else none))
            conn conn') ∧
      ∃ picks, (engine.sendSideAfter handle outcome env).picked = engine.picked ++ picks ∧
        ∀ pick ∈ picks, engine.PickedFrom
          (fun other index => other = handle ∧ index ∈ outcome.rackLostIndexes) pick := by
  have resent : Moved (fun other index => other = handle ∧ index ∈ outcome.rackLostIndexes) engine
      (engine.retransmitRackLost handle env.retransmits outcome.rackLostIndexes) :=
    retransmitRackLost_moved engine handle env.retransmits _ fun index member => ⟨rfl, member⟩
  dsimp only [sendSideAfter]
  generalize engine.retransmitRackLost handle env.retransmits outcome.rackLostIndexes =
    resentEngine at resent ⊢
  rcases resent.picks with ⟨picks, picked, origin⟩
  cases advance : outcome.sndUnaAdvancedTo with
  | none =>
      have ended := rearm_moved resentEngine handle outcome.synRetransTimerToCancel env.nowNs
      refine ⟨ended.cfg.trans resent.cfg, ?_, picks, ended.picked_eq.trans picked, origin⟩
      intro other conn'' present
      rcases ended.conns other conn'' present with ⟨conn', present', kept'⟩
      rcases resent.conns other conn' present' with ⟨conn, live, kept⟩
      rw [ite_self]
      exact ⟨conn, live, kept.trans kept'⟩
  | some ack =>
      have ended := (pruneAcked_pruned resentEngine handle ack env.nowNs).trans
        (rearm_moved _ handle outcome.synRetransTimerToCancel env.nowNs)
      refine ⟨ended.cfg.trans resent.cfg, ?_, picks, ended.picked.trans picked, origin⟩
      intro other conn'' present
      rcases ended.conns other conn'' present with ⟨conn', present', pruned⟩
      rcases resent.conns other conn' present' with ⟨conn, live, kept⟩
      exact ⟨conn, live, kept.andThen pruned (kept.entriesLeft _)⟩

/-- Behind the retransmissions no entry is looked up. -/
theorem sendSideAfter_picked (outcome : Outcome) (env : InputEnv) :
    (engine.sendSideAfter handle outcome env).picked =
      (engine.retransmitRackLost handle env.retransmits outcome.rackLostIndexes).picked := by
  have armed (left : Engine) : (left.armTlpPto handle env.nowNs).picked = left.picked := by
    have quiet : Moved (fun _ _ => False) left (left.armTlpPto handle env.nowNs) :=
      armTlpPto_moved left handle env.nowNs
    exact quiet.picked_eq
  dsimp only [sendSideAfter]
  generalize engine.retransmitRackLost handle env.retransmits outcome.rackLostIndexes = resent
  cases advance : outcome.sndUnaAdvancedTo with
  | none =>
    split
    · exact armed resent
    · exact armed resent
  | some newSndUna =>
    have pruned : (resent.pruneAcked handle newSndUna env.nowNs).picked = resent.picked :=
      (pruneAcked_pruned resent handle newSndUna env.nowNs).picked
    split
    · exact (armed _).trans pruned
    · exact (armed _).trans pruned

theorem restartTimeWait_moved (outcome : Outcome) (nowNs : ℕ) :
    Moved allowed engine (engine.restartTimeWait handle outcome nowNs) := by
  apply modifyConn_moved
  intro conn _
  split
  · exact ⟨rfl, EntriesKept.refl _, Or.inl rfl⟩
  · exact Kept.refl conn

theorem answer_moved (tx : TxAction) (env : InputEnv) :
    Moved allowed engine (engine.answer handle tx env) := by
  unfold answer
  split
  · exact .refl engine
  · unfold emitAck
    split
    · apply modifyConn_moved
      intro conn _
      exact ⟨rfl, EntriesKept.refl _, Or.inl rfl⟩
    · exact .refl engine
  · exact close_moved engine handle env.nowNs
  · exact close_moved engine handle env.nowNs

theorem handOver_moved (delivered rxHwTsNs emittedTsNs : ℕ) :
    Moved allowed engine (engine.handOver handle delivered rxHwTsNs emittedTsNs) := by
  dsimp only [handOver, deliverReadable]
  split
  · exact .of_same rfl rfl rfl
  · rename_i conn live
    refine ⟨rfl, ?_, [], by simp, by simp⟩
    intro other conn' present
    dsimp only at present
    rw [FlowTable.get_set live] at present
    split at present
    · rename_i same
      cases present
      exact ⟨conn, same ▸ live, rfl, EntriesKept.refl _, Or.inl rfl⟩
    · exact ⟨conn', present, Kept.refl conn'⟩

theorem deliverEvents_moved (outcome : Outcome) (env : InputEnv) :
    Moved allowed engine (engine.deliverEvents handle outcome env) := by
  have connected : Moved allowed engine
      (if outcome.connected then engine.pushEvent (.connected handle env.rxHwTsNs env.nowNs)
        else engine) := by
    split
    · exact pushEvent_moved _ _
    · exact .refl engine
  dsimp only [deliverEvents]
  split
  · exact connected.trans (handOver_moved _ handle _ _ _)
  · exact connected

theorem finishClosed_moved (outcome : Outcome) (env : InputEnv) :
    Moved allowed engine (engine.finishClosed handle outcome env) := by
  dsimp only [finishClosed]
  split
  · refine (pushEvent_moved engine (.closed handle 0 env.nowNs)).trans ?_
    split
    · split
      · exact removeConn_moved _ handle
      · exact .refl _
    · exact .refl _
  · exact .refl engine

/-- `transition_conn` writes the state and the deadline of the wait. -/
theorem transitionConn_conns (target : TcpState) (nowNs : ℕ) {other : ConnHandle} {conn' : TcpConn}
    (present : (engine.transitionConn handle target nowNs).flowTable.get other = some conn') :
    ∃ conn, engine.flowTable.get other = some conn ∧
      KeptAs conn.sndRetrans.entries
        (conn.enter (if other = handle then target else conn.state)) conn' ∧
      conn'.state = if other = handle then target else conn.state := by
  dsimp only [transitionConn] at present
  split at present
  · rename_i gone
    have differs : other ≠ handle := by
      rintro rfl
      rw [gone] at present
      cases present
    refine ⟨conn', present, ?_, (if_neg differs).symm⟩
    rw [if_neg differs]
    exact Kept.refl conn'
  · rename_i conn live
    split at present
    · rename_i already
      have same : (if other = handle then target else conn'.state) = conn'.state := by
        split
        · rename_i same
          rw [same, live] at present
          cases present
          exact already.symm
        · rfl
      refine ⟨conn', present, ?_, same.symm⟩
      rw [same]
      exact Kept.refl conn'
    · dsimp only [pushEvent, modifyConn] at present
      rw [FlowTable.get_modify] at present
      split at present
      · rename_i same
        rw [live] at present
        cases present
        refine ⟨conn, same ▸ live, ?_, (if_pos same).symm⟩
        rw [if_pos same]
        exact ⟨rfl, EntriesKept.refl _, Or.inl rfl⟩
      · rename_i differs
        refine ⟨conn', present, ?_, (if_neg differs).symm⟩
        rw [if_neg differs]
        exact Kept.refl conn'

/-- The state a dispatch decided on is written; everything else is kept. -/
theorem receiveSideAfter_conns (outcome : Outcome) (env : InputEnv) :
    (engine.receiveSideAfter handle outcome env).cfg = engine.cfg ∧
      (engine.receiveSideAfter handle outcome env).picked = engine.picked ∧
      ∀ other conn', (engine.receiveSideAfter handle outcome env).flowTable.get other =
          some conn' →
        ∃ conn, engine.flowTable.get other = some conn ∧
          KeptAs conn.sndRetrans.entries
            (conn.enter ((if other = handle then outcome.newState else none).getD conn.state))
            conn' := by
  have waited : Moved (fun _ _ => False) engine
      (engine.restartTimeWait handle outcome env.nowNs) :=
    restartTimeWait_moved engine handle outcome env.nowNs
  have after : ∀ moved : Engine, Moved (fun _ _ => False) moved
      (((moved.answer handle outcome.tx env).deliverEvents handle outcome env).finishClosed handle
        outcome env) := by
    intro moved
    exact ((answer_moved moved handle outcome.tx env).trans
      (deliverEvents_moved _ handle outcome env)).trans (finishClosed_moved _ handle outcome env)
  dsimp only [receiveSideAfter]
  generalize engine.restartTimeWait handle outcome env.nowNs = waitedEngine at waited ⊢
  cases target : outcome.newState with
  | none =>
      have ended := waited.trans (after waitedEngine)
      refine ⟨ended.cfg, ended.picked_eq, ?_⟩
      intro other conn' present
      rcases ended.conns other conn' present with ⟨conn, live, kept⟩
      rw [ite_self]
      exact ⟨conn, live, kept⟩
  | some state =>
      have ended := after (waitedEngine.transitionConn handle state env.nowNs)
      refine ⟨(ended.cfg.trans (transitionConn_cfg _ _ _ _)).trans waited.cfg,
        (ended.picked_eq.trans (transitionConn_picked _ _ _ _)).trans waited.picked_eq, ?_⟩
      intro other conn''' present
      rcases ended.conns other conn''' present with ⟨conn'', present'', kept''⟩
      rcases transitionConn_conns _ _ _ _ present'' with ⟨conn', present', entered, _⟩
      rcases waited.conns other conn' present' with ⟨conn, live, kept⟩
      refine ⟨conn, live, KeptAs.trans ?_ kept''⟩
      have written := kept.enter (if other = handle then some state else none)
      split at written
      · rename_i same
        rw [if_pos same] at entered ⊢
        exact written.trans entered
      · rename_i differs
        rw [if_neg differs] at entered ⊢
        exact written.trans entered

end Engine

/-- What a segment and everything that follows it do to the send side of its connection. -/
inductive SegmentStep (conn : TcpConn) (seg : ParsedSegment) (nowNs : ℕ) (after : TcpConn) :
    Prop where
  | kept (send : SameSend conn.sndRetrans.entries conn after)
      (state : conn.state.Later after.state)
  | opened (opening : conn.state = .synSent) (send : OpenedTo seg.ack conn after)
      (state : TcpState.established.Later after.state)
  | acked (running : conn.state = .established) (acceptable : conn.acceptable seg nowNs = true)
      (send : AckedTo seg.ack (conn.sndRetrans.pruneBelow seg.ack).entries conn after)
      (state : conn.state.Later after.state)
  | closing (running : conn.state.isClosing = true)
      (acceptable : conn.closeAcceptable seg nowNs = true)
      (send : AckedTo seg.ack conn.sndRetrans.entries conn after)
      (state : conn.state.Later after.state)

/-- A dispatch, and what the engine keeps of it. -/
theorem SegmentSend.step {conn after : TcpConn} {seg : ParsedSegment} {nowNs : ℕ}
    {dispatched : Dispatched}
    (send : SegmentSend conn seg nowNs dispatched.conn dispatched.outcome)
    (kept : KeptAs (dispatched.conn.entriesLeft dispatched.outcome.sndUnaAdvancedTo)
      (dispatched.conn.enter (dispatched.outcome.newState.getD conn.state)) after) :
    SegmentStep conn seg nowNs after := by
  have sent : SameSend (dispatched.conn.entriesLeft dispatched.outcome.sndUnaAdvancedTo)
      dispatched.conn after := by
    rcases kept.send with ⟨sndUna, sndNxt, sndWnd, wsShiftIn, entries⟩
    exact ⟨sndUna, sndNxt, sndWnd, wsShiftIn, entries⟩
  have later : (dispatched.outcome.newState.getD conn.state).Later after.state := kept.state
  cases send with
  | kept send advance _ decided =>
      rw [advance] at sent
      exact .kept (send.trans sent) (decided.trans later)
  | opened opening send quiet decided =>
      rw [quiet.sndUnaAdvancedTo] at sent
      rw [decided] at later
      exact .opened opening (send.trans sent) later
  | acked running acceptable send advance _ decided =>
      rw [advance] at sent
      exact .acked running acceptable (send.pruned sent) (decided.trans later)
  | closing running acceptable send quiet decided =>
      rw [quiet.sndUnaAdvancedTo] at sent
      exact .closing running acceptable (send.trans sent) (decided.trans later)

namespace Engine

variable (engine : Engine) (handle : ConnHandle)

/-- `tcp_input` is the dispatch, written into the table, and then the two halves of what
follows it. -/
theorem tcpInput_eq {conn : TcpConn} (present : engine.flowTable.get handle = some conn)
    (seg : ParsedSegment) (mbufCtx : Option MbufInsertCtx) (env : InputEnv) :
    ∃ notified : Engine, notified.cfg = engine.cfg ∧ notified.picked = engine.picked ∧
      notified.flowTable = engine.flowTable.set handle
        (dispatch conn seg env.clock engine.cfg.sendBufferBytes mbufCtx).conn ∧
      engine.tcpInput handle seg mbufCtx env =
        (notified.sendSideAfter handle
          (dispatch conn seg env.clock engine.cfg.sendBufferBytes mbufCtx).outcome
          env).receiveSideAfter handle
          (dispatch conn seg env.clock engine.cfg.sendBufferBytes mbufCtx).outcome env := by
  dsimp only [tcpInput]
  rw [present]
  dsimp only
  generalize dispatch conn seg env.clock engine.cfg.sendBufferBytes mbufCtx = dispatched
  refine ⟨_, ?_, ?_, ?_, rfl⟩
  · split <;> rfl
  · split <;> rfl
  · split <;> rfl

/-- What `tcp_input` does to a connection: the dispatch and the state it decided on for the
one of the segment, nothing for the others. -/
theorem tcpInput_written (seg : ParsedSegment) (mbufCtx : Option MbufInsertCtx) (env : InputEnv)
    {other : ConnHandle} {conn' : TcpConn}
    (live : (engine.tcpInput handle seg mbufCtx env).flowTable.get other = some conn') :
    ∃ conn, engine.flowTable.get other = some conn ∧
      (other ≠ handle ∧ Kept conn conn' ∨
        other = handle ∧ ∃ dispatched,
          dispatched = dispatch conn seg env.clock engine.cfg.sendBufferBytes mbufCtx ∧
          KeptAs (dispatched.conn.entriesLeft dispatched.outcome.sndUnaAdvancedTo)
            (dispatched.conn.enter (dispatched.outcome.newState.getD conn.state)) conn') := by
  cases present : engine.flowTable.get handle with
  | none =>
      have idle : engine.tcpInput handle seg mbufCtx env = engine :=
        tcpInput_absent present seg mbufCtx env
      rw [idle] at live
      refine ⟨conn', live, Or.inl ⟨?_, Kept.refl conn'⟩⟩
      rintro rfl
      rw [present] at live
      cases live
  | some conn =>
      rcases tcpInput_eq engine handle present seg mbufCtx env with
        ⟨notified, _, _, table, processed⟩
      rw [processed] at live
      have state := dispatch_state conn seg env.clock engine.cfg.sendBufferBytes mbufCtx
      generalize dispatched_eq : dispatch conn seg env.clock engine.cfg.sendBufferBytes mbufCtx =
        dispatched at live state table
      rcases (receiveSideAfter_conns _ handle dispatched.outcome env).2.2 other conn' live with
        ⟨moved, live, received⟩
      rcases (sendSideAfter_conns notified handle dispatched.outcome env).2.1 other moved live with
        ⟨written, live, sent⟩
      rw [table, FlowTable.get_set present] at live
      by_cases same : other = handle
      · rw [if_pos same] at live sent received
        cases live
        have entered := (sent.enter dispatched.outcome.newState).trans received
        rw [state] at entered
        exact ⟨conn, same ▸ present, Or.inr ⟨same, dispatched, dispatched_eq.symm, entered⟩⟩
      · rw [if_neg same] at live sent received
        exact ⟨written, live, Or.inl ⟨same, sent.trans received⟩⟩

/-- What `tcp_input` does to the send sides of all connections. -/
theorem tcpInput_conns (seg : ParsedSegment) (mbufCtx : Option MbufInsertCtx) (env : InputEnv)
    {other : ConnHandle} {conn' : TcpConn}
    (live : (engine.tcpInput handle seg mbufCtx env).flowTable.get other = some conn') :
    ∃ conn, engine.flowTable.get other = some conn ∧
      (other ≠ handle ∧ Kept conn conn' ∨
        other = handle ∧ SegmentStep conn seg env.clock.paws conn') := by
  rcases tcpInput_written engine handle seg mbufCtx env live with
    ⟨conn, present, kept | ⟨same, _, rfl, kept⟩⟩
  · exact ⟨conn, present, Or.inl kept⟩
  · exact ⟨conn, present, Or.inr ⟨same, (dispatch_send conn seg env.clock _ mbufCtx).step kept⟩⟩

theorem tcpInput_cfg (seg : ParsedSegment) (mbufCtx : Option MbufInsertCtx) (env : InputEnv) :
    (engine.tcpInput handle seg mbufCtx env).cfg = engine.cfg := by
  cases present : engine.flowTable.get handle with
  | none =>
      rw [tcpInput_absent present]
  | some conn =>
      rcases tcpInput_eq engine handle present seg mbufCtx env with ⟨notified, cfg, _, _, processed⟩
      rw [processed, (receiveSideAfter_conns _ handle _ env).1,
        (sendSideAfter_conns notified handle _ env).1, cfg]

/-- The entries RACK sends again are looked up in the connection as `dispatch` left it. -/
theorem tcpInput_picks (seg : ParsedSegment) (mbufCtx : Option MbufInsertCtx) (env : InputEnv) :
    ∃ picks, (engine.tcpInput handle seg mbufCtx env).picked = engine.picked ++ picks ∧
      ∀ pick ∈ picks, ∃ conn after index entry, pick.handle = handle ∧
        engine.flowTable.get handle = some conn ∧
        after = dispatch conn seg env.clock engine.cfg.sendBufferBytes mbufCtx ∧
        pick.sndUna = after.conn.sndUna ∧ index ∈ after.outcome.rackLostIndexes ∧
        after.conn.sndRetrans.entries[index]? = some entry ∧ EntryKept entry pick.entry := by
  cases present : engine.flowTable.get handle with
  | none =>
      refine ⟨[], ?_, by simp⟩
      rw [tcpInput_absent present, List.append_nil]
  | some conn =>
      rcases tcpInput_eq engine handle present seg mbufCtx env with
        ⟨notified, _, picked, table, processed⟩
      rcases (sendSideAfter_conns notified handle _ env).2.2 with ⟨picks, grown, origin⟩
      refine ⟨picks, ?_, ?_⟩
      · rw [processed, (receiveSideAfter_conns _ handle _ env).2.1, grown, picked]
      · intro pick member
        rcases origin pick member with
          ⟨written, index, entry, live, sndUna, ⟨same, chosen⟩, found, kept⟩
        rw [table, FlowTable.get_set present, if_pos same] at live
        cases live
        exact ⟨conn, _, index, entry, same, rfl, rfl, sndUna, chosen, found, kept⟩

end Engine

end DpdkTcp
