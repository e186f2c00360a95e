import DpdkTcp.Lib.Tickets
import DpdkTcp.Lifecycle.Carry
import DpdkTcp.Timers.ProbeTimer

/-!
# Budget and attribution of probes

A probe uses up a part of the budget of its connection, and an acknowledgment
that moves `snd_una` gives all of it back. The last five probes are kept in a
ring, and a DSACK block is attributed to a probe of the ring that has none yet.
The log of a connection numbers its probes, so that the numbers of the probes
with a DSACK block can be compared.
-/

namespace DpdkTcp

/-- A slot of the ring with a probe that no DSACK block was attributed to. -/
def openProbe : Option RecentProbe → Bool
  | some probe => !probe.attributed
  | none => false

/-! ### What a segment does to the ring -/

/-- An attribution closes one open slot. -/
theorem attributeProbe_closes {blockLeft blockRight : Seq} {windowNs nowNs : ℕ}
    {ring ring' : List (Option RecentProbe)}
    (found : TcpConn.attributeProbe blockLeft blockRight windowNs nowNs ring = some ring') :
    List.Forall₂ (Tickets.Closes openProbe) ring ring' ∧
      ring'.countP openProbe + 1 = ring.countP openProbe := by
  induction ring generalizing ring' with
  | nil => cases found
  | cons slot rest ih =>
      cases slot with
      | none =>
          rcases Option.map_eq_some_iff.mp found with ⟨later, attributed, rfl⟩
          rcases ih attributed with ⟨closes, count⟩
          exact ⟨.cons (.inl rfl) closes, count⟩
      | some probe =>
          dsimp only [TcpConn.attributeProbe] at found
          split at found
          · rename_i fits
            simp only [Bool.and_eq_true, Bool.not_eq_true'] at fits
            have opened : openProbe (some probe) = true := by
              rw [openProbe, fits.1.1.1]
              rfl
            have shut : openProbe (some { probe with attributed := true }) = false := rfl
            cases found
            refine ⟨.cons (.inr ⟨opened, shut⟩) (Tickets.closes_refl rest), ?_⟩
            rw [List.countP_cons_of_pos opened, List.countP_cons_of_neg (by rw [shut]; exact nofun)]
          · rcases Option.map_eq_some_iff.mp found with ⟨later, attributed, rfl⟩
            rcases ih attributed with ⟨closes, count⟩
            refine ⟨.cons (.inl rfl) closes, ?_⟩
            rw [List.countP_cons, List.countP_cons]
            omega

/-- Slots of a ring are closed at most, and at least as many as were counted. -/
structure Attributes (before after : List (Option RecentProbe)) (counted : ℕ) : Prop where
  closes : List.Forall₂ (Tickets.Closes openProbe) before after
  counted : after.countP openProbe + counted ≤ before.countP openProbe

namespace Attributes

theorem refl (ring : List (Option RecentProbe)) : Attributes ring ring 0 :=
  ⟨Tickets.closes_refl ring, Nat.le_refl _⟩

theorem trans {before middle after : List (Option RecentProbe)} {first second : ℕ}
    (left : Attributes before middle first) (right : Attributes middle after second) :
    Attributes before after (first + second) := by
  refine ⟨Tickets.closes_trans left.closes right.closes, ?_⟩
  have bounds := And.intro left.counted right.counted
  omega

end Attributes

theorem attributeDsack_attributes (conn : TcpConn) (left right : Seq) (nowNs : ℕ) :
    Attributes conn.tlpRecentProbes
      (conn.attributeDsackToRecentTlpProbe left right nowNs).1.tlpRecentProbes
      (conn.attributeDsackToRecentTlpProbe left right nowNs).2.toNat := by
  unfold TcpConn.attributeDsackToRecentTlpProbe
  split
  · rename_i ring attributed
    rcases attributeProbe_closes attributed with ⟨closes, count⟩
    exact ⟨closes, Nat.le_of_eq count⟩
  · exact .refl _

theorem absorbSackBlock_attributes {ring : List (Option RecentProbe)} (nowNs : ℕ)
    (block : SackBlock) {pass : SackPass}
    (attributes : Attributes ring pass.conn.tlpRecentProbes pass.txTlpSpuriousCount) :
    Attributes ring (absorbSackBlock nowNs block pass).conn.tlpRecentProbes
      (absorbSackBlock nowNs block pass).txTlpSpuriousCount := by
  dsimp only [absorbSackBlock]
  split
  · exact attributes.trans (attributeDsack_attributes
      { pass.conn with rack := { pass.conn.rack with dsackSeen := true } } block.left block.right
      nowNs)
  · exact attributes

theorem sackPass_attributes (conn : TcpConn) (opts : TcpOpts) (readClock : ℕ → ℕ) :
    Attributes conn.tlpRecentProbes (sackPass conn opts readClock).conn.tlpRecentProbes
      (sackPass conn opts readClock).txTlpSpuriousCount := by
  have absorbed : ∀ (blocks : List SackBlock) (index : ℕ) (pass : SackPass),
      Attributes conn.tlpRecentProbes pass.conn.tlpRecentProbes pass.txTlpSpuriousCount →
      Attributes conn.tlpRecentProbes
        (absorbSackBlocks readClock index blocks pass).conn.tlpRecentProbes
        (absorbSackBlocks readClock index blocks pass).txTlpSpuriousCount := by
    intro blocks
    induction blocks with
    | nil => exact fun _ _ attributes => attributes
    | cons block rest ih =>
        exact fun index pass attributes =>
          ih (index + 1) _ (absorbSackBlock_attributes (readClock index) block attributes)
  unfold sackPass
  split
  · exact absorbed opts.liveSackBlocks 0 { conn := conn } (.refl _)
  · exact .refl _

/-- What a dispatch does to the probes: the budget is given back only if `snd_una` moves,
and DSACK blocks are attributed. -/
structure Heard (conn : TcpConn) (dispatched : Dispatched) : Prop
    extends Attributes conn.tlpRecentProbes dispatched.conn.tlpRecentProbes
      dispatched.outcome.txTlpSpuriousCount where
  limit : dispatched.conn.tlpMaxConsecutiveProbes = conn.tlpMaxConsecutiveProbes
  slot : dispatched.conn.tlpRecentProbesNextSlot = conn.tlpRecentProbesNextSlot
  spent : dispatched.conn.tlpConsecutiveProbesFired = conn.tlpConsecutiveProbesFired ∨
    dispatched.conn.tlpConsecutiveProbesFired = 0 ∧ dispatched.conn.sndUna ≠ conn.sndUna

theorem Heard.silent {conn : TcpConn} {dispatched : Dispatched} (same : dispatched.conn = conn)
    (counted : dispatched.outcome.txTlpSpuriousCount = 0) : Heard conn dispatched := by
  refine ⟨?_, ?_, ?_, ?_⟩
  · rw [counted, same]
    exact .refl _
  · rw [same]
  · rw [same]
  · exact .inl (by rw [same])

theorem handleSynSent_heard (conn : TcpConn) (seg : ParsedSegment) (clock : Readings) :
    Heard conn (handleSynSent conn seg clock) := by
  dsimp only [handleSynSent]
  split
  · split <;> exact .silent rfl rfl
  · split
    · exact .silent rfl rfl
    · split
      · exact .silent rfl rfl
      · split
        · exact .silent rfl rfl
        · split
          · exact .silent rfl rfl
          · rw [maybeSeed_only]
            exact ⟨.refl _, rfl, rfl, .inl rfl⟩

/-- The ACK pass gives the budget back when it moves `snd_una`. -/
theorem ackPass_spent {conn : TcpConn} {seg : ParsedSegment} {opts : TcpOpts}
    {nowNs sendBuf : ℕ} {ack : AckPass}
    (accepted : ackPass conn seg opts nowNs sendBuf = some ack) :
    ack.conn.tlpConsecutiveProbesFired = conn.tlpConsecutiveProbesFired ∨
      ack.conn.tlpConsecutiveProbesFired = 0 ∧ ack.conn.sndUna ≠ conn.sndUna := by
  rcases ackPass_cases accepted with ⟨ahead, _, _, refused, absorbed⟩ | ⟨_, _, _, same⟩
  · refine .inr ⟨?_, ?_⟩
    · rw [absorbed]
      dsimp only [absorbAck, updateWindow]
      split <;> split <;> split <;> rfl
    · intro still
      rw [absorbed] at still
      rw [(absorbAck_sndUna conn seg opts nowNs).symm.trans still] at ahead
      rw [seqLt_self] at ahead
      cases ahead
  · exact .inl (by rw [same])

theorem establishedChecks_uncounted {conn : TcpConn} {seg : ParsedSegment} {outcome : Outcome}
    (refused : establishedChecks conn seg = .error outcome) : outcome.txTlpSpuriousCount = 0 := by
  dsimp only [establishedChecks] at refused
  split at refused
  · cases refused
    rfl
  · split at refused
    · cases refused
      rfl
    · split at refused
      · cases refused
        rfl
      · split at refused
        · cases refused
          rfl
        · split at refused <;> cases refused
          rfl

theorem handleEstablished_heard (conn : TcpConn) (seg : ParsedSegment) (clock : Readings)
    (sendBuf : ℕ) (mbufCtx : Option MbufInsertCtx) :
    Heard conn (handleEstablished conn seg clock sendBuf mbufCtx) := by
  dsimp only [handleEstablished]
  split
  · rename_i outcome refused
    exact .silent rfl (establishedChecks_uncounted refused)
  · rename_i opts checked
    split
    · exact .silent rfl rfl
    · exact .silent rfl rfl
    · rename_i timed expired passed
      rcases paws_passed passed with ⟨tsRecent, tsRecentAge, rfl⟩
      have change := sackPass_change (conn.stamp tsRecent tsRecentAge) opts clock.dsack
      have attributes := sackPass_attributes (conn.stamp tsRecent tsRecentAge) opts clock.dsack
      generalize sackPass (conn.stamp tsRecent tsRecentAge) opts clock.dsack = sack at *
      have same : sack.conn.tlpMaxConsecutiveProbes = conn.tlpMaxConsecutiveProbes ∧
          sack.conn.tlpRecentProbesNextSlot = conn.tlpRecentProbesNextSlot ∧
          sack.conn.tlpConsecutiveProbesFired = conn.tlpConsecutiveProbesFired ∧
          sack.conn.sndUna = conn.sndUna := by
        rw [change.only]
        exact ⟨rfl, rfl, rfl, rfl⟩
      split
      · refine ⟨⟨attributes.closes, ?_⟩, same.1, same.2.1, .inl same.2.2.1⟩
        exact Nat.le_trans (Nat.le_add_right _ _) attributes.counted
      · rename_i ack accepted
        have acked := ackPass_change accepted
        have spent := ackPass_spent accepted
        have data := (deliver_change (rackPass ack.conn clock.rack).1 seg mbufCtx).trans
          (takeFin_change seg (deliver (rackPass ack.conn clock.rack).1 seg mbufCtx))
        dsimp only [establishedData]
        generalize (takeFin seg (deliver (rackPass ack.conn clock.rack).1 seg mbufCtx)).1 = after
          at data ⊢
        have kept : after.tlpRecentProbes = sack.conn.tlpRecentProbes ∧
            after.tlpMaxConsecutiveProbes = sack.conn.tlpMaxConsecutiveProbes ∧
            after.tlpRecentProbesNextSlot = sack.conn.tlpRecentProbesNextSlot ∧
            after.tlpConsecutiveProbesFired = ack.conn.tlpConsecutiveProbesFired ∧
            after.sndUna = ack.conn.sndUna := by
          rw [data.only, rackPass_only]
          refine ⟨?_, ?_, ?_, rfl, rfl⟩ <;> rw [acked.only]
        refine ⟨?_, kept.2.1.trans same.1, kept.2.2.1.trans same.2.1, ?_⟩
        · dsimp only
          rw [kept.1]
          exact attributes
        · dsimp only
          rw [kept.2.2.2.1, kept.2.2.2.2, ← same.2.2.1, ← same.2.2.2]
          exact spent

theorem handleClosePath_heard (conn : TcpConn) (seg : ParsedSegment) (clock : Readings) :
    Heard conn (handleClosePath conn seg clock) := by
  dsimp only [handleClosePath]
  simp only [pawsClosePath_eq]
  split
  · exact .silent rfl rfl
  · split
    · exact .silent rfl rfl
    · split
      · exact .silent rfl rfl
      · split
        · exact .silent rfl rfl
        · split
          · exact .silent rfl rfl
          · rename_i opts options
            split
            · exact .silent rfl rfl
            · exact .silent rfl rfl
            · rename_i timed expired passed
              rcases paws_passed passed with ⟨tsRecent, tsRecentAge, rfl⟩
              have change := sackPass_change (conn.stamp tsRecent tsRecentAge) opts clock.dsack
              have attributes := sackPass_attributes (conn.stamp tsRecent tsRecentAge) opts
                clock.dsack
              generalize sackPass (conn.stamp tsRecent tsRecentAge) opts clock.dsack = sack at *
              rw [closeAdvance_only]
              refine ⟨attributes, ?_, ?_, .inl ?_⟩ <;> dsimp only <;> rw [change.only] <;> rfl

theorem dispatch_heard (conn : TcpConn) (seg : ParsedSegment) (clock : Readings) (sendBuf : ℕ)
    (mbufCtx : Option MbufInsertCtx) : Heard conn (dispatch conn seg clock sendBuf mbufCtx) := by
  unfold dispatch
  split
  · exact handleSynSent_heard conn seg clock
  · exact handleEstablished_heard conn seg clock sendBuf mbufCtx
  · exact handleClosePath_heard conn seg clock
  · exact handleClosePath_heard conn seg clock
  · exact handleClosePath_heard conn seg clock
  · exact handleClosePath_heard conn seg clock
  · exact handleClosePath_heard conn seg clock
  · exact handleClosePath_heard conn seg clock
  · exact .silent rfl rfl
  · exact .silent rfl rfl
  · exact .silent rfl rfl

/-! ### What else happens to the probes -/

/-- What is known of the probes is kept, and a probe timer is armed within the budget. -/
structure SameProbes (before after : TcpConn) : Prop where
  sndUna : after.sndUna = before.sndUna
  limit : after.tlpMaxConsecutiveProbes = before.tlpMaxConsecutiveProbes
  spent : after.tlpConsecutiveProbesFired = before.tlpConsecutiveProbesFired
  ring : after.tlpRecentProbes = before.tlpRecentProbes
  slot : after.tlpRecentProbesNextSlot = before.tlpRecentProbesNextSlot
  timer : after.tlpTimerId = before.tlpTimerId ∨ after.tlpTimerId = none ∨
    after.tlpConsecutiveProbesFired < after.tlpMaxConsecutiveProbes

namespace SameProbes

variable {first second third : TcpConn}

theorem refl (conn : TcpConn) : SameProbes conn conn :=
  ⟨rfl, rfl, rfl, rfl, rfl, .inl rfl⟩

theorem trans (left : SameProbes first second) (right : SameProbes second third) :
    SameProbes first third := by
  refine ⟨right.sndUna.trans left.sndUna, right.limit.trans left.limit,
    right.spent.trans left.spent, right.ring.trans left.ring, right.slot.trans left.slot, ?_⟩
  rcases right.timer with same | none | within
  · rcases left.timer with kept | none | within
    · exact .inl (same.trans kept)
    · exact .inr (.inl (same.trans none))
    · exact .inr (.inr (by rw [right.spent, right.limit]; exact within))
  · exact .inr (.inl none)
  · exact .inr (.inr within)

end SameProbes

/-- The change is a dispatch or a probe. -/
def Edit.setsProbes : Edit → Bool
  | .dispatch .. | .probe .. => true
  | _ => false

theorem Edit.sameProbes {edit : Edit} {conn : TcpConn} (beside : edit.setsProbes = false)
    (alone : edit.Alone conn) : SameProbes conn (edit.apply conn) := by
  cases edit with
  | dispatch | probe => cases beside
  | strike kind id =>
      cases kind with
      | tlp => exact ⟨rfl, rfl, rfl, rfl, rfl, .inr (.inl rfl)⟩
      | rto | synRetrans | apiPublic => exact ⟨rfl, rfl, rfl, rfl, rfl, .inl rfl⟩
  | forget | arm | insert => exact alone.elim
  | _ => exact ⟨rfl, rfl, rfl, rfl, rfl, .inl rfl⟩

/-- The connection has sent no probe yet. -/
structure Unprobed (conn : TcpConn) : Prop where
  limit : conn.tlpMaxConsecutiveProbes ≤ 255
  spent : conn.tlpConsecutiveProbesFired = 0
  ring : conn.tlpRecentProbes = List.replicate 5 none
  slot : conn.tlpRecentProbesNextSlot = 0
  timer : conn.tlpTimerId = none ∨ 0 < conn.tlpMaxConsecutiveProbes

theorem Unprobed.same {before after : TcpConn} (unprobed : Unprobed before)
    (same : SameProbes before after) : Unprobed after := by
  refine ⟨by rw [same.limit]; exact unprobed.limit, same.spent.trans unprobed.spent,
    same.ring.trans unprobed.ring, same.slot.trans unprobed.slot, ?_⟩
  rcases same.timer with kept | none | within
  · rw [kept, same.limit]
    exact unprobed.timer
  · exact .inl none
  · exact .inr (by omega)

namespace Engine

/-- The connection of a handle is the one before, with the probes it had, or a new one. -/
def KeepsProbes (handle : ConnHandle) (before after : Engine) (conn : TcpConn) : Prop :=
  (after.record.incarnation handle = before.record.incarnation handle ∧
      ∃ earlier, before.flowTable.get handle = some earlier ∧ SameProbes earlier conn) ∨
    before.record.incarnation handle < after.record.incarnation handle ∧ Unprobed conn

variable {allowed : Edit → Prop} {handle : ConnHandle} {before after : Engine} {conn : TcpConn}

/-- What deeds other than dispatches and probes keep of the probes. -/
theorem carriesProbes (bars : ∀ edit, allowed edit → edit.setsProbes = false)
    (limits : ∀ opts, allowed (.insert opts) → opts.tlpMaxConsecutiveProbes ≤ 255) :
    Carries allowed SameProbes Unprobed where
  refl := .refl
  trans := .trans
  edit := fun isAllowed alone => Edit.sameProbes (bars _ isAllowed) alone
  arm := by
    intro conn kind id gate
    cases kind with
    | tlp =>
        have passes := gate rfl
        simp only [TcpConn.tlpArmGatePasses, Bool.and_eq_true, decide_eq_true_eq] at passes
        exact ⟨rfl, rfl, rfl, rfl, rfl, .inr (.inr passes.1.1.2)⟩
    | rto | synRetrans | apiPublic => exact ⟨rfl, rfl, rfl, rfl, rfl, .inl rfl⟩
  stop := by
    intro conn kind id _
    cases kind with
    | tlp => exact ⟨rfl, rfl, rfl, rfl, rfl, .inr (.inl rfl)⟩
    | rto | synRetrans | apiPublic => exact ⟨rfl, rfl, rfl, rfl, rfl, .inl rfl⟩
  forget := fun _ _ => ⟨rfl, rfl, rfl, rfl, rfl, .inl rfl⟩
  insert := by
    intro engine tuple iss ourMss opts nowNs isAllowed
    have small := limits opts isAllowed
    refine ⟨?_, rfl, rfl, rfl, .inl rfl⟩
    dsimp only [connecting]
    split
    · decide
    · exact small
  new := fun unprobed same => unprobed.same same

theorem Work.keepsProbes (bars : ∀ edit, allowed edit → edit.setsProbes = false)
    (limits : ∀ opts, allowed (.insert opts) → opts.tlpMaxConsecutiveProbes ≤ 255)
    (work : Work allowed before after) {other : ConnHandle}
    (live : after.flowTable.get other = some conn) : KeepsProbes other before after conn :=
  work.carried (carriesProbes bars limits) live

/-- `retransmit` updates at most the entry it was asked for. -/
theorem retransmit_entries (engine : Engine) (handle : ConnHandle)
    (present : engine.flowTable.get handle = some conn) (index : ℕ) (env : RetransmitEnv) :
    ∃ retrans, (engine.retransmit handle index env).flowTable.get handle =
        some { conn with sndRetrans := retrans } ∧
      retrans.entries.length = conn.sndRetrans.entries.length := by
  have unsent : TxChange engine (engine.retransmit handle index env) →
      ∃ retrans, (engine.retransmit handle index env).flowTable.get handle =
          some { conn with sndRetrans := retrans } ∧
        retrans.entries.length = conn.sndRetrans.entries.length := by
    intro change
    refine ⟨conn.sndRetrans, ?_, rfl⟩
    rw [change.flowTable]
    exact present
  rcases retransmit_cases engine handle index env with
    ⟨change, _⟩ | ⟨_, entry, _, _, _, ⟨change, _⟩ | ⟨_, pushed, change, sent⟩⟩
  · exact unsent change
  · exact unsent change
  · rw [sent]
    have there : pushed.flowTable.get handle = some conn := by
      rw [change.flowTable]
      exact present
    refine ⟨_, (Deeds.get_modifyConn there _ handle).trans (if_pos rfl), ?_⟩
    exact List.length_modify ..

/-- The handler of a probe timer that finds an unacknowledged entry sends a probe. -/
theorem onTlpFire_probes (engine : Engine) (handle : ConnHandle) {firedId : TimerId}
    (present : engine.flowTable.get handle = some conn) (own : conn.tlpTimerId = some firedId)
    (waiting : conn.sndRetrans.isEmpty = false) (env : RetransmitEnv) (nowNs : ℕ) :
    ∃ after seq len, (engine.onTlpFire handle firedId env nowNs).flowTable.get handle =
        some after ∧
      SameProbes ({ conn with tlpTimerId := none }.onTlpProbeFired seq len nowNs) after := by
  have selected : ∃ probe, selectProbe (!conn.snd.pending.isEmpty) true = some probe := by
    unfold selectProbe
    rw [if_neg (by rintro ⟨⟩)]
    split <;> exact ⟨_, rfl⟩
  rcases selected with ⟨probe, selected⟩
  dsimp only [onTlpFire]
  rw [present]
  dsimp only
  rw [if_neg (not_not.mpr own), waiting, Bool.not_false, selected]
  dsimp only
  have last : conn.sndRetrans.entries.length - 1 < conn.sndRetrans.entries.length := by
    have unacked : conn.sndRetrans.entries ≠ [] := List.isEmpty_eq_false_iff.mp waiting
    have positive := List.length_pos_iff.mpr unacked
    omega
  generalize conn.sndRetrans.entries.length - 1 = index at last ⊢
  have cleared := (Deeds.get_modifyConn present (fun conn =>
    { conn.withoutTimer firedId with tlpTimerId := none }) handle).trans (if_pos rfl)
  rcases retransmit_entries _ handle cleared index env with ⟨retrans, there, length⟩
  have inside : index < retrans.entries.length := length.symm ▸ last
  generalize (engine.modifyConn handle fun conn =>
    { conn.withoutTimer firedId with tlpTimerId := none }).retransmit handle index env = probed
    at there ⊢
  generalize sent_eq : { { conn.withoutTimer firedId with tlpTimerId := none } with
    sndRetrans := retrans } = sent at there
  have entries : sent.sndRetrans = retrans := by
    rw [← sent_eq]
  generalize recorded_eq : probed.modifyConn handle _ = recordedEngine
  have recorded : recordedEngine.flowTable.get handle =
      some (sent.onTlpProbeFired retrans.entries[index].seq retrans.entries[index].len nowNs) := by
    rw [← recorded_eq]
    refine ((Deeds.get_modifyConn there _ handle).trans (if_pos rfl)).trans ?_
    rw [entries, List.getElem?_eq_getElem inside]
  refine ⟨_, retrans.entries[index].seq, retrans.entries[index].len, Eq.trans ?_ recorded, ?_⟩
  rotate_left
  · rw [← sent_eq]
    exact ⟨rfl, rfl, rfl, rfl, rfl, .inl rfl⟩
  refine congrArg (FlowTable.get · handle) ?_
  split
  · exact (pushEvent_change _ _).flowTable.trans (reportRetrans_flowTable _ _ _ _)
  · rfl

end Engine

/-! ### The log of the probes -/

/-- The probes of a connection: how many fired, how many of them since `snd_una` moved last, the
numbers of those in the ring and of those with a DSACK block, and how many DSACK blocks
`tx_tlp_spurious` counted. -/
structure ProbeLog where
  fired : ℕ := 0
  sinceAdvance : ℕ := 0
  numbers : List (Option ℕ) := List.replicate 5 none
  attributed : List ℕ := []
  spurious : ℕ := 0

/-- The log after a step: whether a probe fired, what a segment left of the ring, and whether
`snd_una` moved. -/
def ProbeLog.after (log : ProbeLog) (conn : TcpConn) (fires : Bool) (heard : Dispatched)
    (advanced : Bool) : ProbeLog :=
  { fired := log.fired + fires.toNat
    sinceAdvance := if advanced then 0 else log.sinceAdvance + fires.toNat
    numbers :=
      if fires then log.numbers.set conn.tlpRecentProbesNextSlot (some log.fired) else log.numbers
    attributed :=
      log.attributed ++
        Tickets.closed openProbe log.numbers conn.tlpRecentProbes heard.conn.tlpRecentProbes
    spurious := log.spurious + heard.outcome.txTlpSpuriousCount }

namespace Host

/-- The handler that runs is that of the probe timer of the connection, which has an
unacknowledged segment. -/
def probes (host : Host) (op : ApiOp) (handle : ConnHandle) (conn : TcpConn) : Bool :=
  match op with
  | .system (.call (.fireNext _)) =>
      host.pending.head?.any fun fired =>
        decide (fired.2.kind = .tlp ∧ fired.2.ownerHandle = handle ∧
          conn.tlpTimerId = some fired.1) && !conn.sndRetrans.isEmpty
  | _ => false

/-- The dispatch of the segment of the connection. -/
def hears (host : Host) (op : ApiOp) (handle : ConnHandle) (conn : TcpConn) : Dispatched :=
  match op with
  | .system (.call (.segment target seg mbufCtx env)) =>
      if target = handle then
        dispatch conn seg env.clock host.engine.cfg.sendBufferBytes mbufCtx
      else { conn := conn, outcome := Outcome.none }
  | _ => { conn := conn, outcome := Outcome.none }

end Host

/-- A host with the log of the connection of each handle. -/
structure ProbeRun where
  host : Host
  log : ConnHandle → ProbeLog

namespace ProbeRun

/-- A host without connections that has sent no probe. -/
def start (cfg : EngineConfig) (maxConnections eventSoftCap : ℕ) : ProbeRun :=
  { host := Host.start cfg maxConnections eventSoftCap
    log := fun _ => {} }

/-- The log of a handle after a step; a new connection starts a new one. -/
def logAfter (run : ProbeRun) (op : ApiOp) (handle : ConnHandle) : ProbeLog :=
  let after := (run.host.apiStep op).engine
  if after.record.incarnation handle ≠ run.host.engine.record.incarnation handle then {}
  else
    match run.host.engine.flowTable.get handle with
    | none => run.log handle
    | some conn =>
        (run.log handle).after conn (run.host.probes op handle conn)
          (run.host.hears op handle conn)
          ((after.flowTable.get handle).any fun later => later.sndUna ≠ conn.sndUna)

/-- One step of a host, with what it probes. -/
def step (run : ProbeRun) (op : ApiOp) : ProbeRun :=
  { host := run.host.apiStep op
    log := run.logAfter op }

/-- The engine is not dropped, a round handles its fired timers before anything else, and the
probe budget of a new connection fits a `u8`. -/
def admits (run : ProbeRun) (op : ApiOp) : Bool :=
  op.running && run.host.inRound op &&
    match op with
    | .system (.call (.connect _ _ _ opts ..)) => decide (opts.tlpMaxConsecutiveProbes ≤ 255)
    | _ => true

end ProbeRun

/-- No probe has two DSACK blocks, and no more blocks were counted than probes have one. -/
structure ProbeLog.Sound (log : ProbeLog) : Prop where
  once : log.attributed.Nodup
  given : ∀ number ∈ log.attributed, number < log.fired
  counted : log.spurious ≤ log.attributed.length

/-- The log agrees with the connection, which keeps to its budget. -/
structure ProbeLog.Fits (log : ProbeLog) (conn : TcpConn) : Prop where
  budget : log.sinceAdvance ≤ conn.tlpConsecutiveProbesFired
  spent : conn.tlpConsecutiveProbesFired ≤ conn.tlpMaxConsecutiveProbes
  armed : conn.tlpTimerId = none ∨ conn.tlpConsecutiveProbesFired < conn.tlpMaxConsecutiveProbes
  limit : conn.tlpMaxConsecutiveProbes ≤ 255
  slot : conn.tlpRecentProbesNextSlot < conn.tlpRecentProbes.length
  tickets : Tickets.Issued openProbe log.numbers conn.tlpRecentProbes log.fired log.attributed

theorem ProbeLog.sound_start : ({} : ProbeLog).Sound :=
  ⟨List.nodup_nil, nofun, Nat.le_refl _⟩

theorem Unprobed.fits {conn : TcpConn} (unprobed : Unprobed conn) : ({} : ProbeLog).Fits conn := by
  refine ⟨Nat.zero_le _, ?_, ?_, unprobed.limit, ?_, ?_⟩
  · rw [unprobed.spent]
    exact Nat.zero_le _
  · rw [unprobed.spent]
    exact unprobed.timer
  · rw [unprobed.slot, unprobed.ring]
    decide
  · rw [unprobed.ring]
    exact Tickets.Issued.start 5 rfl

namespace ProbeLog.Fits

variable {log : ProbeLog} {conn middle after : TcpConn}

/-- What keeps the probes keeps the agreement. -/
theorem same (fits : log.Fits conn) (kept : SameProbes conn after) : log.Fits after := by
  refine ⟨by rw [kept.spent]; exact fits.budget, by rw [kept.spent, kept.limit]; exact fits.spent,
    ?_, by rw [kept.limit]; exact fits.limit, by rw [kept.slot, kept.ring]; exact fits.slot,
    by rw [kept.ring]; exact fits.tickets⟩
  rcases kept.timer with same | none | within
  · rw [same, kept.spent, kept.limit]
    exact fits.armed
  · exact .inl none
  · exact .inr within

/-- A segment attributes DSACK blocks; the budget is given back if `snd_una` moves. -/
theorem hear (fits : log.Fits conn) {heard : Dispatched} (hears : Heard conn heard)
    (timer : heard.conn.tlpTimerId = conn.tlpTimerId) (kept : SameProbes heard.conn after)
    {advanced : Bool} (still : advanced = false → after.sndUna = conn.sndUna) :
    (log.after conn false heard advanced).Fits after := by
  have less : heard.conn.tlpConsecutiveProbesFired ≤ conn.tlpConsecutiveProbesFired := by
    rcases hears.spent with same | ⟨zero, _⟩
    · exact Nat.le_of_eq same
    · rw [zero]
      exact Nat.zero_le _
  have limit := hears.limit
  refine same ⟨?_, ?_, ?_, ?_, ?_, ?_⟩ kept
  · dsimp only [ProbeLog.after]
    cases advanced with
    | true => exact Nat.zero_le _
    | false =>
        rcases hears.spent with same | ⟨_, moved⟩
        · rw [same]
          exact fits.budget
        · exact absurd (kept.sndUna.symm.trans (still rfl)) moved
  · rw [limit]
    exact less.trans fits.spent
  · rw [timer, limit]
    exact fits.armed.imp_right fun within => Nat.lt_of_le_of_lt less within
  · rw [limit]
    exact fits.limit
  · rw [hears.slot, ← hears.closes.length_eq]
    exact fits.slot
  · exact fits.tickets.close hears.closes

/-- A probe takes a part of the budget and the next slot of the ring. -/
theorem probe (fits : log.Fits conn) {firedId : TimerId} (own : conn.tlpTimerId = some firedId)
    {seq : Seq} {len nowNs : ℕ}
    (kept : SameProbes ({ conn with tlpTimerId := none }.onTlpProbeFired seq len nowNs) after)
    (advanced : Bool) : (log.after conn true ⟨conn, Outcome.none, []⟩ advanced).Fits after := by
  have within : conn.tlpConsecutiveProbesFired < conn.tlpMaxConsecutiveProbes := by
    rcases fits.armed with none | within
    · rw [own] at none
      cases none
    · exact within
  have limit := fits.limit
  have budget := fits.budget
  have probed : (log.after conn true ⟨conn, Outcome.none, []⟩ advanced).Fits
      ({ conn with tlpTimerId := none }.onTlpProbeFired seq len nowNs) := by
    refine ⟨?_, ?_, .inl rfl, limit, ?_, ?_⟩
    · dsimp only [ProbeLog.after, TcpConn.onTlpProbeFired]
      rw [Bool.toNat_true]
      split <;> omega
    · dsimp only [TcpConn.onTlpProbeFired]
      omega
    · dsimp only [TcpConn.onTlpProbeFired]
      rw [List.length_set]
      exact Nat.mod_lt _ (Nat.zero_lt_of_lt fits.slot)
    · have nothing : Tickets.closed openProbe log.numbers conn.tlpRecentProbes
          conn.tlpRecentProbes = [] := by
        have count := fits.tickets.length_close (Tickets.closes_refl conn.tlpRecentProbes)
        exact List.eq_nil_of_length_eq_zero (by omega)
      dsimp only [ProbeLog.after, TcpConn.onTlpProbeFired]
      rw [nothing, List.append_nil, if_pos rfl]
      exact fits.tickets.issue conn.tlpRecentProbesNextSlot _
  exact probed.same kept

end ProbeLog.Fits

/-- A log that agrees with a connection stays sound in every step. -/
theorem ProbeLog.Sound.after {log : ProbeLog} (sound : log.Sound) {conn : TcpConn}
    (fits : log.Fits conn) {heard : Dispatched} (hears : Heard conn heard) (fires advanced : Bool) :
    (log.after conn fires heard advanced).Sound := by
  have closed := fits.tickets.close hears.closes
  have length := fits.tickets.length_close hears.closes
  have counted := hears.counted
  have before := sound.counted
  refine ⟨closed.once, fun number member => ?_, ?_⟩
  · exact Nat.lt_of_lt_of_le (closed.usedGiven number member) (Nat.le_add_right _ _)
  · dsimp only [ProbeLog.after]
    rw [List.length_append]
    omega

/-! ### What a step does to the probes -/

namespace Engine

/-- Edits beside dispatches and probes, and connections with a budget that fits a `u8`. -/
def besideProbes (edit : Edit) : Prop :=
  edit.setsProbes = false ∧ ∀ opts, edit = .insert opts → opts.tlpMaxConsecutiveProbes ≤ 255

theorem besideProbes_of_plain (edit : Edit) (plain : edit.plain = true) : besideProbes edit := by
  refine ⟨?_, ?_⟩
  · cases edit with
    | dispatch | probe => cases plain
    | _ => rfl
  · rintro opts rfl
    cases plain

theorem Work.keepsProbes' {before after : Engine} (work : Work besideProbes before after)
    {handle : ConnHandle} {conn : TcpConn} (live : after.flowTable.get handle = some conn) :
    KeepsProbes handle before after conn :=
  work.keepsProbes (fun _ beside => beside.1) (fun opts beside => beside.2 opts rfl) live

theorem keepsProbes_of_others {handle other : ConnHandle} {before after : Engine}
    (deeds : Deeds (fun edit => ∀ opts, edit ≠ .insert opts) handle before after)
    (differs : other ≠ handle) {conn : TcpConn} (live : after.flowTable.get other = some conn) :
    before.KeepsProbes other after conn :=
  .inl ⟨deeds.work.incarnation (fun opts isAllowed => isAllowed opts rfl) other, conn,
    (deeds.others differs).symm.trans live, .refl conn⟩

/-- Without a probe the handler of the probe timer keeps what is known of the probes. -/
theorem onTlpFire_keepsProbes (engine : Engine) {handle : ConnHandle} {conn : TcpConn}
    (present : engine.flowTable.get handle = some conn) {firedId : TimerId}
    (idle : conn.tlpTimerId = some firedId → conn.sndRetrans.isEmpty = true)
    (env : RetransmitEnv) (nowNs : ℕ) {after : TcpConn}
    (live : (engine.onTlpFire handle firedId env nowNs).flowTable.get handle = some after) :
    SameProbes conn after := by
  dsimp only [onTlpFire] at live
  rw [present] at live
  dsimp only at live
  split at live
  · rw [present] at live
    cases live
    exact .refl conn
  · rename_i own
    rw [idle (of_not_not own), show selectProbe (!conn.snd.pending.isEmpty) (!true) = none from rfl]
      at live
    have cleared := ((Deeds.get_modifyConn present _ handle).trans (if_pos rfl)).symm.trans live
    cases cleared
    exact ⟨rfl, rfl, rfl, rfl, rfl, .inr (.inl rfl)⟩

end Engine

namespace Host

variable {host : Host} {handle : ConnHandle} {conn : TcpConn}

/-- A step that is no segment for the connection and no probe keeps what is known of the probes. -/
theorem step_keepsProbes {op : EngineOp}
    (limits : ∀ tuple iss ourMss opts synSent nowNs,
      op = .connect tuple iss ourMss opts synSent nowNs → opts.tlpMaxConsecutiveProbes ≤ 255)
    (beside : ∀ seg mbufCtx env, op ≠ .segment handle seg mbufCtx env)
    (silent : ∀ earlier, host.engine.flowTable.get handle = some earlier →
      host.probes (.system (.call op)) handle earlier = false)
    (live : (host.step op).engine.flowTable.get handle = some conn) :
    host.engine.KeepsProbes handle (host.step op).engine conn := by
  have worked : (∀ nowNs, op ≠ .advance nowNs) →
      (∀ edit, host.permits op edit = true → edit.setsProbes = false) →
      host.engine.KeepsProbes handle (host.step op).engine conn := by
    intro still bars
    refine (host.step_work still).keepsProbes bars (fun opts inserting => ?_) live
    cases op with
    | connect tuple iss ourMss given synSent nowNs =>
        have same : opts = given := of_decide_eq_true inserting
        rw [same]
        exact limits _ _ _ _ _ _ rfl
    | _ => cases inserting
  have quiet : (∀ seg target mbufCtx env, op ≠ .segment target seg mbufCtx env) →
      (∀ env, op ≠ .fireNext env) →
      ∀ edit, host.permits op edit = true → edit.setsProbes = false := by
    intro notSegment notFire edit permitted
    cases edit with
    | dispatch =>
        cases op with
        | segment target seg mbufCtx env => exact absurd rfl (notSegment seg target mbufCtx env)
        | _ => cases permitted
    | probe =>
        cases op with
        | fireNext env => exact absurd rfl (notFire env)
        | _ => cases permitted
    | _ => rfl
  cases op with
  | advance nowNs => exact .inl ⟨rfl, conn, live, .refl conn⟩
  | segment target seg mbufCtx env =>
      have deeds : Engine.Deeds (fun edit => ∀ opts, edit ≠ .insert opts) target host.engine
          (host.engine.tcpInput target seg mbufCtx env) :=
        Engine.tcpInput_deeds Edit.ne_insert_of_plain host.engine target (by rintro _ _ ⟨⟩)
          (by rintro _ _ _ _ _ ⟨⟩) (by rintro _ _ ⟨⟩) (by rintro _ _ _ ⟨⟩) (by rintro _ _ _ ⟨⟩) seg mbufCtx env
      exact Engine.keepsProbes_of_others deeds
        (fun same => beside seg mbufCtx env (by rw [same])) live
  | fireNext env =>
      dsimp only [Host.step] at live ⊢
      cases next : host.pending with
      | nil =>
          rw [next] at live
          exact .inl ⟨rfl, conn, live, .refl conn⟩
      | cons fired rest =>
          rcases fired with ⟨id, node⟩
          rw [next] at live
          dsimp only at live ⊢
          have deeds : Engine.Deeds (fun edit => ∀ opts, edit ≠ .insert opts) node.ownerHandle
              host.engine (host.engine.fireTimer id node env) :=
            Engine.fireTimer_deeds Edit.ne_insert_of_plain host.engine node (by rintro _ ⟨⟩)
              (by rintro _ _ _ _ _ ⟨⟩) env
          by_cases owner : handle = node.ownerHandle
          · by_cases kind : node.kind = .tlp
            · refine .inl ⟨deeds.work.incarnation (fun opts isAllowed => isAllowed opts rfl) _, ?_⟩
              rw [Engine.fireTimer, kind, ← owner] at live
              dsimp only at live
              cases present : host.engine.flowTable.get handle with
              | none =>
                  rw [Engine.onTlpFire, present] at live
                  exact absurd (present.symm.trans live) (by rintro ⟨⟩)
              | some earlier =>
                  have unsent := silent earlier present
                  rw [probes, next, List.head?_cons, Option.any_some, Bool.and_eq_false_iff,
                    decide_eq_false_iff_not, Bool.not_eq_false'] at unsent
                  refine ⟨earlier, rfl, host.engine.onTlpFire_keepsProbes present ?_ env.tlp
                    env.nowNs live⟩
                  intro own
                  exact unsent.resolve_left fun other => other ⟨kind, owner.symm, own⟩
            · have kept := worked (by rintro _ ⟨⟩) fun edit permitted => by
                cases edit with
                | probe =>
                    rw [permits, next, List.head?_cons, Option.any_some, decide_eq_true_eq]
                      at permitted
                    exact absurd permitted kind
                | dispatch => cases permitted
                | _ => rfl
              dsimp only [Host.step] at kept
              rw [next] at kept
              exact kept
          · exact Engine.keepsProbes_of_others deeds owner live
  | connect | send | close | flush | reap | twSkip => exact worked (by rintro _ ⟨⟩) (quiet (by rintro _ _ _ _ ⟨⟩) (by rintro _ ⟨⟩))

theorem apiStep_keepsProbes {op : ApiOp} (running : op.running = true)
    (limits : ∀ tuple iss ourMss opts synSent nowNs,
      op = .system (.call (.connect tuple iss ourMss opts synSent nowNs)) →
        opts.tlpMaxConsecutiveProbes ≤ 255)
    (beside : ∀ seg mbufCtx env, op ≠ .system (.call (.segment handle seg mbufCtx env)))
    (silent : ∀ earlier, host.engine.flowTable.get handle = some earlier →
      host.probes op handle earlier = false)
    (live : (host.apiStep op).engine.flowTable.get handle = some conn) :
    host.engine.KeepsProbes handle (host.apiStep op).engine conn := by
  cases op with
  | system op =>
      cases op with
      | call op =>
          refine step_keepsProbes ?_ ?_ silent live
          · rintro tuple iss ourMss opts synSent nowNs rfl
            exact limits _ _ _ _ _ _ rfl
          · rintro seg mbufCtx env rfl
            exact beside seg mbufCtx env rfl
      | complete index =>
          have freed : Engine.Deeds (fun edit => ∀ opts, edit ≠ .insert opts) (handle + 1)
              host.engine (host.engine.completeFrame index) := Engine.completeFrame_deeds _ _ index
          exact Engine.keepsProbes_of_others freed (Nat.ne_of_lt (Nat.lt_succ_self handle)) live
      | drainEvents max => exact .inl ⟨rfl, conn, live, .refl conn⟩
      | drop => cases running
  | timerAdd deadlineNs userData nowNs => exact .inl ⟨rfl, conn, live, .refl conn⟩
  | timerCancel id => exact .inl ⟨rfl, conn, live, .refl conn⟩

/-- A segment is dispatched, and what follows keeps what is known of the probes. -/
theorem segment_keepsProbes {seg : ParsedSegment} {mbufCtx : Option MbufInsertCtx} {env : InputEnv}
    {earlier : TcpConn} (present : host.engine.flowTable.get handle = some earlier)
    (same : (host.step (.segment handle seg mbufCtx env)).engine.record.incarnation handle =
      host.engine.record.incarnation handle)
    (live : (host.step (.segment handle seg mbufCtx env)).engine.flowTable.get handle =
      some conn) :
    SameProbes (dispatch earlier seg env.clock host.engine.cfg.sendBufferBytes mbufCtx).conn
      conn := by
  have deeds := Engine.tcpInput_dispatched Engine.besideProbes_of_plain host.engine handle
    (fun _ => ⟨rfl, nofun⟩) (fun _ => ⟨rfl, nofun⟩) (fun _ _ => ⟨rfl, nofun⟩) present
    (fun _ _ => ⟨rfl, nofun⟩) seg mbufCtx env
  rcases deeds with ⟨middle, written, _, record, deeds⟩
  have counted : middle.record.incarnation handle = host.engine.record.incarnation handle :=
    congrArg (List.count handle) (congrArg Prod.snd record)
  rcases deeds.work.keepsProbes' live with ⟨_, found, there, kept⟩ | ⟨newer, _⟩
  · rw [written, if_pos rfl] at there
    cases there
    exact kept
  · exact absurd (counted.trans same.symm) (Nat.ne_of_lt newer)

theorem fireNext_of_probes {op : ApiOp} {earlier : TcpConn}
    (fires : host.probes op handle earlier = true) :
    ∃ env, op = .system (.call (.fireNext env)) := by
  unfold probes at fires
  split at fires
  · exact ⟨_, rfl⟩
  · cases fires

theorem hears_heard (host : Host) (op : ApiOp) (handle : ConnHandle) (conn : TcpConn) :
    Heard conn (host.hears op handle conn) := by
  unfold hears
  split
  · split
    · exact dispatch_heard conn _ _ _ _
    · exact .silent rfl rfl
  · exact .silent rfl rfl

/-- A probe is sent by the handler of the probe timer. -/
theorem fire_probes {env : FireEnv} {earlier : TcpConn}
    (present : host.engine.flowTable.get handle = some earlier)
    (fires : host.probes (.system (.call (.fireNext env))) handle earlier = true)
    (live : (host.step (.fireNext env)).engine.flowTable.get handle = some conn) :
    ∃ id seq len, earlier.tlpTimerId = some id ∧
      SameProbes ({ earlier with tlpTimerId := none }.onTlpProbeFired seq len env.nowNs) conn := by
  rcases (Option.any_eq_true _ _).mp fires with ⟨⟨id, node⟩, next, probing⟩
  rcases Bool.and_eq_true_iff.mp probing with ⟨due, waiting⟩
  rcases of_decide_eq_true due with ⟨kind, owner, own⟩
  have unacked : earlier.sndRetrans.isEmpty = false := Bool.not_eq_true' _ |>.mp waiting
  rcases List.head?_eq_some_iff.mp next with ⟨rest, pending⟩
  dsimp only [Host.step] at live
  rw [pending] at live
  dsimp only at live
  rw [Engine.fireTimer, kind, owner] at live
  dsimp only at live
  rcases host.engine.onTlpFire_probes handle present own unacked env.tlp env.nowNs with
    ⟨after, seq, len, found, kept⟩
  rw [found] at live
  cases live
  exact ⟨id, seq, len, own, kept⟩

end Host

namespace ProbeRun

variable {run : ProbeRun}

/-- The logs are sound and agree with the live connections. -/
def Logged (run : ProbeRun) : Prop :=
  ∀ handle, (run.log handle).Sound ∧
    ∀ conn, run.host.engine.flowTable.get handle = some conn → (run.log handle).Fits conn

theorem running_of_admits {op : ApiOp} (admitted : run.admits op = true) : op.running = true :=
  (Bool.and_eq_true_iff.mp (Bool.and_eq_true_iff.mp admitted).1).1

theorem limits_of_admits {op : ApiOp} (admitted : run.admits op = true) (tuple : FourTuple)
    (iss : Seq) (ourMss : UInt16) (opts : ConnectOpts) (synSent : Bool) (nowNs : ℕ)
    (connects : op = .system (.call (.connect tuple iss ourMss opts synSent nowNs))) :
    opts.tlpMaxConsecutiveProbes ≤ 255 := by
  subst connects
  exact of_decide_eq_true (Bool.and_eq_true_iff.mp admitted).2

/-- A connection that a step opens starts with an empty log. -/
theorem fits_opened {op : ApiOp} (admitted : run.admits op = true) {handle : ConnHandle}
    (opened : (run.host.apiStep op).engine.record.incarnation handle ≠
      run.host.engine.record.incarnation handle) {conn : TcpConn}
    (live : (run.host.apiStep op).engine.flowTable.get handle = some conn) :
    ({} : ProbeLog).Fits conn := by
  -- neither a segment nor a handler opens a connection
  have kept : run.host.engine.KeepsProbes handle (run.host.apiStep op).engine conn := by
    refine Host.apiStep_keepsProbes (running_of_admits admitted) (limits_of_admits admitted) ?_ ?_
      live
    · rintro seg mbufCtx env rfl
      exact opened (@Host.step_incarnation run.host (.segment handle seg mbufCtx env)
        (fun _ _ _ _ _ _ => nofun) handle)
    · intro earlier present
      cases fires : run.host.probes op handle earlier with
      | false => rfl
      | true =>
          rcases Host.fireNext_of_probes fires with ⟨env, rfl⟩
          exact absurd (@Host.step_incarnation run.host (.fireNext env)
            (fun _ _ _ _ _ _ => nofun) handle) opened
  rcases kept with ⟨same, _⟩ | ⟨_, fresh⟩
  · exact absurd same opened
  · exact fresh.fits

/-- Where no connection was and none was opened, there is none. -/
theorem absent_of_absent {op : ApiOp} (admitted : run.admits op = true) {handle : ConnHandle}
    (incarnation : (run.host.apiStep op).engine.record.incarnation handle =
      run.host.engine.record.incarnation handle)
    (absent : run.host.engine.flowTable.get handle = none) :
    (run.host.apiStep op).engine.flowTable.get handle = none := by
  cases live : (run.host.apiStep op).engine.flowTable.get handle with
  | none => rfl
  | some conn =>
      have kept : run.host.engine.KeepsProbes handle (run.host.apiStep op).engine conn := by
        refine Host.apiStep_keepsProbes (running_of_admits admitted) (limits_of_admits admitted)
          ?_ ?_ live
        · rintro seg mbufCtx env rfl
          have gone : (run.host.engine.tcpInput handle seg mbufCtx env).flowTable.get handle =
              some conn := live
          rw [Engine.tcpInput_absent absent, absent] at gone
          cases gone
        · intro earlier found
          rw [absent] at found
          cases found
      rcases kept with ⟨_, earlier, found, _⟩ | ⟨newer, _⟩
      · rw [absent] at found
        cases found
      · exact absurd incarnation.symm (Nat.ne_of_lt newer)

/-- The log of a connection that stays agrees with it after the step. -/
theorem fits_after {op : ApiOp} (admitted : run.admits op = true) {handle : ConnHandle}
    (incarnation : (run.host.apiStep op).engine.record.incarnation handle =
      run.host.engine.record.incarnation handle) {earlier conn : TcpConn} {log : ProbeLog}
    (present : run.host.engine.flowTable.get handle = some earlier) (agrees : log.Fits earlier)
    (live : (run.host.apiStep op).engine.flowTable.get handle = some conn) :
    (log.after earlier (run.host.probes op handle earlier) (run.host.hears op handle earlier)
      (decide (conn.sndUna ≠ earlier.sndUna))).Fits conn := by
  by_cases own : ∃ seg mbufCtx env, op = .system (.call (.segment handle seg mbufCtx env))
  · rcases own with ⟨seg, mbufCtx, env, rfl⟩
    have kept := Host.segment_keepsProbes present incarnation live
    have hears := dispatch_heard earlier seg env.clock run.host.engine.cfg.sendBufferBytes mbufCtx
    dsimp only [Host.hears, Host.probes]
    rw [if_pos rfl]
    refine agrees.hear hears (dispatch_tlpTimerId earlier seg env.clock _ mbufCtx) kept ?_
    exact fun still => not_not.mp (of_decide_eq_false still)
  · have beside : ∀ seg mbufCtx env, op ≠ .system (.call (.segment handle seg mbufCtx env)) :=
      fun seg mbufCtx env same => own ⟨seg, mbufCtx, env, same⟩
    have unheard : run.host.hears op handle earlier = ⟨earlier, Outcome.none, []⟩ := by
      unfold Host.hears
      split
      · refine if_neg fun target => ?_
        subst target
        exact beside _ _ _ rfl
      · rfl
    rw [unheard]
    cases fires : run.host.probes op handle earlier with
    | true =>
        rcases Host.fireNext_of_probes fires with ⟨env, rfl⟩
        rcases Host.fire_probes present fires live with ⟨id, seq, len, timer, kept⟩
        exact agrees.probe timer kept _
    | false =>
        have kept : run.host.engine.KeepsProbes handle (run.host.apiStep op).engine conn := by
          refine Host.apiStep_keepsProbes (running_of_admits admitted) (limits_of_admits admitted)
            beside ?_ live
          intro found there
          rw [present] at there
          cases there
          exact fires
        rcases kept with ⟨_, found, there, kept⟩ | ⟨newer, _⟩
        · rw [present] at there
          cases there
          have silent : Heard earlier ⟨earlier, Outcome.none, []⟩ := .silent rfl rfl
          exact agrees.hear silent rfl kept fun still => not_not.mp (of_decide_eq_false still)
        · exact absurd incarnation.symm (Nat.ne_of_lt newer)

theorem Logged.step (logged : run.Logged) {op : ApiOp} (admitted : run.admits op = true) :
    (run.step op).Logged := by
  intro handle
  rcases logged handle with ⟨sound, fits⟩
  dsimp only [ProbeRun.step, logAfter]
  split
  · rename_i opened
    exact ⟨ProbeLog.sound_start, fun conn live => fits_opened admitted opened live⟩
  · rename_i same
    have incarnation := not_not.mp same
    cases present : run.host.engine.flowTable.get handle with
    | none =>
        refine ⟨sound, fun conn live => ?_⟩
        rw [absent_of_absent admitted incarnation present] at live
        cases live
    | some earlier =>
        have agrees := fits earlier present
        dsimp only
        refine ⟨sound.after agrees (Host.hears_heard run.host op handle earlier) _ _,
          fun conn live => ?_⟩
        rw [live, Option.any_some]
        exact fits_after admitted incarnation present agrees live

theorem logged_start (cfg : EngineConfig) (maxConnections eventSoftCap : ℕ) :
    (start cfg maxConnections eventSoftCap).Logged := by
  refine fun handle => ⟨ProbeLog.sound_start, fun conn live => ?_⟩
  have absent : (Host.start cfg maxConnections eventSoftCap).engine.flowTable.get handle =
      some conn := live
  rw [Host.get_start] at absent
  cases absent

/-- In every run, no more probes fire between two moves of `snd_una` than the budget of the
connection allows, it has one live probe timer at most, no probe has two DSACK blocks, and
`tx_tlp_spurious` counts no more of them than probes fired. -/
theorem probes_keep_to_budget {cfg : EngineConfig} {maxConnections eventSoftCap : ℕ}
    (reached : Run.Reaches step (fun run op => run.admits op = true)
      (start cfg maxConnections eventSoftCap) run) (handle : ConnHandle) :
    (∀ conn, run.host.engine.flowTable.get handle = some conn →
        (run.log handle).sinceAdvance ≤ conn.tlpMaxConsecutiveProbes) ∧
      (∀ first second node other, run.host.engine.timerWheel.Live first node →
        run.host.engine.timerWheel.Live second other → node.kind = .tlp → other.kind = .tlp →
        node.ownerHandle = handle → other.ownerHandle = handle → first = second) ∧
      (run.log handle).attributed.Nodup ∧
      (∀ number ∈ (run.log handle).attributed, number < (run.log handle).fired) ∧
      (run.log handle).spurious ≤ (run.log handle).attributed.length ∧
      (run.log handle).spurious ≤ (run.log handle).fired := by
  have invariant : run.host.Tethered ∧ run.Logged := by
    apply reached.invariant
    · exact ⟨Host.tethered_start cfg maxConnections eventSoftCap,
        logged_start cfg maxConnections eventSoftCap⟩
    · rintro run op ⟨tethered, logged⟩ admitted
      rcases Bool.and_eq_true_iff.mp (Bool.and_eq_true_iff.mp admitted).1 with ⟨running, inRound⟩
      exact ⟨tethered.apiStep running inRound, logged.step admitted⟩
  rcases invariant.2 handle with ⟨sound, fits⟩
  refine ⟨fun conn live => ?_, ?_, sound.once, sound.given, sound.counted, ?_⟩
  · exact (fits conn live).budget.trans (fits conn live).spent
  · intro first second node other live alive isProbe probes owner owns
    exact invariant.1.one_probe_timer live alive isProbe probes (owner.trans owns.symm)
  · have within : (run.log handle).attributed ⊆ List.range (run.log handle).fired :=
      fun number member => List.mem_range.mpr (sound.given number member)
    have bound := (sound.once.subperm within).length_le
    rw [List.length_range] at bound
    exact sound.counted.trans bound

/-- Four bytes are sent, a probe repeats them, and the peer reports them twice. -/
def probedTwice : List ApiOp :=
  [.system (.call (.connect ⟨0x0a000002#32, 40000, 0x0a000001#32, 5000⟩ 100#32 1460
      ⟨false, false, 0, 0, true, 2, true⟩ true 1000)),
    .system (.call (.segment 1
      { synAck 100#32 200#32 5000 with
        options := [OPT_MSS, 4, 5, 180, OPT_SACK_PERMITTED, 2, OPT_NOP, OPT_NOP] }
      none (inputAt 101000))),
    .system (.call (.advance 200000)), .system (.call (sendAt 200000 [1, 2, 3, 4] 7)),
    .system (.call (.advance 410000)),
    .system (.call (fireAt 410000 fun _ => none)),
    .system (.call (receiveAt 420000 201#32 105#32 TCP_ACK)),
    .system (.call (.segment 1
      { peerSegment 201#32 105#32 TCP_ACK 5000 [] with
        options := [OPT_NOP, OPT_NOP, OPT_SACK, 10, 0, 0, 0, 101, 0, 0, 0, 105] }
      none (inputAt 430000)))]

theorem probes_keep_to_budget_probedTwice :
    ∃ run : ProbeRun, (run.log 1).fired = 1 ∧ (run.log 1).attributed = [0] ∧
      (run.log 1).spurious = 1 ∧ (run.log 1).spurious ≤ (run.log 1).fired := by
  have admitted : Run.admits step admits (start quickCfg 1 64) probedTwice = true := by
    decide +kernel
  have probed : ((probedTwice.foldl step (start quickCfg 1 64)).log 1).fired = 1 ∧
      ((probedTwice.foldl step (start quickCfg 1 64)).log 1).attributed = [0] ∧
      ((probedTwice.foldl step (start quickCfg 1 64)).log 1).spurious = 1 := by
    decide +kernel
  have budget := probes_keep_to_budget (Run.Reaches.of_admits admitted) 1
  exact ⟨_, probed.1, probed.2.1, probed.2.2, budget.2.2.2.2.2⟩

end ProbeRun

end DpdkTcp
